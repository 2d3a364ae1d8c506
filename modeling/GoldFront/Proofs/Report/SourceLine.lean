import Mathlib.Data.List.DropRight
import GoldFront.Report.Diagnostic
import GoldFront.Report.Layout

namespace GoldFront.Report

/-- What ends a line, in front of the rest of a text: a carriage return and a line feed together, or
    one character by itself. -/
inductive Terminates : List Char → List Char → Prop
  | pair {rest : List Char} : Terminates ['\r', '\n'] rest
  | single {c : Char} {rest : List Char} (ends : isLineEnd c)
    (alone : c = '\r' → rest.head? ≠ some '\n') : Terminates [c] rest

/-- The lines of a text. None goes on behind its end, and only the last one may have no end. -/
inductive Cut : List Char → List (List Char) → Prop
  | nothing : Cut [] []
  | last {body : List Char} (some : body ≠ []) (unended : ∀ c ∈ body, ¬ isLineEnd c) : Cut body [body]
  | ended {body stop rest : List Char} {lines : List (List Char)} (unended : ∀ c ∈ body, ¬ isLineEnd c)
    (stops : Terminates stop rest) (others : Cut rest lines) :
    Cut (body ++ (stop ++ rest)) ((body ++ stop) :: lines)

theorem splitLines_unended {body : List Char} (some : body ≠ []) (unended : ∀ c ∈ body, ¬ isLineEnd c) :
    splitLines body = [body] := by
  induction body with
  | nil => exact absurd rfl some
  | cons c body ih =>
    obtain ⟨first, others⟩ := List.forall_mem_cons.1 unended
    have noReturn : c ≠ '\r' := by rintro rfl; exact first (by decide)
    rw [splitLines, if_neg first]
    · by_cases last : body = []
      · subst last; rfl
      · rw [ih last others]
    · intro _ same
      exact absurd same noReturn

theorem splitLines_ended {body stop rest : List Char} (unended : ∀ c ∈ body, ¬ isLineEnd c)
    (stops : Terminates stop rest) :
    splitLines (body ++ (stop ++ rest)) = (body ++ stop) :: splitLines rest := by
  induction body with
  | nil =>
    cases stops with
    | pair => rfl
    | @single c rest ends alone =>
      rw [List.nil_append, List.nil_append, List.singleton_append, splitLines, if_pos ends]
      rintro more rfl rfl
      exact alone rfl rfl
  | cons c body ih =>
    obtain ⟨first, others⟩ := List.forall_mem_cons.1 unended
    have noReturn : c ≠ '\r' := by rintro rfl; exact first (by decide)
    rw [List.cons_append, splitLines, if_neg first, ih others]
    · rfl
    · intro _ same
      exact absurd same noReturn

/-- A text has one list of lines. -/
theorem Cut.splitLines_eq {text : List Char} {lines : List (List Char)} (cut : Cut text lines) :
    splitLines text = lines := by
  induction cut with
  | nothing => rfl
  | last some unended => exact splitLines_unended some unended
  | ended unended stops _ ih => rw [splitLines_ended unended stops, ih]

theorem Cut.cons {c : Char} {text line : List Char} {lines : List (List Char)} (notEnd : ¬ isLineEnd c)
    (cut : Cut text (line :: lines)) : Cut (c :: text) ((c :: line) :: lines) := by
  cases cut with
  | last _ unended => exact .last (by simp) (List.forall_mem_cons.2 ⟨notEnd, unended⟩)
  | ended unended stops others => exact .ended (List.forall_mem_cons.2 ⟨notEnd, unended⟩) stops others

theorem Cut.empty {stop rest : List Char} {lines : List (List Char)} (stops : Terminates stop rest)
    (others : Cut rest lines) : Cut (stop ++ rest) (stop :: lines) := by
  have noBody : ∀ c ∈ ([] : List Char), ¬ isLineEnd c := by simp
  exact .ended noBody stops others

theorem cut_splitLines (text : List Char) : Cut text (splitLines text) := by
  fun_induction splitLines text with
  | case1 => exact .nothing
  | case2 rest ih => exact .empty .pair ih
  | case3 c rest noPair ends ih =>
    refine .empty (.single ends fun isReturn feeds => ?_) ih
    obtain ⟨more, rfl⟩ := List.head?_eq_some_iff.1 feeds
    exact noPair more isReturn rfl
  | case4 c rest _ notEnd none ih =>
    have noRest : rest = [] := by rw [← flatten_splitLines rest, none]; rfl
    subst noRest
    exact .last (by simp) (by simpa using notEnd)
  | case5 c rest _ notEnd line lines found ih => exact (found ▸ ih).cons notEnd

/-- The offsets behind the characters that end a line, a carriage return and a line feed together. -/
def lineEnds (offset : Nat) : List Char → List Nat
  | [] => []
  | '\r' :: '\n' :: rest => (offset + 2) :: lineEnds (offset + 2) rest
  | c :: rest =>
    if isLineEnd c then (offset + 1) :: lineEnds (offset + 1) rest else lineEnds (offset + 1) rest

/-- The number of the line in which an offset lies, counted from one. -/
def lineNumber (source : List Char) (offset : Nat) : Nat :=
  1 + (lineEnds 0 source).countP (· ≤ offset)

/-- Where the line starts in which an offset lies. -/
def lineStart (source : List Char) (offset : Nat) : Nat :=
  ((lineEnds 0 source).filter (· ≤ offset)).getLast?.getD 0

/-- Where the line stops in which an offset lies. -/
def lineStop (source : List Char) (offset : Nat) : Nat :=
  ((lineEnds 0 source).find? (offset < ·)).getD source.length

/-- The place of an offset in its line, counted from one. -/
def columnNumber (source : List Char) (offset : Nat) : Nat := 1 + (offset - lineStart source offset)

/-- The text of the line in which an offset lies, with the characters that end it. -/
def lineText (source : List Char) (offset : Nat) : List Char :=
  (source.take (lineStop source offset)).drop (lineStart source offset)

namespace SourceLine

/-- The line in which an offset of a source lies. -/
def ofOffset (source : List Char) (offset : Nat) : SourceLine :=
  ⟨lineNumber source offset, lineStart source offset, lineText source offset⟩

theorem length_columnsFrom (place : Nat) (text : List Char) (count : Nat) :
    (columnsFrom place text count).length = count := by
  induction count generalizing place text with
  | zero => simp [columnsFrom]
  | succ count ih => cases text <;> simp [columnsFrom, ih]

theorem columnsFrom_add (place : Nat) (text : List Char) (count more : Nat) :
    columnsFrom place text (count + more) =
      columnsFrom place text count ++ columnsFrom (place + count) (text.drop count) more := by
  induction count generalizing place text with
  | zero => simp [columnsFrom]
  | succ count ih =>
    have places : place + (count + 1) = place + 1 + count := by omega
    rw [Nat.add_right_comm, places]
    cases text with
    | nil => simp [columnsFrom, ih]
    | cons c rest => simp [columnsFrom, ih]

theorem glyphWidth_of_columns {c : Char} {place : Nat} (noColumn : Text.columns c place = 0) :
    Text.glyphWidth c = 0 := by
  unfold Text.columns at noColumn
  split at noColumn
  · omega
  · split at noColumn
    · simp at noColumn
    · exact noColumn

/-- Only a character that takes no column has none. -/
theorem columns_split (line : SourceLine) {i count : Nat} (inside : i < count) : ∃ width back,
    line.columns count = line.columns i ++ width :: back ∧
      (width = 0 → ∃ c, line.text[i]? = some c ∧ Text.glyphWidth c = 0) := by
  obtain ⟨more, rfl⟩ : ∃ more, count = i + (more + 1) := ⟨count - i - 1, by omega⟩
  rw [columns, columnsFrom_add]
  cases tail : line.shown.drop i with
  | nil => exact ⟨1, _, rfl, by simp⟩
  | cons c rest =>
    refine ⟨Text.columns c (0 + i), _, rfl, fun noColumn => ⟨c, ?_, glyphWidth_of_columns noColumn⟩⟩
    have found : line.shown[i]? = some c := by rw [← List.head?_drop, tail, List.head?_cons]
    obtain ⟨blanks, whole⟩ : line.shown <+: line.text :=
      List.rdropWhile_prefix Text.isBlank line.text
    rw [← whole, List.getElem?_append_left (List.getElem?_eq_some_iff.1 found).1]
    exact found

theorem place_append (number start : Nat) (before after : List (List Char)) :
    place number start (before ++ after) =
      place number start before ++
        place (number + before.length) (start + before.flatten.length) after := by
  induction before generalizing number start with
  | nil => rfl
  | cons text before ih =>
    simp only [List.cons_append, place, ih, List.flatten_cons, List.length_append, List.length_cons]
    congr 3
    · omega
    · omega

theorem length_place (number start : Nat) (texts : List (List Char)) :
    (place number start texts).length = texts.length := by
  induction texts generalizing number start with
  | nil => rfl
  | cons text texts ih => simp [place, ih]

theorem bounds_of_mem_place {number start : Nat} {texts : List (List Char)} :
    ∀ line ∈ place number start texts,
      start ≤ line.start ∧ line.start ≤ line.stop ∧ line.stop ≤ start + texts.flatten.length := by
  induction texts generalizing number start with
  | nil => simp [place]
  | cons text texts ih =>
    simp only [place, List.forall_mem_cons, List.flatten_cons, List.length_append, stop]
    refine ⟨by omega, fun line member => ?_⟩
    have := ih line member
    simp only [stop] at this
    omega

theorem text_mem_of_mem_place {number start : Nat} {texts : List (List Char)} {line : SourceLine}
    (member : line ∈ place number start texts) : line.text ∈ texts := by
  induction texts generalizing number start with
  | nil => simp [place] at member
  | cons text texts ih =>
    rcases List.mem_cons.1 member with rfl | later
    · exact List.mem_cons_self
    · exact List.mem_cons_of_mem text (ih later)

/-- A line is made of characters of its source. -/
theorem mem_of_at? {source : List Char} {offset : Nat} {line : SourceLine}
    (found : at? source offset = some line) {c : Char} (member : c ∈ line.text) : c ∈ source := by
  unfold at? at found
  split at found
  · have listed := (List.mem_filter.1 (List.mem_of_getLast? found)).1
    rw [← flatten_splitLines source]
    exact List.mem_flatten_of_mem (text_mem_of_mem_place listed) member
  · exact absurd found (by simp)

/-- The line that holds an offset splits the lines into those that end up to the offset and those
    that start behind it. -/
theorem exists_split {offset : Nat} {texts : List (List Char)} (inside : offset < texts.flatten.length) :
    ∃ before text after, texts = before ++ text :: after ∧ before.flatten.length ≤ offset ∧
      offset < before.flatten.length + text.length := by
  induction texts generalizing offset with
  | nil => simp at inside
  | cons text texts ih =>
    by_cases first : offset < text.length
    · exact ⟨[], text, texts, rfl, by simp, by simpa using first⟩
    · rw [List.flatten_cons, List.length_append] at inside
      obtain ⟨before, other, after, rfl, low, high⟩ := @ih (offset - text.length) (by omega)
      refine ⟨text :: before, other, after, rfl, ?_, ?_⟩
      · rw [List.flatten_cons, List.length_append]
        omega
      · rw [List.flatten_cons, List.length_append]
        omega

/-- The lines stop where they are ended, and the last one may stop with the text. -/
theorem map_stop_place (number start : Nat) (text : List Char) : ∃ unended,
    (place number start (splitLines text)).map stop = lineEnds start text ++ unended ∧
      ∀ offset ∈ unended, offset = start + text.length := by
  fun_induction splitLines text generalizing number start with
  | case1 => exact ⟨[], rfl, by simp⟩
  | case2 rest ih =>
    obtain ⟨unended, stops, last⟩ := ih (number + 1) (start + 2)
    refine ⟨unended, ?_, fun offset member => ?_⟩
    · simpa [place, lineEnds, stop] using stops
    · rw [last offset member, List.length_cons, List.length_cons]
      omega
  | case3 c rest noPair ends ih =>
    obtain ⟨unended, stops, last⟩ := ih (number + 1) (start + 1)
    refine ⟨unended, ?_, fun offset member => ?_⟩
    · rw [lineEnds, if_pos ends]
      · simpa [place, stop] using stops
      · exact noPair
    · rw [last offset member, List.length_cons]
      omega
  | case4 c rest noPair notEnd none ih =>
    have noRest : rest = [] := by rw [← flatten_splitLines rest, none]; rfl
    refine ⟨[start + 1], ?_, by simp [noRest]⟩
    rw [lineEnds, if_neg notEnd, noRest]
    · rfl
    · exact noPair
  | case5 c rest noPair notEnd line lines found ih =>
    obtain ⟨unended, stops, last⟩ := ih number (start + 1)
    refine ⟨unended, ?_, fun offset member => ?_⟩
    · rw [lineEnds, if_neg notEnd, ← stops, found]
      · simp [place, stop, Nat.add_comm, Nat.add_left_comm]
      · exact noPair
    · rw [last offset member, List.length_cons]
      omega

theorem getLast?_map_stop_place (number start : Nat) (texts : List (List Char)) :
    ((place number start texts).map stop).getLast?.getD start = start + texts.flatten.length := by
  induction texts generalizing number start with
  | nil => rfl
  | cons text texts ih =>
    rw [place, List.map_cons, List.getLast?_cons, Option.getD_some, List.flatten_cons,
      List.length_append, ← Nat.add_assoc]
    exact ih (number + 1) (start + text.length)

section Split

variable {source text : List Char} {before after : List (List Char)} {offset : Nat}

theorem length_of_split (split : splitLines source = before ++ text :: after) :
    before.flatten.length + text.length ≤ source.length := by
  rw [← flatten_splitLines source, split]
  simp only [List.flatten_append, List.flatten_cons, List.length_append]
  omega

variable (split : splitLines source = before ++ text :: after)
  (low : before.flatten.length ≤ offset) (high : offset < before.flatten.length + text.length)
include split low high

/-- The line that holds an offset is the last one that starts up to it. -/
theorem at?_of_split : at? source offset = some ⟨1 + before.length, before.flatten.length, text⟩ := by
  have size := length_of_split split
  have early : ∀ line ∈ place 1 0 before, line.start ≤ offset := fun line member => by
    have := bounds_of_mem_place line member
    omega
  have late : ∀ line ∈ place (1 + before.length + 1) (0 + before.flatten.length + text.length) after,
      ¬ line.start ≤ offset := fun line member => by
    have := bounds_of_mem_place line member
    omega
  rw [at?, if_pos (by omega), all, split, place_append, place, List.filter_append,
    List.filter_cons_of_pos (by simpa using low), List.filter_eq_self.2 (by simpa using early),
    List.filter_eq_nil_iff.2 (by simpa using late), List.getLast?_concat, Nat.zero_add]

/-- The line ends up to an offset are those of the lines before its own, and the next one is that of
    its own line, which may stop with the source. -/
theorem lineEnds_of_split :
    (lineEnds 0 source).filter (· ≤ offset) = (place 1 0 before).map stop ∧
      lineStop source offset = before.flatten.length + text.length := by
  have size := length_of_split split
  have early : ∀ passed ∈ (place 1 0 before).map stop, passed ≤ offset :=
    List.forall_mem_map.2 fun line member => by
      have := bounds_of_mem_place line member
      omega
  have late : ∀ later ∈ (place (1 + before.length + 1) (0 + before.flatten.length + text.length)
      after).map stop, ¬ later ≤ offset := List.forall_mem_map.2 fun line member => by
    have := bounds_of_mem_place line member
    omega
  obtain ⟨unended, stops, last⟩ := map_stop_place 1 0 source
  rw [Nat.zero_add] at last
  have beyond : ∀ later ∈ unended, ¬ later ≤ offset := fun later member => by
    rw [last later member]
    omega
  rw [split, place_append, place, List.map_append, List.map_cons, stop, Nat.zero_add] at stops
  constructor
  · have noneUnended : unended.filter (· ≤ offset) = [] :=
      List.filter_eq_nil_iff.2 (by simpa using beyond)
    have filtered := congrArg (List.filter (· ≤ offset)) stops
    rw [List.filter_append, List.filter_append, noneUnended, List.append_nil,
      List.filter_eq_self.2 (by simpa using early), List.filter_cons_of_neg (by simpa using high),
      List.filter_eq_nil_iff.2 (by simpa using late), List.append_nil] at filtered
    exact filtered.symm
  · have noneEarly : ((place 1 0 before).map stop).find? (offset < ·) = none :=
      List.find?_eq_none.2 (by simpa using early)
    have found := congrArg (List.find? (offset < ·)) stops
    rw [List.find?_append, List.find?_append, noneEarly, Option.none_or,
      List.find?_cons_of_pos (by simpa using high)] at found
    rw [lineStop]
    cases ended : (lineEnds 0 source).find? (offset < ·) with
    | some next =>
      rw [ended, Option.some_or] at found
      exact (Option.some.inj found).symm
    | none =>
      -- The line is the last one, and nothing ends it.
      rw [ended, Option.none_or] at found
      exact (last _ (List.mem_of_find?_eq_some found.symm)).symm

/-- The line that holds an offset is known by the line ends. -/
theorem eq_of_split :
    SourceLine.mk (1 + before.length) before.flatten.length text = ofOffset source offset ∧
      lineStop source offset = before.flatten.length + text.length := by
  obtain ⟨ends, stops⟩ := lineEnds_of_split split low high
  have start := getLast?_map_stop_place 1 0 before
  have whole := flatten_splitLines source
  rw [split, List.flatten_append, List.flatten_cons, ← List.append_assoc] at whole
  refine ⟨?_, stops⟩
  rw [ofOffset, lineText, lineNumber, lineStart, stops, List.countP_eq_length_filter, ends, start,
    List.length_map, length_place, Nat.zero_add, ← whole, ← List.length_append, List.take_left,
    List.drop_left]

end Split

/-- An offset in a source lies in the line that starts at the last line end up to it and stops at
    the next one. -/
theorem at?_eq_some {source : List Char} {offset : Nat} (inside : offset < source.length) :
    at? source offset = some (ofOffset source offset) ∧
      (ofOffset source offset).start ≤ offset ∧ offset < (ofOffset source offset).stop ∧
      (ofOffset source offset).stop = lineStop source offset ∧
      lineStop source offset ≤ source.length := by
  rw [← flatten_splitLines source] at inside
  obtain ⟨before, text, after, split, low, high⟩ := exists_split inside
  obtain ⟨line, stops⟩ := eq_of_split split low high
  rw [at?_of_split split low high, ← line, stops]
  exact ⟨rfl, low, high, rfl, length_of_split split⟩

/-- Lines of one number are one line. -/
theorem ofOffset_eq_of_number {source : List Char} {offset other : Nat}
    (inside : offset < source.length) (otherInside : other < source.length)
    (same : lineNumber source offset = lineNumber source other) :
    ofOffset source offset = ofOffset source other := by
  rw [← flatten_splitLines source] at inside otherInside
  obtain ⟨before, text, after, split, low, high⟩ := exists_split inside
  obtain ⟨first, second, rest, otherSplit, otherLow, otherHigh⟩ := exists_split otherInside
  have line := (eq_of_split split low high).1
  have otherLine := (eq_of_split otherSplit otherLow otherHigh).1
  have lengths : before.length = first.length := by
    have number := congrArg number line
    have otherNumber := congrArg SourceLine.number otherLine
    simp only [ofOffset] at number otherNumber
    omega
  obtain ⟨rfl, tail⟩ := List.append_inj (split.symm.trans otherSplit) lengths
  obtain ⟨rfl, _⟩ := List.cons.inj tail
  rw [← line, ← otherLine]

theorem at?_isSome_iff {source : List Char} {offset : Nat} :
    (at? source offset).isSome ↔ source ≠ [] ∧ offset ≤ source.length := by
  cases source with
  | nil => simp [at?, all, splitLines, place]
  | cons c rest =>
    have lines : splitLines (c :: rest) ≠ [] := fun none => by
      have whole := flatten_splitLines (c :: rest)
      simp [none] at whole
    obtain ⟨line, texts, found⟩ := List.exists_cons_of_ne_nil lines
    rw [at?]
    split
    · next inside =>
      rw [all, found, place, List.filter_cons_of_pos (by simp), List.getLast?_cons]
      simpa using inside
    · next beyond => simpa using beyond

end SourceLine

/-- A character stands in a line of a text, behind the lines before it. -/
def StandsIn (lines : List (List Char)) (offset : Nat) (before : List (List Char)) (line : List Char) :
    Prop :=
  ∃ after, lines = before ++ line :: after ∧ before.flatten.length ≤ offset ∧
    offset < before.flatten.length + line.length

theorem exists_standsIn {source : List Char} {offset : Nat} (inside : offset < source.length) :
    ∃ before line, StandsIn (splitLines source) offset before line := by
  rw [← flatten_splitLines source] at inside
  obtain ⟨before, line, after, split, low, high⟩ := SourceLine.exists_split inside
  exact ⟨before, line, after, split, low, high⟩

/-- What is to be found about a report in the lines of its source: the line and the column of its
    place, the line in which its label starts, and the number of the line in which it ends. -/
structure Bearings where
  line : Nat
  column : Nat
  first : Nat
  text : List Char
  last : Nat

/-- The bearings of a sheet, by the lines in which its characters stand. -/
inductive Sheet.Bears (sheet : Sheet) (lines : List (List Char)) : Bearings → Prop
  | stands {front line before text above below : _}
    (place : StandsIn lines sheet.place front line)
    (starts : StandsIn lines sheet.range.start before text)
    (ends : StandsIn lines (sheet.range.stop - 1) above below) :
    sheet.Bears lines ⟨front.length + 1, sheet.place - front.flatten.length + 1, before.length + 1, text,
      above.length + 1⟩

/-- The bearings of a sheet, by the ends of lines. -/
def Sheet.bearings (sheet : Sheet) (source : List Char) : Bearings where
  line := lineNumber source sheet.place
  column := columnNumber source sheet.place
  first := lineNumber source sheet.range.start
  text := lineText source sheet.range.start
  last := lineNumber source (sheet.range.stop - 1)

section Bearings

variable {sheet : Sheet} {source : List Char}

theorem StandsIn.eq {offset : Nat} {before : List (List Char)} {line : List Char}
    (stands : StandsIn (splitLines source) offset before line) :
    before.length + 1 = lineNumber source offset ∧
      before.flatten.length = lineStart source offset ∧ line = lineText source offset := by
  obtain ⟨after, split, low, high⟩ := stands
  have same := (SourceLine.eq_of_split split low high).1
  simp only [SourceLine.ofOffset, SourceLine.mk.injEq] at same
  rw [Nat.add_comm]
  exact same

theorem Sheet.Bears.eq {bearings : Bearings} (bears : sheet.Bears (splitLines source) bearings) :
    bearings = sheet.bearings source := by
  cases bears with
  | stands place starts ends =>
    rw [place.eq.1, place.eq.2.1, starts.eq.1, starts.eq.2.2, ends.eq.1, Nat.add_comm (_ - _)]
    rfl

theorem StandsIn.lt {offset : Nat} {before : List (List Char)} {line : List Char}
    (stands : StandsIn (splitLines source) offset before line) : offset < source.length := by
  obtain ⟨after, split, low, high⟩ := stands
  have := SourceLine.length_of_split split
  omega

theorem Sheet.Bears.inside {bearings : Bearings} (bears : sheet.Bears (splitLines source) bearings) :
    sheet.place < source.length ∧ sheet.range.stop - 1 < source.length := by
  cases bears with
  | stands place starts ends => exact ⟨place.lt, ends.lt⟩

/-- A sheet about characters of its source has bearings. -/
theorem Sheet.bears (place : sheet.place < source.length)
    (nonempty : sheet.range.start < sheet.range.stop) (inside : sheet.range.stop ≤ source.length) :
    sheet.Bears (splitLines source) (sheet.bearings source) := by
  obtain ⟨_, _, placed⟩ := exists_standsIn place
  obtain ⟨_, _, starts⟩ := exists_standsIn (Nat.lt_of_lt_of_le nonempty inside)
  obtain ⟨_, _, ends⟩ :=
    exists_standsIn (Nat.lt_of_lt_of_le (Nat.sub_one_lt_of_lt nonempty) inside)
  have bears := Bears.stands placed starts ends
  rwa [bears.eq] at bears

end Bearings

end GoldFront.Report
