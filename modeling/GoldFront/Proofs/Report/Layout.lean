import Mathlib.Algebra.GroupWithZero.Nat
import GoldFront.Proofs.Report.SourceLine
import GoldFront.Report.Layout

/-!
What the theorems about reports ask of a renderer: that it cuts a source into its lines, and that
its report about characters of the source is a full one (`FullReport`, `Renderer.Frames`). The
renderer that draws reports in a frame does so (`Renderer.frames_framed`).
-/

namespace GoldFront.Report

/-- What is shown of source text: blanks as spaces, and all else as it is. -/
inductive Shown : List Char → List Char → Prop
  | nothing : Shown [] []
  | blank {c : Char} {text shown : List Char} (isBlank : Text.isBlank c) {count : Nat}
    (wide : 0 < count) (others : Shown text shown) : Shown (c :: text) (spaces count ++ shown)
  | glyph {c : Char} {text shown : List Char} (noBlank : ¬ Text.isBlank c)
    (others : Shown text shown) : Shown (c :: text) (c :: shown)

/-- An arrow: a corner and the line that leads on from it. Where it is faint the corner may be missing. -/
inductive Arrow (faint : Prop) : List Char → Prop
  | cornered (indent length : Nat) : Arrow faint (spaces indent ++ '╰' :: List.replicate length '─')
  | cut (indent length : Nat) (isFaint : faint) :
    Arrow faint (spaces indent ++ List.replicate length '─')

/-- The lines of a note. -/
inductive Noted : Option (List Char) → List (List Char) → Prop
  | nothing : Noted none []
  | note {text margin : List Char} (space : List Char) (blank : ∀ c ∈ margin, c = ' ' ∨ c = '│') :
    Noted (some text) [space, margin ++ "Note: ".toList ++ text]

/-- The lines of a full report: the title, the place by file, line and column, the line of the
    source in which the label starts behind its number, the arrow that ends in the message, and the
    note. A bracket stands in front of the source text where the label goes on in other lines. -/
inductive FullReport (file title message : List Char) (note : Option (List Char)) (bearings : Bearings)
    (faint : Prop) : List (List Char) → Prop
  | lines (indent margin width : Nat) {shown lead : List Char} {notes : List (List Char)}
    (bar footer : List Char) (others : List (List Char))
    (source : Shown (Text.trimEnd bearings.text) shown) (arrow : Arrow faint lead)
    (noted : Noted note notes) :
    FullReport file title message note bearings faint
      ([ "Error: ".toList ++ title,
        spaces indent ++ "╭─[".toList ++ file ++ ':' :: Nat.toDigits 10 bearings.line ++
          ':' :: Nat.toDigits 10 bearings.column ++ [']'],
        bar,
        ' ' :: spaces margin ++ Nat.toDigits 10 bearings.first ++ " │ ".toList ++
          (if bearings.first = bearings.last then [] else "╭─▶ ".toList) ++ shown] ++
        others ++ [' ' :: spaces width ++ "│ ".toList ++ lead ++ ' ' :: message] ++ notes ++ [footer])

/-- A line without its colours. -/
def Row.text (row : Row) : List Char := row.flatMap Piece.text

/-- No column is taken by the character in the middle of a range. -/
def Renderer.IsFaint (renderer : Renderer) (source : List Char) (range : CharRange) : Prop :=
  ∃ c, source[(range.start + range.stop) / 2]? = some c ∧ renderer.width c = 0

/-- The layout of reports: the lines of a source are its lines, and where the characters of a label
    and of its place stand in them, the report is a full one with their bearings. -/
structure Renderer.Frames (renderer : Renderer) : Prop where
  cuts : ∀ source, Cut source (renderer.lines source)
  draws : ∀ color sheet source bearings, sheet.Bears (renderer.lines source) bearings →
    sheet.range.start < sheet.range.stop →
    FullReport sheet.file sheet.title sheet.message sheet.note bearings
      (renderer.IsFaint source sheet.range) ((renderer.rows color sheet source).map Row.text)

/-- A report about characters of a source is a full one, with the bearings that the ends of lines
    give. -/
theorem Renderer.Frames.fullReport {renderer : Renderer} (frames : renderer.Frames) (color : Bool)
    (sheet : Sheet) (source : List Char) (place : sheet.place < source.length)
    (nonempty : sheet.range.start < sheet.range.stop) (inside : sheet.range.stop ≤ source.length) :
    FullReport sheet.file sheet.title sheet.message sheet.note (sheet.bearings source)
      (renderer.IsFaint source sheet.range) ((renderer.rows color sheet source).map Row.text) := by
  refine frames.draws color sheet source _ ?_ nonempty
  rw [← (frames.cuts source).splitLines_eq]
  exact Sheet.bears place nonempty inside

namespace Row

@[simp] theorem text_nil : text [] = [] := rfl

@[simp] theorem text_cons (piece : Piece) (row : Row) : text (piece :: row) = piece.text ++ row.text :=
  rfl

@[simp] theorem text_append (row more : Row) : text (row ++ more) = row.text ++ more.text :=
  List.flatMap_append

theorem text_replicate {piece : Piece} {c : Char} (single : piece.text = [c]) (count : Nat) :
    text (List.replicate count piece) = List.replicate count c := by
  induction count with
  | zero => rfl
  | succ count ih => rw [List.replicate_succ, text_cons, single, ih, List.replicate_succ]; rfl

end Row

@[simp] theorem Piece.text_plain (text : List Char) : (plain text).text = text := rfl

@[simp] theorem Piece.text_themed (hue : Hue) (text : List Char) : (themed hue text).text = text := rfl

theorem Piece.tone_true : tone true = id := rfl

theorem Piece.tone_false : tone false = undyed := rfl

@[simp] theorem Piece.text_tone (color : Bool) (piece : Piece) : (piece.tone color).text = piece.text := by
  cases color <;> rfl

theorem Row.text_tone (color : Bool) (row : Row) : text (row.map (Piece.tone color)) = row.text := by
  simp [text, List.flatMap_map]

namespace Label

variable (label : Label)

@[simp] theorem text_stroke (c : Char) : (label.stroke c).text = [c] := rfl

theorem text_numbered (line : SourceLine) : (label.numbered line).text =
    ' ' :: (spaces (label.numberWidth - (Nat.toDigits 10 line.number).length) ++
      Nat.toDigits 10 line.number ++ [' ', '│', ' ']) := by
  simp [numbered]

theorem text_unnumbered (rule : Char) : (label.unnumbered rule).text =
    ' ' :: (spaces (label.numberWidth + 1) ++ [rule, ' ']) := by
  simp [unnumbered]

theorem text_bracket (corner : Char) : (label.bracket corner).text = [corner, '─', '▶', ' '] := rfl

/-- Beside a bracket the margin of a note leaves room for it. -/
theorem exists_noteMargin (source : List Char) : ∃ beside,
    label.noteMargin source = label.side ++ beside ∧
      (beside = [] ∨ beside = [label.stroke '│', .plain (spaces 3)] ∨
        beside = [.plain [' '], .plain (spaces 3)]) := by
  refine ⟨_, rfl, ?_⟩
  by_cases inline : label.isInline = true
  · exact .inl (if_pos inline)
  · rw [if_neg inline]
    by_cases reach : (SourceLine.all source).head?.map (·.text.length) = some label.range.start
    · exact .inr (.inl (by simp [reach]))
    · exact .inr (.inr (by simp [reach]))

theorem columns_pos_of_isBlank {c : Char} (blank : Text.isBlank c) (place : Nat) :
    0 < Text.columns c place := by
  rw [Text.columns]
  by_cases tab : c = '\t'
  · rw [if_pos tab]
    omega
  · rw [if_neg tab, if_pos blank]
    exact Nat.one_pos

theorem shown_bodyFrom (start place : Nat) (text : List Char) :
    Shown text (label.bodyFrom start place text).text := by
  induction text generalizing place with
  | nil => exact .nothing
  | cons c rest ih =>
    rw [bodyFrom, Row.text_append]
    by_cases blank : Text.isBlank c
    · simp only [blank, if_true]
      rw [Row.text_replicate rfl]
      exact .blank blank (columns_pos_of_isBlank blank place) (ih (place + 1))
    · simp only [blank]
      exact .glyph blank (ih (place + 1))

theorem text_under {glyph tail : Piece} {c d : Char} (first : glyph.text = [c])
    (further : tail.text = [d]) (columns : Nat) : (under columns glyph tail).text =
      if columns = 0 then [] else c :: List.replicate (columns - 1) d := by
  cases columns with
  | zero => rfl
  | succ count => simp [under, first, Row.text_replicate further]

theorem text_under_same {glyph : Piece} {c : Char} (single : glyph.text = [c]) (columns : Nat) :
    (under columns glyph glyph).text = List.replicate columns c := by
  cases columns with
  | zero => rfl
  | succ count => simp [under, single, Row.text_replicate single, List.replicate_succ]

/-- Places that are drawn with one character each. -/
theorem text_flatMap_zipIdx {columns : List Nat} {start : Nat} {drawn : Nat × Nat → Row} {c : Char}
    (same : ∀ width place, start ≤ place → place < start + columns.length →
      (drawn (width, place)).text = List.replicate width c) :
    Row.text ((columns.zipIdx start).flatMap drawn) = List.replicate columns.sum c := by
  induction columns generalizing start with
  | nil => rfl
  | cons width columns ih =>
    rw [List.zipIdx_cons, List.flatMap_cons, Row.text_append, List.sum_cons,
      ← List.replicate_append_replicate, same width start (Nat.le_refl start) (by simp), ih]
    intro other place low high
    refine same other place (by omega) ?_
    rw [List.length_cons]
    omega

/-- One place of the arrow. -/
def arrowAt (place : Nat × Nat) : Row :=
  if place.2 < label.middle then under place.1 (.plain [' ']) (.plain [' '])
  else if place.2 = label.middle then under place.1 (label.stroke '╰') (label.stroke '─')
  else under place.1 (label.stroke '─') (label.stroke '─')

theorem arrow_eq : label.arrow = label.places.flatMap label.arrowAt := rfl

/-- The arrow goes to the right from a corner below the middle of the label. There is no corner
    where the character there takes no column. -/
theorem text_arrow {front back : List Nat} {width : Nat} (middle : front.length = label.middle)
    (places : label.first.columns (label.range.stop - label.first.start + 2) = front ++ width :: back) :
    label.arrow.text = spaces front.sum ++
      ((if width = 0 then [] else '╰' :: List.replicate (width - 1) '─') ++
        List.replicate back.sum '─') := by
  have before : ∀ columns place, 0 ≤ place → place < 0 + front.length →
      (label.arrowAt (columns, place)).text = List.replicate columns ' ' := by
    intro columns place _ inside
    rw [arrowAt, if_pos (by omega)]
    exact text_under_same rfl columns
  have behind : ∀ columns place, 0 + front.length + 1 ≤ place →
      place < 0 + front.length + 1 + back.length →
        (label.arrowAt (columns, place)).text = List.replicate columns '─' := by
    intro columns place beyond _
    rw [arrowAt, if_neg (by omega), if_neg (by omega)]
    exact text_under_same rfl columns
  have corner : (label.arrowAt (width, 0 + front.length)).text =
      if width = 0 then [] else '╰' :: List.replicate (width - 1) '─' := by
    rw [arrowAt, if_neg (by omega), if_pos (by omega)]
    exact text_under rfl rfl width
  rw [arrow_eq, Label.places, places, List.zipIdx_append, List.zipIdx_cons, List.flatMap_append,
    List.flatMap_cons, Row.text_append, Row.text_append, text_flatMap_zipIdx before,
    text_flatMap_zipIdx behind, corner]
  rfl

theorem noteRows_some (source text : List Char) : label.noteRows source (some text) =
    [label.noteMargin source, label.noteMargin source ++
      [.themed .note ['N', 'o', 't', 'e'], .plain [':', ' '], .plain text]] := rfl

end Label

namespace Label

variable {source : List Char} {label : Label}

/-- The label covers characters of the source, and has the lines of the first and of the last one. -/
structure Marks (label : Label) (source : List Char) : Prop where
  nonempty : label.range.start < label.range.stop
  inside : label.range.stop ≤ source.length
  first : label.first = .ofOffset source label.range.start
  last : label.last = .ofOffset source (label.range.stop - 1)

/-- The label starts in its first line. -/
theorem Marks.first_bounds (marks : label.Marks source) :
    label.first.start = lineStart source label.range.start ∧
      label.first.start ≤ label.range.start ∧
      label.first.stop = lineStop source label.range.start := by
  have starts : label.range.start < source.length :=
    Nat.lt_of_lt_of_le marks.nonempty marks.inside
  obtain ⟨_, low, _, stops, _⟩ := SourceLine.at?_eq_some starts
  rw [marks.first]
  exact ⟨rfl, low, stops⟩

theorem Marks.holds_last (marks : label.Marks source) :
    label.last.holds (label.range.stop - 1) = true := by
  have ends : label.range.stop - 1 < source.length :=
    Nat.lt_of_lt_of_le (Nat.sub_one_lt_of_lt marks.nonempty) marks.inside
  obtain ⟨_, low, high, _⟩ := SourceLine.at?_eq_some ends
  rw [marks.last]
  simp [SourceLine.holds, low, high]

/-- A label on one line does not end beyond it. -/
theorem Marks.stop_le_of_isInline (marks : label.Marks source) (inline : label.isInline = true) :
    label.range.stop ≤ label.first.stop := by
  have := marks.nonempty
  have := marks.inside
  have numbers : lineNumber source label.range.start = lineNumber source (label.range.stop - 1) := by
    rw [isInline, marks.first, marks.last] at inline
    exact of_decide_eq_true inline
  have same := SourceLine.ofOffset_eq_of_number (by omega) (by omega) numbers
  have holds := marks.holds_last
  rw [marks.last, ← same, ← marks.first] at holds
  simp only [SourceLine.holds, Bool.and_eq_true, decide_eq_true_eq] at holds
  omega

theorem text_side : label.side.text = ' ' :: spaces (label.numberWidth + 1) ++ ['│', ' '] := by
  rw [side, text_unnumbered, List.cons_append]

/-- The arrow of a label on one line is faint only where the character in the middle of the label
    takes no column. -/
theorem Marks.arrow_arrow (marks : label.Marks source) (inline : label.isInline = true) :
    Arrow (Renderer.framed.IsFaint source label.range) label.arrow.text := by
  obtain ⟨start, low, stops⟩ := marks.first_bounds
  have nonempty := marks.nonempty
  have within := marks.stop_le_of_isInline inline
  have inMiddle : label.middle < label.range.stop - label.first.start + 2 := by
    rw [middle]
    omega
  have place : lineStart source label.range.start + label.middle =
      (label.range.start + label.range.stop) / 2 := by
    rw [middle]
    omega
  have inLine : (label.range.start + label.range.stop) / 2 < lineStop source label.range.start := by
    omega
  obtain ⟨width, back, places, noColumn⟩ := label.first.columns_split inMiddle
  have drawn := label.text_arrow (SourceLine.length_columnsFrom _ _ _) places
  by_cases wide : width = 0
  · rw [if_pos wide, List.nil_append] at drawn
    obtain ⟨c, found, glyph⟩ := noColumn wide
    rw [marks.first, SourceLine.ofOffset, lineText, List.getElem?_drop, place,
      List.getElem?_take_of_lt inLine] at found
    rw [drawn]
    exact .cut _ _ ⟨c, found, glyph⟩
  · rw [if_neg wide, List.cons_append, List.replicate_append_replicate] at drawn
    rw [drawn]
    exact .cornered _ _

/-- The margin of a note is blank but for its lines. -/
theorem noteMargin_blank (label : Label) (source : List Char) :
    ∀ c ∈ (label.noteMargin source).text, c = ' ' ∨ c = '│' := by
  obtain ⟨beside, margin, besides⟩ := label.exists_noteMargin source
  rw [margin, Row.text_append, text_side]
  rcases besides with rfl | rfl | rfl
  · simp [spaces]
  · simp [spaces]
  · simp [spaces]

theorem noted_noteRows (label : Label) (source : List Char) (note : Option (List Char)) :
    Noted note ((label.noteRows source note).map Row.text) := by
  cases note with
  | none => exact .nothing
  | some text =>
    have margin := label.noteMargin_blank source
    rw [noteRows_some, List.map_cons, List.map_singleton, Row.text_append]
    simpa using (.note (label.noteMargin source).text margin : Noted (some text) _)

end Label

section Framed

variable {sheet : Sheet} {source : List Char}

/-- The label of a sheet about characters of a source. -/
theorem Sheet.exists_label (nonempty : sheet.range.start < sheet.range.stop)
    (inside : sheet.range.stop ≤ source.length) : ∃ label, sheet.label? source = some label ∧
      label.Marks source ∧ label.range = sheet.range ∧ label.message = sheet.message := by
  have starts : sheet.range.start < source.length := Nat.lt_of_lt_of_le nonempty inside
  have ends : sheet.range.stop - 1 < source.length :=
    Nat.lt_of_lt_of_le (Nat.sub_one_lt_of_lt nonempty) inside
  have first := (SourceLine.at?_eq_some starts).1
  have last := (SourceLine.at?_eq_some ends).1
  refine ⟨⟨sheet.hue, sheet.range, sheet.message, .ofOffset source sheet.range.start,
    .ofOffset source (sheet.range.stop - 1)⟩, ?_, ⟨nonempty, inside, rfl, rfl⟩, rfl, rfl⟩
  simp only [label?, if_neg (Nat.not_le.2 nonempty), first, last]

theorem Label.coordinates_eq {offset : Nat} (inside : offset < source.length) :
    coordinates source offset = ':' :: Nat.toDigits 10 (lineNumber source offset) ++
      ':' :: Nat.toDigits 10 (columnNumber source offset) := by
  rw [coordinates, (SourceLine.at?_eq_some inside).1]
  simp [SourceLine.ofOffset, columnNumber, Nat.add_comm]

/-- What is drawn of a label between the lines above it and the note: the line in which it starts,
    other lines, and the arrow. -/
theorem Label.Marks.exists_middleRows {label : Label} (marks : label.Marks source) :
    ∃ others lead, Arrow (Renderer.framed.IsFaint source label.range) lead ∧
      (if label.isInline then label.inlineRows else label.bracketRows source).map Row.text =
        ((label.numbered label.first).text ++
          (if label.first.number = label.last.number then [] else "╭─▶ ".toList) ++
          (label.body label.first).text) :: others ++
          [label.side.text ++ lead ++ ' ' :: label.message] := by
  by_cases inline : label.isInline = true
  · have oneLine : label.first.number = label.last.number := of_decide_eq_true inline
    have drawn : ¬ label.first.stop < label.range.stop :=
      Nat.not_lt.2 (marks.stop_le_of_isInline inline)
    refine ⟨[(label.side ++ label.underline).text], label.arrow.text, marks.arrow_arrow inline, ?_⟩
    rw [if_pos inline, inlineRows, if_neg drawn, if_pos oneLine]
    simp
  · have severalLines : ¬ label.first.number = label.last.number := fun same =>
      inline (decide_eq_true same)
    let lastRow := label.numbered label.last ++ label.bracket '├' ++ label.body label.last
    let bar := label.side ++ [label.stroke '│', .plain (spaces (3 + label.lastWidth))]
    obtain ⟨skipped, rows⟩ : ∃ skipped, label.bracketRows source =
        [label.numbered label.first ++ label.bracket '╭' ++ label.body label.first] ++ skipped ++
          [lastRow, bar, label.side ++ label.stroke '╰' ::
            List.replicate (3 + label.lastWidth) (label.stroke '─') ++
              [.plain (' ' :: label.message)]] := by
      rw [bracketRows, if_pos marks.holds_last]
      exact ⟨_, rfl⟩
    refine ⟨(skipped ++ [lastRow, bar]).map Row.text, _, .cornered 0 (3 + label.lastWidth), ?_⟩
    rw [if_neg inline, rows, if_neg severalLines]
    simp [Row.text_replicate (label.text_stroke '─'), text_bracket, spaces]

theorem Sheet.fullReport_rows (place : sheet.place < source.length)
    (nonempty : sheet.range.start < sheet.range.stop) (inside : sheet.range.stop ≤ source.length) :
    FullReport sheet.file sheet.title sheet.message sheet.note (sheet.bearings source)
      (Renderer.framed.IsFaint source sheet.range) ((sheet.rows source).map Row.text) := by
  obtain ⟨label, found, marks, range, message⟩ := exists_label nonempty inside
  obtain ⟨others, lead, arrow, middle⟩ := marks.exists_middleRows
  have first : label.first = .ofOffset source sheet.range.start := by rw [marks.first, range]
  have number : label.first.number = (sheet.bearings source).first := by rw [first]; rfl
  have last : label.last.number = (sheet.bearings source).last := by rw [marks.last, range]; rfl
  have shown : Shown (Text.trimEnd (sheet.bearings source).text) (label.body label.first).text := by
    have text : label.first.text = (sheet.bearings source).text := by rw [first]; rfl
    rw [← text]
    exact label.shown_bodyFrom label.first.start 0 label.first.shown
  have notes := label.noted_noteRows source sheet.note
  have header : (label.header source sheet.file sheet.place).map Row.text =
      [spaces (label.numberWidth + 2) ++ "╭─[".toList ++ sheet.file ++
          ':' :: Nat.toDigits 10 (sheet.bearings source).line ++
          ':' :: Nat.toDigits 10 (sheet.bearings source).column ++ [']'],
        spaces (label.numberWidth + 2) ++ ['│']] := by
    simp [Label.header, Label.coordinates_eq place, bearings]
  have titled : sheet.titleRow.text = "Error: ".toList ++ sheet.title := by simp [titleRow]
  rw [range] at arrow
  have full : FullReport sheet.file sheet.title sheet.message sheet.note (sheet.bearings source) _ _ :=
    .lines (label.numberWidth + 2)
      (label.numberWidth - (Nat.toDigits 10 (sheet.bearings source).first).length)
      (label.numberWidth + 1) (spaces (label.numberWidth + 2) ++ ['│']) label.footer.text others shown
      arrow notes
  simp only [rows, found, bodyRows, List.map_cons, titled, List.map_append, header, middle,
    Label.text_numbered, Label.text_side, number, last, message]
  simpa using full

/-- The renderer that draws reports in a frame lays them out so. -/
theorem Renderer.frames_framed : framed.Frames where
  cuts := cut_splitLines
  draws color sheet source bearings bears nonempty := by
    obtain rfl := bears.eq
    obtain ⟨place, inside⟩ := bears.inside
    have toned : ((sheet.rows source).map (List.map (Piece.tone color))).map Row.text =
        (sheet.rows source).map Row.text := by
      rw [List.map_map]
      exact List.map_congr_left fun row _ => Row.text_tone color row
    have full := Sheet.fullReport_rows place nonempty (Nat.le_of_pred_lt inside)
    rwa [← toned] at full

end Framed

end GoldFront.Report
