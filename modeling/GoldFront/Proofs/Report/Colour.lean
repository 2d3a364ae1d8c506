import GoldFront.Proofs.Report.Layout

/-!
A report in colours is the report without them and with commands between its characters (`strip`
takes them out again). Without colours there are commands around two of its words alone
(`Diagnostic.strip_renderBy?`). Of a renderer this asks that it draws a report without colours as
the one with colours, and shows title and note as they are given (`Renderer.Colours`).
-/

namespace GoldFront

/-- A range starts and ends up to the end of a source that is not empty. -/
def CharRange.Inside (range : CharRange) (source : List Char) : Prop :=
  source ≠ [] ∧ range.start ≤ source.length ∧ range.stop ≤ source.length + 1

namespace Report

/-- What stands between the start of a command and its end. -/
def isParameter (c : Char) : Bool := c.isDigit || c = ';'

/-- A text without its colour commands. -/
def strip : List Char → List Char
  | [] => []
  | '\x1b' :: '[' :: rest =>
    let behind := rest.dropWhile isParameter
    if behind.head? = some 'm' then strip behind.tail else '\x1b' :: '[' :: strip rest
  | c :: rest => c :: strip rest
termination_by text => text.length
decreasing_by
  · have shorter := (List.dropWhile_sublist isParameter (l := rest)).length_le
    rw [List.length_tail, List.length_cons, List.length_cons]
    omega
  · rw [List.length_cons, List.length_cons]
    omega
  · simp

/-- A text is written between a command and the one that resets it. -/
def Wraps (text written : List Char) : Prop :=
  ∃ parameters, (∀ c ∈ parameters, isParameter c = true) ∧
    written = '\x1b' :: '[' :: (parameters ++ 'm' :: (text ++ ['\x1b', '[', '0', 'm']))

/-- A row that ends in a text as it is given, behind what the renderer writes there. -/
inductive Row.Ends (lead text : List Char) : Row → Prop
  | leading {front : Row} {piece : Piece} (leads : front.text = lead) (shows : piece.text = text) :
    Row.Ends lead text (front ++ [piece])

/-- Rows without a command of their own. -/
def Clear (rows : List Row) : Prop := ∀ row ∈ rows, '\x1b' ∉ row.text

/-- What a report is made of: the title, and where the label lies in the source a body with the
    note. -/
inductive Sheet.Laid (sheet : Sheet) (source : List Char) : List Row → Prop
  | alone {title : Row} (outside : ¬ sheet.range.Inside source)
    (titled : title.Ends "Error: ".toList sheet.title) : sheet.Laid source [title]
  | plain {title : Row} {body : List Row} (inside : sheet.range.Inside source)
    (titled : title.Ends "Error: ".toList sheet.title) (noNote : sheet.note = none) (some : body ≠ [])
    (clear : Clear body) : sheet.Laid source (title :: body)
  | noted {title row : Row} {margin text : List Char} {front back : List Row}
    (inside : sheet.range.Inside source) (titled : title.Ends "Error: ".toList sheet.title)
    (note : sheet.note = some text) (noted : row.Ends (margin ++ "Note: ".toList) text)
    (clearMargin : '\x1b' ∉ margin) (clearFront : Clear front) (clearBack : Clear back) :
    sheet.Laid source (title :: (front ++ row :: back))

/-- How a renderer treats colours: text in a colour stands between two commands, a report without
    colours is drawn as the one with colours but for them, and no commands but those of its title
    and its note stand in what is drawn, unless they come with the file, the message or the
    source. -/
structure Renderer.Colours (renderer : Renderer) : Prop where
  dyes : ∀ hue text, Wraps text (renderer.dye hue text)
  undyes : ∀ (sheet : Sheet) (source : List Char), sheet.range.start ≤ sheet.range.stop →
    renderer.rows false sheet source = (renderer.rows true sheet source).map (List.map Piece.undyed)
  lays : ∀ (sheet : Sheet) (source : List Char), sheet.range.start ≤ sheet.range.stop → '\x1b' ∉ sheet.file →
    '\x1b' ∉ sheet.message → '\x1b' ∉ source → sheet.Laid source (renderer.rows true sheet source)

/-- What stands below the title of a report without colours: nothing where the label lies outside of
    the source, and else a body with commands around one word of a help text, and nowhere else. -/
inductive Uncoloured (inside : Prop) : Option (List Char) → List Char → Prop
  | alone {help : Option (List Char)} (outside : ¬ inside) : Uncoloured inside help []
  | plain {body : List Char} (isInside : inside) (some : body ≠ []) (clear : '\x1b' ∉ body) :
    Uncoloured inside none body
  | noted {help before word after : List Char} (isInside : inside) (clearBefore : '\x1b' ∉ before)
    (wraps : Wraps "help".toList word) (clearAfter : '\x1b' ∉ after) :
    Uncoloured inside (some help)
      (before ++ "Note: ".toList ++ word ++ ": ".toList ++ help ++ '\n' :: after)

theorem strip_append {text : List Char} (clear : '\x1b' ∉ text) (rest : List Char) :
    strip (text ++ rest) = text ++ strip rest := by
  induction text with
  | nil => rfl
  | cons c text ih =>
    rw [List.mem_cons, not_or] at clear
    rw [List.cons_append, strip, ih clear.2, List.cons_append]
    exact fun _ escape => absurd escape.symm clear.1

theorem strip_command {parameters : List Char} (all : ∀ c ∈ parameters, isParameter c = true)
    (rest : List Char) : strip ('\x1b' :: '[' :: (parameters ++ 'm' :: rest)) = strip rest := by
  rw [strip, List.dropWhile_append_of_pos all, List.dropWhile_cons_of_neg (by decide)]
  rfl

/-- A text whose commands are whole, so that what is left of it does not depend on what follows. -/
structure Settled (text : List Char) : Prop where
  clear : '\x1b' ∉ strip text
  append_eq : ∀ rest, strip (text ++ rest) = strip text ++ strip rest

section Settled

variable {text more written : List Char}

theorem strip_of_clear (clear : '\x1b' ∉ text) : strip text = text := by
  have stripped := strip_append clear []
  rwa [List.append_nil, strip, List.append_nil] at stripped

theorem settled_of_clear (clear : '\x1b' ∉ text) : Settled text where
  clear := by rwa [strip_of_clear clear]
  append_eq rest := by rw [strip_append clear, strip_of_clear clear]

theorem Settled.append (first : Settled text) (second : Settled more) : Settled (text ++ more) where
  clear := by
    rw [first.append_eq, List.mem_append, not_or]
    exact ⟨first.clear, second.clear⟩
  append_eq rest := by
    rw [List.append_assoc, first.append_eq, second.append_eq, first.append_eq, List.append_assoc]

theorem Wraps.strip_append (wraps : Wraps text written) (settled : Settled text) (rest : List Char) :
    strip (written ++ rest) = strip text ++ strip rest := by
  obtain ⟨parameters, all, rfl⟩ := wraps
  have zero : ∀ c ∈ ['0'], isParameter c = true := by simp [isParameter]
  have reset := strip_command zero rest
  simp only [List.cons_append, List.append_assoc, List.nil_append]
  rw [strip_command all, settled.append_eq]
  exact congrArg (strip text ++ ·) reset

theorem Wraps.strip_eq (wraps : Wraps text written) (settled : Settled text) :
    strip written = strip text := by
  have stripped := wraps.strip_append settled []
  rwa [List.append_nil, strip, List.append_nil] at stripped

theorem Wraps.settled (wraps : Wraps text written) (settled : Settled text) : Settled written where
  clear := by
    rw [wraps.strip_eq settled]
    exact settled.clear
  append_eq rest := by rw [wraps.strip_append settled, wraps.strip_eq settled]

theorem settled_flatMap {α : Type} {list : List α} {written : α → List Char}
    (each : ∀ a ∈ list, Settled (written a)) : Settled (list.flatMap written) ∧
      strip (list.flatMap written) = list.flatMap fun a => strip (written a) := by
  induction list with
  | nil => exact ⟨settled_of_clear (by simp), by simp [strip]⟩
  | cons a list ih =>
    obtain ⟨first, others⟩ := List.forall_mem_cons.1 each
    obtain ⟨settled, stripped⟩ := ih others
    rw [List.flatMap_cons, List.flatMap_cons, first.append_eq, stripped]
    exact ⟨first.append settled, rfl⟩

end Settled

namespace Renderer

variable {renderer : Renderer} {rows : List Row}

theorem ink_undyed (piece : Piece) : renderer.ink piece.undyed = piece.text := rfl

theorem write_undyed : renderer.write (rows.map (List.map Piece.undyed)) =
    rows.flatMap fun row => row.text ++ ['\n'] := by
  simp [write, Row.text, List.flatMap_map, ink_undyed]

/-- Without its commands what is written in colours is what is written without them. -/
theorem Colours.strip_write (colours : renderer.Colours)
    (settled : ∀ row ∈ rows, ∀ piece ∈ row, Settled piece.text) :
    Settled (renderer.write rows) ∧ strip (renderer.write rows) =
      strip (renderer.write (rows.map (List.map Piece.undyed))) := by
  have inked : ∀ row ∈ rows, ∀ piece ∈ row, Settled (renderer.ink piece) ∧
      strip (renderer.ink piece) = strip piece.text := by
    intro row listed piece member
    have text := settled row listed piece member
    obtain ⟨_ | hue, content⟩ := piece
    · exact ⟨text, rfl⟩
    · have wraps := colours.dyes hue content
      exact ⟨wraps.settled text, wraps.strip_eq text⟩
  have lineEnd : Settled ['\n'] := settled_of_clear (by decide)
  have written : ∀ row ∈ rows, Settled (row.flatMap renderer.ink ++ ['\n']) ∧
      Settled (row.text ++ ['\n']) ∧
      strip (row.flatMap renderer.ink ++ ['\n']) = strip (row.text ++ ['\n']) := by
    intro row listed
    obtain ⟨colored, stripped⟩ := settled_flatMap fun piece member => (inked row listed piece member).1
    obtain ⟨bare, bareStripped⟩ := settled_flatMap (settled row listed)
    refine ⟨colored.append lineEnd, bare.append lineEnd, ?_⟩
    rw [Row.text, colored.append_eq, bare.append_eq, stripped, bareStripped]
    congr 1
    exact List.flatMap_congr fun piece member => (inked row listed piece member).2
  obtain ⟨whole, stripped⟩ := settled_flatMap fun row listed => (written row listed).1
  obtain ⟨_, bareStripped⟩ := settled_flatMap fun row listed => (written row listed).2.1
  refine ⟨whole, ?_⟩
  rw [write_undyed, bareStripped, write, stripped]
  exact List.flatMap_congr fun row listed => (written row listed).2.2

end Renderer

section Laid

variable {row : Row} {rows : List Row} {lead text source : List Char} {sheet : Sheet}

theorem Row.settled_of_clear (clear : '\x1b' ∉ row.text) : ∀ piece ∈ row, Settled piece.text :=
  fun piece member => Report.settled_of_clear fun escape =>
    clear (List.mem_flatMap.2 ⟨piece, member, escape⟩)

theorem Row.Ends.settled (ends : row.Ends lead text) (clear : '\x1b' ∉ lead) (settled : Settled text) :
    ∀ piece ∈ row, Settled piece.text := by
  obtain ⟨leads, shows⟩ := ends
  refine List.forall_mem_append.2 ⟨Row.settled_of_clear (leads ▸ clear), ?_⟩
  simpa [shows] using settled

theorem Row.Ends.text_eq (ends : row.Ends lead text) : row.text = lead ++ text := by
  obtain ⟨leads, shows⟩ := ends
  rw [Row.text_append, leads, Row.text_cons, shows, Row.text_nil, List.append_nil]

/-- The rows of a report have whole commands where its title and its note have. -/
theorem Sheet.Laid.settled (laid : sheet.Laid source rows) (title : Settled sheet.title)
    (note : ∀ text ∈ sheet.note, Settled text) : ∀ row ∈ rows, ∀ piece ∈ row, Settled piece.text := by
  have clearLead : '\x1b' ∉ "Error: ".toList := by decide
  cases laid with
  | alone _ titled => simpa using titled.settled clearLead title
  | plain _ titled _ _ clear =>
    exact List.forall_mem_cons.2 ⟨titled.settled clearLead title, fun row member =>
      Row.settled_of_clear (clear row member)⟩
  | @noted _ row _ _ front back _ titled given noted clearMargin clearFront clearBack =>
    have clearNote := List.not_mem_append clearMargin (by decide : '\x1b' ∉ "Note: ".toList)
    refine List.forall_mem_cons.2 ⟨titled.settled clearLead title, ?_⟩
    refine List.forall_mem_append.2 ⟨fun row member => Row.settled_of_clear (clearFront row member), ?_⟩
    exact List.forall_mem_cons.2 ⟨noted.settled clearNote (note _ given), fun row member =>
      Row.settled_of_clear (clearBack row member)⟩

/-- Clear rows, each with its end. -/
theorem Clear.not_mem_flatMap (clear : Clear rows) :
    '\x1b' ∉ rows.flatMap fun row => row.text ++ ['\n'] := by
  rw [List.mem_flatMap]
  rintro ⟨row, member, escape⟩
  exact List.not_mem_append (clear row member) (by decide) escape

end Laid

namespace Row

variable {row more : Row} {piece : Piece} {escape : Char}

@[simp] theorem not_mem_text_replicate {count : Nat} (clear : '\x1b' ∉ piece.text) :
    '\x1b' ∉ text (List.replicate count piece) := by
  rw [text, List.mem_flatMap]
  rintro ⟨_, member, escape⟩
  exact clear (List.eq_of_mem_replicate member ▸ escape)

theorem not_mem_text_flatMap {α : Type} {list : List α} {drawn : α → Row}
    (each : ∀ a, '\x1b' ∉ (drawn a).text) : '\x1b' ∉ text (list.flatMap drawn) := by
  rw [text, List.flatMap_assoc, List.mem_flatMap]
  rintro ⟨a, _, escape⟩
  exact each a escape

end Row

section Framed

variable {sheet : Sheet} {source : List Char}

namespace Label

variable (label : Label)

@[simp] theorem not_mem_spaces (count : Nat) : '\x1b' ∉ spaces count := by simp [spaces]

@[simp] theorem not_mem_toDigits (number : Nat) : '\x1b' ∉ Nat.toDigits 10 number := fun member =>
  absurd (Nat.isDigit_of_mem_toDigits (by decide) (by decide) member) (by decide)

@[simp] theorem not_mem_text_numbered (line : SourceLine) : '\x1b' ∉ (label.numbered line).text := by
  simp [numbered]

@[simp] theorem not_mem_text_side : '\x1b' ∉ label.side.text := by simp [side, unnumbered]

@[simp] theorem not_mem_text_gap : '\x1b' ∉ label.gap.text := by simp [gap, unnumbered]

theorem not_mem_text_bodyFrom (start place : Nat) {text : List Char} (clear : '\x1b' ∉ text) :
    '\x1b' ∉ (label.bodyFrom start place text).text := by
  induction text generalizing place with
  | nil => simp [bodyFrom]
  | cons c rest ih =>
    rw [List.mem_cons, not_or] at clear
    rw [bodyFrom, Row.text_append, List.mem_append, not_or]
    refine ⟨?_, ih (place + 1) clear.2⟩
    split
    · exact Row.not_mem_text_replicate (by simp)
    · simpa using clear.1

theorem not_mem_text_under {glyph tail : Piece} (first : '\x1b' ∉ glyph.text)
    (further : '\x1b' ∉ tail.text) (columns : Nat) : '\x1b' ∉ (under columns glyph tail).text := by
  cases columns with
  | zero => simp [under]
  | succ count => simp [under, first, further]

@[simp] theorem not_mem_text_underline : '\x1b' ∉ label.underline.text := by
  refine Row.not_mem_text_flatMap fun (columns, place) => ?_
  dsimp only
  split
  · split
    · exact not_mem_text_under (by simp) (by simp) columns
    · exact not_mem_text_under (by simp) (by simp) columns
  · split
    · exact not_mem_text_under (by simp) (by simp) columns
    · exact not_mem_text_under (by simp) (by simp) columns

@[simp] theorem not_mem_text_arrow : '\x1b' ∉ label.arrow.text := by
  refine Row.not_mem_text_flatMap fun (columns, place) => ?_
  dsimp only
  split
  · exact not_mem_text_under (by simp) (by simp) columns
  · split
    · exact not_mem_text_under (by simp) (by simp) columns
    · exact not_mem_text_under (by simp) (by simp) columns

theorem not_mem_coordinates (offset : Nat) : '\x1b' ∉ coordinates source offset := by
  rw [coordinates]
  split
  · simp
  · simp

theorem clear_header {file : List Char} (clear : '\x1b' ∉ file) (place : Nat) :
    Clear (label.header source file place) := by
  simp [Clear, header, clear, not_mem_coordinates]

theorem not_mem_text_noteMargin (source : List Char) :
    '\x1b' ∉ (label.noteMargin source).text := fun escape => by
  rcases label.noteMargin_blank source _ escape with equal | equal
  · simp at equal
  · simp at equal

theorem clear_footer : Clear [label.footer] := by
  simp [Clear, footer]

variable {label}

theorem not_mem_text_body {line : SourceLine} (clear : '\x1b' ∉ line.text) :
    '\x1b' ∉ (label.body line).text :=
  label.not_mem_text_bodyFrom line.start 0 fun member =>
    clear ((List.rdropWhile_prefix Text.isBlank line.text).subset member)

section Clear

variable (clearMessage : '\x1b' ∉ label.message) (clearFirst : '\x1b' ∉ label.first.text)
include clearMessage clearFirst

theorem clear_inlineRows : Clear label.inlineRows := by
  unfold inlineRows
  split
  · simp [Clear]
  · simp [Clear, not_mem_text_body clearFirst, clearMessage]

theorem clear_bracketRows (clearLast : '\x1b' ∉ label.last.text) :
    Clear (label.bracketRows source) := by
  unfold bracketRows
  simp only [Clear, List.forall_mem_append]
  refine ⟨⟨?_, ?_⟩, ?_⟩
  · simp [not_mem_text_body clearFirst, text_bracket]
  · split
    · simp
    · simp
  · split
    · simp [not_mem_text_body clearLast, text_bracket, clearMessage]
    · simp

end Clear

end Label

theorem Sheet.titled_titleRow (sheet : Sheet) : sheet.titleRow.Ends "Error: ".toList sheet.title := by
  have leads : Row.text [.themed .red "Error:".toList, .plain [' ']] = "Error: ".toList := by simp
  exact .leading leads rfl

/-- There is a label where its range lies in the source. -/
theorem Sheet.isSome_label?_iff (ordered : sheet.range.start ≤ sheet.range.stop) :
    (sheet.label? source).isSome ↔ sheet.range.Inside source := by
  have both : (sheet.label? source).isSome ↔
      (SourceLine.at? source sheet.range.start).isSome ∧ (SourceLine.at? source
        (if sheet.range.stop ≤ sheet.range.start then sheet.range.start
          else sheet.range.stop - 1)).isSome := by
    rw [label?]
    split
    · next first last starts ends => simp [starts, ends]
    · next missing =>
      refine iff_of_false (by simp) ?_
      rintro ⟨starts, ends⟩
      obtain ⟨first, starts⟩ := Option.isSome_iff_exists.1 starts
      obtain ⟨last, ends⟩ := Option.isSome_iff_exists.1 ends
      exact missing first last starts ends
  rw [both, SourceLine.at?_isSome_iff, SourceLine.at?_isSome_iff, CharRange.Inside]
  rw [← and_and_left]
  refine and_congr_right fun _ => ?_
  split
  · omega
  · omega

theorem Sheet.clear_middleRows {label : Label} (found : sheet.label? source = some label)
    (clearMessage : '\x1b' ∉ sheet.message) (clearSource : '\x1b' ∉ source) :
    Clear (if label.isInline then label.inlineRows else label.bracketRows source) := by
  simp only [label?] at found
  split at found
  · next first last starts ends =>
    obtain rfl := Option.some.inj found
    have clearFirst : '\x1b' ∉ first.text := fun escape =>
      clearSource (SourceLine.mem_of_at? starts escape)
    have clearLast : '\x1b' ∉ last.text := fun escape =>
      clearSource (SourceLine.mem_of_at? ends escape)
    split
    · exact Label.clear_inlineRows clearMessage clearFirst
    · exact Label.clear_bracketRows clearMessage clearFirst clearLast
  · exact absurd found (by simp)

theorem Sheet.laid_rows (ordered : sheet.range.start ≤ sheet.range.stop) (clearFile : '\x1b' ∉ sheet.file)
    (clearMessage : '\x1b' ∉ sheet.message) (clearSource : '\x1b' ∉ source) :
    sheet.Laid source (sheet.rows source) := by
  rw [rows]
  cases found : sheet.label? source with
  | none =>
    refine .alone (fun inside => ?_) sheet.titled_titleRow
    have some := (isSome_label?_iff ordered).2 inside
    simp [found] at some
  | some label =>
    have inside := (isSome_label?_iff ordered).1 (Option.isSome_iff_exists.2 ⟨label, found⟩)
    have frame : Clear (label.header source sheet.file sheet.place ++
        if label.isInline then label.inlineRows else label.bracketRows source) :=
      List.forall_mem_append.2 ⟨label.clear_header clearFile sheet.place,
        clear_middleRows found clearMessage clearSource⟩
    dsimp only
    cases given : sheet.note with
    | none =>
      have clear : Clear (_ ++ [label.footer]) := List.forall_mem_append.2 ⟨frame, label.clear_footer⟩
      refine .plain inside sheet.titled_titleRow given (by simp [bodyRows]) ?_
      simpa only [bodyRows, given, Label.noteRows, List.append_nil] using clear
    | some text =>
      have clear := List.forall_mem_append.2 ⟨frame, List.forall_mem_singleton.2
        (label.not_mem_text_noteMargin source)⟩
      have ends : Row.Ends ((label.noteMargin source).text ++ "Note: ".toList) text
          (label.noteMargin source ++ [.themed .note ['N', 'o', 't', 'e'], .plain [':', ' ']] ++
            [.plain text]) := .leading (by simp) rfl
      have laid := Laid.noted inside sheet.titled_titleRow given ends
        (label.not_mem_text_noteMargin source) clear label.clear_footer
      simpa [bodyRows, given, Label.noteRows_some] using laid

/-- The renderer that draws reports in a frame treats colours so. -/
theorem Renderer.colours_framed : framed.Colours where
  dyes hue text := by
    refine ⟨hue.code, ?_, rfl⟩
    cases hue <;> simp [Hue.code, isParameter]
  undyes sheet source _ := by
    simp [framed, Piece.tone_true, Piece.tone_false]
  lays sheet source ordered clearFile clearMessage clearSource := by
    have drawn : framed.rows true sheet source = sheet.rows source := by
      simp [framed, Piece.tone_true]
    rw [drawn]
    exact Sheet.laid_rows ordered clearFile clearMessage clearSource

end Framed

end Report

namespace Diagnostic
open Report

variable {renderer : Renderer} (diagnostic : Diagnostic)

/-- What is below the title of a report without colours. -/
theorem uncoloured_of_laid (colours : renderer.Colours) {source : List Char} {file : Option String}
    {rows : List Row} (laid : (diagnostic.sheet renderer source file).Laid source rows) :
    ∃ body, (rows.flatMap fun row => row.text ++ ['\n']) = "Error: ".toList ++
        renderer.dye diagnostic.category.hue "Lexical Error".toList ++ ": ".toList ++
        diagnostic.message.toList ++ '\n' :: body ∧
      Uncoloured ((diagnostic.span.charRange source).Inside source)
        (diagnostic.help.map String.toList) body := by
  cases laid with
  | alone outside titled =>
    refine ⟨[], ?_, .alone outside⟩
    simp [titled.text_eq, sheet]
  | @plain title body inside titled noNote some clear =>
    have noHelp : diagnostic.help = none := Option.map_eq_none_iff.1 noNote
    refine ⟨body.flatMap fun row => row.text ++ ['\n'], by simp [titled.text_eq, sheet], ?_⟩
    rw [noHelp]
    exact .plain inside (by simpa using List.exists_mem_of_ne_nil body some) clear.not_mem_flatMap
  | @noted title row margin text front back inside titled given noted clearMargin clearFront clearBack =>
    obtain ⟨help, helps, rfl⟩ := Option.map_eq_some_iff.1 given
    have clear := List.not_mem_append clearFront.not_mem_flatMap clearMargin
    refine ⟨(front ++ row :: back).flatMap fun row => row.text ++ ['\n'],
      by simp [titled.text_eq, sheet], ?_⟩
    have body : Uncoloured ((diagnostic.span.charRange source).Inside source) (some help.toList) _ :=
      .noted inside clear (colours.dyes .cyan "help".toList) clearBack.not_mem_flatMap
    rw [helps]
    simpa [noted.text_eq] using body

end Diagnostic

end GoldFront
