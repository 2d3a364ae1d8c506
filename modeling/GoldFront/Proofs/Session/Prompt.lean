import Mathlib.Data.List.Forall2
import GoldFront.Proofs.Report.SourceLine
import GoldFront.Proofs.Text.Quoted
import GoldFront.Proofs.Token.Diagnostics
import GoldFront.Session.Prompt

namespace GoldFront

open Report (isLineEnd splitLines)

namespace Kind

theorem ofName?_name (kind : Kind) : ofName? kind.name = some kind := by
  cases kind with
  | symbol symbol => cases symbol <;> decide +kernel
  | keyword keyword => cases keyword <;> decide +kernel
  | _ => decide +kernel

theorem name_inj {kind other : Kind} : kind.name = other.name ↔ kind = other := by
  refine ⟨fun same => ?_, congrArg name⟩
  exact Option.some.inj ((ofName?_name kind).symm.trans (same ▸ ofName?_name other))

theorem isAlphanum_of_mem_name (kind : Kind) :
    ∀ c ∈ kind.name.toList, c.isAlphanum ∨ c = '_' := by
  have all : kind.name.toList.all fun c => c.isAlphanum || c == '_' := by
    cases kind with
    | symbol symbol => cases symbol <;> decide +kernel
    | keyword keyword => cases keyword <;> decide +kernel
    | _ => decide +kernel
  simpa using all

end Kind

namespace Token

theorem beq_iff {token other : Token} :
    (token == other) = true ↔ token.kind = other.kind ∧ token.literal = other.literal := by
  rw [BEq.beq, instBEq]
  simp

theorem toList_render (token : Token) : token.render.toList =
    token.kind.name.toList ++ '(' :: (Text.quote token.literal.toList ++ [')']) := by
  simp [render, Text.quoted]

theorem render_eq_iff {token other : Token} : token.render = other.render ↔ token == other := by
  have noParen : ∀ kind : Kind, '(' ∉ kind.name.toList := fun kind member =>
    absurd (kind.isAlphanum_of_mem_name _ member) (by decide)
  rw [← String.toList_inj, toList_render, toList_render,
    Text.append_cons_inj (noParen _) (noParen _), Text.quote_append_inj, String.toList_inj,
    String.toList_inj, Kind.name_inj, beq_iff]
  simp

theorem not_isLineEnd_of_mem_render (token : Token) : ∀ c ∈ token.render.toList, ¬ isLineEnd c := by
  intro c member
  rw [toList_render, List.mem_append, List.mem_cons, List.mem_append, List.mem_singleton] at member
  rcases member with named | rfl | quoted | rfl
  · rcases token.kind.isAlphanum_of_mem_name c named with alphanum | rfl
    · exact fun ends => absurd alphanum (by simp [Text.not_isAlphanum_of_isLineEnd ends])
    · decide
  · decide
  · exact Text.not_isLineEnd_of_mem_quote c quoted
  · decide

end Token

theorem splitLines_line {line : List Char} (noEnd : ∀ c ∈ line, ¬ isLineEnd c) (rest : List Char) :
    splitLines (line ++ '\n' :: rest) = (line ++ ['\n']) :: splitLines rest := by
  have feed : Report.Terminates ['\n'] rest :=
    .single (by decide) fun isReturn => absurd isReturn (by decide)
  exact Report.splitLines_ended noEnd feed

/-- Lists are told apart alike by functions that tell their members apart alike. -/
theorem map_eq_map_iff {α β γ : Type} {f : α → β} {g : α → γ} (alike : ∀ a b, f a = f b ↔ g a = g b)
    {members others : List α} :
    members.map f = others.map f ↔ members.map g = others.map g := by
  have pairwise : ∀ {δ : Type} (h : α → δ), members.map h = others.map h ↔
      List.Forall₂ (fun a b => h a = h b) members others := fun h => by
    rw [← List.forall₂_eq_eq_eq, List.forall₂_map_left_iff, List.forall₂_map_right_iff]
  simp only [pairwise, alike]

namespace Dump

theorem splitLines_lines (tokens : List Token) :
    splitLines (lines tokens).toList = tokens.map fun token => token.render.toList ++ ['\n'] := by
  induction tokens with
  | nil => rfl
  | cons token tokens ih =>
    have whole : (lines (token :: tokens)).toList =
        token.render.toList ++ '\n' :: (lines tokens).toList := by
      simp [lines, String.toList_join]
    rw [whole, splitLines_line token.not_isLineEnd_of_mem_render, ih, List.map_cons]

theorem stdout_ofSource (console : Console) (source : String) (file : Option String) :
    (ofSource console source file).output.stdout = lines (tokenize source) :=
  congrArg lines (readToEnd_ofSource source).1

theorem lines_inj {tokens others : List Token} :
    lines tokens = lines others ↔
      tokens.map (fun token => (token.kind, token.literal)) =
        others.map fun token => (token.kind, token.literal) := by
  have split : lines tokens = lines others ↔
      tokens.map (fun token => token.render.toList ++ ['\n']) =
        others.map fun token => token.render.toList ++ ['\n'] := by
    rw [← splitLines_lines, ← splitLines_lines]
    refine ⟨fun same => same ▸ rfl, fun same => ?_⟩
    have whole := congrArg List.flatten same
    rwa [Report.flatten_splitLines, Report.flatten_splitLines, String.toList_inj] at whole
  refine split.trans (map_eq_map_iff fun token other => ?_)
  rw [List.append_left_inj, String.toList_inj, Token.render_eq_iff, Token.beq_iff, Prod.mk.injEq]

/-- A dump has a line for each token, which shows its kind and literal and no more. -/
theorem stdout_faithful :
    (∀ token other : Token, (token.render = other.render ↔ token == other) ∧
      (token == other ↔ token.kind = other.kind ∧ token.literal = other.literal)) ∧
    (∀ token : Token, ∀ c ∈ token.render.toList, ¬ isLineEnd c) ∧
    (∀ console source file, splitLines (ofSource console source file).output.stdout.toList =
        (tokenize source).map (fun token => token.render.toList ++ ['\n']) ∧
      (splitLines (ofSource console source file).output.stdout.toList).length =
        (tokenize source).length) ∧
    ∀ console source file otherConsole other otherFile,
      (ofSource console source file).output.stdout = (ofSource otherConsole other otherFile).output.stdout ↔
        (tokenize source).map (fun token => (token.kind, token.literal)) =
          (tokenize other).map fun token => (token.kind, token.literal) := by
  refine ⟨fun token other => ⟨Token.render_eq_iff, Token.beq_iff⟩,
    Token.not_isLineEnd_of_mem_render, fun console source file => ?_, fun _ _ _ _ _ _ => ?_⟩
  · rw [stdout_ofSource, splitLines_lines, List.length_map]
    exact ⟨rfl, rfl⟩
  · rw [stdout_ofSource, stdout_ofSource, lines_inj]

end Dump

namespace Text

/-- A line of an input: a line feed ends it, or the end of the input does. -/
inductive IsLine : List UInt8 → Prop where
  | ended {body : List UInt8} : 10 ∉ body → IsLine (body ++ [10])
  | cut {body : List UInt8} : 10 ∉ body → body ≠ [] → IsLine body

theorem byteLines_body {body : List UInt8} (noFeed : 10 ∉ body) (rest : List UInt8) :
    byteLines (body ++ 10 :: rest) = (body ++ [10]) :: byteLines rest := by
  induction body with
  | nil => simp [byteLines]
  | cons byte body ih =>
    rw [List.mem_cons, not_or] at noFeed
    rw [List.cons_append, byteLines, if_neg (Ne.symm noFeed.1), ih noFeed.2]
    rfl

theorem byteLines_cut {body : List UInt8} (noFeed : 10 ∉ body) (inhabited : body ≠ []) :
    byteLines body = [body] := by
  induction body with
  | nil => exact absurd rfl inhabited
  | cons byte body ih =>
    rw [List.mem_cons, not_or] at noFeed
    rw [byteLines, if_neg (Ne.symm noFeed.1)]
    by_cases last : body = []
    · subst last; rfl
    · rw [ih noFeed.2 last]

theorem IsLine.byteLines_eq {line : List UInt8} (isLine : IsLine line) :
    byteLines line = [line] := by
  cases isLine with
  | ended noFeed => exact byteLines_body noFeed []
  | cut noFeed inhabited => exact byteLines_cut noFeed inhabited

/-- A line feed keeps what comes before it apart from what comes after. -/
theorem byteLines_append {first : List UInt8} (ended : first.getLast? = some 10)
    (second : List UInt8) : byteLines (first ++ second) = byteLines first ++ byteLines second := by
  -- The induction is on the length: a step takes off a whole line.
  obtain ⟨body, rest, split, noFeed⟩ := List.eq_append_cons_of_mem (List.mem_of_getLast? ended)
  rw [split, List.append_assoc, List.cons_append, byteLines_body noFeed, byteLines_body noFeed,
    List.cons_append]
  cases rest with
  | nil => rfl
  | cons byte rest =>
    have ended : (byte :: rest).getLast? = some 10 := by simpa [split] using ended
    rw [byteLines_append ended second]
termination_by first.length
decreasing_by simp [split]; omega

end Text

attribute [ext] Output

namespace Output

@[simp] theorem stdout_append (first second : Output) :
    (first ++ second).stdout = first.stdout ++ second.stdout := rfl

@[simp] theorem stderr_append (first second : Output) :
    (first ++ second).stderr = first.stderr ++ second.stderr := rfl

@[simp] theorem stdout_out (text : String) : (out text).stdout = text := rfl

@[simp] theorem stderr_out (text : String) : (out text).stderr = "" := rfl

theorem append_assoc (first second third : Output) :
    first ++ second ++ third = first ++ (second ++ third) :=
  Output.ext String.append_assoc String.append_assoc

theorem empty_append (output : Output) : empty ++ output = output :=
  Output.ext String.empty_append String.empty_append

theorem append_empty (output : Output) : output ++ empty = output :=
  Output.ext String.append_empty String.append_empty

end Output

namespace Prompt

def trimmed (text : String) : String := String.ofList (Text.trim text.toList)

/-- A line that ends a session: no text, or a word of farewell with blanks around it. -/
def Stops (line : List UInt8) : Prop :=
  match Text.decode? line with
  | none => True
  | some text => trimmed text = "exit" ∨ trimmed text = "quit"

instance : DecidablePred Stops := fun line =>
  match found : Text.decode? line with
  | none => isTrue (by rw [Stops, found]; trivial)
  | some text => decidable_of_iff (trimmed text = "exit" ∨ trimmed text = "quit")
      (by rw [Stops, found])

section Lines

variable {line : List UInt8} {text : String} (decoded : Text.decode? line = some text)
include decoded

theorem stops_iff : Stops line ↔ trimmed text = "exit" ∨ trimmed text = "quit" := by
  rw [Stops, decoded]

theorem ofLine_eq : Request.ofLine line =
    if trimmed text = "" then .nothing
    else if trimmed text = "exit" ∨ trimmed text = "quit" then .farewell
    else .dump (trimmed text) := by
  simp only [Request.ofLine, decoded, trimmed, Bool.or_eq_true, decide_eq_true_eq]
  congr

theorem ofLine_of_blank (blank : trimmed text = "") : Request.ofLine line = .nothing := by
  rw [ofLine_eq decoded, if_pos blank]

theorem ofLine_of_stops (stops : Stops line) : Request.ofLine line = .farewell := by
  rw [stops_iff decoded] at stops
  have notBlank : trimmed text ≠ "" := by rcases stops with word | word <;> simp [word]
  rw [ofLine_eq decoded, if_neg notBlank, if_pos stops]

theorem ofLine_of_goesOn (notBlank : trimmed text ≠ "") (goesOn : ¬ Stops line) :
    Request.ofLine line = .dump (trimmed text) := by
  rw [stops_iff decoded] at goesOn
  rw [ofLine_eq decoded, if_neg notBlank, if_neg goesOn]

end Lines

theorem goesOn_ofLine_iff {line : List UInt8} :
    (Request.ofLine line).goesOn = true ↔ ¬ Stops line := by
  cases decoded : Text.decode? line with
  | none => simp [Request.ofLine, Request.goesOn, Stops, decoded]
  | some text =>
    by_cases stops : Stops line
    · simp [ofLine_of_stops decoded stops, Request.goesOn, stops]
    · by_cases blank : trimmed text = ""
      · simp [ofLine_of_blank decoded blank, Request.goesOn, stops]
      · simp [ofLine_of_goesOn decoded blank stops, Request.goesOn, stops]

/-- What is written for lines none of which ends the session, but for the prompt that follows. -/
def turns (console : Console) : List (List UInt8) → Output
  | [] => .empty
  | line :: lines => .out sign ++ (Request.ofLine line).answer console ++ turns console lines

section Turns

variable (console : Console) {line : List UInt8} {first : List (List UInt8)}

theorem converse_of_goesOn (goesOn : ¬ Stops line) (lines : List (List UInt8)) :
    converse console (line :: lines) =
      .out sign ++ (Request.ofLine line).answer console ++ converse console lines := by
  have next : (turn console (some line)).2 = true := goesOn_ofLine_iff.2 goesOn
  rw [converse]
  exact congrArg (_ ++ ·) (if_pos next)

theorem converse_of_stops (stops : Stops line) (lines : List (List UInt8)) :
    converse console (line :: lines) = .out sign ++ (Request.ofLine line).answer console := by
  have noMore : ¬ (turn console (some line)).2 = true := fun next =>
    goesOn_ofLine_iff.1 next stops
  rw [converse]
  exact (congrArg (_ ++ ·) (if_neg noMore)).trans (Output.append_empty _)

theorem converse_append (goesOn : ∀ line ∈ first, ¬ Stops line) (second : List (List UInt8)) :
    converse console (first ++ second) = turns console first ++ converse console second := by
  induction first with
  | nil => exact (Output.empty_append _).symm
  | cons line first ih =>
    obtain ⟨head, tail⟩ := List.forall_mem_cons.1 goesOn
    rw [List.cons_append, converse_of_goesOn console head, ih tail, turns]
    exact (Output.append_assoc _ _ _).symm

theorem converse_append_of_stops (stops : ∃ line ∈ first, Stops line) (second : List (List UInt8)) :
    converse console (first ++ second) = converse console first := by
  induction first with
  | nil => simp at stops
  | cons line first ih =>
    rw [List.cons_append]
    -- This line ends the session, or a later one of the first lines does.
    by_cases head : Stops line
    · rw [converse_of_stops console head, converse_of_stops console head]
    · have tail : ∃ line ∈ first, Stops line := by simpa [head] using stops
      rw [converse_of_goesOn console head, converse_of_goesOn console head, ih tail]

end Turns

theorem session_eq {console : Console} {input : List UInt8}
    (goesOn : ∀ line ∈ Text.byteLines input, ¬ Stops line) :
    session console input =
      .out banner ++ (turns console (Text.byteLines input) ++ .out (sign ++ "\n")) := by
  have whole := converse_append console goesOn []
  rw [List.append_nil] at whole
  rw [session, whole]
  rfl

theorem session_line {console : Console} {line : List UInt8} (isLine : Text.IsLine line)
    (goesOn : ¬ Stops line) : session console line =
      .out (banner ++ sign) ++ (Request.ofLine line).answer console ++ .out (sign ++ "\n") := by
  have lines : ∀ other ∈ Text.byteLines line, ¬ Stops other := by
    simpa [isLine.byteLines_eq] using goesOn
  rw [session_eq lines, isLine.byteLines_eq, turns, turns, Output.append_empty]
  ext1 <;> simp [String.append_assoc]

/-- What is asked and told up to a line feed does not depend on what comes after it, and what comes
    after it is told as if it came alone, or not at all. -/
theorem session_append (console : Console) (input more : List UInt8) (ended : input.getLast? = some 10) :
    ((∀ line ∈ Text.byteLines input, ¬ Stops line) →
      ∃ told further,
        (session console input).stdout = banner ++ told ++ (sign ++ "\n") ∧
        (session console more).stdout = banner ++ further ∧
        (session console (input ++ more)).stdout = banner ++ told ++ further ∧
        (session console (input ++ more)).stderr =
          (session console input).stderr ++ (session console more).stderr) ∧
    ((∃ line ∈ Text.byteLines input, Stops line) →
      session console (input ++ more) = session console input) ∧
    ∀ line text, Text.IsLine line → Text.decode? line = some text →
      (trimmed text = "" → session console line = .out (banner ++ sign) ++ .out (sign ++ "\n")) ∧
      (trimmed text ≠ "" → ¬ Stops line → session console line =
        .out (banner ++ sign) ++ (Dump.ofSource console (trimmed text) none).output ++
          .out (sign ++ "\n")) := by
  refine ⟨fun goesOn => ?_, fun stops => ?_, fun line text isLine decoded => ⟨?_, ?_⟩⟩
  · refine ⟨(turns console (Text.byteLines input)).stdout, (converse console (Text.byteLines more)).stdout,
      ?_, rfl, ?_, ?_⟩
    · simp [session_eq goesOn, String.append_assoc]
    · rw [session, Text.byteLines_append ended, converse_append console goesOn]
      simp [String.append_assoc]
    · rw [session_eq goesOn, session, session, Text.byteLines_append ended,
        converse_append console goesOn]
      simp
  · rw [session, session, Text.byteLines_append ended, converse_append_of_stops console stops]
  · intro blank
    have goesOn : ¬ Stops line := by simp [stops_iff decoded, blank]
    rw [session_line isLine goesOn, ofLine_of_blank decoded blank]
    ext1 <;> simp [Request.answer, Output.empty]
  · intro notBlank goesOn
    rw [session_line isLine goesOn, ofLine_of_goesOn decoded notBlank goesOn]
    rfl

/-- After the line `1` the rest is told as if it came alone; after the line ` exit` it is not. -/
theorem session_append_one_exit :
    (∃ told further,
      (session .silent [49, 10]).stdout = banner ++ told ++ (sign ++ "\n") ∧
      (session .silent [34]).stdout = banner ++ further ∧
      (session .silent ([49, 10] ++ [34])).stdout = banner ++ told ++ further ∧
      (session .silent ([49, 10] ++ [34])).stderr =
        (session .silent [49, 10]).stderr ++ (session .silent [34]).stderr) ∧
    session .silent ([49, 10, 32, 101, 120, 105, 116, 10] ++ [34]) =
      session .silent [49, 10, 32, 101, 120, 105, 116, 10] ∧
    session .silent [49, 10] = .out (banner ++ sign) ++
      (Dump.ofSource .silent (trimmed "1\n") none).output ++ .out (sign ++ "\n") := by
  obtain ⟨goesOn, _, line⟩ := session_append .silent [49, 10] [34] rfl
  obtain ⟨_, stops, _⟩ := session_append .silent [49, 10, 32, 101, 120, 105, 116, 10] [34] rfl
  have isLine : Text.IsLine ([49] ++ [10]) := .ended (by decide)
  obtain ⟨_, dumped⟩ := line [49, 10] "1\n" isLine (by decide +kernel)
  exact ⟨goesOn (by decide +kernel), stops (by decide +kernel),
    dumped (by decide +kernel) (by decide +kernel)⟩

end Prompt

end GoldFront
