import Mathlib.Data.List.DropRight
import GoldFront.Proofs.Session.Prompt
import GoldFront.Proofs.Text.Slice
import GoldFront.Proofs.Token.Concatenation

/-!
A line is dumped at the prompt without the blanks around it, which are more characters than the gaps
between tokens. A blank that is no gap is an illegal character, and a string that nothing closes
takes in what stands behind it, so the dump of the trimmed line is that of the line only where gaps
are cut off, and none behind such a string (`tokenize_trimmed_iff`).
-/

namespace GoldFront

open Text (byteSize isBlank)

namespace Text

/-- The blanks at the start of a text. -/
def leading (text : List Char) : List Char := text.takeWhile isBlank

/-- The blanks at the end of a text, but for those at its start. -/
def trailing (text : List Char) : List Char := (trimStart text).rtakeWhile isBlank

/-- A text with the blanks before it and behind it. -/
structure Trims (text before core behind : List Char) : Prop where
  whole : text = before ++ (core ++ behind)
  leads : ∀ c ∈ before, isBlank c
  trails : ∀ c ∈ behind, isBlank c
  first : ∀ c ∈ core.head?, isBlank c = false
  last : ∀ c ∈ core.getLast?, isBlank c = false
  /-- All of a blank text stands before. -/
  blank : core = [] → behind = []

theorem trimEnd_append {core behind : List Char} (trails : ∀ c ∈ behind, isBlank c)
    (last : ∀ c ∈ core.getLast?, isBlank c = false) :
    trimEnd (core ++ behind) = core ∧ (core ++ behind).rtakeWhile isBlank = behind := by
  have inside : ∀ c ∈ behind.reverse, isBlank c := by simpa using trails
  have outside : ∀ c ∈ core.reverse.head?, isBlank c = false := by simpa using last
  obtain ⟨taken, left⟩ := takeWhile_dropWhile_run inside outside
  rw [← List.reverse_append] at taken left
  rw [trimEnd, List.rtakeWhile, taken, left, List.reverse_reverse, List.reverse_reverse]
  exact ⟨rfl, rfl⟩

theorem trims_leading_trailing (text : List Char) :
    Trims text (leading text) (trim text) (trailing text) := by
  have front := @List.takeWhile_append_dropWhile _ isBlank text
  have back : trim text ++ trailing text = trimStart text := List.rdropWhile_append_rtakeWhile
  have first := head?_dropWhile isBlank text
  have last := head?_dropWhile isBlank (trimStart text).reverse
  refine ⟨?_, fun c member => List.mem_takeWhile_imp member,
    fun c member => List.mem_rtakeWhile_imp member, ?_, ?_, ?_⟩
  · rw [back]
    exact front.symm
  · -- What is left starts as it did before its end was cut.
    intro c starts
    refine first c ?_
    obtain ⟨rest, core⟩ := List.head?_eq_some_iff.1 starts
    rw [← trimStart, ← back, core]
    rfl
  · simpa [trim, trimEnd] using last
  · intro none
    have blank : ∀ c ∈ trimStart text, isBlank c := List.rdropWhile_eq_nil_iff.1 none
    have empty : trimStart text = [] := by
      cases left : trimStart text with
      | nil => rfl
      | cons c rest =>
        have noBlank : isBlank c = false := first c (by rw [← trimStart, left]; rfl)
        simp [left, noBlank] at blank
    rw [trailing, empty]
    rfl

/-- A text is made up in one way of blanks, what is left of it, and blanks. -/
theorem trims_iff {text before core behind : List Char} : Trims text before core behind ↔
    before = leading text ∧ core = trim text ∧ behind = trailing text := by
  constructor
  · rintro ⟨rfl, leads, trails, first, last, blank⟩
    have starts : ∀ c ∈ (core ++ behind).head?, isBlank c = false := by
      cases core with
      | nil => simp [blank rfl]
      | cons c core => exact first
    obtain ⟨taken, left⟩ := takeWhile_dropWhile_run leads starts
    obtain ⟨kept, cut⟩ := trimEnd_append trails last
    rw [leading, trim, trailing, trimStart, taken, left, kept, cut]
    exact ⟨rfl, rfl, rfl⟩
  · rintro ⟨rfl, rfl, rfl⟩
    exact trims_leading_trailing text

end Text

/-- The blanks of a text that are no gaps. -/
def strays (blanks : List Char) : Nat := blanks.countP fun c => !isGap c

theorem strays_eq_zero_iff {blanks : List Char} :
    strays blanks = 0 ↔ ∀ c ∈ blanks, c = ' ' ∨ c = '\t' ∨ c = '\n' ∨ c = '\r' := by
  simp [strays, List.countP_eq_zero, isGap_iff]

/-- Blanks that are gaps, and do not go on with a string of a source that has these faults. -/
structure GapsOnly (before behind : List Char) (faults : List Fault) : Prop where
  before : ∀ c ∈ before, c = ' ' ∨ c = '\t' ∨ c = '\n' ∨ c = '\r'
  behind : behind = [] ∨ (∀ c ∈ behind, c = ' ' ∨ c = '\t' ∨ c = '\n' ∨ c = '\r') ∧
    ∀ fault ∈ faults, fault.cause ≠ .unterminatedString

theorem gapsOnly_iff {before behind : List Char} {faults : List Fault} :
    GapsOnly before behind faults ↔ strays before = 0 ∧
      (behind = [] ∨ strays behind = 0 ∧ ∀ fault ∈ faults, fault.cause ≠ .unterminatedString) := by
  rw [strays_eq_zero_iff, strays_eq_zero_iff]
  exact ⟨fun gaps => ⟨gaps.before, gaps.behind⟩, fun ⟨before, behind⟩ => ⟨before, behind⟩⟩

namespace Reading

variable {offset : Nat} {text before behind : List Char} {tokens : List Token} {faults : List Fault}

/-- In front of a text, every blank that is no gap is an illegal character. -/
theorem blanks_append (leads : ∀ c ∈ before, isBlank c)
    (reading : Reading (offset + byteSize before) text tokens faults) :
    ∃ illegal wrong, Reading offset (before ++ text) (illegal ++ tokens) (wrong ++ faults) ∧
      illegal.length = strays before ∧ wrong.length = strays before ∧
      ∀ fault ∈ wrong, fault.cause ≠ .unterminatedString := by
  induction before generalizing offset with
  | nil => exact ⟨[], [], reading, rfl, rfl, by simp⟩
  | cons c before ih =>
    obtain ⟨first, others⟩ := List.forall_mem_cons.1 leads
    rw [Text.byteSize_cons, ← Nat.add_assoc] at reading
    obtain ⟨illegal, wrong, whole, count, faultCount, closed⟩ := ih others reading
    by_cases gap : isGap c
    · have gaps : ∀ d ∈ [c], isGap d := by simpa using gap
      have same : strays (c :: before) = strays before := by simp [strays, gap]
      rw [same]
      exact ⟨illegal, wrong, @gap_append _ _ _ _ [c] gaps whole, count, faultCount, closed⟩
    · obtain ⟨noSymbol, noQuote, noLetter, noDigit⟩ := start_of_isBlank first
      have fits : Lexeme.Fits ⟨.illegal, [c]⟩ (before ++ text) :=
        .illegal (by simpa using gap) noSymbol noQuote noLetter noDigit
      have more : strays (c :: before) = strays before + 1 := by simp [strays, gap]
      refine ⟨_ :: illegal, ⟨.illegalCharacter c, _⟩ :: wrong, of_fits fits whole, ?_, ?_, ?_⟩
      · rw [List.length_cons, count, more]
      · rw [List.length_cons, faultCount, more]
      · simpa using closed

/-- A text with nothing left open is read between blanks as it is where they are gaps. -/
theorem between_of_closed (reading : Reading (offset + byteSize before) text tokens faults)
    (closed : ∀ fault ∈ faults, fault.cause ≠ .unterminatedString)
    (leads : ∀ c ∈ before, isBlank c) (trails : ∀ c ∈ behind, isBlank c) :
    ∃ others otherFaults, Reading offset (before ++ (text ++ behind)) others otherFaults ∧
      (others.map Token.kindAndLiteral = tokens.map Token.kindAndLiteral ↔
        strays before = 0 ∧ strays behind = 0) ∧
      (strays before = 0 → strays behind = 0 → otherFaults = faults) ∧
      ∀ fault ∈ otherFaults, fault.cause ≠ .unterminatedString := by
  have ended : Reading (offset + byteSize before + byteSize text + byteSize behind) [] _ [] :=
    .ending (by simp)
  obtain ⟨later, laterFaults, back, laterCount, laterFaultCount, laterClosed⟩ :=
    blanks_append trails ended
  rw [List.append_nil] at back
  have blank : ∀ c ∈ behind.head?, isBlank c := fun c first => trails c (List.mem_of_mem_head? first)
  obtain ⟨early, earlyFaults, whole, count, faultCount, earlyClosed⟩ :=
    blanks_append leads (reading.append closed blank back)
  obtain ⟨body, rfl, _⟩ := reading.exists_body
  refine ⟨_, _, whole, ?_, fun noneBefore noneBehind => ?_, ?_⟩
  · rw [List.dropLast_concat]
    constructor
    · intro same
      have lengths := congrArg List.length same
      simp only [List.length_map, List.length_append, List.length_singleton] at lengths
      omega
    · rintro ⟨noneBefore, noneBehind⟩
      rw [noneBefore] at count
      rw [noneBehind] at laterCount
      rw [List.eq_nil_of_length_eq_zero count, List.eq_nil_of_length_eq_zero laterCount]
      simp [Token.kindAndLiteral, Token.eof]
  · rw [noneBefore] at faultCount
    rw [noneBehind] at laterFaultCount
    simp [List.eq_nil_of_length_eq_zero faultCount, List.eq_nil_of_length_eq_zero laterFaultCount]
  · simp only [List.append_nil, List.forall_mem_append]
    exact ⟨earlyClosed, closed, laterClosed⟩

/-- A string that nothing closes is read to the end. -/
theorem exists_unclosed {content : List Char} (noQuote : '"' ∉ content) (offset : Nat) :
    ∃ tokens faults, Reading offset ('"' :: content) tokens faults ∧
      tokens.map Token.kindAndLiteral = [(.string, String.ofList content), (.eof, "")] ∧
      ∃ fault ∈ faults, fault.cause = .unterminatedString := by
  have fits := Lexeme.Fits.unclosed noQuote
  have cause : Lexeme.cause? ⟨.string, '"' :: content⟩ = some .unterminatedString := by
    simp [Lexeme.cause?, Lexeme.isOpen, noQuote]
  have whole := of_fits fits (@Reading.ending (offset + byteSize ('"' :: content)) [] (by simp))
  rw [List.append_nil] at whole
  have found : ⟨.unterminatedString, _⟩ ∈ (Lexeme.fault? ⟨.string, '"' :: content⟩ offset).toList :=
    Lexeme.mem_fault?_iff.2 ⟨_, cause, rfl⟩
  refine ⟨_, _, whole, ?_, _, List.mem_append_left [] found, rfl⟩
  rw [List.map_cons, Token.kindAndLiteral, Lexeme.token, Lexeme.literal_unclosed noQuote]
  rfl

/-- A text with an open string is read between blanks as it is where none stand behind it. -/
theorem between_of_unterminated (reading : Reading (offset + byteSize before) text tokens faults)
    {fault : Fault} (member : fault ∈ faults) (unterminated : fault.cause = .unterminatedString)
    (leads : ∀ c ∈ before, isBlank c) (trails : ∀ c ∈ behind, isBlank c) :
    ∃ others otherFaults, Reading offset (before ++ (text ++ behind)) others otherFaults ∧
      (others.map Token.kindAndLiteral = tokens.map Token.kindAndLiteral ↔
        strays before = 0 ∧ behind = []) ∧
      (strays before = 0 → behind = [] → otherFaults = faults) ∧
      ∃ fault ∈ otherFaults, fault.cause = .unterminatedString := by
  obtain ⟨passed, content, body, after, earlier, rfl, noQuote, start, rfl, _, _, extend⟩ :=
    reading.split_unterminated member unterminated
  have noQuoteBehind : '"' ∉ behind := fun quote => absurd (trails _ quote) (by decide)
  have noQuotes : '"' ∉ content ++ behind := by simp [noQuote, noQuoteBehind]
  obtain ⟨alone, aloneFaults, opened, aloneKinds, _⟩ := exists_unclosed noQuote fault.span.start
  obtain ⟨longer, longerFaults, grown, longerKinds, other, otherMember, otherCause⟩ :=
    exists_unclosed noQuotes fault.span.start
  have same := extend [] alone aloneFaults (by simpa using opened)
  rw [List.append_nil] at same
  obtain ⟨tokensSame, rfl⟩ := reading.unique same
  obtain ⟨early, earlyFaults, whole, count, faultCount, _⟩ :=
    blanks_append leads (extend behind longer longerFaults grown)
  refine ⟨_, _, whole, ?_, ?_, other, by simp [otherMember], otherCause⟩
  · simp only [tokensSame, List.map_append, aloneKinds, longerKinds]
    constructor
    · intro equal
      have lengths := congrArg List.length equal
      simp only [List.length_map, List.length_append, List.length_cons, List.length_nil] at lengths
      have none : early = [] := List.eq_nil_of_length_eq_zero (by omega)
      rw [none] at equal count
      exact ⟨count.symm, by simpa using equal⟩
    · rintro ⟨none, rfl⟩
      rw [none] at count
      simp [List.eq_nil_of_length_eq_zero count]
  · rintro none rfl
    rw [none] at faultCount
    rw [List.append_nil] at grown
    obtain ⟨_, rfl⟩ := grown.unique opened
    simp [List.eq_nil_of_length_eq_zero faultCount]

/-- A text is read between blanks as it is exactly where they are gaps, and none of them goes on
    with a string of the text. -/
theorem between_blanks (reading : Reading (offset + byteSize before) text tokens faults)
    (leads : ∀ c ∈ before, isBlank c) (trails : ∀ c ∈ behind, isBlank c) :
    ∃ others otherFaults, Reading offset (before ++ (text ++ behind)) others otherFaults ∧
      (others.map Token.kindAndLiteral = tokens.map Token.kindAndLiteral ↔
        GapsOnly before behind otherFaults) ∧
      (GapsOnly before behind otherFaults → otherFaults = faults) := by
  simp only [gapsOnly_iff]
  by_cases unterminated : ∃ fault ∈ faults, fault.cause = .unterminatedString
  · obtain ⟨fault, member, cause⟩ := unterminated
    obtain ⟨others, otherFaults, whole, same, faultsSame, other, otherMember, otherCause⟩ :=
      reading.between_of_unterminated member cause leads trails
    have onlyEmpty : ¬ ∀ fault ∈ otherFaults, fault.cause ≠ .unterminatedString :=
      fun closed => closed other otherMember otherCause
    refine ⟨others, otherFaults, whole, ?_, ?_⟩
    · simp only [same, onlyEmpty, and_false, or_false]
    · simpa only [onlyEmpty, and_false, or_false, and_imp] using faultsSame
  · have closed : ∀ fault ∈ faults, fault.cause ≠ .unterminatedString := by simpa using unterminated
    obtain ⟨others, otherFaults, whole, same, faultsSame, allClosed⟩ :=
      reading.between_of_closed closed leads trails
    have gaps : (behind = [] ∨ strays behind = 0 ∧
        ∀ fault ∈ otherFaults, fault.cause ≠ .unterminatedString) ↔ strays behind = 0 := by
      refine ⟨?_, fun none => .inr ⟨none, allClosed⟩⟩
      rintro (rfl | ⟨none, _⟩)
      · rfl
      · exact none
    exact ⟨others, otherFaults, whole, by rw [same, gaps], by rwa [gaps, and_imp]⟩

end Reading

namespace Prompt

/-- A line that is no word of farewell is dumped without the blanks around it. That is the dump of
    the line itself, with its diagnostics but for their places, exactly where the blanks cut off are
    gaps and do not go on with a string. -/
theorem tokenize_trimmed_iff (line : String) :
    (∀ before core behind, Text.Trims line.toList before core behind ↔
      before = Text.leading line.toList ∧ core = (trimmed line).toList ∧
        behind = Text.trailing line.toList) ∧
    Request.ofLine (Text.encode line) =
      (if trimmed line = "" then .nothing
      else if trimmed line = "exit" ∨ trimmed line = "quit" then .farewell
      else .dump (trimmed line)) ∧
    ((tokenize (trimmed line)).map Token.kindAndLiteral =
        (tokenize line).map Token.kindAndLiteral ↔
      GapsOnly (Text.leading line.toList) (Text.trailing line.toList) (faults line)) ∧
    (GapsOnly (Text.leading line.toList) (Text.trailing line.toList) (faults line) →
      (faults line).map Fault.diagnostic = ((faults (trimmed line)).map Fault.diagnostic).map
        (·.shift (byteSize (Text.leading line.toList)))) := by
  have core : (trimmed line).toList = Text.trim line.toList := String.toList_ofList
  have decoded : Text.decode? (Text.encode line) = some line := Text.decode?_eq_some_iff.2 rfl
  obtain ⟨whole, leads, trails, _⟩ := Text.trims_leading_trailing line.toList
  have reading := (reading_source (trimmed line)).shift (byteSize (Text.leading line.toList))
  obtain ⟨tokens, found, between, same, faultsSame⟩ := reading.between_blanks leads trails
  rw [core, ← whole] at between
  obtain ⟨rfl, rfl⟩ := between.eq_tokenize
  have kinds : ((tokenize (trimmed line)).map
      (·.shift (byteSize (Text.leading line.toList)))).map Token.kindAndLiteral =
        (tokenize (trimmed line)).map Token.kindAndLiteral := List.map_map
  refine ⟨fun _ _ _ => ?_, ofLine_eq decoded, ?_, fun gaps => ?_⟩
  · rw [core, Text.trims_iff]
  · rw [← same, kinds, eq_comm]
  · rw [faultsSame gaps, List.map_map, List.map_map]
    exact List.map_congr_left fun fault _ => diagnostic_shift fault _

end Prompt

end GoldFront
