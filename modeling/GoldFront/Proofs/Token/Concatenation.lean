import GoldFront.Proofs.Token.Diagnostics

namespace GoldFront

open Text (byteSize slice?)

/-- The same bytes behind a number of others. -/
def Span.shift (span : Span) (by_ : Nat) : Span := ⟨span.start + by_, span.stop + by_⟩

def Token.shift (token : Token) (by_ : Nat) : Token := { token with span := token.span.shift by_ }

def Fault.shift (fault : Fault) (by_ : Nat) : Fault := { fault with span := fault.span.shift by_ }

def Diagnostic.shift (diagnostic : Diagnostic) (by_ : Nat) : Diagnostic :=
  { diagnostic with span := diagnostic.span.shift by_ }

theorem diagnostic_shift (fault : Fault) (by_ : Nat) :
    (fault.shift by_).diagnostic = fault.diagnostic.shift by_ := by
  obtain ⟨cause, span⟩ := fault
  cases cause <;> rfl

theorem token_shift (lexeme : Lexeme) (start by_ : Nat) :
    lexeme.token (start + by_) = (lexeme.token start).shift by_ := by
  simp [Lexeme.token, Lexeme.span, Token.shift, Span.shift, Nat.add_right_comm]

theorem fault?_shift (lexeme : Lexeme) (start by_ : Nat) :
    lexeme.fault? (start + by_) = (lexeme.fault? start).map (·.shift by_) := by
  simp [Lexeme.fault?, Lexeme.span, Fault.shift, Span.shift, Function.comp_def, Nat.add_right_comm]

namespace Reading

variable {offset : Nat} {text more : List Char} {tokens others : List Token}
  {faults otherFaults : List Fault}

/-- What is read does not depend on where the text starts. -/
theorem shift (reading : Reading offset text tokens faults) (by_ : Nat) :
    Reading (offset + by_) text (tokens.map (·.shift by_)) (faults.map (·.shift by_)) := by
  induction reading with
  | @ending offset gap gaps =>
    have ended : Reading (offset + by_) gap _ _ := .ending gaps
    rw [Nat.add_right_comm] at ended
    exact ended
  | @lexeme offset gap after lexeme tokens faults gaps fits _ ih =>
    have later : Reading (offset + by_ + byteSize gap + byteSize lexeme.text) after
        (tokens.map (·.shift by_)) (faults.map (·.shift by_)) := by
      rw [Nat.add_right_comm offset, Nat.add_right_comm]
      exact ih
    have whole := Reading.lexeme gaps fits later
    rw [Nat.add_right_comm, token_shift, fault?_shift, Option.toList_map, ← List.map_append] at whole
    exact whole

theorem tokens_ne_nil (reading : Reading offset text tokens faults) : tokens ≠ [] := by
  cases reading <;> simp

theorem gap_append {gap : List Char} (gaps : ∀ c ∈ gap, isGap c)
    (reading : Reading (offset + byteSize gap) text tokens faults) :
    Reading offset (gap ++ text) tokens faults := by
  have passed : ∀ {first : List Char}, (∀ c ∈ first, isGap c) → ∀ c ∈ gap ++ first, isGap c := by
    intro first firsts c member
    exact (List.mem_append.1 member).elim (gaps c) (firsts c)
  cases reading with
  | ending firsts =>
    have ended : Reading offset (gap ++ text) _ _ := .ending (passed firsts)
    rw [Text.byteSize_append, ← Nat.add_assoc] at ended
    exact ended
  | @lexeme _ first after lexeme tokens faults firsts fits later =>
    rw [Nat.add_assoc offset, ← Text.byteSize_append] at later ⊢
    rw [← List.append_assoc]
    exact .lexeme (passed firsts) fits later

end Reading

/-- A lexeme fits before a text that starts like the one that it fits before. -/
theorem Lexeme.Fits.of_head?_eq {lexeme : Lexeme} {after other : List Char}
    (fits : lexeme.Fits after) (same : other.head? = after.head?) : lexeme.Fits other := by
  rw [fits.fits_iff, same]
  exact fits.fits_iff.1 fits

/-- A lexeme that nothing leaves open fits before a blank too. -/
theorem Lexeme.Fits.append_blank {lexeme : Lexeme} {after more : List Char}
    (fits : lexeme.Fits after) (closed : lexeme.cause? ≠ some .unterminatedString)
    (blank : ∀ d ∈ more.head?, Text.isBlank d) : lexeme.Fits (after ++ more) := by
  cases after with
  | cons d after => exact fits.of_head?_eq rfl
  | nil => exact fits.fits_iff.2 fun d first => fits.not_extends_blank closed (blank d first)

namespace Reading

variable {offset : Nat} {text more : List Char} {tokens others : List Token}
  {faults otherFaults : List Fault}

/-- Where nothing is left open, what starts with a blank is read by itself. -/
theorem append (reading : Reading offset text tokens faults)
    (closed : ∀ fault ∈ faults, fault.cause ≠ .unterminatedString)
    (blank : ∀ d ∈ more.head?, Text.isBlank d)
    (behind : Reading (offset + byteSize text) more others otherFaults) :
    Reading offset (text ++ more) (tokens.dropLast ++ others) (faults ++ otherFaults) := by
  induction reading with
  | ending gaps => exact gap_append gaps behind
  | @lexeme offset gap after lexeme tokens faults gaps fits later ih =>
    have lexemeClosed : lexeme.cause? ≠ some .unterminatedString := by
      intro cause
      exact closed _ (List.mem_append_left _ (Lexeme.mem_fault?_iff.2 ⟨_, cause, rfl⟩)) rfl
    have left := ih (fun fault member => closed fault (List.mem_append_right _ member))
      (by simpa [Nat.add_assoc] using behind)
    have whole := Reading.lexeme gaps (fits.append_blank lexemeClosed blank) left
    rw [List.dropLast_cons_of_ne_nil later.tokens_ne_nil]
    simpa using whole

/-- A text with an open string: what is read before the string does not depend on how it goes on. -/
theorem split_unterminated (reading : Reading offset text tokens faults) {fault : Fault}
    (member : fault ∈ faults) (unterminated : fault.cause = .unterminatedString) :
    ∃ passed content before after earlier, text = passed ++ '"' :: content ∧ '"' ∉ content ∧
      fault.span.start = offset + byteSize passed ∧ tokens = before ++ after ∧
      (∀ token ∈ before, token.span.start < fault.span.start) ∧
      (∀ token ∈ after, fault.span.start ≤ token.span.start) ∧
      ∀ more others otherFaults,
        Reading fault.span.start ('"' :: (content ++ more)) others otherFaults →
        Reading offset (text ++ more) (before ++ others) (earlier ++ otherFaults) := by
  induction reading with
  | ending => simp at member
  | @lexeme offset gap after lexeme tokens faults gaps fits later ih =>
    rcases List.mem_append.1 member with first | behind
    · obtain ⟨cause, found, rfl⟩ := Lexeme.mem_fault?_iff.1 first
      obtain rfl : cause = .unterminatedString := unterminated
      -- The string is the last lexeme: only the end token comes behind it.
      obtain ⟨string, text, rfl⟩ := fits.of_unterminated found
      obtain ⟨rfl, _⟩ := later.unique (.ending (by simp))
      refine ⟨gap, lexeme.literal, [], _, [], by simp [text], (fits.of_string string).1, rfl, rfl,
        by simp, ?_, ?_⟩
      · simp [Lexeme.token, Lexeme.span, Token.eof, Span.empty]
      · intro more others otherFaults reading
        have whole := gap_append gaps reading
        simpa [text] using whole
    · obtain ⟨passed, content, before, ended, earlier, rfl, noQuote, start, rfl, early, late,
        extend⟩ := ih behind
      have size := Text.byteSize_pos fits.text_ne_nil
      refine ⟨gap ++ (lexeme.text ++ passed), content,
        lexeme.token (offset + byteSize gap) :: before, ended,
        (lexeme.fault? (offset + byteSize gap)).toList ++ earlier, by simp, noQuote,
        by simp [start, Nat.add_assoc], rfl, ?_, late, ?_⟩
      · simp only [List.forall_mem_cons]
        refine ⟨?_, early⟩
        simp only [Lexeme.token, Lexeme.span]
        omega
      · intro more others otherFaults reading
        have left := extend more others otherFaults reading
        -- Up to its quote the text stays, so it starts with the same character.
        have same : (passed ++ '"' :: content ++ more).head? = (passed ++ '"' :: content).head? := by
          cases passed <;> rfl
        have whole := Reading.lexeme gaps (fits.of_head?_eq same) left
        simpa only [List.append_assoc, List.cons_append] using whole

end Reading

/-- Behind a quote, a string is read up to the next quote. -/
theorem exists_reading_string (offset : Nat) (rest : List Char) :
    ∃ opened later faults, Reading offset ('"' :: rest) (opened :: later) faults ∧
      opened.kind = .string ∧ opened.span.start = offset ∧
      opened.literal.toList = rest.takeWhile (· != '"') := by
  have fits := Lexeme.fits_read (c := '"') (by decide) rest
  obtain ⟨string, literal⟩ := Lexeme.read_quote rest
  obtain ⟨later, faults, after⟩ := exists_reading
    (offset + byteSize (Lexeme.read '"' rest).1.text) (Lexeme.read '"' rest).2
  have whole := Reading.of_fits fits after
  rw [Lexeme.read_append] at whole
  exact ⟨_, later, _, whole, string, rfl, by rw [Lexeme.token, String.toList_ofList, literal]⟩

/-- Two sources with a gap between them, where nothing in the first is left open. -/
theorem tokenize_append_of_closed {first gap : String} (second : String)
    (closed : ∀ fault ∈ faults first, fault.cause ≠ .unterminatedString) (nonempty : gap ≠ "")
    (gaps : ∀ c ∈ gap.toList, isGap c) :
    tokenize (first ++ gap ++ second) = (tokenize first).dropLast ++
        (tokenize second).map (·.shift (first ++ gap).utf8ByteSize) ∧
      faults (first ++ gap ++ second) = faults first ++
        (faults second).map (·.shift (first ++ gap).utf8ByteSize) := by
  have behind := (reading_source second).shift (first ++ gap).utf8ByteSize
  rw [← Text.byteSize_toList] at behind ⊢
  rw [String.toList_append, Text.byteSize_append, ← Nat.add_assoc] at behind
  have blank : ∀ d ∈ (gap.toList ++ second.toList).head?, Text.isBlank d := by
    intro d first
    obtain ⟨c, rest, text⟩ := List.exists_cons_of_ne_nil (mt String.toList_eq_nil_iff.1 nonempty)
    obtain rfl : c = d := by simpa [text] using first
    exact isBlank_of_isGap (gaps c (by simp [text]))
  have both := (reading_source first).append closed blank (Reading.gap_append gaps behind)
  rw [← List.append_assoc, ← String.toList_append, ← String.toList_append] at both
  simpa using both.eq_tokenize

/-- A source with an open string, and whatever is written behind it. -/
theorem tokenize_append_of_unterminated {first : String} (more : String) {fault : Fault}
    (member : fault ∈ faults first) (unterminated : fault.cause = .unterminatedString) :
    ∃ opened later content,
      tokenize (first ++ more) =
        (tokenize first).filter (·.span.start < fault.span.start) ++ opened :: later ∧
      opened.kind = .string ∧ opened.span.start = fault.span.start ∧
      slice? first.toList ⟨fault.span.start + 1, first.utf8ByteSize⟩ = some content ∧
      opened.literal.toList = content ++ more.toList.takeWhile (· != '"') := by
  obtain ⟨passed, content, before, after, earlier, text, noQuote, start, tokens, early, late, extend⟩ :=
    (reading_source first).split_unterminated member unterminated
  obtain ⟨opened, later, found, string, kind, place, literal⟩ :=
    exists_reading_string fault.span.start (content ++ more.toList)
  have both := extend _ _ _ string
  rw [← String.toList_append] at both
  refine ⟨opened, later, content, ?_, kind, place, ?_, ?_⟩
  · have kept : before.filter (·.span.start < fault.span.start) = before :=
      List.filter_eq_self.2 fun token member => by simpa using early token member
    have dropped : after.filter (·.span.start < fault.span.start) = [] :=
      List.filter_eq_nil_iff.2 fun token member => by simpa using late token member
    rw [both.eq_tokenize.1, tokens, List.filter_append, kept, dropped, List.append_nil]
  · rw [text, ← Text.byteSize_toList, text, start, Nat.zero_add]
    exact Text.slice?_behind passed '"' content
  · have inside : ∀ d ∈ content, (d != '"') = true := by
      simpa [← List.forall_mem_ne'] using noQuote
    rw [literal, List.takeWhile_append_of_pos inside]

/-- A source behind a gap is read by itself, but where a string of the source before the gap goes on
    over it. -/
theorem tokenize_append_gap (first gap second : String) (nonempty : gap ≠ "")
    (gaps : ∀ c ∈ gap.toList, c = ' ' ∨ c = '\t' ∨ c = '\n' ∨ c = '\r') :
    ((∀ fault ∈ faults first, fault.cause ≠ .unterminatedString) →
      tokenize (first ++ gap ++ second) = (tokenize first).dropLast ++
        (tokenize second).map (·.shift (first ++ gap).utf8ByteSize) ∧
      (faults (first ++ gap ++ second)).map Fault.diagnostic = (faults first).map Fault.diagnostic ++
        ((faults second).map Fault.diagnostic).map (·.shift (first ++ gap).utf8ByteSize)) ∧
    ∀ fault ∈ faults first, fault.cause = .unterminatedString →
      ∃ opened later content,
        tokenize (first ++ gap ++ second) =
          (tokenize first).filter (·.span.start < fault.span.start) ++ opened :: later ∧
        opened.kind = .string ∧ opened.span.start = fault.span.start ∧
        slice? first.toList ⟨fault.span.start + 1, first.utf8ByteSize⟩ = some content ∧
        content ++ gap.toList <+: opened.literal.toList := by
  constructor
  · intro closed
    obtain ⟨tokens, found⟩ := tokenize_append_of_closed second closed nonempty
      fun c member => isGap_iff.2 (gaps c member)
    refine ⟨tokens, ?_⟩
    rw [found, List.map_append, List.map_map, List.map_map]
    exact congrArg _ (List.map_congr_left fun fault _ => diagnostic_shift fault _)
  · intro fault member unterminated
    obtain ⟨opened, later, content, tokens, kind, start, slice, literal⟩ :=
      tokenize_append_of_unterminated (gap ++ second) member unterminated
    rw [← String.append_assoc] at tokens
    refine ⟨opened, later, content, tokens, kind, start, slice, ?_⟩
    have inside : ∀ d ∈ gap.toList, (d != '"') = true := by
      intro d inGap
      rcases gaps d inGap with rfl | rfl | rfl | rfl <;> decide
    rw [literal, String.toList_append, List.takeWhile_append_of_pos inside, ← List.append_assoc]
    exact List.prefix_append _ _

/-- A word stays as it is before a line end, and the string behind the word goes on over it. -/
theorem tokenize_word_and_string : "\n" ≠ "" ∧
    (tokenize ("x" ++ "\n" ++ "1") = (tokenize "x").dropLast ++ (tokenize "1").map (·.shift 2) ∧
      (faults ("x" ++ "\n" ++ "1")).map Fault.diagnostic = (faults "x").map Fault.diagnostic ++
        ((faults "1").map Fault.diagnostic).map (·.shift 2)) ∧
    ∃ opened later content, tokenize ("x \"a" ++ "\n" ++ "1") =
        (tokenize "x \"a").filter (·.span.start < 2) ++ opened :: later ∧
      opened.kind = .string ∧ opened.span.start = 2 ∧
      slice? "x \"a".toList ⟨3, 4⟩ = some content ∧ content ++ ['\n'] <+: opened.literal.toList := by
  have apart := tokenize_append_gap "x" "\n" "1" (by decide) (by simp)
  have onward := tokenize_append_gap "x \"a" "\n" "1" (by decide) (by simp)
  have closed : faults "x" = [] := by decide +kernel
  have unterminated : ⟨.unterminatedString, ⟨2, 4⟩⟩ ∈ faults "x \"a" := by decide +kernel
  refine ⟨by decide, apart.1 (by simp [closed]), onward.2 _ unterminated rfl⟩

/-- What a token is compared by. -/
def Token.kindAndLiteral (token : Token) : Kind × String := (token.kind, token.literal)

/-- What a lexeme's token is compared by. -/
def Lexeme.kindAndLiteral (lexeme : Lexeme) : Kind × String :=
  (lexeme.kind, String.ofList lexeme.literal)

/-- What the token of a symbol is compared by. -/
def Symbol.kindAndLiteral (symbol : Symbol) : Kind × String :=
  (.symbol symbol, String.ofList symbol.spelling)

/-- A text that goes on with neither a word nor a number. -/
def Apart (text : List Char) : Prop := ∀ d ∈ text.head?, isWordChar d = false ∧ d ≠ '.'

theorem apart_nil : Apart [] := by simp [Apart]

theorem Apart.append {text after : List Char} (apart : Apart text) (later : Apart after) :
    Apart (text ++ after) := by
  cases text with
  | nil => exact later
  | cons c text => exact apart

theorem apart_of_spelling (symbol : Symbol) {c : Char} {text : List Char}
    (spelled : symbol.spelling = [c]) : Apart (c :: text) := by
  rintro d ⟨⟩
  obtain ⟨_, _, noLetter, noDigit⟩ := Symbol.start_of_spelling spelled
  refine ⟨by rw [isWordChar, noLetter, noDigit]; rfl, ?_⟩
  rintro rfl
  cases symbol <;> cases spelled

/-- A text that is read as these kinds and literals, whatever stands apart behind it. -/
def ReadsAs (text : List Char) (items : List (Kind × String)) : Prop :=
  ∀ offset after tokens faults, Apart after → Reading (offset + byteSize text) after tokens faults →
    ∃ read, Reading offset (text ++ after) (read ++ tokens) faults ∧
      read.map Token.kindAndLiteral = items

namespace ReadsAs

variable {text more : List Char} {items others : List (Kind × String)}

theorem nil : ReadsAs [] [] :=
  fun _ _ _ _ _ reading => ⟨[], reading, rfl⟩

theorem append (first : ReadsAs text items) (second : ReadsAs more others) (apart : Apart more) :
    ReadsAs (text ++ more) (items ++ others) := by
  intro offset after tokens faults later reading
  rw [Text.byteSize_append, ← Nat.add_assoc] at reading
  obtain ⟨read, behind, same⟩ := second _ _ _ _ later reading
  obtain ⟨front, whole, frontSame⟩ := first _ _ _ _ (apart.append later) behind
  refine ⟨front ++ read, ?_, by rw [List.map_append, frontSame, same]⟩
  simpa only [List.append_assoc] using whole

theorem gap {c : Char} (gap : isGap c) (reads : ReadsAs text items) : ReadsAs (c :: text) items := by
  intro offset after tokens faults apart reading
  rw [Text.byteSize_cons, ← Nat.add_assoc] at reading
  obtain ⟨read, behind, same⟩ := reads _ _ _ _ apart reading
  have gaps : ∀ d ∈ [c], isGap d := by simpa using gap
  exact ⟨read, @Reading.gap_append _ _ _ _ [c] gaps behind, same⟩

/-- A lexeme in front of a text that it fits before, whatever follows the text. -/
theorem of_fits {lexeme : Lexeme} (noCause : lexeme.cause? = none)
    (fits : ∀ after, Apart after → lexeme.Fits (more ++ after)) (reads : ReadsAs more others) :
    ReadsAs (lexeme.text ++ more) (lexeme.kindAndLiteral :: others) := by
  intro offset after tokens faults apart reading
  rw [Text.byteSize_append, ← Nat.add_assoc] at reading
  obtain ⟨read, behind, same⟩ := reads _ _ _ _ apart reading
  have whole := Reading.of_fits (fits after apart) behind
  rw [Lexeme.fault?, noCause] at whole
  refine ⟨lexeme.token offset :: read, by simpa using whole, ?_⟩
  rw [List.map_cons, same]
  rfl

/-- A symbol of one character, in front of a text that does not complete it to another. -/
theorem symbol {symbol : Symbol} {c : Char} (spelled : symbol.spelling = [c])
    (alone : ∀ after, ∀ d ∈ (more ++ after).head?, Symbol.ofPair? c d = none)
    (reads : ReadsAs more others) :
    ReadsAs (c :: more) (symbol.kindAndLiteral :: others) := by
  rw [Symbol.kindAndLiteral, spelled]
  exact @of_fits more others ⟨.symbol symbol, [c]⟩ rfl (fun after _ => .single spelled (alone after))
    reads

/-- A symbol that no character completes to another. -/
theorem bracket {symbol : Symbol} {c : Char} (spelled : symbol.spelling = [c])
    (alone : ∀ d, Symbol.ofPair? c d = none) (reads : ReadsAs more others) :
    ReadsAs (c :: more) (symbol.kindAndLiteral :: others) :=
  reads.symbol spelled fun _ d _ => alone d

theorem of_plain {lexeme : Lexeme} (plain : lexeme.kind ≠ .string) (noCause : lexeme.cause? = none)
    (fits : ∀ after, Apart after → lexeme.Fits after) :
    ReadsAs lexeme.text [(lexeme.kind, String.ofList lexeme.text)] := by
  have whole := @of_fits [] [] lexeme noCause fits nil
  rw [Lexeme.kindAndLiteral, Lexeme.literal_of_ne_string plain, List.append_nil] at whole
  exact whole

theorem word {c : Char} {run : List Char} (letter : isLetter c) (inside : ∀ d ∈ run, isWordChar d) :
    ReadsAs (c :: run) [(.ofWord (String.ofList (c :: run)), String.ofList (c :: run))] := by
  have fits : ∀ after, Apart after →
      Lexeme.Fits ⟨.ofWord (String.ofList (c :: run)), c :: run⟩ after :=
    fun after apart => .word letter inside fun d first => (apart d first).1
  obtain ⟨noString, noIllegal, _⟩ := Lexeme.ofWord_ne (String.ofList (c :: run))
  have noCause : Lexeme.cause? ⟨.ofWord (String.ofList (c :: run)), c :: run⟩ = none := by
    rcases (fits [] apart_nil).cause?_cases with ⟨none, _⟩ | ⟨d, illegal, _⟩ | ⟨string, _⟩
    · exact none
    · exact absurd (congrArg Lexeme.kind illegal) noIllegal
    · exact absurd string noString
  exact of_plain noString noCause fits

theorem int {c : Char} {run : List Char} (digit : c.isDigit) (inside : ∀ d ∈ run, d.isDigit) :
    ReadsAs (c :: run) [(.int, String.ofList (c :: run))] := by
  have fits : ∀ after, Apart after → Lexeme.Fits ⟨.int, c :: run⟩ after := by
    intro after apart
    refine .int digit inside fun d first => ⟨?_, (apart d first).2⟩
    exact (Bool.or_eq_false_iff.1 (apart d first).1).2
  exact of_plain (by simp) rfl fits

theorem float {c : Char} {run part : List Char} (digit : c.isDigit) (inside : ∀ d ∈ run, d.isDigit)
    (behind : ∀ d ∈ part, d.isDigit) :
    ReadsAs (c :: run ++ '.' :: part) [(.float, String.ofList (c :: run ++ '.' :: part))] := by
  have fits : ∀ after, Apart after → Lexeme.Fits ⟨.float, c :: run ++ '.' :: part⟩ after := by
    intro after apart
    refine .float digit inside behind fun d first => ?_
    exact (Bool.or_eq_false_iff.1 (apart d first).1).2
  exact of_plain (by simp) rfl fits

theorem string {content : List Char} (noQuote : '"' ∉ content) :
    ReadsAs ('"' :: (content ++ ['"'])) [(.string, String.ofList content)] := by
  have fits : ∀ after, Apart after → Lexeme.Fits ⟨.string, '"' :: (content ++ ['"'])⟩ after :=
    fun _ _ => .closed noQuote
  have whole := @of_fits [] [] _ (by simp [Lexeme.cause?, Lexeme.isOpen]) fits nil
  rw [Lexeme.kindAndLiteral, Lexeme.literal_closed noQuote, List.append_nil] at whole
  exact whole

/-- A text that is read alike everywhere is read so as a source, without a fault. -/
theorem tokenize_eq {source : String} (reads : ReadsAs source.toList items) :
    (tokenize source).map Token.kindAndLiteral = items ++ [(.eof, "")] ∧ faults source = [] := by
  have ending : Reading (0 + byteSize source.toList) [] _ [] := .ending (by simp)
  obtain ⟨read, whole, same⟩ := reads _ _ _ _ apart_nil ending
  rw [List.append_nil] at whole
  obtain ⟨tokens, noFault⟩ := whole.eq_tokenize
  exact ⟨by rw [tokens, List.map_append, same]; rfl, noFault⟩

end ReadsAs

end GoldFront
