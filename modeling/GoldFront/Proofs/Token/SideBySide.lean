import Mathlib.Data.List.Basic
import Mathlib.Data.List.Chain
import GoldFront.Proofs.Token.Concatenation

namespace GoldFront

open Text (byteSize slice?)

/-- Reading looks no further than the first character behind a lexeme. -/
theorem Lexeme.Fits.append {lexeme : Lexeme} {after : List Char} (fits : lexeme.Fits after)
    (some : after ≠ []) (more : List Char) : lexeme.Fits (after ++ more) :=
  fits.of_head?_eq (List.head?_append_of_ne_nil after some)

/-- Before more text, what is read where a lexeme fits at the end begins with the lexeme. -/
theorem Lexeme.Fits.prefix_of_append {lexeme other : Lexeme} {more after : List Char}
    (fits : lexeme.Fits []) (otherFits : other.Fits after)
    (same : other.text ++ after = lexeme.text ++ more) : lexeme.text <+: other.text := by
  obtain ⟨part, text, rfl⟩ | ⟨part, text, rfl⟩ := List.append_eq_append_iff.1 same
  · by_cases whole : part = []
    · exact ⟨[], by simp [text, whole]⟩
    · -- A shorter one is decided by a character of the lexeme, and so would fit without more text.
      have shorter := otherFits.of_head?_eq (List.head?_append_of_ne_nil part whole).symm
      obtain ⟨_, ended⟩ := fits.unique shorter (by rw [List.append_nil, text])
      exact absurd ended whole
  · rw [text]
    exact List.prefix_append _ _

theorem Lexeme.Fits.exists_longer {lexeme : Lexeme} (fits : lexeme.Fits []) (more : List Char) :
    ∃ other after, Lexeme.Fits other after ∧ lexeme.text ++ more = other.text ++ after ∧
      lexeme.text <+: other.text := by
  obtain ⟨c, rest, text, noGap⟩ := fits.exists_cons
  have whole :
      (read c (rest ++ more)).1.text ++ (read c (rest ++ more)).2 = lexeme.text ++ more := by
    rw [read_append, text, List.cons_append]
  have otherFits := fits_read noGap (rest ++ more)
  exact ⟨_, _, otherFits, whole.symm, fits.prefix_of_append otherFits whole⟩

/-- The fault of a lexeme is met where the lexeme starts, and so before every later span. -/
theorem Lexeme.filter_span_fault?_eq_nil {lexeme : Lexeme} (some : lexeme.text ≠ []) {start : Nat}
    {span : Span} (later : start + byteSize lexeme.text ≤ span.start) :
    (lexeme.fault? start).toList.filter (·.span = span) = [] := by
  have size := Text.byteSize_pos some
  refine List.filter_eq_nil_iff.2 fun fault member same => ?_
  obtain ⟨cause, _, rfl⟩ := mem_fault?_iff.1 member
  rw [← of_decide_eq_true same] at later
  simp only [Lexeme.span] at later
  omega

/-- The diagnostics of a source at a span. -/
def diagnosticsAt (span : Span) (source : String) : List Diagnostic :=
  ((faults source).map Fault.diagnostic).filter (·.span = span)

theorem diagnosticsAt_eq (span : Span) (source : String) :
    diagnosticsAt span source = ((faults source).filter (·.span = span)).map Fault.diagnostic := by
  rw [diagnosticsAt, List.filter_map]
  simp only [Function.comp_def, span_diagnostic]

namespace Reading

variable {offset : Nat} {text more : List Char} {tokens others : List Token}
  {faults otherFaults : List Fault}

theorem start_of_token (reading : Reading offset text tokens faults) {token : Token}
    (member : token ∈ tokens) : offset ≤ token.span.start := by
  rcases reading.eof_or_lexeme member with rfl | ⟨before, lexeme, after, _, _, rfl⟩
  · simp [Token.eof, Span.empty]
  · simp [Lexeme.token, Lexeme.span]

/-- What is met later is not met at an earlier span. -/
theorem filter_span_eq_nil (reading : Reading offset text tokens faults) {span : Span}
    (before : span.start < offset) : faults.filter (·.span = span) = [] := by
  refine List.filter_eq_nil_iff.2 fun fault member same => ?_
  have behind := (reading.span_of_fault fault member).1
  rw [of_decide_eq_true same] at behind
  omega

theorem getElem?_ending {place : Nat} {token : Token}
    (found : [Token.eof offset][place]? = some token) : token.kind = .eof := by
  have member := List.mem_of_getElem? found
  rw [List.mem_singleton.1 member]
  rfl

/-- Before more text, what is read in place of the last lexeme starts where it does and ends no
    earlier. -/
theorem exists_longer_token {gap : List Char} {lexeme : Lexeme} (gaps : ∀ c ∈ gap, isGap c)
    (fits : lexeme.Fits [])
    (longer : Reading offset (gap ++ (lexeme.text ++ more)) others otherFaults) :
    ∃ other, others[0]? = some other ∧ other.kind ≠ .eof ∧
      other.span.start = (lexeme.token (offset + byteSize gap)).span.start ∧
      (lexeme.token (offset + byteSize gap)).span.stop ≤ other.span.stop := by
  obtain ⟨other, rest, otherFits, same, part, grown⟩ := fits.exists_longer more
  obtain ⟨further, furtherFaults, behind⟩ :=
    exists_reading (offset + byteSize gap + byteSize other.text) rest
  rw [same] at longer
  obtain ⟨rfl, rfl⟩ := longer.unique (.lexeme gaps otherFits behind)
  refine ⟨_, rfl, otherFits.kind_ne_eof, rfl, ?_⟩
  simp [Lexeme.token, Lexeme.span, ← grown]

/-- A token is read again before more text, with its faults, unless the text ends with it; then what
    is read in its place starts where it does and ends no earlier. -/
theorem getElem?_append (reading : Reading offset text tokens faults)
    (longer : Reading offset (text ++ more) others otherFaults) {place : Nat} {token : Token}
    (found : tokens[place]? = some token) (notEnd : token.kind ≠ .eof) :
    (token.span.stop < offset + byteSize text ∧ others[place]? = some token ∧
        otherFaults.filter (·.span = token.span) = faults.filter (·.span = token.span)) ∨
      (token.span.stop = offset + byteSize text ∧ place + 2 = tokens.length ∧
        ∃ other, others[place]? = some other ∧ other.kind ≠ .eof ∧
          other.span.start = token.span.start ∧ token.span.stop ≤ other.span.stop) := by
  induction reading generalizing others otherFaults place with
  | ending => exact absurd (getElem?_ending found) notEnd
  | @lexeme offset gap after lexeme tokens faults gaps fits later ih =>
    have size := Text.byteSize_pos fits.text_ne_nil
    rw [List.append_assoc, List.append_assoc] at longer
    by_cases last : after = []
    · -- Only the end token comes behind the lexeme, so this is the token in question.
      subst last
      obtain ⟨rfl, rfl⟩ := later.unique (.ending (by simp))
      cases place with
      | succ place => exact absurd (getElem?_ending found) notEnd
      | zero =>
        obtain rfl := Option.some.inj found
        refine .inr ⟨?_, rfl, exists_longer_token gaps fits longer⟩
        simp [Lexeme.token, Lexeme.span, Nat.add_assoc]
    · obtain ⟨further, furtherFaults, behind⟩ :=
        exists_reading (offset + byteSize gap + byteSize lexeme.text) (after ++ more)
      obtain ⟨rfl, rfl⟩ := longer.unique (.lexeme gaps (fits.append last more) behind)
      cases place with
      | zero =>
        obtain rfl := Option.some.inj found
        have rest := Text.byteSize_pos last
        refine .inl ⟨?_, rfl, ?_⟩
        · simp only [Lexeme.token, Lexeme.span, Text.byteSize_append]
          omega
        · have early : (lexeme.token (offset + byteSize gap)).span.start <
              offset + byteSize gap + byteSize lexeme.text := by
            simp only [Lexeme.token, Lexeme.span]
            omega
          rw [List.filter_append, List.filter_append, later.filter_span_eq_nil early,
            behind.filter_span_eq_nil early]
      | succ place =>
        have start := later.start_of_token (List.mem_of_getElem? found)
        have none := Lexeme.filter_span_fault?_eq_nil fits.text_ne_nil start
        rw [List.filter_append, List.filter_append, none, List.nil_append, List.nil_append]
        simpa [Nat.add_assoc] using ih behind found

end Reading

/-- More text behind a source changes no token that ends before the end of the source, and lets the
    one that ends with it only grow. -/
theorem tokenize_append_stable (source more : String) (place : Nat) (token : Token)
    (found : (tokenize source)[place]? = some token) (notEnd : token.kind ≠ .eof) :
    (token.span.stop < source.utf8ByteSize →
      (tokenize (source ++ more))[place]? = some token ∧
        diagnosticsAt token.span (source ++ more) = diagnosticsAt token.span source) ∧
    (¬ token.span.stop < source.utf8ByteSize →
      token.span.stop = source.utf8ByteSize ∧ place + 2 = (tokenize source).length ∧
        ∃ other, (tokenize (source ++ more))[place]? = some other ∧ other.kind ≠ .eof ∧
          other.span.start = token.span.start ∧ token.span.stop ≤ other.span.stop) := by
  have longer := reading_source (source ++ more)
  rw [String.toList_append] at longer
  have either := (reading_source source).getElem?_append longer found notEnd
  rw [Nat.zero_add, Text.byteSize_toList] at either
  constructor
  · intro inside
    rcases either with ⟨_, again, same⟩ | ⟨ended, _⟩
    · exact ⟨again, by rw [diagnosticsAt_eq, diagnosticsAt_eq, same]⟩
    · omega
  · intro notInside
    rcases either with ⟨inside, _⟩ | last
    · exact absurd inside notInside
    · exact last

/-- Before `=x`, the illegal character of `é <` stays as it is, and the last token grows. -/
theorem tokenize_append_equals :
    (tokenize ("é <" ++ "=x"))[0]? = some ⟨.illegal, "é", ⟨0, 2⟩⟩ ∧
      diagnosticsAt ⟨0, 2⟩ ("é <" ++ "=x") = diagnosticsAt ⟨0, 2⟩ "é <" ∧
    ∃ other, (tokenize ("é <" ++ "=x"))[1]? = some other ∧ other.kind ≠ .eof ∧
      other.span.start = 3 ∧ 4 ≤ other.span.stop := by
  have first : (tokenize "é <")[0]? = some ⟨.illegal, "é", ⟨0, 2⟩⟩ := by decide +kernel
  have last : (tokenize "é <")[1]? = some ⟨.symbol .lt, "<", ⟨3, 4⟩⟩ := by decide +kernel
  obtain ⟨stays, told⟩ :=
    (tokenize_append_stable "é <" "=x" 0 _ first (by decide)).1 (by decide +kernel)
  obtain ⟨_, _, other⟩ :=
    (tokenize_append_stable "é <" "=x" 1 _ last (by decide)).2 (by decide +kernel)
  exact ⟨stays, told, other⟩

namespace Kind

def isWord : Kind → Bool
  | ident => true
  | keyword _ => true
  | _ => false

def isNumber : Kind → Bool
  | int => true
  | float => true
  | _ => false

theorem isNumber_of_isWord {kind : Kind} (word : kind.isWord) : kind.isNumber = false := by
  cases kind with
  | ident => rfl
  | keyword _ => rfl
  | _ => simp [isWord] at word

theorem isWord_ofWord (word : String) : (ofWord word).isWord := by
  unfold ofWord
  split <;> rfl

end Kind

attribute [ext] Lexeme

namespace Lexeme

/-- A lexeme whose text alone is read as one token of its kind, which is no open string. -/
def StandsAlone (lexeme : Lexeme) : Prop :=
  ∃ token, tokenize (String.ofList lexeme.text) = [token, .eof (byteSize lexeme.text)] ∧
    token.kind = lexeme.kind ∧ token.span = ⟨0, byteSize lexeme.text⟩ ∧
    ¬ token.IsOpen lexeme.text

/-- Whether a lexeme is not told apart from the next without a gap between them. -/
def runsInto (first second : Lexeme) : Bool :=
  match first.kind with
  | .ident => second.kind.isWord || second.kind.isNumber
  | .keyword _ => second.kind.isWord || second.kind.isNumber
  | .int => second.kind.isNumber || second = ⟨.illegal, ['.']⟩
  | .float => second.kind.isNumber
  | .symbol symbol =>
    match symbol with
    | .assign | .bang | .lt | .gt => second.text.head? = some '='
    | .plus => second.text.head? = some '+'
    | .minus => second.text.head? = some '-'
    | _ => false
  | _ => false

theorem runsInto_of_isWord {first second : Lexeme} (word : first.kind.isWord) :
    first.runsInto second = (second.kind.isWord || second.kind.isNumber) := by
  obtain ⟨kind, text⟩ := first
  cases kind with
  | ident => rfl
  | keyword _ => rfl
  | _ => simp [Kind.isWord] at word

theorem standsAlone_iff {lexeme : Lexeme} :
    lexeme.StandsAlone ↔ lexeme.Fits [] ∧ lexeme.cause? ≠ some .unterminatedString := by
  constructor
  · rintro ⟨token, alone, kind, span, closed⟩
    have reading := reading_source (String.ofList lexeme.text)
    rw [alone, String.toList_ofList] at reading
    rcases gap_or_lexeme lexeme.text with gap | ⟨gap, other, after, whole, gaps, fits⟩
    · have tokens := (reading.unique (.ending gap)).1
      simp at tokens
    · obtain ⟨later, faults, behind⟩ :=
        exists_reading (0 + byteSize gap + byteSize other.text) after
      have read := Reading.lexeme gaps fits behind
      rw [← whole] at read
      obtain ⟨rfl, _⟩ := List.cons.inj (reading.unique read).1
      -- The token takes all bytes, so nothing is before or behind its text.
      have size := congrArg byteSize whole
      simp only [token, Lexeme.span, Span.mk.injEq] at span
      simp only [Text.byteSize_append] at size
      obtain rfl : gap = [] := Text.eq_nil_of_byteSize (by omega)
      obtain rfl : after = [] := Text.eq_nil_of_byteSize (by omega)
      rw [List.append_nil, List.nil_append] at whole
      obtain rfl : other = lexeme := Lexeme.ext kind whole.symm
      have isOpen := fits.isOpen_token_iff []
      rw [List.nil_append, List.append_nil] at isOpen
      exact ⟨fits, mt isOpen.2 closed⟩
  · rintro ⟨fits, closed⟩
    have ending : Reading (0 + byteSize lexeme.text) [] _ [] := .ending (by simp)
    have read := Reading.of_fits fits ending
    rw [List.append_nil] at read
    have isOpen := fits.isOpen_token_iff []
    rw [List.nil_append, List.append_nil] at isOpen
    refine ⟨lexeme.token 0, ?_, rfl, ?_, mt isOpen.1 closed⟩
    · have source : lexeme.text = (String.ofList lexeme.text).toList := String.toList_ofList.symm
      rw [source] at read
      rw [read.eq_tokenize.1]
      simp
    · simp [token, Lexeme.span]

theorem ofPair?_ne_none_iff {c d : Char} : Symbol.ofPair? c d ≠ none ↔
    (c ∈ ['=', '!', '<', '>'] ∧ d = '=') ∨ (c = '+' ∧ d = '+') ∨ (c = '-' ∧ d = '-') := by
  constructor
  · intro found
    obtain ⟨symbol, found⟩ := Option.ne_none_iff_exists'.1 found
    have spelled := Symbol.ofPair?_eq_some_iff.1 found
    cases symbol <;> cases spelled <;> simp
  · rintro (⟨first, rfl⟩ | ⟨rfl, rfl⟩ | ⟨rfl, rfl⟩)
    · simp at first
      rcases first with rfl | rfl | rfl | rfl <;> decide
    · decide
    · decide

section Neighbours

variable {first second : Lexeme} {after : List Char}

/-- What a lexeme starts with tells words, numbers and points. -/
theorem Fits.start_cases (fits : second.Fits after) {d : Char} {rest : List Char}
    (text : second.text = d :: rest) :
    (second.kind.isWord ∧ isLetter d) ∨ (second.kind.isNumber ∧ d.isDigit) ∨
      (second.kind.isWord = false ∧ second.kind.isNumber = false ∧ isWordChar d = false ∧
        (d = '.' ↔ second = ⟨.illegal, ['.']⟩)) := by
  have symbols : ∀ (symbol : Symbol) {c rest}, symbol.spelling = c :: rest →
      isWordChar c = false ∧ c ≠ '.' := by
    intro symbol c rest spelled
    cases symbol <;> cases spelled <;> decide
  cases fits with
  | single spelled _ =>
    cases text
    obtain ⟨noWord, noPoint⟩ := symbols _ spelled
    exact .inr (.inr ⟨rfl, rfl, noWord, by simp [noPoint]⟩)
  | double spelled =>
    cases text
    obtain ⟨noWord, noPoint⟩ := symbols _ spelled
    exact .inr (.inr ⟨rfl, rfl, noWord, by simp [noPoint]⟩)
  | word letter _ _ =>
    cases text
    exact .inl ⟨Kind.isWord_ofWord _, letter⟩
  | int digit _ _ =>
    cases text
    exact .inr (.inl ⟨rfl, digit⟩)
  | float digit _ _ _ =>
    cases text
    exact .inr (.inl ⟨rfl, digit⟩)
  | closed _ =>
    cases text
    exact .inr (.inr ⟨rfl, rfl, by decide, by simp⟩)
  | unclosed _ =>
    cases text
    exact .inr (.inr ⟨rfl, rfl, by decide, by simp⟩)
  | illegal _ _ _ noLetter noDigit =>
    cases text
    exact .inr (.inr ⟨rfl, rfl, by rw [isWordChar, noLetter, noDigit]; rfl, by simp⟩)

theorem Fits.start_iff (fits : second.Fits after) {d : Char} {rest : List Char}
    (text : second.text = d :: rest) :
    (isWordChar d ↔ second.kind.isWord || second.kind.isNumber) ∧
      (d.isDigit ↔ second.kind.isNumber) ∧ (d = '.' ↔ second = ⟨.illegal, ['.']⟩) := by
  have noPoint : d = '.' → isLetter d = false ∧ d.isDigit = false := by
    rintro rfl
    decide
  rcases fits.start_cases text with
    ⟨word, letter⟩ | ⟨number, digit⟩ | ⟨noWord, noNumber, noWordChar, point⟩
  · have noDigit : ¬ d.isDigit := fun digit => by simp [isLetter_of_isDigit digit] at letter
    refine ⟨by simp [isWordChar, word, letter], ?_, ?_⟩
    · simp [noDigit, Kind.isNumber_of_isWord word]
    · refine iff_of_false (fun point => ?_) ?_
      · simp [(noPoint point).1] at letter
      · rintro rfl
        exact absurd word (by decide)
  · refine ⟨by simp [isWordChar, number, digit], by simp [number, digit], ?_⟩
    refine iff_of_false (fun point => ?_) ?_
    · simp [(noPoint point).2] at digit
    · rintro rfl
      exact absurd number (by decide)
  · refine ⟨by simp [noWord, noNumber, noWordChar], ?_, point⟩
    have noDigit := (Bool.or_eq_false_iff.1 noWordChar).2
    simp [noNumber, noDigit]

/-- A lexeme goes on with the start of the next exactly if it runs into it. -/
theorem Fits.extends_iff (fits : first.Fits after)
    (closed : first.cause? ≠ some .unterminatedString) {other : List Char}
    (next : second.Fits other) {d : Char} {rest : List Char} (text : second.text = d :: rest) :
    first.Extends d ↔ first.runsInto second := by
  obtain ⟨wordChar, digit, point⟩ := next.start_iff text
  cases fits with
  | @single symbol c _ spelled _ =>
    have head : second.text.head? = some d := by rw [text]; rfl
    simp only [Extends, runsInto, head]
    cases symbol <;> simp [Symbol.spelling, ofPair?_ne_none_iff]
  | @double symbol c e _ spelled =>
    have head : second.text.head? = some d := by rw [text]; rfl
    simp only [Extends, runsInto, head]
    cases symbol <;> simp [Symbol.spelling, ofPair?_ne_none_iff] at spelled ⊢
  | word letter _ _ =>
    rw [extends_word_iff, wordChar, runsInto_of_isWord (Kind.isWord_ofWord _)]
  | int _ _ _ => simp [Extends, runsInto, digit, point]
  | float _ _ _ _ => simp [Extends, runsInto, digit]
  | closed _ => simp [Extends, runsInto, isOpen]
  | unclosed noQuote => exact absurd (by simp [cause?, isOpen, noQuote]) closed
  | illegal _ _ _ _ _ => simp [Extends, runsInto]

/-- A lexeme fits before others side by side exactly if it does not run into the first of them. -/
theorem Fits.flatMap_iff (fits : first.Fits []) (closed : first.cause? ≠ some .unterminatedString)
    {lexemes : List Lexeme} (alone : ∀ lexeme ∈ lexemes, lexeme.Fits []) :
    first.Fits (lexemes.flatMap Lexeme.text) ↔
      ∀ next ∈ lexemes.head?, first.runsInto next = false := by
  rw [fits.fits_iff]
  cases lexemes with
  | nil => simp
  | cons next lexemes =>
    have nextFits := alone next List.mem_cons_self
    obtain ⟨d, rest, text, _⟩ := nextFits.exists_cons
    simp [text, fits.extends_iff closed nextFits text]

end Neighbours

/-- The tokens of lexemes that stand side by side from an offset on, and the end token. -/
def sideBySide (offset : Nat) : List Lexeme → List Token
  | [] => [.eof offset]
  | lexeme :: lexemes =>
    lexeme.token offset :: sideBySide (offset + byteSize lexeme.text) lexemes

/-- A lexeme and a longer one of the same kind and literal are one. -/
theorem Fits.eq_of_literal {lexeme other : Lexeme} {after : List Char} (fits : lexeme.Fits [])
    (closed : lexeme.cause? ≠ some .unterminatedString) (otherFits : other.Fits after)
    (longer : lexeme.text <+: other.text)
    (same : other.kindAndLiteral = lexeme.kindAndLiteral) : other = lexeme := by
  obtain ⟨kind, literal⟩ := Prod.mk.inj same
  rw [String.ofList_inj] at literal
  refine Lexeme.ext kind ?_
  by_cases string : lexeme.kind = .string
  · rcases fits.cause?_cases with ⟨_, _, text⟩ | ⟨c, rfl, _⟩ | ⟨_, _, _, unterminated⟩
    · rcases (otherFits.of_string (kind.trans string)).2 with otherText | ⟨otherText, _⟩
      · rw [otherText, literal, text string]
      · -- An open string with the same literal is shorter by its closing quote.
        have length := longer.length_le
        rw [otherText, literal, text string, List.length_cons, List.length_cons,
          List.length_append, List.length_singleton] at length
        omega
    · simp at string
    · exact absurd unterminated closed
  · have otherString : other.kind ≠ .string := by rwa [kind]
    rwa [literal_of_ne_string string, literal_of_ne_string otherString] at literal

/-- Lexemes that are read as they are from side by side do not run into each other. -/
theorem isChain_of_reading {lexemes : List Lexeme}
    (alone : ∀ lexeme ∈ lexemes, lexeme.Fits [] ∧ lexeme.cause? ≠ some .unterminatedString)
    {offset : Nat} {tokens : List Token} {faults : List Fault}
    (reading : Reading offset (lexemes.flatMap Lexeme.text) tokens faults)
    (same :
      tokens.map Token.kindAndLiteral = (sideBySide offset lexemes).map Token.kindAndLiteral) :
    lexemes.IsChain fun first second => first.runsInto second = false := by
  induction lexemes generalizing offset tokens faults with
  | nil => exact .nil
  | cons lexeme lexemes ih =>
    obtain ⟨⟨fits, closed⟩, others⟩ := List.forall_mem_cons.1 alone
    obtain ⟨other, after, otherFits, whole, longer⟩ :=
      fits.exists_longer (lexemes.flatMap Lexeme.text)
    obtain ⟨later, laterFaults, behind⟩ := exists_reading (offset + byteSize other.text) after
    rw [List.flatMap_cons, whole] at reading
    obtain ⟨rfl, _⟩ := reading.unique (.of_fits otherFits behind)
    obtain ⟨first, rest⟩ := List.cons.inj same
    obtain rfl := fits.eq_of_literal closed otherFits longer first
    obtain rfl := List.append_cancel_left whole
    have next := (fits.flatMap_iff closed fun other member => (others other member).1).1 otherFits
    exact List.isChain_cons.2 ⟨next, ih others behind rest⟩

theorem exists_reading_sideBySide {lexemes : List Lexeme}
    (alone : ∀ lexeme ∈ lexemes, lexeme.Fits [] ∧ lexeme.cause? ≠ some .unterminatedString)
    (apart : lexemes.IsChain fun first second => first.runsInto second = false) (offset : Nat) :
    ∃ faults, Reading offset (lexemes.flatMap Lexeme.text) (sideBySide offset lexemes) faults := by
  induction lexemes generalizing offset with
  | nil => exact ⟨[], .ending (by simp)⟩
  | cons lexeme lexemes ih =>
    obtain ⟨⟨fits, closed⟩, others⟩ := List.forall_mem_cons.1 alone
    obtain ⟨next, apart⟩ := List.isChain_cons.1 apart
    obtain ⟨faults, behind⟩ := ih others apart (offset + byteSize lexeme.text)
    have before := (fits.flatMap_iff closed fun other member => (others other member).1).2 next
    exact ⟨_, .of_fits before behind⟩

end Lexeme

/-- Each token of a source but an open string stands alone, and lexemes that do so are read as they
    are when they stand side by side, exactly if none runs into the next. -/
theorem tokenize_sideBySide :
    (∀ source, ∀ token ∈ tokenize source, token.kind ≠ .eof → ¬ token.IsOpen source.toList →
      ∃ text, slice? source.toList token.span = some text ∧
        Lexeme.StandsAlone ⟨token.kind, text⟩) ∧
    ∀ lexemes : List Lexeme, (∀ lexeme ∈ lexemes, lexeme.StandsAlone) →
      (tokenize (String.ofList (lexemes.flatMap Lexeme.text)) = Lexeme.sideBySide 0 lexemes ↔
        lexemes.IsChain fun first second => first.runsInto second = false) ∧
      ((tokenize (String.ofList (lexemes.flatMap Lexeme.text))).map Token.kindAndLiteral =
          (Lexeme.sideBySide 0 lexemes).map Token.kindAndLiteral ↔
        lexemes.IsChain fun first second => first.runsInto second = false) := by
  refine ⟨fun source token member notEnd closed => ?_, fun lexemes alone => ?_⟩
  · obtain ⟨before, lexeme, after, whole, fits, rfl⟩ := exists_lexeme member notEnd
    rw [whole, fits.isOpen_token_iff] at closed
    have anywhere : lexeme.Fits [] := fits.fits_iff.2 (by simp)
    refine ⟨lexeme.text, ?_, Lexeme.standsAlone_iff.2 ⟨anywhere, closed⟩⟩
    rw [whole]
    exact lexeme.slice?_span before after
  · have alone : ∀ lexeme ∈ lexemes,
        lexeme.Fits [] ∧ lexeme.cause? ≠ some .unterminatedString :=
      fun lexeme member => Lexeme.standsAlone_iff.1 (alone lexeme member)
    have source := String.toList_ofList (l := lexemes.flatMap Lexeme.text)
    have reading := reading_source (String.ofList (lexemes.flatMap Lexeme.text))
    rw [source] at reading
    have apart : lexemes.IsChain (fun first second => first.runsInto second = false) →
        tokenize (String.ofList (lexemes.flatMap Lexeme.text)) = Lexeme.sideBySide 0 lexemes := by
      intro chain
      obtain ⟨faults, read⟩ := Lexeme.exists_reading_sideBySide alone chain 0
      rw [← source] at read
      exact read.eq_tokenize.1
    have chain := Lexeme.isChain_of_reading alone reading
    exact ⟨⟨fun same => chain (congrArg _ same), apart⟩,
      chain, fun chain => congrArg _ (apart chain)⟩

/-- A point behind `1.` is told apart from it, and the digit behind the point too; behind `1` it is
    the point of a number. -/
theorem tokenize_points :
    (∃ text, slice? "é".toList ⟨0, 2⟩ = some text ∧ Lexeme.StandsAlone ⟨.illegal, text⟩) ∧
    tokenize (String.ofList ['1', '.', '.', '2']) =
      Lexeme.sideBySide 0 [⟨.float, ['1', '.']⟩, ⟨.illegal, ['.']⟩, ⟨.int, ['2']⟩] ∧
    tokenize (String.ofList ['1', '.', '2']) ≠
      Lexeme.sideBySide 0 [⟨.int, ['1']⟩, ⟨.illegal, ['.']⟩, ⟨.int, ['2']⟩] := by
  have point : Lexeme.StandsAlone ⟨.illegal, ['.']⟩ :=
    ⟨⟨.illegal, ".", ⟨0, 1⟩⟩, by decide +kernel, rfl, rfl, by decide +kernel⟩
  have one : Lexeme.StandsAlone ⟨.int, ['1']⟩ :=
    ⟨⟨.int, "1", ⟨0, 1⟩⟩, by decide +kernel, rfl, rfl, by decide +kernel⟩
  have two : Lexeme.StandsAlone ⟨.int, ['2']⟩ :=
    ⟨⟨.int, "2", ⟨0, 1⟩⟩, by decide +kernel, rfl, rfl, by decide +kernel⟩
  have float : Lexeme.StandsAlone ⟨.float, ['1', '.']⟩ :=
    ⟨⟨.float, "1.", ⟨0, 2⟩⟩, by decide +kernel, rfl, rfl, by decide +kernel⟩
  have apart := tokenize_sideBySide.2 [⟨.float, ['1', '.']⟩, ⟨.illegal, ['.']⟩, ⟨.int, ['2']⟩]
    (by simp [float, point, two])
  have together := tokenize_sideBySide.2 [⟨.int, ['1']⟩, ⟨.illegal, ['.']⟩, ⟨.int, ['2']⟩]
    (by simp [one, point, two])
  refine ⟨?_, apart.1.2 (by decide), mt together.1.1 (by decide)⟩
  have letter : tokenize "é" = [⟨.illegal, "é", ⟨0, 2⟩⟩, .eof 2] := by decide +kernel
  exact tokenize_sideBySide.1 "é" ⟨.illegal, "é", ⟨0, 2⟩⟩ (by rw [letter]; exact .head _)
    (by decide) (by decide)

end GoldFront
