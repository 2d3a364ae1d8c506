import Mathlib.Data.List.TakeWhile
import GoldFront.Text.Basic
import GoldFront.Token.Cursor

/-!
What can be read in front of a given rest of the source, shape by shape, with what must not follow
it (`Lexeme.Fits`). Reading takes a lexeme off a text exactly if it fits before what is left
(`Lexeme.Fits.read_eq`, `Lexeme.fits_read`); later proofs look at the shapes and never at the
reader.
-/

namespace GoldFront

namespace Symbol

theorem ofChar?_eq_some_iff {c : Char} {symbol : Symbol} :
    ofChar? c = some symbol ↔ symbol.spelling = [c] := by
  constructor
  · intro found
    simpa using List.find?_some found
  · intro spelled
    cases symbol <;> cases spelled <;> rfl

theorem ofPair?_eq_some_iff {c d : Char} {symbol : Symbol} :
    ofPair? c d = some symbol ↔ symbol.spelling = [c, d] := by
  constructor
  · intro found
    simpa using List.find?_some found
  · intro spelled
    cases symbol <;> cases spelled <;> rfl

theorem spelling_cases (symbol : Symbol) :
    (∃ c, symbol.spelling = [c]) ∨ ∃ c d, symbol.spelling = [c, d] := by
  cases symbol <;> simp [spelling]

theorem exists_ofChar?_of_spelling {c : Char} {rest : List Char} {symbol : Symbol}
    (spelled : symbol.spelling = c :: rest) : ∃ single, ofChar? c = some single := by
  cases symbol <;> cases spelled <;> exact ⟨_, rfl⟩

/-- No symbol starts as a gap, a string, a word or a number does. -/
theorem start_of_spelling {c : Char} {rest : List Char} {symbol : Symbol}
    (spelled : symbol.spelling = c :: rest) :
    isGap c = false ∧ c ≠ '"' ∧ isLetter c = false ∧ c.isDigit = false := by
  cases symbol <;> cases spelled <;> decide

theorem ofChar?_eq_none {c : Char} (other : c = '"' ∨ isLetter c ∨ c.isDigit) : ofChar? c = none := by
  cases found : ofChar? c with
  | none => rfl
  | some symbol =>
    obtain ⟨_, noQuote, noLetter, noDigit⟩ := start_of_spelling (ofChar?_eq_some_iff.1 found)
    rcases other with quote | letter | digit
    · exact absurd quote noQuote
    · simp [noLetter] at letter
    · simp [noDigit] at digit

end Symbol

theorem isGap_iff {c : Char} : isGap c ↔ c = ' ' ∨ c = '\t' ∨ c = '\n' ∨ c = '\r' := by
  simp [isGap, or_assoc]

theorem isLetter_iff {c : Char} :
    isLetter c ↔ ('A' ≤ c ∧ c ≤ 'Z') ∨ ('a' ≤ c ∧ c ≤ 'z') ∨ c = '_' := by
  have upper : c.isUpper ↔ 'A' ≤ c ∧ c ≤ 'Z' := decide_eq_true_iff
  have lower : c.isLower ↔ 'a' ≤ c ∧ c ≤ 'z' := by
    change (_ && _) = true ↔ _
    rw [Bool.and_eq_true, decide_eq_true_iff, decide_eq_true_iff]
    rfl
  have alpha : c.isAlpha = (c.isUpper || c.isLower) := rfl
  rw [isLetter, Bool.or_eq_true, alpha, Bool.or_eq_true, upper, lower, decide_eq_true_iff, or_assoc]

theorem isDigit_iff {c : Char} : c.isDigit ↔ '0' ≤ c ∧ c ≤ '9' := by
  simp [Char.isDigit, Char.le_def]

theorem isLetter_of_isDigit {c : Char} (digit : c.isDigit) : isLetter c = false := by
  rw [Bool.eq_false_iff, Ne, isLetter_iff]
  obtain ⟨low, high⟩ := isDigit_iff.1 digit
  rintro (⟨letter, _⟩ | ⟨letter, _⟩ | rfl)
  · exact absurd (Char.le_trans letter high) (by decide)
  · exact absurd (Char.le_trans letter high) (by decide)
  · exact absurd high (by decide)

theorem isGap_of_start {c : Char} (start : c = '"' ∨ isLetter c ∨ c.isDigit) : isGap c = false := by
  rw [Bool.eq_false_iff, Ne, isGap_iff]
  intro gap
  have noStart : ¬ (c = '"' ∨ isLetter c ∨ c.isDigit) := by
    rcases gap with rfl | rfl | rfl | rfl <;> decide
  exact noStart start

theorem isBlank_of_isGap {c : Char} (gap : isGap c) : Text.isBlank c := by
  rcases isGap_iff.1 gap with rfl | rfl | rfl | rfl <;> decide

/-- A blank starts no lexeme but an illegal character. -/
theorem start_of_isBlank {c : Char} (blank : Text.isBlank c) :
    Symbol.ofChar? c = none ∧ c ≠ '"' ∧ isLetter c = false ∧ c.isDigit = false := by
  have apart := Text.toNat_of_isBlank blank
  have outside : ∀ {low high : Char}, 0x20 < low.toNat → high.toNat < 0x85 →
      ¬ (low ≤ c ∧ c ≤ high) := by
    rintro low high least greatest ⟨above, below⟩
    have : low.toNat ≤ c.toNat := above
    have : c.toNat ≤ high.toNat := below
    omega
  refine ⟨?_, ?_, ?_, ?_⟩
  · cases found : Symbol.ofChar? c with
    | none => rfl
    | some symbol =>
      have spelled := Symbol.ofChar?_eq_some_iff.1 found
      cases symbol <;> cases spelled <;> exact absurd blank (by decide)
  · rintro rfl
    exact absurd blank (by decide)
  · rw [Bool.eq_false_iff, Ne, isLetter_iff]
    rintro (upper | lower | rfl)
    · exact outside (by decide) (by decide) upper
    · exact outside (by decide) (by decide) lower
    · exact absurd blank (by decide)
  · rw [Bool.eq_false_iff, Ne, isDigit_iff]
    exact outside (by decide) (by decide)

/-- A run of characters of one class is taken whole where what follows starts with none of them. -/
theorem takeWhile_dropWhile_run {class_ : Char → Bool} {run after : List Char}
    (inside : ∀ d ∈ run, class_ d) (outside : ∀ d ∈ after.head?, class_ d = false) :
    (run ++ after).takeWhile class_ = run ∧ (run ++ after).dropWhile class_ = after := by
  rw [List.takeWhile_append_of_pos inside, List.dropWhile_append_of_pos inside]
  cases after with
  | nil => simp
  | cons d after => simp [outside d rfl]

theorem head?_dropWhile (class_ : Char → Bool) (text : List Char) :
    ∀ d ∈ (text.dropWhile class_).head?, class_ d = false := by
  intro d found
  have stopped := List.head?_dropWhile_not class_ text
  rw [Option.mem_def.1 found] at stopped
  simpa using stopped

namespace Lexeme

/-- A lexeme that is read where a given text follows it. -/
inductive Fits : Lexeme → List Char → Prop
  | single {symbol : Symbol} {c : Char} {after : List Char} : symbol.spelling = [c] →
      (∀ d ∈ after.head?, Symbol.ofPair? c d = none) → Fits ⟨.symbol symbol, [c]⟩ after
  | double {symbol : Symbol} {c d : Char} {after : List Char} : symbol.spelling = [c, d] →
      Fits ⟨.symbol symbol, [c, d]⟩ after
  | word {c : Char} {run after : List Char} : isLetter c → (∀ d ∈ run, isWordChar d) →
      (∀ d ∈ after.head?, isWordChar d = false) →
      Fits ⟨.ofWord (String.ofList (c :: run)), c :: run⟩ after
  | int {c : Char} {run after : List Char} : c.isDigit → (∀ d ∈ run, d.isDigit) →
      (∀ d ∈ after.head?, d.isDigit = false ∧ d ≠ '.') → Fits ⟨.int, c :: run⟩ after
  | float {c : Char} {run part after : List Char} : c.isDigit → (∀ d ∈ run, d.isDigit) →
      (∀ d ∈ part, d.isDigit) → (∀ d ∈ after.head?, d.isDigit = false) →
      Fits ⟨.float, c :: run ++ '.' :: part⟩ after
  | closed {content after : List Char} : '"' ∉ content →
      Fits ⟨.string, '"' :: (content ++ ['"'])⟩ after
  /-- A string without a second quote runs to the end of the source. -/
  | unclosed {content : List Char} : '"' ∉ content → Fits ⟨.string, '"' :: content⟩ []
  | illegal {c : Char} {after : List Char} : isGap c = false → Symbol.ofChar? c = none → c ≠ '"' →
      isLetter c = false → c.isDigit = false → Fits ⟨.illegal, [c]⟩ after

theorem Fits.exists_cons {lexeme : Lexeme} {after : List Char} (fits : lexeme.Fits after) :
    ∃ c rest, lexeme.text = c :: rest ∧ isGap c = false := by
  cases fits with
  | single spelled _ => exact ⟨_, _, rfl, (Symbol.start_of_spelling spelled).1⟩
  | double spelled => exact ⟨_, _, rfl, (Symbol.start_of_spelling spelled).1⟩
  | word letter _ _ => exact ⟨_, _, rfl, isGap_of_start (.inr (.inl letter))⟩
  | int digit _ _ => exact ⟨_, _, rfl, isGap_of_start (.inr (.inr digit))⟩
  | float digit _ _ _ => exact ⟨_, _, rfl, isGap_of_start (.inr (.inr digit))⟩
  | closed _ => exact ⟨_, _, rfl, isGap_of_start (.inl rfl)⟩
  | unclosed _ => exact ⟨_, _, rfl, isGap_of_start (.inl rfl)⟩
  | illegal gap _ _ _ _ => exact ⟨_, _, rfl, gap⟩

theorem Fits.text_ne_nil {lexeme : Lexeme} {after : List Char} (fits : lexeme.Fits after) :
    lexeme.text ≠ [] := by
  obtain ⟨c, rest, text, _⟩ := fits.exists_cons
  simp [text]

private theorem read_of_quote (rest : List Char) : read '"' rest = readString rest := by
  simp [read, Symbol.ofChar?_eq_none (.inl rfl)]

private theorem read_of_isLetter {c : Char} (letter : isLetter c) (rest : List Char) :
    read c rest = readWord c rest := by
  have noQuote : c ≠ '"' := by
    rintro rfl
    exact absurd letter (by decide)
  simp [read, Symbol.ofChar?_eq_none (.inr (.inl letter)), noQuote, letter]

private theorem read_of_isDigit {c : Char} (digit : c.isDigit) (rest : List Char) :
    read c rest = readNumber c rest := by
  have noQuote : c ≠ '"' := by
    rintro rfl
    exact absurd digit (by decide)
  simp [read, Symbol.ofChar?_eq_none (.inr (.inr digit)), noQuote, isLetter_of_isDigit digit, digit]

private theorem noQuote_iff {content : List Char} :
    (∀ d ∈ content, (d != '"') = true) ↔ '"' ∉ content := by
  rw [← List.forall_mem_ne']
  simp only [bne_iff_ne]

private theorem readString_closed {content : List Char} (noQuote : '"' ∉ content)
    (after : List Char) :
    readString (content ++ '"' :: after) = (⟨.string, '"' :: (content ++ ['"'])⟩, after) := by
  have outside : ∀ d ∈ ('"' :: after).head?, (d != '"') = false := by simp
  obtain ⟨taken, left⟩ := takeWhile_dropWhile_run (noQuote_iff.2 noQuote) outside
  simp only [readString, taken, left]

private theorem readString_unclosed {content : List Char} (noQuote : '"' ∉ content) :
    readString content = (⟨.string, '"' :: content⟩, []) := by
  have outside : ∀ d ∈ ([] : List Char).head?, (d != '"') = false := by simp
  obtain ⟨taken, left⟩ := takeWhile_dropWhile_run (noQuote_iff.2 noQuote) outside
  rw [List.append_nil] at taken left
  simp only [readString, taken, left]

/-- Where a lexeme fits, reading takes it and leaves the rest. -/
theorem Fits.read_eq {lexeme : Lexeme} {after : List Char} (fits : lexeme.Fits after) {c : Char}
    {rest : List Char} (text : lexeme.text ++ after = c :: rest) : read c rest = (lexeme, after) := by
  cases fits with
  | @single symbol first after spelled alone =>
    obtain ⟨rfl, rfl⟩ : first = c ∧ after = rest := by simpa using text
    have found := Symbol.ofChar?_eq_some_iff.2 spelled
    cases after with
    | nil => simp [read, found, readSymbol]
    | cons d after => simp [read, found, readSymbol, alone d rfl]
  | @double symbol first second after spelled =>
    obtain ⟨rfl, rfl⟩ : first = c ∧ second :: after = rest := by simpa using text
    obtain ⟨single, found⟩ := Symbol.exists_ofChar?_of_spelling spelled
    simp [read, found, readSymbol, Symbol.ofPair?_eq_some_iff.2 spelled]
  | @word first run after letter inside outside =>
    obtain ⟨rfl, rfl⟩ : first = c ∧ run ++ after = rest := by simpa using text
    obtain ⟨taken, left⟩ := takeWhile_dropWhile_run inside outside
    simp only [read_of_isLetter letter, readWord, taken, left]
  | @int first run after digit inside outside =>
    obtain ⟨rfl, rfl⟩ : first = c ∧ run ++ after = rest := by simpa using text
    obtain ⟨taken, left⟩ := takeWhile_dropWhile_run inside fun d first => (outside d first).1
    simp only [read_of_isDigit digit, readNumber, taken, left]
    split
    · exact absurd rfl (outside '.' (by simp)).2
    · rfl
  | @float first run part after digit inside insidePart outside =>
    obtain ⟨rfl, rfl⟩ : first = c ∧ run ++ '.' :: (part ++ after) = rest := by simpa using text
    have point : ∀ d ∈ ('.' :: (part ++ after)).head?, d.isDigit = false := by simp
    obtain ⟨taken, left⟩ := takeWhile_dropWhile_run inside point
    obtain ⟨takenPart, leftPart⟩ := takeWhile_dropWhile_run insidePart outside
    simp only [read_of_isDigit digit, readNumber, taken, left, takenPart, leftPart,
      List.cons_append]
  | @closed content after noQuote =>
    obtain ⟨rfl, rfl⟩ : '"' = c ∧ content ++ '"' :: after = rest := by simpa using text
    rw [read_of_quote, readString_closed noQuote]
  | @unclosed content noQuote =>
    obtain ⟨rfl, rfl⟩ : '"' = c ∧ content = rest := by simpa using text
    rw [read_of_quote, readString_unclosed noQuote]
  | @illegal first after gap noSymbol noQuote noLetter noDigit =>
    obtain ⟨rfl, rfl⟩ : first = c ∧ after = rest := by simpa using text
    simp [read, noSymbol, noQuote, noLetter, noDigit]

/-- Of one text, one lexeme fits before what is left. -/
theorem Fits.unique {lexeme other : Lexeme} {after rest : List Char} (fits : lexeme.Fits after)
    (otherFits : other.Fits rest) (same : other.text ++ rest = lexeme.text ++ after) :
    other = lexeme ∧ rest = after := by
  obtain ⟨c, tail, text, _⟩ := fits.exists_cons
  have whole : lexeme.text ++ after = c :: (tail ++ after) := by rw [text, List.cons_append]
  have equal := (otherFits.read_eq (same.trans whole)).symm.trans (fits.read_eq whole)
  exact Prod.mk.inj equal

private theorem fits_readSymbol {c : Char} {single : Symbol} (spelled : single.spelling = [c])
    (rest : List Char) : (readSymbol c single rest).1.Fits (readSymbol c single rest).2 := by
  cases rest with
  | nil =>
    have alone : ∀ next ∈ ([] : List Char).head?, Symbol.ofPair? c next = none := by simp
    exact .single spelled alone
  | cons d after =>
    simp only [readSymbol]
    cases pair : Symbol.ofPair? c d with
    | none =>
      have alone : ∀ next ∈ (d :: after).head?, Symbol.ofPair? c next = none := by simpa using pair
      exact .single spelled alone
    | some double => exact .double (Symbol.ofPair?_eq_some_iff.1 pair)

private theorem fits_readString (rest : List Char) :
    (readString rest).1.Fits (readString rest).2 := by
  have noQuote : '"' ∉ rest.takeWhile (· != '"') :=
    noQuote_iff.1 fun d member => List.mem_takeWhile_imp (p := (· != '"')) member
  simp only [readString]
  cases left : rest.dropWhile (· != '"') with
  | nil => exact .unclosed noQuote
  | cons close after =>
    have closes : close = '"' := by
      simpa using head?_dropWhile (· != '"') rest close (by simp [left])
    subst closes
    exact .closed noQuote

private theorem fits_readWord {c : Char} (letter : isLetter c) (rest : List Char) :
    (readWord c rest).1.Fits (readWord c rest).2 :=
  .word letter (fun _ member => List.mem_takeWhile_imp member) (head?_dropWhile isWordChar rest)

private theorem fits_readNumber {c : Char} (digit : c.isDigit) (rest : List Char) :
    (readNumber c rest).1.Fits (readNumber c rest).2 := by
  have inside : ∀ d ∈ rest.takeWhile Char.isDigit, d.isDigit :=
    fun d member => List.mem_takeWhile_imp member
  have outside := head?_dropWhile Char.isDigit rest
  simp only [readNumber]
  split
  · next after point =>
    exact .float digit inside (fun d member => List.mem_takeWhile_imp member)
      (head?_dropWhile Char.isDigit after)
  · next noPoint =>
    refine .int digit inside fun d first => ⟨outside d first, ?_⟩
    rintro rfl
    obtain ⟨after, point⟩ := List.head?_eq_some_iff.1 first
    exact noPoint after point

/-- What reading takes fits before what it leaves. -/
theorem fits_read {c : Char} (gap : isGap c = false) (rest : List Char) :
    (read c rest).1.Fits (read c rest).2 := by
  cases found : Symbol.ofChar? c with
  | some symbol =>
    simpa [read, found] using fits_readSymbol (Symbol.ofChar?_eq_some_iff.1 found) rest
  | none =>
    by_cases quote : c = '"'
    · rw [quote, read_of_quote]
      exact fits_readString rest
    · by_cases letter : isLetter c
      · rw [read_of_isLetter letter]
        exact fits_readWord letter rest
      · by_cases digit : c.isDigit
        · rw [read_of_isDigit digit]
          exact fits_readNumber digit rest
        · simpa [read, found, quote, letter, digit] using
            Fits.illegal gap found quote (by simpa using letter) (by simpa using digit)

theorem ofWord_ne (word : String) :
    Kind.ofWord word ≠ .string ∧ Kind.ofWord word ≠ .illegal ∧ Kind.ofWord word ≠ .eof := by
  unfold Kind.ofWord
  split <;> simp

theorem literal_of_ne_string {lexeme : Lexeme} (other : lexeme.kind ≠ .string) :
    lexeme.literal = lexeme.text := by
  simp [literal, other]

theorem literal_closed {content : List Char} (noQuote : '"' ∉ content) :
    literal ⟨.string, '"' :: (content ++ ['"'])⟩ = content := by
  have outside : ∀ d ∈ ['"'].head?, (d != '"') = false := by simp
  simpa [literal] using (takeWhile_dropWhile_run (noQuote_iff.2 noQuote) outside).1

theorem literal_unclosed {content : List Char} (noQuote : '"' ∉ content) :
    literal ⟨.string, '"' :: content⟩ = content := by
  have outside : ∀ d ∈ ([] : List Char).head?, (d != '"') = false := by simp
  simpa [literal] using (takeWhile_dropWhile_run (noQuote_iff.2 noQuote) outside).1

/-- What is read from a quote on is a string, with all that stands before the next quote. -/
theorem read_quote (rest : List Char) : (read '"' rest).1.kind = .string ∧
    (read '"' rest).1.literal = rest.takeWhile (· != '"') := by
  rw [read_of_quote, readString]
  have noQuote : '"' ∉ rest.takeWhile (· != '"') :=
    noQuote_iff.1 fun d member => List.mem_takeWhile_imp (p := (· != '"')) member
  cases left : rest.dropWhile (· != '"') with
  | nil => exact ⟨rfl, literal_unclosed noQuote⟩
  | cons close after =>
    have closes : close = '"' := by simpa using head?_dropWhile (· != '"') rest close (by simp [left])
    subst closes
    exact ⟨rfl, literal_closed noQuote⟩

/-- The text of a string is its literal between quotes, or after one quote to the end. -/
theorem Fits.of_string {lexeme : Lexeme} {after : List Char} (fits : lexeme.Fits after)
    (string : lexeme.kind = .string) : '"' ∉ lexeme.literal ∧
      (lexeme.text = '"' :: (lexeme.literal ++ ['"']) ∨
        lexeme.text = '"' :: lexeme.literal ∧ after = []) := by
  cases fits with
  | closed noQuote => simp [literal_closed noQuote, noQuote]
  | unclosed noQuote => simp [literal_unclosed noQuote, noQuote]
  | word => exact absurd string (ofWord_ne _).1
  | _ => simp at string

/-- What can be wrong with a lexeme. -/
theorem Fits.cause?_cases {lexeme : Lexeme} {after : List Char} (fits : lexeme.Fits after) :
    (lexeme.cause? = none ∧ lexeme.kind ≠ .illegal ∧
        (lexeme.kind = .string → lexeme.text = '"' :: (lexeme.literal ++ ['"']))) ∨
      (∃ c, lexeme = ⟨.illegal, [c]⟩ ∧ lexeme.cause? = some (.illegalCharacter c)) ∨
      (lexeme.kind = .string ∧ lexeme.text = '"' :: lexeme.literal ∧ after = [] ∧
        lexeme.cause? = some .unterminatedString) := by
  cases fits with
  | @word c run _ _ _ =>
    obtain ⟨noString, noIllegal, _⟩ := ofWord_ne (String.ofList (c :: run))
    refine .inl ⟨?_, noIllegal, fun string => absurd string noString⟩
    simp only [cause?]
    split
    · exact absurd ‹_› noIllegal
    · exact absurd ‹_› noString
    · rfl
  | closed noQuote =>
    exact .inl ⟨by simp [cause?, isOpen], by simp, fun _ => by simp [literal_closed noQuote]⟩
  | unclosed noQuote =>
    exact .inr (.inr ⟨rfl, by simp [literal_unclosed noQuote], rfl, by simp [cause?, isOpen, noQuote]⟩)
  | illegal => exact .inr (.inl ⟨_, rfl, rfl⟩)
  | _ => exact .inl ⟨rfl, by simp, by simp⟩

/-- A string that nothing closes is its literal after one quote, at the end. -/
theorem Fits.of_unterminated {lexeme : Lexeme} {after : List Char} (fits : lexeme.Fits after)
    (unterminated : lexeme.cause? = some .unterminatedString) :
    lexeme.kind = .string ∧ lexeme.text = '"' :: lexeme.literal ∧ after = [] := by
  rcases fits.cause?_cases with ⟨noCause, _⟩ | ⟨c, _, illegal⟩ | ⟨string, text, ending, _⟩
  · simp [noCause] at unterminated
  · simp [illegal] at unterminated
  · exact ⟨string, text, ending⟩

/-- A character that is read as part of a lexeme where it follows the lexeme. -/
def Extends (lexeme : Lexeme) (d : Char) : Prop :=
  match lexeme.kind with
  | .symbol symbol => ∃ c, symbol.spelling = [c] ∧ Symbol.ofPair? c d ≠ none
  | .ident => isWordChar d
  | .keyword _ => isWordChar d
  | .int => d.isDigit ∨ d = '.'
  | .float => d.isDigit
  | .string => lexeme.isOpen
  | .illegal => False
  | .eof => False

theorem extends_word_iff {word : String} {text : List Char} {d : Char} :
    Extends ⟨.ofWord word, text⟩ d ↔ isWordChar d := by
  unfold Kind.ofWord
  split <;> rfl

private theorem isOpen_closed (content : List Char) :
    isOpen ⟨.string, '"' :: (content ++ ['"'])⟩ = false := by
  simp [isOpen]

private theorem isOpen_unclosed {content : List Char} (noQuote : '"' ∉ content) :
    isOpen ⟨.string, '"' :: content⟩ = true := by
  simp [isOpen, noQuote]

/-- A lexeme does not fit before a character that extends it. -/
theorem Fits.not_extends {lexeme : Lexeme} {after : List Char} (fits : lexeme.Fits after) {d : Char}
    (first : d ∈ after.head?) : ¬ lexeme.Extends d := by
  intro extends_
  cases fits with
  | single spelled alone =>
    obtain ⟨c, other, pair⟩ := extends_
    cases spelled.symm.trans other
    exact pair (alone d first)
  | double spelled =>
    obtain ⟨c, other, _⟩ := extends_
    simp [spelled] at other
  | word _ _ outside =>
    have inside := extends_word_iff.1 extends_
    simp [outside d first] at inside
  | int _ _ outside =>
    rcases extends_ with digit | point
    · simp [(outside d first).1] at digit
    · exact (outside d first).2 point
  | float _ _ _ outside => simp [Extends, outside d first] at extends_
  | closed _ => simp [Extends, isOpen_closed] at extends_
  | unclosed _ => simp at first
  | illegal => exact extends_

/-- A lexeme that fits somewhere fits exactly where the next character does not extend it. -/
theorem Fits.fits_iff {lexeme : Lexeme} {after other : List Char} (fits : lexeme.Fits after) :
    lexeme.Fits other ↔ ∀ d ∈ other.head?, ¬ lexeme.Extends d := by
  refine ⟨fun otherFits d first => otherFits.not_extends first, fun stops => ?_⟩
  cases fits with
  | single spelled _ =>
    refine .single spelled fun d first => ?_
    by_contra pair
    exact stops d first ⟨_, spelled, pair⟩
  | double spelled => exact .double spelled
  | word letter inside _ =>
    refine .word letter inside fun d first => ?_
    simpa using mt extends_word_iff.2 (stops d first)
  | int digit inside _ =>
    refine .int digit inside fun d first => ?_
    simpa [Extends] using stops d first
  | float digit inside insidePart _ =>
    refine .float digit inside insidePart fun d first => ?_
    simpa [Extends] using stops d first
  | closed noQuote => exact .closed noQuote
  | unclosed noQuote =>
    -- Every character extends an open string, so nothing is left behind it.
    cases other with
    | nil => exact .unclosed noQuote
    | cons d other => exact absurd (isOpen_unclosed noQuote) (stops d rfl)
  | illegal gap noSymbol noQuote noLetter noDigit =>
    exact .illegal gap noSymbol noQuote noLetter noDigit

private theorem ofPair?_of_isBlank (c : Char) {d : Char} (blank : Text.isBlank d) :
    Symbol.ofPair? c d = none := by
  cases pair : Symbol.ofPair? c d with
  | none => rfl
  | some symbol =>
    have spelled := Symbol.ofPair?_eq_some_iff.1 pair
    cases symbol <;> cases spelled <;> exact absurd blank (by decide)

/-- A blank extends no lexeme but a string that nothing closes. -/
theorem Fits.not_extends_blank {lexeme : Lexeme} {after : List Char} (fits : lexeme.Fits after)
    (closed : lexeme.cause? ≠ some .unterminatedString) {d : Char} (blank : Text.isBlank d) :
    ¬ lexeme.Extends d := by
  obtain ⟨noSymbol, _, noLetter, noDigit⟩ := start_of_isBlank blank
  have noWord : isWordChar d = false := by simp [isWordChar, noLetter, noDigit]
  have noPoint : d ≠ '.' := by
    rintro rfl
    exact absurd blank (by decide)
  intro extends_
  cases fits with
  | single _ _ =>
    obtain ⟨c, _, pair⟩ := extends_
    exact pair (ofPair?_of_isBlank c blank)
  | double _ =>
    obtain ⟨c, _, pair⟩ := extends_
    exact pair (ofPair?_of_isBlank c blank)
  | word _ _ _ =>
    have inside := extends_word_iff.1 extends_
    simp [noWord] at inside
  | int _ _ _ => simp [Extends, noDigit, noPoint] at extends_
  | float _ _ _ _ => simp [Extends, noDigit] at extends_
  | closed _ => simp [Extends, isOpen_closed] at extends_
  | unclosed noQuote => exact closed (by simp [cause?, isOpen_unclosed noQuote])
  | illegal => exact extends_

end Lexeme

end GoldFront
