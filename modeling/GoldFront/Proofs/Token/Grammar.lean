import GoldFront.Proofs.Token.Reading

/-!
The language of each kind of token, as texts (`Grammar.Spells`), and the rule of the longest match
(`Grammar.Longest`). The tokens of a source are the one list in which each token is the longest
match at its place: `tokenize_eq_iff`.
-/

namespace GoldFront

open Text (byteSize)

namespace Grammar

/-- `[A-Za-z_]`. -/
def Letter (c : Char) : Prop := ('A' ≤ c ∧ c ≤ 'Z') ∨ ('a' ≤ c ∧ c ≤ 'z') ∨ c = '_'

/-- `[0-9]`. -/
def Digit (c : Char) : Prop := '0' ≤ c ∧ c ≤ '9'

/-- Characters that stand between tokens. -/
def Gap (c : Char) : Prop := c = ' ' ∨ c = '\t' ∨ c = '\n' ∨ c = '\r'

/-- The texts of operators and delimiters. -/
def spellings : List (String × Symbol) := [
  ("==", .eq), ("!=", .notEq), ("<=", .le), (">=", .ge), ("++", .inc), ("--", .dec),
  ("=", .assign), ("+", .plus), ("-", .minus), ("!", .bang), ("*", .asterisk), ("/", .slash),
  ("<", .lt), (">", .gt), ("(", .lparen), (")", .rparen), ("\x7b", .lbrace), ("\x7d", .rbrace),
  ("[", .lbracket), ("]", .rbracket), (",", .comma), (";", .semicolon), (":", .colon)]

/-- The kind of a word: that of the table for the whole word, or an identifier. -/
inductive WordKind (word : String) : Kind → Prop
  | keyword {keyword : Keyword} : (word, keyword) ∈ Keyword.table → WordKind word (.keyword keyword)
  | ident : (∀ keyword, (word, keyword) ∉ Keyword.table) → WordKind word .ident

/-- The texts of each kind of token, with what the token keeps of the text, and what may follow it. -/
inductive Spells : Kind → List Char → List Char → List Char → Prop
  | symbol {symbol : Symbol} {text after : List Char} : (String.ofList text, symbol) ∈ spellings →
      Spells (.symbol symbol) text text after
  | word {kind : Kind} {c : Char} {run after : List Char} : Letter c →
      (∀ d ∈ run, Letter d ∨ Digit d) → WordKind (String.ofList (c :: run)) kind →
      Spells kind (c :: run) (c :: run) after
  | int {digits after : List Char} : digits ≠ [] → (∀ d ∈ digits, Digit d) →
      Spells .int digits digits after
  | float {digits part after : List Char} : digits ≠ [] → (∀ d ∈ digits, Digit d) →
      (∀ d ∈ part, Digit d) → Spells .float (digits ++ '.' :: part) (digits ++ '.' :: part) after
  | closed {content after : List Char} : '"' ∉ content →
      Spells .string ('"' :: (content ++ ['"'])) content after
  /-- Without a closing quote the text must reach the end of the source. -/
  | unclosed {content : List Char} : '"' ∉ content → Spells .string ('"' :: content) content []

/-- The texts of tokens, with those of illegal characters: a character that starts none of the other
    texts, and is no gap. -/
inductive Belongs : Kind → List Char → List Char → List Char → Prop
  | legal {kind : Kind} {text literal after : List Char} : Spells kind text literal after →
      Belongs kind text literal after
  | illegal {c : Char} {after : List Char} : ¬ Gap c →
      (∀ kind rest literal after, ¬ Spells kind (c :: rest) literal after) →
      Belongs .illegal [c] [c] after

/-- A text that belongs to the language of a kind, where none that belongs to any is longer. -/
structure Longest (kind : Kind) (text literal after : List Char) : Prop where
  belongs : Belongs kind text literal after
  longest : ∀ otherKind otherText otherLiteral otherAfter,
    Belongs otherKind otherText otherLiteral otherAfter →
      otherText ++ otherAfter = text ++ after → otherText.length ≤ text.length

/-- The lists of tokens that a text, from a byte offset on, is cut into by longest matches. -/
inductive Tokens : Nat → List Char → List Token → Prop
  | ending {offset : Nat} {gap : List Char} : (∀ c ∈ gap, Gap c) →
      Tokens offset gap [⟨.eof, "", ⟨offset + byteSize gap, offset + byteSize gap⟩⟩]
  | token {offset : Nat} {kind : Kind} {gap text literal after : List Char} {tokens : List Token} :
      (∀ c ∈ gap, Gap c) → Longest kind text literal after →
      Tokens (offset + byteSize gap + byteSize text) after tokens →
      Tokens offset (gap ++ (text ++ after))
        (⟨kind, String.ofList literal,
          ⟨offset + byteSize gap, offset + byteSize gap + byteSize text⟩⟩ :: tokens)

theorem mem_spellings_iff {text : List Char} {symbol : Symbol} :
    (String.ofList text, symbol) ∈ spellings ↔ symbol.spelling = text := by
  constructor
  · intro member
    have listed : ∀ entry ∈ spellings, entry.2.spelling = entry.1.toList := by decide
    simpa using listed _ member
  · rintro rfl
    cases symbol <;> decide

theorem mem_table_iff {word : String} {keyword : Keyword} :
    (word, keyword) ∈ Keyword.table ↔ Keyword.table.lookup word = some keyword := by
  constructor
  · intro member
    have listed : ∀ entry ∈ Keyword.table, Keyword.table.lookup entry.1 = some entry.2 := by decide
    exact listed _ member
  · intro found
    obtain ⟨before, after, split, _⟩ := List.lookup_eq_some_iff.1 found
    simp [split]

theorem wordKind_iff {word : String} {kind : Kind} : WordKind word kind ↔ kind = .ofWord word := by
  unfold Kind.ofWord
  constructor
  · rintro (member | absent)
    · rw [mem_table_iff.1 member]
    · cases found : Keyword.table.lookup word with
      | none => rfl
      | some keyword => exact absurd (mem_table_iff.2 found) (absent keyword)
  · rintro rfl
    split
    · next found => exact .keyword (mem_table_iff.2 found)
    · next missing => exact .ident fun keyword member => by simp [mem_table_iff.1 member] at missing

theorem gap_iff {c : Char} : isGap c ↔ Gap c := isGap_iff

theorem isWordChar_iff {c : Char} : isWordChar c ↔ Letter c ∨ Digit c := by
  rw [isWordChar, Bool.or_eq_true, isLetter_iff, isDigit_iff]
  rfl

/-- How the texts of tokens start that are no illegal characters. -/
theorem Spells.start {kind : Kind} {c : Char} {rest literal after : List Char}
    (spells : Spells kind (c :: rest) literal after) :
    (∃ symbol, Symbol.ofChar? c = some symbol) ∨ c = '"' ∨ isLetter c ∨ c.isDigit := by
  generalize whole : c :: rest = text at spells
  cases spells with
  | symbol listed =>
    exact .inl (Symbol.exists_ofChar?_of_spelling ((mem_spellings_iff.1 listed).trans whole.symm))
  | word letter _ _ =>
    cases whole
    exact .inr (.inr (.inl (isLetter_iff.2 letter)))
  | int _ digits =>
    exact .inr (.inr (.inr (isDigit_iff.2 (digits c (by simp [← whole])))))
  | @float digits _ _ some inside _ =>
    obtain ⟨first, others, rfl⟩ := List.exists_cons_of_ne_nil some
    obtain ⟨rfl, _⟩ := List.cons.inj whole
    exact .inr (.inr (.inr (isDigit_iff.2 (inside c (by simp)))))
  | closed _ => exact .inr (.inl (List.cons.inj whole).1)
  | unclosed _ => exact .inr (.inl (List.cons.inj whole).1)

/-- A lexeme that fits belongs to the language of its kind. -/
theorem belongs_of_fits {lexeme : Lexeme} {after : List Char} (fits : lexeme.Fits after) :
    Belongs lexeme.kind lexeme.text lexeme.literal after := by
  cases fits with
  | single spelled _ => exact .legal (.symbol (mem_spellings_iff.2 spelled))
  | double spelled => exact .legal (.symbol (mem_spellings_iff.2 spelled))
  | @word c run _ letter inside _ =>
    have plain := (Lexeme.ofWord_ne (String.ofList (c :: run))).1
    rw [Lexeme.literal_of_ne_string plain]
    exact .legal (.word (isLetter_iff.1 letter) (fun d member => isWordChar_iff.1 (inside d member))
      (wordKind_iff.2 rfl))
  | @int c run _ digit inside _ =>
    refine .legal (.int (by simp) fun d member => isDigit_iff.1 ?_)
    rcases List.mem_cons.1 member with rfl | later
    · exact digit
    · exact inside d later
  | @float c run part _ digit inside insidePart _ =>
    refine .legal (.float (by simp) (fun d member => isDigit_iff.1 ?_)
      fun d member => isDigit_iff.1 (insidePart d member))
    rcases List.mem_cons.1 member with rfl | later
    · exact digit
    · exact inside d later
  | closed noQuote =>
    rw [Lexeme.literal_closed noQuote]
    exact .legal (.closed noQuote)
  | unclosed noQuote =>
    rw [Lexeme.literal_unclosed noQuote]
    exact .legal (.unclosed noQuote)
  | @illegal c _ gap noSymbol noQuote noLetter noDigit =>
    refine .illegal (by rw [← gap_iff, gap]; simp) ?_
    intro kind rest literal after spells
    rcases spells.start with ⟨symbol, found⟩ | quote | letter | digit
    · simp [noSymbol] at found
    · exact noQuote quote
    · simp [noLetter] at letter
    · simp [noDigit] at digit

/-- What a text of the grammar can be prolonged to: a lexeme that fits before the rest, and is of
    the same kind unless it is longer. -/
def Prolongs (kind : Kind) (text literal after : List Char) : Prop :=
  ∃ more rest whole, after = more ++ rest ∧ Lexeme.Fits ⟨whole, text ++ more⟩ rest ∧
    (more = [] → whole = kind ∧ literal = Lexeme.literal ⟨kind, text⟩)

private theorem prolongs_self {kind : Kind} {text literal after : List Char}
    (fits : Lexeme.Fits ⟨kind, text⟩ after) (kept : literal = Lexeme.literal ⟨kind, text⟩) :
    Prolongs kind text literal after :=
  ⟨[], after, kind, rfl, by simpa using fits, fun _ => ⟨rfl, kept⟩⟩

private theorem prolongs_symbol {symbol : Symbol} {text : List Char} (after : List Char)
    (spelled : symbol.spelling = text) : Prolongs (.symbol symbol) text text after := by
  have kept : text = Lexeme.literal ⟨.symbol symbol, text⟩ := by simp [Lexeme.literal]
  rcases symbol.spelling_cases with ⟨c, single⟩ | ⟨c, d, double⟩
  · obtain rfl := spelled.symm.trans single
    cases after with
    | nil => exact prolongs_self (.single single (by simp)) kept
    | cons d after =>
      cases pair : Symbol.ofPair? c d with
      | none => exact prolongs_self (.single single (by simpa using pair)) kept
      | some longer =>
        exact ⟨[d], after, .symbol longer, rfl, .double (Symbol.ofPair?_eq_some_iff.1 pair), by simp⟩
  · obtain rfl := spelled.symm.trans double
    exact prolongs_self (.double double) kept

private theorem run_append {class_ : Char → Bool} {run : List Char} (after : List Char)
    (inside : ∀ d ∈ run, class_ d) : ∀ d ∈ run ++ after.takeWhile class_, class_ d := by
  intro d member
  rcases List.mem_append.1 member with first | later
  · exact inside d first
  · exact List.mem_takeWhile_imp later

private theorem prolongs_word {kind : Kind} {c : Char} {run : List Char} (after : List Char)
    (letter : isLetter c) (inside : ∀ d ∈ run, isWordChar d)
    (kindOf : WordKind (String.ofList (c :: run)) kind) : Prolongs kind (c :: run) (c :: run) after := by
  obtain rfl := wordKind_iff.1 kindOf
  refine ⟨after.takeWhile isWordChar, after.dropWhile isWordChar,
    .ofWord (String.ofList (c :: (run ++ after.takeWhile isWordChar))),
    List.takeWhile_append_dropWhile.symm,
    .word letter (run_append after inside) (head?_dropWhile isWordChar after), ?_⟩
  intro none
  rw [none, List.append_nil, Lexeme.literal_of_ne_string (Lexeme.ofWord_ne _).1]
  exact ⟨rfl, rfl⟩

private theorem prolongs_int {c : Char} {run : List Char} (after : List Char) (digit : c.isDigit)
    (inside : ∀ d ∈ run, d.isDigit) : Prolongs .int (c :: run) (c :: run) after := by
  have split := @List.takeWhile_append_dropWhile _ Char.isDigit after
  have stops := head?_dropWhile Char.isDigit after
  by_cases point : ∃ part, after.dropWhile Char.isDigit = '.' :: part
  · obtain ⟨part, left⟩ := point
    refine ⟨after.takeWhile Char.isDigit ++ '.' :: part.takeWhile Char.isDigit,
      part.dropWhile Char.isDigit, .float, ?_, ?_, by simp⟩
    · rw [List.append_assoc, List.cons_append, List.takeWhile_append_dropWhile, ← left, split]
    · have digits : ∀ d ∈ part.takeWhile Char.isDigit, d.isDigit :=
        fun d member => List.mem_takeWhile_imp member
      simpa using Lexeme.Fits.float digit (run_append after inside) digits
        (head?_dropWhile Char.isDigit part)
  · refine ⟨after.takeWhile Char.isDigit, after.dropWhile Char.isDigit, .int, split.symm,
      .int digit (run_append after inside) fun d first => ⟨stops d first, ?_⟩, fun _ => ⟨rfl, rfl⟩⟩
    rintro rfl
    exact point (List.head?_eq_some_iff.1 first)

private theorem prolongs_float {c : Char} {run part : List Char} (after : List Char)
    (digit : c.isDigit) (inside : ∀ d ∈ run, d.isDigit) (insidePart : ∀ d ∈ part, d.isDigit) :
    Prolongs .float (c :: run ++ '.' :: part) (c :: run ++ '.' :: part) after := by
  refine ⟨after.takeWhile Char.isDigit, after.dropWhile Char.isDigit, .float,
    List.takeWhile_append_dropWhile.symm, ?_, fun _ => ⟨rfl, rfl⟩⟩
  simpa using Lexeme.Fits.float digit inside (run_append after insidePart)
    (head?_dropWhile Char.isDigit after)

/-- Every text of the grammar can be prolonged to a lexeme that fits. -/
theorem Belongs.prolongs {kind : Kind} {text literal after : List Char}
    (belongs : Belongs kind text literal after) : Prolongs kind text literal after := by
  cases belongs with
  | legal spells =>
    cases spells with
    | symbol listed => exact prolongs_symbol after (mem_spellings_iff.1 listed)
    | word letter inside kindOf =>
      exact prolongs_word after (isLetter_iff.2 letter)
        (fun d member => isWordChar_iff.2 (inside d member)) kindOf
    | int some inside =>
      obtain ⟨c, run, rfl⟩ := List.exists_cons_of_ne_nil some
      exact prolongs_int after (isDigit_iff.2 (inside c (by simp)))
        fun d member => isDigit_iff.2 (inside d (by simp [member]))
    | float some inside insidePart =>
      obtain ⟨c, run, rfl⟩ := List.exists_cons_of_ne_nil some
      exact prolongs_float after (isDigit_iff.2 (inside c (by simp)))
        (fun d member => isDigit_iff.2 (inside d (by simp [member])))
        fun d member => isDigit_iff.2 (insidePart d member)
    | closed noQuote => exact prolongs_self (.closed noQuote) (Lexeme.literal_closed noQuote).symm
    | unclosed noQuote =>
      exact prolongs_self (.unclosed noQuote) (Lexeme.literal_unclosed noQuote).symm
  | @illegal c _ gap noStart =>
    have noQuote : c ≠ '"' := by
      rintro rfl
      exact noStart _ _ _ _ (.unclosed (List.not_mem_nil))
    have noSymbol : Symbol.ofChar? c = none := by
      cases found : Symbol.ofChar? c with
      | none => rfl
      | some symbol =>
        have listed := mem_spellings_iff.2 (Symbol.ofChar?_eq_some_iff.1 found)
        exact absurd (.symbol listed) (noStart _ _ _ after)
    have noLetter : ¬ isLetter c := fun letter =>
      noStart _ [] _ after (.word (isLetter_iff.1 letter) (by simp) (wordKind_iff.2 rfl))
    have noDigit : ¬ c.isDigit := fun digit =>
      noStart _ _ _ after (.int (by simp) fun d member => by
        rw [List.mem_singleton.1 member]
        exact isDigit_iff.1 digit)
    have noGap : isGap c = false := by
      rw [Bool.eq_false_iff, Ne, gap_iff]
      exact gap
    exact prolongs_self (.illegal noGap noSymbol noQuote (by simpa using noLetter)
      (by simpa using noDigit)) rfl

/-- The longest matches are the lexemes that fit. -/
theorem longest_iff {kind : Kind} {text literal after : List Char} :
    Longest kind text literal after ↔
      Lexeme.Fits ⟨kind, text⟩ after ∧ literal = Lexeme.literal ⟨kind, text⟩ := by
  constructor
  · rintro ⟨belongs, longest⟩
    -- What the text can be prolonged to belongs too, so it is not prolonged at all.
    obtain ⟨more, rest, whole, rfl, fits, complete⟩ := belongs.prolongs
    have length := longest _ _ _ _ (belongs_of_fits fits) (List.append_assoc ..)
    have none : more = [] := by
      rw [List.length_append] at length
      exact List.eq_nil_of_length_eq_zero (by omega)
    obtain ⟨rfl, same⟩ := complete none
    subst none
    exact ⟨by simpa using fits, same⟩
  · rintro ⟨fits, rfl⟩
    refine ⟨belongs_of_fits fits, ?_⟩
    intro otherKind otherText otherLiteral otherAfter belongs same
    -- Any other text can be prolonged to the lexeme that fits, as there is only one.
    obtain ⟨more, rest, whole, rfl, otherFits, _⟩ := belongs.prolongs
    obtain ⟨equal, _⟩ := fits.unique otherFits (by rw [List.append_assoc, same])
    have text := congrArg List.length (congrArg Lexeme.text equal)
    simp only [List.length_append] at text
    omega

/-- The tokens of the grammar are those that are read. -/
theorem tokens_iff {offset : Nat} {text : List Char} {tokens : List Token} :
    Tokens offset text tokens ↔ ∃ faults, Reading offset text tokens faults := by
  constructor
  · intro cut
    induction cut with
    | ending gap => exact ⟨_, .ending fun c member => gap_iff.2 (gap c member)⟩
    | token gap longest _ ih =>
      obtain ⟨faults, reading⟩ := ih
      obtain ⟨fits, rfl⟩ := longest_iff.1 longest
      exact ⟨_, .lexeme (fun c member => gap_iff.2 (gap c member)) fits reading⟩
  · rintro ⟨faults, reading⟩
    induction reading with
    | ending gap => exact .ending fun c member => gap_iff.1 (gap c member)
    | lexeme gap fits _ ih =>
      exact .token (fun c member => gap_iff.1 (gap c member)) (longest_iff.2 ⟨fits, rfl⟩) ih

end Grammar

/-- The tokens of a source are exactly those that the grammar cuts it into by longest matches. -/
theorem tokenize_eq_iff (source : String) (tokens : List Token) :
    tokenize source = tokens ↔ Grammar.Tokens 0 source.toList tokens := by
  rw [Grammar.tokens_iff]
  constructor
  · rintro rfl
    exact ⟨_, reading_source source⟩
  · rintro ⟨faults, reading⟩
    exact reading.eq_tokenize.1

example : (tokenize "a===1.2.3").map (·.literal) = ["a", "==", "=", "1.2", ".", "3", ""] := by
  decide +kernel

end GoldFront
