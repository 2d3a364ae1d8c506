import GoldFront.Proofs.Token.Reading
import GoldFront.Session.Prompt

namespace GoldFront

open Text (byteSize slice?)

namespace Token

/-- A string of a source that nothing closes: no quote follows the one that it starts with. -/
def IsOpen (source : List Char) (token : Token) : Prop :=
  token.kind = .string ∧
    ∃ rest ∈ slice? source ⟨token.span.start + 1, byteSize source⟩, '"' ∉ rest

instance (source : List Char) (token : Token) : Decidable (token.IsOpen source) :=
  inferInstanceAs (Decidable (_ ∧ _))

/-- What a reader is to be told about a token of a source. -/
def diagnostic? (source : List Char) (token : Token) : Option Diagnostic :=
  match token.kind with
  | .illegal =>
    some ⟨.illegalCharacter, token.span, "Unexpected character: '" ++ token.literal ++ "'", none⟩
  | .string =>
    if token.IsOpen source then
      some ⟨.unterminatedString, token.span, "Unterminated string",
        some "String literals must be closed with '\"' before the end of input."⟩
    else none
  | _ => none

theorem diagnostic?_eq_none_iff {source : List Char} {token : Token} :
    token.diagnostic? source = none ↔ token.kind ≠ .illegal ∧ ¬ token.IsOpen source := by
  unfold diagnostic?
  split
  · next illegal => simp [illegal]
  · next string => simp [string]
  · next noIllegal noString =>
    simp only [true_iff]
    exact ⟨noIllegal, fun isOpen => noString isOpen.1⟩

end Token

namespace Lexeme

theorem slice?_behind_quote {lexeme : Lexeme} {rest : List Char} (text : lexeme.text = '"' :: rest)
    (before after : List Char) :
    slice? (before ++ (lexeme.text ++ after)) ⟨byteSize before + 1,
      byteSize (before ++ (lexeme.text ++ after))⟩ = some (rest ++ after) := by
  rw [text, List.cons_append]
  exact Text.slice?_behind before '"' (rest ++ after)

/-- A token of a lexeme is open where the lexeme is a string with one quote, at the end. -/
theorem Fits.isOpen_token_iff {lexeme : Lexeme} {after : List Char} (fits : lexeme.Fits after)
    (before : List Char) :
    (lexeme.token (byteSize before)).IsOpen (before ++ (lexeme.text ++ after)) ↔
      lexeme.cause? = some .unterminatedString := by
  rcases fits.cause?_cases with
    ⟨noCause, _, closed⟩ | ⟨c, rfl, cause⟩ | ⟨string, text, rfl, cause⟩
  · rw [noCause]
    refine iff_of_false ?_ (by simp)
    rintro ⟨string, rest, slice, noQuote⟩
    cases slice.symm.trans (slice?_behind_quote (closed string) before after)
    simp at noQuote
  · rw [cause]
    refine iff_of_false ?_ (by simp)
    rintro ⟨string, _⟩
    simp [token] at string
  · rw [cause]
    refine iff_of_true ⟨string, _, slice?_behind_quote text before [], ?_⟩ rfl
    simpa using (fits.of_string string).1

/-- A token of a lexeme calls for the diagnostic of the lexeme's fault. -/
theorem Fits.diagnostic?_token {lexeme : Lexeme} {after : List Char} (fits : lexeme.Fits after)
    (before : List Char) :
    (lexeme.token (byteSize before)).diagnostic? (before ++ (lexeme.text ++ after)) =
      (lexeme.fault? (byteSize before)).map Fault.diagnostic := by
  have isOpen := fits.isOpen_token_iff before
  rcases fits.cause?_cases with ⟨noCause, noIllegal, _⟩ | ⟨c, rfl, cause⟩ | ⟨string, _, _, cause⟩
  · rw [fault?, noCause]
    exact Token.diagnostic?_eq_none_iff.2 ⟨noIllegal, by simp [isOpen, noCause]⟩
  · rw [fault?, cause]
    simp only [Option.map_some, Fault.diagnostic, Diagnostic.illegalCharacter, Char.toString,
      String.singleton_eq_ofList]
    rfl
  · have kind : (lexeme.token (byteSize before)).kind = .string := string
    rw [fault?, cause]
    simp only [Token.diagnostic?, kind, if_pos (isOpen.2 cause)]
    rfl

end Lexeme

namespace Reading

variable {offset : Nat} {text : List Char} {tokens : List Token} {faults : List Fault}

/-- The faults of a reading are those that its tokens call to be told, in order. -/
theorem map_diagnostic (reading : Reading offset text tokens faults) :
    ∀ before, offset = byteSize before →
      faults.map Fault.diagnostic = tokens.filterMap (Token.diagnostic? (before ++ text)) := by
  induction reading with
  | ending => intro before _; rfl
  | @lexeme offset gap after lexeme tokens faults gaps fits _ ih =>
    rintro before rfl
    have later := ih _ (Text.byteSize_append_append before gap lexeme.text)
    have first := fits.diagnostic?_token (before ++ gap)
    simp only [List.append_assoc, Text.byteSize_append] at later first
    rw [List.map_append, later, List.filterMap_cons, first]
    cases lexeme.fault? (byteSize before + byteSize gap) <;> rfl

theorem span_of_fault (reading : Reading offset text tokens faults) :
    ∀ fault ∈ faults, offset ≤ fault.span.start ∧ fault.span.start < fault.span.stop := by
  induction reading with
  | ending => simp
  | @lexeme offset gap after lexeme tokens faults gaps fits _ ih =>
    intro fault member
    rcases List.mem_append.1 member with first | later
    · obtain ⟨cause, _, rfl⟩ := Lexeme.mem_fault?_iff.1 first
      have := Text.byteSize_pos fits.text_ne_nil
      simp only [Lexeme.span]
      omega
    · have := ih fault later
      omega

/-- The faults of a reading follow each other, and no fault follows a string that nothing closes. -/
theorem pairwise_faults (reading : Reading offset text tokens faults) :
    faults.Pairwise fun fault other => fault.cause ≠ .unterminatedString ∧
      fault.span.start < other.span.start ∧ fault.span.stop ≤ other.span.start := by
  induction reading with
  | ending => exact .nil
  | @lexeme offset gap after lexeme tokens faults gaps fits left ih =>
    rcases fits.cause?_cases with ⟨noCause, _⟩ | ⟨c, rfl, cause⟩ | ⟨_, _, rfl, cause⟩
    · simpa [Lexeme.fault?, noCause] using ih
    · simp only [Lexeme.fault?, cause, Option.map_some, Option.toList_some, List.singleton_append]
      refine List.pairwise_cons.2 ⟨fun other member => ⟨by simp, ?_⟩, ih⟩
      have size : 0 < byteSize [c] := Text.byteSize_pos fits.text_ne_nil
      have within := (left.span_of_fault other member).1
      simp only [Lexeme.span] at within ⊢
      omega
    · obtain ⟨_, rfl⟩ := left.unique (.ending (by simp))
      simp [Lexeme.fault?, cause]

theorem stop_of_unterminated (reading : Reading offset text tokens faults) :
    ∀ fault ∈ faults, fault.cause = .unterminatedString →
      fault.span.stop = offset + byteSize text := by
  induction reading with
  | ending => simp
  | @lexeme offset gap after lexeme tokens faults gaps fits _ ih =>
    intro fault member unterminated
    rcases List.mem_append.1 member with first | later
    · obtain ⟨cause, found, rfl⟩ := Lexeme.mem_fault?_iff.1 first
      obtain rfl : cause = .unterminatedString := unterminated
      obtain ⟨_, _, rfl⟩ := fits.of_unterminated found
      simp [Lexeme.span, Nat.add_assoc]
    · rw [ih fault later unterminated]
      simp [Nat.add_assoc]

end Reading

theorem span_diagnostic (fault : Fault) : fault.diagnostic.span = fault.span := by
  obtain ⟨cause, span⟩ := fault
  cases cause <;> rfl

/-- A dump is clean where the source has no fault. -/
theorem clean_iff_faults (console : Console) (source : String) (file : Option String) :
    (Dump.ofSource console source file).clean ↔ faults source = [] := by
  rw [← (readToEnd_ofSource source).2]
  exact List.isEmpty_iff

/-- The diagnostics of a source are those that its tokens call for, in the order of the tokens, and
    however the source has been read to its end. -/
theorem map_diagnostic_faults (source : String) :
    (∀ cursor, Cursor.Reached source cursor → cursor.next.1.kind = .eof →
      cursor.next.2.faults.toList = faults source) ∧
    (faults source).map Fault.diagnostic =
      (tokenize source).filterMap (Token.diagnostic? source.toList) ∧
    (∀ token ∈ tokenize source, token.kind = .illegal → ∃ c, token.literal = String.singleton c) ∧
    ((faults source).Pairwise fun fault other =>
      fault.span.start < other.span.start ∧ fault.span.stop ≤ other.span.start) ∧
    (∀ before fault after, faults source = before ++ fault :: after →
      fault.cause = .unterminatedString → after = [] ∧ fault.span.stop = source.utf8ByteSize) ∧
    ∀ console file, (Dump.ofSource console source file).clean ↔
      ∀ token ∈ tokenize source, token.kind ≠ .illegal ∧ ¬ token.IsOpen source.toList := by
  have reading := reading_source source
  have told := reading.map_diagnostic [] rfl
  have ordered := reading.pairwise_faults
  refine ⟨?_, told, ?_, ordered.imp fun follows => follows.2, ?_, ?_⟩
  · intro cursor reached ended
    obtain ⟨tokens, later, left, split⟩ := reached.exists_faults
    rcases left.next_cases with ⟨_, _, rfl, _, same⟩ | ⟨more, _⟩
    · rw [same, split, List.append_nil]
    · exact absurd ended more
  · intro token member illegal
    obtain ⟨before, lexeme, after, _, fits, rfl⟩ := exists_lexeme member (by rw [illegal]; simp)
    rcases fits.cause?_cases with ⟨_, noIllegal, _⟩ | ⟨c, rfl, _⟩ | ⟨string, _⟩
    · exact absurd illegal noIllegal
    · exact ⟨c, (String.singleton_eq_ofList).symm⟩
    · cases string.symm.trans illegal
  · intro before fault after split unterminated
    rw [split] at ordered
    have member : fault ∈ faults source := by simp [split]
    refine ⟨?_, ?_⟩
    · cases after with
      | nil => rfl
      | cons other after =>
        have follows := (List.pairwise_append.1 ordered).2.1
        exact absurd unterminated (List.rel_of_pairwise_cons follows List.mem_cons_self).1
    · rw [reading.stop_of_unterminated fault member unterminated, Nat.zero_add,
        Text.byteSize_toList]
  · intro console file
    rw [clean_iff_faults, ← List.map_eq_nil_iff, told, List.filterMap_eq_nil_iff]
    exact forall₂_congr fun token _ => Token.diagnostic?_eq_none_iff

/-- The byte offsets of the quotes in a text that starts at an offset. -/
def quotesFrom (offset : Nat) : List Char → List Nat
  | [] => []
  | c :: rest =>
    if c = '"' then offset :: quotesFrom (offset + c.utf8Size) rest
    else quotesFrom (offset + c.utf8Size) rest

theorem length_quotesFrom (offset : Nat) (text : List Char) :
    (quotesFrom offset text).length = text.count '"' := by
  induction text generalizing offset with
  | nil => rfl
  | cons c rest ih =>
    by_cases quote : c = '"'
    · simp [quotesFrom, quote, ih]
    · simp [quotesFrom, quote, ih]

theorem quotesFrom_append (offset : Nat) (text more : List Char) :
    quotesFrom offset (text ++ more) =
      quotesFrom offset text ++ quotesFrom (offset + byteSize text) more := by
  induction text generalizing offset with
  | nil => rfl
  | cons c rest ih =>
    by_cases quote : c = '"'
    · simp [quotesFrom, quote, ih, Nat.add_assoc]
    · simp [quotesFrom, quote, ih, Nat.add_assoc]

theorem quotesFrom_eq_nil (offset : Nat) {text : List Char} (noQuote : '"' ∉ text) :
    quotesFrom offset text = [] := by
  rw [← List.length_eq_zero_iff, length_quotesFrom]
  exact List.count_eq_zero.2 noQuote

theorem quotesFrom_closed (offset : Nat) {content : List Char} (noQuote : '"' ∉ content) :
    quotesFrom offset ('"' :: (content ++ ['"'])) = [offset, offset + 1 + byteSize content] := by
  rw [quotesFrom, if_pos rfl, quotesFrom_append, quotesFrom_eq_nil _ noQuote]
  rfl

theorem quotesFrom_unclosed (offset : Nat) {content : List Char} (noQuote : '"' ∉ content) :
    quotesFrom offset ('"' :: content) = [offset] := by
  rw [quotesFrom, if_pos rfl, quotesFrom_eq_nil _ noQuote]

theorem not_quote_of_isGap {gap : List Char} (gaps : ∀ c ∈ gap, isGap c) : '"' ∉ gap := by
  intro member
  exact absurd (gaps _ member) (by decide)

/-- Only strings have quotes in their text. -/
theorem Lexeme.Fits.not_quote_of_ne_string {lexeme : Lexeme} {after : List Char}
    (fits : lexeme.Fits after) (plain : lexeme.kind ≠ .string) : '"' ∉ lexeme.text := by
  have symbols : ∀ symbol : Symbol, '"' ∉ symbol.spelling := by
    intro symbol
    cases symbol <;> decide
  intro member
  cases fits with
  | single spelled _ => exact symbols _ (spelled ▸ member)
  | double spelled => exact symbols _ (spelled ▸ member)
  | word letter inside _ =>
    rcases List.mem_cons.1 member with rfl | later
    · exact absurd letter (by decide)
    · exact absurd (inside _ later) (by decide)
  | int digit inside _ =>
    rcases List.mem_cons.1 member with rfl | later
    · exact absurd digit (by decide)
    · exact absurd (inside _ later) (by decide)
  | float digit inside insidePart _ =>
    rcases List.mem_append.1 member with whole | part
    · rcases List.mem_cons.1 whole with rfl | later
      · exact absurd digit (by decide)
      · exact absurd (inside _ later) (by decide)
    · rcases List.mem_cons.1 part with point | later
      · exact absurd point (by decide)
      · exact absurd (insidePart _ later) (by decide)
  | closed _ => exact plain rfl
  | unclosed _ => exact plain rfl
  | illegal _ _ noQuote _ _ => exact noQuote (List.mem_singleton.1 member).symm

theorem Lexeme.filter_fault?_eq_nil {lexeme : Lexeme} (start : Nat)
    (closed : lexeme.cause? ≠ some .unterminatedString) :
    (lexeme.fault? start).toList.filter (·.cause = .unterminatedString) = [] := by
  refine List.filter_eq_nil_iff.2 fun fault member unterminated => ?_
  obtain ⟨cause, found, rfl⟩ := Lexeme.mem_fault?_iff.1 member
  exact closed (found.trans (congrArg some (of_decide_eq_true unterminated)))

/-- The strings of a source between the quotes given, and the faults of strings that nothing closes:
    two quotes for each string, but one for an open string at the end. -/
inductive Paired (source : List Char) : List Nat → List Token → List Fault → Prop
  | done : Paired source [] [] []
  | closed {first second : Nat} {quotes : List Nat} {token : Token} {strings : List Token}
      {opened : List Fault} : token.span = ⟨first, second + 1⟩ →
      slice? source ⟨first + 1, second⟩ = some token.literal.toList →
      Paired source quotes strings opened →
      Paired source (first :: second :: quotes) (token :: strings) opened
  | unclosed {first : Nat} {token : Token} : token.span.start = first →
      Paired source [first] [token] [⟨.unterminatedString, ⟨first, byteSize source⟩⟩]

namespace Paired

variable {source : List Char} {quotes : List Nat} {strings : List Token} {opened : List Fault}

theorem length_eq (paired : Paired source quotes strings opened) :
    strings.length = (quotes.length + 1) / 2 := by
  induction paired with
  | done => rfl
  | closed _ _ _ ih =>
    simp only [List.length_cons, ih]
    omega
  | unclosed _ => simp

theorem opened_eq (paired : Paired source quotes strings opened) :
    (quotes.length % 2 = 0 ∧ opened = []) ∨
      (quotes.length % 2 = 1 ∧ ∃ last, quotes.getLast? = some last ∧
        opened = [⟨.unterminatedString, ⟨last, byteSize source⟩⟩]) := by
  induction paired with
  | done => exact .inl ⟨rfl, rfl⟩
  | closed _ _ later ih =>
    rcases ih with ⟨even, none⟩ | ⟨odd, last, found, one⟩
    · refine .inl ⟨?_, none⟩
      simp only [List.length_cons]
      omega
    · refine .inr ⟨?_, last, by simp [List.getLast?_cons, found], one⟩
      simp only [List.length_cons]
      omega
  | unclosed _ => exact .inr ⟨rfl, _, rfl, rfl⟩

theorem getElem?_eq (paired : Paired source quotes strings opened) {place : Nat} {token : Token}
    (found : strings[place]? = some token) :
    quotes[2 * place]? = some token.span.start ∧ ∀ second, quotes[2 * place + 1]? = some second →
      token.span.stop = second + 1 ∧
        slice? source ⟨token.span.start + 1, second⟩ = some token.literal.toList := by
  induction paired generalizing place with
  | done => simp at found
  | closed span slice _ ih =>
    cases place with
    | zero =>
      obtain rfl := Option.some.inj found
      rw [span]
      refine ⟨rfl, fun second closes => ?_⟩
      obtain rfl := Option.some.inj closes
      exact ⟨rfl, slice⟩
    | succ place => simpa [Nat.mul_add] using ih (by simpa using found)
  | unclosed start =>
    cases place with
    | zero =>
      obtain rfl := Option.some.inj found
      simp [start]
    | succ place => simp at found

end Paired

/-- The two quotes of a closed string come before the pairs behind it. -/
theorem Lexeme.Fits.paired_closed {lexeme : Lexeme} {after : List Char} (fits : lexeme.Fits after)
    (string : lexeme.kind = .string) (closed : lexeme.text = '"' :: (lexeme.literal ++ ['"']))
    {before : List Char} {quotes : List Nat} {strings : List Token} {opened : List Fault}
    (behind : Paired (before ++ (lexeme.text ++ after)) quotes strings opened) :
    Paired (before ++ (lexeme.text ++ after)) (quotesFrom (byteSize before) lexeme.text ++ quotes)
      (lexeme.token (byteSize before) :: strings) opened := by
  have both := quotesFrom_closed (byteSize before) (fits.of_string string).1
  have slice := fits.slice?_content string before
  have size : byteSize lexeme.text = 1 + byteSize lexeme.literal + 1 := by
    rw [closed, Text.byteSize_cons, Text.byteSize_append]
    rfl
  rw [← closed] at both
  rw [both]
  refine .closed ?_ ?_ behind
  · simp only [Lexeme.token, Lexeme.span, size, Nat.add_assoc]
  · simpa [Lexeme.token] using slice

/-- Reading pairs the quotes of a text, wherever it stands in a source. -/
theorem Reading.paired {offset : Nat} {text : List Char} {tokens : List Token} {faults : List Fault}
    (reading : Reading offset text tokens faults) : ∀ before, offset = byteSize before →
      Paired (before ++ text) (quotesFrom offset text) (tokens.filter (·.kind = .string))
        (faults.filter (·.cause = .unterminatedString)) := by
  induction reading with
  | ending gaps =>
    intro before _
    rw [quotesFrom_eq_nil _ (not_quote_of_isGap gaps)]
    exact .done
  | @lexeme offset gap after lexeme tokens faults gaps fits later ih =>
    rintro before rfl
    have behind := ih _ (Text.byteSize_append_append before gap lexeme.text)
    have noGap := quotesFrom_eq_nil (byteSize before) (not_quote_of_isGap gaps)
    rw [quotesFrom_append, quotesFrom_append, noGap, List.nil_append, List.filter_append]
    by_cases plain : lexeme.kind ≠ .string
    · have closed : lexeme.cause? ≠ some .unterminatedString := by
        intro unterminated
        exact plain (fits.of_unterminated unterminated).1
      have noQuote := quotesFrom_eq_nil (byteSize before + byteSize gap)
        (fits.not_quote_of_ne_string plain)
      rw [noQuote, Lexeme.filter_fault?_eq_nil _ closed]
      simpa [Lexeme.token, plain] using behind
    · have string : lexeme.kind = .string := by simpa using plain
      rcases fits.cause?_cases with ⟨noCause, _, closed⟩ | ⟨c, rfl, _⟩ | ⟨_, text, rfl, cause⟩
      · simp only [← Text.byteSize_append, List.append_assoc] at behind ⊢
        simp only [← List.append_assoc before gap] at behind ⊢
        have pairs := fits.paired_closed string (closed string) behind
        simpa [Lexeme.fault?, noCause, Lexeme.token, string, List.filter_cons] using pairs
      · simp at string
      · obtain ⟨rfl, rfl⟩ := later.unique (.ending (by simp))
        have quotes :=
          quotesFrom_unclosed (byteSize before + byteSize gap) (fits.of_string string).1
        rw [← text] at quotes
        have one : Paired (before ++ (gap ++ lexeme.text)) _
            [lexeme.token (byteSize before + byteSize gap)] _ := .unclosed rfl
        rw [quotes, Lexeme.fault?, cause]
        simpa [Lexeme.token, Lexeme.span, string, Token.eof, quotesFrom, Nat.add_assoc] using one

theorem filter_category (faults : List Fault) :
    (faults.map Fault.diagnostic).filter (·.category = .unterminatedString) =
      (faults.filter (·.cause = .unterminatedString)).map Fault.diagnostic := by
  have same : ∀ fault : Fault, decide (fault.diagnostic.category = .unterminatedString) =
      decide (fault.cause = .unterminatedString) := by
    rintro ⟨cause, span⟩
    cases cause <;> rfl
  rw [List.filter_map]
  simp only [Function.comp_def, same]

/-- The strings of a source stand between its quotes: the first and the second, the third and the
    fourth, and so on; and the last is open if no quote is left to close it. -/
theorem strings_between_quotes (source : String) :
    ((tokenize source).filter (·.kind = .string)).length = (source.toList.count '"' + 1) / 2 ∧
    ((∃ told ∈ (faults source).map Fault.diagnostic, told.category = .unterminatedString) ↔
      source.toList.count '"' % 2 = 1) ∧
    (source.toList.count '"' % 2 = 1 → ∃ last, (quotesFrom 0 source.toList).getLast? = some last ∧
      ((faults source).map Fault.diagnostic).filter (·.category = .unterminatedString) =
        [.unterminatedString ⟨last, source.utf8ByteSize⟩]) ∧
    ∀ place token, ((tokenize source).filter (·.kind = .string))[place]? = some token →
      (quotesFrom 0 source.toList)[2 * place]? = some token.span.start ∧
      ∀ second, (quotesFrom 0 source.toList)[2 * place + 1]? = some second →
        token.span.stop = second + 1 ∧
          slice? source.toList ⟨token.span.start + 1, second⟩ = some token.literal.toList := by
  have paired := (reading_source source).paired [] rfl
  rw [List.nil_append] at paired
  have count := length_quotesFrom 0 source.toList
  have told := filter_category (faults source)
  refine ⟨?_, ?_, ?_, fun place token => paired.getElem?_eq⟩
  · rw [paired.length_eq, count]
  · rcases paired.opened_eq with ⟨even, none⟩ | ⟨odd, last, _, one⟩
    · rw [none, List.map_nil, List.filter_eq_nil_iff] at told
      refine iff_of_false ?_ (by omega)
      rintro ⟨diagnostic, member, unterminated⟩
      exact told diagnostic member (decide_eq_true unterminated)
    · have member : Diagnostic.unterminatedString ⟨last, byteSize source.toList⟩ ∈
          ((faults source).map Fault.diagnostic).filter (·.category = .unterminatedString) := by
        rw [told, one]
        exact List.mem_singleton.2 rfl
      exact iff_of_true ⟨_, (List.mem_filter.1 member).1, rfl⟩ (by omega)
  · intro odd
    rcases paired.opened_eq with ⟨even, _⟩ | ⟨_, last, found, one⟩
    · omega
    · rw [one, Text.byteSize_toList] at told
      exact ⟨last, found, told⟩

end GoldFront
