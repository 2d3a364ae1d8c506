import GoldFront.Proofs.Text.Slice
import GoldFront.Proofs.Token.Lexeme
import GoldFront.Token.Cursor

/-!
What is read from a text that starts at a byte offset, as a derivation (`Reading`): gaps are passed
over, each lexeme that fits gives its token and its fault, and the end gives an end token. Every
text has one reading (`exists_reading`, `Reading.unique`), and both ways to read a source to its end
give what the reading says (`Reading.drain_eq`, `Reading.readToEnd_eq`).
-/

namespace GoldFront

open Text (byteSize slice? charsBefore?)

namespace Lexeme

/-- The bytes of a lexeme that starts at an offset. -/
def span (lexeme : Lexeme) (start : Nat) : Span := ⟨start, start + byteSize lexeme.text⟩

/-- The token that a lexeme makes at an offset. -/
def token (lexeme : Lexeme) (start : Nat) : Token :=
  ⟨lexeme.kind, String.ofList lexeme.literal, lexeme.span start⟩

/-- What is wrong with a lexeme at an offset. -/
def fault? (lexeme : Lexeme) (start : Nat) : Option Fault :=
  lexeme.cause?.map fun cause => ⟨cause, lexeme.span start⟩

theorem mem_fault?_iff {lexeme : Lexeme} {start : Nat} {fault : Fault} :
    fault ∈ (lexeme.fault? start).toList ↔
      ∃ cause, lexeme.cause? = some cause ∧ fault = ⟨cause, lexeme.span start⟩ := by
  rw [Option.mem_toList, fault?, Option.map_eq_some_iff]
  simp only [eq_comm]

theorem Fits.kind_ne_eof {lexeme : Lexeme} {after : List Char} (fits : lexeme.Fits after) :
    lexeme.kind ≠ .eof := by
  cases fits with
  | word => exact (ofWord_ne _).2.2
  | _ => simp

end Lexeme

/-- The tokens read from a text that starts at an offset, and the faults met. -/
inductive Reading : Nat → List Char → List Token → List Fault → Prop
  | ending {offset : Nat} {gap : List Char} : (∀ c ∈ gap, isGap c) →
      Reading offset gap [.eof (offset + byteSize gap)] []
  | lexeme {offset : Nat} {gap after : List Char} {lexeme : Lexeme} {tokens : List Token}
      {faults : List Fault} : (∀ c ∈ gap, isGap c) → lexeme.Fits after →
      Reading (offset + byteSize gap + byteSize lexeme.text) after tokens faults →
      Reading offset (gap ++ (lexeme.text ++ after))
        (lexeme.token (offset + byteSize gap) :: tokens)
        ((lexeme.fault? (offset + byteSize gap)).toList ++ faults)

/-- A lexeme without a gap in front of it. -/
theorem Reading.of_fits {offset : Nat} {after : List Char} {lexeme : Lexeme} {tokens : List Token}
    {faults : List Fault} (fits : lexeme.Fits after)
    (reading : Reading (offset + byteSize lexeme.text) after tokens faults) :
    Reading offset (lexeme.text ++ after) (lexeme.token offset :: tokens)
      ((lexeme.fault? offset).toList ++ faults) := by
  have noGap : ∀ c ∈ ([] : List Char), isGap c := by simp
  exact Reading.lexeme noGap fits reading

/-- A text is a gap, or has a first lexeme after a gap. -/
theorem gap_or_lexeme (text : List Char) : (∀ c ∈ text, isGap c) ∨
    ∃ gap lexeme after, text = gap ++ (lexeme.text ++ after) ∧ (∀ c ∈ gap, isGap c) ∧
      Lexeme.Fits lexeme after := by
  have whole := @List.takeWhile_append_dropWhile _ isGap text
  have gap : ∀ c ∈ text.takeWhile isGap, isGap c := fun c member => List.mem_takeWhile_imp member
  cases left : text.dropWhile isGap with
  | nil =>
    rw [left, List.append_nil] at whole
    exact .inl (whole ▸ gap)
  | cons c rest =>
    have noGap : isGap c = false := head?_dropWhile isGap text c (by simp [left])
    refine .inr ⟨text.takeWhile isGap, (Lexeme.read c rest).1, (Lexeme.read c rest).2, ?_, gap,
      Lexeme.fits_read noGap rest⟩
    rw [Lexeme.read_append, ← left, whole]

theorem exists_reading (offset : Nat) (text : List Char) :
    ∃ tokens faults, Reading offset text tokens faults := by
  rcases gap_or_lexeme text with gap | ⟨gap, lexeme, after, whole, gaps, fits⟩
  · exact ⟨_, _, .ending gap⟩
  · have shorter : after.length < text.length := by
      have := List.length_pos_iff.2 fits.text_ne_nil
      simp only [whole, List.length_append]
      omega
    obtain ⟨tokens, faults, reading⟩ :=
      exists_reading (offset + byteSize gap + byteSize lexeme.text) after
    have read := Reading.lexeme gaps fits reading
    rw [← whole] at read
    exact ⟨_, _, read⟩
termination_by text.length

namespace Cursor

variable {cursor : Cursor}

theorem next_of_gap (gap : ∀ c ∈ cursor.rest, isGap c) :
    cursor.next = (.eof (cursor.offset + byteSize cursor.rest),
      { cursor with rest := [], offset := cursor.offset + byteSize cursor.rest }) := by
  have passed : cursor.rest.takeWhile isGap = cursor.rest := List.takeWhile_eq_self_iff.2 gap
  have left : cursor.rest.dropWhile isGap = [] := List.dropWhile_eq_nil_iff.2 gap
  simp only [next, passed, left]

/-- Where a lexeme fits after a gap, its token is next, and its fault is remembered. -/
theorem next_of_fits {gap after : List Char} {lexeme : Lexeme}
    (rest : cursor.rest = gap ++ (lexeme.text ++ after)) (gaps : ∀ c ∈ gap, isGap c)
    (fits : lexeme.Fits after) :
    cursor.next = (lexeme.token (cursor.offset + byteSize gap),
      { cursor with
        rest := after
        offset := cursor.offset + byteSize gap + byteSize lexeme.text
        faults := cursor.faults ++ (lexeme.fault? (cursor.offset + byteSize gap)).toList.toArray }) := by
  obtain ⟨c, tail, text, noGap⟩ := fits.exists_cons
  have starts : ∀ d ∈ (lexeme.text ++ after).head?, isGap d = false := by simpa [text] using noGap
  obtain ⟨passed, left⟩ := takeWhile_dropWhile_run gaps starts
  have cons : lexeme.text ++ after = c :: (tail ++ after) := by rw [text, List.cons_append]
  simp only [next, rest, passed, left]
  rw [cons]
  simp only [fits.read_eq cons, take, Lexeme.token, Lexeme.fault?, Lexeme.span]
  cases lexeme.cause? <;> simp

theorem pull_eq_some_iff {after : Cursor} {token : Token} :
    cursor.pull = some (token, after) ↔ cursor.finished = false ∧ token = cursor.next.1 ∧
      after = { cursor.next.2 with finished := decide (cursor.next.1.kind = .eof) } := by
  unfold pull
  by_cases finished : cursor.finished
  · simp [finished]
  · simp [finished, eq_comm]

/-- A cursor stands in a text where what it has passed and what is left are the text. -/
def StandsIn (source : List Char) (cursor : Cursor) : Prop :=
  ∃ passed, source = passed ++ cursor.rest ∧ cursor.offset = byteSize passed

/-- The cursors that reading a source may lead to, with `next` and `pull` in any order. -/
inductive Reached (source : String) : Cursor → Prop
  | start : Reached source (.ofSource source)
  | next {cursor : Cursor} : Reached source cursor → Reached source cursor.next.2
  | pull {cursor after : Cursor} {token : Token} : Reached source cursor →
      cursor.pull = some (token, after) → Reached source after

theorem StandsIn.next {source : List Char} (stands : cursor.StandsIn source) :
    cursor.next.2.StandsIn source := by
  obtain ⟨passed, whole, offset⟩ := stands
  rcases gap_or_lexeme cursor.rest with gap | ⟨gap, lexeme, after, rest, gaps, fits⟩
  · rw [next_of_gap gap]
    exact ⟨passed ++ cursor.rest, by simp [whole], by simp [offset]⟩
  · rw [next_of_fits rest gaps fits]
    exact ⟨passed ++ gap ++ lexeme.text, by simp [whole, rest], by simp [offset, Nat.add_assoc]⟩

theorem Reached.standsIn {source : String} (reached : Reached source cursor) :
    cursor.StandsIn source.toList := by
  induction reached with
  | start => exact ⟨[], rfl, rfl⟩
  | next _ ih => exact ih.next
  | pull _ pulled ih =>
    obtain ⟨_, _, rfl⟩ := pull_eq_some_iff.1 pulled
    exact ih.next

theorem drain_of_pull_none (ended : cursor.pull = none) : cursor.drain = ([], cursor) := by
  rw [drain]
  split
  · rfl
  · next pulled => simp [pulled] at ended

theorem drain_of_pull {token : Token} {after : Cursor}
    (gives : cursor.pull = some (token, after)) :
    cursor.drain = (token :: after.drain.1, after.drain.2) := by
  rw [drain]
  split
  · next ended => simp [ended] at gives
  · next pulled =>
    cases gives.symm.trans pulled
    rfl

theorem drain_of_eof (unfinished : cursor.finished = false) (ended : cursor.next.1.kind = .eof) :
    cursor.drain = ([cursor.next.1], { cursor.next.2 with finished := true }) := by
  have gives : cursor.pull = some (cursor.next.1, { cursor.next.2 with finished := true }) :=
    pull_eq_some_iff.2 ⟨unfinished, rfl, by simp [ended]⟩
  rw [drain_of_pull gives, drain_of_pull_none (by simp [pull])]

theorem drain_of_more (unfinished : cursor.finished = false) (more : cursor.next.1.kind ≠ .eof) :
    cursor.drain = (cursor.next.1 :: { cursor.next.2 with finished := false }.drain.1,
      { cursor.next.2 with finished := false }.drain.2) := by
  have gives : cursor.pull = some (cursor.next.1, { cursor.next.2 with finished := false }) :=
    pull_eq_some_iff.2 ⟨unfinished, rfl, by simp [more]⟩
  exact drain_of_pull gives

theorem readToEnd_of_eof (ended : cursor.next.1.kind = .eof) :
    cursor.readToEnd = ([cursor.next.1], cursor.next.2) := by
  rw [readToEnd]
  simp [ended]

theorem readToEnd_of_more (more : cursor.next.1.kind ≠ .eof) :
    cursor.readToEnd = (cursor.next.1 :: cursor.next.2.readToEnd.1, cursor.next.2.readToEnd.2) := by
  rw [readToEnd]
  simp [more]

end Cursor

namespace Reading

variable {offset : Nat} {text : List Char} {tokens : List Token} {faults : List Fault}

/-- Pulling all that is left gives the reading, and remembers its faults after those met before. -/
theorem drain_eq (reading : Reading offset text tokens faults) :
    ∀ cursor : Cursor, cursor.rest = text → cursor.offset = offset → cursor.finished = false →
      cursor.drain =
        (tokens, ⟨[], offset + byteSize text, cursor.faults ++ faults.toArray, true⟩) := by
  -- The cursor is free in the induction: each token is pulled from another one.
  induction reading with
  | ending gap =>
    rintro cursor rfl rfl unfinished
    have next := Cursor.next_of_gap gap
    rw [Cursor.drain_of_eof unfinished (by rw [next]; rfl), next]
    simp
  | @lexeme offset gap after lexeme tokens faults gaps fits _ ih =>
    rintro cursor rest rfl unfinished
    have next := Cursor.next_of_fits rest gaps fits
    rw [Cursor.drain_of_more unfinished (by rw [next]; exact fits.kind_ne_eof), next]
    simp only
    rw [ih _ rfl rfl rfl]
    simp only [Text.byteSize_append, Array.append_assoc, List.append_toArray, Nat.add_assoc]

/-- Reading to the first end token gives the reading too, whether the cursor is finished or not. -/
theorem readToEnd_eq (reading : Reading offset text tokens faults) :
    ∀ cursor : Cursor, cursor.rest = text → cursor.offset = offset →
      cursor.readToEnd =
        (tokens, ⟨[], offset + byteSize text, cursor.faults ++ faults.toArray, cursor.finished⟩) := by
  induction reading with
  | ending gap =>
    rintro cursor rfl rfl
    have next := Cursor.next_of_gap gap
    rw [Cursor.readToEnd_of_eof (by rw [next]; rfl), next]
    simp
  | @lexeme offset gap after lexeme tokens faults gaps fits _ ih =>
    rintro cursor rest rfl
    have next := Cursor.next_of_fits rest gaps fits
    rw [Cursor.readToEnd_of_more (by rw [next]; exact fits.kind_ne_eof), next]
    simp only
    rw [ih _ rfl rfl]
    simp only [Text.byteSize_append, Array.append_assoc, List.append_toArray, Nat.add_assoc]

/-- A text has no other reading. -/
theorem unique {others : List Token} {otherFaults : List Fault}
    (reading : Reading offset text tokens faults) (other : Reading offset text others otherFaults) :
    tokens = others ∧ faults = otherFaults := by
  have drained := reading.drain_eq ⟨text, offset, #[], false⟩ rfl rfl rfl
  have otherDrained := other.drain_eq ⟨text, offset, #[], false⟩ rfl rfl rfl
  simpa using drained.symm.trans otherDrained

/-- Reading a token either ends the reading, or takes its first token and the faults of that. -/
theorem next_cases {cursor : Cursor} (reading : Reading cursor.offset cursor.rest tokens faults) :
    (cursor.next.1.kind = .eof ∧ tokens = [cursor.next.1] ∧ faults = [] ∧
        Reading cursor.next.2.offset cursor.next.2.rest tokens [] ∧
        cursor.next.2.faults = cursor.faults) ∨
      (cursor.next.1.kind ≠ .eof ∧ ∃ later new laterFaults,
        tokens = cursor.next.1 :: later ∧ faults = new ++ laterFaults ∧
        Reading cursor.next.2.offset cursor.next.2.rest later laterFaults ∧
        cursor.next.2.faults = cursor.faults ++ new.toArray) := by
  rcases gap_or_lexeme cursor.rest with gap | ⟨gap, lexeme, after, rest, gaps, fits⟩
  · obtain ⟨rfl, rfl⟩ := reading.unique (.ending gap)
    have ended : Reading (cursor.offset + byteSize cursor.rest) [] _ [] := .ending (by simp)
    rw [Cursor.next_of_gap gap]
    exact .inl ⟨rfl, rfl, rfl, ended, rfl⟩
  · obtain ⟨later, laterFaults, left⟩ :=
      exists_reading (cursor.offset + byteSize gap + byteSize lexeme.text) after
    rw [rest] at reading
    obtain ⟨rfl, rfl⟩ := reading.unique (.lexeme gaps fits left)
    rw [Cursor.next_of_fits rest gaps fits]
    exact .inr ⟨fits.kind_ne_eof, later, _, laterFaults, rfl, rfl, left, rfl⟩

/-- The reading of a source from its start is what its tokens and faults are. -/
theorem eq_tokenize {source : String} (reading : Reading 0 source.toList tokens faults) :
    tokenize source = tokens ∧ GoldFront.faults source = faults := by
  have drained := reading.drain_eq (.ofSource source) rfl rfl rfl
  rw [tokenize, GoldFront.faults, drained]
  simp [Cursor.ofSource]

end Reading

/-- The tokens and faults of a source are a reading of it. -/
theorem reading_source (source : String) :
    Reading 0 source.toList (tokenize source) (faults source) := by
  obtain ⟨tokens, found, reading⟩ := exists_reading 0 source.toList
  obtain ⟨rfl, rfl⟩ := reading.eq_tokenize
  exact reading

/-- Wherever reading a source has led to, what is left to be met completes its faults. -/
theorem Cursor.Reached.exists_faults {source : String} {cursor : Cursor}
    (reached : Cursor.Reached source cursor) : ∃ tokens later,
      Reading cursor.offset cursor.rest tokens later ∧
        GoldFront.faults source = cursor.faults.toList ++ later := by
  -- `pull` is `next` but for the mark that a cursor is finished, which readings do not look at.
  have step : ∀ cursor : Cursor, (∃ tokens later, Reading cursor.offset cursor.rest tokens later ∧
      GoldFront.faults source = cursor.faults.toList ++ later) → ∃ tokens later,
        Reading cursor.next.2.offset cursor.next.2.rest tokens later ∧
          GoldFront.faults source = cursor.next.2.faults.toList ++ later := by
    rintro cursor ⟨tokens, later, reading, split⟩
    rcases reading.next_cases with
      ⟨_, _, rfl, ended, same⟩ | ⟨_, left, new, laterFaults, _, rfl, more, met⟩
    · exact ⟨tokens, [], ended, by rw [same, split]⟩
    · exact ⟨left, laterFaults, more, by simp [met, split]⟩
  induction reached with
  | start => exact ⟨_, _, reading_source source, by simp [Cursor.ofSource]⟩
  | next _ ih => exact step _ ih
  | pull _ pulled ih =>
    obtain ⟨_, _, rfl⟩ := Cursor.pull_eq_some_iff.1 pulled
    exact step _ ih

/-- Reading a source to its end meets its faults. -/
theorem readToEnd_ofSource (source : String) :
    ((Cursor.ofSource source).readToEnd.1 = tokenize source) ∧
      (Cursor.ofSource source).readToEnd.2.faults.toList = faults source := by
  have read := (reading_source source).readToEnd_eq (.ofSource source) rfl rfl
  rw [read]
  simp [Cursor.ofSource]

/-- The spans between tokens: from the end of each, or an offset, to the start of the next. -/
def gapSpans (offset : Nat) : List Token → List Span
  | [] => []
  | token :: tokens => ⟨offset, token.span.start⟩ :: gapSpans token.span.stop tokens

/-- The spans between tokens and of tokens, in order. -/
def cuts (offset : Nat) : List Token → List Span
  | [] => []
  | token :: tokens => ⟨offset, token.span.start⟩ :: token.span :: cuts token.span.stop tokens

/-- A list of tokens that covers a source. -/
structure Tiling (source : String) (tokens : List Token) : Prop where
  /-- There is one end token, the last, behind the last byte. -/
  ending : ∃ body, tokens = body ++ [⟨.eof, "", ⟨source.utf8ByteSize, source.utf8ByteSize⟩⟩] ∧
    ∀ token ∈ body, token.kind ≠ .eof
  /-- Every other token has a byte at least, and lies between characters. -/
  spans : ∀ token ∈ tokens, token.kind ≠ .eof → token.span.start < token.span.stop ∧
    (String.Pos.Raw.mk token.span.start).IsValid source ∧
    (String.Pos.Raw.mk token.span.stop).IsValid source
  /-- Tokens do not overlap, and only gaps stand between them. -/
  gaps : ∀ gap ∈ gapSpans 0 tokens, gap.start ≤ gap.stop ∧ ∃ text,
    slice? source.toList gap = some text ∧ ∀ c ∈ text, c = ' ' ∨ c = '\t' ∨ c = '\n' ∨ c = '\r'
  /-- A literal is the source text of its token, unless it is a string's. -/
  plain : ∀ token ∈ tokens, token.kind ≠ .string →
    slice? source.toList token.span = some token.literal.toList
  /-- A string's literal stands between two quotes, or between a quote and the end. -/
  strings : ∀ token ∈ tokens, token.kind = .string → '"' ∉ token.literal.toList ∧
    (slice? source.toList token.span = some ('"' :: (token.literal.toList ++ ['"'])) ∨
      slice? source.toList token.span = some ('"' :: token.literal.toList) ∧
        token.span.stop = source.utf8ByteSize)
  /-- The texts of gaps and tokens, one after the other, are the source. -/
  whole : ∃ texts : List (List Char),
    (cuts 0 tokens).map (slice? source.toList) = texts.map some ∧ texts.flatten = source.toList
  /-- There is at most one token for each character, and the end token. -/
  count : tokens.length ≤ source.length + 1

/-- Wherever reading looks at a source from a cursor, there is a slice of the source to look at. -/
structure Cursor.LooksInside (source : List Char) (cursor : Cursor) : Prop where
  /-- What is left after any characters have been passed. -/
  ahead : ∀ passed left, cursor.rest = passed ++ left →
    slice? source ⟨cursor.offset + byteSize passed, byteSize source⟩ = some left
  /-- The text of the next token. -/
  text : (slice? source cursor.next.1.span).isSome
  /-- The content of a string. -/
  content : cursor.next.1.kind = .string →
    slice? source ⟨cursor.next.1.span.start + 1,
      cursor.next.1.span.start + 1 + byteSize cursor.next.1.literal.toList⟩ =
        some cursor.next.1.literal.toList

theorem Lexeme.slice?_span (lexeme : Lexeme) (before after : List Char) :
    slice? (before ++ (lexeme.text ++ after)) (lexeme.span (byteSize before)) = some lexeme.text :=
  Text.slice?_append before lexeme.text after

theorem Lexeme.Fits.slice?_content {lexeme : Lexeme} {after : List Char} (fits : lexeme.Fits after)
    (string : lexeme.kind = .string) (before : List Char) :
    slice? (before ++ (lexeme.text ++ after))
      ⟨byteSize before + 1, byteSize before + 1 + byteSize lexeme.literal⟩ = some lexeme.literal := by
  have quote : byteSize before + 1 = byteSize (before ++ ['"']) := by
    rw [Text.byteSize_append]
    rfl
  obtain ⟨rest, text⟩ : ∃ rest, lexeme.text = '"' :: (lexeme.literal ++ rest) := by
    rcases (fits.of_string string).2 with closed | ⟨unclosed, _⟩
    · exact ⟨_, closed⟩
    · exact ⟨[], by simpa using unclosed⟩
  have split : before ++ (lexeme.text ++ after) =
      (before ++ ['"']) ++ (lexeme.literal ++ (rest ++ after)) := by
    rw [text]
    simp
  rw [split, quote]
  exact Text.slice?_append _ _ _

namespace Reading

variable {offset : Nat} {text : List Char} {tokens : List Token} {faults : List Fault}

/-- A token of a reading is the end token, or a lexeme's at its place in the text. -/
theorem eof_or_lexeme (reading : Reading offset text tokens faults) {token : Token}
    (member : token ∈ tokens) : token = .eof (offset + byteSize text) ∨
      ∃ before lexeme after, text = before ++ (lexeme.text ++ after) ∧ Lexeme.Fits lexeme after ∧
        token = lexeme.token (offset + byteSize before) := by
  induction reading with
  | ending gap => exact .inl (List.mem_singleton.1 member)
  | @lexeme offset gap after lexeme tokens faults gaps fits _ ih =>
    rcases List.mem_cons.1 member with rfl | later
    · exact .inr ⟨gap, lexeme, after, rfl, fits, rfl⟩
    · rcases ih later with rfl | ⟨before, other, rest, rfl, otherFits, rfl⟩
      · refine .inl ?_
        simp only [Text.byteSize_append, Nat.add_assoc]
      · refine .inr ⟨gap ++ (lexeme.text ++ before), other, rest, by simp, otherFits, ?_⟩
        simp only [Text.byteSize_append, Nat.add_assoc]

theorem exists_body (reading : Reading offset text tokens faults) :
    ∃ body, tokens = body ++ [.eof (offset + byteSize text)] ∧ ∀ token ∈ body, token.kind ≠ .eof := by
  induction reading with
  | ending gap => exact ⟨[], rfl, by simp⟩
  | @lexeme offset gap after lexeme tokens faults gaps fits _ ih =>
    obtain ⟨body, rfl, others⟩ := ih
    refine ⟨lexeme.token (offset + byteSize gap) :: body, ?_, ?_⟩
    · simp only [List.cons_append, Text.byteSize_append, Nat.add_assoc]
    · intro token member
      rcases List.mem_cons.1 member with rfl | later
      · exact fits.kind_ne_eof
      · exact others token later

theorem length_le (reading : Reading offset text tokens faults) :
    tokens.length ≤ text.length + 1 := by
  induction reading with
  | ending gap => simp
  | lexeme _ fits _ ih =>
    have := List.length_pos_iff.2 fits.text_ne_nil
    simp only [List.length_cons, List.length_append]
    omega

/-- Between the tokens of a reading stand gaps only, wherever the text stands in a source. -/
theorem gaps_of_gapSpans (reading : Reading offset text tokens faults) :
    ∀ before, offset = byteSize before → ∀ span ∈ gapSpans offset tokens, span.start ≤ span.stop ∧
      ∃ gap, slice? (before ++ text) span = some gap ∧ ∀ c ∈ gap, isGap c := by
  induction reading with
  | @ending offset gap gaps =>
    rintro before rfl span member
    obtain rfl : span = ⟨byteSize before, byteSize before + byteSize gap⟩ := by
      simpa [gapSpans, Token.eof, Span.empty] using member
    have slice := Text.slice?_append before gap []
    rw [List.append_nil] at slice
    exact ⟨by simp, gap, slice, gaps⟩
  | @lexeme offset gap after lexeme tokens faults gaps fits _ ih =>
    rintro before rfl span member
    rcases List.mem_cons.1 member with rfl | later
    · exact ⟨by simp [Lexeme.token, Lexeme.span], gap, Text.slice?_append before gap _, gaps⟩
    · simpa using ih _ (Text.byteSize_append_append before gap lexeme.text) span later

/-- The slices at the cuts are the text again. -/
theorem flatten_cuts (reading : Reading offset text tokens faults) :
    ∀ before, offset = byteSize before →
      ∃ texts : List (List Char), (cuts offset tokens).map (slice? (before ++ text)) = texts.map some ∧
        texts.flatten = text := by
  induction reading with
  | @ending offset gap gaps =>
    rintro before rfl
    have first := Text.slice?_append before gap []
    have last := Text.slice?_append (before ++ gap) [] []
    simp only [List.append_nil, Text.byteSize_append, Text.byteSize_nil, Nat.add_zero] at first last
    exact ⟨[gap, []], by simp [cuts, Token.eof, Span.empty, first, last], by simp⟩
  | @lexeme offset gap after lexeme tokens faults gaps fits _ ih =>
    rintro before rfl
    obtain ⟨texts, slices, rfl⟩ := ih _ (Text.byteSize_append_append before gap lexeme.text)
    have first := Text.slice?_append before gap (lexeme.text ++ texts.flatten)
    have second := lexeme.slice?_span (before ++ gap) texts.flatten
    simp only [List.append_assoc, Text.byteSize_append] at second slices
    refine ⟨gap :: lexeme.text :: texts, ?_, by simp⟩
    rw [List.map_cons, List.map_cons, ← slices, ← first, ← second]
    rfl

end Reading

/-- A token that is no end token is a lexeme's at its place in the source. -/
theorem exists_lexeme {source : String} {token : Token} (member : token ∈ tokenize source)
    (more : token.kind ≠ .eof) :
    ∃ before lexeme after, source.toList = before ++ (lexeme.text ++ after) ∧
      Lexeme.Fits lexeme after ∧ token = lexeme.token (byteSize before) := by
  rcases (reading_source source).eof_or_lexeme member with rfl | ⟨before, lexeme, after, whole, fits, rfl⟩
  · exact absurd rfl more
  · exact ⟨before, lexeme, after, whole, fits, by rw [Nat.zero_add]⟩

theorem span_of_mem {source : String} {token : Token} (member : token ∈ tokenize source)
    (more : token.kind ≠ .eof) : token.span.start < token.span.stop ∧
      (String.Pos.Raw.mk token.span.start).IsValid source ∧
      (String.Pos.Raw.mk token.span.stop).IsValid source := by
  obtain ⟨before, lexeme, after, whole, fits, rfl⟩ := exists_lexeme member more
  refine ⟨Nat.lt_add_of_pos_right (Text.byteSize_pos fits.text_ne_nil),
    Text.isValid_byteSize whole, ?_⟩
  rw [← List.append_assoc] at whole
  have stop := Text.isValid_byteSize whole
  rwa [Text.byteSize_append] at stop

theorem slice?_of_plain {source : String} {token : Token} (member : token ∈ tokenize source)
    (plain : token.kind ≠ .string) :
    slice? source.toList token.span = some token.literal.toList := by
  rcases (reading_source source).eof_or_lexeme member with
    rfl | ⟨before, lexeme, after, whole, fits, rfl⟩
  · have last := Text.slice?_append source.toList [] []
    simpa [Token.eof, Span.empty] using last
  · have slice := lexeme.slice?_span before after
    rw [whole]
    simpa [Lexeme.token, Lexeme.literal_of_ne_string plain] using slice

theorem slice?_of_string {source : String} {token : Token} (member : token ∈ tokenize source)
    (string : token.kind = .string) : '"' ∉ token.literal.toList ∧
      (slice? source.toList token.span = some ('"' :: (token.literal.toList ++ ['"'])) ∨
        slice? source.toList token.span = some ('"' :: token.literal.toList) ∧
          token.span.stop = source.utf8ByteSize) := by
  obtain ⟨before, lexeme, after, whole, fits, rfl⟩ := exists_lexeme member (by rw [string]; simp)
  have slice := lexeme.slice?_span before after
  obtain ⟨noQuote, closed | ⟨unclosed, rfl⟩⟩ := fits.of_string string
  · refine ⟨by simpa [Lexeme.token] using noQuote, .inl ?_⟩
    rw [whole]
    simpa [Lexeme.token, ← closed] using slice
  · refine ⟨by simpa [Lexeme.token] using noQuote, .inr ⟨?_, ?_⟩⟩
    · rw [whole]
      simpa [Lexeme.token, ← unclosed] using slice
    · rw [← Text.byteSize_toList, whole]
      simp [Lexeme.token, Lexeme.span]

theorem Cursor.StandsIn.looksInside {source : List Char} {cursor : Cursor}
    (stands : cursor.StandsIn source) : cursor.LooksInside source := by
  obtain ⟨passed, rfl, offset⟩ := stands
  have ahead : ∀ skipped left, cursor.rest = skipped ++ left →
      slice? (passed ++ cursor.rest)
        ⟨cursor.offset + byteSize skipped, byteSize (passed ++ cursor.rest)⟩ = some left := by
    intro skipped left rest
    have slice := Text.slice?_append (passed ++ skipped) left []
    simpa [rest, offset, Nat.add_assoc] using slice
  rcases gap_or_lexeme cursor.rest with gap | ⟨gap, lexeme, after, rest, gaps, fits⟩
  · have next := next_of_gap gap
    have last := Text.slice?_append (passed ++ cursor.rest) [] []
    simp only [List.append_nil, Text.byteSize_append, Text.byteSize_nil, Nat.add_zero] at last
    refine ⟨ahead, ?_, ?_⟩
    · rw [next]
      simp [Token.eof, Span.empty, offset, last]
    · rw [next]
      simp [Token.eof]
  · have next := next_of_fits rest gaps fits
    have start : cursor.offset + byteSize gap = byteSize (passed ++ gap) := by simp [offset]
    have whole : passed ++ cursor.rest = (passed ++ gap) ++ (lexeme.text ++ after) := by simp [rest]
    refine ⟨ahead, ?_, ?_⟩
    · rw [next, whole, start]
      simp only [Lexeme.token, Lexeme.slice?_span, Option.isSome_some]
    · intro string
      rw [next] at string ⊢
      rw [whole, start]
      simpa [Lexeme.token, Lexeme.span] using fits.slice?_content string (passed ++ gap)

/-- The tokens of a source tile it, and reading it looks at nothing but slices of it. -/
theorem tokenize_tiling (source : String) : Tiling source (tokenize source) ∧
    ∀ cursor, Cursor.Reached source cursor → cursor.LooksInside source.toList := by
  have reading := reading_source source
  refine ⟨⟨?_, fun token => span_of_mem, ?_, fun token => slice?_of_plain,
    fun token => slice?_of_string, reading.flatten_cuts [] rfl, ?_⟩,
    fun cursor reached => reached.standsIn.looksInside⟩
  · obtain ⟨body, tokens, others⟩ := reading.exists_body
    refine ⟨body, ?_, others⟩
    rw [tokens, Nat.zero_add, Text.byteSize_toList]
    rfl
  · intro span member
    obtain ⟨le, gap, slice, gaps⟩ := reading.gaps_of_gapSpans [] rfl span member
    exact ⟨le, gap, slice, fun c inside => isGap_iff.1 (gaps c inside)⟩
  · rw [← String.length_toList]
    exact reading.length_le

end GoldFront
