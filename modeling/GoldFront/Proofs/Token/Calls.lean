import GoldFront.Proofs.Token.Diagnostics

namespace GoldFront

open Text (byteSize)

namespace Cursor

inductive Call where
  | next | pull | drain | diagnostics
deriving DecidableEq, Repr

inductive Answer where
  | next (token : Token)
  | pull (token? : Option Token)
  | drain (tokens : List Token)
  | diagnostics (told : List Diagnostic)
deriving DecidableEq, Repr

def Answer.tokens : Answer → List Token
  | next token => [token]
  | pull token? => token?.toList
  | drain tokens => tokens
  | diagnostics _ => []

/-- The tokens that an answer gives by pulling. -/
def Answer.pulled : Answer → List Token
  | pull token? => token?.toList
  | drain tokens => tokens
  | _ => []

def diagnostics (cursor : Cursor) : List Diagnostic := cursor.faults.toList.map Fault.diagnostic

def answer (cursor : Cursor) : Call → Answer × Cursor
  | .next => (.next cursor.next.1, cursor.next.2)
  | .pull =>
    match cursor.pull with
    | none => (.pull none, cursor)
    | some (token, after) => (.pull (some token), after)
  | .drain => (.drain cursor.drain.1, cursor.drain.2)
  | .diagnostics => (.diagnostics cursor.diagnostics, cursor)

/-- The answers to calls made one after the other, and the cursor after the last. -/
def run (cursor : Cursor) : List Call → List Answer × Cursor
  | [] => ([], cursor)
  | call :: calls =>
    let (answer, after) := cursor.answer call
    let (answers, last) := after.run calls
    (answer :: answers, last)

theorem run_append (cursor : Cursor) (calls more : List Call) :
    cursor.run (calls ++ more) =
      ((cursor.run calls).1 ++ ((cursor.run calls).2.run more).1,
        ((cursor.run calls).2.run more).2) := by
  induction calls generalizing cursor with
  | nil => rfl
  | cons call calls ih =>
    simp only [List.cons_append, run, ih]

/-- A cursor after some tokens of a source have been given, some of them by pulling. -/
structure Follows (source : String) (given pulled : List Token) (cursor : Cursor) : Prop where
  stands : cursor.StandsIn source.toList
  /-- What is left continues what was given to the tokens of the source, or to more end tokens. -/
  stream : ∃ left faults repeats, Reading cursor.offset cursor.rest left faults ∧
    given ++ left = tokenize source ++ List.replicate repeats (.eof source.utf8ByteSize)
  told : cursor.diagnostics = given.filterMap (Token.diagnostic? source.toList)
  ended : (∃ token ∈ given, token.kind = .eof) → cursor.rest = []
  among : ∀ token ∈ pulled, token ∈ given
  finished : cursor.finished ↔ ∃ token ∈ pulled, token.kind = .eof
  once : pulled.countP (·.kind = .eof) ≤ 1

variable {source : String} {given pulled : List Token} {cursor : Cursor}

theorem follows_ofSource (source : String) : Follows source [] [] (ofSource source) := by
  refine ⟨Reached.start.standsIn, ?_, rfl, by simp, by simp, by simp [ofSource], by simp⟩
  exact ⟨_, _, 0, reading_source source, by simp⟩

theorem StandsIn.offset_add (stands : cursor.StandsIn source.toList) :
    cursor.offset + byteSize cursor.rest = source.utf8ByteSize := by
  obtain ⟨passed, whole, offset⟩ := stands
  rw [← Text.byteSize_toList, whole, Text.byteSize_append, offset]

/-- Behind the last lexeme one more end token is given. -/
theorem Follows.next_ending (follows : Follows source given pulled cursor)
    (gap : ∀ c ∈ cursor.rest, isGap c) :
    Follows source (given ++ [cursor.next.1]) pulled cursor.next.2 := by
  obtain ⟨left, faults, repeats, reading, stream⟩ := follows.stream
  have next := next_of_gap gap
  have size := follows.stands.offset_add
  obtain ⟨rfl, rfl⟩ := reading.unique (.ending gap)
  rw [size] at next stream
  refine ⟨follows.stands.next, ?_, ?_, ?_, ?_, ?_, follows.once⟩
  · rw [next]
    refine ⟨_, _, repeats + 1, .ending (by simp), ?_⟩
    rw [stream]
    simp [List.replicate_succ', List.append_assoc]
  · have silent : Token.diagnostic? source.toList (.eof source.utf8ByteSize) = none := rfl
    rw [next]
    simpa [silent, diagnostics] using follows.told
  · rw [next]
    simp
  · exact fun token member => List.mem_append_left _ (follows.among token member)
  · rw [next]
    exact follows.finished

/-- A lexeme gives its token, the first of what is left. -/
theorem Follows.next_lexeme (follows : Follows source given pulled cursor) {gap after : List Char}
    {lexeme : Lexeme} (rest : cursor.rest = gap ++ (lexeme.text ++ after))
    (gaps : ∀ c ∈ gap, isGap c) (fits : lexeme.Fits after) :
    Follows source (given ++ [cursor.next.1]) pulled cursor.next.2 := by
  obtain ⟨left, faults, repeats, reading, stream⟩ := follows.stream
  obtain ⟨passed, whole, offset⟩ := follows.stands
  have next := next_of_fits rest gaps fits
  obtain ⟨later, laterFaults, behind⟩ :=
    exists_reading (cursor.offset + byteSize gap + byteSize lexeme.text) after
  rw [rest] at reading
  obtain ⟨rfl, rfl⟩ := reading.unique (.lexeme gaps fits behind)
  refine ⟨follows.stands.next, ?_, ?_, ?_, ?_, ?_, follows.once⟩
  · rw [next]
    exact ⟨later, laterFaults, repeats, behind, by simpa using stream⟩
  · have first := fits.diagnostic?_token (passed ++ gap)
    rw [List.append_assoc, ← rest, ← whole, Text.byteSize_append, ← offset] at first
    rw [next]
    simp only [diagnostics, List.filterMap_append, Array.toList_append, List.map_append]
    rw [← diagnostics, follows.told]
    cases fault : lexeme.fault? (cursor.offset + byteSize gap) <;> simp [first, fault]
  · rintro ⟨token, member, ending⟩
    rcases List.mem_append.1 member with before | new
    · have empty := follows.ended ⟨token, before, ending⟩
      rw [rest] at empty
      exact absurd empty (by simp [fits.text_ne_nil])
    · rw [List.mem_singleton.1 new, next] at ending
      exact absurd ending fits.kind_ne_eof
  · exact fun token member => List.mem_append_left _ (follows.among token member)
  · rw [next]
    exact follows.finished

theorem Follows.next (follows : Follows source given pulled cursor) :
    Follows source (given ++ [cursor.next.1]) pulled cursor.next.2 := by
  rcases gap_or_lexeme cursor.rest with gap | ⟨gap, lexeme, after, rest, gaps, fits⟩
  · exact follows.next_ending gap
  · exact follows.next_lexeme rest gaps fits

theorem Follows.pull {after : Cursor} {token : Token} (follows : Follows source given pulled cursor)
    (gives : cursor.pull = some (token, after)) :
    Follows source (given ++ [token]) (pulled ++ [token]) after := by
  obtain ⟨unfinished, rfl, rfl⟩ := pull_eq_some_iff.1 gives
  have read := follows.next
  have none_yet : ¬ ∃ token ∈ pulled, token.kind = .eof := by
    rw [← follows.finished]
    simp [unfinished]
  refine ⟨read.stands, read.stream, read.told, read.ended, ?_, ?_, ?_⟩
  · intro token member
    rcases List.mem_append.1 member with before | new
    · exact List.mem_append_left _ (follows.among token before)
    · exact List.mem_append_right _ new
  · rw [decide_eq_true_iff]
    constructor
    · intro ending
      exact ⟨_, by simp, ending⟩
    · rintro ⟨token, member, ending⟩
      rcases List.mem_append.1 member with before | new
      · exact absurd ⟨token, before, ending⟩ none_yet
      · rwa [← List.mem_singleton.1 new]
  · have zero : pulled.countP (·.kind = .eof) = 0 := by
      rw [List.countP_eq_zero]
      intro token member
      simpa using fun ending => none_yet ⟨token, member, ending⟩
    rw [List.countP_append, zero, Nat.zero_add]
    exact List.countP_le_length

theorem Follows.drain (follows : Follows source given pulled cursor) :
    Follows source (given ++ cursor.drain.1) (pulled ++ cursor.drain.1) cursor.drain.2 := by
  fun_induction Cursor.drain cursor generalizing given pulled with
  | case1 cursor ended => simpa using follows
  | case2 cursor token after gives tokens last drained ih =>
    have further := ih (follows.pull gives)
    rw [drained] at further
    simpa using further

theorem Follows.answer (follows : Follows source given pulled cursor) (call : Call) :
    Follows source (given ++ (cursor.answer call).1.tokens)
      (pulled ++ (cursor.answer call).1.pulled) (cursor.answer call).2 := by
  cases call with
  | next => simpa [Cursor.answer, Answer.tokens, Answer.pulled] using follows.next
  | pull =>
    cases gives : cursor.pull with
    | none => simpa [Cursor.answer, gives, Answer.tokens, Answer.pulled] using follows
    | some given => simpa [Cursor.answer, gives, Answer.tokens, Answer.pulled] using follows.pull gives
  | drain => exact follows.drain
  | diagnostics => simpa [Cursor.answer, Answer.tokens, Answer.pulled] using follows

theorem Follows.run (follows : Follows source given pulled cursor) (calls : List Call) :
    Follows source (given ++ (cursor.run calls).1.flatMap Answer.tokens)
      (pulled ++ (cursor.run calls).1.flatMap Answer.pulled) (cursor.run calls).2 := by
  induction calls generalizing given pulled cursor with
  | nil => simpa [Cursor.run] using follows
  | cons call calls ih =>
    have further := ih (follows.answer call)
    simpa [Cursor.run, List.append_assoc] using further

theorem next_of_nil (ended : cursor.rest = []) : cursor.next = (.eof cursor.offset, cursor) := by
  obtain ⟨rest, offset, faults, finished⟩ := cursor
  obtain rfl : rest = [] := ended
  exact next_of_gap (by simp)

/-- At the end of the text a call may finish the cursor, and does nothing else. -/
theorem answer_of_nil (ended : cursor.rest = []) (call : Call) :
    ∃ finished, (cursor.answer call).2 = { cursor with finished := finished } := by
  have next := next_of_nil ended
  cases call with
  | next => exact ⟨cursor.finished, by rw [answer, next]⟩
  | pull =>
    by_cases finished : cursor.finished
    · have gone : cursor.pull = none := by simp [pull, finished]
      exact ⟨cursor.finished, by rw [answer, gone]⟩
    · have gives : cursor.pull = some (.eof cursor.offset, { cursor with finished := true }) := by
        simp [pull, finished, next, Token.eof]
      exact ⟨true, by rw [answer, gives]⟩
  | drain =>
    by_cases finished : cursor.finished
    · have gone : cursor.pull = none := by simp [pull, finished]
      exact ⟨cursor.finished, by rw [answer, drain_of_pull_none gone]⟩
    · have unfinished : cursor.finished = false := by simpa using finished
      exact ⟨true, by rw [answer, drain_of_eof unfinished (by rw [next]; rfl), next]⟩
  | diagnostics => exact ⟨cursor.finished, rfl⟩

theorem run_of_nil (ended : cursor.rest = []) (calls : List Call) :
    ∃ finished, (cursor.run calls).2 = { cursor with finished := finished } := by
  induction calls generalizing cursor with
  | nil => exact ⟨cursor.finished, rfl⟩
  | cons call calls ih =>
    obtain ⟨first, after⟩ := answer_of_nil ended call
    have still : (cursor.answer call).2.rest = [] := by rw [after]; exact ended
    obtain ⟨finished, last⟩ := ih still
    refine ⟨finished, ?_⟩
    change ((cursor.answer call).2.run calls).2 = _
    rw [last, after]

theorem pull_eq_none_iff : cursor.pull = none ↔ cursor.finished := by
  unfold pull
  by_cases finished : cursor.finished <;> simp [finished]

theorem pull_drain (cursor : Cursor) : cursor.drain.2.pull = none := by
  fun_induction Cursor.drain cursor with
  | case1 cursor ended => exact ended
  | case2 cursor token after gives tokens last drained ih =>
    rw [drained] at ih
    exact ih

/-- The cursor that calls lead to from the start of a source. -/
def cursorAfter (source : String) (calls : List Call) : Cursor := ((ofSource source).run calls).2

/-- The tokens that calls give from the start of a source. -/
def tokensGiven (source : String) (calls : List Call) : List Token :=
  ((ofSource source).run calls).1.flatMap Answer.tokens

/-- The tokens that calls give from the start of a source by pulling. -/
def tokensPulled (source : String) (calls : List Call) : List Token :=
  ((ofSource source).run calls).1.flatMap Answer.pulled

theorem follows_cursorAfter (source : String) (calls : List Call) :
    Follows source (tokensGiven source calls) (tokensPulled source calls) (cursorAfter source calls) := by
  simpa [tokensGiven, tokensPulled, cursorAfter] using (follows_ofSource source).run calls

theorem cursorAfter_append (source : String) (calls more : List Call) :
    cursorAfter source (calls ++ more) = ((cursorAfter source calls).run more).2 := by
  rw [cursorAfter, run_append, cursorAfter]

/-- However a source is read, the calls give one stream of tokens, its end token over and over at
    the end, with the diagnostics of the tokens given; pulling gives one end token and then no
    more. -/
theorem run_stream (source : String) (calls more : List Call) :
    (∃ repeats, tokensGiven source calls <+:
      tokenize source ++ List.replicate repeats (.eof source.utf8ByteSize)) ∧
    ((cursorAfter source calls).answer .diagnostics).1 =
      .diagnostics ((tokensGiven source calls).filterMap (Token.diagnostic? source.toList)) ∧
    (cursorAfter source calls).diagnostics <+: (cursorAfter source (calls ++ more)).diagnostics ∧
    ((∃ token ∈ tokensGiven source calls, token.kind = .eof) → ∃ finished,
      cursorAfter source (calls ++ more) = { cursorAfter source calls with finished := finished }) ∧
    (tokensPulled source calls).countP (·.kind = .eof) ≤ 1 ∧
    (((cursorAfter source calls).answer .pull).1 = .pull none ↔
      ∃ token ∈ tokensPulled source calls, token.kind = .eof) ∧
    (((cursorAfter source calls).answer .drain).2.answer .pull).1 = .pull none ∧
    ((∃ token ∈ tokensPulled source calls, token.kind = .eof) →
      ((cursorAfter source (calls ++ more)).answer .pull).1 = .pull none ∧
      ((cursorAfter source (calls ++ more)).answer .drain).1 = .drain [] ∧
      ((cursorAfter source (calls ++ more)).answer .next).1 = .next (.eof source.utf8ByteSize)) := by
  have follows := follows_cursorAfter source calls
  have later := follows.run more
  rw [← cursorAfter_append] at later
  have noPull : ∀ cursor : Cursor, (cursor.answer .pull).1 = .pull none ↔ cursor.pull = none := by
    intro cursor
    cases gives : cursor.pull <;> simp [answer, gives]
  refine ⟨?_, congrArg Answer.diagnostics follows.told, ?_, ?_, follows.once, ?_, ?_, ?_⟩
  · obtain ⟨left, _, repeats, _, stream⟩ := follows.stream
    exact ⟨repeats, left, stream⟩
  · rw [follows.told, later.told, List.filterMap_append]
    exact List.prefix_append _ _
  · intro ending
    obtain ⟨finished, last⟩ := run_of_nil (follows.ended ending) more
    exact ⟨finished, by rw [cursorAfter_append, last]⟩
  · rw [noPull, pull_eq_none_iff, follows.finished]
  · exact (noPull _).2 (pull_drain _)
  · rintro ⟨token, member, ending⟩
    have gone : (cursorAfter source (calls ++ more)).pull = none :=
      pull_eq_none_iff.2 (later.finished.2 ⟨token, List.mem_append_left _ member, ending⟩)
    have still := later.ended ⟨token, List.mem_append_left _ (follows.among token member), ending⟩
    have size := later.stands.offset_add
    rw [still, Text.byteSize_nil, Nat.add_zero] at size
    refine ⟨(noPull _).2 gone, ?_, ?_⟩
    · rw [answer, drain_of_pull_none gone]
    · rw [answer, next_of_nil still, size]

/-- Reading past the end does not finish pulling: it still gives an end token, and one only. -/
example : tokensPulled "1" [.next, .next, .pull, .next, .drain, .pull] = [.eof 1] := by decide +kernel

end Cursor

end GoldFront
