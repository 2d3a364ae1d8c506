import Mathlib.Algebra.Order.Ring.Nat
import GoldFront.Contract.Registry
import GoldFront.Proofs.Contract.Call
import GoldFront.Proofs.Contract.Registry

namespace GoldFront

namespace Contract

theorem accepts_of_rest_none {contract : Contract} {arguments : List Value}
    (noRest : contract.rest = none) :
    contract.Accepts arguments ↔ List.Forall₂ Expectation.Allows contract.params arguments := by
  constructor
  · rintro ⟨fixed, extra, rfl, allowed, further⟩
    cases extra with
    | nil => simpa using allowed
    | cons argument extra =>
      obtain ⟨rest, isRest, _⟩ := further argument List.mem_cons_self
      rw [noRest] at isRest
      cases isRest
  · intro allowed
    exact ⟨arguments, [], (List.append_nil _).symm, allowed, by simp⟩

/-- Where any value and null may be returned, everything may. -/
theorem returns_of_any {contract : Contract} (any : contract.result.type = .any)
    (nullable : contract.result.nullable = true) (value : Value) : contract.Returns value := by
  by_cases null : value = .null
  · subst null
    exact .null (.inl nullable)
  · exact .typed null (.inl any)

theorem returns_of_type {contract : Contract} {value : Value}
    (type : contract.result.type = value.type) : contract.Returns value := by
  by_cases null : value = .null
  · subst null
    exact .null (.inr type)
  · exact .typed null (.inr type)

end Contract

namespace Standard

theorem allows_anythingOrNull (value : Value) : anythingOrNull.Allows value := by
  by_cases null : value = .null
  · exact .inl ⟨null, rfl⟩
  · exact .inr ⟨null, .inl rfl⟩

theorem allows_anArray {value : Value} :
    anArray.Allows value ↔ ∃ elements, value = .array elements := by
  cases value <;> simp [anArray, Expectation.Allows, Value.type]

/-- What a standard builtin answers to arguments that its contract accepts. -/
inductive Answers : String → List Value → Value → Prop
  | lenOfArray (elements : List Value) :
      Answers "len" [.array elements] (.integer (Int64.ofNat elements.length))
  | lenOfString (text : String) : Answers "len" [.string text] (.integer (Int64.ofNat text.length))
  | lenOfOther {value : Value} : value.type ≠ .array → value.type ≠ .string →
      Answers "len" [value] (.error ("argument to `len` not supported, got " ++ value.type.name))
  | print (arguments : List Value) : Answers "print" arguments .null
  | firstOfEmpty : Answers "first" [.array []] .null
  | first (element : Value) (others : List Value) :
      Answers "first" [.array (element :: others)] element
  | lastOfEmpty : Answers "last" [.array []] .null
  | last (others : List Value) (element : Value) :
      Answers "last" [.array (others ++ [element])] element
  | push (elements : List Value) (value : Value) :
      Answers "push" [.array elements, value] (.array (elements ++ [value]))
  | restOfEmpty : Answers "rest" [.array []] .null
  | rest (element : Value) (others : List Value) :
      Answers "rest" [.array (element :: others)] (.array others)
  | type (value : Value) : Answers "type" [value] (.string value.type.name)

theorem answers_length (value : Value) : Answers "len" [value] (length [value]) := by
  cases value with
  | array elements => exact .lenOfArray elements
  | string text => exact .lenOfString text
  | _ => exact .lenOfOther (by simp [Value.type]) (by simp [Value.type])

theorem answers_first (elements : List Value) :
    Answers "first" [.array elements] (first [.array elements]) := by
  cases elements with
  | nil => exact .firstOfEmpty
  | cons element others => exact .first element others

theorem answers_last (elements : List Value) :
    Answers "last" [.array elements] (last [.array elements]) := by
  rcases List.eq_nil_or_concat elements with rfl | ⟨others, element, rfl⟩
  · exact .lastOfEmpty
  · have found : last [.array (others ++ [element])] = element := by
      simp [last, subjectElements, subject, Value.elements?]
    rw [List.concat_eq_append, found]
    exact .last others element

theorem answers_rest (elements : List Value) :
    Answers "rest" [.array elements] (rest [.array elements]) := by
  cases elements with
  | nil => exact .restOfEmpty
  | cons element others => exact .rest element others

/-- A builtin answers arguments that its contract accepts, and with what it may return. -/
theorem answers_of_accepts {entry : Entry} (registered : entry ∈ entries) {arguments : List Value}
    (accepted : entry.contract.Accepts arguments) :
    Answers entry.name arguments (entry.run arguments).value ∧
      entry.contract.Returns (entry.run arguments).value := by
  simp only [entries, List.mem_cons, List.not_mem_nil, or_false] at registered
  rcases registered with rfl | rfl | rfl | rfl | rfl | rfl | rfl
  · obtain _ | @⟨_, value, _, _, _, _ | _⟩ := (Contract.accepts_of_rest_none rfl).1 accepted
    refine ⟨answers_length value, ?_⟩
    cases value with
    | array _ => exact Contract.returns_of_type rfl
    | string _ => exact Contract.returns_of_type rfl
    | _ => exact .error _
  · exact ⟨.print arguments, Contract.returns_of_type rfl⟩
  · obtain _ | ⟨allowed, _ | _⟩ := (Contract.accepts_of_rest_none rfl).1 accepted
    obtain ⟨elements, rfl⟩ := allows_anArray.1 allowed
    exact ⟨answers_first elements, Contract.returns_of_any rfl rfl _⟩
  · obtain _ | ⟨allowed, _ | _⟩ := (Contract.accepts_of_rest_none rfl).1 accepted
    obtain ⟨elements, rfl⟩ := allows_anArray.1 allowed
    exact ⟨answers_last elements, Contract.returns_of_any rfl rfl _⟩
  · obtain _ | ⟨allowed, _ | ⟨_, _ | _⟩⟩ := (Contract.accepts_of_rest_none rfl).1 accepted
    obtain ⟨elements, rfl⟩ := allows_anArray.1 allowed
    exact ⟨.push elements _, Contract.returns_of_type rfl⟩
  · obtain _ | ⟨allowed, _ | _⟩ := (Contract.accepts_of_rest_none rfl).1 accepted
    obtain ⟨elements, rfl⟩ := allows_anArray.1 allowed
    refine ⟨answers_rest elements, ?_⟩
    cases elements with
    | nil => exact .null (.inl rfl)
    | cons element others => exact Contract.returns_of_type rfl
  · obtain _ | ⟨_, _ | _⟩ := (Contract.accepts_of_rest_none rfl).1 accepted
    exact ⟨.type _, Contract.returns_of_type rfl⟩

/-- Nothing has to stand in for an argument that a builtin reads, nor for the elements of one. -/
structure Supplied (name : String) (arguments : List Value) : Prop where
  first : name ≠ "print" → arguments[0]? = some (subject arguments)
  elements : name ∈ ["first", "last", "push", "rest"] →
    (subject arguments).elements? = some (subjectElements arguments)
  second : name = "push" → arguments[1]?.isSome

theorem Answers.supplied {name : String} {arguments : List Value} {value : Value}
    (answers : Answers name arguments value) : Supplied name arguments := by
  cases answers <;> constructor <;> simp [subject, subjectElements, Value.elements?]

theorem Answers.isError_iff {name : String} {arguments : List Value} {value : Value}
    (answers : Answers name arguments value) :
    value.isError ↔
      (name = "len" ∧ ∃ subject, arguments = [subject] ∧
        subject.type ≠ .array ∧ subject.type ≠ .string) ∨
      ∃ elements element, arguments = [.array elements] ∧ element.isError ∧
        (name = "first" ∧ elements.head? = some element ∨
          name = "last" ∧ elements.getLast? = some element) := by
  cases answers with
  | lenOfOther noArray noString => simp [Value.isError, noArray, noString]
  | _ => simp [Value.isError, Value.type]

theorem call?_of_accepts {entry : Entry} (registered : entry ∈ registry.entries)
    {arguments : List Value} (accepted : entry.contract.Accepts arguments) :
    registry.call? entry.name arguments = some (entry.run arguments) := by
  obtain ⟨_, returns⟩ := answers_of_accepts registered accepted
  rw [Registry.call?_of_mem registered, Entry.call_of_returns accepted returns]

theorem call?_print (arguments : List Value) :
    registry.call? "print" arguments = some ⟨.null, lines arguments⟩ := by
  have registered : entries[1] ∈ registry.entries := List.getElem_mem _
  have accepted : entries[1].contract.Accepts arguments :=
    ⟨[], arguments, rfl, .nil, fun argument _ => ⟨_, rfl, allows_anythingOrNull argument⟩⟩
  exact call?_of_accepts registered accepted

/-- The standard builtins keep their contracts: a call is rejected or answered by the builtin, which
    finds all that it reads and returns what it may, and is an error in known cases only. -/
theorem call_keeps_contract {entry : Entry} (registered : entry ∈ registry.entries)
    (arguments : List Value) :
    (entry.contract.rejects? arguments = none →
      Supplied entry.name arguments ∧
      Answers entry.name arguments (entry.run arguments).value ∧
      entry.contract.admitsResult (entry.run arguments).value ∧
      registry.call? entry.name arguments = some (entry.run arguments)) ∧
    (∀ rejection, entry.contract.rejects? arguments = some rejection →
      registry.call? entry.name arguments = some ⟨.error (rejection.message entry.name), ""⟩) ∧
    (∀ reply, registry.call? entry.name arguments = some reply →
      (reply.value.isError ↔
        (∃ rejection, entry.contract.rejects? arguments = some rejection) ∨
        (entry.name = "len" ∧ ∃ subject, arguments = [subject] ∧
          subject.type ≠ .array ∧ subject.type ≠ .string) ∨
        ∃ elements element, arguments = [.array elements] ∧ element.isError ∧
          (entry.name = "first" ∧ elements.head? = some element ∨
            entry.name = "last" ∧ elements.getLast? = some element))) ∧
    registry.call? "print" arguments = some ⟨.null, lines arguments⟩ := by
  rw [Registry.call?_of_mem registered]
  cases rejected : entry.contract.rejects? arguments with
  | some rejection =>
    rw [Entry.call_of_rejects rejected]
    refine ⟨by simp, by simp, ?_, call?_print arguments⟩
    rintro _ ⟨rfl⟩
    exact iff_of_true rfl (.inl ⟨rejection, rfl⟩)
  | none =>
    have accepted := Contract.rejects?_eq_none_iff.1 rejected
    obtain ⟨answers, returns⟩ := answers_of_accepts registered accepted
    rw [Entry.call_of_returns accepted returns]
    refine ⟨fun _ => ⟨answers.supplied, answers, Contract.admitsResult_iff.2 returns, rfl⟩, by simp,
      ?_, call?_print arguments⟩
    rintro _ ⟨rfl⟩
    simpa using answers.isError_iff

/-- An error among the elements is answered as it is, and is no complaint. -/
theorem call_last_of_error : entries[3] ∈ registry.entries ∧
    ∀ reply, registry.call? "last" [.array [.null, .error "late"]] = some reply →
      reply.value.isError := by
  have registered : entries[3] ∈ registry.entries := List.getElem_mem _
  obtain ⟨_, _, errors, _⟩ := call_keeps_contract registered [.array [.null, .error "late"]]
  refine ⟨registered, fun reply called => (errors reply called).2 (.inr (.inr ?_))⟩
  exact ⟨_, .error "late", rfl, rfl, .inr ⟨rfl, rfl⟩⟩

/-- What a standard builtin answers, without what it prints. -/
def answer? (name : String) (arguments : List Value) : Option Value :=
  (registry.call? name arguments).map Reply.value

variable {elements : List Value} {value : Value}

theorem allows_anything : anything.Allows value ↔ value ≠ .null := by
  simp [anything, Expectation.Allows]

theorem allows_anArray_array (elements : List Value) : anArray.Allows (.array elements) :=
  allows_anArray.2 ⟨elements, rfl⟩

theorem answer?_of_allowed {entry : Entry} (registered : entry ∈ registry.entries)
    (noRest : entry.contract.rest = none) {arguments : List Value}
    (allowed : List.Forall₂ Expectation.Allows entry.contract.params arguments) :
    answer? entry.name arguments = some (entry.run arguments).value := by
  have accepted := (Contract.accepts_of_rest_none noRest).2 allowed
  rw [answer?, call?_of_accepts registered accepted, Option.map_some]

theorem answer?_len (elements : List Value) :
    answer? "len" [.array elements] = some (.integer (Int64.ofNat elements.length)) := by
  have allowed : anything.Allows (.array elements) := allows_anything.2 (by simp)
  exact @answer?_of_allowed entries[0] (List.getElem_mem _) rfl _ (.cons allowed .nil)

theorem answer?_len_string (text : String) :
    answer? "len" [.string text] = some (.integer (Int64.ofNat text.length)) := by
  have allowed : anything.Allows (.string text) := allows_anything.2 (by simp)
  exact @answer?_of_allowed entries[0] (List.getElem_mem _) rfl _ (.cons allowed .nil)

theorem answer?_first (elements : List Value) :
    answer? "first" [.array elements] = some (elements.head?.getD .null) :=
  @answer?_of_allowed entries[2] (List.getElem_mem _) rfl _ (.cons (allows_anArray_array _) .nil)

theorem answer?_last (elements : List Value) :
    answer? "last" [.array elements] = some (elements.getLast?.getD .null) :=
  @answer?_of_allowed entries[3] (List.getElem_mem _) rfl _ (.cons (allows_anArray_array _) .nil)

theorem answer?_push (elements : List Value) (notNull : value ≠ .null) :
    answer? "push" [.array elements, value] = some (.array (elements ++ [value])) :=
  @answer?_of_allowed entries[4] (List.getElem_mem _) rfl _
    (.cons (allows_anArray_array _) (.cons (allows_anything.2 notNull) .nil))

theorem answer?_push_null (elements : List Value) :
    answer? "push" [.array elements, .null] =
      some (.error "argument 2 to `push` must not be null") := by
  have registered : entries[4] ∈ registry.entries := List.getElem_mem _
  have rejected : entries[4].contract.rejects? [.array elements, .null] =
    some (.nullArgument 2) := rfl
  have called := Registry.call?_of_mem registered [.array elements, .null]
  rw [Entry.call_of_rejects rejected] at called
  exact congrArg (Option.map Reply.value) called

theorem answer?_rest_cons (element : Value) (elements : List Value) :
    answer? "rest" [.array (element :: elements)] = some (.array elements) :=
  @answer?_of_allowed entries[5] (List.getElem_mem _) rfl _ (.cons (allows_anArray_array _) .nil)

/-- The variables of the loop `out = []; cur = A; while len(cur) > 0 { out = push(out, first(cur));
    cur = rest(cur) }`. -/
structure Copying where
  out : Value
  cur : Value

/-- The condition of the loop does not hold. -/
def Copying.Done (state : Copying) : Prop :=
  ∃ length : Int64, answer? "len" [state.cur] = some (.integer length) ∧ ¬ 0 < length

/-- The condition holds, and the body of the loop gives the variables new values. -/
inductive Turn : Copying → Copying → Prop
  | turn {out cur element pushed rest : Value} {length : Int64} :
      answer? "len" [cur] = some (.integer length) → 0 < length →
      answer? "first" [cur] = some element →
      answer? "push" [out, element] = some pushed →
      answer? "rest" [cur] = some rest →
      Turn ⟨out, cur⟩ ⟨pushed, rest⟩

/-- The loop ends. It is listed what the variables are whenever the condition is looked at, so
    between any two of these there is one turn. -/
inductive Loop : Copying → List Copying → Prop
  | stop {state : Copying} : state.Done → Loop state [state]
  | turn {state next : Copying} {later : List Copying} :
      Turn state next → Loop next later → Loop state (state :: later)

theorem zero_lt_length_iff (storable : elements.length < 2 ^ 63) :
    0 < Int64.ofNat elements.length ↔ elements ≠ [] := by
  have length := Int64.toInt_ofNat_of_lt storable
  rw [Int64.lt_iff_toInt_lt, length, Int64.toInt_zero, ← List.length_pos_iff]
  omega

theorem done_iff {out : Value} (storable : elements.length < 2 ^ 63) :
    Copying.Done ⟨out, .array elements⟩ ↔ elements = [] := by
  unfold Copying.Done
  simp only [answer?_len, Option.some_inj, Value.integer.injEq, exists_eq_left',
    zero_lt_length_iff storable, Ne, not_not]

/-- What `push` answers to any two values. -/
def pushed (out value : Value) : Value := (answer? "push" [out, value]).getD .null

theorem answer?_push_eq (out value : Value) :
    answer? "push" [out, value] = some (pushed out value) := by
  have registered : entries[4] ∈ registry.entries := List.getElem_mem _
  have called := congrArg (Option.map Reply.value) (Registry.call?_of_mem registered [out, value])
  have answered : answer? "push" [out, value] = some _ := called
  rw [pushed, answered, Option.getD_some]

theorem turn_cons_iff {element out : Value} {next : Copying}
    (storable : (element :: elements).length < 2 ^ 63) :
    Turn ⟨out, .array (element :: elements)⟩ next ↔ next = ⟨pushed out element, .array elements⟩ := by
  constructor
  · intro turn
    cases turn with
    | turn length more first push rest =>
      rw [answer?_first] at first
      rw [answer?_rest_cons] at rest
      cases first
      cases rest
      rw [List.head?_cons, Option.getD_some, answer?_push_eq] at push
      cases push
      rfl
  · rintro rfl
    have more := (zero_lt_length_iff storable).2 (List.cons_ne_nil element elements)
    exact .turn (answer?_len _) more (answer?_first _) (answer?_push_eq _ _) (answer?_rest_cons _ _)

theorem not_turn_nil {out : Value} {next : Copying} : ¬ Turn ⟨out, .array []⟩ next := by
  intro turn
  cases turn with
  | turn length more first push rest =>
    rw [answer?_len] at length
    cases length
    exact absurd more (by decide)

/-- The states of the loop: each turn pushes the next element, also where that fails. -/
def states (out : Value) : List Value → List Copying
  | [] => [⟨out, .array []⟩]
  | element :: elements =>
    ⟨out, .array (element :: elements)⟩ :: states (pushed out element) elements

theorem loop_iff {out : Value} {passed : List Copying} (storable : elements.length < 2 ^ 63) :
    Loop ⟨out, .array elements⟩ passed ↔ passed = states out elements := by
  -- By induction on what is left to copy. `out` is any value, because it may be an error by now.
  induction elements generalizing out passed with
  | nil =>
    constructor
    · intro loop
      cases loop with
      | stop done => rfl
      | turn turn later => exact absurd turn not_turn_nil
    · rintro rfl
      exact .stop ((done_iff storable).2 rfl)
  | cons element elements ih =>
    have shorter : elements.length < 2 ^ 63 := by
      rw [List.length_cons] at storable
      omega
    constructor
    · intro loop
      cases loop with
      | stop done => exact absurd ((done_iff storable).1 done) (List.cons_ne_nil _ _)
      | turn turn later =>
        cases (turn_cons_iff storable).1 turn
        rw [(ih shorter).1 later, states]
    · rintro rfl
      exact .turn ((turn_cons_iff storable).2 rfl) ((ih shorter).2 rfl)

theorem pushed_of_ne_null (elements : List Value) (notNull : value ≠ .null) :
    pushed (.array elements) value = .array (elements ++ [value]) := by
  rw [pushed, answer?_push elements notNull, Option.getD_some]

theorem pushed_null (elements : List Value) :
    pushed (.array elements) .null = .error "argument 2 to `push` must not be null" := by
  rw [pushed, answer?_push_null, Option.getD_some]

theorem length_states (out : Value) (elements : List Value) :
    (states out elements).length = elements.length + 1 := by
  induction elements generalizing out with
  | nil => rfl
  | cons element elements ih => rw [states, List.length_cons, ih, List.length_cons]

theorem getElem?_states_zero (out : Value) (elements : List Value) :
    (states out elements)[0]? = some ⟨out, .array elements⟩ := by
  cases elements <;> rfl

/-- As long as there is no null among them, elements go over to the end of the copy. -/
theorem exists_states_append {front : List Value} (noNull : .null ∉ front)
    (copied after : List Value) : ∃ passed, passed.length = front.length ∧
      states (.array copied) (front ++ after) = passed ++ states (.array (copied ++ front)) after := by
  induction front generalizing copied with
  | nil => exact ⟨[], rfl, by rw [List.append_nil]; rfl⟩
  | cons element front ih =>
    obtain ⟨notNull, others⟩ := not_or.1 (mt List.mem_cons.2 noNull)
    obtain ⟨passed, length, later⟩ := ih others (copied ++ [element])
    refine ⟨⟨.array copied, .array (element :: front ++ after)⟩ :: passed, ?_, ?_⟩
    · rw [List.length_cons, length, List.length_cons]
    · rw [List.cons_append, states, pushed_of_ne_null copied (Ne.symm notNull), later,
        List.append_assoc, List.singleton_append, List.cons_append]

theorem getElem?_states {front : List Value} (noNull : .null ∉ front) (after : List Value) {k : Nat}
    (inside : k ≤ front.length) : (states (.array []) (front ++ after))[k]? =
      some ⟨.array (front.take k), .array (front.drop k ++ after)⟩ := by
  have noneTaken : .null ∉ front.take k := fun taken => noNull (List.mem_of_mem_take taken)
  obtain ⟨passed, length, run⟩ := exists_states_append noneTaken [] (front.drop k ++ after)
  have turns : passed.length = k := by
    rw [length, List.length_take]
    omega
  rw [← List.append_assoc, List.take_append_drop, List.nil_append] at run
  rw [run, List.getElem?_append_right (Nat.le_of_eq turns), turns, Nat.sub_self,
    getElem?_states_zero]

/-- The copy is lost in the turn that meets null first. -/
theorem getElem?_states_null {front : List Value} (noNull : .null ∉ front) (after : List Value) :
    (states (.array []) (front ++ .null :: after))[front.length + 1]? =
      some ⟨.error "argument 2 to `push` must not be null", .array after⟩ := by
  obtain ⟨passed, length, run⟩ := exists_states_append noNull [] (.null :: after)
  rw [run, states, List.nil_append, pushed_null, List.getElem?_append_right (by omega), length,
    Nat.add_sub_cancel_left, List.getElem?_cons_succ, getElem?_states_zero]

theorem answer?_len_push (elements : List Value) (value : Value) :
    answer? "len" [.array (elements ++ [value])] =
      some (.integer (Int64.ofNat elements.length + 1)) := by
  rw [answer?_len, List.length_append, List.length_singleton, Int64.ofNat_add]
  rfl

theorem answer?_last_push (elements : List Value) (value : Value) :
    answer? "last" [.array (elements ++ [value])] = some value := by
  rw [answer?_last, List.getLast?_concat, Option.getD_some]

theorem answer?_first_push (elements : List Value) (value : Value) :
    answer? "first" [.array (elements ++ [value])] =
      if elements.isEmpty then some value else answer? "first" [.array elements] := by
  cases elements with
  | nil => exact answer?_first [value]
  | cons element elements =>
    rw [answer?_first, answer?_first]
    rfl

theorem answer?_rest_push (elements : List Value) (notNull : value ≠ .null) :
    answer? "rest" [.array (elements ++ [value])] =
      if elements.isEmpty then some (.array [])
      else (answer? "rest" [.array elements]).bind fun rest => answer? "push" [rest, value] := by
  cases elements with
  | nil => exact answer?_rest_cons value []
  | cons element elements =>
    rw [List.cons_append, answer?_rest_cons, answer?_rest_cons, List.isEmpty_cons, if_neg (by simp),
      Option.bind_some, answer?_push elements notNull]

/-- What `push` adds is at the end for `len`, `first`, `last` and `rest`. The loop that pushes the
    elements of an array one by one takes a turn for each of them, and either copies the array as it
    is or fails at the first null, and not before. No array in memory has `2 ^ 63` elements. -/
theorem array_algebra :
    (∀ (elements : List Value) (value : Value), value ≠ .null →
      ∃ pushed, answer? "push" [.array elements, value] = some pushed ∧
        (∃ length : Int64, answer? "len" [.array elements] = some (.integer length) ∧
          answer? "len" [pushed] = some (.integer (length + 1)) ∧
          (elements.length < 2 ^ 63 → length.toInt = elements.length)) ∧
        answer? "last" [pushed] = some value ∧
        answer? "first" [pushed] =
          (if elements.isEmpty then some value else answer? "first" [.array elements]) ∧
        answer? "rest" [pushed] =
          (if elements.isEmpty then some (.array [])
          else (answer? "rest" [.array elements]).bind fun rest => answer? "push" [rest, value])) ∧
    ∀ elements : List Value, elements.length < 2 ^ 63 →
      ∃ passed, (∀ other, Loop ⟨.array [], .array elements⟩ other ↔ other = passed) ∧
        passed.length = elements.length + 1 ∧
        (.null ∉ elements → passed.getLast? = some ⟨.array elements, .array []⟩) ∧
        ∀ before after, elements = before ++ .null :: after → .null ∉ before →
          (∀ k ≤ before.length,
            passed[k]? = some ⟨.array (elements.take k), .array (elements.drop k)⟩) ∧
          passed[before.length + 1]? =
            some ⟨.error "argument 2 to `push` must not be null", .array after⟩ := by
  refine ⟨fun elements value notNull => ?_, fun elements storable => ?_⟩
  · refine ⟨_, answer?_push elements notNull, ⟨_, answer?_len elements, ?_, ?_⟩, ?_, ?_, ?_⟩
    · exact answer?_len_push elements value
    · exact Int64.toInt_ofNat_of_lt
    · exact answer?_last_push elements value
    · exact answer?_first_push elements value
    · exact answer?_rest_push elements notNull
  · refine ⟨states (.array []) elements, fun other => loop_iff storable, length_states _ _, ?_, ?_⟩
    · intro noNull
      have copied := getElem?_states noNull [] (Nat.le_refl elements.length)
      rw [List.getLast?_eq_getElem?, length_states, Nat.add_sub_cancel]
      simpa using copied
    · rintro before after rfl noNull
      refine ⟨fun k inside => ?_, getElem?_states_null noNull after⟩
      rw [List.take_append_of_le_length inside, List.drop_append_of_le_length inside]
      exact getElem?_states noNull (.null :: after) inside

/-- An error is copied like any other element, and null is not. -/
theorem array_algebra_error_null : Value.integer 7 ≠ .null ∧
    (∃ pushed, answer? "push" [.array [.null], .integer 7] = some pushed ∧
      answer? "first" [pushed] = some .null) ∧
    ∃ passed, Loop ⟨.array [], .array [.error "late", .null, .integer 7]⟩ passed ∧
      passed.length = 4 ∧ passed[1]?.map Copying.out = some (.array [.error "late"]) ∧
      passed[2]?.map Copying.out = some (.error "argument 2 to `push` must not be null") := by
  obtain ⟨algebra, copies⟩ := array_algebra
  obtain ⟨pushed, push, _, _, first, _⟩ := algebra [.null] (.integer 7) (by simp)
  obtain ⟨passed, run, turns, _, fails⟩ := copies [.error "late", .null, .integer 7] (by simp)
  obtain ⟨arrays, failure⟩ := fails [.error "late"] [.integer 7] rfl (by simp)
  refine ⟨by simp, ⟨pushed, push, ?_⟩, passed, (run passed).2 rfl, turns, ?_, ?_⟩
  · exact first.trans (answer?_first [.null])
  · exact congrArg (Option.map Copying.out) (arrays 1 (Nat.le_refl 1))
  · exact congrArg (Option.map Copying.out) failure

end Standard

end GoldFront
