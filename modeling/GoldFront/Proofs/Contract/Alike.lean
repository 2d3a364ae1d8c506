import GoldFront.Proofs.Contract.Call
import GoldFront.Proofs.Contract.Standard
import GoldFront.Proofs.Value.Equality

/-!
A contract that asks for no type past the first argument cannot tell equal arguments apart where the
first ones are arrays (`Contract.rejects?_alike`), and the builtins for arrays make equal answers of
equal arrays. So programs find no difference between equal values by what they can ask of them
(`Standard.equal_observed`).
-/

namespace GoldFront

/-- Lists of values that are equal one by one. -/
abbrev EqualLists := List.Forall₂ fun a b : Value => a.equal b

theorem Expectation.rejects?_alike {expectation : Expectation} {place : Nat} {a b : Value}
    (null : a.isNull = b.isNull) (type : expectation.type = .any ∨ a.type = b.type) :
    expectation.rejects? place a = expectation.rejects? place b := by
  unfold Expectation.rejects? Expectation.admits
  rcases type with any | same
  · by_cases isNull : b.isNull
    · simp [null, isNull]
    · simp [null, isNull, any, ValueType.admits]
  · rw [null, same]

namespace Contract

variable {contract : Contract}

/-- Nothing is asked of the types of arguments from an index on. It is by types alone that a whole
    number and an equal floating point number can be told apart. -/
def AnyFrom (contract : Contract) (start : Nat) : Prop :=
  ∀ index ≥ start, ∀ expectation ∈ contract.expected? index, expectation.type = .any

theorem firstRejection?_alike {start : Nat} (any : contract.AnyFrom start)
    {arguments others : List Value} (equals : EqualLists arguments others) :
    contract.firstRejection? start arguments = contract.firstRejection? start others := by
  induction equals generalizing start with
  | nil => rfl
  | @cons a b arguments others equal _ ih =>
    have null := (Value.alike_of_equal equal).isNull_eq
    have here : (contract.expected? start).bind (·.rejects? (start + 1) a) =
        (contract.expected? start).bind (·.rejects? (start + 1) b) := by
      refine Option.bind_congr fun expectation expected => ?_
      exact Expectation.rejects?_alike null (.inl (any start (Nat.le_refl _) expectation expected))
    have later : contract.AnyFrom (start + 1) := fun index past =>
      any index (Nat.le_of_succ_le past)
    rw [firstRejection?, firstRejection?, here, ih later]

theorem rejects?_alike (any : contract.AnyFrom 1) {elements others further more : List Value}
    (equals : EqualLists further more) :
    contract.rejects? (.array elements :: further) = contract.rejects? (.array others :: more) := by
  have here : (contract.expected? 0).bind (·.rejects? 1 (.array elements)) =
      (contract.expected? 0).bind (·.rejects? 1 (.array others)) := by
    refine Option.bind_congr fun expectation _ => ?_
    exact Expectation.rejects?_alike rfl (.inr rfl)
  rw [rejects?, rejects?, firstRejection?, firstRejection?, here, firstRejection?_alike any equals,
    List.length_cons, List.length_cons, equals.length_eq]

theorem anyFrom_one {first : Expectation} {later : List Expectation}
    (params : contract.params = first :: later) (noRest : contract.rest = none)
    (any : ∀ expectation ∈ later, expectation.type = .any) : contract.AnyFrom 1 := by
  intro index past expectation expected
  obtain ⟨i, rfl⟩ := Nat.exists_eq_add_of_le' past
  cases expected?_eq_some_iff.1 expected with
  | param found =>
    rw [params, List.getElem?_cons_succ] at found
    exact any expectation (List.mem_of_getElem? found)
  | rest _ found =>
    rw [noRest] at found
    cases found

end Contract

namespace Standard

theorem equal_headD {elements others : List Value} (equals : EqualLists elements others) :
    (elements.head?.getD .null).equal (others.head?.getD .null) := by
  cases equals with
  | nil => rfl
  | cons first _ => exact first

theorem equal_array_iff {elements : List Value} {other : Value} :
    (Value.array elements).equal other ↔ ∃ others, other = .array others ∧ EqualLists elements others := by
  cases other with
  | array others => simpa [Value.equal] using Value.equalElements_iff
  | _ => simp [Value.equal]

theorem equal_array {elements others : List Value} (equals : EqualLists elements others) :
    (Value.array elements).equal (.array others) :=
  equal_array_iff.2 ⟨others, rfl, equals⟩

variable {elements others further more : List Value}

theorem equal_length (equals : EqualLists elements others) :
    (length (.array elements :: further)).equal (length (.array others :: more)) := by
  have same : length (.array elements :: further) = length (.array others :: more) :=
    congrArg (fun count => Value.integer (Int64.ofNat count)) equals.length_eq
  rw [same]
  exact beq_self_eq_true (Int64.ofNat others.length)

theorem equal_first (equals : EqualLists elements others) :
    (first (.array elements :: further)).equal (first (.array others :: more)) :=
  equal_headD equals

theorem equal_last (equals : EqualLists elements others) :
    (last (.array elements :: further)).equal (last (.array others :: more)) := by
  have reversed := equal_headD (List.forall₂_reverse_iff.2 equals)
  rw [List.head?_reverse, List.head?_reverse] at reversed
  exact reversed

theorem equal_rest (equals : EqualLists elements others) :
    (rest (.array elements :: further)).equal (rest (.array others :: more)) := by
  cases equals with
  | nil => rfl
  | cons _ later => exact equal_array later

theorem equal_push (equals : EqualLists elements others) (later : EqualLists further more) :
    (push (.array elements :: further)).equal (push (.array others :: more)) := by
  have added := equal_headD later
  rw [List.head?_eq_getElem?, List.head?_eq_getElem?] at added
  exact equal_array (List.rel_append equals (.cons added .nil))

/-- Calls with equal arguments are rejected with one message, or both reach the builtin. -/
theorem exists_call?_equal {entry : Entry} (registered : entry ∈ registry.entries)
    (any : entry.contract.AnyFrom 1) (later : EqualLists further more)
    (answers : (entry.run (.array elements :: further)).value.equal
      (entry.run (.array others :: more)).value) :
    ∃ reply answer, registry.call? entry.name (.array elements :: further) = some reply ∧
      registry.call? entry.name (.array others :: more) = some answer ∧
      reply.value.equal answer.value := by
  have alike := @Contract.rejects?_alike _ any elements others _ _ later
  cases rejected : entry.contract.rejects? (.array others :: more) with
  | some rejection =>
    have called := Entry.call_of_rejects (alike.trans rejected)
    have alsoCalled := Entry.call_of_rejects rejected
    refine ⟨_, _, Registry.call?_of_mem registered _, Registry.call?_of_mem registered _, ?_⟩
    rw [called, alsoCalled]
    exact beq_self_eq_true (rejection.message entry.name)
  | none =>
    have accepted := Contract.rejects?_eq_none_iff.1 (alike.trans rejected)
    have alsoAccepted := Contract.rejects?_eq_none_iff.1 rejected
    exact ⟨_, _, call?_of_accepts registered accepted, call?_of_accepts registered alsoAccepted,
      answers⟩

/-- Equal values answer alike to all that programs ask of a value. Values that make keys are equal
    if they make the same key, which is what a dictionary finds an entry by. The builtins for arrays
    answer equal values to equal arguments. -/
theorem equal_observed :
    (∀ a b : Value, a == b → a.isTruthy = b.isTruthy ∧ a.isNull = b.isNull ∧
      a.isError = b.isError ∧ a.elements?.map List.length = b.elements?.map List.length) ∧
    (∀ (a b : Value) (key other : Key), a.key? = some key → b.key? = some other →
      (a == b ↔ key = other) ∧
      (a == b ↔ ∀ entries : Entries, entries.get? key = entries.get? other) ∧
      ∀ (entries : Entries) (value : Value), (entries.insert key value).get? other =
        if a == b then some value else entries.get? other) ∧
    ∀ name ∈ ["len", "first", "last", "rest", "push"], ∀ arguments others elements,
      List.Forall₂ (fun argument other : Value => argument == other) arguments others →
      arguments.head? = some (.array elements) →
      ∃ reply answer, registry.call? name arguments = some reply ∧
        registry.call? name others = some answer ∧ reply.value == answer.value := by
  refine ⟨fun a b equals => ?_, fun a b key other isKey isOther => ?_, ?_⟩
  · have alike := Value.alike_of_equal equals
    exact ⟨alike.isTruthy_eq, alike.isNull_eq, alike.isError_eq, alike.length_elements?_eq⟩
  · have equals : a == b ↔ key = other := Value.equal_iff_key isKey isOther
    refine ⟨equals, equals.trans Value.key_eq_iff_get?, fun entries value => ?_⟩
    rw [Entries.get?_insert]
    by_cases same : key = other
    · rw [if_pos same.symm, if_pos (equals.2 same)]
    · rw [if_neg (Ne.symm same), if_neg (mt equals.1 same)]
  · intro name member arguments others elements equals array
    cases equals with
    | nil => cases array
    | @cons a b further more first later =>
      cases array
      obtain ⟨other, rfl, equals⟩ := equal_array_iff.1 first
      simp only [List.mem_cons, List.not_mem_nil, or_false] at member
      rcases member with rfl | rfl | rfl | rfl | rfl
      · exact @exists_call?_equal _ _ _ _ entries[0] (List.getElem_mem _)
          (Contract.anyFrom_one rfl rfl (by simp)) later (@equal_length _ _ further more equals)
      · exact @exists_call?_equal _ _ _ _ entries[2] (List.getElem_mem _)
          (Contract.anyFrom_one rfl rfl (by simp)) later (equal_first equals)
      · exact @exists_call?_equal _ _ _ _ entries[3] (List.getElem_mem _)
          (Contract.anyFrom_one rfl rfl (by simp)) later (equal_last equals)
      · exact @exists_call?_equal _ _ _ _ entries[5] (List.getElem_mem _)
          (Contract.anyFrom_one rfl rfl (by simp)) later (equal_rest equals)
      · exact @exists_call?_equal _ _ _ _ entries[4] (List.getElem_mem _)
          (Contract.anyFrom_one rfl rfl (by simp [anything])) later (equal_push equals later)

/-- One and two, once as whole numbers and once not, are pushed to equal arrays. -/
theorem equal_observed_push : ∃ reply answer,
    registry.call? "push" [.array [.integer 1], .float ⟨0x4000000000000000⟩] = some reply ∧
      registry.call? "push" [.array [.float ⟨0x3ff0000000000000⟩], .integer 2] = some answer ∧
      reply.value == answer.value := by
  obtain ⟨_, _, calls⟩ := equal_observed
  have arrays : Value.array [.integer 1] == .array [.float ⟨0x3ff0000000000000⟩] := by
    decide +kernel
  have added : Value.float ⟨0x4000000000000000⟩ == .integer 2 := by decide +kernel
  exact calls "push" (by simp) _ _ [.integer 1] (.cons arrays (.cons added .nil)) rfl

end Standard

end GoldFront
