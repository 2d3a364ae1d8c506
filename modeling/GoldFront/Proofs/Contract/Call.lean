import Mathlib.Data.List.Forall2
import GoldFront.Contract.Registry

/-!
What a contract says of arguments and of results, without the order in which it is checked
(`Contract.Accepts`, `Contract.Returns`). A call runs a builtin on accepted arguments only, and
answers with nothing but what may be returned, whatever the builtin does (`call_under_contract`); a
rejected one is told about the first argument that is not as expected
(`Contract.rejects?_leftmost`).
-/

namespace GoldFront

/-- Null where null may be, or any other value of the type. -/
def Expectation.Allows (expectation : Expectation) (value : Value) : Prop :=
  value = .null ∧ expectation.nullable ∨
    value ≠ .null ∧ (expectation.type = .any ∨ expectation.type = value.type)

namespace Contract

/-- One argument for each parameter, and after those any number for the rest parameter. -/
def Accepts (contract : Contract) (arguments : List Value) : Prop :=
  ∃ fixed extra, arguments = fixed ++ extra ∧
    List.Forall₂ Expectation.Allows contract.params fixed ∧
    ∀ argument ∈ extra, ∃ rest ∈ contract.rest, rest.Allows argument

/-- What a builtin may return. -/
inductive Returns (contract : Contract) : Value → Prop
  | error (message : String) : Returns contract (.error message)
  | null : contract.result.nullable ∨ contract.result.type = .null → Returns contract .null
  | typed {value : Value} : value ≠ .null →
      contract.result.type = .any ∨ contract.result.type = value.type → Returns contract value

end Contract

theorem isNull_iff {value : Value} : value.isNull ↔ value = .null := by
  cases value <;> simp [Value.isNull]

theorem ValueType.admits_iff {expected actual : ValueType} :
    expected.admits actual ↔ expected = .any ∨ expected = actual := by
  simp [ValueType.admits]

theorem Expectation.admits_iff {expectation : Expectation} {value : Value} :
    expectation.admits value ↔ expectation.Allows value := by
  unfold Expectation.admits Expectation.Allows
  by_cases null : value = .null
  · rw [if_pos (isNull_iff.2 null)]
    simp [null]
  · simp [mt isNull_iff.1 null, null, ValueType.admits_iff]

theorem Expectation.rejects?_eq_none_iff {expectation : Expectation} {place : Nat}
    {argument : Value} : expectation.rejects? place argument = none ↔ expectation.Allows argument := by
  rw [← admits_iff]
  unfold Expectation.rejects?
  by_cases admitted : expectation.admits argument
  · simp [admitted]
  · by_cases null : argument.isNull <;> simp [admitted, null]

namespace Contract

variable {contract : Contract} {arguments : List Value}

theorem expected?_of_params {before after : List Expectation} {expectation : Expectation}
    (params : contract.params = before ++ expectation :: after) :
    contract.expected? before.length = some expectation := by
  simp [expected?, params]

theorem expected?_of_le {index : Nat} (past : contract.params.length ≤ index) :
    contract.expected? index = contract.rest := by
  simp [expected?, List.getElem?_eq_none past]

theorem firstRejection?_cons_eq_none_iff {index : Nat} {argument : Value} :
    contract.firstRejection? index (argument :: arguments) = none ↔
      (∀ expectation ∈ contract.expected? index, expectation.Allows argument) ∧
        contract.firstRejection? (index + 1) arguments = none := by
  rw [firstRejection?]
  cases expected : contract.expected? index with
  | none => simp
  | some expectation =>
    have allowed := @Expectation.rejects?_eq_none_iff expectation (index + 1) argument
    cases rejected : expectation.rejects? (index + 1) argument with
    | none => simpa [rejected] using fun _ => allowed.1 rejected
    | some rejection => simpa [rejected] using fun allows => absurd (allowed.2 allows) (by simp [rejected])

/-- Past the parameters, the rest parameter governs every argument. -/
theorem firstRejection?_past_eq_none_iff {index : Nat} (past : contract.params.length ≤ index) :
    contract.firstRejection? index arguments = none ↔
      ∀ argument ∈ arguments, ∀ rest ∈ contract.rest, rest.Allows argument := by
  induction arguments generalizing index with
  | nil => simp [firstRejection?]
  | cons argument arguments ih =>
    rw [firstRejection?_cons_eq_none_iff, expected?_of_le past, ih (by omega), List.forall_mem_cons]

/-- Behind the parameters, arguments pass exactly if there is a rest parameter that allows them. -/
theorem firstRejection?_arity_eq_none_iff :
    (contract.admitsCount (contract.arity + arguments.length) ∧
        contract.firstRejection? contract.arity arguments = none) ↔
      ∀ argument ∈ arguments, ∃ rest ∈ contract.rest, rest.Allows argument := by
  have past : contract.params.length ≤ contract.arity := Nat.le_refl _
  rw [firstRejection?_past_eq_none_iff past, admitsCount, isVariadic]
  cases contract.rest with
  | none =>
    cases arguments with
    | nil => simp
    | cons argument arguments =>
      refine iff_of_false (by simp) fun allowed => ?_
      obtain ⟨rest, none_there, _⟩ := allowed argument List.mem_cons_self
      cases none_there
  | some rest => simp

/-- From a parameter on, arguments pass exactly if the parameters that are left accept them. -/
theorem firstRejection?_eq_none_iff {before after : List Expectation}
    (params : contract.params = before ++ after) :
    (contract.admitsCount (before.length + arguments.length) ∧
        contract.firstRejection? before.length arguments = none) ↔
      ∃ fixed extra, arguments = fixed ++ extra ∧ List.Forall₂ Expectation.Allows after fixed ∧
        ∀ argument ∈ extra, ∃ rest ∈ contract.rest, rest.Allows argument := by
  induction after generalizing before arguments with
  | nil =>
    have arity : before.length = contract.arity := by simp [Contract.arity, params]
    rw [arity, firstRejection?_arity_eq_none_iff]
    simp [List.forall₂_nil_left_iff]
  | cons expectation after ih =>
    have arity : contract.arity = before.length + (after.length + 1) := by
      simp [Contract.arity, params]
    cases arguments with
    | nil =>
      have tooFew : contract.admitsCount before.length = false := by
        unfold admitsCount
        split <;> simp [arity]
      simp [tooFew]
    | cons argument arguments =>
      have shifted : contract.params = (before ++ [expectation]) ++ after := by simp [params]
      have later := @ih arguments _ shifted
      have count : (before ++ [expectation]).length + arguments.length =
          before.length + (argument :: arguments).length := by simp; omega
      rw [count, List.length_append, List.length_singleton] at later
      rw [firstRejection?_cons_eq_none_iff, expected?_of_params params, and_left_comm, later]
      constructor
      · rintro ⟨first, fixed, extra, rfl, allowed, rest⟩
        exact ⟨argument :: fixed, extra, rfl, .cons (first _ rfl) allowed, rest⟩
      · rintro ⟨_, extra, whole, allowed, rest⟩
        obtain ⟨_, fixed, first, others, rfl⟩ := List.forall₂_cons_left_iff.1 allowed
        cases whole
        exact ⟨by simpa using first, fixed, extra, rfl, others, rest⟩

/-- A call is not rejected exactly if the contract accepts its arguments. -/
theorem rejects?_eq_none_iff : contract.rejects? arguments = none ↔ contract.Accepts arguments := by
  have whole := @firstRejection?_eq_none_iff contract arguments [] contract.params rfl
  rw [List.length_nil, Nat.zero_add] at whole
  rw [Accepts, ← whole, rejects?]
  by_cases count : contract.admitsCount arguments.length <;> simp [count]

theorem admitsResult_iff {value : Value} : contract.admitsResult value ↔ contract.Returns value := by
  cases value with
  | error message => exact iff_of_true rfl (.error message)
  | null =>
    have admitted : contract.admitsResult .null ↔
        contract.result.nullable ∨ contract.result.type = .null := by simp [admitsResult]
    rw [admitted]
    constructor
    · exact .null
    · intro returns
      cases returns with
      | null allowed => exact allowed
      | typed notNull _ => exact absurd rfl notNull
  | _ =>
    refine ValueType.admits_iff.trans ⟨.typed (by simp), fun returns => ?_⟩
    cases returns with
    | typed _ type => exact type

end Contract

namespace Entry

variable {entry : Entry} {arguments : List Value}

theorem call_of_rejects {rejection : Rejection}
    (rejected : entry.contract.rejects? arguments = some rejection) :
    entry.call arguments = ⟨.error (rejection.message entry.name), ""⟩ := by
  simp only [call, rejected]

theorem call_of_returns (accepted : entry.contract.Accepts arguments)
    (returns : entry.contract.Returns (entry.run arguments).value) :
    entry.call arguments = entry.run arguments := by
  simp only [call, Contract.rejects?_eq_none_iff.2 accepted, Contract.admitsResult_iff.2 returns,
    if_true]

theorem call_of_not_returns (accepted : entry.contract.Accepts arguments)
    (broken : ¬ entry.contract.Returns (entry.run arguments).value) :
    entry.call arguments = ⟨.error (entry.brokenResult (entry.run arguments).value.type),
      (entry.run arguments).printed⟩ := by
  have refused := mt Contract.admitsResult_iff.1 broken
  simp only [call, Contract.rejects?_eq_none_iff.2 accepted, refused, Bool.false_eq_true, if_false]

theorem returns_call (entry : Entry) (arguments : List Value) :
    entry.contract.Returns (entry.call arguments).value := by
  cases rejected : entry.contract.rejects? arguments with
  | some rejection =>
    rw [call_of_rejects rejected]
    exact .error _
  | none =>
    have accepted := Contract.rejects?_eq_none_iff.1 rejected
    by_cases returns : entry.contract.Returns (entry.run arguments).value
    · rwa [call_of_returns accepted returns]
    · rw [call_of_not_returns accepted returns]
      exact .error _

/-- A call whose arguments the contract does not accept is answered without the builtin; any other
    is answered as the builtin does, if that may be returned, and else with an error about it. -/
theorem call_under_contract (entry : Entry) (arguments : List Value) :
    (∀ rejection, entry.contract.rejects? arguments = some rejection →
      ¬ entry.contract.Accepts arguments ∧ ∀ run, ({ entry with run := run } : Entry).call arguments =
        ⟨.error (rejection.message entry.name), ""⟩) ∧
    (entry.contract.rejects? arguments = none → entry.contract.Accepts arguments ∧
      (entry.contract.admitsResult (entry.run arguments).value →
        entry.call arguments = entry.run arguments) ∧
      (¬ entry.contract.admitsResult (entry.run arguments).value → entry.call arguments =
        ⟨.error ("builtin `" ++ entry.name ++ "` returned " ++
          (entry.run arguments).value.type.name ++ ", declared " ++ entry.contract.result.type.name),
          (entry.run arguments).printed⟩)) ∧
    (∀ value, entry.contract.admitsResult value ↔ entry.contract.Returns value) ∧
    entry.contract.Returns (entry.call arguments).value := by
  refine ⟨fun rejection rejected => ⟨fun accepted => ?_, fun run => ?_⟩, fun passed => ?_,
    fun value => Contract.admitsResult_iff, returns_call entry arguments⟩
  · rw [Contract.rejects?_eq_none_iff.2 accepted] at rejected
    cases rejected
  · exact @call_of_rejects { entry with run := run } arguments rejection rejected
  · have accepted := Contract.rejects?_eq_none_iff.1 passed
    rw [Contract.admitsResult_iff]
    exact ⟨accepted, call_of_returns accepted, call_of_not_returns accepted⟩

end Entry

namespace Contract

/-- As many arguments as parameters, or more of them where there is a rest parameter. -/
def Fits (contract : Contract) (count : Nat) : Prop :=
  count = contract.params.length ∨ contract.rest ≠ none ∧ contract.params.length ≤ count

/-- What the argument at an index has to be: the parameters come first, and past them is the rest
    parameter alone. -/
inductive Governs (contract : Contract) (index : Nat) : Expectation → Prop
  | param {expectation : Expectation} :
      contract.params[index]? = some expectation → Governs contract index expectation
  | rest {expectation : Expectation} : contract.params.length ≤ index →
      contract.rest = some expectation → Governs contract index expectation

/-- The argument at an index is as it has to be. -/
def AllowsAt (contract : Contract) (index : Nat) (argument : Value) : Prop :=
  ∃ expectation, contract.Governs index expectation ∧ expectation.Allows argument

/-- The leftmost argument that is not as it has to be. -/
structure FirstOffence (contract : Contract) (arguments : List Value) (index : Nat)
    (argument : Value) (expectation : Expectation) : Prop where
  present : arguments[index]? = some argument
  governed : contract.Governs index expectation
  refused : ¬ expectation.Allows argument
  earlier : ∀ before other, before < index → arguments[before]? = some other →
    contract.AllowsAt before other

variable {contract : Contract} {arguments : List Value}

theorem admitsCount_iff {count : Nat} : contract.admitsCount count ↔ contract.Fits count := by
  unfold admitsCount isVariadic arity Fits
  cases contract.rest with
  | none => simp
  | some rest =>
    simp only [Option.isSome_some, if_true, decide_eq_true_eq, ne_eq, reduceCtorEq, not_false_eq_true,
      true_and]
    omega

theorem expected?_eq_some_iff {index : Nat} {expectation : Expectation} :
    contract.expected? index = some expectation ↔ contract.Governs index expectation := by
  unfold expected?
  constructor
  · intro expected
    cases param : contract.params[index]? with
    | some found =>
      rw [param] at expected
      exact .param (param.trans expected)
    | none =>
      rw [param] at expected
      exact .rest (List.getElem?_eq_none_iff.1 param) expected
  · intro governs
    cases governs with
    | param found => rw [found]
    | rest past found =>
      rw [List.getElem?_eq_none past]
      exact found

theorem exists_governs {count index : Nat} (fits : contract.Fits count) (inside : index < count) :
    ∃ expectation, contract.Governs index expectation := by
  by_cases fixed : index < contract.params.length
  · exact ⟨_, .param (List.getElem?_eq_getElem fixed)⟩
  · rcases fits with exact | ⟨variadic, _⟩
    · omega
    · obtain ⟨rest, found⟩ := Option.ne_none_iff_exists'.1 variadic
      exact ⟨rest, .rest (Nat.not_lt.1 fixed) found⟩

theorem allowsAt_iff {count index : Nat} {argument : Value} (fits : contract.Fits count)
    (inside : index < count) : contract.AllowsAt index argument ↔
      ∀ expectation ∈ contract.expected? index, expectation.Allows argument := by
  obtain ⟨expectation, governs⟩ := exists_governs fits inside
  have expected := expected?_eq_some_iff.2 governs
  rw [expected]
  constructor
  · rintro ⟨other, otherGoverns, allows⟩ _ ⟨rfl⟩
    have same : some other = some expectation := (expected?_eq_some_iff.2 otherGoverns).symm.trans expected
    exact Option.some.inj same ▸ allows
  · intro allows
    exact ⟨expectation, governs, allows expectation rfl⟩

theorem firstRejection?_eq_none_iff_forall {start : Nat} :
    contract.firstRejection? start arguments = none ↔ ∀ index argument,
      arguments[index]? = some argument →
        ∀ expectation ∈ contract.expected? (start + index), expectation.Allows argument := by
  induction arguments generalizing start with
  | nil => simp [firstRejection?]
  | cons first arguments ih =>
    rw [firstRejection?_cons_eq_none_iff, ih]
    constructor
    · rintro ⟨here, later⟩ index argument present
      cases index with
      | zero =>
        cases present
        exact here
      | succ index =>
        have shifted : start + (index + 1) = start + 1 + index := by omega
        rw [shifted]
        exact later index argument present
    · intro all
      refine ⟨all 0 first rfl, fun index argument present => ?_⟩
      rw [Nat.add_right_comm]
      exact all (index + 1) argument present

/-- The arguments in front of the one that a rejection is about pass. -/
theorem split_of_firstRejection? {start : Nat} {rejection : Rejection}
    (rejected : contract.firstRejection? start arguments = some rejection) :
    ∃ before argument after expectation, arguments = before ++ argument :: after ∧
      contract.firstRejection? start before = none ∧
      contract.expected? (start + before.length) = some expectation ∧
      expectation.rejects? (start + before.length + 1) argument = some rejection := by
  induction arguments generalizing start with
  | nil => cases rejected
  | cons first arguments ih =>
    rw [firstRejection?] at rejected
    cases here : (contract.expected? start).bind (·.rejects? (start + 1) first) with
    | some found =>
      rw [here] at rejected
      cases rejected
      obtain ⟨expectation, expected, refuses⟩ := Option.bind_eq_some_iff.1 here
      exact ⟨[], first, arguments, expectation, rfl, rfl, expected, refuses⟩
    | none =>
      rw [here] at rejected
      obtain ⟨before, argument, after, expectation, rfl, passed, expected, refuses⟩ := ih rejected
      have shifted : start + (first :: before).length = start + 1 + before.length := by
        rw [List.length_cons]
        omega
      refine ⟨first :: before, argument, after, expectation, rfl, ?_, ?_, ?_⟩
      · rw [firstRejection?, here]
        exact passed
      · rw [shifted]
        exact expected
      · rw [shifted]
        exact refuses

end Contract

theorem Expectation.rejects?_eq_some_iff {expectation : Expectation} {place : Nat}
    {argument : Value} {rejection : Rejection} :
    expectation.rejects? place argument = some rejection ↔ ¬ expectation.Allows argument ∧
      (argument = .null ∧ rejection = .nullArgument place ∨
        argument ≠ .null ∧ rejection = .wrongType expectation.type argument.type) := by
  rw [← admits_iff]
  unfold Expectation.rejects?
  by_cases admitted : expectation.admits argument
  · simp [admitted]
  · rw [if_neg admitted, and_iff_right admitted]
    by_cases null : argument = .null
    · rw [if_pos (isNull_iff.2 null), Option.some_inj, eq_comm]
      simp [null]
    · rw [if_neg (mt isNull_iff.1 null), Option.some_inj, eq_comm]
      simp [null]

namespace Contract

variable {contract : Contract} {arguments : List Value}

theorem rejects?_of_not_fits (misfit : ¬ contract.Fits arguments.length) :
    contract.rejects? arguments =
      some (.wrongCount arguments.length contract.params.length contract.rest.isSome) := by
  rw [rejects?, if_neg (mt admitsCount_iff.1 misfit)]
  rfl

theorem rejects?_of_fits (fits : contract.Fits arguments.length) :
    contract.rejects? arguments = contract.firstRejection? 0 arguments := by
  rw [rejects?, if_pos (admitsCount_iff.2 fits)]

theorem rejects?_eq_none_iff_allowsAt : contract.rejects? arguments = none ↔
    contract.Fits arguments.length ∧ ∀ index argument, arguments[index]? = some argument →
      contract.AllowsAt index argument := by
  by_cases fits : contract.Fits arguments.length
  · rw [rejects?_of_fits fits, firstRejection?_eq_none_iff_forall, and_iff_right fits]
    refine forall₃_congr fun index argument present => ?_
    rw [Nat.zero_add, allowsAt_iff fits (List.getElem?_eq_some_iff.1 present).1]
  · simp [rejects?_of_not_fits fits, fits]

/-- Arguments in the right number are rejected for the leftmost of them that is not as it has to be. -/
theorem exists_firstOffence {rejection : Rejection} (fits : contract.Fits arguments.length)
    (rejected : contract.rejects? arguments = some rejection) :
    ∃ index argument expectation, contract.FirstOffence arguments index argument expectation ∧
      (argument = .null ∧ rejection = .nullArgument (index + 1) ∨
        argument ≠ .null ∧ rejection = .wrongType expectation.type argument.type) := by
  rw [rejects?_of_fits fits] at rejected
  obtain ⟨before, argument, after, expectation, rfl, passed, expected, refuses⟩ :=
    split_of_firstRejection? rejected
  rw [Nat.zero_add] at expected refuses
  obtain ⟨refused, reason⟩ := Expectation.rejects?_eq_some_iff.1 refuses
  refine ⟨before.length, argument, expectation, ⟨?_, ?_, refused, ?_⟩, reason⟩
  · simp
  · exact expected?_eq_some_iff.1 expected
  · intro index other earlier present
    have inside : index < (before ++ argument :: after).length := by
      rw [List.length_append]
      omega
    rw [List.getElem?_append_left earlier] at present
    have allowed := firstRejection?_eq_none_iff_forall.1 passed index other present
    rw [Nat.zero_add] at allowed
    exact (allowsAt_iff fits inside).2 allowed

/-- A call passes exactly if the number of its arguments is right and each of them is as it has to
    be. Otherwise its caller is told about the number, whatever the arguments are, or else about the
    leftmost argument that is not as it has to be. -/
theorem rejects?_leftmost (contract : Contract) (builtin : String) (arguments : List Value) :
    (contract.rejects? arguments = none ↔
      contract.Fits arguments.length ∧ ∀ index argument, arguments[index]? = some argument →
        contract.AllowsAt index argument) ∧
    (¬ contract.Fits arguments.length →
      (contract.rejects? arguments).map (Rejection.message builtin) =
        some ("wrong number of arguments. got=" ++ toString arguments.length ++ ", want=" ++
          (if contract.rest = none then "" else "at least ") ++ toString contract.params.length)) ∧
    (contract.Fits arguments.length → contract.rejects? arguments ≠ none →
      ∃ index argument expectation, contract.FirstOffence arguments index argument expectation ∧
        (argument = .null → (contract.rejects? arguments).map (Rejection.message builtin) =
          some ("argument " ++ toString (index + 1) ++ " to `" ++ builtin ++ "` must not be null")) ∧
        (argument ≠ .null → (contract.rejects? arguments).map (Rejection.message builtin) =
          some ("argument to `" ++ builtin ++ "` must be " ++ expectation.type.name ++ ", got " ++
            argument.type.name))) ∧
    (contract.Fits arguments.length → ∀ index < arguments.length,
      ∃ expectation, contract.Governs index expectation) := by
  refine ⟨rejects?_eq_none_iff_allowsAt, fun misfit => ?_, fun fits refused => ?_,
    fun fits index inside => exists_governs fits inside⟩
  · rw [rejects?_of_not_fits misfit, Option.map_some, Option.some_inj]
    cases contract.rest <;> rfl
  · obtain ⟨rejection, rejected⟩ := Option.ne_none_iff_exists'.1 refused
    obtain ⟨index, argument, expectation, offence, reason⟩ := exists_firstOffence fits rejected
    refine ⟨index, argument, expectation, offence, fun null => ?_, fun notNull => ?_⟩
    · rcases reason with ⟨_, rfl⟩ | ⟨notNull, _⟩
      · rw [rejected]
        rfl
      · exact absurd null notNull
    · rcases reason with ⟨null, _⟩ | ⟨_, rfl⟩
      · exact absurd null notNull
      · rw [rejected]
        rfl

end Contract

end GoldFront
