import Mathlib.Data.List.Nodup
import GoldFront.Contract.Registry
import GoldFront.Proofs.Text.Quoted

/-!
In a signature the last bracket that opens stands behind the name, the next one that closes stands
behind the parameters, and no parameter holds a comma (`Entry.signature_eq_iff`). In a description
every part ends itself, the quoted name first (`Entry.describe_eq_iff`). Neither leaves out anything
of a contract, so each is the same for two builtins exactly if they have one name and one contract
(`Entry.signature_describe_eq_iff`).
-/

namespace GoldFront

theorem Text.not_mem_of_letters {text : List Char} {c : Char} (letters : text.all Char.isAlpha)
    (noLetter : c.isAlpha = false) : c ∉ text := by
  intro member
  have letter := List.all_eq_true.1 letters c member
  rw [noLetter] at letter
  cases letter

namespace ValueType

variable {type other : ValueType} {c : Char}

theorem mem_all (type : ValueType) : type ∈ all := by
  cases type <;> decide

theorem inj_of_nodup {write : ValueType → String} (different : (all.map write).Nodup) :
    write type = write other ↔ type = other := by
  refine ⟨fun same => ?_, congrArg write⟩
  exact List.inj_on_of_nodup_map different type.mem_all other.mem_all same

theorem name_inj : type.name = other.name ↔ type = other := inj_of_nodup (by decide)

theorem label_inj : type.label = other.label ↔ type = other := inj_of_nodup (by decide)

theorem not_mem_name (noLetter : c.isAlpha = false) : c ∉ type.name.toList := by
  refine Text.not_mem_of_letters ?_ noLetter
  cases type <;> decide

theorem not_mem_label (noLetter : c.isAlpha = false) : c ∉ type.label.toList := by
  refine Text.not_mem_of_letters ?_ noLetter
  cases type <;> decide

theorem toList_name_ne_nil (type : ValueType) : type.name.toList ≠ [] := by
  cases type <;> decide

end ValueType

attribute [ext] Expectation Contract

namespace Expectation

variable {expectation other : Expectation} {c : Char}

theorem toList_text (expectation : Expectation) : expectation.text.toList =
    expectation.type.name.toList ++ if expectation.nullable then ['?'] else [] := by
  rw [text, String.toList_append]
  split
  · rfl
  · rfl

theorem mark_mem_text_iff : '?' ∈ expectation.text.toList ↔ expectation.nullable := by
  have noMark : '?' ∉ expectation.type.name.toList := ValueType.not_mem_name (by decide)
  simp [toList_text, noMark]

theorem not_mem_text (noLetter : c.isAlpha = false) (noMark : c ≠ '?') :
    c ∉ expectation.text.toList := by
  simp [toList_text, ValueType.not_mem_name noLetter, noMark]

theorem text_inj : expectation.text = other.text ↔ expectation = other := by
  refine ⟨fun same => ?_, congrArg text⟩
  have mark : expectation.nullable = other.nullable := by
    rw [Bool.eq_iff_iff, ← mark_mem_text_iff, same, mark_mem_text_iff]
  rw [← String.toList_inj, toList_text, toList_text, mark, List.append_left_inj,
    String.toList_inj, ValueType.name_inj] at same
  exact Expectation.ext same mark

end Expectation

namespace Contract

variable {contract other : Contract} {text : String} {c : Char}

/-- The rest parameter in a signature, if there is one. -/
def restTexts (rest : Option Expectation) : List String :=
  (rest.map fun rest => rest.text ++ "...").toList

theorem paramTexts_eq (contract : Contract) :
    contract.paramTexts = contract.params.map Expectation.text ++ restTexts contract.rest := rfl

theorem exists_of_mem_paramTexts (member : text ∈ contract.paramTexts) :
    ∃ expectation : Expectation, text = expectation.text ∨ text = expectation.text ++ "..." := by
  rw [paramTexts_eq, List.mem_append, List.mem_map, restTexts, Option.mem_toList,
    Option.map_eq_some_iff] at member
  rcases member with ⟨param, _, rfl⟩ | ⟨rest, _, rfl⟩
  · exact ⟨param, .inl rfl⟩
  · exact ⟨rest, .inr rfl⟩

theorem toList_ne_nil_of_mem_paramTexts (member : text ∈ contract.paramTexts) :
    text.toList ≠ [] := by
  obtain ⟨expectation, rfl | rfl⟩ := exists_of_mem_paramTexts member
  · simp [Expectation.toList_text, expectation.type.toList_name_ne_nil]
  · simp

theorem not_mem_of_mem_paramTexts (member : text ∈ contract.paramTexts)
    (noLetter : c.isAlpha = false) (noMark : c ∉ ['?', '.']) : c ∉ text.toList := by
  simp only [List.mem_cons, List.not_mem_nil, or_false, not_or] at noMark
  obtain ⟨expectation, rfl | rfl⟩ := exists_of_mem_paramTexts member
  · exact Expectation.not_mem_text noLetter noMark.1
  · simp [Expectation.not_mem_text noLetter noMark.1, noMark.2]

/-- The three points tell a rest parameter from one that has a place of its own. -/
theorem restTexts_ne_cons (rest : Option Expectation) (param : Expectation) (texts : List String) :
    restTexts rest ≠ param.text :: texts := by
  intro same
  cases rest with
  | none => cases same
  | some rest =>
    have first : rest.text ++ "..." = param.text := (List.cons_eq_cons.1 same).1
    have point : '.' ∈ (rest.text ++ "...").toList := by simp
    rw [first] at point
    exact Expectation.not_mem_text (by decide) (by decide) point

theorem eq_of_restTexts {rest otherRest : Option Expectation}
    (same : restTexts rest = restTexts otherRest) : rest = otherRest := by
  cases rest with
  | none =>
    cases otherRest with
    | none => rfl
    | some otherRest => cases same
  | some rest =>
    cases otherRest with
    | none => cases same
    | some otherRest =>
      have texts := (String.append_left_inj _).1 (List.cons_eq_cons.1 same).1
      exact congrArg some (Expectation.text_inj.1 texts)

theorem eq_of_paramTexts (same : contract.paramTexts = other.paramTexts) :
    contract.params = other.params ∧ contract.rest = other.rest := by
  obtain ⟨params, rest, result⟩ := contract
  obtain ⟨otherParams, otherRest, otherResult⟩ := other
  show params = otherParams ∧ rest = otherRest
  simp only [paramTexts_eq] at same
  induction params generalizing otherParams with
  | nil =>
    cases otherParams with
    | nil => exact ⟨rfl, eq_of_restTexts same⟩
    | cons param otherParams => exact absurd same (restTexts_ne_cons rest param _)
  | cons param params ih =>
    cases otherParams with
    | nil => exact absurd same.symm (restTexts_ne_cons otherRest param _)
    | cons otherParam otherParams =>
      obtain ⟨first, later⟩ := List.cons_eq_cons.1 same
      obtain ⟨rfl, sameRest⟩ := ih otherParams later
      exact ⟨by rw [Expectation.text_inj.1 first], sameRest⟩

/-- The parameters between the brackets of a signature. -/
def paramList (contract : Contract) : List Char :=
  [',', ' '].intercalate (contract.paramTexts.map String.toList)

theorem not_mem_paramList (noLetter : c.isAlpha = false) (noMark : c ∉ ['?', '.', ',', ' ']) :
    c ∉ contract.paramList := by
  intro member
  rcases mem_of_mem_intercalate member with separator | ⟨_, among, inside⟩
  · exact noMark (List.mem_append_right ['?', '.'] separator)
  · obtain ⟨text, shown, rfl⟩ := List.mem_map.1 among
    refine not_mem_of_mem_paramTexts shown noLetter (fun mark => noMark ?_) inside
    exact List.mem_append_left [',', ' '] mark

theorem eq_of_paramList (same : contract.paramList = other.paramList) :
    contract.params = other.params ∧ contract.rest = other.rest := by
  have free : ∀ contract : Contract, ∀ part ∈ contract.paramTexts.map String.toList,
      part ≠ [] ∧ ',' ∉ part := by
    intro contract part among
    obtain ⟨text, member, rfl⟩ := List.mem_map.1 among
    have noComma := not_mem_of_mem_paramTexts (c := ',') member (by decide) (by decide)
    exact ⟨toList_ne_nil_of_mem_paramTexts member, noComma⟩
  rw [paramList, paramList, Text.intercalate_inj (by decide) (free _) (free _)] at same
  exact eq_of_paramTexts (List.map_injective_iff.2 (fun _ _ => String.toList_inj.1) same)

/-- What a signature shows behind the bracket that opens. -/
def shown (contract : Contract) : List Char :=
  contract.paramList ++ ')' :: (" -> ".toList ++ contract.result.text.toList)

theorem not_mem_shown (contract : Contract) : '(' ∉ contract.shown := by
  have noParam : '(' ∉ contract.paramList := not_mem_paramList (by decide) (by decide)
  have noResult : '(' ∉ contract.result.text.toList :=
    Expectation.not_mem_text (by decide) (by decide)
  simp [shown, noParam, noResult]

theorem shown_inj : contract.shown = other.shown ↔ contract = other := by
  refine ⟨fun same => ?_, congrArg shown⟩
  have noBracket : ∀ contract : Contract, ')' ∉ contract.paramList := fun _ =>
    not_mem_paramList (by decide) (by decide)
  rw [shown, shown, Text.append_cons_inj (noBracket _) (noBracket _), List.append_right_inj,
    String.toList_inj, Expectation.text_inj] at same
  obtain ⟨params, rest⟩ := eq_of_paramList same.1
  exact Contract.ext params rest same.2

end Contract

namespace Entry

variable {entry other : Entry}

theorem toList_signature (entry : Entry) :
    entry.signature.toList = entry.name.toList ++ '(' :: entry.contract.shown := by
  simp [signature, Contract.shown, Contract.paramList]

theorem signature_eq_iff : entry.signature = other.signature ↔
    entry.name = other.name ∧ entry.contract = other.contract := by
  rw [← String.toList_inj, toList_signature, toList_signature,
    Text.append_cons_inj_last entry.contract.not_mem_shown other.contract.not_mem_shown,
    String.toList_inj, Contract.shown_inj]

end Entry

namespace Contract

variable {contract other : Contract} {expectation otherExpectation : Expectation}
  {params otherParams : List Expectation} {rest otherRest : Option Expectation}
  {behind beyond : List Char}

/-- A truth in a description. -/
def describeTruth (truth : Bool) : List Char := (if truth then "true" else "false").toList

/-- The type and the truth of an expectation in a description, and what stands between them. -/
def describeParts (between : List Char) (expectation : Expectation) : List Char :=
  expectation.type.label.toList ++ ',' :: (between ++ describeTruth expectation.nullable)

/-- The parameters in a description. -/
def describeParams (params : List Expectation) : List Char :=
  [',', ' '].intercalate (params.map fun param => (describeExpectation param).toList)

/-- The rest parameter in a description. -/
def describeRest : Option Expectation → String
  | none => "None"
  | some rest => "Some(" ++ describeExpectation rest ++ ")"

theorem not_mem_describeTruth {c : Char} (noLetter : c.isAlpha = false) (truth : Bool) :
    c ∉ describeTruth truth := by
  refine Text.not_mem_of_letters ?_ noLetter
  cases truth <;> decide

theorem describeTruth_inj : ∀ {truth other : Bool},
    describeTruth truth = describeTruth other ↔ truth = other := by
  decide

/-- Type and truth can be read off a description in front of what is no letter. -/
theorem describeParts_append_inj {between : List Char} {c : Char} (noLetter : c.isAlpha = false) :
    describeParts between expectation ++ c :: behind =
        describeParts between otherExpectation ++ c :: beyond ↔
      expectation = otherExpectation ∧ behind = beyond := by
  refine ⟨fun same => ?_, by rintro ⟨rfl, rfl⟩; rfl⟩
  have noComma : ∀ type : ValueType, ',' ∉ type.label.toList := fun type =>
    type.not_mem_label (by decide)
  simp only [describeParts, List.append_assoc, List.cons_append] at same
  obtain ⟨sameType, later⟩ := (Text.append_cons_inj (noComma _) (noComma _)).1 same
  obtain ⟨sameTruth, rfl⟩ := (Text.append_cons_inj (not_mem_describeTruth noLetter _)
    (not_mem_describeTruth noLetter _)).1 (List.append_cancel_left later)
  rw [String.toList_inj, ValueType.label_inj] at sameType
  rw [describeTruth_inj] at sameTruth
  exact ⟨Expectation.ext sameType sameTruth, rfl⟩

theorem toList_describeExpectation (expectation : Expectation) :
    (describeExpectation expectation).toList = "ArgSpec \x7b ty: ".toList ++
      (describeParts " nullable: ".toList expectation ++ [' ', '\x7d']) := by
  have spelled : describeExpectation expectation =
      "ArgSpec \x7b ty: " ++ expectation.type.label ++ ", nullable: " ++
        (if expectation.nullable then "true" else "false") ++ " \x7d" := rfl
  simp [spelled, describeParts, describeTruth]

theorem describeExpectation_append_inj :
    (describeExpectation expectation).toList ++ behind =
        (describeExpectation otherExpectation).toList ++ beyond ↔
      expectation = otherExpectation ∧ behind = beyond := by
  simp only [toList_describeExpectation, List.append_assoc, List.append_right_inj,
    List.cons_append, List.nil_append]
  rw [describeParts_append_inj (by decide), List.cons_inj_right]

theorem describeParams_append_inj :
    describeParams params ++ ']' :: behind = describeParams otherParams ++ ']' :: beyond ↔
      params = otherParams ∧ behind = beyond := by
  refine ⟨fun same => ?_, by rintro ⟨rfl, rfl⟩; rfl⟩
  obtain rfl : params = otherParams := by
    apply eq_of_intercalate (P := fun _ => True) (by decide) _ _ _ _ same
    · intro param _ behind beyond
      simp [toList_describeExpectation]
    · intro param _ other _ behind beyond same
      exact (describeExpectation_append_inj.1 same).1
    · exact fun _ _ => trivial
    · exact fun _ _ => trivial
  exact ⟨rfl, (List.cons_eq_cons.1 (List.append_cancel_left same)).2⟩

theorem describeRest_append_inj :
    (describeRest rest).toList ++ behind = (describeRest otherRest).toList ++ beyond ↔
      rest = otherRest ∧ behind = beyond := by
  refine ⟨fun same => ?_, by rintro ⟨rfl, rfl⟩; rfl⟩
  cases rest with
  | none =>
    cases otherRest with
    | none => exact ⟨rfl, List.append_cancel_left same⟩
    | some otherRest => simp [describeRest] at same
  | some rest =>
    cases otherRest with
    | none => simp [describeRest] at same
    | some otherRest =>
      simp only [describeRest, String.toList_append, List.append_assoc,
        List.append_right_inj] at same
      obtain ⟨rfl, later⟩ := describeExpectation_append_inj.1 same
      exact ⟨rfl, List.append_cancel_left later⟩

theorem toList_describe (contract : Contract) : contract.describe.toList =
    "Attribute \x7b return_type: ".toList ++
      (describeParts " return_nullable: ".toList contract.result ++ ',' :: (" args: [".toList ++
        (describeParams contract.params ++ ']' :: (", rest: ".toList ++
          ((describeRest contract.rest).toList ++ [' ', '\x7d']))))) := by
  have spelled : contract.describe =
      "Attribute \x7b return_type: " ++ contract.result.type.label ++
        ", return_nullable: " ++ (if contract.result.nullable then "true" else "false") ++
        ", args: [" ++ ", ".intercalate (contract.params.map describeExpectation) ++
        "], rest: " ++ describeRest contract.rest ++ " \x7d" := by
    obtain ⟨params, rest, result⟩ := contract
    cases rest with
    | none => rfl
    | some rest => rfl
  simp [spelled, describeParts, describeTruth, describeParams, Function.comp_def]

theorem describe_append_inj :
    contract.describe.toList ++ behind = other.describe.toList ++ beyond ↔
      contract = other ∧ behind = beyond := by
  refine ⟨fun same => ?_, by rintro ⟨rfl, rfl⟩; rfl⟩
  simp only [toList_describe, List.append_assoc, List.cons_append, List.append_right_inj] at same
  obtain ⟨result, args⟩ := (describeParts_append_inj (by decide)).1 same
  obtain ⟨params, past⟩ := describeParams_append_inj.1 (List.append_cancel_left args)
  obtain ⟨rest, last⟩ := describeRest_append_inj.1 (List.append_cancel_left past)
  exact ⟨Contract.ext params rest result, by simpa using last⟩

end Contract

namespace Entry

variable {entry other : Entry}

theorem toList_describe (entry : Entry) : entry.describe.toList =
    "BuiltinEntry \x7b name: ".toList ++ (Text.quote entry.name.toList ++
      (", contract: ".toList ++ (entry.contract.describe.toList ++ ", .. \x7d".toList))) := by
  have spelled : entry.describe = "BuiltinEntry \x7b name: " ++ Text.quoted entry.name ++
      ", contract: " ++ entry.contract.describe ++ ", .. \x7d" := rfl
  simp [spelled, Text.quoted]

theorem describe_eq_iff : entry.describe = other.describe ↔
    entry.name = other.name ∧ entry.contract = other.contract := by
  rw [← String.toList_inj, toList_describe, toList_describe, List.append_right_inj,
    Text.quote_append_inj, List.append_right_inj, Contract.describe_append_inj]
  simp only [String.toList_inj, and_true]

/-- Two builtins have the same signature, and also the same description, exactly if they have the
    same name and the same contract; with one name for both, the contracts alone decide. -/
theorem signature_describe_eq_iff (entry other : Entry) :
    (entry.signature = other.signature ↔
      entry.name = other.name ∧ entry.contract = other.contract) ∧
    (entry.describe = other.describe ↔
      entry.name = other.name ∧ entry.contract = other.contract) :=
  ⟨signature_eq_iff, describe_eq_iff⟩

end Entry

end GoldFront
