import Mathlib.Data.List.Forall2
import GoldFront.Proofs.Binary64.Units
import GoldFront.Proofs.Value.Dictionary
import GoldFront.Value.Dictionary

/-!
Every value without NaN has a canonical form, in which numbers stand on one scale whatever their
type (`Value.canonical?`). Values are equal where they have one form (`equal_iff_sameForm`), so
equality is symmetric and transitive, and a value equals itself unless it holds NaN
(`equal_partialEquivalence`).
-/

namespace GoldFront

namespace Value

/-- What holds of values without parts, and of arrays and dictionaries if of their parts, holds of
    all values. -/
theorem induction_on_parts {P : Value → Prop}
    (plain : ∀ value, (∀ elements, value ≠ .array elements) →
      (∀ entries, value ≠ .dictionary entries) → P value)
    (array : ∀ elements, (∀ element ∈ elements, P element) → P (.array elements))
    (dictionary : ∀ entries, (∀ entry ∈ entries, P entry.2) → P (.dictionary entries)) :
    ∀ value, P value
  | .array elements => array elements fun element member =>
      induction_on_parts plain array dictionary element
  | .dictionary entries => dictionary entries fun entry member =>
      induction_on_parts plain array dictionary entry.2
  | .integer _ => plain _ (by simp) (by simp)
  | .float _ => plain _ (by simp) (by simp)
  | .string _ => plain _ (by simp) (by simp)
  | .boolean _ => plain _ (by simp) (by simp)
  | .null => plain _ (by simp) (by simp)
  | .function _ _ => plain _ (by simp) (by simp)
  | .builtin _ => plain _ (by simp) (by simp)
  | .error _ => plain _ (by simp) (by simp)
termination_by value => sizeOf value
decreasing_by
  · have := List.sizeOf_lt_of_mem member
    simp only [Value.array.sizeOf_spec]
    omega
  · obtain ⟨key, value⟩ := entry
    have := List.sizeOf_lt_of_mem member
    simp only [Value.dictionary.sizeOf_spec, Prod.mk.sizeOf_spec] at this ⊢
    omega

/-- A value that is NaN, or an array or dictionary with such a value somewhere in it. -/
inductive HoldsNaN : Value → Prop
  | float {number : Binary64} : number.isNaN → HoldsNaN (.float number)
  | element {elements : List Value} {element : Value} : element ∈ elements → HoldsNaN element →
      HoldsNaN (.array elements)
  | entry {entries : List (Key × Value)} {key : Key} {value : Value} : (key, value) ∈ entries →
      HoldsNaN value → HoldsNaN (.dictionary entries)

/-- A value up to equality. -/
inductive Canonical where
  | number (units : Int)
  | plain (value : Value)
  | array (elements : List Canonical)
  | dictionary (entries : List (Key × Canonical))

mutual

/-- The canonical form of a value, unless it holds NaN. -/
def canonical? : Value → Option Canonical
  | integer number => some (.number (Binary64.unitsOf number.toInt))
  | float number => number.units?.map .number
  | array elements => (canonicalElements? elements).map .array
  | dictionary entries => (canonicalEntries? entries).map .dictionary
  | value => some (.plain value)

def canonicalElements? : List Value → Option (List Canonical)
  | [] => some []
  | element :: elements =>
    element.canonical?.bind fun first => (canonicalElements? elements).map (first :: ·)

def canonicalEntries? : List (Key × Value) → Option (List (Key × Canonical))
  | [] => some []
  | (key, value) :: entries =>
    value.canonical?.bind fun first => (canonicalEntries? entries).map ((key, first) :: ·)

end

theorem canonicalElements?_eq_some_iff {elements : List Value} {forms : List Canonical} :
    canonicalElements? elements = some forms ↔
      List.Forall₂ (fun element form => element.canonical? = some form) elements forms := by
  induction elements generalizing forms with
  | nil =>
    rw [canonicalElements?, List.forall₂_nil_left_iff, Option.some_inj, eq_comm]
  | cons element elements ih =>
    simp only [canonicalElements?, Option.bind_eq_some_iff, Option.map_eq_some_iff, ih,
      List.forall₂_cons_left_iff]
    constructor
    · rintro ⟨form, found, later, rest, rfl⟩
      exact ⟨form, later, found, rest, rfl⟩
    · rintro ⟨form, later, found, rest, rfl⟩
      exact ⟨form, found, later, rest, rfl⟩

theorem canonicalEntries?_eq_some_iff {entries : List (Key × Value)}
    {forms : List (Key × Canonical)} : canonicalEntries? entries = some forms ↔
      List.Forall₂ (fun entry form => entry.1 = form.1 ∧ entry.2.canonical? = some form.2)
        entries forms := by
  induction entries generalizing forms with
  | nil =>
    rw [canonicalEntries?, List.forall₂_nil_left_iff, Option.some_inj, eq_comm]
  | cons entry entries ih =>
    obtain ⟨key, value⟩ := entry
    simp only [canonicalEntries?, Option.bind_eq_some_iff, Option.map_eq_some_iff, ih,
      List.forall₂_cons_left_iff]
    constructor
    · rintro ⟨form, found, later, rest, rfl⟩
      exact ⟨(key, form), later, ⟨rfl, found⟩, rest, rfl⟩
    · rintro ⟨⟨_, form⟩, later, ⟨rfl, found⟩, rest, rfl⟩
      exact ⟨form, found, later, rest, rfl⟩

theorem equalElements_iff {elements others : List Value} :
    equalElements elements others ↔
      List.Forall₂ (fun element other => element.equal other) elements others := by
  induction elements generalizing others with
  | nil => cases others <;> simp [equalElements]
  | cons element elements ih => cases others <;> simp [equalElements, ih]

theorem equalEntries_iff {entries others : List (Key × Value)} :
    equalEntries entries others ↔
      List.Forall₂ (fun entry other => entry.1 = other.1 ∧ entry.2.equal other.2) entries others := by
  induction entries generalizing others with
  | nil => cases others <;> simp [equalEntries]
  | cons entry entries ih => cases others <;> simp [equalEntries, ih, and_assoc]

/-- Where things agree exactly if they have one form, lists of them do. -/
private theorem forall₂_iff_exists {α β : Type} {Agree : α → α → Prop} {Form : α → β → Prop}
    {items others : List α}
    (alike : ∀ item ∈ items, ∀ other, Agree item other ↔ ∃ form, Form item form ∧ Form other form) :
    List.Forall₂ Agree items others ↔
      ∃ forms, List.Forall₂ Form items forms ∧ List.Forall₂ Form others forms := by
  induction items generalizing others with
  | nil => simp
  | cons item items ih =>
    have later := fun others => @ih others fun a member =>
      alike a (List.mem_cons_of_mem _ member)
    simp only [List.forall₂_cons_left_iff, alike item List.mem_cons_self, later]
    constructor
    · rintro ⟨other, others, ⟨form, found, otherFound⟩, ⟨forms, rest, otherRest⟩, rfl⟩
      exact ⟨form :: forms, ⟨form, forms, found, rest, rfl⟩, .cons otherFound otherRest⟩
    · rintro ⟨_, ⟨form, forms, found, rest, rfl⟩, whole⟩
      obtain ⟨other, others, otherFound, otherRest, rfl⟩ := List.forall₂_cons_right_iff.1 whole
      exact ⟨other, others, ⟨form, found, otherFound⟩, ⟨forms, rest, otherRest⟩, rfl⟩

/-- Two values of one canonical form. -/
def SameForm (a b : Value) : Prop := ∃ form, a.canonical? = some form ∧ b.canonical? = some form

theorem equal_iff_sameForm_of_plain {a : Value} (noArray : ∀ elements, a ≠ array elements)
    (noDictionary : ∀ entries, a ≠ dictionary entries) (b : Value) : a.equal b ↔ a.SameForm b := by
  cases a with
  | array elements => exact absurd rfl (noArray elements)
  | dictionary entries => exact absurd rfl (noDictionary entries)
  | integer m =>
    cases b with
    | integer n =>
      simpa [equal, SameForm, canonical?, Binary64.unitsOf_inj, Int64.toInt_inj] using eq_comm
    | float y => simpa [equal, SameForm, canonical?] using Binary64.equalsInt64_iff_units
    | _ => simp [equal, SameForm, canonical?]
  | float x =>
    cases b with
    | integer n => simpa [equal, SameForm, canonical?] using Binary64.equalsInt64_iff_units
    | float y => simpa [equal, SameForm, canonical?] using Binary64.equal_iff_units
    | _ => simp [equal, SameForm, canonical?]
  | string a => cases b <;> simp [equal, SameForm, canonical?]; exact eq_comm
  | boolean a => cases b <;> simp [equal, SameForm, canonical?]; exact eq_comm
  | null => cases b <;> simp [equal, SameForm, canonical?]
  | function parameters body =>
    cases b <;> simp [equal, SameForm, canonical?]
    exact and_congr eq_comm eq_comm
  | builtin a => cases b <;> simp [equal, SameForm, canonical?]; exact eq_comm
  | error a => cases b <;> simp [equal, SameForm, canonical?]; exact eq_comm

/-- Entries agree exactly if they have one key and values of one form, where values do so. -/
theorem entries_agree_iff {entry : Key × Value}
    (alike : ∀ b, entry.2.equal b ↔ entry.2.SameForm b) (other : Key × Value) :
    (entry.1 = other.1 ∧ entry.2.equal other.2) ↔ ∃ form : Key × Canonical,
      (entry.1 = form.1 ∧ entry.2.canonical? = some form.2) ∧
        other.1 = form.1 ∧ other.2.canonical? = some form.2 := by
  obtain ⟨key, value⟩ := entry
  obtain ⟨otherKey, other⟩ := other
  rw [alike other]
  constructor
  · rintro ⟨rfl, form, found, otherFound⟩
    exact ⟨(key, form), ⟨rfl, found⟩, rfl, otherFound⟩
  · rintro ⟨⟨_, form⟩, ⟨rfl, found⟩, rfl, otherFound⟩
    exact ⟨rfl, form, found, otherFound⟩

theorem equal_iff_sameForm (a b : Value) : a.equal b ↔ a.SameForm b := by
  -- The second value is free in the induction: parts are compared with other parts.
  induction a using induction_on_parts generalizing b with
  | plain a noArray noDictionary => exact equal_iff_sameForm_of_plain noArray noDictionary b
  | array elements ih =>
    cases b with
    | array others =>
      simp only [equal, equalElements_iff, forall₂_iff_exists ih, ← canonicalElements?_eq_some_iff]
      simp [SameForm, canonical?]
    | _ => simp [equal, SameForm, canonical?]
  | dictionary entries ih =>
    cases b with
    | dictionary others =>
      have alike := fun entry member => entries_agree_iff (ih entry member)
      simp only [equal, equalEntries_iff, forall₂_iff_exists alike,
        ← canonicalEntries?_eq_some_iff]
      simp [SameForm, canonical?]
    | _ => simp [equal, SameForm, canonical?]

theorem holdsNaN_array_iff {elements : List Value} :
    HoldsNaN (.array elements) ↔ ∃ element ∈ elements, element.HoldsNaN := by
  constructor
  · intro holds
    cases holds with
    | element member inner => exact ⟨_, member, inner⟩
  · rintro ⟨element, member, holds⟩
    exact .element member holds

theorem holdsNaN_dictionary_iff {entries : List (Key × Value)} :
    HoldsNaN (.dictionary entries) ↔ ∃ entry ∈ entries, entry.2.HoldsNaN := by
  constructor
  · intro holds
    cases holds with
    | entry member inner => exact ⟨_, member, inner⟩
  · rintro ⟨⟨key, value⟩, member, holds⟩
    exact .entry member holds

private theorem exists_forall₂_iff {α β : Type} {Form : α → β → Prop} {items : List α} :
    (∃ forms, List.Forall₂ Form items forms) ↔ ∀ item ∈ items, ∃ form, Form item form := by
  induction items with
  | nil => simp
  | cons item items ih =>
    rw [List.forall_mem_cons, ← ih]
    constructor
    · rintro ⟨_, whole⟩
      obtain ⟨form, forms, found, rest, rfl⟩ := List.forall₂_cons_left_iff.1 whole
      exact ⟨⟨form, found⟩, forms, rest⟩
    · rintro ⟨⟨form, found⟩, forms, rest⟩
      exact ⟨form :: forms, .cons found rest⟩

/-- A value has a canonical form unless it holds NaN. -/
theorem exists_canonical?_iff (a : Value) : (∃ form, a.canonical? = some form) ↔ ¬ a.HoldsNaN := by
  induction a using induction_on_parts with
  | plain a noArray noDictionary =>
    cases a with
    | array elements => exact absurd rfl (noArray elements)
    | dictionary entries => exact absurd rfl (noDictionary entries)
    | float x =>
      have holds : HoldsNaN (.float x) ↔ x.isNaN := by
        constructor
        · intro holds
          cases holds with
          | float nan => exact nan
        · exact .float
      rw [holds, ← Binary64.units?_eq_none_iff, ← Ne, Option.ne_none_iff_exists']
      simp [canonical?, Option.map_eq_some_iff]
    | _ =>
      refine iff_of_true ⟨_, rfl⟩ ?_
      rintro ⟨⟩
  | array elements ih =>
    have forms : (∃ form, canonical? (.array elements) = some form) ↔
        ∃ forms, canonicalElements? elements = some forms := by
      simp [canonical?, Option.map_eq_some_iff]
    simp only [forms, canonicalElements?_eq_some_iff, exists_forall₂_iff, holdsNaN_array_iff,
      not_exists, not_and]
    exact forall₂_congr ih
  | dictionary entries ih =>
    have forms : (∃ form, canonical? (.dictionary entries) = some form) ↔
        ∃ forms, canonicalEntries? entries = some forms := by
      simp [canonical?, Option.map_eq_some_iff]
    simp only [forms, canonicalEntries?_eq_some_iff, exists_forall₂_iff, holdsNaN_dictionary_iff,
      not_exists, not_and]
    refine forall₂_congr fun entry member => ?_
    rw [← ih entry member]
    simp

/-- Equality is symmetric and transitive, also where whole numbers and floating point numbers are
    mixed, and a value equals itself exactly if it holds no NaN. -/
theorem equal_partialEquivalence :
    (∀ a b : Value, a == b ↔ b == a) ∧
    (∀ a b c : Value, a == b → b == c → a == c) ∧
    ∀ a : Value, a == a ↔ ¬ a.HoldsNaN := by
  have form : ∀ a b : Value, a == b ↔ a.SameForm b := equal_iff_sameForm
  refine ⟨fun a b => ?_, fun a b c => ?_, fun a => ?_⟩
  · rw [form, form]
    exact exists_congr fun _ => and_comm
  · rw [form, form, form]
    rintro ⟨first, found, same⟩ ⟨second, also, last⟩
    obtain rfl : first = second := Option.some.inj (same.symm.trans also)
    exact ⟨first, found, last⟩
  · rw [form, ← exists_canonical?_iff]
    exact exists_congr fun _ => and_self_iff

/-- One and two are the same in each place, as a whole number or as a floating point number. -/
example : (Value.array [.integer 1, .float ⟨0x4000000000000000⟩] ==
    .array [.float ⟨0x3ff0000000000000⟩, .integer 2]) = true := by decide +kernel

end Value

namespace Value

/-- Two equal values are the same, or numbers, or have equal parts. -/
inductive Alike : Value → Value → Prop
  | same (a : Value) : Alike a a
  | floats {x y : Binary64} : x.equal y → Alike (.float x) (.float y)
  | integerFloat {n : Int64} {x : Binary64} : x.equalsInt64 n → Alike (.integer n) (.float x)
  | floatInteger {n : Int64} {x : Binary64} : x.equalsInt64 n → Alike (.float x) (.integer n)
  | arrays {elements others : List Value} :
      List.Forall₂ (fun element other => element.equal other) elements others →
      Alike (.array elements) (.array others)
  | dictionaries {entries others : List (Key × Value)} :
      List.Forall₂ (fun entry other => entry.1 = other.1 ∧ entry.2.equal other.2) entries others →
      Alike (.dictionary entries) (.dictionary others)

theorem alike_of_equal {a b : Value} (equals : a.equal b) : a.Alike b := by
  cases a <;> cases b <;>
    simp only [equal, Bool.false_eq_true, beq_iff_eq, Bool.and_eq_true] at equals
  case float.float => exact .floats equals
  case integer.float => exact .integerFloat equals
  case float.integer => exact .floatInteger equals
  case array.array => exact .arrays (equalElements_iff.1 equals)
  case dictionary.dictionary => exact .dictionaries (equalEntries_iff.1 equals)
  case function.function =>
    obtain ⟨rfl, rfl⟩ := equals
    exact .same _
  case null.null => exact .same _
  all_goals
    subst equals
    exact .same _

variable {a b : Value}

theorem Alike.isTruthy_eq (alike : a.Alike b) : a.isTruthy = b.isTruthy := by
  cases alike with
  | same => rfl
  | floats equal => rw [isTruthy, isTruthy, Binary64.isZero_of_equal equal]
  | integerFloat equals | floatInteger equals =>
    rw [isTruthy, isTruthy, Binary64.isZero_of_equalsInt64 equals]
    rfl
  | arrays alike => cases alike <;> rfl
  | dictionaries alike => cases alike <;> rfl

theorem Alike.isNull_eq (alike : a.Alike b) : a.isNull = b.isNull := by
  cases alike <;> rfl

theorem Alike.isError_eq (alike : a.Alike b) : a.isError = b.isError := by
  cases alike <;> rfl

theorem Alike.length_elements?_eq (alike : a.Alike b) :
    a.elements?.map List.length = b.elements?.map List.length := by
  cases alike with
  | arrays alike => exact congrArg some alike.length_eq
  | _ => rfl

theorem eq_toValue {key : Key} (isKey : a.key? = some key) : a = key.toValue := by
  cases a <;> cases isKey <;> rfl

theorem equal_iff_key {key other : Key} (isKey : a.key? = some key) (isOther : b.key? = some other) :
    a.equal b ↔ key = other := by
  rw [eq_toValue isKey, eq_toValue isOther]
  cases key <;> cases other <;> simp [Key.toValue, equal]

/-- Keys are the same if they have the same value in every dictionary. -/
theorem key_eq_iff_get? {key other : Key} :
    key = other ↔ ∀ entries : Entries, entries.get? key = entries.get? other := by
  constructor
  · rintro rfl entries
    rfl
  · intro found
    by_contra different
    have alone := found [(key, .null)]
    rw [Entries.get?_cons, Entries.get?_cons, if_pos rfl, if_neg (Ne.symm different)] at alone
    cases alone

end Value

end GoldFront
