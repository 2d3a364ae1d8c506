import Mathlib.Data.List.Perm.Basic
import GoldFront.Proofs.Text.Slice
import GoldFront.Value.Dictionary

namespace GoldFront

namespace Key

theorem before_trans {a b c : Key} (first : a.before b) (second : b.before c) : a.before c := by
  cases a <;> cases b <;> cases c <;>
    simp only [before, decide_eq_true_eq, Bool.and_eq_true, Bool.not_eq_true', Bool.false_eq_true]
      at first second ⊢
  case integer.integer.integer => omega
  case boolean.boolean.boolean => simp [second.1] at first
  case string.string.string => exact String.lt_trans first second

theorem before_or_eq_or_before (a b : Key) : a.before b ∨ a = b ∨ b.before a := by
  cases a <;> cases b <;>
    simp only [before, decide_eq_true_eq, integer.injEq, boolean.injEq, string.injEq, true_or, or_true]
  case integer.integer m n =>
    rw [← Int64.toInt_inj]
    omega
  case boolean.boolean a b => cases a <;> cases b <;> decide
  case string.string a b =>
    by_cases less : a < b
    · exact .inl less
    · by_cases more : b < a
      · exact .inr (.inr more)
      · exact .inr (.inl (String.le_antisymm (String.not_lt.1 more) (String.not_lt.1 less)))

end Key

namespace Entries

/-- Entries in the strict order of their keys. -/
def Ordered (entries : Entries) : Prop :=
  entries.Pairwise fun entry later => entry.1.before later.1

variable {entries : Entries} {key : Key} {value : Value}

theorem mem_insert {entry : Key × Value} (member : entry ∈ entries.insert key value) :
    entry.1 = key ∨ entry ∈ entries := by
  induction entries with
  | nil => exact .inl (congrArg Prod.fst (List.mem_singleton.1 member))
  | cons first rest ih =>
    unfold insert at member
    split at member
    · rcases List.mem_cons.1 member with rfl | later
      · exact .inl rfl
      · exact .inr (List.mem_cons_of_mem _ later)
    · split at member
      · rcases List.mem_cons.1 member with rfl | later
        · exact .inl rfl
        · exact .inr later
      · rcases List.mem_cons.1 member with rfl | later
        · exact .inr List.mem_cons_self
        · exact (ih later).imp_right (List.mem_cons_of_mem _)

theorem Ordered.insert (ordered : Ordered entries) (key : Key) (value : Value) :
    Ordered (entries.insert key value) := by
  induction entries with
  | nil => exact List.pairwise_singleton _ _
  | cons first rest ih =>
    obtain ⟨behind, restOrdered⟩ := List.pairwise_cons.1 ordered
    unfold Entries.insert
    split
    · next same =>
      subst same
      exact List.pairwise_cons.2 ⟨behind, restOrdered⟩
    · next different =>
      split
      · next earlier =>
        refine List.pairwise_cons.2 ⟨fun entry member => ?_, ordered⟩
        rcases List.mem_cons.1 member with rfl | later
        · exact earlier
        · exact Key.before_trans earlier (behind entry later)
      · next notEarlier =>
        refine List.pairwise_cons.2 ⟨fun entry member => ?_, ih restOrdered⟩
        rcases mem_insert member with same | later
        · rw [same]
          exact ((Key.before_or_eq_or_before key first.1).resolve_left notEarlier).resolve_left different
        · exact behind entry later

theorem Ordered.insertPairs {pairs : List (Value × Value)} {built : Entries} (ordered : Ordered entries)
    (builds : Entries.insertPairs entries pairs = .ok built) : Ordered built := by
  induction pairs generalizing entries with
  | nil =>
    cases builds
    exact ordered
  | cons pair pairs ih =>
    unfold Entries.insertPairs at builds
    split at builds
    · exact ih (ordered.insert _ _) builds
    · cases builds

end Entries

/-- A dictionary that is built from pairs holds its entries in the order of their keys. -/
theorem Value.ordered_ofPairs {pairs : List (Value × Value)} {entries : Entries}
    (builds : ofPairs pairs = .dictionary entries) : entries.Ordered := by
  unfold ofPairs at builds
  split at builds
  · next built =>
    cases builds
    exact Entries.Ordered.insertPairs List.Pairwise.nil built
  · cases builds

/-- The order of keys: numbers by size, false, true, then strings by their code points. -/
inductive Key.Precedes : Key → Key → Prop
  | numbers {m n : Int64} : m.toInt < n.toInt → Precedes (.integer m) (.integer n)
  | numberTruth (m : Int64) (truth : Bool) : Precedes (.integer m) (.boolean truth)
  | numberText (m : Int64) (text : String) : Precedes (.integer m) (.string text)
  | truths : Precedes (.boolean false) (.boolean true)
  | truthText (truth : Bool) (text : String) : Precedes (.boolean truth) (.string text)
  | texts {text other : String} :
      text.toList < other.toList → Precedes (.string text) (.string other)

theorem Key.before_iff {key other : Key} : key.before other ↔ key.Precedes other := by
  constructor
  · intro before
    cases key <;> cases other <;>
      simp only [Key.before, decide_eq_true_eq, Bool.and_eq_true, Bool.not_eq_true',
        Bool.false_eq_true] at before
    case integer.integer => exact .numbers before
    case integer.boolean m truth => exact .numberTruth m truth
    case integer.string m text => exact .numberText m text
    case boolean.boolean =>
      obtain ⟨rfl, rfl⟩ := before
      exact .truths
    case boolean.string truth text => exact .truthText truth text
    case string.string => exact .texts before
  · intro precedes
    cases precedes with
    | numbers less => simpa [Key.before] using less
    | texts less => exact decide_eq_true less
    | _ => rfl

theorem Key.ne_of_before {key other : Key} (before : key.before other) : key ≠ other := by
  rintro rfl
  cases Key.before_iff.1 before with
  | numbers less => exact Int.lt_irrefl _ less
  | texts less => exact List.lt_irrefl _ less

theorem Key.key?_toValue (key : Key) : key.toValue.key? = some key := by
  cases key <;> rfl

/-- A value that makes a key. -/
def Value.IsKey (value : Value) : Prop :=
  value.type = .integer ∨ value.type = .boolean ∨ value.type = .string

theorem Value.isKey_iff {value : Value} : value.IsKey ↔ ∃ key, value.key? = some key := by
  cases value <;> simp [Value.IsKey, Value.type, Value.key?]

namespace Entries

variable {entries others : Entries} {pairs more : List (Value × Value)}

theorem get?_cons (k key : Key) (value : Value) (rest : Entries) :
    get? ((k, value) :: rest) key = if key = k then some value else get? rest key := by
  rw [get?, List.lookup_cons]
  by_cases same : key = k
  · simp [same]
  · have passed : (key == k) = false := beq_false_of_ne same
    simp [passed, same, get?]

/-- An insertion changes what is found for its key, and for no other. -/
theorem get?_insert (entries : Entries) (key other : Key) (value : Value) :
    (entries.insert key value).get? other =
      if other = key then some value else entries.get? other := by
  induction entries with
  | nil => exact get?_cons key other value []
  | cons first rest ih =>
    obtain ⟨k, v⟩ := first
    unfold insert
    split
    · next found =>
      subst found
      rw [get?_cons, get?_cons]
      by_cases same : other = key <;> simp [same]
    · next different =>
      split
      · exact get?_cons key other value _
      · rw [get?_cons, get?_cons, ih]
        by_cases same : other = k
        · simp [same, Ne.symm different]
        · simp [same]

theorem Ordered.mem_iff (ordered : Ordered entries) {key : Key} {value : Value} :
    (key, value) ∈ entries ↔ entries.get? key = some value := by
  rw [get?, List.lookup_eq_some_iff]
  constructor
  · intro member
    obtain ⟨before, after, rfl⟩ := List.append_of_mem member
    refine ⟨before, after, rfl, fun entry earlier => ?_⟩
    have precedes := (List.pairwise_append.1 ordered).2.2 entry earlier _ List.mem_cons_self
    simpa using (Key.ne_of_before precedes).symm
  · rintro ⟨before, after, rfl, _⟩
    simp

/-- Entries in order are told apart by what is found in them. -/
theorem Ordered.ext (ordered : Ordered entries) (othersOrdered : Ordered others)
    (same : ∀ key, entries.get? key = others.get? key) : entries = others := by
  have distinct : ∀ {some : Entries}, Ordered some → some.Nodup := fun someOrdered =>
    someOrdered.imp fun precedes same => Key.ne_of_before precedes (congrArg Prod.fst same)
  have perm : entries.Perm others :=
    (List.perm_ext_iff_of_nodup (distinct ordered) (distinct othersOrdered)).2 fun ⟨key, value⟩ => by
      rw [ordered.mem_iff, othersOrdered.mem_iff, same]
  refine perm.eq_of_pairwise (fun entry other _ _ first second => ?_) ordered othersOrdered
  exact absurd rfl (Key.ne_of_before (Key.before_trans first second))

/-- The value of the last pair whose key is the one looked for. -/
def lastValue? (pairs : List (Value × Value)) (key : Key) : Option Value :=
  (pairs.reverse.find? fun pair => pair.1.key? = some key).map Prod.snd

theorem lastValue?_append (pairs more : List (Value × Value)) (key : Key) :
    lastValue? (pairs ++ more) key = (lastValue? more key).or (lastValue? pairs key) := by
  rw [lastValue?, List.reverse_append, List.find?_append, Option.map_or, lastValue?, lastValue?]

theorem lastValue?_eq_some_iff {key : Key} {value : Value} :
    lastValue? pairs key = some value ↔
      ∃ before made after, pairs = before ++ (made, value) :: after ∧ made.key? = some key ∧
        ∀ pair ∈ after, pair.1.key? ≠ some key := by
  rw [lastValue?, Option.map_eq_some_iff]
  constructor
  · rintro ⟨⟨made, _⟩, found, rfl⟩
    obtain ⟨isKey, after, before, reversed, others⟩ := List.find?_eq_some_iff_append.1 found
    refine ⟨before.reverse, made, after.reverse, ?_, of_decide_eq_true isKey, fun pair member => ?_⟩
    · rw [← List.reverse_reverse pairs, reversed]
      simp
    · simpa using others pair (List.mem_reverse.1 member)
  · rintro ⟨before, made, after, rfl, isKey, others⟩
    refine ⟨(made, value), List.find?_eq_some_iff_append.2 ⟨decide_eq_true isKey, after.reverse,
      before.reverse, by simp, fun pair member => ?_⟩, rfl⟩
    simpa using others pair (List.mem_reverse.1 member)

theorem isSome_lastValue?_iff {key : Key} :
    (lastValue? pairs key).isSome ↔ ∃ pair ∈ pairs, pair.1.key? = some key := by
  simp [lastValue?, List.find?_isSome]

theorem insertPairs_append (entries : Entries) (pairs more : List (Value × Value)) :
    insertPairs entries (pairs ++ more) =
      (insertPairs entries pairs).bind fun built => insertPairs built more := by
  induction pairs generalizing entries with
  | nil => rfl
  | cons pair pairs ih =>
    obtain ⟨made, value⟩ := pair
    cases isKey : made.key? with
    | none => simp [insertPairs, isKey, Except.bind]
    | some key => simpa [insertPairs, isKey] using ih (entries.insert key value)

theorem exists_insertPairs (entries : Entries) (usable : ∀ pair ∈ pairs, pair.1.IsKey) :
    ∃ built, insertPairs entries pairs = .ok built ∧
      ∀ key, built.get? key = (lastValue? pairs key).or (entries.get? key) := by
  induction pairs generalizing entries with
  | nil => exact ⟨entries, rfl, fun key => rfl⟩
  | cons pair pairs ih =>
    obtain ⟨made, value⟩ := pair
    obtain ⟨first, others⟩ := List.forall_mem_cons.1 usable
    obtain ⟨k, isKey⟩ := Value.isKey_iff.1 first
    obtain ⟨built, builds, found⟩ := ih (entries.insert k value) others
    refine ⟨built, by simpa [insertPairs, isKey] using builds, fun key => ?_⟩
    have one : lastValue? [(made, value)] key = if key = k then some value else none := by
      by_cases same : key = k <;> simp [lastValue?, isKey, same, Ne.symm]
    rw [found, get?_insert, ← List.singleton_append, lastValue?_append, one, Option.or_assoc]
    by_cases same : key = k <;> simp [same]

theorem insertPairs_of_not_isKey (entries : Entries) {before after : List (Value × Value)}
    {made value : Value} (usable : ∀ pair ∈ before, pair.1.IsKey) (unusable : ¬ made.IsKey) :
    insertPairs entries (before ++ (made, value) :: after) = .error made.type := by
  obtain ⟨built, builds, _⟩ := exists_insertPairs entries usable
  have noKey : made.key? = none :=
    Option.eq_none_iff_forall_ne_some.2 fun key isKey => unusable (Value.isKey_iff.2 ⟨key, isKey⟩)
  rw [insertPairs_append, builds]
  simp [Except.bind, insertPairs, noKey]

theorem usable_or_split (pairs : List (Value × Value)) :
    (∀ pair ∈ pairs, pair.1.IsKey) ∨
      ∃ before made value after, pairs = before ++ (made, value) :: after ∧
        (∀ pair ∈ before, pair.1.IsKey) ∧ ¬ made.IsKey := by
  induction pairs with
  | nil => exact .inl (by simp)
  | cons pair pairs ih =>
    by_cases first : pair.1.IsKey
    · rcases ih with usable | ⟨before, made, value, after, rfl, usable, unusable⟩
      · exact .inl (List.forall_mem_cons.2 ⟨first, usable⟩)
      · exact .inr ⟨pair :: before, made, value, after, rfl,
          List.forall_mem_cons.2 ⟨first, usable⟩, unusable⟩
    · exact .inr ⟨[], pair.1, pair.2, pairs, rfl, by simp, first⟩

theorem insert_last {key : Key} (last : ∀ entry ∈ entries, entry.1.before key) (value : Value) :
    entries.insert key value = entries ++ [(key, value)] := by
  induction entries with
  | nil => rfl
  | cons first rest ih =>
    obtain ⟨k, v⟩ := first
    obtain ⟨earlier, others⟩ := List.forall_mem_cons.1 last
    have notBefore : ¬ key.before k := fun before =>
      Key.ne_of_before (Key.before_trans earlier before) rfl
    rw [insert, if_neg (Key.ne_of_before earlier).symm, if_neg notBefore, ih others, List.cons_append]

/-- Entries in order are put one behind the other. -/
theorem insertPairs_toValue (before : Entries) {after : Entries}
    (ordered : Ordered (before ++ after)) :
    insertPairs before (after.map fun entry => (entry.1.toValue, entry.2)) = .ok (before ++ after) := by
  induction after generalizing before with
  | nil => rw [List.append_nil]; rfl
  | cons entry after ih =>
    have last : ∀ other ∈ before, other.1.before entry.1 := fun other member =>
      (List.pairwise_append.1 ordered).2.2 other member entry List.mem_cons_self
    have shifted : before ++ entry :: after = (before ++ [entry]) ++ after := by simp
    rw [shifted] at ordered ⊢
    rw [List.map_cons, insertPairs, Key.key?_toValue, ← ih (before ++ [entry]) ordered,
      ← insert_last last entry.2]

end Entries

namespace Value

open Entries

variable {pairs others : List (Value × Value)}

theorem ofPairs_eq_dictionary_iff {entries : Entries} :
    ofPairs pairs = .dictionary entries ↔ insertPairs [] pairs = .ok entries := by
  unfold ofPairs
  split
  · next built => simp [built]
  · next built => simp [built]

theorem exists_ofPairs (usable : ∀ pair ∈ pairs, pair.1.IsKey) :
    ∃ entries : Entries, ofPairs pairs = .dictionary entries ∧ entries.Ordered ∧
      ∀ key, entries.get? key = lastValue? pairs key := by
  obtain ⟨entries, builds, found⟩ := exists_insertPairs [] usable
  have built := ofPairs_eq_dictionary_iff.2 builds
  exact ⟨entries, built, ordered_ofPairs built, fun key => (found key).trans (Option.or_none)⟩

theorem ofPairs_of_not_isKey {before after : List (Value × Value)} {made value : Value}
    (usable : ∀ pair ∈ before, pair.1.IsKey) (unusable : ¬ made.IsKey) :
    ofPairs (before ++ (made, value) :: after) =
      .error ("unusable as dictionary key: " ++ made.type.name) := by
  rw [ofPairs, insertPairs_of_not_isKey [] usable unusable]

/-- What is found in a dictionary that was built from pairs. -/
theorem get?_of_ofPairs {entries : Entries} (built : ofPairs pairs = .dictionary entries) :
    (∀ pair ∈ pairs, pair.1.IsKey) ∧ ∀ key, entries.get? key = lastValue? pairs key := by
  rcases usable_or_split pairs with usable | ⟨before, made, value, after, rfl, usable, unusable⟩
  · obtain ⟨_, same, _, found⟩ := exists_ofPairs usable
    cases built.symm.trans same
    exact ⟨usable, found⟩
  · cases built.symm.trans (ofPairs_of_not_isKey usable unusable)

/-- Pairs of different keys. -/
def DifferentKeys (pairs : List (Value × Value)) : Prop :=
  pairs.Pairwise fun pair other => pair.1.key? ≠ other.1.key?

theorem DifferentKeys.perm (different : DifferentKeys pairs) (perm : pairs.Perm others) :
    DifferentKeys others :=
  (perm.pairwise_iff fun unequal => Ne.symm unequal).1 different

/-- Where keys are different, each pair is the last of its key. -/
theorem DifferentKeys.lastValue?_eq_some_iff (different : DifferentKeys pairs) {key : Key}
    {value : Value} : lastValue? pairs key = some value ↔
      ∃ made, (made, value) ∈ pairs ∧ made.key? = some key := by
  rw [Entries.lastValue?_eq_some_iff]
  constructor
  · rintro ⟨before, made, after, rfl, isKey, _⟩
    exact ⟨made, by simp, isKey⟩
  · rintro ⟨made, member, isKey⟩
    obtain ⟨before, after, rfl⟩ := List.append_of_mem member
    refine ⟨before, made, after, rfl, isKey, fun pair later same => ?_⟩
    have apart := (List.pairwise_cons.1 (List.pairwise_append.1 different).2.1).1 pair later
    exact apart (isKey.trans same.symm)

theorem ofPairs_perm (different : DifferentKeys pairs) (perm : pairs.Perm others) :
    ofPairs pairs = ofPairs others := by
  have othersDifferent := different.perm perm
  rcases usable_or_split pairs with usable | ⟨before, made, value, after, rfl, usable, unusable⟩
  · obtain ⟨entries, built, ordered, found⟩ := exists_ofPairs usable
    obtain ⟨otherEntries, otherBuilt, otherOrdered, otherFound⟩ :=
      exists_ofPairs fun pair member => usable pair (perm.mem_iff.2 member)
    have same : entries = otherEntries := ordered.ext otherOrdered fun key => by
      refine Option.ext fun value => ?_
      rw [found, otherFound, different.lastValue?_eq_some_iff,
        othersDifferent.lastValue?_eq_some_iff]
      simp only [perm.mem_iff]
    rw [built, otherBuilt, same]
  · -- One key at most can be unusable, so it is the first such key in any order.
    obtain ⟨front, back, rfl⟩ := List.append_of_mem (perm.mem_iff.1 (by simp : (made, value) ∈ _))
    have frontUsable : ∀ pair ∈ front, pair.1.IsKey := by
      intro pair member
      by_contra unusableToo
      have apart := (List.pairwise_append.1 othersDifferent).2.2 pair member _ List.mem_cons_self
      rw [isKey_iff, ← Option.ne_none_iff_exists', not_not] at unusable unusableToo
      exact apart (unusableToo.trans unusable.symm)
    rw [ofPairs_of_not_isKey usable unusable, ofPairs_of_not_isKey frontUsable unusable]

/-- A dictionary is the finite map of the pairs that it is built from, the last pair of a key
    winning, with its keys in order; the first key that cannot be one makes an error of the
    whole. -/
theorem ofPairs_finiteMap :
    (∀ before made value after, (∀ pair ∈ before, pair.1.IsKey) → ¬ made.IsKey →
      ofPairs (before ++ (made, value) :: after) =
        .error ("unusable as dictionary key: " ++ made.type.name)) ∧
    (∀ pairs, (∀ pair ∈ pairs, pair.1.IsKey) → ∃ entries, ofPairs pairs = .dictionary entries ∧
      (entries.Pairwise fun entry later => entry.1.Precedes later.1) ∧
      (∀ key, (∃ value, (key, value) ∈ entries) ↔ ∃ pair ∈ pairs, pair.1.key? = some key) ∧
      ∀ key value, (key, value) ∈ entries ↔
        ∃ before made after, pairs = before ++ (made, value) :: after ∧ made.key? = some key ∧
          ∀ pair ∈ after, pair.1.key? ≠ some key) ∧
    (∀ text other : String, Text.encode text < Text.encode other ↔ text.toList < other.toList) ∧
    (∀ first second (entries later : Entries), ofPairs first = .dictionary entries →
      ofPairs second = .dictionary later →
      ∃ merged : Entries, ofPairs (first ++ second) = .dictionary merged ∧
        ∀ key, merged.get? key = (later.get? key).or (entries.get? key)) ∧
    (∀ pairs others, DifferentKeys pairs → pairs.Perm others →
      ofPairs pairs = ofPairs others ∧ (ofPairs pairs).inspect = (ofPairs others).inspect) ∧
    ∀ entries : Entries, (entries.Pairwise fun entry later => entry.1.Precedes later.1) →
      ofPairs (entries.map fun entry => (entry.1.toValue, entry.2)) = .dictionary entries := by
  refine ⟨fun _ _ _ _ => ofPairs_of_not_isKey, fun pairs usable => ?_,
    fun _ _ => Text.encode_lt_encode_iff, ?_, ?_, ?_⟩
  · obtain ⟨entries, built, ordered, found⟩ := exists_ofPairs usable
    refine ⟨entries, built, ordered.imp Key.before_iff.1, fun key => ?_, fun key value => ?_⟩
    · simp only [ordered.mem_iff, ← Option.isSome_iff_exists, found, isSome_lastValue?_iff]
    · rw [ordered.mem_iff, found, Entries.lastValue?_eq_some_iff]
  · intro first second entries later firstBuilt secondBuilt
    obtain ⟨firstUsable, firstFound⟩ := get?_of_ofPairs firstBuilt
    obtain ⟨secondUsable, secondFound⟩ := get?_of_ofPairs secondBuilt
    obtain ⟨merged, built, _, found⟩ :=
      exists_ofPairs (List.forall_mem_append.2 ⟨firstUsable, secondUsable⟩)
    exact ⟨merged, built, fun key => by
      rw [found, firstFound, secondFound, lastValue?_append]⟩
  · intro pairs others different perm
    have same := ofPairs_perm different perm
    exact ⟨same, congrArg inspect same⟩
  · intro entries inOrder
    have ordered : Ordered entries := inOrder.imp Key.before_iff.2
    exact ofPairs_eq_dictionary_iff.2 (insertPairs_toValue [] ordered)

end Value

end GoldFront
