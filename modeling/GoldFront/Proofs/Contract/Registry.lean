import Mathlib.Data.List.Nodup
import GoldFront.Contract.Registry

namespace GoldFront

def StandsAt (entries : List Entry) (name : String) (place : Nat) : Prop :=
  entries[place]?.map Entry.name = some name

/-- A name stands at a place and before it. -/
def RepeatsAt (entries : List Entry) (name : String) (place : Nat) : Prop :=
  StandsAt entries name place ∧ ∃ earlier < place, StandsAt entries name earlier

/-- No name repeats an earlier one before this one does. -/
def FirstRepeat (entries : List Entry) (name : String) : Prop :=
  ∃ place, RepeatsAt entries name place ∧
    ∀ earlier < place, ∀ other, ¬ RepeatsAt entries other earlier

variable {entries more : List Entry} {name other : String} {place : Nat}

theorem standsAt_iff : StandsAt entries name place ↔
    ∃ entry, entries[place]? = some entry ∧ entry.name = name :=
  Option.map_eq_some_iff

theorem StandsAt.lt (stands : StandsAt entries name place) : place < entries.length := by
  obtain ⟨entry, found, _⟩ := standsAt_iff.1 stands
  exact (List.getElem?_eq_some_iff.1 found).1

theorem StandsAt.unique (stands : StandsAt entries name place)
    (also : StandsAt entries other place) : name = other := by
  rw [StandsAt] at stands also
  rw [stands] at also
  exact Option.some.inj also

theorem standsAt_append_iff (inside : place < entries.length) :
    StandsAt (entries ++ more) name place ↔ StandsAt entries name place := by
  rw [StandsAt, StandsAt, List.getElem?_append_left inside]

theorem repeatsAt_append_iff (inside : place < entries.length) :
    RepeatsAt (entries ++ more) name place ↔ RepeatsAt entries name place := by
  refine and_congr (standsAt_append_iff inside) (exists_congr fun earlier => ?_)
  refine and_congr_right fun less => ?_
  exact standsAt_append_iff (by omega)

theorem FirstRepeat.unique (first : FirstRepeat entries name) (also : FirstRepeat entries other) :
    name = other := by
  obtain ⟨place, repeats, least⟩ := first
  obtain ⟨second, otherRepeats, otherLeast⟩ := also
  rcases Nat.lt_trichotomy place second with before | rfl | behind
  · exact absurd repeats (otherLeast place before name)
  · exact repeats.1.unique otherRepeats.1
  · exact absurd otherRepeats (least second behind other)

/-- Names are different where none repeats an earlier one. -/
theorem nodup_names_iff :
    (entries.map Entry.name).Nodup ↔ ∀ name place, ¬ RepeatsAt entries name place := by
  rw [List.nodup_iff_getElem?_ne_getElem?]
  constructor
  · rintro different name place ⟨stands, earlier, less, standsEarlier⟩
    have inside : place < (entries.map Entry.name).length := by
      rw [List.length_map]
      exact stands.lt
    refine different earlier place less inside ?_
    rw [List.getElem?_map, List.getElem?_map]
    exact standsEarlier.trans stands.symm
  · intro noRepeat earlier place less inside same
    rw [List.length_map] at inside
    have stands : StandsAt entries entries[place].name place := by
      rw [StandsAt, List.getElem?_eq_getElem inside, Option.map_some]
    refine noRepeat entries[place].name place ⟨stands, earlier, less, ?_⟩
    rw [List.getElem?_map, List.getElem?_map] at same
    exact same.trans stands

namespace Places

variable {places : Places}

/-- An index has one place for a name, so no name repeats an earlier one in what is indexed. -/
theorem Indexes.not_repeatsAt (indexes : places.Indexes entries) :
    ¬ RepeatsAt entries name place := by
  rintro ⟨stands, earlier, less, standsEarlier⟩
  have here := (indexes name place).2 stands
  have there := (indexes name earlier).2 standsEarlier
  rw [here] at there
  have equal := Option.some.inj there
  omega

/-- Registering stops at the first builtin whose name is indexed already. -/
theorem Indexes.firstRepeat (indexes : places.Indexes entries) {duplicate : Registry.Duplicate}
    (stopped : places.register entries.length more = .error duplicate) :
    FirstRepeat (entries ++ more) duplicate.name := by
  induction more generalizing places entries with
  | nil => cases stopped
  | cons entry more ih =>
    unfold Places.register at stopped
    split at stopped
    · next earlier taken =>
      cases stopped
      have before : StandsAt entries entry.name earlier := (indexes entry.name earlier).1 taken
      have here : StandsAt (entries ++ entry :: more) entry.name entries.length := by
        simp [StandsAt]
      refine ⟨entries.length, ⟨here, earlier, before.lt, ?_⟩, ?_⟩
      · exact (standsAt_append_iff before.lt).2 before
      · intro place inside other
        rw [repeatsAt_append_iff inside]
        exact indexes.not_repeatsAt
    · next new =>
      have size : entries.length + 1 = (entries ++ [entry]).length := by simp
      rw [size] at stopped
      have later := ih (indexes.concat new) stopped
      rwa [List.append_assoc] at later

end Places

namespace Registry

variable {registry : Registry} {entry : Entry}

theorem entries_of_ofList (made : ofList entries = .ok registry) : registry.entries = entries := by
  unfold ofList at made
  split at made
  · cases made
  · cases made
    rfl

theorem firstRepeat_of_ofList {duplicate : Duplicate} (refused : ofList entries = .error duplicate) :
    FirstRepeat entries duplicate.name := by
  unfold ofList at refused
  split at refused
  · next stopped =>
    cases refused
    exact Places.indexes_nil.firstRepeat stopped
  · cases refused

theorem ofList_eq_error_iff {duplicate : Duplicate} :
    ofList entries = .error duplicate ↔ FirstRepeat entries duplicate.name := by
  constructor
  · exact firstRepeat_of_ofList
  · intro first
    cases made : ofList entries with
    | ok registry =>
      obtain ⟨place, repeats, _⟩ := first
      rw [← entries_of_ofList made] at repeats
      exact absurd repeats registry.indexes.not_repeatsAt
    | error other =>
      have same := (firstRepeat_of_ofList made).unique first
      cases other
      cases same
      rfl

theorem exists_ofList_iff :
    (∃ registry, ofList entries = .ok registry) ↔ (entries.map Entry.name).Nodup := by
  rw [nodup_names_iff]
  constructor
  · rintro ⟨registry, made⟩ name place
    rw [← entries_of_ofList made]
    exact registry.indexes.not_repeatsAt
  · intro different
    cases made : ofList entries with
    | ok registry => exact ⟨registry, rfl⟩
    | error duplicate =>
      obtain ⟨place, repeats, _⟩ := firstRepeat_of_ofList made
      exact absurd repeats (different _ place)

theorem find?_eq_bind (registry : Registry) (name : String) : registry.find? name =
    (registry.places.lookup name).bind fun place => registry.entries[place]? := by
  unfold find?
  split
  · next place found =>
    have inside := lt_of_lookup found
    simp [found, List.getElem?_eq_getElem inside]
  · next missing => simp [missing]

/-- The index leads to the place where a name stands. -/
theorem find?_eq_some_iff_getElem? : registry.find? name = some entry ↔
    ∃ place : Nat, registry.entries[place]? = some entry ∧ entry.name = name := by
  rw [find?_eq_bind, Option.bind_eq_some_iff]
  refine exists_congr fun place => ?_
  rw [registry.indexes name place]
  constructor
  · rintro ⟨named, found⟩
    rw [found] at named
    exact ⟨found, Option.some.inj named⟩
  · rintro ⟨found, rfl⟩
    exact ⟨by rw [found]; rfl, found⟩

theorem find?_eq_some_iff :
    registry.find? name = some entry ↔ entry ∈ registry.entries ∧ entry.name = name := by
  rw [find?_eq_some_iff_getElem?, exists_and_right, List.mem_iff_getElem?]

theorem find?_eq_none_iff :
    registry.find? name = none ↔ ∀ entry ∈ registry.entries, entry.name ≠ name := by
  rw [Option.eq_none_iff_forall_ne_some]
  refine forall_congr' fun entry => ?_
  rw [Ne, find?_eq_some_iff, not_and]

theorem call?_of_mem (registered : entry ∈ registry.entries) (arguments : List Value) :
    registry.call? entry.name arguments = some (entry.call arguments) := by
  rw [call?, find?_eq_some_iff.2 ⟨registered, rfl⟩, Option.map_some]

/-- A name stands at one place at most. -/
theorem place_unique {second : Nat} (stands : StandsAt registry.entries name place)
    (also : StandsAt registry.entries name second) : place = second := by
  have here := (registry.indexes name place).2 stands
  have there := (registry.indexes name second).2 also
  rw [here] at there
  exact Option.some.inj there

/-- A list of builtins makes a registry unless a name repeats an earlier one, and the first that
    does is blamed. The registry keeps the builtins in order, finds each of them by its name, which
    stands nowhere else, and calls what it finds. -/
theorem ofList_finds (entries : List Entry) :
    ((∃ registry, ofList entries = .ok registry) ↔ (entries.map Entry.name).Nodup) ∧
    (∀ duplicate, ofList entries = .error duplicate ↔ ∃ place,
      RepeatsAt entries duplicate.name place ∧
      ∀ earlier < place, ∀ other, ¬ RepeatsAt entries other earlier) ∧
    (∀ duplicate : Duplicate,
      duplicate.message = "builtin `" ++ duplicate.name ++ "` registered twice") ∧
    ∀ registry, ofList entries = .ok registry →
      registry.entries = entries ∧ registry.names = entries.map Entry.name ∧
      registry.size = entries.length ∧
      (∀ name entry, registry.find? name = some entry ↔ ∃ place : Nat, entries[place]? = some entry ∧
        entry.name = name ∧ ∀ other, StandsAt entries name other → other = place) ∧
      (∀ name, registry.find? name = none ↔ ∀ entry ∈ entries, entry.name ≠ name) ∧
      (∀ entry ∈ entries, ∀ arguments,
        registry.call? entry.name arguments = some (entry.call arguments)) ∧
      ∀ name, (∀ entry ∈ entries, entry.name ≠ name) → ∀ arguments,
        registry.call? name arguments = none := by
  refine ⟨exists_ofList_iff, fun duplicate => ofList_eq_error_iff, fun _ => rfl,
    fun registry made => ?_⟩
  obtain rfl := entries_of_ofList made
  refine ⟨rfl, rfl, rfl, fun name entry => ?_, fun name => find?_eq_none_iff,
    fun entry registered => call?_of_mem registered, fun name absent arguments => ?_⟩
  · rw [find?_eq_some_iff_getElem?]
    refine exists_congr fun place => and_congr_right fun found => ?_
    refine (and_iff_left_of_imp fun named other stands => ?_).symm
    exact place_unique stands (standsAt_iff.2 ⟨entry, found, named⟩)
  · rw [call?, find?_eq_none_iff.2 absent, Option.map_none]

end Registry

end GoldFront
