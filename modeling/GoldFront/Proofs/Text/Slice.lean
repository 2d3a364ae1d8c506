import Mathlib.Tactic.SplitIfs
import GoldFront.Text.Basic

namespace GoldFront.Text

/-- The bytes of a text in UTF-8. -/
def encode (text : String) : List UInt8 := text.toByteArray.data.toList

theorem encode_eq_flatMap (text : String) :
    encode text = text.toList.flatMap String.utf8EncodeChar := by
  rw [encode, ← String.utf8Encode_toList, List.utf8Encode,
    List.toList_data_toByteArray]

theorem decode?_eq_some_iff {bytes : List UInt8} {text : String} :
    decode? bytes = some text ↔ bytes = encode text := by
  unfold decode? encode String.fromUTF8?
  split
  · next valid =>
    rw [Option.some.injEq, ← String.toByteArray_inj]
    constructor
    · intro same
      rw [← same]
      rfl
    · rintro rfl
      rfl
  · next invalid =>
    refine iff_of_false (by simp) ?_
    rintro rfl
    exact invalid text.isValidUTF8

theorem decode?_eq_none_iff {bytes : List UInt8} :
    decode? bytes = none ↔ ∀ text, bytes ≠ encode text := by
  rw [Option.eq_none_iff_forall_ne_some]
  exact forall_congr' fun text => not_congr decode?_eq_some_iff

theorem encode_inj {text other : String} : encode text = encode other ↔ text = other := by
  rw [← decode?_eq_some_iff, decode?_eq_some_iff.2 rfl, Option.some.injEq]

/-- A smaller character makes smaller bytes, whatever comes behind: they differ within the shorter
    ones, since the first byte tells the number of bytes. -/
theorem utf8EncodeChar_append_lt {c d : Char} (less : c < d) (behind beyond : List UInt8) :
    String.utf8EncodeChar c ++ behind < String.utf8EncodeChar d ++ beyond := by
  have smaller : c.val.toNat < d.val.toNat := UInt32.lt_iff_toNat_lt.1 less
  have bound : d.val.toNat < 0x110000 := by rcases d.valid with low | high <;> omega
  unfold String.utf8EncodeChar
  generalize c.val.toNat = m at smaller
  generalize d.val.toNat = n at smaller bound
  dsimp only
  split_ifs <;>
    simp only [List.cons_append, List.nil_append, List.cons_lt_cons_iff, UInt8.lt_iff_toNat_lt,
      ← UInt8.toNat_inj, UInt8.toNat_ofNat'] <;>
    simp (disch := omega) only [Nat.mod_eq_of_lt] <;>
    omega

theorem flatMap_utf8EncodeChar_lt {text other : List Char} (less : text < other) :
    text.flatMap String.utf8EncodeChar < other.flatMap String.utf8EncodeChar := by
  induction text generalizing other with
  | nil =>
    cases other with
    | nil => exact absurd less (List.not_lt_nil _)
    | cons d other =>
      obtain ⟨byte, bytes, encoded⟩ :=
        List.exists_cons_of_ne_nil (@String.utf8EncodeChar_ne_nil d)
      rw [List.flatMap_cons, encoded]
      exact List.nil_lt_cons _ _
  | cons c text ih =>
    cases other with
    | nil => exact absurd less (List.not_lt_nil _)
    | cons d other =>
      rw [List.flatMap_cons, List.flatMap_cons]
      rcases List.cons_lt_cons_iff.1 less with smaller | ⟨rfl, later⟩
      · exact utf8EncodeChar_append_lt smaller _ _
      · exact List.append_left_lt (ih later)

theorem encode_lt_encode {text other : String} (less : text.toList < other.toList) :
    encode text < encode other := by
  rw [encode_eq_flatMap, encode_eq_flatMap]
  exact flatMap_utf8EncodeChar_lt less

theorem encode_lt_encode_iff {text other : String} :
    encode text < encode other ↔ text.toList < other.toList := by
  refine ⟨fun less => ?_, encode_lt_encode⟩
  by_cases smaller : text < other
  · exact smaller
  · by_cases greater : other < text
    · exact absurd less (List.lt_asymm (encode_lt_encode greater))
    · obtain rfl := String.le_antisymm (String.not_lt.1 greater) (String.not_lt.1 smaller)
      exact absurd less (List.lt_irrefl _)

/-- The characters between two byte offsets, if these lie between characters and in order. -/
def slice? (text : List Char) (span : Span) : Option (List Char) :=
  match charsBefore? text span.start, charsBefore? text span.stop with
  | some first, some last => if first ≤ last then some ((text.take last).drop first) else none
  | _, _ => none

theorem length_le_byteSize (text : List Char) : text.length ≤ byteSize text := by
  induction text with
  | nil => simp
  | cons c text ih =>
    have := c.utf8Size_pos
    rw [List.length_cons, byteSize_cons]
    omega

theorem byteSize_pos {text : List Char} (some : text ≠ []) : 0 < byteSize text :=
  Nat.lt_of_lt_of_le (List.length_pos_iff.2 some) (length_le_byteSize text)

theorem eq_nil_of_byteSize {text : List Char} (none : byteSize text = 0) : text = [] := by
  have := length_le_byteSize text
  exact List.eq_nil_of_length_eq_zero (by omega)

theorem byteSize_toList (source : String) : byteSize source.toList = source.utf8ByteSize := by
  obtain ⟨text, rfl⟩ := source.exists_eq_ofList
  rw [String.toList_ofList, ← String.size_toByteArray, String.toByteArray_ofList]
  induction text with
  | nil => rfl
  | cons c text ih =>
    rw [byteSize_cons, ih, List.utf8Encode_cons, ByteArray.size_append, List.utf8Encode_singleton]
    simp

theorem byteSize_append_append (before gap text : List Char) :
    byteSize before + byteSize gap + byteSize text = byteSize (before ++ (gap ++ text)) := by
  rw [byteSize_append, byteSize_append, Nat.add_assoc]

/-- Characters are counted before an offset only if the offset is the size of a start of the text. -/
theorem charsBefore?_eq_some_iff {text : List Char} {offset count : Nat} :
    charsBefore? text offset = some count ↔
      ∃ before after, text = before ++ after ∧ offset = byteSize before ∧ count = before.length := by
  constructor
  · intro counted
    fun_induction charsBefore? text offset generalizing count with
    | case1 text => exact ⟨[], text, rfl, rfl, by simpa using counted.symm⟩
    | case2 => simp at counted
    | case3 c rest offset fits ih =>
      obtain ⟨fewer, found, rfl⟩ := Option.map_eq_some_iff.1 counted
      obtain ⟨before, after, rfl, size, rfl⟩ := ih found
      exact ⟨c :: before, after, rfl, by rw [byteSize_cons]; omega, rfl⟩
    | case4 => simp at counted
  · rintro ⟨before, after, rfl, rfl, rfl⟩
    exact charsBefore?_append before after

/-- Characters are counted before exactly the valid positions of a string. -/
theorem isSome_charsBefore?_iff (source : String) (offset : Nat) :
    (charsBefore? source.toList offset).isSome ↔ (String.Pos.Raw.mk offset).IsValid source := by
  rw [Option.isSome_iff_exists, String.Pos.Raw.isValid_iff_exists_append]
  constructor
  · rintro ⟨count, counted⟩
    obtain ⟨before, after, whole, rfl, rfl⟩ := charsBefore?_eq_some_iff.1 counted
    refine ⟨String.ofList before, String.ofList after, ?_, ?_⟩
    · rw [← String.ofList_append, ← whole, String.ofList_toList]
    · have size := byteSize_toList (String.ofList before)
      rw [String.toList_ofList] at size
      exact String.Pos.Raw.ext size
  · rintro ⟨before, after, rfl, position⟩
    have offset : offset = before.utf8ByteSize := congrArg String.Pos.Raw.byteIdx position
    refine ⟨before.toList.length, charsBefore?_eq_some_iff.2 ⟨before.toList, after.toList, ?_⟩⟩
    exact ⟨String.toList_append, by rw [offset, byteSize_toList], rfl⟩

theorem isValid_byteSize {source : String} {before after : List Char}
    (whole : source.toList = before ++ after) :
    (String.Pos.Raw.mk (byteSize before)).IsValid source := by
  rw [← isSome_charsBefore?_iff, whole, charsBefore?_append]
  rfl

private theorem eq_append_of_length_le {before after first rest : List Char}
    (same : before ++ after = first ++ rest) (le : first.length ≤ before.length) :
    ∃ part, before = first ++ part ∧ rest = part ++ after := by
  obtain ⟨part, rfl, rfl⟩ | ⟨part, rfl, rfl⟩ := List.append_eq_append_iff.1 same
  · rw [List.length_append] at le
    have none : part = [] := List.eq_nil_of_length_eq_zero (by omega)
    exact ⟨[], by simp [none], by simp [none]⟩
  · exact ⟨part, rfl, rfl⟩

/-- A slice is what is left between a start and an end of the text of the sizes given. -/
theorem slice?_eq_some_iff {text part : List Char} {span : Span} :
    slice? text span = some part ↔ ∃ before after, text = before ++ (part ++ after) ∧
      span.start = byteSize before ∧ span.stop = byteSize before + byteSize part := by
  constructor
  · intro sliced
    unfold slice? at sliced
    split at sliced
    · next first last counted₁ counted₂ =>
      obtain ⟨before, after₁, rfl, start, rfl⟩ := charsBefore?_eq_some_iff.1 counted₁
      obtain ⟨until_, after, same, stop, rfl⟩ := charsBefore?_eq_some_iff.1 counted₂
      by_cases le : before.length ≤ until_.length
      · obtain ⟨between, rfl, rfl⟩ := eq_append_of_length_le same.symm le
        rw [if_pos le, ← List.append_assoc, List.take_left, List.drop_left] at sliced
        cases sliced
        exact ⟨before, after, rfl, start, by rw [stop, byteSize_append]⟩
      · simp [le] at sliced
    · simp at sliced
  · rintro ⟨before, after, rfl, start, stop⟩
    have counted := charsBefore?_append (before ++ part) after
    rw [byteSize_append, List.append_assoc] at counted
    have le : before.length ≤ (before ++ part).length := by simp
    simp only [slice?, start, stop, charsBefore?_append, counted, if_pos le]
    rw [← List.append_assoc, List.take_left, List.drop_left]

theorem slice?_append (before part after : List Char) :
    slice? (before ++ (part ++ after)) ⟨byteSize before, byteSize before + byteSize part⟩ =
      some part :=
  slice?_eq_some_iff.2 ⟨before, after, rfl, rfl, rfl⟩

theorem slice?_behind (before : List Char) (c : Char) (rest : List Char) :
    slice? (before ++ c :: rest) ⟨byteSize before + c.utf8Size, byteSize (before ++ c :: rest)⟩ =
      some rest := by
  refine slice?_eq_some_iff.2 ⟨before ++ [c], [], by simp, by simp, ?_⟩
  simp [Nat.add_assoc]

end GoldFront.Text
