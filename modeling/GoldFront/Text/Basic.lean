namespace GoldFront

namespace Text

/-- Each range ends before the next one starts. -/
def Ascending : List (Nat × Nat) → Prop
  | [] => True
  | [range] => range.1 ≤ range.2
  | range :: next :: beyond =>
    range.1 ≤ range.2 ∧ range.2 < next.1 ∧ Ascending (next :: beyond)

/-- Whether ranges are in order is found out by comparing neighbours. -/
instance decidableAscending : (ranges : List (Nat × Nat)) → Decidable (Ascending ranges)
  | [] => isTrue trivial
  | [range] => inferInstanceAs (Decidable (range.1 ≤ range.2))
  | range :: next :: beyond =>
    have := decidableAscending (next :: beyond)
    inferInstanceAs
      (Decidable (range.1 ≤ range.2 ∧ range.2 < next.1 ∧ Ascending (next :: beyond)))

/-- Ranges of code points, each given by its first and its last one, in ascending order. -/
structure Ranges where
  list : List (Nat × Nat)
  ascending : Ascending list

/-- Whether some range of a list holds the code point. -/
def holdsFrom : List (Nat × Nat) → Nat → Bool
  | [], _ => false
  | (first, last) :: beyond, point =>
    if point < first then false
    else if point ≤ last then true
    else holdsFrom beyond point

def Ranges.holds (ranges : Ranges) (point : Nat) : Bool := holdsFrom ranges.list point

/-- Every range of an ascending list starts at or after the first one. -/
private theorem first_le_of_mem {range : Nat × Nat} {beyond : List (Nat × Nat)}
    (ascending : Ascending (range :: beyond)) : ∀ other ∈ range :: beyond, range.1 ≤ other.1 := by
  induction beyond generalizing range with
  | nil =>
    intro other member; simp only [List.mem_singleton] at member; exact member ▸ Nat.le_refl _
  | cons next beyond ih =>
    obtain ⟨ordered, apart, tail⟩ := ascending
    intro other member
    rcases List.mem_cons.1 member with same | later
    · exact same ▸ Nat.le_refl _
    · have := ih tail other later
      omega

private theorem holdsFrom_iff {list : List (Nat × Nat)} (ascending : Ascending list) {point : Nat} :
    holdsFrom list point = true ↔ ∃ range ∈ list, range.1 ≤ point ∧ point ≤ range.2 := by
  induction list with
  | nil => simp [holdsFrom]
  | cons range beyond ih =>
    have tail : Ascending beyond := by
      cases beyond with
      | nil => trivial
      | cons next beyond => exact ascending.2.2
    have starts := first_le_of_mem ascending
    unfold holdsFrom
    by_cases before : point < range.1
    · simp only [before, if_true, Bool.false_eq_true, false_iff]
      rintro ⟨other, member, low, _⟩
      have := starts other member
      omega
    · by_cases inside : point ≤ range.2
      · simp only [before, if_false, inside, if_true, true_iff]
        exact ⟨range, List.mem_cons_self, by omega, inside⟩
      · simp only [before, if_false, inside, ih tail, List.mem_cons]
        constructor
        · rintro ⟨other, member, bounds⟩
          exact ⟨other, Or.inr member, bounds⟩
        · rintro ⟨other, rfl | member, low, high⟩
          · exact absurd high inside
          · exact ⟨other, member, low, high⟩

/-- The early stop loses nothing. -/
theorem Ranges.holds_iff (ranges : Ranges) {point : Nat} :
    ranges.holds point = true ↔ ∃ range ∈ ranges.list, range.1 ≤ point ∧ point ≤ range.2 :=
  holdsFrom_iff ranges.ascending

/-- The code points with the property `White_Space`. -/
def blankRanges : Ranges := ⟨[
  (0x9, 0xd), (0x20, 0x20), (0x85, 0x85), (0xa0, 0xa0), (0x1680, 0x1680), (0x2000, 0x200a),
  (0x2028, 0x2029), (0x202f, 0x202f), (0x205f, 0x205f), (0x3000, 0x3000)],
  by decide⟩

def isBlank (c : Char) : Bool := blankRanges.holds c.toNat

/-- There is no blank between the space and the controls beyond ASCII. -/
theorem toNat_of_isBlank {c : Char} (blank : isBlank c = true) : c.toNat ≤ 0x20 ∨ 0x85 ≤ c.toNat := by
  have apart : ∀ range ∈ blankRanges.list, range.2 ≤ 0x20 ∨ 0x85 ≤ range.1 := by decide
  obtain ⟨range, member, low, high⟩ := blankRanges.holds_iff.1 blank
  have := apart range member
  omega

/-- The text without the blanks at its start. -/
def trimStart (text : List Char) : List Char := text.dropWhile isBlank

/-- The text without the blanks at its end. -/
def trimEnd (text : List Char) : List Char := (text.reverse.dropWhile isBlank).reverse

def trim (text : List Char) : List Char := trimEnd (trimStart text)

/-- The text that bytes stand for in UTF-8. -/
def decode? (bytes : List UInt8) : Option String := String.fromUTF8? ⟨bytes.toArray⟩

/-- The lines of an input, each with the line feed that ends it. -/
def byteLines : List UInt8 → List (List UInt8)
  | [] => []
  | byte :: rest =>
    if byte = 10 then [byte] :: byteLines rest
    else
      match byteLines rest with
      | [] => [[byte]]
      | line :: lines => (byte :: line) :: lines

/-- The bytes that a text takes in UTF-8. -/
def byteSize : List Char → Nat
  | [] => 0
  | c :: rest => c.utf8Size + byteSize rest

@[simp] theorem byteSize_nil : byteSize [] = 0 := rfl

@[simp] theorem byteSize_cons (c : Char) (text : List Char) :
    byteSize (c :: text) = c.utf8Size + byteSize text := rfl

@[simp] theorem byteSize_append (before after : List Char) :
    byteSize (before ++ after) = byteSize before + byteSize after := by
  induction before with
  | nil => simp
  | cons c before ih => simp only [List.cons_append, byteSize_cons, ih]; omega

/-- The characters before a byte offset, if it lies between two characters or at an end. -/
def charsBefore? : List Char → Nat → Option Nat
  | _, 0 => some 0
  | [], _ + 1 => none
  | c :: rest, offset + 1 =>
    if c.utf8Size ≤ offset + 1 then (charsBefore? rest (offset + 1 - c.utf8Size)).map (· + 1)
    else none

/-- The offset of the characters before a byte offset, or the byte offset where there is none. -/
def charOffset (source : List Char) (offset : Nat) : Nat :=
  (charsBefore? source offset).getD offset

/-- The bytes of a text's start are its characters. -/
theorem charsBefore?_append (before after : List Char) :
    charsBefore? (before ++ after) (byteSize before) = some before.length := by
  induction before with
  | nil => cases after <;> rfl
  | cons c before ih =>
    have size : byteSize (c :: before) = (c.utf8Size - 1 + byteSize before) + 1 := by
      have := c.utf8Size_pos
      rw [byteSize_cons]; omega
    have first : c.utf8Size ≤ (c.utf8Size - 1 + byteSize before) + 1 := by omega
    have left : (c.utf8Size - 1 + byteSize before) + 1 - c.utf8Size = byteSize before := by
      have := c.utf8Size_pos
      omega
    rw [size, List.cons_append, charsBefore?, if_pos first, left, ih]
    rfl

end Text

/-- A range of byte offsets into a source text. -/
structure Span where
  /-- The offset of the first byte. -/
  start : Nat
  /-- The offset after the last byte. -/
  stop : Nat
deriving DecidableEq, Repr

/-- A range of character offsets into a source text. -/
structure CharRange where
  /-- The offset of the first character. -/
  start : Nat
  /-- The offset after the last character. -/
  stop : Nat
deriving DecidableEq, Repr

namespace Span

/-- The span without bytes at an offset. -/
def empty (offset : Nat) : Span := ⟨offset, offset⟩

def charRange (span : Span) (source : List Char) : CharRange :=
  ⟨Text.charOffset source span.start, Text.charOffset source span.stop⟩

end Span

end GoldFront
