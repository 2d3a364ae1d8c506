import Mathlib.Algebra.Order.Ring.Nat
import Mathlib.Data.Rat.Cast.Order
import Mathlib.Tactic.FieldSimp
import Mathlib.Tactic.NormNum
import Mathlib.Tactic.Ring
import GoldFront.Binary64.Basic
import GoldFront.Value.Dictionary

namespace GoldFront

namespace Binary64

variable {x y : Binary64}

theorem fraction_lt (x : Binary64) : x.fraction < 2 ^ 52 :=
  Nat.mod_lt _ (Nat.two_pow_pos 52)

theorem exponent_le (x : Binary64) : x.exponent ≤ 2047 :=
  Nat.le_of_lt_succ (Nat.mod_lt _ (Nat.two_pow_pos 11))

theorem isNegative_iff : x.isNegative ↔ 2 ^ 63 ≤ x.bits.toNat := decide_eq_true_iff

theorem eq_of_fields (sign : x.isNegative ↔ y.isNegative) (exponent : x.exponent = y.exponent)
    (fraction : x.fraction = y.fraction) : x = y := by
  have same : x.bits.toNat = y.bits.toNat := by
    rw [isNegative_iff, isNegative_iff] at sign
    simp only [Binary64.exponent, Binary64.fraction, Nat.pow_eq] at exponent fraction
    have := x.bits.toNat_lt
    have := y.bits.toNat_lt
    omega
  exact congrArg mk (UInt64.toNat_inj.1 same)

theorem isNaN_iff : x.isNaN ↔ x.exponent = 2047 ∧ x.fraction ≠ 0 := by
  simp [isNaN]

theorem isFinite_iff : x.isFinite ↔ x.exponent < 2047 := by
  have := x.exponent_le
  simp only [isFinite, bne_iff_ne]
  omega

theorem magnitude_of_zero (least : x.exponent = 0) : x.magnitude = x.fraction := by
  simp [magnitude, significand, spacing, least]

theorem magnitude_of_pos (larger : 0 < x.exponent) :
    x.magnitude = (2 ^ 52 + x.fraction) * 2 ^ (x.exponent - 1) := by
  have most : max x.exponent 1 = x.exponent := max_eq_left larger
  simp [magnitude, significand, spacing, larger.ne', most]

theorem magnitude_lt (x : Binary64) : x.magnitude < 2 ^ (52 + x.exponent) := by
  have small := x.fraction_lt
  by_cases least : x.exponent = 0
  · rwa [magnitude_of_zero least, least]
  · obtain ⟨e, exponent⟩ := Nat.exists_eq_add_one_of_ne_zero least
    have twice : 2 ^ (52 + (e + 1)) = (2 ^ 52 + 2 ^ 52) * 2 ^ e := by ring
    rw [magnitude_of_pos (by omega), exponent, Nat.add_sub_cancel, twice]
    exact Nat.mul_lt_mul_of_pos_right (by omega) (Nat.two_pow_pos e)

theorem le_magnitude (larger : 0 < x.exponent) : 2 ^ (51 + x.exponent) ≤ x.magnitude := by
  obtain ⟨e, exponent⟩ := Nat.exists_eq_add_one_of_ne_zero larger.ne'
  have once : 2 ^ (51 + (e + 1)) = 2 ^ 52 * 2 ^ e := by ring
  rw [magnitude_of_pos larger, exponent, Nat.add_sub_cancel, once]
  exact Nat.mul_le_mul_right _ (Nat.le_add_right _ _)

/-- A larger exponent makes a larger magnitude, whatever the fractions. -/
theorem magnitude_lt_of_exponent (less : x.exponent < y.exponent) : x.magnitude < y.magnitude :=
  calc
    x.magnitude < 2 ^ (52 + x.exponent) := x.magnitude_lt
    _ ≤ 2 ^ (51 + y.exponent) := Nat.pow_le_pow_right (by decide) (by omega)
    _ ≤ y.magnitude := le_magnitude (by omega)

theorem exponent_eq_of_magnitude (same : x.magnitude = y.magnitude) : x.exponent = y.exponent := by
  rcases Nat.lt_trichotomy x.exponent y.exponent with less | equal | more
  · exact absurd same (magnitude_lt_of_exponent less).ne
  · exact equal
  · exact absurd same (magnitude_lt_of_exponent more).ne'

theorem fraction_eq_of_magnitude (same : x.magnitude = y.magnitude) : x.fraction = y.fraction := by
  have exponent := exponent_eq_of_magnitude same
  by_cases least : x.exponent = 0
  · rwa [magnitude_of_zero least, magnitude_of_zero (exponent ▸ least)] at same
  · rw [magnitude_of_pos (by omega), magnitude_of_pos (by omega), exponent] at same
    have := Nat.eq_of_mul_eq_mul_right (Nat.two_pow_pos _) same
    omega

theorem eq_of_magnitude (sign : x.isNegative ↔ y.isNegative) (same : x.magnitude = y.magnitude) :
    x = y :=
  eq_of_fields sign (exponent_eq_of_magnitude same) (fraction_eq_of_magnitude same)

theorem isZero_iff : x.isZero ↔ x.magnitude = 0 := by
  by_cases least : x.exponent = 0
  · simp [isZero, least, magnitude_of_zero]
  · have := le_magnitude (Nat.pos_of_ne_zero least)
    have := Nat.two_pow_pos (51 + x.exponent)
    simp only [isZero, least, beq_iff_eq, Bool.and_eq_true, false_and, false_iff]
    omega

/-- The number of units that a value stands for. -/
def units? (x : Binary64) : Option Int :=
  if x.isNaN then none else some x.signed

theorem units?_eq_none_iff : x.units? = none ↔ x.isNaN := by
  simp [units?]

theorem units?_eq_some_iff {units : Int} : x.units? = some units ↔
    ¬ x.isNaN ∧ x.magnitude = units.natAbs ∧ (units ≠ 0 → (x.isNegative ↔ units < 0)) := by
  unfold units? signed
  by_cases nan : x.isNaN
  · simp [nan]
  · by_cases negative : x.isNegative
    · simp only [nan, negative, if_true, Bool.false_eq_true, if_false, Option.some.injEq]
      simp only [not_false_eq_true, true_and, true_iff]
      omega
    · simp only [nan, negative, Bool.false_eq_true, if_false, Option.some.injEq]
      simp only [not_false_eq_true, true_and, false_iff]
      omega

theorem equal_iff : x.equal y ↔ ¬ x.isNaN ∧ ¬ y.isNaN ∧ (x = y ∨ x.isZero ∧ y.isZero) := by
  have bits : x.bits = y.bits ↔ x = y := ⟨congrArg mk, congrArg Binary64.bits⟩
  simp [equal, bits, and_assoc]

/-- Values are equal where they are the same number of units. -/
theorem equal_iff_units : x.equal y ↔ ∃ units, x.units? = some units ∧ y.units? = some units := by
  rw [equal_iff]
  constructor
  · rintro ⟨number, other, rfl | ⟨zero, otherZero⟩⟩
    · obtain ⟨units, found⟩ := Option.ne_none_iff_exists'.1 (mt units?_eq_none_iff.1 number)
      exact ⟨units, found, found⟩
    · rw [isZero_iff] at zero otherZero
      exact ⟨0, units?_eq_some_iff.2 ⟨number, by simpa using zero, by simp⟩,
        units?_eq_some_iff.2 ⟨other, by simpa using otherZero, by simp⟩⟩
  · rintro ⟨units, found, otherFound⟩
    obtain ⟨number, magnitude, sign⟩ := units?_eq_some_iff.1 found
    obtain ⟨other, otherMagnitude, otherSign⟩ := units?_eq_some_iff.1 otherFound
    refine ⟨number, other, ?_⟩
    by_cases zero : units = 0
    · simp only [zero, Int.natAbs_zero] at magnitude otherMagnitude
      exact .inr ⟨isZero_iff.2 magnitude, isZero_iff.2 otherMagnitude⟩
    · exact .inl (eq_of_magnitude ((sign zero).trans (otherSign zero).symm)
        (magnitude.trans otherMagnitude.symm))

theorem one_eq : one = 2 ^ 1074 := @Nat.pow_eq 2 1074

theorem one_pos : 0 < one := by
  rw [one_eq]
  exact Nat.two_pow_pos 1074

theorem isFinite_of_magnitude_lt (moderate : x.magnitude < 2 ^ (51 + 2047)) : x.isFinite := by
  rw [isFinite_iff]
  by_contra infinite
  have exponent : x.exponent = 2047 := by
    have := x.exponent_le
    omega
  have large := le_magnitude (x := x) (by omega)
  rw [exponent] at large
  exact absurd large (Nat.not_le.2 moderate)

theorem not_isNaN_of_isFinite (finite : x.isFinite) : ¬ x.isNaN := by
  rw [isFinite_iff] at finite
  rw [isNaN_iff]
  omega

/-- The number of units that a whole number stands for. -/
def unitsOf (number : Int) : Int := number * one

theorem one_ne_zero : (one : Int) ≠ 0 := (Int.ofNat_lt.2 one_pos).ne'

theorem unitsOf_inj {m n : Int} : unitsOf m = unitsOf n ↔ m = n :=
  Int.mul_eq_mul_right_iff one_ne_zero

theorem unitsOf_le_iff {m n : Int} : unitsOf m ≤ unitsOf n ↔ m ≤ n :=
  Int.mul_le_mul_right (Int.ofNat_lt.2 one_pos)

theorem unitsOf_lt_iff {m n : Int} : unitsOf m < unitsOf n ↔ m < n := by
  rw [← Int.not_le, ← Int.not_le, unitsOf_le_iff]

theorem natAbs_signed (x : Binary64) : x.signed.natAbs = x.magnitude := by
  unfold signed
  split
  · exact (Int.natAbs_neg _).trans (Int.natAbs_natCast _)
  · exact Int.natAbs_natCast _

theorem isZero_iff_signed : x.isZero ↔ x.signed = 0 := by
  rw [isZero_iff, ← natAbs_signed, Int.natAbs_eq_zero]

theorem hasNoFraction_iff : x.hasNoFraction ↔ x.isFinite ∧ ∃ number, x.signed = unitsOf number := by
  have whole : x.isWhole ↔ (one : Int) ∣ x.signed := by
    rw [Int.natCast_dvd, natAbs_signed, Nat.dvd_iff_mod_eq_zero]
    exact beq_iff_eq
  rw [hasNoFraction, Bool.and_eq_true, whole, dvd_iff_exists_eq_mul_left]
  rfl

theorem signed_leastInt64 : leastInt64.signed = unitsOf (-2 ^ 63) := by decide +kernel

theorem signed_pastInt64 : pastInt64.signed = unitsOf (2 ^ 63) := by decide +kernel

theorem leastInt64_atMost_iff {number : Int} (finite : x.isFinite)
    (units : x.signed = unitsOf number) : leastInt64.atMost x ↔ -2 ^ 63 ≤ number := by
  have least : leastInt64.isNaN = false := by decide
  simp [atMost, least, not_isNaN_of_isFinite finite, signed_leastInt64, units, unitsOf_le_iff]

theorem below_pastInt64_iff {number : Int} (finite : x.isFinite)
    (units : x.signed = unitsOf number) : x.below pastInt64 ↔ number < 2 ^ 63 := by
  have past : pastInt64.isNaN = false := by decide
  simp [below, past, not_isNaN_of_isFinite finite, signed_pastInt64, units, unitsOf_lt_iff]

theorem toInt64_eq_ofIntClamp {number : Int} (finite : x.isFinite)
    (units : x.signed = unitsOf number) : x.toInt64 = Int64.ofIntClamp number := by
  have count : x.signed.tdiv one = number := by
    rw [units]
    exact Int.mul_tdiv_cancel _ one_ne_zero
  rw [toInt64, if_neg (not_isNaN_of_isFinite finite), count]

theorem ofIntClamp_eq_iff {m : Int} {n : Int64} (least : -2 ^ 63 ≤ m) (past : m < 2 ^ 63) :
    Int64.ofIntClamp m = n ↔ m = n.toInt := by
  rw [← Int64.toInt_inj, Int64.toInt_ofIntClamp least (Int.le_of_lt_add_one past)]

/-- The comparisons keep the nearest number of `toInt64` from being taken for the value itself. -/
theorem equalsInt64_iff {number : Int64} :
    x.equalsInt64 number ↔ x.isFinite ∧ x.signed = unitsOf number.toInt := by
  have above := number.le_toInt
  have under := number.toInt_lt
  simp only [equalsInt64, Bool.and_eq_true, and_assoc, hasNoFraction_iff, beq_iff_eq]
  constructor
  · rintro ⟨finite, ⟨whole, units⟩, least, past, same⟩
    rw [leastInt64_atMost_iff finite units] at least
    rw [below_pastInt64_iff finite units] at past
    rw [toInt64_eq_ofIntClamp finite units, ofIntClamp_eq_iff least past] at same
    exact ⟨finite, same ▸ units⟩
  · rintro ⟨finite, units⟩
    refine ⟨finite, ⟨_, units⟩, ?_, ?_, ?_⟩
    · exact (leastInt64_atMost_iff finite units).2 above
    · exact (below_pastInt64_iff finite units).2 under
    · rw [toInt64_eq_ofIntClamp finite units, ofIntClamp_eq_iff above under]

theorem isZero_of_equalsInt64 {number : Int64} (equals : x.equalsInt64 number) :
    x.isZero = (number == 0) := by
  obtain ⟨_, units⟩ := equalsInt64_iff.1 equals
  have nothing : unitsOf 0 = 0 := Int.zero_mul _
  rw [Bool.eq_iff_iff, isZero_iff_signed, units, ← nothing, unitsOf_inj, ← Int64.toInt_zero,
    Int64.toInt_inj, beq_iff_eq]

theorem isZero_of_equal (equal : x.equal y) : x.isZero = y.isZero := by
  obtain ⟨_, _, rfl | ⟨zero, otherZero⟩⟩ := equal_iff.1 equal
  · rfl
  · rw [zero, otherZero]

/-- A value is a whole number of 64 bits where it stands for as many units. -/
theorem equalsInt64_iff_units {number : Int64} :
    x.equalsInt64 number ↔ x.units? = some (unitsOf number.toInt) := by
  rw [equalsInt64_iff, units?, Option.ite_none_left_eq_some, Option.some_inj]
  refine and_congr_left fun units => ⟨not_isNaN_of_isFinite, fun _ => ?_⟩
  have moderate : number.toInt.natAbs < 2 ^ 64 := by
    have := number.le_toInt
    have := number.toInt_lt
    omega
  refine isFinite_of_magnitude_lt ?_
  calc
    x.magnitude = number.toInt.natAbs * one := by
      rw [← natAbs_signed, units, unitsOf, Int.natAbs_mul, Int.natAbs_natCast]
    _ < 2 ^ 64 * one := Nat.mul_lt_mul_of_pos_right moderate one_pos
    _ = 2 ^ (64 + 1074) := by rw [one_eq, ← Nat.pow_add]
    _ ≤ 2 ^ (51 + 2047) := Nat.pow_le_pow_right (by decide) (by decide)

variable {x : Binary64}

/-- The size of a finite value: the fraction behind a point, and in front of it the one that only
    the least exponent lacks. -/
def size (x : Binary64) : ℚ :=
  if x.exponent = 0 then (x.fraction : ℚ) / 2 ^ 52 * 2 ^ (-1022 : ℤ)
  else (1 + (x.fraction : ℚ) / 2 ^ 52) * 2 ^ ((x.exponent : ℤ) - 1023)

/-- The number that a finite value is. -/
def number (x : Binary64) : ℚ := if x.isNegative then -x.size else x.size

theorem cast_one_eq : (one : ℚ) = 2 ^ (1074 : ℤ) := by
  rw [one_eq, Nat.cast_pow]
  rfl

theorem magnitude_eq (x : Binary64) : (x.magnitude : ℚ) = x.size * one := by
  unfold size
  by_cases least : x.exponent = 0
  · have scale : (2 : ℚ) ^ (-1022 : ℤ) * 2 ^ (1074 : ℤ) = 2 ^ 52 := by
      rw [← zpow_add₀ two_ne_zero]
      rfl
    rw [if_pos least, magnitude_of_zero least, cast_one_eq, mul_assoc, scale]
    field_simp
  · obtain ⟨e, exponent⟩ := Nat.exists_eq_add_one_of_ne_zero least
    have scale : (2 : ℚ) ^ ((x.exponent : ℤ) - 1023) * 2 ^ (1074 : ℤ) = 2 ^ 52 * 2 ^ e := by
      rw [← zpow_add₀ two_ne_zero, ← pow_add, ← zpow_natCast, exponent]
      congr 1
      push_cast
      ring
    rw [if_neg least, magnitude_of_pos (Nat.pos_of_ne_zero least), cast_one_eq, mul_assoc, scale,
      exponent, Nat.add_sub_cancel]
    push_cast
    field_simp
    norm_num

theorem signed_eq (x : Binary64) : (x.signed : ℚ) = x.number * one := by
  unfold signed number
  by_cases negative : x.isNegative
  · rw [if_pos negative, if_pos negative, Int.cast_neg, Int.cast_natCast, magnitude_eq, neg_mul]
  · rw [if_neg negative, if_neg negative, Int.cast_natCast, magnitude_eq]

theorem signed_eq_unitsOf_iff {whole : ℤ} : x.signed = unitsOf whole ↔ x.number = whole := by
  have positive : (one : ℚ) ≠ 0 := Nat.cast_ne_zero.2 one_pos.ne'
  have units : ((unitsOf whole : ℤ) : ℚ) = whole * one := by
    rw [unitsOf, Int.cast_mul, Int.cast_natCast]
  rw [← @Int.cast_inj ℚ, units, signed_eq, mul_left_inj' positive]

end Binary64

namespace Value

open Binary64

theorem equal_integer_float_iff {n : Int64} {x : Binary64} :
    (integer n == float x) ↔ x.isFinite ∧ x.number = n.toInt := by
  have tests : (integer n == float x) = x.equalsInt64 n := rfl
  rw [tests, equalsInt64_iff, signed_eq_unitsOf_iff]

theorem equal_float_integer_iff {n : Int64} {x : Binary64} :
    (float x == integer n) ↔ x.isFinite ∧ x.number = n.toInt :=
  equal_integer_float_iff

/-- A whole number and a floating point number are equal, in either order, exactly if the second is
    finite and is the first as a rational number. -/
theorem equal_mixed (n : Int64) (x : Binary64) :
    ((integer n == float x) ↔ x.isFinite ∧ x.number = n.toInt) ∧
    ((float x == integer n) ↔ x.isFinite ∧ x.number = n.toInt) ∧
    (x.isNaN ∨ ¬ x.isFinite ∨ (∀ whole : ℤ, x.number ≠ whole) ∨ 2 ^ 63 ≤ x.number ∨
      x.number < -2 ^ 63 → ¬ integer n == float x ∧ ¬ float x == integer n) ∧
    (x.bits = 0 ∨ x.bits = 0x8000000000000000 →
      ((integer n == float x) ↔ n = 0) ∧ ((float x == integer n) ↔ n = 0)) := by
  rw [equal_integer_float_iff, equal_float_integer_iff, and_self_iff, and_self_iff]
  refine ⟨Iff.rfl, Iff.rfl, fun outside => ?_, fun zero => ?_⟩
  · rintro ⟨finite, same⟩
    rcases outside with nan | infinite | fractional | large | small
    · exact not_isNaN_of_isFinite finite nan
    · exact infinite finite
    · exact fractional n.toInt same
    · rw [same] at large
      have large : (2 ^ 63 : ℤ) ≤ n.toInt := by exact_mod_cast large
      exact absurd n.toInt_lt (Int.not_lt.2 large)
    · rw [same] at small
      have small : n.toInt < (-2 ^ 63 : ℤ) := by exact_mod_cast small
      exact absurd n.le_toInt (Int.not_le.2 small)
  · have fields : x.isFinite ∧ x.exponent = 0 ∧ x.fraction = 0 := by
      rcases zero with positive | negative
      · simp [isFinite, exponent, fraction, positive]
      · simp [isFinite, exponent, fraction, negative]
    obtain ⟨finite, exponent, fraction⟩ := fields
    have nothing : x.number = 0 := by simp [number, size, exponent, fraction]
    rw [nothing, ← Int64.toInt_inj]
    constructor
    · rintro ⟨_, same⟩
      exact_mod_cast same.symm
    · intro same
      exact ⟨finite, by rw [same]; rfl⟩

/-- Past `2 ^ 53` not every whole number is a floating point number, and `2 ^ 63` is no whole number
    of 64 bits. -/
example : (integer 9007199254740993 == float ⟨0x4340000000000000⟩) = false ∧
    (integer Int64.maxValue == float ⟨0x43e0000000000000⟩) = false ∧
    (integer Int64.minValue == float ⟨0xc3e0000000000000⟩) = true := by decide +kernel

end Value

end GoldFront
