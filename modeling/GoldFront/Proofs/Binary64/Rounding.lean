import Mathlib.Algebra.Order.AbsoluteValue.Basic
import Mathlib.Tactic.Linarith
import GoldFront.Proofs.Binary64.Units

/-!
What a rational number without a sign is rounded to (`Binary64.RoundsTo`): the nearest value, of two
that are as near the one with the even significand, and infinity from half a step past the largest
finite value on. There is one such value (`RoundsTo.unique`), and it is the one that the number is
within half a step of (`roundsTo_of_nearby`).
-/

namespace GoldFront.Binary64

variable {x y : Binary64} {q : ℚ}

theorem spacing_eq (x : Binary64) : x.spacing = 2 ^ (max x.exponent 1 - 1) := Nat.pow_eq

theorem spacing_pos (x : Binary64) : 0 < x.spacing := by
  rw [spacing_eq]
  exact Nat.two_pow_pos _

theorem significand_lt (x : Binary64) : x.significand < 2 ^ 53 := by
  have small := x.fraction_lt
  unfold significand
  split
  · omega
  · rw [Nat.pow_eq]
    omega

theorem significand_of_pos (larger : 0 < x.exponent) : x.significand = 2 ^ 52 + x.fraction := by
  rw [significand, if_neg (by omega), Nat.pow_eq]

/-- Where the exponent is larger, the step is twice as wide at least. -/
theorem two_mul_spacing_le (less : max x.exponent 1 < max y.exponent 1) :
    2 * x.spacing ≤ y.spacing := by
  rw [spacing_eq, spacing_eq, ← Nat.pow_succ']
  exact Nat.pow_le_pow_right (by decide) (by omega)

theorem magnitude_add_spacing_le_of_exponent (less : max x.exponent 1 < max y.exponent 1) :
    x.magnitude + x.spacing ≤ y.magnitude := by
  have small := x.significand_lt
  have large : 2 ^ 52 ≤ y.significand := by
    rw [significand_of_pos (by omega)]
    exact Nat.le_add_right _ _
  calc
    x.magnitude + x.spacing = (x.significand + 1) * x.spacing := by rw [magnitude, Nat.succ_mul]
    _ ≤ 2 ^ 53 * x.spacing := Nat.mul_le_mul_right _ small
    _ = 2 ^ 52 * (2 * x.spacing) := by ring
    _ ≤ y.significand * y.spacing := Nat.mul_le_mul large (two_mul_spacing_le less)

/-- Between two magnitudes lies the step of the smaller one at least. -/
theorem magnitude_add_spacing_le (less : x.magnitude < y.magnitude) :
    x.magnitude + x.spacing ≤ y.magnitude := by
  rcases Nat.lt_trichotomy (max x.exponent 1) (max y.exponent 1) with smaller | same | larger
  · exact magnitude_add_spacing_le_of_exponent smaller
  · have spacing : y.spacing = x.spacing := by rw [spacing_eq, spacing_eq, same]
    rw [magnitude, magnitude, spacing] at less ⊢
    rw [← Nat.succ_mul]
    exact Nat.mul_le_mul_right _ (Nat.lt_of_mul_lt_mul_right less)
  · have contrary := magnitude_add_spacing_le_of_exponent larger
    omega

/-- The distance to the next smaller magnitude, in halves of `spacing`: below a power of two the
    step is half as wide. -/
def stepBelow (x : Binary64) : Nat := if x.fraction = 0 ∧ 1 < x.exponent then 1 else 2

theorem stepBelow_le_two (x : Binary64) : x.stepBelow ≤ 2 := by
  unfold stepBelow
  split <;> omega

theorem stepBelow_le (less : x.magnitude < y.magnitude) :
    2 * x.magnitude + y.stepBelow * y.spacing ≤ 2 * y.magnitude := by
  have step := magnitude_add_spacing_le less
  rcases Nat.lt_trichotomy (max x.exponent 1) (max y.exponent 1) with smaller | same | larger
  · have half := two_mul_spacing_le smaller
    have small := x.significand_lt
    have large : 2 ^ 53 + y.stepBelow ≤ 2 * y.significand + 1 := by
      rw [significand_of_pos (by omega), stepBelow]
      split <;> omega
    have under : 2 * x.magnitude + y.spacing ≤ 2 ^ 53 * y.spacing := by
      calc
        2 * x.magnitude + y.spacing = x.significand * (2 * x.spacing) + y.spacing := by
          rw [magnitude]
          ring
        _ ≤ x.significand * y.spacing + y.spacing :=
          Nat.add_le_add_right (Nat.mul_le_mul_left _ half) _
        _ = (x.significand + 1) * y.spacing := (Nat.succ_mul _ _).symm
        _ ≤ 2 ^ 53 * y.spacing := Nat.mul_le_mul_right _ small
    have scaled := Nat.mul_le_mul_right y.spacing large
    rw [Nat.add_mul, Nat.add_mul, Nat.one_mul, Nat.mul_assoc] at scaled
    rw [magnitude] at under ⊢
    rw [magnitude]
    omega
  · have spacing : y.spacing = x.spacing := by rw [spacing_eq, spacing_eq, same]
    have whole := Nat.mul_le_mul_right x.spacing y.stepBelow_le_two
    rw [spacing]
    omega
  · have contrary := magnitude_add_spacing_le_of_exponent larger
    have positive := y.spacing_pos
    omega

theorem cast_one_pos : (0 : ℚ) < one := Nat.cast_pos.2 one_pos

theorem cast_spacing_pos (x : Binary64) : (0 : ℚ) < x.spacing := Nat.cast_pos.2 x.spacing_pos

theorem cast_magnitude (x : Binary64) : (x.magnitude : ℚ) = x.significand * x.spacing :=
  Nat.cast_mul _ _

theorem size_eq_div (x : Binary64) : x.size = x.magnitude / one := by
  rw [magnitude_eq, mul_div_assoc, div_self cast_one_pos.ne', mul_one]

theorem size_lt_iff : x.size < y.size ↔ x.magnitude < y.magnitude := by
  rw [size_eq_div, size_eq_div, div_lt_div_iff_of_pos_right cast_one_pos, Nat.cast_lt]

theorem size_inj : x.size = y.size ↔ x.magnitude = y.magnitude := by
  rw [size_eq_div, size_eq_div, div_left_inj' cast_one_pos.ne', Nat.cast_inj]

/-- Half a step past the largest finite value. -/
def overflow : ℚ := 2 ^ 1024 - 2 ^ 970

/-- The value past all finite ones. -/
def infinity : Binary64 := ⟨0x7ff0000000000000⟩

/-- No finite value is nearer to a number, and another that is as near has an odd significand. -/
structure IsNearest (q : ℚ) (x : Binary64) : Prop where
  near : ∀ y : Binary64, y.isFinite → |q - x.size| ≤ |q - y.size|
  even : ∀ y : Binary64, y.isFinite → y.size ≠ x.size → |q - y.size| = |q - x.size| →
    x.significand % 2 = 0

/-- What a number without a sign is rounded to. -/
inductive RoundsTo (q : ℚ) : Binary64 → Prop
  | finite {x : Binary64} : q < overflow → x.isFinite → x.isNegative = false → IsNearest q x →
      RoundsTo q x
  | infinity : overflow ≤ q → RoundsTo q infinity

theorem abs_sub_le_abs_sub_iff {a b : ℚ} (less : a < b) :
    |q - a| ≤ |q - b| ↔ 2 * q ≤ a + b := by
  constructor
  · intro near
    by_contra past
    have behind : 0 < q - a := by linarith
    rw [abs_of_pos behind, le_abs] at near
    rcases near with near | near
    · linarith
    · linarith
  · intro before
    refine le_trans ?_ (neg_le_abs (q - b))
    rw [abs_le]
    constructor
    · linarith
    · linarith

theorem abs_sub_le_abs_sub_iff_of_gt {a b : ℚ} (more : b < a) :
    |q - a| ≤ |q - b| ↔ a + b ≤ 2 * q := by
  have mirrored := @abs_sub_le_abs_sub_iff (-q) (-a) (-b) (neg_lt_neg more)
  rw [neg_sub_neg, neg_sub_neg, abs_sub_comm a, abs_sub_comm b] at mirrored
  rw [mirrored]
  constructor
  · intro behind
    linarith
  · intro behind
    linarith

/-- Behind an even significand comes a value that is one step greater. -/
theorem exists_next (finite : x.isFinite) (unsigned : x.isNegative = false)
    (even : x.significand % 2 = 0) :
    ∃ z : Binary64, z.isFinite ∧ z.isNegative = false ∧ z.significand = x.significand + 1 ∧
      z.magnitude = x.magnitude + x.spacing := by
  have fraction_even : x.fraction % 2 = 0 := by
    rw [significand] at even
    split at even
    · exact even
    · rw [Nat.pow_eq] at even
      omega
  have small := x.fraction_lt
  have negative : ¬ 2 ^ 63 ≤ x.bits.toNat := by
    rw [← isNegative_iff, unsigned]
    exact Bool.false_ne_true
  let z : Binary64 := ⟨x.bits + 1⟩
  have bits : z.bits.toNat = x.bits.toNat + 1 := by
    rw [UInt64.toNat_add, UInt64.toNat_one]
    exact Nat.mod_eq_of_lt (by omega)
  -- An even fraction is not the last one, so the exponent stays.
  have exponent : z.exponent = x.exponent := by
    simp only [Binary64.exponent, fraction, Nat.pow_eq, bits] at *
    omega
  have fraction : z.fraction = x.fraction + 1 := by
    simp only [Binary64.fraction, Nat.pow_eq, bits] at *
    omega
  have significand : z.significand = x.significand + 1 := by
    rw [Binary64.significand, Binary64.significand, exponent, fraction]
    split
    · rfl
    · exact (Nat.add_assoc _ _ _).symm
  have spacing : z.spacing = x.spacing := by rw [spacing_eq, spacing_eq, exponent]
  have magnitude : z.magnitude = x.magnitude + x.spacing := by
    rw [Binary64.magnitude, significand, spacing, Nat.succ_mul]
    rfl
  have zFinite : z.isFinite := by
    rw [isFinite_iff, exponent, ← isFinite_iff]
    exact finite
  have zUnsigned : z.isNegative = false := by
    rw [Binary64.isNegative, Nat.pow_eq, bits, decide_eq_false_iff_not]
    simp only [Binary64.exponent, Binary64.fraction, Nat.pow_eq, isFinite_iff] at *
    omega
  exact ⟨z, zFinite, zUnsigned, significand, magnitude⟩

/-- Two even significands are not neighbours. -/
theorem exists_between (finite : x.isFinite) (unsigned : x.isNegative = false)
    (otherUnsigned : y.isNegative = false) (even : x.significand % 2 = 0)
    (otherEven : y.significand % 2 = 0) (less : x.magnitude < y.magnitude) :
    ∃ z : Binary64, z.isFinite ∧ x.magnitude < z.magnitude ∧ z.magnitude < y.magnitude := by
  obtain ⟨z, zFinite, zUnsigned, significand, magnitude⟩ := exists_next finite unsigned even
  have positive := x.spacing_pos
  refine ⟨z, zFinite, by omega, ?_⟩
  have atMost := magnitude_add_spacing_le less
  rw [← magnitude] at atMost
  refine Nat.lt_of_le_of_ne atMost fun same => ?_
  have equal : z = y := eq_of_magnitude (by rw [zUnsigned, otherUnsigned]) same
  rw [equal] at significand
  omega

theorem not_isNearest_of_lt (finite : x.isFinite) (unsigned : x.isNegative = false)
    (otherFinite : y.isFinite) (otherUnsigned : y.isNegative = false)
    (nearest : IsNearest q x) (otherNearest : IsNearest q y) : ¬ x.size < y.size := by
  intro less
  have near := nearest.near y otherFinite
  have otherNear := otherNearest.near x finite
  have tie := le_antisymm near otherNear
  have even := nearest.even y otherFinite less.ne' tie.symm
  have otherEven := otherNearest.even x finite less.ne tie
  obtain ⟨z, zFinite, above, below⟩ :=
    exists_between finite unsigned otherUnsigned even otherEven (size_lt_iff.1 less)
  rw [← size_lt_iff] at above below
  have left := (abs_sub_le_abs_sub_iff above).1 (nearest.near z zFinite)
  have right := (abs_sub_le_abs_sub_iff_of_gt below).1 (otherNearest.near z zFinite)
  linarith

/-- A number is rounded to one value. -/
theorem RoundsTo.unique (rounds : RoundsTo q x) (also : RoundsTo q y) : x = y := by
  cases rounds with
  | finite inside finite unsigned nearest =>
    cases also with
    | finite _ otherFinite otherUnsigned otherNearest =>
      have notLess :=
        not_isNearest_of_lt finite unsigned otherFinite otherUnsigned nearest otherNearest
      have notMore :=
        not_isNearest_of_lt otherFinite otherUnsigned finite unsigned otherNearest nearest
      have same := le_antisymm (not_lt.1 notMore) (not_lt.1 notLess)
      exact eq_of_magnitude (by rw [unsigned, otherUnsigned]) (size_inj.1 same)
    | infinity past => exact absurd inside (not_lt.2 past)
  | infinity past =>
    cases also with
    | finite inside _ _ _ => exact absurd inside (not_lt.2 past)
    | infinity _ => rfl

/-- A number at most half a step away from the size of a value, in quarters of a unit; where the
    significand is odd, less than half a step. -/
structure Nearby (x : Binary64) (q : ℚ) : Prop where
  below : 4 * (x.magnitude : ℚ) ≤ 4 * (q * one) + x.stepBelow * x.spacing
  above : 4 * (q * one) ≤ 4 * x.magnitude + 2 * x.spacing
  odd : x.significand % 2 = 1 →
    4 * (x.magnitude : ℚ) < 4 * (q * one) + x.stepBelow * x.spacing ∧
      4 * (q * one) < 4 * x.magnitude + 2 * x.spacing

/-- A value's own size is nearby. -/
theorem nearby_size (x : Binary64) : x.Nearby x.size := by
  have positive := x.cast_spacing_pos
  have half : (1 : ℚ) ≤ x.stepBelow := by
    unfold stepBelow
    split
    · norm_num
    · norm_num
  have step : 0 < (x.stepBelow : ℚ) * x.spacing := mul_pos (by linarith) positive
  constructor
  · rw [← magnitude_eq]
    linarith
  · rw [← magnitude_eq]
    linarith
  · intro _
    rw [← magnitude_eq]
    constructor
    · linarith
    · linarith

theorem two_mul_le_size_add_iff :
    2 * q ≤ x.size + y.size ↔ 2 * (q * one) ≤ (x.magnitude : ℚ) + y.magnitude := by
  rw [magnitude_eq, magnitude_eq, ← add_mul, ← mul_assoc]
  exact (mul_le_mul_iff_left₀ cast_one_pos).symm

theorem size_add_le_two_mul_iff :
    x.size + y.size ≤ 2 * q ↔ (x.magnitude : ℚ) + y.magnitude ≤ 2 * (q * one) := by
  rw [magnitude_eq, magnitude_eq, ← add_mul, ← mul_assoc]
  exact (mul_le_mul_iff_left₀ cast_one_pos).symm

/-- A number within half a step of a value is not nearer to another. -/
theorem Nearby.isNearest (nearby : x.Nearby q) : IsNearest q x := by
  have above : ∀ y : Binary64, x.size < y.size → (x.magnitude : ℚ) + x.spacing ≤ y.magnitude := by
    intro y less
    exact_mod_cast magnitude_add_spacing_le (size_lt_iff.1 less)
  have below : ∀ y : Binary64, y.size < x.size →
      2 * (y.magnitude : ℚ) + x.stepBelow * x.spacing ≤ 2 * x.magnitude := by
    intro y less
    exact_mod_cast stepBelow_le (size_lt_iff.1 less)
  constructor
  · intro y _
    rcases lt_trichotomy x.size y.size with less | same | more
    · have step := above y less
      have half := nearby.above
      rw [abs_sub_le_abs_sub_iff less, two_mul_le_size_add_iff]
      linarith
    · rw [same]
    · have step := below y more
      have half := nearby.below
      rw [abs_sub_le_abs_sub_iff_of_gt more, size_add_le_two_mul_iff]
      linarith
  · intro y _ different tie
    by_contra notEven
    obtain ⟨pastBelow, beforeAbove⟩ := nearby.odd (by omega)
    rcases lt_or_gt_of_ne different with less | more
    · have step := below y less
      have half := (abs_sub_le_abs_sub_iff less).1 tie.le
      rw [two_mul_le_size_add_iff] at half
      linarith
    · have step := above y more
      have half := (abs_sub_le_abs_sub_iff_of_gt more).1 tie.le
      rw [size_add_le_two_mul_iff] at half
      linarith

theorem overflow_mul_one : 4 * (overflow * one) = (2 ^ 55 - 2) * 2 ^ 2045 := by
  have unit : (one : ℚ) = 2 ^ 1074 := by
    rw [cast_one_eq]
    rfl
  have large : (2 : ℚ) ^ 2045 = 2 ^ 971 * 2 ^ 1074 := by rw [← pow_add]
  have small : (2 : ℚ) ^ 971 = 2 * 2 ^ 970 := by rw [← pow_succ']
  have whole : (2 : ℚ) ^ 1024 = 2 ^ 54 * 2 ^ 970 := by rw [← pow_add]
  rw [overflow, unit, large, small, whole]
  generalize (2 : ℚ) ^ 970 = step, (2 : ℚ) ^ 1074 = units
  ring

/-- Half a step past a finite value, infinity is not reached: the largest significand is odd. -/
theorem Nearby.lt_overflow (nearby : x.Nearby q) (finite : x.isFinite) : q < overflow := by
  have narrow : (x.spacing : ℚ) ≤ 2 ^ 2045 := by
    have exponent := isFinite_iff.1 finite
    rw [spacing_eq, Nat.cast_pow, Nat.cast_ofNat]
    exact pow_le_pow_right₀ one_le_two (by omega)
  have positive := x.cast_spacing_pos
  have atMost := x.significand_lt
  have quarters : 4 * (q * one) < (2 ^ 55 - 2) * x.spacing := by
    by_cases even : x.significand % 2 = 0
    · have less : (x.significand : ℚ) ≤ 2 ^ 53 - 2 := by
        have : x.significand + 2 ≤ 2 ^ 53 := by omega
        have cast : (x.significand : ℚ) + 2 ≤ 2 ^ 53 := by exact_mod_cast this
        linarith
      have half := nearby.above
      rw [cast_magnitude] at half
      have most := mul_le_mul_of_nonneg_right less positive.le
      linarith
    · have less : (x.significand : ℚ) ≤ 2 ^ 53 - 1 := by
        have cast : (x.significand : ℚ) + 1 ≤ 2 ^ 53 := by exact_mod_cast atMost
        linarith
      have half := (nearby.odd (by omega)).2
      rw [cast_magnitude] at half
      have most := mul_le_mul_of_nonneg_right less positive.le
      linarith
  have past := mul_le_mul_of_nonneg_left narrow (by norm_num : (0 : ℚ) ≤ 2 ^ 55 - 2)
  rw [← overflow_mul_one] at past
  have scaled : q * one < overflow * one := by linarith
  exact lt_of_mul_lt_mul_right scaled cast_one_pos.le

theorem roundsTo_of_nearby (nearby : x.Nearby q) (finite : x.isFinite)
    (unsigned : x.isNegative = false) : RoundsTo q x :=
  .finite (nearby.lt_overflow finite) finite unsigned nearby.isNearest

end GoldFront.Binary64
