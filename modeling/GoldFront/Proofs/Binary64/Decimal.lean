import GoldFront.Binary64.Basic
import GoldFront.Proofs.Binary64.Rounding
import GoldFront.Proofs.Binary64.Units
import GoldFront.Value.Dictionary

namespace GoldFront

namespace Binary64

variable {x : Binary64}

def abs (x : Binary64) : Binary64 := ⟨x.bits % 0x8000000000000000⟩

theorem toNat_bits_abs (x : Binary64) : x.abs.bits.toNat = x.bits.toNat % 2 ^ 63 := by
  simp [abs]

theorem isNegative_abs (x : Binary64) : x.abs.isNegative = false := by
  have := Nat.mod_lt x.bits.toNat (Nat.two_pow_pos 63)
  rw [isNegative, toNat_bits_abs, decide_eq_false_iff_not, Nat.pow_eq]
  omega

theorem exponent_abs (x : Binary64) : x.abs.exponent = x.exponent := by
  simp only [exponent, toNat_bits_abs, Nat.pow_eq]
  omega

theorem fraction_abs (x : Binary64) : x.abs.fraction = x.fraction := by
  simp only [fraction, toNat_bits_abs, Nat.pow_eq]
  omega

theorem isFinite_abs (x : Binary64) : x.abs.isFinite = x.isFinite := by
  rw [isFinite, isFinite, exponent_abs]

theorem significand_abs (x : Binary64) : x.abs.significand = x.significand := by
  rw [significand, significand, exponent_abs, fraction_abs]

theorem spacing_abs (x : Binary64) : x.abs.spacing = x.spacing := by
  rw [spacing, spacing, exponent_abs]

theorem magnitude_abs (x : Binary64) : x.abs.magnitude = x.magnitude := by
  rw [magnitude, magnitude, significand_abs, spacing_abs]

theorem readsBack_abs (x : Binary64) (places digits : Nat) :
    x.abs.readsBack places digits = x.readsBack places digits := by
  simp only [readsBack, magnitude_abs, spacing_abs, significand_abs, exponent_abs, fraction_abs]

theorem decimalFrom_abs (x : Binary64) (places further : Nat) :
    x.abs.decimalFrom places further = x.decimalFrom places further := by
  induction further generalizing places with
  | zero => rw [decimalFrom, decimalFrom, magnitude_abs]
  | succ further ih =>
    have same : x.abs.decimalAt? places = x.decimalAt? places := by
      simp only [decimalAt?, magnitude_abs, readsBack_abs]
    rw [decimalFrom, decimalFrom, same, ih]

theorem decimal_abs (x : Binary64) : x.abs.decimal = x.decimal := by
  have whole : x.abs.isWhole = x.isWhole := by rw [isWhole, isWhole, magnitude_abs]
  rw [decimal, decimal, whole, magnitude_abs, decimalFrom_abs]

theorem text_of_isFinite (finite : x.isFinite) : x.text =
    if x.isNegative then '-' :: positional x.decimal.1 x.decimal.2
    else positional x.decimal.1 x.decimal.2 := by
  have number : x.isNaN = false := Bool.eq_false_iff.2 (not_isNaN_of_isFinite finite)
  simp only [text, number, finite, if_true, Bool.false_eq_true, if_false]

theorem text_abs (finite : x.isFinite) : x.abs.text = positional x.decimal.1 x.decimal.2 := by
  rw [text_of_isFinite (by rwa [isFinite_abs]), isNegative_abs, decimal_abs]
  rfl

/-- The text of a finite value is that of its magnitude, behind a minus if the sign bit is set. -/
theorem text_eq (finite : x.isFinite) :
    x.text = if x.isNegative then '-' :: x.abs.text else x.abs.text := by
  rw [text_of_isFinite finite, text_abs finite]

theorem isDigit_of_mem_fractionDigits {places digits : Nat} {c : Char}
    (member : c ∈ fractionDigits places digits) : c.isDigit := by
  rcases List.mem_append.1 member with padding | written
  · rw [(List.mem_replicate.1 padding).2]
    rfl
  · exact Nat.isDigit_of_mem_toDigits (by decide) (by decide) written

/-- The text of a magnitude has a digit at least before its point. -/
theorem exists_positional (places digits : Nat) : ∃ first run part,
    positional places digits = first :: run ++ '.' :: part ∧ first.isDigit ∧
      (∀ c ∈ run, c.isDigit) ∧ ∀ c ∈ part, c.isDigit := by
  have whole : ∀ c ∈ Nat.toDigits 10 (digits / Nat.pow 10 places), c.isDigit :=
    fun c member => Nat.isDigit_of_mem_toDigits (by decide) (by decide) member
  obtain ⟨first, run, written⟩ :=
    List.exists_cons_of_ne_nil (@Nat.toDigits_ne_nil (digits / Nat.pow 10 places) 10)
  rw [written] at whole
  refine ⟨first, run, _, by rw [positional, written], whole first List.mem_cons_self,
    fun c member => whole c (List.mem_cons_of_mem _ member), fun c => isDigit_of_mem_fractionDigits⟩

variable {x : Binary64} {places digits : Nat}

/-- The number that digits, a point and digits stand for. -/
def decimalNumber (whole part : List Char) : ℚ :=
  Nat.ofDigitChars 10 (whole ++ part) 0 / 10 ^ part.length

theorem length_fractionDigits (pointed : 0 < places) (fits : digits < 10 ^ places) :
    (fractionDigits places digits).length = places := by
  have short : (Nat.toDigits 10 digits).length ≤ places :=
    (Nat.length_toDigits_le_iff (by decide) pointed).2 fits
  simp only [fractionDigits, List.length_append, List.length_replicate]
  omega

theorem ofDigitChars_fractionDigits (places digits : Nat) :
    Nat.ofDigitChars 10 (fractionDigits places digits) 0 = digits := by
  simp only [fractionDigits, Nat.ofDigitChars_append, Nat.ofDigitChars_replicate_zero, Nat.mul_zero,
    Nat.ofDigitChars_ten_toDigits]

theorem decimalNumber_positional (pointed : 0 < places) :
    decimalNumber (Nat.toDigits 10 (digits / 10 ^ places))
      (fractionDigits places (digits % 10 ^ places)) = digits / 10 ^ places := by
  have fits : digits % 10 ^ places < 10 ^ places := Nat.mod_lt _ (by positivity)
  rw [decimalNumber, length_fractionDigits pointed fits, Nat.ofDigitChars_append,
    Nat.ofDigitChars_ten_toDigits, Nat.ofDigitChars_eq_ofDigitChars_zero,
    ofDigitChars_fractionDigits, length_fractionDigits pointed fits, Nat.div_add_mod]

/-- A bound in quarters of a unit, and the same with the places multiplied away. -/
theorem scaled_le_iff {bound : Nat} : bound * 10 ^ places ≤ digits * (4 * one) ↔
    (bound : ℚ) ≤ 4 * (digits / 10 ^ places * one) := by
  have positive : (0 : ℚ) < 10 ^ places := by positivity
  rw [← @Nat.cast_le ℚ, ← mul_div_right_comm, mul_div_assoc', le_div_iff₀ positive]
  push_cast
  rw [mul_left_comm]

theorem le_scaled_iff {bound : Nat} : digits * (4 * one) ≤ bound * 10 ^ places ↔
    4 * (digits / 10 ^ places * one) ≤ (bound : ℚ) := by
  have positive : (0 : ℚ) < 10 ^ places := by positivity
  rw [← @Nat.cast_le ℚ, ← mul_div_right_comm, mul_div_assoc', div_le_iff₀ positive]
  push_cast
  rw [mul_left_comm]

theorem nearby_of_readsBack (reads : x.readsBack places digits) :
    x.Nearby (digits / 10 ^ places) := by
  -- The subtraction of natural numbers stops at zero, so the bound is no smaller for it.
  have least : 4 * (x.magnitude : ℚ) ≤
      (4 * x.magnitude - x.stepBelow * x.spacing : Nat) + x.stepBelow * x.spacing := by
    exact_mod_cast Nat.sub_le_iff_le_add.1 le_rfl
  have most : ((4 * x.magnitude + 2 * x.spacing : Nat) : ℚ) = 4 * x.magnitude + 2 * x.spacing := by
    push_cast
    rfl
  by_cases even : x.significand % 2 = 0
  · obtain ⟨low, high⟩ :
        (4 * x.magnitude - x.stepBelow * x.spacing) * 10 ^ places ≤ digits * (4 * one) ∧
          digits * (4 * one) ≤ (4 * x.magnitude + 2 * x.spacing) * 10 ^ places := by
      simpa [readsBack, even, stepBelow] using reads
    rw [scaled_le_iff] at low
    rw [le_scaled_iff, most] at high
    exact ⟨by linarith, high, by omega⟩
  · obtain ⟨low, high⟩ :
        (4 * x.magnitude - x.stepBelow * x.spacing) * 10 ^ places < digits * (4 * one) ∧
          digits * (4 * one) < (4 * x.magnitude + 2 * x.spacing) * 10 ^ places := by
      simpa [readsBack, even, stepBelow] using reads
    rw [lt_iff_lt_of_le_iff_le le_scaled_iff] at low
    rw [lt_iff_lt_of_le_iff_le scaled_le_iff, most] at high
    exact ⟨by linarith, high.le, fun _ => ⟨by linarith, high⟩⟩

theorem nearby_of_decimalAt? (found : x.decimalAt? places = some digits) :
    x.Nearby (digits / 10 ^ places) := by
  refine nearby_of_readsBack ?_
  simp only [decimalAt?] at found
  split at found
  case h_1 less more =>
    rw [Option.some_inj] at found
    split at found
    · exact found ▸ less
    · exact found ▸ more
  case h_2 less _ => exact Option.some_inj.1 found ▸ less
  case h_3 _ more => exact Option.some_inj.1 found ▸ more
  case h_4 => cases found

/-- At 1074 places every value is a decimal. -/
theorem div_one_div_pow (x : Binary64) (all : places = 1074) :
    ((x.magnitude * 10 ^ places / one : Nat) : ℚ) / 10 ^ places = x.size := by
  have positive : (10 : ℚ) ^ places ≠ 0 := by positivity
  have divides : one ∣ 10 ^ places := by
    rw [one_eq, ← all]
    exact pow_dvd_pow_of_dvd (by decide) places
  obtain ⟨count, product⟩ := dvd_mul_of_dvd_right divides x.magnitude
  rw [product, Nat.mul_div_cancel_left _ one_pos, size_eq_div, div_eq_div_iff positive cast_one_pos.ne']
  rw [mul_comm one] at product
  exact_mod_cast product.symm

theorem nearby_decimalFrom {further : Nat} (all : places + further = 1074) :
    x.Nearby ((x.decimalFrom places further).2 / 10 ^ (x.decimalFrom places further).1) := by
  induction further generalizing places with
  | zero =>
    have last : places = 1074 := all
    rw [decimalFrom, Nat.pow_eq, x.div_one_div_pow last]
    exact x.nearby_size
  | succ further ih =>
    rw [decimalFrom]
    cases found : x.decimalAt? places with
    | none => exact ih (by omega)
    | some digits => exact nearby_of_decimalAt? found

theorem le_decimalFrom (x : Binary64) (places further : Nat) :
    places ≤ (x.decimalFrom places further).1 := by
  induction further generalizing places with
  | zero => rfl
  | succ further ih =>
    rw [decimalFrom]
    cases x.decimalAt? places with
    | none => exact Nat.le_of_succ_le (ih (places + 1))
    | some digits => rfl

theorem decimal_places_pos (x : Binary64) : 0 < x.decimal.1 := by
  rw [decimal]
  split
  · exact Nat.one_pos
  · exact x.le_decimalFrom 1 1073

theorem isWhole_iff : x.isWhole ↔ one ∣ x.magnitude := by
  rw [isWhole, beq_iff_eq, Nat.dvd_iff_mod_eq_zero]

theorem size_eq_natCast_iff {count : Nat} : x.size = count ↔ x.magnitude = count * one := by
  rw [size_eq_div, div_eq_iff cast_one_pos.ne']
  exact_mod_cast Iff.rfl

theorem decimal_of_isWhole (whole : x.isWhole) :
    (x.decimal.2 : ℚ) / 10 ^ x.decimal.1 = x.size := by
  obtain ⟨count, product⟩ := isWhole_iff.1 whole
  rw [mul_comm] at product
  rw [decimal, if_pos whole, size_eq_natCast_iff.2 product, product,
    Nat.mul_div_cancel _ one_pos]
  push_cast
  norm_num

theorem nearby_decimal (x : Binary64) : x.Nearby (x.decimal.2 / 10 ^ x.decimal.1) := by
  by_cases whole : x.isWhole
  · rw [decimal_of_isWhole whole]
    exact x.nearby_size
  · rw [decimal, if_neg whole]
    exact nearby_decimalFrom rfl

/-- Of the numbers that are whole steps, only the value itself is within half a step. -/
theorem significand_of_nearby {q : ℚ} {steps : Nat} (nearby : x.Nearby q)
    (units : q * one = steps * x.spacing) : x.significand = steps := by
  have positive := x.cast_spacing_pos
  have narrow : (x.stepBelow : ℚ) * x.spacing ≤ 2 * x.spacing :=
    mul_le_mul_of_nonneg_right (by exact_mod_cast x.stepBelow_le_two) positive.le
  have below := nearby.below
  have above := nearby.above
  rw [units, cast_magnitude] at below above
  have low : (4 * x.significand : ℚ) ≤ 4 * steps + 2 :=
    le_of_mul_le_mul_right (by linarith) positive
  have high : (4 * steps : ℚ) ≤ 4 * x.significand + 2 :=
    le_of_mul_le_mul_right (by linarith) positive
  norm_cast at low high
  omega

/-- A value that has a fraction is not within half a step of a whole number. -/
theorem isWhole_of_nearby {count : Nat} (nearby : x.Nearby count) : x.isWhole := by
  obtain ⟨top, power⟩ : ∃ top, one = 2 ^ top := ⟨1074, one_eq⟩
  rcases Nat.le_total (max x.exponent 1 - 1) top with fine | wide
  · obtain ⟨steps, product⟩ : x.spacing ∣ one := by
      rw [spacing_eq, power]
      exact Nat.pow_dvd_pow 2 fine
    have units : (count : ℚ) * one = (count * steps : Nat) * x.spacing := by
      rw [product]
      push_cast
      ring
    rw [isWhole_iff, magnitude, significand_of_nearby nearby units, Nat.mul_assoc,
      Nat.mul_comm steps, ← product]
    exact Nat.dvd_mul_left _ _
  · rw [isWhole_iff, magnitude, spacing_eq, power]
    exact Nat.dvd_mul_left_of_dvd (Nat.pow_dvd_pow 2 wide) _

/-- A value whose decimal is a whole number is that number. -/
theorem size_of_decimal {count : Nat} (same : (x.decimal.2 : ℚ) / 10 ^ x.decimal.1 = count) :
    x.size = count := by
  have nearby := x.nearby_decimal
  rw [same] at nearby
  rw [← decimal_of_isWhole (isWhole_of_nearby nearby), same]

def sign (negative : Bool) : List Char := if negative then ['-'] else []

theorem text_eq_sign_append (finite : x.isFinite) :
    x.text = sign x.isNegative ++ positional x.decimal.1 x.decimal.2 := by
  rw [text_of_isFinite finite, sign]
  split
  · rfl
  · rfl

theorem text_eq_append (finite : x.isFinite) : ∃ whole part : List Char,
    x.text = sign x.isNegative ++ (whole ++ '.' :: part) ∧ whole ≠ [] ∧ part ≠ [] ∧
      (∀ c ∈ whole ++ part, c.isDigit) ∧
      decimalNumber whole part = x.decimal.2 / 10 ^ x.decimal.1 := by
  refine ⟨_, _, text_eq_sign_append finite, Nat.toDigits_ne_nil, ?_, ?_,
    decimalNumber_positional x.decimal_places_pos⟩
  · exact List.append_ne_nil_of_right_ne_nil _ Nat.toDigits_ne_nil
  · intro c member
    rcases List.mem_append.1 member with whole | part
    · exact Nat.isDigit_of_mem_toDigits (by decide) (by decide) whole
    · exact isDigit_of_mem_fractionDigits part

/-- A text is made of a sign, digits, a point and digits in one way. -/
theorem signed_decimal_inj {negative other : Bool} {whole part run rest : List Char}
    (digits : ∀ c ∈ whole ++ part, c.isDigit) (otherDigits : ∀ c ∈ run, c.isDigit)
    (same : sign negative ++ (whole ++ '.' :: part) = sign other ++ (run ++ '.' :: rest)) :
    negative = other ∧ whole = run ∧ part = rest := by
  have noMinus : '-' ∉ whole := fun member =>
    absurd (digits _ (List.mem_append_left _ member)) (by decide)
  have otherNoMinus : '-' ∉ run := fun member => absurd (otherDigits _ member) (by decide)
  have noPoint : '.' ∉ whole ++ part := fun member => absurd (digits _ member) (by decide)
  rw [List.mem_append, not_or] at noPoint
  have front : '.' ∉ sign negative ++ whole := by
    rw [List.mem_append, not_or]
    exact ⟨by cases negative <;> decide, noPoint.1⟩
  rw [← List.append_assoc, ← List.append_assoc,
    List.append_cons_inj_of_notMem front noPoint.2] at same
  obtain ⟨signed, -, rfl⟩ := same
  cases negative with
  | true =>
    cases other with
    | true => exact ⟨rfl, (List.cons_eq_cons.1 signed).2, rfl⟩
    | false =>
      obtain rfl : '-' :: whole = run := signed
      exact absurd List.mem_cons_self otherNoMinus
  | false =>
    cases other with
    | true =>
      obtain rfl : whole = '-' :: run := signed
      exact absurd List.mem_cons_self noMinus
    | false => exact ⟨rfl, signed, rfl⟩

theorem roundsTo_decimal (finite : x.isFinite) :
    RoundsTo (x.decimal.2 / 10 ^ x.decimal.1) x.abs := by
  have nearby := x.abs.nearby_decimal
  rw [decimal_abs] at nearby
  exact roundsTo_of_nearby nearby (by rwa [isFinite_abs]) x.isNegative_abs

theorem eq_of_abs {y : Binary64} (signed : x.isNegative = y.isNegative) (same : x.abs = y.abs) :
    x = y := by
  refine eq_of_magnitude (by rw [signed]) ?_
  rw [← magnitude_abs, same, magnitude_abs]

/-- Two finite values that are written alike are one. -/
theorem eq_of_text {y : Binary64} (finite : x.isFinite) (otherFinite : y.isFinite)
    (same : x.text = y.text) : x = y := by
  obtain ⟨whole, part, text, -, -, digits, number⟩ := text_eq_append finite
  obtain ⟨run, rest, otherText, -, -, otherDigits, otherNumber⟩ := text_eq_append otherFinite
  rw [text, otherText] at same
  obtain ⟨signed, rfl, rfl⟩ := signed_decimal_inj digits
    (fun c member => otherDigits c (List.mem_append_left _ member)) same
  have rounds := roundsTo_decimal finite
  rw [← number, otherNumber] at rounds
  exact eq_of_abs signed (rounds.unique (roundsTo_decimal otherFinite))

theorem size_nonneg (x : Binary64) : 0 ≤ x.size := by
  rw [size_eq_div]
  exact div_nonneg (Nat.cast_nonneg _) cast_one_pos.le

theorem abs_number (x : Binary64) : |x.number| = x.size := by
  rw [number]
  split
  · rw [abs_neg, abs_of_nonneg x.size_nonneg]
  · rw [abs_of_nonneg x.size_nonneg]

theorem size_eq_natAbs {n : ℤ} (equal : x.number = n) : x.size = n.natAbs := by
  rw [← abs_number, equal, Nat.cast_natAbs, Int.cast_abs]

theorem isWhole_of_number {n : ℤ} (equal : x.number = n) : x.isWhole := by
  rw [isWhole_iff, size_eq_natCast_iff.1 (size_eq_natAbs equal)]
  exact Nat.dvd_mul_left _ _

/-- But for the negative zero, the sign bit is set exactly of what is less than zero. -/
theorem isNegative_eq {n : ℤ} (signed : x.bits ≠ 0x8000000000000000) (equal : x.number = n) :
    x.isNegative = decide (n < 0) := by
  rw [Bool.eq_iff_iff, decide_eq_true_iff, ← @Int.cast_lt_zero ℚ, ← equal, number]
  by_cases negative : x.isNegative
  · have nonzero : x.size ≠ 0 := by
      intro zero
      have nothing : x.magnitude = 0 := by
        rw [← Nat.cast_zero, size_eq_natCast_iff, Nat.zero_mul] at zero
        exact zero
      have same : x = ⟨0x8000000000000000⟩ := by
        refine eq_of_magnitude ?_ ?_
        · rw [negative]
          decide
        · rw [nothing]
          decide
      exact signed (congrArg bits same)
    have positive := lt_of_le_of_ne x.size_nonneg nonzero.symm
    simp [negative, positive]
  · simp [negative, x.size_nonneg]

theorem toList_repr_eq (n : ℤ) :
    n.repr.toList = sign (decide (n < 0)) ++ Nat.toDigits 10 n.natAbs := by
  rw [Int.repr_eq_if]
  by_cases negative : n < 0
  · have magnitude : (-n).toNat = n.natAbs := by omega
    rw [if_neg (by omega), magnitude, String.toList_append, Nat.toList_repr]
    simp [sign, negative]
  · have magnitude : n.toNat = n.natAbs := by omega
    rw [if_pos (by omega), magnitude, Nat.toList_repr]
    simp [sign, negative]

theorem positional_of_whole (count : Nat) :
    positional 1 (count * 10) = Nat.toDigits 10 count ++ ['.', '0'] := by
  have ten : Nat.pow 10 1 = 10 := rfl
  rw [positional, ten, Nat.mul_div_cancel _ (by decide), Nat.mul_mod_left]
  rfl

theorem decimalNumber_of_whole (count : Nat) :
    decimalNumber (Nat.toDigits 10 count) ['0'] = count := by
  have number : Nat.ofDigitChars 10 ['0'] count = 10 * count := rfl
  rw [decimalNumber, Nat.ofDigitChars_append, Nat.ofDigitChars_ten_toDigits, number,
    List.length_singleton, pow_one, Nat.cast_mul]
  exact mul_div_cancel_left₀ _ (by norm_num)

theorem text_of_number {n : ℤ} (finite : x.isFinite) (signed : x.bits ≠ 0x8000000000000000)
    (equal : x.number = n) : x.text = n.repr.toList ++ ['.', '0'] := by
  have magnitude := size_eq_natCast_iff.1 (size_eq_natAbs equal)
  have decimal : x.decimal = (1, n.natAbs * 10) := by
    rw [Binary64.decimal, if_pos (isWhole_of_number equal), magnitude,
      Nat.mul_div_cancel _ one_pos]
  rw [text_eq_sign_append finite, isNegative_eq signed equal, decimal, positional_of_whole,
    toList_repr_eq, List.append_assoc]

/-- A whole number with a point and a zero behind it is written for that number alone. -/
theorem number_of_text {n : ℤ} (finite : x.isFinite)
    (same : x.text = n.repr.toList ++ ['.', '0']) : x.number = n := by
  obtain ⟨whole, part, text, -, -, digits, number⟩ := text_eq_append finite
  rw [text, toList_repr_eq, List.append_assoc] at same
  obtain ⟨negative, rfl, rfl⟩ := signed_decimal_inj digits
    (fun c member => Nat.isDigit_of_mem_toDigits (by decide) (by decide) member) same
  have size : x.size = n.natAbs := size_of_decimal (number ▸ decimalNumber_of_whole _)
  rw [Binary64.number, negative, size]
  by_cases less : n < 0
  · have magnitude : -(n.natAbs : ℤ) = n := by omega
    rw [if_pos (decide_eq_true less), ← Int.cast_natCast, ← Int.cast_neg, magnitude]
  · have magnitude : (n.natAbs : ℤ) = n := by omega
    rw [if_neg (by simpa using less), ← Int.cast_natCast, magnitude]

end Binary64

namespace Value

open Binary64

/-- But for the negative zero, a whole number equals exactly the value that is written as its text,
    a point and a zero. -/
theorem equal_integer_float_iff_inspect {n : Int64} {x : Binary64} (finite : x.isFinite)
    (signed : x.bits ≠ 0x8000000000000000) :
    (integer n == float x) ↔ (float x).inspect = (integer n).inspect ++ ".0" := by
  have written : (float x).inspect.toList = x.text := String.toList_ofList
  have other : ((integer n).inspect ++ ".0").toList = n.toInt.repr.toList ++ ['.', '0'] := by
    rw [String.toList_append]
    exact congrArg (· ++ ['.', '0']) String.toList_ofList
  rw [equal_integer_float_iff, ← String.toList_inj, written, other]
  constructor
  · rintro ⟨_, equal⟩
    exact text_of_number finite signed equal
  · intro same
    exact ⟨finite, number_of_text finite same⟩

theorem equal_integer_negativeZero_iff {n : Int64} :
    (integer n == float ⟨0x8000000000000000⟩) ↔ n = 0 := by
  have nothing : number ⟨0x8000000000000000⟩ = 0 := by simp [number, size, exponent, fraction]
  rw [equal_integer_float_iff, nothing, ← Int64.toInt_inj]
  constructor
  · rintro ⟨_, equal⟩
    exact_mod_cast equal.symm
  · intro same
    exact ⟨by decide, by rw [same]; rfl⟩

/-- A finite value is written as digits, a point and digits behind a minus for the sign bit. Read as
    a decimal, they are rounded to the value without its sign, and of a whole number they are the
    value itself. A whole number equals exactly the value that is written as its text, a point and a
    zero; but for the negative zero, which zero equals. -/
theorem inspect_float {x : Binary64} (finite : x.isFinite) :
    (∃ whole part : List Char,
      (float x).inspect.toList = (if x.isNegative then ['-'] else []) ++ (whole ++ '.' :: part) ∧
      whole ≠ [] ∧ part ≠ [] ∧ (∀ c ∈ whole ++ part, c.isDigit) ∧
      (∀ y : Binary64, RoundsTo (decimalNumber whole part) y ↔ y = x.abs) ∧
      (∀ y : Binary64, y.isNegative = x.isNegative →
        RoundsTo (decimalNumber whole part) y.abs → y = x) ∧
      ((∃ count : ℤ, x.number = count) → decimalNumber whole part = |x.number|)) ∧
    ∀ n : Int64,
      (x.bits ≠ 0x8000000000000000 →
        ((integer n == float x) ↔ (float x).inspect = (integer n).inspect ++ ".0")) ∧
      (x.bits = 0x8000000000000000 →
        ((integer n == float x) ↔ n = 0) ∧ (float x).inspect = "-0.0") := by
  refine ⟨?_, fun n => ⟨equal_integer_float_iff_inspect finite, ?_⟩⟩
  · obtain ⟨whole, part, text, before, behind, digits, number⟩ := text_eq_append finite
    have written : (float x).inspect.toList = x.text := String.toList_ofList
    have rounds := roundsTo_decimal finite
    rw [← number] at rounds
    refine ⟨whole, part, written.trans text, before, behind, digits, ?_, ?_, ?_⟩
    · intro y
      constructor
      · intro also
        exact also.unique rounds
      · rintro rfl
        exact rounds
    · intro y signed also
      exact eq_of_abs signed (also.unique rounds)
    · rintro ⟨count, equal⟩
      rw [number, decimal_of_isWhole (isWhole_of_number equal), abs_number]
  · intro zero
    obtain rfl : x = ⟨0x8000000000000000⟩ := congrArg mk zero
    exact ⟨equal_integer_negativeZero_iff, by decide +kernel⟩

theorem inspect_float_tenth :
    let x : Binary64 := ⟨0xbfb999999999999a⟩
    x.isFinite ∧ (float x).inspect = "-0.1" ∧
      (∃ whole part : List Char,
        (float x).inspect.toList = (if x.isNegative then ['-'] else []) ++ (whole ++ '.' :: part) ∧
        whole ≠ [] ∧ part ≠ [] ∧ (∀ c ∈ whole ++ part, c.isDigit) ∧
        (∀ y : Binary64, RoundsTo (decimalNumber whole part) y ↔ y = x.abs) ∧
        (∀ y : Binary64, y.isNegative = x.isNegative →
          RoundsTo (decimalNumber whole part) y.abs → y = x) ∧
        ((∃ count : ℤ, x.number = count) → decimalNumber whole part = |x.number|)) ∧
      ∀ n : Int64,
        (x.bits ≠ 0x8000000000000000 →
          ((integer n == float x) ↔ (float x).inspect = (integer n).inspect ++ ".0")) ∧
        (x.bits = 0x8000000000000000 →
          ((integer n == float x) ↔ n = 0) ∧ (float x).inspect = "-0.0") := by
  intro x
  have finite : x.isFinite := by decide
  exact ⟨finite, by decide +kernel, inspect_float finite⟩

end Value

end GoldFront
