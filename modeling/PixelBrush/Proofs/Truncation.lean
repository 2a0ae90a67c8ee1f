import Mathlib.Algebra.Ring.Parity
import Mathlib.Data.Rat.Floor
import PixelBrush.Proofs.Attempt

/-! # Arithmetic cut off toward zero

A quotient is the exact fraction without the part behind the point, whatever the signs,
and the remainder is what it leaves over.  A power with a negative exponent is a fraction
too, and is cut off in the same way.  An operation on two numbers fails only where there
is no such fraction.
-/

namespace PixelBrush
namespace Arithmetic

/-- A fraction without the part behind the point: it is cut off toward zero. -/
def truncate (exact : ℚ) : ℤ :=
  if 0 ≤ exact then ⌊exact⌋ else ⌈exact⌉

theorem truncate_neg (exact : ℚ) : truncate (-exact) = -truncate exact := by
  unfold truncate
  rcases lt_trichotomy exact 0 with negative | rfl | positive
  · rw [if_pos (neg_nonneg.mpr negative.le), if_neg (not_le.mpr negative), Int.floor_neg]
  · simp
  · rw [if_neg (not_le.mpr (neg_lt_zero.mpr positive)), if_pos positive.le, Int.ceil_neg]

theorem truncate_natCast_div (dividend divisor : ℕ) :
    truncate ((dividend : ℚ) / divisor) = dividend / divisor := by
  rw [truncate, if_pos (by positivity), Rat.floor_natCast_div_natCast]

/-! ### Quotients and remainders -/

section Division

variable {dividend divisor : ℤ}

variable (dividend divisor) in
/-- Division of integers cuts the exact fraction off toward zero. -/
theorem truncate_intCast_div :
    truncate ((dividend : ℚ) / divisor) = dividend.tdiv divisor := by
  obtain ⟨magnitude, rfl | rfl⟩ := dividend.eq_nat_or_neg <;>
    obtain ⟨scale, rfl | rfl⟩ := divisor.eq_nat_or_neg <;>
    simp [neg_div, div_neg, truncate_neg, truncate_natCast_div, Int.neg_tdiv, Int.tdiv_neg,
      Int.natCast_tdiv_eq_ediv]

variable (dividend divisor) in
/-- A quotient is that of the magnitudes, with a minus sign if the signs differ. -/
theorem tdiv_eq_of_magnitudes :
    dividend.tdiv divisor =
      if 0 ≤ dividend ↔ 0 ≤ divisor then |dividend| / |divisor| else -(|dividend| / |divisor|) := by
  -- Where one of the numbers is zero, its sign makes no difference.
  obtain ⟨magnitude, rfl | rfl⟩ := dividend.eq_nat_or_neg <;>
    obtain ⟨scale, rfl | rfl⟩ := divisor.eq_nat_or_neg <;>
    simp only [abs_neg, Nat.abs_cast, Int.neg_tdiv, Int.tdiv_neg, Int.natCast_tdiv_eq_ediv]
  · simp
  · rcases scale.eq_zero_or_pos with rfl | positive
    · simp
    · rw [if_neg (by omega)]
  · rcases magnitude.eq_zero_or_pos with rfl | positive
    · simp
    · rw [if_neg (by omega)]
  · rcases magnitude.eq_zero_or_pos with rfl | positive
    · simp
    rcases scale.eq_zero_or_pos with rfl | positive
    · simp
    · rw [if_pos (by omega), neg_neg]

theorem quotient_of_ne_zero (nonzero : divisor ≠ 0) :
    quotient dividend divisor = .ok (dividend.tdiv divisor) :=
  if_neg nonzero

theorem remainder_of_ne_zero (nonzero : divisor ≠ 0) :
    remainder dividend divisor = .ok (dividend.tmod divisor) :=
  if_neg nonzero

theorem abs_tmod_lt (nonzero : divisor ≠ 0) : |dividend.tmod divisor| < |divisor| := by
  rw [Int.abs_eq_natAbs, Int.abs_eq_natAbs, Int.natAbs_tmod, Nat.cast_lt]
  exact Nat.mod_lt _ (Int.natAbs_pos.mpr nonzero)

variable (dividend divisor) in
theorem tmod_eq_zero_or_sign :
    dividend.tmod divisor = 0 ∨ (dividend.tmod divisor).sign = dividend.sign := by
  rw [Int.sign_tmod]
  by_cases divides : divisor ∣ dividend
  · exact .inl (Int.tmod_eq_zero_of_dvd divides)
  · exact .inr (if_neg divides)

end Division

/-! ### Powers -/

section Power

variable {base exponent : ℤ}

theorem unitPower_eq (small : base.natAbs ≤ 1) (exponent : ℕ) :
    unitPower base exponent = base ^ exponent := by
  have bases : base = -1 ∨ base = 0 ∨ base = 1 := by omega
  unfold unitPower
  by_cases none : exponent = 0
  · rw [if_pos none, none, pow_zero]
  rw [if_neg none]
  rcases bases with rfl | rfl | rfl
  · rcases Nat.even_or_odd exponent with even | odd
    · rw [if_pos ⟨rfl, Nat.even_iff.mp even⟩, even.neg_one_pow]
    · rw [if_neg fun ⟨_, even⟩ => by simp [Nat.odd_iff.mp odd] at even, odd.neg_one_pow]
  · simp [zero_pow none]
  · simp

theorem naturalPower_eq (base : ℤ) (exponent : ℕ) :
    naturalPower base exponent = base ^ exponent := by
  unfold naturalPower
  split
  next small => exact unitPower_eq small exponent
  next => rfl

theorem one_tdiv_of_unit {unit : ℤ} (isUnit : unit.natAbs = 1) : Int.tdiv 1 unit = unit := by
  rcases Int.natAbs_eq_iff.mp isUnit with rfl | rfl <;> rfl

theorem one_tdiv_of_large {divisor : ℤ} (large : 1 < divisor.natAbs) : Int.tdiv 1 divisor = 0 := by
  rw [← Int.natAbs_eq_zero, Int.natAbs_tdiv]
  exact Nat.div_eq_of_lt large

theorem power_of_nonneg (natural : 0 ≤ exponent) :
    power base exponent = .ok (base ^ exponent.toNat) := by
  rw [power, if_pos natural, naturalPower_eq]

/-- A power with a negative exponent is the quotient of one by the power with the
opposite exponent. -/
theorem power_of_neg (negative : exponent < 0) (nonzero : base ≠ 0) :
    power base exponent = quotient 1 (base ^ (-exponent).toNat) := by
  have opposite : (-exponent).toNat = exponent.natAbs := by omega
  rw [power, if_neg (not_le.mpr negative), if_neg nonzero, opposite,
    quotient_of_ne_zero (pow_ne_zero _ nonzero)]
  split
  next isUnit =>
    rw [unitPower_eq (Nat.le_of_eq isUnit), one_tdiv_of_unit (by simp [Int.natAbs_pow, isUnit])]
  next notUnit =>
    have large : 1 < (base ^ exponent.natAbs).natAbs := by
      rw [Int.natAbs_pow]
      exact Nat.one_lt_pow (by omega) (by omega)
    rw [one_tdiv_of_large large]

theorem quotient_one_pow (nonzero : base ≠ 0) (exponent : ℕ) :
    quotient 1 (base ^ exponent) = .ok (truncate (1 / (base : ℚ) ^ exponent)) := by
  rw [quotient_of_ne_zero (pow_ne_zero _ nonzero), ← truncate_intCast_div]
  push_cast
  rfl

end Power

/-! ### Where there is no result -/

section Undefined

variable {first second : ℤ}

theorem exists_quotient_iff : (∃ result, quotient first second = .ok result) ↔ second ≠ 0 := by
  unfold quotient
  split <;> simp [*]

theorem exists_remainder_iff : (∃ result, remainder first second = .ok result) ↔ second ≠ 0 := by
  unfold remainder
  split <;> simp [*]

theorem exists_power_iff :
    (∃ result, power first second = .ok result) ↔ ¬ (first = 0 ∧ second < 0) := by
  unfold power
  split_ifs <;> grind

end Undefined

end Arithmetic

namespace Evaluation

/-- What comes of an operation on two numbers, if calculating comes to an attempt. -/
def calculated (location : Location) : Except Arithmetic.Undefined Int → Except Fault Value
  | .ok result => .ok (.number result)
  | .error _ => .error (.mishap .divisionByZero location)

theorem calculated_eq_error_iff {location : Location} {attempt : Except Arithmetic.Undefined Int} :
    calculated location attempt = .error (.mishap .divisionByZero location) ↔
      ¬ ∃ result, attempt = .ok result := by
  cases attempt <;> simp [calculated]

theorem onNumbers_map_number {node : Node} {location : Location}
    (stands : node.location? = some location) (operator : BinaryOperator)
    (attempt : Int → Int → Except Arithmetic.Undefined Int) (first second : Int) :
    onNumbers node operator (fun left right => (attempt left right).map .number) (.number first)
        (.number second) =
      calculated location (attempt first second) := by
  cases found : attempt first second <;>
    simp [onNumbers, found, calculated, Except.map, Fault.ofMishap, Mishap.message?, stands]

section

variable {view : View} {budget : Nat} {left right : Node} {location : Location}

/-- An operation is applied to the values of its operands. -/
theorem evaluate_binary (operator : BinaryOperator) {leftValue rightValue : Value}
    (isLeft : evaluate view budget left = .ok leftValue)
    (isRight : evaluate view budget right = .ok rightValue) :
    evaluate view (budget + 2) (.binary (.ofText operator.text) left right location) =
      applyBinary (.binary (.ofText operator.text) left right location) operator leftValue
        rightValue := by
  rw [evaluate, binary, isLeft, isRight, ok_bind, ok_bind]
  simp

/-- An operation that calculates with two numbers comes out as calculating does. -/
theorem evaluate_calculating {operator : BinaryOperator}
    {attempt : Int → Int → Except Arithmetic.Undefined Int} {first second : Int}
    (calculates : ∀ node, applyBinary node operator =
      onNumbers node operator fun left right => (attempt left right).map .number)
    (isFirst : evaluate view budget left = .ok (.number first))
    (isSecond : evaluate view budget right = .ok (.number second)) :
    evaluate view (budget + 2) (.binary (.ofText operator.text) left right location) =
      calculated location (attempt first second) := by
  rw [evaluate_binary operator isFirst isSecond, calculates]
  exact onNumbers_map_number rfl operator attempt first second

end

/-- Division, remainder and power are exact, and cut off toward zero where the exact result
is a fraction.  The quotient is that of the magnitudes with the right sign, and leaves a
remainder that is smaller than the divisor and has the sign of the dividend.  An expression
that asks for one of the three comes out as this result, or as a division by zero at its own
place: by a divisor that is zero, or by a power of zero. -/
theorem evaluate_truncating :
    (∀ dividend divisor : Int, divisor ≠ 0 → ∃ quotient remainder : Int,
      Arithmetic.quotient dividend divisor = .ok quotient ∧
      Arithmetic.remainder dividend divisor = .ok remainder ∧
      quotient = Arithmetic.truncate (dividend / divisor) ∧
      quotient = (if 0 ≤ dividend ↔ 0 ≤ divisor then |dividend| / |divisor|
        else -(|dividend| / |divisor|)) ∧
      dividend = divisor * quotient + remainder ∧ |remainder| < |divisor| ∧
      (remainder = 0 ∨ remainder.sign = dividend.sign)) ∧
    (∀ base exponent : Int, 0 ≤ exponent →
      Arithmetic.power base exponent = .ok (base ^ exponent.toNat)) ∧
    (∀ base exponent : Int, exponent < 0 → base ≠ 0 →
      Arithmetic.power base exponent = Arithmetic.quotient 1 (base ^ (-exponent).toNat) ∧
      Arithmetic.power base exponent =
        .ok (Arithmetic.truncate (1 / (base : ℚ) ^ (-exponent).toNat))) ∧
    Mishap.divisionByZero.message? = some "Division by zero" ∧
    ∀ (view : View) (budget : Nat) (left right : Node) (location : Location) (first second : Int),
      evaluate view budget left = .ok (.number first) →
      evaluate view budget right = .ok (.number second) →
      let outcome (operator : BinaryOperator) :=
        evaluate view (budget + 2) (.binary (.ofText operator.text) left right location)
      let undefined : Except Fault Value := .error (.mishap .divisionByZero location)
      (outcome .divide = undefined ↔ second = 0) ∧
      (∀ result, Arithmetic.quotient first second = .ok result →
        outcome .divide = .ok (.number result)) ∧
      (outcome .remainder = undefined ↔ second = 0) ∧
      (∀ result, Arithmetic.remainder first second = .ok result →
        outcome .remainder = .ok (.number result)) ∧
      (outcome .power = undefined ↔ first = 0 ∧ second < 0) ∧
      ∀ result, Arithmetic.power first second = .ok result →
        outcome .power = .ok (.number result) := by
  refine ⟨?_, ?_, ?_, rfl, ?_⟩
  · intro dividend divisor nonzero
    exact ⟨dividend.tdiv divisor, dividend.tmod divisor, Arithmetic.quotient_of_ne_zero nonzero,
      Arithmetic.remainder_of_ne_zero nonzero,
      (Arithmetic.truncate_intCast_div dividend divisor).symm,
      Arithmetic.tdiv_eq_of_magnitudes dividend divisor,
      (Int.mul_tdiv_add_tmod dividend divisor).symm, Arithmetic.abs_tmod_lt nonzero,
      Arithmetic.tmod_eq_zero_or_sign dividend divisor⟩
  · exact fun base exponent => Arithmetic.power_of_nonneg
  · intro base exponent negative nonzero
    have inverse := Arithmetic.power_of_neg negative nonzero
    exact ⟨inverse, inverse.trans (Arithmetic.quotient_one_pow nonzero _)⟩
  · intro view budget left right location first second isFirst isSecond outcome undefined
    have divided : outcome .divide = calculated location (Arithmetic.quotient first second) :=
      evaluate_calculating (fun _ => rfl) isFirst isSecond
    have leftOver : outcome .remainder = calculated location (Arithmetic.remainder first second) :=
      evaluate_calculating (fun _ => rfl) isFirst isSecond
    have raised : outcome .power = calculated location (Arithmetic.power first second) :=
      evaluate_calculating (fun _ => rfl) isFirst isSecond
    rw [divided, leftOver, raised]
    simp only [undefined, calculated_eq_error_iff, Arithmetic.exists_quotient_iff,
      Arithmetic.exists_remainder_iff, Arithmetic.exists_power_iff, not_not]
    refine ⟨trivial, ?_, trivial, ?_, trivial, ?_⟩ <;>
      · intro result found
        rw [found]
        rfl

/-- Minus seven, as it is written. -/
def minusSeven : Node :=
  .unary (.ofText UnaryOperator.negate.text) (.literal Kind.number.name (some (.number 7)) ⟨1, 7⟩)
    ⟨1, 6⟩

theorem minusSeven_evaluate_truncating :
    let view : View := ⟨⟨5, none, false, Nat.succ_pos 4⟩, ({} : Painting), some {}⟩
    let outcome (operator : BinaryOperator) (second : Int) :=
      evaluate view 5 (.binary (.ofText operator.text) minusSeven
        (.literal Kind.number.name (some (.number second)) ⟨1, 11⟩) ⟨1, 9⟩)
    outcome .divide 2 = .ok (.number (-3)) ∧
    Arithmetic.truncate ((-7 : Int) / (2 : Int)) = -3 ∧
    outcome .remainder 2 = .ok (.number (-1)) ∧
    outcome .divide 0 = .error (.mishap .divisionByZero ⟨1, 9⟩) ∧
    outcome .power 2 = .ok (.number ((-7) ^ 2)) ∧
    outcome .power (-1) = .ok (.number (Arithmetic.truncate (1 / ((-7 : Int) : ℚ) ^ 1))) := by
  intro view outcome
  obtain ⟨divisions, powers, inverses, -, evaluates⟩ := evaluate_truncating
  have evaluatesTo := fun second => evaluates view 3 minusSeven
    (.literal Kind.number.name (some (.number second)) ⟨1, 11⟩) ⟨1, 9⟩ (-7) second rfl rfl
  obtain ⟨-, divided, -, leftOver, -, raised⟩ := evaluatesTo 2
  obtain ⟨undefined, -⟩ := evaluatesTo 0
  obtain ⟨-, -, -, -, -, inverted⟩ := evaluatesTo (-1)
  obtain ⟨quotient, remainder, isQuotient, -, truncated, -⟩ := divisions (-7) 2 (by decide)
  obtain rfl : quotient = -3 := Except.ok.inj isQuotient.symm
  exact ⟨divided (-3) isQuotient, truncated.symm, leftOver (-1) rfl, undefined.mpr rfl,
    raised _ (powers (-7) 2 (by decide)), inverted _ (inverses (-7) (-1) (by decide) (by decide)).2⟩

end Evaluation
end PixelBrush
