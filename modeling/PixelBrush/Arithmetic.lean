/-! # Truncating integer arithmetic

Division cuts the exact quotient off toward zero, the remainder is what is
then left over, and a negative power is the exact fraction cut off in the
same way.
-/

namespace PixelBrush
namespace Arithmetic

/-- Why an operation has no result. -/
inductive Undefined
  | zeroDivisor
  | zeroToNegativePower
  deriving DecidableEq

def Undefined.message : Undefined → String
  | zeroDivisor => "integer division or modulo by zero"
  | zeroToNegativePower => "0 cannot be raised to a negative power"

/-- The quotient, cut off toward zero. -/
def quotient (dividend divisor : Int) : Except Undefined Int :=
  if divisor = 0 then .error .zeroDivisor else .ok (dividend.tdiv divisor)

/-- The remainder, which is zero or has the sign of the dividend. -/
def remainder (dividend divisor : Int) : Except Undefined Int :=
  if divisor = 0 then .error .zeroDivisor else .ok (dividend.tmod divisor)

/-- A power of one of the bases that no exponent makes grow. -/
def unitPower (base : Int) (exponent : Nat) : Int :=
  if exponent = 0 then 1
  else if base = -1 ∧ exponent % 2 = 0 then 1
  else base

/-- A power with a natural exponent.  The bases minus one, zero and one are
treated apart, so that the exponent may be of any size. -/
def naturalPower (base : Int) (exponent : Nat) : Int :=
  if base.natAbs ≤ 1 then unitPower base exponent else base.pow exponent

/-- A power, cut off toward zero if the exponent is negative. -/
def power (base exponent : Int) : Except Undefined Int :=
  if 0 ≤ exponent then .ok (naturalPower base exponent.toNat)
  else if base = 0 then .error .zeroToNegativePower
  else if base.natAbs = 1 then .ok (unitPower base exponent.natAbs)
  else .ok 0

end Arithmetic
end PixelBrush
