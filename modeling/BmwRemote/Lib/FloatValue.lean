import Mathlib.Algebra.Order.Ring.Rat

/-! The values of floating-point numbers and how they compare: one that is not a number
compares false with everything, itself as well. The two zeros are one value here. -/
namespace BmwRemote.Lib

inductive FloatValue where
  | nan
  | infinite (negative : Bool)
  | finite (value : ℚ)
  deriving DecidableEq

namespace FloatValue

def equals : FloatValue → FloatValue → Bool
  | .infinite negative, .infinite other => negative == other
  | .finite left, .finite right => decide (left = right)
  | _, _ => false

def below : FloatValue → FloatValue → Bool
  | .infinite true, .infinite false | .infinite true, .finite _ | .finite _, .infinite false => true
  | .finite left, .finite right => decide (left < right)
  | _, _ => false

def atMost (left right : FloatValue) : Bool := left.below right || left.equals right

end FloatValue

end BmwRemote.Lib
