import BmwRemote.Lib.FloatValue
import BmwRemote.Lib.Rounding

/-! The numbers of 64 bits: a fraction is rounded to the nearest of them, and to an infinity
beyond the largest. -/
namespace BmwRemote.Lib.FloatValue

/-- The largest power of two that is not above a positive fraction. -/
def binade (magnitude : ℚ) : ℤ :=
  let estimate : ℤ := magnitude.num.toNat.log2 - magnitude.den.log2
  if (2 : ℚ) ^ estimate ≤ magnitude then estimate else estimate - 1

/-- The nearest number, with 53 bits or, next to zero, a multiple of the smallest one. -/
def ofRat (value : ℚ) : FloatValue :=
  let magnitude := if value < 0 then -value else value
  if magnitude = 0 then .finite 0
  else
    let quantum := (2 : ℚ) ^ (max (binade magnitude) (-1022) - 52)
    let rounded := roundHalfEven (magnitude / quantum) * quantum
    if (2 ^ 1024 : Nat) ≤ rounded then .infinite (decide (value < 0))
    else .finite (if value < 0 then -rounded else rounded)

def scale : FloatValue → Nat → FloatValue
  | .finite value, factor => ofRat (value * factor)
  | .infinite negative, _ => .infinite negative
  | .nan, _ => .nan

def minus : FloatValue → FloatValue → FloatValue
  | .finite left, .finite right => ofRat (left - right)
  | .finite _, .infinite negative => .infinite !negative
  | .infinite negative, .finite _ => .infinite negative
  | .infinite negative, .infinite other => if negative = other then .nan else .infinite negative
  | .nan, _ | _, .nan => .nan

def isFinite : FloatValue → Bool
  | .finite _ => true
  | .infinite _ | .nan => false

end BmwRemote.Lib.FloatValue
