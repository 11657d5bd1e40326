import Mathlib.Data.Rat.Floor
import Mathlib.Tactic.Linarith

/-! Rounding of exact fractions to the nearest integer, the even one of two that are equally
near. -/
namespace BmwRemote.Lib

def roundHalfEven (value : ℚ) : ℤ :=
  let whole := ⌊value⌋
  if value - whole < 1 / 2 then whole
  else if 1 / 2 < value - whole then whole + 1
  else whole + whole % 2

@[simp] theorem roundHalfEven_intCast (value : ℤ) : roundHalfEven value = value := by
  simp [roundHalfEven]

@[simp] theorem roundHalfEven_zero : roundHalfEven 0 = 0 := by
  simpa using roundHalfEven_intCast 0

theorem floor_le_roundHalfEven (value : ℚ) : ⌊value⌋ ≤ roundHalfEven value := by
  unfold roundHalfEven
  dsimp only
  split_ifs <;> omega

theorem roundHalfEven_le (value : ℚ) : roundHalfEven value ≤ ⌊value⌋ + 1 := by
  unfold roundHalfEven
  dsimp only
  split_ifs <;> omega

theorem roundHalfEven_mono {earlier later : ℚ} (h : earlier ≤ later) :
    roundHalfEven earlier ≤ roundHalfEven later := by
  rcases (Int.floor_mono h).lt_or_eq with hless | heq
  · calc
      roundHalfEven earlier ≤ ⌊earlier⌋ + 1 := roundHalfEven_le earlier
      _ ≤ ⌊later⌋ := hless
      _ ≤ roundHalfEven later := floor_le_roundHalfEven later
  · unfold roundHalfEven
    dsimp only
    rw [heq]
    split_ifs <;> first | omega | linarith

end BmwRemote.Lib
