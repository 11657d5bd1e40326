import BmwRemote.Lib.FloatOrder
import Mathlib.Algebra.Order.Field.Power
import Mathlib.Data.Int.Log
import Mathlib.Tactic.NormNum
import Mathlib.Tactic.Positivity
import Mathlib.Tactic.Ring

/-! Rounding to the numbers of 64 bits keeps the order of fractions, and moves a fraction by no
more than half the distance of the numbers around it. -/
namespace BmwRemote.Lib

theorem abs_roundHalfEven_sub (value : ℚ) : |(roundHalfEven value : ℚ) - value| ≤ 1 / 2 := by
  have hbelow := Int.floor_le value
  have habove := Int.lt_floor_add_one value
  unfold roundHalfEven
  dsimp only
  rw [abs_le]
  split_ifs with hdown hup
  · constructor <;> linarith
  · push_cast
    constructor <;> linarith
  · rcases Int.emod_two_eq_zero_or_one ⌊value⌋ with heven | hodd
    · rw [heven, add_zero]
      constructor <;> linarith
    · rw [hodd]
      push_cast
      constructor <;> linarith

namespace FloatValue

/-! The binade of a fraction. -/

theorem log2_bounds {value : Nat} (h : value ≠ 0) :
    (2 : ℚ) ^ (value.log2 : ℤ) ≤ value ∧ (value : ℚ) < 2 ^ (value.log2 + 1 : ℤ) := by
  constructor
  · rw [zpow_natCast]
    exact_mod_cast Nat.log2_self_le h
  · exact_mod_cast @Nat.lt_log2_self value

theorem quotient_bounds {numerator denominator : Nat} (hnumerator : numerator ≠ 0)
    (hdenominator : denominator ≠ 0) :
    (2 : ℚ) ^ (numerator.log2 - denominator.log2 - 1 : ℤ) ≤ numerator / denominator ∧
      (numerator / denominator : ℚ) < 2 ^ (numerator.log2 - denominator.log2 + 1 : ℤ) := by
  obtain ⟨hlow, hhigh⟩ := log2_bounds hnumerator
  obtain ⟨hbelow, habove⟩ := log2_bounds hdenominator
  have hpositive : (0 : ℚ) < denominator := by exact_mod_cast Nat.pos_of_ne_zero hdenominator
  constructor
  · rw [le_div_iff₀ hpositive]
    calc
      (2 : ℚ) ^ (numerator.log2 - denominator.log2 - 1 : ℤ) * denominator
      _ ≤ 2 ^ (numerator.log2 - denominator.log2 - 1 : ℤ) * 2 ^ (denominator.log2 + 1 : ℤ) := by
        gcongr
      _ = 2 ^ (numerator.log2 : ℤ) := by
        rw [← zpow_add₀ two_ne_zero]
        ring_nf
      _ ≤ numerator := hlow
  · rw [div_lt_iff₀ hpositive]
    calc
      (numerator : ℚ) < 2 ^ (numerator.log2 + 1 : ℤ) := hhigh
      _ = 2 ^ (numerator.log2 - denominator.log2 + 1 : ℤ) * 2 ^ (denominator.log2 : ℤ) := by
        rw [← zpow_add₀ two_ne_zero]
        ring_nf
      _ ≤ 2 ^ (numerator.log2 - denominator.log2 + 1 : ℤ) * denominator := by
        gcongr

theorem binade_eq_log {magnitude : ℚ} (hpositive : 0 < magnitude) :
    binade magnitude = Int.log 2 magnitude := by
  have hnum : 0 < magnitude.num := Rat.num_pos.mpr hpositive
  have hquotient : (magnitude.num.toNat / magnitude.den : ℚ) = magnitude := by
    rw [← Int.cast_natCast magnitude.num.toNat, Int.toNat_of_nonneg hnum.le, Rat.num_div_den]
  obtain ⟨hlow, hhigh⟩ := quotient_bounds (by omega : magnitude.num.toNat ≠ 0) magnitude.den_nz
  rw [hquotient] at hlow hhigh
  have hlow := (Int.zpow_le_iff_le_log one_lt_two hpositive).mp hlow
  have hhigh := (Int.lt_zpow_iff_log_lt one_lt_two hpositive).mp hhigh
  unfold binade
  dsimp only
  split
  · rename_i hestimate
    have hestimate := (Int.zpow_le_iff_le_log one_lt_two hpositive).mp hestimate
    omega
  · rename_i hestimate
    have hestimate := (Int.lt_zpow_iff_log_lt one_lt_two hpositive).mp (not_le.mp hestimate)
    omega

/-! The magnitude of a rounded fraction. -/

/-- The exponent of the distance of the numbers around a fraction. -/
def quantumExponent (magnitude : ℚ) : ℤ := max (binade magnitude) (-1022) - 52

def rounded (magnitude : ℚ) : ℚ :=
  roundHalfEven (magnitude / 2 ^ quantumExponent magnitude) * 2 ^ quantumExponent magnitude

@[simp] theorem rounded_zero : rounded 0 = 0 := by
  simp [rounded]

theorem rounded_nonneg {magnitude : ℚ} (h : 0 ≤ magnitude) : 0 ≤ rounded magnitude := by
  have hquotient : 0 ≤ roundHalfEven (magnitude / 2 ^ quantumExponent magnitude) := by
    rw [← roundHalfEven_zero]
    exact roundHalfEven_mono (by positivity)
  have hcast : (0 : ℚ) ≤ roundHalfEven (magnitude / 2 ^ quantumExponent magnitude) := by
    exact_mod_cast hquotient
  exact mul_nonneg hcast (by positivity)

theorem rounded_le {low : ℚ} (hpositive : 0 < low) :
    rounded low ≤ 2 ^ (quantumExponent low + 53) := by
  have hexponent : binade low + 1 ≤ quantumExponent low + 53 := by
    unfold quantumExponent
    omega
  have hlow : low < 2 ^ (binade low + 1) := by
    rw [binade_eq_log hpositive]
    exact Int.lt_zpow_succ_log_self one_lt_two low
  have hquotient : low / 2 ^ quantumExponent low ≤ ((2 ^ 53 : ℤ) : ℚ) := by
    rw [div_le_iff₀ (by positivity)]
    calc
      low ≤ 2 ^ (binade low + 1) := hlow.le
      _ ≤ 2 ^ (quantumExponent low + 53) := zpow_le_zpow_right₀ one_le_two hexponent
      _ = ((2 ^ 53 : ℤ) : ℚ) * 2 ^ quantumExponent low := by
        rw [add_comm, zpow_add₀ two_ne_zero]
        norm_cast
  have hrounded := roundHalfEven_mono hquotient
  rw [roundHalfEven_intCast] at hrounded
  calc
    rounded low ≤ ((2 ^ 53 : ℤ) : ℚ) * 2 ^ quantumExponent low := by
      unfold rounded
      gcongr
    _ = 2 ^ (quantumExponent low + 53) := by
      rw [add_comm, zpow_add₀ two_ne_zero]
      norm_cast

theorem le_rounded {high : ℚ} (hpositive : 0 < high) (hnormal : -1074 < quantumExponent high) :
    2 ^ (quantumExponent high + 52) ≤ rounded high := by
  have hexponent : quantumExponent high + 52 = binade high := by
    unfold quantumExponent at hnormal ⊢
    omega
  have hhigh : (2 : ℚ) ^ (quantumExponent high + 52) ≤ high := by
    rw [hexponent, binade_eq_log hpositive]
    exact Int.zpow_log_le_self one_lt_two hpositive
  have hpower : (2 : ℚ) ^ (quantumExponent high + 52) =
      ((2 ^ 52 : ℤ) : ℚ) * 2 ^ quantumExponent high := by
    rw [add_comm, zpow_add₀ two_ne_zero]
    norm_cast
  have hquotient : ((2 ^ 52 : ℤ) : ℚ) ≤ high / 2 ^ quantumExponent high := by
    rw [le_div_iff₀ (by positivity), ← hpower]
    exact hhigh
  have hrounded := roundHalfEven_mono hquotient
  rw [roundHalfEven_intCast] at hrounded
  rw [hpower]
  unfold rounded
  gcongr

theorem rounded_mono {low high : ℚ} (hlow : 0 ≤ low) (hle : low ≤ high) :
    rounded low ≤ rounded high := by
  rcases hlow.eq_or_lt with rfl | hpositive
  · rw [rounded_zero]
    exact rounded_nonneg hle
  have hhigh : 0 < high := hpositive.trans_le hle
  have hbinade : binade low ≤ binade high := by
    rw [binade_eq_log hpositive, binade_eq_log hhigh]
    exact Int.log_mono_right hpositive hle
  have hexponent : quantumExponent low ≤ quantumExponent high := by
    unfold quantumExponent
    omega
  rcases hexponent.eq_or_lt with hsame | hless
  · have hquotient : roundHalfEven (low / 2 ^ quantumExponent low) ≤
        roundHalfEven (high / 2 ^ quantumExponent low) := by
      apply roundHalfEven_mono
      gcongr
    unfold rounded
    rw [← hsame]
    gcongr
  · -- A power of two lies between them, and both are rounded to their side of it.
    have hnormal : -1074 < quantumExponent high := by
      refine lt_of_le_of_lt ?_ hless
      unfold quantumExponent
      omega
    calc
      rounded low ≤ 2 ^ (quantumExponent low + 53) := rounded_le hpositive
      _ ≤ 2 ^ (quantumExponent high + 52) := zpow_le_zpow_right₀ one_le_two (by omega)
      _ ≤ rounded high := le_rounded hhigh hnormal

theorem abs_rounded_sub (magnitude : ℚ) :
    |rounded magnitude - magnitude| ≤ 2 ^ quantumExponent magnitude / 2 := by
  have hpositive : (0 : ℚ) < 2 ^ quantumExponent magnitude := by positivity
  have hcancel : magnitude =
      magnitude / 2 ^ quantumExponent magnitude * 2 ^ quantumExponent magnitude :=
    (div_mul_cancel₀ _ hpositive.ne').symm
  have hquotient := abs_roundHalfEven_sub (magnitude / 2 ^ quantumExponent magnitude)
  calc
    |rounded magnitude - magnitude|
    _ = |(roundHalfEven (magnitude / 2 ^ quantumExponent magnitude) : ℚ) -
          magnitude / 2 ^ quantumExponent magnitude| * 2 ^ quantumExponent magnitude := by
      rw [← abs_of_pos hpositive, ← abs_mul, abs_of_pos hpositive, sub_mul, ← hcancel, rounded]
    _ ≤ 1 / 2 * 2 ^ quantumExponent magnitude := by gcongr
    _ = 2 ^ quantumExponent magnitude / 2 := by ring

/-- Half the distance of the numbers around a fraction, as a part of it and one of zero. -/
theorem quantum_le (magnitude : ℚ) (hnonneg : 0 ≤ magnitude) :
    (2 : ℚ) ^ quantumExponent magnitude / 2 ≤ (magnitude + 1) / 2 ^ 53 := by
  have hpower : (2 : ℚ) ^ quantumExponent magnitude =
      2 ^ max (binade magnitude) (-1022) / 2 ^ 52 := by
    rw [quantumExponent, zpow_sub₀ two_ne_zero]
    norm_cast
  have hbinade : (2 : ℚ) ^ max (binade magnitude) (-1022) ≤ magnitude + 1 := by
    rcases le_total (binade magnitude) (-1022) with hsmall | hlarge
    · rw [max_eq_right hsmall]
      have hone : (2 : ℚ) ^ (-1022 : ℤ) ≤ 1 := zpow_le_one_of_nonpos₀ one_le_two (by decide)
      linarith
    · rw [max_eq_left hlarge]
      rcases hnonneg.eq_or_lt with rfl | hpositive
      · rw [show binade 0 = -1 from rfl]
        norm_num
      · have hlow : (2 : ℚ) ^ Int.log 2 magnitude ≤ magnitude :=
          Int.zpow_log_le_self one_lt_two hpositive
        rw [binade_eq_log hpositive]
        linarith
  rw [hpower, div_div, ← pow_succ]
  gcongr

/-! The numbers that fractions are rounded to. -/

def signed (value : ℚ) : ℚ := if value < 0 then -rounded |value| else rounded |value|

theorem signed_mono {low high : ℚ} (hle : low ≤ high) : signed low ≤ signed high := by
  have hlow := rounded_nonneg (abs_nonneg low)
  have hhigh := rounded_nonneg (abs_nonneg high)
  unfold signed
  split_ifs with hnegative hnegative' hnegative'
  · refine neg_le_neg (rounded_mono (abs_nonneg high) ?_)
    rw [abs_of_neg hnegative, abs_of_neg hnegative']
    exact neg_le_neg hle
  · linarith
  · exact absurd (hle.trans_lt hnegative') hnegative
  · refine rounded_mono (abs_nonneg low) ?_
    rwa [abs_of_nonneg (not_lt.mp hnegative), abs_of_nonneg (not_lt.mp hnegative')]

theorem abs_signed_sub (value : ℚ) : |signed value - value| ≤ (|value| + 1) / 2 ^ 53 := by
  have hnear := (abs_rounded_sub |value|).trans (quantum_le |value| (abs_nonneg value))
  unfold signed
  split
  · rename_i hnegative
    rw [abs_of_neg hnegative] at hnear ⊢
    rwa [← abs_neg, neg_sub, sub_neg_eq_add, add_comm, ← sub_neg_eq_add]
  · rename_i hnonnegative
    rwa [abs_of_nonneg (not_lt.mp hnonnegative)] at hnear ⊢

def capped (value : ℚ) : FloatValue :=
  if (2 ^ 1024 : Nat) ≤ value then .infinite false
  else if value ≤ -(2 ^ 1024 : Nat) then .infinite true
  else .finite value

theorem capped_mono {low high : ℚ} (hle : low ≤ high) :
    (capped low).atMost (capped high) = true := by
  rw [atMost_iff]
  unfold capped
  split_ifs <;> simp [place] <;> linarith

theorem ofRat_eq (value : ℚ) : ofRat value = capped (signed value) := by
  have habs : (if value < 0 then -value else value) = |value| := by
    split
    · rename_i hnegative
      exact (abs_of_neg hnegative).symm
    · rename_i hnonnegative
      exact (abs_of_nonneg (not_lt.mp hnonnegative)).symm
  have hnonneg := rounded_nonneg (abs_nonneg value)
  have hlimit : (0 : ℚ) < (2 ^ 1024 : Nat) := by positivity
  unfold ofRat capped signed
  dsimp only
  rw [habs]
  by_cases hzero : |value| = 0
  · rw [if_pos hzero, hzero, rounded_zero, abs_eq_zero.mp hzero, if_neg (lt_irrefl 0),
      if_neg (not_le.mpr hlimit), if_neg]
    rw [not_le]
    linarith
  · rw [if_neg hzero]
    change (if (2 ^ 1024 : Nat) ≤ rounded |value| then _ else finite (if _ then -rounded |value|
      else rounded |value|)) = _
    by_cases hnegative : value < 0
    · simp only [hnegative, decide_true, if_true, if_neg (show
        ¬((2 ^ 1024 : Nat) : ℚ) ≤ -rounded |value| by linarith), neg_le_neg_iff]
    · simp only [hnegative, decide_false, if_false, if_neg (show
        ¬rounded |value| ≤ -((2 ^ 1024 : Nat) : ℚ) by linarith)]

@[simp] theorem ofRat_zero : ofRat 0 = .finite 0 := by
  simp [ofRat]

theorem ofRat_mono {low high : ℚ} (hle : low ≤ high) :
    (ofRat low).atMost (ofRat high) = true := by
  rw [ofRat_eq, ofRat_eq]
  exact capped_mono (signed_mono hle)

theorem ofRat_ne_nan (value : ℚ) : ofRat value ≠ .nan := by
  rw [ofRat_eq]
  unfold capped
  split_ifs <;> nofun

theorem abs_sub_of_ofRat {value result : ℚ} (h : ofRat value = .finite result) :
    |result - value| ≤ (|value| + 1) / 2 ^ 53 := by
  rw [ofRat_eq] at h
  unfold capped at h
  split_ifs at h
  cases h
  exact abs_signed_sub value

/-! Products, and numbers between two others. -/

theorem ne_nan_of_atMost {low high : FloatValue} (h : low.atMost high = true) :
    low ≠ .nan ∧ high ≠ .nan := by
  obtain ⟨left, hleft, right, hright, -⟩ := atMost_iff.mp h
  constructor
  · rintro rfl
    cases hleft
  · rintro rfl
    cases hright

theorem infinite_true_atMost {value : FloatValue} (h : value ≠ .nan) :
    (infinite true).atMost value = true := by
  rcases value with _ | (_ | _) | value
  · exact absurd rfl h
  · rfl
  · rfl
  · rfl

theorem atMost_infinite_false {value : FloatValue} (h : value ≠ .nan) :
    value.atMost (infinite false) = true := by
  rcases value with _ | (_ | _) | value
  · exact absurd rfl h
  · rfl
  · rfl
  · rfl

@[simp] theorem scale_zero (factor : Nat) : (finite 0).scale factor = .finite 0 := by
  simp [scale]

theorem scale_ne_nan {value : FloatValue} {factor : Nat} (h : value ≠ .nan) :
    value.scale factor ≠ .nan := by
  cases value with
  | nan => exact absurd rfl h
  | infinite negative => nofun
  | finite value => exact ofRat_ne_nan _

theorem scale_mono {low high : FloatValue} {factor : Nat} (h : low.atMost high = true) :
    (low.scale factor).atMost (high.scale factor) = true := by
  obtain ⟨hlow, hhigh⟩ := ne_nan_of_atMost h
  rcases low with _ | (_ | _) | low
  · exact absurd rfl hlow
  · -- Nothing but plus infinity is above it.
    rcases high with _ | (_ | _) | high
    · exact absurd rfl hhigh
    · rfl
    · cases h
    · cases h
  · exact infinite_true_atMost (scale_ne_nan hhigh)
  · rcases high with _ | (_ | _) | high
    · exact absurd rfl hhigh
    · exact atMost_infinite_false (scale_ne_nan hlow)
    · cases h
    · have hle := finite_atMost_iff.mp h
      exact ofRat_mono (mul_le_mul_of_nonneg_right hle factor.cast_nonneg)

theorem finite_of_atMost {low high : ℚ} {middle : FloatValue}
    (hlow : (finite low).atMost middle = true) (hhigh : middle.atMost (finite high) = true) :
    ∃ value, middle = .finite value ∧ low ≤ value ∧ value ≤ high := by
  rcases middle with _ | (_ | _) | value
  · cases hlow
  · cases hhigh
  · cases hlow
  · exact ⟨value, rfl, finite_atMost_iff.mp hlow, finite_atMost_iff.mp hhigh⟩

end FloatValue

end BmwRemote.Lib
