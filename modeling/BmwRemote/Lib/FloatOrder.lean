import BmwRemote.Lib.Binary64
import Mathlib.Order.WithBot

/-! How floating-point numbers compare is the order of their places on the line, for those that
have one. -/
namespace BmwRemote.Lib.FloatValue

/-- The place of a number among the others, from minus infinity to infinity. -/
def place : FloatValue → Option (WithBot (WithTop ℚ))
  | .nan => none
  | .infinite true => some ⊥
  | .infinite false => some ((⊤ : WithTop ℚ) : WithBot (WithTop ℚ))
  | .finite value => some ((value : WithTop ℚ) : WithBot (WithTop ℚ))

variable {low middle high : FloatValue}

theorem below_iff :
    low.below high = true ↔ ∃ left ∈ low.place, ∃ right ∈ high.place, left < right := by
  rcases low with _ | (_ | _) | left
  all_goals rcases high with _ | (_ | _) | right
  all_goals simp [below, place, lt_top_iff_ne_top]

theorem equals_iff : low.equals high = true ↔ ∃ both ∈ low.place, both ∈ high.place := by
  rcases low with _ | (_ | _) | left
  all_goals rcases high with _ | (_ | _) | right
  all_goals simp [equals, place, eq_comm]

theorem atMost_iff :
    low.atMost high = true ↔ ∃ left ∈ low.place, ∃ right ∈ high.place, left ≤ right := by
  rw [atMost, Bool.or_eq_true, below_iff, equals_iff]
  constructor
  · rintro (⟨left, hleft, right, hright, hlt⟩ | ⟨both, hlow, hhigh⟩)
    · exact ⟨left, hleft, right, hright, le_of_lt hlt⟩
    · exact ⟨both, hlow, both, hhigh, le_refl both⟩
  · rintro ⟨left, hleft, right, hright, hle⟩
    rcases lt_or_eq_of_le hle with hlt | heq
    · exact .inl ⟨left, hleft, right, hright, hlt⟩
    · exact .inr ⟨left, hleft, heq ▸ hright⟩

theorem finite_atMost_iff {left right : ℚ} :
    (finite left).atMost (finite right) = true ↔ left ≤ right := by
  simp [atMost_iff, place]

theorem below_of_atMost_of_below (hle : low.atMost middle = true)
    (hlt : middle.below high = true) : low.below high = true := by
  rw [atMost_iff] at hle
  rw [below_iff] at hlt ⊢
  obtain ⟨left, hleft, between, hbetween, hle⟩ := hle
  obtain ⟨other, hother, right, hright, hlt⟩ := hlt
  rw [Option.mem_unique hother hbetween] at hlt
  exact ⟨left, hleft, right, hright, lt_of_le_of_lt hle hlt⟩

theorem atMost_trans (hlow : low.atMost middle = true) (hhigh : middle.atMost high = true) :
    low.atMost high = true := by
  rw [atMost_iff] at hlow hhigh ⊢
  obtain ⟨left, hleft, between, hbetween, hlow⟩ := hlow
  obtain ⟨other, hother, right, hright, hhigh⟩ := hhigh
  rw [Option.mem_unique hother hbetween] at hhigh
  exact ⟨left, hleft, right, hright, le_trans hlow hhigh⟩

theorem not_below_of_atMost (h : low.atMost high = true) : high.below low = false := by
  rw [← Bool.not_eq_true, below_iff]
  rw [atMost_iff] at h
  obtain ⟨left, hleft, right, hright, hle⟩ := h
  rintro ⟨other, hother, another, hanother, hlt⟩
  rw [Option.mem_unique hother hright, Option.mem_unique hanother hleft] at hlt
  exact absurd hlt (not_lt_of_ge hle)

theorem finite_of_between (hlow : low.below middle = true) (hhigh : middle.below high = true) :
    middle.isFinite = true := by
  rw [below_iff] at hlow hhigh
  rcases middle with _ | (_ | _) | value
  · simp [place] at hlow
  · simp [place] at hhigh
  · simp [place] at hlow
  · rfl

theorem atMost_of_not_below (hlow : low.isFinite = true) (hhigh : high.isFinite = true)
    (h : high.below low = false) : low.atMost high = true := by
  cases low with
  | finite left =>
    cases high with
    | finite right =>
      rw [← Bool.not_eq_true, below_iff] at h
      rw [atMost_iff]
      refine ⟨_, rfl, _, rfl, le_of_not_gt fun hlt => h ⟨_, rfl, _, rfl, hlt⟩⟩
    | infinite negative => cases hhigh
    | nan => cases hhigh
  | infinite negative => cases hlow
  | nan => cases hlow

end BmwRemote.Lib.FloatValue
