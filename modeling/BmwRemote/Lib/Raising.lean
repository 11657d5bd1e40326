import Mathlib.Data.List.Forall2
import Mathlib.Logic.Basic

/-! Steps that may fail, and which of their errors are bad ones. -/
namespace BmwRemote.Lib

variable {ε α β : Type}

theorem bind_eq_ok_iff {first : Except ε α} {next : α → Except ε β} {result : β} :
    first >>= next = .ok result ↔ ∃ value, first = .ok value ∧ next value = .ok result := by
  cases first with
  | error message => simp [bind, Except.bind]
  | ok value => simp [bind, Except.bind]

theorem mapError_eq_ok_iff {ε' : Type} {result : Except ε α} {change : ε → ε'} {value : α} :
    result.mapError change = .ok value ↔ result = .ok value := by
  cases result <;> simp [Except.mapError]

/-- A step ends with a bad error. -/
def Raises (bad : ε → Prop) (result : Except ε α) : Prop := ∃ error, result = .error error ∧ bad error

variable {bad : ε → Prop}

@[simp] theorem not_raises_ok (value : α) : ¬ Raises bad (.ok value : Except ε α) := by
  rintro ⟨error, h, -⟩
  cases h

@[simp] theorem not_raises_pure (value : α) : ¬ Raises bad (pure value : Except ε α) :=
  not_raises_ok value

@[simp] theorem raises_error {error : ε} : Raises bad (.error error : Except ε α) ↔ bad error := by
  constructor
  · rintro ⟨other, h, hbad⟩
    cases h
    exact hbad
  · exact fun hbad => ⟨error, rfl, hbad⟩

theorem raises_bind {first : Except ε α} {next : α → Except ε β} :
    Raises bad (first >>= next) ↔
      Raises bad first ∨ ∃ value, first = .ok value ∧ Raises bad (next value) := by
  cases first with
  | error error => simp [bind, Except.bind]
  | ok value => simp [bind, Except.bind]

theorem mapM_of_ok {step : α → Except ε β} {items : List α}
    (h : ∀ item ∈ items, ∃ result, step item = .ok result) :
    ∃ results, items.mapM step = .ok results ∧
      List.Forall₂ (fun item result => step item = .ok result) items results := by
  induction items with
  | nil => exact ⟨[], rfl, .nil⟩
  | cons item rest ih =>
    rw [List.forall_mem_cons] at h
    obtain ⟨result, hresult⟩ := h.1
    obtain ⟨results, hresults, hall⟩ := ih h.2
    refine ⟨result :: results, ?_, .cons hresult hall⟩
    rw [List.mapM_cons, hresult, hresults]
    rfl

/-! The first element of a list that is not good. -/

/-- A bad element is met, and only good ones before it. -/
def Meets (good bad : α → Prop) (elements : List α) : Prop :=
  ∃ before found after, elements = before ++ found :: after ∧ (∀ earlier ∈ before, good earlier) ∧
    bad found

variable {good badElement : α → Prop}

theorem not_meets_nil : ¬ Meets good badElement [] := by
  rintro ⟨before, found, after, h, -⟩
  simp at h

theorem meets_cons {element : α} {rest : List α} :
    Meets good badElement (element :: rest) ↔
      badElement element ∨ good element ∧ Meets good badElement rest := by
  constructor
  · rintro ⟨before, found, after, hsplit, hgood, hbad⟩
    cases before with
    | nil =>
      rw [List.nil_append, List.cons.injEq] at hsplit
      exact .inl (hsplit.1 ▸ hbad)
    | cons first before =>
      rw [List.cons_append, List.cons.injEq] at hsplit
      rw [List.forall_mem_cons] at hgood
      exact .inr ⟨hsplit.1 ▸ hgood.1, before, found, after, hsplit.2, hgood.2, hbad⟩
  · rintro (hbad | ⟨hgood, before, found, after, hsplit, hbefore, hbad⟩)
    · exact ⟨[], element, rest, rfl, by simp, hbad⟩
    · refine ⟨element :: before, found, after, ?_, ?_, hbad⟩
      · rw [hsplit, List.cons_append]
      · exact List.forall_mem_cons.2 ⟨hgood, hbefore⟩

end BmwRemote.Lib
