import Mathlib.Data.List.Induction

/-! Runs of deterministic machines with their history. A transcript keeps, for
every call, the state before it, its input, its answer and the state after it,
so that "earlier in the run" is a statement about a prefix of a list. -/
namespace BmwRemote.Lib

universe u v w

structure Step (S : Type u) (I : Type v) (O : Type w) where
  before : S
  input : I
  output : O
  after : S

/-- A machine answers each input and moves to its next state. -/
abbrev Machine (S : Type u) (I : Type v) (O : Type w) := S → I → O × S

theorem concat_eq_append_cons {A : Type u} {past earlier since : List A} {next found : A}
    (h : past ++ [next] = earlier ++ found :: since) :
    next = found ∧ since = [] ∨
      ∃ between, since = between ++ [next] ∧ past = earlier ++ found :: between := by
  cases List.eq_nil_or_concat since with
  | inl hnone =>
    rw [hnone] at h
    have hlast := (List.append_inj' h rfl).2
    rw [List.cons.injEq] at hlast
    exact .inl ⟨hlast.1, hnone⟩
  | inr hmore =>
    obtain ⟨between, last, hsince⟩ := hmore
    rw [hsince, List.concat_eq_append, ← List.cons_append, ← List.append_assoc] at h
    obtain ⟨hbefore, hlast⟩ := List.append_inj' h rfl
    rw [List.cons.injEq] at hlast
    exact .inr ⟨between, by rw [hsince, List.concat_eq_append, hlast.1], hbefore⟩

theorem forall_split_concat {A : Type u} {holds : List A → A → Prop} {past : List A} {next : A} :
    (∀ earlier found since, past ++ [next] = earlier ++ found :: since → holds earlier found) ↔
      (∀ earlier found since, past = earlier ++ found :: since → holds earlier found) ∧
        holds past next := by
  constructor
  · intro hall
    refine ⟨?_, hall past next [] rfl⟩
    intro earlier found since hsplit
    apply hall earlier found (since ++ [next])
    rw [hsplit, List.append_assoc, List.cons_append]
  · rintro ⟨hpast, hnext⟩ earlier found since hsplit
    rcases concat_eq_append_cons hsplit with ⟨hlast, hnone⟩ | ⟨between, -, hbefore⟩
    · rw [hnone] at hsplit
      rw [← hlast, ← (List.append_inj' hsplit rfl).1]
      exact hnext
    · exact hpast earlier found between hbefore

namespace Machine

variable {S : Type u} {I : Type v} {O : Type w}

def stepOf (machine : Machine S I O) (state : S) (input : I) : Step S I O :=
  ⟨state, input, (machine state input).1, (machine state input).2⟩

def final (machine : Machine S I O) : S → List I → S
  | state, [] => state
  | state, input :: rest => final machine (machine state input).2 rest

def transcript (machine : Machine S I O) : S → List I → List (Step S I O)
  | _, [] => []
  | state, input :: rest =>
      machine.stepOf state input :: transcript machine (machine state input).2 rest

@[simp] theorem stepOf_before (machine : Machine S I O) (state : S) (input : I) :
    (machine.stepOf state input).before = state := rfl

@[simp] theorem stepOf_input (machine : Machine S I O) (state : S) (input : I) :
    (machine.stepOf state input).input = input := rfl

@[simp] theorem stepOf_output (machine : Machine S I O) (state : S) (input : I) :
    (machine.stepOf state input).output = (machine state input).1 := rfl

@[simp] theorem stepOf_after (machine : Machine S I O) (state : S) (input : I) :
    (machine.stepOf state input).after = (machine state input).2 := rfl

@[simp] theorem final_nil (machine : Machine S I O) (state : S) :
    machine.final state [] = state := rfl

@[simp] theorem transcript_nil (machine : Machine S I O) (state : S) :
    machine.transcript state [] = [] := rfl

theorem final_append (machine : Machine S I O) (state : S) (left right : List I) :
    machine.final state (left ++ right) = machine.final (machine.final state left) right := by
  induction left generalizing state with
  | nil => rfl
  | cons input rest ih =>
    rw [List.cons_append]
    exact ih (machine state input).2

theorem transcript_append (machine : Machine S I O) (state : S) (left right : List I) :
    machine.transcript state (left ++ right) =
      machine.transcript state left ++ machine.transcript (machine.final state left) right := by
  induction left generalizing state with
  | nil => rfl
  | cons input rest ih =>
    rw [List.cons_append, transcript, transcript, List.cons_append, ih, final]

theorem map_input_transcript (machine : Machine S I O) (state : S) (inputs : List I) :
    (machine.transcript state inputs).map (fun call => call.input) = inputs := by
  induction inputs generalizing state with
  | nil => rfl
  | cons input rest ih =>
    rw [transcript, List.map_cons, ih]
    rfl

@[simp] theorem final_concat (machine : Machine S I O) (state : S) (inputs : List I) (input : I) :
    machine.final state (inputs ++ [input]) = (machine (machine.final state inputs) input).2 :=
  final_append machine state inputs [input]

@[simp] theorem transcript_concat (machine : Machine S I O) (state : S) (inputs : List I)
    (input : I) :
    machine.transcript state (inputs ++ [input]) =
      machine.transcript state inputs ++ [machine.stepOf (machine.final state inputs) input] :=
  transcript_append machine state inputs [input]

/-- What holds of a state and the history that led to it is proved one call at
a time: for no history, and after one more call. -/
theorem history_induction (machine : Machine S I O) (holds : S → List (Step S I O) → Prop)
    {start : S} (initial : holds start [])
    (preserved : ∀ state past, holds state past → ∀ input,
      holds (machine state input).2 (past ++ [machine.stepOf state input]))
    (inputs : List I) :
    holds (machine.final start inputs) (machine.transcript start inputs) := by
  induction inputs using List.reverseRecOn with
  | nil => exact initial
  | append_singleton inputs input ih =>
    rw [final_concat, transcript_concat]
    exact preserved _ _ ih input

theorem invariant_induction (machine : Machine S I O) (holds : S → Prop)
    {start : S} (initial : holds start)
    (preserved : ∀ state, holds state → ∀ input, holds (machine state input).2)
    (inputs : List I) : holds (machine.final start inputs) :=
  machine.history_induction (fun state _ => holds state) initial
    (fun state _ h input => preserved state h input) inputs

theorem eq_stepOf_of_mem (machine : Machine S I O) {start : S} {inputs : List I}
    {call : Step S I O} (h : call ∈ machine.transcript start inputs) :
    call = machine.stepOf call.before call.input := by
  induction inputs generalizing start with
  | nil => cases h
  | cons input rest ih =>
    rw [transcript, List.mem_cons] at h
    rcases h with rfl | hmem
    · rfl
    · exact ih hmem

theorem transcript_split (machine : Machine S I O) {start : S} {inputs : List I}
    {past future : List (Step S I O)} {call : Step S I O}
    (h : machine.transcript start inputs = past ++ call :: future) :
    ∃ earlier input later, inputs = earlier ++ input :: later ∧
      past = machine.transcript start earlier ∧
      call = machine.stepOf (machine.final start earlier) input := by
  induction inputs generalizing start past with
  | nil => simp at h
  | cons input rest ih =>
    rw [transcript] at h
    cases past with
    | nil =>
      rw [List.nil_append, List.cons.injEq] at h
      exact ⟨[], input, rest, rfl, rfl, h.1.symm⟩
    | cons first past =>
      rw [List.cons_append, List.cons.injEq] at h
      rcases ih h.2 with ⟨earlier, chosen, later, hrest, hpast, hcall⟩
      refine ⟨input :: earlier, chosen, later, ?_, ?_, hcall⟩
      · rw [hrest, List.cons_append]
      · rw [transcript, ← hpast, h.1]

/-- A history invariant, read at one call of a run. -/
theorem history_at (machine : Machine S I O) (holds : S → List (Step S I O) → Prop)
    {start : S} (initial : holds start [])
    (preserved : ∀ state past, holds state past → ∀ input,
      holds (machine state input).2 (past ++ [machine.stepOf state input]))
    {inputs : List I} {past future : List (Step S I O)} {call : Step S I O}
    (h : machine.transcript start inputs = past ++ call :: future) :
    holds call.before past ∧ call = machine.stepOf call.before call.input := by
  rcases machine.transcript_split h with ⟨earlier, input, later, -, hpast, hcall⟩
  rw [hcall, hpast]
  exact ⟨machine.history_induction holds initial preserved earlier, rfl⟩

/-- A property holds all along a run exactly when every call is a good one, where a good
call is what keeps the property. -/
theorem always_iff (machine : Machine S I O) (holds : S → List (Step S I O) → Prop)
    (good : Step S I O → Prop) {start : S} (initial : holds start [])
    (preserved : ∀ earlier input,
      holds (machine.final start earlier) (machine.transcript start earlier) →
      (holds (machine.final start (earlier ++ [input]))
          (machine.transcript start (earlier ++ [input])) ↔
        good (machine.stepOf (machine.final start earlier) input)))
    (inputs : List I) :
    (∀ earlier later, inputs = earlier ++ later →
        holds (machine.final start earlier) (machine.transcript start earlier)) ↔
      ∀ call ∈ machine.transcript start inputs, good call := by
  induction inputs using List.reverseRecOn with
  | nil =>
    simp only [transcript_nil, List.not_mem_nil, false_implies, implies_true, iff_true]
    intro earlier later h
    rw [(List.append_eq_nil_iff.1 h.symm).1]
    exact initial
  | append_singleton inputs input ih =>
    rw [transcript_concat, List.forall_mem_append, List.forall_mem_singleton, ← ih]
    constructor
    · intro hall
      have hbefore := hall inputs [input] rfl
      refine ⟨fun earlier later h => hall earlier (later ++ [input]) ?_, ?_⟩
      · rw [h, List.append_assoc]
      · exact (preserved inputs input hbefore).1 (hall _ [] (List.append_nil _).symm)
    · rintro ⟨hall, hgood⟩ earlier later h
      cases List.eq_nil_or_concat later with
      | inl hnone =>
        rw [hnone, List.append_nil] at h
        rw [← h]
        exact (preserved inputs input (hall inputs [] (List.append_nil _).symm)).2 hgood
      | inr hmore =>
        obtain ⟨between, last, hlater⟩ := hmore
        rw [hlater, List.concat_eq_append, ← List.append_assoc] at h
        exact hall earlier between (List.append_inj' h rfl).1

theorem final_kept {V : Type*} (machine : Machine S I O) (value : S → V) (held : V → Prop)
    {state : S} {inputs : List I}
    (kept : ∀ call ∈ machine.transcript state inputs, held (value call.before) →
      value call.after = value call.before)
    (h : held (value state)) : value (machine.final state inputs) = value state := by
  induction inputs generalizing state with
  | nil => rfl
  | cons input rest ih =>
    rw [transcript, List.forall_mem_cons] at kept
    have hfirst := kept.1 h
    simp only [stepOf_before, stepOf_after] at hfirst
    rw [final, ih kept.2 (hfirst ▸ h), hfirst]

/-- A held value stays through every part of a run without a release exactly when every
call of the run either releases or keeps it. -/
theorem kept_iff {V : Type*} (machine : Machine S I O) (value : S → V) (held : V → Prop)
    (released : Step S I O → Prop) (start : S) (inputs : List I) :
    (∀ earlier middle later, inputs = earlier ++ middle ++ later →
        held (value (machine.final start earlier)) →
        (∀ call ∈ machine.transcript (machine.final start earlier) middle, ¬ released call) →
        value (machine.final start (earlier ++ middle)) = value (machine.final start earlier)) ↔
      ∀ call ∈ machine.transcript start inputs, held (value call.before) →
        ¬ released call → value call.after = value call.before := by
  constructor
  · intro hparts call hmem hheld hkeeps
    obtain ⟨past, future, hsplit⟩ := List.append_of_mem hmem
    obtain ⟨earlier, input, later, hinputs, -, hcall⟩ := machine.transcript_split hsplit
    rw [hcall] at hheld hkeeps ⊢
    have hpart := hparts earlier [input] later (by simp [hinputs]) hheld (by simpa [transcript])
    rwa [final_concat] at hpart
  · rintro hall earlier middle later rfl hheld hkeeps
    rw [final_append]
    apply machine.final_kept value held _ hheld
    intro call hmem hlatched
    apply hall call _ hlatched (hkeeps call hmem)
    rw [transcript_append, transcript_append]
    exact List.mem_append_left _ (List.mem_append_right _ hmem)

/-- A property of histories that one more call keeps exactly when it is a good one after its
past holds of a whole run exactly when all its calls are good ones. -/
theorem history_iff (machine : Machine S I O) (holds : List (Step S I O) → Prop)
    (good : List (Step S I O) → Step S I O → Prop) {start : S} (initial : holds [])
    (step : ∀ inputs input,
      holds (machine.transcript start inputs ++
          [machine.stepOf (machine.final start inputs) input]) ↔
        holds (machine.transcript start inputs) ∧
          good (machine.transcript start inputs)
            (machine.stepOf (machine.final start inputs) input))
    (inputs : List I) :
    holds (machine.transcript start inputs) ↔
      ∀ past call future, machine.transcript start inputs = past ++ call :: future →
        good past call := by
  induction inputs using List.reverseRecOn with
  | nil => simpa using initial
  | append_singleton inputs input ih =>
    rw [transcript_concat, step, ih, forall_split_concat]

theorem final_of_keeps (machine : Machine S I O) {state : S} {inputs : List I}
    (h : ∀ input ∈ inputs, (machine state input).2 = state) :
    machine.final state inputs = state := by
  induction inputs with
  | nil => rfl
  | cons input rest ih =>
    obtain ⟨hfirst, hrest⟩ := List.forall_mem_cons.mp h
    rw [final, hfirst]
    exact ih hrest

theorem final_stays (machine : Machine S I O) {state : S} {inputs : List I} {holds : S → Prop}
    (hstays : ∀ input ∈ inputs, ∀ state, holds state → holds (machine state input).2)
    (h : holds state) : holds (machine.final state inputs) := by
  induction inputs generalizing state with
  | nil => exact h
  | cons input rest ih =>
    obtain ⟨hinput, hrest⟩ := List.forall_mem_cons.mp hstays
    exact ih hrest (hinput state h)

/-- A phase lasts as long as its inputs are those that keep it; after any other the machine
has stopped, and stays so. -/
theorem final_phase (machine : Machine S I O) {state : S} {inputs : List I} {keeps : I → Prop}
    {stopped : S → Prop} (hkeep : ∀ input ∈ inputs, keeps input → (machine state input).2 = state)
    (hstop : ∀ input ∈ inputs, ¬ keeps input → stopped (machine state input).2)
    (hstays : ∀ input ∈ inputs, ∀ state, stopped state → stopped (machine state input).2) :
    ((∀ input ∈ inputs, keeps input) ∧ machine.final state inputs = state) ∨
      (¬ (∀ input ∈ inputs, keeps input) ∧ stopped (machine.final state inputs)) := by
  induction inputs with
  | nil => exact .inl ⟨nofun, rfl⟩
  | cons input rest ih =>
    obtain ⟨hkeep, hkeepRest⟩ := List.forall_mem_cons.mp hkeep
    obtain ⟨hstop, hstopRest⟩ := List.forall_mem_cons.mp hstop
    obtain ⟨-, hstaysRest⟩ := List.forall_mem_cons.mp hstays
    rw [List.forall_mem_cons, final]
    by_cases hinput : keeps input
    · rw [hkeep hinput]
      rcases ih hkeepRest hstopRest hstaysRest with ⟨hall, hfinal⟩ | ⟨hsome, hfinal⟩
      · exact .inl ⟨⟨hinput, hall⟩, hfinal⟩
      · exact .inr ⟨fun h => hsome h.2, hfinal⟩
    · refine .inr ⟨fun h => hinput h.1, ?_⟩
      exact machine.final_stays hstaysRest (hstop hinput)

end Machine

theorem getElem?_concat_eq_some {A : Type u} {past : List A} {next found : A} {position : Nat} :
    (past ++ [next])[position]? = some found ↔
      past[position]? = some found ∨ position = past.length ∧ next = found := by
  rcases Nat.lt_trichotomy position past.length with h | h | h
  · rw [List.getElem?_append_left h]
    simp [Nat.ne_of_lt h]
  · simp [h]
  · rw [List.getElem?_eq_none (by simp; omega), List.getElem?_eq_none (by omega)]
    simp [Nat.ne_of_gt h]

/-- `since` is what came after the last `event` of a history, which was `last`. -/
def Since {A : Type u} (event : A → Prop) (past : List A) (last : A) (since : List A) : Prop :=
  (∃ earlier, past = earlier ++ last :: since) ∧ event last ∧ ∀ next ∈ since, ¬ event next

namespace Since

variable {A : Type u} {event : A → Prop} {past since : List A} {last next : A}

theorem here (h : event next) : Since event (past ++ [next]) next [] :=
  ⟨⟨past, rfl⟩, h, by simp⟩

theorem concat (h : Since event past last since) (hnext : ¬ event next) :
    Since event (past ++ [next]) last (since ++ [next]) := by
  rcases h with ⟨⟨earlier, hpast⟩, hlast, hsince⟩
  refine ⟨⟨earlier, ?_⟩, hlast, ?_⟩
  · rw [hpast, List.append_assoc, List.cons_append]
  · simpa [or_imp, forall_and] using ⟨hsince, hnext⟩

end Since

theorem mem_after_of_notMem {A : Type u} {older between earlier later : List A} {first second : A}
    (h : older ++ first :: between = earlier ++ second :: later)
    (hnot : first ∉ second :: later) : second ∈ between := by
  rcases List.append_eq_append_iff.1 h with ⟨middle, -, hmiddle⟩ | ⟨middle, -, hmiddle⟩
  · cases middle with
    | nil =>
      rw [List.nil_append, List.cons.injEq] at hmiddle
      exact absurd (hmiddle.1 ▸ List.mem_cons_self) hnot
    | cons head middle =>
      rw [List.cons_append, List.cons.injEq] at hmiddle
      rw [hmiddle.2]
      exact List.mem_append_right middle List.mem_cons_self
  · rw [hmiddle] at hnot
    exact absurd (List.mem_append_right middle List.mem_cons_self) hnot

end BmwRemote.Lib
