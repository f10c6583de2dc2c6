/-!
# Foundations - Labelled transition systems and guarded runs

A program whose tasks take turns is described by a deterministic labelled
transition system: the label says which task moves and what its environment
answers, the partial step function says what the move does.  This file fixes
runs, the two ways of quantifying over a run, and the induction rules that turn
a fact about one step into a fact about a whole run.

Main results:

- Theorem `Machine.invariant_reachable`: an invariant that holds initially and is
  kept by every step holds in every reachable state.
- Theorem `Machine.allStates_of_allSteps`: an invariant kept by every step that
  meets a guard holds along every run whose steps all meet the guard.
- Theorem `Machine.allStates_iff_allSteps`: when a step outside the guard also
  breaks the property, the guard is exact.
- Theorem `Machine.alwaysAfter_of_invariant`: what every later step does, as long as
  only some labels occur.
-/

namespace Foundations

universe u v

/-- A deterministic labelled transition system.  `step s l = none` says that the
label `l` is not enabled in the state `s`. -/
structure Machine (State : Type u) (Label : Type v) where
  init : State
  step : State → Label → Option State

namespace Machine

variable {State : Type u} {Label : Type v} (M : Machine State Label)

/-! ## Runs -/

/-- Follow a list of labels; `none` when one of them is not enabled. -/
def run : State → List Label → Option State
  | s, [] => some s
  | s, l :: ls => (M.step s l).bind fun s' => run s' ls

/-- A state is reachable when some run from the initial state ends in it. -/
def Reachable (s : State) : Prop :=
  ∃ ls, M.run M.init ls = some s

@[simp]
theorem run_nil (s : State) : M.run s [] = some s :=
  rfl

theorem run_cons_eq_some {s t : State} {l : Label} {ls : List Label} :
    M.run s (l :: ls) = some t ↔ ∃ s', M.step s l = some s' ∧ M.run s' ls = some t := by
  simp [run, Option.bind_eq_some_iff]

/-- Running two label lists in a row is running their concatenation. -/
theorem run_append (s : State) (ls₁ ls₂ : List Label) :
    M.run s (ls₁ ++ ls₂) = (M.run s ls₁).bind fun s' => M.run s' ls₂ := by
  induction ls₁ generalizing s with
  | nil => rfl
  | cons l ls₁ ih =>
      simp only [List.cons_append, run]
      cases M.step s l with
      | none => rfl
      | some s' => exact ih s'

theorem reachable_init : M.Reachable M.init :=
  ⟨[], rfl⟩

variable {M} in
theorem Reachable.step {s s' : State} {l : Label} (h : M.Reachable s)
    (hl : M.step s l = some s') : M.Reachable s' := by
  obtain ⟨ls, hrun⟩ := h
  exact ⟨ls ++ [l], by simp [run_append, hrun, run, hl]⟩

/-- A property kept by every step survives every run. -/
theorem invariant_run {Inv : State → Prop}
    (hstep : ∀ s l s', Inv s → M.step s l = some s' → Inv s')
    {s t : State} {ls : List Label} (hs : Inv s) (hrun : M.run s ls = some t) : Inv t := by
  induction ls generalizing s with
  | nil =>
      cases hrun
      exact hs
  | cons l ls ih =>
      obtain ⟨s', hl, hrest⟩ := (M.run_cons_eq_some).1 hrun
      exact ih (hstep s l s' hs hl) hrest

/-- An invariant that holds initially and is kept by every step holds in every
reachable state. -/
theorem invariant_reachable {Inv : State → Prop} (hinit : Inv M.init)
    (hstep : ∀ s l s', Inv s → M.step s l = some s' → Inv s')
    {s : State} (hs : M.Reachable s) : Inv s := by
  obtain ⟨ls, hrun⟩ := hs
  exact M.invariant_run hstep hinit hrun

/-- A property of a state and the labels that led to it, kept by every step. -/
theorem invariant_history_from {Inv : List Label → State → Prop}
    (hstep : ∀ past s l s', Inv past s → M.step s l = some s' → Inv (past ++ [l]) s')
    {past ls : List Label} {s t : State} (hs : Inv past s) (hrun : M.run s ls = some t) :
    Inv (past ++ ls) t := by
  induction ls generalizing past s with
  | nil =>
      cases hrun
      simpa using hs
  | cons l ls ih =>
      obtain ⟨s', hl, hrest⟩ := (M.run_cons_eq_some).1 hrun
      simpa using ih (hstep past s l s' hs hl) hrest

/-- An invariant of a run that also speaks of its labels. -/
theorem invariant_history {Inv : List Label → State → Prop} (hinit : Inv [] M.init)
    (hstep : ∀ past s l s', Inv past s → M.step s l = some s' → Inv (past ++ [l]) s')
    {ls : List Label} {s : State} (hrun : M.run M.init ls = some s) : Inv ls s :=
  M.invariant_history_from hstep hinit hrun

/-- A property that turns true along a run turns true at one of its steps. -/
theorem exists_step_of_run (P : State → Prop) {s t : State} {ls : List Label}
    (hrun : M.run s ls = some t) (hs : ¬ P s) (ht : P t) :
    ∃ pre l post s₁ s₂, ls = pre ++ l :: post ∧ M.run s pre = some s₁ ∧
      M.step s₁ l = some s₂ ∧ ¬ P s₁ ∧ P s₂ := by
  induction ls generalizing s with
  | nil =>
      cases hrun
      exact absurd ht hs
  | cons l ls ih =>
      obtain ⟨s', hl, hrest⟩ := (M.run_cons_eq_some).1 hrun
      by_cases hs' : P s'
      · exact ⟨[], l, ls, s, s', rfl, rfl, hl, hs, hs'⟩
      · obtain ⟨pre, l', post, s₁, s₂, hls, hpre, hstep, hbefore, hafter⟩ := ih hrest hs'
        have hpre' : M.run s (l :: pre) = some s₁ := (M.run_cons_eq_some).2 ⟨s', hl, hpre⟩
        exact ⟨l :: pre, l', post, s₁, s₂, by rw [hls]; rfl, hpre', hstep, hbefore, hafter⟩

/-! ## Quantifying over a run -/

/-- `P` holds in the first state of the run and in every state it passes through. -/
def AllStates (P : State → Prop) : State → List Label → Prop
  | s, [] => P s
  | s, l :: ls => P s ∧ ∀ s', M.step s l = some s' → AllStates P s' ls

/-- Every step the run takes meets the guard `G` in the state it is taken from. -/
def AllSteps (G : State → Label → Prop) : State → List Label → Prop
  | _, [] => True
  | s, l :: ls => ∀ s', M.step s l = some s' → G s l ∧ AllSteps G s' ls

/-- A property of all states of a run holds in its first state. -/
theorem AllStates.head {M : Machine State Label} {P : State → Prop} {s : State}
    {ls : List Label} (h : M.AllStates P s ls) : P s := by
  cases ls with
  | nil => exact h
  | cons l ls => exact h.1

/-- A property of all states of a run holds in its last state. -/
theorem AllStates.last {M : Machine State Label} {P : State → Prop} {s t : State}
    {ls : List Label} (h : M.AllStates P s ls) (hrun : M.run s ls = some t) : P t := by
  induction ls generalizing s with
  | nil =>
      cases hrun
      exact h
  | cons l ls ih =>
      obtain ⟨s', hl, hrest⟩ := (M.run_cons_eq_some).1 hrun
      exact ih (h.2 s' hl) hrest

/-- A property of all states of a run says something of each step that is taken in one. -/
theorem AllStates.allSteps {M : Machine State Label} {P : State → Prop}
    {G : State → Label → Prop} (hG : ∀ s l s', P s → M.step s l = some s' → G s l) {s : State}
    {ls : List Label} (h : M.AllStates P s ls) : M.AllSteps G s ls := by
  induction ls generalizing s with
  | nil => trivial
  | cons l ls ih => exact fun s' hl => ⟨hG s l s' h.1 hl, ih (h.2 s' hl)⟩

/-- The steps of the second part of a run are steps of the run. -/
theorem AllSteps.of_append {M : Machine State Label} {G : State → Label → Prop} {s t : State}
    {ls₁ ls₂ : List Label} (h : M.AllSteps G s (ls₁ ++ ls₂)) (hrun : M.run s ls₁ = some t) :
    M.AllSteps G t ls₂ := by
  induction ls₁ generalizing s with
  | nil =>
      cases hrun
      exact h
  | cons l ls₁ ih =>
      obtain ⟨s', hl, hrest⟩ := (M.run_cons_eq_some).1 hrun
      exact ih (h s' hl).2 hrest

theorem AllSteps.cons {M : Machine State Label} {G : State → Label → Prop} {s s' : State}
    {l : Label} {ls : List Label} (hl : M.step s l = some s') (hG : G s l)
    (h : M.AllSteps G s' ls) : M.AllSteps G s (l :: ls) := by
  intro t ht
  cases hl.symm.trans ht
  exact ⟨hG, h⟩

/-- A guard that is decidable can be checked along a run. -/
instance decidableAllSteps (G : State → Label → Prop) [∀ s l, Decidable (G s l)] :
    ∀ s ls, Decidable (M.AllSteps G s ls)
  | _, [] => isTrue trivial
  | s, l :: ls =>
      match h : M.step s l with
      | none => isTrue fun s' hs => by cases h.symm.trans hs
      | some s' =>
          have := decidableAllSteps G s' ls
          decidable_of_iff (G s l ∧ M.AllSteps G s' ls)
            ⟨fun hG => AllSteps.cons h hG.1 hG.2, fun hG => hG s' h⟩

/-- Guarded induction: an invariant kept by the steps that meet the guard yields
its consequence in every state of a run whose steps all meet the guard. -/
theorem allStates_of_allSteps {Inv P : State → Prop} {G : State → Label → Prop}
    (hstep : ∀ s l s', Inv s → G s l → M.step s l = some s' → Inv s')
    (hP : ∀ s, Inv s → P s) {s : State} {ls : List Label} (hs : Inv s)
    (hguard : M.AllSteps G s ls) : M.AllStates P s ls := by
  induction ls generalizing s with
  | nil => exact hP s hs
  | cons l ls ih =>
      refine ⟨hP s hs, fun s' hl => ?_⟩
      obtain ⟨hG, hrest⟩ := hguard s' hl
      exact ih (hstep s l s' hs hG hl) hrest

/-- An invariant holds in every state of a run, and so does what follows from it. -/
theorem allStates_of_invariant {Inv P : State → Prop}
    (hstep : ∀ s l s', Inv s → M.step s l = some s' → Inv s') (hP : ∀ s, Inv s → P s)
    {s : State} (hs : Inv s) (ls : List Label) : M.AllStates P s ls := by
  induction ls generalizing s with
  | nil => exact hP s hs
  | cons l ls ih => exact ⟨hP s hs, fun s' hl => ih (hstep s l s' hs hl)⟩

/-- An invariant holds before every step of a run, and so does what follows from it. -/
theorem allSteps_of_invariant {Inv : State → Prop} {G : State → Label → Prop}
    (hstep : ∀ s l s', Inv s → M.step s l = some s' → Inv s') (hG : ∀ s l, Inv s → G s l)
    {s : State} (hs : Inv s) (ls : List Label) : M.AllSteps G s ls := by
  induction ls generalizing s with
  | nil => trivial
  | cons l ls ih => exact fun s' hl => ⟨hG s l hs, ih (hstep s l s' hs hl)⟩

/-- Exact guards: if moreover a step outside the guard always leads from the
invariant to a state without the property, then the property holds along a run
exactly when all its steps meet the guard. -/
theorem allStates_iff_allSteps {Inv P : State → Prop} {G : State → Label → Prop}
    (hstep : ∀ s l s', Inv s → G s l → M.step s l = some s' → Inv s')
    (hP : ∀ s, Inv s → P s)
    (hbreak : ∀ s l s', Inv s → M.step s l = some s' → P s' → G s l)
    {s : State} {ls : List Label} (hs : Inv s) :
    M.AllStates P s ls ↔ M.AllSteps G s ls := by
  refine ⟨fun hall => ?_, M.allStates_of_allSteps hstep hP hs⟩
  induction ls generalizing s with
  | nil => trivial
  | cons l ls ih =>
      intro s' hl
      have hG : G s l := hbreak s l s' hs hl (hall.2 s' hl).head
      exact ⟨hG, ih (hstep s l s' hs hG hl) (hall.2 s' hl)⟩

/-- Conditions that agree on every step from a state with the invariant agree on every run
that starts with it. -/
theorem allSteps_congr_of_invariant {Inv : State → Prop} {G G' : State → Label → Prop}
    (hstep : ∀ s l s', Inv s → M.step s l = some s' → Inv s')
    (h : ∀ s l s', Inv s → M.step s l = some s' → (G s l ↔ G' s l)) {s : State} (hs : Inv s)
    (ls : List Label) : M.AllSteps G s ls ↔ M.AllSteps G' s ls := by
  induction ls generalizing s with
  | nil => exact Iff.rfl
  | cons l ls ih =>
      simp only [AllSteps]
      exact forall_congr' fun s' => forall_congr' fun hl =>
        and_congr (h s l s' hs hl) (ih (hstep s l s' hs hl))

/-- Conditions that agree on every step agree on every run. -/
theorem allSteps_congr {G G' : State → Label → Prop}
    (h : ∀ s l s', M.step s l = some s' → (G s l ↔ G' s l)) (s : State) (ls : List Label) :
    M.AllSteps G s ls ↔ M.AllSteps G' s ls := by
  have hkept : ∀ s l s', True → M.step s l = some s' → True := fun _ _ _ _ _ => trivial
  exact M.allSteps_congr_of_invariant hkept (fun s l s' _ => h s l s') trivial ls

/-! ## What may still happen -/

/-- `t` is reached from `s` by allowed labels. -/
def ReachesBy (allowed : Label → Prop) (s t : State) : Prop :=
  ∃ ls, (∀ l ∈ ls, allowed l) ∧ M.run s ls = some t

/-- From `s` on, every step does `P`, as long as only allowed labels occur. -/
def AlwaysAfter (allowed : Label → Prop) (P : State → Label → State → Prop) (s : State) : Prop :=
  ∀ t, M.ReachesBy allowed s t → ∀ l t', allowed l → M.step t l = some t' → P t l t'

variable {M} in
/-- The first step does `P`, and so do all after it. -/
theorem AlwaysAfter.step {allowed : Label → Prop} {P : State → Label → State → Prop}
    {s s' : State} {l : Label} (h : M.AlwaysAfter allowed P s) (hl : allowed l)
    (hstep : M.step s l = some s') : P s l s' ∧ M.AlwaysAfter allowed P s' := by
  refine ⟨h s ⟨[], by simp, rfl⟩ l s' hl hstep, ?_⟩
  rintro t ⟨ls, hls, hrun⟩
  have hcons : M.run s (l :: ls) = some t := (M.run_cons_eq_some).2 ⟨s', hstep, hrun⟩
  exact h t ⟨l :: ls, List.forall_mem_cons.2 ⟨hl, hls⟩, hcons⟩

/-- An invariant of the allowed steps that makes them do `P`. -/
theorem alwaysAfter_of_invariant {allowed : Label → Prop} {Inv : State → Prop}
    {P : State → Label → State → Prop}
    (hstep : ∀ s l s', Inv s → allowed l → M.step s l = some s' → P s l s' ∧ Inv s')
    {s : State} (hs : Inv s) : M.AlwaysAfter allowed P s := by
  rintro t ⟨ls, hls, hrun⟩ l t' hl ht
  have ht' : Inv t := by
    induction ls generalizing s with
    | nil =>
        cases hrun
        exact hs
    | cons l ls ih =>
        rw [List.forall_mem_cons] at hls
        obtain ⟨s', hfirst, hrest⟩ := (M.run_cons_eq_some).1 hrun
        exact ih (hstep s l s' hs hls.1 hfirst).2 hls.2 hrest
  exact (hstep t l t' ht' hl ht).1

end Machine

end Foundations
