import Mathlib.Algebra.Order.Ring.Defs
import Mathlib.Tactic.Linarith
import MarketConnector.Foundations.Transitions

/-!
# Foundations - Costs along a run

What the steps of a run cost together, and the rule that bounds it by a potential.

Main results:

- Definition `Machine.cost`: the cost of a run.
- Theorem `Machine.cost_add_le`: the potential of the last state pays what a run cost less than it
  gained.
- Theorem `Machine.run_of_simulation`: a machine that follows another one step by step costs the
  same.
-/

namespace Foundations
namespace Machine

universe u v w

variable {State : Type u} {Label : Type v} {K : Type w} [Field K] [LinearOrder K]
  [IsStrictOrderedRing K] (M : Machine State Label)

/-- What the steps of a run cost together. -/
def cost (price : State → Label → K) : State → List Label → K
  | _, [] => 0
  | s, l :: ls =>
      match M.step s l with
      | none => 0
      | some s' => price s l + cost price s' ls

/-- What the labels of a run are worth together. -/
def gain (worth : Label → K) : List Label → K
  | [] => 0
  | l :: ls => worth l + gain worth ls

omit [LinearOrder K] [IsStrictOrderedRing K] in
theorem cost_cons {M : Machine State Label} {price : State → Label → K} {s s' : State} {l : Label}
    (h : M.step s l = some s') (ls : List Label) :
    M.cost price s (l :: ls) = price s l + M.cost price s' ls := by
  rw [cost, h]

/-- When the price of each step is paid by what it gains and by what the potential loses, a run
costs no more than what it gains and what the potential loses. -/
theorem cost_add_le {M : Machine State Label} {Inv : State → Prop} {price : State → Label → K}
    {worth : Label → K} {potential : State → K}
    (hinv : ∀ s l s', Inv s → M.step s l = some s' → Inv s')
    (hstep : ∀ s l s', Inv s → M.step s l = some s' →
      potential s' + price s l ≤ potential s + worth l)
    {s t : State} {ls : List Label} (hs : Inv s) (hrun : M.run s ls = some t) :
    potential t + M.cost price s ls ≤ potential s + gain worth ls := by
  induction ls generalizing s with
  | nil =>
      cases hrun
      simp [cost, gain]
  | cons l ls ih =>
      obtain ⟨s', hl, hrest⟩ := (M.run_cons_eq_some).1 hrun
      have hpaid := hstep s l s' hs hl
      have hlater := ih (hinv s l s' hs hl) hrest
      rw [cost_cons hl, gain]
      linarith

omit [LinearOrder K] [IsStrictOrderedRing K] in
/-- A machine that follows another one step by step, at the same price, follows every run of it
at the same cost. -/
theorem run_of_simulation {State' : Type u} {M : Machine State Label} {M' : Machine State' Label}
    {R : State → State' → Prop} {price : State → Label → K} {price' : State' → Label → K}
    (hstep : ∀ s t l s', R s t → M.step s l = some s' → ∃ t', M'.step t l = some t' ∧ R s' t')
    (hprice : ∀ s t l, R s t → price s l = price' t l) {s s' : State} {t : State'}
    {ls : List Label} (h : R s t) (hrun : M.run s ls = some s') :
    (∃ t', M'.run t ls = some t' ∧ R s' t') ∧ M.cost price s ls = M'.cost price' t ls := by
  induction ls generalizing s t with
  | nil =>
      cases hrun
      exact ⟨⟨t, rfl, h⟩, rfl⟩
  | cons l ls ih =>
      obtain ⟨s₁, hl, hrest⟩ := (M.run_cons_eq_some).1 hrun
      obtain ⟨t₁, hl', h₁⟩ := hstep s t l s₁ h hl
      obtain ⟨⟨t', hrun', h'⟩, hcost⟩ := ih h₁ hrest
      refine ⟨⟨t', (M'.run_cons_eq_some).2 ⟨t₁, hl', hrun'⟩, h'⟩, ?_⟩
      rw [cost_cons hl, cost_cons hl', hprice s t l h, hcost]

end Machine
end Foundations
