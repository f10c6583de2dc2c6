import Mathlib.Data.Rat.Defs
import Mathlib.Algebra.Order.Ring.Rat
import MarketConnector.Foundations.Characters
import MarketConnector.Foundations.Transitions
import MarketConnector.Foundations.Windows

/-!
# Ib - Pacing of historical requests

`IbPacer.historical` acquires three limiters one after the other and then enters its body,
where the request is sent.  Each limiter bounds its own acquires; a permit of the first may
be old when the last is granted.

Main results:

- Definition `PacedAtSend`: IB's limits, at the times the bodies are entered.
- Theorem `identical_spaced`: identical requests are 15 seconds apart in every run.
- Theorem `pacedAtSend_of_freshPermits`: all limits hold along a run in which requests sent
  within a window of each other got their permits within a window of each other.
- Theorem `stale_permit_breaks_limit`: a permit that waits 16 seconds for the last limiter.
-/

namespace MarketConnector
namespace Ib

open Foundations

/-! ## Requests -/

/-- Arguments of `historical`. -/
structure HistoricalRequest (C R : Type) where
  contractKey : C
  exchange : String
  whatToShow : String
  barSize : String
  requestKey : R

/-- `text.split()`. -/
def splitWords (text : String) : List (List Char) :=
  (text.toList.splitOnP isSpace).filter fun word => word ≠ []

/-- `_is_small_bar`: the unit of the bar size is seconds. -/
def isSmallBar (barSize : String) : Bool :=
  match splitWords barSize with
  | _ :: unit :: _ => "sec".toList.isPrefixOf unit
  | _ => false

namespace HistoricalRequest

variable {C R : Type}

/-- A BID_ASK request counts twice. -/
def weight (r : HistoricalRequest C R) : Nat :=
  if r.whatToShow = "BID_ASK" then 2 else 1

def tickKey (r : HistoricalRequest C R) : C × String × String :=
  (r.contractKey, r.exchange, r.whatToShow)

end HistoricalRequest

/-- A call of `historical`: whether it holds a slot, when its acquires completed, when its body
was entered, and whether it is over. -/
structure HistoricalCall (C R : Type) where
  request : HistoricalRequest C R
  hasSlot : Bool
  windowAt : Option ℚ
  contractAt : Option ℚ
  enteredAt : Option ℚ
  hasEnded : Bool

/-- When the request is sent, for a small-bar request. -/
def HistoricalCall.sentAt {C R : Type} (c : HistoricalCall C R) : Option ℚ :=
  if isSmallBar c.request.barSize then c.enteredAt else none

section Pacing

variable {C R : Type}

/-- `RateLimit(HISTORICAL_LIMIT_ID, 60, 600.0, kind="window")`. -/
def historicalLimit : Limit (HistoricalCall C R) Unit ℚ where
  permits := 60
  window := 600
  key _ := ()
  weight c := c.request.weight

/-- `KeyedCooldown(6, 2.0)`, keyed by contract, exchange and tick type. -/
def contractCooldown : Limit (HistoricalCall C R) (C × String × String) ℚ where
  permits := 6
  window := 2
  key c := c.request.tickKey
  weight c := c.request.weight

/-- `KeyedCooldown(1, 15.0)`, keyed by request. -/
def identicalCooldown : Limit (HistoricalCall C R) R ℚ where
  permits := 1
  window := 15
  key c := c.request.requestKey
  weight _ := 1

/-! ## The pacer -/

/-- The calls so far, the value of the semaphore, and the clock. -/
structure Pacer (C R : Type) where
  now : ℚ
  freeSlots : Nat
  calls : Dict Nat (HistoricalCall C R)
  nextCall : Nat

inductive PacerLabel (C R : Type) where
  /-- a call of `historical` -/
  | call (request : HistoricalRequest C R)
  /-- a call gets a slot; large bars enter their body with it -/
  | slot (id : Nat)
  /-- `acquire` of the historical limit completes -/
  | windowPermit (id : Nat)
  /-- `acquire` of the contract cooldown completes -/
  | contractPermit (id : Nat)
  /-- `acquire` of the identical cooldown completes, and the body is entered -/
  | identicalPermit (id : Nat)
  /-- the call is over: its body ends, or it is left while it waits -/
  | leave (id : Nat)
  /-- time passes -/
  | advance (seconds : ℚ)

variable [DecidableEq C] [DecidableEq R]

/-- One step.  The limiters are those of another package; what is known of them is that their
completed acquires keep within the limit in every window. -/
def pacerStep (s : Pacer C R) : PacerLabel C R → Option (Pacer C R)
  | .call request =>
      some { s with
        calls := s.calls.set s.nextCall ⟨request, false, none, none, none, false⟩
        nextCall := s.nextCall + 1 }
  | .slot id =>
      match s.calls.get? id with
      | some c =>
          if c.hasSlot = false ∧ c.hasEnded = false ∧ 0 < s.freeSlots then
            some { s with
              freeSlots := s.freeSlots - 1
              calls := s.calls.set id { c with
                hasSlot := true
                enteredAt := if isSmallBar c.request.barSize then none else some s.now } }
          else none
      | none => none
  | .windowPermit id =>
      match s.calls.get? id with
      | some c =>
          if c.hasSlot ∧ isSmallBar c.request.barSize ∧ c.windowAt = none ∧
              historicalLimit.Admits HistoricalCall.windowAt s.calls s.now c then
            some { s with calls := s.calls.set id { c with windowAt := some s.now } }
          else none
      | none => none
  | .contractPermit id =>
      match s.calls.get? id with
      | some c =>
          if c.hasSlot ∧ c.windowAt.isSome ∧ c.contractAt = none ∧
              contractCooldown.Admits HistoricalCall.contractAt s.calls s.now c then
            some { s with calls := s.calls.set id { c with contractAt := some s.now } }
          else none
      | none => none
  | .identicalPermit id =>
      match s.calls.get? id with
      | some c =>
          if c.hasSlot ∧ c.contractAt.isSome ∧ c.enteredAt = none ∧
              identicalCooldown.Admits HistoricalCall.sentAt s.calls s.now c then
            some { s with calls := s.calls.set id { c with enteredAt := some s.now } }
          else none
      | none => none
  | .leave id =>
      match s.calls.get? id with
      | some c =>
          if c.hasEnded then none
          else some { s with
            freeSlots := if c.hasSlot then s.freeSlots + 1 else s.freeSlots
            calls := s.calls.set id { c with hasSlot := false, hasEnded := true } }
      | none => none
  | .advance seconds => if 0 ≤ seconds then some { s with now := s.now + seconds } else none

/-- A pacer at time `start`. -/
def pacerMachine (start : ℚ) (maxOpenHistorical : Nat) :
    Machine (Pacer C R) (PacerLabel C R) where
  init := ⟨start, maxOpenHistorical, ∅, 0⟩
  step := pacerStep

/-! ## The property -/

/-- Any two small-bar requests of one key are sent at least 15 seconds apart. -/
def IdenticalApart (s : Pacer C R) : Prop :=
  ∀ i j c c' t t', i ≠ j → s.calls.get? i = some c → s.calls.get? j = some c' →
    c.request.requestKey = c'.request.requestKey → c.sentAt = some t → c'.sentAt = some t' →
      t ≤ t' → t + 15 ≤ t'

/-- IB's limits at the times small-bar requests are sent: weight 60 in 600 seconds, weight 6 in
2 seconds for a contract, exchange and tick type, identical requests 15 seconds apart. -/
structure PacedAtSend (s : Pacer C R) : Prop where
  historical : ∀ start,
    historicalLimit.weightIn HistoricalCall.sentAt s.calls () start (start + 600) ≤ 60
  contract : ∀ key start,
    contractCooldown.weightIn HistoricalCall.sentAt s.calls key start (start + 2) ≤ 6
  identical : IdenticalApart s

/-- A small-bar request that is sent within 600 seconds of another one got its historical permit
within 600 seconds of the other's, and one that is sent within 2 seconds of another one of its
contract, exchange and tick type got its contract permit within 2 seconds of the other's. -/
def FreshPermits (s : Pacer C R) : PacerLabel C R → Prop
  | .identicalPermit id => ∀ c, s.calls.get? id = some c →
      ∀ j b t, s.calls.get? j = some b → b.sentAt = some t →
        (s.now ≤ t + 600 → ∀ p q, c.windowAt = some p → b.windowAt = some q →
          p ≤ q + 600 ∧ q ≤ p + 600) ∧
        (c.request.tickKey = b.request.tickKey → s.now ≤ t + 2 →
          ∀ p q, c.contractAt = some p → b.contractAt = some q → p ≤ q + 2 ∧ q ≤ p + 2)
  | _ => True

omit [DecidableEq C] [DecidableEq R] in
/-- What the calls sent so far say of a call that is about to be sent. -/
theorem freshPermits_iff {s : Pacer C R} {id : Nat} :
    FreshPermits s (.identicalPermit id) ↔
      ∀ c ∈ s.calls.get? id, ∀ e ∈ s.calls.entries, ∀ t ∈ e.2.sentAt,
        (s.now ≤ t + 600 → ∀ p ∈ c.windowAt, ∀ q ∈ e.2.windowAt, p ≤ q + 600 ∧ q ≤ p + 600) ∧
        (c.request.tickKey = e.2.request.tickKey → s.now ≤ t + 2 →
          ∀ p ∈ c.contractAt, ∀ q ∈ e.2.contractAt, p ≤ q + 2 ∧ q ≤ p + 2) := by
  constructor
  · rintro h c hc ⟨j, b⟩ he t ht
    obtain ⟨hwindow, hcontract⟩ := h c hc j b t (s.calls.mem_entries_iff.1 he) ht
    exact ⟨fun hle p hp q hq => hwindow hle p q hp hq,
      fun hkey hle p hp q hq => hcontract hkey hle p q hp hq⟩
  · intro h c hc j b t hb ht
    obtain ⟨hwindow, hcontract⟩ := h c hc (j, b) (s.calls.mem_entries_iff.2 hb) t ht
    exact ⟨fun hle p q hp hq => hwindow hle p hp q hq,
      fun hkey hle p q hp hq => hcontract hkey hle p hp q hq⟩

instance decidableFreshPermits (s : Pacer C R) : ∀ l, Decidable (FreshPermits s l)
  | .identicalPermit _ => decidable_of_iff _ freshPermits_iff.symm
  | .call _ | .slot _ | .windowPermit _ | .contractPermit _ | .leave _ | .advance _ =>
      isTrue trivial

/-! ## One call -/

/-- The permits of a call come in order, and none is from the future. -/
structure CallOrder (now : ℚ) (c : HistoricalCall C R) : Prop where
  windowPast : ∀ t, c.windowAt = some t → t ≤ now
  contractPast : ∀ t, c.contractAt = some t → t ≤ now
  sentPast : ∀ t, c.sentAt = some t → t ≤ now
  small : c.windowAt ≠ none → isSmallBar c.request.barSize = true
  windowFirst : c.contractAt ≠ none → c.windowAt ≠ none
  contractFirst : c.sentAt ≠ none → c.contractAt ≠ none

omit [DecidableEq C] [DecidableEq R] in
theorem sentAt_eq_none {c : HistoricalCall C R} (h : c.enteredAt = none) : c.sentAt = none := by
  simp [HistoricalCall.sentAt, h]

omit [DecidableEq C] [DecidableEq R] in
theorem CallOrder.unsent {now : ℚ} {c : HistoricalCall C R} (h : CallOrder now c)
    (hcontract : c.contractAt = none) : c.sentAt = none := by
  by_contra hsent
  exact h.contractFirst hsent hcontract

omit [DecidableEq C] [DecidableEq R] in
theorem CallOrder.contractless {now : ℚ} {c : HistoricalCall C R} (h : CallOrder now c)
    (hwindow : c.windowAt = none) : c.contractAt = none := by
  by_contra hcontract
  exact h.windowFirst hcontract hwindow

/-- The calls are in order and the limiters keep within their limits. -/
structure PacerInv (s : Pacer C R) : Prop where
  calls : ∀ i c, s.calls.get? i = some c → CallOrder s.now c
  window : historicalLimit.Bounds HistoricalCall.windowAt s.calls
  contract : contractCooldown.Bounds HistoricalCall.contractAt s.calls
  identical : identicalCooldown.Bounds HistoricalCall.sentAt s.calls

/-- Requests sent near each other got their permits near each other. -/
structure PermitsApart (s : Pacer C R) : Prop where
  window : historicalLimit.KeepsApart HistoricalCall.windowAt HistoricalCall.sentAt s.calls
  contract : contractCooldown.KeepsApart HistoricalCall.contractAt HistoricalCall.sentAt s.calls

omit [DecidableEq C] [DecidableEq R] in
/-- A call that is not sent is near no other. -/
theorem PermitsApart.set_unsent {s s' : Pacer C R} (h : PermitsApart s) {id : Nat}
    {c : HistoricalCall C R} (hcalls : s'.calls = s.calls.set id c) (hsent : c.sentAt = none) :
    PermitsApart s' := by
  constructor
  · rw [hcalls]
    exact h.window.set_none id hsent
  · rw [hcalls]
    exact h.contract.set_none id hsent

/-! ## Steps -/

/-- After a step the limiters keep within their limits, and a step with fresh permits keeps
requests apart. -/
def StepKeeps (s s' : Pacer C R) (fresh : Prop) : Prop :=
  PacerInv s' ∧ (PermitsApart s → fresh → PermitsApart s')

section Steps

variable {s s' : Pacer C R} {id : Nat}

theorem call_keeps (h : PacerInv s) {request : HistoricalRequest C R}
    (hstep : pacerStep s (.call request) = some s') : StepKeeps s s' True := by
  cases hstep
  let c : HistoricalCall C R := ⟨request, false, none, none, none, false⟩
  have hsent : c.sentAt = none := sentAt_eq_none rfl
  refine ⟨⟨?_, ?_, ?_, ?_⟩, fun hapart _ => hapart.set_unsent rfl hsent⟩
  · apply Dict.forall_get?_set h.calls
    constructor <;> simp [HistoricalCall.sentAt]
  · exact h.window.set_none _ rfl
  · exact h.contract.set_none _ rfl
  · exact h.identical.set_none _ hsent

theorem slot_keeps (h : PacerInv s) (hstep : pacerStep s (.slot id) = some s') :
    StepKeeps s s' True := by
  simp only [pacerStep] at hstep
  split at hstep
  · rename_i c hc
    split at hstep
    · cases hstep
      -- a call that enters its body with its slot is one for large bars
      have hsent : HistoricalCall.sentAt { c with
          hasSlot := true
          enteredAt := if isSmallBar c.request.barSize then none else some s.now } = none := by
        simp only [HistoricalCall.sentAt]
        split_ifs <;> rfl
      have horder := h.calls id c hc
      refine ⟨⟨?_, ?_, ?_, ?_⟩, fun hapart _ => hapart.set_unsent rfl hsent⟩
      · apply Dict.forall_get?_set h.calls
        refine ⟨horder.windowPast, horder.contractPast, ?_, horder.small, horder.windowFirst, ?_⟩
        · intro t ht
          rw [hsent] at ht
          cases ht
        · exact fun hne => absurd hsent hne
      · exact h.window.keep hc rfl rfl rfl
      · exact h.contract.keep hc rfl rfl rfl
      · exact h.identical.set_none _ hsent
    · cases hstep
  · cases hstep

theorem windowPermit_keeps (h : PacerInv s) (hstep : pacerStep s (.windowPermit id) = some s') :
    StepKeeps s s' True := by
  simp only [pacerStep] at hstep
  split at hstep
  · rename_i c hc
    split_ifs at hstep with hready
    cases hstep
    obtain ⟨_, hsmall, hnone, hadmits⟩ := hready
    have horder := h.calls id c hc
    have hcontract := horder.contractless hnone
    have hsent := horder.unsent hcontract
    refine ⟨⟨?_, ?_, ?_, ?_⟩, fun hapart _ => hapart.set_unsent rfl hsent⟩
    · apply Dict.forall_get?_set h.calls
      refine ⟨?_, horder.contractPast, horder.sentPast, fun _ => hsmall, ?_, horder.contractFirst⟩
      · intro t ht
        cases ht
        exact le_refl _
      · exact fun hne => absurd hcontract hne
    · exact h.window.admit hc hnone (fun j b t hb => (h.calls j b hb).windowPast t) hadmits rfl
        rfl rfl
    · exact h.contract.keep hc rfl rfl rfl
    · exact h.identical.keep hc rfl rfl rfl
  · cases hstep

theorem contractPermit_keeps (h : PacerInv s)
    (hstep : pacerStep s (.contractPermit id) = some s') : StepKeeps s s' True := by
  simp only [pacerStep] at hstep
  split at hstep
  · rename_i c hc
    split_ifs at hstep with hready
    cases hstep
    obtain ⟨_, hwindow, hnone, hadmits⟩ := hready
    have horder := h.calls id c hc
    have hsent := horder.unsent hnone
    refine ⟨⟨?_, ?_, ?_, ?_⟩, fun hapart _ => hapart.set_unsent rfl hsent⟩
    · apply Dict.forall_get?_set h.calls
      refine ⟨horder.windowPast, ?_, horder.sentPast, horder.small, ?_, ?_⟩
      · intro t ht
        cases ht
        exact le_refl _
      · exact fun _ => Option.isSome_iff_ne_none.mp hwindow
      · exact fun hne => absurd hsent hne
    · exact h.window.keep hc rfl rfl rfl
    · exact h.contract.admit hc hnone (fun j b t hb => (h.calls j b hb).contractPast t) hadmits
        rfl rfl rfl
    · exact h.identical.keep hc rfl rfl rfl
  · cases hstep

theorem identicalPermit_keeps (h : PacerInv s)
    (hstep : pacerStep s (.identicalPermit id) = some s') :
    StepKeeps s s' (FreshPermits s (.identicalPermit id)) := by
  simp only [pacerStep] at hstep
  split at hstep
  · rename_i c hc
    split_ifs at hstep with hready
    cases hstep
    obtain ⟨_, hcontract, hnone, hadmits⟩ := hready
    have horder := h.calls id c hc
    have hcontract' : c.contractAt ≠ none := Option.isSome_iff_ne_none.mp hcontract
    have hsmall := horder.small (horder.windowFirst hcontract')
    have hsent : HistoricalCall.sentAt { c with enteredAt := some s.now } = some s.now := by
      simp [HistoricalCall.sentAt, hsmall]
    refine ⟨⟨?_, ?_, ?_, ?_⟩, fun hapart hfresh => ⟨?_, ?_⟩⟩
    · apply Dict.forall_get?_set h.calls
      refine ⟨horder.windowPast, horder.contractPast, ?_, horder.small, horder.windowFirst,
        fun _ => hcontract'⟩
      intro t ht
      rw [hsent] at ht
      cases ht
      exact le_refl _
    · exact h.window.keep hc rfl rfl rfl
    · exact h.contract.keep hc rfl rfl rfl
    · exact h.identical.admit hc (sentAt_eq_none hnone)
        (fun j b t hb => (h.calls j b hb).sentPast t) hadmits rfl rfl hsent
    · apply hapart.window.use id hsent
      · exact fun p => by simp [historicalLimit]
      · exact fun j b t hb _ ht hle => (hfresh c hc j b t hb ht).1 hle
    · apply hapart.contract.use id hsent
      · exact fun p => by simp [contractCooldown]
      · exact fun j b t hb hkey ht hle => (hfresh c hc j b t hb ht).2 hkey hle
  · cases hstep

theorem leave_keeps (h : PacerInv s) (hstep : pacerStep s (.leave id) = some s') :
    StepKeeps s s' True := by
  simp only [pacerStep] at hstep
  split at hstep
  · rename_i c hc
    split_ifs at hstep with hover
    all_goals
      cases hstep
      have horder := h.calls id c hc
      refine ⟨⟨?_, ?_, ?_, ?_⟩, fun hapart _ => ⟨?_, ?_⟩⟩
      · apply Dict.forall_get?_set h.calls
        exact ⟨horder.windowPast, horder.contractPast, horder.sentPast, horder.small,
          horder.windowFirst, horder.contractFirst⟩
      · exact h.window.keep hc rfl rfl rfl
      · exact h.contract.keep hc rfl rfl rfl
      · exact h.identical.keep hc rfl rfl rfl
      · exact hapart.window.keep hc rfl rfl rfl
      · exact hapart.contract.keep hc rfl rfl rfl
  · cases hstep

theorem advance_keeps (h : PacerInv s) {seconds : ℚ}
    (hstep : pacerStep s (.advance seconds) = some s') : StepKeeps s s' True := by
  simp only [pacerStep] at hstep
  split_ifs at hstep with hpositive
  cases hstep
  have hlater : s.now ≤ s.now + seconds := le_add_of_nonneg_right hpositive
  refine ⟨⟨?_, h.window, h.contract, h.identical⟩, fun hapart _ => ⟨hapart.window, hapart.contract⟩⟩
  intro i c hc
  have horder := h.calls i c hc
  exact ⟨fun t ht => (horder.windowPast t ht).trans hlater,
    fun t ht => (horder.contractPast t ht).trans hlater,
    fun t ht => (horder.sentPast t ht).trans hlater, horder.small, horder.windowFirst,
    horder.contractFirst⟩

/-- What every step keeps. -/
theorem pacerStep_keeps {l : PacerLabel C R} (h : PacerInv s) (hstep : pacerStep s l = some s') :
    StepKeeps s s' (FreshPermits s l) := by
  cases l with
  | call request => exact call_keeps h hstep
  | slot id => exact slot_keeps h hstep
  | windowPermit id => exact windowPermit_keeps h hstep
  | contractPermit id => exact contractPermit_keeps h hstep
  | identicalPermit id => exact identicalPermit_keeps h hstep
  | leave id => exact leave_keeps h hstep
  | advance seconds => exact advance_keeps h hstep

end Steps

/-! ## Runs -/

theorem pacerInv_init (start : ℚ) (maxOpenHistorical : Nat) :
    PacerInv (pacerMachine (C := C) (R := R) start maxOpenHistorical).init := by
  refine ⟨?_, Limit.bounds_empty, Limit.bounds_empty, Limit.bounds_empty⟩
  intro i c hc
  simp [pacerMachine] at hc

/-- The identical cooldown is the last one: its permits are the bodies. -/
theorem PacerInv.identicalApart {s : Pacer C R} (h : PacerInv s) : IdenticalApart s := by
  intro i j c c' t t' hne hc hc' hkey ht ht' hle
  exact (h.identical.spaced hne hc hc' hkey ht ht' hle (by simp [identicalCooldown])).le

theorem PacerInv.pacedAtSend {s : Pacer C R} (h : PacerInv s) (hapart : PermitsApart s) :
    PacedAtSend s := by
  have hcontract : ∀ i c t, s.calls.get? i = some c → c.sentAt = some t →
      ∃ r, c.contractAt = some r := by
    intro i c t hc ht
    exact Option.ne_none_iff_exists'.mp ((h.calls i c hc).contractFirst (by simp [ht]))
  have hwindow : ∀ i c t, s.calls.get? i = some c → c.sentAt = some t →
      ∃ r, c.windowAt = some r := by
    intro i c t hc ht
    obtain ⟨r, hr⟩ := hcontract i c t hc ht
    exact Option.ne_none_iff_exists'.mp ((h.calls i c hc).windowFirst (by simp [hr]))
  constructor
  · exact fun lo => h.window.retime hwindow hapart.window () lo
  · exact h.contract.retime hcontract hapart.contract
  · exact h.identicalApart

/-- Identical requests are 15 seconds apart in every run. -/
theorem identical_spaced (start : ℚ) (maxOpenHistorical : Nat) (ls : List (PacerLabel C R)) :
    (pacerMachine start maxOpenHistorical).AllStates IdenticalApart
      (pacerMachine start maxOpenHistorical).init ls := by
  have hkept : ∀ s l s', PacerInv s → (pacerMachine start maxOpenHistorical).step s l = some s' →
      PacerInv s' := fun (s : Pacer C R) l s' h hstep => (pacerStep_keeps h hstep).1
  exact (pacerMachine start maxOpenHistorical).allStates_of_invariant hkept
    (fun s h => h.identicalApart) (pacerInv_init start maxOpenHistorical) ls

/-- IB's limits hold at the times requests are sent, all along a run in which requests sent
within a window of each other got their permits within a window of each other. -/
theorem pacedAtSend_of_freshPermits (start : ℚ) (maxOpenHistorical : Nat)
    (ls : List (PacerLabel C R))
    (hfresh : (pacerMachine start maxOpenHistorical).AllSteps FreshPermits
      (pacerMachine start maxOpenHistorical).init ls) :
    (pacerMachine start maxOpenHistorical).AllStates PacedAtSend
      (pacerMachine start maxOpenHistorical).init ls := by
  let Inv (s : Pacer C R) : Prop := PacerInv s ∧ PermitsApart s
  have hkept : ∀ s l s', Inv s → FreshPermits s l →
      (pacerMachine start maxOpenHistorical).step s l = some s' → Inv s' := by
    intro s l s' h hl hstep
    obtain ⟨hinv, hapart⟩ := pacerStep_keeps h.1 hstep
    exact ⟨hinv, hapart h.2 hl⟩
  have hinit : Inv (pacerMachine start maxOpenHistorical).init :=
    ⟨pacerInv_init start maxOpenHistorical, Limit.keepsApart_empty, Limit.keepsApart_empty⟩
  exact (pacerMachine start maxOpenHistorical).allStates_of_allSteps hkept
    (fun s h => h.1.pacedAtSend h.2) hinit hfresh

end Pacing

/-! ## A permit that waits -/

/-- A small-bar request for quotes of one contract. -/
def sampleHistorical (requestKey : Nat) : HistoricalRequest Nat Nat where
  contractKey := 1
  exchange := "SMART"
  whatToShow := "BID_ASK"
  barSize := "5 secs"
  requestKey := requestKey

/-- A call that waits for nothing. -/
def sendNow (id : Nat) : List (PacerLabel Nat Nat) :=
  [.slot id, .windowPermit id, .contractPermit id, .identicalPermit id]

/-- Three requests of one contract, the last of which is identical to the first: the second
waits a second with its permits and is sent within the window of the first, and the third is
sent when the identical cooldown lets it. -/
def freshPermitRun : List (PacerLabel Nat Nat) :=
  [.call (sampleHistorical 0), .call (sampleHistorical 1)] ++ sendNow 0 ++
    [.slot 1, .windowPermit 1, .contractPermit 1, .advance 1, .identicalPermit 1, .advance 14,
      .call (sampleHistorical 0), .slot 2, .windowPermit 2, .contractPermit 2, .advance 1,
      .identicalPermit 2]

/-- All three are sent, with permits that are fresh. -/
theorem pacedAtSend_freshPermitRun :
    (pacerMachine 0 50).AllStates PacedAtSend (pacerMachine 0 50).init freshPermitRun ∧
      ((pacerMachine 0 50).run (pacerMachine 0 50).init freshPermitRun).map
        (fun s => s.calls.values.map HistoricalCall.sentAt) = some [some 0, some 1, some 16] :=
  ⟨pacedAtSend_of_freshPermits 0 50 freshPermitRun (by decide +kernel), by decide +kernel⟩

/-- The second of two identical requests gets its first two permits at once and waits 16
seconds for the third; then three other requests of the contract are sent with it. -/
def stalePermitRun : List (PacerLabel Nat Nat) :=
  [.call (sampleHistorical 0), .call (sampleHistorical 0)] ++ sendNow 0 ++
    [.slot 1, .windowPermit 1, .contractPermit 1, .advance 16, .call (sampleHistorical 1),
      .call (sampleHistorical 2), .call (sampleHistorical 3)] ++
    sendNow 2 ++ sendNow 3 ++ sendNow 4 ++ [.identicalPermit 1]

/-- Weight 8 is sent for one contract and tick type within 2 seconds. -/
theorem stale_permit_breaks_limit :
    ∃ s, (pacerMachine 0 50).run (pacerMachine 0 50).init stalePermitRun = some s ∧
      contractCooldown.weightIn HistoricalCall.sentAt s.calls (1, "SMART", "BID_ASK") 16 (16 + 2) =
        8 ∧ ¬ PacedAtSend s := by
  have hsent : ((pacerMachine 0 50).run (pacerMachine 0 50).init stalePermitRun).map
      (fun s => contractCooldown.weightIn HistoricalCall.sentAt s.calls (1, "SMART", "BID_ASK")
        16 (16 + 2)) = some 8 := by decide +kernel
  obtain ⟨s, hrun, hweight⟩ := Option.map_eq_some_iff.mp hsent
  refine ⟨s, hrun, hweight, ?_⟩
  intro hpaced
  have hbound := hpaced.contract (1, "SMART", "BID_ASK") 16
  omega

end Ib
end MarketConnector
