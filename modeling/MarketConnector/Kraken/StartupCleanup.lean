import MarketConnector.Foundations.Dict
import MarketConnector.Foundations.Transitions

/-!
# Kraken - Startup reconciliation

When the bridge starts, it asks for the open orders and then compares the in-flight orders
with the answer: an order without an exchange id is removed, one that is not open any more is
marked cancelled.  Orders may be placed all the time.

Main results:

- Definition `reconcileStaleOrders`: the comparison.
- Theorem `reconcileStaleOrders_get?`: what becomes of each in-flight order.
- Theorem `CleanupInv.step`: an order that is open now was open in the answer, or has been
  accepted since.
- Theorem `sparesLive_iff`: the runs in which no live order is removed or marked.
- Theorem `order_in_progress_is_removed`: an order that is being placed meanwhile.
-/

namespace MarketConnector
namespace Kraken

open Foundations

/-! ## In-flight orders -/

/-- An attribute of an object that may lack it, or refuse to set it. -/
inductive Attribute (α : Type) where
  | missing
  | readOnly (value : α)
  | writable (value : α)
deriving DecidableEq

/-- `setattr`, if the attribute is there. -/
def Attribute.assign {α : Type} (value : α) : Attribute α → Attribute α
  | .writable _ => .writable value
  | .readOnly kept => .readOnly kept
  | .missing => .missing

/-- What the reconciliation uses of an in-flight order. -/
structure InFlightOrder where
  exchangeOrderId : Option String
  cancelAttempted : Attribute Bool
  status : Attribute String
deriving DecidableEq

/-- The exchange id, unless it is missing or empty. -/
def exchangeOid (order : InFlightOrder) : Option String :=
  order.exchangeOrderId.filter fun id => id ≠ ""

/-- `_mark_cancelled`. -/
def markCancelled (order : InFlightOrder) : InFlightOrder :=
  { order with
    cancelAttempted := order.cancelAttempted.assign true
    status := order.status.assign "cancelled" }

/-- Client ids of orders without an exchange id. -/
def staleNoId (inFlight : Dict String InFlightOrder) : List String :=
  (inFlight.entries.filter fun e => exchangeOid e.2 = none).map Prod.fst

/-- Client ids of orders that are not among the open ones. -/
def staleMissing (openOrders : List String) (inFlight : Dict String InFlightOrder) :
    List String :=
  (inFlight.entries.filter fun e => (exchangeOid e.2).any fun id => id ∉ openOrders).map Prod.fst

/-- Mark an order that is still tracked. -/
def markMissing (state : Dict String InFlightOrder × Nat) (oid : String) :
    Dict String InFlightOrder × Nat :=
  match state.1.get? oid with
  | none => state
  | some order => (state.1.set oid (markCancelled order), state.2 + 1)

/-- `reconcile_stale_orders`, with the open orders or without them when the request for them
raises: the in-flight orders afterwards and the number of reconciled ones. -/
def reconcileStaleOrders (openOrders : Option (List String))
    (inFlight : Dict String InFlightOrder) : Dict String InFlightOrder × Nat :=
  match openOrders with
  | none => (inFlight, 0)
  | some openOrders =>
      if inFlight.size = 0 then (inFlight, 0)
      else
        (staleMissing openOrders inFlight).foldl markMissing
          ((staleNoId inFlight).foldl Dict.pop inFlight, (staleNoId inFlight).length)

/-! ## What becomes of an order -/

theorem get?_foldl_pop (oids : List String) (d : Dict String InFlightOrder) (oid : String) :
    (oids.foldl Dict.pop d).get? oid = if oid ∈ oids then none else d.get? oid := by
  induction oids generalizing d with
  | nil => simp
  | cons first oids ih =>
      rw [List.foldl_cons, ih, Dict.get?_pop]
      by_cases hoid : oid = first
      · simp [hoid]
      · simp [hoid]

theorem markCancelled_markCancelled (order : InFlightOrder) :
    markCancelled (markCancelled order) = markCancelled order := by
  obtain ⟨id, cancelAttempted, status⟩ := order
  cases cancelAttempted <;> cases status <;> rfl

theorem get?_markMissing (state : Dict String InFlightOrder × Nat) (first oid : String) :
    (markMissing state first).1.get? oid =
      if oid = first then (state.1.get? oid).map markCancelled else state.1.get? oid := by
  unfold markMissing
  cases hfirst : state.1.get? first with
  | none =>
      by_cases hoid : oid = first
      · simp [hoid, hfirst]
      · simp [hoid]
  | some order =>
      simp only [Dict.get?_set]
      split_ifs with hoid
      · rw [hoid, hfirst]
        rfl
      · rfl

theorem get?_foldl_markMissing (oids : List String) (state : Dict String InFlightOrder × Nat)
    (oid : String) :
    (oids.foldl markMissing state).1.get? oid =
      if oid ∈ oids then (state.1.get? oid).map markCancelled else state.1.get? oid := by
  induction oids generalizing state with
  | nil => simp
  | cons first oids ih =>
      rw [List.foldl_cons, ih, get?_markMissing]
      by_cases hoid : oid = first
      · subst hoid
        by_cases hmem : oid ∈ oids
        · simp [hmem, Function.comp_def, markCancelled_markCancelled]
        · simp [hmem]
      · simp [hoid]

theorem mem_staleNoId {inFlight : Dict String InFlightOrder} {oid : String}
    {order : InFlightOrder} (h : inFlight.get? oid = some order) :
    oid ∈ staleNoId inFlight ↔ exchangeOid order = none := by
  constructor
  · intro hmem
    obtain ⟨e, he, rfl⟩ := List.mem_map.1 hmem
    obtain ⟨hentry, hnone⟩ := List.mem_filter.1 he
    rw [(inFlight.mem_entries_iff).1 hentry] at h
    cases h
    simpa using hnone
  · intro hnone
    have hentry := (inFlight.mem_entries_iff).2 h
    refine List.mem_map.2 ⟨(oid, order), List.mem_filter.2 ⟨hentry, ?_⟩, rfl⟩
    simpa using hnone

theorem mem_staleMissing {openOrders : List String} {inFlight : Dict String InFlightOrder}
    {oid : String} {order : InFlightOrder} (h : inFlight.get? oid = some order) :
    oid ∈ staleMissing openOrders inFlight ↔
      ∃ id, exchangeOid order = some id ∧ id ∉ openOrders := by
  constructor
  · intro hmem
    obtain ⟨e, he, rfl⟩ := List.mem_map.1 hmem
    obtain ⟨hentry, hmissing⟩ := List.mem_filter.1 he
    rw [(inFlight.mem_entries_iff).1 hentry] at h
    cases h
    simpa [Option.any_eq_true] using hmissing
  · intro hmissing
    have hentry := (inFlight.mem_entries_iff).2 h
    refine List.mem_map.2 ⟨(oid, order), List.mem_filter.2 ⟨hentry, ?_⟩, rfl⟩
    simpa [Option.any_eq_true] using hmissing

/-- An order without an id is removed, one that is not open is marked, and the others stay. -/
theorem reconcileStaleOrders_get? {openOrders : List String}
    {inFlight : Dict String InFlightOrder} {oid : String} {order : InFlightOrder}
    (h : inFlight.get? oid = some order) :
    (reconcileStaleOrders (some openOrders) inFlight).1.get? oid =
      match exchangeOid order with
      | none => none
      | some id => some (if id ∈ openOrders then order else markCancelled order) := by
  have hsize : inFlight.size ≠ 0 := by
    intro hzero
    have hentry := (inFlight.mem_entries_iff).2 h
    rw [List.eq_nil_of_length_eq_zero hzero] at hentry
    cases hentry
  simp only [reconcileStaleOrders, if_neg hsize, get?_foldl_markMissing, get?_foldl_pop,
    mem_staleNoId h, mem_staleMissing h]
  cases hid : exchangeOid order with
  | none => simp
  | some id =>
      by_cases hopen : id ∈ openOrders
      · simp [hopen, h]
      · simp [hopen, h]

/-- It adds no order, and changes none but by marking it. -/
theorem reconcileStaleOrders_sub {openOrders : List String}
    {inFlight : Dict String InFlightOrder} {oid : String} {order' : InFlightOrder}
    (h : (reconcileStaleOrders (some openOrders) inFlight).1.get? oid = some order') :
    ∃ order, inFlight.get? oid = some order ∧ (order' = order ∨ order' = markCancelled order) := by
  simp only [reconcileStaleOrders] at h
  split_ifs at h
  · exact ⟨order', h, Or.inl rfl⟩
  · rw [get?_foldl_markMissing, get?_foldl_pop] at h
    split_ifs at h
    · cases h
    · obtain ⟨order, hbefore, rfl⟩ := Option.map_eq_some_iff.1 h
      exact ⟨order, hbefore, Or.inr rfl⟩
    · exact ⟨order', h, Or.inl rfl⟩

/-! ## Orders placed meanwhile -/

inductive CleanupPhase where
  | idle
  | asked
  | answered (openOrders : List String)

/-- The in-flight orders of the connector, the exchange's open orders and the one it accepted
for each client id, the `place_order` calls in progress with their requests and results, and
the reconciliation.  `known` are the txids given out before, `acceptedSince` those given out
since the open orders were answered. -/
structure Startup where
  inFlight : Dict String InFlightOrder
  openOrders : List String
  accepted : Dict String String
  calls : List String
  requests : List String
  returned : Dict String String
  phase : CleanupPhase
  known : List String
  acceptedSince : List String

/-- Orders of previous sessions. -/
def Startup.init (inFlight : Dict String InFlightOrder) (openOrders : List String)
    (accepted : Dict String String) : Startup where
  inFlight := inFlight
  openOrders := openOrders
  accepted := accepted
  calls := []
  requests := []
  returned := ∅
  phase := .idle
  known := openOrders
  acceptedSince := []

inductive StartupLabel where
  /-- `place_order` is called for a new client id -/
  | place (oid : String)
  /-- the in-flight order is recorded, while the call is in progress or later -/
  | track (oid : String) (cancelAttempted : Attribute Bool) (status : Attribute String)
  /-- the exchange accepts the order -/
  | accepts (oid txid : String)
  /-- the exchange refuses the order, or never receives it -/
  | refuses (oid : String)
  /-- the call returns the txid -/
  | returns (oid : String)
  /-- the call raises -/
  | raises (oid : String)
  /-- the txid is recorded -/
  | records (oid : String)
  /-- the in-flight order is dropped by its owner -/
  | untracks (oid : String)
  /-- an open order is filled, cancelled or expires -/
  | closes (txid : String)
  /-- the reconciliation asks for the open orders -/
  | asks
  /-- the exchange answers with the open orders -/
  | answers
  /-- the reconciliation gets the answer -/
  | finishes
  /-- the request for the open orders raises -/
  | aborts

def startupStep (s : Startup) : StartupLabel → Option Startup
  | .place oid =>
      if oid ∈ s.calls ∨ oid ∈ s.requests ∨ s.inFlight.contains oid ∨ s.returned.contains oid ∨
        s.accepted.contains oid then none
      else some { s with calls := oid :: s.calls, requests := oid :: s.requests }
  | .track oid cancelAttempted status =>
      if (oid ∈ s.calls ∨ s.returned.contains oid) ∧ s.inFlight.contains oid = false then
        some { s with
          inFlight := s.inFlight.set oid ⟨s.returned.get? oid, cancelAttempted, status⟩ }
      else none
  | .accepts oid txid =>
      if oid ∈ s.requests ∧ txid ∉ s.known then
        some { s with
          requests := s.requests.filter (· ≠ oid)
          accepted := s.accepted.set oid txid
          openOrders := txid :: s.openOrders
          known := txid :: s.known
          acceptedSince := txid :: s.acceptedSince }
      else none
  | .refuses oid =>
      if oid ∈ s.requests then some { s with requests := s.requests.filter (· ≠ oid) } else none
  | .returns oid =>
      match s.accepted.get? oid with
      | none => none
      | some txid =>
          if oid ∈ s.calls then
            some { s with
              calls := s.calls.filter (· ≠ oid)
              returned := s.returned.set oid txid }
          else none
  | .raises oid =>
      if oid ∈ s.calls then some { s with calls := s.calls.filter (· ≠ oid) } else none
  | .records oid =>
      match s.returned.get? oid, s.inFlight.get? oid with
      | some txid, some order =>
          some { s with inFlight := s.inFlight.set oid { order with exchangeOrderId := some txid } }
      | _, _ => none
  | .untracks oid => some { s with inFlight := s.inFlight.pop oid }
  | .closes txid => some { s with openOrders := s.openOrders.filter (· ≠ txid) }
  | .asks =>
      match s.phase with
      | .idle => some { s with phase := .asked }
      | _ => none
  | .answers =>
      match s.phase with
      | .asked => some { s with phase := .answered s.openOrders, acceptedSince := [] }
      | _ => none
  | .finishes =>
      match s.phase with
      | .answered openOrders =>
          some { s with
            inFlight := (reconcileStaleOrders (some openOrders) s.inFlight).1
            phase := .idle }
      | _ => none
  | .aborts =>
      match s.phase with
      | .idle => none
      | _ => some { s with
          inFlight := (reconcileStaleOrders none s.inFlight).1
          phase := .idle }

/-- The reconciliation beside the calls that place orders. -/
def startupMachine (inFlight : Dict String InFlightOrder) (openOrders : List String)
    (accepted : Dict String String) : Machine Startup StartupLabel where
  init := .init inFlight openOrders accepted
  step := startupStep

/-! ## The property -/

/-- The order on the exchange that an in-flight order stands for. -/
def txidOf (s : Startup) (oid : String) (order : InFlightOrder) : Option String :=
  match exchangeOid order with
  | some id => some id
  | none => s.accepted.get? oid

/-- The order is open, or its submission is in progress. -/
def Live (s : Startup) (oid : String) (order : InFlightOrder) : Prop :=
  oid ∈ s.calls ∨ oid ∈ s.requests ∨ ∃ txid, txidOf s oid order = some txid ∧ txid ∈ s.openOrders

/-- When the reconciliation finishes, the live orders are still there as they were. -/
def SparesLive (s : Startup) : StartupLabel → Prop
  | .finishes => ∀ openOrders, s.phase = .answered openOrders →
      ∀ oid order, s.inFlight.get? oid = some order → Live s oid order →
        (reconcileStaleOrders (some openOrders) s.inFlight).1.get? oid = some order
  | _ => True

/-- When the reconciliation finishes, no order without an exchange id is being placed or is
open, and no order has been accepted since the answer that is open, has its id recorded and can
be marked. -/
def NoneMissed (s : Startup) : StartupLabel → Prop
  | .finishes => ∀ oid order, s.inFlight.get? oid = some order →
      match exchangeOid order with
      | none => oid ∉ s.calls ∧ oid ∉ s.requests ∧
          ∀ txid, s.accepted.get? oid = some txid → txid ∉ s.openOrders
      | some id => id ∈ s.openOrders → id ∈ s.acceptedSince → markCancelled order = order
  | _ => True

/-! ## Orders since the answer -/

/-- The open orders are in the answer or have been accepted since, and not both; a client id
whose order has an exchange id is not being placed. -/
structure CleanupInv (s : Startup) : Prop where
  known : ∀ txid ∈ s.openOrders, txid ∈ s.known
  answer : ∀ openOrders, s.phase = .answered openOrders →
    (∀ txid ∈ openOrders, txid ∈ s.known) ∧ (∀ txid ∈ s.acceptedSince, txid ∉ openOrders) ∧
      ∀ txid ∈ s.openOrders, txid ∈ openOrders ∨ txid ∈ s.acceptedSince
  placed : ∀ oid, (s.accepted.contains oid → oid ∉ s.requests) ∧
    (s.returned.contains oid → oid ∉ s.calls ∧ oid ∉ s.requests)
  ids : ∀ oid order id, s.inFlight.get? oid = some order → exchangeOid order = some id →
    oid ∉ s.calls ∧ oid ∉ s.requests

theorem cleanupInv_init (inFlight : Dict String InFlightOrder) (openOrders : List String)
    (accepted : Dict String String) : CleanupInv (.init inFlight openOrders accepted) where
  known _ h := h
  answer _ h := by cases h
  placed _ := ⟨fun _ => List.not_mem_nil, fun _ => ⟨List.not_mem_nil, List.not_mem_nil⟩⟩
  ids _ _ _ _ _ := ⟨List.not_mem_nil, List.not_mem_nil⟩

/-- Calls or requests end. -/
theorem CleanupInv.fewer {s : Startup} (h : CleanupInv s) {calls requests : List String}
    (hcalls : calls ⊆ s.calls) (hrequests : requests ⊆ s.requests) :
    CleanupInv { s with calls := calls, requests := requests } where
  known := h.known
  answer := h.answer
  placed oid := by
    refine ⟨fun hsome hmem => (h.placed oid).1 hsome (hrequests hmem), fun hsome => ?_⟩
    obtain ⟨hcall, hrequest⟩ := (h.placed oid).2 hsome
    exact ⟨fun hmem => hcall (hcalls hmem), fun hmem => hrequest (hrequests hmem)⟩
  ids oid order id hid hsome := by
    obtain ⟨hcall, hrequest⟩ := h.ids oid order id hid hsome
    exact ⟨fun hmem => hcall (hcalls hmem), fun hmem => hrequest (hrequests hmem)⟩

/-- The exchange accepts an order and gives it a new txid. -/
theorem CleanupInv.accept {s : Startup} (h : CleanupInv s) {oid txid : String}
    (hoid : oid ∉ s.requests) (hfresh : txid ∉ s.known) :
    CleanupInv { s with
      accepted := s.accepted.set oid txid
      openOrders := txid :: s.openOrders
      known := txid :: s.known
      acceptedSince := txid :: s.acceptedSince } where
  known := List.forall_mem_cons.2 ⟨List.mem_cons_self, fun txid' hmem =>
    List.mem_cons_of_mem _ (h.known txid' hmem)⟩
  answer openOrders hphase := by
    obtain ⟨hknown, hsince, hcovered⟩ := h.answer openOrders hphase
    refine ⟨fun txid' hmem => List.mem_cons_of_mem _ (hknown txid' hmem),
      List.forall_mem_cons.2 ⟨fun hmem => hfresh (hknown txid hmem), hsince⟩,
      List.forall_mem_cons.2 ⟨Or.inr List.mem_cons_self, fun txid' hmem => ?_⟩⟩
    exact (hcovered txid' hmem).imp_right (List.mem_cons_of_mem _)
  placed oid' := by
    refine ⟨fun hsome => ?_, (h.placed oid').2⟩
    by_cases heq : oid' = oid
    · exact heq ▸ hoid
    · have hbefore : s.accepted.contains oid' := by
        simpa [Dict.contains, Dict.get?_set_of_ne _ heq] using hsome
      exact (h.placed oid').1 hbefore
  ids := h.ids

/-- A call returns the txid of the order that was accepted. -/
theorem CleanupInv.return {s : Startup} (h : CleanupInv s) {oid : String} (hcall : oid ∉ s.calls)
    (haccepted : s.accepted.contains oid) (txid : String) :
    CleanupInv { s with returned := s.returned.set oid txid } where
  known := h.known
  answer := h.answer
  placed oid' := by
    refine ⟨(h.placed oid').1, fun hsome => ?_⟩
    by_cases heq : oid' = oid
    · rw [heq]
      exact ⟨hcall, (h.placed oid).1 haccepted⟩
    · have hbefore : s.returned.contains oid' := by
        simpa [Dict.contains, Dict.get?_set_of_ne _ heq] using hsome
      exact (h.placed oid').2 hbefore
  ids := h.ids

/-- An in-flight order gets the id that a call returned, or none. -/
theorem CleanupInv.setOrder {s : Startup} (h : CleanupInv s) {oid : String}
    {order : InFlightOrder}
    (hid : ∀ id, exchangeOid order = some id → s.returned.contains oid) :
    CleanupInv { s with inFlight := s.inFlight.set oid order } where
  known := h.known
  answer := h.answer
  placed := h.placed
  ids oid' order' id hget hsome := by
    simp only [Dict.get?_set] at hget
    split_ifs at hget with heq
    · cases hget
      exact heq ▸ (h.placed oid).2 (hid id hsome)
    · exact h.ids oid' order' id hget hsome

/-- A call and its request begin for an unused client id. -/
theorem CleanupInv.place {s : Startup} (h : CleanupInv s) {oid : String}
    (hinFlight : ¬ s.inFlight.contains oid) (hreturned : ¬ s.returned.contains oid)
    (haccepted : ¬ s.accepted.contains oid) :
    CleanupInv { s with calls := oid :: s.calls, requests := oid :: s.requests } where
  known := h.known
  answer := h.answer
  placed oid' := by
    refine ⟨fun hsome => ?_, fun hsome => ?_⟩
    · have hne : oid' ≠ oid := fun heq => haccepted (heq ▸ hsome)
      simpa [hne] using (h.placed oid').1 hsome
    · have hne : oid' ≠ oid := fun heq => hreturned (heq ▸ hsome)
      simpa [hne] using (h.placed oid').2 hsome
  ids oid' order id hid hsome := by
    have hne : oid' ≠ oid := fun heq => hinFlight (by simp [← heq, Dict.contains, hid])
    simpa [hne] using h.ids oid' order id hid hsome

/-- An order is open no more. -/
theorem CleanupInv.close {s : Startup} (h : CleanupInv s) (txid : String) :
    CleanupInv { s with openOrders := s.openOrders.filter (· ≠ txid) } where
  known txid' hmem := h.known txid' (List.mem_filter.1 hmem).1
  answer openOrders hphase := by
    obtain ⟨hknown, hsince, hcovered⟩ := h.answer openOrders hphase
    exact ⟨hknown, hsince, fun txid' hmem => hcovered txid' (List.mem_filter.1 hmem).1⟩
  placed := h.placed
  ids := h.ids

/-- The reconciliation ends, and the in-flight orders are some of those before, with their
exchange ids. -/
theorem CleanupInv.finish {s : Startup} (h : CleanupInv s) {inFlight : Dict String InFlightOrder}
    (hsub : ∀ oid order', inFlight.get? oid = some order' →
      ∃ order, s.inFlight.get? oid = some order ∧ exchangeOid order' = exchangeOid order) :
    CleanupInv { s with inFlight := inFlight, phase := .idle } where
  known := h.known
  answer _ hidle := by cases hidle
  placed := h.placed
  ids oid order' id hid hsome := by
    obtain ⟨order, hbefore, hsame⟩ := hsub oid order' hid
    exact h.ids oid order id hbefore (hsame ▸ hsome)

/-- Every step keeps them. -/
theorem CleanupInv.step {s s' : Startup} {l : StartupLabel} (h : CleanupInv s)
    (hstep : startupStep s l = some s') : CleanupInv s' := by
  cases l with
  | place oid =>
      simp only [startupStep] at hstep
      split_ifs at hstep with hused
      cases hstep
      push Not at hused
      obtain ⟨-, -, hinFlight, hreturned, haccepted⟩ := hused
      exact h.place hinFlight hreturned haccepted
  | track oid cancelAttempted status =>
      simp only [startupStep] at hstep
      split_ifs at hstep with htracked
      cases hstep
      refine h.setOrder fun id hid => ?_
      cases hget : s.returned.get? oid with
      | none => simp [exchangeOid, hget] at hid
      | some txid => simp [Dict.contains, hget]
  | accepts oid txid =>
      simp only [startupStep] at hstep
      split_ifs at hstep with hnew
      cases hstep
      have hfewer := h.fewer (List.Subset.refl _) (List.filter_sublist (p := (· ≠ oid))).subset
      exact hfewer.accept (by simp) hnew.2
  | refuses oid =>
      simp only [startupStep] at hstep
      split_ifs at hstep
      cases hstep
      exact h.fewer (List.Subset.refl _) List.filter_sublist.subset
  | returns oid =>
      simp only [startupStep] at hstep
      split at hstep
      · cases hstep
      · rename_i txid htxid
        split_ifs at hstep
        cases hstep
        have hfewer := h.fewer (List.filter_sublist (p := (· ≠ oid))).subset (List.Subset.refl _)
        exact hfewer.return (by simp) (by simp [Dict.contains, htxid]) txid
  | raises oid =>
      simp only [startupStep] at hstep
      split_ifs at hstep
      cases hstep
      exact h.fewer List.filter_sublist.subset (List.Subset.refl _)
  | records oid =>
      simp only [startupStep] at hstep
      split at hstep
      · rename_i txid order htxid horder
        cases hstep
        exact h.setOrder fun _ _ => by simp [Dict.contains, htxid]
      · cases hstep
  | untracks oid =>
      cases hstep
      exact ⟨h.known, h.answer, h.placed, fun oid' order id hid hsome =>
        h.ids oid' order id (Dict.get?_of_pop hid) hsome⟩
  | closes txid =>
      cases hstep
      exact h.close txid
  | asks =>
      simp only [startupStep] at hstep
      split at hstep
      · cases hstep
        exact ⟨h.known, fun _ hphase => (by cases hphase), h.placed, h.ids⟩
      · cases hstep
  | answers =>
      simp only [startupStep] at hstep
      split at hstep
      · cases hstep
        refine ⟨h.known, fun openOrders hphase => ?_, h.placed, h.ids⟩
        cases hphase
        exact ⟨h.known, by simp, fun txid hmem => Or.inl hmem⟩
      · cases hstep
  | finishes =>
      simp only [startupStep] at hstep
      split at hstep
      · rename_i openOrders hphase
        cases hstep
        refine h.finish fun oid order' hid => ?_
        obtain ⟨order, hbefore, rfl | rfl⟩ := reconcileStaleOrders_sub hid
        · exact ⟨_, hbefore, rfl⟩
        · exact ⟨order, hbefore, rfl⟩
      · cases hstep
  | aborts =>
      simp only [startupStep] at hstep
      split at hstep
      · cases hstep
      · cases hstep
        exact h.finish fun oid order hid => ⟨order, hid, rfl⟩

/-! ## Runs that spare the live orders -/

/-- A finishing step spares the live orders exactly when it misses none. -/
theorem CleanupInv.spares {s s' : Startup} {l : StartupLabel} (h : CleanupInv s)
    (hstep : startupStep s l = some s') : SparesLive s l ↔ NoneMissed s l := by
  cases l with
  | finishes =>
      simp only [startupStep] at hstep
      split at hstep
      · rename_i openOrders hphase
        obtain ⟨-, hsince, hcovered⟩ := h.answer openOrders hphase
        constructor
        · intro hspares oid order hid
          have hkept := hspares openOrders hphase oid order hid
          rw [reconcileStaleOrders_get? hid] at hkept
          cases hoid : exchangeOid order with
          | none =>
              simp only [hoid, reduceCtorEq, imp_false, Live, txidOf, not_or, not_exists,
                not_and] at hkept
              exact hkept
          | some id =>
              intro hopen hlater
              have hlive : Live s oid order :=
                Or.inr (Or.inr ⟨id, by simp [txidOf, hoid], hopen⟩)
              simpa [hoid, hsince id hlater] using hkept hlive
        · intro hnone openOrders' hphase' oid order hid hlive
          cases hphase.symm.trans hphase'
          rw [reconcileStaleOrders_get? hid]
          have hmissed := hnone oid order hid
          cases hoid : exchangeOid order with
          | none =>
              simp only [hoid] at hmissed
              simp only [Live, txidOf, hoid] at hlive
              obtain ⟨hcall, hrequest, hclosed⟩ := hmissed
              rcases hlive with hmem | hmem | ⟨txid, htxid, hopen⟩
              · exact absurd hmem hcall
              · exact absurd hmem hrequest
              · exact absurd hopen (hclosed txid htxid)
          | some id =>
              simp only [hoid] at hmissed
              obtain ⟨hcall, hrequest⟩ := h.ids oid order id hid hoid
              have hopen : id ∈ s.openOrders := by
                simpa [Live, txidOf, hoid, hcall, hrequest] using hlive
              dsimp only
              split_ifs with hanswered
              · rfl
              · rw [hmissed hopen ((hcovered id hopen).resolve_left hanswered)]
      · cases hstep
  | _ => exact Iff.rfl

/-- In a run, no live order is removed or marked exactly when, whenever the reconciliation
finishes, no order without an exchange id is being placed or open, and none that is open has been
accepted after the exchange answered. -/
theorem sparesLive_iff (inFlight : Dict String InFlightOrder) (openOrders : List String)
    (accepted : Dict String String) (ls : List StartupLabel) :
    (startupMachine inFlight openOrders accepted).AllSteps SparesLive
        (.init inFlight openOrders accepted) ls ↔
      (startupMachine inFlight openOrders accepted).AllSteps NoneMissed
        (.init inFlight openOrders accepted) ls := by
  have hkept : ∀ s l s', CleanupInv s →
      (startupMachine inFlight openOrders accepted).step s l = some s' → CleanupInv s' :=
    fun _ _ _ h hstep => h.step hstep
  exact (startupMachine inFlight openOrders accepted).allSteps_congr_of_invariant hkept
    (fun _ _ _ h hstep => h.spares hstep) (cleanupInv_init _ _ _) ls

/-- The in-flight order of a `place_order` call in progress is removed. -/
theorem order_in_progress_is_removed :
    ¬ ∀ ls, (startupMachine ∅ [] ∅).AllSteps SparesLive (.init ∅ [] ∅) ls := by
  intro h
  obtain ⟨s, hrun, hphase, hcall, hid, hremoved⟩ : ∃ s, (startupMachine ∅ [] ∅).run
      (.init ∅ [] ∅) [.asks, .answers, .place "hb-1",
        .track "hb-1" (.writable false) (.writable "open")] = some s ∧
      s.phase = .answered [] ∧ "hb-1" ∈ s.calls ∧
      s.inFlight.get? "hb-1" = some ⟨none, .writable false, .writable "open"⟩ ∧
      (reconcileStaleOrders (some []) s.inFlight).1.get? "hb-1" = none := by
    refine ⟨_, rfl, rfl, ?_, rfl, ?_⟩
    · decide
    · decide
  have hsteps := h ([.asks, .answers, .place "hb-1",
    .track "hb-1" (.writable false) (.writable "open")] ++ [.finishes])
  have hfinishes : startupStep s .finishes = some { s with
      inFlight := (reconcileStaleOrders (some []) s.inFlight).1, phase := .idle } := by
    simp only [startupStep, hphase]
  have hspares := ((hsteps.of_append hrun) _ hfinishes).1 [] hphase "hb-1" _ hid (Or.inl hcall)
  rw [hremoved] at hspares
  cases hspares

end Kraken
end MarketConnector
