import MarketConnector.Foundations.Transitions
import MarketConnector.Ib.CancelOrder
import MarketConnector.Ib.ErrorRouter

/-!
# Ib - Cancellation reasons

IB reports the cancellation of an order with code 202 under its order id, and the router keeps
the text under that id.  A handle names the order by its permanent id once it has one.

Main results:

- Definition `reasonsMachine`: placed orders, their handles, and what IB reports.
- Theorem `ReasonsInv.step`: the texts are those of the last reports, and handles name the
  orders as their trades did.
- Theorem `retrievesReason_iff`: the runs in which every handle gets the reason.
- Theorem `permanent_id_has_no_reason`: an order that got a permanent id before.
-/

namespace MarketConnector
namespace Ib

open Foundations

/-! ## State -/

/-- Calls that wait for a status of an order: `place_order`, `cancel_order` and `wait_for`. -/
inductive HandleCall where
  | place
  | cancel
  | waitFor (targets : List IBOrderState) (owned : Bool)

/-- A wait on a trade; a result comes with the permanent id the trade had then. -/
structure HandleWait where
  call : HandleCall
  trade : Nat
  result : Option (OrderHandle × Int)

/-- The router, the trades of the placed orders, the waits, the handles that were returned,
each with the permanent id its trade had, and the errors IB has reported, the last one first. -/
structure ReasonsState where
  router : ErrorRouter
  trades : Dict Nat Trade
  waits : Dict Nat HandleWait
  nextWait : Nat
  handles : List (OrderHandle × Int)
  errors : List (Int × Int × String)

/-- A new transport, whose router has seen no error. -/
def ReasonsState.init (router : ErrorRouter) : ReasonsState where
  router := { router with cancelReasons := ∅ }
  trades := ∅
  waits := ∅
  nextWait := 0
  handles := []
  errors := []

inductive ReasonsLabel where
  /-- `IB.placeOrder` returns a trade and `place_order` waits -/
  | place (trade : Nat) (value : Trade)
  /-- a trade changes -/
  | update (trade : Nat) (value : Trade)
  /-- a status event reaches a wait on its trade -/
  | status (wait : Nat)
  /-- IB reports an error -/
  | error (reqId code : Int) (message : String)
  /-- `cancel_order` with a returned handle -/
  | cancelOrder (handle : Nat)
  /-- `wait_for` on a returned handle -/
  | waitFor (handle : Nat) (targets : List IBOrderState)
  /-- `open_orders` lists a trade -/
  | openOrders (trade : Nat)
  /-- a wait that has its handle returns it -/
  | returns (wait : Nat)
  /-- a wait raises or times out -/
  | leaves (wait : Nat)

/-! ## Steps -/

section Steps

variable (session : Session) (lower : String → String)

/-- What a status event gives to a wait. -/
def waitAnswer (call : HandleCall) (trade : Nat) (t : Trade) : Option OrderHandle :=
  match call with
  | .place =>
      if isSyntheticCancel t || isUnacknowledged t then none
      else (OrderHandle.fromTrade trade t (some session.spec.clientId)).toOption
  | .cancel =>
      (OrderHandle.fromTrade trade t (some session.spec.clientId)).toOption.filter fun handle =>
        handle.rawStatus ≠ .pendingCancel
  | .waitFor targets owned =>
      ((OrderHandle.fromTrade trade t none).toOption.map fun handle =>
        { handle with owned := owned }).filter fun handle => handle.status ∈ targets

/-- A wait gets its result, unless it has one. -/
def answerWait (t : Trade) (wait : HandleWait) : HandleWait :=
  if wait.result = none then
    { wait with
      result := (waitAnswer session wait.call wait.trade t).map fun handle => (handle, t.permId) }
  else wait

/-- A call begins to wait. -/
def startWait (s : ReasonsState) (call : HandleCall) (trade : Nat) : ReasonsState :=
  { s with
    waits := s.waits.set s.nextWait ⟨call, trade, none⟩
    nextWait := s.nextWait + 1 }

/-- The handle that a step returns to the user, with the permanent id its trade had. -/
def returned (s : ReasonsState) : ReasonsLabel → Option (OrderHandle × Int)
  | .returns id => (s.waits.get? id).bind HandleWait.result
  | .openOrders trade =>
      (s.trades.get? trade).bind fun t =>
        (OrderHandle.fromTrade trade t (some session.spec.clientId)).toOption.map fun handle =>
          (handle, t.permId)
  | .cancelOrder i =>
      -- a terminal handle is returned as it is
      s.handles[i]?.filter fun known =>
        !session.spec.readonly && known.1.owned && known.1.status.isTerminal
  | _ => none

/-- The handle is in the user's hands. -/
def keepReturned (s : ReasonsState) (l : ReasonsLabel) : ReasonsState :=
  { s with handles := s.handles ++ (returned session s l).toList }

def reasonsStep (s : ReasonsState) (l : ReasonsLabel) : Option ReasonsState :=
  match l with
  | .place trade value =>
      if s.trades.contains trade then none
      else some (startWait { s with trades := s.trades.set trade value } .place trade)
  | .update trade value =>
      match s.trades.get? trade with
      | none => none
      | some t =>
          if value.orderId = t.orderId then some { s with trades := s.trades.set trade value }
          else none
  | .status id =>
      match s.waits.get? id with
      | none => none
      | some wait =>
          (s.trades.get? wait.trade).map fun t =>
            { s with waits := s.waits.set id (answerWait session t wait) }
  | .error reqId code message =>
      some { s with
        router := s.router.onError lower reqId code message
        errors := (reqId, code, message) :: s.errors }
  | .cancelOrder i =>
      match s.handles[i]? with
      | none => none
      | some known =>
          let s := keepReturned session s l
          some (if reachesIb session known.1 then startWait s .cancel known.1.trade else s)
  | .waitFor i targets =>
      match s.handles[i]? with
      | none => none
      | some known => some (startWait s (.waitFor targets known.1.owned) known.1.trade)
  | .openOrders _ => some (keepReturned session s l)
  | .returns id =>
      match (s.waits.get? id).bind HandleWait.result with
      | none => none
      | some _ => some { keepReturned session s l with waits := s.waits.pop id }
  | .leaves id => some { s with waits := s.waits.pop id }

/-- The placed orders of a transport with their handles and the errors IB reports. -/
def reasonsMachine (router : ErrorRouter) : Machine ReasonsState ReasonsLabel where
  init := .init router
  step := reasonsStep session lower

end Steps

/-! ## The property -/

/-- `cancel_reason`. -/
def cancelReason (s : ReasonsState) (orderId : Int) : Option String :=
  s.router.cancelReasons.get? orderId

/-- The text of the last code-202 report under an id. -/
def lastReport (errors : List (Int × Int × String)) (id : Int) : Option String :=
  (errors.find? fun e => e.1 = id ∧ e.2.1 = 202).map fun e => e.2.2

/-- A handle that is returned for an order IB has reported as cancelled gets the last report. -/
def RetrievesReason (session : Session) (s : ReasonsState) (l : ReasonsLabel) : Prop :=
  ∀ handle permId t, returned session s l = some (handle, permId) →
    s.trades.get? handle.trade = some t →
    ∀ text, lastReport s.errors t.orderId = some text →
      cancelReason s handle.orderId = some text

/-- When the handle was made, the order had no permanent id or one that is its order id, or
IB's last report under that id, if any, has the same text. -/
def NamedByOrderId (session : Session) (s : ReasonsState) (l : ReasonsLabel) : Prop :=
  ∀ handle permId t, returned session s l = some (handle, permId) →
    s.trades.get? handle.trade = some t → permId = 0 ∨ permId = t.orderId ∨
      lastReport s.errors t.orderId = none ∨
      lastReport s.errors permId = lastReport s.errors t.orderId

/-! ## Texts and ids -/

theorem onError_cancelReasons (lower : String → String) (r : ErrorRouter) (reqId code : Int)
    (message : String) (id : Int) :
    (r.onError lower reqId code message).cancelReasons.get? id =
      if id = reqId ∧ code = 202 then some message else r.cancelReasons.get? id := by
  split_ifs with hreport
  · obtain ⟨rfl, rfl⟩ := hreport
    have hquiet : ∀ r : ErrorRouter, (r.onOtherError lower id 202 message).cancelReasons.get? id =
        some message := by
      intro r
      have hcode : (202 : Int) ∉ informationalOrderCodes ∧ (202 : Int) ∉ connectionLostCodes ∧
          farmCodes 202 = none := by decide
      simp [ErrorRouter.onOtherError, hcode, ErrorRouter.onCallError]
    simp [ErrorRouter.onError, hquiet]
  · refine (ErrorRouter.onError_frame lower r reqId code message).reasons id ?_
    by_contra hboth
    rw [not_or, not_not, not_not] at hboth
    exact hreport hboth

/-- The id of a handle is what its trade had then. -/
def NamesOrder (s : ReasonsState) (known : OrderHandle × Int) : Prop :=
  ∃ t, s.trades.get? known.1.trade = some t ∧
    known.1.orderId = if known.2 ≠ 0 then known.2 else t.orderId

/-- The texts are those of the last reports, waits are on known trades, and handles name their
orders. -/
structure ReasonsInv (s : ReasonsState) : Prop where
  reasons : ∀ id, cancelReason s id = lastReport s.errors id
  waits : ∀ id wait, s.waits.get? id = some wait →
    ∀ known, wait.result = some known → NamesOrder s known
  handles : ∀ known ∈ s.handles, NamesOrder s known

theorem reasonsInv_init (router : ErrorRouter) : ReasonsInv (.init router) where
  reasons id := by simp [cancelReason, ReasonsState.init, lastReport]
  waits id wait h := by cases h
  handles known h := by cases h

/-- A snapshot names the order. -/
theorem namesOrder_of_fromTrade {s : ReasonsState} {trade : Nat} {t : Trade} {own : Option Int}
    {handle : OrderHandle} (ht : s.trades.get? trade = some t)
    (h : OrderHandle.fromTrade trade t own = .ok handle) : NamesOrder s (handle, t.permId) := by
  refine ⟨t, ?_, ?_⟩
  · rw [(fromTrade_status h).2.2, ht]
  · unfold OrderHandle.fromTrade at h
    cases hstate : orderState t with
    | none =>
        rw [hstate] at h
        cases h
    | some status =>
        rw [hstate] at h
        cases h
        rfl

theorem namesOrder_of_toOption {s : ReasonsState} {trade : Nat} {t : Trade} {own : Option Int}
    {handle : OrderHandle} (ht : s.trades.get? trade = some t)
    (h : (OrderHandle.fromTrade trade t own).toOption = some handle) :
    NamesOrder s (handle, t.permId) := by
  cases hfrom : OrderHandle.fromTrade trade t own with
  | error e =>
      rw [hfrom] at h
      cases h
  | ok made =>
      rw [hfrom] at h
      cases h
      exact namesOrder_of_fromTrade ht hfrom

theorem namesOrder_waitAnswer {session : Session} {s : ReasonsState} {call : HandleCall}
    {trade : Nat} {t : Trade} {handle : OrderHandle} (ht : s.trades.get? trade = some t)
    (h : waitAnswer session call trade t = some handle) : NamesOrder s (handle, t.permId) := by
  cases call with
  | place =>
      simp only [waitAnswer] at h
      split_ifs at h
      exact namesOrder_of_toOption ht h
  | cancel => exact namesOrder_of_toOption ht (Option.eq_some_of_filter_eq_some h)
  | waitFor targets owned =>
      obtain ⟨made, hmade, rfl⟩ := Option.map_eq_some_iff.1 (Option.eq_some_of_filter_eq_some h)
      exact (namesOrder_of_toOption ht hmade : NamesOrder s (made, t.permId))

theorem ReasonsInv.returned {session : Session} {s : ReasonsState} {l : ReasonsLabel}
    (h : ReasonsInv s) {known : OrderHandle × Int} (hknown : returned session s l = some known) :
    NamesOrder s known := by
  cases l with
  | returns id =>
      obtain ⟨wait, hwait, hresult⟩ := Option.bind_eq_some_iff.1 hknown
      exact h.waits id wait hwait known hresult
  | openOrders trade =>
      obtain ⟨t, ht, hmap⟩ := Option.bind_eq_some_iff.1 hknown
      obtain ⟨handle, hhandle, rfl⟩ := Option.map_eq_some_iff.1 hmap
      exact namesOrder_of_toOption ht hhandle
  | cancelOrder i =>
      have hget := Option.eq_some_of_filter_eq_some hknown
      exact h.handles known (List.mem_of_getElem? hget)
  | _ => cases hknown

/-- Handles keep naming their orders, whose order ids do not change. -/
theorem NamesOrder.mono {s s' : ReasonsState} {known : OrderHandle × Int} (h : NamesOrder s known)
    (htrades : ∀ trade t, s.trades.get? trade = some t →
      ∃ t', s'.trades.get? trade = some t' ∧ t'.orderId = t.orderId) : NamesOrder s' known := by
  obtain ⟨t, ht, hid⟩ := h
  obtain ⟨t', ht', hsame⟩ := htrades _ _ ht
  exact ⟨t', ht', by rw [hsame, hid]⟩

theorem ReasonsInv.setTrade {s : ReasonsState} (h : ReasonsInv s) {trade : Nat} {value : Trade}
    (hsame : ∀ t, s.trades.get? trade = some t → value.orderId = t.orderId) :
    ReasonsInv { s with trades := s.trades.set trade value } := by
  have htrades : ∀ trade' t, s.trades.get? trade' = some t →
      ∃ t', (s.trades.set trade value).get? trade' = some t' ∧ t'.orderId = t.orderId := by
    intro trade' t ht
    by_cases heq : trade' = trade
    · subst heq
      exact ⟨value, Dict.get?_set_self _ _ _, hsame t ht⟩
    · exact ⟨t, (Dict.get?_set_of_ne _ heq _).trans ht, rfl⟩
  exact ⟨h.reasons, fun id wait hwait known hresult =>
    (h.waits id wait hwait known hresult).mono htrades,
    fun known hknown => (h.handles known hknown).mono htrades⟩

theorem ReasonsInv.setWait {s : ReasonsState} (h : ReasonsInv s) (id : Nat) {wait : HandleWait}
    (hwait : ∀ known, wait.result = some known → NamesOrder s known) (nextWait : Nat) :
    ReasonsInv { s with waits := s.waits.set id wait, nextWait := nextWait } :=
  ⟨h.reasons, Dict.forall_get?_set h.waits hwait, h.handles⟩

theorem ReasonsInv.keepReturned {session : Session} {s : ReasonsState} (h : ReasonsInv s)
    (l : ReasonsLabel) : ReasonsInv (keepReturned session s l) := by
  refine ⟨h.reasons, h.waits, fun known hknown => ?_⟩
  rcases List.mem_append.1 hknown with hknown | hknown
  · exact h.handles known hknown
  · exact h.returned (Option.mem_toList.1 hknown)

theorem lastReport_cons (e : Int × Int × String) (errors : List (Int × Int × String)) (id : Int) :
    lastReport (e :: errors) id =
      if id = e.1 ∧ e.2.1 = 202 then some e.2.2 else lastReport errors id := by
  unfold lastReport
  rw [List.find?_cons]
  by_cases hreport : e.1 = id ∧ e.2.1 = 202
  · rw [if_pos ⟨hreport.1.symm, hreport.2⟩]
    simp [hreport]
  · have hother : ¬ (id = e.1 ∧ e.2.1 = 202) := fun h => hreport ⟨h.1.symm, h.2⟩
    rw [if_neg hother]
    simp [hreport]

/-- Every step keeps the texts and the names. -/
theorem ReasonsInv.step {session : Session} {lower : String → String} {s s' : ReasonsState}
    {l : ReasonsLabel} (h : ReasonsInv s) (hstep : reasonsStep session lower s l = some s') :
    ReasonsInv s' := by
  cases l with
  | place trade value =>
      simp only [reasonsStep] at hstep
      split_ifs at hstep with hknown
      cases hstep
      refine (h.setTrade fun t ht => ?_).setWait _ (fun known hresult => by cases hresult) _
      simp [Dict.contains, ht] at hknown
  | update trade value =>
      simp only [reasonsStep] at hstep
      split at hstep
      · cases hstep
      · rename_i t ht
        split_ifs at hstep with hsame
        cases hstep
        refine h.setTrade fun t' ht' => ?_
        cases ht.symm.trans ht'
        exact hsame
  | status id =>
      simp only [reasonsStep] at hstep
      split at hstep
      · cases hstep
      · rename_i wait hwait
        obtain ⟨t, ht, rfl⟩ := Option.map_eq_some_iff.1 hstep
        refine h.setWait id (fun known hresult => ?_) s.nextWait
        unfold answerWait at hresult
        split_ifs at hresult with hnone
        · obtain ⟨handle, hanswer, rfl⟩ := Option.map_eq_some_iff.1 hresult
          exact namesOrder_waitAnswer ht hanswer
        · exact h.waits id wait hwait known hresult
  | error reqId code message =>
      cases hstep
      refine ⟨fun id => ?_, h.waits, h.handles⟩
      have hbefore := h.reasons id
      unfold cancelReason at hbefore ⊢
      rw [onError_cancelReasons, lastReport_cons, hbefore]
  | cancelOrder i =>
      simp only [reasonsStep] at hstep
      split at hstep
      · cases hstep
      · cases hstep
        split_ifs
        · exact (h.keepReturned _).setWait _ (fun known hresult => by cases hresult) _
        · exact h.keepReturned _
  | waitFor i targets =>
      simp only [reasonsStep] at hstep
      split at hstep
      · cases hstep
      · cases hstep
        exact h.setWait _ (fun known hresult => by cases hresult) _
  | openOrders trade =>
      cases hstep
      exact h.keepReturned _
  | returns id =>
      simp only [reasonsStep] at hstep
      split at hstep
      · cases hstep
      · cases hstep
        have hkept := @ReasonsInv.keepReturned session s h (.returns id)
        exact ⟨hkept.reasons, fun id' wait hwait => hkept.waits id' wait (Dict.get?_of_pop hwait),
          hkept.handles⟩
  | leaves id =>
      cases hstep
      exact ⟨h.reasons, fun id' wait hwait => h.waits id' wait (Dict.get?_of_pop hwait),
        h.handles⟩

/-! ## Handles that get the reason -/

theorem ReasonsInv.retrieves {session : Session} {s : ReasonsState} (h : ReasonsInv s)
    (l : ReasonsLabel) : RetrievesReason session s l ↔ NamedByOrderId session s l := by
  refine forall_congr' fun handle => forall_congr' fun permId => forall_congr' fun t =>
    forall_congr' fun hreturned => forall_congr' fun ht => ?_
  obtain ⟨t', ht', hid⟩ := h.returned hreturned
  cases ht.symm.trans ht'
  rw [h.reasons, hid]
  by_cases hperm : permId = 0
  · simp [hperm]
  · by_cases hsame : permId = t.orderId
    · simp [hsame]
    · simp only [ne_eq, hperm, not_false_eq_true, if_true, hsame, false_or]
      cases lastReport s.errors t.orderId with
      | none => simp
      | some text => simp

/-- In a run, every handle gets the last report exactly when, whenever one is returned for an
order that was reported, the order had no permanent id other than its order id when the handle
was made, or IB reported the same text under that id. -/
theorem retrievesReason_iff (session : Session) (lower : String → String) (router : ErrorRouter)
    (ls : List ReasonsLabel) :
    (reasonsMachine session lower router).AllSteps (RetrievesReason session) (.init router) ls ↔
      (reasonsMachine session lower router).AllSteps (NamedByOrderId session) (.init router)
        ls := by
  have hkept : ∀ s l s', ReasonsInv s → (reasonsMachine session lower router).step s l = some s' →
      ReasonsInv s' := fun _ _ _ h hstep => h.step hstep
  exact (reasonsMachine session lower router).allSteps_congr_of_invariant hkept
    (fun _ l _ h _ => h.retrieves l) (reasonsInv_init router) ls

/-! ## An order with a permanent id -/

/-- An order of client 1 before IB acknowledges it. -/
def unansweredTrade : Trade where
  orderId := 7
  permId := 0
  clientId := 1
  totalQuantity := .ofNat 1
  status := .pendingSubmit
  filled := none
  avgFillPrice := none
  advancedError := ""
  log := []

/-- The same order on the books, under a permanent id. -/
def acknowledgedTrade : Trade :=
  { unansweredTrade with permId := 900, status := .submitted }

/-- The router of a new transport. -/
def quietRouter : ErrorRouter where
  marketDataType := none
  reportsPacing := false
  waiters := ⟨∅, ∅, fun _ => .pending⟩
  isConnected := true
  staleFarms := ∅
  cancelReasons := ∅
  connectionListeners := []
  dataLostListeners := []
  farmListeners := []
  depthResetListeners := []
  streamErrorListeners := []
  calls := []

/-- IB reports the cancellation of the acknowledged order. -/
def reportedRun : List ReasonsLabel :=
  [.place 0 unansweredTrade, .update 0 acknowledgedTrade, .error 7 202 "Order Canceled - reason:"]

/-- The handle that `open_orders` then lists has the permanent id, under which there is no
reason. -/
theorem permanent_id_has_no_reason :
    ∃ s, (reasonsMachine ⟨.default, none, true⟩ id quietRouter).run (.init quietRouter)
        reportedRun = some s ∧
      lastReport s.errors 7 = some "Order Canceled - reason:" ∧
      (returned ⟨.default, none, true⟩ s (.openOrders 0)).map (fun known => known.1.orderId) =
        some 900 ∧
      cancelReason s 900 = none ∧
      ¬ RetrievesReason ⟨.default, none, true⟩ s (.openOrders 0) := by
  refine ⟨_, rfl, by decide, by decide, by decide, fun h => ?_⟩
  have hreason := h _ _ acknowledgedTrade rfl rfl "Order Canceled - reason:" (by decide)
  exact absurd hreason (by decide)

end Ib
end MarketConnector
