import MarketConnector.Ib.LinkedOrders
import MarketConnector.Ib.RouterHistory

/-!
# Ib - Verdicts on placed orders

Orders that were placed wait for their first status, any number of them at once and all on one
error router.  What ends the wait of an order are the events of that order, in the order in which
they come, and the errors that end all waits; the other orders do not matter.

Main results:

- Definition `waitMachine`: the waits, the router and the futures between them.
- Definition `ownEvent?`: the events that concern an order.
- Theorem `onError_waiters`: which orders an error fails.
- Theorem `waits_settled`: the waits end as if each were alone.
-/

namespace MarketConnector
namespace Ib

open Foundations

/-! ## Errors that end a wait -/

/-- An error of the router as the waiting call raises it. -/
def IbError.raised : IbError → OrderError
  | .ofClass .orderRejected code message => .orderRejected code message none none
  | .ofClass _ _ message => .other message
  | .orderCancelled code message reason => .orderCancelled code message reason
  | .rateLimit _ message _ => .other message
  | .connectionLost code message => .connectionLost code message
  | .connectionTerminated code message => .connectionTerminated code message

/-- Whom an error fails among the orders: all of them, or the one under its id. -/
inductive OrderFault where
  | all (e : IbError)
  | one (e : IbError)

def orderFault? (code : Int) (message : String) : Option OrderFault :=
  if code ∈ connectionLostCodes then some (.all (.connectionLost code message))
  else if code = 1300 then some (.all (.connectionTerminated code message))
  else if code = 202 then some (.one (.orderCancelled code message message))
  else if errorTable code = some .orderRejected then
    some (.one (.ofClass .orderRejected code message))
  else none

/-- The waiters after a fault. -/
def Waiters.suffer (w : Waiters) (reqId : Int) : Option OrderFault → Waiters
  | none => w
  | some (.all e) => w.failAll e
  | some (.one e) => w.failOrder reqId e

namespace ErrorRouter

section OnError

variable (lower : String → String) (reqId code : Int) (message : String)

theorem onRequestError_waiters {r : ErrorRouter} (h : r.waiters.requests = ∅) :
    (r.onRequestError lower reqId code message).waiters = r.waiters := by
  have hnone : r.waiters.requests.get? reqId = none := by
    rw [h]
    rfl
  have hfail : ∀ e, r.waiters.failRequest reqId e = r.waiters := by
    intro e
    unfold Waiters.failRequest Waiters.failWaiter
    rw [hnone]
  unfold onRequestError
  cases r.requestException lower code message (errorTable code) with
  | none => rfl
  | some e =>
      simp only [hfail]
      split_ifs <;> rfl

/-- Which orders an error fails, while no request waits. -/
theorem onError_waiters {r : ErrorRouter} (h : r.waiters.requests = ∅) :
    (r.onError lower reqId code message).waiters =
      r.waiters.suffer reqId (orderFault? code message) := by
  unfold onError
  split_ifs with hrestored hdata
  · subst hrestored
    rfl
  · subst hdata
    rfl
  · obtain ⟨calls, hpacing⟩ := reportPacing_eq lower
      (r.emit (r.streamErrorListeners.map fun cb => .streamError cb reqId code message)) code
      message
    simp only [hpacing]
    unfold onOtherError
    split_ifs with hpartial hreset hinfo hlost hterminated
    · subst hpartial
      rfl
    · subst hreset
      rfl
    · obtain rfl : code = 10349 := by simpa [informationalOrderCodes] using hinfo
      rfl
    · simp [orderFault?, hlost, Waiters.suffer, notifyConnection, emit]
    · subst hterminated
      rfl
    · cases hfarm : farmCodes code with
      | some status =>
          obtain ⟨farm, ok⟩ := status
          rcases farmCodes_eq_some hfarm with rfl | rfl | rfl | rfl | rfl | rfl <;> rfl
      | none =>
          simp only [orderFault?, if_neg hlost, if_neg hterminated]
          unfold onCallError
          split_ifs
          · rfl
          · rfl
          · exact onRequestError_waiters lower reqId code message h

end OnError

end ErrorRouter

/-! ## The events of an order -/

/-- What a status event decides for the order that waits: a handle, or nothing yet. -/
def decidedBy (session : Session) (trade : Nat) (t : Trade) : Option OrderHandle :=
  if isSyntheticCancel t then none
  else if isUnacknowledged t then none
  else (OrderHandle.fromTrade trade t (some session.spec.clientId)).toOption

/-- How an event ends the wait of the order with this trade. -/
def decides (session : Session) (trade : Nat) : WaitEvent → Option (Except OrderError OrderHandle)
  | .status t => (decidedBy session trade t).map .ok
  | .fails exc _ => some (.error exc)

/-- How the events of an order end its wait: the first that decides does. -/
def orderVerdict (session : Session) (trade : Nat) (events : List WaitEvent) :
    Option (Except OrderError OrderHandle) :=
  events.findSome? (decides session trade)

/-- The verdict is what the wait of the order alone ends with; with no verdict it times out, or
is cancelled. -/
theorem waitFirstStatusUpdate_eq (session : Session) (trade : Nat) (interrupted : Bool)
    (events : List WaitEvent) :
    (waitFirstStatusUpdate session trade interrupted events).mapError Prod.fst =
      (orderVerdict session trade events).getD
        (.error (if interrupted then .cancelledError else .timeout)) := by
  induction events with
  | nil => rfl
  | cons event rest ih =>
      cases event with
      | fails exc advancedError => rfl
      | status t =>
          unfold waitFirstStatusUpdate
          unfold orderVerdict at ih ⊢
          rw [List.findSome?_cons]
          by_cases hsynthetic : isSyntheticCancel t = true
          · simpa [decides, decidedBy, hsynthetic] using ih
          · by_cases hunacknowledged : isUnacknowledged t = true
            · simpa [decides, decidedBy, hsynthetic, hunacknowledged] using ih
            · simp only [decides, decidedBy, hsynthetic, hunacknowledged]
              cases OrderHandle.fromTrade trade t (some session.spec.clientId) with
              | error exc => exact ih
              | ok handle => rfl

/-! ## Many waits -/

/-- Why a wait is given up; `timedOut` is the deadline of the first status. -/
inductive Interruption where
  | timedOut | cancelled
deriving DecidableEq

def Interruption.raised : Interruption → OrderError
  | .timedOut => .timeout
  | .cancelled => .cancelledError

/-- One `_wait_first_status_update` under way; it began when `since` labels had occurred. -/
structure OrderWait where
  orderId : Int
  trade : Nat
  since : Nat
  interrupted : Option Interruption

/-- A cancellation of the task outlasts the deadline. -/
def OrderWait.giveUp (w : OrderWait) (why : Interruption) : OrderWait :=
  { w with interrupted := some (if w.interrupted = some .cancelled then .cancelled else why) }

/-- What happens to the waits: one begins, a trade has a status event, the router is told
something, a wait is given up, or the task of a wait whose future is done goes on. -/
inductive WaitLabel where
  | await (orderId : Int) (trade : Nat)
  | status (trade : Nat) (t : Trade)
  | error (reqId code : Int) (message : String)
  | setConnected (isUp : Bool)
  | failAllPending (e : IbError)
  | interrupt (future : Nat) (why : Interruption)
  | resume (future : Nat)

/-- A wait that is over, what happened meanwhile, and how it ended. -/
structure EndedWait where
  wait : OrderWait
  span : List WaitLabel
  result : Except OrderError OrderHandle

/-- The waits by the number of their future.  `answers` are the handles that `set_result` was
called with, `history` is all that happened. -/
structure OrderWaits where
  router : ErrorRouter
  waits : Nat → Option OrderWait
  answers : Nat → Option OrderHandle
  nextFuture : Nat
  history : List WaitLabel
  ended : List EndedWait

/-- What a future tells the task that waits for it. -/
def told : FutureState → Option OrderHandle → Option (Except OrderError OrderHandle)
  | .result, some handle => some (.ok handle)
  | .exception e, _ => some (.error e.raised)
  | _, _ => none

namespace OrderWaits

variable (s : OrderWaits)

def futures (f : Nat) : FutureState :=
  s.router.waiters.futures f

/-- No wait under way is for this order id. -/
def isFree (orderId : Int) : Bool :=
  (List.range s.nextFuture).all fun f => (s.waits f).all fun w => w.orderId ≠ orderId

/-- The handler `_on_status` of the wait sets the result of its future. -/
def settledBy (session : Session) (trade : Nat) (t : Trade) (f : Nat) : Option OrderHandle :=
  match s.waits f with
  | none => none
  | some w => if w.trade = trade ∧ s.futures f = .pending then decidedBy session trade t else none

/-- The wait of an order that begins now. -/
def newWait (orderId : Int) (trade : Nat) : OrderWait :=
  ⟨orderId, trade, s.history.length, none⟩

/-- A new future is made and registered at the router. -/
def start (lower : String → String) (orderId : Int) (trade : Nat) : OrderWaits :=
  { s with
    router := s.router.apply lower (.awaitOrder orderId s.nextFuture)
    waits := Function.update s.waits s.nextFuture (some (s.newWait orderId trade))
    nextFuture := s.nextFuture + 1 }

/-- A status event runs the handlers of the waits for its trade. -/
def onStatus (session : Session) (trade : Nat) (t : Trade) : OrderWaits :=
  { s with
    router.waiters.futures := fun f =>
      if (s.settledBy session trade t f).isSome then .result else s.futures f
    answers := fun f => (s.settledBy session trade t f).or (s.answers f) }

/-- The timer, or a cancellation, cancels the future unless it is done. -/
def interrupt (f : Nat) (w : OrderWait) (why : Interruption) : OrderWaits :=
  { s with
    router.waiters.futures := Function.update s.futures f
      (if s.futures f = .pending then .cancelled else s.futures f)
    waits := Function.update s.waits f (some (w.giveUp why)) }

/-- The task of a wait goes on: it raises or returns, and the wait is forgotten. -/
def conclude (lower : String → String) (f : Nat) (w : OrderWait)
    (result : Except OrderError OrderHandle) : OrderWaits :=
  { s with
    router := s.router.apply lower (.forgetOrder w.orderId)
    waits := Function.update s.waits f none
    ended := s.ended ++ [⟨w, s.history.drop w.since, result⟩] }

/-- What a label does, up to the history. -/
def move (session : Session) (lower : String → String) : WaitLabel → Option OrderWaits
  | .await orderId trade =>
      if s.isFree orderId then some (s.start lower orderId trade) else none
  | .status trade t => some (s.onStatus session trade t)
  | .error reqId code message =>
      some { s with router := s.router.apply lower (.error reqId code message) }
  | .setConnected isUp => some { s with router := s.router.apply lower (.setConnected isUp) }
  | .failAllPending e => some { s with router := s.router.apply lower (.failAllPending e) }
  | .interrupt f why => (s.waits f).map fun w => s.interrupt f w why
  | .resume f =>
      (s.waits f).bind fun w =>
        match w.interrupted with
        | some why => some (s.conclude lower f w (.error why.raised))
        | none => (told (s.futures f) (s.answers f)).map (s.conclude lower f w)

/-- Add a label to the history. -/
def record (l : WaitLabel) : OrderWaits :=
  { s with history := s.history ++ [l] }

end OrderWaits

/-- Orders wait for their first status.  IB gives every new order an id of its own, so no two
waits under way are for the same id. -/
def waitMachine (session : Session) (lower : String → String) (marketDataType : Option Int) :
    Machine OrderWaits WaitLabel where
  init := ⟨.ofTransport marketDataType, fun _ => none, fun _ => none, 0, [], []⟩
  step s l := (s.move session lower l).map (OrderWaits.record · l)

/-! ## The own events of an order -/

/-- What a fault is to the order with this id. -/
def OrderFault.concerns (reqId orderId : Int) : OrderFault → Option IbError
  | .all e => some e
  | .one e => if reqId = orderId then some e else none

/-- The error a label sets on the future of an order. -/
def ownError? (orderId : Int) : WaitLabel → Option IbError
  | .error reqId code message => (orderFault? code message).bind (·.concerns reqId orderId)
  | .failAllPending e => some e
  | _ => none

/-- The event a label is to an order: a status of its own trade, an error under its id, or an
error that ends all waits. -/
def ownEvent? (orderId : Int) (trade : Nat) : WaitLabel → Option WaitEvent
  | .status trade' t => if trade' = trade then some (.status t) else none
  | l => (ownError? orderId l).map fun e => .fails e.raised ""

def OrderWait.ownEvents (w : OrderWait) (labels : List WaitLabel) : List WaitEvent :=
  labels.filterMap (ownEvent? w.orderId w.trade)

/-- The verdict on a wait by what has happened since it began. -/
def OrderWaits.verdictOn (session : Session) (s : OrderWaits) (w : OrderWait) :
    Option (Except OrderError OrderHandle) :=
  orderVerdict session w.trade (w.ownEvents (s.history.drop w.since))

theorem orderVerdict_append (session : Session) (trade : Nat) (events more : List WaitEvent) :
    orderVerdict session trade (events ++ more) =
      (orderVerdict session trade events).or (orderVerdict session trade more) := by
  simp [orderVerdict, List.findSome?_append]

/-- One more label adds its own event. -/
theorem verdictOn_record (session : Session) {s s' : OrderWaits} {l : WaitLabel} {w : OrderWait}
    (hhistory : s'.history = s.history) (hsince : w.since ≤ s.history.length) :
    (s'.record l).verdictOn session w =
      (s.verdictOn session w).or
        ((ownEvent? w.orderId w.trade l).bind (decides session w.trade)) := by
  have hdrop : (s'.record l).history.drop w.since = s.history.drop w.since ++ [l] := by
    rw [OrderWaits.record, hhistory, List.drop_append_of_le_length hsince]
  have hevent : orderVerdict session w.trade (w.ownEvents [l]) =
      (ownEvent? w.orderId w.trade l).bind (decides session w.trade) := by
    unfold orderVerdict OrderWait.ownEvents
    cases hevent : ownEvent? w.orderId w.trade l <;> simp [hevent]
  unfold OrderWaits.verdictOn
  rw [hdrop, ← hevent, ← orderVerdict_append]
  simp [OrderWait.ownEvents]

/-! ## What a future shows -/

/-- The future of a wait under way: it waits while nothing has decided, it shows the verdict, or
it was cancelled. -/
inductive Shows (session : Session) (s : OrderWaits) (f : Nat) (w : OrderWait) : Prop where
  | waiting (hverdict : s.verdictOn session w = none) (hpending : s.futures f = .pending)
      (hregistered : s.router.waiters.orders.get? w.orderId = some f)
      (hheld : w.interrupted = none)
  | decided (result : Except OrderError OrderHandle)
      (hverdict : s.verdictOn session w = some result)
      (htold : told (s.futures f) (s.answers f) = some result)
  | cancelled (why : Interruption) (hinterrupted : w.interrupted = some why)
      (hcancelled : s.futures f = .cancelled)

/-- A wait ends with the verdict on it; one that was given up ends with the reason for that. -/
def EndedWait.Justified (session : Session) (x : EndedWait) : Prop :=
  match x.wait.interrupted with
  | none => orderVerdict session x.wait.trade (x.wait.ownEvents x.span) = some x.result
  | some why => x.result = .error why.raised

/-- What is true of the waits at any time. -/
structure WaitsInv (session : Session) (s : OrderWaits) : Prop where
  fresh : ∀ f, s.nextFuture ≤ f →
    s.waits f = none ∧ s.futures f = .pending ∧ s.answers f = none
  requests : s.router.waiters.requests = ∅
  since : ∀ f w, s.waits f = some w → w.since ≤ s.history.length
  distinct : ∀ f w g v, s.waits f = some w → s.waits g = some v → w.orderId = v.orderId → f = g
  left : ∀ orderId f, s.router.waiters.orders.get? orderId = some f →
    ∃ w, s.waits f = some w ∧ w.orderId = orderId
  shown : ∀ f w, s.waits f = some w → Shows session s f w
  ended : ∀ x ∈ s.ended, x.Justified session

/-! ## Events from outside -/

theorem since_record {s s' : OrderWaits} {l : WaitLabel} {w : OrderWait}
    (hhistory : s'.history = s.history) (hsince : w.since ≤ s.history.length) :
    w.since ≤ (s'.record l).history.length := by
  simp only [OrderWaits.record, hhistory, List.length_append]
  omega

/-- What a label does to the future of a wait under way, when `event` is what it decides. -/
structure Reacts (s s' : OrderWaits) (f : Nat) (w : OrderWait)
    (event : Option (Except OrderError OrderHandle)) : Prop where
  done : s.futures f ≠ .pending → s'.futures f = s.futures f ∧ s'.answers f = s.answers f
  waits : s.futures f = .pending → s.router.waiters.orders.get? w.orderId = some f →
    event = none →
      s'.futures f = .pending ∧ s'.router.waiters.orders.get? w.orderId = some f
  decides : s.futures f = .pending → s.router.waiters.orders.get? w.orderId = some f →
    ∀ result, event = some result → told (s'.futures f) (s'.answers f) = some result

theorem told_pending (answer : Option OrderHandle) : told .pending answer = none := by
  cases answer <;> rfl

/-- What a future tells is the verdict. -/
theorem Shows.verdict_of_told {session : Session} {s : OrderWaits} {f : Nat} {w : OrderWait}
    (h : Shows session s f w) {result : Except OrderError OrderHandle}
    (htold : told (s.futures f) (s.answers f) = some result) :
    s.verdictOn session w = some result := by
  cases h with
  | waiting _ hpending =>
      rw [hpending, told_pending] at htold
      cases htold
  | decided result' hsome htold' => exact hsome.trans (htold'.symm.trans htold)
  | cancelled _ _ hcancelled =>
      rw [hcancelled] at htold
      cases htold

/-- A future that reacts to its own events goes on showing the verdict. -/
theorem Shows.react {session : Session} {s s' : OrderWaits} {l : WaitLabel} {f : Nat}
    {w : OrderWait} {event : Option (Except OrderError OrderHandle)}
    (h : Shows session s f w) (hreacts : Reacts s s' f w event)
    (hverdict : (s'.record l).verdictOn session w = (s.verdictOn session w).or event) :
    Shows session (s'.record l) f w := by
  cases h with
  | waiting hnone hpending hregistered hheld =>
      rw [hnone, Option.none_or] at hverdict
      cases event with
      | none =>
          obtain ⟨hpending', hregistered'⟩ := hreacts.waits hpending hregistered rfl
          exact .waiting hverdict hpending' hregistered' hheld
      | some result =>
          exact .decided result hverdict (hreacts.decides hpending hregistered result rfl)
  | decided result hsome htold =>
      have hdone : s.futures f ≠ .pending := by
        intro hpending
        rw [hpending, told_pending] at htold
        cases htold
      obtain ⟨hfuture, hanswer⟩ := hreacts.done hdone
      rw [hsome, Option.some_or] at hverdict
      refine .decided result hverdict ?_
      change told (s'.futures f) (s'.answers f) = some result
      rw [hfuture, hanswer, htold]
  | cancelled why hinterrupted hcancelled =>
      have hdone : s.futures f ≠ .pending := by simp [hcancelled]
      exact .cancelled why hinterrupted ((hreacts.done hdone).1.trans hcancelled)

/-- A label from outside: no wait begins or ends, and each reacts to its own events. -/
structure Outside (session : Session) (s s' : OrderWaits) (l : WaitLabel) : Prop where
  waits : s'.waits = s.waits
  nextFuture : s'.nextFuture = s.nextFuture
  history : s'.history = s.history
  ended : s'.ended = s.ended
  requests : s'.router.waiters.requests = ∅
  orders : ∀ orderId f, s'.router.waiters.orders.get? orderId = some f →
    s.router.waiters.orders.get? orderId = some f
  idle : ∀ f, s.waits f = none → s'.futures f = s.futures f ∧ s'.answers f = s.answers f
  reacts : ∀ f w, s.waits f = some w →
    Reacts s s' f w ((ownEvent? w.orderId w.trade l).bind (Ib.decides session w.trade))

theorem WaitsInv.outside {session : Session} {s s' : OrderWaits} {l : WaitLabel}
    (h : WaitsInv session s) (ho : Outside session s s' l) :
    WaitsInv session (s'.record l) where
  fresh f hf := by
    obtain ⟨hwaits, hfuture, hanswer⟩ := h.fresh f (ho.nextFuture ▸ hf)
    obtain ⟨hfuture', hanswer'⟩ := ho.idle f hwaits
    exact ⟨(congrFun ho.waits f).trans hwaits, hfuture'.trans hfuture, hanswer'.trans hanswer⟩
  requests := ho.requests
  since f w hw := since_record ho.history (h.since f w (ho.waits ▸ hw))
  distinct f w g v hw hv := h.distinct f w g v (ho.waits ▸ hw) (ho.waits ▸ hv)
  left orderId f hf := by
    obtain ⟨w, hw, hid⟩ := h.left orderId f (ho.orders orderId f hf)
    exact ⟨w, (congrFun ho.waits f).trans hw, hid⟩
  shown f w hw := by
    have hw : s.waits f = some w := ho.waits ▸ hw
    exact (h.shown f w hw).react (ho.reacts f w hw)
      (verdictOn_record session ho.history (h.since f w hw))
  ended x hx := h.ended x (ho.ended ▸ hx)

/-! ## Status events -/

/-- What a status event decides for the wait of an order. -/
theorem ownEvent?_status (session : Session) (w : OrderWait) (trade : Nat) (t : Trade) :
    (ownEvent? w.orderId w.trade (.status trade t)).bind (decides session w.trade) =
      if w.trade = trade then (decidedBy session trade t).map .ok else none := by
  by_cases h : w.trade = trade
  · subst h
    simp [ownEvent?, decides]
  · simp [ownEvent?, h, Ne.symm h]

theorem outside_onStatus (session : Session) {s : OrderWaits} (trade : Nat) (t : Trade)
    (hrequests : s.router.waiters.requests = ∅) :
    Outside session s (s.onStatus session trade t) (.status trade t) where
  waits := rfl
  nextFuture := rfl
  history := rfl
  ended := rfl
  requests := hrequests
  orders _ _ hf := hf
  idle f hf := by
    have hnone : s.settledBy session trade t f = none := by simp [OrderWaits.settledBy, hf]
    simp [OrderWaits.onStatus, OrderWaits.futures, hnone]
  reacts f w hw := by
    have hsettled : s.settledBy session trade t f =
        if w.trade = trade ∧ s.futures f = .pending then decidedBy session trade t else none := by
      simp [OrderWaits.settledBy, hw]
    rw [ownEvent?_status]
    refine ⟨fun hdone => ?_, fun hpending hregistered hevent => ?_,
      fun hpending hregistered result hevent => ?_⟩
    · rw [if_neg fun h => hdone h.2] at hsettled
      simp [OrderWaits.onStatus, OrderWaits.futures, hsettled]
    · have hnone : s.settledBy session trade t f = none := by
        rw [hsettled]
        by_cases htrade : w.trade = trade
        · rw [if_pos ⟨htrade, hpending⟩]
          simpa [htrade] using hevent
        · rw [if_neg fun h => htrade h.1]
      refine ⟨?_, hregistered⟩
      simpa [OrderWaits.onStatus, OrderWaits.futures, hnone] using hpending
    · split_ifs at hevent with htrade
      obtain ⟨handle, hhandle, rfl⟩ := Option.map_eq_some_iff.1 hevent
      rw [if_pos ⟨htrade, hpending⟩, hhandle] at hsettled
      simp [OrderWaits.onStatus, OrderWaits.futures, hsettled, told]

/-! ## Faults -/

section Suffer

variable {w : Waiters} (reqId : Int) (fault : Option OrderFault)

theorem failOrder_of_none {key : Int} (h : w.orders.get? key = none) (e : IbError) :
    w.failOrder key e = w := by
  simp [Waiters.failOrder, Waiters.failWaiter, h]

theorem failOrder_of_some {key : Int} {f : Nat} (h : w.orders.get? key = some f) (e : IbError) :
    w.failOrder key e = { w with
      orders := w.orders.pop key
      futures := Function.update w.futures f ((w.futures f).fail e) } := by
  simp [Waiters.failOrder, Waiters.failWaiter, h]

theorem suffer_requests (h : w.requests = ∅) : (w.suffer reqId fault).requests = ∅ := by
  rcases fault with - | ⟨e⟩ | ⟨e⟩
  · exact h
  · rfl
  · exact h

/-- A fault registers nobody. -/
theorem suffer_orders {orderId : Int} {f : Nat}
    (h : (w.suffer reqId fault).orders.get? orderId = some f) :
    w.orders.get? orderId = some f := by
  rcases fault with - | ⟨e⟩ | ⟨e⟩
  · exact h
  · cases h
  · change (w.failOrder reqId e).orders.get? orderId = some f at h
    cases hwaiting : w.orders.get? reqId with
    | none => rwa [failOrder_of_none hwaiting] at h
    | some g =>
        rw [failOrder_of_some hwaiting] at h
        exact Dict.get?_of_pop h

/-- A fault leaves alone what is done and what is not registered. -/
theorem suffer_idle {f : Nat} (hrequests : w.requests = ∅)
    (h : w.futures f ≠ .pending ∨ ∀ orderId, w.orders.get? orderId ≠ some f) :
    (w.suffer reqId fault).futures f = w.futures f := by
  rcases fault with - | ⟨e⟩ | ⟨e⟩
  · rfl
  · change (w.failAll e).futures f = w.futures f
    rw [Waiters.failAll_futures]
    split_ifs with hmem
    · rw [hrequests] at hmem
      obtain ⟨orderId, hwaiting⟩ := (w.orders.mem_values_iff).1 hmem
      rcases h with hdone | hnobody
      · exact Waiters.fail_of_done hdone e
      · exact absurd hwaiting (hnobody orderId)
    · rfl
  · change (w.failOrder reqId e).futures f = w.futures f
    cases hwaiting : w.orders.get? reqId with
    | none => rw [failOrder_of_none hwaiting]
    | some g =>
        rw [failOrder_of_some hwaiting]
        by_cases hg : f = g
        · subst hg
          rcases h with hdone | hnobody
          · simp [Waiters.fail_of_done hdone]
          · exact absurd hwaiting (hnobody reqId)
        · simp [hg]

/-- A fault fails the future of an order it concerns and no other. -/
theorem suffer_registered {orderId : Int} {f : Nat} (hpending : w.futures f = .pending)
    (hregistered : w.orders.get? orderId = some f)
    (honly : ∀ key, w.orders.get? key = some f → key = orderId) :
    match fault.bind (·.concerns reqId orderId) with
    | none => (w.suffer reqId fault).futures f = .pending ∧
        (w.suffer reqId fault).orders.get? orderId = some f
    | some e => (w.suffer reqId fault).futures f = .exception e := by
  rcases fault with - | ⟨e⟩ | ⟨e⟩
  · exact ⟨hpending, hregistered⟩
  · change (w.failAll e).futures f = .exception e
    rw [Waiters.failAll_futures, if_pos, hpending, Waiters.fail_pending]
    exact List.mem_append_right _ ((w.orders.mem_values_iff).2 ⟨orderId, hregistered⟩)
  · simp only [Option.bind_some, OrderFault.concerns, Waiters.suffer]
    by_cases hid : reqId = orderId
    · subst hid
      simp [failOrder_of_some hregistered, hpending]
    · rw [if_neg hid]
      cases hwaiting : w.orders.get? reqId with
      | none =>
          rw [failOrder_of_none hwaiting]
          exact ⟨hpending, hregistered⟩
      | some g =>
          have hg : f ≠ g := by
            rintro rfl
            exact hid (honly reqId hwaiting)
          rw [failOrder_of_some hwaiting]
          refine ⟨?_, ?_⟩
          · simpa [hg] using hpending
          · rw [Dict.get?_pop_of_ne _ (Ne.symm hid)]
            exact hregistered

end Suffer

/-- A label that makes the router fail waiters. -/
theorem WaitsInv.suffer {session : Session} {s : OrderWaits} (h : WaitsInv session s)
    {router : ErrorRouter} {l : WaitLabel} (reqId : Int) (fault : Option OrderFault)
    (hwaiters : router.waiters = s.router.waiters.suffer reqId fault)
    (hown : ∀ w : OrderWait, ownEvent? w.orderId w.trade l =
      (fault.bind (·.concerns reqId w.orderId)).map fun e => .fails e.raised "") :
    Outside session s { s with router := router } l where
  waits := rfl
  nextFuture := rfl
  history := rfl
  ended := rfl
  requests := by
    rw [hwaiters]
    exact suffer_requests reqId fault h.requests
  orders orderId f hf := by
    rw [hwaiters] at hf
    exact suffer_orders reqId fault hf
  idle f hf := by
    have hnobody : ∀ orderId, s.router.waiters.orders.get? orderId ≠ some f := by
      intro orderId hwaiting
      obtain ⟨w, hw, -⟩ := h.left orderId f hwaiting
      rw [hf] at hw
      cases hw
    refine ⟨?_, rfl⟩
    unfold OrderWaits.futures
    rw [hwaiters]
    exact suffer_idle reqId fault h.requests (.inr hnobody)
  reacts f w hw := by
    have honly : ∀ key, s.router.waiters.orders.get? key = some f → key = w.orderId := by
      intro key hwaiting
      obtain ⟨v, hv, hid⟩ := h.left key f hwaiting
      rw [hw] at hv
      cases hv
      exact hid.symm
    rw [hown]
    refine ⟨fun hdone => ⟨?_, rfl⟩, fun hpending hregistered hevent => ?_,
      fun hpending hregistered result hevent => ?_⟩
    · unfold OrderWaits.futures
      rw [hwaiters]
      exact suffer_idle reqId fault h.requests (.inl hdone)
    · have hreg := suffer_registered reqId fault hpending hregistered honly
      unfold OrderWaits.futures
      rw [hwaiters]
      cases hfault : fault.bind (·.concerns reqId w.orderId) with
      | none => simpa [hfault] using hreg
      | some e => simp [hfault, decides] at hevent
    · have hreg := suffer_registered reqId fault hpending hregistered honly
      unfold OrderWaits.futures
      rw [hwaiters]
      cases hfault : fault.bind (·.concerns reqId w.orderId) with
      | none => simp [hfault] at hevent
      | some e =>
          rw [hfault] at hreg hevent
          cases hevent
          simp only at hreg
          rw [hreg]
          rfl

/-! ## Waits that begin and end -/

/-- A label that is no event of an order keeps the verdicts. -/
theorem verdictOn_record_quiet (session : Session) {s s' : OrderWaits} {l : WaitLabel}
    {w : OrderWait} (hhistory : s'.history = s.history) (hsince : w.since ≤ s.history.length)
    (hquiet : ownEvent? w.orderId w.trade l = none) :
    (s'.record l).verdictOn session w = s.verdictOn session w := by
  rw [verdictOn_record session hhistory hsince, hquiet, Option.bind_none, Option.or_none]

/-- What a future shows, when neither it nor its order is touched. -/
theorem Shows.keep {session : Session} {s s' : OrderWaits} {l : WaitLabel} {f : Nat}
    {w : OrderWait} (h : Shows session s f w)
    (hfuture : s'.futures f = s.futures f) (hanswer : s'.answers f = s.answers f)
    (horder : s.router.waiters.orders.get? w.orderId = some f →
      s'.router.waiters.orders.get? w.orderId = some f)
    (hverdict : (s'.record l).verdictOn session w = s.verdictOn session w) :
    Shows session (s'.record l) f w := by
  cases h with
  | waiting hnone hpending hregistered hheld =>
      exact .waiting (hverdict.trans hnone) (hfuture.trans hpending) (horder hregistered) hheld
  | decided result hsome htold =>
      refine .decided result (hverdict.trans hsome) ?_
      change told (s'.futures f) (s'.answers f) = some result
      rw [hfuture, hanswer, htold]
  | cancelled why hinterrupted hcancelled =>
      exact .cancelled why hinterrupted (hfuture.trans hcancelled)

section Steps

variable {session : Session} {s : OrderWaits} (lower : String → String)

theorem isFree_iff {orderId : Int} (h : WaitsInv session s) :
    s.isFree orderId = true ↔ ∀ f w, s.waits f = some w → w.orderId ≠ orderId := by
  simp only [OrderWaits.isFree, List.all_eq_true, List.mem_range, Option.all_eq_true,
    decide_eq_true_eq]
  constructor
  · intro hall f w hw
    refine hall f ?_ w hw
    by_contra hf
    rw [(h.fresh f (by omega)).1] at hw
    cases hw
  · intro hall f _ w hw
    exact hall f w hw

theorem WaitsInv.await (h : WaitsInv session s) {orderId : Int} (trade : Nat)
    (hfree : s.isFree orderId = true) :
    WaitsInv session ((s.start lower orderId trade).record (.await orderId trade)) := by
  have hother := (isFree_iff h).1 hfree
  have hwaits : ∀ f w, (s.start lower orderId trade).waits f = some w →
      (f = s.nextFuture ∧ w = s.newWait orderId trade) ∨ s.waits f = some w := by
    intro f w hw
    by_cases hf : f = s.nextFuture
    · subst hf
      exact .inl ⟨rfl, Option.some.inj (hw.symm.trans (Function.update_self ..))⟩
    · exact .inr ((Function.update_of_ne hf ..).symm.trans hw)
  constructor
  case fresh =>
    intro f hf
    have hf' : s.nextFuture + 1 ≤ f := hf
    have hne : f ≠ s.nextFuture := by omega
    obtain ⟨hnone, hpending, hanswer⟩ := h.fresh f (by omega)
    exact ⟨(Function.update_of_ne hne ..).trans hnone, hpending, hanswer⟩
  case requests => exact h.requests
  case since =>
    intro f w hw
    rcases hwaits f w hw with ⟨-, rfl⟩ | hw
    · exact since_record (s := s) rfl le_rfl
    · exact since_record rfl (h.since f w hw)
  case distinct =>
    intro f w g v hw hv hid
    rcases hwaits f w hw with ⟨rfl, rfl⟩ | hw <;> rcases hwaits g v hv with ⟨rfl, rfl⟩ | hv
    · rfl
    · exact absurd hid.symm (hother g v hv)
    · exact absurd hid (hother f w hw)
    · exact h.distinct f w g v hw hv hid
  case left =>
    intro key f hf
    change (s.router.waiters.orders.set orderId s.nextFuture).get? key = some f at hf
    rw [Dict.get?_set] at hf
    split_ifs at hf with hkey
    · cases hf
      exact ⟨_, Function.update_self .., hkey.symm⟩
    · obtain ⟨w, hw, hid⟩ := h.left key f hf
      have hne : f ≠ s.nextFuture := by
        rintro rfl
        rw [(h.fresh _ le_rfl).1] at hw
        cases hw
      exact ⟨w, (Function.update_of_ne hne ..).trans hw, hid⟩
  case shown =>
    intro f w hw
    rcases hwaits f w hw with ⟨rfl, rfl⟩ | hw
    · have hverdict : s.verdictOn session (s.newWait orderId trade) = none := by
        simp [OrderWaits.verdictOn, OrderWait.ownEvents, orderVerdict, OrderWaits.newWait]
      refine .waiting ?_ (h.fresh _ le_rfl).2.1 (Dict.get?_set_self ..) rfl
      exact (verdictOn_record_quiet session rfl le_rfl rfl).trans hverdict
    · refine (h.shown f w hw).keep rfl rfl (fun hregistered => ?_)
        (verdictOn_record_quiet session rfl (h.since f w hw) rfl)
      exact (Dict.get?_set_of_ne _ (hother f w hw) _).trans hregistered
  case ended => exact h.ended

theorem WaitsInv.interrupt (h : WaitsInv session s) {f : Nat} {w : OrderWait}
    (hw : s.waits f = some w) (why : Interruption) :
    WaitsInv session ((s.interrupt f w why).record (.interrupt f why)) := by
  have hwaits : ∀ g v, (s.interrupt f w why).waits g = some v →
      (g = f ∧ v = w.giveUp why) ∨ (g ≠ f ∧ s.waits g = some v) := by
    intro g v hv
    change Function.update s.waits f (some (w.giveUp why)) g = some v at hv
    by_cases hg : g = f
    · subst hg
      rw [Function.update_self, Option.some.injEq] at hv
      exact .inl ⟨rfl, hv.symm⟩
    · rw [Function.update_of_ne hg] at hv
      exact .inr ⟨hg, hv⟩
  have hother : ∀ g, g ≠ f → (s.interrupt f w why).futures g = s.futures g := by
    intro g hg
    exact Function.update_of_ne hg ..
  constructor
  case fresh =>
    intro g hg
    obtain ⟨hnone, hpending, hanswer⟩ := h.fresh g hg
    have hne : g ≠ f := by
      rintro rfl
      rw [hnone] at hw
      cases hw
    exact ⟨(Function.update_of_ne hne ..).trans hnone, (hother g hne).trans hpending, hanswer⟩
  case requests => exact h.requests
  case since =>
    intro g v hv
    rcases hwaits g v hv with ⟨rfl, rfl⟩ | ⟨-, hv⟩
    · exact since_record rfl (h.since g w hw)
    · exact since_record rfl (h.since g v hv)
  case distinct =>
    intro g v k u hv hu hid
    rcases hwaits g v hv with ⟨rfl, rfl⟩ | ⟨-, hg⟩ <;>
      rcases hwaits k u hu with ⟨rfl, rfl⟩ | ⟨-, hk⟩
    · rfl
    · exact h.distinct g w k u hw hk hid
    · exact h.distinct g v k w hg hw hid
    · exact h.distinct g v k u hg hk hid
  case left =>
    intro key g hg
    obtain ⟨v, hv, hid⟩ := h.left key g hg
    by_cases hgf : g = f
    · subst hgf
      rw [hw] at hv
      cases hv
      exact ⟨w.giveUp why, Function.update_self .., hid⟩
    · exact ⟨v, (Function.update_of_ne hgf ..).trans hv, hid⟩
  case shown =>
    intro g v hv
    rcases hwaits g v hv with ⟨rfl, rfl⟩ | ⟨hg, hv⟩
    · have hfuture : (s.interrupt g w why).futures g =
          if s.futures g = .pending then .cancelled else s.futures g := Function.update_self ..
      cases h.shown g w hw with
      | waiting _ hpending =>
          refine .cancelled _ rfl (hfuture.trans ?_)
          rw [if_pos hpending]
      | decided result hsome htold =>
          have hdone : s.futures g ≠ .pending := by
            intro hpending
            rw [hpending, told_pending] at htold
            cases htold
          rw [if_neg hdone] at hfuture
          refine .decided result ?_ ?_
          · exact (verdictOn_record_quiet (w := w) session rfl (h.since g w hw) rfl).trans hsome
          · change told ((s.interrupt g w why).futures g) (s.answers g) = some result
            rw [hfuture, htold]
      | cancelled _ _ hcancelled =>
          refine .cancelled _ rfl (hfuture.trans ?_)
          rw [hcancelled]
          rfl
    · exact (h.shown g v hv).keep (hother g hg) rfl id
        (verdictOn_record_quiet session rfl (h.since g v hv) rfl)
  case ended => exact h.ended

theorem WaitsInv.conclude (h : WaitsInv session s) {f : Nat} {w : OrderWait}
    (hw : s.waits f = some w) {result : Except OrderError OrderHandle}
    (hresult : EndedWait.Justified session ⟨w, s.history.drop w.since, result⟩) :
    WaitsInv session ((s.conclude lower f w result).record (.resume f)) := by
  have hwaits : ∀ g v, (s.conclude lower f w result).waits g = some v →
      s.waits g = some v ∧ g ≠ f ∧ v.orderId ≠ w.orderId := by
    intro g v hv
    have hg : g ≠ f := by
      rintro rfl
      have hnone : (s.conclude lower g w result).waits g = none := Function.update_self ..
      rw [hnone] at hv
      cases hv
    have hv : s.waits g = some v := (Function.update_of_ne hg ..).symm.trans hv
    exact ⟨hv, hg, fun hid => hg (h.distinct g v f w hv hw hid)⟩
  constructor
  case fresh =>
    intro g hg
    obtain ⟨hnone, hpending, hanswer⟩ := h.fresh g hg
    have hne : g ≠ f := by
      rintro rfl
      rw [hnone] at hw
      cases hw
    exact ⟨(Function.update_of_ne hne ..).trans hnone, hpending, hanswer⟩
  case requests => exact h.requests
  case since =>
    intro g v hv
    exact since_record rfl (h.since g v (hwaits g v hv).1)
  case distinct =>
    intro g v k u hv hu hid
    exact h.distinct g v k u (hwaits g v hv).1 (hwaits k u hu).1 hid
  case left =>
    intro key g hg
    change (s.router.waiters.orders.pop w.orderId).get? key = some g at hg
    obtain ⟨v, hv, hid⟩ := h.left key g (Dict.get?_of_pop hg)
    have hne : g ≠ f := by
      rintro rfl
      rw [hw] at hv
      cases hv
      rw [← hid, Dict.get?_pop_self] at hg
      cases hg
    exact ⟨v, (Function.update_of_ne hne ..).trans hv, hid⟩
  case shown =>
    intro g v hv
    obtain ⟨hv, -, hid⟩ := hwaits g v hv
    refine (h.shown g v hv).keep rfl rfl (fun hregistered => ?_)
      (verdictOn_record_quiet session rfl (h.since g v hv) rfl)
    exact (Dict.get?_pop_of_ne _ hid).trans hregistered
  case ended =>
    intro x hx
    rcases List.mem_append.1 hx with hx | hx
    · exact h.ended x hx
    · rw [List.mem_singleton] at hx
      subst hx
      exact hresult

end Steps

theorem WaitsInv.step {session : Session} {lower : String → String} {marketDataType : Option Int}
    {s s' : OrderWaits} {l : WaitLabel} (h : WaitsInv session s)
    (hstep : (waitMachine session lower marketDataType).step s l = some s') :
    WaitsInv session s' := by
  obtain ⟨t, hmove, rfl⟩ := Option.map_eq_some_iff.1 hstep
  cases l with
  | await orderId trade =>
      simp only [OrderWaits.move] at hmove
      split_ifs at hmove with hfree
      cases hmove
      exact h.await lower trade hfree
  | status trade t =>
      cases hmove
      exact h.outside (outside_onStatus session trade t h.requests)
  | error reqId code message =>
      cases hmove
      exact h.outside (h.suffer reqId (orderFault? code message)
        (ErrorRouter.onError_waiters lower reqId code message h.requests) fun _ => rfl)
  | setConnected isUp =>
      cases hmove
      exact h.outside (h.suffer 0 none rfl fun _ => rfl)
  | failAllPending e =>
      cases hmove
      exact h.outside (h.suffer 0 (some (.all e)) rfl fun _ => rfl)
  | interrupt f why =>
      obtain ⟨w, hw, rfl⟩ := Option.map_eq_some_iff.1 hmove
      exact h.interrupt hw why
  | resume f =>
      obtain ⟨w, hw, hresume⟩ := Option.bind_eq_some_iff.1 hmove
      cases hinterrupted : w.interrupted with
      | some why =>
          rw [hinterrupted] at hresume
          cases hresume
          refine h.conclude lower hw ?_
          simp [EndedWait.Justified, hinterrupted]
      | none =>
          rw [hinterrupted] at hresume
          obtain ⟨result, htold, rfl⟩ := Option.map_eq_some_iff.1 hresume
          refine h.conclude lower hw ?_
          simpa [EndedWait.Justified, OrderWaits.verdictOn, hinterrupted] using
            (h.shown f w hw).verdict_of_told htold

/-! ## All waits -/

/-- Waits end as if each were alone with its own events.  One that is under way is told exactly
what its own events so far decide, its order is registered as long as that is nothing, and the
router holds no other orders. -/
structure WaitsSettled (session : Session) (s : OrderWaits) : Prop where
  alone : ∀ x ∈ s.ended, x.wait.interrupted = none → ∀ interrupted,
    (waitFirstStatusUpdate session x.wait.trade interrupted (x.wait.ownEvents x.span)).mapError
      Prod.fst = x.result
  decided : ∀ x ∈ s.ended, x.wait.interrupted = none →
    ∃ event ∈ x.wait.ownEvents x.span, decides session x.wait.trade event = some x.result
  gaveUp : ∀ x ∈ s.ended, ∀ why, x.wait.interrupted = some why → x.result = .error why.raised
  underWay : ∀ f w, s.waits f = some w → w.interrupted = none →
    told (s.futures f) (s.answers f) = s.verdictOn session w
  heard : ∀ f w, s.waits f = some w → s.futures f = .pending →
    s.router.waiters.orders.get? w.orderId = some f
  forgotten : ∀ orderId f, s.router.waiters.orders.get? orderId = some f →
    ∃ w, s.waits f = some w ∧ w.orderId = orderId

theorem waitsInv_reachable {session : Session} {lower : String → String}
    {marketDataType : Option Int} {s : OrderWaits}
    (h : (waitMachine session lower marketDataType).Reachable s) : WaitsInv session s := by
  refine Machine.invariant_reachable _ ?_ (fun _ _ _ hs hstep => hs.step hstep) h
  exact ⟨fun _ _ => ⟨rfl, rfl, rfl⟩, rfl, by rintro _ _ ⟨⟩, by rintro _ _ _ _ ⟨⟩,
    by rintro _ _ ⟨⟩, by rintro _ _ ⟨⟩, by rintro _ ⟨⟩⟩

/-- Orders that wait at the same time do not disturb each other. -/
theorem waits_settled (session : Session) (lower : String → String) (marketDataType : Option Int)
    {s : OrderWaits} (h : (waitMachine session lower marketDataType).Reachable s) :
    WaitsSettled session s := by
  have hinv := waitsInv_reachable h
  have hverdict : ∀ x ∈ s.ended, x.wait.interrupted = none →
      orderVerdict session x.wait.trade (x.wait.ownEvents x.span) = some x.result := by
    intro x hx hheld
    simpa [EndedWait.Justified, hheld] using hinv.ended x hx
  refine ⟨fun x hx hheld interrupted => ?_, fun x hx hheld => ?_, fun x hx why hwhy => ?_,
    fun f w hw hheld => ?_, fun f w hw hpending => ?_, hinv.left⟩
  · rw [waitFirstStatusUpdate_eq, hverdict x hx hheld, Option.getD_some]
  · exact List.exists_of_findSome?_eq_some (hverdict x hx hheld)
  · simpa [EndedWait.Justified, hwhy] using hinv.ended x hx
  · cases hinv.shown f w hw with
    | waiting hnone hpending => rw [hnone, hpending, told_pending]
    | decided result hsome htold => rw [hsome, htold]
    | cancelled why hinterrupted =>
        rw [hheld] at hinterrupted
        cases hinterrupted
  · cases hinv.shown f w hw with
    | waiting _ _ hregistered => exact hregistered
    | decided result _ htold =>
        rw [hpending, told_pending] at htold
        cases htold
    | cancelled _ _ hcancelled =>
        rw [hpending] at hcancelled
        cases hcancelled

/-- Two orders wait; the second is rejected, the first is then submitted, and both waits end. -/
theorem waits_settled_two :
    ∃ s, (waitMachine sampleSession String.toLower none).Reachable s ∧
      s.ended.map (fun x => x.result.toOption.map OrderHandle.status) =
        [none, some .submitted] ∧ WaitsSettled sampleSession s := by
  have hrun : ∃ s, (waitMachine sampleSession String.toLower none).run
      (waitMachine sampleSession String.toLower none).init
      [.await 7 0, .await 8 1, .error 8 201 "Order rejected",
        .status 0 { pendingTrade 7 with status := .submitted, permId := 70 },
        .resume 1, .resume 0] = some s ∧
      s.ended.map (fun x => x.result.toOption.map OrderHandle.status) =
        [none, some .submitted] := ⟨_, rfl, rfl⟩
  obtain ⟨s, hrun, hended⟩ := hrun
  exact ⟨s, ⟨_, hrun⟩, hended, waits_settled _ _ _ ⟨_, hrun⟩⟩

end Ib
end MarketConnector
