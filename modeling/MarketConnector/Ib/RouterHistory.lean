import MarketConnector.Ib.ErrorRouter

/-!
# Ib - What the error router remembers

The router keeps a connection flag, the farms that are reported broken and the reasons of
cancelled orders.  All three are read back from what happened to it, and the broken farms also
from the events that are published for the subscribers of the farm status.

Main results:

- Definition `RouterEvent`: what the transport and IB do with the router.
- Theorem `Remembers.apply`: one event.
- Theorem `router_remembers`: any sequence of events, on the router of a new transport.
-/

namespace MarketConnector
namespace Ib

open Foundations

/-! ## Events -/

/-- What happens to a router; an order is awaited, and forgotten, by `_wait_first_status`. -/
inductive RouterEvent where
  | error (reqId code : Int) (message : String)
  | setConnected (isUp : Bool)
  | failAllPending (e : IbError)
  | awaitOrder (orderId : Int) (future : Nat)
  | forgetOrder (orderId : Int)

namespace ErrorRouter

/-- The router of a new transport, with its five listeners. -/
def ofTransport (marketDataType : Option Int) : ErrorRouter where
  marketDataType := marketDataType
  reportsPacing := true
  waiters := ⟨∅, ∅, fun _ => .pending⟩
  isConnected := false
  staleFarms := ∅
  cancelReasons := ∅
  connectionListeners := [0]
  dataLostListeners := [1]
  farmListeners := [2]
  depthResetListeners := [3]
  streamErrorListeners := [4]
  calls := []

def apply (lower : String → String) (r : ErrorRouter) : RouterEvent → ErrorRouter
  | .error reqId code message => r.onError lower reqId code message
  | .setConnected isUp => { r with isConnected := isUp }
  | .failAllPending e => { r with waiters := r.waiters.failAll e }
  | .awaitOrder orderId future =>
      { r with waiters.orders := r.waiters.orders.set orderId future }
  | .forgetOrder orderId => { r with waiters.orders := r.waiters.orders.pop orderId }

end ErrorRouter

namespace RouterEvent

/-- What an event says about the connection. -/
def flag? : RouterEvent → Option Bool
  | .error _ code _ => connectivity code
  | .setConnected isUp => some isUp
  | _ => none

/-- The farm an event is about, and whether it works. -/
def farm? : RouterEvent → Option (String × Bool)
  | .error _ code _ => farmCodes code
  | _ => none

/-- The order an event cancels, and why. -/
def reason? : RouterEvent → Option (Int × String)
  | .error reqId code message => if code = 202 then some (reqId, message) else none
  | _ => none

end RouterEvent

/-- The farm status events a listener publishes for its calls. -/
def farmEvent? : RouterCall → Option (String × Bool)
  | .farm _ farm ok _ _ => some (farm, ok)
  | _ => none

/-- The last word on a key. -/
def lastWord {κ β : Type*} [DecidableEq κ] (words : List (κ × β)) (key : κ) : Option β :=
  ((words.filter fun word => word.1 = key).getLast?).map Prod.snd

theorem lastWord_concat {κ β : Type*} [DecidableEq κ] (words : List (κ × β)) (word : κ × β)
    (key : κ) : lastWord (words ++ [word]) key =
      if word.1 = key then some word.2 else lastWord words key := by
  unfold lastWord
  by_cases h : word.1 = key <;> simp [h]

/-! ## One error -/

namespace ErrorRouter

section OnError

variable (lower : String → String) (r : ErrorRouter) (reqId : Int) (message : String)

theorem farmCodes_eq_some {code : Int} {farm : String} {ok : Bool}
    (h : farmCodes code = some (farm, ok)) : code = 2103 ∨ code = 2104 ∨ code = 2105 ∨
      code = 2106 ∨ code = 2157 ∨ code = 2158 := by
  unfold farmCodes at h
  split_ifs at h <;> simp_all

/-- A farm code tells the listeners of streams and of farms, and changes the broken farms. -/
theorem onError_farm {code : Int} {farm : String} {ok : Bool}
    (h : farmCodes code = some (farm, ok)) :
    r.onError lower reqId code message =
      (r.emit (r.streamErrorListeners.map fun cb =>
        .streamError cb reqId code message)).onFarmStatus farm ok code message := by
  have hcode := farmCodes_eq_some h
  unfold onError onOtherError reportPacing
  rw [h]
  rcases hcode with rfl | rfl | rfl | rfl | rfl | rfl <;>
    simp [informationalOrderCodes, connectionLostCodes]

/-- Farm events among the calls of a router. -/
def farmEvents (r : ErrorRouter) : List (String × Bool) :=
  r.calls.filterMap farmEvent?

@[simp]
theorem farmEvents_emit (calls : List RouterCall) :
    (r.emit calls).farmEvents = r.farmEvents ++ calls.filterMap farmEvent? := by
  simp [farmEvents, emit]

theorem farmEvents_onCallError (code : Int) :
    (r.onCallError lower reqId code message).farmEvents = r.farmEvents := by
  unfold onCallError onRequestError
  split_ifs
  · rfl
  · rfl
  · cases r.requestException lower code message (errorTable code) with
    | none => simp [farmEvent?]
    | some e =>
        dsimp only
        split_ifs
        · simp [farmEvents, emit, farmEvent?]
        · rfl

/-- Other codes tell the listeners of the farm status nothing. -/
theorem farmEvents_onOtherError {code : Int} (h : farmCodes code = none) :
    (r.onOtherError lower reqId code message).farmEvents = r.farmEvents := by
  unfold onOtherError
  rw [h]
  split_ifs
  · simp [farmEvent?]
  · simp [farmEvent?]
  · simp [farmEvent?]
  · simp [farmEvents, notifyConnection, emit, farmEvent?, List.filterMap_map, Function.comp_def]
  · rfl
  · exact farmEvents_onCallError lower r reqId message code

theorem farmEvents_reportPacing (code : Int) :
    (r.reportPacing lower code message).farmEvents = r.farmEvents := by
  unfold reportPacing
  split_ifs <;> simp [farmEvent?]

theorem farmEvents_onError {code : Int} (h : farmCodes code = none) :
    (r.onError lower reqId code message).farmEvents = r.farmEvents := by
  unfold onError
  split_ifs
  · simp [farmEvents, notifyConnection, emit, farmEvent?, List.filterMap_map, Function.comp_def]
  · simp [farmEvents, notifyConnection, emit, farmEvent?, List.filterMap_map, Function.comp_def]
  · rw [farmEvents_onOtherError lower _ reqId message h, farmEvents_reportPacing]
    simp [farmEvent?, List.filterMap_map, Function.comp_def]

/-- A cancellation records its text under the id of the order. -/
theorem onError_reason (code : Int) (key : Int) :
    (r.onError lower reqId code message).cancelReasons.get? key =
      if code = 202 ∧ reqId = key then some message else r.cancelReasons.get? key := by
  split_ifs with h
  · obtain ⟨rfl, rfl⟩ := h
    obtain ⟨calls, hpacing⟩ := reportPacing_eq lower
      (r.emit (r.streamErrorListeners.map fun cb => .streamError cb reqId 202 message)) 202 message
    simp [onError, hpacing, onOtherError, onCallError, informationalOrderCodes,
      connectionLostCodes, farmCodes]
  · refine (onError_frame lower r reqId code message).reasons key ?_
    tauto

theorem RouterMove.farmListeners {code : Int} {r' : ErrorRouter} {calls : List RouterCall}
    (h : RouterMove reqId code r calls r') : r'.farmListeners = r.farmListeners := by
  cases h <;> rfl

end OnError

end ErrorRouter

/-! ## All that happened -/

/-- The router as its history has it. -/
structure Remembers (events : List RouterEvent) (r : ErrorRouter) : Prop where
  listener : r.farmListeners = [2]
  flag : r.isConnected = ((events.filterMap RouterEvent.flag?).getLast?).getD false
  farms : ∀ farm, farm ∈ r.staleFarms ↔
    lastWord (events.filterMap RouterEvent.farm?) farm = some false
  published : r.farmEvents = events.filterMap RouterEvent.farm?
  reasons : ∀ orderId, r.cancelReasons.get? orderId =
    lastWord (events.filterMap RouterEvent.reason?) orderId

theorem remembers_ofTransport (marketDataType : Option Int) :
    Remembers [] (ErrorRouter.ofTransport marketDataType) where
  listener := rfl
  flag := rfl
  farms farm := by simp [ErrorRouter.ofTransport, lastWord]
  published := rfl
  reasons orderId := rfl

/-- An event that is no error of IB changes the flag at most. -/
theorem Remembers.quiet {events : List RouterEvent} {r r' : ErrorRouter} {event : RouterEvent}
    (h : Remembers events r) (hfarm : event.farm? = none) (hreason : event.reason? = none)
    (hconnected : r'.isConnected = event.flag?.getD r.isConnected)
    (hlisteners : r'.farmListeners = r.farmListeners) (hstale : r'.staleFarms = r.staleFarms)
    (hcalls : r'.calls = r.calls) (hreasons : r'.cancelReasons = r.cancelReasons) :
    Remembers (events ++ [event]) r' where
  listener := hlisteners.trans h.listener
  flag := by
    rw [hconnected, h.flag]
    cases hflag : event.flag? <;> simp [hflag]
  farms farm := by simp [hstale, h.farms, hfarm]
  published := by simp [ErrorRouter.farmEvents, hcalls, ← h.published, hfarm]
  reasons orderId := by simp [hreasons, h.reasons, hreason]

/-- An error of IB. -/
theorem Remembers.error {events : List RouterEvent} {r : ErrorRouter} (h : Remembers events r)
    (lower : String → String) (reqId code : Int) (message : String) :
    Remembers (events ++ [.error reqId code message]) (r.onError lower reqId code message) where
  listener := by
    obtain ⟨calls, hmove⟩ := ErrorRouter.onError_move lower r reqId code message
    exact hmove.farmListeners.trans h.listener
  flag := by
    rw [ErrorRouter.onError_isConnected, h.flag]
    cases hflag : connectivity code <;> simp [RouterEvent.flag?, hflag]
  farms farm := by
    cases hfarm : farmCodes code with
    | none =>
        rw [(ErrorRouter.onError_frame lower r reqId code message).farms hfarm, h.farms]
        simp [RouterEvent.farm?, hfarm]
    | some status =>
        obtain ⟨name, ok⟩ := status
        rw [r.onError_farm lower reqId message hfarm]
        simp only [List.filterMap_append, List.filterMap_cons, RouterEvent.farm?, hfarm,
          List.filterMap_nil, lastWord_concat]
        have hfarms := h.farms farm
        by_cases hname : name = farm
        · cases ok <;> simp [ErrorRouter.onFarmStatus, ErrorRouter.emit, hname]
        · have hne : farm ≠ name := fun heq => hname heq.symm
          cases ok <;> simp [ErrorRouter.onFarmStatus, ErrorRouter.emit, hname, hne, hfarms]
  published := by
    cases hfarm : farmCodes code with
    | none =>
        rw [r.farmEvents_onError lower reqId message hfarm, h.published]
        simp [RouterEvent.farm?, hfarm]
    | some status =>
        rw [r.onError_farm lower reqId message hfarm]
        simp [ErrorRouter.onFarmStatus, ErrorRouter.farmEvents, ErrorRouter.emit, farmEvent?,
          RouterEvent.farm?, hfarm, h.listener, List.filterMap_map, Function.comp_def,
          ← h.published]
  reasons orderId := by
    rw [ErrorRouter.onError_reason, h.reasons]
    by_cases hcode : code = 202
    · simp [RouterEvent.reason?, hcode, lastWord_concat]
    · simp [RouterEvent.reason?, hcode]

theorem Remembers.apply {events : List RouterEvent} {r : ErrorRouter} (h : Remembers events r)
    (lower : String → String) (event : RouterEvent) :
    Remembers (events ++ [event]) (r.apply lower event) := by
  cases event with
  | error reqId code message => exact h.error lower reqId code message
  | setConnected isUp => exact h.quiet rfl rfl rfl rfl rfl rfl rfl
  | failAllPending e => exact h.quiet rfl rfl rfl rfl rfl rfl rfl
  | awaitOrder orderId future => exact h.quiet rfl rfl rfl rfl rfl rfl rfl
  | forgetOrder orderId => exact h.quiet rfl rfl rfl rfl rfl rfl rfl

/-- After any events, the flag is what the last connectivity code or the transport said, a farm is
stale when the last status that was published for it is broken, and the reason of an order is the
text of its last cancellation. -/
theorem router_remembers (lower : String → String) (marketDataType : Option Int)
    (events : List RouterEvent) :
    Remembers events
      (events.foldl (ErrorRouter.apply lower) (ErrorRouter.ofTransport marketDataType)) := by
  induction events using List.reverseRecOn with
  | nil => exact remembers_ofTransport marketDataType
  | append_singleton events event ih =>
      rw [List.foldl_append]
      exact ih.apply lower event

end Ib
end MarketConnector
