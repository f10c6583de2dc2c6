import Mathlib.Data.Finset.Erase
import Mathlib.Data.Finset.Insert
import MarketConnector.Ib.Connection
import MarketConnector.Ib.OrderHandle

/-!
# Ib - The error router

`_ErrorRouter.on_error` gets every error event of IB.  It keeps the connection flag, tells
the registered listeners, and fails the calls that wait for a reply: requests and orders wait
in two dictionaries of futures, both keyed by the id of the error.

Listeners are modelled by their calls; the bookkeeping below is the router's own.

Main results:

- Theorem `onError_isConnected`: the flag follows the connectivity codes alone.
- Theorem `onError_move`: all an error event can do.
- Theorem `onError_frame`: what it does to the waiters, and everything it leaves alone.
-/

namespace MarketConnector
namespace Ib

open Foundations

/-! ## Errors -/

/-- Classes of `IbError` in the error table. -/
inductive IbErrorClass where
  | historicalData | contractNotFound | orderRejected | subscriptionLimit | marketDataPermission
deriving DecidableEq

/-- Errors the router builds; `retryAfter` is in seconds. -/
inductive IbError where
  | ofClass (cls : IbErrorClass) (code : Int) (message : String)
  | orderCancelled (code : Int) (message reason : String)
  | rateLimit (code : Int) (message : String) (retryAfter : Nat)
  | connectionLost (code : Int) (message : String)
  | connectionTerminated (code : Int) (message : String)
deriving DecidableEq

/-- `FRACTIONAL_SIZE_REFUSED`. -/
def fractionalSizeRefused : Int := 10243

/-- `_ERROR_TABLE`. -/
def errorTable (code : Int) : Option IbErrorClass :=
  if code = 165 then some .historicalData
  else if code = 200 then some .contractNotFound
  else if code = 201 then some .orderRejected
  else if code = 309 then some .subscriptionLimit
  else if code = 321 then some .orderRejected
  else if code = 325 then some .orderRejected
  else if code = 354 then some .marketDataPermission
  else if code = 10089 then some .marketDataPermission
  else if code = fractionalSizeRefused then some .orderRejected
  else none

/-- `_CONNECTION_LOST_CODES`. -/
def connectionLostCodes : List Int :=
  [1100, 2110, 502, 504]

/-- `_FARM_CODES`. -/
def farmCodes (code : Int) : Option (String × Bool) :=
  if code = 2103 then some ("market", false)
  else if code = 2104 then some ("market", true)
  else if code = 2105 then some ("hmds", false)
  else if code = 2106 then some ("hmds", true)
  else if code = 2157 then some ("secdef", false)
  else if code = 2158 then some ("secdef", true)
  else none

/-- `HISTORICAL_PACING_RETRY_AFTER`. -/
def historicalPacingRetryAfter : Nat := 10

/-- `MESSAGE_RATE_RETRY_AFTER`. -/
def messageRateRetryAfter : Nat := 1

/-- `_DELAYED_DATA_HINT`. -/
def delayedDataHint : String :=
  "(delayed/frozen market data is configured; tick-by-tick and market-depth " ++
    "requests require live market data permissions)"

/-! ## Waiters -/

inductive FutureState where
  | pending
  | result
  | exception (e : IbError)
  | cancelled
deriving DecidableEq

/-- `if not fut.done(): fut.set_exception(exc)`. -/
def FutureState.fail (f : FutureState) (e : IbError) : FutureState :=
  if f = .pending then .exception e else f

/-- Who waits for a request and who for an order; `futures` holds the state of every future,
waiting or not. -/
structure Waiters where
  requests : Dict Int Nat
  orders : Dict Int Nat
  futures : Nat → FutureState

namespace Waiters

/-- `_fail_waiter`: the dictionary and the futures afterwards. -/
def failWaiter (waiters : Dict Int Nat) (futures : Nat → FutureState) (key : Int) (e : IbError) :
    Dict Int Nat × (Nat → FutureState) :=
  match waiters.get? key with
  | none => (waiters, futures)
  | some future =>
      (waiters.pop key, Function.update futures future ((futures future).fail e))

def failRequest (w : Waiters) (key : Int) (e : IbError) : Waiters :=
  let (requests, futures) := failWaiter w.requests w.futures key e
  { w with requests := requests, futures := futures }

def failOrder (w : Waiters) (key : Int) (e : IbError) : Waiters :=
  let (orders, futures) := failWaiter w.orders w.futures key e
  { w with orders := orders, futures := futures }

/-- `_fail_all_pending`. -/
def failAll (w : Waiters) (e : IbError) : Waiters where
  requests := ∅
  orders := ∅
  futures := (w.requests.values ++ w.orders.values).foldl
    (fun futures future => Function.update futures future ((futures future).fail e)) w.futures

@[simp]
theorem fail_pending (e : IbError) : FutureState.pending.fail e = .exception e :=
  rfl

theorem fail_of_done {f : FutureState} (h : f ≠ .pending) (e : IbError) : f.fail e = f := by
  simp [FutureState.fail, h]

/-- Failing a future twice is failing it once. -/
@[simp]
theorem fail_fail (f : FutureState) (e : IbError) : (f.fail e).fail e = f.fail e := by
  by_cases h : f = .pending
  · simp [h, fail_of_done]
  · simp [fail_of_done h]

theorem foldl_fail (fs : List Nat) (futures : Nat → FutureState) (e : IbError) (f : Nat) :
    fs.foldl (fun futures g => Function.update futures g ((futures g).fail e)) futures f =
      if f ∈ fs then (futures f).fail e else futures f := by
  induction fs generalizing futures with
  | nil => simp
  | cons g fs ih =>
      rw [List.foldl_cons, ih]
      by_cases hg : f = g <;> by_cases hfs : f ∈ fs <;> simp [hg, hfs]

@[simp]
theorem failAll_futures (w : Waiters) (e : IbError) (f : Nat) :
    (w.failAll e).futures f =
      if f ∈ w.requests.values ++ w.orders.values then (w.futures f).fail e else w.futures f :=
  foldl_fail _ w.futures e f

/-- A future that is done keeps its state. -/
theorem failWaiter_done (waiters : Dict Int Nat) {futures : Nat → FutureState} (key : Int)
    (e : IbError) {f : Nat} (hdone : futures f ≠ .pending) :
    (failWaiter waiters futures key e).2 f = futures f := by
  unfold failWaiter
  cases waiters.get? key with
  | none => rfl
  | some future =>
      by_cases hf : f = future
      · subst hf
        simp [fail_of_done hdone]
      · simp [hf]

end Waiters

/-! ## The router -/

inductive LogLevel where
  | debug | info | warning
deriving DecidableEq

/-- Calls the router makes: to a registered listener, to the pacer, to the logger. -/
inductive RouterCall where
  | connection (listener : Nat) (isUp : Bool)
  | dataLost (listener : Nat) (code : Int) (message : String)
  | streamError (listener : Nat) (reqId code : Int) (message : String)
  | depthReset (listener : Nat)
  | farm (listener : Nat) (farm : String) (ok : Bool) (code : Int) (message : String)
  | pacingViolation (retryAfter : Nat)
  | log (level : LogLevel) (text : String)
deriving DecidableEq

structure ErrorRouter where
  marketDataType : Option Int
  reportsPacing : Bool
  waiters : Waiters
  isConnected : Bool
  staleFarms : Finset String
  cancelReasons : Dict Int String
  connectionListeners : List Nat
  dataLostListeners : List Nat
  farmListeners : List Nat
  depthResetListeners : List Nat
  streamErrorListeners : List Nat
  calls : List RouterCall

namespace ErrorRouter

section OnError

variable (lower : String → String) (r : ErrorRouter)

def emit (calls : List RouterCall) : ErrorRouter :=
  { r with calls := r.calls ++ calls }

/-- `_notify_connection`, after the flag is set. -/
def notifyConnection (isUp : Bool) : ErrorRouter :=
  { r with isConnected := isUp }.emit (r.connectionListeners.map fun cb => .connection cb isUp)

/-- `_report_pacing`; `lower` is `str.lower`. -/
def reportPacing (code : Int) (message : String) : ErrorRouter :=
  if r.reportsPacing = false then r
  else if code = 162 ∧ occursIn "pacing violation" (lower message) = true then
    r.emit [.pacingViolation historicalPacingRetryAfter]
  else if code = 420 then r.emit [.pacingViolation messageRateRetryAfter]
  else r

/-- Permission errors of a session without live data come with a hint. -/
def buildError (cls : IbErrorClass) (code : Int) (message : String) : IbError :=
  if cls = .marketDataPermission ∧ r.marketDataType ≠ none ∧ r.marketDataType ≠ some 1 then
    .ofClass cls code (message ++ " " ++ delayedDataHint)
  else .ofClass cls code message

/-- `_request_exception`. -/
def requestException (code : Int) (message : String) (cls : Option IbErrorClass) :
    Option IbError :=
  if code = 162 then
    if occursIn "pacing violation" (lower message) then
      some (.rateLimit code message historicalPacingRetryAfter)
    else if occursIn "no market data permissions" (lower message) then
      some (r.buildError .marketDataPermission code message)
    else some (r.buildError .historicalData code message)
  else if code = 420 ∨ code = 100 then some (.rateLimit code message messageRateRetryAfter)
  else if code = 10197 then
    some (.ofClass .marketDataPermission code
      (message ++ " (competing live session is using the market data)"))
  else cls.map fun cls => r.buildError cls code message

/-- `_on_farm_status`. -/
def onFarmStatus (farm : String) (ok : Bool) (code : Int) (message : String) : ErrorRouter :=
  { r with staleFarms := if ok then r.staleFarms.erase farm else insert farm r.staleFarms }.emit
    (r.farmListeners.map fun cb => .farm cb farm ok code message)

/-- The end of `on_error`: codes that concern a request, or nobody. -/
def onRequestError (reqId code : Int) (message : String) : ErrorRouter :=
  match r.requestException lower code message (errorTable code) with
  | none => r.emit [.log .debug ("Unrouted IB error " ++ toString code ++ ": " ++ message)]
  | some e =>
      let waiting := r.waiters.requests.contains reqId
      let r := { r with waiters := r.waiters.failRequest reqId e }
      if code = 309 ∧ waiting = false then
        r.emit [.log .warning ("IB error " ++ toString code ++
          " (subscription limit, no request waiting): " ++ message)]
      else r

/-- Codes that concern an order or a request, after all others have returned. -/
def onCallError (reqId code : Int) (message : String) : ErrorRouter :=
  if code = 202 then
    { r with
      cancelReasons := r.cancelReasons.set reqId message
      waiters := r.waiters.failOrder reqId (.orderCancelled code message message) }
  else if errorTable code = some .orderRejected then
    { r with waiters := r.waiters.failOrder reqId (.ofClass .orderRejected code message) }
  else r.onRequestError lower reqId code message

/-- `on_error` past the restored codes, with the stream listeners and the pacer told. -/
def onOtherError (reqId code : Int) (message : String) : ErrorRouter :=
  if code = 10090 then
    r.emit [.log .warning ("IB error " ++ toString code ++ " (partial data): " ++ message)]
  else if code = 317 then
    r.emit (.log .info ("IB error " ++ toString code ++ " (market depth reset): " ++ message) ::
      r.depthResetListeners.map .depthReset)
  else if code ∈ informationalOrderCodes then
    r.emit [.log .info ("IB order info " ++ toString code ++ ": " ++ message)]
  else if code ∈ connectionLostCodes then
    let r := r.notifyConnection false
    { r with waiters := r.waiters.failAll (.connectionLost code message) }
  else if code = 1300 then
    { r with waiters := r.waiters.failAll (.connectionTerminated code message) }
  else
    match farmCodes code with
    | some (farm, ok) => r.onFarmStatus farm ok code message
    | none => r.onCallError lower reqId code message

/-- `on_error`. -/
def onError (reqId code : Int) (message : String) : ErrorRouter :=
  if code = 1102 then r.notifyConnection true
  else if code = 1101 then
    (r.notifyConnection true).emit (r.dataLostListeners.map fun cb => .dataLost cb code message)
  else
    let r := r.emit (r.streamErrorListeners.map fun cb => .streamError cb reqId code message)
    (r.reportPacing lower code message).onOtherError lower reqId code message

end OnError

/-! ## What an error can do -/

/-- Codes that fail every waiter. -/
def FailsAll (code : Int) : Prop :=
  code ∈ connectionLostCodes ∨ code = 1300

/-- Informational, farm, depth-reset and partial-data codes. -/
def Quiet (code : Int) : Prop :=
  code ∈ informationalOrderCodes ∨ (farmCodes code).isSome = true ∨ code = 317 ∨ code = 10090

/-- Codes that may concern one call, or nobody. -/
structure CallCode (code : Int) : Prop where
  hsome : ¬ FailsAll code
  hloud : ¬ Quiet code
  hflag : connectivity code = none

/-- What an error can do, with the calls to listeners, pacer and logger in `calls`. -/
inductive RouterMove (reqId code : Int) (r : ErrorRouter) (calls : List RouterCall) :
    ErrorRouter → Prop where
  | restored (hcode : code = 1101 ∨ code = 1102) :
      RouterMove reqId code r calls { r with isConnected := true, calls := calls }
  | told (hsome : ¬ FailsAll code) (hflag : connectivity code = none) :
      RouterMove reqId code r calls { r with calls := calls }
  | lost (e : IbError) (hcode : code ∈ connectionLostCodes) :
      RouterMove reqId code r calls
        { r with isConnected := false, waiters := r.waiters.failAll e, calls := calls }
  | terminated (e : IbError) (hcode : code = 1300) :
      RouterMove reqId code r calls { r with waiters := r.waiters.failAll e, calls := calls }
  | farm (stale : Finset String) (hfarm : (farmCodes code).isSome = true)
      (hsome : ¬ FailsAll code) (hflag : connectivity code = none) :
      RouterMove reqId code r calls { r with staleFarms := stale, calls := calls }
  | cancelled (e : IbError) (reason : String) (hcode : code = 202) :
      RouterMove reqId code r calls
        { r with
          cancelReasons := r.cancelReasons.set reqId reason
          waiters := r.waiters.failOrder reqId e
          calls := calls }
  | order (e : IbError) (hcall : CallCode code) :
      RouterMove reqId code r calls
        { r with waiters := r.waiters.failOrder reqId e, calls := calls }
  | request (e : IbError) (hcall : CallCode code) :
      RouterMove reqId code r calls
        { r with waiters := r.waiters.failRequest reqId e, calls := calls }

/-- A move counts from the state with some calls already made. -/
theorem RouterMove.of_calls {reqId code : Int} {r r' : ErrorRouter} {before calls : List RouterCall}
    (h : RouterMove reqId code { r with calls := before } calls r') :
    RouterMove reqId code r calls r' := by
  cases h with
  | restored hcode => exact .restored hcode
  | told hsome hflag => exact .told hsome hflag
  | lost e hcode => exact .lost e hcode
  | terminated e hcode => exact .terminated e hcode
  | farm stale hfarm hsome hflag => exact .farm stale hfarm hsome hflag
  | cancelled e reason hcode => exact .cancelled e reason hcode
  | order e hcall => exact .order e hcall
  | request e hcall => exact .request e hcall

section Moves

variable (lower : String → String) (r : ErrorRouter) (reqId code : Int) (message : String)

theorem onRequestError_move (hcall : CallCode code) :
    ∃ calls, RouterMove reqId code r calls (r.onRequestError lower reqId code message) := by
  unfold onRequestError
  cases r.requestException lower code message (errorTable code) with
  | none => exact ⟨_, .told hcall.hsome hcall.hflag⟩
  | some e =>
      simp only
      split_ifs
      · exact ⟨_, .request e hcall⟩
      · exact ⟨_, .request e hcall⟩

theorem onCallError_move (hcall : CallCode code) :
    ∃ calls, RouterMove reqId code r calls (r.onCallError lower reqId code message) := by
  unfold onCallError
  split_ifs with hcancel hrejected
  · exact ⟨_, .cancelled _ _ hcancel⟩
  · exact ⟨_, .order _ hcall⟩
  · exact onRequestError_move lower r reqId code message hcall

/-- Past the restored codes only the lost ones change the flag. -/
theorem connectivity_eq_none (hrestored : code ≠ 1102) (hdata : code ≠ 1101)
    (hlost : code ∉ connectionLostCodes) : connectivity code = none := by
  simp only [connectionLostCodes, List.mem_cons, List.not_mem_nil, or_false, not_or] at hlost
  simp [connectivity, hrestored, hdata, hlost]

theorem onOtherError_move (hrestored : code ≠ 1102) (hdata : code ≠ 1101) :
    ∃ calls, RouterMove reqId code r calls (r.onOtherError lower reqId code message) := by
  unfold onOtherError
  split_ifs with hpartial hreset hinfo hlost hterminated
  · exact ⟨_, .told (by simp [FailsAll, connectionLostCodes, hpartial])
      (by simp [connectivity, hpartial])⟩
  · exact ⟨_, .told (by simp [FailsAll, connectionLostCodes, hreset])
      (by simp [connectivity, hreset])⟩
  · have hcode : code = 10349 := by simpa [informationalOrderCodes] using hinfo
    exact ⟨_, .told (by simp [FailsAll, connectionLostCodes, hcode])
      (by simp [connectivity, hcode])⟩
  · exact ⟨_, .lost _ hlost⟩
  · exact ⟨_, .terminated _ hterminated⟩
  · have hsome : ¬ FailsAll code := fun h => h.elim hlost hterminated
    have hflag := connectivity_eq_none code hrestored hdata hlost
    cases hfarm : farmCodes code with
    | some farm => exact ⟨_, .farm _ (by simp [hfarm]) hsome hflag⟩
    | none =>
        have hloud : ¬ Quiet code := by
          rintro (h | h | h | h)
          · exact hinfo h
          · simp [hfarm] at h
          · exact hreset h
          · exact hpartial h
        exact onCallError_move lower r reqId code message ⟨hsome, hloud, hflag⟩

/-- The pacer is told, and nothing else. -/
theorem reportPacing_eq :
    ∃ calls, r.reportPacing lower code message = { r with calls := calls } := by
  unfold reportPacing
  split_ifs <;> exact ⟨_, rfl⟩

/-- Every error is one of the moves. -/
theorem onError_move :
    ∃ calls, RouterMove reqId code r calls (r.onError lower reqId code message) := by
  unfold onError
  split_ifs with hrestored hdata
  · exact ⟨_, .restored (Or.inr hrestored)⟩
  · exact ⟨_, .restored (Or.inl hdata)⟩
  · obtain ⟨before, hpacing⟩ := reportPacing_eq lower
      (r.emit (r.streamErrorListeners.map fun cb => .streamError cb reqId code message)) code
      message
    obtain ⟨calls, hmove⟩ := onOtherError_move lower
      { r with calls := before } reqId code message hrestored hdata
    refine ⟨calls, ?_⟩
    simp only [hpacing]
    exact hmove.of_calls

end Moves

/-! ## Frames -/

/-- At most the waiter under `reqId` in `own` fails; `other` is the other dictionary. -/
structure OneFailed (reqId : Int) (own own' other other' : Dict Int Nat)
    (futures futures' : Nat → FutureState) : Prop where
  removed : own' = own.pop reqId
  others : other' = other
  failed : ∀ future, own.get? reqId = some future → futures future = .pending →
    ∃ e, futures' future = .exception e
  kept : ∀ future, own.get? reqId ≠ some future → futures' future = futures future

/-- Every pending waiter fails with one error, and both dictionaries are empty. -/
structure AllFailed (w w' : Waiters) : Prop where
  requests : w'.requests = ∅
  orders : w'.orders = ∅
  failed : ∃ e, ∀ future ∈ w.requests.values ++ w.orders.values,
    w.futures future = .pending → w'.futures future = .exception e
  kept : ∀ future, future ∉ w.requests.values ++ w.orders.values →
    w'.futures future = w.futures future

/-- What an error event does to the waiters. -/
structure WaitersFrame (reqId code : Int) (w w' : Waiters) : Prop where
  all : FailsAll code → AllFailed w w'
  one : ¬ FailsAll code → w' = w ∨
    OneFailed reqId w.requests w'.requests w.orders w'.orders w.futures w'.futures ∨
    OneFailed reqId w.orders w'.orders w.requests w'.requests w.futures w'.futures
  done : ∀ future, w.futures future ≠ .pending → w'.futures future = w.futures future
  quiet : Quiet code → w' = w

/-- What an error event does to the waiters and to the flag, and what else it leaves alone. -/
structure RouterFrame (reqId code : Int) (r r' : ErrorRouter) : Prop where
  waiters : WaitersFrame reqId code r.waiters r'.waiters
  down : r.isConnected = true → r'.isConnected = false → code ∈ connectionLostCodes
  up : r.isConnected = false → r'.isConnected = true → code = 1101 ∨ code = 1102
  farms : farmCodes code = none → r'.staleFarms = r.staleFarms
  reasons : ∀ key, key ≠ reqId ∨ code ≠ 202 → r'.cancelReasons.get? key = r.cancelReasons.get? key

theorem failWaiter_frame (own other : Dict Int Nat) (futures : Nat → FutureState) (reqId : Int)
    (e : IbError) :
    Waiters.failWaiter own futures reqId e = (own, futures) ∨
      OneFailed reqId own (Waiters.failWaiter own futures reqId e).1 other other futures
        (Waiters.failWaiter own futures reqId e).2 := by
  unfold Waiters.failWaiter
  cases hget : own.get? reqId with
  | none => exact Or.inl rfl
  | some future =>
      refine Or.inr ⟨rfl, rfl, ?_, ?_⟩
      · intro f hf hpending
        rw [hget] at hf
        cases hf
        exact ⟨e, by simp [hpending]⟩
      · intro f hf
        have hne : f ≠ future := by
          rintro rfl
          exact hf hget
        simp [hne]

theorem failAll_frame (w : Waiters) (e : IbError) : AllFailed w (w.failAll e) where
  requests := rfl
  orders := rfl
  failed := ⟨e, fun f hf hpending => by rw [Waiters.failAll_futures, if_pos hf, hpending]; rfl⟩
  kept := fun f hf => by rw [Waiters.failAll_futures, if_neg hf]

theorem WaitersFrame.kept {reqId code : Int} (w : Waiters) (hsome : ¬ FailsAll code) :
    WaitersFrame reqId code w w :=
  ⟨fun hall => absurd hall hsome, fun _ => Or.inl rfl, fun _ _ => rfl, fun _ => rfl⟩

theorem WaitersFrame.request {reqId code : Int} (w : Waiters) (e : IbError)
    (hsome : ¬ FailsAll code) (hloud : ¬ Quiet code) :
    WaitersFrame reqId code w (w.failRequest reqId e) := by
  refine ⟨fun hall => absurd hall hsome, fun _ => ?_, ?_, fun hquiet => absurd hquiet hloud⟩
  · rcases failWaiter_frame w.requests w.orders w.futures reqId e with hkept | hfailed
    · simp [Waiters.failRequest, hkept]
    · exact Or.inr (Or.inl hfailed)
  · exact fun f hdone => Waiters.failWaiter_done w.requests reqId e hdone

theorem WaitersFrame.order {reqId code : Int} (w : Waiters) (e : IbError)
    (hsome : ¬ FailsAll code) (hloud : ¬ Quiet code) :
    WaitersFrame reqId code w (w.failOrder reqId e) := by
  refine ⟨fun hall => absurd hall hsome, fun _ => ?_, ?_, fun hquiet => absurd hquiet hloud⟩
  · rcases failWaiter_frame w.orders w.requests w.futures reqId e with hkept | hfailed
    · simp [Waiters.failOrder, hkept]
    · exact Or.inr (Or.inr hfailed)
  · exact fun f hdone => Waiters.failWaiter_done w.orders reqId e hdone

theorem WaitersFrame.failAll {reqId code : Int} (w : Waiters) (e : IbError)
    (hall : FailsAll code) (hloud : ¬ Quiet code) :
    WaitersFrame reqId code w (w.failAll e) := by
  refine ⟨fun _ => failAll_frame w e, fun hsome => absurd hall hsome, ?_,
    fun hquiet => absurd hquiet hloud⟩
  intro f hdone
  simp [Waiters.fail_of_done hdone]

/-- The codes that fail everybody are not quiet. -/
theorem FailsAll.not_quiet {code : Int} (h : FailsAll code) : ¬ Quiet code := by
  simp only [FailsAll, connectionLostCodes, List.mem_cons, List.not_mem_nil, or_false] at h
  rcases h with (rfl | rfl | rfl | rfl) | rfl <;>
    simp [Quiet, informationalOrderCodes, farmCodes]

/-- The frame of each move. -/
theorem RouterMove.frame {reqId code : Int} {r r' : ErrorRouter} {calls : List RouterCall}
    (h : RouterMove reqId code r calls r') : RouterFrame reqId code r r' := by
  cases h with
  | restored hcode =>
      have hsome : ¬ FailsAll code := by
        rcases hcode with rfl | rfl <;> simp [FailsAll, connectionLostCodes]
      exact ⟨.kept r.waiters hsome, by simp, fun _ _ => hcode, fun _ => rfl, fun _ _ => rfl⟩
  | told hsome hflag =>
      exact ⟨.kept r.waiters hsome, by simp +contextual, by simp +contextual, fun _ => rfl,
        fun _ _ => rfl⟩
  | lost e hcode =>
      have hall : FailsAll code := Or.inl hcode
      exact ⟨.failAll r.waiters e hall hall.not_quiet, fun _ _ => hcode, by simp, fun _ => rfl,
        fun _ _ => rfl⟩
  | terminated e hcode =>
      have hall : FailsAll code := Or.inr hcode
      exact ⟨.failAll r.waiters e hall hall.not_quiet, by simp +contextual, by simp +contextual,
        fun _ => rfl, fun _ _ => rfl⟩
  | farm stale hfarm hsome hflag =>
      refine ⟨.kept r.waiters hsome, by simp +contextual, by simp +contextual, ?_, fun _ _ => rfl⟩
      intro hnone
      simp [hnone] at hfarm
  | cancelled e reason hcode =>
      have hsome : ¬ FailsAll code := by simp [FailsAll, connectionLostCodes, hcode]
      have hloud : ¬ Quiet code := by simp [Quiet, informationalOrderCodes, farmCodes, hcode]
      refine ⟨.order r.waiters e hsome hloud, by simp +contextual, by simp +contextual,
        fun _ => rfl, ?_⟩
      intro key hkey
      exact Dict.get?_set_of_ne _ (hkey.resolve_right fun h => h hcode) reason
  | order e hcall =>
      exact ⟨.order r.waiters e hcall.hsome hcall.hloud, by simp +contextual, by simp +contextual,
        fun _ => rfl, fun _ _ => rfl⟩
  | request e hcall =>
      exact ⟨.request r.waiters e hcall.hsome hcall.hloud, by simp +contextual,
        by simp +contextual, fun _ => rfl, fun _ _ => rfl⟩

theorem RouterMove.isConnected {reqId code : Int} {r r' : ErrorRouter} {calls : List RouterCall}
    (h : RouterMove reqId code r calls r') :
    r'.isConnected = (connectivity code).getD r.isConnected := by
  cases h with
  | restored hcode => rcases hcode with rfl | rfl <;> simp [connectivity]
  | told hsome hflag => simp [hflag]
  | lost e hcode =>
      simp only [connectionLostCodes, List.mem_cons, List.not_mem_nil, or_false] at hcode
      rcases hcode with rfl | rfl | rfl | rfl <;> simp [connectivity]
  | terminated e hcode => simp [connectivity, hcode]
  | farm stale hfarm hsome hflag => simp [hflag]
  | cancelled e reason hcode => simp [connectivity, hcode]
  | order e hcall => simp [hcall.hflag]
  | request e hcall => simp [hcall.hflag]

/-- The flag follows the connectivity codes, as the transport takes them. -/
theorem onError_isConnected (lower : String → String) (r : ErrorRouter) (reqId code : Int)
    (message : String) :
    (r.onError lower reqId code message).isConnected = (connectivity code).getD r.isConnected := by
  obtain ⟨calls, hmove⟩ := onError_move lower r reqId code message
  exact hmove.isConnected

/-- An error event fails at most the call under its own id, but for the codes that fail
everybody; a done future keeps its state, the flag changes on connectivity codes only, and
informational, farm, depth-reset and partial-data codes touch no waiter. -/
theorem onError_frame (lower : String → String) (r : ErrorRouter) (reqId code : Int)
    (message : String) : RouterFrame reqId code r (r.onError lower reqId code message) := by
  obtain ⟨calls, hmove⟩ := onError_move lower r reqId code message
  exact hmove.frame

end ErrorRouter

end Ib
end MarketConnector
