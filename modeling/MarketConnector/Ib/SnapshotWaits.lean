import Mathlib.Algebra.Order.Ring.Rat
import MarketConnector.Ib.CountedDispatch
import MarketConnector.Ib.DepthUsers
import MarketConnector.Ib.Resubscribing

/-!
# Ib - Snapshots that wait for data

`top_of_book` and `depth_snapshot` wait on a stream that others use as well.  An update or a
drop of the stream wakes them, an error of the stream fails them, a timer ends the wait; but
a task looks at the stream only when it goes on, and by then the stream may show something
else.

Main results:

- Definition `snapshotMachine`: the streams, the quotes of tickers and the waits on them.
- Theorem `SnapshotInv.operate`: a wait that stays asleep has nothing to look at.
- Theorem `snapshots_served`: no snapshot sleeps while its stream shows data, and each ends
  with what its own stream showed, with an error of that stream, or at its deadline; without a
  line for its stream it raises at once.
-/

namespace MarketConnector
namespace Ib

open Foundations

/-! ## What a stream shows -/

/-- Bid and ask of a ticker, as `decimal_or_none` reads them. -/
structure TopQuote where
  bid : Option Decimal
  ask : Option Decimal

/-- What a snapshot returns. -/
inductive MarketView where
  | top (bid ask : Decimal)
  | book (bids asks : List BookRow)
deriving DecidableEq

/-- Bid and ask, if both are there and positive. -/
def TopQuote.view (quote : TopQuote) : Option MarketView :=
  match quote.bid, quote.ask with
  | some bid, some ask => if 0 < bid.value ∧ 0 < ask.value then some (.top bid ask) else none
  | _, _ => none

/-- A book with rows. -/
def bookView (bids asks : List BookRow) : Option MarketView :=
  if bids.isEmpty && asks.isEmpty then none else some (.book bids asks)

/-- `ready()` of `top_of_book` and of `depth_snapshot`. -/
def readyView (quotes : Dict Nat TopQuote) (t : StreamTable) (snapshot : Snapshot) :
    Option MarketView :=
  if snapshot.depth then
    bookView (rowsAt t snapshot.stream .bids) (rowsAt t snapshot.stream .asks)
  else ((tickerOf t snapshot.stream).bind quotes.get?).bind TopQuote.view

/-! ## Waits -/

/-- The future a snapshot waits for.  It is `awake` when the task only looks again: after
an update or a drop of the stream, or when the timer fired. -/
inductive WakeFuture where
  | pending | awake | failed (exc : StreamError) | cancelled
deriving DecidableEq

/-- One `_wait_for` under way. -/
structure SnapshotWait where
  contract : Contract
  snapshot : Snapshot
  deadline : ℚ
  future : WakeFuture

/-- `MarketDataTimeoutError` is `timedOut`; the other errors are those of the stream. -/
inductive SnapshotResult where
  | returned (view : MarketView)
  | raised (exc : StreamError)
  | timedOut
  | cancelled
deriving DecidableEq

/-- A snapshot that is over; the ticks of its book and the quotes of its ticker are those up to
its end. -/
structure EndedSnapshot where
  contract : Contract
  snapshot : Snapshot
  deadline : ℚ
  endedAt : ℚ
  ticks : List DepthTick
  quotes : List TopQuote
  result : SnapshotResult

/-- Streams, subscriptions and snapshots, the quotes of the tickers, and the clock.  `heard`
are all quotes so far with their tickers, `reported` the errors of L1 and depth streams, hard and
soft ones. -/
structure SnapshotTransport where
  base : TracedState
  quotes : Dict Nat TopQuote
  waits : Dict Nat SnapshotWait
  now : ℚ
  heard : List (Nat × TopQuote)
  reported : List (Nat × StreamError)
  ended : Dict Nat EndedSnapshot

namespace SnapshotTransport

def market (s : SnapshotTransport) : MarketData :=
  s.base.base.market

def table (s : SnapshotTransport) : StreamTable :=
  s.market.table

/-- The quotes of one ticker, in order. -/
def heardOf (heard : List (Nat × TopQuote)) (ticker : Nat) : List TopQuote :=
  (heard.filter fun entry => entry.1 = ticker).map Prod.snd

/-- What was heard so far of the ticker that a stream has. -/
def quotesOf (s : SnapshotTransport) (sid : Nat) : List TopQuote :=
  match tickerOf s.table sid with
  | none => []
  | some ticker => heardOf s.heard ticker

/-- A snapshot that ends now. -/
def endsAs (s : SnapshotTransport) (w : SnapshotWait) (result : SnapshotResult) :
    EndedSnapshot where
  contract := w.contract
  snapshot := w.snapshot
  deadline := w.deadline
  endedAt := s.now
  ticks := s.base.since w.snapshot.stream
  quotes := s.quotesOf w.snapshot.stream
  result := result

end SnapshotTransport

/-- Futures of the snapshots that wait on some streams get a result, or an exception, unless
they are done. -/
def settleWaits (waits : Dict Nat SnapshotWait) (sids : List Nat) (future : WakeFuture) :
    Dict Nat SnapshotWait :=
  waits.mapValues fun w =>
    if w.snapshot.stream ∈ sids ∧ w.future = .pending then { w with future := future } else w

/-- L1 and depth streams that an operation took out of their registry: `_drop_stream` wakes
those that wait on them. -/
def droppedStreams (t t' : StreamTable) : List Nat :=
  [StreamKind.l1, .depth].flatMap fun kind =>
    (t.registry kind).values.filter fun sid => sid ∉ (t'.registry kind).values

/-- The stream that an update of a depth ticker wakes. -/
def updatedStreams (s : MarketData) : CallbackLabel → List Nat
  | .op (.depthUpdate sid _) => (updatedStream s sid).toList
  | _ => []

/-- The L1 or depth stream with this reqId. -/
def streamOfReqId (t : StreamTable) (reqId : Int) : Option Nat :=
  if reqId < 0 then none
  else
    match t.tradesByReqId.get? reqId.toNat with
    | some _ => none
    | none => (t.streamByReqId.get? reqId.toNat).map Prod.fst

/-- The stream that a code fails at once, with its error. -/
def hardFailure (t : StreamTable) : CallbackLabel → Option (Nat × StreamError)
  | .op (.streamError reqId code message) =>
      (streamOfReqId t reqId).bind fun sid => (hardError code message).map fun exc => (sid, exc)
  | _ => none

/-- The stream that a code warns of. -/
def softFailure (t : StreamTable) : CallbackLabel → Option (Nat × StreamError)
  | .op (.streamError reqId code message) =>
      if code ∈ softPermissionCodes then
        (streamOfReqId t reqId).map fun sid => (sid, .marketDataPermission code message)
      else none
  | _ => none

/-- The futures that `_fail_stream` fails. -/
def failWaits (t : StreamTable) (l : CallbackLabel) (waits : Dict Nat SnapshotWait) :
    Dict Nat SnapshotWait :=
  match hardFailure t l with
  | some (sid, exc) => settleWaits waits [sid] (.failed exc)
  | none => waits

/-! ## Steps -/

/-- An operation of the transport: an error first fails those that wait, then updates and
drops wake those that still do. -/
def operate (cap : Nat) (s : SnapshotTransport) (l : CallbackLabel) : Option SnapshotTransport :=
  (tracedStep cap s.base l).map fun base =>
    { s with
      base := base
      waits := settleWaits (failWaits s.table l s.waits)
        (updatedStreams s.market l ++ droppedStreams s.table base.base.market.table) .awake
      reported := s.reported ++ (hardFailure s.table l).toList ++ (softFailure s.table l).toList }

def endWait (s : SnapshotTransport) (id : Nat) (e : EndedSnapshot) : SnapshotTransport :=
  { s with waits := s.waits.pop id, ended := s.ended.set id e }

/-- A snapshot is over: `timedOut` says that it ends at its deadline. -/
def finishSnapshot (cap : Nat) (s : SnapshotTransport) (id : Nat) (w : SnapshotWait)
    (timedOut : Bool) (result : SnapshotResult) : Option SnapshotTransport :=
  (operate cap s (.op (.snapshotEnds id timedOut))).map fun s' =>
    endWait s' id (s.endsAs w result)

def setWait (s : SnapshotTransport) (id : Nat) (w : SnapshotWait) : SnapshotTransport :=
  { s with waits := s.waits.set id w }

/-- One pass of the loop of `_wait_for`; a stream that shows nothing at the deadline has a
warning or not. -/
def look (cap : Nat) (s : SnapshotTransport) (id : Nat) (w : SnapshotWait) :
    Option SnapshotTransport :=
  match readyView s.quotes s.table w.snapshot with
  | some view => finishSnapshot cap s id w false (.returned view)
  | none =>
      if s.now < w.deadline then some (setWait s id { w with future := .pending })
      else
        match fieldAt Stream.permissionWarning none s.table w.snapshot.stream with
        | some (code, message) =>
            finishSnapshot cap s id w true (.raised (.marketDataPermission code message))
        | none => finishSnapshot cap s id w true .timedOut

/-- The task of a snapshot goes on when its future is done. -/
def resumeWait (cap : Nat) (s : SnapshotTransport) (id : Nat) (w : SnapshotWait) :
    Option SnapshotTransport :=
  match w.future with
  | .pending => none
  | .awake => look cap s id w
  | .failed exc => finishSnapshot cap s id w false (.raised exc)
  | .cancelled => finishSnapshot cap s id w false .cancelled

/-- What `top_of_book` and `depth_snapshot` raise before they wait: all lines are in use, or the
request of ib_async raises. -/
inductive BeginError where
  /-- `MarketDataLinesExhaustedError` -/
  | linesExhausted (code : Int) (message : String)
  | request
deriving DecidableEq

/-- `_require_free_line` and the request, for a contract whose stream is not open; `ticker` is
what ib_async answers to the request. -/
def beginError (cap : Nat) (t : StreamTable) (depth : Bool) (contract : Contract)
    (ticker : Option Nat) : Option BeginError :=
  match (t.registry (if depth then .depth else .l1)).get? (streamKey contract) with
  | some _ => none
  | none =>
      if (cap : Int) ≤ t.mdLines then
        some (.linesExhausted 101 ("all " ++ toString cap ++
          " market-data lines (IbConnectionSpec.market_data_lines) are in use"))
      else if ticker.isNone then some .request
      else none

/-- `top_of_book` or `depth_snapshot`: it looks before it waits.  Without a stream it raises
at once. -/
def beginSnapshot (cap : Nat) (timeout : ℚ) (s : SnapshotTransport) (depth : Bool)
    (contract : Contract) (ticker : Option Nat) : Option SnapshotTransport :=
  let id := s.market.nextSnapshot
  let call : StreamLabel :=
    if depth then .depthSnapshot contract ticker else .topOfBook contract ticker
  (operate cap s (.op call)).bind fun s' =>
    match s'.market.snapshots.get? id with
    | none => some s'
    | some snapshot =>
        let w : SnapshotWait := ⟨contract, snapshot, s.now + timeout, .awake⟩
        look cap (setWait s' id w) id w

/-- L1 streams whose hook is attached to the ticker. -/
def hookedStreams (t : StreamTable) (ticker : Nat) : List Nat :=
  (t.hooks.filter fun hook => hook.1 = ticker && isRegistered t .l1 hook.2).map Prod.snd

/-- The figures of a ticker change, and its event runs `_wake_l1` of the hooked streams. -/
def hearQuote (s : SnapshotTransport) (ticker : Nat) (quote : TopQuote) : SnapshotTransport :=
  { s with
    quotes := s.quotes.set ticker quote
    heard := s.heard ++ [(ticker, quote)]
    waits := settleWaits s.waits (hookedStreams s.table ticker) .awake }

inductive SnapshotLabel where
  /-- an operation that is no snapshot's -/
  | operates (l : CallbackLabel)
  | begins (depth : Bool) (contract : Contract) (ticker : Option Nat)
  /-- IB reports bid and ask of a ticker -/
  | quotes (ticker : Nat) (quote : TopQuote)
  /-- the timer of `asyncio.wait_for` fires -/
  | deadline (id : Nat)
  /-- the task of a snapshot is cancelled -/
  | cancels (id : Nat)
  | resumes (id : Nat)
  | elapses (d : ℚ)

/-- The operations that `top_of_book` and `depth_snapshot` are made of. -/
def ofSnapshot : CallbackLabel → Bool
  | .op (.topOfBook _ _) => true
  | .op (.depthSnapshot _ _) => true
  | .op (.snapshotEnds _ _) => true
  | _ => false

/-- The timer makes the task look again, and a cancellation ends it; neither changes a task
that is cancelled already. -/
def interruptWait (s : SnapshotTransport) (id : Nat) (future : WakeFuture) :
    Option SnapshotTransport :=
  (s.waits.get? id).map fun w =>
    if w.future = .cancelled then s else setWait s id { w with future := future }

def snapshotStep (cap : Nat) (timeout : ℚ) (s : SnapshotTransport) :
    SnapshotLabel → Option SnapshotTransport
  | .operates l => if ofSnapshot l then none else operate cap s l
  | .begins depth contract ticker => beginSnapshot cap timeout s depth contract ticker
  | .quotes ticker quote => some (hearQuote s ticker quote)
  | .deadline id => interruptWait s id .awake
  | .cancels id => interruptWait s id .cancelled
  | .resumes id => (s.waits.get? id).bind (resumeWait cap s id)
  | .elapses d => if 0 ≤ d then some { s with now := s.now + d } else none

def SnapshotTransport.init : SnapshotTransport where
  base := ⟨.init, fun _ => []⟩
  quotes := ∅
  waits := ∅
  now := 0
  heard := []
  reported := []
  ended := ∅

/-- Any number of snapshots, with `market_data_timeout` seconds each. -/
def snapshotMachine (spec : IbConnectionSpec) (timeout : ℚ) :
    Machine SnapshotTransport SnapshotLabel where
  init := .init
  step := snapshotStep spec.marketDataLines timeout

/-! ## What a step leaves of streams -/

theorem bookView_eq_none {bids asks : List BookRow} :
    bookView bids asks = none ↔ bids = [] ∧ asks = [] := by
  unfold bookView
  split_ifs with hempty
  · simpa using hempty
  · simpa using hempty

/-- A book without rows gets some from an update of its stream only. -/
theorem rowsAt_eq_nil_of_step {cap : Nat} {s s' : CallbackState} {l : CallbackLabel}
    (h : KeyedInv s.market.table) (hstep : callbackStep cap s l = some s') {sid : Nat}
    (hother : sid ∉ updatedStreams s.market l) {side : BookSide}
    (hempty : rowsAt s.market.table sid side = []) : rowsAt s'.market.table sid side = [] := by
  have hmove := callbackStep_move hstep
  by_cases hupdate : ∃ sid' ticks, l = .op (.depthUpdate sid' ticks)
  · obtain ⟨sid', ticks, rfl⟩ := hupdate
    rcases depthUpdate_cases hstep with ⟨-, rfl⟩ | ⟨current, st, hsome, hst, rfl⟩
    · exact hempty
    · have hne : sid ≠ current := by
        rintro rfl
        exact hother (by simp [updatedStreams, hsome])
      simp only [rowsAt, beginFanOut, applyTicks, get?_updateStream, if_neg hne]
      exact hempty
  · by_cases hreset : l = .op .depthReset
    · subst hreset
      cases hstep
      rw [show rowsAt _ sid = _ from rowsAt_clearDepthBooks s.market.table sid]
      split_ifs
      · rfl
      · exact hempty
    · by_cases hresub : IsResubscribe l
      · obtain ⟨cancelOld, answers, rfl⟩ := hresub
        cases hstep
        rw [show rowsAt _ sid = _ from
          rowsAt_resubscribeAll cancelOld answers s.market.table sid]
        split_ifs
        · rfl
        · exact hempty
      · rw [rowsAt_move h hmove (fun sid' ticks heq => hupdate ⟨sid', ticks, heq⟩) hreset hresub]
        exact hempty

/-- The stream object is there, and has no other ticker than before. -/
def NoNewTicker (t : StreamTable) (sid : Nat) (t' : StreamTable) : Prop :=
  (keyOf t' sid).isSome = true ∧ ∀ ticker, tickerOf t' sid = some ticker →
    tickerOf t sid = some ticker

theorem NoNewTicker.openStream {t t' : StreamTable} {sid : Nat} (h : NoNewTicker t sid t')
    (hkeyed : KeyedInv t') (cap : Nat) (kind : StreamKind) (contract : Contract)
    (ticker : Option Nat) : NoNewTicker t sid (openStream cap t' kind contract ticker).1 := by
  obtain ⟨key, hkey⟩ := Option.isSome_iff_exists.1 h.1
  have hne : sid ≠ t'.nextStream := Nat.ne_of_lt (hkeyed.fresh sid key hkey)
  have hsent : keyOf (requestNew t' kind contract ticker) sid = keyOf t' sid ∧
      tickerOf (requestNew t' kind contract ticker) sid = tickerOf t' sid := by
    constructor
    · rw [(StreamFrame.requestNew t' kind contract ticker).keys, keyOf_addStream, if_neg hne]
    · rw [requestNew, tickerOf_sendRequest, if_neg (fun hsame => hne hsame.1),
        (SameRequests.addStream hkeyed contract).tickers]
  rw [openStream_eq]
  split_ifs
  · exact h
  · have hregister : SameRequests (requestNew t' kind contract ticker)
        (registerNew t' kind contract ticker) := .register _ kind (streamKey contract) _ 1
    have hkeyof : keyOf (registerNew t' kind contract ticker) sid =
        keyOf (requestNew t' kind contract ticker) sid := rfl
    unfold NoNewTicker
    rw [hkeyof, hregister.tickers, hsent.1, hsent.2]
    exact h
  · unfold NoNewTicker
    rw [hsent.1, hsent.2]
    exact h

theorem NoNewTicker.tableOp {cap : Nat} {t t' t'' : StreamTable} {sid : Nat}
    (h : NoNewTicker t sid t') (hkeyed : KeyedInv t') (hop : TableOp cap t' t'') :
    NoNewTicker t sid t'' := by
  cases hop with
  | updates sid' hf =>
      unfold NoNewTicker
      rw [(StreamFrame.updateStream t' sid' _ hf.contract).keys,
        (SameRequests.updateStream t' sid' hf).tickers]
      exact h
  | @drops kind sid' hreg =>
      obtain ⟨t₁, hbefore, hafter⟩ := exists_dropOf hkeyed hreg
      refine ⟨by rw [(StreamFrame.dropOf kind t' sid').keys]; exact h.1, fun ticker hticker => ?_⟩
      rw [hafter.tickers, tickerOf_unhook] at hticker
      split_ifs at hticker
      rw [hbefore.tickers] at hticker
      exact h.2 ticker hticker
  | opens kind ticker habsent => exact h.openStream hkeyed cap kind _ ticker

/-- Only a resubscribe gives a stream another ticker. -/
theorem noNewTicker_move {cap : Nat} {s s' : MarketData} {l : CallbackLabel}
    (h : KeyedInv s.table) (hmove : CallbackMove cap s l s') (hother : ¬ IsResubscribe l)
    {sid : Nat} (hknown : (keyOf s.table sid).isSome = true) : NoNewTicker s.table sid s'.table :=
  ((tableRun_move h hmove hother).invariant (P := NoNewTicker s.table sid)
    (fun _ _ hkeyed hold hop => hold.tableOp hkeyed hop) h ⟨hknown, fun _ hticker => hticker⟩).2

/-- The keys of stream objects last. -/
theorem keyOf_move {cap : Nat} {s s' : MarketData} {l : CallbackLabel} (h : KeyedInv s.table)
    (hmove : CallbackMove cap s l s') {sid : Nat} {key : StreamKey}
    (hkey : keyOf s.table sid = some key) : keyOf s'.table sid = some key := by
  obtain ⟨st, hst, rfl⟩ := Option.map_eq_some_iff.1 hkey
  have hcontract : contractOf s.table sid = some st.contract := by simp [contractOf, hst]
  exact keyOf_of_contractOf (keepsContracts_move h hmove sid st.contract hcontract)

/-- Operations that are no snapshot's leave the snapshots alone. -/
theorem snapshots_move {cap : Nat} {s s' : MarketData} {l : CallbackLabel}
    (hmove : CallbackMove cap s l s') (hother : ofSnapshot l = false) :
    s'.snapshots = s.snapshots := by
  have hclose : ∀ (s : MarketData) id loop, (closeHandle s id loop).snapshots = s.snapshots := by
    intro s id loop
    unfold closeHandle cleanup
    cases s.subs.handles.get? id with
    | none => rfl
    | some handle =>
        dsimp only
        split_ifs
        · rfl
        · cases handle.channel <;> rfl
  have hdrop : ∀ kind sid, (dropRegistered s kind sid).snapshots = s.snapshots := by
    intro kind sid
    rw [dropRegistered_eq]
  have hfail : ∀ reqId code message, (dropFailed s reqId code message).1.snapshots =
      s.snapshots := by
    intro reqId code message
    unfold dropFailed
    repeat' split
    all_goals first
      | rfl
      | exact hdrop _ _
  cases hmove with
  | same => rfl
  | subscribes =>
      unfold subscribe
      dsimp only
      split <;> rfl
  | closes => exact hclose s _ _
  | topOfBook => cases hother
  | depthSnapshot => cases hother
  | snapshotEnds hid => cases hother
  | resubscribes => rfl
  | depthReset => rfl
  | idleExpires hsid hidle => rfl
  | releaseAll => rfl
  | routed hnone => exact hfail _ _ _
  | fails hsome => exact hfail _ _ _
  | depthUpdate => rfl
  | publishes => rfl
  | notifies =>
      unfold failHandle
      cases s.subs.handles.get? _ with
      | none => rfl
      | some handle =>
          dsimp only
          split_ifs
          · rfl
          · exact hclose _ _ _

/-- A stream has a warning from a soft code that was reported of it. -/
theorem warning_dropFailed (s : MarketData) (reqId code : Int) (message : String) {sid : Nat}
    {c : Int} {m : String}
    (hwarned : fieldAt Stream.permissionWarning none (dropFailed s reqId code message).1.table sid =
      some (c, m)) :
    fieldAt Stream.permissionWarning none s.table sid = some (c, m) ∨
      softFailure s.table (.op (.streamError reqId code message)) =
        some (sid, .marketDataPermission c m) := by
  unfold dropFailed at hwarned
  unfold softFailure streamOfReqId
  by_cases hnegative : reqId < 0
  · rw [if_pos hnegative] at hwarned
    exact Or.inl hwarned
  · rw [if_neg hnegative] at hwarned
    cases htrades : s.table.tradesByReqId.get? reqId.toNat with
    | some trades =>
        left
        simp only [htrades] at hwarned
        cases hhard : hardError code message with
        | none => simpa only [hhard] using hwarned
        | some exc => simpa only [hhard, settled_permissionWarning.dropTrades] using hwarned
    | none =>
        simp only [htrades] at hwarned
        cases hstream : s.table.streamByReqId.get? reqId.toNat with
        | none =>
            left
            simpa only [hstream] using hwarned
        | some entry =>
            simp only [hstream] at hwarned
            cases hhard : hardError code message with
            | some exc =>
                left
                simpa only [hhard, settled_permissionWarning.dropRegistered] using hwarned
            | none =>
                simp only [hhard] at hwarned
                by_cases hsoft : code ∈ softPermissionCodes
                · rw [if_pos hsoft] at hwarned
                  by_cases hsid : sid = entry.1
                  · right
                    simp only [fieldAt, get?_updateStream, hsid, if_true] at hwarned
                    cases hst : s.table.streams.get? entry.1 with
                    | none => simp [hst] at hwarned
                    | some st =>
                        simp only [hst, Option.map_some, Option.getD_some, Option.some.injEq,
                          Prod.mk.injEq] at hwarned
                        obtain ⟨rfl, rfl⟩ := hwarned
                        simp [hsoft, hnegative, hsid, htrades, hstream]
                  · left
                    simpa only [fieldAt, get?_updateStream, if_neg hsid] using hwarned
                · rw [if_neg hsoft] at hwarned
                  exact Or.inl hwarned

/-- A warning is from before, or is noted in this step. -/
theorem warning_move {cap : Nat} {s s' : MarketData} {l : CallbackLabel} (h : KeyedInv s.table)
    (hmove : CallbackMove cap s l s') {sid : Nat} {c : Int} {m : String}
    (hwarned : fieldAt Stream.permissionWarning none s'.table sid = some (c, m)) :
    fieldAt Stream.permissionWarning none s.table sid = some (c, m) ∨
      softFailure s.table l = some (sid, .marketDataPermission c m) := by
  by_cases hresub : IsResubscribe l
  · obtain ⟨cancelOld, answers, rfl⟩ := hresub
    left
    cases hmove with
    | same => exact hwarned
    | resubscribes =>
        dsimp only at hwarned
        rw [settled_permissionWarning.resubscribeAll fun _ => rfl] at hwarned
        split_ifs at hwarned
        exact hwarned
  · by_cases herror : ∃ reqId code message, l = .op (.streamError reqId code message)
    · obtain ⟨reqId, code, message, rfl⟩ := herror
      cases hmove with
      | same => exact Or.inl hwarned
      | routed hnone => exact warning_dropFailed s reqId code message hwarned
      | fails hsome =>
          apply warning_dropFailed s reqId code message
          rwa [← fieldAt_updateStream (f := fun st => { st with subscribers := [] }) rfl
            fun _ => rfl]
    · left
      rwa [← settled_permissionWarning.move h hmove
        (fun sid ticks _ => foldl_applyDepthTick (fun _ _ _ => rfl) ticks) (fun _ _ => rfl)
        (fun reqId code message hl => absurd ⟨reqId, code, message, hl⟩ herror) hresub]

/-! ## Waits -/

/-- A wait on some streams that sleeps is settled; the others stay. -/
theorem get?_settleWaits {waits : Dict Nat SnapshotWait} {sids : List Nat} {future : WakeFuture}
    {id : Nat} {w : SnapshotWait} (hid : (settleWaits waits sids future).get? id = some w) :
    ∃ w₀, waits.get? id = some w₀ ∧
      ((w = w₀ ∧ (w₀.future = .pending → w₀.snapshot.stream ∉ sids)) ∨
        (w = { w₀ with future := future } ∧ w₀.snapshot.stream ∈ sids)) := by
  unfold settleWaits at hid
  rw [Dict.get?_mapValues] at hid
  obtain ⟨w₀, hw₀, hw⟩ := Option.map_eq_some_iff.1 hid
  refine ⟨w₀, hw₀, ?_⟩
  split_ifs at hw with hsettled
  · exact Or.inr ⟨hw.symm, hsettled.1⟩
  · exact Or.inl ⟨hw.symm, fun hpending hmem => hsettled ⟨hmem, hpending⟩⟩

theorem map_snapshot_settleWaits (waits : Dict Nat SnapshotWait) (sids : List Nat)
    (future : WakeFuture) (id : Nat) :
    ((settleWaits waits sids future).get? id).map SnapshotWait.snapshot =
      (waits.get? id).map SnapshotWait.snapshot := by
  unfold settleWaits
  rw [Dict.get?_mapValues, Option.map_map]
  refine congrArg (Option.map · _) (funext fun w => ?_)
  dsimp only [Function.comp_apply]
  split_ifs <;> rfl

/-- What an operation makes of a wait. -/
theorem operate_wait {cap : Nat} {s s' : SnapshotTransport} {l : CallbackLabel}
    (hstep : operate cap s l = some s') {id : Nat} {w : SnapshotWait}
    (hid : s'.waits.get? id = some w) :
    ∃ w₀ future, s.waits.get? id = some w₀ ∧ w = { w₀ with future := future } ∧
      ((future = w₀.future ∧
          (w₀.future = .pending → w₀.snapshot.stream ∉ updatedStreams s.market l)) ∨
        (∃ exc, hardFailure s.table l = some (w₀.snapshot.stream, exc) ∧ future = .failed exc) ∨
        future = .awake) := by
  obtain ⟨base, -, rfl⟩ := Option.map_eq_some_iff.1 hstep
  obtain ⟨w₁, hw₁, hmoved⟩ := get?_settleWaits hid
  have hfirst : ∃ w₀ future, s.waits.get? id = some w₀ ∧ w₁ = { w₀ with future := future } ∧
      (future = w₀.future ∨
        ∃ exc, hardFailure s.table l = some (w₀.snapshot.stream, exc) ∧ future = .failed exc) := by
    unfold failWaits at hw₁
    split at hw₁
    · rename_i sid exc hhard
      obtain ⟨w₀, hw₀, ⟨rfl, -⟩ | ⟨rfl, hmem⟩⟩ := get?_settleWaits hw₁
      · exact ⟨w₁, _, hw₀, rfl, Or.inl rfl⟩
      · rw [List.mem_singleton] at hmem
        exact ⟨w₀, _, hw₀, rfl, Or.inr ⟨exc, by rw [hhard, hmem], rfl⟩⟩
    · exact ⟨w₁, _, hw₁, rfl, Or.inl rfl⟩
  obtain ⟨w₀, future, hw₀, rfl, hfuture⟩ := hfirst
  rcases hmoved with ⟨rfl, hasleep⟩ | ⟨rfl, -⟩
  · refine ⟨w₀, future, hw₀, rfl, ?_⟩
    rcases hfuture with rfl | hfailed
    · refine Or.inl ⟨rfl, fun hpending hmem => hasleep hpending ?_⟩
      exact List.mem_append_left _ hmem
    · exact Or.inr (Or.inl hfailed)
  · exact ⟨w₀, .awake, hw₀, rfl, Or.inr (Or.inr rfl)⟩

/-! ## The invariant -/

/-- What is known of a snapshot that is over: it looked at the stream of its contract, and
ended with the last quote of the stream's ticker, with a book that is the front of the
exchange's, with an error that was reported of the stream, or at its deadline. -/
structure EndedSnapshot.Justified (s : SnapshotTransport) (e : EndedSnapshot) : Prop where
  own : keyOf s.table e.snapshot.stream = some (streamKey e.contract)
  top : ∀ bid ask, e.result = .returned (.top bid ask) → e.snapshot.depth = false ∧
    0 < bid.value ∧ 0 < ask.value ∧ e.quotes.getLast? = some ⟨some bid, some ask⟩
  book : ∀ bids asks, e.result = .returned (.book bids asks) → e.snapshot.depth = true ∧
    (bids ≠ [] ∨ asks ≠ []) ∧ RefinesReference .bids e.ticks bids ∧
      RefinesReference .asks e.ticks asks
  raised : ∀ exc, e.result = .raised exc → (e.snapshot.stream, exc) ∈ s.reported
  timedOut : e.result = .timedOut → e.deadline ≤ e.endedAt

/-- Stream objects keep their keys, and nothing that was reported is forgotten. -/
structure Grows (s s' : SnapshotTransport) : Prop where
  keys : ∀ sid key, keyOf s.table sid = some key → keyOf s'.table sid = some key
  reported : s.reported ⊆ s'.reported

theorem EndedSnapshot.Justified.grows {s s' : SnapshotTransport} {e : EndedSnapshot}
    (h : e.Justified s) (hgrows : Grows s s') : e.Justified s' where
  own := hgrows.keys _ _ h.own
  top := h.top
  book := h.book
  raised exc he := hgrows.reported (h.raised exc he)
  timedOut := h.timedOut

/-- A wait that sleeps has nothing to look at; errors of streams were reported, and a ticker has
the last quote that was heard of it. -/
structure StreamWaitsInv (s : SnapshotTransport) : Prop where
  books : BooksInv s.base
  reqIds : ReqIdInv s.table
  sharing : SharingInv s.market
  own : ∀ id w, s.waits.get? id = some w →
    keyOf s.table w.snapshot.stream = some (streamKey w.contract)
  asleep : ∀ id w, s.waits.get? id = some w → w.future = .pending →
    readyView s.quotes s.table w.snapshot = none
  failed : ∀ id w exc, s.waits.get? id = some w → w.future = .failed exc →
    (w.snapshot.stream, exc) ∈ s.reported
  warned : ∀ sid code message,
    fieldAt Stream.permissionWarning none s.table sid = some (code, message) →
      (sid, .marketDataPermission code message) ∈ s.reported
  heard : ∀ ticker,
    s.quotes.get? ticker = (SnapshotTransport.heardOf s.heard ticker).getLast?
  ended : ∀ id e, s.ended.get? id = some e → e.Justified s

/-- Moreover the snapshots of the transport are those that wait. -/
structure SnapshotInv (s : SnapshotTransport) : Prop extends StreamWaitsInv s where
  paired : ∀ id, s.market.snapshots.get? id = (s.waits.get? id).map SnapshotWait.snapshot

theorem snapshotInv_init : SnapshotInv .init where
  books := booksInv_init
  reqIds := reqIdInv_init
  sharing := sharingInv_init
  own id w hid := by cases hid
  asleep id w hid := by cases hid
  failed id w exc hid := by cases hid
  warned sid code message h := by cases h
  heard _ := rfl
  ended id e h := by cases h
  paired _ := rfl

/-- An L1 stream is requested again with the ticker it has, or with one without a quote. -/
def AnsweredUnquoted (s : SnapshotTransport) : CallbackLabel → Prop
  | .op (.resubscribe _ answers) => ∀ sid ticker, Registered s.table .l1 sid →
      (answers sid).ticker = some ticker →
        tickerOf s.table sid = some ticker ∨ (s.quotes.get? ticker).bind TopQuote.view = none
  | _ => True

/-! ## Operations -/

/-- A stream with a ticker is registered. -/
theorem ReqIdInv.registered_of_ticker {t : StreamTable} (h : ReqIdInv t) {sid ticker : Nat}
    (hticker : tickerOf t sid = some ticker) : ∃ kind, Registered t kind sid := by
  have hsome := h.paired sid
  rw [hticker, Option.isSome_some, eq_comm, Option.isSome_iff_exists] at hsome
  obtain ⟨reqId, hreq⟩ := hsome
  obtain ⟨kind, hlisted⟩ := h.owns sid reqId hreq
  exact ⟨kind, h.registered kind reqId sid hlisted⟩

/-- The stream of a top of book is an L1 stream. -/
theorem SnapshotInv.registered_l1 {s : SnapshotTransport} (h : SnapshotInv s) {id : Nat}
    {w : SnapshotWait} (hid : s.waits.get? id = some w) (htop : w.snapshot.depth = false)
    {kind : StreamKind} (hreg : Registered s.table kind w.snapshot.stream) :
    Registered s.table .l1 w.snapshot.stream := by
  have hsnapshot : s.market.snapshots.get? id = some w.snapshot := by
    rw [h.paired, hid]
    rfl
  have hkind := (h.sharing.snapshots id w.snapshot hsnapshot).2.2 kind hreg
  simp only [Snapshot.kind, htop, Bool.false_eq_true, if_false] at hkind
  rwa [hkind] at hreg

/-- What shows nothing shows nothing after an operation that does not update it. -/
theorem SnapshotInv.readyView_step {cap : Nat} {s : SnapshotTransport} {base : CallbackState}
    {l : CallbackLabel} (h : SnapshotInv s) (hunquoted : AnsweredUnquoted s l)
    (hstep : callbackStep cap s.base.base l = some base) {id : Nat} {w : SnapshotWait}
    (hid : s.waits.get? id = some w) (hother : w.snapshot.stream ∉ updatedStreams s.market l)
    (hnone : readyView s.quotes s.table w.snapshot = none) :
    readyView s.quotes base.market.table w.snapshot = none := by
  have hmove := callbackStep_move hstep
  unfold readyView at hnone ⊢
  split_ifs at hnone ⊢ with hdepth
  · rw [bookView_eq_none] at hnone ⊢
    exact ⟨rowsAt_eq_nil_of_step h.books.keyed hstep hother hnone.1,
      rowsAt_eq_nil_of_step h.books.keyed hstep hother hnone.2⟩
  · cases hticker : tickerOf base.market.table w.snapshot.stream with
    | none => rfl
    | some ticker =>
        by_cases hresub : IsResubscribe l
        · obtain ⟨cancelOld, answers, rfl⟩ := hresub
          obtain ⟨kind, hreg'⟩ :=
            (h.reqIds.move h.books.keyed hmove).inv.registered_of_ticker hticker
          cases hstep
          have hreg := h.registered_l1 hid (Bool.eq_false_of_not_eq_true hdepth)
            (((UseSame.resubscribeAll cancelOld answers s.table).registered kind _).1 hreg')
          have hanswer := tickerOf_resubscribeAll h.books.keyed hreg cancelOld answers
          rw [show tickerOf _ _ = some ticker from hticker] at hanswer
          have hgiven : (answers w.snapshot.stream).ticker = some ticker := by
            unfold answeredTicker at hanswer
            split_ifs at hanswer
            exact hanswer.symm
          rcases hunquoted w.snapshot.stream ticker hreg hgiven with hold | hblank
          · rw [hold] at hnone
            exact hnone
          · exact hblank
        · have hknown : (keyOf s.table w.snapshot.stream).isSome = true := by
            rw [h.own id w hid]
            rfl
          have hold := (noNewTicker_move h.books.keyed hmove hresub hknown).2 ticker hticker
          rw [show tickerOf s.table _ = some ticker from hold] at hnone
          exact hnone

theorem operate_grows {cap : Nat} {s s' : SnapshotTransport} {l : CallbackLabel}
    (h : KeyedInv s.table) (hstep : operate cap s l = some s') : Grows s s' := by
  obtain ⟨base, hbase, rfl⟩ := Option.map_eq_some_iff.1 hstep
  obtain ⟨callbacks, hcallbacks, rfl⟩ := Option.map_eq_some_iff.1 hbase
  refine ⟨fun sid key hkey => ?_, fun entry hentry => ?_⟩
  · exact keyOf_move h (callbackStep_move hcallbacks) hkey
  · simp [hentry]

/-- An operation leaves a wait asleep only if there is nothing to look at. -/
theorem SnapshotInv.operate {cap : Nat} {s s' : SnapshotTransport} {l : CallbackLabel}
    (h : SnapshotInv s) (hunquoted : AnsweredUnquoted s l) (hstep : operate cap s l = some s') :
    StreamWaitsInv s' := by
  have hgrows := operate_grows h.books.keyed hstep
  have hwait := @operate_wait cap s s' l hstep
  obtain ⟨base, hbase, rfl⟩ := Option.map_eq_some_iff.1 hstep
  obtain ⟨callbacks, hcallbacks, rfl⟩ := Option.map_eq_some_iff.1 hbase
  have hmove := callbackStep_move hcallbacks
  refine ⟨h.books.step hbase, (h.reqIds.move h.books.keyed hmove).inv, h.sharing.move hmove,
    fun id w hid => ?_, fun id w hid hpending => ?_, fun id w exc hid hfailed => ?_,
    fun sid code message hwarned => ?_, h.heard, fun id e he => (h.ended id e he).grows hgrows⟩
  · obtain ⟨w₀, future, hw₀, rfl, -⟩ := hwait hid
    exact hgrows.keys _ _ (h.own id w₀ hw₀)
  · obtain ⟨w₀, future, hw₀, rfl, ⟨rfl, hother⟩ | ⟨exc, -, rfl⟩ | rfl⟩ := hwait hid
    · exact h.readyView_step hunquoted hcallbacks hw₀ (hother hpending)
        (h.asleep id w₀ hw₀ hpending)
    · cases hpending
    · cases hpending
  · obtain ⟨w₀, future, hw₀, rfl, ⟨rfl, -⟩ | ⟨exc', hhard, rfl⟩ | rfl⟩ := hwait hid
    · exact hgrows.reported (h.failed id w₀ exc hw₀ hfailed)
    · cases hfailed
      simp [hhard]
    · cases hfailed
  · rcases warning_move h.books.keyed hmove hwarned with hold | hsoft
    · exact hgrows.reported (h.warned sid code message hold)
    · have hsoft' : softFailure s.table l = some (sid, .marketDataPermission code message) := hsoft
      simp [hsoft']

/-! ## Waits that change -/

theorem StreamWaitsInv.setWait {s : SnapshotTransport} (h : StreamWaitsInv s) {id : Nat}
    {w : SnapshotWait} (hown : keyOf s.table w.snapshot.stream = some (streamKey w.contract))
    (hasleep : w.future = .pending → readyView s.quotes s.table w.snapshot = none)
    (hfailed : ∀ exc, w.future ≠ .failed exc) : StreamWaitsInv (setWait s id w) where
  books := h.books
  reqIds := h.reqIds
  sharing := h.sharing
  own := Dict.forall_get?_set h.own hown
  asleep := Dict.forall_get?_set h.asleep hasleep
  failed id' w' exc hid' := by
    intro hw'
    have hold : ∀ id w, s.waits.get? id = some w → w.future = .failed exc →
        (w.snapshot.stream, exc) ∈ s.reported := fun id w hid => h.failed id w exc hid
    exact Dict.forall_get?_set hold (fun hw => absurd hw (hfailed exc)) id' w' hid' hw'
  warned := h.warned
  heard := h.heard
  ended id e he := (h.ended id e he).grows ⟨fun _ _ hkey => hkey, .refl _⟩

theorem SnapshotInv.setWait {s : SnapshotTransport} (h : StreamWaitsInv s) {id : Nat}
    {w : SnapshotWait} (hpaired : ∀ id', s.market.snapshots.get? id' =
      ((s.waits.set id w).get? id').map SnapshotWait.snapshot)
    (hown : keyOf s.table w.snapshot.stream = some (streamKey w.contract))
    (hasleep : w.future = .pending → readyView s.quotes s.table w.snapshot = none)
    (hfailed : ∀ exc, w.future ≠ .failed exc) : SnapshotInv (Ib.setWait s id w) :=
  ⟨h.setWait hown hasleep hfailed, hpaired⟩

/-- A wait of which only the future changes. -/
theorem SnapshotInv.paired_set {s : SnapshotTransport} (h : SnapshotInv s) {id : Nat}
    {w : SnapshotWait} (hid : s.waits.get? id = some w) (future : WakeFuture) (id' : Nat) :
    s.market.snapshots.get? id' =
      ((s.waits.set id { w with future := future }).get? id').map SnapshotWait.snapshot := by
  rw [h.paired, Dict.get?_set]
  split_ifs with heq
  · rw [heq, hid]
    rfl
  · rfl

theorem SnapshotInv.interrupt {s s' : SnapshotTransport} (h : SnapshotInv s) {id : Nat}
    {future : WakeFuture} (hfuture : future = .awake ∨ future = .cancelled)
    (hstep : interruptWait s id future = some s') : SnapshotInv s' := by
  obtain ⟨w, hid, rfl⟩ := Option.map_eq_some_iff.1 hstep
  split_ifs
  · exact h
  · apply SnapshotInv.setWait h.toStreamWaitsInv (h.paired_set hid future) (h.own id w hid)
    · rintro hpending
      rcases hfuture with rfl | rfl <;> cases hpending
    · rintro exc hfailed
      rcases hfuture with rfl | rfl <;> cases hfailed

theorem snapshots_endSnapshot (s : MarketData) (id : Nat) (snapshot : Snapshot) (timedOut : Bool) :
    (endSnapshot s id snapshot timedOut).snapshots = s.snapshots.pop id := by
  have hdrop : (dropAtDeadline (leaveSnapshot s id snapshot) snapshot timedOut).snapshots =
      s.snapshots.pop id := by
    rcases dropAtDeadline_eq (leaveSnapshot s id snapshot) snapshot timedOut with heq | heq
    · rw [heq]
      rfl
    · rw [heq, dropRegistered_eq]
      rfl
  unfold endSnapshot
  dsimp only
  split_ifs
  · exact hdrop
  · exact hdrop

theorem StreamWaitsInv.endWait {s : SnapshotTransport} (h : StreamWaitsInv s) (id : Nat)
    {e : EndedSnapshot} (he : e.Justified s) : StreamWaitsInv (endWait s id e) where
  books := h.books
  reqIds := h.reqIds
  sharing := h.sharing
  own id' w hid' := h.own id' w (Dict.get?_of_pop hid')
  asleep id' w hid' := h.asleep id' w (Dict.get?_of_pop hid')
  failed id' w exc hid' := h.failed id' w exc (Dict.get?_of_pop hid')
  warned := h.warned
  heard := h.heard
  ended := by
    have hsame : Grows s (Ib.endWait s id e) := ⟨fun _ _ hkey => hkey, .refl _⟩
    exact Dict.forall_get?_set (fun id' e' he' => (h.ended id' e' he').grows hsame)
      (he.grows hsame)

/-- An operation leaves every wait on its stream. -/
theorem map_snapshot_operate {cap : Nat} {s s' : SnapshotTransport} {l : CallbackLabel}
    (hstep : operate cap s l = some s') (id : Nat) :
    (s'.waits.get? id).map SnapshotWait.snapshot =
      (s.waits.get? id).map SnapshotWait.snapshot := by
  obtain ⟨base, -, rfl⟩ := Option.map_eq_some_iff.1 hstep
  unfold failWaits
  rw [map_snapshot_settleWaits]
  split
  · exact map_snapshot_settleWaits _ _ _ id
  · rfl

/-- A snapshot that is over is known to be justified, and is not waited for any more. -/
theorem SnapshotInv.finish {s : SnapshotTransport} (h : SnapshotInv s) {id : Nat}
    {w : SnapshotWait} (hid : s.waits.get? id = some w) (cap : Nat) (timedOut : Bool)
    {result : SnapshotResult}
    (hjustified : (s.endsAs w result).Justified s) :
    ∃ s', finishSnapshot cap s id w timedOut result = some s' ∧ SnapshotInv s' ∧
      s'.waits.get? id = none ∧ s'.ended.get? id = some (s.endsAs w result) := by
  have hsnapshot : s.base.base.market.snapshots.get? id = some w.snapshot := by
    have hpaired := h.paired id
    rwa [hid] at hpaired
  obtain ⟨s₁, hstep, hmarket⟩ : ∃ s₁, Ib.operate cap s (.op (.snapshotEnds id timedOut)) =
      some s₁ ∧ s₁.market = endSnapshot s.market id w.snapshot timedOut := by
    simp [Ib.operate, tracedStep, callbackStep, opStep, streamStep, hsnapshot,
      SnapshotTransport.market]
  have hinv := h.operate (l := .op (.snapshotEnds id timedOut)) trivial hstep
  refine ⟨endWait s₁ id _, by rw [finishSnapshot, hstep]; rfl, ⟨hinv.endWait id
    (hjustified.grows (operate_grows h.books.keyed hstep)), fun id' => ?_⟩,
    Dict.get?_pop_self _ _, Dict.get?_set_self _ _ _⟩
  have hpopped : s₁.market.snapshots.get? id' = if id' = id then none else
      s.market.snapshots.get? id' := by
    rw [hmarket, snapshots_endSnapshot, Dict.get?_pop]
  rw [show SnapshotTransport.market (endWait s₁ id _) = s₁.market from rfl, hpopped, endWait,
    Dict.get?_pop]
  split_ifs
  · rfl
  · rw [map_snapshot_operate hstep, h.paired]

/-! ## Looking -/

theorem TopQuote.view_eq_some {quote : TopQuote} {view : MarketView}
    (h : quote.view = some view) : ∃ bid ask, quote = ⟨some bid, some ask⟩ ∧ 0 < bid.value ∧
      0 < ask.value ∧ view = .top bid ask := by
  obtain ⟨b, a⟩ := quote
  unfold TopQuote.view at h
  split at h
  · rename_i bid ask hbid hask
    split_ifs at h with hpositive
    cases h
    cases hbid
    cases hask
    exact ⟨bid, ask, rfl, hpositive.1, hpositive.2, rfl⟩
  · cases h

/-- What a snapshot sees: the rows of a book, or a quote. -/
theorem readyView_eq_some {quotes : Dict Nat TopQuote} {t : StreamTable} {snapshot : Snapshot}
    {view : MarketView} (h : readyView quotes t snapshot = some view) :
    (snapshot.depth = true ∧ ∃ bids asks, view = .book bids asks ∧
        bids = rowsAt t snapshot.stream .bids ∧ asks = rowsAt t snapshot.stream .asks ∧
        (bids ≠ [] ∨ asks ≠ [])) ∨
      (snapshot.depth = false ∧ ∃ ticker bid ask, view = .top bid ask ∧
        tickerOf t snapshot.stream = some ticker ∧
        quotes.get? ticker = some ⟨some bid, some ask⟩ ∧ 0 < bid.value ∧ 0 < ask.value) := by
  unfold readyView at h
  split_ifs at h with hdepth
  · left
    unfold bookView at h
    split_ifs at h with hempty
    cases h
    refine ⟨hdepth, _, _, rfl, rfl, rfl, ?_⟩
    simpa [Decidable.not_and_iff_or_not, -not_and] using hempty
  · right
    obtain ⟨quote, hquote, hview⟩ := Option.bind_eq_some_iff.1 h
    obtain ⟨ticker, hticker, hquote⟩ := Option.bind_eq_some_iff.1 hquote
    obtain ⟨bid, ask, rfl, hbid, hask, rfl⟩ := TopQuote.view_eq_some hview
    exact ⟨Bool.eq_false_of_not_eq_true hdepth, ticker, bid, ask, rfl, hticker, hquote, hbid, hask⟩

/-- What a snapshot sees justifies that it returns it. -/
theorem SnapshotInv.justified_view {s : SnapshotTransport} (h : SnapshotInv s) {id : Nat}
    {w : SnapshotWait} (hid : s.waits.get? id = some w) {view : MarketView}
    (hview : readyView s.quotes s.table w.snapshot = some view) :
    (s.endsAs w (.returned view)).Justified s where
  own := h.own id w hid
  top := by
    rintro bid ask ⟨⟩
    rcases readyView_eq_some hview with ⟨-, _, _, hbook, -⟩ |
      ⟨htop, ticker, _, _, ⟨⟩, hticker, hquote, hpos⟩
    · cases hbook
    · refine ⟨htop, hpos.1, hpos.2, ?_⟩
      simp only [SnapshotTransport.endsAs, SnapshotTransport.quotesOf, hticker]
      rw [← h.heard, hquote]
  book := by
    rintro bids asks ⟨⟩
    rcases readyView_eq_some hview with ⟨hdepth, _, _, ⟨⟩, hbids, hasks, hrows⟩ |
      ⟨-, _, _, _, htop, -⟩
    · have hmade : ∀ side, RefinesReference side (s.base.since w.snapshot.stream)
          (rowsAt s.table w.snapshot.stream side) := by
        intro side
        rw [show rowsAt s.table _ side = _ from h.books.rows w.snapshot.stream side]
        exact refinesReference side _
      exact ⟨hdepth, hrows, hbids ▸ hmade .bids, hasks ▸ hmade .asks⟩
    · cases htop
  raised := by
    rintro exc ⟨⟩
  timedOut := by
    rintro ⟨⟩

/-- A snapshot that looks returns what it sees, waits, or is at its deadline. -/
theorem SnapshotInv.look {s : SnapshotTransport} (h : SnapshotInv s) {id : Nat}
    {w : SnapshotWait} (hid : s.waits.get? id = some w) (cap : Nat) :
    ∃ s', look cap s id w = some s' ∧ SnapshotInv s' ∧
      ((∃ result, s'.waits.get? id = none ∧ s'.ended.get? id = some (s.endsAs w result) ∧
          ∀ view, readyView s.quotes s.table w.snapshot = some view →
            result = .returned view) ∨
        (s'.waits.get? id = some { w with future := .pending } ∧
          readyView s.quotes s.table w.snapshot = none ∧ s.now < w.deadline)) := by
  unfold Ib.look
  cases hview : readyView s.quotes s.table w.snapshot with
  | some view =>
      obtain ⟨s', hs', hinv, hleft, hended⟩ :=
        h.finish hid cap false (h.justified_view hid hview)
      refine ⟨s', hs', hinv, Or.inl ⟨_, hleft, hended, ?_⟩⟩
      rintro view' ⟨⟩
      rfl
  | none =>
      by_cases hearly : s.now < w.deadline
      · refine ⟨_, if_pos hearly, ?_, Or.inr ⟨Dict.get?_set_self _ _ _, rfl, hearly⟩⟩
        exact SnapshotInv.setWait h.toStreamWaitsInv (h.paired_set hid .pending) (h.own id w hid)
          (fun _ => hview) (fun exc hfailed => by cases hfailed)
      · simp only [if_neg hearly]
        cases hwarning : fieldAt Stream.permissionWarning none s.table w.snapshot.stream with
        | some warning =>
            obtain ⟨code, message⟩ := warning
            have hjustified :
                (s.endsAs w (.raised (.marketDataPermission code message))).Justified s := by
              refine ⟨h.own id w hid, by rintro _ _ ⟨⟩, by rintro _ _ ⟨⟩, ?_, by rintro ⟨⟩⟩
              rintro exc ⟨⟩
              exact h.warned _ code message hwarning
            obtain ⟨s', hs', hinv, hleft, hended⟩ := h.finish hid cap true hjustified
            exact ⟨s', hs', hinv, Or.inl ⟨_, hleft, hended, by rintro _ ⟨⟩⟩⟩
        | none =>
            have hjustified : (s.endsAs w .timedOut).Justified s :=
              ⟨h.own id w hid, by rintro _ _ ⟨⟩, by rintro _ _ ⟨⟩, by rintro _ ⟨⟩,
                fun _ => not_lt.1 hearly⟩
            obtain ⟨s', hs', hinv, hleft, hended⟩ := h.finish hid cap true hjustified
            exact ⟨s', hs', hinv, Or.inl ⟨_, hleft, hended, by rintro _ ⟨⟩⟩⟩

/-- The task of a snapshot goes on: the snapshot ends, or it has seen nothing and waits on. -/
theorem SnapshotInv.resume {s : SnapshotTransport} (h : SnapshotInv s) {id : Nat}
    {w : SnapshotWait} (hid : s.waits.get? id = some w) (cap : Nat)
    (hdone : w.future ≠ .pending) :
    ∃ s', resumeWait cap s id w = some s' ∧ SnapshotInv s' ∧
      ((∃ result, s'.waits.get? id = none ∧ s'.ended.get? id = some (s.endsAs w result) ∧
          ∀ view, w.future = .awake → readyView s.quotes s.table w.snapshot = some view →
            result = .returned view) ∨
        (w.future = .awake ∧ readyView s.quotes s.table w.snapshot = none ∧
          s.now < w.deadline)) := by
  unfold resumeWait
  cases hfuture : w.future with
  | pending => exact absurd hfuture hdone
  | awake =>
      obtain ⟨s', hs', hinv, ⟨result, hleft, hended, hresult⟩ | ⟨-, hwaits⟩⟩ := h.look hid cap
      · exact ⟨s', hs', hinv, Or.inl ⟨result, hleft, hended, fun view _ => hresult view⟩⟩
      · exact ⟨s', hs', hinv, Or.inr ⟨rfl, hwaits⟩⟩
  | failed exc =>
      have hjustified : (s.endsAs w (.raised exc)).Justified s := by
        refine ⟨h.own id w hid, by rintro _ _ ⟨⟩, by rintro _ _ ⟨⟩, ?_, by rintro ⟨⟩⟩
        rintro exc' ⟨⟩
        exact h.failed id w exc hid hfuture
      obtain ⟨s', hs', hinv, hleft, hended⟩ := h.finish hid cap false hjustified
      exact ⟨s', hs', hinv, Or.inl ⟨_, hleft, hended, by rintro _ ⟨⟩⟩⟩
  | cancelled =>
      have hjustified : (s.endsAs w .cancelled).Justified s :=
        ⟨h.own id w hid, by rintro _ _ ⟨⟩, by rintro _ _ ⟨⟩, by rintro _ ⟨⟩, by rintro ⟨⟩⟩
      obtain ⟨s', hs', hinv, hleft, hended⟩ := h.finish hid cap false hjustified
      exact ⟨s', hs', hinv, Or.inl ⟨_, hleft, hended, by rintro _ ⟨⟩⟩⟩

/-! ## Beginning -/

/-- A stream is found or opened unless something is raised. -/
theorem findOrOpen_isSome (cap : Nat) (t : StreamTable) (depth : Bool) (contract : Contract)
    (ticker : Option Nat) :
    (findOrOpen cap t (if depth then .depth else .l1) contract ticker).2.isSome = true ↔
      beginError cap t depth contract ticker = none := by
  unfold findOrOpen beginError
  generalize (if depth then StreamKind.depth else .l1) = kind
  cases (t.registry kind).get? (streamKey contract) with
  | some sid => simp
  | none =>
      simp only [openStream_eq]
      by_cases hfull : (cap : Int) ≤ t.mdLines
      · simp [hfull]
      · cases ticker <;> simp [hfull]

/-- A snapshot that has no stream is not begun; one that has waits on the stream of its
contract. -/
theorem startSnapshot_cases {cap : Nat} {s : MarketData} {depth : Bool} {contract : Contract}
    {ticker : Option Nat} (h : KeyedInv (startSnapshot cap s depth contract ticker).table) :
    (beginError cap s.table depth contract ticker ≠ none ∧
        (startSnapshot cap s depth contract ticker).snapshots = s.snapshots) ∨
      (beginError cap s.table depth contract ticker = none ∧
        ∃ sid, (startSnapshot cap s depth contract ticker).snapshots =
            s.snapshots.set s.nextSnapshot ⟨sid, depth⟩ ∧
          keyOf (startSnapshot cap s depth contract ticker).table sid =
            some (streamKey contract)) := by
  have hfound : (if depth then acquireDepth cap s.table contract ticker
      else findOrOpen cap s.table .l1 contract ticker).2 =
        (findOrOpen cap s.table (if depth then .depth else .l1) contract ticker).2 := by
    cases depth with
    | true => exact (acquire_touched cap s.table .depth contract ticker).2
    | false => rfl
  have hraised := findOrOpen_isSome cap s.table depth contract ticker
  rw [← hfound] at hraised
  unfold startSnapshot at h ⊢
  dsimp only at h ⊢
  rcases hopened : (if depth then acquireDepth cap s.table contract ticker
      else findOrOpen cap s.table .l1 contract ticker) with ⟨table, none | sid⟩
  · rw [hopened] at hraised
    exact Or.inl ⟨fun hnone => by simpa using hraised.2 hnone, rfl⟩
  · rw [hopened] at h hraised
    refine Or.inr ⟨hraised.1 rfl, sid, rfl,
      h.registered (if depth then .depth else .l1) _ sid ?_⟩
    rw [registry_updateStream]
    cases depth with
    | true => exact @acquire_key _ _ _ .depth _ _ _ hopened
    | false => exact findOrOpen_key hopened

/-- A snapshot waits or is over, if it has raised nothing; otherwise there is none. -/
structure Begun (cap : Nat) (s s' : SnapshotTransport) (depth : Bool) (contract : Contract)
    (ticker : Option Nat) : Prop where
  starts : beginError cap s.table depth contract ticker = none →
    (∃ w, s'.waits.get? s.market.nextSnapshot = some w ∧ w.contract = contract ∧
        w.snapshot.depth = depth) ∨
      ∃ e, s'.ended.get? s.market.nextSnapshot = some e ∧ e.contract = contract ∧
        e.snapshot.depth = depth
  raises : ∀ exc, beginError cap s.table depth contract ticker = some exc →
    s'.ended = s.ended ∧ ∀ id, (s'.waits.get? id).isSome = true → (s.waits.get? id).isSome = true

/-- The next snapshot is none of those under way. -/
theorem SnapshotInv.get?_nextSnapshot {s : SnapshotTransport} (h : SnapshotInv s) :
    s.market.snapshots.get? s.market.nextSnapshot = none := by
  cases hnext : s.market.snapshots.get? s.market.nextSnapshot with
  | none => rfl
  | some snapshot => exact absurd (h.sharing.snapshots _ _ hnext).1 (Nat.lt_irrefl _)

/-- Who waits after an operation has waited before it. -/
theorem isSome_waits_operate {cap : Nat} {s s' : SnapshotTransport} {l : CallbackLabel}
    (hstep : operate cap s l = some s') (id : Nat) :
    (s'.waits.get? id).isSome = (s.waits.get? id).isSome := by
  have hmapped := congrArg Option.isSome (map_snapshot_operate hstep id)
  rwa [Option.isSome_map, Option.isSome_map] at hmapped

theorem SnapshotInv.begin {cap : Nat} {timeout : ℚ} {s s' : SnapshotTransport} (h : SnapshotInv s)
    {depth : Bool} {contract : Contract} {ticker : Option Nat}
    (hstep : beginSnapshot cap timeout s depth contract ticker = some s') :
    SnapshotInv s' ∧ Begun cap s s' depth contract ticker := by
  obtain ⟨s₁, hop, hlook⟩ := Option.bind_eq_some_iff.1 hstep
  have hinv : StreamWaitsInv s₁ := by
    refine h.operate ?_ hop
    cases depth <;> trivial
  have hmarket : s₁.market = startSnapshot cap s.market depth contract ticker := by
    cases depth <;> cases hop <;> rfl
  have hended : s₁.ended = s.ended := by
    cases depth <;> cases hop <;> rfl
  have hpaired : ∀ id, (s₁.waits.get? id).map SnapshotWait.snapshot =
      s.market.snapshots.get? id := by
    intro id
    rw [map_snapshot_operate hop, h.paired]
  have hkeyed := hinv.books.keyed
  rw [show s₁.base.base.market = _ from hmarket] at hkeyed
  rcases startSnapshot_cases hkeyed with ⟨hraised, hsame⟩ | ⟨hstarts, sid, hset, hkey⟩
  · rw [hmarket, hsame, h.get?_nextSnapshot] at hlook
    cases hlook
    refine ⟨⟨hinv, fun id => ?_⟩, fun hnone => absurd hnone hraised, fun exc _ =>
      ⟨hended, fun id hsome => ?_⟩⟩
    · rw [hpaired, hmarket, hsame]
    · rwa [← isSome_waits_operate hop]
  · rw [hmarket, hset, Dict.get?_set_self] at hlook
    rw [← hmarket] at hkey
    have hwait : SnapshotInv (Ib.setWait s₁ s.market.nextSnapshot
        ⟨contract, ⟨sid, depth⟩, s.now + timeout, .awake⟩) := by
      refine SnapshotInv.setWait hinv (fun id => ?_) hkey (by rintro ⟨⟩) (by rintro _ ⟨⟩)
      rw [hmarket, hset, Dict.get?_set, Dict.get?_set]
      split_ifs
      · rfl
      · rw [hpaired]
    obtain ⟨s₂, hs₂, hinv₂, hdone⟩ := hwait.look (Dict.get?_set_self _ _ _) cap
    cases hs₂.symm.trans hlook
    refine ⟨hinv₂, fun _ => ?_, fun exc hexc => ?_⟩
    · rcases hdone with ⟨result, -, hover, -⟩ | ⟨hwaits, -⟩
      · exact Or.inr ⟨_, hover, rfl, rfl⟩
      · exact Or.inl ⟨_, hwaits, rfl, rfl⟩
    · rw [show beginError cap s.table depth contract ticker = none from hstarts] at hexc
      cases hexc

/-! ## Quotes -/

theorem SnapshotTransport.heardOf_append (heard : List (Nat × TopQuote)) (ticker : Nat)
    (quote : TopQuote) (ticker' : Nat) :
    heardOf (heard ++ [(ticker, quote)]) ticker' =
      heardOf heard ticker' ++ if ticker = ticker' then [quote] else [] := by
  unfold heardOf
  rw [List.filter_append, List.map_append]
  split_ifs with hsame <;> simp [hsame]

/-- The hook of an L1 stream is attached to its ticker. -/
theorem SnapshotInv.mem_hookedStreams {s : SnapshotTransport} (h : SnapshotInv s) {id : Nat}
    {w : SnapshotWait} (hid : s.waits.get? id = some w) (htop : w.snapshot.depth = false)
    {ticker : Nat} (hticker : tickerOf s.table w.snapshot.stream = some ticker) :
    w.snapshot.stream ∈ hookedStreams s.table ticker := by
  obtain ⟨kind, hreg⟩ := h.reqIds.registered_of_ticker hticker
  have hl1 := (isRegistered_iff h.books.keyed).2 (h.registered_l1 hid htop hreg)
  have hcount := h.reqIds.hooks ticker w.snapshot.stream
  rw [if_pos hticker] at hcount
  have hhook : (ticker, w.snapshot.stream) ∈ s.table.hooks := List.count_pos_iff.1 (by omega)
  refine List.mem_map.2 ⟨_, List.mem_filter.2 ⟨hhook, ?_⟩, rfl⟩
  rw [decide_eq_true rfl, Bool.true_and]
  exact hl1

theorem readyView_set {t : StreamTable} {snapshot : Snapshot} {ticker : Nat}
    (hother : snapshot.depth = false → tickerOf t snapshot.stream ≠ some ticker)
    (quotes : Dict Nat TopQuote) (quote : TopQuote) :
    readyView (quotes.set ticker quote) t snapshot = readyView quotes t snapshot := by
  unfold readyView
  split_ifs with hdepth
  · rfl
  · cases hticker : tickerOf t snapshot.stream with
    | none => rfl
    | some ticker' =>
        have hne : ticker' ≠ ticker := by
          rintro rfl
          exact hother (Bool.eq_false_of_not_eq_true hdepth) hticker
        rw [Option.bind_some, Option.bind_some, Dict.get?_set_of_ne _ hne]

/-- A quote wakes the tops of book that can see it. -/
theorem SnapshotInv.hearQuote {s : SnapshotTransport} (h : SnapshotInv s) (ticker : Nat)
    (quote : TopQuote) : SnapshotInv (hearQuote s ticker quote) := by
  refine ⟨⟨h.books, h.reqIds, h.sharing, fun id w hid => ?_, fun id w hid hpending => ?_,
    fun id w exc hid hfailed => ?_, h.warned, fun ticker' => ?_, fun id e he => ?_⟩,
    fun id => ?_⟩
  · obtain ⟨w₀, hw₀, ⟨rfl, -⟩ | ⟨rfl, -⟩⟩ := get?_settleWaits hid
    · exact h.own id w hw₀
    · exact h.own id w₀ hw₀
  · obtain ⟨w₀, hw₀, ⟨rfl, hother⟩ | ⟨rfl, -⟩⟩ := get?_settleWaits hid
    · refine (readyView_set (fun htop hticker => ?_) s.quotes quote).trans
        (h.asleep id w hw₀ hpending)
      exact hother hpending (h.mem_hookedStreams hw₀ htop hticker)
    · cases hpending
  · obtain ⟨w₀, hw₀, ⟨rfl, -⟩ | ⟨rfl, -⟩⟩ := get?_settleWaits hid
    · exact h.failed id w exc hw₀ hfailed
    · cases hfailed
  · rw [show (Ib.hearQuote s ticker quote).quotes = s.quotes.set ticker quote from rfl,
      show (Ib.hearQuote s ticker quote).heard = s.heard ++ [(ticker, quote)] from rfl,
      Dict.get?_set, SnapshotTransport.heardOf_append]
    split_ifs with hsame hother hother
    · rw [List.getLast?_concat]
    · exact absurd hsame.symm hother
    · exact absurd hother.symm hsame
    · rw [List.append_nil]
      exact h.heard ticker'
  · exact (h.ended id e he).grows ⟨fun _ _ hkey => hkey, .refl _⟩
  · rw [Ib.hearQuote, map_snapshot_settleWaits]
    exact h.paired id

/-! ## Steps -/

/-- What is asked of resubscribes: ib_async keeps the ticker of a contract, or makes one that
has no quote yet. -/
def ResubscribesUnquoted (s : SnapshotTransport) : SnapshotLabel → Prop
  | .operates l => AnsweredUnquoted s l
  | _ => True

theorem SnapshotInv.step {cap : Nat} {timeout : ℚ} {s s' : SnapshotTransport} {l : SnapshotLabel}
    (h : SnapshotInv s) (hunquoted : ResubscribesUnquoted s l)
    (hstep : snapshotStep cap timeout s l = some s') : SnapshotInv s' := by
  cases l with
  | operates l =>
      simp only [snapshotStep] at hstep
      split_ifs at hstep with hother
      refine ⟨h.operate hunquoted hstep, fun id => ?_⟩
      rw [map_snapshot_operate hstep, ← h.paired]
      obtain ⟨base, hbase, rfl⟩ := Option.map_eq_some_iff.1 hstep
      obtain ⟨callbacks, hcallbacks, rfl⟩ := Option.map_eq_some_iff.1 hbase
      have hsame := snapshots_move (callbackStep_move hcallbacks)
        (Bool.eq_false_of_not_eq_true hother)
      exact congrArg (·.get? id) hsame
  | begins depth contract ticker => exact (h.begin hstep).1
  | quotes ticker quote =>
      cases hstep
      exact h.hearQuote ticker quote
  | deadline id => exact h.interrupt (Or.inl rfl) hstep
  | cancels id => exact h.interrupt (Or.inr rfl) hstep
  | resumes id =>
      obtain ⟨w, hid, hresume⟩ := Option.bind_eq_some_iff.1 hstep
      have hdone : w.future ≠ .pending := by
        intro hpending
        rw [resumeWait, hpending] at hresume
        cases hresume
      obtain ⟨s₁, hs₁, hinv, -⟩ := h.resume hid cap hdone
      cases hs₁.symm.trans hresume
      exact hinv
  | elapses d =>
      simp only [snapshotStep] at hstep
      split_ifs at hstep
      cases hstep
      exact ⟨⟨h.books, h.reqIds, h.sharing, h.own, h.asleep, h.failed, h.warned, h.heard,
        fun id e he => (h.ended id e he).grows ⟨fun _ _ hkey => hkey, .refl _⟩⟩,
        h.paired⟩

/-! ## Every run -/

/-- The run ends the snapshot with the result. -/
def EndsWith (spec : IbConnectionSpec) (timeout : ℚ) (s : SnapshotTransport) (id : Nat)
    (ls : List SnapshotLabel) (result : SnapshotResult) : Prop :=
  ∃ s' e, (snapshotMachine spec timeout).run s ls = some s' ∧ s'.waits.get? id = none ∧
    s'.ended.get? id = some e ∧ e.result = result

/-- A snapshot that raises nothing when it begins is under way.  None sleeps while its stream
shows data, and the next turn of one that is awake returns them.  A hard error reaches every
snapshot that sleeps on its stream.  At its deadline a snapshot is over after two more turns, of
the timer and of its task; and what is over is justified. -/
structure SnapshotsServed (spec : IbConnectionSpec) (timeout : ℚ) (s : SnapshotTransport) :
    Prop where
  begins : ∀ depth contract ticker s',
    (snapshotMachine spec timeout).step s (.begins depth contract ticker) = some s' →
      Begun spec.marketDataLines s s' depth contract ticker
  awake : ∀ id w view, s.waits.get? id = some w →
    readyView s.quotes s.table w.snapshot = some view → w.future ≠ .pending
  served : ∀ id w view, s.waits.get? id = some w → w.future = .awake →
    readyView s.quotes s.table w.snapshot = some view →
      EndsWith spec timeout s id [.resumes id] (.returned view)
  fails : ∀ reqId code message sid exc s',
    hardFailure s.table (.op (.streamError reqId code message)) = some (sid, exc) →
    (snapshotMachine spec timeout).step s (.operates (.op (.streamError reqId code message))) =
      some s' →
    ∀ id w, s.waits.get? id = some w → w.snapshot.stream = sid → w.future = .pending →
      s'.waits.get? id = some { w with future := .failed exc }
  bounded : ∀ id w, s.waits.get? id = some w → w.deadline ≤ s.now →
    ∃ result, EndsWith spec timeout s id [.deadline id, .resumes id] result
  ended : ∀ id e, s.ended.get? id = some e → e.Justified s

theorem resumes_eq {spec : IbConnectionSpec} {timeout : ℚ} {s : SnapshotTransport} {id : Nat}
    {w : SnapshotWait} (hid : s.waits.get? id = some w) :
    (snapshotMachine spec timeout).step s (.resumes id) =
      resumeWait spec.marketDataLines s id w := by
  simp [snapshotMachine, snapshotStep, hid]

theorem SnapshotInv.served {s : SnapshotTransport} (h : SnapshotInv s) (spec : IbConnectionSpec)
    (timeout : ℚ) {id : Nat} {w : SnapshotWait} {view : MarketView}
    (hid : s.waits.get? id = some w) (hawake : w.future = .awake)
    (hview : readyView s.quotes s.table w.snapshot = some view) :
    EndsWith spec timeout s id [.resumes id] (.returned view) := by
  have hdone : w.future ≠ .pending := by
    rw [hawake]
    exact WakeFuture.noConfusion
  obtain ⟨s', hs', -, ⟨result, hleft, hended, hresult⟩ | ⟨-, hnone, -⟩⟩ :=
    h.resume hid spec.marketDataLines hdone
  · refine ⟨s', _, ?_, hleft, hended, hresult view hawake hview⟩
    rw [Machine.run_cons_eq_some]
    exact ⟨s', (resumes_eq hid).trans hs', rfl⟩
  · rw [hview] at hnone
    cases hnone

theorem SnapshotInv.bounded {s : SnapshotTransport} (h : SnapshotInv s) (spec : IbConnectionSpec)
    (timeout : ℚ) {id : Nat} {w : SnapshotWait} (hid : s.waits.get? id = some w)
    (hlate : w.deadline ≤ s.now) :
    ∃ result, EndsWith spec timeout s id [.deadline id, .resumes id] result := by
  -- the timer leaves a wait that is done, with the same deadline
  obtain ⟨s₁, w₁, hs₁, hid₁, hdone, hdeadline, hnow⟩ : ∃ s₁ w₁,
      interruptWait s id .awake = some s₁ ∧ s₁.waits.get? id = some w₁ ∧
        w₁.future ≠ .pending ∧ w₁.deadline = w.deadline ∧ s₁.now = s.now := by
    by_cases hcancelled : w.future = .cancelled
    · exact ⟨s, w, by simp [interruptWait, hid, hcancelled], hid, by simp [hcancelled], rfl, rfl⟩
    · exact ⟨Ib.setWait s id { w with future := .awake }, { w with future := .awake },
        by simp [interruptWait, hid, hcancelled], Dict.get?_set_self _ _ _,
        WakeFuture.noConfusion, rfl, rfl⟩
  have h₁ := h.interrupt (Or.inl rfl) hs₁
  obtain ⟨s', hs', -, ⟨result, hleft, hended, -⟩ | ⟨-, -, hearly⟩⟩ :=
    h₁.resume hid₁ spec.marketDataLines hdone
  · refine ⟨result, s', _, ?_, hleft, hended, rfl⟩
    rw [Machine.run_cons_eq_some]
    refine ⟨s₁, hs₁, ?_⟩
    rw [Machine.run_cons_eq_some]
    exact ⟨s', (resumes_eq hid₁).trans hs', rfl⟩
  · rw [hdeadline, hnow] at hearly
    exact absurd hearly (not_lt.2 hlate)

/-- An error fails what sleeps on its stream, before the drop of the stream can wake it. -/
theorem fails_of_operate {cap : Nat} {s s' : SnapshotTransport} {l : CallbackLabel} {sid : Nat}
    {exc : StreamError} (hhard : hardFailure s.table l = some (sid, exc))
    (hstep : operate cap s l = some s') {id : Nat} {w : SnapshotWait}
    (hid : s.waits.get? id = some w) (hsid : w.snapshot.stream = sid)
    (hpending : w.future = .pending) :
    s'.waits.get? id = some { w with future := .failed exc } := by
  obtain ⟨base, -, rfl⟩ := Option.map_eq_some_iff.1 hstep
  simp [settleWaits, failWaits, hhard, hid, hsid, hpending]

theorem SnapshotInv.snapshotsServed {s : SnapshotTransport} (h : SnapshotInv s)
    (spec : IbConnectionSpec) (timeout : ℚ) : SnapshotsServed spec timeout s where
  begins _ _ _ _ hstep := (h.begin hstep).2
  awake id w view hid hview hpending := by
    rw [h.asleep id w hid hpending] at hview
    cases hview
  served _ _ _ := h.served spec timeout
  fails reqId code message sid exc s' hhard hstep id w :=
    fails_of_operate hhard hstep
  bounded _ _ := h.bounded spec timeout
  ended := h.ended

/-- Any number of `top_of_book` and `depth_snapshot` calls share their streams with each other
and with subscriptions: in every run in which a resubscribe brings no ticker that is quoted
already, a call raises at once exactly when its stream is not open and there is no line for it, or
the request raises; no call sleeps while its stream shows data, each is over at its deadline at
the latest, and each ends with what the stream of its own contract showed last, with an error that
IB reported of this stream, or at its deadline. -/
theorem snapshots_served (spec : IbConnectionSpec) (timeout : ℚ) (ls : List SnapshotLabel)
    (hunquoted : (snapshotMachine spec timeout).AllSteps ResubscribesUnquoted .init ls) :
    (snapshotMachine spec timeout).AllStates (SnapshotsServed spec timeout) .init ls :=
  Machine.allStates_of_allSteps _
    (fun _ _ _ h hunquoted hstep => SnapshotInv.step h hunquoted hstep)
    (fun _ h => h.snapshotsServed spec timeout) snapshotInv_init hunquoted

theorem quotes_operate {cap : Nat} {s s' : SnapshotTransport} {l : CallbackLabel}
    (hstep : operate cap s l = some s') : s'.quotes = s.quotes := by
  obtain ⟨base, -, rfl⟩ := Option.map_eq_some_iff.1 hstep
  rfl

theorem quotes_finishSnapshot {cap : Nat} {s s' : SnapshotTransport} {id : Nat}
    {w : SnapshotWait} {timedOut : Bool} {result : SnapshotResult}
    (hstep : finishSnapshot cap s id w timedOut result = some s') : s'.quotes = s.quotes := by
  obtain ⟨s₁, hs₁, rfl⟩ := Option.map_eq_some_iff.1 hstep
  exact (quotes_operate hs₁ : s₁.quotes = s.quotes)

theorem quotes_look {cap : Nat} {s s' : SnapshotTransport} {id : Nat} {w : SnapshotWait}
    (hstep : look cap s id w = some s') : s'.quotes = s.quotes := by
  unfold look at hstep
  split at hstep
  · exact quotes_finishSnapshot hstep
  · split_ifs at hstep
    · cases hstep
      rfl
    · split at hstep
      · exact quotes_finishSnapshot hstep
      · exact quotes_finishSnapshot hstep

/-- What a snapshot does first leaves the quotes. -/
theorem quotes_begins {spec : IbConnectionSpec} {timeout : ℚ} {s s' : SnapshotTransport}
    {depth : Bool} {contract : Contract} {ticker : Option Nat}
    (hstep : (snapshotMachine spec timeout).step s (.begins depth contract ticker) = some s') :
    s'.quotes = s.quotes := by
  obtain ⟨s₁, hs₁, hlook⟩ := Option.bind_eq_some_iff.1 hstep
  rw [← quotes_operate hs₁]
  split at hlook
  · cases hlook
    rfl
  · exact (quotes_look hlook).trans rfl

/-- Two tops of book share a stream that is requested again while they wait. -/
def sharedWaitRun : List SnapshotLabel :=
  [.begins false (.raw 0) (some 0), .begins false (.raw 0) none,
    .operates (.op (.resubscribe false fun _ => ⟨some 1, false⟩)),
    .quotes 1 ⟨some (.ofNat 10), some (.ofNat 11)⟩, .resumes 0, .resumes 1]

theorem snapshots_served_shared :
    (snapshotMachine .default 5).AllStates (SnapshotsServed .default 5) .init sharedWaitRun := by
  apply snapshots_served
  refine fun s₁ h₁ => ⟨trivial, fun s₂ h₂ => ⟨trivial, fun s₃ _ => ⟨?_, fun s₄ _ =>
    ⟨trivial, fun s₅ _ => ⟨trivial, fun s₆ _ => ⟨trivial, trivial⟩⟩⟩⟩⟩⟩
  rintro sid ticker - -
  rw [quotes_begins h₂, quotes_begins h₁]
  exact Or.inr rfl

end Ib
end MarketConnector
