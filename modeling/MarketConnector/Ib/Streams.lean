import Mathlib.Tactic.ByContra
import MarketConnector.Foundations.Transitions
import MarketConnector.Ib.Connection
import MarketConnector.Ib.StreamTable

/-!
# Ib - Subscriptions to shared streams

`subscribe`, handles, snapshots, stream errors and updates on top of the stream table,
as a transition system.  Every subscription has an event key of its own on the bus; a
handler that the bus calls does not call back into the transport.

Main results:

- Definition `streamMachine`: the transition system.
- Definition `dispatchTrades`, `dispatchDepth`: how an update reaches the subscribers.
- Theorem `MarketInv.step`: subscriptions, bus, handles and registries stay consistent.
-/

namespace MarketConnector
namespace Ib

open Foundations

/-! ## State -/

inductive Channel where
  | depth | trades
deriving DecidableEq

/-- The channel names `subscribe` takes. -/
def Channel.ofString : String → Option Channel
  | "depth" => some .depth
  | "trades" => some .trades
  | _ => none

/-- What IB fails a stream with. -/
inductive StreamError where
  | marketDataPermission (code : Int) (message : String)
  | marketDataLinesExhausted (code : Int) (message : String)
deriving DecidableEq

/-- Entry of `_subscriptions`. -/
structure ActiveSubscription where
  channel : Channel
  contract : Contract
deriving DecidableEq

/-- `SubscriptionHandle`, with the stream its cleanup refers to. -/
structure SubscriptionHandle where
  channel : Channel
  contract : Contract
  stream : Nat
  closed : Bool
  error : Option StreamError
deriving DecidableEq

/-- What a subscriber receives: a depth book, or a tick as it came. -/
inductive Payload where
  | book (bids asks : List (Decimal × Decimal))
  | tick (tick : Nat)
deriving DecidableEq

structure Delivery where
  subscription : Nat
  payload : Payload
deriving DecidableEq

/-- Subscriptions by the number of their event key, the event keys with a handler on the
bus, and all handles given out. -/
structure Subscribers where
  subscribeSeq : Nat
  bus : List Nat
  subscriptions : Dict Nat ActiveSubscription
  handles : Dict Nat SubscriptionHandle

/-- A snapshot in progress: its stream, and whether it is of the depth. -/
structure Snapshot where
  stream : Nat
  depth : Bool
deriving DecidableEq

structure MarketData where
  table : StreamTable
  subs : Subscribers
  snapshots : Dict Nat Snapshot
  nextSnapshot : Nat
  delivered : List Delivery

def MarketData.init : MarketData where
  table := .init
  subs := ⟨0, [], ∅, ∅⟩
  snapshots := ∅
  nextSnapshot := 0
  delivered := []

inductive StreamLabel where
  | subscribe (channel : String) (contract : Contract) (ticker : Option Nat)
  /-- a handle is closed, inside a running event loop or not -/
  | close (id : Nat) (loop : Bool)
  | topOfBook (contract : Contract) (ticker : Option Nat)
  | depthSnapshot (contract : Contract) (ticker : Option Nat)
  /-- a snapshot ends, by its deadline or otherwise -/
  | snapshotEnds (id : Nat) (timedOut : Bool)
  | resubscribe (cancelOld : Bool) (answers : Nat → IbAnswer)
  /-- IB reports an error code against a reqId -/
  | streamError (reqId : Int) (code : Int) (message : String)
  /-- code 317 -/
  | depthReset
  /-- the idle timer of a stream fires -/
  | idleExpires (stream : Nat)
  /-- `disconnect()` releases all streams -/
  | releaseAll
  /-- the ticker a stream is hooked to is updated -/
  | tradesUpdate (stream : Nat) (ticks : List Nat)
  | depthUpdate (stream : Nat) (ticks : List DepthTick)

/-! ## Subscribing and closing -/

/-- Hold the stream of a channel. -/
def acquire (cap : Nat) (t : StreamTable) (channel : Channel) (contract : Contract)
    (ticker : Option Nat) : StreamTable × Option Nat :=
  match channel with
  | .depth => acquireDepth cap t contract ticker
  | .trades => acquireTrades cap t contract ticker

/-- Take a bus handler away. -/
def unsubscribeBus (subs : Subscribers) (id : Nat) : Subscribers :=
  { subs with bus := subs.bus.erase id }

/-- `subscribe` of a known channel: the bus first, then the stream; the subscription is
registered once it has one. -/
def subscribe (cap : Nat) (s : MarketData) (channel : Channel) (contract : Contract)
    (ticker : Option Nat) : MarketData :=
  let id := s.subs.subscribeSeq + 1
  let subs := { s.subs with subscribeSeq := id, bus := s.subs.bus ++ [id] }
  match acquire cap s.table channel contract ticker with
  | (table, none) => { s with table := table, subs := unsubscribeBus subs id }
  | (table, some sid) =>
      { s with
        table := updateStream table sid fun st => { st with subscribers := st.subscribers ++ [id] }
        subs := { subs with
          subscriptions := subs.subscriptions.set id ⟨channel, contract⟩
          handles := subs.handles.set id ⟨channel, contract, sid, false, none⟩ } }

/-- `_cleanup` of a handle. -/
def cleanup (s : MarketData) (id : Nat) (h : SubscriptionHandle) (loop : Bool) : MarketData :=
  let subs := unsubscribeBus { s.subs with subscriptions := s.subs.subscriptions.pop id } id
  let table := updateStream s.table h.stream fun st =>
    { st with subscribers := st.subscribers.erase id }
  match h.channel with
  | .depth => { s with subs := subs, table := releaseDepth table h.stream loop }
  | .trades => { s with subs := subs, table := releaseTrades table h.stream }

/-- Store a handle. -/
def setHandle (s : MarketData) (id : Nat) (h : SubscriptionHandle) : MarketData :=
  { s with subs := { s.subs with handles := s.subs.handles.set id h } }

/-- `SubscriptionHandle.close`. -/
def closeHandle (s : MarketData) (id : Nat) (loop : Bool) : MarketData :=
  match s.subs.handles.get? id with
  | none => s
  | some h => if h.closed then s else cleanup (setHandle s id { h with closed := true }) id h loop

/-- `_fail` of a subscription: nothing for a closed handle. -/
def failHandle (exc : StreamError) (s : MarketData) (id : Nat) : MarketData :=
  match s.subs.handles.get? id with
  | none => s
  | some h =>
      if h.closed then s else closeHandle (setHandle s id { h with error := some exc }) id true

/-! ## Failing streams -/

/-- Fail the subscribers of a stream, which forgets them first. -/
def failSubscribers (s : MarketData) (sid : Nat) (exc : StreamError) : MarketData :=
  let subscribers := ((s.table.streams.get? sid).map Stream.subscribers).getD []
  subscribers.foldl (failHandle exc)
    { s with table := updateStream s.table sid fun st => { st with subscribers := [] } }

/-- `_fail_stream`. -/
def failStream (s : MarketData) (sid : Nat) (depth : Bool) (exc : Option StreamError) :
    MarketData :=
  let kind : StreamKind := if depth then .depth else .l1
  let s := if isRegistered s.table kind sid then { s with table := dropStream s.table kind sid }
    else s
  match exc with
  | none => s
  | some exc => failSubscribers s sid exc

/-- `_HARD_PERMISSION_CODES`, `_MAX_TICKERS_CODE`: the error a code fails a stream with. -/
def hardError (code : Int) (message : String) : Option StreamError :=
  if code = 354 then some (.marketDataPermission code message)
  else if code = 101 then some (.marketDataLinesExhausted code message)
  else none

/-- `_SOFT_PERMISSION_CODES`. -/
def softPermissionCodes : List Int :=
  [2152, 10089, 10090]

/-- `_on_stream_error`, with `_fail_trades`. -/
def onStreamError (s : MarketData) (reqId code : Int) (message : String) : MarketData :=
  if reqId < 0 then s
  else
    match s.table.tradesByReqId.get? reqId.toNat with
    | some sid =>
        match hardError code message with
        | none => s
        | some exc => failSubscribers { s with table := dropTrades s.table sid } sid exc
    | none =>
        match s.table.streamByReqId.get? reqId.toNat with
        | none => s
        | some (sid, depth) =>
            match hardError code message with
            | some exc => failStream s sid depth (some exc)
            | none =>
                if code ∈ softPermissionCodes then
                  { s with table := updateStream s.table sid fun st =>
                    { st with permissionWarning := some (code, message) } }
                else s

/-! ## Snapshots -/

/-- `top_of_book` or `depth_snapshot` up to its wait. -/
def startSnapshot (cap : Nat) (s : MarketData) (depth : Bool) (contract : Contract)
    (ticker : Option Nat) : MarketData :=
  let opened := if depth then acquireDepth cap s.table contract ticker
    else findOrOpen cap s.table .l1 contract ticker
  match opened with
  | (table, none) => { s with table := table }
  | (table, some sid) =>
      { s with
        table := updateStream table sid fun st =>
          { st with waiters := st.waiters ++ [s.nextSnapshot] }
        snapshots := s.snapshots.set s.nextSnapshot ⟨sid, depth⟩
        nextSnapshot := s.nextSnapshot + 1 }

/-- A snapshot stops waiting. -/
def leaveSnapshot (s : MarketData) (id : Nat) (snapshot : Snapshot) : MarketData :=
  { s with
    snapshots := s.snapshots.pop id
    table := updateStream s.table snapshot.stream fun st =>
      { st with waiters := st.waiters.erase id } }

/-- At the deadline, a stream with a permission warning is dropped by its sole holder. -/
def dropAtDeadline (s : MarketData) (snapshot : Snapshot) (timedOut : Bool) : MarketData :=
  match s.table.streams.get? snapshot.stream with
  | some st =>
      if timedOut && st.permissionWarning.isSome && st.refs ≤ 1 then
        failStream s snapshot.stream snapshot.depth none
      else s
  | none => s

/-- End of a snapshot; a depth snapshot releases its stream. -/
def endSnapshot (s : MarketData) (id : Nat) (snapshot : Snapshot) (timedOut : Bool) :
    MarketData :=
  let s := dropAtDeadline (leaveSnapshot s id snapshot) snapshot timedOut
  if snapshot.depth then { s with table := releaseDepth s.table snapshot.stream true } else s

/-! ## Updates -/

/-- `EventBus.publish`: one call for every handler of the event key. -/
def publish (subs : Subscribers) (id : Nat) (payload : Payload) : List Delivery :=
  List.replicate (subs.bus.count id) ⟨id, payload⟩

/-- Dispatch to the subscriptions a test selects, in the order they were made. -/
def dispatch (subs : Subscribers) (selects : ActiveSubscription → Bool)
    (payloads : List Payload) : List Delivery :=
  subs.subscriptions.entries.flatMap fun entry =>
    if selects entry.2 then payloads.flatMap (publish subs entry.1) else []

/-- `_on_trades_update`: the subscriptions of the key, each tick of the batch. -/
def dispatchTrades (subs : Subscribers) (key : StreamKey) (ticks : List Nat) : List Delivery :=
  dispatch subs (fun sub => sub.channel = .trades && streamKey sub.contract = key)
    (ticks.map .tick)

/-- The fan-out of `_on_depth_update`: the subscriptions whose contract equals the
stream's. -/
def dispatchDepth (subs : Subscribers) (stream : Stream) : List Delivery :=
  dispatch subs (fun sub => sub.channel = .depth && sub.contract = stream.contract)
    [.book stream.bids stream.asks]

/-- `_on_depth_update` of a registered stream. -/
def onDepthUpdate (s : MarketData) (sid : Nat) (ticks : List DepthTick) : MarketData :=
  let table := updateStream s.table sid fun st => ticks.foldl applyDepthTick st
  match table.streams.get? sid with
  | none => s
  | some stream =>
      { s with table := table, delivered := s.delivered ++ dispatchDepth s.subs stream }

/-- Some ticker is hooked to the stream. -/
def isHooked (t : StreamTable) (sid : Nat) : Bool :=
  t.hooks.any fun hook => hook.2 = sid

/-- One step. -/
def streamStep (cap : Nat) (s : MarketData) : StreamLabel → Option MarketData
  | .subscribe channel contract ticker =>
      match Channel.ofString channel with
      | none => some s
      | some channel => some (subscribe cap s channel contract ticker)
  | .close id loop => some (closeHandle s id loop)
  | .topOfBook contract ticker => some (startSnapshot cap s false contract ticker)
  | .depthSnapshot contract ticker => some (startSnapshot cap s true contract ticker)
  | .snapshotEnds id timedOut =>
      (s.snapshots.get? id).map fun snapshot => endSnapshot s id snapshot timedOut
  | .resubscribe cancelOld answers =>
      some { s with table := resubscribeAll cancelOld answers s.table }
  | .streamError reqId code message => some (onStreamError s reqId code message)
  | .depthReset => some { s with table := clearDepthBooks s.table }
  | .idleExpires sid =>
      match s.table.streams.get? sid with
      | some st => if st.idle then some { s with table := idleExpired s.table sid } else none
      | none => none
  | .releaseAll => some { s with table := releaseAll s.table }
  | .tradesUpdate sid ticks =>
      match keyOf s.table sid with
      | none => none
      | some key =>
          if isHooked s.table sid then
            some { s with delivered := s.delivered ++ dispatchTrades s.subs key ticks }
          else none
  | .depthUpdate sid ticks =>
      match keyOf s.table sid with
      | none => none
      | some key =>
          if isHooked s.table sid then
            match (s.table.registry .depth).get? key with
            | some current => some (onDepthUpdate s current ticks)
            | none => some s
          else none

/-- The streams and subscriptions of a transport as a transition system. -/
def streamMachine (spec : IbConnectionSpec) : Machine MarketData StreamLabel where
  init := .init
  step := streamStep spec.marketDataLines

/-! ## Subscriptions, bus and handles -/

/-- The registered subscriptions are those of the open handles, each has one handler on
the bus, and numbers above the last one are unused. -/
structure SubscriberInv (s : Subscribers) : Prop where
  subscriptions : ∀ id sub, s.subscriptions.get? id = some sub ↔
    ∃ h, s.handles.get? id = some h ∧ h.closed = false ∧ sub = ⟨h.channel, h.contract⟩
  bus : ∀ id, s.bus.count id = if (s.subscriptions.get? id).isSome then 1 else 0
  fresh : ∀ id, s.subscribeSeq < id → s.handles.get? id = none

theorem subscriberInv_init : SubscriberInv MarketData.init.subs where
  subscriptions := by
    intro id sub
    simp [MarketData.init]
  bus := by
    intro id
    simp [MarketData.init]
  fresh := by
    intro id _
    rfl

theorem SubscriberInv.subscriptions_eq_none {s : Subscribers} (h : SubscriberInv s) {id : Nat}
    (hid : s.subscribeSeq < id) : s.subscriptions.get? id = none := by
  by_contra hne
  obtain ⟨sub, hsub⟩ := Option.ne_none_iff_exists'.1 hne
  obtain ⟨handle, hhandle, -⟩ := (h.subscriptions id sub).1 hsub
  rw [h.fresh id hid] at hhandle
  cases hhandle

/-- A subscription that found no stream leaves the bus as it was. -/
theorem SubscriberInv.refused {s : Subscribers} (h : SubscriberInv s) :
    SubscriberInv (unsubscribeBus { s with
      subscribeSeq := s.subscribeSeq + 1
      bus := s.bus ++ [s.subscribeSeq + 1] } (s.subscribeSeq + 1)) where
  subscriptions := h.subscriptions
  bus id := by
    have hcount : ((s.bus ++ [s.subscribeSeq + 1]).erase (s.subscribeSeq + 1)).count id =
        s.bus.count id := by
      rw [List.count_erase, List.count_append, List.count_singleton]
      split_ifs <;> simp_all
    exact hcount.trans (h.bus id)
  fresh id hid := by
    have hlt : s.subscribeSeq < id := by
      have hnext : s.subscribeSeq + 1 < id := hid
      omega
    exact h.fresh id hlt

/-- A new subscription is registered under a new number. -/
theorem SubscriberInv.subscribed {s : Subscribers} (h : SubscriberInv s) (channel : Channel)
    (contract : Contract) (sid : Nat) :
    SubscriberInv { s with
      subscribeSeq := s.subscribeSeq + 1
      bus := s.bus ++ [s.subscribeSeq + 1]
      subscriptions := s.subscriptions.set (s.subscribeSeq + 1) ⟨channel, contract⟩
      handles := s.handles.set (s.subscribeSeq + 1) ⟨channel, contract, sid, false, none⟩ } where
  subscriptions id sub := by
    simp only [Dict.get?_set]
    split_ifs with heq
    · constructor
      · rintro ⟨⟩
        exact ⟨_, rfl, rfl, rfl⟩
      · rintro ⟨handle, hhandle, -, rfl⟩
        cases hhandle
        rfl
    · exact h.subscriptions id sub
  bus id := by
    have hunused := h.subscriptions_eq_none (Nat.lt_succ_self s.subscribeSeq)
    have hbus := h.bus id
    simp only [Dict.get?_set, List.count_append, List.count_singleton]
    by_cases heq : id = s.subscribeSeq + 1
    · subst heq
      rw [hbus, hunused]
      simp
    · have hne : ¬ s.subscribeSeq + 1 = id := fun he => heq he.symm
      rw [if_neg heq, hbus]
      simp [hne]
  fresh id hid := by
    have hnext : s.subscribeSeq + 1 < id := hid
    have hne : id ≠ s.subscribeSeq + 1 := by omega
    have hlt : s.subscribeSeq < id := by omega
    exact (Dict.get?_set_of_ne _ hne _).trans (h.fresh id hlt)

/-- A handle that is changed has an id from before. -/
theorem SubscriberInv.fresh_set {s : Subscribers} (h : SubscriberInv s) {id : Nat}
    {handle : SubscriptionHandle} (hid : s.handles.get? id = some handle)
    (handle' : SubscriptionHandle) {id' : Nat} (hlt : s.subscribeSeq < id') :
    (s.handles.set id handle').get? id' = none := by
  have hne : id' ≠ id := by
    rintro rfl
    rw [h.fresh id' hlt] at hid
    cases hid
  exact (Dict.get?_set_of_ne _ hne _).trans (h.fresh id' hlt)

/-- Setting the error of a handle is invisible to the registry. -/
theorem SubscriberInv.setError {s : Subscribers} (h : SubscriberInv s) {id : Nat}
    {handle : SubscriptionHandle} (hid : s.handles.get? id = some handle)
    (error : Option StreamError) :
    SubscriberInv { s with handles := s.handles.set id { handle with error := error } } where
  subscriptions id' sub := by
    rw [h.subscriptions id' sub, Dict.get?_set]
    split_ifs with heq
    · subst heq
      simp [hid]
    · exact Iff.rfl
  bus := h.bus
  fresh _ hlt := h.fresh_set hid _ hlt

/-- Closing an open handle takes its subscription and its bus handler away. -/
theorem SubscriberInv.closed {s : Subscribers} (h : SubscriberInv s) {id : Nat}
    {handle : SubscriptionHandle} (hid : s.handles.get? id = some handle)
    (hopen : handle.closed = false) :
    SubscriberInv (unsubscribeBus { s with
      handles := s.handles.set id { handle with closed := true }
      subscriptions := s.subscriptions.pop id } id) where
  subscriptions id' sub := by
    simp only [unsubscribeBus, Dict.get?_set, Dict.get?_pop]
    split_ifs with heq
    · simp
    · exact h.subscriptions id' sub
  bus id' := by
    have hsub : s.subscriptions.get? id = some ⟨handle.channel, handle.contract⟩ :=
      (h.subscriptions id _).2 ⟨handle, hid, hopen, rfl⟩
    have hbus := h.bus id'
    simp only [unsubscribeBus, Dict.get?_pop, List.count_erase]
    by_cases heq : id' = id
    · subst heq
      rw [hbus, hsub]
      simp
    · have hne : ¬ id = id' := fun he => heq he.symm
      rw [if_neg heq, hbus]
      simp [hne]
  fresh _ hlt := h.fresh_set hid _ hlt

/-! ## The invariant of a run -/

structure MarketInv (s : MarketData) : Prop where
  subscribers : SubscriberInv s.subs
  keyed : KeyedInv s.table

theorem marketInv_init : MarketInv .init :=
  ⟨subscriberInv_init, keyedInv_init⟩

/-- Steps that work on the stream table only. -/
theorem MarketInv.table {s s' : MarketData} (h : MarketInv s) (hsubs : s'.subs = s.subs)
    (hframe : StreamFrame s.table s'.table) : MarketInv s' :=
  ⟨hsubs ▸ h.subscribers, h.keyed.frame hframe⟩

theorem KeyedInv.acquire {t : StreamTable} (h : KeyedInv t) (cap : Nat) (channel : Channel)
    (contract : Contract) (ticker : Option Nat) :
    KeyedInv (acquire cap t channel contract ticker).1 := by
  cases channel with
  | depth => exact h.acquireDepth cap contract ticker
  | trades => exact h.acquireTrades cap contract ticker

theorem MarketInv.subscribe {s : MarketData} (h : MarketInv s) (cap : Nat) (channel : Channel)
    (contract : Contract) (ticker : Option Nat) :
    MarketInv (subscribe cap s channel contract ticker) := by
  have hkeyed := h.keyed.acquire cap channel contract ticker
  unfold Ib.subscribe
  rcases hacquire : acquire cap s.table channel contract ticker with ⟨table, none | sid⟩
  · rw [hacquire] at hkeyed
    exact ⟨h.subscribers.refused, hkeyed⟩
  · rw [hacquire] at hkeyed
    exact ⟨h.subscribers.subscribed channel contract sid,
      hkeyed.frame (.updateStream table sid _ fun _ => rfl)⟩

/-- The cleanup of a handle works on the table by a frame. -/
theorem cleanup_frame (s : MarketData) (id : Nat) (h : SubscriptionHandle) (loop : Bool) :
    StreamFrame s.table (cleanup s id h loop).table := by
  have hforget := StreamFrame.updateStream s.table h.stream
    (fun st => { st with subscribers := st.subscribers.erase id }) fun _ => rfl
  unfold cleanup
  cases h.channel with
  | depth => exact hforget.trans (.releaseDepth _ _ loop)
  | trades => exact hforget.trans (.releaseTrades _ _)

theorem cleanup_subs (s : MarketData) (id : Nat) (h : SubscriptionHandle) (loop : Bool) :
    (cleanup s id h loop).subs =
      unsubscribeBus { s.subs with subscriptions := s.subs.subscriptions.pop id } id := by
  unfold cleanup
  cases h.channel <;> rfl

/-- Only an open handle is closed. -/
theorem closeHandle_cases (s : MarketData) (id : Nat) (loop : Bool) :
    (∃ h, s.subs.handles.get? id = some h ∧ h.closed = false ∧
      closeHandle s id loop = cleanup (setHandle s id { h with closed := true }) id h loop) ∨
      (∀ h, s.subs.handles.get? id = some h → h.closed = true) ∧ closeHandle s id loop = s := by
  unfold closeHandle
  cases hid : s.subs.handles.get? id with
  | none => simp
  | some handle => cases hclosed : handle.closed <;> simp [hclosed]

/-- Only an open handle is failed; it has its error when it is closed. -/
theorem failHandle_cases (exc : StreamError) (s : MarketData) (id : Nat) :
    (∃ h, s.subs.handles.get? id = some h ∧ h.closed = false ∧
      failHandle exc s id = closeHandle (setHandle s id { h with error := some exc }) id true) ∨
      (∀ h, s.subs.handles.get? id = some h → h.closed = true) ∧ failHandle exc s id = s := by
  unfold failHandle
  cases hid : s.subs.handles.get? id with
  | none => simp
  | some handle => cases hclosed : handle.closed <;> simp [hclosed]

theorem MarketInv.closeHandle {s : MarketData} (h : MarketInv s) (id : Nat) (loop : Bool) :
    MarketInv (closeHandle s id loop) := by
  rcases closeHandle_cases s id loop with ⟨handle, hid, hopen, heq⟩ | ⟨-, hsame⟩
  · have hframe := cleanup_frame (setHandle s id { handle with closed := true }) id handle loop
    rw [heq]
    refine ⟨?_, h.keyed.frame hframe⟩
    rw [cleanup_subs]
    exact h.subscribers.closed hid hopen
  · rw [hsame]
    exact h

theorem MarketInv.failHandle {s : MarketData} (h : MarketInv s) (exc : StreamError) (id : Nat) :
    MarketInv (failHandle exc s id) := by
  rcases failHandle_cases exc s id with ⟨handle, hid, -, heq⟩ | ⟨-, hsame⟩
  · have herror : MarketInv (setHandle s id { handle with error := some exc }) :=
      ⟨h.subscribers.setError hid _, h.keyed⟩
    rw [heq]
    exact herror.closeHandle id true
  · rw [hsame]
    exact h

theorem MarketInv.failSubscribers {s : MarketData} (h : MarketInv s) (sid : Nat)
    (exc : StreamError) : MarketInv (failSubscribers s sid exc) := by
  unfold Ib.failSubscribers
  have hcleared : MarketInv { s with
      table := updateStream s.table sid fun st => { st with subscribers := [] } } :=
    h.table rfl (.updateStream _ sid _ fun _ => rfl)
  revert hcleared
  generalize ((s.table.streams.get? sid).map Stream.subscribers).getD [] = ids
  generalize ({ s with table := updateStream s.table sid fun st =>
    { st with subscribers := [] } } : MarketData) = s'
  intro hs'
  induction ids generalizing s' with
  | nil => exact hs'
  | cons id ids ih => exact ih _ (hs'.failHandle exc id)

theorem MarketInv.failStream {s : MarketData} (h : MarketInv s) (sid : Nat) (depth : Bool)
    (exc : Option StreamError) : MarketInv (failStream s sid depth exc) := by
  have hdropped : ∀ kind, MarketInv (if isRegistered s.table kind sid then
      { s with table := dropStream s.table kind sid } else s) := by
    intro kind
    split_ifs
    · exact h.table rfl (.dropStream _ _ _)
    · exact h
  cases exc with
  | none => exact hdropped _
  | some exc => exact (hdropped _).failSubscribers sid exc

theorem MarketInv.onStreamError {s : MarketData} (h : MarketInv s) (reqId code : Int)
    (message : String) : MarketInv (onStreamError s reqId code message) := by
  unfold Ib.onStreamError
  split
  · exact h
  · split
    · split
      · exact h
      · have hdropped : ∀ sid, MarketInv { s with table := dropTrades s.table sid } :=
          fun sid => h.table rfl (.dropTrades _ sid)
        exact (hdropped _).failSubscribers _ _
    · split
      · exact h
      · split
        · exact h.failStream _ _ _
        · split
          · exact h.table rfl (.updateStream _ _ _ fun _ => rfl)
          · exact h

theorem MarketInv.startSnapshot {s : MarketData} (h : MarketInv s) (cap : Nat) (depth : Bool)
    (contract : Contract) (ticker : Option Nat) :
    MarketInv (startSnapshot cap s depth contract ticker) := by
  have hkeyed : KeyedInv (if depth then acquireDepth cap s.table contract ticker
      else findOrOpen cap s.table .l1 contract ticker).1 := by
    cases depth with
    | false => exact h.keyed.findOrOpen cap .l1 contract ticker
    | true => exact h.keyed.acquireDepth cap contract ticker
  unfold Ib.startSnapshot
  dsimp only
  rcases hopen : (if depth then acquireDepth cap s.table contract ticker
      else findOrOpen cap s.table .l1 contract ticker) with ⟨table, none | sid⟩
  · rw [hopen] at hkeyed
    exact ⟨h.subscribers, hkeyed⟩
  · rw [hopen] at hkeyed
    exact ⟨h.subscribers, hkeyed.frame (.updateStream table sid _ fun _ => rfl)⟩

theorem MarketInv.dropAtDeadline {s : MarketData} (h : MarketInv s) (snapshot : Snapshot)
    (timedOut : Bool) : MarketInv (dropAtDeadline s snapshot timedOut) := by
  unfold Ib.dropAtDeadline
  split
  · split_ifs
    · exact h.failStream _ _ _
    · exact h
  · exact h

theorem MarketInv.endSnapshot {s : MarketData} (h : MarketInv s) (id : Nat)
    (snapshot : Snapshot) (timedOut : Bool) : MarketInv (endSnapshot s id snapshot timedOut) := by
  have hleft : MarketInv (leaveSnapshot s id snapshot) :=
    h.table rfl (.updateStream _ _ _ fun _ => rfl)
  have hdropped := hleft.dropAtDeadline snapshot timedOut
  unfold Ib.endSnapshot
  dsimp only
  split_ifs
  · exact hdropped.table rfl (.releaseDepth _ _ true)
  · exact hdropped

theorem contract_foldl_applyDepthTick (ticks : List DepthTick) (st : Stream) :
    (ticks.foldl applyDepthTick st).contract = st.contract :=
  foldl_applyDepthTick (fun _ _ _ => rfl) ticks st

theorem MarketInv.onDepthUpdate {s : MarketData} (h : MarketInv s) (sid : Nat)
    (ticks : List DepthTick) : MarketInv (onDepthUpdate s sid ticks) := by
  unfold Ib.onDepthUpdate
  dsimp only
  split
  · exact h
  · exact h.table rfl (.updateStream _ _ _ (contract_foldl_applyDepthTick ticks))

/-- Every step keeps the invariant. -/
theorem MarketInv.step {cap : Nat} {s s' : MarketData} {l : StreamLabel} (h : MarketInv s)
    (hstep : streamStep cap s l = some s') : MarketInv s' := by
  cases l with
  | subscribe channel contract ticker =>
      simp only [streamStep] at hstep
      split at hstep <;> cases hstep
      · exact h
      · exact h.subscribe cap _ contract ticker
  | close id loop =>
      cases hstep
      exact h.closeHandle id loop
  | topOfBook contract ticker =>
      cases hstep
      exact h.startSnapshot cap false contract ticker
  | depthSnapshot contract ticker =>
      cases hstep
      exact h.startSnapshot cap true contract ticker
  | snapshotEnds id timedOut =>
      obtain ⟨snapshot, -, rfl⟩ := Option.map_eq_some_iff.1 hstep
      exact h.endSnapshot id snapshot timedOut
  | resubscribe cancelOld answers =>
      cases hstep
      exact h.table rfl (.resubscribeAll cancelOld answers _)
  | streamError reqId code message =>
      cases hstep
      exact h.onStreamError reqId code message
  | depthReset =>
      cases hstep
      exact h.table rfl (.clearDepthBooks _)
  | idleExpires sid =>
      simp only [streamStep] at hstep
      split at hstep
      · split_ifs at hstep
        cases hstep
        exact h.table rfl (.idleExpired _ sid)
      · cases hstep
  | releaseAll =>
      cases hstep
      exact h.table rfl (.releaseAll _)
  | tradesUpdate sid ticks =>
      simp only [streamStep] at hstep
      split at hstep
      · cases hstep
      · split_ifs at hstep
        cases hstep
        exact ⟨h.subscribers, h.keyed⟩
  | depthUpdate sid ticks =>
      simp only [streamStep] at hstep
      split at hstep
      · cases hstep
      · split_ifs at hstep
        split at hstep <;> cases hstep
        · exact h.onDepthUpdate _ ticks
        · exact h

end Ib
end MarketConnector
