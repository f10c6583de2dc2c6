import MarketConnector.Foundations.Decimal
import MarketConnector.Foundations.Requests
import MarketConnector.Ib.FailedConnect

/-!
# Ib - Shared profit-and-loss feeds

`subscribe_pnl`, `get_pnl` and their per-position siblings share one IB request per key.
The feeds run on top of the connection: a `disconnect()` releases them, a reconnect and
error 1101 issue their requests anew, and a lost socket takes the requests away.  IB's
request and cancel calls do not raise; a request that is made while the socket is down does
not reach IB.  A callback that calls back into the transport runs between two steps.

Main results:

- Definition `pnlMachine`: the transition system.
- Definition `acquirePnl`, `releasePnl`: how a feed is shared.
- Theorem `foldl_resubscribePnl` / `foldl_dropPnlFeed`: the loops over the feeds.
-/

namespace MarketConnector
namespace Ib

open Foundations

/-! ## State -/

/-- Account PnL; a figure IB did not provide is `none`. -/
structure IbPnL where
  account : String
  dailyPnl : Option Decimal
  unrealizedPnl : Option Decimal
  realizedPnl : Option Decimal
deriving DecidableEq

/-- PnL of one position. -/
structure IbPositionPnL where
  account : String
  conId : Int
  position : Decimal
  dailyPnl : Option Decimal
  unrealizedPnl : Option Decimal
  realizedPnl : Option Decimal
  value : Option Decimal
deriving DecidableEq

/-- What IB reports, on `pnlEvent` and on `pnlSingleEvent`, with its figures as
`decimal_or_none` reads them. -/
inductive PnlReport where
  | pnl (report : IbPnL)
  | single (report : IbPositionPnL)
deriving DecidableEq

/-- Key of a feed: account, model code and, for one position, the contract id. -/
inductive PnlKey where
  | pnl (account modelCode : String)
  | single (account modelCode : String) (conId : Int)
deriving DecidableEq

/-- `_PnlFeed`.  Waiters are the snapshots that wait; `hooked` tells whether the handler is
attached to its event. -/
structure PnlFeed where
  key : PnlKey
  refs : Int
  latest : Option PnlReport
  callbacks : List Nat
  waiters : List Nat
  hooked : Bool
deriving DecidableEq

/-- What a snapshot's future is resolved with. -/
inductive PnlAnswer where
  | value (report : PnlReport)
  | connectionLost
deriving DecidableEq

/-- A snapshot in flight, with the feed it acquired and its future. -/
structure PnlSnapshot where
  feed : Nat
  answer : Option PnlAnswer
deriving DecidableEq

/-- A handle, with the feed and the callback its cleanup refers to. -/
structure PnlHandle where
  feed : Nat
  callback : Nat
  closed : Bool
deriving DecidableEq

/-- The connection, every feed object ever made, `_pnl_feeds`, handles and snapshots, and
the requests at IB. -/
structure PnlTransport where
  transport : Transport
  feeds : Dict Nat PnlFeed
  registry : Dict PnlKey Nat
  handles : Dict Nat PnlHandle
  snapshots : Dict Nat PnlSnapshot
  requests : Requests PnlKey
  next : Nat

def PnlTransport.init (spec : IbConnectionSpec) : PnlTransport where
  transport := .init spec
  feeds := ∅
  registry := ∅
  handles := ∅
  snapshots := ∅
  requests := .init
  next := 0

inductive PnlError where
  | connectionLost
  | accountConfig
deriving DecidableEq

/-! ## Feeds -/

/-- `_pnl_account`. -/
def pnlAccount (s : PnlTransport) : Except PnlError String :=
  if !s.transport.routerUp then .error .connectionLost
  else
    match s.transport.account with
    | none => .error .accountConfig
    | some account => .ok account

/-- Change a feed object. -/
def updateFeed (s : PnlTransport) (fid : Nat) (f : PnlFeed → PnlFeed) : PnlTransport :=
  match s.feeds.get? fid with
  | none => s
  | some feed => { s with feeds := s.feeds.set fid (f feed) }

/-- Resolve the futures of the waiting snapshots that are not done. -/
def resolveWaiters (snapshots : Dict Nat PnlSnapshot) (waiters : List Nat) (answer : PnlAnswer) :
    Dict Nat PnlSnapshot :=
  waiters.foldl (fun d id =>
    match d.get? id with
    | some ⟨feed, none⟩ => d.set id ⟨feed, some answer⟩
    | _ => d) snapshots

/-- `_acquire_pnl`, with the feed it returns. -/
def acquirePnl (s : PnlTransport) (key : PnlKey) : PnlTransport × Nat :=
  match s.registry.get? key with
  | some fid => (updateFeed s fid fun f => { f with refs := f.refs + 1 }, fid)
  | none =>
      ({ s with
          feeds := s.feeds.set s.next ⟨key, 1, none, [], [], true⟩
          registry := s.registry.set key s.next
          requests := s.requests.issue s.transport.socketUp key
          next := s.next + 1 }, s.next)

/-- `_drop_pnl_feed`. -/
def dropPnlFeed (exc : Option PnlAnswer) (s : PnlTransport) (fid : Nat) : PnlTransport :=
  match s.feeds.get? fid with
  | none => s
  | some feed =>
      { s with
        registry := s.registry.pop feed.key
        feeds := s.feeds.set fid { feed with hooked := false, waiters := [] }
        snapshots :=
          match exc with
          | none => s.snapshots
          | some answer => resolveWaiters s.snapshots feed.waiters answer
        requests := s.requests.cancel feed.key }

/-- `_release_pnl`. -/
def releasePnl (s : PnlTransport) (fid : Nat) : PnlTransport :=
  let s := updateFeed s fid fun f => { f with refs := f.refs - 1 }
  match s.feeds.get? fid with
  | none => s
  | some feed =>
      if feed.refs ≤ 0 ∧ s.registry.get? feed.key = some fid then dropPnlFeed none s fid else s

/-- The handler lets a report through. -/
def acceptsReport : PnlKey → PnlReport → Bool
  | .pnl account _, .pnl report => report.account = account
  | .single account _ conId, .single report => report.account = account ∧ report.conId = conId
  | _, _ => false

/-- `handler` of `_make_pnl_handler`, and the callbacks it goes through. -/
def handlePnl (s : PnlTransport) (fid : Nat) (report : PnlReport) : PnlTransport × List Nat :=
  match s.feeds.get? fid with
  | none => (s, [])
  | some feed =>
      if feed.hooked && acceptsReport feed.key report then
        ({ s with
            feeds := s.feeds.set fid { feed with latest := some report, waiters := [] }
            snapshots := resolveWaiters s.snapshots feed.waiters (.value report) },
          feed.callbacks)
      else (s, [])

/-! ## Operations -/

/-- `_subscribe_pnl_feed`. -/
def subscribePnlFeed (s : PnlTransport) (key : PnlKey) (callback : Nat) : PnlTransport :=
  let (s, fid) := acquirePnl s key
  let s := updateFeed s fid fun f => { f with callbacks := f.callbacks ++ [callback] }
  { s with handles := s.handles.set s.next ⟨fid, callback, false⟩, next := s.next + 1 }

/-- `close()` of a handle, with the `cleanup` of `_subscribe_pnl_feed`. -/
def closePnlHandle (s : PnlTransport) (id : Nat) : PnlTransport :=
  match s.handles.get? id with
  | none => s
  | some h =>
      if h.closed then s
      else
        let s := { s with handles := s.handles.set id { h with closed := true } }
        releasePnl
          (updateFeed s h.feed fun f => { f with callbacks := f.callbacks.erase h.callback }) h.feed

/-- `_snapshot_pnl` up to its await: the latest value is returned at once, otherwise the
snapshot waits. -/
def snapshotPnl (s : PnlTransport) (key : PnlKey) : PnlTransport × Option PnlReport :=
  let (s, fid) := acquirePnl s key
  match (s.feeds.get? fid).bind PnlFeed.latest with
  | some report => (releasePnl s fid, some report)
  | none =>
      let s := updateFeed s fid fun f => { f with waiters := f.waiters ++ [s.next] }
      ({ s with snapshots := s.snapshots.set s.next ⟨fid, none⟩, next := s.next + 1 }, none)

/-- The two `finally` blocks of `_snapshot_pnl`. -/
def leaveSnapshotPnl (s : PnlTransport) (id : Nat) (snapshot : PnlSnapshot) : PnlTransport :=
  let s := { s with snapshots := s.snapshots.pop id }
  releasePnl (updateFeed s snapshot.feed fun f => { f with waiters := f.waiters.erase id })
    snapshot.feed

/-- `_resubscribe_pnl`. -/
def resubscribePnl (cancelOld : Bool) (s : PnlTransport) (fid : Nat) : PnlTransport :=
  match s.feeds.get? fid with
  | none => s
  | some feed =>
      { s with
        feeds := s.feeds.set fid { feed with latest := none }
        requests := s.requests.reissue cancelOld s.transport.socketUp feed.key }

/-- `resubscribe_all`, as far as the feeds go. -/
def resubscribeAllPnl (s : PnlTransport) (cancelOld : Bool) : PnlTransport :=
  s.registry.values.foldl (resubscribePnl cancelOld) s

/-- `_release_all_streams`, as far as the feeds go. -/
def releaseAllPnl (s : PnlTransport) : PnlTransport :=
  s.registry.values.foldl (dropPnlFeed (some .connectionLost)) s

/-! ## Steps -/

/-- How the await of a snapshot ends. -/
inductive PnlWait where
  | answered | timedOut | cancelled
deriving DecidableEq

inductive PnlLabel where
  /-- a step of the connection -/
  | connection (l : AttemptLabel)
  /-- the user calls `subscribe_pnl` -/
  | subscribePnl (callback : Nat)
  /-- the user calls `subscribe_position_pnl` -/
  | subscribePositionPnl (conId : Int) (callback : Nat)
  /-- the user closes a handle -/
  | close (id : Nat)
  /-- the user calls `get_pnl` -/
  | getPnl
  /-- the user calls `get_position_pnl` -/
  | getPositionPnl (conId : Int)
  /-- a snapshot goes on -/
  | snapshotEnds (id : Nat) (wait : PnlWait)
  /-- the user calls `resubscribe_all` -/
  | resubscribeAll (cancelOld : Bool)
  /-- IB reports, and the handler of a feed hears of it -/
  | reports (fid : Nat) (report : PnlReport)
  /-- `connectAsync` closes the socket it finds open before it opens its own; the transport is
  told of neither, and `socketUp` stays true until the attempt ends -/
  | socketReplaced

/-- A `disconnect()` comes to its end in this step. -/
def endsDisconnect (s : Transport) : AttemptLabel → Bool
  | .base .disconnect =>
      match s.supervisor.bind s.tasks.get? with
      | some ⟨.supervise _, _⟩ => false
      | _ => true
  | .base (.disconnectResumes _) => true
  | _ => false

/-- The transport handles error 1101 in this step. -/
def losesData (s : Transport) : AttemptLabel → Bool
  | .base (.errorCode code) => s.handlersAttached && code = 1101
  | _ => false

/-- A step of the connection.  A closed or lost socket takes the requests away. -/
def connectionStep (spec : IbConnectionSpec) (s : PnlTransport) (l : AttemptLabel) :
    Option PnlTransport :=
  (attemptStep spec s.transport l).map fun t =>
    let released := if endsDisconnect s.transport l then releaseAllPnl s else s
    let s' := { released with
      transport := t
      requests := if t.socketUp then released.requests else released.requests.lose }
    if completes spec s.transport true l then resubscribeAllPnl s' false
    else if losesData s.transport l then resubscribeAllPnl s' true
    else s'

/-- An operation that needs the account; it changes nothing when it raises. -/
def withAccount (s : PnlTransport) (f : String → PnlTransport) : PnlTransport :=
  match pnlAccount s with
  | .error _ => s
  | .ok account => f account

def pnlStep (spec : IbConnectionSpec) (s : PnlTransport) : PnlLabel → Option PnlTransport
  | .connection l => connectionStep spec s l
  | .subscribePnl callback =>
      some (withAccount s fun account => subscribePnlFeed s (.pnl account "") callback)
  | .subscribePositionPnl conId callback =>
      some (withAccount s fun account => subscribePnlFeed s (.single account "" conId) callback)
  | .close id => some (closePnlHandle s id)
  | .getPnl => some (withAccount s fun account => (snapshotPnl s (.pnl account "")).1)
  | .getPositionPnl conId =>
      some (withAccount s fun account => (snapshotPnl s (.single account "" conId)).1)
  | .snapshotEnds id wait =>
      match s.snapshots.get? id with
      | none => none
      | some snapshot =>
          if wait = .answered ∧ snapshot.answer = none then none
          else some (leaveSnapshotPnl s id snapshot)
  | .resubscribeAll cancelOld => some (resubscribeAllPnl s cancelOld)
  | .reports fid report => some (handlePnl s fid report).1
  | .socketReplaced =>
      if s.transport.socketUp && s.transport.tasks.values.any (·.phase = .opening) then
        some { s with requests := s.requests.lose }
      else none

/-- The connection and its feeds as a transition system. -/
def pnlMachine (spec : IbConnectionSpec) : Machine PnlTransport PnlLabel where
  init := .init spec
  step := pnlStep spec

/-! ## Changing feed objects -/

/-- What registry and users of a feed depend on. -/
def PnlFeed.use (f : PnlFeed) : PnlKey × Int :=
  (f.key, f.refs)

/-- Every feed object keeps its key and its count. -/
def FeedsKeep (d d' : Dict Nat PnlFeed) : Prop :=
  ∀ fid, (d'.get? fid).map PnlFeed.use = (d.get? fid).map PnlFeed.use

theorem FeedsKeep.refl (d : Dict Nat PnlFeed) : FeedsKeep d d :=
  fun _ => rfl

theorem FeedsKeep.trans {d d' d'' : Dict Nat PnlFeed} (h : FeedsKeep d d')
    (h' : FeedsKeep d' d'') : FeedsKeep d d'' :=
  fun fid => (h' fid).trans (h fid)

theorem FeedsKeep.set {d : Dict Nat PnlFeed} {fid : Nat} {f f' : PnlFeed}
    (hfid : d.get? fid = some f) (huse : f'.use = f.use) : FeedsKeep d (d.set fid f') := by
  intro fid'
  rw [Dict.get?_set]
  split_ifs with heq
  · rw [heq, hfid]
    simp [huse]
  · rfl

theorem FeedsKeep.get? {d d' : Dict Nat PnlFeed} (h : FeedsKeep d d') {fid : Nat} {f : PnlFeed}
    (hfid : d.get? fid = some f) : ∃ f', d'.get? fid = some f' ∧ f'.key = f.key ∧
      f'.refs = f.refs := by
  have huse := h fid
  rw [hfid, Option.map_some, Option.map_eq_some_iff] at huse
  obtain ⟨f', hf', huse⟩ := huse
  exact ⟨f', hf', congrArg Prod.fst huse, congrArg Prod.snd huse⟩

theorem get?_updateFeed (s : PnlTransport) (fid fid' : Nat) (f : PnlFeed → PnlFeed) :
    (updateFeed s fid f).feeds.get? fid' =
      if fid' = fid then (s.feeds.get? fid).map f else s.feeds.get? fid' := by
  unfold updateFeed
  cases hfid : s.feeds.get? fid with
  | none =>
      split_ifs with heq
      · rw [heq, hfid]
        rfl
      · rfl
  | some feed => exact Dict.get?_set _ _ _ _

@[simp]
theorem updateFeed_eta (s : PnlTransport) (fid : Nat) (f : PnlFeed → PnlFeed) :
    { s with feeds := (updateFeed s fid f).feeds } = updateFeed s fid f := by
  unfold updateFeed
  split <;> rfl

@[simp]
theorem registry_updateFeed (s : PnlTransport) (fid : Nat) (f : PnlFeed → PnlFeed) :
    (updateFeed s fid f).registry = s.registry := by
  rw [← updateFeed_eta]

@[simp]
theorem requests_updateFeed (s : PnlTransport) (fid : Nat) (f : PnlFeed → PnlFeed) :
    (updateFeed s fid f).requests = s.requests := by
  rw [← updateFeed_eta]

@[simp]
theorem transport_updateFeed (s : PnlTransport) (fid : Nat) (f : PnlFeed → PnlFeed) :
    (updateFeed s fid f).transport = s.transport := by
  rw [← updateFeed_eta]

@[simp]
theorem handles_updateFeed (s : PnlTransport) (fid : Nat) (f : PnlFeed → PnlFeed) :
    (updateFeed s fid f).handles = s.handles := by
  rw [← updateFeed_eta]

@[simp]
theorem snapshots_updateFeed (s : PnlTransport) (fid : Nat) (f : PnlFeed → PnlFeed) :
    (updateFeed s fid f).snapshots = s.snapshots := by
  rw [← updateFeed_eta]

@[simp]
theorem next_updateFeed (s : PnlTransport) (fid : Nat) (f : PnlFeed → PnlFeed) :
    (updateFeed s fid f).next = s.next := by
  rw [← updateFeed_eta]

theorem FeedsKeep.updateFeed (s : PnlTransport) (fid : Nat) {f : PnlFeed → PnlFeed}
    (hf : ∀ feed, (f feed).use = feed.use) : FeedsKeep s.feeds (updateFeed s fid f).feeds := by
  intro fid'
  rw [get?_updateFeed]
  split_ifs with heq
  · rw [heq, Option.map_map]
    exact congrArg (Option.map · _) (funext hf)
  · rfl

/-! ## Resolving futures -/

/-- Every snapshot keeps its feed. -/
structure SnapshotsKeep (d d' : Dict Nat PnlSnapshot) : Prop where
  feed : ∀ id, (d'.get? id).map PnlSnapshot.feed = (d.get? id).map PnlSnapshot.feed
  total : ∀ weight : Nat → Nat,
    (d'.total fun p => weight p.feed) = d.total fun p => weight p.feed

theorem SnapshotsKeep.refl (d : Dict Nat PnlSnapshot) : SnapshotsKeep d d :=
  ⟨fun _ => rfl, fun _ => rfl⟩

theorem SnapshotsKeep.trans {d d' d'' : Dict Nat PnlSnapshot} (h : SnapshotsKeep d d')
    (h' : SnapshotsKeep d' d'') : SnapshotsKeep d d'' :=
  ⟨fun id => (h'.feed id).trans (h.feed id), fun weight => (h'.total weight).trans (h.total weight)⟩

theorem SnapshotsKeep.resolveWaiters (snapshots : Dict Nat PnlSnapshot) (waiters : List Nat)
    (answer : PnlAnswer) :
    SnapshotsKeep snapshots (resolveWaiters snapshots waiters answer) := by
  unfold Ib.resolveWaiters
  induction waiters generalizing snapshots with
  | nil => exact .refl _
  | cons id waiters ih =>
      rw [List.foldl_cons]
      split
      · rename_i feed hid
        refine SnapshotsKeep.trans ⟨fun id' => ?_, fun weight => ?_⟩
          (ih (snapshots.set id ⟨feed, some answer⟩))
        · rw [Dict.get?_set]
          split_ifs with heq
          · rw [heq, hid]
            rfl
          · rfl
        · have hset := Dict.total_set_of_get? hid ⟨feed, some answer⟩ fun p => weight p.feed
          simpa using hset
      · exact ih snapshots

/-! ## The loops over the feeds -/

theorem resubscribePnl_of_feed {s : PnlTransport} {fid : Nat} {feed : PnlFeed} (cancelOld : Bool)
    (hfid : s.feeds.get? fid = some feed) :
    resubscribePnl cancelOld s fid = { s with
      feeds := s.feeds.set fid { feed with latest := none }
      requests := s.requests.reissue cancelOld s.transport.socketUp feed.key } := by
  simp [resubscribePnl, hfid]

/-- The feed objects that a registry lists under their keys. -/
def Lists (feeds : Dict Nat PnlFeed) (entries : List (PnlKey × Nat)) : Prop :=
  ∀ e ∈ entries, ∃ feed, feeds.get? e.2 = some feed ∧ feed.key = e.1

theorem Lists.keep {d d' : Dict Nat PnlFeed} {entries : List (PnlKey × Nat)}
    (h : Lists d entries) (hkeep : FeedsKeep d d') : Lists d' entries := by
  intro e he
  obtain ⟨feed, hfid, hkey⟩ := h e he
  obtain ⟨feed', hfid', hkey', -⟩ := hkeep.get? hfid
  exact ⟨feed', hfid', hkey'.trans hkey⟩

/-- Going through the feeds issues the request of every key anew. -/
theorem foldl_resubscribePnl (cancelOld : Bool) {entries : List (PnlKey × Nat)}
    {s : PnlTransport} (h : Lists s.feeds entries) :
    ∃ feeds, FeedsKeep s.feeds feeds ∧
      (entries.map Prod.snd).foldl (resubscribePnl cancelOld) s = { s with
        feeds := feeds
        requests := s.requests.reissueAll cancelOld s.transport.socketUp
          (entries.map Prod.fst) } := by
  induction entries generalizing s with
  | nil => exact ⟨s.feeds, .refl _, rfl⟩
  | cons e entries ih =>
      unfold Lists at h
      rw [List.forall_mem_cons] at h
      obtain ⟨⟨feed, hfid, hkey⟩, hrest⟩ := h
      have hset : FeedsKeep s.feeds (s.feeds.set e.2 { feed with latest := none }) :=
        .set hfid rfl
      have hstep := resubscribePnl_of_feed cancelOld hfid
      have hlists : Lists (resubscribePnl cancelOld s e.2).feeds entries := by
        rw [hstep]
        exact Lists.keep hrest hset
      obtain ⟨feeds, hkeep, heq⟩ := ih hlists
      rw [hstep] at hkeep heq
      refine ⟨feeds, hset.trans hkeep, ?_⟩
      rw [List.map_cons, List.foldl_cons, hstep, heq, hkey]
      rfl

theorem dropPnlFeed_of_feed {s : PnlTransport} {fid : Nat} {feed : PnlFeed}
    (exc : Option PnlAnswer) (hfid : s.feeds.get? fid = some feed) :
    ∃ snapshots, SnapshotsKeep s.snapshots snapshots ∧
      dropPnlFeed exc s fid = { s with
        registry := s.registry.pop feed.key
        feeds := s.feeds.set fid { feed with hooked := false, waiters := [] }
        snapshots := snapshots
        requests := s.requests.cancel feed.key } := by
  cases exc with
  | none => exact ⟨s.snapshots, .refl _, by simp [dropPnlFeed, hfid]⟩
  | some answer =>
      exact ⟨_, .resolveWaiters s.snapshots feed.waiters answer, by simp [dropPnlFeed, hfid]⟩

/-- Dropping the feeds cancels the request of every key. -/
theorem foldl_dropPnlFeed (exc : Option PnlAnswer) {entries : List (PnlKey × Nat)}
    {s : PnlTransport} (h : Lists s.feeds entries) :
    ∃ feeds snapshots registry, FeedsKeep s.feeds feeds ∧ SnapshotsKeep s.snapshots snapshots ∧
      (∀ key, registry.get? key =
        if key ∈ entries.map Prod.fst then none else s.registry.get? key) ∧
      (entries.map Prod.snd).foldl (dropPnlFeed exc) s = { s with
        registry := registry
        feeds := feeds
        snapshots := snapshots
        requests := s.requests.cancelAll (entries.map Prod.fst) } := by
  induction entries generalizing s with
  | nil => exact ⟨_, _, _, .refl _, .refl _, fun _ => rfl, rfl⟩
  | cons e entries ih =>
      unfold Lists at h
      rw [List.forall_mem_cons] at h
      obtain ⟨⟨feed, hfid, hkey⟩, hrest⟩ := h
      have hset : FeedsKeep s.feeds
          (s.feeds.set e.2 { feed with hooked := false, waiters := [] }) := .set hfid rfl
      obtain ⟨snapshots, hfirst, hdrop⟩ := dropPnlFeed_of_feed exc hfid
      have hlists : Lists (dropPnlFeed exc s e.2).feeds entries := by
        rw [hdrop]
        exact Lists.keep hrest hset
      obtain ⟨feeds, snapshots', registry, hkeep, hothers, hregistry, heq⟩ := ih hlists
      rw [hdrop] at hkeep hothers hregistry heq
      refine ⟨feeds, snapshots', registry, hset.trans hkeep, hfirst.trans hothers,
        fun key => ?_, ?_⟩
      · rw [hregistry, Dict.get?_pop, hkey]
        by_cases hhead : key = e.1
        · simp [hhead]
        · simp only [hhead, if_false, List.map_cons, List.mem_cons, false_or]
      · rw [List.map_cons, List.foldl_cons, hdrop, heq, hkey]
        rfl

end Ib
end MarketConnector
