import Mathlib.Data.Finset.Card
import MarketConnector.Ib.DepthUsers
import MarketConnector.Ib.PnlSharing

/-!
# Ib - No callback after `close()`

A fan-out goes through a copy of a list of subscribers, and a callback may close any handle
before the fan-out goes on.  Depth books and trades are published under the event key of each
subscription, and a closed one has no handler on the bus.  The handler of a
profit-and-loss feed calls the callbacks it has copied, without looking at the feed again.

Main results:

- Definition `callingMachine`: both kinds of fan-outs on one stack.
- Theorem `MarketInv.publish_open`: the bus calls open subscriptions only.
- Theorem `noCallAfterClose_iff`: the runs that call no closed handle.
- Theorem `closed_handle_is_called`: a callback that closes the handle of the next one.
-/

namespace MarketConnector
namespace Ib

open Foundations

/-! ## Fan-outs of both kinds -/

/-- What is left of a fan-out.  One of a feed remembers which handles were given out before it
began: those below `since`. -/
inductive CallFrame where
  | market (frame : FanOutFrame)
  | pnl (feed since : Nat) (left : List Nat)

/-- Streams, feeds and the fan-outs under way, the innermost first. -/
structure CallingTransport where
  market : MarketData
  pnl : PnlTransport
  stack : List CallFrame

def CallingTransport.init (spec : IbConnectionSpec) : CallingTransport :=
  ⟨.init, .init spec, []⟩

inductive CallingLabel where
  /-- an event or a call on the streams -/
  | market (l : StreamLabel)
  /-- an event or a call on the connection and the feeds -/
  | pnl (l : PnlLabel)
  /-- the innermost fan-out makes its next call, or ends -/
  | resume

/-- A step of the streams, with the fan-outs it leaves. -/
def withMarket (s : CallingTransport) (stack : List CallFrame) (c : CallbackState) :
    CallingTransport :=
  { s with market := c.market, stack := c.stack.map .market ++ stack }

/-- The next call of the innermost fan-out. -/
def resumeCalls (s : CallingTransport) : Option CallingTransport :=
  match s.stack with
  | [] => none
  | .market frame :: stack => (resumeStep ⟨s.market, [frame]⟩).map (withMarket s stack)
  | .pnl _ _ [] :: stack => some { s with stack := stack }
  | .pnl feed since (_ :: left) :: stack => some { s with stack := .pnl feed since left :: stack }

/-- A report is stored and wakes the snapshots; then its callbacks are called. -/
def callingStep (spec : IbConnectionSpec) (s : CallingTransport) :
    CallingLabel → Option CallingTransport
  | .market l => (opStep spec.marketDataLines ⟨s.market, []⟩ l).map (withMarket s s.stack)
  | .pnl (.reports fid report) =>
      let (pnl, callbacks) := handlePnl s.pnl fid report
      some { s with pnl := pnl, stack := .pnl fid s.pnl.next callbacks :: s.stack }
  | .pnl l => (pnlStep spec s.pnl l).map fun pnl => { s with pnl := pnl }
  | .resume => resumeCalls s

def callingMachine (spec : IbConnectionSpec) : Machine CallingTransport CallingLabel where
  init := .init spec
  step := callingStep spec

/-! ## The property -/

/-- The open handles of a callback on a feed that were given out before `since`. -/
def openBefore (s : PnlTransport) (since feed callback : Nat) : Finset Nat :=
  (Finset.range since).filter fun id => s.handles.get? id = some ⟨feed, callback, false⟩

/-- The call a step makes is for an open handle.  A callback that was subscribed several times
is called once for each of its handles: the calls of it that are left, this one included, are
no more than its handles that are still open. -/
def CallsOpen (s : CallingTransport) : CallingLabel → Prop
  | .resume =>
      match s.stack with
      | .market (.publishing (d :: _)) :: _ =>
          ∀ call ∈ publish s.market.subs d.subscription d.payload,
            ∃ h, s.market.subs.handles.get? call.subscription = some h ∧ h.closed = false
      | .pnl feed since (callback :: left) :: _ =>
          (callback :: left).count callback ≤ (openBefore s.pnl since feed callback).card
      | _ => True
  | _ => True

/-- However far the fan-outs under way go on, they call open handles only. -/
def NoCallAfterClose (spec : IbConnectionSpec) (s : CallingTransport) : Prop :=
  ∀ n, (callingMachine spec).AllSteps CallsOpen s (List.replicate n .resume)

/-- The fan-out has fewer calls of the callback to make than the callback has handles open. -/
def CalledBefore (s : PnlTransport) (id : Nat) (h : PnlHandle) : CallFrame → Prop
  | .pnl feed since left =>
      feed = h.feed → id < since →
        left.count h.callback < (openBefore s since feed h.callback).card
  | .market _ => True

/-- An open handle of a feed is closed only when every fan-out under way that began after it
was given out has made the call for it. -/
def ClosesAfterCalls (s : CallingTransport) : CallingLabel → Prop
  | .pnl (.close id) => ∀ h, s.pnl.handles.get? id = some h → h.closed = false →
      ∀ frame ∈ s.stack, CalledBefore s.pnl id h frame
  | _ => True

/-! ## The callbacks of a feed -/

/-- Callbacks of a feed object. -/
def callbacksOf (s : PnlTransport) (fid : Nat) : List Nat :=
  ((s.feeds.get? fid).map PnlFeed.callbacks).getD []

/-- Handles and callbacks stay. -/
structure KeepsCallbacks (s s' : PnlTransport) : Prop where
  handles : s'.handles = s.handles
  next : s.next ≤ s'.next
  callbacks : ∀ fid, callbacksOf s' fid = callbacksOf s fid

namespace KeepsCallbacks

theorem refl (s : PnlTransport) : KeepsCallbacks s s :=
  ⟨rfl, Nat.le_refl _, fun _ => rfl⟩

theorem trans {s s' s'' : PnlTransport} (h : KeepsCallbacks s s') (h' : KeepsCallbacks s' s'') :
    KeepsCallbacks s s'' :=
  ⟨h'.handles.trans h.handles, Nat.le_trans h.next h'.next,
    fun fid => (h'.callbacks fid).trans (h.callbacks fid)⟩

/-- One feed object changes, but not its callbacks. -/
theorem of_set {s s' : PnlTransport} {fid : Nat} {feed feed' : PnlFeed}
    (hfid : s.feeds.get? fid = some feed) (hfeeds : s'.feeds = s.feeds.set fid feed')
    (hcallbacks : feed'.callbacks = feed.callbacks) (hhandles : s'.handles = s.handles)
    (hnext : s'.next = s.next) : KeepsCallbacks s s' := by
  refine ⟨hhandles, hnext.ge, fun i => ?_⟩
  unfold callbacksOf
  rw [hfeeds, Dict.get?_set]
  split_ifs with heq
  · rw [heq, hfid]
    exact hcallbacks
  · rfl

theorem updateFeed (s : PnlTransport) (fid : Nat) {f : PnlFeed → PnlFeed}
    (hf : ∀ feed, (f feed).callbacks = feed.callbacks) :
    KeepsCallbacks s (updateFeed s fid f) := by
  unfold Ib.updateFeed
  split
  · exact refl s
  · rename_i feed hfid
    exact of_set hfid rfl (hf feed) rfl rfl

theorem dropPnlFeed (exc : Option PnlAnswer) (s : PnlTransport) (fid : Nat) :
    KeepsCallbacks s (dropPnlFeed exc s fid) := by
  unfold Ib.dropPnlFeed
  split
  · exact refl s
  · rename_i feed hfid
    let dropped : PnlFeed := { feed with hooked := false, waiters := [] }
    have hcallbacks : dropped.callbacks = feed.callbacks := rfl
    exact of_set hfid rfl hcallbacks rfl rfl

theorem resubscribePnl (cancelOld : Bool) (s : PnlTransport) (fid : Nat) :
    KeepsCallbacks s (resubscribePnl cancelOld s fid) := by
  unfold Ib.resubscribePnl
  split
  · exact refl s
  · rename_i feed hfid
    let asked : PnlFeed := { feed with latest := none }
    have hcallbacks : asked.callbacks = feed.callbacks := rfl
    exact of_set hfid rfl hcallbacks rfl rfl

theorem foldl {f : PnlTransport → Nat → PnlTransport} (hf : ∀ s fid, KeepsCallbacks s (f s fid))
    (fids : List Nat) (s : PnlTransport) : KeepsCallbacks s (fids.foldl f s) := by
  induction fids generalizing s with
  | nil => exact refl s
  | cons fid fids ih => exact (hf s fid).trans (ih (f s fid))

theorem releasePnl (s : PnlTransport) (fid : Nat) : KeepsCallbacks s (releasePnl s fid) := by
  have hcount : KeepsCallbacks s
      (Ib.updateFeed s fid fun f => { f with refs := f.refs - 1 }) := .updateFeed s fid fun _ => rfl
  unfold Ib.releasePnl
  dsimp only
  split
  · exact hcount
  · split_ifs
    · exact hcount.trans (.dropPnlFeed _ _ _)
    · exact hcount

theorem acquirePnl {s : PnlTransport} (hfresh : s.feeds.get? s.next = none) (key : PnlKey) :
    KeepsCallbacks s (acquirePnl s key).1 := by
  unfold Ib.acquirePnl
  split
  · exact .updateFeed s _ fun _ => rfl
  · refine ⟨rfl, Nat.le_succ _, fun fid => ?_⟩
    unfold callbacksOf
    dsimp only
    rw [Dict.get?_set]
    split_ifs with heq
    · rw [heq, hfresh]
      rfl
    · rfl

theorem snapshotPnl {s : PnlTransport} (hfresh : s.feeds.get? s.next = none) (key : PnlKey) :
    KeepsCallbacks s (snapshotPnl s key).1 := by
  have hacquired := acquirePnl hfresh key
  unfold Ib.snapshotPnl
  rcases hsplit : Ib.acquirePnl s key with ⟨s', fid⟩
  rw [hsplit] at hacquired
  dsimp only at hacquired ⊢
  split
  · exact hacquired.trans (.releasePnl s' fid)
  · have hwaits : KeepsCallbacks s'
        (Ib.updateFeed s' fid fun f => { f with waiters := f.waiters ++ [s'.next] }) :=
      .updateFeed s' fid fun _ => rfl
    have hkept := hacquired.trans hwaits
    exact ⟨hkept.handles, Nat.le_succ_of_le hkept.next, hkept.callbacks⟩

theorem leaveSnapshotPnl (s : PnlTransport) (id : Nat) (snapshot : PnlSnapshot) :
    KeepsCallbacks s (leaveSnapshotPnl s id snapshot) := by
  have hgone : KeepsCallbacks s { s with snapshots := s.snapshots.pop id } :=
    ⟨rfl, Nat.le_refl _, fun _ => rfl⟩
  have hleft : KeepsCallbacks { s with snapshots := s.snapshots.pop id }
      (Ib.updateFeed { s with snapshots := s.snapshots.pop id } snapshot.feed
        fun f => { f with waiters := f.waiters.erase id }) := .updateFeed _ _ fun _ => rfl
  exact (hgone.trans hleft).trans (.releasePnl _ _)

theorem handlePnl (s : PnlTransport) (fid : Nat) (report : PnlReport) :
    KeepsCallbacks s (handlePnl s fid report).1 := by
  unfold Ib.handlePnl
  split
  · exact refl s
  · rename_i feed hfid
    split_ifs
    · let reported : PnlFeed := { feed with latest := some report, waiters := [] }
      have hcallbacks : reported.callbacks = feed.callbacks := rfl
      exact of_set hfid rfl hcallbacks rfl rfl
    · exact refl s

theorem withAccount {s : PnlTransport} {f : String → PnlTransport}
    (hf : ∀ account, KeepsCallbacks s (f account)) : KeepsCallbacks s (withAccount s f) := by
  unfold Ib.withAccount
  split
  · exact refl s
  · exact hf _

theorem connectionStep {spec : IbConnectionSpec} {s s' : PnlTransport} {l : AttemptLabel}
    (hstep : connectionStep spec s l = some s') : KeepsCallbacks s s' := by
  obtain ⟨t, -, rfl⟩ := connectionStep_eq hstep
  have hreleased : KeepsCallbacks s
      (if endsDisconnect s.transport l then releaseAllPnl s else s) := by
    split_ifs
    · exact foldl (.dropPnlFeed _) _ _
    · exact refl s
  have hafter : KeepsCallbacks s (afterConnection s t l) :=
    ⟨hreleased.handles, hreleased.next, hreleased.callbacks⟩
  split_ifs
  · exact hafter.trans (foldl (.resubscribePnl _) _ _)
  · exact hafter.trans (foldl (.resubscribePnl _) _ _)
  · exact hafter

end KeepsCallbacks

/-- The steps of the feeds that subscribe or close no handle. -/
def KeepsHandles : PnlLabel → Prop
  | .subscribePnl _ | .subscribePositionPnl _ _ | .close _ => False
  | _ => True

theorem KeepsCallbacks.pnlStep {spec : IbConnectionSpec} {s s' : PnlTransport} {l : PnlLabel}
    (hinv : PnlInv s) (hl : KeepsHandles l) (hstep : pnlStep spec s l = some s') :
    KeepsCallbacks s s' := by
  have hfresh : s.feeds.get? s.next = none := hinv.feeds.fresh _ (Nat.le_refl _)
  cases l with
  | connection l => exact connectionStep hstep
  | subscribePnl callback => cases hl
  | subscribePositionPnl conId callback => cases hl
  | close id => cases hl
  | getPnl =>
      cases hstep
      exact withAccount fun account => snapshotPnl hfresh _
  | getPositionPnl conId =>
      cases hstep
      exact withAccount fun account => snapshotPnl hfresh _
  | snapshotEnds id wait =>
      obtain ⟨snapshot, -, rfl⟩ := snapshotEnds_eq hstep
      exact leaveSnapshotPnl s id snapshot
  | resubscribeAll cancelOld =>
      cases hstep
      exact foldl (.resubscribePnl _) _ _
  | reports fid report =>
      cases hstep
      exact handlePnl s fid report
  | socketReplaced =>
      rw [socketReplaced_eq hstep]
      exact ⟨rfl, Nat.le_refl _, fun _ => rfl⟩

/-! ## Handles given out and closed -/

theorem callbacksOf_updateFeed {s : PnlTransport} {fid : Nat} {feed : PnlFeed}
    (hfid : s.feeds.get? fid = some feed) (f : PnlFeed → PnlFeed) (fid' : Nat) :
    callbacksOf (updateFeed s fid f) fid' =
      if fid' = fid then (f feed).callbacks else callbacksOf s fid' := by
  unfold callbacksOf
  rw [get?_updateFeed, hfid]
  split_ifs <;> rfl

theorem callbacksOf_of_get? {s : PnlTransport} {fid : Nat} {feed : PnlFeed}
    (hfid : s.feeds.get? fid = some feed) : callbacksOf s fid = feed.callbacks := by
  rw [callbacksOf, hfid]
  rfl

/-- A new handle, with its callback behind those of the feed. -/
structure GivesOut (s s' : PnlTransport) (id fid callback : Nat) : Prop where
  fresh : s.next ≤ id
  next : s'.next = id + 1
  handles : s'.handles = s.handles.set id ⟨fid, callback, false⟩
  callbacks : ∀ fid', callbacksOf s' fid' =
    if fid' = fid then callbacksOf s fid ++ [callback] else callbacksOf s fid'

theorem subscribePnlFeed_givesOut {s : PnlTransport} (hinv : PnlInv s) (key : PnlKey)
    (callback : Nat) : ∃ id fid, GivesOut s (subscribePnlFeed s key callback) id fid callback := by
  have hacquired := hinv.feeds.acquire key
  have hkept := KeepsCallbacks.acquirePnl (hinv.feeds.fresh _ (Nat.le_refl _)) key
  unfold subscribePnlFeed
  rcases hsplit : acquirePnl s key with ⟨s', fid⟩
  rw [hsplit] at hacquired hkept
  dsimp only at hacquired hkept ⊢
  obtain ⟨feed, hfid⟩ : ∃ feed, s'.feeds.get? fid = some feed := by
    rw [← Option.ne_none_iff_exists']
    intro hnone
    have hzero := hacquired.use.unknown fid hnone
    simp at hzero
  refine ⟨s'.next, fid, hacquired.next, by simp, by simp [hacquired.handles], fun fid' => ?_⟩
  have hupdated := callbacksOf_updateFeed hfid (fun f =>
    { f with callbacks := f.callbacks ++ [callback] }) fid'
  rw [← hkept.callbacks fid, ← hkept.callbacks fid', callbacksOf_of_get? hfid]
  exact hupdated

/-- An open handle is closed, and its callback leaves the feed. -/
structure TakesBack (s s' : PnlTransport) (id fid callback : Nat) : Prop where
  wasOpen : s.handles.get? id = some ⟨fid, callback, false⟩
  next : s'.next = s.next
  handles : s'.handles = s.handles.set id ⟨fid, callback, true⟩
  callbacks : ∀ fid', callbacksOf s' fid' =
    if fid' = fid then (callbacksOf s fid).erase callback else callbacksOf s fid'

theorem next_releasePnl (s : PnlTransport) (fid : Nat) : (releasePnl s fid).next = s.next := by
  unfold releasePnl
  dsimp only
  split
  · simp
  · split_ifs
    · unfold dropPnlFeed
      split <;> simp
    · simp

theorem closePnlHandle_takesBack {s : PnlTransport} {id fid callback : Nat}
    (hid : s.handles.get? id = some ⟨fid, callback, false⟩) :
    TakesBack s (closePnlHandle s id) id fid callback := by
  let closed : PnlTransport := { s with handles := s.handles.set id ⟨fid, callback, true⟩ }
  let erased := updateFeed closed fid fun f => { f with callbacks := f.callbacks.erase callback }
  have hclosed : closePnlHandle s id = releasePnl erased fid := by
    simp [closePnlHandle, hid, erased, closed]
  have hkept := KeepsCallbacks.releasePnl erased fid
  rw [hclosed]
  refine ⟨hid, ?_, ?_, fun fid' => ?_⟩
  · rw [next_releasePnl]
    simp [erased, closed]
  · rw [hkept.handles]
    simp [erased, closed]
  · rw [hkept.callbacks]
    cases hfid : s.feeds.get? fid with
    | none =>
        have hsame : erased = closed := by simp [erased, updateFeed, closed, hfid]
        have hempty : callbacksOf s fid = [] := by rw [callbacksOf, hfid]; rfl
        rw [hsame]
        split_ifs with heq
        · rw [heq, hempty]
          exact hempty
        · rfl
    | some feed =>
        have hfid' : closed.feeds.get? fid = some feed := hfid
        rw [callbacksOf_updateFeed hfid', callbacksOf_of_get? hfid]
        rfl

/-! ## Open handles -/

theorem mem_openBefore {s : PnlTransport} {since feed callback id : Nat} :
    id ∈ openBefore s since feed callback ↔
      id < since ∧ s.handles.get? id = some ⟨feed, callback, false⟩ := by
  simp [openBefore]

theorem openBefore_congr {s s' : PnlTransport} (h : s'.handles = s.handles)
    (since feed callback : Nat) :
    openBefore s' since feed callback = openBefore s since feed callback := by
  simp only [openBefore, h]

/-- Handles come with the next number. -/
theorem openBefore_next {s : PnlTransport} (hinv : PnlInv s) {since : Nat}
    (hsince : s.next ≤ since) (feed callback : Nat) :
    openBefore s since feed callback = openBefore s s.next feed callback := by
  ext id
  simp only [mem_openBefore]
  constructor
  · rintro ⟨-, hid⟩
    refine ⟨?_, hid⟩
    by_contra hlate
    rw [hinv.handles id (Nat.le_of_not_lt hlate)] at hid
    cases hid
  · rintro ⟨hlt, hid⟩
    exact ⟨Nat.lt_of_lt_of_le hlt hsince, hid⟩

namespace GivesOut

variable {s s' : PnlTransport} {id fid callback : Nat}

/-- A fan-out that began earlier has nothing to do with the new handle. -/
theorem openBefore_eq (h : GivesOut s s' id fid callback) {since : Nat} (hsince : since ≤ id)
    (feed callback' : Nat) :
    openBefore s' since feed callback' = openBefore s since feed callback' := by
  ext id'
  simp only [mem_openBefore, h.handles]
  refine and_congr_right fun hlt => ?_
  rw [Dict.get?_set_of_ne _ (Nat.ne_of_lt (Nat.lt_of_lt_of_le hlt hsince))]

theorem openBefore_self (h : GivesOut s s' id fid callback) (hinv : PnlInv s) :
    openBefore s' s'.next fid callback = insert id (openBefore s s.next fid callback) := by
  ext id'
  rw [← openBefore_next hinv (Nat.le_succ_of_le h.fresh), h.next]
  simp only [Finset.mem_insert, mem_openBefore, h.handles, Dict.get?_set]
  split_ifs with heq
  · simp [heq]
  · simp [heq]

theorem openBefore_other (h : GivesOut s s' id fid callback) (hinv : PnlInv s)
    {feed callback' : Nat} (hne : ¬ (feed = fid ∧ callback' = callback)) :
    openBefore s' s'.next feed callback' = openBefore s s.next feed callback' := by
  ext id'
  rw [← openBefore_next hinv (Nat.le_succ_of_le h.fresh), h.next]
  simp only [mem_openBefore, h.handles, Dict.get?_set]
  refine and_congr_right fun _ => ?_
  split_ifs with heq
  · rw [heq, hinv.handles id h.fresh]
    simp only [Option.some.injEq, PnlHandle.mk.injEq, reduceCtorEq, iff_false]
    exact fun hsame => hne ⟨hsame.1.symm, hsame.2.1.symm⟩
  · exact Iff.rfl

end GivesOut

/-- Closing takes the handle away. -/
theorem TakesBack.openBefore_eq {s s' : PnlTransport} {id fid callback : Nat}
    (h : TakesBack s s' id fid callback) (since feed callback' : Nat) :
    openBefore s' since feed callback' = (openBefore s since feed callback').erase id := by
  ext id'
  simp only [Finset.mem_erase, mem_openBefore, h.handles, Dict.get?_set]
  split_ifs with heq
  · simp [heq]
  · simp [heq]

/-! ## The invariant -/

/-- The calls a fan-out has left are for open handles. -/
def PendingOpen (s : PnlTransport) : CallFrame → Prop
  | .market _ => True
  | .pnl feed since left => since ≤ s.next ∧
      ∀ callback, left.count callback ≤ (openBefore s since feed callback).card

/-- A feed has its callbacks as often as they have open handles. -/
structure Counted (s : PnlTransport) : Prop where
  inv : PnlInv s
  count : ∀ fid callback,
    (callbacksOf s fid).count callback = (openBefore s s.next fid callback).card

structure CallingInv (s : CallingTransport) : Prop where
  sharing : SharingInv s.market
  counted : Counted s.pnl
  pending : ∀ frame ∈ s.stack, PendingOpen s.pnl frame

theorem callingInv_init (spec : IbConnectionSpec) : CallingInv (.init spec) where
  sharing := sharingInv_init
  counted := ⟨pnlInv_init spec, fun _ _ => rfl⟩
  pending := by
    intro frame hframe
    cases hframe

theorem Counted.keep {s s' : PnlTransport} (h : Counted s) (hkept : KeepsCallbacks s s')
    (hinv : PnlInv s') : Counted s' := by
  refine ⟨hinv, fun fid callback => ?_⟩
  rw [hkept.callbacks, openBefore_congr hkept.handles, openBefore_next h.inv hkept.next]
  exact h.count fid callback

theorem Counted.giveOut {s s' : PnlTransport} {id fid callback : Nat} (h : Counted s)
    (hgiven : GivesOut s s' id fid callback) (hinv : PnlInv s') : Counted s' := by
  refine ⟨hinv, fun feed callback' => ?_⟩
  have hcount := h.count feed callback'
  rw [hgiven.callbacks]
  by_cases hsame : feed = fid ∧ callback' = callback
  · obtain ⟨rfl, rfl⟩ := hsame
    have hnew : id ∉ openBefore s s.next feed callback' := by
      intro hmem
      exact absurd (mem_openBefore.1 hmem).1 (Nat.not_lt.2 hgiven.fresh)
    rw [if_pos rfl, hgiven.openBefore_self h.inv, Finset.card_insert_of_notMem hnew]
    simp [hcount]
  · rw [hgiven.openBefore_other h.inv hsame]
    split_ifs with hfeed
    · have hother : callback' ≠ callback := fun heq => hsame ⟨hfeed, heq⟩
      rw [List.count_append, List.count_singleton, ← hfeed, hcount]
      simp [hother.symm]
    · exact hcount

/-- The handle is one of those open for its callback. -/
theorem TakesBack.mem {s s' : PnlTransport} {id fid callback since : Nat}
    (h : TakesBack s s' id fid callback) (hsince : id < since) :
    id ∈ openBefore s since fid callback :=
  mem_openBefore.2 ⟨hsince, h.wasOpen⟩

/-- The handle is open for no other feed or callback, and not before it was given out. -/
theorem TakesBack.not_mem {s s' : PnlTransport} {id fid callback since feed callback' : Nat}
    (h : TakesBack s s' id fid callback)
    (hother : ¬ (feed = fid ∧ callback' = callback ∧ id < since)) :
    id ∉ openBefore s since feed callback' := by
  intro hmem
  obtain ⟨hlt, hid⟩ := mem_openBefore.1 hmem
  rw [h.wasOpen] at hid
  cases hid
  exact hother ⟨rfl, rfl, hlt⟩

theorem Counted.takeBack {s s' : PnlTransport} {id fid callback : Nat} (h : Counted s)
    (htaken : TakesBack s s' id fid callback) (hinv : PnlInv s') : Counted s' := by
  have hlt : id < s.next := by
    by_contra hlate
    have hnone := h.inv.handles id (Nat.le_of_not_lt hlate)
    rw [htaken.wasOpen] at hnone
    cases hnone
  refine ⟨hinv, fun feed callback' => ?_⟩
  have hcount := h.count feed callback'
  rw [htaken.callbacks, htaken.next, htaken.openBefore_eq]
  by_cases hsame : feed = fid ∧ callback' = callback
  · obtain ⟨rfl, rfl⟩ := hsame
    rw [if_pos rfl, List.count_erase_self, Finset.card_erase_of_mem (htaken.mem hlt), hcount]
  · have hnot : id ∉ openBefore s s.next feed callback' :=
      htaken.not_mem fun heq => hsame ⟨heq.1, heq.2.1⟩
    rw [Finset.erase_eq_of_notMem hnot]
    split_ifs with hfeed
    · have hother : callback' ≠ callback := fun heq => hsame ⟨hfeed, heq⟩
      rw [List.count_erase_of_ne hother, ← hfeed, hcount]
    · exact hcount

theorem PendingOpen.keep {s s' : PnlTransport} {frame : CallFrame} (h : PendingOpen s frame)
    (hkept : KeepsCallbacks s s') : PendingOpen s' frame := by
  cases frame with
  | market frame => trivial
  | pnl feed since left =>
      refine ⟨Nat.le_trans h.1 hkept.next, fun callback => ?_⟩
      rw [openBefore_congr hkept.handles]
      exact h.2 callback

theorem PendingOpen.giveOut {s s' : PnlTransport} {id fid callback : Nat} {frame : CallFrame}
    (h : PendingOpen s frame) (hgiven : GivesOut s s' id fid callback) : PendingOpen s' frame := by
  cases frame with
  | market frame => trivial
  | pnl feed since left =>
      have hsince : since ≤ id := Nat.le_trans h.1 hgiven.fresh
      refine ⟨?_, fun callback' => ?_⟩
      · rw [hgiven.next]
        exact Nat.le_succ_of_le hsince
      · rw [hgiven.openBefore_eq hsince]
        exact h.2 callback'

/-- A handle whose call has been made leaves enough open ones for the calls that are left. -/
theorem PendingOpen.takeBack {s s' : PnlTransport} {id fid callback : Nat} {frame : CallFrame}
    (h : PendingOpen s frame) (htaken : TakesBack s s' id fid callback)
    (hcalled : CalledBefore s id ⟨fid, callback, false⟩ frame) : PendingOpen s' frame := by
  cases frame with
  | market frame => trivial
  | pnl feed since left =>
      refine ⟨h.1.trans htaken.next.ge, fun callback' => ?_⟩
      have hleft := h.2 callback'
      rw [htaken.openBefore_eq]
      by_cases hsame : feed = fid ∧ callback' = callback ∧ id < since
      · obtain ⟨rfl, rfl, hlt⟩ := hsame
        have hfewer : left.count callback' < (openBefore s since feed callback').card :=
          hcalled rfl hlt
        rw [Finset.card_erase_of_mem (htaken.mem hlt)]
        omega
      · rw [Finset.erase_eq_of_notMem (htaken.not_mem hsame)]
        exact hleft

/-! ## Steps -/

/-- The bus calls open subscriptions only. -/
theorem MarketInv.publish_open {s : MarketData} (h : MarketInv s) {id : Nat} {payload : Payload}
    {call : Delivery} (hcall : call ∈ publish s.subs id payload) :
    ∃ handle, s.subs.handles.get? call.subscription = some handle ∧ handle.closed = false := by
  obtain ⟨hpos, rfl⟩ := List.mem_replicate.1 hcall
  rw [h.subscribers.bus] at hpos
  cases hsub : s.subs.subscriptions.get? id with
  | none => simp [hsub] at hpos
  | some sub =>
      obtain ⟨handle, hid, hopen, -⟩ := (h.subscribers.subscriptions id sub).1 hsub
      exact ⟨handle, hid, hopen⟩

theorem CallingInv.callsOpen {s : CallingTransport} (h : CallingInv s) (l : CallingLabel) :
    CallsOpen s l := by
  cases l with
  | market l => trivial
  | pnl l => trivial
  | resume =>
      unfold CallsOpen
      dsimp only
      split
      · exact fun call hcall => h.sharing.market.publish_open hcall
      · rename_i feed since callback left stack hstack
        have hpending : PendingOpen s.pnl (.pnl feed since (callback :: left)) :=
          h.pending _ (by simp [hstack])
        exact hpending.2 callback
      · trivial

/-- A step of the streams leaves the feeds and the fan-outs of the feeds alone. -/
theorem CallingInv.withMarket {s : CallingTransport} (h : CallingInv s) {stack : List CallFrame}
    (hstack : ∀ frame ∈ stack, frame ∈ s.stack) {c : CallbackState}
    (hmarket : SharingInv c.market) :
    CallingInv (withMarket s stack c) := by
  refine ⟨hmarket, h.counted, fun frame hframe => ?_⟩
  rcases List.mem_append.1 hframe with hnew | hold
  · obtain ⟨f, -, rfl⟩ := List.mem_map.1 hnew
    trivial
  · exact h.pending frame (hstack frame hold)

theorem CallingInv.resumeCalls {s s' : CallingTransport} (h : CallingInv s)
    (hstep : resumeCalls s = some s') : CallingInv s' := by
  unfold Ib.resumeCalls at hstep
  split at hstep
  · cases hstep
  · rename_i frame stack hstack
    obtain ⟨c, hc, rfl⟩ := Option.map_eq_some_iff.1 hstep
    have hcall : callbackStep 0 ⟨s.market, [frame]⟩ .resume = some c := hc
    refine h.withMarket (fun f hf => ?_) (h.sharing.move (callbackStep_move hcall))
    rw [hstack]
    exact List.mem_cons_of_mem _ hf
  · rename_i feed since stack hstack
    cases hstep
    refine ⟨h.sharing, h.counted, fun f hf => h.pending f ?_⟩
    rw [hstack]
    exact List.mem_cons_of_mem _ hf
  · rename_i feed since callback left stack hstack
    cases hstep
    refine ⟨h.sharing, h.counted, fun f hf => ?_⟩
    rcases List.mem_cons.1 hf with rfl | hold
    · have hpending : PendingOpen s.pnl (.pnl feed since (callback :: left)) :=
        h.pending _ (by simp [hstack])
      refine ⟨hpending.1, fun callback' => Nat.le_trans ?_ (hpending.2 callback')⟩
      exact List.count_le_count_cons
    · refine h.pending f ?_
      rw [hstack]
      exact List.mem_cons_of_mem _ hold

/-- A report is handed to the callbacks the feed has now. -/
theorem CallingInv.reports {s : CallingTransport} (h : CallingInv s) (fid : Nat)
    (report : PnlReport) :
    CallingInv { s with
      pnl := (handlePnl s.pnl fid report).1
      stack := .pnl fid s.pnl.next (handlePnl s.pnl fid report).2 :: s.stack } := by
  have hkept := KeepsCallbacks.handlePnl s.pnl fid report
  refine ⟨h.sharing, h.counted.keep hkept (h.counted.inv.handlePnl fid report), ?_⟩
  intro frame hframe
  rcases List.mem_cons.1 hframe with rfl | hold
  · refine ⟨hkept.next, fun callback => ?_⟩
    have hcopied : ((handlePnl s.pnl fid report).2).count callback ≤
        (callbacksOf s.pnl fid).count callback := by
      unfold handlePnl
      cases hfid : s.pnl.feeds.get? fid with
      | none => simp
      | some feed =>
          rw [callbacksOf_of_get? hfid]
          dsimp only
          split_ifs
          · exact Nat.le_refl _
          · simp
    rw [openBefore_congr hkept.handles, ← h.counted.count]
    exact hcopied
  · exact (h.pending frame hold).keep hkept

theorem CallingInv.keep {s : CallingTransport} (h : CallingInv s) {pnl : PnlTransport}
    (hkept : KeepsCallbacks s.pnl pnl) (hinv : PnlInv pnl) : CallingInv { s with pnl := pnl } :=
  ⟨h.sharing, h.counted.keep hkept hinv, fun frame hframe => (h.pending frame hframe).keep hkept⟩

theorem CallingInv.subscribe {s : CallingTransport} (h : CallingInv s) (key : String → PnlKey)
    (callback : Nat) :
    CallingInv { s with
      pnl := withAccount s.pnl fun account => subscribePnlFeed s.pnl (key account) callback } := by
  unfold Ib.withAccount
  split
  · exact h
  · rename_i account haccount
    obtain ⟨id, fid, hgiven⟩ := subscribePnlFeed_givesOut h.counted.inv (key account) callback
    refine ⟨h.sharing, h.counted.giveOut hgiven (h.counted.inv.subscribePnlFeed _ _), ?_⟩
    exact fun frame hframe => (h.pending frame hframe).giveOut hgiven

/-- A handle that is not open is not closed again. -/
theorem closePnlHandle_of_not_open {s : PnlTransport} {id : Nat}
    (h : ∀ fid callback, s.handles.get? id ≠ some ⟨fid, callback, false⟩) :
    closePnlHandle s id = s := by
  unfold closePnlHandle
  split
  · rfl
  · rename_i handle hid
    rcases handle with ⟨fid, callback, closed⟩
    cases closed with
    | true => rfl
    | false => exact absurd hid (h fid callback)

theorem CallingInv.close {s : CallingTransport} (h : CallingInv s) {id : Nat}
    (hcloses : ClosesAfterCalls s (.pnl (.close id))) :
    CallingInv { s with pnl := closePnlHandle s.pnl id } := by
  by_cases hopen : ∃ fid callback, s.pnl.handles.get? id = some ⟨fid, callback, false⟩
  · obtain ⟨fid, callback, hid⟩ := hopen
    have htaken := closePnlHandle_takesBack hid
    refine ⟨h.sharing, h.counted.takeBack htaken (h.counted.inv.closePnlHandle id), ?_⟩
    intro frame hframe
    exact (h.pending frame hframe).takeBack htaken (hcloses _ hid rfl frame hframe)
  · have hsame : closePnlHandle s.pnl id = s.pnl :=
      closePnlHandle_of_not_open fun fid callback hid => hopen ⟨fid, callback, hid⟩
    rw [hsame]
    exact h

/-- Every step keeps the invariant, as long as handles are closed after their calls. -/
theorem CallingInv.step {spec : IbConnectionSpec} {s s' : CallingTransport} {l : CallingLabel}
    (h : CallingInv s) (hcloses : ClosesAfterCalls s l)
    (hstep : callingStep spec s l = some s') : CallingInv s' := by
  cases l with
  | market l =>
      obtain ⟨c, hc, rfl⟩ := Option.map_eq_some_iff.1 hstep
      have hop : callbackStep spec.marketDataLines ⟨s.market, []⟩ (.op l) = some c := hc
      exact h.withMarket (fun _ hf => hf) (h.sharing.move (callbackStep_move hop))
  | resume => exact h.resumeCalls hstep
  | pnl l =>
      have hother : (pnlStep spec s.pnl l).map (fun pnl => { s with pnl := pnl }) = some s' →
          KeepsHandles l → CallingInv s' := by
        intro hmap hl
        obtain ⟨pnl, hpnl, rfl⟩ := Option.map_eq_some_iff.1 hmap
        exact h.keep (.pnlStep h.counted.inv hl hpnl) (h.counted.inv.step hpnl)
      cases l with
      | reports fid report =>
          cases hstep
          exact h.reports fid report
      | subscribePnl callback =>
          cases hstep
          exact h.subscribe (fun account => .pnl account "") callback
      | subscribePositionPnl conId callback =>
          cases hstep
          exact h.subscribe (fun account => .single account "" conId) callback
      | close id =>
          cases hstep
          exact h.close hcloses
      | connection l => exact hother hstep trivial
      | getPnl => exact hother hstep trivial
      | getPositionPnl conId => exact hother hstep trivial
      | snapshotEnds id wait => exact hother hstep trivial
      | resubscribeAll cancelOld => exact hother hstep trivial
      | socketReplaced => exact hother hstep trivial

/-! ## Fan-outs that go on -/

theorem CallingInv.noCallAfterClose {spec : IbConnectionSpec} {s : CallingTransport}
    (h : CallingInv s) : NoCallAfterClose spec s := by
  intro n
  induction n generalizing s with
  | zero => trivial
  | succ n ih => exact fun s' hstep => ⟨h.callsOpen _, ih (h.resumeCalls hstep)⟩

/-- The next call is for an open handle, and so are those after it. -/
theorem NoCallAfterClose.resume {spec : IbConnectionSpec} {s s' : CallingTransport}
    (h : NoCallAfterClose spec s) (hstep : resumeCalls s = some s') :
    CallsOpen s .resume ∧ NoCallAfterClose spec s' :=
  ⟨(h 1 s' hstep).1, fun n => (h (n + 1) s' hstep).2⟩

/-- Number of calls a fan-out has left. -/
def callsLeft : CallFrame → Nat
  | .market (.publishing left) => left.length
  | .market (.failing _ left) => left.length
  | .pnl _ _ left => left.length

/-- The innermost fan-out makes one of its calls, or ends. -/
theorem resumeCalls_top {s : CallingTransport} {top : CallFrame} {rest : List CallFrame}
    (hstack : s.stack = top :: rest) :
    ∃ s', resumeCalls s = some s' ∧ s'.pnl = s.pnl ∧
      (s'.stack = rest ∨ ∃ top', callsLeft top' < callsLeft top ∧ s'.stack = top' :: rest) := by
  unfold resumeCalls
  rw [hstack]
  rcases top with (⟨_ | ⟨d, left⟩⟩ | ⟨exc, _ | ⟨id, left⟩⟩) | ⟨feed, since, _ | ⟨callback, left⟩⟩
  · exact ⟨_, rfl, rfl, Or.inl rfl⟩
  · exact ⟨_, rfl, rfl, Or.inr ⟨.market (.publishing left), Nat.lt_succ_self _, rfl⟩⟩
  · exact ⟨_, rfl, rfl, Or.inl rfl⟩
  · exact ⟨_, rfl, rfl, Or.inr ⟨.market (.failing exc left), Nat.lt_succ_self _, rfl⟩⟩
  · exact ⟨_, rfl, rfl, Or.inl rfl⟩
  · exact ⟨_, rfl, rfl, Or.inr ⟨.pnl feed since left, Nat.lt_succ_self _, rfl⟩⟩

/-- The innermost fan-out ends at some time. -/
theorem NoCallAfterClose.ends {spec : IbConnectionSpec} {s : CallingTransport}
    (h : NoCallAfterClose spec s) {top : CallFrame} {rest : List CallFrame}
    (hstack : s.stack = top :: rest) :
    ∃ s', NoCallAfterClose spec s' ∧ s'.pnl = s.pnl ∧ s'.stack = rest := by
  induction hn : callsLeft top using Nat.strong_induction_on generalizing s top with
  | _ n ih =>
      obtain ⟨s', hstep, hpnl, hends | ⟨top', hless, hgoes⟩⟩ := resumeCalls_top hstack
      · exact ⟨s', (h.resume hstep).2, hpnl, hends⟩
      · subst hn
        obtain ⟨s'', hs'', hpnl', hrest⟩ := ih _ hless (h.resume hstep).2 hgoes rfl
        exact ⟨s'', hs'', hpnl'.trans hpnl, hrest⟩

/-- The innermost fan-out has calls for open handles only. -/
theorem NoCallAfterClose.count_le {spec : IbConnectionSpec} {s : CallingTransport}
    (h : NoCallAfterClose spec s) {feed since : Nat} {left : List Nat} {rest : List CallFrame}
    (hstack : s.stack = .pnl feed since left :: rest) (callback : Nat) :
    left.count callback ≤ (openBefore s.pnl since feed callback).card := by
  induction left generalizing s with
  | nil => exact Nat.zero_le _
  | cons next left ih =>
      have hstep : resumeCalls s = some { s with stack := .pnl feed since left :: rest } := by
        unfold resumeCalls
        rw [hstack]
      obtain ⟨hcall, hrest⟩ := h.resume hstep
      by_cases heq : next = callback
      · subst heq
        unfold CallsOpen at hcall
        rw [hstack] at hcall
        exact hcall
      · rw [List.count_cons_of_ne heq]
        have hlater := ih hrest rfl
        exact hlater

/-- The same of every fan-out under way. -/
theorem NoCallAfterClose.pending {spec : IbConnectionSpec} {s : CallingTransport}
    (h : NoCallAfterClose spec s) {feed since : Nat} {left : List Nat}
    (hframe : .pnl feed since left ∈ s.stack) (callback : Nat) :
    left.count callback ≤ (openBefore s.pnl since feed callback).card := by
  induction hstack : s.stack generalizing s with
  | nil =>
      rw [hstack] at hframe
      cases hframe
  | cons top rest ih =>
      rw [hstack] at hframe
      rcases List.mem_cons.1 hframe with heq | hlater
      · rw [← heq] at hstack
        exact h.count_le hstack callback
      · obtain ⟨s', hs', hpnl, hrest⟩ := h.ends hstack
        rw [← hpnl]
        exact ih hs' (hrest ▸ hlater) hrest

/-- A step after which only open handles are called closes none that is still to be called. -/
theorem closesAfterCalls_of_noCallAfterClose {spec : IbConnectionSpec} {s s' : CallingTransport}
    {l : CallingLabel} (hstep : callingStep spec s l = some s') (h : NoCallAfterClose spec s') :
    ClosesAfterCalls s l := by
  cases l with
  | market l => trivial
  | resume => trivial
  | pnl l =>
      cases l with
      | close id =>
          cases hstep
          rintro ⟨fid, callback, closed⟩ hid hopen frame hframe
          cases hopen
          cases frame with
          | market frame => trivial
          | pnl feed since left =>
              rintro rfl hlt
              have htaken := closePnlHandle_takesBack hid
              have hmem := htaken.mem hlt
              have hpos := Finset.card_pos.2 ⟨id, hmem⟩
              have hleft := h.pending hframe callback
              rw [htaken.openBefore_eq, Finset.card_erase_of_mem hmem] at hleft
              dsimp only
              omega
      | _ => trivial

/-! ## Runs -/

/-- No callback is called once its handle was closed, in any state of a run and however its
fan-outs go on, exactly when every handle of a feed is closed after the calls that the fan-outs
under way have for it. -/
theorem noCallAfterClose_iff (spec : IbConnectionSpec) (ls : List CallingLabel) :
    (callingMachine spec).AllStates (NoCallAfterClose spec) (callingMachine spec).init ls ↔
      (callingMachine spec).AllSteps ClosesAfterCalls (callingMachine spec).init ls := by
  have hkept : ∀ s l s', CallingInv s → ClosesAfterCalls s l →
      (callingMachine spec).step s l = some s' → CallingInv s' :=
    fun _ _ _ h hcloses hstep => h.step hcloses hstep
  have hexact : ∀ s l s', CallingInv s → (callingMachine spec).step s l = some s' →
      NoCallAfterClose spec s' → ClosesAfterCalls s l :=
    fun _ _ _ _ hstep h => closesAfterCalls_of_noCallAfterClose hstep h
  exact (callingMachine spec).allStates_iff_allSteps hkept (fun _ h => h.noCallAfterClose) hexact
    (callingInv_init spec)

/-- Two handles share a feed; a report is under way, and the first callback closes the second
handle.  Its callback is called next. -/
theorem closed_handle_is_called :
    ∃ s, (callingMachine .default).run (callingMachine .default).init
        [.pnl (.connection (.base .connect)),
          .pnl (.connection (.base (.opened 0 ["DU1"] none))),
          .pnl (.connection (.base (.reconciled 0))), .pnl (.connection (.base (.synced 0))),
          .pnl (.subscribePnl 7), .pnl (.subscribePnl 8),
          .pnl (.reports 0 (.pnl ⟨"DU1", none, none, none⟩)), .resume,
          .pnl (.close 2)] = some s ∧
      s.pnl.handles.get? 2 = some ⟨0, 8, true⟩ ∧ s.stack = [.pnl 0 3 [8]] ∧
      ¬ CallsOpen s .resume ∧ ¬ NoCallAfterClose .default s := by
  refine ⟨_, rfl, rfl, rfl, ?_, ?_⟩
  · intro hcall
    have hopen : [8].count 8 ≤ (openBefore _ 3 0 8).card := hcall
    exact absurd hopen (by decide)
  · intro hcalls
    have hopen : [8].count 8 ≤ (openBefore _ 3 0 8).card := (hcalls 1 _ rfl).1
    exact absurd hopen (by decide)

end Ib
end MarketConnector
