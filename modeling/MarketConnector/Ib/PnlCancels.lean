import MarketConnector.Ib.PnlSharing

/-!
# Ib - What is cancelled, and by whom

IB's request of a feed is cancelled when the last user leaves, when all requests are
replaced, and at the end of a `disconnect()`.  A handle whose feed is gone cancels nothing.

Main results:

- Theorem `pnlStep_cancelled`: which requests a step cancels.
- Theorem `closesLate`: closing a handle after its feed was dropped.
-/

namespace MarketConnector
namespace Ib

open Foundations

/-! ## What a step cancels -/

/-- The feed that a user leaves in a step. -/
def leftFeed (s : PnlTransport) : PnlLabel → Option Nat
  | .close id => ((s.handles.get? id).filter fun h => !h.closed).map PnlHandle.feed
  | .snapshotEnds id _ => (s.snapshots.get? id).map PnlSnapshot.feed
  | _ => none

/-- The step ends a `disconnect()`, or replaces the requests of all feeds. -/
def cancelsAll (s : PnlTransport) : PnlLabel → Bool
  | .connection l => endsDisconnect s.transport l || losesData s.transport l
  | .resubscribeAll cancelOld => cancelOld
  | _ => false

/-- The keys whose request a step is to cancel: those of all feeds, or that of the feed
whose last user leaves. -/
def cancelledKeys (s : PnlTransport) (l : PnlLabel) : List PnlKey :=
  if cancelsAll s l then s.registry.keys
  else
    match leftFeed s l with
    | none => []
    | some fid =>
        if pnlUsers s fid = 1 then
          s.registry.keys.filter fun key => s.registry.get? key = some fid
        else []

/-- The step cancels the latest request of each of these keys, and nothing else. -/
def CancelsExactly (spec : IbConnectionSpec) (s : PnlTransport) (l : PnlLabel) : Prop :=
  ∀ s', pnlStep spec s l = some s' →
    s'.requests.cancelled = s.requests.cancelled ++ s.requests.currentOf (cancelledKeys s l)

/-- A feed is registered under one key. -/
theorem FeedInv.filter_keys {s : PnlTransport} {users : Nat → Nat} (h : FeedInv s users)
    {key : PnlKey} {fid : Nat} (hkey : s.registry.get? key = some fid) :
    (s.registry.keys.filter fun key' => s.registry.get? key' = some fid) = [key] := by
  have honly : ∀ key' ∈ s.registry.keys,
      decide (s.registry.get? key' = some fid) = (key' == key) := by
    intro key' _
    rw [beq_eq_decide]
    refine decide_eq_decide.2 ⟨fun hkey' => ?_, fun heq => heq ▸ hkey⟩
    obtain ⟨feed, hfid, rfl⟩ := h.keyed key fid hkey
    obtain ⟨feed', hfid', rfl⟩ := h.keyed key' fid hkey'
    cases hfid.symm.trans hfid'
    rfl
  have hmem : key ∈ s.registry.keys := by
    rw [isOpen_of_mem_keys]
    simp [PnlTransport.IsOpen, hkey]
  have hone : s.registry.keys.count key = 1 := List.count_eq_one_of_mem s.registry.nodup hmem
  rw [List.filter_congr honly, List.filter_beq, hone]
  rfl

/-- The last user that leaves a registered feed cancels its request. -/
theorem cancelled_leave {s s' : PnlTransport} (hinv : PnlInv s) {fid : Nat}
    (hleaving : Leaving s s' fid) :
    (releasePnl s' fid).requests.cancelled = s.requests.cancelled ++ s.requests.currentOf
      (if pnlUsers s fid = 1 then
        s.registry.keys.filter fun key => s.registry.get? key = some fid
      else []) := by
  have hone := hleaving.users_self
  rcases (hleaving.feedInv hinv).release_cases hone with
    ⟨key, hkey, hzero, -, hrequests⟩ | ⟨hleft, -, hrequests⟩
  · rw [hleaving.registry] at hkey
    rw [hrequests, if_pos (by omega), hinv.feeds.filter_keys hkey, Requests.cancelled_cancel,
      hleaving.requests]
  · have hnone : (if pnlUsers s fid = 1 then
        s.registry.keys.filter fun key => s.registry.get? key = some fid else []) = [] := by
      split_ifs with hlast
      · rw [List.filter_eq_nil_iff]
        intro key _ hkey
        have hpos := hleft key (by rw [hleaving.registry]; simpa using hkey)
        omega
      · rfl
    rw [hrequests, hleaving.requests, hnone]
    simp [Requests.currentOf]

theorem cancelled_acquirePnl (s : PnlTransport) (key : PnlKey) :
    (acquirePnl s key).1.requests.cancelled = s.requests.cancelled := by
  unfold acquirePnl
  split
  · simp
  · rfl

theorem cancelled_withAccount {s : PnlTransport} {f : String → PnlTransport}
    (hf : ∀ account, (f account).requests.cancelled = s.requests.cancelled) :
    (withAccount s f).requests.cancelled = s.requests.cancelled := by
  unfold withAccount
  split
  · rfl
  · exact hf _

theorem cancelled_subscribePnlFeed (s : PnlTransport) (key : PnlKey) (callback : Nat) :
    (subscribePnlFeed s key callback).requests.cancelled = s.requests.cancelled := by
  unfold subscribePnlFeed
  simp [cancelled_acquirePnl]

theorem cancelled_snapshotPnl {s : PnlTransport} (hinv : PnlInv s) (key : PnlKey) :
    (snapshotPnl s key).1.requests.cancelled = s.requests.cancelled := by
  rw [(snapshotPnl_acquires hinv key).2.1, cancelled_acquirePnl]

theorem cancelled_handlePnl (s : PnlTransport) (fid : Nat) (report : PnlReport) :
    (handlePnl s fid report).1.requests.cancelled = s.requests.cancelled := by
  unfold handlePnl
  split
  · rfl
  · split_ifs <;> rfl

theorem cancelled_resubscribeAllPnl {s : PnlTransport} {users : Nat → Nat}
    (hfeeds : FeedInv s users) (cancelOld : Bool) :
    (resubscribeAllPnl s cancelOld).requests.cancelled = s.requests.cancelled ++
      if cancelOld then s.requests.currentOf s.registry.keys else [] := by
  obtain ⟨feeds, -, heq⟩ := hfeeds.resubscribeAllPnl_eq cancelOld
  rw [heq]
  exact Requests.cancelled_reissueAll _ _ _ s.registry.nodup

/-- The end of `disconnect()` is no other step. -/
theorem endsDisconnect_only (spec : IbConnectionSpec) {s : Transport} {l : AttemptLabel}
    (hends : endsDisconnect s l = true) :
    completes spec s true l = false ∧ losesData s l = false := by
  unfold endsDisconnect at hends
  split at hends
  · exact ⟨rfl, rfl⟩
  · exact ⟨rfl, rfl⟩
  · cases hends

theorem losesData_only {spec : IbConnectionSpec} {s : Transport} {l : AttemptLabel}
    (hcompletes : completes spec s true l = true) : losesData s l = false := by
  unfold completes at hcompletes
  split at hcompletes
  · rfl
  · rfl
  · cases hcompletes

/-- Losing the socket cancels nothing. -/
theorem cancelled_afterConnection {s : PnlTransport} {users : Nat → Nat} (hfeeds : FeedInv s users)
    (t : Transport) (l : AttemptLabel) :
    (afterConnection s t l).requests.cancelled = s.requests.cancelled ++
      if endsDisconnect s.transport l then s.requests.currentOf s.registry.keys else [] := by
  have hreleased :
      (if endsDisconnect s.transport l then releaseAllPnl s else s).requests.cancelled =
        s.requests.cancelled ++
        if endsDisconnect s.transport l then s.requests.currentOf s.registry.keys else [] := by
    split_ifs
    · obtain ⟨feeds, snapshots, -, -, heq⟩ := hfeeds.releaseAllPnl_eq
      rw [heq]
      exact Requests.cancelled_cancelAll _ _
    · simp
  rw [← hreleased]
  unfold afterConnection
  cases hsocket : t.socketUp with
  | true => simp
  | false => simp [Requests.lose]

theorem cancelsExactly_connection {spec : IbConnectionSpec} {s : PnlTransport} (hinv : PnlInv s)
    (l : AttemptLabel) : CancelsExactly spec s (.connection l) := by
  intro s' hstep
  obtain ⟨t, ht, rfl⟩ := connectionStep_eq hstep
  have hafter := hinv.afterConnection t l
  have hcancelled := cancelled_afterConnection hinv.feeds t l
  -- outside the end of `disconnect()` registry and latest requests stay
  have hsame : endsDisconnect s.transport l = false →
      (afterConnection s t l).requests.currentOf (afterConnection s t l).registry.keys =
        s.requests.currentOf s.registry.keys := by
    intro hends
    simp only [afterConnection, hends, Bool.false_eq_true, if_false]
    cases t.socketUp <;> rfl
  have hkeys : s.requests.currentOf (cancelledKeys s (.connection l)) =
      if endsDisconnect s.transport l || losesData s.transport l then
        s.requests.currentOf s.registry.keys else [] := by
    unfold cancelledKeys cancelsAll leftFeed
    split_ifs <;> simp [Requests.currentOf]
  rw [hkeys]
  cases hends : endsDisconnect s.transport l with
  | true =>
      obtain ⟨hcompletes, hloses⟩ := endsDisconnect_only spec hends
      rw [hcompletes, hloses]
      simpa [hends] using hcancelled
  | false =>
      simp only [hends, Bool.false_eq_true, if_false, List.append_nil] at hcancelled
      cases hcompletes : completes spec s.transport true l with
      | true =>
          rw [if_pos rfl, cancelled_resubscribeAllPnl hafter.feeds, hcancelled,
            losesData_only hcompletes]
          rfl
      | false =>
          cases hloses : losesData s.transport l with
          | true =>
              rw [if_neg (by simp), if_pos rfl, cancelled_resubscribeAllPnl hafter.feeds,
                hcancelled, hsame hends]
              rfl
          | false => simpa using hcancelled

/-- Every step cancels what it is to cancel. -/
theorem pnlStep_cancelled {spec : IbConnectionSpec} {s : PnlTransport} (hinv : PnlInv s)
    (l : PnlLabel) : CancelsExactly spec s l := by
  -- steps in which no user leaves
  have hnone : ∀ (l : PnlLabel) (s' : PnlTransport), cancelsAll s l = false → leftFeed s l = none →
      s'.requests.cancelled = s.requests.cancelled →
        s'.requests.cancelled = s.requests.cancelled ++
          s.requests.currentOf (cancelledKeys s l) := by
    intro l s' hall hleft heq
    simp [cancelledKeys, hall, hleft, heq, Requests.currentOf]
  cases l with
  | connection l => exact cancelsExactly_connection hinv l
  | subscribePnl callback =>
      intro s' hstep
      cases hstep
      exact hnone _ _ rfl rfl (cancelled_withAccount fun _ => cancelled_subscribePnlFeed _ _ _)
  | subscribePositionPnl conId callback =>
      intro s' hstep
      cases hstep
      exact hnone _ _ rfl rfl (cancelled_withAccount fun _ => cancelled_subscribePnlFeed _ _ _)
  | getPnl =>
      intro s' hstep
      cases hstep
      exact hnone _ _ rfl rfl (cancelled_withAccount fun _ => cancelled_snapshotPnl hinv _)
  | getPositionPnl conId =>
      intro s' hstep
      cases hstep
      exact hnone _ _ rfl rfl (cancelled_withAccount fun _ => cancelled_snapshotPnl hinv _)
  | reports fid report =>
      intro s' hstep
      cases hstep
      exact hnone _ _ rfl rfl (cancelled_handlePnl s fid report)
  | socketReplaced =>
      intro s' hstep
      rw [socketReplaced_eq hstep]
      exact hnone _ _ rfl rfl rfl
  | resubscribeAll cancelOld =>
      intro s' hstep
      cases hstep
      rw [cancelled_resubscribeAllPnl hinv.feeds]
      cases cancelOld with
      | true => rfl
      | false => rfl
  | close id =>
      intro s' hstep
      cases hstep
      rcases closePnlHandle_cases s id with ⟨handle, s', hid, hopen, hleaving, heq⟩ | ⟨hclosed, heq⟩
      · rw [heq, cancelled_leave hinv hleaving]
        simp [cancelledKeys, cancelsAll, leftFeed, hid, Option.filter, hopen]
      · refine hnone _ _ rfl ?_ (by rw [heq])
        cases hid : s.handles.get? id with
        | none => simp [leftFeed, hid]
        | some handle => simp [leftFeed, hid, hclosed handle hid]
  | snapshotEnds id wait =>
      intro s' hstep
      obtain ⟨snapshot, hid, rfl⟩ := snapshotEnds_eq hstep
      obtain ⟨s', hleaving, heq⟩ := leaveSnapshotPnl_leaving hid
      rw [heq, cancelled_leave hinv hleaving]
      simp [cancelledKeys, cancelsAll, leftFeed, hid]

/-! ## Late closes -/

/-- Of handles and feed objects, one each may change; nothing else does. -/
structure HandleOnly (id fid : Nat) (s s' : PnlTransport) : Prop where
  transport : s'.transport = s.transport
  registry : s'.registry = s.registry
  requests : s'.requests = s.requests
  snapshots : s'.snapshots = s.snapshots
  handles : ∀ id', id' ≠ id → s'.handles.get? id' = s.handles.get? id'
  feeds : ∀ fid', fid' ≠ fid → s'.feeds.get? fid' = s.feeds.get? fid'

/-- Closing a handle whose feed is not registered any more changes nothing but the handle
and that feed object. -/
def ClosesLate (spec : IbConnectionSpec) (s : PnlTransport) (l : PnlLabel) : Prop :=
  ∀ id handle s', l = .close id → s.handles.get? id = some handle →
    (∀ key, s.registry.get? key ≠ some handle.feed) → pnlStep spec s l = some s' →
    HandleOnly id handle.feed s s'

theorem releasePnl_of_unregistered {s : PnlTransport} {fid : Nat}
    (h : ∀ key, s.registry.get? key ≠ some fid) :
    (releasePnl s fid).registry = s.registry ∧ (releasePnl s fid).requests = s.requests := by
  unfold releasePnl
  dsimp only
  split
  · simp
  · rw [if_neg]
    · simp
    · rintro ⟨-, hkey⟩
      rw [registry_updateFeed] at hkey
      exact h _ hkey

theorem closesLate (spec : IbConnectionSpec) (s : PnlTransport) (l : PnlLabel) :
    ClosesLate spec s l := by
  rintro id handle s' rfl hid hlate hstep
  cases hstep
  simp only [closePnlHandle, hid]
  split_ifs
  · exact ⟨rfl, rfl, rfl, rfl, fun _ _ => rfl, fun _ _ => rfl⟩
  · let closed : PnlTransport :=
      { s with handles := s.handles.set id { handle with closed := true } }
    let forgotten := updateFeed closed handle.feed fun f =>
      { f with callbacks := f.callbacks.erase handle.callback }
    have hforget : OnlyFeed handle.feed closed forgotten := .updateFeed closed handle.feed _
    have hframe := hforget.trans (.releasePnl forgotten handle.feed)
    have hgone : ∀ key, forgotten.registry.get? key ≠ some handle.feed := by
      simpa [forgotten, closed] using hlate
    have hkeeps := releasePnl_of_unregistered hgone
    rw [registry_updateFeed, requests_updateFeed] at hkeeps
    refine ⟨hframe.transport, hkeeps.1, hkeeps.2, hframe.snapshots, fun id' hne => ?_,
      hframe.others⟩
    rw [hframe.handles]
    exact Dict.get?_set_of_ne _ hne _

end Ib
end MarketConnector
