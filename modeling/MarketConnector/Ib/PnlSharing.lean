import MarketConnector.Ib.PnlFeeds

/-!
# Ib - Who uses a profit-and-loss feed

A feed is used by the open handles and the snapshots that acquired that very object.
Handles outlive their feed: after a `disconnect()` the same key may have another feed,
which they do not count on.

Main results:

- Theorem `PnlInv.step`: every feed object counts its users, a registered one has some,
  and no request is cancelled twice.
- Theorem `FeedInv.release_cases`: a release closes a key when the last user leaves.
-/

namespace MarketConnector
namespace Ib

open Foundations

/-! ## Users -/

/-- An open handle uses the feed it acquired. -/
def PnlHandle.uses (fid : Nat) (h : PnlHandle) : Nat :=
  if h.closed = false ∧ h.feed = fid then 1 else 0

/-- A snapshot in flight uses the feed it acquired. -/
def PnlSnapshot.uses (fid : Nat) (snapshot : PnlSnapshot) : Nat :=
  if snapshot.feed = fid then 1 else 0

/-- Open handles and snapshots in flight that acquired a feed object. -/
def pnlUsers (s : PnlTransport) (fid : Nat) : Nat :=
  s.handles.total (PnlHandle.uses fid) + s.snapshots.total (PnlSnapshot.uses fid)

/-- The key has a feed. -/
def PnlTransport.IsOpen (s : PnlTransport) (key : PnlKey) : Prop :=
  (s.registry.get? key).isSome = true

instance (s : PnlTransport) (key : PnlKey) : Decidable (s.IsOpen key) :=
  inferInstanceAs (Decidable ((s.registry.get? key).isSome = true))

/-! ## Counting feeds -/

/-- Every feed object counts its users, and the requests of the open keys are sound. -/
structure FeedInv (s : PnlTransport) (users : Nat → Nat) : Prop where
  refs : ∀ fid feed, s.feeds.get? fid = some feed → feed.refs = users fid
  unknown : ∀ fid, s.feeds.get? fid = none → users fid = 0
  keyed : ∀ key fid, s.registry.get? key = some fid →
    ∃ feed, s.feeds.get? fid = some feed ∧ feed.key = key
  fresh : ∀ fid, s.next ≤ fid → s.feeds.get? fid = none
  sound : s.requests.Sound s.IsOpen

/-- Every registered feed has users. -/
def InUse (s : PnlTransport) (users : Nat → Nat) : Prop :=
  ∀ key fid, s.registry.get? key = some fid → 0 < users fid

/-- Changes that keep registry and counts. -/
theorem FeedInv.frame {s s' : PnlTransport} {users : Nat → Nat} (h : FeedInv s users)
    (hkeep : FeedsKeep s.feeds s'.feeds) (hregistry : s'.registry = s.registry)
    (hsound : s'.requests.Sound s.IsOpen) (hnext : s.next ≤ s'.next) : FeedInv s' users where
  refs fid feed hfid := by
    have huse := hkeep fid
    rw [hfid, Option.map_some, eq_comm, Option.map_eq_some_iff] at huse
    obtain ⟨before, hbefore, huse⟩ := huse
    have hrefs : before.refs = feed.refs := congrArg Prod.snd huse
    rw [← hrefs]
    exact h.refs fid before hbefore
  unknown fid hfid := by
    have huse := hkeep fid
    rw [hfid, Option.map_none, eq_comm, Option.map_eq_none_iff] at huse
    exact h.unknown fid huse
  keyed key fid hkey := by
    rw [hregistry] at hkey
    obtain ⟨feed, hfid, hfeed⟩ := h.keyed key fid hkey
    obtain ⟨feed', hfid', hkey', -⟩ := hkeep.get? hfid
    exact ⟨feed', hfid', hkey'.trans hfeed⟩
  fresh fid hfid := by
    have huse := hkeep fid
    rw [h.fresh fid (hnext.trans hfid), Option.map_none, Option.map_eq_none_iff] at huse
    exact huse
  sound := by
    unfold PnlTransport.IsOpen
    rw [hregistry]
    exact hsound

/-- One feed object counts anew. -/
theorem FeedInv.recount {s : PnlTransport} {users users' : Nat → Nat} (h : FeedInv s users)
    {fid : Nat} {feed : PnlFeed} (hfid : s.feeds.get? fid = some feed) {n : Int}
    (hn : (users' fid : Int) = users fid + n)
    (hothers : ∀ fid', fid' ≠ fid → users' fid' = users fid') :
    FeedInv (updateFeed s fid fun f => { f with refs := f.refs + n }) users' where
  refs fid' feed' hfid' := by
    rw [get?_updateFeed, hfid] at hfid'
    split_ifs at hfid' with heq
    · cases hfid'
      rw [heq, hn, ← h.refs fid feed hfid]
    · rw [hothers fid' heq]
      exact h.refs fid' feed' hfid'
  unknown fid' hfid' := by
    rw [get?_updateFeed, hfid] at hfid'
    split_ifs at hfid' with heq
    · cases hfid'
    · rw [hothers fid' heq]
      exact h.unknown fid' hfid'
  keyed key fid' hkey := by
    rw [registry_updateFeed] at hkey
    obtain ⟨before, hbefore, hfeed⟩ := h.keyed key fid' hkey
    rw [get?_updateFeed]
    split_ifs with heq
    · subst heq
      exact ⟨{ before with refs := before.refs + n }, by rw [hbefore]; rfl, hfeed⟩
    · exact ⟨before, hbefore, hfeed⟩
  fresh fid' hfid' := by
    rw [next_updateFeed] at hfid'
    rw [get?_updateFeed]
    split_ifs with heq
    · rw [← heq, h.fresh fid' hfid']
      rfl
    · exact h.fresh fid' hfid'
  sound := by
    unfold PnlTransport.IsOpen
    rw [requests_updateFeed, registry_updateFeed]
    exact h.sound

/-- A feed that is dropped leaves the registry, and counts on. -/
theorem FeedInv.drop {s : PnlTransport} {users : Nat → Nat} (h : FeedInv s users) {key : PnlKey}
    {fid : Nat} (hkey : s.registry.get? key = some fid) (exc : Option PnlAnswer) :
    FeedInv (dropPnlFeed exc s fid) users := by
  obtain ⟨feed, hfid, rfl⟩ := h.keyed key fid hkey
  obtain ⟨snapshots, -, hdrop⟩ := dropPnlFeed_of_feed exc hfid
  have hopen : s.IsOpen feed.key := by
    unfold PnlTransport.IsOpen
    rw [hkey]
    rfl
  have hclosed : ∀ key', ((s.registry.pop feed.key).get? key').isSome = true →
      key' ≠ feed.key ∧ s.IsOpen key' := by
    intro key' hkey'
    rw [Dict.get?_pop] at hkey'
    split_ifs at hkey' with hne
    · cases hkey'
    · exact ⟨hne, hkey'⟩
  have hset : FeedsKeep s.feeds
      (s.feeds.set fid { feed with hooked := false, waiters := [] }) := .set hfid rfl
  have hkept : FeedInv
      { s with feeds := s.feeds.set fid { feed with hooked := false, waiters := [] } } users :=
    h.frame hset rfl h.sound le_rfl
  rw [hdrop]
  refine ⟨hkept.refs, hkept.unknown, fun key' fid' hkey' => ?_, hkept.fresh,
    h.sound.cancel hopen hclosed⟩
  exact hkept.keyed key' fid' (Dict.get?_of_pop hkey')

/-! ## Acquiring and releasing -/

/-- A feed was found or opened for a key, and has one user more. -/
structure Acquired (s s' : PnlTransport) (users : Nat → Nat) (key : PnlKey) (fid : Nat) :
    Prop where
  use : FeedInv s' fun i => users i + if i = fid then 1 else 0
  registered : ∀ key' fid', s'.registry.get? key' = some fid' →
    s.registry.get? key' = some fid' ∨ fid' = fid
  handles : s'.handles = s.handles
  snapshots : s'.snapshots = s.snapshots
  next : s.next ≤ s'.next

theorem FeedInv.acquire {s : PnlTransport} {users : Nat → Nat} (h : FeedInv s users)
    (key : PnlKey) : Acquired s (acquirePnl s key).1 users key (acquirePnl s key).2 := by
  unfold acquirePnl
  cases hkey : s.registry.get? key with
  | some fid =>
      obtain ⟨feed, hfid, -⟩ := h.keyed key fid hkey
      dsimp only
      refine ⟨h.recount hfid (by simp) fun fid' hne => by simp [hne], ?_, by simp, by simp,
        by simp⟩
      intro key' fid' hkey'
      rw [registry_updateFeed] at hkey'
      exact Or.inl hkey'
  | none =>
      have habsent := h.fresh s.next le_rfl
      have hzero := h.unknown s.next habsent
      dsimp only
      refine ⟨⟨fun fid feed hfid => ?_, fun fid hfid => ?_, fun key' fid hkey' => ?_,
        fun fid hfid => ?_, ?_⟩, fun key' fid' hkey' => ?_, rfl, rfl, Nat.le_succ _⟩
      · rw [Dict.get?_set] at hfid
        split_ifs at hfid with heq
        · cases hfid
          rw [heq, hzero]
          simp
        · simp only [heq, if_false, Nat.add_zero]
          exact h.refs fid feed hfid
      · rw [Dict.get?_set] at hfid
        split_ifs at hfid with heq
        simp only [heq, if_false, Nat.add_zero]
        exact h.unknown fid hfid
      · rw [Dict.get?_set] at hkey'
        split_ifs at hkey' with heq
        · cases hkey'
          exact ⟨_, Dict.get?_set_self _ _ _, heq.symm⟩
        · obtain ⟨feed, hfid, hfeed⟩ := h.keyed key' fid hkey'
          have hne : fid ≠ s.next := by
            rintro rfl
            rw [habsent] at hfid
            cases hfid
          exact ⟨feed, (Dict.get?_set_of_ne _ hne _).trans hfid, hfeed⟩
      · have hne : fid ≠ s.next := by
          rintro rfl
          exact absurd hfid (Nat.not_succ_le_self _)
        rw [Dict.get?_set_of_ne _ hne]
        exact h.fresh fid (Nat.le_of_succ_le hfid)
      · refine h.sound.issue s.transport.socketUp key fun key' hkey' => ?_
        unfold PnlTransport.IsOpen at hkey'
        rw [Dict.get?_set] at hkey'
        split_ifs at hkey' with heq
        · exact Or.inl heq
        · exact Or.inr hkey'
      · rw [Dict.get?_set] at hkey'
        split_ifs at hkey'
        · cases hkey'
          exact Or.inr rfl
        · exact Or.inl hkey'

/-- Another user uses a registered feed, too. -/
theorem Acquired.inUse {s s' : PnlTransport} {users : Nat → Nat} {key : PnlKey} {fid : Nat}
    (h : Acquired s s' users key fid) (hused : InUse s users) :
    InUse s' fun i => users i + if i = fid then 1 else 0 := by
  intro key' fid' hkey'
  rcases h.registered key' fid' hkey' with hold | rfl
  · have hpos := hused key' fid' hold
    dsimp only
    omega
  · simp

theorem releasePnl_of_feed {s : PnlTransport} {fid : Nat} {feed : PnlFeed}
    (hfid : s.feeds.get? fid = some feed) :
    releasePnl s fid =
      if feed.refs - 1 ≤ 0 ∧ s.registry.get? feed.key = some fid then
        dropPnlFeed none (updateFeed s fid fun f => { f with refs := f.refs - 1 }) fid
      else updateFeed s fid fun f => { f with refs := f.refs - 1 } := by
  have hget : (updateFeed s fid fun f => { f with refs := f.refs - 1 }).feeds.get? fid =
      some { feed with refs := feed.refs - 1 } := by
    rw [get?_updateFeed, if_pos rfl, hfid]
    rfl
  unfold releasePnl
  simp only [hget, registry_updateFeed]

/-- Of the feed objects only one may change; connection, handles and snapshots do not. -/
structure OnlyFeed (fid : Nat) (s s' : PnlTransport) : Prop where
  transport : s'.transport = s.transport
  handles : s'.handles = s.handles
  snapshots : s'.snapshots = s.snapshots
  next : s'.next = s.next
  others : ∀ fid', fid' ≠ fid → s'.feeds.get? fid' = s.feeds.get? fid'

theorem OnlyFeed.refl (fid : Nat) (s : PnlTransport) : OnlyFeed fid s s :=
  ⟨rfl, rfl, rfl, rfl, fun _ _ => rfl⟩

theorem OnlyFeed.trans {fid : Nat} {s s' s'' : PnlTransport} (h : OnlyFeed fid s s')
    (h' : OnlyFeed fid s' s'') : OnlyFeed fid s s'' :=
  ⟨h'.transport.trans h.transport, h'.handles.trans h.handles, h'.snapshots.trans h.snapshots,
    h'.next.trans h.next, fun fid' hne => (h'.others fid' hne).trans (h.others fid' hne)⟩

theorem OnlyFeed.updateFeed (s : PnlTransport) (fid : Nat) (f : PnlFeed → PnlFeed) :
    OnlyFeed fid s (updateFeed s fid f) := by
  refine ⟨by simp, by simp, by simp, by simp, fun fid' hne => ?_⟩
  rw [get?_updateFeed, if_neg hne]

theorem OnlyFeed.dropPnlFeed (s : PnlTransport) (fid : Nat) :
    OnlyFeed fid s (dropPnlFeed none s fid) := by
  unfold Ib.dropPnlFeed
  split
  · exact .refl fid s
  · exact ⟨rfl, rfl, rfl, rfl, fun fid' hne => Dict.get?_set_of_ne _ hne _⟩

/-- A release works on its own feed object. -/
theorem OnlyFeed.releasePnl (s : PnlTransport) (fid : Nat) :
    OnlyFeed fid s (releasePnl s fid) := by
  have hcounts := OnlyFeed.updateFeed s fid fun f => { f with refs := f.refs - 1 }
  unfold Ib.releasePnl
  dsimp only
  split
  · exact hcounts
  · split_ifs
    · exact hcounts.trans (.dropPnlFeed _ fid)
    · exact hcounts

section

variable {s : PnlTransport} {users users' : Nat → Nat} {fid : Nat}

/-- A release closes the key of the feed when the last user leaves, and otherwise leaves
registry and requests alone. -/
theorem FeedInv.release_cases (h : FeedInv s users) (hfid : users fid = users' fid + 1) :
    (∃ key, s.registry.get? key = some fid ∧ users' fid = 0 ∧
        (releasePnl s fid).registry = s.registry.pop key ∧
        (releasePnl s fid).requests = s.requests.cancel key) ∨
      ((∀ key, s.registry.get? key = some fid → 0 < users' fid) ∧
        (releasePnl s fid).registry = s.registry ∧
        (releasePnl s fid).requests = s.requests) := by
  cases hfound : s.feeds.get? fid with
  | none =>
      have hzero := h.unknown fid hfound
      omega
  | some feed =>
      have hrefs := h.refs fid feed hfound
      rw [releasePnl_of_feed hfound]
      split_ifs with hlast
      · have hget : (updateFeed s fid fun f => { f with refs := f.refs - 1 }).feeds.get? fid =
            some { feed with refs := feed.refs - 1 } := by
          rw [get?_updateFeed, if_pos rfl, hfound]
          rfl
        obtain ⟨snapshots, -, hdrop⟩ := dropPnlFeed_of_feed none hget
        rw [hdrop]
        exact Or.inl ⟨feed.key, hlast.2, by omega, by simp, by simp⟩
      · refine Or.inr ⟨fun key hkey => ?_, by simp, by simp⟩
        obtain ⟨feed', hfid', rfl⟩ := h.keyed key fid hkey
        cases hfound.symm.trans hfid'
        have hpos : ¬ feed.refs - 1 ≤ 0 := fun hle => hlast ⟨hle, hkey⟩
        omega

/-- A user leaves. -/
theorem FeedInv.release (h : FeedInv s users) (hfid : users fid = users' fid + 1)
    (hothers : ∀ fid', fid' ≠ fid → users' fid' = users fid') :
    FeedInv (releasePnl s fid) users' := by
  cases hfound : s.feeds.get? fid with
  | none =>
      have hzero := h.unknown fid hfound
      omega
  | some feed =>
      have hn : (users' fid : Int) = users fid + (-1) := by omega
      have hcount := h.recount hfound hn hothers
      rw [releasePnl_of_feed hfound]
      split_ifs with hlast
      · have hkey : (updateFeed s fid fun f => { f with refs := f.refs - 1 }).registry.get?
            feed.key = some fid := by
          rw [registry_updateFeed]
          exact hlast.2
        exact hcount.drop hkey none
      · exact hcount

/-- The feeds that stay registered are those that have users left. -/
theorem FeedInv.inUse_release (h : FeedInv s users) (hused : InUse s users)
    (hfid : users fid = users' fid + 1) (hothers : ∀ fid', fid' ≠ fid → users' fid' = users fid') :
    InUse (releasePnl s fid) users' := by
  have hkept : ∀ key fid', s.registry.get? key = some fid' → fid' ≠ fid → 0 < users' fid' := by
    intro key fid' hkey hne
    rw [hothers fid' hne]
    exact hused key fid' hkey
  intro key' fid' hkey'
  rcases h.release_cases hfid with ⟨key, hkey, -, hregistry, -⟩ | ⟨hleft, hregistry, -⟩
  · rw [hregistry, Dict.get?_pop] at hkey'
    split_ifs at hkey' with hne
    refine hkept key' fid' hkey' ?_
    rintro rfl
    obtain ⟨feed, hfound, rfl⟩ := h.keyed key fid' hkey
    obtain ⟨feed', hfound', rfl⟩ := h.keyed key' fid' hkey'
    cases hfound.symm.trans hfound'
    exact hne rfl
  · rw [hregistry] at hkey'
    by_cases heq : fid' = fid
    · subst heq
      exact hleft key' hkey'
    · exact hkept key' fid' hkey' heq

end

/-! ## The invariant -/

/-- Every feed object counts its open handles and its snapshots in flight, and a
registered one has some. -/
structure PnlInv (s : PnlTransport) : Prop where
  feeds : FeedInv s (pnlUsers s)
  used : InUse s (pnlUsers s)
  handles : ∀ id, s.next ≤ id → s.handles.get? id = none
  snapshots : ∀ id, s.next ≤ id → s.snapshots.get? id = none

theorem pnlInv_init (spec : IbConnectionSpec) : PnlInv (.init spec) where
  feeds := {
    refs := by simp [PnlTransport.init]
    unknown := by simp [PnlTransport.init, pnlUsers]
    keyed := by simp [PnlTransport.init]
    fresh := by simp [PnlTransport.init]
    sound := Requests.sound_init _ (by simp [PnlTransport.init, PnlTransport.IsOpen]) }
  used := by simp [InUse, PnlTransport.init]
  handles := by simp [PnlTransport.init]
  snapshots := by simp [PnlTransport.init]

/-- Changes that keep registry, counts, handles and the feeds of the snapshots. -/
theorem PnlInv.frame {s s' : PnlTransport} (h : PnlInv s) (hkeep : FeedsKeep s.feeds s'.feeds)
    (hregistry : s'.registry = s.registry) (hsound : s'.requests.Sound s.IsOpen)
    (hnext : s'.next = s.next) (hhandles : s'.handles = s.handles)
    (hsnapshots : SnapshotsKeep s.snapshots s'.snapshots) : PnlInv s' := by
  have husers : pnlUsers s' = pnlUsers s := by
    funext fid
    unfold pnlUsers
    rw [hhandles]
    exact congrArg _ (hsnapshots.total fun feed => if feed = fid then 1 else 0)
  refine ⟨?_, fun key fid hkey => ?_, fun id hid => ?_, fun id hid => ?_⟩
  · rw [husers]
    exact h.feeds.frame hkeep hregistry hsound hnext.ge
  · rw [husers]
    rw [hregistry] at hkey
    exact h.used key fid hkey
  · rw [hhandles]
    exact h.handles id (hnext ▸ hid)
  · have hfeed := hsnapshots.feed id
    rw [h.snapshots id (hnext ▸ hid), Option.map_none, Option.map_eq_none_iff] at hfeed
    exact hfeed

/-! ## Operations -/

/-- A new handle or snapshot is one user more of the feed it acquired. -/
theorem Acquired.counted {s s' s'' : PnlTransport} {key : PnlKey} {fid : Nat}
    (hacquired : Acquired s s' (pnlUsers s) key fid) (h : PnlInv s)
    (hkeep : FeedsKeep s'.feeds s''.feeds) (hregistry : s''.registry = s'.registry)
    (hrequests : s''.requests = s'.requests) (hnext : s''.next = s'.next + 1)
    (husers : ∀ i, pnlUsers s'' i = pnlUsers s i + if i = fid then 1 else 0)
    (hhandles : ∀ id, id ≠ s'.next → s''.handles.get? id = s.handles.get? id)
    (hsnapshots : ∀ id, id ≠ s'.next → s''.snapshots.get? id = s.snapshots.get? id) :
    PnlInv s'' := by
  have hused := hacquired.inUse h.used
  have hlater : ∀ id, s''.next ≤ id → id ≠ s'.next ∧ s.next ≤ id := by
    intro id hid
    have hle := hacquired.next
    omega
  refine ⟨?_, fun key' fid' hkey' => ?_, fun id hid => ?_, fun id hid => ?_⟩
  · rw [funext husers]
    exact hacquired.use.frame hkeep hregistry (hrequests ▸ hacquired.use.sound) (by omega)
  · rw [husers]
    rw [hregistry] at hkey'
    exact hused key' fid' hkey'
  · rw [hhandles id (hlater id hid).1]
    exact h.handles id (hlater id hid).2
  · rw [hsnapshots id (hlater id hid).1]
    exact h.snapshots id (hlater id hid).2

theorem PnlInv.subscribePnlFeed {s : PnlTransport} (h : PnlInv s) (key : PnlKey)
    (callback : Nat) : PnlInv (subscribePnlFeed s key callback) := by
  have hacquired := h.feeds.acquire key
  unfold Ib.subscribePnlFeed
  rcases hsplit : acquirePnl s key with ⟨s', fid⟩
  rw [hsplit] at hacquired
  dsimp only at hacquired ⊢
  have habsent : s.handles.get? s'.next = none := h.handles _ hacquired.next
  refine hacquired.counted h (.updateFeed s' fid fun _ => rfl) (by simp) (by simp) (by simp)
    (fun i => ?_) (fun id hne => ?_) fun id _ => ?_
  · simp only [pnlUsers, snapshots_updateFeed, handles_updateFeed, next_updateFeed,
      hacquired.handles, hacquired.snapshots, Dict.total_set_of_absent habsent, PnlHandle.uses,
      true_and, @eq_comm _ i fid]
    omega
  · simp only [handles_updateFeed, next_updateFeed, hacquired.handles]
    exact Dict.get?_set_of_ne _ hne _
  · simp only [snapshots_updateFeed, hacquired.snapshots]

theorem PnlInv.waitSnapshot {s s' : PnlTransport} (h : PnlInv s) {key : PnlKey} {fid : Nat}
    (hacquired : Acquired s s' (pnlUsers s) key fid) (f : PnlFeed → PnlFeed)
    (hf : ∀ feed, (f feed).use = feed.use) :
    PnlInv { updateFeed s' fid f with
      snapshots := (updateFeed s' fid f).snapshots.set (updateFeed s' fid f).next ⟨fid, none⟩
      next := (updateFeed s' fid f).next + 1 } := by
  have habsent : s.snapshots.get? s'.next = none := h.snapshots _ hacquired.next
  refine hacquired.counted h (.updateFeed s' fid hf) (by simp) (by simp) (by simp)
    (fun i => ?_) (fun id _ => ?_) fun id hne => ?_
  · simp only [pnlUsers, snapshots_updateFeed, handles_updateFeed, next_updateFeed,
      hacquired.handles, hacquired.snapshots, Dict.total_set_of_absent habsent,
      PnlSnapshot.uses, @eq_comm _ i fid]
    omega
  · simp only [handles_updateFeed, hacquired.handles]
  · simp only [snapshots_updateFeed, next_updateFeed, hacquired.snapshots]
    exact Dict.get?_set_of_ne _ hne _

/-- A handle or a snapshot is gone, and is about to release the feed it acquired. -/
structure Leaving (s s' : PnlTransport) (fid : Nat) : Prop where
  feeds : FeedsKeep s.feeds s'.feeds
  registry : s'.registry = s.registry
  requests : s'.requests = s.requests
  transport : s'.transport = s.transport
  next : s'.next = s.next
  users : ∀ i, pnlUsers s i = pnlUsers s' i + if i = fid then 1 else 0
  handles : ∀ id, s.handles.get? id = none → s'.handles.get? id = none
  snapshots : ∀ id, s.snapshots.get? id = none → s'.snapshots.get? id = none

theorem Leaving.users_self {s s' : PnlTransport} {fid : Nat} (h : Leaving s s' fid) :
    pnlUsers s fid = pnlUsers s' fid + 1 := by
  simp [h.users]

theorem Leaving.feedInv {s s' : PnlTransport} {fid : Nat} (h : Leaving s s' fid)
    (hinv : PnlInv s) : FeedInv s' (pnlUsers s) :=
  hinv.feeds.frame h.feeds h.registry (h.requests ▸ hinv.feeds.sound) h.next.ge

/-- One user less. -/
theorem PnlInv.leave {s s' : PnlTransport} (h : PnlInv s) {fid : Nat}
    (hleaving : Leaving s s' fid) : PnlInv (releasePnl s' fid) := by
  have hused : InUse s' (pnlUsers s) := by
    intro key fid' hkey
    rw [hleaving.registry] at hkey
    exact h.used key fid' hkey
  have hothers : ∀ fid', fid' ≠ fid → pnlUsers s' fid' = pnlUsers s fid' := by
    intro fid' hne
    simp [hleaving.users, hne]
  have hframe := OnlyFeed.releasePnl s' fid
  have hcounted : pnlUsers (releasePnl s' fid) = pnlUsers s' := by
    funext i
    simp only [pnlUsers, hframe.handles, hframe.snapshots]
  refine ⟨?_, ?_, fun id hid => ?_, fun id hid => ?_⟩
  · rw [hcounted]
    exact (hleaving.feedInv h).release hleaving.users_self hothers
  · rw [hcounted]
    exact (hleaving.feedInv h).inUse_release hused hleaving.users_self hothers
  · rw [hframe.next, hleaving.next] at hid
    rw [hframe.handles]
    exact hleaving.handles id (h.handles id hid)
  · rw [hframe.next, hleaving.next] at hid
    rw [hframe.snapshots]
    exact hleaving.snapshots id (h.snapshots id hid)

/-- Closing an open handle. -/
theorem closePnlHandle_leaving {s : PnlTransport} {id : Nat} {handle : PnlHandle}
    (hid : s.handles.get? id = some handle) (hopen : handle.closed = false) :
    ∃ s', Leaving s s' handle.feed ∧ closePnlHandle s id = releasePnl s' handle.feed := by
  let closed : PnlTransport := { s with handles := s.handles.set id { handle with closed := true } }
  refine ⟨updateFeed closed handle.feed fun f =>
      { f with callbacks := f.callbacks.erase handle.callback },
    ⟨.updateFeed closed _ fun _ => rfl, by simp [closed], by simp [closed], by simp [closed],
      by simp [closed], fun i => ?_, fun id' hnone => ?_, fun id' hnone => ?_⟩, ?_⟩
  · have hset := Dict.total_set_of_get? hid { handle with closed := true } (PnlHandle.uses i)
    simp only [PnlHandle.uses, hopen, true_and, Bool.true_eq_false, false_and, if_false,
      Nat.add_zero, @eq_comm _ handle.feed i] at hset
    simp only [pnlUsers, snapshots_updateFeed, handles_updateFeed, closed]
    omega
  · have hne : id' ≠ id := by
      rintro rfl
      rw [hid] at hnone
      cases hnone
    rw [handles_updateFeed]
    exact (Dict.get?_set_of_ne _ hne _).trans hnone
  · rw [snapshots_updateFeed]
    exact hnone
  · simp only [closePnlHandle, hid, hopen, Bool.false_eq_true, if_false, closed]

/-- An open handle leaves its feed; closing any other changes nothing. -/
theorem closePnlHandle_cases (s : PnlTransport) (id : Nat) :
    (∃ handle s', s.handles.get? id = some handle ∧ handle.closed = false ∧
        Leaving s s' handle.feed ∧ closePnlHandle s id = releasePnl s' handle.feed) ∨
      ((∀ handle, s.handles.get? id = some handle → handle.closed = true) ∧
        closePnlHandle s id = s) := by
  cases hid : s.handles.get? id with
  | none => exact Or.inr ⟨nofun, by simp [closePnlHandle, hid]⟩
  | some handle =>
      cases hopen : handle.closed with
      | true =>
          refine Or.inr ⟨fun handle' hsome => ?_, by simp [closePnlHandle, hid, hopen]⟩
          cases hsome
          exact hopen
      | false =>
          obtain ⟨s', hleaving, heq⟩ := closePnlHandle_leaving hid hopen
          exact Or.inl ⟨handle, s', rfl, hopen, hleaving, heq⟩

/-- A snapshot that goes on. -/
theorem leaveSnapshotPnl_leaving {s : PnlTransport} {id : Nat} {snapshot : PnlSnapshot}
    (hid : s.snapshots.get? id = some snapshot) :
    ∃ s', Leaving s s' snapshot.feed ∧
      leaveSnapshotPnl s id snapshot = releasePnl s' snapshot.feed := by
  let gone : PnlTransport := { s with snapshots := s.snapshots.pop id }
  refine ⟨updateFeed gone snapshot.feed fun f => { f with waiters := f.waiters.erase id },
    ⟨.updateFeed gone _ fun _ => rfl, by simp [gone], by simp [gone], by simp [gone],
      by simp [gone], fun i => ?_, fun id' hnone => ?_, fun id' hnone => ?_⟩, rfl⟩
  · have hpop := Dict.total_pop_of_get? hid (PnlSnapshot.uses i)
    simp only [PnlSnapshot.uses, @eq_comm _ snapshot.feed i] at hpop
    simp only [pnlUsers, snapshots_updateFeed, handles_updateFeed, gone]
    omega
  · rw [handles_updateFeed]
    exact hnone
  · rw [snapshots_updateFeed]
    simp only [gone, Dict.get?_pop, hnone, ite_self]

theorem PnlInv.closePnlHandle {s : PnlTransport} (h : PnlInv s) (id : Nat) :
    PnlInv (closePnlHandle s id) := by
  rcases closePnlHandle_cases s id with ⟨handle, s', -, -, hleaving, heq⟩ | ⟨-, heq⟩
  · rw [heq]
    exact h.leave hleaving
  · rw [heq]
    exact h

theorem PnlInv.leaveSnapshotPnl {s : PnlTransport} (h : PnlInv s) {id : Nat}
    {snapshot : PnlSnapshot} (hid : s.snapshots.get? id = some snapshot) :
    PnlInv (leaveSnapshotPnl s id snapshot) := by
  obtain ⟨s', hleaving, heq⟩ := leaveSnapshotPnl_leaving hid
  rw [heq]
  exact h.leave hleaving

/-- A snapshot that finds a value leaves at once. -/
theorem PnlInv.snapshotPnl {s : PnlTransport} (h : PnlInv s) (key : PnlKey) :
    PnlInv (snapshotPnl s key).1 := by
  have hacquired := h.feeds.acquire key
  unfold Ib.snapshotPnl
  rcases hsplit : acquirePnl s key with ⟨s', fid⟩
  rw [hsplit] at hacquired
  dsimp only at hacquired ⊢
  split
  · have hframe := OnlyFeed.releasePnl s' fid
    have hothers : ∀ fid', fid' ≠ fid →
        pnlUsers s fid' = pnlUsers s fid' + if fid' = fid then 1 else 0 := by
      intro fid' hne
      simp [hne]
    have hcounted : pnlUsers (releasePnl s' fid) = pnlUsers s := by
      funext i
      simp only [pnlUsers, hframe.handles, hframe.snapshots, hacquired.handles,
        hacquired.snapshots]
    refine ⟨?_, ?_, fun id hid => ?_, fun id hid => ?_⟩
    · rw [hcounted]
      exact hacquired.use.release (by simp) hothers
    · rw [hcounted]
      exact hacquired.use.inUse_release (hacquired.inUse h.used) (by simp) hothers
    · rw [hframe.handles, hacquired.handles]
      exact h.handles id (hacquired.next.trans (hframe.next ▸ hid))
    · rw [hframe.snapshots, hacquired.snapshots]
      exact h.snapshots id (hacquired.next.trans (hframe.next ▸ hid))
  · exact h.waitSnapshot hacquired _ fun _ => rfl

/-- A snapshot that finds a value is not the last to leave. -/
theorem snapshotPnl_acquires {s : PnlTransport} (h : PnlInv s) (key : PnlKey) :
    (snapshotPnl s key).1.registry = (acquirePnl s key).1.registry ∧
      (snapshotPnl s key).1.requests = (acquirePnl s key).1.requests ∧
      (snapshotPnl s key).1.transport = (acquirePnl s key).1.transport := by
  have hacquired := h.feeds.acquire key
  unfold snapshotPnl
  rcases hsplit : acquirePnl s key with ⟨s', fid⟩
  rw [hsplit] at hacquired
  dsimp only at hacquired ⊢
  split
  · rename_i report hlatest
    have htransport := (OnlyFeed.releasePnl s' fid).transport
    have hmore : pnlUsers s fid + (if fid = fid then 1 else 0) = pnlUsers s fid + 1 := by simp
    rcases hacquired.use.release_cases hmore with ⟨key', -, hzero, -⟩ | ⟨-, hregistry, hrequests⟩
    · -- a feed that had no users was opened just now, and has no value yet
      exfalso
      unfold acquirePnl at hsplit
      cases hkey : s.registry.get? key with
      | some fid' =>
          rw [hkey] at hsplit
          cases hsplit
          have hpos := h.used key fid hkey
          omega
      | none =>
          rw [hkey] at hsplit
          cases hsplit
          simp at hlatest
    · exact ⟨hregistry, hrequests, htransport⟩
  · simp

theorem PnlInv.handlePnl {s : PnlTransport} (h : PnlInv s) (fid : Nat) (report : PnlReport) :
    PnlInv (handlePnl s fid report).1 := by
  unfold Ib.handlePnl
  cases hfid : s.feeds.get? fid with
  | none => exact h
  | some feed =>
      dsimp only
      split_ifs
      · exact h.frame (.set hfid rfl) rfl h.feeds.sound rfl rfl (.resolveWaiters _ _ _)
      · exact h

/-- The registry lists feed objects under their keys. -/
theorem FeedInv.lists {s : PnlTransport} {users : Nat → Nat} (h : FeedInv s users) :
    Lists s.feeds s.registry.entries := by
  rintro ⟨key, fid⟩ he
  exact h.keyed key fid (s.registry.mem_entries_iff.1 he)

theorem isOpen_of_mem_keys {s : PnlTransport} {key : PnlKey} :
    key ∈ s.registry.keys ↔ s.IsOpen key :=
  s.registry.mem_keys_iff

theorem FeedInv.resubscribeAllPnl_eq {s : PnlTransport} {users : Nat → Nat}
    (h : FeedInv s users) (cancelOld : Bool) :
    ∃ feeds, FeedsKeep s.feeds feeds ∧ resubscribeAllPnl s cancelOld = { s with
      feeds := feeds
      requests := s.requests.reissueAll cancelOld s.transport.socketUp s.registry.keys } :=
  foldl_resubscribePnl cancelOld h.lists

theorem PnlInv.resubscribeAllPnl {s : PnlTransport} (h : PnlInv s) (cancelOld : Bool) :
    PnlInv (resubscribeAllPnl s cancelOld) := by
  obtain ⟨feeds, hkeep, heq⟩ := h.feeds.resubscribeAllPnl_eq cancelOld
  rw [heq]
  exact h.frame hkeep rfl
    (h.feeds.sound.reissueAll cancelOld _ fun key hkey => isOpen_of_mem_keys.1 hkey) rfl rfl
    (.refl _)

/-- Releasing all feeds empties the registry and cancels the request of every key. -/
theorem FeedInv.releaseAllPnl_eq {s : PnlTransport} {users : Nat → Nat} (h : FeedInv s users) :
    ∃ feeds snapshots, FeedsKeep s.feeds feeds ∧ SnapshotsKeep s.snapshots snapshots ∧
      releaseAllPnl s = { s with
        registry := ∅
        feeds := feeds
        snapshots := snapshots
        requests := s.requests.cancelAll s.registry.keys } := by
  obtain ⟨feeds, snapshots, registry, hkeep, hothers, hregistry, heq⟩ :=
    foldl_dropPnlFeed (some .connectionLost) h.lists
  have hempty : registry = ∅ := by
    by_contra hne
    obtain ⟨key, fid, hkey⟩ := Dict.exists_get?_of_ne_empty hne
    rw [hregistry] at hkey
    split_ifs at hkey with hmem
    exact hmem (List.mem_map.2 ⟨(key, fid), s.registry.mem_entries_iff.2 hkey, rfl⟩)
  subst hempty
  exact ⟨feeds, snapshots, hkeep, hothers, heq⟩

theorem PnlInv.releaseAllPnl {s : PnlTransport} (h : PnlInv s) : PnlInv (releaseAllPnl s) := by
  obtain ⟨feeds, snapshots, hkeep, hothers, heq⟩ := h.feeds.releaseAllPnl_eq
  -- first the feed objects and the snapshots, then the registry
  have hkept : PnlInv { s with feeds := feeds, snapshots := snapshots } :=
    h.frame hkeep rfl h.feeds.sound rfl rfl hothers
  have hclosed : (s.requests.cancelAll s.registry.keys).Sound
      fun key => ((∅ : Dict PnlKey Nat).get? key).isSome = true :=
    h.feeds.sound.cancelAll (fun key hkey => isOpen_of_mem_keys.1 hkey) s.registry.nodup
      (by simp)
  rw [heq]
  exact ⟨⟨hkept.feeds.refs, hkept.feeds.unknown, by simp, hkept.feeds.fresh, hclosed⟩,
    by simp [InUse], hkept.handles, hkept.snapshots⟩

theorem PnlInv.withAccount {s : PnlTransport} (h : PnlInv s) {f : String → PnlTransport}
    (hf : ∀ account, PnlInv (f account)) : PnlInv (withAccount s f) := by
  unfold Ib.withAccount
  split
  · exact h
  · exact hf _

/-! ## Steps -/

/-- The state in which a step of the connection takes effect on the feeds. -/
def afterConnection (s : PnlTransport) (t : Transport) (l : AttemptLabel) : PnlTransport :=
  let released := if endsDisconnect s.transport l then releaseAllPnl s else s
  { released with
    transport := t
    requests := if t.socketUp then released.requests else released.requests.lose }

theorem connectionStep_eq {spec : IbConnectionSpec} {s s' : PnlTransport} {l : AttemptLabel}
    (hstep : connectionStep spec s l = some s') :
    ∃ t, attemptStep spec s.transport l = some t ∧
      s' = if completes spec s.transport true l then
          resubscribeAllPnl (afterConnection s t l) false
        else if losesData s.transport l then resubscribeAllPnl (afterConnection s t l) true
        else afterConnection s t l := by
  obtain ⟨t, ht, rfl⟩ := Option.map_eq_some_iff.1 hstep
  exact ⟨t, ht, rfl⟩

theorem PnlInv.afterConnection {s : PnlTransport} (h : PnlInv s) (t : Transport)
    (l : AttemptLabel) : PnlInv (afterConnection s t l) := by
  have hreleased : PnlInv (if endsDisconnect s.transport l then Ib.releaseAllPnl s else s) := by
    split_ifs
    · exact h.releaseAllPnl
    · exact h
  unfold Ib.afterConnection
  refine hreleased.frame (.refl _) rfl ?_ rfl rfl (.refl _)
  dsimp only
  by_cases hup : t.socketUp = true
  · rw [if_pos hup]
    exact hreleased.feeds.sound
  · rw [if_neg hup]
    exact hreleased.feeds.sound.lose

theorem PnlInv.connectionStep {spec : IbConnectionSpec} {s s' : PnlTransport}
    {l : AttemptLabel} (h : PnlInv s) (hstep : connectionStep spec s l = some s') :
    PnlInv s' := by
  obtain ⟨t, -, rfl⟩ := connectionStep_eq hstep
  have hafter := h.afterConnection t l
  split_ifs
  · exact hafter.resubscribeAllPnl false
  · exact hafter.resubscribeAllPnl true
  · exact hafter

/-- A snapshot that goes on is in flight. -/
theorem snapshotEnds_eq {spec : IbConnectionSpec} {s s' : PnlTransport} {id : Nat}
    {wait : PnlWait} (hstep : pnlStep spec s (.snapshotEnds id wait) = some s') :
    ∃ snapshot, s.snapshots.get? id = some snapshot ∧ s' = leaveSnapshotPnl s id snapshot := by
  simp only [pnlStep] at hstep
  split at hstep
  · cases hstep
  · rename_i snapshot hid
    split_ifs at hstep
    cases hstep
    exact ⟨snapshot, hid, rfl⟩

theorem socketReplaced_eq {spec : IbConnectionSpec} {s s' : PnlTransport}
    (hstep : pnlStep spec s .socketReplaced = some s') :
    s' = { s with requests := s.requests.lose } := by
  simp only [pnlStep] at hstep
  split_ifs at hstep
  cases hstep
  rfl

/-- Every step keeps the counts. -/
theorem PnlInv.step {spec : IbConnectionSpec} {s s' : PnlTransport} {l : PnlLabel}
    (h : PnlInv s) (hstep : pnlStep spec s l = some s') : PnlInv s' := by
  cases l with
  | connection l => exact h.connectionStep hstep
  | subscribePnl callback =>
      cases hstep
      exact h.withAccount fun account => h.subscribePnlFeed _ _
  | subscribePositionPnl conId callback =>
      cases hstep
      exact h.withAccount fun account => h.subscribePnlFeed _ _
  | close id =>
      cases hstep
      exact h.closePnlHandle id
  | getPnl =>
      cases hstep
      exact h.withAccount fun account => h.snapshotPnl _
  | getPositionPnl conId =>
      cases hstep
      exact h.withAccount fun account => h.snapshotPnl _
  | snapshotEnds id wait =>
      obtain ⟨snapshot, hid, rfl⟩ := snapshotEnds_eq hstep
      exact h.leaveSnapshotPnl hid
  | resubscribeAll cancelOld =>
      cases hstep
      exact h.resubscribeAllPnl cancelOld
  | reports fid report =>
      cases hstep
      exact h.handlePnl fid report
  | socketReplaced =>
      rw [socketReplaced_eq hstep]
      exact h.frame (.refl _) rfl h.feeds.sound.lose rfl rfl (.refl _)

end Ib
end MarketConnector
