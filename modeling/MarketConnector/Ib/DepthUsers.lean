import MarketConnector.Foundations.Totals
import MarketConnector.Ib.TableOps

/-!
# Ib - Who uses a depth stream

A depth stream is used by the open handles and the depth snapshots that acquired that very
object.  Handles outlive their stream: after an error, a release or a `disconnect()` the
same contract may have another stream object, which they do not count on.

Main results:

- Theorem `SharingInv.step`: every stream object counts its open handles and its depth
  snapshots in flight.
- Theorem `depth_streams_counted`: in every state of every run a registered depth stream
  counts its users and its idle timer runs exactly while it has none; the timer releases
  unused streams only, and closing a handle touches its own stream object only.
-/

namespace MarketConnector
namespace Ib

open Foundations

/-! ## Users -/

def Snapshot.kind (snapshot : Snapshot) : StreamKind :=
  if snapshot.depth then .depth else .l1

/-- An open handle uses the stream object it acquired. -/
def SubscriptionHandle.uses (sid : Nat) (h : SubscriptionHandle) : Nat :=
  if h.closed = false ∧ h.stream = sid then 1 else 0

/-- A depth snapshot uses the stream object it acquired. -/
def Snapshot.uses (sid : Nat) (snapshot : Snapshot) : Nat :=
  if snapshot.depth = true ∧ snapshot.stream = sid then 1 else 0

/-- Open handles and depth snapshots in flight that acquired a stream object. -/
def streamUsers (s : MarketData) (sid : Nat) : Nat :=
  s.subs.handles.total (SubscriptionHandle.uses sid) + s.snapshots.total (Snapshot.uses sid)

/-- Open depth handles that acquired a stream object. -/
def openDepthHandles (s : MarketData) (sid : Nat) : Nat :=
  s.subs.handles.total fun h =>
    if h.closed = false ∧ h.channel = .depth ∧ h.stream = sid then 1 else 0

/-- Depth snapshots in flight that acquired a stream object. -/
def depthSnapshots (s : MarketData) (sid : Nat) : Nat :=
  s.snapshots.total (Snapshot.uses sid)

/-! ## The invariant -/

/-- The stream object exists, and is registered for no other kind. -/
def OfKind (t : StreamTable) (sid : Nat) (kind : StreamKind) : Prop :=
  sid < t.nextStream ∧ ∀ kind', Registered t kind' sid → kind' = kind

/-- Every stream object counts its users, and handles and snapshots have streams of their
kind. -/
structure SharingInv (s : MarketData) : Prop where
  market : MarketInv s
  use : UseInv s.table (streamUsers s)
  handles : ∀ id h, s.subs.handles.get? id = some h → OfKind s.table h.stream h.channel.kind
  snapshots : ∀ id snapshot, s.snapshots.get? id = some snapshot →
    id < s.nextSnapshot ∧ OfKind s.table snapshot.stream snapshot.kind

theorem sharingInv_init : SharingInv .init where
  market := marketInv_init
  use := useInv_init
  handles := by
    intro id h hid
    cases hid
  snapshots := by
    intro id snapshot hid
    cases hid

theorem OfKind.frame {t t' : StreamTable} {sid : Nat} {kind : StreamKind}
    (h : OfKind t sid kind) (hframe : StreamFrame t t') : OfKind t' sid kind :=
  ⟨hframe.next ▸ h.1, fun kind' hreg => h.2 kind' (hframe.registered hreg)⟩

/-- A stream that is found, opened or held has the kind it was asked for; other objects
keep theirs. -/
theorem OfKind.only {t t' : StreamTable} {sid sid' : Nat} {kind kind' : StreamKind} {n : Nat}
    (h : OfKind t sid' kind') (honly : OnlyStream sid t t') (hnext : t.nextStream ≤ t'.nextStream)
    (hknown : sid < t.nextStream → Registered t kind sid) (hrefs : RefsAt t' sid n)
    (hreg : Registered t' kind sid) : OfKind t' sid' kind' := by
  refine ⟨h.1.trans_le hnext, fun k hk => ?_⟩
  by_cases heq : sid' = sid
  · subst heq
    exact (hrefs.kinds k kind hk hreg).trans (h.2 kind (hknown h.1))
  · exact h.2 k ((honly.registered k sid' heq).1 hk)

/-- A registered stream has one kind. -/
theorem ofKind_of_registered {t : StreamTable} {sid n : Nat} {kind : StreamKind}
    (hkeyed : KeyedInv t) (hrefs : RefsAt t sid n) (hreg : Registered t kind sid) :
    OfKind t sid kind := by
  refine ⟨?_, fun kind' hkind' => hrefs.kinds kind' kind hkind' hreg⟩
  obtain ⟨key, hkey⟩ := hreg
  exact hkeyed.fresh sid key (hkeyed.registered kind key sid hkey)

/-- Operations on the stream table that open no stream and leave every user. -/
theorem SharingInv.table {s : MarketData} (h : SharingInv s) {table : StreamTable}
    (hframe : StreamFrame s.table table) (huse : UseInv table (streamUsers s)) :
    SharingInv { s with table := table } where
  market := h.market.table rfl hframe
  use := huse
  handles id handle hid := (h.handles id handle hid).frame hframe
  snapshots id snapshot hid :=
    ⟨(h.snapshots id snapshot hid).1, (h.snapshots id snapshot hid).2.frame hframe⟩

/-! ## Subscribing -/

theorem acquire_held {cap : Nat} {t t' : StreamTable} {users : Nat → Nat} {channel : Channel}
    {contract : Contract} {ticker : Option Nat} {sid : Nat} (h : UseInv t users)
    (hkeyed : KeyedInv t) (hacquire : acquire cap t channel contract ticker = (t', some sid)) :
    Held t t' users channel.kind sid := by
  cases channel with
  | depth => exact acquireDepth_held h hkeyed hacquire
  | trades => exact acquireTrades_held h hkeyed hacquire

theorem acquire_refused {cap : Nat} {t t' : StreamTable} {users : Nat → Nat} {channel : Channel}
    {contract : Contract} {ticker : Option Nat} (h : UseInv t users) (hkeyed : KeyedInv t)
    (hacquire : acquire cap t channel contract ticker = (t', none)) : Refused t t' users := by
  cases channel with
  | depth => exact acquireDepth_refused h hkeyed hacquire
  | trades => exact acquireTrades_refused h hkeyed hacquire

/-- A subscription that has its stream gets a handle, one user more of that stream. -/
theorem SharingInv.subscribed {s : MarketData} (h : SharingInv s) {table : StreamTable}
    {sid id : Nat} {channel : Channel} {contract : Contract} {f : Stream → Stream}
    {subs : Subscribers} (hf : ∀ st, (f st).use = st.use)
    (hcontract : ∀ st, (f st).contract = st.contract)
    (hmarket : MarketInv { s with table := updateStream table sid f, subs := subs })
    (hheld : Held s.table table (streamUsers s) channel.kind sid) (hkeyed : KeyedInv table)
    (habsent : s.subs.handles.get? id = none)
    (hhandles : subs.handles = s.subs.handles.set id ⟨channel, contract, sid, false, none⟩) :
    SharingInv { s with table := updateStream table sid f, subs := subs } := by
  have hframe : StreamFrame table (updateStream table sid f) := .updateStream table sid f hcontract
  have hkind : ∀ {sid' kind}, OfKind s.table sid' kind →
      OfKind (updateStream table sid f) sid' kind := fun hold =>
    (hold.only hheld.only hheld.next hheld.known hheld.use.toRefsAt hheld.registered).frame hframe
  refine ⟨hmarket, ?_, fun id' handle hid => ?_, fun id' snapshot hid =>
    ⟨(h.snapshots id' snapshot hid).1, hkind (h.snapshots id' snapshot hid).2⟩⟩
  · have husers : ∀ sid', streamUsers { s with
        table := updateStream table sid f, subs := subs } sid' =
          streamUsers s sid' + if sid = sid' then 1 else 0 := by
      intro sid'
      simp only [streamUsers, hhandles, Dict.total_set_of_absent habsent,
        SubscriptionHandle.uses, true_and]
      omega
    refine (h.use.only hheld.only ?_ fun sid' hne => ?_).same (.updateStream table sid f hf)
    · rw [husers, if_pos rfl]
      exact hheld.use
    · rw [husers, if_neg (Ne.symm hne), Nat.add_zero]
  · dsimp only at hid
    rw [hhandles, Dict.get?_set] at hid
    split_ifs at hid with heq
    · cases hid
      exact (ofKind_of_registered hkeyed hheld.use.toRefsAt hheld.registered).frame hframe
    · exact hkind (h.handles id' handle hid)

/-- Refused streams leave no user. -/
theorem SharingInv.refused {s : MarketData} (h : SharingInv s) {table : StreamTable}
    (hrefused : Refused s.table table (streamUsers s)) (hkeyed : KeyedInv table) :
    SharingInv { s with table := table } := by
  have hkind : ∀ sid kind, OfKind s.table sid kind → OfKind table sid kind :=
    fun sid kind hold => ⟨hold.1.trans_le hrefused.next,
      fun kind' hreg => hold.2 kind' ((hrefused.registered kind' sid).1 hreg)⟩
  exact ⟨⟨h.market.subscribers, hkeyed⟩, hrefused.use,
    fun id handle hid => hkind _ _ (h.handles id handle hid),
    fun id snapshot hid =>
      ⟨(h.snapshots id snapshot hid).1, hkind _ _ (h.snapshots id snapshot hid).2⟩⟩

theorem SharingInv.subscribe {s : MarketData} (h : SharingInv s) (cap : Nat) (channel : Channel)
    (contract : Contract) (ticker : Option Nat) :
    SharingInv (subscribe cap s channel contract ticker) := by
  have hmarket := h.market.subscribe cap channel contract ticker
  have hkeyed := h.market.keyed.acquire cap channel contract ticker
  unfold Ib.subscribe at hmarket ⊢
  rcases hacquire : acquire cap s.table channel contract ticker with ⟨table, none | sid⟩
  · rw [hacquire] at hmarket hkeyed
    have hrefused := h.refused (acquire_refused h.use h.market.keyed hacquire) hkeyed
    exact ⟨hmarket, hrefused.use, hrefused.handles, hrefused.snapshots⟩
  · rw [hacquire] at hmarket hkeyed
    exact h.subscribed (fun _ => rfl) (fun _ => rfl) hmarket
      (acquire_held h.use h.market.keyed hacquire) hkeyed
      (h.market.subscribers.fresh (s.subs.subscribeSeq + 1) (Nat.lt_succ_self _)) rfl

/-! ## Closing -/

/-- An open handle that closes is one user less of its stream. -/
theorem oneLess_closed {s s' : MarketData} {id : Nat} {handle : SubscriptionHandle}
    (hid : s.subs.handles.get? id = some handle) (hopen : handle.closed = false)
    (hhandles : s'.subs.handles = s.subs.handles.set id { handle with closed := true })
    (hsnapshots : s'.snapshots = s.snapshots) :
    OneLess handle.stream (streamUsers s) (streamUsers s') := by
  have husers : ∀ sid, streamUsers s' sid + (if handle.stream = sid then 1 else 0) =
      streamUsers s sid := by
    intro sid
    have hset := Dict.total_set_of_get? hid { handle with closed := true }
      (SubscriptionHandle.uses sid)
    have hbefore : handle.uses sid = if handle.stream = sid then 1 else 0 := by
      simp [SubscriptionHandle.uses, hopen]
    have hafter : SubscriptionHandle.uses sid { handle with closed := true } = 0 := by
      simp [SubscriptionHandle.uses]
    unfold streamUsers
    rw [hhandles, hsnapshots]
    omega
  refine ⟨?_, fun sid hne => ?_⟩
  · simp [← husers]
  · rw [← husers, if_neg (Ne.symm hne), Nat.add_zero]

/-- Changing a handle, but not its stream or channel. -/
theorem handles_set {s : MarketData} (h : SharingInv s) {id : Nat}
    {handle handle' : SubscriptionHandle} (hid : s.subs.handles.get? id = some handle)
    {id' : Nat} {found : SubscriptionHandle}
    (hfound : (s.subs.handles.set id handle').get? id' = some found)
    (hstream : handle'.stream = handle.stream) (hchannel : handle'.channel = handle.channel) :
    OfKind s.table found.stream found.channel.kind := by
  have hnew : OfKind s.table handle'.stream handle'.channel.kind := by
    rw [hstream, hchannel]
    exact h.handles id handle hid
  exact Dict.forall_get?_set h.handles hnew id' found hfound

theorem SharingInv.closeHandle {s : MarketData} (h : SharingInv s) (id : Nat) (loop : Bool) :
    SharingInv (closeHandle s id loop) := by
  have hmarket := h.market.closeHandle id loop
  rcases closeHandle_cases s id loop with ⟨handle, hid, hopen, heq⟩ | ⟨-, hsame⟩
  · rw [heq] at hmarket ⊢
    have hframe := cleanup_frame (setHandle s id { handle with closed := true }) id handle loop
    have hhandles : (cleanup (setHandle s id { handle with closed := true }) id handle
        loop).subs.handles = s.subs.handles.set id { handle with closed := true } := by
      rw [cleanup_subs]
      rfl
    have hsnapshots : (cleanup (setHandle s id { handle with closed := true }) id handle
        loop).snapshots = s.snapshots ∧ (cleanup (setHandle s id { handle with
          closed := true }) id handle loop).nextSnapshot = s.nextSnapshot := by
      unfold cleanup
      cases handle.channel <;> exact ⟨rfl, rfl⟩
    have hless := oneLess_closed hid hopen hhandles hsnapshots.1
    have hforget : UseSame s.table (updateStream s.table handle.stream fun st =>
        { st with subscribers := st.subscribers.erase id }) :=
      .updateStream _ _ _ fun _ => rfl
    have hkeyed : KeyedInv (updateStream s.table handle.stream fun st =>
        { st with subscribers := st.subscribers.erase id }) :=
      h.market.keyed.frame (.updateStream _ _ _ fun _ => rfl)
    refine ⟨hmarket, ?_, fun id' found hfound => ?_, fun id' snapshot hsnapshot => ?_⟩
    · revert hless
      unfold cleanup
      cases hchannel : handle.channel with
      | depth => exact fun hless => (h.use.same hforget).releaseDepth hkeyed hless loop
      | trades =>
          refine fun hless => (h.use.same hforget).releaseTrades hkeyed hless ?_
          rw [hforget.registered]
          intro hdepth
          have hkind := (h.handles id handle hid).2 .depth hdepth
          rw [hchannel] at hkind
          cases hkind
    · rw [hhandles] at hfound
      exact (handles_set h hid hfound rfl rfl).frame hframe
    · rw [hsnapshots.1] at hsnapshot
      rw [hsnapshots.2]
      exact ⟨(h.snapshots id' snapshot hsnapshot).1,
        (h.snapshots id' snapshot hsnapshot).2.frame hframe⟩
  · rw [hsame]
    exact h

theorem SharingInv.failHandle {s : MarketData} (h : SharingInv s) (exc : StreamError) (id : Nat) :
    SharingInv (failHandle exc s id) := by
  rcases failHandle_cases exc s id with ⟨handle, hid, -, heq⟩ | ⟨-, hsame⟩
  · have hmarket : MarketInv (setHandle s id { handle with error := some exc }) :=
      ⟨h.market.subscribers.setError hid _, h.market.keyed⟩
    have husers : ∀ sid, streamUsers (setHandle s id { handle with error := some exc }) sid =
        streamUsers s sid := by
      intro sid
      have hset := Dict.total_set_of_get? hid { handle with error := some exc }
        (SubscriptionHandle.uses sid)
      have hsame : SubscriptionHandle.uses sid { handle with error := some exc } =
          handle.uses sid := rfl
      simp only [streamUsers, setHandle]
      omega
    have herror : SharingInv (setHandle s id { handle with error := some exc }) := by
      refine ⟨hmarket, fun sid => ?_, fun id' found hfound => handles_set h hid hfound rfl rfl,
        h.snapshots⟩
      rw [husers]
      exact h.use sid
    rw [heq]
    exact herror.closeHandle id true
  · rw [hsame]
    exact h

/-! ## Errors and snapshots -/

theorem useInv_dropRegistered {s : MarketData} (h : MarketInv s) {users : Nat → Nat}
    (huse : UseInv s.table users) (kind : StreamKind) (sid : Nat) :
    UseInv (dropRegistered s kind sid).table users := by
  unfold dropRegistered
  split_ifs with hreg
  · refine huse.dropStream h.keyed ?_
    by_cases hkind : kind = .depth
    · exact Or.inl hkind
    · refine Or.inr fun hdepth => hkind ?_
      exact (huse sid).kinds kind .depth ((isRegistered_iff h.keyed).1 hreg) hdepth
  · exact huse

theorem SharingInv.dropRegistered {s : MarketData} (h : SharingInv s) (kind : StreamKind)
    (sid : Nat) : SharingInv (dropRegistered s kind sid) := by
  rw [dropRegistered_eq]
  exact h.table (.dropRegistered s kind sid) (useInv_dropRegistered h.market h.use kind sid)

theorem SharingInv.dropFailed {s : MarketData} (h : SharingInv s) (reqId code : Int)
    (message : String) : SharingInv (dropFailed s reqId code message).1 := by
  unfold Ib.dropFailed
  split
  · exact h
  · split
    · split
      · exact h
      · exact h.table (.dropTrades _ _) (h.use.dropTrades h.market.keyed _)
    · split
      · exact h
      · split
        · exact h.dropRegistered _ _
        · split
          · exact h.table (.updateStream _ _ _ fun _ => rfl)
              (h.use.same (.updateStream _ _ _ fun _ => rfl))
          · exact h

/-- A snapshot that has its stream begins to wait. -/
theorem SharingInv.snapshotStarted {s : MarketData} (h : SharingInv s) {table : StreamTable}
    {sid : Nat} {depth : Bool} {f : Stream → Stream} (hf : ∀ st, (f st).use = st.use)
    (hcontract : ∀ st, (f st).contract = st.contract)
    (hmarket : MarketInv { s with
      table := updateStream table sid f
      snapshots := s.snapshots.set s.nextSnapshot ⟨sid, depth⟩
      nextSnapshot := s.nextSnapshot + 1 })
    (hkind : ∀ sid' kind, OfKind s.table sid' kind → OfKind table sid' kind)
    (hsid : OfKind table sid (Snapshot.kind ⟨sid, depth⟩))
    (huse : UseInv table fun sid' => streamUsers s sid' + Snapshot.uses sid' ⟨sid, depth⟩) :
    SharingInv { s with
      table := updateStream table sid f
      snapshots := s.snapshots.set s.nextSnapshot ⟨sid, depth⟩
      nextSnapshot := s.nextSnapshot + 1 } := by
  have hframe : StreamFrame table (updateStream table sid f) := .updateStream table sid f hcontract
  have habsent : s.snapshots.get? s.nextSnapshot = none := by
    cases hnext : s.snapshots.get? s.nextSnapshot with
    | none => rfl
    | some snapshot => exact absurd (h.snapshots _ _ hnext).1 (Nat.lt_irrefl _)
  refine ⟨hmarket, fun sid' => ?_, fun id handle hid => ?_, fun id snapshot hid => ?_⟩
  · have hone := Dict.total_set_of_absent habsent ⟨sid, depth⟩ (Snapshot.uses sid')
    have husers : streamUsers { s with
        table := updateStream table sid f
        snapshots := s.snapshots.set s.nextSnapshot ⟨sid, depth⟩
        nextSnapshot := s.nextSnapshot + 1 } sid' =
          streamUsers s sid' + Snapshot.uses sid' ⟨sid, depth⟩ := by
      simp only [streamUsers, hone]
      omega
    rw [husers]
    exact (huse sid').same (.updateStream table sid f hf)
  · exact (hkind _ _ (h.handles id handle hid)).frame hframe
  · simp only [Dict.get?_set] at hid
    split_ifs at hid with heq
    · cases hid
      rw [heq]
      exact ⟨Nat.lt_succ_self _, hsid.frame hframe⟩
    · obtain ⟨hlt, hold⟩ := h.snapshots id snapshot hid
      exact ⟨Nat.lt_succ_of_lt hlt, (hkind _ _ hold).frame hframe⟩

theorem SharingInv.depthSnapshot {s : MarketData} (h : SharingInv s) (cap : Nat)
    (contract : Contract) (ticker : Option Nat) :
    SharingInv (startSnapshot cap s true contract ticker) := by
  have hmarket := h.market.startSnapshot cap true contract ticker
  have hkeyed := h.market.keyed.acquireDepth cap contract ticker
  unfold startSnapshot at hmarket ⊢
  simp only [if_true] at hmarket ⊢
  rcases hacquire : acquireDepth cap s.table contract ticker with ⟨table, none | sid⟩
  · rw [hacquire] at hkeyed
    exact h.refused (acquireDepth_refused h.use h.market.keyed hacquire) hkeyed
  · rw [hacquire] at hmarket hkeyed
    have hheld := acquireDepth_held h.use h.market.keyed hacquire
    refine h.snapshotStarted (fun _ => rfl) (fun _ => rfl) hmarket
      (fun sid' kind hold => hold.only hheld.only hheld.next hheld.known hheld.use.toRefsAt
        hheld.registered)
      (ofKind_of_registered hkeyed hheld.use.toRefsAt hheld.registered) ?_
    refine h.use.only hheld.only ?_ fun sid' hne => ?_
    · simpa [Snapshot.uses] using hheld.use
    · simp [Snapshot.uses, Ne.symm hne]

theorem SharingInv.topOfBook {s : MarketData} (h : SharingInv s) (cap : Nat)
    (contract : Contract) (ticker : Option Nat) :
    SharingInv (startSnapshot cap s false contract ticker) := by
  have hmarket := h.market.startSnapshot cap false contract ticker
  have hkeyed := h.market.keyed.findOrOpen cap .l1 contract ticker
  unfold startSnapshot at hmarket ⊢
  simp only [Bool.false_eq_true, if_false] at hmarket ⊢
  rcases hfind : findOrOpen cap s.table .l1 contract ticker with ⟨table, none | sid⟩
  · rw [hfind] at hkeyed
    exact h.refused (findOrOpen_refused h.use h.market.keyed hfind) hkeyed
  · rw [hfind] at hmarket hkeyed
    have hfound := findOrOpen_found h.use h.market.keyed hfind
    refine h.snapshotStarted (fun _ => rfl) (fun _ => rfl) hmarket
      (fun sid' kind hold => hold.only hfound.only hfound.next hfound.known hfound.refs
        hfound.registered)
      (ofKind_of_registered hkeyed hfound.refs hfound.registered) ?_
    refine h.use.only hfound.only ?_ fun sid' _ => ?_
    · simpa [Snapshot.uses] using hfound.idle (by simp)
    · simp [Snapshot.uses]

/-- A depth snapshot that ends is one user less of its stream; a top of book was none. -/
theorem SharingInv.endSnapshot {s : MarketData} (h : SharingInv s) {id : Nat}
    {snapshot : Snapshot} (hid : s.snapshots.get? id = some snapshot) (timedOut : Bool) :
    SharingInv (endSnapshot s id snapshot timedOut) := by
  have hmarket := h.market.endSnapshot id snapshot timedOut
  have hleft : MarketInv (leaveSnapshot s id snapshot) :=
    h.market.table rfl (.updateStream _ _ _ fun _ => rfl)
  have hleftUse : UseInv (leaveSnapshot s id snapshot).table (streamUsers s) :=
    h.use.same (.updateStream _ _ _ fun _ => rfl)
  -- the stream may be dropped before the snapshot leaves it
  have hdropped : ∃ table, dropAtDeadline (leaveSnapshot s id snapshot) snapshot timedOut =
      { leaveSnapshot s id snapshot with table := table } ∧ UseInv table (streamUsers s) ∧
        StreamFrame s.table table ∧ KeyedInv table := by
    have hframe : StreamFrame s.table (leaveSnapshot s id snapshot).table :=
      .updateStream _ _ _ fun _ => rfl
    obtain heq | heq := dropAtDeadline_eq (leaveSnapshot s id snapshot) snapshot timedOut
    · exact ⟨_, heq, hleftUse, hframe, hleft.keyed⟩
    · have huse := useInv_dropRegistered hleft hleftUse
        (if snapshot.depth then .depth else .l1) snapshot.stream
      have hdrop := StreamFrame.dropRegistered (leaveSnapshot s id snapshot)
        (if snapshot.depth then .depth else .l1) snapshot.stream
      rw [heq]
      exact ⟨_, dropRegistered_eq _ _ _, huse, hframe.trans hdrop, hleft.keyed.frame hdrop⟩
  obtain ⟨table, heq, huse, hframe, hkeyed⟩ := hdropped
  have husers : ∀ sid, streamUsers (leaveSnapshot s id snapshot) sid + snapshot.uses sid =
      streamUsers s sid := by
    intro sid
    have hpop := Dict.total_pop_of_get? hid (Snapshot.uses sid)
    simp only [streamUsers, leaveSnapshot]
    omega
  have hsnapshots : ∀ id' found, (s.snapshots.pop id).get? id' = some found →
      s.snapshots.get? id' = some found := fun id' found hfound => Dict.get?_of_pop hfound
  unfold Ib.endSnapshot at hmarket ⊢
  rw [heq] at hmarket ⊢
  dsimp only at hmarket ⊢
  split_ifs at hmarket ⊢ with hdepth
  · have hrelease := hframe.trans (.releaseDepth table snapshot.stream true)
    have hless : OneLess snapshot.stream (streamUsers s)
        (streamUsers (leaveSnapshot s id snapshot)) := by
      refine ⟨?_, fun sid hne => ?_⟩
      · simp [← husers, Snapshot.uses, hdepth]
      · simp [← husers, Snapshot.uses, Ne.symm hne]
    exact ⟨hmarket, huse.releaseDepth hkeyed hless true,
      fun id' handle hid' => (h.handles id' handle hid').frame hrelease,
      fun id' found hfound => ⟨(h.snapshots id' found (hsnapshots id' found hfound)).1,
        (h.snapshots id' found (hsnapshots id' found hfound)).2.frame hrelease⟩⟩
  · refine ⟨hmarket, fun sid => ?_, fun id' handle hid' => (h.handles id' handle hid').frame hframe,
      fun id' found hfound => ⟨(h.snapshots id' found (hsnapshots id' found hfound)).1,
        (h.snapshots id' found (hsnapshots id' found hfound)).2.frame hframe⟩⟩
    have hsame : streamUsers (leaveSnapshot s id snapshot) sid = streamUsers s sid := by
      simp [← husers, Snapshot.uses, hdepth]
    have hself := huse sid
    rw [← hsame] at hself
    exact hself

/-! ## Steps -/

/-- Every stream object counts its users, whatever callbacks do. -/
theorem SharingInv.move {cap : Nat} {s s' : MarketData} {l : CallbackLabel}
    (h : SharingInv s) (hmove : CallbackMove cap s l s') : SharingInv s' := by
  cases hmove with
  | same => exact h
  | subscribes => exact h.subscribe cap _ _ _
  | closes => exact h.closeHandle _ _
  | topOfBook => exact h.topOfBook cap _ _
  | depthSnapshot => exact h.depthSnapshot cap _ _
  | snapshotEnds hid => exact h.endSnapshot hid _
  | resubscribes =>
      exact h.table (.resubscribeAll _ _ _) (h.use.same (.resubscribeAll _ _ _))
  | depthReset => exact h.table (.clearDepthBooks _) (h.use.same (.clearDepthBooks _))
  | idleExpires hsid hidle =>
      exact h.table (.idleExpired _ _) (h.use.idleExpired h.market.keyed _)
  | releaseAll => exact h.table (.releaseAll _) (h.use.releaseAll h.market.keyed)
  | routed hnone => exact h.dropFailed _ _ _
  | fails hsome =>
      exact (h.dropFailed _ _ _).table (.updateStream _ _ _ fun _ => rfl)
        ((h.dropFailed _ _ _).use.same (.updateStream _ _ _ fun _ => rfl))
  | @depthUpdate sid current ticks =>
      exact h.table (.updateStream _ _ _ (contract_foldl_applyDepthTick ticks))
        (h.use.same (.updateStream _ _ _ (use_foldl_applyDepthTick ticks)))
  | publishes => exact ⟨⟨h.market.subscribers, h.market.keyed⟩, h.use, h.handles, h.snapshots⟩
  | notifies => exact h.failHandle _ _

/-! ## Depth streams -/

/-- Every registered depth stream counts the open depth handles and the depth snapshots in
flight that acquired that very object, and its idle timer is armed exactly while there are
none. -/
def DepthCounted (s : MarketData) : Prop :=
  ∀ sid, Registered s.table .depth sid → ∃ st, s.table.streams.get? sid = some st ∧
    st.refs = openDepthHandles s sid + depthSnapshots s sid ∧ (st.idle = true ↔ st.refs = 0)

/-- The idle timer of an unused depth stream can fire, and then releases it. -/
def UnusedReleased (cap : Nat) (s : CallbackState) : Prop :=
  ∀ sid, Registered s.market.table .depth sid →
    openDepthHandles s.market sid + depthSnapshots s.market sid = 0 →
    ∃ s', callbackStep cap s (.op (.idleExpires sid)) = some s' ∧
      ¬ Registered s'.market.table .depth sid

/-- An idle timer that fires works on its own stream object, which nobody uses; closing a
handle works on the stream object the handle acquired. -/
def OwnStreamOnly (cap : Nat) (s : CallbackState) (l : CallbackLabel) : Prop :=
  ∀ s', callbackStep cap s l = some s' →
    (∀ sid, l = .op (.idleExpires sid) →
      openDepthHandles s.market sid + depthSnapshots s.market sid = 0 ∧
        OnlyStream sid s.market.table s'.market.table) ∧
    ∀ id loop handle, l = .op (.close id loop) → s.market.subs.handles.get? id = some handle →
      OnlyStream handle.stream s.market.table s'.market.table

theorem openDepthHandles_le (s : MarketData) (sid : Nat) :
    openDepthHandles s sid + depthSnapshots s sid ≤ streamUsers s sid := by
  have hle : openDepthHandles s sid ≤ s.subs.handles.total (SubscriptionHandle.uses sid) := by
    refine Dict.total_le_total fun id h _ => ?_
    unfold SubscriptionHandle.uses
    split_ifs with hdepth huses
    · exact Nat.le_refl _
    · exact absurd ⟨hdepth.1, hdepth.2.2⟩ huses
    · exact Nat.zero_le _
    · exact Nat.le_refl _
  unfold streamUsers depthSnapshots
  omega

/-- The handles of a registered depth stream are depth handles. -/
theorem SharingInv.streamUsers_eq {s : MarketData} (h : SharingInv s) {sid : Nat}
    (hreg : Registered s.table .depth sid) :
    streamUsers s sid = openDepthHandles s sid + depthSnapshots s sid := by
  have heq : openDepthHandles s sid = s.subs.handles.total (SubscriptionHandle.uses sid) := by
    refine Dict.total_congr fun id handle hid => ?_
    have hdepth : handle.stream = sid → handle.channel = .depth := by
      rintro rfl
      have hkind := (h.handles id handle hid).2 .depth hreg
      cases hchannel : handle.channel with
      | depth => rfl
      | trades =>
          rw [hchannel] at hkind
          cases hkind
    unfold SubscriptionHandle.uses
    congr 1
    simp only [eq_iff_iff]
    tauto
  unfold streamUsers depthSnapshots
  rw [heq]

theorem SharingInv.depthCounted {s : MarketData} (h : SharingInv s) : DepthCounted s := by
  intro sid hreg
  obtain ⟨key, hkey⟩ := hreg
  obtain ⟨st, hst, -⟩ := Option.map_eq_some_iff.1 (h.market.keyed.registered .depth key sid hkey)
  have hrefs := (h.use sid).refs st hst
  have hidle := (h.use sid).idle st hst
  have husers := h.streamUsers_eq ⟨key, hkey⟩
  refine ⟨st, hst, by omega, ?_⟩
  rw [hidle]
  have hreg : Registered s.table .depth sid := ⟨key, hkey⟩
  simp only [hreg, and_true]
  omega

theorem not_registered_idleExpired {t : StreamTable} {sid : Nat} (hkeyed : KeyedInv t)
    (hrefs : ∀ st, t.streams.get? sid = some st → st.refs = 0) :
    ¬ Registered (idleExpired t sid) .depth sid := by
  have hkeyed' : KeyedInv (updateStream t sid fun s => { s with idle := false }) :=
    hkeyed.frame (.updateStream t sid _ fun _ => rfl)
  have hunused : (((updateStream t sid fun s => { s with idle := false }).streams.get? sid).map
      Stream.refs).getD 0 ≤ 0 := by
    rw [get?_updateStream, if_pos rfl]
    cases hst : t.streams.get? sid with
    | none => exact Int.le_refl 0
    | some st => exact Int.le_of_eq (hrefs st hst)
  unfold idleExpired
  dsimp only
  split_ifs with hdrops
  · rw [registered_dropStream hkeyed']
    simp
  · intro hreg
    apply hdrops
    simp only [Bool.and_eq_true, decide_eq_true_eq]
    exact ⟨hunused, (isRegistered_iff hkeyed').2 hreg⟩

theorem SharingInv.unusedReleased {s : CallbackState} (h : SharingInv s.market) (cap : Nat) :
    UnusedReleased cap s := by
  intro sid hreg hnone
  obtain ⟨st, hst, hrefs, hidle⟩ := h.depthCounted sid hreg
  have hzero : st.refs = 0 := by omega
  have hstep : callbackStep cap s (.op (.idleExpires sid)) =
      some ⟨{ s.market with table := idleExpired s.market.table sid }, s.stack⟩ := by
    simp [callbackStep, opStep, streamStep, hst, hidle.2 hzero]
  refine ⟨_, hstep, not_registered_idleExpired h.market.keyed fun st' hst' => ?_⟩
  cases hst.symm.trans hst'
  exact hzero

/-- Closing a handle works on its own stream object. -/
theorem onlyStream_closeHandle {s : MarketData} (hkeyed : KeyedInv s.table) {id : Nat}
    {handle : SubscriptionHandle} (hid : s.subs.handles.get? id = some handle) (loop : Bool) :
    OnlyStream handle.stream s.table (closeHandle s id loop).table := by
  unfold closeHandle
  simp only [hid]
  split_ifs
  · exact .refl _
  · have hforget : OnlyStream handle.stream s.table (updateStream s.table handle.stream fun st =>
        { st with subscribers := st.subscribers.erase id }) := .updateStream _ _
    have hkeyed' : KeyedInv (updateStream s.table handle.stream fun st =>
        { st with subscribers := st.subscribers.erase id }) :=
      hkeyed.frame (.updateStream _ _ _ fun _ => rfl)
    unfold cleanup
    cases handle.channel with
    | depth => exact hforget.trans (.releaseDepth hkeyed' loop)
    | trades => exact hforget.trans (.releaseTrades hkeyed')

theorem SharingInv.ownStreamOnly {s : CallbackState} (h : SharingInv s.market) (cap : Nat)
    (l : CallbackLabel) : OwnStreamOnly cap s l := by
  intro s' hstep
  constructor
  · rintro sid rfl
    simp only [callbackStep, opStep, streamStep] at hstep
    split at hstep
    · rename_i st hst
      split_ifs at hstep with hidle
      · cases hstep
        have hunused := ((h.use sid).idle st hst).1 hidle
        have hle := openDepthHandles_le s.market sid
        exact ⟨by omega, .idleExpired h.market.keyed⟩
      · cases hstep
    · cases hstep
  · rintro id loop handle rfl hid
    cases hstep
    exact onlyStream_closeHandle h.market.keyed hid loop

/-- In every state of every run, whatever callbacks do, a registered depth stream counts
its users, its idle timer runs exactly while it has none and then releases it; the timer
works on an unused stream only, and closing a handle on the stream it acquired only. -/
theorem depth_streams_counted (spec : IbConnectionSpec) (ls : List CallbackLabel) :
    (callbackMachine spec).AllStates
        (fun s => DepthCounted s.market ∧ UnusedReleased spec.marketDataLines s) .init ls ∧
      (callbackMachine spec).AllSteps (OwnStreamOnly spec.marketDataLines) .init ls := by
  have hstep : ∀ s l s', SharingInv s.market → (callbackMachine spec).step s l = some s' →
      SharingInv s'.market := fun _ _ _ h hstep => h.move (callbackStep_move hstep)
  constructor
  · exact Machine.allStates_of_invariant _ hstep (fun s h => ⟨h.depthCounted, h.unusedReleased _⟩)
      sharingInv_init ls
  · exact Machine.allSteps_of_invariant _ hstep (fun s l h => h.ownStreamOnly _ l)
      sharingInv_init ls

end Ib
end MarketConnector
