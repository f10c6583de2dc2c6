import MarketConnector.Ib.PnlCancels

/-!
# Ib - Do the requests follow the feeds?

While the session is up, IB is to serve one request for every registered feed.  The
supervisor issues the requests anew when it has reconnected; a `connect()` does not, so the
feeds that a given-up session leaves are never served again.  Requests that are issued anew
without a cancellation must not meet old ones.

Main results:

- Theorem `session_step`: how a session comes up.
- Theorem `LiveInv.step`: what keeps the requests behind the feeds.
- Theorem `pnlShared_iff`: the runs whose requests follow the feeds.
- Theorem `connect_leaves_feed_unserved`: a feed that survives a given-up session.
-/

namespace MarketConnector
namespace Ib

open Foundations

/-! ## How a session comes up -/

/-- Socket and router are up. -/
def SessionUp (s : Transport) : Prop :=
  s.socketUp = true ∧ s.routerUp = true

/-- The step can bring the session up without issuing the requests of the feeds anew: a
`connect()` succeeds, or opens the socket under a router that is up, or IB reports that the
connectivity is back. -/
def comesUp (spec : IbConnectionSpec) (s : Transport) : AttemptLabel → Bool
  | .base (.opened _ accounts _) =>
      s.routerUp && (resolveAccount spec.accountId accounts).isSome
  | .readsRaise _ _ => s.routerUp
  | .base (.errorCode code) => s.socketUp && s.handlersAttached && code = 1102
  | .base (.reconciled id) => s.socketUp && completes spec s false (.base (.reconciled id))
  | .base (.synced id) => s.socketUp && completes spec s false (.base (.synced id))
  | _ => false

/-- A task that ends keeps socket and router. -/
theorem session_endTask (s : Transport) (id : Nat) (role : Role) :
    (endTask s id role).socketUp = s.socketUp ∧ (endTask s id role).routerUp = s.routerUp := by
  cases role <;> exact ⟨rfl, rfl⟩

/-- An attempt that succeeds takes the router up and keeps the socket. -/
theorem session_connected (s : Transport) (id : Nat) (role : Role) :
    (publishState (endTask (setConnected s true) id role) .connected).socketUp = s.socketUp ∧
      (publishState (endTask (setConnected s true) id role) .connected).routerUp = true :=
  session_endTask (setConnected s true) id role

theorem session_attemptRaised (spec : IbConnectionSpec) (s : Transport) (id : Nat) (role : Role)
    (exc : ConnectError) :
    (attemptRaised spec s id role exc).socketUp = s.socketUp ∧
      (attemptRaised spec s id role exc).routerUp = s.routerUp := by
  unfold attemptRaised
  split_ifs
  · cases role <;> exact ⟨rfl, rfl⟩
  · exact ⟨rfl, rfl⟩

theorem session_completes {spec : IbConnectionSpec} {s t : Transport} {l : AttemptLabel}
    {supervised : Bool} (hcompletes : completes spec s supervised l = true)
    (hstep : attemptStep spec s l = some t) :
    t.socketUp = s.socketUp ∧ t.routerUp = true := by
  unfold completes at hcompletes
  split at hcompletes
  · rw [Bool.and_eq_true] at hcompletes
    obtain ⟨role, hrole, rfl⟩ := Option.map_eq_some_iff.1 hstep
    unfold afterReconcile
    rw [if_pos hcompletes.1]
    exact session_connected s _ role
  · obtain ⟨role, hrole, rfl⟩ := Option.map_eq_some_iff.1 hstep
    exact session_connected s _ role
  · cases hcompletes

/-- At the end of `disconnect()` the socket is closed. -/
theorem session_endsDisconnect {spec : IbConnectionSpec} {s t : Transport} {l : AttemptLabel}
    (hends : endsDisconnect s l = true) (hstep : attemptStep spec s l = some t) :
    t.socketUp = false := by
  unfold endsDisconnect at hends
  split at hends
  · cases hstep
    unfold startDisconnect
    split
    · rename_i id cancelled phase hfound
      simp only [Option.bind_eq_some_iff, Option.map_eq_some_iff, Prod.mk.injEq] at hfound
      obtain ⟨id', hid', task, htask, rfl, rfl⟩ := hfound
      simp [hid', htask] at hends
    · rfl
  · simp only [attemptStep, step] at hstep
    split at hstep
    · cases hstep
    · split_ifs at hstep
      cases hstep
      rfl
  · cases hends

/-- A closed socket is down. -/
theorem not_sessionUp_closeSocket (s : Transport) (fires : Bool) :
    ¬ SessionUp (closeSocket s fires) := by
  intro hup
  have hdown := closeSocket_socketUp s fires
  rw [hup.1] at hdown
  cases hdown

theorem sessionUp_attemptRaised {spec : IbConnectionSpec} {s : Transport} {id : Nat}
    {role : Role} {exc : ConnectError} :
    SessionUp (attemptRaised spec s id role exc) ↔ SessionUp s := by
  unfold SessionUp
  rw [(session_attemptRaised spec s id role exc).1, (session_attemptRaised spec s id role exc).2]

/-- A session that is up was up before, or came up in one of three ways. -/
theorem session_step {spec : IbConnectionSpec} {s t : Transport} {l : AttemptLabel}
    (hstep : attemptStep spec s l = some t) (hup : SessionUp t) :
    SessionUp s ∨ comesUp spec s l = true ∨ completes spec s true l = true ∨
      losesData s l = true := by
  cases l with
  | connectRaises exc =>
      cases hstep
      have hcalled := sessionUp_attemptRaised.1 hup
      exact Or.inl hcalled
  | wakesRaises id exc =>
      obtain ⟨role, hrole, rfl⟩ := Option.map_eq_some_iff.1 hstep
      have hwoken := sessionUp_attemptRaised.1 hup
      cases role <;> exact Or.inl hwoken
  | readsRaise id exc =>
      obtain ⟨role, hrole, rfl⟩ := Option.map_eq_some_iff.1 hstep
      exact Or.inr (Or.inl (sessionUp_attemptRaised.1 hup).2)
  | base l =>
      cases transportStep_move hstep with
      | connect => exact Or.inl hup
      | disconnect =>
          rcases startDisconnect_cases s with hfinish | ⟨id, cancelled, phase, -, hwaits⟩
          · rw [hfinish] at hup
            cases hup.1
          · rw [hwaits] at hup
            exact Or.inl hup
      | disconnectResumes hcall hdone => cases hup.1
      | wakes hrole =>
          rename_i id role
          cases role <;> exact Or.inl hup
      | accountRefused hrole haccount =>
          exact absurd (sessionUp_attemptRaised.1 hup) (not_sessionUp_closeSocket _ _)
      | dataTypeFails hrole haccount =>
          have hrouter := (sessionUp_attemptRaised.1 hup).2
          simp [comesUp, haccount, show s.routerUp = true from hrouter]
      | opened hrole haccount =>
          simp [comesUp, haccount, show s.routerUp = true from hup.2]
      | openFails hrole =>
          exact absurd (sessionUp_attemptRaised.1 hup) (not_sessionUp_closeSocket _ _)
      | @skipsSync id role hrole hskip =>
          have hsocket : s.socketUp = true := (session_connected s id role).1.symm.trans hup.1
          cases role with
          | connect attempt =>
              simp [comesUp, completes, completes.isSupervisor, hrole, hskip, hsocket]
          | supervise cancelled =>
              simp [completes, completes.isSupervisor, hrole, hskip]
      | reconciled hrole hskip => exact Or.inl hup
      | @synced id role hrole =>
          have hsocket : s.socketUp = true := (session_connected s id role).1.symm.trans hup.1
          cases role with
          | connect attempt =>
              simp [comesUp, completes, completes.isSupervisor, hrole, hsocket]
          | supervise cancelled => simp [completes, completes.isSupervisor, hrole]
      | @cancelled id role phase fires hid hrole =>
          have hended : SessionUp (cancelAttempt s fires phase) := by
            unfold SessionUp
            rw [← (session_endTask (cancelAttempt s fires phase) id role).1,
              ← (session_endTask (cancelAttempt s fires phase) id role).2]
            exact hup
          cases phase with
          | sleeping => exact Or.inl hended
          | opening => exact absurd hended (not_sessionUp_closeSocket s fires)
          | reconciling => exact Or.inl hended
          | syncing => exact Or.inl hended
      | socketDrops hsocket => exact absurd hup (not_sessionUp_closeSocket _ _)
      | @errorCode code hattached =>
          unfold onError at hup
          by_cases hlost : code = 1101
          · simp [losesData, hattached, hlost]
          · by_cases hback : code = 1102
            · have hsocket : s.socketUp = true := by
                simpa [connectivity, hback, publishState] using hup.1
              simp [comesUp, hattached, hback, hsocket]
            · simp only [connectivity, hlost, hback, or_self, if_false] at hup
              split_ifs at hup
              · cases hup.2
              · exact Or.inl hup
      | codeUnheard hdetached => exact Or.inl hup

theorem sessionUp_of_comesUp {spec : IbConnectionSpec} {s t : Transport} {l : AttemptLabel}
    (hcomes : comesUp spec s l = true) (hstep : attemptStep spec s l = some t) : SessionUp t := by
  unfold comesUp at hcomes
  split at hcomes
  · rename_i id accounts dataTypeRaises
    rw [Bool.and_eq_true, Option.isSome_iff_exists] at hcomes
    obtain ⟨hrouter, account, haccount⟩ := hcomes
    obtain ⟨role, hrole, rfl⟩ := Option.map_eq_some_iff.1 hstep
    unfold afterOpen
    simp only [haccount]
    cases dataTypeRaises with
    | none => exact ⟨rfl, hrouter⟩
    | some exc => exact sessionUp_attemptRaised.2 ⟨rfl, hrouter⟩
  · obtain ⟨role, hrole, rfl⟩ := Option.map_eq_some_iff.1 hstep
    exact sessionUp_attemptRaised.2 ⟨rfl, hcomes⟩
  · simp only [Bool.and_eq_true, decide_eq_true_eq] at hcomes
    obtain ⟨⟨hsocket, hattached⟩, rfl⟩ := hcomes
    simp only [attemptStep, step, hattached, if_true] at hstep
    cases hstep
    exact ⟨hsocket, rfl⟩
  · rw [Bool.and_eq_true] at hcomes
    obtain ⟨hsocket, hrouter⟩ := session_completes hcomes.2 hstep
    exact ⟨hsocket.trans hcomes.1, hrouter⟩
  · rw [Bool.and_eq_true] at hcomes
    obtain ⟨hsocket, hrouter⟩ := session_completes hcomes.2 hstep
    exact ⟨hsocket.trans hcomes.1, hrouter⟩
  · cases hcomes

/-- Either a `connect()` or a supervisor comes to its end in a step. -/
theorem completes_exclusive {spec : IbConnectionSpec} {s : Transport} {l : AttemptLabel}
    (h : completes spec s false l = true) : completes spec s true l = false := by
  have hrole : ∀ role : Option Role, role.any (completes.isSupervisor false) = true →
      role.any (completes.isSupervisor true) = false := by
    intro role hrole
    cases role with
    | none => rfl
    | some role =>
        cases role with
        | connect attempt => rfl
        | supervise cancelled => cases hrole
  unfold completes at h ⊢
  split at h
  · rw [Bool.and_eq_true] at h
    rw [hrole _ h.2, Bool.and_false]
  · exact hrole _ h
  · cases h

/-- A session that comes up by itself is not touched otherwise in the same step. -/
theorem comesUp_only {spec : IbConnectionSpec} {s : Transport} {l : AttemptLabel}
    (hcomes : comesUp spec s l = true) :
    completes spec s true l = false ∧ losesData s l = false := by
  unfold comesUp at hcomes
  split at hcomes
  · exact ⟨rfl, rfl⟩
  · exact ⟨rfl, rfl⟩
  · simp only [Bool.and_eq_true, decide_eq_true_eq] at hcomes
    refine ⟨rfl, ?_⟩
    simp [losesData, hcomes.2]
  · rw [Bool.and_eq_true] at hcomes
    exact ⟨completes_exclusive hcomes.2, rfl⟩
  · rw [Bool.and_eq_true] at hcomes
    exact ⟨completes_exclusive hcomes.2, rfl⟩
  · cases hcomes

/-! ## Requests that follow the feeds -/

/-- Every live request belongs to a registered feed; a closed socket has none; while the
session is up every registered feed is served. -/
structure LiveInv (s : PnlTransport) : Prop where
  tracked : s.requests.Tracked s.IsOpen
  closed : s.transport.socketUp = false → s.requests.live = ∅
  served : SessionUp s.transport → s.requests.Served s.IsOpen

/-- No feed is registered, or IB has none of the requests. -/
def NothingHeld (s : PnlTransport) : Prop :=
  s.registry = ∅ ∨ s.requests.live = ∅

/-- A session that comes up by itself finds every registered feed served, requests are
issued anew without a cancellation only where IB has none, and the socket of a session that
is up is replaced only while no feed is registered. -/
def ResumesServed (spec : IbConnectionSpec) (s : PnlTransport) : PnlLabel → Prop
  | .connection l =>
      (comesUp spec s.transport l = true → s.requests.Served s.IsOpen) ∧
        (completes spec s.transport true l = true → s.transport.socketUp = true → NothingHeld s)
  | .resubscribeAll false => s.transport.socketUp = true → NothingHeld s
  | .socketReplaced => SessionUp s.transport → s.registry = ∅
  | _ => True

theorem liveInv_init (spec : IbConnectionSpec) : LiveInv (.init spec) where
  tracked := .of_empty rfl
  closed _ := rfl
  served hup := by cases hup.1

theorem LiveInv.of_closed {s : PnlTransport} (hsocket : s.transport.socketUp = false)
    (hlive : s.requests.live = ∅) : LiveInv s where
  tracked := .of_empty hlive
  closed _ := hlive
  served hup := by
    have hopen := hup.1
    rw [hsocket] at hopen
    cases hopen

theorem LiveInv.same {s s' : PnlTransport} (h : LiveInv s) (hregistry : s'.registry = s.registry)
    (hrequests : s'.requests = s.requests) (htransport : s'.transport = s.transport) :
    LiveInv s' := by
  have hopen : s'.IsOpen = s.IsOpen := by
    funext key
    unfold PnlTransport.IsOpen
    rw [hregistry]
  refine ⟨?_, ?_, ?_⟩
  · rw [hopen, hrequests]
    exact h.tracked
  · rw [hrequests, htransport]
    exact h.closed
  · rw [hopen, hrequests, htransport]
    exact h.served

/-- A key that is opened gets a request of its own. -/
theorem LiveInv.acquirePnl {s : PnlTransport} (h : LiveInv s) (hsound : s.requests.Sound s.IsOpen)
    (key : PnlKey) : LiveInv (acquirePnl s key).1 := by
  unfold Ib.acquirePnl
  cases hkey : s.registry.get? key with
  | some fid => exact h.same (by simp) (by simp) (by simp)
  | none =>
      have hclosed : ¬ s.IsOpen key := by simp [PnlTransport.IsOpen, hkey]
      have hnone : ∀ id, s.requests.live.get? id ≠ some key :=
        fun id hid => hclosed (h.tracked id key hid).1
      have hopen : ∀ key', s.IsOpen key' →
          ((s.registry.set key s.next).get? key').isSome = true := by
        intro key' hkey'
        rw [Dict.get?_set]
        split_ifs
        · rfl
        · exact hkey'
      refine ⟨h.tracked.issue _ hnone (by simp [PnlTransport.IsOpen]) hopen, fun hsocket => ?_,
        fun hup key' hkey' => ?_⟩
      · have hlive := h.closed hsocket
        simp only [Requests.issue, show s.transport.socketUp = false from hsocket]
        exact hlive
      · have hreaches : s.transport.socketUp = true := hup.1
        dsimp only
        rw [hreaches]
        by_cases heq : key' = key
        · rw [heq]
          exact Requests.servedAt_issue _ key
        · refine Requests.ServedAt.issue hsound (h.served hup key' ?_) heq true
          unfold PnlTransport.IsOpen at hkey' ⊢
          rw [← Dict.get?_set_of_ne s.registry heq s.next]
          exact hkey'

/-- A key that is closed loses its request. -/
theorem LiveInv.closeKey {s s' : PnlTransport} (h : LiveInv s)
    (hsound : s.requests.Sound s.IsOpen) {key : PnlKey}
    (hregistry : s'.registry = s.registry.pop key) (hrequests : s'.requests = s.requests.cancel key)
    (htransport : s'.transport = s.transport) : LiveInv s' := by
  have hopen : ∀ key', s'.IsOpen key' ↔ key' ≠ key ∧ s.IsOpen key' := by
    intro key'
    unfold PnlTransport.IsOpen
    rw [hregistry, Dict.get?_pop]
    split_ifs with heq
    · simp [heq]
    · simp [heq]
  refine ⟨?_, fun hsocket => ?_, fun hup key' hkey' => ?_⟩
  · rw [hrequests]
    exact h.tracked.cancel fun key' hne hkey' => (hopen key').2 ⟨hne, hkey'⟩
  · rw [hrequests]
    rw [htransport] at hsocket
    exact Requests.live_cancel_of_empty (h.closed hsocket) key
  · rw [htransport] at hup
    rw [hrequests]
    obtain ⟨hne, hold⟩ := (hopen key').1 hkey'
    exact Requests.ServedAt.cancel hsound (h.served hup key' hold) hne

theorem LiveInv.release {s : PnlTransport} (h : LiveInv s) {users users' : Nat → Nat} {fid : Nat}
    (hfeeds : FeedInv s users) (hfid : users fid = users' fid + 1) :
    LiveInv (releasePnl s fid) := by
  have htransport := (OnlyFeed.releasePnl s fid).transport
  rcases hfeeds.release_cases hfid with
    ⟨key, -, -, hregistry, hrequests⟩ | ⟨-, hregistry, hrequests⟩
  · exact h.closeKey hfeeds.sound hregistry hrequests htransport
  · exact h.same hregistry hrequests htransport

/-! ## Steps -/

theorem LiveInv.subscribePnlFeed {s : PnlTransport} (h : LiveInv s)
    (hsound : s.requests.Sound s.IsOpen) (key : PnlKey) (callback : Nat) :
    LiveInv (subscribePnlFeed s key callback) := by
  have hacquired := h.acquirePnl hsound key
  unfold Ib.subscribePnlFeed
  exact hacquired.same (by simp) (by simp) (by simp)

theorem LiveInv.snapshotPnl {s : PnlTransport} (h : LiveInv s) (hinv : PnlInv s) (key : PnlKey) :
    LiveInv (snapshotPnl s key).1 := by
  obtain ⟨hregistry, hrequests, htransport⟩ := snapshotPnl_acquires hinv key
  exact (h.acquirePnl hinv.feeds.sound key).same hregistry hrequests htransport

theorem LiveInv.withAccount {s : PnlTransport} (h : LiveInv s) {f : String → PnlTransport}
    (hf : ∀ account, LiveInv (f account)) : LiveInv (withAccount s f) := by
  unfold Ib.withAccount
  split
  · exact h
  · exact hf _

/-- Issuing the requests anew serves every registered feed, and loses track of none if the
old requests are cancelled or gone. -/
theorem liveInv_resubscribeAllPnl {s : PnlTransport} {users : Nat → Nat} (hfeeds : FeedInv s users)
    (htracked : s.requests.Tracked s.IsOpen)
    (hclosed : s.transport.socketUp = false → s.requests.live = ∅) (cancelOld : Bool)
    (hnothing : cancelOld = false → s.transport.socketUp = true → NothingHeld s) :
    LiveInv (resubscribeAllPnl s cancelOld) := by
  have hkeys : ∀ key ∈ s.registry.keys, s.IsOpen key := fun key hkey => isOpen_of_mem_keys.1 hkey
  obtain ⟨feeds, -, heq⟩ := hfeeds.resubscribeAllPnl_eq cancelOld
  rw [heq]
  cases hsocket : s.transport.socketUp with
  | false => exact .of_closed hsocket (Requests.live_reissueAll_of_empty (hclosed hsocket) _ _)
  | true =>
      refine ⟨?_, fun hdown => ?_, fun _ key hkey => ?_⟩
      · cases cancelOld with
        | true => exact htracked.reissueAll true hkeys
        | false =>
            refine htracked.issueAll (fun id key hkey => ?_) true hkeys s.registry.nodup
            rcases hnothing rfl hsocket with hempty | hempty
            · rw [hempty] at hkey
              cases hkey
            · rw [hempty]
              simp
      · rw [show s.transport.socketUp = false from hdown] at hsocket
        cases hsocket
      · exact Requests.servedAt_reissueAll hfeeds.sound cancelOld hkeys
          (Or.inl (isOpen_of_mem_keys.2 hkey))

/-- A step that leaves the socket open keeps the feeds. -/
theorem afterConnection_of_open {spec : IbConnectionSpec} {s : PnlTransport} {t : Transport}
    {l : AttemptLabel} (hstep : attemptStep spec s.transport l = some t)
    (hsocket : t.socketUp = true) : afterConnection s t l = { s with transport := t } := by
  have hends : endsDisconnect s.transport l = false := by
    cases hends : endsDisconnect s.transport l with
    | false => rfl
    | true =>
        rw [session_endsDisconnect hends hstep] at hsocket
        cases hsocket
  simp [afterConnection, hends, hsocket]

theorem afterConnection_of_closed (s : PnlTransport) {t : Transport} (l : AttemptLabel)
    (hsocket : t.socketUp = false) : (afterConnection s t l).requests.live = ∅ := by
  simp [afterConnection, hsocket, Requests.lose]

theorem LiveInv.connectionStep {spec : IbConnectionSpec} {s s' : PnlTransport}
    {l : AttemptLabel} (h : LiveInv s) (hinv : PnlInv s)
    (hresumes : ResumesServed spec s (.connection l))
    (hstep : connectionStep spec s l = some s') : LiveInv s' := by
  obtain ⟨t, ht, rfl⟩ := connectionStep_eq hstep
  have hafter := hinv.afterConnection t l
  cases hsocket : t.socketUp with
  | false =>
      have hlive := afterConnection_of_closed s l hsocket
      have hreissued : ∀ cancelOld,
          LiveInv (Ib.resubscribeAllPnl (afterConnection s t l) cancelOld) := by
        intro cancelOld
        refine liveInv_resubscribeAllPnl hafter.feeds (.of_empty hlive) (fun _ => hlive) cancelOld
          fun _ hopen => ?_
        rw [show t.socketUp = true from hopen] at hsocket
        cases hsocket
      split_ifs
      · exact hreissued false
      · exact hreissued true
      · exact .of_closed hsocket hlive
  | true =>
      rw [afterConnection_of_open ht hsocket] at hafter ⊢
      have hopen : t.socketUp = false → s.requests.live = ∅ := by
        intro hdown
        rw [hdown] at hsocket
        cases hsocket
      split_ifs with hcompletes hloses
      · refine liveInv_resubscribeAllPnl hafter.feeds h.tracked hopen false fun _ _ => ?_
        exact hresumes.2 hcompletes ((session_completes hcompletes ht).1.symm.trans hsocket)
      · exact liveInv_resubscribeAllPnl hafter.feeds h.tracked hopen true nofun
      · refine ⟨h.tracked, hopen, fun hup => ?_⟩
        rcases session_step ht hup with hbefore | hcomes | hcompletes' | hloses'
        · exact h.served hbefore
        · exact hresumes.1 hcomes
        · exact absurd hcompletes' hcompletes
        · exact absurd hloses' hloses

theorem LiveInv.leave {s s' : PnlTransport} (h : LiveInv s) (hinv : PnlInv s) {fid : Nat}
    (hleaving : Leaving s s' fid) : LiveInv (releasePnl s' fid) :=
  (h.same hleaving.registry hleaving.requests hleaving.transport).release (hleaving.feedInv hinv)
    hleaving.users_self

theorem LiveInv.closePnlHandle {s : PnlTransport} (h : LiveInv s) (hinv : PnlInv s) (id : Nat) :
    LiveInv (closePnlHandle s id) := by
  rcases closePnlHandle_cases s id with ⟨handle, s', -, -, hleaving, heq⟩ | ⟨-, heq⟩
  · rw [heq]
    exact h.leave hinv hleaving
  · rw [heq]
    exact h

theorem LiveInv.handlePnl {s : PnlTransport} (h : LiveInv s) (fid : Nat) (report : PnlReport) :
    LiveInv (handlePnl s fid report).1 := by
  unfold Ib.handlePnl
  split
  · exact h
  · split_ifs
    · exact h.same rfl rfl rfl
    · exact h

/-- Steps that resume with the feeds served keep the requests behind the feeds. -/
theorem LiveInv.step {spec : IbConnectionSpec} {s s' : PnlTransport} {l : PnlLabel}
    (h : LiveInv s) (hinv : PnlInv s) (hresumes : ResumesServed spec s l)
    (hstep : pnlStep spec s l = some s') : LiveInv s' := by
  cases l with
  | connection l => exact h.connectionStep hinv hresumes hstep
  | subscribePnl callback =>
      cases hstep
      exact h.withAccount fun account => h.subscribePnlFeed hinv.feeds.sound _ _
  | subscribePositionPnl conId callback =>
      cases hstep
      exact h.withAccount fun account => h.subscribePnlFeed hinv.feeds.sound _ _
  | close id =>
      cases hstep
      exact h.closePnlHandle hinv id
  | getPnl =>
      cases hstep
      exact h.withAccount fun account => h.snapshotPnl hinv _
  | getPositionPnl conId =>
      cases hstep
      exact h.withAccount fun account => h.snapshotPnl hinv _
  | snapshotEnds id wait =>
      obtain ⟨snapshot, hid, rfl⟩ := snapshotEnds_eq hstep
      obtain ⟨s', hleaving, heq⟩ := leaveSnapshotPnl_leaving hid
      rw [heq]
      exact h.leave hinv hleaving
  | resubscribeAll cancelOld =>
      cases hstep
      refine liveInv_resubscribeAllPnl hinv.feeds h.tracked h.closed cancelOld ?_
      rintro rfl hopen
      exact hresumes hopen
  | reports fid report =>
      cases hstep
      exact h.handlePnl fid report
  | socketReplaced =>
      rw [socketReplaced_eq hstep]
      refine ⟨.of_empty rfl, fun _ => rfl, fun hup key hkey => ?_⟩
      have hempty : s.registry = ∅ := hresumes hup
      simp [PnlTransport.IsOpen, hempty] at hkey

/-! ## Runs -/

/-- Every registered feed counts its users and has some; no request was cancelled twice;
every live request is the one that a cancellation of its registered feed reaches; and while
the session is up every registered key has one live request, any other none. -/
structure PnlShared (s : PnlTransport) : Prop where
  counted : ∀ key fid, s.registry.get? key = some fid → ∃ feed, s.feeds.get? fid = some feed ∧
    feed.key = key ∧ 0 < feed.refs ∧ feed.refs = pnlUsers s fid
  once : s.requests.cancelled.Nodup
  reached : s.requests.Tracked s.IsOpen
  aligned : SessionUp s.transport → ∀ key,
    s.requests.liveCount key = if s.IsOpen key then 1 else 0

theorem PnlInv.pnlShared {s : PnlTransport} (h : PnlInv s) (hlive : LiveInv s) : PnlShared s where
  counted key fid hkey := by
    obtain ⟨feed, hfid, hfeed⟩ := h.feeds.keyed key fid hkey
    have hrefs := h.feeds.refs fid feed hfid
    have hpos := h.used key fid hkey
    exact ⟨feed, hfid, hfeed, by omega, hrefs⟩
  once := h.feeds.sound.nodup
  reached := hlive.tracked
  aligned hup key := Requests.liveCount_eq hlive.tracked (hlive.served hup) key

/-- An open key that IB has one request for is served. -/
theorem PnlShared.served {s : PnlTransport} (h : PnlShared s) (hup : SessionUp s.transport) :
    s.requests.Served s.IsOpen := by
  intro key hkey
  refine h.reached.servedAt_of_liveCount ?_
  rw [h.aligned hup key, if_pos hkey]
  exact Nat.one_ne_zero

/-- Requests that were issued anew without a cancellation, and are all reached, found none
of the old ones. -/
theorem nothingHeld_of_tracked {s : PnlTransport} {users : Nat → Nat} (hfeeds : FeedInv s users)
    (htracked : s.requests.Tracked s.IsOpen)
    (h : (resubscribeAllPnl s false).requests.Tracked (resubscribeAllPnl s false).IsOpen) :
    NothingHeld s := by
  obtain ⟨feeds, -, heq⟩ := hfeeds.resubscribeAllPnl_eq false
  rw [heq] at h
  by_contra hheld
  unfold NothingHeld at hheld
  rw [not_or] at hheld
  obtain ⟨id, key, hid⟩ := Dict.exists_get?_of_ne_empty hheld.2
  exact h.not_live_of_issueAll hfeeds.sound (isOpen_of_mem_keys.2 (htracked id key hid).1) id hid

/-- A step that keeps the requests behind the feeds found the feeds served, or IB without
requests. -/
theorem resumesServed_of_pnlShared {spec : IbConnectionSpec} {s s' : PnlTransport} {l : PnlLabel}
    (hinv : PnlInv s) (hlive : LiveInv s) (hstep : pnlStep spec s l = some s')
    (h : PnlShared s') : ResumesServed spec s l := by
  cases l with
  | connection l =>
      obtain ⟨t, ht, rfl⟩ := connectionStep_eq hstep
      have hafter := hinv.afterConnection t l
      constructor
      · intro hcomes
        have hup := sessionUp_of_comesUp hcomes ht
        obtain ⟨hcompletes, hloses⟩ := comesUp_only hcomes
        rw [hcompletes, hloses, afterConnection_of_open ht hup.1] at h
        exact h.served hup
      · intro hcompletes hsocket
        have hopen := (session_completes hcompletes ht).1.trans hsocket
        rw [afterConnection_of_open ht hopen] at hafter h
        rw [if_pos hcompletes] at h
        have hnothing : NothingHeld { s with transport := t } :=
          nothingHeld_of_tracked hafter.feeds hlive.tracked h.reached
        exact hnothing
  | resubscribeAll cancelOld =>
      cases hstep
      cases cancelOld with
      | true => trivial
      | false => exact fun _ => nothingHeld_of_tracked hinv.feeds hlive.tracked h.reached
  | socketReplaced =>
      rw [socketReplaced_eq hstep] at h
      intro hup
      by_contra hne
      obtain ⟨key, fid, hkey⟩ := Dict.exists_get?_of_ne_empty hne
      have hopen : s.IsOpen key := by simp [PnlTransport.IsOpen, hkey]
      obtain ⟨id, -, hlost⟩ := h.served hup key hopen
      cases hlost
  | _ => trivial

/-- In every run, steps cancel what they are to cancel and late closes change nothing; and
the requests follow the feeds in every state exactly when every session that comes up by
itself finds the registered feeds served, requests are issued anew without a cancellation
only where IB has none, and no socket is replaced under a registered feed. -/
theorem pnlShared_iff (spec : IbConnectionSpec) (ls : List PnlLabel) :
    ((pnlMachine spec).AllStates PnlShared (.init spec) ls ∧
        (pnlMachine spec).AllSteps (fun s l => CancelsExactly spec s l ∧ ClosesLate spec s l)
          (.init spec) ls) ↔
      (pnlMachine spec).AllSteps (ResumesServed spec) (.init spec) ls := by
  have hsteps : (pnlMachine spec).AllSteps
      (fun s l => CancelsExactly spec s l ∧ ClosesLate spec s l) (.init spec) ls :=
    Machine.allSteps_of_invariant _ (fun _ _ _ hinv hstep => hinv.step hstep)
      (fun s l hinv => ⟨pnlStep_cancelled hinv l, closesLate spec s l⟩) (pnlInv_init spec) ls
  have hkept : ∀ s l s', (PnlInv s ∧ LiveInv s) → ResumesServed spec s l →
      (pnlMachine spec).step s l = some s' → PnlInv s' ∧ LiveInv s' :=
    fun _ _ _ hinv hresumes hstep =>
      ⟨hinv.1.step hstep, hinv.2.step hinv.1 hresumes hstep⟩
  have hbroken : ∀ s l s', (PnlInv s ∧ LiveInv s) → (pnlMachine spec).step s l = some s' →
      PnlShared s' → ResumesServed spec s l :=
    fun _ _ _ hinv hstep h => resumesServed_of_pnlShared hinv.1 hinv.2 hstep h
  rw [and_iff_left hsteps]
  exact Machine.allStates_iff_allSteps _ hkept (fun s hinv => hinv.1.pnlShared hinv.2) hbroken
    ⟨pnlInv_init spec, liveInv_init spec⟩

/-- A feed is subscribed, the socket drops, the supervisor gives up on the accounts it
finds, and a new `connect()` succeeds: the feed is registered and the session is up, but IB
has no request, and a second subscriber makes none. -/
theorem connect_leaves_feed_unserved :
    ∃ s s', (pnlMachine .default).run (.init .default)
        [.connection (.base .connect), .connection (.base (.opened 0 ["DU1"] none)),
          .connection (.base (.reconciled 0)), .connection (.base (.synced 0)),
          .subscribePnl 7, .connection (.base .socketDrops), .connection (.base (.wakes 1)),
          .connection (.base (.opened 1 ["DU1", "DU2"] none)), .connection (.base .connect),
          .connection (.base (.opened 2 ["DU1"] none)), .connection (.base (.reconciled 2)),
          .connection (.base (.synced 2))] = some s ∧
      SessionUp s.transport ∧ s.IsOpen (.pnl "DU1" "") ∧
      s.requests.liveCount (.pnl "DU1" "") = 0 ∧
      pnlStep .default s (.subscribePnl 8) = some s' ∧
      s'.requests.liveCount (.pnl "DU1" "") = 0 ∧ ¬ PnlShared s := by
  refine ⟨_, _, rfl, ⟨rfl, rfl⟩, rfl, rfl, rfl, rfl, fun h => ?_⟩
  have hone := h.aligned ⟨rfl, rfl⟩ (.pnl "DU1" "")
  cases hone

end Ib
end MarketConnector
