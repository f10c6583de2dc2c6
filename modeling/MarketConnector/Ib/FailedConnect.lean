import MarketConnector.Ib.FinalDisconnect

/-!
# Ib - What a failed `connect()` leaves behind

A failed `connect()` is to leave no handler attached, the router down, no state
published and the socket closed.  It cleans up after the steps that follow the handler
attachment only: it neither closes the socket it has opened, nor takes down what an
earlier session left.

Main results:

- Definition `watchedMachine`: the transport with every failure point of an attempt.
- Theorem `spoke_eq_heard`: a call publishes a state exactly when it closes the socket
  while the drop handler listens.
- Theorem `failsClean_iff`: the runs whose failed calls leave nothing behind.
- Theorem `failed_connect_leaves_session`: a session that the supervisor gave up, and a
  call that is cancelled after it opened the socket.
-/

namespace MarketConnector
namespace Ib

open Foundations

/-! ## Failure points of an attempt -/

/-- The steps of the transport, and the failures of the plain calls of `_connect_once`
before the handlers are attached. -/
inductive AttemptLabel where
  | base (l : Label)
  /-- the user calls `connect()`, and `setConnectOptions` raises -/
  | connectRaises (exc : ConnectError)
  /-- the sleep between attempts ends, and `setConnectOptions` raises -/
  | wakesRaises (id : Nat) (exc : ConnectError)
  /-- `connectAsync` returns, and reading the server version or the accounts raises -/
  | readsRaise (id : Nat) (exc : ConnectError)

/-- One step of the transport, with the failures. -/
def attemptStep (spec : IbConnectionSpec) (s : Transport) : AttemptLabel → Option Transport
  | .base l => step spec s l
  | .connectRaises exc =>
      (step spec s .connect).map fun s' => attemptRaised spec s' s.next (.connect 1) exc
  | .wakesRaises id exc =>
      (running s id .sleeping).map fun role => attemptRaised spec (wake s id role) id role exc
  | .readsRaise id exc =>
      (running s id .opening).map fun role =>
        attemptRaised spec { s with socketUp := true } id role exc

/-- The task, if it is a `connect()`. -/
def callAt (s : Transport) (id : Nat) : Option Nat :=
  match s.tasks.get? id with
  | some ⟨.connect _, _⟩ => some id
  | _ => none

/-- The `connect()` whose code a step runs. -/
def callOf (s : Transport) : AttemptLabel → Option Nat
  | .base .connect | .connectRaises _ => some s.next
  | .base (.wakes id) | .base (.opened id _ _) | .base (.openFails id _ _ _)
  | .base (.reconciled id) | .base (.synced id) | .base (.cancelled id _)
  | .wakesRaises id _ | .readsRaise id _ => callAt s id
  | .base .disconnect | .base (.disconnectResumes _) | .base .socketDrops
  | .base (.errorCode _) => none

/-- The last awaits of an attempt: a call that ends there has returned. -/
def returns : AttemptLabel → Bool
  | .base (.reconciled _) | .base (.synced _) => true
  | _ => false

/-- The last step of a `connect()` or, with `supervised`, of a supervisor that succeeds. -/
def completes (spec : IbConnectionSpec) (s : Transport) (supervised : Bool) : AttemptLabel → Bool
  | .base (.reconciled id) =>
      (spec.readonly || !spec.fetchAllOpenOrders) &&
        (running s id .reconciling).any isSupervisor
  | .base (.synced id) => (running s id .syncing).any isSupervisor
  | _ => false
where
  isSupervisor : Role → Bool
    | .connect _ => !supervised
    | .supervise _ => supervised

/-- The step closes the socket while the drop handler listens. -/
def hearsClose (spec : IbConnectionSpec) (s : Transport) : AttemptLabel → Bool
  | .base (.opened _ accounts _) =>
      (resolveAccount spec.accountId accounts).isNone && handles s
  | .base (.openFails _ _ _ fires) => fires && handles s
  | .base (.cancelled id fires) =>
      match s.tasks.get? id with
      | some ⟨_, .opening⟩ => fires && handles s
      | _ => false
  | _ => false

/-! ## What the calls have published -/

/-- The transport, the calls that published a state before they returned, and the calls
that closed the socket while the drop handler listened. -/
structure Watched where
  transport : Transport
  spoke : List Nat
  heard : List Nat

def noteCall (call : Option Nat) (happened : Bool) (calls : List Nat) : List Nat :=
  match call with
  | some id => if happened then id :: calls else calls
  | none => calls

def watchedStep (spec : IbConnectionSpec) (s : Watched) (l : AttemptLabel) : Option Watched :=
  (attemptStep spec s.transport l).map fun t =>
    { transport := t
      spoke := noteCall (callOf s.transport l)
        (t.published != s.transport.published && !returns l) s.spoke
      heard := noteCall (callOf s.transport l) (hearsClose spec s.transport l) s.heard }

def watchedMachine (spec : IbConnectionSpec) : Machine Watched AttemptLabel where
  init := ⟨.init spec, [], []⟩
  step := watchedStep spec

/-! ## The property -/

/-- The call has left nothing behind. -/
structure LeftNothing (s : Watched) (id : Nat) : Prop where
  down : Down s.transport
  silent : id ∉ s.spoke

/-- If a call raises in this step, it leaves nothing behind. -/
def FailsClean (spec : IbConnectionSpec) (s : Watched) (l : AttemptLabel) : Prop :=
  ∀ id s', callOf s.transport l = some id → returns l = false → watchedStep spec s l = some s' →
    s'.transport.tasks.get? id = none → LeftNothing s' id

/-- No handler is attached and the router is down. -/
structure Untouched (s : Transport) : Prop where
  noHandler : s.handlersAttached = false
  routerDown : s.routerUp = false

/-- What a cancellation must find to leave nothing behind. -/
def CancelsClean (s : Transport) : Phase → Prop
  | .sleeping => Down s
  | .opening => Untouched s
  | .reconciling => s.routerUp = false ∧ s.socketUp = false
  | .syncing => s.routerUp = false ∧ s.socketUp = false

/-- What a step must find for a call that raises in it to leave nothing behind. -/
def FindsClean (spec : IbConnectionSpec) (s : Watched) : AttemptLabel → Prop
  | .connectRaises exc =>
      givesUp spec (.connect 1) exc = true → Down s.transport ∧ s.transport.next ∉ s.heard
  | .wakesRaises id exc => ∀ attempt,
      running s.transport id .sleeping = some (.connect attempt) →
        givesUp spec (.connect attempt) exc = true → Down s.transport ∧ id ∉ s.heard
  | .readsRaise id exc => ∀ attempt,
      running s.transport id .opening = some (.connect attempt) →
        givesUp spec (.connect attempt) exc = false
  | .base (.opened id accounts dataTypeRaises) => ∀ attempt,
      running s.transport id .opening = some (.connect attempt) →
        match resolveAccount spec.accountId accounts with
        | none => Untouched s.transport ∧ id ∉ s.heard
        | some _ => ∀ exc ∈ dataTypeRaises, givesUp spec (.connect attempt) exc = false
  | .base (.openFails id exc apiMessages _) => ∀ attempt,
      running s.transport id .opening = some (.connect attempt) →
        givesUp spec (.connect attempt) (openSocketError exc apiMessages) = true →
          Untouched s.transport ∧ id ∉ s.heard
  | .base (.cancelled id _) => ∀ attempt phase,
      s.transport.tasks.get? id = some ⟨.connect attempt, phase⟩ →
        CancelsClean s.transport phase ∧ id ∉ s.heard
  | .base .connect | .base .disconnect | .base (.disconnectResumes _) | .base (.wakes _)
  | .base (.reconciled _) | .base (.synced _) | .base .socketDrops
  | .base (.errorCode _) => True

/-! ## Losing the socket -/

theorem closeSocket_handlersAttached (s : Transport) (fires : Bool) :
    (closeSocket s fires).handlersAttached = s.handlersAttached := by
  cases fires with
  | false => rfl
  | true =>
      simp only [closeSocket, fireDisconnected, onDisconnected]
      split_ifs <;> rfl

theorem closeSocket_socketUp (s : Transport) (fires : Bool) :
    (closeSocket s fires).socketUp = false := by
  cases fires with
  | false => rfl
  | true =>
      simp only [closeSocket, fireDisconnected, onDisconnected]
      split_ifs <;> rfl

theorem fireDisconnected_published (s : Transport) :
    (fireDisconnected s).published =
      s.published ++ if handles s then [.disconnected] else [] := by
  cases hheard : handles s with
  | false => simp [fireDisconnected_of_not_handles hheard]
  | true =>
      simp only [handles, Bool.and_eq_true, Bool.not_eq_true'] at hheard
      obtain ⟨⟨⟨hattached, hclosing⟩, hconnecting⟩, halive⟩ := hheard
      simp [fireDisconnected, onDisconnected, hattached, hclosing, hconnecting, halive,
        publishState, setConnected]

theorem closeSocket_published (s : Transport) (fires : Bool) :
    (closeSocket s fires).published =
      s.published ++ if fires && handles s then [.disconnected] else [] := by
  cases fires with
  | false => simp [closeSocket]
  | true => exact fireDisconnected_published { s with socketUp := false }

/-- A closed socket leaves nothing behind exactly when there was nothing before. -/
theorem down_closeSocket_iff (s : Transport) (fires : Bool) :
    Down (closeSocket s fires) ↔ Untouched s := by
  constructor
  · intro h
    have hattached : s.handlersAttached = false :=
      (closeSocket_handlersAttached s fires).symm.trans h.noHandler
    have hunheard : (fires && handles s) = false := by
      simp [handles, hattached]
    have hrouter := h.routerDown
    rw [closeSocket_of_unheard hunheard] at hrouter
    exact ⟨hattached, hrouter⟩
  · intro h
    have hunheard : (fires && handles s) = false := by
      simp [handles, h.noHandler]
    rw [closeSocket_of_unheard hunheard]
    exact ⟨h.noHandler, h.routerDown, rfl⟩

/-! ## The end of an attempt -/

theorem attemptRaised_published (spec : IbConnectionSpec) (s : Transport) (id attempt : Nat)
    (exc : ConnectError) :
    (attemptRaised spec s id (.connect attempt) exc).published = s.published := by
  unfold attemptRaised
  split_ifs <;> rfl

theorem attemptRaised_handlersAttached (spec : IbConnectionSpec) (s : Transport)
    (id attempt : Nat) (exc : ConnectError) :
    (attemptRaised spec s id (.connect attempt) exc).handlersAttached =
      s.handlersAttached := by
  unfold attemptRaised
  split_ifs <;> rfl

/-- A call ends with an attempt that raised when it gives up, and keeps what the attempt
left. -/
theorem raised_down_iff (spec : IbConnectionSpec) (s : Transport) (id attempt : Nat)
    (exc : ConnectError) (unheard : Prop) :
    ((attemptRaised spec s id (.connect attempt) exc).tasks.get? id = none →
        Down (attemptRaised spec s id (.connect attempt) exc) ∧ unheard) ↔
      (givesUp spec (.connect attempt) exc = true → Down s ∧ unheard) := by
  unfold attemptRaised
  cases hgives : givesUp spec (.connect attempt) exc with
  | true =>
      have hdown : Down (endTask s id (.connect attempt)) ↔ Down s :=
        ⟨fun h => ⟨h.noHandler, h.routerDown, h.noSocket⟩,
          fun h => ⟨h.noHandler, h.routerDown, h.noSocket⟩⟩
      have hended : (endTask s id (.connect attempt)).tasks.get? id = none :=
        Dict.get?_pop_self _ _
      simp [hdown, hended]
  | false => simp [setPhase]

/-! ## The steps of a call -/

theorem callAt_eq_some {s : Transport} {id id' : Nat} :
    callAt s id = some id' ↔
      id' = id ∧ ∃ attempt phase, s.tasks.get? id = some ⟨.connect attempt, phase⟩ := by
  unfold callAt
  split
  · rename_i attempt phase hid
    simp [hid, eq_comm]
  · rename_i hno
    simpa using fun _ => hno

/-- The role of a task that a `connect()` runs. -/
theorem callAt_running {s : Transport} {id id' : Nat} {phase : Phase} {role : Role}
    (hcall : callAt s id = some id') (hrole : running s id phase = some role) :
    id' = id ∧ ∃ attempt, role = .connect attempt := by
  obtain ⟨rfl, attempt, phase', hid⟩ := callAt_eq_some.1 hcall
  have htask := running_eq_some hrole
  rw [hid] at htask
  cases htask
  exact ⟨rfl, attempt, rfl⟩

/-- The role of a task that no `connect()` runs. -/
theorem running_ne_connect {s : Transport} {id : Nat} {phase : Phase} {attempt : Nat}
    (hcall : callAt s id = none) : running s id phase ≠ some (.connect attempt) := by
  intro hrole
  have hsome : callAt s id = some id :=
    callAt_eq_some.2 ⟨rfl, attempt, phase, running_eq_some hrole⟩
  rw [hcall] at hsome
  cases hsome

/-- What a step of a call publishes before the call returns, and the handlers it leaves
when it publishes. -/
theorem callStep_published {spec : IbConnectionSpec} {s t : Transport} {l : AttemptLabel}
    {id : Nat} (hcall : callOf s l = some id) (hreturns : returns l = false)
    (hstep : attemptStep spec s l = some t) :
    t.published = s.published ++ (if hearsClose spec s l then [.disconnected] else []) ∧
      (hearsClose spec s l = true → t.handlersAttached = true) := by
  have hhandles : ∀ {s : Transport} {fires : Bool}, (fires && handles s) = true →
      s.handlersAttached = true := by
    intro s fires h
    simp only [handles, Bool.and_eq_true] at h
    exact h.2.1.1.1
  cases l with
  | connectRaises exc =>
      cases hstep
      simp [hearsClose, attemptRaised_published]
  | wakesRaises id' exc =>
      obtain ⟨role, hrole, rfl⟩ := Option.map_eq_some_iff.1 hstep
      obtain ⟨rfl, attempt, rfl⟩ := callAt_running hcall hrole
      simp [hearsClose, attemptRaised_published, wake, setPhase]
  | readsRaise id' exc =>
      obtain ⟨role, hrole, rfl⟩ := Option.map_eq_some_iff.1 hstep
      obtain ⟨rfl, attempt, rfl⟩ := callAt_running hcall hrole
      simp [hearsClose, attemptRaised_published]
  | base l =>
      cases transportStep_move hstep with
      | connect => simp [hearsClose]
      | wakes hrole =>
          obtain ⟨rfl, attempt, rfl⟩ := callAt_running hcall hrole
          simp [hearsClose, wake, setPhase]
      | accountRefused hrole haccount =>
          obtain ⟨rfl, attempt, rfl⟩ := callAt_running hcall hrole
          have hup : handles { s with socketUp := true } = handles s := rfl
          simp only [attemptRaised_published, closeSocket_published, hearsClose, haccount, hup,
            Option.isNone_none, attemptRaised_handlersAttached, closeSocket_handlersAttached]
          exact ⟨trivial, hhandles⟩
      | dataTypeFails hrole haccount =>
          obtain ⟨rfl, attempt, rfl⟩ := callAt_running hcall hrole
          simp [hearsClose, haccount, attemptRaised_published, detachHandlers, attachHandlers]
      | opened hrole haccount =>
          simp [hearsClose, haccount, setPhase, attachHandlers]
      | openFails hrole =>
          obtain ⟨rfl, attempt, rfl⟩ := callAt_running hcall hrole
          simp only [attemptRaised_published, closeSocket_published, hearsClose,
            attemptRaised_handlersAttached, closeSocket_handlersAttached]
          exact ⟨rfl, hhandles⟩
      | @cancelled id' role phase fires hid hrole =>
          obtain ⟨rfl, attempt, phase', hid'⟩ := callAt_eq_some.1 hcall
          cases hid.symm.trans hid'
          cases phase with
          | opening =>
              simp only [hearsClose, hid, endTask, cancelAttempt, closeSocket_published,
                closeSocket_handlersAttached]
              exact ⟨trivial, hhandles⟩
          | sleeping => simp [hearsClose, hid, endTask, cancelAttempt]
          | reconciling => simp [hearsClose, hid, endTask, cancelAttempt, detachHandlers]
          | syncing => simp [hearsClose, hid, endTask, cancelAttempt, detachHandlers]
      | skipsSync hrole hskip => cases hreturns
      | reconciled hrole hskip => cases hreturns
      | synced hrole => cases hreturns
      | disconnect => cases hcall
      | disconnectResumes hcall' hdone => cases hcall
      | socketDrops hup => cases hcall
      | errorCode hattached => cases hcall
      | codeUnheard hdetached => cases hcall

/-- What a call published before it returned is what it heard of its own sockets. -/
theorem watchedStep_spoke_eq_heard {spec : IbConnectionSpec} {s s' : Watched}
    {l : AttemptLabel} (hsame : s.spoke = s.heard) (hstep : watchedStep spec s l = some s') :
    s'.spoke = s'.heard := by
  obtain ⟨t, ht, rfl⟩ := Option.map_eq_some_iff.1 hstep
  cases hcall : callOf s.transport l with
  | none => simpa only [noteCall]
  | some id =>
      have hflag : (t.published != s.transport.published && !returns l) =
          hearsClose spec s.transport l := by
        cases hreturns : returns l with
        | true =>
            have hunheard : hearsClose spec s.transport l = false := by
              revert hreturns
              unfold returns
              split <;> simp [hearsClose]
            rw [hunheard]
            exact Bool.and_false _
        | false =>
            rw [(callStep_published hcall hreturns ht).1]
            cases hearsClose spec s.transport l <;> simp
      simp only [noteCall, hflag, hsame]

/-- A call publishes a state before it returns exactly when it closes the socket while the
drop handler listens. -/
theorem spoke_eq_heard (spec : IbConnectionSpec) {s : Watched}
    (hs : (watchedMachine spec).Reachable s) : s.spoke = s.heard := by
  have hkept : ∀ s l s', s.spoke = s.heard → (watchedMachine spec).step s l = some s' →
      s'.spoke = s'.heard := fun _ _ _ => watchedStep_spoke_eq_heard
  refine (watchedMachine spec).invariant_reachable ?_ hkept hs
  rfl

/-- What a step of a call must leave. -/
theorem failsClean_of_call {spec : IbConnectionSpec} {s : Watched} {t : Transport}
    {l : AttemptLabel} {id : Nat} (hsame : s.spoke = s.heard)
    (hcall : callOf s.transport l = some id) (hreturns : returns l = false)
    (hstep : attemptStep spec s.transport l = some t) :
    FailsClean spec s l ↔ (t.tasks.get? id = none → Down t ∧ id ∉ s.heard) := by
  obtain ⟨hpublished, hattached⟩ := callStep_published hcall hreturns hstep
  have hwatched : watchedStep spec s l = some
      { transport := t
        spoke := if hearsClose spec s.transport l then id :: s.heard else s.heard
        heard := if hearsClose spec s.transport l then id :: s.heard else s.heard } := by
    have hflag : (t.published != s.transport.published && !returns l) =
        hearsClose spec s.transport l := by
      rw [hpublished, hreturns]
      cases hearsClose spec s.transport l <;> simp
    simp only [watchedStep, hstep, Option.map_some, hcall, noteCall, hflag, hsame]
  constructor
  · intro hclean hended
    have hleft := hclean id _ hcall hreturns hwatched hended
    refine ⟨hleft.down, fun hheard => hleft.silent ?_⟩
    split_ifs
    · exact List.mem_cons_of_mem _ hheard
    · exact hheard
  · intro hclean id' s' hcall' _ hstep' hended
    cases hcall.symm.trans hcall'
    cases hwatched.symm.trans hstep'
    obtain ⟨hdown, hunheard⟩ := hclean hended
    have hquiet : hearsClose spec s.transport l = false := by
      by_contra hheard
      have hstays := hattached (by simpa using hheard)
      rw [hdown.noHandler] at hstays
      cases hstays
    simp only [hquiet]
    exact ⟨hdown, hunheard⟩

/-- What a step of a call whose attempt raised must leave. -/
theorem failsClean_of_raised {spec : IbConnectionSpec} {s : Watched} {t : Transport}
    {l : AttemptLabel} {id attempt : Nat} {exc : ConnectError} (hsame : s.spoke = s.heard)
    (hcall : callOf s.transport l = some id) (hreturns : returns l = false)
    (hstep : attemptStep spec s.transport l =
      some (attemptRaised spec t id (.connect attempt) exc)) :
    FailsClean spec s l ↔
      (givesUp spec (.connect attempt) exc = true → Down t ∧ id ∉ s.heard) := by
  rw [failsClean_of_call hsame hcall hreturns hstep, raised_down_iff]

/-- A step of a task that is no `connect()`, or in which the call returns. -/
theorem failsClean_of_noCall {spec : IbConnectionSpec} {s : Watched} {l : AttemptLabel}
    (h : callOf s.transport l = none ∨ returns l = true) : FailsClean spec s l := by
  intro id s' hcall hreturns
  rcases h with hno | hyes
  · cases hno.symm.trans hcall
  · cases hyes.symm.trans hreturns

/-- A step that ends no call. -/
theorem failsClean_of_alive {spec : IbConnectionSpec} {s : Watched} {t : Transport}
    {l : AttemptLabel} {id : Nat} (hcall : callOf s.transport l = some id)
    (hstep : attemptStep spec s.transport l = some t) (halive : t.tasks.get? id ≠ none) :
    FailsClean spec s l := by
  intro id' s' hcall' _ hstep' hended
  cases hcall.symm.trans hcall'
  obtain ⟨t', ht', rfl⟩ := Option.map_eq_some_iff.1 hstep'
  cases hstep.symm.trans ht'
  exact absurd hended halive

/-- A session left open is not down. -/
theorem not_down_of_socketUp {s : Transport} (h : s.socketUp = true) : ¬ Down s := by
  intro hdown
  cases h.symm.trans hdown.noSocket

theorem down_congr {s t : Transport} (hhandlers : t.handlersAttached = s.handlersAttached)
    (hrouter : t.routerUp = s.routerUp) (hsocket : t.socketUp = s.socketUp) :
    Down t ↔ Down s :=
  ⟨fun h => ⟨hhandlers ▸ h.noHandler, hrouter ▸ h.routerDown, hsocket ▸ h.noSocket⟩,
    fun h => ⟨hhandlers ▸ h.noHandler, hrouter ▸ h.routerDown, hsocket ▸ h.noSocket⟩⟩

/-- A cancelled attempt leaves nothing behind exactly when it found what it needs. -/
theorem down_cancelAttempt_iff (s : Transport) (fires : Bool) (phase : Phase) :
    Down (cancelAttempt s fires phase) ↔ CancelsClean s phase := by
  have hdetached : Down (detachHandlers s) ↔ s.routerUp = false ∧ s.socketUp = false :=
    ⟨fun h => ⟨h.routerDown, h.noSocket⟩, fun h => ⟨rfl, h.1, h.2⟩⟩
  cases phase with
  | sleeping => exact Iff.rfl
  | opening => exact down_closeSocket_iff s fires
  | reconciling => exact hdetached
  | syncing => exact hdetached

/-- Only a `connect()` needs to find something. -/
theorem findsClean_of_noCall {spec : IbConnectionSpec} {s : Watched} {l : AttemptLabel}
    (hno : callOf s.transport l = none) : FindsClean spec s l := by
  cases l with
  | connectRaises exc => cases hno
  | wakesRaises id exc => exact fun attempt hrole => absurd hrole (running_ne_connect hno)
  | readsRaise id exc => exact fun attempt hrole => absurd hrole (running_ne_connect hno)
  | base l =>
      cases l with
      | opened id accounts dataTypeRaises =>
          exact fun attempt hrole => absurd hrole (running_ne_connect hno)
      | openFails id exc apiMessages fires =>
          exact fun attempt hrole => absurd hrole (running_ne_connect hno)
      | cancelled id fires =>
          intro attempt phase hid
          have hsome : callAt s.transport id = some id :=
            callAt_eq_some.2 ⟨rfl, attempt, phase, hid⟩
          cases hsome.symm.trans hno
      | _ => trivial

/-- A step leaves nothing behind exactly when it finds what it needs. -/
theorem failsClean_iff_findsClean {spec : IbConnectionSpec} {s s' : Watched}
    {l : AttemptLabel} (hsame : s.spoke = s.heard) (hstep : watchedStep spec s l = some s') :
    FailsClean spec s l ↔ FindsClean spec s l := by
  cases hcall : callOf s.transport l with
  | none => exact iff_of_true (failsClean_of_noCall (Or.inl hcall)) (findsClean_of_noCall hcall)
  | some call =>
      have hreturned : returns l = true → FindsClean spec s l →
          (FailsClean spec s l ↔ FindsClean spec s l) :=
        fun hreturns hfinds => iff_of_true (failsClean_of_noCall (Or.inr hreturns)) hfinds
      obtain ⟨t, ht, -⟩ := Option.map_eq_some_iff.1 hstep
      cases l with
      | connectRaises exc =>
          cases hcall
          cases ht
          have hdown : Down { s.transport with
              closing := false
              connecting := true
              tasks := s.transport.tasks.set s.transport.next ⟨.connect 1, .opening⟩
              next := s.transport.next + 1 } ↔ Down s.transport := down_congr rfl rfl rfl
          rw [failsClean_of_raised (l := .connectRaises exc) hsame rfl rfl rfl, hdown]
          exact Iff.rfl
      | wakesRaises id exc =>
          obtain ⟨role, hrole, rfl⟩ := Option.map_eq_some_iff.1 ht
          obtain ⟨rfl, attempt, rfl⟩ := callAt_running hcall hrole
          have hdown : Down (wake s.transport call (.connect attempt)) ↔ Down s.transport :=
            down_congr rfl rfl rfl
          rw [failsClean_of_raised hsame hcall rfl ht, hdown]
          simp [FindsClean, hrole]
      | readsRaise id exc =>
          obtain ⟨role, hrole, rfl⟩ := Option.map_eq_some_iff.1 ht
          obtain ⟨rfl, attempt, rfl⟩ := callAt_running hcall hrole
          have hopen : ¬ Down { s.transport with socketUp := true } := not_down_of_socketUp rfl
          rw [failsClean_of_raised hsame hcall rfl ht]
          simp [FindsClean, hrole, hopen]
      | base l =>
          cases transportStep_move ht with
          | connect =>
              cases hcall
              refine iff_of_true (failsClean_of_alive rfl rfl ?_) trivial
              simp
          | wakes hrole =>
              obtain ⟨rfl, attempt, rfl⟩ := callAt_running hcall hrole
              refine iff_of_true (failsClean_of_alive hcall ht ?_) trivial
              simp [wake, setPhase]
          | accountRefused hrole haccount =>
              obtain ⟨rfl, attempt, rfl⟩ := callAt_running hcall hrole
              have hgives : givesUp spec (.connect attempt) .accountConfig = true := by
                simp [givesUp, isRetryableConnectError]
              have huntouched : Untouched { s.transport with socketUp := true } ↔
                  Untouched s.transport :=
                ⟨fun h => ⟨h.noHandler, h.routerDown⟩, fun h => ⟨h.noHandler, h.routerDown⟩⟩
              rw [failsClean_of_raised hsame hcall rfl ht, down_closeSocket_iff, huntouched]
              simp [FindsClean, hrole, haccount, hgives]
          | @dataTypeFails id role accounts account exc hrole haccount =>
              obtain ⟨rfl, attempt, rfl⟩ := callAt_running hcall hrole
              have hopen : ¬ Down (detachHandlers (attachHandlers
                  { s.transport with socketUp := true, account := account })) :=
                not_down_of_socketUp rfl
              rw [failsClean_of_raised hsame hcall rfl ht]
              simp [FindsClean, hrole, haccount, hopen]
          | opened hrole haccount =>
              obtain ⟨rfl, attempt, rfl⟩ := callAt_running hcall hrole
              refine iff_of_true (failsClean_of_alive hcall ht ?_) ?_
              · simp [setPhase]
              · simp [FindsClean, haccount]
          | openFails hrole =>
              obtain ⟨rfl, attempt, rfl⟩ := callAt_running hcall hrole
              rw [failsClean_of_raised hsame hcall rfl ht, down_closeSocket_iff]
              simp [FindsClean, hrole]
          | skipsSync hrole hskip => exact hreturned rfl trivial
          | reconciled hrole hskip => exact hreturned rfl trivial
          | synced hrole => exact hreturned rfl trivial
          | @cancelled id role phase fires hid hrole =>
              obtain ⟨rfl, attempt, phase', hid'⟩ := callAt_eq_some.1 hcall
              cases hid.symm.trans hid'
              have hended : (endTask (cancelAttempt s.transport fires phase) call
                  (.connect attempt)).tasks.get? call = none := Dict.get?_pop_self _ _
              have hdown : Down (endTask (cancelAttempt s.transport fires phase) call
                  (.connect attempt)) ↔ CancelsClean s.transport phase := by
                rw [← down_cancelAttempt_iff s.transport fires phase]
                exact down_congr rfl rfl rfl
              rw [failsClean_of_call hsame hcall rfl ht, hdown]
              simp [FindsClean, hid, hended]
          | disconnect => cases hcall
          | disconnectResumes hfound hdone => cases hcall
          | socketDrops hup => cases hcall
          | errorCode hattached => cases hcall
          | codeUnheard hdetached => cases hcall

/-! ## Runs -/

/-- The failed calls of a run leave nothing behind exactly when each call that raises finds
no handler, router or socket of an earlier session that its last step does not take down,
has not opened a socket that nobody closes, and was not heard closing one. -/
theorem failsClean_iff (spec : IbConnectionSpec) (ls : List AttemptLabel) :
    (watchedMachine spec).AllSteps (FailsClean spec) (watchedMachine spec).init ls ↔
      (watchedMachine spec).AllSteps (FindsClean spec) (watchedMachine spec).init ls := by
  have hkept : ∀ s l s', s.spoke = s.heard → (watchedMachine spec).step s l = some s' →
      s'.spoke = s'.heard := fun _ _ _ => watchedStep_spoke_eq_heard
  have hagree : ∀ s l s', s.spoke = s.heard → (watchedMachine spec).step s l = some s' →
      (FailsClean spec s l ↔ FindsClean spec s l) := fun _ _ _ => failsClean_iff_findsClean
  refine (watchedMachine spec).allSteps_congr_of_invariant hkept hagree ?_ ls
  rfl

/-- The supervisor gives a session up because of its account and leaves the handlers; a
later `connect()` is refused and leaves them too.  And a `connect()` that is cancelled
after it opened the socket leaves it open. -/
theorem failed_connect_leaves_session :
    (∃ s s', (watchedMachine .default).run (watchedMachine .default).init
        [.base .connect, .base (.opened 0 ["DU1"] none), .base (.reconciled 0),
          .base (.synced 0), .base .socketDrops, .base (.wakes 1),
          .base (.opened 1 ["DU1", "DU2"] none), .base .connect] = some s ∧
      watchedStep .default s (.base (.openFails 2 .other [] false)) = some s' ∧
      s'.transport.tasks.get? 2 = none ∧ s'.transport.handlersAttached = true ∧
      ¬ FailsClean .default s (.base (.openFails 2 .other [] false))) ∧
    (∃ s s', (watchedMachine .default).run (watchedMachine .default).init
        [.base .connect, .base (.opened 0 ["DU1"] none)] = some s ∧
      watchedStep .default s (.base (.cancelled 0 false)) = some s' ∧
      s'.transport.tasks.get? 0 = none ∧ s'.transport.socketUp = true ∧
      ¬ FailsClean .default s (.base (.cancelled 0 false))) := by
  refine ⟨⟨_, _, rfl, rfl, rfl, rfl, fun h => ?_⟩, ⟨_, _, rfl, rfl, rfl, rfl, fun h => ?_⟩⟩
  · cases (h 2 _ rfl rfl rfl rfl).down.noHandler
  · cases (h 0 _ rfl rfl rfl rfl).down.noSocket

end Ib
end MarketConnector
