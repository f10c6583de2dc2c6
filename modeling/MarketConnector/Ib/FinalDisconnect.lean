import MarketConnector.Ib.Connection

/-!
# Ib - Is `disconnect()` final?

`disconnect()` cancels the stored supervisor and takes everything down.  The retry loop
of a `connect()` is a task it does not know of: it wakes up, connects and reports
"connected" although the caller has disconnected.

Main results:

- Theorem `staysDown_iff`: a transport that is down stays down exactly when all its
  tasks are cancelled supervisors.
- Theorem `disconnectStaysDown_iff`: the runs whose `disconnect()` calls are final.
- Theorem `retrying_connect_reconnects`: a `connect()` that sleeps between attempts.
-/

namespace MarketConnector
namespace Ib

open Foundations

/-! ## The property -/

/-- The step in which a `disconnect()` returns: at once when no supervisor is alive, or
when the supervisor it cancelled is done. -/
def ReturnsDisconnect (s : Transport) : Label → Prop
  | .disconnect => supervisorAlive s = false
  | .disconnectResumes _ => True
  | _ => False

/-- The step attaches no handler, opens no socket, publishes no "connected", starts no
supervisor, and the router stays down. -/
structure KeepsDown (s : Transport) (l : Label) (s' : Transport) : Prop where
  noHandler : s'.handlersAttached = false
  notOpened : ∀ id accounts dataTypeRaises, l ≠ .opened id accounts dataTypeRaises
  noSocket : s'.socketUp = false
  notPublished : s'.published.count .connected = s.published.count .connected
  noSupervisor : ∀ id, s.tasks.get? id = none → s'.tasks.get? id = none
  routerDown : s'.routerUp = false

/-- Until the user calls `connect()`, every step keeps the transport down. -/
def StaysDown (spec : IbConnectionSpec) (s : Transport) : Prop :=
  (transportMachine spec).AlwaysAfter (· ≠ .connect) KeepsDown s

/-- Every task is a supervisor with a cancellation on its way. -/
def OnlyCancelled (s : Transport) : Prop :=
  ∀ id task, s.tasks.get? id = some task → task.role = .supervise true

/-- Handlers, router and socket are down. -/
structure Down (s : Transport) : Prop where
  noHandler : s.handlersAttached = false
  routerDown : s.routerUp = false
  noSocket : s.socketUp = false

/-! ## Steps of a transport without running tasks -/

theorem OnlyCancelled.running_eq_none {s : Transport} (h : OnlyCancelled s) (id : Nat)
    (phase : Phase) : running s id phase = none := by
  cases hid : s.tasks.get? id with
  | none => simp only [running, hid]
  | some task =>
      have hrole := h id task hid
      simp [running, hid, hrole]

theorem fireDisconnected_of_detached {s : Transport} (h : s.handlersAttached = false) :
    fireDisconnected s = s := by
  unfold fireDisconnected
  rw [h]
  rfl

/-- A cancellation closes the socket and ends the task, and nobody hears of it. -/
theorem cancelAttempt_of_down {s : Transport} (h : Down s) (fires : Bool) (phase : Phase) :
    cancelAttempt s fires phase = s := by
  have hsocket : ({ s with socketUp := false } : Transport) = s := by
    rw [← h.noSocket]
  have hhandlers : detachHandlers s = s := by
    unfold detachHandlers
    rw [← h.noHandler]
  cases phase with
  | sleeping => rfl
  | opening =>
      simp only [cancelAttempt, closeSocket, hsocket, fireDisconnected_of_detached h.noHandler,
        ite_self]
  | reconciling => exact hhandlers
  | syncing => exact hhandlers

/-- What the end of `disconnect()` leaves. -/
theorem down_finishDisconnect (s : Transport) : Down (finishDisconnect s) :=
  ⟨rfl, rfl, rfl⟩

/-- Without a live supervisor, `disconnect()` does not wait. -/
theorem startDisconnect_of_dead {s : Transport} (h : supervisorAlive s = false) :
    startDisconnect s = finishDisconnect { s with closing := true, supervisor := none } := by
  have hnone : (s.supervisor.bind fun id => (s.tasks.get? id).map fun task => (id, task)) =
      none := by
    unfold supervisorAlive at h
    cases hs : s.supervisor with
    | none => rfl
    | some id => simpa [hs] using h
  unfold startDisconnect
  rw [hnone]

/-- A `disconnect()` that returns leaves the transport down, with the tasks as they are. -/
theorem down_of_returnsDisconnect {spec : IbConnectionSpec} {s s' : Transport} {l : Label}
    (hl : ReturnsDisconnect s l) (hstep : step spec s l = some s') :
    Down s' ∧ s'.tasks = s.tasks := by
  cases transportStep_move hstep with
  | disconnect =>
      rw [startDisconnect_of_dead hl]
      exact ⟨down_finishDisconnect _, rfl⟩
  | disconnectResumes hcall hdone => exact ⟨down_finishDisconnect _, rfl⟩
  | _ => cases hl

/-- `disconnect()` finishes at once, or cancels its supervisor and waits for it. -/
theorem startDisconnect_cases (s : Transport) :
    startDisconnect s = finishDisconnect { s with closing := true, supervisor := none } ∨
      ∃ id cancelled phase, s.tasks.get? id = some ⟨.supervise cancelled, phase⟩ ∧
        startDisconnect s =
          { setPhase { s with closing := true, supervisor := none } id (.supervise true) phase with
            disconnectCalls := s.disconnectCalls.set s.next id
            next := s.next + 1 } := by
  unfold startDisconnect
  cases hbind : s.supervisor.bind fun id => (s.tasks.get? id).map fun task => (id, task) with
  | none => exact Or.inl rfl
  | some p =>
      obtain ⟨id, -, hmap⟩ := Option.bind_eq_some_iff.1 hbind
      obtain ⟨⟨role, phase⟩, hid, rfl⟩ := Option.map_eq_some_iff.1 hmap
      cases role with
      | connect attempt => exact Or.inl rfl
      | supervise cancelled => exact Or.inr ⟨id, cancelled, phase, hid, rfl⟩

/-- With cancelled supervisors only, a step keeps the transport down. -/
theorem down_step {spec : IbConnectionSpec} {s s' : Transport} {l : Label} (hdown : Down s)
    (honly : OnlyCancelled s) (hl : l ≠ .connect) (hstep : step spec s l = some s') :
    KeepsDown s l s' ∧ Down s' ∧ OnlyCancelled s' := by
  have hfinished : ∀ t : Transport, t.tasks = s.tasks → t.published = s.published →
      (∀ id accounts dataTypeRaises, l ≠ .opened id accounts dataTypeRaises) →
        KeepsDown s l (finishDisconnect t) ∧ Down (finishDisconnect t) ∧
          OnlyCancelled (finishDisconnect t) := by
    intro t htasks hpublished hopened
    have hget : ∀ id, (finishDisconnect t).tasks.get? id = s.tasks.get? id := fun id =>
      congrArg (fun d => Dict.get? d id) htasks
    refine ⟨⟨rfl, hopened, rfl, ?_, ?_, rfl⟩, down_finishDisconnect t, ?_⟩
    · exact congrArg (List.count _) hpublished
    · intro id hid
      rw [hget, hid]
    · intro id task hid
      rw [hget] at hid
      exact honly id task hid
  cases transportStep_move hstep with
  | connect => exact absurd rfl hl
  | disconnect =>
      rcases startDisconnect_cases s with hfinish | ⟨id, cancelled, phase, hid, hwaits⟩
      · rw [hfinish]
        exact hfinished _ rfl rfl (by simp)
      · rw [hwaits]
        refine ⟨⟨hdown.noHandler, by simp, hdown.noSocket, rfl, ?_, hdown.routerDown⟩,
          ⟨hdown.noHandler, hdown.routerDown, hdown.noSocket⟩, ?_⟩
        · intro id' hid'
          have hne : id' ≠ id := by
            rintro rfl
            cases hid.symm.trans hid'
          exact (Dict.get?_set_of_ne _ hne _).trans hid'
        · exact Dict.forall_get?_set honly rfl
  | disconnectResumes hcall hdone => exact hfinished _ rfl rfl (by simp)
  | wakes hrole => cases (honly.running_eq_none _ _).symm.trans hrole
  | accountRefused hrole haccount => cases (honly.running_eq_none _ _).symm.trans hrole
  | dataTypeFails hrole haccount => cases (honly.running_eq_none _ _).symm.trans hrole
  | opened hrole haccount => cases (honly.running_eq_none _ _).symm.trans hrole
  | openFails hrole => cases (honly.running_eq_none _ _).symm.trans hrole
  | skipsSync hrole hskip => cases (honly.running_eq_none _ _).symm.trans hrole
  | reconciled hrole hskip => cases (honly.running_eq_none _ _).symm.trans hrole
  | synced hrole => cases (honly.running_eq_none _ _).symm.trans hrole
  | @cancelled id role phase fires hid hrole =>
      have hcancelled : role = .supervise true := honly id _ hid
      subst hcancelled
      rw [cancelAttempt_of_down hdown]
      refine ⟨⟨hdown.noHandler, by simp, hdown.noSocket, rfl, ?_, hdown.routerDown⟩,
        ⟨hdown.noHandler, hdown.routerDown, hdown.noSocket⟩, ?_⟩
      · intro id' hid'
        simp only [endTask, Dict.get?_pop, hid', ite_self]
      · exact fun id' task hid' => honly id' task (Dict.get?_of_pop hid')
  | socketDrops hup => cases hdown.noSocket.symm.trans hup
  | errorCode hattached => cases hdown.noHandler.symm.trans hattached
  | codeUnheard hdetached =>
      exact ⟨⟨hdown.noHandler, by simp, hdown.noSocket, rfl, fun _ hid => hid,
        hdown.routerDown⟩, hdown, honly⟩

/-! ## Tasks that are still running -/

theorem StaysDown.step {spec : IbConnectionSpec} {s s' : Transport} {l : Label}
    (h : StaysDown spec s) (hl : l ≠ .connect) (hstep : step spec s l = some s') :
    KeepsDown s l s' ∧ StaysDown spec s' :=
  Machine.AlwaysAfter.step h hl hstep

theorem running_setPhase {s : Transport} {id : Nat} {role : Role} (phase : Phase)
    (hrole : role ≠ .supervise true) :
    running (setPhase s id role phase) id phase = some role := by
  simp [running, setPhase, hrole]

theorem running_of_task {s : Transport} {id : Nat} {role : Role} {phase : Phase}
    (hid : s.tasks.get? id = some ⟨role, phase⟩) (hrole : role ≠ .supervise true) :
    running s id phase = some role := by
  simp [running, hid, hrole]

theorem not_staysDown_of_opening {spec : IbConnectionSpec} {s : Transport} {id : Nat}
    {role : Role} (hrole : running s id .opening = some role) : ¬ StaysDown spec s := by
  intro hdown
  have hstep : step spec s (.opened id [] none) =
      some (settle spec id role (afterOpen spec s [] none)) := by
    simp only [Ib.step, hrole, Option.map_some]
  exact (hdown.step (by simp) hstep).1.notOpened id [] none rfl

theorem not_staysDown_of_syncing {spec : IbConnectionSpec} {s : Transport} {id : Nat}
    {role : Role} (hrole : running s id .syncing = some role) : ¬ StaysDown spec s := by
  intro hdown
  have hstep : step spec s (.synced id) =
      some (publishState (endTask (setConnected s true) id role) .connected) := by
    simp only [Ib.step, hrole, Option.map_some, settle]
  have hrouter := (hdown.step (by simp) hstep).1.routerDown
  cases role <;> cases hrouter

/-- A task that is not being cancelled comes to open a socket or to set the router up. -/
theorem not_staysDown_of_task {spec : IbConnectionSpec} {s : Transport} {id : Nat} {role : Role}
    {phase : Phase} (hid : s.tasks.get? id = some ⟨role, phase⟩)
    (hrole : role ≠ .supervise true) : ¬ StaysDown spec s := by
  intro hdown
  have hrunning := running_of_task hid hrole
  cases phase with
  | sleeping =>
      have hstep : step spec s (.wakes id) = some (wake s id role) := by
        simp only [Ib.step, hrunning, Option.map_some]
      have hdown' := (hdown.step (by simp) hstep).2
      have hopening : running (wake s id role) id .opening = some role := by
        cases role <;> exact running_setPhase .opening hrole
      exact not_staysDown_of_opening hopening hdown'
  | opening => exact not_staysDown_of_opening hrunning hdown
  | reconciling =>
      have hstep : step spec s (.reconciled id) =
          some (settle spec id role (afterReconcile spec s)) := by
        simp only [Ib.step, hrunning, Option.map_some]
      obtain ⟨hkeeps, hdown'⟩ := hdown.step (by simp) hstep
      unfold afterReconcile at hkeeps hdown'
      split_ifs at hkeeps hdown'
      · have hrouter := hkeeps.routerDown
        cases role <;> cases hrouter
      · exact not_staysDown_of_syncing (running_setPhase .syncing hrole) hdown'
  | syncing => exact not_staysDown_of_syncing hrunning hdown

/-- A transport that is down stays down exactly when all its tasks are cancelled
supervisors. -/
theorem staysDown_iff (spec : IbConnectionSpec) {s : Transport} (hs : Down s) :
    StaysDown spec s ↔ OnlyCancelled s := by
  constructor
  · rintro hdown id ⟨role, phase⟩ hid
    by_contra hrole
    exact not_staysDown_of_task hid hrole hdown
  · intro honly
    have hkept : ∀ s l s', (Down s ∧ OnlyCancelled s) → l ≠ .connect →
        (transportMachine spec).step s l = some s' →
          KeepsDown s l s' ∧ Down s' ∧ OnlyCancelled s' :=
      fun _ _ _ h hl hstep => down_step h.1 h.2 hl hstep
    exact (transportMachine spec).alwaysAfter_of_invariant hkept ⟨hs, honly⟩

/-! ## Runs -/

/-- A `disconnect()` that returns in this step is final. -/
def DisconnectStaysDown (spec : IbConnectionSpec) (s : Transport) (l : Label) : Prop :=
  ReturnsDisconnect s l → ∀ s', step spec s l = some s' → Down s' ∧ StaysDown spec s'

/-- When a `disconnect()` returns in this step, no `connect()` is in progress and no
supervisor but a cancelled one. -/
def DisconnectsAlone (s : Transport) (l : Label) : Prop :=
  ReturnsDisconnect s l → OnlyCancelled s

/-- The `disconnect()` calls of a run are final exactly when none of them returns while
a `connect()` or a supervisor that was not cancelled is running. -/
theorem disconnectStaysDown_iff (spec : IbConnectionSpec) (ls : List Label) :
    (transportMachine spec).AllSteps (DisconnectStaysDown spec) (.init spec) ls ↔
      (transportMachine spec).AllSteps DisconnectsAlone (.init spec) ls := by
  apply Machine.allSteps_congr
  intro s l s' hstep
  refine forall_congr' fun hreturns => ?_
  obtain ⟨hdown, htasks⟩ := down_of_returnsDisconnect hreturns hstep
  have hsame : OnlyCancelled s' ↔ OnlyCancelled s := by
    unfold OnlyCancelled
    rw [htasks]
  rw [← hsame, ← staysDown_iff spec hdown]
  constructor
  · intro h
    exact (h s' hstep).2
  · intro h s'' hstep'
    cases hstep.symm.trans hstep'
    exact ⟨hdown, h⟩

/-- `connect()` times out and sleeps, the caller disconnects, and the next attempt
succeeds. -/
theorem retrying_connect_reconnects :
    ∃ s s' t, (transportMachine .default).run (.init .default)
        [.connect, .openFails 0 .timeout [] false] = some s ∧
      ReturnsDisconnect s .disconnect ∧ step .default s .disconnect = some s' ∧ Down s' ∧
      (transportMachine .default).run s'
        [.wakes 0, .opened 0 ["DU1"] none, .reconciled 0, .synced 0] = some t ∧
      t.published = [.connected] ∧ t.routerUp = true ∧ t.socketUp = true ∧
      t.handlersAttached = true ∧
      ¬ (transportMachine .default).AllSteps (DisconnectStaysDown .default) (.init .default)
        [.connect, .openFails 0 .timeout [] false, .disconnect] := by
  refine ⟨_, _, _, rfl, rfl, rfl, ⟨rfl, rfl, rfl⟩, rfl, rfl, rfl, rfl, rfl, fun h => ?_⟩
  have hfinal := (((h _ rfl).2 _ rfl).2 _ rfl).1 rfl _ rfl
  let waiting : Task := ⟨.connect 2, .sleeping⟩
  have hrole : waiting.role ≠ .supervise true := by decide
  exact not_staysDown_of_task (show Dict.get? _ 0 = some waiting from rfl) hrole hfinal.2

end Ib
end MarketConnector
