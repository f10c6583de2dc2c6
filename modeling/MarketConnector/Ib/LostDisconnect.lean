import Mathlib.Tactic.ByContra
import MarketConnector.Ib.Connection

/-!
# Ib - No lost disconnect

A drop of the socket ends in the router being down or in a live supervisor, unless
nobody hears it: the handler ignores the event while a call or a supervisor runs, the
post-connect steps swallow the errors of their requests, and an attempt that comes to
its end sets the router up without looking at the socket.

Main results:

- Theorem `noLostDisconnect_step_iff`: the exact condition for one step.
- Theorem `noLostDisconnect_iff`: a run loses no drop exactly when all its steps meet
  the condition.
- Theorem `drop_during_reconcile_is_lost`: a drop during the reconcile of `connect()`.
-/

namespace MarketConnector
namespace Ib

open Foundations

/-! ## The property -/

/-- The router reports a connection of the transport's own making, and `disconnect()`
was not called. -/
def Vouches (s : Transport) : Prop :=
  s.routerUp = true ∧ s.byCode = false ∧ s.closing = false

/-- With no `connect()` and no supervisor running, a router that is up means that the
socket is up. -/
def NoLostDisconnect (s : Transport) : Prop :=
  s.tasks = ∅ → Vouches s → s.socketUp = true

/-- No task but `id` is running. -/
def LastTask (s : Transport) (id : Nat) : Prop :=
  s.tasks.pop id = ∅

/-- Steps that lose no drop.  With the router up, a socket that drops while nothing runs
finds the handlers attached, and the last task to end with an error leaves the socket
up or is heard closing it; the last task to complete an attempt finds the socket up. -/
def KeepsTrack (spec : IbConnectionSpec) (s : Transport) : Label → Prop
  | .socketDrops => s.tasks = ∅ → Vouches s → s.handlersAttached = true
  | .opened id accounts _ =>
      resolveAccount spec.accountId accounts = none → LastTask s id → Vouches s →
        handles s = true
  | .openFails id exc apiMessages fires =>
      ∀ role, running s id .opening = some role →
        givesUp spec role (openSocketError exc apiMessages) = true → LastTask s id →
          Vouches s → (fires && handles s) = true
  | .reconciled id =>
      (spec.readonly || !spec.fetchAllOpenOrders) = true → LastTask s id →
        s.closing = false → s.socketUp = true
  | .synced id => LastTask s id → s.closing = false → s.socketUp = true
  | .cancelled id fires =>
      ∀ task, s.tasks.get? id = some task → LastTask s id → Vouches s →
        if task.phase = .opening then (fires && handles s) = true else s.socketUp = true
  | _ => True

/-! ## States that lose nothing -/

theorem NoLostDisconnect.of_get? {s : Transport} {id : Nat} {task : Task}
    (h : s.tasks.get? id = some task) : NoLostDisconnect s := by
  intro hempty
  rw [hempty, Dict.get?_empty] at h
  cases h

theorem NoLostDisconnect.setPhase (s : Transport) (id : Nat) (role : Role) (phase : Phase) :
    NoLostDisconnect (setPhase s id role phase) :=
  .of_get? (Dict.get?_set_self _ _ _)

theorem NoLostDisconnect.of_routerUp {s : Transport} (h : s.routerUp = false) :
    NoLostDisconnect s := by
  intro _ hvouches
  rw [hvouches.1] at h
  cases h

/-- `disconnect()` takes the router down or is still waiting with `_closing` set. -/
theorem NoLostDisconnect.startDisconnect (s : Transport) :
    NoLostDisconnect (startDisconnect s) := by
  have hclosing : (Ib.startDisconnect s).closing = true := by
    unfold Ib.startDisconnect
    split <;> rfl
  intro _ hvouches
  rw [hvouches.2.2] at hclosing
  cases hclosing

/-- A connectivity code is on record, or nothing changed. -/
theorem NoLostDisconnect.onError {s : Transport} (h : NoLostDisconnect s) (code : Int) :
    NoLostDisconnect (onError s code) := by
  unfold Ib.onError
  cases hcode : connectivity code with
  | none => exact h
  | some isUp =>
      intro _ hvouches
      have hbyCode := hvouches.2.1
      simp only [publishState] at hbyCode
      split_ifs at hbyCode

/-! ## Ends of a task -/

theorem noLostDisconnect_endTask_iff (s : Transport) (id : Nat) (role : Role) :
    NoLostDisconnect (endTask s id role) ↔
      (LastTask s id → Vouches s → s.socketUp = true) := by
  cases role <;> exact Iff.rfl

/-- Completing an attempt sets the router up. -/
theorem noLostDisconnect_completed_iff (s : Transport) (id : Nat) (role : Role) :
    NoLostDisconnect (publishState (endTask (setConnected s true) id role) .connected) ↔
      (LastTask s id → s.closing = false → s.socketUp = true) := by
  have hend : NoLostDisconnect (publishState (endTask (setConnected s true) id role) .connected) ↔
      (LastTask s id → Vouches (setConnected s true) → s.socketUp = true) :=
    noLostDisconnect_endTask_iff (setConnected s true) id role
  rw [hend]
  constructor
  · intro h hlast hclosing
    exact h hlast ⟨rfl, rfl, hclosing⟩
  · intro h hlast hvouches
    exact h hlast hvouches.2.2

/-- An attempt that raised matters when its caller gives up. -/
theorem noLostDisconnect_raised_iff (spec : IbConnectionSpec) (s : Transport) (id : Nat)
    (role : Role) (exc : ConnectError) :
    NoLostDisconnect (attemptRaised spec s id role exc) ↔
      (givesUp spec role exc = true → LastTask s id → Vouches s → s.socketUp = true) := by
  unfold attemptRaised
  by_cases hgives : givesUp spec role exc = true
  · rw [if_pos hgives]
    have hend := noLostDisconnect_endTask_iff s id role
    cases role with
    | connect attempt => exact hend.trans (imp_iff_right hgives).symm
    | supervise cancelled => exact hend.trans (imp_iff_right hgives).symm
  · rw [if_neg hgives]
    exact iff_of_true (.setPhase s id role.retry .sleeping) fun h => absurd h hgives

/-- Ending the last task on a closed socket: the router is down, or the closing was
heard. -/
theorem lastTask_closeSocket_iff (s : Transport) (id : Nat) (fires : Bool) :
    (LastTask (closeSocket s fires) id → Vouches (closeSocket s fires) →
        (closeSocket s fires).socketUp = true) ↔
      (LastTask s id → Vouches s → (fires && handles s) = true) := by
  cases hheard : fires && handles s with
  | true =>
      refine iff_of_true (fun _ hvouches => ?_) fun _ _ => rfl
      have hdown := (closeSocket_of_heard hheard).1
      rw [hvouches.1] at hdown
      cases hdown
  | false =>
      rw [closeSocket_of_unheard hheard]
      exact Iff.rfl

/-- A drop while nothing runs is heard exactly when the handlers are attached. -/
theorem noLostDisconnect_dropped_iff {s : Transport} (hconnecting : ConnectingInv s) :
    NoLostDisconnect (closeSocket s true) ↔
      (s.tasks = ∅ → Vouches s → s.handlersAttached = true) := by
  have hheard : s.tasks = ∅ → Vouches s → (handles s = true ↔ s.handlersAttached = true) := by
    intro hempty hvouches
    have hidle : s.connecting = false := by
      by_contra hset
      obtain ⟨id, attempt, phase, hid⟩ := hconnecting (by simpa using hset)
      rw [hempty, Dict.get?_empty] at hid
      cases hid
    have hdead : supervisorAlive s = false := by
      unfold supervisorAlive
      cases s.supervisor with
      | none => rfl
      | some id => simp [hempty]
    simp [handles, hvouches.2.2, hidle, hdead]
  cases hhandles : handles s with
  | true =>
      have hheardTrue : (true && handles s) = true := hhandles
      refine iff_of_true (.of_routerUp (closeSocket_of_heard hheardTrue).1) ?_
      intro hempty hvouches
      exact (hheard hempty hvouches).1 hhandles
  | false =>
      have hunheard : (true && handles s) = false := hhandles
      rw [closeSocket_of_unheard hunheard]
      constructor
      · intro h hempty hvouches
        cases h hempty hvouches
      · intro h hempty hvouches
        have hattached := (hheard hempty hvouches).2 (h hempty hvouches)
        rw [hhandles] at hattached
        cases hattached

/-! ## One step -/

/-- From a state that has lost nothing, a step loses no drop exactly when it meets the
condition. -/
theorem noLostDisconnect_step_iff {spec : IbConnectionSpec} {s s' : Transport} {l : Label}
    (hconnecting : ConnectingInv s) (h : NoLostDisconnect s) (hstep : step spec s l = some s') :
    NoLostDisconnect s' ↔ KeepsTrack spec s l := by
  cases transportStep_move hstep with
  | connect =>
      have htask : NoLostDisconnect (setPhase { s with closing := false, connecting := true }
          s.next (.connect 1) .opening) := .setPhase _ _ _ _
      exact iff_of_true htask trivial
  | disconnect => exact iff_of_true (.startDisconnect s) trivial
  | disconnectResumes hcall hdone => exact iff_of_true (.of_routerUp rfl) trivial
  | @wakes id role hrole =>
      cases role with
      | connect attempt => exact iff_of_true (.setPhase _ _ _ _) trivial
      | supervise cancelled => exact iff_of_true (.setPhase _ _ _ _) trivial
  | @accountRefused id role accounts dataTypeRaises hrole haccount =>
      have hgives : givesUp spec role .accountConfig = true := by
        cases role <;> rfl
      have hraised := noLostDisconnect_raised_iff spec
        (closeSocket { s with socketUp := true } true) id role .accountConfig
      have hclosed := lastTask_closeSocket_iff { s with socketUp := true } id true
      calc NoLostDisconnect (attemptRaised spec
            (closeSocket { s with socketUp := true } true) id role .accountConfig)
          ↔ (LastTask { s with socketUp := true } id → Vouches { s with socketUp := true } →
              (true && handles { s with socketUp := true }) = true) :=
            hraised.trans ((imp_iff_right hgives).trans hclosed)
        _ ↔ KeepsTrack spec s (.opened id accounts dataTypeRaises) :=
            (imp_iff_right haccount).symm
  | dataTypeFails hrole haccount =>
      refine iff_of_true ((noLostDisconnect_raised_iff _ _ _ _ _).2 ?_) fun hrefused => ?_
      · intro _ _ _
        rfl
      · rw [haccount] at hrefused
        cases hrefused
  | opened hrole haccount =>
      refine iff_of_true (.setPhase _ _ _ _) fun hrefused => ?_
      rw [haccount] at hrefused
      cases hrefused
  | openFails hrole =>
      rw [noLostDisconnect_raised_iff, lastTask_closeSocket_iff]
      constructor
      · intro hkeeps role' hrole'
        rw [hrole] at hrole'
        cases hrole'
        exact hkeeps
      · intro hkeeps
        exact hkeeps _ hrole
  | skipsSync hrole hskip =>
      rw [noLostDisconnect_completed_iff]
      exact (imp_iff_right hskip).symm
  | reconciled hrole hskip =>
      exact iff_of_true (.setPhase _ _ _ _) fun hskipped => absurd hskipped hskip
  | synced hrole => exact noLostDisconnect_completed_iff s _ _
  | @cancelled id role phase fires hid hrole =>
      rw [noLostDisconnect_endTask_iff]
      have htask : KeepsTrack spec s (.cancelled id fires) ↔ (LastTask s id → Vouches s →
          if phase = .opening then (fires && handles s) = true else s.socketUp = true) := by
        constructor
        · intro hkeeps
          exact hkeeps ⟨role, phase⟩ hid
        · intro hkeeps task htask
          rw [hid] at htask
          cases htask
          exact hkeeps
      rw [htask]
      cases phase with
      | sleeping => exact Iff.rfl
      | opening => exact lastTask_closeSocket_iff s id fires
      | reconciling => exact Iff.rfl
      | syncing => exact Iff.rfl
  | socketDrops hup => exact noLostDisconnect_dropped_iff hconnecting
  | errorCode hattached => exact iff_of_true (h.onError _) trivial
  | codeUnheard hdetached => exact iff_of_true h trivial

/-! ## Runs -/

/-- What a run that has lost nothing keeps. -/
structure TrackInv (s : Transport) : Prop where
  connecting : ConnectingInv s
  noLost : NoLostDisconnect s

/-- A run of the transport loses no drop exactly when all its steps keep track. -/
theorem noLostDisconnect_iff (spec : IbConnectionSpec) (ls : List Label) :
    (transportMachine spec).AllStates NoLostDisconnect (.init spec) ls ↔
      (transportMachine spec).AllSteps (KeepsTrack spec) (.init spec) ls := by
  have hinit : TrackInv (.init spec) :=
    ⟨(fun h => by cases h), NoLostDisconnect.of_routerUp rfl⟩
  have hkeep : ∀ s l s', TrackInv s → KeepsTrack spec s l →
      (transportMachine spec).step s l = some s' → TrackInv s' := by
    intro s l s' hs hkeeps hstep
    exact ⟨hs.connecting.step hstep,
      (noLostDisconnect_step_iff hs.connecting hs.noLost hstep).2 hkeeps⟩
  have hbreak : ∀ s l s', TrackInv s → (transportMachine spec).step s l = some s' →
      NoLostDisconnect s' → KeepsTrack spec s l := by
    intro s l s' hs hstep hlost
    exact (noLostDisconnect_step_iff hs.connecting hs.noLost hstep).1 hlost
  exact (transportMachine spec).allStates_iff_allSteps hkeep (fun s hs => hs.noLost) hbreak hinit

/-- The socket drops while `connect()` reconciles the executions: both requests fail,
the call returns, and nobody learns of the drop. -/
theorem drop_during_reconcile_is_lost :
    ∃ s, (transportMachine .default).run (.init .default)
        [.connect, .opened 0 ["DU1"] none, .socketDrops, .reconciled 0, .synced 0] = some s ∧
      s.published = [.connected] ∧ s.tasks = ∅ ∧ Vouches s ∧ ¬ NoLostDisconnect s := by
  refine ⟨_, rfl, rfl, rfl, ⟨rfl, rfl, rfl⟩, fun h => ?_⟩
  cases h rfl ⟨rfl, rfl, rfl⟩

end Ib
end MarketConnector
