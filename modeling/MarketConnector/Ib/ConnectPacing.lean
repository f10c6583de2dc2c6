import MarketConnector.Foundations.Backoff
import MarketConnector.Ib.Connection

/-!
# Ib - Attempts and the delays between them

`connect()` and the reconnect supervisor try again after a delay that doubles up to a cap.
Beside the transport stands a history of each of its tasks: its attempts, its sleeps and the
local variable `delay`.

Main results:

- Theorem `step_moves`: what one step does to each task.
- Theorem `PacedInv.step`: what a step keeps of the attempts and sleeps of every task.
- Theorem `connect_pacing`: when a `connect()` raises, and how often it has tried then.
-/

namespace MarketConnector
namespace Ib

open Foundations

/-! ## Moves of a task -/

/-- What a step can do to one task. -/
inductive TaskMove (spec : IbConnectionSpec) : Option Task → Option Task → Prop where
  | stays (task : Option Task) : TaskMove spec task task
  | calls : TaskMove spec none (some ⟨.connect 1, .opening⟩)
  | supervises : TaskMove spec none (some ⟨.supervise false, .sleeping⟩)
  | wakes (role : Role) : TaskMove spec (some ⟨role, .sleeping⟩) (some ⟨role, .opening⟩)
  | opened (role : Role) : TaskMove spec (some ⟨role, .opening⟩) (some ⟨role, .reconciling⟩)
  | reconciled (role : Role) : TaskMove spec (some ⟨role, .reconciling⟩) (some ⟨role, .syncing⟩)
  | retries {role : Role} {exc : ConnectError} (hgoes : givesUp spec role exc = false) :
      TaskMove spec (some ⟨role, .opening⟩) (some ⟨role.retry, .sleeping⟩)
  | cancelRequested (cancelled : Bool) (phase : Phase) :
      TaskMove spec (some ⟨.supervise cancelled, phase⟩) (some ⟨.supervise true, phase⟩)
  | ends (task : Task) : TaskMove spec (some task) none

/-- New tasks get new numbers. -/
def Fresh (s : Transport) : Prop :=
  ∀ id, s.next ≤ id → s.tasks.get? id = none

/-- Every task is moved once at most. -/
structure TasksMove (spec : IbConnectionSpec) (s s' : Transport) : Prop where
  moves : ∀ id, TaskMove spec (s.tasks.get? id) (s'.tasks.get? id)
  fresh : Fresh s'

/-- Only one task is changed. -/
structure OneMoves (spec : IbConnectionSpec) (id : Nat) (s s' : Transport) : Prop where
  others : ∀ id', id' ≠ id → s'.tasks.get? id' = s.tasks.get? id'
  move : TaskMove spec (s.tasks.get? id) (s'.tasks.get? id)
  next : s'.next = s.next

variable {spec : IbConnectionSpec} {s s' : Transport} {id : Nat}

/-- A step that leaves the tasks alone. -/
theorem TasksMove.quiet (hfresh : Fresh s) (htasks : s'.tasks = s.tasks)
    (hnext : s'.next = s.next) : TasksMove spec s s' := by
  constructor
  · intro id
    rw [htasks]
    exact .stays _
  · intro id hge
    rw [hnext] at hge
    rw [htasks, hfresh id hge]

theorem Fresh.lt {task : Task} (hfresh : Fresh s) (hid : s.tasks.get? id = some task) :
    id < s.next := by
  by_contra hge
  rw [hfresh id (Nat.le_of_not_lt hge)] at hid
  cases hid

/-- One more task is changed that was not changed before. -/
theorem TasksMove.one {between : Transport} {task : Task} (h : TasksMove spec s between)
    (hid : between.tasks.get? id = some task) (hsame : s.tasks.get? id = some task)
    (hone : OneMoves spec id between s') : TasksMove spec s s' := by
  constructor
  · intro id'
    by_cases heq : id' = id
    · subst heq
      have hmove := hone.move
      rw [hid, ← hsame] at hmove
      exact hmove
    · rw [hone.others id' heq]
      exact h.moves id'
  · intro id' hge
    rw [hone.next] at hge
    have hne : id' ≠ id := by
      rintro rfl
      rw [h.fresh id' hge] at hid
      cases hid
    rw [hone.others id' hne]
    exact h.fresh id' hge

theorem setPhase_one (hmove : TaskMove spec (s.tasks.get? id) (some ⟨role, phase⟩)) :
    OneMoves spec id s (setPhase s id role phase) where
  others id' hne := Dict.get?_set_of_ne _ hne _
  move := by
    simp only [setPhase, Dict.get?_set_self]
    exact hmove
  next := rfl

theorem tasks_endTask (s : Transport) (id : Nat) (role : Role) :
    (endTask s id role).tasks = s.tasks.pop id ∧ (endTask s id role).next = s.next := by
  cases role <;> exact ⟨rfl, rfl⟩

theorem endTask_one {task : Task} (hid : s.tasks.get? id = some task) (role : Role) :
    OneMoves spec id s (endTask s id role) := by
  obtain ⟨htasks, hnext⟩ := tasks_endTask s id role
  refine ⟨fun id' hne => ?_, ?_, hnext⟩
  · rw [htasks, Dict.get?_pop_of_ne _ hne]
  · rw [htasks, Dict.get?_pop_self, hid]
    exact .ends task

theorem attemptRaised_one {role : Role} (hid : s.tasks.get? id = some ⟨role, .opening⟩)
    (exc : ConnectError) : OneMoves spec id s (attemptRaised spec s id role exc) := by
  unfold attemptRaised
  split_ifs with hgives
  · cases role with
    | connect attempt => exact endTask_one hid _
    | supervise cancelled =>
        obtain ⟨hothers, hmove, hnext⟩ := @endTask_one spec s id _ hid (.supervise cancelled)
        exact ⟨hothers, hmove, hnext⟩
  · refine setPhase_one ?_
    rw [hid]
    exact .retries (by simpa using hgives)

/-! ## Steps -/

/-- A loss of the socket starts a supervisor at most. -/
theorem closeSocket_moves (hfresh : Fresh s) (fires : Bool) :
    TasksMove spec s (closeSocket s fires) ∧ ∀ id task, s.tasks.get? id = some task →
      (closeSocket s fires).tasks.get? id = some task := by
  have hquiet : TasksMove spec s { s with socketUp := false } :=
    .quiet hfresh rfl rfl
  unfold closeSocket fireDisconnected onDisconnected
  dsimp only
  split_ifs
  · exact ⟨hquiet, fun _ _ hid => hid⟩
  · exact ⟨hquiet, fun _ _ hid => hid⟩
  · have hnext := hfresh s.next le_rfl
    refine ⟨⟨fun id => ?_, fun id hge => ?_⟩, fun id task hid => ?_⟩
    · simp only [publishState, setConnected, Dict.get?_set]
      split_ifs with heq
      · subst heq
        rw [hnext]
        exact .supervises
      · exact .stays _
    · have hlt : s.next < id := hge
      simp only [publishState, setConnected, Dict.get?_set_of_ne _ hlt.ne']
      exact hfresh id hlt.le
    · have hne : id ≠ s.next := (hfresh.lt hid).ne
      simp only [publishState, setConnected, Dict.get?_set_of_ne _ hne]
      exact hid
  · exact ⟨hquiet, fun _ _ hid => hid⟩
  · exact ⟨hquiet, fun _ _ hid => hid⟩

/-- The same, after fields that are none of the tasks' have changed. -/
theorem closeSocket_moves_of (hfresh : Fresh s) (htasks : s'.tasks = s.tasks)
    (hnext : s'.next = s.next) (fires : Bool) :
    TasksMove spec s (closeSocket s' fires) ∧ ∀ id task, s.tasks.get? id = some task →
      (closeSocket s' fires).tasks.get? id = some task := by
  have hfresh' : Fresh s' := fun id hge => by
    rw [hnext] at hge
    rw [htasks, hfresh id hge]
  obtain ⟨⟨hmoves, hnew⟩, hkept⟩ := @closeSocket_moves spec s' hfresh' fires
  simp only [htasks] at hmoves hkept
  exact ⟨⟨hmoves, hnew⟩, hkept⟩

theorem cancelAttempt_moves (hfresh : Fresh s) (fires : Bool) (phase : Phase) :
    TasksMove spec s (cancelAttempt s fires phase) ∧ ∀ id task, s.tasks.get? id = some task →
      (cancelAttempt s fires phase).tasks.get? id = some task := by
  cases phase with
  | opening => exact closeSocket_moves hfresh fires
  | _ => exact ⟨.quiet hfresh rfl rfl, fun _ _ hid => hid⟩

theorem startDisconnect_moves (hfresh : Fresh s) : TasksMove spec s (startDisconnect s) := by
  unfold startDisconnect
  cases hfind : s.supervisor.bind fun id => (s.tasks.get? id).map fun task => (id, task) with
  | none => exact .quiet hfresh rfl rfl
  | some found =>
      rcases found with ⟨id, role, phase⟩
      cases role with
      | connect attempt => exact .quiet hfresh rfl rfl
      | supervise cancelled =>
          have hid : s.tasks.get? id = some ⟨.supervise cancelled, phase⟩ := by
            simp only [Option.bind_eq_some_iff, Option.map_eq_some_iff, Prod.mk.injEq] at hfind
            obtain ⟨id', -, task, htask, rfl, rfl⟩ := hfind
            exact htask
          have hquiet : TasksMove spec s { s with closing := true, supervisor := none } :=
            .quiet hfresh rfl rfl
          have hcancel : TasksMove spec s (setPhase { s with closing := true, supervisor := none }
              id (.supervise true) phase) := by
            refine hquiet.one hid hid (setPhase_one ?_)
            dsimp only
            rw [hid]
            exact .cancelRequested cancelled phase
          exact ⟨hcancel.moves, fun id' hge => hcancel.fresh id' (Nat.le_of_succ_le hge)⟩

/-- What one step does to each task. -/
theorem step_moves {l : Label} (hfresh : Fresh s) (hstep : step spec s l = some s') :
    TasksMove spec s s' := by
  -- a task moves after fields that are none of the tasks' have changed
  have hone : ∀ {between t : Transport} {id : Nat} {task : Task}, between.tasks = s.tasks →
      between.next = s.next → s.tasks.get? id = some task → OneMoves spec id between t →
      TasksMove spec s t := by
    intro between t id task htasks hnext hid hmoves
    exact (TasksMove.quiet hfresh htasks hnext).one (by rw [htasks, hid]) hid hmoves
  cases transportStep_move hstep with
  | connect =>
      have hnext := hfresh s.next le_rfl
      refine ⟨fun id => ?_, fun id hge => ?_⟩
      · simp only [Dict.get?_set]
        split_ifs with heq
        · subst heq
          rw [hnext]
          exact .calls
        · exact .stays _
      · have hlt : s.next < id := hge
        simp only [Dict.get?_set_of_ne _ hlt.ne']
        exact hfresh id hlt.le
  | disconnect => exact startDisconnect_moves hfresh
  | disconnectResumes hcall hdone => exact .quiet hfresh rfl rfl
  | @wakes id role hrole =>
      have hid := running_eq_some hrole
      have hmove : ∀ t : Transport, t.tasks = s.tasks → t.next = s.next →
          TasksMove spec s (setPhase t id role .opening) := by
        intro t htasks hnext
        refine hone htasks hnext hid (setPhase_one ?_)
        rw [htasks, hid]
        exact .wakes role
      cases role with
      | connect attempt => exact hmove s rfl rfl
      | supervise cancelled => exact hmove (publishState s .reconnecting) rfl rfl
  | @accountRefused id role accounts _ hrole haccount =>
      have hid := running_eq_some hrole
      obtain ⟨hmoves, hkept⟩ := @closeSocket_moves_of spec s { s with socketUp := true } hfresh
        rfl rfl true
      exact hmoves.one (hkept id _ hid) hid (attemptRaised_one (hkept id _ hid) _)
  | @dataTypeFails id role accounts account exc hrole haccount =>
      have hid := running_eq_some hrole
      refine hone ?_ ?_ hid (attemptRaised_one ?_ _)
      · rfl
      · rfl
      · exact hid
  | @opened id role accounts account hrole haccount =>
      have hid := running_eq_some hrole
      refine hone ?_ ?_ hid (setPhase_one ?_)
      · rfl
      · rfl
      · have hopening : (attachHandlers { s with socketUp := true, account := account }).tasks.get?
            id = some ⟨role, .opening⟩ := hid
        rw [hopening]
        exact .opened role
  | @openFails id role exc messages fires hrole =>
      have hid := running_eq_some hrole
      obtain ⟨hmoves, hkept⟩ := @closeSocket_moves spec s hfresh fires
      exact hmoves.one (hkept id _ hid) hid (attemptRaised_one (hkept id _ hid) _)
  | @skipsSync id role hrole hskip =>
      have hid := running_eq_some hrole
      have hends := @endTask_one spec (setConnected s true) id _ hid role
      have hmoves : TasksMove spec s (endTask (setConnected s true) id role) :=
        @hone (setConnected s true) _ id _ rfl rfl hid hends
      exact ⟨hmoves.moves, hmoves.fresh⟩
  | @reconciled id role hrole hskip =>
      have hid := running_eq_some hrole
      refine hone rfl rfl hid (setPhase_one ?_)
      rw [hid]
      exact .reconciled role
  | @synced id role hrole =>
      have hid := running_eq_some hrole
      have hends := @endTask_one spec (setConnected s true) id _ hid role
      have hmoves : TasksMove spec s (endTask (setConnected s true) id role) :=
        @hone (setConnected s true) _ id _ rfl rfl hid hends
      exact ⟨hmoves.moves, hmoves.fresh⟩
  | @cancelled id role phase fires hid hrole =>
      obtain ⟨hmoves, hkept⟩ := @cancelAttempt_moves spec s hfresh fires phase
      exact hmoves.one (hkept id _ hid) hid (endTask_one (hkept id _ hid) role)
  | socketDrops hup => exact (closeSocket_moves hfresh true).1
  | @errorCode code hattached =>
      have hquiet : (onError s code).tasks = s.tasks ∧ (onError s code).next = s.next := by
        unfold onError
        split
        · exact ⟨rfl, rfl⟩
        · split_ifs <;> exact ⟨rfl, rfl⟩
      exact .quiet hfresh hquiet.1 hquiet.2
  | codeUnheard hdetached => exact .quiet hfresh rfl rfl

/-! ## Histories -/

/-- The reconnect delays of `IbConnectionSpec`, as `__post_init__` lets them through. -/
structure ReconnectDelays where
  initial : Rat
  max : Rat
  initial_pos : 0 < initial
  initial_le : initial ≤ max

/-- The attempts and sleeps of a task so far, and its local variable `delay`. -/
structure History where
  supervises : Bool
  attempts : Nat
  delay : Rat
  sleeps : List Rat

/-- How the history of a task goes on when the task is moved.  `connect()` sleeps for `delay` and
doubles it then; the supervisor doubles it before it sleeps again. -/
def History.advance (delays : ReconnectDelays) (h : History) :
    Option Task → Option Task → History
  | none, some ⟨.connect _, _⟩ => ⟨false, 1, delays.initial, []⟩
  | none, some ⟨.supervise _, _⟩ => ⟨true, 0, delays.initial, [delays.initial]⟩
  | some ⟨_, .sleeping⟩, some ⟨_, .opening⟩ => { h with attempts := h.attempts + 1 }
  | some ⟨_, .opening⟩, some ⟨.connect _, .sleeping⟩ =>
      { h with
        sleeps := h.sleeps ++ [h.delay]
        delay := min (h.delay * 2) delays.max }
  | some ⟨_, .opening⟩, some ⟨.supervise _, .sleeping⟩ =>
      { h with
        sleeps := h.sleeps ++ [min (h.delay * 2) delays.max]
        delay := min (h.delay * 2) delays.max }
  | _, _ => h

/-- The transport, and the history of each task. -/
structure PacedTransport where
  transport : Transport
  histories : Nat → History

def pacedStep (spec : IbConnectionSpec) (delays : ReconnectDelays) (s : PacedTransport)
    (l : Label) : Option PacedTransport :=
  (step spec s.transport l).map fun t =>
    ⟨t, fun id => (s.histories id).advance delays (s.transport.tasks.get? id) (t.tasks.get? id)⟩

def pacedMachine (spec : IbConnectionSpec) (delays : ReconnectDelays) :
    Machine PacedTransport Label where
  init := ⟨.init spec, fun _ => ⟨false, 0, delays.initial, []⟩⟩
  step := pacedStep spec delays

/-- The delay after `n` sleeps. -/
def ReconnectDelays.nth (delays : ReconnectDelays) (n : Nat) : Rat :=
  Backoff.delay delays.initial delays.max n

theorem ReconnectDelays.nth_zero (delays : ReconnectDelays) : delays.nth 0 = delays.initial :=
  Backoff.delay_zero delays.initial_le

theorem ReconnectDelays.nth_succ (delays : ReconnectDelays) (n : Nat) :
    min (delays.nth n * 2) delays.max = delays.nth (n + 1) :=
  Backoff.min_two_mul_delay (delays.initial_pos.le.trans delays.initial_le) n

/-! ## What holds of every history -/

/-- The sleeps double up to the cap, a `connect()` has no more tries than allowed, and between
two attempts is one sleep. -/
structure Paced (spec : IbConnectionSpec) (delays : ReconnectDelays) (h : History) : Prop where
  sleeps : h.sleeps = (List.range h.sleeps.length).map delays.nth
  connect : h.supervises = false → h.attempts ≤ spec.connectAttempts ∧
    (h.attempts = h.sleeps.length + 1 ∨ h.attempts = h.sleeps.length)
  supervise : h.supervises = true →
    h.sleeps.length = h.attempts + 1 ∨ h.sleeps.length = h.attempts

/-- What the history of a living task says of it. -/
structure Tracks (spec : IbConnectionSpec) (delays : ReconnectDelays) (h : History) (role : Role)
    (phase : Phase) : Prop where
  connect : ∀ attempt, role = .connect attempt → h.supervises = false ∧
    attempt ≤ spec.connectAttempts ∧ attempt = h.sleeps.length + 1 ∧
    h.attempts + (if phase = .sleeping then 1 else 0) = attempt ∧
    h.delay = delays.nth h.sleeps.length
  supervise : ∀ cancelled, role = .supervise cancelled → h.supervises = true ∧
    h.attempts + (if phase = .sleeping then 1 else 0) = h.sleeps.length ∧
    ∃ n, h.sleeps.length = n + 1 ∧ h.delay = delays.nth n

/-- A living task is tracked by its history. -/
structure PacedInv (spec : IbConnectionSpec) (delays : ReconnectDelays) (s : PacedTransport) :
    Prop where
  fresh : Fresh s.transport
  paced : ∀ id, Paced spec delays (s.histories id)
  tracks : ∀ id role phase, s.transport.tasks.get? id = some ⟨role, phase⟩ →
    Tracks spec delays (s.histories id) role phase

/-- One more delay. -/
theorem range_map_succ (delays : ReconnectDelays) {sleeps : List Rat} {d : Rat}
    (h : sleeps = (List.range sleeps.length).map delays.nth) (hd : d = delays.nth sleeps.length) :
    sleeps ++ [d] = (List.range (sleeps ++ [d]).length).map delays.nth := by
  rw [List.length_append, List.length_singleton, List.range_succ, List.map_append, ← h, hd]
  rfl

/-- A task that is not moved has no new history. -/
theorem History.advance_self (delays : ReconnectDelays) (h : History) (task : Option Task) :
    h.advance delays task task = h := by
  rcases task with _ | ⟨role, phase⟩
  · rfl
  · cases role <;> cases phase <;> rfl

/-- A move to the next await keeps what is tracked. -/
theorem Tracks.awake {spec : IbConnectionSpec} {delays : ReconnectDelays} {h : History}
    {role : Role} {before after : Phase} (ht : Tracks spec delays h role before)
    (hbefore : before ≠ .sleeping) (hafter : after ≠ .sleeping) :
    Tracks spec delays h role after := by
  constructor
  · intro attempt hrole
    have hconnect := ht.connect attempt hrole
    rw [if_neg hbefore] at hconnect
    rw [if_neg hafter]
    exact hconnect
  · intro cancelled hrole
    have hsupervise := ht.supervise cancelled hrole
    rw [if_neg hbefore] at hsupervise
    rw [if_neg hafter]
    exact hsupervise

/-- The sleep of a task ends. -/
theorem Paced.wakes {spec : IbConnectionSpec} {delays : ReconnectDelays} {h : History}
    {role : Role} (hpaced : Paced spec delays h) (ht : Tracks spec delays h role .sleeping) :
    Paced spec delays { h with attempts := h.attempts + 1 } ∧
      Tracks spec delays { h with attempts := h.attempts + 1 } role .opening := by
  cases role with
  | connect attempt =>
      obtain ⟨hkind, hle, hlength, hattempts, hdelay⟩ := ht.connect attempt rfl
      rw [if_pos rfl] at hattempts
      refine ⟨⟨hpaced.sleeps, fun _ => ?_, fun hother => ?_⟩, ⟨fun attempt' hrole => ?_, ?_⟩⟩
      · dsimp only
        omega
      · rw [hkind] at hother
        cases hother
      · cases hrole
        refine ⟨hkind, hle, hlength, ?_, hdelay⟩
        rw [if_neg (by decide)]
        exact hattempts
      · intro cancelled hrole
        cases hrole
  | supervise cancelled =>
      obtain ⟨hkind, hattempts, hdelay⟩ := ht.supervise cancelled rfl
      rw [if_pos rfl] at hattempts
      refine ⟨⟨hpaced.sleeps, fun hother => ?_, fun _ => Or.inr hattempts.symm⟩, ⟨?_, ?_⟩⟩
      · rw [hkind] at hother
        cases hother
      · intro attempt hrole
        cases hrole
      · intro cancelled' hrole
        refine ⟨hkind, ?_, hdelay⟩
        rw [if_neg (by decide)]
        exact hattempts

/-- A task that failed goes to sleep. -/
theorem Paced.retries {spec : IbConnectionSpec} {delays : ReconnectDelays} {h : History}
    {role : Role} {exc : ConnectError} (hpaced : Paced spec delays h)
    (ht : Tracks spec delays h role .opening) (hgoes : givesUp spec role exc = false) :
    Paced spec delays
        (h.advance delays (some ⟨role, .opening⟩) (some ⟨role.retry, .sleeping⟩)) ∧
      Tracks spec delays
        (h.advance delays (some ⟨role, .opening⟩) (some ⟨role.retry, .sleeping⟩))
        role.retry .sleeping := by
  cases role with
  | connect attempt =>
      obtain ⟨hkind, hle, hlength, hattempts, hdelay⟩ := ht.connect attempt rfl
      rw [if_neg (by decide)] at hattempts
      have hless : attempt < spec.connectAttempts := by
        simp only [givesUp, Bool.or_eq_false_iff, decide_eq_false_iff_not] at hgoes
        exact Nat.lt_of_not_le hgoes.2
      refine ⟨⟨range_map_succ delays hpaced.sleeps hdelay, fun _ => ?_, fun hother => ?_⟩, ?_, ?_⟩
      · simp only [History.advance, Role.retry, List.length_append, List.length_singleton]
        omega
      · have hsame : h.supervises = true := hother
        rw [hkind] at hsame
        cases hsame
      · intro attempt' hrole
        cases hrole
        simp only [History.advance, Role.retry, List.length_append, List.length_singleton, if_true]
        refine ⟨hkind, hless, by omega, by omega, ?_⟩
        rw [hdelay, delays.nth_succ]
      · intro cancelled hrole
        cases hrole
  | supervise cancelled =>
      obtain ⟨hkind, hattempts, n, hlength, hdelay⟩ := ht.supervise cancelled rfl
      rw [if_neg (by decide)] at hattempts
      have hnext : min (h.delay * 2) delays.max = delays.nth h.sleeps.length := by
        rw [hdelay, delays.nth_succ, hlength]
      refine ⟨⟨range_map_succ delays hpaced.sleeps hnext, fun hother => ?_, fun _ => ?_⟩, ?_, ?_⟩
      · have hsame : h.supervises = false := hother
        rw [hkind] at hsame
        cases hsame
      · simp only [History.advance, Role.retry, List.length_append, List.length_singleton]
        omega
      · intro attempt hrole
        cases hrole
      · intro cancelled' hrole
        simp only [History.advance, Role.retry, List.length_append, List.length_singleton, if_true]
        exact ⟨hkind, by omega, h.sleeps.length, rfl, hnext⟩

/-- A move keeps the history paced, and true to the task. -/
theorem Paced.advance {spec : IbConnectionSpec} {delays : ReconnectDelays} {h : History}
    {before after : Option Task} (hpaced : Paced spec delays h)
    (htracks : ∀ role phase, before = some ⟨role, phase⟩ → Tracks spec delays h role phase)
    (hmove : TaskMove spec before after) :
    Paced spec delays (h.advance delays before after) ∧
      ∀ role phase, after = some ⟨role, phase⟩ →
        Tracks spec delays (h.advance delays before after) role phase := by
  cases hmove with
  | stays task =>
      rw [History.advance_self]
      exact ⟨hpaced, htracks⟩
  | calls =>
      have hone := spec.connectAttempts_pos
      refine ⟨⟨rfl, fun _ => ⟨hone, Or.inl rfl⟩, fun hother => by cases hother⟩, ?_⟩
      rintro role phase ⟨⟩
      refine ⟨fun attempt hrole => ?_, fun cancelled hrole => by cases hrole⟩
      cases hrole
      exact ⟨rfl, hone, rfl, rfl, delays.nth_zero.symm⟩
  | supervises =>
      refine ⟨⟨?_, fun hother => (by cases hother), fun _ => Or.inl rfl⟩, ?_⟩
      · simp [History.advance, delays.nth_zero]
      · rintro role phase ⟨⟩
        refine ⟨fun attempt hrole => (by cases hrole), fun cancelled hrole => ?_⟩
        exact ⟨rfl, rfl, 0, rfl, delays.nth_zero.symm⟩
  | wakes role =>
      obtain ⟨hlater, ht⟩ := hpaced.wakes (htracks role .sleeping rfl)
      refine ⟨hlater, ?_⟩
      rintro role' phase' ⟨⟩
      exact ht
  | opened role =>
      have hsame : h.advance delays (some ⟨role, .opening⟩) (some ⟨role, .reconciling⟩) = h := by
        cases role <;> rfl
      rw [hsame]
      refine ⟨hpaced, ?_⟩
      rintro role' phase' ⟨⟩
      exact (htracks role .opening rfl).awake (by decide) (by decide)
  | reconciled role =>
      have hsame : h.advance delays (some ⟨role, .reconciling⟩) (some ⟨role, .syncing⟩) = h := by
        cases role <;> rfl
      rw [hsame]
      refine ⟨hpaced, ?_⟩
      rintro role' phase' ⟨⟩
      exact (htracks role .reconciling rfl).awake (by decide) (by decide)
  | @retries role exc hgoes =>
      obtain ⟨hlater, ht⟩ := hpaced.retries (htracks role .opening rfl) hgoes
      refine ⟨hlater, ?_⟩
      rintro role' phase' ⟨⟩
      exact ht
  | cancelRequested cancelled phase =>
      have ht := htracks (.supervise cancelled) phase rfl
      have hsame : h.advance delays (some ⟨.supervise cancelled, phase⟩)
          (some ⟨.supervise true, phase⟩) = h := by
        cases phase <;> rfl
      rw [hsame]
      refine ⟨hpaced, ?_⟩
      rintro role' phase' ⟨⟩
      exact ⟨fun attempt hrole => (by cases hrole), fun _ _ => ht.supervise cancelled rfl⟩
  | ends task =>
      have hsame : h.advance delays (some task) none = h := by
        rcases task with ⟨role, phase⟩
        cases phase <;> rfl
      rw [hsame]
      exact ⟨hpaced, fun role phase hnone => by cases hnone⟩

/-- Every step keeps the histories paced. -/
theorem PacedInv.step {spec : IbConnectionSpec} {delays : ReconnectDelays} {s s' : PacedTransport}
    {l : Label} (h : PacedInv spec delays s) (hstep : pacedStep spec delays s l = some s') :
    PacedInv spec delays s' := by
  obtain ⟨t, ht, rfl⟩ := Option.map_eq_some_iff.1 hstep
  obtain ⟨hmoves, hfresh⟩ := step_moves h.fresh ht
  have hadvanced := fun id => (h.paced id).advance (h.tracks id) (hmoves id)
  exact ⟨hfresh, fun id => (hadvanced id).1, fun id => (hadvanced id).2⟩

theorem pacedInv_init (spec : IbConnectionSpec) (delays : ReconnectDelays) :
    PacedInv spec delays (pacedMachine spec delays).init := by
  refine ⟨fun id _ => rfl, fun id => ⟨rfl, fun _ => ⟨Nat.zero_le _, Or.inr rfl⟩, fun h => ?_⟩,
    fun id role phase hid => ?_⟩
  · cases h
  · cases hid

/-! ## Giving up -/

/-- The attempt that raises in a step, and what it raises. -/
def raisedIn (spec : IbConnectionSpec) : Label → Option (Nat × ConnectError)
  | .opened id accounts dataTypeRaises =>
      if resolveAccount spec.accountId accounts = none then some (id, .accountConfig)
      else dataTypeRaises.map fun exc => (id, exc)
  | .openFails id exc apiMessages _ => some (id, openSocketError exc apiMessages)
  | _ => none

/-- After an attempt raised, its task has ended or sleeps. -/
theorem attemptRaised_ends_iff (spec : IbConnectionSpec) (s : Transport) (id : Nat) (role : Role)
    (exc : ConnectError) :
    (attemptRaised spec s id role exc).tasks.get? id = none ↔ givesUp spec role exc = true := by
  unfold attemptRaised
  split_ifs with hgives
  · have hpopped := (tasks_endTask s id role).1
    refine iff_of_true ?_ hgives
    cases role with
    | connect attempt => rw [hpopped, Dict.get?_pop_self]
    | supervise cancelled =>
        have hended : (publishState (endTask s id (.supervise cancelled)) .disconnected).tasks =
            (endTask s id (.supervise cancelled)).tasks := rfl
        rw [hended, hpopped, Dict.get?_pop_self]
  · refine iff_of_false ?_ hgives
    simp [setPhase]

/-- The task whose attempt raises was trying to open the socket; it gives up or sleeps. -/
theorem raisedIn_ends_iff {spec : IbConnectionSpec} {s s' : Transport} {l : Label} {id : Nat}
    {exc : ConnectError} (hstep : Ib.step spec s l = some s')
    (hraised : raisedIn spec l = some (id, exc)) :
    ∃ role, s.tasks.get? id = some ⟨role, .opening⟩ ∧
      (s'.tasks.get? id = none ↔ givesUp spec role exc = true) := by
  cases transportStep_move hstep with
  | @accountRefused id' role accounts _ hrole haccount =>
      simp only [raisedIn, haccount, if_true, Option.some.injEq, Prod.mk.injEq] at hraised
      obtain ⟨rfl, rfl⟩ := hraised
      exact ⟨role, running_eq_some hrole, attemptRaised_ends_iff ..⟩
  | @dataTypeFails id' role accounts account exc' hrole haccount =>
      simp only [raisedIn, haccount, reduceCtorEq, if_false, Option.map_some, Option.some.injEq,
        Prod.mk.injEq] at hraised
      obtain ⟨rfl, rfl⟩ := hraised
      exact ⟨role, running_eq_some hrole, attemptRaised_ends_iff ..⟩
  | opened hrole haccount => simp [raisedIn, haccount] at hraised
  | @openFails id' role exc' messages fires hrole =>
      simp only [raisedIn, Option.some.injEq, Prod.mk.injEq] at hraised
      obtain ⟨rfl, rfl⟩ := hraised
      exact ⟨role, running_eq_some hrole, attemptRaised_ends_iff ..⟩
  | _ => cases hraised

/-- In every run: the sleeps of a task double up to the cap, with one attempt after each; a
`connect()` makes no more attempts than allowed, and raises the error of an attempt exactly when
the error is not retryable or no attempt is left; a supervisor gives up only for an error of the
account or of the version. -/
theorem connect_pacing (spec : IbConnectionSpec) (delays : ReconnectDelays) {s : PacedTransport}
    (hreach : (pacedMachine spec delays).Reachable s) :
    (∀ id, Paced spec delays (s.histories id)) ∧
      ∀ l s' id exc, (pacedMachine spec delays).step s l = some s' →
        raisedIn spec l = some (id, exc) →
        (s'.transport.tasks.get? id = none ↔
          if (s.histories id).supervises then exc = .accountConfig ∨ exc = .versionIncompatible
          else isRetryableConnectError exc = false ∨
            (s.histories id).attempts = spec.connectAttempts) := by
  have hinv : PacedInv spec delays s :=
    Machine.invariant_reachable _ (pacedInv_init spec delays) (fun _ _ _ h hstep => h.step hstep)
      hreach
  refine ⟨hinv.paced, fun l s' id exc hstep hraised => ?_⟩
  obtain ⟨t, ht, rfl⟩ := Option.map_eq_some_iff.1 hstep
  obtain ⟨role, hid, hends⟩ := raisedIn_ends_iff ht hraised
  have htracks := hinv.tracks id role .opening hid
  rw [hends]
  cases role with
  | connect attempt =>
      obtain ⟨hkind, hle, hlength, hattempts, hdelay⟩ := htracks.connect attempt rfl
      rw [if_neg (by decide), Nat.add_zero] at hattempts
      rw [hkind, hattempts]
      simp only [givesUp, Bool.or_eq_true, Bool.not_eq_true', decide_eq_true_eq,
        Bool.false_eq_true, if_false]
      exact or_congr_right ⟨fun h => Nat.le_antisymm hle h, fun h => h.ge⟩
  | supervise cancelled =>
      obtain ⟨hkind, -⟩ := htracks.supervise cancelled rfl
      rw [hkind]
      simp [givesUp]

theorem second_pos : (0 : Rat) < 1 := by
  decide

/-- The default delays. -/
def ReconnectDelays.default : ReconnectDelays where
  initial := 1
  max := 60
  initial_pos := second_pos
  initial_le := by decide

/-- A `connect()` that timed out once sleeps, and tries again. -/
theorem connect_pacing_timeout :
    ∃ s, (pacedMachine .default .default).run (pacedMachine .default .default).init
        [.connect, .openFails 0 .timeout [] false, .wakes 0] = some s ∧
      (∀ id, Paced .default .default (s.histories id)) ∧
      ∀ l s' id exc, (pacedMachine .default .default).step s l = some s' →
        raisedIn .default l = some (id, exc) →
        (s'.transport.tasks.get? id = none ↔
          if (s.histories id).supervises then exc = .accountConfig ∨ exc = .versionIncompatible
          else isRetryableConnectError exc = false ∨ (s.histories id).attempts = 3) := by
  have hrun : ∃ s, (pacedMachine .default .default).run (pacedMachine .default .default).init
      [.connect, .openFails 0 .timeout [] false, .wakes 0] = some s := ⟨_, rfl⟩
  obtain ⟨s, hs⟩ := hrun
  exact ⟨s, hs, connect_pacing .default .default ⟨_, hs⟩⟩

end Ib
end MarketConnector
