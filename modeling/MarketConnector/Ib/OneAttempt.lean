import MarketConnector.Ib.FailedConnect

/-!
# Ib - One connection attempt at a time

A `connect()` and the reconnect supervisor both run attempts on the one IB object.  The drop
handler starts no supervisor beside a running `connect()` or a live supervisor; `connect()`
itself looks at neither.

Main results:

- Theorem `SingleTask.attemptStep`: as long as `connect()` is only called when nothing runs, there
  is one task at most.
- Theorem `oneAttempt_of_idle`: then one attempt is in progress at most, one supervisor is
  alive at most, and none after a successful `connect()` until the socket drops.
- Theorem `connect_beside_supervisor`: a `connect()` while a supervisor sleeps.
-/

namespace MarketConnector
namespace Ib

open Foundations

/-! ## The property -/

/-- The transport, and whether a `connect()` has returned successfully since the socket last
dropped. -/
structure SettledTransport where
  transport : Transport
  settled : Bool

/-- The flag after a step. -/
def settles (spec : IbConnectionSpec) (s : Transport) (settled : Bool) : AttemptLabel → Bool
  | .base .socketDrops => false
  | l => completes spec s false l || settled

def settledStep (spec : IbConnectionSpec) (s : SettledTransport) (l : AttemptLabel) :
    Option SettledTransport :=
  (attemptStep spec s.transport l).map fun t => ⟨t, settles spec s.transport s.settled l⟩

def settledMachine (spec : IbConnectionSpec) : Machine SettledTransport AttemptLabel where
  init := ⟨.init spec, false⟩
  step := settledStep spec

def Role.isSupervisor : Role → Bool
  | .connect _ => false
  | .supervise _ => true

/-- `_connect_once` is in progress once at most, one supervisor is alive at most, and none
while the session of a `connect()` lasts. -/
structure OneAttempt (s : SettledTransport) : Prop where
  attempts : (s.transport.tasks.values.countP fun task => task.phase ≠ .sleeping) ≤ 1
  supervisors : (s.transport.tasks.values.countP fun task => task.role.isSupervisor) ≤ 1
  settled : s.settled = true → ∀ task ∈ s.transport.tasks.values, task.role.isSupervisor = false

/-- The user calls `connect()` only while no `connect()` runs and no supervisor is alive. -/
def ConnectsIdle (s : SettledTransport) : AttemptLabel → Prop
  | .base .connect | .connectRaises _ => s.transport.tasks = ∅
  | _ => True

/-! ## One task -/

/-- What keeps the drop handler from starting a supervisor beside a task. -/
def HoldsBack (s : Transport) (id : Nat) : Role → Prop
  | .connect _ => s.connecting = true
  | .supervise false => s.supervisor = some id
  | .supervise true => s.closing = true

/-- The role a task may have. -/
structure Allowed (settled : Bool) (s : Transport) (id : Nat) (role : Role) : Prop where
  heldBack : HoldsBack s id role
  calm : settled = true → role.isSupervisor = false

/-- There is one task at most, the drop handler knows of it, and it is no supervisor while
the session of a `connect()` lasts. -/
structure SingleTask (settled : Bool) (s : Transport) : Prop where
  one : ∀ id task id' task', s.tasks.get? id = some task → s.tasks.get? id' = some task' → id = id'
  allowed : ∀ id task, s.tasks.get? id = some task → Allowed settled s id task.role

/-- The fields the tasks depend on. -/
structure SameTasks (s s' : Transport) : Prop where
  tasks : s'.tasks = s.tasks
  connecting : s'.connecting = s.connecting
  closing : s'.closing = s.closing
  supervisor : s'.supervisor = s.supervisor

theorem HoldsBack.congr {s s' : Transport} {id : Nat} {role : Role} (hheld : HoldsBack s id role)
    (h : SameTasks s s') : HoldsBack s' id role := by
  cases role with
  | connect attempt => exact h.connecting.trans hheld
  | supervise cancelled =>
      cases cancelled with
      | false => exact h.supervisor.trans hheld
      | true => exact h.closing.trans hheld

/-- The next try of a task is as good as the last. -/
theorem Allowed.retry {settled : Bool} {s : Transport} {id : Nat} {role : Role}
    (h : Allowed settled s id role) : Allowed settled s id role.retry := by
  cases role with
  | connect attempt => exact ⟨h.heldBack, h.calm⟩
  | supervise cancelled => exact h

theorem SingleTask.of_no_task {settled : Bool} {s : Transport}
    (h : ∀ id, s.tasks.get? id = none) : SingleTask settled s where
  one id task id' task' hid := by
    rw [h] at hid
    cases hid
  allowed id task hid := by
    rw [h] at hid
    cases hid

/-- The only task is the one in `id`. -/
theorem SingleTask.of_set {settled : Bool} {s s' : Transport} {id : Nat} {role : Role}
    {phase : Phase} (htasks : s'.tasks = s.tasks.set id ⟨role, phase⟩)
    (hothers : ∀ id' task', s.tasks.get? id' = some task' → id' = id)
    (hallowed : Allowed settled s' id role) : SingleTask settled s' := by
  have honly : ∀ id' task', s'.tasks.get? id' = some task' → id' = id ∧ task' = ⟨role, phase⟩ := by
    intro id' task' hid'
    rw [htasks, Dict.get?_set] at hid'
    split_ifs at hid' with heq
    · cases hid'
      exact ⟨heq, rfl⟩
    · exact absurd (hothers id' task' hid') heq
  refine ⟨fun id₁ task₁ id₂ task₂ h₁ h₂ => ?_, fun id' task' hid' => ?_⟩
  · exact (honly id₁ task₁ h₁).1.trans (honly id₂ task₂ h₂).1.symm
  · obtain ⟨rfl, rfl⟩ := honly id' task' hid'
    exact hallowed

theorem SingleTask.congr {settled : Bool} {s s' : Transport} (h : SingleTask settled s)
    (hsame : SameTasks s s') : SingleTask settled s' where
  one id task id' task' hid hid' := by
    rw [hsame.tasks] at hid hid'
    exact h.one id task id' task' hid hid'
  allowed id task hid := by
    rw [hsame.tasks] at hid
    have hallowed := h.allowed id task hid
    exact ⟨hallowed.heldBack.congr hsame, hallowed.calm⟩

/-- The only task changes its phase or its try. -/
theorem SingleTask.setPhase {settled : Bool} {s : Transport} (h : SingleTask settled s) {id : Nat}
    {task : Task} (hid : s.tasks.get? id = some task) {role : Role}
    (hallowed : Allowed settled s id role) (phase : Phase) :
    SingleTask settled (Ib.setPhase s id role phase) := by
  refine .of_set rfl (fun id' task' hid' => h.one id' task' id task hid' hid) ?_
  refine ⟨?_, hallowed.calm⟩
  have hheld := hallowed.heldBack
  cases role with
  | connect attempt => exact hheld
  | supervise cancelled =>
      cases cancelled with
      | false => exact hheld
      | true => exact hheld

/-- The only task ends. -/
theorem SingleTask.endTask {settled : Bool} {s : Transport} (h : SingleTask settled s) {id : Nat}
    {task : Task} (hid : s.tasks.get? id = some task) (role : Role) :
    ∀ id', (Ib.endTask s id role).tasks.get? id' = none := by
  intro id'
  have hpop : (Ib.endTask s id role).tasks = s.tasks.pop id := by
    cases role <;> rfl
  rw [hpop, Dict.get?_pop]
  split_ifs with heq
  · rfl
  · by_contra hne
    obtain ⟨task', hid'⟩ := Option.ne_none_iff_exists'.1 hne
    exact heq (h.one id' task' id task hid' hid)

/-- While there is a task, a closed or lost socket goes unheard. -/
theorem SingleTask.unheard {settled : Bool} {s : Transport} (h : SingleTask settled s) {id : Nat}
    {task : Task} (hid : s.tasks.get? id = some task) : handles s = false := by
  have hheld := (h.allowed id task hid).heldBack
  unfold handles
  rcases task with ⟨role, phase⟩
  cases role with
  | connect attempt =>
      have hconnecting : s.connecting = true := hheld
      simp [hconnecting]
  | supervise cancelled =>
      cases cancelled with
      | false =>
          have hsupervisor : s.supervisor = some id := hheld
          simp [supervisorAlive, hsupervisor, hid]
      | true =>
          have hclosing : s.closing = true := hheld
          simp [hclosing]

theorem SingleTask.sameTasks_closeSocket {settled : Bool} {s : Transport}
    (h : SingleTask settled s) {id : Nat} {task : Task} (hid : s.tasks.get? id = some task)
    (fires : Bool) : SameTasks s (closeSocket s fires) := by
  have hunheard : (fires && handles s) = false := by simp [h.unheard hid]
  rw [closeSocket_of_unheard hunheard]
  exact ⟨rfl, rfl, rfl, rfl⟩

/-- An attempt raises: its task sleeps or ends. -/
theorem SingleTask.attemptRaised {spec : IbConnectionSpec} {settled : Bool} {s : Transport}
    (h : SingleTask settled s) {id : Nat} {role : Role} {phase : Phase}
    (hid : s.tasks.get? id = some ⟨role, phase⟩) (exc : ConnectError) :
    SingleTask settled (Ib.attemptRaised spec s id role exc) := by
  unfold Ib.attemptRaised
  split_ifs
  · cases role with
    | connect attempt => exact .of_no_task (h.endTask hid _)
    | supervise cancelled => exact .of_no_task (h.endTask hid _)
  · exact h.setPhase hid (h.allowed id _ hid).retry _

/-- The same, once the socket was closed. -/
theorem SingleTask.raised_congr {spec : IbConnectionSpec} {settled : Bool} {s s' : Transport}
    (h : SingleTask settled s) (hsame : SameTasks s s') {id : Nat} {role : Role} {phase : Phase}
    (hid : s.tasks.get? id = some ⟨role, phase⟩) (exc : ConnectError) :
    SingleTask settled (Ib.attemptRaised spec s' id role exc) := by
  have hid' : s'.tasks.get? id = some ⟨role, phase⟩ := by rw [hsame.tasks, hid]
  exact (h.congr hsame).attemptRaised hid' exc

/-- The sleep before an attempt ends. -/
theorem SingleTask.wake {settled : Bool} {s : Transport} (h : SingleTask settled s) {id : Nat}
    {role : Role} {phase : Phase} (hid : s.tasks.get? id = some ⟨role, phase⟩) :
    SingleTask settled (Ib.wake s id role) := by
  have hallowed := h.allowed id _ hid
  cases role with
  | connect attempt => exact h.setPhase hid hallowed .opening
  | supervise cancelled =>
      exact (h.setPhase hid hallowed .opening).congr ⟨rfl, rfl, rfl, rfl⟩

/-! ## Steps -/

/-- An event that is not ignored stores the supervisor it starts. -/
theorem fireDisconnected_supervisor {s : Transport} (h : handles s = true) :
    (fireDisconnected s).supervisor = some s.next := by
  simp only [handles, Bool.and_eq_true, Bool.not_eq_true'] at h
  obtain ⟨⟨⟨hattached, hclosing⟩, hconnecting⟩, halive⟩ := h
  simp [fireDisconnected, onDisconnected, hattached, hclosing, hconnecting, halive,
    publishState, setConnected]

/-- The socket drops: a supervisor is started when nothing runs. -/
theorem SingleTask.socketDrops {settled : Bool} {s : Transport} (h : SingleTask settled s) :
    SingleTask false (closeSocket s true) := by
  have hforget : SingleTask false { s with socketUp := false } :=
    ⟨h.one, fun id task hid => ⟨(h.allowed id task hid).heldBack.congr ⟨rfl, rfl, rfl, rfl⟩,
      fun hsettled => by cases hsettled⟩⟩
  cases hheard : handles { s with socketUp := false } with
  | false =>
      have hkept : closeSocket s true = { s with socketUp := false } :=
        fireDisconnected_of_not_handles hheard
      rw [hkept]
      exact hforget
  | true =>
      have hnone : ∀ id task, s.tasks.get? id = some task → id = s.next := by
        intro id task hid
        cases hheard.symm.trans (hforget.unheard hid)
      have htasks : (closeSocket s true).tasks = s.tasks.set s.next ⟨.supervise false, .sleeping⟩ :=
        (fireDisconnected_of_handles hheard).2.2
      have hsupervisor : (closeSocket s true).supervisor = some s.next :=
        fireDisconnected_supervisor hheard
      exact .of_set htasks hnone ⟨hsupervisor, fun hsettled => by cases hsettled⟩

/-- A `disconnect()` starts: a live supervisor is told to stop. -/
theorem SingleTask.startDisconnect {settled : Bool} {s : Transport} (h : SingleTask settled s) :
    SingleTask settled (Ib.startDisconnect s) := by
  rcases startDisconnect_cases s with heq | ⟨id, cancelled, phase, hid, heq⟩
  · rw [heq]
    refine ⟨h.one, fun id task hid => ⟨?_, (h.allowed id task hid).calm⟩⟩
    have hheld := (h.allowed id task hid).heldBack
    rcases task with ⟨role, phase⟩
    cases role with
    | connect attempt => exact hheld
    | supervise cancelled =>
        cases cancelled with
        | true => rfl
        | false =>
            have hsupervisor : s.supervisor = some id := hheld
            have htask : s.tasks.get? id = some ⟨.supervise false, phase⟩ := hid
            have hstopped : (Ib.startDisconnect s).tasks.get? id =
                some ⟨.supervise true, phase⟩ := by
              simp [Ib.startDisconnect, hsupervisor, htask, Ib.setPhase]
            rw [heq] at hstopped
            cases htask.symm.trans hstopped
  · rw [heq]
    refine .of_set rfl (fun id' task' hid' => h.one id' task' id _ hid' hid) ⟨rfl, ?_⟩
    exact (h.allowed id _ hid).calm

theorem sameTasks_onError (s : Transport) (code : Int) : SameTasks s (onError s code) := by
  unfold onError
  split
  · exact ⟨rfl, rfl, rfl, rfl⟩
  · split_ifs <;> exact ⟨rfl, rfl, rfl, rfl⟩

/-- Every step of the transport but a drop keeps the one task, as long as `connect()` is only
called when nothing runs. -/
theorem SingleTask.transportStep {spec : IbConnectionSpec} {settled : Bool} {s s' : Transport}
    {l : Label} (h : SingleTask settled s) (hidle : l = .connect → s.tasks = ∅)
    (hdrop : l ≠ .socketDrops) (hstep : Ib.step spec s l = some s') : SingleTask settled s' := by
  have hrun : ∀ {id phase role}, running s id phase = some role →
      s.tasks.get? id = some ⟨role, phase⟩ := running_eq_some
  have hup : SingleTask settled (setConnected s true) := h.congr ⟨rfl, rfl, rfl, rfl⟩
  cases transportStep_move hstep with
  | connect =>
      refine .of_set (s := s) rfl (fun id' task' hid' => ?_) ⟨rfl, fun _ => rfl⟩
      rw [hidle rfl] at hid'
      cases hid'
  | disconnect => exact h.startDisconnect
  | disconnectResumes hcall hdone => exact h.congr ⟨rfl, rfl, rfl, rfl⟩
  | wakes hrole => exact h.wake (hrun hrole)
  | @accountRefused id role accounts _ hrole haccount =>
      have hopen : SingleTask settled { s with socketUp := true } := h.congr ⟨rfl, rfl, rfl, rfl⟩
      have hclosed := hopen.sameTasks_closeSocket (hrun hrole) true
      exact hopen.raised_congr hclosed (hrun hrole) _
  | @dataTypeFails id role accounts account exc hrole haccount =>
      have hsame : SameTasks s (detachHandlers
          (attachHandlers { s with socketUp := true, account := account })) := ⟨rfl, rfl, rfl, rfl⟩
      exact h.raised_congr hsame (hrun hrole) _
  | opened hrole haccount =>
      have hallowed := h.allowed _ _ (hrun hrole)
      exact (h.setPhase (hrun hrole) hallowed .reconciling).congr ⟨rfl, rfl, rfl, rfl⟩
  | openFails hrole =>
      exact h.raised_congr (h.sameTasks_closeSocket (hrun hrole) _) (hrun hrole) _
  | skipsSync hrole hskip => exact .of_no_task (hup.endTask (hrun hrole) _)
  | reconciled hrole hskip =>
      exact h.setPhase (hrun hrole) (h.allowed _ _ (hrun hrole)) .syncing
  | synced hrole => exact .of_no_task (hup.endTask (hrun hrole) _)
  | @cancelled id role phase fires hid hrole =>
      have hsame : SameTasks s (cancelAttempt s fires phase) := by
        cases phase with
        | opening => exact h.sameTasks_closeSocket hid fires
        | _ => exact ⟨rfl, rfl, rfl, rfl⟩
      have hid' : (cancelAttempt s fires phase).tasks.get? id = some ⟨role, phase⟩ := by
        rw [hsame.tasks, hid]
      exact .of_no_task ((h.congr hsame).endTask hid' role)
  | socketDrops hup => exact absurd rfl hdrop
  | errorCode hattached => exact h.congr (sameTasks_onError s _)
  | codeUnheard hdetached => exact h

/-- A step in which `connect()` returns leaves no task. -/
theorem SingleTask.no_task_of_completes {spec : IbConnectionSpec} {settled : Bool}
    {s s' : Transport} {l : AttemptLabel} (h : SingleTask settled s)
    (hdone : completes spec s false l = true) (hstep : attemptStep spec s l = some s') :
    ∀ id, s'.tasks.get? id = none := by
  have hup : SingleTask settled (setConnected s true) := h.congr ⟨rfl, rfl, rfl, rfl⟩
  cases l with
  | base l =>
      cases transportStep_move hstep with
      | skipsSync hrole hskip => exact hup.endTask (running_eq_some hrole) _
      | synced hrole => exact hup.endTask (running_eq_some hrole) _
      | reconciled hrole hskip =>
          simp only [completes, Bool.and_eq_true] at hdone
          exact absurd hdone.1 hskip
      | _ => cases hdone
  | _ => cases hdone

/-- Every step keeps the one task, as long as `connect()` is only called when nothing runs. -/
theorem SingleTask.attemptStep {spec : IbConnectionSpec} {s t : SettledTransport}
    {l : AttemptLabel} (h : SingleTask s.settled s.transport) (hidle : ConnectsIdle s l)
    (hstep : settledStep spec s l = some t) : SingleTask t.settled t.transport := by
  obtain ⟨s', hs', rfl⟩ := Option.map_eq_some_iff.1 hstep
  by_cases hdrop : l = .base .socketDrops
  · subst hdrop
    have hlost : step spec s.transport .socketDrops = some s' := hs'
    cases transportStep_move hlost with
    | socketDrops hup => exact h.socketDrops
  have hflag : settles spec s.transport s.settled l =
      (completes spec s.transport false l || s.settled) := by
    unfold settles
    split
    · exact absurd rfl hdrop
    · rfl
  have hconnect : (l = .base .connect ∨ ∃ exc, l = .connectRaises exc) → s.transport.tasks = ∅ := by
    rintro (rfl | ⟨exc, rfl⟩) <;> exact hidle
  cases hdone : completes spec s.transport false l with
  | true => exact .of_no_task (h.no_task_of_completes hdone hs')
  | false =>
      simp only [hflag, hdone, Bool.false_or]
      cases l with
      | base l =>
          have hdrop' : l ≠ .socketDrops := fun heq => hdrop (congrArg AttemptLabel.base heq)
          exact h.transportStep (fun heq => hconnect (Or.inl (congrArg _ heq))) hdrop' hs'
      | connectRaises exc =>
          obtain ⟨s₁, hs₁⟩ : ∃ s₁, step spec s.transport .connect = some s₁ := ⟨_, rfl⟩
          have hstarted : SingleTask s.settled s₁ :=
            h.transportStep (fun _ => hconnect (Or.inr ⟨exc, rfl⟩)) Label.noConfusion hs₁
          cases hs₁
          cases hs'
          exact hstarted.attemptRaised (Dict.get?_set_self _ _ _) exc
      | wakesRaises id exc =>
          obtain ⟨role, hrole, rfl⟩ := Option.map_eq_some_iff.1 hs'
          have hid : (Ib.wake s.transport id role).tasks.get? id = some ⟨role, .opening⟩ := by
            cases role <;> exact Dict.get?_set_self _ _ _
          exact (h.wake (running_eq_some hrole)).attemptRaised hid exc
      | readsRaise id exc =>
          obtain ⟨role, hrole, rfl⟩ := Option.map_eq_some_iff.1 hs'
          have hsame : SameTasks s.transport { s.transport with socketUp := true } :=
            ⟨rfl, rfl, rfl, rfl⟩
          exact h.raised_congr hsame (running_eq_some hrole) exc

/-! ## Runs -/

/-- One task at most makes one attempt and one supervisor at most. -/
theorem SingleTask.oneAttempt {s : SettledTransport} (h : SingleTask s.settled s.transport) :
    OneAttempt s := by
  have hsize : s.transport.tasks.values.length ≤ 1 :=
    (List.length_map _).symm ▸ Dict.size_le_one h.one
  refine ⟨Nat.le_trans List.countP_le_length hsize, Nat.le_trans List.countP_le_length hsize, ?_⟩
  intro hsettled task htask
  obtain ⟨id, hid⟩ := s.transport.tasks.mem_values_iff.1 htask
  exact (h.allowed id task hid).calm hsettled

/-- In a run whose `connect()` calls all come while nothing runs, there is one attempt at most,
one supervisor at most, and none between a successful `connect()` and the next drop. -/
theorem oneAttempt_of_idle (spec : IbConnectionSpec) (ls : List AttemptLabel)
    (hidle : (settledMachine spec).AllSteps ConnectsIdle (settledMachine spec).init ls) :
    (settledMachine spec).AllStates OneAttempt (settledMachine spec).init ls := by
  have hkept : ∀ s l s', SingleTask s.settled s.transport → ConnectsIdle s l →
      (settledMachine spec).step s l = some s' → SingleTask s'.settled s'.transport :=
    fun _ _ _ h hidle hstep => h.attemptStep hidle hstep
  refine (settledMachine spec).allStates_of_allSteps hkept (fun _ h => h.oneAttempt) ?_ hidle
  exact .of_no_task fun _ => rfl

/-- A dropped session that the supervisor restores, and a `connect()` after `disconnect()`. -/
theorem oneAttempt_of_drop_and_connect :
    (settledMachine .default).AllStates OneAttempt (settledMachine .default).init
      [.base .connect, .base (.opened 0 [] none), .base (.reconciled 0), .base (.synced 0),
        .base .socketDrops, .base (.wakes 1), .base (.opened 1 [] none), .base .disconnect,
        .base (.cancelled 1 false), .base .connect] := by
  refine oneAttempt_of_idle .default _ ?_
  exact .cons rfl rfl <| .cons rfl trivial <| .cons rfl trivial <| .cons rfl trivial <|
    .cons rfl trivial <| .cons rfl trivial <| .cons rfl trivial <| .cons rfl trivial <|
    .cons rfl trivial <| .cons rfl rfl trivial

/-- A `connect()` while the supervisor of a dropped session sleeps: the sleep ends while the
call opens the socket, so that two attempts run on one IB object; and when the call returns,
the supervisor is still alive. -/
theorem connect_beside_supervisor :
    (∃ s, (settledMachine .default).run (settledMachine .default).init
        [.base .connect, .base (.opened 0 [] none), .base (.reconciled 0), .base (.synced 0),
          .base .socketDrops, .base .connect, .base (.wakes 1)] = some s ∧
      s.transport.tasks.values = [⟨.supervise false, .opening⟩, ⟨.connect 1, .opening⟩] ∧
      ¬ OneAttempt s) ∧
    (∃ s, (settledMachine .default).run (settledMachine .default).init
        [.base .connect, .base (.opened 0 [] none), .base (.reconciled 0), .base (.synced 0),
          .base .socketDrops, .base .connect, .base (.opened 2 [] none), .base (.reconciled 2),
          .base (.synced 2)] = some s ∧
      s.settled = true ∧ s.transport.tasks.values = [⟨.supervise false, .sleeping⟩] ∧
      ¬ OneAttempt s) := by
  refine ⟨⟨_, rfl, rfl, fun h => ?_⟩, ⟨_, rfl, rfl, rfl, fun h => ?_⟩⟩
  · exact absurd h.attempts (by decide)
  · cases h.settled rfl _ (List.mem_singleton.2 rfl)

end Ib
end MarketConnector
