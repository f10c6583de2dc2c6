import MarketConnector.Ib.ConnectPacing

/-!
# Ib - The account orders are placed on

Every successful handshake picks the account from IB's list of managed accounts, and a list that
does not fit the configuration ends the session.

Main results:

- Definition `managedLists`: the lists of managed accounts that were accepted in a run.
- Theorem `AccountInv.step`: the account follows the last accepted list.
- Theorem `account_of_ready`: what the account is when order calls are let through.
-/

namespace MarketConnector
namespace Ib

open Foundations

/-! ## Accepted lists -/

/-- The managed accounts of a handshake, if they fit the configuration. -/
def managedList? (spec : IbConnectionSpec) : Label → Option (List String)
  | .opened _ accounts _ =>
      if (resolveAccount spec.accountId accounts).isSome then some accounts else none
  | _ => none

def managedLists (spec : IbConnectionSpec) (labels : List Label) : List (List String) :=
  labels.filterMap (managedList? spec)

/-- The account a list picks. -/
def accountOf (spec : IbConnectionSpec) : Option (List String) → Option String
  | none => spec.accountId
  | some accounts => (resolveAccount spec.accountId accounts).getD none

/-! ## Before the first accepted list -/

/-- No handshake is done: handlers are detached, and no task is past its handshake. -/
structure Unresolved (s : Transport) : Prop where
  detached : s.handlersAttached = false
  down : s.routerUp = false
  phases : ∀ id role phase, s.tasks.get? id = some ⟨role, phase⟩ →
    phase = .sleeping ∨ phase = .opening

variable {spec : IbConnectionSpec} {s s' : Transport} {id : Nat} {role : Role}

theorem Unresolved.of_tasks (h : Unresolved s)
    (hattached : s'.handlersAttached = s.handlersAttached)
    (hup : s'.routerUp = s.routerUp) (htasks : s'.tasks = s.tasks) : Unresolved s' where
  detached := hattached.trans h.detached
  down := hup.trans h.down
  phases := by
    rw [htasks]
    exact h.phases

theorem Unresolved.setPhase (h : Unresolved s) {phase : Phase}
    (hphase : phase = .sleeping ∨ phase = .opening) : Unresolved (setPhase s id role phase) where
  detached := h.detached
  down := h.down
  phases id' role' phase' hid := by
    simp only [Ib.setPhase, Dict.get?_set] at hid
    split_ifs at hid
    · cases hid
      exact hphase
    · exact h.phases id' role' phase' hid

theorem Unresolved.endTask (h : Unresolved s) : Unresolved (endTask s id role) := by
  have hpop : ∀ id' role' phase, (s.tasks.pop id).get? id' = some ⟨role', phase⟩ →
      phase = .sleeping ∨ phase = .opening :=
    fun id' role' phase hid => h.phases id' role' phase (Dict.get?_of_pop hid)
  cases role <;> exact ⟨h.detached, h.down, hpop⟩

/-- Detached handlers do not hear that the socket is lost. -/
theorem Unresolved.closeSocket (h : Unresolved s) (fires : Bool) :
    Unresolved (closeSocket s fires) := by
  have hunheard : (fires && handles s) = false := by simp [handles, h.detached]
  rw [closeSocket_of_unheard hunheard]
  exact h.of_tasks rfl rfl rfl

theorem Unresolved.attemptRaised (h : Unresolved s) (exc : ConnectError) :
    Unresolved (attemptRaised spec s id role exc) := by
  unfold Ib.attemptRaised
  split_ifs
  · cases role with
    | connect attempt => exact h.endTask
    | supervise cancelled => exact h.endTask.of_tasks rfl rfl rfl
  · exact h.setPhase (Or.inl rfl)

theorem Unresolved.not_running (h : Unresolved s) {phase : Phase}
    (hphase : ¬ (phase = .sleeping ∨ phase = .opening)) : running s id phase ≠ some role :=
  fun hrole => hphase (h.phases id role phase (running_eq_some hrole))

theorem Unresolved.startDisconnect (h : Unresolved s) : Unresolved (startDisconnect s) := by
  have hquiet : Unresolved { s with closing := true, supervisor := none } :=
    h.of_tasks rfl rfl rfl
  unfold Ib.startDisconnect
  split
  · rename_i id cancelled phase hfind
    have hid : s.tasks.get? id = some ⟨.supervise cancelled, phase⟩ := by
      simp only [Option.bind_eq_some_iff, Option.map_eq_some_iff, Prod.mk.injEq] at hfind
      obtain ⟨id', -, task, htask, rfl, rfl⟩ := hfind
      exact htask
    have hphase := h.phases id _ _ hid
    exact (hquiet.setPhase hphase).of_tasks rfl rfl rfl
  · exact ⟨rfl, rfl, hquiet.phases⟩

/-- Only a handshake that fits the configuration leads on. -/
theorem Unresolved.step {l : Label} (h : Unresolved s) (hstep : step spec s l = some s')
    (hnone : managedList? spec l = none) : Unresolved s' := by
  cases transportStep_move hstep with
  | connect =>
      refine ⟨h.detached, h.down, fun id role phase hid => ?_⟩
      simp only [Dict.get?_set] at hid
      split_ifs at hid
      · cases hid
        exact Or.inr rfl
      · exact h.phases id role phase hid
  | disconnect => exact h.startDisconnect
  | disconnectResumes hcall hdone => exact ⟨rfl, rfl, h.phases⟩
  | @wakes id role hrole =>
      cases role with
      | connect attempt => exact h.setPhase (Or.inr rfl)
      | supervise cancelled =>
          have hpublished : Unresolved (publishState s .reconnecting) := h.of_tasks rfl rfl rfl
          exact hpublished.setPhase (Or.inr rfl)
  | accountRefused hrole haccount =>
      have hup : Unresolved { s with socketUp := true } := h.of_tasks rfl rfl rfl
      exact (hup.closeSocket true).attemptRaised _
  | dataTypeFails hrole haccount => simp [managedList?, haccount] at hnone
  | opened hrole haccount => simp [managedList?, haccount] at hnone
  | openFails hrole => exact (h.closeSocket _).attemptRaised _
  | skipsSync hrole hskip => exact absurd hrole (h.not_running (by simp))
  | reconciled hrole hskip => exact absurd hrole (h.not_running (by simp))
  | synced hrole => exact absurd hrole (h.not_running (by simp))
  | @cancelled id role phase fires hid hrole =>
      have hattempt : Unresolved (cancelAttempt s fires phase) := by
        cases phase with
        | sleeping => exact h
        | opening => exact h.closeSocket fires
        | reconciling => exact ⟨rfl, h.down, h.phases⟩
        | syncing => exact ⟨rfl, h.down, h.phases⟩
      exact hattempt.endTask
  | socketDrops hup => exact h.closeSocket true
  | errorCode hattached =>
      rw [h.detached] at hattached
      cases hattached
  | codeUnheard hdetached => exact h

/-! ## The account -/

theorem account_closeSocket (s : Transport) (fires : Bool) :
    (closeSocket s fires).account = s.account := by
  unfold closeSocket fireDisconnected onDisconnected
  dsimp only
  split_ifs <;> rfl

theorem account_endTask (s : Transport) (id : Nat) (role : Role) :
    (endTask s id role).account = s.account := by
  cases role <;> rfl

theorem account_attemptRaised (s : Transport) (exc : ConnectError) :
    (attemptRaised spec s id role exc).account = s.account := by
  unfold attemptRaised
  split_ifs
  · cases role with
    | connect attempt => rfl
    | supervise cancelled => rfl
  · rfl

theorem account_startDisconnect (s : Transport) : (startDisconnect s).account = s.account := by
  unfold startDisconnect
  split <;> rfl

/-- The account after a step. -/
theorem step_account {l : Label} (hstep : step spec s l = some s') :
    s'.account = match managedList? spec l with
      | none => s.account
      | some accounts => accountOf spec (some accounts) := by
  cases transportStep_move hstep with
  | connect => rfl
  | disconnect => exact account_startDisconnect s
  | disconnectResumes hcall hdone => rfl
  | @wakes id role hrole => cases role <;> rfl
  | accountRefused hrole haccount =>
      simp [managedList?, haccount, account_attemptRaised, account_closeSocket]
  | dataTypeFails hrole haccount =>
      simp only [managedList?, haccount, account_attemptRaised]
      simp [detachHandlers, attachHandlers, accountOf, haccount]
  | opened hrole haccount =>
      simp [managedList?, haccount, setPhase, attachHandlers, accountOf]
  | openFails hrole =>
      simp [managedList?, account_attemptRaised, account_closeSocket]
  | skipsSync hrole hskip => exact account_endTask _ _ _
  | reconciled hrole hskip => rfl
  | synced hrole => exact account_endTask _ _ _
  | @cancelled id role phase fires hid hrole =>
      have hattempt : (cancelAttempt s fires phase).account = s.account := by
        cases phase with
        | opening => exact account_closeSocket s fires
        | _ => rfl
      exact (account_endTask _ _ _).trans hattempt
  | socketDrops hup => exact account_closeSocket s true
  | @errorCode code hattached =>
      simp only [managedList?, onError]
      split
      · rfl
      · split_ifs <;> rfl
  | codeUnheard hdetached => rfl

/-! ## Whole runs -/

/-- The account is that of the last accepted list, and without one nothing is ready. -/
structure AccountInv (spec : IbConnectionSpec) (labels : List Label) (s : Transport) : Prop where
  account : s.account = accountOf spec (managedLists spec labels).getLast?
  unresolved : managedLists spec labels = [] → Unresolved s

theorem accountInv_init (spec : IbConnectionSpec) : AccountInv spec [] (.init spec) where
  account := rfl
  unresolved _ := ⟨rfl, rfl, fun id role phase hid => by simp [Transport.init] at hid⟩

theorem AccountInv.step {labels : List Label} {l : Label} (h : AccountInv spec labels s)
    (hstep : step spec s l = some s') : AccountInv spec (labels ++ [l]) s' := by
  have haccount := step_account hstep
  have hlists : managedLists spec (labels ++ [l]) =
      managedLists spec labels ++ (managedList? spec l).toList := by
    unfold managedLists
    cases hlist : managedList? spec l <;> simp [hlist]
  constructor
  · rw [haccount, hlists]
    cases hlist : managedList? spec l with
    | none => simpa using h.account
    | some accounts => simp
  · rw [hlists]
    intro hempty
    obtain ⟨hbefore, hlist⟩ := List.append_eq_nil_iff.1 hempty
    exact (h.unresolved hbefore).step hstep (by simpa using hlist)

/-- Whenever order calls are let through, the account is the one that the configuration picks from
the list of the last accepted handshake: the configured one, which IB manages, or the only one. -/
theorem account_of_ready (spec : IbConnectionSpec) {labels : List Label} {s : Transport}
    (hrun : (transportMachine spec).run (transportMachine spec).init labels = some s)
    (hready : s.routerUp = true) :
    ∃ accounts, (managedLists spec labels).getLast? = some accounts ∧
      (∀ account, spec.accountId = some account → account ≠ "" →
        s.account = some account ∧ (accounts = [] ∨ account ∈ accounts)) ∧
      (spec.accountId = none → accounts.length ≤ 1 ∧ s.account = accounts.head?) := by
  have hinv : AccountInv spec labels s :=
    (transportMachine spec).invariant_history (accountInv_init spec)
      (fun _ _ _ _ h hstep => h.step hstep) hrun
  have hsome : managedLists spec labels ≠ [] := by
    intro hempty
    rw [(hinv.unresolved hempty).down] at hready
    cases hready
  obtain ⟨accounts, hlast⟩ := Option.isSome_iff_exists.1 (List.getLast?_isSome.2 hsome)
  have haccount := hinv.account
  rw [hlast] at haccount
  obtain ⟨l, -, hlist⟩ := List.mem_filterMap.1 (List.mem_of_getLast? hlast)
  have hresolved : (resolveAccount spec.accountId accounts).isSome = true := by
    unfold managedList? at hlist
    split at hlist
    · split_ifs at hlist with hfits
      cases hlist
      exact hfits
    · cases hlist
  refine ⟨accounts, hlast, fun account hconfigured hne => ?_, fun hconfigured => ?_⟩
  · rw [accountOf, hconfigured] at haccount
    rw [hconfigured] at hresolved
    by_cases hfits : accounts ≠ [] ∧ account ∉ accounts
    · simp [resolveAccount, hfits] at hresolved
    · refine ⟨by simpa [resolveAccount, hfits, hne] using haccount, ?_⟩
      tauto
  · rw [accountOf, hconfigured] at haccount
    rw [hconfigured] at hresolved
    by_cases hmany : accounts.length > 1
    · simp [resolveAccount, hmany] at hresolved
    · exact ⟨Nat.le_of_not_gt hmany, by simpa [resolveAccount, hmany] using haccount⟩

/-- A session on the only account of a login. -/
theorem account_of_ready_only : ∃ s,
    (transportMachine .default).run (transportMachine .default).init
      [.connect, .opened 0 ["DU1"] none, .reconciled 0, .synced 0] = some s ∧
    s.account = some "DU1" ∧
    ∃ accounts, (managedLists .default
        [.connect, .opened 0 ["DU1"] none, .reconciled 0, .synced 0]).getLast? = some accounts ∧
      (∀ account, IbConnectionSpec.default.accountId = some account → account ≠ "" →
        s.account = some account ∧ (accounts = [] ∨ account ∈ accounts)) ∧
      (IbConnectionSpec.default.accountId = none →
        accounts.length ≤ 1 ∧ s.account = accounts.head?) := by
  have hrun : ((transportMachine .default).run (transportMachine .default).init
      [.connect, .opened 0 ["DU1"] none, .reconciled 0, .synced 0]).map
        (fun s => (s.account, s.routerUp)) = some (some "DU1", true) := by
    decide
  obtain ⟨s, hs, hfields⟩ := Option.map_eq_some_iff.1 hrun
  obtain ⟨haccount, hready⟩ := Prod.ext_iff.1 hfields
  exact ⟨s, hs, haccount, account_of_ready .default hs hready⟩

end Ib
end MarketConnector
