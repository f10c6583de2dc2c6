import MarketConnector.Ib.CancelReasons

/-!
# Ib - Waiting for a state

`wait_for` listens to the status events of a trade until one shows a target state, or a
terminal one that is no target.  It does not look at the trade before the first event.

Main results:

- Definition `waitFor`: how a wait ends that sees some status events.
- Theorem `waitFor_firstVerdict`: a wait ends with the first event that decides.
- Theorem `waitFor_neverMisses_iff`: when the trade at the call is not missed.
-/

namespace MarketConnector
namespace Ib

open Foundations

/-! ## The wait -/

inductive WaitError where
  /-- `RuntimeError(f"Awaited {targets} but order reached terminal state {state}")` -/
  | terminalReached (targets : List IBOrderState) (state : IBOrderState)
  /-- `asyncio.TimeoutError` -/
  | timeout
deriving DecidableEq

/-- The future of a wait, `none` while it is pending. -/
abbrev WaitFuture := Option (Except WaitError OrderHandle)

/-- `_on_status`, with the trade as it is when the event fires. -/
def onStatus (handle : OrderHandle) (targets : List IBOrderState) (fut : WaitFuture) (t : Trade) :
    WaitFuture :=
  match OrderHandle.fromTrade handle.trade t none with
  | .error _ => fut
  | .ok snapshot =>
      let newHandle := { snapshot with owned := handle.owned }
      if newHandle.status ∈ targets then
        if fut.isNone then some (.ok newHandle) else fut
      else if newHandle.status.isTerminal && fut.isNone then
        some (.error (.terminalReached targets newHandle.status))
      else fut

/-- `wait_for`, with the trade as it is at each status event before the timeout. -/
def waitFor (handle : OrderHandle) (targets : List IBOrderState) (events : List Trade) :
    Except WaitError OrderHandle :=
  (events.foldl (onStatus handle targets) none).getD (.error .timeout)

/-! ## What a state decides -/

/-- Whether a trade is in a target state, if it is in a target or a terminal one. -/
def verdict (targets : List IBOrderState) (t : Trade) : Option Bool :=
  match orderState t with
  | none => none
  | some state =>
      if state ∈ targets then some true
      else if state.isTerminal then some false
      else none

/-- The first state that decides. -/
def firstVerdict (targets : List IBOrderState) (trades : List Trade) : Option Bool :=
  trades.findSome? (verdict targets)

/-- An end of a wait that a state demands: a handle in a target state, or the error that names
a terminal one. -/
def Demands (targets : List IBOrderState) (reached : Bool) (ended : Except WaitError OrderHandle) :
    Prop :=
  if reached then ∃ handle, ended = .ok handle ∧ handle.status ∈ targets
  else ∃ state, ended = .error (.terminalReached targets state) ∧ state.isTerminal = true ∧
    state ∉ targets

/-- A wait ends as the first state demands that decides, that of the trade at the call
included. -/
def NeverMisses (handle : OrderHandle) (targets : List IBOrderState) (atCall : Trade)
    (events : List Trade) : Prop :=
  ∀ reached, firstVerdict targets (atCall :: events) = some reached →
    Demands targets reached (waitFor handle targets events)

/-! ## The events decide -/

/-- What an event gives to a pending future. -/
def eventAnswer (handle : OrderHandle) (targets : List IBOrderState) (t : Trade) : WaitFuture :=
  onStatus handle targets none t

/-- A future that is done stays as it is. -/
theorem onStatus_eq (handle : OrderHandle) (targets : List IBOrderState) (fut : WaitFuture)
    (t : Trade) : onStatus handle targets fut t = fut.or (eventAnswer handle targets t) := by
  cases fut with
  | none => rfl
  | some r =>
      unfold onStatus
      cases OrderHandle.fromTrade handle.trade t none with
      | error e => rfl
      | ok snapshot =>
          dsimp only
          split_ifs <;> simp_all

/-- A wait ends with its first event that answers. -/
theorem foldl_onStatus (handle : OrderHandle) (targets : List IBOrderState) (events : List Trade)
    (fut : WaitFuture) :
    events.foldl (onStatus handle targets) fut =
      fut.or (events.findSome? (eventAnswer handle targets)) := by
  induction events generalizing fut with
  | nil => simp
  | cons t events ih =>
      rw [List.foldl_cons, ih, onStatus_eq, List.findSome?_cons, Option.or_assoc]
      cases eventAnswer handle targets t <;> simp

/-- An event answers as its state demands, and not at all where it decides nothing. -/
theorem eventAnswer_verdict (handle : OrderHandle) (targets : List IBOrderState) (t : Trade) :
    match verdict targets t with
    | some reached => ∃ ended, eventAnswer handle targets t = some ended ∧
        Demands targets reached ended
    | none => eventAnswer handle targets t = none := by
  unfold verdict eventAnswer onStatus
  cases hstate : orderState t with
  | none => simp [OrderHandle.fromTrade, hstate]
  | some state =>
      obtain ⟨snapshot, hsnapshot, hstatus, -⟩ := fromTrade_of_orderState handle.trade none hstate
      rw [hsnapshot]
      subst hstatus
      by_cases htarget : snapshot.status ∈ targets
      · simp [htarget, Demands]
      · by_cases hterminal : snapshot.status.isTerminal = true
        · simp [htarget, hterminal, Demands]
        · simp [htarget, hterminal]

/-- The handles are those that the waits of a transport are answered with. -/
theorem waitAnswer_eq (session : Session) (handle : OrderHandle) (targets : List IBOrderState)
    (t : Trade) :
    waitAnswer session (.waitFor targets handle.owned) handle.trade t =
      (eventAnswer handle targets t).bind Except.toOption := by
  unfold waitAnswer eventAnswer onStatus
  cases OrderHandle.fromTrade handle.trade t none with
  | error e => rfl
  | ok snapshot =>
      by_cases htarget : snapshot.status ∈ targets
      · simp [htarget, Except.toOption]
      · by_cases hterminal : snapshot.status.isTerminal = true
        · simp [htarget, hterminal, Except.toOption]
        · simp [htarget, hterminal, Except.toOption]

/-- A wait ends as the first event demands that decides, and otherwise with its timeout. -/
theorem waitFor_firstVerdict (handle : OrderHandle) (targets : List IBOrderState)
    (events : List Trade) :
    match firstVerdict targets events with
    | some reached => Demands targets reached (waitFor handle targets events)
    | none => waitFor handle targets events = .error .timeout := by
  rw [waitFor, foldl_onStatus, Option.none_or, firstVerdict]
  induction events with
  | nil => rfl
  | cons t events ih =>
      have hanswer := eventAnswer_verdict handle targets t
      rw [List.findSome?_cons, List.findSome?_cons]
      cases hverdict : verdict targets t with
      | none =>
          rw [hverdict] at hanswer
          rw [hanswer]
          exact ih
      | some reached =>
          rw [hverdict] at hanswer
          obtain ⟨ended, hsome, hdemands⟩ := hanswer
          rw [hsome]
          exact hdemands

/-- No wait ends in two ways. -/
theorem Demands.unique {targets : List IBOrderState} {reached reached' : Bool}
    {ended : Except WaitError OrderHandle} (h : Demands targets reached ended)
    (h' : Demands targets reached' ended) : reached = reached' := by
  cases reached <;> cases reached'
  · rfl
  · obtain ⟨state, rfl, -⟩ := h
    obtain ⟨handle, heq, -⟩ := h'
    cases heq
  · obtain ⟨handle, rfl, -⟩ := h
    obtain ⟨state, heq, -⟩ := h'
    cases heq
  · rfl

theorem not_demands_timeout (targets : List IBOrderState) (reached : Bool) :
    ¬ Demands targets reached (.error .timeout) := by
  cases reached
  · rintro ⟨state, heq, -⟩
    cases heq
  · rintro ⟨handle, heq, -⟩
    cases heq

/-- Nothing is missed where the trade at the call decides nothing, or the events decide alike. -/
theorem waitFor_neverMisses_iff (handle : OrderHandle) (targets : List IBOrderState)
    (atCall : Trade) (events : List Trade) :
    NeverMisses handle targets atCall events ↔
      verdict targets atCall = none ∨
        firstVerdict targets events = verdict targets atCall := by
  have hends := waitFor_firstVerdict handle targets events
  unfold NeverMisses
  cases hcall : verdict targets atCall with
  | none =>
      refine iff_of_true (fun reached hreached => ?_) (Or.inl rfl)
      rw [firstVerdict, List.findSome?_cons, hcall] at hreached
      dsimp only at hreached
      rw [firstVerdict, hreached] at hends
      exact hends
  | some reached =>
      have hfirst : firstVerdict targets (atCall :: events) = some reached := by
        rw [firstVerdict, List.findSome?_cons, hcall]
      rw [hfirst]
      cases hevents : firstVerdict targets events with
      | none =>
          rw [hevents] at hends
          refine iff_of_false (fun h => ?_) (by simp)
          have hdemands := h reached rfl
          rw [hends] at hdemands
          exact not_demands_timeout targets reached hdemands
      | some reached' =>
          rw [hevents] at hends
          constructor
          · intro h
            exact Or.inr (congrArg some (hends.unique (h reached rfl)))
          · intro h reached'' hreached
            cases hreached
            have hsame : reached' = reached := by simpa using h
            exact hsame ▸ hends

/-- An order that is filled when the call comes is waited for until the timeout. -/
theorem waitFor_misses_filled :
    ¬ ∀ (handle : OrderHandle) (targets : List IBOrderState) (atCall : Trade)
      (events : List Trade), NeverMisses handle targets atCall events := by
  intro h
  have hdemands := h ⟨7, .submitted, .submitted, .ofNat 0, none, 0, 1, true, false⟩ [.filled]
    ⟨1, 7, 1, .ofNat 1, .filled, some (.ofNat 1), none, "", []⟩ [] true (by decide)
  exact not_demands_timeout _ _ hdemands

end Ib
end MarketConnector
