import MarketConnector.Ib.LinkedOrders

/-!
# Ib - Cancelling a finished order

`cancel_order` looks for a finished order in the snapshot it was given.  An order that
finished since then, or while `ib.cancelOrder` ran, is cancelled and awaited all the same,
and no event ever comes.

Main results:

- Theorem `answersFinished_iff`: when one cancel of a finished order returns its status.
- Theorem `failsOnlyLive_iff`: when a sequence of cancels reports only live orders.
- Theorem `cancelAllFailsOnlyLive_iff`: when the error of `cancel_all` names only live orders.
- Theorem `idempotentCancel_iff`: both, for `cancel_order`, `cancel_all` and the rollback.
- Theorem `stale_snapshot_times_out`: an order that was filled since the snapshot.
-/

namespace MarketConnector
namespace Ib

open Foundations

/-! ## The property -/

/-- A cancel of an order that is finished when the wait would start returns a handle with
the order's status. -/
def AnswersFinished (session : Session) (handle : OrderHandle) (env : CancelEnv) : Prop :=
  isFinished env.trade = true →
    ∃ answer, cancelOrder session handle env = .ok answer ∧
      some answer.status = orderState env.trade

/-- The handle may be cancelled and already shows the status the order ended in. -/
def ShowsFinished (session : Session) (handle : OrderHandle) (env : CancelEnv) : Prop :=
  isFinished env.trade = true →
    session.spec.readonly = false ∧ handle.owned = true ∧
      some handle.status = orderState env.trade

/-- The handle may be cancelled and already shows that the order is finished. -/
def KnownFinished (session : Session) (target : OrderHandle × CancelEnv) : Prop :=
  isFinished target.2.trade = true →
    session.spec.readonly = false ∧ target.1.owned = true ∧ target.1.status.isTerminal = true

section

variable {α : Type} (session : Session) (target : α → OrderHandle × CancelEnv)

/-- A sequence of cancels reports as failed only orders that are not finished. -/
def FailsOnlyLive (xs : List α) : Prop :=
  ∀ x ∈ failedCancels session target xs,
    isFinished (tradeAtEnd session (target x.1).1 (target x.1).2) = false

/-- Every cancel that is carried through is of an order that is live or known finished. -/
def ReachesKnownFinished (xs : List α) : Prop :=
  ∀ pre x post, xs = pre ++ x :: post → Reached session target pre →
    ¬ Interrupted session (target x) → KnownFinished session (target x)

end

/-- `cancel_all` reports as failed only orders that are not finished. -/
def CancelAllFailsOnlyLive (session : Session) (trades : List (Nat × Trade))
    (envs : Nat → CancelEnv) : Prop :=
  ∀ message errors cancelled,
    cancelAll session trades envs = .error (.cancelAllError message errors cancelled) →
      ∀ x ∈ errors, isFinished (tradeAtEnd session x.1 (envs x.1.trade)) = false

/-- When `cancel_all` reaches the end of its targets, each of them is live or known
finished. -/
def CancelAllKnowsFinished (session : Session) (trades : List (Nat × Trade))
    (envs : Nat → CancelEnv) : Prop :=
  session.spec.readonly = false → ∀ handles, openOrders session trades = .ok handles →
    Reached session (cancelTarget envs) (cancelAllTargets handles) →
      ∀ handle ∈ cancelAllTargets handles, KnownFinished session (cancelTarget envs handle)

/-! ## One cancel -/

/-- A live handle of a finished order leads to the wait that nothing ends, unless
`ib.cancelOrder` raises. -/
theorem cancelOrder_of_stale {session : Session} {handle : OrderHandle} {env : CancelEnv}
    (hfinished : isFinished env.trade = true) (hlive : handle.status.isTerminal = false) :
    ∃ exc, cancelOrder session handle env = .error exc := by
  unfold cancelOrder
  split_ifs with hreadonly howned hterminal
  · exact ⟨_, rfl⟩
  · exact ⟨_, rfl⟩
  · rw [hlive] at hterminal
    cases hterminal
  · cases env.raises with
    | some exc => exact ⟨exc, rfl⟩
    | none =>
        rw [env.settled hfinished]
        exact ⟨_, rfl⟩

theorem cancelOrder_of_terminal {session : Session} {handle : OrderHandle} {env : CancelEnv}
    (hreadonly : session.spec.readonly = false) (howned : handle.owned = true)
    (hterminal : handle.status.isTerminal = true) :
    cancelOrder session handle env = .ok handle := by
  simp [cancelOrder, hreadonly, howned, hterminal]

/-- A call that returns was allowed. -/
theorem allowed_of_cancelOrder {session : Session} {handle answer : OrderHandle}
    {env : CancelEnv} (h : cancelOrder session handle env = .ok answer) :
    session.spec.readonly = false ∧ handle.owned = true := by
  unfold cancelOrder at h
  split_ifs at h with hreadonly howned
  all_goals exact ⟨by simpa using hreadonly, by simpa using howned⟩

/-- A finished order shows a terminal status. -/
theorem isTerminal_of_orderState {t : Trade} {state : IBOrderState}
    (hfinished : isFinished t = true) (hstate : some state = orderState t) :
    state.isTerminal = true := by
  obtain ⟨state', hstate', hterminal⟩ := isFinished_iff.1 hfinished
  rw [hstate'] at hstate
  cases hstate
  exact hterminal

theorem answersFinished_iff (session : Session) (handle : OrderHandle) (env : CancelEnv) :
    AnswersFinished session handle env ↔ ShowsFinished session handle env := by
  refine forall_congr' fun hfinished => ?_
  constructor
  · rintro ⟨answer, hanswer, hstatus⟩
    obtain ⟨hreadonly, howned⟩ := allowed_of_cancelOrder hanswer
    cases hterminal : handle.status.isTerminal with
    | false =>
        have hstale : ∃ exc, cancelOrder session handle env = .error exc :=
          cancelOrder_of_stale hfinished hterminal
        obtain ⟨exc, herror⟩ := hstale
        rw [herror] at hanswer
        cases hanswer
    | true =>
        rw [cancelOrder_of_terminal hreadonly howned hterminal] at hanswer
        cases hanswer
        exact ⟨hreadonly, howned, hstatus⟩
  · rintro ⟨hreadonly, howned, hstatus⟩
    have hterminal := isTerminal_of_orderState hfinished hstatus
    exact ⟨handle, cancelOrder_of_terminal hreadonly howned hterminal, hstatus⟩

/-! ## Sequences of cancels -/

/-- A failed cancel of an order that is not known finished leaves the order live. -/
theorem live_of_failed {session : Session} {handle : OrderHandle} {env : CancelEnv}
    {exc : OrderError} (hexc : cancelOrder session handle env = .error exc)
    (hknown : KnownFinished session (handle, env)) :
    isFinished (tradeAtEnd session handle env) = false := by
  by_contra hnot
  have hend : isFinished (tradeAtEnd session handle env) = true := by simpa using hnot
  have hcurrent : isFinished env.trade = false := by
    by_contra hcur
    obtain ⟨hreadonly, howned, hterminal⟩ := hknown (by simpa using hcur)
    rw [cancelOrder_of_terminal hreadonly howned hterminal] at hexc
    cases hexc
  unfold tradeAtEnd at hend
  split_ifs at hend with hwaits
  · simp only [reachesIb, Bool.and_eq_true, Bool.not_eq_true', Option.isNone_iff_eq_none] at hwaits
    obtain ⟨⟨⟨hreadonly, howned⟩, hlive⟩, hraises⟩ := hwaits
    have hwait : awaitDecisive session handle.trade env.interrupted env.events = .error exc := by
      simpa [cancelOrder, hreadonly, howned, hlive, hraises] using hexc
    rcases List.eq_nil_or_concat env.events with hnone | ⟨init, last, hevents⟩
    · rw [hnone] at hend
      rw [List.getLastD_nil, hcurrent] at hend
      cases hend
    · have hlast : isFinished last = true := by simpa [hevents] using hend
      have hmem : last ∈ env.events := by simp [hevents]
      have hdecided : ∃ answer,
          awaitDecisive session handle.trade env.interrupted env.events = .ok answer :=
        awaitDecisive_of_finished hmem hlast
      obtain ⟨answer, hanswer⟩ := hdecided
      rw [hanswer] at hwait
      cases hwait
  · rw [hcurrent] at hend
    cases hend

/-- A cancel of a finished order that is not known finished fails, and leaves a finished
order behind. -/
theorem failed_of_stale {session : Session} {handle : OrderHandle} {env : CancelEnv}
    (hstale : ¬ KnownFinished session (handle, env)) :
    (∃ exc, cancelOrder session handle env = .error exc) ∧
      isFinished (tradeAtEnd session handle env) = true := by
  obtain ⟨hfinished, hunknown⟩ := Classical.not_imp.1 hstale
  have hend : tradeAtEnd session handle env = env.trade := by
    unfold tradeAtEnd
    split_ifs
    · rw [env.settled hfinished, List.getLastD_nil]
    · rfl
  refine ⟨?_, by rw [hend]; exact hfinished⟩
  cases hterminal : handle.status.isTerminal with
  | false => exact cancelOrder_of_stale hfinished hterminal
  | true =>
      cases hcancel : cancelOrder session handle env with
      | error exc => exact ⟨exc, rfl⟩
      | ok answer =>
          obtain ⟨hreadonly, howned⟩ := allowed_of_cancelOrder hcancel
          exact absurd ⟨hreadonly, howned, hterminal⟩ hunknown

theorem failsOnlyLive_iff {α : Type} (session : Session)
    (target : α → OrderHandle × CancelEnv) (xs : List α) :
    FailsOnlyLive session target xs ↔ ReachesKnownFinished session target xs := by
  constructor
  · intro h pre x post hsplit hreached hcarried
    by_contra hstale
    obtain ⟨⟨exc, hexc⟩, hend⟩ := failed_of_stale hstale
    have hexception : exc.isException = true := by
      by_contra hnot
      exact hcarried ⟨exc, hexc, by simpa using hnot⟩
    have hmem : (x, exc) ∈ failedCancels session target xs :=
      mem_failedCancels_iff.2
        ⟨pre, post, hsplit, hreached, outcomeOf_eq_failed.2 ⟨hexc, hexception⟩⟩
    rw [h (x, exc) hmem] at hend
    cases hend
  · rintro h ⟨x, exc⟩ hmem
    obtain ⟨pre, post, hsplit, hreached, hout⟩ := mem_failedCancels_iff.1 hmem
    obtain ⟨hexc, hexception⟩ := outcomeOf_eq_failed.1 hout
    have hcarried : ¬ Interrupted session (target x) := by
      rintro ⟨exc', hexc', hnot⟩
      rw [hexc] at hexc'
      cases hexc'
      rw [hexception] at hnot
      cases hnot
    exact live_of_failed hexc (h pre x post hsplit hreached hcarried)

/-- In a sequence that is not interrupted, every target has to be live or known
finished. -/
theorem reachesKnownFinished_iff {α : Type} {session : Session}
    {target : α → OrderHandle × CancelEnv} {xs : List α} (hreached : Reached session target xs) :
    ReachesKnownFinished session target xs ↔ ∀ x ∈ xs, KnownFinished session (target x) := by
  constructor
  · intro h x hx
    obtain ⟨pre, post, hsplit⟩ := List.append_of_mem hx
    have hpre : Reached session target pre := fun y hy =>
      hreached y (by simp [hsplit, hy])
    exact h pre x post hsplit hpre (hreached x hx)
  · intro h pre x post hsplit _ _
    exact h x (by simp [hsplit])

/-- The errors of `cancel_all` are those of its sequence of cancels. -/
theorem cancelAllFailsOnlyLive_iff (session : Session) (trades : List (Nat × Trade))
    (envs : Nat → CancelEnv) :
    CancelAllFailsOnlyLive session trades envs ↔ CancelAllKnowsFinished session trades envs := by
  constructor
  · intro h hreadonly handles horders hreached
    rw [← reachesKnownFinished_iff hreached, ← failsOnlyLive_iff]
    intro x hx
    have hraised : ∃ message cancelled, cancelAll session trades envs =
        .error (.cancelAllError message
          (failedCancels session (cancelTarget envs) (cancelAllTargets handles)) cancelled) :=
      cancelAll_eq_cancelAllError_iff.2
        ⟨hreadonly, handles, horders, hreached, rfl, List.ne_nil_of_mem hx⟩
    obtain ⟨message, cancelled, hcall⟩ := hraised
    exact h message _ cancelled hcall x hx
  · intro h message errors cancelled hcall x hx
    obtain ⟨hreadonly, handles, horders, hreached, rfl, -⟩ :=
      cancelAll_eq_cancelAllError_iff.1 ⟨message, cancelled, hcall⟩
    have hknown := h hreadonly handles horders hreached
    rw [← reachesKnownFinished_iff hreached, ← failsOnlyLive_iff] at hknown
    exact hknown x hx

/-! ## The calls -/

/-- `cancel_order` answers for finished orders, and `cancel_all` and the rollback report
only live ones, exactly when the snapshots they use already show what is finished. -/
theorem idempotentCancel_iff (session : Session) :
    (∀ handle env, AnswersFinished session handle env ↔ ShowsFinished session handle env) ∧
      (∀ trades envs,
        CancelAllFailsOnlyLive session trades envs ↔ CancelAllKnowsFinished session trades envs) ∧
      ∀ handed,
        FailsOnlyLive session legTarget (rollbackTargets (waitedLegs session handed)) ↔
          ReachesKnownFinished session legTarget
            (rollbackTargets (waitedLegs session handed)) :=
  ⟨answersFinished_iff session, cancelAllFailsOnlyLive_iff session,
    fun _ => failsOnlyLive_iff session _ _⟩

/-- The trade of an order that was filled. -/
def filledTrade : Trade :=
  { pendingTrade 1 with permId := 7, status := .filled, filled := some (.ofNat 1) }

/-- The order was filled after the snapshot: the cancel ends with a timeout. -/
theorem stale_snapshot_times_out :
    let env : CancelEnv := ⟨none, filledTrade, [], false, fun _ => rfl⟩
    orderState env.trade = some .filled ∧
      cancelOrder sampleSession (pendingHandle 0 1) env = .error .timeout ∧
      ¬ AnswersFinished sampleSession (pendingHandle 0 1) env := by
  refine ⟨rfl, rfl, fun h => ?_⟩
  obtain ⟨answer, hanswer, -⟩ := h rfl
  cases hanswer

end Ib
end MarketConnector
