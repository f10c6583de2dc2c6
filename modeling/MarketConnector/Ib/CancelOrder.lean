import MarketConnector.Ib.Connection
import MarketConnector.Ib.OrderHandle

/-!
# Ib - Cancelling orders

`cancel_order`, and the two loops that cancel one order after the other: `cancel_all`
and the rollback of a group.  What IB does during one cancel is given as data: whether
`ib.cancelOrder` raises, the trade when it is done, and the trade at every status event
after that.

Main results:

- Definition `cancelOrder`, `cancelEach`, `cancelAll`.
- Theorem `awaitDecisive_of_finished`: an event that shows a finished order ends the wait.
- Theorem `mem_failedCancels_iff`: which cancels of a sequence are reported as failed.
- Theorem `cancelAll_eq_cancelAllError_iff`: what a `CancelAllError` lists.
-/

namespace MarketConnector
namespace Ib

open Foundations

/-! ## One cancel -/

/-- What order calls read from the transport. -/
structure Session where
  spec : IbConnectionSpec
  account : Option String
  routerUp : Bool

/-- What happens during one `cancel_order`.  `trade` is the order's trade once
`ib.cancelOrder` is done (events it fired are in it), `events` are the status events up
to the deadline or the cancellation of the caller.  IB fires no further event for a
finished order. -/
structure CancelEnv where
  raises : Option OrderError
  trade : Trade
  events : List Trade
  interrupted : Bool
  settled : isFinished trade = true → events = []

/-- The wait of `cancel_order`: the first snapshot that is not a pending cancel. -/
def awaitDecisive (session : Session) (ref : Nat) (interrupted : Bool) :
    List Trade → Except OrderError OrderHandle
  | [] => .error (if interrupted then .cancelledError else .timeout)
  | t :: rest =>
      match OrderHandle.fromTrade ref t (some session.spec.clientId) with
      | .error _ => awaitDecisive session ref interrupted rest
      | .ok handle =>
          if handle.rawStatus = .pendingCancel then awaitDecisive session ref interrupted rest
          else .ok handle

/-- Text of the refusal to cancel an order of another client. -/
def foreignOrderText (session : Session) (handle : OrderHandle) : String :=
  "order " ++ toString handle.orderId ++ " belongs to client_id " ++ toString handle.clientId ++
    ", not this client (" ++ toString session.spec.clientId ++
    "); cannot cancel orders of another API client"

/-- `cancel_order`. -/
def cancelOrder (session : Session) (handle : OrderHandle) (env : CancelEnv) :
    Except OrderError OrderHandle :=
  if session.spec.readonly then .error (.readOnlyMode "cancel_order")
  else if handle.owned = false then .error (.valueError (foreignOrderText session handle))
  else if handle.status.isTerminal then .ok handle
  else
    match env.raises with
    | some exc => .error exc
    | none => awaitDecisive session handle.trade env.interrupted env.events

/-- The call gets as far as `ib.cancelOrder`. -/
def reachesIb (session : Session) (handle : OrderHandle) : Bool :=
  !session.spec.readonly && handle.owned && !handle.status.isTerminal

/-- The trade when the call ends. -/
def tradeAtEnd (session : Session) (handle : OrderHandle) (env : CancelEnv) : Trade :=
  if reachesIb session handle && env.raises.isNone then env.events.getLastD env.trade
  else env.trade

/-- The call is left by a cancellation of the calling task. -/
def Interrupted (session : Session) (target : OrderHandle × CancelEnv) : Prop :=
  ∃ exc, cancelOrder session target.1 target.2 = .error exc ∧ exc.isException = false

/-- An event that shows a finished order ends the wait with a snapshot. -/
theorem awaitDecisive_of_finished {session : Session} {ref : Nat} {interrupted : Bool}
    {events : List Trade} {t : Trade} (ht : t ∈ events) (hfinished : isFinished t = true) :
    ∃ handle, awaitDecisive session ref interrupted events = .ok handle := by
  induction events with
  | nil => cases ht
  | cons first rest ih =>
      have hrest : t ∈ rest →
          ∃ handle, awaitDecisive session ref interrupted rest = .ok handle := ih
      rcases List.mem_cons.1 ht with rfl | hmem
      · obtain ⟨state, hstate, -⟩ := isFinished_iff.1 hfinished
        obtain ⟨handle, hsnap, -, hraw⟩ :=
          fromTrade_of_orderState ref (some (session.spec.clientId : Int)) hstate
        have hdecisive : handle.rawStatus ≠ .pendingCancel := by
          intro hpending
          rw [isFinished_of_pendingCancel (hraw.symm.trans hpending)] at hfinished
          cases hfinished
        exact ⟨handle, by simp [awaitDecisive, hsnap, hdecisive]⟩
      · unfold awaitDecisive
        split
        · exact hrest hmem
        · split_ifs
          · exact hrest hmem
          · exact ⟨_, rfl⟩

/-! ## One cancel after the other -/

/-- What came of one cancel of a sequence. -/
inductive CancelOutcome where
  | returned (handle : OrderHandle)
  | failed (exc : OrderError)
  | interrupted
  | notReached
deriving DecidableEq

/-- Outcome of a cancel that is reached. -/
def outcomeOf (session : Session) (target : OrderHandle × CancelEnv) : CancelOutcome :=
  match cancelOrder session target.1 target.2 with
  | .ok handle => .returned handle
  | .error exc => if exc.isException then .failed exc else .interrupted

section

variable {α : Type} (session : Session) (target : α → OrderHandle × CancelEnv)

/-- Cancel one order after the other; exceptions are collected, a cancellation of the
calling task is not caught. -/
def cancelEach : List α → List (α × CancelOutcome)
  | [] => []
  | x :: rest =>
      match outcomeOf session (target x) with
      | .interrupted => (x, .interrupted) :: rest.map fun y => (y, .notReached)
      | outcome => (x, outcome) :: cancelEach rest

/-- The cancels that raised, with what they raised. -/
def failedCancels (xs : List α) : List (α × OrderError) :=
  (cancelEach session target xs).filterMap fun x =>
    match x.2 with
    | .failed exc => some (x.1, exc)
    | _ => none

/-- A cancel is reached when none of those before it was interrupted. -/
def Reached (pre : List α) : Prop :=
  ∀ x ∈ pre, ¬ Interrupted session (target x)

end

theorem outcomeOf_eq_interrupted {session : Session} {target : OrderHandle × CancelEnv} :
    outcomeOf session target = .interrupted ↔ Interrupted session target := by
  unfold outcomeOf Interrupted
  cases cancelOrder session target.1 target.2 with
  | ok handle => simp
  | error exc => cases hexc : exc.isException <;> simp [hexc]

theorem outcomeOf_ne_notReached (session : Session) (target : OrderHandle × CancelEnv) :
    outcomeOf session target ≠ .notReached := by
  unfold outcomeOf
  split
  · simp
  · split_ifs <;> simp

theorem outcomeOf_eq_failed {session : Session} {target : OrderHandle × CancelEnv}
    {exc : OrderError} :
    outcomeOf session target = .failed exc ↔
      cancelOrder session target.1 target.2 = .error exc ∧ exc.isException = true := by
  unfold outcomeOf
  cases cancelOrder session target.1 target.2 with
  | ok handle => simp
  | error exc' =>
      simp only [Except.error.injEq]
      constructor
      · intro h
        split_ifs at h with hexc
        cases h
        exact ⟨rfl, hexc⟩
      · rintro ⟨rfl, hexc⟩
        rw [if_pos hexc]

section

variable {α : Type} {session : Session} {target : α → OrderHandle × CancelEnv}

theorem cancelEach_cons_of_interrupted {x : α} (h : Interrupted session (target x))
    (rest : List α) :
    cancelEach session target (x :: rest) =
      (x, .interrupted) :: rest.map fun y => (y, .notReached) := by
  simp [cancelEach, outcomeOf_eq_interrupted.2 h]

theorem cancelEach_cons_of_not_interrupted {x : α} (h : ¬ Interrupted session (target x))
    (rest : List α) :
    cancelEach session target (x :: rest) =
      (x, outcomeOf session (target x)) :: cancelEach session target rest := by
  have hne : outcomeOf session (target x) ≠ .interrupted := fun hout =>
    h (outcomeOf_eq_interrupted.1 hout)
  rw [cancelEach]
  split
  · exact absurd ‹_› hne
  · rfl

/-- Splitting a list at one of its elements: at its head, or in its tail. -/
theorem exists_split_cons_iff {x first : α} {rest : List α} {P : List α → Prop} :
    (∃ pre post, first :: rest = pre ++ x :: post ∧ P pre) ↔
      x = first ∧ P [] ∨ ∃ pre post, rest = pre ++ x :: post ∧ P (first :: pre) := by
  constructor
  · rintro ⟨pre, post, hsplit, hP⟩
    cases pre with
    | nil =>
        cases hsplit
        exact Or.inl ⟨rfl, hP⟩
    | cons p pre =>
        cases hsplit
        exact Or.inr ⟨pre, post, rfl, hP⟩
  · rintro (⟨rfl, hP⟩ | ⟨pre, post, rfl, hP⟩)
    · exact ⟨[], rest, rfl, hP⟩
    · exact ⟨first :: pre, post, rfl, hP⟩

/-- What comes of a target depends on the targets before it only through a
cancellation of the calling task. -/
theorem mem_cancelEach_iff {xs : List α} {x : α} {outcome : CancelOutcome} :
    (x, outcome) ∈ cancelEach session target xs ↔
      ∃ pre post, xs = pre ++ x :: post ∧
        (Reached session target pre ∧ outcome = outcomeOf session (target x) ∨
          ¬ Reached session target pre ∧ outcome = .notReached) := by
  induction xs with
  | nil => simp [cancelEach]
  | cons first rest ih =>
      rw [exists_split_cons_iff]
      by_cases hfirst : Interrupted session (target first)
      · have hunreached : ∀ pre, ¬ Reached session target (first :: pre) := by
          intro pre hreached
          exact hreached first List.mem_cons_self hfirst
        rw [cancelEach_cons_of_interrupted hfirst, List.mem_cons]
        refine or_congr ?_ ?_
        · constructor
          · intro h
            cases h
            exact ⟨rfl, Or.inl ⟨by simp [Reached], (outcomeOf_eq_interrupted.2 hfirst).symm⟩⟩
          · rintro ⟨rfl, ⟨-, rfl⟩ | ⟨hnot, -⟩⟩
            · rw [outcomeOf_eq_interrupted.2 hfirst]
            · exact absurd (by simp [Reached]) hnot
        · simp only [hunreached, false_and, not_false_iff, true_and, false_or, List.mem_map,
            Prod.mk.injEq]
          constructor
          · rintro ⟨y, hy, rfl, rfl⟩
            obtain ⟨pre, post, rfl⟩ := List.append_of_mem hy
            exact ⟨pre, post, rfl, rfl⟩
          · rintro ⟨pre, post, rfl, rfl⟩
            exact ⟨x, by simp, rfl, rfl⟩
      · have hreached : ∀ pre, Reached session target (first :: pre) ↔
            Reached session target pre := by
          intro pre
          simp [Reached, hfirst]
        rw [cancelEach_cons_of_not_interrupted hfirst, List.mem_cons, ih]
        refine or_congr ?_ (by simp only [hreached])
        constructor
        · intro h
          cases h
          exact ⟨rfl, Or.inl ⟨by simp [Reached], rfl⟩⟩
        · rintro ⟨rfl, ⟨-, rfl⟩ | ⟨hnot, -⟩⟩
          · rfl
          · exact absurd (by simp [Reached]) hnot

/-- A sequence without an interrupted cancel is one whose end is reached. -/
theorem interrupted_mem_iff {xs : List α} :
    .interrupted ∈ (cancelEach session target xs).map Prod.snd ↔
      ¬ Reached session target xs := by
  induction xs with
  | nil => simp [cancelEach, Reached]
  | cons first rest ih =>
      by_cases hfirst : Interrupted session (target first)
      · have hbroken : ¬ Reached session target (first :: rest) := fun hreached =>
          hreached first List.mem_cons_self hfirst
        simp [cancelEach_cons_of_interrupted hfirst, hbroken]
      · have hreached : Reached session target (first :: rest) ↔ Reached session target rest := by
          simp [Reached, hfirst]
        have hne : .interrupted ≠ outcomeOf session (target first) := fun hout =>
          hfirst (outcomeOf_eq_interrupted.1 hout.symm)
        rw [cancelEach_cons_of_not_interrupted hfirst, List.map_cons, List.mem_cons, hreached,
          ← ih, or_iff_right hne]

/-- The reported failures are those of the cancels that were reached. -/
theorem mem_failedCancels_iff {xs : List α} {x : α} {exc : OrderError} :
    (x, exc) ∈ failedCancels session target xs ↔
      ∃ pre post, xs = pre ++ x :: post ∧ Reached session target pre ∧
        outcomeOf session (target x) = .failed exc := by
  have hfailed : (x, exc) ∈ failedCancels session target xs ↔
      (x, .failed exc) ∈ cancelEach session target xs := by
    simp only [failedCancels, List.mem_filterMap, Prod.exists]
    constructor
    · rintro ⟨y, outcome, hmem, hout⟩
      split at hout
      · cases hout
        exact hmem
      · cases hout
    · intro hmem
      exact ⟨x, .failed exc, hmem, rfl⟩
  rw [hfailed, mem_cancelEach_iff]
  refine exists_congr fun pre => exists_congr fun post => and_congr_right fun _ => ?_
  constructor
  · rintro (⟨hreached, hout⟩ | ⟨-, hout⟩)
    · exact ⟨hreached, hout.symm⟩
    · cases hout
  · rintro ⟨hreached, hout⟩
    exact Or.inl ⟨hreached, hout.symm⟩

end

/-! ## `cancel_all` -/

/-- `open_orders`; the trades of IB's cache come with their references. -/
def openOrders (session : Session) (trades : List (Nat × Trade)) :
    Except OrderError (List OrderHandle) :=
  if session.routerUp = false then .error (.connectionLost 1100 "transport not connected")
  else trades.mapM fun trade =>
    OrderHandle.fromTrade trade.1 trade.2 (some session.spec.clientId)

/-- `CancelAllError`, or another error.  The errors of the group come with the orders they
are about, of which the source keeps the ids in the message. -/
inductive CancelAllFailure where
  | raised (exc : OrderError)
  | cancelAllError (message : String) (errors : List (OrderHandle × OrderError))
      (cancelled : List OrderHandle)
deriving DecidableEq

/-- Message of the `CancelAllError`. -/
def cancelAllMessage (failed : List OrderHandle) (targets : Nat) : String :=
  "cancel_all: " ++ toString failed.length ++ " of " ++ toString targets ++
    " cancels failed (order ids: " ++
    String.intercalate ", " (failed.map fun handle => toString handle.orderId) ++ ")"

/-- The orders `cancel_all` cancels: own ones that were not entered by hand. -/
def cancelAllTargets (handles : List OrderHandle) : List OrderHandle :=
  handles.filter fun handle => handle.owned && !handle.manual

/-- The cancel of an open order; `envs` says what happens during the cancel of a trade. -/
def cancelTarget (envs : Nat → CancelEnv) (handle : OrderHandle) : OrderHandle × CancelEnv :=
  (handle, envs handle.trade)

/-- `cancel_all`; `envs` says what happens during the cancel of a trade. -/
def cancelAll (session : Session) (trades : List (Nat × Trade)) (envs : Nat → CancelEnv) :
    Except CancelAllFailure (List OrderHandle) :=
  if session.spec.readonly then .error (.raised (.readOnlyMode "cancel_all"))
  else
    match openOrders session trades with
    | .error exc => .error (.raised exc)
    | .ok handles =>
        let targets := cancelAllTargets handles
        let outcomes := (cancelEach session (cancelTarget envs) targets).map Prod.snd
        if outcomes.contains .interrupted then .error (.raised .cancelledError)
        else
          let failed := failedCancels session (cancelTarget envs) targets
          let cancelled := outcomes.filterMap fun outcome =>
            match outcome with
            | .returned handle => some handle
            | _ => none
          if failed.isEmpty then .ok cancelled
          else .error (.cancelAllError
            (cancelAllMessage (failed.map Prod.fst) targets.length) failed cancelled)

/-- A `CancelAllError` lists the failed cancels of the targets, all of which were reached. -/
theorem cancelAll_eq_cancelAllError_iff {session : Session} {trades : List (Nat × Trade)}
    {envs : Nat → CancelEnv} {errors : List (OrderHandle × OrderError)} :
    (∃ message cancelled,
        cancelAll session trades envs = .error (.cancelAllError message errors cancelled)) ↔
      session.spec.readonly = false ∧ ∃ handles, openOrders session trades = .ok handles ∧
        Reached session (cancelTarget envs) (cancelAllTargets handles) ∧
        errors = failedCancels session (cancelTarget envs) (cancelAllTargets handles) ∧
        errors ≠ [] := by
  unfold cancelAll
  cases hreadonly : session.spec.readonly with
  | true => simp
  | false =>
      cases horders : openOrders session trades with
      | error exc => simp
      | ok handles =>
          have hbroken : ((cancelEach session (cancelTarget envs)
              (cancelAllTargets handles)).map Prod.snd).contains .interrupted = true ↔
                ¬ Reached session (cancelTarget envs) (cancelAllTargets handles) :=
            List.contains_iff_mem.trans interrupted_mem_iff
          simp only [Bool.false_eq_true, if_false]
          by_cases hreached : Reached session (cancelTarget envs) (cancelAllTargets handles)
          · rw [if_neg fun h => hbroken.1 h hreached]
            cases hfailed :
                failedCancels session (cancelTarget envs) (cancelAllTargets handles) with
            | nil => simp [hreached, hfailed]
            | cons first rest =>
                have hnonempty : errors = first :: rest → errors ≠ [] := by
                  rintro rfl
                  exact List.cons_ne_nil first rest
                simpa [hreached, hfailed, eq_comm] using hnonempty
          · rw [if_pos (hbroken.2 hreached)]
            simp [hreached]

end Ib
end MarketConnector
