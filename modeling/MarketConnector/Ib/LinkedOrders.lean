import MarketConnector.Ib.CancelOrder
import MarketConnector.Ib.Orders

/-!
# Ib - Brackets and OCA groups are not all-or-nothing

`place_bracket` and `place_oca` hand their legs to IB one after the other, wait for the
first status of each, and cancel the group when a leg fails.  What IB does with a leg is
given as data.  Only a failure of the waits themselves is followed by a rollback.

Main results:

- Definition `placeLegs`, `placeBracket`, `placeOca`.
- Theorem `allOrNothing_placeLegs_iff`: the exact condition for the common part.
- Theorem `allOrNothing_iff`: the same for both calls.
- Theorem `cancelled_group_left_live`: a caller cancelled during the waits leaves both
  members of an OCA group live.
-/

namespace MarketConnector
namespace Ib

open Foundations

/-! ## Waiting for a leg -/

/-- What reaches a leg that waits for its first status: a status event, or a failure set
by the error router, with the trade's advanced reject text at that time. -/
inductive WaitEvent where
  | status (t : Trade)
  | fails (exc : OrderError) (advancedError : String)

/-- Everything that happens to one leg: what `IB.placeOrder` answers, the events of its
wait, its entry in the handle registry when the group is rolled back, what happens during
its rollback cancel, and its trade when the call is left. -/
structure Leg where
  ref : Nat
  place : IbOrder → Except OrderError Trade
  events : List WaitEvent
  registered : OrderHandle
  cancel : CancelEnv
  final : Trade

/-- A leg that was handed to IB, with the trade it got. -/
structure HandedLeg where
  leg : Leg
  trade : Trade

/-- `_wait_first_status_update`; an error comes with the advanced reject text. -/
def waitFirstStatusUpdate (session : Session) (ref : Nat) (interrupted : Bool) :
    List WaitEvent → Except (OrderError × String) OrderHandle
  | [] => .error (if interrupted then .cancelledError else .timeout, "")
  | .fails exc advancedError :: _ => .error (exc, advancedError)
  | .status t :: rest =>
      if isSyntheticCancel t then waitFirstStatusUpdate session ref interrupted rest
      else if isUnacknowledged t then waitFirstStatusUpdate session ref interrupted rest
      else
        match OrderHandle.fromTrade ref t (some session.spec.clientId) with
        | .error _ => waitFirstStatusUpdate session ref interrupted rest
        | .ok handle => .ok handle

/-- `_await_leg`: a rejection gets the advanced reject text and the quantity. -/
def awaitLeg (session : Session) (interrupted : Bool) (l : HandedLeg) :
    Except OrderError OrderHandle :=
  match waitFirstStatusUpdate session l.leg.ref interrupted l.leg.events with
  | .ok handle => .ok handle
  | .error (.orderRejected code message _ _, advancedError) =>
      .error (.orderRejected code message (if advancedError = "" then none else some advancedError)
        (some l.trade.totalQuantity.positional))
  | .error (exc, _) => .error exc

/-- The leg's wait ended with `OrderRejectedError`. -/
def isRejected (result : Except OrderError OrderHandle) : Bool :=
  match result with
  | .ok _ => false
  | .error exc => exc.isRejection

/-! ## Handing the legs over -/

/-- `_submit_leg` for every leg; the first error stops it.  A leg whose handle cannot be
built has been handed over. -/
def submitLegs (session : Session) : List (IbOrder × Leg) → List HandedLeg × Option OrderError
  | [] => ([], none)
  | (order, leg) :: rest =>
      match leg.place { order with account := session.account.getD order.account } with
      | .error exc => ([], some exc)
      | .ok trade =>
          match OrderHandle.fromTrade leg.ref trade (some session.spec.clientId) with
          | .error exc => ([⟨leg, trade⟩], some exc)
          | .ok _ =>
              let (handed, failure) := submitLegs session rest
              (⟨leg, trade⟩ :: handed, failure)

/-! ## Settling a group -/

/-- `LinkedOrderRejectedError`, or another error. -/
inductive GroupFailure where
  | raised (exc : OrderError)
  | linkedOrderRejected (code : Int) (message : String) (advancedReject : Option String)
      (handles : List OrderHandle) (cancelErrors : Dict Int OrderError)

/-- What became of a leg that was handed over: known rejected, and whether
`ib.cancelOrder` was called for it. -/
structure LegOutcome where
  leg : Leg
  rejected : Bool
  attempted : Bool

structure GroupCall where
  result : Except GroupFailure (List OrderHandle)
  legs : List LegOutcome

/-- The handle a settled leg has: the awaited one, or the registered one. -/
def legHandle (x : HandedLeg × Except OrderError OrderHandle) : OrderHandle :=
  match x.2 with
  | .ok handle => handle
  | .error _ => x.1.leg.registered

/-- The rollback cancel of a leg. -/
def legTarget (x : HandedLeg × Except OrderError OrderHandle) : OrderHandle × CancelEnv :=
  (legHandle x, x.1.leg.cancel)

/-- The rollback cancel of the leg goes to IB for the leg's own trade. -/
def cancelsOwn (session : Session) (x : HandedLeg × Except OrderError OrderHandle) : Bool :=
  reachesIb session (legHandle x) && (legHandle x).trade = x.1.leg.ref

/-- The legs with the results of their waits. -/
def waitedLegs (session : Session) (handed : List HandedLeg) :
    List (HandedLeg × Except OrderError OrderHandle) :=
  handed.map fun l => (l, awaitLeg session false l)

/-- Errors of the waits, in placement order. -/
def waitFailures (waited : List (HandedLeg × Except OrderError OrderHandle)) :
    List OrderError :=
  waited.filterMap fun x =>
    match x.2 with
    | .ok _ => none
    | .error exc => some exc

/-- The legs the rollback cancels: all but the rejected ones. -/
def rollbackTargets (waited : List (HandedLeg × Except OrderError OrderHandle)) :
    List (HandedLeg × Except OrderError OrderHandle) :=
  waited.filter fun x => !isRejected x.2

/-- What becomes of the legs in a rollback. -/
def rollbackOutcomes (session : Session)
    (waited : List (HandedLeg × Except OrderError OrderHandle)) : List LegOutcome :=
  (waited.filter fun x => isRejected x.2).map (fun x => ⟨x.1.leg, true, false⟩) ++
    (cancelEach session legTarget (rollbackTargets waited)).map fun y =>
      ⟨y.1.1.leg, false, y.2 ≠ .notReached && cancelsOwn session y.1⟩

/-- How a group ends after a rollback; `first` is the first error of the waits. -/
def rollbackResult (session : Session)
    (waited : List (HandedLeg × Except OrderError OrderHandle)) (first : OrderError) :
    GroupFailure :=
  let targets := rollbackTargets waited
  if ((cancelEach session legTarget targets).map Prod.snd).contains .interrupted then
    .raised .cancelledError
  else
    match (waitFailures waited).find? OrderError.isRejection with
    | some (.orderRejected code message advancedReject _) =>
        .linkedOrderRejected code message advancedReject (waited.map legHandle)
          (Dict.ofList ((failedCancels session legTarget targets).map fun x =>
            ((legHandle x.1).orderId, x.2)))
    | _ => .raised first

/-- `_settle_legs`; `interrupted` says that the calling task is cancelled while the waits
go on. -/
def settleLegs (session : Session) (interrupted : Bool) (handed : List HandedLeg) : GroupCall :=
  if interrupted then
    ⟨.error (.raised .cancelledError),
      handed.map fun l => ⟨l.leg, isRejected (awaitLeg session true l), false⟩⟩
  else
    let waited := waitedLegs session handed
    match waitFailures waited with
    | [] => ⟨.ok (waited.map legHandle), waited.map fun x => ⟨x.1.leg, false, false⟩⟩
    | first :: _ =>
        ⟨.error (rollbackResult session waited first), rollbackOutcomes session waited⟩

/-- Hand the legs over and settle the group. -/
def placeLegs (session : Session) (interrupted : Bool) (legs : List (IbOrder × Leg)) :
    GroupCall :=
  match submitLegs session legs with
  | (handed, some exc) => ⟨.error (.raised exc), handed.map fun l => ⟨l.leg, false, false⟩⟩
  | (handed, none) => settleLegs session interrupted handed

/-! ## The two calls -/

/-- `_require_writable` and `_require_connected`. -/
def requireReady (session : Session) (op : String) : Except OrderError Unit :=
  if session.spec.readonly then .error (.readOnlyMode op)
  else if session.routerUp = false then
    .error (.connectionLost 1100 "transport not connected")
  else .ok ()

/-- `place_bracket` up to the first IB call that counts: checks and linked orders. -/
def bracketOrders (session : Session) (entry takeProfit stopLoss : HBOrder)
    (parentId takeProfitId stopLossId : Nat) : Except OrderError (List IbOrder) := do
  requireReady session "place_bracket"
  match validateBracket entry takeProfit stopLoss with
  | some text => .error (.valueError text)
  | none =>
      let entry ← hbToIbOrder entry
      let takeProfit ← hbToIbOrder takeProfit
      let stopLoss ← hbToIbOrder stopLoss
      .ok (linkBracket entry takeProfit stopLoss parentId takeProfitId stopLossId)

/-- `place_oca` up to the first IB call. -/
def ocaOrders (session : Session) (group : String) (ocaType : OcaType) (orders : List HBOrder) :
    Except OrderError (List IbOrder) := do
  requireReady session "place_oca"
  if orders.length < 2 then
    .error (.valueError ("an OCA group needs at least 2 orders, got " ++ toString orders.length))
  else
    let orders ← orders.mapM hbToIbOrder
    .ok (linkOca group ocaType orders)

/-- Place prepared orders; `legs k` says what happens to the `k`-th of them. -/
def placePrepared (session : Session) (interrupted : Bool) (legs : Nat → Leg)
    (prepared : Except OrderError (List IbOrder)) : GroupCall :=
  match prepared with
  | .error exc => ⟨.error (.raised exc), []⟩
  | .ok orders => placeLegs session interrupted (orders.zipIdx.map fun x => (x.1, legs x.2))

/-- `place_bracket`. -/
def placeBracket (session : Session) (entry takeProfit stopLoss : HBOrder)
    (parentId takeProfitId stopLossId : Nat) (interrupted : Bool) (legs : Nat → Leg) :
    GroupCall :=
  placePrepared session interrupted legs
    (bracketOrders session entry takeProfit stopLoss parentId takeProfitId stopLossId)

/-- `place_oca`. -/
def placeOca (session : Session) (group : String) (ocaType : OcaType) (orders : List HBOrder)
    (interrupted : Bool) (legs : Nat → Leg) : GroupCall :=
  placePrepared session interrupted legs (ocaOrders session group ocaType orders)

/-! ## The property -/

/-- A call that does not return has attempted to cancel every leg it handed over, except
those known rejected and those whose order is finished. -/
def AllOrNothing (call : GroupCall) : Prop :=
  (∀ handles, call.result ≠ .ok handles) →
    ∀ outcome ∈ call.legs, outcome.rejected = false →
      isFinished outcome.leg.final = false → outcome.attempted = true

/-- Calls that meet the property.  When a leg cannot be handed over, the legs before it
are finished; when the caller is cancelled during the waits, all legs are rejected or
finished; in a rollback, every unfinished leg is reached before a cancellation of the
caller, by a handle that is its own and not terminal. -/
def KeepsGroup (session : Session) (interrupted : Bool) (legs : List (IbOrder × Leg)) : Prop :=
  match submitLegs session legs with
  | (handed, some _) => ∀ l ∈ handed, isFinished l.leg.final = true
  | (handed, none) =>
      if interrupted then
        ∀ l ∈ handed, isRejected (awaitLeg session true l) = true ∨ isFinished l.leg.final = true
      else
        waitFailures (waitedLegs session handed) ≠ [] →
          ∀ pre x post, rollbackTargets (waitedLegs session handed) = pre ++ x :: post →
            isFinished x.1.leg.final = false →
              Reached session legTarget pre ∧ cancelsOwn session x = true

/-! ## Exactness -/

/-- Legs that are left alone have to be rejected or finished. -/
theorem allOrNothing_untouched_iff (failure : GroupFailure) (handed : List HandedLeg)
    (rejected : HandedLeg → Bool) :
    AllOrNothing ⟨.error failure, handed.map fun l => ⟨l.leg, rejected l, false⟩⟩ ↔
      ∀ l ∈ handed, rejected l = true ∨ isFinished l.leg.final = true := by
  have hraises : ∀ handles : List OrderHandle, Except.error failure ≠ .ok handles := by
    intro handles h
    cases h
  unfold AllOrNothing
  rw [imp_iff_right hraises, List.forall_mem_map]
  refine forall_congr' fun l => forall_congr' fun _ => ?_
  cases rejected l <;> cases isFinished l.leg.final <;> simp

/-- In a rollback, the attempted legs are those that are reached by their own handle. -/
theorem attempted_iff {session : Session}
    {waited : List (HandedLeg × Except OrderError OrderHandle)} :
    (∀ outcome ∈ rollbackOutcomes session waited, outcome.rejected = false →
        isFinished outcome.leg.final = false → outcome.attempted = true) ↔
      ∀ pre x post, rollbackTargets waited = pre ++ x :: post →
        isFinished x.1.leg.final = false →
          Reached session legTarget pre ∧ cancelsOwn session x = true := by
  unfold rollbackOutcomes
  rw [List.forall_mem_append]
  constructor
  · rintro ⟨-, htargets⟩ pre x post hsplit hlive
    by_cases hreached : Reached session legTarget pre
    · have hmem : (x, outcomeOf session (legTarget x)) ∈
          cancelEach session legTarget (rollbackTargets waited) :=
        mem_cancelEach_iff.2 ⟨pre, post, hsplit, Or.inl ⟨hreached, rfl⟩⟩
      have hattempted := htargets _ (List.mem_map_of_mem hmem) rfl hlive
      simp only [Bool.and_eq_true] at hattempted
      exact ⟨hreached, hattempted.2⟩
    · have hmem : (x, .notReached) ∈
          cancelEach session legTarget (rollbackTargets waited) :=
        mem_cancelEach_iff.2 ⟨pre, post, hsplit, Or.inr ⟨hreached, rfl⟩⟩
      have hattempted := htargets _ (List.mem_map_of_mem hmem) rfl hlive
      cases hattempted
  · intro h
    constructor
    · intro outcome hmem hrejected
      obtain ⟨x, -, rfl⟩ := List.mem_map.1 hmem
      cases hrejected
    · intro outcome hmem _ hlive
      obtain ⟨⟨x, out⟩, hx, rfl⟩ := List.mem_map.1 hmem
      obtain ⟨pre, post, hsplit, hout⟩ := mem_cancelEach_iff.1 hx
      obtain ⟨hreached, hown⟩ := h pre x post hsplit hlive
      rcases hout with ⟨-, rfl⟩ | ⟨hnot, -⟩
      · simp [outcomeOf_ne_notReached, hown]
      · exact absurd hreached hnot

/-- The exact condition for handing over and settling a group. -/
theorem allOrNothing_placeLegs_iff (session : Session) (interrupted : Bool)
    (legs : List (IbOrder × Leg)) :
    AllOrNothing (placeLegs session interrupted legs) ↔ KeepsGroup session interrupted legs := by
  unfold placeLegs KeepsGroup
  rcases submitLegs session legs with ⟨handed, failure⟩
  cases failure with
  | some exc =>
      refine (allOrNothing_untouched_iff (.raised exc) handed fun _ => false).trans ?_
      simp
  | none =>
      cases interrupted with
      | true =>
          exact allOrNothing_untouched_iff (.raised .cancelledError) handed fun l =>
            isRejected (awaitLeg session true l)
      | false =>
          simp only [settleLegs, Bool.false_eq_true, if_false]
          cases hfail : waitFailures (waitedLegs session handed) with
          | nil =>
              refine iff_of_true (fun hraises => ?_) fun h => absurd rfl h
              exact absurd rfl (hraises _)
          | cons first rest =>
              have hraises : ∀ handles : List OrderHandle,
                  Except.error (rollbackResult session (waitedLegs session handed) first) ≠
                    .ok handles := by
                intro handles h
                cases h
              have hfailed : first :: rest ≠ [] := by simp
              exact (imp_iff_right hraises).trans (attempted_iff.trans (imp_iff_right hfailed).symm)

/-- A call that fails before it hands anything over meets the property. -/
theorem allOrNothing_placePrepared_iff (session : Session) (interrupted : Bool)
    (legs : Nat → Leg) (prepared : Except OrderError (List IbOrder)) :
    AllOrNothing (placePrepared session interrupted legs prepared) ↔
      ∀ orders, prepared = .ok orders →
        KeepsGroup session interrupted (orders.zipIdx.map fun x => (x.1, legs x.2)) := by
  cases prepared with
  | error exc =>
      refine iff_of_true ?_ fun orders h => by cases h
      intro _ outcome hmem
      cases hmem
  | ok orders =>
      simp only [placePrepared, allOrNothing_placeLegs_iff, Except.ok.injEq, forall_eq']

/-- A bracket or OCA call is all-or-nothing exactly when its prepared legs are kept
together. -/
theorem allOrNothing_iff (session : Session) (interrupted : Bool) (legs : Nat → Leg) :
    (∀ entry takeProfit stopLoss parentId takeProfitId stopLossId,
      AllOrNothing (placeBracket session entry takeProfit stopLoss parentId takeProfitId
          stopLossId interrupted legs) ↔
        ∀ orders, bracketOrders session entry takeProfit stopLoss parentId takeProfitId
            stopLossId = .ok orders →
          KeepsGroup session interrupted (orders.zipIdx.map fun x => (x.1, legs x.2))) ∧
      ∀ group ocaType requests,
        AllOrNothing (placeOca session group ocaType requests interrupted legs) ↔
          ∀ orders, ocaOrders session group ocaType requests = .ok orders →
            KeepsGroup session interrupted (orders.zipIdx.map fun x => (x.1, legs x.2)) :=
  ⟨fun _ _ _ _ _ _ => allOrNothing_placePrepared_iff session interrupted legs _,
    fun _ _ _ => allOrNothing_placePrepared_iff session interrupted legs _⟩

/-! ## A group left live -/

/-- A limit order to buy one share. -/
def sampleRequest : HBOrder where
  orderType := .limit
  side := .buy
  amount := .ofNat 1
  price := some (.ofNat 100)
  stopPrice := none
  timeInForce := .day
  outsideRth := false

/-- A trade IB has not answered yet. -/
def pendingTrade (orderId : Int) : Trade where
  orderId := orderId
  permId := 0
  clientId := 1
  totalQuantity := .ofNat 1
  status := .pendingSubmit
  filled := none
  avgFillPrice := none
  advancedError := ""
  log := []

/-- The first handle of a trade of this client. -/
def pendingHandle (ref : Nat) (orderId : Int) : OrderHandle where
  orderId := orderId
  status := .pending
  rawStatus := .pendingSubmit
  filledQty := .ofNat 0
  avgFillPrice := none
  trade := ref
  clientId := 1
  owned := true
  manual := false

/-- A leg that IB takes and does not answer. -/
def silentLeg (k : Nat) : Leg where
  ref := k
  place := fun _ => .ok (pendingTrade (k + 1))
  events := []
  registered := pendingHandle k (k + 1)
  cancel := ⟨none, pendingTrade (k + 1), [], false, fun h => by cases h⟩
  final := pendingTrade (k + 1)

/-- A connected session with the default specification. -/
def sampleSession : Session :=
  ⟨.default, some "DU1", true⟩

/-- The caller of `place_oca` is cancelled while the two members wait for their first
status: both stay at IB and no cancel is attempted. -/
theorem cancelled_group_left_live :
    ¬ AllOrNothing (placeOca sampleSession "hb-oca-0" .cancelWithBlock
      [sampleRequest, sampleRequest] true silentLeg) := by
  intro h
  have hattempted := h (fun _ hok => by cases hok) ⟨silentLeg 0, false, false⟩
    List.mem_cons_self rfl rfl
  cases hattempted

end Ib
end MarketConnector
