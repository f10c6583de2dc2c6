import MarketConnector.Kraken.OpenOrders

/-!
# Kraken - The open-order cap under concurrent calls

A call checks the local count before its first await and moves it when its reply is
processed.  Between the two it counts nowhere, so calls that overlap each find the same
room.

Main results:

- Theorem `withinCap_step`: what keeps the open and the waiting orders of a pair under the
  cap.
- Theorem `sendsFit_iff`: the runs after whose checks every send stays under the cap.
- Theorem `overlapping_batches_pass_cap`: five batches that overlap.
-/

namespace MarketConnector
namespace Kraken

open Foundations

/-! ## Orders that are not on the book yet -/

/-- Orders of a call that has sent its request, on which the exchange has not acted. -/
def OrderCall.unanswered (pair : String) : OrderCall → Nat
  | ⟨op, .sent _ none⟩ => op.adds pair
  | _ => 0

/-- Orders that a call past its check may still open: those of its request, until the
exchange acts on it, and again once it is going to be sent again. -/
def OrderCall.waiting (pair : String) : OrderCall → Nat
  | ⟨op, .reserving⟩ | ⟨op, .sent _ none⟩ | ⟨op, .sleeping _ _⟩ => op.adds pair
  | _ => 0

/-- Orders of a pair that adds have sent and the exchange has not answered, whether or not
somebody still waits for the answer. -/
def unansweredOrders (s : Trading) (pair : String) : Nat :=
  s.calls.total (OrderCall.unanswered pair) + s.abandoned.total (OrderOp.adds pair)

/-- Orders of a pair that adds past their check may still open. -/
def waitingOrders (s : Trading) (pair : String) : Nat :=
  s.calls.total (OrderCall.waiting pair) + s.abandoned.total (OrderOp.adds pair)

/-- `n` more orders of a pair stay under the cap, with all that are open and all that are
sent and not answered. -/
def FitsSent (tier : KrakenAPITier) (s : Trading) (pair : String) (n : Nat) : Prop :=
  (openOrders s pair + unansweredOrders s pair + n : Int) ≤ maxOpenOrdersPerPair tier

/-- `n` more orders of a pair stay under the cap, with all that are open and all that wait. -/
def FitsWaiting (tier : KrakenAPITier) (s : Trading) (pair : String) (n : Nat) : Prop :=
  (openOrders s pair + waitingOrders s pair + n : Int) ≤ maxOpenOrdersPerPair tier

/-! ## Property and condition -/

/-- A request is sent, for the first time or again. -/
def TradeLabel.IsSend : TradeLabel → Prop
  | .transmit _ | .retries _ => True
  | .placeOrder _ | .placeOrdersBatch _ _ | .cancelOrder _ _ | .cancelOrdersBatch _
  | .amendOrder _ | .editOrder _ | .snapshot _ | .recounted _ | .executes _ _ | .refuses _
  | .replied _ | .unavailable _ | .fails _ | .executesLate _ _ | .refusesLate _
  | .closes _ => False

/-- A step that sends an add, for the first time or again, stays under the cap. -/
def SendsWithinCap (tier : KrakenAPITier) (s : Trading) : TradeLabel → Prop
  | .transmit id => ∀ pair n,
      s.calls.get? id = some ⟨.add pair n, .reserving⟩ → FitsSent tier s pair n
  | .retries id => ∀ pair n attempt outcome,
      s.calls.get? id = some ⟨.add pair n, .sleeping attempt outcome⟩ → FitsSent tier s pair n
  | .placeOrder _ | .placeOrdersBatch _ _ | .cancelOrder _ _ | .cancelOrdersBatch _
  | .amendOrder _ | .editOrder _ | .snapshot _ | .recounted _ | .executes _ _ | .refuses _
  | .replied _ | .unavailable _ | .fails _ | .executesLate _ _ | .refusesLate _
  | .closes _ => True

/-- From here on the calls past their check may be sent in any order, each send under the
cap. -/
def SendsFit (tier : KrakenAPITier) (altname : String → String) (s : Trading) : Prop :=
  (tradingMachine tier altname).AlwaysAfter TradeLabel.IsSend
    (fun s l _ => SendsWithinCap tier s l) s

/-- A check that passes, on the local count or on the open orders re-read, does so while the
orders fit beside all that are open and all that wait; and so does the 5xx that answers an
add on which the exchange has acted and that is going to be sent again. -/
def ChecksCover (tier : KrakenAPITier) (s : Trading) : TradeLabel → Prop
  | .placeOrder pair => hasRoom tier s.openCounts pair 1 = true → FitsWaiting tier s pair 1
  | .placeOrdersBatch pair n => 2 ≤ n ∧ n ≤ 15 → hasRoom tier s.openCounts pair n = true →
      FitsWaiting tier s pair n
  | .recounted id => ∀ pair n reported,
      s.calls.get? id = some ⟨.add pair n, .recounting (some reported)⟩ →
        (reported.count pair : Int) + n ≤ maxOpenOrdersPerPair tier → FitsWaiting tier s pair n
  | .unavailable id => ∀ pair n attempt outcome,
      s.calls.get? id = some ⟨.add pair n, .sent attempt (some outcome)⟩ → attempt < 3 →
        FitsWaiting tier s pair n
  | .cancelOrder _ _ | .cancelOrdersBatch _ | .amendOrder _ | .editOrder _ | .snapshot _
  | .transmit _ | .executes _ _ | .refuses _ | .replied _ | .retries _ | .fails _
  | .executesLate _ _ | .refusesLate _ | .closes _ => True

/-- The open and the waiting orders of every pair together stay under the cap. -/
def WithinCap (tier : KrakenAPITier) (s : Trading) : Prop :=
  ∀ pair, FitsWaiting tier s pair 0

/-! ## Totals over the calls -/

theorem unanswered_le_waiting (pair : String) (call : OrderCall) :
    call.unanswered pair ≤ call.waiting pair := by
  unfold OrderCall.unanswered OrderCall.waiting
  split
  · exact Nat.le_refl _
  · exact Nat.zero_le _

/-- An add that is sent is one of the waiting ones, and not yet one of the sent ones. -/
theorem unansweredOrders_add_le {s : Trading} {id : Nat} {call : OrderCall} {pair : String}
    (hid : s.calls.get? id = some call) (hsent : call.unanswered pair = 0) :
    unansweredOrders s pair + call.waiting pair ≤ waitingOrders s pair := by
  have hcalls : s.calls.total (OrderCall.unanswered pair) + call.waiting pair ≤
      s.calls.total (OrderCall.waiting pair) := by
    refine Dict.total_add_le_of_get? hid ?_ fun _ call' _ => unanswered_le_waiting pair call'
    rw [hsent]
    omega
  unfold unansweredOrders waitingOrders
  omega

theorem waitingOrders_setPhase {s : Trading} {id : Nat} {op : OrderOp} {before : OrderPhase}
    (hid : s.calls.get? id = some ⟨op, before⟩) (after : OrderPhase) (pair : String) :
    waitingOrders (setPhase s id op after) pair + (OrderCall.mk op before).waiting pair =
      waitingOrders s pair + (OrderCall.mk op after).waiting pair := by
  have hcalls := Dict.total_set_of_get? hid ⟨op, after⟩ (OrderCall.waiting pair)
  unfold waitingOrders Kraken.setPhase
  simp only
  omega

theorem waitingOrders_startCall {s : Trading} (h : BookInv s) (op : OrderOp)
    (phase : OrderPhase) (pair : String) :
    waitingOrders (startCall s op phase) pair =
      waitingOrders s pair + (OrderCall.mk op phase).waiting pair := by
  have habsent : s.calls.get? s.next = none := by
    cases hnext : s.calls.get? s.next with
    | none => rfl
    | some call => exact absurd (h.fresh s.next call hnext) (Nat.lt_irrefl _)
  have hcalls := Dict.total_set_of_absent habsent ⟨op, phase⟩ (OrderCall.waiting pair)
  unfold waitingOrders Kraken.startCall
  simp only
  omega

theorem waitingOrders_endOrderCall (s : Trading) (id : Nat) (pair : String) :
    waitingOrders (endOrderCall s id) pair ≤ waitingOrders s pair :=
  Nat.add_le_add_right (Dict.total_pop_le _ _ _) _

/-- A call that ends leaves the orders of its request waiting. -/
theorem waitingOrders_abandon {s : Trading} {id attempt : Nat} {op : OrderOp}
    (hid : s.calls.get? id = some ⟨op, .sent attempt none⟩) (pair : String) :
    waitingOrders (abandon s id op) pair ≤ waitingOrders s pair := by
  have hcalls := Dict.total_pop_of_get? hid (OrderCall.waiting pair)
  have hleft : (s.abandoned.set id op).total (OrderOp.adds pair) ≤
      s.abandoned.total (OrderOp.adds pair) + op.adds pair := Dict.total_set_le _ _ _ _
  have hwaits : (OrderCall.mk op (.sent attempt none)).waiting pair = op.adds pair := rfl
  unfold waitingOrders abandon Kraken.endOrderCall
  simp only
  omega

theorem waitingOrders_endAbandoned {s : Trading} {id : Nat} {op : OrderOp}
    (hid : s.abandoned.get? id = some op) (pair : String) :
    waitingOrders (endAbandoned s id) pair + op.adds pair = waitingOrders s pair := by
  have hleft := Dict.total_pop_of_get? hid (OrderOp.adds pair)
  unfold waitingOrders endAbandoned
  simp only
  omega

theorem waitingOrders_acts {s t : Trading} {id accepted : Nat} {op : OrderOp}
    {outcome : Outcome} (h : Acts s id accepted op t outcome) (pair : String) :
    waitingOrders t pair = waitingOrders s pair := by
  obtain ⟨hcalls, -, habandoned⟩ := h.frame
  unfold waitingOrders
  rw [hcalls, habandoned]

/-! ## Steps -/

/-- A step that opens no order and lets none wait. -/
theorem WithinCap.of_le {tier : KrakenAPITier} {s s' : Trading} (h : WithinCap tier s)
    (hle : ∀ pair, openOrders s' pair + waitingOrders s' pair ≤
      openOrders s pair + waitingOrders s pair) : WithinCap tier s' := by
  intro pair
  have hpair := h pair
  have hsum := hle pair
  unfold FitsWaiting at hpair ⊢
  omega

/-- A step that lets `n` more orders of a pair wait. -/
theorem WithinCap.of_add {tier : KrakenAPITier} {s s' : Trading} {pair : String} {n : Nat}
    (h : WithinCap tier s) (hfits : FitsWaiting tier s pair n)
    (hle : ∀ pair', openOrders s' pair' + waitingOrders s' pair' ≤
      openOrders s pair' + waitingOrders s pair' + if pair = pair' then n else 0) :
    WithinCap tier s' := by
  intro pair'
  have hpair := h pair'
  have hsum := hle pair'
  unfold FitsWaiting at hfits hpair ⊢
  split_ifs at hsum with heq
  · subst heq
    omega
  · omega

/-- A call moves on, and has no more orders waiting. -/
theorem WithinCap.setPhase {tier : KrakenAPITier} {s : Trading} (h : WithinCap tier s) {id : Nat}
    {op : OrderOp} {before after : OrderPhase} (hid : s.calls.get? id = some ⟨op, before⟩)
    (hle : ∀ pair, (OrderCall.mk op after).waiting pair ≤ (OrderCall.mk op before).waiting pair) :
    WithinCap tier (setPhase s id op after) := by
  refine h.of_le fun pair => ?_
  have hset := waitingOrders_setPhase hid after pair
  have hcall := hle pair
  have hopen : openOrders (Kraken.setPhase s id op after) pair = openOrders s pair := rfl
  omega

/-- A call ends. -/
theorem WithinCap.endOrderCall {tier : KrakenAPITier} {s : Trading} (h : WithinCap tier s)
    (id : Nat) : WithinCap tier (endOrderCall s id) := by
  refine h.of_le fun pair => ?_
  have hend := waitingOrders_endOrderCall s id pair
  have hopen : openOrders (Kraken.endOrderCall s id) pair = openOrders s pair := rfl
  omega

/-- A call begins that has no orders waiting. -/
theorem WithinCap.startCall {tier : KrakenAPITier} {s : Trading} (h : WithinCap tier s)
    (hbook : BookInv s) {op : OrderOp} {phase : OrderPhase}
    (hnone : ∀ pair, (OrderCall.mk op phase).waiting pair = 0) :
    WithinCap tier (startCall s op phase) := by
  refine h.of_le fun pair => ?_
  have hstart := waitingOrders_startCall hbook op phase pair
  have hcall := hnone pair
  have hopen : openOrders (Kraken.startCall s op phase) pair = openOrders s pair := rfl
  omega

/-- An add begins: it waits only when its check passes. -/
theorem WithinCap.startAdd {tier : KrakenAPITier} {s : Trading} (h : WithinCap tier s)
    (hbook : BookInv s) {pair : String} {n : Nat}
    (hfits : hasRoom tier s.openCounts pair n = true → FitsWaiting tier s pair n) :
    WithinCap tier (startAdd tier s pair n) := by
  unfold Kraken.startAdd
  split_ifs with hroom
  · refine h.of_add (hfits hroom) fun pair' => ?_
    have hstart := waitingOrders_startCall hbook (.add pair n) .reserving pair'
    exact (Nat.add_left_cancel_iff.2 hstart).le.trans (Nat.add_assoc _ _ _).ge
  · exact h.startCall hbook fun _ => rfl

/-- The book changes without a new order of any pair. -/
theorem WithinCap.book {tier : KrakenAPITier} {s : Trading} (h : WithinCap tier s)
    {book : Dict Nat OpenOrder} (issued : Nat)
    (hle : ∀ f : OpenOrder → Nat, book.total f ≤ s.book.total f) :
    WithinCap tier { s with book := book, issued := issued } :=
  h.of_le fun _ => Nat.add_le_add_right (hle _) _

/-- The check of an add passes, or its orders wait again: they are as many as it adds. -/
theorem WithinCap.setPhase_add {tier : KrakenAPITier} {s : Trading} (h : WithinCap tier s)
    {id n : Nat} {pair : String} {before after : OrderPhase}
    (hid : s.calls.get? id = some ⟨.add pair n, before⟩) (hfits : FitsWaiting tier s pair n)
    (hle : ∀ pair', (OrderCall.mk (.add pair n) after).waiting pair' ≤
      if pair = pair' then n else 0) :
    WithinCap tier (Kraken.setPhase s id (.add pair n) after) := by
  refine h.of_add hfits fun pair' => ?_
  have hset := waitingOrders_setPhase hid after pair'
  have hafter := hle pair'
  have hopen : openOrders (Kraken.setPhase s id (.add pair n) after) pair' =
      openOrders s pair' := rfl
  omega

/-- The exchange executes a request whose orders waited, and they wait no more. -/
theorem WithinCap.executes {tier : KrakenAPITier} {s s' t : Trading} (h : WithinCap tier s)
    {id accepted : Nat} {op : OrderOp} {outcome : Outcome} (hacts : Acts s id accepted op t outcome)
    (hwait : ∀ pair, waitingOrders s' pair + op.adds pair = waitingOrders t pair)
    (hopen : ∀ pair, openOrders s' pair = openOrders t pair) : WithinCap tier s' := by
  refine h.of_le fun pair => ?_
  have hwaited := hwait pair
  have hsame := waitingOrders_acts hacts pair
  have hopened := hacts.openOrders_le pair
  rw [hopen pair]
  omega

/-- The open and the waiting orders stay under the cap as long as the checks cover them. -/
theorem withinCap_step {tier : KrakenAPITier} {altname : String → String} {s s' : Trading}
    {l : TradeLabel} (hbook : BookInv s) (h : WithinCap tier s) (hcover : ChecksCover tier s l)
    (hstep : tradingStep tier altname s l = some s') : WithinCap tier s' := by
  cases tradingStep_move hstep with
  | placeOrder => exact h.startAdd hbook hcover
  | placeOrdersBatch hsize => exact h.startAdd hbook (hcover hsize)
  | wrongBatch => exact h
  | cancelOrder => exact h.startCall hbook fun _ => rfl
  | cancelOrdersBatch => exact h.startCall hbook fun _ => rfl
  | wrongCancel => exact h
  | amendOrder => exact h.startCall hbook fun _ => rfl
  | editOrder => exact h.startCall hbook fun _ => rfl
  | snapshot hid => exact h.setPhase hid fun _ => Nat.zero_le _
  | @hasRoom id pair n reported hid hroom =>
      have hcounted : WithinCap tier { s with
          openCounts := recount s.openCounts pair reported } := h
      exact hcounted.setPhase_add hid (hcover pair n reported hid hroom) fun _ => Nat.le_refl _
  | @full id pair n reported hid => exact h.endOrderCall id
  | transmit hid => exact h.setPhase hid fun _ => Nat.le_refl _
  | @executes id attempt accepted op outcome t hid hacts =>
      have hid' : t.calls.get? id = some ⟨op, .sent attempt none⟩ := by
        rw [hacts.frame.1, hid]
      refine h.executes hacts (fun pair => ?_) fun _ => rfl
      exact waitingOrders_setPhase hid' (.sent attempt (some outcome)) pair
  | refuses hid => exact h.setPhase hid fun _ => Nat.zero_le _
  | @replied id attempt op outcome hid => exact h.endOrderCall id
  | @backsOff id attempt op outcome hid hleft =>
      cases outcome with
      | none => exact h.setPhase hid fun _ => Nat.le_refl _
      | some outcome =>
          cases op with
          | add pair n =>
              exact h.setPhase_add hid (hcover pair n attempt outcome hid hleft)
                fun _ => Nat.le_refl _
          | cancel orders => exact h.setPhase hid fun _ => Nat.le_refl _
          | amend txid => exact h.setPhase hid fun _ => Nat.le_refl _
          | edit txid => exact h.setPhase hid fun _ => Nat.le_refl _
  | exhausted hid hleft => exact h.endOrderCall _
  | retries hid => exact h.setPhase hid fun _ => Nat.le_refl _
  | @abandons id attempt op hid =>
      refine h.of_le fun pair => ?_
      have hwait := waitingOrders_abandon hid pair
      have hopen : openOrders (abandon s id op) pair = openOrders s pair := rfl
      omega
  | fails hid => exact h.endOrderCall _
  | @executesLate id accepted op outcome t hid hacts =>
      have hid' : t.abandoned.get? id = some op := by
        rw [hacts.frame.2.2, hid]
      exact h.executes hacts (fun pair => waitingOrders_endAbandoned hid' pair) fun _ => rfl
  | @refusesLate id op hid =>
      refine h.of_le fun pair => ?_
      have hend := waitingOrders_endAbandoned hid pair
      have hopen : openOrders (endAbandoned s id) pair = openOrders s pair := rfl
      omega
  | closes => exact h.book s.issued fun f => Dict.total_pop_le _ _ f

/-! ## Sends -/

/-- A waiting add that is sent stays under the cap. -/
theorem fitsSent_of_waiting {tier : KrakenAPITier} {s : Trading} (h : WithinCap tier s)
    {id n : Nat} {call : OrderCall} {pair : String} (hid : s.calls.get? id = some call)
    (hsent : call.unanswered pair = 0) (hwaits : call.waiting pair = n) :
    FitsSent tier s pair n := by
  have hpair := h pair
  have hadd := unansweredOrders_add_le hid hsent
  rw [hwaits] at hadd
  unfold FitsWaiting at hpair
  unfold FitsSent
  omega

theorem WithinCap.sendsWithinCap {tier : KrakenAPITier} {s : Trading} (h : WithinCap tier s)
    (l : TradeLabel) : SendsWithinCap tier s l := by
  cases l with
  | transmit id =>
      intro pair n hid
      exact fitsSent_of_waiting h hid rfl (if_pos rfl)
  | retries id =>
      intro pair n attempt outcome hid
      exact fitsSent_of_waiting h hid rfl (if_pos rfl)
  | _ => trivial

theorem TradeLabel.IsSend.covers {tier : KrakenAPITier} {s : Trading} {l : TradeLabel}
    (hl : l.IsSend) : ChecksCover tier s l := by
  cases l with
  | transmit id => trivial
  | retries id => trivial
  | _ => exact hl.elim

theorem WithinCap.sendsFit {tier : KrakenAPITier} (altname : String → String) {s : Trading}
    (hbook : BookInv s) (h : WithinCap tier s) : SendsFit tier altname s := by
  have hkept : ∀ t l t', BookInv t ∧ WithinCap tier t → TradeLabel.IsSend l →
      (tradingMachine tier altname).step t l = some t' →
        SendsWithinCap tier t l ∧ BookInv t' ∧ WithinCap tier t' :=
    fun t l t' hinv hl hstep => ⟨hinv.2.sendsWithinCap l, hinv.1.step hstep,
      withinCap_step hinv.1 hinv.2 hl.covers hstep⟩
  exact Machine.alwaysAfter_of_invariant _ hkept ⟨hbook, h⟩

/-- A send of such a state is one of them. -/
theorem SendsFit.sendsWithinCap {tier : KrakenAPITier} {altname : String → String}
    {s s' : Trading} {l : TradeLabel} (h : SendsFit tier altname s)
    (hstep : tradingStep tier altname s l = some s') : SendsWithinCap tier s l := by
  cases l with
  | transmit id =>
      have hsend : TradeLabel.IsSend (.transmit id) := trivial
      exact (h.step hsend hstep).1
  | retries id =>
      have hsend : TradeLabel.IsSend (.retries id) := trivial
      exact (h.step hsend hstep).1
  | _ => trivial

/-! ## Why the condition is needed -/

/-- An add past its check that is not sent, or not sent again yet. -/
def OrderPhase.Unsent : OrderPhase → Prop
  | .reserving | .sleeping _ _ => True
  | .recounting _ | .sent _ _ => False

/-- Such an add can be sent. -/
theorem OrderPhase.Unsent.send {phase : OrderPhase} (hphase : phase.Unsent)
    (tier : KrakenAPITier) (altname : String → String) {s : Trading} {id n : Nat} {pair : String}
    (hid : s.calls.get? id = some ⟨.add pair n, phase⟩) :
    ∃ l attempt, TradeLabel.IsSend l ∧
      tradingStep tier altname s l =
        some (setPhase s id (.add pair n) (.sent attempt none)) ∧
      (SendsWithinCap tier s l → FitsSent tier s pair n) := by
  cases phase with
  | recounting reported => exact hphase.elim
  | sent attempt outcome => exact hphase.elim
  | reserving =>
      refine ⟨.transmit id, 0, trivial, ?_, fun h => h pair n hid⟩
      simp [tradingStep, hid]
  | sleeping attempt outcome =>
      refine ⟨.retries id, attempt + 1, trivial, ?_, fun h => h pair n attempt outcome hid⟩
      simp [tradingStep, hid]

theorem OrderPhase.Unsent.waiting {phase : OrderPhase} (hphase : phase.Unsent) (pair : String)
    (n : Nat) : (OrderCall.mk (.add pair n) phase).waiting pair = n ∧
      (OrderCall.mk (.add pair n) phase).unanswered pair = 0 := by
  cases phase with
  | recounting reported => exact hphase.elim
  | sent attempt outcome => exact hphase.elim
  | reserving => exact ⟨if_pos rfl, rfl⟩
  | sleeping attempt outcome => exact ⟨if_pos rfl, rfl⟩

/-- A call with orders that wait without being sent. -/
theorem unsent_of_ne {call : OrderCall} {pair : String}
    (hne : call.waiting pair ≠ call.unanswered pair) :
    ∃ n phase, call = ⟨.add pair n, phase⟩ ∧ phase.Unsent ∧ 0 < n := by
  obtain ⟨op, phase⟩ := call
  have hunsent : phase.Unsent ∧ op.adds pair ≠ 0 := by
    cases phase with
    | recounting reported => exact absurd rfl hne
    | reserving => exact ⟨trivial, hne⟩
    | sent attempt outcome => cases outcome <;> exact absurd rfl hne
    | sleeping attempt outcome => exact ⟨trivial, hne⟩
  obtain ⟨hphase, hpos⟩ := hunsent
  cases op with
  | add pair' n =>
      simp only [OrderOp.adds] at hpos
      split_ifs at hpos with hpair
      · exact ⟨n, phase, by rw [hpair], hphase, Nat.pos_of_ne_zero hpos⟩
      · exact absurd rfl hpos
  | cancel orders => exact absurd rfl hpos
  | amend txid => exact absurd rfl hpos
  | edit txid => exact absurd rfl hpos

/-- With every other waiting add sent, the last one fits only if all of them fit. -/
theorem fitsWaiting_of_fitsSent {tier : KrakenAPITier} {s : Trading} {id n : Nat}
    {pair : String} {phase : OrderPhase} (hphase : phase.Unsent)
    (hid : s.calls.get? id = some ⟨.add pair n, phase⟩)
    (hsent : ∀ id' call, id' ≠ id → s.calls.get? id' = some call →
      call.waiting pair = call.unanswered pair)
    (hfits : FitsSent tier s pair n) : FitsWaiting tier s pair 0 := by
  have hrest : (s.calls.pop id).total (OrderCall.waiting pair) =
      (s.calls.pop id).total (OrderCall.unanswered pair) := by
    refine Dict.total_congr fun id' call hcall => ?_
    rw [Dict.get?_pop] at hcall
    split_ifs at hcall with hne
    exact hsent id' call hne hcall
  have hwaits := Dict.total_pop_of_get? hid (OrderCall.waiting pair)
  have hunanswered := Dict.total_pop_of_get? hid (OrderCall.unanswered pair)
  rw [(hphase.waiting pair n).1] at hwaits
  rw [(hphase.waiting pair n).2] at hunanswered
  unfold FitsSent unansweredOrders at hfits
  unfold FitsWaiting waitingOrders
  omega

/-- Orders of a pair that wait without being sent. -/
def unsentOrders (s : Trading) (pair : String) : Nat :=
  s.calls.total fun call => call.waiting pair - call.unanswered pair

/-- Sending a waiting add. -/
theorem unsentOrders_setPhase {s : Trading} {id n : Nat} {pair : String} {phase : OrderPhase}
    (hphase : phase.Unsent) (hid : s.calls.get? id = some ⟨.add pair n, phase⟩)
    (attempt : Nat) :
    unsentOrders (setPhase s id (.add pair n) (.sent attempt none)) pair + n =
      unsentOrders s pair := by
  have hset := Dict.total_set_of_get? hid (⟨.add pair n, .sent attempt none⟩ : OrderCall)
    fun call => call.waiting pair - call.unanswered pair
  obtain ⟨hwaits, hunanswered⟩ := hphase.waiting pair n
  have hsent : (OrderCall.mk (.add pair n) (.sent attempt none)).waiting pair -
      (OrderCall.mk (.add pair n) (.sent attempt none)).unanswered pair = 0 :=
    Nat.sub_self _
  rw [hwaits, hunanswered, hsent] at hset
  exact hset

/-- Sending all waiting adds of a pair, one after the other, reaches the last one. -/
theorem fitsWaiting_of_sendsFit {tier : KrakenAPITier} {altname : String → String} {s : Trading}
    {id n : Nat} {pair : String} {phase : OrderPhase} (hphase : phase.Unsent)
    (hid : s.calls.get? id = some ⟨.add pair n, phase⟩) (h : SendsFit tier altname s) :
    FitsWaiting tier s pair 0 := by
  -- induction on the orders that are not sent yet
  induction hk : unsentOrders s pair using Nat.strong_induction_on generalizing s with
  | _ k ih =>
      by_cases hsent : ∀ id' call, id' ≠ id → s.calls.get? id' = some call →
          call.waiting pair = call.unanswered pair
      · obtain ⟨l, attempt, hl, hstep, hfits⟩ :=
          hphase.send tier altname hid
        exact fitsWaiting_of_fitsSent hphase hid hsent (hfits (h.step hl hstep).1)
      · push Not at hsent
        obtain ⟨id', call, hne, hcall, hunsent⟩ := hsent
        obtain ⟨n', phase', rfl, hphase', hpos⟩ := unsent_of_ne hunsent
        obtain ⟨l, attempt, hl, hstep, -⟩ :=
          hphase'.send tier altname hcall
        have hfewer := unsentOrders_setPhase hphase' hcall attempt
        have hrest := ih _ (by omega)
          ((Dict.get?_set_of_ne _ (Ne.symm hne) _).trans hid) (h.step hl hstep).2 rfl
        have hwaiting := waitingOrders_setPhase hcall (.sent attempt none) pair
        have hbefore := (hphase'.waiting pair n').1
        have hafter : (OrderCall.mk (.add pair n') (.sent attempt none)).waiting pair = n' :=
          if_pos rfl
        have hopen : openOrders (setPhase s id' (.add pair n') (.sent attempt none)) pair =
            openOrders s pair := rfl
        unfold FitsWaiting at hrest ⊢
        omega

/-- The orders that begin to wait in a step fitted before it, if all fit after it. -/
theorem fitsWaiting_of_added {tier : KrakenAPITier} {s s' : Trading} {pair : String} {n : Nat}
    (h : FitsWaiting tier s' pair 0) (hopen : openOrders s' pair = openOrders s pair)
    (hadded : waitingOrders s' pair = waitingOrders s pair + n) :
    FitsWaiting tier s pair n := by
  unfold FitsWaiting at h ⊢
  omega

theorem fitsWaiting_of_startAdd {tier : KrakenAPITier} {altname : String → String} {s : Trading}
    {pair : String} {n : Nat} (hbook : BookInv s)
    (h : SendsFit tier altname (startAdd tier s pair n))
    (hroom : hasRoom tier s.openCounts pair n = true) : FitsWaiting tier s pair n := by
  have hstart : startAdd tier s pair n = startCall s (.add pair n) .reserving := by
    simp [startAdd, hroom]
  rw [hstart] at h
  have hunsent : OrderPhase.Unsent .reserving := trivial
  have hfits := fitsWaiting_of_sendsFit hunsent (Dict.get?_set_self _ _ _) h
  have hadded := waitingOrders_startCall hbook (.add pair n) .reserving pair
  rw [(hunsent.waiting pair n).1] at hadded
  exact fitsWaiting_of_added hfits rfl hadded

theorem fitsWaiting_of_setPhase {tier : KrakenAPITier} {altname : String → String} {s : Trading}
    {id n : Nat} {pair : String} {before after : OrderPhase}
    (hid : s.calls.get? id = some ⟨.add pair n, before⟩)
    (hbefore : (OrderCall.mk (.add pair n) before).waiting pair = 0) (hafter : after.Unsent)
    (h : SendsFit tier altname (setPhase s id (.add pair n) after)) :
    FitsWaiting tier s pair n := by
  have hfits := fitsWaiting_of_sendsFit hafter (Dict.get?_set_self _ _ _) h
  have hadded := waitingOrders_setPhase hid after pair
  rw [hbefore, (hafter.waiting pair n).1] at hadded
  exact fitsWaiting_of_added hfits rfl hadded

/-- A step after which all waiting adds may be sent meets the condition. -/
theorem checksCover_of_sendsFit {tier : KrakenAPITier} {altname : String → String}
    {s s' : Trading} {l : TradeLabel} (hbook : BookInv s)
    (hstep : tradingStep tier altname s l = some s') (h : SendsFit tier altname s') :
    ChecksCover tier s l := by
  cases l with
  | placeOrder pair =>
      cases hstep
      exact fitsWaiting_of_startAdd hbook h
  | placeOrdersBatch pair n =>
      intro hsize
      simp only [tradingStep, hsize, and_self, if_true, Option.some.injEq] at hstep
      subst hstep
      exact fitsWaiting_of_startAdd hbook h
  | recounted id =>
      intro pair n reported hid hroom
      have hfinish : finishRecount tier s id pair n reported = s' := by
        simpa only [tradingStep, hid, Option.some.injEq] using hstep
      simp only [finishRecount, openCount_recount_self, hroom, if_true] at hfinish
      subst hfinish
      have hunsent : OrderPhase.Unsent .reserving := trivial
      have hfits := fitsWaiting_of_setPhase (s := { s with
        openCounts := recount s.openCounts pair reported }) hid rfl hunsent h
      exact hfits
  | unavailable id =>
      intro pair n attempt outcome hid hleft
      simp only [tradingStep, hid, hleft, if_true, Option.some.injEq] at hstep
      subst hstep
      have hunsent : OrderPhase.Unsent (.sleeping attempt (some outcome)) := trivial
      exact fitsWaiting_of_setPhase hid rfl hunsent h
  | _ => trivial

/-! ## Runs -/

/-- A run sends no request past the cap, and in none of its states the calls past their
check can do so, exactly when each check of the run covers all open and all waiting
orders. -/
theorem sendsFit_iff (tier : KrakenAPITier) (altname : String → String)
    (ls : List TradeLabel) :
    ((tradingMachine tier altname).AllSteps (SendsWithinCap tier) .init ls ∧
        (tradingMachine tier altname).AllStates (SendsFit tier altname) .init ls) ↔
      (tradingMachine tier altname).AllSteps (ChecksCover tier) .init ls := by
  have hinit : BookInv .init ∧ WithinCap tier .init := by
    refine ⟨bookInv_init, fun pair => ?_⟩
    have hcap : (0 : Int) ≤ maxOpenOrdersPerPair tier := by
      cases tier <;> decide
    exact hcap
  have hkept : ∀ s l s', BookInv s ∧ WithinCap tier s → ChecksCover tier s l →
      (tradingMachine tier altname).step s l = some s' → BookInv s' ∧ WithinCap tier s' :=
    fun s l s' hinv hcover hstep =>
      ⟨hinv.1.step hstep, withinCap_step hinv.1 hinv.2 hcover hstep⟩
  have hsends : (tradingMachine tier altname).AllStates (SendsFit tier altname) .init ls →
      (tradingMachine tier altname).AllSteps (SendsWithinCap tier) .init ls :=
    Machine.AllStates.allSteps fun s l s' h hstep => h.sendsWithinCap hstep
  rw [and_iff_right_of_imp hsends]
  exact Machine.allStates_iff_allSteps _ hkept (fun s hinv => hinv.2.sendsFit altname hinv.1)
    (fun s l s' hinv hstep h => checksCover_of_sendsFit hinv.1 hstep h) hinit

/-- Five batches of fifteen orders on one pair, each checked before any is counted. -/
def overlappingBatches : List TradeLabel :=
  List.replicate 5 (.placeOrdersBatch "XBTUSD" 15) ++
    [.transmit 0, .transmit 1, .transmit 2, .transmit 3]

/-- The fifth batch is sent although sixty orders are already on their way. -/
theorem overlapping_batches_pass_cap :
    ∃ s s', (tradingMachine .starter id).run .init overlappingBatches = some s ∧
      tradingStep .starter id s (.transmit 4) = some s' ∧
      s.calls.get? 4 = some ⟨.add "XBTUSD" 15, .reserving⟩ ∧
      openOrders s "XBTUSD" = 0 ∧ unansweredOrders s "XBTUSD" = 60 ∧
      maxOpenOrdersPerPair .starter = 60 ∧
      ¬ (tradingMachine .starter id).AllSteps (SendsWithinCap .starter) .init
        (overlappingBatches ++ [.transmit 4]) := by
  refine ⟨_, _, rfl, rfl, rfl, rfl, rfl, rfl, fun h => ?_⟩
  have hlast := h.of_append rfl
  have hfits := (hlast _ rfl).1 "XBTUSD" 15 rfl
  revert hfits
  unfold FitsSent
  decide

end Kraken
end MarketConnector
