import MarketConnector.Foundations.Stamps
import MarketConnector.Kraken.AgePenalties
import MarketConnector.Kraken.OpenOrders

/-!
# Kraken - Ages of orders and what calls are charged

The order calls of one gateway and the exchange, with the times from which the exchange counts
the ages of the orders and those that the gateway has recorded.  The gateway records a time
when it processes a successful reply.  An amend that the exchange executed makes the order
young again, also when the reply is lost; the gateway then measures the old age.

Main results:

- Definition `agedMachine`: the calls, the orders and their ages.
- Theorem `AgedInv.step`: what a call was charged comes from ages that were measured once.
- Theorem `chargedEnough_of_upToDate`: a request is charged enough when no restart was missed.
- Theorem `lost_amend_reply_is_undercharged`: an amend whose reply is lost.
-/

namespace MarketConnector
namespace Kraken

open Foundations

/-! ## State -/

/-- Units charged to a pair's matching counter; those of a cancel by pair. -/
inductive MatchingUnits where
  | single (units : Int)
  | byPair (units : Dict String Int)
deriving DecidableEq

/-- The units of a call, and the records they were computed from. -/
structure UnitsCharged where
  units : MatchingUnits
  recorded : Dict Nat (Stamp Rat)

/-- The calls and the book, the ages of the orders with `_order_placed_at`, the units charged
to each call, and the first order that the last request of each call opened. -/
structure AgedTrading where
  trading : Trading
  stamps : Stamps Nat Rat
  charged : Dict Nat UnitsCharged
  opened : Dict Nat Nat

def AgedTrading.init : AgedTrading where
  trading := .init
  stamps := .init
  charged := ∅
  opened := ∅

inductive AgedLabel where
  /-- time passes -/
  | tick (time : Rat)
  /-- the gateway or the exchange makes a step -/
  | trade (l : TradeLabel)

/-! ## Steps -/

/-- The request that a label makes a call for. -/
def startedOp : TradeLabel → Option OrderOp
  | .placeOrder pair => some (.add pair 1)
  | .placeOrdersBatch pair n => if 2 ≤ n ∧ n ≤ 15 then some (.add pair n) else none
  | .cancelOrder pair txid => some (.cancel [(pair, txid)])
  | .cancelOrdersBatch orders =>
      if 1 ≤ orders.length ∧ orders.length ≤ 50 then some (.cancel orders) else none
  | .amendOrder txid => some (.amend txid)
  | .editOrder txid => some (.edit txid)
  | _ => none

/-- The units a call is charged: the penalties of the orders at their ages, or half a unit for
each order that is added. -/
def unitsOf (age : Nat → Rat) : OrderOp → MatchingUnits
  | .add _ n => .single ((n + 1) / 2)
  | .cancel orders => .byPair (cancelUnits age orders)
  | .amend txid => .single (amendPenalty (age txid))
  | .edit txid => .single (editPenalty (age txid))

/-- A call computes its units before its first await. -/
def chargeCall (s : AgedTrading) (op : OrderOp) : AgedTrading :=
  { s with charged := s.charged.set s.trading.next ⟨unitsOf s.stamps.ageOf op, s.stamps.recorded⟩ }

/-- The next txids. -/
def newTxids (first n : Nat) : List Nat :=
  (List.range n).map (first + ·)

/-- The ages that count anew when a request is executed. -/
def restartAges (s : AgedTrading) (id accepted : Nat) : OrderOp → AgedTrading
  | .add _ _ =>
      { s with
        stamps := (newTxids s.trading.issued accepted).foldl Stamps.restart s.stamps
        opened := s.opened.set id s.trading.issued }
  | .cancel _ => s
  | .amend txid =>
      if s.trading.book.contains txid then { s with stamps := s.stamps.restart txid } else s
  | .edit _ =>
      { s with
        stamps := s.stamps.restart s.trading.issued
        opened := s.opened.set id s.trading.issued }

/-- `_placed_at` after a successful reply. -/
def recordReply (stamps : Stamps Nat Rat) (first : Nat) : OrderOp → Outcome → Stamps Nat Rat
  | .add _ n, .placed accepted =>
      if accepted = n then (newTxids first n).foldl Stamps.record stamps else stamps
  | .cancel orders, .done => (orders.map Prod.snd).foldl Stamps.forget stamps
  | .amend txid, .done => stamps.record txid
  | .edit txid, .done => (stamps.forget txid).record first
  | _, _ => stamps

/-- What a step does to ages, records and charges. -/
def ageStep (s : AgedTrading) : TradeLabel → AgedTrading
  | .executes id accepted =>
      match s.trading.calls.get? id with
      | some call => restartAges s id accepted call.op
      | none => s
  | .executesLate id accepted =>
      match s.trading.abandoned.get? id with
      | some op => restartAges s id accepted op
      | none => s
  | .replied id =>
      match s.trading.calls.get? id with
      | some ⟨op, .sent _ (some outcome)⟩ =>
          { s with stamps := recordReply s.stamps ((s.opened.get? id).getD 0) op outcome }
      | _ => s
  | l =>
      match startedOp l with
      | some op => chargeCall s op
      | none => s

def agedStep (tier : KrakenAPITier) (altname : String → String) (s : AgedTrading) :
    AgedLabel → Option AgedTrading
  | .tick time => if 0 ≤ time then some { s with stamps := s.stamps.tick time } else none
  | .trade l =>
      (tradingStep tier altname s.trading l).map fun trading =>
        { ageStep s l with trading := trading }

/-- The order calls of one gateway and the exchange, with the ages. -/
def agedMachine (tier : KrakenAPITier) (altname : String → String) :
    Machine AgedTrading AgedLabel where
  init := .init
  step := agedStep tier altname

/-! ## The property -/

/-- Orders that a request names. -/
def OrderOp.txids : OrderOp → List Nat
  | .add _ _ => []
  | .cancel orders => orders.map Prod.snd
  | .amend txid => [txid]
  | .edit txid => [txid]

/-- The penalty of cancelling an order: none when it is no longer open. -/
def cancelCost (s : AgedTrading) (txid : Nat) : Int :=
  if s.trading.book.contains txid then cancelPenalty (s.stamps.trueAge txid) else 0

/-- The units are at least the penalties of the open orders at their true ages. -/
def Covers (s : AgedTrading) : OrderOp → MatchingUnits → Prop
  | .add _ _, _ => True
  | .cancel orders, .byPair units => ∀ pair,
      ((orders.filter fun order => order.1 = pair).map fun order => cancelCost s order.2).sum ≤
        unitsOn units pair
  | .amend txid, .single units =>
      s.trading.book.contains txid → amendPenalty (s.stamps.trueAge txid) ≤ units
  | .edit txid, .single units =>
      s.trading.book.contains txid → editPenalty (s.stamps.trueAge txid) ≤ units
  | _, _ => False

/-- The call whose request a label sends. -/
def sentCall : AgedLabel → Option Nat
  | .trade (.transmit id) => some id
  | .trade (.retries id) => some id
  | _ => none

/-- A request that is sent has been charged the penalties of its orders. -/
def ChargedEnough (s : AgedTrading) (l : AgedLabel) : Prop :=
  ∀ id call, sentCall l = some id → s.trading.calls.get? id = some call →
    ∃ charge, s.charged.get? id = some charge ∧ Covers s call.op charge.units

/-- The exchange executed no amend of an open order it names that the gateway had not recorded
when it computed the charge. -/
def UpToDate (s : AgedTrading) (l : AgedLabel) : Prop :=
  ∀ id call charge, sentCall l = some id → s.trading.calls.get? id = some call →
    s.charged.get? id = some charge →
    ∀ txid ∈ call.op.txids, s.trading.book.contains txid →
      s.stamps.Current charge.recorded txid

/-! ## Calls -/

/-- The calls in progress were in progress before, for the same requests. -/
def KeepsOps (s s' : Trading) : Prop :=
  ∀ id call', s'.calls.get? id = some call' →
    ∃ call, s.calls.get? id = some call ∧ call.op = call'.op

theorem KeepsOps.of_calls {s s' : Trading} (h : s'.calls = s.calls) : KeepsOps s s' := by
  intro id call hid
  rw [h] at hid
  exact ⟨call, hid, rfl⟩

theorem KeepsOps.setPhase {s t : Trading} (h : t.calls = s.calls) {id : Nat} {op : OrderOp}
    {before : OrderPhase} (hid : s.calls.get? id = some ⟨op, before⟩) (after : OrderPhase) :
    KeepsOps s (setPhase t id op after) := by
  intro id' call' hid'
  simp only [Kraken.setPhase, h, Dict.get?_set] at hid'
  split_ifs at hid' with heq
  · cases hid'
    exact ⟨⟨op, before⟩, heq ▸ hid, rfl⟩
  · exact ⟨call', hid', rfl⟩

theorem KeepsOps.endOrderCall {s t : Trading} (h : t.calls = s.calls) (id : Nat) :
    KeepsOps s (endOrderCall t id) := by
  intro id' call' hid'
  simp only [Kraken.endOrderCall, h] at hid'
  exact ⟨call', Dict.get?_of_pop hid', rfl⟩

/-- A step that starts no call. -/
theorem tradingStep_keepsOps {tier : KrakenAPITier} {altname : String → String} {s s' : Trading}
    {l : TradeLabel} (hl : startedOp l = none) (hstep : tradingStep tier altname s l = some s') :
    KeepsOps s s' := by
  cases tradingStep_move hstep with
  | placeOrder => cases hl
  | placeOrdersBatch hsize => simp [startedOp, hsize] at hl
  | wrongBatch => exact .of_calls rfl
  | cancelOrder => cases hl
  | cancelOrdersBatch =>
      simp only [tradingStep, Option.some.injEq] at hstep
      simp only [startedOp] at hl
      split_ifs at hstep hl
      rw [← hstep]
      exact .of_calls rfl
  | wrongCancel => exact .of_calls rfl
  | amendOrder => cases hl
  | editOrder => cases hl
  | snapshot hid => exact .setPhase rfl hid _
  | hasRoom hid hroom => exact .setPhase rfl hid _
  | full hid => exact .endOrderCall rfl _
  | transmit hid => exact .setPhase rfl hid _
  | executes hid hacts => exact .setPhase hacts.frame.1 hid _
  | refuses hid => exact .setPhase rfl hid _
  | replied hid => exact .endOrderCall rfl _
  | backsOff hid hleft => exact .setPhase rfl hid _
  | exhausted hid hleft => exact .endOrderCall rfl _
  | retries hid => exact .setPhase rfl hid _
  | abandons hid => exact .endOrderCall rfl _
  | fails hid => exact .endOrderCall rfl _
  | executesLate hid hacts => exact .of_calls hacts.frame.1
  | refusesLate hid => exact .of_calls rfl
  | closes => exact .of_calls rfl

/-- A step that starts a call. -/
theorem tradingStep_starts {tier : KrakenAPITier} {altname : String → String} {s s' : Trading}
    {l : TradeLabel} {op : OrderOp} (hl : startedOp l = some op)
    (hstep : tradingStep tier altname s l = some s') :
    ∃ phase, s'.calls = s.calls.set s.next ⟨op, phase⟩ := by
  unfold startedOp at hl
  split at hl
  · cases hl
    cases hstep
    exact ⟨_, rfl⟩
  · split_ifs at hl with hsize
    cases hl
    simp only [tradingStep, hsize] at hstep
    cases hstep
    exact ⟨_, rfl⟩
  · cases hl
    cases hstep
    exact ⟨_, rfl⟩
  · split_ifs at hl with hsize
    cases hl
    simp only [tradingStep, hsize] at hstep
    cases hstep
    exact ⟨_, rfl⟩
  · cases hl
    cases hstep
    exact ⟨_, rfl⟩
  · cases hl
    cases hstep
    exact ⟨_, rfl⟩
  · cases hl

/-! ## What calls were charged -/

/-- The records are sound, and every call was charged for ages that were measured from the
records it keeps. -/
structure AgedInv (s : AgedTrading) : Prop where
  sound : s.stamps.Sound
  measured : ∀ id call, s.trading.calls.get? id = some call →
    ∃ charge age, s.charged.get? id = some charge ∧ charge.units = unitsOf age call.op ∧
      ∀ txid, s.stamps.Measured charge.recorded txid (age txid)

theorem agedInv_init : AgedInv .init where
  sound := Stamps.sound_init
  measured id call h := by cases h

/-- Executing a request keeps what is measured. -/
theorem restartAges_keeps (s : AgedTrading) (id accepted : Nat) (op : OrderOp) :
    s.stamps.Keeps (restartAges s id accepted op).stamps ∧
      (restartAges s id accepted op).charged = s.charged := by
  cases op with
  | add pair n => exact ⟨.foldl .restart _ _, rfl⟩
  | cancel orders => exact ⟨.refl _, rfl⟩
  | amend txid =>
      simp only [restartAges]
      split_ifs
      · exact ⟨.restart _ _, rfl⟩
      · exact ⟨.refl _, rfl⟩
  | edit txid => exact ⟨.restart _ _, rfl⟩

theorem recordReply_keeps (stamps : Stamps Nat Rat) (first : Nat) (op : OrderOp)
    (outcome : Outcome) : stamps.Keeps (recordReply stamps first op outcome) := by
  unfold recordReply
  split
  · split_ifs
    · exact .foldl .record _ _
    · exact .refl _
  · exact .foldl .forget _ _
  · exact .record _ _
  · exact (Stamps.Keeps.forget _ _).trans (.record _ _)
  · exact .refl _

/-- A step that starts no call keeps what is measured. -/
theorem ageStep_keeps {s : AgedTrading} {l : TradeLabel} (hl : startedOp l = none) :
    s.stamps.Keeps (ageStep s l).stamps ∧ (ageStep s l).charged = s.charged := by
  unfold ageStep
  split
  · split
    · exact restartAges_keeps _ _ _ _
    · exact ⟨.refl _, rfl⟩
  · split
    · exact restartAges_keeps _ _ _ _
    · exact ⟨.refl _, rfl⟩
  · split
    · exact ⟨recordReply_keeps _ _ _ _, rfl⟩
    · exact ⟨.refl _, rfl⟩
  · rw [hl]
    exact ⟨.refl _, rfl⟩

/-- A step that starts a call charges it. -/
theorem ageStep_starts {s : AgedTrading} {l : TradeLabel} {op : OrderOp}
    (hl : startedOp l = some op) : ageStep s l = chargeCall s op := by
  unfold ageStep
  split
  · cases hl
  · cases hl
  · cases hl
  · rw [hl]

/-- Every step keeps the charges. -/
theorem AgedInv.step {tier : KrakenAPITier} {altname : String → String} {s s' : AgedTrading}
    {l : AgedLabel} (h : AgedInv s) (hstep : agedStep tier altname s l = some s') :
    AgedInv s' := by
  cases l with
  | tick time =>
      simp only [agedStep] at hstep
      split_ifs at hstep with htime
      cases hstep
      refine ⟨h.sound.tick htime, fun id call hid => ?_⟩
      obtain ⟨charge, age, hcharge, hunits, hage⟩ := h.measured id call hid
      exact ⟨charge, age, hcharge, hunits, fun txid => (hage txid).tick htime⟩
  | trade l =>
      obtain ⟨trading, htrading, rfl⟩ := Option.map_eq_some_iff.1 hstep
      cases hl : startedOp l with
      | none =>
          obtain ⟨hkeeps, hcharged⟩ := @ageStep_keeps s l hl
          refine ⟨hkeeps.sound h.sound, fun id call' hid => ?_⟩
          obtain ⟨call, hbefore, hop⟩ := tradingStep_keepsOps hl htrading id call' hid
          obtain ⟨charge, age, hcharge, hunits, hage⟩ := h.measured id call hbefore
          refine ⟨charge, age, ?_, by rw [← hop, hunits], fun txid =>
            hkeeps.measured _ txid _ (hage txid)⟩
          rw [← hcharge, ← hcharged]
      | some op =>
          obtain ⟨phase, hcalls⟩ := tradingStep_starts hl htrading
          rw [ageStep_starts hl]
          refine ⟨h.sound, fun id call hid => ?_⟩
          simp only [hcalls, Dict.get?_set] at hid
          simp only [chargeCall, Dict.get?_set]
          split_ifs at hid ⊢ with heq
          · -- the call that starts measures the ages now
            cases hid
            exact ⟨_, s.stamps.ageOf, rfl, rfl, Stamps.Measured.of_sound h.sound⟩
          · exact h.measured id call hid

/-! ## Requests that are charged enough -/

theorem cancelCost_le {s : AgedTrading} {txid : Nat} {age : Rat}
    (hage : s.trading.book.contains txid → age ≤ s.stamps.trueAge txid) :
    cancelCost s txid ≤ cancelPenalty age := by
  unfold cancelCost
  split_ifs with hopen
  · exact cancelPenalty_antitone (hage hopen)
  · exact cancelPenalty_nonneg age

/-- Ages that are not too large give units that are enough. -/
theorem covers_unitsOf {s : AgedTrading} {op : OrderOp} {age : Nat → Rat}
    (hage : ∀ txid ∈ op.txids, s.trading.book.contains txid → age txid ≤ s.stamps.trueAge txid) :
    Covers s op (unitsOf age op) := by
  cases op with
  | add pair n => trivial
  | cancel orders =>
      intro pair
      rw [cancelUnits_pair]
      refine List.sum_le_sum fun order horder => cancelCost_le (hage order.2 ?_)
      exact List.mem_map_of_mem (List.mem_filter.1 horder).1
  | amend txid =>
      exact fun hopen => amendPenalty_antitone (hage txid (List.mem_singleton_self _) hopen)
  | edit txid =>
      exact fun hopen => editPenalty_antitone (hage txid (List.mem_singleton_self _) hopen)

theorem AgedInv.chargedEnough {s : AgedTrading} {l : AgedLabel} (h : AgedInv s)
    (hcurrent : UpToDate s l) : ChargedEnough s l := by
  intro id call hsent hid
  obtain ⟨charge, age, hcharge, hunits, hage⟩ := h.measured id call hid
  refine ⟨charge, hcharge, ?_⟩
  rw [hunits]
  refine covers_unitsOf fun txid htxid hopen => ?_
  exact (hage txid).le_age h.sound (hcurrent id call charge hsent hid hcharge txid htxid hopen)

/-- In every run of order calls, a request is charged at least the penalties of its orders'
true ages, when the exchange executed no amend of them that the gateway had not recorded. -/
theorem chargedEnough_of_upToDate (tier : KrakenAPITier) (altname : String → String)
    (ls : List AgedLabel) : (agedMachine tier altname).AllSteps
      (fun s l => UpToDate s l → ChargedEnough s l) .init ls := by
  have hkept : ∀ s l s', AgedInv s → (agedMachine tier altname).step s l = some s' →
      AgedInv s' := fun _ _ _ h hstep => h.step hstep
  exact (agedMachine tier altname).allSteps_of_invariant hkept
    (fun _ _ h => h.chargedEnough) agedInv_init ls

/-- An order is placed and amended a hundred seconds later, and the reply to the amend is lost.
The next amend is charged for a hundred seconds, when the order is new at the exchange. -/
theorem lost_amend_reply_is_undercharged :
    ¬ ∀ ls, (agedMachine .starter id).AllSteps ChargedEnough .init ls := by
  intro h
  let ls : List AgedLabel :=
    [.trade (.placeOrder "XBTUSD"), .trade (.transmit 0), .trade (.executes 0 1),
      .trade (.replied 0), .tick 100, .trade (.amendOrder 0), .trade (.transmit 1),
      .trade (.executes 1 0), .trade (.fails 1), .trade (.amendOrder 0)]
  obtain ⟨s, hrun, hopen, hage, hcall, hunits⟩ : ∃ s, (agedMachine .starter id).run .init ls =
      some s ∧ s.trading.book.contains 0 = true ∧ s.stamps.trueAge 0 = 0 ∧
      s.trading.calls.get? 2 = some ⟨.amend 0, .reserving⟩ ∧
      (s.charged.get? 2).map UnitsCharged.units = some (.single 1) := by
    refine ⟨_, rfl, ?_, ?_, ?_, ?_⟩
    · rfl
    · decide +kernel
    · rfl
    · decide +kernel
  have hlast : ChargedEnough s (.trade (.transmit 2)) := by
    have hsteps := (h (ls ++ [.trade (.transmit 2)])).of_append hrun
    have hsent : ∃ s', agedStep .starter id s (.trade (.transmit 2)) = some s' := by
      simp only [agedStep, tradingStep, hcall, Option.map_some]
      exact ⟨_, rfl⟩
    obtain ⟨s', hstep⟩ := hsent
    exact (hsteps s' hstep).1
  obtain ⟨charge, hcharge, hcovers⟩ := hlast 2 _ rfl hcall
  rw [hcharge, Option.map_some, Option.some.injEq] at hunits
  rw [hunits] at hcovers
  have hle : amendPenalty (s.stamps.trueAge 0) ≤ 1 := hcovers hopen
  rw [hage] at hle
  exact absurd hle (by decide)

end Kraken
end MarketConnector
