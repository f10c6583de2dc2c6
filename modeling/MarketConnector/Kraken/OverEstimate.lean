import MarketConnector.Kraken.OpenOrders

/-!
# Kraken - Does the local count only over-estimate?

The cap is checked against a local count that is meant to be an upper bound of the open
orders.  A cancel takes every listed entry off the count, whatever the exchange cancelled;
an add counts the orders of its last reply, not those of attempts answered 5xx; a recount
keeps what OpenOrders reports under the caller's name for the pair.

Main results:

- Theorem `overEstimates_step_iff`: what a step needs to keep the bound.
- Theorem `overEstimates_iff`: the runs in which the count is an upper bound.
- Theorem `repeated_cancel_undercounts`: a cancel that lists an order twice.
-/

namespace MarketConnector
namespace Kraken

open Foundations

/-- The count of every pair is at least the number of its open orders, those aside that an
add has opened whose reply is not yet processed. -/
def OverEstimates (s : Trading) : Prop :=
  ∀ pair, (settledOrders s pair : Int) ≤ openCount s.openCounts pair

/-- By how much the count of a pair over-estimates. -/
def slack (s : Trading) (pair : String) : Int :=
  openCount s.openCounts pair - settledOrders s pair

/-- Entries of a cancel under a pair. -/
def listed (orders : List (String × Nat)) (pair : String) : Nat :=
  orders.countP fun order => order.1 = pair

/-- What a call that ends needs.  The reply to a cancel: of each pair it lists at most as many
entries as the count over-estimates, or no order of the pair is open.  The reply to an add:
the orders that it has opened and that are open exceed those it counts by at most the
over-estimate. -/
def EndCovered (s : Trading) (id : Nat) : OrderOp → Option Outcome → Prop
  | .add pair n, some (.placed accepted) =>
      (openedBy s id pair : Int) ≤ slack s pair + if accepted = n then n else 0
  | .add pair _, _ => (openedBy s id pair : Int) ≤ slack s pair
  | .cancel orders, some .done => ∀ pair, (listed orders pair : Int) ≤ slack s pair ∨
      settledOrders s pair = 0
  | _, _ => True

/-- What a step needs to keep the counts over-estimates.  A recount: the reply reports, under
the caller's name for the pair, at least as many orders as are open.  An add that nobody waits
for: it opens at most as many orders as the count over-estimates. -/
def CountsCovered (s : Trading) : TradeLabel → Prop
  | .recounted id => ∀ pair n reported,
      s.calls.get? id = some ⟨.add pair n, .recounting (some reported)⟩ →
        settledOrders s pair ≤ reported.count pair
  | .replied id => ∀ op attempt outcome,
      s.calls.get? id = some ⟨op, .sent attempt (some outcome)⟩ →
        EndCovered s id op (some outcome)
  | .unavailable id => ∀ op attempt outcome,
      s.calls.get? id = some ⟨op, .sent attempt outcome⟩ → 3 ≤ attempt → EndCovered s id op none
  | .fails id => ∀ op phase, s.calls.get? id = some ⟨op, phase⟩ → EndCovered s id op none
  | .executesLate id accepted => ∀ pair n, s.abandoned.get? id = some (.add pair n) →
      (accepted : Int) ≤ slack s pair
  | .placeOrder _ | .placeOrdersBatch _ _ | .cancelOrder _ _ | .cancelOrdersBatch _
  | .amendOrder _ | .editOrder _ | .snapshot _ | .transmit _ | .executes _ _ | .refuses _
  | .retries _ | .refusesLate _ | .closes _ => True

/-! ## Counts -/

theorem listed_cons (order : String × Nat) (orders : List (String × Nat)) (pair : String) :
    listed (order :: orders) pair = listed orders pair + if order.1 = pair then 1 else 0 := by
  simp [listed, List.countP_cons]

/-- A cancel takes its entries off a count, down to 0. -/
theorem openCount_uncount (orders : List (String × Nat)) (pair : String)
    {counts : Dict String Int} (hcount : 0 ≤ openCount counts pair) :
    openCount (uncount counts orders) pair =
      max 0 (openCount counts pair - listed orders pair) := by
  induction orders generalizing counts with
  | nil => simp [uncount, listed, hcount]
  | cons order orders ih =>
      have hrest : uncount counts (order :: orders) =
          uncount (addOpen counts order.1 (-1)) orders := rfl
      rw [hrest, listed_cons]
      by_cases heq : order.1 = pair
      · subst heq
        rw [ih (by simp), openCount_addOpen_self]
        simp only [if_true]
        omega
      · rw [ih (by rwa [openCount_addOpen_of_ne _ (Ne.symm heq)]),
          openCount_addOpen_of_ne _ (Ne.symm heq)]
        simp [heq]

/-! ## Steps -/

/-- A call ends without moving the counts. -/
theorem overEstimates_endOrderCall_iff {s : Trading} (h : OverEstimates s) (hbook : BookInv s)
    {id : Nat} {op : OrderOp} {phase : OrderPhase} (hid : s.calls.get? id = some ⟨op, phase⟩) :
    OverEstimates (endOrderCall s id) ↔ EndCovered s id op none := by
  have hends : OverEstimates (endOrderCall s id) ↔
      ∀ pair, (openedBy s id pair : Int) ≤ slack s pair := by
    refine forall_congr' fun pair => ?_
    rw [settledOrders_endOrderCall hid]
    unfold slack
    have hsame : (endOrderCall s id).openCounts = s.openCounts := rfl
    rw [hsame]
    omega
  have hnone : ∀ pair, (∀ n, op ≠ .add pair n) → (openedBy s id pair : Int) ≤ slack s pair := by
    intro pair hne
    have hpair := h pair
    rw [openedBy_eq_zero hbook hid (Or.inl hne)]
    unfold slack
    omega
  rw [hends]
  cases op with
  | add pair n =>
      refine ⟨fun hall => hall pair, fun hone pair' => ?_⟩
      by_cases heq : pair' = pair
      · exact heq ▸ hone
      · exact hnone pair' fun n' hadd => heq (by cases hadd; rfl)
  | cancel orders => exact iff_of_true (fun pair => hnone pair (by simp)) trivial
  | amend txid => exact iff_of_true (fun pair => hnone pair (by simp)) trivial
  | edit txid => exact iff_of_true (fun pair => hnone pair (by simp)) trivial

/-- A step that moves no count and settles no order. -/
theorem OverEstimates.of_le {s s' : Trading} (h : OverEstimates s)
    (hcounts : s'.openCounts = s.openCounts)
    (hsettled : ∀ pair, settledOrders s' pair ≤ settledOrders s pair) : OverEstimates s' := by
  intro pair
  have hpair := h pair
  have hle := hsettled pair
  rw [hcounts]
  omega

/-- A count is re-read. -/
theorem overEstimates_recount_iff {s s' : Trading} (h : OverEstimates s) {pair : String}
    {reported : List String} (hcounts : s'.openCounts = recount s.openCounts pair reported)
    (hsettled : ∀ pair', settledOrders s' pair' = settledOrders s pair') :
    OverEstimates s' ↔ settledOrders s pair ≤ reported.count pair := by
  have hself : ((settledOrders s' pair : Int) ≤ openCount s'.openCounts pair) ↔
      settledOrders s pair ≤ reported.count pair := by
    rw [hsettled, hcounts, openCount_recount_self]
    omega
  refine ⟨fun hall => hself.1 (hall pair), fun hone pair' => ?_⟩
  by_cases heq : pair' = pair
  · subst heq
    exact hself.2 hone
  · rw [hsettled, hcounts, openCount_recount_of_ne _ heq]
    exact h pair'

/-- The reply to an executed cancel is processed. -/
theorem overEstimates_uncount_iff {s : Trading} (h : OverEstimates s) (hbook : BookInv s)
    {id : Nat} {orders : List (String × Nat)} {phase : OrderPhase}
    (hid : s.calls.get? id = some ⟨.cancel orders, phase⟩) :
    OverEstimates (endOrderCall { s with openCounts := uncount s.openCounts orders } id) ↔
      EndCovered s id (.cancel orders) (some .done) := by
  refine forall_congr' fun pair => ?_
  have hpair := h pair
  have hsettled : settledOrders (endOrderCall s id) pair = settledOrders s pair := by
    rw [settledOrders_endOrderCall hid, openedBy_eq_zero hbook hid (Or.inl (by simp))]
    rfl
  have hnonneg : 0 ≤ openCount s.openCounts pair := by omega
  have hcount := openCount_uncount orders pair hnonneg
  have hsame : settledOrders
      (endOrderCall { s with openCounts := uncount s.openCounts orders } id) pair =
        settledOrders (endOrderCall s id) pair := rfl
  have hcounts : (endOrderCall { s with openCounts := uncount s.openCounts orders } id).openCounts
      = uncount s.openCounts orders := rfl
  rw [hsame, hsettled, hcounts, hcount]
  unfold slack
  omega

/-- The reply to an executed add is processed. -/
theorem overEstimates_placed_iff {s : Trading} (h : OverEstimates s) (hbook : BookInv s)
    {id n accepted : Nat} {pair : String} {phase : OrderPhase}
    (hid : s.calls.get? id = some ⟨.add pair n, phase⟩) :
    OverEstimates (endOrderCall { s with
        openCounts := countReply s.openCounts (.add pair n) (.placed accepted) } id) ↔
      EndCovered s id (.add pair n) (some (.placed accepted)) := by
  by_cases hall : accepted = n
  · subst hall
    have hcounts :
        (endOrderCall { s with
          openCounts := countReply s.openCounts (.add pair accepted) (.placed accepted)
          } id).openCounts = addOpen s.openCounts pair accepted := by
      simp [endOrderCall, countReply]
    have hsettled : ∀ pair', settledOrders (endOrderCall { s with
        openCounts := countReply s.openCounts (.add pair accepted) (.placed accepted) } id) pair' =
          settledOrders s pair' + openedBy s id pair' :=
      fun pair' => settledOrders_endOrderCall hid pair'
    have hpair := h pair
    have hself : ((settledOrders s pair + openedBy s id pair : Nat) : Int) ≤
        openCount (addOpen s.openCounts pair accepted) pair ↔
          EndCovered s id (.add pair accepted) (some (.placed accepted)) := by
      simp only [EndCovered, if_true, openCount_addOpen_self, slack]
      omega
    refine ⟨fun hover => ?_, fun hone pair' => ?_⟩
    · have hover := hover pair
      rw [hsettled, hcounts] at hover
      exact hself.1 hover
    · rw [hsettled, hcounts]
      by_cases heq : pair' = pair
      · subst heq
        exact hself.2 hone
      · rw [openedBy_eq_zero hbook hid (Or.inl fun n' hadd => heq (by cases hadd; rfl)),
          openCount_addOpen_of_ne _ heq]
        exact h pair'
  · have hcounts : countReply s.openCounts (.add pair n) (.placed accepted) = s.openCounts := by
      simp [countReply, hall]
    rw [hcounts, overEstimates_endOrderCall_iff h hbook hid]
    simp [EndCovered, hall]

/-- A reply is processed. -/
theorem overEstimates_replied_iff {s : Trading} (h : OverEstimates s) (hbook : BookInv s)
    {id : Nat} {op : OrderOp} {outcome : Outcome} {phase : OrderPhase}
    (hid : s.calls.get? id = some ⟨op, phase⟩) :
    OverEstimates (endOrderCall { s with openCounts := countReply s.openCounts op outcome } id) ↔
      EndCovered s id op (some outcome) := by
  have hend := overEstimates_endOrderCall_iff h hbook hid
  cases op with
  | add pair n =>
      cases outcome with
      | placed accepted => exact overEstimates_placed_iff h hbook hid
      | refused => exact hend
      | done => exact hend
  | cancel orders =>
      cases outcome with
      | done => exact overEstimates_uncount_iff h hbook hid
      | refused => exact hend
      | placed accepted => exact hend
  | amend txid => cases outcome <;> exact hend
  | edit txid => cases outcome <;> exact hend

/-- The exchange executes a request that nobody waits for. -/
theorem overEstimates_late_iff {s t : Trading} (h : OverEstimates s) (hbook : BookInv s)
    {id accepted : Nat} {op : OrderOp} {outcome : Outcome} (hid : s.abandoned.get? id = some op)
    (hacts : Acts s id accepted op t outcome) :
    OverEstimates (endAbandoned t id) ↔ CountsCovered s (.executesLate id accepted) := by
  have hother : (∀ pair n, op ≠ .add pair n) →
      (OverEstimates (endAbandoned t id) ↔ CountsCovered s (.executesLate id accepted)) := by
    intro hno
    refine iff_of_true (h.of_le hacts.frame.2.1 (hacts.settledOrders_le (Or.inr hno))) ?_
    exact fun pair n hadd => absurd (Option.some.inj (hid.symm.trans hadd)) (hno pair n)
  cases hacts with
  | @add pair n hle =>
      have hcounts : (openFor s id pair accepted).openCounts = s.openCounts :=
        (openFor_frame s id pair accepted).2.1
      have hsettled := settledOrders_openFor_late hbook.issued (hbook.late id _ hid).2 pair
      have hself : ((settledOrders (openFor s id pair accepted) pair : Int) ≤
          openCount s.openCounts pair) ↔ (accepted : Int) ≤ slack s pair := by
        rw [hsettled pair accepted, if_pos rfl]
        unfold slack
        omega
      constructor
      · intro hover pair' n' hadd
        cases hid.symm.trans hadd
        have hpair := hover pair
        exact hself.1 (hcounts ▸ hpair)
      · intro hcovered pair'
        have hpair' : (settledOrders (openFor s id pair accepted) pair' : Int) ≤
            openCount s.openCounts pair' := by
          by_cases heq : pair = pair'
          · subst heq
            exact hself.2 (hcovered pair n hid)
          · rw [hsettled pair' accepted, if_neg heq]
            exact h pair'
        exact hcounts ▸ hpair'
  | cancel => exact hother (by simp)
  | amend => exact hother (by simp)
  | edit horder => exact hother (by simp)

/-- What a step needs to keep the counts over-estimates. -/
theorem overEstimates_step_iff {tier : KrakenAPITier} {altname : String → String}
    {s s' : Trading} {l : TradeLabel} (hbook : BookInv s) (h : OverEstimates s)
    (hstep : tradingStep tier altname s l = some s') : OverEstimates s' ↔ CountsCovered s l := by
  have hkeeps : ∀ {t : Trading}, t.openCounts = s.openCounts →
      (∀ pair, settledOrders t pair ≤ settledOrders s pair) → (OverEstimates t ↔ True) :=
    fun hcounts hsettled => iff_true_intro (h.of_le hcounts hsettled)
  have hstarts : ∀ op phase, OverEstimates (startCall s op phase) ↔ True :=
    fun op phase => hkeeps rfl fun pair => (settledOrders_startCall hbook op phase pair).le
  have hmoves : ∀ {id op before after}, s.calls.get? id = some ⟨op, before⟩ →
      (OverEstimates (setPhase s id op after) ↔ True) :=
    fun hid => hkeeps rfl fun pair => (settledOrders_setPhase hid pair).le
  cases tradingStep_move hstep with
  | placeOrder => exact hstarts _ _
  | placeOrdersBatch hsize => exact hstarts _ _
  | wrongBatch => exact iff_true_intro h
  | cancelOrder => exact hstarts _ _
  | cancelOrdersBatch => exact hstarts _ _
  | wrongCancel => exact iff_true_intro h
  | amendOrder => exact hstarts _ _
  | editOrder => exact hstarts _ _
  | snapshot hid => exact hmoves hid
  | @hasRoom id pair n reported hid hroom =>
      have hcounted : (setPhase { s with openCounts := recount s.openCounts pair reported } id
          (.add pair n) .reserving).openCounts = recount s.openCounts pair reported := rfl
      rw [overEstimates_recount_iff h hcounted fun pair' => settledOrders_setPhase hid pair']
      simp [CountsCovered, hid]
  | @full id pair n reported hid =>
      have hsettled : ∀ pair', settledOrders (endOrderCall { s with
          openCounts := recount s.openCounts pair reported } id) pair' =
            settledOrders s pair' := by
        intro pair'
        have hend : settledOrders (endOrderCall s id) pair' = settledOrders s pair' := by
          rw [settledOrders_endOrderCall hid, openedBy_eq_zero hbook hid (Or.inr ⟨_, rfl⟩)]
          rfl
        exact hend
      have hcounted : (endOrderCall { s with
          openCounts := recount s.openCounts pair reported } id).openCounts =
            recount s.openCounts pair reported := rfl
      rw [overEstimates_recount_iff h hcounted hsettled]
      simp [CountsCovered, hid]
  | transmit hid => exact hmoves hid
  | @executes id attempt accepted op outcome t hid hacts =>
      have hid' : t.calls.get? id = some ⟨op, .sent attempt none⟩ := by
        rw [hacts.frame.1, hid]
      refine hkeeps hacts.frame.2.1 fun pair => ?_
      rw [settledOrders_setPhase hid']
      exact hacts.settledOrders_le (Or.inl ⟨_, hid⟩) pair
  | refuses hid => exact hmoves hid
  | @replied id attempt op outcome hid =>
      rw [overEstimates_replied_iff h hbook hid]
      simp [CountsCovered, hid]
  | backsOff hid hleft =>
      rw [hmoves hid]
      simp [CountsCovered, hid, hleft]
  | exhausted hid hleft =>
      rw [overEstimates_endOrderCall_iff h hbook hid]
      simp [CountsCovered, hid, Nat.not_lt.1 hleft]
  | retries hid => exact hmoves hid
  | @abandons id attempt op hid =>
      have hend : OverEstimates (abandon s id op) ↔ OverEstimates (endOrderCall s id) := Iff.rfl
      rw [hend, overEstimates_endOrderCall_iff h hbook hid]
      simp [CountsCovered, hid]
  | @fails id call hid =>
      obtain ⟨op, phase⟩ := call
      rw [overEstimates_endOrderCall_iff h hbook hid]
      simp [CountsCovered, hid]
  | executesLate hid hacts => exact overEstimates_late_iff h hbook hid hacts
  | refusesLate hid => exact hkeeps rfl fun pair => Nat.le_refl _
  | closes =>
      exact hkeeps rfl fun pair => Dict.total_pop_le _ _ _

/-! ## Runs -/

/-- A run keeps every count an upper bound of the open orders exactly when each recount
reports all of them, each cancel takes off no more than the count over-estimates, and each
add counts what it has opened. -/
theorem overEstimates_iff (tier : KrakenAPITier) (altname : String → String)
    (ls : List TradeLabel) :
    (tradingMachine tier altname).AllStates OverEstimates .init ls ↔
      (tradingMachine tier altname).AllSteps CountsCovered .init ls := by
  have hinit : BookInv .init ∧ OverEstimates .init :=
    ⟨bookInv_init, fun pair => Int.le_refl 0⟩
  have hkept : ∀ s l s', BookInv s ∧ OverEstimates s → CountsCovered s l →
      (tradingMachine tier altname).step s l = some s' → BookInv s' ∧ OverEstimates s' :=
    fun s l s' hinv hguard hstep =>
      ⟨hinv.1.step hstep, (overEstimates_step_iff hinv.1 hinv.2 hstep).2 hguard⟩
  refine Machine.allStates_iff_allSteps _ hkept (fun s hinv => hinv.2)
    (fun s l s' hinv hstep hover => ?_) hinit
  exact (overEstimates_step_iff hinv.1 hinv.2 hstep).1 hover

/-- A step of a sequential run: a call begins when no other is in progress, and every reply
is received. -/
def Sequential (s : Trading) : TradeLabel → Prop
  | .placeOrder _ | .placeOrdersBatch _ _ | .cancelOrder _ _ | .cancelOrdersBatch _
  | .amendOrder _ | .editOrder _ => s.calls = ∅
  | .unavailable _ | .retries _ | .fails _ | .executesLate _ _ | .refusesLate _ => False
  | .snapshot _ | .recounted _ | .transmit _ | .executes _ _ | .refuses _ | .replied _
  | .closes _ => True

/-- Two orders are placed, and a batch cancel names the first of them twice. -/
def repeatedCancelRun : List TradeLabel :=
  [.placeOrder "XBTUSD", .transmit 0, .executes 0 1, .replied 0,
    .placeOrder "XBTUSD", .transmit 1, .executes 1 1, .replied 1,
    .cancelOrdersBatch [("XBTUSD", 0), ("XBTUSD", 0)], .transmit 2, .executes 2 0, .replied 2]

/-- The exchange cancels one order, the count loses two. -/
theorem repeated_cancel_undercounts :
    (tradingMachine .starter id).AllSteps Sequential .init repeatedCancelRun ∧
      ∃ s, (tradingMachine .starter id).run .init repeatedCancelRun = some s ∧
        s.calls = ∅ ∧ openOrders s "XBTUSD" = 1 ∧ openCount s.openCounts "XBTUSD" = 0 ∧
        ¬ OverEstimates s := by
  constructor
  · exact .cons rfl rfl <| .cons rfl trivial <| .cons rfl trivial <| .cons rfl trivial <|
      .cons rfl rfl <| .cons rfl trivial <| .cons rfl trivial <| .cons rfl trivial <|
      .cons rfl rfl <| .cons rfl trivial <| .cons rfl trivial <| .cons rfl trivial trivial
  · refine ⟨_, rfl, rfl, rfl, rfl, fun h => ?_⟩
    have hpair := h "XBTUSD"
    revert hpair
    decide

end Kraken
end MarketConnector
