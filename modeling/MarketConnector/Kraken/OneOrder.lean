import Mathlib.Data.Finset.Card
import Mathlib.Data.Finset.Range
import MarketConnector.Kraken.Orders
import MarketConnector.Transport.CounterNonces

/-!
# Kraken - How many orders does one `place_order` create?

The retry loop sends the same AddOrder again after every 5xx, and the body names no
order of its own: an exchange that executed the order before it answered 5xx executes it
again.

Main results:

- Theorem `ordersCreated_le_one_iff`: the exchanges at which a call creates at most one
  order.
- Theorem `retried_order_created_again`: an exchange that executes every attempt.
-/

namespace MarketConnector
namespace Kraken

open Foundations Transport

variable {L Charge : Type}

/-- Orders that an exchange creates for a list of requests: `executes i call` says that it
executes attempt number `i`. -/
def ordersCreated (executes : Nat → HttpCall → Bool) (calls : List HttpCall) : Nat :=
  ((Finset.range calls.length).filter fun i => (calls[i]?).any (executes i)).card

/-- The state a call starts from, before its first action. -/
def OrdersState.start (limiter : L) (registeredLimits : List String)
    (openCounts : Dict String Int) (placedAt : Dict String Rat) : OrdersState L :=
  ⟨.start limiter registeredLimits, openCounts, placedAt⟩

/-- Of the attempts of a request that are made (each after all before it were answered 5xx
and slept for, up to three retries), the exchange executes one at most. -/
def ExecutesOnce (http : Env L Charge) (executes : Nat → HttpCall → Bool) (call : HttpCall) :
    Prop :=
  ∀ i j, i < j → j ≤ 3 → (∀ k < j, retried http call k = true) →
    ¬ (executes i call = true ∧ executes j call = true)

/-- The attempts of one request. -/
theorem ordersCreated_replicate (executes : Nat → HttpCall → Bool) (m : Nat) (call : HttpCall) :
    ordersCreated executes (List.replicate m call) ≤ 1 ↔
      ∀ i j, i < j → j < m → ¬ (executes i call = true ∧ executes j call = true) := by
  have hmem : ∀ i, i ∈ (Finset.range (List.replicate m call).length).filter
      (fun i => ((List.replicate m call)[i]?).any (executes i)) ↔
        i < m ∧ executes i call = true := by
    intro i
    simp only [Finset.mem_filter, Finset.mem_range, List.length_replicate,
      List.getElem?_replicate]
    refine and_congr_right fun hi => ?_
    rw [if_pos hi, Option.any_some]
  unfold ordersCreated
  rw [Finset.card_le_one]
  constructor
  · rintro hone i j hij hj ⟨hi', hj'⟩
    have hsame := hone i ((hmem i).2 ⟨by omega, hi'⟩) j ((hmem j).2 ⟨hj, hj'⟩)
    omega
  · intro honce i hi j hj
    obtain ⟨hi, hi'⟩ := (hmem i).1 hi
    obtain ⟨hj, hj'⟩ := (hmem j).1 hj
    by_contra hne
    rcases Nat.lt_or_gt_of_ne hne with hlt | hgt
    · exact honce i j hlt hj ⟨hi', hj'⟩
    · exact honce j i hgt hi ⟨hj', hi'⟩

/-- A call creates at most one order exactly when the exchange executes at most one of the
attempts that are made of the request it hands to the HTTP client. -/
theorem ordersCreated_le_one_iff (env : OrdersEnv L Charge) (args : PlaceArgs)
    (executes : Nat → HttpCall → Bool) (limiter : L) (registeredLimits : List String)
    (openCounts : Dict String Int) (placedAt : Dict String Rat) :
    ordersCreated executes (addOrderCalls env (placeOrder env args
        (.start limiter registeredLimits openCounts placedAt)).1.rest.actions) ≤ 1 ↔
      ∀ call, plannedAdd env args (.start limiter registeredLimits openCounts placedAt) =
        some call → ExecutesOnce env.http executes call := by
  have hcalls := placeOrder_addOrders env args
    (.start limiter registeredLimits openCounts placedAt)
  have hnone : addOrderCalls env
      (OrdersState.start limiter registeredLimits openCounts placedAt).rest.actions = [] := rfl
  rw [hcalls, hnone, List.nil_append]
  cases plannedAdd env args (.start limiter registeredLimits openCounts placedAt) with
  | none => simp [callsMade, ordersCreated]
  | some call =>
      have hmade : callsMade env.http env.client (some call) =
          List.replicate (attemptsMade env.http call 4 0) call := rfl
      rw [hmade, ordersCreated_replicate]
      simp only [Option.some.injEq, forall_eq', ExecutesOnce, lt_attemptsMade_iff, Nat.zero_add,
        and_imp]
      refine forall_congr' fun i => forall_congr' fun j => forall_congr' fun _ => ?_
      exact imp_congr Nat.lt_succ_iff Iff.rfl

/-! ## An exchange that answers 503 -/

/-- A gateway that is ready, before an exchange that answers every request 503. -/
def unavailableGateway : OrdersEnv Unit Unit where
  http := { emptyReplies with reply := fun _ _ => .returned unavailableReply }
  keyed := ⟨fun _ _ => none, fun u _ => u⟩
  num := ⟨fun _ => "", fun _ => none, fun _ => none⟩
  ready := true
  tier := .starter
  baseUrl := "https://api.kraken.com"
  signer := some krakenSigner
  orderClock := 0

def buyOne : PlaceArgs where
  tradingPair := "XBTUSD"
  orderType := .member .market
  side := .member .buy
  amount := .ofNat 1
  price := none

/-- An exchange that executes every attempt and answers 503 creates four orders. -/
theorem retried_order_created_again :
    ordersCreated (fun _ _ => true) (addOrderCalls unavailableGateway
      (placeOrder unavailableGateway buyOne (.start () [] ∅ ∅)).1.rest.actions) = 4 :=
  rfl

end Kraken
end MarketConnector
