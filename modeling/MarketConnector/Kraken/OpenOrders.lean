import MarketConnector.Foundations.Totals
import MarketConnector.Foundations.Transitions
import MarketConnector.Kraken.Orders

/-!
# Kraken - Open-order counts and the exchange's book

The order calls of one gateway, run from await to await, beside the orders that are open
on the exchange.  A call checks the cap, may re-read the open orders, waits for the
limiter, transmits, is retried after a 5xx, and moves the local count when it processes a
reply.  The exchange acts on a transmitted request before it answers; when the call ends
without an answer, it may still act later.

Main results:

- Definition `tradingMachine`: the calls and the book.
- Theorem `tradingStep_move`: what one step can do.
- Theorem `BookInv.step`: an open order belongs to the add that opened it.
-/

namespace MarketConnector
namespace Kraken

open Foundations

/-! ## Calls and book -/

/-- What a call asks the exchange for; the orders of a cancel are paired as the caller
paired them. -/
inductive OrderOp where
  | add (pair : String) (n : Nat)
  | cancel (orders : List (String × Nat))
  | amend (txid : Nat)
  | edit (txid : Nat)

/-- What the exchange made of a request. -/
inductive Outcome where
  | refused
  | placed (accepted : Nat)
  | done

/-- Await a call is suspended in: the request for the open orders, the reservation, a
transmission, the sleep before a retry. -/
inductive OrderPhase where
  | recounting (reported : Option (List String))
  | reserving
  | sent (attempt : Nat) (outcome : Option Outcome)
  | sleeping (attempt : Nat) (outcome : Option Outcome)

structure OrderCall where
  op : OrderOp
  phase : OrderPhase

/-- An open order: its pair, as the caller named it, and the call that opened it. -/
structure OpenOrder where
  pair : String
  call : Nat

/-- The local counts, the calls in progress, the requests that calls have sent and no longer
wait for, and the exchange's open orders by txid. -/
structure Trading where
  openCounts : Dict String Int
  calls : Dict Nat OrderCall
  next : Nat
  abandoned : Dict Nat OrderOp
  book : Dict Nat OpenOrder
  issued : Nat

def Trading.init : Trading where
  openCounts := ∅
  calls := ∅
  next := 0
  abandoned := ∅
  book := ∅
  issued := 0

inductive TradeLabel where
  /-- the user calls `place_order` -/
  | placeOrder (pair : String)
  /-- the user calls `place_orders_batch` with `n` orders -/
  | placeOrdersBatch (pair : String) (n : Nat)
  /-- the user calls `cancel_order` -/
  | cancelOrder (pair : String) (txid : Nat)
  /-- the user calls `cancel_orders_batch` -/
  | cancelOrdersBatch (orders : List (String × Nat))
  /-- the user calls `amend_order` -/
  | amendOrder (txid : Nat)
  /-- the user calls `edit_order` -/
  | editOrder (txid : Nat)
  /-- the exchange answers an OpenOrders request -/
  | snapshot (id : Nat)
  /-- the reply with the open orders is processed -/
  | recounted (id : Nat)
  /-- the reservation returns and the request is sent -/
  | transmit (id : Nat)
  /-- the exchange executes a request; of an add it accepts some orders -/
  | executes (id : Nat) (accepted : Nat)
  /-- the exchange refuses a request -/
  | refuses (id : Nat)
  /-- the reply to an executed or refused request is processed -/
  | replied (id : Nat)
  /-- a request is answered 5xx, executed or not -/
  | unavailable (id : Nat)
  /-- the sleep before a retry ends and the request is sent again -/
  | retries (id : Nat)
  /-- an await of a call raises or is cancelled -/
  | fails (id : Nat)
  /-- the exchange executes a request nobody waits for -/
  | executesLate (id : Nat) (accepted : Nat)
  /-- the exchange refuses, or never receives, a request nobody waits for -/
  | refusesLate (id : Nat)
  /-- an open order is filled or expires -/
  | closes (txid : Nat)

/-! ## Steps -/

def startCall (s : Trading) (op : OrderOp) (phase : OrderPhase) : Trading :=
  { s with
    calls := s.calls.set s.next ⟨op, phase⟩
    next := s.next + 1 }

def setPhase (s : Trading) (id : Nat) (op : OrderOp) (phase : OrderPhase) : Trading :=
  { s with calls := s.calls.set id ⟨op, phase⟩ }

def endOrderCall (s : Trading) (id : Nat) : Trading :=
  { s with calls := s.calls.pop id }

/-- A call ends whose request is still under way. -/
def abandon (s : Trading) (id : Nat) (op : OrderOp) : Trading :=
  { endOrderCall s id with abandoned := s.abandoned.set id op }

def endAbandoned (s : Trading) (id : Nat) : Trading :=
  { s with abandoned := s.abandoned.pop id }

/-- `place_order` and `place_orders_batch` up to their first await. -/
def startAdd (tier : KrakenAPITier) (s : Trading) (pair : String) (n : Nat) : Trading :=
  startCall s (.add pair n)
    (if hasRoom tier s.openCounts pair n then .reserving else .recounting none)

/-- `_ensure_room` once the open orders are read. -/
def finishRecount (tier : KrakenAPITier) (s : Trading) (id : Nat) (pair : String) (n : Nat)
    (reported : List String) : Trading :=
  let s := { s with openCounts := recount s.openCounts pair reported }
  if openCount s.openCounts pair + n ≤ maxOpenOrdersPerPair tier then
    setPhase s id (.add pair n) .reserving
  else endOrderCall s id

/-- The exchange opens orders of a call. -/
def openFor (s : Trading) (id : Nat) (pair : String) : Nat → Trading
  | 0 => s
  | accepted + 1 =>
      openFor { s with
        book := s.book.set s.issued ⟨pair, id⟩
        issued := s.issued + 1 } id pair accepted

/-- The exchange executes a request: an add opens the accepted orders, a cancel closes the
listed ones, an edit puts a new order in the place of an open one. -/
def execute (s : Trading) (id accepted : Nat) : OrderOp → Option (Trading × Outcome)
  | .add pair n =>
      if accepted ≤ n then some (openFor s id pair accepted, .placed accepted) else none
  | .cancel orders =>
      some ({ s with book := s.book.without (orders.map Prod.snd) }, .done)
  | .amend _ => some (s, .done)
  | .edit txid =>
      match s.book.get? txid with
      | none => none
      | some order =>
          some ({ s with
            book := (s.book.pop txid).set s.issued order
            issued := s.issued + 1 }, .done)

/-- Take the orders of a cancel off the counts. -/
def uncount (counts : Dict String Int) (orders : List (String × Nat)) : Dict String Int :=
  orders.foldl (fun counts order => addOpen counts order.1 (-1)) counts

/-- The counts after the reply to a request.  The reply of a batch that was accepted in part
has an entry without a txid, fails validation and counts nothing. -/
def countReply (counts : Dict String Int) : OrderOp → Outcome → Dict String Int
  | .add pair n, .placed accepted => if accepted = n then addOpen counts pair n else counts
  | .cancel orders, .done => uncount counts orders
  | _, _ => counts

/-- One step of the gateway or of the exchange; `altname` is the name under which OpenOrders
reports a pair. -/
def tradingStep (tier : KrakenAPITier) (altname : String → String) (s : Trading) :
    TradeLabel → Option Trading
  | .placeOrder pair => some (startAdd tier s pair 1)
  | .placeOrdersBatch pair n =>
      some (if 2 ≤ n ∧ n ≤ 15 then startAdd tier s pair n else s)
  | .cancelOrder pair txid => some (startCall s (.cancel [(pair, txid)]) .reserving)
  | .cancelOrdersBatch orders =>
      some (if 1 ≤ orders.length ∧ orders.length ≤ 50 then startCall s (.cancel orders) .reserving
        else s)
  | .amendOrder txid => some (startCall s (.amend txid) .reserving)
  | .editOrder txid => some (startCall s (.edit txid) .reserving)
  | .snapshot id =>
      match s.calls.get? id with
      | some ⟨op, .recounting _⟩ =>
          some (setPhase s id op
            (.recounting (some (s.book.values.map fun order => altname order.pair))))
      | _ => none
  | .recounted id =>
      match s.calls.get? id with
      | some ⟨.add pair n, .recounting (some reported)⟩ =>
          some (finishRecount tier s id pair n reported)
      | _ => none
  | .transmit id =>
      match s.calls.get? id with
      | some ⟨op, .reserving⟩ => some (setPhase s id op (.sent 0 none))
      | _ => none
  | .executes id accepted =>
      match s.calls.get? id with
      | some ⟨op, .sent attempt none⟩ =>
          (execute s id accepted op).map fun (s, outcome) =>
            setPhase s id op (.sent attempt (some outcome))
      | _ => none
  | .refuses id =>
      match s.calls.get? id with
      | some ⟨op, .sent attempt none⟩ => some (setPhase s id op (.sent attempt (some .refused)))
      | _ => none
  | .replied id =>
      match s.calls.get? id with
      | some ⟨op, .sent _ (some outcome)⟩ =>
          some (endOrderCall { s with openCounts := countReply s.openCounts op outcome } id)
      | _ => none
  | .unavailable id =>
      match s.calls.get? id with
      | some ⟨op, .sent attempt outcome⟩ =>
          some (if attempt < 3 then setPhase s id op (.sleeping attempt outcome)
            else endOrderCall s id)
      | _ => none
  | .retries id =>
      match s.calls.get? id with
      | some ⟨op, .sleeping attempt _⟩ => some (setPhase s id op (.sent (attempt + 1) none))
      | _ => none
  | .fails id =>
      match s.calls.get? id with
      | some ⟨op, .sent _ none⟩ => some (abandon s id op)
      | some _ => some (endOrderCall s id)
      | none => none
  | .executesLate id accepted =>
      match s.abandoned.get? id with
      | some op => (execute s id accepted op).map fun (s, _) => endAbandoned s id
      | none => none
  | .refusesLate id =>
      if s.abandoned.contains id then some (endAbandoned s id) else none
  | .closes txid =>
      if s.book.contains txid then some { s with book := s.book.pop txid } else none

/-- The order calls of one gateway and the exchange. -/
def tradingMachine (tier : KrakenAPITier) (altname : String → String) :
    Machine Trading TradeLabel where
  init := .init
  step := tradingStep tier altname

/-! ## What a step does -/

/-- What the exchange does when it executes a request of a call. -/
inductive Acts (s : Trading) (id accepted : Nat) : OrderOp → Trading → Outcome → Prop where
  | add {pair : String} {n : Nat} (hle : accepted ≤ n) :
      Acts s id accepted (.add pair n) (openFor s id pair accepted) (.placed accepted)
  | cancel {orders : List (String × Nat)} :
      Acts s id accepted (.cancel orders)
        { s with book := s.book.without (orders.map Prod.snd) } .done
  | amend {txid : Nat} : Acts s id accepted (.amend txid) s .done
  | edit {txid : Nat} {order : OpenOrder} (horder : s.book.get? txid = some order) :
      Acts s id accepted (.edit txid)
        { s with
          book := (s.book.pop txid).set s.issued order
          issued := s.issued + 1 } .done

theorem execute_acts {s t : Trading} {id accepted : Nat} {op : OrderOp} {outcome : Outcome}
    (h : execute s id accepted op = some (t, outcome)) : Acts s id accepted op t outcome := by
  cases op with
  | add pair n =>
      simp only [execute] at h
      split_ifs at h with hle
      cases h
      exact .add hle
  | cancel orders =>
      cases h
      exact .cancel
  | amend txid =>
      cases h
      exact .amend
  | edit txid =>
      simp only [execute] at h
      split at h
      · cases h
      · rename_i order horder
        cases h
        exact .edit horder

/-- The moves of the gateway and the exchange, each with the state it leads to. -/
inductive TradingMove (tier : KrakenAPITier) (altname : String → String) (s : Trading) :
    TradeLabel → Trading → Prop where
  | placeOrder {pair : String} :
      TradingMove tier altname s (.placeOrder pair) (startAdd tier s pair 1)
  | placeOrdersBatch {pair : String} {n : Nat} (hsize : 2 ≤ n ∧ n ≤ 15) :
      TradingMove tier altname s (.placeOrdersBatch pair n) (startAdd tier s pair n)
  | wrongBatch {pair : String} {n : Nat} :
      TradingMove tier altname s (.placeOrdersBatch pair n) s
  | cancelOrder {pair : String} {txid : Nat} :
      TradingMove tier altname s (.cancelOrder pair txid)
        (startCall s (.cancel [(pair, txid)]) .reserving)
  | cancelOrdersBatch {orders : List (String × Nat)} :
      TradingMove tier altname s (.cancelOrdersBatch orders)
        (startCall s (.cancel orders) .reserving)
  | wrongCancel {orders : List (String × Nat)} :
      TradingMove tier altname s (.cancelOrdersBatch orders) s
  | amendOrder {txid : Nat} :
      TradingMove tier altname s (.amendOrder txid) (startCall s (.amend txid) .reserving)
  | editOrder {txid : Nat} :
      TradingMove tier altname s (.editOrder txid) (startCall s (.edit txid) .reserving)
  | snapshot {id : Nat} {op : OrderOp} {before : Option (List String)}
      (hid : s.calls.get? id = some ⟨op, .recounting before⟩) :
      TradingMove tier altname s (.snapshot id) (setPhase s id op
        (.recounting (some (s.book.values.map fun order => altname order.pair))))
  | hasRoom {id : Nat} {pair : String} {n : Nat} {reported : List String}
      (hid : s.calls.get? id = some ⟨.add pair n, .recounting (some reported)⟩)
      (hroom : (reported.count pair : Int) + n ≤ maxOpenOrdersPerPair tier) :
      TradingMove tier altname s (.recounted id)
        (setPhase { s with openCounts := recount s.openCounts pair reported } id (.add pair n)
          .reserving)
  | full {id : Nat} {pair : String} {n : Nat} {reported : List String}
      (hid : s.calls.get? id = some ⟨.add pair n, .recounting (some reported)⟩) :
      TradingMove tier altname s (.recounted id)
        (endOrderCall { s with openCounts := recount s.openCounts pair reported } id)
  | transmit {id : Nat} {op : OrderOp} (hid : s.calls.get? id = some ⟨op, .reserving⟩) :
      TradingMove tier altname s (.transmit id) (setPhase s id op (.sent 0 none))
  | executes {id attempt accepted : Nat} {op : OrderOp} {outcome : Outcome} {t : Trading}
      (hid : s.calls.get? id = some ⟨op, .sent attempt none⟩)
      (hacts : Acts s id accepted op t outcome) :
      TradingMove tier altname s (.executes id accepted)
        (setPhase t id op (.sent attempt (some outcome)))
  | refuses {id attempt : Nat} {op : OrderOp}
      (hid : s.calls.get? id = some ⟨op, .sent attempt none⟩) :
      TradingMove tier altname s (.refuses id)
        (setPhase s id op (.sent attempt (some .refused)))
  | replied {id attempt : Nat} {op : OrderOp} {outcome : Outcome}
      (hid : s.calls.get? id = some ⟨op, .sent attempt (some outcome)⟩) :
      TradingMove tier altname s (.replied id)
        (endOrderCall { s with openCounts := countReply s.openCounts op outcome } id)
  | backsOff {id attempt : Nat} {op : OrderOp} {outcome : Option Outcome}
      (hid : s.calls.get? id = some ⟨op, .sent attempt outcome⟩) (hleft : attempt < 3) :
      TradingMove tier altname s (.unavailable id) (setPhase s id op (.sleeping attempt outcome))
  | exhausted {id attempt : Nat} {op : OrderOp} {outcome : Option Outcome}
      (hid : s.calls.get? id = some ⟨op, .sent attempt outcome⟩) (hleft : ¬ attempt < 3) :
      TradingMove tier altname s (.unavailable id) (endOrderCall s id)
  | retries {id attempt : Nat} {op : OrderOp} {outcome : Option Outcome}
      (hid : s.calls.get? id = some ⟨op, .sleeping attempt outcome⟩) :
      TradingMove tier altname s (.retries id) (setPhase s id op (.sent (attempt + 1) none))
  | abandons {id attempt : Nat} {op : OrderOp}
      (hid : s.calls.get? id = some ⟨op, .sent attempt none⟩) :
      TradingMove tier altname s (.fails id) (abandon s id op)
  | fails {id : Nat} {call : OrderCall} (hid : s.calls.get? id = some call) :
      TradingMove tier altname s (.fails id) (endOrderCall s id)
  | executesLate {id accepted : Nat} {op : OrderOp} {outcome : Outcome} {t : Trading}
      (hid : s.abandoned.get? id = some op) (hacts : Acts s id accepted op t outcome) :
      TradingMove tier altname s (.executesLate id accepted) (endAbandoned t id)
  | refusesLate {id : Nat} {op : OrderOp} (hid : s.abandoned.get? id = some op) :
      TradingMove tier altname s (.refusesLate id) (endAbandoned s id)
  | closes {txid : Nat} :
      TradingMove tier altname s (.closes txid) { s with book := s.book.pop txid }

/-- Every step is a move. -/
theorem tradingStep_move {tier : KrakenAPITier} {altname : String → String} {s s' : Trading}
    {l : TradeLabel} (hstep : tradingStep tier altname s l = some s') :
    TradingMove tier altname s l s' := by
  cases l with
  | placeOrder pair =>
      cases hstep
      exact .placeOrder
  | placeOrdersBatch pair n =>
      simp only [tradingStep, Option.some.injEq] at hstep
      split_ifs at hstep with hsize
      · cases hstep
        exact .placeOrdersBatch hsize
      · cases hstep
        exact .wrongBatch
  | cancelOrder pair txid =>
      cases hstep
      exact .cancelOrder
  | cancelOrdersBatch orders =>
      simp only [tradingStep, Option.some.injEq] at hstep
      split_ifs at hstep
      · cases hstep
        exact .cancelOrdersBatch
      · cases hstep
        exact .wrongCancel
  | amendOrder txid =>
      cases hstep
      exact .amendOrder
  | editOrder txid =>
      cases hstep
      exact .editOrder
  | snapshot id =>
      simp only [tradingStep] at hstep
      split at hstep
      · rename_i op before hid
        cases hstep
        exact .snapshot hid
      · cases hstep
  | recounted id =>
      simp only [tradingStep] at hstep
      split at hstep
      · rename_i pair n reported hid
        cases hstep
        simp only [finishRecount, openCount_recount_self]
        split_ifs with hroom
        · exact .hasRoom hid hroom
        · exact .full hid
      · cases hstep
  | transmit id =>
      simp only [tradingStep] at hstep
      split at hstep
      · rename_i op hid
        cases hstep
        exact .transmit hid
      · cases hstep
  | executes id accepted =>
      simp only [tradingStep] at hstep
      split at hstep
      · rename_i op attempt hid
        obtain ⟨⟨t, outcome⟩, hexecute, rfl⟩ := Option.map_eq_some_iff.1 hstep
        exact .executes hid (execute_acts hexecute)
      · cases hstep
  | refuses id =>
      simp only [tradingStep] at hstep
      split at hstep
      · rename_i op attempt hid
        cases hstep
        exact .refuses hid
      · cases hstep
  | replied id =>
      simp only [tradingStep] at hstep
      split at hstep
      · rename_i op attempt outcome hid
        cases hstep
        exact .replied hid
      · cases hstep
  | unavailable id =>
      simp only [tradingStep] at hstep
      split at hstep
      · rename_i op attempt outcome hid
        cases hstep
        split_ifs with hleft
        · exact .backsOff hid hleft
        · exact .exhausted hid hleft
      · cases hstep
  | retries id =>
      simp only [tradingStep] at hstep
      split at hstep
      · rename_i op attempt outcome hid
        cases hstep
        exact .retries hid
      · cases hstep
  | fails id =>
      simp only [tradingStep] at hstep
      split at hstep
      · rename_i op attempt hid
        cases hstep
        exact .abandons hid
      · rename_i call _ hid
        cases hstep
        exact .fails hid
      · cases hstep
  | executesLate id accepted =>
      simp only [tradingStep] at hstep
      split at hstep
      · rename_i op hid
        obtain ⟨⟨t, outcome⟩, hexecute, rfl⟩ := Option.map_eq_some_iff.1 hstep
        exact .executesLate hid (execute_acts hexecute)
      · cases hstep
  | refusesLate id =>
      simp only [tradingStep] at hstep
      split_ifs at hstep with hcontains
      cases hstep
      obtain ⟨op, hid⟩ := Option.isSome_iff_exists.1 hcontains
      exact .refusesLate hid
  | closes txid =>
      simp only [tradingStep] at hstep
      split_ifs at hstep
      cases hstep
      exact .closes

/-! ## Orders on the exchange -/

/-- Orders of a pair that a request asks for. -/
def OrderOp.adds (pair : String) : OrderOp → Nat
  | .add pair' n => if pair' = pair then n else 0
  | _ => 0

/-- Open orders of a pair. -/
def openOrders (s : Trading) (pair : String) : Nat :=
  s.book.total fun order => if order.pair = pair then 1 else 0

/-- Open orders of a pair that a call has opened. -/
def openedBy (s : Trading) (id : Nat) (pair : String) : Nat :=
  s.book.total fun order => if order.pair = pair ∧ order.call = id then 1 else 0

/-- Open orders of a pair that no call in progress has opened. -/
def settledOrders (s : Trading) (pair : String) : Nat :=
  s.book.total fun order =>
    if order.pair = pair ∧ s.calls.contains order.call = false then 1 else 0

/-! ## Executing a request -/

theorem openFor_frame (s : Trading) (id : Nat) (pair : String) (accepted : Nat) :
    (openFor s id pair accepted).calls = s.calls ∧
      (openFor s id pair accepted).openCounts = s.openCounts ∧
      (openFor s id pair accepted).abandoned = s.abandoned := by
  induction accepted generalizing s with
  | zero => exact ⟨rfl, rfl, rfl⟩
  | succ accepted ih => exact ih _

/-- The exchange changes its book only. -/
theorem Acts.frame {s t : Trading} {id accepted : Nat} {op : OrderOp} {outcome : Outcome}
    (h : Acts s id accepted op t outcome) :
    t.calls = s.calls ∧ t.openCounts = s.openCounts ∧ t.abandoned = s.abandoned := by
  cases h with
  | add hle => exact openFor_frame _ _ _ _
  | cancel => exact ⟨rfl, rfl, rfl⟩
  | amend => exact ⟨rfl, rfl, rfl⟩
  | edit horder => exact ⟨rfl, rfl, rfl⟩

/-- The exchange opens at most the orders it accepts. -/
theorem openOrders_openFor (s : Trading) (id : Nat) (opened pair : String) (accepted : Nat) :
    openOrders (openFor s id opened accepted) pair ≤
      openOrders s pair + if opened = pair then accepted else 0 := by
  induction accepted generalizing s with
  | zero => simp [openFor]
  | succ accepted ih =>
      have hrest := ih { s with
        book := s.book.set s.issued ⟨opened, id⟩
        issued := s.issued + 1 }
      have hfirst : openOrders { s with
          book := s.book.set s.issued ⟨opened, id⟩
          issued := s.issued + 1 } pair ≤ openOrders s pair + if opened = pair then 1 else 0 :=
        Dict.total_set_le _ _ _ _
      have hopened : openOrders (openFor s id opened (accepted + 1)) pair =
          openOrders (openFor { s with
            book := s.book.set s.issued ⟨opened, id⟩
            issued := s.issued + 1 } id opened accepted) pair := rfl
      rw [hopened]
      split_ifs at hrest hfirst ⊢ <;> omega

/-- The exchange opens at most the orders a request asks for. -/
theorem Acts.openOrders_le {s t : Trading} {id accepted : Nat} {op : OrderOp}
    {outcome : Outcome} (h : Acts s id accepted op t outcome) (pair : String) :
    openOrders t pair ≤ openOrders s pair + op.adds pair := by
  cases h with
  | @add pair' n hle =>
      have hopened := openOrders_openFor s id pair' pair accepted
      simp only [OrderOp.adds]
      split_ifs at hopened ⊢ <;> omega
  | cancel => exact (Dict.total_without_le _ _ _).trans (Nat.le_add_right _ _)
  | amend => exact Nat.le_add_right _ _
  | edit horder =>
      exact (Dict.total_set_le _ _ _ _).trans (Dict.total_pop_of_get? horder _).le

/-! ## Who opened an order -/

/-- Calls have numbers that have been given out, and so have the abandoned requests, whose
calls have ended, and the calls that the orders on the book name; such a call, if it is still
in progress, is an add on the order's pair that has been sent. -/
structure BookInv (s : Trading) : Prop where
  fresh : ∀ id call, s.calls.get? id = some call → id < s.next
  late : ∀ id op, s.abandoned.get? id = some op → id < s.next ∧ s.calls.get? id = none
  issued : ∀ txid order, s.book.get? txid = some order → txid < s.issued
  opener : ∀ txid order, s.book.get? txid = some order → order.call < s.next ∧
    ∀ call, s.calls.get? order.call = some call →
      (∃ n, call.op = .add order.pair n) ∧ ∀ reported, call.phase ≠ .recounting reported

theorem bookInv_init : BookInv .init := by
  constructor
  · intro id call hcall
    cases hcall
  · intro id op hid
    cases hid
  · intro txid order horder
    cases horder
  · intro txid order horder
    cases horder

/-- Only the phase of one call changes. -/
theorem BookInv.setPhase {s : Trading} (h : BookInv s) {id : Nat} {op : OrderOp}
    {before after : OrderPhase} (hid : s.calls.get? id = some ⟨op, before⟩)
    (hphase : (∀ reported, before ≠ .recounting reported) →
      ∀ reported, after ≠ .recounting reported) : BookInv (setPhase s id op after) := by
  constructor
  · exact Dict.forall_get?_set h.fresh (h.fresh id _ hid)
  · intro id' op' hid'
    obtain ⟨hlt, hended⟩ := h.late id' op' hid'
    have hne : id' ≠ id := by
      rintro rfl
      cases hid.symm.trans hended
    exact ⟨hlt, (Dict.get?_set_of_ne _ hne _).trans hended⟩
  · exact h.issued
  · intro txid order horder
    obtain ⟨hlt, hopener⟩ := h.opener txid order horder
    refine ⟨hlt, fun call hcall => ?_⟩
    simp only [Kraken.setPhase, Dict.get?_set] at hcall
    split_ifs at hcall with heq
    · cases hcall
      obtain ⟨hadd, hsent⟩ := hopener ⟨op, before⟩ (heq ▸ hid)
      exact ⟨hadd, hphase hsent⟩
    · exact hopener call hcall

/-- A call ends. -/
theorem BookInv.endOrderCall {s : Trading} (h : BookInv s) (id : Nat) :
    BookInv (endOrderCall s id) := by
  have hfound : ∀ id' call, (s.calls.pop id).get? id' = some call →
      s.calls.get? id' = some call := fun id' call hcall => Dict.get?_of_pop hcall
  constructor
  · exact fun id' call hcall => h.fresh id' call (hfound id' call hcall)
  · intro id' op hid'
    obtain ⟨hlt, hended⟩ := h.late id' op hid'
    refine ⟨hlt, ?_⟩
    simp only [Kraken.endOrderCall, Dict.get?_pop, hended, ite_self]
  · exact h.issued
  · intro txid order horder
    obtain ⟨hlt, hopener⟩ := h.opener txid order horder
    exact ⟨hlt, fun call hcall => hopener call (hfound _ call hcall)⟩

/-- A call ends and leaves its request. -/
theorem BookInv.abandon {s : Trading} (h : BookInv s) {id : Nat} {call : OrderCall}
    (hid : s.calls.get? id = some call) (op : OrderOp) : BookInv (abandon s id op) := by
  have hend := h.endOrderCall id
  refine ⟨hend.fresh, fun id' op' hid' => ?_, hend.issued, hend.opener⟩
  simp only [Kraken.abandon, Dict.get?_set] at hid'
  split_ifs at hid' with heq
  · subst heq
    exact ⟨h.fresh id' call hid, Dict.get?_pop_self _ _⟩
  · exact hend.late id' op' hid'

/-- A request that nobody waits for is settled. -/
theorem BookInv.endAbandoned {s : Trading} (h : BookInv s) (id : Nat) :
    BookInv (endAbandoned s id) := by
  refine ⟨h.fresh, fun id' op hid' => ?_, h.issued, h.opener⟩
  exact h.late id' op (Dict.get?_of_pop hid')

/-- A call begins. -/
theorem BookInv.startCall {s : Trading} (h : BookInv s) (op : OrderOp) (phase : OrderPhase) :
    BookInv (startCall s op phase) := by
  constructor
  · intro id' call hcall
    simp only [Kraken.startCall, Dict.get?_set] at hcall ⊢
    split_ifs at hcall
    · omega
    · have hlt := h.fresh id' call hcall
      omega
  · intro id' op' hid'
    obtain ⟨hlt, hended⟩ := h.late id' op' hid'
    exact ⟨Nat.lt_succ_of_lt hlt, (Dict.get?_set_of_ne _ (Nat.ne_of_lt hlt) _).trans hended⟩
  · exact h.issued
  · intro txid order horder
    obtain ⟨hlt, hopener⟩ := h.opener txid order horder
    refine ⟨Nat.lt_succ_of_lt hlt, fun call hcall => ?_⟩
    simp only [Kraken.startCall, Dict.get?_set] at hcall
    split_ifs at hcall
    · omega
    · exact hopener call hcall

/-- The exchange removes orders, or gives them another txid. -/
theorem BookInv.book {s : Trading} (h : BookInv s) {book : Dict Nat OpenOrder} {issued : Nat}
    (hbook : ∀ txid order, book.get? txid = some order →
      txid < issued ∧ ∃ txid', s.book.get? txid' = some order) :
    BookInv { s with book := book, issued := issued } := by
  refine ⟨h.fresh, h.late, fun txid order horder => (hbook txid order horder).1,
    fun txid order horder => ?_⟩
  obtain ⟨-, txid', hbefore⟩ := hbook txid order horder
  exact h.opener txid' order hbefore

theorem BookInv.counts {s : Trading} (h : BookInv s) (counts : Dict String Int) :
    BookInv { s with openCounts := counts } :=
  ⟨h.fresh, h.late, h.issued, h.opener⟩

/-- The exchange opens orders of a call that has ended, or of an add that has been sent. -/
theorem BookInv.openFor {s : Trading} (h : BookInv s) {id : Nat} {pair : String}
    (hlt : id < s.next)
    (hcall : ∀ call, s.calls.get? id = some call →
      (∃ n, call.op = .add pair n) ∧ ∀ reported, call.phase ≠ .recounting reported)
    (accepted : Nat) : BookInv (openFor s id pair accepted) := by
  induction accepted generalizing s with
  | zero => exact h
  | succ accepted ih =>
      refine ih (s := { s with
        book := s.book.set s.issued ⟨pair, id⟩
        issued := s.issued + 1 }) ⟨h.fresh, h.late, fun txid order horder => ?_,
          fun txid order horder => ?_⟩ hlt hcall
      · simp only [Dict.get?_set] at horder
        split_ifs at horder with heq
        · exact heq ▸ Nat.lt_succ_self _
        · exact Nat.lt_succ_of_lt (h.issued txid order horder)
      · simp only [Dict.get?_set] at horder
        split_ifs at horder
        · cases horder
          exact ⟨hlt, hcall⟩
        · exact h.opener txid order horder

/-- The exchange executes a request of a call that has ended, or has sent it. -/
theorem BookInv.acts {s t : Trading} (h : BookInv s) {id accepted : Nat} {op : OrderOp}
    {outcome : Outcome} (hlt : id < s.next)
    (hcall : ∀ call, s.calls.get? id = some call →
      call.op = op ∧ ∀ reported, call.phase ≠ .recounting reported)
    (hacts : Acts s id accepted op t outcome) : BookInv t := by
  cases hacts with
  | @add pair n hle =>
      refine h.openFor hlt (fun call hid => ?_) accepted
      obtain ⟨hop, hsent⟩ := hcall call hid
      exact ⟨⟨n, hop⟩, hsent⟩
  | cancel =>
      refine h.book fun txid order horder => ?_
      rw [Dict.get?_without] at horder
      split_ifs at horder
      exact ⟨h.issued txid order horder, txid, horder⟩
  | amend => exact h
  | @edit txid order horder =>
      refine h.book fun txid' order' horder' => ?_
      rw [Dict.get?_set] at horder'
      split_ifs at horder' with heq
      · cases horder'
        exact ⟨heq ▸ Nat.lt_succ_self _, txid, horder⟩
      · rw [Dict.get?_pop] at horder'
        split_ifs at horder'
        exact ⟨Nat.lt_succ_of_lt (h.issued txid' order' horder'), txid', horder'⟩

/-- Every step keeps the openers. -/
theorem BookInv.step {tier : KrakenAPITier} {altname : String → String} {s s' : Trading}
    {l : TradeLabel} (h : BookInv s) (hstep : tradingStep tier altname s l = some s') :
    BookInv s' := by
  cases tradingStep_move hstep with
  | placeOrder => exact h.startCall _ _
  | placeOrdersBatch hsize => exact h.startCall _ _
  | wrongBatch => exact h
  | cancelOrder => exact h.startCall _ _
  | cancelOrdersBatch => exact h.startCall _ _
  | wrongCancel => exact h
  | amendOrder => exact h.startCall _ _
  | editOrder => exact h.startCall _ _
  | snapshot hid => exact h.setPhase hid fun hno => absurd rfl (hno _)
  | hasRoom hid hroom => exact (h.counts _).setPhase hid (by simp)
  | full hid => exact (h.counts _).endOrderCall _
  | transmit hid => exact h.setPhase hid (by simp)
  | @executes id attempt accepted op outcome t hid hacts =>
      have hbook : BookInv t := by
        refine h.acts (h.fresh id _ hid) (fun call hcall => ?_) hacts
        cases hid.symm.trans hcall
        exact ⟨rfl, by simp⟩
      have hid' : t.calls.get? id = some ⟨op, .sent attempt none⟩ := by
        rw [hacts.frame.1, hid]
      exact hbook.setPhase hid' (by simp)
  | refuses hid => exact h.setPhase hid (by simp)
  | replied hid => exact (h.counts _).endOrderCall _
  | backsOff hid hleft => exact h.setPhase hid (by simp)
  | exhausted hid hleft => exact h.endOrderCall _
  | retries hid => exact h.setPhase hid (by simp)
  | abandons hid => exact h.abandon hid _
  | fails hid => exact h.endOrderCall _
  | @executesLate id accepted op outcome t hid hacts =>
      obtain ⟨hlt, hended⟩ := h.late id op hid
      refine (h.acts hlt (fun call hcall => ?_) hacts).endAbandoned id
      cases hended.symm.trans hcall
  | refusesLate hid => exact h.endAbandoned _
  | closes =>
      refine h.book fun txid' order' horder' => ?_
      rw [Dict.get?_pop] at horder'
      split_ifs at horder'
      exact ⟨h.issued txid' order' horder', txid', horder'⟩

/-! ## Settled orders -/

theorem settledOrders_setPhase {s : Trading} {id : Nat} {op op' : OrderOp}
    {before after : OrderPhase} (hid : s.calls.get? id = some ⟨op, before⟩) (pair : String) :
    settledOrders (setPhase s id op' after) pair = settledOrders s pair := by
  have hsame : ∀ id', (setPhase s id op' after).calls.contains id' = s.calls.contains id' := by
    intro id'
    simp only [Dict.contains, setPhase, Dict.get?_set]
    split_ifs with heq
    · rw [heq, hid]
      rfl
    · rfl
  unfold settledOrders
  simp only [hsame]
  rfl

/-- A call that begins has opened nothing. -/
theorem settledOrders_startCall {s : Trading} (h : BookInv s) (op : OrderOp) (phase : OrderPhase)
    (pair : String) : settledOrders (startCall s op phase) pair = settledOrders s pair := by
  refine Dict.total_congr fun txid order horder => ?_
  have hne : order.call ≠ s.next := Nat.ne_of_lt (h.opener txid order horder).1
  simp [Dict.contains, startCall, Dict.get?_set_of_ne _ hne]

/-- The open orders of a call that ends count as settled. -/
theorem settledOrders_endOrderCall {s : Trading} {id : Nat} {call : OrderCall}
    (hid : s.calls.get? id = some call) (pair : String) :
    settledOrders (endOrderCall s id) pair = settledOrders s pair + openedBy s id pair := by
  unfold settledOrders openedBy
  rw [← Dict.total_add]
  refine Dict.total_congr fun txid order _ => ?_
  by_cases heq : order.call = id
  · simp [endOrderCall, Dict.contains, heq, hid]
  · simp [endOrderCall, Dict.contains, heq, Dict.get?_pop_of_ne]

theorem settledOrders_openFor {s : Trading} {id : Nat} {call : OrderCall}
    (hid : s.calls.get? id = some call) (opened pair : String) (accepted : Nat) :
    settledOrders (openFor s id opened accepted) pair ≤ settledOrders s pair := by
  induction accepted generalizing s with
  | zero => exact Nat.le_refl _
  | succ accepted ih =>
      refine (ih (s := { s with
        book := s.book.set s.issued ⟨opened, id⟩
        issued := s.issued + 1 }) hid).trans ?_
      refine (Dict.total_set_le _ _ _ _).trans ?_
      simp [Dict.contains, hid, settledOrders]

/-- The orders of a request that nobody waits for are settled at once. -/
theorem settledOrders_openFor_late {s : Trading} {id : Nat}
    (hissued : ∀ txid order, s.book.get? txid = some order → txid < s.issued)
    (hended : s.calls.get? id = none) (opened pair : String) (accepted : Nat) :
    settledOrders (openFor s id opened accepted) pair =
      settledOrders s pair + if opened = pair then accepted else 0 := by
  induction accepted generalizing s with
  | zero => simp [openFor]
  | succ accepted ih =>
      have habsent : s.book.get? s.issued = none := by
        cases hget : s.book.get? s.issued with
        | none => rfl
        | some order => exact absurd (hissued _ order hget) (Nat.lt_irrefl _)
      have hfirst : settledOrders { s with
          book := s.book.set s.issued ⟨opened, id⟩
          issued := s.issued + 1 } pair =
            settledOrders s pair + if opened = pair then 1 else 0 := by
        refine (Dict.total_set_of_absent habsent _ _).trans ?_
        simp [Dict.contains, hended, settledOrders]
      have hissued' : ∀ txid order, (s.book.set s.issued ⟨opened, id⟩).get? txid = some order →
          txid < s.issued + 1 := by
        intro txid order horder
        simp only [Dict.get?_set] at horder
        split_ifs at horder with heq
        · exact heq ▸ Nat.lt_succ_self _
        · exact Nat.lt_succ_of_lt (hissued txid order horder)
      refine (ih (s := { s with
        book := s.book.set s.issued ⟨opened, id⟩
        issued := s.issued + 1 }) hissued' hended).trans ?_
      rw [hfirst]
      split_ifs <;> omega

/-- A request that adds nothing settles nothing. -/
theorem Acts.settledOrders_le {s t : Trading} {id accepted : Nat} {op : OrderOp}
    {outcome : Outcome} (h : Acts s id accepted op t outcome)
    (hno : (∃ call, s.calls.get? id = some call) ∨ ∀ pair n, op ≠ .add pair n) (pair : String) :
    settledOrders t pair ≤ settledOrders s pair := by
  cases h with
  | @add pair' n hle =>
      obtain ⟨call, hid⟩ | hno := hno
      · exact settledOrders_openFor hid pair' pair accepted
      · exact absurd rfl (hno pair' n)
  | cancel => exact Dict.total_without_le _ _ _
  | amend => exact Nat.le_refl _
  | edit horder =>
      exact (Dict.total_set_le _ _ _ _).trans (Dict.total_pop_of_get? horder _).le

/-- Only an add on the pair has opened orders of it. -/
theorem openedBy_eq_zero {s : Trading} (h : BookInv s) {id : Nat} {call : OrderCall}
    {pair : String} (hid : s.calls.get? id = some call)
    (hno : (∀ n, call.op ≠ .add pair n) ∨ ∃ reported, call.phase = .recounting reported) :
    openedBy s id pair = 0 := by
  have hzero : openedBy s id pair = s.book.total fun _ => 0 := by
    refine Dict.total_congr fun txid order horder => ?_
    rw [if_neg]
    rintro ⟨rfl, rfl⟩
    obtain ⟨⟨n, hadd⟩, hsent⟩ := (h.opener txid order horder).2 call hid
    rcases hno with hno | ⟨reported, hphase⟩
    · exact hno n hadd
    · exact hsent reported hphase
  rw [hzero, Dict.total_zero]

end Kraken
end MarketConnector
