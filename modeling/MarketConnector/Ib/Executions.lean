import MarketConnector.Foundations.Characters
import MarketConnector.Foundations.PyValue
import MarketConnector.Foundations.Recency
import MarketConnector.Foundations.Transitions
import MarketConnector.Ib.Orders
import MarketConnector.Ib.Pacing

/-!
# Ib - Executions

Fills and fees come live and from the query after a connect, in any order and more than once.
A fill is published when its exec id is new, or has a greater suffix than the last one with its
base; a fee is published once for every exec id.

Main results:

- Definition `executionsMachine`: live executions and reports, and the query.
- Theorems `ingestFill_fst` and `ingestFee_fst`: what one of them does.
- Theorem `executions_publishedOnce`: what is published, and how far apart the same exec id is.
-/

namespace MarketConnector
namespace Ib

open Foundations

/-! ## Exec ids -/

/-- `text.rpartition(sep)`: what stands before the last separator, and what after it. -/
def rpartition (sep : Char) (text : List Char) : List Char × List Char :=
  let back := text.reverse
  (((back.dropWhile (· ≠ sep)).drop 1).reverse, (back.takeWhile (· ≠ sep)).reverse)

/-- Digits with single underscores between them. -/
def intDigits : List Char → Option (List Nat)
  | [] => none
  | [c] => (decimalDigit? c).map fun d => [d]
  | c :: '_' :: cs => do return (← decimalDigit? c) :: (← intDigits cs)
  | c :: cs => do return (← decimalDigit? c) :: (← intDigits cs)

/-- The default of `sys.get_int_max_str_digits()`. -/
def maxIntDigits : Nat :=
  4300

/-- `int` of a text without a sign. -/
def intMagnitude (text : List Char) : Option Nat :=
  (intDigits text).bind fun digits =>
    if maxIntDigits < digits.length then none
    else some (digits.foldl (fun n d => 10 * n + d) 0)

/-- The spaces that `int` allows around a number; the separators 28 to 31 are not among them. -/
def isIntSpace (c : Char) : Bool :=
  isSpace c && !(28 ≤ c.toNat && c.toNat ≤ 31)

/-- `int(text)`, or `none` for a `ValueError`. -/
def intOf (text : List Char) : Option Int :=
  match ((text.dropWhile isIntSpace).reverse.dropWhile isIntSpace).reverse with
  | '-' :: digits => (intMagnitude digits).map fun n => -(n : Int)
  | '+' :: digits => (intMagnitude digits).map fun n => (n : Int)
  | digits => (intMagnitude digits).map fun n => (n : Int)

/-- `_exec_suffix`. -/
def execSuffix (execId : String) : Int :=
  let suffix := (rpartition '.' execId.toList).2
  if suffix = [] then -1 else (intOf suffix).getD (-1)

/-- The base of an exec id, as `_ingest_fill` takes it. -/
def execBase (execId : String) : String :=
  let base := (rpartition '.' execId.toList).1
  if base = [] then execId else String.ofList base

/-- The last separator of a text stands before a part without one. -/
theorem rpartition_append {sep : Char} (front : List Char) {back : List Char}
    (h : ∀ c ∈ back, c ≠ sep) : rpartition sep (front ++ sep :: back) = (front, back) := by
  have htake : ∀ c ∈ back.reverse, decide (c ≠ sep) = true := by
    intro c hc
    simpa using h c (List.mem_reverse.1 hc)
  unfold rpartition
  simp only [List.reverse_append, List.reverse_cons, List.append_assoc, List.singleton_append]
  rw [List.dropWhile_append_of_pos htake, List.takeWhile_append_of_pos htake]
  simp

/-- The digits of a number have their values. -/
theorem intDigits_of_isDigit {cs : List Char} (hne : cs ≠ []) (h : ∀ c ∈ cs, c.isDigit) :
    intDigits cs = some (cs.map fun c => c.toNat - 48) := by
  induction cs with
  | nil => exact absurd rfl hne
  | cons c cs ih =>
      rw [List.forall_mem_cons] at h
      have hc := decimalDigit?_of_isDigit h.1
      cases cs with
      | nil => simp [intDigits, hc]
      | cons c' cs =>
          have hscore : c' ≠ '_' := by
            rintro rfl
            exact absurd (h.2 '_' List.mem_cons_self) (by decide)
          have hrest := ih (by simp) h.2
          unfold intDigits
          split
          · rename_i heq
            cases heq
          · rename_i heq
            cases heq
          · rename_i heq
            cases heq
            exact absurd rfl hscore
          · rename_i heq
            cases heq
            rw [hc, hrest]
            rfl

theorem isIntSpace_of_isDigit {c : Char} (h : c.isDigit) : isIntSpace c = false := by
  have hge : 48 ≤ c.toNat := (Char.isDigit_iff_toNat.1 h).1
  have hle : c.toNat ≤ 57 := (Char.isDigit_iff_toNat.1 h).2
  simp only [isIntSpace, isSpace, List.mem_cons, List.not_mem_nil, or_false, Bool.and_eq_false_iff,
    Bool.or_eq_false_iff, decide_eq_false_iff_not]
  omega

/-- `int` of a decimal number. -/
theorem intOf_of_isDigit {cs : List Char} (hne : cs ≠ []) (hlength : cs.length ≤ maxIntDigits)
    (h : ∀ c ∈ cs, c.isDigit) : intOf cs = some (Nat.ofDigitChars 10 cs 0 : Nat) := by
  have hmagnitude : intMagnitude cs = some (Nat.ofDigitChars 10 cs 0) := by
    rw [intMagnitude, intDigits_of_isDigit hne h, Option.bind_some, List.length_map,
      if_neg (not_lt.2 hlength), List.foldl_map]
    rfl
  obtain ⟨c, rest, rfl⟩ := List.exists_cons_of_ne_nil hne
  have hstrip : ∀ {xs : List Char}, (∀ c ∈ xs, c.isDigit) → xs.dropWhile isIntSpace = xs :=
    fun hxs => dropWhile_of_forall fun c hc => isIntSpace_of_isDigit (hxs c hc)
  have hc := h c List.mem_cons_self
  unfold intOf
  rw [hstrip h, hstrip (fun x hx => h x (List.mem_reverse.1 hx)), List.reverse_reverse]
  split
  · rename_i heq
    cases heq
    exact absurd hc (by decide)
  · rename_i heq
    cases heq
    exact absurd hc (by decide)
  · rw [hmagnitude]
    rfl

/-! ## Fills and reports -/

/-- A commission report of IB; the commission is what `decimal_or_none` makes of the number. -/
structure CommissionReport where
  execId : String
  commission : Except PyError (Option Decimal)
  currency : String

/-- A fill of IB with its execution; the numbers are what `Decimal(str(..))` makes of them.  Of
the two reports the outer option tells whether the attribute exists. -/
structure Fill where
  execId : String
  orderId : Int
  permId : Int
  conId : Int
  symbol : String
  side : String
  price : Except PyError Decimal
  shares : Except PyError Decimal
  cumQty : Except PyError Decimal
  time : Rat
  acctNumber : String
  commissionAndFeesReport : Option (Option CommissionReport)
  commissionReport : Option (Option CommissionReport)

structure FillEvent where
  execId : String
  orderId : Int
  permId : Int
  conId : Int
  symbol : String
  side : TradeType
  price : Decimal
  size : Decimal
  cumQty : Decimal
  time : Rat
  account : String
  isCorrection : Bool
  reconciled : Bool

structure FeeEvent where
  execId : String
  orderId : Int
  fee : Decimal
  feeCurrency : String
  reconciled : Bool

/-- `_fill_event`. -/
def fillEvent (fill : Fill) (isCorrection reconciled : Bool) : Except PyError FillEvent := do
  let price ← fill.price
  let size ← fill.shares
  let cumQty ← fill.cumQty
  return {
    execId := fill.execId
    orderId := fill.orderId
    permId := fill.permId
    conId := fill.conId
    symbol := fill.symbol
    side := if fill.side = "BOT" then .buy else .sell
    price := price
    size := size
    cumQty := cumQty
    time := fill.time
    account := fill.acctNumber
    isCorrection := isCorrection
    reconciled := reconciled }

/-- `_fill_report`. -/
def fillReport (fill : Fill) : Option CommissionReport :=
  match fill.commissionAndFeesReport with
  | some report => report
  | none => fill.commissionReport.join

/-- `_fee_event`. -/
def feeEvent (fill : Fill) (report : Option CommissionReport) (reconciled : Bool) :
    Except PyError (Option FeeEvent) :=
  match report with
  | none => .ok none
  | some report =>
      if report.execId = "" then .ok none
      else
        report.commission.map fun commission =>
          commission.map fun fee =>
            { execId := report.execId
              orderId := fill.orderId
              fee := fee
              feeCurrency := report.currency
              reconciled := reconciled }

/-! ## Ingestion -/

/-- `_MAX_TRACKED_EXECUTIONS`. -/
def maxTrackedExecutions : Nat :=
  10000

/-- What is published on `FILL_TOPIC` and on `FEE_TOPIC`. -/
inductive ExecutionEvent where
  | fill (event : FillEvent)
  | fee (event : FeeEvent)

/-- The remembered exec ids, those of fills under their base, and the published events. -/
structure Executions where
  seenFills : Dict String String
  seenFees : Dict String Unit
  published : List ExecutionEvent

def Executions.init : Executions :=
  ⟨∅, ∅, []⟩

/-- `_ingest_fill`: an exception leaves the fill remembered. -/
def ingestFill (s : Executions) (fill : Fill) (reconciled : Bool) :
    Executions × Except PyError Bool :=
  let base := execBase fill.execId
  let last := s.seenFills.get? base
  if last.any fun last => execSuffix fill.execId ≤ execSuffix last then (s, .ok false)
  else
    let s := { s with seenFills := s.seenFills.remember maxTrackedExecutions base fill.execId }
    match fillEvent fill last.isSome reconciled with
    | .error e => (s, .error e)
    | .ok event => ({ s with published := s.published ++ [.fill event] }, .ok true)

/-- `_ingest_fee`. -/
def ingestFee (s : Executions) (fill : Fill) (report : CommissionReport) (reconciled : Bool) :
    Executions × Except PyError Bool :=
  if report.execId = "" || s.seenFees.contains report.execId then (s, .ok false)
  else
    match feeEvent fill (some report) reconciled with
    | .error e => (s, .error e)
    | .ok none => (s, .ok false)
    | .ok (some event) =>
        ({ s with
          seenFees := s.seenFees.remember maxTrackedExecutions report.execId ()
          published := s.published ++ [.fee event] }, .ok true)

/-- The loop of `_reconcile_executions`; an exception ends it. -/
def reconcileFills (s : Executions) : List Fill → Executions
  | [] => s
  | fill :: fills =>
      match ingestFill s fill true with
      | (s, .error _) => s
      | (s, .ok _) =>
          match fillReport fill with
          | none => reconcileFills s fills
          | some report =>
              match ingestFee s fill report true with
              | (s, .error _) => s
              | (s, .ok _) => reconcileFills s fills

inductive ExecutionsLabel where
  /-- `execDetailsEvent` -/
  | execDetails (fill : Fill)
  /-- `commissionReportEvent` -/
  | commissionReport (fill : Fill) (report : CommissionReport)
  /-- the query after a connect is answered, or fails -/
  | reconcile (reply : Except PyError (List Fill))

def executionsStep (s : Executions) : ExecutionsLabel → Option Executions
  | .execDetails fill => some (ingestFill s fill false).1
  | .commissionReport fill report => some (ingestFee s fill report false).1
  | .reconcile (.ok fills) => some (reconcileFills s fills)
  | .reconcile (.error _) => some s

/-- A transport that is told of executions and commissions, in any order. -/
def executionsMachine : Machine Executions ExecutionsLabel where
  init := .init
  step := executionsStep

/-! ## Inputs -/

/-- One fill or one report, live or reconciled. -/
inductive ExecutionInput where
  | fill (fill : Fill) (reconciled : Bool)
  | report (fill : Fill) (report : CommissionReport) (reconciled : Bool)

/-- Its numeric fields convert. -/
def ExecutionInput.converts : ExecutionInput → Bool
  | .fill x _ => x.price.isOk && x.shares.isOk && x.cumQty.isOk
  | .report _ x _ => x.commission.isOk

/-- The inputs of a step, in order. -/
def ExecutionsLabel.inputs : ExecutionsLabel → List ExecutionInput
  | .execDetails fill => [.fill fill false]
  | .commissionReport fill report => [.report fill report false]
  | .reconcile (.ok fills) => fills.flatMap fun fill =>
      ExecutionInput.fill fill true ::
        ((fillReport fill).map fun report => .report fill report true).toList
  | .reconcile (.error _) => []

/-- What a transport makes of one input. -/
def ingest (s : Executions) : ExecutionInput → Executions
  | .fill fill reconciled => (ingestFill s fill reconciled).1
  | .report fill report reconciled => (ingestFee s fill report reconciled).1

def ingestAll (s : Executions) (xs : List ExecutionInput) : Executions :=
  xs.foldl ingest s

theorem ingestAll_append (s : Executions) (xs ys : List ExecutionInput) :
    ingestAll s (xs ++ ys) = ingestAll (ingestAll s xs) ys :=
  List.foldl_append

/-- Fills are recorded under their base, if they are newer than the remembered one. -/
def fillFilter : DuplicateFilter ExecutionInput String String where
  cap := maxTrackedExecutions
  entry
    | .fill fill _ => some (execBase fill.execId, fill.execId)
    | .report _ _ _ => none
  supersedes id last := execSuffix last < execSuffix id

/-- The commission of a report that can be published. -/
def completeFee (report : CommissionReport) : Option Decimal :=
  if report.execId = "" then none
  else report.commission.toOption.join

/-- Reports are recorded under their exec id, if it is not remembered. -/
def feeFilter : DuplicateFilter ExecutionInput String Unit where
  cap := maxTrackedExecutions
  entry
    | .fill _ _ => none
    | .report _ report _ => (completeFee report).map fun _ => (report.execId, ())
  supersedes _ _ := false

/-- What the fill of an exec id makes of the memories, and what it publishes. -/
theorem ingestFill_fst (s : Executions) (fill : Fill) (reconciled : Bool) :
    (ingestFill s fill reconciled).1 =
      if fillFilter.admits s.seenFills (execBase fill.execId, fill.execId) then
        { s with
          seenFills := s.seenFills.remember maxTrackedExecutions (execBase fill.execId)
            fill.execId
          published := s.published ++
            ((fillEvent fill (s.seenFills.contains (execBase fill.execId))
              reconciled).toOption.map .fill).toList }
      else s := by
  unfold ingestFill DuplicateFilter.admits Dict.contains
  dsimp only [fillFilter]
  cases s.seenFills.get? (execBase fill.execId) with
  | none =>
      cases hevent : fillEvent fill false reconciled with
      | error e => simp [hevent, Except.toOption]
      | ok event => simp [hevent, Except.toOption]
  | some last =>
      by_cases hnew : execSuffix last < execSuffix fill.execId
      · cases hevent : fillEvent fill true reconciled with
        | error e => simp [not_le.2 hnew, hnew, hevent, Except.toOption]
        | ok event => simp [not_le.2 hnew, hnew, hevent, Except.toOption]
      · simp [hnew, not_lt.1 hnew]

/-- What a report makes of the memories, and what it publishes. -/
theorem ingestFee_fst (s : Executions) (fill : Fill) (report : CommissionReport)
    (reconciled : Bool) :
    (ingestFee s fill report reconciled).1 =
      match completeFee report with
      | none => s
      | some fee =>
          if s.seenFees.contains report.execId then s
          else
            { s with
              seenFees := s.seenFees.remember maxTrackedExecutions report.execId ()
              published := s.published ++
                [.fee ⟨report.execId, fill.orderId, fee, report.currency, reconciled⟩] } := by
  unfold ingestFee completeFee feeEvent
  by_cases hempty : report.execId = ""
  · simp [hempty]
  · cases hseen : s.seenFees.contains report.execId with
    | true =>
        rw [if_pos (by simp), if_neg hempty]
        cases report.commission.toOption.join with
        | none => rfl
        | some fee => rfl
    | false =>
        cases hfee : report.commission with
        | error e => simp [hempty, hfee, Except.map, Except.toOption]
        | ok commission =>
            cases commission with
            | none => simp [hempty, hfee, Except.map, Except.toOption]
            | some fee => simp [hempty, hfee, Except.map, Except.toOption]

/-! ## The memories and the events of an input -/

/-- The fill is not remembered under its base, or has a greater suffix. -/
def IsNewer (seen : Dict String String) (execId : String) : Prop :=
  ∀ last, seen.get? (execBase execId) = some last → execSuffix last < execSuffix execId

theorem admits_fill_iff (seen : Dict String String) (execId : String) :
    fillFilter.admits seen (execBase execId, execId) = true ↔ IsNewer seen execId := by
  unfold DuplicateFilter.admits IsNewer
  dsimp only [fillFilter]
  cases seen.get? (execBase execId) with
  | none => simp
  | some last => simp

instance (seen : Dict String String) (execId : String) : Decidable (IsNewer seen execId) :=
  decidable_of_iff _ (admits_fill_iff seen execId)

theorem taken_fill (seen : Dict String String) (fill : Fill) (reconciled : Bool) :
    fillFilter.taken seen (.fill fill reconciled) =
      if IsNewer seen fill.execId then some (execBase fill.execId, fill.execId) else none := by
  unfold DuplicateFilter.taken
  by_cases hnew : IsNewer seen fill.execId
  · rw [if_pos hnew]
    exact Option.filter_some_pos ((admits_fill_iff seen fill.execId).2 hnew)
  · rw [if_neg hnew]
    have hrefused := mt (admits_fill_iff seen fill.execId).1 hnew
    exact Option.filter_some_neg (Bool.not_eq_true _ |>.mp hrefused)

theorem taken_report (seen : Dict String Unit) (fill : Fill) (report : CommissionReport)
    (reconciled : Bool) :
    feeFilter.taken seen (.report fill report reconciled) =
      (completeFee report).bind fun _ =>
        if seen.contains report.execId then none else some (report.execId, ()) := by
  unfold DuplicateFilter.taken DuplicateFilter.admits Dict.contains
  dsimp only [feeFilter]
  cases completeFee report with
  | none => rfl
  | some fee =>
      rw [Option.map_some, Option.bind_some]
      cases hseen : seen.get? report.execId with
      | none => exact Option.filter_some_pos (by rw [hseen]; rfl)
      | some u => exact Option.filter_some_neg (by rw [hseen]; rfl)

theorem ingest_seenFills (s : Executions) (x : ExecutionInput) :
    (ingest s x).seenFills = fillFilter.step s.seenFills x := by
  cases x with
  | fill fill reconciled =>
      rw [ingest, ingestFill_fst, DuplicateFilter.step, taken_fill]
      by_cases hnew : IsNewer s.seenFills fill.execId
      · rw [if_pos ((admits_fill_iff _ _).2 hnew), if_pos hnew]
        rfl
      · rw [if_neg (mt (admits_fill_iff _ _).1 hnew), if_neg hnew]
  | report fill report reconciled =>
      rw [ingest, ingestFee_fst]
      cases completeFee report with
      | none => rfl
      | some fee =>
          dsimp only
          split_ifs
          · rfl
          · rfl

theorem ingest_seenFees (s : Executions) (x : ExecutionInput) :
    (ingest s x).seenFees = feeFilter.step s.seenFees x := by
  cases x with
  | fill fill reconciled =>
      rw [ingest, ingestFill_fst]
      split_ifs
      · rfl
      · rfl
  | report fill report reconciled =>
      rw [ingest, ingestFee_fst, DuplicateFilter.step, taken_report]
      cases completeFee report with
      | none => rfl
      | some fee =>
          by_cases hseen : s.seenFees.contains report.execId
          · simp only [hseen, if_true, Option.bind_some]
          · simp only [hseen, Option.bind_some]
            rfl

theorem ingestAll_seenFills (s : Executions) (xs : List ExecutionInput) :
    (ingestAll s xs).seenFills = fillFilter.run s.seenFills xs := by
  induction xs generalizing s with
  | nil => rfl
  | cons x xs ih =>
      rw [DuplicateFilter.run_cons, ← ingest_seenFills]
      exact ih (ingest s x)

theorem ingestAll_seenFees (s : Executions) (xs : List ExecutionInput) :
    (ingestAll s xs).seenFees = feeFilter.run s.seenFees xs := by
  induction xs generalizing s with
  | nil => rfl
  | cons x xs ih =>
      rw [DuplicateFilter.run_cons, ← ingest_seenFees]
      exact ih (ingest s x)

/-- A fill whose numbers convert becomes an event. -/
theorem fillEvent_of_converts {fill : Fill} {reconciled : Bool}
    (h : (ExecutionInput.fill fill reconciled).converts) (isCorrection : Bool) :
    ∃ event, fillEvent fill isCorrection reconciled = .ok event ∧ event.execId = fill.execId ∧
      event.isCorrection = isCorrection := by
  simp only [ExecutionInput.converts, Bool.and_eq_true] at h
  obtain ⟨⟨hprice, hshares⟩, hqty⟩ := h
  cases hp : fill.price with
  | error e => simp [hp, Except.isOk, Except.toBool] at hprice
  | ok price =>
      cases hs : fill.shares with
      | error e => simp [hs, Except.isOk, Except.toBool] at hshares
      | ok shares =>
          cases hq : fill.cumQty with
          | error e => simp [hq, Except.isOk, Except.toBool] at hqty
          | ok cumQty =>
              refine ⟨_, by rw [fillEvent, hp, hs, hq]; rfl, rfl, rfl⟩

/-- The base of a published fill. -/
def fillBase : ExecutionEvent → Option String
  | .fill event => some (execBase event.execId)
  | .fee _ => none

/-- The exec id of a published fee. -/
def feeId : ExecutionEvent → Option String
  | .fill _ => none
  | .fee event => some event.execId

/-- An input publishes what it records. -/
theorem exists_published (s : Executions) {x : ExecutionInput} (h : x.converts) :
    ∃ events, (ingest s x).published = s.published ++ events ∧
      events.filterMap fillBase = (fillFilter.taken s.seenFills x).toList.map Prod.fst ∧
      events.filterMap feeId = (feeFilter.taken s.seenFees x).toList.map Prod.fst := by
  cases x with
  | fill fill reconciled =>
      rw [ingest, ingestFill_fst, taken_fill]
      by_cases hnew : IsNewer s.seenFills fill.execId
      · rw [if_pos ((admits_fill_iff _ _).2 hnew), if_pos hnew]
        obtain ⟨event, hevent, hid, -⟩ := fillEvent_of_converts h
          (s.seenFills.contains (execBase fill.execId))
        refine ⟨[.fill event], by rw [hevent]; rfl, ?_, rfl⟩
        simp [fillBase, hid]
      · rw [if_neg (mt (admits_fill_iff _ _).1 hnew), if_neg hnew]
        exact ⟨[], by simp, rfl, rfl⟩
  | report fill report reconciled =>
      rw [ingest, ingestFee_fst, taken_report]
      cases completeFee report with
      | none => exact ⟨[], by simp, rfl, rfl⟩
      | some fee =>
          rw [Option.bind_some]
          dsimp only
          by_cases hseen : s.seenFees.contains report.execId
          · rw [if_pos hseen, if_pos hseen]
            exact ⟨[], by simp, rfl, rfl⟩
          · rw [if_neg hseen, if_neg hseen]
            exact ⟨_, rfl, rfl, rfl⟩

/-- Some inputs publish what they record. -/
theorem exists_publishedAll (s : Executions) {xs : List ExecutionInput}
    (h : ∀ x ∈ xs, x.converts) :
    ∃ events, (ingestAll s xs).published = s.published ++ events ∧
      events.filterMap fillBase = (fillFilter.log s.seenFills xs).map Prod.fst ∧
      events.filterMap feeId = (feeFilter.log s.seenFees xs).map Prod.fst := by
  induction xs generalizing s with
  | nil => exact ⟨[], by simp [ingestAll], rfl, rfl⟩
  | cons x xs ih =>
      obtain ⟨first, hfirst, hbases, hids⟩ := exists_published s (h x List.mem_cons_self)
      obtain ⟨rest, hrest, hbases', hids'⟩ :=
        ih (ingest s x) fun y hy => h y (List.mem_cons_of_mem _ hy)
      refine ⟨first ++ rest, ?_, ?_, ?_⟩
      · rw [← List.append_assoc, ← hfirst, ← hrest]
        rfl
      · rw [List.filterMap_append, hbases, hbases', ingest_seenFills, DuplicateFilter.log,
          List.map_append]
      · rw [List.filterMap_append, hids, hids', ingest_seenFees, DuplicateFilter.log,
          List.map_append]

/-! ## What is published -/

/-- An input publishes something. -/
def Publishes (s : Executions) (x : ExecutionInput) : Prop :=
  (ingest s x).published ≠ s.published

/-- Keys of the events that some inputs publish; what is published has just been recorded. -/
def recordedKeys (key : ExecutionEvent → Option String) (s : Executions)
    (xs : List ExecutionInput) : List String :=
  ((ingestAll s xs).published.drop s.published.length).filterMap key

theorem recordedKeys_eq (s : Executions) {xs : List ExecutionInput}
    (h : ∀ x ∈ xs, x.converts) :
    recordedKeys fillBase s xs = (fillFilter.log s.seenFills xs).map Prod.fst ∧
      recordedKeys feeId s xs = (feeFilter.log s.seenFees xs).map Prod.fst := by
  obtain ⟨events, hevents, hbases, hids⟩ := exists_publishedAll s h
  unfold recordedKeys
  rw [hevents, List.drop_left]
  exact ⟨hbases, hids⟩

/-- A fill is published if and only if its base is not remembered or its suffix is greater than
the remembered one, and is a correction exactly when its base was remembered. -/
structure FillRule (s : Executions) (fill : Fill) (reconciled : Bool) : Prop where
  publishes : Publishes s (.fill fill reconciled) ↔
    s.seenFills.get? (execBase fill.execId) = none ∨
      ∃ last, s.seenFills.get? (execBase fill.execId) = some last ∧
        execSuffix last < execSuffix fill.execId
  event : Publishes s (.fill fill reconciled) →
    ∃ event, (ingest s (.fill fill reconciled)).published = s.published ++ [.fill event] ∧
      event.execId = fill.execId ∧
      (event.isCorrection ↔ s.seenFills.contains (execBase fill.execId))

/-- A fee is published if and only if its report has an exec id, which is not remembered, and a
commission; a report without one changes nothing. -/
structure FeeRule (s : Executions) (fill : Fill) (report : CommissionReport)
    (reconciled : Bool) : Prop where
  publishes : Publishes s (.report fill report reconciled) ↔
    (report.execId ≠ "" ∧ ∃ fee, report.commission = .ok (some fee)) ∧
      ¬ s.seenFees.contains report.execId
  event : Publishes s (.report fill report reconciled) →
    ∃ event, (ingest s (.report fill report reconciled)).published =
        s.published ++ [.fee event] ∧
      event.execId = report.execId
  incomplete : report.execId = "" ∨ report.commission = .ok none →
    ingest s (.report fill report reconciled) = s

/-- What holds of the inputs of a run. -/
structure PublishedOnce (xs : List ExecutionInput) : Prop where
  fill : ∀ pre fill reconciled post, xs = pre ++ .fill fill reconciled :: post →
    FillRule (ingestAll .init pre) fill reconciled
  /-- While a base is remembered, the published suffixes increase. -/
  suffixes : ∀ pre x r mid x' r' post,
    xs = pre ++ .fill x r :: (mid ++ .fill x' r' :: post) →
    execBase x'.execId = execBase x.execId →
    Publishes (ingestAll .init pre) (.fill x r) →
    Publishes (ingestAll .init (pre ++ .fill x r :: mid)) (.fill x' r') →
    (∀ m, m <+: mid → (ingestAll .init (pre ++ .fill x r :: m)).seenFills.contains
      (execBase x.execId)) →
    execSuffix x.execId < execSuffix x'.execId
  /-- Between two publications of one exec id, that many other bases are recorded. -/
  execIds : ∀ pre x r mid x' r' post,
    xs = pre ++ .fill x r :: (mid ++ .fill x' r' :: post) → x'.execId = x.execId →
    Publishes (ingestAll .init pre) (.fill x r) →
    Publishes (ingestAll .init (pre ++ .fill x r :: mid)) (.fill x' r') →
    maxTrackedExecutions ≤ ((recordedKeys fillBase (ingestAll .init (pre ++ [.fill x r]))
      mid).toFinset.erase (execBase x.execId)).card
  fee : ∀ pre fill report reconciled post, xs = pre ++ .report fill report reconciled :: post →
    FeeRule (ingestAll .init pre) fill report reconciled
  /-- Between two publications of one fee, that many other fees are recorded. -/
  feeIds : ∀ pre x y r mid x' y' r' post,
    xs = pre ++ .report x y r :: (mid ++ .report x' y' r' :: post) → y'.execId = y.execId →
    Publishes (ingestAll .init pre) (.report x y r) →
    Publishes (ingestAll .init (pre ++ .report x y r :: mid)) (.report x' y' r') →
    maxTrackedExecutions ≤ ((recordedKeys feeId (ingestAll .init (pre ++ [.report x y r]))
      mid).toFinset.erase y.execId).card
  /-- The first complete report of an exec id is published. -/
  firstFee : ∀ pre fill report reconciled post,
    xs = pre ++ .report fill report reconciled :: post →
    report.execId ≠ "" → (∃ fee, report.commission = .ok (some fee)) →
    (∀ x y r, .report x y r ∈ pre → y.execId = report.execId →
      y.commission = .ok none) →
    Publishes (ingestAll .init pre) (.report fill report reconciled)

theorem publishes_fill_iff {s : Executions} {fill : Fill} {reconciled : Bool}
    (h : (ExecutionInput.fill fill reconciled).converts) :
    Publishes s (.fill fill reconciled) ↔ IsNewer s.seenFills fill.execId := by
  unfold Publishes
  rw [ingest, ingestFill_fst]
  by_cases hnew : IsNewer s.seenFills fill.execId
  · obtain ⟨event, hevent, -⟩ := fillEvent_of_converts h
      (s.seenFills.contains (execBase fill.execId))
    rw [if_pos ((admits_fill_iff _ _).2 hnew), hevent]
    simp [Except.toOption, hnew]
  · rw [if_neg (mt (admits_fill_iff _ _).1 hnew)]
    simp [hnew]

theorem completeFee_isSome_iff (report : CommissionReport) :
    (completeFee report).isSome ↔
      report.execId ≠ "" ∧ ∃ fee, report.commission = .ok (some fee) := by
  unfold completeFee
  by_cases hempty : report.execId = ""
  · simp [hempty]
  · rw [if_neg hempty]
    cases report.commission with
    | error e => simp [Except.toOption]
    | ok commission => simp [Except.toOption, hempty, Option.isSome_iff_exists]

theorem publishes_report_iff (s : Executions) (fill : Fill) (report : CommissionReport)
    (reconciled : Bool) :
    Publishes s (.report fill report reconciled) ↔
      (completeFee report).isSome ∧ ¬ s.seenFees.contains report.execId := by
  unfold Publishes
  rw [ingest, ingestFee_fst]
  cases completeFee report with
  | none => simp
  | some fee =>
      by_cases hseen : s.seenFees.contains report.execId
      · simp [hseen]
      · simp [hseen]

/-- A fill that is published is taken. -/
theorem taken_of_publishes {s : Executions} {fill : Fill} {reconciled : Bool}
    (h : (ExecutionInput.fill fill reconciled).converts)
    (hpublishes : Publishes s (.fill fill reconciled)) :
    fillFilter.taken s.seenFills (.fill fill reconciled) =
      some (execBase fill.execId, fill.execId) := by
  rw [taken_fill, if_pos ((publishes_fill_iff h).1 hpublishes)]

/-- A report that is published is taken. -/
theorem taken_of_publishes_fee {s : Executions} {fill : Fill} {report : CommissionReport}
    {reconciled : Bool} (h : Publishes s (.report fill report reconciled)) :
    feeFilter.taken s.seenFees (.report fill report reconciled) = some (report.execId, ()) := by
  obtain ⟨hcomplete, hunseen⟩ := (publishes_report_iff s fill report reconciled).1 h
  obtain ⟨fee, hfee⟩ := Option.isSome_iff_exists.1 hcomplete
  rw [taken_report, hfee, Option.bind_some, if_neg hunseen]

theorem fillRule (s : Executions) {fill : Fill} {reconciled : Bool}
    (h : (ExecutionInput.fill fill reconciled).converts) : FillRule s fill reconciled where
  publishes := by
    rw [publishes_fill_iff h]
    unfold IsNewer
    cases s.seenFills.get? (execBase fill.execId) with
    | none => simp
    | some last => simp
  event hpublishes := by
    have hnew := (publishes_fill_iff h).1 hpublishes
    obtain ⟨event, hevent, hid, hcorrection⟩ := fillEvent_of_converts h
      (s.seenFills.contains (execBase fill.execId))
    refine ⟨event, ?_, hid, by rw [hcorrection]⟩
    rw [ingest, ingestFill_fst, if_pos ((admits_fill_iff _ _).2 hnew), hevent]
    rfl

theorem feeRule (s : Executions) (fill : Fill) (report : CommissionReport) (reconciled : Bool) :
    FeeRule s fill report reconciled where
  publishes := by rw [publishes_report_iff, completeFee_isSome_iff]
  event hpublishes := by
    obtain ⟨hcomplete, hunseen⟩ := (publishes_report_iff s fill report reconciled).1 hpublishes
    obtain ⟨fee, hfee⟩ := Option.isSome_iff_exists.1 hcomplete
    rw [ingest, ingestFee_fst, hfee]
    dsimp only
    rw [if_neg hunseen]
    exact ⟨_, rfl, rfl⟩
  incomplete hincomplete := by
    have hnone : completeFee report = none := by
      unfold completeFee
      rcases hincomplete with hempty | hunset
      · rw [if_pos hempty]
      · rw [hunset]
        split_ifs
        · rfl
        · rfl
    rw [ingest, ingestFee_fst, hnone]

/-! ## Runs -/

theorem seenFills_after (pre : List ExecutionInput) (x : ExecutionInput)
    (mid : List ExecutionInput) :
    (ingestAll .init (pre ++ x :: mid)).seenFills =
      fillFilter.run (fillFilter.step (fillFilter.run ∅ pre) x) mid := by
  rw [ingestAll_seenFills, DuplicateFilter.run_append]
  rfl

theorem seenFees_after (pre : List ExecutionInput) (x : ExecutionInput)
    (mid : List ExecutionInput) :
    (ingestAll .init (pre ++ x :: mid)).seenFees =
      feeFilter.run (feeFilter.step (feeFilter.run ∅ pre) x) mid := by
  rw [ingestAll_seenFees, DuplicateFilter.run_append]
  rfl

theorem fillFilter_trans (a b c : String) (hcb : fillFilter.supersedes c b)
    (hba : fillFilter.supersedes b a) : fillFilter.supersedes c a := by
  have hleft : execSuffix a < execSuffix b := of_decide_eq_true hba
  have hright : execSuffix b < execSuffix c := of_decide_eq_true hcb
  exact decide_eq_true (lt_trans hleft hright)

theorem feeFilter_trans (a b c : Unit) (hcb : feeFilter.supersedes c b)
    (_ : feeFilter.supersedes b a) : feeFilter.supersedes c a :=
  hcb

/-- What is published of some inputs. -/
theorem publishedOnce_of_converts {xs : List ExecutionInput} (h : ∀ x ∈ xs, x.converts) :
    PublishedOnce xs where
  fill pre fill reconciled post hxs := fillRule _ (h _ (by simp [hxs]))
  suffixes pre x r mid x' r' post hxs hbase hfirst hsecond hkept := by
    have hx := taken_of_publishes (h _ (by simp [hxs])) hfirst
    have hx' := taken_of_publishes (h _ (by simp [hxs])) hsecond
    rw [ingestAll_seenFills] at hx
    rw [seenFills_after, hbase] at hx'
    refine of_decide_eq_true (fillFilter.supersedes_of_remembered fillFilter_trans hx hx' ?_)
    intro m hm
    have hcontains := hkept m hm
    rw [seenFills_after] at hcontains
    exact hcontains
  execIds pre x r mid x' r' post hxs hid hfirst hsecond := by
    have hx := taken_of_publishes (h _ (by simp [hxs])) hfirst
    have hx' := taken_of_publishes (h _ (by simp [hxs])) hsecond
    have hmid : ∀ y ∈ mid, y.converts := fun y hy => h y (by simp [hxs, hy])
    rw [ingestAll_seenFills] at hx
    rw [seenFills_after, hid] at hx'
    rw [(recordedKeys_eq _ hmid).1, seenFills_after]
    refine fillFilter.cap_le_card fillFilter_trans hx hx' fun hnewer => ?_
    have hless : execSuffix x.execId < execSuffix x.execId := of_decide_eq_true hnewer
    exact lt_irrefl _ hless
  fee pre fill report reconciled post _ := feeRule _ fill report reconciled
  feeIds pre x y r mid x' y' r' post hxs hid hfirst hsecond := by
    have hx := taken_of_publishes_fee hfirst
    have hx' := taken_of_publishes_fee hsecond
    have hmid : ∀ z ∈ mid, z.converts := fun z hz => h z (by simp [hxs, hz])
    rw [ingestAll_seenFees] at hx
    rw [seenFees_after, hid] at hx'
    rw [(recordedKeys_eq _ hmid).2, seenFees_after]
    exact feeFilter.cap_le_card feeFilter_trans hx hx' Bool.false_ne_true
  firstFee pre fill report reconciled post hxs hid hfee hunset := by
    refine (publishes_report_iff _ fill report reconciled).2
      ⟨(completeFee_isSome_iff report).2 ⟨hid, hfee⟩, fun hseen => ?_⟩
    rw [ingestAll_seenFees] at hseen
    obtain ⟨x, hx, u, hentry⟩ := feeFilter.exists_of_contains hseen
    cases x with
    | fill x r => cases hentry
    | report x y r =>
        obtain ⟨fee, hcomplete, hkey⟩ := Option.map_eq_some_iff.1 hentry
        have hsome := (completeFee_isSome_iff y).1 (Option.isSome_iff_exists.2 ⟨fee, hcomplete⟩)
        obtain ⟨amount, hamount⟩ := hsome.2
        rw [hunset x y r hx (congrArg Prod.fst hkey)] at hamount
        cases hamount

/-- A fill whose numbers convert is ingested without an exception. -/
theorem ingestFill_eq {s : Executions} {fill : Fill} {reconciled : Bool}
    (h : (ExecutionInput.fill fill reconciled).converts) :
    ∃ isPublished, ingestFill s fill reconciled =
      (ingest s (.fill fill reconciled), .ok isPublished) := by
  have hsnd : ∃ isPublished, (ingestFill s fill reconciled).2 = .ok isPublished := by
    unfold ingestFill
    dsimp only
    split_ifs
    · exact ⟨_, rfl⟩
    · obtain ⟨event, hevent, -⟩ := fillEvent_of_converts h
        (s.seenFills.get? (execBase fill.execId)).isSome
      rw [hevent]
      exact ⟨_, rfl⟩
  obtain ⟨isPublished, hsnd⟩ := hsnd
  exact ⟨isPublished, Prod.ext rfl hsnd⟩

theorem ingestFee_eq {s : Executions} {fill : Fill} {report : CommissionReport}
    {reconciled : Bool} (h : (ExecutionInput.report fill report reconciled).converts) :
    ∃ isPublished, ingestFee s fill report reconciled =
      (ingest s (.report fill report reconciled), .ok isPublished) := by
  have hsnd : ∃ isPublished, (ingestFee s fill report reconciled).2 = .ok isPublished := by
    unfold ingestFee feeEvent
    cases hfee : report.commission with
    | error e => simp [ExecutionInput.converts, hfee, Except.isOk, Except.toBool] at h
    | ok commission =>
        by_cases hskip : (report.execId = "" || s.seenFees.contains report.execId) = true
        · rw [if_pos hskip]
          exact ⟨_, rfl⟩
        · have hid : report.execId ≠ "" := fun hid => hskip (by simp [hid])
          rw [if_neg hskip]
          dsimp only
          rw [if_neg hid, hfee]
          cases commission with
          | none => exact ⟨_, rfl⟩
          | some fee => exact ⟨_, rfl⟩
  obtain ⟨isPublished, hsnd⟩ := hsnd
  exact ⟨isPublished, Prod.ext rfl hsnd⟩

/-- The loop ingests the fills with their reports, one after the other. -/
theorem reconcileFills_eq_ingestAll (s : Executions) {fills : List Fill}
    (h : ∀ x ∈ (ExecutionsLabel.reconcile (.ok fills)).inputs, x.converts) :
    reconcileFills s fills = ingestAll s (ExecutionsLabel.reconcile (.ok fills)).inputs := by
  induction fills generalizing s with
  | nil => rfl
  | cons fill fills ih =>
      simp only [ExecutionsLabel.inputs, List.flatMap_cons] at h ih ⊢
      have hrest : ∀ s, reconcileFills s fills = _ := fun s =>
        ih s fun x hx => h x (List.mem_append_right _ hx)
      obtain ⟨_, hfill⟩ := ingestFill_eq (s := s) (h (.fill fill true) (by simp))
      simp only [reconcileFills, hfill]
      cases hreport : fillReport fill with
      | none => exact hrest _
      | some report =>
          obtain ⟨_, hfee⟩ := @ingestFee_eq (ingest s (.fill fill true)) fill report true
            (h _ (by simp [hreport]))
          simp only [hfee]
          exact hrest _

/-- A run of the transport ingests the inputs of its steps. -/
theorem run_eq_ingestAll (s : Executions) {ls : List ExecutionsLabel}
    (h : ∀ x ∈ ls.flatMap ExecutionsLabel.inputs, x.converts) :
    executionsMachine.run s ls = some (ingestAll s (ls.flatMap ExecutionsLabel.inputs)) := by
  induction ls generalizing s with
  | nil => rfl
  | cons l ls ih =>
      rw [List.flatMap_cons] at h ⊢
      have hstep : executionsMachine.step s l = some (ingestAll s l.inputs) := by
        cases l with
        | execDetails fill => rfl
        | commissionReport fill report => rfl
        | reconcile reply =>
            cases reply with
            | error e => rfl
            | ok fills =>
                exact congrArg some (reconcileFills_eq_ingestAll s fun x hx =>
                  h x (List.mem_append_left _ hx))
      rw [ingestAll_append]
      exact executionsMachine.run_cons_eq_some.2
        ⟨_, hstep, ih _ fun x hx => h x (List.mem_append_right _ hx)⟩

/-- In every run whose numeric fields convert, a fill is published if and only if its base is
not remembered or its suffix is greater, a fee if and only if it is complete and its exec id is
not remembered, and the same exec id twice only after as many others as are remembered. -/
theorem executions_publishedOnce (ls : List ExecutionsLabel)
    (h : ∀ x ∈ ls.flatMap ExecutionsLabel.inputs, x.converts) :
    executionsMachine.run .init ls =
        some (ingestAll .init (ls.flatMap ExecutionsLabel.inputs)) ∧
      PublishedOnce (ls.flatMap ExecutionsLabel.inputs) :=
  ⟨run_eq_ingestAll .init h, publishedOnce_of_converts h⟩

/-- A fill of one share. -/
def sampleFill (execId : String) (report : Option CommissionReport) : Fill where
  execId := execId
  orderId := 11
  permId := 987654
  conId := 265598
  symbol := "AAPL"
  side := "BOT"
  price := .ok (.ofNat 100)
  shares := .ok (.ofNat 1)
  cumQty := .ok (.ofNat 1)
  time := 0
  acctNumber := "DU1"
  commissionAndFeesReport := some report
  commissionReport := none

/-- A fill is followed by a report without a commission; the query brings its correction with a
complete report. -/
def correctedRun : List ExecutionsLabel :=
  [.execDetails (sampleFill "e1.01" none),
    .commissionReport (sampleFill "e1.01" none) ⟨"e1.02", .ok none, "USD"⟩,
    .reconcile (.ok [sampleFill "e1.01" none,
      sampleFill "e1.02" (some ⟨"e1.02", .ok (some (.ofNat 1)), "USD"⟩)])]

theorem correctedRun_publishedOnce :
    executionsMachine.run .init correctedRun =
        some (ingestAll .init (correctedRun.flatMap ExecutionsLabel.inputs)) ∧
      PublishedOnce (correctedRun.flatMap ExecutionsLabel.inputs) :=
  executions_publishedOnce correctedRun (by decide)

example : (executionsMachine.run .init correctedRun).map
    (fun s => (s.published.filterMap fillBase, s.published.filterMap feeId)) =
      some (["e1", "e1"], ["e1.02"]) := by
  decide

end Ib
end MarketConnector
