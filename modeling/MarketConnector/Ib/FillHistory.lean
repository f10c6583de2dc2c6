import Mathlib.Data.List.Sort
import MarketConnector.Foundations.Calendar
import MarketConnector.Ib.CancelOrder
import MarketConnector.Ib.Executions

/-!
# Ib - Fills that are published and fills that are asked for

Fills and fees are published as they come; `get_fills` asks IB for those since a time and sorts
them.

Main results:

- Theorem `Reported.ingest`: what one fill or report keeps of the memories and the events.
- Theorem `executions_complete`: in every run nothing is lost, and nothing else is published.
- Definition `getFills`: `get_fills`, with the filter it sends.
- Theorem `getFills_published`: what it asks and answers, and what has been published of it.
-/

namespace MarketConnector
namespace Ib

open Foundations

/-! ## What is published -/

/-- Exec ids end in the number of the correction, in decimal digits, after a point. -/
def Numbered (execId base : String) (n : Nat) : Prop :=
  base ≠ "" ∧ ∃ digits : List Char, execId.toList = base.toList ++ '.' :: digits ∧ digits ≠ [] ∧
    digits.length ≤ maxIntDigits ∧ (∀ c ∈ digits, c.isDigit) ∧ Nat.ofDigitChars 10 digits 0 = n

/-- The second id is that of a correction of the first, by a greater number. -/
def LaterCorrection (execId execId' : String) : Prop :=
  ∃ base n n', Numbered execId base n ∧ Numbered execId' base n' ∧ n < n'

/-- The exec ids of the fills. -/
def fillIds (xs : List ExecutionInput) : List String :=
  xs.filterMap fun x =>
    match x with
    | .fill fill _ => some fill.execId
    | .report _ _ _ => none

/-- All fills have numbered ids, and no two ids have the same base and number. -/
structure NumberedFills (xs : List ExecutionInput) : Prop where
  numbered : ∀ id ∈ fillIds xs, ∃ base n, Numbered id base n
  apart : ∀ id ∈ fillIds xs, ∀ id' ∈ fillIds xs, ∀ base n, Numbered id base n →
    Numbered id' base n → id = id'

/-- The execution itself has been published, or a correction of it. -/
def FillShown (published : List ExecutionEvent) (execId : String) : Prop :=
  ∃ event, .fill event ∈ published ∧
    (event.execId = execId ∨ LaterCorrection execId event.execId)

def FeeShown (published : List ExecutionEvent) (execId : String) : Prop :=
  ∃ event, .fee event ∈ published ∧ event.execId = execId

/-- The event is what one input stands for. -/
def ExecutionEvent.MadeOf : ExecutionEvent → ExecutionInput → Prop
  | .fill event, .fill x reconciled =>
      ∃ isCorrection, fillEvent x isCorrection reconciled = .ok event
  | .fee event, .report x report reconciled =>
      feeEvent x (some report) reconciled = .ok (some event)
  | _, _ => False

/-- Every fill and every complete report has its event, and every event its input. -/
structure Complete (xs : List ExecutionInput) (published : List ExecutionEvent) : Prop where
  fills : ∀ fill reconciled, .fill fill reconciled ∈ xs → FillShown published fill.execId
  fees : ∀ fill report reconciled, .report fill report reconciled ∈ xs →
    (completeFee report).isSome → FeeShown published report.execId
  made : ∀ event ∈ published, ∃ x ∈ xs, event.MadeOf x

/-- What is remembered has been published. -/
structure Reported (xs : List ExecutionInput) (s : Executions) : Prop where
  complete : Complete xs s.published
  seenFills : ∀ base execId, s.seenFills.get? base = some execId →
    execBase execId = base ∧ ∃ event, .fill event ∈ s.published ∧ event.execId = execId
  seenFees : ∀ execId, s.seenFees.contains execId → FeeShown s.published execId

theorem reported_init : Reported [] .init where
  complete := ⟨by simp, by simp, by simp [Executions.init]⟩
  seenFills base execId hget := by simp [Executions.init] at hget
  seenFees execId hcontains := by simp [Executions.init, Dict.contains] at hcontains

theorem Numbered.rpartition {execId base : String} {n : Nat} (h : Numbered execId base n) :
    ∃ digits, Ib.rpartition '.' execId.toList = (base.toList, digits) ∧ base ≠ "" ∧ digits ≠ [] ∧
      intOf digits = some (n : Int) := by
  obtain ⟨hbase, digits, hid, hne, hlength, hdigits, rfl⟩ := h
  refine ⟨digits, ?_, hbase, hne, intOf_of_isDigit hne hlength hdigits⟩
  rw [hid, rpartition_append]
  rintro c hc rfl
  exact absurd (hdigits '.' hc) (by decide)

theorem Numbered.execBase {execId base : String} {n : Nat} (h : Numbered execId base n) :
    Ib.execBase execId = base := by
  obtain ⟨digits, hparts, hbase, -, -⟩ := h.rpartition
  simp [Ib.execBase, hparts, hbase]

theorem Numbered.execSuffix {execId base : String} {n : Nat} (h : Numbered execId base n) :
    Ib.execSuffix execId = n := by
  obtain ⟨digits, hparts, -, hne, hread⟩ := h.rpartition
  simp [Ib.execSuffix, hparts, hne, hread]

variable {xs : List ExecutionInput} {published more : List ExecutionEvent} {s : Executions}

theorem FillShown.append {execId : String} (h : FillShown published execId) :
    FillShown (published ++ more) execId := by
  obtain ⟨event, hevent, hshown⟩ := h
  exact ⟨event, List.mem_append_left _ hevent, hshown⟩

theorem FeeShown.append {execId : String} (h : FeeShown published execId) :
    FeeShown (published ++ more) execId := by
  obtain ⟨event, hevent, hid⟩ := h
  exact ⟨event, List.mem_append_left _ hevent, hid⟩

/-- An input that publishes nothing. -/
theorem Complete.quiet (h : Complete xs published) {x : ExecutionInput}
    (hfill : ∀ fill reconciled, x = .fill fill reconciled → FillShown published fill.execId)
    (hfee : ∀ fill report reconciled, x = .report fill report reconciled →
      (completeFee report).isSome → FeeShown published report.execId) :
    Complete (xs ++ [x]) published where
  fills fill reconciled hmem := by
    rcases List.mem_append.1 hmem with hold | hnew
    · exact h.fills fill reconciled hold
    · exact hfill fill reconciled (List.mem_singleton.1 hnew).symm
  fees fill report reconciled hmem hcomplete := by
    rcases List.mem_append.1 hmem with hold | hnew
    · exact h.fees fill report reconciled hold hcomplete
    · exact hfee fill report reconciled (List.mem_singleton.1 hnew).symm hcomplete
  made event hevent := by
    obtain ⟨y, hy, hmade⟩ := h.made event hevent
    exact ⟨y, List.mem_append_left _ hy, hmade⟩

/-- An input that publishes one event. -/
theorem Complete.publishes (h : Complete xs published) {x : ExecutionInput}
    {event : ExecutionEvent} (hmade : event.MadeOf x)
    (hfill : ∀ fill reconciled, x = .fill fill reconciled →
      FillShown (published ++ [event]) fill.execId)
    (hfee : ∀ fill report reconciled, x = .report fill report reconciled →
      FeeShown (published ++ [event]) report.execId) :
    Complete (xs ++ [x]) (published ++ [event]) where
  fills fill reconciled hmem := by
    rcases List.mem_append.1 hmem with hold | hnew
    · exact (h.fills fill reconciled hold).append
    · exact hfill fill reconciled (List.mem_singleton.1 hnew).symm
  fees fill report reconciled hmem hcomplete := by
    rcases List.mem_append.1 hmem with hold | hnew
    · exact (h.fees fill report reconciled hold hcomplete).append
    · exact hfee fill report reconciled (List.mem_singleton.1 hnew).symm
  made e he := by
    rcases List.mem_append.1 he with hold | hnew
    · obtain ⟨y, hy, hmade'⟩ := h.made e hold
      exact ⟨y, List.mem_append_left _ hy, hmade'⟩
    · rw [List.mem_singleton.1 hnew]
      exact ⟨x, by simp, hmade⟩

theorem mem_fillIds {fill : Fill} {reconciled : Bool} (h : .fill fill reconciled ∈ xs) :
    fill.execId ∈ fillIds xs :=
  List.mem_filterMap.2 ⟨_, h, rfl⟩

theorem NumberedFills.of_append {ys : List ExecutionInput} (h : NumberedFills (xs ++ ys)) :
    NumberedFills xs := by
  have hmem : ∀ id ∈ fillIds xs, id ∈ fillIds (xs ++ ys) := by
    intro id hid
    rw [fillIds, List.filterMap_append]
    exact List.mem_append_left _ hid
  exact ⟨fun id hid => h.numbered id (hmem id hid),
    fun id hid id' hid' => h.apart id (hmem id hid) id' (hmem id' hid')⟩

/-- A numbered id whose base another one has, with no smaller suffix, is that one or has been
corrected by it. -/
theorem NumberedFills.corrected (h : NumberedFills xs) {id id' : String} (hid : id ∈ fillIds xs)
    (hid' : id' ∈ fillIds xs) (hbase : execBase id' = execBase id)
    (hsuffix : execSuffix id ≤ execSuffix id') : id' = id ∨ LaterCorrection id id' := by
  obtain ⟨base, n, hn⟩ := h.numbered id hid
  obtain ⟨base', n', hn'⟩ := h.numbered id' hid'
  rw [hn.execBase, hn'.execBase] at hbase
  rw [hn.execSuffix, hn'.execSuffix, Nat.cast_le] at hsuffix
  subst hbase
  rcases Nat.eq_or_lt_of_le hsuffix with rfl | hless
  · exact Or.inl (h.apart id' hid' id hid _ _ hn' hn)
  · exact Or.inr ⟨_, n, n', hn, hn', hless⟩

/-- A published fill came in. -/
theorem Complete.exists_fill (h : Complete xs published) {event : FillEvent}
    (hevent : .fill event ∈ published) :
    ∃ fill reconciled, .fill fill reconciled ∈ xs ∧ event.execId = fill.execId := by
  obtain ⟨x, hx, hmade⟩ := h.made _ hevent
  cases x with
  | fill fill reconciled =>
      obtain ⟨isCorrection, hmade⟩ := hmade
      simp only [fillEvent, bind_eq_ok] at hmade
      obtain ⟨price, -, size, -, cumQty, -, heq⟩ := hmade
      cases heq
      exact ⟨fill, reconciled, hx, rfl⟩
  | report fill report reconciled => exact hmade.elim

/-- A fill is published, or its base is remembered with a suffix that is no smaller. -/
theorem Reported.fill (h : Reported xs s) {fill : Fill} {reconciled : Bool}
    (hnumbered : NumberedFills (xs ++ [.fill fill reconciled]))
    (hconverts : (ExecutionInput.fill fill reconciled).converts) :
    Reported (xs ++ [.fill fill reconciled]) (ingest s (.fill fill reconciled)) := by
  rw [ingest, ingestFill_fst]
  by_cases hnew : IsNewer s.seenFills fill.execId
  · obtain ⟨event, hevent, hid, -⟩ := fillEvent_of_converts hconverts
      (s.seenFills.contains (execBase fill.execId))
    rw [if_pos ((admits_fill_iff _ _).2 hnew), hevent]
    have hmem : .fill event ∈ s.published ++ [.fill event] := by simp
    refine ⟨?_, ?_, fun execId hseen => (h.seenFees execId hseen).append⟩
    · refine h.complete.publishes ⟨_, hevent⟩ ?_ ?_
      · rintro fill' reconciled' ⟨⟩
        exact ⟨event, hmem, Or.inl hid⟩
      · rintro fill' report' reconciled' ⟨⟩
    · intro base execId hget
      have hold := Dict.get?_of_remember hget
      split_ifs at hold with hbase
      · rw [hold, hbase]
        exact ⟨rfl, event, hmem, hid⟩
      · obtain ⟨hbase', event', hevent', hid'⟩ := h.seenFills base execId hold
        exact ⟨hbase', event', List.mem_append_left _ hevent', hid'⟩
  · rw [if_neg (mt (admits_fill_iff _ _).1 hnew)]
    refine ⟨h.complete.quiet ?_ ?_, h.seenFills, h.seenFees⟩
    · rintro fill' reconciled' ⟨⟩
      obtain ⟨last, hlast, hsuffix⟩ : ∃ last, s.seenFills.get? (execBase fill.execId) =
          some last ∧ execSuffix fill.execId ≤ execSuffix last := by
        simpa [IsNewer] using hnew
      obtain ⟨hbase, event, hevent, hid⟩ := h.seenFills _ last hlast
      obtain ⟨fill', reconciled', hmem', hid'⟩ := h.complete.exists_fill hevent
      refine ⟨event, hevent, ?_⟩
      rw [← hid, hid'] at hbase hsuffix
      rw [hid']
      exact hnumbered.corrected (mem_fillIds (List.mem_append_right _ (List.mem_singleton_self _)))
        (mem_fillIds (List.mem_append_left _ hmem')) hbase hsuffix
    · rintro fill' report' reconciled' ⟨⟩

/-- A complete report is published, or its exec id is remembered. -/
theorem Reported.report (h : Reported xs s) {fill : Fill} {report : CommissionReport}
    {reconciled : Bool} :
    Reported (xs ++ [.report fill report reconciled])
      (ingest s (.report fill report reconciled)) := by
  rw [ingest, ingestFee_fst]
  cases hfee : completeFee report with
  | none =>
      refine ⟨h.complete.quiet ?_ ?_, h.seenFills, h.seenFees⟩
      · rintro fill' reconciled' ⟨⟩
      · rintro fill' report' reconciled' ⟨⟩ hcomplete
        simp [hfee] at hcomplete
  | some fee =>
      dsimp only
      split_ifs with hseen
      · refine ⟨h.complete.quiet ?_ ?_, h.seenFills, h.seenFees⟩
        · rintro fill' reconciled' ⟨⟩
        · rintro fill' report' reconciled' ⟨⟩ -
          exact h.seenFees report.execId hseen
      · refine ⟨h.complete.publishes ?_ ?_ ?_, fun base execId hget => ?_, fun execId hget => ?_⟩
        · obtain ⟨hid, fee', hcommission⟩ :=
            (completeFee_isSome_iff report).1 (by rw [hfee]; rfl)
          have heq : fee' = fee := by
            simpa [completeFee, hid, hcommission, Except.toOption] using hfee
          simp [ExecutionEvent.MadeOf, feeEvent, hid, hcommission, heq, Except.map]
        · rintro fill' reconciled' ⟨⟩
        · rintro fill' report' reconciled' ⟨⟩
          exact ⟨_, List.mem_append_right _ (List.mem_singleton_self _), rfl⟩
        · obtain ⟨hbase, event, hevent, hid⟩ := h.seenFills base execId hget
          exact ⟨hbase, event, List.mem_append_left _ hevent, hid⟩
        · obtain ⟨u, hu⟩ := Option.isSome_iff_exists.1 hget
          have hold := Dict.get?_of_remember hu
          split_ifs at hold with hsame
          · exact ⟨_, List.mem_append_right _ (List.mem_singleton_self _), hsame.symm⟩
          · exact (h.seenFees execId (Option.isSome_iff_exists.2 ⟨u, hold⟩)).append

theorem Reported.ingest {x : ExecutionInput} (h : Reported xs s)
    (hnumbered : NumberedFills (xs ++ [x])) (hconverts : x.converts) :
    Reported (xs ++ [x]) (ingest s x) := by
  cases x with
  | fill fill reconciled => exact h.fill hnumbered hconverts
  | report fill report reconciled => exact h.report

theorem reported_ingestAll (hnumbered : NumberedFills xs) (h : ∀ x ∈ xs, x.converts) :
    Reported xs (ingestAll .init xs) := by
  induction xs using List.reverseRecOn with
  | nil => exact reported_init
  | append_singleton xs x ih =>
      rw [ingestAll_append]
      exact (ih hnumbered.of_append fun y hy => h y (List.mem_append_left _ hy)).ingest hnumbered
        (h x (by simp))

/-- In every run whose fills are numbered and whose numeric fields convert, every fill that came
live or from the query has been published, or a correction of it with a greater number; every
complete report has its fee event; and every event is one of them. -/
theorem executions_complete (ls : List ExecutionsLabel)
    (hnumbered : NumberedFills (ls.flatMap ExecutionsLabel.inputs))
    (h : ∀ x ∈ ls.flatMap ExecutionsLabel.inputs, x.converts) :
    ∃ s, executionsMachine.run .init ls = some s ∧
      Complete (ls.flatMap ExecutionsLabel.inputs) s.published :=
  ⟨_, run_eq_ingestAll .init h, (reported_ingestAll hnumbered h).complete⟩

/-- Fills are numbered when their ids are, and when their bases and suffixes tell them apart. -/
theorem numberedFills_of_ids (hnumbered : ∀ id ∈ fillIds xs, ∃ base n, Numbered id base n)
    (hapart : ∀ id ∈ fillIds xs, ∀ id' ∈ fillIds xs, execBase id = execBase id' →
      execSuffix id = execSuffix id' → id = id') : NumberedFills xs where
  numbered := hnumbered
  apart id hid id' hid' _ _ hn hn' :=
    hapart id hid id' hid' (hn.execBase.trans hn'.execBase.symm)
      (hn.execSuffix.trans hn'.execSuffix.symm)

theorem executions_complete_correctedRun :
    ∃ s, executionsMachine.run .init correctedRun = some s ∧
      Complete (correctedRun.flatMap ExecutionsLabel.inputs) s.published := by
  have hids : fillIds (correctedRun.flatMap ExecutionsLabel.inputs) =
      ["e1.01", "e1.01", "e1.02"] := rfl
  have hfirst : Numbered "e1.01" "e1" 1 :=
    ⟨by decide, ['0', '1'], rfl, by decide, by decide, by simp, rfl⟩
  have hsecond : Numbered "e1.02" "e1" 2 :=
    ⟨by decide, ['0', '2'], rfl, by decide, by decide, by simp, rfl⟩
  refine executions_complete correctedRun (numberedFills_of_ids ?_ (by decide)) (by decide)
  rw [hids]
  simp only [List.forall_mem_cons, List.not_mem_nil, false_implies, implies_true, and_true]
  exact ⟨⟨_, _, hfirst⟩, ⟨_, _, hfirst⟩, _, _, hsecond⟩

/-! ## Fills that are asked for -/

/-- `ExecutionFilter` -/
structure ExecutionFilter where
  clientId : Nat
  acctCode : String
  time : String
deriving DecidableEq

inductive FillsError where
  | valueError (message : String)
  | connectionLost (code : Int) (message : String)
  /-- `OverflowError` of `astimezone` -/
  | overflow
  /-- what `reqExecutionsAsync` raises -/
  | query (e : PyError)
  /-- a number of a fill does not convert -/
  | number (e : PyError)

/-- A fill with its fee, if there is one yet. -/
abbrev FillWithFee := FillEvent × Option FeeEvent

def fillWithFee (fill : Fill) : Except PyError FillWithFee := do
  let event ← fillEvent fill false false
  let fee ← feeEvent fill (fillReport fill) false
  return (event, fee)

/-- The order of the sort. -/
def NotLater (a b : FillWithFee) : Prop :=
  a.1.time ≤ b.1.time

instance : DecidableRel NotLater := fun a b => inferInstanceAs (Decidable (a.1.time ≤ b.1.time))

instance : Std.Total NotLater :=
  ⟨fun a b => le_total a.1.time b.1.time⟩

instance : IsTrans FillWithFee NotLater :=
  ⟨fun _ _ _ => le_trans⟩

/-- The filter of `get_fills`; its time is `strftime("%Y%m%d-%H:%M:%S")`. -/
def fillsFilter (session : Session) (utc : DateTime) : ExecutionFilter where
  clientId := session.spec.clientId
  acctCode := session.account.getD ""
  time := String.ofList (utc.date.digits ++ '-' :: utc.clockDigits)

/-- `get_fills`; `query` is what IB answers to `reqExecutionsAsync`. -/
def getFills (query : ExecutionFilter → Except PyError (List Fill)) (session : Session)
    (since : DateTime) : Except FillsError (List FillWithFee) :=
  if since.utcOffset = none then
    .error (.valueError "since must be timezone-aware (tz-aware datetime required)")
  else if session.routerUp = false then
    .error (.connectionLost 1100 "transport not connected")
  else
    match since.toUtc? with
    | none => .error .overflow
    | some utc =>
        match query (fillsFilter session utc) with
        | .error e => .error (.query e)
        | .ok fills =>
            match fills.mapM fillWithFee with
            | .error e => .error (.number e)
            | .ok pairs => .ok (pairs.insertionSort NotLater)

/-- The filter names the client and the account, and starts with the second of `since`. -/
structure AsksSince (session : Session) (since : DateTime) (filter : ExecutionFilter) : Prop where
  client : filter.clientId = session.spec.clientId
  account : filter.acctCode = session.account.getD ""
  time : ∃ start, strptime isSpace
      [.year, .month, .day, .literal '-', .hour, .literal ':', .minute, .literal ':', .second]
      filter.time = some start ∧
    start.timestamp ≤ since.timestamp ∧ since.timestamp < start.timestamp + 1

/-- Every fill once with its fee, the oldest first; fills of one time stay in their order. -/
structure ListsFills (fills : List Fill) (pairs : List FillWithFee) : Prop where
  oldestFirst : pairs.Pairwise NotLater
  each : ∃ listed, List.Forall₂ (fun fill pair => fillWithFee fill = .ok pair) fills listed ∧
    pairs.Perm listed ∧
    ∀ time, pairs.filter (·.1.time = time) = listed.filter (·.1.time = time)

theorem asksSince_fillsFilter (session : Session) {since utc : DateTime}
    (hutc : since.toUtc? = some utc) : AsksSince session since (fillsFilter session utc) where
  client := rfl
  account := rfl
  time := by
    have hstart : DateTime.timestamp { utc.wholeSeconds with utcOffset := none } =
        utc.wholeSeconds.timestamp := by
      simp [DateTime.timestamp, DateTime.wholeSeconds, DateTime.utcOffset_of_toUtc? hutc]
    obtain ⟨hle, hlt⟩ := utc.timestamp_wholeSeconds
    rw [DateTime.timestamp_of_toUtc? hutc] at hle hlt
    exact ⟨_, strptime_stamp utc, by rw [hstart]; exact hle, by rw [hstart]; exact hlt⟩

/-- Sorting leaves items that are in order already as they are. -/
theorem filter_insertionSort {α : Type} {r : α → α → Prop} [DecidableRel r] {xs : List α}
    {p : α → Bool} (h : (xs.filter p).Pairwise r) :
    (xs.insertionSort r).filter p = xs.filter p := by
  have hsub := (List.sublist_insertionSort h List.filter_sublist).filter p
  simp only [List.filter_filter, Bool.and_self] at hsub
  refine (hsub.eq_of_length ?_).symm
  exact ((List.perm_insertionSort r xs).filter p).length_eq.symm

theorem listsFills_insertionSort {fills : List Fill} {listed : List FillWithFee}
    (h : fills.mapM fillWithFee = .ok listed) :
    ListsFills fills (listed.insertionSort NotLater) where
  oldestFirst := List.pairwise_insertionSort NotLater listed
  each := by
    refine ⟨listed, mapM_eq_ok.1 h, List.perm_insertionSort NotLater listed, fun time => ?_⟩
    refine filter_insertionSort (List.pairwise_of_forall_mem_list fun a ha b hb => ?_)
    simp only [List.mem_filter, decide_eq_true_eq] at ha hb
    exact le_of_eq (ha.2.trans hb.2.symm)

theorem getFills_eq_ok {query : ExecutionFilter → Except PyError (List Fill)} {session : Session}
    {since : DateTime} {pairs : List FillWithFee} (h : getFills query session since = .ok pairs) :
    ∃ filter fills, AsksSince session since filter ∧ query filter = .ok fills ∧
      ListsFills fills pairs := by
  unfold getFills at h
  split_ifs at h
  cases hutc : since.toUtc? with
  | none => simp [hutc] at h
  | some utc =>
      cases hreply : query (fillsFilter session utc) with
      | error e => simp [hutc, hreply] at h
      | ok fills =>
          cases hlisted : fills.mapM fillWithFee with
          | error e => simp [hutc, hreply, hlisted] at h
          | ok listed =>
              simp only [hutc, hreply, hlisted, Except.ok.injEq] at h
              subst h
              exact ⟨_, fills, asksSince_fillsFilter session hutc, hreply,
                listsFills_insertionSort hlisted⟩

/-- The fill has come with its report, live or from the query after a connect. -/
def Told (xs : List ExecutionInput) (fill : Fill) : Prop :=
  ∃ reconciled, .fill fill reconciled ∈ xs ∧
    ∀ report, fillReport fill = some report → .report fill report reconciled ∈ xs

/-- The fill of a pair has been published, or a correction of it, and its fee. -/
def PairShown (published : List ExecutionEvent) (pair : FillWithFee) : Prop :=
  FillShown published pair.1.execId ∧ ∀ fee, pair.2 = some fee → FeeShown published fee.execId

theorem told_of_reconcile {ls : List ExecutionsLabel} {fills : List Fill} {fill : Fill}
    (hls : .reconcile (.ok fills) ∈ ls) (hfill : fill ∈ fills) :
    Told (ls.flatMap ExecutionsLabel.inputs) fill := by
  refine ⟨true, ?_, fun report hreport => ?_⟩
  · refine List.mem_flatMap.2 ⟨_, hls, ?_⟩
    simp only [ExecutionsLabel.inputs, List.mem_flatMap]
    exact ⟨fill, hfill, by simp⟩
  · refine List.mem_flatMap.2 ⟨_, hls, ?_⟩
    simp only [ExecutionsLabel.inputs, List.mem_flatMap]
    exact ⟨fill, hfill, by simp [hreport]⟩

theorem fillWithFee_eq_ok {fill : Fill} {pair : FillWithFee} (h : fillWithFee fill = .ok pair) :
    pair.1.execId = fill.execId ∧ ∀ fee, pair.2 = some fee →
      ∃ report, fillReport fill = some report ∧ (completeFee report).isSome ∧
        fee.execId = report.execId := by
  unfold fillWithFee at h
  obtain ⟨event, hevent, h⟩ := bind_eq_ok.1 h
  obtain ⟨fee?, hfee, h⟩ := bind_eq_ok.1 h
  cases h
  refine ⟨?_, fun fee hsome => ?_⟩
  · simp only [fillEvent, bind_eq_ok] at hevent
    obtain ⟨price, -, size, -, cumQty, -, heq⟩ := hevent
    cases heq
    rfl
  · cases hreport : fillReport fill with
    | none =>
        rw [hreport] at hfee
        cases hfee
        cases hsome
    | some report =>
        simp only [feeEvent, hreport] at hfee
        split_ifs at hfee with hempty
        · cases hfee
          cases hsome
        · obtain ⟨commission, hcommission, rfl⟩ := map_eq_ok.1 hfee
          obtain ⟨amount, rfl, rfl⟩ := Option.map_eq_some_iff.1 hsome
          exact ⟨report, rfl, (completeFee_isSome_iff report).2 ⟨hempty, amount, hcommission⟩, rfl⟩

theorem exists_of_listed {fills : List Fill} {listed : List FillWithFee}
    (h : List.Forall₂ (fun fill pair => fillWithFee fill = .ok pair) fills listed)
    {pair : FillWithFee} (hpair : pair ∈ listed) :
    ∃ fill ∈ fills, fillWithFee fill = .ok pair := by
  induction h with
  | nil => cases hpair
  | cons hfirst _ ih =>
      rcases List.mem_cons.1 hpair with rfl | hrest
      · exact ⟨_, List.mem_cons_self, hfirst⟩
      · obtain ⟨fill, hfill, hpaired⟩ := ih hrest
        exact ⟨fill, List.mem_cons_of_mem _ hfill, hpaired⟩

theorem Complete.pairShown (h : Complete xs published) {fill : Fill} (htold : Told xs fill)
    {pair : FillWithFee} (hpair : fillWithFee fill = .ok pair) : PairShown published pair := by
  obtain ⟨reconciled, hfill, hreports⟩ := htold
  obtain ⟨hid, hfees⟩ := fillWithFee_eq_ok hpair
  refine ⟨?_, fun fee hfee => ?_⟩
  · rw [hid]
    exact h.fills fill reconciled hfill
  · obtain ⟨report, hreport, hcomplete, hfeeId⟩ := hfees fee hfee
    rw [hfeeId]
    exact h.fees fill report reconciled (hreports report hreport) hcomplete

/-- `get_fills` asks for the executions of the account and the client from the second of `since`
on, and lists each with its fee, the oldest first.  In every run with numbered fills that was
told of them they have been published, or a correction of them with a greater number. -/
theorem getFills_published {query : ExecutionFilter → Except PyError (List Fill)}
    {session : Session} {since : DateTime} {pairs : List FillWithFee}
    (h : getFills query session since = .ok pairs) :
    ∃ filter fills, AsksSince session since filter ∧ query filter = .ok fills ∧
      ListsFills fills pairs ∧
      ∀ ls, NumberedFills (ls.flatMap ExecutionsLabel.inputs) →
        (∀ x ∈ ls.flatMap ExecutionsLabel.inputs, x.converts) →
        (∀ fill ∈ fills, Told (ls.flatMap ExecutionsLabel.inputs) fill) →
        ∃ s, executionsMachine.run .init ls = some s ∧
          ∀ pair ∈ pairs, PairShown s.published pair := by
  obtain ⟨filter, fills, hasks, hreply, hlists⟩ := getFills_eq_ok h
  refine ⟨filter, fills, hasks, hreply, hlists, fun ls hnumbered hconverts htold =>
    ⟨_, run_eq_ingestAll .init hconverts, fun pair hpair => ?_⟩⟩
  obtain ⟨listed, hlisted, hperm, -⟩ := hlists.each
  obtain ⟨fill, hfill, hpaired⟩ := exists_of_listed hlisted (hperm.mem_iff.1 hpair)
  exact (reported_ingestAll hnumbered hconverts).complete.pairShown (htold fill hfill) hpaired

/-- Three fills, the first in the list later than the others, and one of them with its fee. -/
def sampleFills : List Fill :=
  [{ sampleFill "e2.01" none with time := 5 },
    sampleFill "e1.01" (some ⟨"e1.01", .ok (some (.ofNat 1)), "USD"⟩), sampleFill "e3.01" none]

def sampleSince : DateTime :=
  CivilDate.midnight ⟨2025, 3, 9, by decide, by decide, by decide⟩

/-- What a connect has recovered is listed, and has been published. -/
theorem getFills_published_sampleFills :
    ∃ pairs s, getFills (fun _ => .ok sampleFills) ⟨.default, some "DU1", true⟩ sampleSince =
        .ok pairs ∧
      executionsMachine.run .init [.reconcile (.ok sampleFills)] = some s ∧
      ListsFills sampleFills pairs ∧ ∀ pair ∈ pairs, PairShown s.published pair := by
  have hanswer : ∃ pairs, getFills (fun _ => .ok sampleFills) ⟨.default, some "DU1", true⟩
      sampleSince = .ok pairs := ⟨_, rfl⟩
  obtain ⟨pairs, hanswer⟩ := hanswer
  obtain ⟨filter, fills, -, hreply, hlists, hshown⟩ := getFills_published hanswer
  cases hreply
  have hids : fillIds ([ExecutionsLabel.reconcile (.ok sampleFills)].flatMap
      ExecutionsLabel.inputs) = ["e2.01", "e1.01", "e3.01"] := rfl
  have hnumbered : NumberedFills ([ExecutionsLabel.reconcile (.ok sampleFills)].flatMap
      ExecutionsLabel.inputs) := by
    refine numberedFills_of_ids ?_ (by decide)
    rw [hids]
    simp only [List.forall_mem_cons, List.not_mem_nil, false_implies, implies_true, and_true]
    exact ⟨⟨"e2", 1, by decide, ['0', '1'], rfl, by decide, by decide, by simp, rfl⟩,
      ⟨"e1", 1, by decide, ['0', '1'], rfl, by decide, by decide, by simp, rfl⟩,
      "e3", 1, by decide, ['0', '1'], rfl, by decide, by decide, by simp, rfl⟩
  obtain ⟨s, hrun, hpairs⟩ := hshown [.reconcile (.ok sampleFills)] hnumbered (by decide)
    fun fill hfill => told_of_reconcile (by simp) hfill
  exact ⟨pairs, s, hanswer, hrun, hlists, hpairs⟩

example : ((getFills (fun _ => .ok sampleFills) ⟨.default, some "DU1", true⟩
    sampleSince).toOption.map (List.map fun pair => (pair.1.execId, pair.2.map FeeEvent.execId))) =
      some [("e1.01", some "e1.01"), ("e3.01", none), ("e2.01", none)] := by
  rfl

example : (sampleSince.toUtc?.map fun utc =>
    (fillsFilter ⟨.default, some "DU1", true⟩ utc).time) = some "20250309-00:00:00" := by
  rfl

end Ib
end MarketConnector
