import MarketConnector.Foundations.RowEdits
import MarketConnector.Ib.StreamFields

/-!
# Ib - The own book of a depth stream

The exchange's book takes every row edit and has no bound; the transport keeps ten rows of each
side.  Rows that an insertion moved beyond the tenth are not known when a deletion moves them
back, so the own book may be shorter, but it is always the front of the exchange's.

Main results:

- Definition `tracedMachine`: the streams with the ticks of each book since its last reset.
- Theorem `BooksInv.step`: every own book is made of its ticks.
- Theorem `depthBook_refines`: what is said of own books and deliveries in every run.
-/

namespace MarketConnector
namespace Ib

open Foundations

/-! ## The exchange's book -/

inductive BookSide where
  | bids | asks
deriving DecidableEq

abbrev BookRow : Type := Decimal × Decimal

def DepthTick.bookSide (tick : DepthTick) : BookSide :=
  if tick.side = 1 then .bids else .asks

/-- The edit of a tick: it inserts, overwrites or deletes a row. -/
def DepthTick.edit (tick : DepthTick) : Option (RowEdit BookRow) :=
  if tick.position < 0 then none
  else if tick.operation = 0 then some (.insert tick.position.toNat (tick.price, tick.size))
  else if tick.operation = 1 then some (.overwrite tick.position.toNat (tick.price, tick.size))
  else if tick.operation = 2 then some (.delete tick.position.toNat)
  else none

/-- The edit of a tick on one side. -/
def sideEdit (side : BookSide) (tick : DepthTick) : Option (RowEdit BookRow) :=
  if tick.bookSide = side then tick.edit else none

/-- One side of the exchange's book after some ticks: rows shift, none is dropped, and positions
outside the book are ignored. -/
def referenceSide (side : BookSide) (ticks : List DepthTick) : List BookRow :=
  editedRows (sideEdit side) [] ticks

/-! ## Own books -/

/-- Own rows of a stream. -/
def Stream.rows (st : Stream) : BookSide → List BookRow
  | .bids => st.bids
  | .asks => st.asks

/-- Own rows of a stream object; none if there is no such object. -/
def rowsAt (t : StreamTable) (sid : Nat) (side : BookSide) : List BookRow :=
  ((t.streams.get? sid).map fun st => st.rows side).getD []

/-- On a book of at most ten rows, a tick is a bounded edit. -/
theorem applyToSide_eq {book : List BookRow} (h : book.length ≤ depthRows) (tick : DepthTick) :
    applyToSide book tick = tick.edit.elim book fun e => e.applyBounded depthRows book := by
  unfold applyToSide DepthTick.edit
  dsimp only
  by_cases hneg : tick.position < 0
  · have houtside : ¬ (0 ≤ tick.position ∧ tick.position ≤ book.length) := by omega
    have houtside' : ¬ (0 ≤ tick.position ∧ tick.position < book.length) := by omega
    rw [if_pos hneg, if_neg houtside, if_neg houtside']
    split_ifs
    · rfl
    · rfl
  · rw [if_neg hneg]
    by_cases hinsert : tick.operation = 0
    · rw [if_pos hinsert, if_pos hinsert]
      dsimp only [Option.elim, RowEdit.applyBounded]
      split_ifs with hinside
      · rfl
      · rw [List.insertIdx_of_length_lt (by omega), List.take_of_length_le h]
    · rw [if_neg hinsert, if_neg hinsert]
      split_ifs with hinside hupdate hdelete hupdate hdelete
      · rfl
      · rfl
      · rfl
      · exact (List.set_eq_of_length_le (by omega)).symm
      · exact (List.eraseIdx_of_length_le (by omega)).symm
      · rfl

theorem rows_applyDepthTick (st : Stream) (tick : DepthTick) (side : BookSide) :
    (applyDepthTick st tick).rows side =
      if tick.bookSide = side then applyToSide (st.rows side) tick else st.rows side := by
  unfold applyDepthTick DepthTick.bookSide
  by_cases hbid : tick.side = 1
  · cases side with
    | bids => simp [hbid, Stream.rows]
    | asks => simp [hbid, Stream.rows]
  · cases side with
    | bids => simp [hbid, Stream.rows]
    | asks => simp [hbid, Stream.rows]

/-- A batch of ticks makes bounded edits, one after the other. -/
theorem rows_foldl_applyDepthTick {st : Stream} {side : BookSide}
    (h : (st.rows side).length ≤ depthRows) (ticks : List DepthTick) :
    (ticks.foldl applyDepthTick st).rows side =
      boundedRows (sideEdit side) depthRows (st.rows side) ticks := by
  induction ticks generalizing st with
  | nil => rfl
  | cons tick ticks ih =>
      have hone : (applyDepthTick st tick).rows side =
          (sideEdit side tick).elim (st.rows side) fun e =>
            e.applyBounded depthRows (st.rows side) := by
        rw [rows_applyDepthTick]
        unfold sideEdit
        split_ifs
        · exact applyToSide_eq h tick
        · rfl
      have hlength : ((applyDepthTick st tick).rows side).length ≤ depthRows := by
        rw [hone]
        cases sideEdit side tick with
        | none => exact h
        | some e => exact RowEdit.length_applyBounded h e
      rw [List.foldl_cons, ih hlength, hone]
      rfl

/-! ## Operations that leave the books alone -/

/-- The rows depend neither on requests nor on users. -/
theorem settled_rows (side : BookSide) : Settled (fun st => st.rows side) [] where
  keeps st _ _ _ _ _ _ := by
    cases side with
    | bids => rfl
    | asks => rfl
  new contract := by
    cases side with
    | bids => rfl
    | asks => rfl

theorem rowsAt_eq (t : StreamTable) (sid : Nat) (side : BookSide) :
    rowsAt t sid side = fieldAt (fun st => st.rows side) [] t sid :=
  rfl

theorem rowsAt_clearDepthBooks (t : StreamTable) (sid : Nat) :
    rowsAt (clearDepthBooks t) sid =
      if sid ∈ (t.registry .depth).values then fun _ => [] else rowsAt t sid := by
  funext side
  rw [rowsAt_eq, fieldAt_clearDepthBooks fun st => by cases side <;> rfl]
  split_ifs <;> rfl

/-- A resubscribe starts the books of the L1 and depth streams over. -/
theorem rowsAt_resubscribeAll (cancelOld : Bool) (answers : Nat → IbAnswer) (t : StreamTable)
    (sid : Nat) :
    rowsAt (resubscribeAll cancelOld answers t) sid =
      if sid ∈ (t.registry .l1).values ++ (t.registry .depth).values then fun _ => []
      else rowsAt t sid := by
  funext side
  rw [rowsAt_eq, (settled_rows side).resubscribeAll fun st => by cases side <;> rfl]
  split_ifs <;> rfl

/-! ## Books and their ticks -/

/-- The stream whose book an update of a stream's ticker is applied to. -/
def updatedStream (s : MarketData) (sid : Nat) : Option Nat :=
  (keyOf s.table sid).bind fun key =>
    ((s.table.registry .depth).get? key).filter fun current =>
      (s.table.streams.get? current).isSome

/-- The ticks of every book since its last reset, after a step.  Code 317 resets the books of
the depth streams; a resubscribe resets the book of every stream it asks for again. -/
def sinceStep (s : MarketData) (l : CallbackLabel) (since : Nat → List DepthTick) :
    Nat → List DepthTick :=
  match l with
  | .op (.depthUpdate sid ticks) =>
      match updatedStream s sid with
      | some current => Function.update since current (since current ++ ticks)
      | none => since
  | .op .depthReset => fun sid =>
      if sid ∈ (s.table.registry .depth).values then [] else since sid
  | .op (.resubscribe _ _) => fun sid =>
      if sid ∈ (s.table.registry .l1).values ++ (s.table.registry .depth).values then []
      else since sid
  | _ => since

/-- A transport, and the ticks of every book since its last reset. -/
structure TracedState where
  base : CallbackState
  since : Nat → List DepthTick

def tracedStep (cap : Nat) (s : TracedState) (l : CallbackLabel) : Option TracedState :=
  (callbackStep cap s.base l).map fun base => ⟨base, sinceStep s.base.market l s.since⟩

/-- Streams and subscriptions whose callbacks may call the transport, with the ticks of each
book. -/
def tracedMachine (spec : IbConnectionSpec) : Machine TracedState CallbackLabel where
  init := ⟨.init, fun _ => []⟩
  step := tracedStep spec.marketDataLines

/-- Every own book is made of its ticks. -/
structure BooksInv (s : TracedState) : Prop where
  keyed : KeyedInv s.base.market.table
  rows : ∀ sid side, rowsAt s.base.market.table sid side =
    boundedRows (sideEdit side) depthRows [] (s.since sid)

theorem booksInv_init : BooksInv ⟨.init, fun _ => []⟩ :=
  ⟨keyedInv_init, fun _ _ => rfl⟩

/-- An error drops a stream or notes a warning; its book stays. -/
theorem rowsAt_dropFailed (s : MarketData) (reqId code : Int) (message : String)
    (side : BookSide) :
    fieldAt (fun st => st.rows side) [] (dropFailed s reqId code message).1.table =
      fieldAt (fun st => st.rows side) [] s.table := by
  rcases (settled_rows side).dropFailed s reqId code message with hsame | ⟨r, sid, depth, -, heq⟩
  · exact hsame
  · rw [heq]
    refine fieldAt_updateStream rfl fun st => ?_
    cases side with
    | bids => rfl
    | asks => rfl

/-- A step that is no update and no reset leaves the books alone. -/
theorem rowsAt_move {cap : Nat} {s s' : MarketData} {l : CallbackLabel} (h : KeyedInv s.table)
    (hmove : CallbackMove cap s l s') (hupdate : ∀ sid ticks, l ≠ .op (.depthUpdate sid ticks))
    (hreset : l ≠ .op .depthReset) (hresub : ¬ IsResubscribe l) :
    rowsAt s'.table = rowsAt s.table := by
  funext sid side
  have hmoved := (settled_rows side).move h hmove
    (fun sid ticks hl => absurd hl (hupdate sid ticks)) (fun hl => absurd hl hreset)
    (fun _ _ _ _ => rowsAt_dropFailed s _ _ _ side) hresub
  exact congrFun hmoved sid

/-- What an update does: nothing if its key has no stream, else the whole batch is applied and a
fan-out of the book begins. -/
theorem depthUpdate_cases {cap : Nat} {s s' : CallbackState} {sid : Nat} {ticks : List DepthTick}
    (hstep : callbackStep cap s (.op (.depthUpdate sid ticks)) = some s') :
    (updatedStream s.market sid = none ∧ s' = s) ∨
      ∃ current st, updatedStream s.market sid = some current ∧
        s.market.table.streams.get? current = some st ∧
        s' = beginFanOut s (applyTicks s.market current ticks)
          (.publishing (publishes s.market.subs
            (fun sub => sub.channel = .depth && sub.contract = st.contract)
            [.book (ticks.foldl applyDepthTick st).bids
              (ticks.foldl applyDepthTick st).asks])) := by
  simp only [callbackStep, opStep] at hstep
  unfold updatedStream
  cases hkey : keyOf s.market.table sid with
  | none => simp [hkey] at hstep
  | some key =>
      simp only [hkey] at hstep
      split_ifs at hstep with hhooked
      rw [Option.bind_some]
      cases hcurrent : (s.market.table.registry .depth).get? key with
      | none =>
          rw [hcurrent] at hstep
          cases hstep
          exact Or.inl ⟨rfl, rfl⟩
      | some current =>
          rw [hcurrent] at hstep
          cases hst : s.market.table.streams.get? current with
          | none =>
              have hnone : (applyTicks s.market current ticks).table.streams.get? current =
                  none := by
                simp [applyTicks, get?_updateStream, hst]
              simp only [hnone] at hstep
              cases hstep
              exact Or.inl ⟨Option.filter_some_neg (by simp [hst]), rfl⟩
          | some st =>
              have hsome : (applyTicks s.market current ticks).table.streams.get? current =
                  some (ticks.foldl applyDepthTick st) := by
                simp [applyTicks, get?_updateStream, hst]
              simp only [hsome, contract_foldl_applyDepthTick] at hstep
              cases hstep
              exact Or.inr ⟨current, st, Option.filter_some_pos (by simp [hst]), hst, rfl⟩

/-- The rows after a batch are those before it, with the batch's edits. -/
theorem rowsAt_applyTicks {s : MarketData} {current : Nat} {st : Stream}
    (hst : s.table.streams.get? current = some st) {side : BookSide}
    (hlength : (st.rows side).length ≤ depthRows) (ticks : List DepthTick) (sid : Nat) :
    rowsAt (applyTicks s current ticks).table sid side =
      if sid = current then boundedRows (sideEdit side) depthRows (st.rows side) ticks
      else rowsAt s.table sid side := by
  unfold rowsAt applyTicks
  rw [get?_updateStream]
  split_ifs with heq
  · rw [hst]
    exact rows_foldl_applyDepthTick hlength ticks
  · rfl

theorem boundedRows_append (side : BookSide) (ticks ticks' : List DepthTick) :
    boundedRows (sideEdit side) depthRows [] (ticks ++ ticks') =
      boundedRows (sideEdit side) depthRows (boundedRows (sideEdit side) depthRows [] ticks)
        ticks' :=
  List.foldl_append

/-- A step that is no update and no reset adds no ticks and forgets none. -/
theorem sinceStep_of_other {s : MarketData} {l : CallbackLabel} (since : Nat → List DepthTick)
    (hupdate : ∀ sid ticks, l ≠ .op (.depthUpdate sid ticks)) (hreset : l ≠ .op .depthReset)
    (hresub : ¬ IsResubscribe l) : sinceStep s l since = since := by
  cases l with
  | resume => rfl
  | op l =>
      cases l with
      | depthUpdate sid ticks => exact absurd rfl (hupdate sid ticks)
      | depthReset => exact absurd rfl hreset
      | resubscribe cancelOld answers => exact absurd ⟨cancelOld, answers, rfl⟩ hresub
      | _ => rfl

/-- An update applies its ticks to one book. -/
theorem BooksInv.depthUpdate {s : TracedState} (h : BooksInv s) {sid current : Nat} {st : Stream}
    {ticks : List DepthTick} (hcurrent : updatedStream s.base.market sid = some current)
    (hst : s.base.market.table.streams.get? current = some st) (sid' : Nat) (side : BookSide) :
    rowsAt (applyTicks s.base.market current ticks).table sid' side =
      boundedRows (sideEdit side) depthRows []
        (sinceStep s.base.market (.op (.depthUpdate sid ticks)) s.since sid') := by
  have hrows : st.rows side = boundedRows (sideEdit side) depthRows [] (s.since current) := by
    rw [← h.rows current side, rowsAt, hst]
    rfl
  have hlength : (st.rows side).length ≤ depthRows := by
    rw [hrows]
    exact (boundedRows_isPrefix (sideEdit side) (List.prefix_refl []) (Nat.zero_le _) _).2
  rw [rowsAt_applyTicks hst hlength]
  simp only [sinceStep, hcurrent]
  by_cases heq : sid' = current
  · rw [if_pos heq, heq, Function.update_self, boundedRows_append, hrows]
  · rw [if_neg heq, Function.update_of_ne heq]
    exact h.rows sid' side

/-- Books that start over have no ticks. -/
theorem BooksInv.reset {s : TracedState} (h : BooksInv s) {t : StreamTable} {sids : List Nat}
    (ht : ∀ sid, rowsAt t sid =
      if sid ∈ sids then fun _ => [] else rowsAt s.base.market.table sid)
    (sid : Nat) (side : BookSide) :
    rowsAt t sid side =
      boundedRows (sideEdit side) depthRows [] (if sid ∈ sids then [] else s.since sid) := by
  rw [ht]
  split_ifs
  · rfl
  · exact h.rows sid side

/-- Every step keeps the own books made of their ticks. -/
theorem BooksInv.step {cap : Nat} {s s' : TracedState} {l : CallbackLabel} (h : BooksInv s)
    (hstep : tracedStep cap s l = some s') : BooksInv s' := by
  obtain ⟨base, hbase, rfl⟩ := Option.map_eq_some_iff.1 hstep
  have hmove := callbackStep_move hbase
  refine ⟨h.keyed.move hmove, fun sid side => ?_⟩
  by_cases hupdate : ∃ sid ticks, l = .op (.depthUpdate sid ticks)
  · obtain ⟨sid', ticks, rfl⟩ := hupdate
    rcases depthUpdate_cases hbase with ⟨hnone, rfl⟩ | ⟨current, st, hsome, hst, rfl⟩
    · simp only [sinceStep, hnone]
      exact h.rows sid side
    · exact h.depthUpdate hsome hst sid side
  · by_cases hreset : l = .op .depthReset
    · subst hreset
      cases hbase
      exact h.reset (rowsAt_clearDepthBooks s.base.market.table) sid side
    · by_cases hresub : IsResubscribe l
      · obtain ⟨cancelOld, answers, rfl⟩ := hresub
        cases hbase
        exact h.reset (rowsAt_resubscribeAll cancelOld answers s.base.market.table) sid side
      · have hother : ∀ sid ticks, l ≠ .op (.depthUpdate sid ticks) := fun sid ticks heq =>
          hupdate ⟨sid, ticks, heq⟩
        dsimp only
        rw [rowsAt_move h.keyed hmove hother hreset hresub,
          sinceStep_of_other s.since hother hreset hresub]
        exact h.rows sid side

/-! ## Refinement -/

/-- One side of an own book and the exchange's book after the same ticks: at most ten rows, the
front of the exchange's, and all of it if that never had more than ten. -/
structure RefinesReference (side : BookSide) (ticks : List DepthTick) (rows : List BookRow) :
    Prop where
  length : rows.length ≤ depthRows
  isPrefix : rows <+: referenceSide side ticks
  whole : (∀ pre, pre <+: ticks → (referenceSide side pre).length ≤ depthRows) →
    rows = referenceSide side ticks

/-- Every own book refines the exchange's. -/
def BooksRefine (s : TracedState) : Prop :=
  ∀ sid st side, s.base.market.table.streams.get? sid = some st →
    RefinesReference side (s.since sid) (st.rows side)

/-- An update of a book applies the whole batch, then begins the fan-out of what the book is then
to the subscribers of its contract; if their callbacks only return, that is what is delivered. -/
structure DeliversBatch (spec : IbConnectionSpec) (s s' : TracedState) (current : Nat)
    (ticks : List DepthTick) (st : Stream) : Prop where
  book : s'.base.market.table.streams.get? current = some st
  batch : s'.since current = s.since current ++ ticks
  fanOut : s'.base.stack = .publishing (publishes s.base.market.subs
    (fun sub => sub.channel = .depth && sub.contract = st.contract)
    [.book st.bids st.asks]) :: s.base.stack
  delivered : ∃ n, (callbackMachine spec).run s'.base (List.replicate n .resume) =
    some ⟨{ s'.base.market with
      delivered := s.base.market.delivered ++ dispatchDepth s.base.market.subs st },
      s.base.stack⟩

/-- Every update of a book delivers the state after the whole batch. -/
def DeliversBooks (spec : IbConnectionSpec) (s : TracedState) (l : CallbackLabel) : Prop :=
  ∀ sid ticks s' current, l = .op (.depthUpdate sid ticks) →
    (tracedMachine spec).step s l = some s' → updatedStream s.base.market sid = some current →
    ∃ st, DeliversBatch spec s s' current ticks st

theorem refinesReference (side : BookSide) (ticks : List DepthTick) :
    RefinesReference side ticks (boundedRows (sideEdit side) depthRows [] ticks) where
  length := (boundedRows_isPrefix _ (List.prefix_refl []) (Nat.zero_le _) ticks).2
  isPrefix := (boundedRows_isPrefix _ (List.prefix_refl []) (Nat.zero_le _) ticks).1
  whole := boundedRows_eq (sideEdit side)

theorem BooksInv.refine {s : TracedState} (h : BooksInv s) : BooksRefine s := by
  intro sid st side hst
  have hrows : st.rows side = boundedRows (sideEdit side) depthRows [] (s.since sid) := by
    rw [← h.rows sid side, rowsAt, hst]
    rfl
  rw [hrows]
  exact refinesReference side (s.since sid)

theorem deliversBooks (spec : IbConnectionSpec) (s : TracedState) (l : CallbackLabel) :
    DeliversBooks spec s l := by
  rintro sid ticks s' current rfl hstep hcurrent
  obtain ⟨base, hbase, rfl⟩ := Option.map_eq_some_iff.1 hstep
  rcases depthUpdate_cases hbase with ⟨hnone, -⟩ | ⟨current', st, hsome, hst, rfl⟩
  · rw [hnone] at hcurrent
    cases hcurrent
  · cases hsome.symm.trans hcurrent
    refine ⟨ticks.foldl applyDepthTick st, ?_, ?_, ?_, ?_⟩
    · simp [beginFanOut, applyTicks, get?_updateStream, hst]
    · simp only [sinceStep, hcurrent, Function.update_self]
    · rw [contract_foldl_applyDepthTick]
      rfl
    · refine ⟨_, (run_publishing spec _ (applyTicks s.base.market current ticks)
        s.base.stack).trans ?_⟩
      have hsubs : (applyTicks s.base.market current ticks).subs = s.base.market.subs := rfl
      rw [hsubs, flatMap_publishes, dispatchDepth, contract_foldl_applyDepthTick]
      rfl

/-- In every run, each side of an own book has at most ten rows, is the front of the exchange's
book after the ticks since the last reset, and is all of it if that never had more than ten
rows; and what is delivered is the own book after the whole batch. -/
theorem depthBook_refines (spec : IbConnectionSpec) (ls : List CallbackLabel) :
    (tracedMachine spec).AllStates BooksRefine (tracedMachine spec).init ls ∧
      (tracedMachine spec).AllSteps (DeliversBooks spec) (tracedMachine spec).init ls := by
  have hkept : ∀ s l s', BooksInv s → (tracedMachine spec).step s l = some s' → BooksInv s' :=
    fun _ _ _ h hstep => h.step hstep
  exact ⟨(tracedMachine spec).allStates_of_invariant hkept (fun _ h => h.refine) booksInv_init ls,
    (tracedMachine spec).allSteps_of_invariant hkept (fun s l _ => deliversBooks spec s l)
      booksInv_init ls⟩

/-- Eleven bids are inserted and the first one is deleted: the eleventh is not known any more. -/
example : let ticks : List DepthTick :=
      (List.range 11).map (fun k => ⟨1, 0, k, .ofNat 100, .ofNat k⟩) ++
        [⟨1, 2, 0, .ofNat 0, .ofNat 0⟩]
    (boundedRows (sideEdit .bids) depthRows [] ticks).length = 9 ∧
      (referenceSide .bids ticks).length = 10 := by
  decide

end Ib
end MarketConnector
