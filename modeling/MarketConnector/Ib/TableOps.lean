import Mathlib.Logic.Relation
import MarketConnector.Ib.Callbacks
import MarketConnector.Ib.StreamUse

/-!
# Ib - Steps as sequences of table operations

Apart from a resubscribe, whatever a step does to the stream table is a sequence of three
operations: a change of a stream object that leaves its contract and its request alone, the
drop of a registered stream, and the opening of a stream under a free key.  An invariant of
the table has to be checked for these three and for one resubscribed stream only.

Main results:

- Theorem `tableRun_move`: a step other than a resubscribe is a run of table operations.
- Theorem `quietRun_move`: a step that wants no stream updates and drops only.
- Theorem `TableRun.invariant`: what the three operations keep, such a step keeps.
- Theorem `resubscribeAll_invariant`: what one resubscribed stream keeps, a resubscribe keeps.
-/

namespace MarketConnector
namespace Ib

open Foundations

/-! ## Operations -/

/-- `_drop_stream` and `_drop_trades`. -/
def dropOf : StreamKind → StreamTable → Nat → StreamTable
  | .trades, t, sid => dropTrades t sid
  | .l1, t, sid => dropStream t .l1 sid
  | .depth, t, sid => dropStream t .depth sid

/-- A change of a stream object that leaves its contract and its request alone. -/
structure KeepsRequest (f : Stream → Stream) : Prop where
  contract : ∀ st, (f st).contract = st.contract
  ticker : ∀ st, (f st).ticker = st.ticker
  reqId : ∀ st, (f st).reqId = st.reqId

inductive TableOp (cap : Nat) (t : StreamTable) : StreamTable → Prop where
  | updates (sid : Nat) {f : Stream → Stream} (hf : KeepsRequest f) :
      TableOp cap t (updateStream t sid f)
  | drops (kind : StreamKind) {sid : Nat} (hreg : Registered t kind sid) :
      TableOp cap t (dropOf kind t sid)
  | opens (kind : StreamKind) {contract : Contract} (ticker : Option Nat)
      (habsent : (t.registry kind).get? (streamKey contract) = none) :
      TableOp cap t (openStream cap t kind contract ticker).1

/-- A sequence of operations. -/
def TableRun (cap : Nat) : StreamTable → StreamTable → Prop :=
  Relation.ReflTransGen (TableOp cap)

theorem StreamFrame.dropOf (kind : StreamKind) (t : StreamTable) (sid : Nat) :
    StreamFrame t (dropOf kind t sid) := by
  cases kind with
  | l1 => exact .dropStream t .l1 sid
  | depth => exact .dropStream t .depth sid
  | trades => exact .dropTrades t sid

theorem KeyedInv.tableOp {cap : Nat} {t t' : StreamTable} (h : KeyedInv t)
    (hop : TableOp cap t t') : KeyedInv t' := by
  cases hop with
  | updates sid hf => exact h.frame (.updateStream t sid _ hf.contract)
  | drops kind hreg => exact h.frame (.dropOf kind t _)
  | opens kind ticker habsent => exact h.openStream cap kind _ ticker

namespace TableRun

variable {cap : Nat} {t t' : StreamTable}

theorem refl (t : StreamTable) : TableRun cap t t :=
  Relation.ReflTransGen.refl

theorem trans {t'' : StreamTable} (h : TableRun cap t t') (h' : TableRun cap t' t'') :
    TableRun cap t t'' :=
  Relation.ReflTransGen.trans h h'

theorem op (h : TableOp cap t t') : TableRun cap t t' :=
  Relation.ReflTransGen.single h

theorem updates (t : StreamTable) (sid : Nat) {f : Stream → Stream} (hf : KeepsRequest f) :
    TableRun cap t (updateStream t sid f) :=
  op (.updates sid hf)

/-- What the operations keep, a sequence of them keeps. -/
theorem invariant {P : StreamTable → Prop}
    (hop : ∀ t t', KeyedInv t → P t → TableOp cap t t' → P t') (hrun : TableRun cap t t')
    (hkeyed : KeyedInv t) (h : P t) : KeyedInv t' ∧ P t' := by
  induction hrun with
  | refl => exact ⟨hkeyed, h⟩
  | tail _ hstep ih => exact ⟨ih.1.tableOp hstep, hop _ _ ih.1 ih.2 hstep⟩

theorem keyed (hrun : TableRun cap t t') (hkeyed : KeyedInv t) : KeyedInv t' :=
  (hrun.invariant (P := fun _ => True) (fun _ _ _ _ _ => trivial) hkeyed trivial).1

end TableRun

/-- Updates and drops; nothing is opened. -/
inductive QuietOp (t : StreamTable) : StreamTable → Prop where
  | updates (sid : Nat) {f : Stream → Stream} (hf : KeepsRequest f) :
      QuietOp t (updateStream t sid f)
  | drops (kind : StreamKind) {sid : Nat} (hreg : Registered t kind sid) :
      QuietOp t (dropOf kind t sid)

/-- A sequence of updates and drops. -/
def QuietRun : StreamTable → StreamTable → Prop :=
  Relation.ReflTransGen QuietOp

namespace QuietRun

variable {t t' : StreamTable}

theorem refl (t : StreamTable) : QuietRun t t :=
  Relation.ReflTransGen.refl

theorem trans {t'' : StreamTable} (h : QuietRun t t') (h' : QuietRun t' t'') : QuietRun t t'' :=
  Relation.ReflTransGen.trans h h'

theorem updates (t : StreamTable) (sid : Nat) {f : Stream → Stream} (hf : KeepsRequest f) :
    QuietRun t (updateStream t sid f) :=
  Relation.ReflTransGen.single (.updates sid hf)

theorem drops {kind : StreamKind} {sid : Nat} (hreg : Registered t kind sid) :
    QuietRun t (dropOf kind t sid) :=
  Relation.ReflTransGen.single (.drops kind hreg)

theorem tableRun {cap : Nat} (h : QuietRun t t') : TableRun cap t t' := by
  induction h with
  | refl => exact .refl t
  | tail _ hop ih =>
      cases hop with
      | updates sid hf => exact ih.trans (.updates _ sid hf)
      | drops kind hreg => exact ih.trans (.op (.drops kind hreg))

theorem keyed (h : QuietRun t t') (hkeyed : KeyedInv t) : KeyedInv t' := by
  have hrun : TableRun 0 t t' := h.tableRun
  exact hrun.keyed hkeyed

theorem frame (h : QuietRun t t') : StreamFrame t t' := by
  induction h with
  | refl => exact .refl t
  | tail _ hop ih =>
      cases hop with
      | updates sid hf => exact ih.trans (.updateStream _ sid _ hf.contract)
      | drops kind hreg => exact ih.trans (.dropOf kind _ _)

end QuietRun

/-! ## Changes of stream objects -/

theorem keepsRequest_hold : KeepsRequest fun st => { st with refs := st.refs + 1 } :=
  ⟨fun _ => rfl, fun _ => rfl, fun _ => rfl⟩

theorem keepsRequest_holdDepth :
    KeepsRequest fun st => { st with idle := false, refs := st.refs + 1 } :=
  ⟨fun _ => rfl, fun _ => rfl, fun _ => rfl⟩

theorem keepsRequest_release : KeepsRequest fun st => { st with refs := st.refs - 1 } :=
  ⟨fun _ => rfl, fun _ => rfl, fun _ => rfl⟩

theorem keepsRequest_idle (idle : Bool) : KeepsRequest fun st => { st with idle := idle } :=
  ⟨fun _ => rfl, fun _ => rfl, fun _ => rfl⟩

theorem keepsRequest_subscribers (g : List Nat → List Nat) :
    KeepsRequest fun st => { st with subscribers := g st.subscribers } :=
  ⟨fun _ => rfl, fun _ => rfl, fun _ => rfl⟩

theorem keepsRequest_waiters (g : List Nat → List Nat) :
    KeepsRequest fun st => { st with waiters := g st.waiters } :=
  ⟨fun _ => rfl, fun _ => rfl, fun _ => rfl⟩

theorem keepsRequest_warning (warning : Option (Int × String)) :
    KeepsRequest fun st => { st with permissionWarning := warning } :=
  ⟨fun _ => rfl, fun _ => rfl, fun _ => rfl⟩

theorem keepsRequest_clear : KeepsRequest fun st => { st with bids := [], asks := [] } :=
  ⟨fun _ => rfl, fun _ => rfl, fun _ => rfl⟩

theorem keepsRequest_reset :
    KeepsRequest fun st => { st with bids := [], asks := [], permissionWarning := none } :=
  ⟨fun _ => rfl, fun _ => rfl, fun _ => rfl⟩

theorem keepsRequest_ticks (ticks : List DepthTick) :
    KeepsRequest fun st => ticks.foldl applyDepthTick st :=
  ⟨contract_foldl_applyDepthTick ticks, foldl_applyDepthTick (fun _ _ _ => rfl) ticks,
    foldl_applyDepthTick (fun _ _ _ => rfl) ticks⟩

/-! ## Holding a stream -/

/-- Registry of a channel. -/
def Channel.kind : Channel → StreamKind
  | .depth => .depth
  | .trades => .trades

/-- Stream objects change; their contracts and requests do not. -/
inductive Touched (t : StreamTable) : StreamTable → Prop where
  | same : Touched t t
  | updates {t' : StreamTable} (h : Touched t t') (sid : Nat) {f : Stream → Stream}
      (hf : KeepsRequest f) : Touched t (updateStream t' sid f)

theorem Touched.registry {t t' : StreamTable} (h : Touched t t') : t'.registry = t.registry := by
  induction h with
  | same => rfl
  | updates h sid hf ih => rw [registry_updateStream, ih]

theorem Touched.quietRun {t t' : StreamTable} (h : Touched t t') : QuietRun t t' := by
  induction h with
  | same => exact .refl t
  | updates _ sid hf ih => exact ih.trans (.updates _ sid hf)

/-- Holding is finding or opening, and one more user. -/
theorem acquire_touched (cap : Nat) (t : StreamTable) (channel : Channel) (contract : Contract)
    (ticker : Option Nat) :
    Touched (findOrOpen cap t channel.kind contract ticker).1
        (acquire cap t channel contract ticker).1 ∧
      (acquire cap t channel contract ticker).2 =
        (findOrOpen cap t channel.kind contract ticker).2 := by
  cases channel with
  | depth =>
      unfold acquire acquireDepth Channel.kind
      rcases findOrOpen cap t .depth contract ticker with ⟨t', none | sid⟩
      · exact ⟨.same, rfl⟩
      · exact ⟨.updates .same sid keepsRequest_holdDepth, rfl⟩
  | trades =>
      unfold acquire acquireTrades Channel.kind
      rcases findOrOpen cap t .trades contract ticker with ⟨t', none | sid⟩
      · exact ⟨.same, rfl⟩
      · exact ⟨.updates .same sid keepsRequest_hold, rfl⟩

theorem touched_subscribe (cap : Nat) (s : MarketData) (channel : Channel) (contract : Contract)
    (ticker : Option Nat) :
    Touched (findOrOpen cap s.table channel.kind contract ticker).1
      (subscribe cap s channel contract ticker).table := by
  have hacquire := (acquire_touched cap s.table channel contract ticker).1
  unfold subscribe
  rcases hresult : acquire cap s.table channel contract ticker with ⟨table, none | sid⟩
  · rwa [hresult] at hacquire
  · rw [hresult] at hacquire
    exact hacquire.updates sid (keepsRequest_subscribers (· ++ [_]))

theorem touched_startSnapshot (cap : Nat) (s : MarketData) (depth : Bool) (contract : Contract)
    (ticker : Option Nat) :
    Touched (findOrOpen cap s.table (if depth then .depth else .l1) contract ticker).1
      (startSnapshot cap s depth contract ticker).table := by
  have hopen : Touched (findOrOpen cap s.table (if depth then .depth else .l1) contract ticker).1
      (if depth then acquireDepth cap s.table contract ticker
        else findOrOpen cap s.table .l1 contract ticker).1 := by
    cases depth with
    | true => exact (acquire_touched cap s.table .depth contract ticker).1
    | false => exact .same
  unfold startSnapshot
  dsimp only
  rcases hresult : (if depth then acquireDepth cap s.table contract ticker
      else findOrOpen cap s.table .l1 contract ticker) with ⟨table, none | sid⟩
  · rwa [hresult] at hopen
  · rw [hresult] at hopen
    exact hopen.updates sid (keepsRequest_waiters (· ++ [_]))

/-! ## Dropping and releasing -/

theorem registered_dropTrades {t : StreamTable} (h : KeyedInv t) (kind' : StreamKind)
    (sid sid' : Nat) :
    Registered (dropTrades t sid) kind' sid' ↔
      Registered t kind' sid' ∧ ¬ (kind' = .trades ∧ sid' = sid) := by
  rw [← registered_forget h]
  unfold dropTrades
  split_ifs with hreg
  · simp only [Registered, registry_sendCancel, registry_unhook]
  · have hnot : ¬ Registered t .trades sid := fun hreg' => hreg ((isRegistered_iff h).mpr hreg')
    rw [registered_forget h]
    refine ⟨fun hreg' => ⟨hreg', ?_⟩, fun hreg' => hreg'.1⟩
    rintro ⟨rfl, rfl⟩
    exact hnot hreg'

theorem registered_dropOf {t : StreamTable} (h : KeyedInv t) (kind kind' : StreamKind)
    (sid sid' : Nat) :
    Registered (dropOf kind t sid) kind' sid' ↔
      Registered t kind' sid' ∧ ¬ (kind' = kind ∧ sid' = sid) := by
  cases kind with
  | l1 => exact registered_dropStream h .l1 kind' sid sid'
  | depth => exact registered_dropStream h .depth kind' sid sid'
  | trades => exact registered_dropTrades h kind' sid sid'

theorem quietRun_dropTrades {t : StreamTable} (h : KeyedInv t) (sid : Nat) :
    QuietRun t (dropTrades t sid) := by
  by_cases hreg : isRegistered t .trades sid = true
  · have hreg' : Registered t .trades sid := (isRegistered_iff h).mp hreg
    exact .drops hreg'
  · have hsame : dropTrades t sid = t := by simp [dropTrades, hreg]
    rw [hsame]
    exact .refl t

theorem quietRun_releaseDepth {t : StreamTable} (h : KeyedInv t) (sid : Nat) (loop : Bool) :
    QuietRun t (releaseDepth t sid loop) := by
  have hrefs : QuietRun t (updateStream t sid fun s => { s with refs := s.refs - 1 }) :=
    .updates t sid keepsRequest_release
  unfold releaseDepth
  dsimp only
  split_ifs with hstays hloop
  · exact hrefs
  · exact hrefs.trans (.updates _ sid (keepsRequest_idle true))
  · have hreg : Registered (updateStream t sid fun s => { s with refs := s.refs - 1 }) .depth
        sid := by
      rw [← isRegistered_iff (hrefs.keyed h)]
      simp only [Bool.or_eq_true, not_or, Bool.not_eq_true', Bool.not_eq_false] at hstays
      exact hstays.2
    exact hrefs.trans (.drops hreg)

theorem quietRun_releaseTrades {t : StreamTable} (h : KeyedInv t) (sid : Nat) :
    QuietRun t (releaseTrades t sid) := by
  have hrefs : QuietRun t (updateStream t sid fun s => { s with refs := s.refs - 1 }) :=
    .updates t sid keepsRequest_release
  unfold releaseTrades
  dsimp only
  split_ifs
  · exact hrefs
  · exact hrefs.trans (quietRun_dropTrades (hrefs.keyed h) sid)

theorem quietRun_idleExpired {t : StreamTable} (h : KeyedInv t) (sid : Nat) :
    QuietRun t (idleExpired t sid) := by
  have hidle : QuietRun t (updateStream t sid fun s => { s with idle := false }) :=
    .updates t sid (keepsRequest_idle false)
  unfold idleExpired
  dsimp only
  split_ifs with hdrops
  · simp only [Bool.and_eq_true] at hdrops
    exact hidle.trans (.drops ((isRegistered_iff (hidle.keyed h)).mp hdrops.2))
  · exact hidle

theorem quietRun_dropRegistered {s : MarketData} (h : KeyedInv s.table) {kind : StreamKind}
    (hkind : kind = .l1 ∨ kind = .depth) (sid : Nat) :
    QuietRun s.table (dropRegistered s kind sid).table := by
  unfold dropRegistered
  split_ifs with hreg
  · have hreg' := (isRegistered_iff h).mp hreg
    rcases hkind with rfl | rfl
    · exact .drops hreg'
    · exact .drops hreg'
  · exact .refl _

/-- Registered streams are dropped one after the other. -/
theorem quietRun_foldl_dropOf {t : StreamTable} (h : KeyedInv t) {kind : StreamKind}
    {sids : List Nat} (hnodup : sids.Nodup) (hreg : ∀ sid ∈ sids, Registered t kind sid) :
    QuietRun t (sids.foldl (dropOf kind) t) := by
  induction sids generalizing t with
  | nil => exact .refl t
  | cons sid sids ih =>
      rw [List.nodup_cons] at hnodup
      rw [List.forall_mem_cons] at hreg
      refine (QuietRun.drops hreg.1).trans
        (ih (h.frame (.dropOf kind t sid)) hnodup.2 ?_)
      intro sid' hsid'
      rw [registered_dropOf h]
      refine ⟨hreg.2 sid' hsid', ?_⟩
      rintro ⟨-, rfl⟩
      exact hnodup.1 hsid'

/-- A stream object is registered under one key of a kind only. -/
theorem KeyedInv.nodup_values {t : StreamTable} (h : KeyedInv t) (kind : StreamKind) :
    (t.registry kind).values.Nodup := by
  apply List.Nodup.map_on _ ((t.registry kind).nodup.of_map Prod.fst)
  rintro ⟨key, sid⟩ hentry ⟨key', sid'⟩ hentry' rfl
  have hkey := h.registered kind key sid ((t.registry kind).mem_entries_iff.mp hentry)
  have hkey' := h.registered kind key' sid ((t.registry kind).mem_entries_iff.mp hentry')
  rw [hkey] at hkey'
  rw [Option.some.inj hkey']

theorem quietRun_dropKind {t : StreamTable} (h : KeyedInv t) (kind : StreamKind) :
    QuietRun t ((t.registry kind).values.foldl (dropOf kind) t) :=
  quietRun_foldl_dropOf h (h.nodup_values kind) fun _ hsid => mem_registry_values.mp hsid

theorem quietRun_releaseAll {t : StreamTable} (h : KeyedInv t) :
    QuietRun t (releaseAll t) := by
  have hl1 : QuietRun t _ := quietRun_dropKind h .l1
  have hdepth : QuietRun _ _ := quietRun_dropKind (hl1.keyed h) .depth
  have htrades : QuietRun _ _ := quietRun_dropKind (hdepth.keyed (hl1.keyed h)) .trades
  exact hl1.trans (hdepth.trans htrades)

theorem quietRun_clearDepthBooks (t : StreamTable) : QuietRun t (clearDepthBooks t) := by
  unfold clearDepthBooks
  generalize (t.registry .depth).values = sids
  induction sids generalizing t with
  | nil => exact .refl t
  | cons sid sids ih =>
      exact (QuietRun.updates t sid keepsRequest_clear).trans (ih _)

/-! ## Closing and failing -/

theorem quietRun_cleanup {s : MarketData} (h : KeyedInv s.table) (id : Nat)
    (handle : SubscriptionHandle) (loop : Bool) :
    QuietRun s.table (cleanup s id handle loop).table := by
  have hforget : QuietRun s.table (updateStream s.table handle.stream fun st =>
      { st with subscribers := st.subscribers.erase id }) :=
    .updates s.table handle.stream (keepsRequest_subscribers (·.erase id))
  unfold cleanup
  cases handle.channel with
  | depth => exact hforget.trans (quietRun_releaseDepth (hforget.keyed h) _ loop)
  | trades => exact hforget.trans (quietRun_releaseTrades (hforget.keyed h) _)

theorem quietRun_closeHandle {s : MarketData} (h : KeyedInv s.table) (id : Nat) (loop : Bool) :
    QuietRun s.table (closeHandle s id loop).table := by
  rcases closeHandle_cases s id loop with ⟨handle, -, -, heq⟩ | ⟨-, hsame⟩
  · rw [heq]
    exact quietRun_cleanup (s := setHandle s id { handle with closed := true }) h id handle loop
  · rw [hsame]
    exact .refl _

theorem quietRun_failHandle {s : MarketData} (h : KeyedInv s.table) (exc : StreamError)
    (id : Nat) : QuietRun s.table (failHandle exc s id).table := by
  rcases failHandle_cases exc s id with ⟨handle, -, -, heq⟩ | ⟨-, hsame⟩
  · rw [heq]
    exact quietRun_closeHandle (s := setHandle s id { handle with error := some exc }) h id true
  · rw [hsame]
    exact .refl _

theorem quietRun_dropFailed {s : MarketData} (h : KeyedInv s.table) (reqId code : Int)
    (message : String) : QuietRun s.table (dropFailed s reqId code message).1.table := by
  by_cases hnegative : reqId < 0
  · simp only [dropFailed, if_pos hnegative]
    exact .refl _
  · simp only [dropFailed, if_neg hnegative]
    cases s.table.tradesByReqId.get? reqId.toNat with
    | some sid =>
        cases hardError code message with
        | none => exact .refl _
        | some exc => exact quietRun_dropTrades h sid
    | none =>
        cases s.table.streamByReqId.get? reqId.toNat with
        | none => exact .refl _
        | some entry =>
            obtain ⟨sid, depth⟩ := entry
            cases hardError code message with
            | some exc =>
                refine quietRun_dropRegistered h ?_ sid
                cases depth <;> simp
            | none =>
                dsimp only
                split_ifs
                · exact .updates _ _ (keepsRequest_warning _)
                · exact .refl _

theorem quietRun_endSnapshot {s : MarketData} (h : KeyedInv s.table) (id : Nat)
    (snapshot : Snapshot) (timedOut : Bool) :
    QuietRun s.table (endSnapshot s id snapshot timedOut).table := by
  have hleft : QuietRun s.table (leaveSnapshot s id snapshot).table :=
    .updates s.table snapshot.stream (keepsRequest_waiters (·.erase id))
  have hdropped : QuietRun s.table
      (dropAtDeadline (leaveSnapshot s id snapshot) snapshot timedOut).table := by
    rcases dropAtDeadline_eq (leaveSnapshot s id snapshot) snapshot timedOut with hsame | hdrop
    · rwa [hsame]
    · rw [hdrop]
      refine hleft.trans (quietRun_dropRegistered (hleft.keyed h) ?_ _)
      split_ifs <;> simp
  unfold endSnapshot
  dsimp only
  split_ifs
  · exact hdropped.trans (quietRun_releaseDepth (hdropped.keyed h) _ true)
  · exact hdropped

section Runs

variable {cap : Nat}

/-! ## Opening and holding -/

theorem tableRun_findOrOpen (t : StreamTable) (kind : StreamKind) (contract : Contract)
    (ticker : Option Nat) : TableRun cap t (findOrOpen cap t kind contract ticker).1 := by
  unfold findOrOpen
  cases hkey : (t.registry kind).get? (streamKey contract) with
  | some sid => exact .refl t
  | none => exact .op (.opens kind ticker hkey)

/-! ## Steps -/

def IsResubscribe (l : CallbackLabel) : Prop :=
  ∃ cancelOld answers, l = .op (.resubscribe cancelOld answers)

/-- The calls that open a stream where they find none. -/
def MayOpen : CallbackLabel → Prop
  | .op (.subscribe _ _ _) => True
  | .op (.topOfBook _ _) => True
  | .op (.depthSnapshot _ _) => True
  | _ => False

/-- Any other step updates and drops streams, but for a resubscribe. -/
theorem quietRun_move {s s' : MarketData} {l : CallbackLabel} (h : KeyedInv s.table)
    (hmove : CallbackMove cap s l s') (hother : ¬ IsResubscribe l) (hopen : ¬ MayOpen l) :
    QuietRun s.table s'.table := by
  cases hmove with
  | same => exact .refl _
  | subscribes => exact absurd trivial hopen
  | closes => exact quietRun_closeHandle h _ _
  | topOfBook => exact absurd trivial hopen
  | depthSnapshot => exact absurd trivial hopen
  | snapshotEnds hid => exact quietRun_endSnapshot h _ _ _
  | resubscribes => exact absurd ⟨_, _, rfl⟩ hother
  | depthReset => exact quietRun_clearDepthBooks _
  | idleExpires hsid hidle => exact quietRun_idleExpired h _
  | releaseAll => exact quietRun_releaseAll h
  | routed hnone => exact quietRun_dropFailed h _ _ _
  | fails hsome =>
      exact (quietRun_dropFailed h _ _ _).trans
        (.updates _ _ (keepsRequest_subscribers fun _ => []))
  | depthUpdate => exact .updates _ _ (keepsRequest_ticks _)
  | publishes => exact .refl _
  | notifies => exact quietRun_failHandle h _ _

/-- A call that may open a stream finds or opens one and holds it, or fails before that. -/
theorem MayOpen.touched {s s' : MarketData} {l : CallbackLabel} (h : MayOpen l)
    (hmove : CallbackMove cap s l s') :
    s' = s ∨ ∃ kind contract ticker,
      Touched (findOrOpen cap s.table kind contract ticker).1 s'.table := by
  cases hmove with
  | same => exact Or.inl rfl
  | @subscribes name channel contract ticker =>
      exact Or.inr ⟨_, _, _, touched_subscribe cap s channel contract ticker⟩
  | @topOfBook contract ticker =>
      exact Or.inr ⟨_, _, _, touched_startSnapshot cap s false contract ticker⟩
  | @depthSnapshot contract ticker =>
      exact Or.inr ⟨_, _, _, touched_startSnapshot cap s true contract ticker⟩
  | _ => cases h

/-- A step other than a resubscribe is a sequence of table operations. -/
theorem tableRun_move {s s' : MarketData} {l : CallbackLabel} (h : KeyedInv s.table)
    (hmove : CallbackMove cap s l s') (hother : ¬ IsResubscribe l) :
    TableRun cap s.table s'.table := by
  by_cases hopen : MayOpen l
  · rcases hopen.touched hmove with rfl | ⟨kind, contract, ticker, htouched⟩
    · exact .refl _
    · exact (tableRun_findOrOpen s.table kind contract ticker).trans htouched.quietRun.tableRun
  · exact (quietRun_move h hmove hother hopen).tableRun

/-! ## Resubscribing -/

theorem registry_foldl_resubscribeOne (kind : StreamKind) (cancelOld : Bool)
    (answers : Nat → IbAnswer) (sids : List Nat) (t : StreamTable) :
    (sids.foldl (fun t sid => resubscribeOne kind cancelOld t sid (answers sid)) t).registry =
      t.registry := by
  induction sids generalizing t with
  | nil => rfl
  | cons sid sids ih => rw [List.foldl_cons, ih, registry_resubscribeOne]

/-- What one resubscribed stream keeps, a resubscribe of all keeps. -/
theorem resubscribeAll_invariant {cancelOld : Bool} {answers : Nat → IbAnswer}
    {P : StreamTable → Prop}
    (hone : ∀ t kind sid, P t → Registered t kind sid →
      P (resubscribeOne kind cancelOld t sid (answers sid)))
    {t : StreamTable} (h : P t) : P (resubscribeAll cancelOld answers t) := by
  have hkind : ∀ (kind : StreamKind) (sids : List Nat) (t : StreamTable), P t →
      (∀ sid ∈ sids, Registered t kind sid) →
      P (sids.foldl (fun t sid => resubscribeOne kind cancelOld t sid (answers sid)) t) := by
    intro kind sids
    induction sids with
    | nil => exact fun _ h _ => h
    | cons sid sids ih =>
        intro t h hreg
        rw [List.forall_mem_cons] at hreg
        refine ih _ (hone t kind sid h hreg.1) fun sid' hsid' => ?_
        simpa only [Registered, registry_resubscribeOne] using hreg.2 sid' hsid'
  have hkinds : ∀ (kinds : List StreamKind) (t : StreamTable), P t →
      P (kinds.foldl (fun t kind => (t.registry kind).values.foldl
        (fun t sid => resubscribeOne kind cancelOld t sid (answers sid)) t) t) := by
    intro kinds
    induction kinds with
    | nil => exact fun _ h => h
    | cons kind kinds ih =>
        exact fun t h => ih _ (hkind kind _ t h fun _ hsid => mem_registry_values.mp hsid)
  exact hkinds _ t h

/-- Every step keeps registered streams under their keys. -/
theorem KeyedInv.move {s s' : MarketData} {l : CallbackLabel} (h : KeyedInv s.table)
    (hmove : CallbackMove cap s l s') : KeyedInv s'.table := by
  by_cases hother : IsResubscribe l
  · obtain ⟨cancelOld, answers, rfl⟩ := hother
    cases hmove with
    | same => exact h
    | resubscribes => exact h.frame (.resubscribeAll cancelOld answers s.table)
  · exact (tableRun_move h hmove hother).keyed h

end Runs

end Ib
end MarketConnector
