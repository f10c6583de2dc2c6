import MarketConnector.Foundations.Totals
import MarketConnector.Ib.TableOps

/-!
# Ib - Accounting of market-data lines

Every registered stream holds one line.  Opening a stream is the only operation that takes
a line, and it refuses at the cap before any request; dropping a registered stream frees
its line, and dropping it again does nothing.

Main results:

- Theorems `LineFrame.dropOf`, `LineFrame.resubscribeAll`, …: operations other than
  opening keep the balance of lines and streams and request no new stream.
- Theorem `LinesCounted.openStream`: opening keeps it, and stays under the cap.
- Theorem `lines_accounted`: the accounting along every run.
-/

namespace MarketConnector
namespace Ib

open Foundations

/-- L1, depth and trades streams that are registered. -/
def registeredStreams (t : StreamTable) : Nat :=
  (t.registry .l1).size + (t.registry .depth).size + (t.registry .trades).size

/-- A stream of the kind and the native contract is registered. -/
def HasStream (t : StreamTable) (kind : StreamKind) (native : Nat) : Prop :=
  ∃ key sid stream, (t.registry kind).get? key = some sid ∧
    t.streams.get? sid = some stream ∧ nativeOf stream.contract = native

/-- The requests sent between two states are for streams registered in the first. -/
def RequestsRegistered (t t' : StreamTable) : Prop :=
  ∃ sent, t'.ibCalls = t.ibCalls ++ sent ∧
    ∀ kind native, .request kind native ∈ sent → HasStream t kind native

/-- Lines and registered streams go down together, and no stream is requested that is not
registered. -/
structure LineFrame (t t' : StreamTable) : Prop extends StreamFrame t t' where
  contracts : ∀ sid, (t'.streams.get? sid).map Stream.contract =
    (t.streams.get? sid).map Stream.contract
  lines : t'.mdLines + registeredStreams t = t.mdLines + registeredStreams t'
  fewer : registeredStreams t' ≤ registeredStreams t
  requests : RequestsRegistered t t'

namespace LineFrame

theorem refl (t : StreamTable) : LineFrame t t where
  toStreamFrame := .refl t
  contracts _ := rfl
  lines := rfl
  fewer := Nat.le_refl _
  requests := ⟨[], by simp⟩

theorem hasStream {t t' : StreamTable} (h : LineFrame t t') {kind : StreamKind} {native : Nat}
    (hstream : HasStream t' kind native) : HasStream t kind native := by
  obtain ⟨key, sid, stream, hkey, hsid, hnative⟩ := hstream
  have hcontract := h.contracts sid
  rw [hsid] at hcontract
  obtain ⟨stream', hsid', hsame⟩ := Option.map_eq_some_iff.1 hcontract.symm
  exact ⟨key, sid, stream', h.registry kind key sid hkey, hsid', by rw [hsame, hnative]⟩

theorem trans {t t' t'' : StreamTable} (h : LineFrame t t') (h' : LineFrame t' t'') :
    LineFrame t t'' where
  toStreamFrame := h.toStreamFrame.trans h'.toStreamFrame
  contracts sid := (h'.contracts sid).trans (h.contracts sid)
  lines := by
    have hfirst := h.lines
    have hsecond := h'.lines
    omega
  fewer := h'.fewer.trans h.fewer
  requests := by
    obtain ⟨sent, hsent, hall⟩ := h.requests
    obtain ⟨sent', hsent', hall'⟩ := h'.requests
    refine ⟨sent ++ sent', by rw [hsent', hsent, List.append_assoc], fun kind native hmem => ?_⟩
    rcases List.mem_append.1 hmem with hmem | hmem
    · exact hall kind native hmem
    · exact h.hasStream (hall' kind native hmem)

/-- Neither registries nor lines change, and no call is made. -/
theorem of_same {t t' : StreamTable} (hframe : StreamFrame t t')
    (hcontracts : ∀ sid, (t'.streams.get? sid).map Stream.contract =
      (t.streams.get? sid).map Stream.contract)
    (hregistry : t'.registry = t.registry) (hlines : t'.mdLines = t.mdLines)
    (hcalls : t'.ibCalls = t.ibCalls) : LineFrame t t' where
  toStreamFrame := hframe
  contracts := hcontracts
  lines := by
    unfold registeredStreams
    rw [hregistry, hlines]
  fewer := by
    unfold registeredStreams
    rw [hregistry]
  requests := ⟨[], by simp [hcalls], by simp⟩

theorem updateStream (t : StreamTable) (sid : Nat) (f : Stream → Stream)
    (hf : ∀ s, (f s).contract = s.contract) : LineFrame t (updateStream t sid f) := by
  have hframe := StreamFrame.updateStream t sid f hf
  unfold Ib.updateStream at hframe ⊢
  cases hsid : t.streams.get? sid with
  | none => exact refl t
  | some stream =>
      rw [hsid] at hframe
      refine of_same hframe (fun sid' => ?_) rfl rfl rfl
      rw [Dict.get?_set]
      split_ifs with heq
      · rw [heq, hsid]
        simp [hf stream]
      · rfl

theorem sendCancel (t : StreamTable) (kind : StreamKind) (sid : Nat) :
    LineFrame t (sendCancel t kind sid) := by
  unfold Ib.sendCancel
  cases t.streams.get? sid with
  | none => exact refl t
  | some stream =>
      refine ⟨.logCall t _, fun _ => rfl, rfl, Nat.le_refl _, ⟨_, rfl, ?_⟩⟩
      intro kind' native hmem
      cases List.mem_singleton.1 hmem

/-- A request for a registered stream. -/
theorem sendRequest {t : StreamTable} {kind : StreamKind} {sid : Nat} {key : StreamKey}
    (hsid : (t.registry kind).get? key = some sid) (ticker : Option Nat) :
    LineFrame t (sendRequest t kind sid ticker).1 := by
  have hframe := StreamFrame.sendRequest t kind sid ticker
  unfold Ib.sendRequest at hframe ⊢
  cases hstream : t.streams.get? sid with
  | none => exact refl t
  | some stream =>
      have hsent :
          RequestsRegistered t (Ib.logCall t (.request kind (nativeOf stream.contract))) := by
        refine ⟨_, rfl, fun kind' native hmem => ?_⟩
        cases List.mem_singleton.1 hmem
        exact ⟨key, sid, stream, hsid, hstream, rfl⟩
      have hlogged : LineFrame t { Ib.logCall t (.request kind (nativeOf stream.contract)) with
          nextReqId := t.nextReqId + 1 } :=
        ⟨⟨fun _ _ _ h => h, fun _ => rfl, rfl⟩, fun _ => rfl, rfl, Nat.le_refl _, hsent⟩
      cases ticker with
      | none => exact hlogged
      | some ticker =>
          have hhooked := hlogged.trans (updateStream _ sid
            (fun s => { s with ticker := some ticker, reqId := some t.nextReqId }) fun _ => rfl)
          cases kind <;> exact hhooked.trans
            (of_same ⟨fun _ _ _ h => h, fun _ => rfl, rfl⟩ (fun _ => rfl) rfl rfl rfl)

theorem forgetReqId (t : StreamTable) (kind : StreamKind) (reqId : Nat) :
    LineFrame t (forgetReqId t kind reqId) := by
  cases kind <;> exact of_same (.forgetReqId t _ reqId) (fun _ => rfl) rfl rfl rfl

theorem unhook (t : StreamTable) (kind : StreamKind) (sid : Nat) :
    LineFrame t (unhook t kind sid) := by
  unfold Ib.unhook
  cases t.streams.get? sid with
  | none => exact refl t
  | some stream =>
      have hhooks : ∀ hooks, LineFrame t { t with hooks := hooks } := fun _ =>
        of_same ⟨fun _ _ _ h => h, fun _ => rfl, rfl⟩ (fun _ => rfl) rfl rfl rfl
      refine trans ?_ (updateStream _ sid _ fun _ => rfl)
      cases stream.reqId with
      | none =>
          cases stream.ticker with
          | none => exact refl t
          | some ticker => exact hhooks _
      | some reqId =>
          refine trans ?_ (forgetReqId _ kind reqId)
          cases stream.ticker with
          | none => exact refl t
          | some ticker => exact hhooks _

/-- A registered stream that is forgotten frees one line. -/
theorem forget (t : StreamTable) (kind : StreamKind) (sid : Nat) :
    LineFrame t (forget t kind sid) := by
  have hframe := StreamFrame.forget t kind sid
  unfold Ib.forget at hframe ⊢
  cases hkey : keyOf t sid with
  | none => exact refl t
  | some key =>
      rw [hkey] at hframe
      by_cases hreg : isRegistered t kind sid = true
      · simp only [hreg, if_true] at hframe ⊢
        have hfound : (t.registry kind).get? key = some sid := by
          unfold keyOf at hkey
          obtain ⟨stream, hsid, rfl⟩ := Option.map_eq_some_iff.1 hkey
          simpa [isRegistered, hsid] using hreg
        have hpop := Dict.size_pop_of_get? hfound
        have hcount : registeredStreams (addLines (unregister t kind key) (-1)) + 1 =
            registeredStreams t := by
          cases kind <;> simp [registeredStreams, addLines, unregister] <;> omega
        have hlines : (addLines (unregister t kind key) (-1)).mdLines = t.mdLines - 1 := rfl
        refine ⟨hframe, fun _ => rfl, by omega, by omega, ⟨[], by simp [addLines, unregister]⟩⟩
      · simp only [hreg, Bool.false_eq_true, if_false]
        exact refl t

theorem dropStream (t : StreamTable) (kind : StreamKind) (sid : Nat) :
    LineFrame t (dropStream t kind sid) :=
  (forget t kind sid).trans <|
    (updateStream _ sid (fun s => { s with idle := false }) fun _ => rfl).trans <|
      (unhook _ kind sid).trans (sendCancel _ kind sid)

theorem dropTrades (t : StreamTable) (sid : Nat) : LineFrame t (dropTrades t sid) := by
  unfold Ib.dropTrades
  split_ifs
  · exact (forget t .trades sid).trans ((unhook _ .trades sid).trans (sendCancel _ .trades sid))
  · exact refl t

theorem dropOf (kind : StreamKind) (t : StreamTable) (sid : Nat) :
    LineFrame t (dropOf kind t sid) := by
  cases kind with
  | l1 => exact dropStream t .l1 sid
  | depth => exact dropStream t .depth sid
  | trades => exact dropTrades t sid

/-- A registered stream is moved to a fresh ticker. -/
theorem resubscribeOne {t : StreamTable} {kind : StreamKind} {sid : Nat} {key : StreamKey}
    (hsid : (t.registry kind).get? key = some sid) (cancelOld : Bool) (answer : IbAnswer) :
    LineFrame t (resubscribeOne kind cancelOld t sid answer) := by
  have hkept : LineFrame t (Ib.resubscribeOne kind cancelOld t sid answer) ∧
      ((Ib.resubscribeOne kind cancelOld t sid answer).registry kind).get? key = some sid := by
    apply resubscribeOne_invariant
      (P := fun t' => LineFrame t t' ∧ (t'.registry kind).get? key = some sid)
    · exact fun _ h => ⟨h.1.trans (unhook _ kind sid), by rw [registry_unhook]; exact h.2⟩
    · intro _ h
      refine ⟨h.1.trans (updateStream _ sid _ fun _ => rfl), ?_⟩
      rw [registry_updateStream]
      exact h.2
    · exact fun _ h => ⟨h.1.trans (sendCancel _ kind sid), by rw [registry_sendCancel]; exact h.2⟩
    · intro _ ticker h
      refine ⟨h.1.trans (sendRequest h.2 ticker), ?_⟩
      rw [registry_sendRequest]
      exact h.2
    · exact ⟨refl t, hsid⟩
  exact hkept.1

/-- The registered streams of one kind are moved, one after the other. -/
theorem resubscribeAll (cancelOld : Bool) (answers : Nat → IbAnswer) (t : StreamTable) :
    LineFrame t (resubscribeAll cancelOld answers t) := by
  refine resubscribeAll_invariant (P := LineFrame t) ?_ (refl t)
  intro t' kind sid h hreg
  obtain ⟨key, hkey⟩ := hreg
  exact h.trans (resubscribeOne hkey cancelOld (answers sid))

/-- With every line taken no stream is opened. -/
theorem findOrOpen {cap : Nat} {t : StreamTable} (hcap : (cap : Int) ≤ t.mdLines)
    (kind : StreamKind) (contract : Contract) (ticker : Option Nat) :
    LineFrame t (findOrOpen cap t kind contract ticker).1 := by
  unfold Ib.findOrOpen
  cases (t.registry kind).get? (streamKey contract) with
  | some sid => exact refl t
  | none =>
      simp only [openStream, if_pos hcap]
      exact refl t

end LineFrame

theorem QuietRun.lineFrame {t t' : StreamTable} (h : QuietRun t t') : LineFrame t t' := by
  induction h with
  | refl => exact .refl t
  | tail _ hop ih =>
      cases hop with
      | updates sid hf => exact ih.trans (.updateStream _ sid _ hf.contract)
      | drops kind hreg => exact ih.trans (.dropOf kind _ _)

/-! ## Lines in use -/

/-- The lines in use are those of the registered streams, and not more than the cap. -/
structure LinesCounted (cap : Nat) (t : StreamTable) : Prop where
  counted : t.mdLines = registeredStreams t
  capped : registeredStreams t ≤ cap

theorem linesCounted_init (cap : Nat) : LinesCounted cap .init :=
  ⟨rfl, Nat.zero_le _⟩

theorem LinesCounted.frame {cap : Nat} {t t' : StreamTable} (h : LinesCounted cap t)
    (hf : LineFrame t t') : LinesCounted cap t' where
  counted := by
    have hcounted := h.counted
    have hlines := hf.lines
    omega
  capped := hf.fewer.trans h.capped

/-- A stream is opened under a key that has none. -/
theorem LinesCounted.openStream {cap : Nat} {t : StreamTable} (h : LinesCounted cap t)
    {kind : StreamKind} {contract : Contract}
    (habsent : (t.registry kind).get? (streamKey contract) = none) (ticker : Option Nat) :
    LinesCounted cap (openStream cap t kind contract ticker).1 := by
  have hregistry := registry_requestNew t kind contract ticker
  have hlines := mdLines_requestNew t kind contract ticker
  have hsame : LinesCounted cap (requestNew t kind contract ticker) := by
    constructor
    · unfold registeredStreams
      rw [hregistry, hlines]
      exact h.counted
    · unfold registeredStreams
      rw [hregistry]
      exact h.capped
  rw [openStream_eq]
  split_ifs with hcap
  · exact h
  · have hone : registeredStreams (registerNew t kind contract ticker) =
        registeredStreams (requestNew t kind contract ticker) + 1 := by
      have hset := Dict.size_set_of_absent habsent t.nextStream
      cases kind <;> simp [registeredStreams, registerNew, addLines, register, hset] <;> omega
    have hcounted := hsame.counted
    have htaken : (registerNew t kind contract ticker).mdLines =
        (requestNew t kind contract ticker).mdLines + 1 := rfl
    have hopened : LinesCounted cap (registerNew t kind contract ticker) := by
      constructor <;> omega
    exact hopened
  · exact hsame

theorem LinesCounted.findOrOpen {cap : Nat} {t : StreamTable} (h : LinesCounted cap t)
    (kind : StreamKind) (contract : Contract) (ticker : Option Nat) :
    LinesCounted cap (findOrOpen cap t kind contract ticker).1 := by
  unfold Ib.findOrOpen
  cases habsent : (t.registry kind).get? (streamKey contract) with
  | some sid => exact h
  | none => exact h.openStream habsent ticker

/-! ## Steps -/

/-- A step either opens no stream, or finds or opens one and holds it. -/
theorem lineFrame_move {cap : Nat} {s s' : MarketData} {l : CallbackLabel}
    (h : KeyedInv s.table) (hmove : CallbackMove cap s l s') :
    LineFrame s.table s'.table ∨ ∃ kind contract ticker,
      LineFrame (findOrOpen cap s.table kind contract ticker).1 s'.table := by
  by_cases hopen : MayOpen l
  · rcases hopen.touched hmove with rfl | ⟨kind, contract, ticker, htouched⟩
    · exact Or.inl (.refl _)
    · exact Or.inr ⟨kind, contract, ticker, htouched.quietRun.lineFrame⟩
  · left
    by_cases hother : IsResubscribe l
    · obtain ⟨cancelOld, answers, rfl⟩ := hother
      cases hmove with
      | same => exact .refl _
      | resubscribes => exact .resubscribeAll _ _ _
    · exact (quietRun_move h hmove hother hopen).lineFrame

/-! ## Runs -/

/-- One line for every registered stream, and not more than the cap. -/
def LinesAccounted (cap : Nat) (s : CallbackState) : Prop :=
  s.market.table.mdLines = registeredStreams s.market.table ∧ 0 ≤ s.market.table.mdLines ∧
    s.market.table.mdLines ≤ cap

/-- A step from a state with all lines taken makes no stream and requests none that is not
registered. -/
def OpensNoneAtCap (cap : Nat) (s : CallbackState) (l : CallbackLabel) : Prop :=
  s.market.table.mdLines = cap → ∀ s', callbackStep cap s l = some s' →
    s'.market.table.nextStream = s.market.table.nextStream ∧
      RequestsRegistered s.market.table s'.market.table

theorem LinesCounted.step {cap : Nat} {s s' : CallbackState} {l : CallbackLabel}
    (h : LinesCounted cap s.market.table) (hkeyed : KeyedInv s.market.table)
    (hstep : callbackStep cap s l = some s') : LinesCounted cap s'.market.table := by
  obtain hframe | ⟨kind, contract, ticker, hframe⟩ :=
    lineFrame_move hkeyed (callbackStep_move hstep)
  · exact h.frame hframe
  · exact (h.findOrOpen kind contract ticker).frame hframe

theorem opensNoneAtCap (cap : Nat) {s : CallbackState} (hkeyed : KeyedInv s.market.table)
    (l : CallbackLabel) : OpensNoneAtCap cap s l := by
  intro hcap s' hstep
  have hframe : LineFrame s.market.table s'.market.table := by
    obtain hframe | ⟨kind, contract, ticker, hframe⟩ :=
      lineFrame_move hkeyed (callbackStep_move hstep)
    · exact hframe
    · exact (LineFrame.findOrOpen hcap.ge kind contract ticker).trans hframe
  exact ⟨hframe.next, hframe.requests⟩

/-- In every state of every run the lines in use are those of the registered streams, and
no step opens a stream when all are taken. -/
theorem lines_accounted (spec : IbConnectionSpec) (ls : List CallbackLabel) :
    (callbackMachine spec).AllStates (LinesAccounted spec.marketDataLines) .init ls ∧
      (callbackMachine spec).AllSteps (OpensNoneAtCap spec.marketDataLines) .init ls := by
  have hstep : ∀ s l s',
      KeyedInv s.market.table ∧ LinesCounted spec.marketDataLines s.market.table →
      (callbackMachine spec).step s l = some s' →
        KeyedInv s'.market.table ∧ LinesCounted spec.marketDataLines s'.market.table :=
    fun _ _ _ h hstep => ⟨h.1.move (callbackStep_move hstep), h.2.step h.1 hstep⟩
  have hinit := And.intro keyedInv_init (linesCounted_init spec.marketDataLines)
  constructor
  · refine Machine.allStates_of_invariant _ hstep (fun s h => ?_) hinit ls
    have hcounted := h.2.counted
    have hcapped := h.2.capped
    unfold LinesAccounted
    omega
  · exact Machine.allSteps_of_invariant _ hstep (fun s l h => opensNoneAtCap _ h.1 l) hinit ls

end Ib
end MarketConnector
