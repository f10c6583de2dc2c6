import MarketConnector.Ib.ClosedCallbacks
import MarketConnector.Ib.DepthBooks
import MarketConnector.Ib.LiveRequests
import MarketConnector.Ib.PnlCancels

/-!
# Ib - What a resubscribe leaves alone

After an outage `resubscribe_all()` asks IB again for every trades, L1 and depth stream and
for every profit-and-loss feed.  Registries, users and the market-data lines stay; requests
are replaced, and books, permission warnings and latest values start over.

Main results:

- Definition `CallingTransport.resubscribeAll`: streams and feeds together.
- Theorem `TradesUnwarned.move`: a permission warning is never one of a trades stream.
- Theorem `ibCalls_resubscribeAll`: the calls a resubscribe makes, in order.
- Theorem `resubscribeAll_transparent`: what it does in every reachable state.
-/

namespace MarketConnector
namespace Ib

open Foundations

/-! ## Streams and feeds together -/

/-- `resubscribe_all`. -/
def CallingTransport.resubscribeAll (s : CallingTransport) (cancelOld : Bool)
    (answers : Nat → IbAnswer) : CallingTransport :=
  { s with
    market := { s.market with table := Ib.resubscribeAll cancelOld answers s.market.table }
    pnl := resubscribeAllPnl s.pnl cancelOld }

/-- The streams come first, then the feeds. -/
theorem run_resubscribeAll (spec : IbConnectionSpec) (s : CallingTransport) (cancelOld : Bool)
    (answers : Nat → IbAnswer) :
    (callingMachine spec).run s
        [.market (.resubscribe cancelOld answers), .pnl (.resubscribeAll cancelOld)] =
      some (s.resubscribeAll cancelOld answers) :=
  rfl

/-- Native contract of a stream object. -/
def nativeAt (t : StreamTable) (sid : Nat) : Option Nat :=
  (t.streams.get? sid).map fun st => nativeOf st.contract

/-- The calls that ask for a stream again: at most a cancel, then the request. -/
def callsFor (cancelOld : Bool) (t : StreamTable) (kind : StreamKind) (sid : Nat) : List IbCall :=
  (if cancelOld then ((nativeAt t sid).map (.cancel kind)).toList else []) ++
    ((nativeAt t sid).map (.request kind)).toList

/-- A stream object without its request, its book and its warning. -/
def Stream.lasting (st : Stream) : Stream :=
  { st with ticker := none, reqId := none, bids := [], asks := [], permissionWarning := none }

/-- Streams that were asked for again, and nothing else. -/
structure StreamsAskedAgain (cancelOld : Bool) (answers : Nat → IbAnswer) (t t' : StreamTable) :
    Prop where
  registry : t'.registry = t.registry
  lines : t'.mdLines = t.mdLines
  lasting : ∀ sid, (t'.streams.get? sid).map Stream.lasting =
    (t.streams.get? sid).map Stream.lasting
  others : ∀ sid, (∀ kind, ¬ Registered t kind sid) → t'.streams.get? sid = t.streams.get? sid
  known : ∀ kind sid, Registered t kind sid → (nativeAt t sid).isSome = true
  calls : t'.ibCalls = t.ibCalls ++ [StreamKind.trades, .l1, .depth].flatMap fun kind =>
    (t.registry kind).values.flatMap (callsFor cancelOld t kind)
  tickers : ∀ kind sid, Registered t kind sid →
    tickerOf t' sid = (answers sid).ticker ∧ (tickerOf t' sid).isSome = true
  hooks : ∀ sid ticker, t'.hooks.count (ticker, sid) =
    if tickerOf t' sid = some ticker then 1 else 0
  books : ∀ sid st, Registered t .depth sid → t'.streams.get? sid = some st →
    st.bids = [] ∧ st.asks = []
  warnings : ∀ kind sid st, Registered t kind sid → t'.streams.get? sid = some st →
    st.permissionWarning = none

/-- Feeds that were asked for again, and nothing else. -/
structure FeedsAskedAgain (cancelOld : Bool) (s s' : PnlTransport) : Prop where
  same : s' = { s with feeds := s'.feeds, requests := s'.requests }
  feeds : ∀ fid, s'.feeds.get? fid = (s.feeds.get? fid).map fun feed =>
    if fid ∈ s.registry.values then { feed with latest := none } else feed
  requests : s'.requests =
    s.requests.reissueAll cancelOld s.transport.socketUp s.registry.keys
  issued : s'.requests.next = s.requests.next + s.registry.size
  cancelled : s'.requests.cancelled.length =
    s.requests.cancelled.length + if cancelOld then s.registry.size else 0

/-- Only requests, books, warnings and latest values change. -/
structure Transparent (cancelOld : Bool) (answers : Nat → IbAnswer) (s s' : CallingTransport) :
    Prop where
  market : s'.market = { s.market with table := s'.market.table }
  streams : StreamsAskedAgain cancelOld answers s.market.table s'.market.table
  feeds : FeedsAskedAgain cancelOld s.pnl s'.pnl
  stack : s'.stack = s.stack

/-! ## Streams are registered when they are made -/

/-- No stream from before is registered. -/
structure RegistersNew (t t' : StreamTable) : Prop where
  next : t.nextStream ≤ t'.nextStream
  registered : ∀ kind sid, Registered t' kind sid → Registered t kind sid ∨ t.nextStream ≤ sid

namespace RegistersNew

theorem frame {t t' : StreamTable} (h : StreamFrame t t') : RegistersNew t t' :=
  ⟨Nat.le_of_eq h.next.symm, fun _ _ hreg => Or.inl (h.registered hreg)⟩

theorem trans {t t' t'' : StreamTable} (h : RegistersNew t t') (h' : RegistersNew t' t'') :
    RegistersNew t t'' where
  next := Nat.le_trans h.next h'.next
  registered kind sid hreg := by
    rcases h'.registered kind sid hreg with hold | hlate
    · exact h.registered kind sid hold
    · exact Or.inr (Nat.le_trans h.next hlate)

theorem openStream {t : StreamTable} {kind : StreamKind} {contract : Contract}
    (habsent : (t.registry kind).get? (streamKey contract) = none) (cap : Nat)
    (ticker : Option Nat) : RegistersNew t (openStream cap t kind contract ticker).1 := by
  have hnext : t.nextStream ≤ (requestNew t kind contract ticker).nextStream := by
    rw [(StreamFrame.requestNew t kind contract ticker).next]
    exact Nat.le_succ _
  rw [openStream_eq]
  split_ifs with hcap hanswered
  · exact frame (.refl t)
  · refine ⟨hnext, fun kind' sid hreg => ?_⟩
    apply ((registered_registerNew habsent ticker kind' sid).mp hreg).imp_right
    rintro ⟨-, rfl⟩
    exact Nat.le_refl _
  · refine ⟨hnext, fun kind' sid hreg => Or.inl ?_⟩
    simpa only [Registered, registry_requestNew] using hreg

theorem tableOp {cap : Nat} {t t' : StreamTable} (hop : TableOp cap t t') : RegistersNew t t' := by
  cases hop with
  | updates sid hf => exact frame (.updateStream t sid _ hf.contract)
  | drops kind hreg => exact frame (.dropOf kind t _)
  | opens kind ticker habsent => exact openStream habsent cap ticker

theorem move {cap : Nat} {s s' : MarketData} {l : CallbackLabel} (h : KeyedInv s.table)
    (hmove : CallbackMove cap s l s') : RegistersNew s.table s'.table := by
  have hrefl : RegistersNew s.table s.table := frame (.refl _)
  by_cases hother : IsResubscribe l
  · obtain ⟨cancelOld, answers, rfl⟩ := hother
    cases hmove with
    | same => exact hrefl
    | resubscribes => exact frame (.resubscribeAll cancelOld answers _)
  · refine ((tableRun_move h hmove hother).invariant ?_ h hrefl).2
    exact fun t t' _ hnew hop => hnew.trans (tableOp hop)

end RegistersNew

/-! ## Permission warnings -/

theorem settled_permissionWarning : Settled Stream.permissionWarning none :=
  ⟨fun _ _ _ _ _ _ _ => rfl, fun _ => rfl⟩

/-- No trades stream has a warning. -/
def TradesUnwarned (t : StreamTable) : Prop :=
  ∀ sid, Registered t .trades sid → fieldAt Stream.permissionWarning none t sid = none

namespace TradesUnwarned

/-- Streams that are made later have no warning yet. -/
theorem keep {t t' : StreamTable} (h : TradesUnwarned t) (hkeyed : KeyedInv t)
    (hnew : RegistersNew t t')
    (hsame : fieldAt Stream.permissionWarning none t' = fieldAt Stream.permissionWarning none t) :
    TradesUnwarned t' := by
  intro sid hreg
  rw [hsame]
  rcases hnew.registered .trades sid hreg with hold | hlate
  · exact h sid hold
  · have hnone : t.streams.get? sid = none := by
      cases hsid : t.streams.get? sid with
      | none => rfl
      | some st =>
          have hlt := hkeyed.fresh sid (streamKey st.contract) (by simp [keyOf, hsid])
          omega
    simp [fieldAt, hnone]

theorem resubscribeAll {t : StreamTable} (h : TradesUnwarned t) (cancelOld : Bool)
    (answers : Nat → IbAnswer) : TradesUnwarned (resubscribeAll cancelOld answers t) := by
  intro sid hreg
  rw [settled_permissionWarning.resubscribeAll fun _ => rfl]
  split_ifs
  · rfl
  · exact h sid (((UseSame.resubscribeAll cancelOld answers t).registered .trades sid).mp hreg)

/-- A warning is noted in a stream whose id is that of no trades stream. -/
theorem dropFailed {s : MarketData} (h : TradesUnwarned s.table) (hkeyed : KeyedInv s.table)
    (hreqIds : ReqIdInv s.table) (reqId code : Int) (message : String) :
    TradesUnwarned (dropFailed s reqId code message).1.table := by
  have hframe := (quietRun_dropFailed hkeyed reqId code message).frame
  rcases settled_permissionWarning.dropFailed s reqId code message with
    hsame | ⟨r, sid, depth, hentry, heq⟩
  · exact h.keep hkeyed (.frame hframe) hsame
  · intro sid' hreg
    have hreg' := hframe.registered hreg
    have hne : sid' ≠ sid := by
      rintro rfl
      cases depth with
      | false => cases hreqIds.kinds _ _ _ hreg' (hreqIds.registered .l1 r sid' hentry)
      | true => cases hreqIds.kinds _ _ _ hreg' (hreqIds.registered .depth r sid' hentry)
    have hold := h sid' hreg'
    rw [heq]
    simpa only [fieldAt, get?_updateStream, if_neg hne] using hold

theorem move {cap : Nat} {s s' : MarketData} {l : CallbackLabel} (h : TradesUnwarned s.table)
    (hkeyed : KeyedInv s.table) (hreqIds : ReqIdInv s.table) (hmove : CallbackMove cap s l s') :
    TradesUnwarned s'.table := by
  by_cases hresub : IsResubscribe l
  · obtain ⟨cancelOld, answers, rfl⟩ := hresub
    cases hmove with
    | same => exact h
    | resubscribes => exact h.resubscribeAll cancelOld answers
  · by_cases herror : ∃ reqId code message, l = .op (.streamError reqId code message)
    · obtain ⟨reqId, code, message, rfl⟩ := herror
      have hdropped := h.dropFailed hkeyed hreqIds reqId code message
      have hkeyed' := (quietRun_dropFailed hkeyed reqId code message).keyed hkeyed
      cases hmove with
      | same => exact h
      | routed hnone => exact hdropped
      | fails hsome =>
          exact hdropped.keep hkeyed' (.frame (.updateStream _ _ _ fun _ => rfl))
            (fieldAt_updateStream rfl fun _ => rfl)
    · refine h.keep hkeyed (.move hkeyed hmove) ?_
      apply settled_permissionWarning.move hkeyed hmove _ _ _ hresub
      · exact fun sid ticks _ => foldl_applyDepthTick (fun _ _ _ => rfl) ticks
      · exact fun _ _ => rfl
      · exact fun reqId code message hl => absurd ⟨reqId, code, message, hl⟩ herror

end TradesUnwarned

/-! ## What lasts -/

/-- One stream object changes, in its request, its book and its warning at most. -/
structure RequestOnly (sid : Nat) (t t' : StreamTable) : Prop where
  registry : t'.registry = t.registry
  lines : t'.mdLines = t.mdLines
  lasting : ∀ sid', (t'.streams.get? sid').map Stream.lasting =
    (t.streams.get? sid').map Stream.lasting
  others : ∀ sid', sid' ≠ sid → t'.streams.get? sid' = t.streams.get? sid'

@[simp]
theorem mdLines_unhook (t : StreamTable) (kind : StreamKind) (sid : Nat) :
    (unhook t kind sid).mdLines = t.mdLines :=
  unhook_unchanged (fun _ _ => rfl) (fun _ kind _ => by cases kind <;> rfl) mdLines_updateStream
    t kind sid

@[simp]
theorem mdLines_sendCancel (t : StreamTable) (kind : StreamKind) (sid : Nat) :
    (sendCancel t kind sid).mdLines = t.mdLines := by
  unfold sendCancel
  cases t.streams.get? sid <;> rfl

namespace RequestOnly

variable {sid : Nat}

theorem refl (t : StreamTable) : RequestOnly sid t t :=
  ⟨rfl, rfl, fun _ => rfl, fun _ _ => rfl⟩

theorem trans {t t' t'' : StreamTable} (h : RequestOnly sid t t') (h' : RequestOnly sid t' t'') :
    RequestOnly sid t t'' where
  registry := h'.registry.trans h.registry
  lines := h'.lines.trans h.lines
  lasting sid' := (h'.lasting sid').trans (h.lasting sid')
  others sid' hne := (h'.others sid' hne).trans (h.others sid' hne)

/-- A change of one stream object that keeps what lasts. -/
theorem of_get? {t t' : StreamTable} {f : Stream → Stream}
    (hget : ∀ sid', t'.streams.get? sid' =
      if sid' = sid then (t.streams.get? sid).map f else t.streams.get? sid')
    (hf : ∀ st, (f st).lasting = st.lasting) (hregistry : t'.registry = t.registry)
    (hlines : t'.mdLines = t.mdLines) : RequestOnly sid t t' where
  registry := hregistry
  lines := hlines
  lasting sid' := by
    rw [hget]
    split_ifs with heq
    · rw [heq, Option.map_map]
      exact congrArg (Option.map · _) (funext hf)
    · rfl
  others sid' hne := by rw [hget, if_neg hne]

theorem unhook (t : StreamTable) (kind : StreamKind) :
    RequestOnly sid t (unhook t kind sid) :=
  of_get? (get?_unhook t kind sid) (fun _ => rfl) (registry_unhook t kind sid)
    (mdLines_unhook t kind sid)

theorem updateStream (t : StreamTable) {f : Stream → Stream}
    (hf : ∀ st, (f st).lasting = st.lasting) : RequestOnly sid t (updateStream t sid f) :=
  of_get? (fun sid' => get?_updateStream t sid sid' f) hf (registry_updateStream t sid f)
    (mdLines_updateStream t sid f)

theorem sendCancel (t : StreamTable) (kind : StreamKind) :
    RequestOnly sid t (sendCancel t kind sid) where
  registry := registry_sendCancel t kind sid
  lines := mdLines_sendCancel t kind sid
  lasting sid' := by rw [streams_sendCancel]
  others sid' _ := by rw [streams_sendCancel]

theorem sendRequest (t : StreamTable) (kind : StreamKind) (ticker : Option Nat) :
    RequestOnly sid t (sendRequest t kind sid ticker).1 := by
  apply of_get? (fun sid' => get?_sendRequest t kind sid sid' ticker)
  · intro st
    cases ticker <;> rfl
  · exact registry_sendRequest t kind sid ticker
  · exact mdLines_sendRequest t kind sid ticker

theorem resubscribeOne (t : StreamTable) (kind : StreamKind) (cancelOld : Bool)
    (answer : IbAnswer) : RequestOnly sid t (resubscribeOne kind cancelOld t sid answer) := by
  apply resubscribeOne_invariant (P := RequestOnly sid t)
  · exact fun _ h => h.trans (unhook _ kind)
  · exact fun _ h => h.trans (updateStream _ fun _ => rfl)
  · exact fun _ h => h.trans (sendCancel _ kind)
  · exact fun _ ticker h => h.trans (sendRequest _ kind ticker)
  · exact refl t

end RequestOnly

/-- Only registered streams change, in their requests, books and warnings. -/
structure RequestsOnly (t t' : StreamTable) : Prop where
  registry : t'.registry = t.registry
  lines : t'.mdLines = t.mdLines
  lasting : ∀ sid, (t'.streams.get? sid).map Stream.lasting =
    (t.streams.get? sid).map Stream.lasting
  others : ∀ sid, (∀ kind, ¬ Registered t kind sid) → t'.streams.get? sid = t.streams.get? sid

namespace RequestsOnly

theorem refl (t : StreamTable) : RequestsOnly t t :=
  ⟨rfl, rfl, fun _ => rfl, fun _ _ => rfl⟩

theorem next {t t' t'' : StreamTable} (h : RequestsOnly t t') {kind : StreamKind} {sid : Nat}
    (hreg : Registered t' kind sid) (hone : RequestOnly sid t' t'') : RequestsOnly t t'' where
  registry := hone.registry.trans h.registry
  lines := hone.lines.trans h.lines
  lasting sid' := (hone.lasting sid').trans (h.lasting sid')
  others sid' hnone := by
    have hne : sid' ≠ sid := by
      rintro rfl
      simp only [Registered, h.registry] at hreg
      exact hnone kind hreg
    rw [hone.others sid' hne, h.others sid' hnone]

theorem resubscribeAll (cancelOld : Bool) (answers : Nat → IbAnswer) (t : StreamTable) :
    RequestsOnly t (resubscribeAll cancelOld answers t) := by
  apply resubscribeAll_invariant _ (refl t)
  exact fun t' kind sid h hreg => h.next hreg (.resubscribeOne t' kind cancelOld (answers sid))

end RequestsOnly

/-! ## Calls -/

theorem nativeAt_of_lasting {t t' : StreamTable}
    (h : ∀ sid, (t'.streams.get? sid).map Stream.lasting =
      (t.streams.get? sid).map Stream.lasting) : nativeAt t' = nativeAt t := by
  funext sid
  have hnative := congrArg (Option.map fun st => nativeOf st.contract) (h sid)
  simp only [Option.map_map] at hnative
  exact hnative

theorem ibCalls_unhook (t : StreamTable) (kind : StreamKind) (sid : Nat) :
    (unhook t kind sid).ibCalls = t.ibCalls :=
  unhook_unchanged (fun _ _ => rfl) (fun _ kind _ => by cases kind <;> rfl) ibCalls_updateStream
    t kind sid

theorem ibCalls_sendCancel (t : StreamTable) (kind : StreamKind) (sid : Nat) :
    (sendCancel t kind sid).ibCalls =
      t.ibCalls ++ ((nativeAt t sid).map (.cancel kind)).toList := by
  unfold sendCancel nativeAt
  cases t.streams.get? sid with
  | none => simp
  | some stream => rfl

theorem ibCalls_sendRequest (t : StreamTable) (kind : StreamKind) (sid : Nat)
    (ticker : Option Nat) :
    (sendRequest t kind sid ticker).1.ibCalls =
      t.ibCalls ++ ((nativeAt t sid).map (.request kind)).toList := by
  unfold sendRequest nativeAt
  cases t.streams.get? sid with
  | none => simp
  | some stream =>
      cases ticker with
      | none => rfl
      | some ticker => cases kind <;> simp [ibCalls_updateStream, logCall]

/-- The stream is unhooked and reset; then IB is called. -/
theorem exists_reset (t : StreamTable) (kind : StreamKind) (sid : Nat) :
    ∃ t', RequestOnly sid t t' ∧ t'.ibCalls = t.ibCalls ∧ ∀ cancelOld answer,
      resubscribeOne kind cancelOld t sid answer =
        if cancelOld then
          if answer.cancelRaises then sendCancel t' kind sid
          else (sendRequest (sendCancel t' kind sid) kind sid answer.ticker).1
        else (sendRequest t' kind sid answer.ticker).1 := by
  have hunhook : RequestOnly sid t (unhook t kind sid) := .unhook t kind
  refine ⟨_, ?_, ?_, fun cancelOld answer => rfl⟩
  · split_ifs
    · exact hunhook
    · exact hunhook.trans (.updateStream _ fun _ => rfl)
  · split_ifs
    · exact ibCalls_unhook t kind sid
    · rw [ibCalls_updateStream, ibCalls_unhook]

/-- A stream is asked for again; its cancel does not raise. -/
theorem ibCalls_resubscribeOne (t : StreamTable) (kind : StreamKind) (sid : Nat)
    {cancelOld : Bool} {answer : IbAnswer}
    (hraises : ¬ (cancelOld = true ∧ answer.cancelRaises = true)) :
    (resubscribeOne kind cancelOld t sid answer).ibCalls =
      t.ibCalls ++ callsFor cancelOld t kind sid := by
  obtain ⟨t', honly, hcalls, hone⟩ := exists_reset t kind sid
  have hnative := nativeAt_of_lasting honly.lasting
  rw [hone]
  unfold callsFor
  cases cancelOld with
  | false => simp [ibCalls_sendRequest, hcalls, hnative]
  | true =>
      have hquiet : answer.cancelRaises = false := by simpa using hraises
      have hcancelled : RequestOnly sid t' (sendCancel t' kind sid) := .sendCancel t' kind
      have hnative' := nativeAt_of_lasting hcancelled.lasting
      simp [ibCalls_sendRequest, ibCalls_sendCancel, hquiet, hcalls, hnative, hnative']

/-- The streams of a kind are asked for again, one after the other. -/
theorem ibCalls_foldl_resubscribeOne (kind : StreamKind) {cancelOld : Bool}
    {answers : Nat → IbAnswer} {sids : List Nat}
    (hraises : ∀ sid ∈ sids, ¬ (cancelOld = true ∧ (answers sid).cancelRaises = true))
    (t : StreamTable) :
    let t' := sids.foldl (fun t sid => resubscribeOne kind cancelOld t sid (answers sid)) t
    t'.ibCalls = t.ibCalls ++ sids.flatMap (callsFor cancelOld t kind) ∧
      nativeAt t' = nativeAt t := by
  induction sids generalizing t with
  | nil => simp
  | cons sid sids ih =>
      rw [List.forall_mem_cons] at hraises
      have hone : RequestOnly sid t (resubscribeOne kind cancelOld t sid (answers sid)) :=
        .resubscribeOne t kind cancelOld (answers sid)
      have hnative := nativeAt_of_lasting hone.lasting
      have hcalls : callsFor cancelOld (resubscribeOne kind cancelOld t sid (answers sid)) kind =
          callsFor cancelOld t kind := by
        unfold callsFor
        rw [hnative]
      obtain ⟨hrest, hnative'⟩ := ih hraises.2 (resubscribeOne kind cancelOld t sid (answers sid))
      refine ⟨?_, hnative'.trans hnative⟩
      rw [List.foldl_cons, hrest, ibCalls_resubscribeOne t kind sid hraises.1, hcalls,
        List.flatMap_cons, List.append_assoc]

/-- A resubscribe asks for every registered stream once: trades, then L1, then depth. -/
theorem ibCalls_resubscribeAll {cancelOld : Bool} {answers : Nat → IbAnswer} {t : StreamTable}
    (hraises : ∀ kind sid, Registered t kind sid →
      ¬ (cancelOld = true ∧ (answers sid).cancelRaises = true)) :
    (resubscribeAll cancelOld answers t).ibCalls =
      t.ibCalls ++ [StreamKind.trades, .l1, .depth].flatMap fun kind =>
        (t.registry kind).values.flatMap (callsFor cancelOld t kind) := by
  have hkinds : ∀ (kinds : List StreamKind) (t' : StreamTable), t'.registry = t.registry →
      nativeAt t' = nativeAt t →
      (kinds.foldl (fun t kind => (t.registry kind).values.foldl
        (fun t sid => resubscribeOne kind cancelOld t sid (answers sid)) t) t').ibCalls =
        t'.ibCalls ++ kinds.flatMap fun kind =>
          (t.registry kind).values.flatMap (callsFor cancelOld t kind) := by
    intro kinds
    induction kinds with
    | nil => simp
    | cons kind kinds ih =>
        intro t' hregistry hnative
        have hcalls : callsFor cancelOld t' kind = callsFor cancelOld t kind := by
          unfold callsFor
          rw [hnative]
        obtain ⟨hone, hnative'⟩ := ibCalls_foldl_resubscribeOne kind (fun sid hsid =>
          hraises kind sid (mem_registry_values.mp hsid)) t'
        rw [List.foldl_cons, hregistry, ih, hone, hcalls, List.flatMap_cons, List.append_assoc]
        · rw [registry_foldl_resubscribeOne, hregistry]
        · exact hnative'.trans hnative
  exact hkinds _ t rfl rfl

/-! ## Feeds -/

theorem feeds_resubscribePnl (cancelOld : Bool) (s : PnlTransport) (fid : Nat) :
    (resubscribePnl cancelOld s fid).feeds =
      (updateFeed s fid fun feed => { feed with latest := none }).feeds := by
  unfold resubscribePnl updateFeed
  cases s.feeds.get? fid <;> rfl

/-- Feeds lose their latest value, one after the other. -/
theorem get?_foldl_resubscribePnl (cancelOld : Bool) (fids : List Nat) (s : PnlTransport)
    (fid : Nat) :
    (fids.foldl (resubscribePnl cancelOld) s).feeds.get? fid =
      (s.feeds.get? fid).map fun feed =>
        if fid ∈ fids then { feed with latest := none } else feed := by
  induction fids generalizing s with
  | nil => simp
  | cons first fids ih =>
      rw [List.foldl_cons, ih, feeds_resubscribePnl, get?_updateFeed]
      by_cases heq : fid = first
      · subst heq
        rw [if_pos rfl, Option.map_map]
        refine congrArg (Option.map · _) (funext fun feed => ?_)
        simp
      · simp [heq]

theorem feedsAskedAgain {s : PnlTransport} (h : PnlInv s) (cancelOld : Bool) :
    FeedsAskedAgain cancelOld s (resubscribeAllPnl s cancelOld) := by
  obtain ⟨feeds, -, heq⟩ := h.feeds.resubscribeAllPnl_eq cancelOld
  have hopen : ∀ key ∈ s.registry.keys, s.IsOpen key := fun key hkey => isOpen_of_mem_keys.1 hkey
  have hsize : s.registry.keys.length = s.registry.size := List.length_map _
  refine ⟨?_, ?_, ?_, ?_, ?_⟩
  · rw [heq]
  · exact get?_foldl_resubscribePnl cancelOld s.registry.values s
  · rw [heq]
  · rw [heq, ← hsize]
    exact Requests.next_reissueAll s.requests cancelOld s.transport.socketUp s.registry.keys
  · rw [cancelled_resubscribeAllPnl h.feeds, List.length_append]
    cases cancelOld with
    | false => rfl
    | true => simp [h.feeds.sound.length_currentOf hopen, hsize]

/-! ## Reachable states -/

/-- What a step does to streams and feeds. -/
structure CallingMove (spec : IbConnectionSpec) (s s' : CallingTransport) : Prop where
  market : ∃ l, CallbackMove spec.marketDataLines s.market l s'.market
  pnl : s'.pnl = s.pnl ∨ ∃ l, pnlStep spec s.pnl l = some s'.pnl

theorem callingStep_move {spec : IbConnectionSpec} {s s' : CallingTransport} {l : CallingLabel}
    (hstep : callingStep spec s l = some s') : CallingMove spec s s' := by
  cases l with
  | market l =>
      obtain ⟨c, hc, rfl⟩ := Option.map_eq_some_iff.1 hstep
      have hop : callbackStep spec.marketDataLines ⟨s.market, []⟩ (.op l) = some c := hc
      exact ⟨⟨_, callbackStep_move hop⟩, Or.inl rfl⟩
  | resume =>
      simp only [callingStep, resumeCalls] at hstep
      split at hstep
      · cases hstep
      · rename_i frame stack hstack
        obtain ⟨c, hc, rfl⟩ := Option.map_eq_some_iff.1 hstep
        have hcall : callbackStep spec.marketDataLines ⟨s.market, [frame]⟩ .resume = some c := hc
        exact ⟨⟨_, callbackStep_move hcall⟩, Or.inl rfl⟩
      · cases hstep
        exact ⟨⟨.resume, .same⟩, Or.inl rfl⟩
      · cases hstep
        exact ⟨⟨.resume, .same⟩, Or.inl rfl⟩
  | pnl l =>
      have hother : (pnlStep spec s.pnl l).map (fun pnl => { s with pnl := pnl }) = some s' →
          CallingMove spec s s' := by
        intro hmap
        obtain ⟨pnl, hpnl, rfl⟩ := Option.map_eq_some_iff.1 hmap
        exact ⟨⟨.resume, .same⟩, Or.inr ⟨l, hpnl⟩⟩
      cases l with
      | reports fid report =>
          cases hstep
          exact ⟨⟨.resume, .same⟩, Or.inr ⟨.reports fid report, rfl⟩⟩
      | _ => exact hother hstep

/-- Streams under their keys, their requests listed, no trades stream with a warning, and feeds
that count their users. -/
structure ResubscribeInv (s : CallingTransport) : Prop where
  keyed : KeyedInv s.market.table
  reqIds : ReqIdInv s.market.table
  warnings : TradesUnwarned s.market.table
  pnl : PnlInv s.pnl

theorem resubscribeInv_init (spec : IbConnectionSpec) : ResubscribeInv (.init spec) where
  keyed := keyedInv_init
  reqIds := reqIdInv_init
  warnings := by
    rintro sid ⟨key, hkey⟩
    cases hkey
  pnl := pnlInv_init spec

theorem ResubscribeInv.step {spec : IbConnectionSpec} {s s' : CallingTransport}
    {l : CallingLabel} (h : ResubscribeInv s) (hstep : callingStep spec s l = some s') :
    ResubscribeInv s' := by
  obtain ⟨⟨l, hmarket⟩, hpnl⟩ := callingStep_move hstep
  refine ⟨h.keyed.move hmarket, (h.reqIds.move h.keyed hmarket).inv,
    h.warnings.move h.keyed h.reqIds hmarket, ?_⟩
  rcases hpnl with hsame | ⟨l, hl⟩
  · rw [hsame]
    exact h.pnl
  · exact h.pnl.step hl

theorem resubscribeInv_reachable {spec : IbConnectionSpec} {s : CallingTransport}
    (hreach : (callingMachine spec).Reachable s) : ResubscribeInv s :=
  (callingMachine spec).invariant_reachable (resubscribeInv_init spec)
    (fun _ _ _ h hstep => h.step hstep) hreach

/-! ## After a resubscribe -/

theorem ResubscribeInv.streamsAskedAgain {s : CallingTransport} (h : ResubscribeInv s)
    {cancelOld : Bool} {answers : Nat → IbAnswer}
    (hanswered : ResubscribeAnswered ⟨s.market, []⟩ (.op (.resubscribe cancelOld answers))) :
    StreamsAskedAgain cancelOld answers s.market.table
      (resubscribeAll cancelOld answers s.market.table) := by
  have honly := RequestsOnly.resubscribeAll cancelOld answers s.market.table
  have hmove : CallbackMove 0 s.market (.op (.resubscribe cancelOld answers))
      { s.market with table := resubscribeAll cancelOld answers s.market.table } := .resubscribes
  refine ⟨honly.registry, honly.lines, honly.lasting, honly.others, ?_, ?_, ?_, ?_, ?_, ?_⟩
  · intro kind sid hreg
    simpa [nativeAt] using h.keyed.isSome_streams hreg
  · exact ibCalls_resubscribeAll fun kind sid hreg => (hanswered kind sid hreg).1
  · intro kind sid hreg
    obtain ⟨hraises, hticker⟩ := hanswered kind sid hreg
    have hnew : answeredTicker cancelOld (answers sid) = (answers sid).ticker := by
      cases cancelOld <;> simp_all [answeredTicker]
    rw [tickerOf_resubscribeAll h.keyed hreg, hnew]
    exact ⟨rfl, hticker⟩
  · intro sid ticker
    exact (h.reqIds.move h.keyed hmove).inv.hooks ticker sid
  · intro sid st hreg hst
    have hempty := rowsAt_resubscribeAll cancelOld answers s.market.table sid
    rw [if_pos (List.mem_append_right _ (mem_registry_values.mpr hreg))] at hempty
    have hrows : ∀ side, st.rows side = [] := by
      intro side
      rw [← congrFun hempty side, rowsAt, hst]
      rfl
    exact ⟨hrows .bids, hrows .asks⟩
  · intro kind sid st hreg hst
    have hnone : fieldAt Stream.permissionWarning none
        (resubscribeAll cancelOld answers s.market.table) sid = none := by
      rw [settled_permissionWarning.resubscribeAll fun _ => rfl]
      split_ifs with hreset
      · rfl
      · cases kind with
        | trades => exact h.warnings sid hreg
        | l1 => exact absurd (List.mem_append_left _ (mem_registry_values.mpr hreg)) hreset
        | depth => exact absurd (List.mem_append_right _ (mem_registry_values.mpr hreg)) hreset
    rwa [fieldAt, hst] at hnone

/-- In every reachable state, and whether or not the old requests are cancelled: when IB raises
nothing, a resubscribe changes requests, books, warnings and latest values only, asks for every
registered stream and feed once, and leaves every stream hooked once, to its new ticker. -/
theorem resubscribeAll_transparent {spec : IbConnectionSpec} {s : CallingTransport}
    (hreach : (callingMachine spec).Reachable s) {cancelOld : Bool} {answers : Nat → IbAnswer}
    (hanswered : ResubscribeAnswered ⟨s.market, []⟩ (.op (.resubscribe cancelOld answers))) :
    Transparent cancelOld answers s (s.resubscribeAll cancelOld answers) where
  market := rfl
  streams := (resubscribeInv_reachable hreach).streamsAskedAgain hanswered
  feeds := feedsAskedAgain (resubscribeInv_reachable hreach).pnl cancelOld
  stack := rfl

/-- A depth stream with a row and a warning, a trades stream and an L1 stream of one contract,
and a feed. -/
def sessionOfFour : List CallingLabel :=
  [.pnl (.connection (.base .connect)), .pnl (.connection (.base (.opened 0 ["DU1"] none))),
    .pnl (.connection (.base (.reconciled 0))), .pnl (.connection (.base (.synced 0))),
    .market (.subscribe "depth" (.raw 0) (some 0)),
    .market (.subscribe "trades" (.raw 0) (some 0)), .market (.topOfBook (.raw 0) (some 0)),
    .market (.streamError 0 10090 "partly not subscribed"),
    .market (.depthUpdate 0 [⟨1, 0, 0, .ofNat 100, .ofNat 5⟩]), .resume, .pnl (.subscribePnl 7)]

/-- IB has lost all four and gives each stream a ticker of its own. -/
theorem resubscribeAll_transparent_session :
    ∃ s st, (callingMachine .default).run (callingMachine .default).init sessionOfFour = some s ∧
      s.market.table.mdLines = 3 ∧ s.pnl.registry.size = 1 ∧
      s.market.table.streams.get? 0 = some st ∧ st.permissionWarning.isSome = true ∧
      st.bids.length = 1 ∧
      Transparent true (fun sid => ⟨some (sid + 1), false⟩) s
        (s.resubscribeAll true fun sid => ⟨some (sid + 1), false⟩) := by
  obtain ⟨s, st, hrun, hlines, hsize, hst, hwarned, hbook⟩ :
      ∃ s st, (callingMachine .default).run (callingMachine .default).init sessionOfFour = some s ∧
        s.market.table.mdLines = 3 ∧ s.pnl.registry.size = 1 ∧
        s.market.table.streams.get? 0 = some st ∧ st.permissionWarning.isSome = true ∧
        st.bids.length = 1 := ⟨_, _, rfl, rfl, rfl, rfl, rfl, rfl⟩
  refine ⟨s, st, hrun, hlines, hsize, hst, hwarned, hbook, ?_⟩
  apply resubscribeAll_transparent ⟨_, hrun⟩
  exact fun kind sid _ => ⟨by simp, rfl⟩

end Ib
end MarketConnector
