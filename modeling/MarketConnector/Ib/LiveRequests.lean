import MarketConnector.Ib.RequestRouting

/-!
# Ib - Registered streams without a request

A resubscribe takes every request away before it sends a new one, and logs what IB raises.
A stream that is left without a request stays registered; the calls that want a stream of
its contract join it.

Main results:

- Theorem `tickerOf_resubscribeAll`: the requests after a resubscribe, by IB's answers.
- Theorem `not_issuesRequest`: a call for a registered stream asks IB for nothing.
- Theorem `noDeadStream_iff`: every registered stream has a request, or the next call for it
  issues one, exactly as long as IB answers every request of a resubscribe.
-/

namespace MarketConnector
namespace Ib

open Foundations

/-! ## Streams and calls -/

/-- The stream has a ticker, and its hook is attached to it. -/
def LiveRequest (t : StreamTable) (sid : Nat) : Prop :=
  ∃ ticker, tickerOf t sid = some ticker ∧ (ticker, sid) ∈ t.hooks

/-- Calls that want a stream of the contract. -/
inductive WantsStream (contract : Contract) (ticker : Option Nat) :
    StreamKind → StreamLabel → Prop where
  | topOfBook : WantsStream contract ticker .l1 (.topOfBook contract ticker)
  | depthSnapshot : WantsStream contract ticker .depth (.depthSnapshot contract ticker)
  | depth : WantsStream contract ticker .depth (.subscribe "depth" contract ticker)
  | trades : WantsStream contract ticker .trades (.subscribe "trades" contract ticker)

/-- The call sends a request to IB. -/
def IssuesRequest (cap : Nat) (s : CallbackState) (kind : StreamKind) (l : StreamLabel) : Prop :=
  ∃ s' native, callbackStep cap s (.op l) = some s' ∧
    s'.market.table.ibCalls = s.market.table.ibCalls ++ [.request kind native]

/-- Every registered stream has a live request, or the next call on its contract issues one. -/
def NoDeadStream (cap : Nat) (s : CallbackState) : Prop :=
  ∀ kind key sid, (s.market.table.registry kind).get? key = some sid →
    LiveRequest s.market.table sid ∨
      ∀ contract ticker l, streamKey contract = key → WantsStream contract ticker kind l →
        IssuesRequest cap s kind l

/-- A resubscribe is answered: neither the cancel nor the request of a registered stream
raises. -/
def ResubscribeAnswered (s : CallbackState) : CallbackLabel → Prop
  | .op (.resubscribe cancelOld answers) => ∀ kind sid, Registered s.market.table kind sid →
      ¬ (cancelOld = true ∧ (answers sid).cancelRaises = true) ∧ (answers sid).ticker.isSome = true
  | _ => True

/-! ## Calls that join a stream -/

@[simp]
theorem ibCalls_updateStream (t : StreamTable) (sid : Nat) (f : Stream → Stream) :
    (updateStream t sid f).ibCalls = t.ibCalls := by
  unfold updateStream
  cases t.streams.get? sid <;> rfl

/-- A call that wants a registered stream joins it. -/
theorem ibCalls_of_registered {cap : Nat} {s s' : CallbackState} {kind : StreamKind}
    {contract : Contract} {ticker : Option Nat} {l : StreamLabel} {sid : Nat}
    (hkey : (s.market.table.registry kind).get? (streamKey contract) = some sid)
    (hwants : WantsStream contract ticker kind l)
    (hstep : callbackStep cap s (.op l) = some s') :
    s'.market.table.ibCalls = s.market.table.ibCalls := by
  have hfound : findOrOpen cap s.market.table kind contract ticker =
      (s.market.table, some sid) := by
    simp only [findOrOpen, hkey]
  cases hwants <;> cases hstep <;>
    simp [startSnapshot, subscribe, acquire, acquireDepth, acquireTrades, hfound]

theorem not_issuesRequest {cap : Nat} {s : CallbackState} {kind : StreamKind}
    {contract : Contract} {ticker : Option Nat} {l : StreamLabel} {sid : Nat}
    (hkey : (s.market.table.registry kind).get? (streamKey contract) = some sid)
    (hwants : WantsStream contract ticker kind l) : ¬ IssuesRequest cap s kind l := by
  rintro ⟨s', native, hstep, hcalls⟩
  rw [ibCalls_of_registered hkey hwants hstep] at hcalls
  simp at hcalls

/-- Some call wants the streams of a kind. -/
theorem exists_wantsStream (contract : Contract) (ticker : Option Nat) (kind : StreamKind) :
    ∃ l, WantsStream contract ticker kind l := by
  cases kind with
  | l1 => exact ⟨_, .topOfBook⟩
  | depth => exact ⟨_, .depthSnapshot⟩
  | trades => exact ⟨_, .trades⟩

/-- As calls join registered streams, a stream may not be without a request. -/
theorem noDeadStream_iff_live {cap : Nat} {s : CallbackState} (hkeyed : KeyedInv s.market.table) :
    NoDeadStream cap s ↔
      ∀ kind sid, Registered s.market.table kind sid → LiveRequest s.market.table sid := by
  constructor
  · rintro h kind sid ⟨key, hkey⟩
    refine (h kind key sid hkey).resolve_right fun hissues => ?_
    obtain ⟨stream, -, rfl⟩ := Option.map_eq_some_iff.mp (hkeyed.registered kind key sid hkey)
    obtain ⟨l, hwants⟩ := exists_wantsStream stream.contract none kind
    exact not_issuesRequest hkey hwants (hissues stream.contract none l rfl hwants)
  · exact fun h kind key sid hkey => Or.inl (h kind sid ⟨key, hkey⟩)

/-! ## After a resubscribe -/

/-- Ticker a stream has after it is requested again. -/
def answeredTicker (cancelOld : Bool) (answer : IbAnswer) : Option Nat :=
  if cancelOld && answer.cancelRaises then none else answer.ticker

theorem isSome_answeredTicker (cancelOld : Bool) (answer : IbAnswer) :
    (answeredTicker cancelOld answer).isSome = true ↔
      ¬ (cancelOld = true ∧ answer.cancelRaises = true) ∧ answer.ticker.isSome = true := by
  unfold answeredTicker
  cases cancelOld <;> cases answer.cancelRaises <;> simp

theorem StreamFrame.isSome_streams {t t' : StreamTable} (h : StreamFrame t t') (sid : Nat) :
    (t'.streams.get? sid).isSome = (t.streams.get? sid).isSome := by
  have hkeys := congrArg Option.isSome (h.keys sid)
  rwa [keyOf, keyOf, Option.isSome_map, Option.isSome_map] at hkeys

theorem tickerOf_clear (t : StreamTable) (sid sid' : Nat) :
    tickerOf (updateStream t sid fun s =>
      { s with bids := [], asks := [], permissionWarning := none }) sid' = tickerOf t sid' :=
  (SameRequests.updateStream t sid keepsRequest_reset).tickers sid'

theorem tickerOf_sendCancel (t : StreamTable) (kind : StreamKind) (sid sid' : Nat) :
    tickerOf (sendCancel t kind sid) sid' = tickerOf t sid' :=
  (SameRequests.sendCancel t kind sid).tickers sid'

theorem tickerOf_resubscribeOne {t : StreamTable} {sid : Nat}
    (hsid : (t.streams.get? sid).isSome = true) (kind : StreamKind) (cancelOld : Bool)
    (answer : IbAnswer) (sid' : Nat) :
    tickerOf (resubscribeOne kind cancelOld t sid answer) sid' =
      if sid' = sid then answeredTicker cancelOld answer else tickerOf t sid' := by
  have hunhook := fun kind => (StreamFrame.unhook t kind sid).isSome_streams sid
  have hreset : ∀ t, ((updateStream t sid fun s =>
      { s with bids := [], asks := [], permissionWarning := none }).streams.get? sid).isSome =
        (t.streams.get? sid).isSome :=
    fun t => (StreamFrame.updateStream t sid _ keepsRequest_reset.contract).isSome_streams sid
  unfold resubscribeOne
  dsimp only
  by_cases htrades : kind = .trades <;> cases cancelOld <;> cases hraises : answer.cancelRaises <;>
    simp only [htrades, hraises, if_true, if_false, Bool.false_eq_true, tickerOf_sendRequest,
      tickerOf_sendCancel, tickerOf_clear, tickerOf_unhook, streams_sendCancel, hreset, hunhook,
      hsid, answeredTicker, Bool.and_true, Bool.and_false, true_and] <;>
    (by_cases heq : sid' = sid <;> cases hticker : answer.ticker <;> simp [heq])

/-- Streams requested again one after the other. -/
theorem tickerOf_foldl_resubscribeOne {t : StreamTable} {sids : List Nat}
    (hsids : ∀ sid ∈ sids, (t.streams.get? sid).isSome = true) (kind : StreamKind)
    (cancelOld : Bool) (answers : Nat → IbAnswer) (sid' : Nat) :
    tickerOf (sids.foldl (fun t sid => resubscribeOne kind cancelOld t sid (answers sid)) t) sid' =
      if sid' ∈ sids then answeredTicker cancelOld (answers sid') else tickerOf t sid' := by
  induction sids generalizing t with
  | nil => simp
  | cons sid sids ih =>
      rw [List.forall_mem_cons] at hsids
      rw [List.foldl_cons, ih, tickerOf_resubscribeOne hsids.1]
      · by_cases hmem : sid' ∈ sids
        · simp [hmem]
        · by_cases heq : sid' = sid <;> simp [hmem, heq]
      · intro sid' hsid'
        rw [(StreamFrame.resubscribeOne kind cancelOld t sid (answers sid)).isSome_streams]
        exact hsids.2 sid' hsid'

theorem KeyedInv.isSome_streams {t : StreamTable} (h : KeyedInv t) {kind : StreamKind} {sid : Nat}
    (hreg : Registered t kind sid) : (t.streams.get? sid).isSome = true := by
  obtain ⟨key, hkey⟩ := hreg
  obtain ⟨stream, hstream, -⟩ := Option.map_eq_some_iff.mp (h.registered kind key sid hkey)
  rw [hstream]
  rfl

/-- After a resubscribe a registered stream has the ticker IB answered, or none. -/
theorem tickerOf_resubscribeAll {t : StreamTable} (h : KeyedInv t) {kind : StreamKind} {sid : Nat}
    (hreg : Registered t kind sid) (cancelOld : Bool) (answers : Nat → IbAnswer) :
    tickerOf (resubscribeAll cancelOld answers t) sid =
      answeredTicker cancelOld (answers sid) := by
  -- the stream is still to be requested, or is requested already
  have hkinds : ∀ (kinds : List StreamKind) (t : StreamTable), KeyedInv t →
      ((∃ kind ∈ kinds, Registered t kind sid) ∨
        tickerOf t sid = answeredTicker cancelOld (answers sid)) →
      tickerOf (kinds.foldl (fun t kind => (t.registry kind).values.foldl
        (fun t sid => resubscribeOne kind cancelOld t sid (answers sid)) t) t) sid =
          answeredTicker cancelOld (answers sid) := by
    intro kinds
    induction kinds with
    | nil =>
        intro t _ hdone
        simpa using hdone
    | cons kind kinds ih =>
        intro t hkeyed hdone
        have hstreams : ∀ sid' ∈ (t.registry kind).values,
            (t.streams.get? sid').isSome = true :=
          fun sid' hsid' => hkeyed.isSome_streams (mem_registry_values.mp hsid')
        have hone := tickerOf_foldl_resubscribeOne hstreams kind cancelOld answers sid
        apply ih
        · exact hkeyed.frame (.foldl (fun t sid => .resubscribeOne kind cancelOld t sid _) _ t)
        · simp only [Registered, registry_foldl_resubscribeOne]
          by_cases hmem : sid ∈ (t.registry kind).values
          · rw [if_pos hmem] at hone
            exact Or.inr hone
          · rw [if_neg hmem] at hone
            rw [hone]
            refine hdone.imp_left ?_
            rintro ⟨kind', hkind', hreg'⟩
            rcases List.mem_cons.mp hkind' with rfl | hlater
            · exact absurd (mem_registry_values.mpr hreg') hmem
            · exact ⟨kind', hlater, hreg'⟩
  refine hkinds _ t h (Or.inl ⟨kind, ?_, hreg⟩)
  cases kind <;> simp

/-! ## Every run -/

/-- Streams and requests agree, and registered streams have one. -/
structure ServedInv (s : CallbackState) : Prop extends RoutingInv s where
  live : ∀ kind sid, Registered s.market.table kind sid →
    (tickerOf s.market.table sid).isSome = true

theorem servedInv_init : ServedInv .init where
  toRoutingInv := routingInv_init
  live := by
    rintro kind sid ⟨key, hkey⟩
    cases hkey

/-- A stream with a ticker is hooked to it. -/
theorem RoutingInv.liveRequest_iff {s : CallbackState} (h : RoutingInv s) (sid : Nat) :
    LiveRequest s.market.table sid ↔ (tickerOf s.market.table sid).isSome = true := by
  rw [Option.isSome_iff_exists]
  refine exists_congr fun ticker => and_iff_left_of_imp fun hticker => ?_
  have hcount := h.reqIds.hooks ticker sid
  rw [if_pos hticker] at hcount
  exact List.count_pos_iff.mp (by omega)

/-- A stream is opened with its request, or not at all. -/
theorem live_openStream {cap : Nat} {t : StreamTable} (hkeyed : KeyedInv t)
    (hlive : ∀ kind sid, Registered t kind sid → (tickerOf t sid).isSome = true)
    {kind : StreamKind} {contract : Contract}
    (habsent : (t.registry kind).get? (streamKey contract) = none) (ticker : Option Nat)
    (kind' : StreamKind) (sid : Nat)
    (hreg : Registered (openStream cap t kind contract ticker).1 kind' sid) :
    (tickerOf (openStream cap t kind contract ticker).1 sid).isSome = true := by
  have hadd := SameRequests.addStream hkeyed contract
  have hticker := tickerOf_sendRequest (addStream t contract) kind t.nextStream sid ticker
  have hsome : ((addStream t contract).streams.get? t.nextStream).isSome = true := by
    simp [addStream]
  have hold : ∀ kind'', Registered t kind'' sid →
      (tickerOf (requestNew t kind contract ticker) sid).isSome = true := by
    intro kind'' hreg'
    have hne : sid ≠ t.nextStream := by
      rintro rfl
      exact not_registered_nextStream hkeyed kind'' hreg'
    rw [requestNew, hticker, if_neg (fun hsame => hne hsame.1), hadd.tickers]
    exact hlive kind'' sid hreg'
  rw [openStream_eq] at hreg ⊢
  split_ifs at hreg ⊢ with hcap hanswered
  · exact hlive kind' sid hreg
  · dsimp only at hreg ⊢
    rw [registerNew, (SameRequests.register _ kind (streamKey contract) t.nextStream 1).tickers]
    rcases (registered_registerNew habsent ticker kind' sid).mp hreg with hreg' | ⟨-, rfl⟩
    · exact hold kind' hreg'
    · rwa [requestNew, hticker, if_pos ⟨rfl, hsome, hanswered⟩]
  · simp only [Registered, registry_requestNew] at hreg
    exact hold kind' hreg

theorem live_tableOp {cap : Nat} {t t' : StreamTable} (hkeyed : KeyedInv t) (hreqIds : ReqIdInv t)
    (hlive : ∀ kind sid, Registered t kind sid → (tickerOf t sid).isSome = true)
    (hop : TableOp cap t t') :
    ∀ kind sid, Registered t' kind sid → (tickerOf t' sid).isSome = true := by
  cases hop with
  | updates sid hf =>
      intro kind sid' hreg
      rw [(SameRequests.updateStream t sid hf).tickers]
      simp only [Registered, registry_updateStream] at hreg
      exact hlive kind sid' hreg
  | @drops kind sid hreg =>
      intro kind' sid' hreg'
      obtain ⟨hold, hother⟩ := (registered_dropOf hkeyed kind kind' sid sid').mp hreg'
      have hne : sid' ≠ sid := by
        rintro rfl
        exact hother ⟨hreqIds.kinds sid' kind' kind hold hreg, rfl⟩
      obtain ⟨t'', hbefore, hafter⟩ := exists_dropOf hkeyed hreg
      rw [hafter.tickers, tickerOf_unhook, if_neg hne, hbefore.tickers]
      exact hlive kind' sid' hold
  | opens kind ticker habsent => exact live_openStream hkeyed hlive habsent ticker

/-- A step other than a resubscribe leaves registered streams with their requests. -/
theorem ServedInv.other {cap : Nat} {s s' : CallbackState} {l : CallbackLabel} (h : ServedInv s)
    (hother : ¬ IsResubscribe l) (hstep : callbackStep cap s l = some s') : ServedInv s' where
  toRoutingInv := h.toRoutingInv.step hstep
  live := by
    have hrun := tableRun_move h.keyed (callbackStep_move hstep) hother
    refine (hrun.invariant (P := fun t => ReqIdInv t ∧ ∀ kind sid, Registered t kind sid →
      (tickerOf t sid).isSome = true) ?_ h.keyed ⟨h.reqIds, h.live⟩).2.2
    intro t t' hkeyed hlive hop
    exact ⟨(hlive.1.tableOp hkeyed hop).inv, live_tableOp hkeyed hlive.1 hlive.2 hop⟩

/-- After a resubscribe exactly the streams it was answered for have a request. -/
theorem ServedInv.resubscribed {cap : Nat} {s s' : CallbackState} {cancelOld : Bool}
    {answers : Nat → IbAnswer} (h : ServedInv s)
    (hstep : callbackStep cap s (.op (.resubscribe cancelOld answers)) = some s')
    (kind : StreamKind) (sid : Nat) :
    (Registered s'.market.table kind sid ↔ Registered s.market.table kind sid) ∧
      (Registered s.market.table kind sid → ((tickerOf s'.market.table sid).isSome = true ↔
        ¬ (cancelOld = true ∧ (answers sid).cancelRaises = true) ∧
          (answers sid).ticker.isSome = true)) := by
  cases hstep
  refine ⟨(UseSame.resubscribeAll cancelOld answers s.market.table).registered kind sid,
    fun hreg => ?_⟩
  rw [← isSome_answeredTicker]
  have hticker := tickerOf_resubscribeAll h.keyed hreg cancelOld answers
  exact Bool.eq_iff_iff.mp (congrArg Option.isSome hticker)

theorem ServedInv.step {cap : Nat} {s s' : CallbackState} {l : CallbackLabel} (h : ServedInv s)
    (hanswered : ResubscribeAnswered s l) (hstep : callbackStep cap s l = some s') :
    ServedInv s' := by
  by_cases hother : IsResubscribe l
  · obtain ⟨cancelOld, answers, rfl⟩ := hother
    refine ⟨h.toRoutingInv.step hstep, fun kind sid hreg => ?_⟩
    obtain ⟨hregistered, hlive⟩ := h.resubscribed hstep kind sid
    have hreg' := hregistered.mp hreg
    exact (hlive hreg').mpr (hanswered kind sid hreg')
  · exact h.other hother hstep

/-- A step that leaves no dead stream was answered. -/
theorem ServedInv.answered {cap : Nat} {s s' : CallbackState} {l : CallbackLabel} (h : ServedInv s)
    (hstep : callbackStep cap s l = some s') (hlive : NoDeadStream cap s') :
    ResubscribeAnswered s l := by
  by_cases hother : IsResubscribe l
  · obtain ⟨cancelOld, answers, rfl⟩ := hother
    intro kind sid hreg
    have hafter := h.toRoutingInv.step hstep
    obtain ⟨hregistered, hanswer⟩ := h.resubscribed hstep kind sid
    rw [← hanswer hreg, ← hafter.liveRequest_iff]
    exact (noDeadStream_iff_live hafter.keyed).mp hlive kind sid (hregistered.mpr hreg)
  · cases l with
    | resume => trivial
    | op l =>
        cases l with
        | resubscribe cancelOld answers => exact absurd ⟨cancelOld, answers, rfl⟩ hother
        | _ => trivial

/-- No run leaves a dead stream as long as IB answers its resubscribes, and only then. -/
theorem noDeadStream_iff (spec : IbConnectionSpec) (ls : List CallbackLabel) :
    (callbackMachine spec).AllStates (NoDeadStream spec.marketDataLines) .init ls ↔
      (callbackMachine spec).AllSteps ResubscribeAnswered .init ls := by
  have hkept : ∀ s l s', ServedInv s → ResubscribeAnswered s l →
      (callbackMachine spec).step s l = some s' → ServedInv s' :=
    fun s l s' h hanswered hstep => h.step hanswered hstep
  apply Machine.allStates_iff_allSteps _ hkept _ _ servedInv_init
  · intro s h
    rw [noDeadStream_iff_live h.keyed]
    exact fun kind sid hreg => (h.liveRequest_iff sid).mpr (h.live kind sid hreg)
  · exact fun s l s' h hstep hlive => h.answered hstep hlive

/-! ## A request that raises -/

/-- A trades stream whose request raises in a resubscribe after a reconnect: it holds its
line, and the next subscriber joins it without a request. -/
theorem raised_request_leaves_dead_stream :
    ∃ s, (callbackMachine .default).run .init
        [.op (.subscribe "trades" (.raw 0) (some 0)),
          .op (.resubscribe false fun _ => ⟨none, false⟩)] = some s ∧
      s.market.table.mdLines = 1 ∧
      ¬ NoDeadStream IbConnectionSpec.default.marketDataLines s := by
  refine ⟨_, rfl, rfl, fun h => ?_⟩
  rcases h .trades (.object (.raw 0)) 0 rfl with ⟨ticker, hticker, -⟩ | hissues
  · cases hticker
  · exact not_issuesRequest rfl .trades (hissues (.raw 0) none _ rfl .trades)

end Ib
end MarketConnector
