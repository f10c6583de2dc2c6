import MarketConnector.Ib.Streams

/-!
# Ib - Callbacks that call the transport

A fan-out calls user code: the handlers of an update, the `on_error` callbacks of a failed
stream.  That code may subscribe, close handles or resubscribe before the fan-out goes on
with the rest of the list it copied.  A stack holds what is left of the fan-outs under way,
the innermost first; between two of its calls any operation may happen.

Main results:

- Definition `callbackMachine`: streams and subscriptions with such callbacks.
- Theorem `callbackStep_move`: what one step can do.
- Theorem `callbackMachine_simulates`: callbacks that only return give the steps of
  `streamMachine`.
-/

namespace MarketConnector
namespace Ib

open Foundations

/-! ## Fan-outs under way -/

/-- What is left of a fan-out: publishes on the bus, or fail callbacks of the subscribers of
a failed stream. -/
inductive FanOutFrame where
  | publishing (left : List Delivery)
  | failing (exc : StreamError) (left : List Nat)

structure CallbackState where
  market : MarketData
  stack : List FanOutFrame

def CallbackState.init : CallbackState :=
  ⟨.init, []⟩

inductive CallbackLabel where
  /-- an event, or a call that a callback makes -/
  | op (l : StreamLabel)
  /-- the innermost fan-out makes its next call, or ends -/
  | resume

/-- The publishes of a fan-out: the selected subscriptions in the order they were made. -/
def publishes (subs : Subscribers) (selects : ActiveSubscription → Bool)
    (payloads : List Payload) : List Delivery :=
  subs.subscriptions.entries.flatMap fun entry =>
    if selects entry.2 then payloads.map fun payload => ⟨entry.1, payload⟩ else []

/-- Subscribers of a stream. -/
def subscribersOf (t : StreamTable) (sid : Nat) : List Nat :=
  ((t.streams.get? sid).map Stream.subscribers).getD []

def clearSubscribers (s : MarketData) (sid : Nat) : MarketData :=
  { s with table := updateStream s.table sid fun st => { st with subscribers := [] } }

/-- Apply the rows of an update to the book of a depth stream. -/
def applyTicks (s : MarketData) (sid : Nat) (ticks : List DepthTick) : MarketData :=
  { s with table := updateStream s.table sid fun st => ticks.foldl applyDepthTick st }

/-- `_drop_stream` of a stream that is registered. -/
def dropRegistered (s : MarketData) (kind : StreamKind) (sid : Nat) : MarketData :=
  if isRegistered s.table kind sid then { s with table := dropStream s.table kind sid } else s

/-- Dropping a stream works on the stream table only. -/
theorem dropRegistered_eq (s : MarketData) (kind : StreamKind) (sid : Nat) :
    dropRegistered s kind sid = { s with table := (dropRegistered s kind sid).table } := by
  unfold dropRegistered
  split_ifs <;> rfl

theorem StreamFrame.dropRegistered (s : MarketData) (kind : StreamKind) (sid : Nat) :
    StreamFrame s.table (dropRegistered s kind sid).table := by
  unfold Ib.dropRegistered
  split_ifs
  · exact .dropStream _ _ _
  · exact .refl _

/-- At the deadline the stream of a snapshot stays, or is dropped if it is registered. -/
theorem dropAtDeadline_eq (s : MarketData) (snapshot : Snapshot) (timedOut : Bool) :
    dropAtDeadline s snapshot timedOut = s ∨
      dropAtDeadline s snapshot timedOut =
        dropRegistered s (if snapshot.depth then .depth else .l1) snapshot.stream := by
  unfold dropAtDeadline
  split
  · rename_i st _
    by_cases hdrops : (timedOut && st.permissionWarning.isSome && decide (st.refs ≤ 1)) = true
    · rw [if_pos hdrops]
      exact Or.inr rfl
    · rw [if_neg hdrops]
      exact Or.inl rfl
  · exact Or.inl rfl

/-- `_on_stream_error` up to the fail callbacks: the stream to fail is dropped, and named
with its error. -/
def dropFailed (s : MarketData) (reqId code : Int) (message : String) :
    MarketData × Option (Nat × StreamError) :=
  if reqId < 0 then (s, none)
  else
    match s.table.tradesByReqId.get? reqId.toNat with
    | some sid =>
        match hardError code message with
        | none => (s, none)
        | some exc => ({ s with table := dropTrades s.table sid }, some (sid, exc))
    | none =>
        match s.table.streamByReqId.get? reqId.toNat with
        | none => (s, none)
        | some (sid, depth) =>
            match hardError code message with
            | some exc => (dropRegistered s (if depth then .depth else .l1) sid, some (sid, exc))
            | none =>
                if code ∈ softPermissionCodes then
                  ({ s with table := updateStream s.table sid fun st =>
                    { st with permissionWarning := some (code, message) } }, none)
                else (s, none)

/-! ## Steps -/

/-- A fan-out begins: none of its calls is made yet. -/
def beginFanOut (s : CallbackState) (market : MarketData) (frame : FanOutFrame) : CallbackState :=
  ⟨market, frame :: s.stack⟩

/-- An operation.  Those with a fan-out do all that comes before it. -/
def opStep (cap : Nat) (s : CallbackState) : StreamLabel → Option CallbackState
  | .streamError reqId code message =>
      match dropFailed s.market reqId code message with
      | (market, none) => some { s with market := market }
      | (market, some (sid, exc)) =>
          some (beginFanOut s (clearSubscribers market sid)
            (.failing exc (subscribersOf market.table sid)))
  | .tradesUpdate sid ticks =>
      match keyOf s.market.table sid with
      | none => none
      | some key =>
          if isHooked s.market.table sid then
            some (beginFanOut s s.market (.publishing (publishes s.market.subs
              (fun sub => sub.channel = .trades && streamKey sub.contract = key)
              (ticks.map .tick))))
          else none
  | .depthUpdate sid ticks =>
      match keyOf s.market.table sid with
      | none => none
      | some key =>
          if isHooked s.market.table sid then
            match (s.market.table.registry .depth).get? key with
            | none => some s
            | some current =>
                let market := applyTicks s.market current ticks
                match market.table.streams.get? current with
                | none => some s
                | some stream =>
                    some (beginFanOut s market (.publishing (publishes market.subs
                      (fun sub => sub.channel = .depth && sub.contract = stream.contract)
                      [.book stream.bids stream.asks])))
          else none
  | .subscribe channel contract ticker =>
      (streamStep cap s.market (.subscribe channel contract ticker)).map (⟨·, s.stack⟩)
  | .close id loop => (streamStep cap s.market (.close id loop)).map (⟨·, s.stack⟩)
  | .topOfBook contract ticker =>
      (streamStep cap s.market (.topOfBook contract ticker)).map (⟨·, s.stack⟩)
  | .depthSnapshot contract ticker =>
      (streamStep cap s.market (.depthSnapshot contract ticker)).map (⟨·, s.stack⟩)
  | .snapshotEnds id timedOut =>
      (streamStep cap s.market (.snapshotEnds id timedOut)).map (⟨·, s.stack⟩)
  | .resubscribe cancelOld answers =>
      (streamStep cap s.market (.resubscribe cancelOld answers)).map (⟨·, s.stack⟩)
  | .depthReset => (streamStep cap s.market .depthReset).map (⟨·, s.stack⟩)
  | .idleExpires sid => (streamStep cap s.market (.idleExpires sid)).map (⟨·, s.stack⟩)
  | .releaseAll => (streamStep cap s.market .releaseAll).map (⟨·, s.stack⟩)

/-- The next call of the innermost fan-out. -/
def resumeStep (s : CallbackState) : Option CallbackState :=
  match s.stack with
  | [] => none
  | .publishing [] :: stack => some { s with stack := stack }
  | .publishing (d :: left) :: stack =>
      some ⟨{ s.market with
        delivered := s.market.delivered ++ publish s.market.subs d.subscription d.payload },
        .publishing left :: stack⟩
  | .failing _ [] :: stack => some { s with stack := stack }
  | .failing exc (id :: left) :: stack =>
      some ⟨failHandle exc s.market id, .failing exc left :: stack⟩

def callbackStep (cap : Nat) (s : CallbackState) : CallbackLabel → Option CallbackState
  | .op l => opStep cap s l
  | .resume => resumeStep s

/-- Streams and subscriptions of a transport whose callbacks may call it. -/
def callbackMachine (spec : IbConnectionSpec) : Machine CallbackState CallbackLabel where
  init := .init
  step := callbackStep spec.marketDataLines

/-! ## What a step does -/

/-- What a step does to streams and subscriptions. -/
inductive CallbackMove (cap : Nat) (s : MarketData) : CallbackLabel → MarketData → Prop where
  | same {l : CallbackLabel} : CallbackMove cap s l s
  | subscribes {name : String} {channel : Channel} {contract : Contract} {ticker : Option Nat} :
      CallbackMove cap s (.op (.subscribe name contract ticker))
        (subscribe cap s channel contract ticker)
  | closes {id : Nat} {loop : Bool} :
      CallbackMove cap s (.op (.close id loop)) (closeHandle s id loop)
  | topOfBook {contract : Contract} {ticker : Option Nat} :
      CallbackMove cap s (.op (.topOfBook contract ticker))
        (startSnapshot cap s false contract ticker)
  | depthSnapshot {contract : Contract} {ticker : Option Nat} :
      CallbackMove cap s (.op (.depthSnapshot contract ticker))
        (startSnapshot cap s true contract ticker)
  | snapshotEnds {id : Nat} {timedOut : Bool} {snapshot : Snapshot}
      (hid : s.snapshots.get? id = some snapshot) :
      CallbackMove cap s (.op (.snapshotEnds id timedOut)) (endSnapshot s id snapshot timedOut)
  | resubscribes {cancelOld : Bool} {answers : Nat → IbAnswer} :
      CallbackMove cap s (.op (.resubscribe cancelOld answers))
        { s with table := resubscribeAll cancelOld answers s.table }
  | depthReset :
      CallbackMove cap s (.op .depthReset) { s with table := clearDepthBooks s.table }
  | idleExpires {sid : Nat} {st : Stream} (hsid : s.table.streams.get? sid = some st)
      (hidle : st.idle = true) :
      CallbackMove cap s (.op (.idleExpires sid)) { s with table := idleExpired s.table sid }
  | releaseAll :
      CallbackMove cap s (.op .releaseAll) { s with table := releaseAll s.table }
  | routed {reqId code : Int} {message : String}
      (hnone : (dropFailed s reqId code message).2 = none) :
      CallbackMove cap s (.op (.streamError reqId code message))
        (dropFailed s reqId code message).1
  | fails {reqId code : Int} {message : String} {sid : Nat} {exc : StreamError}
      (hsome : (dropFailed s reqId code message).2 = some (sid, exc)) :
      CallbackMove cap s (.op (.streamError reqId code message))
        (clearSubscribers (dropFailed s reqId code message).1 sid)
  | depthUpdate {sid current : Nat} {ticks : List DepthTick} :
      CallbackMove cap s (.op (.depthUpdate sid ticks)) (applyTicks s current ticks)
  | publishes {d : Delivery} :
      CallbackMove cap s .resume
        { s with delivered := s.delivered ++ publish s.subs d.subscription d.payload }
  | notifies {exc : StreamError} {id : Nat} :
      CallbackMove cap s .resume (failHandle exc s id)

/-- Every step is a move. -/
theorem callbackStep_move {cap : Nat} {s s' : CallbackState} {l : CallbackLabel}
    (hstep : callbackStep cap s l = some s') : CallbackMove cap s.market l s'.market := by
  cases l with
  | resume =>
      simp only [callbackStep, resumeStep] at hstep
      split at hstep <;> cases hstep
      · exact .same
      · exact .publishes
      · exact .same
      · exact .notifies
  | op l =>
      cases l with
      | subscribe name contract ticker =>
          simp only [callbackStep, opStep, streamStep] at hstep
          split at hstep <;> cases hstep
          · exact .same
          · exact .subscribes
      | close id loop =>
          cases hstep
          exact .closes
      | topOfBook contract ticker =>
          cases hstep
          exact .topOfBook
      | depthSnapshot contract ticker =>
          cases hstep
          exact .depthSnapshot
      | snapshotEnds id timedOut =>
          simp only [callbackStep, opStep, streamStep, Option.map_map] at hstep
          obtain ⟨snapshot, hid, rfl⟩ := Option.map_eq_some_iff.1 hstep
          exact .snapshotEnds hid
      | resubscribe cancelOld answers =>
          cases hstep
          exact .resubscribes
      | depthReset =>
          cases hstep
          exact .depthReset
      | idleExpires sid =>
          simp only [callbackStep, opStep, streamStep] at hstep
          split at hstep
          · rename_i st hsid
            split_ifs at hstep with hidle
            · cases hstep
              exact .idleExpires hsid hidle
            · cases hstep
          · cases hstep
      | releaseAll =>
          cases hstep
          exact .releaseAll
      | streamError reqId code message =>
          simp only [callbackStep, opStep] at hstep
          split at hstep <;> cases hstep
          · rename_i market heq
            have hnone : (dropFailed s.market reqId code message).2 = none := by rw [heq]
            have hmove : CallbackMove cap s.market _ _ := .routed hnone
            rw [heq] at hmove
            exact hmove
          · rename_i market sid exc heq
            have hsome : (dropFailed s.market reqId code message).2 = some (sid, exc) := by
              rw [heq]
            have hmove : CallbackMove cap s.market _ _ := .fails hsome
            rw [heq] at hmove
            exact hmove
      | tradesUpdate sid ticks =>
          simp only [callbackStep, opStep] at hstep
          split at hstep
          · cases hstep
          · split_ifs at hstep
            cases hstep
            exact .same
      | depthUpdate sid ticks =>
          simp only [callbackStep, opStep] at hstep
          split at hstep
          · cases hstep
          · split_ifs at hstep
            split at hstep
            · cases hstep
              exact .same
            · split at hstep <;> cases hstep
              · exact .same
              · exact .depthUpdate

/-! ## Callbacks that only return -/

variable (spec : IbConnectionSpec)

theorem run_failing (exc : StreamError) (left : List Nat) (market : MarketData)
    (stack : List FanOutFrame) :
    (callbackMachine spec).run ⟨market, .failing exc left :: stack⟩
        (List.replicate (left.length + 1) .resume) =
      some ⟨left.foldl (failHandle exc) market, stack⟩ := by
  induction left generalizing market with
  | nil => rfl
  | cons id left ih => exact ih _

theorem run_publishing (left : List Delivery) (market : MarketData)
    (stack : List FanOutFrame) :
    (callbackMachine spec).run ⟨market, .publishing left :: stack⟩
        (List.replicate (left.length + 1) .resume) =
      some ⟨{ market with
        delivered := market.delivered ++
          left.flatMap (fun d => publish market.subs d.subscription d.payload) }, stack⟩ := by
  induction left generalizing market with
  | nil =>
      simp only [List.flatMap_nil, List.append_nil]
      rfl
  | cons d left ih =>
      have hrest := ih { market with
        delivered := market.delivered ++ publish market.subs d.subscription d.payload }
      rw [List.append_assoc] at hrest
      exact hrest

/-- The publishes of a fan-out, made one after the other, are its dispatch. -/
theorem flatMap_publishes (subs : Subscribers) (selects : ActiveSubscription → Bool)
    (payloads : List Payload) :
    (publishes subs selects payloads).flatMap (fun d => publish subs d.subscription d.payload) =
      dispatch subs selects payloads := by
  unfold publishes dispatch
  rw [List.flatMap_assoc]
  refine List.flatMap_congr fun entry _ => ?_
  split_ifs
  · exact List.flatMap_map _ _ _
  · rfl

/-- An error that is routed to a stream drops it and fails its subscribers. -/
theorem onStreamError_eq (s : MarketData) (reqId code : Int) (message : String) :
    onStreamError s reqId code message =
      match dropFailed s reqId code message with
      | (s', none) => s'
      | (s', some (sid, exc)) => failSubscribers s' sid exc := by
  unfold onStreamError dropFailed
  by_cases hnegative : reqId < 0
  · simp only [if_pos hnegative]
  · simp only [if_neg hnegative]
    cases s.table.tradesByReqId.get? reqId.toNat with
    | some sid => cases hardError code message <;> rfl
    | none =>
        cases s.table.streamByReqId.get? reqId.toNat with
        | none => rfl
        | some entry =>
            cases hardError code message with
            | some exc => rfl
            | none =>
                by_cases hsoft : code ∈ softPermissionCodes
                · simp only [if_pos hsoft]
                · simp only [if_neg hsoft]

/-- The operation, then as many calls as its fan-out has, lead to a state. -/
def RunsTo (s : MarketData) (stack : List FanOutFrame) (l : StreamLabel) (s' : MarketData) :
    Prop :=
  ∃ n, (callbackMachine spec).run ⟨s, stack⟩ (.op l :: List.replicate n .resume) =
    some ⟨s', stack⟩

variable {spec} {s s' : MarketData} {l : StreamLabel} {stack : List FanOutFrame}

/-- An operation without a fan-out. -/
theorem RunsTo.of_quiet
    (hop : callbackStep spec.marketDataLines ⟨s, stack⟩ (.op l) = some ⟨s', stack⟩) :
    RunsTo spec s stack l s' :=
  ⟨0, (Machine.run_cons_eq_some _).2 ⟨_, hop, rfl⟩⟩

theorem RunsTo.of_streamStep (hstep : streamStep spec.marketDataLines s l = some s')
    (hop : callbackStep spec.marketDataLines ⟨s, stack⟩ (.op l) =
      (streamStep spec.marketDataLines s l).map (⟨·, stack⟩)) : RunsTo spec s stack l s' := by
  rw [hstep] at hop
  exact .of_quiet hop

/-- An operation that begins a fan-out. -/
theorem RunsTo.of_fanOut {market : MarketData} {frame : FanOutFrame} {n : Nat}
    (hop : callbackStep spec.marketDataLines ⟨s, stack⟩ (.op l) =
      some ⟨market, frame :: stack⟩)
    (hrun : (callbackMachine spec).run ⟨market, frame :: stack⟩ (List.replicate n .resume) =
      some ⟨s', stack⟩) : RunsTo spec s stack l s' :=
  ⟨_, (Machine.run_cons_eq_some _).2 ⟨_, hop, hrun⟩⟩

/-- The publishes of an operation, made one after the other. -/
theorem RunsTo.of_publishes {market : MarketData} {selects : ActiveSubscription → Bool}
    {payloads : List Payload}
    (hop : callbackStep spec.marketDataLines ⟨s, stack⟩ (.op l) =
      some (beginFanOut ⟨s, stack⟩ market (.publishing (publishes market.subs selects payloads)))) :
    RunsTo spec s stack l { market with
      delivered := market.delivered ++ dispatch market.subs selects payloads } := by
  have hrun := run_publishing spec (publishes market.subs selects payloads) market stack
  rw [flatMap_publishes] at hrun
  exact .of_fanOut hop hrun

theorem runsTo_streamError (reqId code : Int) (message : String) :
    RunsTo spec s stack (.streamError reqId code message)
      (onStreamError s reqId code message) := by
  rw [onStreamError_eq]
  rcases hdrop : dropFailed s reqId code message with ⟨market, none | ⟨sid, exc⟩⟩
  · apply RunsTo.of_quiet
    simp only [callbackStep, opStep, hdrop]
  · refine .of_fanOut ?_ (run_failing spec exc (subscribersOf market.table sid)
      (clearSubscribers market sid) stack)
    simp only [callbackStep, opStep, hdrop, beginFanOut]

theorem runsTo_tradesUpdate {sid : Nat} {ticks : List Nat}
    (hstep : streamStep spec.marketDataLines s (.tradesUpdate sid ticks) = some s') :
    RunsTo spec s stack (.tradesUpdate sid ticks) s' := by
  simp only [streamStep] at hstep
  split at hstep
  · cases hstep
  · rename_i key hkey
    split_ifs at hstep with hhooked
    cases hstep
    apply RunsTo.of_publishes
    simp only [callbackStep, opStep, hkey, hhooked, if_true]

theorem runsTo_depthUpdate {sid : Nat} {ticks : List DepthTick}
    (hstep : streamStep spec.marketDataLines s (.depthUpdate sid ticks) = some s') :
    RunsTo spec s stack (.depthUpdate sid ticks) s' := by
  simp only [streamStep] at hstep
  split at hstep
  · cases hstep
  · rename_i key hkey
    split_ifs at hstep with hhooked
    split at hstep
    · rename_i current hcurrent
      simp only [onDepthUpdate] at hstep
      split at hstep
      · rename_i hnone
        cases hstep
        apply RunsTo.of_quiet
        simp only [callbackStep, opStep, hkey, hhooked, if_true, hcurrent, applyTicks, hnone]
      · rename_i stream hstream
        cases hstep
        have hop : callbackStep spec.marketDataLines ⟨s, stack⟩ (.op (.depthUpdate sid ticks)) =
            some (beginFanOut ⟨s, stack⟩ (applyTicks s current ticks) (.publishing
              (publishes s.subs (fun sub => sub.channel = .depth && sub.contract = stream.contract)
                [.book stream.bids stream.asks]))) := by
          simp only [callbackStep, opStep, hkey, hhooked, if_true, hcurrent, applyTicks, hstream]
        exact .of_publishes hop
    · rename_i hcurrent
      cases hstep
      apply RunsTo.of_quiet
      simp only [callbackStep, opStep, hkey, hhooked, if_true, hcurrent]

variable (spec)

/-- An operation that is followed by the calls of its fan-out, none of which calls back, is
the step of `streamMachine`. -/
theorem callbackMachine_simulates {s s' : MarketData} {l : StreamLabel}
    (hstep : (streamMachine spec).step s l = some s') (stack : List FanOutFrame) :
    ∃ n, (callbackMachine spec).run ⟨s, stack⟩ (.op l :: List.replicate n .resume) =
      some ⟨s', stack⟩ := by
  cases l with
  | streamError reqId code message =>
      cases hstep
      exact runsTo_streamError reqId code message
  | tradesUpdate sid ticks => exact runsTo_tradesUpdate hstep
  | depthUpdate sid ticks => exact runsTo_depthUpdate hstep
  | subscribe channel contract ticker => exact RunsTo.of_streamStep hstep rfl
  | close id loop => exact RunsTo.of_streamStep hstep rfl
  | topOfBook contract ticker => exact RunsTo.of_streamStep hstep rfl
  | depthSnapshot contract ticker => exact RunsTo.of_streamStep hstep rfl
  | snapshotEnds id timedOut => exact RunsTo.of_streamStep hstep rfl
  | resubscribe cancelOld answers => exact RunsTo.of_streamStep hstep rfl
  | depthReset => exact RunsTo.of_streamStep hstep rfl
  | idleExpires sid => exact RunsTo.of_streamStep hstep rfl
  | releaseAll => exact RunsTo.of_streamStep hstep rfl

end Ib
end MarketConnector
