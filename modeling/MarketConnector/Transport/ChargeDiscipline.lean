import MarketConnector.Transport.SignedRequests

/-!
# Transport - Charges of a request

A call reserves its weight before it signs.  The charge is to stand when the call sends
something, and to be given back when it does not.

Main results:

- Definition `ChargeDiscipline`: what a call may leave of its charge.
- Theorem `request_chargeDiscipline_iff`: the calls that keep to it.
-/

namespace MarketConnector
namespace Transport

open Foundations Auth

variable {L Charge : Type}

/-! ## Charging actions -/

/-- Actions that change the tokens. -/
def Action.charging : Action → Bool
  | .reserve _ _ _ => true
  | .refund => true
  | _ => false

def chargingActions (actions : List Action) : List Action :=
  actions.filter Action.charging

@[simp]
theorem chargingActions_append (as bs : List Action) :
    chargingActions (as ++ bs) = chargingActions as ++ chargingActions bs :=
  List.filter_append ..

/-- The state after the limit of a call is chosen, and before anything is charged. -/
def limitChosen (env : Env L Charge) (client : Client) (args : CallArgs) (st : CallState L) :
    CallState L :=
  match client.endpoints.get? args.endpointName with
  | none => st
  | some endpoint =>
      match resolvePath env.reprText endpoint args.pathParams with
      | .error _ => st
      | .ok _ => (chosenLimit env args endpoint st).1

/-- Nothing is charged: there is no reservation, or it is refunded. -/
structure Unspent (env : Env L Charge) (client : Client) (args : CallArgs)
    (st after : CallState L) : Prop where
  limiter_eq : after.limiter = (limitChosen env client args st).limiter
  actions_eq : chargingActions after.actions = chargingActions st.actions ∨
    ∃ limitId weights, chargingActions after.actions =
      chargingActions st.actions ++ [.reserve limitId weights args.pools, .refund]

/-- The weight of the call is charged once. -/
structure SpentOnce (env : Env L Charge) (client : Client) (args : CallArgs)
    (st after : CallState L) : Prop where
  charged : ∃ endpoint resolvedPath limitId charge st',
    Charged env client args st endpoint resolvedPath limitId charge st' ∧
    chargingActions after.actions = chargingActions st.actions ++
      [.reserve limitId (chargedWeights args endpoint limitId) args.pools] ∧
    (after.limiter = st'.limiter ∨ ∃ retryAfter,
      after.limiter = env.limiter.reportThrottled st'.limiter limitId retryAfter)

/-- A call that sends nothing is not charged, and one that sends is charged once. -/
structure ChargeDiscipline (env : Env L Charge) (client : Client) (args : CallArgs)
    (st : CallState L) : Prop where
  unsent : sentCalls (request env client args st).1.actions = sentCalls st.actions →
    Unspent env client args st (request env client args st).1
  sent : sentCalls (request env client args st).1.actions ≠ sentCalls st.actions →
    SpentOnce env client args st (request env client args st).1

/-! ## What the parts of a call charge -/

theorem chosenLimit_charging (env : Env L Charge) (args : CallArgs) (endpoint : Endpoint)
    (st : CallState L) :
    chargingActions (chosenLimit env args endpoint st).1.actions = chargingActions st.actions := by
  unfold chosenLimit registerLimit
  cases args.limitId with
  | some limitId =>
      dsimp only
      split_ifs <;> rfl
  | none =>
      dsimp only
      split_ifs
      · rfl
      · rfl
      · cases env.limiter.addLimit st.limiter (endpoint.method ++ ":" ++ endpoint.path)
          endpoint.limit endpoint.window with
        | error e => rfl
        | ok limiter => simp [chargingActions, Action.charging]

/-- Attempts are not charged. -/
theorem sendLoop_charging (env : Env L Charge) (client : Client) (args : CallArgs)
    (endpoint : Endpoint) (limitId : String) (call : HttpCall) (remaining attempt : Nat)
    (st : CallState L) :
    chargingActions
          (sendLoop env client args endpoint limitId call remaining attempt st).1.actions =
        chargingActions st.actions ∧
      ((sendLoop env client args endpoint limitId call remaining attempt st).1.limiter =
          st.limiter ∨
        ∃ retryAfter,
          (sendLoop env client args endpoint limitId call remaining attempt st).1.limiter =
            env.limiter.reportThrottled st.limiter limitId retryAfter) := by
  induction remaining generalizing attempt st with
  | zero => exact ⟨rfl, Or.inl rfl⟩
  | succ remaining ih =>
      have hsend : chargingActions (st.act (.send call)).actions = chargingActions st.actions := by
        simp [chargingActions, Action.charging]
      unfold sendLoop
      cases env.reply attempt call with
      | cancelled => exact ⟨hsend, Or.inl rfl⟩
      | raised e => exact ⟨hsend, Or.inl rfl⟩
      | returned reply =>
          dsimp only
          split_ifs
          · exact ⟨hsend, Or.inl rfl⟩
          · refine ⟨?_, Or.inr ⟨_, rfl⟩⟩
            simp [chargingActions, Action.charging]
          · exact ⟨hsend, Or.inl rfl⟩
          · have hsleep : chargingActions ((st.act (.send call)).act
                (.sleep (client.retryDelay * 2 ^ attempt))).actions =
                  chargingActions st.actions := by
              simp [chargingActions, Action.charging]
            cases env.sleep attempt with
            | cancelled => exact ⟨hsleep, Or.inl rfl⟩
            | raised e => exact ⟨hsleep, Or.inl rfl⟩
            | returned _ =>
                obtain ⟨hactions, hlimiter⟩ := ih (attempt + 1) ((st.act (.send call)).act
                  (.sleep (client.retryDelay * 2 ^ attempt)))
                exact ⟨hactions.trans hsleep, hlimiter⟩
          · cases decodeBody reply with
            | error e => exact ⟨hsend, Or.inl rfl⟩
            | ok body => exact ⟨hsend, Or.inl rfl⟩

/-- A call that gets no reservation charges nothing. -/
theorem request_unspent_of_not_charged {env : Env L Charge} {client : Client} {args : CallArgs}
    {st : CallState L}
    (h : ∀ endpoint resolvedPath limitId charge st',
      ¬ Charged env client args st endpoint resolvedPath limitId charge st') :
    Unspent env client args st (request env client args st).1 := by
  unfold request
  cases hendpoint : client.endpoints.get? args.endpointName with
  | none => exact ⟨by simp [limitChosen, hendpoint], Or.inl rfl⟩
  | some endpoint =>
  dsimp only
  cases hpath : resolvePath env.reprText endpoint args.pathParams with
  | error e => exact ⟨by simp [limitChosen, hendpoint, hpath], Or.inl rfl⟩
  | ok resolvedPath =>
  dsimp only
  have hchosen : limitChosen env client args st = (chosenLimit env args endpoint st).1 := by
    simp [limitChosen, hendpoint, hpath]
  have hquiet := chosenLimit_charging env args endpoint st
  rcases hlimit : chosenLimit env args endpoint st with ⟨chosen, e | limitId⟩
  · rw [hlimit] at hchosen hquiet
    exact ⟨congrArg CallState.limiter hchosen.symm, Or.inl hquiet⟩
  · rw [hlimit] at hchosen hquiet
    dsimp only
    cases hreserve : env.limiter.reserve chosen.limiter limitId
        (chargedWeights args endpoint limitId) args.pools with
    | cancelled => exact ⟨congrArg CallState.limiter hchosen.symm, Or.inl hquiet⟩
    | raised e => exact ⟨congrArg CallState.limiter hchosen.symm, Or.inl hquiet⟩
    | returned p =>
        exact absurd ⟨hendpoint, hpath, chosen, p.1, hlimit, hreserve, rfl⟩
          (h endpoint resolvedPath limitId p.2 _)

/-! ## From the reservation on -/

/-- How signing ends; without a signer the request is left as it is. -/
def signOutcome (signer : Option Signer) (unsigned : Request) : Awaited Request :=
  match signer with
  | none => .returned unsigned
  | some sign => sign unsigned

/-- A charged call gets to the client, or its signer raises. -/
def Settles (env : Env L Charge) (client : Client) (args : CallArgs) (endpoint : Endpoint)
    (resolvedPath : String) : Prop :=
  ∃ body, bodyStr env args = .ok body ∧
    match signOutcome (activeSigner client args)
      (unsignedRequest client args endpoint resolvedPath body) with
    | .returned _ => 0 ≤ client.maxRetries
    | .raised _ => True
    | .cancelled => False

theorem Charged.reserved {env : Env L Charge} {client : Client} {args : CallArgs}
    {st st' : CallState L} {endpoint : Endpoint} {resolvedPath limitId : String} {charge : Charge}
    (h : Charged env client args st endpoint resolvedPath limitId charge st') :
    chargingActions st'.actions = chargingActions st.actions ++
      [.reserve limitId (chargedWeights args endpoint limitId) args.pools] := by
  rcases h.limit_ok with ⟨chosen, limiter, hlimit, _, rfl⟩
  have hquiet := chosenLimit_charging env args endpoint st
  rw [hlimit] at hquiet
  rw [← hquiet]
  simp [chargingActions, Action.charging]

/-- What is reserved can be refunded. -/
theorem Charged.refund {env : Env L Charge} {client : Client} {args : CallArgs}
    {st st' : CallState L} {endpoint : Endpoint} {resolvedPath limitId : String} {charge : Charge}
    (h : Charged env client args st endpoint resolvedPath limitId charge st')
    (hrefund : ∀ l limitId weights pools l' charge,
      env.limiter.reserve l limitId weights pools = .returned (l', charge) →
        env.limiter.refund l' charge = l) :
    env.limiter.refund st'.limiter charge = (limitChosen env client args st).limiter := by
  rcases h.limit_ok with ⟨chosen, limiter, hlimit, hreserve, rfl⟩
  have hchosen : limitChosen env client args st = chosen := by
    simp [limitChosen, h.endpoint_eq, h.path_eq, hlimit]
  rw [hchosen]
  exact hrefund _ _ _ _ _ _ hreserve

/-- A reservation that is left is not undone. -/
theorem not_unspent_of_reserved {env : Env L Charge} {client : Client} {args : CallArgs}
    {st after : CallState L} {action : Action}
    (h : chargingActions after.actions = chargingActions st.actions ++ [action]) :
    ¬ Unspent env client args st after := by
  intro hunspent
  have hlength := congrArg List.length h
  rcases hunspent.actions_eq with hsame | ⟨limitId, weights, hundone⟩
  · rw [hsame] at hlength
    simp at hlength
  · rw [hundone] at hlength
    simp at hlength

/-- Where the body cannot be written, or the signer is cancelled, the call ends as it is. -/
theorem chargedRequest_held {env : Env L Charge} {client : Client} {args : CallArgs}
    {endpoint : Endpoint} {resolvedPath : String}
    (h : ∀ body, bodyStr env args = .ok body →
      signOutcome (activeSigner client args)
        (unsignedRequest client args endpoint resolvedPath body) = .cancelled)
    (limitId : String) (charge : Charge) (st : CallState L) :
    sentCalls (chargedRequest env client args endpoint resolvedPath limitId charge st).1.actions =
        sentCalls st.actions ∧
      chargingActions
          (chargedRequest env client args endpoint resolvedPath limitId charge st).1.actions =
        chargingActions st.actions := by
  unfold chargedRequest
  cases hbody : bodyStr env args with
  | error e => exact ⟨rfl, rfl⟩
  | ok body =>
      have hsign := h body hbody
      unfold signOutcome at hsign
      dsimp only
      unfold signRequest
      cases hsigner : activeSigner client args with
      | none =>
          rw [hsigner] at hsign
          cases hsign
      | some sign =>
          rw [hsigner] at hsign
          dsimp only at hsign ⊢
          rw [hsign]
          simp [sentCalls, chargingActions, Action.charging]

/-- A signer that raises has the charge refunded. -/
theorem chargedRequest_refunded {env : Env L Charge} {client : Client} {args : CallArgs}
    {endpoint : Endpoint} {resolvedPath e : String} {body : Option String}
    (hbody : bodyStr env args = .ok body)
    (hsign : signOutcome (activeSigner client args)
      (unsignedRequest client args endpoint resolvedPath body) = .raised e)
    (limitId : String) (charge : Charge) (st : CallState L) :
    sentCalls (chargedRequest env client args endpoint resolvedPath limitId charge st).1.actions =
        sentCalls st.actions ∧
      chargingActions
          (chargedRequest env client args endpoint resolvedPath limitId charge st).1.actions =
        chargingActions st.actions ++ [.refund] ∧
      (chargedRequest env client args endpoint resolvedPath limitId charge st).1.limiter =
        env.limiter.refund st.limiter charge := by
  unfold chargedRequest
  rw [hbody]
  dsimp only
  unfold signRequest
  unfold signOutcome at hsign
  cases hsigner : activeSigner client args with
  | none =>
      rw [hsigner] at hsign
      cases hsign
  | some sign =>
      rw [hsigner] at hsign
      dsimp only at hsign ⊢
      rw [hsign]
      refine ⟨?_, ?_, rfl⟩
      · simp [sentCalls]
      · simp [chargingActions, Action.charging]

/-- A signed request goes to the client. -/
theorem chargedRequest_sent {env : Env L Charge} {client : Client} {args : CallArgs}
    {endpoint : Endpoint} {resolvedPath : String} {body : Option String} {req : Request}
    (hbody : bodyStr env args = .ok body)
    (hsign : signOutcome (activeSigner client args)
      (unsignedRequest client args endpoint resolvedPath body) = .returned req)
    (limitId : String) (charge : Charge) (st : CallState L) :
    ∃ ready : CallState L, ready.limiter = st.limiter ∧
      sentCalls ready.actions = sentCalls st.actions ∧
      chargingActions ready.actions = chargingActions st.actions ∧
      chargedRequest env client args endpoint resolvedPath limitId charge st =
        sendLoop env client args endpoint limitId (httpCall client args resolvedPath body req)
          (client.maxRetries + 1).toNat 0 ready := by
  unfold chargedRequest
  rw [hbody]
  dsimp only
  unfold signRequest
  unfold signOutcome at hsign
  cases hsigner : activeSigner client args with
  | none =>
      rw [hsigner] at hsign
      cases hsign
      exact ⟨st, rfl, rfl, rfl, rfl⟩
  | some sign =>
      rw [hsigner] at hsign
      dsimp only at hsign ⊢
      rw [hsign]
      refine ⟨_, ?_, ?_, ?_, rfl⟩
      · rfl
      · simp [sentCalls]
      · simp [chargingActions, Action.charging]

/-- A reservation that is left without a call breaks the discipline. -/
theorem Charged.not_discipline_of_left {env : Env L Charge} {client : Client} {args : CallArgs}
    {st st' : CallState L} {endpoint : Endpoint} {resolvedPath limitId : String} {charge : Charge}
    (h : Charged env client args st endpoint resolvedPath limitId charge st')
    (hsent : sentCalls (request env client args st).1.actions = sentCalls st'.actions)
    (hleft : chargingActions (request env client args st).1.actions =
      chargingActions st'.actions) : ¬ ChargeDiscipline env client args st := by
  intro hdiscipline
  rw [h.reserved] at hleft
  exact not_unspent_of_reserved hleft (hdiscipline.unsent (hsent.trans h.quiet.1))

/-- A call whose signer raises has its reservation refunded. -/
theorem Charged.discipline_of_raised {env : Env L Charge} {client : Client} {args : CallArgs}
    {st st' : CallState L} {endpoint : Endpoint} {resolvedPath limitId e : String}
    {charge : Charge} {body : Option String}
    (hrefund : ∀ l limitId weights pools l' charge,
      env.limiter.reserve l limitId weights pools = .returned (l', charge) →
        env.limiter.refund l' charge = l)
    (h : Charged env client args st endpoint resolvedPath limitId charge st')
    (hbody : bodyStr env args = .ok body)
    (hsign : signOutcome (activeSigner client args)
      (unsignedRequest client args endpoint resolvedPath body) = .raised e) :
    ChargeDiscipline env client args st := by
  obtain ⟨hsent, hundone, hlimiter⟩ := chargedRequest_refunded hbody hsign limitId charge st'
  rw [← request_of_charged h] at hsent hundone hlimiter
  constructor
  · intro _
    refine ⟨?_, Or.inr ⟨limitId, chargedWeights args endpoint limitId, ?_⟩⟩
    · rw [hlimiter, h.refund hrefund]
    · rw [hundone, h.reserved, List.append_assoc]
      rfl
  · intro hne
    exact absurd (hsent.trans h.quiet.1) hne

/-- A signed call makes an attempt unless `max_retries` is negative. -/
theorem Charged.discipline_iff_of_signed {env : Env L Charge} {client : Client}
    {args : CallArgs} {st st' : CallState L} {endpoint : Endpoint}
    {resolvedPath limitId : String} {charge : Charge} {body : Option String} {req : Request}
    (h : Charged env client args st endpoint resolvedPath limitId charge st')
    (hbody : bodyStr env args = .ok body)
    (hsign : signOutcome (activeSigner client args)
      (unsignedRequest client args endpoint resolvedPath body) = .returned req) :
    ChargeDiscipline env client args st ↔ 0 ≤ client.maxRetries := by
  obtain ⟨ready, hready, hcalls, hcharges, hloop⟩ :=
    chargedRequest_sent hbody hsign limitId charge st'
  obtain ⟨m, hm, hpos, hsent, -⟩ := sendLoop_sends env client args endpoint limitId
    (httpCall client args resolvedPath body req) (client.maxRetries + 1).toNat 0 ready
  obtain ⟨hleft, hlimiter⟩ := sendLoop_charging env client args endpoint limitId
    (httpCall client args resolvedPath body req) (client.maxRetries + 1).toNat 0 ready
  rw [← hloop, ← request_of_charged h] at hsent hleft hlimiter
  rw [hcalls] at hsent
  rw [hcharges] at hleft
  rw [hready] at hlimiter
  by_cases hretries : 0 ≤ client.maxRetries
  · refine iff_of_true ⟨fun heq => ?_, fun _ => ⟨endpoint, resolvedPath, limitId, charge, st', h,
      ?_, hlimiter⟩⟩ hretries
    · have hlength := congrArg List.length (hsent.symm.trans (heq.trans h.quiet.1.symm))
      have hmade := hpos (by omega)
      simp at hlength
      omega
    · rw [hleft, h.reserved]
  · have hzero : m = 0 := by omega
    subst hzero
    refine iff_of_false (h.not_discipline_of_left ?_ hleft) hretries
    simpa using hsent

/-- A call that is charged keeps to the discipline when it settles. -/
theorem Charged.discipline_iff {env : Env L Charge} {client : Client} {args : CallArgs}
    {st st' : CallState L} {endpoint : Endpoint} {resolvedPath limitId : String} {charge : Charge}
    (hrefund : ∀ l limitId weights pools l' charge,
      env.limiter.reserve l limitId weights pools = .returned (l', charge) →
        env.limiter.refund l' charge = l)
    (h : Charged env client args st endpoint resolvedPath limitId charge st') :
    ChargeDiscipline env client args st ↔ Settles env client args endpoint resolvedPath := by
  by_cases hnone : ∀ body, bodyStr env args = .ok body →
      signOutcome (activeSigner client args)
        (unsignedRequest client args endpoint resolvedPath body) = .cancelled
  · obtain ⟨hsent, hleft⟩ := chargedRequest_held hnone limitId charge st'
    rw [← request_of_charged h] at hsent hleft
    refine iff_of_false (h.not_discipline_of_left hsent hleft) ?_
    rintro ⟨body, hbody, hsettles⟩
    rw [hnone body hbody] at hsettles
    exact hsettles
  push Not at hnone
  obtain ⟨body, hbody, hsigned⟩ := hnone
  have hsettles_iff : Settles env client args endpoint resolvedPath ↔
      match signOutcome (activeSigner client args)
        (unsignedRequest client args endpoint resolvedPath body) with
      | .returned _ => 0 ≤ client.maxRetries
      | .raised _ => True
      | .cancelled => False := by
    simp [Settles, hbody]
  rw [hsettles_iff]
  cases hsign : signOutcome (activeSigner client args)
      (unsignedRequest client args endpoint resolvedPath body) with
  | cancelled => exact absurd hsign hsigned
  | raised e => exact iff_of_true (h.discipline_of_raised hrefund hbody hsign) trivial
  | returned req => exact h.discipline_iff_of_signed hbody hsign

/-- A call keeps to the discipline exactly when it settles, once it is charged. -/
theorem request_chargeDiscipline_iff {env : Env L Charge}
    (hrefund : ∀ l limitId weights pools l' charge,
      env.limiter.reserve l limitId weights pools = .returned (l', charge) →
        env.limiter.refund l' charge = l)
    (client : Client) (args : CallArgs) (st : CallState L) :
    ChargeDiscipline env client args st ↔
      ∀ endpoint resolvedPath limitId charge st',
        Charged env client args st endpoint resolvedPath limitId charge st' →
          Settles env client args endpoint resolvedPath := by
  constructor
  · intro hdiscipline endpoint resolvedPath limitId charge st' hcharged
    exact (hcharged.discipline_iff hrefund).1 hdiscipline
  · intro hsettles
    by_cases hcharged : ∃ endpoint resolvedPath limitId charge st',
        Charged env client args st endpoint resolvedPath limitId charge st'
    · obtain ⟨endpoint, resolvedPath, limitId, charge, st', hcharged⟩ := hcharged
      exact (hcharged.discipline_iff hrefund).2
        (hsettles endpoint resolvedPath limitId charge st' hcharged)
    · simp only [not_exists] at hcharged
      refine ⟨fun _ => request_unspent_of_not_charged hcharged, fun hsent => ?_⟩
      exact absurd (request_of_not_charged hcharged).1 hsent

/-! ## Buckets of tokens -/

/-- A limiter that subtracts weights from its buckets and adds them when they are refunded. -/
def bucketLimiter : RateLimiter (String → Int) (Dict String Int) where
  hasLimit _ _ := true
  addLimit tokens limitId limit _ := .ok (Function.update tokens limitId limit)
  reserve tokens _ weights _ :=
    .returned (fun id => tokens id - (weights.get? id).getD 0, weights)
  refund tokens weights id := tokens id + (weights.get? id).getD 0
  reportThrottled tokens _ _ := tokens

/-- The exchange that answers with an empty 200, behind such a limiter. -/
def meteredReplies : Env (String → Int) (Dict String Int) where
  limiter := bucketLimiter
  jsonDumps := emptyReplies.jsonDumps
  encodeJson := emptyReplies.encodeJson
  reprText := emptyReplies.reprText
  parseFinite := emptyReplies.parseFinite
  reply := emptyReplies.reply
  sleep := emptyReplies.sleep

theorem bucketLimiter_refund (tokens : String → Int) (limitId : String)
    (weights : Dict String Int) (pools : Option (Dict String Int)) (tokens' : String → Int)
    (charge : Dict String Int)
    (h : bucketLimiter.reserve tokens limitId weights pools = .returned (tokens', charge)) :
    bucketLimiter.refund tokens' charge = tokens := by
  cases h
  funext id
  simp [bucketLimiter]

/-- An order is charged once. -/
theorem request_chargeDiscipline_order :
    ChargeDiscipline meteredReplies krakenClient krakenOrder (.start (fun _ => 60) []) := by
  refine (request_chargeDiscipline_iff bucketLimiter_refund krakenClient krakenOrder _).2 ?_
  intro endpoint resolvedPath limitId charge st' hcharged
  cases hcharged.endpoint_eq
  cases hcharged.path_eq
  refine ⟨none, rfl, ?_⟩
  show (0 : Int) ≤ krakenClient.maxRetries
  decide

/-- A signer that is cancelled leaves the order charged. -/
theorem request_charges_unsent_order :
    ¬ ∀ (env : Env (String → Int) (Dict String Int)) (client : Client) (args : CallArgs)
      (st : CallState (String → Int)),
      (∀ l limitId weights pools l' charge,
        env.limiter.reserve l limitId weights pools = .returned (l', charge) →
          env.limiter.refund l' charge = l) →
      ChargeDiscipline env client args st := by
  intro h
  have hdiscipline := h meteredReplies { krakenClient with signer := some fun _ => .cancelled }
    krakenOrder (.start (fun _ => 60) []) bucketLimiter_refund
  exact not_unspent_of_reserved rfl (hdiscipline.unsent rfl)

end Transport
end MarketConnector
