import Mathlib.Tactic.Linarith
import Mathlib.Tactic.Ring
import MarketConnector.Transport.SignedRequests

/-!
# Transport - Attempts and their answers

A request is sent again after a 5xx answer, as long as attempts are left, with a doubled delay
before each new attempt.  Its result is that of one attempt: the first that is not answered
5xx, or the last one allowed.

Main results:

- Definition `answer`: what one attempt comes to, if it is the last.
- Theorem `sendLoop_answer`: the result and the delays of the attempts.
- Theorem `request_outcome`: the result of a request, and what it waited for it.
- Theorem `signed_waits`: a request is signed last, and how long it waits then.
-/

namespace MarketConnector
namespace Transport

open Foundations Auth

variable {L Charge : Type}

/-! ## The deciding attempt -/

/-- The error of a 5xx answer after which no attempt is left. -/
def unavailableError (args : CallArgs) (reply : HttpReply) : RequestError :=
  .unavailable (toString reply.statusCode ++ " from " ++ args.endpointName ++ ": " ++ reply.text)

/-- What an attempt comes to after which no other is made; `isLast` says that no other is
allowed.  A 5xx answer is not retried then, or the delay after it did not end. -/
def answer (env : Env L Charge) (args : CallArgs) (endpoint : Endpoint) (call : HttpCall)
    (isLast : Bool) (attempt : Nat) : Except RequestError Response :=
  match env.reply attempt call with
  | .cancelled => .error .cancelled
  | .raised e => .error (.client e)
  | .returned reply =>
      if reply.statusCode = 401 then
        .error (.authentication ("401 from " ++ args.endpointName ++ ": " ++ reply.text))
      else if reply.statusCode = 429 then
        .error (.rateLimit ("429 from " ++ args.endpointName ++ ": exchange-side rate limit"))
      else if 500 ≤ reply.statusCode then
        if isLast then .error (unavailableError args reply)
        else
          match env.sleep attempt with
          | .raised e => .error (.client e)
          | _ => .error .cancelled
      else
        match decodeBody reply with
        | .error e => .error (.decode e)
        | .ok body =>
            .ok
              { raw := body
                statusCode := reply.statusCode
                header := reply.header
                endpoint := args.endpointName
                responseType := endpoint.responseType }

/-- Delays among the actions. -/
def delays (actions : List Action) : List Rat :=
  actions.filterMap fun
    | .sleep delay => some delay
    | _ => none

@[simp]
theorem delays_append (as bs : List Action) : delays (as ++ bs) = delays as ++ delays bs :=
  List.filterMap_append

/-- A 5xx answer, which is followed by a delay if attempts are left. -/
def answered5xx (env : Env L Charge) (call : HttpCall) (attempt : Nat) : Bool :=
  match env.reply attempt call with
  | .returned reply => 500 ≤ reply.statusCode
  | _ => false

/-- Delays begun from attempt number `attempt` on. -/
def delaysBegun (env : Env L Charge) (call : HttpCall) (remaining attempt : Nat) : Nat :=
  let made := attemptsMade env call remaining attempt
  if made < remaining ∧ answered5xx env call (attempt + made - 1) then made else made - 1

/-- An attempt that is followed by another. -/
theorem sendLoop_of_retried {env : Env L Charge} {call : HttpCall} {attempt : Nat}
    (h : retried env call attempt = true) (client : Client) (args : CallArgs)
    (endpoint : Endpoint) (limitId : String) (remaining : Nat) (st : CallState L) :
    sendLoop env client args endpoint limitId call (remaining + 2) attempt st =
      sendLoop env client args endpoint limitId call (remaining + 1) (attempt + 1)
        ((st.act (.send call)).act (.sleep (client.retryDelay * 2 ^ attempt))) := by
  unfold retried at h
  rw [sendLoop]
  cases hreply : env.reply attempt call with
  | returned reply =>
      cases hsleep : env.sleep attempt with
      | returned _ =>
          have h500 : 500 ≤ reply.statusCode := by simpa [hreply, hsleep] using h
          simp only
          rw [if_neg (by omega), if_neg (by omega), if_pos h500, if_neg (by omega)]
      | _ => simp [hreply, hsleep] at h
  | _ => simp [hreply] at h

/-- An attempt that is the last. -/
theorem sendLoop_of_last {env : Env L Charge} {call : HttpCall} {remaining attempt : Nat}
    (h : remaining = 0 ∨ retried env call attempt = false) (client : Client) (args : CallArgs)
    (endpoint : Endpoint) (limitId : String) (st : CallState L) :
    (sendLoop env client args endpoint limitId call (remaining + 1) attempt st).2 =
        answer env args endpoint call (remaining = 0) attempt ∧
      delays (sendLoop env client args endpoint limitId call (remaining + 1) attempt st).1.actions =
        delays st.actions ++
          if 0 < remaining ∧ answered5xx env call attempt then [client.retryDelay * 2 ^ attempt]
          else [] := by
  rw [sendLoop]
  unfold answer answered5xx
  unfold retried at h
  cases hreply : env.reply attempt call with
  | cancelled => simp [delays]
  | raised e => simp [delays]
  | returned reply =>
      simp only [decide_eq_true_eq]
      by_cases h500 : 500 ≤ reply.statusCode
      · have h401 : reply.statusCode ≠ 401 := by omega
        have h429 : reply.statusCode ≠ 429 := by omega
        simp only [if_neg h401, if_neg h429, if_pos h500]
        by_cases hremaining : remaining = 0
        · simp only [if_pos hremaining]
          simp [delays, unavailableError, hremaining]
        · have hpos : 0 < remaining := Nat.pos_of_ne_zero hremaining
          simp only [if_neg hremaining]
          cases hsleep : env.sleep attempt with
          | cancelled => simp [delays, hpos, h500]
          | raised e => simp [delays, hpos, h500]
          | returned _ => simp [hreply, hsleep, h500, hremaining] at h
      · have hnone : ¬ (0 < remaining ∧ 500 ≤ reply.statusCode) := fun hboth => h500 hboth.2
        simp only [if_neg h500, if_neg hnone]
        split_ifs
        · simp [delays]
        · simp [delays]
        · cases decodeBody reply <;> simp [delays]

theorem attemptsMade_pos (env : Env L Charge) (call : HttpCall) (remaining attempt : Nat) :
    0 < attemptsMade env call (remaining + 1) attempt := by
  unfold attemptsMade
  split_ifs <;> omega

/-- The result of the attempts is the answer to the last one made, and the delays double. -/
theorem sendLoop_answer (env : Env L Charge) (client : Client) (args : CallArgs)
    (endpoint : Endpoint) (limitId : String) (call : HttpCall) (remaining attempt : Nat)
    (st : CallState L) :
    (sendLoop env client args endpoint limitId call (remaining + 1) attempt st).2 =
        answer env args endpoint call
          (attemptsMade env call (remaining + 1) attempt = remaining + 1)
          (attempt + attemptsMade env call (remaining + 1) attempt - 1) ∧
      delays (sendLoop env client args endpoint limitId call (remaining + 1) attempt st).1.actions =
        delays st.actions ++ (List.range (delaysBegun env call (remaining + 1) attempt)).map
          fun i => client.retryDelay * 2 ^ (attempt + i) := by
  induction remaining generalizing attempt st with
  | zero =>
      obtain ⟨hresult, hdelays⟩ := @sendLoop_of_last L Charge env call 0 attempt (Or.inl rfl) client
        args endpoint limitId st
      have hmade : attemptsMade env call (0 + 1) attempt = 1 := by
        unfold attemptsMade
        split_ifs <;> simp [attemptsMade]
      rw [hresult, hdelays, delaysBegun, hmade]
      simp
  | succ remaining ih =>
      by_cases hretried : retried env call attempt = true
      · obtain ⟨hresult, hdelays⟩ := ih (attempt + 1)
          ((st.act (.send call)).act (.sleep (client.retryDelay * 2 ^ attempt)))
        have hpos := attemptsMade_pos env call remaining (attempt + 1)
        have hmade : attemptsMade env call (remaining + 1 + 1) attempt =
            attemptsMade env call (remaining + 1) (attempt + 1) + 1 := by
          rw [attemptsMade, if_pos hretried]
        have hlast : attempt + (attemptsMade env call (remaining + 1) (attempt + 1) + 1) - 1 =
            attempt + 1 + attemptsMade env call (remaining + 1) (attempt + 1) - 1 := by omega
        have hbegun : delaysBegun env call (remaining + 1 + 1) attempt =
            delaysBegun env call (remaining + 1) (attempt + 1) + 1 := by
          simp only [delaysBegun, hmade, hlast, Nat.add_lt_add_iff_right]
          split_ifs <;> omega
        rw [sendLoop_of_retried hretried, hresult, hdelays, hmade, hlast, hbegun]
        constructor
        · simp
        · simp [delays, List.range_succ_eq_map, Function.comp_def, Nat.add_right_comm,
            Nat.add_assoc]
      · have hno : retried env call attempt = false := by simpa using hretried
        obtain ⟨hresult, hdelays⟩ := @sendLoop_of_last L Charge env call (remaining + 1) attempt
          (Or.inr hno) client args endpoint limitId st
        have hmade : attemptsMade env call (remaining + 1 + 1) attempt = 1 := by
          rw [attemptsMade, if_neg hretried]
        rw [hresult, hdelays, delaysBegun, hmade]
        simp only [Nat.add_sub_cancel]
        refine ⟨by simp, ?_⟩
        split_ifs <;> simp_all

/-! ## The request -/

theorem chosenLimit_delays (env : Env L Charge) (args : CallArgs) (endpoint : Endpoint)
    (st : CallState L) :
    delays (chosenLimit env args endpoint st).1.actions = delays st.actions := by
  unfold chosenLimit registerLimit
  cases args.limitId with
  | some limitId =>
      dsimp only
      split_ifs <;> rfl
  | none =>
      dsimp only
      split_ifs
      · rfl
      · rfl
      · cases env.limiter.addLimit st.limiter (endpoint.method ++ ":" ++ endpoint.path)
          endpoint.limit endpoint.window with
        | error e => rfl
        | ok limiter => simp [delays]

/-- A planned call is charged and signed, and then attempted. -/
theorem request_of_planned {env : Env L Charge} {client : Client} {args : CallArgs}
    {st : CallState L} {call : HttpCall} (h : plannedCall env client args st = some call) :
    ∃ endpoint limitId, ∃ st' : CallState L,
      client.endpoints.get? args.endpointName = some endpoint ∧
      delays st'.actions = delays st.actions ∧
      request env client args st =
        sendLoop env client args endpoint limitId call (client.maxRetries + 1).toNat 0 st' := by
  unfold plannedCall at h
  cases hendpoint : client.endpoints.get? args.endpointName with
  | none => simp [hendpoint] at h
  | some endpoint =>
  simp only [hendpoint] at h
  cases hpath : resolvePath env.reprText endpoint args.pathParams with
  | error e => simp [hpath] at h
  | ok resolvedPath =>
  simp only [hpath] at h
  have hquiet := chosenLimit_delays env args endpoint st
  rcases hlimit : chosenLimit env args endpoint st with ⟨chosen, e | limitId⟩
  · simp [hlimit] at h
  rw [hlimit] at hquiet
  simp only [hlimit] at h
  cases hreserve : env.limiter.reserve chosen.limiter limitId
      (chargedWeights args endpoint limitId) args.pools with
  | cancelled => simp [hreserve] at h
  | raised e => simp [hreserve] at h
  | returned charged =>
  simp only [hreserve, chargedCall] at h
  cases hbody : bodyStr env args with
  | error e => simp [hbody] at h
  | ok body =>
  simp only [hbody] at h
  obtain ⟨req, hreq, rfl⟩ := Option.map_eq_some_iff.1 h
  refine ⟨endpoint, limitId, ?_⟩
  simp only [request, hendpoint, hpath, hlimit, hreserve, chargedRequest, hbody]
  unfold signedBy at hreq
  unfold signRequest
  cases hsigner : activeSigner client args with
  | none =>
      simp only [hsigner, Option.some.injEq] at hreq
      subst hreq
      exact ⟨_, trivial, by simpa [delays] using hquiet, rfl⟩
  | some sign =>
      simp only [hsigner] at hreq ⊢
      cases hsign : sign (unsignedRequest client args endpoint resolvedPath body) with
      | returned signed =>
          simp only [hsign, Option.some.injEq] at hreq
          subst hreq
          exact ⟨_, trivial, by simpa [delays] using hquiet, rfl⟩
      | _ => simp [hsign] at hreq

/-- A request is attempted `made` times, and the last attempt decides. -/
structure DecidedBy (env : Env L Charge) (client : Client) (args : CallArgs)
    (st : CallState L) (endpoint : Endpoint) (call : HttpCall) (made : Nat) : Prop where
  pos : 0 < made
  le : made ≤ client.maxRetries.toNat + 1
  /-- the attempts before the last were answered 5xx -/
  earlier : ∀ i < made - 1, retried env call i = true
  /-- the last was not retried, or no other was allowed -/
  last : made = client.maxRetries.toNat + 1 ∨ retried env call (made - 1) = false
  sent : sentCalls (request env client args st).1.actions =
    sentCalls st.actions ++ List.replicate made call
  result : (request env client args st).2 =
    answer env args endpoint call (made = client.maxRetries.toNat + 1) (made - 1)
  /-- a delay that did not end is the last thing a call waits for -/
  delayed : ∃ begun, delays (request env client args st).1.actions = delays st.actions ++
      (List.range begun).map (fun i => client.retryDelay * 2 ^ i) ∧
    (begun = made - 1 ∨ begun = made ∧ made ≤ client.maxRetries.toNat ∧
      answered5xx env call (made - 1) = true)

/-- A request that is sent at all is sent until an attempt is not answered 5xx, or no other is
allowed; that attempt alone decides its result, and the delays before it double. -/
theorem request_outcome {env : Env L Charge} {client : Client} {args : CallArgs}
    {st : CallState L} {call : HttpCall} (hplanned : plannedCall env client args st = some call)
    (hretries : 0 ≤ client.maxRetries) :
    ∃ endpoint made, client.endpoints.get? args.endpointName = some endpoint ∧
      DecidedBy env client args st endpoint call made := by
  obtain ⟨endpoint, limitId, st', hendpoint, hquiet, hrequest⟩ := request_of_planned hplanned
  have hallowed : (client.maxRetries + 1).toNat = client.maxRetries.toNat + 1 := by omega
  have hsent := request_sends env client args st
  rw [hplanned, callsMade, hallowed] at hsent
  obtain ⟨hresult, hdelays⟩ := sendLoop_answer env client args endpoint limitId call
    client.maxRetries.toNat 0 st'
  rw [← hallowed, ← hrequest, hallowed] at hresult hdelays
  rw [Nat.zero_add] at hresult
  have hpos := attemptsMade_pos env call client.maxRetries.toNat 0
  have hle := attemptsMade_le env call (client.maxRetries.toNat + 1) 0
  have hmade := lt_attemptsMade_iff env call (client.maxRetries.toNat + 1) 0
  simp only [Nat.zero_add] at hmade
  simp only [delaysBegun, Nat.zero_add] at hdelays
  generalize attemptsMade env call (client.maxRetries.toNat + 1) 0 = made at *
  have hearlier := ((hmade (made - 1)).1 (by omega)).2
  refine ⟨endpoint, made, hendpoint, hpos, hle, hearlier, ?_, hsent, hresult, ?_⟩
  · by_contra hmore
    rw [not_or, Bool.not_eq_false] at hmore
    have hanother := (hmade made).2 ⟨by omega, fun i hi => ?_⟩
    · omega
    · rcases Nat.lt_or_ge i (made - 1) with hlt | hge
      · exact hearlier i hlt
      · rw [show i = made - 1 by omega]
        exact hmore.2
  · rw [hquiet] at hdelays
    refine ⟨_, hdelays, ?_⟩
    split_ifs with hunended
    · exact Or.inr ⟨rfl, by omega, hunended.2⟩
    · exact Or.inl rfl

/-! ## Requests that return -/

/-- An attempt that returns a response was answered, with a body that can be decoded. -/
theorem answer_eq_ok {env : Env L Charge} {args : CallArgs} {endpoint : Endpoint} {call : HttpCall}
    {isLast : Bool} {attempt : Nat} {response : Response}
    (h : answer env args endpoint call isLast attempt = .ok response) :
    ∃ reply, env.reply attempt call = .returned reply ∧ decodeBody reply = .ok response.raw := by
  unfold answer at h
  split at h
  · cases h
  · cases h
  · rename_i reply hreply
    split_ifs at h
    · split at h <;> cases h
    · split at h
      · cases h
      · rename_i body hbody
        cases h
        exact ⟨reply, hreply, hbody⟩

/-- A request that returns a response was planned. -/
theorem planned_of_ok {env : Env L Charge} {client : Client} {args : CallArgs} {st : CallState L}
    {response : Response} (h : (request env client args st).2 = .ok response) :
    ∃ call, plannedCall env client args st = some call ∧ 0 ≤ client.maxRetries := by
  unfold request at h
  unfold plannedCall
  cases hendpoint : client.endpoints.get? args.endpointName with
  | none => simp [hendpoint] at h
  | some endpoint =>
  simp only [hendpoint] at h ⊢
  cases hpath : resolvePath env.reprText endpoint args.pathParams with
  | error e => simp [hpath] at h
  | ok resolvedPath =>
  simp only [hpath] at h ⊢
  rcases hlimit : chosenLimit env args endpoint st with ⟨chosen, e | limitId⟩
  · simp [hlimit] at h
  simp only [hlimit] at h ⊢
  cases hreserve : env.limiter.reserve chosen.limiter limitId
      (chargedWeights args endpoint limitId) args.pools with
  | cancelled => simp [hreserve] at h
  | raised e => simp [hreserve] at h
  | returned charged =>
  simp only [hreserve, chargedRequest] at h
  unfold chargedCall
  cases hbody : bodyStr env args with
  | error e => simp [hbody] at h
  | ok body =>
  simp only [hbody] at h
  have hretries : 0 ≤ client.maxRetries := by
    by_contra hnone
    have hzero : (client.maxRetries + 1).toNat = 0 := by omega
    rw [hzero] at h
    unfold signRequest at h
    cases hsigner : activeSigner client args with
    | none => simp [hsigner, sendLoop] at h
    | some sign =>
        simp only [hsigner] at h
        cases hsign : sign (unsignedRequest client args endpoint resolvedPath body) <;>
          simp [hsign, sendLoop] at h
  unfold signRequest at h
  unfold signedBy
  cases hsigner : activeSigner client args with
  | none => exact ⟨_, rfl, hretries⟩
  | some sign =>
      simp only [hsigner] at h ⊢
      cases hsign : sign (unsignedRequest client args endpoint resolvedPath body) with
      | returned signed => exact ⟨_, rfl, hretries⟩
      | cancelled => simp [hsign] at h
      | raised e => simp [hsign] at h

/-- The response of a request is the answer to its last attempt. -/
theorem request_ok {env : Env L Charge} {client : Client} {args : CallArgs} {st : CallState L}
    {response : Response} (h : (request env client args st).2 = .ok response) :
    ∃ call made reply, sentCalls (request env client args st).1.actions =
        sentCalls st.actions ++ List.replicate (made + 1) call ∧
      env.reply made call = .returned reply ∧ decodeBody reply = .ok response.raw := by
  obtain ⟨call, hplanned, hretries⟩ := planned_of_ok h
  obtain ⟨endpoint, made, -, hdecided⟩ := request_outcome hplanned hretries
  rw [hdecided.result] at h
  obtain ⟨reply, hreply, hbody⟩ := answer_eq_ok h
  have hmade : made - 1 + 1 = made := Nat.sub_add_cancel hdecided.pos
  exact ⟨call, made - 1, reply, by rw [hmade]; exact hdecided.sent, hreply, hbody⟩

/-- An exchange that is unavailable twice and then answers with an empty 200. -/
def flakyReplies : Env Unit Unit :=
  { emptyReplies with
    reply := fun attempt _ => .returned
      { statusCode := if attempt < 2 then 503 else 200
        header := fun _ => none
        text := ""
        content := ByteArray.empty
        json := .error "" } }

/-- The third attempt of an order decides. -/
theorem request_outcome_flaky :
    ∃ call endpoint made, krakenClient.endpoints.get? "add_order" = some endpoint ∧
      DecidedBy flakyReplies krakenClient krakenOrder (.start () []) endpoint call made := by
  have hplanned : ∃ call, plannedCall flakyReplies krakenClient krakenOrder (.start () []) =
      some call := ⟨_, rfl⟩
  obtain ⟨call, hcall⟩ := hplanned
  exact ⟨call, request_outcome hcall (by decide)⟩

/-! ## After the signature -/

/-- An attempt, what it reports, and the delay after it. -/
def IsAttempt : Action → Prop
  | .send _ => True
  | .throttled _ _ => True
  | .sleep _ => True
  | _ => False

/-- The attempts add nothing else to the actions. -/
theorem sendLoop_attempts (env : Env L Charge) (client : Client) (args : CallArgs)
    (endpoint : Endpoint) (limitId : String) (call : HttpCall) (remaining attempt : Nat)
    (st : CallState L) :
    ∃ after, (sendLoop env client args endpoint limitId call remaining attempt st).1.actions =
      st.actions ++ after ∧ ∀ a ∈ after, IsAttempt a := by
  induction remaining generalizing attempt st with
  | zero => exact ⟨[], by simp [sendLoop], by simp⟩
  | succ remaining ih =>
      rw [sendLoop]
      have hsent : ∀ a ∈ [Action.send call], IsAttempt a := by simp [IsAttempt]
      cases env.reply attempt call with
      | cancelled => exact ⟨_, rfl, hsent⟩
      | raised e => exact ⟨_, rfl, hsent⟩
      | returned reply =>
          simp only
          split_ifs
          · exact ⟨_, rfl, hsent⟩
          · exact ⟨[.send call, .throttled limitId (parseRetryAfter env reply)], by simp,
              by simp [IsAttempt]⟩
          · exact ⟨_, rfl, hsent⟩
          · have hslept : ∀ a ∈ [Action.send call, .sleep (client.retryDelay * 2 ^ attempt)],
                IsAttempt a := by simp [IsAttempt]
            cases env.sleep attempt with
            | cancelled => exact ⟨_, by simp, hslept⟩
            | raised e => exact ⟨_, by simp, hslept⟩
            | returned _ =>
                obtain ⟨after, hafter, hkinds⟩ := ih (attempt + 1)
                  ((st.act (.send call)).act (.sleep (client.retryDelay * 2 ^ attempt)))
                refine ⟨[.send call, .sleep (client.retryDelay * 2 ^ attempt)] ++ after, ?_,
                  fun a ha => (List.mem_append.1 ha).elim (hslept a) (hkinds a)⟩
                rw [hafter]
                simp
          · cases decodeBody reply <;> exact ⟨_, rfl, hsent⟩

/-- Delays that double add up to less than the next one. -/
theorem sum_doubling (first : Rat) (n : Nat) :
    ((List.range n).map fun i => first * 2 ^ i).sum = first * (2 ^ n - 1) := by
  induction n with
  | zero => simp
  | succ n ih =>
      rw [List.range_succ, List.map_append, List.sum_append, ih, List.map_singleton,
        List.sum_singleton, pow_succ]
      ring

/-- The delays of the attempts, if `retries` of them may be retried. -/
theorem sendLoop_waits (env : Env L Charge) {client : Client} (hdelay : 0 ≤ client.retryDelay)
    (args : CallArgs) (endpoint : Endpoint) (limitId : String) (call : HttpCall) (retries : Nat)
    (st : CallState L) :
    ∃ after, (sendLoop env client args endpoint limitId call (retries + 1) 0 st).1.actions =
      st.actions ++ after ∧ (∀ a ∈ after, IsAttempt a) ∧
      (delays after).sum ≤ client.retryDelay * (2 ^ retries - 1) := by
  obtain ⟨after, hafter, hkinds⟩ := sendLoop_attempts env client args endpoint limitId call
    (retries + 1) 0 st
  obtain ⟨-, hdelays⟩ := sendLoop_answer env client args endpoint limitId call retries 0 st
  rw [hafter, delays_append, List.append_cancel_left_eq] at hdelays
  simp only [Nat.zero_add] at hdelays
  refine ⟨after, hafter, hkinds, ?_⟩
  rw [hdelays, sum_doubling]
  have hbegun : delaysBegun env call (retries + 1) 0 ≤ retries := by
    have hmade := attemptsMade_le env call (retries + 1) 0
    unfold delaysBegun
    dsimp only
    split_ifs <;> omega
  have hpow : (2 : Rat) ^ delaysBegun env call (retries + 1) 0 ≤ 2 ^ retries :=
    pow_le_pow_right₀ (by norm_num) hbegun
  exact mul_le_mul_of_nonneg_left (by linarith) hdelay

/-- A request is reserved and signed, and then attempted. -/
structure SignedLast (client : Client) (signed : Request) (actions before after : List Action) :
    Prop where
  split : actions = before ++ .signed signed :: after
  reserved : ∃ limitId weights pools, Action.reserve limitId weights pools ∈ before
  /-- nothing is sent and nothing is slept before the signature -/
  quiet : sentCalls before = [] ∧ delays before = []
  /-- after it there are only attempts -/
  attempts : ∀ a ∈ after, IsAttempt a
  /-- which wait for their retries -/
  waits : (delays after).sum ≤ client.retryDelay * (2 ^ client.maxRetries.toNat - 1)

theorem chargedRequest_signedLast {env : Env L Charge} {client : Client} {args : CallArgs}
    {endpoint : Endpoint} {resolvedPath limitId : String} {charge : Charge} {st : CallState L}
    {signed : Request} (hdelay : 0 ≤ client.retryDelay)
    (hreserved : ∃ limitId weights pools, Action.reserve limitId weights pools ∈ st.actions)
    (hquiet : sentCalls st.actions = [] ∧ delays st.actions = [])
    (hnone : signedRequests st.actions = [])
    (h : signed ∈ signedRequests
      (chargedRequest env client args endpoint resolvedPath limitId charge st).1.actions) :
    ∃ before after, SignedLast client signed
      (chargedRequest env client args endpoint resolvedPath limitId charge st).1.actions
      before after := by
  by_cases hreply : ∃ sign body reply, activeSigner client args = some sign ∧
      bodyStr env args = .ok body ∧
      sign (unsignedRequest client args endpoint resolvedPath body) = .returned reply
  · obtain ⟨sign, body, reply, hsigner, hbody, hsign⟩ := hreply
    obtain ⟨-, -, -, -, hreqs⟩ := chargedRequest_actions env client args endpoint resolvedPath
      limitId charge st hquiet.1 hnone hsigner hbody hsign
    rw [hreqs, List.mem_singleton] at h
    subst h
    simp only [chargedRequest, hbody, hsigner, signRequest, hsign]
    have hbefore : ∀ after, ((st.act (.sign (unsignedRequest client args endpoint resolvedPath
        body))).act (.signed signed)).actions ++ after =
          (st.actions ++ [.sign (unsignedRequest client args endpoint resolvedPath body)]) ++
            .signed signed :: after := by
      intro after
      simp
    obtain ⟨after, hafter, hkinds, hsum⟩ : ∃ after,
        (sendLoop env client args endpoint limitId (httpCall client args resolvedPath body signed)
          (client.maxRetries + 1).toNat 0 ((st.act (.sign (unsignedRequest client args endpoint
            resolvedPath body))).act (.signed signed))).1.actions =
          ((st.act (.sign (unsignedRequest client args endpoint resolvedPath body))).act
            (.signed signed)).actions ++ after ∧ (∀ a ∈ after, IsAttempt a) ∧
          (delays after).sum ≤ client.retryDelay * (2 ^ client.maxRetries.toNat - 1) := by
      by_cases hretries : 0 ≤ client.maxRetries
      · have hallowed : (client.maxRetries + 1).toNat = client.maxRetries.toNat + 1 := by omega
        rw [hallowed]
        exact sendLoop_waits env hdelay args endpoint limitId _ client.maxRetries.toNat _
      · have hallowed : (client.maxRetries + 1).toNat = 0 := by omega
        have hzero : client.maxRetries.toNat = 0 := by omega
        rw [hallowed, hzero]
        exact ⟨[], by simp [sendLoop], by simp, by simp [delays]⟩
    refine ⟨_, after, hafter.trans (hbefore after), ?_, ?_, hkinds, hsum⟩
    · obtain ⟨limitId, weights, pools, hmem⟩ := hreserved
      exact ⟨limitId, weights, pools, List.mem_append_left _ hmem⟩
    · rw [sentCalls_append, delays_append, hquiet.1, hquiet.2]
      exact ⟨rfl, rfl⟩
  · simp only [not_exists, not_and] at hreply
    rw [chargedRequest_unsigned env client args endpoint resolvedPath limitId charge st hnone
      hreply] at h
    cases h

/-- A request is signed after its reservation, and then it waits for nothing but its retries, so
that a signature that is good for longer than their delays does not expire by them. -/
theorem signed_waits {env : Env L Charge} {client : Client} (hdelay : 0 ≤ client.retryDelay)
    {args : CallArgs} {limiter : L} {registered : List String} {signed : Request}
    (h : signed ∈
      signedRequests (request env client args (.start limiter registered)).1.actions) :
    ∃ before after, SignedLast client signed
      (request env client args (.start limiter registered)).1.actions before after := by
  by_cases hcharge : ∃ endpoint resolvedPath limitId charge st',
      Charged env client args (.start limiter registered) endpoint resolvedPath limitId charge st'
  · obtain ⟨endpoint, resolvedPath, limitId, charge, st', hcharged⟩ := hcharge
    rw [request_of_charged hcharged] at h ⊢
    obtain ⟨chosen, limiter', hlimit, -, hst'⟩ := hcharged.limit_ok
    have hdelays : delays chosen.actions = [] := by
      have hsame := chosenLimit_delays env args endpoint (.start limiter registered)
      rwa [hlimit] at hsame
    refine chargedRequest_signedLast hdelay ?_ ⟨hcharged.quiet.1, ?_⟩ hcharged.quiet.2 h
    · rw [hst']
      exact ⟨_, _, _, List.mem_append_right _ (List.mem_singleton_self _)⟩
    · rw [hst', act_actions, delays_append, hdelays]
      rfl
  · simp only [not_exists] at hcharge
    rw [(request_of_not_charged hcharge).2] at h
    cases h

/-- A signed order that is sent again waits for seven seconds at most. -/
theorem signed_waits_flaky :
    ∃ signed before after, SignedLast krakenClient signed
        (request flakyReplies krakenClient krakenOrder (.start () [])).1.actions before after ∧
      (delays after).sum ≤ 7 := by
  have hsigned : ∃ signed, signedRequests
      (request flakyReplies krakenClient krakenOrder (.start () [])).1.actions = [signed] :=
    ⟨_, rfl⟩
  obtain ⟨signed, hsigned⟩ := hsigned
  have hdelay : 0 ≤ krakenClient.retryDelay := by decide
  have hmem : signed ∈ signedRequests
      (request flakyReplies krakenClient krakenOrder (.start () [])).1.actions := by
    rw [hsigned]
    exact List.mem_singleton_self signed
  obtain ⟨before, after, hlast⟩ := signed_waits hdelay hmem
  have hseven : krakenClient.retryDelay * (2 ^ krakenClient.maxRetries.toNat - 1) = 7 := by
    change (1 : Rat) * (2 ^ 3 - 1) = 7
    norm_num
  exact ⟨signed, before, after, hlast, hseven ▸ hlast.waits⟩

end Transport
end MarketConnector
