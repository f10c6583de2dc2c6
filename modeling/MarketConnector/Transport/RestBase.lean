import MarketConnector.Auth.Declarative

/-!
# Transport - `RestConnectorBase.request`

One request call, from the endpoint lookup to the last HTTP reply.  Everything the
call awaits (limiter, signer, HTTP client, sleep) is an oracle that returns, raises
or is cancelled; the call leaves a list of the actions it took, in order.

Main results:

- Definition `request`: the call as the client runs it.
- Theorem `sendLoop_sends`: every HTTP call of one request is the same call.
- Theorem `request_of_not_charged`: a call that is never charged sends nothing.
-/

namespace MarketConnector
namespace Transport

open Foundations Auth

/-! ## Data -/

/-- Declares a REST endpoint with its rate limit budget and optional typed response. -/
structure Endpoint where
  path : String
  method : String
  weight : Int := 1
  limit : Int := 10
  window : Rat := 1
  responseType : Option String := none

/-- How an await ends. -/
inductive Awaited (α : Type) where
  | returned (a : α)
  | raised (error : String)
  | cancelled

/-- Anything with an async `sign`. -/
abbrev Signer :=
  Request → Awaited Request

/-- Arguments handed to the HTTP client. -/
structure HttpCall where
  method : String
  url : String
  params : Option (Dict String PyValue)
  json : Option (Dict String PyValue)
  content : Option String
  headers : Dict String String

/-- A reply of the HTTP client; header lookup ignores case. -/
structure HttpReply where
  statusCode : Nat
  header : String → Option String
  text : String
  content : ByteArray
  json : Except String PyValue

/-- Typed response wrapper. -/
structure Response where
  raw : Option PyValue
  statusCode : Nat
  header : String → Option String
  endpoint : String
  responseType : Option String

/-- Exceptions that leave `request`. -/
inductive RequestError where
  | unknownEndpoint (name : String)
  | template (e : FormatString.FormatError)
  | pathParams (path : String) (missing unexpected : List String)
  | unregisteredLimit (limitId : String)
  | limiter (error : String)
  | notSerializable (error : String)
  | signer (error : String)
  | client (error : String)
  | authentication (message : String)
  | rateLimit (message : String)
  | unavailable (message : String)
  | decode (error : String)
  | cancelled

/-- The limiter operations the client uses. -/
structure RateLimiter (L Charge : Type) where
  hasLimit : L → String → Bool
  addLimit : L → String → Int → Rat → Except String L
  reserve : L → String → Dict String Int → Option (Dict String Int) → Awaited (L × Charge)
  refund : L → Charge → L
  reportThrottled : L → String → Option Rat → L

/-- Everything outside the client. -/
structure Env (L Charge : Type) where
  limiter : RateLimiter L Charge
  jsonDumps : Dict String PyValue → Except String String
  encodeJson : Dict String PyValue → Except String ByteArray
  reprText : PyValue → String
  parseFinite : String → Option Rat
  reply : Nat → HttpCall → Awaited HttpReply
  sleep : Nat → Awaited Unit

/-- The configured client. -/
structure Client where
  baseUrl : String
  endpoints : Dict String Endpoint
  signer : Option Signer
  maxRetries : Int := 3
  retryDelay : Rat := 1

/-- Arguments of one `request` call. -/
structure CallArgs where
  endpointName : String
  params : Option (Dict String PyValue) := none
  data : Option (Dict String PyValue) := none
  headers : Option (Dict String String) := none
  pathParams : Option (Dict String PyValue) := none
  limitId : Option String := none
  weights : Option (Dict String Int) := none
  pools : Option (Dict String Int) := none
  signer : Option Signer := none

/-- Actions of a call, in order. -/
inductive Action where
  | addLimit (limitId : String) (limit : Int) (window : Rat)
  | reserve (limitId : String) (weights : Dict String Int) (pools : Option (Dict String Int))
  | sign (unsigned : Request)
  | signed (req : Request)
  | refund
  | send (call : HttpCall)
  | throttled (limitId : String) (retryAfter : Option Rat)
  | sleep (delay : Rat)

/-- Limiter, limits this client registered, and the actions so far. -/
structure CallState (L : Type) where
  limiter : L
  registeredLimits : List String
  actions : List Action

variable {L Charge : Type}

/-- Add one action. -/
def CallState.act (st : CallState L) (a : Action) : CallState L :=
  { st with actions := st.actions ++ [a] }

/-! ## Before the reservation -/

/-- Substitute `{name}` placeholders in the endpoint path with URL-quoted values. -/
def resolvePath (reprText : PyValue → String) (endpoint : Endpoint)
    (pathParams : Option (Dict String PyValue)) : Except RequestError String :=
  let values := pathParams.getD ∅
  match FormatString.formatterNames endpoint.path with
  | .error e => .error (.template e)
  | .ok fields =>
      let names := (fields.filter (· ≠ "")).dedup
      let missing := (names.filter fun n => !values.contains n).insertionSort (· ≤ ·)
      let unexpected := (values.keys.filter fun n => n ∉ names).insertionSort (· ≤ ·)
      if missing ≠ [] ∨ unexpected ≠ [] then
        .error (.pathParams endpoint.path missing unexpected)
      else if names = [] then .ok endpoint.path
      else
        (FormatString.formatMap endpoint.path
          fun n => (values.get? n).map fun v => UrlEncoding.quote (v.toText reprText)).mapError
            .template

/-- Return the endpoint's limit id, registering a `METHOD:path` limit lazily. -/
def registerLimit (env : Env L Charge) (endpointName : String) (endpoint : Endpoint)
    (st : CallState L) : CallState L × Except RequestError String :=
  if env.limiter.hasLimit st.limiter endpointName then (st, .ok endpointName)
  else
    let limitId := endpoint.method ++ ":" ++ endpoint.path
    if limitId ∈ st.registeredLimits then (st, .ok limitId)
    else match env.limiter.addLimit st.limiter limitId endpoint.limit endpoint.window with
      | .error e => (st, .error (.limiter e))
      | .ok limiter =>
          ({ st with
              limiter := limiter
              registeredLimits := st.registeredLimits ++ [limitId]
              actions := st.actions ++ [.addLimit limitId endpoint.limit endpoint.window] },
            .ok limitId)

/-- The limit that is charged: the argument if it is registered, else the endpoint's. -/
def chosenLimit (env : Env L Charge) (args : CallArgs) (endpoint : Endpoint)
    (st : CallState L) : CallState L × Except RequestError String :=
  match args.limitId with
  | none => registerLimit env args.endpointName endpoint st
  | some limitId =>
      if env.limiter.hasLimit st.limiter limitId then (st, .ok limitId)
      else (st, .error (.unregisteredLimit limitId))

/-! ## The signed request -/

/-- The body text that is signed and sent: only a per-call signer with data has one. -/
def bodyStr (env : Env L Charge) (args : CallArgs) : Except RequestError (Option String) :=
  match args.signer, args.data with
  | some _, some data =>
      if data.size = 0 then .ok none
      else match env.jsonDumps data with
        | .error e => .error (.notSerializable e)
        | .ok text => .ok (some text)
  | _, _ => .ok none

/-- The request envelope handed to the signer. -/
def unsignedRequest (client : Client) (args : CallArgs) (endpoint : Endpoint)
    (resolvedPath : String) (body : Option String) : Request where
  method := endpoint.method
  url := client.baseUrl ++ resolvedPath
  path := resolvedPath
  headers := args.headers.getD ∅
  body := body.map Body.text
  qsParams := args.params.getD ∅

/-- A per-call signer overrides the configured one. -/
def activeSigner (client : Client) (args : CallArgs) : Option Signer :=
  match args.signer with
  | some signer => some signer
  | none => client.signer

/-- Arguments of every attempt. -/
def httpCall (client : Client) (args : CallArgs) (resolvedPath : String) (body : Option String)
    (req : Request) : HttpCall where
  method := req.method
  url := client.baseUrl ++ resolvedPath
  params := if req.qsParams.size = 0 then none else some req.qsParams
  json := if body = none then args.data else none
  content := body
  headers :=
    if body = none then req.headers
    else (Dict.ofList [("Content-Type", "application/json")]).update req.headers.entries

/-! ## Replies -/

/-- Parse a Retry-After header given in seconds. -/
def parseRetryAfter (env : Env L Charge) (reply : HttpReply) : Option Rat :=
  match reply.header "retry-after" with
  | none => none
  | some value => env.parseFinite value

/-- The media type of a reply without its parameters. -/
def mediaType (reply : HttpReply) : String :=
  ((((reply.header "content-type").getD "").splitOn ";").headD "").trimAscii.toString.toLower

/-- Safely decode a JSON body. -/
def decodeBody (reply : HttpReply) : Except String (Option PyValue) :=
  if reply.content.size = 0 then .ok none
  else if mediaType reply ≠ "application/json" then .ok none
  else reply.json.map some

/-- Attempts from number `attempt` on, with `remaining` of them left. -/
def sendLoop (env : Env L Charge) (client : Client) (args : CallArgs) (endpoint : Endpoint)
    (limitId : String) (call : HttpCall) :
    Nat → Nat → CallState L → CallState L × Except RequestError Response
  | 0, _, st => (st, .error (.unavailable "request failed"))
  | remaining + 1, attempt, st =>
      let st := st.act (.send call)
      match env.reply attempt call with
      | .cancelled => (st, .error .cancelled)
      | .raised e => (st, .error (.client e))
      | .returned reply =>
          if reply.statusCode = 401 then
            (st, .error (.authentication ("401 from " ++ args.endpointName ++ ": " ++ reply.text)))
          else if reply.statusCode = 429 then
            let retryAfter := parseRetryAfter env reply
            ({ st.act (.throttled limitId retryAfter) with
                limiter := env.limiter.reportThrottled st.limiter limitId retryAfter },
              .error (.rateLimit
                ("429 from " ++ args.endpointName ++ ": exchange-side rate limit")))
          else if 500 ≤ reply.statusCode then
            if remaining = 0 then
              (st, .error (.unavailable
                (toString reply.statusCode ++ " from " ++ args.endpointName ++ ": " ++ reply.text)))
            else
              let st := st.act (.sleep (client.retryDelay * 2 ^ attempt))
              match env.sleep attempt with
              | .cancelled => (st, .error .cancelled)
              | .raised e => (st, .error (.client e))
              | .returned _ =>
                  sendLoop env client args endpoint limitId call remaining (attempt + 1) st
          else match decodeBody reply with
            | .error e => (st, .error (.decode e))
            | .ok body =>
                (st, .ok
                  { raw := body
                    statusCode := reply.statusCode
                    header := reply.header
                    endpoint := args.endpointName
                    responseType := endpoint.responseType })

/-! ## The call -/

/-- Sign the request if there is a signer; a signer that raises gives the charge
back. -/
def signRequest (env : Env L Charge) (signer : Option Signer) (charge : Charge)
    (unsigned : Request) (st : CallState L) : CallState L × Except RequestError Request :=
  match signer with
  | none => (st, .ok unsigned)
  | some sign =>
      let st := st.act (.sign unsigned)
      match sign unsigned with
      | .cancelled => (st, .error .cancelled)
      | .raised e =>
          ({ st.act .refund with limiter := env.limiter.refund st.limiter charge },
            .error (.signer e))
      | .returned req => (st.act (.signed req), .ok req)

/-- From the reservation on. -/
def chargedRequest (env : Env L Charge) (client : Client) (args : CallArgs)
    (endpoint : Endpoint) (resolvedPath limitId : String) (charge : Charge) (st : CallState L) :
    CallState L × Except RequestError Response :=
  match bodyStr env args with
  | .error e => (st, .error e)
  | .ok body =>
      let unsigned := unsignedRequest client args endpoint resolvedPath body
      match signRequest env (activeSigner client args) charge unsigned st with
      | (st, .error e) => (st, .error e)
      | (st, .ok req) =>
          sendLoop env client args endpoint limitId (httpCall client args resolvedPath body req)
            (client.maxRetries + 1).toNat 0 st

/-- Weights charged on the limit. -/
def chargedWeights (args : CallArgs) (endpoint : Endpoint) (limitId : String) :
    Dict String Int :=
  args.weights.getD (Dict.ofList [(limitId, endpoint.weight)])

/-- `RestConnectorBase.request`. -/
def request (env : Env L Charge) (client : Client) (args : CallArgs) (st : CallState L) :
    CallState L × Except RequestError Response :=
  match client.endpoints.get? args.endpointName with
  | none => (st, .error (.unknownEndpoint args.endpointName))
  | some endpoint =>
      match resolvePath env.reprText endpoint args.pathParams with
      | .error e => (st, .error e)
      | .ok resolvedPath =>
          match chosenLimit env args endpoint st with
          | (st, .error e) => (st, .error e)
          | (st, .ok limitId) =>
              let weights := chargedWeights args endpoint limitId
              match env.limiter.reserve st.limiter limitId weights args.pools with
              | .cancelled => (st, .error .cancelled)
              | .raised e => (st, .error (.limiter e))
              | .returned (limiter, charge) =>
                  chargedRequest env client args endpoint resolvedPath limitId charge
                    { st.act (.reserve limitId weights args.pools) with limiter := limiter }

/-! ## What a call leaves behind -/

/-- HTTP calls among the actions. -/
def sentCalls (actions : List Action) : List HttpCall :=
  actions.filterMap fun
    | .send call => some call
    | _ => none

/-- Requests a signer returned. -/
def signedRequests (actions : List Action) : List Request :=
  actions.filterMap fun
    | .signed req => some req
    | _ => none

@[simp]
theorem sentCalls_append (as bs : List Action) :
    sentCalls (as ++ bs) = sentCalls as ++ sentCalls bs :=
  List.filterMap_append

@[simp]
theorem signedRequests_append (as bs : List Action) :
    signedRequests (as ++ bs) = signedRequests as ++ signedRequests bs :=
  List.filterMap_append

@[simp]
theorem act_actions (st : CallState L) (a : Action) : (st.act a).actions = st.actions ++ [a] :=
  rfl

/-- An attempt is answered 5xx, and the sleep after it ends. -/
def retried (env : Env L Charge) (call : HttpCall) (attempt : Nat) : Bool :=
  match env.reply attempt call, env.sleep attempt with
  | .returned reply, .returned _ => 500 ≤ reply.statusCode
  | _, _ => false

/-- Attempts made from number `attempt` on, with `remaining` of them left. -/
def attemptsMade (env : Env L Charge) (call : HttpCall) : Nat → Nat → Nat
  | 0, _ => 0
  | remaining + 1, attempt =>
      if retried env call attempt then attemptsMade env call remaining (attempt + 1) + 1 else 1

theorem attemptsMade_le (env : Env L Charge) (call : HttpCall) (remaining attempt : Nat) :
    attemptsMade env call remaining attempt ≤ remaining := by
  induction remaining generalizing attempt with
  | zero => exact Nat.le_refl _
  | succ remaining ih =>
      have hrest := ih (attempt + 1)
      unfold attemptsMade
      split_ifs <;> omega

/-- Attempt number `j` is made when the ones before it are retried. -/
theorem lt_attemptsMade_iff (env : Env L Charge) (call : HttpCall) (remaining attempt j : Nat) :
    j < attemptsMade env call remaining attempt ↔
      j < remaining ∧ ∀ i < j, retried env call (attempt + i) = true := by
  induction remaining generalizing attempt j with
  | zero => simp [attemptsMade]
  | succ remaining ih =>
      unfold attemptsMade
      cases j with
      | zero => split_ifs <;> simp
      | succ j =>
          by_cases hretried : retried env call attempt = true
          · rw [if_pos hretried, Nat.add_lt_add_iff_right, Nat.add_lt_add_iff_right, ih]
            refine and_congr_right fun _ => ⟨fun h i hi => ?_, fun h i hi => ?_⟩
            · cases i with
              | zero => exact hretried
              | succ i =>
                  have hi' := h i (by omega)
                  rwa [Nat.add_right_comm] at hi'
            · have hi' := h (i + 1) (by omega)
              rwa [Nat.add_right_comm]
          · rw [if_neg hretried]
            refine iff_of_false (by omega) fun h => hretried ?_
            exact h.2 0 (Nat.succ_pos j)

/-- The attempts of one request all make the same HTTP call, and nothing is signed in
between. -/
theorem sendLoop_actions (env : Env L Charge) (client : Client) (args : CallArgs)
    (endpoint : Endpoint) (limitId : String) (call : HttpCall) (remaining attempt : Nat)
    (st : CallState L) :
    sentCalls (sendLoop env client args endpoint limitId call remaining attempt st).1.actions =
        sentCalls st.actions ++ List.replicate (attemptsMade env call remaining attempt) call ∧
      signedRequests
          (sendLoop env client args endpoint limitId call remaining attempt st).1.actions =
        signedRequests st.actions := by
  induction remaining generalizing attempt st with
  | zero => simp [sendLoop, attemptsMade]
  | succ remaining ih =>
      -- an attempt that is not retried ends the loop
      have hlast : retried env call attempt = false → ∀ st' : CallState L,
          sentCalls st'.actions = sentCalls st.actions ++ [call] →
          signedRequests st'.actions = signedRequests st.actions →
          sentCalls st'.actions = sentCalls st.actions ++
              List.replicate (attemptsMade env call (remaining + 1) attempt) call ∧
            signedRequests st'.actions = signedRequests st.actions := by
        intro hno st' hsent hsigned
        refine ⟨?_, hsigned⟩
        rw [hsent, attemptsMade, hno]
        rfl
      unfold sendLoop
      cases hreply : env.reply attempt call with
      | cancelled =>
          have hno : retried env call attempt = false := by simp [retried, hreply]
          exact hlast hno _ (by simp [sentCalls]) (by simp [signedRequests])
      | raised e =>
          have hno : retried env call attempt = false := by simp [retried, hreply]
          exact hlast hno _ (by simp [sentCalls]) (by simp [signedRequests])
      | returned reply =>
          by_cases h500 : 500 ≤ reply.statusCode
          · simp only
            rw [if_neg (by omega), if_neg (by omega), if_pos h500]
            by_cases hdone : remaining = 0
            · subst hdone
              rw [if_pos rfl]
              constructor
              · unfold attemptsMade
                split_ifs <;> simp [sentCalls, attemptsMade]
              · simp [signedRequests]
            rw [if_neg hdone]
            cases hsleep : env.sleep attempt with
            | cancelled =>
                have hno : retried env call attempt = false := by simp [retried, hreply, hsleep]
                exact hlast hno _ (by simp [sentCalls]) (by simp [signedRequests])
            | raised e =>
                have hno : retried env call attempt = false := by simp [retried, hreply, hsleep]
                exact hlast hno _ (by simp [sentCalls]) (by simp [signedRequests])
            | returned _ =>
                have hyes : retried env call attempt = true := by
                  simp [retried, hreply, hsleep, h500]
                obtain ⟨hsent, hsigned⟩ := ih (attempt + 1) ((st.act (.send call)).act
                  (.sleep (client.retryDelay * 2 ^ attempt)))
                rw [hsent, hsigned, attemptsMade, if_pos hyes, List.replicate_succ]
                constructor
                · simp [sentCalls]
                · simp [signedRequests]
          · have hno : retried env call attempt = false := by
              cases hsleep : env.sleep attempt <;> simp [retried, hreply, hsleep, h500]
            simp only
            split_ifs
            · exact hlast hno _ (by simp [sentCalls]) (by simp [signedRequests])
            · exact hlast hno _ (by simp [sentCalls]) (by simp [signedRequests])
            · cases decodeBody reply with
              | error e => exact hlast hno _ (by simp [sentCalls]) (by simp [signedRequests])
              | ok body => exact hlast hno _ (by simp [sentCalls]) (by simp [signedRequests])

/-- A request makes at least one attempt, if any is allowed, and at most as many as are. -/
theorem sendLoop_sends (env : Env L Charge) (client : Client) (args : CallArgs)
    (endpoint : Endpoint) (limitId : String) (call : HttpCall) (remaining attempt : Nat)
    (st : CallState L) :
    ∃ m, m ≤ remaining ∧ (0 < remaining → 0 < m) ∧
      sentCalls (sendLoop env client args endpoint limitId call remaining attempt st).1.actions =
        sentCalls st.actions ++ List.replicate m call ∧
      signedRequests
          (sendLoop env client args endpoint limitId call remaining attempt st).1.actions =
        signedRequests st.actions := by
  obtain ⟨hsent, hsigned⟩ :=
    sendLoop_actions env client args endpoint limitId call remaining attempt st
  refine ⟨_, attemptsMade_le env call remaining attempt, fun hpos => ?_, hsent, hsigned⟩
  exact (lt_attemptsMade_iff env call remaining attempt 0).2 ⟨hpos, by simp⟩

/-- Choosing the limit neither signs nor sends. -/
theorem chosenLimit_quiet (env : Env L Charge) (args : CallArgs) (endpoint : Endpoint)
    (st : CallState L) :
    sentCalls (chosenLimit env args endpoint st).1.actions = sentCalls st.actions ∧
      signedRequests (chosenLimit env args endpoint st).1.actions = signedRequests st.actions := by
  unfold chosenLimit registerLimit
  cases args.limitId with
  | some limitId =>
      simp only
      split_ifs <;> exact ⟨rfl, rfl⟩
  | none =>
      simp only
      split_ifs
      · exact ⟨rfl, rfl⟩
      · exact ⟨rfl, rfl⟩
      · cases env.limiter.addLimit st.limiter (endpoint.method ++ ":" ++ endpoint.path)
          endpoint.limit endpoint.window with
        | error e => exact ⟨rfl, rfl⟩
        | ok limiter => constructor <;> simp [sentCalls, signedRequests]

/-- The call is charged on a limit, in state `st'`, and goes on to sign. -/
structure Charged (env : Env L Charge) (client : Client) (args : CallArgs) (st : CallState L)
    (endpoint : Endpoint) (resolvedPath limitId : String) (charge : Charge)
    (st' : CallState L) : Prop where
  endpoint_eq : client.endpoints.get? args.endpointName = some endpoint
  path_eq : resolvePath env.reprText endpoint args.pathParams = .ok resolvedPath
  limit_ok : ∃ chosen limiter,
    chosenLimit env args endpoint st = (chosen, .ok limitId) ∧
    env.limiter.reserve chosen.limiter limitId (chargedWeights args endpoint limitId) args.pools =
      .returned (limiter, charge) ∧
    st' = { chosen.act (.reserve limitId (chargedWeights args endpoint limitId) args.pools) with
      limiter := limiter }

/-- A charged call goes on from the reservation. -/
theorem request_of_charged {env : Env L Charge} {client : Client} {args : CallArgs}
    {st st' : CallState L} {endpoint : Endpoint} {resolvedPath limitId : String} {charge : Charge}
    (h : Charged env client args st endpoint resolvedPath limitId charge st') :
    request env client args st =
      chargedRequest env client args endpoint resolvedPath limitId charge st' := by
  rcases h.limit_ok with ⟨chosen, limiter, hlimit, hreserve, rfl⟩
  simp only [request, h.endpoint_eq, h.path_eq, hlimit, hreserve]

/-- The reservation itself neither signs nor sends. -/
theorem Charged.quiet {env : Env L Charge} {client : Client} {args : CallArgs}
    {st st' : CallState L} {endpoint : Endpoint} {resolvedPath limitId : String} {charge : Charge}
    (h : Charged env client args st endpoint resolvedPath limitId charge st') :
    sentCalls st'.actions = sentCalls st.actions ∧
      signedRequests st'.actions = signedRequests st.actions := by
  rcases h.limit_ok with ⟨chosen, limiter, hlimit, _, rfl⟩
  have hquiet := chosenLimit_quiet env args endpoint st
  rw [hlimit] at hquiet
  constructor
  · rw [← hquiet.1]
    simp [sentCalls]
  · rw [← hquiet.2]
    simp [signedRequests]

/-- A call that is never charged neither signs nor sends. -/
theorem request_of_not_charged {env : Env L Charge} {client : Client} {args : CallArgs}
    {st : CallState L}
    (h : ∀ endpoint resolvedPath limitId charge st',
      ¬ Charged env client args st endpoint resolvedPath limitId charge st') :
    sentCalls (request env client args st).1.actions = sentCalls st.actions ∧
      signedRequests (request env client args st).1.actions = signedRequests st.actions := by
  unfold request
  cases hendpoint : client.endpoints.get? args.endpointName with
  | none => exact ⟨rfl, rfl⟩
  | some endpoint =>
  simp only
  cases hpath : resolvePath env.reprText endpoint args.pathParams with
  | error e => exact ⟨rfl, rfl⟩
  | ok resolvedPath =>
  simp only
  have hquiet := chosenLimit_quiet env args endpoint st
  rcases hlimit : chosenLimit env args endpoint st with ⟨chosen, e | limitId⟩
  · rw [hlimit] at hquiet
    exact hquiet
  · rw [hlimit] at hquiet
    simp only
    cases hreserve : env.limiter.reserve chosen.limiter limitId
        (chargedWeights args endpoint limitId) args.pools with
    | cancelled => exact hquiet
    | raised e => exact hquiet
    | returned p =>
        exact absurd ⟨hendpoint, hpath, chosen, p.1, hlimit, hreserve, rfl⟩
          (h endpoint resolvedPath limitId p.2 _)

/-! ## The HTTP call of a request -/

/-- The request a signer returns, or the unsigned one without a signer. -/
def signedBy (signer : Option Signer) (unsigned : Request) : Option Request :=
  match signer with
  | none => some unsigned
  | some sign =>
      match sign unsigned with
      | .returned req => some req
      | _ => none

/-- The HTTP call a charged request is going to make. -/
def chargedCall (env : Env L Charge) (client : Client) (args : CallArgs) (endpoint : Endpoint)
    (resolvedPath : String) : Option HttpCall :=
  match bodyStr env args with
  | .error _ => none
  | .ok body =>
      (signedBy (activeSigner client args)
        (unsignedRequest client args endpoint resolvedPath body)).map
          (httpCall client args resolvedPath body)

/-- The HTTP call a request is going to make, unless it raises before. -/
def plannedCall (env : Env L Charge) (client : Client) (args : CallArgs) (st : CallState L) :
    Option HttpCall :=
  match client.endpoints.get? args.endpointName with
  | none => none
  | some endpoint =>
      match resolvePath env.reprText endpoint args.pathParams with
      | .error _ => none
      | .ok resolvedPath =>
          match chosenLimit env args endpoint st with
          | (_, .error _) => none
          | (st, .ok limitId) =>
              match env.limiter.reserve st.limiter limitId (chargedWeights args endpoint limitId)
                args.pools with
              | .returned _ => chargedCall env client args endpoint resolvedPath
              | _ => none

/-- The calls a client makes for a request: one per attempt. -/
def callsMade (env : Env L Charge) (client : Client) (planned : Option HttpCall) :
    List HttpCall :=
  match planned with
  | none => []
  | some call => List.replicate (attemptsMade env call (client.maxRetries + 1).toNat 0) call

theorem chargedRequest_sends (env : Env L Charge) (client : Client) (args : CallArgs)
    (endpoint : Endpoint) (resolvedPath limitId : String) (charge : Charge) (st : CallState L) :
    sentCalls
        (chargedRequest env client args endpoint resolvedPath limitId charge st).1.actions =
      sentCalls st.actions ++
        callsMade env client (chargedCall env client args endpoint resolvedPath) := by
  unfold chargedRequest chargedCall
  cases bodyStr env args with
  | error e => simp [callsMade]
  | ok body =>
      simp only
      unfold signRequest signedBy
      cases activeSigner client args with
      | none => exact (sendLoop_actions ..).1
      | some sign =>
          simp only
          cases hsign : sign (unsignedRequest client args endpoint resolvedPath body) with
          | cancelled => simp [callsMade, sentCalls]
          | raised e => simp [callsMade, sentCalls]
          | returned req =>
              simp only [(sendLoop_actions ..).1]
              simp [sentCalls, callsMade]

/-- A request makes its planned HTTP call once per attempt, and no other. -/
theorem request_sends (env : Env L Charge) (client : Client) (args : CallArgs)
    (st : CallState L) :
    sentCalls (request env client args st).1.actions =
      sentCalls st.actions ++ callsMade env client (plannedCall env client args st) := by
  unfold request plannedCall
  cases client.endpoints.get? args.endpointName with
  | none => simp [callsMade]
  | some endpoint =>
  simp only
  cases resolvePath env.reprText endpoint args.pathParams with
  | error e => simp [callsMade]
  | ok resolvedPath =>
  simp only
  have hquiet := (chosenLimit_quiet env args endpoint st).1
  rcases hlimit : chosenLimit env args endpoint st with ⟨chosen, e | limitId⟩
  · rw [hlimit] at hquiet
    simp [callsMade, hquiet]
  · rw [hlimit] at hquiet
    simp only
    cases env.limiter.reserve chosen.limiter limitId (chargedWeights args endpoint limitId)
        args.pools with
    | cancelled => simp [callsMade, hquiet]
    | raised e => simp [callsMade, hquiet]
    | returned charged =>
        simp only [chargedRequest_sends, ← hquiet]
        simp [sentCalls]

/-- A planned call goes to the path of its endpoint. -/
theorem plannedCall_url {env : Env L Charge} {client : Client} {args : CallArgs}
    {st : CallState L} {call : HttpCall} (h : plannedCall env client args st = some call) :
    ∃ endpoint resolvedPath, client.endpoints.get? args.endpointName = some endpoint ∧
      resolvePath env.reprText endpoint args.pathParams = .ok resolvedPath ∧
      call.url = client.baseUrl ++ resolvedPath := by
  unfold plannedCall at h
  cases hendpoint : client.endpoints.get? args.endpointName with
  | none => simp [hendpoint] at h
  | some endpoint =>
  simp only [hendpoint] at h
  cases hpath : resolvePath env.reprText endpoint args.pathParams with
  | error e => simp [hpath] at h
  | ok resolvedPath =>
  simp only [hpath] at h
  refine ⟨endpoint, resolvedPath, rfl, hpath, ?_⟩
  split at h
  · cases h
  · split at h
    · unfold chargedCall at h
      split at h
      · cases h
      · obtain ⟨req, -, rfl⟩ := Option.map_eq_some_iff.1 h
        rfl
    · cases h

end Transport
end MarketConnector
