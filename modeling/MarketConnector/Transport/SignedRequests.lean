import Mathlib.Data.String.Basic
import MarketConnector.Auth.SelfConsistency
import MarketConnector.Transport.RestBase

/-!
# Transport - Are the signed bytes the sent bytes?

A signer returns the request it signed.  The client takes method, parameters and
headers from it, but path and body from what it prepared before signing.

Main results:

- Theorem `signedIsSent_iff`: a call sends what was signed exactly when the signer
  keeps the path and returns the body the client is going to send anyway.
- Theorem `krakenOrder_sends_other_body`: the Kraken signer does not.
-/

namespace MarketConnector
namespace Transport

open Foundations Auth

variable {L Charge : Type}

/-! ## What goes on the wire -/

/-- Bytes of a request body. -/
def bodyBytes : Option Body → Option ByteArray
  | none => none
  | some (.text s) => some s.toUTF8
  | some (.bytes b) => some b

/-- Body bytes the HTTP client transmits for a call. -/
def wireBody (env : Env L Charge) (call : HttpCall) : Except String (Option ByteArray) :=
  match call.content, call.json with
  | some text, _ => .ok (some text.toUTF8)
  | none, some data => (env.encodeJson data).map some
  | none, none => .ok none

/-- An HTTP call carries a signed request, up to an added default `Content-Type`. -/
structure Transmits (env : Env L Charge) (client : Client) (call : HttpCall)
    (signed : Request) : Prop where
  method : call.method = signed.method
  path : call.url = client.baseUrl ++ signed.path
  params : call.params.getD ∅ = signed.qsParams
  body : wireBody env call = .ok (bodyBytes signed.body)
  headers : ∀ k, call.headers.get? k = signed.headers.get? k ∨
    (k = "Content-Type" ∧ signed.headers.get? k = none ∧
      call.headers.get? k = some "application/json")

/-- Every HTTP call carries what the signer returned. -/
def SignedIsSent (env : Env L Charge) (client : Client) (actions : List Action) : Prop :=
  ∀ call ∈ sentCalls actions, ∀ signed ∈ signedRequests actions,
    Transmits env client call signed

/-! ## What the client sends on its own -/

/-- Body bytes the client is going to send, whatever the signer returns. -/
def clientBody (env : Env L Charge) (args : CallArgs) (body : Option String) :
    Except String (Option ByteArray) :=
  match body, args.data with
  | some text, _ => .ok (some text.toUTF8)
  | none, some data => (env.encodeJson data).map some
  | none, none => .ok none

theorem wireBody_httpCall (env : Env L Charge) (client : Client) (args : CallArgs)
    (resolvedPath : String) (body : Option String) (req : Request) :
    wireBody env (httpCall client args resolvedPath body req) = clientBody env args body := by
  unfold wireBody httpCall clientBody
  cases body with
  | some text => rfl
  | none => cases args.data <;> rfl

theorem httpCall_params (client : Client) (args : CallArgs) (resolvedPath : String)
    (body : Option String) (req : Request) :
    (httpCall client args resolvedPath body req).params.getD ∅ = req.qsParams := by
  unfold httpCall
  by_cases hsize : req.qsParams.size = 0
  · have hempty : req.qsParams = ∅ := Dict.ext (List.eq_nil_of_length_eq_zero hsize)
    simp only [if_pos hsize, Option.getD_none]
    exact hempty.symm
  · simp only [if_neg hsize, Option.getD_some]

/-- The headers of a call are the signed ones, up to the default `Content-Type`. -/
theorem httpCall_headers (client : Client) (args : CallArgs) (resolvedPath : String)
    (body : Option String) (req : Request) (k : String) :
    (httpCall client args resolvedPath body req).headers.get? k = req.headers.get? k ∨
      (k = "Content-Type" ∧ req.headers.get? k = none ∧
        (httpCall client args resolvedPath body req).headers.get? k =
          some "application/json") := by
  unfold httpCall
  by_cases hbody : body = none
  · left
    simp only [if_pos hbody]
  · simp only [if_neg hbody, Dict.get?_update_entries]
    cases hsigned : req.headers.get? k with
    | some v => exact Or.inl rfl
    | none =>
        by_cases hk : k = "Content-Type"
        · subst hk
          exact Or.inr ⟨rfl, rfl, rfl⟩
        · left
          simp [Dict.ofList, Dict.update, Dict.empty, Dict.get?, Dict.lookupEntries, Dict.set,
            Dict.setEntries, Ne.symm hk]

/-- An HTTP call carries a request exactly when the path was kept and the client's
own body is the body of the request. -/
theorem transmits_httpCall_iff (env : Env L Charge) (client : Client) (args : CallArgs)
    (resolvedPath : String) (body : Option String) (req : Request) :
    Transmits env client (httpCall client args resolvedPath body req) req ↔
      req.path = resolvedPath ∧ clientBody env args body = .ok (bodyBytes req.body) := by
  rw [← wireBody_httpCall env client args resolvedPath body req]
  constructor
  · intro h
    have hpath : client.baseUrl ++ resolvedPath = client.baseUrl ++ req.path := h.path
    refine ⟨?_, h.body⟩
    have hchars := congrArg String.toList hpath
    rw [String.toList_append, String.toList_append, List.append_cancel_left_eq] at hchars
    exact (String.toList_inj.1 hchars).symm
  · intro h
    rcases h with ⟨hpath, hbody⟩
    exact
      { method := rfl
        path := by rw [hpath]; rfl
        params := httpCall_params ..
        body := hbody
        headers := httpCall_headers client args resolvedPath body req }

/-! ## Which calls send what was signed -/

/-- Whenever the call reaches a signer and the signer returns, it has kept the path
and returns the body the client is going to send: the JSON text it was shown, or, if
it was shown no body, none, or the HTTP client's own encoding of the data. -/
def SignerKeepsRequest (env : Env L Charge) (client : Client) (args : CallArgs)
    (st : CallState L) : Prop :=
  ∀ sign endpoint resolvedPath limitId charge st' body signed,
    0 ≤ client.maxRetries →
    activeSigner client args = some sign →
    Charged env client args st endpoint resolvedPath limitId charge st' →
    bodyStr env args = .ok body →
    sign (unsignedRequest client args endpoint resolvedPath body) = .returned signed →
    signed.path = resolvedPath ∧ clientBody env args body = .ok (bodyBytes signed.body)

/-- Actions of a charged call: its signer's reply, then copies of one HTTP call. -/
theorem chargedRequest_actions (env : Env L Charge) (client : Client) (args : CallArgs)
    (endpoint : Endpoint) (resolvedPath limitId : String) (charge : Charge) (st : CallState L)
    (hsent : sentCalls st.actions = []) (hsigned : signedRequests st.actions = [])
    {sign : Signer} (hsigner : activeSigner client args = some sign) {body : Option String}
    (hbody : bodyStr env args = .ok body) {signed : Request}
    (hsign : sign (unsignedRequest client args endpoint resolvedPath body) = .returned signed) :
    ∃ m, (0 ≤ client.maxRetries → 0 < m) ∧ (client.maxRetries < 0 → m = 0) ∧
      sentCalls
          (chargedRequest env client args endpoint resolvedPath limitId charge st).1.actions =
        List.replicate m (httpCall client args resolvedPath body signed) ∧
      signedRequests
          (chargedRequest env client args endpoint resolvedPath limitId charge st).1.actions =
        [signed] := by
  simp only [chargedRequest, hbody, hsigner, signRequest, hsign]
  rcases sendLoop_sends env client args endpoint limitId
    (httpCall client args resolvedPath body signed) (client.maxRetries + 1).toNat 0
    ((st.act (.sign (unsignedRequest client args endpoint resolvedPath body))).act
      (.signed signed)) with ⟨m, hm, hpos, hcalls, hreqs⟩
  refine ⟨m, ?_, ?_, ?_, ?_⟩
  · intro hretries
    exact hpos (by omega)
  · intro hretries
    omega
  · rw [hcalls, act_actions, act_actions, sentCalls_append, sentCalls_append, hsent]
    rfl
  · rw [hreqs, act_actions, act_actions, signedRequests_append, signedRequests_append, hsigned]
    rfl

/-- A charged call without a signer's reply signs nothing. -/
theorem chargedRequest_unsigned (env : Env L Charge) (client : Client) (args : CallArgs)
    (endpoint : Endpoint) (resolvedPath limitId : String) (charge : Charge) (st : CallState L)
    (hsigned : signedRequests st.actions = [])
    (hno : ∀ sign body signed, activeSigner client args = some sign →
      bodyStr env args = .ok body →
      sign (unsignedRequest client args endpoint resolvedPath body) ≠ .returned signed) :
    signedRequests
      (chargedRequest env client args endpoint resolvedPath limitId charge st).1.actions = [] := by
  unfold chargedRequest
  cases hbody : bodyStr env args with
  | error e => exact hsigned
  | ok body =>
      simp only
      unfold signRequest
      cases hsigner : activeSigner client args with
      | none =>
          simp only
          rcases sendLoop_sends env client args endpoint limitId (httpCall client args resolvedPath
            body (unsignedRequest client args endpoint resolvedPath body))
            (client.maxRetries + 1).toNat 0 st with ⟨_, _, _, _, hreqs⟩
          rw [hreqs, hsigned]
      | some sign =>
          simp only
          cases hsign : sign (unsignedRequest client args endpoint resolvedPath body) with
          | cancelled =>
              simp only [act_actions, signedRequests_append, hsigned]
              rfl
          | raised e =>
              simp only [act_actions, signedRequests_append, hsigned]
              rfl
          | returned signed => exact absurd hsign (hno sign body signed hsigner hbody)

/-- State of a call before its first action. -/
def CallState.start (limiter : L) (registeredLimits : List String) : CallState L :=
  ⟨limiter, registeredLimits, []⟩

/-- A call sends what was signed exactly when its signer keeps the request. -/
theorem signedIsSent_iff (env : Env L Charge) (client : Client) (args : CallArgs)
    (limiter : L) (registeredLimits : List String) :
    SignedIsSent env client
        (request env client args (.start limiter registeredLimits)).1.actions ↔
      SignerKeepsRequest env client args (.start limiter registeredLimits) := by
  constructor
  · intro h sign endpoint resolvedPath limitId charge st' body signed hretries hsigner hcharged
      hbody hsign
    rw [request_of_charged hcharged] at h
    rcases chargedRequest_actions env client args endpoint resolvedPath limitId charge st'
      hcharged.quiet.1 hcharged.quiet.2 hsigner hbody hsign with ⟨m, hpos, _, hcalls, hreqs⟩
    rw [← transmits_httpCall_iff]
    apply h
    · rw [hcalls]
      exact List.mem_replicate.2 ⟨Nat.pos_iff_ne_zero.1 (hpos hretries), rfl⟩
    · rw [hreqs]
      exact List.mem_singleton_self signed
  · intro h call hcall signed hmem
    by_cases hcharge : ∃ endpoint resolvedPath limitId charge st',
        Charged env client args (.start limiter registeredLimits) endpoint resolvedPath limitId
          charge st'
    · rcases hcharge with ⟨endpoint, resolvedPath, limitId, charge, st', hcharged⟩
      rw [request_of_charged hcharged] at hcall hmem
      by_cases hreply : ∃ sign body signed, activeSigner client args = some sign ∧
          bodyStr env args = .ok body ∧
          sign (unsignedRequest client args endpoint resolvedPath body) = .returned signed
      · rcases hreply with ⟨sign, body, signed', hsigner, hbody, hsign⟩
        rcases chargedRequest_actions env client args endpoint resolvedPath limitId charge st'
          hcharged.quiet.1 hcharged.quiet.2 hsigner hbody hsign with ⟨m, _, hzero, hcalls, hreqs⟩
        rw [hreqs] at hmem
        cases List.mem_singleton.1 hmem
        rw [hcalls] at hcall
        rcases List.mem_replicate.1 hcall with ⟨hm, rfl⟩
        have hretries : 0 ≤ client.maxRetries := by
          by_contra hneg
          exact hm (hzero (by omega))
        exact (transmits_httpCall_iff ..).2
          (h sign endpoint resolvedPath limitId charge st' body signed hretries hsigner hcharged
            hbody hsign)
      · simp only [not_exists, not_and] at hreply
        rw [chargedRequest_unsigned env client args endpoint resolvedPath limitId charge st'
          hcharged.quiet.2 hreply] at hmem
        cases hmem
    · simp only [not_exists] at hcharge
      rw [(request_of_not_charged hcharge).2] at hmem
      cases hmem

/-! ## The Kraken client -/

/-- A limiter that admits everything. -/
def openLimiter : RateLimiter Unit Unit where
  hasLimit _ _ := true
  addLimit u _ _ _ := .ok u
  reserve _ _ _ _ := .returned ((), ())
  refund u _ := u
  reportThrottled u _ _ := u

/-- An exchange that answers every call with an empty 200; the encoders are those of
the one form `pair=XBTUSD`. -/
def emptyReplies : Env Unit Unit where
  limiter := openLimiter
  jsonDumps _ := .ok "\x7b\"pair\": \"XBTUSD\"\x7d"
  encodeJson _ := .ok "\x7b\"pair\":\"XBTUSD\"\x7d".toUTF8
  reprText _ := ""
  parseFinite _ := none
  reply _ _ := .returned
    { statusCode := 200
      header := fun _ => none
      text := ""
      content := ByteArray.empty
      json := .error "" }
  sleep _ := .returned ()

/-- The declarative signer with Kraken's spec and a fixed nonce. -/
def krakenSigner : Signer := fun req =>
  match signHmac transparent krakenHmacSpec plainCredentials "7" "7" req with
  | .ok signed => .returned signed
  | .error _ => .raised "signing failed"

def krakenClient : Client where
  baseUrl := "https://api.kraken.com"
  endpoints := Dict.ofList [("add_order", { path := "/0/private/AddOrder", method := "POST" })]
  signer := some krakenSigner

def krakenOrder : CallArgs where
  endpointName := "add_order"
  data := some (Dict.ofList [("pair", .str "XBTUSD")])

/-- The Kraken signer returns a form body with the nonce; the client sends a JSON
document the signer never saw. -/
theorem krakenOrder_sends_other_body :
    ∃ call signed,
      sentCalls (request emptyReplies krakenClient krakenOrder (.start () [])).1.actions =
        [call] ∧
      signedRequests (request emptyReplies krakenClient krakenOrder (.start () [])).1.actions =
        [signed] ∧
      signed.body = some (.text "nonce=7") ∧
      wireBody emptyReplies call = .ok (some "\x7b\"pair\":\"XBTUSD\"\x7d".toUTF8) ∧
      ¬ Transmits emptyReplies krakenClient call signed := by
  refine ⟨_, _, rfl, rfl, rfl, rfl, ?_⟩
  intro h
  have hbody : (Except.ok (some "\x7b\"pair\":\"XBTUSD\"\x7d".toUTF8) :
      Except String (Option ByteArray)) = .ok (some "nonce=7".toUTF8) := h.body
  simp only [Except.ok.injEq, Option.some.injEq] at hbody
  revert hbody
  decide

/-- A signer that keeps path and body is right for calls without data, and, when it is
given with the call, for calls with non-empty data. -/
theorem signerKeepsRequest_of_body_kept {env : Env L Charge} {client : Client}
    {args : CallArgs} {st : CallState L}
    (hkept : ∀ sign req signed, activeSigner client args = some sign →
      sign req = .returned signed → signed.path = req.path ∧ signed.body = req.body)
    (hdata : args.data = none ∨
      (args.signer ≠ none ∧ ∃ data, args.data = some data ∧ data.size ≠ 0)) :
    SignerKeepsRequest env client args st := by
  intro sign endpoint resolvedPath limitId charge st' body signed _ hsigner _ hbody hsign
  rcases hkept sign _ signed hsigner hsign with ⟨hpath, hsame⟩
  refine ⟨hpath, ?_⟩
  rw [hsame]
  rcases hdata with hnone | ⟨hcall, data, hsome, hsize⟩
  · have hbodyNone : body = none := by
      unfold bodyStr at hbody
      rw [hnone] at hbody
      cases hs : args.signer <;> simp [hs] at hbody <;> exact hbody.symm
    subst hbodyNone
    simp [clientBody, hnone, unsignedRequest, bodyBytes]
  · cases hs : args.signer with
    | none => exact absurd hs hcall
    | some perCall =>
        unfold bodyStr at hbody
        simp only [hs, hsome, if_neg hsize] at hbody
        cases hdumps : env.jsonDumps data with
        | error e => simp [hdumps] at hbody
        | ok text =>
            simp only [hdumps, Except.ok.injEq] at hbody
            subst hbody
            simp [clientBody, unsignedRequest, bodyBytes]

end Transport
end MarketConnector
