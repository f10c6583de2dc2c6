import MarketConnector.Auth.Declarative
import MarketConnector.Foundations.ExpiringCache
import MarketConnector.Foundations.Splitting

/-!
# Auth - Bearer tokens

A signer fetches a token from the endpoint of its spec, keeps it for a while, and puts it into one
header of each request.  Requests that are signed at the same time do not wait for each other.

Main results:

- Definition `bearerMachine`: the signer with its token cache, in any order of events.
- Theorem `Refines.step`: it is the expiring cache of the library.
- Theorem `bearer_signs`: every signed request carries a token that was received recently.
- Theorem `bearer_fetches`: requests that are signed in turn fetch one token in a lifetime.
-/

namespace MarketConnector
namespace Auth

open Foundations ExpiringCache

/-- Monolithic bearer-token spec. -/
structure BearerTokenSpec where
  tokenEndpoint : String
  tokenRequestTemplate : Dict String String
  tokenResponsePath : String
  tokenTtlSeconds : Int
  authHeaderName : String
  authHeaderTemplate : String

/-! ## One token -/

/-- `node[part]` -/
def nodeAt (node : PyValue) (part : String) : Except PyError PyValue :=
  match node with
  | .dict kvs =>
      match PyValue.field? kvs part with
      | some v => .ok v
      | none => .error .keyError
  | _ => .error .typeError

/-- Walk a dot-separated path through a nested dict and return the text of the leaf. -/
def resolveNestedPath (prim : Primitives) (data : PyValue) (path : String) :
    Except PyError String :=
  ((split ['.'] path.toList).foldlM (fun node part => nodeAt node (String.ofList part)) data).map
    (PyValue.toText prim.reprText)

/-- The body of the token request, with the credentials filled in. -/
def tokenRequestBody (creds : Credentials) (spec : BearerTokenSpec) :
    Except SignError (List (String × String)) :=
  match String.fromUTF8? creds.secretBytes with
  | none => .error .unicodeDecode
  | some secret =>
      let credCtx := (Dict.ofList [("api_key", creds.apiKey), ("secret", secret)]).update
        creds.extraCreds.entries
      spec.tokenRequestTemplate.entries.mapM fun e =>
        (formatMap e.2 credCtx).map fun value => (e.1, value)

/-- The request with the token in its header. -/
def withToken (spec : BearerTokenSpec) (request : Request) (token : String) :
    Except SignError Request :=
  (formatMap spec.authHeaderTemplate (Dict.ofList [("token", token)])).map fun value =>
    { request with headers := request.headers.set spec.authHeaderName value }

/-! ## The signer -/

/-- A request, what it was signed to, and when. -/
structure Signing where
  id : Nat
  request : Request
  signed : Request
  signedAt : Rat

/-- A document of the endpoint, its token, and when it came. -/
structure Answer where
  data : PyValue
  token : String
  receivedAt : Rat

/-- A signer, the signings that wait for the endpoint, and what happened so far. -/
structure BearerSigner where
  now : Rat
  bearerToken : Option String
  bearerFetchedAt : Rat
  waiting : Dict Nat Request
  posted : List (String × List (String × String))
  answers : List Answer
  signings : List Signing

inductive BearerEvent where
  | clock (now : Rat)
  | sign (id : Nat) (request : Request)
  /-- the endpoint answers with a document -/
  | responds (id : Nat) (data : PyValue)
  /-- the endpoint cannot be reached, or answers with an error status -/
  | fails (id : Nat)

/-- The token in the cache, unless it is stale. -/
def BearerSigner.cachedToken (spec : BearerTokenSpec) (s : BearerSigner) : Option String :=
  match s.bearerToken with
  | none => none
  | some token => if s.now - s.bearerFetchedAt < spec.tokenTtlSeconds then some token else none

/-- The end of a signing; a header that cannot be filled in raises. -/
def BearerSigner.finish (spec : BearerTokenSpec) (s : BearerSigner) (id : Nat) (request : Request)
    (token : String) : BearerSigner :=
  match withToken spec request token with
  | .error _ => s
  | .ok signed => { s with signings := s.signings ++ [⟨id, request, signed, s.now⟩] }

/-- `_sign_bearer`, up to the token request or to its end. -/
def BearerSigner.sign (creds : Credentials) (spec : BearerTokenSpec) (s : BearerSigner) (id : Nat)
    (request : Request) : BearerSigner :=
  match s.cachedToken spec with
  | some token => s.finish spec id request token
  | none =>
      match tokenRequestBody creds spec with
      | .error _ => s
      | .ok body =>
          { s with
            waiting := s.waiting.set id request
            posted := s.posted ++ [(spec.tokenEndpoint, body)] }

/-- `_get_bearer_token` after the token request, and the rest of `_sign_bearer`. -/
def BearerSigner.receive (prim : Primitives) (spec : BearerTokenSpec) (s : BearerSigner)
    (id : Nat) (request : Request) (data : PyValue) : BearerSigner :=
  let s := { s with waiting := s.waiting.pop id }
  match resolveNestedPath prim data spec.tokenResponsePath with
  | .error _ => s
  | .ok token =>
      { s with
        bearerToken := some token
        bearerFetchedAt := s.now
        answers := s.answers ++ [Answer.mk data token s.now] }.finish spec id request token

def bearerStep (prim : Primitives) (creds : Credentials) (spec : BearerTokenSpec)
    (s : BearerSigner) : BearerEvent → Option BearerSigner
  | .clock now => some { s with now := now }
  | .sign id request => if s.waiting.contains id then none else some (s.sign creds spec id request)
  | .responds id data => (s.waiting.get? id).map fun request => s.receive prim spec id request data
  | .fails id => if s.waiting.contains id then some { s with waiting := s.waiting.pop id } else none

/-- A new signer, in any order of events. -/
def bearerMachine (prim : Primitives) (creds : Credentials) (spec : BearerTokenSpec) (now : Rat) :
    Machine BearerSigner BearerEvent where
  init := ⟨now, none, 0, ∅, [], [], []⟩
  step := bearerStep prim creds spec

/-! ## The signer is an expiring cache -/

/-- The signer shows the states of a cache of tokens. -/
structure Refines (prim : Primitives) (spec : BearerTokenSpec) (s : BearerSigner)
    (c : Cache String Rat) : Prop where
  now : c.now = s.now
  cached : c.cached = s.bearerToken.map fun token => (token, s.bearerFetchedAt)
  pending : c.pending.Perm s.waiting.keys
  received : c.received = s.answers.map fun a => (a.token, a.receivedAt)
  tokens : ∀ a ∈ s.answers, resolveNestedPath prim a.data spec.tokenResponsePath = .ok a.token
  used : ∀ x ∈ s.signings, ∃ token, (x.id, token, x.signedAt) ∈ c.used ∧
    withToken spec x.request token = .ok x.signed

theorem refines_init (prim : Primitives) (creds : Credentials) (spec : BearerTokenSpec)
    (now : Rat) : Refines prim spec (bearerMachine prim creds spec now).init
      (machine String (spec.tokenTtlSeconds : Rat) now).init where
  now := rfl
  cached := rfl
  pending := List.Perm.refl _
  received := rfl
  tokens a h := by cases h
  used x h := by cases h

/-- A signing that waits is a fetch under way. -/
theorem pending_set {pending : List Nat} {waiting : Dict Nat Request}
    (h : pending.Perm waiting.keys) {id : Nat} (hid : id ∉ waiting.keys) (request : Request) :
    (id :: pending).Perm (waiting.set id request).keys := by
  have hnodup : (id :: pending).Nodup :=
    List.nodup_cons.2 ⟨fun hmem => hid (h.mem_iff.1 hmem), h.nodup_iff.2 waiting.nodup⟩
  refine (List.perm_ext_iff_of_nodup hnodup (waiting.set id request).nodup).2 fun k => ?_
  rw [List.mem_cons, h.mem_iff]
  exact (Dict.mem_keys_set waiting).symm

theorem pending_pop {pending : List Nat} {waiting : Dict Nat Request}
    (h : pending.Perm waiting.keys) (id : Nat) :
    (pending.erase id).Perm (waiting.pop id).keys := by
  have hnodup : pending.Nodup := h.nodup_iff.2 waiting.nodup
  refine (List.perm_ext_iff_of_nodup (hnodup.erase id) (waiting.pop id).nodup).2 fun k => ?_
  rw [hnodup.mem_erase_iff, h.mem_iff, and_comm]
  exact Dict.mem_keys_pop.symm

section Simulation

variable {prim : Primitives} {creds : Credentials} {spec : BearerTokenSpec}
  {s s' : BearerSigner} {c : Cache String Rat}

theorem Refines.cachedToken (h : Refines prim spec s c) :
    s.cachedToken spec = fresh? (spec.tokenTtlSeconds : Rat) c := by
  unfold BearerSigner.cachedToken fresh?
  rw [h.cached, h.now]
  cases s.bearerToken <;> rfl

/-- The end of a signing shows a use of the token. -/
theorem Refines.finish (h : Refines prim spec s c) {id : Nat} {request : Request}
    {token : String} (hused : (id, token, s.now) ∈ c.used) :
    Refines prim spec (s.finish spec id request token) c := by
  unfold BearerSigner.finish
  cases hsigned : withToken spec request token with
  | error e => exact h
  | ok signed =>
      refine ⟨h.now, h.cached, h.pending, h.received, h.tokens, fun x hx => ?_⟩
      rcases List.mem_append.1 hx with hold | hnew
      · exact h.used x hold
      · rw [List.mem_singleton.1 hnew]
        exact ⟨token, hused, hsigned⟩

/-- Uses of the cache are only added to. -/
theorem Refines.used_mono (h : Refines prim spec s c) {c' : Cache String Rat}
    (hmono : ∀ use ∈ c.used, use ∈ c'.used) : ∀ x ∈ s.signings, ∃ token,
      (x.id, token, x.signedAt) ∈ c'.used ∧ withToken spec x.request token = .ok x.signed := by
  intro x hx
  obtain ⟨token, hmem, hsigned⟩ := h.used x hx
  exact ⟨token, hmono _ hmem, hsigned⟩

/-- A signing asks the cache, unless it raises before it sends a token request. -/
theorem Refines.sign (h : Refines prim spec s c) {id : Nat} (hid : id ∉ s.waiting.keys)
    (request : Request) : Refines prim spec (s.sign creds spec id request) c ∨
      ∃ c', step (spec.tokenTtlSeconds : Rat) c (.call id) = some c' ∧
        Refines prim spec (s.sign creds spec id request) c' := by
  unfold BearerSigner.sign
  rw [h.cachedToken]
  cases hfresh : fresh? (spec.tokenTtlSeconds : Rat) c with
  | some token =>
      refine Or.inr ⟨{ c with used := c.used ++ [(id, token, c.now)] }, ?_, ?_⟩
      · simp [step, hfresh]
      · have hrefines : Refines prim spec s { c with used := c.used ++ [(id, token, c.now)] } :=
          ⟨h.now, h.cached, h.pending, h.received, h.tokens,
            h.used_mono fun use hmem => List.mem_append_left _ hmem⟩
        exact hrefines.finish (by simp [h.now])
  | none =>
      cases tokenRequestBody creds spec with
      | error e => exact Or.inl h
      | ok body =>
          refine Or.inr ⟨{ c with pending := id :: c.pending }, ?_, ?_⟩
          · simp [step, hfresh]
          · exact ⟨h.now, h.cached, pending_set h.pending hid request, h.received, h.tokens, h.used⟩

/-- An answer of the endpoint is received, or the fetch fails. -/
theorem Refines.receive (h : Refines prim spec s c) {id : Nat} (hid : id ∈ c.pending)
    (request : Request) (data : PyValue) :
    ∃ e c', (e = .fails id ∨ ∃ token, e = .receives id token) ∧
      step (spec.tokenTtlSeconds : Rat) c e = some c' ∧
      Refines prim spec (s.receive prim spec id request data) c' := by
  unfold BearerSigner.receive
  cases htoken : resolveNestedPath prim data spec.tokenResponsePath with
  | error e =>
      refine ⟨.fails id, { c with pending := c.pending.erase id }, Or.inl rfl, ?_, ?_⟩
      · simp [step, hid]
      · exact ⟨h.now, h.cached, pending_pop h.pending id, h.received, h.tokens, h.used⟩
  | ok token =>
      let c' : Cache String Rat := { c with
        cached := some (token, c.now)
        pending := c.pending.erase id
        received := c.received ++ [(token, c.now)]
        used := c.used ++ [(id, token, c.now)] }
      let s' : BearerSigner := { s with
        waiting := s.waiting.pop id
        bearerToken := some token
        bearerFetchedAt := s.now
        answers := s.answers ++ [⟨data, token, s.now⟩] }
      have hreceived : Refines prim spec s' c' :=
        { now := h.now
          cached := by simp [c', s', h.now]
          pending := pending_pop h.pending id
          received := by simp [c', s', h.received, h.now]
          tokens := by
            intro a ha
            rcases List.mem_append.1 ha with hold | hnew
            · exact h.tokens a hold
            · rw [List.mem_singleton.1 hnew]
              exact htoken
          used := h.used_mono fun use hmem => List.mem_append_left _ hmem }
      refine ⟨.receives id token, c', Or.inr ⟨token, rfl⟩, by simp [step, hid, c'], ?_⟩
      have hused : (id, token, s'.now) ∈ c'.used := by simp [c', s', h.now]
      exact hreceived.finish hused

end Simulation

/-- A request is signed only when no other waits, and the clock does not run backwards. -/
def InTurn (s : BearerSigner) : BearerEvent → Prop
  | .clock now => s.now ≤ now
  | .sign _ _ => s.waiting.keys = []
  | _ => True

instance (s : BearerSigner) : (e : BearerEvent) → Decidable (InTurn s e)
  | .clock now => inferInstanceAs (Decidable (s.now ≤ now))
  | .sign _ _ => inferInstanceAs (Decidable (s.waiting.keys = []))
  | .responds _ _ => isTrue trivial
  | .fails _ => isTrue trivial

/-- Every event is an event of the cache, or nothing happens to it. -/
theorem Refines.step {prim : Primitives} {creds : Credentials} {spec : BearerTokenSpec}
    {s s' : BearerSigner} {c : Cache String Rat} {l : BearerEvent} (h : Refines prim spec s c)
    (hstep : bearerStep prim creds spec s l = some s') :
    Refines prim spec s' c ∨ ∃ e c', ExpiringCache.step (spec.tokenTtlSeconds : Rat) c e = some c' ∧
      Refines prim spec s' c' ∧ (InTurn s l → Sequential c e) := by
  cases l with
  | clock now =>
      cases hstep
      refine Or.inr
        ⟨.clock now, _, rfl, ⟨rfl, h.cached, h.pending, h.received, h.tokens, h.used⟩, ?_⟩
      intro (hnow : s.now ≤ now)
      exact h.now.trans_le hnow
  | sign id request =>
      simp only [bearerStep, Option.ite_none_left_eq_some, Option.some.injEq] at hstep
      obtain ⟨hnew, rfl⟩ := hstep
      rw [← Dict.mem_keys_iff] at hnew
      refine (h.sign hnew request).imp_right ?_
      rintro ⟨c', hcall, hrefines⟩
      refine ⟨.call id, c', hcall, hrefines, fun (hidle : s.waiting.keys = []) => ?_⟩
      have hpending := h.pending
      rw [hidle] at hpending
      exact hpending.eq_nil
  | responds id data =>
      obtain ⟨request, hrequest, rfl⟩ := Option.map_eq_some_iff.1 hstep
      have hid : id ∈ c.pending :=
        h.pending.mem_iff.2 (s.waiting.mem_keys_iff.2 (by simp [Dict.contains, hrequest]))
      obtain ⟨e, c', he, hevent, hrefines⟩ := h.receive hid request data
      refine Or.inr ⟨e, c', hevent, hrefines, fun _ => ?_⟩
      rcases he with rfl | ⟨token, rfl⟩ <;> trivial
  | fails id =>
      simp only [bearerStep, Option.ite_none_right_eq_some, Option.some.injEq] at hstep
      obtain ⟨hid, rfl⟩ := hstep
      have hmem : id ∈ c.pending := h.pending.mem_iff.2 (s.waiting.mem_keys_iff.2 hid)
      refine Or.inr ⟨.fails id, { c with pending := c.pending.erase id },
        by simp [ExpiringCache.step, hmem], ?_, fun _ => trivial⟩
      exact ⟨h.now, h.cached, pending_pop h.pending id, h.received, h.tokens, h.used⟩

/-! ## Whole runs -/

/-- The header of a signed request is filled with a token of the endpoint that was received less
than a lifetime before. -/
def SignedRecently (prim : Primitives) (spec : BearerTokenSpec) (s : BearerSigner)
    (x : Signing) : Prop :=
  ∃ a ∈ s.answers, resolveNestedPath prim a.data spec.tokenResponsePath = .ok a.token ∧
    (x.signedAt - a.receivedAt < spec.tokenTtlSeconds ∨ x.signedAt = a.receivedAt) ∧
    withToken spec x.request a.token = .ok x.signed

theorem Refines.signedRecently {prim : Primitives} {spec : BearerTokenSpec} {s : BearerSigner}
    {c : Cache String Rat} (h : Refines prim spec s c)
    (hrecent : ∀ use ∈ c.used, Recent (spec.tokenTtlSeconds : Rat) c use.2.1 use.2.2) :
    ∀ x ∈ s.signings, SignedRecently prim spec s x := by
  intro x hx
  obtain ⟨token, hused, hsigned⟩ := h.used x hx
  obtain ⟨receivedAt, hreceived, hage⟩ := hrecent _ hused
  rw [h.received] at hreceived
  obtain ⟨a, ha, heq⟩ := List.mem_map.1 hreceived
  obtain ⟨htoken, hat⟩ := Prod.ext_iff.1 heq
  subst htoken hat
  exact ⟨a, ha, h.tokens a ha, hage, hsigned⟩

/-- The signer shows a cache with a property. -/
def Shows (prim : Primitives) (spec : BearerTokenSpec) (P : Cache String Rat → Prop)
    (s : BearerSigner) : Prop :=
  ∃ c, P c ∧ Refines prim spec s c

/-- The signer shows reachable states of the cache. -/
theorem shows_reachable {prim : Primitives} {creds : Credentials} {spec : BearerTokenSpec}
    {now : Rat} {s : BearerSigner} (hs : (bearerMachine prim creds spec now).Reachable s) :
    Shows prim spec (machine String (spec.tokenTtlSeconds : Rat) now).Reachable s := by
  have hinit : Shows prim spec (machine String (spec.tokenTtlSeconds : Rat) now).Reachable
      (bearerMachine prim creds spec now).init :=
    ⟨_, Machine.reachable_init _, refines_init prim creds spec now⟩
  refine (bearerMachine prim creds spec now).invariant_reachable hinit ?_ hs
  rintro s l s' ⟨c, hc, hrefines⟩ hstep
  rcases hrefines.step hstep with hsame | ⟨e, c', he, hrefines', -⟩
  · exact ⟨c, hc, hsame⟩
  · exact ⟨c', hc.step he, hrefines'⟩

/-- In every run, whatever the order of events and whatever the clock shows, a signed request is
the request with one header set, to a token that was received less than a lifetime before. -/
theorem bearer_signs (prim : Primitives) (creds : Credentials) (spec : BearerTokenSpec) (now : Rat)
    {s : BearerSigner} (hs : (bearerMachine prim creds spec now).Reachable s) :
    ∀ x ∈ s.signings, SignedRecently prim spec s x := by
  obtain ⟨c, hc, hrefines⟩ := shows_reachable hs
  exact hrefines.signedRecently (used_recent hc)

/-- A spec whose tokens are kept for five minutes, with its credentials. -/
def tokenSpec : BearerTokenSpec where
  tokenEndpoint := "https://api.example.com/auth/token"
  tokenRequestTemplate :=
    Dict.ofList [("api_key", "\x7bapi_key\x7d"), ("api_secret", "\x7bsecret\x7d")]
  tokenResponsePath := "data.token"
  tokenTtlSeconds := 300
  authHeaderName := "Authorization"
  authHeaderTemplate := "Bearer \x7btoken\x7d"

def tokenCredentials : Credentials where
  apiKey := "my-key"
  secretBytes := "my-secret".toUTF8
  extraCreds := ∅
  derivedCreds := ∅

def tokenPrimitives : Primitives where
  hashBytes _ b := b
  hmacBytes _ _ b := b
  reprText _ := ""

def accountsRequest : Request where
  method := "GET"
  url := "https://api.example.com/v1/accounts"
  path := "/v1/accounts"
  headers := ∅
  body := none
  qsParams := ∅

/-- Two requests in turn; the second one finds the token of the first. -/
def tokenReused : List BearerEvent :=
  [.sign 0 accountsRequest, .responds 0 (.dict [("data", .dict [("token", .str "abc")])]),
    .clock 299, .sign 1 accountsRequest]

theorem bearer_signs_reused : ∃ s,
    (bearerMachine tokenPrimitives tokenCredentials tokenSpec 0).run
      (bearerMachine tokenPrimitives tokenCredentials tokenSpec 0).init tokenReused = some s ∧
    s.answers.length = 1 ∧ s.signings.length = 2 ∧
    ∀ x ∈ s.signings, SignedRecently tokenPrimitives tokenSpec s x := by
  have hrun : ((bearerMachine tokenPrimitives tokenCredentials tokenSpec 0).run
      (bearerMachine tokenPrimitives tokenCredentials tokenSpec 0).init tokenReused).map
        (fun s => (s.answers.length, s.signings.length)) = some (1, 2) := by
    decide +kernel
  obtain ⟨s, hs, hlengths⟩ := Option.map_eq_some_iff.1 hrun
  obtain ⟨hanswers, hsignings⟩ := Prod.ext_iff.1 hlengths
  exact ⟨s, hs, hanswers, hsignings, bearer_signs _ _ _ _ ⟨tokenReused, hs⟩⟩

/-- Requests that are signed in turn fetch one token in a lifetime. -/
theorem bearer_fetches (prim : Primitives) (creds : Credentials) (spec : BearerTokenSpec)
    (now : Rat) {events : List BearerEvent}
    (hturn : (bearerMachine prim creds spec now).AllSteps InTurn
      (bearerMachine prim creds spec now).init events) :
    (bearerMachine prim creds spec now).AllStates
      (fun s => s.answers.Pairwise fun a a' : Answer =>
        a.receivedAt + spec.tokenTtlSeconds ≤ a'.receivedAt)
      (bearerMachine prim creds spec now).init events := by
  have hinit : Shows prim spec (SpacedInv (spec.tokenTtlSeconds : Rat))
      (bearerMachine prim creds spec now).init :=
    ⟨_, spacedInv_init _ _ _, refines_init prim creds spec now⟩
  refine Machine.allStates_of_allSteps _ ?_ ?_ hinit hturn
  · rintro s l s' ⟨c, hc, hrefines⟩ hl hstep
    rcases hrefines.step hstep with hsame | ⟨e, c', he, hrefines', hseq⟩
    · exact ⟨c, hc, hsame⟩
    · exact ⟨c', hc.step (hseq hl) he, hrefines'⟩
  · rintro s ⟨c, hc, hrefines⟩
    have hspaced := hc.spaced
    rwa [hrefines.received, List.pairwise_map] at hspaced

/-- The token is too old for the third request. -/
theorem bearer_fetches_again :
    (bearerMachine tokenPrimitives tokenCredentials tokenSpec 0).AllStates
      (fun s => s.answers.Pairwise fun a a' : Answer =>
        a.receivedAt + tokenSpec.tokenTtlSeconds ≤ a'.receivedAt)
      (bearerMachine tokenPrimitives tokenCredentials tokenSpec 0).init
      (tokenReused ++ [.clock 300, .sign 2 accountsRequest,
        .responds 2 (.dict [("data", .dict [("token", .str "abd")])])]) :=
  bearer_fetches _ _ _ _ (by decide +kernel)

end Auth
end MarketConnector
