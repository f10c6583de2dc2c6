import MarketConnector.Auth.Declarative

/-!
# Auth - JWT tokens

A signer that makes a token for each request.  The claims of the token name the method, the host
and the path of the request, and the time until which the token is good.

Main results:

- Definition `signJwt`: the signing pipeline.
- Theorem `netloc_https`: the host of a request is read back from its URL.
- Theorem `signJwt_eq_ok`: what a signed request carries.
-/

namespace MarketConnector
namespace Auth

open Foundations

/-! ## The host of a URL -/

/-- A scheme is a letter and then letters, digits and `+-.`. -/
def isScheme : List Char → Bool
  | [] => false
  | c :: cs => c.isAlpha && cs.all fun c => c.isAlphanum || c ∈ ['+', '-', '.']

/-- A URL without its scheme, if it has one. -/
def afterScheme (url : List Char) : List Char :=
  match url.dropWhile (· ≠ ':') with
  | [] => url
  | _ :: rest => if isScheme (url.takeWhile (· ≠ ':')) then rest else url

/-- `urlparse(url).netloc`, for hosts in ASCII without brackets. -/
def netloc (url : String) : String :=
  let plain := (url.toList.dropWhile (· ≤ ' ')).filter (· ∉ ['\t', '\r', '\n'])
  match afterScheme plain with
  | '/' :: '/' :: rest => String.ofList (rest.takeWhile (· ∉ ['/', '?', '#']))
  | _ => ""

/-- A name or an address of a host, with a port if there is one. -/
structure PlainHost (host : String) : Prop where
  plain : ∀ c ∈ host.toList, c.isAlphanum ∨ c ∈ ['.', '-', ':']

example : netloc " HTTPS://api.example.com:8443?q=1" = "api.example.com:8443" := by decide

theorem PlainHost.notMem {host : String} (h : PlainHost host) {c : Char}
    (hc : c ∈ ['/', '?', '#', '\t', '\r', '\n']) : c ∉ host.toList := by
  intro hmem
  rcases h.plain c hmem with halnum | hpunct
  · simp only [List.mem_cons, List.not_mem_nil, or_false] at hc
    rcases hc with rfl | rfl | rfl | rfl | rfl | rfl <;> exact absurd halnum (by decide)
  · simp only [List.mem_cons, List.not_mem_nil, or_false] at hc hpunct
    rcases hpunct with rfl | rfl | rfl <;> exact absurd hc (by decide)

/-- The host of a URL ends where the path begins. -/
theorem netloc_https {host rest : String} (hhost : PlainHost host)
    (hrest : ∀ c ∈ rest.toList.head?, c = '/') : netloc ("https://" ++ host ++ rest) = host := by
  have hfilter : ((host.toList ++ rest.toList).filter (· ∉ ['\t', '\r', '\n'])) =
      host.toList ++ rest.toList.filter (· ∉ ['\t', '\r', '\n']) := by
    rw [List.filter_append, List.filter_eq_self.2]
    intro c hc
    rw [decide_eq_true_eq]
    intro hblank
    exact hhost.notMem (List.mem_append_right ['/', '?', '#'] hblank) hc
  have hstop : ((host.toList ++ rest.toList.filter (· ∉ ['\t', '\r', '\n'])).takeWhile
      (· ∉ ['/', '?', '#'])) = host.toList := by
    rw [List.takeWhile_append_of_pos]
    · cases hchars : rest.toList with
      | nil => simp
      | cons c cs =>
          obtain rfl : c = '/' := hrest c (by rw [hchars]; rfl)
          simp
    · intro c hc
      rw [decide_eq_true_eq]
      intro hend
      exact hhost.notMem (List.mem_append_left ['\t', '\r', '\n'] hend) hc
  have hchars : ("https://" ++ host ++ rest).toList =
      'h' :: 't' :: 't' :: 'p' :: 's' :: ':' :: '/' :: '/' :: (host.toList ++ rest.toList) := by
    simp
  have hplain : (("https://" ++ host ++ rest).toList.dropWhile (· ≤ ' ')).filter
      (· ∉ ['\t', '\r', '\n']) = 'h' :: 't' :: 't' :: 'p' :: 's' :: ':' :: '/' :: '/' ::
        (host.toList ++ rest.toList.filter (· ∉ ['\t', '\r', '\n'])) := by
    rw [hchars, ← hfilter]
    rfl
  have hafter : afterScheme ('h' :: 't' :: 't' :: 'p' :: 's' :: ':' :: '/' :: '/' ::
      (host.toList ++ rest.toList.filter (· ∉ ['\t', '\r', '\n']))) = '/' :: '/' ::
        (host.toList ++ rest.toList.filter (· ∉ ['\t', '\r', '\n'])) := rfl
  unfold netloc
  simp only [hplain, hafter, hstop]
  exact String.ofList_toList

/-! ## The signing pipeline -/

inductive JwtAlgorithm where
  | es256 | rs256
deriving DecidableEq, Repr

/-- The algorithm as PyJWT names it. -/
def JwtAlgorithm.text : JwtAlgorithm → String
  | .es256 => "ES256"
  | .rs256 => "RS256"

/-- Monolithic JWT signing spec. -/
structure JwtSigningSpec where
  keyMaterial : KeyMaterialSpec
  algorithm : JwtAlgorithm
  claims : Dict String PyValue
  lifetimeSeconds : Int
  jwtHeaders : Dict String String
  authHeaderName : String
  authHeaderTemplate : String

/-- `jwt.encode(claims, key, algorithm, headers)` of PyJWT. -/
structure JwtLibrary where
  encode : Dict String PyValue → ByteArray → String → Dict String String → Except String String

inductive JwtError where
  | sign (e : SignError)
  | encode (error : String)

/-- Variables of the claims and of the token headers. -/
def jwtContext (creds : Credentials) (randHex : String) (req : Request) : Dict String String where
  entries :=
    [("api_key", creds.apiKey), ("method", req.method.toUpper), ("host", netloc req.url),
      ("path", req.path), ("rand_hex", randHex)]
  nodup := by simp

/-- The claims with their templates filled in; only strings are templates. -/
def expandClaims (ctx : Dict String String) :
    List (String × PyValue) → Dict String PyValue → Except SignError (Dict String PyValue)
  | [], claims => .ok claims
  | (name, .str template) :: rest, claims =>
      match formatMap template ctx with
      | .error e => .error e
      | .ok text => expandClaims ctx rest (claims.set name (.str text))
  | (name, value) :: rest, claims => expandClaims ctx rest (claims.set name value)

/-- `DeclarativeRestSigner._sign_jwt`, at the second `now` and for 16 random bytes in
hexadecimal. -/
def signJwt (lib : JwtLibrary) (spec : JwtSigningSpec) (creds : Credentials) (now : Int)
    (randHex : String) (req : Request) : Except JwtError Request := do
  let ctx := jwtContext creds randHex req
  let claims ← (expandClaims ctx spec.claims.entries ∅).mapError .sign
  let claims := (claims.set "nbf" (.int now)).set "exp" (.int (now + spec.lifetimeSeconds))
  let headers ← (injectAll ctx id spec.jwtHeaders.entries ∅).mapError .sign
  let token ← (lib.encode claims creds.secretBytes spec.algorithm.text headers).mapError .encode
  let value ← (formatMap spec.authHeaderTemplate (ctx.set "jwt" token)).mapError .sign
  return { req with headers := req.headers.set spec.authHeaderName value }

/-- What a signed request carries: the value of one header is made from a token for its claims. -/
theorem signJwt_eq_ok {lib : JwtLibrary} {spec : JwtSigningSpec} {creds : Credentials} {now : Int}
    {randHex : String} {req signed : Request}
    (h : signJwt lib spec creds now randHex req = .ok signed) :
    ∃ claims headers token value,
      expandClaims (jwtContext creds randHex req) spec.claims.entries ∅ = .ok claims ∧
      injectAll (jwtContext creds randHex req) id spec.jwtHeaders.entries ∅ = .ok headers ∧
      lib.encode ((claims.set "nbf" (.int now)).set "exp" (.int (now + spec.lifetimeSeconds)))
        creds.secretBytes spec.algorithm.text headers = .ok token ∧
      formatMap spec.authHeaderTemplate ((jwtContext creds randHex req).set "jwt" token) =
        .ok value ∧
      signed = { req with headers := req.headers.set spec.authHeaderName value } := by
  unfold signJwt at h
  obtain ⟨claims, hclaims, h⟩ := bind_eq_ok.1 h
  obtain ⟨headers, hheaders, h⟩ := bind_eq_ok.1 h
  obtain ⟨token, htoken, h⟩ := bind_eq_ok.1 h
  obtain ⟨value, hvalue, h⟩ := bind_eq_ok.1 h
  cases h
  exact ⟨claims, headers, token, value, mapError_eq_ok.1 hclaims, mapError_eq_ok.1 hheaders,
    mapError_eq_ok.1 htoken, mapError_eq_ok.1 hvalue, rfl⟩

end Auth
end MarketConnector
