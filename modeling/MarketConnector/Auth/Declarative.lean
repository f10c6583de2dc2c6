import Mathlib.Data.List.Sort
import MarketConnector.Auth.Spec
import MarketConnector.Foundations.UrlEncoding

/-!
# Auth - The declarative HMAC signing pipeline

`signHmac` follows the steps of `DeclarativeRestSigner._sign_hmac` for a timestamp
and a nonce that are already drawn: serialise the body, build the context, expand
the signature input, compute the signature, then inject headers, nonce and
query-string fields.  Hash and HMAC are opaque functions.

Main results:

- Definition `signatureInput`: the bytes that are HMACed for a request.
- Theorem `signHmac_eq_ok`: what a successful signing run computed.
-/

namespace MarketConnector
namespace Auth

open Foundations

/-! ## Text encodings -/

/-- Lower-case hexadecimal digit of a number below 16. -/
def hexDigit (n : Nat) : Char :=
  "0123456789abcdef".toList.getD n '0'

/-- `b.hex()`. -/
def hexEncode (b : ByteArray) : String :=
  String.ofList (b.data.toList.flatMap fun x => [hexDigit (x.toNat / 16), hexDigit (x.toNat % 16)])

/-- Base64 character of a 6-bit number. -/
def base64Digit (n : Nat) : Char :=
  "ABCDEFGHIJKLMNOPQRSTUVWXYZabcdefghijklmnopqrstuvwxyz0123456789+/".toList.getD n '='

/-- Base64 characters of a byte list, three bytes at a time. -/
def base64Chars : List UInt8 → List Char
  | [] => []
  | [a] =>
      let n := a.toNat * 65536
      [base64Digit (n / 262144), base64Digit (n / 4096 % 64), '=', '=']
  | [a, b] =>
      let n := a.toNat * 65536 + b.toNat * 256
      [base64Digit (n / 262144), base64Digit (n / 4096 % 64), base64Digit (n / 64 % 64), '=']
  | a :: b :: c :: rest =>
      let n := a.toNat * 65536 + b.toNat * 256 + c.toNat
      base64Digit (n / 262144) :: base64Digit (n / 4096 % 64) :: base64Digit (n / 64 % 64) ::
        base64Digit (n % 64) :: base64Chars rest

/-- `base64.b64encode(b).decode()`. -/
def base64Encode (b : ByteArray) : String :=
  String.ofList (base64Chars b.data.toList)

example : base64Encode "Kraken".toUTF8 = "S3Jha2Vu" := by decide

/-! ## Primitives and credentials -/

/-- Cryptographic primitives and the text of non-string query values. -/
structure Primitives where
  hashBytes : HashAlgorithm → ByteArray → ByteArray
  hmacBytes : SigAlgorithm → ByteArray → ByteArray → ByteArray
  reprText : PyValue → String

/-- Credentials a signer instance holds. -/
structure Credentials where
  apiKey : String
  secretBytes : ByteArray
  extraCreds : Dict String String
  derivedCreds : Dict String String

/-- Exceptions the pipeline can raise. -/
inductive SignError where
  | unicodeDecode
  | format (e : FormatString.FormatError)
deriving DecidableEq, Repr

/-- `template.format_map(ctx)` inside the pipeline. -/
def formatMap (template : String) (ctx : Dict String String) : Except SignError String :=
  (FormatString.formatMap template ctx.get?).mapError .format

/-- Text of a request body. -/
def bodyText : Body → Except SignError String
  | .text s => .ok s
  | .bytes b =>
      match String.fromUTF8? b with
      | some s => .ok s
      | none => .error .unicodeDecode

/-- Return serialised body string for signing; every format leaves the body as it
is. -/
def serialiseBody (body : Option Body) (_fmt : BodyFormat) : Except SignError String :=
  match body with
  | none => .ok ""
  | some b => bodyText b

/-- `str(v)` for the items of a parameter dictionary. -/
def qsItems (prim : Primitives) (qs : Dict String PyValue) : List (String × String) :=
  qs.entries.map fun e => (e.1, e.2.toText prim.reprText)

/-- URL-encoded query string sorted by key, no `?` prefix. -/
def qsSorted (prim : Primitives) (qs : Dict String PyValue) : String :=
  UrlEncoding.urlencode ((qsItems prim qs).insertionSort fun a b => a.1 ≤ b.1)

/-- Query string in request order, with its `?` prefix when there is one. -/
def qsOrdered (prim : Primitives) (qs : Dict String PyValue) : String :=
  if qs.entries = [] then "" else "?" ++ UrlEncoding.urlencode (qsItems prim qs)

def encodeSig (raw : ByteArray) : SigEncoding → String
  | .hex => hexEncode raw
  | .base64 => base64Encode raw

/-! ## Signature input -/

/-- Step 4: variables available to the templates, before the inner hash. -/
def baseContext (prim : Primitives) (creds : Credentials) (ts nonce : String)
    (req : Request) (bodyStr : String) : Dict String String where
  entries :=
    [("api_key", creds.apiKey), ("ts", ts), ("nonce", nonce),
      ("method", req.method.toUpper), ("path", req.path), ("body", bodyStr),
      ("qs", qsOrdered prim req.qsParams), ("qs_sorted", qsSorted prim req.qsParams)]
  nodup := by simp

/-- Step 4: the context with the extra and derived credentials merged in. -/
def signingContext (prim : Primitives) (creds : Credentials) (ts nonce : String)
    (req : Request) (bodyStr : String) : Dict String String :=
  ((baseContext prim creds ts nonce req bodyStr).update creds.extraCreds.entries).update
    creds.derivedCreds.entries

/-- Inner hash for two-stage signing. -/
def computeBodyHash (prim : Primitives) (spec : BodyHashSpec) (ctx : Dict String String) :
    Except SignError ByteArray :=
  (formatMap spec.inputTemplate ctx).map fun s => prim.hashBytes spec.algorithm s.toUTF8

/-- The marker that switches the expansion to bytes concatenation. -/
def pathBytesMarker : String :=
  "{path_bytes}"

/-- `"{path_bytes}" in template`. -/
def mentionsPathBytes (template : String) : Bool :=
  occursIn pathBytesMarker template

/-- Expand the recipe template to bytes for the HMAC computation. -/
def expandSigInput (template : String) (ctx : Dict String String)
    (innerHash : Option ByteArray) : Except SignError ByteArray :=
  match mentionsPathBytes template, innerHash with
  | true, some inner => .ok (((ctx.get? "path").getD "").toUTF8 ++ inner)
  | _, _ => (formatMap template ctx).map String.toUTF8

/-- Steps 5 and 6: the context with the inner hash, and the bytes to be HMACed. -/
def expandInput (prim : Primitives) (recipe : SignatureRecipe) (ctx : Dict String String) :
    Except SignError (Dict String String × ByteArray) :=
  match recipe.bodyHash with
  | none => (expandSigInput recipe.template ctx none).map fun bytes => (ctx, bytes)
  | some h =>
      match computeBodyHash prim h ctx with
      | .error e => .error e
      | .ok inner =>
          let ctx' := ctx.set "inner_hash" (hexEncode inner)
          (expandSigInput recipe.template ctx' (some inner)).map fun bytes => (ctx', bytes)

/-- Steps 3 to 6: the bytes that are HMACed for a request. -/
def signatureInput (prim : Primitives) (spec : HmacSigningSpec) (creds : Credentials)
    (ts nonce : String) (req : Request) : Except SignError ByteArray :=
  match serialiseBody req.body spec.recipe.bodyFormat with
  | .error e => .error e
  | .ok bodyStr =>
      (expandInput prim spec.recipe (signingContext prim creds ts nonce req bodyStr)).map Prod.snd

/-! ## Injection -/

/-- Set every field of an output spec to its expanded template. -/
def injectAll (ctx : Dict String String) {V : Type} (wrap : String → V) :
    List (String × String) → Dict String V → Except SignError (Dict String V)
  | [], d => .ok d
  | (name, template) :: rest, d =>
      match formatMap template ctx with
      | .error e => .error e
      | .ok v => injectAll ctx wrap rest (d.set name (wrap v))

/-- Step 11: put the nonce where the placement says. -/
def injectNonce (spec : NonceSpec) (nonce : String) (headers : Dict String String)
    (bodyStr : String) (qs : Dict String PyValue) :
    Dict String String × String × Dict String PyValue :=
  match spec.fieldName with
  | none => (headers, bodyStr, qs)
  | some field =>
      if field = "" then (headers, bodyStr, qs)
      else match spec.placement with
        | .header => (headers.set field nonce, bodyStr, qs)
        | .bodyField =>
            (headers,
              if bodyStr = "" then field ++ "=" ++ nonce
              else field ++ "=" ++ nonce ++ "&" ++ bodyStr, qs)
        | .qsField => (headers, bodyStr, qs.set field (.str nonce))
        | .sigOnly | .none => (headers, bodyStr, qs)

/-- Fields of an optional output table. -/
def fieldsOf : Option (Dict String String) → List (String × String)
  | none => []
  | some d => d.entries

/-- `DeclarativeRestSigner._sign_hmac` for a drawn timestamp and nonce. -/
def signHmac (prim : Primitives) (spec : HmacSigningSpec) (creds : Credentials)
    (ts nonce : String) (req : Request) : Except SignError Request := do
  let bodyStr ← serialiseBody req.body spec.recipe.bodyFormat
  let (ctx, sigInput) ←
    expandInput prim spec.recipe (signingContext prim creds ts nonce req bodyStr)
  let sigRaw := prim.hmacBytes spec.recipe.algorithm creds.secretBytes sigInput
  let outCtx := ctx.set "sig" (encodeSig sigRaw spec.recipe.outputEncoding)
  let headers ← injectAll outCtx id spec.output.headers.entries req.headers
  let (headers, newBodyStr, qs) := injectNonce spec.nonce nonce headers bodyStr req.qsParams
  -- body_inject templates are expanded and their results discarded
  let _ ← injectAll outCtx id (fieldsOf spec.output.bodyInject) ∅
  let qs ← injectAll outCtx PyValue.str (fieldsOf spec.output.qsInject) qs
  let body := if newBodyStr ≠ bodyStr then some (Body.text newBodyStr) else req.body
  return { req with headers := headers, qsParams := qs, body := body }

/-! ## What a signing run computes -/

theorem injectAll_cons_eq_ok {ctx : Dict String String} {V : Type} {wrap : String → V}
    {e : String × String} {fields : List (String × String)} {d d' : Dict String V} :
    injectAll ctx wrap (e :: fields) d = .ok d' ↔
      ∃ v, formatMap e.2 ctx = .ok v ∧ injectAll ctx wrap fields (d.set e.1 (wrap v)) = .ok d' := by
  cases h : formatMap e.2 ctx <;> simp [injectAll, h]

/-- Injection adds exactly the listed keys. -/
theorem injectAll_keys {ctx : Dict String String} {V : Type} {wrap : String → V}
    {fields : List (String × String)} {d d' : Dict String V}
    (h : injectAll ctx wrap fields d = .ok d') {k : String} :
    k ∈ d'.keys ↔ k ∈ d.keys ∨ k ∈ fields.map Prod.fst := by
  induction fields generalizing d with
  | nil =>
      cases h
      simp
  | cons e fields ih =>
      rcases injectAll_cons_eq_ok.1 h with ⟨v, _, hrest⟩
      rw [ih hrest, Dict.mem_keys_set, List.map_cons, List.mem_cons]
      tauto

/-- Injection leaves the other keys as they are. -/
theorem injectAll_without {ctx : Dict String String} {V : Type} {wrap : String → V}
    {fields : List (String × String)} {d d' : Dict String V} {ks : List String}
    (h : injectAll ctx wrap fields d = .ok d') (hks : ∀ e ∈ fields, e.1 ∈ ks) :
    d'.without ks = d.without ks := by
  induction fields generalizing d with
  | nil =>
      cases h
      rfl
  | cons e fields ih =>
      rcases injectAll_cons_eq_ok.1 h with ⟨v, _, hrest⟩
      rw [List.forall_mem_cons] at hks
      rw [ih hrest hks.2, Dict.without_set_of_mem _ hks.1]

/-- A signing run that succeeds keeps method and path, sends the injected body text
if that differs from the serialised one, and injects into the query string. -/
theorem signHmac_eq_ok {prim : Primitives} {spec : HmacSigningSpec} {creds : Credentials}
    {ts nonce : String} {req signed : Request}
    (h : signHmac prim spec creds ts nonce req = .ok signed) :
    ∃ bodyStr ctx bytes headers sig,
      serialiseBody req.body spec.recipe.bodyFormat = .ok bodyStr ∧
      expandInput prim spec.recipe (signingContext prim creds ts nonce req bodyStr) =
        .ok (ctx, bytes) ∧
      injectAll (ctx.set "sig" sig) PyValue.str (fieldsOf spec.output.qsInject)
        (injectNonce spec.nonce nonce headers bodyStr req.qsParams).2.2 = .ok signed.qsParams ∧
      signed.method = req.method ∧ signed.path = req.path ∧
      signed.body =
        (if (injectNonce spec.nonce nonce headers bodyStr req.qsParams).2.1 ≠ bodyStr then
          some (Body.text (injectNonce spec.nonce nonce headers bodyStr req.qsParams).2.1)
        else req.body) := by
  simp only [signHmac, bind_eq_ok] at h
  rcases h with ⟨bodyStr, hbody, ⟨ctx, bytes⟩, hinput, headers, _, _, _, qs, hqs, hsigned⟩
  cases hsigned
  exact ⟨bodyStr, ctx, bytes, headers, _, hbody, hinput, hqs, rfl, rfl, rfl⟩

end Auth
end MarketConnector
