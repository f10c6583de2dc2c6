import MarketConnector.Foundations.FormatString
import MarketConnector.Foundations.PyValue

/-!
# Auth - Request envelope and declarative HMAC specs

The signing pipeline reads a declarative spec: where the nonce goes, which
template is signed, which inner hash it uses and where the signature is put.
This module fixes these records, the request envelope that passes through the
pipeline, and Kraken's spec.

Main results:

- Structure `NonceSpec`: a placement that injects a named field always has a name.
- Definition `krakenHmacSpec`: the spec `KRAKEN_HMAC_SPEC`.
-/

namespace MarketConnector
namespace Auth

open Foundations

/-! ## Request envelope -/

/-- Request body as text or raw bytes. -/
inductive Body where
  | text (s : String)
  | bytes (b : ByteArray)

/-- Immutable HTTP request envelope passed through the signing pipeline. -/
structure Request where
  method : String
  url : String
  path : String
  headers : Dict String String
  body : Option Body
  qsParams : Dict String PyValue

/-! ## Enumerations -/

/-- How the raw secret bytes are encoded in the credential store. -/
inductive KeyEncoding where
  | rawStr | base64 | hex | pemEc | pemRsa
deriving DecidableEq

/-- Granularity of the timestamp injected into signing templates. -/
inductive TimestampUnit where
  | seconds | milliseconds | nanoseconds
deriving DecidableEq

/-- Serialisation format for the timestamp value. -/
inductive TimestampFormat where
  | integer | iso8601 | iso8601Z
deriving DecidableEq

/-- Source of nonce entropy. -/
inductive NonceSource where
  | timestamp | counter | uuid | none
deriving DecidableEq

/-- Where the nonce is injected into the outbound request. -/
inductive NoncePlacement where
  | header | bodyField | qsField | sigOnly | none
deriving DecidableEq

/-- How the request body is serialised before signing. -/
inductive BodyFormat where
  | json | formUrlencoded | none
deriving DecidableEq

/-- HMAC signing algorithm. -/
inductive SigAlgorithm where
  | hmacSha256 | hmacSha512
deriving DecidableEq

/-- Output encoding for the computed signature. -/
inductive SigEncoding where
  | hex | base64
deriving DecidableEq

/-- One-way hash algorithm of the inner hash stage. -/
inductive HashAlgorithm where
  | sha256 | sha512
deriving DecidableEq

/-! ## Sub-specs -/

/-- Describes how to decode the raw secret credential; each derived credential is
paired with the label of its derivation function. -/
structure KeyMaterialSpec where
  encoding : KeyEncoding
  derivedCredentials : List (String × String) := []

/-- Timestamp unit and serialisation format. -/
structure TimestampSpec where
  unit : TimestampUnit
  format : TimestampFormat

/-- Placements that inject a named field into the request. -/
def NoncePlacement.requiresFieldName : NoncePlacement → Bool
  | .header | .bodyField | .qsField => true
  | .sigOnly | .none => false

/-- Nonce source, monotonicity flag and injection placement.  `__post_init__`
rejects a placement that needs a field name without one. -/
structure NonceSpec where
  source : NonceSource
  monotonic : Bool
  placement : NoncePlacement
  fieldName : Option String
  fieldName_ne_none : placement.requiresFieldName = true → fieldName ≠ none

/-- Inner hash stage used by two-stage signing recipes. -/
structure BodyHashSpec where
  algorithm : HashAlgorithm
  inputTemplate : String

/-- Full description of how to compute the HMAC signature. -/
structure SignatureRecipe where
  template : String
  bodyFormat : BodyFormat
  bodyHash : Option BodyHashSpec
  algorithm : SigAlgorithm
  outputEncoding : SigEncoding

/-- Where and how the computed signature is injected into the request. -/
structure AuthOutputSpec where
  headers : Dict String String
  bodyInject : Option (Dict String String)
  qsInject : Option (Dict String String)

/-- Composable HMAC signing spec built from five orthogonal sub-specs. -/
structure HmacSigningSpec where
  keyMaterial : KeyMaterialSpec
  timestamp : TimestampSpec
  nonce : NonceSpec
  recipe : SignatureRecipe
  output : AuthOutputSpec

/-! ## Kraken -/

/-- `KRAKEN_HMAC_SPEC`: two-stage HMAC-SHA512. -/
def krakenHmacSpec : HmacSigningSpec where
  keyMaterial := { encoding := .base64 }
  timestamp := { unit := .milliseconds, format := .integer }
  nonce :=
    { source := .counter
      monotonic := true
      placement := .bodyField
      fieldName := some "nonce"
      fieldName_ne_none := by simp }
  recipe :=
    { template := "{path_bytes}{inner_hash}"
      bodyFormat := .formUrlencoded
      bodyHash := some { algorithm := .sha256, inputTemplate := "{nonce}{body}" }
      algorithm := .hmacSha512
      outputEncoding := .base64 }
  output :=
    { headers := Dict.ofList [("API-Key", "{api_key}"), ("API-Sign", "{sig}")]
      bodyInject := none
      qsInject := none }

end Auth
end MarketConnector
