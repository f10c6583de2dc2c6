import MarketConnector.Auth.SignatureInput

/-!
# Auth - Does a signature cover the request that carries it?

A server that checks a signature expands the spec's signature input over the
request it receives.  The pipeline expands it over the request before nonce and
signature are injected, so the two agree exactly when the input reads nothing that
the injection changes.

Main results:

- Theorem `signHmac_isOk_iff`: signing with plain templates succeeds exactly when the body
  is text and they resolve.
- Theorem `selfConsistent_iff`: which specs sign what they send.
- Theorem `krakenHmacSpec_signs_other_body`: Kraken's spec does not.
-/

namespace MarketConnector
namespace Auth

open Foundations

/-! ## The request a server evaluates -/

/-- Query parameters whose injected value is built from the signature. -/
def signatureFields (spec : HmacSigningSpec) : List String :=
  ((fieldsOf spec.output.qsInject).filter fun e => templateReads e.2 "sig").map Prod.fst

/-- The signed request without its signature parameters. -/
def withoutSignature (spec : HmacSigningSpec) (req : Request) : Request :=
  { req with qsParams := req.qsParams.without (signatureFields spec) }

/-- Whatever the hash functions are, the bytes that were signed for a request with
allowed parameter names are the bytes a server computes from the signed request. -/
def SelfConsistent (spec : HmacSigningSpec) (creds : Credentials) (allowed : String → Bool) :
    Prop :=
  ∀ (prim : Primitives) (ts nonce : String) (req signed : Request) (bytes : ByteArray),
    (∀ k ∈ req.qsParams.keys, allowed k = true) →
    signatureInput prim spec creds ts nonce req = .ok bytes →
    signHmac prim spec creds ts nonce req = .ok signed →
    signatureInput prim spec creds ts nonce (withoutSignature spec signed) = .ok bytes

/-! ## What the injection changes -/

/-- The nonce is put in front of the body. -/
def changesBody (spec : HmacSigningSpec) : Bool :=
  match spec.nonce.placement, spec.nonce.fieldName with
  | .bodyField, some field => decide (field ≠ "")
  | _, _ => false

/-- Name of the query parameter that carries the nonce. -/
def nonceParams (spec : HmacSigningSpec) : List String :=
  match spec.nonce.placement, spec.nonce.fieldName with
  | .qsField, some field => if field = "" then [] else [field]
  | _, _ => []

/-- Query parameters that signing sets. -/
def injectedParams (spec : HmacSigningSpec) : List String :=
  nonceParams spec ++ (fieldsOf spec.output.qsInject).map Prod.fst

/-- Signing changes the parameters a server evaluates: it sets one that is not a
signature, or it overwrites one the request may have had. -/
def changesQuery (spec : HmacSigningSpec) (allowed : String → Bool) : Bool :=
  (injectedParams spec).any fun k => decide (k ∉ signatureFields spec) || allowed k

/-- A credential shadows the variable. -/
def Credentials.overrides (creds : Credentials) (name : String) : Bool :=
  creds.extraCreds.contains name || creds.derivedCreds.contains name

/-- The signature input reads this part of the request. -/
def readsPart (recipe : SignatureRecipe) (creds : Credentials) (name : String) : Bool :=
  inputReads recipe name && !creds.overrides name

/-- The signature input reads a part that the injection changes. -/
def readsInjected (spec : HmacSigningSpec) (creds : Credentials) (allowed : String → Bool) :
    Bool :=
  (changesBody spec && readsPart spec.recipe creds "body") ||
    (changesQuery spec allowed &&
      (readsPart spec.recipe creds "qs" || readsPart spec.recipe creds "qs_sorted"))

/-! ## Names in scope -/

/-- Variables of the signing context. -/
def contextNames (creds : Credentials) : List String :=
  ["api_key", "ts", "nonce", "method", "path", "body", "qs", "qs_sorted"] ++
    creds.extraCreds.keys ++ creds.derivedCreds.keys

/-- Variables in scope after the inner hash stage. -/
def inputNames (spec : HmacSigningSpec) (creds : Credentials) : List String :=
  if spec.recipe.bodyHash.isSome then "inner_hash" :: contextNames creds else contextNames creds

/-- The templates of the signature input parse and name variables in scope. -/
def inputResolves (spec : HmacSigningSpec) (creds : Credentials) : Bool :=
  match spec.recipe.bodyHash with
  | none => templateResolves (inputNames spec creds) spec.recipe.template
  | some h =>
      templateResolves (contextNames creds) h.inputTemplate &&
        (mentionsPathBytes spec.recipe.template ||
          templateResolves (inputNames spec creds) spec.recipe.template)

/-- Output templates of the spec. -/
def outputTemplates (spec : HmacSigningSpec) : List (String × String) :=
  spec.output.headers.entries ++ fieldsOf spec.output.bodyInject ++ fieldsOf spec.output.qsInject

/-- Templates that are expanded for a signed request. -/
def expandedTemplates (spec : HmacSigningSpec) : List String :=
  inputTemplates spec.recipe ++ (outputTemplates spec).map Prod.snd

/-- No template of the spec takes a part of a value or lays it out. -/
def plainTemplates (spec : HmacSigningSpec) : Bool :=
  (expandedTemplates spec).all templatePlain

/-- No template of the spec looks up an attribute or asks for a `repr` text. -/
def supportedTemplates (spec : HmacSigningSpec) : Bool :=
  (expandedTemplates spec).all templateSupported

/-- Every template of the spec parses and names variables that are in scope. -/
def templatesResolve (spec : HmacSigningSpec) (creds : Credentials) : Bool :=
  inputResolves spec creds &&
    (outputTemplates spec).all fun e => templateResolves ("sig" :: inputNames spec creds) e.2

theorem mem_keys_signingContext (prim : Primitives) (creds : Credentials) (ts nonce : String)
    (req : Request) (bodyStr name : String) :
    name ∈ (signingContext prim creds ts nonce req bodyStr).keys ↔ name ∈ contextNames creds := by
  unfold signingContext contextNames
  rw [Dict.mem_keys_update, Dict.mem_keys_update, List.mem_append, List.mem_append]
  rfl

theorem plainTemplates_iff {spec : HmacSigningSpec} :
    plainTemplates spec = true ↔
      (∀ template ∈ inputTemplates spec.recipe, templatePlain template = true) ∧
        ∀ e ∈ outputTemplates spec, templatePlain e.2 = true := by
  simp only [plainTemplates, expandedTemplates, List.all_eq_true, List.forall_mem_append,
    List.forall_mem_map]

/-- A successful expansion leaves the input variables in scope. -/
theorem keys_of_expandInput {prim : Primitives} {spec : HmacSigningSpec} {creds : Credentials}
    {ctx ctx' : Dict String String} {bytes : ByteArray}
    (hctx : ∀ name, name ∈ ctx.keys ↔ name ∈ contextNames creds)
    (h : expandInput prim spec.recipe ctx = .ok (ctx', bytes)) (name : String) :
    name ∈ ctx'.keys ↔ name ∈ inputNames spec creds := by
  unfold expandInput at h
  unfold inputNames
  cases hhash : spec.recipe.bodyHash with
  | none =>
      rw [hhash] at h
      rcases map_eq_ok.1 h with ⟨_, _, heq⟩
      cases heq
      simpa using hctx name
  | some hspec =>
      simp only [hhash] at h
      cases hbody : computeBodyHash prim hspec ctx with
      | error e => simp [hbody] at h
      | ok inner =>
          simp only [hbody] at h
          rcases map_eq_ok.1 h with ⟨_, _, heq⟩
          cases heq
          simp [Dict.mem_keys_set, hctx]

/-- The output templates see the signature as well. -/
theorem mem_keys_set_sig {prim : Primitives} {spec : HmacSigningSpec} {creds : Credentials}
    {ctx ctx' : Dict String String} {bytes : ByteArray}
    (hctx : ∀ name, name ∈ ctx.keys ↔ name ∈ contextNames creds)
    (h : expandInput prim spec.recipe ctx = .ok (ctx', bytes)) (sig name : String) :
    name ∈ (ctx'.set "sig" sig).keys ↔ name ∈ "sig" :: inputNames spec creds := by
  rw [Dict.mem_keys_set, List.mem_cons, keys_of_expandInput hctx h]

/-- The expansion of a plain input succeeds exactly when its templates resolve. -/
theorem expandInput_isOk_iff (prim : Primitives) {spec : HmacSigningSpec} {creds : Credentials}
    (hplain : ∀ template ∈ inputTemplates spec.recipe, templatePlain template = true)
    {ctx : Dict String String} (hctx : ∀ name, name ∈ ctx.keys ↔ name ∈ contextNames creds) :
    (∃ p, expandInput prim spec.recipe ctx = .ok p) ↔ inputResolves spec creds = true := by
  unfold expandInput inputResolves
  cases hhash : spec.recipe.bodyHash with
  | none =>
      have hnames : inputNames spec creds = contextNames creds := by
        simp [inputNames, hhash]
      have htemplate := hplain spec.recipe.template (by simp [inputTemplates, hhash])
      simp only [hnames, ← formatMap_isOk_iff_of_keys htemplate hctx]
      unfold expandSigInput
      cases mentionsPathBytes spec.recipe.template <;>
        cases formatMap spec.recipe.template ctx <;> simp [Except.map]
  | some h =>
      have hhashPlain := hplain _ (mem_inputTemplates_of_bodyHash hhash)
      have hbodyOk : (∃ inner, computeBodyHash prim h ctx = .ok inner) ↔
          templateResolves (contextNames creds) h.inputTemplate = true := by
        rw [← formatMap_isOk_iff_of_keys hhashPlain hctx]
        unfold computeBodyHash
        cases formatMap h.inputTemplate ctx <;> simp [Except.map]
      rw [Bool.and_eq_true, Bool.or_eq_true, ← hbodyOk]
      cases hbody : computeBodyHash prim h ctx with
      | error e => simp [hbody]
      | ok inner =>
          simp only [hbody]
          have hkeys : ∀ name, name ∈ (ctx.set "inner_hash" (hexEncode inner)).keys ↔
              name ∈ inputNames spec creds := by
            intro name
            simp [inputNames, hhash, Dict.mem_keys_set, hctx]
          unfold expandSigInput
          cases hmode : mentionsPathBytes spec.recipe.template with
          | true => simp [Except.map]
          | false =>
              have htemplate := hplain spec.recipe.template (by simp [inputTemplates, hhash, hmode])
              rw [← formatMap_isOk_iff_of_keys htemplate hkeys]
              cases formatMap spec.recipe.template (ctx.set "inner_hash" (hexEncode inner)) <;>
                simp [Except.map]

/-- Injection of plain templates succeeds exactly when they resolve. -/
theorem injectAll_isOk_iff {names : List String} {ctx : Dict String String}
    (hctx : ∀ name, name ∈ ctx.keys ↔ name ∈ names) {V : Type} (wrap : String → V)
    {fields : List (String × String)} (hplain : ∀ e ∈ fields, templatePlain e.2 = true)
    (d : Dict String V) :
    (∃ d', injectAll ctx wrap fields d = .ok d') ↔
      (fields.all fun e => templateResolves names e.2) = true := by
  induction fields generalizing d with
  | nil => simp [injectAll]
  | cons e fields ih =>
      rw [List.forall_mem_cons] at hplain
      rw [List.all_cons, Bool.and_eq_true, ← formatMap_isOk_iff_of_keys hplain.1 hctx]
      constructor
      · intro h
        rcases h with ⟨d', hd'⟩
        rcases injectAll_cons_eq_ok.1 hd' with ⟨v, hv, hrest⟩
        exact ⟨⟨v, hv⟩, (ih hplain.2 _).1 ⟨d', hrest⟩⟩
      · intro h
        rcases h with ⟨⟨v, hv⟩, hall⟩
        rcases (ih hplain.2 (d.set e.1 (wrap v))).2 hall with ⟨d', hd'⟩
        exact ⟨d', injectAll_cons_eq_ok.2 ⟨v, hv, hd'⟩⟩

/-- Signing with plain templates succeeds exactly when the body is text and they resolve. -/
theorem signHmac_isOk_iff (prim : Primitives) {spec : HmacSigningSpec}
    (hplain : plainTemplates spec = true) (creds : Credentials) (ts nonce : String)
    (req : Request) :
    (∃ signed, signHmac prim spec creds ts nonce req = .ok signed) ↔
      (∃ bodyStr, serialiseBody req.body spec.recipe.bodyFormat = .ok bodyStr) ∧
        templatesResolve spec creds = true := by
  obtain ⟨hinputPlain, houtputPlain⟩ := plainTemplates_iff.1 hplain
  obtain ⟨⟨hheadersPlain, hbodyPlain⟩, hqsPlain⟩ :
      ((∀ e ∈ spec.output.headers.entries, templatePlain e.2 = true) ∧
        ∀ e ∈ fieldsOf spec.output.bodyInject, templatePlain e.2 = true) ∧
          ∀ e ∈ fieldsOf spec.output.qsInject, templatePlain e.2 = true := by
    simpa only [outputTemplates, List.forall_mem_append] using houtputPlain
  unfold templatesResolve outputTemplates
  rw [Bool.and_eq_true, List.all_append, List.all_append, Bool.and_eq_true, Bool.and_eq_true]
  simp only [signHmac, bind_eq_ok]
  constructor
  · intro h
    rcases h with ⟨_, bodyStr, hbody, ⟨ctx, bytes⟩, hinput, headers, hheaders, _, hbodyInject,
      qs, hqs, _⟩
    have hctx := mem_keys_signingContext prim creds ts nonce req bodyStr
    have hkeys := mem_keys_set_sig hctx hinput
    exact ⟨⟨bodyStr, hbody⟩, (expandInput_isOk_iff prim hinputPlain hctx).1 ⟨_, hinput⟩,
      ⟨(injectAll_isOk_iff (hkeys _) _ hheadersPlain _).1 ⟨_, hheaders⟩,
        (injectAll_isOk_iff (hkeys _) _ hbodyPlain _).1 ⟨_, hbodyInject⟩⟩,
      (injectAll_isOk_iff (hkeys _) _ hqsPlain _).1 ⟨_, hqs⟩⟩
  · intro h
    rcases h with ⟨⟨bodyStr, hbody⟩, hinputs, ⟨hheaders, hbodyInject⟩, hqs⟩
    have hctx := mem_keys_signingContext prim creds ts nonce req bodyStr
    rcases (expandInput_isOk_iff prim hinputPlain hctx).2 hinputs with ⟨⟨ctx, bytes⟩, hinput⟩
    have hkeys := mem_keys_set_sig hctx hinput
    rcases (injectAll_isOk_iff (hkeys _) id hheadersPlain req.headers).2 hheaders with
      ⟨headers, hheaders⟩
    rcases (injectAll_isOk_iff (hkeys _) id hbodyPlain ∅).2 hbodyInject with ⟨_, hbodyInject⟩
    rcases (injectAll_isOk_iff (hkeys _) PyValue.str hqsPlain
      (injectNonce spec.nonce nonce headers bodyStr req.qsParams).2.2).2 hqs with ⟨qs, hqs⟩
    exact ⟨_, bodyStr, hbody, (ctx, bytes), hinput, headers, hheaders, _, hbodyInject, qs, hqs,
      rfl⟩

/-! ## Signing contexts of two requests -/

/-- A shadowed variable does not see the request. -/
theorem signingContext_of_overrides {creds : Credentials} {name : String}
    (hover : creds.overrides name = true) (prim : Primitives) (ts nonce : String)
    (req req' : Request) (b b' : String) :
    (signingContext prim creds ts nonce req b).get? name =
      (signingContext prim creds ts nonce req' b').get? name := by
  unfold Credentials.overrides at hover
  rw [Bool.or_eq_true, ← Dict.mem_keys_iff, ← Dict.mem_keys_iff] at hover
  unfold signingContext
  by_cases hderived : name ∈ creds.derivedCreds.keys
  · exact Dict.get?_update_of_mem _ _ hderived
  · rw [Dict.get?_update_of_not_mem _ hderived, Dict.get?_update_of_not_mem _ hderived]
    exact Dict.get?_update_of_mem _ _ (hover.resolve_right hderived)

/-- A variable that no credential shadows has its base value. -/
theorem signingContext_of_not_overrides {creds : Credentials} {name : String}
    (hover : creds.overrides name = false) (prim : Primitives) (ts nonce : String)
    (req : Request) (b : String) :
    (signingContext prim creds ts nonce req b).get? name =
      (baseContext prim creds ts nonce req b).get? name := by
  unfold Credentials.overrides at hover
  rw [Bool.or_eq_false_iff, ← Bool.not_eq_true, ← Bool.not_eq_true, ← Dict.mem_keys_iff,
    ← Dict.mem_keys_iff] at hover
  unfold signingContext
  rw [Dict.get?_update_of_not_mem _ hover.2, Dict.get?_update_of_not_mem _ hover.1]

/-- The variables that depend on body and parameters are the only ones that differ
between requests of one method and path. -/
theorem signingContext_eq_of_unvarying {creds : Credentials} {name : String}
    {req req' : Request} (hmethod : req.method = req'.method) (hpath : req.path = req'.path)
    (hbody : name ≠ "body") (hqs : name ≠ "qs") (hsorted : name ≠ "qs_sorted")
    (prim : Primitives) (ts nonce b b' : String) :
    (signingContext prim creds ts nonce req b).get? name =
      (signingContext prim creds ts nonce req' b').get? name := by
  cases hover : creds.overrides name with
  | true => exact signingContext_of_overrides hover ..
  | false =>
      rw [signingContext_of_not_overrides hover, signingContext_of_not_overrides hover]
      simp [baseContext, Dict.get?, Dict.lookupEntries, hmethod, hpath, hbody.symm, hqs.symm,
        hsorted.symm]

theorem signingContext_body {creds : Credentials} (hover : creds.overrides "body" = false)
    (prim : Primitives) (ts nonce : String) (req : Request) (b : String) :
    (signingContext prim creds ts nonce req b).get? "body" = some b :=
  (signingContext_of_not_overrides hover ..).trans rfl

theorem signingContext_qs {creds : Credentials} (hover : creds.overrides "qs" = false)
    (prim : Primitives) (ts nonce : String) (req : Request) (b : String) :
    (signingContext prim creds ts nonce req b).get? "qs" = some (qsOrdered prim req.qsParams) :=
  (signingContext_of_not_overrides hover ..).trans rfl

theorem signingContext_qsSorted {creds : Credentials}
    (hover : creds.overrides "qs_sorted" = false) (prim : Primitives) (ts nonce : String)
    (req : Request) (b : String) :
    (signingContext prim creds ts nonce req b).get? "qs_sorted" =
      some (qsSorted prim req.qsParams) :=
  (signingContext_of_not_overrides hover ..).trans rfl

/-- A variable has the same value in the contexts of two requests of one method and
path when the part of the request it shows is the same. -/
theorem signingContext_congr {creds : Credentials} {name : String} {req req' : Request}
    {b b' : String} (hmethod : req.method = req'.method) (hpath : req.path = req'.path)
    (hbody : name = "body" → creds.overrides name = false → b = b')
    (hqs : name = "qs" ∨ name = "qs_sorted" → creds.overrides name = false →
      req.qsParams = req'.qsParams) (prim : Primitives) (ts nonce : String) :
    (signingContext prim creds ts nonce req b).get? name =
      (signingContext prim creds ts nonce req' b').get? name := by
  cases hover : creds.overrides name with
  | true => exact signingContext_of_overrides hover ..
  | false =>
      rcases eq_or_ne name "body" with rfl | hnotBody
      · rw [signingContext_body hover, signingContext_body hover, hbody rfl hover]
      rcases eq_or_ne name "qs" with rfl | hnotQs
      · rw [signingContext_qs hover, signingContext_qs hover, hqs (Or.inl rfl) hover]
      rcases eq_or_ne name "qs_sorted" with rfl | hnotSorted
      · rw [signingContext_qsSorted hover, signingContext_qsSorted hover, hqs (Or.inr rfl) hover]
      exact signingContext_eq_of_unvarying hmethod hpath hnotBody hnotQs hnotSorted ..

/-- A variable does not shrink when body and parameters do not lose anything: the
first request has no body text and no parameters. -/
theorem signingContext_valueLe {creds : Credentials} {name : String} {req req' : Request}
    {b b' : String} (hmethod : req.method = req'.method) (hpath : req.path = req'.path)
    (hbody : name = "body" → creds.overrides name = false →
      b.utf8ByteSize ≤ b'.utf8ByteSize)
    (hqs : req.qsParams = ∅) (prim : Primitives) (ts nonce : String) :
    ValueLe (signingContext prim creds ts nonce req b)
      (signingContext prim creds ts nonce req' b') name := by
  cases hover : creds.overrides name with
  | true => exact ValueLe.of_eq (signingContext_of_overrides hover ..)
  | false =>
      rcases eq_or_ne name "body" with rfl | hnotBody
      · intro v v' hv hv'
        rw [signingContext_body hover] at hv hv'
        cases hv
        cases hv'
        exact hbody rfl hover
      rcases eq_or_ne name "qs" with rfl | hnotQs
      · intro v v' hv _
        rw [signingContext_qs hover, hqs] at hv
        cases hv
        exact Nat.zero_le _
      rcases eq_or_ne name "qs_sorted" with rfl | hnotSorted
      · intro v v' hv _
        rw [signingContext_qsSorted hover, hqs] at hv
        cases hv
        exact Nat.zero_le _
      exact ValueLe.of_eq
        (signingContext_eq_of_unvarying hmethod hpath hnotBody hnotQs hnotSorted ..)

/-- The query string of a request with parameters is not empty. -/
theorem qsOrdered_size_pos (prim : Primitives) {qs : Dict String PyValue} {k : String}
    (hk : k ∈ qs.keys) : 0 < (qsOrdered prim qs).utf8ByteSize := by
  have hne : qs.entries ≠ [] := by
    intro hnil
    simp [Dict.keys, hnil] at hk
  unfold qsOrdered
  rw [if_neg hne, String.utf8ByteSize_append]
  have : "?".utf8ByteSize = 1 := rfl
  omega

/-- The sorted query string of a request with parameters is not empty. -/
theorem qsSorted_size_pos (prim : Primitives) {qs : Dict String PyValue} {k : String}
    (hk : k ∈ qs.keys) : 0 < (qsSorted prim qs).utf8ByteSize := by
  apply UrlEncoding.urlencode_size_pos
  intro hnil
  have hlength := congrArg List.length hnil
  rw [List.length_insertionSort, qsItems, List.length_map] at hlength
  have hentries : qs.entries = [] := List.eq_nil_of_length_eq_zero hlength
  simp [Dict.keys, hentries] at hk

/-- Both query variables grow from no parameters to some. -/
theorem signingContext_query_valueLt {creds : Credentials} {name k : String}
    {req req' : Request} {b b' : String} (hname : name = "qs" ∨ name = "qs_sorted")
    (hover : creds.overrides name = false) (hqs : req.qsParams = ∅)
    (hk : k ∈ req'.qsParams.keys) (prim : Primitives) (ts nonce : String) :
    ValueLt (signingContext prim creds ts nonce req b)
      (signingContext prim creds ts nonce req' b') name := by
  intro v v' hv hv'
  rcases hname with rfl | rfl
  · rw [signingContext_qs hover] at hv hv'
    rw [hqs] at hv
    cases hv
    cases hv'
    exact qsOrdered_size_pos prim hk
  · rw [signingContext_qsSorted hover] at hv hv'
    rw [hqs] at hv
    cases hv
    cases hv'
    exact qsSorted_size_pos prim hk

/-! ## The signed request -/

/-- Body text after the nonce is injected. -/
def sentBody (spec : HmacSigningSpec) (nonce bodyStr : String) : String :=
  (injectNonce spec.nonce nonce ∅ bodyStr ∅).2.1

theorem injectNonce_body (spec : HmacSigningSpec) (nonce : String)
    (headers : Dict String String) (bodyStr : String) (qs : Dict String PyValue) :
    (injectNonce spec.nonce nonce headers bodyStr qs).2.1 = sentBody spec nonce bodyStr := by
  unfold sentBody injectNonce
  cases spec.nonce.fieldName with
  | none => rfl
  | some field => by_cases hfield : field = "" <;> cases spec.nonce.placement <;> simp [hfield]

/-- The nonce parameter is set, and nothing else. -/
theorem injectNonce_params (spec : HmacSigningSpec) (nonce : String)
    (headers : Dict String String) (bodyStr : String) (qs : Dict String PyValue) :
    (injectNonce spec.nonce nonce headers bodyStr qs).2.2 =
      qs.update ((nonceParams spec).map fun k => (k, .str nonce)) := by
  unfold injectNonce nonceParams
  cases spec.nonce.fieldName with
  | none => cases spec.nonce.placement <;> rfl
  | some field =>
      by_cases hfield : field = "" <;> cases spec.nonce.placement <;>
        simp [hfield, Dict.update]

theorem sentBody_of_not_changesBody {spec : HmacSigningSpec} (h : changesBody spec = false)
    (nonce bodyStr : String) : sentBody spec nonce bodyStr = bodyStr := by
  unfold changesBody at h
  unfold sentBody injectNonce
  cases hfield : spec.nonce.fieldName with
  | none => rfl
  | some field =>
      by_cases hempty : field = "" <;> cases hplace : spec.nonce.placement <;> simp_all

/-- An injected nonce field makes an empty body longer. -/
theorem sentBody_size_pos {spec : HmacSigningSpec} (h : changesBody spec = true)
    (nonce : String) : 0 < (sentBody spec nonce "").utf8ByteSize := by
  unfold changesBody at h
  unfold sentBody injectNonce
  cases hfield : spec.nonce.fieldName with
  | none => simp [hfield] at h
  | some field =>
      have heq : 0 < "=".utf8ByteSize := by decide
      cases hplace : spec.nonce.placement <;> simp_all [String.utf8ByteSize_append]

/-- The signed request, as far as a server's signature input can see it. -/
theorem signed_parts {prim : Primitives} {spec : HmacSigningSpec} {creds : Credentials}
    {ts nonce : String} {req signed : Request}
    (h : signHmac prim spec creds ts nonce req = .ok signed) :
    ∃ bodyStr,
      serialiseBody req.body spec.recipe.bodyFormat = .ok bodyStr ∧
      serialiseBody signed.body spec.recipe.bodyFormat = .ok (sentBody spec nonce bodyStr) ∧
      req.method = signed.method ∧ req.path = signed.path ∧
      (∀ k, k ∈ signed.qsParams.keys ↔ k ∈ req.qsParams.keys ∨ k ∈ injectedParams spec) ∧
      (∀ ks, (∀ k ∈ injectedParams spec, k ∈ ks) →
        signed.qsParams.without ks = req.qsParams.without ks) := by
  rcases signHmac_eq_ok h with ⟨bodyStr, ctx, bytes, headers, sig, hbody, _, hqs, hmethod, hpath,
    hsent⟩
  rw [injectNonce_params] at hqs
  rw [injectNonce_body] at hsent
  refine ⟨bodyStr, hbody, ?_, hmethod.symm, hpath.symm, ?_, ?_⟩
  · rw [hsent]
    by_cases hchanged : sentBody spec nonce bodyStr = bodyStr
    · rw [if_neg (not_not.2 hchanged), hbody, hchanged]
    · rw [if_pos hchanged]
      rfl
  · intro k
    rw [injectAll_keys hqs, Dict.mem_keys_update, List.map_map, injectedParams, List.mem_append,
      or_assoc]
    simp [Function.comp_def]
  · intro ks hks
    rw [injectAll_without hqs, Dict.without_update_of_mem]
    · intro e he
      obtain ⟨k, hk, rfl⟩ := List.mem_map.1 he
      exact hks k (List.mem_append_left _ hk)
    · intro e he
      exact hks e.1 (List.mem_append_right _ (List.mem_map_of_mem he))

theorem signatureInput_eq_ok {prim : Primitives} {spec : HmacSigningSpec} {creds : Credentials}
    {ts nonce : String} {req : Request} {bytes : ByteArray} :
    signatureInput prim spec creds ts nonce req = .ok bytes ↔
      ∃ bodyStr, serialiseBody req.body spec.recipe.bodyFormat = .ok bodyStr ∧
        inputBytes prim spec.recipe (signingContext prim creds ts nonce req bodyStr) =
          .ok bytes := by
  unfold signatureInput inputBytes
  cases hbody : serialiseBody req.body spec.recipe.bodyFormat <;> simp

/-- With resolving templates the input of a request with a text body exists. -/
theorem inputBytes_isOk {spec : HmacSigningSpec} {creds : Credentials}
    (hplain : plainTemplates spec = true) (h : templatesResolve spec creds = true)
    (prim : Primitives) (ts nonce : String)
    (req : Request) (bodyStr : String) :
    ∃ bytes, inputBytes prim spec.recipe (signingContext prim creds ts nonce req bodyStr) =
      .ok bytes := by
  unfold templatesResolve at h
  rw [Bool.and_eq_true] at h
  rcases (expandInput_isOk_iff prim (plainTemplates_iff.1 hplain).1
    (mem_keys_signingContext prim creds ts nonce req bodyStr)).2 h.1 with ⟨p, hp⟩
  exact ⟨p.2, map_eq_ok.2 ⟨p, hp, rfl⟩⟩

/-! ## Exactly which specs are self-consistent -/

theorem signatureFields_subset (spec : HmacSigningSpec) {k : String}
    (hk : k ∈ signatureFields spec) : k ∈ injectedParams spec := by
  unfold signatureFields at hk
  rcases List.mem_map.1 hk with ⟨e, he, rfl⟩
  exact List.mem_append_right _ (List.mem_map_of_mem (List.mem_of_mem_filter he))

theorem changesQuery_eq_false {spec : HmacSigningSpec} {allowed : String → Bool} :
    changesQuery spec allowed = false ↔
      ∀ k ∈ injectedParams spec, k ∈ signatureFields spec ∧ allowed k = false := by
  simp [changesQuery]

/-- A spec whose input reads nothing that is injected signs what it sends. -/
theorem selfConsistent_of_not_reads {spec : HmacSigningSpec} {creds : Credentials}
    {allowed : String → Bool} (hreads : readsInjected spec creds allowed = false) :
    SelfConsistent spec creds allowed := by
  intro prim ts nonce req signed bytes hallowed hinput hsigned
  rcases signatureInput_eq_ok.1 hinput with ⟨bodyStr, hbody, hbytes⟩
  rcases signed_parts hsigned with ⟨bodyStr', hbody', hsent, hmethod, hpath, _, hwithout⟩
  cases hbody.symm.trans hbody'
  rw [readsInjected, Bool.or_eq_false_iff, Bool.and_eq_false_iff, Bool.and_eq_false_iff,
    Bool.or_eq_false_iff] at hreads
  have hcongr : ∀ name, (inputReads spec.recipe name = true ∨ name = "path") →
      (signingContext prim creds ts nonce req bodyStr).get? name =
        (signingContext prim creds ts nonce (withoutSignature spec signed)
          (sentBody spec nonce bodyStr)).get? name := by
    intro name hname
    have hread : name ≠ "path" → creds.overrides name = false →
        readsPart spec.recipe creds name = true := by
      intro hne hover
      simp [readsPart, hname.resolve_right hne, hover]
    have hmethod' : req.method = (withoutSignature spec signed).method := hmethod
    have hpath' : req.path = (withoutSignature spec signed).path := hpath
    apply signingContext_congr hmethod' hpath'
    · rintro rfl hover
      rcases hreads.1 with hbodySame | hunread
      · exact (sentBody_of_not_changesBody hbodySame nonce bodyStr).symm
      · rw [hread (by decide) hover] at hunread
        cases hunread
    · intro hquery hover
      have hne : name ≠ "path" := by
        rcases hquery with rfl | rfl <;> decide
      rcases hreads.2 with hsame | hunread
      · -- every injected parameter is a signature, and the request has none of these
        rw [changesQuery_eq_false] at hsame
        show req.qsParams = signed.qsParams.without (signatureFields spec)
        rw [hwithout _ fun k hk => (hsame k hk).1]
        symm
        apply Dict.without_eq_self
        intro k hk hmem
        have := (hsame k (signatureFields_subset spec hk)).2
        rw [hallowed k hmem] at this
        cases this
      · have hreadPart := hread hne hover
        rcases hquery with rfl | rfl
        · rw [hunread.1] at hreadPart
          cases hreadPart
        · rw [hunread.2] at hreadPart
          cases hreadPart
  have hkeys : ∀ name, name ∈ (signingContext prim creds ts nonce req bodyStr).keys ↔
      name ∈ (signingContext prim creds ts nonce (withoutSignature spec signed)
        (sentBody spec nonce bodyStr)).keys := by
    intro name
    rw [mem_keys_signingContext, mem_keys_signingContext]
  exact signatureInput_eq_ok.2 ⟨_, hsent, inputBytes_congr hkeys
    (fun name hname => hcongr name (Or.inl hname)) (hcongr "path" (Or.inr rfl)) hbytes⟩

/-- Primitives that lose nothing. -/
def transparent : Primitives where
  hashBytes _ b := b
  hmacBytes _ _ b := b
  reprText _ := ""

/-- A request with nothing but parameters. -/
def probe (qs : Dict String PyValue) : Request where
  method := ""
  url := ""
  path := ""
  headers := ∅
  body := none
  qsParams := qs

theorem probe_qsParams (qs : Dict String PyValue) : (probe qs).qsParams = qs :=
  rfl

/-- If the sizes of the two inputs of a probe differ, the spec is not
self-consistent. -/
theorem not_selfConsistent_of_size_ne {spec : HmacSigningSpec} {creds : Credentials}
    {allowed : String → Bool} (hplain : plainTemplates spec = true)
    (hresolve : templatesResolve spec creds = true)
    {qs : Dict String PyValue} (hqs : ∀ k ∈ qs.keys, allowed k = true)
    (hdiff : ∀ (req' : Request) (bytes bytes' : ByteArray),
      "" = req'.method → "" = req'.path →
      (∀ k, k ∈ req'.qsParams.keys ↔
        (k ∈ qs.keys ∨ k ∈ injectedParams spec) ∧ k ∉ signatureFields spec) →
      inputBytes transparent spec.recipe (signingContext transparent creds "" "" (probe qs) "") =
        .ok bytes →
      inputBytes transparent spec.recipe
        (signingContext transparent creds "" "" req' (sentBody spec "" "")) = .ok bytes' →
      bytes.size ≠ bytes'.size) :
    ¬ SelfConsistent spec creds allowed := by
  intro hself
  rcases (signHmac_isOk_iff transparent hplain creds "" "" (probe qs)).2
    ⟨⟨"", rfl⟩, hresolve⟩ with ⟨signed, hsigned⟩
  rcases signed_parts hsigned with ⟨bodyStr, hbody, hsent, hmethod, hpath, hkeys, _⟩
  cases hbody
  rcases inputBytes_isOk hplain hresolve transparent "" "" (probe qs) "" with ⟨bytes, hbytes⟩
  have hverified := hself transparent "" "" (probe qs) signed bytes hqs
    (signatureInput_eq_ok.2 ⟨"", rfl, hbytes⟩) hsigned
  rcases signatureInput_eq_ok.1 hverified with ⟨bodyStr', hbody', hbytes'⟩
  cases hsent.symm.trans hbody'
  refine hdiff (withoutSignature spec signed) bytes bytes hmethod hpath ?_ hbytes hbytes' rfl
  intro k
  have hprobe : k ∈ signed.qsParams.keys ↔ k ∈ qs.keys ∨ k ∈ injectedParams spec := hkeys k
  rw [← hprobe]
  exact Dict.mem_keys_without signed.qsParams

theorem transparent_hash_size (algorithm : HashAlgorithm) (b : ByteArray) :
    (transparent.hashBytes algorithm b).size = b.size :=
  rfl

theorem no_keys_allowed (allowed : String → Bool) :
    ∀ k ∈ (∅ : Dict String PyValue).keys, allowed k = true := by
  intro k hk
  cases hk

/-- If the verifier of an empty probe has a longer value for a variable that the input reads,
the spec is not self-consistent. -/
theorem not_selfConsistent_of_grown {spec : HmacSigningSpec} {creds : Credentials}
    {allowed : String → Bool} (hplain : plainTemplates spec = true)
    (hresolve : templatesResolve spec creds = true) {grown : String}
    (hgrown : grown ≠ "inner_hash") (hread : inputReads spec.recipe grown = true)
    (hlt : ∀ req' : Request, (∀ k ∈ injectedParams spec, k ∉ signatureFields spec →
        k ∈ req'.qsParams.keys) →
      ValueLt (signingContext transparent creds "" "" (probe ∅) "")
        (signingContext transparent creds "" "" req' (sentBody spec "" "")) grown) :
    ¬ SelfConsistent spec creds allowed := by
  apply not_selfConsistent_of_size_ne hplain hresolve (no_keys_allowed allowed)
  intro req' bytes bytes' hmethod hpath hkeys hbytes hbytes'
  apply Nat.ne_of_lt
  apply inputBytes_size_lt (plainTemplates_iff.1 hplain).1 transparent_hash_size _ _ hgrown hread _
    hbytes hbytes'
  · intro name _
    apply signingContext_valueLe hmethod hpath _ (probe_qsParams ∅)
    intro _ _
    exact Nat.zero_le _
  · exact signingContext_eq_of_unvarying hmethod hpath (by decide) (by decide) (by decide) ..
  · exact hlt req' fun k hk hsig => (hkeys k).2 ⟨Or.inr hk, hsig⟩

/-- A nonce in the body is missed by an input that reads the body. -/
theorem not_selfConsistent_of_body {spec : HmacSigningSpec} {creds : Credentials}
    {allowed : String → Bool} (hplain : plainTemplates spec = true)
    (hresolve : templatesResolve spec creds = true)
    (hchange : changesBody spec = true) (hread : readsPart spec.recipe creds "body" = true) :
    ¬ SelfConsistent spec creds allowed := by
  rw [readsPart, Bool.and_eq_true, Bool.not_eq_true'] at hread
  apply not_selfConsistent_of_grown hplain hresolve (by decide) hread.1
  intro req' _ v v' hv hv'
  rw [signingContext_body hread.2] at hv hv'
  cases hv
  cases hv'
  exact sentBody_size_pos hchange ""

/-- An injected parameter that is no signature is missed by an input that reads the
parameters. -/
theorem not_selfConsistent_of_param {spec : HmacSigningSpec} {creds : Credentials}
    {allowed : String → Bool} (hplain : plainTemplates spec = true)
    (hresolve : templatesResolve spec creds = true)
    {k : String} (hk : k ∈ injectedParams spec) (hsig : k ∉ signatureFields spec)
    {name : String} (hname : name = "qs" ∨ name = "qs_sorted")
    (hread : readsPart spec.recipe creds name = true) :
    ¬ SelfConsistent spec creds allowed := by
  rw [readsPart, Bool.and_eq_true, Bool.not_eq_true'] at hread
  have hhash : name ≠ "inner_hash" := by
    rcases hname with rfl | rfl <;> decide
  apply not_selfConsistent_of_grown hplain hresolve hhash hread.1
  intro req' hkeys
  exact signingContext_query_valueLt hname hread.2 (probe_qsParams ∅) (hkeys k hk hsig)
    transparent "" ""

/-- A signature parameter the request already had is overwritten, and an input that
reads the parameters has seen it. -/
theorem not_selfConsistent_of_overwrite {spec : HmacSigningSpec} {creds : Credentials}
    {allowed : String → Bool} (hplain : plainTemplates spec = true)
    (hresolve : templatesResolve spec creds = true)
    (hsig : ∀ k ∈ injectedParams spec, k ∈ signatureFields spec)
    {k : String} (hk : k ∈ injectedParams spec) (hallowed : allowed k = true)
    (hbody : changesBody spec = true → readsPart spec.recipe creds "body" = false)
    {name : String} (hname : name = "qs" ∨ name = "qs_sorted")
    (hread : readsPart spec.recipe creds name = true) :
    ¬ SelfConsistent spec creds allowed := by
  rw [readsPart, Bool.and_eq_true, Bool.not_eq_true'] at hread
  have hkeysAllowed : ∀ k' ∈ (Dict.ofList [(k, PyValue.str "")]).keys, allowed k' = true := by
    intro k' hk'
    cases List.mem_singleton.1 hk'
    exact hallowed
  apply not_selfConsistent_of_size_ne hplain hresolve hkeysAllowed
  intro req' bytes bytes' hmethod hpath hkeys hbytes hbytes'
  -- the server sees no parameters, the signer saw one
  have hempty : req'.qsParams = ∅ := by
    apply Dict.ext
    apply List.eq_nil_iff_forall_not_mem.2
    intro e he
    have hmem := (hkeys e.1).1 (List.mem_map_of_mem he)
    rcases hmem with ⟨hin | hin, hnot⟩
    · have hek : e.1 = k := List.mem_singleton.1 hin
      exact hnot (hek ▸ hsig k hk)
    · exact hnot (hsig e.1 hin)
  apply Nat.ne_of_gt
  apply inputBytes_size_lt (plainTemplates_iff.1 hplain).1 transparent_hash_size _ _ _ hread.1 _
    hbytes' hbytes
  · intro name' hread'
    apply signingContext_valueLe hmethod.symm hpath.symm _ hempty
    rintro rfl hover
    cases hchange : changesBody spec with
    | false => rw [sentBody_of_not_changesBody hchange]
    | true =>
        have := hbody hchange
        simp [readsPart, hread', hover] at this
  · exact signingContext_eq_of_unvarying hmethod.symm hpath.symm (by decide) (by decide)
      (by decide) ..
  · rcases hname with rfl | rfl <;> decide
  · have hmem : k ∈ (probe (Dict.ofList [(k, PyValue.str "")])).qsParams.keys :=
      List.mem_singleton.2 rfl
    exact signingContext_query_valueLt hname hread.2 hempty hmem transparent "" ""

/-- What a self-consistent spec with plain templates that resolve does not read. -/
theorem readsInjected_eq_false {spec : HmacSigningSpec} {creds : Credentials}
    {allowed : String → Bool} (hplain : plainTemplates spec = true)
    (hresolve : templatesResolve spec creds = true) (hself : SelfConsistent spec creds allowed) :
    readsInjected spec creds allowed = false := by
  by_contra hreads
  rw [Bool.not_eq_false, readsInjected, Bool.or_eq_true, Bool.and_eq_true, Bool.and_eq_true,
    Bool.or_eq_true] at hreads
  by_cases hbody : changesBody spec = true ∧ readsPart spec.recipe creds "body" = true
  · exact not_selfConsistent_of_body hplain hresolve hbody.1 hbody.2 hself
  rcases hreads.resolve_left hbody with ⟨hchange, hquery⟩
  have hname : ∃ name, (name = "qs" ∨ name = "qs_sorted") ∧
      readsPart spec.recipe creds name = true := by
    rcases hquery with h | h
    · exact ⟨"qs", Or.inl rfl, h⟩
    · exact ⟨"qs_sorted", Or.inr rfl, h⟩
  rcases hname with ⟨name, hname, hread⟩
  by_cases hsig : ∀ k ∈ injectedParams spec, k ∈ signatureFields spec
  · rcases List.any_eq_true.1 hchange with ⟨k, hk, hor⟩
    have hallowed : allowed k = true := by
      simpa [hsig k hk] using hor
    have hunread : changesBody spec = true → readsPart spec.recipe creds "body" = false := by
      intro hc
      rw [← Bool.not_eq_true]
      exact fun hr => hbody ⟨hc, hr⟩
    exact not_selfConsistent_of_overwrite hplain hresolve hsig hk hallowed hunread hname hread hself
  · simp only [not_forall] at hsig
    rcases hsig with ⟨k, hk, hnotSig⟩
    exact not_selfConsistent_of_param hplain hresolve hk hnotSig hname hread hself

/-- A spec is self-consistent when its signature input reads nothing that is injected.  If its
templates show the values of their fields as they are, it is self-consistent only then, or
when they never expand. -/
theorem selfConsistent_iff (spec : HmacSigningSpec) (creds : Credentials)
    (allowed : String → Bool) :
    (supportedTemplates spec = true → readsInjected spec creds allowed = false →
      SelfConsistent spec creds allowed) ∧
    (plainTemplates spec = true →
      (SelfConsistent spec creds allowed ↔
        templatesResolve spec creds = false ∨ readsInjected spec creds allowed = false)) := by
  refine ⟨fun _ => selfConsistent_of_not_reads, fun hplain => ⟨fun hself => ?_, ?_⟩⟩
  · cases hresolve : templatesResolve spec creds with
    | false => exact Or.inl rfl
    | true => exact Or.inr (readsInjected_eq_false hplain hresolve hself)
  · rintro (hresolve | hreads)
    · -- no request is ever signed
      intro prim ts nonce req signed bytes _ _ hsigned
      have hok := ((signHmac_isOk_iff prim hplain creds ts nonce req).1 ⟨signed, hsigned⟩).2
      rw [hresolve] at hok
      cases hok
    · exact selfConsistent_of_not_reads hreads

/-- A private Kraken call with one form field. -/
def krakenOrderRequest : Request where
  method := "POST"
  url := "https://api.kraken.com/0/private/AddOrder"
  path := "/0/private/AddOrder"
  headers := ∅
  body := some (.text "pair=XBTUSD")
  qsParams := ∅

/-- Credentials without extras. -/
def plainCredentials : Credentials where
  apiKey := "key"
  secretBytes := "secret".toUTF8
  extraCreds := ∅
  derivedCreds := ∅

/-- Kraken's templates are plain, and they read the body that the nonce is put into. -/
theorem selfConsistent_iff_kraken :
    plainTemplates krakenHmacSpec = true ∧ templatesResolve krakenHmacSpec plainCredentials = true ∧
      readsInjected krakenHmacSpec plainCredentials (fun _ => true) = true ∧
      ¬ SelfConsistent krakenHmacSpec plainCredentials fun _ => true := by
  have hplain : plainTemplates krakenHmacSpec = true := by decide
  have hresolve : templatesResolve krakenHmacSpec plainCredentials = true := by decide
  have hreads : readsInjected krakenHmacSpec plainCredentials (fun _ => true) = true := by decide
  refine ⟨hplain, hresolve, hreads, fun hself => ?_⟩
  rcases ((selfConsistent_iff krakenHmacSpec plainCredentials fun _ => true).2 hplain).1 hself with
    hnever | hnot
  · cases hresolve.symm.trans hnever
  · cases hreads.symm.trans hnot

/-- Kraken's spec hashes the body without its nonce and sends the body with it. -/
theorem krakenHmacSpec_signs_other_body :
    ∃ signed bytes bytes',
      signatureInput transparent krakenHmacSpec plainCredentials "7" "7" krakenOrderRequest =
        .ok bytes ∧
      signHmac transparent krakenHmacSpec plainCredentials "7" "7" krakenOrderRequest =
        .ok signed ∧
      signed.body = some (.text "nonce=7&pair=XBTUSD") ∧
      signatureInput transparent krakenHmacSpec plainCredentials "7" "7"
        (withoutSignature krakenHmacSpec signed) = .ok bytes' ∧
      bytes = "/0/private/AddOrder7pair=XBTUSD".toUTF8 ∧
      bytes' = "/0/private/AddOrder7nonce=7&pair=XBTUSD".toUTF8 ∧ bytes' ≠ bytes ∧
      ¬ SelfConsistent krakenHmacSpec plainCredentials fun _ => true := by
  have hne : "/0/private/AddOrder7nonce=7&pair=XBTUSD".toUTF8 ≠
      "/0/private/AddOrder7pair=XBTUSD".toUTF8 := by decide
  refine ⟨_, _, _, rfl, rfl, rfl, rfl, rfl, rfl, hne, ?_⟩
  intro hself
  have hverified := hself transparent "7" "7" krakenOrderRequest _ _ (fun _ _ => rfl) rfl rfl
  exact hne (Except.ok.inj hverified)

end Auth
end MarketConnector
