import Mathlib.Data.String.Basic
import MarketConnector.Auth.Declarative

/-!
# Auth - What the signature input reads

The input is expanded from the recipe template, with the inner hash of a second
template behind one of its variables.  This module says which variables of the
signing context reach it.

Main results:

- Theorem `formatMap_isOk_iff`: a plain template expands exactly when its names resolve.
- Theorem `inputBytes_congr`: the input depends on the path and on what it reads.
- Theorem `inputBytes_size_lt`: a longer value of a variable it reads gives a
  longer input when hashing keeps lengths.
-/

namespace MarketConnector
namespace Auth

open Foundations

/-! ## What a template reads -/

/-- The template has a replacement field of this name. -/
def templateReads (template name : String) : Bool :=
  match FormatString.parse template with
  | .ok ps => decide (name ∈ FormatString.fieldNames ps)
  | .error _ => false

/-- The template parses and names only listed variables. -/
def templateResolves (names : List String) (template : String) : Bool :=
  match FormatString.parse template with
  | .ok ps => (FormatString.fieldNames ps).all fun name => decide (name ∈ names)
  | .error _ => false

/-- The fields of the template are names, and nothing is taken of or added to their values; a
template that is never expanded counts as well. -/
def templatePlain (template : String) : Bool :=
  match FormatString.parse template with
  | .ok ps => ps.all FormatString.Piece.isPlain
  | .error (.unsupportedField _) => false
  | .error _ => true

/-- The template has no attribute lookup and no conversion to a `repr` text. -/
def templateSupported (template : String) : Bool :=
  match FormatString.parse template with
  | .error (.unsupportedField _) => false
  | _ => true

theorem formatMap_eq_ok {template : String} {ctx : Dict String String} {out : String} :
    formatMap template ctx = .ok out ↔
      ∃ ps, FormatString.parse template = .ok ps ∧ FormatString.expand ctx.get? ps = .ok out := by
  unfold formatMap
  rw [mapError_eq_ok, FormatString.formatMap_eq]
  cases FormatString.parse template with
  | error e => simp
  | ok ps => simp

theorem isPlain_of_templatePlain {template : String} (hplain : templatePlain template = true)
    {ps : List FormatString.Piece} (hparse : FormatString.parse template = .ok ps) :
    ∀ p ∈ ps, p.isPlain = true := by
  unfold templatePlain at hplain
  rw [hparse] at hplain
  exact List.all_eq_true.1 hplain

/-- Expansion of a plain template succeeds exactly when it resolves over the context. -/
theorem formatMap_isOk_iff {template : String} (hplain : templatePlain template = true)
    (ctx : Dict String String) :
    (∃ out, formatMap template ctx = .ok out) ↔ templateResolves ctx.keys template = true := by
  simp only [formatMap_eq_ok]
  unfold templateResolves
  cases hparse : FormatString.parse template with
  | error e => simp
  | ok ps =>
      simp only [List.all_eq_true, decide_eq_true_eq, ctx.mem_keys_iff, Dict.contains]
      rw [← FormatString.expand_ok_iff ctx.get? (isPlain_of_templatePlain hplain hparse)]
      simp

theorem templateResolves_congr {names names' : List String}
    (h : ∀ name, name ∈ names ↔ name ∈ names') (template : String) :
    templateResolves names template = templateResolves names' template := by
  unfold templateResolves
  simp only [h]

/-- `format_map` over a context with these variables. -/
theorem formatMap_isOk_iff_of_keys {template : String} (hplain : templatePlain template = true)
    {names : List String} {ctx : Dict String String}
    (hctx : ∀ name, name ∈ ctx.keys ↔ name ∈ names) :
    (∃ out, formatMap template ctx = .ok out) ↔ templateResolves names template = true := by
  rw [formatMap_isOk_iff hplain, templateResolves_congr hctx]

/-- Expansion reads only the fields the template names. -/
theorem formatMap_congr {template : String} {ctx ctx' : Dict String String}
    (h : ∀ name, templateReads template name = true → ctx.get? name = ctx'.get? name) :
    formatMap template ctx = formatMap template ctx' := by
  unfold formatMap
  rw [FormatString.formatMap_eq, FormatString.formatMap_eq]
  cases hparse : FormatString.parse template with
  | error e => rfl
  | ok ps =>
      have hcongr : FormatString.expand ctx.get? ps = FormatString.expand ctx'.get? ps := by
        apply FormatString.expand_congr
        intro name hname
        apply h
        simpa [templateReads, hparse] using hname
      simp only [hcongr]

/-- The variable has no longer value in the first context than in the second. -/
def ValueLe (ctx ctx' : Dict String String) (name : String) : Prop :=
  ∀ v v', ctx.get? name = some v → ctx'.get? name = some v' → v.utf8ByteSize ≤ v'.utf8ByteSize

/-- The variable is strictly longer in the second context. -/
def ValueLt (ctx ctx' : Dict String String) (name : String) : Prop :=
  ∀ v v', ctx.get? name = some v → ctx'.get? name = some v' → v.utf8ByteSize < v'.utf8ByteSize

theorem ValueLe.of_eq {ctx ctx' : Dict String String} {name : String}
    (h : ctx.get? name = ctx'.get? name) : ValueLe ctx ctx' name := by
  intro v v' hv hv'
  rw [h] at hv
  cases hv.symm.trans hv'
  exact Nat.le_refl _

theorem formatMap_size_le {template out out' : String} {ctx ctx' : Dict String String}
    (hplain : templatePlain template = true) (hout : formatMap template ctx = .ok out)
    (hout' : formatMap template ctx' = .ok out')
    (hle : ∀ name, templateReads template name = true → ValueLe ctx ctx' name) :
    out.utf8ByteSize ≤ out'.utf8ByteSize := by
  rcases formatMap_eq_ok.1 hout with ⟨ps, hps, hexp⟩
  rcases formatMap_eq_ok.1 hout' with ⟨ps', hps', hexp'⟩
  have hsame : ps' = ps := Except.ok.inj (hps'.symm.trans hps)
  subst hsame
  apply FormatString.expand_size_le (isPlain_of_templatePlain hplain hps) hexp hexp'
  intro name hname
  apply hle
  simpa [templateReads, hps] using hname

theorem formatMap_size_lt {template out out' grown : String} {ctx ctx' : Dict String String}
    (hplain : templatePlain template = true) (hout : formatMap template ctx = .ok out)
    (hout' : formatMap template ctx' = .ok out')
    (hle : ∀ name, templateReads template name = true → ValueLe ctx ctx' name)
    (hreads : templateReads template grown = true) (hlt : ValueLt ctx ctx' grown) :
    out.utf8ByteSize < out'.utf8ByteSize := by
  rcases formatMap_eq_ok.1 hout with ⟨ps, hps, hexp⟩
  rcases formatMap_eq_ok.1 hout' with ⟨ps', hps', hexp'⟩
  have hsame : ps' = ps := Except.ok.inj (hps'.symm.trans hps)
  subst hsame
  have hmem : grown ∈ FormatString.fieldNames ps' := by
    simpa [templateReads, hps] using hreads
  apply FormatString.expand_size_lt (isPlain_of_templatePlain hplain hps) hexp hexp' _ hmem hlt
  intro name hname
  apply hle
  simpa [templateReads, hps] using hname

/-! ## What the signature input reads -/

/-- The signature input is the path followed by the raw inner hash. -/
def bytesMode (recipe : SignatureRecipe) : Bool :=
  mentionsPathBytes recipe.template && recipe.bodyHash.isSome

/-- The inner hash stage reads the variable. -/
def hashReads (recipe : SignatureRecipe) (name : String) : Bool :=
  match recipe.bodyHash with
  | none => false
  | some h => templateReads h.inputTemplate name

/-- The inner hash stage cannot fail on a value. -/
def hashPlain (recipe : SignatureRecipe) : Bool :=
  match recipe.bodyHash with
  | none => true
  | some h => templatePlain h.inputTemplate

/-- The value of the variable enters the signature input, directly or through the
inner hash; an inner hash that is not shown matters if computing it can fail. -/
def inputReads (recipe : SignatureRecipe) (name : String) : Bool :=
  if bytesMode recipe then hashReads recipe name
  else templateReads recipe.template name ||
    ((templateReads recipe.template "inner_hash" || !hashPlain recipe) && hashReads recipe name)

/-- The bytes of the signature input over a context. -/
def inputBytes (prim : Primitives) (recipe : SignatureRecipe) (ctx : Dict String String) :
    Except SignError ByteArray :=
  (expandInput prim recipe ctx).map Prod.snd

/-- Templates that are expanded for the signature input. -/
def inputTemplates (recipe : SignatureRecipe) : List String :=
  match recipe.bodyHash with
  | none => [recipe.template]
  | some h =>
      if mentionsPathBytes recipe.template then [h.inputTemplate]
      else [h.inputTemplate, recipe.template]

theorem hexDigit_utf8Size (n : Nat) : (hexDigit n).utf8Size = 1 := by
  have hall : ("0123456789abcdef".toList.all fun c => decide (c.utf8Size = 1)) = true := by
    decide
  unfold hexDigit
  rw [List.getD_eq_getElem?_getD]
  cases hget : "0123456789abcdef".toList[n]? with
  | none => rfl
  | some c => exact of_decide_eq_true (List.all_eq_true.1 hall c (List.mem_of_getElem? hget))

theorem utf8Len_hex (bytes : List UInt8) :
    String.utf8Len (bytes.flatMap fun x =>
      [hexDigit (x.toNat / 16), hexDigit (x.toNat % 16)]) = 2 * bytes.length := by
  induction bytes with
  | nil => rfl
  | cons x bytes ih =>
      simp only [List.flatMap_cons, List.cons_append, List.nil_append, String.utf8Len_cons, ih,
        hexDigit_utf8Size, List.length_cons]
      omega

/-- A hexadecimal text has two characters for each byte. -/
theorem hexEncode_size (b : ByteArray) : (hexEncode b).utf8ByteSize = 2 * b.size := by
  unfold hexEncode
  rw [String.utf8ByteSize_ofList, utf8Len_hex]
  rfl

/-- The inner hash of a successful expansion. -/
theorem computeBodyHash_eq_ok {prim : Primitives} {h : BodyHashSpec} {ctx : Dict String String}
    {inner : ByteArray} :
    computeBodyHash prim h ctx = .ok inner ↔
      ∃ out, formatMap h.inputTemplate ctx = .ok out ∧
        inner = prim.hashBytes h.algorithm out.toUTF8 := by
  unfold computeBodyHash
  cases formatMap h.inputTemplate ctx <;> simp [Except.map, eq_comm]

/-- The inner hash depends only on the variables its template reads. -/
theorem computeBodyHash_congr {prim : Primitives} {h : BodyHashSpec}
    {ctx ctx' : Dict String String}
    (hread : ∀ name, templateReads h.inputTemplate name = true → ctx.get? name = ctx'.get? name) :
    computeBodyHash prim h ctx = computeBodyHash prim h ctx' := by
  unfold computeBodyHash
  rw [formatMap_congr hread]

/-- A plain hash stage succeeds over a context with the variables of one it succeeds over. -/
theorem computeBodyHash_isOk_of_keys {prim : Primitives} {h : BodyHashSpec}
    {ctx ctx' : Dict String String} (hplain : templatePlain h.inputTemplate = true)
    (hkeys : ∀ name, name ∈ ctx.keys ↔ name ∈ ctx'.keys) {inner : ByteArray}
    (hinner : computeBodyHash prim h ctx = .ok inner) :
    ∃ inner', computeBodyHash prim h ctx' = .ok inner' := by
  obtain ⟨out, hout, -⟩ := computeBodyHash_eq_ok.1 hinner
  have hresolves := (formatMap_isOk_iff_of_keys hplain hkeys).1 ⟨out, hout⟩
  obtain ⟨out', hout'⟩ := (formatMap_isOk_iff hplain ctx').2 hresolves
  exact ⟨_, computeBodyHash_eq_ok.2 ⟨out', hout', rfl⟩⟩

section

variable {prim : Primitives} {h : BodyHashSpec} {ctx ctx' : Dict String String}
  {inner inner' : ByteArray}

theorem computeBodyHash_size_le (hplain : templatePlain h.inputTemplate = true)
    (hsize : ∀ algorithm b, (prim.hashBytes algorithm b).size = b.size)
    (hinner : computeBodyHash prim h ctx = .ok inner)
    (hinner' : computeBodyHash prim h ctx' = .ok inner')
    (hle : ∀ name, templateReads h.inputTemplate name = true → ValueLe ctx ctx' name) :
    inner.size ≤ inner'.size := by
  rcases computeBodyHash_eq_ok.1 hinner with ⟨out, hout, rfl⟩
  rcases computeBodyHash_eq_ok.1 hinner' with ⟨out', hout', rfl⟩
  rw [hsize, hsize]
  exact formatMap_size_le hplain hout hout' hle

theorem computeBodyHash_size_lt {grown : String}
    (hplain : templatePlain h.inputTemplate = true)
    (hsize : ∀ algorithm b, (prim.hashBytes algorithm b).size = b.size)
    (hinner : computeBodyHash prim h ctx = .ok inner)
    (hinner' : computeBodyHash prim h ctx' = .ok inner')
    (hle : ∀ name, templateReads h.inputTemplate name = true → ValueLe ctx ctx' name)
    (hreads : templateReads h.inputTemplate grown = true) (hlt : ValueLt ctx ctx' grown) :
    inner.size < inner'.size := by
  rcases computeBodyHash_eq_ok.1 hinner with ⟨out, hout, rfl⟩
  rcases computeBodyHash_eq_ok.1 hinner' with ⟨out', hout', rfl⟩
  rw [hsize, hsize]
  exact formatMap_size_lt hplain hout hout' hle hreads hlt

/-- Storing the inner hash keeps the order of the other variables, and orders the hash
variable by the sizes of the hashes. -/
theorem ValueLe.setInnerHash {name : String}
    (hother : name ≠ "inner_hash" → ValueLe ctx ctx' name)
    (hhash : name = "inner_hash" → inner.size ≤ inner'.size) :
    ValueLe (ctx.set "inner_hash" (hexEncode inner)) (ctx'.set "inner_hash" (hexEncode inner'))
      name := by
  intro v v' hv hv'
  by_cases hname : name = "inner_hash"
  · subst hname
    rw [Dict.get?_set_self] at hv hv'
    cases hv
    cases hv'
    have hle := hhash rfl
    rw [hexEncode_size, hexEncode_size]
    omega
  · rw [Dict.get?_set_of_ne _ hname] at hv hv'
    exact hother hname v v' hv hv'

/-- Contexts that are ordered on what a template reads stay so with their inner hashes, if the
hash stage is ordered as well where the template reads it. -/
theorem valueLe_setInnerHash (hplain : templatePlain h.inputTemplate = true)
    (hsize : ∀ algorithm b, (prim.hashBytes algorithm b).size = b.size)
    (hinner : computeBodyHash prim h ctx = .ok inner)
    (hinner' : computeBodyHash prim h ctx' = .ok inner') {template : String}
    (hle : ∀ name, templateReads template name = true → ValueLe ctx ctx' name)
    (hleHash : templateReads template "inner_hash" = true →
      ∀ name, templateReads h.inputTemplate name = true → ValueLe ctx ctx' name)
    (name : String) (hname : templateReads template name = true) :
    ValueLe (ctx.set "inner_hash" (hexEncode inner)) (ctx'.set "inner_hash" (hexEncode inner'))
      name := by
  apply ValueLe.setInnerHash
  · intro _
    exact hle name hname
  · rintro rfl
    exact computeBodyHash_size_le hplain hsize hinner hinner' (hleHash hname)

theorem ValueLt.setInnerHash {name : String} (hname : name ≠ "inner_hash")
    (h : ValueLt ctx ctx' name) :
    ValueLt (ctx.set "inner_hash" (hexEncode inner)) (ctx'.set "inner_hash" (hexEncode inner'))
      name := by
  intro v v' hv hv'
  rw [Dict.get?_set_of_ne _ hname] at hv hv'
  exact h v v' hv hv'

theorem valueLt_innerHash (h : inner.size < inner'.size) :
    ValueLt (ctx.set "inner_hash" (hexEncode inner)) (ctx'.set "inner_hash" (hexEncode inner'))
      "inner_hash" := by
  intro v v' hv hv'
  rw [Dict.get?_set_self] at hv hv'
  cases hv
  cases hv'
  rw [hexEncode_size, hexEncode_size]
  omega

end

/-- The template of the inner hash is always expanded. -/
theorem mem_inputTemplates_of_bodyHash {recipe : SignatureRecipe} {h : BodyHashSpec}
    (hhash : recipe.bodyHash = some h) : h.inputTemplate ∈ inputTemplates recipe := by
  unfold inputTemplates
  rw [hhash]
  cases mentionsPathBytes recipe.template <;> simp

/-- Without an inner hash stage the input is the expanded template. -/
theorem inputBytes_of_bodyHash_none {prim : Primitives} {recipe : SignatureRecipe}
    (hhash : recipe.bodyHash = none) (ctx : Dict String String) :
    inputBytes prim recipe ctx = (formatMap recipe.template ctx).map String.toUTF8 := by
  unfold inputBytes expandInput expandSigInput
  rw [hhash]
  cases mentionsPathBytes recipe.template <;>
    cases formatMap recipe.template ctx <;> rfl

/-- With an inner hash stage the input is computed from the inner hash. -/
theorem inputBytes_of_bodyHash_some {prim : Primitives} {recipe : SignatureRecipe}
    {h : BodyHashSpec} (hhash : recipe.bodyHash = some h) {ctx : Dict String String}
    {bytes : ByteArray} :
    inputBytes prim recipe ctx = .ok bytes ↔
      ∃ inner, computeBodyHash prim h ctx = .ok inner ∧
        expandSigInput recipe.template (ctx.set "inner_hash" (hexEncode inner)) (some inner) =
          .ok bytes := by
  unfold inputBytes expandInput
  rw [hhash]
  cases hbody : computeBodyHash prim h ctx with
  | error e => simp [hbody, Except.map]
  | ok inner =>
      cases hexp : expandSigInput recipe.template (ctx.set "inner_hash" (hexEncode inner))
          (some inner) <;> simp [hbody, Except.map, hexp]

/-- In bytes mode the input is the path and the inner hash. -/
theorem inputBytes_of_bytesMode {prim : Primitives} {recipe : SignatureRecipe}
    {h : BodyHashSpec} (hhash : recipe.bodyHash = some h)
    (hmode : mentionsPathBytes recipe.template = true) {ctx : Dict String String}
    {bytes : ByteArray} :
    inputBytes prim recipe ctx = .ok bytes ↔
      ∃ inner, computeBodyHash prim h ctx = .ok inner ∧
        ((ctx.get? "path").getD "").toUTF8 ++ inner = bytes := by
  have hne : "path" ≠ "inner_hash" := by decide
  rw [inputBytes_of_bodyHash_some hhash]
  simp only [expandSigInput, hmode, Dict.get?_set_of_ne _ hne, Except.ok.injEq]

/-- Outside bytes mode the template is expanded with the inner hash in hex. -/
theorem inputBytes_of_innerHash {prim : Primitives} {recipe : SignatureRecipe}
    {h : BodyHashSpec} (hhash : recipe.bodyHash = some h)
    (hmode : mentionsPathBytes recipe.template = false) {ctx : Dict String String}
    {bytes : ByteArray} :
    inputBytes prim recipe ctx = .ok bytes ↔
      ∃ inner, computeBodyHash prim h ctx = .ok inner ∧
        ∃ text, formatMap recipe.template (ctx.set "inner_hash" (hexEncode inner)) = .ok text ∧
          text.toUTF8 = bytes := by
  rw [inputBytes_of_bodyHash_some hhash]
  simp only [expandSigInput, hmode, map_eq_ok]

theorem inputReads_of_bodyHash_none {recipe : SignatureRecipe} (hhash : recipe.bodyHash = none)
    (name : String) : inputReads recipe name = templateReads recipe.template name := by
  simp [inputReads, bytesMode, hashReads, hhash]

theorem inputReads_of_bytesMode {recipe : SignatureRecipe} {h : BodyHashSpec}
    (hhash : recipe.bodyHash = some h) (hmode : mentionsPathBytes recipe.template = true)
    (name : String) : inputReads recipe name = templateReads h.inputTemplate name := by
  simp [inputReads, bytesMode, hashReads, hhash, hmode]

theorem inputReads_of_innerHash {recipe : SignatureRecipe} {h : BodyHashSpec}
    (hhash : recipe.bodyHash = some h) (hmode : mentionsPathBytes recipe.template = false)
    (name : String) : inputReads recipe name =
      (templateReads recipe.template name ||
        ((templateReads recipe.template "inner_hash" || !templatePlain h.inputTemplate) &&
          templateReads h.inputTemplate name)) := by
  simp [inputReads, bytesMode, hashReads, hashPlain, hhash, hmode]

/-- Over contexts that agree on what the input reads there is an inner hash in both, and the same
one if the template shows it. -/
theorem computeBodyHash_shown {prim : Primitives} {recipe : SignatureRecipe} {h : BodyHashSpec}
    (hhash : recipe.bodyHash = some h) (hmode : mentionsPathBytes recipe.template = false)
    {ctx ctx' : Dict String String} (hkeys : ∀ name, name ∈ ctx.keys ↔ name ∈ ctx'.keys)
    (hread : ∀ name, inputReads recipe name = true → ctx.get? name = ctx'.get? name)
    {inner : ByteArray} (hinner : computeBodyHash prim h ctx = .ok inner) :
    ∃ inner', computeBodyHash prim h ctx' = .ok inner' ∧
      (templateReads recipe.template "inner_hash" = true → inner' = inner) := by
  have hreads := inputReads_of_innerHash hhash hmode
  by_cases hmatters :
      (templateReads recipe.template "inner_hash" || !templatePlain h.inputTemplate) = true
  · rw [computeBodyHash_congr fun name hname => hread name (by simp [hreads, hmatters, hname])]
      at hinner
    exact ⟨inner, hinner, fun _ => rfl⟩
  · rw [Bool.or_eq_true, not_or, Bool.not_eq_true', Bool.not_eq_false] at hmatters
    obtain ⟨inner', hinner'⟩ := computeBodyHash_isOk_of_keys hmatters.2 hkeys hinner
    exact ⟨inner', hinner', fun hin => absurd hin hmatters.1⟩

/-- The input depends only on the path and on the variables it reads. -/
theorem inputBytes_congr {prim : Primitives} {recipe : SignatureRecipe}
    {ctx ctx' : Dict String String} {bytes : ByteArray}
    (hkeys : ∀ name, name ∈ ctx.keys ↔ name ∈ ctx'.keys)
    (hread : ∀ name, inputReads recipe name = true → ctx.get? name = ctx'.get? name)
    (hpath : ctx.get? "path" = ctx'.get? "path")
    (hbytes : inputBytes prim recipe ctx = .ok bytes) :
    inputBytes prim recipe ctx' = .ok bytes := by
  cases hhash : recipe.bodyHash with
  | none =>
      have hfmt : formatMap recipe.template ctx = formatMap recipe.template ctx' := by
        apply formatMap_congr
        intro name hname
        exact hread name ((inputReads_of_bodyHash_none hhash name).trans hname)
      rw [inputBytes_of_bodyHash_none hhash, hfmt] at hbytes
      rw [inputBytes_of_bodyHash_none hhash, hbytes]
  | some h =>
      cases hmode : mentionsPathBytes recipe.template with
      | true =>
          obtain ⟨inner, hinner, rfl⟩ := (inputBytes_of_bytesMode hhash hmode).1 hbytes
          rw [computeBodyHash_congr fun name hname =>
            hread name ((inputReads_of_bytesMode hhash hmode name).trans hname)] at hinner
          exact (inputBytes_of_bytesMode hhash hmode).2 ⟨inner, hinner, by rw [hpath]⟩
      | false =>
          have hreads := inputReads_of_innerHash hhash hmode
          obtain ⟨inner, hinner, text, htext, rfl⟩ := (inputBytes_of_innerHash hhash hmode).1 hbytes
          -- a hash that is not shown may differ, but there is one
          obtain ⟨inner', hinner', hshown⟩ := computeBodyHash_shown hhash hmode hkeys hread hinner
          refine (inputBytes_of_innerHash hhash hmode).2 ⟨inner', hinner', text, ?_, rfl⟩
          rw [← htext]
          apply formatMap_congr
          intro name hname
          by_cases hin : name = "inner_hash"
          · subst hin
            rw [Dict.get?_set_self, Dict.get?_set_self, hshown hname]
          · rw [Dict.get?_set_of_ne _ hin, Dict.get?_set_of_ne _ hin]
            exact (hread name (by simp [hreads, hname])).symm

/-- If no variable it reads shrinks and one of them grows, the input grows, when the
hash function keeps the length of its argument. -/
theorem inputBytes_size_lt {prim : Primitives} {recipe : SignatureRecipe}
    {ctx ctx' : Dict String String} {bytes bytes' : ByteArray} {grown : String}
    (hplain : ∀ template ∈ inputTemplates recipe, templatePlain template = true)
    (hsize : ∀ algorithm b, (prim.hashBytes algorithm b).size = b.size)
    (hle : ∀ name, inputReads recipe name = true → ValueLe ctx ctx' name)
    (hpath : ctx.get? "path" = ctx'.get? "path")
    (hgrown : grown ≠ "inner_hash") (hreads : inputReads recipe grown = true)
    (hlt : ValueLt ctx ctx' grown)
    (hbytes : inputBytes prim recipe ctx = .ok bytes)
    (hbytes' : inputBytes prim recipe ctx' = .ok bytes') : bytes.size < bytes'.size := by
  cases hhash : recipe.bodyHash with
  | none =>
      have hreads' := inputReads_of_bodyHash_none hhash
      rw [inputBytes_of_bodyHash_none hhash, map_eq_ok] at hbytes hbytes'
      obtain ⟨out, hout, rfl⟩ := hbytes
      obtain ⟨out', hout', rfl⟩ := hbytes'
      have htemplate := hplain recipe.template (by simp [inputTemplates, hhash])
      apply formatMap_size_lt htemplate hout hout' _ (hreads' grown ▸ hreads) hlt
      intro name hname
      exact hle name ((hreads' name).trans hname)
  | some h =>
      have hhashPlain := hplain _ (mem_inputTemplates_of_bodyHash hhash)
      cases hmode : mentionsPathBytes recipe.template with
      | true =>
          have hreads' := inputReads_of_bytesMode hhash hmode
          obtain ⟨inner, hinner, rfl⟩ := (inputBytes_of_bytesMode hhash hmode).1 hbytes
          obtain ⟨inner', hinner', rfl⟩ := (inputBytes_of_bytesMode hhash hmode).1 hbytes'
          have hlonger : inner.size < inner'.size :=
            computeBodyHash_size_lt hhashPlain hsize hinner hinner'
              (fun name hname => hle name ((hreads' name).trans hname))
              ((hreads' grown).symm.trans hreads) hlt
          rw [hpath, ByteArray.size_append, ByteArray.size_append]
          omega
      | false =>
          have hreads' := inputReads_of_innerHash hhash hmode
          simp only [hhashPlain, Bool.not_true, Bool.or_false] at hreads'
          have htemplate := hplain recipe.template (by simp [inputTemplates, hhash, hmode])
          obtain ⟨inner, hinner, text, htext, rfl⟩ := (inputBytes_of_innerHash hhash hmode).1 hbytes
          obtain ⟨inner', hinner', text', htext', rfl⟩ :=
            (inputBytes_of_innerHash hhash hmode).1 hbytes'
          have hleHash : templateReads recipe.template "inner_hash" = true →
              ∀ name, templateReads h.inputTemplate name = true → ValueLe ctx ctx' name :=
            fun hin name hname => hle name (by simp [hreads', hin, hname])
          have hle' := valueLe_setInnerHash hhashPlain hsize hinner hinner'
            (fun name hname => hle name (by simp [hreads', hname])) hleHash
          rw [hreads', Bool.or_eq_true, Bool.and_eq_true] at hreads
          rcases hreads with hdirect | ⟨hin, hgr⟩
          · exact formatMap_size_lt htemplate htext htext' hle' hdirect (hlt.setInnerHash hgrown)
          · have hlonger : inner.size < inner'.size :=
              computeBodyHash_size_lt hhashPlain hsize hinner hinner' (hleHash hin) hgr hlt
            exact formatMap_size_lt htemplate htext htext' hle' hin (valueLt_innerHash hlonger)

end Auth
end MarketConnector
