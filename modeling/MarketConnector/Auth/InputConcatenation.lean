import MarketConnector.Auth.SelfConsistency

/-!
# Auth - The signature input as a concatenation

Literal text and variables of a recipe template contribute their bytes one after another.
The inner hash is a variable like the others: its text is hexadecimal, and without a body hash
there is none.  A template that mentions the bytes of the path signs the path and the bytes of
the inner hash.

Main results:

- Definition `concatBytes`: the bytes of the pieces of a template.
- Theorem `inputBytes_concat`: when the signature input is such a concatenation.
-/

namespace MarketConnector
namespace Auth

open Foundations
open FormatString (Piece parse expand fieldNames)

/-! ## Pieces and their bytes -/

/-- Bytes of literal text and of variables, from left to right. -/
def concatBytes (value : String → ByteArray) : List Piece → ByteArray
  | [] => ByteArray.empty
  | .lit c :: ps => (String.singleton c).toUTF8 ++ concatBytes value ps
  | .field name :: ps => value name ++ concatBytes value ps
  | .formatted f _ :: ps => value f.name ++ concatBytes value ps

/-- The inner hash of a recipe that has one. -/
def innerHash (prim : Primitives) (recipe : SignatureRecipe) (ctx : Dict String String) :
    Except SignError (Option ByteArray) :=
  match recipe.bodyHash with
  | none => .ok none
  | some h => (computeBodyHash prim h ctx).map some

/-- The context with the inner hash in hexadecimal. -/
def digestContext (ctx : Dict String String) : Option ByteArray → Dict String String
  | none => ctx
  | some inner => ctx.set "inner_hash" (hexEncode inner)

/-- Bytes of a variable's text. -/
def textValue (ctx : Dict String String) (name : String) : ByteArray :=
  ((ctx.get? name).getD "").toUTF8

/-- Bytes of a variable when the inner hash stands for itself. -/
def rawValue (ctx : Dict String String) (inner : Option ByteArray) (name : String) : ByteArray :=
  if name = "path_bytes" then textValue ctx "path"
  else
    match inner with
    | none => textValue ctx name
    | some digest => if name = "inner_hash" then digest else textValue ctx name

/-! ## Expansion to bytes -/

/-- Expansion concatenates the texts of the pieces. -/
theorem expand_eq_ok_concat {ctx : Dict String String} {ps : List Piece} {out : String}
    (hplain : ∀ p ∈ ps, p.isPlain = true) (h : expand ctx.get? ps = .ok out) :
    out.toUTF8 = concatBytes (textValue ctx) ps := by
  induction ps generalizing out with
  | nil =>
      cases h
      rfl
  | cons p ps ih =>
      rw [List.forall_mem_cons] at hplain
      cases p with
      | lit c =>
          obtain ⟨rest, hrest, rfl⟩ := FormatString.expand_lit_eq_ok.1 h
          rw [concatBytes, ← ih hplain.2 hrest]
          rfl
      | field name =>
          obtain ⟨v, rest, hv, hrest, rfl⟩ := FormatString.expand_field_eq_ok.1 h
          rw [concatBytes, ← ih hplain.2 hrest, textValue, hv]
          rfl
      | formatted f spec => cases hplain.1

/-- Expansion fails on a name that the context does not have. -/
theorem expand_eq_missingKey {ctx : Dict String String} {ps : List Piece}
    (hplain : ∀ p ∈ ps, p.isPlain = true) (hmissing : ∃ name ∈ fieldNames ps, name ∉ ctx.keys) :
    ∃ name ∈ fieldNames ps, name ∉ ctx.keys ∧ expand ctx.get? ps = .error (.missingKey name) := by
  induction ps with
  | nil => simp at hmissing
  | cons p ps ih =>
      rw [List.forall_mem_cons] at hplain
      cases p with
      | lit c =>
          obtain ⟨name, hname, hnot, herror⟩ := ih hplain.2 hmissing
          exact ⟨name, hname, hnot, by rw [expand, herror]; rfl⟩
      | field first =>
          cases hfirst : ctx.get? first with
          | none =>
              refine ⟨first, List.mem_cons_self, ?_, by simp [expand, hfirst]⟩
              simp [Dict.mem_keys_iff, Dict.contains, hfirst]
          | some v =>
              have hin : first ∈ ctx.keys := by
                simp [Dict.mem_keys_iff, Dict.contains, hfirst]
              obtain ⟨name, hname, hnot⟩ := hmissing
              rw [FormatString.fieldNames_field, List.mem_cons] at hname
              have hlater : name ∈ fieldNames ps :=
                hname.resolve_left fun heq => hnot (heq ▸ hin)
              obtain ⟨name', hname', hnot', herror⟩ := ih hplain.2 ⟨name, hlater, hnot⟩
              refine ⟨name', List.mem_cons_of_mem _ hname', hnot', ?_⟩
              simp [expand, hfirst, herror, Except.map]
      | formatted f spec => cases hplain.1

theorem formatMap_eq_expand {template : String} {ps : List Piece} (hparse : parse template = .ok ps)
    (ctx : Dict String String) :
    formatMap template ctx = (expand ctx.get? ps).mapError .format := by
  unfold formatMap
  rw [FormatString.formatMap_eq, hparse]

/-- A template of text is expanded to the bytes of its pieces. -/
theorem formatMap_toUTF8 {template : String} {ctx : Dict String String} {ps : List Piece}
    (hparse : parse template = .ok ps) (hplain : ∀ p ∈ ps, p.isPlain = true)
    (hnames : ∀ name ∈ fieldNames ps, name ∈ ctx.keys) :
    (formatMap template ctx).map String.toUTF8 = .ok (concatBytes (textValue ctx) ps) := by
  have hsome : ∀ name ∈ fieldNames ps, (ctx.get? name).isSome := by
    intro name hname
    simpa [Dict.mem_keys_iff, Dict.contains] using hnames name hname
  obtain ⟨out, hout⟩ := (FormatString.expand_ok_iff ctx.get? hplain).2 hsome
  rw [formatMap_eq_expand hparse, hout, ← expand_eq_ok_concat hplain hout]
  rfl

/-- It is not expanded when the context lacks one of its variables. -/
theorem formatMap_eq_missingKey {template : String} {ctx : Dict String String} {ps : List Piece}
    (hparse : parse template = .ok ps) (hplain : ∀ p ∈ ps, p.isPlain = true)
    (hmissing : ∃ name ∈ fieldNames ps, name ∉ ctx.keys) :
    ∃ name ∈ fieldNames ps, name ∉ ctx.keys ∧
      (formatMap template ctx).map String.toUTF8 = .error (.format (.missingKey name)) := by
  obtain ⟨name, hname, hnot, herror⟩ := expand_eq_missingKey hplain hmissing
  exact ⟨name, hname, hnot, by rw [formatMap_eq_expand hparse, herror]; rfl⟩

theorem map_snd_map_pair {ε α β : Type} (a : α) (x : Except ε β) :
    (x.map fun b => (a, b)).map Prod.snd = x := by
  cases x <;> rfl

/-- The signature input is expanded over the context with the inner hash. -/
theorem inputBytes_eq_expandSigInput {prim : Primitives} {recipe : SignatureRecipe}
    {ctx : Dict String String} {inner : Option ByteArray}
    (hinner : innerHash prim recipe ctx = .ok inner) :
    inputBytes prim recipe ctx =
      expandSigInput recipe.template (digestContext ctx inner) inner := by
  unfold innerHash at hinner
  unfold inputBytes expandInput
  revert hinner
  cases recipe.bodyHash with
  | none =>
      intro hinner
      cases hinner
      exact map_snd_map_pair ctx _
  | some h =>
      intro hinner
      obtain ⟨digest, hdigest, rfl⟩ := map_eq_ok.1 hinner
      simp only [hdigest]
      exact map_snd_map_pair _ _

/-- Without the path's bytes or without an inner hash the input is the expanded text. -/
theorem expandSigInput_text {template : String} {ctx : Dict String String}
    {inner : Option ByteArray} (htext : mentionsPathBytes template = false ∨ inner = none) :
    expandSigInput template ctx inner = (formatMap template ctx).map String.toUTF8 := by
  rcases htext with hplain | rfl
  · simp only [expandSigInput, hplain]
  · unfold expandSigInput
    cases mentionsPathBytes template <;> rfl

/-- A template of literal text and variables.  If it does not mention the path's bytes, or there
is no inner hash, the input is the text of its pieces when the context has all of its variables,
and names one that the context lacks otherwise.  If it mentions them and there is an inner hash,
the input is the bytes of its pieces exactly when these are the path and the inner hash. -/
theorem inputBytes_concat {prim : Primitives} {recipe : SignatureRecipe}
    {ctx : Dict String String} {ps : List Piece} {inner : Option ByteArray}
    (hparse : parse recipe.template = .ok ps) (hplain : ∀ p ∈ ps, p.isPlain = true)
    (hinner : innerHash prim recipe ctx = .ok inner) :
    (mentionsPathBytes recipe.template = false ∨ inner = none →
      ((∀ name ∈ fieldNames ps, name ∈ (digestContext ctx inner).keys) →
        inputBytes prim recipe ctx =
          .ok (concatBytes (textValue (digestContext ctx inner)) ps)) ∧
      ((∃ name ∈ fieldNames ps, name ∉ (digestContext ctx inner).keys) →
        ∃ name ∈ fieldNames ps, name ∉ (digestContext ctx inner).keys ∧
          inputBytes prim recipe ctx = .error (.format (.missingKey name)))) ∧
    (mentionsPathBytes recipe.template = true → ∀ digest, inner = some digest →
      (inputBytes prim recipe ctx = .ok (concatBytes (rawValue ctx inner) ps) ↔
        concatBytes (rawValue ctx inner) ps = textValue ctx "path" ++ digest)) := by
  rw [inputBytes_eq_expandSigInput hinner]
  constructor
  · intro htext
    rw [expandSigInput_text htext]
    exact ⟨formatMap_toUTF8 hparse hplain, formatMap_eq_missingKey hparse hplain⟩
  · rintro hmentions digest rfl
    have hpath : (digestContext ctx (some digest)).get? "path" = ctx.get? "path" :=
      Dict.get?_set_of_ne _ (by decide) _
    have hinput : expandSigInput recipe.template (digestContext ctx (some digest)) (some digest) =
        .ok (textValue ctx "path" ++ digest) := by
      simp only [expandSigInput, hmentions, textValue, hpath]
    rw [hinput, Except.ok.injEq, eq_comm]

/-- Text and inner hash of an order placed with the nonce 1. -/
def orderContext : Dict String String :=
  Dict.ofList [("nonce", "1"), ("path", "/0/private/AddOrder"), ("body", "nonce=1")]

/-- Kraken's template is the path and the inner hash. -/
theorem inputBytes_concat_order :
    inputBytes transparent krakenHmacSpec.recipe orderContext =
      .ok (concatBytes (rawValue orderContext (some "1nonce=1".toUTF8))
        [.field "path_bytes", .field "inner_hash"]) :=
  have hparse : parse krakenHmacSpec.recipe.template =
      .ok [.field "path_bytes", .field "inner_hash"] := by decide
  have hinner : innerHash transparent krakenHmacSpec.recipe orderContext =
      .ok (some "1nonce=1".toUTF8) := by decide +kernel
  ((inputBytes_concat hparse (by decide) hinner).2 (by decide) _ rfl).2 (by decide +kernel)

/-- Every template of literal text and variables signs the bytes of its pieces, the path and the
inner hash as they are; of the templates that mention the path's bytes, or of the others. -/
def SignsPieces (mentions : Bool) : Prop :=
  ∀ (prim : Primitives) (recipe : SignatureRecipe) (ctx : Dict String String) (ps : List Piece)
    (inner : Option ByteArray), mentionsPathBytes recipe.template = mentions →
    parse recipe.template = .ok ps → (∀ p ∈ ps, p.isPlain = true) →
    innerHash prim recipe ctx = .ok inner →
    (∀ name ∈ fieldNames ps, name = "path_bytes" ∨ name ∈ (digestContext ctx inner).keys) →
    inputBytes prim recipe ctx = .ok (concatBytes (rawValue ctx inner) ps)

/-- A template of the inner hash alone signs its hexadecimal text, and one that mentions the
path's bytes loses its other pieces. -/
theorem inputBytes_innerHash_text : ¬ SignsPieces false ∧ ¬ SignsPieces true := by
  constructor
  · intro h
    have hraw := h transparent { krakenHmacSpec.recipe with template := "{inner_hash}" }
      orderContext [.field "inner_hash"] (some "1nonce=1".toUTF8) (by decide) (by decide)
      (by decide) (by decide +kernel) (by decide +kernel)
    exact absurd hraw (by decide +kernel)
  · intro h
    have hraw := h transparent
      { krakenHmacSpec.recipe with template := "{path_bytes}{nonce}{inner_hash}" }
      orderContext [.field "path_bytes", .field "nonce", .field "inner_hash"]
      (some "1nonce=1".toUTF8) (by decide) (by decide) (by decide) (by decide +kernel)
      (by decide +kernel)
    exact absurd hraw (by decide +kernel)

end Auth
end MarketConnector
