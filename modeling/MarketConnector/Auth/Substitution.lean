import MarketConnector.Foundations.FormatString

/-!
# Auth - Template variables

Templates may name a fixed set of variables, each of them on some surfaces only.

Main results:

- Definition `substitute`: expand a template on a surface.
- Theorem `substitute_eq_ok_iff`: a template expands when all of its variables belong to the
  surface; variables that the context lacks are empty.
-/

namespace MarketConnector
namespace Auth

open Foundations FormatString

inductive Surface where
  | rest | ws | sigInput | output
deriving DecidableEq

/-- `_VARIABLE_DEFINITIONS` -/
def variableDefinitions : Dict String (List Surface) :=
  Dict.ofList
    [("api_key", [.rest, .ws]), ("ts", [.rest, .ws]), ("nonce", [.rest, .ws]),
      ("rand_hex", [.rest, .ws]), ("method", [.rest]), ("path", [.rest]),
      ("path_bytes", [.rest]), ("body", [.rest]), ("qs", [.rest]), ("qs_sorted", [.rest]),
      ("recv_window", [.rest]), ("memo", [.rest]), ("passphrase", [.rest]), ("host", [.rest]),
      ("secret", [.sigInput]), ("inner_hash", [.sigInput]), ("sig", [.output]),
      ("jwt", [.output]), ("token", [.output])]

inductive SubstituteError where
  /-- `InvalidTemplateVariable("unknown variable ..")` -/
  | unknownVariable (name : String)
  /-- `InvalidTemplateVariable("variable .. is not valid in .. surface")` -/
  | invalidSurface (name : String) (surface : Surface)
  | format (e : FormatError)
deriving DecidableEq

/-- `_validate_variable` -/
def validateVariable (name : String) (surface : Surface) : Except SubstituteError Unit :=
  match variableDefinitions.get? name with
  | none => .error (.unknownVariable name)
  | some surfaces => if surface ∈ surfaces then .ok () else .error (.invalidSurface name surface)

/-- The validation of the variables of a template, in order. -/
def validateVariables (surface : Surface) : List String → Except SubstituteError Unit
  | [] => .ok ()
  | name :: names => do
      validateVariable name surface
      validateVariables surface names

/-- Value of a variable; the bytes of the path are the path in a text. -/
def substitution (ctx : Dict String String) (name : String) : String :=
  if name = "path_bytes" then (ctx.get? "path").getD "" else (ctx.get? name).getD ""

/-- The mapping that a template is formatted with has its variables only. -/
def substitutions (ctx : Dict String String) (names : List String) (name : String) :
    Option String :=
  if name ∈ names then some (substitution ctx name) else none

/-- `substitute(template, ctx, surface=surface)` -/
def substitute (template : String) (ctx : Dict String String) (surface : Surface) :
    Except SubstituteError String :=
  match formatterNames template with
  | .error e => .error (.format e)
  | .ok names =>
      match validateVariables surface names with
      | .error e => .error e
      | .ok _ => (formatMap template (substitutions ctx names)).mapError .format

example : substitute "{ts}GET/realtime" (Dict.ofList [("ts", "17")]) .ws =
    .ok "17GET/realtime" := by
  decide

/-- A variable belongs to a surface. -/
def ValidOn (surface : Surface) (name : String) : Prop :=
  ∃ surfaces, variableDefinitions.get? name = some surfaces ∧ surface ∈ surfaces

theorem validateVariable_eq_ok_iff {name : String} {surface : Surface} :
    validateVariable name surface = .ok () ↔ ValidOn surface name := by
  unfold validateVariable ValidOn
  cases variableDefinitions.get? name with
  | none => simp
  | some surfaces => simp

theorem validateVariables_eq_ok_iff {surface : Surface} {names : List String} :
    validateVariables surface names = .ok () ↔ ∀ name ∈ names, ValidOn surface name := by
  induction names with
  | nil => simp [validateVariables]
  | cons name names ih =>
      rw [validateVariables, bind_eq_ok, List.forall_mem_cons, ← ih,
        ← validateVariable_eq_ok_iff]
      constructor
      · rintro ⟨⟨⟩, hname, hnames⟩
        exact ⟨hname, hnames⟩
      · rintro ⟨hname, hnames⟩
        exact ⟨(), hname, hnames⟩

/-- A template expands when its variables belong to the surface, whatever the context. -/
theorem substitute_eq_ok_iff {template out : String} {ctx : Dict String String}
    {surface : Surface} :
    substitute template ctx surface = .ok out ↔
      ∃ names, formatterNames template = .ok names ∧ (∀ name ∈ names, ValidOn surface name) ∧
        formatMap template (substitutions ctx names) = .ok out := by
  unfold substitute
  cases hparse : formatterNames template with
  | error e => simp
  | ok names =>
      simp only [Except.ok.injEq, exists_eq_left', ← validateVariables_eq_ok_iff]
      cases validateVariables surface names with
      | error e => simp
      | ok u => simp [mapError_eq_ok]

end Auth
end MarketConnector
