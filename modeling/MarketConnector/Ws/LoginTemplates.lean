import MarketConnector.Auth.Declarative
import MarketConnector.Auth.Substitution
import MarketConnector.Foundations.StringLeaves
import MarketConnector.Transport.RestBase

/-!
# Ws - Login templates

`SignedLoginMessageAuth` signs a text, expands its login template with the signature and sends
the result.  The expansion goes through nested dictionaries, and through lists only as far as
their own strings.

Main results:

- Definitions `expandDictTemplate` and `onConnected`: the expansion and the login.
- Theorem `loginTemplate_expanded_iff`: the templates that are expanded at every depth.
-/

namespace MarketConnector
namespace Ws

open Foundations Auth Transport

/-! ## Expansion -/

section Expansion

variable {ε : Type} (expand : String → Except ε String)

/-- An item of a list: only a string is expanded. -/
def expandItem : PyValue → Except ε PyValue
  | .str s => (expand s).map .str
  | item => .ok item

/-- The items of a list. -/
def expandItems : List PyValue → Except ε (List PyValue)
  | [] => .ok []
  | item :: items => do
      let item ← expandItem expand item
      let rest ← expandItems items
      return item :: rest

mutual

/-- A value of a dictionary. -/
def expandValue : PyValue → Except ε PyValue
  | .str s => (expand s).map .str
  | .list items => (expandItems expand items).map .list
  | .dict kvs => (expandEntries kvs).map .dict
  | .none => .ok .none
  | .bool b => .ok (.bool b)
  | .int n => .ok (.int n)
  | .float q => .ok (.float q)
  | .object text => .ok (.object text)

/-- The loop over `template.items()`. -/
def expandEntries : List (String × PyValue) → Except ε (List (String × PyValue))
  | [] => .ok []
  | (k, v) :: kvs => do
      let v ← expandValue v
      let rest ← expandEntries kvs
      return (k, v) :: rest

end

end Expansion

/-- `_expand_dict_template`.  `formatMap` is `str.format_map`. -/
def expandDictTemplate {ε : Type} (formatMap : String → Dict String String → Except ε String)
    (template : List (String × PyValue)) (ctx : Dict String String) :
    Except ε (List (String × PyValue)) :=
  expandEntries (fun s => formatMap s ctx) template

/-! ## Login -/

/-- `sign_ws` of the signer is called with the expanded input. -/
structure SignedLoginMessageAuth where
  loginPayloadTemplate : List (String × PyValue)
  sigInputTemplate : String
  apiKey : String
  signWs : String → Awaited String

inductive LoginError (ε : Type) where
  | substitute (e : SubstituteError)
  | signer (error : String)
  | cancelled
  | format (e : ε)
deriving DecidableEq

namespace SignedLoginMessageAuth

variable (auth : SignedLoginMessageAuth) {ε : Type}

/-- The signature over the input for a time in milliseconds. -/
def signature (now : Nat) : Except (LoginError ε) String :=
  match substitute auth.sigInputTemplate (Dict.ofList [("ts", toString now)]) .ws with
  | .error e => .error (.substitute e)
  | .ok sigInput =>
      match auth.signWs sigInput with
      | .returned sig => .ok sig
      | .raised e => .error (.signer e)
      | .cancelled => .error .cancelled

def loginContext (now : Nat) (sig : String) : Dict String String :=
  Dict.ofList [("api_key", auth.apiKey), ("ts", toString now), ("sig", sig)]

/-- `on_connected`: the payload that is sent. -/
def onConnected (formatMap : String → Dict String String → Except ε String) (now : Nat) :
    Except (LoginError ε) (List (String × PyValue)) := do
  let sig ← auth.signature now
  (expandDictTemplate formatMap auth.loginPayloadTemplate (auth.loginContext now sig)).mapError
    .format

end SignedLoginMessageAuth

/-! ## Strings that are expanded and strings that are passed over -/

/-- Strings of an item that is passed over. -/
def passedItem : PyValue → List String
  | .str _ => []
  | item => stringsOf item

mutual

/-- Strings that the expansion reads. -/
def readStrings : PyValue → List String
  | .str s => [s]
  | .list items => items.filterMap PyValue.asStr?
  | .dict kvs => readEntries kvs
  | .none => []
  | .bool _ => []
  | .int _ => []
  | .float _ => []
  | .object _ => []

def readEntries : List (String × PyValue) → List String
  | [] => []
  | (_, v) :: kvs => readStrings v ++ readEntries kvs

end

mutual

/-- Strings that the expansion passes over. -/
def passedStrings : PyValue → List String
  | .list items => items.flatMap passedItem
  | .dict kvs => passedEntries kvs
  | .str _ => []
  | .none => []
  | .bool _ => []
  | .int _ => []
  | .float _ => []
  | .object _ => []

def passedEntries : List (String × PyValue) → List String
  | [] => []
  | (_, v) :: kvs => passedStrings v ++ passedEntries kvs

end

section Strings

variable {ε : Type} (expand : String → Except ε String)

/-- The strings that are read have an expansion, and those that are passed over are their own. -/
def Settled (read passed : List String) : Prop :=
  (∀ s ∈ read, ∃ text, expand s = .ok text) ∧ ∀ s ∈ passed, expand s = .ok s

variable {expand}

theorem settled_append {read read' passed passed' : List String} :
    Settled expand (read ++ read') (passed ++ passed') ↔
      Settled expand read passed ∧ Settled expand read' passed' := by
  unfold Settled
  rw [List.forall_mem_append, List.forall_mem_append]
  tauto

theorem expandStr_iff (s : String) :
    (∃ w, (expand s).map PyValue.str = .ok w ∧ Expanded expand (.str s) w) ↔
      Settled expand [s] [] := by
  rw [exists_map_iff (A := fun text => expand s = .ok text)]
  · simp [Settled]
  · simp [Expanded]

theorem expandItem_iff (item : PyValue) :
    (∃ w, expandItem expand item = .ok w ∧ Expanded expand item w) ↔
      Settled expand item.asStr?.toList (passedItem item) := by
  have hpassed : ∀ v : PyValue, (∃ w, (Except.ok v : Except ε PyValue) = .ok w ∧
      Expanded expand v w) ↔ Settled expand [] (stringsOf v) := by
    intro v
    simp [Settled, ← expanded_self_iff]
  cases item with
  | str s => exact expandStr_iff s
  | list xs => exact hpassed _
  | dict kvs => exact hpassed _
  | none => exact hpassed _
  | bool b => exact hpassed _
  | int n => exact hpassed _
  | float q => exact hpassed _
  | object text => exact hpassed _

theorem expandItems_iff (items : List PyValue) :
    (∃ ys, expandItems expand items = .ok ys ∧ ExpandedItems expand items ys) ↔
      Settled expand (items.filterMap PyValue.asStr?) (items.flatMap passedItem) := by
  induction items with
  | nil => simp [expandItems, ExpandedItems, Settled]
  | cons item items ih =>
      have hread : (item :: items).filterMap PyValue.asStr? =
          item.asStr?.toList ++ items.filterMap PyValue.asStr? := by
        cases hitem : item.asStr? with
        | none => simp [List.filterMap_cons_none hitem]
        | some s => simp [List.filterMap_cons_some hitem]
      rw [hread, List.flatMap_cons, settled_append, ← expandItem_iff, ← ih, expandItems]
      exact exists_pair_iff fun item' items' => by simp [ExpandedItems]

mutual

/-- A value comes out expanded when the strings that are read can be expanded and those that are
passed over need not be. -/
theorem expandValue_iff (v : PyValue) :
    (∃ w, expandValue expand v = .ok w ∧ Expanded expand v w) ↔
      Settled expand (readStrings v) (passedStrings v) := by
  cases v with
  | str s =>
      rw [expandValue, readStrings, passedStrings]
      exact expandStr_iff s
  | list items =>
      rw [expandValue, readStrings, passedStrings, ← expandItems_iff]
      exact exists_map_iff fun items' => by simp [Expanded]
  | dict kvs =>
      rw [expandValue, readStrings, passedStrings, ← expandEntries_iff kvs]
      exact exists_map_iff fun kvs' => by simp [Expanded]
  | none => simp [expandValue, Expanded, readStrings, passedStrings, Settled]
  | bool b => simp [expandValue, Expanded, readStrings, passedStrings, Settled]
  | int n => simp [expandValue, Expanded, readStrings, passedStrings, Settled]
  | float q => simp [expandValue, Expanded, readStrings, passedStrings, Settled]
  | object text => simp [expandValue, Expanded, readStrings, passedStrings, Settled]

theorem expandEntries_iff (kvs : List (String × PyValue)) :
    (∃ kvs', expandEntries expand kvs = .ok kvs' ∧ ExpandedEntries expand kvs kvs') ↔
      Settled expand (readEntries kvs) (passedEntries kvs) := by
  cases kvs with
  | nil => simp [expandEntries, ExpandedEntries, readEntries, passedEntries, Settled]
  | cons kv kvs =>
      obtain ⟨k, v⟩ := kv
      rw [readEntries, passedEntries, settled_append, ← expandValue_iff v,
        ← expandEntries_iff kvs, expandEntries]
      exact exists_pair_iff fun w rest => by simp [ExpandedEntries]

end

end Strings

/-! ## Templates that are expanded at every depth -/

/-- A template is expanded at every depth exactly when the strings in its dictionaries and
directly in their lists can be expanded, and the strings further inside a list are their own
expansion.  The same decides of every payload that is sent. -/
theorem loginTemplate_expanded_iff {ε : Type}
    (formatMap : String → Dict String String → Except ε String) :
    (∀ template ctx,
      (∃ result, expandDictTemplate formatMap template ctx = .ok result ∧
          ExpandedEntries (fun s => formatMap s ctx) template result) ↔
        Settled (fun s => formatMap s ctx) (readEntries template) (passedEntries template)) ∧
    ∀ (auth : SignedLoginMessageAuth) (now : Nat) (payload : List (String × PyValue)),
      auth.onConnected formatMap now = .ok payload →
      ∃ sig, auth.signature (ε := ε) now = .ok sig ∧
        (ExpandedEntries (fun s => formatMap s (auth.loginContext now sig))
            auth.loginPayloadTemplate payload ↔
          Settled (fun s => formatMap s (auth.loginContext now sig))
            (readEntries auth.loginPayloadTemplate) (passedEntries auth.loginPayloadTemplate)) := by
  refine ⟨fun template ctx => expandEntries_iff template, fun auth now payload h => ?_⟩
  obtain ⟨sig, hsig, hexpand⟩ := bind_eq_ok.1 h
  refine ⟨sig, hsig, ?_⟩
  have hpayload : expandDictTemplate formatMap auth.loginPayloadTemplate
      (auth.loginContext now sig) = .ok payload := mapError_eq_ok.mp hexpand
  rw [← expandEntries_iff]
  unfold expandDictTemplate at hpayload
  simp [hpayload]

/-- A login frame with its arguments in a dictionary inside a list. -/
def nestedLogin : SignedLoginMessageAuth where
  loginPayloadTemplate :=
    [("op", .str "login"),
      ("args", .list [.dict [("apiKey", .str "{api_key}"), ("timestamp", .str "{ts}"),
        ("sign", .str "{sig}")]])]
  sigInputTemplate := "{ts}GET/users/self/verify"
  apiKey := "k"
  signWs input := .returned ("signed " ++ input)

theorem nestedLogin_result (ctx : Dict String String) :
    expandDictTemplate Auth.formatMap nestedLogin.loginPayloadTemplate ctx =
      .ok nestedLogin.loginPayloadTemplate := by
  have hlogin : Auth.formatMap "login" ctx = .ok "login" := by
    rfl
  simp only [expandDictTemplate, nestedLogin, expandEntries, expandValue, expandItems, expandItem,
    hlogin]
  rfl

theorem nestedLogin_signature :
    nestedLogin.signature (ε := SignError) 17 = .ok "signed 17GET/users/self/verify" := by
  decide

/-- The nested frame is sent as it stands in the template, although each of its strings can be
expanded. -/
theorem nestedLogin_sends_placeholder :
    nestedLogin.onConnected Auth.formatMap 17 = .ok nestedLogin.loginPayloadTemplate ∧
    ¬ ∀ template ctx, (∀ s ∈ stringsOfEntries template, ∃ text,
        Auth.formatMap s ctx = .ok text) →
      ∃ result, expandDictTemplate Auth.formatMap template ctx = .ok result ∧
        ExpandedEntries (fun s => Auth.formatMap s ctx) template result := by
  constructor
  · unfold SignedLoginMessageAuth.onConnected
    rw [nestedLogin_signature]
    exact congrArg (Except.mapError LoginError.format)
      (nestedLogin_result (nestedLogin.loginContext 17 "signed 17GET/users/self/verify"))
  · intro h
    have hexpands : ∀ s ∈ stringsOfEntries nestedLogin.loginPayloadTemplate, ∃ text,
        Auth.formatMap s (nestedLogin.loginContext 17 "s") = .ok text := by
      simp only [nestedLogin, stringsOfEntries, stringsOf, stringsOfItems, List.append_nil,
        List.cons_append, List.nil_append, List.forall_mem_cons]
      refine ⟨⟨"login", by decide⟩, ⟨"k", by decide⟩, ⟨"17", by decide⟩, ⟨"s", by decide⟩, ?_⟩
      simp
    have hsettled := (expandEntries_iff _).1 (h _ _ hexpands)
    have hsign := hsettled.2 "\x7bsig\x7d" (by
      simp [nestedLogin, passedEntries, passedStrings, passedItem, stringsOf, stringsOfEntries])
    revert hsign
    decide

end Ws
end MarketConnector
