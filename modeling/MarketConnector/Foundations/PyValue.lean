import MarketConnector.Foundations.Dict
import Mathlib.Data.List.Infix

/-!
# Foundations - Dynamically typed values and raising steps

Decoded JSON documents, and the keyword arguments that are put into them, are
values of one dynamic type.  The constructor `object` stands for every value that
has no JSON form; it keeps the text that `str()` gives.

Main results:

- Definition `PyValue.truthy`: Python's truth value testing.
- Definition `PyValue.toText`: the text `str()` gives.
- Definition `PyValue.get?`: `d.get(key)` on a decoded JSON object.
- Theorem `bind_eq_ok`: a sequence of two steps returns when both return.
-/

namespace Foundations

/-- Runtime values: the JSON types and opaque objects.  Floats are their exact
rational values. -/
inductive PyValue where
  | none
  | bool (b : Bool)
  | int (n : Int)
  | float (q : Rat)
  | str (s : String)
  | list (xs : List PyValue)
  | dict (kvs : List (String × PyValue))
  | object (text : String)
deriving Inhabited

/-- Exceptions raised by operations on dynamic values. -/
inductive PyError where
  | assertionError | indexError | keyError | typeError | attributeError | valueError
  | arithmeticError | validationError
deriving DecidableEq, Repr

namespace PyValue

/-- Truth value testing: the empty and zero values are false. -/
def truthy : PyValue → Bool
  | .none => false
  | .bool b => b
  | .int n => n ≠ 0
  | .float q => q ≠ 0
  | .str s => s ≠ ""
  | .list xs => !xs.isEmpty
  | .dict kvs => !kvs.isEmpty
  | .object _ => true

/-- Values that can be used as dictionary keys. -/
def hashable : PyValue → Bool
  | .list _ => false
  | .dict _ => false
  | _ => true

/-- Entry of a decoded object; `none` when the key is absent. -/
def field? (kvs : List (String × PyValue)) (key : String) : Option PyValue :=
  Dict.lookupEntries key kvs

/-- `d.get(key)`: an absent key and a stored `None` give the same answer. -/
def get? (kvs : List (String × PyValue)) (key : String) : PyValue :=
  (field? kvs key).getD .none

/-- `str(v)`.  The `repr` of floats and containers is a parameter: nothing below
depends on how they are printed. -/
def toText (repr : PyValue → String) : PyValue → String
  | .str s => s
  | .none => "None"
  | .bool true => "True"
  | .bool false => "False"
  | .int n => toString n
  | .object text => text
  | v => repr v

/-- The text of a string value. -/
def asStr? : PyValue → Option String
  | .str s => some s
  | _ => Option.none

/-- Python list indexing with negative indices; `none` is `IndexError`. -/
def index? (xs : List PyValue) (i : Int) : Option PyValue :=
  if 0 ≤ i then xs[i.toNat]? else
    if 0 ≤ xs.length + i then xs[(xs.length + i).toNat]? else Option.none

/-- `xs[i]`. -/
def indexOrRaise (xs : List PyValue) (i : Int) : Except PyError PyValue :=
  match index? xs i with
  | some v => .ok v
  | Option.none => .error .indexError

/-- `v[i]` for an integer index: lists, and the characters of a text. -/
def subscript (v : PyValue) (i : Int) : Except PyError PyValue :=
  match v with
  | .list xs => indexOrRaise xs i
  | .str s => indexOrRaise (s.toList.map fun c => .str (String.singleton c)) i
  | .dict _ => .error .keyError
  | _ => .error .typeError

/-- `len(v)`. -/
def length (v : PyValue) : Except PyError Nat :=
  match v with
  | .list xs => .ok xs.length
  | .str s => .ok s.length
  | .dict kvs => .ok kvs.length
  | _ => .error .typeError

/-- Elements a `for` loop over the value visits. -/
def iterate (v : PyValue) : Except PyError (List PyValue) :=
  match v with
  | .list xs => .ok xs
  | .str s => .ok (s.toList.map fun c => .str (String.singleton c))
  | .dict kvs => .ok (kvs.map fun kv => .str kv.1)
  | _ => .error .typeError

/-- `v.items()`. -/
def items (v : PyValue) : Except PyError (List (String × PyValue)) :=
  match v with
  | .dict kvs => .ok kvs
  | _ => .error .attributeError

/-- Validation of a text field: no other type is converted to text. -/
def requireStr (v : PyValue) : Except PyError String :=
  match v with
  | .str s => .ok s
  | _ => .error .validationError

/-- Validation of an integer field; `parseInt` reads the texts that denote one. -/
def requireInt (parseInt : String → Option Int) (v : PyValue) : Except PyError Int :=
  match v with
  | .int n => .ok n
  | .bool b => .ok (if b then 1 else 0)
  | .float q => if q.den = 1 then .ok q.num else .error .validationError
  | .str s =>
      match parseInt s with
      | some n => .ok n
      | Option.none => .error .validationError
  | _ => .error .validationError

/-- Validation of a text field with a default. -/
def strField (kvs : List (String × PyValue)) (key default : String) : Except PyError String :=
  match field? kvs key with
  | Option.none => .ok default
  | some v => requireStr v

/-- Validation of a text field without a default. -/
def requiredStr (kvs : List (String × PyValue)) (key : String) : Except PyError String :=
  match field? kvs key with
  | Option.none => .error .validationError
  | some v => requireStr v

/-- Validation of a list field without a default. -/
def requiredList (kvs : List (String × PyValue)) (key : String) :
    Except PyError (List PyValue) :=
  match field? kvs key with
  | some (.list xs) => .ok xs
  | _ => .error .validationError

theorem mem_of_indexOrRaise {xs : List PyValue} {i : Int} {v : PyValue}
    (h : indexOrRaise xs i = .ok v) : v ∈ xs := by
  unfold indexOrRaise index? at h
  split_ifs at h with hpos hneg
  · cases hget : xs[i.toNat]? with
    | none => simp [hget] at h
    | some w =>
        simp only [hget, Except.ok.injEq] at h
        exact h ▸ List.mem_of_getElem? hget
  · cases hget : xs[(xs.length + i).toNat]? with
    | none => simp [hget] at h
    | some w =>
        simp only [hget, Except.ok.injEq] at h
        exact h ▸ List.mem_of_getElem? hget

end PyValue

/-! ## Texts -/

/-- `needle in text`. -/
def occursIn (needle text : String) : Bool :=
  text.toList.tails.any fun rest => needle.toList.isPrefixOf rest

/-- Texts that agree up to and after their first separator. -/
theorem append_separator_inj {sep : Char} {xs ys zs ws : List Char} (hxs : sep ∉ xs)
    (hys : sep ∉ ys) (h : xs ++ sep :: zs = ys ++ sep :: ws) : xs = ys ∧ zs = ws := by
  induction xs generalizing ys with
  | nil =>
      cases ys with
      | nil => simpa using h
      | cons y ys =>
          simp only [List.nil_append, List.cons_append, List.cons.injEq] at h
          simp [h.1] at hys
  | cons x xs ih =>
      cases ys with
      | nil =>
          simp only [List.nil_append, List.cons_append, List.cons.injEq] at h
          simp [h.1] at hxs
      | cons y ys =>
          simp only [List.cons_append, List.cons.injEq] at h
          simp only [List.mem_cons, not_or] at hxs hys
          simpa [h.1] using ih hxs.2 hys.2 h.2

/-- Texts joined by a colon that the first ones lack. -/
theorem join_colon_inj {xs ys zs ws : String} (hxs : ':' ∉ xs.toList) (hys : ':' ∉ ys.toList)
    (h : xs ++ ":" ++ zs = ys ++ ":" ++ ws) : xs = ys ∧ zs = ws := by
  have hlist := congrArg String.toList h
  have hcolon : ":".toList = [':'] := rfl
  simp only [String.toList_append, hcolon, List.append_assoc, List.singleton_append] at hlist
  obtain ⟨hfirst, hlast⟩ := append_separator_inj hxs hys hlist
  exact ⟨String.toList_injective hfirst, String.toList_injective hlast⟩

/-- A text without a colon is no text with one. -/
theorem ne_join_colon {xs ys zs : String} (hxs : ':' ∉ xs.toList) : xs ≠ ys ++ ":" ++ zs := by
  rintro rfl
  simp at hxs

/-! ## Steps that may raise -/

/-- A sequence of two steps returns when both return. -/
theorem bind_eq_ok {ε α β : Type} {x : Except ε α} {f : α → Except ε β} {b : β} :
    (x >>= f) = .ok b ↔ ∃ a, x = .ok a ∧ f a = .ok b := by
  cases x <;> simp [bind, Except.bind]

theorem map_eq_ok {ε α β : Type} {x : Except ε α} {f : α → β} {b : β} :
    x.map f = .ok b ↔ ∃ a, x = .ok a ∧ f a = b := by
  cases x <;> simp [Except.map]

theorem mapError_eq_ok {ε ε' α : Type} {x : Except ε α} {f : ε → ε'} {a : α} :
    x.mapError f = .ok a ↔ x = .ok a := by
  cases x <;> simp [Except.mapError]

/-- A step over the items of a list returns when it does for each of them. -/
theorem mapM_eq_ok {ε α β : Type} {f : α → Except ε β} {xs : List α} {ys : List β} :
    xs.mapM f = .ok ys ↔ List.Forall₂ (fun x y => f x = .ok y) xs ys := by
  induction xs generalizing ys with
  | nil => cases ys <;> simp [pure, Except.pure]
  | cons x xs ih =>
      rw [List.mapM_cons, bind_eq_ok]
      constructor
      · rintro ⟨y, hy, hbind⟩
        obtain ⟨rest, hrest, heq⟩ := bind_eq_ok.1 hbind
        cases heq
        exact .cons hy (ih.1 hrest)
      · intro h
        cases h with
        | cons hy hrest =>
            refine ⟨_, hy, ?_⟩
            rw [ih.2 hrest]
            rfl

/-- Two steps end in something when each of them does. -/
theorem exists_pair_iff {ε α β γ : Type} {x : Except ε α} {y : Except ε β} {f : α → β → γ}
    {A : α → Prop} {B : β → Prop} {C : γ → Prop} (hf : ∀ a b, C (f a b) ↔ A a ∧ B b) :
    (∃ c, (do let a ← x; let b ← y; return f a b) = .ok c ∧ C c) ↔
      (∃ a, x = .ok a ∧ A a) ∧ ∃ b, y = .ok b ∧ B b := by
  cases x with
  | error e => simp [bind, Except.bind]
  | ok a =>
      cases y with
      | error e => simp [bind, Except.bind]
      | ok b => simp [bind, Except.bind, pure, Except.pure, hf]

theorem exists_map_iff {ε α γ : Type} {x : Except ε α} {f : α → γ} {A : α → Prop} {C : γ → Prop}
    (hf : ∀ a, C (f a) ↔ A a) : (∃ c, x.map f = .ok c ∧ C c) ↔ ∃ a, x = .ok a ∧ A a := by
  cases x with
  | error e => simp [Except.map]
  | ok a => simp [Except.map, hf]

end Foundations
