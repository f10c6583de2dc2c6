import MarketConnector.Foundations.PyValue

/-!
# Foundations - String leaves

Trees of dynamic values whose strings are expanded at every depth, while their shape, their
keys and their other leaves stay.

Main results:

- Definition `Expanded`: one tree is the expansion of another.
- Theorem `expanded_self_iff`: a tree is its own expansion when each of its strings is.
-/

namespace Foundations

variable {ε : Type} (expand : String → Except ε String)

mutual

/-- The second value is the first one with all of its strings expanded. -/
def Expanded : PyValue → PyValue → Prop
  | .str s, w => ∃ text, expand s = .ok text ∧ w = .str text
  | .list xs, w => ∃ ys, w = .list ys ∧ ExpandedItems xs ys
  | .dict kvs, w => ∃ kvs', w = .dict kvs' ∧ ExpandedEntries kvs kvs'
  | .none, w => w = .none
  | .bool b, w => w = .bool b
  | .int n, w => w = .int n
  | .float q, w => w = .float q
  | .object text, w => w = .object text

/-- Items one by one. -/
def ExpandedItems : List PyValue → List PyValue → Prop
  | [], ys => ys = []
  | x :: xs, ys => ∃ y ys', ys = y :: ys' ∧ Expanded x y ∧ ExpandedItems xs ys'

/-- Entries one by one, under the same keys. -/
def ExpandedEntries : List (String × PyValue) → List (String × PyValue) → Prop
  | [], kvs' => kvs' = []
  | (k, v) :: kvs, kvs' => ∃ w rest, kvs' = (k, w) :: rest ∧ Expanded v w ∧
      ExpandedEntries kvs rest

end

mutual

/-- Strings of a value, at any depth. -/
def stringsOf : PyValue → List String
  | .str s => [s]
  | .list xs => stringsOfItems xs
  | .dict kvs => stringsOfEntries kvs
  | .none => []
  | .bool _ => []
  | .int _ => []
  | .float _ => []
  | .object _ => []

def stringsOfItems : List PyValue → List String
  | [] => []
  | x :: xs => stringsOf x ++ stringsOfItems xs

def stringsOfEntries : List (String × PyValue) → List String
  | [] => []
  | (_, v) :: kvs => stringsOf v ++ stringsOfEntries kvs

end

mutual

theorem expanded_self_iff (v : PyValue) :
    Expanded expand v v ↔ ∀ s ∈ stringsOf v, expand s = .ok s := by
  cases v with
  | str s =>
      rw [Expanded, stringsOf, List.forall_mem_singleton]
      constructor
      · rintro ⟨text, hexpand, heq⟩
        rw [hexpand, PyValue.str.inj heq]
      · exact fun h => ⟨s, h, rfl⟩
  | list xs =>
      rw [Expanded, stringsOf, ← expandedItems_self_iff xs]
      simp
  | dict kvs =>
      rw [Expanded, stringsOf, ← expandedEntries_self_iff kvs]
      simp
  | none => simp [Expanded, stringsOf]
  | bool b => simp [Expanded, stringsOf]
  | int n => simp [Expanded, stringsOf]
  | float q => simp [Expanded, stringsOf]
  | object text => simp [Expanded, stringsOf]

theorem expandedItems_self_iff (xs : List PyValue) :
    ExpandedItems expand xs xs ↔ ∀ s ∈ stringsOfItems xs, expand s = .ok s := by
  cases xs with
  | nil => simp [ExpandedItems, stringsOfItems]
  | cons x xs =>
      rw [ExpandedItems, stringsOfItems, List.forall_mem_append, ← expanded_self_iff x,
        ← expandedItems_self_iff xs]
      simp

theorem expandedEntries_self_iff (kvs : List (String × PyValue)) :
    ExpandedEntries expand kvs kvs ↔ ∀ s ∈ stringsOfEntries kvs, expand s = .ok s := by
  cases kvs with
  | nil => simp [ExpandedEntries, stringsOfEntries]
  | cons kv kvs =>
      obtain ⟨k, v⟩ := kv
      rw [ExpandedEntries, stringsOfEntries, List.forall_mem_append, ← expanded_self_iff v,
        ← expandedEntries_self_iff kvs]
      simp

end

end Foundations
