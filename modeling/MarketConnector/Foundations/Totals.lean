import Mathlib.Algebra.BigOperators.Group.List.Basic
import Mathlib.Algebra.Order.BigOperators.Group.List
import Mathlib.Algebra.GroupWithZero.Nat
import Mathlib.Algebra.Order.Group.Nat
import MarketConnector.Foundations.Dict

/-!
# Foundations - Totals over a dictionary

Sums of a weight over the values of a dictionary: how many entries have a property, how
much they hold together.

Main results:

- Theorems `Dict.total_set_of_get?` and `Dict.total_set_of_absent`: an assignment
  replaces the weight of its key.
- Theorems `Dict.total_pop_of_get?` and `Dict.total_pop_of_absent`: a removal takes it
  away.
- Theorem `Dict.total_add_le_of_get?`: one entry that weighs less.
-/

namespace Foundations
namespace Dict

universe u v

variable {α : Type u} {β : Type v}

/-- Sum of a weight over the values. -/
def total (d : Dict α β) (f : β → Nat) : Nat :=
  (d.entries.map fun e => f e.2).sum

@[simp]
theorem total_empty (f : β → Nat) : (∅ : Dict α β).total f = 0 :=
  rfl

/-- Two weights together. -/
theorem total_add (d : Dict α β) (f g : β → Nat) :
    (d.total fun v => f v + g v) = d.total f + d.total g :=
  List.sum_map_add

@[simp]
theorem total_zero (d : Dict α β) : (d.total fun _ => 0) = 0 := by
  simp [total]

theorem total_one (d : Dict α β) : (d.total fun _ => 1) = d.size := by
  simp [total, size]

variable [DecidableEq α]

/-- Replacing the value of a present key. -/
theorem total_set_of_get? {d : Dict α β} {k : α} {v₀ : β} (h : d.get? k = some v₀) (v : β)
    (f : β → Nat) : (d.set k v).total f + f v₀ = d.total f + f v := by
  rcases d with ⟨es, hnodup⟩
  have hes : lookupEntries k es = some v₀ := h
  show ((setEntries k v es).map fun e => f e.2).sum + f v₀ = (es.map fun e => f e.2).sum + f v
  clear h hnodup
  induction es with
  | nil => cases hes
  | cons e es ih =>
      unfold setEntries
      unfold lookupEntries at hes
      split_ifs at hes ⊢ with hk
      · cases hes
        simp only [List.map_cons, List.sum_cons]
        omega
      · have hrest := ih hes
        simp only [List.map_cons, List.sum_cons]
        omega

/-- Adding a key. -/
theorem total_set_of_absent {d : Dict α β} {k : α} (h : d.get? k = none) (v : β)
    (f : β → Nat) : (d.set k v).total f = d.total f + f v := by
  rcases d with ⟨es, hnodup⟩
  have hes : lookupEntries k es = none := h
  show ((setEntries k v es).map fun e => f e.2).sum = (es.map fun e => f e.2).sum + f v
  clear h hnodup
  induction es with
  | nil => simp [setEntries]
  | cons e es ih =>
      unfold setEntries
      unfold lookupEntries at hes
      split_ifs at hes ⊢ with hk
      have hrest := ih hes
      simp only [List.map_cons, List.sum_cons]
      omega

theorem total_set_le (d : Dict α β) (k : α) (v : β) (f : β → Nat) :
    (d.set k v).total f ≤ d.total f + f v := by
  cases h : d.get? k with
  | none => exact (total_set_of_absent h v f).le
  | some v₀ =>
      have hset := total_set_of_get? h v f
      omega

theorem pop_of_absent {d : Dict α β} {k : α} (h : d.get? k = none) : d.pop k = d := by
  apply Dict.ext
  show d.entries.filter (fun e => e.1 ≠ k) = d.entries
  rw [List.filter_eq_self]
  rintro ⟨k', v⟩ he
  have hfound := d.mem_entries_iff.1 he
  simp only [ne_eq, decide_eq_true_eq]
  rintro rfl
  rw [h] at hfound
  cases hfound

/-- Removing a key that is absent. -/
theorem total_pop_of_absent {d : Dict α β} {k : α} (h : d.get? k = none) (f : β → Nat) :
    (d.pop k).total f = d.total f := by
  rw [pop_of_absent h]

/-- Removing a key. -/
theorem total_pop_of_get? {d : Dict α β} {k : α} {v : β} (h : d.get? k = some v)
    (f : β → Nat) : (d.pop k).total f + f v = d.total f := by
  rcases d with ⟨es, hnodup⟩
  have hes : lookupEntries k es = some v := h
  show ((popEntries k es).map fun e => f e.2).sum + f v = (es.map fun e => f e.2).sum
  clear h
  induction es with
  | nil => cases hes
  | cons e es ih =>
      rw [List.map_cons, List.nodup_cons] at hnodup
      unfold popEntries
      unfold lookupEntries at hes
      split_ifs at hes with hk
      · cases hes
        have hrest : es.filter (fun e' => e'.1 ≠ k) = es := by
          rw [List.filter_eq_self]
          intro e' he'
          simp only [ne_eq, decide_eq_true_eq]
          rintro rfl
          exact hnodup.1 (hk ▸ List.mem_map_of_mem he')
        rw [List.filter_cons_of_neg (by simpa using hk), hrest]
        simp only [List.map_cons, List.sum_cons]
        omega
      · have hrest := ih hnodup.2 hes
        unfold popEntries at hrest
        rw [List.filter_cons_of_pos (by simpa using hk)]
        simp only [List.map_cons, List.sum_cons]
        omega

theorem total_pop_le (d : Dict α β) (k : α) (f : β → Nat) :
    (d.pop k).total f ≤ d.total f := by
  cases h : d.get? k with
  | none => exact (total_pop_of_absent h f).le
  | some v =>
      have hpop := total_pop_of_get? h f
      omega

theorem total_without_le (d : Dict α β) (ks : List α) (f : β → Nat) :
    (d.without ks).total f ≤ d.total f :=
  (List.filter_sublist.map _).sum_le_sum fun _ _ => Nat.zero_le _

theorem total_le_total {d : Dict α β} {f g : β → Nat}
    (h : ∀ k v, d.get? k = some v → f v ≤ g v) : d.total f ≤ d.total g := by
  refine List.sum_le_sum fun e he => ?_
  exact h e.1 e.2 (d.mem_entries_iff.1 he)

theorem total_congr {d : Dict α β} {f g : β → Nat}
    (h : ∀ k v, d.get? k = some v → f v = g v) : d.total f = d.total g :=
  le_antisymm (total_le_total fun k v hk => (h k v hk).le)
    (total_le_total fun k v hk => (h k v hk).ge)

/-- One entry weighs less, and no entry more. -/
theorem total_add_le_of_get? {d : Dict α β} {f g : β → Nat} {k : α} {v : β} {n : Nat}
    (hk : d.get? k = some v) (hv : f v + n ≤ g v)
    (h : ∀ k' v', d.get? k' = some v' → f v' ≤ g v') : d.total f + n ≤ d.total g := by
  have hf := total_pop_of_get? hk f
  have hg := total_pop_of_get? hk g
  have hrest : (d.pop k).total f ≤ (d.pop k).total g :=
    total_le_total fun k' v' hk' => h k' v' (get?_of_pop hk')
  omega

/-! ## Number of entries -/

theorem size_set_of_absent {d : Dict α β} {k : α} (h : d.get? k = none) (v : β) :
    (d.set k v).size = d.size + 1 := by
  rw [← total_one, ← total_one]
  exact total_set_of_absent h v fun _ => 1

theorem size_pop_of_get? {d : Dict α β} {k : α} {v : β} (h : d.get? k = some v) :
    (d.pop k).size + 1 = d.size := by
  rw [← total_one, ← total_one]
  exact total_pop_of_get? h fun _ => 1

end Dict
end Foundations
