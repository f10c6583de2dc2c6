import MarketConnector.Foundations.Dict

/-!
# Foundations - Indexing a dictionary by a class of its values

A dictionary whose values fall into classes is often kept beside an index from classes to
values.  Several entries may share a class, so the index has to choose: here it holds the
entry inserted last.  Removals are safe when they leave the index alone as long as the
class has another entry.

Main results:

- Theorem `Dict.Indexed.set_new`: an insertion overwrites the index.
- Theorem `Dict.Indexed.popFirst`: dropping the oldest entry keeps the index, with the
  class dropped exactly when it has no entry left.
- Theorem `Dict.Indexed.pop_alone`: dropping an entry that is alone in its class drops the
  class.
- Theorem `Dict.Indexed.coherent`: the index has exactly the classes of the entries, and
  points into the dictionary.
-/

namespace Foundations
namespace Dict

universe u v w

variable {α : Type u} {β : Type v} {γ : Type w} [DecidableEq γ]

/-! ## The last value of a class -/

/-- Last value of the class `c`. -/
def lastOf (f : β → γ) (c : γ) (vs : List β) : Option β :=
  vs.reverse.find? fun v => f v = c

theorem lastOf_eq_none {f : β → γ} {c : γ} {vs : List β} :
    lastOf f c vs = none ↔ ∀ v ∈ vs, f v ≠ c := by
  simp [lastOf]

theorem lastOf_eq_some {f : β → γ} {c : γ} {vs : List β} {v : β} (h : lastOf f c vs = some v) :
    v ∈ vs ∧ f v = c := by
  refine ⟨?_, by simpa using List.find?_some h⟩
  simpa using List.mem_of_find?_eq_some h

theorem lastOf_append_singleton (f : β → γ) (c : γ) (vs : List β) (v : β) :
    lastOf f c (vs ++ [v]) = if f v = c then some v else lastOf f c vs := by
  by_cases h : f v = c <;> simp [lastOf, h]

/-- The first value counts only when it is alone in its class. -/
theorem lastOf_cons (f : β → γ) (c : γ) (v : β) (vs : List β) :
    lastOf f c (v :: vs) = (lastOf f c vs).or (if f v = c then some v else none) := by
  by_cases h : f v = c <;> simp [lastOf, List.find?_append, h]

/-! ## Removing the oldest entry -/

/-- `d.popitem(last=False)`, keeping the dictionary only. -/
def popFirst (d : Dict α β) : Dict α β :=
  ⟨d.entries.tail, d.nodup.sublist ((List.tail_sublist _).map Prod.fst)⟩

@[simp]
theorem values_popFirst (d : Dict α β) : d.popFirst.values = d.values.tail := by
  simp [values, popFirst]

theorem size_popFirst (d : Dict α β) : d.popFirst.size = d.size - 1 := by
  simp [size, popFirst]

theorem mem_keys_popFirst {d : Dict α β} {k : α} (h : k ∈ d.popFirst.keys) : k ∈ d.keys := by
  simp only [keys, popFirst, List.map_tail] at h
  exact List.mem_of_mem_tail h

theorem get?_of_popFirst [DecidableEq α] {d : Dict α β} {k : α} {v : β}
    (h : d.popFirst.get? k = some v) : d.get? k = some v := by
  rw [← mem_entries_iff] at h ⊢
  exact List.mem_of_mem_tail h

/-! ## Indexes -/

/-- `index` maps every class to its last entry. -/
def Indexed (f : β → γ) (index : Dict γ β) (d : Dict α β) : Prop :=
  ∀ c, index.get? c = lastOf f c d.values

/-- `index` has exactly the classes of the entries of `d`, and each class leads to an entry
of that class. -/
structure Coherent (f : β → γ) (index : Dict γ β) (d : Dict α β) : Prop where
  keys : ∀ c, c ∈ index.keys ↔ ∃ v ∈ d.values, f v = c
  points : ∀ c v, index.get? c = some v → v ∈ d.values ∧ f v = c

/-- Drop a class without entries from the index. -/
def dropClass (f : β → γ) (c : γ) (index : Dict γ β) (d : Dict α β) : Dict γ β :=
  if d.values.any fun v => f v = c then index else index.pop c

theorem get?_of_dropClass {f : β → γ} {c c' : γ} {index : Dict γ β} {d : Dict α β} {v : β}
    (h : (dropClass f c index d).get? c' = some v) : index.get? c' = some v := by
  unfold dropClass at h
  split_ifs at h
  · exact h
  · exact get?_of_pop h

namespace Indexed

variable {f : β → γ} {index : Dict γ β} {d : Dict α β}

theorem empty : Indexed f (∅ : Dict γ β) (∅ : Dict α β) := by
  intro c
  simp [lastOf, values, EmptyCollection.emptyCollection, Dict.empty, get?, lookupEntries]

theorem coherent (h : Indexed f index d) : Coherent f index d := by
  refine ⟨fun c => ?_, fun c v hget => lastOf_eq_some ((h c).symm.trans hget)⟩
  rw [mem_keys_iff, contains, h c]
  cases hlast : lastOf f c d.values with
  | none =>
      have hnone := lastOf_eq_none.mp hlast
      simpa using hnone
  | some v => simpa using ⟨v, lastOf_eq_some hlast⟩

/-- The oldest entry is the last of its class only when it is the only one. -/
theorem popFirst (h : Indexed f index d) {e : α × β} {es : List (α × β)}
    (hes : d.entries = e :: es) : Indexed f (dropClass f (f e.2) index d.popFirst) d.popFirst := by
  have hvalues : d.values = e.2 :: d.popFirst.values := by
    simp [values, hes, Dict.popFirst]
  intro c
  have hold := h c
  rw [hvalues, lastOf_cons] at hold
  unfold dropClass
  split_ifs with hshared
  · obtain ⟨v, hv, hclass⟩ := List.any_eq_true.mp hshared
    rw [hold]
    cases hlast : lastOf f c d.popFirst.values with
    | some w => simp
    | none =>
        have hne : f e.2 ≠ c := by
          intro heq
          exact lastOf_eq_none.mp hlast v hv (by simpa [heq] using hclass)
        simp [hne]
  · rw [get?_pop]
    split_ifs with hc
    · symm
      rw [lastOf_eq_none]
      intro v hv hclass
      exact hshared (List.any_eq_true.mpr ⟨v, hv, by simpa [hc] using hclass⟩)
    · simpa [Ne.symm hc] using hold

end Indexed

/-! ## Insertions and removals -/

variable [DecidableEq α]

/-- A new key goes to the end. -/
theorem setEntries_of_not_mem {k : α} {v : β} {es : List (α × β)} (h : k ∉ es.map Prod.fst) :
    setEntries k v es = es ++ [(k, v)] := by
  induction es with
  | nil => rfl
  | cons e es ih =>
      simp only [List.map_cons, List.mem_cons, not_or] at h
      simp [setEntries, Ne.symm h.1, ih h.2]

theorem values_set_new {d : Dict α β} {k : α} (h : k ∉ d.keys) (v : β) :
    (d.set k v).values = d.values ++ [v] := by
  simp [values, set, setEntries_of_not_mem (v := v) h]

theorem size_set_new {d : Dict α β} {k : α} (h : k ∉ d.keys) (v : β) :
    (d.set k v).size = d.size + 1 := by
  simp [size, set, setEntries_of_not_mem (v := v) h]

theorem size_pop_le (d : Dict α β) (k : α) : (d.pop k).size ≤ d.size :=
  List.length_filter_le _ _

/-- Values of the entries that stay. -/
theorem mem_values_pop {d : Dict α β} {k : α} {v : β} :
    v ∈ (d.pop k).values ↔ ∃ k', k' ≠ k ∧ d.get? k' = some v := by
  simp only [values, Dict.pop, popEntries, List.mem_map, List.mem_filter]
  constructor
  · rintro ⟨⟨k', v'⟩, ⟨hmem, hne⟩, rfl⟩
    exact ⟨k', by simpa using hne, d.mem_entries_iff.mp hmem⟩
  · rintro ⟨k', hne, hget⟩
    exact ⟨(k', v), ⟨d.mem_entries_iff.mpr hget, by simpa using hne⟩, rfl⟩

/-- Removing an entry of another class. -/
theorem lastOf_pop {f : β → γ} {d : Dict α β} {k : α} {v : β} (hget : d.get? k = some v) {c : γ}
    (hc : f v ≠ c) : lastOf f c (d.pop k).values = lastOf f c d.values := by
  have hentries : (d.entries.filter fun e => e.1 ≠ k).filter (fun e => f e.2 = c) =
      d.entries.filter fun e => f e.2 = c := by
    rw [List.filter_filter]
    apply List.filter_congr
    intro e he
    have hkey : f e.2 = c → e.1 ≠ k := by
      rintro hclass rfl
      have hsome : d.get? e.1 = some e.2 := d.mem_entries_iff.mp he
      rw [hget] at hsome
      cases hsome
      exact hc hclass
    by_cases hclass : f e.2 = c
    · simp [hclass, hkey hclass]
    · simp [hclass]
  simp only [lastOf, ← List.head?_filter, List.filter_reverse, values, Dict.pop, popEntries,
    List.filter_map, Function.comp_def, hentries]

namespace Indexed

variable {f : β → γ} {index : Dict γ β} {d : Dict α β}

/-- The entry inserted last is the one the index should hold. -/
theorem set_new (h : Indexed f index d) {k : α} (hk : k ∉ d.keys) (v : β) :
    Indexed f (index.set (f v) v) (d.set k v) := by
  intro c
  rw [values_set_new hk, lastOf_append_singleton, get?_set, h c]
  by_cases hc : f v = c
  · simp [hc]
  · simp [hc, Ne.symm hc]

/-- Dropping an entry that is alone in its class drops the class. -/
theorem pop_alone (h : Indexed f index d) {k : α} {v : β} (hget : d.get? k = some v)
    (halone : ∀ k' w, k' ≠ k → d.get? k' = some w → f w ≠ f v) :
    Indexed f (index.pop (f v)) (d.pop k) := by
  intro c
  rw [get?_pop]
  split_ifs with hc
  · symm
    rw [lastOf_eq_none, hc]
    intro w hw
    obtain ⟨k', hne, hget'⟩ := mem_values_pop.mp hw
    exact halone k' w hne hget'
  · rw [h c, lastOf_pop hget (Ne.symm hc)]

end Indexed

/-- Dropping the class of a removed entry is right only when the entry was alone in it. -/
theorem Coherent.alone_of_pop {f : β → γ} {index : Dict γ β} {d : Dict α β} {k : α} {v : β}
    (h : Coherent f (index.pop (f v)) (d.pop k)) (k' : α) (w : β) (hne : k' ≠ k)
    (hget : d.get? k' = some w) : f w ≠ f v := by
  intro hclass
  have hmem : f v ∈ (index.pop (f v)).keys :=
    (h.keys (f v)).mpr ⟨w, mem_values_pop.mpr ⟨k', hne, hget⟩, hclass⟩
  exact (mem_keys_pop.mp hmem).2 rfl

end Dict
end Foundations
