import Mathlib.Data.List.Nodup

/-!
# Foundations - Insertion-ordered dictionaries

A dictionary is the list of its entries in insertion order together with the
proof that no key occurs twice, so a value of the type can always be read as a
finite map.  Assigning to a present key keeps the key's place; a new key goes to
the end.

Main results:

- Theorems `Dict.get?_set_self` and `Dict.get?_set_of_ne`: what an assignment
  changes and what it leaves alone.
- Theorems `Dict.get?_pop_self` and `Dict.get?_pop_of_ne`: the same for a removal.
- Theorem `Dict.mem_entries_iff`: the entries are exactly the key/value pairs that
  lookup finds.
-/

namespace Foundations

universe u v

variable {α : Type u} {β : Type v}

/-- Finite map with insertion order; each key occurs once. -/
@[ext]
structure Dict (α : Type u) (β : Type v) where
  entries : List (α × β)
  nodup : (entries.map Prod.fst).Nodup

namespace Dict

/-! ## Entry lists -/

section Entries

variable [DecidableEq α]

/-- First value stored under a key. -/
def lookupEntries (k : α) : List (α × β) → Option β
  | [] => none
  | e :: es => if e.1 = k then some e.2 else lookupEntries k es

/-- Overwrite the value of a present key in place, or append a new entry. -/
def setEntries (k : α) (v : β) : List (α × β) → List (α × β)
  | [] => [(k, v)]
  | e :: es => if e.1 = k then (k, v) :: es else e :: setEntries k v es

/-- Drop the entries of a key. -/
def popEntries (k : α) (es : List (α × β)) : List (α × β) :=
  es.filter fun e => e.1 ≠ k

theorem mem_keys_setEntries {k k' : α} {v : β} {es : List (α × β)} :
    k' ∈ (setEntries k v es).map Prod.fst ↔ k' = k ∨ k' ∈ es.map Prod.fst := by
  induction es with
  | nil => simp [setEntries]
  | cons e es ih =>
      by_cases h : e.1 = k
      · subst h
        simp [setEntries]
      · simp only [setEntries, if_neg h, List.map_cons, List.mem_cons, ih]
        tauto

theorem nodup_setEntries {k : α} {v : β} {es : List (α × β)}
    (hes : (es.map Prod.fst).Nodup) : ((setEntries k v es).map Prod.fst).Nodup := by
  induction es with
  | nil => simp [setEntries]
  | cons e es ih =>
      simp only [List.map_cons, List.nodup_cons] at hes
      by_cases h : e.1 = k
      · subst h
        simpa [setEntries] using hes
      · simp only [setEntries, if_neg h, List.map_cons, List.nodup_cons, mem_keys_setEntries]
        exact ⟨fun hmem => hmem.elim h hes.1, ih hes.2⟩

theorem nodup_popEntries {k : α} {es : List (α × β)}
    (hes : (es.map Prod.fst).Nodup) : ((popEntries k es).map Prod.fst).Nodup :=
  hes.sublist ((List.filter_sublist).map Prod.fst)

theorem lookupEntries_setEntries_self (k : α) (v : β) (es : List (α × β)) :
    lookupEntries k (setEntries k v es) = some v := by
  induction es with
  | nil => simp [setEntries, lookupEntries]
  | cons e es ih =>
      by_cases h : e.1 = k
      · simp [setEntries, lookupEntries, h]
      · simp [setEntries, lookupEntries, h, ih]

theorem lookupEntries_setEntries_of_ne {k k' : α} (h : k' ≠ k) (v : β) (es : List (α × β)) :
    lookupEntries k' (setEntries k v es) = lookupEntries k' es := by
  induction es with
  | nil => simp [setEntries, lookupEntries, h.symm]
  | cons e es ih =>
      by_cases he : e.1 = k
      · subst he
        simp [setEntries, lookupEntries, h.symm]
      · simp only [setEntries, if_neg he, lookupEntries, ih]

theorem lookupEntries_popEntries_self (k : α) (es : List (α × β)) :
    lookupEntries k (popEntries k es) = none := by
  induction es with
  | nil => rfl
  | cons e es ih =>
      by_cases h : e.1 = k
      · simpa [popEntries, h] using ih
      · simpa [popEntries, h, lookupEntries] using ih

theorem lookupEntries_popEntries_of_ne {k k' : α} (h : k' ≠ k) (es : List (α × β)) :
    lookupEntries k' (popEntries k es) = lookupEntries k' es := by
  induction es with
  | nil => rfl
  | cons e es ih =>
      by_cases he : e.1 = k
      · subst he
        simpa [popEntries, lookupEntries, h.symm] using ih
      · simp only [popEntries, ne_eq, decide_not] at ih ⊢
        simp only [he, decide_false, Bool.not_false, List.filter_cons_of_pos, lookupEntries, ih]

theorem lookupEntries_append {k : α} {v : β} {es : List (α × β)}
    (h : lookupEntries k es = some v) (rest : List (α × β)) :
    lookupEntries k (es ++ rest) = some v := by
  induction es with
  | nil => cases h
  | cons e es ih =>
      simp only [List.cons_append, lookupEntries] at h ⊢
      split_ifs at h ⊢ with he
      · exact h
      · exact ih h

theorem lookupEntries_map (f : β → β) (k : α) (es : List (α × β)) :
    lookupEntries k (es.map fun e => (e.1, f e.2)) = (lookupEntries k es).map f := by
  induction es with
  | nil => rfl
  | cons e es ih =>
      rw [List.map_cons, lookupEntries, lookupEntries]
      split_ifs
      · rfl
      · exact ih

theorem mem_of_lookupEntries {k : α} {v : β} {es : List (α × β)}
    (h : lookupEntries k es = some v) : (k, v) ∈ es := by
  induction es with
  | nil => cases h
  | cons e es ih =>
      by_cases he : e.1 = k
      · simp only [lookupEntries, if_pos he, Option.some.injEq] at h
        subst he h
        exact List.mem_cons_self
      · simp only [lookupEntries, if_neg he] at h
        exact List.mem_cons_of_mem _ (ih h)

theorem lookupEntries_of_mem {k : α} {v : β} {es : List (α × β)}
    (hes : (es.map Prod.fst).Nodup) (h : (k, v) ∈ es) : lookupEntries k es = some v := by
  induction es with
  | nil => cases h
  | cons e es ih =>
      simp only [List.map_cons, List.nodup_cons] at hes
      rcases List.mem_cons.mp h with rfl | hmem
      · simp [lookupEntries]
      · have hne : e.1 ≠ k := by
          rintro rfl
          exact hes.1 (List.mem_map.mpr ⟨_, hmem, rfl⟩)
        simp only [lookupEntries, if_neg hne]
        exact ih hes.2 hmem

end Entries

/-! ## Operations -/

/-- The dictionary without entries. -/
def empty : Dict α β :=
  ⟨[], List.nodup_nil⟩

instance : EmptyCollection (Dict α β) :=
  ⟨empty⟩

/-- Keys in insertion order. -/
def keys (d : Dict α β) : List α :=
  d.entries.map Prod.fst

/-- Values in insertion order. -/
def values (d : Dict α β) : List β :=
  d.entries.map Prod.snd

/-- Number of entries. -/
def size (d : Dict α β) : Nat :=
  d.entries.length

variable [DecidableEq α]

instance [DecidableEq β] : DecidableEq (Dict α β) := fun d e =>
  decidable_of_iff (d.entries = e.entries) ⟨fun h => Dict.ext h, fun h => h ▸ rfl⟩

/-- `d.get(k)`. -/
def get? (d : Dict α β) (k : α) : Option β :=
  lookupEntries k d.entries

/-- `k in d`. -/
def contains (d : Dict α β) (k : α) : Bool :=
  (d.get? k).isSome

/-- `d[k] = v`. -/
def set (d : Dict α β) (k : α) (v : β) : Dict α β :=
  ⟨setEntries k v d.entries, nodup_setEntries d.nodup⟩

/-- `d.pop(k, None)`, keeping the dictionary only. -/
def pop (d : Dict α β) (k : α) : Dict α β :=
  ⟨popEntries k d.entries, nodup_popEntries d.nodup⟩

/-- `d.update(kvs)`. -/
def update (d : Dict α β) (kvs : List (α × β)) : Dict α β :=
  kvs.foldl (fun d e => d.set e.1 e.2) d

/-- The entries whose key passes a test. -/
def filterKeys (d : Dict α β) (p : α → Bool) : Dict α β :=
  ⟨d.entries.filter fun e => p e.1, d.nodup.sublist (List.filter_sublist.map Prod.fst)⟩

/-- The entries whose key is not listed. -/
def without (d : Dict α β) (ks : List α) : Dict α β :=
  ⟨d.entries.filter fun e => e.1 ∉ ks, d.nodup.sublist (List.filter_sublist.map Prod.fst)⟩

/-- Change every value. -/
def mapValues (d : Dict α β) (f : β → β) : Dict α β :=
  ⟨d.entries.map fun e => (e.1, f e.2), by simpa [Function.comp_def] using d.nodup⟩

/-- `dict(kvs)`. -/
def ofList (kvs : List (α × β)) : Dict α β :=
  empty.update kvs

/-! ## Lookup laws -/

@[simp]
theorem get?_empty (k : α) : (∅ : Dict α β).get? k = none :=
  rfl

@[simp]
theorem get?_set_self (d : Dict α β) (k : α) (v : β) : (d.set k v).get? k = some v :=
  lookupEntries_setEntries_self k v d.entries

theorem get?_set_of_ne (d : Dict α β) {k k' : α} (h : k' ≠ k) (v : β) :
    (d.set k v).get? k' = d.get? k' :=
  lookupEntries_setEntries_of_ne h v d.entries

@[simp]
theorem get?_pop_self (d : Dict α β) (k : α) : (d.pop k).get? k = none :=
  lookupEntries_popEntries_self k d.entries

theorem get?_pop_of_ne (d : Dict α β) {k k' : α} (h : k' ≠ k) :
    (d.pop k).get? k' = d.get? k' :=
  lookupEntries_popEntries_of_ne h d.entries

theorem get?_set (d : Dict α β) (k k' : α) (v : β) :
    (d.set k v).get? k' = if k' = k then some v else d.get? k' := by
  split_ifs with h
  · subst h
    exact d.get?_set_self k' v
  · exact d.get?_set_of_ne h v

theorem get?_pop (d : Dict α β) (k k' : α) :
    (d.pop k).get? k' = if k' = k then none else d.get? k' := by
  split_ifs with h
  · subst h
    exact d.get?_pop_self k'
  · exact d.get?_pop_of_ne h

/-- What is left after a removal was there before. -/
theorem get?_of_pop {d : Dict α β} {k k' : α} {v : β} (h : (d.pop k).get? k' = some v) :
    d.get? k' = some v := by
  rw [get?_pop] at h
  split_ifs at h
  exact h

@[simp]
theorem get?_mapValues (d : Dict α β) (f : β → β) (k : α) :
    (d.mapValues f).get? k = (d.get? k).map f :=
  lookupEntries_map f k d.entries

/-- What holds of every entry holds after an entry is set of which it holds. -/
theorem forall_get?_set {P : α → β → Prop} {d : Dict α β} {k : α} {v : β}
    (h : ∀ k v, d.get? k = some v → P k v) (hv : P k v) :
    ∀ k' v', (d.set k v).get? k' = some v' → P k' v' := by
  intro k' v' hget
  rw [get?_set] at hget
  split_ifs at hget with hk
  · cases hget
    rw [hk]
    exact hv
  · exact h k' v' hget

/-- The entries are the key/value pairs that lookup finds. -/
theorem mem_entries_iff (d : Dict α β) {k : α} {v : β} :
    (k, v) ∈ d.entries ↔ d.get? k = some v :=
  ⟨lookupEntries_of_mem d.nodup, mem_of_lookupEntries⟩

/-- A dictionary that is not empty finds a value. -/
theorem exists_get?_of_ne_empty {d : Dict α β} (h : d ≠ ∅) : ∃ k v, d.get? k = some v := by
  have hentries : d.entries ≠ [] := fun hnil => h (Dict.ext hnil)
  obtain ⟨⟨k, v⟩, hmem⟩ := List.exists_mem_of_ne_nil d.entries hentries
  exact ⟨k, v, d.mem_entries_iff.1 hmem⟩

theorem mem_keys_iff (d : Dict α β) {k : α} : k ∈ d.keys ↔ d.contains k = true := by
  simp only [keys, contains, List.mem_map, Option.isSome_iff_exists]
  constructor
  · rintro ⟨⟨k', v⟩, hmem, rfl⟩
    exact ⟨v, d.mem_entries_iff.mp hmem⟩
  · rintro ⟨v, hv⟩
    exact ⟨(k, v), d.mem_entries_iff.mpr hv, rfl⟩

theorem mem_values_iff (d : Dict α β) {v : β} : v ∈ d.values ↔ ∃ k, d.get? k = some v := by
  simp only [values, List.mem_map]
  constructor
  · rintro ⟨⟨k, v'⟩, hmem, rfl⟩
    exact ⟨k, d.mem_entries_iff.mp hmem⟩
  · rintro ⟨k, hk⟩
    exact ⟨(k, v), d.mem_entries_iff.mpr hk, rfl⟩

/-- Keys after an assignment. -/
theorem mem_keys_set (d : Dict α β) {k k' : α} {v : β} :
    k' ∈ (d.set k v).keys ↔ k' = k ∨ k' ∈ d.keys :=
  mem_keys_setEntries

/-- Keys after a removal. -/
theorem mem_keys_pop {d : Dict α β} {k k' : α} : k' ∈ (d.pop k).keys ↔ k' ∈ d.keys ∧ k' ≠ k := by
  simp only [mem_keys_iff, contains, get?_pop]
  split_ifs with h <;> simp [h]

theorem mem_keys_foldl_pop {d : Dict α β} {ks : List α} {k : α} :
    k ∈ (ks.foldl (fun d k => d.pop k) d).keys ↔ k ∈ d.keys ∧ k ∉ ks := by
  induction ks generalizing d with
  | nil => simp
  | cons k' ks ih =>
      rw [List.foldl_cons, ih, mem_keys_pop]
      simp [and_assoc]

theorem eq_empty_of_keys {d : Dict α β} (h : ∀ k, k ∉ d.keys) : d = ∅ := by
  by_contra hne
  obtain ⟨k, v, hget⟩ := exists_get?_of_ne_empty hne
  exact h k (d.mem_keys_iff.mpr (by simp [contains, hget]))

/-- A dictionary all of whose entries have one key has one entry at most. -/
theorem size_le_one {d : Dict α β}
    (h : ∀ k v k' v', d.get? k = some v → d.get? k' = some v' → k = k') : d.size ≤ 1 := by
  unfold size
  rcases hentries : d.entries with _ | ⟨e, _ | ⟨e', es⟩⟩
  · exact Nat.zero_le 1
  · exact Nat.le_refl 1
  · have he : d.get? e.1 = some e.2 := d.mem_entries_iff.1 (by simp [hentries])
    have he' : d.get? e'.1 = some e'.2 := d.mem_entries_iff.1 (by simp [hentries])
    have hnodup := d.nodup
    simp [hentries, h _ _ _ _ he he'] at hnodup

omit [DecidableEq α] in
/-- Dictionaries with the same keys have the same size. -/
theorem size_eq_of_keys {γ : Type*} {d : Dict α β} {e : Dict α γ}
    (h : ∀ k, k ∈ d.keys ↔ k ∈ e.keys) : d.size = e.size := by
  have hperm : d.keys.Perm e.keys := (List.perm_ext_iff_of_nodup d.nodup e.nodup).mpr h
  simpa [keys, size] using hperm.length_eq

/-- Going through the entries with one key in mind meets that key's value, if any. -/
theorem flatMap_entries_of_key {γ : Type*} (d : Dict α β) (k : α) (f : β → List γ) :
    (d.entries.flatMap fun e => if e.1 = k then f e.2 else []) = (d.get? k).elim [] f := by
  rcases d with ⟨es, hnodup⟩
  show (es.flatMap fun e => if e.1 = k then f e.2 else []) = (lookupEntries k es).elim [] f
  induction es with
  | nil => rfl
  | cons e es ih =>
      rw [List.map_cons, List.nodup_cons] at hnodup
      have hrest := ih hnodup.2
      rw [List.flatMap_cons, lookupEntries]
      split_ifs with he
      · have habsent : (es.flatMap fun e => if e.1 = k then f e.2 else []) = [] := by
          rw [List.flatMap_eq_nil_iff]
          intro e' he'
          have hne : e'.1 ≠ k := by
            rintro rfl
            exact hnodup.1 (he ▸ List.mem_map_of_mem he')
          rw [if_neg hne]
        rw [habsent, List.append_nil]
        rfl
      · exact hrest

/-! ## Bulk operations -/

/-- Assigning a listed key is invisible once the listed keys are dropped. -/
theorem without_set_of_mem (d : Dict α β) {k : α} {ks : List α} (hk : k ∈ ks) (v : β) :
    (d.set k v).without ks = d.without ks := by
  apply Dict.ext
  show (setEntries k v d.entries).filter _ = d.entries.filter _
  induction d.entries with
  | nil => simp [setEntries, hk]
  | cons e es ih =>
      by_cases he : e.1 = k
      · subst he
        simp [setEntries, hk]
      · simp only [setEntries, if_neg he, List.filter_cons, ih]

/-- Dropping keys that are not there changes nothing. -/
theorem without_eq_self (d : Dict α β) {ks : List α} (h : ∀ k ∈ ks, k ∉ d.keys) :
    d.without ks = d := by
  apply Dict.ext
  show d.entries.filter _ = d.entries
  rw [List.filter_eq_self]
  intro e he
  have hkey : e.1 ∈ d.keys := List.mem_map.mpr ⟨e, he, rfl⟩
  simpa using fun hmem => h e.1 hmem hkey

theorem mem_keys_without (d : Dict α β) {k : α} {ks : List α} :
    k ∈ (d.without ks).keys ↔ k ∈ d.keys ∧ k ∉ ks := by
  simp only [keys, without, List.mem_map, List.mem_filter, decide_not, Bool.not_eq_true',
    decide_eq_false_iff_not]
  constructor
  · rintro ⟨e, ⟨hmem, hk⟩, rfl⟩
    exact ⟨⟨e, hmem, rfl⟩, hk⟩
  · rintro ⟨⟨e, hmem, rfl⟩, hk⟩
    exact ⟨e, ⟨hmem, hk⟩, rfl⟩

theorem get?_filterKeys (d : Dict α β) (p : α → Bool) (k : α) :
    (d.filterKeys p).get? k = if p k then d.get? k else none := by
  show lookupEntries k (d.entries.filter fun e => p e.1) = _
  show _ = if p k then lookupEntries k d.entries else none
  induction d.entries with
  | nil => simp [lookupEntries]
  | cons e es ih =>
      by_cases hkept : p e.1 = true
      · rw [List.filter_cons_of_pos (by simpa using hkept), lookupEntries, lookupEntries, ih]
        split_ifs with he hk
        · rfl
        · exact absurd (he ▸ hkept) hk
        · rfl
        · rfl
      · rw [List.filter_cons_of_neg (by simpa using hkept), ih, lookupEntries]
        split_ifs with hk he
        · exact absurd (he ▸ hk) hkept
        · rfl
        · rfl

theorem get?_without (d : Dict α β) (k : α) (ks : List α) :
    (d.without ks).get? k = if k ∈ ks then none else d.get? k := by
  have hfilter : d.without ks = d.filterKeys fun k => k ∉ ks := rfl
  rw [hfilter, get?_filterKeys]
  simp

/-- An update leaves the keys it does not mention alone. -/
theorem get?_update_of_not_mem (d : Dict α β) {kvs : List (α × β)} {k : α}
    (h : k ∉ kvs.map Prod.fst) : (d.update kvs).get? k = d.get? k := by
  induction kvs generalizing d with
  | nil => rfl
  | cons e kvs ih =>
      simp only [List.map_cons, List.mem_cons, not_or] at h
      have hrest := ih (d.set e.1 e.2) h.2
      rw [d.get?_set_of_ne h.1] at hrest
      exact hrest

/-- The value of a mentioned key does not depend on the updated dictionary. -/
theorem get?_update_of_mem (d d' : Dict α β) {kvs : List (α × β)} {k : α}
    (h : k ∈ kvs.map Prod.fst) : (d.update kvs).get? k = (d'.update kvs).get? k := by
  induction kvs generalizing d d' with
  | nil => simp at h
  | cons e kvs ih =>
      by_cases hrest : k ∈ kvs.map Prod.fst
      · exact ih (d.set e.1 e.2) (d'.set e.1 e.2) hrest
      · have hk : k = e.1 := by
          simpa [hrest] using h
        subst hk
        have hleft := (d.set e.1 e.2).get?_update_of_not_mem hrest
        have hright := (d'.set e.1 e.2).get?_update_of_not_mem hrest
        rw [get?_set_self] at hleft hright
        exact hleft.trans hright.symm

/-- The last value listed for a key counts. -/
theorem get?_update (d : Dict α β) (kvs : List (α × β)) (k : α) :
    (d.update kvs).get? k =
      ((kvs.filter fun e => e.1 = k).getLast?.map Prod.snd).or (d.get? k) := by
  induction kvs generalizing d with
  | nil => rfl
  | cons e kvs ih =>
      have hset : (d.update (e :: kvs)).get? k = ((d.set e.1 e.2).update kvs).get? k := rfl
      rw [hset, ih]
      by_cases he : e.1 = k
      · subst he
        rw [List.filter_cons_of_pos (by simp), List.getLast?_cons, get?_set_self]
        cases (kvs.filter fun e' => e'.1 = e.1).getLast? <;> rfl
      · rw [List.filter_cons_of_neg (by simpa using he), get?_set_of_ne _ (Ne.symm he)]

/-- A value that all entries merged in have in common. -/
theorem get?_update_of_forall (d : Dict α β) {kvs : List (α × β)} {k : α} {v : β}
    (hk : k ∈ kvs.map Prod.fst) (hv : ∀ e ∈ kvs, e.2 = v) : (d.update kvs).get? k = some v := by
  rw [get?_update]
  obtain ⟨e, hmem, rfl⟩ := List.mem_map.1 hk
  cases hlast : (kvs.filter fun e' => e'.1 = e.1).getLast? with
  | none =>
      rw [List.getLast?_eq_none_iff, List.filter_eq_nil_iff] at hlast
      exact absurd (decide_eq_true rfl) (hlast e hmem)
  | some last =>
      have hfound := List.mem_of_getLast? hlast
      simp [hv last (List.mem_of_mem_filter hfound)]

/-- A merged dictionary prefers the entries merged in. -/
theorem get?_update_entries (d d' : Dict α β) (k : α) :
    (d.update d'.entries).get? k = (d'.get? k).or (d.get? k) := by
  have hlists : ∀ (es : List (α × β)) (d : Dict α β), (es.map Prod.fst).Nodup →
      (d.update es).get? k = (lookupEntries k es).or (d.get? k) := by
    intro es
    induction es with
    | nil =>
        intro d _
        rfl
    | cons e es ih =>
        intro d hnodup
        rw [List.map_cons, List.nodup_cons] at hnodup
        show ((d.set e.1 e.2).update es).get? k = _
        rw [ih _ hnodup.2, lookupEntries]
        by_cases hk : e.1 = k
        · subst hk
          have hnone : lookupEntries e.1 es = none := by
            cases hlook : lookupEntries e.1 es with
            | none => rfl
            | some v =>
                exact absurd (List.mem_map_of_mem (mem_of_lookupEntries hlook)) hnodup.1
          rw [hnone, if_pos rfl, get?_set_self]
          rfl
        · rw [if_neg hk, get?_set_of_ne _ (Ne.symm hk)]
  exact hlists d'.entries d d'.nodup

/-- Updating listed keys is invisible once the listed keys are dropped. -/
theorem without_update_of_mem (d : Dict α β) {kvs : List (α × β)} {ks : List α}
    (hks : ∀ e ∈ kvs, e.1 ∈ ks) : (d.update kvs).without ks = d.without ks := by
  induction kvs generalizing d with
  | nil => rfl
  | cons e kvs ih =>
      rw [List.forall_mem_cons] at hks
      exact (ih (d.set e.1 e.2) hks.2).trans (d.without_set_of_mem hks.1 e.2)

/-- Keys of an updated dictionary. -/
theorem mem_keys_update (d : Dict α β) {kvs : List (α × β)} {k : α} :
    k ∈ (d.update kvs).keys ↔ k ∈ d.keys ∨ k ∈ kvs.map Prod.fst := by
  induction kvs generalizing d with
  | nil => simp [update]
  | cons e kvs ih =>
      have hstep := ih (d.set e.1 e.2)
      rw [mem_keys_set] at hstep
      simp only [List.map_cons, List.mem_cons]
      rw [show d.update (e :: kvs) = (d.set e.1 e.2).update kvs from rfl, hstep]
      tauto

end Dict

end Foundations
