import Mathlib.Data.Finset.Card
import Mathlib.Data.Finset.Dedup
import Mathlib.Data.List.Infix
import MarketConnector.Foundations.Dict

/-!
# Foundations - Bounded memories

A memory keeps the keys that were recorded last.  Recording a key makes it the newest, and the
oldest ones beyond the bound are evicted.  A filter takes the inputs whose key is not
remembered, or whose value supersedes the remembered one.

Main results:

- Theorem `Dict.recall_iff`: a key is remembered until as many others are recorded as the
  memory holds.
- Theorem `DuplicateFilter.run_eq_recall`: a filter remembers what it took.
- Theorem `DuplicateFilter.supersedes_of_remembered`: values that are taken while their key is
  remembered supersede each other.
- Theorem `DuplicateFilter.cap_le_card`: a value is only taken again after that many others.
-/

namespace Foundations

universe u v w

variable {α : Type u} {β : Type v} {ι : Type w} [DecidableEq α]

namespace Dict

/-! ## Ordered operations -/

/-- `d.move_to_end(k)`. -/
def moveToEnd (d : Dict α β) (k : α) : Dict α β :=
  match d.get? k with
  | none => d
  | some v =>
      { entries := popEntries k d.entries ++ [(k, v)]
        nodup := by
          rw [List.map_append, List.nodup_append]
          refine ⟨nodup_popEntries d.nodup, by simp, ?_⟩
          simp only [popEntries, List.map_cons, List.map_nil, List.mem_singleton, List.mem_map,
            List.mem_filter, decide_eq_true_eq]
          rintro _ ⟨e, ⟨-, hne⟩, rfl⟩ _ rfl
          exact hne }

/-- `d.popitem(last=False)` while there are too many entries. -/
def evictEntries (cap : Nat) : List (α × β) → List (α × β)
  | [] => []
  | e :: es => if cap < (e :: es).length then evictEntries cap es else e :: es

omit [DecidableEq α] in
theorem evictEntries_eq_drop (cap : Nat) (es : List (α × β)) :
    evictEntries cap es = es.drop (es.length - cap) := by
  induction es with
  | nil => simp [evictEntries]
  | cons e es ih =>
      unfold evictEntries
      split_ifs with hmany
      · have hlength : (e :: es).length - cap = (es.length - cap) + 1 := by
          rw [List.length_cons] at hmany ⊢
          omega
        rw [ih, hlength, List.drop_succ_cons]
      · have hlength : (e :: es).length - cap = 0 := by omega
        rw [hlength, List.drop_zero]

/-- Evict the oldest entries beyond the bound. -/
def evict (cap : Nat) (d : Dict α β) : Dict α β where
  entries := evictEntries cap d.entries
  nodup := by
    rw [evictEntries_eq_drop]
    exact d.nodup.sublist ((List.drop_sublist _ _).map Prod.fst)

/-- Record a key as the newest entry, evicting the oldest ones beyond the bound. -/
def remember (cap : Nat) (d : Dict α β) (k : α) (v : β) : Dict α β :=
  ((d.set k v).moveToEnd k).evict cap

/-- What is remembered of a log, the newest entry of which comes last. -/
def recalled (cap : Nat) (log : List (α × β)) : Dict α β :=
  log.foldl (fun d e => d.remember cap e.1 e.2) ∅

@[simp]
theorem recall_nil (cap : Nat) : recalled cap ([] : List (α × β)) = ∅ :=
  rfl

theorem recall_append_singleton (cap : Nat) (log : List (α × β)) (e : α × β) :
    recalled cap (log ++ [e]) = (recalled cap log).remember cap e.1 e.2 := by
  unfold recalled
  rw [List.foldl_append]
  rfl

theorem popEntries_setEntries (k : α) (v : β) (es : List (α × β)) :
    popEntries k (setEntries k v es) = popEntries k es := by
  induction es with
  | nil => simp [setEntries, popEntries]
  | cons e es ih =>
      by_cases he : e.1 = k
      · simp [setEntries, popEntries, he]
      · simpa [setEntries, popEntries, he] using ih

theorem remember_entries (cap : Nat) (d : Dict α β) (k : α) (v : β) :
    (d.remember cap k v).entries = evictEntries cap (popEntries k d.entries ++ [(k, v)]) := by
  unfold remember moveToEnd
  rw [get?_set_self]
  exact congrArg (fun es => evictEntries cap (es ++ [(k, v)])) (popEntries_setEntries k v d.entries)

/-! ## The latest entry of every key -/

/-- The latest entry of every key in a log whose newest entry comes first. -/
def latest : List (α × β) → List (α × β)
  | [] => []
  | e :: log => e :: popEntries e.1 (latest log)

theorem mem_keys_latest {log : List (α × β)} {k : α} :
    k ∈ (latest log).map Prod.fst ↔ k ∈ log.map Prod.fst := by
  induction log with
  | nil => rfl
  | cons e log ih =>
      by_cases hk : k = e.1
      · simp [latest, hk]
      · have hpop : k ∈ (popEntries e.1 (latest log)).map Prod.fst ↔
            k ∈ (latest log).map Prod.fst := by
          simp only [popEntries, List.mem_map, List.mem_filter, decide_eq_true_eq]
          constructor
          · rintro ⟨x, ⟨hx, -⟩, rfl⟩
            exact ⟨x, hx, rfl⟩
          · rintro ⟨x, hx, rfl⟩
            exact ⟨x, ⟨hx, hk⟩, rfl⟩
        simp only [latest, List.map_cons, List.mem_cons, hk, false_or, hpop, ih]

theorem nodup_latest (log : List (α × β)) : ((latest log).map Prod.fst).Nodup := by
  induction log with
  | nil => exact List.nodup_nil
  | cons e log ih =>
      refine List.nodup_cons.2 ⟨?_, nodup_popEntries ih⟩
      simp [popEntries]

/-- Of an older log, the keys of a newer one are left out. -/
theorem latest_append (newer older : List (α × β)) :
    latest (newer ++ older) =
      latest newer ++ (latest older).filter fun e => e.1 ∉ newer.map Prod.fst := by
  induction newer with
  | nil => simp [latest]
  | cons e newer ih =>
      simp only [List.cons_append, latest, ih, popEntries, List.filter_append, List.filter_filter]
      congr 2
      apply List.filter_congr
      intro x _
      by_cases hx : x.1 = e.1
      · simp [hx]
      · simp [hx]

theorem length_latest (log : List (α × β)) :
    (latest log).length = (log.map Prod.fst).toFinset.card := by
  have hkeys : (log.map Prod.fst).toFinset = ((latest log).map Prod.fst).toFinset := by
    ext k
    rw [List.mem_toFinset, List.mem_toFinset, mem_keys_latest]
  rw [hkeys, List.toFinset_card_of_nodup (nodup_latest log), List.length_map]

/-- Among distinct keys, leaving one out before or after a cut makes no difference behind a
new first entry. -/
theorem take_popEntries_take {cap : Nat} {k : α} {es : List (α × β)}
    (hes : (es.map Prod.fst).Nodup) :
    (popEntries k (es.take (cap + 1))).take cap = (popEntries k es).take cap := by
  induction es generalizing cap with
  | nil => rfl
  | cons e es ih =>
      by_cases he : e.1 = k
      · have hrest : popEntries k es = es := by
          refine List.filter_eq_self.2 fun x hx => ?_
          have hne : x.1 ≠ e.1 := fun heq =>
            (List.nodup_cons.1 hes).1 (heq ▸ List.mem_map_of_mem hx)
          simpa [he] using hne
        have hcut : popEntries k (es.take cap) = es.take cap :=
          List.filter_eq_self.2 fun x hx =>
            List.filter_eq_self.1 hrest x (List.mem_of_mem_take hx)
        have hpop : ∀ xs, popEntries k (e :: xs) = popEntries k xs := fun xs => by
          simp [popEntries, he]
        rw [List.take_succ_cons, hpop, hpop, hcut, hrest, List.take_take, Nat.min_self]
      · have hpop : ∀ xs, popEntries k (e :: xs) = e :: popEntries k xs := fun xs => by
          simp [popEntries, he]
        rw [List.take_succ_cons, hpop, hpop]
        cases cap with
        | zero => rfl
        | succ cap => rw [List.take_succ_cons, List.take_succ_cons, ih (List.nodup_cons.1 hes).2]

omit [DecidableEq α] in
theorem evictEntries_reverse (cap : Nat) (es : List (α × β)) :
    evictEntries cap es.reverse = (es.take cap).reverse := by
  rw [evictEntries_eq_drop, List.drop_reverse, List.length_reverse]
  by_cases hmany : cap ≤ es.length
  · have hcount : es.length - (es.length - cap) = cap := by omega
    rw [hcount]
  · have hnone : es.length - cap = 0 := by omega
    rw [hnone, Nat.sub_zero, List.take_length, List.take_of_length_le (by omega)]

/-- The memory holds the latest entries of the log. -/
theorem recall_entries (cap : Nat) (log : List (α × β)) :
    (recalled cap log).entries = ((latest log.reverse).take cap).reverse := by
  induction log using List.reverseRecOn with
  | nil => simp [latest, recalled, EmptyCollection.emptyCollection, empty]
  | append_singleton log e ih =>
      rw [recall_append_singleton, remember_entries, ih, List.reverse_append]
      have hpop : popEntries e.1 ((latest log.reverse).take cap).reverse ++ [(e.1, e.2)] =
          (e :: popEntries e.1 ((latest log.reverse).take cap)).reverse := by
        simp [popEntries]
      rw [hpop, evictEntries_reverse]
      cases cap with
      | zero => rfl
      | succ cap =>
          rw [List.take_succ_cons, take_popEntries_take (nodup_latest _)]
          rfl

/-! ## When a key is remembered -/

/-- The latest occurrence of a key. -/
theorem exists_latest {log : List (α × β)} {k : α} (h : k ∈ log.map Prod.fst) :
    ∃ older v newer, log = older ++ (k, v) :: newer ∧ k ∉ newer.map Prod.fst := by
  induction log with
  | nil => cases h
  | cons e log ih =>
      by_cases hlater : k ∈ log.map Prod.fst
      · obtain ⟨older, v, newer, rfl, hnewer⟩ := ih hlater
        exact ⟨e :: older, v, newer, rfl, hnewer⟩
      · have hk : k = e.1 := by
          rcases List.mem_cons.1 h with hk | hk
          · exact hk
          · exact absurd hk hlater
        exact ⟨[], e.2, log, by rw [hk]; rfl, hlater⟩

theorem latest_split {older newer : List (α × β)} {k : α} {v : β}
    (hnewer : k ∉ newer.map Prod.fst) :
    ∃ rest, latest (older ++ (k, v) :: newer).reverse = latest newer.reverse ++ (k, v) :: rest := by
  have hkeep : k ∉ newer.reverse.map Prod.fst := by simpa using hnewer
  rw [List.reverse_append, List.reverse_cons, List.append_assoc, latest_append,
    List.singleton_append, latest, List.filter_cons_of_pos (by simpa using hkeep)]
  exact ⟨_, rfl⟩

/-- A key is remembered with its latest value, until as many others are recorded as the memory
holds. -/
theorem recall_iff {cap : Nat} {log : List (α × β)} {k : α} {v : β} :
    (recalled cap log).get? k = some v ↔
      ∃ older newer, log = older ++ (k, v) :: newer ∧ k ∉ newer.map Prod.fst ∧
        (newer.map Prod.fst).toFinset.card < cap := by
  rw [← mem_entries_iff, recall_entries, List.mem_reverse]
  constructor
  · intro hmem
    have hkey : k ∈ log.map Prod.fst := by
      have hlatest := mem_keys_latest.1 (List.mem_map_of_mem (List.mem_of_mem_take hmem))
      simpa using hlatest
    obtain ⟨older, w, newer, rfl, hnewer⟩ := exists_latest hkey
    obtain ⟨rest, hsplit⟩ := @latest_split _ _ _ older newer k w hnewer
    have hcount : (latest newer.reverse).length = (newer.map Prod.fst).toFinset.card := by
      rw [length_latest, List.map_reverse, List.toFinset_reverse]
    rw [hsplit] at hmem
    by_cases hfew : (latest newer.reverse).length < cap
    · have hsame : v = w := by
        have hnodup := nodup_latest (older ++ (k, w) :: newer).reverse
        rw [hsplit] at hnodup
        have hw : (k, w) ∈ latest newer.reverse ++ (k, w) :: rest := by simp
        exact congrArg Prod.snd
          (List.inj_on_of_nodup_map hnodup (List.mem_of_mem_take hmem) hw rfl)
      exact ⟨older, newer, by rw [hsame], hnewer, hcount ▸ hfew⟩
    · rw [List.take_append_of_le_length (by omega)] at hmem
      have hkeys := mem_keys_latest.1 (List.mem_map_of_mem (List.mem_of_mem_take hmem))
      rw [List.map_reverse, List.mem_reverse] at hkeys
      exact absurd hkeys hnewer
  · rintro ⟨older, newer, rfl, hnewer, hcard⟩
    obtain ⟨rest, hsplit⟩ := @latest_split _ _ _ older newer k v hnewer
    have hlength : (latest newer.reverse).length < cap := by
      rw [length_latest]
      simpa using hcard
    rw [hsplit, List.mem_take_iff_getElem]
    refine ⟨(latest newer.reverse).length, by simp [hlength], ?_⟩
    simp

/-- What is remembered after a key is recorded was recorded now or remembered before. -/
theorem get?_of_remember {cap : Nat} {d : Dict α β} {k k' : α} {v w : β}
    (h : (d.remember cap k v).get? k' = some w) :
    if k' = k then w = v else d.get? k' = some w := by
  rw [← mem_entries_iff, remember_entries, evictEntries_eq_drop] at h
  rcases List.mem_append.1 (List.mem_of_mem_drop h) with hold | hnew
  · simp only [popEntries, List.mem_filter, decide_eq_true_eq] at hold
    rw [if_neg hold.2, ← mem_entries_iff]
    exact hold.1
  · rw [List.mem_singleton, Prod.mk.injEq] at hnew
    rw [if_pos hnew.1]
    exact hnew.2

/-- A recorded key is remembered while few others are recorded. -/
theorem contains_recall {cap : Nat} {older newer : List (α × β)} {k : α} {v : β}
    (hfew : ((newer.map Prod.fst).toFinset.erase k).card < cap) :
    (recalled cap (older ++ (k, v) :: newer)).contains k := by
  have hmem : k ∈ ((k, v) :: newer).map Prod.fst := by simp
  obtain ⟨before, w, after, hsplit, hlast⟩ := exists_latest hmem
  have hsub : (after.map Prod.fst).toFinset ⊆ (newer.map Prod.fst).toFinset.erase k := by
    intro k' hk'
    rw [List.mem_toFinset] at hk'
    have hne : k' ≠ k := fun heq => hlast (heq ▸ hk')
    refine Finset.mem_erase.2 ⟨hne, List.mem_toFinset.2 ?_⟩
    have hall : k' ∈ ((k, v) :: newer).map Prod.fst := by
      rw [hsplit, List.map_append, List.map_cons]
      exact List.mem_append_right _ (List.mem_cons_of_mem _ hk')
    exact (List.mem_cons.1 hall).resolve_left hne
  have hget : (recalled cap (older ++ (k, v) :: newer)).get? k = some w := by
    refine recall_iff.2 ⟨older ++ before, after, ?_, hlast, ?_⟩
    · rw [hsplit, List.append_assoc]
    · exact lt_of_le_of_lt (Finset.card_le_card hsub) hfew
  simp [contains, hget]

end Dict

/-! ## Filters -/

/-- Which inputs are taken: those whose entry has a key that is not remembered, or a value that
supersedes the remembered one. -/
structure DuplicateFilter (ι : Type w) (α : Type u) (β : Type v) where
  cap : Nat
  entry : ι → Option (α × β)
  supersedes : β → β → Bool

namespace DuplicateFilter

variable (F : DuplicateFilter ι α β)

def admits (d : Dict α β) (e : α × β) : Bool :=
  (d.get? e.1).all fun last => F.supersedes e.2 last

/-- The entry an input records. -/
def taken (d : Dict α β) (x : ι) : Option (α × β) :=
  (F.entry x).filter (F.admits d)

def step (d : Dict α β) (x : ι) : Dict α β :=
  match F.taken d x with
  | none => d
  | some e => d.remember F.cap e.1 e.2

def run (d : Dict α β) (xs : List ι) : Dict α β :=
  xs.foldl F.step d

/-- The entries some inputs record. -/
def log (d : Dict α β) : List ι → List (α × β)
  | [] => []
  | x :: xs => (F.taken d x).toList ++ log (F.step d x) xs

@[simp]
theorem run_nil (d : Dict α β) : F.run d [] = d :=
  rfl

@[simp]
theorem run_cons (d : Dict α β) (x : ι) (xs : List ι) :
    F.run d (x :: xs) = F.run (F.step d x) xs :=
  rfl

theorem run_append (d : Dict α β) (xs ys : List ι) :
    F.run d (xs ++ ys) = F.run (F.run d xs) ys :=
  List.foldl_append

theorem log_append (d : Dict α β) (xs ys : List ι) :
    F.log d (xs ++ ys) = F.log d xs ++ F.log (F.run d xs) ys := by
  induction xs generalizing d with
  | nil => rfl
  | cons x xs ih => simp only [List.cons_append, log, ih, run_cons, List.append_assoc]

theorem run_eq_foldl (d : Dict α β) (xs : List ι) :
    F.run d xs = (F.log d xs).foldl (fun d e => d.remember F.cap e.1 e.2) d := by
  induction xs generalizing d with
  | nil => rfl
  | cons x xs ih =>
      rw [run_cons, ih, log, List.foldl_append]
      unfold step
      cases F.taken d x with
      | none => rfl
      | some e => rfl

/-- A filter remembers what it took. -/
theorem run_eq_recall (xs : List ι) : F.run ∅ xs = Dict.recalled F.cap (F.log ∅ xs) :=
  F.run_eq_foldl ∅ xs

theorem exists_of_mem_log {d : Dict α β} {xs : List ι} {e : α × β} (h : e ∈ F.log d xs) :
    ∃ x ∈ xs, F.entry x = some e := by
  induction xs generalizing d with
  | nil => cases h
  | cons x xs ih =>
      rcases List.mem_append.1 h with hnow | hlater
      · have htaken := Option.mem_toList.1 hnow
        exact ⟨x, List.mem_cons_self, Option.eq_some_of_filter_eq_some htaken⟩
      · obtain ⟨y, hy, hentry⟩ := ih hlater
        exact ⟨y, List.mem_cons_of_mem _ hy, hentry⟩

/-- A key is only remembered if it was an input's. -/
theorem exists_of_contains {xs : List ι} {k : α} (h : (F.run ∅ xs).contains k) :
    ∃ x ∈ xs, ∃ v, F.entry x = some (k, v) := by
  obtain ⟨v, hget⟩ := Option.isSome_iff_exists.1 h
  rw [run_eq_recall] at hget
  obtain ⟨older, newer, hlog, -⟩ := Dict.recall_iff.1 hget
  have hmem : (k, v) ∈ F.log ∅ xs := by rw [hlog]; simp
  obtain ⟨x, hx, hentry⟩ := F.exists_of_mem_log hmem
  exact ⟨x, hx, v, hentry⟩

/-! ## Inputs with one key -/

/-- A step that keeps a key keeps its value, or takes one that supersedes it. -/
theorem value_of_step {d : Dict α β} {y : ι} {k : α} {v w : β} (hv : d.get? k = some v)
    (hw : (F.step d y).get? k = some w) : w = v ∨ F.supersedes w v := by
  unfold step at hw
  cases htaken : F.taken d y with
  | none =>
      rw [htaken] at hw
      exact Or.inl (Option.some.inj (hw.symm.trans hv))
  | some e =>
      rw [htaken] at hw
      have hafter := Dict.get?_of_remember hw
      split_ifs at hafter with hkey
      · have hadmits : F.admits d e := (Option.filter_eq_some_iff.1 htaken).2
        unfold admits at hadmits
        rw [← hkey, hv, Option.all_some, ← hafter] at hadmits
        exact Or.inr hadmits
      · exact Or.inl (Option.some.inj (hafter.symm.trans hv))

theorem value_of_run (htrans : ∀ a b c, F.supersedes c b → F.supersedes b a → F.supersedes c a)
    {d : Dict α β} {k : α} {v : β} {xs : List ι} (hv : d.get? k = some v)
    (hkept : ∀ pre, pre <+: xs → (F.run d pre).contains k) :
    ∃ w, (F.run d xs).get? k = some w ∧ (w = v ∨ F.supersedes w v) := by
  induction xs generalizing d v with
  | nil => exact ⟨v, hv, Or.inl rfl⟩
  | cons y xs ih =>
      have hnext := hkept [y] (List.prefix_append [y] xs)
      obtain ⟨u, hu⟩ := Option.isSome_iff_exists.1 hnext
      have hrest : ∀ pre, pre <+: xs → (F.run (F.step d y) pre).contains k := fun pre hpre =>
        hkept (y :: pre) ((List.prefix_cons_inj y).2 hpre)
      obtain ⟨w, hw, hwu⟩ := ih hu hrest
      refine ⟨w, hw, ?_⟩
      rcases F.value_of_step hv hu with huv | huv
      · exact huv ▸ hwu
      · rcases hwu with hwu | hwu
        · exact Or.inr (hwu ▸ huv)
        · exact Or.inr (htrans v u w hwu huv)

/-- Values that are taken while their key is remembered supersede each other. -/
theorem supersedes_of_remembered
    (htrans : ∀ a b c, F.supersedes c b → F.supersedes b a → F.supersedes c a)
    {d : Dict α β} {x x' : ι} {mid : List ι} {k : α} {v v' : β} (hx : F.taken d x = some (k, v))
    (hx' : F.taken (F.run (F.step d x) mid) x' = some (k, v'))
    (hkept : ∀ pre, pre <+: mid → (F.run (F.step d x) pre).contains k) : F.supersedes v' v := by
  have hstep : F.step d x = d.remember F.cap k v := by
    unfold step
    rw [hx]
  have hv : (F.step d x).get? k = some v := by
    obtain ⟨u, hu⟩ := Option.isSome_iff_exists.1 (hkept [] (List.nil_prefix))
    have hlatest := Dict.get?_of_remember (hstep ▸ hu)
    rw [if_pos rfl] at hlatest
    exact hlatest ▸ hu
  obtain ⟨w, hw, hwv⟩ := F.value_of_run htrans hv hkept
  have hadmits : F.admits _ (k, v') := (Option.filter_eq_some_iff.1 hx').2
  unfold admits at hadmits
  rw [hw, Option.all_some] at hadmits
  rcases hwv with hwv | hwv
  · exact hwv ▸ hadmits
  · exact htrans v w v' hadmits hwv

/-- A value that does not supersede an earlier one under its key is only taken after as many
others as the memory holds. -/
theorem cap_le_card
    (htrans : ∀ a b c, F.supersedes c b → F.supersedes b a → F.supersedes c a)
    {before mid : List ι} {x x' : ι} {k : α} {v v' : β}
    (hx : F.taken (F.run ∅ before) x = some (k, v))
    (hx' : F.taken (F.run (F.step (F.run ∅ before) x) mid) x' = some (k, v'))
    (hnot : ¬ F.supersedes v' v) :
    F.cap ≤ (((F.log (F.step (F.run ∅ before) x) mid).map Prod.fst).toFinset.erase k).card := by
  by_contra hfew
  refine hnot (F.supersedes_of_remembered htrans hx hx' fun pre hpre => ?_)
  obtain ⟨rest, rfl⟩ := hpre
  have hrun : F.run (F.step (F.run ∅ before) x) pre = Dict.recalled F.cap
      (F.log ∅ before ++ (k, v) :: F.log (F.step (F.run ∅ before) x) pre) := by
    rw [← run_cons, ← run_append, run_eq_recall, log_append, log, hx]
    rfl
  rw [hrun]
  refine Dict.contains_recall (lt_of_le_of_lt (Finset.card_le_card ?_) (not_le.1 hfew))
  refine Finset.erase_subset_erase k fun k' hk' => ?_
  rw [log_append, List.map_append, List.toFinset_append]
  exact Finset.mem_union_left _ hk'

end DuplicateFilter
end Foundations
