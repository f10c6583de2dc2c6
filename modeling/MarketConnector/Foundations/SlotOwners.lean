import Mathlib.Data.Set.Insert
import MarketConnector.Foundations.Dict

/-!
# Foundations - Slots and the users that own them

A table has one place per slot, and several users may want the same slot.  Every user knows
its slot.  The table serves its users when each of them stands in its slot and nobody else
stands anywhere.

Main results:

- Theorem `owned_iff`: the slots taken are those of the users, and every user has its own.
- Theorem `Owned.insert_iff`: a new user may be put in exactly when its slot is free.
- Theorem `Owned.remove`: a user leaves with its slot.
- Theorem `Owned.pop_iff`: any other slot may be cleared exactly when it is nobody's.
- Theorem `Recorded.foldl_iff`: which records may be written when each slot holds a record
  about its user.
-/

namespace Foundations

section SlotOwners

variable {Slot User : Type*} [DecidableEq Slot] (slotOf : User → Slot)

/-- Whoever stands in a slot stands in its own. -/
def Placed (slots : Dict Slot User) : Prop :=
  ∀ slot u, slots.get? slot = some u → slotOf u = slot

/-- The table holds every user, in its slot, and nobody else. -/
def Owned (users : Set User) (slots : Dict Slot User) : Prop :=
  ∀ slot u, slots.get? slot = some u ↔ u ∈ users ∧ slotOf u = slot

variable {slotOf} {users : Set User} {slots : Dict Slot User} {u : User}

theorem placed_empty : Placed slotOf (∅ : Dict Slot User) := by
  intro slot u hget
  simp at hget

theorem Placed.set (h : Placed slotOf slots) (u : User) :
    Placed slotOf (slots.set (slotOf u) u) :=
  Dict.forall_get?_set h rfl

theorem Placed.pop (h : Placed slotOf slots) (slot : Slot) : Placed slotOf (slots.pop slot) :=
  fun slot' v hget => h slot' v (Dict.get?_of_pop hget)

theorem Owned.placed (h : Owned slotOf users slots) : Placed slotOf slots :=
  fun slot u hget => ((h slot u).mp hget).2

theorem Owned.get? (h : Owned slotOf users slots) (hu : u ∈ users) :
    slots.get? (slotOf u) = some u :=
  (h _ u).mpr ⟨hu, rfl⟩

/-- Users that share a slot are one. -/
theorem Owned.eq_of_slot (h : Owned slotOf users slots) {v : User} (hu : u ∈ users)
    (hv : v ∈ users) (hslot : slotOf v = slotOf u) : v = u := by
  have hget := h.get? hv
  rw [hslot, h.get? hu] at hget
  exact (Option.some.inj hget).symm

/-- The slots taken are those of the users, and every user has its own. -/
theorem owned_iff :
    Owned slotOf users slots ↔
      (∀ slot, slots.contains slot = true ↔ ∃ u ∈ users, slotOf u = slot) ∧
        ∀ u ∈ users, slots.get? (slotOf u) = some u := by
  constructor
  · intro h
    refine ⟨fun slot => ?_, fun u hu => h.get? hu⟩
    rw [Dict.contains, Option.isSome_iff_exists]
    exact exists_congr (h slot)
  · rintro ⟨hslots, hown⟩ slot u
    constructor
    · intro hget
      obtain ⟨v, hv, rfl⟩ := (hslots slot).mp (by simp [Dict.contains, hget])
      rw [hown v hv] at hget
      cases hget
      exact ⟨hv, rfl⟩
    · rintro ⟨hu, rfl⟩
      exact hown u hu

/-- An empty table serves nobody. -/
theorem owned_empty_iff : Owned slotOf users ∅ ↔ users = ∅ := by
  constructor
  · intro h
    ext u
    simpa using h (slotOf u) u
  · rintro rfl slot u
    simp

/-- A new user may be put in exactly when its slot is free. -/
theorem Owned.insert_iff (h : Owned slotOf users slots) (hu : u ∉ users) :
    Owned slotOf (insert u users) (slots.set (slotOf u) u) ↔ ∀ v ∈ users, slotOf v ≠ slotOf u := by
  constructor
  · intro hset v hv hslot
    have hv' : v ∈ insert u users := Set.mem_insert_of_mem u hv
    have heq := hset.eq_of_slot (Set.mem_insert u users) hv' hslot
    exact hu (heq ▸ hv)
  · intro hfree slot v
    rw [Dict.get?_set]
    split_ifs with hslot
    · subst hslot
      constructor
      · intro hget
        cases hget
        exact ⟨Set.mem_insert u users, rfl⟩
      · rintro ⟨hv, hsame⟩
        rcases Set.mem_insert_iff.mp hv with rfl | hv
        · rfl
        · exact absurd hsame (hfree v hv)
    · rw [h slot v, Set.mem_insert_iff]
      constructor
      · exact fun hv => ⟨Or.inr hv.1, hv.2⟩
      · rintro ⟨rfl | hv, hsame⟩
        · exact absurd hsame.symm hslot
        · exact ⟨hv, hsame⟩

/-- Nobody but a user may be put in. -/
theorem not_owned_set (hu : u ∉ users) : ¬ Owned slotOf users (slots.set (slotOf u) u) := by
  intro h
  exact hu ((h (slotOf u) u).mp (by simp)).1

/-- A user leaves with its slot. -/
theorem Owned.remove (h : Owned slotOf users slots) (hu : u ∈ users) :
    Owned slotOf (users \ {u}) (slots.pop (slotOf u)) := by
  intro slot v
  rw [Dict.get?_pop]
  split_ifs with hslot
  · subst hslot
    refine iff_of_false (by simp) ?_
    rintro ⟨hv, hsame⟩
    exact hv.2 (h.eq_of_slot hu hv.1 hsame)
  · rw [h slot v]
    constructor
    · rintro ⟨hv, hsame⟩
      refine ⟨⟨hv, ?_⟩, hsame⟩
      rintro rfl
      exact hslot hsame.symm
    · exact fun hv => ⟨hv.1.1, hv.2⟩

/-- A user that leaves its slot taken breaks the table. -/
theorem Owned.not_owned_sdiff (h : Owned slotOf users slots) (hu : u ∈ users) :
    ¬ Owned slotOf (users \ {u}) slots := by
  intro hdiff
  exact ((hdiff (slotOf u) u).mp (h.get? hu)).1.2 rfl

/-- A slot may be cleared exactly when it is nobody's. -/
theorem Owned.pop_iff (h : Owned slotOf users slots) (slot : Slot) :
    Owned slotOf users (slots.pop slot) ↔ ∀ u ∈ users, slotOf u ≠ slot := by
  constructor
  · rintro hpop u hu rfl
    have hget := hpop.get? hu
    simp at hget
  · intro hfree slot' v
    rw [Dict.get?_pop]
    split_ifs with hslot
    · refine iff_of_false (by simp) ?_
      rintro ⟨hv, hsame⟩
      exact hfree v hv (hsame.trans hslot)
    · exact h slot' v

end SlotOwners

/-! ## Records about users

A slot may hold a record about a user in place of the user. -/

section Records

variable {Slot User Record : Type*} [DecidableEq Slot] (slotOf : User → Slot)
  (userOf : Record → User)

/-- The slot of every user holds a record about this user. -/
def Recorded (users : List User) (slots : Dict Slot Record) : Prop :=
  ∀ u ∈ users, ∃ record, slots.get? (slotOf u) = some record ∧ userOf record = u

/-- A record written to the slot of its user. -/
def record (slots : Dict Slot Record) (r : Record) : Dict Slot Record :=
  slots.set (slotOf (userOf r)) r

variable {slotOf userOf} {users : List User} {slots : Dict Slot Record} {r : Record}

/-- Users that share a slot are one. -/
theorem Recorded.eq_of_slot (h : Recorded slotOf userOf users slots) {u v : User}
    (hu : u ∈ users) (hv : v ∈ users) (hslot : slotOf u = slotOf v) : u = v := by
  obtain ⟨r, hget, rfl⟩ := h u hu
  obtain ⟨r', hget', rfl⟩ := h v hv
  rw [hslot, hget'] at hget
  cases hget
  rfl

/-- Records are written one after the other; for every user the last one written to its
slot has to be its own. -/
theorem Recorded.foldl_iff (h : Recorded slotOf userOf users slots) (rs : List Record) :
    Recorded slotOf userOf users (rs.foldl (record slotOf userOf) slots) ↔
      ∀ u ∈ users, ∀ r ∈ (rs.filter fun r => slotOf (userOf r) = slotOf u).getLast?,
        userOf r = u := by
  have hupdate : ∀ (rs : List Record) (slots : Dict Slot Record),
      rs.foldl (record slotOf userOf) slots =
        slots.update (rs.map fun r => (slotOf (userOf r), r)) := by
    intro rs
    induction rs with
    | nil => exact fun _ => rfl
    | cons r rs ih => exact fun slots => ih (record slotOf userOf slots r)
  refine forall_congr' fun u => forall_congr' fun hu => ?_
  have hlast : ((rs.map fun r => (slotOf (userOf r), r)).filter fun e => e.1 = slotOf u) =
      (rs.filter fun r => slotOf (userOf r) = slotOf u).map fun r => (slotOf (userOf r), r) := by
    rw [List.filter_map]
    rfl
  rw [hupdate, Dict.get?_update, hlast, List.getLast?_map]
  cases (rs.filter fun r => slotOf (userOf r) = slotOf u).getLast? with
  | none => simpa using h u hu
  | some r => simp

/-- One record. -/
theorem Recorded.record_iff (h : Recorded slotOf userOf users slots) (r : Record) :
    Recorded slotOf userOf users (record slotOf userOf slots r) ↔
      ∀ u ∈ users, slotOf (userOf r) = slotOf u → userOf r = u := by
  refine (h.foldl_iff [r]).trans ?_
  refine forall_congr' fun u => forall_congr' fun _ => ?_
  by_cases hslot : slotOf (userOf r) = slotOf u <;> simp [hslot]

/-- A new user with a free slot. -/
theorem Recorded.cons (h : Recorded slotOf userOf users slots)
    (hfree : ∀ u ∈ users, slotOf u ≠ slotOf (userOf r)) :
    Recorded slotOf userOf (userOf r :: users) (record slotOf userOf slots r) := by
  intro u hu
  rcases List.mem_cons.mp hu with rfl | hold
  · exact ⟨r, by simp [record], rfl⟩
  · have hothers := (h.record_iff r).mpr fun v hv hslot => absurd hslot.symm (hfree v hv)
    exact hothers u hold

end Records

end Foundations
