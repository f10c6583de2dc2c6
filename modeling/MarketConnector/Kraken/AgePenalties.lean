import Mathlib.Algebra.Order.Ring.Rat
import MarketConnector.Kraken.Orders

/-!
# Kraken - Order-age penalties

Kraken's matching counter charges an amend, an edit or a cancel more the younger the order is.
The units of a call come from tables by age; the ages come from the times at which the gateway
recorded the orders.

Main results:

- Theorem `cancelPenalty_antitone`, `amendPenalty_antitone`, `editPenalty_antitone`: older
  orders cost no more.
- Theorem `cancelUnits_pair`: the units of a cancel on one pair.
-/

namespace MarketConnector
namespace Kraken

open Foundations

/-! ## Tables -/

/-- Units by age: exclusive upper bounds of the age in seconds, with the total units. -/
abbrev AgeTable := List (Rat × Int)

/-- `_CANCEL`. -/
def cancelTable : AgeTable :=
  [(5, 8), (10, 6), (15, 5), (45, 4), (90, 2), (300, 1)]

/-- `_AMEND`. -/
def amendTable : AgeTable :=
  [(5, 4), (10, 3), (15, 2)]

/-- `_EDIT`. -/
def editTable : AgeTable :=
  [(5, 7), (10, 6), (15, 5), (45, 3), (90, 2)]

/-- `_lookup`. -/
def lookup (age : Rat) (older : Int) : AgeTable → Int
  | [] => older
  | (bound, units) :: table => if age < bound then units else lookup age older table

/-- `cancel_penalty`. -/
def cancelPenalty (age : Rat) : Int :=
  lookup age 0 cancelTable

/-- `amend_penalty`. -/
def amendPenalty (age : Rat) : Int :=
  lookup age 1 amendTable

/-- `edit_penalty`. -/
def editPenalty (age : Rat) : Int :=
  lookup age 1 editTable

/-- The units of a table only go down, to those of older orders. -/
def Decreasing (older : Int) (table : AgeTable) : Prop :=
  (table.map Prod.snd ++ [older]).Pairwise (· ≥ ·)

instance (older : Int) (table : AgeTable) : Decidable (Decreasing older table) :=
  inferInstanceAs (Decidable (List.Pairwise _ _))

theorem lookup_le {older units : Int} {table : AgeTable} (age : Rat) (holder : older ≤ units)
    (htable : ∀ row ∈ table, row.2 ≤ units) : lookup age older table ≤ units := by
  induction table with
  | nil => exact holder
  | cons row table ih =>
      rw [List.forall_mem_cons] at htable
      obtain ⟨bound, units'⟩ := row
      simp only [lookup]
      split_ifs
      · exact htable.1
      · exact ih htable.2

/-- Older orders cost no more. -/
theorem lookup_antitone {older : Int} {table : AgeTable} (h : Decreasing older table)
    {age age' : Rat} (hage : age ≤ age') : lookup age' older table ≤ lookup age older table := by
  induction table with
  | nil => exact le_rfl
  | cons row table ih =>
      obtain ⟨bound, units⟩ := row
      obtain ⟨hfirst, hrest⟩ := List.pairwise_cons.1 h
      simp only [lookup]
      by_cases hyoung : age' < bound
      · rw [if_pos hyoung, if_pos (hage.trans_lt hyoung)]
      · rw [if_neg hyoung]
        by_cases hyounger : age < bound
        · rw [if_pos hyounger]
          refine lookup_le age' (hfirst older (by simp)) fun row hrow => ?_
          exact hfirst row.2 (List.mem_append_left _ (List.mem_map_of_mem hrow))
        · rw [if_neg hyounger]
          exact ih hrest

theorem cancelPenalty_antitone {age age' : Rat} (hage : age ≤ age') :
    cancelPenalty age' ≤ cancelPenalty age :=
  lookup_antitone (by decide) hage

theorem amendPenalty_antitone {age age' : Rat} (hage : age ≤ age') :
    amendPenalty age' ≤ amendPenalty age :=
  lookup_antitone (by decide) hage

theorem editPenalty_antitone {age age' : Rat} (hage : age ≤ age') :
    editPenalty age' ≤ editPenalty age :=
  lookup_antitone (by decide) hage

/-- A cancel gives no units back. -/
theorem cancelPenalty_nonneg (age : Rat) : 0 ≤ cancelPenalty age := by
  simp only [cancelPenalty, cancelTable, lookup]
  split_ifs <;> decide

/-! ## Units of a cancel -/

/-- `units` of `cancel_orders_batch`: each order adds its penalty to its pair. -/
def cancelUnits (age : Nat → Rat) (orders : List (String × Nat)) : Dict String Int :=
  orders.foldl (fun units order =>
    units.set order.1 ((units.get? order.1).getD 0 + cancelPenalty (age order.2))) ∅

/-- Units charged to a pair. -/
def unitsOn (units : Dict String Int) (pair : String) : Int :=
  (units.get? pair).getD 0

/-- The units on a pair are the penalties of its orders. -/
theorem cancelUnits_pair (age : Nat → Rat) (orders : List (String × Nat)) (pair : String) :
    unitsOn (cancelUnits age orders) pair =
      ((orders.filter fun order => order.1 = pair).map fun order =>
        cancelPenalty (age order.2)).sum := by
  have hfold : ∀ units : Dict String Int,
      unitsOn (orders.foldl (fun units order =>
        units.set order.1 ((units.get? order.1).getD 0 + cancelPenalty (age order.2))) units) pair =
      unitsOn units pair + ((orders.filter fun order => order.1 = pair).map fun order =>
        cancelPenalty (age order.2)).sum := by
    induction orders with
    | nil => simp
    | cons order orders ih =>
        intro units
        rw [List.foldl_cons, ih]
        by_cases hpair : order.1 = pair
        · subst hpair
          simp [unitsOn, add_assoc]
        · have hne : pair ≠ order.1 := fun h => hpair h.symm
          simp [unitsOn, hpair, Dict.get?_set_of_ne _ hne]
  have hempty : unitsOn (∅ : Dict String Int) pair = 0 := rfl
  rw [cancelUnits, hfold, hempty, zero_add]

end Kraken
end MarketConnector
