import Mathlib.Data.List.Infix

/-!
# Foundations - Edits of numbered rows

Rows are inserted, overwritten and deleted by their position; a position outside the rows is
ignored.  A bounded copy drops what an insertion moves beyond its last row, and never gets it
back.

Main results:

- Theorem `RowEdit.apply_isPrefix`: an edit keeps a prefix a prefix.
- Theorem `boundedRows_isPrefix`: a bounded copy is a prefix of the rows.
- Theorem `boundedRows_eq`: it is all of them while they never exceed the bound.
-/

namespace Foundations

universe u v

variable {ρ : Type u} {ι : Type v}

/-! ## One edit -/

inductive RowEdit (ρ : Type u) where
  | insert (pos : Nat) (row : ρ)
  | overwrite (pos : Nat) (row : ρ)
  | delete (pos : Nat)

namespace RowEdit

/-- The rows after an edit. -/
def apply (rows : List ρ) : RowEdit ρ → List ρ
  | .insert pos row => rows.insertIdx pos row
  | .overwrite pos row => rows.set pos row
  | .delete pos => rows.eraseIdx pos

/-- The same on at most `cap` rows: what an insertion moves beyond them is dropped. -/
def applyBounded (cap : Nat) (rows : List ρ) : RowEdit ρ → List ρ
  | .insert pos row => (rows.insertIdx pos row).take cap
  | e => e.apply rows

/-- Rows are inserted in front of those behind them, or far behind. -/
theorem insertIdx_append_isPrefix (own rest : List ρ) (pos : Nat) (row : ρ) :
    own.insertIdx pos row <+: (own ++ rest).insertIdx pos row := by
  induction own generalizing pos with
  | nil =>
      cases pos with
      | zero => simp
      | succ pos => simp
  | cons x own ih =>
      cases pos with
      | zero => simp
      | succ pos =>
          rw [List.cons_append, List.insertIdx_succ_cons, List.insertIdx_succ_cons,
            List.prefix_cons_inj]
          exact ih pos

/-- An edit keeps a prefix a prefix. -/
theorem apply_isPrefix {own ref : List ρ} (h : own <+: ref) (e : RowEdit ρ) :
    e.apply own <+: e.apply ref := by
  obtain ⟨rest, rfl⟩ := h
  cases e with
  | insert pos row => exact insertIdx_append_isPrefix own rest pos row
  | overwrite pos row =>
      simp only [apply, List.set_append]
      split_ifs with hinside
      · exact List.prefix_append _ _
      · rw [List.set_eq_of_length_le (by omega)]
        exact List.prefix_append _ _
  | delete pos =>
      simp only [apply, List.eraseIdx_append]
      split_ifs with hinside
      · exact List.prefix_append _ _
      · rw [List.eraseIdx_of_length_le (by omega)]
        exact List.prefix_append _ _

theorem applyBounded_isPrefix (cap : Nat) (rows : List ρ) (e : RowEdit ρ) :
    e.applyBounded cap rows <+: e.apply rows := by
  cases e with
  | insert pos row => exact List.take_prefix cap _
  | overwrite pos row => exact List.prefix_refl _
  | delete pos => exact List.prefix_refl _

theorem length_applyBounded {cap : Nat} {rows : List ρ} (h : rows.length ≤ cap)
    (e : RowEdit ρ) : (e.applyBounded cap rows).length ≤ cap := by
  cases e with
  | insert pos row => exact List.length_take_le cap _
  | overwrite pos row =>
      simp only [applyBounded, apply, List.length_set]
      exact h
  | delete pos => exact (List.length_eraseIdx_le rows pos).trans h

/-- An edit that leaves no more rows than the bound drops none. -/
theorem applyBounded_eq {cap : Nat} {rows : List ρ} {e : RowEdit ρ}
    (h : (e.apply rows).length ≤ cap) : e.applyBounded cap rows = e.apply rows := by
  cases e with
  | insert pos row => exact List.take_of_length_le h
  | overwrite pos row => rfl
  | delete pos => rfl

end RowEdit

/-! ## Sequences of edits -/

section Sequences

variable (edit : ι → Option (RowEdit ρ))

/-- The rows after some inputs, of which some are edits. -/
def editedRows (rows : List ρ) (xs : List ι) : List ρ :=
  xs.foldl (fun rows x => (edit x).elim rows fun e => e.apply rows) rows

/-- The bounded copy after the same inputs. -/
def boundedRows (cap : Nat) (rows : List ρ) (xs : List ι) : List ρ :=
  xs.foldl (fun rows x => (edit x).elim rows fun e => e.applyBounded cap rows) rows

/-- A bounded copy stays a prefix of the rows, within its bound. -/
theorem boundedRows_isPrefix {cap : Nat} {own ref : List ρ} (hfront : own <+: ref)
    (hlength : own.length ≤ cap) (xs : List ι) :
    boundedRows edit cap own xs <+: editedRows edit ref xs ∧
      (boundedRows edit cap own xs).length ≤ cap := by
  induction xs generalizing own ref with
  | nil => exact ⟨hfront, hlength⟩
  | cons x xs ih =>
      unfold boundedRows editedRows
      rw [List.foldl_cons, List.foldl_cons]
      cases edit x with
      | none => exact ih hfront hlength
      | some e =>
          have hbounded := e.applyBounded_isPrefix cap own
          exact ih (hbounded.trans (RowEdit.apply_isPrefix hfront e))
            (RowEdit.length_applyBounded hlength e)

/-- While the rows never exceed the bound, the copy is all of them. -/
theorem boundedRows_eq {cap : Nat} {rows : List ρ} {xs : List ι}
    (h : ∀ pre, pre <+: xs → (editedRows edit rows pre).length ≤ cap) :
    boundedRows edit cap rows xs = editedRows edit rows xs := by
  induction xs using List.reverseRecOn with
  | nil => rfl
  | append_singleton xs x ih =>
      have hall := h (xs ++ [x]) (List.prefix_refl _)
      have hbefore := ih fun pre hpre => h pre (hpre.trans (List.prefix_append xs [x]))
      unfold boundedRows editedRows at hall hbefore ⊢
      rw [List.foldl_append, List.foldl_append, hbefore]
      rw [List.foldl_append] at hall
      cases hx : edit x with
      | none => simp [hx]
      | some e =>
          simp only [List.foldl_cons, List.foldl_nil, hx, Option.elim_some] at hall ⊢
          exact RowEdit.applyBounded_eq hall

end Sequences

end Foundations
