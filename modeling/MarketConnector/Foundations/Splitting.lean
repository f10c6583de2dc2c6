import Mathlib.Data.List.Infix

/-!
# Foundations - Splitting sequences

A sequence is cut at the occurrences of a separator, or before the longest known suffix.

Main results:

- Definition `split`: the pieces between the separators.
- Theorem `split_eq_pair_iff`: when there are two pieces.
- Definition `longestSuffix`: the first of the longest known suffixes.
- Theorem `longestSuffix_eq_some_iff`: what is found.
- Theorem `longestSuffix_congr`: the order of the known suffixes does not matter.
-/

namespace Foundations

variable {α : Type*} [DecidableEq α]

/-! ## Separators -/

/-- Pieces of the rest of a sequence, `piece` being the reversed start of the first one;
`skip` elements belong to the separator found last. -/
def splitFrom (sep : List α) : Nat → List α → List α → List (List α)
  | _, piece, [] => [piece.reverse]
  | skip + 1, piece, _ :: xs => splitFrom sep skip piece xs
  | 0, piece, x :: xs =>
      if sep.isPrefixOf (x :: xs) then piece.reverse :: splitFrom sep (sep.length - 1) [] xs
      else splitFrom sep 0 (x :: piece) xs

/-- The pieces of a sequence between the occurrences of a separator, from the left. -/
def split (sep xs : List α) : List (List α) :=
  splitFrom sep 0 [] xs

theorem splitFrom_cons (a : α) (piece : List α) (x : α) (xs : List α) :
    splitFrom [a] 0 piece (x :: xs) =
      if x = a then piece.reverse :: splitFrom [a] 0 [] xs
      else splitFrom [a] 0 (x :: piece) xs := by
  by_cases h : x = a
  · simp [splitFrom, h]
  · simp [splitFrom, h, Ne.symm h]

/-- Without a separator there is one piece. -/
theorem splitFrom_of_notMem {a : α} {xs : List α} (h : a ∉ xs) (piece : List α) :
    splitFrom [a] 0 piece xs = [piece.reverse ++ xs] := by
  induction xs generalizing piece with
  | nil => simp [splitFrom]
  | cons x xs ih =>
      rw [List.mem_cons, not_or] at h
      rw [splitFrom_cons, if_neg (Ne.symm h.1), ih h.2]
      simp

theorem splitFrom_append {a : α} {xs : List α} (h : a ∉ xs) (piece ys : List α) :
    splitFrom [a] 0 piece (xs ++ a :: ys) = (piece.reverse ++ xs) :: splitFrom [a] 0 [] ys := by
  induction xs generalizing piece with
  | nil => simp [splitFrom_cons]
  | cons x xs ih =>
      rw [List.mem_cons, not_or] at h
      rw [List.cons_append, splitFrom_cons, if_neg (Ne.symm h.1), ih h.2]
      simp

theorem split_of_notMem {a : α} {xs : List α} (h : a ∉ xs) : split [a] xs = [xs] :=
  splitFrom_of_notMem h []

theorem split_append {a : α} {xs : List α} (h : a ∉ xs) (ys : List α) :
    split [a] (xs ++ a :: ys) = xs :: split [a] ys :=
  splitFrom_append h [] ys

theorem split_ne_nil (a : α) (xs : List α) : split [a] xs ≠ [] := by
  by_cases h : a ∈ xs
  · obtain ⟨first, rest, rfl, hfirst⟩ := List.eq_append_cons_of_mem h
    simp [split_append hfirst]
  · simp [split_of_notMem h]

/-- There is one piece only without a separator. -/
theorem split_eq_singleton_iff {a : α} {xs ys : List α} :
    split [a] xs = [ys] ↔ xs = ys ∧ a ∉ xs := by
  by_cases h : a ∈ xs
  · obtain ⟨first, rest, rfl, hfirst⟩ := List.eq_append_cons_of_mem h
    simp [split_append hfirst, split_ne_nil]
  · simp [split_of_notMem h, h]

/-- There are two pieces with a separator between them and no other. -/
theorem split_eq_pair_iff {a : α} {xs ys zs : List α} :
    split [a] xs = [ys, zs] ↔ xs = ys ++ a :: zs ∧ a ∉ ys ∧ a ∉ zs := by
  constructor
  · intro h
    by_cases hmem : a ∈ xs
    · obtain ⟨first, rest, rfl, hfirst⟩ := List.eq_append_cons_of_mem hmem
      rw [split_append hfirst, List.cons.injEq, split_eq_singleton_iff] at h
      obtain ⟨rfl, rfl, hrest⟩ := h
      exact ⟨rfl, hfirst, hrest⟩
    · simp [split_of_notMem hmem] at h
  · rintro ⟨rfl, hys, hzs⟩
    rw [split_append hys, split_of_notMem hzs]

/-! ## Known suffixes -/

variable {β : Type*} (text : β → List α)

/-- The first of the longest known suffixes of a sequence. -/
def longestSuffix (known : List β) (xs : List α) : Option β :=
  known.foldl (fun best suffix =>
    if (text suffix).isSuffixOf xs ∧
        best.all (fun longest => (text longest).length < (text suffix).length) then some suffix
    else best) none

/-- What a search among some known suffixes has found. -/
def IsLongest (known : List β) (xs : List α) : Option β → Prop
  | none => ∀ suffix ∈ known, ¬ text suffix <:+ xs
  | some best =>
      best ∈ known ∧ text best <:+ xs ∧
        ∀ suffix ∈ known, text suffix <:+ xs → (text suffix).length ≤ (text best).length

/-- The search after one more known suffix. -/
theorem IsLongest.concat {known : List β} {xs : List α} {best : Option β}
    (h : IsLongest text known xs best) (suffix : β) :
    IsLongest text (known ++ [suffix]) xs
      (if (text suffix).isSuffixOf xs ∧
          best.all (fun longest => (text longest).length < (text suffix).length) then some suffix
        else best) := by
  cases best with
  | none =>
      by_cases hsuffix : text suffix <:+ xs
      · rw [if_pos ⟨by simpa using hsuffix, by simp⟩]
        refine ⟨by simp, hsuffix, fun other hother hx => ?_⟩
        rcases List.mem_append.1 hother with hknown | hlast
        · exact absurd hx (h other hknown)
        · rw [List.mem_singleton.1 hlast]
      · rw [if_neg (by simp [hsuffix])]
        intro other hother
        rcases List.mem_append.1 hother with hknown | hlast
        · exact h other hknown
        · rwa [List.mem_singleton.1 hlast]
  | some longest =>
      obtain ⟨hmem, hlongest, hall⟩ := h
      by_cases hnew : text suffix <:+ xs ∧ (text longest).length < (text suffix).length
      · rw [if_pos (by simpa using hnew)]
        refine ⟨by simp, hnew.1, fun other hother hx => ?_⟩
        rcases List.mem_append.1 hother with hknown | hlast
        · exact (hall other hknown hx).trans hnew.2.le
        · rw [List.mem_singleton.1 hlast]
      · rw [if_neg (by simpa using hnew)]
        refine ⟨List.mem_append_left _ hmem, hlongest, fun other hother hx => ?_⟩
        rcases List.mem_append.1 hother with hknown | hlast
        · exact hall other hknown hx
        · rw [List.mem_singleton.1 hlast] at hx ⊢
          by_contra hlt
          exact hnew ⟨hx, by omega⟩

theorem isLongest_longestSuffix (known : List β) (xs : List α) :
    IsLongest text known xs (longestSuffix text known xs) := by
  induction known using List.reverseRecOn with
  | nil => simp [longestSuffix, IsLongest]
  | append_singleton known suffix ih =>
      rw [longestSuffix, List.foldl_append]
      exact ih.concat text suffix

variable {text}

/-- With different texts for different suffixes, the longest one is found. -/
theorem longestSuffix_eq_some_iff (htext : Function.Injective text) {known : List β}
    {xs : List α} {best : β} :
    longestSuffix text known xs = some best ↔
      best ∈ known ∧ text best <:+ xs ∧
        ∀ suffix ∈ known, text suffix <:+ xs → (text suffix).length ≤ (text best).length := by
  have hspec := isLongest_longestSuffix text known xs
  constructor
  · intro h
    rwa [h] at hspec
  · rintro ⟨hmem, hsuffix, hall⟩
    cases hfound : longestSuffix text known xs with
    | none =>
        rw [hfound] at hspec
        exact absurd hsuffix (hspec best hmem)
    | some found =>
        rw [hfound] at hspec
        obtain ⟨hmem', hsuffix', hall'⟩ := hspec
        have hlength : (text found).length = (text best).length :=
          Nat.le_antisymm (hall found hmem' hsuffix') (hall' best hmem hsuffix)
        have hsame : text found <:+ text best :=
          List.suffix_of_suffix_length_le hsuffix' hsuffix hlength.le
        exact congrArg some (htext (hsame.eq_of_length hlength))

/-- What is found depends on which suffixes are known, and not on their order. -/
theorem longestSuffix_congr (htext : Function.Injective text) {known known' : List β}
    (hsame : ∀ suffix, suffix ∈ known ↔ suffix ∈ known') (xs : List α) :
    longestSuffix text known xs = longestSuffix text known' xs := by
  refine Option.ext fun best => ?_
  rw [longestSuffix_eq_some_iff htext, longestSuffix_eq_some_iff htext, hsame best]
  simp only [hsame]

end Foundations
