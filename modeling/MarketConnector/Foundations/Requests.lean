import MarketConnector.Foundations.Totals

/-!
# Foundations - Keyed requests at a server

A client asks a server for answers by key.  Each request has an identifier of its own, a
cancellation names the key and reaches the request issued last for it, and a lost
connection takes all requests away.  The client keeps some keys open.

Main results:

- Theorem `Requests.Sound.reissueAll`: no request is cancelled twice.
- Theorem `Requests.liveCount_eq`: a server that serves every open key, and nothing the
  client has lost track of, serves each open key once and no other.
- Theorems `Requests.cancelled_cancelAll` and `Requests.cancelled_reissueAll`: what going
  through the keys cancels.
-/

namespace Foundations

universe u

/-- Requests of a client: the live ones with their keys, the one issued last for each key,
and the cancelled ones in order. -/
structure Requests (κ : Type u) where
  live : Dict Nat κ
  latest : Dict κ Nat
  next : Nat
  cancelled : List Nat

namespace Requests

variable {κ : Type u}

/-- No request was made. -/
def init : Requests κ :=
  ⟨∅, ∅, 0, []⟩

/-- The connection is lost. -/
def lose (r : Requests κ) : Requests κ :=
  { r with live := ∅ }

variable [DecidableEq κ]

/-- Issue a request for a key; it is live if it reaches the server. -/
def issue (r : Requests κ) (reaches : Bool) (k : κ) : Requests κ :=
  { r with
    live := if reaches then r.live.set r.next k else r.live
    latest := r.latest.set k r.next
    next := r.next + 1 }

/-- Cancel the request issued last for a key. -/
def cancel (r : Requests κ) (k : κ) : Requests κ :=
  match r.latest.get? k with
  | none => r
  | some id => { r with live := r.live.pop id, cancelled := r.cancelled ++ [id] }

/-- Issue a new request for a key, in place of the old one. -/
def reissue (r : Requests κ) (cancelOld reaches : Bool) (k : κ) : Requests κ :=
  (if cancelOld then r.cancel k else r).issue reaches k

def cancelAll (r : Requests κ) (ks : List κ) : Requests κ :=
  ks.foldl cancel r

def reissueAll (r : Requests κ) (cancelOld reaches : Bool) (ks : List κ) : Requests κ :=
  ks.foldl (fun r k => r.reissue cancelOld reaches k) r

/-- The requests issued last for some keys. -/
def currentOf (r : Requests κ) (ks : List κ) : List Nat :=
  ks.filterMap r.latest.get?

/-- Number of live requests of a key. -/
def liveCount (r : Requests κ) (k : κ) : Nat :=
  r.live.total fun k' => if k' = k then 1 else 0

@[simp]
theorem latest_cancel (r : Requests κ) (k : κ) : (r.cancel k).latest = r.latest := by
  unfold cancel
  split <;> rfl

@[simp]
theorem next_cancel (r : Requests κ) (k : κ) : (r.cancel k).next = r.next := by
  unfold cancel
  split <;> rfl

theorem cancel_of_latest {r : Requests κ} {k : κ} {id : Nat} (h : r.latest.get? k = some id) :
    r.cancel k = { r with live := r.live.pop id, cancelled := r.cancelled ++ [id] } := by
  simp [cancel, h]

/-! ## No request is cancelled twice -/

/-- Requests have identifiers of their own, no request was cancelled twice, and the latest
request of an open key was not cancelled. -/
structure Sound (r : Requests κ) (isOpen : κ → Prop) : Prop where
  fresh : ∀ k id, r.latest.get? k = some id → id < r.next
  own : ∀ k k' id, r.latest.get? k = some id → r.latest.get? k' = some id → k = k'
  liveFresh : ∀ id k, r.live.get? id = some k → id < r.next
  cancelledFresh : ∀ id ∈ r.cancelled, id < r.next
  nodup : r.cancelled.Nodup
  pending : ∀ k, isOpen k → ∃ id, r.latest.get? k = some id ∧ id ∉ r.cancelled

theorem sound_init (isOpen : κ → Prop) (h : ∀ k, ¬ isOpen k) :
    (init : Requests κ).Sound isOpen where
  fresh := by simp [init]
  own := by simp [init]
  liveFresh := by simp [init]
  cancelledFresh := by simp [init]
  nodup := List.nodup_nil
  pending := fun k hk => absurd hk (h k)

section

variable {r : Requests κ} {isOpen isOpen' : κ → Prop}

theorem Sound.mono (h : r.Sound isOpen) (hopen : ∀ k, isOpen' k → isOpen k) : r.Sound isOpen' :=
  { h with pending := fun k hk => h.pending k (hopen k hk) }

theorem Sound.lose (h : r.Sound isOpen) : r.lose.Sound isOpen :=
  { h with liveFresh := fun id k hid => by cases hid }

/-- A request opens its key. -/
theorem Sound.issue (h : r.Sound isOpen) (reaches : Bool) (k : κ)
    (hopen : ∀ k', isOpen' k' → k' = k ∨ isOpen k') : (r.issue reaches k).Sound isOpen' where
  fresh k' id hid := by
    simp only [Requests.issue, Dict.get?_set] at hid ⊢
    split_ifs at hid
    · cases hid
      exact Nat.lt_succ_self _
    · exact Nat.lt_succ_of_lt (h.fresh k' id hid)
  own k₁ k₂ id h₁ h₂ := by
    simp only [Requests.issue, Dict.get?_set] at h₁ h₂
    split_ifs at h₁ h₂ with hk₁ hk₂ hk₂
    · exact hk₁.trans hk₂.symm
    · cases h₁
      exact absurd (h.fresh k₂ _ h₂) (Nat.lt_irrefl _)
    · cases h₂
      exact absurd (h.fresh k₁ _ h₁) (Nat.lt_irrefl _)
    · exact h.own k₁ k₂ id h₁ h₂
  liveFresh id k' hid := by
    simp only [Requests.issue] at hid ⊢
    cases reaches with
    | false => exact Nat.lt_succ_of_lt (h.liveFresh id k' hid)
    | true =>
        simp only [if_true, Dict.get?_set] at hid
        split_ifs at hid with hnew
        · rw [hnew]
          exact Nat.lt_succ_self _
        · exact Nat.lt_succ_of_lt (h.liveFresh id k' hid)
  cancelledFresh id hid := Nat.lt_succ_of_lt (h.cancelledFresh id hid)
  nodup := h.nodup
  pending k' hk' := by
    simp only [Requests.issue, Dict.get?_set]
    by_cases hk : k' = k
    · exact ⟨r.next, if_pos hk, fun hmem => absurd (h.cancelledFresh _ hmem) (Nat.lt_irrefl _)⟩
    · rw [if_neg hk]
      exact h.pending k' ((hopen k' hk').resolve_left hk)

/-- Cancelling an open key closes it. -/
theorem Sound.cancel (h : r.Sound isOpen) {k : κ} (hk : isOpen k)
    (hopen : ∀ k', isOpen' k' → k' ≠ k ∧ isOpen k') : (r.cancel k).Sound isOpen' := by
  obtain ⟨id, hid, hpending⟩ := h.pending k hk
  rw [cancel_of_latest hid]
  refine ⟨h.fresh, h.own, fun id' k' hid' => ?_, fun id' hid' => ?_, ?_, fun k' hk' => ?_⟩
  · exact h.liveFresh id' k' (Dict.get?_of_pop hid')
  · rcases List.mem_append.1 hid' with hold | hnew
    · exact h.cancelledFresh id' hold
    · rw [List.mem_singleton.1 hnew]
      exact h.fresh k id hid
  · rw [List.nodup_append]
    refine ⟨h.nodup, by simp, ?_⟩
    rintro id' hold id'' hnew rfl
    rw [List.mem_singleton.1 hnew] at hold
    exact hpending hold
  · obtain ⟨hne, hk'⟩ := hopen k' hk'
    obtain ⟨id', hid', hpending'⟩ := h.pending k' hk'
    refine ⟨id', hid', fun hmem => ?_⟩
    rcases List.mem_append.1 hmem with hold | hnew
    · exact hpending' hold
    · rw [List.mem_singleton.1 hnew] at hid'
      exact hne (h.own k' k id hid' hid)

theorem Sound.reissue (h : r.Sound isOpen) (cancelOld reaches : Bool) {k : κ} (hk : isOpen k) :
    (r.reissue cancelOld reaches k).Sound isOpen := by
  unfold Requests.reissue
  cases cancelOld with
  | false => exact h.issue reaches k fun k' hk' => Or.inr hk'
  | true =>
      have hclosed : (r.cancel k).Sound fun k' => k' ≠ k ∧ isOpen k' := h.cancel hk fun _ hk' => hk'
      refine hclosed.issue reaches k fun k' hk' => ?_
      by_cases heq : k' = k
      · exact Or.inl heq
      · exact Or.inr ⟨heq, hk'⟩

/-- Issuing the requests of open keys anew cancels none twice. -/
theorem Sound.reissueAll (h : r.Sound isOpen) (cancelOld reaches : Bool) {ks : List κ}
    (hks : ∀ k ∈ ks, isOpen k) : (r.reissueAll cancelOld reaches ks).Sound isOpen := by
  induction ks generalizing r with
  | nil => exact h
  | cons k ks ih =>
      rw [List.forall_mem_cons] at hks
      exact ih (h.reissue cancelOld reaches hks.1) hks.2

/-- Cancelling open keys, each once. -/
theorem Sound.cancelAll (h : r.Sound isOpen) {ks : List κ} (hks : ∀ k ∈ ks, isOpen k)
    (hnodup : ks.Nodup) (hopen : ∀ k, isOpen' k → k ∉ ks ∧ isOpen k) :
    (r.cancelAll ks).Sound isOpen' := by
  induction ks generalizing r isOpen with
  | nil => exact h.mono fun k hk => (hopen k hk).2
  | cons k ks ih =>
      rw [List.forall_mem_cons] at hks
      rw [List.nodup_cons] at hnodup
      have hclosed : (r.cancel k).Sound fun k' => k' ≠ k ∧ isOpen k' :=
        h.cancel hks.1 fun _ hk' => hk'
      refine ih hclosed (fun k' hk' => ⟨?_, hks.2 k' hk'⟩) hnodup.2 fun k' hk' => ?_
      · rintro rfl
        exact hnodup.1 hk'
      · obtain ⟨hnotin, hk'⟩ := hopen k' hk'
        rw [List.mem_cons, not_or] at hnotin
        exact ⟨hnotin.2, hnotin.1, hk'⟩

/-! ## What is cancelled -/

theorem cancelled_cancel (r : Requests κ) (k : κ) :
    (r.cancel k).cancelled = r.cancelled ++ r.currentOf [k] := by
  unfold Requests.cancel currentOf
  cases hid : r.latest.get? k with
  | none => simp [hid]
  | some id => simp [hid]

theorem currentOf_cons (r : Requests κ) (k : κ) (ks : List κ) :
    r.currentOf (k :: ks) = r.currentOf [k] ++ r.currentOf ks := by
  unfold currentOf
  rw [← List.filterMap_append]
  rfl

theorem cancelled_cancelAll (r : Requests κ) (ks : List κ) :
    (r.cancelAll ks).cancelled = r.cancelled ++ r.currentOf ks := by
  induction ks generalizing r with
  | nil => simp [cancelAll, currentOf]
  | cons k ks ih =>
      have hsame : (r.cancel k).currentOf ks = r.currentOf ks := by
        simp only [currentOf, latest_cancel]
      have hrest := ih (r.cancel k)
      rw [hsame, cancelled_cancel, List.append_assoc, ← currentOf_cons] at hrest
      exact hrest

theorem cancelled_reissue (r : Requests κ) (cancelOld reaches : Bool) (k : κ) :
    (r.reissue cancelOld reaches k).cancelled =
      r.cancelled ++ if cancelOld then r.currentOf [k] else [] := by
  cases cancelOld with
  | false => simp [reissue, issue]
  | true => exact cancelled_cancel r k

/-- Going through the keys cancels the requests they had at the start. -/
theorem cancelled_reissueAll (r : Requests κ) (cancelOld reaches : Bool) {ks : List κ}
    (hnodup : ks.Nodup) : (r.reissueAll cancelOld reaches ks).cancelled =
      r.cancelled ++ if cancelOld then r.currentOf ks else [] := by
  induction ks generalizing r with
  | nil => simp [reissueAll, currentOf]
  | cons k ks ih =>
      rw [List.nodup_cons] at hnodup
      have hsame : (r.reissue cancelOld reaches k).currentOf ks = r.currentOf ks := by
        refine List.filterMap_congr fun k' hk' => ?_
        have hne : k' ≠ k := by
          rintro rfl
          exact hnodup.1 hk'
        have hlatest : (r.reissue cancelOld reaches k).latest = r.latest.set k
            (if cancelOld then r.cancel k else r).next := by
          cases cancelOld <;> simp [reissue, issue]
        rw [hlatest, Dict.get?_set_of_ne _ hne]
      have hrest := ih (r.reissue cancelOld reaches k) hnodup.2
      rw [hsame, cancelled_reissue] at hrest
      show ((r.reissue cancelOld reaches k).reissueAll cancelOld reaches ks).cancelled = _
      rw [hrest]
      cases cancelOld with
      | false => simp
      | true =>
          simp only [if_true]
          rw [List.append_assoc, ← currentOf_cons]

/-- Going through the keys issues one request for each. -/
theorem next_reissueAll (r : Requests κ) (cancelOld reaches : Bool) (ks : List κ) :
    (r.reissueAll cancelOld reaches ks).next = r.next + ks.length := by
  induction ks generalizing r with
  | nil => rfl
  | cons k ks ih =>
      have hone : (r.reissue cancelOld reaches k).next = r.next + 1 := by
        cases cancelOld <;> simp [reissue, issue]
      have hrest := ih (r.reissue cancelOld reaches k)
      rw [hone] at hrest
      rw [List.length_cons]
      show ((r.reissue cancelOld reaches k).reissueAll cancelOld reaches ks).next = _
      omega

/-- Every open key has a request to cancel. -/
theorem Sound.length_currentOf {isOpen : κ → Prop} (h : r.Sound isOpen) {ks : List κ}
    (hks : ∀ k ∈ ks, isOpen k) : (r.currentOf ks).length = ks.length := by
  unfold currentOf
  rw [List.filterMap_length_eq_length]
  intro k hk
  obtain ⟨id, hid, -⟩ := h.pending k (hks k hk)
  rw [hid]
  rfl

/-! ## What the server serves -/

/-- Every live request is the latest of an open key, so that a cancellation reaches it. -/
def Tracked (r : Requests κ) (isOpen : κ → Prop) : Prop :=
  ∀ id k, r.live.get? id = some k → isOpen k ∧ r.latest.get? k = some id

/-- The latest request of a key is live. -/
def ServedAt (r : Requests κ) (k : κ) : Prop :=
  ∃ id, r.latest.get? k = some id ∧ r.live.get? id = some k

/-- Every open key is served. -/
def Served (r : Requests κ) (isOpen : κ → Prop) : Prop :=
  ∀ k, isOpen k → r.ServedAt k

theorem Tracked.of_empty (h : r.live = ∅) : r.Tracked isOpen := by
  intro id k hid
  rw [h] at hid
  cases hid

theorem live_issue {reaches : Bool} {k k' : κ} {id : Nat}
    (hid : (r.issue reaches k).live.get? id = some k') :
    k' = k ∨ r.live.get? id = some k' := by
  cases reaches with
  | false => exact Or.inr hid
  | true =>
      simp only [Requests.issue, if_true, Dict.get?_set] at hid
      split_ifs at hid
      · exact Or.inl (Option.some.inj hid).symm
      · exact Or.inr hid

/-- A request for a key that has none at the server. -/
theorem Tracked.issue (h : r.Tracked isOpen) (reaches : Bool) {k : κ}
    (hnone : ∀ id, r.live.get? id ≠ some k) (hk : isOpen' k)
    (hopen : ∀ k', isOpen k' → isOpen' k') : (r.issue reaches k).Tracked isOpen' := by
  have hold : ∀ id k', r.live.get? id = some k' →
      isOpen' k' ∧ (r.latest.set k r.next).get? k' = some id := by
    intro id k' hid
    have hne : k' ≠ k := by
      rintro rfl
      exact hnone id hid
    rw [Dict.get?_set_of_ne _ hne]
    exact ⟨hopen k' (h id k' hid).1, (h id k' hid).2⟩
  intro id k' hid
  cases reaches with
  | false => exact hold id k' hid
  | true =>
      simp only [Requests.issue, if_true, Dict.get?_set] at hid ⊢
      split_ifs at hid with hnew
      · cases hid
        rw [hnew, if_pos rfl]
        exact ⟨hk, rfl⟩
      · rw [← Dict.get?_set]
        exact hold id k' hid

/-- A cancelled key has no live request. -/
theorem Tracked.not_live_cancel (h : r.Tracked isOpen) (k : κ) (id : Nat) :
    (r.cancel k).live.get? id ≠ some k := by
  intro hid
  unfold Requests.cancel at hid
  split at hid
  · rename_i hlatest
    rw [(h id k hid).2] at hlatest
    cases hlatest
  · rename_i id' hlatest
    simp only [Dict.get?_pop] at hid
    split_ifs at hid with hne
    have hid' := (h id k hid).2
    rw [hlatest] at hid'
    exact hne (Option.some.inj hid').symm

theorem live_cancel {id : Nat} {k k' : κ} (hid : (r.cancel k).live.get? id = some k') :
    r.live.get? id = some k' := by
  unfold Requests.cancel at hid
  split at hid
  · exact hid
  · exact Dict.get?_of_pop hid

theorem live_cancel_of_empty (h : r.live = ∅) (k : κ) : (r.cancel k).live = ∅ := by
  by_contra hne
  obtain ⟨id, k', hid⟩ := Dict.exists_get?_of_ne_empty hne
  have hlive := live_cancel hid
  rw [h] at hlive
  cases hlive

theorem Tracked.cancel (h : r.Tracked isOpen) {k : κ}
    (hopen : ∀ k', k' ≠ k → isOpen k' → isOpen' k') : (r.cancel k).Tracked isOpen' := by
  intro id k' hid
  have hne : k' ≠ k := by
    rintro rfl
    exact h.not_live_cancel k' id hid
  rw [latest_cancel]
  exact ⟨hopen k' hne (h id k' (live_cancel hid)).1, (h id k' (live_cancel hid)).2⟩

theorem Tracked.reissue (h : r.Tracked isOpen) (reaches : Bool) {k : κ} (hk : isOpen k) :
    (r.reissue true reaches k).Tracked isOpen :=
  Tracked.issue (h.cancel fun _ _ hk' => hk') reaches (h.not_live_cancel k) hk fun _ hk' => hk'

theorem Tracked.reissueAll (h : r.Tracked isOpen) (reaches : Bool) {ks : List κ}
    (hks : ∀ k ∈ ks, isOpen k) : (r.reissueAll true reaches ks).Tracked isOpen := by
  induction ks generalizing r with
  | nil => exact h
  | cons k ks ih =>
      rw [List.forall_mem_cons] at hks
      exact ih (h.reissue reaches hks.1) hks.2

/-- Without cancellations, no old request may be live. -/
theorem Tracked.issueAll {ks : List κ} (h : r.Tracked isOpen)
    (hnone : ∀ id, ∀ k ∈ ks, r.live.get? id ≠ some k) (reaches : Bool)
    (hks : ∀ k ∈ ks, isOpen k) (hnodup : ks.Nodup) :
    (r.reissueAll false reaches ks).Tracked isOpen := by
  induction ks generalizing r with
  | nil => exact h
  | cons k ks ih =>
      rw [List.forall_mem_cons] at hks
      rw [List.nodup_cons] at hnodup
      have hfirst : (r.issue reaches k).Tracked isOpen :=
        h.issue reaches (fun id => hnone id k List.mem_cons_self) hks.1 fun _ hk' => hk'
      refine ih hfirst (fun id k' hk' hid => ?_) hks.2 hnodup.2
      have hne : k' ≠ k := by
        rintro rfl
        exact hnodup.1 hk'
      have hissued : (r.issue reaches k).live.get? id = some k' := hid
      rcases live_issue hissued with heq | hlive
      · exact hne heq
      · exact hnone id k' (List.mem_cons_of_mem _ hk') hlive

/-- A request that reaches the server serves its key. -/
theorem servedAt_issue (r : Requests κ) (k : κ) : (r.issue true k).ServedAt k :=
  ⟨r.next, by simp [Requests.issue], by simp [Requests.issue]⟩

/-- Requests for other keys leave a served key served. -/
theorem ServedAt.issue (hr : r.Sound isOpen) {k k' : κ} (h : r.ServedAt k') (hne : k' ≠ k)
    (reaches : Bool) : (r.issue reaches k).ServedAt k' := by
  obtain ⟨id, hlatest, hlive⟩ := h
  refine ⟨id, (Dict.get?_set_of_ne _ hne _).trans hlatest, ?_⟩
  have hold : id ≠ r.next := (hr.fresh k' id hlatest).ne
  cases reaches with
  | false => exact hlive
  | true => exact (Dict.get?_set_of_ne _ hold _).trans hlive

theorem ServedAt.cancel (hr : r.Sound isOpen) {k k' : κ} (h : r.ServedAt k') (hne : k' ≠ k) :
    (r.cancel k).ServedAt k' := by
  obtain ⟨id, hlatest, hlive⟩ := h
  refine ⟨id, by rw [latest_cancel, hlatest], ?_⟩
  unfold Requests.cancel
  split
  · exact hlive
  · rename_i id' hid'
    have hother : id ≠ id' := by
      rintro rfl
      exact hne (hr.own k' k id hlatest hid')
    exact (Dict.get?_pop_of_ne _ hother).trans hlive

/-- After all requests were issued anew, the keys gone through are served. -/
theorem servedAt_reissueAll (hr : r.Sound isOpen) (cancelOld : Bool) {ks : List κ}
    (hks : ∀ k ∈ ks, isOpen k) {k : κ} (hk : k ∈ ks ∨ r.ServedAt k) :
    (r.reissueAll cancelOld true ks).ServedAt k := by
  induction ks generalizing r with
  | nil => exact hk.resolve_left (by simp)
  | cons k' ks ih =>
      rw [List.forall_mem_cons] at hks
      refine ih (hr.reissue cancelOld true hks.1) hks.2 ?_
      by_cases heq : k = k'
      · rw [heq]
        exact Or.inr (servedAt_issue _ k')
      · refine hk.imp (fun hmem => (List.mem_cons.1 hmem).resolve_left heq) fun hserved => ?_
        cases cancelOld with
        | false => exact hserved.issue hr heq true
        | true =>
            have hclosed : (r.cancel k').Sound fun k => k ≠ k' ∧ isOpen k :=
              hr.cancel hks.1 fun _ h => h
            exact (hserved.cancel hr heq).issue hclosed heq true

/-- Requests that do not reach the server leave it without any. -/
theorem live_reissueAll_of_empty (h : r.live = ∅) (cancelOld : Bool) (ks : List κ) :
    (r.reissueAll cancelOld false ks).live = ∅ := by
  induction ks generalizing r with
  | nil => exact h
  | cons k ks ih =>
      refine ih ?_
      cases cancelOld with
      | false => exact h
      | true => exact live_cancel_of_empty h k

/-- Without cancellations the old requests stay live. -/
theorem live_issueAll_of_lt (reaches : Bool) (ks : List κ) {id : Nat} (hid : id < r.next) :
    (r.reissueAll false reaches ks).live.get? id = r.live.get? id := by
  induction ks generalizing r with
  | nil => rfl
  | cons k ks ih =>
      have hnext : id < (r.reissue false reaches k).next := Nat.lt_succ_of_lt hid
      refine (ih hnext).trans ?_
      cases reaches with
      | false => rfl
      | true => exact Dict.get?_set_of_ne _ hid.ne _

/-- The keys gone through have new requests. -/
theorem le_latest_reissueAll (cancelOld reaches : Bool) {ks : List κ} {k : κ} {n : Nat}
    (hn : n ≤ r.next) (hk : k ∈ ks ∨ ∃ id, r.latest.get? k = some id ∧ n ≤ id) :
    ∃ id, (r.reissueAll cancelOld reaches ks).latest.get? k = some id ∧ n ≤ id := by
  induction ks generalizing r with
  | nil => exact hk.resolve_left (by simp)
  | cons k' ks ih =>
      have hstep : (r.reissue cancelOld reaches k').latest = r.latest.set k' r.next ∧
          (r.reissue cancelOld reaches k').next = r.next + 1 := by
        cases cancelOld with
        | false => exact ⟨rfl, rfl⟩
        | true => simp [Requests.reissue, Requests.issue]
      have hle : n ≤ (r.reissue cancelOld reaches k').next := by omega
      refine ih hle ?_
      rw [hstep.1]
      by_cases heq : k = k'
      · exact Or.inr ⟨r.next, by simp [heq], hn⟩
      · rw [Dict.get?_set_of_ne _ heq]
        exact hk.imp (fun hmem => (List.mem_cons.1 hmem).resolve_left heq) fun hold => hold

/-- If the server is tracked after new requests without cancellations, it had none of the
keys. -/
theorem Tracked.not_live_of_issueAll (hr : r.Sound isOpen) {reaches : Bool} {ks : List κ}
    (h : (r.reissueAll false reaches ks).Tracked isOpen') {k : κ} (hk : k ∈ ks) (id : Nat) :
    r.live.get? id ≠ some k := by
  intro hid
  have hlt := hr.liveFresh id k hid
  have hlatest := (h id k ((live_issueAll_of_lt reaches ks hlt).trans hid)).2
  obtain ⟨id', hid', hge⟩ := le_latest_reissueAll false reaches (r.next).le_refl (Or.inl hk)
  rw [hlatest] at hid'
  cases hid'
  exact absurd hlt (Nat.not_lt.2 hge)

/-! ## Counting live requests -/

/-- A tracked key has its latest request live, or none. -/
theorem Tracked.liveCount_of_servedAt (h : r.Tracked isOpen) {k : κ} (hk : r.ServedAt k) :
    r.liveCount k = 1 := by
  obtain ⟨id, hlatest, hlive⟩ := hk
  have hpop := Dict.total_pop_of_get? hlive fun k' => if k' = k then 1 else 0
  have hrest : ((r.live.pop id).total fun k' => if k' = k then 1 else 0) =
      (r.live.pop id).total fun _ => 0 := by
    refine Dict.total_congr fun id' k' hid' => if_neg ?_
    rintro rfl
    rw [Dict.get?_pop] at hid'
    split_ifs at hid' with hne
    exact hne (Option.some.inj ((h id' k' hid').2.symm.trans hlatest))
  simp only [Dict.total_zero, if_true] at hpop hrest
  unfold liveCount
  omega

theorem liveCount_of_not_live {k : κ} (h : ∀ id, r.live.get? id ≠ some k) :
    r.liveCount k = 0 := by
  have hzero : r.liveCount k = r.live.total fun _ => 0 := by
    refine Dict.total_congr fun id k' hid => if_neg ?_
    rintro rfl
    exact h id hid
  rw [hzero, Dict.total_zero]

/-- A served key that is open has one live request, another key none. -/
theorem liveCount_eq (h : r.Tracked isOpen) (hserved : r.Served isOpen) (k : κ)
    [Decidable (isOpen k)] : r.liveCount k = if isOpen k then 1 else 0 := by
  split_ifs with hk
  · exact h.liveCount_of_servedAt (hserved k hk)
  · exact liveCount_of_not_live fun id hid => hk (h id k hid).1

/-- A tracked key with a live request is served. -/
theorem Tracked.servedAt_of_liveCount (h : r.Tracked isOpen) {k : κ} (hk : r.liveCount k ≠ 0) :
    r.ServedAt k := by
  by_contra hnot
  refine hk (liveCount_of_not_live fun id hid => hnot ⟨id, (h id k hid).2, hid⟩)

end

end Requests
end Foundations
