import MarketConnector.Ib.StreamTable

/-!
# Ib - Reference counts and idle timers of streams

What the operations of the stream table do to the reference count and the idle timer of
each stream object, for any assignment of users to objects.

Main results:

- Definition `UseAt`: a stream object counts its users, and its idle timer runs exactly
  while it is registered for depth without any.
- Theorems `OnlyStream.releaseDepth`, …: which object an operation works on.
- Theorems `UseInv.acquireDepth`, `UseInv.releaseDepth`, …: one user more or less.
-/

namespace MarketConnector
namespace Ib

open Foundations

/-! ## Registered stream objects -/

/-- The stream object is registered for the kind. -/
def Registered (t : StreamTable) (kind : StreamKind) (sid : Nat) : Prop :=
  ∃ key, (t.registry kind).get? key = some sid

theorem isRegistered_iff {t : StreamTable} (h : KeyedInv t) {kind : StreamKind} {sid : Nat} :
    isRegistered t kind sid = true ↔ Registered t kind sid := by
  unfold isRegistered
  constructor
  · intro hreg
    split at hreg
    · exact ⟨_, of_decide_eq_true hreg⟩
    · cases hreg
  · rintro ⟨key, hkey⟩
    obtain ⟨stream, hsid, rfl⟩ := Option.map_eq_some_iff.1 (h.registered kind key sid hkey)
    rw [hsid]
    exact decide_eq_true hkey

theorem StreamFrame.registered {t t' : StreamTable} (h : StreamFrame t t') {kind : StreamKind}
    {sid : Nat} (hreg : Registered t' kind sid) : Registered t kind sid := by
  obtain ⟨key, hkey⟩ := hreg
  exact ⟨key, h.registry kind key sid hkey⟩

/-- A stream that is forgotten is registered no more, and every other one as before. -/
theorem registered_forget {t : StreamTable} (h : KeyedInv t) (kind kind' : StreamKind)
    (sid sid' : Nat) :
    Registered (forget t kind sid) kind' sid' ↔
      Registered t kind' sid' ∧ ¬ (kind' = kind ∧ sid' = sid) := by
  by_cases hreg : Registered t kind sid
  · obtain ⟨key, hkey⟩ := hreg
    have hkeyOf := h.registered kind key sid hkey
    have hforget : forget t kind sid = addLines (unregister t kind key) (-1) := by
      simp [forget, hkeyOf, (isRegistered_iff h).2 ⟨key, hkey⟩]
    rw [hforget]
    have hregistry : ∀ key', ((addLines (unregister t kind key) (-1)).registry kind').get? key' =
        some sid' ↔ (t.registry kind').get? key' = some sid' ∧ ¬ (kind' = kind ∧ sid' = sid) := by
      intro key'
      simp only [addLines, unregister, Function.update_apply]
      split_ifs with hkind
      · subst hkind
        rw [Dict.get?_pop]
        split_ifs with heq
        · subst heq
          simp [hkey]
          exact fun hsame => hsame.symm
        · refine ⟨fun hfound => ⟨hfound, ?_⟩, fun hfound => hfound.1⟩
          rintro ⟨-, rfl⟩
          have hother := h.registered _ key' _ hfound
          rw [hkeyOf] at hother
          exact heq (Option.some.inj hother).symm
      · simp [hkind]
    simp only [Registered, hregistry, exists_and_right]
  · have hforget : forget t kind sid = t := by
      unfold forget
      cases keyOf t sid with
      | none => rfl
      | some key =>
          have hnot : isRegistered t kind sid = false := by
            rw [Bool.eq_false_iff]
            exact fun hreg' => hreg ((isRegistered_iff h).1 hreg')
          simp [hnot]
    rw [hforget]
    refine ⟨fun hreg' => ⟨hreg', ?_⟩, fun hreg' => hreg'.1⟩
    rintro ⟨rfl, rfl⟩
    exact hreg hreg'

/-- A stream that is registered under a free key, and every other one as before. -/
theorem registered_register {t : StreamTable} {kind : StreamKind} {key : StreamKey}
    (habsent : (t.registry kind).get? key = none) (sid : Nat) (n : Int) (kind' : StreamKind)
    (sid' : Nat) :
    Registered (addLines (register t kind key sid) n) kind' sid' ↔
      Registered t kind' sid' ∨ (kind' = kind ∧ sid' = sid) := by
  have hregistry : ∀ key', ((addLines (register t kind key sid) n).registry kind').get? key' =
      if kind' = kind ∧ key' = key then some sid else (t.registry kind').get? key' := by
    intro key'
    simp only [addLines, register, Function.update_apply]
    by_cases hkind : kind' = kind
    · subst hkind
      simp [Dict.get?_set]
    · simp [hkind]
  constructor
  · rintro ⟨key', hkey'⟩
    rw [hregistry] at hkey'
    split_ifs at hkey' with heq
    · exact Or.inr ⟨heq.1, (Option.some.inj hkey').symm⟩
    · exact Or.inl ⟨key', hkey'⟩
  · rintro (⟨key', hkey'⟩ | ⟨rfl, rfl⟩)
    · refine ⟨key', ?_⟩
      rw [hregistry, if_neg]
      · exact hkey'
      · rintro ⟨rfl, rfl⟩
        rw [habsent] at hkey'
        cases hkey'
    · exact ⟨key, by rw [hregistry, if_pos ⟨rfl, rfl⟩]⟩

theorem registered_dropStream {t : StreamTable} (h : KeyedInv t) (kind kind' : StreamKind)
    (sid sid' : Nat) :
    Registered (dropStream t kind sid) kind' sid' ↔
      Registered t kind' sid' ∧ ¬ (kind' = kind ∧ sid' = sid) := by
  rw [← registered_forget h]
  simp only [Registered, dropStream, registry_sendCancel, registry_unhook, registry_updateStream]

/-! ## Operations on one stream object -/

/-- No stream object but one is touched or registered differently. -/
structure OnlyStream (sid : Nat) (t t' : StreamTable) : Prop where
  streams : ∀ sid', sid' ≠ sid → t'.streams.get? sid' = t.streams.get? sid'
  registered : ∀ kind sid', sid' ≠ sid → (Registered t' kind sid' ↔ Registered t kind sid')

namespace OnlyStream

variable {sid : Nat}

theorem refl (t : StreamTable) : OnlyStream sid t t :=
  ⟨fun _ _ => rfl, fun _ _ _ => Iff.rfl⟩

theorem trans {t t' t'' : StreamTable} (h : OnlyStream sid t t') (h' : OnlyStream sid t' t'') :
    OnlyStream sid t t'' where
  streams sid' hne := (h'.streams sid' hne).trans (h.streams sid' hne)
  registered kind sid' hne := (h'.registered kind sid' hne).trans (h.registered kind sid' hne)

theorem updateStream (t : StreamTable) (f : Stream → Stream) :
    OnlyStream sid t (updateStream t sid f) where
  streams sid' hne := by rw [get?_updateStream, if_neg hne]
  registered kind sid' _ := by simp only [Registered, registry_updateStream]

theorem addStream {t : StreamTable} (contract : Contract) :
    OnlyStream t.nextStream t (addStream t contract) :=
  ⟨fun _ hne => Dict.get?_set_of_ne _ hne _, fun _ _ _ => Iff.rfl⟩

theorem sendRequest (t : StreamTable) (kind : StreamKind) (ticker : Option Nat) :
    OnlyStream sid t (sendRequest t kind sid ticker).1 where
  streams sid' hne := by rw [get?_sendRequest, if_neg hne]
  registered kind' sid' _ := by simp only [Registered, registry_sendRequest]

theorem register {t : StreamTable} {kind : StreamKind} {key : StreamKey}
    (habsent : (t.registry kind).get? key = none) (n : Int) :
    OnlyStream sid t (addLines (register t kind key sid) n) where
  streams _ _ := rfl
  registered kind' sid' hne := by
    rw [registered_register habsent]
    simp [hne]

theorem dropStream {t : StreamTable} (h : KeyedInv t) (kind : StreamKind) :
    OnlyStream sid t (dropStream t kind sid) where
  streams sid' hne := by rw [get?_dropStream, if_neg hne]
  registered kind' sid' hne := by
    rw [registered_dropStream h]
    simp [hne]

theorem dropTrades {t : StreamTable} (h : KeyedInv t) : OnlyStream sid t (dropTrades t sid) := by
  unfold Ib.dropTrades
  split_ifs
  · refine ⟨fun sid' hne => ?_, fun kind' sid' hne => ?_⟩
    · simp only [streams_sendCancel, get?_unhook, if_neg hne, streams_forget]
    · simp only [Registered, registry_sendCancel, registry_unhook]
      have hforget := registered_forget h .trades kind' sid sid'
      simpa [Registered, hne] using hforget
  · exact refl t

theorem releaseDepth {t : StreamTable} (h : KeyedInv t) (loop : Bool) :
    OnlyStream sid t (releaseDepth t sid loop) := by
  have hrefs : OnlyStream sid t (Ib.updateStream t sid fun s => { s with refs := s.refs - 1 }) :=
    updateStream t _
  have hkeyed : KeyedInv (Ib.updateStream t sid fun s => { s with refs := s.refs - 1 }) :=
    h.frame (.updateStream t sid _ fun _ => rfl)
  unfold Ib.releaseDepth
  dsimp only
  split_ifs
  · exact hrefs
  · exact hrefs.trans (updateStream _ _)
  · exact hrefs.trans (dropStream hkeyed .depth)

theorem releaseTrades {t : StreamTable} (h : KeyedInv t) :
    OnlyStream sid t (releaseTrades t sid) := by
  have hrefs : OnlyStream sid t (Ib.updateStream t sid fun s => { s with refs := s.refs - 1 }) :=
    updateStream t _
  have hkeyed : KeyedInv (Ib.updateStream t sid fun s => { s with refs := s.refs - 1 }) :=
    h.frame (.updateStream t sid _ fun _ => rfl)
  unfold Ib.releaseTrades
  dsimp only
  split_ifs
  · exact hrefs
  · exact hrefs.trans (dropTrades hkeyed)

end OnlyStream

/-! ## Users -/

/-- A stream object counts its `n` users, and is registered for one kind only. -/
structure RefsAt (t : StreamTable) (sid n : Nat) : Prop where
  refs : ∀ st, t.streams.get? sid = some st → st.refs = n
  absent : t.streams.get? sid = none → n = 0
  kinds : ∀ kind kind', Registered t kind sid → Registered t kind' sid → kind = kind'

/-- Moreover its idle timer runs exactly while it is registered for depth without users. -/
structure UseAt (t : StreamTable) (sid n : Nat) : Prop extends RefsAt t sid n where
  idle : ∀ st, t.streams.get? sid = some st →
    (st.idle = true ↔ n = 0 ∧ Registered t .depth sid)

/-- Every stream object counts its users. -/
def UseInv (t : StreamTable) (users : Nat → Nat) : Prop :=
  ∀ sid, UseAt t sid (users sid)

theorem useInv_init : UseInv .init fun _ => 0 := by
  intro sid
  refine ⟨⟨fun st hst => ?_, fun _ => rfl, fun kind kind' hkind => ?_⟩, fun st hst => ?_⟩
  · cases hst
  · obtain ⟨key, hkey⟩ := hkind
    cases hkey
  · cases hst

/-- An operation on another stream object. -/
theorem UseAt.only {t t' : StreamTable} {sid sid' n : Nat} (h : UseAt t sid' n)
    (honly : OnlyStream sid t t') (hne : sid' ≠ sid) : UseAt t' sid' n where
  refs st hst := h.refs st ((honly.streams sid' hne).symm.trans hst)
  absent hnone := h.absent ((honly.streams sid' hne).symm.trans hnone)
  kinds kind kind' hkind hkind' := h.kinds kind kind' ((honly.registered kind sid' hne).1 hkind)
    ((honly.registered kind' sid' hne).1 hkind')
  idle st hst := by
    rw [h.idle st ((honly.streams sid' hne).symm.trans hst), honly.registered .depth sid' hne]

/-- An operation on one stream object, which changes its number of users. -/
theorem UseInv.only {t t' : StreamTable} {users users' : Nat → Nat} {sid : Nat}
    (h : UseInv t users) (honly : OnlyStream sid t t') (hself : UseAt t' sid (users' sid))
    (husers : ∀ sid', sid' ≠ sid → users' sid' = users sid') : UseInv t' users' := by
  intro sid'
  by_cases heq : sid' = sid
  · exact heq ▸ hself
  · rw [husers sid' heq]
    exact (h sid').only honly heq

/-! ## Operations that change no use -/

/-- Reference count and idle timer of a stream. -/
def Stream.use (st : Stream) : Int × Bool :=
  (st.refs, st.idle)

theorem use_foldl_applyDepthTick (ticks : List DepthTick) (st : Stream) :
    (ticks.foldl applyDepthTick st).use = st.use :=
  foldl_applyDepthTick (fun _ _ _ => rfl) ticks st

/-- Registries, reference counts and idle timers are the same. -/
structure UseSame (t t' : StreamTable) : Prop where
  registry : t'.registry = t.registry
  use : ∀ sid, (t'.streams.get? sid).map Stream.use = (t.streams.get? sid).map Stream.use

namespace UseSame

theorem refl (t : StreamTable) : UseSame t t :=
  ⟨rfl, fun _ => rfl⟩

theorem trans {t t' t'' : StreamTable} (h : UseSame t t') (h' : UseSame t' t'') :
    UseSame t t'' :=
  ⟨h'.registry.trans h.registry, fun sid => (h'.use sid).trans (h.use sid)⟩

theorem foldl {α : Type} {f : StreamTable → α → StreamTable}
    (hf : ∀ t x, UseSame t (f t x)) (xs : List α) (t : StreamTable) :
    UseSame t (xs.foldl f t) := by
  induction xs generalizing t with
  | nil => exact refl t
  | cons x xs ih => exact (hf t x).trans (ih (f t x))

theorem updateStream (t : StreamTable) (sid : Nat) (f : Stream → Stream)
    (hf : ∀ st, (f st).use = st.use) : UseSame t (updateStream t sid f) := by
  refine ⟨registry_updateStream t sid f, fun sid' => ?_⟩
  rw [get?_updateStream]
  split_ifs with heq
  · rw [heq, Option.map_map]
    exact congrArg (Option.map · _) (funext hf)
  · rfl

theorem sendCancel (t : StreamTable) (kind : StreamKind) (sid : Nat) :
    UseSame t (sendCancel t kind sid) :=
  ⟨registry_sendCancel t kind sid, fun sid' => by rw [streams_sendCancel]⟩

theorem unhook (t : StreamTable) (kind : StreamKind) (sid : Nat) :
    UseSame t (unhook t kind sid) := by
  refine ⟨registry_unhook t kind sid, fun sid' => ?_⟩
  rw [get?_unhook]
  split_ifs with heq
  · rw [heq, Option.map_map]
    rfl
  · rfl

theorem sendRequest (t : StreamTable) (kind : StreamKind) (sid : Nat) (ticker : Option Nat) :
    UseSame t (sendRequest t kind sid ticker).1 := by
  refine ⟨registry_sendRequest t kind sid ticker, fun sid' => ?_⟩
  rw [get?_sendRequest]
  split_ifs with heq
  · rw [heq, Option.map_map]
    cases ticker <;> rfl
  · rfl

theorem resubscribeOne (kind : StreamKind) (cancelOld : Bool) (t : StreamTable) (sid : Nat)
    (answer : IbAnswer) : UseSame t (resubscribeOne kind cancelOld t sid answer) := by
  apply resubscribeOne_invariant (P := UseSame t)
  · exact fun _ h => h.trans (unhook _ kind sid)
  · exact fun _ h => h.trans (updateStream _ sid _ fun _ => rfl)
  · exact fun _ h => h.trans (sendCancel _ kind sid)
  · exact fun _ ticker h => h.trans (sendRequest _ kind sid ticker)
  · exact refl t

theorem resubscribeAll (cancelOld : Bool) (answers : Nat → IbAnswer) (t : StreamTable) :
    UseSame t (resubscribeAll cancelOld answers t) :=
  foldl (fun _ kind => foldl (fun t sid => resubscribeOne kind cancelOld t sid (answers sid)) _ _)
    _ t

theorem clearDepthBooks (t : StreamTable) : UseSame t (clearDepthBooks t) :=
  foldl (fun t sid => updateStream t sid (fun s => { s with bids := [], asks := [] }) fun _ => rfl)
    _ t

theorem registered {t t' : StreamTable} (h : UseSame t t') (kind : StreamKind) (sid : Nat) :
    Registered t' kind sid ↔ Registered t kind sid := by
  simp only [Registered, h.registry]

end UseSame

theorem RefsAt.same {t t' : StreamTable} {sid n : Nat} (h : RefsAt t sid n)
    (hsame : UseSame t t') : RefsAt t' sid n where
  refs st hst := by
    have huse := hsame.use sid
    rw [hst] at huse
    obtain ⟨st', hst', heq⟩ := Option.map_eq_some_iff.1 huse.symm
    exact (congrArg Prod.fst heq).symm.trans (h.refs st' hst')
  absent hnone := by
    have huse := hsame.use sid
    rw [hnone] at huse
    exact h.absent (Option.map_eq_none_iff.1 huse.symm)
  kinds kind kind' hkind hkind' :=
    h.kinds kind kind' ((hsame.registered kind sid).1 hkind) ((hsame.registered kind' sid).1 hkind')

theorem UseAt.same {t t' : StreamTable} {sid n : Nat} (h : UseAt t sid n)
    (hsame : UseSame t t') : UseAt t' sid n where
  toRefsAt := h.toRefsAt.same hsame
  idle st hst := by
    have huse := hsame.use sid
    rw [hst] at huse
    obtain ⟨st', hst', heq⟩ := Option.map_eq_some_iff.1 huse.symm
    have hidle : st'.idle = st.idle := congrArg Prod.snd heq
    rw [← hidle, h.idle st' hst', hsame.registered]

theorem UseInv.same {t t' : StreamTable} {users : Nat → Nat} (h : UseInv t users)
    (hsame : UseSame t t') : UseInv t' users :=
  fun sid => (h sid).same hsame

/-! ## Opening and holding -/

/-- A found or newly opened stream, before it is held. -/
structure Found (t t' : StreamTable) (users : Nat → Nat) (kind : StreamKind) (sid : Nat) :
    Prop where
  only : OnlyStream sid t t'
  next : t.nextStream ≤ t'.nextStream
  known : sid < t.nextStream → Registered t kind sid
  refs : RefsAt t' sid (users sid)
  registered : Registered t' kind sid
  idle : kind ≠ .depth → UseAt t' sid (users sid)

/-- No stream was found and none opened. -/
structure Refused (t t' : StreamTable) (users : Nat → Nat) : Prop where
  use : UseInv t' users
  next : t.nextStream ≤ t'.nextStream
  registered : ∀ kind sid, Registered t' kind sid ↔ Registered t kind sid

theorem streams_nextStream {t : StreamTable} (h : KeyedInv t) :
    t.streams.get? t.nextStream = none := by
  cases hnext : t.streams.get? t.nextStream with
  | none => rfl
  | some st =>
      have hlt := h.fresh t.nextStream (streamKey st.contract) (by simp [keyOf, hnext])
      exact absurd hlt (Nat.lt_irrefl _)

theorem not_registered_nextStream {t : StreamTable} (h : KeyedInv t) (kind : StreamKind) :
    ¬ Registered t kind t.nextStream := by
  rintro ⟨key, hkey⟩
  exact Nat.lt_irrefl _ (h.fresh t.nextStream key (h.registered kind key _ hkey))

/-- A new stream object is not registered and has no users. -/
theorem useInv_addStream {t : StreamTable} {users : Nat → Nat} (h : UseInv t users)
    (hkeyed : KeyedInv t) (contract : Contract) : UseInv (addStream t contract) users := by
  have hzero := (h t.nextStream).absent (streams_nextStream hkeyed)
  have hunregistered : ∀ kind, ¬ Registered (addStream t contract) kind t.nextStream :=
    not_registered_nextStream hkeyed
  refine h.only (.addStream contract) ?_ fun _ _ => rfl
  rw [hzero]
  refine ⟨⟨fun st hst => ?_, fun _ => rfl, fun kind _ hkind => absurd hkind (hunregistered kind)⟩,
    fun st hst => ?_⟩
  · cases (Dict.get?_set_self _ _ _).symm.trans hst
    rfl
  · cases (Dict.get?_set_self _ _ _).symm.trans hst
    simp [Stream.new, hunregistered .depth]

/-- A new stream is registered beside the others. -/
theorem registered_registerNew {t : StreamTable} {kind : StreamKind} {contract : Contract}
    (habsent : (t.registry kind).get? (streamKey contract) = none) (ticker : Option Nat)
    (kind' : StreamKind) (sid : Nat) :
    Registered (registerNew t kind contract ticker) kind' sid ↔
      Registered t kind' sid ∨ (kind' = kind ∧ sid = t.nextStream) := by
  rw [← registry_requestNew t kind contract ticker] at habsent
  unfold registerNew
  rw [registered_register habsent]
  simp only [Registered, registry_requestNew]

/-- A stream is opened under a free key. -/
theorem openStream_found {cap : Nat} {t t' : StreamTable} {users : Nat → Nat}
    {kind : StreamKind} {contract : Contract} {ticker : Option Nat} {sid : Nat}
    (h : UseInv t users) (hkeyed : KeyedInv t)
    (habsent : (t.registry kind).get? (streamKey contract) = none)
    (hopen : openStream cap t kind contract ticker = (t', some sid)) :
    Found t t' users kind sid := by
  have hadded := useInv_addStream h hkeyed contract
  have hsent : UseInv (requestNew t kind contract ticker) users :=
    hadded.same (.sendRequest (addStream t contract) kind t.nextStream ticker)
  have honly : OnlyStream t.nextStream t (requestNew t kind contract ticker) :=
    (OnlyStream.addStream contract).trans (.sendRequest _ kind ticker)
  have habsent' : ((requestNew t kind contract ticker).registry kind).get? (streamKey contract) =
      none := by
    rw [registry_requestNew]
    exact habsent
  have hnext : t.nextStream ≤ (requestNew t kind contract ticker).nextStream := by
    have hsame : (requestNew t kind contract ticker).nextStream = t.nextStream + 1 :=
      (StreamFrame.requestNew t kind contract ticker).next
    omega
  rw [openStream_eq] at hopen
  split_ifs at hopen <;> cases hopen
  have hnot := not_registered_nextStream hkeyed
  have hreg : ∀ kind', Registered (registerNew t kind contract ticker) kind' t.nextStream ↔
      kind' = kind := by
    intro kind'
    rw [registered_registerNew habsent]
    simp [hnot kind']
  have hrefs : RefsAt (registerNew t kind contract ticker) t.nextStream (users t.nextStream) :=
    ⟨(hsent t.nextStream).refs, (hsent t.nextStream).absent,
      fun k k' hk hk' => ((hreg k).1 hk).trans ((hreg k').1 hk').symm⟩
  refine ⟨honly.trans (.register habsent' 1), hnext, fun hlt => absurd hlt (Nat.lt_irrefl _),
    hrefs, (hreg kind).2 rfl, fun hdepth => ⟨hrefs, fun st hst => ?_⟩⟩
  have hunregistered : ¬ Registered (requestNew t kind contract ticker) .depth t.nextStream := by
    simpa only [Registered, registry_requestNew] using hnot .depth
  rw [(hsent t.nextStream).idle st hst, hreg]
  simp [hunregistered, Ne.symm hdepth]

theorem openStream_refused {cap : Nat} {t t' : StreamTable} {users : Nat → Nat}
    {kind : StreamKind} {contract : Contract} {ticker : Option Nat} (h : UseInv t users)
    (hkeyed : KeyedInv t) (hopen : openStream cap t kind contract ticker = (t', none)) :
    Refused t t' users := by
  have hsame : UseSame (addStream t contract) (requestNew t kind contract ticker) :=
    .sendRequest (addStream t contract) kind t.nextStream ticker
  rw [openStream_eq] at hopen
  split_ifs at hopen <;> cases hopen
  · exact ⟨h, Nat.le_refl _, fun _ _ => Iff.rfl⟩
  · refine ⟨(useInv_addStream h hkeyed contract).same hsame, ?_, fun kind' sid => ?_⟩
    · have hnext : (requestNew t kind contract ticker).nextStream = t.nextStream + 1 :=
        (StreamFrame.requestNew t kind contract ticker).next
      omega
    · rw [hsame.registered]
      exact Iff.rfl

theorem findOrOpen_found {cap : Nat} {t t' : StreamTable} {users : Nat → Nat}
    {kind : StreamKind} {contract : Contract} {ticker : Option Nat} {sid : Nat}
    (h : UseInv t users) (hkeyed : KeyedInv t)
    (hfind : findOrOpen cap t kind contract ticker = (t', some sid)) :
    Found t t' users kind sid := by
  unfold findOrOpen at hfind
  cases habsent : (t.registry kind).get? (streamKey contract) with
  | none =>
      rw [habsent] at hfind
      exact openStream_found h hkeyed habsent hfind
  | some sid' =>
      rw [habsent] at hfind
      cases hfind
      exact ⟨.refl t, Nat.le_refl _, fun _ => ⟨_, habsent⟩, (h _).toRefsAt, ⟨_, habsent⟩,
        fun _ => h _⟩

theorem findOrOpen_refused {cap : Nat} {t t' : StreamTable} {users : Nat → Nat}
    {kind : StreamKind} {contract : Contract} {ticker : Option Nat} (h : UseInv t users)
    (hkeyed : KeyedInv t) (hfind : findOrOpen cap t kind contract ticker = (t', none)) :
    Refused t t' users := by
  unfold findOrOpen at hfind
  cases habsent : (t.registry kind).get? (streamKey contract) with
  | none =>
      rw [habsent] at hfind
      exact openStream_refused h hkeyed hfind
  | some sid' =>
      rw [habsent] at hfind
      cases hfind

/-- One user more of a stream, without an idle timer. -/
theorem RefsAt.hold {t : StreamTable} {sid n : Nat} (h : RefsAt t sid n) (hkeyed : KeyedInv t)
    {kind : StreamKind} (hreg : Registered t kind sid) {f : Stream → Stream}
    (hf : ∀ st, t.streams.get? sid = some st → (f st).use = (st.refs + 1, false)) :
    UseAt (updateStream t sid f) sid (n + 1) := by
  obtain ⟨key, hkey⟩ := hreg
  obtain ⟨st₀, hst₀, -⟩ := Option.map_eq_some_iff.1 (hkeyed.registered kind key sid hkey)
  have hself : (updateStream t sid f).streams.get? sid = some (f st₀) := by
    rw [get?_updateStream, if_pos rfl, hst₀]
    rfl
  have huse := hf st₀ hst₀
  have hrefs : (f st₀).refs = st₀.refs + 1 := congrArg Prod.fst huse
  have hidle : (f st₀).idle = false := congrArg Prod.snd huse
  refine ⟨⟨fun st hst => ?_, fun hnone => ?_, ?_⟩, fun st hst => ?_⟩
  · cases hself.symm.trans hst
    have hcount := h.refs st₀ hst₀
    omega
  · rw [hself] at hnone
    cases hnone
  · simpa only [Registered, registry_updateStream] using h.kinds
  · cases hself.symm.trans hst
    simp [hidle]

/-- What holding a stream does. -/
structure Held (t t' : StreamTable) (users : Nat → Nat) (kind : StreamKind) (sid : Nat) :
    Prop where
  only : OnlyStream sid t t'
  next : t.nextStream ≤ t'.nextStream
  known : sid < t.nextStream → Registered t kind sid
  use : UseAt t' sid (users sid + 1)
  registered : Registered t' kind sid

theorem acquireDepth_held {cap : Nat} {t t' : StreamTable} {users : Nat → Nat}
    {contract : Contract} {ticker : Option Nat} {sid : Nat} (h : UseInv t users)
    (hkeyed : KeyedInv t) (hacquire : acquireDepth cap t contract ticker = (t', some sid)) :
    Held t t' users .depth sid := by
  have hkeyed' := hkeyed.findOrOpen cap .depth contract ticker
  unfold acquireDepth at hacquire
  rcases hfind : findOrOpen cap t .depth contract ticker with ⟨t₁, none | sid₁⟩
  · rw [hfind] at hacquire
    cases hacquire
  · rw [hfind] at hacquire hkeyed'
    cases hacquire
    have hfound := findOrOpen_found h hkeyed hfind
    refine ⟨hfound.only.trans (.updateStream _ _), ?_, hfound.known, ?_, ?_⟩
    · rw [nextStream_updateStream]
      exact hfound.next
    · exact hfound.refs.hold hkeyed' hfound.registered fun _ _ => rfl
    · simpa only [Registered, registry_updateStream] using hfound.registered

theorem acquireTrades_held {cap : Nat} {t t' : StreamTable} {users : Nat → Nat}
    {contract : Contract} {ticker : Option Nat} {sid : Nat} (h : UseInv t users)
    (hkeyed : KeyedInv t) (hacquire : acquireTrades cap t contract ticker = (t', some sid)) :
    Held t t' users .trades sid := by
  have hkeyed' := hkeyed.findOrOpen cap .trades contract ticker
  unfold acquireTrades at hacquire
  rcases hfind : findOrOpen cap t .trades contract ticker with ⟨t₁, none | sid₁⟩
  · rw [hfind] at hacquire
    cases hacquire
  · rw [hfind] at hacquire hkeyed'
    cases hacquire
    have hfound := findOrOpen_found h hkeyed hfind
    -- a trades stream has no idle timer
    have hno : ¬ Registered t₁ .depth sid := fun hdepth =>
      absurd (hfound.refs.kinds _ _ hdepth hfound.registered) (by simp)
    have hidle : ∀ st, t₁.streams.get? sid = some st → st.idle = false := by
      intro st hst
      rw [Bool.eq_false_iff]
      exact fun htimer => hno (((hfound.idle (by simp)).idle st hst).1 htimer).2
    refine ⟨hfound.only.trans (.updateStream _ _), ?_, hfound.known, ?_, ?_⟩
    · rw [nextStream_updateStream]
      exact hfound.next
    · exact hfound.refs.hold hkeyed' hfound.registered fun st hst => by
        simp [Stream.use, hidle st hst]
    · simpa only [Registered, registry_updateStream] using hfound.registered

theorem acquireDepth_refused {cap : Nat} {t t' : StreamTable} {users : Nat → Nat}
    {contract : Contract} {ticker : Option Nat} (h : UseInv t users) (hkeyed : KeyedInv t)
    (hacquire : acquireDepth cap t contract ticker = (t', none)) : Refused t t' users := by
  unfold acquireDepth at hacquire
  rcases hfind : findOrOpen cap t .depth contract ticker with ⟨t₁, none | sid₁⟩
  · rw [hfind] at hacquire
    cases hacquire
    exact findOrOpen_refused h hkeyed hfind
  · rw [hfind] at hacquire
    cases hacquire

theorem acquireTrades_refused {cap : Nat} {t t' : StreamTable} {users : Nat → Nat}
    {contract : Contract} {ticker : Option Nat} (h : UseInv t users) (hkeyed : KeyedInv t)
    (hacquire : acquireTrades cap t contract ticker = (t', none)) : Refused t t' users := by
  unfold acquireTrades at hacquire
  rcases hfind : findOrOpen cap t .trades contract ticker with ⟨t₁, none | sid₁⟩
  · rw [hfind] at hacquire
    cases hacquire
    exact findOrOpen_refused h hkeyed hfind
  · rw [hfind] at hacquire
    cases hacquire

/-! ## Dropping and releasing -/

/-- A dropped stream keeps its users and has no idle timer. -/
theorem RefsAt.dropStream {t : StreamTable} {sid n : Nat} (h : RefsAt t sid n)
    (hkeyed : KeyedInv t) {kind : StreamKind}
    (hkind : kind = .depth ∨ ¬ Registered t .depth sid) : UseAt (dropStream t kind sid) sid n := by
  have hself := get?_dropStream t kind sid sid
  rw [if_pos rfl] at hself
  have hno : ¬ Registered (Ib.dropStream t kind sid) .depth sid := by
    rw [registered_dropStream hkeyed]
    rintro ⟨hreg, hother⟩
    rcases hkind with rfl | hnot
    · exact hother ⟨rfl, rfl⟩
    · exact hnot hreg
  refine ⟨⟨fun st hst => ?_, fun hnone => ?_, fun k k' hk hk' => ?_⟩, fun st hst => ?_⟩
  · rw [hself] at hst
    obtain ⟨st₀, hst₀, rfl⟩ := Option.map_eq_some_iff.1 hst
    exact h.refs st₀ hst₀
  · rw [hself] at hnone
    exact h.absent (Option.map_eq_none_iff.1 hnone)
  · rw [registered_dropStream hkeyed] at hk hk'
    exact h.kinds k k' hk.1 hk'.1
  · rw [hself] at hst
    obtain ⟨st₀, hst₀, rfl⟩ := Option.map_eq_some_iff.1 hst
    simp [hno]

theorem UseInv.dropStream {t : StreamTable} {users : Nat → Nat} (h : UseInv t users)
    (hkeyed : KeyedInv t) {kind : StreamKind} {sid : Nat}
    (hkind : kind = .depth ∨ ¬ Registered t .depth sid) :
    UseInv (dropStream t kind sid) users :=
  h.only (.dropStream hkeyed kind) ((h sid).toRefsAt.dropStream hkeyed hkind) fun _ _ => rfl

/-- A trades stream that is dropped keeps its users. -/
theorem UseAt.dropTrades {t : StreamTable} {sid n : Nat} (h : UseAt t sid n)
    (hkeyed : KeyedInv t) : UseAt (dropTrades t sid) sid n := by
  unfold Ib.dropTrades
  split_ifs with hreg
  · have hno : ¬ Registered t .depth sid := fun hdepth =>
      absurd (h.kinds _ _ hdepth ((isRegistered_iff hkeyed).1 hreg)) (by simp)
    have hforget : UseAt (forget t .trades sid) sid n := by
      have hregistered := fun kind => registered_forget hkeyed .trades kind sid sid
      refine ⟨⟨fun st hst => ?_, fun hnone => ?_, fun k k' hk hk' => ?_⟩, fun st hst => ?_⟩
      · rw [streams_forget] at hst
        exact h.refs st hst
      · rw [streams_forget] at hnone
        exact h.absent hnone
      · exact h.kinds k k' ((hregistered k).1 hk).1 ((hregistered k').1 hk').1
      · rw [streams_forget] at hst
        rw [h.idle st hst, hregistered]
        simp [hno]
    exact hforget.same ((UseSame.unhook _ .trades sid).trans (.sendCancel _ .trades sid))
  · exact h

theorem UseInv.dropTrades {t : StreamTable} {users : Nat → Nat} (h : UseInv t users)
    (hkeyed : KeyedInv t) (sid : Nat) : UseInv (dropTrades t sid) users :=
  h.only (.dropTrades hkeyed) ((h sid).dropTrades hkeyed) fun _ _ => rfl

/-- A stream with a user more than `n`: one of them leaves. -/
theorem UseAt.leave {t : StreamTable} {sid n : Nat} (h : UseAt t sid (n + 1)) :
    ∃ st, t.streams.get? sid = some st ∧ st.idle = false ∧
      (updateStream t sid fun s => { s with refs := s.refs - 1 }).streams.get? sid =
        some { st with refs := n } ∧
      RefsAt (updateStream t sid fun s => { s with refs := s.refs - 1 }) sid n := by
  cases hst : t.streams.get? sid with
  | none => exact absurd (h.absent hst) (Nat.succ_ne_zero n)
  | some st =>
      have hrefs := h.refs st hst
      have hidle : st.idle = false := by
        rw [Bool.eq_false_iff]
        exact fun htimer => Nat.succ_ne_zero n ((h.idle st hst).1 htimer).1
      have hself : (updateStream t sid fun s => { s with refs := s.refs - 1 }).streams.get? sid =
          some { st with refs := n } := by
        rw [get?_updateStream, if_pos rfl, hst, Option.map_some]
        have hcount : st.refs - 1 = n := by omega
        rw [hcount]
      refine ⟨st, rfl, hidle, hself, fun st' hst' => ?_, fun hnone => ?_, ?_⟩
      · cases hself.symm.trans hst'
        rfl
      · rw [hself] at hnone
        cases hnone
      · simpa only [Registered, registry_updateStream] using h.kinds

/-- A user of a depth stream leaves: the last one arms the idle timer, or drops the stream. -/
theorem UseAt.releaseDepth {t : StreamTable} {sid n : Nat} (h : UseAt t sid (n + 1))
    (hkeyed : KeyedInv t) (loop : Bool) : UseAt (releaseDepth t sid loop) sid n := by
  obtain ⟨st, hst, hidle, hself, hleft⟩ := h.leave
  have hkeyed' : KeyedInv (updateStream t sid fun s => { s with refs := s.refs - 1 }) :=
    hkeyed.frame (.updateStream t sid _ fun _ => rfl)
  unfold Ib.releaseDepth
  simp only [hself, Option.map_some, Option.getD_some]
  split_ifs with hstays hloop
  · refine ⟨hleft, fun st' hst' => ?_⟩
    cases hself.symm.trans hst'
    simp only [Bool.or_eq_true, decide_eq_true_eq, Bool.not_eq_true'] at hstays
    simp only [hidle, Bool.false_eq_true, false_iff, not_and]
    rintro rfl hreg
    rw [← isRegistered_iff hkeyed'] at hreg
    simp [hreg] at hstays
  · -- the idle timer is armed
    simp only [Bool.or_eq_true, decide_eq_true_eq, Bool.not_eq_true', not_or, Bool.not_eq_false,
      isRegistered_iff hkeyed'] at hstays
    have harmed : (updateStream (updateStream t sid fun s => { s with refs := s.refs - 1 }) sid
        fun s => { s with idle := true }).streams.get? sid =
          some { st with refs := n, idle := true } := by
      rw [get?_updateStream, if_pos rfl, hself]
      rfl
    refine ⟨⟨fun st' hst' => ?_, fun hnone => ?_, ?_⟩, fun st' hst' => ?_⟩
    · cases harmed.symm.trans hst'
      rfl
    · rw [harmed] at hnone
      cases hnone
    · simpa only [Registered, registry_updateStream] using hleft.kinds
    · cases harmed.symm.trans hst'
      have hzero : n = 0 := by omega
      have hreg := hstays.2
      simp only [Registered, registry_updateStream] at hreg ⊢
      simp [hzero, hreg]
  · exact hleft.dropStream hkeyed' (Or.inl rfl)

/-- A user of a trades stream leaves: the last one drops it. -/
theorem UseAt.releaseTrades {t : StreamTable} {sid n : Nat} (h : UseAt t sid (n + 1))
    (hkeyed : KeyedInv t) (hno : ¬ Registered t .depth sid) :
    UseAt (releaseTrades t sid) sid n := by
  obtain ⟨st, hst, hidle, hself, hleft⟩ := h.leave
  have hkeyed' : KeyedInv (updateStream t sid fun s => { s with refs := s.refs - 1 }) :=
    hkeyed.frame (.updateStream t sid _ fun _ => rfl)
  have hno' :
      ¬ Registered (updateStream t sid fun s => { s with refs := s.refs - 1 }) .depth sid := by
    simpa only [Registered, registry_updateStream] using hno
  have huse : UseAt (updateStream t sid fun s => { s with refs := s.refs - 1 }) sid n := by
    refine ⟨hleft, fun st' hst' => ?_⟩
    cases hself.symm.trans hst'
    simp [hidle, hno']
  unfold Ib.releaseTrades
  dsimp only
  split_ifs
  · exact huse
  · exact huse.dropTrades hkeyed'

/-- The users of one stream object, one less. -/
structure OneLess (sid : Nat) (users users' : Nat → Nat) : Prop where
  self : users sid = users' sid + 1
  other : ∀ sid', sid' ≠ sid → users' sid' = users sid'

theorem UseInv.releaseDepth {t : StreamTable} {users users' : Nat → Nat} {sid : Nat}
    (h : UseInv t users) (hkeyed : KeyedInv t) (hless : OneLess sid users users') (loop : Bool) :
    UseInv (releaseDepth t sid loop) users' := by
  have hself := h sid
  rw [hless.self] at hself
  exact h.only (.releaseDepth hkeyed loop) (hself.releaseDepth hkeyed loop) hless.other

theorem UseInv.releaseTrades {t : StreamTable} {users users' : Nat → Nat} {sid : Nat}
    (h : UseInv t users) (hkeyed : KeyedInv t) (hless : OneLess sid users users')
    (hno : ¬ Registered t .depth sid) : UseInv (releaseTrades t sid) users' := by
  have hself := h sid
  rw [hless.self] at hself
  exact h.only (.releaseTrades hkeyed) (hself.releaseTrades hkeyed hno) hless.other

/-- The idle timer drops an unused stream. -/
theorem UseAt.idleExpired {t : StreamTable} {sid n : Nat} (h : UseAt t sid n)
    (hkeyed : KeyedInv t) : UseAt (idleExpired t sid) sid n := by
  have hkeyed' : KeyedInv (updateStream t sid fun s => { s with idle := false }) :=
    hkeyed.frame (.updateStream t sid _ fun _ => rfl)
  have hself := get?_updateStream t sid sid fun s => { s with idle := false }
  rw [if_pos rfl] at hself
  have hrefs : RefsAt (updateStream t sid fun s => { s with idle := false }) sid n := by
    refine ⟨fun st hst => ?_, fun hnone => ?_, ?_⟩
    · rw [hself] at hst
      obtain ⟨st₀, hst₀, rfl⟩ := Option.map_eq_some_iff.1 hst
      exact h.refs st₀ hst₀
    · rw [hself] at hnone
      exact h.absent (Option.map_eq_none_iff.1 hnone)
    · simpa only [Registered, registry_updateStream] using h.kinds
  unfold Ib.idleExpired
  dsimp only
  split_ifs with hdrops
  · exact hrefs.dropStream hkeyed' (Or.inl rfl)
  · refine ⟨hrefs, fun st hst => ?_⟩
    have hcount := hrefs.refs st hst
    rw [hst] at hself hdrops
    obtain ⟨st₀, -, rfl⟩ := Option.map_eq_some_iff.1 hself.symm
    simp only [Bool.false_eq_true, false_iff, not_and]
    rintro rfl hreg
    apply hdrops
    have hunused : st₀.refs ≤ 0 := Int.le_of_eq hcount
    simp [(isRegistered_iff hkeyed').2 hreg, hunused]

theorem OnlyStream.idleExpired {t : StreamTable} {sid : Nat} (hkeyed : KeyedInv t) :
    OnlyStream sid t (idleExpired t sid) := by
  have hidle : OnlyStream sid t (Ib.updateStream t sid fun s => { s with idle := false }) :=
    updateStream t _
  have hkeyed' : KeyedInv (Ib.updateStream t sid fun s => { s with idle := false }) :=
    hkeyed.frame (.updateStream t sid _ fun _ => rfl)
  unfold Ib.idleExpired
  dsimp only
  split_ifs
  · exact hidle.trans (.dropStream hkeyed' .depth)
  · exact hidle

theorem UseInv.idleExpired {t : StreamTable} {users : Nat → Nat} (h : UseInv t users)
    (hkeyed : KeyedInv t) (sid : Nat) : UseInv (idleExpired t sid) users :=
  h.only (.idleExpired hkeyed) ((h sid).idleExpired hkeyed) fun _ _ => rfl

/-! ## All streams -/

/-- Objects are dropped one after the other. -/
theorem UseInv.foldl {f : StreamTable → Nat → StreamTable} {ok : StreamTable → Nat → Prop}
    {users : Nat → Nat} (hframe : ∀ t sid, StreamFrame t (f t sid))
    (hok : ∀ t t' sid, StreamFrame t t' → ok t sid → ok t' sid)
    (hf : ∀ t sid, KeyedInv t → UseInv t users → ok t sid → UseInv (f t sid) users)
    {sids : List Nat} {t : StreamTable} (hkeyed : KeyedInv t) (h : UseInv t users)
    (hall : ∀ sid ∈ sids, ok t sid) : UseInv (sids.foldl f t) users := by
  induction sids generalizing t with
  | nil => exact h
  | cons sid sids ih =>
      rw [List.forall_mem_cons] at hall
      exact ih (hkeyed.frame (hframe t sid)) (hf t sid hkeyed h hall.1)
        fun sid' hsid' => hok t _ sid' (hframe t sid) (hall.2 sid' hsid')

theorem mem_registry_values {t : StreamTable} {kind : StreamKind} {sid : Nat} :
    sid ∈ (t.registry kind).values ↔ Registered t kind sid := by
  constructor
  · intro hsid
    obtain ⟨entry, hentry, rfl⟩ := List.mem_map.1 hsid
    exact ⟨entry.1, (t.registry kind).mem_entries_iff.1 hentry⟩
  · rintro ⟨key, hkey⟩
    exact List.mem_map.2 ⟨_, (t.registry kind).mem_entries_iff.2 hkey, rfl⟩

/-- Every stream is released. -/
theorem UseInv.releaseAll {t : StreamTable} {users : Nat → Nat} (h : UseInv t users)
    (hkeyed : KeyedInv t) : UseInv (releaseAll t) users := by
  have hother : ∀ sid ∈ (t.registry .l1).values, ¬ Registered t .depth sid := by
    intro sid hsid hdepth
    exact absurd ((h sid).kinds _ _ (mem_registry_values.1 hsid) hdepth) (by simp)
  have hok : ∀ t t' sid, StreamFrame t t' → ¬ Registered t .depth sid →
      ¬ Registered t' .depth sid := fun _ _ _ hframe hno hreg => hno (hframe.registered hreg)
  have hframe : ∀ (kind : StreamKind) (t : StreamTable) (sid : Nat),
      StreamFrame t (Ib.dropStream t kind sid) := fun kind t sid => .dropStream t kind sid
  have hl1 : UseInv ((t.registry .l1).values.foldl (fun t sid => Ib.dropStream t .l1 sid) t)
      users :=
    .foldl (hframe .l1) hok (fun t sid hkeyed h hno => h.dropStream hkeyed (Or.inr hno)) hkeyed h
      hother
  have hkeyed₁ := hkeyed.frame (StreamFrame.foldl (hframe .l1) (t.registry .l1).values t)
  revert hl1 hkeyed₁
  unfold Ib.releaseAll
  dsimp only
  generalize (t.registry .l1).values.foldl (fun t sid => Ib.dropStream t .l1 sid) t = t₁
  intro hl1 hkeyed₁
  have htrue : ∀ t t' (sid : Nat), StreamFrame t t' → True → True := fun _ _ _ _ _ => trivial
  have hdepth : UseInv ((t₁.registry .depth).values.foldl
      (fun t sid => Ib.dropStream t .depth sid) t₁) users :=
    .foldl (hframe .depth) htrue (fun t sid hkeyed h _ => h.dropStream hkeyed (Or.inl rfl))
      hkeyed₁ hl1 fun _ _ => trivial
  have hkeyed₂ := hkeyed₁.frame (StreamFrame.foldl (hframe .depth) (t₁.registry .depth).values t₁)
  exact .foldl (fun t sid => .dropTrades t sid) htrue
    (fun t sid hkeyed h _ => h.dropTrades hkeyed sid) hkeyed₂ hdepth fun _ _ => trivial

end Ib
end MarketConnector
