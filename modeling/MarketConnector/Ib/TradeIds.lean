import MarketConnector.Foundations.Dict
import MarketConnector.Foundations.PyValue
import Mathlib.Data.List.TakeWhile
import Std.Data.String.ToInt

/-!
# Ib - Synthetic trade ids

Interactive Brokers names no trade.  An id is made up from the contract, the timestamp of the
tick and a counter, kept for each contract and second.  Every tick drops the counters of the
seconds before its own, those of other contracts with them.

Main results:

- Definition `syntheticTradeId`: the id of a tick, and the counters after it.
- Definition `standing`: how many ticks a counter counts.
- Theorem `tradeIds_nodup_iff`: when the ids of a sequence of ticks are distinct.
-/

namespace MarketConnector
namespace Ib

open Foundations

/-! ## Ids -/

/-- Counters for each contract and second. -/
abbrev TickCounter := Dict (Int × Int) Nat

/-- `tick_ns // 1_000_000_000`. -/
def secondOf (tickNs : Int) : Int :=
  tickNs / 1000000000

def syntheticTradeId (tickCounter : TickCounter) (conId tickNs : Int) : TickCounter × String :=
  let second := secondOf tickNs
  let key := (conId, second)
  let count := (tickCounter.get? key).getD 0
  let counted := tickCounter.set key (count + 1)
  let stale := counted.keys.filter fun k => k.2 < second
  (counted.without stale, toString conId ++ ":" ++ toString tickNs ++ ":" ++ toString count)

/-- What a tick of `reqTickByTickData` says about itself. -/
structure TradeTick where
  conId : Int
  tickNs : Int
deriving DecidableEq

def TradeTick.second (tick : TradeTick) : Int :=
  secondOf tick.tickNs

def TradeTick.key (tick : TradeTick) : Int × Int :=
  (tick.conId, tick.second)

/-- Ids of ticks that share a counter. -/
def tradeIds : TickCounter → List TradeTick → List String
  | _, [] => []
  | tickCounter, tick :: ticks =>
      let next := syntheticTradeId tickCounter tick.conId tick.tickNs
      next.2 :: tradeIds next.1 ticks

/-! ## What the counters count -/

/-- Ticks of a contract and second since the last tick of a later second; `earlier` has the
newest tick first. -/
def standing (earlier : List TradeTick) (key : Int × Int) : Nat :=
  (earlier.takeWhile fun tick => tick.second ≤ key.2).countP fun tick => tick.key = key

/-- A counter stands for the ticks its key has seen. -/
def Counts (tickCounter : TickCounter) (earlier : List TradeTick) : Prop :=
  ∀ key, (tickCounter.get? key).getD 0 = standing earlier key

theorem counts_empty : Counts ∅ [] := by
  intro key
  rfl

theorem standing_cons (tick : TradeTick) (earlier : List TradeTick) (key : Int × Int) :
    standing (tick :: earlier) key =
      if key.2 < tick.second then 0
      else if tick.key = key then standing earlier key + 1
      else standing earlier key := by
  unfold standing
  split_ifs with hlater hkey
  · rw [List.takeWhile_cons_of_neg (by simpa using hlater)]
    rfl
  · rw [List.takeWhile_cons_of_pos (by simpa using hlater), List.countP_cons_of_pos (by simpa)]
  · rw [List.takeWhile_cons_of_pos (by simpa using hlater), List.countP_cons_of_neg (by simpa)]

/-- A tick drops the counters of the seconds before its own. -/
theorem get?_syntheticTradeId (tickCounter : TickCounter) (tick : TradeTick) (key : Int × Int) :
    (syntheticTradeId tickCounter tick.conId tick.tickNs).1.get? key =
      if key.2 < tick.second then none
      else if tick.key = key then some ((tickCounter.get? key).getD 0 + 1)
      else tickCounter.get? key := by
  have hstale : ∀ counted : TickCounter,
      (counted.without (counted.keys.filter fun k => k.2 < tick.second)).get? key =
        if key.2 < tick.second then none else counted.get? key := by
    intro counted
    rw [Dict.get?_without]
    by_cases hmem : key ∈ counted.keys
    · simp [hmem]
    · have hnone : counted.get? key = none := by
        simpa [Dict.mem_keys_iff, Dict.contains] using hmem
      simp [hnone]
  show (Dict.without _ _).get? key = _
  refine (hstale _).trans ?_
  rw [Dict.get?_set]
  by_cases hkey : tick.key = key
  · subst hkey
    simp [TradeTick.key, TradeTick.second]
  · have hne : ¬ key = (tick.conId, secondOf tick.tickNs) := fun h => hkey h.symm
    rw [if_neg hne, if_neg hkey]

theorem Counts.tick {tickCounter : TickCounter} {earlier : List TradeTick}
    (h : Counts tickCounter earlier) (tick : TradeTick) :
    Counts (syntheticTradeId tickCounter tick.conId tick.tickNs).1 (tick :: earlier) := by
  intro key
  rw [get?_syntheticTradeId, standing_cons]
  split_ifs
  · rfl
  · exact congrArg (· + 1) (h key)
  · exact h key

/-! ## The ids -/

theorem not_colon_mem_repr (n : Nat) : ':' ∉ n.repr.toList := by
  intro hmem
  have hdigit : ':' ∈ Nat.toDigits 10 n := by simpa using hmem
  exact absurd (Nat.isDigit_of_mem_toDigits (by decide) (by decide) hdigit) (by decide)

theorem not_colon_mem_toString (n : Int) : ':' ∉ (toString n).toList := by
  rw [Int.toString_eq_repr, Int.repr_eq_if]
  split
  · exact not_colon_mem_repr _
  · rw [String.toList_append, List.mem_append, not_or]
    exact ⟨by decide, not_colon_mem_repr _⟩

def TradeTick.idOf (tick : TradeTick) (count : Nat) : String :=
  toString tick.conId ++ ":" ++ toString tick.tickNs ++ ":" ++ toString count

theorem TradeTick.idOf_inj {tick tick' : TradeTick} {count count' : Nat} :
    tick.idOf count = tick'.idOf count' ↔ tick = tick' ∧ count = count' := by
  constructor
  · intro h
    have hsplit : toString tick.conId ++ ":" ++ (toString tick.tickNs ++ ":" ++ toString count) =
        toString tick'.conId ++ ":" ++ (toString tick'.tickNs ++ ":" ++ toString count') := by
      simpa only [TradeTick.idOf, String.append_assoc] using h
    obtain ⟨hcon, hrest⟩ :=
      join_colon_inj (not_colon_mem_toString _) (not_colon_mem_toString _) hsplit
    obtain ⟨hns, hcount⟩ :=
      join_colon_inj (not_colon_mem_toString _) (not_colon_mem_toString _) hrest
    have hconId : tick.conId = tick'.conId := Int.repr_injective hcon
    have htickNs : tick.tickNs = tick'.tickNs := Int.repr_injective hns
    refine ⟨?_, Nat.repr_injective hcount⟩
    cases tick
    cases tick'
    simp_all
  · rintro ⟨rfl, rfl⟩
    rfl

/-- The counter in an id is the standing of its tick. -/
theorem getElem?_tradeIds {tickCounter : TickCounter} {earlier : List TradeTick}
    (h : Counts tickCounter earlier) (ticks : List TradeTick) (i : Nat) :
    (tradeIds tickCounter ticks)[i]? =
      ticks[i]?.map fun tick =>
        tick.idOf (standing ((ticks.take i).reverse ++ earlier) tick.key) := by
  induction ticks generalizing tickCounter earlier i with
  | nil => rfl
  | cons tick ticks ih =>
      cases i with
      | zero =>
          have hcount : (tickCounter.get? tick.key).getD 0 = standing earlier tick.key :=
            h tick.key
          simp only [tradeIds, List.getElem?_cons_zero, Option.map_some, List.take_zero,
            List.reverse_nil, List.nil_append, ← hcount]
          rfl
      | succ i =>
          simp only [tradeIds, List.getElem?_cons_succ, List.take_succ_cons, List.reverse_cons,
            List.append_assoc]
          exact ih (h.tick tick) i

theorem length_tradeIds (tickCounter : TickCounter) (ticks : List TradeTick) :
    (tradeIds tickCounter ticks).length = ticks.length := by
  induction ticks generalizing tickCounter with
  | nil => rfl
  | cons tick ticks ih => simp [tradeIds, ih]

/-- Equal ticks stand at different places. -/
def StandApart (ticks : List TradeTick) : Prop :=
  ∀ (i j : Nat) (tick : TradeTick), i < j → ticks[i]? = some tick → ticks[j]? = some tick →
    standing (ticks.take i).reverse tick.key ≠ standing (ticks.take j).reverse tick.key

theorem getElem?_tradeIds_empty {ticks : List TradeTick} {i : Nat} {tick : TradeTick}
    (h : ticks[i]? = some tick) :
    (tradeIds ∅ ticks)[i]? = some (tick.idOf (standing (ticks.take i).reverse tick.key)) := by
  rw [getElem?_tradeIds counts_empty, h, List.append_nil]
  rfl

theorem StandApart.nodup {ticks : List TradeTick} (h : StandApart ticks) :
    (tradeIds ∅ ticks).Nodup := by
  rw [List.nodup_iff_getElem?_ne_getElem?]
  intro i j hij hlt heq
  rw [length_tradeIds] at hlt
  have hi : ticks[i]? = some ticks[i] := List.getElem?_eq_getElem (by omega)
  have hj : ticks[j]? = some ticks[j] := List.getElem?_eq_getElem hlt
  rw [getElem?_tradeIds_empty hi, getElem?_tradeIds_empty hj, Option.some.injEq,
    TradeTick.idOf_inj] at heq
  obtain ⟨htick, hsame⟩ := heq
  rw [← htick] at hj hsame
  exact h i j _ hij hi hj hsame

theorem standApart_of_nodup {ticks : List TradeTick} (h : (tradeIds ∅ ticks).Nodup) :
    StandApart ticks := by
  intro i j tick hij hi hj hsame
  have hlt : j < (tradeIds ∅ ticks).length := by
    rw [length_tradeIds]
    exact (List.getElem?_eq_some_iff.1 hj).1
  apply List.nodup_iff_getElem?_ne_getElem?.1 h i j hij hlt
  rw [getElem?_tradeIds_empty hi, getElem?_tradeIds_empty hj, hsame]

/-! ## Ticks that are overtaken -/

theorem standing_append_of_le {later earlier : List TradeTick} {key : Int × Int}
    (h : ∀ tick ∈ later, tick.second ≤ key.2) :
    standing (later ++ earlier) key =
      later.countP (fun tick => tick.key = key) + standing earlier key := by
  unfold standing
  rw [List.takeWhile_append_of_pos (by simpa using h), List.countP_append]

theorem standing_append_of_lt {later earlier : List TradeTick} {tick : TradeTick}
    {key : Int × Int} (h : key.2 < tick.second) :
    standing (later ++ tick :: earlier) key = standing later key := by
  induction later with
  | nil => simp [h, standing]
  | cons first later ih => rw [List.cons_append, standing_cons, standing_cons, ih]

/-- The ticks before a tick, from one of them on. -/
theorem reverse_take {ticks : List TradeTick} {tick : TradeTick} {i j : Nat} (hij : i < j)
    (hi : ticks[i]? = some tick) :
    (ticks.take j).reverse =
      ((ticks.take j).drop (i + 1)).reverse ++ tick :: (ticks.take i).reverse := by
  have hfirst : (ticks.take j).take (i + 1) = ticks.take i ++ [tick] := by
    rw [List.take_take, Nat.min_eq_left (by omega), List.take_add_one, hi]
    rfl
  have hall := List.take_append_drop (i + 1) (ticks.take j)
  rw [hfirst] at hall
  conv_lhs => rw [← hall]
  simp

/-- A tick of a later second comes between two ticks. -/
def Overtaken (ticks : List TradeTick) (i j : Nat) (second : Int) : Prop :=
  ∃ k other, i < k ∧ k < j ∧ ticks[k]? = some other ∧ second < other.second

/-- The counter goes on until a tick of a later second comes. -/
theorem standing_ne_of_not_overtaken {ticks : List TradeTick} {tick : TradeTick} {i j : Nat}
    (hij : i < j) (hi : ticks[i]? = some tick) (h : ¬ Overtaken ticks i j tick.second) :
    standing (ticks.take i).reverse tick.key ≠ standing (ticks.take j).reverse tick.key := by
  have hbetween : ∀ other ∈ ((ticks.take j).drop (i + 1)).reverse,
      other.second ≤ tick.key.2 := by
    intro other hmem
    obtain ⟨k, hk⟩ := List.mem_iff_getElem?.1 (List.mem_reverse.1 hmem)
    rw [List.getElem?_drop, List.getElem?_take] at hk
    split_ifs at hk with hlt
    by_contra hlater
    exact h ⟨i + 1 + k, other, by omega, hlt, hk, Int.not_le.1 hlater⟩
  have hown : ¬ tick.key.2 < tick.second := Int.lt_irrefl _
  rw [reverse_take hij hi, standing_append_of_le hbetween, standing_cons, if_neg hown, if_pos rfl]
  omega

/-- Equal ticks that are overtaken stand at different places. -/
def ApartWhereOvertaken (ticks : List TradeTick) : Prop :=
  ∀ (i j : Nat) (tick : TradeTick), i < j → ticks[i]? = some tick → ticks[j]? = some tick →
    Overtaken ticks i j tick.second →
      standing (ticks.take i).reverse tick.key ≠ standing (ticks.take j).reverse tick.key

theorem ApartWhereOvertaken.standApart {ticks : List TradeTick}
    (h : ApartWhereOvertaken ticks) : StandApart ticks := by
  intro i j tick hij hi hj
  by_cases hint : Overtaken ticks i j tick.second
  · exact h i j tick hij hi hj hint
  · exact standing_ne_of_not_overtaken hij hi hint

/-- Ids are distinct unless ticks of a later second come between two equal ticks, and as many
ticks of their second had been counted before the one as before the other. -/
theorem tradeIds_nodup_iff (ticks : List TradeTick) :
    (tradeIds ∅ ticks).Nodup ↔ ApartWhereOvertaken ticks := by
  constructor
  · intro hnodup i j tick hij hi hj _
    exact standApart_of_nodup hnodup i j tick hij hi hj
  · intro h
    exact h.standApart.nodup

/-- The ticks of each contract come in the order of time. -/
def InOrder (ticks : List TradeTick) : Prop :=
  ∀ conId, (ticks.filter fun tick => tick.conId = conId).Pairwise fun tick next =>
    tick.tickNs ≤ next.tickNs

/-- A tick of another contract makes the counter start again. -/
theorem tradeIds_repeated :
    ¬ ∀ ticks : List TradeTick, InOrder ticks → (tradeIds ∅ ticks).Nodup := by
  intro h
  have hids := h [⟨1, 5000000000⟩, ⟨2, 6000000000⟩, ⟨1, 5000000000⟩] (by
    intro conId
    by_cases h1 : 1 = conId
    · subst h1
      decide
    · by_cases h2 : 2 = conId
      · subst h2
        decide
      · simp [h1, h2])
  exact absurd hids (by decide)

/-! ## Timestamps of whole seconds -/

/-- A tick is the first of its contract and second when only equal ticks share its key. -/
theorem standing_eq_zero {earlier : List TradeTick} {tick : TradeTick} (hfirst : tick ∉ earlier)
    (h : ∀ other ∈ earlier, other.key = tick.key → other = tick) :
    standing earlier tick.key = 0 := by
  refine List.countP_eq_zero.2 fun other hmem hkey => ?_
  have hother : other ∈ earlier := List.takeWhile_subset _ hmem
  have heq := h other hother (by simpa using hkey)
  exact hfirst (heq ▸ hother)

/-- With timestamps of whole seconds no two equal ticks may be overtaken. -/
theorem tradeIds_nodup_iff_of_seconds {ticks : List TradeTick}
    (hseconds : ∀ tick ∈ ticks, tick.tickNs = tick.second * 1000000000) :
    (tradeIds ∅ ticks).Nodup ↔ ∀ (i j : Nat) (tick : TradeTick), i < j →
      ticks[i]? = some tick → ticks[j]? = some tick → ¬ Overtaken ticks i j tick.second := by
  constructor
  case mpr =>
    intro h
    apply StandApart.nodup
    intro i j tick hij hi hj
    exact standing_ne_of_not_overtaken hij hi (h i j tick hij hi hj)
  intro hnodup i j tick hij hi hj ⟨k, other, hik, hkj, hk, hlater⟩
  have hkey : ∀ t ∈ ticks, t.key = tick.key → t = tick := by
    intro t ht hkey
    obtain ⟨hconId, hsecond⟩ : t.conId = tick.conId ∧ t.second = tick.second := by
      simpa [TradeTick.key] using hkey
    have hns : t.tickNs = tick.tickNs := by
      rw [hseconds t ht, hseconds tick (List.mem_of_getElem? hi), hsecond]
    cases t
    cases tick
    simp_all
  -- the first such tick, and the first one after the tick of a later second
  obtain ⟨before, rest, hsplit, hbefore⟩ := List.eq_append_cons_of_mem (List.mem_of_getElem? hi)
  have hdrop : tick ∈ ticks.drop (k + 1) := by
    refine List.mem_of_getElem? (i := j - (k + 1)) ?_
    rw [List.getElem?_drop, ← hj]
    congr 1
    omega
  obtain ⟨between, after, hbetween, hfresh⟩ := List.eq_append_cons_of_mem hdrop
  have hle : before.length ≤ i := by
    by_contra hlt
    rw [hsplit, List.getElem?_append_left (by omega)] at hi
    exact hbefore (List.mem_of_getElem? hi)
  have hfirst : ticks[before.length]? = some tick := by
    rw [hsplit]
    simp
  have hagain : ticks[k + 1 + between.length]? = some tick := by
    rw [← List.getElem?_drop, hbetween]
    simp
  have hstart : ticks.take before.length = before := by
    rw [hsplit]
    simp
  have hmiddle : (ticks.take (k + 1 + between.length)).drop (k + 1) = between := by
    rw [List.drop_take, hbetween]
    simp
  -- both stand at the beginning
  refine standApart_of_nodup hnodup before.length (k + 1 + between.length) tick
    (by omega) hfirst hagain ?_
  rw [hstart, reverse_take (by omega) hk, hmiddle,
    standing_append_of_lt (by simpa [TradeTick.key] using hlater)]
  rw [standing_eq_zero (by simpa using hbefore), standing_eq_zero (by simpa using hfresh)]
  · intro t ht
    refine hkey t (List.mem_of_mem_drop (i := k + 1) ?_)
    exact hbetween ▸ List.mem_append_left _ (List.mem_reverse.1 ht)
  · intro t ht
    refine hkey t ?_
    exact hsplit ▸ List.mem_append_left _ (List.mem_reverse.1 ht)

end Ib
end MarketConnector
