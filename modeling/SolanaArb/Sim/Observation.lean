import SolanaArb.Types
import SolanaArb.General.Except
import SolanaArb.General.FirstBy
import SolanaArb.General.WeightedMean
import Mathlib.Data.Sign.Basic

/-! # Stale-reserve observations

After a trigger swap the pool it hit is compared with the rest of the market: the price
of the trigger pair against the liquidity-weighted mean price of every other pair that
has a positive price and positive liquidity. A response is given by the fields the
observer reads, a price text by the number it parses to.
-/
namespace SolanaArb.StaleReserveObserver
open SolanaArb.General

structure DexScreenerPair where
  pairAddress : String
  dexId : String
  /-- `priceUsd`, absent, or a text that may not parse. -/
  priceUsd : Option (Option ℚ)
  /-- `liquidity.usd`, either level may be absent. -/
  liquidity : Option (Option ℚ)
  deriving DecidableEq, Repr

namespace DexScreenerPair

def price (p : DexScreenerPair) : Option ℚ := p.priceUsd.join

def liquidityUsd (p : DexScreenerPair) : ℚ := (p.liquidity.join).getD 0

/-- The price as the fair-price loop reads it. -/
def priceOrZero (p : DexScreenerPair) : ℚ := p.price.getD 0

end DexScreenerPair

/-- The `pairs` of a response that arrives and parses. -/
abbrev Response := Except String (Option (List DexScreenerPair))

structure ObservationInput where
  tokenMint : String
  triggerDex : Dex
  triggerPoolAddress : Option String
  deriving DecidableEq, Repr

structure Observation where
  poolAddress : String
  poolImpliedPriceUsd : ℚ
  fairPriceUsd : ℚ
  deltaBps : ℚ
  poolLiquidityUsd : ℚ
  observationLatencyMs : Int64
  otherPairsCount : ℕ
  deriving DecidableEq

def dexToDexscreenerId : Dex → String
  | .raydium | .raydiumClmm => "raydium"
  | .orca => "orca"
  | .meteora => "meteora"
  | .pumpFun => "pumpfun"
  | .pumpSwap => "pumpswap"
  | .jupiter => "jupiter"
  | .unknown => ""

def eqIgnoreAsciiCase (a b : String) : Bool :=
  a.toList.map Char.toLower == b.toList.map Char.toLower

def onDex (dex : Dex) (p : DexScreenerPair) : Bool :=
  eqIgnoreAsciiCase p.dexId (dexToDexscreenerId dex)

/-- The pair at the trigger's address, or else the most liquid on its DEX, the last of
several. -/
def pickTriggerPair (pairs : List DexScreenerPair) (triggerDex : Dex)
    (triggerPoolAddress : Option String) : Option DexScreenerPair :=
  match triggerPoolAddress.bind (fun addr => pairs.find? (fun p => p.pairAddress = addr)) with
  | some exact => some exact
  | none => bestOf DexScreenerPair.liquidityUsd (pairs.filter (onDex triggerDex)).reverse

/-- Fair price and delta against the other pairs; without a reference, the pool itself
and none. -/
def fairReference (poolImplied : ℚ) (others : List DexScreenerPair) : ℚ × ℚ :=
  if others.isEmpty then (poolImplied, 0)
  else
    let sums := others.foldl (weigh DexScreenerPair.priceOrZero DexScreenerPair.liquidityUsd) (0, 0)
    if sums.2 ≤ 0 then (poolImplied, 0)
    else
      let fair := sums.1 / sums.2
      (fair, if 0 < fair then (poolImplied - fair) / fair * 10000 else 0)

def othersOf (pairs : List DexScreenerPair) (trigger : DexScreenerPair) : List DexScreenerPair :=
  pairs.filter (fun p => p.pairAddress != trigger.pairAddress)

def observe (input : ObservationInput) (response : Response) (latencyMs : Int64) :
    Except String Observation := do
  let pairs := (← response).getD []
  if pairs.isEmpty then .error s!"no dexscreener pairs for {input.tokenMint}"
  else do
    let trigger ← okOr (pickTriggerPair pairs input.triggerDex input.triggerPoolAddress)
      s!"no dexscreener pair matches trigger dex {input.triggerDex.asStr} for {input.tokenMint}"
    let poolImplied ← okOr trigger.price "trigger pair missing priceUsd"
    let others := othersOf pairs trigger
    let (fairPrice, deltaBps) := fairReference poolImplied others
    .ok {
      poolAddress := trigger.pairAddress
      poolImpliedPriceUsd := poolImplied
      fairPriceUsd := fairPrice
      deltaBps := deltaBps
      poolLiquidityUsd := trigger.liquidityUsd
      observationLatencyMs := latencyMs
      otherPairsCount := others.length }

/-! ## The reference -/

/-- The pairs whose prices make the fair price. -/
def contributing (pairs : List DexScreenerPair) (trigger : DexScreenerPair) :
    List DexScreenerPair :=
  counted DexScreenerPair.priceOrZero DexScreenerPair.liquidityUsd (othersOf pairs trigger)

def meanPrice (pairs : List DexScreenerPair) : ℚ :=
  weightedMean DexScreenerPair.priceOrZero DexScreenerPair.liquidityUsd pairs

section Reference
variable {pairs : List DexScreenerPair} {trigger p : DexScreenerPair} {poolImplied : ℚ}

theorem mem_contributing : p ∈ contributing pairs trigger ↔
    (p ∈ pairs ∧ p.pairAddress ≠ trigger.pairAddress) ∧
      0 < p.priceOrZero ∧ 0 < p.liquidityUsd := by
  rw [contributing, mem_counted, othersOf, List.mem_filter, bne_iff_ne]
  rfl

theorem counts_of_contributing (h : p ∈ contributing pairs trigger) :
    Counts DexScreenerPair.priceOrZero DexScreenerPair.liquidityUsd p := (mem_contributing.mp h).2

theorem meanPrice_pos (hne : contributing pairs trigger ≠ []) :
    0 < meanPrice (contributing pairs trigger) :=
  weightedMean_pos (fun _ h => counts_of_contributing h) hne

/-- What the loop computes: the mean of the contributing pairs, if there are any. -/
theorem fairReference_eq (poolImplied : ℚ) (pairs : List DexScreenerPair)
    (trigger : DexScreenerPair) :
    fairReference poolImplied (othersOf pairs trigger) =
      if contributing pairs trigger = [] then (poolImplied, 0)
      else (meanPrice (contributing pairs trigger),
        (poolImplied - meanPrice (contributing pairs trigger)) /
          meanPrice (contributing pairs trigger) * 10000) := by
  unfold fairReference
  split
  · next hempty =>
    have hnone : contributing pairs trigger = [] := by
      rw [contributing, List.isEmpty_iff.mp hempty]
      rfl
    rw [if_pos hnone]
  · rw [foldl_weigh]
    dsimp only
    rw [zero_add, zero_add]
    change (if totalWeight DexScreenerPair.liquidityUsd (contributing pairs trigger) ≤ 0 then _
      else (meanPrice (contributing pairs trigger), _)) = _
    by_cases hnone : contributing pairs trigger = []
    · rw [if_pos hnone, hnone]
      exact if_pos le_rfl
    · have htotal : 0 < totalWeight DexScreenerPair.liquidityUsd (contributing pairs trigger) :=
        totalWeight_pos (fun _ h => (counts_of_contributing h).2) hnone
      have hfair := meanPrice_pos hnone
      rw [if_neg hnone, if_neg (not_le.mpr htotal)]
      exact congrArg (Prod.mk _) (if_pos hfair)

end Reference

/-! ## The trigger pair -/

section Trigger
variable {pairs pairs' : List DexScreenerPair} {dex : Dex} {addr : Option String}
  {trigger p : DexScreenerPair}

/-- Each other pair on the DEX has strictly less liquidity. -/
def UniqueMostLiquid (pairs : List DexScreenerPair) (dex : Dex) (trigger : DexScreenerPair) :
    Prop :=
  onDex dex trigger = true ∧ ∀ p ∈ pairs, onDex dex p = true → p ≠ trigger →
    p.liquidityUsd < trigger.liquidityUsd

/-- How a trigger was picked: by its address, or by liquidity when no pair has it. -/
theorem pickTriggerPair_cases (h : pickTriggerPair pairs dex addr = some trigger) :
    trigger ∈ pairs ∧ addr = some trigger.pairAddress ∨
      (∀ a, addr = some a → ∀ p ∈ pairs, p.pairAddress ≠ a) ∧
        bestOf DexScreenerPair.liquidityUsd (pairs.filter (onDex dex)).reverse = some trigger := by
  unfold pickTriggerPair at h
  cases hfind : addr.bind (fun a => pairs.find? (fun p => p.pairAddress = a)) with
  | some exact =>
    rw [hfind] at h
    obtain rfl := Option.some.inj h
    obtain ⟨a, rfl, hfound⟩ := Option.bind_eq_some_iff.mp hfind
    have haddr := List.find?_some hfound
    exact Or.inl ⟨List.mem_of_find?_eq_some hfound, congrArg some (of_decide_eq_true haddr).symm⟩
  | none =>
    rw [hfind] at h
    refine Or.inr ⟨?_, h⟩
    rintro a rfl p hp heq
    have hnone := List.find?_eq_none.mp hfind p hp
    exact hnone (decide_eq_true heq)

theorem pickTriggerPair_mem (h : pickTriggerPair pairs dex addr = some trigger) :
    trigger ∈ pairs := by
  rcases pickTriggerPair_cases h with ⟨hmem, _⟩ | ⟨_, hbest⟩
  · exact hmem
  · exact (List.mem_filter.mp (List.mem_reverse.mp (bestOf_mem _ hbest))).1

theorem pickTriggerPair_of_address (hdistinct : (pairs.map DexScreenerPair.pairAddress).Nodup)
    (hmem : trigger ∈ pairs) (haddr : addr = some trigger.pairAddress) :
    pickTriggerPair pairs dex addr = some trigger := by
  rw [pickTriggerPair, haddr, Option.bind_some,
    find?_key_of_nodup DexScreenerPair.pairAddress hdistinct hmem]

theorem pickTriggerPair_of_unique (hmiss : ∀ a, addr = some a → ∀ p ∈ pairs, p.pairAddress ≠ a)
    (hmem : trigger ∈ pairs) (hunique : UniqueMostLiquid pairs dex trigger) :
    pickTriggerPair pairs dex addr = some trigger := by
  have hnone : addr.bind (fun a => pairs.find? (fun p => p.pairAddress = a)) = none := by
    cases addr with
    | none => rfl
    | some a =>
      rw [Option.bind_some, List.find?_eq_none]
      intro p hp
      rw [decide_eq_true_eq]
      exact hmiss a rfl p hp
  rw [pickTriggerPair, hnone]
  apply bestOf_of_strict_max
  · exact List.mem_reverse.mpr (List.mem_filter.mpr ⟨hmem, hunique.1⟩)
  · intro p hp hne
    obtain ⟨hp, hdex⟩ := List.mem_filter.mp (List.mem_reverse.mp hp)
    exact hunique.2 p hp hdex hne

/-- The trigger does not depend on the order of the pairs. -/
def Determined (pairs : List DexScreenerPair) (dex : Dex) (addr : Option String)
    (trigger : DexScreenerPair) : Prop :=
  addr = some trigger.pairAddress ∨ UniqueMostLiquid pairs dex trigger

end Trigger

/-! ## Permuted and scaled responses -/

def DexScreenerPair.scaleLiquidity (k : ℚ) (p : DexScreenerPair) : DexScreenerPair :=
  { p with liquidity := p.liquidity.map (Option.map (k * ·)) }

section Scaled
variable {pairs pairs' : List DexScreenerPair} {dex : Dex} {addr : Option String}
  {trigger p : DexScreenerPair} {k : ℚ}

@[simp] theorem scaleLiquidity_pairAddress (k : ℚ) (p : DexScreenerPair) :
    (p.scaleLiquidity k).pairAddress = p.pairAddress := rfl
@[simp] theorem scaleLiquidity_price (k : ℚ) (p : DexScreenerPair) :
    (p.scaleLiquidity k).price = p.price := rfl
@[simp] theorem scaleLiquidity_onDex (k : ℚ) (p : DexScreenerPair) (dex : Dex) :
    onDex dex (p.scaleLiquidity k) = onDex dex p := rfl

@[simp] theorem scaleLiquidity_liquidityUsd (k : ℚ) (p : DexScreenerPair) :
    (p.scaleLiquidity k).liquidityUsd = k * p.liquidityUsd := by
  unfold DexScreenerPair.liquidityUsd DexScreenerPair.scaleLiquidity
  cases p.liquidity with
  | none => simp
  | some usd =>
    cases usd with
    | none => simp
    | some value => simp

theorem scaleLiquidity_one (p : DexScreenerPair) : p.scaleLiquidity 1 = p := by
  obtain ⟨address, dexId, price, liquidity⟩ := p
  unfold DexScreenerPair.scaleLiquidity
  cases liquidity with
  | none => rfl
  | some usd =>
    cases usd with
    | none => rfl
    | some value => simp

theorem scales (k : ℚ) : Scales (DexScreenerPair.scaleLiquidity k) k
    DexScreenerPair.priceOrZero DexScreenerPair.liquidityUsd
    DexScreenerPair.priceOrZero DexScreenerPair.liquidityUsd :=
  ⟨fun _ => rfl, scaleLiquidity_liquidityUsd k⟩

theorem addresses_perm (hperm : pairs'.Perm (pairs.map (DexScreenerPair.scaleLiquidity k))) :
    (pairs'.map DexScreenerPair.pairAddress).Perm (pairs.map DexScreenerPair.pairAddress) := by
  have hmap := hperm.map DexScreenerPair.pairAddress
  rwa [List.map_map] at hmap

/-- A trigger that is determined is picked again, its liquidity scaled. -/
theorem pickTriggerPair_scaled (hdistinct : (pairs.map DexScreenerPair.pairAddress).Nodup)
    (h : pickTriggerPair pairs dex addr = some trigger)
    (hdetermined : Determined pairs dex addr trigger) (hk : 0 < k)
    (hperm : pairs'.Perm (pairs.map (DexScreenerPair.scaleLiquidity k))) :
    pickTriggerPair pairs' dex addr = some (trigger.scaleLiquidity k) := by
  have hmem : trigger.scaleLiquidity k ∈ pairs' :=
    hperm.mem_iff.mpr (List.mem_map_of_mem (pickTriggerPair_mem h))
  rcases pickTriggerPair_cases h with ⟨_, haddr⟩ | ⟨hmiss, _⟩
  · exact pickTriggerPair_of_address ((addresses_perm hperm).nodup_iff.mpr hdistinct) hmem haddr
  · have hunique : UniqueMostLiquid pairs dex trigger := by
      refine hdetermined.resolve_left ?_
      intro haddr
      exact hmiss _ haddr trigger (pickTriggerPair_mem h) rfl
    apply pickTriggerPair_of_unique _ hmem
    · refine ⟨hunique.1, ?_⟩
      intro p' hp' hdex hne
      obtain ⟨p, hp, rfl⟩ := List.mem_map.mp (hperm.mem_iff.mp hp')
      have hlt := hunique.2 p hp hdex fun heq => hne (congrArg _ heq)
      rw [scaleLiquidity_liquidityUsd, scaleLiquidity_liquidityUsd]
      exact mul_lt_mul_of_pos_left hlt hk
    · intro a ha p' hp'
      obtain ⟨p, hp, rfl⟩ := List.mem_map.mp (hperm.mem_iff.mp hp')
      exact hmiss a ha p hp

theorem contributing_scaled (hk : 0 < k)
    (hperm : pairs'.Perm (pairs.map (DexScreenerPair.scaleLiquidity k))) :
    (contributing pairs' (trigger.scaleLiquidity k)).Perm
      ((contributing pairs trigger).map (DexScreenerPair.scaleLiquidity k)) := by
  have hothers : (othersOf pairs' (trigger.scaleLiquidity k)).Perm
      ((othersOf pairs trigger).map (DexScreenerPair.scaleLiquidity k)) := by
    have hfilter := hperm.filter (fun p => p.pairAddress != trigger.pairAddress)
    rwa [List.filter_map] at hfilter
  rw [contributing, contributing, ← (scales k).counted_map hk]
  exact counted_perm hothers

theorem fairReference_scaled (hk : 0 < k) (poolImplied : ℚ)
    (hperm : pairs'.Perm (pairs.map (DexScreenerPair.scaleLiquidity k))) :
    fairReference poolImplied (othersOf pairs' (trigger.scaleLiquidity k)) =
      fairReference poolImplied (othersOf pairs trigger) := by
  have hcontributing : (contributing pairs' (trigger.scaleLiquidity k)).Perm
      ((contributing pairs trigger).map (DexScreenerPair.scaleLiquidity k)) :=
    contributing_scaled hk hperm
  have hmean : meanPrice (contributing pairs' (trigger.scaleLiquidity k)) =
      meanPrice (contributing pairs trigger) := by
    rw [meanPrice, weightedMean_perm hcontributing, (scales k).weightedMean_map hk.ne']
    rfl
  have hnone : contributing pairs' (trigger.scaleLiquidity k) = [] ↔
      contributing pairs trigger = [] := by
    rw [← List.length_eq_zero_iff, hcontributing.length_eq, List.length_map,
      List.length_eq_zero_iff]
  rw [fairReference_eq, fairReference_eq, hmean]
  simp only [hnone]

end Scaled

/-! ## The observation -/

section Observe
variable {input : ObservationInput} {pairs pairs' : List DexScreenerPair}
  {trigger : DexScreenerPair} {poolImplied : ℚ}

/-- An observation of these pairs with this fair price and delta. -/
def Reads (input : ObservationInput) (pairs : List DexScreenerPair) (latencyMs : Int64)
    (fairPrice deltaBps : ℚ) : Prop :=
  ∃ obs, observe input (.ok (some pairs)) latencyMs = .ok obs ∧
    obs.fairPriceUsd = fairPrice ∧ obs.deltaBps = deltaBps

theorem observe_eq (latencyMs : Int64)
    (hpick : pickTriggerPair pairs input.triggerDex input.triggerPoolAddress = some trigger)
    (hprice : trigger.price = some poolImplied) :
    observe input (.ok (some pairs)) latencyMs = .ok {
      poolAddress := trigger.pairAddress
      poolImpliedPriceUsd := poolImplied
      fairPriceUsd := (fairReference poolImplied (othersOf pairs trigger)).1
      deltaBps := (fairReference poolImplied (othersOf pairs trigger)).2
      poolLiquidityUsd := trigger.liquidityUsd
      observationLatencyMs := latencyMs
      otherPairsCount := (othersOf pairs trigger).length } := by
  have hne : pairs.isEmpty = false := by
    cases pairs with
    | nil => cases pickTriggerPair_mem hpick
    | cons p rest => rfl
  unfold observe
  simp only [bind, Except.bind, Option.getD_some, hne, Bool.false_eq_true, if_false, hpick, hprice,
    okOr_some]

theorem reads_scaled (latencyMs : Int64) {k : ℚ} (hk : 0 < k)
    (hdistinct : (pairs.map DexScreenerPair.pairAddress).Nodup)
    (hpick : pickTriggerPair pairs input.triggerDex input.triggerPoolAddress = some trigger)
    (hprice : trigger.price = some poolImplied)
    (hdetermined : Determined pairs input.triggerDex input.triggerPoolAddress trigger)
    (hperm : pairs'.Perm (pairs.map (DexScreenerPair.scaleLiquidity k))) :
    Reads input pairs' latencyMs (fairReference poolImplied (othersOf pairs trigger)).1
      (fairReference poolImplied (othersOf pairs trigger)).2 := by
  have hpick' := pickTriggerPair_scaled hdistinct hpick hdetermined hk hperm
  have hprice' : (trigger.scaleLiquidity k).price = some poolImplied := hprice
  refine ⟨_, observe_eq latencyMs hpick' hprice', ?_, ?_⟩
  · exact congrArg Prod.fst (fairReference_scaled hk poolImplied hperm)
  · exact congrArg Prod.snd (fairReference_scaled hk poolImplied hperm)

/-- The delta is zero without a reference and has the sign of the difference with one. -/
theorem sign_fairReference (poolImplied : ℚ) (pairs : List DexScreenerPair)
    (trigger : DexScreenerPair) :
    SignType.sign (fairReference poolImplied (othersOf pairs trigger)).2 = SignType.sign
      (poolImplied - (fairReference poolImplied (othersOf pairs trigger)).1) := by
  rw [fairReference_eq]
  by_cases hnone : contributing pairs trigger = []
  · rw [if_pos hnone, sub_self]
  · rw [if_neg hnone]
    have hfair := meanPrice_pos hnone
    have hscale : 0 < 10000 / meanPrice (contributing pairs trigger) :=
      div_pos (by norm_num) hfair
    have hdelta : (poolImplied - meanPrice (contributing pairs trigger)) /
        meanPrice (contributing pairs trigger) * 10000 =
        (poolImplied - meanPrice (contributing pairs trigger)) *
          (10000 / meanPrice (contributing pairs trigger)) := by ring
    rw [hdelta, sign_mul, sign_pos hscale, mul_one]

/-- With distinct addresses the contributing pairs are all others with a positive price
and positive liquidity. -/
theorem mem_contributing_iff (hdistinct : (pairs.map DexScreenerPair.pairAddress).Nodup)
    (htrigger : trigger ∈ pairs) {p : DexScreenerPair} : p ∈ contributing pairs trigger ↔
      p ∈ pairs ∧ p ≠ trigger ∧ 0 < p.priceOrZero ∧ 0 < p.liquidityUsd := by
  rw [mem_contributing]
  constructor
  · rintro ⟨⟨hp, hne⟩, hcounts⟩
    exact ⟨hp, fun heq => hne (congrArg _ heq), hcounts⟩
  · rintro ⟨hp, hne, hcounts⟩
    exact ⟨⟨hp, fun heq => hne (List.inj_on_of_nodup_map hdistinct hp htrigger heq)⟩, hcounts⟩

end Observe

/-- What a fair price is to the pairs it was taken from. -/
structure ProperReference (pairs : List DexScreenerPair) (trigger : DexScreenerPair)
    (poolImplied fairPrice deltaBps : ℚ) : Prop where
  none : (∀ p ∈ pairs, p ≠ trigger → ¬ (0 < p.priceOrZero ∧ 0 < p.liquidityUsd)) →
    fairPrice = poolImplied ∧ deltaBps = 0
  between : (∃ p ∈ pairs, p ≠ trigger ∧ 0 < p.priceOrZero ∧ 0 < p.liquidityUsd) →
    (∃ p ∈ contributing pairs trigger, p.priceOrZero ≤ fairPrice) ∧
      ∃ p ∈ contributing pairs trigger, fairPrice ≤ p.priceOrZero
  mean : contributing pairs trigger ≠ [] → fairPrice = meanPrice (contributing pairs trigger)
  excluded : ∀ p ∈ contributing pairs trigger,
    p ∈ pairs ∧ p ≠ trigger ∧ 0 < p.priceOrZero ∧ 0 < p.liquidityUsd
  sign : SignType.sign deltaBps = SignType.sign (poolImplied - fairPrice)

theorem fairReference_proper {pairs : List DexScreenerPair} {trigger : DexScreenerPair}
    (hdistinct : (pairs.map DexScreenerPair.pairAddress).Nodup) (htrigger : trigger ∈ pairs)
    (poolImplied : ℚ) :
    ProperReference pairs trigger poolImplied
      (fairReference poolImplied (othersOf pairs trigger)).1
      (fairReference poolImplied (othersOf pairs trigger)).2 where
  none hnone := by
    have hempty : contributing pairs trigger = [] := by
      apply List.eq_nil_iff_forall_not_mem.mpr
      intro p hp
      obtain ⟨hp, hne, hcounts⟩ := (mem_contributing_iff hdistinct htrigger).mp hp
      exact hnone p hp hne hcounts
    rw [fairReference_eq, if_pos hempty]
    exact ⟨rfl, rfl⟩
  between hsome := by
    obtain ⟨p, hp, hne, hcounts⟩ := hsome
    have hmem := (mem_contributing_iff hdistinct htrigger).mpr ⟨hp, hne, hcounts⟩
    have hnonempty : contributing pairs trigger ≠ [] := List.ne_nil_of_mem hmem
    rw [fairReference_eq, if_neg hnonempty]
    exact weightedMean_between (fun _ h => (counts_of_contributing h).2) hnonempty
  mean hnonempty := by rw [fairReference_eq, if_neg hnonempty]
  excluded _ hp := (mem_contributing_iff hdistinct htrigger).mp hp
  sign := sign_fairReference poolImplied pairs trigger

/-- Every observation of pairs with distinct addresses whose trigger has a price compares
it with a proper reference, which neither the order of the pairs nor the scale of their
liquidities changes when the trigger is determined. -/
theorem fair_price_proper (input : ObservationInput) (pairs : List DexScreenerPair)
    (hdistinct : (pairs.map DexScreenerPair.pairAddress).Nodup) (trigger : DexScreenerPair)
    (hpick : pickTriggerPair pairs input.triggerDex input.triggerPoolAddress = some trigger)
    (poolImplied : ℚ) (hprice : trigger.price = some poolImplied) (latencyMs : Int64) :
    ∃ obs, observe input (.ok (some pairs)) latencyMs = .ok obs ∧
      obs.poolImpliedPriceUsd = poolImplied ∧
      ProperReference pairs trigger poolImplied obs.fairPriceUsd obs.deltaBps ∧
      (Determined pairs input.triggerDex input.triggerPoolAddress trigger →
        (∀ pairs', pairs'.Perm pairs →
          Reads input pairs' latencyMs obs.fairPriceUsd obs.deltaBps) ∧
        ∀ k, 0 < k → Reads input (pairs.map (DexScreenerPair.scaleLiquidity k)) latencyMs
          obs.fairPriceUsd obs.deltaBps) := by
  refine ⟨_, observe_eq latencyMs hpick hprice, rfl,
    fairReference_proper hdistinct (pickTriggerPair_mem hpick) poolImplied, ?_⟩
  intro hdetermined
  constructor
  · intro pairs' hperm
    have hunscaled : pairs.map (DexScreenerPair.scaleLiquidity 1) = pairs := by
      rw [List.map_congr_left (fun p _ => scaleLiquidity_one p), List.map_id']
    exact reads_scaled latencyMs one_pos hdistinct hpick hprice hdetermined (by rwa [hunscaled])
  · intro k hk
    exact reads_scaled latencyMs hk hdistinct hpick hprice hdetermined (List.Perm.refl _)

def raydiumPair : DexScreenerPair := ⟨"RaydiumPool", "raydium", some (some 3), some (some 500)⟩
def orcaPair : DexScreenerPair := ⟨"OrcaPool", "orca", some (some 2), some (some 100)⟩
def meteoraPair : DexScreenerPair := ⟨"MeteoraPool", "meteora", some (some 4), some (some 300)⟩
def unpricedPair : DexScreenerPair := ⟨"CurvePool", "pumpfun", none, some (some 900)⟩

theorem fair_price_proper_raydium :
    ∃ obs, observe ⟨"Token", .raydium, none⟩
        (.ok (some [orcaPair, raydiumPair, unpricedPair, meteoraPair])) 12 = .ok obs ∧
      obs.poolImpliedPriceUsd = 3 ∧
      ProperReference [orcaPair, raydiumPair, unpricedPair, meteoraPair] raydiumPair 3
        obs.fairPriceUsd obs.deltaBps ∧
      Reads ⟨"Token", .raydium, none⟩ [meteoraPair, unpricedPair, raydiumPair, orcaPair] 12
        obs.fairPriceUsd obs.deltaBps := by
  obtain ⟨obs, hobs, hpool, hproper, hstable⟩ := fair_price_proper ⟨"Token", .raydium, none⟩
    [orcaPair, raydiumPair, unpricedPair, meteoraPair] (by decide +kernel) raydiumPair
    (by decide +kernel) 3 rfl 12
  have hunique : UniqueMostLiquid [orcaPair, raydiumPair, unpricedPair, meteoraPair] .raydium
      raydiumPair := by
    refine ⟨by decide +kernel, ?_⟩
    decide +kernel
  exact ⟨obs, hobs, hpool, hproper, (hstable (Or.inr hunique)).1 _
    (List.reverse_perm [orcaPair, raydiumPair, unpricedPair, meteoraPair])⟩

end SolanaArb.StaleReserveObserver
