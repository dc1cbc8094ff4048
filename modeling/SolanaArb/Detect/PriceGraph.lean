import SolanaArb.Types
import Mathlib.Data.List.AList
import Mathlib.Data.List.Basic

/-! # The price graph

The latest quote of every venue, grouped by trading pair. The order in which a hash
map yields its values is a parameter of every iteration.
-/
namespace SolanaArb.PriceGraph

/-- A base and a quote mint; an empty quote mint counts as `unknown`. -/
abbrev PairKey := String × String

def pairKey (quote : PriceQuote) : PairKey :=
  (quote.baseMint, if quote.quoteMint = "" then "unknown" else quote.quoteMint)

def venueKey (dex : Dex) (poolAddress : Option String) : String :=
  match poolAddress with
  | some addr => dex.asStr ++ ":" ++ addr
  | none => dex.asStr

def dexKey (quote : PriceQuote) : String := venueKey quote.dex quote.poolAddress

/-- `num_seconds()`: whole seconds, truncated towards zero. -/
def numSeconds (nanos : ℤ) : ℤ := nanos.tdiv (10^9)

def numMilliseconds (nanos : ℤ) : ℤ := nanos.tdiv (10^6)

/-- The order in which one iteration visits the values of a map. -/
structure IterationOrder where
  order : List PriceQuote → List PriceQuote
  perm : ∀ l, (order l).Perm l

abbrev Venues := AList (fun _ : String => PriceQuote)

end PriceGraph

open PriceGraph in
structure PriceGraph where
  prices : AList (fun _ : PairKey => Venues)
  maxAgeSecs : ℤ

namespace PriceGraph

def new (maxAgeSecs : ℤ) : PriceGraph := ⟨∅, maxAgeSecs⟩

def isStale (g : PriceGraph) (quote : PriceQuote) (now : Timestamp) : Bool :=
  decide (g.maxAgeSecs < numSeconds (now - quote.timestamp))

/-- The first half of `update`: the quote replaces the one of its venue. -/
def insert (g : PriceGraph) (quote : PriceQuote) : PriceGraph :=
  let venueMap := (g.prices.lookup (pairKey quote)).getD ∅
  { g with prices := g.prices.insert (pairKey quote) (venueMap.insert (dexKey quote) quote) }

def values (venues : Venues) : List PriceQuote := venues.entries.map Sigma.snd

def getPairQuotes (g : PriceGraph) (iter : IterationOrder) (now : Timestamp) (key : PairKey) :
    List PriceQuote :=
  match g.prices.lookup key with
  | some venues => (iter.order (values venues)).filter (fun quote => !g.isStale quote now)
  | none => []

def update (g : PriceGraph) (iter : IterationOrder) (now : Timestamp) (quote : PriceQuote) :
    PriceGraph × List PriceQuote :=
  let g' := g.insert quote
  (g', g'.getPairQuotes iter now (pairKey quote))

def getPreviousPrice (g : PriceGraph) (quote : PriceQuote) : Option ℚ :=
  ((g.prices.lookup (pairKey quote)).bind (fun venues => venues.lookup (dexKey quote))).map
    PriceQuote.priceUsd

def stored (g : PriceGraph) (key : PairKey) (venue : String) : Option PriceQuote :=
  (g.prices.lookup key).bind (fun venues => venues.lookup venue)

variable {g : PriceGraph} {quote : PriceQuote}

theorem stored_new (maxAgeSecs : ℤ) (key : PairKey) (venue : String) :
    (new maxAgeSecs).stored key venue = none := by
  simp [stored, new]

theorem stored_insert (g : PriceGraph) (quote : PriceQuote) (key : PairKey) (venue : String) :
    (g.insert quote).stored key venue =
      if pairKey quote = key ∧ dexKey quote = venue then some quote else g.stored key venue := by
  unfold stored insert
  by_cases hkey : key = pairKey quote
  · subst hkey
    rw [AList.lookup_insert, Option.bind_some]
    by_cases hvenue : venue = dexKey quote
    · subst hvenue
      rw [AList.lookup_insert, if_pos ⟨rfl, rfl⟩]
    · rw [AList.lookup_insert_ne hvenue, if_neg (fun h => hvenue h.2.symm)]
      cases g.prices.lookup (pairKey quote) <;> simp
  · rw [AList.lookup_insert_ne hkey, if_neg (fun h => hkey h.1.symm)]

theorem insert_lookup_ne {key : PairKey} (h : key ≠ pairKey quote) :
    (g.insert quote).prices.lookup key = g.prices.lookup key := AList.lookup_insert_ne h

/-- The quotes of a group depend on the entry of the group only. -/
theorem getPairQuotes_congr {g g' : PriceGraph} {key : PairKey}
    (hprices : g.prices.lookup key = g'.prices.lookup key) (hage : g.maxAgeSecs = g'.maxAgeSecs)
    (iter : IterationOrder) (now : Timestamp) :
    g.getPairQuotes iter now key = g'.getPairQuotes iter now key := by
  unfold getPairQuotes isStale
  rw [hprices, hage]

theorem insert_lookup_congr {g g' : PriceGraph}
    (h : g.prices.lookup (pairKey quote) = g'.prices.lookup (pairKey quote)) :
    (g.insert quote).prices.lookup (pairKey quote) =
      (g'.insert quote).prices.lookup (pairKey quote) := by
  unfold insert
  rw [AList.lookup_insert, AList.lookup_insert, h]

theorem mem_values {venues : Venues} : quote ∈ values venues ↔
    ∃ venue, venues.lookup venue = some quote := by
  unfold values
  rw [List.mem_map]
  constructor
  · rintro ⟨⟨venue, q⟩, hmem, rfl⟩
    exact ⟨venue, AList.mem_lookup_iff.mpr hmem⟩
  · rintro ⟨venue, h⟩
    exact ⟨⟨venue, quote⟩, AList.mem_lookup_iff.mp h, rfl⟩

/-- The returned quotes are the stored ones of the pair that are not stale, whatever
the iteration order. -/
theorem mem_getPairQuotes {iter : IterationOrder} {now : Timestamp} {key : PairKey} :
    quote ∈ g.getPairQuotes iter now key ↔
      (∃ venue, g.stored key venue = some quote) ∧ g.isStale quote now = false := by
  unfold getPairQuotes stored
  cases g.prices.lookup key with
  | none => simp
  | some venues =>
    have hmem := (iter.perm (values venues)).mem_iff (a := quote)
    rw [List.mem_filter, hmem, mem_values]
    simp

theorem asStr_no_colon (dex : Dex) : ':' ∉ dex.asStr.toList := by
  cases dex <;> decide

theorem asStr_injective : Function.Injective Dex.asStr := by
  intro dex dex' h
  revert h
  cases dex <;> cases dex' <;> decide

theorem append_separator_inj {α : Type*} {c : α} {xs ys s t : List α} (hx : c ∉ xs) (hy : c ∉ ys)
    (h : xs ++ c :: s = ys ++ c :: t) : xs = ys ∧ s = t := by
  induction xs generalizing ys with
  | nil =>
    cases ys with
    | nil => exact ⟨rfl, (List.cons.inj h).2⟩
    | cons y ys => exact absurd (List.cons.inj h).1 (fun hc => hy (hc ▸ List.mem_cons_self))
  | cons x xs ih =>
    cases ys with
    | nil => exact absurd (List.cons.inj h).1 (fun hc => hx (hc ▸ List.mem_cons_self))
    | cons y ys =>
      obtain ⟨rfl, htail⟩ := List.cons.inj h
      have hsplit := ih (fun hc => hx (List.mem_cons_of_mem _ hc))
        (fun hc => hy (List.mem_cons_of_mem _ hc)) htail
      exact ⟨congrArg _ hsplit.1, hsplit.2⟩

/-- Distinct venues have distinct keys: a DEX name contains no colon. -/
theorem venueKey_injective {dex dex' : Dex} {pool pool' : Option String}
    (h : venueKey dex pool = venueKey dex' pool') : dex = dex' ∧ pool = pool' := by
  have hlist := congrArg String.toList h
  cases pool with
  | none =>
    cases pool' with
    | none => exact ⟨asStr_injective h, rfl⟩
    | some addr' =>
      simp only [venueKey, String.toList_append] at hlist
      have hcolon := asStr_no_colon dex
      rw [hlist] at hcolon
      simp at hcolon
  | some addr =>
    cases pool' with
    | none =>
      simp only [venueKey, String.toList_append] at hlist
      have hcolon := asStr_no_colon dex'
      rw [← hlist] at hcolon
      simp at hcolon
    | some addr' =>
      simp only [venueKey, String.toList_append, List.append_assoc] at hlist
      obtain ⟨hdex, haddr⟩ := append_separator_inj (asStr_no_colon dex) (asStr_no_colon dex') hlist
      exact ⟨asStr_injective (String.toList_injective hdex),
        congrArg some (String.toList_injective haddr)⟩

end PriceGraph
end SolanaArb
