import SolanaArb.Store.Tables

/-! # What the dashboard reads

The queries over the tables. Averages and sums are exact; a count with a `FILTER` counts
the rows where the condition is true, not where it is unknown.
-/
namespace SolanaArb.Store
open SolanaArb.General

/-! ## Recent simulations -/

/-- A simulation as the dashboard shows it. -/
structure RecentSimulation where
  id : Uuid
  opportunityId : Option Uuid
  inputAmount : Int64
  simulatedOutput : Option Int64
  simulatedProfitLamports : Option Int64
  txFeeLamports : Option Int64
  simulationSuccess : Bool
  errorMessage : Option String
  simulatedAt : Timestamp
  tokenSymbol : String
  deriving DecidableEq, Repr

/-- `s.opportunity_id = o.id AND s.opportunity_id != '00000000-…'`. -/
def onOpportunity (s : SimulationRow) (o : OpportunityRow) : Bool :=
  match s.opportunityId with
  | none => false
  | some id => id == o.id && id != Uuid.nil

def recentSimulation (joined : SimulationRow × Option OpportunityRow) : RecentSimulation where
  id := joined.1.id
  opportunityId := joined.1.opportunityId
  inputAmount := joined.1.inputAmount
  simulatedOutput := joined.1.simulatedOutput
  simulatedProfitLamports := joined.1.simulatedProfitLamports
  txFeeLamports := joined.1.txFeeLamports
  simulationSuccess := joined.1.simulationSuccess
  errorMessage := joined.1.errorMessage
  simulatedAt := joined.1.simulatedAt
  tokenSymbol := (joined.2.map OpportunityRow.tokenSymbol).getD "scan"

def GetRecentSimulations (db : Database) (limit : ℕ) (result : List RecentSimulation) : Prop :=
  ∃ joined, TopRows (fun j => j.1.simulatedAt) limit
    (leftJoin db.simulations.rows db.opportunities.rows onOpportunity) joined ∧
    result = joined.map recentSimulation

/-- The opportunity that a simulation belongs to. -/
def opportunityOf (db : Database) (s : SimulationRow) : Option OpportunityRow :=
  db.opportunities.rows.find? (onOpportunity s)

theorem leftJoin_onOpportunity (db : Database) :
    leftJoin db.simulations.rows db.opportunities.rows onOpportunity =
      db.simulations.rows.map (fun s => (s, opportunityOf db s)) := by
  apply leftJoin_keyed db.opportunities db.simulations.rows (fun s => s.opportunityId.getD Uuid.nil)
  intro s o hon
  unfold onOpportunity at hon
  split at hon
  · cases hon
  · next id hid =>
    rw [Bool.and_eq_true, beq_iff_eq] at hon
    rw [hid]
    exact hon.1.symm

theorem opportunityOf_eq_some_iff {db : Database} {s : SimulationRow} {o : OpportunityRow} :
    opportunityOf db s = some o ↔
      o ∈ db.opportunities.rows ∧ s.opportunityId = some o.id ∧ o.id ≠ Uuid.nil := by
  have hon (o : OpportunityRow) :
      onOpportunity s o = true ↔ s.opportunityId = some o.id ∧ o.id ≠ Uuid.nil := by
    unfold onOpportunity
    cases s.opportunityId with
    | none => simp
    | some id =>
      simp only [Bool.and_eq_true, beq_iff_eq, bne_iff_ne, Option.some.injEq]
      constructor
      · rintro ⟨rfl, hnil⟩
        exact ⟨rfl, hnil⟩
      · rintro ⟨rfl, hnil⟩
        exact ⟨rfl, hnil⟩
  constructor
  · intro h
    exact ⟨List.mem_of_find?_eq_some h, (hon o).mp (List.find?_some h)⟩
  · rintro ⟨hmem, hid⟩
    obtain ⟨found, hfound⟩ := Option.isSome_iff_exists.mp
      (List.find?_isSome.mpr ⟨o, hmem, (hon o).mpr hid⟩)
    have hsame := (hon found).mp (List.find?_some hfound)
    rw [hid.1, Option.some.injEq] at hsame
    rw [opportunityOf, hfound]
    exact congrArg some (List.inj_on_of_nodup_map db.opportunities.nodup
      (List.mem_of_find?_eq_some hfound) hmem hsame.1.symm)

/-- The recent simulations are as many of the latest rows of the table as the limit allows,
each once, however many opportunities there are. A row carries the symbol of the
opportunity with its identifier, and `scan` where there is none, as for the rows of the
scans, which have the nil identifier. -/
theorem recent_simulations (db : Database) (limit : ℕ) (result : List RecentSimulation)
    (h : GetRecentSimulations db limit result) :
    (∃ shown, TopRows SimulationRow.simulatedAt limit db.simulations.rows shown ∧
      result = shown.map (fun s => recentSimulation (s, opportunityOf db s))) ∧
    (result.map RecentSimulation.id).Nodup ∧
    result.length = min limit db.simulations.rows.length ∧
    ∀ r ∈ result, (∀ o ∈ db.opportunities.rows, r.opportunityId = some o.id → o.id ≠ Uuid.nil →
        r.tokenSymbol = o.tokenSymbol) ∧
      ((∀ o ∈ db.opportunities.rows, r.opportunityId = some o.id → o.id = Uuid.nil) →
        r.tokenSymbol = "scan") := by
  obtain ⟨joined, hjoined, rfl⟩ := h
  rw [leftJoin_onOpportunity] at hjoined
  obtain ⟨shown, hshown, rfl⟩ := hjoined.of_map
  rw [List.map_map]
  have hids : (shown.map (recentSimulation ∘ fun s => (s, opportunityOf db s))).map
      RecentSimulation.id = shown.map SimulationRow.id := by
    rw [List.map_map]
    rfl
  obtain ⟨hidden, hperm, _⟩ := hshown.split
  refine ⟨⟨shown, hshown, rfl⟩, ?_, ?_, ?_⟩
  · have hall : ((shown ++ hidden).map SimulationRow.id).Nodup :=
      (hperm.map SimulationRow.id).nodup_iff.mpr db.simulations.nodup
    rw [List.map_append] at hall
    rw [hids]
    exact (List.nodup_append.mp hall).1
  · rw [List.length_map, hshown.length_eq]
  · intro r hr
    obtain ⟨s, _, rfl⟩ := List.mem_map.mp hr
    constructor
    · intro o ho hid hnil
      have hfound := opportunityOf_eq_some_iff.mpr ⟨ho, hid, hnil⟩
      simp only [Function.comp_apply, recentSimulation, hfound, Option.map_some, Option.getD_some]
    · intro hnone
      have hmissing : opportunityOf db s = none := by
        rw [Option.eq_none_iff_forall_ne_some]
        intro o ho
        obtain ⟨hmem, hid, hnil⟩ := opportunityOf_eq_some_iff.mp ho
        exact hnil (hnone o hmem hid)
      simp only [Function.comp_apply, recentSimulation, hmissing, Option.map_none, Option.getD_none]

def linkedOpportunity : OpportunityRow :=
  ⟨7, "Mint", "BONK", "orca", 1, none, "raydium", 2, none, 50, 30, 20, some 4, 3, some 1⟩

def linkedSimulation : SimulationRow :=
  ⟨1, some 7, 10, wsolMint, some 12, wsolMint, some 2, some 0, some 0, true, none, 4⟩

def scanSimulation : SimulationRow := { linkedSimulation with
  id := 2
  opportunityId := some Uuid.nil
  simulatedAt := 5 }

/-- A simulation of an opportunity and a later one of a scan. -/
def linkedDatabase : Database := { Database.migrated with
  opportunities := ⟨[linkedOpportunity], List.nodup_singleton _⟩
  simulations := ⟨[linkedSimulation, scanSimulation], by decide⟩ }

def linkedResult : List RecentSimulation :=
  [recentSimulation (scanSimulation, none),
    recentSimulation (linkedSimulation, some linkedOpportunity)]

theorem linkedResult_shown : GetRecentSimulations linkedDatabase 50 linkedResult := by
  refine ⟨[(scanSimulation, none), (linkedSimulation, some linkedOpportunity)], ?_, rfl⟩
  exact ⟨_, List.Perm.swap _ _ _, by decide, rfl⟩

theorem recent_simulations_linked :
    linkedResult.map RecentSimulation.tokenSymbol = ["scan", "BONK"] ∧
    (linkedResult.map RecentSimulation.id).Nodup ∧
    linkedResult.length = min 50 linkedDatabase.simulations.rows.length := by
  obtain ⟨_, hnodup, hlength, _⟩ := recent_simulations linkedDatabase 50 linkedResult
    linkedResult_shown
  exact ⟨rfl, hnodup, hlength⟩

/-! ## Aggregates -/

/-- `COALESCE(AVG(column), 0)`. -/
def avg (values : List ℚ) : ℚ := if values = [] then 0 else values.sum / values.length

/-- `COALESCE(AVG(column), 0)` where the column may hold infinities. -/
def avgSpread (values : List (WithTop ℚ)) : WithTop ℚ :=
  if values = [] then 0 else values.sum.map (fun total => total / values.length)

/-- `COALESCE(MAX(column), 0)`. -/
def maximum {α : Type} [Max α] [Zero α] (values : List α) : α := (values.max?).getD 0

structure StatsRow where
  totalOpportunities : ℕ
  avgSpreadBps : WithTop ℚ
  maxSpreadBps : WithTop ℚ
  totalEstimatedProfit : WithTop ℚ
  tokensMonitored : ℕ
  deriving DecidableEq, Repr

def getStats (db : Database) : StatsRow where
  totalOpportunities := db.opportunities.rows.length
  avgSpreadBps := avgSpread (db.opportunities.rows.map OpportunityRow.netSpreadBps)
  maxSpreadBps := maximum (db.opportunities.rows.map OpportunityRow.netSpreadBps)
  totalEstimatedProfit := (db.opportunities.rows.filterMap OpportunityRow.estimatedProfitUsd).sum
  tokensMonitored := (db.opportunities.rows.map OpportunityRow.baseMint).dedup.length

structure SimStatsRow where
  totalSimulations : ℕ
  successful : ℕ
  profitable : ℕ
  avgProfitLamports : ℚ
  bestProfitLamports : ℚ
  totalProfitLamports : ℚ
  deriving DecidableEq, Repr

/-- `simulated_profit_lamports > 0`, not true of `NULL`. -/
def SimulationRow.gains (s : SimulationRow) : Bool :=
  match s.simulatedProfitLamports with
  | none => false
  | some profit => 0 < profit

def getSimulationStats (db : Database) : SimStatsRow :=
  let successful := db.simulations.rows.filter SimulationRow.simulationSuccess
  let profits := successful.filterMap (fun s =>
    s.simulatedProfitLamports.map (fun p => (p.toInt : ℚ)))
  { totalSimulations := db.simulations.rows.length
    successful := successful.length
    profitable := (successful.filter SimulationRow.gains).length
    avgProfitLamports := avg profits
    bestProfitLamports := maximum profits
    totalProfitLamports := profits.sum }

structure SignalStatsRow where
  totalSignals : ℕ
  totalScans : ℕ
  profitableScans : ℕ
  avgSolSize : ℚ
  deriving DecidableEq, Repr

def getSignalStats (db : Database) : SignalStatsRow where
  totalSignals := db.swapSignals.length
  totalScans := (db.swapSignals.filter (fun row => row.triggeredScan = some true)).length
  profitableScans := (db.swapSignals.filter (fun row => row.scanProfitable = some true)).length
  avgSolSize := avg (db.swapSignals.filterMap SwapSignalRow.solEquivalent)

structure DexBreakdownRow where
  buyDex : String
  sellDex : String
  count : ℕ
  avgSpread : WithTop ℚ
  deriving DecidableEq, Repr

def OpportunityRow.route (o : OpportunityRow) : String × String := (o.buyDex, o.sellDex)

/-- `GROUP BY buy_dex, sell_dex`. -/
def routeGroups (rows : List OpportunityRow) : List DexBreakdownRow :=
  (rows.map OpportunityRow.route).dedup.map (fun route =>
    { buyDex := route.1
      sellDex := route.2
      count := (rows.filter (fun o => o.route = route)).length
      avgSpread := Store.avgSpread
        ((rows.filter (fun o => o.route = route)).map OpportunityRow.netSpreadBps) })

def GetDexBreakdown (db : Database) (result : List DexBreakdownRow) : Prop :=
  TopRows (fun g => (g.count : ℤ)) 20 (routeGroups db.opportunities.rows) result

theorem sum_routeGroups (rows : List OpportunityRow) :
    ((routeGroups rows).map DexBreakdownRow.count).sum = rows.length := by
  rw [routeGroups, List.map_map]
  exact sum_group_counts OpportunityRow.route rows

theorem count_pos_of_mem_routeGroups {rows : List OpportunityRow} {g : DexBreakdownRow}
    (hg : g ∈ routeGroups rows) : 0 < g.count := by
  obtain ⟨route, hroute, rfl⟩ := List.mem_map.mp hg
  obtain ⟨o, ho, rfl⟩ := List.mem_map.mp (List.mem_dedup.mp hroute)
  exact List.length_pos_of_mem (List.mem_filter.mpr ⟨ho, decide_eq_true rfl⟩)

/-- The breakdown shows each route at most once, the most frequent ones, with all the
opportunities of a route in its count. Its counts add up to the total of the statistics
exactly when there are no more than 20 routes; otherwise they fall short of it. -/
theorem breakdown_total (db : Database) (result : List DexBreakdownRow)
    (h : GetDexBreakdown db result) :
    (result.map (fun g => (g.buyDex, g.sellDex))).Nodup ∧
    (∀ g ∈ result, g.count =
      (db.opportunities.rows.filter (fun o => o.route = (g.buyDex, g.sellDex))).length) ∧
    (result.map DexBreakdownRow.count).sum ≤ (getStats db).totalOpportunities ∧
    ((result.map DexBreakdownRow.count).sum = (getStats db).totalOpportunities ↔
      (db.opportunities.rows.map OpportunityRow.route).dedup.length ≤ 20) := by
  obtain ⟨hidden, hperm, _⟩ := h.split
  have hmem (g : DexBreakdownRow) (hg : g ∈ result ++ hidden) :
      g ∈ routeGroups db.opportunities.rows := hperm.mem_iff.mp hg
  have hsum : (result.map DexBreakdownRow.count).sum + (hidden.map DexBreakdownRow.count).sum =
      (getStats db).totalOpportunities := by
    rw [← List.sum_append, ← List.map_append, (hperm.map _).sum_eq, sum_routeGroups]
    rfl
  have hlength : result.length =
      min 20 (db.opportunities.rows.map OpportunityRow.route).dedup.length := by
    rw [h.length_eq, routeGroups, List.length_map]
  have htotal : result.length + hidden.length =
      (db.opportunities.rows.map OpportunityRow.route).dedup.length := by
    rw [← List.length_append, hperm.length_eq, routeGroups, List.length_map]
  refine ⟨?_, ?_, by omega, ?_⟩
  · have hall : ((result ++ hidden).map (fun g => (g.buyDex, g.sellDex))).Nodup := by
      rw [(hperm.map _).nodup_iff, routeGroups, List.map_map]
      exact (List.map_id _).symm ▸ List.nodup_dedup _
    rw [List.map_append] at hall
    exact (List.nodup_append.mp hall).1
  · intro g hg
    obtain ⟨route, _, rfl⟩ := List.mem_map.mp (hmem g (List.mem_append_left _ hg))
    rfl
  · constructor
    · intro heq
      have hnone : hidden = [] := by
        cases hidden with
        | nil => rfl
        | cons g rest =>
          have hpos := count_pos_of_mem_routeGroups (hmem g (by simp))
          rw [List.map_cons, List.sum_cons] at hsum
          omega
      rw [hnone, List.length_nil] at htotal
      omega
    · intro hfew
      have hnone : hidden = [] := by
        rw [← List.length_eq_zero_iff]
        omega
      rw [hnone, List.map_nil, List.sum_nil] at hsum
      omega

/-- Two opportunities from Orca to Raydium, one of them bought at a price of zero, and one back. -/
def routedDatabase : Database := { Database.migrated with
  opportunities := ⟨[linkedOpportunity, { linkedOpportunity with id := 8, netSpreadBps := ⊤ },
    { linkedOpportunity with id := 9, buyDex := "raydium", sellDex := "orca" }], by decide⟩ }

def routedBreakdown : List DexBreakdownRow :=
  [⟨"orca", "raydium", 2, ⊤⟩, ⟨"raydium", "orca", 1, 20⟩]

theorem routedBreakdown_shown : GetDexBreakdown routedDatabase routedBreakdown :=
  ⟨routedBreakdown, by decide +kernel, by decide, rfl⟩

theorem breakdown_total_routed :
    (routedBreakdown.map (fun g => (g.buyDex, g.sellDex))).Nodup ∧
    (routedBreakdown.map DexBreakdownRow.count).sum =
      (getStats routedDatabase).totalOpportunities := by
  obtain ⟨hnodup, _, _, htotal⟩ :=
    breakdown_total routedDatabase routedBreakdown routedBreakdown_shown
  exact ⟨hnodup, htotal.mpr (by decide)⟩

end SolanaArb.Store
