import SolanaArb.Detect.Emissions
import SolanaArb.Store.Tables

/-! # The opportunities and the price history behind them

The main loop stores every quote before the detector sees it, and the opportunity the
detector makes of it, if any. While it runs it is the only writer of the two tables, and it
goes on when a statement fails. What a quote needs to be stored, its side of an opportunity
needs as well: so an opportunity it stores has both of its prices in the history.
-/
namespace SolanaArb.PriceHistory
open SolanaArb.General SolanaArb.Store SolanaArb.Detector SolanaArb.PriceGraph

/-- A quote with what its iteration observes, the identifier of an opportunity it may lead to,
and whether the database answers the two statements. -/
structure Handling where
  event : Detector.Event
  id : Uuid
  snapshotAnswered : Bool
  opportunityAnswered : Bool

/-- The loop runs on whatever the tables hold when it starts. -/
structure State where
  detector : Detector
  db : Database

def storeSnapshot (db : Database) (h : Handling) : Database :=
  if h.snapshotAnswered then (db.insertPriceSnapshots [h.event.quote]).1 else db

def storeOpportunity (db : Database) (h : Handling) : Option ArbOpportunity → Database
  | none => db
  | some opp => if h.opportunityAnswered then (db.insertOpportunity h.id opp).getD db else db

def State.handle (s : State) (h : Handling) : State :=
  let db := storeSnapshot s.db h
  let (detector, opp, _) :=
    s.detector.process h.event.iter h.event.receivedAt h.event.now h.event.quote
  ⟨detector, storeOpportunity db h opp⟩

def history (d : Detector) (db : Database) (hs : List Handling) : State :=
  hs.foldl State.handle ⟨d, db⟩

/-- The rows of all opportunities the detector makes of these quotes, as far as their columns
take them. -/
def offered (d : Detector) : List Handling → List OpportunityRow
  | [] => []
  | h :: hs => ((d.emitted h.event).bind (fun x => opportunityRow h.id x.opp)).toList ++
      offered (d.next h.event) hs

section Rows
variable {d : Detector} {db : Database} {h : Handling} {hs : List Handling}

theorem offered_snoc (d : Detector) (hs : List Handling) (h : Handling) :
    offered d (hs ++ [h]) = offered d hs ++
      (((replay d (hs.map Handling.event)).emitted h.event).bind
        (fun x => opportunityRow h.id x.opp)).toList := by
  induction hs generalizing d with
  | nil => simp [offered, replay]
  | cons first hs ih =>
    rw [List.cons_append, offered, offered, ih, List.append_assoc]
    rfl

theorem storeSnapshot_frame (db : Database) (h : Handling) :
    (storeSnapshot db h).opportunities = db.opportunities ∧
    (storeSnapshot db h).priceSnapshots = db.priceSnapshots ++
      (if h.snapshotAnswered then priceSnapshotRow h.event.quote else none).toList := by
  unfold storeSnapshot
  split
  · unfold Database.insertPriceSnapshots Database.insertPriceSnapshot
    cases priceSnapshotRow h.event.quote with
    | none => simp
    | some row => exact ⟨rfl, rfl⟩
  · simp

/-- What a row holds, and what its text columns have taken. -/
structure RowOf (opp : ArbOpportunity) (row : OpportunityRow) : Prop where
  baseMint : varchar 44 opp.baseMint = some row.baseMint
  buyDex : varchar 32 opp.buyDex.asStr = some row.buyDex
  buyPool : nullable (varchar 64) opp.buyPool = some row.buyPool
  sellDex : varchar 32 opp.sellDex.asStr = some row.sellDex
  sellPool : nullable (varchar 64) opp.sellPool = some row.sellPool
  buyPrice : row.buyPrice = opp.buyPrice
  sellPrice : row.sellPrice = opp.sellPrice
  gross : row.grossSpreadBps = opp.grossSpreadBps
  fees : row.estimatedFeesBps = opp.estimatedFeesBps
  net : row.netSpreadBps = opp.netSpreadBps
  profit : row.estimatedProfitUsd = some opp.estimatedProfitUsd

theorem opportunityRow_eq_some {id : Uuid} {opp : ArbOpportunity} {row : OpportunityRow}
    (h : opportunityRow id opp = some row) : row.id = id ∧ RowOf opp row := by
  unfold opportunityRow at h
  obtain ⟨baseMint, hbase, h⟩ := Option.bind_eq_some_iff.mp h
  obtain ⟨tokenSymbol, _, h⟩ := Option.bind_eq_some_iff.mp h
  obtain ⟨buyDex, hbuyDex, h⟩ := Option.bind_eq_some_iff.mp h
  obtain ⟨buyPool, hbuyPool, h⟩ := Option.bind_eq_some_iff.mp h
  obtain ⟨sellDex, hsellDex, h⟩ := Option.bind_eq_some_iff.mp h
  obtain ⟨sellPool, hsellPool, h⟩ := Option.bind_eq_some_iff.mp h
  obtain rfl := Option.some.inj h
  exact ⟨rfl, ⟨hbase, hbuyDex, hbuyPool, hsellDex, hsellPool, rfl, rfl, rfl, rfl, rfl, rfl⟩⟩

theorem insertOpportunity_cases (db : Database) (id : Uuid) (opp : ArbOpportunity) :
    ((db.insertOpportunity id opp).getD db).priceSnapshots = db.priceSnapshots ∧
    (((db.insertOpportunity id opp).getD db).opportunities.rows = db.opportunities.rows ++
        (opportunityRow id opp).toList ∨
      ((db.insertOpportunity id opp).getD db).opportunities.rows = db.opportunities.rows ∧
        id ∈ db.opportunities.rows.map OpportunityRow.id) := by
  unfold Database.insertOpportunity
  cases hrow : opportunityRow id opp with
  | none => exact ⟨rfl, Or.inl (List.append_nil _).symm⟩
  | some row =>
    have hid := (opportunityRow_eq_some hrow).1
    rw [Option.bind_eq_bind, Option.bind_some]
    cases hinsert : db.opportunities.insert? row with
    | none =>
      refine ⟨rfl, Or.inr ⟨rfl, ?_⟩⟩
      unfold KeyedRows.insert? at hinsert
      split at hinsert
      · next htaken => rwa [hid] at htaken
      · cases hinsert
    | some opportunities => exact ⟨rfl, Or.inl (KeyedRows.insert?_eq_some hinsert).2⟩

/-- The opportunity's statement writes its row or nothing, and its row if it is answered and the
identifier is free. -/
theorem storeOpportunity_cases (db : Database) (h : Handling) (opp : Option ArbOpportunity) :
    (storeOpportunity db h opp).priceSnapshots = db.priceSnapshots ∧
    ((storeOpportunity db h opp).opportunities.rows = db.opportunities.rows ++
        (opp.bind (opportunityRow h.id)).toList ∨
      (storeOpportunity db h opp).opportunities.rows = db.opportunities.rows ∧
        (h.opportunityAnswered = true → h.id ∈ db.opportunities.rows.map OpportunityRow.id)) := by
  cases opp with
  | none => exact ⟨rfl, Or.inl (List.append_nil _).symm⟩
  | some opp =>
    unfold storeOpportunity
    cases h.opportunityAnswered with
    | false => exact ⟨rfl, Or.inr ⟨rfl, nofun⟩⟩
    | true =>
      obtain ⟨hsnapshots, hrows⟩ := insertOpportunity_cases db h.id opp
      exact ⟨hsnapshots, hrows.imp_right fun hkept => ⟨hkept.1, fun _ => hkept.2⟩⟩

end Rows

/-- Where the loop is after some quotes: the detector where it would be without a database, and
in the tables, after what they held before, what the statements have written. -/
structure Kept (d : Detector) (before : Database) (hs : List Handling)
    (written : List OpportunityRow) (s : State) : Prop where
  detector : s.detector = replay d (hs.map Handling.event)
  snapshots : s.db.priceSnapshots = before.priceSnapshots ++ hs.filterMap (fun h =>
    if h.snapshotAnswered then priceSnapshotRow h.event.quote else none)
  rows : s.db.opportunities.rows = before.opportunities.rows ++ written
  offered : written.Sublist (offered d hs)
  ids : ∀ row ∈ written, row.id ∈ hs.map Handling.id
  complete : (∀ h ∈ hs, h.opportunityAnswered = true) → (hs.map Handling.id).Nodup →
    (∀ row ∈ before.opportunities.rows, row.id ∉ hs.map Handling.id) →
    written = PriceHistory.offered d hs

section History
variable {d : Detector} {before : Database} {written : List OpportunityRow} {s : State}
  {hs : List Handling} {h : Handling}

theorem handle_eq (s : State) (h : Handling) : s.handle h =
    ⟨s.detector.next h.event,
      storeOpportunity (storeSnapshot s.db h) h ((s.detector.emitted h.event).map Emitted.opp)⟩ := by
  rw [emitted_opp]
  rfl

theorem Kept.handle (hk : Kept d before hs written s) (h : Handling) :
    ∃ written', Kept d before (hs ++ [h]) written' (s.handle h) := by
  obtain ⟨hopps, hsnaps⟩ := storeSnapshot_frame s.db h
  obtain ⟨hsame, hrows⟩ := storeOpportunity_cases (storeSnapshot s.db h) h
    ((s.detector.emitted h.event).map Emitted.opp)
  let made := (((s.detector.emitted h.event).map Emitted.opp).bind (opportunityRow h.id)).toList
  have hoffered : PriceHistory.offered d (hs ++ [h]) = PriceHistory.offered d hs ++ made := by
    rw [offered_snoc, ← hk.detector]
    simp only [made, Option.bind_map]
    rfl
  have hmade (row : OpportunityRow) (hmem : row ∈ made) : row.id = h.id := by
    obtain ⟨opp, _, hopp⟩ := Option.bind_eq_some_iff.mp (Option.mem_toList.mp hmem)
    exact (opportunityRow_eq_some hopp).1
  have hdetector : s.detector.next h.event = replay d ((hs ++ [h]).map Handling.event) := by
    rw [List.map_append, List.map_singleton, replay_snoc, hk.detector]
  have hsnapshots : (storeSnapshot s.db h).priceSnapshots = before.priceSnapshots ++
      (hs ++ [h]).filterMap (fun h =>
        if h.snapshotAnswered then priceSnapshotRow h.event.quote else none) := by
    rw [hsnaps, hk.snapshots, List.filterMap_append, List.append_assoc]
    cases hrow : if h.snapshotAnswered then priceSnapshotRow h.event.quote else none with
    | none => simp [hrow]
    | some row => simp [hrow]
  rw [handle_eq]
  rw [hopps] at hrows
  rcases hrows with hrows | ⟨hrows, htaken⟩
  · refine ⟨written ++ made, hdetector, hsame.trans hsnapshots, ?_, ?_, ?_, ?_⟩
    · rw [hrows, hk.rows, List.append_assoc]
    · rw [hoffered]
      exact hk.offered.append (List.Sublist.refl _)
    · intro row hmem
      rw [List.map_append, List.mem_append, List.map_singleton, List.mem_singleton]
      exact (List.mem_append.mp hmem).imp (hk.ids row) (hmade row)
    · intro hanswered hdistinct hfree
      rw [List.map_append, List.nodup_append] at hdistinct
      rw [hoffered, hk.complete (fun h hh => hanswered h (List.mem_append_left _ hh)) hdistinct.1]
      intro row hrow hmem
      exact hfree row hrow (List.map_append ▸ List.mem_append_left _ hmem)
  · refine ⟨written, hdetector, hsame.trans hsnapshots, hrows.trans hk.rows, ?_, ?_, ?_⟩
    · rw [hoffered]
      exact hk.offered.trans (List.sublist_append_left _ _)
    · intro row hmem
      rw [List.map_append]
      exact List.mem_append_left _ (hk.ids row hmem)
    · -- Answered and not written: the identifier was taken, before the run or in it.
      intro hanswered hdistinct hfree
      rw [List.map_append, List.map_singleton, List.nodup_append] at hdistinct
      obtain ⟨row, hmem, hid⟩ := List.mem_map.mp
        (htaken (hanswered h (List.mem_append_right _ (List.mem_singleton_self h))))
      rw [hk.rows] at hmem
      rcases List.mem_append.mp hmem with hold | hnew
      · exact absurd (by rw [hid]; simp) (hfree row hold)
      · exact absurd hid (hdistinct.2.2 row.id (hk.ids row hnew) h.id List.mem_cons_self)

theorem history_snoc (d : Detector) (db : Database) (hs : List Handling) (h : Handling) :
    history d db (hs ++ [h]) = (history d db hs).handle h := by
  simp [history]

theorem history_kept (d : Detector) (db : Database) (hs : List Handling) :
    ∃ written, Kept d db hs written (history d db hs) := by
  induction hs using List.reverseRecOn with
  | nil =>
    refine ⟨[], rfl, (List.append_nil _).symm, (List.append_nil _).symm, List.Sublist.refl _, ?_,
      fun _ _ _ => rfl⟩
    intro row hmem
    cases hmem
  | append_singleton hs h ih =>
    obtain ⟨written, hk⟩ := ih
    rw [history_snoc]
    exact hk.handle h

/-- An offered row is that of an emitted opportunity. -/
theorem mem_offered {row : OpportunityRow} (h : row ∈ offered d hs) :
    ∃ x ∈ emissions d (hs.map Handling.event), RowOf x.opp row := by
  induction hs generalizing d with
  | nil => cases h
  | cons first hs ih =>
    rw [offered, List.mem_append] at h
    rw [List.map_cons, emissions]
    rcases h with hfirst | hrest
    · obtain ⟨x, hx, hrow⟩ := Option.bind_eq_some_iff.mp (Option.mem_toList.mp hfirst)
      exact ⟨x, List.mem_append_left _ (Option.mem_toList.mpr hx), (opportunityRow_eq_some hrow).2⟩
    · obtain ⟨x, hx, hrow⟩ := ih hrest
      exact ⟨x, List.mem_append_right _ hx, hrow⟩

end History

/-- A quote whose mint and pool fit their columns has a row. -/
theorem priceSnapshotRow_of_fits {q : PriceQuote} {baseMint dex : String}
    {pool : Option String} (hmint : varchar 44 q.baseMint = some baseMint)
    (hdex : varchar 32 q.dex.asStr = some dex)
    (hpool : nullable (varchar 64) q.poolAddress = some pool) :
    ∃ row, priceSnapshotRow q = some row ∧ row.baseMint = baseMint ∧ row.dex = dex ∧
      row.poolAddress = pool ∧ row.priceUsd = q.priceUsd := by
  have hsource : varchar 16 (sourceText q.source) = some (sourceText q.source) :=
    varchar_of_fits (words_fit.2.2.1 q.source)
  refine ⟨⟨baseMint, dex, q.priceUsd, some q.liquidityUsd, pool, sourceText q.source,
    q.timestamp⟩, ?_, rfl, rfl, rfl, rfl⟩
  rw [priceSnapshotRow, hmint, hdex, hpool, hsource]
  rfl

/-- The two prices of an opportunity, and all its numbers as they come out of them. -/
structure Backs (minSpreadBps : ℚ) (row : OpportunityRow) (buy sell : PriceSnapshotRow) : Prop where
  mints : buy.baseMint = row.baseMint ∧ sell.baseMint = row.baseMint
  buySide : (buy.dex, buy.poolAddress, buy.priceUsd) = (row.buyDex, row.buyPool, row.buyPrice)
  sellSide : (sell.dex, sell.poolAddress, sell.priceUsd) = (row.sellDex, row.sellPool, row.sellPrice)
  cheaper : buy.priceUsd < sell.priceUsd
  gross : row.grossSpreadBps = if buy.priceUsd = 0 then (⊤ : WithTop ℚ) else
    ((sell.priceUsd - buy.priceUsd) / buy.priceUsd * 10000 : ℚ)
  fees : ∃ buyDex sellDex : Dex, buy.dex = buyDex.asStr ∧ sell.dex = sellDex.asStr ∧
    row.estimatedFeesBps = buyDex.feeBps + sellDex.feeBps
  net : row.netSpreadBps = row.grossSpreadBps.map (fun gross => gross - row.estimatedFeesBps)
  profit : row.estimatedProfitUsd = some (row.netSpreadBps.map (fun net => 1000 * (net / 10000)))
  enough : minSpreadBps ≤ row.netSpreadBps

theorem dex_stored {dex : Dex} {text : String} (h : varchar 32 dex.asStr = some text) :
    text = dex.asStr := by
  rw [varchar_of_fits (words_fit.1 dex)] at h
  exact (Option.some.inj h).symm

/-- The row of an opportunity made of two quotes has the rows of both behind it. -/
theorem RowOf.backed {minSpreadBps : ℚ} {d : Detector} {receivedAt : Timestamp}
    {buy sell : PriceQuote} {row : OpportunityRow}
    (hof : RowOf (Detector.opportunity d receivedAt buy.baseMint buy sell) row)
    (hmint : sell.baseMint = buy.baseMint) (hlt : buy.priceUsd < sell.priceUsd)
    (hmin : minSpreadBps ≤ netSpreadBps buy sell) :
    ∃ a b, priceSnapshotRow buy = some a ∧ priceSnapshotRow sell = some b ∧
      Backs minSpreadBps row a b := by
  have hsellMint : varchar 44 sell.baseMint = some row.baseMint := hmint ▸ hof.baseMint
  obtain ⟨a, ha, haMint, haDex, haPool, haPrice⟩ :=
    priceSnapshotRow_of_fits hof.baseMint hof.buyDex hof.buyPool
  obtain ⟨b, hb, hbMint, hbDex, hbPool, hbPrice⟩ :=
    priceSnapshotRow_of_fits hsellMint hof.sellDex hof.sellPool
  have hnet : row.netSpreadBps = netSpreadBps buy sell := hof.net
  refine ⟨a, b, ha, hb, ⟨⟨haMint, hbMint⟩, ?_, ?_, ?_, ?_, ?_, ?_, ?_, ?_⟩⟩
  · rw [haDex, haPool, haPrice, hof.buyPrice]
    rfl
  · rw [hbDex, hbPool, hbPrice, hof.sellPrice]
    rfl
  · rwa [haPrice, hbPrice]
  · rw [haPrice, hbPrice, hof.gross]
    rfl
  · exact ⟨buy.dex, sell.dex, haDex.trans (dex_stored hof.buyDex),
      hbDex.trans (dex_stored hof.sellDex), hof.fees⟩
  · rw [hof.net, hof.gross, hof.fees]
    rfl
  · rw [hof.profit, hnet]
    rfl
  · rwa [hnet]

/-- The loop adds to the table the opportunities its detector makes of the quotes, in order and
none that it does not make: all of them, each once, where the statements are answered and the
identifiers are new. Whichever of them fail, as long as the quotes were stored every opportunity
it adds has the two prices it compares in the price history. -/
theorem opportunities_backed (minSpreadBps : ℚ) (maxQuoteAgeSecs : ℤ)
    (tokenLabels : List (String × String)) (before : Database) (hs : List Handling) :
    let d := labelled minSpreadBps maxQuoteAgeSecs tokenLabels
    let after := (history d before hs).db
    ∃ written, after.opportunities.rows = before.opportunities.rows ++ written ∧
      written.Sublist (offered d hs) ∧
      ((∀ h ∈ hs, h.opportunityAnswered = true) → (hs.map Handling.id).Nodup →
        (∀ row ∈ before.opportunities.rows, row.id ∉ hs.map Handling.id) →
        written = offered d hs) ∧
      ((∀ h ∈ hs, h.snapshotAnswered = true) → ∀ row ∈ written,
        ∃ buy ∈ after.priceSnapshots, ∃ sell ∈ after.priceSnapshots,
          Backs minSpreadBps row buy sell) := by
  intro d after
  obtain ⟨written, hk⟩ := history_kept d before hs
  refine ⟨written, hk.rows, hk.offered, hk.complete, ?_⟩
  intro hanswered row hrow
  obtain ⟨x, hx, hof⟩ := mem_offered (hk.offered.subset hrow)
  obtain ⟨symbols, hd⟩ := labelled_eq_start minSpreadBps maxQuoteAgeSecs tokenLabels
  rw [show d = start minSpreadBps maxQuoteAgeSecs symbols from hd] at hx
  obtain ⟨earlier, e, hprefix, buy, sell, hclearing, _, _, d', hopp⟩ := emissions_made hx
  have hmint : sell.baseMint = buy.baseMint :=
    congrArg Prod.fst (hclearing.pairKeys.2.trans hclearing.pairKeys.1.symm)
  have hstored (q : PriceQuote) (hq : q ∈ received (earlier ++ [e])) (r : PriceSnapshotRow)
      (hr : priceSnapshotRow q = some r) : r ∈ after.priceSnapshots := by
    obtain ⟨e', he', rfl⟩ := List.mem_map.mp (received_earlier hprefix hq)
    obtain ⟨h, hh, rfl⟩ := List.mem_map.mp he'
    rw [hk.snapshots, List.mem_append, List.mem_filterMap]
    exact Or.inr ⟨h, hh, by rw [if_pos (hanswered h hh), hr]⟩
  rw [hopp] at hof
  obtain ⟨a, b, ha, hb, hbacks⟩ := hof.backed hmint hclearing.cheaper hclearing.enough
  exact ⟨a, hstored buy hclearing.mem.1 a ha, b, hstored sell hclearing.mem.2 b hb, hbacks⟩

/-- Orca at 1 and then Raydium at 11/10, with both statements answered. -/
def twoVenues : List Handling :=
  [⟨sampleEvent orcaQuote, 1, true, true⟩, ⟨sampleEvent raydiumQuote, 2, true, true⟩]

theorem twoVenues_offered :
    (offered (labelled 30 10 []) twoVenues).map OpportunityRow.id = [2] := by
  decide +kernel

theorem opportunities_backed_two_venues :
    ∃ row, (history (labelled 30 10 []) .migrated twoVenues).db.opportunities.rows = [row] ∧
      ∃ buy ∈ (history (labelled 30 10 []) .migrated twoVenues).db.priceSnapshots,
        ∃ sell ∈ (history (labelled 30 10 []) .migrated twoVenues).db.priceSnapshots,
          Backs 30 row buy sell := by
  obtain ⟨written, hrows, _, hcomplete, hbacked⟩ :=
    opportunities_backed 30 10 [] .migrated twoVenues
  have hwritten := hcomplete (by decide) (by decide) (fun _ hrow => absurd hrow List.not_mem_nil)
  obtain ⟨row, hone, _⟩ := List.map_eq_singleton_iff.mp twoVenues_offered
  rw [← hwritten] at hone
  refine ⟨row, hrows.trans (by rw [hone]; rfl), ?_⟩
  exact hbacked (by decide) row (hone ▸ List.mem_singleton_self row)

end SolanaArb.PriceHistory
