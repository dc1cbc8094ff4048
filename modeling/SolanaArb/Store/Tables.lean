import SolanaArb.Types
import SolanaArb.General.Relational
import SolanaArb.Sim.Ledger
import SolanaArb.Sim.JupiterScanner

/-! # The tables and their insertions

Each statement either writes a row or fails and leaves its table alone. A text column
takes a text of its width, and drops excess characters only if they are spaces; no column
takes a zero character. Serial identifiers and the columns filled by `NOW()` are left out.
-/
namespace SolanaArb.Store
open SolanaArb.General

/-- A text in a `TEXT` column. -/
def textColumn (text : String) : Option String :=
  if text.toList.contains (Char.ofNat 0) then none else some text

/-- A text in a `VARCHAR(width)` column. -/
def varchar (width : ℕ) (text : String) : Option String :=
  if text.toList.contains (Char.ofNat 0) then none
  else if (text.toList.drop width).all (fun c => c = ' ') then
    some (String.ofList (text.toList.take width))
  else none

/-- A column that may be `NULL`. -/
def nullable (column : String → Option String) (text : Option String) : Option (Option String) :=
  match text with
  | none => some none
  | some text => (column text).map some

/-- The column stores the text as it is. -/
def Fits (width : ℕ) (text : String) : Prop :=
  text.toList.length ≤ width ∧ Char.ofNat 0 ∉ text.toList

instance (width : ℕ) (text : String) : Decidable (Fits width text) :=
  inferInstanceAs (Decidable (_ ∧ _))

section Columns
variable {width : ℕ} {text : String}

@[simp] theorem varchar_of_fits (h : Fits width text) : varchar width text = some text := by
  have hzero : text.toList.contains (Char.ofNat 0) = false := by
    rw [List.contains_eq_mem]
    exact decide_eq_false h.2
  unfold varchar
  rw [hzero, List.drop_eq_nil_of_le h.1, List.take_of_length_le h.1, String.ofList_toList]
  rfl

end Columns

def sourceText : PriceSource → String
  | .httpPoll => "http_poll"
  | .webSocket => "websocket"
  | .forgeStream => "forge_stream"

def strategyText : Strategy → String
  | .crossVenueArb => "cross_venue_arb"
  | .graduationSnipe => "graduation_snipe"
  | .backRun => "back_run"
  | .samePoolBackRun => "same_pool_back_run"

/-- The texts of the program's own words fit the columns that hold them. -/
theorem words_fit : (∀ dex : Dex, Fits 32 dex.asStr) ∧ (∀ d : SwapDirection, Fits 4 d.display) ∧
    (∀ source, Fits 16 (sourceText source)) ∧ (∀ strategy, Fits 32 (strategyText strategy)) ∧
    (∀ mode : ExecutionMode, Fits 16 mode.asStr) ∧ Fits 44 wsolMint := by
  refine ⟨?_, ?_, ?_, ?_, ?_, by decide⟩
  · intro dex
    cases dex <;> decide
  · intro d
    cases d <;> decide
  · intro source
    cases source <;> decide
  · intro strategy
    cases strategy <;> decide
  · intro mode
    cases mode <;> decide

/-! ## Rows -/

structure PriceSnapshotRow where
  baseMint : String
  dex : String
  priceUsd : ℚ
  liquidityUsd : Option ℚ
  poolAddress : Option String
  source : String
  capturedAt : Timestamp
  deriving DecidableEq, Repr

structure OpportunityRow where
  id : Uuid
  baseMint : String
  tokenSymbol : String
  buyDex : String
  buyPrice : ℚ
  buyPool : Option String
  sellDex : String
  sellPrice : ℚ
  sellPool : Option String
  grossSpreadBps : WithTop ℚ
  estimatedFeesBps : ℚ
  netSpreadBps : WithTop ℚ
  estimatedProfitUsd : Option (WithTop ℚ)
  detectedAt : Timestamp
  detectionLatencyMs : Option Int64
  deriving DecidableEq, Repr

structure SimulationRow where
  id : Uuid
  opportunityId : Option Uuid
  inputAmount : Int64
  inputMint : String
  simulatedOutput : Option Int64
  outputMint : String
  simulatedProfitLamports : Option Int64
  txFeeLamports : Option Int64
  priorityFeeLamports : Option Int64
  simulationSuccess : Bool
  errorMessage : Option String
  simulatedAt : Timestamp
  deriving DecidableEq, Repr

structure SwapSignalRow where
  signature : Option String
  tokenMint : Option String
  platform : Option String
  signer : Option String
  direction : Option String
  solEquivalent : Option ℚ
  triggeredScan : Option Bool
  scanProfitable : Option Bool
  receivedAt : Option Timestamp
  deriving DecidableEq, Repr

structure ExecutionRow where
  id : Uuid
  strategy : String
  mode : String
  tokenMint : String
  tokenSymbol : Option String
  buyDex : Option String
  sellDex : Option String
  inputLamports : Int64
  expectedOutputLamports : Option Int64
  actualOutputLamports : Option Int64
  expectedProfitLamports : Option Int64
  actualProfitLamports : Option Int64
  tipLamports : Option Int64
  txSignature : Option String
  bundleId : Option String
  status : String
  errorMessage : Option String
  simulationUnits : Option Int64
  executedAt : Timestamp
  deriving DecidableEq, Repr

structure ObservationRow where
  signature : Option String
  tokenMint : String
  tokenSymbol : Option String
  dex : String
  poolAddress : String
  triggerDirection : Option String
  triggerSolEquivalent : Option ℚ
  poolImpliedPriceUsd : Option ℚ
  fairPriceUsd : Option ℚ
  deltaBps : Option ℚ
  poolLiquidityUsd : Option ℚ
  observationLatencyMs : Option Int64
  deriving DecidableEq, Repr

structure Database where
  priceSnapshots : List PriceSnapshotRow
  opportunities : KeyedRows OpportunityRow OpportunityRow.id
  simulations : KeyedRows SimulationRow SimulationRow.id
  swapSignals : List SwapSignalRow
  executions : KeyedRows ExecutionRow ExecutionRow.id
  observations : List ObservationRow

/-- The tables after the migrations. -/
def Database.migrated : Database := ⟨[], .empty, .empty, [], .empty, []⟩

/-! ## Insertions -/

/-- The row that a quote is bound to, if every column takes its value. -/
def priceSnapshotRow (q : PriceQuote) : Option PriceSnapshotRow := do
  let baseMint ← varchar 44 q.baseMint
  let dex ← varchar 32 q.dex.asStr
  let poolAddress ← nullable (varchar 64) q.poolAddress
  let source ← varchar 16 (sourceText q.source)
  some {
    baseMint := baseMint
    dex := dex
    priceUsd := q.priceUsd
    liquidityUsd := some q.liquidityUsd
    poolAddress := poolAddress
    source := source
    capturedAt := q.timestamp }

def opportunityRow (id : Uuid) (opp : ArbOpportunity) : Option OpportunityRow := do
  let baseMint ← varchar 44 opp.baseMint
  let tokenSymbol ← varchar 32 opp.tokenSymbol
  let buyDex ← varchar 32 opp.buyDex.asStr
  let buyPool ← nullable (varchar 64) opp.buyPool
  let sellDex ← varchar 32 opp.sellDex.asStr
  let sellPool ← nullable (varchar 64) opp.sellPool
  some {
    id := id
    baseMint := baseMint
    tokenSymbol := tokenSymbol
    buyDex := buyDex
    buyPrice := opp.buyPrice
    buyPool := buyPool
    sellDex := sellDex
    sellPrice := opp.sellPrice
    sellPool := sellPool
    grossSpreadBps := opp.grossSpreadBps
    estimatedFeesBps := opp.estimatedFeesBps
    netSpreadBps := opp.netSpreadBps
    estimatedProfitUsd := some opp.estimatedProfitUsd
    detectedAt := opp.detectedAt
    detectionLatencyMs := some (Int64.ofNat opp.detectionLatencyMs) }

def simulationRow (id : Uuid) (sim : SimResult) : Option SimulationRow := do
  let inputMint ← varchar 44 sim.inputMint
  let outputMint ← varchar 44 sim.outputMint
  let errorMessage ← nullable textColumn sim.errorMessage
  some {
    id := id
    opportunityId := some sim.opportunityId
    inputAmount := sim.inputAmount
    inputMint := inputMint
    simulatedOutput := sim.simulatedOutput
    outputMint := outputMint
    simulatedProfitLamports := sim.simulatedProfitLamports
    txFeeLamports := sim.txFeeLamports
    priorityFeeLamports := sim.priorityFeeLamports
    simulationSuccess := sim.simulationSuccess
    errorMessage := errorMessage
    simulatedAt := sim.simulatedAt }

def swapSignalRow (signal : SwapSignal) (triggeredScan : Bool) (scanProfitable : Option Bool) :
    Option SwapSignalRow := do
  let signature ← varchar 88 signal.signature
  let tokenMint ← varchar 44 signal.tokenMint
  let platform ← varchar 32 signal.platform.asStr
  let signer ← varchar 44 signal.signer
  let direction ← varchar 4 signal.direction.display
  some {
    signature := some signature
    tokenMint := some tokenMint
    platform := some platform
    signer := some signer
    direction := some direction
    solEquivalent := some signal.solEquivalent
    triggeredScan := some triggeredScan
    scanProfitable := scanProfitable
    receivedAt := some signal.timestamp }

def executionRow (id : Uuid) (exec : ExecutionResult) : Option ExecutionRow := do
  let strategy ← varchar 32 (strategyText exec.strategy)
  let mode ← varchar 16 exec.mode.asStr
  let tokenMint ← varchar 44 exec.tokenMint
  let tokenSymbol ← varchar 32 exec.tokenSymbol
  let buyDex ← nullable (varchar 32) exec.buyDex
  let sellDex ← nullable (varchar 32) exec.sellDex
  let txSignature ← nullable (varchar 88) exec.txSignature
  let bundleId ← nullable (varchar 88) exec.bundleId
  let status ← varchar 16 exec.status
  let errorMessage ← nullable textColumn exec.errorMessage
  some {
    id := id
    strategy := strategy
    mode := mode
    tokenMint := tokenMint
    tokenSymbol := some tokenSymbol
    buyDex := buyDex
    sellDex := sellDex
    inputLamports := exec.inputLamports
    expectedOutputLamports := exec.expectedOutputLamports
    actualOutputLamports := exec.actualOutputLamports
    expectedProfitLamports := exec.expectedProfitLamports
    actualProfitLamports := exec.actualProfitLamports
    tipLamports := exec.tipLamports
    txSignature := txSignature
    bundleId := bundleId
    status := status
    errorMessage := errorMessage
    simulationUnits := exec.simulationUnits
    executedAt := exec.executedAt }

/-- The values that an observation's statement binds. -/
structure ObservationInsert where
  signature : Option String
  tokenMint : String
  tokenSymbol : Option String
  dex : String
  poolAddress : String
  triggerDirection : String
  triggerSolEquivalent : ℚ
  poolImpliedPriceUsd : ℚ
  fairPriceUsd : ℚ
  deltaBps : ℚ
  poolLiquidityUsd : ℚ
  observationLatencyMs : Int64
  deriving DecidableEq, Repr

def observationRow (o : ObservationInsert) : Option ObservationRow := do
  let signature ← nullable (varchar 88) o.signature
  let tokenMint ← varchar 44 o.tokenMint
  let tokenSymbol ← nullable (varchar 32) o.tokenSymbol
  let dex ← varchar 32 o.dex
  let poolAddress ← varchar 64 o.poolAddress
  let triggerDirection ← varchar 4 o.triggerDirection
  some {
    signature := signature
    tokenMint := tokenMint
    tokenSymbol := tokenSymbol
    dex := dex
    poolAddress := poolAddress
    triggerDirection := some triggerDirection
    triggerSolEquivalent := some o.triggerSolEquivalent
    poolImpliedPriceUsd := some o.poolImpliedPriceUsd
    fairPriceUsd := some o.fairPriceUsd
    deltaBps := some o.deltaBps
    poolLiquidityUsd := some o.poolLiquidityUsd
    observationLatencyMs := some o.observationLatencyMs }

namespace Database

def insertPriceSnapshot (db : Database) (q : PriceQuote) : Option Database :=
  (priceSnapshotRow q).map (fun row => { db with priceSnapshots := db.priceSnapshots ++ [row] })

/-- The loop ends at the first quote that fails; the quotes before it are stored. -/
def insertPriceSnapshots (db : Database) : List PriceQuote → Database × Bool
  | [] => (db, true)
  | q :: quotes =>
    match db.insertPriceSnapshot q with
    | none => (db, false)
    | some db' => db'.insertPriceSnapshots quotes

def insertOpportunity (db : Database) (id : Uuid) (opp : ArbOpportunity) : Option Database := do
  let row ← opportunityRow id opp
  let opportunities ← db.opportunities.insert? row
  some { db with opportunities := opportunities }

def insertSimulation (db : Database) (id : Uuid) (sim : SimResult) : Option Database := do
  let row ← simulationRow id sim
  let simulations ← db.simulations.insert? row
  some { db with simulations := simulations }

def insertSignal (db : Database) (signal : SwapSignal) (triggeredScan : Bool)
    (scanProfitable : Option Bool) : Option Database :=
  (swapSignalRow signal triggeredScan scanProfitable).map (fun row =>
    { db with swapSignals := db.swapSignals ++ [row] })

def insertExecution (db : Database) (id : Uuid) (exec : ExecutionResult) : Option Database := do
  let row ← executionRow id exec
  let executions ← db.executions.insert? row
  some { db with executions := executions }

def insertObservation (db : Database) (o : ObservationInsert) : Option Database :=
  (observationRow o).map (fun row => { db with observations := db.observations ++ [row] })

end Database

end SolanaArb.Store
