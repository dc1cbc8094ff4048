import SolanaArb.Sim.ScanResults

/-! # Simulations of detected opportunities

Both legs of an opportunity are quoted on its two DEXs, as far as the API has a name for
them, each once more without the restriction when that request fails. The atomic simulation
takes unrestricted quotes and its own costs. All of them price one round trip; what they
record differs.
-/
namespace SolanaArb
open JupiterQuoteClient General

/-- `q as i64`: truncated towards zero and clamped into range. -/
def f64ToI64 (q : ℚ) : Int64 :=
  Int64.ofInt (max (-2^63) (min (if 0 ≤ q then q.floor else q.ceil) (2^63 - 1)))

structure Simulator where
  tradeSizeLamports : UInt64
  slippageBps : UInt16

namespace Simulator

def baseTxFee : Int64 := 5000
def priorityFee : Int64 := 1000000
def executionPenaltyBps : ℚ := 50

def new : Simulator where
  tradeSizeLamports := 1000000000
  slippageBps := 50

variable (s : Simulator)

def computeTradeSize (solUsd : ℚ) (opp : ArbOpportunity) : UInt64 :=
  if solUsd ≤ 0 then s.tradeSizeLamports
  else if opp.estimatedProfitUsd < (1/10 : ℚ) then 1000000000
  else s.tradeSizeLamports

def failedResult (opportunityId : Uuid) (error : String) (failedAt : Timestamp) : SimResult where
  opportunityId := opportunityId
  inputAmount := s.tradeSizeLamports.toInt64
  inputMint := wsolMint
  simulatedOutput := none
  outputMint := wsolMint
  simulatedProfitLamports := none
  txFeeLamports := none
  priorityFeeLamports := none
  simulationSuccess := false
  errorMessage := some error
  simulatedAt := failedAt

/-- A leg on the given DEX, else on any. The error is that of the first request. With it
comes the number of the next request. -/
def quoteLeg (api : Api) (call : ℕ) (inputMint outputMint : String) (amount : UInt64)
    (dex : Dex) : Except String QuoteResponse × ℕ :=
  match getQuote api call inputMint outputMint amount s.slippageBps (some dex) with
  | .ok q => (.ok q, call + 1)
  | .error e =>
    match getQuote api (call + 1) inputMint outputMint amount s.slippageBps none with
    | .ok q => (.ok q, call + 2)
    | .error _ => (.error e, call + 2)

/-- The row of a simulation whose last leg was quoted this amount. -/
def simulated (opportunityId : Uuid) (tradeLamports leg2Out : UInt64) (now : Timestamp) :
    SimResult :=
  let penalty := f64ToI64 (leg2Out.toNat * (executionPenaltyBps / 10000))
  let realisticOutput := leg2Out.toInt64 - penalty
  let txFees := baseTxFee * 2
  let priorityFees := priorityFee * 2
  let grossProfit := realisticOutput - tradeLamports.toInt64
  let netProfit := grossProfit - txFees - priorityFees
  { opportunityId := opportunityId
    inputAmount := tradeLamports.toInt64
    inputMint := wsolMint
    simulatedOutput := some realisticOutput
    outputMint := wsolMint
    simulatedProfitLamports := some netProfit
    txFeeLamports := some txFees
    priorityFeeLamports := some priorityFees
    simulationSuccess := true
    errorMessage := none
    simulatedAt := now }

/-- A failure is recorded at the time it is met, a result at the time of the call. -/
def simulate (api : Api) (solUsd : ℚ) (opportunityId : Uuid) (opp : ArbOpportunity)
    (now failedAt : Timestamp) : Except String SimResult :=
  let tradeLamports := s.computeTradeSize solUsd opp
  match s.quoteLeg api 0 wsolMint opp.baseMint tradeLamports opp.buyDex with
  | (.error e, _) => .ok (s.failedResult opportunityId s!"Leg 1 quote: {e}" failedAt)
  | (.ok leg1, call) =>
    match parseU64 leg1.outAmount with
    | .error _ => .error "Failed to parse leg 1 out_amount"
    | .ok leg1Out =>
      if leg1Out = 0 then
        .ok (s.failedResult opportunityId "Leg 1 returned zero output" failedAt)
      else
        match s.quoteLeg api call opp.baseMint wsolMint leg1Out opp.sellDex with
        | (.error e, _) => .ok (s.failedResult opportunityId s!"Leg 2 quote: {e}" failedAt)
        | (.ok leg2, _) =>
          match parseU64 leg2.outAmount with
          | .error _ => .error "Failed to parse leg 2 out_amount"
          | .ok leg2Out => .ok (simulated opportunityId tradeLamports leg2Out now)

end Simulator

/-- The row of an atomic simulation whose last leg was quoted this amount. -/
def atomicResult (amountLamports leg2Out : UInt64) (now : Timestamp) : SimResult :=
  let input := amountLamports.toInt64
  let output := leg2Out.toInt64
  let txFees : Int64 := 210000
  let gross := output - input
  let net := gross - txFees
  { opportunityId := Uuid.nil
    inputAmount := input
    inputMint := wsolMint
    simulatedOutput := some output
    outputMint := wsolMint
    simulatedProfitLamports := some net
    txFeeLamports := some txFees
    priorityFeeLamports := some 200000
    simulationSuccess := decide (0 < net)
    errorMessage := if net ≤ 0 then some s!"unprofitable: {net} lamports" else none
    simulatedAt := now }

def simulateAtomicRoundTrip (api : Api) (tokenMint : String) (amountLamports : UInt64)
    (slippageBps : UInt16) (now : Timestamp) : Except String SimResult := do
  let leg1 ← (getQuote api 0 wsolMint tokenMint amountLamports slippageBps none).mapError
    (fun _ => "Atomic leg 1 quote failed")
  let leg1Out ← parseU64 leg1.outAmount
  if leg1Out = 0 then .error "Leg 1 returned zero output"
  else
    let leg2 ← (getQuote api 1 tokenMint wsolMint leg1Out slippageBps none).mapError
      (fun _ => "Atomic leg 2 quote failed")
    let leg2Out ← parseU64 leg2.outAmount
    .ok (atomicResult amountLamports leg2Out now)

/-- The tip that goes with a bundle. -/
def calculateTip (expectedProfitLamports : Int64) : UInt64 :=
  if expectedProfitLamports ≤ 0 then 10000
  else maxU64 (f64ToU64 (expectedProfitLamports.toInt * (1/2))) 10000

/-- The answer to the request with the DEX or, when that fails, to the unrestricted one. The
first is unrestricted as well where `dexToJupiterName` has no name for the DEX. -/
def LegTaken (api : Api) (call : ℕ) (inputMint outputMint : String) (amount : UInt64)
    (slippageBps : UInt16) (dex : Dex) (leg : QuoteResponse) (next : ℕ) : Prop :=
  getQuote api call inputMint outputMint amount slippageBps (some dex) = .ok leg ∧
      next = call + 1 ∨
    (∃ e, getQuote api call inputMint outputMint amount slippageBps (some dex) = .error e) ∧
      getQuote api (call + 1) inputMint outputMint amount slippageBps none = .ok leg ∧
      next = call + 2

/-- Both requests for a leg fail, the first with this error. -/
def LegRefused (api : Api) (call : ℕ) (inputMint outputMint : String) (amount : UInt64)
    (slippageBps : UInt16) (dex : Dex) (e : String) : Prop :=
  getQuote api call inputMint outputMint amount slippageBps (some dex) = .error e ∧
    ∃ e', getQuote api (call + 1) inputMint outputMint amount slippageBps none = .error e'

/-- The API that answers two requests with these quotes. -/
def replayQuotes (leg1 leg2 : QuoteResponse) : Api :=
  fun call _ => .ok (if call = 0 then leg1 else leg2)

/-- The costs a row records beyond those taken off its profit. -/
def SimResult.overRecorded (row : SimResult) : Option Int64 := do
  let output ← row.simulatedOutput
  let profit ← row.simulatedProfitLamports
  let fee ← row.txFeeLamports
  let priority ← row.priorityFeeLamports
  some (fee + priority - (output - row.inputAmount - profit))

section Costs

theorem penalised_toInt64 (quoted : UInt64) : quoted.toInt64 -
    f64ToI64 (quoted.toNat * (Simulator.executionPenaltyBps / 10000)) =
      (applyExecutionPenalty quoted).toInt64 := by
  have hlt := quoted.toNat_lt
  have hfrac : (quoted.toNat : ℚ) * (Simulator.executionPenaltyBps / 10000) =
      (quoted.toNat : ℚ) / (200 : ℕ) := by
    rw [Simulator.executionPenaltyBps]
    push_cast
    ring
  have hfloor : ((quoted.toNat : ℚ) / (200 : ℕ)).floor = ((quoted.toNat / 200 : ℕ) : ℤ) := by
    change ⌊(quoted.toNat : ℚ) / (200 : ℕ)⌋ = _
    rw [Rat.floor_natCast_div_natCast]
    omega
  have hpenalty : f64ToI64 (quoted.toNat * (Simulator.executionPenaltyBps / 10000)) =
      Int64.ofNat (quoted.toNat / 200) := by
    rw [hfrac, f64ToI64, if_pos (by positivity), hfloor, ← Int64.ofInt_eq_ofNat]
    congr 1
    omega
  have hdeducted : applyExecutionPenalty quoted = quoted - UInt64.ofNat (quoted.toNat / 200) := by
    apply UInt64.toNat_inj.mp
    have hle : UInt64.ofNat (quoted.toNat / 200) ≤ quoted := by
      rw [UInt64.le_iff_toNat_le, UInt64.toNat_ofNat']
      omega
    rw [applyExecutionPenalty_toNat, UInt64.toNat_sub_of_le _ _ hle, UInt64.toNat_ofNat']
    omega
  rw [hpenalty, hdeducted, UInt64.toInt64_sub, UInt64.toInt64_ofNat']

/-- The tip of a bundle is at most the one the cost model charges. -/
theorem calculateTip_le (grossProfit : Int64) :
    (calculateTip grossProfit).toNat ≤ (CostModel.default.jitoTipLamports grossProfit).toNat := by
  unfold calculateTip CostModel.jitoTipLamports
  split
  · decide
  · rw [maxU64_toNat, maxU64_toNat]
    exact max_le_max (Nat.le_refl _) (by decide)

/-- On the same amounts the local cost model deducts the same penalty. Its fixed costs are
larger, and it charges a tip besides. -/
theorem compute_simulated (tradeLamports leg2Out : UInt64) :
    let economics := CostModel.default.compute tradeLamports leg2Out
    economics.realisticOutputLamports = applyExecutionPenalty leg2Out ∧
      economics.netProfitLamports = (applyExecutionPenalty leg2Out).toInt64 -
        tradeLamports.toInt64 - 9015000 - economics.jitoTipLamports.toInt64 := by
  have hslippage : CostModel.default.slippageLamports leg2Out =
      f64ToU64 (leg2Out.toNat * (SolanaArb.executionPenaltyBps / 10000)) := by
    rw [CostModel.slippageLamports, mul_div_assoc]
    rfl
  have hrealistic : (CostModel.default.compute tradeLamports leg2Out).realisticOutputLamports =
      applyExecutionPenalty leg2Out := by
    rw [CostModel.compute, hslippage]
    rfl
  refine ⟨hrealistic, ?_⟩
  rw [← hrealistic]
  have hfixed : CostModel.default.fixedCosts = 9015000 := by decide
  rw [CostModel.compute, hfixed]

end Costs

namespace Simulator
variable {s : Simulator} {api : Api} {solUsd : ℚ} {opportunityId : Uuid} {opp : ArbOpportunity}
  {now failedAt : Timestamp}

theorem quoteLeg_ok {call next : ℕ} {inputMint outputMint : String} {amount : UInt64} {dex : Dex}
    {leg : QuoteResponse}
    (h : s.quoteLeg api call inputMint outputMint amount dex = (.ok leg, next)) :
    LegTaken api call inputMint outputMint amount s.slippageBps dex leg next := by
  unfold quoteLeg at h
  split at h
  · next q hq =>
    obtain ⟨hleg, rfl⟩ := Prod.mk.inj h
    obtain rfl := Except.ok.inj hleg
    exact Or.inl ⟨hq, rfl⟩
  · next e he =>
    split at h
    · next q hq =>
      obtain ⟨hleg, rfl⟩ := Prod.mk.inj h
      obtain rfl := Except.ok.inj hleg
      exact Or.inr ⟨⟨e, he⟩, hq, rfl⟩
    · cases (Prod.mk.inj h).1

theorem quoteLeg_error {call next : ℕ} {inputMint outputMint : String} {amount : UInt64}
    {dex : Dex} {e : String}
    (h : s.quoteLeg api call inputMint outputMint amount dex = (.error e, next)) :
    LegRefused api call inputMint outputMint amount s.slippageBps dex e := by
  unfold quoteLeg at h
  split at h
  · cases (Prod.mk.inj h).1
  · next e' he =>
    split at h
    · cases (Prod.mk.inj h).1
    · next e'' he'' =>
      obtain rfl := Except.error.inj (Prod.mk.inj h).1
      exact ⟨he, e'', he''⟩

/-- Where a simulation goes, by the answers to its legs. -/
inductive Outcome (s : Simulator) (api : Api) (solUsd : ℚ) (opportunityId : Uuid)
    (opp : ArbOpportunity) (now failedAt : Timestamp) : Except String SimResult → Prop
  | leg1Refused (e : String)
      (refused : LegRefused api 0 wsolMint opp.baseMint (s.computeTradeSize solUsd opp)
        s.slippageBps opp.buyDex e) :
      Outcome s api solUsd opportunityId opp now failedAt
        (.ok (s.failedResult opportunityId s!"Leg 1 quote: {e}" failedAt))
  | leg1Garbled (leg1 : QuoteResponse) (call : ℕ) (e : String)
      (taken : LegTaken api 0 wsolMint opp.baseMint (s.computeTradeSize solUsd opp)
        s.slippageBps opp.buyDex leg1 call)
      (parsed : parseU64 leg1.outAmount = .error e) :
      Outcome s api solUsd opportunityId opp now failedAt
        (.error "Failed to parse leg 1 out_amount")
  | leg1Zero (leg1 : QuoteResponse) (call : ℕ)
      (taken : LegTaken api 0 wsolMint opp.baseMint (s.computeTradeSize solUsd opp)
        s.slippageBps opp.buyDex leg1 call)
      (parsed : parseU64 leg1.outAmount = .ok 0) :
      Outcome s api solUsd opportunityId opp now failedAt
        (.ok (s.failedResult opportunityId "Leg 1 returned zero output" failedAt))
  | leg2Refused (leg1 : QuoteResponse) (call : ℕ) (leg1Out : UInt64) (e : String)
      (taken : LegTaken api 0 wsolMint opp.baseMint (s.computeTradeSize solUsd opp)
        s.slippageBps opp.buyDex leg1 call)
      (parsed : parseU64 leg1.outAmount = .ok leg1Out)
      (refused : LegRefused api call opp.baseMint wsolMint leg1Out s.slippageBps opp.sellDex e) :
      Outcome s api solUsd opportunityId opp now failedAt
        (.ok (s.failedResult opportunityId s!"Leg 2 quote: {e}" failedAt))
  | leg2Garbled (leg1 leg2 : QuoteResponse) (call next : ℕ) (leg1Out : UInt64) (e : String)
      (taken1 : LegTaken api 0 wsolMint opp.baseMint (s.computeTradeSize solUsd opp)
        s.slippageBps opp.buyDex leg1 call)
      (parsed1 : parseU64 leg1.outAmount = .ok leg1Out)
      (taken2 : LegTaken api call opp.baseMint wsolMint leg1Out s.slippageBps opp.sellDex leg2
        next)
      (parsed2 : parseU64 leg2.outAmount = .error e) :
      Outcome s api solUsd opportunityId opp now failedAt
        (.error "Failed to parse leg 2 out_amount")
  | priced (leg1 leg2 : QuoteResponse) (call next : ℕ) (leg1Out leg2Out : UInt64)
      (taken1 : LegTaken api 0 wsolMint opp.baseMint (s.computeTradeSize solUsd opp)
        s.slippageBps opp.buyDex leg1 call)
      (parsed1 : parseU64 leg1.outAmount = .ok leg1Out) (bought : leg1Out ≠ 0)
      (taken2 : LegTaken api call opp.baseMint wsolMint leg1Out s.slippageBps opp.sellDex leg2
        next)
      (parsed2 : parseU64 leg2.outAmount = .ok leg2Out) :
      Outcome s api solUsd opportunityId opp now failedAt
        (.ok (simulated opportunityId (s.computeTradeSize solUsd opp) leg2Out now))

theorem simulate_outcome : Outcome s api solUsd opportunityId opp now failedAt
    (s.simulate api solUsd opportunityId opp now failedAt) := by
  unfold simulate
  dsimp only
  split
  · next e call hleg1 => exact .leg1Refused e (quoteLeg_error hleg1)
  · next leg1 call hleg1 =>
    have htaken := quoteLeg_ok hleg1
    split
    · next e hparse => exact .leg1Garbled leg1 call e htaken hparse
    · next leg1Out hparse =>
      split
      · next hzero => exact .leg1Zero leg1 call htaken (hzero ▸ hparse)
      · next hbought =>
        split
        · next e next hleg2 =>
          exact .leg2Refused leg1 call leg1Out e htaken hparse (quoteLeg_error hleg2)
        · next leg2 next hleg2 =>
          split
          · next e hparse2 =>
            exact .leg2Garbled leg1 leg2 call next leg1Out e htaken hparse (quoteLeg_ok hleg2)
              hparse2
          · next leg2Out hparse2 =>
            exact .priced leg1 leg2 call next leg1Out leg2Out htaken hparse hbought
              (quoteLeg_ok hleg2) hparse2

end Simulator

section Paths
variable {slippageBps : UInt16} {tokenMint tokenSymbol : String} {amount leg1Out leg2Out : UInt64}
  {leg1 leg2 : QuoteResponse}

theorem scanRoundTrip_replayed (hleg1 : parseU64 leg1.outAmount = .ok leg1Out)
    (hbought : leg1Out ≠ 0) (hleg2 : parseU64 leg2.outAmount = .ok leg2Out)
    (opportunityId : Uuid) (now : Timestamp) :
    ∃ r, ProfitScanner.scanRoundTrip ⟨amount, slippageBps⟩ (replayQuotes leg1 leg2) tokenMint
        tokenSymbol = .ok r ∧
      r.toSimResult now = { Simulator.simulated opportunityId amount leg2Out now with
        opportunityId := Uuid.nil, txFeeLamports := some roundTripTxCost } := by
  refine ⟨scanResult .roundTrip tokenSymbol tokenMint
    s!"SOL -[{ProfitScanner.routeLabel leg1}]-> {tokenSymbol} -[{ProfitScanner.routeLabel leg2}]-> SOL"
    amount (applyExecutionPenalty leg2Out) (applyExecutionPenalty leg2Out) roundTripTxCost, ?_, ?_⟩
  · rw [ProfitScanner.scanRoundTrip]
    simp only [bind_eq_ok]
    refine ⟨leg1, rfl, leg1Out, hleg1, ?_⟩
    rw [if_neg hbought]
    simp only [bind_eq_ok]
    exact ⟨leg2, rfl, leg2Out, hleg2, rfl⟩
  · have hcost : roundTripTxCost = Simulator.baseTxFee * 2 + Simulator.priorityFee * 2 := by decide
    have hpriority : (2000000 : Int64) = Simulator.priorityFee * 2 := by decide
    rw [ScanResult.toSimResult, scanResult, Simulator.simulated, hpriority,
      penalised_toInt64 leg2Out, hcost]
    simp only [Int64.sub_sub, Int64.add_assoc]

theorem simulateAtomic_replayed (hleg1 : parseU64 leg1.outAmount = .ok leg1Out)
    (hbought : leg1Out ≠ 0) (hleg2 : parseU64 leg2.outAmount = .ok leg2Out) (now : Timestamp) :
    simulateAtomicRoundTrip (replayQuotes leg1 leg2) tokenMint amount slippageBps now =
      .ok (atomicResult amount leg2Out now) := by
  rw [simulateAtomicRoundTrip]
  simp only [bind_eq_ok]
  refine ⟨leg1, rfl, leg1Out, hleg1, ?_⟩
  rw [if_neg hbought]
  simp only [bind_eq_ok]
  exact ⟨leg2, rfl, leg2Out, hleg2, rfl⟩

/-- What is recorded beyond what was charged, where the profit was charged `charged`. -/
theorem recorded_sub_charged (output input recorded charged : Int64) :
    recorded - (output - input - (output - input - charged)) = recorded - charged := by
  grind

theorem simulated_overRecorded (opportunityId : Uuid) (now : Timestamp) :
    (Simulator.simulated opportunityId amount leg2Out now).overRecorded = some 0 := by
  apply congrArg some
  change Simulator.baseTxFee * 2 + Simulator.priorityFee * 2 -
    (_ - amount.toInt64 - (_ - amount.toInt64 - Simulator.baseTxFee * 2 -
      Simulator.priorityFee * 2)) = 0
  rw [Int64.sub_sub (_ - amount.toInt64), recorded_sub_charged, Int64.sub_self]

theorem atomicResult_overRecorded (now : Timestamp) :
    (atomicResult amount leg2Out now).overRecorded = some 200000 :=
  congrArg some (recorded_sub_charged leg2Out.toInt64 amount.toInt64 (210000 + 200000) 210000)

end Paths

/-- The row of a simulation of these two quotes, beside what the other paths make of them. -/
structure SameRoundTrip (s : Simulator) (solUsd : ℚ) (opportunityId : Uuid) (opp : ArbOpportunity)
    (leg1 leg2 : QuoteResponse) (now : Timestamp) (row : SimResult) : Prop where
  linked : row.opportunityId = opportunityId
  /-- The row of the round trip scan differs in its fee, and has no opportunity. -/
  scan : ∃ r, ProfitScanner.scanRoundTrip ⟨s.computeTradeSize solUsd opp, s.slippageBps⟩
      (replayQuotes leg1 leg2) opp.baseMint opp.tokenSymbol = .ok r ∧
    r.toSimResult now =
      { row with opportunityId := Uuid.nil, txFeeLamports := some roundTripTxCost }
  /-- The atomic simulation deducts no penalty and a smaller fee, and records too much. -/
  atomic : ∃ row' output output' profit profit',
    simulateAtomicRoundTrip (replayQuotes leg1 leg2) opp.baseMint (s.computeTradeSize solUsd opp)
      s.slippageBps now = .ok row' ∧ row'.opportunityId = Uuid.nil ∧
    row'.overRecorded = some 200000 ∧
    row.simulatedOutput = some output ∧ row'.simulatedOutput = some output' ∧
    row.simulatedProfitLamports = some profit ∧ row'.simulatedProfitLamports = some profit' ∧
    profit' = profit + (output' - output) + 1800000
  recorded : row.overRecorded = some 0
  /-- The local cost model takes off a tip and larger fixed costs. -/
  localCosts : ∃ leg2Out, parseU64 leg2.outAmount = .ok leg2Out ∧
    let economics := CostModel.default.compute (s.computeTradeSize solUsd opp) leg2Out
    row.simulatedOutput = some economics.realisticOutputLamports.toInt64 ∧
      row.simulatedProfitLamports =
        some (economics.netProfitLamports + economics.jitoTipLamports.toInt64 + 7005000) ∧
      (calculateTip economics.grossProfitLamports).toNat ≤ economics.jitoTipLamports.toNat

theorem simulated_sameRoundTrip {s : Simulator} {solUsd : ℚ} {opp : ArbOpportunity}
    (opportunityId : Uuid) {leg1 leg2 : QuoteResponse} {leg1Out leg2Out : UInt64}
    (hleg1 : parseU64 leg1.outAmount = .ok leg1Out) (hbought : leg1Out ≠ 0)
    (hleg2 : parseU64 leg2.outAmount = .ok leg2Out) (now : Timestamp) :
    SameRoundTrip s solUsd opportunityId opp leg1 leg2 now
      (Simulator.simulated opportunityId (s.computeTradeSize solUsd opp) leg2Out now) := by
  constructor
  · rfl
  · exact scanRoundTrip_replayed hleg1 hbought hleg2 opportunityId now
  · refine ⟨_, _, _, _, _, simulateAtomic_replayed hleg1 hbought hleg2 now, rfl,
      atomicResult_overRecorded now, rfl, rfl, rfl, rfl, ?_⟩
    have hfee : Simulator.baseTxFee * 2 = 10000 := by decide
    have hpriority : Simulator.priorityFee * 2 = 2000000 := by decide
    rw [hfee, hpriority]
    grind
  · exact simulated_overRecorded opportunityId now
  · obtain ⟨hrealistic, hnet⟩ := compute_simulated (s.computeTradeSize solUsd opp) leg2Out
    refine ⟨leg2Out, hleg2, ?_, ?_, ?_⟩
    · rw [hrealistic, ← penalised_toInt64]
      rfl
    · rw [hnet, ← penalised_toInt64]
      apply congrArg some
      have hfee : Simulator.baseTxFee * 2 = 10000 := by decide
      have hpriority : Simulator.priorityFee * 2 = 2000000 := by decide
      rw [hfee, hpriority]
      grind
    · exact calculateTip_le _

/-- Why a simulation has no output, and what its row says. -/
def Unpriced (s : Simulator) (api : Api) (solUsd : ℚ) (opp : ArbOpportunity) (error : String) :
    Prop :=
  (∃ e, LegRefused api 0 wsolMint opp.baseMint (s.computeTradeSize solUsd opp) s.slippageBps
      opp.buyDex e ∧ error = s!"Leg 1 quote: {e}") ∨
    ∃ leg1 call leg1Out, LegTaken api 0 wsolMint opp.baseMint (s.computeTradeSize solUsd opp)
        s.slippageBps opp.buyDex leg1 call ∧ parseU64 leg1.outAmount = .ok leg1Out ∧
      (leg1Out = 0 ∧ error = "Leg 1 returned zero output" ∨
        ∃ e, LegRefused api call opp.baseMint wsolMint leg1Out s.slippageBps opp.sellDex e ∧
          error = s!"Leg 2 quote: {e}")

/-- Whatever the API answers, a simulation that succeeds is the round trip of its two
quotes, each the answer to the request with its DEX or, when that failed, to one for any. The
scan, the atomic simulation and the local cost model price this round trip alike up to fixed
amounts. One that fails has a row without figures, which names the leg that had no quote. -/
theorem simulation_prices_round_trip (s : Simulator) (api : Api) (solUsd : ℚ)
    (opportunityId : Uuid) (opp : ArbOpportunity) (now failedAt : Timestamp) :
    (∀ row, s.simulate api solUsd opportunityId opp now failedAt = .ok row →
      row.simulationSuccess = true →
      ∃ leg1 leg2 call next leg1Out,
        LegTaken api 0 wsolMint opp.baseMint (s.computeTradeSize solUsd opp) s.slippageBps
          opp.buyDex leg1 call ∧ parseU64 leg1.outAmount = .ok leg1Out ∧
        LegTaken api call opp.baseMint wsolMint leg1Out s.slippageBps opp.sellDex leg2 next ∧
        SameRoundTrip s solUsd opportunityId opp leg1 leg2 now row) ∧
    (∀ row, s.simulate api solUsd opportunityId opp now failedAt = .ok row →
      row.simulationSuccess = false →
      ∃ error, row = s.failedResult opportunityId error failedAt ∧ Unpriced s api solUsd opp error) ∧
    ∀ e, s.simulate api solUsd opportunityId opp now failedAt = .error e →
      ∃ call inputMint outputMint amount dex leg next e', LegTaken api call inputMint outputMint
        amount s.slippageBps dex leg next ∧ parseU64 leg.outAmount = .error e' := by
  have houtcome : s.Outcome api solUsd opportunityId opp now failedAt
      (s.simulate api solUsd opportunityId opp now failedAt) :=
    Simulator.simulate_outcome
  refine ⟨?_, ?_, ?_⟩
  · intro row hrow hsuccess
    rw [hrow] at houtcome
    cases houtcome with
    | leg1Refused e refused => cases hsuccess
    | leg1Zero leg1 call taken parsed => cases hsuccess
    | leg2Refused leg1 call leg1Out e taken parsed refused => cases hsuccess
    | priced leg1 leg2 call next leg1Out leg2Out taken1 parsed1 bought taken2 parsed2 =>
      exact ⟨leg1, leg2, call, next, leg1Out, taken1, parsed1, taken2,
        simulated_sameRoundTrip opportunityId parsed1 bought parsed2 now⟩
  · intro row hrow hfailed
    rw [hrow] at houtcome
    cases houtcome with
    | leg1Refused e refused => exact ⟨_, rfl, Or.inl ⟨e, refused, rfl⟩⟩
    | leg1Zero leg1 call taken parsed =>
      exact ⟨_, rfl, Or.inr ⟨leg1, call, 0, taken, parsed, Or.inl ⟨rfl, rfl⟩⟩⟩
    | leg2Refused leg1 call leg1Out e taken parsed refused =>
      exact ⟨_, rfl, Or.inr ⟨leg1, call, leg1Out, taken, parsed, Or.inr ⟨e, refused, rfl⟩⟩⟩
    | priced leg1 leg2 call next leg1Out leg2Out taken1 parsed1 bought taken2 parsed2 =>
      cases hfailed
  · intro e he
    rw [he] at houtcome
    cases houtcome with
    | leg1Garbled leg1 call e' taken parsed =>
      exact ⟨_, _, _, _, _, leg1, call, e', taken, parsed⟩
    | leg2Garbled leg1 leg2 call next leg1Out e' taken1 parsed1 taken2 parsed2 =>
      exact ⟨_, _, _, _, _, leg2, next, e', taken2, parsed2⟩

end SolanaArb
