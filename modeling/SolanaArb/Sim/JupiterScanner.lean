import SolanaArb.Sim.Ledger

/-! # Scans priced by the Jupiter quote API

Round trips, triangles and swap-triggered round trips at the quotes of an external
API. The API is a parameter: its answer to a request may depend on how many requests of
the same scan came before. The three scans fill one record from the penalised output of
the last leg, and one conversion stores it. The triangle reports the output before the
penalty, and its row carries the cost of two swaps, not of three.
-/
namespace SolanaArb

/-- The digits of a `u64` after what has been read. -/
def parseDigits : ℕ → List Char → Except String UInt64
  | acc, [] => .ok (UInt64.ofNat acc)
  | acc, c :: cs =>
    if c.isDigit then
      let next := acc * 10 + (c.toNat - 48)
      if next < 2^64 then parseDigits next cs
      else .error "number too large to fit in target type"
    else .error "invalid digit found in string"

def parseU64 (text : String) : Except String UInt64 :=
  match text.toList with
  | [] => .error "cannot parse integer from empty string"
  | ['+'] => .error "invalid digit found in string"
  | '+' :: digits => parseDigits 0 digits
  | digits => parseDigits 0 digits

def SwapDirection.display : SwapDirection → String
  | buy => "BUY"
  | sell => "SELL"

namespace JupiterQuoteClient

/-- The fields of an answer that the scans read: the amount as text and the label of
every leg of the route. -/
structure QuoteResponse where
  outAmount : String
  routePlan : List String
  deriving DecidableEq, Repr

/-- The answer to the request of this number with this URL. -/
abbrev Api := ℕ → String → Except String QuoteResponse

def baseUrl : String := "https://api.jup.ag/swap/v1/quote"

def dexToJupiterName : Dex → Option String
  | .raydium => some "Raydium,Raydium CLMM"
  | .orca => some "Whirlpool"
  | .meteora => some "Meteora,Meteora DLMM"
  | .pumpFun => none
  | _ => none

def quoteUrl (inputMint outputMint : String) (amount : UInt64) (slippageBps : UInt16)
    (restrictDex : Option Dex) : String :=
  let url := s!"{baseUrl}?inputMint={inputMint}&outputMint={outputMint}" ++
    s!"&amount={amount}&slippageBps={slippageBps}"
  match restrictDex.bind dexToJupiterName with
  | some jupName => url ++ s!"&dexes={jupName}"
  | none => url

def getQuote (api : Api) (call : ℕ) (inputMint outputMint : String) (amount : UInt64)
    (slippageBps : UInt16) (restrictDex : Option Dex) : Except String QuoteResponse :=
  api call (quoteUrl inputMint outputMint amount slippageBps restrictDex)

def primaryRouteLabel (quote : QuoteResponse) : Option String := quote.routePlan.head?

end JupiterQuoteClient

def roundTripTxCost : Int64 := 2010000
def triTxCost : Int64 := 3015000
def executionPenaltyBps : ℚ := 50

inductive ScanType
  | roundTrip
  | triangular (via : String)
  deriving DecidableEq, Repr

structure ScanResult where
  scanType : ScanType
  tokenSymbol : String
  tokenMint : String
  inputLamports : UInt64
  outputLamports : UInt64
  grossProfitLamports : Int64
  netProfitLamports : Int64
  profitBps : ℚ
  routeDescription : String
  profitable : Bool
  deriving DecidableEq, Repr

structure ProfitScanner where
  tradeSizeLamports : UInt64
  slippageBps : UInt16

def applyExecutionPenalty (quoteOutput : UInt64) : UInt64 :=
  let penaltyFraction := executionPenaltyBps / 10000
  let deduction := f64ToU64 (quoteOutput.toNat * penaltyFraction)
  saturatingSub quoteOutput deduction

/-- The record of a scan from its input, its penalised output, the output it reports and
its cost. -/
def scanResult (scanType : ScanType) (tokenSymbol tokenMint routeDescription : String)
    (inputLamports realisticOutput reported : UInt64) (txCost : Int64) : ScanResult :=
  let input := inputLamports.toInt64
  let output := realisticOutput.toInt64
  let gross := output - input
  let net := gross - txCost
  { scanType := scanType
    tokenSymbol := tokenSymbol
    tokenMint := tokenMint
    inputLamports := inputLamports
    outputLamports := reported
    grossProfitLamports := gross
    netProfitLamports := net
    profitBps := (gross.toInt : ℚ) / input.toInt * 10000
    routeDescription := routeDescription
    profitable := decide (0 < net) }

/-- The stored row of a scan result. -/
def ScanResult.toSimResult (r : ScanResult) (now : Timestamp) : SimResult where
  opportunityId := Uuid.nil
  inputAmount := r.inputLamports.toInt64
  inputMint := wsolMint
  simulatedOutput := some r.outputLamports.toInt64
  outputMint := wsolMint
  simulatedProfitLamports := some r.netProfitLamports
  txFeeLamports := some roundTripTxCost
  priorityFeeLamports := some 2000000
  simulationSuccess := true
  errorMessage := none
  simulatedAt := now

namespace ProfitScanner
open JupiterQuoteClient General

def new : ProfitScanner where
  tradeSizeLamports := 1000000000
  slippageBps := 50

def routeLabel (quote : QuoteResponse) : String := (primaryRouteLabel quote).getD "?"

variable (s : ProfitScanner) (api : Api) (tokenMint tokenSymbol : String)

def scanRoundTrip : Except String ScanResult := do
  let leg1 ← getQuote api 0 wsolMint tokenMint s.tradeSizeLamports s.slippageBps none
  let leg1Out ← parseU64 leg1.outAmount
  if leg1Out = 0 then .error "Leg 1 returned zero"
  else
    let leg2 ← getQuote api 1 tokenMint wsolMint leg1Out s.slippageBps none
    let leg2Out ← parseU64 leg2.outAmount
    let realisticOutput := applyExecutionPenalty leg2Out
    .ok (scanResult .roundTrip tokenSymbol tokenMint
      s!"SOL -[{routeLabel leg1}]-> {tokenSymbol} -[{routeLabel leg2}]-> SOL"
      s.tradeSizeLamports realisticOutput realisticOutput roundTripTxCost)

def scanTriangular (stableMint stableSymbol : String) : Except String ScanResult := do
  let leg1 ← getQuote api 0 wsolMint tokenMint s.tradeSizeLamports s.slippageBps none
  let leg1Out ← parseU64 leg1.outAmount
  if leg1Out = 0 then .error "Leg 1 zero"
  else
    let leg2 ← getQuote api 1 tokenMint stableMint leg1Out s.slippageBps none
    let leg2Out ← parseU64 leg2.outAmount
    if leg2Out = 0 then .error "Leg 2 zero"
    else
      let leg3 ← getQuote api 2 stableMint wsolMint leg2Out s.slippageBps none
      let leg3Out ← parseU64 leg3.outAmount
      let realisticOutput := applyExecutionPenalty leg3Out
      -- the gross profit uses the penalised output, the record keeps the quoted one
      .ok (scanResult (.triangular stableSymbol) tokenSymbol tokenMint
        (s!"SOL -[{routeLabel leg1}]-> {tokenSymbol} -[{routeLabel leg2}]-> {stableSymbol}" ++
          s!" -[{routeLabel leg3}]-> SOL")
        s.tradeSizeLamports realisticOutput leg3Out triTxCost)

/-- 20% of the triggering swap, between 0.1 and 2 SOL. -/
def triggeredTradeLamports (signalSol : ℚ) : UInt64 :=
  f64ToU64 (clamp (signalSol * (1/5)) (1/10) 2 * 10^9)

def alternativeDexes : List Dex := [.raydium, .orca, .meteora, .pumpSwap]

/-- One round of the triggered scan, whose first request has the number `call`: a result
when both legs are quoted, and the number of the next request. -/
def scanAlternative (triggerDex : Dex) (triggerDirection : SwapDirection) (tradeLamports : UInt64)
    (altDex : Dex) (call : ℕ) : Option ScanResult × ℕ :=
  let (leg1Restrict, leg2Restrict) :=
    match triggerDirection with
    | .buy => (some altDex, some triggerDex)
    | .sell => (some triggerDex, some altDex)
  match getQuote api call wsolMint tokenMint tradeLamports s.slippageBps leg1Restrict with
  | .error _ => (none, call + 1)
  | .ok leg1 =>
    match parseU64 leg1.outAmount with
    | .error _ => (none, call + 1)
    | .ok leg1Out =>
      if 0 < leg1Out then
        match getQuote api (call + 1) tokenMint wsolMint leg1Out s.slippageBps leg2Restrict with
        | .error _ => (none, call + 2)
        | .ok leg2 =>
          match parseU64 leg2.outAmount with
          | .error _ => (none, call + 2)
          | .ok leg2Out =>
            let realisticOutput := applyExecutionPenalty leg2Out
            (some (scanResult .roundTrip tokenSymbol tokenMint
              (s!"TRIGGERED({triggerDex.asStr} {triggerDirection.display})" ++
                s!" SOL -[{routeLabel leg1}]-> {tokenSymbol} -[{routeLabel leg2}]-> SOL")
              tradeLamports realisticOutput realisticOutput roundTripTxCost), call + 2)
      else (none, call + 1)

def trackBest (best : Option ScanResult) (result : ScanResult) : Option ScanResult :=
  match best with
  | none => some result
  | some prev =>
    if prev.netProfitLamports < result.netProfitLamports then some result else some prev

/-- The loop over the alternatives: the first profitable result, else the best one. -/
def searchAlternatives (round : Dex → ℕ → Option ScanResult × ℕ) :
    List Dex → ℕ → Option ScanResult → Option ScanResult
  | [], _, best => best
  | altDex :: rest, call, best =>
    match round altDex call with
    | (none, next) => searchAlternatives round rest next best
    | (some result, next) =>
      if result.profitable then some result
      else searchAlternatives round rest next (trackBest best result)

def scanTriggered (triggerDex : Dex) (triggerDirection : SwapDirection) (signalSol : ℚ) :
    Except String ScanResult :=
  let alternatives := alternativeDexes.filter (fun d => d ≠ triggerDex)
  let round := scanAlternative s api tokenMint tokenSymbol triggerDex triggerDirection
    (triggeredTradeLamports signalSol)
  okOr (searchAlternatives round alternatives 0 none)
    (s!"No DEX routes available for {tokenSymbol}" ++ s!" on alternatives to {triggerDex.asStr}")

end ProfitScanner
end SolanaArb
