import SolanaArb.Sim.JupiterScanner

/-! # What a scan result says

The profit fields of every scan follow from the penalised output of its last leg and the
cost of its type. The record and its row agree with them exactly when the scan is not a
triangle.
-/
namespace SolanaArb
open JupiterQuoteClient General

def ScanType.txCost : ScanType → Int64
  | roundTrip => roundTripTxCost
  | triangular _ => triTxCost

/-- The stored profit is the stored output less the stored input and fee. -/
def SimResult.Adds (row : SimResult) : Prop :=
  ∃ profit output fee, row.simulatedProfitLamports = some profit ∧
    row.simulatedOutput = some output ∧ row.txFeeLamports = some fee ∧
    profit.toInt = output.toInt - row.inputAmount.toInt - fee.toInt

/-- The figures of a result and of its row add up. -/
structure ScanResult.Consistent (r : ScanResult) (row : SimResult) : Prop where
  gross : r.grossProfitLamports.toInt = (r.outputLamports.toNat : ℤ) - r.inputLamports.toNat
  net : r.netProfitLamports.toInt = r.grossProfitLamports.toInt - r.scanType.txCost.toInt
  profitable : r.profitable = true ↔ 0 < r.netProfitLamports.toInt
  row : row.Adds

theorem ScanType.txCost_bounds (scanType : ScanType) :
    0 ≤ scanType.txCost.toInt ∧ scanType.txCost.toInt < 2^62 := by
  cases scanType with
  | roundTrip => decide
  | triangular via =>
    change 0 ≤ triTxCost.toInt ∧ triTxCost.toInt < 2^62
    decide

/-- Every row is charged for two swaps. -/
theorem ScanResult.toSimResult_adds_iff {r : ScanResult} (hin : r.inputLamports.toNat < 2^63)
    (hout : r.outputLamports.toNat < 2^63) (now : Timestamp) : (r.toSimResult now).Adds ↔
      r.netProfitLamports.toInt =
        (r.outputLamports.toNat : ℤ) - r.inputLamports.toNat - roundTripTxCost.toInt := by
  rw [← toInt64_toInt hin, ← toInt64_toInt hout]
  constructor
  · rintro ⟨profit, output, fee, hprofit, houtput, hfee, hrow⟩
    cases hprofit
    cases houtput
    cases hfee
    exact hrow
  · intro h
    exact ⟨_, _, _, rfl, rfl, rfl, h⟩

theorem applyExecutionPenalty_toNat (q : UInt64) :
    (applyExecutionPenalty q).toNat = q.toNat - q.toNat / 200 := by
  have hfrac : (q.toNat : ℚ) * (executionPenaltyBps / 10000) = (q.toNat : ℚ) / (200 : ℕ) := by
    rw [executionPenaltyBps]
    push_cast
    ring
  have hlt : (q.toNat : ℚ) / (200 : ℕ) < 2^64 := by
    have hq : (q.toNat : ℚ) < 2^64 := by exact_mod_cast q.toNat_lt
    have hpos : (0 : ℚ) ≤ q.toNat := Nat.cast_nonneg _
    push_cast
    linarith
  have hfloor : ((q.toNat : ℚ) / (200 : ℕ)).floor.toNat = q.toNat / 200 := by
    change ⌊(q.toNat : ℚ) / (200 : ℕ)⌋.toNat = _
    rw [Rat.floor_natCast_div_natCast]
    omega
  rw [applyExecutionPenalty, saturatingSub_toNat, hfrac, f64ToU64_toNat hlt, hfloor]

theorem profit_toInt {input realistic : UInt64} {txCost : Int64} (hin : input.toNat < 2^62)
    (hout : realistic.toNat < 2^62) (hcost : 0 ≤ txCost.toInt ∧ txCost.toInt < 2^62) :
    (realistic.toInt64 - input.toInt64).toInt = (realistic.toNat : ℤ) - input.toNat ∧
    (realistic.toInt64 - input.toInt64 - txCost).toInt =
      (realistic.toInt64 - input.toInt64).toInt - txCost.toInt := by
  have hinCast := toInt64_toInt (show input.toNat < 2^63 by omega)
  have houtCast := toInt64_toInt (show realistic.toNat < 2^63 by omega)
  have hgross : (realistic.toInt64 - input.toInt64).toInt =
      (realistic.toNat : ℤ) - input.toNat := by
    rw [int64_sub_toInt (by omega) (by omega), hinCast, houtCast]
  exact ⟨hgross, int64_sub_toInt (by omega) (by omega)⟩

namespace ProfitScanner
variable {s : ProfitScanner} {api : Api} {r : ScanResult}

/-- The three scans with their arguments. -/
inductive Scan
  | roundTrip (tokenMint tokenSymbol : String)
  | triangular (tokenMint tokenSymbol stableMint stableSymbol : String)
  | triggered (tokenMint tokenSymbol : String) (triggerDex : Dex)
      (triggerDirection : SwapDirection) (signalSol : ℚ)

namespace Scan

def run (scan : Scan) (s : ProfitScanner) (api : Api) : Except String ScanResult :=
  match scan with
  | roundTrip tokenMint tokenSymbol => s.scanRoundTrip api tokenMint tokenSymbol
  | triangular tokenMint tokenSymbol stableMint stableSymbol =>
    s.scanTriangular api tokenMint tokenSymbol stableMint stableSymbol
  | triggered tokenMint tokenSymbol triggerDex triggerDirection signalSol =>
    s.scanTriggered api tokenMint tokenSymbol triggerDex triggerDirection signalSol

def isTriangular : Scan → Bool
  | triangular _ _ _ _ => true
  | _ => false

def scanType : Scan → ScanType
  | triangular _ _ _ stableSymbol => .triangular stableSymbol
  | _ => .roundTrip

def inputLamports (s : ProfitScanner) : Scan → UInt64
  | triggered _ _ _ _ signalSol => triggeredTradeLamports signalSol
  | _ => s.tradeSizeLamports

/-- What the record calls the output, from the last quote. -/
def reported (scan : Scan) (quoted : UInt64) : UInt64 :=
  if scan.isTriangular then quoted else applyExecutionPenalty quoted

end Scan

/-- The API quotes this amount in some answer. -/
def Quotes (api : Api) (amount : UInt64) : Prop :=
  ∃ call url quote, api call url = .ok quote ∧ parseU64 quote.outAmount = .ok amount

/-- The result is the record of this scan for the last amount it was quoted. -/
def Built (s : ProfitScanner) (api : Api) (scan : Scan) (r : ScanResult) : Prop :=
  ∃ quoted tokenSymbol tokenMint route, Quotes api quoted ∧
    r = scanResult scan.scanType tokenSymbol tokenMint route (scan.inputLamports s)
      (applyExecutionPenalty quoted) (scan.reported quoted) scan.scanType.txCost

theorem trackBest_eq_some {best : Option ScanResult} {result : ScanResult}
    (h : trackBest best result = some r) : best = some r ∨ result = r := by
  cases best with
  | none => exact Or.inr (Option.some.inj h)
  | some prev =>
    rw [trackBest] at h
    split at h
    · exact Or.inr (Option.some.inj h)
    · exact Or.inl h

/-- Whatever every round and the start satisfy, the result of the loop satisfies. -/
theorem searchAlternatives_induction {round : Dex → ℕ → Option ScanResult × ℕ}
    {P : ScanResult → Prop}
    (hround : ∀ dex call result, (round dex call).1 = some result → P result)
    {dexes : List Dex} {call : ℕ} {best : Option ScanResult} (hbest : ∀ b, best = some b → P b)
    (h : searchAlternatives round dexes call best = some r) : P r := by
  induction dexes generalizing call best with
  | nil => exact hbest r h
  | cons dex rest ih =>
    rw [searchAlternatives] at h
    cases hr : round dex call with
    | mk result next =>
      cases result with
      | none =>
        simp only [hr] at h
        exact ih hbest h
      | some result =>
        have hresult : P result := hround dex call result (by rw [hr])
        simp only [hr] at h
        split at h
        · cases h
          exact hresult
        · refine ih ?_ h
          intro b hb
          rcases trackBest_eq_some hb with hb | rfl
          · exact hbest b hb
          · exact hresult

theorem scanRoundTrip_built {tokenMint tokenSymbol : String}
    (h : s.scanRoundTrip api tokenMint tokenSymbol = .ok r) :
    Built s api (.roundTrip tokenMint tokenSymbol) r := by
  simp only [scanRoundTrip, bind_eq_ok] at h
  obtain ⟨leg1, -, leg1Out, -, h⟩ := h
  split at h
  · cases h
  · simp only [bind_eq_ok] at h
    obtain ⟨leg2, hleg2, leg2Out, hparse, h⟩ := h
    cases h
    exact ⟨leg2Out, _, _, _, ⟨_, _, leg2, hleg2, hparse⟩, rfl⟩

theorem scanTriangular_built {tokenMint tokenSymbol stableMint stableSymbol : String}
    (h : s.scanTriangular api tokenMint tokenSymbol stableMint stableSymbol = .ok r) :
    Built s api (.triangular tokenMint tokenSymbol stableMint stableSymbol) r := by
  simp only [scanTriangular, bind_eq_ok] at h
  obtain ⟨leg1, -, leg1Out, -, h⟩ := h
  split at h
  · cases h
  · simp only [bind_eq_ok] at h
    obtain ⟨leg2, -, leg2Out, -, h⟩ := h
    split at h
    · cases h
    · simp only [bind_eq_ok] at h
      obtain ⟨leg3, hleg3, leg3Out, hparse, h⟩ := h
      cases h
      exact ⟨leg3Out, _, _, _, ⟨_, _, leg3, hleg3, hparse⟩, rfl⟩

theorem scanAlternative_built {tokenMint tokenSymbol : String} {triggerDex altDex : Dex}
    {triggerDirection : SwapDirection} {signalSol : ℚ} {call : ℕ}
    (h : (scanAlternative s api tokenMint tokenSymbol triggerDex triggerDirection
      (triggeredTradeLamports signalSol) altDex call).1 = some r) :
    Built s api (.triggered tokenMint tokenSymbol triggerDex triggerDirection signalSol) r := by
  unfold scanAlternative at h
  split at h
  split at h
  · cases h
  · split at h
    · cases h
    · split at h
      · split at h
        · cases h
        · next leg2 hleg2 =>
          split at h
          · cases h
          · next leg2Out hparse =>
            cases h
            exact ⟨leg2Out, _, _, _, ⟨_, _, leg2, hleg2, hparse⟩, rfl⟩
      · cases h

theorem Scan.run_built {scan : Scan} (h : scan.run s api = .ok r) : Built s api scan r := by
  cases scan with
  | roundTrip tokenMint tokenSymbol => exact scanRoundTrip_built h
  | triangular tokenMint tokenSymbol stableMint stableSymbol => exact scanTriangular_built h
  | triggered tokenMint tokenSymbol triggerDex triggerDirection signalSol =>
    rw [Scan.run, scanTriggered, okOr_eq_ok] at h
    refine searchAlternatives_induction ?_ ?_ h
    · intro dex call result hresult
      exact scanAlternative_built hresult
    · intro b hb
      cases hb

theorem Scan.inputLamports_lt (hsize : s.tradeSizeLamports.toNat < 2^62) (scan : Scan) :
    (scan.inputLamports s).toNat < 2^62 := by
  cases scan with
  | roundTrip tokenMint tokenSymbol => exact hsize
  | triangular tokenMint tokenSymbol stableMint stableSymbol => exact hsize
  | triggered tokenMint tokenSymbol triggerDex triggerDirection signalSol =>
    have hle : (triggeredTradeLamports signalSol).toNat ≤ 2 * 10^9 :=
      LocalScanner.triggeredTradeLamports_le signalSol
    change (triggeredTradeLamports signalSol).toNat < 2^62
    omega

/-- The figures of every scan, whatever output its record reports. -/
theorem scanResult_figures {scanType : ScanType} {tokenSymbol tokenMint route : String}
    {input quoted reported : UInt64} (hin : input.toNat < 2^62) (hquoted : quoted.toNat < 2^62)
    (hr : r = scanResult scanType tokenSymbol tokenMint route input (applyExecutionPenalty quoted)
      reported scanType.txCost) :
    r.grossProfitLamports.toInt =
      ((applyExecutionPenalty quoted).toNat : ℤ) - r.inputLamports.toNat ∧
    r.netProfitLamports.toInt = r.grossProfitLamports.toInt - r.scanType.txCost.toInt ∧
    (r.profitable = true ↔ 0 < r.netProfitLamports.toInt) := by
  subst hr
  have hpen := applyExecutionPenalty_toNat quoted
  have hout : (applyExecutionPenalty quoted).toNat < 2^62 := by omega
  obtain ⟨hgross, hnet⟩ := profit_toInt hin hout (ScanType.txCost_bounds scanType)
  refine ⟨hgross, hnet, ?_⟩
  simp only [scanResult, decide_eq_true_eq, Int64.lt_iff_toInt_lt, Int64.toInt_zero]

theorem Scan.scanType_of_not_triangular {scan : Scan} (h : scan.isTriangular = false) :
    scan.scanType = .roundTrip := by
  cases scan with
  | roundTrip tokenMint tokenSymbol => rfl
  | triangular tokenMint tokenSymbol stableMint stableSymbol => cases h
  | triggered tokenMint tokenSymbol triggerDex triggerDirection signalSol => rfl

theorem Scan.scanType_of_triangular {scan : Scan} (h : scan.isTriangular = true) :
    scan.scanType.txCost = triTxCost := by
  cases scan with
  | roundTrip tokenMint tokenSymbol => cases h
  | triangular tokenMint tokenSymbol stableMint stableSymbol => rfl
  | triggered tokenMint tokenSymbol triggerDex triggerDirection signalSol => cases h

/-- A triangle is charged for three swaps and its row for two, and the output it reports is not
below the penalised one. -/
theorem Scan.not_adds_of_triangular {scan : Scan} {quoted : UInt64}
    (hscan : scan.isTriangular = true) (htype : r.scanType = scan.scanType)
    (houtput : r.outputLamports = scan.reported quoted)
    (hin : r.inputLamports.toNat < 2^62) (hquoted : quoted.toNat < 2^62)
    (hgross : r.grossProfitLamports.toInt =
      ((applyExecutionPenalty quoted).toNat : ℤ) - r.inputLamports.toNat)
    (hnet : r.netProfitLamports.toInt = r.grossProfitLamports.toInt - r.scanType.txCost.toInt)
    (now : Timestamp) : ¬(r.toSimResult now).Adds := by
  have hrep : r.outputLamports = quoted := by
    rw [houtput, Scan.reported, hscan]
    rfl
  have hpen := applyExecutionPenalty_toNat quoted
  have hround : roundTripTxCost.toInt = 2010000 := by decide
  have htri : triTxCost.toInt = 3015000 := by decide
  rw [htype, Scan.scanType_of_triangular hscan] at hnet
  rw [ScanResult.toSimResult_adds_iff (by omega) (by rw [hrep]; omega), hrep]
  omega

theorem Scan.consistent_of_not_triangular {scan : Scan} {quoted : UInt64}
    (hscan : scan.isTriangular = false) (htype : r.scanType = scan.scanType)
    (houtput : r.outputLamports = scan.reported quoted) (hin : r.inputLamports.toNat < 2^62)
    (hquoted : quoted.toNat < 2^62)
    (hgross : r.grossProfitLamports.toInt =
      ((applyExecutionPenalty quoted).toNat : ℤ) - r.inputLamports.toNat)
    (hnet : r.netProfitLamports.toInt = r.grossProfitLamports.toInt - r.scanType.txCost.toInt)
    (hprofitable : r.profitable = true ↔ 0 < r.netProfitLamports.toInt) (now : Timestamp) :
    r.Consistent (r.toSimResult now) := by
  have hrep : r.outputLamports = applyExecutionPenalty quoted := by
    rw [houtput, Scan.reported, hscan]
    rfl
  have hpen := applyExecutionPenalty_toNat quoted
  rw [← hrep] at hgross hpen
  refine ⟨hgross, hnet, hprofitable, ?_⟩
  rw [htype, Scan.scanType_of_not_triangular hscan] at hnet
  change _ = _ - roundTripTxCost.toInt at hnet
  rw [ScanResult.toSimResult_adds_iff (by omega) (by omega)]
  omega

/-- A scan's record and row are consistent exactly when it is not a triangle. -/
theorem Scan.consistent_iff (s : ProfitScanner) (hsize : s.tradeSizeLamports.toNat < 2^62)
    (api : Api) (hapi : ∀ amount, Quotes api amount → amount.toNat < 2^62) (scan : Scan)
    (r : ScanResult) (h : scan.run s api = .ok r) (now : Timestamp) :
    r.Consistent (r.toSimResult now) ↔ scan.isTriangular = false := by
  obtain ⟨quoted, tokenSymbol, tokenMint, route, hquotes, hr⟩ := Scan.run_built h
  have hquoted := hapi quoted hquotes
  have hscanIn := Scan.inputLamports_lt hsize scan
  obtain ⟨hgross, hnet, hprofitable⟩ := scanResult_figures hscanIn hquoted hr
  have hin : r.inputLamports.toNat < 2^62 := by
    rw [hr]
    exact hscanIn
  have houtput : r.outputLamports = scan.reported quoted := by rw [hr]; rfl
  have htype : r.scanType = scan.scanType := by rw [hr]; rfl
  cases hscan : scan.isTriangular with
  | true =>
    refine ⟨fun hc => ?_, fun hc => (by cases hc)⟩
    exact absurd hc.row
      (Scan.not_adds_of_triangular hscan htype houtput hin hquoted hgross hnet now)
  | false =>
    exact ⟨fun _ => rfl, fun _ => Scan.consistent_of_not_triangular hscan htype houtput hin
      hquoted hgross hnet hprofitable now⟩

def fixedApi (amounts : List String) : Api := fun call _ =>
  match amounts[call]? with
  | some amount => .ok ⟨amount, ["Whirlpool"]⟩
  | none => .error "Jupiter quote request failed"

theorem quotes_fixedApi {amounts : List String} {amount : UInt64}
    (h : Quotes (fixedApi amounts) amount) : ∃ text ∈ amounts, parseU64 text = .ok amount := by
  obtain ⟨call, url, quote, hcall, hparse⟩ := h
  unfold fixedApi at hcall
  split at hcall
  · next text htext =>
    cases hcall
    exact ⟨text, List.mem_of_getElem? htext, hparse⟩
  · cases hcall

/-- 1 SOL through 5000 tokens into 1.01 SOL. -/
theorem Scan.consistent_iff_round_trip :
    ∃ r, (Scan.roundTrip "Token" "TKN").run new (fixedApi ["5000", "1010000000"]) = .ok r ∧
      r.Consistent (r.toSimResult 0) := by
  have hsome : ((Scan.roundTrip "Token" "TKN").run new
      (fixedApi ["5000", "1010000000"])).toOption.isSome = true := by decide +kernel
  obtain ⟨r, hr⟩ := Option.isSome_iff_exists.mp hsome
  rw [toOption_eq_some] at hr
  refine ⟨r, hr, (Scan.consistent_iff new (by decide) (fixedApi ["5000", "1010000000"]) ?_ _ r hr
    0).mpr rfl⟩
  intro amount hquotes
  obtain ⟨text, htext, hparse⟩ := quotes_fixedApi hquotes
  have hsmall : ∀ text ∈ ["5000", "1010000000"],
      (parseU64 text).toOption.all (fun amount => decide (amount.toNat < 2^62)) = true := by
    decide +kernel
  have hall := hsmall text htext
  rw [hparse] at hall
  simpa using hall

/-- 1 SOL through a triangle into 1.1 SOL: the record reports 1100000000 and a gross profit of
94500000, and its row a profit of 91485000 where output, input and fee leave 97990000. -/
theorem Scan.triangle_inconsistent :
    ((Scan.triangular "Token" "TKN" usdcMint "USDC").run new
      (fixedApi ["5000", "150", "1100000000"])).toOption.map (fun r =>
        (r.outputLamports.toNat, r.inputLamports.toNat, r.grossProfitLamports.toInt)) =
      some (1100000000, 1000000000, 94500000) ∧
    ((Scan.triangular "Token" "TKN" usdcMint "USDC").run new
      (fixedApi ["5000", "150", "1100000000"])).toOption.map (fun r =>
        let row := r.toSimResult 0
        (row.simulatedProfitLamports.map Int64.toInt, row.simulatedOutput.map Int64.toInt,
          row.inputAmount.toInt, row.txFeeLamports.map Int64.toInt)) =
      some (some 91485000, some 1100000000, 1000000000, some 2010000) := by
  decide +kernel

end ProfitScanner
end SolanaArb
