import SolanaArb.Machine

/-! # RugCheck reports

A report has a score and the shares of the top holders. The safety record built from it
is never safe without a report.
-/
namespace SolanaArb.RugCheck

structure HolderInfo where
  pct : Option ℚ
  deriving DecidableEq, Repr

structure RugCheckReport where
  score : Option ℚ
  mintAuthority : Option String
  freezeAuthority : Option String
  topHolders : List HolderInfo
  deriving DecidableEq, Repr

/-- What the client gets: an error, no report (any status but success), or a report. -/
abbrev ReportResponse := Except String (Option RugCheckReport)

namespace RugCheckReport

def riskLevel (report : RugCheckReport) : String :=
  match report.score with
  | some s => if 80 ≤ s then "LOW" else if 50 ≤ s then "MEDIUM" else "HIGH"
  | none => "UNKNOWN"

def mintRevoked (report : RugCheckReport) : Bool :=
  report.mintAuthority == some "" || report.mintAuthority.isNone

def freezeRevoked (report : RugCheckReport) : Bool :=
  report.freezeAuthority == some "" || report.freezeAuthority.isNone

def topHolderPct (report : RugCheckReport) : ℚ :=
  ((report.topHolders.take 10).filterMap HolderInfo.pct).sum

end RugCheckReport

structure TokenSafety where
  mint : String
  rugcheckScore : Option ℚ
  riskLevel : String
  mintRevoked : Bool
  freezeRevoked : Bool
  topHolderPct : ℚ
  safe : Bool
  deriving DecidableEq, Repr

def TokenSafety.fromReport (mint : String) (report : RugCheckReport) : TokenSafety where
  mint := mint
  rugcheckScore := report.score
  riskLevel := report.riskLevel
  mintRevoked := report.mintRevoked
  freezeRevoked := report.freezeRevoked
  topHolderPct := report.topHolderPct
  safe := decide (50 ≤ report.score.getD 0) && report.mintRevoked && report.freezeRevoked &&
    decide (report.topHolderPct < 30)

/-- The safety of a token that is not in the cache. -/
def checkSafety (mint : String) (response : ReportResponse) : Except String TokenSafety := do
  match ← response with
  | some report => .ok (TokenSafety.fromReport mint report)
  | none => .ok {
    mint := mint
    rugcheckScore := none
    riskLevel := "UNKNOWN"
    mintRevoked := false
    freezeRevoked := false
    topHolderPct := 100
    safe := false }

def Passes (report : RugCheckReport) : Prop :=
  50 ≤ report.score.getD 0 ∧ report.topHolderPct < 30

instance (report : RugCheckReport) : Decidable (Passes report) :=
  inferInstanceAs (Decidable (_ ∧ _))

end SolanaArb.RugCheck
