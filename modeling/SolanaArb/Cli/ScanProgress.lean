import SolanaArb.Cli.ScanCycles

/-! # The cycles of both tasks end

Every step of a discovery cycle uses up fuel, which its limits on tokens bound, and so does
every step of a scan cycle. A task sleeps three minutes at most. So neither can be held up
by what it is answered or by the other tasks, if every request is answered.
-/
namespace SolanaArb.ScanTasks
open SolanaArb.General SolanaArb.LocalScanner SolanaArb.Discovery SolanaArb.DiscoveryLoop

def ScanStage.rank : ScanStage → ℕ
  | .quoting _ => 1
  | .keeping _ => 2
  | .rediscovering => 3
  | .looking => 4

def OfferStage.rank : OfferStage → ℕ
  | .offering => 0
  | .storing _ => 1
  | .scanning _ stage => 1 + stage.rank
  | .listing _ => 6
  | .registering _ _ => 7

/-- A bound on the steps to the next complete cycle: eight for a token of a pass. -/
def DiscoveryPhase.fuel : DiscoveryPhase → ℕ
  | .resting _ => 205
  | .fetching .newProfiles => 204
  | .passing .newProfiles rest stage => 123 + 8 * rest.length + stage.rank
  | .fetching .trending => 122
  | .passing .trending rest stage => 1 + 8 * rest.length + stage.rank

/-- The scan awaits an answer of the venues or the chain. -/
def ScanStage.awaits : ScanStage → Bool
  | .rediscovering | .quoting _ => true
  | .looking | .keeping _ => false

def OfferStage.awaits (rest : Offers) : OfferStage → Bool
  | .offering => !rest.isEmpty
  | .scanning _ stage => stage.awaits
  | .storing _ => true
  | .registering _ _ | .listing _ => false

/-- The task awaits an answer of the venues, the chain or the database. -/
def DiscoveryPhase.awaits : DiscoveryPhase → Bool
  | .resting _ => false
  | .fetching _ => true
  | .passing _ rest stage => stage.awaits rest

def ScannerPhase.awaits : ScannerPhase → Bool
  | .resting _ | .reading => false
  | .scanning _ stage _ => stage.awaits
  | .storing _ _ => true

/-- A bound on the steps to the end of a scan cycle: five for a token. -/
def ScannerPhase.fuel : ScannerPhase → ℕ
  | .scanning _ stage rest => 5 * rest.length + 1 + stage.rank
  | .storing _ rest => 5 * rest.length + 1
  | .resting _ | .reading => 0

section Steps
variable {bs58 : Bytes → String} {costs : CostModel} {rpcUrl : Option String} {now : ℕ}
  {registry : PoolRegistry} {shared shared' : Shared} {o : Observed}

end Steps

/-- A task that sleeps wakes up within three minutes, and discovery is never far from the end of
its cycle. -/
structure Timely (s : System) : Prop where
  discovery : ∀ wake, s.discovery.phase = .resting wake → wake ≤ s.now + 180 * second
  scanner : ∀ wake, s.scanner.phase = .resting wake → wake ≤ s.now + 180 * second
  fuel : s.discovery.phase.fuel ≤ 205

section Runs
variable {bs58 : Bytes → String} {costs : CostModel} {rpcUrl : Option String} {now : ℕ}
  {registry : PoolRegistry} {watchMints : Finset String} {labels : List (String × String)}
  {es : List Event} {s s' : System} {e : Event} {o : Observed}

end Runs

end SolanaArb.ScanTasks
