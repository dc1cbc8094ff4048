import SolanaArb.Cli.ScanList
import SolanaArb.Cli.Recording
import SolanaArb.General.Exclusive

/-! # Discovery and the periodic scanner, side by side

The discovery loop and the periodic scanner are two tasks. They share the registry, which
other tasks write too, and the scan list, which only discovery writes. A lock is held for
one access, so any other task may run between two steps. Times are nanoseconds, and any
time may pass between two steps: a task that awaits an answer takes its step when it has it,
and no request has a timeout. Log lines are left out.
-/
namespace SolanaArb.ScanTasks
open SolanaArb.General SolanaArb.Store SolanaArb.LocalScanner SolanaArb.Discovery
open SolanaArb.DiscoveryLoop SolanaArb.Recording

def second : ℕ := 1000000000

/-- What a step of a task may read: the venues and the chain, the random identifier and the
clock of a row. -/
structure Observed where
  profiles : Except String (List TokenProfile)
  answers : ℕ → Answers
  discovery : LocalScanner.Discovery
  quoter : Quoter
  simulationId : Uuid
  simulatedAt : Timestamp

/-- Where a scan stands: it looks the token up in the registry, discovers and keeps the pools
itself when it finds none, and then quotes them. -/
inductive ScanStage
  | looking
  | rediscovering
  | keeping (pools : List KnownPool)
  | quoting (pools : List KnownPool)

def ScanStage.asks : ScanStage → Bool
  | .rediscovering => true
  | _ => false

inductive Progress
  | going (stage : ScanStage)
  | returned (outcome : Except String CrossVenueResult)

/-- What a task has yet to do with a token of a pass. -/
inductive OfferStage
  | offering
  | registering (token : DiscoveredToken) (pools : List KnownPool)
  | listing (token : DiscoveredToken)
  | scanning (token : DiscoveredToken) (stage : ScanStage)
  | storing (row : Statement)

/-- The tokens of a pass, numbered. -/
abbrev Offers := List (DiscoveredToken × ℕ)

inductive DiscoveryPhase
  | resting (wake : ℕ)
  | fetching (path : DiscoveryPath)
  | passing (path : DiscoveryPath) (rest : Offers) (stage : OfferStage)

structure DiscoveryTask where
  phase : DiscoveryPhase
  known : Finset String
  /-- Not in the program: what the complete cycles and the current one have observed, and the
  rows sent so far. -/
  cycles : List CycleInput
  current : CycleInput
  issued : List Statement

/-- A scan of the periodic scanner that has returned, and its row if it is stored. -/
structure Scanned where
  tokenMint : String
  tokenSymbol : String
  outcome : Except String CrossVenueResult
  simulationId : Uuid
  simulatedAt : Timestamp

structure ScanCycle where
  began : ℕ
  tokens : List (String × String)
  scans : List Scanned
  /-- The counters at the end of the cycle: profitable scans and scans. -/
  reported : ℕ × ℕ

inductive ScannerPhase
  | resting (wake : ℕ)
  | reading
  | scanning (token : String × String) (stage : ScanStage) (rest : List (String × String))
  | storing (row : Statement) (rest : List (String × String))

structure ScannerTask where
  phase : ScannerPhase
  profitableCount : ℕ
  totalCount : ℕ
  /-- Not in the program: the complete cycles, the current one, the rows sent so far, and the
  tokens whose pools the scanner has discovered itself. -/
  cycles : List ScanCycle
  current : ScanCycle
  issued : List Statement
  asked : List String

/-- What the tasks share. -/
structure Shared where
  registry : PoolRegistry
  list : List (String × String)

def noAnswer : LocalScanner.Discovery :=
  ⟨.error "not asked", fun _ => .error "not asked", fun _ => .error "not asked"⟩

def noAnswers : Answers :=
  ⟨0, .error "not asked", .error "not asked", .error "not asked", .error "not asked"⟩

/-- A cycle that has observed nothing yet. -/
def noInput : CycleInput where
  profiles := .error "not asked"
  answers := fun _ => noAnswers
  newPools := fun _ => noAnswer
  boosted := .error "not asked"
  boostedAnswers := fun _ => noAnswers
  boostedPools := fun _ => noAnswer

section Inputs
variable (c : CycleInput)

def profilesOf : DiscoveryPath → Except String (List TokenProfile)
  | .newProfiles => c.profiles
  | .trending => c.boosted

def answersOf : DiscoveryPath → ℕ → Answers
  | .newProfiles => c.answers
  | .trending => c.boostedAnswers

def poolsOf : DiscoveryPath → ℕ → LocalScanner.Discovery
  | .newProfiles => c.newPools
  | .trending => c.boostedPools

def fetched (profiles : Except String (List TokenProfile)) (answers : ℕ → Answers) :
    DiscoveryPath → CycleInput
  | .newProfiles => { c with profiles := profiles, answers := answers }
  | .trending => { c with boosted := profiles, boostedAnswers := answers }

def lookedUp (i : ℕ) (discovery : LocalScanner.Discovery) : DiscoveryPath → CycleInput
  | .newProfiles => { c with newPools := Function.update c.newPools i discovery }
  | .trending => { c with boostedPools := Function.update c.boostedPools i discovery }

end Inputs

/-- The tokens that a pass offers; a failed discovery offers none. -/
def offers (rpcUrl : Option String) (known : Finset String)
    (profiles : Except String (List TokenProfile)) (answers : ℕ → Answers) :
    DiscoveryPath → Offers
  | .newProfiles =>
    match discoverNewTokens known minLiquidityUsd rpcUrl profiles answers with
    | .ok tokens => (safeTokens tokens).zipIdx
    | .error _ => []
  | .trending =>
    match discoverTrendingMultiPool known minLiquidityUsd profiles answers with
    | .ok tokens => tokens.zipIdx
    | .error _ => []

/-- The scan list with a token, unless it is there. -/
def listToken (list : List (String × String)) (token : DiscoveredToken) : List (String × String) :=
  if list.any (fun entry => entry.1 == token.mint) then list
  else pushCapped list (token.mint, token.symbol)

section Tasks
variable (bs58 : Bytes → String) (costs : CostModel) (rpcUrl : Option String)

def ScanStage.next (registry : PoolRegistry) (o : Observed) (tokenMint tokenSymbol : String) :
    ScanStage → Progress × PoolRegistry
  | .looking =>
    match (registry.lookup tokenMint).getD [] with
    | p :: ps => (.going (.quoting (dedupByDex (p :: ps))), registry)
    | [] => (.going .rediscovering, registry)
  | .rediscovering =>
    match discoverPoolsForToken bs58 o.discovery with
    | .ok found => (.going (.keeping (dedupByDex found)), registry)
    | .error e => (.returned (.error e), registry)
  | .keeping pools => (.going (.quoting pools), registerPools registry tokenMint pools)
  | .quoting pools => (.returned (scanToken costs o.quoter tokenMint tokenSymbol pools), registry)

/-- A scan of discovery is stored, whether it is profitable or not. -/
def scanRow (r : CrossVenueResult) (o : Observed) : Statement :=
  .insertSimulation o.simulationId (simResult r o.simulatedAt)

def DiscoveryTask.pass (now : ℕ) (s : Shared) (o : Observed) (t : DiscoveryTask)
    (path : DiscoveryPath) (rest : Offers) : OfferStage → DiscoveryTask × Shared
  | .offering =>
    match rest with
    | [] =>
      match path with
      | .newProfiles => ({ t with phase := .fetching .trending }, s)
      | .trending =>
        ({ t with
          phase := .resting (now + 180 * second)
          cycles := t.cycles ++ [t.current]
          current := noInput }, s)
    | (token, i) :: rest =>
      let t := { t with
        known := insert token.mint t.known
        current := lookedUp t.current i o.discovery path }
      match discoverPoolsForToken bs58 o.discovery with
      | .ok pools => ({ t with phase := .passing path rest (.registering token pools) }, s)
      | .error _ => ({ t with phase := .passing path rest .offering }, s)
  | .registering token pools =>
    ({ t with
      phase := .passing path rest (if pools.length < 2 then .offering else .listing token) },
      { s with registry := registerPools s.registry token.mint pools })
  | .listing token =>
    ({ t with phase := .passing path rest (.scanning token .looking) },
      { s with list := listToken s.list token })
  | .scanning token stage =>
    let (progress, registry) := stage.next bs58 costs s.registry o token.mint token.symbol
    let next := match progress with
      | .going stage => .scanning token stage
      | .returned (.ok r) => .storing (scanRow r o)
      | .returned (.error _) => .offering
    ({ t with phase := .passing path rest next }, { s with registry := registry })
  | .storing row =>
    ({ t with phase := .passing path rest .offering, issued := t.issued ++ [row] }, s)

/-- What the discovery task does next, unless it sleeps. -/
def DiscoveryTask.next (now : ℕ) (s : Shared) (o : Observed) (t : DiscoveryTask) :
    Option (DiscoveryTask × Shared) :=
  match t.phase with
  | .resting wake =>
    if wake ≤ now then some ({ t with phase := .fetching .newProfiles }, s) else none
  | .fetching path =>
    some ({ t with
      phase := .passing path (offers rpcUrl t.known o.profiles o.answers path) .offering
      current := fetched t.current o.profiles o.answers path }, s)
  | .passing path rest stage => some (t.pass bs58 costs now s o path rest stage)

/-- The scanner goes on to the next token, or reports the cycle and rests. -/
def ScannerTask.goOn (now : ℕ) (t : ScannerTask) : List (String × String) → ScannerTask
  | token :: rest => { t with phase := .scanning token .looking rest }
  | [] =>
    { t with
      phase := .resting (now + 180 * second)
      cycles := t.cycles ++ [{ t.current with reported := (t.profitableCount, t.totalCount) }]
      current := ⟨0, [], [], 0, 0⟩ }

def Scanned.of (token : String × String) (outcome : Except String CrossVenueResult)
    (o : Observed) : Scanned :=
  ⟨token.1, token.2, outcome, o.simulationId, o.simulatedAt⟩

/-- A scan of the current cycle returns. -/
def ScannerTask.scanned (t : ScannerTask) (scan : Scanned) : ScannerTask :=
  { t with current := { t.current with scans := t.current.scans ++ [scan] } }

/-- The scan of a token goes on, or returns; only a route is counted and stored. -/
def ScannerTask.proceed (now : ℕ) (o : Observed) (t : ScannerTask) (token : String × String)
    (rest : List (String × String)) : Progress → ScannerTask
  | .going stage => { t with phase := .scanning token stage rest }
  | .returned (.ok r) =>
    { t.scanned (Scanned.of token (.ok r) o) with
      phase := .storing (scanRow r o) rest
      profitableCount := t.profitableCount + if r.profitable then 1 else 0
      totalCount := t.totalCount + 1 }
  | .returned (.error e) => (t.scanned (Scanned.of token (.error e) o)).goOn now rest

/-- What the periodic scanner does next, unless it sleeps. -/
def ScannerTask.next (now : ℕ) (s : Shared) (o : Observed) (t : ScannerTask) :
    Option (ScannerTask × Shared) :=
  match t.phase with
  | .resting wake => if wake ≤ now then some ({ t with phase := .reading }, s) else none
  | .reading =>
    match s.list with
    | [] => some ({ t with phase := .resting (now + 60 * second) }, s)
    | token :: rest =>
      some ({ t with
        phase := .scanning token .looking rest
        profitableCount := 0
        totalCount := 0
        current := ⟨now, token :: rest, [], 0, 0⟩ }, s)
  | .scanning token stage rest =>
    let (progress, registry) := stage.next bs58 costs s.registry o token.1 token.2
    let t := { t with asked := if stage.asks then t.asked ++ [token.1] else t.asked }
    some (t.proceed now o token rest progress, { s with registry := registry })
  | .storing row rest => some ({ t with issued := t.issued ++ [row] }.goOn now rest, s)

structure System where
  now : ℕ
  shared : Shared
  discovery : DiscoveryTask
  scanner : ScannerTask

inductive Event
  | pass (nanos : ℕ)
  /-- Another task registers pools. -/
  | registered (tokenMint : String) (pools : List KnownPool)
  | discovery (o : Observed)
  | scanner (o : Observed)

def System.next (s : System) : Event → Option System
  | .pass nanos => some { s with now := s.now + nanos }
  | .registered tokenMint pools =>
    some { s with shared.registry := registerPools s.shared.registry tokenMint pools }
  | .discovery o => do
    let (t, shared) ← s.discovery.next bs58 costs rpcUrl s.now s.shared o
    some { s with discovery := t, shared := shared }
  | .scanner o => do
    let (t, shared) ← s.scanner.next bs58 costs s.now s.shared o
    some { s with scanner := t, shared := shared }

abbrev Step (s : System) (e : Event) (t : System) : Prop := s.next bs58 costs rpcUrl e = some t

end Tasks

/-- Discovery starts after ten seconds and the scanner after thirty. -/
def start (now : ℕ) (registry : PoolRegistry) (watchMints : Finset String)
    (labels : List (String × String)) : System where
  now := now
  shared := ⟨registry, labels⟩
  discovery := ⟨.resting (now + 10 * second), watchMints, [], noInput, []⟩
  scanner := ⟨.resting (now + 30 * second), 0, 0, [], ⟨0, [], [], 0, 0⟩, [], []⟩

end SolanaArb.ScanTasks
