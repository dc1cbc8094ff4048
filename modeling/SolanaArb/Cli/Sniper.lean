import SolanaArb.Cli.Recording
import SolanaArb.Feed.PoolMonitor
import SolanaArb.General.Exclusive

/-! # The graduation sniper

Every graduation starts a task. It lets the new pool settle for three seconds and then, for
a minute, discovers and registers the pools of the token, scans it and stores what the scan
found, with a rest of five seconds after each attempt. The tasks run side by side, and other
tasks write the registry too. Times are nanoseconds, and any time may pass between two
steps: a task that awaits an answer takes its step when it has it, and no request has a
timeout. Log lines are left out, and with them the prefixes they print.
-/
namespace SolanaArb.Sniper
open SolanaArb.General SolanaArb.Store SolanaArb.Recording SolanaArb.LocalScanner
open SolanaArb.PoolMonitor

def settleTime : ℕ := 3000000000
def maxDuration : ℕ := 60000000000
def checkInterval : ℕ := 5000000000

/-- Where a task stands. The scan of an attempt looks the token up in the registry, and
discovers and keeps its pools itself when it finds none. -/
inductive Phase
  | settling (wake : ℕ)
  | checking
  | discovering
  | registering (pools : List KnownPool)
  | looking
  | rediscovering
  | keeping (pools : List KnownPool)
  | quoting (pools : List KnownPool)
  | storing (rest : List Statement)
  | resting (wake : ℕ)
  | complete

/-- What a step of a task may read: the venues and the chain, the random identifiers and the
clock of the rows. -/
structure Observed where
  discovery : Discovery
  quoter : Quoter
  simulationId : Uuid
  simulatedAt : Timestamp
  executionId : Uuid
  executedAt : Timestamp

structure Scanned where
  outcome : Except String CrossVenueResult
  observed : Observed

/-- The record of a triggered scan, under the strategy of the sniper. -/
def snipeExecution (mode : ExecutionMode) (r : CrossVenueResult) (now : Timestamp) :
    ExecutionResult :=
  { ControlPanel.executionResult mode r now with strategy := .graduationSnipe }

/-- A scan is stored as a simulation, and a profitable one as an execution too. -/
def Scanned.statements (mode : ExecutionMode) (scan : Scanned) : List Statement :=
  match scan.outcome with
  | .ok r =>
    .insertSimulation scan.observed.simulationId (simResult r scan.observed.simulatedAt) ::
      (if r.profitable then
        [.insertExecution scan.observed.executionId
          (snipeExecution mode r scan.observed.executedAt)]
      else [])
  | .error _ => []

structure Snipe where
  tokenMint : String
  symbol : String
  snipeStart : ℕ
  start : ℕ
  phase : Phase
  /-- Not in the program: when each attempt began, what each scan returned, and the
  statements sent so far. -/
  attempts : List ℕ
  scans : List Scanned
  issued : List Statement

section Loop
variable (bs58 : Bytes → String) (mode : ExecutionMode) (costs : CostModel)

def Snipe.scanned (t : Snipe) (scan : Scanned) : Snipe :=
  { t with phase := .storing (scan.statements mode), scans := t.scans ++ [scan] }

/-- What a task does next, unless it sleeps. -/
def Snipe.next (now : ℕ) (registry : PoolRegistry) (o : Observed) (t : Snipe) :
    Option (Snipe × PoolRegistry) :=
  match t.phase with
  | .settling wake =>
    if wake ≤ now then some ({ t with phase := .checking, start := now }, registry) else none
  | .checking =>
    if now - t.start < maxDuration then
      some ({ t with phase := .discovering, attempts := t.attempts ++ [now] }, registry)
    else some ({ t with phase := .complete }, registry)
  | .discovering =>
    match discoverPoolsForToken bs58 o.discovery with
    | .ok pools => some ({ t with phase := .registering pools }, registry)
    | .error _ => some ({ t with phase := .looking }, registry)
  | .registering pools =>
    some ({ t with phase := .looking }, registerPools registry t.tokenMint pools)
  | .looking =>
    match (registry.lookup t.tokenMint).getD [] with
    | p :: ps => some ({ t with phase := .quoting (dedupByDex (p :: ps)) }, registry)
    | [] => some ({ t with phase := .rediscovering }, registry)
  | .rediscovering =>
    match discoverPoolsForToken bs58 o.discovery with
    | .ok found => some ({ t with phase := .keeping (dedupByDex found) }, registry)
    | .error e => some (t.scanned mode ⟨.error e, o⟩, registry)
  | .keeping pools =>
    some ({ t with phase := .quoting pools }, registerPools registry t.tokenMint pools)
  | .quoting pools =>
    some (t.scanned mode ⟨scanToken costs o.quoter t.tokenMint t.symbol pools, o⟩, registry)
  | .storing (statement :: rest) =>
    some ({ t with phase := .storing rest, issued := t.issued ++ [statement] }, registry)
  | .storing [] => some ({ t with phase := .resting (now + checkInterval) }, registry)
  | .resting wake => if wake ≤ now then some ({ t with phase := .checking }, registry) else none
  | .complete => none

structure System where
  now : ℕ
  registry : PoolRegistry
  snipes : List Snipe

inductive Event
  | pass (nanos : ℕ)
  | graduated (event : GraduationEvent)
  /-- Another task registers pools. -/
  | registered (tokenMint : String) (pools : List KnownPool)
  | step (i : ℕ) (o : Observed)

def snipeSymbol (event : GraduationEvent) : String :=
  if event.tokenSymbol.isEmpty then shortMint event.baseMint else event.tokenSymbol

def launch (now : ℕ) (event : GraduationEvent) : Snipe where
  tokenMint := event.baseMint
  symbol := snipeSymbol event
  snipeStart := now
  start := now
  phase := .settling (now + settleTime)
  attempts := []
  scans := []
  issued := []

def System.next (s : System) : Event → Option System
  | .pass nanos => some { s with now := s.now + nanos }
  | .graduated event => some { s with snipes := s.snipes ++ [launch s.now event] }
  | .registered tokenMint pools =>
    some { s with registry := registerPools s.registry tokenMint pools }
  | .step i o => do
    let t ← s.snipes[i]?
    let (t, registry) ← t.next bs58 mode costs s.now s.registry o
    some { s with snipes := s.snipes.set i t, registry := registry }

abbrev Step (s : System) (e : Event) (t : System) : Prop := s.next bs58 mode costs e = some t

end Loop

def noSnipes (now : ℕ) (registry : PoolRegistry) : System := ⟨now, registry, []⟩

/-- The statements that a task has still to send. -/
def Phase.pending : Phase → List Statement
  | .storing rest => rest
  | _ => []

/-- The scan of the last attempt has not returned. -/
def Phase.underWay : Phase → Bool
  | .discovering | .registering _ | .looking | .rediscovering | .keeping _ | .quoting _ => true
  | _ => false

/-- The task awaits an answer of the venues, the chain or the database. -/
def Phase.awaits : Phase → Bool
  | .discovering | .rediscovering | .quoting _ | .storing (_ :: _) => true
  | _ => false

def Phase.rank : Phase → ℕ
  | .complete => 0
  | .checking => 1
  | .settling _ | .resting _ => 2
  | .storing rest => 3 + rest.length
  | .quoting _ => 6
  | .keeping _ => 7
  | .rediscovering => 8
  | .looking => 9
  | .registering _ => 10
  | .discovering => 11

/-- A bound on the steps that a task has still to take. -/
def Snipe.fuel (t : Snipe) : ℕ := 12 * (12 - t.attempts.length) + t.phase.rank

/-- The loop has started, three seconds or more after the graduation was handled. -/
def Snipe.Started (now : ℕ) (t : Snipe) : Prop :=
  t.snipeStart + settleTime ≤ t.start ∧ t.start ≤ now

/-- What the sleeps ensure at each phase. -/
def Snipe.Timed (now : ℕ) (t : Snipe) : Prop :=
  match t.phase with
  | .settling wake => wake = t.snipeStart + settleTime ∧ t.attempts = []
  | .checking => t.Started now ∧ ∀ u ∈ t.attempts.getLast?, u + checkInterval ≤ now
  | .resting wake => t.Started now ∧ wake ≤ now + checkInterval ∧
      ∀ u ∈ t.attempts.getLast?, u + checkInterval ≤ wake
  | _ => t.Started now

structure Sound (mode : ExecutionMode) (costs : CostModel) (now : ℕ) (t : Snipe) : Prop where
  handled : t.snipeStart ≤ now
  timed : t.Timed now
  within : ∀ u ∈ t.attempts, t.snipeStart + settleTime ≤ u ∧ t.start ≤ u ∧
    u < t.start + maxDuration ∧ u ≤ now
  spaced : Spaced checkInterval t.attempts
  scans : t.scans.length + (if t.phase.underWay then 1 else 0) = t.attempts.length
  statements : t.issued ++ t.phase.pending = t.scans.flatMap (Scanned.statements mode)
  outcomes : ∀ scan ∈ t.scans, ∀ r, scan.outcome = .ok r →
    ∃ pools, scanToken costs scan.observed.quoter t.tokenMint t.symbol pools = .ok r

section Tasks
variable {bs58 : Bytes → String} {mode : ExecutionMode} {costs : CostModel} {now now' : ℕ}
  {registry registry' : PoolRegistry} {o : Observed} {t t' : Snipe}

theorem launch_sound (now : ℕ) (event : GraduationEvent) :
    Sound mode costs now (launch now event) := by
  refine ⟨le_rfl, ⟨rfl, rfl⟩, ?_, List.Pairwise.nil, rfl, rfl, ?_⟩
  · intro u hu
    cases hu
  · intro scan hscan
    cases hscan

theorem Snipe.Started.later (h : t.Started now) (hle : now ≤ now') : t.Started now' :=
  ⟨h.1, h.2.trans hle⟩

theorem Sound.later (hs : Sound mode costs now t) (hle : now ≤ now') :
    Sound mode costs now' t := by
  refine ⟨hs.handled.trans hle, ?_, ?_, hs.spaced, hs.scans, hs.statements, hs.outcomes⟩
  · have h := hs.timed
    unfold Snipe.Timed at *
    split at h
    · exact h
    · exact ⟨h.1.later hle, fun u hu => (h.2 u hu).trans hle⟩
    · exact ⟨h.1.later hle, h.2.1.trans (Nat.add_le_add_right hle _), h.2.2⟩
    · exact h.later hle
  · intro u hu
    obtain ⟨hsettled, hstart, hend, hnow⟩ := hs.within u hu
    exact ⟨hsettled, hstart, hend, hnow.trans hle⟩

/-- Before a new attempt there are at most eleven. -/
theorem Sound.attempts_lt (hs : Sound mode costs now t) (hphase : t.phase = .checking)
    (hgo : now - t.start < maxDuration) : t.attempts.length < 12 := by
  have htimed := hs.timed
  rw [Snipe.Timed, hphase] at htimed
  obtain ⟨hstarted, hrested⟩ := htimed
  have hspaced := hs.spaced.snoc hrested
  have hwithin : ∀ u ∈ t.attempts ++ [now], t.start ≤ u ∧ u ≤ t.start + maxDuration - 1 := by
    intro u hu
    rcases List.mem_append.mp hu with hu | hu
    · obtain ⟨_, hstart, hend, _⟩ := hs.within u hu
      exact ⟨hstart, by omega⟩
    · obtain rfl := List.mem_singleton.mp hu
      exact ⟨hstarted.2, by omega⟩
  have hcount := hspaced.count (fun u hu => (hwithin u hu).1) (fun u hu => (hwithin u hu).2)
  rw [List.length_append, List.length_singleton] at hcount
  unfold checkInterval maxDuration at hcount
  omega

theorem Phase.underWay_timed {phase : Phase} (h : phase.underWay = true)
    (hphase : t.phase = phase) : t.Timed now ↔ t.Started now := by
  unfold Snipe.Timed
  rw [hphase]
  cases phase with
  | settling wake | checking | storing rest | resting wake | complete => cases h
  | discovering | registering pools | looking | rediscovering | keeping pools | quoting pools =>
    exact Iff.rfl

theorem Phase.underWay_pending {phase : Phase} (h : phase.underWay = true) :
    phase.pending = [] := by
  cases phase with
  | settling wake | checking | storing rest | resting wake | complete => cases h
  | discovering | registering pools | looking | rediscovering | keeping pools | quoting pools => rfl

/-- From one stage of an attempt to the next. -/
theorem Sound.move (hs : Sound mode costs now t) (hfrom : t.phase.underWay = true) {phase : Phase}
    (hto : phase.underWay = true) : Sound mode costs now { t with phase := phase } := by
  have hstarted := (Phase.underWay_timed hfrom rfl).mp hs.timed
  refine ⟨hs.handled, (Phase.underWay_timed hto rfl).mpr hstarted, hs.within, hs.spaced, ?_, ?_,
    hs.outcomes⟩
  · have h := hs.scans
    rw [hfrom] at h
    rw [hto]
    exact h
  · have h := hs.statements
    rw [Phase.underWay_pending hfrom] at h
    rw [Phase.underWay_pending hto]
    exact h

/-- The scan of an attempt returns. -/
theorem Sound.scanned (hs : Sound mode costs now t) (hfrom : t.phase.underWay = true)
    {scan : Scanned} (houtcome : ∀ r, scan.outcome = .ok r →
      ∃ pools, scanToken costs scan.observed.quoter t.tokenMint t.symbol pools = .ok r) :
    Sound mode costs now (t.scanned mode scan) := by
  have hstarted := (Phase.underWay_timed hfrom rfl).mp hs.timed
  refine ⟨hs.handled, hstarted, hs.within, hs.spaced, ?_, ?_, ?_⟩
  · have h := hs.scans
    rw [hfrom] at h
    change (t.scans ++ [scan]).length + 0 = t.attempts.length
    rw [List.length_append]
    exact h
  · have h := hs.statements
    rw [Phase.underWay_pending hfrom, List.append_nil] at h
    change t.issued ++ scan.statements mode = (t.scans ++ [scan]).flatMap (Scanned.statements mode)
    rw [List.flatMap_append, h, List.flatMap_singleton]
  · intro other hmem r hr
    rcases List.mem_append.mp hmem with hmem | hmem
    · exact hs.outcomes other hmem r hr
    · obtain rfl := List.mem_singleton.mp hmem
      exact houtcome r hr

/-- Nothing is left to store, and the task rests. -/
theorem Sound.rest (hs : Sound mode costs now t) (hphase : t.phase = .storing []) :
    Sound mode costs now { t with phase := .resting (now + checkInterval) } := by
  have hstarted := hs.timed
  have hscans := hs.scans
  have hstatements := hs.statements
  rw [Snipe.Timed, hphase] at hstarted
  rw [hphase] at hscans hstatements
  refine ⟨hs.handled, ⟨hstarted, le_rfl, ?_⟩, hs.within, hs.spaced, hscans, hstatements,
    hs.outcomes⟩
  intro u hu
  exact Nat.add_le_add_right (hs.within u (List.mem_of_mem_getLast? hu)).2.2.2 _

theorem Sound.begin (hs : Sound mode costs now t) (hphase : t.phase = .checking)
    (hgo : now - t.start < maxDuration) :
    Sound mode costs now { t with phase := .discovering, attempts := t.attempts ++ [now] } := by
  have htimed := hs.timed
  have hscans := hs.scans
  have hstatements := hs.statements
  rw [Snipe.Timed, hphase] at htimed
  rw [hphase] at hscans hstatements
  obtain ⟨hstarted, hrested⟩ := htimed
  refine ⟨hs.handled, hstarted, ?_, hs.spaced.snoc hrested, ?_, hstatements, hs.outcomes⟩
  · intro u hu
    rcases List.mem_append.mp hu with hu | hu
    · exact hs.within u hu
    · obtain rfl := List.mem_singleton.mp hu
      obtain ⟨hsettled, hstart⟩ := hstarted
      refine ⟨hsettled.trans hstart, hstart, ?_, le_rfl⟩
      change u < t.start + maxDuration
      omega
  · rw [List.length_append, List.length_singleton, ← hscans]
    rfl

/-- The task goes on soundly, and nearer to its end. -/
structure Advanced (mode : ExecutionMode) (costs : CostModel) (now : ℕ) (t t' : Snipe) : Prop where
  sound : Sound mode costs now t'
  fuel : t'.fuel < t.fuel
  tokenMint : t'.tokenMint = t.tokenMint
  symbol : t'.symbol = t.symbol

theorem Sound.enter {phase : Phase}
    (hs : Sound mode costs now { t with phase := phase })
    (hrank : phase.rank < t.phase.rank) : Advanced mode costs now t { t with phase := phase } :=
  ⟨hs, Nat.add_lt_add_left hrank _, rfl, rfl⟩

theorem Sound.stage (hs : Sound mode costs now t) {phase next : Phase} (hphase : t.phase = phase)
    (hfrom : phase.underWay = true) (hto : next.underWay = true) (hrank : next.rank < phase.rank) :
    Advanced mode costs now t { t with phase := next } := by
  subst hphase
  exact (hs.move hfrom hto).enter hrank

theorem Sound.returned (hs : Sound mode costs now t) {phase : Phase} (hphase : t.phase = phase)
    (hfrom : phase.underWay = true) {scan : Scanned} (houtcome : ∀ r, scan.outcome = .ok r →
      ∃ pools, scanToken costs scan.observed.quoter t.tokenMint t.symbol pools = .ok r)
    (hrank : 3 + (scan.statements mode).length < phase.rank) :
    Advanced mode costs now t (t.scanned mode scan) := by
  subst hphase
  exact ⟨hs.scanned hfrom houtcome, Nat.add_lt_add_left hrank _, rfl, rfl⟩

theorem statements_length_le (mode : ExecutionMode) (scan : Scanned) :
    (scan.statements mode).length ≤ 2 := by
  unfold Scanned.statements
  split
  · split
    · exact le_rfl
    · exact Nat.le_succ _
  · exact Nat.zero_le _

/-- The first sleep is over. -/
theorem Sound.settled (hs : Sound mode costs now t) {wake : ℕ}
    (hphase : t.phase = .settling wake) (hwake : wake ≤ now) :
    Advanced mode costs now t { t with phase := .checking, start := now } := by
  have htimed := hs.timed
  have hscans := hs.scans
  have hstatements := hs.statements
  rw [Snipe.Timed, hphase] at htimed
  rw [hphase] at hscans hstatements
  obtain ⟨rfl, hnone⟩ := htimed
  refine ⟨⟨hs.handled, ⟨⟨hwake, le_rfl⟩, ?_⟩, ?_, hs.spaced, hscans, hstatements, hs.outcomes⟩,
    ?_, rfl, rfl⟩
  · intro u hu
    rw [hnone] at hu
    cases hu
  · intro u hu
    rw [hnone] at hu
    cases hu
  · rw [Snipe.fuel, Snipe.fuel, hphase]
    exact Nat.add_lt_add_left Nat.one_lt_two _

theorem Sound.attempt (hs : Sound mode costs now t) (hphase : t.phase = .checking)
    (hgo : now - t.start < maxDuration) : Advanced mode costs now t
      { t with phase := .discovering, attempts := t.attempts ++ [now] } := by
  have hlt := hs.attempts_lt hphase hgo
  refine ⟨hs.begin hphase hgo, ?_, rfl, rfl⟩
  rw [Snipe.fuel, Snipe.fuel, hphase, List.length_append, List.length_singleton]
  change 12 * (12 - (t.attempts.length + 1)) + 11 < 12 * (12 - t.attempts.length) + 1
  omega

/-- The minute is over. -/
theorem Sound.completed (hs : Sound mode costs now t) (hphase : t.phase = .checking) :
    Advanced mode costs now t { t with phase := .complete } := by
  have htimed := hs.timed
  have hscans := hs.scans
  have hstatements := hs.statements
  rw [Snipe.Timed, hphase] at htimed
  rw [hphase] at hscans hstatements
  apply Sound.enter
  · exact ⟨hs.handled, htimed.1, hs.within, hs.spaced, hscans, hstatements, hs.outcomes⟩
  · rw [hphase]
    exact Nat.one_pos

theorem Sound.stored (hs : Sound mode costs now t) {statement : Statement}
    {rest : List Statement} (hphase : t.phase = .storing (statement :: rest)) :
    Advanced mode costs now t
      { t with phase := .storing rest, issued := t.issued ++ [statement] } := by
  have htimed := hs.timed
  have hscans := hs.scans
  have hstatements := hs.statements
  rw [Snipe.Timed, hphase] at htimed
  rw [hphase] at hscans hstatements
  refine ⟨⟨hs.handled, htimed, hs.within, hs.spaced, hscans, ?_, hs.outcomes⟩, ?_, rfl, rfl⟩
  · rw [← hstatements]
    exact List.append_assoc _ _ _
  · rw [Snipe.fuel, Snipe.fuel, hphase]
    exact Nat.add_lt_add_left (Nat.add_lt_add_left (Nat.lt_succ_self _) _) _

theorem Sound.woken (hs : Sound mode costs now t) {wake : ℕ} (hphase : t.phase = .resting wake)
    (hwake : wake ≤ now) : Advanced mode costs now t { t with phase := .checking } := by
  have htimed := hs.timed
  have hscans := hs.scans
  have hstatements := hs.statements
  rw [Snipe.Timed, hphase] at htimed
  rw [hphase] at hscans hstatements
  obtain ⟨hstarted, _, hrested⟩ := htimed
  apply Sound.enter
  · exact ⟨hs.handled, ⟨hstarted, fun u hu => (hrested u hu).trans hwake⟩, hs.within, hs.spaced,
      hscans, hstatements, hs.outcomes⟩
  · rw [hphase]
    exact Nat.one_lt_two

theorem next_advanced (hs : Sound mode costs now t)
    (h : t.next bs58 mode costs now registry o = some (t', registry')) :
    Advanced mode costs now t t' := by
  unfold Snipe.next at h
  cases hphase : t.phase with
  | settling wake =>
    simp only [hphase, Option.ite_none_right_eq_some, Option.some.injEq, Prod.mk.injEq] at h
    obtain ⟨hwake, rfl, _⟩ := h
    exact hs.settled hphase hwake
  | checking =>
    simp only [hphase] at h
    split at h
    · next hgo =>
      obtain ⟨rfl, _⟩ := Prod.mk.inj (Option.some.inj h)
      exact hs.attempt hphase hgo
    · obtain ⟨rfl, _⟩ := Prod.mk.inj (Option.some.inj h)
      exact hs.completed hphase
  | discovering =>
    simp only [hphase] at h
    split at h
    · obtain ⟨rfl, _⟩ := Prod.mk.inj (Option.some.inj h)
      exact hs.stage hphase rfl rfl (by simp [Phase.rank])
    · obtain ⟨rfl, _⟩ := Prod.mk.inj (Option.some.inj h)
      exact hs.stage hphase rfl rfl (by simp [Phase.rank])
  | registering pools =>
    simp only [hphase] at h
    obtain ⟨rfl, _⟩ := Prod.mk.inj (Option.some.inj h)
    exact hs.stage hphase rfl rfl (by simp [Phase.rank])
  | looking =>
    simp only [hphase] at h
    split at h
    · obtain ⟨rfl, _⟩ := Prod.mk.inj (Option.some.inj h)
      exact hs.stage hphase rfl rfl (by simp [Phase.rank])
    · obtain ⟨rfl, _⟩ := Prod.mk.inj (Option.some.inj h)
      exact hs.stage hphase rfl rfl (by simp [Phase.rank])
  | rediscovering =>
    simp only [hphase] at h
    split at h
    · obtain ⟨rfl, _⟩ := Prod.mk.inj (Option.some.inj h)
      exact hs.stage hphase rfl rfl (by simp [Phase.rank])
    · obtain ⟨rfl, _⟩ := Prod.mk.inj (Option.some.inj h)
      refine hs.returned hphase rfl ?_ (by simp [Phase.rank, Scanned.statements])
      intro r hr
      cases hr
  | keeping pools =>
    simp only [hphase] at h
    obtain ⟨rfl, _⟩ := Prod.mk.inj (Option.some.inj h)
    exact hs.stage hphase rfl rfl (by simp [Phase.rank])
  | quoting pools =>
    simp only [hphase] at h
    obtain ⟨rfl, _⟩ := Prod.mk.inj (Option.some.inj h)
    refine hs.returned hphase rfl (fun r hr => ⟨pools, hr⟩) ?_
    have hle := statements_length_le mode
      ⟨scanToken costs o.quoter t.tokenMint t.symbol pools, o⟩
    simp only [Phase.rank]
    omega
  | storing rest =>
    cases rest with
    | nil =>
      simp only [hphase] at h
      obtain ⟨rfl, _⟩ := Prod.mk.inj (Option.some.inj h)
      apply (hs.rest hphase).enter
      rw [hphase]
      simp [Phase.rank]
    | cons statement rest =>
      simp only [hphase] at h
      obtain ⟨rfl, _⟩ := Prod.mk.inj (Option.some.inj h)
      exact hs.stored hphase
  | resting wake =>
    simp only [hphase, Option.ite_none_right_eq_some, Option.some.injEq, Prod.mk.injEq] at h
    obtain ⟨hwake, rfl, _⟩ := h
    exact hs.woken hphase hwake
  | complete =>
    simp only [hphase] at h
    cases h

end Tasks

/-- The graduations handled so far. -/
def graduations (es : List Event) : List GraduationEvent :=
  es.filterMap (fun
    | .graduated event => some event
    | _ => none)

def isStepOf (i : ℕ) : Event → Bool
  | .step j _ => j == i
  | _ => false

/-- Where a run is: each graduation has its task, which is sound and has taken no more steps
than its fuel allows. -/
structure Kept (mode : ExecutionMode) (costs : CostModel) (es : List Event) (s : System) : Prop where
  sound : ∀ t ∈ s.snipes, Sound mode costs s.now t
  launched : s.snipes.map (fun t => (t.tokenMint, t.symbol)) =
    (graduations es).map (fun event => (event.baseMint, snipeSymbol event))
  steps : ∀ i t, s.snipes[i]? = some t → es.countP (isStepOf i) + t.fuel ≤ 146
  fresh : ∀ i, s.snipes.length ≤ i → es.countP (isStepOf i) = 0

section Runs
variable {bs58 : Bytes → String} {mode : ExecutionMode} {costs : CostModel} {es : List Event}
  {e : Event} {s s' : System}

theorem graduations_snoc (es : List Event) (e : Event) :
    graduations (es ++ [e]) = graduations es ++ graduations [e] :=
  List.filterMap_append

theorem countP_snoc {i : ℕ} (h : isStepOf i e = false) :
    (es ++ [e]).countP (isStepOf i) = es.countP (isStepOf i) := by
  rw [List.countP_append, List.countP_singleton, h]
  rfl

/-- An event that is neither a graduation nor a step. -/
theorem Kept.quiet (hs : Kept mode costs es s) (hnone : graduations [e] = [])
    (hstep : ∀ i, isStepOf i e = false) (hsnipes : s'.snipes = s.snipes) (hnow : s.now ≤ s'.now) :
    Kept mode costs (es ++ [e]) s' := by
  constructor
  · rw [hsnipes]
    exact fun t ht => (hs.sound t ht).later hnow
  · rw [hsnipes, graduations_snoc, hnone, List.append_nil]
    exact hs.launched
  · intro i t ht
    rw [hsnipes] at ht
    rw [countP_snoc (hstep i)]
    exact hs.steps i t ht
  · intro i hi
    rw [hsnipes] at hi
    rw [countP_snoc (hstep i)]
    exact hs.fresh i hi

theorem graduated_kept (hs : Kept mode costs es s) (event : GraduationEvent) :
    Kept mode costs (es ++ [.graduated event])
      { s with snipes := s.snipes ++ [launch s.now event] } := by
  constructor
  · intro t ht
    rcases List.mem_append.mp ht with ht | ht
    · exact hs.sound t ht
    · obtain rfl := List.mem_singleton.mp ht
      exact launch_sound s.now event
  · rw [List.map_append, hs.launched, graduations_snoc, List.map_append]
    rfl
  · intro i t ht
    rw [countP_snoc rfl]
    rcases lt_or_ge i s.snipes.length with hlt | hge
    · rw [List.getElem?_append_left hlt] at ht
      exact hs.steps i t ht
    · rw [List.getElem?_append_right hge] at ht
      obtain rfl := List.mem_singleton.mp (List.mem_of_getElem? ht)
      rw [hs.fresh i hge, Nat.zero_add]
      rfl
  · intro i hi
    rw [countP_snoc rfl]
    rw [List.length_append] at hi
    exact hs.fresh i (by omega)

theorem step_kept (hs : Kept mode costs es s) {i : ℕ} {o : Observed}
    (h : Step bs58 mode costs s (.step i o) s') : Kept mode costs (es ++ [.step i o]) s' := by
  obtain ⟨t, ht, hrest⟩ := Option.bind_eq_some_iff.mp h
  obtain ⟨⟨t', registry⟩, hnext, hs'⟩ := Option.bind_eq_some_iff.mp hrest
  obtain rfl := Option.some.inj hs'
  have hlt : i < s.snipes.length := (List.getElem?_eq_some_iff.mp ht).1
  have hadvanced := next_advanced (hs.sound t (List.mem_of_getElem? ht)) hnext
  have hother {j : ℕ} (hne : i ≠ j) : isStepOf j (.step i o) = false := beq_false_of_ne hne
  constructor
  · intro u hu
    rcases List.mem_or_eq_of_mem_set hu with hu | rfl
    · exact hs.sound u hu
    · exact hadvanced.sound
  · rw [graduations_snoc, List.map_append, ← hs.launched]
    refine Eq.trans ?_ (List.append_nil _).symm
    exact map_set_same ht (Prod.ext hadvanced.tokenMint hadvanced.symbol)
  · intro j u hu
    rw [List.getElem?_set, if_pos hlt] at hu
    split at hu
    · next hij =>
      subst hij
      obtain rfl := Option.some.inj hu
      have hsteps := hs.steps i t ht
      have hfuel := hadvanced.fuel
      have hcount : (es ++ [Event.step i o]).countP (isStepOf i) = es.countP (isStepOf i) + 1 := by
        rw [List.countP_append, List.countP_singleton, isStepOf, beq_self_eq_true, if_pos rfl]
      rw [hcount]
      omega
    · next hne =>
      rw [countP_snoc (hother hne)]
      exact hs.steps j u hu
  · intro j hj
    rw [List.length_set] at hj
    rw [countP_snoc (hother (by omega))]
    exact hs.fresh j hj

theorem next_kept (hs : Kept mode costs es s) (h : Step bs58 mode costs s e s') :
    Kept mode costs (es ++ [e]) s' := by
  cases e with
  | pass nanos =>
    obtain rfl := Option.some.inj h
    exact hs.quiet rfl (fun _ => rfl) rfl (Nat.le_add_right _ _)
  | graduated event =>
    obtain rfl := Option.some.inj h
    exact graduated_kept hs event
  | registered tokenMint pools =>
    obtain rfl := Option.some.inj h
    exact hs.quiet rfl (fun _ => rfl) rfl le_rfl
  | step i o => exact step_kept hs h

theorem run_kept {now : ℕ} {registry : PoolRegistry}
    (hr : Run (Step bs58 mode costs) (noSnipes now registry) es s) : Kept mode costs es s := by
  apply hr.invariant (Kept mode costs)
  · refine ⟨?_, rfl, ?_, fun _ _ => rfl⟩
    · intro t ht
      cases ht
    · intro i t ht
      cases ht
  · intro es s e t _ hs hstep
    exact next_kept hs hstep

end Runs

section Rows
variable {mode : ExecutionMode} {costs : CostModel} {now : ℕ} {t : Snipe} {scan : Scanned}

theorem scanToken_profitable {quoter : Quoter} {tokenMint tokenSymbol : String}
    {pools : List KnownPool} {r : CrossVenueResult}
    (h : scanToken costs quoter tokenMint tokenSymbol pools = .ok r) :
    r.profitable = decide (0 < r.netProfitLamports) := by
  obtain ⟨_, _, _, _, _, _, _, _, _, rfl⟩ := scanToken_fromTrade h
  rfl

theorem mem_statements_simulation {id : Uuid} {sim : SimResult}
    (h : .insertSimulation id sim ∈ scan.statements mode) : ∃ r, scan.outcome = .ok r ∧
      sim = simResult r scan.observed.simulatedAt := by
  unfold Scanned.statements at h
  split at h
  · next r hr =>
    rcases List.mem_cons.mp h with h | h
    · exact ⟨r, hr, (Statement.insertSimulation.inj h).2⟩
    · split at h
      · cases List.mem_singleton.mp h
      · cases h
  · cases h

/-- An execution comes right after the simulation of its scan. -/
theorem statements_execution {before after : List Statement} {id : Uuid} {exec : ExecutionResult}
    (h : scan.statements mode = before ++ .insertExecution id exec :: after) :
    ∃ r, scan.outcome = .ok r ∧ r.profitable = true ∧
      exec = snipeExecution mode r scan.observed.executedAt ∧
      before = [.insertSimulation scan.observed.simulationId
        (simResult r scan.observed.simulatedAt)] := by
  unfold Scanned.statements at h
  split at h
  · next r hr =>
    cases before with
    | nil => cases (List.cons.inj h).1
    | cons first before =>
      obtain ⟨rfl, htail⟩ := List.cons.inj h
      split at htail
      · next hprofitable =>
        cases before with
        | nil =>
          obtain ⟨hexec, _⟩ := List.cons.inj htail
          exact ⟨r, hr, hprofitable, (Statement.insertExecution.inj hexec).2.symm, rfl⟩
        | cons second before =>
          have hlen := congrArg List.length htail
          simp at hlen
      · have hlen := congrArg List.length htail
        simp at hlen
  · cases before with
    | nil => cases h
    | cons first before => cases h

/-- What the statements of a task say. -/
structure Recorded (mode : ExecutionMode) (t : Snipe) : Prop where
  simulations : ∀ id sim, .insertSimulation id sim ∈ t.issued → ∃ profitable,
    RowBalanced sim profitable
  executions : ∀ id exec, .insertExecution id exec ∈ t.issued →
    exec.strategy = .graduationSnipe ∧ exec.mode = mode ∧ exec.status = mode.asStr ∧
    (∃ profit, exec.expectedProfitLamports = some profit ∧ 0 < profit) ∧
    ∃ id' sim, .insertSimulation id' sim ∈ t.issued ∧
      sim.simulatedProfitLamports = exec.expectedProfitLamports ∧
      sim.inputAmount = exec.inputLamports ∧ sim.simulatedOutput = exec.expectedOutputLamports

theorem Sound.recorded (hs : Sound mode costs now t) (hcosts : costs.InRange) : Recorded mode t := by
  constructor
  · intro id sim hmem
    obtain ⟨scan, hscan, before, after, hblock, _⟩ := mem_block hs.statements hmem
    obtain ⟨r, hr, rfl⟩ := mem_statements_simulation
      (hblock ▸ List.mem_append_right _ List.mem_cons_self)
    obtain ⟨pools, htoken⟩ := hs.outcomes scan hscan r hr
    exact ⟨r.profitable, (scanToken_fromTrade htoken).row_balanced hcosts _⟩
  · intro id exec hmem
    obtain ⟨scan, hscan, before, after, hblock, hbefore⟩ := mem_block hs.statements hmem
    obtain ⟨r, hr, hprofitable, rfl, rfl⟩ := statements_execution hblock
    obtain ⟨pools, htoken⟩ := hs.outcomes scan hscan r hr
    rw [scanToken_profitable htoken] at hprofitable
    exact ⟨rfl, rfl, rfl, ⟨_, rfl, of_decide_eq_true hprofitable⟩, _, _,
      hbefore _ List.mem_cons_self, rfl, rfl, rfl⟩

theorem Sound.scans_le (hs : Sound mode costs now t) : t.scans.length ≤ t.attempts.length :=
  hs.scans ▸ Nat.le_add_right _ _

end Rows

/-- The three venues, after a discovery that gets no answer. -/
def venues : Observed where
  discovery := ⟨.error "unreachable", fun _ => .error "unused", fun _ => .error "unused"⟩
  quoter := threeVenueQuoter
  simulationId := 1
  simulatedAt := 10
  executionId := 2
  executedAt := 11

/-- A token graduates, and its first attempt finds a profit. -/
def firstAttempt : List Event :=
  [.graduated ⟨"Curve", AmmQuoter.bonkMint, "BONK", 0⟩, .pass 3000000000] ++
    List.replicate 8 (.step 0 venues)

def afterFirst : Option System :=
  firstAttempt.foldlM (System.next base58Encode .paper CostModel.default)
    (noSnipes 0 (AList.singleton AmmQuoter.bonkMint threeVenues))

theorem afterFirst_tasks : afterFirst.map (fun s =>
    s.snipes.map (fun t => (t.attempts, t.scans.length, t.issued.length))) =
      some [([3000000000], 1, 2)] := by
  decide +kernel

/-- A task sends, in order and each once, the statements of the scans that have returned, at
most one scan to an attempt. Every simulation it stores balances; every execution it stores is
one of the sniper in the mode of the program, expects a profit, and follows the simulation with
the same amounts. -/
theorem snipes_recorded (bs58 : Bytes → String) (mode : ExecutionMode) (costs : CostModel)
    (hcosts : costs.InRange) (now : ℕ) (registry : PoolRegistry) (es : List Event) (s : System)
    (hr : Run (Step bs58 mode costs) (noSnipes now registry) es s) :
    ∀ t ∈ s.snipes, t.issued ++ t.phase.pending = t.scans.flatMap (Scanned.statements mode) ∧
      t.scans.length ≤ t.attempts.length ∧ Recorded mode t := by
  intro t ht
  have hs := (run_kept hr).sound t ht
  exact ⟨hs.statements, hs.scans_le, hs.recorded hcosts⟩

theorem snipes_recorded_first : ∃ s, afterFirst = some s ∧ ∃ t ∈ s.snipes,
    t.issued.length = 2 ∧ Recorded .paper t := by
  obtain ⟨s, hs, htasks⟩ := Option.map_eq_some_iff.mp afterFirst_tasks
  have hcosts : CostModel.default.InRange :=
    ⟨by decide +kernel, by decide +kernel, by decide +kernel, by decide +kernel⟩
  have hrecorded := snipes_recorded base58Encode .paper CostModel.default hcosts 0
    (AList.singleton AmmQuoter.bonkMint threeVenues) firstAttempt s (run_foldlM hs)
  obtain ⟨t, ht, htask⟩ := List.mem_map.mp (htasks ▸ List.mem_singleton_self
    ([3000000000], 1, 2))
  obtain ⟨_, hissued⟩ := Prod.mk.inj htask
  exact ⟨s, hs, t, ht, (Prod.mk.inj hissued).2, (hrecorded t ht).2.2⟩

end SolanaArb.Sniper
