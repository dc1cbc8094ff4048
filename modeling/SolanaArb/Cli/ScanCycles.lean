import SolanaArb.Cli.ScanListRefinement

/-! # The cycles of the periodic scanner

A cycle scans the tokens that were on the list when it began, whatever discovery pushes in
the meantime, and counts what it finds.
-/
namespace SolanaArb.ScanTasks
open SolanaArb.General SolanaArb.LocalScanner SolanaArb.Discovery SolanaArb.DiscoveryLoop
open SolanaArb.Recording SolanaArb.Store

def Scanned.entry (scan : Scanned) : String × String := (scan.tokenMint, scan.tokenSymbol)

/-- The row of a scan that found a route. -/
def Scanned.rows (scan : Scanned) : List Statement :=
  match scan.outcome with
  | .ok r => [.insertSimulation scan.simulationId (simResult r scan.simulatedAt)]
  | .error _ => []

def Scanned.found (scan : Scanned) : Bool := scan.outcome.isOk

def Scanned.profitable (scan : Scanned) : Bool :=
  match scan.outcome with
  | .ok r => r.profitable
  | .error _ => false

def ScanCycle.rows (cycle : ScanCycle) : List Statement := cycle.scans.flatMap Scanned.rows

/-- How many scans of the cycle were profitable, and how many found a route. -/
def ScanCycle.counts (cycle : ScanCycle) : ℕ × ℕ :=
  (cycle.scans.countP Scanned.profitable, cycle.scans.countP Scanned.found)

/-- A cycle has scanned all its tokens, in their order, and reported what it counted. -/
structure ScanCycle.Complete (cycle : ScanCycle) : Prop where
  tokens : cycle.scans.map Scanned.entry = cycle.tokens
  reported : cycle.reported = cycle.counts

section Cycles
variable (costs : CostModel) (listed : List (String × String) → Prop)

/-- A cycle of some list, with scans that searched for routes. -/
structure ScanCycle.Valid (cycle : ScanCycle) : Prop where
  listed : listed cycle.tokens
  outcomes : ∀ scan ∈ cycle.scans, ∀ r, scan.outcome = .ok r → ∃ quoter pools,
    scanToken costs quoter scan.tokenMint scan.tokenSymbol pools = .ok r

/-- The cycles begun so far and the rows of their scans. -/
structure Begun (cycles : List ScanCycle) (rows : List Statement) : Prop where
  valid : ∀ cycle ∈ cycles, cycle.Valid costs listed
  rows : rows = cycles.flatMap ScanCycle.rows
  spaced : Spaced (180 * second) (cycles.map ScanCycle.began)

structure BetweenCycles (t : ScannerTask) (wake : ℕ) : Prop where
  begun : Begun costs listed t.cycles t.issued
  complete : ∀ cycle ∈ t.cycles, cycle.Complete
  rested : ∀ u ∈ (t.cycles.map ScanCycle.began).getLast?, u + 180 * second ≤ wake

/-- In a cycle with some tokens left, and rows that are not sent yet. -/
structure InCycle (now : ℕ) (t : ScannerTask) (left : List (String × String))
    (pending : List Statement) : Prop where
  begun : Begun costs listed (t.cycles ++ [t.current]) (t.issued ++ pending)
  complete : ∀ cycle ∈ t.cycles, cycle.Complete
  left : t.current.scans.map Scanned.entry ++ left = t.current.tokens
  counters : (t.profitableCount, t.totalCount) = t.current.counts
  began : t.current.began ≤ now

def ScannerTask.Sound (now : ℕ) (t : ScannerTask) : Prop :=
  match t.phase with
  | .resting wake => BetweenCycles costs listed t wake
  | .reading => BetweenCycles costs listed t now
  | .scanning token _ rest => InCycle costs listed now t (token :: rest) []
  | .storing row rest => InCycle costs listed now t rest [row]

end Cycles

section Steps
variable {bs58 : Bytes → String} {costs : CostModel} {listed : List (String × String) → Prop}
  {now now' : ℕ} {t t' : ScannerTask} {shared shared' : Shared} {o : Observed}
  {left rest : List (String × String)} {token : String × String}

theorem ScannerTask.Sound.later (h : t.Sound costs listed now) (hle : now ≤ now') :
    t.Sound costs listed now' := by
  unfold ScannerTask.Sound at *
  split at h
  · exact h
  · exact ⟨h.begun, h.complete, fun u hu => (h.rested u hu).trans hle⟩
  · exact ⟨h.begun, h.complete, h.left, h.counters, h.began.trans hle⟩
  · exact ⟨h.begun, h.complete, h.left, h.counters, h.began.trans hle⟩

/-- A cycle does not depend on the phase, nor on what the scanner has asked. -/
theorem InCycle.enter {pending : List Statement} (h : InCycle costs listed now t left pending)
    (phase : ScannerPhase) (asked : List String) :
    InCycle costs listed now { t with phase := phase, asked := asked } left pending :=
  ⟨h.begun, h.complete, h.left, h.counters, h.began⟩

/-- A new cycle, at a distance from the last one. -/
theorem BetweenCycles.begin (h : BetweenCycles costs listed t now)
    (hlist : listed (token :: rest)) :
    InCycle costs listed now
      { t with
        profitableCount := 0
        totalCount := 0
        current := ⟨now, token :: rest, [], 0, 0⟩ } (token :: rest) [] := by
  refine ⟨⟨?_, ?_, ?_⟩, h.complete, rfl, rfl, le_rfl⟩
  · intro cycle hcycle
    rcases List.mem_append.mp hcycle with hold | hnew
    · exact h.begun.valid cycle hold
    · obtain rfl := List.mem_singleton.mp hnew
      refine ⟨hlist, ?_⟩
      intro scan hscan
      cases hscan
  · rw [List.append_nil, List.flatMap_append, ← h.begun.rows]
    exact (List.append_nil _).symm
  · rw [List.map_append]
    exact h.begun.spaced.snoc h.rested

/-- The scan of the next token returns. -/
theorem InCycle.scanned (h : InCycle costs listed now t (token :: rest) []) (scan : Scanned)
    (hentry : scan.entry = token)
    (houtcome : ∀ r, scan.outcome = .ok r → ∃ quoter pools,
      scanToken costs quoter scan.tokenMint scan.tokenSymbol pools = .ok r)
    {profitable total : ℕ}
    (hprofitable : profitable = t.profitableCount + if scan.profitable then 1 else 0)
    (htotal : total = t.totalCount + if scan.found then 1 else 0) :
    InCycle costs listed now
      { t.scanned scan with profitableCount := profitable, totalCount := total } rest
      scan.rows := by
  have hbegun := h.begun
  obtain ⟨hp, ht⟩ := Prod.mk.inj h.counters
  refine ⟨⟨?_, ?_, ?_⟩, h.complete, ?_, ?_, h.began⟩
  · intro cycle hcycle
    rcases List.mem_append.mp hcycle with hold | hnew
    · exact hbegun.valid cycle (List.mem_append_left _ hold)
    · obtain rfl := List.mem_singleton.mp hnew
      have hvalid := hbegun.valid t.current (List.mem_append_right _ List.mem_cons_self)
      refine ⟨hvalid.listed, ?_⟩
      intro other hother r hr
      rcases List.mem_append.mp hother with hold | hnew
      · exact hvalid.outcomes other hold r hr
      · obtain rfl := List.mem_singleton.mp hnew
        exact houtcome r hr
  · have hrows := hbegun.rows
    simp only [List.append_nil, List.flatMap_append, List.flatMap_singleton, ScanCycle.rows,
      ScannerTask.scanned] at *
    rw [hrows, List.append_assoc]
  · have hspaced := hbegun.spaced
    rw [List.map_append] at *
    exact hspaced
  · have hleft := h.left
    simp only [ScannerTask.scanned, List.map_append, List.map_singleton, List.append_assoc, hentry]
    exact hleft
  · subst hprofitable htotal
    simp only [ScannerTask.scanned, ScanCycle.counts, List.countP_append, List.countP_singleton]
    exact Prod.ext (congrArg (· + _) hp) (congrArg (· + _) ht)

/-- The next token, or the end of the cycle. -/
theorem InCycle.goOn (h : InCycle costs listed now t rest []) :
    (t.goOn now rest).Sound costs listed now := by
  cases rest with
  | cons token rest => exact ⟨h.begun, h.complete, h.left, h.counters, h.began⟩
  | nil =>
    have hbegun := h.begun
    refine ⟨⟨?_, ?_, ?_⟩, ?_, ?_⟩
    · intro cycle hcycle
      rcases List.mem_append.mp hcycle with hold | hnew
      · exact hbegun.valid cycle (List.mem_append_left _ hold)
      · obtain rfl := List.mem_singleton.mp hnew
        have hvalid := hbegun.valid t.current (List.mem_append_right _ List.mem_cons_self)
        exact ⟨hvalid.listed, hvalid.outcomes⟩
    · have hrows := hbegun.rows
      simp only [ScannerTask.goOn, List.append_nil, List.flatMap_append,
        List.flatMap_singleton] at *
      exact hrows
    · have hspaced := hbegun.spaced
      simp only [ScannerTask.goOn, List.map_append] at *
      exact hspaced
    · intro cycle hcycle
      rcases List.mem_append.mp hcycle with hold | hnew
      · exact h.complete cycle hold
      · obtain rfl := List.mem_singleton.mp hnew
        exact ⟨(List.append_nil _).symm.trans h.left, h.counters⟩
    · intro u hu
      simp only [ScannerTask.goOn, List.map_append, List.map_singleton, List.getLast?_concat,
        Option.mem_def, Option.some.injEq] at hu
      subst hu
      exact Nat.add_le_add_right h.began _

/-- A scan returns routes that its last stage searched for. -/
theorem ScanStage.returned {registry : PoolRegistry} {tokenMint tokenSymbol : String}
    {stage : ScanStage} {outcome : Except String CrossVenueResult}
    (h : (stage.next bs58 costs registry o tokenMint tokenSymbol).1 = .returned outcome)
    (r : CrossVenueResult) (hr : outcome = .ok r) :
    ∃ quoter pools, scanToken costs quoter tokenMint tokenSymbol pools = .ok r := by
  subst hr
  cases stage with
  | looking =>
    simp only [ScanStage.next] at h
    split at h
    · cases h
    · cases h
  | rediscovering =>
    simp only [ScanStage.next] at h
    split at h
    · cases h
    · cases h
  | keeping pools => cases h
  | quoting pools => exact ⟨o.quoter, pools, Progress.returned.inj h⟩

/-- The scan of a token goes on or returns. -/
theorem InCycle.proceed (h : InCycle costs listed now t (token :: rest) []) {progress : Progress}
    (houtcome : ∀ r, progress = .returned (.ok r) → ∃ quoter pools,
      scanToken costs quoter token.1 token.2 pools = .ok r) :
    (t.proceed now o token rest progress).Sound costs listed now := by
  cases progress with
  | going stage => exact h.enter _ t.asked
  | returned outcome =>
    cases outcome with
    | error e =>
      apply InCycle.goOn
      exact h.scanned (Scanned.of token (.error e) o) rfl (fun r hr => by cases hr)
        (Nat.add_zero _).symm (Nat.add_zero _).symm
    | ok r =>
      have hscan := h.scanned (Scanned.of token (.ok r) o) rfl
        (fun r' hr => Except.ok.inj hr ▸ houtcome r rfl) rfl rfl
      exact hscan.enter _ t.asked

theorem scanner_sound (hlist : shared.list = [] ∨ listed shared.list)
    (h : t.Sound costs listed now)
    (hnext : t.next bs58 costs now shared o = some (t', shared')) :
    t'.Sound costs listed now := by
  unfold ScannerTask.next at hnext
  unfold ScannerTask.Sound at h
  cases hphase : t.phase with
  | resting wake =>
    simp only [hphase, Option.ite_none_right_eq_some, Option.some.injEq, Prod.mk.injEq] at hnext h
    obtain ⟨hwake, rfl, _⟩ := hnext
    exact ⟨h.begun, h.complete, fun u hu => (h.rested u hu).trans hwake⟩
  | reading =>
    simp only [hphase] at hnext h
    split at hnext
    · obtain ⟨rfl, _⟩ := Prod.mk.inj (Option.some.inj hnext)
      exact ⟨h.begun, h.complete, fun u hu => (h.rested u hu).trans (Nat.le_add_right _ _)⟩
    · next token rest heq =>
      obtain ⟨rfl, _⟩ := Prod.mk.inj (Option.some.inj hnext)
      rw [heq] at hlist
      exact (h.begin (hlist.resolve_left (List.cons_ne_nil _ _))).enter _ t.asked
  | scanning token stage rest =>
    simp only [hphase, Option.some.injEq, Prod.mk.injEq] at hnext h
    obtain ⟨rfl, _⟩ := hnext
    apply (h.enter t.phase _).proceed
    intro r hr
    exact ScanStage.returned hr r rfl
  | storing row rest =>
    simp only [hphase, Option.some.injEq, Prod.mk.injEq] at hnext h
    obtain ⟨rfl, _⟩ := hnext
    have hbegun := h.begun
    apply InCycle.goOn
    refine ⟨⟨hbegun.valid, ?_, hbegun.spaced⟩, h.complete, h.left, h.counters, h.began⟩
    rw [List.append_nil]
    exact hbegun.rows

end Steps

section Runs
variable {bs58 : Bytes → String} {costs : CostModel} {rpcUrl : Option String} {now : ℕ}
  {registry : PoolRegistry} {watchMints : Finset String} {labels : List (String × String)}
  {es : List Event} {s s' : System} {e : Event}

variable (bs58 rpcUrl watchMints labels) in
/-- A list of the loop that goes cycle by cycle. -/
def OfCycles (list : List (String × String)) : Prop :=
  list ≠ [] ∧ ∃ cs, list = (discoveryRun bs58 rpcUrl watchMints labels cs).discovered

theorem step_sound
    (hlist : s.shared.list = [] ∨ OfCycles bs58 rpcUrl watchMints labels s.shared.list)
    (h : s.scanner.Sound costs (OfCycles bs58 rpcUrl watchMints labels) s.now)
    (hstep : Step bs58 costs rpcUrl s e s') :
    s'.scanner.Sound costs (OfCycles bs58 rpcUrl watchMints labels) s'.now := by
  cases e with
  | pass nanos =>
    obtain rfl := Option.some.inj hstep
    exact h.later (Nat.le_add_right _ _)
  | registered tokenMint pools =>
    obtain rfl := Option.some.inj hstep
    exact h
  | discovery o =>
    obtain ⟨⟨t, shared⟩, _, hs'⟩ := Option.bind_eq_some_iff.mp hstep
    obtain rfl := Option.some.inj hs'
    exact h
  | scanner o =>
    obtain ⟨⟨t, shared⟩, hnext, hs'⟩ := Option.bind_eq_some_iff.mp hstep
    obtain rfl := Option.some.inj hs'
    exact scanner_sound hlist h hnext

theorem run_sound
    (hr : Run (Step bs58 costs rpcUrl) (start now registry watchMints labels) es s) :
    s.scanner.Sound costs (OfCycles bs58 rpcUrl watchMints labels) s.now := by
  apply hr.invariant (fun _ (s : System) =>
    s.scanner.Sound costs (OfCycles bs58 rpcUrl watchMints labels) s.now)
  · refine ⟨⟨?_, rfl, List.Pairwise.nil⟩, ?_, ?_⟩
    · intro cycle hcycle
      cases hcycle
    · intro cycle hcycle
      cases hcycle
    · intro u hu
      cases hu
  · intro es s e t hrun hs hstep
    obtain ⟨c, hlist⟩ := (run_refines hrun).list
    refine step_sound ?_ hs hstep
    by_cases hempty : s.shared.list = []
    · exact Or.inl hempty
    · exact Or.inr ⟨hempty, _, hlist⟩

end Runs

/-- The cycles that the scanner has begun, and the rows that it has sent or is about to send. -/
def ScannerTask.begun (t : ScannerTask) : List ScanCycle × List Statement :=
  match t.phase with
  | .resting _ | .reading => (t.cycles, t.issued)
  | .scanning _ _ _ => (t.cycles ++ [t.current], t.issued)
  | .storing row _ => (t.cycles ++ [t.current], t.issued ++ [row])

/-- What the scanner has done so far. -/
structure Scans (costs : CostModel) (listed : List (String × String) → Prop) (t : ScannerTask) :
    Prop where
  begun : Begun costs listed t.begun.1 t.begun.2
  complete : ∀ cycle ∈ t.cycles, cycle.Complete
  current : ∀ cycle ∈ t.begun.1, cycle.scans.map Scanned.entry <+: cycle.tokens

theorem ScannerTask.Sound.scans {costs : CostModel} {listed : List (String × String) → Prop}
    {now : ℕ} {t : ScannerTask} (h : t.Sound costs listed now) : Scans costs listed t := by
  have hcurrent {left : List (String × String)} {pending : List Statement}
      (hin : InCycle costs listed now t left pending) :
      ∀ cycle ∈ t.cycles ++ [t.current], cycle.scans.map Scanned.entry <+: cycle.tokens := by
    intro cycle hcycle
    rcases List.mem_append.mp hcycle with hold | hnew
    · rw [(hin.complete cycle hold).tokens]
    · obtain rfl := List.mem_singleton.mp hnew
      exact ⟨left, hin.left⟩
  unfold ScannerTask.Sound at h
  cases hphase : t.phase with
  | resting wake | reading =>
    rw [hphase] at h
    refine ⟨?_, h.complete, ?_⟩
    · rw [ScannerTask.begun, hphase]
      exact h.begun
    · rw [ScannerTask.begun, hphase]
      intro cycle hcycle
      rw [(h.complete cycle hcycle).tokens]
  | scanning token stage rest =>
    rw [hphase] at h
    refine ⟨?_, h.complete, ?_⟩
    · rw [ScannerTask.begun, hphase]
      have hbegun := h.begun
      rw [List.append_nil] at hbegun
      exact hbegun
    · rw [ScannerTask.begun, hphase]
      exact hcurrent h
  | storing row rest =>
    rw [hphase] at h
    refine ⟨?_, h.complete, ?_⟩
    · rw [ScannerTask.begun, hphase]
      exact h.begun
    · rw [ScannerTask.begun, hphase]
      exact hcurrent h

theorem OfCycles.length_le {bs58 : Bytes → String} {rpcUrl : Option String}
    {watchMints : Finset String} {labels list : List (String × String)}
    (h : OfCycles bs58 rpcUrl watchMints labels list) : list.length ≤ listLimit labels := by
  obtain ⟨_, cs, rfl⟩ := h
  rw [(run_listed bs58 rpcUrl watchMints labels cs).list, length_lastN]
  exact min_le_left _ _

theorem Begun.row_balanced {costs : CostModel} {listed : List (String × String) → Prop}
    {cycles : List ScanCycle} {rows : List Statement} (h : Begun costs listed cycles rows)
    (hcosts : costs.InRange) (id : Uuid) {sim : SimResult}
    (hrow : .insertSimulation id sim ∈ rows) :
    ∃ profitable, RowBalanced sim profitable := by
  rw [h.rows] at hrow
  obtain ⟨cycle, hcycle, hrow⟩ := List.mem_flatMap.mp hrow
  obtain ⟨scan, hscan, hrow⟩ := List.mem_flatMap.mp hrow
  unfold Scanned.rows at hrow
  split at hrow
  · next r hr =>
    obtain ⟨_, rfl⟩ := Statement.insertSimulation.inj (List.mem_singleton.mp hrow)
    obtain ⟨quoter, pools, htoken⟩ := (h.valid cycle hcycle).outcomes scan hscan r hr
    exact ⟨r.profitable, (scanToken_fromTrade htoken).row_balanced hcosts _⟩
  · cases hrow

/-- In every run the cycles of the scanner begin three minutes apart or more, each with a list
that discovery has made and at most fifty tokens, or as many as the labels. A complete cycle has
scanned these tokens, in their order, and reports the numbers of routes and of profits that it
has found. The rows are those of the scans that found a route, each once and in order, and they
balance. -/
theorem scan_cycles (bs58 : Bytes → String) (costs : CostModel) (hcosts : costs.InRange)
    (rpcUrl : Option String) (now : ℕ) (registry : PoolRegistry) (watchMints : Finset String)
    (labels : List (String × String)) (es : List Event) (s : System)
    (hr : Run (Step bs58 costs rpcUrl) (start now registry watchMints labels) es s) :
    Scans costs (OfCycles bs58 rpcUrl watchMints labels) s.scanner ∧
    (∀ cycle ∈ s.scanner.begun.1, cycle.tokens.length ≤ listLimit labels) ∧
    ∀ id sim, .insertSimulation id sim ∈ s.scanner.issued → ∃ profitable,
      RowBalanced sim profitable := by
  have h := (run_sound hr).scans
  refine ⟨h, fun cycle hcycle => (h.begun.valid cycle hcycle).listed.length_le, ?_⟩
  intro id sim hrow
  apply h.begun.row_balanced hcosts id
  unfold ScannerTask.begun
  split
  · exact hrow
  · exact hrow
  · exact hrow
  · exact List.mem_append_left _ hrow

/-- One cycle scans the watched token, which is traded on three venues. -/
def watchedCycle : List Event :=
  .pass (30 * second) :: List.replicate 5 (.scanner listedToken)

def afterWatched : Option System :=
  watchedCycle.foldlM (System.next base58Encode CostModel.default none)
    (start 0 (AList.singleton AmmQuoter.bonkMint threeVenues) {AmmQuoter.bonkMint}
      [(AmmQuoter.bonkMint, "BONK")])

theorem afterWatched_rows : afterWatched.map (fun s =>
    (s.scanner.cycles.map (fun cycle => (cycle.began, cycle.scans.length, cycle.reported)),
      s.scanner.issued.length)) = some ([(30 * second, 1, (1, 1))], 1) := by
  decide +kernel

theorem scan_cycles_watched : ∃ s, afterWatched = some s ∧ s.scanner.cycles.length = 1 ∧
    s.scanner.issued.length = 1 ∧ (∀ cycle ∈ s.scanner.cycles, cycle.Complete) ∧
    ∀ id sim, .insertSimulation id sim ∈ s.scanner.issued → ∃ profitable,
      RowBalanced sim profitable := by
  obtain ⟨s, hs, hrows⟩ := Option.map_eq_some_iff.mp afterWatched_rows
  obtain ⟨hcycles, hissued⟩ := Prod.mk.inj hrows
  have hcosts : CostModel.default.InRange :=
    ⟨by decide +kernel, by decide +kernel, by decide +kernel, by decide +kernel⟩
  obtain ⟨hscans, _, hbalanced⟩ := scan_cycles base58Encode CostModel.default hcosts none 0
    (AList.singleton AmmQuoter.bonkMint threeVenues) {AmmQuoter.bonkMint}
    [(AmmQuoter.bonkMint, "BONK")] watchedCycle s (run_foldlM hs)
  refine ⟨s, hs, ?_, hissued, hscans.complete, hbalanced⟩
  have hlength := congrArg List.length hcycles
  rw [List.length_map] at hlength
  exact hlength

end SolanaArb.ScanTasks
