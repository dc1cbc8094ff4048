import SolanaArb.Detect.SwapAnalyzer
import SolanaArb.Sim.BestRoute
import SolanaArb.Sim.Ledger
import SolanaArb.General.Runs

/-! # The control panel and the signal loop

The control panel changes the runtime configuration at any time. The main loop takes
one signal after the other and starts a scan for each that the analyzer accepts; a scan
ends later and stores its rows. The loop works with the settings of the command line,
which also are the first runtime configuration. Every row is stored; log lines and live
events are left out.
-/
namespace SolanaArb.ControlPanel
open SolanaArb.AmmQuoter SolanaArb.LocalScanner SolanaArb.General

structure Args where
  mode : ExecutionMode
  minSignalSol : ℚ
  minLiquidity : ℚ
  minSpread : ℚ
  watch : List String
  deriving DecidableEq, Repr

def runtimeConfig (args : Args) (now : Timestamp) : RuntimeConfig where
  mode := args.mode
  minSignalSol := args.minSignalSol
  minLiquidity := args.minLiquidity
  maxLiquidity := 1000000
  minSpreadBps := args.minSpread
  watchMints := args.watch
  systemRunning := true
  startedAt := some now

structure ConfigUpdate where
  mode : Option ExecutionMode
  minSignalSol : Option ℚ
  minLiquidity : Option ℚ
  maxLiquidity : Option ℚ
  minSpreadBps : Option ℚ
  deriving DecidableEq, Repr

def updateConfig (config : RuntimeConfig) (update : ConfigUpdate) : RuntimeConfig :=
  { config with
    mode := update.mode.getD config.mode
    minSignalSol := update.minSignalSol.getD config.minSignalSol
    minLiquidity := update.minLiquidity.getD config.minLiquidity
    maxLiquidity := update.maxLiquidity.getD config.maxLiquidity
    minSpreadBps := update.minSpreadBps.getD config.minSpreadBps }

/-- The new configuration and the status of the answer. -/
def systemStart (config : RuntimeConfig) (now : Timestamp) : RuntimeConfig × String :=
  if config.systemRunning then (config, "already_running")
  else ({ config with systemRunning := true, startedAt := some now }, "started")

def systemStop (config : RuntimeConfig) : RuntimeConfig × String :=
  ({ config with systemRunning := false, startedAt := none }, "stopped")

/-- A scan under way, with the configuration at the time its signal was handled, which
the program does not keep. -/
structure Scan where
  signal : SwapSignal
  request : ScanRequest
  config : RuntimeConfig
  deriving DecidableEq, Repr

/-- What a scan observes until it ends. -/
structure ScanInputs where
  costs : CostModel
  quoter : Quoter
  registry : PoolRegistry
  discovery : Discovery
  now : Timestamp

structure SignalRow where
  signal : SwapSignal
  triggeredScan : Bool
  scanProfitable : Option Bool
  deriving DecidableEq, Repr

def Scan.symbol (scan : Scan) : String :=
  scan.request.tokenSymbol.getD (shortMint scan.request.tokenMint)

def Scan.outcome (bs58 : Bytes → String) (scan : Scan) (inputs : ScanInputs) :
    Except String CrossVenueResult :=
  (withPools bs58 inputs.registry scan.request.tokenMint inputs.discovery (fun pools =>
    scanTriggered inputs.costs inputs.quoter scan.request.tokenMint scan.symbol pools
      scan.request.solEquivalent)).1

def executionResult (mode : ExecutionMode) (r : CrossVenueResult) (now : Timestamp) :
    ExecutionResult where
  strategy := .backRun
  mode := mode
  tokenMint := r.tokenMint
  tokenSymbol := r.tokenSymbol
  buyDex := some r.buyPool.dex.asStr
  sellDex := some r.sellPool.dex.asStr
  inputLamports := r.inputLamports.toInt64
  expectedOutputLamports := some r.outputLamports.toInt64
  actualOutputLamports := none
  expectedProfitLamports := some r.netProfitLamports
  actualProfitLamports := none
  tipLamports := some r.jitoTipLamports.toInt64
  txSignature := none
  bundleId := none
  status := mode.asStr
  errorMessage := none
  simulationUnits := none
  executedAt := now

structure System where
  config : RuntimeConfig
  running : List Scan
  signals : List SignalRow
  simulations : List SimResult
  executions : List (Scan × ExecutionResult)
  /-- Not in the program: every scan triggered so far. -/
  triggered : List Scan

inductive Event
  | updateConfig (update : ConfigUpdate)
  | systemStart (now : Timestamp)
  | systemStop
  | signal (signal : SwapSignal)
  | scanned (task : ℕ) (inputs : ScanInputs)

section Loop
variable (bs58 : Bytes → String) (args : Args)

def swapAnalyzer : SwapAnalyzer := ⟨args.minSignalSol⟩

def System.handle (s : System) (signal : SwapSignal) : System :=
  match (swapAnalyzer args).analyze signal with
  | none => { s with signals := s.signals ++ [⟨signal, false, none⟩] }
  | some request =>
    let scan : Scan := ⟨signal, request, s.config⟩
    { s with running := s.running ++ [scan], triggered := s.triggered ++ [scan] }

def System.finish (s : System) (scan : Scan) (inputs : ScanInputs) : System :=
  match scan.outcome bs58 inputs with
  | .ok r =>
    { s with
      signals := s.signals ++ [⟨scan.signal, true, some r.profitable⟩]
      simulations := s.simulations ++ [simResult r inputs.now]
      executions := s.executions ++ [(scan, executionResult args.mode r inputs.now)] }
  | .error _ => { s with signals := s.signals ++ [⟨scan.signal, true, none⟩] }

def System.next (s : System) : Event → System
  | .updateConfig update => { s with config := ControlPanel.updateConfig s.config update }
  | .systemStart now => { s with config := (ControlPanel.systemStart s.config now).1 }
  | .systemStop => { s with config := (ControlPanel.systemStop s.config).1 }
  | .signal signal => s.handle args signal
  | .scanned task inputs =>
    match s.running[task]? with
    | none => s
    | some scan => { s with running := s.running.eraseIdx task }.finish bs58 args scan inputs

def System.start (now : Timestamp) : System := ⟨runtimeConfig args now, [], [], [], [], []⟩

def reached (now : Timestamp) (es : List Event) : System :=
  es.foldl (System.next bs58 args) (System.start args now)

end Loop

/-- Every scan was triggered, and every execution recorded, under the configuration at
the time its signal was handled. -/
structure InForce (s : System) : Prop where
  running : ∀ scan ∈ s.triggered, scan.config.systemRunning = true
  threshold : ∀ scan ∈ s.triggered, scan.config.minSignalSol ≤ scan.request.solEquivalent
  mode : ∀ scan exec, (scan, exec) ∈ s.executions → exec.mode = scan.config.mode

/-- The system is running and its threshold met where the command line's threshold
accepts a signal, and a successful scan was triggered in the command line's mode. -/
def Respects (bs58 : Bytes → String) (args : Args) (s : System) : Event → Prop
  | .signal signal => args.minSignalSol ≤ signal.solEquivalent → signal.platform ≠ .jupiter →
    s.config.systemRunning = true ∧ s.config.minSignalSol ≤ signal.solEquivalent
  | .scanned task inputs => ∀ scan r, s.running[task]? = some scan →
    scan.outcome bs58 inputs = .ok r → args.mode = scan.config.mode
  | _ => True

section Steps
variable {bs58 : Bytes → String} {args : Args} {s : System}

theorem InForce.frame (hs : InForce s) {s' : System} (htriggered : s'.triggered = s.triggered)
    (hexecutions : s'.executions = s.executions) : InForce s' := by
  constructor
  · rw [htriggered]
    exact hs.running
  · rw [htriggered]
    exact hs.threshold
  · rw [hexecutions]
    exact hs.mode

theorem handle_inForce_iff (hs : InForce s) (signal : SwapSignal) :
    InForce (s.handle args signal) ↔ Respects bs58 args s (.signal signal) := by
  have haccept : ((swapAnalyzer args).analyze signal).isSome = true ↔
      args.minSignalSol ≤ signal.solEquivalent ∧ signal.platform ≠ .jupiter :=
    SwapAnalyzer.analyze_isSome_iff
  unfold System.handle Respects
  cases hreq : (swapAnalyzer args).analyze signal with
  | none =>
    rw [hreq] at haccept
    simp only [Option.isSome_none, Bool.false_eq_true, false_iff, not_and, not_not] at haccept
    constructor
    · intro _ hthreshold hplatform
      exact absurd (haccept hthreshold) hplatform
    · intro _
      exact hs.frame rfl rfl
  | some request =>
    rw [hreq] at haccept
    obtain ⟨hthreshold, hplatform⟩ := haccept.mp rfl
    obtain ⟨_, hsol, _⟩ := SwapAnalyzer.analyze_spec hreq
    constructor
    · intro h _ _
      have hmem : (⟨signal, request, s.config⟩ : Scan) ∈
          s.triggered ++ [⟨signal, request, s.config⟩] :=
        List.mem_append_right _ List.mem_cons_self
      exact ⟨h.running _ hmem, hsol ▸ h.threshold _ hmem⟩
    · intro h
      obtain ⟨hrunning, hmin⟩ := h hthreshold hplatform
      have htriggered : ∀ scan ∈ s.triggered ++ [⟨signal, request, s.config⟩],
          scan.config.systemRunning = true ∧
            scan.config.minSignalSol ≤ scan.request.solEquivalent := by
        rw [List.forall_mem_append, List.forall_mem_singleton]
        constructor
        · intro scan hscan
          exact ⟨hs.running scan hscan, hs.threshold scan hscan⟩
        · exact ⟨hrunning, hsol ▸ hmin⟩
      exact ⟨fun scan h => (htriggered scan h).1, fun scan h => (htriggered scan h).2, hs.mode⟩

theorem finish_inForce_iff (hs : InForce s) (scan : Scan) (inputs : ScanInputs) :
    InForce (s.finish bs58 args scan inputs) ↔
      ∀ r, scan.outcome bs58 inputs = .ok r → args.mode = scan.config.mode := by
  unfold System.finish
  cases scan.outcome bs58 inputs with
  | error e =>
    constructor
    · intro _ r h
      cases h
    · intro _
      exact hs.frame rfl rfl
  | ok r =>
    constructor
    · intro h _ _
      exact h.mode scan (executionResult args.mode r inputs.now)
        (List.mem_append_right _ List.mem_cons_self)
    · intro hmode
      refine ⟨hs.running, hs.threshold, ?_⟩
      intro scan' exec hexec
      rcases List.mem_append.mp hexec with hexec | hexec
      · exact hs.mode scan' exec hexec
      · obtain ⟨rfl, rfl⟩ := Prod.mk.inj (List.mem_singleton.mp hexec)
        exact hmode r rfl

theorem next_inForce_iff (hs : InForce s) (e : Event) :
    InForce (s.next bs58 args e) ↔ Respects bs58 args s e := by
  cases e with
  | updateConfig | systemStart | systemStop => exact ⟨fun _ => trivial, fun _ => hs.frame rfl rfl⟩
  | signal signal => exact handle_inForce_iff hs signal
  | scanned task inputs =>
    simp only [System.next, Respects]
    cases hscan : s.running[task]? with
    | none =>
      constructor
      · intro _ scan r h
        cases h
      · intro _
        exact hs
    | some scan =>
      have herased : InForce { s with running := s.running.eraseIdx task } := hs.frame rfl rfl
      constructor
      · intro h scan' r hscan'
        obtain rfl := Option.some.inj hscan'
        exact (finish_inForce_iff herased scan inputs).mp h r
      · intro h
        exact (finish_inForce_iff herased scan inputs).mpr (fun r hr => h scan r rfl hr)

theorem start_inForce (args : Args) (now : Timestamp) : InForce (System.start args now) := by
  constructor
  · intro scan h
    cases h
  · intro scan h
    cases h
  · intro scan exec h
    cases h

end Steps

/-- Over every run, the settings of the control panel are in force exactly when every
signal that the command line accepts comes while the system runs and reaches the
threshold of the moment, and every successful scan was triggered while the mode was the
one of the command line. -/
theorem settings_in_force_iff (bs58 : Bytes → String) (args : Args) (now : Timestamp)
    (es : List Event) :
    (∀ before, before <+: es → InForce (reached bs58 args now before)) ↔
      ∀ before e, before ++ [e] <+: es → Respects bs58 args (reached bs58 args now before) e := by
  apply forall_prefix_iff
  · exact start_inForce args now
  · intro s e hs
    exact next_inForce_iff hs e

/-- The event leaves the settings of the command line in place. -/
def Keeps (args : Args) : Event → Prop
  | .updateConfig update => (∀ mode, update.mode = some mode → mode = args.mode) ∧
    ∀ sol, update.minSignalSol = some sol → sol = args.minSignalSol
  | .systemStop => False
  | _ => True

/-- The settings of the command line hold, and held when each scan under way began. -/
structure Untouched (args : Args) (s : System) : Prop where
  mode : s.config.mode = args.mode
  threshold : s.config.minSignalSol = args.minSignalSol
  running : s.config.systemRunning = true
  scans : ∀ scan ∈ s.running, scan.config.mode = args.mode

section Untouched
variable {bs58 : Bytes → String} {args : Args} {s : System} {e : Event}

theorem getD_eq_of_forall {α : Type} {o : Option α} {a b : α} (hb : b = a)
    (ho : ∀ x, o = some x → x = a) : o.getD b = a := by
  cases o with
  | none => exact hb
  | some x => exact ho x rfl

theorem Untouched.next (h : Untouched args s) (he : Keeps args e) :
    Untouched args (s.next bs58 args e) := by
  cases e with
  | updateConfig update =>
    exact ⟨getD_eq_of_forall h.mode he.1, getD_eq_of_forall h.threshold he.2, h.running, h.scans⟩
  | systemStart now =>
    have hstart : (ControlPanel.systemStart s.config now).1 = s.config := by
      rw [ControlPanel.systemStart, if_pos h.running]
    simp only [System.next, hstart]
    exact h
  | systemStop => exact absurd he id
  | signal signal =>
    simp only [System.next, System.handle]
    cases (swapAnalyzer args).analyze signal with
    | none => exact ⟨h.mode, h.threshold, h.running, h.scans⟩
    | some request =>
      have hscans : ∀ scan ∈ s.running ++ [⟨signal, request, s.config⟩],
          scan.config.mode = args.mode := by
        rw [List.forall_mem_append, List.forall_mem_singleton]
        exact ⟨h.scans, h.mode⟩
      exact ⟨h.mode, h.threshold, h.running, hscans⟩
  | scanned task inputs =>
    simp only [System.next]
    cases s.running[task]? with
    | none => exact h
    | some scan =>
      have hrest : ∀ scan' ∈ s.running.eraseIdx task, scan'.config.mode = args.mode :=
        fun scan' hscan' => h.scans scan' (List.mem_of_mem_eraseIdx hscan')
      simp only [System.finish]
      cases scan.outcome bs58 inputs with
      | error e => exact ⟨h.mode, h.threshold, h.running, hrest⟩
      | ok r => exact ⟨h.mode, h.threshold, h.running, hrest⟩

theorem Untouched.respects (h : Untouched args s) : Respects bs58 args s e := by
  cases e with
  | updateConfig | systemStart | systemStop => trivial
  | signal signal =>
    intro hthreshold _
    exact ⟨h.running, h.threshold.symm ▸ hthreshold⟩
  | scanned task inputs =>
    intro scan r hscan _
    exact (h.scans scan (List.mem_of_getElem? hscan)).symm

/-- Until a control call changes the mode or the threshold or stops the system, the
settings are in force. -/
theorem unchanged_settings_inForce (bs58 : Bytes → String) (now : Timestamp) (es : List Event)
    (hes : ∀ e ∈ es, Keeps args e) : InForce (reached bs58 args now es) := by
  have hboth : Untouched args (reached bs58 args now es) ∧ InForce (reached bs58 args now es) := by
    unfold reached
    apply List.foldlRecOn es (System.next bs58 args)
      (motive := fun s : System => Untouched args s ∧ InForce s)
    · exact ⟨⟨rfl, rfl, rfl, fun scan h => by cases h⟩, start_inForce args now⟩
    · rintro s ⟨huntouched, hforce⟩ e he
      exact ⟨huntouched.next (hes e he), (next_inForce_iff hforce e).mpr huntouched.respects⟩
  exact hboth.2

end Untouched

/-- A scan that finds three venues with different prices on the chain. -/
def threeVenueInputs : ScanInputs where
  costs := CostModel.default
  quoter := threeVenueQuoter
  registry := AList.singleton bonkMint threeVenues
  discovery := ⟨.error "unused", fun _ => .error "unused", fun _ => .error "unused"⟩
  now := 1

def liveArgs : Args := ⟨.live, 1, 1000, 10, []⟩

/-- The panel stops the system, switches to paper and asks for 5 SOL; then a swap of
2 SOL is signalled and its scan ends. -/
def stoppedRun : List Event :=
  [.systemStop, .updateConfig ⟨some .paper, some 5, none, none, none⟩,
    .signal ⟨"Signature", 1, .pumpSwap, "Signer", bonkMint, none, .sell, 2, 0⟩,
    .scanned 0 threeVenueInputs]

/-- The scan runs all the same, and is recorded as live. -/
theorem stopped_system_scans :
    (reached base58Encode liveArgs 0 stoppedRun).triggered.map (fun scan =>
      (scan.config.systemRunning, scan.config.minSignalSol, scan.request.solEquivalent)) =
        [(false, 5, 2)] ∧
    (reached base58Encode liveArgs 0 stoppedRun).executions.map (fun record =>
      (record.2.mode, record.2.status, record.1.config.mode)) = [(.live, "live", .paper)] ∧
    ¬ InForce (reached base58Encode liveArgs 0 stoppedRun) := by
  have htriggered : (reached base58Encode liveArgs 0 stoppedRun).triggered.map (fun scan =>
      (scan.config.systemRunning, scan.config.minSignalSol, scan.request.solEquivalent)) =
        [(false, 5, 2)] := by decide +kernel
  refine ⟨htriggered, by decide +kernel, ?_⟩
  intro h
  have hmem : (false, (5 : ℚ), (2 : ℚ)) ∈
      (reached base58Encode liveArgs 0 stoppedRun).triggered.map (fun scan =>
        (scan.config.systemRunning, scan.config.minSignalSol, scan.request.solEquivalent)) := by
    rw [htriggered]
    exact List.mem_cons_self
  obtain ⟨scan, hscan, heq⟩ := List.mem_map.mp hmem
  rw [Prod.mk.injEq] at heq
  rw [h.running scan hscan] at heq
  cases heq.1

end SolanaArb.ControlPanel
