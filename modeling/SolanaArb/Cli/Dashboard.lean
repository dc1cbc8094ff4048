import SolanaArb.Cli.Recording

/-! # The dashboard agrees with the signals

Once every statement has succeeded and every task has ended, the statistics of the signal
table have counted the signals taken, and the three tables that a scan writes have gained
as many profitable scans, apart from those that other tasks inserted.
-/
namespace SolanaArb.Recording
open SolanaArb.General SolanaArb.Store SolanaArb.ControlPanel SolanaArb.LocalScanner

/-- The statement reports a scan with a profit, in the way of its table. -/
def Statement.signalGains : Statement → Bool
  | .insertSignal _ _ scanProfitable => scanProfitable = some true
  | _ => false

def Statement.simulationGains : Statement → Bool
  | .insertSimulation _ sim => sim.simulationSuccess && sim.simulatedProfitLamports.any (0 < ·)
  | _ => false

def Statement.executionGains : Statement → Bool
  | .insertExecution _ exec => exec.expectedProfitLamports.any (0 < ·)
  | _ => false

def ExecutionRow.gains (row : ExecutionRow) : Bool := row.expectedProfitLamports.any (0 < ·)

theorem outcome_profitable {bs58 : Bytes → String} {scan : ControlPanel.Scan} {inputs : ScanInputs}
    {r : CrossVenueResult} (h : scan.outcome bs58 inputs = .ok r) :
    r.profitable = decide (0 < r.netProfitLamports) := by
  unfold Scan.outcome withPools at h
  split at h
  · cases h
  · next pools _ _ =>
    have hmem := mem_batchRoutes_of_scanTriggered h
    simp only [batchRoutes, List.mem_flatMap, sellRoutes, List.mem_filterMap,
      Option.ite_none_left_eq_some] at hmem
    obtain ⟨buy, _, sell, _, _, hsell⟩ := hmem
    unfold sellResult at hsell
    split at hsell
    · simp only [Option.ite_none_right_eq_some, Option.ite_none_left_eq_some] at hsell
      obtain ⟨_, _, hr⟩ := hsell
      cases hr
      rfl
    · cases hsell

/-- The three reports of a scan are the same. -/
theorem statements_gains (bs58 : Bytes → String) (mode : ExecutionMode) (job : Job)
    (answer : Answer) :
    (statements bs58 mode job answer).countP Statement.simulationGains =
      (statements bs58 mode job answer).countP Statement.signalGains ∧
    (statements bs58 mode job answer).countP Statement.executionGains =
      (statements bs58 mode job answer).countP Statement.signalGains := by
  cases job with
  | observing scan =>
    rw [statements, observationStatements]
    split
    · exact ⟨rfl, rfl⟩
    · exact ⟨rfl, rfl⟩
  | scanning scan =>
    rw [statements, scanStatements]
    split
    · next r hr =>
      have hprofit := outcome_profitable hr
      cases hgain : decide (0 < r.netProfitLamports) with
      | false => simp [Statement.simulationGains, Statement.signalGains, Statement.executionGains,
          simResult, executionResult, hprofit, hgain]
      | true => simp [Statement.simulationGains, Statement.signalGains, Statement.executionGains,
          simResult, executionResult, hprofit, hgain]
    · exact ⟨rfl, rfl⟩

section Counts
variable {bs58 : Bytes → String} {args : Args} {before : Database} {es : List Event} {s : System}

/-- Statements of a kind that the loop itself does not send are counted by task, beside those of
other tasks. -/
theorem issued_count (hs : Recorded bs58 args before es s) (hdone : s.background.Finished)
    (p : Statement → Bool) (hdirect : ∀ signal, p (.insertSignal signal false none) = false) :
    (s.issued.map Prod.fst).countP p = (elsewhere es).countP p +
      (s.background.tasks.map
        (fun task => (task.script (statements bs58 args.mode)).countP p)).sum := by
  have hown : ((direct args es).map
      (fun signal => Statement.insertSignal signal false none)).countP p = 0 := by
    rw [List.countP_map, List.countP_eq_zero]
    intro signal _ h
    exact Bool.false_ne_true ((hdirect signal).symm.trans h)
  rw [hs.issued.countP_eq, List.countP_append, List.countP_append, hown, Nat.zero_add,
    (hs.sound.log_of_finished hdone).countP_eq, List.countP_flatMap]
  rfl

/-- What is counted alike in every future is counted alike in all. -/
theorem tasks_count_congr {tasks : List (BackgroundTask Job Answer Statement)}
    {p q : Statement → Bool}
    (htask : ∀ job answer, (statements bs58 args.mode job answer).countP p =
      (statements bs58 args.mode job answer).countP q) :
    (tasks.map (fun task => (task.script (statements bs58 args.mode)).countP p)).sum =
      (tasks.map (fun task => (task.script (statements bs58 args.mode)).countP q)).sum := by
  congr 1
  apply List.map_congr_left
  intro task _
  rw [BackgroundTask.script]
  cases task.answer with
  | none => rfl
  | some answer => exact htask task.job answer

/-- No other task writes the signal table. -/
theorem elsewhere_count {p : Statement → Bool}
    (hp : ∀ statement, p statement = true → statement.signal?.isSome = true) :
    (elsewhere es).countP p = 0 := by
  rw [List.countP_eq_zero]
  intro statement hmem h
  obtain ⟨signal, hsignal⟩ := Option.isSome_iff_exists.mp (hp statement h)
  have hin : signal ∈ (elsewhere es).filterMap Statement.signal? :=
    List.mem_filterMap.mpr ⟨statement, hmem, hsignal⟩
  rw [elsewhere_signal?] at hin
  exact List.not_mem_nil hin

/-- A future inserts the signal of a scan as triggered. -/
def Statement.triggers : Statement → Bool
  | .insertSignal _ triggeredScan _ => triggeredScan
  | _ => false

theorem signal?_of_triggers {statement : Statement} (h : statement.triggers = true) :
    statement.signal?.isSome = true := by
  cases statement with
  | insertSignal signal triggeredScan scanProfitable => rfl
  | insertObservation o => cases h
  | insertSimulation id sim => cases h
  | insertExecution id exec => cases h

theorem signal?_of_signalGains {statement : Statement} (h : statement.signalGains = true) :
    statement.signal?.isSome = true := by
  cases statement with
  | insertSignal signal triggeredScan scanProfitable => rfl
  | insertObservation o => cases h
  | insertSimulation id sim => cases h
  | insertExecution id exec => cases h

theorem statements_triggers (bs58 : Bytes → String) (mode : ExecutionMode) (job : Job)
    (answer : Answer) :
    (statements bs58 mode job answer).countP Statement.triggers = job.due.length := by
  cases job with
  | observing scan =>
    rw [statements, observationStatements]
    split
    · rfl
    · rfl
  | scanning scan =>
    rw [statements, scanStatements]
    split
    · rfl
    · rfl

theorem issued_triggers (hs : Recorded bs58 args before es s) (hdone : s.background.Finished) :
    (s.issued.map Prod.fst).countP Statement.triggers = (triggered args es).length := by
  rw [issued_count hs hdone _ (fun _ => rfl), elsewhere_count (fun _ => signal?_of_triggers),
    Nat.zero_add, ← hs.jobs, Background.jobs, List.flatMap_map,
    List.length_flatMap]
  congr 1
  apply List.map_congr_left
  intro task htask
  obtain ⟨answer, hanswer⟩ := Option.isSome_iff_exists.mp (hdone task htask).1
  rw [BackgroundTask.script, hanswer]
  exact statements_triggers bs58 args.mode task.job answer

theorem awaiting_of_finished (hdone : s.background.Finished) : s.awaiting = [] := by
  rw [System.awaiting, List.flatMap_eq_nil_iff]
  intro task htask
  obtain ⟨hanswered, hrest⟩ := hdone task htask
  obtain ⟨answer, hanswer⟩ := Option.isSome_iff_exists.mp hanswered
  rw [Background.owed, hanswer, hrest]
  rfl

end Counts

section Tables
variable {issued : List (Statement × Bool)}

/-- The rows of a kind in a table, counted by their statements. -/
theorem count_stored {α : Type} {row : Statement → Option α} {p : α → Bool} {P : Statement → Bool}
    (hall : ∀ e ∈ issued, e.2 = true) (hp : ∀ e ∈ issued, (row e.1).any p = P e.1) :
    ((stored row issued).filter p).length = (issued.map Prod.fst).countP P := by
  have hrows : stored row issued = issued.filterMap (fun e => row e.1) := by
    apply List.filterMap_congr
    intro e he
    rw [hall e he]
    rfl
  rw [hrows, ← List.countP_eq_length_filter, List.countP_filterMap, List.countP_map]
  apply List.countP_congr
  intro e he
  rw [Function.comp_apply, ← hp e he]
  cases row e.1 with
  | none => exact Iff.rfl
  | some r => exact Iff.rfl

/-- What the statistics count in the row of a signal. -/
theorem swapSignalRow_any {statement : Statement} (h : statement.Bound) :
    statement.swapSignalRow.any (fun _ => true) = statement.signal?.isSome ∧
    statement.swapSignalRow.any (fun row => row.triggeredScan = some true) = statement.triggers ∧
    statement.swapSignalRow.any (fun row => row.scanProfitable = some true) =
      statement.signalGains := by
  cases statement with
  | insertSignal signal triggeredScan scanProfitable =>
    obtain ⟨row, hrow⟩ := Option.isSome_iff_exists.mp h
    rw [hrow]
    simp only [Statement.swapSignalRow, Store.swapSignalRow, Option.bind_eq_bind,
      Option.bind_eq_some_iff] at hrow
    obtain ⟨_, _, _, _, _, _, _, _, _, _, hrow⟩ := hrow
    obtain rfl := Option.some.inj hrow
    refine ⟨rfl, ?_, rfl⟩
    cases triggeredScan with
    | false => rfl
    | true => rfl
  | insertObservation o => exact ⟨rfl, rfl, rfl⟩
  | insertSimulation id sim => exact ⟨rfl, rfl, rfl⟩
  | insertExecution id exec => exact ⟨rfl, rfl, rfl⟩

theorem simulationRow_any {statement : Statement} (h : statement.Bound) :
    statement.simulationRow.any (fun row => row.gains && row.simulationSuccess) =
      statement.simulationGains := by
  cases statement with
  | insertSignal signal triggeredScan scanProfitable => rfl
  | insertObservation o => rfl
  | insertSimulation id sim =>
    obtain ⟨row, hrow⟩ := Option.isSome_iff_exists.mp h
    rw [hrow]
    simp only [Statement.simulationRow, Store.simulationRow, Option.bind_eq_bind,
      Option.bind_eq_some_iff] at hrow
    obtain ⟨_, _, _, _, _, _, hrow⟩ := hrow
    obtain rfl := Option.some.inj hrow
    cases hprofit : sim.simulatedProfitLamports with
    | none => simp [Statement.simulationGains, SimulationRow.gains, hprofit]
    | some profit =>
      simp [Statement.simulationGains, SimulationRow.gains, hprofit, Bool.and_comm]
  | insertExecution id exec => rfl

theorem executionRow_any {statement : Statement} (h : statement.Bound) :
    statement.executionRow.any ExecutionRow.gains = statement.executionGains := by
  cases statement with
  | insertSignal signal triggeredScan scanProfitable => rfl
  | insertObservation o => rfl
  | insertSimulation id sim => rfl
  | insertExecution id exec =>
    obtain ⟨row, hrow⟩ := Option.isSome_iff_exists.mp h
    rw [hrow]
    simp only [Statement.executionRow, Store.executionRow, Option.bind_eq_bind,
      Option.bind_eq_some_iff] at hrow
    obtain ⟨_, _, _, _, _, _, _, _, _, _, _, _, _, _, _, _, _, _, _, _, hrow⟩ := hrow
    obtain rfl := Option.some.inj hrow
    rfl

end Tables

/-- Once every statement has succeeded and every task has ended, the signal table counts the
signals taken and those that led to a scan, and the loop's profitable scans are as many in it
as in the tables of simulations and executions: these count besides what other tasks inserted,
and all of them what they held before. -/
theorem dashboard_agrees (bs58 : Bytes → String) (args : Args) (before : Database)
    (es : List Event) (s : System) (hr : Run (Step bs58 args) (start before) es s)
    (hall : ∀ e ∈ s.issued, e.2 = true) (hdone : s.background.Finished) :
    (getSignalStats s.db).totalSignals =
      (getSignalStats before).totalSignals + (handled es).length ∧
    (getSignalStats s.db).totalScans =
      (getSignalStats before).totalScans + (triggered args es).length ∧
    ∃ profitable,
      (getSignalStats s.db).profitableScans =
        (getSignalStats before).profitableScans + profitable ∧
      (getSimulationStats s.db).profitable = (getSimulationStats before).profitable +
        ((elsewhere es).countP Statement.simulationGains + profitable) ∧
      (s.db.executions.rows.filter ExecutionRow.gains).length =
        (before.executions.rows.filter ExecutionRow.gains).length +
          ((elsewhere es).countP Statement.executionGains + profitable) := by
  have hs := run_recorded hr
  have hbound (e : Statement × Bool) (he : e ∈ s.issued) : e.1.Bound :=
    hs.written.bound e he (hall e he)
  have hsignals := hs.written.swapSignals
  let reports (p : Statement → Bool) : ℕ :=
    (s.background.tasks.map (fun task => (task.script (statements bs58 args.mode)).countP p)).sum
  refine ⟨?_, ?_, reports Statement.signalGains, ?_, ?_, ?_⟩
  · have hlength : (stored Statement.swapSignalRow s.issued).length =
        ((s.issued.map Prod.fst).filterMap Statement.signal?).length := by
      have hcount : ((stored Statement.swapSignalRow s.issued).filter (fun _ => true)).length =
          (s.issued.map Prod.fst).countP (fun statement => statement.signal?.isSome) :=
        count_stored hall (fun e he => (swapSignalRow_any (hbound e he)).1)
      rwa [List.filter_true, ← List.length_filterMap_eq_countP] at hcount
    have hperm := hs.conserved
    rw [awaiting_of_finished hdone, List.append_nil] at hperm
    rw [getSignalStats, getSignalStats, hsignals, List.length_append, hlength, hperm.length_eq]
  · rw [getSignalStats, getSignalStats, hsignals, ← issued_triggers hs hdone]
    dsimp only
    rw [List.filter_append, List.length_append,
      count_stored hall (fun e he => (swapSignalRow_any (hbound e he)).2.1)]
  · have hcount := issued_count hs hdone Statement.signalGains (fun _ => rfl)
    rw [elsewhere_count (fun _ => signal?_of_signalGains), Nat.zero_add] at hcount
    rw [getSignalStats, getSignalStats, hsignals]
    dsimp only
    rw [List.filter_append, List.length_append,
      count_stored hall (fun e he => (swapSignalRow_any (hbound e he)).2.2), hcount]
  · have hcount := issued_count hs hdone Statement.simulationGains (fun _ => rfl)
    rw [tasks_count_congr (fun job answer => (statements_gains bs58 args.mode job answer).1)]
      at hcount
    rw [getSimulationStats, getSimulationStats, hs.written.simulations]
    dsimp only
    rw [List.filter_append, List.filter_append, List.length_append, List.filter_filter,
      List.filter_filter, ← hcount]
    exact congrArg _ (count_stored hall (fun e he => simulationRow_any (hbound e he)))
  · have hcount := issued_count hs hdone Statement.executionGains (fun _ => rfl)
    rw [tasks_count_congr (fun job answer => (statements_gains bs58 args.mode job answer).2)]
      at hcount
    rw [hs.written.executions, List.filter_append, List.length_append, ← hcount]
    exact congrArg _ (count_stored hall (fun e he => executionRow_any (hbound e he)))

theorem dashboard_agrees_two : ∃ s, twoRecorded = some s ∧
    (getSignalStats s.db).profitableScans = 1 ∧ (getSignalStats s.db).totalSignals = 2 ∧
    (getSimulationStats s.db).profitable = 2 := by
  have hchecks : twoRecorded.any (fun s => s.issued.all Prod.snd &&
      s.background.tasks.all (fun task => task.answer.isSome && task.rest.isEmpty) &&
      (getSignalStats s.db).profitableScans == 1) = true := by decide +kernel
  cases hs : twoRecorded with
  | none =>
    rw [hs] at hchecks
    cases hchecks
  | some s =>
    rw [hs, Option.any_some, Bool.and_eq_true, Bool.and_eq_true, beq_iff_eq] at hchecks
    obtain ⟨⟨hall, hdone⟩, hone⟩ := hchecks
    have hfinished : s.background.Finished := by
      intro task htask
      have hboth := List.all_eq_true.mp hdone task htask
      rw [Bool.and_eq_true, List.isEmpty_iff] at hboth
      exact hboth
    have hempty : (getSignalStats Database.migrated).profitableScans = 0 := rfl
    have helsewhere : (elsewhere twoSignals).countP Statement.simulationGains = 1 := by
      decide +kernel
    obtain ⟨htotal, _, profitable, hsignals, hsimulations, _⟩ := dashboard_agrees base58Encode
      liveArgs .migrated twoSignals s (run_foldlM hs)
      (fun e he => List.all_eq_true.mp hall e he) hfinished
    have hprofitable : profitable = 1 := by omega
    rw [helsewhere, hprofitable] at hsimulations
    exact ⟨s, rfl, hone, htotal, hsimulations⟩

end SolanaArb.Recording
