import SolanaArb.General.Background
import SolanaArb.Store.Queries
import SolanaArb.Cli.ControlPanel
import SolanaArb.Sim.Observation

/-! # What a signal leaves in the tables

The loop takes one signal after the other. A signal that leads to no scan it inserts
itself, and waits for that; for any other it spawns a task that observes the trigger pool
and scans the token side by side, and inserts what comes of both. The periodic scanner, the
discovery task, the sniper tasks and the tasks that simulate an opportunity insert simulations
as well, and the snipers executions. A statement fails when a column does not take its value or
the database does not answer, and none is repeated.
-/
namespace SolanaArb.Recording
open SolanaArb.General SolanaArb.Store SolanaArb.ControlPanel SolanaArb.StaleReserveObserver

inductive Statement
  | insertSignal (signal : SwapSignal) (triggeredScan : Bool) (scanProfitable : Option Bool)
  | insertObservation (o : ObservationInsert)
  | insertSimulation (id : Uuid) (sim : SimResult)
  | insertExecution (id : Uuid) (exec : ExecutionResult)

def Statement.execute (db : Database) : Statement → Option Database
  | .insertSignal signal triggeredScan scanProfitable =>
    db.insertSignal signal triggeredScan scanProfitable
  | .insertObservation o => db.insertObservation o
  | .insertSimulation id sim => db.insertSimulation id sim
  | .insertExecution id exec => db.insertExecution id exec

/-- The two futures of a task. -/
inductive Job
  | observing (scan : Scan)
  | scanning (scan : Scan)

/-- All that a task may read: the pairs of the token, the chain, the random identifiers and
the clock. -/
structure Answer where
  response : Response
  latencyMs : Int64
  inputs : ScanInputs
  simulationId : Uuid
  simulatedAt : Timestamp
  executionId : Uuid
  executedAt : Timestamp

def directionText : SwapDirection → String
  | .buy => "buy"
  | .sell => "sell"

def observationStatements (scan : Scan) (answer : Answer) : List Statement :=
  match observe ⟨scan.request.tokenMint, scan.request.triggerDex, none⟩ answer.response
      answer.latencyMs with
  | .ok obs => [.insertObservation {
      signature := some scan.signal.signature
      tokenMint := scan.request.tokenMint
      tokenSymbol := some scan.symbol
      dex := scan.request.triggerDex.asStr
      poolAddress := obs.poolAddress
      triggerDirection := directionText scan.request.triggerDirection
      triggerSolEquivalent := scan.request.solEquivalent
      poolImpliedPriceUsd := obs.poolImpliedPriceUsd
      fairPriceUsd := obs.fairPriceUsd
      deltaBps := obs.deltaBps
      poolLiquidityUsd := obs.poolLiquidityUsd
      observationLatencyMs := obs.observationLatencyMs }]
  | .error _ => []

def scanStatements (bs58 : Bytes → String) (mode : ExecutionMode) (scan : Scan) (answer : Answer) :
    List Statement :=
  match scan.outcome bs58 answer.inputs with
  | .ok r => [.insertSignal scan.signal true (some r.profitable),
      .insertSimulation answer.simulationId (simResult r answer.simulatedAt),
      .insertExecution answer.executionId (executionResult mode r answer.executedAt)]
  | .error _ => [.insertSignal scan.signal true none]

/-- The statements of a future, in their order. -/
def statements (bs58 : Bytes → String) (mode : ExecutionMode) : Job → Answer → List Statement
  | .observing scan, answer => observationStatements scan answer
  | .scanning scan, answer => scanStatements bs58 mode scan answer

structure System where
  background : Background Job Answer Statement
  /-- Every statement so far, and whether it succeeded. -/
  issued : List (Statement × Bool)
  db : Database

inductive Event
  | signal (signal : SwapSignal) (config : RuntimeConfig) (answers : Bool)
  | answered (task : ℕ) (answer : Answer)
  | insert (task : ℕ) (answers : Bool)
  /-- Another task of the program inserts a simulation or an execution. -/
  | elsewhereSimulation (id : Uuid) (sim : SimResult) (answers : Bool)
  | elsewhereExecution (id : Uuid) (exec : ExecutionResult) (answers : Bool)

/-- A statement is sent to the database, which may not answer. -/
def System.issue (s : System) (statement : Statement) (answers : Bool) : System × Bool :=
  match if answers then statement.execute s.db else none with
  | some db => ({ s with db := db, issued := s.issued ++ [(statement, true)] }, true)
  | none => ({ s with issued := s.issued ++ [(statement, false)] }, false)

section Loop
variable (bs58 : Bytes → String) (args : Args)

def System.next (s : System) : Event → Option System
  | .signal signal config answers =>
    match (swapAnalyzer args).analyze signal with
    | none => some (s.issue (.insertSignal signal false none) answers).1
    | some request =>
      let scan : Scan := ⟨signal, request, config⟩
      some { s with background := s.background.spawn [.observing scan, .scanning scan] }
  | .answered task answer =>
    (s.background.reply (statements bs58 args.mode) task answer).map (fun background =>
      { s with background := background })
  | .insert task answers => do
    let statement ← s.background.upcoming task
    let result := s.issue statement answers
    let background ← s.background.perform task result.2
    some { result.1 with background := background }
  | .elsewhereSimulation id sim answers => some (s.issue (.insertSimulation id sim) answers).1
  | .elsewhereExecution id exec answers => some (s.issue (.insertExecution id exec) answers).1

def start (db : Database) : System := ⟨.idle, [], db⟩

abbrev Step (s : System) (e : Event) (t : System) : Prop := s.next bs58 args e = some t

/-- The signals the loop has taken. -/
def handled (es : List Event) : List SwapSignal :=
  es.filterMap (fun
    | .signal signal _ _ => some signal
    | _ => none)

/-- The signals the loop inserted itself. -/
def direct (es : List Event) : List SwapSignal :=
  (handled es).filter (fun signal => ((swapAnalyzer args).analyze signal).isNone)

def triggered (es : List Event) : List SwapSignal :=
  (handled es).filter (fun signal => ((swapAnalyzer args).analyze signal).isSome)

/-- The statements of the program's other tasks. -/
def elsewhere (es : List Event) : List Statement :=
  es.filterMap (fun
    | .elsewhereSimulation id sim _ => some (.insertSimulation id sim)
    | .elsewhereExecution id exec _ => some (.insertExecution id exec)
    | _ => none)

end Loop

def Statement.signal? : Statement → Option SwapSignal
  | .insertSignal signal _ _ => some signal
  | _ => none

/-- The signal that a future has to record, whatever it finds. -/
def Job.due : Job → List SwapSignal
  | .observing _ => []
  | .scanning scan => [scan.signal]

/-- The signals that the tasks under way have still to record. -/
def System.awaiting (s : System) : List SwapSignal :=
  s.background.tasks.flatMap (Background.owed Statement.signal? Job.due)

theorem statements_due (bs58 : Bytes → String) (mode : ExecutionMode) (job : Job)
    (answer : Answer) :
    (statements bs58 mode job answer).filterMap Statement.signal? = job.due := by
  cases job with
  | observing scan =>
    rw [statements, observationStatements]
    split
    · rfl
    · rfl
  | scanning scan =>
    rw [statements, scanStatements]
    split
    · rfl
    · rfl

/-- The rows of the statements that succeeded. -/
def stored {α : Type} (row : Statement → Option α) (issued : List (Statement × Bool)) : List α :=
  issued.filterMap (fun e => if e.2 then row e.1 else none)

def Statement.swapSignalRow : Statement → Option SwapSignalRow
  | .insertSignal signal triggeredScan scanProfitable =>
    Store.swapSignalRow signal triggeredScan scanProfitable
  | _ => none

def Statement.observationRow : Statement → Option ObservationRow
  | .insertObservation o => Store.observationRow o
  | _ => none

def Statement.simulationRow : Statement → Option SimulationRow
  | .insertSimulation id sim => Store.simulationRow id sim
  | _ => none

def Statement.executionRow : Statement → Option ExecutionRow
  | .insertExecution id exec => Store.executionRow id exec
  | _ => none

/-- Every column takes the value that the statement binds to it. -/
def Statement.Bound (statement : Statement) : Prop :=
  match statement with
  | .insertSignal _ _ _ => statement.swapSignalRow.isSome = true
  | .insertObservation _ => statement.observationRow.isSome = true
  | .insertSimulation _ _ => statement.simulationRow.isSome = true
  | .insertExecution _ _ => statement.executionRow.isSome = true

/-- The tables hold what they held and the rows of the statements that succeeded, in the
order of the statements. -/
structure Written (before : Database) (issued : List (Statement × Bool)) (db : Database) :
    Prop where
  swapSignals : db.swapSignals = before.swapSignals ++ stored Statement.swapSignalRow issued
  observations : db.observations = before.observations ++ stored Statement.observationRow issued
  simulations : db.simulations.rows =
    before.simulations.rows ++ stored Statement.simulationRow issued
  executions : db.executions.rows = before.executions.rows ++ stored Statement.executionRow issued
  bound : ∀ e ∈ issued, e.2 = true → e.1.Bound

theorem bound_snoc {issued : List (Statement × Bool)} {statement : Statement} {succeeded : Bool}
    (hall : ∀ e ∈ issued, e.2 = true → e.1.Bound) (hnew : succeeded = true → statement.Bound) :
    ∀ e ∈ issued ++ [(statement, succeeded)], e.2 = true → e.1.Bound := by
  rw [List.forall_mem_append, List.forall_mem_singleton]
  exact ⟨hall, hnew⟩

theorem stored_append {α : Type} (row : Statement → Option α)
    (issued issued' : List (Statement × Bool)) :
    stored row (issued ++ issued') = stored row issued ++ stored row issued' :=
  List.filterMap_append

theorem stored_other {α : Type} {row : Statement → Option α} {issued : List (Statement × Bool)}
    {statement : Statement} {succeeded : Bool}
    (h : (if succeeded then row statement else none) = none) :
    stored row (issued ++ [(statement, succeeded)]) = stored row issued := by
  have hlast : stored row [(statement, succeeded)] = [] := List.filterMap_cons_none h
  rw [stored_append, hlast, List.append_nil]

theorem stored_stored {α : Type} {row : Statement → Option α} {issued : List (Statement × Bool)}
    {statement : Statement} {r : α} (h : row statement = some r) :
    stored row (issued ++ [(statement, true)]) = stored row issued ++ [r] := by
  have hlast : stored row [(statement, true)] = [r] := List.filterMap_cons_some h
  rw [stored_append, hlast]

/-- A statement that succeeds adds the row it binds to its table, and to no other. -/
theorem execute_written {before db db' : Database} {issued : List (Statement × Bool)}
    (hs : Written before issued db) {statement : Statement}
    (h : statement.execute db = some db') :
    Written before (issued ++ [(statement, true)]) db' := by
  cases statement with
  | insertSignal signal triggeredScan scanProfitable =>
    obtain ⟨row, hrow, rfl⟩ := Option.map_eq_some_iff.mp h
    constructor
    · rw [stored_stored hrow, ← List.append_assoc, ← hs.swapSignals]
    · rw [stored_other rfl]
      exact hs.observations
    · rw [stored_other rfl]
      exact hs.simulations
    · rw [stored_other rfl]
      exact hs.executions
    · exact bound_snoc hs.bound (fun _ => Option.isSome_iff_exists.mpr ⟨row, hrow⟩)
  | insertObservation o =>
    obtain ⟨row, hrow, rfl⟩ := Option.map_eq_some_iff.mp h
    constructor
    · rw [stored_other rfl]
      exact hs.swapSignals
    · rw [stored_stored hrow, ← List.append_assoc, ← hs.observations]
    · rw [stored_other rfl]
      exact hs.simulations
    · rw [stored_other rfl]
      exact hs.executions
    · exact bound_snoc hs.bound (fun _ => Option.isSome_iff_exists.mpr ⟨row, hrow⟩)
  | insertSimulation id sim =>
    obtain ⟨row, hrow, hrest⟩ := Option.bind_eq_some_iff.mp h
    obtain ⟨simulations, hinsert, hdb⟩ := Option.bind_eq_some_iff.mp hrest
    obtain rfl := Option.some.inj hdb
    constructor
    · rw [stored_other rfl]
      exact hs.swapSignals
    · rw [stored_other rfl]
      exact hs.observations
    · rw [stored_stored hrow, ← List.append_assoc, ← hs.simulations]
      exact (KeyedRows.insert?_eq_some hinsert).2
    · rw [stored_other rfl]
      exact hs.executions
    · exact bound_snoc hs.bound (fun _ => Option.isSome_iff_exists.mpr ⟨row, hrow⟩)
  | insertExecution id exec =>
    obtain ⟨row, hrow, hrest⟩ := Option.bind_eq_some_iff.mp h
    obtain ⟨executions, hinsert, hdb⟩ := Option.bind_eq_some_iff.mp hrest
    obtain rfl := Option.some.inj hdb
    constructor
    · rw [stored_other rfl]
      exact hs.swapSignals
    · rw [stored_other rfl]
      exact hs.observations
    · rw [stored_other rfl]
      exact hs.simulations
    · rw [stored_stored hrow, ← List.append_assoc, ← hs.executions]
      exact (KeyedRows.insert?_eq_some hinsert).2
    · exact bound_snoc hs.bound (fun _ => Option.isSome_iff_exists.mpr ⟨row, hrow⟩)

theorem issue_written {before : Database} {s : System} (hs : Written before s.issued s.db)
    (statement : Statement) (answers : Bool) :
    Written before (s.issue statement answers).1.issued (s.issue statement answers).1.db := by
  unfold System.issue
  split
  · next db hdb =>
    rw [Option.ite_none_right_eq_some] at hdb
    exact execute_written hs hdb.2
  · constructor
    · rw [stored_other rfl]
      exact hs.swapSignals
    · rw [stored_other rfl]
      exact hs.observations
    · rw [stored_other rfl]
      exact hs.simulations
    · rw [stored_other rfl]
      exact hs.executions
    · exact bound_snoc hs.bound (fun h => absurd h Bool.false_ne_true)

theorem issue_eq (s : System) (statement : Statement) (answers : Bool) :
    (s.issue statement answers).1.issued =
      s.issued ++ [(statement, (s.issue statement answers).2)] ∧
    (s.issue statement answers).1.background = s.background := by
  unfold System.issue
  split
  · exact ⟨rfl, rfl⟩
  · exact ⟨rfl, rfl⟩

/-- Where a run is: every future has sent a first part of its statements, the loop and the
other tasks have sent theirs, and the tables hold the rows of those that succeeded. -/
structure Recorded (bs58 : Bytes → String) (args : Args) (before : Database) (es : List Event)
    (s : System) : Prop where
  sound : s.background.Sound (statements bs58 args.mode)
  jobs : s.background.jobs.flatMap Job.due = triggered args es
  issued : (s.issued.map Prod.fst).Perm
    ((direct args es).map (fun signal => .insertSignal signal false none) ++ elsewhere es ++
      s.background.log.map Performed.action)
  written : Written before s.issued s.db

section Steps
variable {bs58 : Bytes → String} {args : Args} {before : Database} {es : List Event}
  {s t : System}

theorem handled_snoc (es : List Event) (e : Event) :
    handled (es ++ [e]) = handled es ++ handled [e] :=
  List.filterMap_append

theorem direct_snoc (es : List Event) (e : Event) :
    direct args (es ++ [e]) = direct args es ++ direct args [e] := by
  rw [direct, handled_snoc, List.filter_append]
  rfl

theorem triggered_snoc (es : List Event) (e : Event) :
    triggered args (es ++ [e]) = triggered args es ++ triggered args [e] := by
  rw [triggered, handled_snoc, List.filter_append]
  rfl

theorem elsewhere_snoc (es : List Event) (e : Event) :
    elsewhere (es ++ [e]) = elsewhere es ++ elsewhere [e] := List.filterMap_append

/-- An event of the loop and its tasks. -/
theorem elsewhere_own {e : Event} (h : elsewhere [e] = []) :
    elsewhere (es ++ [e]) = elsewhere es := by
  rw [elsewhere_snoc, h, List.append_nil]

theorem elsewhere_signal? (es : List Event) :
    (elsewhere es).filterMap Statement.signal? = [] := by
  rw [List.filterMap_eq_nil_iff]
  intro statement hmem
  obtain ⟨e, _, he⟩ := List.mem_filterMap.mp hmem
  cases e with
  | signal signal config answers => cases he
  | answered task answer => cases he
  | insert task answers => cases he
  | elsewhereSimulation id sim answers =>
    obtain rfl := Option.some.inj he
    rfl
  | elsewhereExecution id exec answers =>
    obtain rfl := Option.some.inj he
    rfl

/-- An event without a signal. -/
theorem quiet {e : Event} (h : handled [e] = []) :
    direct args (es ++ [e]) = direct args es ∧ triggered args (es ++ [e]) = triggered args es := by
  rw [direct, triggered, handled_snoc, h, List.append_nil]
  exact ⟨rfl, rfl⟩

theorem perm_own_last {α : Type} (own logged new : List α) :
    (own ++ logged ++ new).Perm (own ++ new ++ logged) := by
  rw [List.append_assoc, List.append_assoc]
  exact List.perm_append_comm.append_left own

theorem signal_recorded (hs : Recorded bs58 args before es s) {signal : SwapSignal}
    {config : RuntimeConfig} {answers : Bool}
    (h : Step bs58 args s (.signal signal config answers) t) :
    Recorded bs58 args before (es ++ [.signal signal config answers]) t := by
  unfold Step System.next at h
  dsimp only at h
  split at h
  · next hnone =>
    obtain rfl := Option.some.inj h
    have hdirect : direct args [.signal signal config answers] = [signal] := by
      simp [direct, handled, hnone]
    have htriggered : triggered args [.signal signal config answers] = [] := by
      simp [triggered, handled, hnone]
    obtain ⟨hissued, hbackground⟩ := issue_eq s (.insertSignal signal false none) answers
    constructor
    · rw [hbackground]
      exact hs.sound
    · rw [hbackground, triggered_snoc, htriggered, List.append_nil]
      exact hs.jobs
    · rw [hissued, hbackground, direct_snoc, hdirect, elsewhere_own rfl, List.map_append,
        List.map_append]
      have hissuedAll := hs.issued
      rw [List.append_assoc] at hissuedAll ⊢
      exact (hissuedAll.append_right _).trans (perm_own_last _ _ _)
    · exact issue_written hs.written _ _
  · next request hsome =>
    obtain rfl := Option.some.inj h
    have hdirect : direct args [.signal signal config answers] = [] := by
      simp [direct, handled, hsome]
    have htriggered : triggered args [.signal signal config answers] = [signal] := by
      simp [triggered, handled, hsome]
    constructor
    · exact Background.spawn_sound hs.sound _
    · rw [Background.jobs_spawn, List.flatMap_append, hs.jobs, triggered_snoc, htriggered]
      rfl
    · rw [direct_snoc, hdirect, elsewhere_own rfl, List.append_nil]
      exact hs.issued
    · exact hs.written

/-- A statement of another task changes the tables only. -/
theorem elsewhere_recorded (hs : Recorded bs58 args before es s) {e : Event}
    {statement : Statement} (hquiet : handled [e] = []) (he : elsewhere [e] = [statement])
    (answers : Bool) : Recorded bs58 args before (es ++ [e]) (s.issue statement answers).1 := by
  obtain ⟨hissued, hbackground⟩ := issue_eq s statement answers
  constructor
  · rw [hbackground]
    exact hs.sound
  · rw [hbackground, (quiet hquiet).2]
    exact hs.jobs
  · rw [hissued, hbackground, (quiet hquiet).1, elsewhere_snoc, he, List.map_append,
      ← List.append_assoc]
    exact (hs.issued.append_right _).trans (perm_own_last _ _ _)
  · exact issue_written hs.written statement answers

theorem next_recorded (hs : Recorded bs58 args before es s) {e : Event} (h : Step bs58 args s e t) :
    Recorded bs58 args before (es ++ [e]) t := by
  cases e with
  | signal signal config answers => exact signal_recorded hs h
  | answered task answer =>
    obtain ⟨background, hreply, rfl⟩ := Option.map_eq_some_iff.mp h
    have hlog : background.log = s.background.log := by
      obtain ⟨job, rest, _, rfl⟩ := Background.reply_eq_some hreply
      rfl
    constructor
    · exact Background.reply_sound hs.sound hreply
    · rw [Background.jobs_reply hreply, (quiet rfl).2]
      exact hs.jobs
    · rw [hlog, (quiet rfl).1, elsewhere_own rfl]
      exact hs.issued
    · exact hs.written
  | insert task answers =>
    obtain ⟨statement, hnext, hrest⟩ := Option.bind_eq_some_iff.mp h
    obtain ⟨background, hperform, ht⟩ := Option.bind_eq_some_iff.mp hrest
    obtain rfl := Option.some.inj ht
    obtain ⟨hissued, _⟩ := issue_eq s statement answers
    constructor
    · exact Background.perform_sound hs.sound hperform
    · rw [Background.jobs_perform hperform, (quiet rfl).2]
      exact hs.jobs
    · rw [hissued, Background.perform_upcoming hperform hnext, (quiet rfl).1, elsewhere_own rfl,
        List.map_append, List.map_append, ← List.append_assoc]
      exact hs.issued.append_right _
    · exact issue_written hs.written statement answers
  | elsewhereSimulation id sim answers =>
    obtain rfl := Option.some.inj h
    exact elsewhere_recorded hs rfl rfl answers
  | elsewhereExecution id exec answers =>
    obtain rfl := Option.some.inj h
    exact elsewhere_recorded hs rfl rfl answers

end Steps

theorem run_recorded {bs58 : Bytes → String} {args : Args} {before : Database} {es : List Event}
    {s : System} (hr : Run (Step bs58 args) (start before) es s) :
    Recorded bs58 args before es s := by
  apply hr.invariant (Recorded bs58 args before)
  · refine ⟨Background.idle_sound, rfl, List.Perm.refl _, ?_⟩
    refine ⟨(List.append_nil _).symm, (List.append_nil _).symm, (List.append_nil _).symm,
      (List.append_nil _).symm, ?_⟩
    intro e he
    cases he
  · intro es s e t _ hs hstep
    exact next_recorded hs hstep

theorem Recorded.conserved {bs58 : Bytes → String} {args : Args} {before : Database}
    {es : List Event} {s : System} (hs : Recorded bs58 args before es s) :
    ((s.issued.map Prod.fst).filterMap Statement.signal? ++ s.awaiting).Perm (handled es) := by
  have hissued := hs.issued.filterMap Statement.signal?
  have hdirect : ((direct args es).map
      (fun signal => Statement.insertSignal signal false none)).filterMap Statement.signal? =
        direct args es := by
    rw [List.filterMap_map]
    exact List.filterMap_some
  rw [List.filterMap_append, List.filterMap_append, hdirect, elsewhere_signal?,
    List.append_nil] at hissued
  have htasks := hs.sound.conserved (statements_due bs58 args.mode)
  rw [hs.jobs] at htasks
  have hsplit : (direct args es ++ triggered args es).Perm (handled es) := by
    have hall := List.filter_append_perm
      (fun signal => ((swapAnalyzer args).analyze signal).isNone) (handled es)
    simpa [direct, triggered] using hall
  refine ((hissued.append_right _).trans ?_).trans hsplit
  rw [List.append_assoc]
  exact htasks.append_left _

/-- Every signal the loop has taken has its insertion sent once or awaits it, whatever the order
of the tasks, whatever other tasks insert and whichever statements fail; the statements of a
future are sent in their order, and the tables hold the rows of those that succeeded. -/
theorem recorded_once (bs58 : Bytes → String) (args : Args) (before : Database) (es : List Event)
    (s : System) (hr : Run (Step bs58 args) (start before) es s) :
    Recorded bs58 args before es s ∧
    ((s.issued.map Prod.fst).filterMap Statement.signal? ++ s.awaiting).Perm (handled es) :=
  ⟨run_recorded hr, (run_recorded hr).conserved⟩

/-- A scan of the three venues, and an observation that gets no answer. -/
def scanAnswer : Answer := ⟨.error "unreachable", 5, threeVenueInputs, 1, 10, 2, 11⟩

/-- A profit that the periodic scanner finds meanwhile. -/
def periodicRow : SimResult where
  opportunityId := Uuid.nil
  inputAmount := 1000000000
  inputMint := wsolMint
  simulatedOutput := some 1020000000
  outputMint := wsolMint
  simulatedProfitLamports := some 5000000
  txFeeLamports := some 9015000
  priorityFeeLamports := some 10000
  simulationSuccess := true
  errorMessage := none
  simulatedAt := 7

/-- A swap routed by Jupiter, and one whose scan finds a profit. -/
def twoSignals : List Event :=
  [.signal ⟨"Routed", 1, .jupiter, "Signer", AmmQuoter.bonkMint, none, .sell, 2, 0⟩
      (runtimeConfig liveArgs 0) true,
    .signal ⟨"Signature", 2, .pumpSwap, "Signer", AmmQuoter.bonkMint, none, .sell, 2, 1⟩
      (runtimeConfig liveArgs 0) true,
    .answered 1 scanAnswer, .insert 1 true, .elsewhereSimulation 3 periodicRow true, .insert 1 true,
    .answered 0 scanAnswer, .insert 1 true]

def twoRecorded : Option System :=
  twoSignals.foldlM (System.next base58Encode liveArgs) (start .migrated)

theorem recorded_once_two : ∃ s, twoRecorded = some s ∧
    Recorded base58Encode liveArgs .migrated twoSignals s ∧
    ((s.issued.map Prod.fst).filterMap Statement.signal? ++ s.awaiting).Perm
      (handled twoSignals) := by
  have hsome : twoRecorded.isSome = true := by decide +kernel
  obtain ⟨s, hs⟩ := Option.isSome_iff_exists.mp hsome
  exact ⟨s, hs, recorded_once base58Encode liveArgs .migrated twoSignals s (run_foldlM hs)⟩

end SolanaArb.Recording
