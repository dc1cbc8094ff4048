import SolanaArb.General.BoundedHistory
import SolanaArb.Cli.ControlPanel
import SolanaArb.Sim.JupiterScanner
import SolanaArb.Detect.PriceGraph

/-! # The live feed of the control panel

Every change of the configuration and every signal is broadcast to the subscribed clients.
A handler holds the lock of the configuration until its event is sent. The task of a client
forwards one event after the other and ends at the first failed write or lag; the client is
not told, and its connection stays open until it hangs up. Events are given by the fields of
their JSON.
-/
namespace SolanaArb.LiveFeed
open SolanaArb.General SolanaArb.PriceGraph

inductive LiveEvent
  | signal (direction : String) (sol : ℚ) (platform token signature : String)
      (timestamp : Timestamp)
  | config (mode : ExecutionMode) (minSignalSol : ℚ) (timestamp : Timestamp)
  | system (action : String) (timestamp : Timestamp)
  deriving DecidableEq, Repr

/-- What the events say about the configuration. -/
structure Panel where
  mode : ExecutionMode
  minSignalSol : ℚ
  running : Bool
  deriving DecidableEq, Repr

def panelOf (config : RuntimeConfig) : Panel :=
  ⟨config.mode, config.minSignalSol, config.systemRunning⟩

/-- How the forwarding task of a client stands. -/
inductive Forwarding
  | running | writeFailed | lagged
  deriving DecidableEq, Repr

structure Client where
  next : ℕ
  delivered : List LiveEvent
  forwarding : Forwarding
  connected : Bool
  /-- The configuration that the client fetched last, after it subscribed. -/
  fetched : Option Panel
  /-- Not in the program: the number of events before the subscription. -/
  since : ℕ
  deriving DecidableEq, Repr

structure AppState where
  config : RuntimeConfig
  live : Broadcast LiveEvent
  signalsReceived : UInt64
  scansTriggered : UInt64
  profitableScans : UInt64
  forgeConnected : Bool
  solUsdPrice : ℚ
  clients : List Client
  /-- Not in the program: every event on the channel so far. -/
  history : List LiveEvent

/-- The answer to a status request. -/
structure SystemStatus where
  systemRunning : Bool
  mode : ExecutionMode
  forgeConnected : Bool
  scannerActive : Bool
  discoveryActive : Bool
  uptimeSecs : Option UInt64
  solUsdPrice : ℚ
  signalsReceived : UInt64
  scansTriggered : UInt64
  profitableScans : UInt64
  deriving DecidableEq

namespace AppState

/-- `live_tx.send(..).ok()`: without a receiver nothing is sent. -/
def broadcast (s : AppState) (event : LiveEvent) : AppState :=
  if s.clients.any (fun client => client.forwarding = .running) then
    { s with live := s.live.send event, history := s.history ++ [event] }
  else s

def updateConfig (s : AppState) (update : ControlPanel.ConfigUpdate) (now : Timestamp) : AppState :=
  let config := ControlPanel.updateConfig s.config update
  { s with config := config }.broadcast (.config config.mode config.minSignalSol now)

/-- The clock is read for the configuration and then for the event. -/
def systemStart (s : AppState) (now sentAt : Timestamp) : AppState :=
  if s.config.systemRunning then s
  else { s with config := (ControlPanel.systemStart s.config now).1 }.broadcast
    (.system "started" sentAt)

def systemStop (s : AppState) (now : Timestamp) : AppState :=
  { s with config := (ControlPanel.systemStop s.config).1 }.broadcast (.system "stopped" now)

/-- The loop counts the signal and sends it without waiting in between. -/
def signal (s : AppState) (signal : SwapSignal) (now : Timestamp) : AppState :=
  { s with signalsReceived := s.signalsReceived + 1 }.broadcast
    (.signal signal.direction.display signal.solEquivalent signal.platform.asStr
      (String.ofList (signal.tokenMint.toList.take 8))
      (String.ofList (signal.signature.toList.take 8)) now)

def getStatus (s : AppState) (now : Timestamp) : SystemStatus where
  systemRunning := s.config.systemRunning
  mode := s.config.mode
  forgeConnected := s.forgeConnected
  scannerActive := s.config.systemRunning
  discoveryActive := s.config.systemRunning
  uptimeSecs := if s.config.systemRunning then
      s.config.startedAt.map (fun t => UInt64.ofNat (numSeconds (now - t)).toNat)
    else none
  solUsdPrice := s.solUsdPrice
  signalsReceived := s.signalsReceived
  scansTriggered := s.scansTriggered
  profitableScans := s.profitableScans

def subscribe (s : AppState) : AppState :=
  { s with clients := s.clients ++ [⟨s.live.tail, [], .running, true, none, s.history.length⟩] }

def setClient (s : AppState) (i : ℕ) (client : Client) : AppState :=
  { s with clients := s.clients.set i client }

/-- One round of the forwarding loop; `written` tells whether the socket takes the message. -/
def forward (s : AppState) (i : ℕ) (written : Bool) : Option AppState := do
  let client ← s.clients[i]?
  if client.forwarding = .running then
    match s.live.recv client.next with
    | .value event =>
      if written then
        some (s.setClient i
          { client with next := client.next + 1, delivered := client.delivered ++ [event] })
      else some (s.setClient i { client with forwarding := .writeFailed })
    | .lagged _ => some (s.setClient i { client with forwarding := .lagged })
    | .waiting => none
  else none

def fetch (s : AppState) (i : ℕ) : Option AppState := do
  let client ← s.clients[i]?
  some (s.setClient i { client with fetched := some (panelOf s.config) })

def hangUp (s : AppState) (i : ℕ) : Option AppState := do
  let client ← s.clients[i]?
  some (s.setClient i { client with connected := false })

end AppState

inductive Event
  | updateConfig (update : ControlPanel.ConfigUpdate) (now : Timestamp)
  | systemStart (now sentAt : Timestamp)
  | systemStop (now : Timestamp)
  | signal (signal : SwapSignal) (now : Timestamp)
  | price (solUsdPrice : ℚ)
  | subscribe
  | fetch (client : ℕ)
  | forward (client : ℕ) (written : Bool)
  | hangUp (client : ℕ)

def Event.isSignal : Event → Bool
  | .signal _ _ => true
  | _ => false

def AppState.next (s : AppState) : Event → Option AppState
  | .updateConfig update now => some (s.updateConfig update now)
  | .systemStart now sentAt => some (s.systemStart now sentAt)
  | .systemStop now => some (s.systemStop now)
  | .signal signal now => some (s.signal signal now)
  | .price solUsdPrice => some { s with solUsdPrice := solUsdPrice }
  | .subscribe => some s.subscribe
  | .fetch client => s.fetch client
  | .forward client written => s.forward client written
  | .hangUp client => s.hangUp client

abbrev Step (s : AppState) (e : Event) (t : AppState) : Prop := s.next e = some t

def start (config : RuntimeConfig) (capacity : ℕ) : AppState where
  config := config
  live := .new capacity
  signalsReceived := 0
  scansTriggered := 0
  profitableScans := 0
  forgeConnected := false
  solUsdPrice := 0
  clients := []
  history := []

/-! ## What a client is sent -/

def Panel.apply (p : Panel) : LiveEvent → Panel
  | .signal _ _ _ _ _ _ => p
  | .config mode minSignalSol _ => { p with mode := mode, minSignalSol := minSignalSol }
  | .system action _ => { p with running := action = "started" }

def Panel.replay (p : Panel) (events : List LiveEvent) : Panel := events.foldl Panel.apply p

/-- A client has been sent the events from its subscription to its position, and its task ends
before that only at a failed write or once it is further behind than the channel reaches. -/
structure Client.Sound (capacity : ℕ) (history : List LiveEvent) (client : Client) : Prop where
  since : client.since ≤ client.next
  next : client.next ≤ history.length
  delivered : client.delivered = (history.take client.next).drop client.since
  lagged : client.forwarding = .lagged → client.next + capacity < history.length

/-- The events since the subscription lead from the present configuration, and from the one
fetched, to the present one. -/
structure Client.Mirrors (history : List LiveEvent) (now : Panel) (client : Client) : Prop where
  present : now.replay (history.drop client.since) = now
  fetched : ∀ p, client.fetched = some p → p.replay (history.drop client.since) = now

structure Consistent (capacity : ℕ) (s : AppState) : Prop where
  reach : s.live.capacity = capacity
  live : s.live.Holds s.history
  sound : ∀ client ∈ s.clients, client.Sound capacity s.history
  mirrors : ∀ client ∈ s.clients, client.forwarding = .running →
    client.Mirrors s.history (panelOf s.config)

section Panels
variable {p q : Panel} {e f : LiveEvent}

/-- Panels that agree on what `e` leaves alone still do after any other event. -/
theorem apply_apply (h : p.apply e = q.apply e) : (p.apply f).apply e = (q.apply f).apply e := by
  cases e with
  | signal _ _ _ _ _ _ =>
    change p = q at h
    rw [h]
  | config mode minSignalSol now =>
    cases f with
    | signal _ _ _ _ _ _ => exact h
    | config _ _ _ => exact h
    | system _ _ => rfl
  | system action now =>
    simp only [Panel.apply, Panel.mk.injEq] at h
    cases f with
    | signal _ _ _ _ _ _ => simpa [Panel.apply] using h
    | config _ _ _ => rfl
    | system _ _ => simpa [Panel.apply] using h

theorem replay_apply (h : p.apply e = q.apply e) (events : List LiveEvent) :
    (p.replay events).apply e = (q.replay events).apply e := by
  induction events generalizing p q with
  | nil => exact h
  | cons f events ih => exact ih (apply_apply h)

theorem apply_twice (p : Panel) (e : LiveEvent) : (p.apply e).apply e = p.apply e := by
  cases e with
  | signal _ _ _ _ _ _ => rfl
  | config _ _ _ => rfl
  | system _ _ => rfl

theorem replay_snoc (p : Panel) (events : List LiveEvent) (e : LiveEvent) :
    p.replay (events ++ [e]) = (p.replay events).apply e := by
  rw [Panel.replay, List.foldl_append]
  rfl

/-- A broadcast of what has changed keeps a client's picture. -/
theorem Client.Mirrors.snoc {history : List LiveEvent} {now : Panel} {client : Client}
    (h : client.Mirrors history now) (hsince : client.since ≤ history.length) (e : LiveEvent) :
    client.Mirrors (history ++ [e]) (now.apply e) := by
  constructor
  · rw [List.drop_append_of_le_length hsince, replay_snoc,
      replay_apply (apply_twice now e) (history.drop client.since), h.present]
  · intro p hp
    rw [List.drop_append_of_le_length hsince, replay_snoc, h.fetched p hp]

end Panels

section Steps
variable {capacity : ℕ} {s t : AppState} {client : Client} {history : List LiveEvent}

theorem Client.Sound.snoc (h : client.Sound capacity history) (e : LiveEvent) :
    client.Sound capacity (history ++ [e]) := by
  have hlength : (history ++ [e]).length = history.length + 1 := List.length_append
  constructor
  · exact h.since
  · rw [hlength]
    exact Nat.le_succ_of_le h.next
  · rw [List.take_append_of_le_length h.next]
    exact h.delivered
  · intro hlagged
    rw [hlength]
    exact Nat.lt_succ_of_lt (h.lagged hlagged)

/-- A change that its event describes, or one that touches no field of the panel. -/
theorem broadcast_consistent (hs : Consistent capacity s) {e : LiveEvent}
    (hlive : t.live = s.live) (hhistory : t.history = s.history) (hclients : t.clients = s.clients)
    (hpanel : panelOf t.config = (panelOf s.config).apply e) :
    Consistent capacity (t.broadcast e) := by
  unfold AppState.broadcast
  split
  · constructor
    · rw [hlive]
      exact hs.reach
    · rw [hlive, hhistory]
      exact hs.live.send e
    · rw [hclients, hhistory]
      exact fun client hmem => (hs.sound client hmem).snoc e
    · rw [hclients, hhistory, hpanel]
      intro client hmem hrunning
      have hsound := hs.sound client hmem
      exact (hs.mirrors client hmem hrunning).snoc (hsound.since.trans hsound.next) e
  · next hnone =>
    rw [hclients, Bool.not_eq_true, List.any_eq_false] at hnone
    constructor
    · rw [hlive]
      exact hs.reach
    · rw [hlive, hhistory]
      exact hs.live
    · rw [hclients, hhistory]
      exact hs.sound
    · rw [hclients]
      intro client hmem hrunning
      exact absurd (decide_eq_true hrunning) (hnone client hmem)

theorem setClient_consistent (hs : Consistent capacity s) {i : ℕ}
    (hsound : client.Sound capacity s.history)
    (hmirrors : client.forwarding = .running → client.Mirrors s.history (panelOf s.config)) :
    Consistent capacity (s.setClient i client) := by
  constructor
  · exact hs.reach
  · exact hs.live
  · intro other hmem
    rcases List.mem_or_eq_of_mem_set hmem with hold | rfl
    · exact hs.sound other hold
    · exact hsound
  · intro other hmem hrunning
    rcases List.mem_or_eq_of_mem_set hmem with hold | rfl
    · exact hs.mirrors other hold hrunning
    · exact hmirrors hrunning

theorem subscribe_consistent (hs : Consistent capacity s) : Consistent capacity s.subscribe := by
  have htail : s.live.tail = s.history.length := hs.live.tail
  constructor
  · exact hs.reach
  · exact hs.live
  · intro client hmem
    rcases List.mem_append.mp hmem with hold | hnew
    · exact hs.sound client hold
    · obtain rfl := List.mem_singleton.mp hnew
      have hnothing : (s.history.take s.live.tail).drop s.history.length = [] := by
        rw [htail, List.take_length, List.drop_length]
      exact ⟨htail.ge, htail.le, hnothing.symm, fun h => by cases h⟩
  · intro client hmem hrunning
    rcases List.mem_append.mp hmem with hold | hnew
    · exact hs.mirrors client hold hrunning
    · obtain rfl := List.mem_singleton.mp hnew
      have hnothing : s.history.drop s.history.length = [] := List.drop_length
      refine ⟨?_, fun p h => by cases h⟩
      exact congrArg (Panel.replay (panelOf s.config)) hnothing

theorem forward_consistent (hs : Consistent capacity s) {i : ℕ} {written : Bool}
    (h : s.forward i written = some t) : Consistent capacity t := by
  obtain ⟨client, hclient, hround⟩ := Option.bind_eq_some_iff.mp h
  have hmem := List.mem_of_getElem? hclient
  have hsound := hs.sound client hmem
  split at hround
  · next hrunning =>
    have hmirrors := hs.mirrors client hmem hrunning
    split at hround
    · next event hrecv =>
      split at hround
      · obtain rfl := Option.some.inj hround
        have hnext := hs.live.recv_value hrecv
        apply setClient_consistent hs
        · refine ⟨Nat.le_succ_of_le hsound.since, (List.getElem?_eq_some_iff.mp hnext).1, ?_, ?_⟩
          · dsimp only
            rw [Broadcast.segment_snoc hsound.since hnext, ← hsound.delivered]
          · intro hlagged
            rw [hrunning] at hlagged
            cases hlagged
        · exact fun _ => ⟨hmirrors.present, hmirrors.fetched⟩
      · obtain rfl := Option.some.inj hround
        apply setClient_consistent hs
        · exact ⟨hsound.since, hsound.next, hsound.delivered, fun h => by cases h⟩
        · intro h
          cases h
    · next missed hrecv =>
      obtain rfl := Option.some.inj hround
      have hbehind : client.next + capacity < s.history.length := by
        rw [hs.live.recv_eq, hs.reach] at hrecv
        split at hrecv
        · split at hrecv
          · assumption
          · cases hrecv
        · cases hrecv
      apply setClient_consistent hs
      · exact ⟨hsound.since, hsound.next, hsound.delivered, fun _ => hbehind⟩
      · intro h
        cases h
    · cases hround
  · cases hround

theorem next_consistent (hs : Consistent capacity s) {e : Event} (h : Step s e t) :
    Consistent capacity t := by
  cases e with
  | updateConfig update now =>
    obtain rfl := Option.some.inj h
    exact broadcast_consistent hs rfl rfl rfl rfl
  | systemStart now sentAt =>
    obtain rfl := Option.some.inj h
    unfold AppState.systemStart ControlPanel.systemStart
    split
    · exact hs
    · exact broadcast_consistent hs rfl rfl rfl rfl
  | systemStop now =>
    obtain rfl := Option.some.inj h
    exact broadcast_consistent hs rfl rfl rfl rfl
  | signal signal now =>
    obtain rfl := Option.some.inj h
    exact broadcast_consistent hs rfl rfl rfl rfl
  | price solUsdPrice =>
    obtain rfl := Option.some.inj h
    exact ⟨hs.reach, hs.live, hs.sound, hs.mirrors⟩
  | subscribe =>
    obtain rfl := Option.some.inj h
    exact subscribe_consistent hs
  | fetch i =>
    obtain ⟨client, hclient, ht⟩ := Option.bind_eq_some_iff.mp h
    obtain rfl := Option.some.inj ht
    have hmem := List.mem_of_getElem? hclient
    have hsound := hs.sound client hmem
    apply setClient_consistent hs
    · exact ⟨hsound.since, hsound.next, hsound.delivered, hsound.lagged⟩
    · intro hrunning
      have hmirrors := hs.mirrors client hmem hrunning
      refine ⟨hmirrors.present, ?_⟩
      intro p hp
      obtain rfl := Option.some.inj hp
      exact hmirrors.present
  | forward i written => exact forward_consistent hs h
  | hangUp i =>
    obtain ⟨client, hclient, ht⟩ := Option.bind_eq_some_iff.mp h
    obtain rfl := Option.some.inj ht
    have hmem := List.mem_of_getElem? hclient
    have hsound := hs.sound client hmem
    apply setClient_consistent hs
    · exact ⟨hsound.since, hsound.next, hsound.delivered, hsound.lagged⟩
    · intro hrunning
      have hmirrors := hs.mirrors client hmem hrunning
      exact ⟨hmirrors.present, hmirrors.fetched⟩

theorem run_consistent {config : RuntimeConfig} {es : List Event}
    (hr : Run Step (start config capacity) es s) : Consistent capacity s := by
  apply hr.invariant (fun _ s => Consistent capacity s)
  · refine ⟨rfl, Broadcast.new_holds capacity, ?_, ?_⟩
    · intro client hmem
      cases hmem
    · intro client hmem
      cases hmem
  · intro es s e t _ hs hstep
    exact next_consistent hs hstep

end Steps

/-! ## What a status request is answered -/

/-- The counters after the events `es`. The program shares a counter of scans and a flag of the
connection, and changes neither. -/
structure Counted (es : List Event) (s : AppState) : Prop where
  signals : s.signalsReceived = UInt64.ofNat (es.countP Event.isSignal)
  scans : s.scansTriggered = 0
  profitable : s.profitableScans = 0
  forge : s.forgeConnected = false

section Counters
variable {es : List Event} {s t : AppState} {e : Event}

theorem Counted.broadcast (h : Counted es s) (event : LiveEvent) :
    Counted es (s.broadcast event) := by
  unfold AppState.broadcast
  split
  · exact ⟨h.signals, h.scans, h.profitable, h.forge⟩
  · exact h

theorem Counted.quiet (h : Counted es s) (he : e.isSignal = false)
    (hsignals : t.signalsReceived = s.signalsReceived)
    (hscans : t.scansTriggered = s.scansTriggered)
    (hprofitable : t.profitableScans = s.profitableScans)
    (hforge : t.forgeConnected = s.forgeConnected) : Counted (es ++ [e]) t := by
  refine ⟨?_, hscans.trans h.scans, hprofitable.trans h.profitable, hforge.trans h.forge⟩
  rw [List.countP_append, List.countP_singleton, he, hsignals, h.signals]
  rfl

theorem Counted.next (hs : Counted es s) (h : Step s e t) : Counted (es ++ [e]) t := by
  cases e with
  | updateConfig update now =>
    obtain rfl := Option.some.inj h
    apply Counted.broadcast
    exact hs.quiet rfl rfl rfl rfl rfl
  | systemStart now sentAt =>
    obtain rfl := Option.some.inj h
    unfold AppState.systemStart
    split
    · exact hs.quiet rfl rfl rfl rfl rfl
    · apply Counted.broadcast
      exact hs.quiet rfl rfl rfl rfl rfl
  | systemStop now =>
    obtain rfl := Option.some.inj h
    apply Counted.broadcast
    exact hs.quiet rfl rfl rfl rfl rfl
  | signal signal now =>
    obtain rfl := Option.some.inj h
    apply Counted.broadcast
    refine ⟨?_, hs.scans, hs.profitable, hs.forge⟩
    rw [List.countP_append, List.countP_singleton, UInt64.ofNat_add, ← hs.signals]
    rfl
  | price solUsdPrice =>
    obtain rfl := Option.some.inj h
    exact hs.quiet rfl rfl rfl rfl rfl
  | subscribe =>
    obtain rfl := Option.some.inj h
    exact hs.quiet rfl rfl rfl rfl rfl
  | fetch i =>
    obtain ⟨client, _, ht⟩ := Option.bind_eq_some_iff.mp h
    obtain rfl := Option.some.inj ht
    exact hs.quiet rfl rfl rfl rfl rfl
  | forward i written =>
    obtain ⟨client, _, hround⟩ := Option.bind_eq_some_iff.mp h
    split at hround
    · split at hround
      · split at hround
        · obtain rfl := Option.some.inj hround
          exact hs.quiet rfl rfl rfl rfl rfl
        · obtain rfl := Option.some.inj hround
          exact hs.quiet rfl rfl rfl rfl rfl
      · obtain rfl := Option.some.inj hround
        exact hs.quiet rfl rfl rfl rfl rfl
      · cases hround
    · cases hround
  | hangUp i =>
    obtain ⟨client, _, ht⟩ := Option.bind_eq_some_iff.mp h
    obtain rfl := Option.some.inj ht
    exact hs.quiet rfl rfl rfl rfl rfl

theorem run_counted {config : RuntimeConfig} {capacity : ℕ}
    (hr : Run Step (start config capacity) es s) : Counted es s := by
  apply hr.invariant Counted
  · exact ⟨rfl, rfl, rfl, rfl⟩
  · intro es s e t _ hs hstep
    exact hs.next hstep

end Counters

/-- The answer to a status request after the events `es`, if the panel shows `p`. -/
structure Reports (es : List Event) (p : Panel) (status : SystemStatus) : Prop where
  mode : status.mode = p.mode
  running : status.systemRunning = p.running
  uptime : status.uptimeSecs.isSome = true → p.running = true
  signals : status.signalsReceived = UInt64.ofNat (es.countP Event.isSignal)
  scans : status.scansTriggered = 0 ∧ status.profitableScans = 0
  forge : status.forgeConnected = false

theorem getStatus_reports {es : List Event} {s : AppState} (h : Counted es s) (now : Timestamp) :
    Reports es (panelOf s.config) (s.getStatus now) := by
  refine ⟨rfl, rfl, ?_, h.signals, ⟨h.scans, h.profitable⟩, h.forge⟩
  intro hsome
  by_contra hstopped
  have hnone : (s.getStatus now).uptimeSecs = none := if_neg hstopped
  rw [hnone] at hsome
  cases hsome

theorem pending_eq {capacity : ℕ} {history : List LiveEvent} {client : Client}
    (h : client.Sound capacity history) :
    client.delivered ++ history.drop client.next = history.drop client.since := by
  have hsplit : history.drop client.since =
      (history.take client.next ++ history.drop client.next).drop client.since := by
    rw [List.take_append_drop]
  have hlength : client.since ≤ (history.take client.next).length := by
    rw [List.length_take]
    exact Nat.le_min.mpr ⟨h.since, h.since.trans h.next⟩
  rw [hsplit, List.drop_append_of_le_length hlength, h.delivered]

/-- In every run each client has been sent the events from its subscription to its position,
each once and in order, and unless a write fails its task goes on as long as the client is at
most the channel's capacity behind. -/
theorem delivered_in_order (config : RuntimeConfig) (capacity : ℕ) (es : List Event)
    (s : AppState) (hr : Run Step (start config capacity) es s) (client : Client)
    (hclient : client ∈ s.clients) :
    client.delivered ++ s.history.drop client.next = s.history.drop client.since ∧
    (client.forwarding = .lagged → capacity < (s.history.drop client.next).length) := by
  have hsound := (run_consistent hr).sound client hclient
  refine ⟨pending_eq hsound, ?_⟩
  intro hlagged
  have hbehind := hsound.lagged hlagged
  rw [List.length_drop]
  omega

/-- A client subscribes, the mode is changed, the client fetches the configuration, the system
is stopped, and the first of the two events is forwarded. -/
def panelEvents : List Event :=
  [.subscribe, .updateConfig ⟨some .paper, none, none, none, none⟩ 1, .fetch 0, .systemStop 2,
    .forward 0 true]

def panelRun : Option AppState :=
  panelEvents.foldlM AppState.next (start (ControlPanel.runtimeConfig ControlPanel.liveArgs 0) 1024)

theorem panelRun_client : ∃ s client, panelRun = some s ∧ client ∈ s.clients ∧
    client.delivered.length = 1 ∧ client.forwarding = .running ∧
    client.fetched = some ⟨.paper, 1, true⟩ := by
  have hcheck : panelRun.any (fun s => s.clients.any (fun client =>
      client.delivered.length == 1 && client.forwarding == .running &&
        client.fetched == some ⟨.paper, 1, true⟩)) = true := by decide +kernel
  cases hs : panelRun with
  | none =>
    rw [hs] at hcheck
    cases hcheck
  | some s =>
    rw [hs, Option.any_some, List.any_eq_true] at hcheck
    obtain ⟨client, hmem, hclient⟩ := hcheck
    simp only [Bool.and_eq_true, beq_iff_eq] at hclient
    exact ⟨s, client, rfl, hmem, hclient.1.1, hclient.1.2, hclient.2⟩

theorem delivered_in_order_panel : ∃ s client, panelRun = some s ∧ client ∈ s.clients ∧
    client.delivered.length = 1 ∧
    client.delivered ++ s.history.drop client.next = s.history.drop client.since := by
  obtain ⟨s, client, hs, hmem, hone, _⟩ := panelRun_client
  exact ⟨s, client, hs, hmem, hone,
    (delivered_in_order _ _ panelEvents s (run_foldlM hs) client hmem).1⟩

/-- The events delivered to a client, with those still on their way, take the configuration
it fetched at any time since it subscribed to the present one, while its task goes on: a status
request would be answered with that mode and state, and with the number of signals so far. -/
theorem panel_caught_up (config : RuntimeConfig) (capacity : ℕ) (es : List Event) (s : AppState)
    (hr : Run Step (start config capacity) es s) (client : Client) (hclient : client ∈ s.clients)
    (hrunning : client.forwarding = .running) (p : Panel) (hfetched : client.fetched = some p) :
    p.replay (client.delivered ++ s.history.drop client.next) = panelOf s.config ∧
    ∀ now, Reports es (p.replay (client.delivered ++ s.history.drop client.next))
      (s.getStatus now) := by
  have hs := run_consistent hr
  have hpanel : p.replay (client.delivered ++ s.history.drop client.next) = panelOf s.config := by
    rw [pending_eq (hs.sound client hclient)]
    exact (hs.mirrors client hclient hrunning).fetched p hfetched
  refine ⟨hpanel, ?_⟩
  intro now
  rw [hpanel]
  exact getStatus_reports (run_counted hr) now

theorem panel_caught_up_stopped : ∃ s client, panelRun = some s ∧ client ∈ s.clients ∧
    (⟨.paper, 1, true⟩ : Panel).replay (client.delivered ++ s.history.drop client.next) =
      panelOf s.config ∧ (s.getStatus 3).signalsReceived = 0 := by
  obtain ⟨s, client, hs, hmem, _, hrunning, hfetched⟩ := panelRun_client
  obtain ⟨hpanel, hreports⟩ :=
    panel_caught_up _ _ panelEvents s (run_foldlM hs) client hmem hrunning _ hfetched
  exact ⟨s, client, hs, hmem, hpanel, (hreports 3).signals⟩

end SolanaArb.LiveFeed
