import SolanaArb.Cli.HandledOnce
import SolanaArb.Feed.DexScreener
import SolanaArb.General.Exclusive

/-! # The poller and its channel

The poller asks for the pairs of the watched mints one after the other, sends what it gets to
the main loop, and sleeps for the interval before the next round. The channel of quotes holds
five thousand messages, that of signals a thousand, and a sender waits while its channel is
full. The poller takes a step with an answer when the endpoint gives it; no request has a
timeout, so a round ends if every request of it is answered. The quote channel stays open as
long as the poller holds its sender. Log lines are left out, and with them the prefixes of the
mints they print.
-/
namespace SolanaArb.Poller
open SolanaArb.General SolanaArb.DexScreener SolanaArb.MainLoop

def quoteCapacity : ℕ := 5000
def signalCapacity : ℕ := 1000

structure Config where
  watchMints : List String
  intervalSecs : ℕ
  minLiquidity : ℚ

def Config.interval (cfg : Config) : ℕ := cfg.intervalSecs * 1000000000

/-- Where the poller stands, with the mints still to ask for in this round. -/
inductive Phase
  | polling (mints : List String)
  | sending (quotes : List PriceQuote) (mints : List String)
  | sleeping (wake : ℕ)
  | stopped

/-- An answer of the endpoint, with the time at which it was read. -/
structure Answered where
  mint : String
  response : Response
  timestamp : Timestamp

structure System where
  loop : State
  phase : Phase
  now : ℕ
  /-- Not in the program: when each round began, the answers so far, and the quotes sent. -/
  rounds : List ℕ
  answered : List Answered
  sent : List PriceQuote

inductive Event
  | pass (nanos : ℕ)
  | poll (response : Response) (timestamp : Timestamp)
  /-- An event of the main loop or of the other senders. -/
  | other (e : MainLoop.Event)

section Loop
variable (analyzer : SwapAnalyzer) (cfg : Config)

/-- What the poller does next, unless it has to wait. -/
def System.poll (s : System) (response : Response) (timestamp : Timestamp) : Option System :=
  match s.phase with
  | .polling [] => some { s with phase := .sleeping (s.now + cfg.interval) }
  | .polling (mint :: mints) =>
    let answered := s.answered ++ [⟨mint, response, timestamp⟩]
    match getAllPairs mint cfg.minLiquidity timestamp response with
    | .ok quotes => some { s with phase := .sending quotes mints, answered := answered }
    | .error _ => some { s with phase := .polling mints, answered := answered }
  | .sending [] mints => some { s with phase := .polling mints }
  | .sending (quote :: quotes) mints =>
    -- the receiver is gone only when the main loop has been left
    if s.loop.ended then some { s with phase := .stopped }
    else if s.loop.quotes.queue.length < quoteCapacity then
      some { s with
        phase := .sending quotes mints
        loop := { s.loop with quotes := s.loop.quotes.send quote }
        sent := s.sent ++ [quote] }
    else none
  | .sleeping wake =>
    if wake ≤ s.now then
      some { s with phase := .polling cfg.watchMints, rounds := s.rounds ++ [s.now] }
    else none
  | .stopped => none

/-- The other sender of quotes is the pool monitor. -/
def System.Admits (s : System) : MainLoop.Event → Prop
  | .sendQuote quote =>
    quote.source = .webSocket ∧ s.loop.quotes.queue.length < quoteCapacity
  | .sendSignal _ => s.loop.signals.queue.length < signalCapacity
  | .closeQuotes => s.phase = .stopped
  | _ => True

def Step (s : System) : Event → System → Prop
  | .pass nanos, t => t = { s with now := s.now + nanos }
  | .poll response timestamp, t => s.poll cfg response timestamp = some t
  | .other e, t => s.Admits e ∧ ∃ loop, MainLoop.Step analyzer s.loop e loop ∧
      t = { s with loop := loop }

end Loop

def launch (d : Detector) (v : VolumeTracker) (cfg : Config) (now : ℕ) : System where
  loop := start d v
  phase := .polling cfg.watchMints
  now := now
  rounds := [now]
  answered := []
  sent := []

/-- The quotes of an answer, none where it fails. -/
def Answered.quotes (cfg : Config) (a : Answered) : List PriceQuote :=
  (getAllPairs a.mint cfg.minLiquidity a.timestamp a.response).toOption.getD []

/-- The mints that this round has still to ask for. -/
def Phase.left : Phase → List String
  | .polling mints => mints
  | .sending _ mints => mints
  | _ => []

def Phase.unsent : Phase → List PriceQuote
  | .sending quotes _ => quotes
  | _ => []

def polled (quotes : List PriceQuote) : List PriceQuote :=
  quotes.filter (fun quote => quote.source == .httpPoll)

/-- The main loop has made a run of its own, over unbounded channels, in which the quotes of
the poller are those it has sent. -/
structure Fed (analyzer : SwapAnalyzer) (d : Detector) (v : VolumeTracker)
    (loopEvents : List MainLoop.Event) (s : System) : Prop where
  run : Run (MainLoop.Step analyzer) (start d v) loopEvents s.loop
  sent : polled (sentQuotes loopEvents) = s.sent

structure Kept (analyzer : SwapAnalyzer) (d : Detector) (v : VolumeTracker) (cfg : Config)
    (s : System) : Prop where
  fed : ∃ loopEvents, Fed analyzer d v loopEvents s
  going : s.phase ≠ .stopped
  channel : s.loop.quotes.closed = false
  quotesFit : s.loop.quotes.queue.length ≤ quoteCapacity
  signalsFit : s.loop.signals.queue.length ≤ signalCapacity
  asked : s.answered.map Answered.mint ++ s.phase.left =
    (List.replicate s.rounds.length cfg.watchMints).flatten
  quotes : s.sent ++ s.phase.unsent = s.answered.flatMap (Answered.quotes cfg)
  past : ∀ t ∈ s.rounds, t ≤ s.now
  spaced : Spaced cfg.interval s.rounds
  asleep : ∀ wake, s.phase = .sleeping wake →
    wake ≤ s.now + cfg.interval ∧ ∀ t ∈ s.rounds.getLast?, t + cfg.interval ≤ wake

section Quotes
variable {mint : String} {minLiquidity : ℚ} {now : Timestamp} {cfg : Config} {a : Answered}
  {q : PriceQuote}

theorem quoteOfPair_source {pair : DexPair} (h : quoteOfPair mint minLiquidity now pair = some q) :
    q.source = .httpPoll := by
  unfold quoteOfPair at h
  obtain ⟨price, _, h⟩ := Option.bind_eq_some_iff.mp h
  obtain ⟨liquidity, _, h⟩ := Option.bind_eq_some_iff.mp h
  simp only [Option.ite_none_left_eq_some, Option.some.injEq] at h
  obtain ⟨_, _, rfl⟩ := h
  rfl

/-- What the filters of the client leave. -/
structure Accepted (cfg : Config) (mint : String) (q : PriceQuote) : Prop where
  mint : q.baseMint = mint
  source : q.source = .httpPoll
  liquidity : cfg.minLiquidity ≤ q.liquidityUsd
  dex : q.dex ≠ .unknown

theorem accepted_of_mem (h : q ∈ a.quotes cfg) : Accepted cfg a.mint q := by
  unfold Answered.quotes getAllPairs at h
  cases hresponse : a.response with
  | error e =>
    rw [hresponse] at h
    cases h
  | ok pairs =>
    rw [hresponse] at h
    obtain ⟨pair, _, hquote⟩ := List.mem_filterMap.mp h
    obtain ⟨hmint, _, hliquidity, hdex⟩ := quoteOfPair_spec hquote
    exact ⟨hmint, quoteOfPair_source hquote, hliquidity, hdex⟩

end Quotes

section Steps
variable {analyzer : SwapAnalyzer} {d : Detector} {v : VolumeTracker} {cfg : Config}
  {loopEvents : List MainLoop.Event} {s t : System}

theorem polled_append (quotes quotes' : List PriceQuote) :
    polled (quotes ++ quotes') = polled quotes ++ polled quotes' := List.filter_append ..

/-- An iteration of the loop takes from the channels and closes none. -/
theorem turn_channels {branch : Branch} {m : Moment} {loop loop' : State}
    (h : iterate analyzer m loop branch = some loop') :
    loop'.quotes.queue.length ≤ loop.quotes.queue.length ∧
    loop'.signals.queue.length ≤ loop.signals.queue.length ∧
    loop'.quotes.closed = loop.quotes.closed := by
  rcases iterate_cases h with ⟨_, _, quote, quotes, hrecv, hsame⟩ | ⟨_, _, rfl⟩ |
    ⟨_, signal, signals, hrecv, hsame⟩ | ⟨_, _, rfl⟩
  · obtain ⟨hqueue, hclosed⟩ := Channel.recv_some hrecv
    rw [hsame.quotes, hsame.signals, hqueue]
    exact ⟨Nat.le_succ _, le_rfl, hclosed⟩
  · exact ⟨le_rfl, le_rfl, rfl⟩
  · obtain ⟨hqueue, _⟩ := Channel.recv_some hrecv
    rw [hsame.quotes, hsame.signals, hqueue]
    exact ⟨le_rfl, Nat.le_succ _, rfl⟩
  · exact ⟨le_rfl, le_rfl, rfl⟩

theorem launch_kept (analyzer : SwapAnalyzer) (d : Detector) (v : VolumeTracker) (cfg : Config)
    (now : ℕ) : Kept analyzer d v cfg (launch d v cfg now) := by
  constructor
  · exact ⟨[], Run.nil, rfl⟩
  · exact Phase.noConfusion
  · rfl
  · exact Nat.zero_le _
  · exact Nat.zero_le _
  · exact (List.append_nil _).symm
  · rfl
  · intro t ht
    exact (List.mem_singleton.mp ht).le
  · exact List.pairwise_singleton _ _
  · intro wake hwake
    cases hwake

theorem Kept.pass (hs : Kept analyzer d v cfg s) (nanos : ℕ) :
    Kept analyzer d v cfg { s with now := s.now + nanos } := by
  obtain ⟨loopEvents, hfed⟩ := hs.fed
  refine ⟨⟨loopEvents, hfed.run, hfed.sent⟩, hs.going, hs.channel, hs.quotesFit, hs.signalsFit,
    hs.asked, hs.quotes, ?_, hs.spaced, ?_⟩
  · intro t ht
    exact (hs.past t ht).trans (Nat.le_add_right _ _)
  · intro wake hwake
    obtain ⟨hsoon, hlast⟩ := hs.asleep wake hwake
    refine ⟨?_, hlast⟩
    change wake ≤ s.now + nanos + cfg.interval
    omega

/-- The poller moves on without sending, and does not fall asleep. -/
theorem Kept.move (hs : Kept analyzer d v cfg s) {phase : Phase} (answered : List Answered)
    (hgoing : phase ≠ .stopped) (hawake : ∀ wake, phase ≠ .sleeping wake)
    (hasked : answered.map Answered.mint ++ phase.left =
      (List.replicate s.rounds.length cfg.watchMints).flatten)
    (hquotes : s.sent ++ phase.unsent = answered.flatMap (Answered.quotes cfg)) :
    Kept analyzer d v cfg { s with phase := phase, answered := answered } := by
  obtain ⟨loopEvents, hfed⟩ := hs.fed
  exact ⟨⟨loopEvents, hfed.run, hfed.sent⟩, hgoing, hs.channel, hs.quotesFit, hs.signalsFit, hasked,
    hquotes, hs.past, hs.spaced, fun wake hwake => absurd hwake (hawake wake)⟩

/-- One more answer, and the quotes that it yields. -/
theorem Kept.answer (hs : Kept analyzer d v cfg s) {mint : String} {mints : List String}
    (hphase : s.phase = .polling (mint :: mints)) (a : Answered) (ha : a.mint = mint)
    {phase : Phase} (hgoing : phase ≠ .stopped) (hawake : ∀ wake, phase ≠ .sleeping wake)
    (hleft : phase.left = mints) (hunsent : phase.unsent = a.quotes cfg) :
    Kept analyzer d v cfg { s with phase := phase, answered := s.answered ++ [a] } := by
  apply hs.move _ hgoing hawake
  · have hasked := hs.asked
    rw [hphase] at hasked
    rw [List.map_append, hleft, ← hasked, List.append_assoc, List.map_singleton, ha]
    rfl
  · have hquotes := hs.quotes
    rw [hphase] at hquotes
    change s.sent ++ [] = _ at hquotes
    rw [List.append_nil] at hquotes
    rw [hunsent, List.flatMap_append, ← hquotes, List.flatMap_singleton]

theorem Kept.unsent_polled (hs : Kept analyzer d v cfg s) {quote : PriceQuote}
    (h : quote ∈ s.phase.unsent) : quote.source = .httpPoll := by
  have hmem : quote ∈ s.answered.flatMap (Answered.quotes cfg) := by
    rw [← hs.quotes]
    exact List.mem_append_right _ h
  obtain ⟨a, _, ha⟩ := List.mem_flatMap.mp hmem
  exact (accepted_of_mem ha).source

theorem Kept.push (hs : Kept analyzer d v cfg s) {quote : PriceQuote} {quotes : List PriceQuote}
    {mints : List String} (hphase : s.phase = .sending (quote :: quotes) mints)
    (hroom : s.loop.quotes.queue.length < quoteCapacity) :
    Kept analyzer d v cfg { s with
      phase := .sending quotes mints
      loop := { s.loop with quotes := s.loop.quotes.send quote }
      sent := s.sent ++ [quote] } := by
  obtain ⟨loopEvents, hfed⟩ := hs.fed
  have hasked := hs.asked
  have hquotes := hs.quotes
  rw [hphase] at hasked hquotes
  have hsource : quote.source = .httpPoll := by
    apply hs.unsent_polled
    rw [hphase]
    exact List.mem_cons_self
  have hsend : MainLoop.Step analyzer s.loop (.sendQuote quote)
      { s.loop with quotes := s.loop.quotes.send quote } := ⟨hs.channel, rfl⟩
  constructor
  · refine ⟨loopEvents ++ [.sendQuote quote], hfed.run.snoc hsend, ?_⟩
    rw [sentQuotes_snoc, polled_append, hfed.sent]
    change s.sent ++ polled [quote] = s.sent ++ [quote]
    rw [polled, List.filter_singleton, hsource]
    rfl
  · exact Phase.noConfusion
  · exact hs.channel
  · change (s.loop.quotes.queue ++ [quote]).length ≤ quoteCapacity
    rw [List.length_append]
    exact hroom
  · exact hs.signalsFit
  · exact hasked
  · rw [← hquotes]
    exact List.append_assoc _ _ _
  · exact hs.past
  · exact hs.spaced
  · intro wake hwake
    cases hwake

theorem Kept.sleep (hs : Kept analyzer d v cfg s) (hphase : s.phase = .polling []) :
    Kept analyzer d v cfg { s with phase := .sleeping (s.now + cfg.interval) } := by
  obtain ⟨loopEvents, hfed⟩ := hs.fed
  have hasked := hs.asked
  have hquotes := hs.quotes
  rw [hphase] at hasked hquotes
  refine ⟨⟨loopEvents, hfed.run, hfed.sent⟩, Phase.noConfusion, hs.channel, hs.quotesFit,
    hs.signalsFit, hasked, hquotes, hs.past, hs.spaced, ?_⟩
  intro wake hwake
  obtain rfl := Phase.sleeping.inj hwake
  refine ⟨le_rfl, ?_⟩
  intro t ht
  exact Nat.add_le_add_right (hs.past t (List.mem_of_mem_getLast? ht)) _

theorem Kept.wake (hs : Kept analyzer d v cfg s) {wake : ℕ} (hphase : s.phase = .sleeping wake)
    (hwake : wake ≤ s.now) : Kept analyzer d v cfg
      { s with phase := .polling cfg.watchMints, rounds := s.rounds ++ [s.now] } := by
  obtain ⟨loopEvents, hfed⟩ := hs.fed
  have hasked := hs.asked
  have hquotes := hs.quotes
  rw [hphase] at hasked hquotes
  obtain ⟨_, hlast⟩ := hs.asleep wake hphase
  refine ⟨⟨loopEvents, hfed.run, hfed.sent⟩, Phase.noConfusion, hs.channel, hs.quotesFit,
    hs.signalsFit, ?_, hquotes, ?_, ?_, ?_⟩
  · change s.answered.map Answered.mint ++ [] = _ at hasked
    rw [List.append_nil] at hasked
    rw [List.length_append, List.length_singleton, List.replicate_add, List.flatten_append, ← hasked]
    exact congrArg _ (List.append_nil _).symm
  · intro t ht
    rcases List.mem_append.mp ht with ht | ht
    · exact hs.past t ht
    · exact (List.mem_singleton.mp ht).le
  · exact hs.spaced.snoc (fun t ht => (hlast t ht).trans hwake)
  · intro wake hwake
    cases hwake

theorem poll_kept (hs : Kept analyzer d v cfg s) {response : Response} {timestamp : Timestamp}
    (h : s.poll cfg response timestamp = some t) : Kept analyzer d v cfg t := by
  obtain ⟨loopEvents, hfed⟩ := hs.fed
  unfold System.poll at h
  split at h
  · next hphase =>
    obtain rfl := Option.some.inj h
    exact hs.sleep hphase
  · next mint mints hphase =>
    dsimp only at h
    split at h
    · next quotes hquotes =>
      obtain rfl := Option.some.inj h
      refine hs.answer hphase _ rfl Phase.noConfusion (fun _ => Phase.noConfusion) rfl ?_
      rw [Answered.quotes, hquotes]
      rfl
    · next e hquotes =>
      obtain rfl := Option.some.inj h
      refine hs.answer hphase _ rfl Phase.noConfusion (fun _ => Phase.noConfusion) rfl ?_
      rw [Answered.quotes, hquotes]
      rfl
  · next mints hphase =>
    obtain rfl := Option.some.inj h
    have hasked := hs.asked
    have hquotes := hs.quotes
    rw [hphase] at hasked hquotes
    exact hs.move s.answered Phase.noConfusion (fun _ => Phase.noConfusion) hasked hquotes
  · next quote quotes mints hphase =>
    rw [(run_running hfed.run).ended, if_neg Bool.false_ne_true] at h
    obtain ⟨hroom, ht⟩ := Option.ite_none_right_eq_some.mp h
    obtain rfl := Option.some.inj ht
    exact hs.push hphase hroom
  · next wake hphase =>
    obtain ⟨hwake, ht⟩ := Option.ite_none_right_eq_some.mp h
    obtain rfl := Option.some.inj ht
    exact hs.wake hphase hwake
  · cases h

/-- An event of the loop or of the other senders. -/
theorem other_kept (hs : Kept analyzer d v cfg s) {e : MainLoop.Event} {loop : State}
    (hadmits : s.Admits e) (h : MainLoop.Step analyzer s.loop e loop) :
    Kept analyzer d v cfg { s with loop := loop } := by
  obtain ⟨loopEvents, hfed⟩ := hs.fed
  have hsent : polled (sentQuotes [e]) = [] := by
    cases e with
    | sendQuote quote =>
      change polled [quote] = []
      rw [polled, List.filter_singleton, hadmits.1]
      rfl
    | sendSignal signal | closeQuotes | closeSignals | turn branch m => rfl
  have hchannels : loop.quotes.closed = false ∧ loop.quotes.queue.length ≤ quoteCapacity ∧
      loop.signals.queue.length ≤ signalCapacity := by
    cases e with
    | sendQuote quote =>
      obtain ⟨_, rfl⟩ := h
      refine ⟨hs.channel, ?_, hs.signalsFit⟩
      change (s.loop.quotes.queue ++ [quote]).length ≤ quoteCapacity
      rw [List.length_append]
      exact hadmits.2
    | sendSignal signal =>
      obtain ⟨_, rfl⟩ := h
      refine ⟨hs.channel, hs.quotesFit, ?_⟩
      change (s.loop.signals.queue ++ [signal]).length ≤ signalCapacity
      rw [List.length_append]
      exact hadmits
    | closeQuotes => exact absurd hadmits hs.going
    | closeSignals =>
      obtain rfl := h
      exact ⟨hs.channel, hs.quotesFit, hs.signalsFit⟩
    | turn branch m =>
      obtain ⟨hquotes, hsignals, hclosed⟩ := turn_channels h.2
      exact ⟨hclosed.trans hs.channel, hquotes.trans hs.quotesFit, hsignals.trans hs.signalsFit⟩
  obtain ⟨hchannel, hquotesFit, hsignalsFit⟩ := hchannels
  refine ⟨⟨loopEvents ++ [e], hfed.run.snoc h, ?_⟩, hs.going, hchannel, hquotesFit, hsignalsFit,
    hs.asked, hs.quotes, hs.past, hs.spaced, hs.asleep⟩
  rw [sentQuotes_snoc, polled_append, hsent, List.append_nil]
  exact hfed.sent

end Steps

theorem run_kept {analyzer : SwapAnalyzer} {d : Detector} {v : VolumeTracker} {cfg : Config}
    {now : ℕ} {es : List Event} {s : System}
    (hr : Run (Step analyzer cfg) (launch d v cfg now) es s) : Kept analyzer d v cfg s := by
  apply hr.invariant (fun _ s => Kept analyzer d v cfg s)
  · exact launch_kept analyzer d v cfg now
  · intro _ s e t _ hs hstep
    cases e with
    | pass nanos =>
      obtain rfl := hstep
      exact hs.pass nanos
    | poll response timestamp => exact poll_kept hs hstep
    | other e =>
      obtain ⟨hadmits, loop, hloop, rfl⟩ := hstep
      exact other_kept hs hadmits hloop

/-- The poller never stops. It asks for the watched mints in turn, a round at least an interval
after the one before, and sends every quote that an answer yields, each once and in order: of
the quotes that the main loop has taken and those on the channel, the polled ones are those
sent. The channels hold no more than they have room for, and apart from that the loop behaves
as over unbounded ones. -/
theorem polls_reach_loop (analyzer : SwapAnalyzer) (d : Detector) (v : VolumeTracker)
    (cfg : Config) (now : ℕ) (es : List Event) (s : System)
    (hr : Run (Step analyzer cfg) (launch d v cfg now) es s) :
    s.phase ≠ .stopped ∧ s.loop.quotes.queue.length ≤ quoteCapacity ∧
    s.loop.signals.queue.length ≤ signalCapacity ∧
    s.answered.map Answered.mint ++ s.phase.left =
      (List.replicate s.rounds.length cfg.watchMints).flatten ∧
    Spaced cfg.interval s.rounds ∧
    (∀ a ∈ s.answered, ∀ q ∈ a.quotes cfg, Accepted cfg a.mint q) ∧
    ∃ loopEvents quotes signals, Run (MainLoop.Step analyzer) (start d v) loopEvents s.loop ∧
      InOrder analyzer d v loopEvents quotes signals s.loop ∧
      polled (quotes.map Prod.fst ++ s.loop.quotes.queue) ++ s.phase.unsent =
        s.answered.flatMap (Answered.quotes cfg) := by
  have hs := run_kept hr
  obtain ⟨loopEvents, hfed⟩ := hs.fed
  obtain ⟨quotes, signals, hinOrder⟩ := run_inOrder hfed.run
  refine ⟨hs.going, hs.quotesFit, hs.signalsFit, hs.asked, hs.spaced,
    fun a _ q hq => accepted_of_mem hq, loopEvents, quotes, signals, hfed.run, hinOrder, ?_⟩
  rw [hinOrder.quotesSent, hfed.sent]
  exact hs.quotes

/-- One token is watched, and a pair of 5000 USD is listed for it. -/
def oneWatched : Config := ⟨["DezXAZ8z7PnrnRJjz3wXBoRgixCa6xjnB8YaB1pPB263"], 10, 1000⟩

def orcaPair : DexPair :=
  ⟨"orca", some (some 1), some (some 5000), some "Pool", none, some (some "Quote")⟩

def orcaAnswer : Answered :=
  ⟨"DezXAZ8z7PnrnRJjz3wXBoRgixCa6xjnB8YaB1pPB263", .ok (some [orcaPair]), 5⟩

def polledQuote : PriceQuote :=
  ⟨.orca, "DezXAZ8z7PnrnRJjz3wXBoRgixCa6xjnB8YaB1pPB263", "Quote", 1, 5000, some "Pool",
    .httpPoll, 5⟩

theorem orcaAnswer_quotes : orcaAnswer.quotes oneWatched = [polledQuote] := by
  decide +kernel

def started : System := launch (Detector.new 30 10) .new oneWatched 0

def onItsWay : System :=
  { started with
    phase := .sending [] []
    loop := { started.loop with quotes := started.loop.quotes.send polledQuote }
    answered := [orcaAnswer]
    sent := [polledQuote] }

def pollRun : List Event := [.poll orcaAnswer.response 5] ++ [.poll orcaAnswer.response 6]

theorem pollRun_run : Run (Step ⟨1⟩ oneWatched) started pollRun onItsWay := by
  have hanswer : started.poll oneWatched orcaAnswer.response 5 =
      some { started with phase := .sending (orcaAnswer.quotes oneWatched) []
                          answered := [orcaAnswer] } := rfl
  rw [orcaAnswer_quotes] at hanswer
  have hfirst : Run (Step ⟨1⟩ oneWatched) started [.poll orcaAnswer.response 5]
      { started with phase := .sending [polledQuote] [], answered := [orcaAnswer] } :=
    Run.nil.snoc hanswer
  exact hfirst.snoc rfl

theorem polls_reach_loop_once : onItsWay.phase ≠ .stopped ∧
    ∃ loopEvents quotes signals,
      InOrder ⟨1⟩ (Detector.new 30 10) .new loopEvents quotes signals onItsWay.loop ∧
      polled (quotes.map Prod.fst ++ onItsWay.loop.quotes.queue) = [polledQuote] := by
  obtain ⟨hgoing, _, _, _, _, _, loopEvents, quotes, signals, _, hinOrder, hsent⟩ :=
    polls_reach_loop ⟨1⟩ (Detector.new 30 10) .new oneWatched 0 pollRun onItsWay pollRun_run
  have hquotes : onItsWay.answered.flatMap (Answered.quotes oneWatched) = [polledQuote] :=
    (List.flatMap_singleton _ _).trans orcaAnswer_quotes
  exact ⟨hgoing, loopEvents, quotes, signals, hinOrder,
    (List.append_nil _).symm.trans (hsent.trans hquotes)⟩

end SolanaArb.Poller
