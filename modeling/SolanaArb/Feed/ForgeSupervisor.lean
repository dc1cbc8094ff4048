import SolanaArb.Feed.ForgeFeed
import SolanaArb.General.Exclusive
import SolanaArb.General.Runs

/-! # The forge stream across its connections

The feed is called again and again, five seconds after each return, and every call starts
with an empty table of last signals. Five seconds are longer than the debounce, so nothing
the table has forgotten would have held a signal back: the sessions send what a single
connection would send that stays up for ever.
-/
namespace SolanaArb.ForgeFeed
open SolanaArb.General

def reconnectNanos : ℕ := 5000000000

/-- Where the loop around the feed stands. -/
inductive Phase
  | connecting
  | reading (debounce : LastTimes String)
  | sleeping (deadline : ℕ)

structure Supervisor where
  phase : Phase
  now : ℕ
  /-- Not in the program: the signals sent by all sessions, newest first. -/
  sent : List (ℕ × SwapSignal)

/-- What happens next, with the time it takes. A session ends when its stream closes or
fails, or when nobody receives its signals any more. -/
inductive SessionEvent
  | connect (elapsed : ℕ) (succeeds : Bool)
  | frame (r : Received)
  | ends (elapsed : ℕ)
  | wake (elapsed : ℕ)

def SessionEvent.elapsed : SessionEvent → ℕ
  | connect elapsed _ => elapsed
  | frame r => r.elapsed
  | ends elapsed => elapsed
  | wake elapsed => elapsed

namespace Supervisor

/-- The feed has returned. -/
def back (f : Supervisor) (elapsed : ℕ) : Supervisor :=
  let now := f.now + elapsed
  { f with phase := .sleeping (now + reconnectNanos), now := now }

def next (f : Supervisor) : SessionEvent → Option Supervisor
  | .connect elapsed succeeds =>
    match f.phase with
    | .connecting =>
      if succeeds then some { f with phase := .reading ∅, now := f.now + elapsed }
      else some (f.back elapsed)
    | _ => none
  | .frame r =>
    match f.phase with
    | .reading debounce =>
      let c := (Connection.mk debounce f.now f.sent).receive r
      some { phase := .reading c.debounce, now := c.now, sent := c.sent }
    | _ => none
  | .ends elapsed =>
    match f.phase with
    | .reading _ => some (f.back elapsed)
    | _ => none
  | .wake elapsed =>
    match f.phase with
    | .sleeping deadline =>
      if deadline ≤ f.now + elapsed then
        some { f with phase := .connecting, now := f.now + elapsed }
      else none
    | _ => none

def start : Supervisor := ⟨.connecting, 0, []⟩

def Step (f : Supervisor) (e : SessionEvent) (f' : Supervisor) : Prop := f.next e = some f'

/-- The times and tokens of the signals sent. -/
def passed (f : Supervisor) : List (ℕ × String) := f.sent.map (fun s => (s.1, s.2.tokenMint))

end Supervisor

/-- The frames read so far, each with the time since the one before it, and the time since the
last. -/
def observe (seen : List Received × ℕ) : SessionEvent → List Received × ℕ
  | .frame r => (seen.1 ++ [⟨seen.2 + r.elapsed, r.frame⟩], 0)
  | e => (seen.1, seen.2 + e.elapsed)

def observed (es : List SessionEvent) : List Received × ℕ := es.foldl observe ([], 0)

/-- The frames of all sessions as one connection would read them. -/
def timeline (es : List SessionEvent) : List Received := (observed es).1

theorem observed_snoc (es : List SessionEvent) (e : SessionEvent) :
    observed (es ++ [e]) = observe (observed es) e := by
  simp [observed]

section Sessions
variable {c : Connection} {r : Received} {f f' : Supervisor} {es : List SessionEvent}
  {e : SessionEvent} {passed : List (ℕ × String)} {debounce : LastTimes String} {now : ℕ}

theorem cleanDebounce_window (h : Remembers debounceNanos passed now debounce) :
    Remembers debounceNanos passed now (cleanDebounce debounce now) := by
  unfold cleanDebounce
  split
  · apply h.retain
    intro t hkeep
    have hstale : staleNanos ≤ now - t := Nat.le_of_not_lt (of_decide_eq_false hkeep)
    exact Nat.le_trans (by decide) hstale
  · exact h

theorem Connection.receive_window (h : Remembers debounceNanos c.passed c.now c.debounce) :
    Remembers debounceNanos (c.receive r).passed (c.receive r).now (c.receive r).debounce := by
  have hlater := h.later (Nat.le_add_right c.now r.elapsed)
  unfold Connection.receive
  cases c.signal r with
  | none => exact hlater
  | some signal => exact cleanDebounce_window (hlater.insert signal.tokenMint)

/-- A table that remembers the window decides as the signals sent so far do. -/
theorem Connection.signal_iff (h : Remembers debounceNanos c.passed c.now c.debounce)
    (signal : SwapSignal) : c.signal r = some signal ↔ signalOf r.frame = some signal ∧
      ∀ sent ∈ c.sent, sent.2.tokenMint = signal.tokenMint →
        debounceNanos ≤ c.now + r.elapsed - sent.1 := by
  have hlater := h.later (Nat.le_add_right c.now r.elapsed)
  unfold Connection.signal
  rw [Option.filter_eq_some_iff, hlater.letsThrough_iff (Nat.le_refl _)]
  simp only [Connection.passed, List.mem_map, Prod.mk.injEq]
  constructor
  · rintro ⟨hsignal, hall⟩
    exact ⟨hsignal, fun sent hmem htoken => hall sent.1 ⟨sent, hmem, rfl, htoken⟩⟩
  · rintro ⟨hsignal, hall⟩
    refine ⟨hsignal, ?_⟩
    rintro t ⟨sent, hmem, rfl, htoken⟩
    exact hall sent hmem htoken

/-- Two connections that have sent the same send the same, whatever their tables. -/
theorem Connection.receive_sent {c' : Connection} {r' : Received}
    (h : Remembers debounceNanos c.passed c.now c.debounce)
    (h' : Remembers debounceNanos c'.passed c'.now c'.debounce) (hsent : c.sent = c'.sent)
    (hnow : c.now + r.elapsed = c'.now + r'.elapsed) (hframe : r.frame = r'.frame) :
    (c.receive r).sent = (c'.receive r').sent ∧ (c.receive r).now = (c'.receive r').now := by
  have hsame : c.signal r = c'.signal r' := by
    apply Option.ext
    intro signal
    rw [Connection.signal_iff h, Connection.signal_iff h', hsent, hnow, hframe]
  unfold Connection.receive
  rw [hsame]
  cases c'.signal r' with
  | none => exact ⟨hsent, hnow⟩
  | some signal => exact ⟨by simp only [hsent, hnow], hnow⟩

end Sessions

/-- What the phase promises: a session's table remembers the last three seconds of all
sessions, and every signal is older than that when the next session starts. -/
def Phase.Quiet (passed : List (ℕ × String)) (now : ℕ) : Phase → Prop
  | .connecting => ∀ sent ∈ passed, sent.1 + debounceNanos ≤ now
  | .reading debounce => Remembers debounceNanos passed now debounce
  | .sleeping deadline => ∀ sent ∈ passed, sent.1 + debounceNanos ≤ deadline

/-- The supervisor against the single connection that reads the same frames. -/
structure Mirrors (es : List SessionEvent) (f : Supervisor) : Prop where
  sent : f.sent = (connected (timeline es)).sent
  now : f.now = (connected (timeline es)).now + (observed es).2
  past : ∀ sent ∈ f.passed, sent.1 ≤ f.now
  quiet : f.phase.Quiet f.passed f.now

section Runs
variable {f f' : Supervisor} {es : List SessionEvent} {e : SessionEvent} {elapsed : ℕ}

/-- A step that reads no frame. -/
theorem Mirrors.waits (h : Mirrors es f) (hframe : ∀ r, e ≠ .frame r) (hsent : f'.sent = f.sent)
    (hnow : f'.now = f.now + e.elapsed) (hquiet : f'.phase.Quiet f.passed f'.now) :
    Mirrors (es ++ [e]) f' := by
  have hobserved : observed (es ++ [e]) = ((observed es).1, (observed es).2 + e.elapsed) := by
    rw [observed_snoc]
    cases e with
    | frame r => exact absurd rfl (hframe r)
    | connect _ _ | ends _ | wake _ => rfl
  have hpassed : f'.passed = f.passed := by rw [Supervisor.passed, hsent, Supervisor.passed]
  constructor
  · rw [timeline, hobserved, hsent]
    exact h.sent
  · rw [timeline, hobserved, hnow, h.now, Nat.add_assoc]
    rfl
  · rw [hpassed, hnow]
    intro sent hmem
    exact Nat.le_add_right_of_le (h.past sent hmem)
  · rw [hpassed]
    exact hquiet

/-- Between two sessions everything becomes older than the debounce. -/
theorem Mirrors.back (h : Mirrors es f) (hframe : ∀ r, e ≠ .frame r) (helapsed : e.elapsed = elapsed) :
    Mirrors (es ++ [e]) (f.back elapsed) := by
  refine h.waits hframe rfl (by rw [helapsed]; rfl) ?_
  intro sent hmem
  have hpast := h.past sent hmem
  have hlonger : debounceNanos ≤ reconnectNanos := by decide
  omega

theorem remembers_of_quiet {passed : List (ℕ × String)} {now : ℕ}
    (h : ∀ sent ∈ passed, sent.1 + debounceNanos ≤ now) :
    Remembers debounceNanos passed now (∅ : LastTimes String) := by
  constructor
  · intro t k hmem
    have hle := h (t, k) hmem
    exact Nat.le_trans (Nat.le_add_right _ _) hle
  · intro t k hlookup
    rw [AList.lookup_empty] at hlookup
    cases hlookup
  · intro t k hmem
    have hle : t + debounceNanos ≤ now := h (t, k) hmem
    exact Or.inl (by omega)

theorem Mirrors.frame {debounce : LastTimes String} {r : Received} (h : Mirrors es f)
    (hphase : f.phase = .reading debounce) (c : Connection)
    (hc : c = (Connection.mk debounce f.now f.sent).receive r) :
    Mirrors (es ++ [.frame r]) ⟨.reading c.debounce, c.now, c.sent⟩ := by
  subst hc
  have hquiet := h.quiet
  rw [hphase] at hquiet
  have hwindow := Connection.receive_window (c := ⟨debounce, f.now, f.sent⟩) (r := r) hquiet
  have hsingle := (connected_remembers (timeline es)).weaken
    (show debounceNanos ≤ staleNanos by decide)
  have hobserved : observed (es ++ [.frame r]) =
      (timeline es ++ [⟨(observed es).2 + r.elapsed, r.frame⟩], 0) := observed_snoc es _
  let later : Received := ⟨(observed es).2 + r.elapsed, r.frame⟩
  have htime : f.now + r.elapsed = (connected (timeline es)).now + later.elapsed := by
    rw [h.now, Nat.add_assoc]
  have hframe : r.frame = later.frame := rfl
  obtain ⟨hsent, hnow⟩ := Connection.receive_sent (c := ⟨debounce, f.now, f.sent⟩) hquiet hsingle
    h.sent htime hframe
  constructor
  · rw [timeline, hobserved, connected_snoc]
    exact hsent
  · rw [timeline, hobserved, connected_snoc]
    exact hnow
  · intro sent hmem
    exact hwindow.past sent.1 sent.2 hmem
  · exact hwindow

theorem start_mirrors : Mirrors [] Supervisor.start := by
  refine ⟨rfl, rfl, ?_, ?_⟩
  · intro sent hmem
    cases hmem
  · intro sent hmem
    cases hmem

theorem step_mirrors (h : Mirrors es f) (hstep : f.Step e f') : Mirrors (es ++ [e]) f' := by
  have hquiet := h.quiet
  unfold Supervisor.Step at hstep
  cases e with
  | connect elapsed succeeds =>
    cases hphase : f.phase with
    | connecting =>
      rw [hphase] at hquiet
      simp only [Supervisor.next, hphase] at hstep
      cases succeeds with
      | false =>
        obtain rfl := Option.some.inj hstep
        exact h.back (fun r => nofun) rfl
      | true =>
        obtain rfl := Option.some.inj hstep
        refine h.waits (fun r => nofun) rfl rfl (remembers_of_quiet ?_)
        intro sent hmem
        exact Nat.le_add_right_of_le (hquiet sent hmem)
    | reading debounce => simp [Supervisor.next, hphase] at hstep
    | sleeping deadline => simp [Supervisor.next, hphase] at hstep
  | frame r =>
    cases hphase : f.phase with
    | connecting => simp [Supervisor.next, hphase] at hstep
    | reading debounce =>
      simp only [Supervisor.next, hphase] at hstep
      obtain rfl := Option.some.inj hstep
      exact h.frame hphase _ rfl
    | sleeping deadline => simp [Supervisor.next, hphase] at hstep
  | ends elapsed =>
    cases hphase : f.phase with
    | connecting => simp [Supervisor.next, hphase] at hstep
    | reading debounce =>
      simp only [Supervisor.next, hphase] at hstep
      obtain rfl := Option.some.inj hstep
      exact h.back (fun r => nofun) rfl
    | sleeping deadline => simp [Supervisor.next, hphase] at hstep
  | wake elapsed =>
    cases hphase : f.phase with
    | connecting => simp [Supervisor.next, hphase] at hstep
    | reading debounce => simp [Supervisor.next, hphase] at hstep
    | sleeping deadline =>
      rw [hphase] at hquiet
      simp only [Supervisor.next, hphase, Option.ite_none_right_eq_some, Option.some.injEq] at hstep
      obtain ⟨hwoken, rfl⟩ := hstep
      refine h.waits (fun r => nofun) rfl rfl ?_
      intro sent hmem
      exact (hquiet sent hmem).trans hwoken

theorem run_mirrors (hr : Run Supervisor.Step .start es f) : Mirrors es f := by
  apply hr.invariant Mirrors
  · exact start_mirrors
  · intro es f e f' _ h hstep
    exact step_mirrors h hstep

/-- The times at which a token was signalled between two instants, in order. -/
def signalTimes (f : Supervisor) (tokenMint : String) (lo hi : ℕ) : List ℕ :=
  ((f.sent.filter (fun sent => sent.2.tokenMint = tokenMint ∧ lo ≤ sent.1 ∧ sent.1 ≤ hi)).map
    Prod.fst).reverse

theorem signalTimes_spaced (h : Mirrors es f) (tokenMint : String) (lo hi : ℕ) :
    Spaced debounceNanos (signalTimes f tokenMint lo hi) := by
  have hall : f.sent.Pairwise (fun newer older => newer.2.tokenMint = older.2.tokenMint →
      older.1 + debounceNanos ≤ newer.1) := by
    rw [h.sent]
    exact List.pairwise_map.mp (connected_spaced (timeline es))
  unfold signalTimes Spaced
  rw [List.pairwise_reverse, List.pairwise_map]
  refine (hall.filter _).imp_of_mem ?_
  intro newer older hnewer holder hspaced
  have hfirst := of_decide_eq_true (List.mem_filter.mp hnewer).2
  have hsecond := of_decide_eq_true (List.mem_filter.mp holder).2
  exact hspaced (hfirst.1.trans hsecond.1.symm)

end Runs

/-- Reconnecting is invisible: in every run of the loop around the feed the sessions together
send the signals, at the times, that one connection would send that reads the same frames and
stays up. So in any stretch of time a token is signalled at most once more than the stretch has
room for three seconds. -/
theorem reconnects_invisible (es : List SessionEvent) (f : Supervisor)
    (hr : Run Supervisor.Step .start es f) :
    f.sent = (connected (timeline es)).sent ∧
    ∀ tokenMint lo hi,
      ((signalTimes f tokenMint lo hi).length - 1) * debounceNanos ≤ hi - lo := by
  have h := run_mirrors hr
  refine ⟨h.sent, ?_⟩
  intro tokenMint lo hi
  have hbetween (t : ℕ) (ht : t ∈ signalTimes f tokenMint lo hi) : lo ≤ t ∧ t ≤ hi := by
    obtain ⟨sent, hmem, rfl⟩ := List.mem_map.mp (List.mem_reverse.mp ht)
    exact (of_decide_eq_true (List.mem_filter.mp hmem).2).2
  exact (signalTimes_spaced h tokenMint lo hi).count (fun t ht => (hbetween t ht).1)
    (fun t ht => (hbetween t ht).2)

/-- A swap of two SOL. -/
def twoSolSwap : Frame :=
  .text (some (.swapDirect ⟨"Signature", 1, 0, .pumpSwap, "Signer", ⟨wsolMint, 2000000000, 9⟩,
    ⟨"DezXAZ8z7PnrnRJjz3wXBoRgixCa6xjnB8YaB1pPB263", 1000, 5⟩⟩))

/-- The swap is seen twice within a second, the stream closes, and after the pause it is seen
once more. -/
def twoSessions : List SessionEvent :=
  [.connect 0 true, .frame ⟨0, twoSolSwap⟩, .frame ⟨1000000000, twoSolSwap⟩, .ends 0,
    .wake reconnectNanos, .connect 0 true, .frame ⟨0, twoSolSwap⟩]

theorem twoSessions_sent : (twoSessions.foldlM Supervisor.next .start).map
    (fun f => f.sent.map Prod.fst) = some [6000000000, 0] := by
  decide +kernel

theorem reconnects_invisible_twice : ∃ f, twoSessions.foldlM Supervisor.next .start = some f ∧
    f.sent.map Prod.fst = [6000000000, 0] ∧ f.sent = (connected (timeline twoSessions)).sent := by
  obtain ⟨f, hrun, hsent⟩ := Option.map_eq_some_iff.mp twoSessions_sent
  exact ⟨f, hrun, hsent, (reconnects_invisible twoSessions f (run_foldlM hrun)).1⟩

end SolanaArb.ForgeFeed
