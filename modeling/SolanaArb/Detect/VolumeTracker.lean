import SolanaArb.General.Debounce
import SolanaArb.General.RollingWindow
import Mathlib.Data.List.Induction
import Mathlib.Data.Rat.Defs
import Mathlib.Algebra.Order.Field.Rat

/-! # Volume spikes of tokens

The swaps of a token in the last five minutes are kept in a deque. A token is flagged
hot when the swaps of the last minute exceed three times the average of the deque, and
stays hot for five minutes. Instants count nanoseconds.
-/
namespace SolanaArb
open SolanaArb.General

def windowNanos : ℕ := 300000000000
def spikeWindowNanos : ℕ := 60000000000
def spikeMultiplier : ℚ := 3
def hotDurationNanos : ℕ := 300000000000

structure VolumeTracker where
  swaps : AList (fun _ : String => List ℕ)
  hotTokens : LastTimes String

namespace VolumeTracker

def new : VolumeTracker := ⟨∅, ∅⟩

/-- The deque of a token, empty when there is none. -/
def history (v : VolumeTracker) (tokenMint : String) : List ℕ :=
  (v.swaps.lookup tokenMint).getD []

def isHot (v : VolumeTracker) (tokenMint : String) (now : ℕ) : Bool :=
  match v.hotTokens.lookup tokenMint with
  | some flaggedAt => decide (now - flaggedAt < hotDurationNanos)
  | none => false

def recentCount (history : List ℕ) (now : ℕ) : ℕ :=
  (history.filter (fun t => decide (now - t < spikeWindowNanos))).length

/-- The average over the span of the deque, which counts as at least one second. -/
def avgPerMinute (history : List ℕ) (now : ℕ) : ℚ :=
  let windowDuration : ℚ := max ((now - history.headD now : ℕ) / 1000000000) 1
  history.length / windowDuration * 60

def isSpike (history : List ℕ) (now : ℕ) : Bool :=
  decide (avgPerMinute history now * spikeMultiplier < recentCount history now)

/-- The deque of a token after a swap now, without its expired front. -/
def pushed (v : VolumeTracker) (tokenMint : String) (now : ℕ) : List ℕ :=
  expire windowNanos now (v.history tokenMint ++ [now])

def recordSwap (v : VolumeTracker) (tokenMint : String) (now : ℕ) : Bool × VolumeTracker :=
  let history := v.pushed tokenMint now
  let swaps := v.swaps.insert tokenMint history
  if history.length < 5 then (false, { v with swaps })
  else if isSpike history now && !v.isHot tokenMint now then
    (true, ⟨swaps, v.hotTokens.insert tokenMint now⟩)
  else (false, { v with swaps })

/-- A deque without fresh entries is removed. -/
def pruned (now : ℕ) (history : List ℕ) : Option (List ℕ) :=
  let fresh := expire windowNanos now history
  if fresh.isEmpty then none else some fresh

def cleanup (v : VolumeTracker) (now : ℕ) : VolumeTracker where
  swaps := updateAll v.swaps (pruned now)
  hotTokens := v.hotTokens.retain (fun t => decide (now - t < hotDurationNanos))

section Calls
variable {v : VolumeTracker} {tokenMint : String} {now : ℕ}

/-- What a recorded swap leaves: a new deque of its token, and an alert only where the
token is not hot. -/
theorem recordSwap_cases :
    v.recordSwap tokenMint now =
      (false, ⟨v.swaps.insert tokenMint (v.pushed tokenMint now), v.hotTokens⟩) ∨
    v.isHot tokenMint now = false ∧ v.recordSwap tokenMint now =
      (true, ⟨v.swaps.insert tokenMint (v.pushed tokenMint now),
        v.hotTokens.insert tokenMint now⟩) := by
  unfold recordSwap
  dsimp only
  split
  · exact Or.inl rfl
  · split
    · next hspike =>
      rw [Bool.and_eq_true, Bool.not_eq_true'] at hspike
      exact Or.inr ⟨hspike.2, rfl⟩
    · exact Or.inl rfl

theorem recordSwap_swaps : (v.recordSwap tokenMint now).2.swaps =
    v.swaps.insert tokenMint (v.pushed tokenMint now) := by
  rcases @recordSwap_cases v tokenMint now with heq | ⟨_, heq⟩
  · rw [heq]
  · rw [heq]

theorem recordSwap_history :
    (v.recordSwap tokenMint now).2.history tokenMint = v.pushed tokenMint now := by
  rw [history, recordSwap_swaps, AList.lookup_insert, Option.getD_some]

theorem recordSwap_history_ne {other : String} (hne : other ≠ tokenMint) :
    (v.recordSwap tokenMint now).2.history other = v.history other := by
  rw [history, recordSwap_swaps, AList.lookup_insert_ne hne, history]

theorem cleanup_history (v : VolumeTracker) (tokenMint : String) (now : ℕ) :
    (v.cleanup now).history tokenMint = expire windowNanos now (v.history tokenMint) := by
  unfold cleanup history
  rw [lookup_updateAll]
  cases v.swaps.lookup tokenMint with
  | none => rfl
  | some deque =>
    rw [Option.bind_some, Option.getD_some, pruned]
    by_cases hempty : (expire windowNanos now deque).isEmpty
    · rw [if_pos hempty, List.isEmpty_iff.mp hempty]
      rfl
    · rw [if_neg hempty]
      rfl

theorem isHot_eq_false :
    v.isHot tokenMint now = false ↔ letsThrough hotDurationNanos v.hotTokens now tokenMint = true := by
  unfold isHot letsThrough
  cases v.hotTokens.lookup tokenMint with
  | none => simp
  | some flaggedAt => rw [decide_eq_false_iff_not, not_lt, decide_eq_true_eq]

end Calls
end VolumeTracker

inductive VolumeCall
  | recordSwap (tokenMint : String)
  | cleanup
  deriving DecidableEq, Repr

/-- A call and the time since the one before it. -/
structure TimedCall where
  elapsed : ℕ
  call : VolumeCall
  deriving DecidableEq, Repr

structure VolumeSession where
  tracker : VolumeTracker
  now : ℕ
  /-- Not in the program: the swaps recorded, oldest first. -/
  recorded : List (ℕ × String)
  /-- Not in the program: the calls that returned true, newest first. -/
  alerts : List (ℕ × String)

namespace VolumeSession
open VolumeTracker

def opened : VolumeSession := ⟨VolumeTracker.new, 0, [], []⟩

def next (s : VolumeSession) (c : TimedCall) : VolumeSession :=
  let now := s.now + c.elapsed
  match c.call with
  | .recordSwap tokenMint =>
    let (alert, tracker) := s.tracker.recordSwap tokenMint now
    { tracker
      now
      recorded := s.recorded ++ [(now, tokenMint)]
      alerts := if alert then (now, tokenMint) :: s.alerts else s.alerts }
  | .cleanup => { s with tracker := s.tracker.cleanup now, now }

/-- When the swaps of a token were recorded. -/
def times (s : VolumeSession) (tokenMint : String) : List ℕ :=
  (s.recorded.filter (fun r => r.2 = tokenMint)).map Prod.fst

end VolumeSession

def tracked (es : List TimedCall) : VolumeSession := es.foldl VolumeSession.next VolumeSession.opened

theorem tracked_snoc (es : List TimedCall) (c : TimedCall) :
    tracked (es ++ [c]) = (tracked es).next c := by
  simp [tracked]

namespace VolumeSession
open VolumeTracker

/-- The deques hold the ends of the logs, the flags what they must of the alerts. -/
structure Sound (s : VolumeSession) : Prop where
  deques : ∀ tokenMint, Covers windowNanos s.now (s.times tokenMint) (s.tracker.history tokenMint)
  flags : Remembers hotDurationNanos s.alerts s.now s.tracker.hotTokens
  spaced : s.alerts.Pairwise (fun newer older => newer.2 = older.2 →
    older.1 + hotDurationNanos ≤ newer.1)

section Steps
variable {s : VolumeSession} {tokenMint : String} {elapsed : ℕ}

@[simp] theorem next_recordSwap_tracker : (s.next ⟨elapsed, .recordSwap tokenMint⟩).tracker =
    (s.tracker.recordSwap tokenMint (s.now + elapsed)).2 := rfl

@[simp] theorem next_cleanup_tracker : (s.next ⟨elapsed, .cleanup⟩).tracker =
    s.tracker.cleanup (s.now + elapsed) := rfl

theorem times_recordSwap : (s.next ⟨elapsed, .recordSwap tokenMint⟩).times tokenMint =
    s.times tokenMint ++ [s.now + elapsed] := by
  simp [next, times]

theorem times_recordSwap_ne {other : String} (hne : other ≠ tokenMint) :
    (s.next ⟨elapsed, .recordSwap tokenMint⟩).times other = s.times other := by
  simp [next, times, Ne.symm hne]

theorem opened_sound : opened.Sound where
  deques _ := covers_nil windowNanos 0
  flags := remembers_empty hotDurationNanos 0
  spaced := List.Pairwise.nil

theorem Sound.recordSwap (h : s.Sound) : (s.next ⟨elapsed, .recordSwap tokenMint⟩).Sound := by
  have hflags := h.flags.later (Nat.le_add_right s.now elapsed)
  constructor
  · intro other
    have hlater := (h.deques other).later (Nat.le_add_right s.now elapsed)
    by_cases hother : other = tokenMint
    · subst hother
      rw [times_recordSwap, next_recordSwap_tracker, recordSwap_history]
      exact hlater.push.expire
    · rw [times_recordSwap_ne hother, next_recordSwap_tracker, recordSwap_history_ne hother]
      exact hlater
  · unfold next
    rcases @recordSwap_cases s.tracker tokenMint (s.now + elapsed) with heq | ⟨_, heq⟩
    · simp only [heq]
      exact hflags
    · simp only [heq]
      exact hflags.insert tokenMint
  · unfold next
    rcases @recordSwap_cases s.tracker tokenMint (s.now + elapsed) with heq | ⟨hcold, heq⟩
    · simp only [heq]
      exact h.spaced
    · simp only [heq]
      exact hflags.spaced le_rfl (by decide) (isHot_eq_false.mp hcold) h.spaced

theorem Sound.cleanup (h : s.Sound) : (s.next ⟨elapsed, .cleanup⟩).Sound := by
  constructor
  · intro tokenMint
    rw [next_cleanup_tracker, cleanup_history]
    exact ((h.deques tokenMint).later (Nat.le_add_right s.now elapsed)).expire
  · change Remembers hotDurationNanos s.alerts (s.now + elapsed)
      (s.tracker.hotTokens.retain (fun t => decide (s.now + elapsed - t < hotDurationNanos)))
    apply (h.flags.later (Nat.le_add_right s.now elapsed)).retain
    intro t hkeep
    exact Nat.le_of_not_lt (of_decide_eq_false hkeep)
  · exact h.spaced

theorem Sound.next (h : s.Sound) (c : TimedCall) : (s.next c).Sound := by
  obtain ⟨elapsed, call⟩ := c
  cases call with
  | recordSwap tokenMint => exact h.recordSwap
  | cleanup => exact h.cleanup

end Steps
end VolumeSession

theorem tracked_sound (es : List TimedCall) : (tracked es).Sound := by
  induction es using List.reverseRecOn with
  | nil => exact VolumeSession.opened_sound
  | append_singleton es c ih =>
    rw [tracked_snoc]
    exact ih.next c

/-- The deque after a swap now holds the swaps of the last five minutes and this one. -/
theorem VolumeSession.Sound.pushed_eq {s : VolumeSession} (h : s.Sound) (tokenMint : String)
    (elapsed : ℕ) :
    s.tracker.pushed tokenMint (s.now + elapsed) =
      (s.times tokenMint).filter (fun t => decide (s.now + elapsed - t ≤ windowNanos)) ++
        [s.now + elapsed] := by
  have hpush := ((h.deques tokenMint).later (Nat.le_add_right s.now elapsed)).push
  have hexpired := hpush.expire_eq
  have hnow : decide (s.now + elapsed - (s.now + elapsed) ≤ windowNanos) = true := by simp
  rw [List.filter_append, List.filter_singleton, hnow] at hexpired
  exact hexpired

/-- Right after a swap is recorded the deque of its token holds exactly the swaps of the
last five minutes, in order, and the two counts are those of the log; two alerts of one
token are at least five minutes apart. -/
theorem volume_window_exact (es : List TimedCall) :
    (∀ elapsed tokenMint,
      let now := (tracked es).now + elapsed
      let earlier := (tracked es).times tokenMint
      let history := (tracked (es ++ [⟨elapsed, .recordSwap tokenMint⟩])).tracker.history tokenMint
      history = earlier.filter (fun t => decide (now - t ≤ windowNanos)) ++ [now] ∧
      history.length = (earlier.filter (fun t => decide (now - t ≤ windowNanos))).length + 1 ∧
      VolumeTracker.recentCount history now =
        (earlier.filter (fun t => decide (now - t < spikeWindowNanos))).length + 1) ∧
    (tracked es).alerts.Pairwise (fun newer older => newer.2 = older.2 →
      older.1 + hotDurationNanos ≤ newer.1) := by
  refine ⟨?_, (tracked_sound es).spaced⟩
  intro elapsed tokenMint now earlier history
  have hhistory : history = earlier.filter (fun t => decide (now - t ≤ windowNanos)) ++ [now] := by
    have hpushed : history = (tracked es).tracker.pushed tokenMint now := by
      simp only [history, tracked_snoc, VolumeSession.next_recordSwap_tracker,
        VolumeTracker.recordSwap_history]
      rfl
    rw [hpushed]
    exact (tracked_sound es).pushed_eq tokenMint elapsed
  have hshort : spikeWindowNanos ≤ windowNanos := by decide
  have hrecent : decide (now - now < spikeWindowNanos) = true := by
    rw [Nat.sub_self]
    decide
  refine ⟨hhistory, ?_, ?_⟩
  · rw [hhistory, List.length_append, List.length_singleton]
  · rw [hhistory, VolumeTracker.recentCount, List.filter_append, filter_fresh hshort,
      List.length_append, List.filter_singleton, hrecent]
    rfl

end SolanaArb
