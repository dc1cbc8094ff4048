import SolanaArb.Detect.VolumeTracker
import Mathlib.Data.Finset.Dedup

/-! # Cleanup of the volume tracker

A tracker answers three calls: whether a recorded swap raises an alert, whether a token
is hot, and which tokens are. Cleanup forgets only what no later answer depends on, so
two runs of one sequence of calls that differ in their cleanups answer alike.
-/
namespace SolanaArb
open SolanaArb.General

inductive TrackerCall
  | recordSwap (tokenMint : String)
  | isHot (tokenMint : String)
  | hotTokens
  | cleanup
  deriving DecidableEq, Repr

inductive TrackerAnswer
  | alert (raised : Bool)
  | hot (flagged : Bool)
  | tokens (mints : Finset String)
  deriving DecidableEq

namespace VolumeTracker

/-- The tokens flagged within the last five minutes, in the order of the table. -/
def currentlyHot (v : VolumeTracker) (now : ℕ) : List String :=
  (v.hotTokens.entries.filter (fun entry => decide (now - entry.2 < hotDurationNanos))).map
    Sigma.fst

theorem mem_currentlyHot {v : VolumeTracker} {now : ℕ} {tokenMint : String} :
    tokenMint ∈ v.currentlyHot now ↔ v.isHot tokenMint now = true := by
  have hentry : tokenMint ∈ v.currentlyHot now ↔
      ∃ flaggedAt, v.hotTokens.lookup tokenMint = some flaggedAt ∧
        now - flaggedAt < hotDurationNanos := by
    simp only [currentlyHot, List.mem_map, List.mem_filter, decide_eq_true_eq,
      ← Option.mem_def, AList.mem_lookup_iff]
    constructor
    · rintro ⟨⟨mint, flaggedAt⟩, hmem, rfl⟩
      exact ⟨flaggedAt, hmem⟩
    · rintro ⟨flaggedAt, hmem⟩
      exact ⟨⟨tokenMint, flaggedAt⟩, hmem, rfl⟩
  rw [hentry, isHot]
  cases v.hotTokens.lookup tokenMint with
  | none => simp
  | some flaggedAt => simp

/-- One call at one reading of the clock. A cleanup answers nothing. -/
def call (v : VolumeTracker) (now : ℕ) : TrackerCall → Option TrackerAnswer × VolumeTracker
  | .recordSwap tokenMint =>
    let (raised, v') := v.recordSwap tokenMint now
    (some (.alert raised), v')
  | .isHot tokenMint => (some (.hot (v.isHot tokenMint now)), v)
  | .hotTokens => (some (.tokens (v.currentlyHot now).toFinset), v)
  | .cleanup => (none, v.cleanup now)

/-- The answers to a sequence of calls, each at its own time. -/
def answers (v : VolumeTracker) : List (ℕ × TrackerCall) → List TrackerAnswer
  | [] => []
  | (now, c) :: rest => (v.call now c).1.toList ++ (v.call now c).2.answers rest

/-- One tracker has thrown away more than another, all of it expired. -/
structure Simulates (clock : ℕ) (full kept : VolumeTracker) : Prop where
  deques : ∀ tokenMint, Trails windowNanos clock (full.history tokenMint) (kept.history tokenMint)
  flags : Forgets hotDurationNanos clock full.hotTokens kept.hotTokens

variable {clock now : ℕ} {full kept : VolumeTracker} {tokenMint : String}

theorem simulates_refl (clock : ℕ) (v : VolumeTracker) : Simulates clock v v :=
  ⟨fun _ => trails_refl windowNanos clock _, forgets_refl hotDurationNanos clock _⟩

theorem Simulates.later (h : Simulates clock full kept) (hle : clock ≤ now) :
    Simulates now full kept :=
  ⟨fun tokenMint => (h.deques tokenMint).later hle, h.flags.later hle⟩

theorem Simulates.isHot_eq (h : Simulates clock full kept) (tokenMint : String) :
    full.isHot tokenMint clock = kept.isHot tokenMint clock := by
  have hpass := h.flags.letsThrough_eq le_rfl tokenMint
  rw [Bool.eq_iff_iff, ← not_iff_not, Bool.not_eq_true, Bool.not_eq_true, isHot_eq_false,
    isHot_eq_false, hpass]

theorem Simulates.currentlyHot_eq (h : Simulates clock full kept) :
    (full.currentlyHot clock).toFinset = (kept.currentlyHot clock).toFinset := by
  ext tokenMint
  rw [List.mem_toFinset, List.mem_toFinset, mem_currentlyHot, mem_currentlyHot,
    h.isHot_eq tokenMint]

theorem Simulates.pushed_eq (h : Simulates clock full kept) (tokenMint : String) :
    full.pushed tokenMint clock = kept.pushed tokenMint clock :=
  (h.deques tokenMint).expire_append [clock]

/-- The new deques are equal, so the two swaps raise alike. -/
theorem Simulates.recordSwap (h : Simulates clock full kept) (tokenMint : String) :
    (full.recordSwap tokenMint clock).1 = (kept.recordSwap tokenMint clock).1 ∧
    Simulates clock (full.recordSwap tokenMint clock).2 (kept.recordSwap tokenMint clock).2 := by
  have hraised : (full.recordSwap tokenMint clock).1 = (kept.recordSwap tokenMint clock).1 := by
    unfold VolumeTracker.recordSwap
    rw [h.pushed_eq tokenMint, h.isHot_eq tokenMint]
    dsimp only
    split
    · rfl
    · split
      · rfl
      · rfl
  refine ⟨hraised, ?_, ?_⟩
  · intro other
    by_cases hother : other = tokenMint
    · subst hother
      rw [recordSwap_history, recordSwap_history, h.pushed_eq other]
      exact trails_refl _ _ _
    · rw [recordSwap_history_ne hother, recordSwap_history_ne hother]
      exact h.deques other
  · rcases @recordSwap_cases full tokenMint clock with hfull | ⟨_, hfull⟩
    · rcases @recordSwap_cases kept tokenMint clock with hkept | ⟨_, hkept⟩
      · rw [hfull, hkept]
        exact h.flags
      · rw [hfull, hkept] at hraised
        cases hraised
    · rcases @recordSwap_cases kept tokenMint clock with hkept | ⟨_, hkept⟩
      · rw [hfull, hkept] at hraised
        cases hraised
      · rw [hfull, hkept]
        exact h.flags.insert tokenMint clock

theorem Simulates.cleanup (h : Simulates clock full kept) :
    Simulates clock full (kept.cleanup clock) := by
  constructor
  · intro tokenMint
    rw [cleanup_history]
    exact (h.deques tokenMint).expire
  · change Forgets hotDurationNanos clock full.hotTokens
      (kept.hotTokens.retain (fun t => decide (clock - t < hotDurationNanos)))
    apply h.flags.retain
    intro t hkeep
    exact Nat.le_of_not_lt (of_decide_eq_false hkeep)

/-- A call other than a cleanup answers alike on both trackers. -/
theorem Simulates.call (h : Simulates clock full kept) {c : TrackerCall} (hc : c ≠ .cleanup) :
    (full.call clock c).1 = (kept.call clock c).1 ∧
    Simulates clock (full.call clock c).2 (kept.call clock c).2 := by
  cases c with
  | recordSwap tokenMint =>
    obtain ⟨hraised, hnext⟩ := h.recordSwap tokenMint
    refine ⟨?_, hnext⟩
    simp only [VolumeTracker.call, hraised]
  | isHot tokenMint =>
    refine ⟨?_, h⟩
    simp only [VolumeTracker.call, h.isHot_eq tokenMint]
  | hotTokens =>
    refine ⟨?_, h⟩
    simp only [VolumeTracker.call, h.currentlyHot_eq]
  | cleanup => exact absurd rfl hc

def withoutCleanup (es : List (ℕ × TrackerCall)) : List (ℕ × TrackerCall) :=
  es.filter (fun e => decide (e.2 ≠ .cleanup))

/-- Induction on the calls: a cleanup moves only the tracker that runs it, any other call
both. -/
theorem answers_withoutCleanup (es : List (ℕ × TrackerCall)) :
    ∀ {clock : ℕ} {full kept : VolumeTracker}, Simulates clock full kept →
      (∀ e ∈ es, clock ≤ e.1) → (es.map Prod.fst).Pairwise (· ≤ ·) →
      kept.answers es = full.answers (withoutCleanup es) := by
  induction es with
  | nil =>
    intro clock full kept _ _ _
    rfl
  | cons e rest ih =>
    intro clock full kept h hclock hordered
    obtain ⟨now, c⟩ := e
    obtain ⟨hfirst, hrest⟩ := List.pairwise_cons.mp hordered
    have hnow : ∀ e ∈ rest, now ≤ e.1 := fun e he => hfirst e.1 (List.mem_map_of_mem he)
    have hlater := h.later (hclock (now, c) List.mem_cons_self)
    by_cases hc : c = .cleanup
    · subst hc
      have hskip : withoutCleanup ((now, .cleanup) :: rest) = withoutCleanup rest :=
        List.filter_cons_of_neg (by simp)
      rw [hskip, answers, ← ih hlater.cleanup hnow hrest]
      rfl
    · have hkeep : withoutCleanup ((now, c) :: rest) = (now, c) :: withoutCleanup rest :=
        List.filter_cons_of_pos (decide_eq_true hc)
      obtain ⟨hanswer, hnext⟩ := hlater.call hc
      rw [hkeep, answers, answers, ih hnext hnow hrest, hanswer]

end VolumeTracker

/-- Whatever tracker the calls start from, inserting cleanups anywhere between them
changes no answer: not the alerts, not the flags, not the set of hot tokens. -/
theorem cleanup_invisible (v : VolumeTracker) (es : List (ℕ × TrackerCall))
    (hordered : (es.map Prod.fst).Pairwise (· ≤ ·)) :
    v.answers es = v.answers (VolumeTracker.withoutCleanup es) := by
  cases es with
  | nil => rfl
  | cons e rest =>
    refine VolumeTracker.answers_withoutCleanup _ (VolumeTracker.simulates_refl e.1 v) ?_ hordered
    intro e' he'
    rcases List.mem_cons.mp he' with rfl | hrest
    · exact le_rfl
    · exact (List.pairwise_cons.mp hordered).1 e'.1 (List.mem_map_of_mem hrest)

theorem cleanup_invisible_swap :
    VolumeTracker.new.answers [(0, .recordSwap "A"), (400000000000, .cleanup),
        (400000000000, .recordSwap "A"), (400000000001, .isHot "A")] =
      VolumeTracker.new.answers [(0, .recordSwap "A"), (400000000000, .recordSwap "A"),
        (400000000001, .isHot "A")] :=
  cleanup_invisible VolumeTracker.new _ (by decide)

end SolanaArb
