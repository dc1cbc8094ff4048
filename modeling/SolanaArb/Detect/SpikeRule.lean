import SolanaArb.Detect.VolumeTracker
import Mathlib.Tactic.Linarith
import Mathlib.Tactic.NormNum
import Mathlib.Tactic.Ring

/-! # The spike rule against its documentation

A token is documented to be hot when its swaps of the last minute exceed three times the
per-minute average of the last five. The average divides by the age of the oldest swap
still in the window, not by the window, so a young token needs more; a token whose
window is under three minutes old is never flagged.
-/
namespace SolanaArb
open SolanaArb.General VolumeTracker

/-- The swaps of the last five minutes at `now`, the one recorded now included. -/
def swapsInWindow (earlier : List ℕ) (now : ℕ) : List ℕ :=
  earlier.filter (fun t => decide (now - t ≤ windowNanos)) ++ [now]

/-- The swaps of the last sixty seconds, the one recorded now included. -/
def swapsLastMinute (earlier : List ℕ) (now : ℕ) : List ℕ :=
  earlier.filter (fun t => decide (now - t < spikeWindowNanos)) ++ [now]

/-- More swaps in the last minute than three times the average minute of the window. -/
def DocumentedSpike (earlier : List ℕ) (now : ℕ) : Prop :=
  3 * ((swapsInWindow earlier now).length / 5 : ℚ) < (swapsLastMinute earlier now).length

/-- Seconds since the oldest swap of the window, at least one. -/
def oldestAge (earlier : List ℕ) (now : ℕ) : ℚ :=
  max (((now - (swapsInWindow earlier now).headD now : ℕ) : ℚ) / 1000000000) 1

/-- The last minute's share of the swaps in the window is at most three fifths, or above
three minutes over the age of the oldest of them. -/
def SpikeRulesAgree (earlier : List ℕ) (now : ℕ) : Prop :=
  5 * ((swapsLastMinute earlier now).length : ℚ) ≤ 3 * (swapsInWindow earlier now).length ∨
    180 * ((swapsInWindow earlier now).length : ℚ) <
      (swapsLastMinute earlier now).length * oldestAge earlier now

instance (earlier : List ℕ) (now : ℕ) : Decidable (DocumentedSpike earlier now) :=
  inferInstanceAs (Decidable (_ < _))

instance (earlier : List ℕ) (now : ℕ) : Decidable (SpikeRulesAgree earlier now) :=
  inferInstanceAs (Decidable (_ ∨ _))

variable {earlier : List ℕ} {now : ℕ}

theorem recentCount_swapsInWindow (earlier : List ℕ) (now : ℕ) :
    recentCount (swapsInWindow earlier now) now = (swapsLastMinute earlier now).length := by
  have hshort : spikeWindowNanos ≤ windowNanos := by decide
  have hnow : decide (now - now < spikeWindowNanos) = true := by
    rw [Nat.sub_self]
    decide
  rw [recentCount, swapsInWindow, List.filter_append, filter_fresh hshort, List.filter_singleton,
    hnow]
  rfl

theorem one_le_oldestAge (earlier : List ℕ) (now : ℕ) : 1 ≤ oldestAge earlier now :=
  le_max_right _ _

/-- No swap of the window is older than five minutes. -/
theorem oldestAge_le (earlier : List ℕ) (now : ℕ) : oldestAge earlier now ≤ 300 := by
  have hhead : now - (swapsInWindow earlier now).headD now ≤ windowNanos := by
    unfold swapsInWindow
    cases hfresh : earlier.filter (fun t => decide (now - t ≤ windowNanos)) with
    | nil => simp
    | cons t rest =>
      have hmem : t ∈ earlier.filter (fun t => decide (now - t ≤ windowNanos)) := by
        rw [hfresh]
        exact List.mem_cons_self
      exact of_decide_eq_true (List.mem_filter.mp hmem).2
  have hcast : ((now - (swapsInWindow earlier now).headD now : ℕ) : ℚ) ≤ 300000000000 := by
    exact_mod_cast hhead
  refine max_le ?_ (by norm_num)
  rw [div_le_iff₀ (by norm_num)]
  linarith

/-- The test of the code, its division cleared. -/
theorem isSpike_iff : isSpike (swapsInWindow earlier now) now = true ↔
    180 * ((swapsInWindow earlier now).length : ℚ) <
      (swapsLastMinute earlier now).length * oldestAge earlier now := by
  have hpos : 0 < oldestAge earlier now := lt_of_lt_of_le one_pos (one_le_oldestAge earlier now)
  have havg : avgPerMinute (swapsInWindow earlier now) now * spikeMultiplier =
      180 * (swapsInWindow earlier now).length / oldestAge earlier now := by
    change ((swapsInWindow earlier now).length : ℚ) / oldestAge earlier now * 60 * 3 = _
    ring
  rw [isSpike, decide_eq_true_eq, recentCount_swapsInWindow, havg, div_lt_iff₀ hpos]

/-- The code never flags a burst the documentation does not. -/
theorem documentedSpike_of_isSpike (h : isSpike (swapsInWindow earlier now) now = true) :
    DocumentedSpike earlier now := by
  have hlt := isSpike_iff.mp h
  have hage : ((swapsLastMinute earlier now).length : ℚ) * oldestAge earlier now ≤
      (swapsLastMinute earlier now).length * 300 :=
    mul_le_mul_of_nonneg_left (oldestAge_le earlier now) (Nat.cast_nonneg _)
  unfold DocumentedSpike
  linarith

theorem spikeRulesAgree_iff : SpikeRulesAgree earlier now ↔
    (isSpike (swapsInWindow earlier now) now = true ↔ DocumentedSpike earlier now) := by
  have hdoc : ¬ DocumentedSpike earlier now ↔ 5 * ((swapsLastMinute earlier now).length : ℚ) ≤
      3 * (swapsInWindow earlier now).length := by
    unfold DocumentedSpike
    rw [not_lt]
    constructor
    · intro h
      linarith
    · intro h
      linarith
  unfold SpikeRulesAgree
  rw [← hdoc, ← isSpike_iff]
  constructor
  · rintro (hquiet | hspike)
    · exact ⟨fun h => documentedSpike_of_isSpike h, fun h => absurd h hquiet⟩
    · exact ⟨fun _ => documentedSpike_of_isSpike hspike, fun _ => hspike⟩
  · intro hiff
    by_cases h : DocumentedSpike earlier now
    · exact Or.inr (hiff.mpr h)
    · exact Or.inl h

/-- No burst of a token whose oldest swap in the window is at most three minutes old is
ever flagged. -/
theorem isSpike_young (hyoung : oldestAge earlier now ≤ 180) :
    isSpike (swapsInWindow earlier now) now = false := by
  have hrecent : (swapsLastMinute earlier now).length ≤ (swapsInWindow earlier now).length := by
    rw [← recentCount_swapsInWindow]
    exact List.length_filter_le _ _
  have hcast : ((swapsLastMinute earlier now).length : ℚ) ≤ (swapsInWindow earlier now).length := by
    exact_mod_cast hrecent
  have hage : ((swapsLastMinute earlier now).length : ℚ) * oldestAge earlier now ≤
      (swapsLastMinute earlier now).length * 180 :=
    mul_le_mul_of_nonneg_left hyoung (Nat.cast_nonneg _)
  rw [← Bool.not_eq_true, isSpike_iff]
  linarith

/-- What a swap of a token that is not hot answers. -/
theorem recordSwap_alert {v : VolumeTracker} {tokenMint : String}
    (hlen : 5 ≤ (v.pushed tokenMint now).length) (hcold : v.isHot tokenMint now = false) :
    (v.recordSwap tokenMint now).1 = isSpike (v.pushed tokenMint now) now := by
  unfold recordSwap
  dsimp only
  rw [if_neg (Nat.not_lt.mpr hlen), hcold]
  cases isSpike (v.pushed tokenMint now) now with
  | true => rfl
  | false => rfl

/-- After any run, a swap that leaves five in the window of a token not yet hot is
answered by the documented rule exactly when the last minute's share of the window is at
most three fifths, or above three minutes over the age of the window's oldest swap. -/
theorem spike_rule_iff (es : List TimedCall) (elapsed : ℕ) (tokenMint : String)
    (hlen : 5 ≤ (swapsInWindow ((tracked es).times tokenMint) ((tracked es).now + elapsed)).length)
    (hcold : (tracked es).tracker.isHot tokenMint ((tracked es).now + elapsed) = false) :
    (((tracked es).tracker.recordSwap tokenMint ((tracked es).now + elapsed)).1 = true ↔
        DocumentedSpike ((tracked es).times tokenMint) ((tracked es).now + elapsed)) ↔
      SpikeRulesAgree ((tracked es).times tokenMint) ((tracked es).now + elapsed) := by
  have hpushed : (tracked es).tracker.pushed tokenMint ((tracked es).now + elapsed) =
      swapsInWindow ((tracked es).times tokenMint) ((tracked es).now + elapsed) :=
    (tracked_sound es).pushed_eq tokenMint elapsed
  rw [recordSwap_alert (by rwa [hpushed]) hcold, hpushed, spikeRulesAgree_iff]

/-- Four swaps of one token, a second apart. -/
def fourSwaps : List TimedCall := List.replicate 4 ⟨1000000000, .recordSwap "A"⟩

/-- Four swaps just after the session opened, then six from 290 s later. -/
def lateBurst : List TimedCall :=
  fourSwaps ++ ⟨290000000000, .recordSwap "A"⟩ :: List.replicate 5 ⟨1000000000, .recordSwap "A"⟩

theorem spike_rule_iff_lateBurst :
    ((tracked lateBurst).tracker.recordSwap "A" ((tracked lateBurst).now + 1000000000)).1 = true ↔
      DocumentedSpike ((tracked lateBurst).times "A") ((tracked lateBurst).now + 1000000000) :=
  (spike_rule_iff lateBurst 1000000000 "A" (by decide +kernel) (by decide +kernel)).mpr
    (by decide +kernel)

/-- The fifth swap of a new token within four seconds: five in the last minute against
an average of one a minute over five, and no alert. -/
theorem spike_rule_young_token :
    5 ≤ (swapsInWindow ((tracked fourSwaps).times "A")
      ((tracked fourSwaps).now + 1000000000)).length ∧
    (tracked fourSwaps).tracker.isHot "A" ((tracked fourSwaps).now + 1000000000) = false ∧
    DocumentedSpike ((tracked fourSwaps).times "A") ((tracked fourSwaps).now + 1000000000) ∧
    ((tracked fourSwaps).tracker.recordSwap "A" ((tracked fourSwaps).now + 1000000000)).1 =
      false := by decide +kernel

end SolanaArb
