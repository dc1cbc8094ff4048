import Mathlib.Data.List.Basic
import Mathlib.Data.List.TakeWhile
import Mathlib.Order.Basic

/-! # A rolling window over a log of instants

A window holds the end of the log: the instants it no longer holds are older than a
limit. Instants arrive in order, so those that expire are at the front, and dropping
them there is the same as filtering the whole log.
-/
namespace SolanaArb.General

def expire (limit clock : ℕ) (window : List ℕ) : List ℕ :=
  window.dropWhile (fun t => decide (limit < clock - t))

variable {limit clock now : ℕ} {log full window : List ℕ}

/-- A window that has dropped more of the log than another, all of it expired. -/
def Trails (limit clock : ℕ) (full window : List ℕ) : Prop :=
  ∃ old, full = old ++ window ∧ ∀ t ∈ old, limit < clock - t

theorem trails_refl (limit clock : ℕ) (window : List ℕ) : Trails limit clock window window :=
  ⟨[], rfl, fun _ h => absurd h List.not_mem_nil⟩

theorem Trails.later (h : Trails limit clock full window) (hle : clock ≤ now) :
    Trails limit now full window := by
  obtain ⟨old, hfull, hold⟩ := h
  refine ⟨old, hfull, ?_⟩
  intro t ht
  have hexpired := hold t ht
  omega

theorem Trails.expire (h : Trails limit clock full window) :
    Trails limit clock full (expire limit clock window) := by
  obtain ⟨old, hfull, hold⟩ := h
  refine ⟨old ++ window.takeWhile (fun t => decide (limit < clock - t)), ?_, ?_⟩
  · rw [General.expire, List.append_assoc, List.takeWhile_append_dropWhile]
    exact hfull
  · intro t ht
    rcases List.mem_append.mp ht with ht | ht
    · exact hold t ht
    · have hexpired := List.mem_takeWhile_imp ht
      exact of_decide_eq_true hexpired

/-- What was dropped early expires from the front of the other. -/
theorem Trails.expire_append (h : Trails limit clock full window) (pushed : List ℕ) :
    General.expire limit clock (full ++ pushed) = General.expire limit clock (window ++ pushed) := by
  obtain ⟨old, rfl, hold⟩ := h
  rw [List.append_assoc]
  apply List.dropWhile_append_of_pos
  intro t ht
  exact decide_eq_true (hold t ht)

/-- The window is the end of a log of the past. -/
structure Covers (limit clock : ℕ) (log window : List ℕ) : Prop where
  sorted : log.Pairwise (· ≤ ·)
  past : ∀ t ∈ log, t ≤ clock
  dropped : ∃ old, log = old ++ window ∧ ∀ t ∈ old, limit < clock - t

theorem Covers.trails (h : Covers limit clock log window) : Trails limit clock log window :=
  h.dropped

theorem covers_nil (limit clock : ℕ) : Covers limit clock [] [] :=
  ⟨List.Pairwise.nil, fun _ h => absurd h List.not_mem_nil,
    [], rfl, fun _ h => absurd h List.not_mem_nil⟩

theorem Covers.later (h : Covers limit clock log window) (hle : clock ≤ now) :
    Covers limit now log window :=
  ⟨h.sorted, fun t ht => (h.past t ht).trans hle, h.trails.later hle⟩

theorem Covers.push (h : Covers limit clock log window) :
    Covers limit clock (log ++ [clock]) (window ++ [clock]) := by
  obtain ⟨old, hlog, hold⟩ := h.dropped
  refine ⟨?_, ?_, old, ?_, hold⟩
  · rw [List.pairwise_append]
    refine ⟨h.sorted, List.pairwise_singleton _ _, ?_⟩
    intro t ht last hlast
    rw [List.mem_singleton.mp hlast]
    exact h.past t ht
  · intro t ht
    rcases List.mem_append.mp ht with ht | ht
    · exact h.past t ht
    · exact (List.mem_singleton.mp ht).le
  · rw [hlog, List.append_assoc]

theorem Covers.expire (h : Covers limit clock log window) :
    Covers limit clock log (expire limit clock window) :=
  ⟨h.sorted, h.past, h.trails.expire⟩

theorem expire_eq_filter (hsorted : window.Pairwise (· ≤ ·)) :
    expire limit clock window = window.filter (fun t => decide (clock - t ≤ limit)) := by
  induction window with
  | nil => rfl
  | cons t window ih =>
    obtain ⟨hfirst, htail⟩ := List.pairwise_cons.mp hsorted
    by_cases hexpired : limit < clock - t
    · rw [expire, List.dropWhile_cons_of_pos (by rwa [decide_eq_true_eq]),
        List.filter_cons_of_neg (by rw [decide_eq_true_eq]; omega)]
      exact ih htail
    · rw [expire, List.dropWhile_cons_of_neg (by rwa [decide_eq_true_eq])]
      symm
      apply List.filter_eq_self.mpr
      intro later hlater
      rw [decide_eq_true_eq]
      rcases List.mem_cons.mp hlater with rfl | hlater
      · omega
      · have hle := hfirst later hlater
        omega

/-- The window that expired just now holds exactly the fresh part of the log. -/
theorem Covers.expire_eq (h : Covers limit clock log window) :
    General.expire limit clock window = log.filter (fun t => decide (clock - t ≤ limit)) := by
  obtain ⟨old, hlog, hold⟩ := h.dropped
  have hsorted := h.sorted
  rw [hlog] at hsorted
  have hgone : old.filter (fun t => decide (clock - t ≤ limit)) = [] := by
    apply List.filter_eq_nil_iff.mpr
    intro t ht
    have hexpired := hold t ht
    rw [decide_eq_true_eq]
    omega
  rw [hlog, List.filter_append, hgone, List.nil_append]
  exact expire_eq_filter (List.pairwise_append.mp hsorted).2.1

/-- A shorter limit may be counted in the window as well as in the log. -/
theorem filter_fresh {short : ℕ} (hle : short ≤ limit) :
    (log.filter (fun t => decide (clock - t ≤ limit))).filter
        (fun t => decide (clock - t < short)) =
      log.filter (fun t => decide (clock - t < short)) := by
  rw [List.filter_filter]
  apply List.filter_congr
  intro t _
  by_cases hshort : clock - t < short
  · have hfresh : clock - t ≤ limit := by omega
    rw [decide_eq_true hshort, decide_eq_true hfresh]
    rfl
  · rw [decide_eq_false hshort]
    rfl

end SolanaArb.General
