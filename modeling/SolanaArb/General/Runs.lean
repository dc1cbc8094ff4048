import Mathlib.Order.Basic
import Mathlib.Data.List.Basic
import Mathlib.Data.List.Induction

/-! # Finite runs of a labelled step relation

A run carries the labels it has consumed, oldest first, so an invariant may speak
about the state and about the whole history that led to it.
-/
namespace SolanaArb.General
variable {σ ε : Type*}

/-- The states reachable from `init` together with the labels consumed. -/
inductive Run (step : σ → ε → σ → Prop) (init : σ) : List ε → σ → Prop
  | nil : Run step init [] init
  | snoc {es : List ε} {s : σ} {e : ε} {t : σ} :
      Run step init es s → step s e t → Run step init (es ++ [e]) t

variable {step : σ → ε → σ → Prop} {init : σ}

theorem Run.invariant (I : List ε → σ → Prop) (hinit : I [] init)
    (hstep : ∀ es s e t, Run step init es s → I es s → step s e t → I (es ++ [e]) t)
    {es : List ε} {s : σ} (hr : Run step init es s) : I es s := by
  induction hr with
  | nil => exact hinit
  | snoc hr he ih => exact hstep _ _ _ _ hr ih he

theorem Run.imp {step' : σ → ε → σ → Prop} (h : ∀ s e t, step s e t → step' s e t) {es : List ε}
    {s : σ} (hr : Run step init es s) : Run step' init es s := by
  induction hr with
  | nil => exact Run.nil
  | snoc _ he ih => exact ih.snoc (h _ _ _ he)

theorem Run.trans {es es' : List ε} {s t : σ} (hr : Run step init es s) (hr' : Run step s es' t) :
    Run step init (es ++ es') t := by
  induction hr' with
  | nil => rwa [List.append_nil]
  | snoc _ he ih =>
    rw [← List.append_assoc]
    exact ih.snoc he

/-- A deterministic system has one run over any events, the fold of its steps. -/
theorem run_foldl_iff (next : σ → ε → σ) (init : σ) (es : List ε) (s : σ) :
    Run (fun s e t => t = next s e) init es s ↔ s = es.foldl next init := by
  constructor
  · intro hr
    induction hr with
    | nil => rfl
    | snoc hr hstep ih => rw [hstep, ih, List.foldl_append, List.foldl_cons, List.foldl_nil]
  · rintro rfl
    induction es using List.reverseRecOn with
    | nil => exact Run.nil
    | append_singleton es e ih =>
      rw [List.foldl_append, List.foldl_cons, List.foldl_nil]
      exact ih.snoc rfl

/-- A system whose steps may be refused runs through the events that it does not refuse. -/
theorem run_foldlM {next : σ → ε → Option σ} {init s : σ} {es : List ε}
    (h : es.foldlM next init = some s) : Run (fun s e t => next s e = some t) init es s := by
  induction es using List.reverseRecOn generalizing s with
  | nil =>
    obtain rfl := Option.some.inj h
    exact Run.nil
  | append_singleton es e ih =>
    rw [List.foldlM_append] at h
    obtain ⟨before, hbefore, hlast⟩ := Option.bind_eq_some_iff.mp h
    rw [List.foldlM_cons] at hlast
    obtain ⟨t, hstep, ht⟩ := Option.bind_eq_some_iff.mp hlast
    obtain rfl := Option.some.inj ht
    exact (ih hbefore).snoc hstep

/-- If a step keeps `I` exactly when it meets `C`, then every state of a deterministic
run satisfies `I` exactly when all its steps meet `C`. -/
theorem forall_prefix_iff (next : σ → ε → σ) (init : σ) {I : σ → Prop} {C : σ → ε → Prop}
    (hinit : I init) (hstep : ∀ s e, I s → (I (next s e) ↔ C s e)) (es : List ε) :
    (∀ before, before <+: es → I (before.foldl next init)) ↔
      ∀ before e, before ++ [e] <+: es → C (before.foldl next init) e := by
  constructor
  · intro hall before e hprefix
    have hbefore := hall before ((List.prefix_append before [e]).trans hprefix)
    have hafter := hall (before ++ [e]) hprefix
    rw [List.foldl_append, List.foldl_cons, List.foldl_nil] at hafter
    exact (hstep _ e hbefore).mp hafter
  · intro hall before
    induction before using List.reverseRecOn with
    | nil => exact fun _ => hinit
    | append_singleton before e ih =>
      intro hprefix
      have hbefore := ih ((List.prefix_append before [e]).trans hprefix)
      rw [List.foldl_append, List.foldl_cons, List.foldl_nil]
      exact (hstep _ e hbefore).mpr (hall before e hprefix)

/-- Every event is allowed where a deterministic system meets it. -/
def allowedAll (allowed : σ → ε → Bool) (next : σ → ε → σ) : σ → List ε → Bool
  | _, [] => true
  | s, e :: es => allowed s e && allowedAll allowed next (next s e) es

/-- A deterministic system runs through any list of allowed events. -/
theorem run_foldl (allowed : σ → ε → Bool) (next : σ → ε → σ) (init : σ) (es : List ε)
    (h : allowedAll allowed next init es = true) :
    Run (fun s e t => allowed s e = true ∧ t = next s e) init es (es.foldl next init) := by
  have hfrom (before : List ε) (s : σ)
      (hr : Run (fun s e t => allowed s e = true ∧ t = next s e) init before s)
      (hall : allowedAll allowed next s es = true) :
      Run (fun s e t => allowed s e = true ∧ t = next s e) init (before ++ es)
        (es.foldl next s) := by
    clear h
    induction es generalizing before s with
    | nil => simpa using hr
    | cons e es ih =>
      simp only [allowedAll, Bool.and_eq_true] at hall
      have htail := ih (before ++ [e]) (next s e) (hr.snoc ⟨hall.1, rfl⟩) hall.2
      simpa using htail
  exact hfrom [] init Run.nil h

end SolanaArb.General
