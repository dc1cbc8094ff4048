import SolanaArb.Cli.ScanCycles
import SolanaArb.Sim.RegistryTasks

/-! # Listed tokens are in the registry

A token of discovery has its pools in the registry before it is listed, and no entry of the
registry is ever taken away. So the scans of discovery never discover pools a second time,
and those of the periodic scanner only for a token of the command line.
-/
namespace SolanaArb.ScanTasks
open SolanaArb.General SolanaArb.LocalScanner SolanaArb.DiscoveryLoop

/-- A scan of the token finds pools in the registry. -/
def Registered (registry : PoolRegistry) (tokenMint : String) : Prop :=
  (registry.lookup tokenMint).getD [] ≠ []

/-- A stage of a scan that has found the token in the registry, if it has looked. -/
def ScanStage.Ready : ScanStage → Prop
  | .looking | .quoting _ => True
  | .rediscovering | .keeping _ => False

def Grows (registry registry' : PoolRegistry) : Prop :=
  ∀ tokenMint, Registered registry tokenMint → Registered registry' tokenMint

section Registry
variable {bs58 : Bytes → String} {costs : CostModel} {registry : PoolRegistry} {o : Observed}
  {tokenMint tokenSymbol : String} {pools : List KnownPool}

theorem registered_registerPools (hne : pools ≠ []) :
    Registered (registerPools registry tokenMint pools) tokenMint := by
  rw [Registered, RegistryTasks.registerPools_lookup hne]
  exact hne

theorem grows_registerPools (registry : PoolRegistry) (tokenMint : String)
    (pools : List KnownPool) : Grows registry (registerPools registry tokenMint pools) := by
  intro other h
  by_cases hempty : pools = []
  · subst hempty
    exact h
  · by_cases hsame : other = tokenMint
    · subst hsame
      exact registered_registerPools hempty
    · rw [Registered, RegistryTasks.registerPools_lookup_ne hsame]
      exact h

variable (bs58 costs registry o tokenMint tokenSymbol) in
theorem ScanStage.grows (stage : ScanStage) :
    Grows registry (stage.next bs58 costs registry o tokenMint tokenSymbol).2 := by
  cases stage with
  | looking =>
    simp only [ScanStage.next]
    split
    · exact fun _ h => h
    · exact fun _ h => h
  | rediscovering =>
    simp only [ScanStage.next]
    split
    · exact fun _ h => h
    · exact fun _ h => h
  | keeping pools => exact grows_registerPools registry tokenMint pools
  | quoting pools => exact fun _ h => h

/-- The scan of a registered token does not discover its pools. -/
theorem ScanStage.Ready.next {stage stage' : ScanStage} (hready : stage.Ready)
    (hregistered : Registered registry tokenMint)
    (h : (stage.next bs58 costs registry o tokenMint tokenSymbol).1 = .going stage') :
    stage'.Ready := by
  cases stage with
  | looking =>
    simp only [ScanStage.next] at h
    split at h
    · obtain rfl := Progress.going.inj h
      exact trivial
    · next hnone => exact absurd hnone hregistered
  | rediscovering | keeping pools => exact hready.elim
  | quoting pools => cases h

/-- A scan that goes on to discover pools has not found the token. -/
theorem ScanStage.asks_next {stage stage' : ScanStage}
    (h : (stage.next bs58 costs registry o tokenMint tokenSymbol).1 = .going stage')
    (hasks : stage'.asks = true) : ¬ Registered registry tokenMint := by
  cases stage with
  | looking =>
    simp only [ScanStage.next] at h
    split at h
    · obtain rfl := Progress.going.inj h
      cases hasks
    · next hnone => exact fun hregistered => hregistered hnone
  | rediscovering =>
    simp only [ScanStage.next] at h
    split at h
    · obtain rfl := Progress.going.inj h
      cases hasks
    · cases h
  | keeping pools =>
    obtain rfl := Progress.going.inj h
    cases hasks
  | quoting pools => cases h

end Registry

/-- The tokens that a cycle has still to scan. -/
def ScannerPhase.left : ScannerPhase → List (String × String)
  | .scanning token _ rest => token :: rest
  | .storing _ rest => rest
  | _ => []

/-- The token that the scanner is about to discover the pools of. -/
def ScannerPhase.asking : ScannerPhase → List String
  | .scanning token stage _ => if stage.asks then [token.1] else []
  | _ => []

/-- What the registry holds of the token in hand. -/
def DiscoveryPhase.Ready (registry : PoolRegistry) : DiscoveryPhase → Prop
  | .passing _ _ (.listing token) => Registered registry token.mint
  | .passing _ _ (.scanning token stage) => Registered registry token.mint ∧ stage.Ready
  | _ => True

/-- The token is one of the command line, or its pools are registered. -/
def Met (labels : List (String × String)) (registry : PoolRegistry) (tokenMint : String) : Prop :=
  tokenMint ∈ labels.map Prod.fst ∨ Registered registry tokenMint

structure Served (labels : List (String × String)) (s : System) : Prop where
  listed : ∀ entry ∈ s.shared.list, Met labels s.shared.registry entry.1
  left : ∀ entry ∈ s.scanner.phase.left, Met labels s.shared.registry entry.1
  ready : s.discovery.phase.Ready s.shared.registry
  asked : ∀ m ∈ s.scanner.asked ++ s.scanner.phase.asking, m ∈ labels.map Prod.fst

section Steps
variable {bs58 : Bytes → String} {costs : CostModel} {rpcUrl : Option String}
  {registry registry' : PoolRegistry} {labels : List (String × String)} {now : ℕ}
  {s s' : System} {e : Event} {o : Observed} {shared shared' : Shared}

theorem Met.grows {tokenMint : String} (h : Met labels registry tokenMint)
    (hgrows : Grows registry registry') : Met labels registry' tokenMint :=
  h.imp_right (hgrows tokenMint)

theorem DiscoveryPhase.Ready.grows {phase : DiscoveryPhase} (h : phase.Ready registry)
    (hgrows : Grows registry registry') : phase.Ready registry' := by
  unfold DiscoveryPhase.Ready at *
  split at h
  · exact hgrows _ h
  · exact ⟨hgrows _ h.1, h.2⟩
  · trivial

theorem Served.registered (h : Served labels s) (tokenMint : String) (pools : List KnownPool) :
    Served labels
      { s with shared.registry := registerPools s.shared.registry tokenMint pools } := by
  have hgrows := grows_registerPools s.shared.registry tokenMint pools
  exact ⟨fun entry hentry => (h.listed entry hentry).grows hgrows,
    fun entry hentry => (h.left entry hentry).grows hgrows, h.ready.grows hgrows, h.asked⟩

variable (bs58 costs now o) in
/-- A step of the discovery task lists registered tokens only. -/
theorem pass_served {t : DiscoveryTask} {path : DiscoveryPath} {rest : Offers} {stage : OfferStage}
    (hlisted : ∀ entry ∈ shared.list, Met labels shared.registry entry.1)
    (hready : DiscoveryPhase.Ready shared.registry (.passing path rest stage)) :
    let r := t.pass bs58 costs now shared o path rest stage
    Grows shared.registry r.2.registry ∧ r.1.phase.Ready r.2.registry ∧
      ∀ entry ∈ r.2.list, Met labels r.2.registry entry.1 := by
  cases stage with
  | offering =>
    cases rest with
    | nil =>
      cases path with
      | newProfiles => exact ⟨fun _ h => h, trivial, hlisted⟩
      | trending => exact ⟨fun _ h => h, trivial, hlisted⟩
    | cons entry rest =>
      unfold DiscoveryTask.pass
      dsimp only
      split
      · exact ⟨fun _ h => h, trivial, hlisted⟩
      · exact ⟨fun _ h => h, trivial, hlisted⟩
  | registering token pools =>
    have hgrows := grows_registerPools shared.registry token.mint pools
    refine ⟨hgrows, ?_, fun entry hentry => (hlisted entry hentry).grows hgrows⟩
    unfold DiscoveryTask.pass
    dsimp only
    split
    · trivial
    · next hmany =>
      apply registered_registerPools
      rintro rfl
      exact hmany Nat.two_pos
  | listing token =>
    refine ⟨fun _ h => h, ⟨hready, trivial⟩, ?_⟩
    intro entry hentry
    change entry ∈ listToken shared.list token at hentry
    unfold listToken at hentry
    split at hentry
    · exact hlisted entry hentry
    · rcases mem_pushCapped hentry with hold | rfl
      · exact hlisted entry hold
      · exact Or.inr hready
  | scanning token scan =>
    have hgrows := ScanStage.grows bs58 costs shared.registry o token.mint token.symbol scan
    refine ⟨hgrows, ?_, fun entry hentry => (hlisted entry hentry).grows hgrows⟩
    unfold DiscoveryTask.pass
    dsimp only
    split
    · next stage hprogress => exact ⟨hgrows _ hready.1, hready.2.next hready.1 hprogress⟩
    · trivial
    · trivial
  | storing row => exact ⟨fun _ h => h, trivial, hlisted⟩

theorem discovery_served {t : DiscoveryTask} (h : Served labels s)
    (hnext : s.discovery.next bs58 costs rpcUrl s.now s.shared o = some (t, shared)) :
    Served labels { s with discovery := t, shared := shared } := by
  have hready := h.ready
  unfold DiscoveryTask.next at hnext
  cases hphase : s.discovery.phase with
  | resting wake =>
    simp only [hphase, Option.ite_none_right_eq_some, Option.some.injEq, Prod.mk.injEq] at hnext
    obtain ⟨_, rfl, rfl⟩ := hnext
    exact ⟨h.listed, h.left, trivial, h.asked⟩
  | fetching path =>
    simp only [hphase, Option.some.injEq, Prod.mk.injEq] at hnext
    obtain ⟨rfl, rfl⟩ := hnext
    exact ⟨h.listed, h.left, trivial, h.asked⟩
  | passing path rest stage =>
    simp only [hphase, Option.some.injEq] at hnext
    rw [hphase] at hready
    have hpass := pass_served bs58 costs s.now o (t := s.discovery) h.listed hready
    rw [hnext] at hpass
    obtain ⟨hgrows, hnew, hlisted⟩ := hpass
    exact ⟨hlisted, fun entry hentry => (h.left entry hentry).grows hgrows, hnew, h.asked⟩

variable (bs58 costs o) in
/-- A scan that has not returned. -/
theorem scanner_going (stage' : ScanStage) (h : Served labels s) {token : String × String}
    {stage : ScanStage} {rest : List (String × String)}
    (hphase : s.scanner.phase = .scanning token stage rest)
    (hprogress : (stage.next bs58 costs s.shared.registry o token.1 token.2).1 = .going stage') :
    ∀ m ∈ ScannerPhase.asking (.scanning token stage' rest), m ∈ labels.map Prod.fst := by
  intro m hm
  unfold ScannerPhase.asking at hm
  dsimp only at hm
  split at hm
  · next hasks =>
    obtain rfl := List.mem_singleton.mp hm
    have hmet := h.left token (by rw [hphase]; exact List.mem_cons_self)
    exact hmet.resolve_right (ScanStage.asks_next hprogress hasks)
  · cases hm

theorem goOn_phase (now : ℕ) (t : ScannerTask) (rest : List (String × String)) :
    (t.goOn now rest).phase.left = rest ∧ (t.goOn now rest).phase.asking = [] ∧
      (t.goOn now rest).asked = t.asked := by
  cases rest with
  | nil => exact ⟨rfl, rfl, rfl⟩
  | cons token rest => exact ⟨rfl, rfl, rfl⟩

variable (now o) in
/-- Where the scan of a token leads, when what has been asked so far is in order. -/
theorem proceed_served {t : ScannerTask} {token : String × String}
    {rest : List (String × String)} {progress : Progress}
    (hleft : ∀ entry ∈ token :: rest, Met labels registry entry.1)
    (hasked : ∀ m ∈ t.asked, m ∈ labels.map Prod.fst)
    (hgoing : ∀ stage', progress = .going stage' →
      ∀ m ∈ ScannerPhase.asking (.scanning token stage' rest), m ∈ labels.map Prod.fst) :
    let t' := t.proceed now o token rest progress
    (∀ entry ∈ t'.phase.left, Met labels registry entry.1) ∧
      ∀ m ∈ t'.asked ++ t'.phase.asking, m ∈ labels.map Prod.fst := by
  cases progress with
  | going stage' =>
    refine ⟨hleft, ?_⟩
    intro m hm
    rcases List.mem_append.mp hm with hold | hnew
    · exact hasked m hold
    · exact hgoing stage' rfl m hnew
  | returned outcome =>
    cases outcome with
    | ok r =>
      refine ⟨fun entry hentry => hleft entry (List.mem_cons_of_mem _ hentry), ?_⟩
      intro m hm
      exact hasked m ((List.mem_append.mp hm).resolve_right List.not_mem_nil)
    | error e =>
      simp only [ScannerTask.proceed, goOn_phase, List.append_nil]
      exact ⟨fun entry hentry => hleft entry (List.mem_cons_of_mem _ hentry), hasked⟩

theorem scanner_served {t : ScannerTask} (h : Served labels s)
    (hnext : s.scanner.next bs58 costs s.now s.shared o = some (t, shared)) :
    Served labels { s with scanner := t, shared := shared } := by
  have hasked := h.asked
  have hleft := h.left
  unfold ScannerTask.next at hnext
  cases hphase : s.scanner.phase with
  | resting wake =>
    simp only [hphase, Option.ite_none_right_eq_some, Option.some.injEq, Prod.mk.injEq] at *
    obtain ⟨_, rfl, rfl⟩ := hnext
    exact ⟨h.listed, hleft, h.ready, hasked⟩
  | reading =>
    simp only [hphase] at *
    split at hnext
    · obtain ⟨rfl, rfl⟩ := Prod.mk.inj (Option.some.inj hnext)
      exact ⟨h.listed, hleft, h.ready, hasked⟩
    · next token rest heq =>
      obtain ⟨rfl, rfl⟩ := Prod.mk.inj (Option.some.inj hnext)
      refine ⟨h.listed, ?_, h.ready, hasked⟩
      have hlisted := h.listed
      rw [heq] at hlisted
      exact hlisted
  | scanning token stage rest =>
    have hgoing := fun stage' => scanner_going bs58 costs o stage' h hphase
    simp only [hphase, Option.some.injEq, Prod.mk.injEq] at *
    obtain ⟨rfl, rfl⟩ := hnext
    have hgrows := ScanStage.grows bs58 costs s.shared.registry o token.1 token.2 stage
    have hproceed := proceed_served s.now o
      (t := { s.scanner with
        asked := if stage.asks then s.scanner.asked ++ [token.1] else s.scanner.asked })
      (fun entry hentry => (hleft entry hentry).grows hgrows) ?_ hgoing
    · exact ⟨fun entry hentry => (h.listed entry hentry).grows hgrows, hproceed.1,
        h.ready.grows hgrows, hproceed.2⟩
    · simp only [ScannerPhase.asking] at hasked
      split
      · next hasks =>
        rw [if_pos hasks] at hasked
        exact hasked
      · next hquiet =>
        rw [if_neg hquiet, List.append_nil] at hasked
        exact hasked
  | storing row rest =>
    simp only [hphase, Option.some.injEq, Prod.mk.injEq] at *
    obtain ⟨rfl, rfl⟩ := hnext
    refine ⟨h.listed, ?_, h.ready, ?_⟩
    · simp only [goOn_phase]
      exact hleft
    · simp only [goOn_phase]
      exact hasked

theorem step_served (h : Served labels s) (hstep : Step bs58 costs rpcUrl s e s') :
    Served labels s' := by
  cases e with
  | pass nanos =>
    obtain rfl := Option.some.inj hstep
    exact ⟨h.listed, h.left, h.ready, h.asked⟩
  | registered tokenMint pools =>
    obtain rfl := Option.some.inj hstep
    exact h.registered tokenMint pools
  | discovery o =>
    obtain ⟨⟨t, shared⟩, hnext, hs'⟩ := Option.bind_eq_some_iff.mp hstep
    obtain rfl := Option.some.inj hs'
    exact discovery_served h hnext
  | scanner o =>
    obtain ⟨⟨t, shared⟩, hnext, hs'⟩ := Option.bind_eq_some_iff.mp hstep
    obtain rfl := Option.some.inj hs'
    exact scanner_served h hnext

end Steps

/-- In every run all that is listed is a token of the command line or has its pools in the
registry. A scan of discovery finds the token there, and the periodic scanner has discovered
the pools of tokens of the command line only, whatever the other tasks register. -/
theorem listed_tokens_registered (bs58 : Bytes → String) (costs : CostModel)
    (rpcUrl : Option String) (now : ℕ) (registry : PoolRegistry) (watchMints : Finset String)
    (labels : List (String × String)) (es : List Event) (s : System)
    (hr : Run (Step bs58 costs rpcUrl) (start now registry watchMints labels) es s) :
    (∀ entry ∈ s.shared.list, Met labels s.shared.registry entry.1) ∧
    (∀ path rest token stage, s.discovery.phase = .passing path rest (.scanning token stage) →
      Registered s.shared.registry token.mint ∧ stage.Ready) ∧
    ∀ m ∈ s.scanner.asked, m ∈ labels.map Prod.fst := by
  have h : Served labels s := by
    apply hr.invariant (fun _ s => Served labels s)
    · refine ⟨?_, ?_, trivial, ?_⟩
      · intro entry hentry
        exact Or.inl (List.mem_map_of_mem hentry)
      · intro entry hentry
        cases hentry
      · intro m hm
        cases hm
    · intro es s e t _ hs hstep
      exact step_served hs hstep
  refine ⟨h.listed, ?_, fun m hm => h.asked m (List.mem_append_left _ hm)⟩
  intro path rest token stage hphase
  have hready := h.ready
  rw [hphase] at hready
  exact hready

theorem listed_tokens_registered_one : ∃ s, afterCycle = some s ∧
    s.shared.list = [("TokenAddress", "TKN")] ∧ Registered s.shared.registry "TokenAddress" ∧
    s.scanner.asked = [] := by
  obtain ⟨s, hs, hrests⟩ := Option.map_eq_some_iff.mp afterCycle_rests
  obtain ⟨hmet, _, hasked⟩ := listed_tokens_registered base58Encode CostModel.default none 0 ∅ ∅ []
    oneCycle s (run_foldlM hs)
  have hnone : s.scanner.asked = [] := List.eq_nil_iff_forall_not_mem.mpr
    (fun m hm => List.not_mem_nil (hasked m hm))
  split at hrests
  · have hlist := (Prod.mk.inj hrests).2
    have hregistered := hmet ("TokenAddress", "TKN") (hlist ▸ List.mem_cons_self)
    exact ⟨s, hs, hlist, hregistered.resolve_left List.not_mem_nil, hnone⟩
  · cases (Prod.mk.inj hrests).1

end SolanaArb.ScanTasks
