import SolanaArb.Cli.ScanTasks

/-! # The scan list that the tasks share

Discovery asks, registers and pushes token by token, and the other tasks run in between.
All the same the list is at every moment one of the loop that goes cycle by cycle: after
the complete cycles and a cycle that may have got no answer for its last tokens. A token
whose pools are not found is remembered, but not listed.
-/
namespace SolanaArb.ScanTasks
open SolanaArb.General SolanaArb.LocalScanner SolanaArb.Discovery SolanaArb.DiscoveryLoop
open SolanaArb.Recording

section Passes
variable {bs58 : Bytes → String} {rpcUrl : Option String} {s base : DiscoveryState}
  {c : CycleInput} {path : DiscoveryPath} {rest : Offers}

variable (bs58) in
/-- The offers of a pass, one after the other. -/
def offerEach (c : CycleInput) (path : DiscoveryPath) (s : DiscoveryState) (rest : Offers) :
    DiscoveryState :=
  rest.foldl (fun s entry => s.offer bs58 path entry.1 (poolsOf c path entry.2)) s

variable (rpcUrl) in
def offersOn (s : DiscoveryState) (c : CycleInput) (path : DiscoveryPath) : Offers :=
  offers rpcUrl s.known (profilesOf c path) (answersOf c path) path

theorem newProfiles_eq_offerEach (s : DiscoveryState) (c : CycleInput) :
    DiscoveryState.newProfiles bs58 rpcUrl s c =
      offerEach bs58 c .newProfiles s (offersOn rpcUrl s c .newProfiles) := by
  unfold DiscoveryState.newProfiles offersOn offers profilesOf answersOf
  dsimp only
  cases discoverNewTokens s.known minLiquidityUsd rpcUrl c.profiles c.answers with
  | error e => rfl
  | ok tokens => rfl

theorem trending_eq_offerEach (s : DiscoveryState) (c : CycleInput) :
    s.trending bs58 c = offerEach bs58 c .trending s (offersOn rpcUrl s c .trending) := by
  unfold DiscoveryState.trending offersOn offers profilesOf answersOf
  dsimp only
  cases discoverTrendingMultiPool s.known minLiquidityUsd c.boosted c.boostedAnswers with
  | error e => rfl
  | ok tokens => rfl

variable (bs58) in
/-- What an offer leaves, in terms of the pools found. -/
theorem offer_eq (s : DiscoveryState) (path : DiscoveryPath) (token : DiscoveredToken)
    (discovery : LocalScanner.Discovery) :
    ∃ pushed, s.offer bs58 path token discovery =
      { known := insert token.mint s.known
        discovered := if poolCount bs58 discovery < 2 then s.discovered
          else listToken s.discovered token
        pushed := pushed } := by
  unfold DiscoveryState.offer listToken
  dsimp only
  split
  · exact ⟨s.pushed, rfl⟩
  · split
    · exact ⟨s.pushed, rfl⟩
    · exact ⟨⟨path, token, discovery⟩ :: s.pushed, rfl⟩

variable (bs58 s) in
/-- Offers whose lookups get no answer list nothing. -/
theorem offerEach_unasked (hrest : ∀ entry ∈ rest, poolsOf c path entry.2 = noAnswer) :
    (offerEach bs58 c path s rest).discovered = s.discovered := by
  induction rest generalizing s with
  | nil => rfl
  | cons entry rest ih =>
    have hentry := hrest entry List.mem_cons_self
    obtain ⟨pushed, hoffer⟩ := offer_eq bs58 s path entry.1 noAnswer
    have htail := ih (s.offer bs58 path entry.1 noAnswer)
      (fun other hother => hrest other (List.mem_cons_of_mem _ hother))
    rw [offerEach, List.foldl_cons, hentry]
    refine htail.trans ?_
    have hnone : poolCount bs58 noAnswer = 0 := rfl
    simp [hoffer, hnone]

variable (rpcUrl) in
/-- The numbers of a pass are different. -/
theorem offers_distinct (known : Finset String) (profiles : Except String (List TokenProfile))
    (answers : ℕ → Answers) (path : DiscoveryPath) :
    ((offers rpcUrl known profiles answers path).map Prod.snd).Nodup := by
  unfold offers
  split
  · split
    · rw [List.zipIdx_map_snd]
      exact List.nodup_range'
    · exact List.nodup_nil
  · split
    · rw [List.zipIdx_map_snd]
      exact List.nodup_range'
    · exact List.nodup_nil

theorem poolsOf_lookedUp (c : CycleInput) (i : ℕ) (discovery : LocalScanner.Discovery)
    (path : DiscoveryPath) :
    poolsOf (lookedUp c i discovery path) path = Function.update (poolsOf c path) i discovery := by
  cases path with
  | newProfiles => rfl
  | trending => rfl

theorem offerEach_snoc (c : CycleInput) (path : DiscoveryPath) (s : DiscoveryState)
    (done : Offers) (entry : DiscoveredToken × ℕ) :
    offerEach bs58 c path s (done ++ [entry]) =
      (offerEach bs58 c path s done).offer bs58 path entry.1 (poolsOf c path entry.2) := by
  unfold offerEach
  rw [List.foldl_append, List.foldl_cons, List.foldl_nil]

variable (bs58 s) in
theorem offerEach_congr {c' : CycleInput}
    (hsame : ∀ entry ∈ rest, poolsOf c' path entry.2 = poolsOf c path entry.2) :
    offerEach bs58 c' path s rest = offerEach bs58 c path s rest := by
  induction rest generalizing s with
  | nil => rfl
  | cons entry rest ih =>
    unfold offerEach at *
    rw [List.foldl_cons, List.foldl_cons, hsame entry List.mem_cons_self]
    exact ih _ (fun other hother => hsame other (List.mem_cons_of_mem _ hother))

variable (bs58 rpcUrl) in
/-- The state that a pass of a cycle starts from. -/
def passStart (base : DiscoveryState) (c : CycleInput) : DiscoveryPath → DiscoveryState
  | .newProfiles => base
  | .trending => DiscoveryState.newProfiles bs58 rpcUrl base c

theorem cycle_eq_offerEach (s : DiscoveryState) (c : CycleInput) :
    s.cycle bs58 rpcUrl c = offerEach bs58 c .trending
      (passStart bs58 rpcUrl { s with pushed := [] } c .trending)
      (offersOn rpcUrl (passStart bs58 rpcUrl { s with pushed := [] } c .trending) c .trending) :=
  trending_eq_offerEach _ c

/-- A cycle has observed nothing of a pass and of what comes after it. -/
def Unasked (c : CycleInput) : DiscoveryPath → Prop
  | .newProfiles => c = noInput
  | .trending => c.boosted = noInput.boosted ∧ c.boostedPools = noInput.boostedPools

theorem Unasked.pools (h : Unasked c path) (i : ℕ) : poolsOf c path i = noAnswer := by
  cases path with
  | newProfiles =>
    obtain rfl := h
    rfl
  | trending => exact congrFun h.2 i

theorem Unasked.trending (h : Unasked c path) : Unasked c .trending := by
  cases path with
  | newProfiles =>
    obtain rfl := h
    exact ⟨rfl, rfl⟩
  | trending => exact h

/-- A cycle without boosted tokens ends with its first pass. -/
theorem cycle_unboosted (h : Unasked c .trending) :
    s.cycle bs58 rpcUrl c = passStart bs58 rpcUrl { s with pushed := [] } c .trending := by
  have hnone : offersOn rpcUrl (passStart bs58 rpcUrl { s with pushed := [] } c .trending) c
      .trending = [] := by
    unfold offersOn offers profilesOf
    dsimp only
    rw [h.1]
    rfl
  rw [cycle_eq_offerEach, hnone]
  rfl

/-- A cycle that observes nothing changes nothing. -/
theorem cycle_noInput (s : DiscoveryState) :
    s.cycle bs58 rpcUrl noInput = { s with pushed := [] } := rfl

end Passes

/-- The list with the token in hand, if it is to be listed. -/
def DiscoveryPhase.listed (list : List (String × String)) :
    DiscoveryPhase → List (String × String)
  | .passing _ _ (.registering token pools) =>
    if pools.length < 2 then list else listToken list token
  | .passing _ _ (.listing token) => listToken list token
  | _ => list

section Phases
variable (bs58 : Bytes → String) (rpcUrl : Option String)

/-- A pass that has come to `s`, with the rest still to be offered. -/
structure MidPass (base : DiscoveryState) (c : CycleInput) (path : DiscoveryPath) (rest : Offers)
    (s : DiscoveryState) : Prop where
  offered : ∃ done, offersOn rpcUrl (passStart bs58 rpcUrl base c path) c path = done ++ rest ∧
    offerEach bs58 c path (passStart bs58 rpcUrl base c path) done = s
  unasked : ∀ entry ∈ rest, poolsOf c path entry.2 = noAnswer
  later : path = .newProfiles → Unasked c .trending

/-- Where the loop that goes cycle by cycle stands at a phase of the task. -/
def DiscoveryPhase.Stands (base : DiscoveryState) (c : CycleInput) (s : DiscoveryState) :
    DiscoveryPhase → Prop
  | .resting _ => Unasked c .newProfiles ∧ s = base
  | .fetching path => Unasked c path ∧ s = passStart bs58 rpcUrl base c path
  | .passing path rest _ => MidPass bs58 rpcUrl base c path rest s

variable (watchMints : Finset String) (labels : List (String × String))

/-- The state after these cycles. -/
def afterCycles (cs : List CycleInput) : DiscoveryState :=
  { discoveryRun bs58 rpcUrl watchMints labels cs with pushed := [] }

/-- The task is where its cycles lead, and the list is one of theirs. -/
structure Refines (t : DiscoveryTask) (list : List (String × String)) : Prop where
  stands : ∃ pushed, t.phase.Stands bs58 rpcUrl
    (afterCycles bs58 rpcUrl watchMints labels t.cycles) t.current
    ⟨t.known, t.phase.listed list, pushed⟩
  list : ∃ c, list = (discoveryRun bs58 rpcUrl watchMints labels (t.cycles ++ [c])).discovered

end Phases

section Steps
variable {bs58 : Bytes → String} {rpcUrl : Option String} {base s : DiscoveryState}
  {c : CycleInput} {path : DiscoveryPath} {rest : Offers} {watchMints : Finset String}
  {labels list : List (String × String)} {cs : List CycleInput} {phase : DiscoveryPhase}

theorem discoveryRun_snoc (cs : List CycleInput) (c : CycleInput) :
    discoveryRun bs58 rpcUrl watchMints labels (cs ++ [c]) =
      (discoveryRun bs58 rpcUrl watchMints labels cs).cycle bs58 rpcUrl c := by
  simp [discoveryRun]

theorem MidPass.begin (h : Unasked c path) (profiles : Except String (List TokenProfile))
    (answers : ℕ → Answers) (hs : s = passStart bs58 rpcUrl base c path) :
    MidPass bs58 rpcUrl base (fetched c profiles answers path) path
      (offers rpcUrl s.known profiles answers path) s := by
  subst hs
  have hpools (i : ℕ) : poolsOf (fetched c profiles answers path) path i = noAnswer := by
    have hsame : poolsOf (fetched c profiles answers path) path = poolsOf c path := by
      cases path with
      | newProfiles => rfl
      | trending => rfl
    rw [hsame]
    exact h.pools i
  cases path with
  | newProfiles => exact ⟨⟨[], rfl, rfl⟩, fun entry _ => hpools entry.2, fun _ => h.trending⟩
  | trending => exact ⟨⟨[], rfl, rfl⟩, fun entry _ => hpools entry.2, fun hne => by cases hne⟩

/-- One more token is offered. -/
theorem MidPass.offer {token : DiscoveredToken} {i : ℕ}
    (h : MidPass bs58 rpcUrl base c path ((token, i) :: rest) s)
    (discovery : LocalScanner.Discovery) :
    MidPass bs58 rpcUrl base (lookedUp c i discovery path) path rest
      (s.offer bs58 path token discovery) := by
  obtain ⟨done, hoffers, hdone⟩ := h.offered
  have hstart : passStart bs58 rpcUrl base (lookedUp c i discovery path) path =
      passStart bs58 rpcUrl base c path := by
    cases path with
    | newProfiles => rfl
    | trending => rfl
  have hsame : offersOn rpcUrl (passStart bs58 rpcUrl base c path) (lookedUp c i discovery path)
      path = offersOn rpcUrl (passStart bs58 rpcUrl base c path) c path := by
    cases path with
    | newProfiles => rfl
    | trending => rfl
  have hdistinct := offers_distinct rpcUrl (passStart bs58 rpcUrl base c path).known
    (profilesOf c path) (answersOf c path) path
  rw [← offersOn, hoffers, List.map_append, List.map_cons, List.nodup_append] at hdistinct
  obtain ⟨_, hrest, hapart⟩ := hdistinct
  have hbefore : ∀ entry ∈ done, entry.2 ≠ i := by
    intro entry hentry
    exact hapart _ (List.mem_map_of_mem hentry) _ List.mem_cons_self
  have hafter : ∀ entry ∈ rest, entry.2 ≠ i := by
    intro entry hentry heq
    exact (List.nodup_cons.mp hrest).1 (List.mem_map.mpr ⟨entry, hentry, heq⟩)
  have hother {j : ℕ} (hne : j ≠ i) :
      poolsOf (lookedUp c i discovery path) path j = poolsOf c path j := by
    rw [poolsOf_lookedUp]
    exact Function.update_of_ne hne _ _
  constructor
  · refine ⟨done ++ [(token, i)], ?_, ?_⟩
    · rw [hstart, hsame, hoffers, List.append_assoc]
      rfl
    · have hdone' := offerEach_congr bs58 (passStart bs58 rpcUrl base c path)
        (fun entry hentry => hother (hbefore entry hentry))
      rw [hstart, offerEach_snoc, hdone', hdone, poolsOf_lookedUp, Function.update_self]
  · intro entry hentry
    rw [hother (hafter entry hentry)]
    exact h.unasked entry (List.mem_cons_of_mem _ hentry)
  · rintro rfl
    exact h.later rfl

theorem MidPass.complete (h : MidPass bs58 rpcUrl base c path [] s) :
    s = offerEach bs58 c path (passStart bs58 rpcUrl base c path)
      (offersOn rpcUrl (passStart bs58 rpcUrl base c path) c path) := by
  obtain ⟨done, hoffers, rfl⟩ := h.offered
  rw [hoffers, List.append_nil]

/-- The rest of a pass lists nothing more. -/
theorem MidPass.discovered (h : MidPass bs58 rpcUrl { base with pushed := [] } c path rest s) :
    (base.cycle bs58 rpcUrl c).discovered = s.discovered := by
  obtain ⟨done, hoffers, rfl⟩ := h.offered
  have hpass := offerEach_unasked bs58
    (offerEach bs58 c path (passStart bs58 rpcUrl { base with pushed := [] } c path) done) h.unasked
  rw [offerEach, offerEach, ← List.foldl_append, ← offerEach, ← hoffers] at hpass
  cases path with
  | newProfiles =>
    rw [cycle_unboosted (h.later rfl)]
    exact (congrArg _ (newProfiles_eq_offerEach _ c)).trans hpass
  | trending => exact (congrArg _ (cycle_eq_offerEach base c)).trans hpass

theorem DiscoveryPhase.Stands.discovered
    (h : phase.Stands bs58 rpcUrl { base with pushed := [] } c s) :
    (base.cycle bs58 rpcUrl c).discovered = s.discovered := by
  have hfetching {path : DiscoveryPath} (hnone : Unasked c path)
      (hs : s = passStart bs58 rpcUrl { base with pushed := [] } c path) :
      (base.cycle bs58 rpcUrl c).discovered = s.discovered := by
    rw [cycle_unboosted hnone.trending, hs]
    cases path with
    | newProfiles =>
      obtain rfl := hnone
      rfl
    | trending => rfl
  cases phase with
  | resting wake => exact hfetching h.1 h.2
  | fetching path => exact hfetching h.1 h.2
  | passing path rest stage => exact MidPass.discovered h

variable {costs : CostModel} {now : ℕ} {shared shared' : Shared} {o : Observed}
  {t t' : DiscoveryTask} {stage next : OfferStage} {list' : List (String × String)}

theorem afterCycles_snoc (cs : List CycleInput) (c : CycleInput) :
    afterCycles bs58 rpcUrl watchMints labels (cs ++ [c]) =
      { (afterCycles bs58 rpcUrl watchMints labels cs).cycle bs58 rpcUrl c with pushed := [] } := by
  rw [afterCycles, discoveryRun_snoc]
  rfl

/-- The list with the token in hand is the list of the current cycle as well. -/
theorem Refines.listed (h : Refines bs58 rpcUrl watchMints labels t list) :
    t.phase.listed list =
      (discoveryRun bs58 rpcUrl watchMints labels (t.cycles ++ [t.current])).discovered := by
  obtain ⟨pushed, hstands⟩ := h.stands
  rw [discoveryRun_snoc]
  exact hstands.discovered.symm

/-- A token of a pass is taken further. -/
theorem Refines.forward (h : Refines bs58 rpcUrl watchMints labels t list)
    (hphase : t.phase = .passing path rest stage)
    (hlisted : DiscoveryPhase.listed list' (.passing path rest next) =
      DiscoveryPhase.listed list (.passing path rest stage))
    (hlist : list' = list ∨ list' = DiscoveryPhase.listed list (.passing path rest stage))
    (issued : List Statement) :
    Refines bs58 rpcUrl watchMints labels
      { t with phase := .passing path rest next, issued := issued } list' := by
  constructor
  · obtain ⟨pushed, hstands⟩ := h.stands
    rw [hphase] at hstands
    refine ⟨pushed, ?_⟩
    rw [← hlisted] at hstands
    exact hstands
  · rcases hlist with rfl | rfl
    · exact h.list
    · rw [← hphase]
      exact ⟨t.current, h.listed⟩

theorem offering_refines {token : DiscoveredToken} {i : ℕ}
    (h : Refines bs58 rpcUrl watchMints labels t shared.list)
    (hphase : t.phase = .passing path ((token, i) :: rest) .offering) :
    Refines bs58 rpcUrl watchMints labels
      (t.pass bs58 costs now shared o path ((token, i) :: rest) .offering).1
      (t.pass bs58 costs now shared o path ((token, i) :: rest) .offering).2.list := by
  obtain ⟨pushed, hstands⟩ := h.stands
  rw [hphase] at hstands
  obtain ⟨pushed', hoffer⟩ := offer_eq bs58
    ⟨t.known, DiscoveryPhase.listed shared.list (.passing path ((token, i) :: rest) .offering),
      pushed⟩
    path token o.discovery
  have hnext := MidPass.offer hstands o.discovery
  rw [hoffer] at hnext
  unfold DiscoveryTask.pass
  dsimp only
  cases hfound : discoverPoolsForToken bs58 o.discovery with
  | error e =>
    have hcount : poolCount bs58 o.discovery = 0 := by rw [poolCount, hfound]
    rw [hcount] at hnext
    exact ⟨⟨pushed', hnext⟩, h.list⟩
  | ok pools =>
    have hcount : poolCount bs58 o.discovery = pools.length := by rw [poolCount, hfound]
    rw [hcount] at hnext
    exact ⟨⟨pushed', hnext⟩, h.list⟩

theorem complete_refines (h : Refines bs58 rpcUrl watchMints labels t shared.list)
    (hphase : t.phase = .passing path [] .offering) :
    Refines bs58 rpcUrl watchMints labels (t.pass bs58 costs now shared o path [] .offering).1
      (t.pass bs58 costs now shared o path [] .offering).2.list := by
  have hlisted := h.listed
  obtain ⟨pushed, hstands⟩ := h.stands
  rw [hphase] at hstands hlisted
  have hcomplete := MidPass.complete hstands
  cases path with
  | newProfiles =>
    refine ⟨⟨pushed, hstands.later rfl, ?_⟩, h.list⟩
    exact hcomplete.trans (newProfiles_eq_offerEach _ _).symm
  | trending =>
    have hcycle : (afterCycles bs58 rpcUrl watchMints labels t.cycles).cycle bs58 rpcUrl t.current =
        ⟨t.known, shared.list, pushed⟩ :=
      (cycle_eq_offerEach _ _).trans hcomplete.symm
    refine ⟨⟨[], rfl, ?_⟩, noInput, ?_⟩
    · change _ = afterCycles bs58 rpcUrl watchMints labels (t.cycles ++ [t.current])
      rw [afterCycles_snoc, hcycle]
      rfl
    · change shared.list = (discoveryRun bs58 rpcUrl watchMints labels
        (t.cycles ++ [t.current] ++ [noInput])).discovered
      rw [discoveryRun_snoc, cycle_noInput]
      exact hlisted

variable (costs now o) in
theorem pass_refines (h : Refines bs58 rpcUrl watchMints labels t shared.list)
    (hphase : t.phase = .passing path rest stage) :
    Refines bs58 rpcUrl watchMints labels (t.pass bs58 costs now shared o path rest stage).1
      (t.pass bs58 costs now shared o path rest stage).2.list := by
  cases stage with
  | offering =>
    cases rest with
    | nil => exact complete_refines h hphase
    | cons entry rest => exact offering_refines h hphase
  | registering token pools =>
    refine h.forward hphase ?_ (Or.inl rfl) t.issued
    by_cases hfew : pools.length < 2
    · simp only [DiscoveryPhase.listed, if_pos hfew]
    · simp only [DiscoveryPhase.listed, if_neg hfew]
  | listing token =>
    refine h.forward hphase ?_ ?_ t.issued
    · rfl
    · exact Or.inr rfl
  | scanning token scan =>
    unfold DiscoveryTask.pass
    dsimp only
    refine h.forward hphase ?_ (Or.inl rfl) t.issued
    split
    · rfl
    · rfl
    · rfl
  | storing row =>
    refine h.forward hphase ?_ ?_ (t.issued ++ [row])
    · rfl
    · exact Or.inl rfl

theorem discovery_refines (h : Refines bs58 rpcUrl watchMints labels t shared.list)
    (hnext : t.next bs58 costs rpcUrl now shared o = some (t', shared')) :
    Refines bs58 rpcUrl watchMints labels t' shared'.list := by
  obtain ⟨pushed, hstands⟩ := h.stands
  unfold DiscoveryTask.next at hnext
  cases hphase : t.phase with
  | resting wake =>
    simp only [hphase, Option.ite_none_right_eq_some, Option.some.injEq, Prod.mk.injEq] at hnext
    obtain ⟨_, rfl, rfl⟩ := hnext
    rw [hphase] at hstands
    exact ⟨⟨pushed, hstands⟩, h.list⟩
  | fetching path =>
    simp only [hphase, Option.some.injEq, Prod.mk.injEq] at hnext
    obtain ⟨rfl, rfl⟩ := hnext
    rw [hphase] at hstands
    exact ⟨⟨pushed, MidPass.begin hstands.1 o.profiles o.answers hstands.2⟩, h.list⟩
  | passing path rest stage =>
    simp only [hphase, Option.some.injEq] at hnext
    have hpass := pass_refines costs now o h hphase
    rw [hnext] at hpass
    exact hpass

end Steps

section Runs
variable {bs58 : Bytes → String} {costs : CostModel} {rpcUrl : Option String} {now : ℕ}
  {registry : PoolRegistry} {watchMints : Finset String} {labels : List (String × String)}
  {es : List Event} {s s' : System} {e : Event} {o : Observed} {t : ScannerTask} {shared : Shared}

/-- The periodic scanner only reads the scan list. -/
theorem scanner_list {t' : ScannerTask} {shared' : Shared}
    (h : t.next bs58 costs now shared o = some (t', shared')) : shared'.list = shared.list := by
  unfold ScannerTask.next at h
  cases hphase : t.phase with
  | resting wake =>
    simp only [hphase, Option.ite_none_right_eq_some, Option.some.injEq, Prod.mk.injEq] at h
    obtain ⟨_, _, rfl⟩ := h
    rfl
  | reading =>
    simp only [hphase] at h
    split at h
    · obtain ⟨_, rfl⟩ := Prod.mk.inj (Option.some.inj h)
      rfl
    · obtain ⟨_, rfl⟩ := Prod.mk.inj (Option.some.inj h)
      rfl
  | scanning token stage rest =>
    simp only [hphase, Option.some.injEq, Prod.mk.injEq] at h
    obtain ⟨_, rfl⟩ := h
    rfl
  | storing row rest =>
    simp only [hphase, Option.some.injEq, Prod.mk.injEq] at h
    obtain ⟨_, rfl⟩ := h
    rfl

theorem step_refines (h : Refines bs58 rpcUrl watchMints labels s.discovery s.shared.list)
    (hstep : Step bs58 costs rpcUrl s e s') :
    Refines bs58 rpcUrl watchMints labels s'.discovery s'.shared.list := by
  cases e with
  | pass nanos =>
    obtain rfl := Option.some.inj hstep
    exact h
  | registered tokenMint pools =>
    obtain rfl := Option.some.inj hstep
    exact h
  | discovery o =>
    obtain ⟨⟨t, shared⟩, hnext, hs'⟩ := Option.bind_eq_some_iff.mp hstep
    obtain rfl := Option.some.inj hs'
    exact discovery_refines h hnext
  | scanner o =>
    obtain ⟨⟨t, shared⟩, hnext, hs'⟩ := Option.bind_eq_some_iff.mp hstep
    obtain rfl := Option.some.inj hs'
    have hlist : shared.list = s.shared.list := scanner_list hnext
    change Refines bs58 rpcUrl watchMints labels s.discovery shared.list
    rw [hlist]
    exact h

theorem start_refines : Refines bs58 rpcUrl watchMints labels
    (start now registry watchMints labels).discovery
    (start now registry watchMints labels).shared.list :=
  ⟨⟨[], rfl, rfl⟩, noInput, rfl⟩

theorem run_refines
    (hr : Run (Step bs58 costs rpcUrl) (start now registry watchMints labels) es s) :
    Refines bs58 rpcUrl watchMints labels s.discovery s.shared.list := by
  apply hr.invariant
    (fun _ (s : System) => Refines bs58 rpcUrl watchMints labels s.discovery s.shared.list)
  · exact start_refines
  · intro es s e t _ hs hstep
    exact step_refines hs hstep

end Runs

/-- In every run, however the tasks take turns and whatever they are answered, the shared list
is one of the loop that goes cycle by cycle, after the complete cycles and one more; and
whenever discovery rests, list and memory are exactly those of the complete cycles. -/
theorem tasks_refine_cycles (bs58 : Bytes → String) (costs : CostModel) (rpcUrl : Option String)
    (now : ℕ) (registry : PoolRegistry) (watchMints : Finset String)
    (labels : List (String × String)) (es : List Event) (s : System)
    (hr : Run (Step bs58 costs rpcUrl) (start now registry watchMints labels) es s) :
    (∃ c, s.shared.list =
      (discoveryRun bs58 rpcUrl watchMints labels (s.discovery.cycles ++ [c])).discovered) ∧
    ∀ wake, s.discovery.phase = .resting wake →
      s.shared.list =
        (discoveryRun bs58 rpcUrl watchMints labels s.discovery.cycles).discovered ∧
      s.discovery.known =
        (discoveryRun bs58 rpcUrl watchMints labels s.discovery.cycles).known := by
  have h := run_refines hr
  refine ⟨h.list, ?_⟩
  intro wake hphase
  obtain ⟨pushed, hstands⟩ := h.stands
  rw [hphase] at hstands
  have hbase : _ = afterCycles bs58 rpcUrl watchMints labels s.discovery.cycles := hstands.2
  exact ⟨congrArg DiscoveryState.discovered hbase, congrArg DiscoveryState.known hbase⟩

/-- The token of the new profile, listed on two venues. -/
def listedToken : Observed where
  profiles := .ok [newProfile]
  answers := fun _ => mintableAnswers
  discovery := listedPools
  quoter := threeVenueQuoter
  simulationId := 1
  simulatedAt := 10

/-- Discovery finds no new profiles and then one boosted token; the scanner wakes up in between. -/
def oneCycle : List Event :=
  [.pass (30 * second), .discovery listedToken,
    .discovery { listedToken with profiles := .error "unreachable" }, .discovery listedToken,
    .discovery listedToken, .discovery listedToken, .scanner listedToken] ++
    List.replicate 5 (.discovery listedToken)

def afterCycle : Option System :=
  oneCycle.foldlM (System.next base58Encode CostModel.default none) (start 0 ∅ ∅ [])

theorem afterCycle_rests : afterCycle.map (fun s =>
    match s.discovery.phase with
    | .resting wake => (wake, s.shared.list)
    | _ => (0, [])) = some (210 * second, [("TokenAddress", "TKN")]) := by
  decide +kernel

theorem tasks_refine_cycles_one : ∃ s, afterCycle = some s ∧
    s.shared.list = [("TokenAddress", "TKN")] ∧
    (∃ c, s.shared.list = (discoveryRun base58Encode none ∅ []
      (s.discovery.cycles ++ [c])).discovered) ∧
    s.shared.list = (discoveryRun base58Encode none ∅ [] s.discovery.cycles).discovered := by
  obtain ⟨s, hs, hrests⟩ := Option.map_eq_some_iff.mp afterCycle_rests
  obtain ⟨hlist, hresting⟩ := tasks_refine_cycles base58Encode CostModel.default none 0 ∅ ∅ []
    oneCycle s (run_foldlM hs)
  split at hrests
  · next wake hphase => exact ⟨s, hs, (Prod.mk.inj hrests).2, hlist, (hresting wake hphase).1⟩
  · cases (Prod.mk.inj hrests).1

end SolanaArb.ScanTasks
