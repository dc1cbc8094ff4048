import SolanaArb.Cli.DiscoveryLoop

/-! # What the discovery loop remembers

A token is remembered before its pools are looked up, and a remembered token is never
looked at again. So a token whose lookup failed stays out for good: what is remembered
is the watch list and every token ever offered, whatever became of its lookups.
-/
namespace SolanaArb.DiscoveryLoop
open SolanaArb.Discovery SolanaArb.General

/-- One token of a pass, with what the discovery of its pools observed. -/
abbrev Offer := DiscoveredToken × LocalScanner.Discovery

def offersOf (tokens : List DiscoveredToken) (pools : ℕ → LocalScanner.Discovery) : List Offer :=
  tokens.zipIdx.map (fun entry => (entry.1, pools entry.2))

def lookupSucceeds (bs58 : Bytes → String) (o : Offer) : Bool :=
  (LocalScanner.discoverPoolsForToken bs58 o.2).isOk

section Passes
variable (bs58 : Bytes → String) (rpcUrl : Option String) (s : DiscoveryState) (c : CycleInput)

def newOffers : List Offer :=
  match discoverNewTokens s.known minLiquidityUsd rpcUrl c.profiles c.answers with
  | .ok tokens => offersOf (safeTokens tokens) c.newPools
  | .error _ => []

def trendingOffers : List Offer :=
  match discoverTrendingMultiPool s.known minLiquidityUsd c.boosted c.boostedAnswers with
  | .ok tokens => offersOf tokens c.boostedPools
  | .error _ => []

/-- The state between the two passes of a cycle. -/
def midCycle : DiscoveryState := DiscoveryState.newProfiles bs58 rpcUrl { s with pushed := [] } c

/-- Every token whose pools one cycle looks up. -/
def cycleOffers : List Offer :=
  newOffers rpcUrl s c ++ trendingOffers (midCycle bs58 rpcUrl s c) c

end Passes

section Cycle
variable {bs58 : Bytes → String} {rpcUrl : Option String} {s : DiscoveryState} {c : CycleInput}
  {m : String}

theorem offer_known (bs58 : Bytes → String) (s : DiscoveryState) (path : DiscoveryPath)
    (token : DiscoveredToken) (pools : LocalScanner.Discovery) :
    (s.offer bs58 path token pools).known = insert token.mint s.known := by
  rcases offer_cases bs58 s path token pools with heq | ⟨_, heq⟩
  · rw [heq]
  · rw [heq]

/-- A pass remembers each of its tokens. -/
theorem mem_offerAll_known (path : DiscoveryPath) (tokens : List DiscoveredToken)
    (pools : ℕ → LocalScanner.Discovery) :
    m ∈ (s.offerAll bs58 path tokens pools).known ↔
      m ∈ s.known ∨ ∃ o ∈ offersOf tokens pools, o.1.mint = m := by
  unfold DiscoveryState.offerAll offersOf
  induction tokens.zipIdx generalizing s with
  | nil => simp
  | cons entry rest ih =>
    rw [List.foldl_cons, ih, offer_known, Finset.mem_insert, List.map_cons]
    simp only [List.mem_cons, exists_eq_or_imp]
    rw [eq_comm (a := m)]
    tauto

theorem mem_newProfiles_known : m ∈ (DiscoveryState.newProfiles bs58 rpcUrl s c).known ↔
    m ∈ s.known ∨ ∃ o ∈ newOffers rpcUrl s c, o.1.mint = m := by
  unfold DiscoveryState.newProfiles newOffers
  cases discoverNewTokens s.known minLiquidityUsd rpcUrl c.profiles c.answers with
  | error e => simp
  | ok tokens => exact mem_offerAll_known _ _ _

theorem mem_trending_known : m ∈ (s.trending bs58 c).known ↔
    m ∈ s.known ∨ ∃ o ∈ trendingOffers s c, o.1.mint = m := by
  unfold DiscoveryState.trending trendingOffers
  cases discoverTrendingMultiPool s.known minLiquidityUsd c.boosted c.boostedAnswers with
  | error e => simp
  | ok tokens => exact mem_offerAll_known _ _ _

/-- A cycle remembers every token whose pools it looks up, and nothing else. -/
theorem mem_cycle_known : m ∈ (s.cycle bs58 rpcUrl c).known ↔
    m ∈ s.known ∨ ∃ o ∈ cycleOffers bs58 rpcUrl s c, o.1.mint = m := by
  have hnew : newOffers rpcUrl { s with pushed := [] } c = newOffers rpcUrl s c := rfl
  unfold DiscoveryState.cycle cycleOffers
  rw [mem_trending_known, mem_newProfiles_known, hnew]
  simp only [List.mem_append, or_and_right, exists_or, or_assoc]
  rfl

theorem mint_of_mem_offersOf {tokens : List DiscoveredToken} {pools : ℕ → LocalScanner.Discovery}
    {o : Offer} (h : o ∈ offersOf tokens pools) : o.1 ∈ tokens := by
  obtain ⟨entry, hentry, rfl⟩ := List.mem_map.mp h
  exact (List.mem_zipIdx' hentry).2 ▸ List.getElem_mem _

theorem not_mem_known_of_profile {known : Finset String} {profiles : List TokenProfile} {n i : ℕ}
    {profile : TokenProfile} (h : ((solanaTokens known profiles).take n)[i]? = some profile) :
    profile.tokenAddress ∉ known := by
  have hmem := List.mem_of_mem_take (List.mem_of_getElem? h)
  have hkeep := of_decide_eq_true (List.mem_filter.mp hmem).2
  exact hkeep.2

theorem newOffers_fresh {o : Offer} (h : o ∈ newOffers rpcUrl s c) : o.1.mint ∉ s.known := by
  unfold newOffers at h
  cases hprofiles : c.profiles with
  | error e =>
    rw [hprofiles] at h
    exact absurd h List.not_mem_nil
  | ok profiles =>
    rw [hprofiles] at h
    have htoken := (List.mem_filter.mp (mint_of_mem_offersOf h)).1
    obtain ⟨i, profile, hprofile, hdiscover⟩ := (mem_discoverNewTokens rfl).mp htoken
    rw [(discoverToken_spec hdiscover).1]
    exact not_mem_known_of_profile hprofile

theorem trendingOffers_fresh {o : Offer} (h : o ∈ trendingOffers s c) : o.1.mint ∉ s.known := by
  unfold trendingOffers at h
  cases hprofiles : c.boosted with
  | error e =>
    rw [hprofiles] at h
    exact absurd h List.not_mem_nil
  | ok profiles =>
    rw [hprofiles] at h
    obtain ⟨i, profile, hprofile, hdiscover⟩ :=
      (mem_discoverTrendingMultiPool rfl).mp (mint_of_mem_offersOf h)
    rw [(discoverTrendingToken_spec hdiscover).1]
    exact not_mem_known_of_profile hprofile

/-- The known set filters both passes: no remembered token is looked up again. -/
theorem cycleOffers_fresh {o : Offer} (h : o ∈ cycleOffers bs58 rpcUrl s c) :
    o.1.mint ∉ s.known := by
  rcases List.mem_append.mp h with hnew | htrending
  · exact newOffers_fresh hnew
  · intro hknown
    exact trendingOffers_fresh htrending (mem_newProfiles_known.mpr (Or.inl hknown))

end Cycle

section Runs
variable (bs58 : Bytes → String) (rpcUrl : Option String) (watchMints : Finset String)
  (labels : List (String × String))

/-- The tokens whose pools the last of some cycles looks up, after the ones before it. -/
def offersAfter (before : List CycleInput) (c : CycleInput) : List Offer :=
  cycleOffers bs58 rpcUrl (discoveryRun bs58 rpcUrl watchMints labels before) c

/-- Some lookup of the pools of a token succeeded in one of these cycles. -/
def LookedUp (cs : List CycleInput) (m : String) : Prop :=
  ∃ before c, before ++ [c] <+: cs ∧ ∃ o ∈ offersAfter bs58 rpcUrl watchMints labels before c,
    o.1.mint = m ∧ lookupSucceeds bs58 o = true

/-- Only watched tokens and tokens once looked up successfully are remembered. -/
def NoBan (cs : List CycleInput) : Prop :=
  ∀ m ∈ (discoveryRun bs58 rpcUrl watchMints labels cs).known,
    m ∈ watchMints ∨ LookedUp bs58 rpcUrl watchMints labels cs m

/-- Each token whose pools the cycle looks up has a lookup in it that succeeds. -/
def LookupsRecover (before : List CycleInput) (c : CycleInput) : Prop :=
  ∀ o ∈ offersAfter bs58 rpcUrl watchMints labels before c,
    ∃ o' ∈ offersAfter bs58 rpcUrl watchMints labels before c,
      o'.1.mint = o.1.mint ∧ lookupSucceeds bs58 o' = true

variable {bs58 rpcUrl watchMints labels} {before cs : List CycleInput} {c : CycleInput} {m : String}

theorem discoveryRun_snoc : discoveryRun bs58 rpcUrl watchMints labels (cs ++ [c]) =
    (discoveryRun bs58 rpcUrl watchMints labels cs).cycle bs58 rpcUrl c := by
  simp [discoveryRun]

theorem mem_run_snoc_known :
    m ∈ (discoveryRun bs58 rpcUrl watchMints labels (cs ++ [c])).known ↔
      m ∈ (discoveryRun bs58 rpcUrl watchMints labels cs).known ∨
        ∃ o ∈ offersAfter bs58 rpcUrl watchMints labels cs c, o.1.mint = m := by
  rw [discoveryRun_snoc]
  exact mem_cycle_known

theorem known_mono (h : before <+: cs)
    (hm : m ∈ (discoveryRun bs58 rpcUrl watchMints labels before).known) :
    m ∈ (discoveryRun bs58 rpcUrl watchMints labels cs).known := by
  induction cs using List.reverseRecOn with
  | nil =>
    obtain rfl := List.prefix_nil.mp h
    exact hm
  | append_singleton cs c ih =>
    rcases List.prefix_concat_iff.mp h with heq | hshort
    · rw [← heq]
      exact hm
    · exact mem_run_snoc_known.mpr (Or.inl (ih hshort))

/-- A watched mint is remembered from the start. -/
theorem watch_subset_known (h : m ∈ watchMints) :
    m ∈ (discoveryRun bs58 rpcUrl watchMints labels cs).known :=
  known_mono (List.nil_prefix) h

theorem LookedUp.mono (h : LookedUp bs58 rpcUrl watchMints labels before m) (hpre : before <+: cs) :
    LookedUp bs58 rpcUrl watchMints labels cs m := by
  obtain ⟨earlier, c, hearlier, ho⟩ := h
  exact ⟨earlier, c, hearlier.trans hpre, ho⟩

theorem LookedUp.known (h : LookedUp bs58 rpcUrl watchMints labels cs m) :
    m ∈ (discoveryRun bs58 rpcUrl watchMints labels cs).known := by
  obtain ⟨before, c, hpre, o, ho, hmint, _⟩ := h
  exact known_mono hpre (mem_run_snoc_known.mpr (Or.inr ⟨o, ho, hmint⟩))

/-- One more cycle: what it adds to the known set has recovered. -/
theorem NoBan.snoc (h : NoBan bs58 rpcUrl watchMints labels cs)
    (hrecover : LookupsRecover bs58 rpcUrl watchMints labels cs c) :
    NoBan bs58 rpcUrl watchMints labels (cs ++ [c]) := by
  intro m hm
  rcases mem_run_snoc_known.mp hm with hold | ⟨o, ho, rfl⟩
  · exact (h m hold).imp_right fun hlooked => hlooked.mono (List.prefix_append cs [c])
  · obtain ⟨o', ho', hmint, hok⟩ := hrecover o ho
    exact Or.inr ⟨cs, c, List.prefix_rfl, o', ho', hmint, hok⟩

/-- A token the last cycle offers was in no earlier known set, so only a lookup of that
cycle can speak for it. -/
theorem NoBan.recover (h : NoBan bs58 rpcUrl watchMints labels (cs ++ [c])) :
    LookupsRecover bs58 rpcUrl watchMints labels cs c := by
  intro o ho
  have hfresh : o.1.mint ∉ (discoveryRun bs58 rpcUrl watchMints labels cs).known :=
    cycleOffers_fresh ho
  rcases h o.1.mint (mem_run_snoc_known.mpr (Or.inr ⟨o, ho, rfl⟩)) with hwatch | hlooked
  · exact absurd (watch_subset_known hwatch) hfresh
  · obtain ⟨before, c', hpre, o', ho', hmint, hok⟩ := hlooked
    rcases List.prefix_concat_iff.mp hpre with hlast | hearlier
    · obtain ⟨rfl, hcycle⟩ := List.append_inj' hlast rfl
      obtain rfl : c' = c := List.head_eq_of_cons_eq hcycle
      exact ⟨o', ho', hmint, hok⟩
    · have hknown : LookedUp bs58 rpcUrl watchMints labels cs o.1.mint :=
        ⟨before, c', hearlier, o', ho', hmint, hok⟩
      exact absurd hknown.known hfresh

end Runs

/-- In every run the known set holds only watched and successfully looked up tokens at
the end of each cycle exactly when in each cycle every token offered has a lookup that
succeeds. -/
theorem no_ban_iff (bs58 : Bytes → String) (rpcUrl : Option String) (watchMints : Finset String)
    (labels : List (String × String)) (cs : List CycleInput) :
    (∀ before, before <+: cs → NoBan bs58 rpcUrl watchMints labels before) ↔
      ∀ before c, before ++ [c] <+: cs → LookupsRecover bs58 rpcUrl watchMints labels before c := by
  constructor
  · intro hnoban before c hpre
    exact (hnoban (before ++ [c]) hpre).recover
  · intro hrecover before
    induction before using List.reverseRecOn with
    | nil => exact fun _ m hm => Or.inl hm
    | append_singleton before c ih =>
      intro hpre
      exact (ih ((List.prefix_append before [c]).trans hpre)).snoc (hrecover before c hpre)

/-- The token has a new profile, no authority shows, and its pool lookup times out. -/
def failedLookup : CycleInput where
  profiles := .ok [newProfile]
  answers := fun _ => unreachable
  newPools := fun _ => ⟨.error "timeout", fun _ => .error "unused", fun _ => .error "unused"⟩
  boosted := .ok []
  boostedAnswers := fun _ => unreachable
  boostedPools := fun _ => listedPools

/-- The next cycle, its lookup ready to answer with two pools. -/
def recoveredLookup : CycleInput := { failedLookup with newPools := fun _ => listedPools }

/-- After the failed lookup the token is remembered, and the next cycle, in which the
lookup would succeed, no longer offers it. -/
theorem failed_lookup_bans :
    ¬ NoBan base58Encode none ∅ [] [failedLookup] ∧
    offersAfter base58Encode none ∅ [] [failedLookup] recoveredLookup = [] ∧
    (offersAfter base58Encode none ∅ [] [] recoveredLookup).map
      (fun o => (o.1.mint, lookupSucceeds base58Encode o)) = [("TokenAddress", true)] := by
  refine ⟨?_, by decide +kernel, by decide +kernel⟩
  intro hnoban
  have hoffers : (offersAfter base58Encode none ∅ [] [] failedLookup).map
      (fun o => (o.1.mint, lookupSucceeds base58Encode o)) = [("TokenAddress", false)] := by
    decide +kernel
  have hrecover : LookupsRecover base58Encode none ∅ [] [] failedLookup := hnoban.recover
  have hoffered : ("TokenAddress", false) ∈ (offersAfter base58Encode none ∅ [] [] failedLookup).map
      (fun o => (o.1.mint, lookupSucceeds base58Encode o)) := by
    rw [hoffers]
    exact List.mem_singleton_self _
  obtain ⟨o, ho, _⟩ := List.mem_map.mp hoffered
  obtain ⟨o', ho', _, hok⟩ := hrecover o ho
  have hsucceeded := List.mem_map_of_mem (f := fun o => (o.1.mint, lookupSucceeds base58Encode o)) ho'
  rw [hoffers, List.mem_singleton, hok] at hsucceeded
  cases congrArg Prod.snd hsucceeded

end SolanaArb.DiscoveryLoop
