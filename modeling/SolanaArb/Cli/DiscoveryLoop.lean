import SolanaArb.Feed.Discovery
import SolanaArb.Sim.PoolRegistry
import SolanaArb.General.Base58
import Mathlib.Data.List.Induction

/-! # The discovery loop

Each cycle looks for new tokens and then for boosted ones. A token with two pools goes on
the scan list, which drops its oldest entry beyond fifty. New tokens go there only with a
safe verdict; boosted ones are taken to be established and are not checked at all.
-/
namespace SolanaArb.DiscoveryLoop
open SolanaArb.Discovery SolanaArb.General

inductive DiscoveryPath
  | newProfiles | trending
  deriving DecidableEq, Repr

structure Pushed where
  path : DiscoveryPath
  token : DiscoveredToken
  /-- What the discovery of its pools observed. -/
  pools : LocalScanner.Discovery

structure DiscoveryState where
  known : Finset String
  discovered : List (String × String)
  /-- Not in the program: what the cycle has pushed onto the list so far. -/
  pushed : List Pushed

/-- All that one cycle observes; the pools are those of the tokens in their order. -/
structure CycleInput where
  profiles : Except String (List TokenProfile)
  answers : ℕ → Answers
  newPools : ℕ → LocalScanner.Discovery
  boosted : Except String (List TokenProfile)
  boostedAnswers : ℕ → Answers
  boostedPools : ℕ → LocalScanner.Discovery

def minLiquidityUsd : ℚ := 5000
def maxLiquidityUsd : ℚ := 1000000

/-- The list with a token at its end, less the oldest beyond fifty. -/
def pushCapped (list : List (String × String)) (entry : String × String) :
    List (String × String) :=
  let list := list ++ [entry]
  if 50 < list.length then list.drop 1 else list

section Cycle
variable (bs58 : Bytes → String)

/-- A failed discovery counts as no pools. -/
def poolCount (pools : LocalScanner.Discovery) : ℕ :=
  match LocalScanner.discoverPoolsForToken bs58 pools with
  | .ok found => found.length
  | .error _ => 0

def DiscoveryState.offer (s : DiscoveryState) (path : DiscoveryPath) (token : DiscoveredToken)
    (pools : LocalScanner.Discovery) : DiscoveryState :=
  let s := { s with known := insert token.mint s.known }
  if poolCount bs58 pools < 2 then s
  else if s.discovered.any (fun entry => entry.1 == token.mint) then s
  else { s with
    discovered := pushCapped s.discovered (token.mint, token.symbol)
    pushed := ⟨path, token, pools⟩ :: s.pushed }

def DiscoveryState.offerAll (s : DiscoveryState) (path : DiscoveryPath)
    (tokens : List DiscoveredToken) (pools : ℕ → LocalScanner.Discovery) : DiscoveryState :=
  tokens.zipIdx.foldl (fun s entry => s.offer bs58 path entry.1 (pools entry.2)) s

def safeTokens (tokens : List DiscoveredToken) : List DiscoveredToken :=
  tokens.filter (fun t => t.safe && decide (t.liquidityUsd < maxLiquidityUsd))

variable (rpcUrl : Option String)

def DiscoveryState.newProfiles (s : DiscoveryState) (c : CycleInput) : DiscoveryState :=
  match discoverNewTokens s.known minLiquidityUsd rpcUrl c.profiles c.answers with
  | .ok tokens => s.offerAll bs58 .newProfiles (safeTokens tokens) c.newPools
  | .error _ => s

def DiscoveryState.trending (s : DiscoveryState) (c : CycleInput) : DiscoveryState :=
  match discoverTrendingMultiPool s.known minLiquidityUsd c.boosted c.boostedAnswers with
  | .ok tokens => s.offerAll bs58 .trending tokens c.boostedPools
  | .error _ => s

def DiscoveryState.cycle (s : DiscoveryState) (c : CycleInput) : DiscoveryState :=
  (DiscoveryState.newProfiles bs58 rpcUrl { s with pushed := [] } c).trending bs58 c

/-- The loop after these cycles. -/
def discoveryRun (watchMints : Finset String) (labels : List (String × String))
    (cs : List CycleInput) : DiscoveryState :=
  cs.foldl (DiscoveryState.cycle bs58 rpcUrl) ⟨watchMints, labels, []⟩

end Cycle

section Offers
variable {bs58 : Bytes → String} {s : DiscoveryState} {path : DiscoveryPath}
  {token : DiscoveredToken} {pools : LocalScanner.Discovery} {x : Pushed}

/-- What an offer does: nothing to the list, or one push. -/
theorem offer_cases (bs58 : Bytes → String) (s : DiscoveryState) (path : DiscoveryPath)
    (token : DiscoveredToken) (pools : LocalScanner.Discovery) :
    (s.offer bs58 path token pools = { s with known := insert token.mint s.known }) ∨
    2 ≤ poolCount bs58 pools ∧ s.offer bs58 path token pools =
      { known := insert token.mint s.known
        discovered := pushCapped s.discovered (token.mint, token.symbol)
        pushed := ⟨path, token, pools⟩ :: s.pushed } := by
  unfold DiscoveryState.offer
  dsimp only
  split
  · exact Or.inl rfl
  · next hmany =>
    split
    · exact Or.inl rfl
    · exact Or.inr ⟨not_lt.mp hmany, rfl⟩

theorem mem_pushCapped {list : List (String × String)} {entry other : String × String}
    (h : other ∈ pushCapped list entry) : other ∈ list ∨ other = entry := by
  have hmem : other ∈ list ++ [entry] := by
    unfold pushCapped at h
    dsimp only at h
    split at h
    · exact List.mem_of_mem_drop h
    · exact h
  rcases List.mem_append.mp hmem with hold | hnew
  · exact Or.inl hold
  · exact Or.inr (List.mem_singleton.mp hnew)

/-- What a pass over some tokens pushes comes from one of them. -/
theorem offerAll_pushed {tokens : List DiscoveredToken} {found : ℕ → LocalScanner.Discovery}
    (h : x ∈ (s.offerAll bs58 path tokens found).pushed) :
    x ∈ s.pushed ∨ x.path = path ∧ x.token ∈ tokens ∧ 2 ≤ poolCount bs58 x.pools := by
  have hall : ∀ x ∈ (s.offerAll bs58 path tokens found).pushed,
      x ∈ s.pushed ∨ x.path = path ∧ x.token ∈ tokens ∧ 2 ≤ poolCount bs58 x.pools := by
    apply List.foldlRecOn tokens.zipIdx _ (motive := fun s' : DiscoveryState => ∀ x ∈ s'.pushed,
      x ∈ s.pushed ∨ x.path = path ∧ x.token ∈ tokens ∧ 2 ≤ poolCount bs58 x.pools)
    · intro x hx
      exact Or.inl hx
    · intro s' hs' entry hentry x hx
      have htoken : entry.1 ∈ tokens := (List.mem_zipIdx' hentry).2 ▸ List.getElem_mem _
      rcases offer_cases bs58 s' path entry.1 (found entry.2) with heq | ⟨hmany, heq⟩
      · rw [heq] at hx
        exact hs' x hx
      · rw [heq] at hx
        rcases List.mem_cons.mp hx with rfl | hx
        · exact Or.inr ⟨rfl, htoken, hmany⟩
        · exact hs' x hx
  exact hall x h

/-- The list of `s'` has entries of `s` and pushed tokens only. -/
structure Extends (s s' : DiscoveryState) : Prop where
  entries : ∀ entry ∈ s'.discovered, entry ∈ s.discovered ∨
    ∃ x ∈ s'.pushed, entry = (x.token.mint, x.token.symbol)
  pushed : s.pushed ⊆ s'.pushed

theorem Extends.refl (s : DiscoveryState) : Extends s s :=
  ⟨fun _ h => Or.inl h, fun _ h => h⟩

theorem Extends.trans {s s' s'' : DiscoveryState} (h : Extends s s') (h' : Extends s' s'') :
    Extends s s'' := by
  refine ⟨?_, fun x hx => h'.pushed (h.pushed hx)⟩
  intro entry hentry
  rcases h'.entries entry hentry with hold | hnew
  · rcases h.entries entry hold with hold | ⟨x, hx, heq⟩
    · exact Or.inl hold
    · exact Or.inr ⟨x, h'.pushed hx, heq⟩
  · exact Or.inr hnew

theorem offer_extends (bs58 : Bytes → String) (s : DiscoveryState) (path : DiscoveryPath)
    (token : DiscoveredToken) (pools : LocalScanner.Discovery) :
    Extends s (s.offer bs58 path token pools) := by
  rcases offer_cases bs58 s path token pools with heq | ⟨_, heq⟩
  · rw [heq]
    exact ⟨fun _ h => Or.inl h, fun _ h => h⟩
  · rw [heq]
    refine ⟨?_, fun x hx => List.mem_cons_of_mem _ hx⟩
    intro entry hentry
    rcases mem_pushCapped hentry with hold | hnew
    · exact Or.inl hold
    · exact Or.inr ⟨_, List.mem_cons_self, hnew⟩

theorem offerAll_extends (bs58 : Bytes → String) (s : DiscoveryState) (path : DiscoveryPath)
    (tokens : List DiscoveredToken) (found : ℕ → LocalScanner.Discovery) :
    Extends s (s.offerAll bs58 path tokens found) := by
  apply List.foldlRecOn tokens.zipIdx _ (motive := fun s' => Extends s s')
  · exact Extends.refl s
  · intro s' h entry _
    exact h.trans (offer_extends bs58 s' path entry.1 (found entry.2))

end Offers

/-- What a token must show to be pushed: two pools, and a safe verdict of a new token
whose mint account, if it was read, shows no authority, or two listings of a boosted
token that was not known. -/
def Vetted (bs58 : Bytes → String) (rpcUrl : Option String) (s : DiscoveryState) (c : CycleInput)
    (x : Pushed) : Prop :=
  2 ≤ poolCount bs58 x.pools ∧
  match x.path with
  | .newProfiles => x.token.liquidityUsd < maxLiquidityUsd ∧ x.token.safe = true ∧
    ∃ profiles i, c.profiles = .ok profiles ∧
      Discovered s.known minLiquidityUsd rpcUrl profiles c.answers i x.token ∧
      (MintRead rpcUrl x.token.mint (c.answers i) →
        AuthoritiesAbsent rpcUrl x.token.mint (c.answers i).account)
  | .trending => ∃ profiles i, c.boosted = .ok profiles ∧
    Boosted (DiscoveryState.newProfiles bs58 rpcUrl { s with pushed := [] } c).known minLiquidityUsd
      profiles c.boostedAnswers i x.token ∧
    ListedOnTwoDexes minLiquidityUsd x.token.mint (c.boostedAnswers i)

section Cycles
variable {bs58 : Bytes → String} {rpcUrl : Option String} {s : DiscoveryState} {c : CycleInput}
  {x : Pushed}

/-- A failed discovery changes nothing; otherwise its safe tokens are offered. -/
theorem newProfiles_cases (bs58 : Bytes → String) (rpcUrl : Option String) (s : DiscoveryState)
    (c : CycleInput) : DiscoveryState.newProfiles bs58 rpcUrl s c = s ∨
    ∃ profiles tokens, c.profiles = .ok profiles ∧
      discoverNewTokens s.known minLiquidityUsd rpcUrl (.ok profiles) c.answers = .ok tokens ∧
      DiscoveryState.newProfiles bs58 rpcUrl s c =
        s.offerAll bs58 .newProfiles (safeTokens tokens) c.newPools := by
  unfold DiscoveryState.newProfiles
  cases c.profiles with
  | error e => exact Or.inl rfl
  | ok profiles => exact Or.inr ⟨profiles, _, rfl, rfl, rfl⟩

theorem trending_cases (bs58 : Bytes → String) (s : DiscoveryState) (c : CycleInput) :
    s.trending bs58 c = s ∨
    ∃ profiles tokens, c.boosted = .ok profiles ∧
      discoverTrendingMultiPool s.known minLiquidityUsd (.ok profiles) c.boostedAnswers =
        .ok tokens ∧
      s.trending bs58 c = s.offerAll bs58 .trending tokens c.boostedPools := by
  unfold DiscoveryState.trending
  cases c.boosted with
  | error e => exact Or.inl rfl
  | ok profiles => exact Or.inr ⟨profiles, _, rfl, rfl, rfl⟩

theorem newProfiles_vetted
    (h : x ∈ (DiscoveryState.newProfiles bs58 rpcUrl { s with pushed := [] } c).pushed) :
    Vetted bs58 rpcUrl s c x := by
  rcases newProfiles_cases bs58 rpcUrl { s with pushed := [] } c with
    heq | ⟨profiles, tokens, hprofiles, hfound, heq⟩
  · rw [heq] at h
    exact absurd h List.not_mem_nil
  · rw [heq] at h
    rcases offerAll_pushed h with hold | ⟨hpath, htoken, hmany⟩
    · exact absurd hold List.not_mem_nil
    · obtain ⟨hmem, hkeep⟩ := List.mem_filter.mp htoken
      rw [Bool.and_eq_true, decide_eq_true_eq] at hkeep
      obtain ⟨i, profile, hprofile, hdiscover⟩ := (mem_discoverNewTokens hfound).mp hmem
      obtain ⟨hmint, hsafe, _⟩ := discoverToken_spec hdiscover
      have hverdict := safetyVerdict_fst.mp (hsafe.symm.trans hkeep.1)
      refine ⟨hmany, ?_⟩
      rw [hpath]
      exact ⟨hkeep.2, hkeep.1, profiles, i, hprofiles, ⟨profile, hprofile, hdiscover⟩,
        hmint ▸ hverdict.1⟩

theorem cycle_vetted (h : x ∈ (s.cycle bs58 rpcUrl c).pushed) : Vetted bs58 rpcUrl s c x := by
  unfold DiscoveryState.cycle at h
  rcases trending_cases bs58 (DiscoveryState.newProfiles bs58 rpcUrl { s with pushed := [] } c) c
    with heq | ⟨profiles, tokens, hboosted, hfound, heq⟩
  · rw [heq] at h
    exact newProfiles_vetted h
  · rw [heq] at h
    rcases offerAll_pushed h with hold | ⟨hpath, htoken, hmany⟩
    · exact newProfiles_vetted hold
    · obtain ⟨i, profile, hprofile, hdiscover⟩ :=
        (mem_discoverTrendingMultiPool hfound).mp htoken
      obtain ⟨hmint, hlisted⟩ := discoverTrendingToken_spec hdiscover
      refine ⟨hmany, ?_⟩
      rw [hpath]
      exact ⟨profiles, i, hboosted, ⟨profile, hprofile, hdiscover⟩, hmint ▸ hlisted⟩

theorem cycle_extends (bs58 : Bytes → String) (rpcUrl : Option String) (s : DiscoveryState)
    (c : CycleInput) : Extends { s with pushed := [] } (s.cycle bs58 rpcUrl c) := by
  unfold DiscoveryState.cycle
  have hnew : Extends { s with pushed := [] }
      (DiscoveryState.newProfiles bs58 rpcUrl { s with pushed := [] } c) := by
    rcases newProfiles_cases bs58 rpcUrl { s with pushed := [] } c with
      heq | ⟨_, tokens, _, _, heq⟩
    · rw [heq]
      exact Extends.refl _
    · rw [heq]
      exact offerAll_extends bs58 _ _ _ _
  apply hnew.trans
  rcases trending_cases bs58 (DiscoveryState.newProfiles bs58 rpcUrl { s with pushed := [] } c) c
    with heq | ⟨_, tokens, _, _, heq⟩
  · rw [heq]
    exact Extends.refl _
  · rw [heq]
    exact offerAll_extends bs58 _ _ _ _

end Cycles

/-- In every cycle of every run all that is pushed is vetted by the path that proposes it,
and the scan list holds labels of the command line and pushed tokens only. -/
theorem scan_list_vetted (bs58 : Bytes → String) (rpcUrl : Option String)
    (watchMints : Finset String) (labels : List (String × String)) (cs : List CycleInput) :
    (∀ c, ∀ x ∈ ((discoveryRun bs58 rpcUrl watchMints labels cs).cycle bs58 rpcUrl c).pushed,
      Vetted bs58 rpcUrl (discoveryRun bs58 rpcUrl watchMints labels cs) c x) ∧
    ∀ entry ∈ (discoveryRun bs58 rpcUrl watchMints labels cs).discovered, entry ∈ labels ∨
      ∃ before c x, before ++ [c] <+: cs ∧
        x ∈ ((discoveryRun bs58 rpcUrl watchMints labels before).cycle bs58 rpcUrl c).pushed ∧
        entry = (x.token.mint, x.token.symbol) := by
  refine ⟨fun c x hx => cycle_vetted hx, ?_⟩
  induction cs using List.reverseRecOn with
  | nil => exact fun entry hentry => Or.inl hentry
  | append_singleton cs c ih =>
    intro entry hentry
    have hrun : discoveryRun bs58 rpcUrl watchMints labels (cs ++ [c]) =
        (discoveryRun bs58 rpcUrl watchMints labels cs).cycle bs58 rpcUrl c := by
      simp [discoveryRun]
    rw [hrun] at hentry
    rcases (cycle_extends bs58 rpcUrl _ c).entries entry hentry with hold | ⟨x, hx, heq⟩
    · rcases ih entry hold with hlabel | ⟨before, c', x, hpre, hx, heq⟩
      · exact Or.inl hlabel
      · exact Or.inr ⟨before, c', x, hpre.trans (List.prefix_append cs [c]), hx, heq⟩
    · exact Or.inr ⟨cs, c, x, List.prefix_rfl, hx, heq⟩

/-- A mint account with a mint authority. -/
def mintableAccount : Bytes := 1 :: List.replicate 81 0

/-- The token is listed on Raydium and Orca, and its mint account can be read. -/
def mintableAnswers : Answers :=
  ⟨0, .ok (some [listedPair, { listedPair with dexId := "orca" }]), .ok (some [listedPair]),
    .ok (some [some mintableAccount]), .ok none⟩

def listedPools : LocalScanner.Discovery where
  response := .ok (some [⟨"OrcaPool", "orca", "TokenAddress", wsolMint, some (some 9000)⟩,
    ⟨"CurvePool", "pumpfun", "TokenAddress", wsolMint, some (some 9000)⟩])
  raydiumRpc := fun _ => .error "unused"
  pumpswapRpc := fun _ => .error "unused"

/-- The token has a new profile and is boosted. -/
def boostedCycle : CycleInput where
  profiles := .ok [newProfile]
  answers := fun _ => mintableAnswers
  newPools := fun _ => listedPools
  boosted := .ok [newProfile]
  boostedAnswers := fun _ => mintableAnswers
  boostedPools := fun _ => listedPools

/-- The token is judged unsafe for its mint authority and pushed in the same cycle. -/
theorem unsafe_token_pushed :
    (discoverNewTokens ∅ minLiquidityUsd (some "https://rpc") boostedCycle.profiles
      boostedCycle.answers).map (List.map (fun t => (t.mint, t.safe, t.safetyNote))) =
        .ok [("TokenAddress", false, "has mint authority (can inflate)")] ∧
    authorityPresent mintableAccount mintAuthorityOffset = true ∧
    ((discoveryRun base58Encode (some "https://rpc") ∅ [] []).cycle base58Encode
      (some "https://rpc") boostedCycle).pushed.map (fun x => (x.path, x.token.mint)) =
        [(.trending, "TokenAddress")] :=
  ⟨by decide +kernel, by decide +kernel, by decide +kernel⟩

end SolanaArb.DiscoveryLoop
