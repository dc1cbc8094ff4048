import SolanaArb.Cli.KnownTokens
import SolanaArb.General.BoundedHistory

/-! # The order of the scan list

The list is the end of the labels of the command line followed by every push so far. No
token is pushed twice or pushed although it is watched: a token pushed in an earlier pass
is remembered, and one pushed in this pass is still on the list, which is longer than a
pass. So a token dropped from the list never comes back; the labels are of watched tokens.
-/
namespace SolanaArb.DiscoveryLoop
open SolanaArb.Discovery SolanaArb.General

def Pushed.entry (x : Pushed) : String × String := (x.token.mint, x.token.symbol)

/-- The entries of a state's pushes, oldest first. -/
def DiscoveryState.entries (s : DiscoveryState) : List (String × String) :=
  s.pushed.reverse.map Pushed.entry

/-- The length beyond which a push drops the oldest entry. -/
def listLimit (labels : List (String × String)) : ℕ := max 50 labels.length

theorem pushCapped_lastN {labels history : List (String × String)} (entry : String × String)
    (hlabels : labels.length ≤ history.length) :
    pushCapped (lastN (listLimit labels) history) entry =
      lastN (listLimit labels) (history ++ [entry]) := by
  rw [← lastN_snoc]
  have hlimit : listLimit labels = max 50 labels.length := rfl
  unfold pushCapped
  dsimp only
  rw [List.length_append, List.length_singleton, length_lastN]
  split
  · have hone : min (listLimit labels) history.length + 1 - listLimit labels = 1 := by omega
    rw [hone]
  · have hzero : min (listLimit labels) history.length + 1 - listLimit labels = 0 := by omega
    rw [hzero, List.drop_zero]

/-- A pass from `s` with some tokens offered so far: it has pushed `fresh`, different tokens
that `s` did not know, and the list is the end of the history with them. -/
structure Passed (labels history : List (String × String)) (s : DiscoveryState) (offered : ℕ)
    (fresh : List (String × String)) (s' : DiscoveryState) : Prop where
  list : s'.discovered = lastN (listLimit labels) (history ++ fresh)
  entries : s'.entries = s.entries ++ fresh
  few : fresh.length ≤ offered
  distinct : (fresh.map Prod.fst).Nodup
  unknown : ∀ m ∈ fresh.map Prod.fst, m ∉ s.known ∧ m ∈ s'.known
  known : s.known ⊆ s'.known

section Passes
variable {bs58 : Bytes → String} {labels history fresh : List (String × String)}
  {s s' : DiscoveryState} {offered : ℕ} {path : DiscoveryPath}

theorem offer_passed (hlabels : labels.length ≤ history.length) (hoffered : offered < 50)
    (h : Passed labels history s offered fresh s') {token : DiscoveredToken}
    (htoken : token.mint ∉ s.known) (pools : LocalScanner.Discovery) :
    ∃ fresh', Passed labels history s (offered + 1) fresh' (s'.offer bs58 path token pools) := by
  unfold DiscoveryState.offer
  dsimp only
  have hkept : Passed labels history s (offered + 1) fresh
      { s' with known := insert token.mint s'.known } := by
    refine ⟨h.list, h.entries, Nat.le_succ_of_le h.few, h.distinct, ?_, ?_⟩
    · intro m hm
      exact ⟨(h.unknown m hm).1, Finset.mem_insert_of_mem (h.unknown m hm).2⟩
    · exact h.known.trans (Finset.subset_insert _ _)
  split
  · exact ⟨fresh, hkept⟩
  · split
    · exact ⟨fresh, hkept⟩
    · next hlisted =>
      have hlimit : listLimit labels = max 50 labels.length := rfl
      have hnew : token.mint ∉ fresh.map Prod.fst := by
        intro hm
        obtain ⟨entry, hentry, hmint⟩ := List.mem_map.mp hm
        apply hlisted
        rw [List.any_eq_true]
        refine ⟨entry, ?_, beq_iff_eq.mpr hmint⟩
        rw [h.list]
        apply mem_lastN_append _ hentry
        have hfew := h.few
        omega
      refine ⟨fresh ++ [(token.mint, token.symbol)], ?_, ?_, ?_, ?_, ?_, hkept.known⟩
      · rw [h.list, pushCapped_lastN _ (by rw [List.length_append]; omega), List.append_assoc]
      · have hentries : s'.entries = s.entries ++ fresh := h.entries
        simp only [DiscoveryState.entries, List.reverse_cons, List.map_append, List.map_singleton] at *
        rw [hentries, List.append_assoc]
        rfl
      · rw [List.length_append, List.length_singleton]
        exact Nat.succ_le_succ h.few
      · rw [List.map_append, List.map_singleton]
        exact List.nodup_append_comm.mp (List.nodup_cons.mpr ⟨hnew, h.distinct⟩)
      · intro m hm
        rw [List.map_append, List.map_singleton, List.mem_append, List.mem_singleton] at hm
        rcases hm with hold | rfl
        · exact ⟨(h.unknown m hold).1, Finset.mem_insert_of_mem (h.unknown m hold).2⟩
        · exact ⟨htoken, Finset.mem_insert_self _ _⟩

variable (bs58 path) in
theorem offers_passed (hlabels : labels.length ≤ history.length)
    (hlist : s.discovered = lastN (listLimit labels) history)
    (offers : List (DiscoveredToken × ℕ)) (found : ℕ → LocalScanner.Discovery)
    (hcount : offers.length ≤ 50) (hoffers : ∀ entry ∈ offers, entry.1.mint ∉ s.known) :
    ∃ fresh, Passed labels history s offers.length fresh
      (offers.foldl (fun s entry => s.offer bs58 path entry.1 (found entry.2)) s) := by
  induction offers using List.reverseRecOn with
  | nil =>
    refine ⟨[], ?_, (List.append_nil _).symm, Nat.le_refl _, List.nodup_nil, ?_, Finset.Subset.refl _⟩
    · rw [List.append_nil]
      exact hlist
    · intro m hm
      cases hm
  | append_singleton offers entry ih =>
    rw [List.length_append, List.length_singleton] at hcount
    obtain ⟨fresh, hpassed⟩ := ih (by omega)
      (fun other hother => hoffers other (List.mem_append_left _ hother))
    rw [List.foldl_append, List.foldl_cons, List.foldl_nil, List.length_append,
      List.length_singleton]
    exact offer_passed hlabels (by omega) hpassed
      (hoffers entry (List.mem_append_right _ (List.mem_singleton_self entry))) _

end Passes

section Cycles
variable {bs58 : Bytes → String} {rpcUrl : Option String} {labels history : List (String × String)}
  {s : DiscoveryState} {c : CycleInput}

theorem discoverNewTokens_length {known : Finset String} {tokens : List DiscoveredToken}
    (h : discoverNewTokens known minLiquidityUsd rpcUrl c.profiles c.answers = .ok tokens) :
    (safeTokens tokens).length ≤ 10 := by
  cases hprofiles : c.profiles with
  | error e =>
    rw [hprofiles] at h
    cases h
  | ok profiles =>
    rw [hprofiles] at h
    obtain rfl := Except.ok.inj h
    calc _ ≤ _ := List.length_filter_le _ _
      _ ≤ _ := List.length_filterMap_le _ _
      _ ≤ 10 := by
        rw [List.length_zipIdx]
        exact List.length_take_le _ _

theorem discoverTrendingMultiPool_length {known : Finset String} {tokens : List DiscoveredToken}
    (h : discoverTrendingMultiPool known minLiquidityUsd c.boosted c.boostedAnswers = .ok tokens) :
    tokens.length ≤ 15 := by
  cases hprofiles : c.boosted with
  | error e =>
    rw [hprofiles] at h
    cases h
  | ok profiles =>
    rw [hprofiles] at h
    obtain rfl := Except.ok.inj h
    calc _ ≤ _ := List.length_filterMap_le _ _
      _ ≤ 15 := by
        rw [List.length_zipIdx]
        exact List.length_take_le _ _

theorem idle_passed (hlist : s.discovered = lastN (listLimit labels) history) :
    Passed labels history s 50 [] s := by
  refine ⟨?_, (List.append_nil _).symm, Nat.zero_le _, List.nodup_nil, ?_, Finset.Subset.refl _⟩
  · rw [List.append_nil]
    exact hlist
  · intro m hm
    cases hm

theorem Passed.mono {offered offered' : ℕ} {fresh : List (String × String)} {s' : DiscoveryState}
    (h : Passed labels history s offered fresh s') (hle : offered ≤ offered') :
    Passed labels history s offered' fresh s' :=
  ⟨h.list, h.entries, h.few.trans hle, h.distinct, h.unknown, h.known⟩

variable (bs58 rpcUrl c) in
theorem newProfiles_passed (hlabels : labels.length ≤ history.length)
    (hlist : s.discovered = lastN (listLimit labels) history) :
    ∃ fresh, Passed labels history s 50 fresh (DiscoveryState.newProfiles bs58 rpcUrl s c) := by
  cases htokens : discoverNewTokens s.known minLiquidityUsd rpcUrl c.profiles c.answers with
  | error e =>
    refine ⟨[], ?_⟩
    rw [DiscoveryState.newProfiles, htokens]
    exact idle_passed hlist
  | ok tokens =>
    have hlength := discoverNewTokens_length htokens
    have hoffers : ∀ entry ∈ (safeTokens tokens).zipIdx, entry.1.mint ∉ s.known := by
      intro entry hentry
      have hoffer : (entry.1, c.newPools entry.2) ∈ newOffers rpcUrl s c := by
        rw [newOffers, htokens]
        exact List.mem_map_of_mem hentry
      exact newOffers_fresh hoffer
    obtain ⟨fresh, hpassed⟩ := offers_passed bs58 .newProfiles hlabels hlist
      (safeTokens tokens).zipIdx c.newPools (by rw [List.length_zipIdx]; omega) hoffers
    refine ⟨fresh, ?_⟩
    rw [DiscoveryState.newProfiles, htokens]
    exact hpassed.mono (by rw [List.length_zipIdx]; omega)

variable (bs58 c) in
theorem trending_passed (hlabels : labels.length ≤ history.length)
    (hlist : s.discovered = lastN (listLimit labels) history) :
    ∃ fresh, Passed labels history s 50 fresh (s.trending bs58 c) := by
  cases htokens : discoverTrendingMultiPool s.known minLiquidityUsd c.boosted c.boostedAnswers with
  | error e =>
    refine ⟨[], ?_⟩
    rw [DiscoveryState.trending, htokens]
    exact idle_passed hlist
  | ok tokens =>
    have hlength := discoverTrendingMultiPool_length htokens
    have hoffers : ∀ entry ∈ tokens.zipIdx, entry.1.mint ∉ s.known := by
      intro entry hentry
      have hoffer : (entry.1, c.boostedPools entry.2) ∈ trendingOffers s c := by
        rw [trendingOffers, htokens]
        exact List.mem_map_of_mem hentry
      exact trendingOffers_fresh hoffer
    obtain ⟨fresh, hpassed⟩ := offers_passed bs58 .trending hlabels hlist
      tokens.zipIdx c.boostedPools (by rw [List.length_zipIdx]; omega) hoffers
    refine ⟨fresh, ?_⟩
    rw [DiscoveryState.trending, htokens]
    exact hpassed.mono (by rw [List.length_zipIdx]; omega)

end Cycles

/-- The list after some cycles is the end of the labels and the pushes so far, all of different
tokens that are remembered and not watched. -/
structure Listed (watchMints : Finset String) (labels pushes : List (String × String))
    (s : DiscoveryState) : Prop where
  list : s.discovered = lastN (listLimit labels) (labels ++ pushes)
  distinct : (pushes.map Prod.fst).Nodup
  unwatched : ∀ m ∈ pushes.map Prod.fst, m ∉ watchMints ∧ m ∈ s.known
  watched : watchMints ⊆ s.known

section Runs
variable (bs58 : Bytes → String) (rpcUrl : Option String) (watchMints : Finset String)
  (labels : List (String × String))

/-- Every entry pushed in these cycles, in order. -/
def pushesOf (cs : List CycleInput) : List (String × String) :=
  (List.range cs.length).flatMap (fun i =>
    (discoveryRun bs58 rpcUrl watchMints labels (cs.take (i + 1))).entries)

variable {bs58 rpcUrl watchMints labels}

theorem pushesOf_snoc (cs : List CycleInput) (c : CycleInput) :
    pushesOf bs58 rpcUrl watchMints labels (cs ++ [c]) =
      pushesOf bs58 rpcUrl watchMints labels cs ++
        (discoveryRun bs58 rpcUrl watchMints labels (cs ++ [c])).entries := by
  have hlength : (cs ++ [c]).length = cs.length + 1 := List.length_append
  unfold pushesOf
  rw [hlength, List.range_succ, List.flatMap_append, List.flatMap_singleton, ← hlength,
    List.take_length]
  congr 1
  apply List.flatMap_congr
  intro i hi
  rw [List.take_append_of_le_length (List.mem_range.mp hi)]

variable (bs58 rpcUrl watchMints labels) in
theorem pushesOf_append (cs cs' : List CycleInput) : ∃ later,
    pushesOf bs58 rpcUrl watchMints labels (cs ++ cs') =
      pushesOf bs58 rpcUrl watchMints labels cs ++ later := by
  induction cs' using List.reverseRecOn with
  | nil => exact ⟨[], by rw [List.append_nil, List.append_nil]⟩
  | append_singleton cs' c ih =>
    obtain ⟨later, hlater⟩ := ih
    rw [← List.append_assoc, pushesOf_snoc, hlater, List.append_assoc]
    exact ⟨_, rfl⟩

/-- Two passes, one after the other. -/
theorem Listed.passes {pushes fresh : List (String × String)} {s s' : DiscoveryState} {offered : ℕ}
    (h : Listed watchMints labels pushes s)
    (hpassed : Passed labels (labels ++ pushes) s offered fresh s') :
    Listed watchMints labels (pushes ++ fresh) s' := by
  constructor
  · rw [hpassed.list, List.append_assoc]
  · rw [List.map_append, List.nodup_append]
    refine ⟨h.distinct, hpassed.distinct, ?_⟩
    intro m hm m' hm' heq
    subst heq
    exact (hpassed.unknown m hm').1 (h.unwatched m hm).2
  · intro m hm
    rw [List.map_append, List.mem_append] at hm
    rcases hm with hold | hnew
    · exact ⟨(h.unwatched m hold).1, hpassed.known (h.unwatched m hold).2⟩
    · obtain ⟨hunknown, hknown⟩ := hpassed.unknown m hnew
      exact ⟨fun hwatched => hunknown (h.watched hwatched), hknown⟩
  · exact h.watched.trans hpassed.known

theorem cycle_listed {pushes : List (String × String)} {s : DiscoveryState} {c : CycleInput}
    (h : Listed watchMints labels pushes s) :
    Listed watchMints labels (pushes ++ (s.cycle bs58 rpcUrl c).entries)
      (s.cycle bs58 rpcUrl c) := by
  have hlabels (pushes : List (String × String)) : labels.length ≤ (labels ++ pushes).length := by
    rw [List.length_append]
    exact Nat.le_add_right _ _
  have hstart : Listed watchMints labels pushes { s with pushed := [] } :=
    ⟨h.list, h.distinct, h.unwatched, h.watched⟩
  obtain ⟨first, hfirst⟩ := newProfiles_passed bs58 rpcUrl c (hlabels pushes) hstart.list
  have hmid := hstart.passes hfirst
  obtain ⟨second, hsecond⟩ := trending_passed bs58 c (hlabels (pushes ++ first)) hmid.list
  have hentries : (s.cycle bs58 rpcUrl c).entries = first ++ second := by
    rw [DiscoveryState.cycle, hsecond.entries, hfirst.entries]
    rfl
  rw [hentries, ← List.append_assoc]
  exact hmid.passes hsecond

variable (bs58 rpcUrl watchMints labels) in
theorem run_listed (cs : List CycleInput) :
    Listed watchMints labels (pushesOf bs58 rpcUrl watchMints labels cs)
      (discoveryRun bs58 rpcUrl watchMints labels cs) := by
  induction cs using List.reverseRecOn with
  | nil =>
    refine ⟨?_, List.nodup_nil, ?_, Finset.Subset.refl _⟩
    · have hle : (labels ++ []).length ≤ listLimit labels := by
        rw [List.append_nil]
        exact le_max_right _ _
      exact ((lastN_of_length_le hle).trans (List.append_nil _)).symm
    · intro m hm
      cases hm
  | append_singleton cs c ih =>
    have hrun : discoveryRun bs58 rpcUrl watchMints labels (cs ++ [c]) =
        (discoveryRun bs58 rpcUrl watchMints labels cs).cycle bs58 rpcUrl c := by
      simp [discoveryRun]
    rw [pushesOf_snoc, hrun]
    exact cycle_listed ih

/-- The tokens on the scan list after some cycles. -/
def listedAfter (bs58 : Bytes → String) (rpcUrl : Option String) (watchMints : Finset String)
    (labels : List (String × String)) (cs : List CycleInput) : List String :=
  (discoveryRun bs58 rpcUrl watchMints labels cs).discovered.map Prod.fst

theorem listedAfter_eq (cs : List CycleInput) :
    listedAfter bs58 rpcUrl watchMints labels cs = lastN (listLimit labels)
      (labels.map Prod.fst ++ (pushesOf bs58 rpcUrl watchMints labels cs).map Prod.fst) := by
  rw [listedAfter, (run_listed bs58 rpcUrl watchMints labels cs).list, lastN, List.map_drop,
    List.map_append, lastN, List.length_append, List.length_append, List.length_map,
    List.length_map]

theorem dropped_stays (hlabels : ∀ entry ∈ labels, entry.1 ∈ watchMints)
    {cs cs' cs'' : List CycleInput} {m : String}
    (hlisted : m ∈ listedAfter bs58 rpcUrl watchMints labels cs)
    (hdropped : m ∉ listedAfter bs58 rpcUrl watchMints labels (cs ++ cs')) :
    m ∉ listedAfter bs58 rpcUrl watchMints labels (cs ++ cs' ++ cs'') := by
  intro hback
  obtain ⟨later, hlater⟩ := pushesOf_append bs58 rpcUrl watchMints labels cs cs'
  obtain ⟨latest, hlatest⟩ := pushesOf_append bs58 rpcUrl watchMints labels (cs ++ cs') cs''
  have hall := run_listed bs58 rpcUrl watchMints labels (cs ++ cs' ++ cs'')
  rw [listedAfter_eq, hlatest, List.map_append, ← List.append_assoc] at hback
  rw [listedAfter_eq] at hdropped
  have hpushed := mem_of_mem_lastN_append hback hdropped
  rw [listedAfter_eq] at hlisted
  rcases List.mem_append.mp (List.mem_of_mem_drop hlisted) with hlabel | hearlier
  · obtain ⟨entry, hentry, rfl⟩ := List.mem_map.mp hlabel
    refine (hall.unwatched entry.1 ?_).1 (hlabels entry hentry)
    rw [hlatest, List.map_append]
    exact List.mem_append_right _ hpushed
  · have hdistinct := hall.distinct
    rw [hlatest, List.map_append, List.nodup_append] at hdistinct
    refine hdistinct.2.2 m ?_ m hpushed rfl
    rw [hlater, List.map_append]
    exact List.mem_append_left _ hearlier

end Runs

/-- In every run of discovery cycles the scan list is the end of the labels followed by the
pushes, no longer than fifty entries or the labels, and no token is pushed twice or pushed
while it is watched. Where the labels are of watched tokens, as the command line makes them, a
token that has dropped off never comes back. -/
theorem scan_list_order (bs58 : Bytes → String) (rpcUrl : Option String)
    (watchMints : Finset String) (labels : List (String × String)) (cs : List CycleInput) :
    (discoveryRun bs58 rpcUrl watchMints labels cs).discovered =
      lastN (listLimit labels) (labels ++ pushesOf bs58 rpcUrl watchMints labels cs) ∧
    ((pushesOf bs58 rpcUrl watchMints labels cs).map Prod.fst).Nodup ∧
    (∀ m ∈ (pushesOf bs58 rpcUrl watchMints labels cs).map Prod.fst, m ∉ watchMints) ∧
    ((∀ entry ∈ labels, entry.1 ∈ watchMints) → ∀ cs' cs'' m,
      m ∈ listedAfter bs58 rpcUrl watchMints labels cs →
      m ∉ listedAfter bs58 rpcUrl watchMints labels (cs ++ cs') →
      m ∉ listedAfter bs58 rpcUrl watchMints labels (cs ++ cs' ++ cs'')) := by
  have hlisted := run_listed bs58 rpcUrl watchMints labels cs
  exact ⟨hlisted.list, hlisted.distinct, fun m hm => (hlisted.unwatched m hm).1,
    fun hlabels cs' cs'' m => dropped_stays hlabels⟩

end SolanaArb.DiscoveryLoop
