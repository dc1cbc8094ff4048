import SolanaArb.Feed.DexScreener
import SolanaArb.Feed.RugCheck
import SolanaArb.General.BestFold
import SolanaArb.General.Except

/-! # Discovery of new tokens

One discovery looks at ten new Solana tokens at most. A token with a pair is reported
with a safety verdict, from its mint account and its RugCheck report. Each of the two
counts as passed when it cannot be had, so a token with neither is reported safe. A
second discovery looks at fifteen boosted tokens and asks only for pairs on two DEXs.
-/
namespace SolanaArb.Discovery
open SolanaArb.RugCheck SolanaArb.General

structure DiscoveredToken where
  mint : String
  symbol : String
  liquidityUsd : ℚ
  dex : Dex
  pairAddress : String
  safe : Bool
  safetyNote : String
  deriving DecidableEq, Repr

structure TokenProfile where
  tokenAddress : String
  chainId : String
  deriving DecidableEq, Repr

/-- The answer to `getAccountInfo`: an error, no account, or the texts of its data, each
with the bytes it decodes to. -/
abbrev AccountResponse := Except String (Option (List (Option Bytes)))

def fetchAccountData (address : String) (response : AccountResponse) : Except String Bytes := do
  let value ← response
  let data ← okOr value s!"Account {address} not found"
  let text ← okOr data.head? s!"No data in account {address}"
  okOr text "base64 decode failed"

/-- The tag of an optional authority of a mint account says that there is one. -/
def authorityPresent (data : Bytes) (offset : ℕ) : Bool := leNat (slice data offset 4) == 1

def mintAuthorityOffset : ℕ := 0
def freezeAuthorityOffset : ℕ := 46
def mintAccountLen : ℕ := 82

def authorityWarnings (data : Bytes) : List String :=
  (if authorityPresent data mintAuthorityOffset then ["has mint authority (can inflate)"] else []) ++
  (if authorityPresent data freezeAuthorityOffset then ["has freeze authority (can freeze)"] else [])

def checkTokenSafety (mint : String) (response : AccountResponse) : Bool × String :=
  match fetchAccountData mint response with
  | .ok data =>
    if data.length < mintAccountLen then (false, "mint account too short")
    else if authorityWarnings data = [] then (true, "authorities revoked")
    else (false, ", ".intercalate (authorityWarnings data))
  | .error e => (false, "RPC error: " ++ e)

def startsWith (text start : String) : Bool := start.toList.isPrefixOf text.toList

/-- What one discovery observes about a token. -/
structure Answers where
  now : Timestamp
  pairs : DexScreener.Response
  symbol : DexScreener.Response
  account : AccountResponse
  report : ReportResponse

def rpcVerdict (rpcUrl : Option String) (mint : String) (answers : Answers) : Bool × String :=
  match rpcUrl with
  | some _ =>
    let result := checkTokenSafety mint answers.account
    if startsWith result.2 "RPC error" then (true, "RPC unavailable, RugCheck only") else result
  | none => (true, "no RPC")

def safetyVerdict (rpcUrl : Option String) (mint : String) (answers : Answers) : Bool × String :=
  let (rpcSafe, rpcNote) := rpcVerdict rpcUrl mint answers
  if !rpcSafe then (false, rpcNote)
  else
    match answers.report with
    | .ok (some report) =>
      let score := report.score.getD 0
      let topPct := report.topHolderPct
      (decide (50 ≤ score) && decide (topPct < 30),
        s!"{rpcNote} | rugcheck: {fixedDecimals 0 score} ({report.riskLevel}) top10: {fixedDecimals 1 topPct}%")
    | .ok none => (rpcSafe, s!"{rpcNote} | rugcheck: unavailable")
    | .error _ => (rpcSafe, s!"{rpcNote} | rugcheck: error")

def symbolOf (mint : String) (response : DexScreener.Response) : String :=
  ((DexScreener.getTokenSymbol response).toOption.join).getD (shortMint mint)

/-- The token with its pair of the highest liquidity, the last of several. -/
def discoverToken (minLiquidity : ℚ) (rpcUrl : Option String) (mint : String) (answers : Answers) :
    Option DiscoveredToken := do
  let pairs ← (DexScreener.getAllPairs mint minLiquidity answers.now answers.pairs).toOption
  let best ← bestOf PriceQuote.liquidityUsd pairs.reverse
  let (safe, note) := safetyVerdict rpcUrl mint answers
  some {
    mint := mint
    symbol := symbolOf mint answers.symbol
    liquidityUsd := best.liquidityUsd
    dex := best.dex
    pairAddress := best.poolAddress.getD ""
    safe := safe
    safetyNote := note }

def solanaTokens (known : Finset String) (profiles : List TokenProfile) : List TokenProfile :=
  profiles.filter (fun t => t.chainId = "solana" ∧ t.tokenAddress ∉ known)

def discoverNewTokens (known : Finset String) (minLiquidity : ℚ) (rpcUrl : Option String)
    (profiles : Except String (List TokenProfile)) (answers : ℕ → Answers) :
    Except String (List DiscoveredToken) :=
  profiles.map (fun profiles =>
    (((solanaTokens known profiles).take 10).zipIdx).filterMap (fun entry =>
      discoverToken minLiquidity rpcUrl entry.1.tokenAddress (answers entry.2)))

/-- A boosted token with pairs on two DEXs counts as safe without any check. -/
def discoverTrendingToken (minLiquidity : ℚ) (mint : String) (answers : Answers) :
    Option DiscoveredToken := do
  let pairs ← (DexScreener.getAllPairs mint minLiquidity answers.now answers.pairs).toOption
  let dexes := (pairs.map (fun p => p.dex.asStr)).toFinset
  if pairs.length < 2 ∨ dexes.card < 2 then none
  else
    let best ← bestOf PriceQuote.liquidityUsd pairs.reverse
    some {
      mint := mint
      symbol := symbolOf mint answers.symbol
      liquidityUsd := best.liquidityUsd
      dex := best.dex
      pairAddress := best.poolAddress.getD ""
      safe := true
      safetyNote := s!"{pairs.length} pools across {dexes.card} DEXs" }

def discoverTrendingMultiPool (known : Finset String) (minLiquidity : ℚ)
    (profiles : Except String (List TokenProfile)) (answers : ℕ → Answers) :
    Except String (List DiscoveredToken) :=
  profiles.map (fun profiles =>
    (((solanaTokens known profiles).take 15).zipIdx).filterMap (fun entry =>
      discoverTrendingToken minLiquidity entry.1.tokenAddress (answers entry.2)))

/-- The mint account was read and neither authority found. -/
def AuthoritiesAbsent (rpcUrl : Option String) (mint : String) (response : AccountResponse) : Prop :=
  rpcUrl.isSome ∧ ∃ data, fetchAccountData mint response = .ok data ∧ mintAccountLen ≤ data.length ∧
    authorityPresent data mintAuthorityOffset = false ∧
    authorityPresent data freezeAuthorityOffset = false

def Evidence (rpcUrl : Option String) (mint : String) (answers : Answers) : Prop :=
  AuthoritiesAbsent rpcUrl mint answers.account ∨
    ∃ report, answers.report = .ok (some report) ∧ Passes report

def MintRead (rpcUrl : Option String) (mint : String) (answers : Answers) : Prop :=
  rpcUrl.isSome ∧ ∃ data, fetchAccountData mint answers.account = .ok data

def ReportObtained (answers : Answers) : Prop := ∃ report, answers.report = .ok (some report)

section Verdict
variable {rpcUrl : Option String} {mint : String} {answers : Answers} {data : Bytes}

theorem authorityWarnings_eq_nil : authorityWarnings data = [] ↔
    authorityPresent data mintAuthorityOffset = false ∧
    authorityPresent data freezeAuthorityOffset = false := by
  unfold authorityWarnings
  cases authorityPresent data mintAuthorityOffset <;>
    cases authorityPresent data freezeAuthorityOffset <;> simp

theorem startsWith_append (start rest : String) : startsWith (start ++ rest) start = true := by
  simp [startsWith]

/-- Only a failed fetch is noted as an RPC error. -/
theorem checkTokenSafety_note (hread : fetchAccountData mint answers.account = .ok data) :
    startsWith (checkTokenSafety mint answers.account).2 "RPC error" = false := by
  unfold checkTokenSafety
  rw [hread]
  dsimp only
  split
  · decide +kernel
  · split
    · decide +kernel
    · unfold authorityWarnings
      cases authorityPresent data mintAuthorityOffset <;>
        cases authorityPresent data freezeAuthorityOffset <;> decide +kernel

theorem checkTokenSafety_fst : (checkTokenSafety mint answers.account).1 = true ↔
    AuthoritiesAbsent (some "") mint answers.account := by
  unfold checkTokenSafety AuthoritiesAbsent
  cases fetchAccountData mint answers.account with
  | error e => simp
  | ok data =>
    simp only [Except.ok.injEq, exists_eq_left', ← authorityWarnings_eq_nil]
    split
    · next hshort => simp [not_le.mpr hshort]
    · next hlong =>
      split
      · next hnone => simp [hnone, not_lt.mp hlong]
      · next hsome => simp [hsome]

/-- Without a mint account the on-chain check passes. -/
theorem rpcVerdict_fst : (rpcVerdict rpcUrl mint answers).1 = true ↔
    (MintRead rpcUrl mint answers → AuthoritiesAbsent rpcUrl mint answers.account) := by
  unfold rpcVerdict MintRead
  cases rpcUrl with
  | none => simp
  | some url =>
    cases hread : fetchAccountData mint answers.account with
    | error e =>
      have hnote : startsWith (checkTokenSafety mint answers.account).2 "RPC error" = true := by
        have htext : "RPC error: " ++ e = "RPC error" ++ (": " ++ e) := by
          rw [← String.append_assoc]
          rfl
        simp only [checkTokenSafety, hread, htext]
        exact startsWith_append "RPC error" (": " ++ e)
      simp [hnote]
    | ok data =>
      have hnote := checkTokenSafety_note hread
      simp only [hnote, Bool.false_eq_true, if_false, checkTokenSafety_fst]
      simp [AuthoritiesAbsent]

/-- A token is safe when its mint account, if read, shows no authority, and its report,
if obtained, passes. -/
theorem safetyVerdict_fst : (safetyVerdict rpcUrl mint answers).1 = true ↔
    (MintRead rpcUrl mint answers → AuthoritiesAbsent rpcUrl mint answers.account) ∧
    ∀ report, answers.report = .ok (some report) → Passes report := by
  unfold safetyVerdict
  rw [← rpcVerdict_fst]
  obtain ⟨rpcSafe, rpcNote⟩ := rpcVerdict rpcUrl mint answers
  cases rpcSafe with
  | false => simp
  | true =>
    cases answers.report with
    | error e => simp
    | ok found =>
      cases found with
      | none => simp
      | some report => simp [Passes]

theorem evidence_iff_of_safe (hsafe : (safetyVerdict rpcUrl mint answers).1 = true) :
    Evidence rpcUrl mint answers ↔ MintRead rpcUrl mint answers ∨ ReportObtained answers := by
  obtain ⟨hread, hreport⟩ := safetyVerdict_fst.mp hsafe
  constructor
  · rintro (⟨hurl, data, hdata, _⟩ | ⟨report, hfound, _⟩)
    · exact Or.inl ⟨hurl, data, hdata⟩
    · exact Or.inr ⟨report, hfound⟩
  · rintro (hmint | ⟨report, hfound⟩)
    · exact Or.inl (hread hmint)
    · exact Or.inr ⟨report, hfound, hreport report hfound⟩

/-- Without any evidence the verdict is that the token is safe. -/
theorem safe_of_nothing (hread : ¬ MintRead rpcUrl mint answers)
    (hreport : ¬ ReportObtained answers) : (safetyVerdict rpcUrl mint answers).1 = true := by
  rw [safetyVerdict_fst]
  exact ⟨fun h => absurd h hread, fun report h => absurd ⟨report, h⟩ hreport⟩

end Verdict

section Cycle
variable {known : Finset String} {minLiquidity : ℚ} {rpcUrl : Option String}
  {profiles : List TokenProfile} {answers : ℕ → Answers} {mint : String} {token : DiscoveredToken}

/-- The token that the `i`-th profile of a discovery leads to. -/
def Discovered (known : Finset String) (minLiquidity : ℚ) (rpcUrl : Option String)
    (profiles : List TokenProfile) (answers : ℕ → Answers) (i : ℕ) (token : DiscoveredToken) : Prop :=
  ∃ profile, ((solanaTokens known profiles).take 10)[i]? = some profile ∧
    discoverToken minLiquidity rpcUrl profile.tokenAddress (answers i) = some token

theorem mem_discoverNewTokens {found : List DiscoveredToken}
    (h : discoverNewTokens known minLiquidity rpcUrl (.ok profiles) answers = .ok found) :
    token ∈ found ↔ ∃ i, Discovered known minLiquidity rpcUrl profiles answers i token := by
  obtain rfl := Except.ok.inj h
  simp only [List.mem_filterMap, Prod.exists, List.mem_zipIdx_iff_getElem?, Discovered]
  exact exists_comm

theorem discoverToken_spec {answers : Answers}
    (h : discoverToken minLiquidity rpcUrl mint answers = some token) :
    token.mint = mint ∧ token.safe = (safetyVerdict rpcUrl mint answers).1 ∧
      token.safetyNote = (safetyVerdict rpcUrl mint answers).2 := by
  unfold discoverToken at h
  obtain ⟨pairs, _, h⟩ := Option.bind_eq_some_iff.mp h
  obtain ⟨best, _, h⟩ := Option.bind_eq_some_iff.mp h
  cases h
  exact ⟨rfl, rfl, rfl⟩

/-- Two pairs of the token are listed on different DEXs. -/
def ListedOnTwoDexes (minLiquidity : ℚ) (mint : String) (answers : Answers) : Prop :=
  ∃ pairs, DexScreener.getAllPairs mint minLiquidity answers.now answers.pairs = .ok pairs ∧
    ∃ p ∈ pairs, ∃ q ∈ pairs, p.dex ≠ q.dex

theorem discoverTrendingToken_spec {answers : Answers}
    (h : discoverTrendingToken minLiquidity mint answers = some token) :
    token.mint = mint ∧ ListedOnTwoDexes minLiquidity mint answers := by
  unfold discoverTrendingToken at h
  obtain ⟨pairs, hpairs, h⟩ := Option.bind_eq_some_iff.mp h
  dsimp only at h
  split at h
  · cases h
  · next hmany =>
    rw [not_or, not_lt, not_lt] at hmany
    obtain ⟨best, _, h⟩ := Option.bind_eq_some_iff.mp h
    obtain rfl := Option.some.inj h
    obtain ⟨a, ha, b, hb, hne⟩ := Finset.one_lt_card.mp hmany.2
    obtain ⟨p, hp, rfl⟩ := List.mem_map.mp (List.mem_toFinset.mp ha)
    obtain ⟨q, hq, rfl⟩ := List.mem_map.mp (List.mem_toFinset.mp hb)
    refine ⟨rfl, pairs, ?_, p, hp, q, hq, fun hdex => hne (congrArg Dex.asStr hdex)⟩
    cases hanswer : DexScreener.getAllPairs mint minLiquidity answers.now answers.pairs with
    | error e =>
      rw [hanswer] at hpairs
      cases hpairs
    | ok listed =>
      rw [hanswer] at hpairs
      exact congrArg Except.ok (Option.some.inj hpairs)

/-- The token that the `i`-th boosted profile of a discovery leads to. -/
def Boosted (known : Finset String) (minLiquidity : ℚ) (profiles : List TokenProfile)
    (answers : ℕ → Answers) (i : ℕ) (token : DiscoveredToken) : Prop :=
  ∃ profile, ((solanaTokens known profiles).take 15)[i]? = some profile ∧
    discoverTrendingToken minLiquidity profile.tokenAddress (answers i) = some token

theorem mem_discoverTrendingMultiPool {found : List DiscoveredToken}
    (h : discoverTrendingMultiPool known minLiquidity (.ok profiles) answers = .ok found) :
    token ∈ found ↔ ∃ i, Boosted known minLiquidity profiles answers i token := by
  obtain rfl := Except.ok.inj h
  simp only [List.mem_filterMap, Prod.exists, List.mem_zipIdx_iff_getElem?, Boosted]
  exact exists_comm

end Cycle

/-- For every token of every discovery: it is marked safe only with evidence exactly
when its mint account was read or a RugCheck report was obtained. -/
theorem safe_with_evidence_iff (known : Finset String) (minLiquidity : ℚ) (rpcUrl : Option String)
    (profiles : List TokenProfile) (answers : ℕ → Answers) (found : List DiscoveredToken)
    (hfound : discoverNewTokens known minLiquidity rpcUrl (.ok profiles) answers = .ok found)
    (token : DiscoveredToken) (htoken : token ∈ found) :
    (∃ i, Discovered known minLiquidity rpcUrl profiles answers i token) ∧
    ∀ i, Discovered known minLiquidity rpcUrl profiles answers i token →
      ((token.safe = true → Evidence rpcUrl token.mint (answers i)) ↔
        MintRead rpcUrl token.mint (answers i) ∨ ReportObtained (answers i)) := by
  refine ⟨(mem_discoverNewTokens hfound).mp htoken, ?_⟩
  rintro i ⟨profile, _, hdiscover⟩
  obtain ⟨hmint, hsafe, _⟩ := discoverToken_spec hdiscover
  rw [hsafe, hmint]
  constructor
  · intro hevidence
    by_contra hnothing
    rw [not_or] at hnothing
    have hverdict := safe_of_nothing hnothing.1 hnothing.2
    exact (not_or.mpr hnothing) ((evidence_iff_of_safe hverdict).mp (hevidence hverdict))
  · intro hsource hverdict
    exact (evidence_iff_of_safe hverdict).mpr hsource

def newProfile : TokenProfile := ⟨"TokenAddress", "solana"⟩

def listedPair : DexScreener.DexPair :=
  ⟨"raydium", some (some 2), some (some 9000), some "PoolAddress", some (some "TKN"),
    some (some wsolMint)⟩

/-- The token is listed, the RPC node is out of reach and RugCheck answers with 429. -/
def unreachable : Answers :=
  ⟨0, .ok (some [listedPair]), .ok (some [listedPair]), .error "timeout", .ok none⟩

def unvettedToken : DiscoveredToken :=
  ⟨"TokenAddress", "TKN", 9000, .raydium, "PoolAddress", true,
    "RPC unavailable, RugCheck only | rugcheck: unavailable"⟩

theorem unvetted_token_safe :
    discoverNewTokens ∅ 5000 (some "https://rpc") (.ok [newProfile]) (fun _ => unreachable) =
      .ok [unvettedToken] ∧
    unvettedToken.safe = true ∧ ¬ Evidence (some "https://rpc") "TokenAddress" unreachable := by
  refine ⟨by decide +kernel, rfl, ?_⟩
  rintro (⟨_, data, hdata, _⟩ | ⟨report, hreport, _⟩)
  · cases hdata
  · cases hreport

theorem safe_with_evidence_iff_unvetted :
    (∃ i, Discovered ∅ 5000 (some "https://rpc") [newProfile] (fun _ => unreachable) i
      unvettedToken) ∧
    ∀ i, Discovered ∅ 5000 (some "https://rpc") [newProfile] (fun _ => unreachable) i unvettedToken →
      ((unvettedToken.safe = true → Evidence (some "https://rpc") unvettedToken.mint unreachable) ↔
        MintRead (some "https://rpc") unvettedToken.mint unreachable ∨ ReportObtained unreachable) :=
  safe_with_evidence_iff ∅ 5000 (some "https://rpc") [newProfile] (fun _ => unreachable)
    [unvettedToken] (by decide +kernel) unvettedToken List.mem_cons_self

end SolanaArb.Discovery
