import SolanaArb.Feed.Discovery

/-! # The two verdicts on one report

A RugCheck report is judged twice: for a discovered token, and for the safety cache. The
discovery leaves the authorities to the mint account. Where that cannot be read, the two
verdicts differ on a report that passes and shows an authority.
-/
namespace SolanaArb.Discovery
open SolanaArb.RugCheck

/-- The report shows neither a mint authority nor a freeze authority. -/
def AuthoritiesRevoked (report : RugCheckReport) : Prop :=
  report.mintRevoked = true ∧ report.freezeRevoked = true

instance (report : RugCheckReport) : Decidable (AuthoritiesRevoked report) :=
  inferInstanceAs (Decidable (_ ∧ _))

theorem fromReport_safe (mint : String) (report : RugCheckReport) :
    (TokenSafety.fromReport mint report).safe = true ↔
      Passes report ∧ AuthoritiesRevoked report := by
  simp only [TokenSafety.fromReport, Bool.and_eq_true, decide_eq_true_eq, Passes,
    AuthoritiesRevoked]
  tauto

/-- Without the mint account the verdict of a discovery is that of the report. -/
theorem safetyVerdict_report {rpcUrl : Option String} {mint : String} {answers : Answers}
    {report : RugCheckReport} (hreport : answers.report = .ok (some report))
    (hdown : ¬ MintRead rpcUrl mint answers) :
    (safetyVerdict rpcUrl mint answers).1 = true ↔ Passes report := by
  rw [safetyVerdict_fst]
  constructor
  · intro hsafe
    exact hsafe.2 report hreport
  · intro hpasses
    refine ⟨fun hread => absurd hread hdown, ?_⟩
    intro other hother
    rw [hreport] at hother
    cases hother
    exact hpasses

/-- For every discovered token whose mint account could not be read but whose report
arrived: the two verdicts agree exactly when the report fails its score or holder test
or shows both authorities revoked. -/
theorem rugcheck_verdicts_agree_iff (known : Finset String) (minLiquidity : ℚ)
    (rpcUrl : Option String) (profiles : List TokenProfile) (answers : ℕ → Answers)
    (found : List DiscoveredToken)
    (hfound : discoverNewTokens known minLiquidity rpcUrl (.ok profiles) answers = .ok found)
    (i : ℕ) (token : DiscoveredToken)
    (htoken : Discovered known minLiquidity rpcUrl profiles answers i token)
    (report : RugCheckReport) (hreport : (answers i).report = .ok (some report))
    (hdown : ¬ MintRead rpcUrl token.mint (answers i)) :
    token ∈ found ∧ (token.safe = (TokenSafety.fromReport token.mint report).safe ↔
      ¬ Passes report ∨ AuthoritiesRevoked report) := by
  refine ⟨(mem_discoverNewTokens hfound).mpr ⟨i, htoken⟩, ?_⟩
  obtain ⟨profile, _, hdiscover⟩ := htoken
  obtain ⟨hmint, hsafe, _⟩ := discoverToken_spec hdiscover
  rw [hmint] at hdown
  rw [Bool.eq_iff_iff, hsafe, safetyVerdict_report hreport hdown, fromReport_safe]
  constructor
  · intro hagree
    by_cases hpasses : Passes report
    · exact Or.inr (hagree.mp hpasses).2
    · exact Or.inl hpasses
  · rintro (hfails | hrevoked)
    · exact ⟨fun h => absurd h hfails, fun h => h.1⟩
    · exact ⟨fun h => ⟨h, hrevoked⟩, fun h => h.1⟩

/-- A report with a good score, spread holders and these authorities. -/
def goodReport (mintAuthority freezeAuthority : Option String) : RugCheckReport :=
  ⟨some 85, mintAuthority, freezeAuthority, [⟨some 4⟩, ⟨some 3⟩]⟩

/-- The token is listed, the RPC node is out of reach and RugCheck answers with a report. -/
def rugcheckOnly (report : RugCheckReport) : Answers :=
  ⟨0, .ok (some [listedPair]), .ok (some [listedPair]), .error "timeout", .ok (some report)⟩

def vettedToken : DiscoveredToken :=
  ⟨"TokenAddress", "TKN", 9000, .raydium, "PoolAddress", true,
    "RPC unavailable, RugCheck only | rugcheck: 85 (LOW) top10: 7.0%"⟩

theorem rugcheckOnly_down (report : RugCheckReport) (rpcUrl : Option String) (mint : String) :
    ¬ MintRead rpcUrl mint (rugcheckOnly report) := by
  rintro ⟨_, data, hdata⟩
  cases hdata

theorem rugcheck_verdicts_agree_iff_revoked :
    vettedToken ∈ [vettedToken] ∧
      (vettedToken.safe =
          (TokenSafety.fromReport vettedToken.mint (goodReport none none)).safe ↔
        ¬ Passes (goodReport none none) ∨ AuthoritiesRevoked (goodReport none none)) :=
  rugcheck_verdicts_agree_iff ∅ 5000 (some "https://rpc") [newProfile]
    (fun _ => rugcheckOnly (goodReport none none)) [vettedToken] (by decide +kernel) 0 vettedToken
    ⟨newProfile, by decide +kernel, by decide +kernel⟩ (goodReport none none) rfl
    (rugcheckOnly_down _ _ _)

/-- A freeze authority in the report: the discovery marks the token safe, the cache does
not. -/
theorem frozen_token_safe :
    discoverNewTokens ∅ 5000 (some "https://rpc") (.ok [newProfile])
        (fun _ => rugcheckOnly (goodReport none (some "Freezer"))) = .ok [vettedToken] ∧
      ¬ MintRead (some "https://rpc") vettedToken.mint
        (rugcheckOnly (goodReport none (some "Freezer"))) ∧
      vettedToken.safe ≠
        (TokenSafety.fromReport vettedToken.mint (goodReport none (some "Freezer"))).safe :=
  ⟨by decide +kernel, rugcheckOnly_down _ _ _, by decide +kernel⟩

end SolanaArb.Discovery
