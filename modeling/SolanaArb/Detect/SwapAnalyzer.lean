import SolanaArb.Feed.ForgeFeed

/-! # From swaps to scans

The analyzer turns a signal into a scan request unless it is below the threshold or was
routed by Jupiter. A swap leads to a scan when the feed signals it and the analyzer
accepts the signal.
-/
namespace SolanaArb
open SolanaArb.ForgeFeed

structure SwapAnalyzer where
  minSolThreshold : ℚ
  deriving DecidableEq, Repr

structure ScanRequest where
  tokenMint : String
  tokenSymbol : Option String
  triggerDex : Dex
  triggerDirection : SwapDirection
  solEquivalent : ℚ
  /-- The venue to buy from, cheaper after the trigger. -/
  buyDex : Option Dex
  /-- The venue to sell on, dearer after the trigger. -/
  sellDex : Option Dex
  deriving DecidableEq, Repr

namespace SwapAnalyzer

def analyze (analyzer : SwapAnalyzer) (signal : SwapSignal) : Option ScanRequest :=
  if signal.solEquivalent < analyzer.minSolThreshold then none
  else if signal.platform = .jupiter then none
  else some {
    tokenMint := signal.tokenMint
    tokenSymbol := signal.tokenSymbol
    triggerDex := signal.platform
    triggerDirection := signal.direction
    solEquivalent := signal.solEquivalent
    buyDex := if signal.direction = .buy then none else some signal.platform
    sellDex := if signal.direction = .buy then some signal.platform else none }

variable {analyzer : SwapAnalyzer} {signal : SwapSignal}

theorem analyze_isSome_iff : (analyzer.analyze signal).isSome = true ↔
    analyzer.minSolThreshold ≤ signal.solEquivalent ∧ signal.platform ≠ .jupiter := by
  unfold analyze
  split
  · next hsmall => simp [not_le.mpr hsmall]
  · next hlarge =>
    split
    · next hjupiter => simp [hjupiter]
    · next hother => simp [not_lt.mp hlarge, hother]

/-- A request is for the token of its signal, and names the venue of the swap on the
side where its price has become better. -/
theorem analyze_spec {request : ScanRequest} (h : analyzer.analyze signal = some request) :
    request.tokenMint = signal.tokenMint ∧ request.solEquivalent = signal.solEquivalent ∧
      request.triggerDex = signal.platform ∧
      (request.buyDex = some signal.platform ↔ signal.direction = .sell) ∧
      (request.sellDex = some signal.platform ↔ signal.direction = .buy) := by
  simp only [analyze, Option.ite_none_left_eq_some, Option.some.injEq] at h
  obtain ⟨_, _, rfl⟩ := h
  refine ⟨rfl, rfl, rfl, ?_, ?_⟩
  · cases signal.direction <;> simp
  · cases signal.direction <;> simp

end SwapAnalyzer

namespace ForgeFeed

/-- The scan a frame triggers in the main loop. -/
def Connection.scan (c : Connection) (minSignalSol : ℚ) (r : Received) : Option ScanRequest :=
  (c.signal r).bind (SwapAnalyzer.mk minSignalSol).analyze

theorem toDex_eq_jupiter {platform : ForgePlatform} :
    platform.toDex = .jupiter ↔ platform = .jupiter := by
  cases platform <;> simp [ForgePlatform.toDex]

/-- A swap triggers a scan exactly when it is between SOL or a stablecoin and a token,
not on Jupiter, of at least one SOL and at least the threshold, and the feed has not
signalled any swap of the token in the last three seconds. -/
theorem scan_triggered_iff (minSignalSol : ℚ) (es : List Received) (r : Received) :
    ((connected es).scan minSignalSol r).isSome = true ↔
      ∃ swap tokenMint direction sol, r.frame.swap? = some swap ∧
        classifySwap swap = some (tokenMint, direction, sol) ∧ swap.platform ≠ .jupiter ∧
        minSignalSol ≤ sol ∧ 1 ≤ sol ∧
        ∀ t earlier, (t, earlier) ∈ (connected es).sent → earlier.tokenMint = tokenMint →
          debounceNanos ≤ (connected es).now + r.elapsed - t := by
  have hscan : ((connected es).scan minSignalSol r).isSome = true ↔
      ∃ signal, (connected es).signal r = some signal ∧ minSignalSol ≤ signal.solEquivalent ∧
        signal.platform ≠ .jupiter := by
    unfold Connection.scan
    cases (connected es).signal r with
    | none => simp
    | some signal =>
      rw [Option.bind_some, SwapAnalyzer.analyze_isSome_iff]
      simp
  rw [hscan]
  constructor
  · rintro ⟨signal, hsent, hthreshold, hplatform⟩
    obtain ⟨hsignal, hquiet⟩ := (connected_signal_iff es r signal).mp hsent
    obtain ⟨swap, hswap, hclass, hsize, heq⟩ := signalOf_eq_some.mp hsignal
    have hdex : signal.platform = swap.platform.toDex := by rw [heq]
    rw [hdex, Ne, toDex_eq_jupiter] at hplatform
    exact ⟨swap, signal.tokenMint, signal.direction, signal.solEquivalent, hswap, hclass, hplatform,
      hthreshold, hsize, hquiet⟩
  · rintro ⟨swap, tokenMint, direction, sol, hswap, hclass, hplatform, hthreshold, hsize, hquiet⟩
    refine ⟨⟨swap.signature, swap.slot, swap.platform.toDex, swap.signer, tokenMint, none, direction,
      sol, swap.blockTime⟩, ?_, hthreshold, fun h => hplatform (toDex_eq_jupiter.mp h)⟩
    rw [connected_signal_iff]
    exact ⟨signalOf_eq_some.mpr ⟨swap, hswap, hclass, hsize, rfl⟩, hquiet⟩

/-- The scans triggered so far, newest first. -/
def Connection.scans (c : Connection) (minSignalSol : ℚ) : List (ℕ × ScanRequest) :=
  c.sent.filterMap (fun s => ((SwapAnalyzer.mk minSignalSol).analyze s.2).map (fun req => (s.1, req)))

/-- Only the scans of a token hold back its later swaps. -/
def HeldBackByScans (minSignalSol : ℚ) : Prop :=
  ∀ (es : List Received) (r : Received) (swap : ForgeSwapEvent) (tokenMint : String)
    (direction : SwapDirection) (sol : ℚ), r.frame.swap? = some swap →
    classifySwap swap = some (tokenMint, direction, sol) → swap.platform ≠ .jupiter →
    minSignalSol ≤ sol →
    (∀ t req, (t, req) ∈ (connected es).scans minSignalSol → req.tokenMint = tokenMint →
      debounceNanos ≤ (connected es).now + r.elapsed - t) →
    ((connected es).scan minSignalSol r).isSome = true

theorem not_heldBack_of_lost {minSignalSol : ℚ} {es : List Received} {r : Received}
    {swap : ForgeSwapEvent} {tokenMint : String} {direction : SwapDirection} {sol : ℚ}
    (hswap : r.frame.swap? = some swap)
    (hclass : classifySwap swap = some (tokenMint, direction, sol))
    (hplatform : swap.platform ≠ .jupiter) (hsol : minSignalSol ≤ sol)
    (hscans : (connected es).scans minSignalSol = [])
    (hlost : (connected es).scan minSignalSol r = none) : ¬ HeldBackByScans minSignalSol := by
  intro h
  have hscan := h es r swap tokenMint direction sol hswap hclass hplatform hsol (by simp [hscans])
  rw [hlost] at hscan
  cases hscan

/-- A buy of a token with SOL. -/
def buyEvent (platform : ForgePlatform) (lamports : UInt64) : ForgeSwapEvent :=
  ⟨"Signature", 1, 0, platform, "Signer", ⟨wsolMint, lamports, 9⟩, ⟨"Token", 1000, 6⟩⟩

def buy (platform : ForgePlatform) (lamports : UInt64) (elapsed : ℕ) : Received :=
  ⟨elapsed, .text (some (.swapDirect (buyEvent platform lamports)))⟩

/-- A swap that triggers no scan holds its token back too: one on Jupiter, one below
the threshold. And a swap under one SOL triggers none, whatever the threshold. -/
theorem not_heldBackByScans :
    ¬ HeldBackByScans 1 ∧ ¬ HeldBackByScans 3 ∧ ¬ HeldBackByScans (1 / 2) := by
  refine ⟨?_, ?_, ?_⟩
  · have hscans : (connected [buy .jupiter 2000000000 0]).scans 1 = [] := by decide +kernel
    have hclass : classifySwap (buyEvent .pumpSwap 5000000000) = some ("Token", .buy, 5) := by
      decide +kernel
    have hlost : (connected [buy .jupiter 2000000000 0]).scan 1
        (buy .pumpSwap 5000000000 1000000000) = none := by decide +kernel
    exact not_heldBack_of_lost rfl hclass (by decide) (by norm_num) hscans hlost
  · have hscans : (connected [buy .pumpSwap 2000000000 0]).scans 3 = [] := by decide +kernel
    have hclass : classifySwap (buyEvent .pumpSwap 5000000000) = some ("Token", .buy, 5) := by
      decide +kernel
    have hlost : (connected [buy .pumpSwap 2000000000 0]).scan 3
        (buy .pumpSwap 5000000000 1000000000) = none := by decide +kernel
    exact not_heldBack_of_lost rfl hclass (by decide) (by norm_num) hscans hlost
  · have hscans : (connected []).scans (1 / 2) = [] := by decide +kernel
    have hclass : classifySwap (buyEvent .pumpSwap 700000000) = some ("Token", .buy, 7 / 10) := by
      decide +kernel
    have hlost : (connected []).scan (1 / 2) (buy .pumpSwap 700000000 0) = none := by
      decide +kernel
    exact not_heldBack_of_lost rfl hclass (by decide) (by norm_num) hscans hlost

end ForgeFeed
end SolanaArb
