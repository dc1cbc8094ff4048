import SolanaArb.Types
import SolanaArb.General.Debounce

/-! # The forge stream of swaps

A swap between SOL or a stablecoin and a token of at least one SOL becomes a signal,
unless the token was signalled less than three seconds before. The table of last
signals belongs to one connection, which lasts until the stream closes or fails.
Instants count nanoseconds.
-/
namespace SolanaArb.ForgeFeed
open SolanaArb.General

inductive ForgePlatform
  | raydium | jupiter | pumpFun | pumpSwap | unknown
  deriving DecidableEq, Repr

def ForgePlatform.toDex : ForgePlatform → Dex
  | raydium => .raydium
  | jupiter => .jupiter
  | pumpFun => .pumpFun
  | pumpSwap => .pumpSwap
  | unknown => .unknown

structure ForgeTokenAmount where
  mint : String
  amount : UInt64
  decimals : ℕ
  deriving DecidableEq, Repr

structure ForgeSwapEvent where
  signature : String
  slot : ℕ
  blockTime : Timestamp
  platform : ForgePlatform
  signer : String
  tokenIn : ForgeTokenAmount
  tokenOut : ForgeTokenAmount
  deriving DecidableEq, Repr

inductive ForgeEvent
  | swap (swap : ForgeSwapEvent)
  | transfer

inductive ForgeEventRaw
  | tagged (event : ForgeEvent)
  | swapDirect (swap : ForgeSwapEvent)
  | transferDirect

/-- A frame of the stream, a text with what it parses to. -/
inductive Frame
  | text (parsed : Option ForgeEventRaw)
  | other

def Frame.swap? : Frame → Option ForgeSwapEvent
  | .text (some (.tagged (.swap swap))) => some swap
  | .text (some (.swapDirect swap)) => some swap
  | _ => none

def minSolEquivalent : ℚ := 1
def debounceNanos : ℕ := 3000000000
def staleNanos : ℕ := 30000000000

def isSolOrStable (mint : String) : Bool := mint == wsolMint || mint == usdcMint || mint == usdtMint

/-- Lamports in SOL, or a stablecoin at 150 dollars a SOL. -/
def solSide (side : ForgeTokenAmount) : ℚ :=
  if side.mint = wsolMint then side.amount.toNat / 10 ^ side.decimals
  else side.amount.toNat / 10 ^ side.decimals / 150

def classifySwap (swap : ForgeSwapEvent) : Option (String × SwapDirection × ℚ) :=
  match isSolOrStable swap.tokenIn.mint, isSolOrStable swap.tokenOut.mint with
  | true, false => some (swap.tokenOut.mint, .buy, solSide swap.tokenIn)
  | false, true => some (swap.tokenIn.mint, .sell, solSide swap.tokenOut)
  | _, _ => none

/-- The signal of a frame, before the debounce. -/
def signalOf (frame : Frame) : Option SwapSignal := do
  let swap ← frame.swap?
  let (tokenMint, direction, solEquivalent) ← classifySwap swap
  if solEquivalent < minSolEquivalent then none
  else some {
    signature := swap.signature
    slot := swap.slot
    platform := swap.platform.toDex
    signer := swap.signer
    tokenMint := tokenMint
    tokenSymbol := none
    direction := direction
    solEquivalent := solEquivalent
    timestamp := swap.blockTime }

/-- A frame and the time since the one before it. -/
structure Received where
  elapsed : ℕ
  frame : Frame

structure Connection where
  debounce : LastTimes String
  now : ℕ
  /-- Not in the program: the signals sent, newest first. -/
  sent : List (ℕ × SwapSignal)

def cleanDebounce (debounce : LastTimes String) (now : ℕ) : LastTimes String :=
  if 500 < debounce.keys.length then debounce.retain (fun last => decide (now - last < staleNanos))
  else debounce

/-- The signal a frame leads to, if any. -/
def Connection.signal (c : Connection) (r : Received) : Option SwapSignal :=
  (signalOf r.frame).filter
    (fun signal => letsThrough debounceNanos c.debounce (c.now + r.elapsed) signal.tokenMint)

def Connection.receive (c : Connection) (r : Received) : Connection :=
  let now := c.now + r.elapsed
  match c.signal r with
  | none => { c with now }
  | some signal =>
    { debounce := cleanDebounce (c.debounce.insert signal.tokenMint now) now
      now
      sent := (now, signal) :: c.sent }

def Connection.opened : Connection := ⟨∅, 0, []⟩

def connected (es : List Received) : Connection := es.foldl Connection.receive Connection.opened

/-- The times and tokens of the signals sent. -/
def Connection.passed (c : Connection) : List (ℕ × String) :=
  c.sent.map (fun s => (s.1, s.2.tokenMint))

section Debounce
variable {c : Connection} {r : Received} {debounce : LastTimes String} {passed : List (ℕ × String)}
  {now : ℕ}

theorem cleanDebounce_remembers (h : Remembers staleNanos passed now debounce) :
    Remembers staleNanos passed now (cleanDebounce debounce now) := by
  unfold cleanDebounce
  split
  · apply h.retain
    intro t hkeep
    exact Nat.le_of_not_lt (of_decide_eq_false hkeep)
  · exact h

theorem Connection.receive_remembers (h : Remembers staleNanos c.passed c.now c.debounce) :
    Remembers staleNanos (c.receive r).passed (c.receive r).now (c.receive r).debounce := by
  have hlater := h.later (Nat.le_add_right c.now r.elapsed)
  unfold Connection.receive
  cases c.signal r with
  | none => exact hlater
  | some signal => exact cleanDebounce_remembers (hlater.insert signal.tokenMint)

theorem connected_remembers (es : List Received) :
    Remembers staleNanos (connected es).passed (connected es).now (connected es).debounce := by
  unfold connected
  apply List.foldlRecOn es Connection.receive
    (motive := fun c : Connection => Remembers staleNanos c.passed c.now c.debounce)
  · exact remembers_empty staleNanos 0
  · intro c h r _
    exact Connection.receive_remembers h

end Debounce

theorem signalOf_eq_some {frame : Frame} {signal : SwapSignal} : signalOf frame = some signal ↔
    ∃ swap, frame.swap? = some swap ∧
      classifySwap swap = some (signal.tokenMint, signal.direction, signal.solEquivalent) ∧
      1 ≤ signal.solEquivalent ∧
      signal = ⟨swap.signature, swap.slot, swap.platform.toDex, swap.signer, signal.tokenMint, none,
        signal.direction, signal.solEquivalent, swap.blockTime⟩ := by
  unfold signalOf minSolEquivalent
  constructor
  · intro h
    obtain ⟨swap, hswap, h⟩ := Option.bind_eq_some_iff.mp h
    obtain ⟨⟨tokenMint, direction, sol⟩, hclass, h⟩ := Option.bind_eq_some_iff.mp h
    simp only [Option.ite_none_left_eq_some, Option.some.injEq] at h
    obtain ⟨hsize, rfl⟩ := h
    exact ⟨swap, hswap, hclass, not_lt.mp hsize, rfl⟩
  · rintro ⟨swap, hswap, hclass, hsize, hsignal⟩
    rw [hswap, Option.bind_eq_bind, Option.bind_some, hclass, Option.bind_eq_bind, Option.bind_some]
    simp only [if_neg (not_lt.mpr hsize)]
    rw [hsignal]

/-- A swap is signalled exactly when its token was not signalled in the last three
seconds. -/
theorem connected_signal_iff (es : List Received) (r : Received) (signal : SwapSignal) :
    (connected es).signal r = some signal ↔ signalOf r.frame = some signal ∧
      ∀ t earlier, (t, earlier) ∈ (connected es).sent → earlier.tokenMint = signal.tokenMint →
        debounceNanos ≤ (connected es).now + r.elapsed - t := by
  have hlater := (connected_remembers es).later (Nat.le_add_right (connected es).now r.elapsed)
  have hwindow : debounceNanos ≤ staleNanos := by decide
  unfold Connection.signal
  rw [Option.filter_eq_some_iff, hlater.letsThrough_iff hwindow]
  simp only [Connection.passed, List.mem_map, Prod.mk.injEq, Prod.exists]
  constructor
  · rintro ⟨hsignal, hall⟩
    exact ⟨hsignal, fun t earlier hmem htoken => hall t ⟨t, earlier, hmem, rfl, htoken⟩⟩
  · rintro ⟨hsignal, hall⟩
    refine ⟨hsignal, ?_⟩
    rintro t ⟨_, earlier, hmem, rfl, htoken⟩
    exact hall _ earlier hmem htoken

theorem connected_snoc (es : List Received) (r : Received) :
    connected (es ++ [r]) = (connected es).receive r := by
  simp [connected]

theorem connected_spaced (es : List Received) :
    (connected es).passed.Pairwise (fun newer older => newer.2 = older.2 →
      older.1 + debounceNanos ≤ newer.1) := by
  induction es using List.reverseRecOn with
  | nil => exact List.Pairwise.nil
  | append_singleton es r ih =>
    have hlater := (connected_remembers es).later (Nat.le_add_right (connected es).now r.elapsed)
    rw [connected_snoc]
    unfold Connection.receive
    cases hsignal : (connected es).signal r with
    | none => exact ih
    | some signal =>
      have hpass := (Option.filter_eq_some_iff.mp hsignal).2
      exact hlater.spaced (by decide) (by decide) hpass ih

/-- The debounce is exact: two signals of one token are at least three seconds apart,
and a swap of a token worth at least one SOL is only dropped within three seconds of a
signal of that token. -/
theorem debounce_exact (es : List Received) :
    (connected es).sent.Pairwise (fun newer older => newer.2.tokenMint = older.2.tokenMint →
      older.1 + debounceNanos ≤ newer.1) ∧
    ∀ (r : Received) (swap : ForgeSwapEvent) (tokenMint : String) (direction : SwapDirection)
      (sol : ℚ), r.frame.swap? = some swap →
      classifySwap swap = some (tokenMint, direction, sol) → 1 ≤ sol →
      (connected (es ++ [r])).sent = (connected es).sent →
      ∃ t earlier, (t, earlier) ∈ (connected es).sent ∧ earlier.tokenMint = tokenMint ∧
        (connected es).now + r.elapsed < t + debounceNanos := by
  refine ⟨List.pairwise_map.mp (connected_spaced es), ?_⟩
  intro r swap tokenMint direction sol hswap hclass hsize hdropped
  by_contra hquiet
  have hsignal : (connected es).signal r = some ⟨swap.signature, swap.slot, swap.platform.toDex,
      swap.signer, tokenMint, none, direction, sol, swap.blockTime⟩ := by
    rw [connected_signal_iff]
    refine ⟨signalOf_eq_some.mpr ⟨swap, hswap, hclass, hsize, rfl⟩, ?_⟩
    intro t earlier hmem htoken
    by_contra hlate
    exact hquiet ⟨t, earlier, hmem, htoken, by omega⟩
  rw [connected_snoc, Connection.receive, hsignal] at hdropped
  exact absurd hdropped (List.cons_ne_self _ _)

def oneSolSwap (signature : String) : ForgeSwapEvent :=
  ⟨signature, 1, 0, .pumpFun, "Signer", ⟨wsolMint, 1000000000, 9⟩, ⟨"Token", 5, 6⟩⟩

/-- Two swaps of one token, two seconds apart. -/
def firstSwap : Received := ⟨0, .text (some (.tagged (.swap (oneSolSwap "First"))))⟩
def secondSwap : Received := ⟨2000000000, .text (some (.swapDirect (oneSolSwap "Second")))⟩

theorem debounce_exact_dropped : (connected [firstSwap]).sent.length = 1 ∧
    ∃ t earlier, (t, earlier) ∈ (connected [firstSwap]).sent ∧ earlier.tokenMint = "Token" ∧
      (connected [firstSwap]).now + secondSwap.elapsed < t + debounceNanos := by
  have hclass : classifySwap (oneSolSwap "Second") = some ("Token", .buy, 1) := by decide +kernel
  have hdropped : (connected ([firstSwap] ++ [secondSwap])).sent = (connected [firstSwap]).sent := by
    decide +kernel
  obtain ⟨_, hexact⟩ := debounce_exact [firstSwap]
  exact ⟨by decide +kernel, hexact secondSwap _ "Token" .buy 1 rfl hclass le_rfl hdropped⟩

end SolanaArb.ForgeFeed
