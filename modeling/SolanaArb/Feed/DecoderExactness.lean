import SolanaArb.Feed.AccountLayouts

/-! # Decoders against their layouts

Each account decoder never indexes out of range, accepts exactly the accounts of its
minimum length (with a non-zero square-root price where it reads one), and returns the
field values written into any buffer that holds its layout.
-/
namespace SolanaArb.PoolDecoder
open SolanaArb.General

/-- A decoder with its indexing made explicit, total and exact on a layout of fields
that lie apart within the first `layoutLen` bytes. -/
structure ExactDecoder {Fields Value : Type} (minLen : ℕ) (accepted : Bytes → Prop)
    (checked : Bytes → Option (Except String Value)) (decode : Bytes → Except String Value)
    (layoutLen : ℕ) (layout : Fields → List (BufferField UInt8)) (value : Fields → Value) :
    Prop where
  inRange : ∀ data, checked data = some (decode data)
  ok_iff : ∀ data, (∃ v, decode data = .ok v) ↔ minLen ≤ data.length ∧ accepted data
  apart : ∀ fields, (layout fields).Pairwise BufferField.Apart
  exact : ∀ fields data writes, layoutLen ≤ data.length → writes.Perm (layout fields) →
    decode (writeAll data writes) = .ok (value fields)

section
variable {Fields Value : Type} {minLen layoutLen : ℕ} {accepted : Bytes → Prop}
  {checked : Bytes → Option (Except String Value)} {decode : Bytes → Except String Value}
  {layout : Fields → List (BufferField UInt8)} {value : Fields → Value}

/-- It is enough that the decoder returns the fields of an account that holds them. -/
theorem ExactDecoder.of_fields (hrange : ∀ data, checked data = some (decode data))
    (hok : ∀ data, (∃ v, decode data = .ok v) ↔ minLen ≤ data.length ∧ accepted data)
    (happart : ∀ fields, (layout fields).Pairwise BufferField.Apart)
    (hfits : ∀ fields, ∀ f ∈ layout fields, f.stop ≤ layoutLen)
    (hread : ∀ fields data, layoutLen ≤ data.length →
      (∀ f ∈ layout fields, HasField data f) → decode data = .ok (value fields)) :
    ExactDecoder minLen accepted checked decode layoutLen layout value where
  inRange := hrange
  ok_iff := hok
  apart := happart
  exact fields data writes hlen hperm := by
    have hstop : ∀ f ∈ layout fields, f.stop ≤ data.length :=
      fun f hf => (hfits fields f hf).trans hlen
    refine hread fields _ ?_ (hasField_writeAll (happart fields) hstop hperm)
    rw [length_writeAll_perm hstop hperm]
    exact hlen

end

/-! ## Which accounts are accepted -/

/-- A decoder guarded by nothing but a length test. -/
theorem ok_iff_length {Value : Type} (minLen : ℕ) (data : Bytes) (read : Value)
    (tooShort : String) :
    (∃ v, (if minLen ≤ data.length then .ok read else .error tooShort : Except String Value) =
      .ok v) ↔ minLen ≤ data.length ∧ True := by
  split
  · next h => exact ⟨fun _ => ⟨h, trivial⟩, fun _ => ⟨read, rfl⟩⟩
  · next h =>
    refine ⟨?_, fun hlen => absurd hlen.1 h⟩
    rintro ⟨v, hv⟩
    cases hv

/-- A decoder that also refuses a zero word at an offset its length test covers. -/
theorem ok_iff_nonzero {Value : Type} {minLen off : ℕ} (hoff : off + 16 ≤ minLen) (data : Bytes)
    (read : Value) (zero tooShort : String) :
    (∃ v, (if minLen ≤ data.length then
        if readU128 data off = 0 then .error zero else .ok read
      else .error tooShort : Except String Value) = .ok v) ↔
      minLen ≤ data.length ∧ slice data off 16 ≠ List.replicate 16 0 := by
  split
  · next h =>
    rw [ne_eq, ← readU128_eq_zero_iff (hoff.trans h)]
    split
    · next hzero =>
      refine ⟨?_, fun hne => absurd hzero hne.2⟩
      rintro ⟨v, hv⟩
      cases hv
    · next hne => exact ⟨fun _ => ⟨h, hne⟩, fun _ => ⟨read, rfl⟩⟩
  · next h =>
    refine ⟨?_, fun hlen => absurd hlen.1 h⟩
    rintro ⟨v, hv⟩
    cases hv

/-! ## The decoders -/

theorem splTokenBalance_exact :
    ExactDecoder 165 (fun _ => True) checkedSplTokenBalance decodeSplTokenBalance
      165 splTokenLayout id := by
  refine .of_fields checkedSplTokenBalance_eq (fun data => ok_iff_length _ _ _ _)
    (fun _ => List.pairwise_singleton _ _) ?_ ?_
  · simp [splTokenLayout, splTokenAmountOffset]
  · intro amount data hlen h
    have hmin : splTokenAccountLen ≤ data.length := hlen
    have hamount := h _ (List.mem_singleton_self _)
    rw [decodeSplTokenBalance, if_pos hmin, hamount.u64]
    rfl

theorem raydiumPoolVaults_exact :
    ExactDecoder 752 (fun _ => True) checkedRaydiumPoolVaults decodeRaydiumPoolVaults
      752 RaydiumVaultFields.layout (fun s => (s.coinVault.toList, s.pcVault.toList)) := by
  refine .of_fields checkedRaydiumPoolVaults_eq (fun data => ok_iff_length _ _ _ _)
    RaydiumVaultFields.layout_apart ?_ ?_
  · intro s
    simp [RaydiumVaultFields.layout, raydiumCoinVaultOffset, raydiumPcVaultOffset]
  · intro s data hlen h
    have hmin : raydiumPoolLen ≤ data.length := hlen
    simp only [RaydiumVaultFields.layout, List.forall_mem_cons] at h
    obtain ⟨hcoin, hpc, -⟩ := h
    rw [decodeRaydiumPoolVaults, if_pos hmin, hcoin.key, hpc.key]

def ClmmFields.state (s : ClmmFields) : RaydiumClmmState where
  mint0 := s.mint0.toList
  mint1 := s.mint1.toList
  vault0 := s.vault0.toList
  vault1 := s.vault1.toList
  decimals0 := s.decimals0
  decimals1 := s.decimals1
  liquidity := s.liquidity
  sqrtPriceX64 := s.sqrtPriceX64
  tickCurrent := s.tickCurrent

theorem raydiumClmm_exact :
    ExactDecoder 1544 (fun data => slice data 253 16 ≠ List.replicate 16 0) checkedRaydiumClmm
      decodeRaydiumClmm 1544 ClmmFields.layout ClmmFields.state := by
  refine .of_fields checkedRaydiumClmm_eq
    (fun data => by
      have hfield : clmmSqrtPriceOffset + 16 ≤ raydiumClmmLen := by decide
      exact ok_iff_nonzero hfield _ _ _ _)
    ClmmFields.layout_apart ?_ ?_
  · intro s
    simp [ClmmFields.layout, clmmMint0Offset, clmmMint1Offset, clmmVault0Offset,
      clmmVault1Offset, clmmDecimals0Offset, clmmDecimals1Offset, clmmLiquidityOffset,
      clmmSqrtPriceOffset, clmmTickCurrentOffset]
  · intro s data hlen h
    have hmin : raydiumClmmLen ≤ data.length := hlen
    simp only [ClmmFields.layout, List.forall_mem_cons] at h
    obtain ⟨hmint0, hmint1, hvault0, hvault1, hdec0, hdec1, hliq, hsqrt, htick, -⟩ := h
    rw [decodeRaydiumClmm, if_pos hmin]
    simp only [hsqrt.u128, s.sqrtPrice_ne_zero, if_false, hmint0.key, hmint1.key, hvault0.key,
      hvault1.key, hdec0.byte, hdec1.byte, hliq.u128, htick.i32]
    rfl

/-- The four field decoders of a Whirlpool read one layout. -/
theorem ExactDecoder.of_whirlpool {Value : Type} {minLen : ℕ} {accepted : Bytes → Prop}
    {checked : Bytes → Option (Except String Value)} {decode : Bytes → Except String Value}
    {value : WhirlpoolFields → Value} (hrange : ∀ data, checked data = some (decode data))
    (hok : ∀ data, (∃ v, decode data = .ok v) ↔ minLen ≤ data.length ∧ accepted data)
    (hread : ∀ (s : WhirlpoolFields) data, 133 ≤ data.length →
      HasField data (u16Field whirlpoolFeeRateOffset s.feeRate) →
      HasField data (u128Field whirlpoolLiquidityOffset s.liquidity) →
      HasField data (u128Field whirlpoolSqrtPriceOffset s.sqrtPrice) →
      HasField data (keyField whirlpoolMintAOffset s.mintA) → decode data = .ok (value s)) :
    ExactDecoder minLen accepted checked decode 133 WhirlpoolFields.layout value := by
  refine .of_fields hrange hok WhirlpoolFields.layout_apart WhirlpoolFields.layout_fits ?_
  intro s data hlen h
  simp only [WhirlpoolFields.layout, List.forall_mem_cons] at h
  obtain ⟨hfee, hliq, hsqrt, hmint, -⟩ := h
  exact hread s data hlen hfee hliq hsqrt hmint

theorem whirlpoolSqrtPrice_exact :
    ExactDecoder 81 (fun data => slice data 65 16 ≠ List.replicate 16 0) checkedWhirlpoolSqrtPrice
      decodeWhirlpoolSqrtPrice 133 WhirlpoolFields.layout WhirlpoolFields.sqrtPrice := by
  refine .of_whirlpool checkedWhirlpoolSqrtPrice_eq
    (fun data => ok_iff_nonzero (le_refl (whirlpoolSqrtPriceOffset + 16)) _ _ _ _) ?_
  intro s data hlen _ _ hsqrt _
  have hmin : whirlpoolSqrtPriceOffset + 16 ≤ data.length := le_trans (by decide) hlen
  rw [decodeWhirlpoolSqrtPrice, if_pos hmin]
  simp only [hsqrt.u128, s.sqrtPrice_ne_zero, if_false]

theorem whirlpoolMintA_exact :
    ExactDecoder 133 (fun _ => True) checkedWhirlpoolMintA decodeWhirlpoolMintA
      133 WhirlpoolFields.layout (fun s => s.mintA.toList) := by
  refine .of_whirlpool checkedWhirlpoolMintA_eq (fun data => ok_iff_length _ _ _ _) ?_
  intro s data hlen _ _ _ hmint
  have hmin : whirlpoolMintAOffset + 32 ≤ data.length := hlen
  rw [decodeWhirlpoolMintA, if_pos hmin, hmint.key]

theorem whirlpoolFeeBps_exact :
    ExactDecoder 47 (fun _ => True) checkedWhirlpoolFeeBps decodeWhirlpoolFeeBps
      133 WhirlpoolFields.layout (fun s => (s.feeRate.toNat : ℚ) / 100) := by
  refine .of_whirlpool checkedWhirlpoolFeeBps_eq (fun data => ok_iff_length _ _ _ _) ?_
  intro s data hlen hfee _ _ _
  have hmin : whirlpoolFeeRateOffset + 2 ≤ data.length := le_trans (by decide) hlen
  rw [decodeWhirlpoolFeeBps, if_pos hmin, hfee.u16]

theorem whirlpoolLiquidity_exact :
    ExactDecoder 65 (fun _ => True) checkedWhirlpoolLiquidity decodeWhirlpoolLiquidity
      133 WhirlpoolFields.layout WhirlpoolFields.liquidity := by
  refine .of_whirlpool checkedWhirlpoolLiquidity_eq (fun data => ok_iff_length _ _ _ _) ?_
  intro s data hlen _ hliq _ _
  have hmin : whirlpoolLiquidityOffset + 16 ≤ data.length := le_trans (by decide) hlen
  rw [decodeWhirlpoolLiquidity, if_pos hmin, hliq.u128]

def PumpFunFields.state (s : PumpFunFields) : PumpFunState where
  virtualTokenReserves := s.virtualToken
  virtualSolReserves := s.virtualSol
  realTokenReserves := s.realToken
  realSolReserves := s.realSol
  complete := s.complete != 0

theorem pumpfunState_exact :
    ExactDecoder 49 (fun _ => True) checkedPumpfunState decodePumpfunState
      49 PumpFunFields.layout PumpFunFields.state := by
  refine .of_fields checkedPumpfunState_eq (fun data => ok_iff_length _ _ _ _)
    PumpFunFields.layout_apart ?_ ?_
  · intro s
    simp [PumpFunFields.layout, pumpfunVirtualTokenOffset, pumpfunVirtualSolOffset,
      pumpfunRealTokenOffset, pumpfunRealSolOffset, pumpfunCompleteOffset]
  · intro s data hlen h
    have hmin : pumpfunMinLen ≤ data.length := hlen
    simp only [PumpFunFields.layout, List.forall_mem_cons] at h
    obtain ⟨hvtoken, hvsol, hrtoken, hrsol, hcomplete, -⟩ := h
    rw [decodePumpfunState, if_pos hmin, hvtoken.u64, hvsol.u64, hrtoken.u64, hrsol.u64,
      hcomplete.byte]
    rfl

def PumpSwapFields.state (s : PumpSwapFields) : PumpSwapPoolState where
  baseMint := s.baseMint.toList
  quoteMint := s.quoteMint.toList
  baseVault := s.baseVault.toList
  quoteVault := s.quoteVault.toList

theorem pumpswapPool_exact :
    ExactDecoder 301 (fun _ => True) checkedPumpswapPool decodePumpswapPool
      301 PumpSwapFields.layout PumpSwapFields.state := by
  refine .of_fields checkedPumpswapPool_eq (fun data => ok_iff_length _ _ _ _)
    PumpSwapFields.layout_apart ?_ ?_
  · intro s
    simp [PumpSwapFields.layout, pumpswapBaseMintOffset, pumpswapQuoteMintOffset,
      pumpswapBaseVaultOffset, pumpswapQuoteVaultOffset]
  · intro s data hlen h
    have hmin : pumpswapPoolLen ≤ data.length := hlen
    simp only [PumpSwapFields.layout, List.forall_mem_cons] at h
    obtain ⟨hbase, hquote, hbvault, hqvault, -⟩ := h
    rw [decodePumpswapPool, if_pos hmin, hbase.key, hquote.key, hbvault.key, hqvault.key]
    rfl

theorem mintDecimals_exact :
    ExactDecoder 45 (fun _ => True) checkedMintDecimals decodeMintDecimals 45 mintLayout id := by
  refine .of_fields checkedMintDecimals_eq (fun data => ok_iff_length _ _ _ _)
    (fun _ => List.pairwise_singleton _ _) ?_ ?_
  · simp [mintLayout]
  · intro decimals data hlen h
    have hbyte := h _ (List.mem_singleton_self _)
    rw [decodeMintDecimals, if_pos hlen, hbyte.byte]
    rfl

theorem account_decoders_exact :
    ExactDecoder 165 (fun _ => True) checkedSplTokenBalance decodeSplTokenBalance
      165 splTokenLayout id ∧
    ExactDecoder 752 (fun _ => True) checkedRaydiumPoolVaults decodeRaydiumPoolVaults
      752 RaydiumVaultFields.layout (fun s => (s.coinVault.toList, s.pcVault.toList)) ∧
    ExactDecoder 1544 (fun data => slice data 253 16 ≠ List.replicate 16 0) checkedRaydiumClmm
      decodeRaydiumClmm 1544 ClmmFields.layout ClmmFields.state ∧
    ExactDecoder 81 (fun data => slice data 65 16 ≠ List.replicate 16 0)
      checkedWhirlpoolSqrtPrice decodeWhirlpoolSqrtPrice
      133 WhirlpoolFields.layout WhirlpoolFields.sqrtPrice ∧
    ExactDecoder 133 (fun _ => True) checkedWhirlpoolMintA decodeWhirlpoolMintA
      133 WhirlpoolFields.layout (fun s => s.mintA.toList) ∧
    ExactDecoder 47 (fun _ => True) checkedWhirlpoolFeeBps decodeWhirlpoolFeeBps
      133 WhirlpoolFields.layout (fun s => (s.feeRate.toNat : ℚ) / 100) ∧
    ExactDecoder 65 (fun _ => True) checkedWhirlpoolLiquidity decodeWhirlpoolLiquidity
      133 WhirlpoolFields.layout WhirlpoolFields.liquidity ∧
    ExactDecoder 49 (fun _ => True) checkedPumpfunState decodePumpfunState
      49 PumpFunFields.layout PumpFunFields.state ∧
    ExactDecoder 301 (fun _ => True) checkedPumpswapPool decodePumpswapPool
      301 PumpSwapFields.layout PumpSwapFields.state ∧
    ExactDecoder 45 (fun _ => True) checkedMintDecimals decodeMintDecimals 45 mintLayout id :=
  ⟨splTokenBalance_exact, raydiumPoolVaults_exact, raydiumClmm_exact, whirlpoolSqrtPrice_exact,
    whirlpoolMintA_exact, whirlpoolFeeBps_exact, whirlpoolLiquidity_exact, pumpfunState_exact,
    pumpswapPool_exact, mintDecimals_exact⟩

end SolanaArb.PoolDecoder
