import SolanaArb.Feed.CheckedDecoders
import SolanaArb.General.FieldWrites

/-! # Account layouts

The fields of each account as typed values at their offsets, integers in little-endian
bytes. A decoder accepts every account long enough and gives back the field values of
its layout, whatever else the account holds; so no two fields of a layout overlap.
-/
namespace SolanaArb.PoolDecoder
open SolanaArb.General

/-! ## Little-endian integers -/

def leBytes : ℕ → ℕ → Bytes
  | 0, _ => []
  | width + 1, n => UInt8.ofNat n :: leBytes width (n / 256)

@[simp] theorem length_leBytes (width n : ℕ) : (leBytes width n).length = width := by
  induction width generalizing n with
  | zero => rfl
  | succ width ih => rw [leBytes, List.length_cons, ih]

theorem leNat_cons (b : UInt8) (bytes : Bytes) :
    leNat (b :: bytes) = b.toNat + 256 * leNat bytes := by
  simp [leNat, Nat.ofDigits_cons]

theorem leNat_leBytes (width n : ℕ) : leNat (leBytes width n) = n % 256^width := by
  induction width generalizing n with
  | zero => rw [pow_zero, Nat.mod_one]; rfl
  | succ width ih =>
    have hbyte : (UInt8.ofNat n).toNat = n % 256 := UInt8.toNat_ofNat'
    rw [leBytes, leNat_cons, ih, hbyte, pow_succ', Nat.mod_mul]

theorem leNat_lt (bytes : Bytes) : leNat bytes < 256^bytes.length := by
  induction bytes with
  | nil => decide
  | cons b rest ih =>
    have hb : b.toNat < 256 := b.toNat_lt
    rw [leNat_cons, List.length_cons, pow_succ']
    omega

theorem leNat_eq_zero_iff (bytes : Bytes) :
    leNat bytes = 0 ↔ bytes = List.replicate bytes.length 0 := by
  induction bytes with
  | nil => exact ⟨fun _ => rfl, fun _ => rfl⟩
  | cons b rest ih =>
    have hbyte : b.toNat = (0 : UInt8).toNat ↔ b = 0 := UInt8.toNat_inj
    rw [leNat_cons, List.length_cons, List.replicate_succ, List.cons_eq_cons, ← ih, ← hbyte,
      UInt8.toNat_zero]
    omega

/-- The word at an offset is zero exactly when its sixteen bytes are. -/
theorem readU128_eq_zero_iff {data : Bytes} {off : ℕ} (h : off + 16 ≤ data.length) :
    readU128 data off = 0 ↔ slice data off 16 = List.replicate 16 0 := by
  have hlen : (slice data off 16).length = 16 := length_readAt h
  have hlt := leNat_lt (slice data off 16)
  have hzero := leNat_eq_zero_iff (slice data off 16)
  rw [hlen] at hlt hzero
  rw [← hzero, readU128, ← BitVec.toNat_inj, BitVec.toNat_ofNat]
  change leNat (slice data off 16) % 2^128 = 0 ↔ _
  omega

/-! ## Typed fields -/

/-- The bytes of a public key. -/
abbrev KeyBytes := Vector UInt8 32

def byteField (off : ℕ) (x : UInt8) : BufferField UInt8 := ⟨off, [x]⟩
def u16Field (off : ℕ) (x : UInt16) : BufferField UInt8 := ⟨off, leBytes 2 x.toNat⟩
def i32Field (off : ℕ) (x : Int32) : BufferField UInt8 := ⟨off, leBytes 4 x.toUInt32.toNat⟩
def u64Field (off : ℕ) (x : UInt64) : BufferField UInt8 := ⟨off, leBytes 8 x.toNat⟩
def u128Field (off : ℕ) (x : U128) : BufferField UInt8 := ⟨off, leBytes 16 x.toNat⟩
def keyField (off : ℕ) (x : KeyBytes) : BufferField UInt8 := ⟨off, x.toList⟩

@[simp] theorem byteField_offset (off : ℕ) (x : UInt8) : (byteField off x).offset = off := rfl
@[simp] theorem u16Field_offset (off : ℕ) (x : UInt16) : (u16Field off x).offset = off := rfl
@[simp] theorem i32Field_offset (off : ℕ) (x : Int32) : (i32Field off x).offset = off := rfl
@[simp] theorem u64Field_offset (off : ℕ) (x : UInt64) : (u64Field off x).offset = off := rfl
@[simp] theorem u128Field_offset (off : ℕ) (x : U128) : (u128Field off x).offset = off := rfl
@[simp] theorem keyField_offset (off : ℕ) (x : KeyBytes) : (keyField off x).offset = off := rfl

@[simp] theorem byteField_stop (off : ℕ) (x : UInt8) : (byteField off x).stop = off + 1 := rfl
@[simp] theorem u16Field_stop (off : ℕ) (x : UInt16) : (u16Field off x).stop = off + 2 := by
  simp [u16Field, BufferField.stop]
@[simp] theorem i32Field_stop (off : ℕ) (x : Int32) : (i32Field off x).stop = off + 4 := by
  simp [i32Field, BufferField.stop]
@[simp] theorem u64Field_stop (off : ℕ) (x : UInt64) : (u64Field off x).stop = off + 8 := by
  simp [u64Field, BufferField.stop]
@[simp] theorem u128Field_stop (off : ℕ) (x : U128) : (u128Field off x).stop = off + 16 := by
  simp [u128Field, BufferField.stop]
@[simp] theorem keyField_stop (off : ℕ) (x : KeyBytes) : (keyField off x).stop = off + 32 := by
  simp [keyField, BufferField.stop]

/-- The account holds the field value at its offset. -/
def HasField (data : Bytes) (f : BufferField UInt8) : Prop :=
  slice data f.offset f.content.length = f.content

variable {data : Bytes} {off : ℕ}

theorem HasField.byte {x : UInt8} (h : HasField data (byteField off x)) : data.getD off 0 = x := by
  have hread : slice data off 1 = [x] := h
  have hhead : (slice data off 1)[0]? = some x := by rw [hread]; rfl
  have hbyte : data[off]? = some x := (getElem?_readAt data off 1 0).symm.trans hhead
  rw [List.getD_eq_getElem?_getD, hbyte]
  rfl

/-- A little-endian field of this width reads back as its value. -/
theorem leNat_of_hasField {width n : ℕ} (hn : n < 256^width)
    (h : HasField data ⟨off, leBytes width n⟩) : leNat (slice data off width) = n := by
  have hread : slice data off (leBytes width n).length = leBytes width n := h
  rw [length_leBytes] at hread
  rw [hread, leNat_leBytes, Nat.mod_eq_of_lt hn]

theorem HasField.u16 {x : UInt16} (h : HasField data (u16Field off x)) :
    leNat (slice data off 2) = x.toNat := leNat_of_hasField x.toNat_lt h

theorem HasField.i32 {x : Int32} (h : HasField data (i32Field off x)) :
    Int32.ofNat (leNat (slice data off 4)) = x := by
  rw [leNat_of_hasField x.toUInt32.toNat_lt h]
  apply Int32.toBitVec_inj.mp
  exact BitVec.ofNat_toNat 32 x.toBitVec

theorem HasField.u64 {x : UInt64} (h : HasField data (u64Field off x)) : readU64 data off = x := by
  rw [readU64, leNat_of_hasField x.toNat_lt h]
  exact UInt64.ofNat_toNat

theorem HasField.u128 {x : U128} (h : HasField data (u128Field off x)) : readU128 data off = x := by
  rw [readU128, leNat_of_hasField x.isLt h]
  exact BitVec.ofNat_toNat 128 x

theorem HasField.key {x : KeyBytes} (h : HasField data (keyField off x)) :
    slice data off 32 = x.toList := by
  have hread : slice data off x.toList.length = x.toList := h
  rwa [Vector.length_toList] at hread

theorem hasField_writeAll {fields writes : List (BufferField UInt8)}
    (happart : fields.Pairwise BufferField.Apart) (hfits : ∀ f ∈ fields, f.stop ≤ data.length)
    (hperm : writes.Perm fields) : ∀ f ∈ fields, HasField (writeAll data writes) f :=
  fun _ hf => readAt_writeAll_perm happart hfits hperm hf

theorem length_writeAll_perm {fields writes : List (BufferField UInt8)}
    (hfits : ∀ f ∈ fields, f.stop ≤ data.length) (hperm : writes.Perm fields) :
    (writeAll data writes).length = data.length :=
  length_writeAll fun f hf => hfits f (hperm.mem_iff.mp hf)

/-! ## Layouts -/

def splTokenLayout (amount : UInt64) : List (BufferField UInt8) :=
  [u64Field splTokenAmountOffset amount]

structure RaydiumVaultFields where
  coinVault : KeyBytes
  pcVault : KeyBytes

def RaydiumVaultFields.layout (s : RaydiumVaultFields) : List (BufferField UInt8) :=
  [keyField raydiumCoinVaultOffset s.coinVault, keyField raydiumPcVaultOffset s.pcVault]

structure ClmmFields where
  mint0 : KeyBytes
  mint1 : KeyBytes
  vault0 : KeyBytes
  vault1 : KeyBytes
  decimals0 : UInt8
  decimals1 : UInt8
  liquidity : U128
  sqrtPriceX64 : U128
  tickCurrent : Int32
  sqrtPrice_ne_zero : sqrtPriceX64 ≠ 0

def ClmmFields.layout (s : ClmmFields) : List (BufferField UInt8) :=
  [keyField clmmMint0Offset s.mint0, keyField clmmMint1Offset s.mint1,
    keyField clmmVault0Offset s.vault0, keyField clmmVault1Offset s.vault1,
    byteField clmmDecimals0Offset s.decimals0, byteField clmmDecimals1Offset s.decimals1,
    u128Field clmmLiquidityOffset s.liquidity, u128Field clmmSqrtPriceOffset s.sqrtPriceX64,
    i32Field clmmTickCurrentOffset s.tickCurrent]

structure WhirlpoolFields where
  feeRate : UInt16
  liquidity : U128
  sqrtPrice : U128
  mintA : KeyBytes
  sqrtPrice_ne_zero : sqrtPrice ≠ 0

def WhirlpoolFields.layout (s : WhirlpoolFields) : List (BufferField UInt8) :=
  [u16Field whirlpoolFeeRateOffset s.feeRate, u128Field whirlpoolLiquidityOffset s.liquidity,
    u128Field whirlpoolSqrtPriceOffset s.sqrtPrice, keyField whirlpoolMintAOffset s.mintA]

structure PumpFunFields where
  virtualToken : UInt64
  virtualSol : UInt64
  realToken : UInt64
  realSol : UInt64
  complete : UInt8

def PumpFunFields.layout (s : PumpFunFields) : List (BufferField UInt8) :=
  [u64Field pumpfunVirtualTokenOffset s.virtualToken, u64Field pumpfunVirtualSolOffset s.virtualSol,
    u64Field pumpfunRealTokenOffset s.realToken, u64Field pumpfunRealSolOffset s.realSol,
    byteField pumpfunCompleteOffset s.complete]

structure PumpSwapFields where
  baseMint : KeyBytes
  quoteMint : KeyBytes
  baseVault : KeyBytes
  quoteVault : KeyBytes

def PumpSwapFields.layout (s : PumpSwapFields) : List (BufferField UInt8) :=
  [keyField pumpswapBaseMintOffset s.baseMint, keyField pumpswapQuoteMintOffset s.quoteMint,
    keyField pumpswapBaseVaultOffset s.baseVault, keyField pumpswapQuoteVaultOffset s.quoteVault]

def mintLayout (decimals : UInt8) : List (BufferField UInt8) := [byteField 44 decimals]

theorem RaydiumVaultFields.layout_apart (s : RaydiumVaultFields) :
    s.layout.Pairwise BufferField.Apart := by
  simp [layout, BufferField.Apart, raydiumCoinVaultOffset, raydiumPcVaultOffset]

theorem ClmmFields.layout_apart (s : ClmmFields) : s.layout.Pairwise BufferField.Apart := by
  simp [layout, BufferField.Apart, clmmMint0Offset, clmmMint1Offset, clmmVault0Offset,
    clmmVault1Offset, clmmDecimals0Offset, clmmDecimals1Offset, clmmLiquidityOffset,
    clmmSqrtPriceOffset, clmmTickCurrentOffset]

theorem WhirlpoolFields.layout_apart (s : WhirlpoolFields) :
    s.layout.Pairwise BufferField.Apart := by
  simp [layout, BufferField.Apart, whirlpoolFeeRateOffset, whirlpoolLiquidityOffset,
    whirlpoolSqrtPriceOffset, whirlpoolMintAOffset]

theorem WhirlpoolFields.layout_fits (s : WhirlpoolFields) : ∀ f ∈ s.layout, f.stop ≤ 133 := by
  simp [layout, whirlpoolFeeRateOffset, whirlpoolLiquidityOffset, whirlpoolSqrtPriceOffset,
    whirlpoolMintAOffset]

theorem PumpFunFields.layout_apart (s : PumpFunFields) : s.layout.Pairwise BufferField.Apart := by
  simp [layout, BufferField.Apart, pumpfunVirtualTokenOffset, pumpfunVirtualSolOffset,
    pumpfunRealTokenOffset, pumpfunRealSolOffset, pumpfunCompleteOffset]

theorem PumpSwapFields.layout_apart (s : PumpSwapFields) :
    s.layout.Pairwise BufferField.Apart := by
  simp [layout, BufferField.Apart, pumpswapBaseMintOffset, pumpswapQuoteMintOffset,
    pumpswapBaseVaultOffset, pumpswapQuoteVaultOffset]

end SolanaArb.PoolDecoder
