import SolanaArb.Feed.DecoderExactness
import SolanaArb.General.Except

/-! # Swap and tip instructions

A Raydium swap is built from the keys in the pool account, and its amounts and those of a tip
go out as little-endian words. The six accounts of the market that the program also asks for
are not in it: the source leaves them to the execution. Parsing a key from its text and
deriving a program's address belong to the SDK and are parameters.
-/
namespace SolanaArb.TxBuilder
open SolanaArb.General SolanaArb.PoolDecoder

abbrev Pubkey := Bytes

structure AccountMeta where
  pubkey : Pubkey
  isSigner : Bool
  isWritable : Bool
  deriving DecidableEq, Repr

def AccountMeta.new (pubkey : Pubkey) (isSigner : Bool) : AccountMeta := ⟨pubkey, isSigner, true⟩

structure Instruction where
  programId : Pubkey
  accounts : List AccountMeta
  data : Bytes
  deriving DecidableEq, Repr

def raydiumNonceOffset : ℕ := 0x04
def raydiumOpenOrdersOffset : ℕ := 0x28
def raydiumTargetOrdersOffset : ℕ := 0x48
def raydiumCoinVaultOffset : ℕ := 0x128
def raydiumPcVaultOffset : ℕ := 0x148
def raydiumMarketProgramOffset : ℕ := 0x188
def raydiumMarketOffset : ℕ := 0x1A8

section Builders
variable (fromStr : String → Except String Pubkey)
  (findProgramAddress : List Bytes → Pubkey → Pubkey × UInt8)

end Builders

namespace JitoBundler

end JitoBundler

/-! ## The pool account -/

/-- The fields of the account that a swap needs. -/
structure RaydiumSwapFields where
  nonce : UInt8
  openOrders : KeyBytes
  targetOrders : KeyBytes
  coinVault : KeyBytes
  pcVault : KeyBytes
  marketProgram : KeyBytes
  market : KeyBytes

def RaydiumSwapFields.layout (s : RaydiumSwapFields) : List (BufferField UInt8) :=
  [byteField raydiumNonceOffset s.nonce, keyField raydiumOpenOrdersOffset s.openOrders,
    keyField raydiumTargetOrdersOffset s.targetOrders, keyField raydiumCoinVaultOffset s.coinVault,
    keyField raydiumPcVaultOffset s.pcVault, keyField raydiumMarketProgramOffset s.marketProgram,
    keyField raydiumMarketOffset s.market]

theorem RaydiumSwapFields.layout_apart (s : RaydiumSwapFields) :
    s.layout.Pairwise BufferField.Apart := by
  simp [layout, BufferField.Apart, raydiumNonceOffset, raydiumOpenOrdersOffset,
    raydiumTargetOrdersOffset, raydiumCoinVaultOffset, raydiumPcVaultOffset,
    raydiumMarketProgramOffset, raydiumMarketOffset]

theorem RaydiumSwapFields.layout_fits (s : RaydiumSwapFields) : ∀ f ∈ s.layout, f.stop ≤ 752 := by
  simp [layout, raydiumNonceOffset, raydiumOpenOrdersOffset, raydiumTargetOrdersOffset,
    raydiumCoinVaultOffset, raydiumPcVaultOffset, raydiumMarketProgramOffset, raydiumMarketOffset]

section Decoding
variable {fromStr : String → Except String Pubkey}
  {findProgramAddress : List Bytes → Pubkey → Pubkey × UInt8} {poolAddress : String} {data : Bytes}

end Decoding

/-- What a swap instruction says, wherever it was built. -/
structure SwapOrder where
  pool : Pubkey
  authority : Pubkey
  openOrders : Pubkey
  targetOrders : Pubkey
  coinVault : Pubkey
  pcVault : Pubkey
  marketProgram : Pubkey
  market : Pubkey
  userSourceToken : Pubkey
  userDestToken : Pubkey
  userOwner : Pubkey
  amountIn : UInt64
  minimumOut : UInt64
  deriving DecidableEq, Repr

/-- Read an instruction of the pool's program without market accounts. -/
def SwapOrder.read (ix : Instruction) : Option SwapOrder :=
  match ix.accounts.map AccountMeta.pubkey with
  | [_, pool, authority, openOrders, targetOrders, coinVault, pcVault, marketProgram, market,
      userSourceToken, userDestToken, userOwner] => do
    let opcode ← ix.data[0]?
    let amountIn ← indexU64 ix.data 1
    let minimumOut ← indexU64 ix.data 9
    if opcode = 9 ∧ ix.data.length = 17 then
      some ⟨pool, authority, openOrders, targetOrders, coinVault, pcVault, marketProgram, market,
        userSourceToken, userDestToken, userOwner, amountIn, minimumOut⟩
    else none
  | _ => none

namespace JitoBundler

end JitoBundler

section Building
variable {fromStr : String → Except String Pubkey}
  {findProgramAddress : List Bytes → Pubkey → Pubkey × UInt8} {poolAddress : String}
  {account : Bytes} {userSourceToken userDestToken userOwner : Pubkey}
  {amountIn minimumOut : UInt64}

end Building

end SolanaArb.TxBuilder
