import SolanaArb.Sim.AmmQuoter
import SolanaArb.General.FirstBy

/-! # Pool discovery and the registry

A token's pools come from the registry when it has an entry, and otherwise from
DexScreener: the pairs of supported DEXs with enough liquidity, with the vaults of
Raydium and PumpSwap pools resolved from their accounts. A resolution whose fetch
fails leaves the pools as they are.
-/
namespace SolanaArb.LocalScanner
open SolanaArb.PoolDecoder SolanaArb.AmmQuoter SolanaArb.General

structure DexScreenerPair where
  pairAddress : String
  dexId : String
  baseToken : String
  quoteToken : String
  /-- `liquidity.usd`, either level may be absent. -/
  liquidity : Option (Option ℚ)
  deriving DecidableEq, Repr

abbrev PoolRegistry := AList (fun _ : String => List KnownPool)

def fetchAccounts (rpc : Rpc) (addresses : List String) : Except String AccountMap :=
  fetchAccountsWith "RPC null result" rpc addresses

def dedupByDex (pools : List KnownPool) : List KnownPool := firstBy KnownPool.dex [] pools

/-- Fetch the accounts of the pools that need vaults, resolve these pools, and drop
the ones left without vaults. A failed fetch changes nothing. -/
def resolveVaults (needs : KnownPool → Bool) (resolve : AccountMap → KnownPool → KnownPool)
    (resolved : KnownPool → Bool) (rpc : Rpc) (pools : List KnownPool) : List KnownPool :=
  let unresolved := pools.filter needs
  if unresolved.isEmpty then pools
  else
    match fetchAccounts rpc (unresolved.map KnownPool.poolAddress) with
    | .error _ => pools
    | .ok accounts =>
      (pools.map (fun pool => if needs pool then resolve accounts pool else pool)).filter resolved

section Base58
variable (bs58 : Bytes → String)

def needsRaydiumVaults (pool : KnownPool) : Bool :=
  pool.dex == .raydium && pool.vaultAddresses.isNone

/-- Resolve one Raydium pool from its account: 752 bytes are a V4 pool, 1544 or
more a CLMM pool, which also takes its mints from the account. -/
def resolveRaydiumPool (accounts : AccountMap) (pool : KnownPool) : KnownPool :=
  match accounts.lookup pool.poolAddress with
  | none => pool
  | some data =>
    if data.length = 752 then
      match decodeRaydiumPoolVaults data with
      | .ok (coinVault, pcVault) =>
        { pool with vaultAddresses := some (bs58 coinVault, bs58 pcVault) }
      | .error _ => pool
    else if 1544 ≤ data.length then
      match decodeRaydiumClmm data with
      | .ok state =>
        { pool with
          dex := .raydiumClmm
          vaultAddresses := some (bs58 state.vault0, bs58 state.vault1)
          baseMint := bs58 state.mint0
          quoteMint := bs58 state.mint1 }
      | .error _ => pool
    else pool

def raydiumResolved (pool : KnownPool) : Bool :=
  !(pool.dex == .raydium || pool.dex == .raydiumClmm) || pool.vaultAddresses.isSome

def resolveRaydiumVaults (rpc : Rpc) (pools : List KnownPool) : List KnownPool :=
  resolveVaults needsRaydiumVaults (resolveRaydiumPool bs58) raydiumResolved rpc pools

def needsPumpswapVaults (pool : KnownPool) : Bool :=
  pool.dex == .pumpSwap && pool.vaultAddresses.isNone

def resolvePumpswapPool (accounts : AccountMap) (pool : KnownPool) : KnownPool :=
  match accounts.lookup pool.poolAddress with
  | none => pool
  | some data =>
    match decodePumpswapPool data with
    | .ok state =>
      { pool with
        vaultAddresses := some (bs58 state.baseVault, bs58 state.quoteVault)
        baseMint := bs58 state.baseMint
        quoteMint := bs58 state.quoteMint }
    | .error _ => pool

def pumpswapResolved (pool : KnownPool) : Bool :=
  !(pool.dex == .pumpSwap) || pool.vaultAddresses.isSome

def resolvePumpswapVaults (rpc : Rpc) (pools : List KnownPool) : List KnownPool :=
  resolveVaults needsPumpswapVaults (resolvePumpswapPool bs58) pumpswapResolved rpc pools

def quotableDex (dex : Dex) : Bool :=
  dex == .raydium || dex == .raydiumClmm || dex == .pumpSwap || dex == .pumpFun || dex == .orca

/-- The pool of one pair, if its DEX is supported and it has 1000 USD of liquidity. -/
def poolOfPair (pair : DexScreenerPair) : Option KnownPool :=
  let dex := Dex.fromDexscreenerId pair.dexId
  if !quotableDex dex then none
  else if (pair.liquidity.join).getD 0 < 1000 then none
  else some {
    poolAddress := pair.pairAddress
    dex := dex
    baseMint := pair.baseToken
    quoteMint := pair.quoteToken
    vaultAddresses := none }

/-- What one discovery observes: the DexScreener answer and the two account fetches. -/
structure Discovery where
  response : Except String (Option (List DexScreenerPair))
  raydiumRpc : Rpc
  pumpswapRpc : Rpc

def discoverPoolsForToken (d : Discovery) : Except String (List KnownPool) := do
  let pairs ← d.response
  let pools := (pairs.getD []).filterMap poolOfPair
  .ok (resolvePumpswapVaults bs58 d.pumpswapRpc (resolveRaydiumVaults bs58 d.raydiumRpc pools))

def registerPools (reg : PoolRegistry) (tokenMint : String) (pools : List KnownPool) :
    PoolRegistry :=
  if pools.isEmpty then reg else reg.insert tokenMint pools

def getOrDiscoverPools (reg : PoolRegistry) (tokenMint : String) (d : Discovery) :
    Except String (List KnownPool) × PoolRegistry :=
  match (reg.lookup tokenMint).getD [] with
  | p :: ps => (.ok (dedupByDex (p :: ps)), reg)
  | [] =>
    match discoverPoolsForToken bs58 d with
    | .error e => (.error e, reg)
    | .ok found =>
      let pools := dedupByDex found
      (.ok pools, registerPools reg tokenMint pools)

end Base58
end SolanaArb.LocalScanner
