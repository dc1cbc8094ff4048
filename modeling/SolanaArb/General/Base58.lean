import Mathlib.Data.Nat.Digits.Defs

/-! # Base58 text of a byte string

Leading zero bytes become leading ones; the rest is the big-endian value in base
58, most significant digit first.
-/
namespace SolanaArb.General

def base58Alphabet : List Char :=
  "123456789ABCDEFGHJKLMNPQRSTUVWXYZabcdefghijkmnopqrstuvwxyz".toList

def base58Encode (bytes : List UInt8) : String :=
  let zeros := (bytes.takeWhile (· == 0)).length
  let value := bytes.foldl (fun n b => n * 256 + b.toNat) 0
  String.ofList (List.replicate zeros '1' ++
    ((Nat.digits 58 value).reverse.map (fun d => base58Alphabet.getD d '1')))

example : base58Encode (List.replicate 32 0) = "11111111111111111111111111111111" := by
  decide +kernel

example : base58Encode [6, 155, 136, 87, 254, 171, 129, 132, 251, 104, 127, 99, 70, 24, 192, 53,
    218, 196, 57, 220, 26, 235, 59, 85, 152, 160, 240, 0, 0, 0, 0, 1] =
    "So11111111111111111111111111111111111111112" := by
  decide +kernel

end SolanaArb.General
