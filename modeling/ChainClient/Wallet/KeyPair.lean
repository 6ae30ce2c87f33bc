import ChainClient.Address.Basic
import ChainClient.Curve.Signature
import ChainClient.Hash.Keccak256
import ChainClient.Wallet.HdPath
import ChainClient.Wallet.Mnemonic

/-!
# Key pairs

A secret key is derived from a seed step by step, each step mixing the key before it, or for a step that is not hardened its public key, with a code that travels along. The address of a key is the end of the Keccak digest of its public point.
-/

namespace ChainClient

attribute [local instance (high + 1)] instPowNat

/-- A secret key with the code that its descendants are derived with. -/
structure ExtendedKey where
  secret : Nat
  code : Bytes
  deriving DecidableEq

namespace ExtendedKey

/-- Splits a code of 64 bytes into a number below the order and 32 bytes. -/
private def split? (code : Bytes) : Option (Nat × Bytes) :=
  let n := Bytes.toNat (code.take 32)
  if n < Secp256k1.order then some (n, code.drop 32) else none

def ofSeed? (seed : Bytes) : Option ExtendedKey := do
  let (secret, code) ← split? ((HmacKey.ofBytes (Bytes.ofText "Bitcoin seed")).code seed)
  if secret = 0 then none else return ⟨secret, code⟩

def child? (key : ExtendedKey) (step : Nat) : Option ExtendedKey := do
  let parent :=
    if 2 ^ (31 : Nat) ≤ step then 0 :: Bytes.ofNat 32 key.secret
    else (Secp256k1.Point.times key.secret .generator).compressed
  let (tweak, code) ← split? ((HmacKey.ofBytes key.code).code (parent ++ Bytes.ofNat 4 step))
  let secret := (tweak + key.secret) % Secp256k1.order
  if secret = 0 then none else return ⟨secret, code⟩

def derive? (key : ExtendedKey) (path : HdPath) : Option ExtendedKey := path.steps.foldlM child? key

end ExtendedKey

structure KeyPair where
  secret : Nat
  deriving DecidableEq

namespace KeyPair

/-- The key at the end of a path from the seed of a mnemonic. -/
def ofMnemonic (phrase : String) (path : HdPath) : Except ClientError KeyPair := do
  let words ← (Mnemonic.check phrase).mapError .invalidMnemonic
  match ExtendedKey.ofSeed? (Mnemonic.seed words) >>= fun key => key.derive? path with
  | some key => return ⟨key.secret⟩
  | none => throw .keyDerivation

def point (key : KeyPair) : Secp256k1.Point := Secp256k1.Point.times key.secret .generator

def publicBytes (key : KeyPair) : Bytes := key.point.compressed

def address (key : KeyPair) : AccountAddress := Address.ofFirst ((Keccak256.hash key.point.coordinates).drop 12)

/-- The signature of the Keccak digest of a message, 65 bytes. -/
def sign (key : KeyPair) (message : Bytes) : Bytes := (Secp256k1.sign key.secret (Keccak256.hash message)).bytes

end KeyPair

end ChainClient
