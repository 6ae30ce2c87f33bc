import ChainClient.Curve.Secp256k1
import ChainClient.Hash.Keyed

/-!
# Signatures

A signature of a digest is two numbers and the two bits from which the public key can be recovered. The secret nonce is derived from the key and the digest alone, so signing is a function, and of the two signatures that a nonce allows the one with the smaller second number is taken.
-/

namespace ChainClient.Secp256k1

/-- The state from which nonces are drawn. -/
structure NonceState where
  key : Bytes
  value : Bytes

namespace NonceState

private def mix (s : NonceState) (tag : UInt8) (data : Bytes) : NonceState :=
  let key := hmacSha256 s.key (s.value ++ tag :: data)
  ⟨key, hmacSha256 key s.value⟩

def start (secret : Nat) (digest : Bytes) : NonceState :=
  let data := Bytes.ofNat 32 secret ++ digest
  (mix (mix ⟨List.replicate 32 0, List.replicate 32 1⟩ 0 data) 1 data)

/-- The next candidate and the state to draw another one from. -/
def draw (s : NonceState) : Nat × NonceState :=
  let value := hmacSha256 s.key s.value
  (Bytes.toNat value, mix ⟨s.key, value⟩ 0 [])

end NonceState

structure RecoverableSignature where
  r : Nat
  s : Nat
  recovery : Nat
  deriving DecidableEq, Repr

namespace RecoverableSignature

/-- The signature that a nonce gives, in the form with the smaller second number. -/
def withNonce (secret : Nat) (digest : Bytes) (nonce : Nat) : RecoverableSignature :=
  let (x, y) := (Point.times nonce .generator).affine
  let r := x % order
  let s := inverseMod order nonce * (Bytes.toNat digest + r * secret) % order
  let recovery := (if order ≤ x then 2 else 0) + y % 2
  if order / 2 < s then ⟨r, order - s, recovery ^^^ 1⟩ else ⟨r, s, recovery⟩

/-- Draws nonces until one is in range and gives a signature without a zero. -/
private def search (secret : Nat) (digest : Bytes) : Nat → NonceState → RecoverableSignature
  | 0, state => withNonce secret digest state.draw.1
  | fuel + 1, state =>
    let (nonce, next) := state.draw
    let signature := withNonce secret digest nonce
    if 0 < nonce ∧ nonce < order ∧ signature.r ≠ 0 ∧ signature.s ≠ 0 then signature
    else search secret digest fuel next

/-- Both numbers in 32 bytes each and the recovery bits. -/
def bytes (signature : RecoverableSignature) : Bytes :=
  Bytes.ofNat 32 signature.r ++ Bytes.ofNat 32 signature.s ++ [UInt8.ofNat signature.recovery]

end RecoverableSignature

/-- The signature of a digest of 32 bytes. -/
def sign (secret : Nat) (digest : Bytes) : RecoverableSignature :=
  RecoverableSignature.search secret digest 16 (NonceState.start secret digest)

end ChainClient.Secp256k1
