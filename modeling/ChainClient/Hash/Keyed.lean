import ChainClient.Hash.Sha256
import ChainClient.Hash.Sha512

/-!
# Keyed hashing and key stretching

HMAC-SHA512 hashes the message between two passes that start from the key. Both passes begin with one block that depends on the key alone, so a key is kept as the two states after that block; stretching a password then costs two blocks in each round.
-/

namespace ChainClient

/-- A key after the first block of the inner and of the outer pass. -/
structure HmacKey where
  inner : Sha512.State
  outer : Sha512.State

namespace HmacKey

/-- A key of at most one block of 128 bytes is filled up with zeros; a longer one is hashed first. -/
def ofBytes (key : Bytes) : HmacKey :=
  let short := if key.length ≤ 128 then key else Sha512.hash key
  let block := short ++ List.replicate (128 - short.length) 0
  { inner := Sha512.absorb Sha512.initial (wordsOf64 (block.map (· ^^^ 0x36)))
    outer := Sha512.absorb Sha512.initial (wordsOf64 (block.map (· ^^^ 0x5c))) }

/-- The authentication code of a message, 64 bytes. -/
def code (key : HmacKey) (message : Bytes) : Bytes :=
  Sha512.finish key.outer 192 (Sha512.finish key.inner (128 + message.length) message)

end HmacKey

/-- The code of a message by HMAC-SHA256, for a key of at most one block of 64 bytes. -/
def hmacSha256 (key message : Bytes) : Bytes :=
  let block := key ++ List.replicate (64 - key.length) 0
  Sha256.hash (block.map (· ^^^ 0x5c) ++ Sha256.hash (block.map (· ^^^ 0x36) ++ message))

/-- Repeats the keyed hash on its own result and adds all results up. -/
private def stretchRounds (key : HmacKey) : Nat → Bytes → Bytes → Bytes
  | 0, _, sum => sum
  | n + 1, last, sum =>
    let next := key.code last
    stretchRounds key n next (List.zipWith (· ^^^ ·) sum next)

/-- The first 64 bytes of PBKDF2 with HMAC-SHA512. -/
def stretch (password salt : Bytes) (rounds : Nat) : Bytes :=
  let key := HmacKey.ofBytes password
  let first := key.code (salt ++ [0, 0, 0, 1])
  stretchRounds key (rounds - 1) first first

end ChainClient
