import ChainClient.Bytes

/-!
# Variable-length integers

Seven bits in each byte, the low ones first, with the high bit set on every byte but the last. A number has at most ten bytes, and the tenth may only carry the one bit that is left of 64.
-/

namespace ChainClient.Proto

attribute [local instance (high + 1)] instPowNat

private def varintBytes : Nat → Nat → Bytes
  | 0, _ => []
  | fuel + 1, n =>
    if n < 128 then [UInt8.ofNat n] else UInt8.ofNat (n % 128 + 128) :: varintBytes fuel (n / 128)

def varint (n : Nat) : Bytes := varintBytes 10 n

/-- Reads the rest of a number of which `count` bytes have been read. -/
private def readVarintFrom (count : Nat) : Bytes → Option (Nat × Bytes)
  | [] => none
  | byte :: rest =>
    if 9 < count ∨ (count = 9 ∧ 2 ≤ byte.toNat) then none
    else if byte.toNat < 128 then some (byte.toNat, rest)
    else (readVarintFrom (count + 1) rest).map fun (high, rest) => (byte.toNat - 128 + 128 * high, rest)

/-- A number and the bytes behind it. -/
def readVarint? (bytes : Bytes) : Option (Nat × Bytes) := readVarintFrom 0 bytes

/-- A block behind its length, and the bytes behind it. -/
def readBlock? (bytes : Bytes) : Option (Bytes × Bytes) := do
  let (length, rest) ← readVarint? bytes
  if length ≤ rest.length then some (rest.take length, rest.drop length) else none

def block (bytes : Bytes) : Bytes := varint bytes.length ++ bytes

inductive Storage where
  | varint
  | fixed64
  | block
  | groupStart
  | groupEnd
  | fixed32
  deriving DecidableEq

def Storage.number : Storage → Nat
  | varint => 0
  | fixed64 => 1
  | block => 2
  | groupStart => 3
  | groupEnd => 4
  | fixed32 => 5

def Storage.ofNumber? : Nat → Option Storage
  | 0 => some varint
  | 1 => some fixed64
  | 2 => some block
  | 3 => some groupStart
  | 4 => some groupEnd
  | 5 => some fixed32
  | _ => none

/-- What stands in front of the value of a field. -/
def key (field : Nat) (storage : Storage) : Bytes := varint (field * 8 + storage.number)

/-- A field number other than zero, a way of storage and the bytes behind them. -/
def readKey? (bytes : Bytes) : Option (Nat × Storage × Bytes) := do
  let (n, rest) ← readVarint? bytes
  let storage ← Storage.ofNumber? (n % 8)
  if n < 2 ^ (32 : Nat) ∧ 8 ≤ n then some (n / 8, storage, rest) else none

end ChainClient.Proto
