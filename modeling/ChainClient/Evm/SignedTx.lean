import ChainClient.Encoding.Rlp
import ChainClient.Hash.Keccak256

/-!
# Signed EVM transactions

A signed transaction comes as bytes from elsewhere and is only named here, by the digest of its type and its fields. It is a list of fields, after a byte that tells its type; the oldest type has no number in its digest and needs none in front of the list. A transaction with blobs may come with what it only promises, which has no part in its name. A byte string that does not have the fields of its type is no transaction and has no name.
-/

namespace ChainClient.Evm

attribute [local instance (high + 1)] instPowNat

inductive Shape where
  /-- A number without leading zeros, of at most so many bytes. -/
  | number (width : Nat)
  /-- So many bytes. -/
  | fixed (length : Nat)
  /-- Any bytes. -/
  | data
  /-- An account, or nothing where the transaction creates a contract. -/
  | receiver
  /-- One of two. -/
  | parity
  /-- The parity of the signature, with or without the number of the chain. -/
  | recovery
  | listOf (item : Shape)
  | record (fields : List Shape)

namespace Shape

/-- The number that bytes without leading zeros stand for. -/
def number? (width : Nat) (bytes : Bytes) : Option Nat :=
  if bytes.head? = some 0 ∨ width < bytes.length then none else some (Bytes.toNat bytes)

/-- 27 and 28 name no chain; `35 + 2 · chain` and the number after it name one of 64 bits. -/
def isRecovery (value : Nat) : Bool := value == 27 || value == 28 || (35 ≤ value && (value - 35) / 2 < 2 ^ (64 : Nat))

mutual

def admits : Shape → Rlp → Bool
  | number width, .string bytes => (number? width bytes).isSome
  | fixed length, .string bytes => bytes.length == length
  | data, .string _ => true
  | receiver, .string bytes => bytes.isEmpty || bytes.length == 20
  | parity, .string bytes => (number? 1 bytes).any (· < 2)
  | recovery, .string bytes => (number? 16 bytes).any isRecovery
  | listOf item, .list items => items.all fun i => admits item i
  | record fields, .list items => admitsAll fields items
  | _, _ => false

def admitsAll : List Shape → List Rlp → Bool
  | [], [] => true
  | field :: fields, item :: items => admits field item && admitsAll fields items
  | _, _ => false

end

end Shape

open Shape

/-- Contracts, each with the storage slots that a transaction announces to touch. -/
def accessList : Shape := listOf (record [fixed 20, listOf (fixed 32)])

/-- Accounts that delegate to a contract, each with a signature. -/
def authorizations : Shape := listOf (record [number 32, fixed 20, number 8, number 1, number 32, number 32])

private def signature : List Shape := [parity, number 32, number 32]

/-- The nonce, two limits on the price of gas and the limit of gas, for a chain. -/
private def feeMarket : List Shape := [number 8, number 8, number 16, number 16, number 8]

def untyped : List Shape :=
  [number 8, number 16, number 8, receiver, number 32, data, recovery, number 32, number 32]

/-- The fields of a transaction of a numbered type. -/
def fields? (type : UInt8) : Option (List Shape) :=
  match type with
  | 1 => some ([number 8, number 8, number 16, number 8, receiver, number 32, data, accessList] ++ signature)
  | 2 => some (feeMarket ++ [receiver, number 32, data, accessList] ++ signature)
  | 3 => some (feeMarket ++ [fixed 20, number 32, data, accessList, number 16, listOf (fixed 32)] ++ signature)
  | 4 => some (feeMarket ++ [fixed 20, number 32, data, accessList, authorizations] ++ signature)
  | _ => none

def blobLength : Nat := 131072

/-- Blobs, a commitment to each, and proofs. -/
private def blobs : List Shape := [listOf (fixed blobLength), listOf (fixed 48), listOf (fixed 48)]

/-- The list of such fields that a byte string starts with. -/
private def leading? (fields : List Shape) (bytes : Bytes) : Option Bytes := do
  let (items, rest) ← Rlp.leadingList? bytes
  if admitsAll fields items then some (bytes.take (bytes.length - rest.length)) else none

/-- The list of such fields that comes first in a list with blobs. A version in front of the blobs says that the proofs are those of cells. -/
private def leadingWithBlobs? (fields : List Shape) (bytes : Bytes) : Option Bytes := do
  let outer ← Rlp.piece? bytes
  if !outer.isList then none
  let inner ← leading? fields outer.payload
  match ← Rlp.items? (outer.payload.drop inner.length) with
  | .string [1] :: items => if admitsAll blobs items then some inner else none
  | items => if admitsAll blobs items then some inner else none

/-- The bytes that name the transaction at the start of a byte string. -/
def named? : Bytes → Option Bytes
  | [] => none
  | type :: rest =>
    if type = 0 then leading? untyped rest
    else if type < 0x7f then do
      let fields ← fields? type
      let list ← leading? fields rest <|> (if type = 3 then leadingWithBlobs? fields rest else none)
      return type :: list
    else leading? untyped (type :: rest)

def txHash? (bytes : Bytes) : Option Bytes := (named? bytes).map Keccak256.hash

end ChainClient.Evm
