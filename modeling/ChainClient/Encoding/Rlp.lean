import ChainClient.Bytes

/-!
# RLP

An item is a string of bytes or a list of items. Its first byte tells the kind and how the length is written: a byte below `0x80` is a string by itself, short payloads have their length in the first byte, longer ones in up to eight bytes after it. Only the shortest form of each item is read.
-/

namespace ChainClient

inductive Rlp where
  | string (bytes : Bytes)
  | list (items : List Rlp)
  deriving Repr

namespace Rlp

/-- The payload of the first item and what comes after the item. -/
structure Piece where
  isList : Bool
  payload : Bytes
  rest : Bytes

def cut? (length : Nat) (bytes : Bytes) : Option (Bytes × Bytes) :=
  if length ≤ bytes.length then some (bytes.take length, bytes.drop length) else none

/-- A payload whose length is in the first byte. A single byte below `0x80` does not need it. -/
private def shortPiece? (isList : Bool) (length : Nat) (bytes : Bytes) : Option Piece :=
  match cut? length bytes with
  | some ([byte], rest) => if !isList && byte < 0x80 then none else some ⟨isList, [byte], rest⟩
  | some (payload, rest) => some ⟨isList, payload, rest⟩
  | none => none

/-- A payload of at least 56 bytes whose length is in the bytes before it, without leading zeros. -/
private def longPiece? (isList : Bool) (width : Nat) (bytes : Bytes) : Option Piece := do
  let (digits, rest) ← cut? width bytes
  if digits.head? = some 0 ∨ Bytes.toNat digits < 56 then none
  let (payload, rest) ← cut? (Bytes.toNat digits) rest
  return ⟨isList, payload, rest⟩

def piece? : Bytes → Option Piece
  | [] => none
  | byte :: rest =>
    let n := byte.toNat
    if n < 0x80 then some ⟨false, [byte], rest⟩
    else if n < 0xb8 then shortPiece? false (n - 0x80) rest
    else if n < 0xc0 then longPiece? false (n - 0xb7) rest
    else if n < 0xf8 then shortPiece? true (n - 0xc0) rest
    else longPiece? true (n - 0xf7) rest

/-- Reads items up to the end; every step shortens what is left, so a bound above the length is never met. -/
private def readItems? : Nat → Bytes → Option (List Rlp)
  | _, [] => some []
  | 0, _ => none
  | bound + 1, bytes => do
    let piece ← piece? bytes
    let item ← if piece.isList then (readItems? bound piece.payload).map list else some (string piece.payload)
    return item :: (← readItems? bound piece.rest)

def items? (bytes : Bytes) : Option (List Rlp) := readItems? (bytes.length + 1) bytes

/-- The items of the list that a byte string starts with, and what comes after the list. -/
def leadingList? (bytes : Bytes) : Option (List Rlp × Bytes) := do
  let piece ← piece? bytes
  if !piece.isList then none
  return (← items? piece.payload, piece.rest)

end Rlp

end ChainClient
