import ChainClient.Bytes
import ChainClient.Encoding.Error

/-!
# Hexadecimal text

Bytes are written with two digits each, in one letter case. The reader takes digits of either case and at most one `0x` in front.
-/

namespace ChainClient.Hex

/-- The value of a hexadecimal digit of either case. -/
def digit? (c : Char) : Option Nat :=
  if c.isDigit then some (c.toNat - '0'.toNat)
  else if 'a' ≤ c ∧ c ≤ 'f' then some (c.toNat - 'a'.toNat + 10)
  else if 'A' ≤ c ∧ c ≤ 'F' then some (c.toNat - 'A'.toNat + 10)
  else none

def lowerDigit (n : Nat) : Char := Nat.digitChar n

def upperDigit (n : Nat) : Char := (Nat.digitChar n).toUpper

private def writeChars (digit : Nat → Char) (bytes : Bytes) : List Char :=
  bytes.flatMap fun byte => [digit (byte.toNat / 16), digit (byte.toNat % 16)]

def encode (bytes : Bytes) : String := String.ofList (writeChars lowerDigit bytes)

def encodeUpper (bytes : Bytes) : String := String.ofList (writeChars upperDigit bytes)

def pairs? : List Char → Option Bytes
  | [] => some []
  | [_] => none
  | high :: low :: rest => do
    let h ← digit? high
    let l ← digit? low
    let tail ← pairs? rest
    return UInt8.ofNat (16 * h + l) :: tail

/-- The characters after one leading `0x`, if it is there. -/
def dropMark : List Char → List Char
  | '0' :: 'x' :: rest => rest
  | cs => cs

def decode (text : String) : Except EncodeError Bytes :=
  match pairs? (dropMark text.toList) with
  | some bytes => .ok bytes
  | none => .error .hexDecode

end ChainClient.Hex
