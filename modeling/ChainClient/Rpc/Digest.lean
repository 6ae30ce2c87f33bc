import ChainClient.Client.Error
import ChainClient.Encoding.Hex

/-!
# Digests in requests and answers

A digest has 32 bytes, or none where there is nothing to name. In hexadecimal it may be cut short; what is missing at the end is zero.
-/

namespace ChainClient.Rpc

/-- The bytes of a digest in hexadecimal digits of either case. -/
def digestOfHex? (cs : List Char) : Option Bytes :=
  match Hex.pairs? cs with
  | none => none
  | some [] => some []
  | some bytes => if 32 < bytes.length then none else some (bytes ++ List.replicate (32 - bytes.length) 0)

/-- The text without the marks `0x` in front of it, however many there are. -/
def dropMarks : List Char → List Char
  | '0' :: 'x' :: cs => dropMarks cs
  | cs => cs

/-- The upper case of a character as far as hexadecimal digits come out of it; the ligature `ff` is two digits. -/
def upperDigits (c : Char) : List Char := if c = '\ufb00' then ['F', 'F'] else [c.toUpper]

/-- The hash that names a transaction, from a text with blanks and marks around it. -/
def txHash? (text : String) : Option Bytes :=
  digestOfHex? ((dropMarks (Text.trimChars text.toList)).flatMap upperDigits)

def parseTxHash (text : String) : Except ClientError Bytes :=
  match txHash? text with
  | some hash => .ok hash
  | none => .error (.invalidParam "hash" .form)

end ChainClient.Rpc
