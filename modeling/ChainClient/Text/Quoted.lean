import ChainClient.Text.Number
import ChainClient.Text.Printable

/-!
# Quoted text

A text shown inside a message stands between double quotes. The quote, the backslash and the usual control characters are written with a backslash; every other character that cannot be printed, or that would be drawn onto its neighbour, is written by its code point.
-/

namespace ChainClient.Text

/-- A code point in lower-case hexadecimal, between braces. -/
private def codePoint (c : Char) : List Char :=
  ['\\', 'u', '\x7b'] ++ Nat.toDigits 16 c.toNat ++ ['\x7d']

def quotedChar (c : Char) : List Char :=
  if c = '"' then ['\\', '"']
  else if c = '\\' then ['\\', '\\']
  else if c = '\n' then ['\\', 'n']
  else if c = '\r' then ['\\', 'r']
  else if c = '\t' then ['\\', 't']
  else if c.toNat = 0 then ['\\', '0']
  else if 0x20 ≤ c.toNat ∧ c.toNat < 0x7f then [c]
  else if isUnprintable c ∨ isCombining c then codePoint c
  else [c]

def quoted (text : String) : String := String.ofList ('"' :: text.toList.flatMap quotedChar ++ ['"'])

end ChainClient.Text
