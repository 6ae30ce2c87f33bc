import ChainClient.Bytes

/-!
# The 32 symbols

A symbol carries five bits. Bytes and symbols are regrouped through the list of their bits, most significant first: going to symbols fills the last one up with zero bits, and going back requires that fewer than five bits are left over and that they are zero. So every byte string has one symbol string and every symbol string at most one byte string.
-/

namespace ChainClient.Bech32

abbrev Symbol := Fin 32

/-- The symbol of the five lowest bits of a number. -/
def Symbol.ofNat (n : Nat) : Symbol := ⟨n % 32, Nat.mod_lt n (by decide)⟩

def alphabet : List Char :=
  ['q', 'p', 'z', 'r', 'y', '9', 'x', '8', 'g', 'f', '2', 't', 'v', 'd', 'w', '0',
   's', '3', 'j', 'n', '5', '4', 'k', 'h', 'c', 'e', '6', 'm', 'u', 'a', '7', 'l']

def Symbol.char (s : Symbol) : Char := alphabet.get s

def Symbol.ofChar? (c : Char) : Option Symbol := alphabet.finIdxOf? c

def Symbol.bits (s : Symbol) : List Bool := [4, 3, 2, 1, 0].map s.val.testBit

def byteBits (byte : UInt8) : List Bool := [7, 6, 5, 4, 3, 2, 1, 0].map byte.toNat.testBit

/-- The number with these bits, most significant first. -/
def bitsValue (bits : List Bool) : Nat := bits.foldl (fun value bit => 2 * value + bit.toNat) 0

def Symbol.ofBits (bits : List Bool) : Symbol := Symbol.ofNat (bitsValue bits)

/-- Cuts bits into symbols; the last one is filled up with zeros. -/
def packSymbols : List Bool → List Symbol
  | [] => []
  | [a] => [Symbol.ofBits [a, false, false, false, false]]
  | [a, b] => [Symbol.ofBits [a, b, false, false, false]]
  | [a, b, c] => [Symbol.ofBits [a, b, c, false, false]]
  | [a, b, c, d] => [Symbol.ofBits [a, b, c, d, false]]
  | a :: b :: c :: d :: e :: rest => Symbol.ofBits [a, b, c, d, e] :: packSymbols rest

/-- Cuts bits into bytes; fewer than five zeros may be left over. -/
def packBytes? : List Bool → Option Bytes
  | a :: b :: c :: d :: e :: f :: g :: h :: rest =>
    (packBytes? rest).map (UInt8.ofNat (bitsValue [a, b, c, d, e, f, g, h]) :: ·)
  | left => if left.length < 5 ∧ left.all (!·) then some [] else none

def symbolsOfBytes (bytes : Bytes) : List Symbol := packSymbols (bytes.flatMap byteBits)

def bytesOfSymbols? (symbols : List Symbol) : Option Bytes := packBytes? (symbols.flatMap Symbol.bits)

end ChainClient.Bech32
