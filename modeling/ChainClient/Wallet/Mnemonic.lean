import ChainClient.Client.Error
import ChainClient.Hash.Keyed
import ChainClient.Unicode.Compatibility
import ChainClient.Wallet.EnglishWords

/-!
# Mnemonics

A mnemonic is 12 to 24 words that spell out random bits and a checksum of them, eleven bits a word. The seed of all keys is stretched from the words themselves, in plain letters and joined with single spaces.
-/

namespace ChainClient.Mnemonic

private def numberBits (width n : Nat) : List Bool := (List.range width).reverse.map n.testBit

/-- The number of bytes of random bits for a count of words. -/
def entropyLength? (words : Nat) : Option Nat :=
  if words ∈ [12, 15, 18, 21, 24] then some (words / 3 * 4) else none

private def bytesOfBits : List Bool → Bytes
  | a :: b :: c :: d :: e :: f :: g :: h :: rest =>
    UInt8.ofNat ([a, b, c, d, e, f, g, h].foldl (fun value bit => 2 * value + bit.toNat) 0) :: bytesOfBits rest
  | _ => []

/-- The words in one line, once they are known to be a mnemonic. -/
def check (phrase : String) : Except MnemonicFlaw String := do
  let words := (Text.words phrase.toList).map fun word => String.ofList (word.flatMap Unicode.plainLetters)
  let some positions := words.mapM fun word => englishWords.idxOf? word | throw .unknownWord
  if words.isEmpty then throw .unknownWord
  let some length := entropyLength? words.length | throw (.wordCount words.length)
  let bits := positions.flatMap (numberBits 11)
  let entropy := bytesOfBits (bits.take (8 * length))
  let expected := (numberBits 256 (Bytes.toNat (Sha256.hash entropy))).take (length / 4)
  if bits.drop (8 * length) = expected then return String.intercalate " " words else throw .checksum

/-- The seed of 64 bytes, without a passphrase. -/
def seed (words : String) : Bytes := stretch (Bytes.ofText words) (Bytes.ofText "mnemonic") 2048

end ChainClient.Mnemonic
