import ChainClient.Encoding.Bech32.Checksum
import ChainClient.Encoding.Error

/-!
# Bech32 text

A text is a human readable part, the separator `1`, the symbols of the data and six checksum symbols. The human readable part has 1 to 83 printable ASCII characters and may hold the separator too, so a reader splits at the last one. A text is written in lower case and read when no two of its letters differ in case; the data has no length limit.
-/

namespace ChainClient.Bech32

def separator : Char := '1'

/-- A printable ASCII character other than the space. -/
def isHrpChar (c : Char) : Bool := 33 ≤ c.toNat && c.toNat ≤ 126

/-- No lower-case letter stands beside an upper-case letter. -/
def oneCase (cs : List Char) : Bool := !(cs.any Char.isLower && cs.any Char.isUpper)

def validHrp (hrp : List Char) : Bool :=
  1 ≤ hrp.length && hrp.length ≤ 83 && hrp.all isHrpChar && oneCase hrp

def lower (cs : List Char) : List Char := cs.map Char.toLower

/-- The text of symbols after a lower-case human readable part. -/
def assemble (hrp : List Char) (data : List Symbol) : List Char :=
  hrp ++ separator :: (data ++ checksum hrp data).map Symbol.char

def encode (hrp : String) (data : Bytes) : Except EncodeError String :=
  if validHrp hrp.toList then .ok (String.ofList (assemble (lower hrp.toList) (symbolsOfBytes data)))
  else .error .bech32Encode

/-- The parts before and after the last separator. -/
def splitLast : List Char → Option (List Char × List Char)
  | [] => none
  | c :: cs =>
    match splitLast cs with
    | some (before, after) => some (c :: before, after)
    | none => if c = separator then some ([], cs) else none

/-- A human readable part in lower case and the symbols after the separator, the checksum among them. -/
def parts? (text : List Char) : Option (List Char × List Symbol) := do
  let (hrp, rest) ← splitLast text
  if validHrp hrp ∧ oneCase text then
    let symbols ← rest.mapM fun c => Symbol.ofChar? c.toLower
    if 6 ≤ symbols.length then some (lower hrp, symbols) else none
  else none

/-- The human readable part in lower case and the data of a text. -/
def decode (text : String) : Except EncodeError (String × Bytes) :=
  match parts? text.toList with
  | none => .error .bech32Decode
  | some (hrp, symbols) =>
    let r := residue (expand hrp ++ symbols)
    if r = bech32Constant then
      match bytesOfSymbols? (symbols.take (symbols.length - 6)) with
      | some bytes => .ok (String.ofList hrp, bytes)
      | none => .error .bech32Decode
    else if r = bech32mConstant then .error (.bech32Variant (String.ofList hrp))
    else .error .bech32Decode

def decodeData (text : String) : Except EncodeError Bytes := (decode text).map Prod.snd

end ChainClient.Bech32
