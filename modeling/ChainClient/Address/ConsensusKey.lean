import ChainClient.Address.Basic

/-!
# Consensus keys

The public key with which a validator takes part in consensus: 32 bytes, written behind five bytes that mark them as an ed25519 key.
-/

namespace ChainClient

structure ConsensusKey where
  bytes : Bytes
  length_bytes : bytes.length = 32
  deriving DecidableEq

namespace ConsensusKey

def hrp : String := "exvalconspub"

/-- What stands in front of the bytes of an ed25519 key. -/
def mark : Bytes := [0x16, 0x24, 0xde, 0x64, 0x20]

def text (key : ConsensusKey) : String :=
  String.ofList (Bech32.assemble hrp.toList (Bech32.symbolsOfBytes (mark ++ key.bytes)))

def parse (text : String) : Except ValueError ConsensusKey :=
  if Text.blank text then .error (.invalidConsensusKey .empty)
  else
    match Bech32.decode text with
    | .error cause => .error (.bech32Decode text cause)
    | .ok (found, bytes) =>
      if found ≠ hrp then .error (.invalidHrp hrp found)
      else if h : bytes.length = 37 then
        if bytes.take 5 = mark then .ok ⟨bytes.drop 5, by simp [h]⟩
        else .error (.invalidConsensusKey .notEd25519)
      else .error (.invalidConsensusKey (.length bytes.length))

end ConsensusKey

end ChainClient
