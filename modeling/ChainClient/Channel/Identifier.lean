import ChainClient.Text.Number
import ChainClient.ValueError

/-!
# Ports and channels

Identifiers of ports and channels are short texts of a fixed set of ASCII characters. Reading one from a text checks it; the values themselves may also come from data that nobody has checked.
-/

namespace ChainClient

namespace Identifier

def isSpecial (c : Char) : Bool := "._+-#[]<>".toList.contains c

/-- Checks an identifier against bounds on its length in bytes. -/
def validate (id : String) (min max : Nat) : Except IdentifierError Unit :=
  if id.isEmpty then .error .empty
  else if id.toList.contains '/' then .error (.containsSeparator id)
  else if id.utf8ByteSize < min ∨ max < id.utf8ByteSize then .error (.invalidLength id id.utf8ByteSize min max)
  else if id.toList.all fun c => c.isAlphanum || isSpecial c then .ok ()
  else .error (.invalidCharacter id)

end Identifier

structure PortId where
  text : String
  deriving DecidableEq, Repr

namespace PortId

def transfer : PortId := ⟨"transfer"⟩

def parse (text : String) : Except IdentifierError PortId := (Identifier.validate text 2 128).map fun _ => ⟨text⟩

end PortId

structure ChannelId where
  text : String
  deriving DecidableEq, Repr

namespace ChannelId

/-- The identifier that the chain gives to its `n`-th channel. -/
def ofCounter (n : UInt64) : ChannelId := ⟨String.ofList ("channel-".toList ++ Text.digits n.toNat)⟩

def parse (text : String) : Except IdentifierError ChannelId := (Identifier.validate text 8 64).map fun _ => ⟨text⟩

end ChannelId

end ChainClient
