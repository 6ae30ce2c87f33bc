import ChainClient.Address.Basic
import ChainClient.Hash.Sha256

/-!
# Escrow accounts

Coins that leave over a channel are kept by an account whose address is derived from the channel's end.
-/

namespace ChainClient.Escrow

/-- What is hashed: the version of the transfer protocol, a zero byte, and the end of the channel. -/
def preimage (port channel : String) : Bytes :=
  Bytes.ofText "ics20-1" ++ 0 :: Bytes.ofText (port ++ "/" ++ channel)

def address (port channel : String) : AccountAddress := Address.ofFirst (Sha256.hash (preimage port channel))

end ChainClient.Escrow
