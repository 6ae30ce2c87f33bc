import ChainClient.Address.ConsensusKey
import ChainClient.Channel.Height
import ChainClient.Channel.Identifier
import ChainClient.Coin.Basic
import ChainClient.Json.Wire

/-!
# The wire formats of amounts, coins, addresses, identifiers and heights

Amounts and addresses are strings in their own text, checked when they are read. The denomination of a coin and the identifiers of ports and channels are taken as they come.
-/

namespace ChainClient

open Wire

def Decimal.wire : Wire Decimal := parsed Decimal.text Decimal.parse

def Coin.wire : Wire Coin :=
  record (field "denom" string <| field "amount" Decimal.wire .nil)
    (fun c => (c.denom, c.amount, ()))
    (fun (denom, amount, ()) => { denom, amount })

def Address.wire {role : Role} : Wire (Address role) := parsed Address.text Address.parse

def ConsensusKey.wire : Wire ConsensusKey := parsed ConsensusKey.text ConsensusKey.parse

def PortId.wire : Wire PortId := texted PortId.text fun text => some ⟨text⟩

def ChannelId.wire : Wire ChannelId := texted ChannelId.text fun text => some ⟨text⟩

def Height.wire : Wire Height :=
  record (field "revision_number" quotedUInt64 <| field "revision_height" quotedUInt64 .nil)
    (fun h => (h.revision, h.block, ()))
    (fun (revision, block, ()) => { revision, block })

end ChainClient
