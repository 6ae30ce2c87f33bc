import ChainClient.Json.Scalars

/-!
# Transfer messages

Sending coins to one account, to many accounts at once, and through a channel to an account of another chain, where the transfer ends at a height or a time if nobody relays it.
-/

namespace ChainClient.Transfer

open Wire

/-- A list of coins must hold some, and all of them positive. -/
def checkCoins (coins : List Coin) : Except MessageFlaw Unit :=
  if coins.isEmpty then .error .emptyCoins
  else match coins.find? (!·.isPositive) with
    | some coin => .error (.amountNotPositive coin.text)
    | none => .ok ()

structure Send where
  sender : AccountAddress
  receiver : AccountAddress
  amount : List Coin
  deriving DecidableEq

def Send.wire : Wire Send :=
  record
    (field "from_address" Address.wire <| field "to_address" Address.wire <| field "amount" (list Coin.wire) .nil)
    (fun m => (m.sender, m.receiver, m.amount, ()))
    (fun (sender, receiver, amount, ()) => { sender, receiver, amount })

def Send.validate (m : Send) : Except MessageFlaw Unit := checkCoins m.amount

/-- What one receiver gets. -/
structure Payment where
  receiver : AccountAddress
  coins : List Coin
  deriving DecidableEq

def Payment.wire : Wire Payment :=
  record (field "to_address" Address.wire <| field "coins" (list Coin.wire) .nil)
    (fun p => (p.receiver, p.coins, ()))
    (fun (receiver, coins, ()) => { receiver, coins })

structure MultiSend where
  sender : AccountAddress
  transfers : List Payment
  deriving DecidableEq

def MultiSend.wire : Wire MultiSend :=
  record (field "from_address" Address.wire <| field "transfers" (list Payment.wire) .nil)
    (fun m => (m.sender, m.transfers, ()))
    (fun (sender, transfers, ()) => { sender, transfers })

/-- How many receivers one message may have. -/
def maxPayments : Nat := 1000

def MultiSend.validate (m : MultiSend) : Except MessageFlaw Unit :=
  if m.transfers.isEmpty ∨ maxPayments < m.transfers.length then .error .transferCount
  else m.transfers.forM fun payment => checkCoins payment.coins

structure ToChannel where
  port : PortId
  channel : ChannelId
  token : Coin
  sender : AccountAddress
  /-- An address of the other chain, in whatever form that chain has. -/
  receiver : String
  timeoutHeight : Height
  timeoutTimestamp : UInt64
  deriving DecidableEq

def ToChannel.wire : Wire ToChannel :=
  record
    (field "source_port" PortId.wire <| field "source_channel" ChannelId.wire <| field "token" Coin.wire <|
      field "sender" Address.wire <| field "receiver" string <| field "timeout_height" Height.wire <|
      field "timeout_timestamp" quotedUInt64 .nil)
    (fun m => (m.port, m.channel, m.token, m.sender, m.receiver, m.timeoutHeight, m.timeoutTimestamp, ()))
    (fun (port, channel, token, sender, receiver, timeoutHeight, timeoutTimestamp, ()) =>
      { port, channel, token, sender, receiver, timeoutHeight, timeoutTimestamp })

def ToChannel.validate (m : ToChannel) : Except MessageFlaw Unit :=
  if !m.token.isPositive then .error (.tokenNotPositive m.token.text)
  else if Text.blank m.receiver then .error .missingReceiver
  else if m.timeoutHeight.isZero ∧ m.timeoutTimestamp = 0 then .error .noTimeout
  else .ok ()

end ChainClient.Transfer
