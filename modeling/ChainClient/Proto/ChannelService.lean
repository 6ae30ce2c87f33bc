import ChainClient.Proto.Message

/-!
# The query services of channels and token transfers

The questions that can be put to the two services, each with its path, its request in protobuf and the kind of its response.
-/

namespace ChainClient.Proto

/-! ## Responses -/

private def height : Kind := .message [(1, false, .uint64), (2, false, .uint64)]

private def pageResponse : Kind := .message [(1, false, .bytes), (2, false, .uint64)]

private def anyValue : Kind := .message [(1, false, .text), (2, false, .bytes)]

private def counterparty : Kind := .message [(1, false, .text), (2, false, .text)]

private def channelFields : Schema :=
  [(1, false, .int32), (2, false, .int32), (3, false, counterparty), (4, true, .text), (5, false, .text)]

private def channel : Kind := .message (channelFields ++ [(6, false, .uint64)])

private def identifiedChannel : Kind :=
  .message (channelFields ++ [(6, false, .text), (7, false, .text), (8, false, .uint64)])

private def packetState : Kind :=
  .message [(1, false, .text), (2, false, .text), (3, false, .uint64), (4, false, .bytes)]

private def identifiedClientState : Kind := .message [(1, false, .text), (2, false, anyValue)]

private def denomTrace : Kind := .message [(1, false, .text), (2, false, .text)]

private def transferParams : Kind := .message [(1, false, .bool), (2, false, .bool)]

inductive Response where
  | denomTrace
  | denomTraces
  | transferParams
  | channels
  | channel
  | connectionChannels
  | channelClientState
  | channelConsensusState
  | packetCommitment
  | packetCommitments
  | packetReceipt
  | packetAcknowledgement
  | packetAcknowledgements
  | unreceivedPackets
  | unreceivedAcks
  | nextSequenceReceive
  deriving DecidableEq, Repr

namespace Response

/-- A value, the proof that the chain holds it, and the height of the proof. -/
private def proven (value : List (Nat × Bool × Kind)) (next : Nat) : Schema :=
  value ++ [(next, false, .bytes), (next + 1, false, height)]

/-- Values with the position in the list of all, and the height of the answer. -/
private def paged (kind : Kind) : Schema := [(1, true, kind), (2, false, pageResponse), (3, false, height)]

def schema : Response → Schema
  | denomTrace => [(1, false, Proto.denomTrace)]
  | denomTraces => [(1, true, Proto.denomTrace), (2, false, pageResponse)]
  | transferParams => [(1, false, Proto.transferParams)]
  | channels | connectionChannels => paged identifiedChannel
  | channel => proven [(1, false, Proto.channel)] 2
  | channelClientState => proven [(1, false, identifiedClientState)] 2
  | channelConsensusState => proven [(1, false, anyValue), (2, false, .text)] 3
  | packetCommitment | packetAcknowledgement => proven [(1, false, .bytes)] 2
  | packetCommitments | packetAcknowledgements => paged packetState
  | packetReceipt => proven [(2, false, .bool)] 3
  | unreceivedPackets | unreceivedAcks => [(1, true, .uint64), (2, false, height)]
  | nextSequenceReceive => proven [(1, false, .uint64)] 2

/-- The name of the message, without its package. -/
def label : Response → String
  | denomTrace => "QueryDenomTraceResponse"
  | denomTraces => "QueryDenomTracesResponse"
  | transferParams => "QueryParamsResponse"
  | channels => "QueryChannelsResponse"
  | channel => "QueryChannelResponse"
  | connectionChannels => "QueryConnectionChannelsResponse"
  | channelClientState => "QueryChannelClientStateResponse"
  | channelConsensusState => "QueryChannelConsensusStateResponse"
  | packetCommitment => "QueryPacketCommitmentResponse"
  | packetCommitments => "QueryPacketCommitmentsResponse"
  | packetReceipt => "QueryPacketReceiptResponse"
  | packetAcknowledgement => "QueryPacketAcknowledgementResponse"
  | packetAcknowledgements => "QueryPacketAcknowledgementsResponse"
  | unreceivedPackets => "QueryUnreceivedPacketsResponse"
  | unreceivedAcks => "QueryUnreceivedAcksResponse"
  | nextSequenceReceive => "QueryNextSequenceReceiveResponse"

def all : List Response :=
  [denomTrace, denomTraces, transferParams, channels, channel, connectionChannels, channelClientState,
    channelConsensusState, packetCommitment, packetCommitments, packetReceipt, packetAcknowledgement,
    packetAcknowledgements, unreceivedPackets, unreceivedAcks, nextSequenceReceive]

end Response

/-! ## Requests -/

/-- Which part of a long list is asked for. -/
structure PageRequest where
  key : Bytes
  offset : UInt64
  limit : UInt64
  countTotal : Bool
  reverse : Bool
  deriving DecidableEq

def PageRequest.encode (page : PageRequest) : Bytes :=
  bytesField 1 page.key ++ numberField 2 page.offset.toNat ++ numberField 3 page.limit.toNat ++
    numberField 4 page.countTotal.toNat ++ numberField 5 page.reverse.toNat

structure ChannelEnd where
  port : String
  channel : String
  deriving DecidableEq, Repr

def ChannelEnd.encode (e : ChannelEnd) : Bytes := textField 1 e.port ++ textField 2 e.channel

inductive Query where
  | denomTrace (hash : String)
  | denomTraces (page : Option PageRequest)
  | transferParams
  | channels
  | channel (position : ChannelEnd)
  | connectionChannels (connection : String) (page : Option PageRequest)
  | channelClientState (position : ChannelEnd)
  | channelConsensusState (position : ChannelEnd) (revision height : UInt64)
  | packetCommitment (position : ChannelEnd) (sequence : UInt64)
  | packetCommitments (position : ChannelEnd) (page : Option PageRequest)
  | packetReceipt (position : ChannelEnd) (sequence : UInt64)
  | packetAcknowledgement (position : ChannelEnd) (sequence : UInt64)
  | packetAcknowledgements (position : ChannelEnd) (page : Option PageRequest) (sequences : List UInt64)
  | unreceivedPackets (position : ChannelEnd) (sequences : List UInt64)
  | unreceivedAcks (position : ChannelEnd) (sequences : List UInt64)
  | nextSequenceReceive (position : ChannelEnd)
  deriving DecidableEq

namespace Query

def response : Query → Response
  | denomTrace _ => .denomTrace
  | denomTraces _ => .denomTraces
  | transferParams => .transferParams
  | channels => .channels
  | channel _ => .channel
  | connectionChannels _ _ => .connectionChannels
  | channelClientState _ => .channelClientState
  | channelConsensusState _ _ _ => .channelConsensusState
  | packetCommitment _ _ => .packetCommitment
  | packetCommitments _ _ => .packetCommitments
  | packetReceipt _ _ => .packetReceipt
  | packetAcknowledgement _ _ => .packetAcknowledgement
  | packetAcknowledgements _ _ _ => .packetAcknowledgements
  | unreceivedPackets _ _ => .unreceivedPackets
  | unreceivedAcks _ _ => .unreceivedAcks
  | nextSequenceReceive _ => .nextSequenceReceive

private def transferService : String := "/ibc.applications.transfer.v1.Query/"

private def channelService : String := "/ibc.core.channel.v1.Query/"

def path : Query → String
  | denomTrace _ => transferService ++ "DenomTrace"
  | denomTraces _ => transferService ++ "DenomTraces"
  | transferParams => transferService ++ "Params"
  | channels => channelService ++ "Channels"
  | channel _ => channelService ++ "Channel"
  | connectionChannels _ _ => channelService ++ "ConnectionChannels"
  | channelClientState _ => channelService ++ "ChannelClientState"
  | channelConsensusState _ _ _ => channelService ++ "ChannelConsensusState"
  | packetCommitment _ _ => channelService ++ "PacketCommitment"
  | packetCommitments _ _ => channelService ++ "PacketCommitments"
  | packetReceipt _ _ => channelService ++ "PacketReceipt"
  | packetAcknowledgement _ _ => channelService ++ "PacketAcknowledgement"
  | packetAcknowledgements _ _ _ => channelService ++ "PacketAcknowledgements"
  | unreceivedPackets _ _ => channelService ++ "UnreceivedPackets"
  | unreceivedAcks _ _ => channelService ++ "UnreceivedAcks"
  | nextSequenceReceive _ => channelService ++ "NextSequenceReceive"

private def pageField (field : Nat) (page : Option PageRequest) : Bytes :=
  messageField field (page.map PageRequest.encode)

def request : Query → Bytes
  | denomTrace hash => textField 1 hash
  | denomTraces page => pageField 1 page
  | transferParams | channels => []
  | channel e | channelClientState e | nextSequenceReceive e => e.encode
  | connectionChannels connection page => textField 1 connection ++ pageField 2 page
  | channelConsensusState e revision height =>
    e.encode ++ numberField 3 revision.toNat ++ numberField 4 height.toNat
  | packetCommitment e sequence | packetReceipt e sequence | packetAcknowledgement e sequence =>
    e.encode ++ numberField 3 sequence.toNat
  | packetCommitments e page => e.encode ++ pageField 3 page
  | packetAcknowledgements e page sequences =>
    e.encode ++ pageField 3 page ++ packedField 4 (sequences.map UInt64.toNat)
  | unreceivedPackets e sequences | unreceivedAcks e sequences =>
    e.encode ++ packedField 3 (sequences.map UInt64.toNat)

end Query

end ChainClient.Proto
