import ChainClient.Ledger.Account
import ChainClient.Ledger.Governance
import ChainClient.Ledger.Staking
import ChainClient.Message.Basic
import ChainClient.Node.Result
import ChainClient.Proto.ChannelService

/-!
# The types of data

Every type that can be written or read on its own, by name: messages and records in JSON, and the responses of the query services in protobuf. A type decides what its values are and how they are written and read.
-/

namespace ChainClient

inductive RecordType where
  | coin
  | coins
  | fee
  | signature
  | tx
  | txMessage
  | publicKey
  | txResponse
  | accountInfo
  | decimal
  | height
  | portId
  | channelId
  | voteOption
  | proposalStatus
  | broadcastMode
  | accountAddress
  | validatorAddress
  | consensusKey
  | description
  | validator
  | validators
  | delegator
  | stakingParams
  | textProposal
  | proposalContent
  | proposalFilter
  | proposalQuery
  | tallyResult
  | proposal
  | proposals
  | tokenInfo
  | payment
  | contractParams
  | contractCode
  | storageSlot
  | execution
  | block
  | blockResults
  | commit
  | validatorSet
  | txRecord
  | txPage
  | headerAtHeight
  deriving DecidableEq, Repr

namespace RecordType

abbrev Value : RecordType → Type
  | coin => Coin
  | coins => List Coin
  | fee => Fee
  | signature => Signature
  | tx => Tx
  | txMessage => Envelope
  | publicKey => PublicKey
  | txResponse => TxResponse
  | accountInfo => AccountInfo
  | decimal => Decimal
  | height => Height
  | portId => PortId
  | channelId => ChannelId
  | voteOption => Governance.VoteOption
  | proposalStatus => Governance.ProposalStatus
  | broadcastMode => BroadcastMode
  | accountAddress => AccountAddress
  | validatorAddress => ValidatorAddress
  | consensusKey => ConsensusKey
  | description => Staking.Description
  | validator => Staking.Validator
  | validators => List Staking.Validator
  | delegator => Staking.Delegator
  | stakingParams => Staking.Params
  | textProposal => Governance.TextProposal
  | proposalContent => Envelope
  | proposalFilter => Governance.ProposalFilter
  | proposalQuery => Governance.ProposalQuery
  | tallyResult => Governance.TallyResult
  | proposal => Governance.Proposal
  | proposals => List Governance.Proposal
  | tokenInfo => TokenInfo
  | payment => Transfer.Payment
  | contractParams => ContractParams
  | contractCode => ContractCode
  | storageSlot => StorageSlot
  | execution => Node.Execution
  | block => Node.Block
  | blockResults => Node.BlockResults
  | commit => Node.Commit
  | validatorSet => Node.ValidatorSet
  | txRecord => Node.TxRecord
  | txPage => Node.TxPage
  | headerAtHeight => Node.HeaderAtHeight

def wire : (type : RecordType) → Wire type.Value
  | coin => Coin.wire
  | coins => Wire.list Coin.wire
  | fee => Fee.wire
  | signature => Signature.wire
  | tx => Tx.wire
  | txMessage => Envelope.wire
  | publicKey => PublicKey.wire
  | txResponse => TxResponse.wire
  | accountInfo => AccountInfo.wire
  | decimal => Decimal.wire
  | height => Height.wire
  | portId => PortId.wire
  | channelId => ChannelId.wire
  | voteOption => Governance.VoteOption.wire
  | proposalStatus => Governance.ProposalStatus.wire
  | broadcastMode => BroadcastMode.wire
  | accountAddress => Address.wire
  | validatorAddress => Address.wire
  | consensusKey => ConsensusKey.wire
  | description => Staking.Description.wire
  | validator => Staking.Validator.wire
  | validators => Wire.list Staking.Validator.wire
  | delegator => Staking.Delegator.wire
  | stakingParams => Staking.Params.wire
  | textProposal => Governance.TextProposal.wire
  | proposalContent => Envelope.wire
  | proposalFilter => Governance.ProposalFilter.wire
  | proposalQuery => Governance.ProposalQuery.wire
  | tallyResult => Governance.TallyResult.wire
  | proposal => Governance.Proposal.wire
  | proposals => Wire.list Governance.Proposal.wire
  | tokenInfo => TokenInfo.wire
  | payment => Transfer.Payment.wire
  | contractParams => ContractParams.wire
  | contractCode => ContractCode.wire
  | storageSlot => StorageSlot.wire
  | execution => Node.Execution.wire
  | block => Node.Block.wire
  | blockResults => Node.BlockResults.wire
  | commit => Node.Commit.wire
  | validatorSet => Node.ValidatorSet.wire
  | txRecord => Node.TxRecord.wire
  | txPage => Node.TxPage.wire
  | headerAtHeight => Node.HeaderAtHeight.wire

/-- The name that messages about a type use. -/
def label : RecordType → String
  | coin => "DecCoin"
  | coins => "DecCoins"
  | fee => "StdFee"
  | signature => "StdSignature"
  | tx => "StdTx"
  | txMessage => "StdMsg"
  | publicKey => "PubKey"
  | txResponse => "TxResponse"
  | accountInfo => "AccountInfo"
  | decimal => "Dec"
  | height => "Height"
  | portId => "PortId"
  | channelId => "ChannelId"
  | voteOption => "VoteOption"
  | proposalStatus => "ProposalStatus"
  | broadcastMode => "BroadcastMode"
  | accountAddress => "AccAddress"
  | validatorAddress => "ValAddress"
  | consensusKey => "ConsPubKey"
  | description => "Description"
  | validator => "Validator"
  | validators => "Validators"
  | delegator => "DelegatorResp"
  | stakingParams => "StakingParams"
  | textProposal => "TextProposal"
  | proposalContent => "ProposalContent"
  | proposalFilter => "QueryProposalsParams"
  | proposalQuery => "QueryProposalParams"
  | tallyResult => "TallyResult"
  | proposal => "Proposal"
  | proposals => "Proposals"
  | tokenInfo => "TokenInfo"
  | payment => "TransferUnit"
  | contractParams => "EvmParams"
  | contractCode => "QueryResCode"
  | storageSlot => "QueryResStorage"
  | execution => "TxExecResult"
  | block => "BlockResult"
  | blockResults => "BlockResults"
  | commit => "CommitResult"
  | validatorSet => "ValidatorsResult"
  | txRecord => "TxResult"
  | txPage => "TxSearchResult"
  | headerAtHeight => "HeaderAtHeight"

def all : List RecordType :=
  [coin, coins, fee, signature, tx, txMessage, publicKey, txResponse, accountInfo, decimal, height, portId, channelId,
    voteOption, proposalStatus, broadcastMode, accountAddress, validatorAddress, consensusKey, description, validator,
    validators, delegator, stakingParams, textProposal, proposalContent, proposalFilter, proposalQuery, tallyResult,
    proposal, proposals, tokenInfo, payment, contractParams, contractCode, storageSlot, execution, block, blockResults,
    commit, validatorSet, txRecord, txPage, headerAtHeight]

end RecordType

namespace MessageKind

/-- The name that messages about a type use. -/
def label : MessageKind → String
  | stakingDeposit => "staking.MsgDeposit"
  | stakingWithdraw => "staking.MsgWithdraw"
  | addShares => "staking.MsgAddShares"
  | registerProxy => "staking.MsgRegProxy"
  | bindProxy => "staking.MsgBindProxy"
  | unbindProxy => "staking.MsgUnbindProxy"
  | createValidator => "staking.MsgCreateValidator"
  | editValidator => "staking.MsgEditValidator"
  | destroyValidator => "staking.MsgDestroyValidator"
  | submitProposal => "gov.MsgSubmitProposal"
  | proposalDeposit => "gov.MsgDeposit"
  | vote => "gov.MsgVote"
  | unjail => "slashing.MsgUnjail"
  | send => "token.MsgSend"
  | multiSend => "token.MsgMultiSend"
  | channelTransfer => "ibc.MsgTransfer"

def all : List MessageKind :=
  [stakingDeposit, stakingWithdraw, addShares, registerProxy, bindProxy, unbindProxy, createValidator, editValidator,
    destroyValidator, submitProposal, proposalDeposit, vote, unjail, send, multiSend, channelTransfer]

end MessageKind

/-- The types whose values are written in JSON. -/
inductive JsonType where
  | record (type : RecordType)
  | message (kind : MessageKind)
  deriving DecidableEq, Repr

namespace JsonType

abbrev Value : JsonType → Type
  | record type => type.Value
  | message kind => kind.Body

def wire : (type : JsonType) → Wire type.Value
  | record type => type.wire
  | message kind => kind.wire

def label : JsonType → String
  | record type => type.label
  | message kind => kind.label

def ofLabel? (label : String) : Option JsonType :=
  (RecordType.all.map record ++ MessageKind.all.map message).find? fun type => type.label == label

end JsonType

inductive DataType where
  | json (type : JsonType)
  | response (type : Proto.Response)
  deriving DecidableEq, Repr

namespace DataType

abbrev Value : DataType → Type
  | json type => type.Value
  | response _ => Proto.Message

def label : DataType → String
  | json type => type.label
  | response type => type.label

def ofLabel? (label : String) : Option DataType :=
  match JsonType.ofLabel? label with
  | some type => some (json type)
  | none => (Proto.Response.all.find? fun type => type.label == label).map response

end DataType

end ChainClient
