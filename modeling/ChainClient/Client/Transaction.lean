import ChainClient.Client.Params
import ChainClient.Client.Session
import ChainClient.Tx.Gas
import ChainClient.Tx.Outcome

/-!
# Transactions

A transaction request names what its author wants in plain texts. It becomes one message in the author's name, the message is checked and wrapped, and the transaction around it is signed with the author's key and broadcast. When the settings leave the gas limit open, the node simulates the unsigned transaction first.
-/

namespace ChainClient

attribute [local instance (high + 1)] instPowNat

/-- Who sends a transaction, and what goes into it besides the messages. -/
structure Author where
  key : KeyInfo
  password : String
  memo : String
  accountNumber : UInt64
  sequence : UInt64
  deriving DecidableEq

/-- A message of any kind. -/
structure Message where
  kind : MessageKind
  body : kind.Body

inductive TxRequest where
  | deposit (coin : String)
  | withdraw (coin : String)
  | addShares (validators : List String)
  | registerProxy
  | unregisterProxy
  | bindProxy (proxy : String)
  | unbindProxy
  | createValidator (publicKey : String) (description : Staking.Description)
  | editValidator (description : Staking.Description)
  | destroyValidator
  | submitTextProposal (title description coins : String)
  | depositToProposal (proposal : UInt64) (coins : String)
  | vote (proposal : UInt64) (option : String)
  | unjail
  | send (receiver coins : String)
  | multiSend (payments : List Transfer.Payment)
  | transfer (channel receiver coin timeoutHeight : String)
  deriving DecidableEq

namespace TxRequest

/-- What a validator delegates to itself when it is created. -/
def minSelfDelegation : String := "10000okt"

/-- The message that a request becomes in the name of a key. -/
def message (author : KeyInfo) : TxRequest → Except ClientError Message
  | deposit coin => do
    let quantity ← Params.checkCoin coin
    return ⟨.stakingDeposit, { delegator := author.address, quantity }⟩
  | withdraw coin => do
    let quantity ← Params.checkCoin coin
    return ⟨.stakingWithdraw, { delegator := author.address, quantity }⟩
  | addShares validators => do
    let validators ← Params.checkValidators validators
    return ⟨.addShares, { delegator := author.address, validators }⟩
  | registerProxy => return ⟨.registerProxy, { proxy := author.address, register := true }⟩
  | unregisterProxy => return ⟨.registerProxy, { proxy := author.address, register := false }⟩
  | bindProxy proxy => do
    let proxy ← Params.checkAccount "proxy_addr" proxy
    return ⟨.bindProxy, { delegator := author.address, proxy }⟩
  | unbindProxy => return ⟨.unbindProxy, { delegator := author.address }⟩
  | createValidator publicKey description => do
    let publicKey ← (ConsensusKey.parse publicKey).mapError .value
    let minSelfDelegation ← Params.checkCoin minSelfDelegation
    return ⟨.createValidator,
      { description, minSelfDelegation, delegator := author.address, validator := author.address.inRole .validator,
        publicKey }⟩
  | editValidator description =>
    return ⟨.editValidator, { description, validator := author.address.inRole .validator }⟩
  | destroyValidator => return ⟨.destroyValidator, { delegator := author.address }⟩
  | submitTextProposal title description coins => do
    let initialDeposit ← Params.checkCoins coins
    let content := Governance.TextProposal.content { title, description }
    return ⟨.submitProposal, { content, initialDeposit, proposer := author.address }⟩
  | depositToProposal proposal coins => do
    Params.checkProposal proposal
    let amount ← Params.checkCoins coins
    return ⟨.proposalDeposit, { proposal, depositor := author.address, amount }⟩
  | vote proposal option => do
    Params.checkProposal proposal
    let option ← (Governance.VoteOption.parse option).mapError .value
    return ⟨.vote, { proposal, voter := author.address, option }⟩
  | unjail => return ⟨.unjail, { validator := author.address.inRole .validator }⟩
  | send receiver coins => do
    let receiver ← Params.checkAccount "to_addr" receiver
    let amount ← Params.checkCoins coins
    return ⟨.send, { sender := author.address, receiver, amount }⟩
  | multiSend payments => return ⟨.multiSend, { sender := author.address, transfers := payments }⟩
  | transfer channel receiver coin timeoutHeight => do
    let channel ← (ChannelId.parse channel).mapError fun e => .value (.identifier e)
    let token ← Params.checkCoin coin
    let timeoutHeight ← (Height.parse timeoutHeight).mapError .value
    return ⟨.channelTransfer,
      { port := PortId.transfer, channel, token, sender := author.address, receiver := Text.trim receiver,
        timeoutHeight, timeoutTimestamp := 0 }⟩

end TxRequest

/-- The path at which the node simulates transactions. -/
def simulationPath : String := "/app/simulate"

/-- The gas limit that a simulation of an unsigned transaction suggests. -/
def estimateGas (codec : Codec) (tx : Tx) : Operation UInt64 := do
  let session ← read
  let bytes ← Operation.ofExcept (codec.encode (.json (.record .tx)) tx)
  let result ← Operation.ask (.query simulationPath bytes)
  match GasInfo.simulationWire.readBytes result.value with
  | .ok info => return adjustGas session.config.gasAdjustment info.used (UInt64.ofNat (2 ^ (64 : Nat) - 1))
  | .error e => throw (.decode "SimulationResponse" result.value.length (.ofReadError e))

/-- Signs messages with a key of the keyring and broadcasts the transaction. What the chain says about it, good or bad, is in the response. -/
def signAndBroadcast (signer password memo : String) (messages : List Envelope) (accountNumber sequence : UInt64) :
    Operation TxResponse := do
  if messages.isEmpty then throw .emptyMessages
  if password.isEmpty then throw .emptyPassword
  let session ← read
  let config := session.config
  let codec ← Operation.codec
  let _ ← Operation.ofExcept (session.keyring.unlock signer password)
  let gas ← if config.gas = 0 then estimateGas codec (Tx.unsigned messages (config.feeFor 0) memo) else pure config.gas
  let fee := config.feeFor gas
  let document : SignDocument := { accountNumber, chainId := config.chainId, fee, memo, messages, sequence }
  let signature ← Operation.ofExcept (session.keyring.sign signer password document.bytes)
  let tx : Tx := { messages, fee, signatures := [signature], memo }
  let bytes ← Operation.ofExcept (codec.encode (.json (.record .tx)) tx)
  let result ← Operation.ask (.broadcast bytes config.mode)
  return TxResponse.ofBroadcast result config.mode

namespace Author

/-- Checks and wraps a message and broadcasts it in one transaction. -/
def broadcast (author : Author) (message : Message) : Operation TxResponse := do
  let codec ← Operation.codec
  Operation.ofExcept ((message.kind.validate message.body).mapError .value)
  let envelope ← Operation.ofExcept (codec.toTxMessage message.kind message.body)
  signAndBroadcast author.key.name author.password author.memo [envelope] author.accountNumber author.sequence

def submit (author : Author) (request : TxRequest) : Operation TxResponse := do
  Operation.ofExcept (Params.checkKey author.key author.password)
  let message ← Operation.ofExcept (request.message author.key)
  author.broadcast message

end Author

end ChainClient
