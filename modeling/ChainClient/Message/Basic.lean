import ChainClient.Message.Governance
import ChainClient.Message.Staking
import ChainClient.Message.Transfer

/-!
# Messages

The messages that the chain accepts, by kind. The kind decides what the body of a message is, the name under which it travels, and how it is written, read and checked.
-/

namespace ChainClient

inductive MessageKind where
  | stakingDeposit
  | stakingWithdraw
  | addShares
  | registerProxy
  | bindProxy
  | unbindProxy
  | createValidator
  | editValidator
  | destroyValidator
  | submitProposal
  | proposalDeposit
  | vote
  | unjail
  | send
  | multiSend
  | channelTransfer
  deriving DecidableEq, Repr

namespace MessageKind

/-- What a message of this kind says. -/
abbrev Body : MessageKind → Type
  | stakingDeposit => Staking.Deposit
  | stakingWithdraw => Staking.Withdraw
  | addShares => Staking.AddShares
  | registerProxy => Staking.RegisterProxy
  | bindProxy => Staking.BindProxy
  | unbindProxy => Staking.UnbindProxy
  | createValidator => Staking.CreateValidator
  | editValidator => Staking.EditValidator
  | destroyValidator => Staking.DestroyValidator
  | submitProposal => Governance.SubmitProposal
  | proposalDeposit => Governance.Deposit
  | vote => Governance.Vote
  | unjail => Staking.Unjail
  | send => Transfer.Send
  | multiSend => Transfer.MultiSend
  | channelTransfer => Transfer.ToChannel

/-- The name under which messages of this kind travel. -/
def typeName : MessageKind → String
  | stakingDeposit => "okexchain/staking/MsgDeposit"
  | stakingWithdraw => "okexchain/staking/MsgWithdraw"
  | addShares => "okexchain/staking/MsgAddShares"
  | registerProxy => "okexchain/staking/MsgRegProxy"
  | bindProxy => "okexchain/staking/MsgBindProxy"
  | unbindProxy => "okexchain/staking/MsgUnbindProxy"
  | createValidator => "okexchain/staking/MsgCreateValidator"
  | editValidator => "okexchain/staking/MsgEditValidator"
  | destroyValidator => "okexchain/staking/MsgDestroyValidator"
  | submitProposal => "okexchain/gov/MsgSubmitProposal"
  | proposalDeposit => "okexchain/gov/MsgDeposit"
  | vote => "okexchain/gov/MsgVote"
  | unjail => "cosmos-sdk/MsgUnjail"
  | send => "okexchain/token/MsgTransfer"
  | multiSend => "okexchain/token/MsgMultiTransfer"
  | channelTransfer => "cosmos-sdk/MsgTransfer"

/-- The part of the chain that handles messages of this kind. -/
def route : MessageKind → String
  | submitProposal | proposalDeposit | vote => "gov"
  | unjail => "slashing"
  | send | multiSend => "token"
  | channelTransfer => "transfer"
  | _ => "staking"

/-- What a message of this kind does, in the words of its route. -/
def action : MessageKind → String
  | stakingDeposit => "deposit"
  | stakingWithdraw => "withdraw"
  | addShares => "add_shares_to_validators"
  | registerProxy => "reg_or_unreg_proxy"
  | bindProxy => "bind_proxy"
  | unbindProxy => "unbind_proxy"
  | createValidator => "create_validator"
  | editValidator => "edit_validator"
  | destroyValidator => "destroy_validator"
  | submitProposal => "submit_proposal"
  | proposalDeposit => "deposit"
  | vote => "vote"
  | unjail => "unjail"
  | send => "send"
  | multiSend => "multi-send"
  | channelTransfer => "transfer"

def wire : (kind : MessageKind) → Wire kind.Body
  | stakingDeposit => Staking.Deposit.wire
  | stakingWithdraw => Staking.Withdraw.wire
  | addShares => Staking.AddShares.wire
  | registerProxy => Staking.RegisterProxy.wire
  | bindProxy => Staking.BindProxy.wire
  | unbindProxy => Staking.UnbindProxy.wire
  | createValidator => Staking.CreateValidator.wire
  | editValidator => Staking.EditValidator.wire
  | destroyValidator => Staking.DestroyValidator.wire
  | submitProposal => Governance.SubmitProposal.wire
  | proposalDeposit => Governance.Deposit.wire
  | vote => Governance.Vote.wire
  | unjail => Staking.Unjail.wire
  | send => Transfer.Send.wire
  | multiSend => Transfer.MultiSend.wire
  | channelTransfer => Transfer.ToChannel.wire

/-- What makes a message of this kind unacceptable, if anything does. -/
def check : (kind : MessageKind) → kind.Body → Except MessageFlaw Unit
  | stakingDeposit, m => Staking.Deposit.validate m
  | stakingWithdraw, m => Staking.Withdraw.validate m
  | addShares, m => Staking.AddShares.validate m
  | bindProxy, m => Staking.BindProxy.validate m
  | createValidator, m => Staking.CreateValidator.validate m
  | submitProposal, m => Governance.SubmitProposal.validate m
  | proposalDeposit, m => Governance.Deposit.validate m
  | vote, m => Governance.Vote.validate m
  | send, m => Transfer.Send.validate m
  | multiSend, m => Transfer.MultiSend.validate m
  | channelTransfer, m => Transfer.ToChannel.validate m
  | registerProxy, _ | unbindProxy, _ | editValidator, _ | destroyValidator, _ | unjail, _ => .ok ()

/-- Checks the body of a message before it is sent. -/
def validate (kind : MessageKind) (body : kind.Body) : Except ValueError Unit :=
  (kind.check body).mapError (.invalidMessage kind.typeName)

/-- The body in an envelope with the name of its kind. -/
def envelope (kind : MessageKind) (body : kind.Body) : Envelope := ⟨kind.typeName, kind.wire.json body⟩

end MessageKind

end ChainClient
