import ChainClient.Codec.Registry

/-!
# Modules and their types

The operations of a client belong to modules. A client is assembled from a list of modules: each brings the types it exchanges with the node, the types that all share come last, and the codec is then sealed for the base that the modules sit on.
-/

namespace ChainClient

inductive Module where
  | auth
  | staking
  | governance
  | slashing
  | token
  | tendermint
  | ibc
  | evm
  deriving DecidableEq, Repr

namespace Module

def name : Module → String
  | auth => "auth"
  | staking => "staking"
  | governance => "governance"
  | slashing => "slashing"
  | token => "token"
  | tendermint => "tendermint"
  | ibc => "ibc"
  | evm => "evm"

def all : List Module := [auth, staking, governance, slashing, token, tendermint, ibc, evm]

def ofName? (name : String) : Option Module := all.find? fun m => m.name == name

private def transferPackage : String := "ibc.applications.transfer.v1."

private def channelPackage : String := "ibc.core.channel.v1."

/-- The full name of a response. -/
private def response (r : Proto.Response) : Registration :=
  match r with
  | .denomTrace | .denomTraces | .transferParams => .proto (transferPackage ++ r.label) r
  | _ => .proto (channelPackage ++ r.label) r

def registrations : Module → List Registration
  | auth => [.concrete "okexchain/EthAccount" (.record .accountInfo)]
  | staking =>
    [.message .stakingDeposit, .message .stakingWithdraw, .message .addShares, .message .registerProxy,
      .message .bindProxy, .message .unbindProxy, .message .createValidator, .message .editValidator,
      .message .destroyValidator,
      .plain "okexchain/staking/Validator" (.record .validator),
      .plain "okexchain/staking/Validators" (.record .validators),
      .plain "okexchain/staking/DelegatorResp" (.record .delegator),
      .plain "okexchain/staking/Params" (.record .stakingParams)]
  | governance =>
    [.message .submitProposal, .message .proposalDeposit, .message .vote,
      .concrete Governance.TextProposal.typeName (.record .textProposal),
      .plain "okexchain/gov/QueryProposalsParams" (.record .proposalFilter),
      .plain "okexchain/gov/QueryProposalParams" (.record .proposalQuery),
      .plain "okexchain/gov/Proposal" (.record .proposal),
      .plain "okexchain/gov/Proposals" (.record .proposals)]
  | slashing => [.message .unjail]
  | token => [.message .send, .message .multiSend, .plain "okexchain/token/TokenInfo" (.record .tokenInfo)]
  | tendermint => []
  | ibc => .message .channelTransfer :: Proto.Response.all.map response
  | evm =>
    [.plain "okexchain/evm/Params" (.record .contractParams),
      .plain "okexchain/evm/QueryResCode" (.record .contractCode),
      .plain "okexchain/evm/QueryResStorage" (.record .storageSlot)]

end Module

/-- Why a client is not assembled, or lacks what is asked of it. -/
inductive FacadeError where
  | duplicateModule (module : Module)
  | registration (cause : RegistrationError)
  | sealedTwice
  | missingModule (module : Module)
  deriving DecidableEq, Repr

def FacadeError.message : FacadeError → String
  | duplicateModule m => "duplicated module: " ++ m.name
  | registration cause => cause.message
  | sealedTwice => "codec sealed twice"
  | missingModule m => "module " ++ m.name ++ " is not registered"

/-- The modules of a client and the codec of their types. -/
structure Facade where
  modules : List Module
  codec : Codec
  deriving DecidableEq

namespace Facade

/-- Registers the types of modules, none of which may occur twice. -/
def collect (seen : List Module) (codec : Codec) : List Module → Except FacadeError Codec
  | [] => .ok codec
  | m :: rest =>
    if m ∈ seen then .error (.duplicateModule m)
    else match codec.registerAll m.registrations with
      | (codec, none) => collect (m :: seen) codec rest
      | (_, some e) => .error (.registration e)

/-- Assembles a client over a base, which may hold a codec already. -/
def assemble (sealed : Option Codec) (modules : List Module) : Except FacadeError Facade := do
  let codec ← collect [] Codec.empty modules
  match codec.registerAll Codec.basicRegistrations with
  | (_, some e) => throw (.registration e)
  | (codec, none) => if sealed.isSome then throw .sealedTwice else return { modules, codec }

def hasModule (facade : Facade) (m : Module) : Bool := facade.modules.contains m

def require (facade : Facade) (m : Module) : Except FacadeError Unit :=
  if facade.hasModule m then .ok () else .error (.missingModule m)

end Facade

end ChainClient
