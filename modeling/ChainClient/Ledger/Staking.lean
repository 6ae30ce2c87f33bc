import ChainClient.Message.Staking

/-!
# Validators and delegators

What the chain keeps about those who run validators and those who delegate to them, and the settings of staking.
-/

namespace ChainClient.Staking

open Wire

structure Validator where
  operator : ValidatorAddress
  /-- The text of the consensus key as the node gives it. -/
  consensusKey : String
  jailed : Bool
  status : UInt8
  tokens : String
  delegatorShares : Decimal
  description : Description
  unbondingHeight : Int64
  unbondingTime : String
  minSelfDelegation : Option Decimal
  deriving DecidableEq

def Validator.wire : Wire Validator :=
  record
    (field "operator_address" Address.wire <| field "consensus_pubkey" string <| optionalField "jailed" bool false <|
      optionalField "status" uint8 0 <| optionalField "tokens" string "" <|
      field "delegator_shares" Decimal.wire <| field "description" Description.wire <|
      optionalField "unbonding_height" quotedInt64 0 <| optionalField "unbonding_time" string "" <|
      optionalField "min_self_delegation" (option Decimal.wire) none .nil)
    (fun v => (v.operator, v.consensusKey, v.jailed, v.status, v.tokens, v.delegatorShares, v.description,
      v.unbondingHeight, v.unbondingTime, v.minSelfDelegation, ()))
    (fun (operator, consensusKey, jailed, status, tokens, delegatorShares, description, unbondingHeight,
        unbondingTime, minSelfDelegation, ()) =>
      { operator, consensusKey, jailed, status, tokens, delegatorShares, description, unbondingHeight, unbondingTime,
        minSelfDelegation })

structure Delegator where
  delegator : AccountAddress
  validators : Option (List ValidatorAddress)
  shares : Decimal
  tokens : Decimal
  unbondedTokens : Option Decimal
  completionTime : String
  isProxy : Bool
  totalDelegatedTokens : Option Decimal
  proxy : Option AccountAddress
  deriving DecidableEq

def Delegator.wire : Wire Delegator :=
  record
    (field "delegator_address" Address.wire <|
      optionalField "validator_address" (option (list Address.wire)) none <|
      field "shares" Decimal.wire <| field "tokens" Decimal.wire <|
      optionalField "unbonded_tokens" (option Decimal.wire) none <| optionalField "completion_time" string "" <|
      optionalField "is_proxy" bool false <| optionalField "total_delegated_tokens" (option Decimal.wire) none <|
      optionalField "proxy_address" (option Address.wire) none .nil)
    (fun d => (d.delegator, d.validators, d.shares, d.tokens, d.unbondedTokens, d.completionTime, d.isProxy,
      d.totalDelegatedTokens, d.proxy, ()))
    (fun (delegator, validators, shares, tokens, unbondedTokens, completionTime, isProxy, totalDelegatedTokens, proxy,
        ()) =>
      { delegator, validators, shares, tokens, unbondedTokens, completionTime, isProxy, totalDelegatedTokens, proxy })

structure Params where
  /-- In nanoseconds. -/
  unbondingTime : Int64
  maxBondedValidators : UInt16
  epoch : UInt16
  maxValidatorsToAddShares : UInt16
  minDelegation : Decimal
  minSelfDelegation : Decimal
  deriving DecidableEq

def Params.wire : Wire Params :=
  record
    (field "unbonding_time" quotedInt64 <| field "max_bonded_validators" uint16 <| optionalField "epoch" uint16 0 <|
      optionalField "max_validators_to_add_shares" uint16 0 <| field "min_delegation" Decimal.wire <|
      field "min_self_delegation" Decimal.wire .nil)
    (fun p => (p.unbondingTime, p.maxBondedValidators, p.epoch, p.maxValidatorsToAddShares, p.minDelegation,
      p.minSelfDelegation, ()))
    (fun (unbondingTime, maxBondedValidators, epoch, maxValidatorsToAddShares, minDelegation, minSelfDelegation, ()) =>
      { unbondingTime, maxBondedValidators, epoch, maxValidatorsToAddShares, minDelegation, minSelfDelegation })

end ChainClient.Staking
