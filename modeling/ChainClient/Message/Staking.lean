import ChainClient.Json.Scalars

/-!
# Staking messages

Delegating and withdrawing coins, giving shares to validators, acting as or through a proxy, running a validator, and releasing one from jail. Each message has its fields, its wire format and the flaw that makes it unacceptable, if it has one.
-/

namespace ChainClient.Staking

open Wire

/-- How a validator presents itself. -/
structure Description where
  moniker : String
  identity : String
  website : String
  details : String
  deriving DecidableEq, Repr

def Description.wire : Wire Description :=
  record (field "moniker" string <| field "identity" string <| field "website" string <| field "details" string .nil)
    (fun d => (d.moniker, d.identity, d.website, d.details, ()))
    (fun (moniker, identity, website, details, ()) => { moniker, identity, website, details })

/-- Only a positive amount can be moved. -/
def checkQuantity (coin : Coin) : Except MessageFlaw Unit :=
  if coin.isPositive then .ok () else .error (.quantityNotPositive coin.text)

structure Deposit where
  delegator : AccountAddress
  quantity : Coin
  deriving DecidableEq

def Deposit.wire : Wire Deposit :=
  record (field "delegator_address" Address.wire <| field "quantity" Coin.wire .nil)
    (fun m => (m.delegator, m.quantity, ()))
    (fun (delegator, quantity, ()) => { delegator, quantity })

def Deposit.validate (m : Deposit) : Except MessageFlaw Unit := checkQuantity m.quantity

structure Withdraw where
  delegator : AccountAddress
  quantity : Coin
  deriving DecidableEq

def Withdraw.wire : Wire Withdraw :=
  record (field "delegator_address" Address.wire <| field "quantity" Coin.wire .nil)
    (fun m => (m.delegator, m.quantity, ()))
    (fun (delegator, quantity, ()) => { delegator, quantity })

def Withdraw.validate (m : Withdraw) : Except MessageFlaw Unit := checkQuantity m.quantity

structure AddShares where
  delegator : AccountAddress
  validators : List ValidatorAddress
  deriving DecidableEq

def AddShares.wire : Wire AddShares :=
  record (field "delegator_address" Address.wire <| field "validator_addresses" (list Address.wire) .nil)
    (fun m => (m.delegator, m.validators, ()))
    (fun (delegator, validators, ()) => { delegator, validators })

/-- The first element that occurs among those before it. -/
def firstRepeated? {α : Type} [DecidableEq α] (seen : List α) : List α → Option α
  | [] => none
  | x :: xs => if x ∈ seen then some x else firstRepeated? (x :: seen) xs

def AddShares.validate (m : AddShares) : Except MessageFlaw Unit :=
  if m.validators.isEmpty then .error .emptyValidators
  else match firstRepeated? [] m.validators with
    | some address => .error (.duplicateValidator address.text)
    | none => .ok ()

structure RegisterProxy where
  proxy : AccountAddress
  register : Bool
  deriving DecidableEq

def RegisterProxy.wire : Wire RegisterProxy :=
  record (field "proxy_address" Address.wire <| field "reg" bool .nil)
    (fun m => (m.proxy, m.register, ()))
    (fun (proxy, register, ()) => { proxy, register })

structure BindProxy where
  delegator : AccountAddress
  proxy : AccountAddress
  deriving DecidableEq

def BindProxy.wire : Wire BindProxy :=
  record (field "delegator_address" Address.wire <| field "proxy_address" Address.wire .nil)
    (fun m => (m.delegator, m.proxy, ()))
    (fun (delegator, proxy, ()) => { delegator, proxy })

def BindProxy.validate (m : BindProxy) : Except MessageFlaw Unit :=
  if m.delegator = m.proxy then .error .ownProxy else .ok ()

structure UnbindProxy where
  delegator : AccountAddress
  deriving DecidableEq

def UnbindProxy.wire : Wire UnbindProxy :=
  record (field "delegator_address" Address.wire .nil) (fun m => (m.delegator, ())) (fun (delegator, ()) => { delegator })

structure CreateValidator where
  description : Description
  minSelfDelegation : Coin
  delegator : AccountAddress
  validator : ValidatorAddress
  publicKey : ConsensusKey
  deriving DecidableEq

def CreateValidator.wire : Wire CreateValidator :=
  record
    (field "description" Description.wire <| field "min_self_delegation" Coin.wire <|
      field "delegator_address" Address.wire <| field "validator_address" Address.wire <|
      field "pubkey" ConsensusKey.wire .nil)
    (fun m => (m.description, m.minSelfDelegation, m.delegator, m.validator, m.publicKey, ()))
    (fun (description, minSelfDelegation, delegator, validator, publicKey, ()) =>
      { description, minSelfDelegation, delegator, validator, publicKey })

def CreateValidator.validate (m : CreateValidator) : Except MessageFlaw Unit :=
  if Text.blank m.description.moniker then .error .emptyMoniker
  else if m.validator.bytes ≠ m.delegator.bytes then .error .foreignValidator
  else checkQuantity m.minSelfDelegation

structure EditValidator where
  description : Description
  validator : ValidatorAddress
  deriving DecidableEq

def EditValidator.wire : Wire EditValidator :=
  record (field "description" Description.wire <| field "address" Address.wire .nil)
    (fun m => (m.description, m.validator, ()))
    (fun (description, validator, ()) => { description, validator })

structure DestroyValidator where
  delegator : AccountAddress
  deriving DecidableEq

def DestroyValidator.wire : Wire DestroyValidator :=
  record (field "delegator_address" Address.wire .nil) (fun m => (m.delegator, ())) (fun (delegator, ()) => { delegator })

structure Unjail where
  validator : ValidatorAddress
  deriving DecidableEq

def Unjail.wire : Wire Unjail :=
  record (field "address" Address.wire .nil) (fun m => (m.validator, ())) (fun (validator, ()) => { validator })

end ChainClient.Staking
