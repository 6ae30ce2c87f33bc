import ChainClient.Tx.Basic

/-!
# Accounts, tokens and contracts

What the chain keeps about an account, a token and the contracts of its virtual machine, in the form in which a node returns it.
-/

namespace ChainClient

open Wire

structure AccountInfo where
  address : AccountAddress
  ethAddress : String
  coins : List Coin
  publicKey : Option PublicKey
  accountNumber : UInt64
  sequence : UInt64
  codeHash : String
  deriving DecidableEq

def AccountInfo.wire : Wire AccountInfo :=
  record
    (field "address" Address.wire <| optionalField "eth_address" string "" <|
      optionalField "coins" (list Coin.wire) [] <| optionalField "public_key" (option PublicKey.wire) none <|
      field "account_number" quotedUInt64 <| field "sequence" quotedUInt64 <|
      optionalField "code_hash" string "" .nil)
    (fun a => (a.address, a.ethAddress, a.coins, a.publicKey, a.accountNumber, a.sequence, a.codeHash, ()))
    (fun (address, ethAddress, coins, publicKey, accountNumber, sequence, codeHash, ()) =>
      { address, ethAddress, coins, publicKey, accountNumber, sequence, codeHash })

structure TokenInfo where
  description : String
  symbol : String
  originalSymbol : String
  wholeName : String
  originalTotalSupply : Decimal
  totalSupply : Option Decimal
  owner : AccountAddress
  mintable : Bool
  deriving DecidableEq

def TokenInfo.wire : Wire TokenInfo :=
  record
    (optionalField "description" string "" <| field "symbol" string <| optionalField "original_symbol" string "" <|
      optionalField "whole_name" string "" <| field "original_total_supply" Decimal.wire <|
      optionalField "total_supply" (option Decimal.wire) none <| field "owner" Address.wire <|
      field "mintable" bool .nil)
    (fun t => (t.description, t.symbol, t.originalSymbol, t.wholeName, t.originalTotalSupply, t.totalSupply, t.owner,
      t.mintable, ()))
    (fun (description, symbol, originalSymbol, wholeName, originalTotalSupply, totalSupply, owner, mintable, ()) =>
      { description, symbol, originalSymbol, wholeName, originalTotalSupply, totalSupply, owner, mintable })

structure ContractParams where
  enableCreate : Bool
  enableCall : Bool
  extraProposals : Option (List Int64)
  enableDeploymentWhitelist : Bool
  enableBlockedList : Bool
  maxGasPerTx : UInt64
  deriving DecidableEq

def ContractParams.wire : Wire ContractParams :=
  record
    (field "enable_create" bool <| field "enable_call" bool <|
      optionalField "extra_eips" (option (list int64)) none <|
      optionalField "enable_contract_deployment_whitelist" bool false <|
      optionalField "enable_contract_blocked_list" bool false <|
      optionalField "max_gas_limit_per_tx" quotedUInt64 0 .nil)
    (fun p => (p.enableCreate, p.enableCall, p.extraProposals, p.enableDeploymentWhitelist, p.enableBlockedList,
      p.maxGasPerTx, ()))
    (fun (enableCreate, enableCall, extraProposals, enableDeploymentWhitelist, enableBlockedList, maxGasPerTx, ()) =>
      { enableCreate, enableCall, extraProposals, enableDeploymentWhitelist, enableBlockedList, maxGasPerTx })

/-- Bytes in base64, or nothing for no bytes. -/
def base64Bytes (text : Option String) : Except EncodeError Bytes :=
  match text with
  | some text => Base64.decode (Bytes.ofText text)
  | none => .ok []

structure ContractCode where
  code : Option String
  deriving DecidableEq, Repr

def ContractCode.wire : Wire ContractCode :=
  record (optionalField "code" (option string) none .nil) (fun c => (c.code, ())) (fun (code, ()) => { code })

def ContractCode.bytes (c : ContractCode) : Except EncodeError Bytes := base64Bytes c.code

/-- The value in a storage slot of a contract. -/
structure StorageSlot where
  value : Option String
  deriving DecidableEq, Repr

def StorageSlot.wire : Wire StorageSlot :=
  record (optionalField "value" (option string) none .nil) (fun s => (s.value, ())) (fun (value, ()) => { value })

def StorageSlot.bytes (s : StorageSlot) : Except EncodeError Bytes := base64Bytes s.value

end ChainClient
