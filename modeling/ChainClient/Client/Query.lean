import ChainClient.Client.Params
import ChainClient.Client.Session

/-!
# Queries

What can be looked up through a node, and what each query returns. The ledger is asked at the paths of the application and its answers are read with the codec; blocks and transactions are asked of the node itself.
-/

namespace ChainClient

inductive Query where
  | account (address : String)
  | validators
  | validator (address : String)
  | delegator (address : String)
  | stakingParams
  | proposals (depositor voter status : String) (limit : UInt64)
  | proposal (id : UInt64)
  | token (symbol : String)
  | contractParams
  | contractCode (contract : String)
  | contractStorage (contract slot : String)
  /-- A question to the services of channels and transfers. -/
  | service (query : Proto.Query)
  /-- A question to the application at any path. -/
  | application (path : String) (data : Bytes)
  | block (height : Option Int64)
  | blockResults (height : Option Int64)
  | commit (height : Option Int64)
  | validatorSet (height : Option Int64) (page perPage : UInt32)
  | tx (hash : String) (prove : Bool)
  | txSearch (query : String) (prove : Bool) (page perPage : UInt32) (order : String)
  /-- Transactions with all the events of a filter. -/
  | txsByEvents (events : String) (page limit : UInt32)
  /-- Transactions that meet all of some conditions. -/
  | txsByConditions (conditions : List String) (page limit : UInt32)
  | header (height : Int64)
  deriving DecidableEq

namespace Query

abbrev Result : Query → Type
  | account _ => AccountInfo
  | validators => List Staking.Validator
  | validator _ => Staking.Validator
  | delegator _ => Staking.Delegator
  | stakingParams => Staking.Params
  | proposals _ _ _ _ => List Governance.Proposal
  | proposal _ => Governance.Proposal
  | token _ => TokenInfo
  | contractParams => ContractParams
  | contractCode _ => Bytes
  | contractStorage _ _ => Bytes
  | service _ => Proto.Message
  | application _ _ => Node.QueryResult
  | block _ => Node.Block
  | blockResults _ => Node.BlockResults
  | commit _ => Node.Commit
  | validatorSet _ _ _ => Node.ValidatorSet
  | tx _ _ => Node.TxRecord
  | txSearch _ _ _ _ _ => Node.TxPage
  | txsByEvents _ _ _ => Node.TxPage
  | txsByConditions _ _ _ => List Node.TxRecord
  | header _ => Node.HeaderAtHeight

/-- Asks the application and reads the answer with the codec. -/
def decoded (path : String) (data : Bytes) (type : DataType) : Operation type.Value := do
  let result ← Operation.ask (.query path data)
  let codec ← Operation.codec
  Operation.ofExcept (codec.decode type result.value)

/-- Asks the application only if there is a codec to read the answer with. -/
def invoked (path : String) (data : Bytes) (type : DataType) : Operation type.Value := do
  let codec ← Operation.codec
  let result ← Operation.ask (.query path data)
  Operation.ofExcept (codec.decode type result.value)

/-- Asks the application with a question that the codec writes. -/
def asked (path : String) (question : JsonType) (value : question.Value) (type : DataType) :
    Operation type.Value := do
  let codec ← Operation.codec
  let data ← Operation.ofExcept (codec.marshalJson (.json question) value)
  let result ← Operation.ask (.query path data)
  Operation.ofExcept (codec.unmarshalJson type result.value)

/-- The question about one address. -/
def addressQuestion {role : Role} (key : String) (address : Address role) : Bytes :=
  (Json.obj [(key, .str address.text)]).bytes

/-- An address that is only looked at if it is given. -/
def optionalAccount (name text : String) : Except ClientError (Option AccountAddress) :=
  if text.isEmpty then .ok none else (Params.checkAccount name text).map some

def proposalFilter (depositor voter status : String) (limit : UInt64) :
    Except ClientError Governance.ProposalFilter := do
  let depositor ← optionalAccount "depositor" depositor
  let voter ← optionalAccount "voter" voter
  let status ← if status.isEmpty then pure Governance.ProposalStatus.none
    else (Governance.ProposalStatus.parseFilter status).mapError .value
  return { voter, depositor, status, limit }

/-- The path of a question about a contract. -/
def contractPath (part : String) (contract : Bytes) : String :=
  "custom/evm/" ++ part ++ "/0x" ++ Hex.encode contract

def optionalHeight (height : Option Int64) : Except ClientError (Option UInt32) :=
  match height with
  | none => .ok none
  | some height => (Params.checkHeight height).map some

def askValidators (height : Option Int64) (page perPage : UInt32) : Operation Node.ValidatorSet := do
  let height ← Operation.ofExcept (optionalHeight height)
  Operation.ofExcept (Params.checkPositive "page" page)
  Operation.ofExcept (Params.checkPositive "per_page" perPage)
  Operation.ask (.validators height page perPage)

/-- Pages have at most 255 transactions. -/
def search (query : String) (prove : Bool) (page perPage : UInt32) (order : String) :
    Operation Node.TxPage := do
  if Text.blank query then throw (.invalidParam "query" .emptyQuery)
  Operation.ofExcept (Params.checkPositive "page" page)
  Operation.ofExcept (Params.checkPositive "per_page" perPage)
  match Params.searchOrder? order with
  | none => throw (.invalidParam "order_by" (.unknownOrder order))
  | some order => Operation.ask (.txSearch query prove page (UInt8.ofNat (min perPage.toNat 255)) order)

/-- So many validators that a header always has all of them. -/
def allValidators : UInt32 := 100000

def perform : (query : Query) → Operation query.Result
  | account address => do
    let address ← Operation.ofExcept (Params.checkAccount "address" address)
    decoded "custom/acc/account" (addressQuestion "account" address) (.json (.record .accountInfo))
  | validators => decoded "custom/staking/validators" [] (.json (.record .validators))
  | validator address => do
    let address ← Operation.ofExcept (Params.checkValidator address)
    decoded "custom/staking/validator" (addressQuestion "ValidatorAddr" address) (.json (.record .validator))
  | delegator address => do
    let address ← Operation.ofExcept (Params.checkAccount "del_addr" address)
    decoded "custom/staking/delegator" (addressQuestion "DelegatorAddr" address) (.json (.record .delegator))
  | stakingParams => decoded "custom/staking/parameters" [] (.json (.record .stakingParams))
  | proposals depositor voter status limit => do
    let filter ← Operation.ofExcept (proposalFilter depositor voter status limit)
    asked "custom/gov/proposals" (.record .proposalFilter) filter (.json (.record .proposals))
  | proposal id => do
    Operation.ofExcept (Params.checkProposal id)
    asked "custom/gov/proposal" (.record .proposalQuery) ⟨id⟩ (.json (.record .proposal))
  | token symbol => do
    let symbol := Text.trim symbol
    if symbol.isEmpty then throw (.invalidParam "symbol" .emptySymbol)
    decoded ("custom/token/info/" ++ symbol) [] (.json (.record .tokenInfo))
  | contractParams => decoded "custom/evm/params" [] (.json (.record .contractParams))
  | contractCode contract => do
    let contract ← Operation.ofExcept (Params.checkFixedHex "contract_addr" 20 contract)
    let answer ← decoded (contractPath "code" contract) [] (.json (.record .contractCode))
    Operation.ofExcept ((ContractCode.bytes answer).mapError .encoding)
  | contractStorage contract slot => do
    let contract ← Operation.ofExcept (Params.checkFixedHex "contract_addr" 20 contract)
    let slot ← Operation.ofExcept (Params.checkFixedHex "key" 32 slot)
    let answer ← decoded (contractPath "storage" contract ++ "/0x" ++ Hex.encode slot) [] (.json (.record .storageSlot))
    Operation.ofExcept ((StorageSlot.bytes answer).mapError .encoding)
  | service query => invoked query.path query.request (.response query.response)
  | application path data => Operation.ask (.query path data)
  | block height => do
    let height ← Operation.ofExcept (optionalHeight height)
    Operation.ask (.block height)
  | blockResults height => do
    let height ← Operation.ofExcept (optionalHeight height)
    Operation.ask (.blockResults height)
  | commit height => do
    let height ← Operation.ofExcept (optionalHeight height)
    Operation.ask (.commit height)
  | validatorSet height page perPage => askValidators height page perPage
  | tx hash prove => do
    let _ ← Operation.ofExcept (Params.checkHash hash)
    Operation.ask (.tx hash prove)
  | txSearch query prove page perPage order => search query prove page perPage order
  | txsByEvents events page limit => do
    Operation.ofExcept (Params.checkPage page limit)
    let query ← Operation.ofExcept (Params.eventsQuery events)
    search query false page limit ""
  | txsByConditions conditions page limit => do
    if conditions.isEmpty then throw (.invalidParam "events" .noEvents)
    Operation.ofExcept (Params.checkPage page limit)
    let found ← search (String.intercalate " AND " conditions) true page limit ""
    return found.txs
  | header height => do
    if height.toInt ≤ 0 then throw (.invalidParam "height" (.heightInvalid height))
    let checked ← Operation.ofExcept (Params.checkHeight height)
    let commit ← Operation.ask (.commit (some checked))
    let validators ← askValidators (some height) 1 allValidators
    return { commit, validators }

end Query

end ChainClient
