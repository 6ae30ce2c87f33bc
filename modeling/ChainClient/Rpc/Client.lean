import ChainClient.Node.Basic
import ChainClient.Rpc.Answer
import ChainClient.Rpc.EventQuery

/-!
# Calls of a node over a server

A call of a node becomes one request to its server or several, and the results become its answer. A server is any function from the requests that have reached it and the next one to what becomes of that one. A request that never arrives is not on record.
-/

namespace ChainClient.Rpc

attribute [local instance (high + 1)] instPowNat

structure Request where
  method : String
  params : Json

inductive Outcome where
  /-- No connection: the request never arrives. -/
  | lost
  /-- The request arrives, but no body comes back. -/
  | failed
  | replied (body : Bytes)

structure Server where
  outcome : List Request → Request → Outcome

/-- A server to which there is no connection. -/
def Server.unreachable : Server := ⟨fun _ _ => .lost⟩

/-- A computation that puts requests to a server; those that arrived stay on record. -/
abbrev Exchange := ReaderT Server (ExceptT ClientError (StateM (List Request)))

namespace Exchange

/-- The result and the requests that arrived, in order. -/
def run {α : Type} (exchange : Exchange α) (server : Server) : Except ClientError α × List Request :=
  (ReaderT.run exchange server).run.run []

/-- Sends a request and reads its result. Every failure is one of the operation. -/
def ask {α : Type} (operation : String) (wire : Wire α) (method : String) (params : Json) : Exchange α := do
  let server ← read
  let earlier ← get
  let request : Request := ⟨method, params⟩
  match server.outcome earlier request with
  | .lost => throw (.rpc operation)
  | .failed =>
    set (earlier ++ [request])
    throw (.rpc operation)
  | .replied body =>
    set (earlier ++ [request])
    match resultOf? wire body with
    | some result => return result
    | none => throw (.rpc operation)

end Exchange

open Exchange

/-- A number as requests carry it. -/
private def quoted (n : Nat) : Json := .str (String.ofList (Text.digits n))

private def heightParams (height : Option UInt32) : Json :=
  .obj [("height", match height with
    | some h => quoted h.toNat
    | none => .null)]

def abciQuery (path : String) (data : Bytes) : Exchange Node.QueryResult := do
  let answer ← ask "abci query" Application.wire "abci_query"
    (.obj [("path", .str path), ("data", .str (Hex.encodeUpper data)), ("prove", .bool false)])
  if answer.code ≠ 0 then throw (.rejectedQuery path answer.code answer.log)
  return ⟨answer.value, answer.height⟩

def broadcast (tx : Bytes) (mode : BroadcastMode) : Exchange Node.BroadcastResult := do
  let params := Json.obj [("tx", .str (Base64.encode tx))]
  match mode with
  | .sync => return (← ask "broadcast tx sync" Receipt.wire "broadcast_tx_sync" params).view
  | .async => return (← ask "broadcast tx async" Receipt.wire "broadcast_tx_async" params).view
  | .block => return (← ask "broadcast tx commit" Inclusion.wire "broadcast_tx_commit" params).view

/-- How many validators a page has when all of them are asked for. -/
def validatorsPerPage : Nat := 30

private def validatorsPage (height page perPage : Nat) : Exchange Validators :=
  ask "validators" Validators.wire "validators"
    (.obj [("height", quoted height), ("page", quoted page), ("per_page", quoted perPage)])

/-- Reads pages until as many validators have come as there are. A server that never gets there is given up after so many pages. -/
private def remainingValidators (height : Nat) : Nat → Nat → List Validator → Exchange Validators
  | 0, _, _ => throw (.rpc "validators")
  | pages + 1, page, earlier => do
    let answer ← validatorsPage height page validatorsPerPage
    let all := earlier ++ answer.validators
    if (all.length : Int) = answer.total.toInt then return { answer with validators := all }
    remainingValidators height pages (page + 1) all

/-- More pages than there can be validators. -/
private def maxPages : Nat := 2 ^ (31 : Nat)

/-- Without a height those of the latest block. A page that is too large for one request is all pages. -/
def validators (height : Option UInt32) (page perPage : UInt32) : Exchange Node.ValidatorSet := do
  let height ← match height with
    | some h => pure h.toNat
    | none => (fun h : Int64 => h.toInt.toNat) <$> ask "status" latestHeight "status" .null
  let answer ← if perPage.toNat < 256 then validatorsPage height page.toNat perPage.toNat
    else remainingValidators height maxPages 1 []
  return answer.view

def tx (hash : String) (prove : Bool) : Exchange Node.TxRecord := do
  let hash ← ofExcept (parseTxHash hash)
  let answer ← ask "tx" TxAnswer.wire "tx" (.obj [("hash", .str (Base64.encode hash)), ("prove", .bool prove)])
  return answer.view

def txSearch (query : String) (prove : Bool) (page : UInt32) (perPage : UInt8) (order : Node.SearchOrder) :
    Exchange Node.TxPage := do
  let query ← ofExcept (EventQuery.parse query)
  let direction := match order with
    | .ascending => "asc"
    | .descending => "desc"
  let answer ← ask "tx_search" SearchAnswer.wire "tx_search"
    (.obj [("query", .str query.text), ("prove", .bool prove), ("page", quoted page.toNat),
      ("per_page", quoted perPage.toNat), ("order_by", .str direction)])
  return answer.view

def perform : (call : Node.Call) → Exchange call.Answer
  | .query path data => abciQuery path data
  | .broadcast bytes mode => broadcast bytes mode
  | .block height => do return (← ask "block" Block.wire "block" (heightParams height)).view
  | .blockResults height => do
    return (← ask "block results" BlockResults.wire "block_results" (heightParams height)).view
  | .commit height => do return (← ask "commit" SignedHeader.wire "commit" (heightParams height)).view
  | .validators height page perPage => validators height page perPage
  | .tx hash prove => tx hash prove
  | .txSearch query prove page perPage order => txSearch query prove page perPage order

end ChainClient.Rpc
