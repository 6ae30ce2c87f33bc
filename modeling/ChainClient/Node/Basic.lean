import ChainClient.Node.Result
import ChainClient.Tx.Basic

/-!
# Nodes

What can be asked of a node, what kind of answer each call has, and how a call fails. A node is any function from the calls made so far and the next one to an answer, so it may answer the same call differently as time goes by.
-/

namespace ChainClient

namespace Node

inductive Call where
  /-- A question to the application, at a path. -/
  | query (path : String) (data : Bytes)
  | broadcast (tx : Bytes) (mode : BroadcastMode)
  | block (height : Option UInt32)
  | blockResults (height : Option UInt32)
  | commit (height : Option UInt32)
  | validators (height : Option UInt32) (page perPage : UInt32)
  | tx (hash : String) (prove : Bool)
  | txSearch (query : String) (prove : Bool) (page : UInt32) (perPage : UInt8) (order : SearchOrder)
  deriving DecidableEq

namespace Call

abbrev Answer : Call → Type
  | query _ _ => QueryResult
  | broadcast _ _ => BroadcastResult
  | block _ => Block
  | blockResults _ => BlockResults
  | commit _ => Commit
  | validators _ _ _ => ValidatorSet
  | tx _ _ => TxRecord
  | txSearch _ _ _ _ _ => TxPage

def isBroadcast : Call → Bool
  | broadcast _ _ => true
  | _ => false

/-- The name of the operation in messages. -/
def operation : Call → String
  | query _ _ => "abci query"
  | broadcast _ _ => "broadcast tx"
  | block _ => "block"
  | blockResults _ => "block results"
  | commit _ => "commit"
  | validators _ _ _ => "validators"
  | tx _ _ => "tx"
  | txSearch _ _ _ _ _ => "tx_search"

end Call

/-- How a call fails: it does not get through, or the application rejects the question. -/
inductive Failure where
  | rpc (operation : String)
  | rejected (path : String) (code : UInt32) (log : String)
  deriving DecidableEq, Repr

end Node

/-- Answers a call after the calls made before it. -/
structure Node where
  answer : List Node.Call → (call : Node.Call) → Except Node.Failure call.Answer

end ChainClient
