import ChainClient.Encoding.Hex
import ChainClient.Hash.Sha256
import ChainClient.Node.Basic

/-!
# Scripted nodes

A node that answers from a script: prepared answers for the paths of the application and for each kind of call, plain defaults where none is prepared, and a list of operations that fail. Its answers do not depend on the calls before.
-/

namespace ChainClient.Node

/-- A prepared answer of the application. -/
inductive Reply where
  | value (bytes : Bytes)
  | rejected (code : UInt32) (log : String)
  deriving DecidableEq

structure Script where
  replies : List (String × Reply)
  height : Int64
  /-- The hash to report for a broadcast, instead of the digest of the transaction. -/
  hash : Option String
  broadcastHeight : Int64
  check : Execution
  delivery : Option Execution
  block : Option Block
  blockResults : Option BlockResults
  commit : Option Commit
  validators : Option ValidatorSet
  tx : Option TxRecord
  txSearch : Option TxPage
  failing : List String

namespace Script

def empty : Script :=
  { replies := [], height := 1024, hash := none, broadcastHeight := 0, check := .empty, delivery := none, block := none,
    blockResults := none, commit := none, validators := none, tx := none, txSearch := none, failing := [] }

/-- The height that is asked for, or the height of the node. -/
private def heightOr (script : Script) (height : Option UInt32) : Int64 :=
  match height with
  | some h => Int64.ofNat h.toNat
  | none => script.height

private def header (height : Int64) : BlockHeader :=
  { BlockHeader.empty with chainId := "testchain-1", height, time := "2021-01-01T00:00:00Z" }

private def reply (script : Script) (path : String) : Except Failure QueryResult :=
  match script.replies.lookup path with
  | some (.value bytes) => .ok ⟨bytes, script.height⟩
  | some (.rejected code log) => .error (.rejected path code log)
  | none => .error (.rejected path 6 "unknown query path")

private def prepared (script : Script) : (call : Call) → Except Failure call.Answer
  | .query path _ => script.reply path
  | .broadcast tx _ =>
    .ok ⟨script.hash.getD (Hex.encodeUpper (Sha256.hash tx)), script.broadcastHeight, script.check, script.delivery⟩
  | .block height => .ok (script.block.getD ⟨"", header (script.heightOr height), []⟩)
  | .blockResults height => .ok (script.blockResults.getD ⟨script.heightOr height, [], [], []⟩)
  | .commit height => .ok (script.commit.getD ⟨header (script.heightOr height), "", 0, [], false⟩)
  | .validators height _ _ => .ok (script.validators.getD ⟨script.heightOr height, [], 0⟩)
  | .tx hash _ => .ok (script.tx.getD ⟨hash, script.height, 0, .empty, [], false⟩)
  | .txSearch _ _ _ _ _ => .ok (script.txSearch.getD ⟨[], 0⟩)

def node (script : Script) : Node where
  answer _ call :=
    if call.operation ∈ script.failing then .error (.rpc call.operation) else script.prepared call

end Script

end ChainClient.Node
