import ChainClient.Json.Wire

/-!
# What a node tells

Blocks, their results, commits, validator sets and transactions, in the form in which the library hands them on. Hashes and addresses are upper-case hexadecimal texts, times are texts as well.
-/

namespace ChainClient.Node

open Wire

structure EventAttribute where
  key : String
  value : String
  deriving DecidableEq, Repr

def EventAttribute.wire : Wire EventAttribute :=
  record (field "key" string <| field "value" string .nil)
    (fun a => (a.key, a.value, ()))
    (fun (key, value, ()) => { key, value })

structure Event where
  kind : String
  attributes : List EventAttribute
  deriving DecidableEq, Repr

def Event.wire : Wire Event :=
  record (field "kind" string <| field "attributes" (list EventAttribute.wire) .nil)
    (fun e => (e.kind, e.attributes, ()))
    (fun (kind, attributes, ()) => { kind, attributes })

/-- What checking or executing a transaction gave. -/
structure Execution where
  code : UInt32
  codespace : String
  data : Bytes
  log : String
  info : String
  gasWanted : Int64
  gasUsed : Int64
  events : List Event
  deriving DecidableEq

/-- A transaction that did nothing and succeeded. -/
def Execution.empty : Execution := ⟨0, "", [], "", "", 0, 0, []⟩

def Execution.wire : Wire Execution :=
  record
    (field "code" uint32 <| field "codespace" string <| field "data" (list uint8) <| field "log" string <|
      field "info" string <| field "gas_wanted" int64 <| field "gas_used" int64 <|
      field "events" (list Event.wire) .nil)
    (fun e => (e.code, e.codespace, e.data, e.log, e.info, e.gasWanted, e.gasUsed, e.events, ()))
    (fun (code, codespace, data, log, info, gasWanted, gasUsed, events, ()) =>
      { code, codespace, data, log, info, gasWanted, gasUsed, events })

structure BlockHeader where
  chainId : String
  height : Int64
  /-- In the format of RFC 3339. -/
  time : String
  lastBlockHash : String
  appHash : String
  proposer : String
  deriving DecidableEq

def BlockHeader.empty : BlockHeader := ⟨"", 0, "", "", "", ""⟩

def BlockHeader.wire : Wire BlockHeader :=
  record
    (field "chain_id" string <| field "height" int64 <| field "time" string <| field "last_block_hash" string <|
      field "app_hash" string <| field "proposer_address" string .nil)
    (fun h => (h.chainId, h.height, h.time, h.lastBlockHash, h.appHash, h.proposer, ()))
    (fun (chainId, height, time, lastBlockHash, appHash, proposer, ()) =>
      { chainId, height, time, lastBlockHash, appHash, proposer })

structure Block where
  hash : String
  header : BlockHeader
  txs : List Bytes
  deriving DecidableEq

def Block.wire : Wire Block :=
  record
    (field "block_hash" string <| field "header" BlockHeader.wire <| field "txs" (list (list uint8)) .nil)
    (fun b => (b.hash, b.header, b.txs, ()))
    (fun (hash, header, txs, ()) => { hash, header, txs })

structure BlockResults where
  height : Int64
  txs : List Execution
  beginEvents : List Event
  endEvents : List Event
  deriving DecidableEq

def BlockResults.wire : Wire BlockResults :=
  record
    (field "height" int64 <| field "txs_results" (list Execution.wire) <|
      field "begin_block_events" (list Event.wire) <| field "end_block_events" (list Event.wire) .nil)
    (fun r => (r.height, r.txs, r.beginEvents, r.endEvents, ()))
    (fun (height, txs, beginEvents, endEvents, ()) => { height, txs, beginEvents, endEvents })

structure CommitSignature where
  /-- Empty when the validator was absent. -/
  validator : String
  signed : Bool
  deriving DecidableEq, Repr

def CommitSignature.wire : Wire CommitSignature :=
  record (field "validator_address" string <| field "signed" bool .nil)
    (fun s => (s.validator, s.signed, ()))
    (fun (validator, signed, ()) => { validator, signed })

structure Commit where
  header : BlockHeader
  blockHash : String
  round : UInt32
  signatures : List CommitSignature
  canonical : Bool
  deriving DecidableEq

def Commit.wire : Wire Commit :=
  record
    (field "header" BlockHeader.wire <| field "block_hash" string <| field "round" uint32 <|
      field "signatures" (list CommitSignature.wire) <| field "canonical" bool .nil)
    (fun c => (c.header, c.blockHash, c.round, c.signatures, c.canonical, ()))
    (fun (header, blockHash, round, signatures, canonical, ()) =>
      { header, blockHash, round, signatures, canonical })

structure ValidatorEntry where
  address : String
  publicKey : Bytes
  votingPower : UInt64
  proposerPriority : Int64
  deriving DecidableEq

def ValidatorEntry.wire : Wire ValidatorEntry :=
  record
    (field "address" string <| field "pub_key" (list uint8) <| field "voting_power" uint64 <|
      field "proposer_priority" int64 .nil)
    (fun v => (v.address, v.publicKey, v.votingPower, v.proposerPriority, ()))
    (fun (address, publicKey, votingPower, proposerPriority, ()) =>
      { address, publicKey, votingPower, proposerPriority })

structure ValidatorSet where
  height : Int64
  validators : List ValidatorEntry
  total : Int32
  deriving DecidableEq

def ValidatorSet.wire : Wire ValidatorSet :=
  record
    (field "block_height" int64 <| field "validators" (list ValidatorEntry.wire) <| field "total" int32 .nil)
    (fun s => (s.height, s.validators, s.total, ()))
    (fun (height, validators, total, ()) => { height, validators, total })

structure TxRecord where
  hash : String
  height : Int64
  index : UInt32
  execution : Execution
  tx : Bytes
  hasProof : Bool
  deriving DecidableEq

def TxRecord.wire : Wire TxRecord :=
  record
    (field "hash" string <| field "height" int64 <| field "index" uint32 <| field "tx_result" Execution.wire <|
      field "tx" (list uint8) <| field "has_proof" bool .nil)
    (fun t => (t.hash, t.height, t.index, t.execution, t.tx, t.hasProof, ()))
    (fun (hash, height, index, execution, tx, hasProof, ()) => { hash, height, index, execution, tx, hasProof })

structure TxPage where
  txs : List TxRecord
  total : UInt32
  deriving DecidableEq

def TxPage.wire : Wire TxPage :=
  record (field "txs" (list TxRecord.wire) <| field "total_count" uint32 .nil)
    (fun p => (p.txs, p.total, ()))
    (fun (txs, total, ()) => { txs, total })

/-- The signed header and the validators of one height, as a light client of the chain needs them. -/
structure HeaderAtHeight where
  commit : Commit
  validators : ValidatorSet
  deriving DecidableEq

def HeaderAtHeight.wire : Wire HeaderAtHeight :=
  record (field "commit" Commit.wire <| field "validators" ValidatorSet.wire .nil)
    (fun h => (h.commit, h.validators, ()))
    (fun (commit, validators, ()) => { commit, validators })

structure QueryResult where
  value : Bytes
  height : Int64
  deriving DecidableEq

/-- The answer to a broadcast; the delivery is there only when the node waited for it. -/
structure BroadcastResult where
  hash : String
  height : Int64
  check : Execution
  delivery : Option Execution
  deriving DecidableEq

inductive SearchOrder where
  | ascending
  | descending
  deriving DecidableEq, Repr

end ChainClient.Node
