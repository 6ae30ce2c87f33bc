import ChainClient.Encoding.Base64
import ChainClient.Json.Wire
import ChainClient.Node.Result
import ChainClient.Rpc.Digest
import ChainClient.Timestamp

/-!
# Answers of a server

The results of the calls of a node in the JSON of its server, where wide integers are strings, bytes are base64 or hexadecimal, and much is checked that the library does not hand on. Each answer has a wire format and a view, which is the answer in the form in which the library hands it on.
-/

namespace ChainClient.Rpc

attribute [local instance (high + 1)] instPowNat

open Wire

/-! ## Scalars -/

/-- A format that accepts only some of the values. -/
def checked {α : Type} (wire : Wire α) (holds : α → Bool) : Wire α where
  write := wire.write
  read depth document := do
    let value ← wire.read depth document
    if holds value then return value else throw .malformed

/-- A list that may be `null` where it is empty. -/
def nullable {α : Type} (wire : Wire (List α)) : Wire (List α) where
  write := wire.write
  read
    | _, .null => .ok []
    | depth, document => wire.read depth document

/-- A document with one key of its members in place of another. -/
def renamed (other key : String) : Json.Document → Json.Document
  | .obj members => .obj (members.map fun (name, value) => (if name = some other then some key else name, value))
  | document => document

/-- A format of objects in which a member may stand under another key, but not under both. -/
def alsoUnder {α : Type} (other key : String) (wire : Wire α) : Wire α where
  write := wire.write
  read depth document := wire.read depth (renamed other key document)

def base64 : Wire Bytes := texted Base64.encode fun text => (Base64.decode (Bytes.ofText text)).toOption

def hexadecimal : Wire Bytes := texted Hex.encodeUpper fun text => Hex.pairs? text.toList

def digest : Wire Bytes := texted Hex.encodeUpper fun text => digestOfHex? text.toList

/-- The bytes of a text as they are; bytes that are no text are not written. -/
def rawText : Wire Bytes := texted (fun bytes => (Bytes.toText? bytes).getD "") fun text => some (Bytes.ofText text)

/-- The twenty bytes that name a validator to the others. -/
def accountId : Wire Bytes := checked hexadecimal fun bytes => bytes.length == 20

/-- A height is never negative. -/
def height : Wire Int64 := checked quotedInt64 fun h => 0 ≤ h.toInt

def time : Wire Timestamp := texted Timestamp.text Timestamp.parse?

def quotedInt32 : Wire Int32 :=
  texted (fun n => String.ofList (Text.integer n.toInt)) fun text =>
    (Text.readSigned? (2 ^ (31 : Nat)) text.toList).map Int32.ofInt

def quotedUInt32 : Wire UInt32 :=
  texted (fun n => String.ofList (Text.digits n.toNat)) fun text =>
    (Text.readUnsigned? (2 ^ (32 : Nat)) text.toList).map UInt32.ofNat

/-! ## Execution of transactions -/

structure Attribute where
  key : String
  value : String
  indexed : Bool
  deriving DecidableEq, Repr

def Attribute.wire : Wire Attribute :=
  record (field "key" string <| field "value" string <| field "index" bool .nil)
    (fun a => (a.key, a.value, a.indexed, ()))
    (fun (key, value, indexed, ()) => { key, value, indexed })

structure Event where
  kind : String
  attributes : List Attribute
  deriving DecidableEq, Repr

def Event.wire : Wire Event :=
  record (field "type" string <| field "attributes" (list Attribute.wire) .nil)
    (fun e => (e.kind, e.attributes, ()))
    (fun (kind, attributes, ()) => { kind, attributes })

def Event.view (e : Event) : Node.Event := ⟨e.kind, e.attributes.map fun a => ⟨a.key, a.value⟩⟩

structure Execution where
  code : UInt32
  data : Bytes
  log : String
  info : String
  gasWanted : Int64
  gasUsed : Int64
  events : List Event
  codespace : String
  deriving DecidableEq

def Execution.view (e : Execution) : Node.Execution :=
  { code := e.code, codespace := e.codespace, data := e.data, log := e.log, info := e.info, gasWanted := e.gasWanted,
    gasUsed := e.gasUsed, events := e.events.map Event.view }

/-- The result of an execution; whatever is left out is empty or zero. -/
def Execution.wire : Wire Execution :=
  record
    (optionalField "code" uint32 0 <| optionalField "data" (nullable rawText) [] <| optionalField "log" string "" <|
      optionalField "info" string "" <| optionalField "gas_wanted" quotedInt64 0 <|
      optionalField "gas_used" quotedInt64 0 <| optionalField "events" (list Event.wire) [] <|
      optionalField "codespace" string "" .nil)
    (fun e => (e.code, e.data, e.log, e.info, e.gasWanted, e.gasUsed, e.events, e.codespace, ()))
    (fun (code, data, log, info, gasWanted, gasUsed, events, codespace, ()) =>
      { code, data, log, info, gasWanted, gasUsed, events, codespace })

/-- The result of a check before the execution, with its place in the queue. -/
structure Check where
  execution : Execution
  sender : String
  priority : Int64
  queueError : String
  deriving DecidableEq

def Check.wire : Wire Check :=
  record
    (field "code" uint32 <| field "data" (nullable rawText) <| field "log" string <| field "info" string <|
      field "gas_wanted" quotedInt64 <| field "gas_used" quotedInt64 <| field "events" (list Event.wire) <|
      field "codespace" string <| optionalField "sender" string "" <| optionalField "priority" quotedInt64 0 <|
      optionalField "mempool_error" string "" .nil)
    (fun c =>
      let e := c.execution
      (e.code, e.data, e.log, e.info, e.gasWanted, e.gasUsed, e.events, e.codespace, c.sender, c.priority, c.queueError,
        ()))
    (fun (code, data, log, info, gasWanted, gasUsed, events, codespace, sender, priority, queueError, ()) =>
      { execution := { code, data, log, info, gasWanted, gasUsed, events, codespace }, sender, priority, queueError })

/-! ## Queries and broadcasts -/

structure Application where
  code : UInt32
  log : String
  info : String
  index : Int64
  key : Bytes
  value : Bytes
  proof : Option Json
  height : Int64
  codespace : String

def Application.wire : Wire Application :=
  record
    (field "response"
      (record
        (optionalField "code" uint32 0 <| optionalField "log" string "" <| optionalField "info" string "" <|
          optionalField "index" quotedInt64 0 <| optionalField "key" (nullable base64) [] <|
          optionalField "value" (nullable base64) [] <| optionalField "proofOps" (option freeForm) none <|
          optionalField "height" Rpc.height 0 <| optionalField "codespace" string "" .nil)
        (fun a : Application =>
          (a.code, a.log, a.info, a.index, a.key, a.value, a.proof, a.height, a.codespace, ()))
        (fun (code, log, info, index, key, value, proof, height, codespace, ()) =>
          { code, log, info, index, key, value, proof, height, codespace }))
      .nil)
    (fun a => (a, ())) (fun (a, ()) => a)

/-- What a server says at once about a transaction, before it is in a block. -/
structure Receipt where
  codespace : String
  code : UInt32
  data : Bytes
  log : String
  hash : Bytes
  deriving DecidableEq

def Receipt.wire : Wire Receipt :=
  record
    (field "codespace" string <| field "code" uint32 <| field "data" (nullable base64) <| field "log" string <|
      field "hash" digest .nil)
    (fun r => (r.codespace, r.code, r.data, r.log, r.hash, ()))
    (fun (codespace, code, data, log, hash, ()) => { codespace, code, data, log, hash })

def Receipt.view (r : Receipt) : Node.BroadcastResult :=
  { hash := Hex.encodeUpper r.hash, height := 0, delivery := none,
    check := { Node.Execution.empty with code := r.code, codespace := r.codespace, data := r.data, log := r.log } }

/-- What a server says about a transaction once it is in a block. -/
structure Inclusion where
  check : Check
  delivery : Execution
  hash : Bytes
  height : Int64
  deriving DecidableEq

/-- The execution stands under one of two keys. -/
def Inclusion.wire : Wire Inclusion :=
  alsoUnder "deliver_tx" "tx_result" <|
    record
      (field "check_tx" Check.wire <| field "tx_result" Execution.wire <| field "hash" digest <|
        field "height" Rpc.height .nil)
      (fun i => (i.check, i.delivery, i.hash, i.height, ()))
      (fun (check, delivery, hash, height, ()) => { check, delivery, hash, height })

def Inclusion.view (i : Inclusion) : Node.BroadcastResult :=
  { hash := Hex.encodeUpper i.hash, height := i.height, check := i.check.execution.view,
    delivery := some i.delivery.view }

structure TxAnswer where
  hash : Bytes
  height : Int64
  index : UInt32
  execution : Execution
  tx : Bytes
  proof : Option Json

def TxAnswer.wire : Wire TxAnswer :=
  record
    (field "hash" digest <| field "height" Rpc.height <| field "index" uint32 <| field "tx_result" Execution.wire <|
      field "tx" base64 <| optionalField "proof" (option freeForm) none .nil)
    (fun t => (t.hash, t.height, t.index, t.execution, t.tx, t.proof, ()))
    (fun (hash, height, index, execution, tx, proof, ()) => { hash, height, index, execution, tx, proof })

def TxAnswer.view (t : TxAnswer) : Node.TxRecord :=
  { hash := Hex.encodeUpper t.hash, height := t.height, index := t.index, execution := t.execution.view, tx := t.tx,
    hasProof := t.proof.isSome }

structure SearchAnswer where
  txs : List TxAnswer
  total : UInt32

def SearchAnswer.wire : Wire SearchAnswer :=
  record (field "txs" (list TxAnswer.wire) <| field "total_count" quotedUInt32 .nil)
    (fun s => (s.txs, s.total, ()))
    (fun (txs, total, ()) => { txs, total })

def SearchAnswer.view (s : SearchAnswer) : Node.TxPage := ⟨s.txs.map TxAnswer.view, s.total⟩

/-! ## Blocks -/

/-- A block named by its digest and that of its parts. -/
structure BlockId where
  hash : Bytes
  partCount : UInt32
  partsHash : Bytes
  deriving DecidableEq

def BlockId.wire : Wire BlockId :=
  record
    (field "hash" digest <|
      field "parts"
        (record (field "total" uint32 <| field "hash" digest .nil) (fun p : UInt32 × Bytes => (p.1, p.2, ()))
          (fun (count, hash, ()) => (count, hash)))
        .nil)
    (fun b => (b.hash, (b.partCount, b.partsHash), ()))
    (fun (hash, (partCount, partsHash), ()) => { hash, partCount, partsHash })

/-- A block without a digest and without parts names nothing. -/
def BlockId.isNothing (b : BlockId) : Bool := b.hash.isEmpty && b.partCount == 0

structure Header where
  version : UInt64 × UInt64
  chainId : String
  height : Int64
  time : Timestamp
  lastBlock : Option BlockId
  lastCommit : Bytes
  data : Bytes
  validators : Bytes
  nextValidators : Bytes
  consensus : Bytes
  app : Bytes
  lastResults : Bytes
  evidence : Bytes
  proposer : Bytes
  deriving DecidableEq

/-- From one to fifty letters, digits and the marks `-`, `_` and `.`. -/
def isChainId (text : String) : Bool :=
  let cs := text.toList
  !cs.isEmpty && cs.length ≤ 50 && cs.all fun c => c.isAlphanum || c == '-' || c == '_' || c == '.'

/-- The block before this one; the first block has none. -/
def Header.previous (h : Header) : Option BlockId := h.lastBlock.filter fun b => !b.isNothing

def Header.sound (h : Header) : Bool := isChainId h.chainId && (h.height != 1 || h.previous.isNone)

def Header.wire : Wire Header :=
  checked
    (record
      (field "version"
          (record (field "block" quotedUInt64 <| optionalField "app" quotedUInt64 0 .nil)
            (fun v : UInt64 × UInt64 => (v.1, v.2, ())) (fun (block, app, ()) => (block, app))) <|
        field "chain_id" string <| field "height" Rpc.height <| field "time" Rpc.time <|
        field "last_block_id" (option BlockId.wire) <| field "last_commit_hash" digest <| field "data_hash" digest <|
        field "validators_hash" digest <| field "next_validators_hash" digest <| field "consensus_hash" digest <|
        field "app_hash" hexadecimal <| field "last_results_hash" digest <| field "evidence_hash" digest <|
        field "proposer_address" accountId .nil)
      (fun h =>
        (h.version, h.chainId, h.height, h.time, h.lastBlock, h.lastCommit, h.data, h.validators, h.nextValidators,
          h.consensus, h.app, h.lastResults, h.evidence, h.proposer, ()))
      (fun (version, chainId, height, time, lastBlock, lastCommit, data, validators, nextValidators, consensus, app,
          lastResults, evidence, proposer, ()) =>
        { version, chainId, height, time, lastBlock, lastCommit, data, validators, nextValidators, consensus, app,
          lastResults, evidence, proposer }))
    Header.sound

def Header.view (h : Header) : Node.BlockHeader :=
  { chainId := h.chainId, height := h.height, time := h.time.text,
    lastBlockHash := (h.previous.map fun b => Hex.encodeUpper b.hash).getD "", appHash := Hex.encodeUpper h.app,
    proposer := Hex.encodeUpper h.proposer }

/-- The vote of one validator: absent, for the block, or for no block. -/
structure Vote where
  flag : UInt8
  validator : Bytes
  time : Option Timestamp
  signature : Option Bytes
  deriving DecidableEq

def Vote.sound (v : Vote) : Bool :=
  if v.flag = 1 then v.validator.isEmpty && v.signature.all List.isEmpty
  else (v.flag == 2 || v.flag == 3) && v.validator.length == 20 && v.time.isSome

def Vote.wire : Wire Vote :=
  checked
    (record
      (field "block_id_flag" uint8 <| field "validator_address" hexadecimal <|
        optionalField "timestamp" (option Rpc.time) none <| optionalField "signature" (option base64) none .nil)
      (fun v => (v.flag, v.validator, v.time, v.signature, ()))
      (fun (flag, validator, time, signature, ()) => { flag, validator, time, signature }))
    Vote.sound

def Vote.view (v : Vote) : Node.CommitSignature := ⟨Hex.encodeUpper v.validator, v.flag == 2⟩

structure Commit where
  height : Int64
  round : Int32
  block : BlockId
  votes : List Vote
  deriving DecidableEq

def Commit.wire : Wire Commit :=
  record
    (field "height" Rpc.height <| field "round" (checked int32 fun r => 0 ≤ r.toInt) <|
      field "block_id" BlockId.wire <| field "signatures" (nullable (list Vote.wire)) .nil)
    (fun c => (c.height, c.round, c.block, c.votes, ()))
    (fun (height, round, block, votes, ()) => { height, round, block, votes })

structure Block where
  id : BlockId
  header : Header
  txs : List Bytes
  evidence : Json
  lastCommit : Option Commit

/-- The commit of the block before may be missing only in the first block. -/
def Block.wire : Wire Block :=
  checked
    (record
      (field "block_id" BlockId.wire <|
        field "block"
          (record
            (field "header" Header.wire <|
              field "data"
                (record (field "txs" (nullable (list base64)) .nil) (fun txs => (txs, ())) (fun (txs, ()) => txs)) <|
              field "evidence" freeForm <| field "last_commit" (option Commit.wire) .nil)
            (fun b : Header × List Bytes × Json × Option Commit => (b.1, b.2.1, b.2.2.1, b.2.2.2, ()))
            (fun (header, txs, evidence, lastCommit, ()) => (header, txs, evidence, lastCommit)))
          .nil)
      (fun b => (b.id, (b.header, b.txs, b.evidence, b.lastCommit), ()))
      (fun (id, (header, txs, evidence, lastCommit), ()) => { id, header, txs, evidence, lastCommit }))
    fun b => b.header.height == 1 || b.lastCommit.isSome

def Block.view (b : Block) : Node.Block := ⟨Hex.encodeUpper b.id.hash, b.header.view, b.txs⟩

structure BlockResults where
  height : Int64
  txs : List Execution
  beginEvents : List Event
  endEvents : List Event
  deriving DecidableEq

def BlockResults.wire : Wire BlockResults :=
  record
    (field "height" Rpc.height <| optionalField "txs_results" (nullable (list Execution.wire)) [] <|
      optionalField "begin_block_events" (nullable (list Event.wire)) [] <|
      optionalField "end_block_events" (nullable (list Event.wire)) [] .nil)
    (fun r => (r.height, r.txs, r.beginEvents, r.endEvents, ()))
    (fun (height, txs, beginEvents, endEvents, ()) => { height, txs, beginEvents, endEvents })

def BlockResults.view (r : BlockResults) : Node.BlockResults :=
  ⟨r.height, r.txs.map Execution.view, r.beginEvents.map Event.view, r.endEvents.map Event.view⟩

structure SignedHeader where
  header : Header
  commit : Commit
  canonical : Bool
  deriving DecidableEq

def SignedHeader.wire : Wire SignedHeader :=
  record
    (field "signed_header"
        (record (field "header" Header.wire <| field "commit" Commit.wire .nil)
          (fun s : Header × Commit => (s.1, s.2, ())) (fun (header, commit, ()) => (header, commit))) <|
      field "canonical" bool .nil)
    (fun s => ((s.header, s.commit), s.canonical, ()))
    (fun ((header, commit), canonical, ()) => { header, commit, canonical })

def SignedHeader.view (s : SignedHeader) : Node.Commit :=
  { header := s.header.view, blockHash := Hex.encodeUpper s.commit.block.hash,
    round := UInt32.ofNat s.commit.round.toInt.toNat, signatures := s.commit.votes.map Vote.view,
    canonical := s.canonical }

/-! ## Validators -/

structure Validator where
  address : Bytes
  key : Bytes
  power : Int64
  deriving DecidableEq

/-- The one kind of key that validators have. -/
def validatorKey : Wire Bytes :=
  record
    (field "type" (checked string fun kind => kind == "tendermint/PubKeyEd25519") <|
      field "value" (checked base64 fun key => key.length == 32) .nil)
    (fun key => ("tendermint/PubKeyEd25519", key, ())) (fun (_, key, ()) => key)

def Validator.wire : Wire Validator :=
  record
    (field "address" accountId <| field "pub_key" validatorKey <|
      field "voting_power" (checked quotedInt64 fun power => 0 ≤ power.toInt) .nil)
    (fun v => (v.address, v.key, v.power, ()))
    (fun (address, key, power, ()) => { address, key, power })

/-- The priority of a validator is not read. -/
def Validator.view (v : Validator) : Node.ValidatorEntry :=
  ⟨Hex.encodeUpper v.address, v.key, UInt64.ofNat v.power.toInt.toNat, 0⟩

structure Validators where
  height : Int64
  validators : List Validator
  total : Int32
  deriving DecidableEq

def Validators.wire : Wire Validators :=
  record
    (field "block_height" Rpc.height <| field "validators" (list Validator.wire) <| field "total" quotedInt32 .nil)
    (fun v => (v.height, v.validators, v.total, ()))
    (fun (height, validators, total, ()) => { height, validators, total })

def Validators.view (v : Validators) : Node.ValidatorSet := ⟨v.height, v.validators.map Validator.view, v.total⟩

/-- The height that a server has reached, out of all it says about its status. -/
def latestHeight : Wire Int64 :=
  record
    (field "sync_info"
      (record (field "latest_block_height" Rpc.height .nil) (fun h => (h, ())) (fun (h, ()) => h)) .nil)
    (fun h => (h, ())) (fun (h, ()) => h)

/-! ## Replies -/

/-- A reply of the protocol: a result or an error. -/
structure Reply (α : Type) where
  version : String
  id : Json
  result : Option α
  error : Option Json

def Reply.wire {α : Type} (result : Wire α) : Wire (Reply α) :=
  record
    (field "jsonrpc" string <| field "id" freeForm <| optionalField "result" (option result) none <|
      optionalField "error" (option freeForm) none .nil)
    (fun r => (r.version, r.id, r.result, r.error, ()))
    (fun (version, id, result, error, ()) => { version, id, result, error })

/-- The result in the body of a reply, unless there is an error or nothing at all. -/
def resultOf? {α : Type} (result : Wire α) (body : Bytes) : Option α :=
  match (Reply.wire result).readBytes body with
  | .ok reply => if reply.version = "2.0" ∧ reply.error.isNone then reply.result else none
  | .error _ => none

end ChainClient.Rpc
