import ChainClient.Encoding.Base64
import ChainClient.Json.Envelope
import ChainClient.Json.Scalars

/-!
# Transactions

A transaction is a list of enveloped messages with a fee, signatures and a memo. What its signers sign is not the transaction but a sign document, which also names the chain and the signer's account and is written with the keys of all objects in ascending order.
-/

namespace ChainClient

open Wire

/-- When the node answers a broadcast: after checking, at once, or after the transaction is in a block. -/
inductive BroadcastMode where
  | sync
  | async
  | block
  deriving DecidableEq, Repr

namespace BroadcastMode

def text : BroadcastMode → String
  | sync => "sync"
  | async => "async"
  | block => "block"

def parse? (text : String) : Option BroadcastMode :=
  if text = "sync" then some sync
  else if text = "async" then some async
  else if text = "block" then some block
  else none

/-- A mode is its name, or an object whose only key is the name, with `null`. -/
def wire : Wire BroadcastMode where
  write mode := .str mode.text
  read depth document :=
    let found := match depth, document with
      | _, .str text => parse? text
      | _ + 1, .obj [(some key, .null)] => parse? key
      | _, _ => none
    match found with
    | some mode => .ok mode
    | none => .error .malformed

end BroadcastMode

/-- A public key by the name of its kind and the base64 text of its bytes. -/
structure PublicKey where
  kind : String
  value : String
  deriving DecidableEq, Repr

namespace PublicKey

/-- The key with these compressed bytes, of the kind that accounts use. -/
def ofCompressed (bytes : Bytes) : PublicKey := ⟨"ethermint/PubKeySecp256k1", Base64.encode bytes⟩

def wire : Wire PublicKey :=
  record (field "type" string <| field "value" string .nil)
    (fun k => (k.kind, k.value, ()))
    (fun (kind, value, ()) => { kind, value })

end PublicKey

structure Fee where
  amount : List Coin
  gas : UInt64
  deriving DecidableEq, Repr

def Fee.wire : Wire Fee :=
  record (field "amount" (list Coin.wire) <| field "gas" quotedUInt64 .nil)
    (fun f => (f.amount, f.gas, ()))
    (fun (amount, gas, ()) => { amount, gas })

/-- A signature in base64 with the key that made it. -/
structure Signature where
  publicKey : PublicKey
  signature : String
  deriving DecidableEq, Repr

def Signature.wire : Wire Signature :=
  record (field "pub_key" PublicKey.wire <| field "signature" string .nil)
    (fun s => (s.publicKey, s.signature, ()))
    (fun (publicKey, signature, ()) => { publicKey, signature })

structure Tx where
  messages : List Envelope
  fee : Fee
  signatures : List Signature
  memo : String

namespace Tx

def wire : Wire Tx :=
  record
    (field "msg" (list Envelope.wire) <| field "fee" Fee.wire <| field "signatures" (list Signature.wire) <|
      field "memo" string .nil)
    (fun t => (t.messages, t.fee, t.signatures, t.memo, ()))
    (fun (messages, fee, signatures, memo, ()) => { messages, fee, signatures, memo })

/-- A transaction that nobody has signed, as the node simulates it. -/
def unsigned (messages : List Envelope) (fee : Fee) (memo : String) : Tx := { messages, fee, signatures := [], memo }

end Tx

structure SignDocument where
  accountNumber : UInt64
  chainId : String
  fee : Fee
  memo : String
  messages : List Envelope
  sequence : UInt64

namespace SignDocument

def json (d : SignDocument) : Json :=
  .obj [("account_number", quotedUInt64.write d.accountNumber),
    ("chain_id", .str d.chainId),
    ("fee", Fee.wire.write d.fee),
    ("memo", .str d.memo),
    ("msgs", (list Envelope.wire).write d.messages),
    ("sequence", quotedUInt64.write d.sequence)]

/-- The compact text with the keys of every object in ascending order. -/
def bytes (d : SignDocument) : Bytes := d.json.sorted.bytes

end SignDocument

structure TxResponse where
  height : Int64
  hash : String
  codespace : String
  code : UInt32
  data : String
  log : String
  info : String
  gasWanted : Int64
  gasUsed : Int64
  mode : Option BroadcastMode
  deriving DecidableEq

namespace TxResponse

def wire : Wire TxResponse :=
  record
    (optionalField "height" quotedInt64 0 <| field "txhash" string <| optionalField "codespace" string "" <|
      optionalField "code" uint32 0 <| optionalField "data" string "" <| optionalField "raw_log" string "" <|
      optionalField "info" string "" <| optionalField "gas_wanted" quotedInt64 0 <|
      optionalField "gas_used" quotedInt64 0 <|
      .cons "mode" (option BroadcastMode.wire) (.omitted none Option.isNone) .nil)
    (fun r => (r.height, r.hash, r.codespace, r.code, r.data, r.log, r.info, r.gasWanted, r.gasUsed, r.mode, ()))
    (fun (height, hash, codespace, code, data, log, info, gasWanted, gasUsed, mode, ()) =>
      { height, hash, codespace, code, data, log, info, gasWanted, gasUsed, mode })

def isOk (r : TxResponse) : Bool := r.code == 0

end TxResponse

end ChainClient
