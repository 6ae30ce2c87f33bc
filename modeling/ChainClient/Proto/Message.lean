import ChainClient.Proto.Varint

/-!
# Protobuf messages by schema

A schema lists the fields of a message by number. A message holds the values of its fields; it is written in the order of the schema, without numbers that are zero and texts that are empty. A reader takes fields in any order: the last number or text of a field stays, nested messages are merged, repeated numbers may come packed or one by one, and fields that the schema does not know are skipped, groups with everything in them.
-/

namespace ChainClient.Proto

attribute [local instance (high + 1)] instPowNat

/-- What the values of a field are. -/
inductive Kind where
  | uint64
  | int32
  | bool
  | text
  | bytes
  | message (fields : List (Nat × Bool × Kind))

/-- The fields of a message: number, whether it may occur many times, and what its values are. -/
abbrev Schema := List (Nat × Bool × Kind)

inductive Value where
  | number (n : Nat)
  | bytes (content : Bytes)
  | message (fields : List (Nat × List Value))

/-- The values of the fields that have any, by number. -/
abbrev Message := List (Nat × List Value)

namespace Message

def get (message : Message) (field : Nat) : List Value := (message.lookup field).getD []

def set (message : Message) (field : Nat) (values : List Value) : Message :=
  (field, values) :: message.filter fun entry => entry.1 != field

end Message

def blockField (field : Nat) (content : Bytes) : Bytes := key field .block ++ block content

/-- A field of bytes, left out when there are none. -/
def bytesField (field : Nat) (content : Bytes) : Bytes := if content.isEmpty then [] else blockField field content

def textField (field : Nat) (text : String) : Bytes := bytesField field (Bytes.ofText text)

/-- A field of a number, left out when it is zero. -/
def numberField (field : Nat) (n : Nat) : Bytes := if n = 0 then [] else key field .varint ++ varint n

/-- A field of any count of numbers, in one block. -/
def packedField (field : Nat) (ns : List Nat) : Bytes := bytesField field (ns.flatMap varint)

/-- A field of a message that may be absent; one that is there is written even if it is empty. -/
def messageField (field : Nat) (content : Option Bytes) : Bytes := (content.map (blockField field)).getD []

/-! ## Writing -/

private def numbers (values : List Value) : List Nat := values.filterMap fun | .number n => some n | _ => none

mutual

/-- The field with these values. -/
def encodeField (field : Nat) (many : Bool) : Kind → List Value → Bytes
  | .message fields, values =>
    values.flatMap fun
      | .message content => blockField field (encodeFields fields content)
      | _ => []
  | .text, values | .bytes, values =>
    values.flatMap fun
      | .bytes content => if many then blockField field content else bytesField field content
      | _ => []
  | .uint64, values | .int32, values | .bool, values =>
    if many then packedField field (numbers values) else (numbers values).flatMap (numberField field)

def encodeFields : List (Nat × Bool × Kind) → Message → Bytes
  | [], _ => []
  | (field, many, kind) :: rest, message =>
    encodeField field many kind (message.get field) ++ encodeFields rest message

end

def encode (schema : Schema) (message : Message) : Bytes := encodeFields schema message

/-! ## Reading -/

/-- How many messages and groups may be open inside each other. -/
def maxDepth : Nat := 100

mutual

/-- The bytes behind a value that nobody wants. -/
def skipValue (depth : Nat) (field : Nat) : Nat → Storage → Bytes → Option Bytes
  | 0, _, _ => none
  | fuel + 1, storage, bytes =>
    if depth = 0 then none
    else match storage with
      | .varint => (readVarint? bytes).map Prod.snd
      | .fixed64 => if 8 ≤ bytes.length then some (bytes.drop 8) else none
      | .fixed32 => if 4 ≤ bytes.length then some (bytes.drop 4) else none
      | .block => (readBlock? bytes).map Prod.snd
      | .groupStart => skipGroup depth field fuel bytes
      | .groupEnd => none

/-- The bytes behind the end of a group. -/
def skipGroup (depth : Nat) (field : Nat) : Nat → Bytes → Option Bytes
  | 0, _ => none
  | fuel + 1, bytes => do
    let (inner, storage, rest) ← readKey? bytes
    if storage = .groupEnd then
      if inner = field then some rest else none
    else
      let rest ← skipValue (depth - 1) inner fuel storage rest
      skipGroup depth field fuel rest

end

/-- The numbers of a packed block. -/
private def unpack (fix : Nat → Nat) : Nat → Bytes → Option (List Value)
  | 0, _ => none
  | fuel + 1, bytes =>
    if bytes.isEmpty then some []
    else do
      let (n, rest) ← readVarint? bytes
      let values ← unpack fix fuel rest
      return .number (fix n) :: values

/-- What is kept of the bits of a number: truth for a Boolean; the low 32 bits with their sign for a short integer. -/
private def fixNumber : Kind → Nat → Nat
  | .bool, n => if n = 0 then 0 else 1
  | .int32, n =>
    let low := n % 2 ^ (32 : Nat)
    if low < 2 ^ (31 : Nat) then low else low + (2 ^ (64 : Nat) - 2 ^ (32 : Nat))
  | _, n => n

mutual

/-- Reads fields into a message until the bytes end. -/
def mergeMessage (depth : Nat) (schema : Schema) : Nat → Message → Bytes → Option Message
  | 0, _, _ => none
  | fuel + 1, message, bytes =>
    if bytes.isEmpty then some message
    else do
      let (field, storage, rest) ← readKey? bytes
      match schema.lookup field with
      | none =>
        let rest ← skipValue depth field (bytes.length + 1) storage rest
        mergeMessage depth schema fuel message rest
      | some (many, kind) =>
        let (values, rest) ← mergeField depth many kind fuel (message.get field) storage rest
        mergeMessage depth schema fuel (message.set field values) rest

/-- Reads one value of a field next to those that are there. -/
def mergeField (depth : Nat) (many : Bool) (kind : Kind) : Nat → List Value → Storage → Bytes →
    Option (List Value × Bytes)
  | 0, _, _, _ => none
  | fuel + 1, old, storage, bytes =>
    match kind, storage with
    | .message fields, .block =>
      if depth = 0 then none
      else do
        let (content, rest) ← readBlock? bytes
        let start := match many, old with
          | false, .message message :: _ => message
          | _, _ => []
        let message ← mergeMessage (depth - 1) fields fuel start content
        return (if many then old ++ [.message message] else [.message message], rest)
    | .text, .block => do
      let (content, rest) ← readBlock? bytes
      if (Bytes.toText? content).isNone then none
      else return (if many then old ++ [.bytes content] else [.bytes content], rest)
    | .bytes, .block => do
      let (content, rest) ← readBlock? bytes
      return (if many then old ++ [.bytes content] else [.bytes content], rest)
    | .message _, _ | .text, _ | .bytes, _ => none
    | kind, .varint => do
      let (n, rest) ← readVarint? bytes
      let value := .number (fixNumber kind n)
      return (if many then old ++ [value] else [value], rest)
    | kind, .block => do
      let (content, rest) ← readBlock? bytes
      if many then
        let values ← unpack (fixNumber kind) (content.length + 1) content
        return (old ++ values, rest)
      else none
    | _, _ => none

end

def decode? (schema : Schema) (bytes : Bytes) : Option Message :=
  mergeMessage maxDepth schema (2 * bytes.length + 2) [] bytes

end ChainClient.Proto
