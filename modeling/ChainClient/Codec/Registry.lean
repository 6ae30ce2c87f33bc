import ChainClient.Client.Error

/-!
# The codec

A codec is the list of the types that a client exchanges with the node, each registered once under a name of its own and in one style. Everything the client writes or reads goes through it: a concrete type travels in an envelope with its name and is read in two steps, first the envelope and then, if the name fits, the value inside it.
-/

namespace ChainClient

/-- A type with the name and the style in which it travels. -/
inductive Registration where
  | concrete (name : String) (type : JsonType)
  | plain (name : String) (type : JsonType)
  | proto (name : String) (type : Proto.Response)
  deriving DecidableEq, Repr

namespace Registration

def name : Registration → String
  | concrete name _ => name
  | plain name _ => name
  | proto name _ => name

def type : Registration → DataType
  | concrete _ type => .json type
  | plain _ type => .json type
  | proto _ type => .response type

def style : Registration → Style
  | concrete _ _ => .concrete
  | plain _ _ => .plain
  | proto _ _ => .proto

/-- A message is registered under the name of its kind. -/
def message (kind : MessageKind) : Registration := concrete kind.typeName (.message kind)

end Registration

inductive RegistrationError where
  | nameTaken (name : String)
  | typeTaken (type : DataType) (name : String)
  deriving DecidableEq, Repr

def RegistrationError.message : RegistrationError → String
  | nameTaken name => "duplicated codec registration: " ++ name
  | typeTaken type name => "duplicated codec registration: " ++ type.label ++ " is already registered as " ++ name

/-- The registered types, the latest first. -/
structure Codec where
  registrations : List Registration
  deriving DecidableEq, Repr

namespace Codec

def empty : Codec := ⟨[]⟩

def find? (codec : Codec) (type : DataType) : Option Registration :=
  codec.registrations.find? fun r => r.type = type

def hasName (codec : Codec) (name : String) : Bool := codec.registrations.any fun r => r.name == name

/-- Adds a registration whose name and type are both new. -/
def register (codec : Codec) (r : Registration) : Except RegistrationError Codec :=
  if codec.hasName r.name then .error (.nameTaken r.name)
  else match codec.find? r.type with
    | some existing => .error (.typeTaken r.type existing.name)
    | none => .ok ⟨r :: codec.registrations⟩

/-- Adds registrations one after the other, up to the first one that is refused. -/
def registerAll (codec : Codec) : List Registration → Codec × Option RegistrationError
  | [] => (codec, none)
  | r :: rest =>
    match codec.register r with
    | .ok codec => codec.registerAll rest
    | .error e => (codec, some e)

def size (codec : Codec) : Nat := codec.registrations.length

def isEmpty (codec : Codec) : Bool := codec.registrations.isEmpty

def isRegistered (codec : Codec) (type : DataType) : Bool := (codec.find? type).isSome

def style? (codec : Codec) (type : DataType) : Option Style := (codec.find? type).map Registration.style

/-- Puts a name in front of those that are greater. -/
private def insertName (name : String) : List String → List String
  | [] => [name]
  | head :: tail => if name < head then name :: head :: tail else head :: insertName name tail

def names (codec : Codec) : List String :=
  codec.registrations.foldl (fun sorted r => insertName r.name sorted) []

/-- The names in order, as they are shown to people. -/
def summary (codec : Codec) : String :=
  "Codec \x7b types: [" ++ String.intercalate ", " (codec.names.map Text.quoted) ++ "] \x7d"

def registration (codec : Codec) (type : DataType) : Except ClientError Registration :=
  match codec.find? type with
  | some r => .ok r
  | none => .error (.unregisteredType type)

/-- The bytes of a value in the style of a registration. -/
def encodeAs (r : Registration) : (type : DataType) → type.Value → Bytes
  | .json type, value =>
    match r with
    | .concrete name _ => (Json.obj [("type", .str name), ("value", type.wire.write value)]).bytes
    | _ => type.wire.bytes value
  | .response type, value => Proto.encode type.schema value

def encode (codec : Codec) (type : DataType) (value : type.Value) : Except ClientError Bytes :=
  (codec.registration type).map fun r => encodeAs r type value

/-- Reads an envelope with this name and then the value in it. -/
def decodeEnvelope (name : String) (type : JsonType) (bytes : Bytes) : Except DecodeFailure type.Value := do
  let envelope ← (Envelope.wire.readBytes bytes).mapError .ofReadError
  if envelope.typeName ≠ name then throw (.unexpectedType envelope.typeName)
  (type.wire.readJson envelope.value).mapError .ofReadError

/-- The value of bytes in the style of a registration. -/
def decodeAs (r : Registration) : (type : DataType) → Bytes → Except DecodeFailure type.Value
  | .json type, bytes =>
    match r with
    | .concrete name _ => decodeEnvelope name type bytes
    | _ => (type.wire.readBytes bytes).mapError .ofReadError
  | .response type, bytes =>
    match Proto.decode? type.schema bytes with
    | some message => .ok message
    | none => .error .protobuf

def decode (codec : Codec) (type : DataType) (bytes : Bytes) : Except ClientError type.Value :=
  match codec.find? type with
  | none => .error (.decode type.label bytes.length .unregistered)
  | some r => (decodeAs r type bytes).mapError (.decode r.name bytes.length)

/-- Writes a value that has a form in JSON. -/
def marshalJson (codec : Codec) (type : DataType) (value : type.Value) : Except ClientError Bytes := do
  let r ← codec.registration type
  if r.style = .proto then throw (.encode r.name .noJsonForm)
  codec.encode type value

/-- Reads a value that has a form in JSON. -/
def unmarshalJson (codec : Codec) (type : DataType) (bytes : Bytes) : Except ClientError type.Value :=
  if codec.style? type = some .proto then .error (.decode type.label bytes.length .noJsonForm)
  else codec.decode type bytes

/-- Wraps a message, which must be registered as its kind demands. -/
def toTxMessage (codec : Codec) (kind : MessageKind) (body : kind.Body) : Except ClientError Envelope := do
  let r ← codec.registration (.json (.message kind))
  if r.style ≠ .concrete ∨ r.name ≠ kind.typeName then
    throw (.encode kind.typeName (.registeredAs r.name r.style))
  return kind.envelope body

def basicRegistrations : List Registration :=
  [.plain "okexchain/DecCoin" (.record .coin),
    .plain "okexchain/DecCoins" (.record .coins),
    .plain "cosmos-sdk/StdFee" (.record .fee),
    .plain "cosmos-sdk/StdSignature" (.record .signature),
    .concrete "cosmos-sdk/StdTx" (.record .tx),
    .plain "crypto/PubKey" (.record .publicKey),
    .plain "cosmos-sdk/TxResponse" (.record .txResponse)]

end Codec

end ChainClient
