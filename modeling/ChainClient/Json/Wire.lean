import ChainClient.Json.Document
import ChainClient.ValueError

/-!
# Typed JSON

A wire format of a type is a writer and a reader that belong together. Formats are built from those of numbers, strings and lists by describing records field by field, so that what the reader of a record accepts is settled once: an object with its keys in any order, or an array of the values in the declared order; unknown keys are skipped, a repeated key is refused, and a field may be left out only if it declares a default. Reading stops at the first thing that cannot be accepted, in the order of the text.
-/

namespace ChainClient

attribute [local instance (high + 1)] instPowNat

/-- Why a document cannot be read: it has the wrong shape, or a text in it is no value of the chain. -/
inductive ReadError where
  | malformed
  | invalid (cause : ValueError)
  deriving Repr, DecidableEq

/-- How values of a type are written, and read inside at most so many open containers. -/
structure Wire (α : Type) where
  write : α → Json
  read : Nat → Json.Document → Except ReadError α

namespace Wire

/-- How many arrays and objects may be open inside each other. -/
def maxDepth : Nat := 127

def readBytes {α : Type} (wire : Wire α) (bytes : Bytes) : Except ReadError α := do
  let (document, complete) := Json.Document.ofBytes bytes
  let value ← wire.read maxDepth document
  if complete then return value else throw .malformed

def readText {α : Type} (wire : Wire α) (text : String) : Except ReadError α := wire.readBytes (Bytes.ofText text)

def readJson {α : Type} (wire : Wire α) (value : Json) : Except ReadError α := wire.read maxDepth value.document

def text {α : Type} (wire : Wire α) (value : α) : String := (wire.write value).text

def bytes {α : Type} (wire : Wire α) (value : α) : Bytes := (wire.write value).bytes

/-- The value in free form, with its fields in ascending order. -/
def json {α : Type} (wire : Wire α) (value : α) : Json := (wire.write value).sorted

/-! ## Scalars -/

def string : Wire String where
  write := .str
  read
    | _, .str text => .ok text
    | _, _ => .error .malformed

def bool : Wire Bool where
  write := .bool
  read
    | _, .bool value => .ok value
    | _, _ => .error .malformed

/-- An integer from `low` to `high`, as a number. -/
def readInt (low high : Int) : Json.Document → Except ReadError Int
  | .int value => if low ≤ value ∧ value ≤ high then .ok value else .error .malformed
  | _ => .error .malformed

def uint8 : Wire UInt8 where
  write n := .int n.toNat
  read _ document := (readInt 0 (2 ^ (8 : Nat) - 1) document).map fun n => UInt8.ofNat n.toNat

def uint16 : Wire UInt16 where
  write n := .int n.toNat
  read _ document := (readInt 0 (2 ^ (16 : Nat) - 1) document).map fun n => UInt16.ofNat n.toNat

def uint32 : Wire UInt32 where
  write n := .int n.toNat
  read _ document := (readInt 0 (2 ^ (32 : Nat) - 1) document).map fun n => UInt32.ofNat n.toNat

def uint64 : Wire UInt64 where
  write n := .int n.toNat
  read _ document := (readInt 0 (2 ^ (64 : Nat) - 1) document).map fun n => UInt64.ofNat n.toNat

def int32 : Wire Int32 where
  write n := .int n.toInt
  read _ document := (readInt (-(2 ^ (31 : Nat))) (2 ^ (31 : Nat) - 1) document).map Int32.ofInt

def int64 : Wire Int64 where
  write n := .int n.toInt
  read _ document := (readInt (-(2 ^ (63 : Nat))) (2 ^ (63 : Nat) - 1) document).map Int64.ofInt

/-- A string that a reader of texts accepts or refuses without a cause of its own. -/
def texted {α : Type} (write : α → String) (read? : String → Option α) : Wire α where
  write value := .str (write value)
  read
    | _, .str text => match read? text with
      | some value => .ok value
      | none => .error .malformed
    | _, _ => .error .malformed

/-- A string that a reader of texts accepts or refuses with a cause. -/
def parsed {α : Type} (write : α → String) (parse : String → Except ValueError α) : Wire α where
  write value := .str (write value)
  read
    | _, .str text => (parse text).mapError .invalid
    | _, _ => .error .malformed

/-- A number of 64 bits written as a string. -/
def quotedUInt64 : Wire UInt64 := texted (fun n => String.ofList (Text.digits n.toNat)) Text.readUInt64?

def quotedInt64 : Wire Int64 := texted (fun n => String.ofList (Text.integer n.toInt)) Text.readInt64?

def freeForm : Wire Json where
  write value := value
  read depth document := match document.value? depth with
    | some value => .ok value
    | none => .error .malformed

def option {α : Type} (wire : Wire α) : Wire (Option α) where
  write
    | some value => wire.write value
    | none => .null
  read
    | _, .null => .ok none
    | depth, document => (wire.read depth document).map some

def list {α : Type} (wire : Wire α) : Wire (List α) where
  write values := .arr (values.map wire.write)
  read
    | depth + 1, .arr items => items.mapM (wire.read depth)
    | _, _ => .error .malformed

/-! ## Records -/

/-- Whether a field may be left out, and what it is then; `omitted` also says when it is not written. -/
inductive Presence (α : Type) where
  | required
  | default (value : α)
  | omitted (value : α) (omits : α → Bool)

def Presence.fallback? {α : Type} : Presence α → Option α
  | required => none
  | default value => some value
  | omitted value _ => some value

def Presence.writes {α : Type} (value : α) : Presence α → Bool
  | omitted _ omits => !omits value
  | _ => true

/-- The fields of a record in declared order; their values make a nested pair. -/
inductive Fields : Type → Type 1 where
  | nil : Fields Unit
  | cons {α β : Type} (key : String) (wire : Wire α) (presence : Presence α) (rest : Fields β) : Fields (α × β)

namespace Fields

def write : {γ : Type} → Fields γ → γ → List (String × Json)
  | _, nil, _ => []
  | _, cons key wire presence rest, (value, values) =>
    if presence.writes value then (key, wire.write value) :: rest.write values else rest.write values

/-- What has been read so far of each field. -/
def Slots : {γ : Type} → Fields γ → Type
  | _, nil => Unit
  | _, @cons α _ _ _ _ rest => Option α × rest.Slots

def empty : {γ : Type} → (fields : Fields γ) → fields.Slots
  | _, nil => ()
  | _, cons _ _ _ rest => (none, rest.empty)

/-- Reads the value of a key into its slot. -/
def put (depth : Nat) (key : String) (document : Json.Document) :
    {γ : Type} → (fields : Fields γ) → fields.Slots → Except ReadError fields.Slots
  | _, nil, () => if document.sound then .ok () else .error .malformed
  | _, cons name wire _ rest, slots =>
    if name = key then
      if slots.1.isSome then .error .malformed
      else (wire.read depth document).map fun value => (some value, slots.2)
    else (rest.put depth key document slots.2).map fun others => (slots.1, others)

/-- Reads the members of an object one after the other. -/
def putAll (depth : Nat) {γ : Type} (fields : Fields γ) :
    List (Option String × Json.Document) → fields.Slots → Except ReadError fields.Slots
  | [], slots => .ok slots
  | (none, _) :: _, _ => .error .malformed
  | (some key, document) :: members, slots => do
    let slots ← fields.put depth key document slots
    fields.putAll depth members slots

/-- The values once everything is read; a field that was left out takes its default. -/
def finish : {γ : Type} → (fields : Fields γ) → fields.Slots → Except ReadError γ
  | _, nil, () => .ok ()
  | _, cons _ _ presence rest, slots =>
    match slots.1.or presence.fallback? with
    | none => .error .malformed
    | some value => (rest.finish slots.2).map fun values => (value, values)

/-- Reads the values from an array; fields missing at its end take their defaults. -/
def readItems (depth : Nat) : {γ : Type} → Fields γ → List Json.Document → Except ReadError γ
  | _, nil, [] => .ok ()
  | _, nil, _ :: _ => .error .malformed
  | _, cons _ wire _ rest, document :: documents => do
    let value ← wire.read depth document
    let values ← rest.readItems depth documents
    return (value, values)
  | _, cons _ _ presence rest, [] =>
    match presence.fallback? with
    | none => .error .malformed
    | some value => (rest.readItems depth []).map fun values => (value, values)

def read {γ : Type} (fields : Fields γ) : Nat → Json.Document → Except ReadError γ
  | depth + 1, .obj members => do
    let slots ← fields.putAll depth members fields.empty
    fields.finish slots
  | depth + 1, .arr items => fields.readItems depth items
  | _, _ => .error .malformed

end Fields

def record {α γ : Type} (fields : Fields γ) (parts : α → γ) (make : γ → α) : Wire α where
  write value := .obj (fields.write (parts value))
  read depth document := (fields.read depth document).map make

def field {α β : Type} (key : String) (wire : Wire α) (rest : Fields β) : Fields (α × β) :=
  .cons key wire .required rest

def optionalField {α β : Type} (key : String) (wire : Wire α) (value : α) (rest : Fields β) : Fields (α × β) :=
  .cons key wire (.default value) rest

end Wire

end ChainClient
