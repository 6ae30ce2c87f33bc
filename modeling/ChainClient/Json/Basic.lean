import ChainClient.Bytes
import ChainClient.Number.Binary64

/-!
# JSON values

An object is the list of its fields in order, so that a record can be written with its fields as declared. What a reader makes of free-form JSON has its fields in ascending order with distinct keys, and `sorted` brings any value into that form, at every level. The text of a value is compact.
-/

namespace ChainClient

inductive Json where
  | null
  | bool (value : Bool)
  | int (value : Int)
  | double (value : FiniteDouble)
  | str (text : String)
  | arr (items : List Json)
  | obj (fields : List (String × Json))
  deriving Inhabited, Repr

namespace Json

/-- The two lower-case hexadecimal digits of a control character. -/
def controlDigits (c : Char) : List Char :=
  [Nat.digitChar (c.toNat / 16), Nat.digitChar (c.toNat % 16)]

def escapedChar (c : Char) : List Char :=
  if c = '"' then ['\\', '"']
  else if c = '\\' then ['\\', '\\']
  else if c = '\x08' then ['\\', 'b']
  else if c = '\x0c' then ['\\', 'f']
  else if c = '\n' then ['\\', 'n']
  else if c = '\r' then ['\\', 'r']
  else if c = '\t' then ['\\', 't']
  else if c.toNat < 0x20 then ['\\', 'u', '0', '0'] ++ controlDigits c
  else [c]

def stringChars (text : String) : List Char := '"' :: (text.toList.flatMap escapedChar ++ ['"'])

mutual

def chars : Json → List Char
  | null => ['n', 'u', 'l', 'l']
  | bool true => ['t', 'r', 'u', 'e']
  | bool false => ['f', 'a', 'l', 's', 'e']
  | int value => Text.integer value
  | double value => value.text
  | str text => stringChars text
  | arr items => '[' :: (itemsChars items ++ [']'])
  | obj fields => '\x7b' :: (fieldsChars fields ++ ['\x7d'])

def itemsChars : List Json → List Char
  | [] => []
  | [item] => chars item
  | item :: rest => chars item ++ ',' :: itemsChars rest

def fieldsChars : List (String × Json) → List Char
  | [] => []
  | [(key, value)] => stringChars key ++ ':' :: chars value
  | (key, value) :: rest => stringChars key ++ ':' :: (chars value ++ ',' :: fieldsChars rest)

end

def text (value : Json) : String := String.ofList value.chars

def bytes (value : Json) : Bytes := Bytes.ofText value.text

/-- Puts a field in front of the fields with greater keys, or gives its value to the field of the same key. -/
def putField (key : String) (value : Json) : List (String × Json) → List (String × Json)
  | [] => [(key, value)]
  | (k, v) :: rest =>
    if key < k then (key, value) :: (k, v) :: rest
    else if key = k then (key, value) :: rest
    else (k, v) :: putField key value rest

/-- The fields in ascending order of their keys; of those with one key the last stays. -/
def sortFields (fields : List (String × Json)) : List (String × Json) :=
  fields.foldl (fun sorted field => putField field.1 field.2 sorted) []

mutual

/-- The value with the fields of every object in ascending order. -/
def sorted : Json → Json
  | arr items => arr (sortedItems items)
  | obj fields => obj (sortFields (sortedFields fields))
  | value => value

def sortedItems : List Json → List Json
  | [] => []
  | item :: rest => sorted item :: sortedItems rest

def sortedFields : List (String × Json) → List (String × Json)
  | [] => []
  | (key, value) :: rest => (key, sorted value) :: sortedFields rest

end

def field? (key : String) : Json → Option Json
  | obj fields => (fields.find? fun field => field.1 == key).map Prod.snd
  | _ => none

end Json

end ChainClient
