import ChainClient.Json.Number

/-!
# JSON documents

A typed reader goes through a text from left to right and stops at the first thing it cannot accept, which may be a value of the wrong kind, a repeated key or a syntax error, whichever comes first. A document is the tree of a text that keeps what such a reader can see: fields stay in order with their repetitions, the place where the syntax fails is a `broken` leaf after everything in front of it, and a string or number that is well formed but denotes nothing is `unreadable`, which matters only to those who read it.

A text is cut into tokens by one pass over its bytes, and the tokens are assembled by a machine with a stack of open containers, so both are recursions on their input.
-/

namespace ChainClient.Json

inductive Document where
  | broken
  | unreadable
  | null
  | bool (value : Bool)
  | int (value : Int)
  | double (value : FiniteDouble)
  | str (text : String)
  | arr (items : List Document)
  | obj (members : List (Option String × Document))

/-! ## Tokens -/

inductive Token where
  | openArray
  | closeArray
  | openObject
  | closeObject
  | comma
  | colon
  /-- A string; one with unpaired surrogates or bytes that are not UTF-8 has no text. -/
  | text (value : Option String)
  /-- A literal or a number. -/
  | word (value : Document)
  | bad

/-- A piece of a string: a byte as it stands or a 16-bit unit written by its number. -/
inductive StringPiece where
  | byte (value : UInt8)
  | unit (value : Nat)

def hexValue? (byte : UInt8) : Option Nat :=
  let n := byte.toNat
  if 48 ≤ n ∧ n ≤ 57 then some (n - 48)
  else if 97 ≤ n ∧ n ≤ 102 then some (n - 87)
  else if 65 ≤ n ∧ n ≤ 70 then some (n - 55)
  else none

/-- What the byte after a backslash stands for, apart from numbered units. -/
def shortEscape? (byte : UInt8) : Option UInt8 :=
  match byte with
  | 34 => some 34
  | 92 => some 92
  | 47 => some 47
  | 98 => some 8
  | 102 => some 12
  | 110 => some 10
  | 114 => some 13
  | 116 => some 9
  | _ => none

/-- Resolves the backslashes of a string; `none` if one of them stands wrong. -/
def stringPieces? : Bytes → Option (List StringPiece)
  | [] => some []
  | 92 :: 117 :: a :: b :: c :: d :: rest => do
    let a ← hexValue? a
    let b ← hexValue? b
    let c ← hexValue? c
    let d ← hexValue? d
    let tail ← stringPieces? rest
    return .unit (((a * 16 + b) * 16 + c) * 16 + d) :: tail
  | 92 :: e :: rest => do
    let byte ← shortEscape? e
    let tail ← stringPieces? rest
    return .byte byte :: tail
  | [92] => none
  | byte :: rest => (stringPieces? rest).map (.byte byte :: ·)

def charBytes (n : Nat) : Bytes := String.utf8EncodeChar (Char.ofNat n)

/-- The bytes of the pieces; a unit of a surrogate pair must be followed or preceded by its partner. -/
def pieceBytes? : List StringPiece → Option Bytes
  | [] => some []
  | .byte byte :: rest => (pieceBytes? rest).map (byte :: ·)
  | .unit high :: .unit low :: rest =>
    if 0xd800 ≤ high ∧ high < 0xdc00 then
      if 0xdc00 ≤ low ∧ low < 0xe000 then
        (pieceBytes? rest).map (charBytes (0x10000 + (high - 0xd800) * 0x400 + (low - 0xdc00)) ++ ·)
      else none
    else if 0xdc00 ≤ high ∧ high < 0xe000 then none
    else (pieceBytes? (.unit low :: rest)).map (charBytes high ++ ·)
  | .unit n :: rest =>
    if 0xd800 ≤ n ∧ n < 0xe000 then none else (pieceBytes? rest).map (charBytes n ++ ·)

def Token.ofString (raw : Bytes) : Token :=
  match stringPieces? raw with
  | none => .bad
  | some pieces => .text (pieceBytes? pieces >>= Bytes.toText?)

def Token.ofWord (raw : Bytes) : Token :=
  let cs := raw.map fun byte => Char.ofNat byte.toNat
  if cs = ['n', 'u', 'l', 'l'] then .word .null
  else if cs = ['t', 'r', 'u', 'e'] then .word (.bool true)
  else if cs = ['f', 'a', 'l', 's', 'e'] then .word (.bool false)
  else
    match Numeral.parse? cs with
    | some (.int value) => .word (.int value)
    | some (.double value) => .word (.double value)
    | some .outOfRange => .word .unreadable
    | none => .bad

def isWordByte (byte : UInt8) : Bool :=
  let n := byte.toNat
  (48 ≤ n && n ≤ 57) || (97 ≤ n && n ≤ 122) || (65 ≤ n && n ≤ 90) || n == 43 || n == 45 || n == 46

/-- The token of a byte that stands for itself. -/
def Token.ofPunctuation? (byte : UInt8) : Option Token :=
  match byte with
  | 91 => some .openArray
  | 93 => some .closeArray
  | 123 => some .openObject
  | 125 => some .closeObject
  | 44 => some .comma
  | 58 => some .colon
  | _ => none

/-- Where a scan stands: between tokens, in a word, in a string, or behind a backslash in a string; the bytes so far are kept in reverse. -/
inductive Scan where
  | between
  | inWord (run : Bytes)
  | inString (run : Bytes)
  | escaped (run : Bytes)

/-- The tokens of a text; the first thing that is no token ends them. -/
def tokensFrom : Scan → Bytes → List Token
  | .between, [] => []
  | .inWord run, [] => [Token.ofWord run.reverse]
  | .inString _, [] => [.bad]
  | .escaped _, [] => [.bad]
  | .inString run, byte :: rest =>
    if byte = 34 then Token.ofString run.reverse :: tokensFrom .between rest
    else if byte = 92 then tokensFrom (.escaped (byte :: run)) rest
    else if byte < 32 then [.bad]
    else tokensFrom (.inString (byte :: run)) rest
  | .escaped run, byte :: rest => tokensFrom (.inString (byte :: run)) rest
  | .inWord run, byte :: rest =>
    if isWordByte byte then tokensFrom (.inWord (byte :: run)) rest
    else
      Token.ofWord run.reverse ::
        (if byte = 34 then tokensFrom (.inString []) rest
        else if byte = 32 ∨ byte = 9 ∨ byte = 10 ∨ byte = 13 then tokensFrom .between rest
        else match Token.ofPunctuation? byte with
          | some token => token :: tokensFrom .between rest
          | none => [.bad])
  | .between, byte :: rest =>
    if isWordByte byte then tokensFrom (.inWord [byte]) rest
    else if byte = 34 then tokensFrom (.inString []) rest
    else if byte = 32 ∨ byte = 9 ∨ byte = 10 ∨ byte = 13 then tokensFrom .between rest
    else match Token.ofPunctuation? byte with
      | some token => token :: tokensFrom .between rest
      | none => [.bad]

def tokens (bytes : Bytes) : List Token := tokensFrom .between bytes

/-! ## Assembly -/

/-- A container that is still open, with what it holds so far in reverse. -/
inductive Frame where
  | array (items : List Document)
  | object (members : List (Option String × Document)) (key : Option String)

/-- What may come next, inside which containers. -/
inductive Assembly where
  | value (outer : List Frame)
  | firstItem (outer : List Frame)
  | afterItem (items : List Document) (outer : List Frame)
  | firstKey (outer : List Frame)
  | nextKey (members : List (Option String × Document)) (outer : List Frame)
  | colon (members : List (Option String × Document)) (key : Option String) (outer : List Frame)
  | afterMember (members : List (Option String × Document)) (outer : List Frame)
  /-- The value is complete; nothing else may follow. -/
  | finished (root : Document)
  /-- The syntax failed; the tree holds what came before. -/
  | failed (root : Document)

namespace Assembly

/-- Gives a complete value to the container around it. -/
def deliver (value : Document) : List Frame → Assembly
  | [] => finished value
  | .array items :: outer => afterItem (value :: items) outer
  | .object members key :: outer => afterMember ((key, value) :: members) outer

/-- The tree of a text that breaks off inside these containers. -/
def abandon (value : Document) : List Frame → Document
  | [] => value
  | .array items :: outer => abandon (.arr (value :: items).reverse) outer
  | .object members key :: outer => abandon (.obj ((key, value) :: members).reverse) outer

def fail : Assembly → Assembly
  | value outer => failed (abandon .broken outer)
  | firstItem outer => failed (abandon (.arr [.broken]) outer)
  | afterItem items outer => failed (abandon .broken (.array items :: outer))
  | firstKey outer => failed (abandon .broken (.object [] none :: outer))
  | nextKey members outer => failed (abandon .broken (.object members none :: outer))
  | colon members key outer => failed (abandon .broken (.object members key :: outer))
  | afterMember members outer => failed (abandon .broken (.object members none :: outer))
  | finished root => failed root
  | failed root => failed root

/-- A value starts inside these containers. -/
def open? (outer : List Frame) : Token → Option Assembly
  | .openArray => some (firstItem outer)
  | .openObject => some (firstKey outer)
  | .text (some text) => some (deliver (.str text) outer)
  | .text none => some (deliver .unreadable outer)
  | .word document => some (deliver document outer)
  | _ => none

def step (state : Assembly) (token : Token) : Assembly :=
  match state, token with
  | value outer, token => (open? outer token).getD state.fail
  | firstItem outer, .closeArray => deliver (.arr []) outer
  | firstItem outer, token => (open? (.array [] :: outer) token).getD state.fail
  | afterItem items outer, .comma => value (.array items :: outer)
  | afterItem items outer, .closeArray => deliver (.arr items.reverse) outer
  | firstKey outer, .closeObject => deliver (.obj []) outer
  | firstKey outer, .text key => colon [] key outer
  | nextKey members outer, .text key => colon members key outer
  | colon members key outer, .colon => value (.object members key :: outer)
  | afterMember members outer, .comma => nextKey members outer
  | afterMember members outer, .closeObject => deliver (.obj members.reverse) outer
  | _, _ => state.fail

/-- The tree, and whether the text is exactly one value. -/
def result : Assembly → Document × Bool
  | finished root => (root, true)
  | state => match state.fail with
    | failed root => (root, false)
    | _ => (.broken, false)

end Assembly

/-- The tree of a text, and whether the text is exactly one value with white space around it. -/
def Document.ofBytes (bytes : Bytes) : Document × Bool :=
  ((tokens bytes).foldl Assembly.step (.value [])).result

mutual

/-- No syntax error inside. -/
def Document.sound : Document → Bool
  | .broken => false
  | .arr items => soundItems items
  | .obj members => soundMembers members
  | _ => true

def soundItems : List Document → Bool
  | [] => true
  | item :: rest => item.sound && soundItems rest

def soundMembers : List (Option String × Document) → Bool
  | [] => true
  | (_, value) :: rest => value.sound && soundMembers rest

end

mutual

def document : Json → Document
  | .null => .null
  | .bool value => .bool value
  | .int value => .int value
  | .double value => .double value
  | .str text => .str text
  | .arr items => .arr (documentItems items)
  | .obj fields => .obj (documentFields fields)

def documentItems : List Json → List Document
  | [] => []
  | item :: rest => document item :: documentItems rest

def documentFields : List (String × Json) → List (Option String × Document)
  | [] => []
  | (key, value) :: rest => (some key, document value) :: documentFields rest

end

mutual

/-- The value of a document with at most `depth` containers inside each other; a repeated key keeps its last value. -/
def Document.value? (depth : Nat) : Document → Option Json
  | .broken => none
  | .unreadable => none
  | .null => some .null
  | .bool value => some (.bool value)
  | .int value => some (.int value)
  | .double value => some (.double value)
  | .str text => some (.str text)
  | .arr items =>
    match depth with
    | 0 => none
    | depth + 1 => (valueItems? depth items).map .arr
  | .obj members =>
    match depth with
    | 0 => none
    | depth + 1 => (valueMembers? depth members).map fun fields => .obj (sortFields fields)

def valueItems? (depth : Nat) : List Document → Option (List Json)
  | [] => some []
  | item :: rest => do
    let value ← item.value? depth
    let values ← valueItems? depth rest
    return value :: values

def valueMembers? (depth : Nat) : List (Option String × Document) → Option (List (String × Json))
  | [] => some []
  | (key, value) :: rest => do
    let key ← key
    let value ← value.value? depth
    let fields ← valueMembers? depth rest
    return (key, value) :: fields

end

end ChainClient.Json
