import ChainClient.Client.Error
import ChainClient.Timestamp

/-!
# Queries for transactions

A query is a list of conditions on the events of a transaction: a key compared with an operand, a key whose value contains a text, or a key that is there. A key is a letter and more letters, digits, dots and underscores. The kind of event comes first and is asked for once. Queries are read before they are sent, and sent with one space around each operator.
-/

namespace ChainClient.Rpc

attribute [local instance (high + 1)] instPowNat

inductive Comparison where
  | equal
  | atMost
  | less
  | atLeast
  | greater
  deriving DecidableEq, Repr

def Comparison.chars : Comparison → List Char
  | equal => ['=']
  | atMost => ['<', '=']
  | less => ['<']
  | atLeast => ['>', '=']
  | greater => ['>']

inductive Operand where
  | text (value : List Char)
  | integer (value : Int)
  | double (value : Binary64)
  | date (year month day : Nat)
  | time (value : Timestamp)
  deriving DecidableEq, Repr

/-- A text between quotes, with a backslash before each quote and backslash in it. -/
def quotedChars (value : List Char) : List Char :=
  '\'' :: value.flatMap (fun c => if c = '\'' ∨ c = '\\' then ['\\', c] else [c]) ++ ['\'']

def Operand.chars : Operand → List Char
  | text value => quotedChars value
  | integer value => Text.integer value
  | double value => value.plain.toList
  | date year month day => "DATE ".toList ++ Timestamp.dateChars year month day
  | time value => "TIME ".toList ++ value.text.toList

inductive Condition where
  | compare (key : List Char) (comparison : Comparison) (operand : Operand)
  | contains (key value : List Char)
  | present (key : List Char)
  deriving DecidableEq, Repr

namespace Condition

def chars : Condition → List Char
  | compare key comparison operand => key ++ ' ' :: comparison.chars ++ ' ' :: operand.chars
  | contains key value => key ++ " CONTAINS ".toList ++ quotedChars value
  | present key => key ++ " EXISTS".toList

def namesEvent (c : Condition) : Bool :=
  let event (name : String) : Condition := compare "tm.event".toList .equal (.text name.toList)
  c = event "Tx" || c = event "NewBlock"

end Condition

structure EventQuery where
  conditions : List Condition
  deriving DecidableEq, Repr

namespace EventQuery

def text (query : EventQuery) : String :=
  String.intercalate " AND " (query.conditions.map fun c => String.ofList c.chars)

/-! ## Reading -/

private def isKeyChar (c : Char) : Bool := c.isAlphanum || c == '.' || c == '_'

private def skipSpaces (cs : List Char) : List Char := cs.dropWhile (· == ' ')

private def afterWord? : List Char → List Char → Option (List Char)
  | [], cs => some cs
  | w :: word, c :: cs => if w = c then afterWord? word cs else none
  | _ :: _, [] => none

/-- What comes after at least one space and a word. -/
private def spacedWord? (word : String) : List Char → Option (List Char)
  | ' ' :: cs => afterWord? word.toList (skipSpaces cs)
  | _ => none

private def quoted? : List Char → Option (List Char × List Char)
  | '\'' :: cs =>
    match cs.dropWhile (· != '\'') with
    | _ :: rest => some (cs.takeWhile (· != '\''), rest)
    | [] => none
  | _ => none

private def comparison? : List Char → Option (Comparison × List Char)
  | '=' :: cs => some (.equal, cs)
  | '<' :: '=' :: cs => some (.atMost, cs)
  | '<' :: cs => some (.less, cs)
  | '>' :: '=' :: cs => some (.atLeast, cs)
  | '>' :: cs => some (.greater, cs)
  | _ => none

/-- Digits, with a point between them for a double. A number with a minus sign does not start with a zero unless it is a double. -/
private def number? (cs : List Char) : Option (Operand × List Char) :=
  let negative := cs.head? = some '-'
  let cs := if negative then cs.drop 1 else cs
  let whole := cs.takeWhile Char.isDigit
  let rest := cs.dropWhile Char.isDigit
  let places := (rest.drop 1).takeWhile Char.isDigit
  if whole.isEmpty then none
  else if rest.head? = some '.' ∧ !places.isEmpty then
    some (.double (Binary64.ofDecimal negative (Text.digitsValue (whole ++ places)) (-(places.length : Int))),
      (rest.drop 1).dropWhile Char.isDigit)
  else
    let n := Text.digitsValue whole
    if negative then (if whole.head? = some '0' ∨ 2 ^ (63 : Nat) < n then none else some (.integer (-n), rest))
    else if n < 2 ^ (64 : Nat) then some (.integer n, rest) else none

private def time? (cs : List Char) : Option (Operand × List Char) := do
  let (t, rest) ← Timestamp.civil? (← spacedWord? "" (← afterWord? "TIME".toList cs))
  return (.time t, ← Text.skip? 'Z' rest)

private def date? (cs : List Char) : Option (Operand × List Char) := do
  let ((year, month, day), rest) ← Timestamp.date? (← spacedWord? "" (← afterWord? "DATE".toList cs))
  return (.date year month day, rest)

private def operand? (cs : List Char) : Option (Operand × List Char) :=
  time? cs <|> date? cs <|> ((quoted? cs).map fun (value, rest) => (.text value, rest)) <|> number? cs

private def condition? (cs : List Char) : Option (Condition × List Char) :=
  let key := cs.takeWhile isKeyChar
  let rest := cs.dropWhile isKeyChar
  if !key.head?.any Char.isAlpha then none
  else match comparison? (skipSpaces rest) with
    | some (comparison, rest) =>
      (operand? (skipSpaces rest)).map fun (operand, rest) => (.compare key comparison operand, rest)
    | none =>
      match spacedWord? "CONTAINS" rest with
      | some rest => do
        let (value, rest) ← quoted? (← spacedWord? "" rest)
        return (.contains key value, rest)
      | none => (spacedWord? "EXISTS" rest).map fun rest => (.present key, rest)

/-- Conditions up to the end, each after an `AND`; every one of them takes characters, so the bound is never met. -/
private def conditions? : Nat → List Char → Option (List Condition)
  | 0, _ => none
  | bound + 1, cs => do
    let (condition, rest) ← condition? cs
    if rest.isEmpty then return [condition]
    let rest ← spacedWord? "" (← spacedWord? "AND" rest)
    return condition :: (← conditions? bound rest)

/-- Puts the kind of event in front. -/
private def arrange? (conditions : List Condition) : Option EventQuery :=
  let (events, others) := conditions.partition Condition.namesEvent
  if 1 < events.length then none else some ⟨events ++ others⟩

def parse? (text : String) : Option EventQuery :=
  let cs := text.toList
  if cs.isEmpty then some ⟨[]⟩ else (conditions? (cs.length + 1) cs).bind arrange?

def parse (text : String) : Except ClientError EventQuery :=
  match parse? text with
  | some query => .ok query
  | none => .error (.invalidParam "query" .form)

end EventQuery

end ChainClient.Rpc
