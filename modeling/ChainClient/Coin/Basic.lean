import ChainClient.Coin.Decimal

/-!
# Coins

A coin is an amount of a denomination and is written as the two texts side by side. The reader cuts where the digits and points end, and checks the denomination after the amount. A coin list is written with commas and read in ascending order of the denominations, which may not repeat.
-/

namespace ChainClient

structure Coin where
  denom : String
  amount : Decimal
  deriving DecidableEq, Repr

namespace Coin

/-- The characters of a denomination after the first. -/
def isDenomChar (c : Char) : Bool := c.isAlphanum || c == '/' || c == ':' || c == '.' || c == '_' || c == '-'

/-- A lower-case letter and then 2 to 127 characters of the permitted ones. -/
def validDenom (denom : List Char) : Bool :=
  match denom with
  | head :: tail => head.isLower && tail.all isDenomChar && 2 ≤ tail.length && tail.length ≤ 127
  | [] => false

def make (denom : String) (amount : Decimal) : Except ValueError Coin :=
  if validDenom denom.toList then .ok ⟨denom, amount⟩ else .error (.invalidDenom denom)

def isPositive (coin : Coin) : Bool := coin.amount.isPositive

def text (coin : Coin) : String := coin.amount.text ++ coin.denom

def isAmountChar (c : Char) : Bool := c.isDigit || c == '.'

def parse (text : String) : Except ValueError Coin := do
  let cs := Text.trimChars text.toList
  let amount := cs.takeWhile isAmountChar
  let denom := cs.dropWhile isAmountChar
  if denom.isEmpty then throw (.missingDenom (String.ofList cs))
  if amount.isEmpty then throw (.invalidDecimal (String.ofList cs))
  let amount ← Decimal.parse (String.ofList amount)
  make (String.ofList (Text.trimChars denom)) amount

/-- Puts a coin behind those whose denomination is not greater. -/
def insert (coin : Coin) : List Coin → List Coin
  | [] => [coin]
  | head :: tail => if coin.denom < head.denom then coin :: head :: tail else head :: insert coin tail

/-- The coins in ascending order of their denominations; equal ones keep their order. -/
def sort (coins : List Coin) : List Coin := coins.foldl (fun sorted coin => insert coin sorted) []

/-- The first denomination that two neighbours share. -/
def duplicate? : List Coin → Option String
  | first :: second :: rest =>
    if first.denom = second.denom then some first.denom else duplicate? (second :: rest)
  | _ => none

/-- Reads a list of coins separated by commas; a blank text holds none. -/
def parseList (text : String) : Except ValueError (List Coin) := do
  let cs := Text.trimChars text.toList
  if cs.isEmpty then return []
  let coins ← (Text.splitOn ',' cs).mapM fun piece => parse (String.ofList piece)
  match duplicate? (sort coins) with
  | some denom => throw (.duplicateDenom denom)
  | none => return sort coins

end Coin

end ChainClient
