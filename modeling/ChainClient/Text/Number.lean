/-!
# Numbers in text

Natural numbers are written in decimal digits without leading zeros. The readers accept at least one ASCII digit, any leading zeros and one sign: `+` for every width, `-` for signed widths only.
-/

namespace ChainClient.Text

attribute [local instance (high + 1)] instPowNat

/-- The decimal digits of a number, without leading zeros. -/
def digits (n : Nat) : List Char := Nat.toDigits 10 n

/-- The number that decimal digits denote. -/
def digitsValue (cs : List Char) : Nat := cs.foldl (fun value c => 10 * value + (c.toNat - '0'.toNat)) 0

/-- At least one ASCII digit and nothing else. -/
def isNumeral (cs : List Char) : Bool := !cs.isEmpty && cs.all Char.isDigit

/-- Reads at least one ASCII digit. -/
def readNat? (cs : List Char) : Option Nat := if isNumeral cs then some (digitsValue cs) else none

/-- Reads a number below `bound` with an optional `+`. -/
def readUnsigned? (bound : Nat) (cs : List Char) : Option Nat :=
  (match cs with
    | '+' :: rest => readNat? rest
    | _ => readNat? cs).filter (· < bound)

/-- Reads a number from `-bound` to `bound - 1` with an optional sign. -/
def readSigned? (bound : Nat) (cs : List Char) : Option Int :=
  match cs with
  | '-' :: rest => ((readNat? rest).filter (· ≤ bound)).map fun n => -(n : Int)
  | _ => (readUnsigned? bound cs).map Int.ofNat

def readUInt64? (text : String) : Option UInt64 := (readUnsigned? (2 ^ (64 : Nat)) text.toList).map UInt64.ofNat

def readInt64? (text : String) : Option Int64 := (readSigned? (2 ^ (63 : Nat)) text.toList).map Int64.ofInt

/-- Reads a number of exactly so many digits in front of other characters. -/
def takeNat? (count : Nat) (cs : List Char) : Option (Nat × List Char) :=
  if (cs.take count).length = count then (readNat? (cs.take count)).map fun n => (n, cs.drop count) else none

def skip? (mark : Char) : List Char → Option (List Char)
  | c :: cs => if c = mark then some cs else none
  | [] => none

/-- The characters of an integer: digits after an optional minus sign. -/
def integer : Int → List Char
  | .ofNat n => digits n
  | .negSucc n => '-' :: digits (n + 1)

end ChainClient.Text
