import ChainClient.Encoding.Hex
import ChainClient.Text.Blank
import ChainClient.Text.Number

/-!
# Numeric addresses

An address of version four is up to four numbers, in decimal, octal or hexadecimal digits, the last of which fills up what the others leave of 32 bits. An address of version six is eight groups of sixteen bits; two colons stand for the groups that are missing, and the last two may be written as an address of version four.
-/

namespace ChainClient.Host

attribute [local instance (high + 1)] instPowNat

/-! ## Version four -/

/-- The number that digits in a base stand for; no digits are zero. -/
private def based? (base : Nat) (cs : List Char) : Option Nat :=
  cs.foldlM (fun n c => ((Hex.digit? c).filter (· < base)).map fun d => base * n + d) 0

/-- A number of an address: hexadecimal after `0x`, octal after a zero. -/
def addressNumber? : List Char → Option Nat
  | [] => none
  | '0' :: 'x' :: cs => based? 16 cs
  | '0' :: 'X' :: cs => based? 16 cs
  | ['0'] => some 0
  | '0' :: cs => based? 8 cs
  | cs => based? 10 cs

/-- The labels without the empty one after a dot at the end. -/
private def withoutRoot (labels : List (List Char)) : List (List Char) :=
  if labels.getLast? = some [] then labels.dropLast else labels

/-- A name whose last label is a number is an address, or nothing. -/
def endsInNumber (labels : List (List Char)) : Bool :=
  match (withoutRoot labels).getLast? with
  | some last => Text.isNumeral last || (addressNumber? last).isSome
  | none => false

/-- Whether labels are an address of version four. -/
def isIpv4 (labels : List (List Char)) : Bool :=
  match ((withoutRoot labels).mapM addressNumber?).map List.reverse with
  | some (last :: others) =>
    others.length < 4 && others.all (· < 256) && last < 256 ^ (4 - others.length)
  | _ => false

/-! ## Version six -/

/-- A number up to 255 in decimal digits, without a zero in front. -/
private def isOctet (cs : List Char) : Bool :=
  Text.isNumeral cs && Text.digitsValue cs < 256 && (cs.head? != some '0' || cs.length == 1)

private def isDottedQuad (cs : List Char) : Bool :=
  let octets := Text.splitOn '.' cs
  octets.length == 4 && octets.all isOctet

private def isGroup (cs : List Char) : Bool := !cs.isEmpty && cs.length ≤ 4 && cs.all fun c => (Hex.digit? c).isSome

/-- How many groups there are between single colons. At the end of the address two of them may be an address of version four. -/
private def groupCount? (atEnd : Bool) (cs : List Char) : Option Nat :=
  if cs.isEmpty then some 0
  else
    let groups := Text.splitOn ':' cs
    if groups.all isGroup then some groups.length
    else if atEnd && groups.dropLast.all isGroup && groups.getLast?.any isDottedQuad then some (groups.length + 1)
    else none

/-- The characters before and after the first two colons in a row. -/
private def splitGap : List Char → Option (List Char × List Char)
  | ':' :: ':' :: cs => some ([], cs)
  | c :: cs => (splitGap cs).map fun (before, after) => (c :: before, after)
  | [] => none

/-- Whether a text is an address of version six. -/
def isIpv6 (cs : List Char) : Bool :=
  match splitGap cs with
  | none => groupCount? true cs == some 8
  | some (before, after) =>
    match groupCount? false before, groupCount? true after with
    | some m, some n => m + n < 8
    | _, _ => false

end ChainClient.Host
