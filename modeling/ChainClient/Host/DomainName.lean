import ChainClient.Host.Mapping
import ChainClient.Host.Punycode
import ChainClient.Unicode.Direction
import ChainClient.Unicode.Joining
import ChainClient.Unicode.Mark

/-!
# Domain names

A name consists of labels with dots between them. It is read in one form, whatever lettering it comes in: characters are replaced by those they stand for, the text is put into canonical form, and labels that are written in ASCII are decoded. A decoded label must be in this form by itself, otherwise two labels in ASCII could stand for the same one.
-/

namespace ChainClient.Host

open Unicode

/-- Characters of ASCII that have a meaning of their own where a host is named. -/
def isReserved (c : Char) : Bool := c.toNat ≤ 0x20 || c.toNat == 0x7f || "#%/:<>?@[\\]^|".toList.contains c

def isAscii (c : Char) : Bool := c.toNat < 0x80

/-- The form of a text in which equal names are equal. -/
def canonical? (cs : List Char) : Option (List Char) := (cs.mapM mapChar?).map fun images => normalize images.flatten

/-- What every label has to be: no mark comes first, nothing in it is reserved, and its joining characters are in place. -/
def isLabel (label : List Char) : Bool :=
  !label.head?.any isMark && !label.any isReserved && joinersFit label

/-- The start of a label that is written in ASCII. -/
def encodedMark : List Char := "xn--".toList

/-- The longest label that is decoded, and the longest one that is encoded. -/
def maxEncoded : Nat := 2000

def maxDecoded : Nat := 1000

/-- A label that is written in ASCII behind the mark. It must hold a character that needs this, and no mark again. -/
private def decodedLabel? (cs : List Char) : Option (List Char) :=
  if !cs.all isAscii ∨ cs.getLast? = some '-' ∨ maxEncoded < cs.length then none
  else (Punycode.decode? cs).filter fun label =>
    !label.all isAscii && canonical? label == some label && !label.contains '.' && !encodedMark.isPrefixOf label

/-- Reads a label that is in canonical form but perhaps encoded. -/
def label? (cs : List Char) : Option (List Char) :=
  (if encodedMark.isPrefixOf cs then decodedLabel? (cs.drop encodedMark.length)
    else if maxDecoded < cs.length ∧ !cs.all isAscii then none else some cs).filter isLabel

/-- The labels of a name. Where a character is written to the left, every label keeps to one direction. -/
def labels? (cs : List Char) : Option (List (List Char)) := do
  let labels ← (Text.splitOn '.' (← canonical? cs)).mapM label?
  if labels.any turnsLeft ∧ !labels.all keepsDirection then none else some labels

end ChainClient.Host
