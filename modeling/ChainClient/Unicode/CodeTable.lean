import ChainClient.Text.Blank

/-!
# Tables of code points

A property of characters is kept as a text of words. A word is a code point or the first and the last one of a run, and behind an equals sign the values of the run, with plus signs between them. All numbers are hexadecimal.
-/

namespace ChainClient.Unicode

structure Entry where
  first : Nat
  last : Nat
  values : List Nat
  deriving DecidableEq, Repr

namespace Entry

def covers (e : Entry) (c : Char) : Bool := e.first ≤ c.toNat && c.toNat ≤ e.last

/-- The characters that a character of the run stands for. A single value belongs to the first one of the run, and those after it go on from there. -/
def image (e : Entry) (c : Char) : List Char :=
  match e.values with
  | [value] => [Char.ofNat (value + (c.toNat - e.first))]
  | values => values.map Char.ofNat

private def hexValue (ds : List Char) : Nat :=
  ds.foldl (fun n c => 16 * n + (if c.isDigit then c.toNat - '0'.toNat else c.toNat - 'a'.toNat + 10)) 0

private def ofWord (word : List Char) : Entry :=
  let (span, values) := (Text.splitOnce '=' word).getD (word, [])
  let (first, last) := (Text.splitOnce '-' span).getD (span, span)
  ⟨hexValue first, hexValue last, if values.isEmpty then [] else (Text.splitOn '+' values).map hexValue⟩

end Entry

structure Table where
  entries : List Entry

namespace Table

def ofText (text : String) : Table := ⟨(Text.words text.toList).map Entry.ofWord⟩

def find? (table : Table) (c : Char) : Option Entry := table.entries.find? (·.covers c)

def contains (table : Table) (c : Char) : Bool := table.entries.any (·.covers c)

end Table

end ChainClient.Unicode
