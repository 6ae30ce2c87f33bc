import ChainClient.Toml.Number
import ChainClient.Toml.Text

/-!
# Reading documents

A document is read line by line: each line holds a heading, a key with its value, a comment or nothing. Arrays may go over several lines, tables in braces may not. What follows a heading goes into its table.
-/

namespace ChainClient.Toml

/-- How many arrays and tables in braces may be open inside each other, and how many keys dots may join. -/
def maxDepth : Nat := 127

/-! ## Values -/

private abbrev Reader (α : Type) := List Char → Option (α × List Char)

/-- A value that is neither an array nor a table. -/
private def scalar? : Reader Item
  | 't' :: 'r' :: 'u' :: 'e' :: cs => some (.boolean true, cs)
  | 'f' :: 'a' :: 'l' :: 's' :: 'e' :: cs => some (.boolean false, cs)
  | cs =>
    match text? cs with
    | some (text, rest) => some (.text (String.ofList text), rest)
    | none => if cs.head? = some '"' ∨ cs.head? = some '\'' then none else moment? cs <|> number? cs

private def skipTrivia : Nat → List Char → List Char
  | 0, cs => cs
  | bound + 1, cs =>
    match newline? (skipComment (skipSpaces cs)) with
    | some rest => skipTrivia bound rest
    | none => skipSpaces cs

/-- The items of an array up to its end; each takes a character, so the bound is never met. -/
private def items? (item? : Reader Item) : Nat → Reader (List Item)
  | 0, _ => none
  | bound + 1, cs =>
    match skipTrivia cs.length cs with
    | ']' :: rest => some ([], rest)
    | cs => do
      let (item, rest) ← item? cs
      match skipTrivia rest.length rest with
      | ',' :: rest =>
        let (items, rest) ← items? item? bound rest
        return (item :: items, rest)
      | ']' :: rest => return ([item], rest)
      | _ => none

private def keyValue? (item? : Reader Item) (cs : List Char) : Option (((List String × String) × Item) × List Char) := do
  let (key, rest) ← dottedKey? maxDepth cs
  let (item, rest) ← item? (skipSpaces (← Text.skip? '=' rest))
  return ((key, item), rest)

/-- The entries of a table in braces after the first one, up to its end. -/
private def entries? (item? : Reader Item) : Nat → Entries → Reader Entries
  | 0, _, _ => none
  | bound + 1, entries, cs => do
    let (((keys, key), item), rest) ← keyValue? item? cs
    let entries ← entries.assign Entries.inBraces keys key item
    match skipSpaces rest with
    | ',' :: rest => entries? item? bound entries rest
    | '\x7d' :: rest => return (entries, rest)
    | _ => none

private def braces? (item? : Reader Item) (cs : List Char) : Option (Item × List Char) :=
  match skipSpaces cs with
  | '\x7d' :: rest => some (.table .braces [], rest)
  | cs => (entries? item? (cs.length + 1) [] cs).map fun (entries, rest) => (.table .braces entries, rest)

/-- A value inside at most so many others. -/
private def item? : Nat → Reader Item
  | depth + 1, '[' :: cs => (items? (item? depth) (cs.length + 1) cs).map fun (items, rest) => (.array items, rest)
  | depth + 1, '\x7b' :: cs => braces? (item? depth) cs
  | _, cs => scalar? cs

/-! ## Lines -/

/-- What comes after the rest of a line: blanks, perhaps a comment, and the line end or the end of the text. -/
private def afterLine? (cs : List Char) : Option (List Char) :=
  match skipComment (skipSpaces cs) with
  | [] => some []
  | cs => newline? cs

/-- A document so far: its entries and the keys of the table that is open. -/
private structure Draft where
  entries : Entries
  heading : List String

/-- Reads a heading and opens its table. -/
private def heading? (draft : Draft) (cs : List Char) : Option (Draft × List Char) := do
  let (repeated, cs) := match cs with
    | '[' :: cs => (true, cs)
    | _ => (false, cs)
  let ((keys, key), rest) ← dottedKey? maxDepth cs
  let rest ← Text.skip? ']' rest
  let rest ← if repeated then Text.skip? ']' rest else some rest
  let entries ← draft.entries.within keys (if repeated then Entries.openElement key else Entries.openTable key)
  return (⟨entries, keys ++ [key]⟩, rest)

/-- Reads a key with its value into the table that is open. -/
private def line? (draft : Draft) (cs : List Char) : Option (Draft × List Char) := do
  let (((keys, key), item), rest) ← keyValue? (item? maxDepth) cs
  let entries ← draft.entries.within draft.heading (Entries.assign Entries.inDocument keys key item)
  return ({ draft with entries }, rest)

/-- Reads lines up to the end; each takes a character, so the bound is never met. -/
private def lines? : Nat → Draft → List Char → Option Entries
  | 0, _, _ => none
  | bound + 1, draft, cs =>
    match skipSpaces cs with
    | [] => some draft.entries
    | '#' :: cs => (afterLine? ('#' :: cs)).bind (lines? bound draft)
    | '\n' :: cs => lines? bound draft cs
    | '\r' :: '\n' :: cs => lines? bound draft cs
    | '[' :: cs => do
      let (draft, rest) ← heading? draft cs
      lines? bound draft (← afterLine? rest)
    | cs => do
      let (draft, rest) ← line? draft cs
      lines? bound draft (← afterLine? rest)

/-- The entries of a document; a mark of the byte order at its start is skipped. -/
def parse? (text : String) : Option Entries :=
  let cs := match text.toList with
    | '\ufeff' :: cs => cs
    | cs => cs
  lines? (cs.length + 1) ⟨[], []⟩ cs

end ChainClient.Toml
