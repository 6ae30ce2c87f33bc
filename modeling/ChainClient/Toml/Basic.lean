import ChainClient.Number.Binary64

/-!
# TOML documents

A document is a table of items under keys. Where a table comes from decides who may still add to it: a table that only stands on the way to another one may get a heading of its own later, a table of dotted keys takes further dotted keys, and a table under a heading or in braces is complete once its text ends. Between braces dotted keys may add to every table that is there already. Each way to add an item fails where the key is taken.
-/

namespace ChainClient.Toml

inductive Origin where
  /-- It stands in front of the last key of a heading. -/
  | implied
  /-- It stands in front of the last of some dotted keys. -/
  | dotted
  | heading
  | braces
  deriving DecidableEq, Repr

inductive Item where
  | text (value : String)
  | integer (value : Int)
  | double (value : Binary64)
  | boolean (value : Bool)
  /-- A date, a time or both. -/
  | moment
  | array (items : List Item)
  | table (origin : Origin) (entries : List (String × Item))
  /-- The tables under a repeated heading, the latest first. -/
  | tables (elements : List (List (String × Item)))
  deriving Repr

abbrev Entries := List (String × Item)

namespace Entries

def find? (entries : Entries) (key : String) : Option Item := entries.lookup key

/-- Changes what stands under a key, or puts something there. -/
def alter (key : String) (change : Option Item → Option Item) : Entries → Option Entries
  | [] => (change none).map fun item => [(key, item)]
  | (k, item) :: rest =>
    if k = key then (change (some item)).map fun item => (k, item) :: rest
    else (alter key change rest).map ((k, item) :: ·)

/-- Changes the table under some keys. Tables on the way are made where there are none; of repeated tables the latest is meant. -/
def within : List String → (Entries → Option Entries) → Entries → Option Entries
  | [], change, entries => change entries
  | key :: keys, change, entries =>
    alter key
      (fun
        | none => (within keys change []).map (Item.table .implied)
        | some (.table origin inner) =>
          if origin = .braces then none else (within keys change inner).map (Item.table origin)
        | some (.tables (latest :: others)) => (within keys change latest).map fun es => .tables (es :: others)
        | some _ => none)
      entries

def openTable (key : String) : Entries → Option Entries :=
  alter key fun
    | none => some (.table .heading [])
    | some (.table .implied inner) => some (.table .heading inner)
    | some _ => none

/-- Opens a further table under a repeated heading. -/
def openElement (key : String) : Entries → Option Entries :=
  alter key fun
    | none => some (.tables [[]])
    | some (.tables elements) => some (.tables ([] :: elements))
    | some _ => none

/-- Which tables dotted keys may pass. -/
structure Passage where
  /-- The tables on the way that may be passed. -/
  passes : Origin → Bool
  /-- The last table, the one that takes the item. -/
  takes : Origin → Bool

/-- Puts an item under dotted keys. -/
def assign (passage : Passage) : List String → String → Item → Entries → Option Entries
  | [], key, item, entries =>
    alter key
      (fun
        | none => some item
        | some _ => none)
      entries
  | first :: keys, key, item, entries =>
    alter first
      (fun
        | none => (assign passage keys key item []).map (Item.table .dotted)
        | some (.table origin inner) =>
          if passage.passes origin ∧ (keys.isEmpty → passage.takes origin) then
            (assign passage keys key item inner).map (Item.table origin)
          else none
        | some (.tables (latest :: others)) =>
          if keys.isEmpty then none else (assign passage keys key item latest).map fun es => .tables (es :: others)
        | some _ => none)
      entries

/-- In a document dotted keys pass what has no heading, and add to tables of dotted keys only. -/
def inDocument : Passage := ⟨fun origin => origin == .implied || origin == .dotted, fun origin => origin == .dotted⟩

/-- Between braces dotted keys pass and add to any table. -/
def inBraces : Passage := ⟨fun _ => true, fun _ => true⟩

end Entries

end ChainClient.Toml
