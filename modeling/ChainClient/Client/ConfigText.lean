import ChainClient.Client.Config
import ChainClient.Toml.Reader

/-!
# Settings in a file

The settings are the entries of a TOML document. The node and the chain must be there; what else is missing takes a default, and entries of other names are passed over.
-/

namespace ChainClient.ConfigFile

open Toml

/-- An entry that must have the right kind where it is there. -/
private def entry {α : Type} (entries : Entries) (key : String) (read? : Item → Option α) (default : Option α) :
    Option α :=
  match entries.find? key with
  | some item => read? item
  | none => default

private def text? : Item → Option String
  | .text value => some value
  | _ => none

private def gas? : Item → Option UInt64
  | .integer value => if 0 ≤ value then some (UInt64.ofNat value.toNat) else none
  | _ => none

/-- A double, or an integer as the double next to it. -/
private def double? : Item → Option Binary64
  | .double value => some value
  | .integer value => some (Binary64.ofDecimal (value < 0) value.natAbs 0)
  | _ => none

/-- Whether an item is a table with nothing in it. -/
private def isVoid : Item → Bool
  | .table _ [] => true
  | _ => false

/-- A mode by its name, or as the one key of a table with an empty table under it. -/
private def mode? : Item → Option BroadcastMode
  | .text name => BroadcastMode.parse? name
  | .table _ [(name, item)] => if isVoid item then BroadcastMode.parse? name else none
  | _ => none

def ofEntries? (entries : Entries) : Option ConfigFile := do
  let nodeUri ← entry entries "node_uri" text? none
  let chainId ← entry entries "chain_id" text? none
  let mode ← entry entries "broadcast_mode" mode? (some .sync)
  let fees ← entry entries "fees" text? (some "")
  let gas ← entry entries "gas" gas? (some 0)
  let gasAdjustment ← entry entries "gas_adjustment" double? (some Binary64.one)
  let gasPrices ← entry entries "gas_prices" text? (some "")
  return { nodeUri, chainId, mode, fees, gas, gasAdjustment, gasPrices }

/-- Reads the content of the file at a path, if there is such a file. -/
def read (path : String) (content : Option Bytes) : Except FileError ConfigFile := do
  let some bytes := content | throw (.cannotOpen path)
  let some text := Bytes.toText? bytes | throw (.cannotRead path)
  if Text.blank text then throw (.empty path)
  match (Toml.parse? text).bind ofEntries? with
  | some file => return file
  | none => throw (.malformed path)

end ChainClient.ConfigFile

namespace ChainClient

/-- The settings in the file at a path. -/
def ClientConfig.load (path : String) (content : Option Bytes) : Except ClientError ClientConfig := do
  let file ← (ConfigFile.read path content).mapError .loadConfig
  ClientConfig.ofFile file

end ChainClient
