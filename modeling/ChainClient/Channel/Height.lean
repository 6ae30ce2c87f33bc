import ChainClient.Text.Blank
import ChainClient.ValueError

/-!
# Heights across revisions

A height counts blocks within a revision of a chain. Heights are ordered by revision first, and a block height of zero stands for no height at all.
-/

namespace ChainClient

attribute [local instance (high + 1)] instPowNat

structure Height where
  revision : UInt64
  block : UInt64
  deriving DecidableEq, Repr

namespace Height

def zero : Height := ⟨0, 0⟩

def isZero (h : Height) : Bool := h.block == 0

/-- A height with a block height other than zero. -/
def make (revision block : UInt64) : Except ValueError Height :=
  if block = 0 then .error (.invalidHeight "0") else .ok ⟨revision, block⟩

def text (h : Height) : String :=
  String.ofList (Text.digits h.revision.toNat ++ '-' :: Text.digits h.block.toNat)

def compare (a b : Height) : Ordering :=
  (Ord.compare a.revision.toNat b.revision.toNat).then (Ord.compare a.block.toNat b.block.toNat)

def parse (text : String) : Except ValueError Height :=
  let read? : Option Height := do
    let (revision, block) ← Text.splitOnce '-' text.toList
    let revision ← Text.readUnsigned? (2 ^ (64 : Nat)) revision
    let block ← Text.readUnsigned? (2 ^ (64 : Nat)) block
    return ⟨UInt64.ofNat revision, UInt64.ofNat block⟩
  match read? with
  | some h => .ok h
  | none => .error (.invalidHeight text)

end Height

end ChainClient
