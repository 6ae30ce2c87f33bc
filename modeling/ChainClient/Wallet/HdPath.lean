import ChainClient.Text.Blank
import ChainClient.Text.Number

/-!
# Derivation paths

A path leads from a seed to one key by five numbers: purpose, kind of coin, account, branch and index. The first three are hardened, which their text marks with `'` or `H`.
-/

namespace ChainClient

attribute [local instance (high + 1)] instPowNat

structure HdPath where
  purpose : Nat
  coin : Nat
  account : Nat
  branch : Nat
  index : Nat
  deriving DecidableEq, Repr

namespace HdPath

/-- The first key of an account of this chain. -/
def chainDefault : HdPath := ⟨44, 60, 0, 0, 0⟩

private def number? (cs : List Char) : Option Nat := (Text.readNat? cs).filter (· < 2 ^ (31 : Nat))

private def hardened? (cs : List Char) : Option Nat :=
  match cs.reverse with
  | mark :: rest => if mark = '\'' ∨ mark = 'H' then number? rest.reverse else none
  | [] => none

def parse? (text : String) : Option HdPath :=
  match Text.splitOn '/' text.toList with
  | [root, purpose, coin, account, branch, index] =>
    if root = ['m'] ∨ root = ['M'] then do
      return ⟨← hardened? purpose, ← hardened? coin, ← hardened? account, ← number? branch, ← number? index⟩
    else none
  | _ => none

/-- The numbers of the steps; a hardened one has its highest bit set. -/
def steps (path : HdPath) : List Nat :=
  [2 ^ (31 : Nat) + path.purpose, 2 ^ (31 : Nat) + path.coin, 2 ^ (31 : Nat) + path.account, path.branch, path.index]

end HdPath

end ChainClient
