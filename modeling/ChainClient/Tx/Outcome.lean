import ChainClient.Encoding.Hex
import ChainClient.Node.Basic

/-!
# What became of a transaction

A broadcast is judged by its delivery when the node waited for it and the check before it succeeded, and by the check otherwise.
-/

namespace ChainClient

/-- The phase that decides. -/
def Node.BroadcastResult.decisive (result : Node.BroadcastResult) : Node.Execution :=
  match result.delivery with
  | some delivery => if result.check.code = 0 then delivery else result.check
  | none => result.check

def TxResponse.ofBroadcast (result : Node.BroadcastResult) (mode : BroadcastMode) : TxResponse :=
  let phase := result.decisive
  { height := result.height, hash := result.hash, codespace := phase.codespace, code := phase.code,
    data := Hex.encodeUpper phase.data, log := phase.log, info := phase.info, gasWanted := phase.gasWanted,
    gasUsed := phase.gasUsed, mode := some mode }

end ChainClient
