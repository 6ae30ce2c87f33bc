import ChainClient.Proofs.Encoding.Hex
import ChainClient.Tx.Outcome

/-!
# What a response tells

A transaction is checked and may then be delivered. The check decides if it failed or if there is no delivery, and the delivery decides otherwise. A response tells what the deciding phase says and nothing that another phase says, so it reports a success only if no phase failed.
-/

namespace ChainClient

/-- What a phase says about a transaction, apart from its events. -/
structure Phase where
  code : UInt32
  codespace : String
  data : Bytes
  log : String
  info : String
  gasWanted : Int64
  gasUsed : Int64
  deriving DecidableEq

def Node.Execution.phase (e : Node.Execution) : Phase :=
  ⟨e.code, e.codespace, e.data, e.log, e.info, e.gasWanted, e.gasUsed⟩

/-- All that is said about a transaction that was broadcast. -/
structure Verdict where
  check : Phase
  delivery : Option Phase
  hash : String
  height : Int64
  deriving DecidableEq

def Node.BroadcastResult.verdict (result : Node.BroadcastResult) : Verdict where
  check := result.check.phase
  delivery := result.delivery.map Node.Execution.phase
  hash := result.hash
  height := result.height

namespace Verdict

/-- No phase failed. -/
def IsSuccess (verdict : Verdict) : Prop :=
  verdict.check.code = 0 ∧ ∀ delivery ∈ verdict.delivery, delivery.code = 0

/-- The phase that decides. -/
inductive Decided (verdict : Verdict) : Phase → Prop
  | failedCheck (hcheck : verdict.check.code ≠ 0) : Decided verdict verdict.check
  | delivered {delivery : Phase} (hcheck : verdict.check.code = 0) (hdelivery : verdict.delivery = some delivery) :
      Decided verdict delivery
  | onlyChecked (hcheck : verdict.check.code = 0) (hdelivery : verdict.delivery = none) : Decided verdict verdict.check

theorem Decided.code_eq_zero_iff {verdict : Verdict} {phase : Phase} (h : verdict.Decided phase) :
    phase.code = 0 ↔ verdict.IsSuccess := by
  cases h with
  | failedCheck hcheck => exact iff_of_false hcheck fun hsuccess => hcheck hsuccess.1
  | delivered hcheck hdelivery => simp [IsSuccess, hcheck, hdelivery]
  | onlyChecked hcheck hdelivery => simp [IsSuccess, hcheck, hdelivery]

end Verdict

theorem Node.BroadcastResult.decided_decisive (result : Node.BroadcastResult) :
    result.verdict.Decided result.decisive.phase := by
  rw [decisive]
  cases hdelivery : result.delivery with
  | none =>
    have hnone : result.verdict.delivery = none := by rw [verdict, hdelivery, Option.map_none]
    by_cases hcheck : result.check.code = 0
    · exact .onlyChecked hcheck hnone
    · exact .failedCheck hcheck
  | some delivery =>
    have hsome : result.verdict.delivery = some delivery.phase := by rw [verdict, hdelivery, Option.map_some]
    by_cases hcheck : result.check.code = 0
    · simp only [hcheck, if_true]
      exact .delivered hcheck hsome
    · simp only [hcheck, if_false]
      exact .failedCheck hcheck

namespace TxResponse

/-- The response holds what one phase says, with its data in hexadecimal. -/
structure Tells (response : TxResponse) (phase : Phase) : Prop where
  code : response.code = phase.code
  codespace : response.codespace = phase.codespace
  data : Hex.decode response.data = .ok phase.data
  log : response.log = phase.log
  info : response.info = phase.info
  gasWanted : response.gasWanted = phase.gasWanted
  gasUsed : response.gasUsed = phase.gasUsed

/-- The response to a broadcast in a mode holds what was said about the transaction. -/
structure Reports (response : TxResponse) (mode : BroadcastMode) (verdict : Verdict) : Prop where
  /-- No failure is reported as a success, and no success as a failure. -/
  success : response.code = 0 ↔ verdict.IsSuccess
  /-- Nothing is mixed from two phases. -/
  phase : ∃ phase, verdict.Decided phase ∧ response.Tells phase
  hash : response.hash = verdict.hash
  height : response.height = verdict.height
  mode : response.mode = some mode

theorem tells_ofBroadcast (result : Node.BroadcastResult) (mode : BroadcastMode) :
    (ofBroadcast result mode).Tells result.decisive.phase := by
  refine ⟨rfl, rfl, ?_, rfl, rfl, rfl, rfl⟩
  exact Hex.decode_encodeUpper result.decisive.data

theorem reports_ofBroadcast (result : Node.BroadcastResult) (mode : BroadcastMode) :
    (ofBroadcast result mode).Reports mode result.verdict := by
  have hdecided := result.decided_decisive
  exact ⟨hdecided.code_eq_zero_iff, ⟨_, hdecided, tells_ofBroadcast result mode⟩, rfl, rfl, rfl⟩

end TxResponse

end ChainClient
