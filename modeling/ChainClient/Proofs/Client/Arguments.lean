import ChainClient.Client.Query
import ChainClient.Client.Transaction
import ChainClient.Proofs.Client.Operation

/-!
# Arguments that are refused

Every check of an argument that fails blames the input and nothing else, and so does a request that does not become a message and a keyring that does not hand out a key.
-/

namespace ChainClient

/-- Whatever the computation fails with is a fault of the input. -/
abbrev BlamesInput {α : Type} (result : Except ClientError α) : Prop := FailsOnly (fun e => e.blamesInput = true) result

namespace Params

theorem blamesInput_mapError_value {α ε : Type} (result : Except ε α) (f : ε → ValueError) :
    BlamesInput (result.mapError fun e => .value (f e)) := failsOnly_mapError fun _ _ => rfl

theorem blamesInput_checkKey (key : KeyInfo) (password : String) : BlamesInput (checkKey key password) :=
  failsOnly_guard rfl fun _ => failsOnly_guard rfl fun _ => failsOnly_ok _

theorem blamesInput_checkCoin (text : String) : BlamesInput (checkCoin text) := blamesInput_mapError_value _ id

theorem blamesInput_checkCoins (text : String) : BlamesInput (checkCoins text) :=
  (blamesInput_mapError_value _ id).bind fun _ _ => failsOnly_guard rfl fun _ => failsOnly_ok _

theorem blamesInput_checkAccount (name text : String) : BlamesInput (checkAccount name text) :=
  failsOnly_guard rfl fun _ => blamesInput_mapError_value _ id

theorem blamesInput_checkValidator (text : String) : BlamesInput (checkValidator text) :=
  failsOnly_guard rfl fun _ => blamesInput_mapError_value _ id

theorem blamesInput_checkValidators (texts : List String) : BlamesInput (checkValidators texts) := by
  refine failsOnly_guard rfl fun _ => (failsOnly_mapM fun _ _ => blamesInput_mapError_value _ id).bind fun addresses _ => ?_
  cases repeated? [] (addresses.zip texts) with
  | some text => exact failsOnly_error rfl
  | none => exact failsOnly_ok addresses

theorem blamesInput_checkProposal (id : UInt64) : BlamesInput (checkProposal id) :=
  failsOnly_guard rfl fun _ => failsOnly_ok _

theorem blamesInput_checkPage (page limit : UInt32) : BlamesInput (checkPage page limit) :=
  failsOnly_guard rfl fun _ => failsOnly_guard rfl fun _ => failsOnly_ok _

theorem blamesInput_checkPositive (name : String) (value : UInt32) : BlamesInput (checkPositive name value) :=
  failsOnly_guard rfl fun _ => failsOnly_ok _

theorem blamesInput_checkHeight (height : Int64) : BlamesInput (checkHeight height) :=
  failsOnly_guard rfl fun _ => failsOnly_guard rfl fun _ => failsOnly_ok _

theorem blamesInput_checkFixedHex (name : String) (length : Nat) (text : String) :
    BlamesInput (checkFixedHex name length text) := by
  rw [checkFixedHex]
  cases fixedHex? length text with
  | some bytes => exact failsOnly_ok bytes
  | none => exact failsOnly_error rfl

theorem blamesInput_eventsQuery (events : String) : BlamesInput (eventsQuery events) := by
  refine failsOnly_guard rfl fun _ => (failsOnly_mapM fun pair _ => ?_).bind fun _ _ => failsOnly_ok _
  split
  · exact failsOnly_error rfl
  · exact failsOnly_guard rfl fun _ => failsOnly_ok _

end Params

/-! ### Queries and requests -/

namespace Query

theorem blamesInput_optionalHeight (height : Option Int64) : BlamesInput (optionalHeight height) := by
  cases height with
  | none => exact failsOnly_ok none
  | some height => exact (Params.blamesInput_checkHeight height).map some

theorem blamesInput_optionalAccount (name text : String) : BlamesInput (optionalAccount name text) := by
  rw [optionalAccount]
  split
  · exact failsOnly_ok none
  · exact (Params.blamesInput_checkAccount name text).map some

theorem blamesInput_proposalFilter (depositor voter status : String) (limit : UInt64) :
    BlamesInput (proposalFilter depositor voter status limit) := by
  refine (blamesInput_optionalAccount _ _).bind fun _ _ => (blamesInput_optionalAccount _ _).bind fun _ _ => ?_
  dsimp only
  split
  · exact failsOnly_ok _
  · exact (Params.blamesInput_mapError_value _ id).bind fun _ _ => failsOnly_ok _

end Query

/-- A request that does not become a message is at fault itself. -/
theorem TxRequest.blamesInput_message (author : KeyInfo) (request : TxRequest) : BlamesInput (request.message author) := by
  cases request with
  | deposit coin => exact (Params.blamesInput_checkCoin coin).bind fun _ _ => failsOnly_ok _
  | withdraw coin => exact (Params.blamesInput_checkCoin coin).bind fun _ _ => failsOnly_ok _
  | addShares validators => exact (Params.blamesInput_checkValidators validators).bind fun _ _ => failsOnly_ok _
  | bindProxy proxy => exact (Params.blamesInput_checkAccount _ proxy).bind fun _ _ => failsOnly_ok _
  | createValidator publicKey description =>
    exact (Params.blamesInput_mapError_value _ id).bind fun _ _ =>
      (Params.blamesInput_checkCoin _).bind fun _ _ => failsOnly_ok _
  | submitTextProposal title description coins =>
    exact (Params.blamesInput_checkCoins coins).bind fun _ _ => failsOnly_ok _
  | depositToProposal proposal coins =>
    exact (Params.blamesInput_checkProposal proposal).bind fun _ _ =>
      (Params.blamesInput_checkCoins coins).bind fun _ _ => failsOnly_ok _
  | vote proposal option =>
    exact (Params.blamesInput_checkProposal proposal).bind fun _ _ =>
      (Params.blamesInput_mapError_value _ id).bind fun _ _ => failsOnly_ok _
  | send receiver coins =>
    exact (Params.blamesInput_checkAccount _ receiver).bind fun _ _ =>
      (Params.blamesInput_checkCoins coins).bind fun _ _ => failsOnly_ok _
  | transfer channel receiver coin timeoutHeight =>
    exact (Params.blamesInput_mapError_value _ ValueError.identifier).bind fun _ _ =>
      (Params.blamesInput_checkCoin coin).bind fun _ _ =>
        (Params.blamesInput_mapError_value _ id).bind fun _ _ => failsOnly_ok _
  | registerProxy | unregisterProxy | unbindProxy | editValidator _ | destroyValidator | unjail | multiSend _ =>
    exact failsOnly_ok _

/-! ### Keys -/

theorem Keyring.blamesInput_unlocked (ring : Keyring) (name password : String) :
    BlamesInput (ring.unlocked name password) := by
  rw [Keyring.unlocked]
  cases ring.find? name with
  | none => exact failsOnly_error rfl
  | some key =>
    dsimp only
    split
    · exact failsOnly_ok key
    · exact failsOnly_error rfl

theorem Keyring.blamesInput_unlock (ring : Keyring) (name password : String) : BlamesInput (ring.unlock name password) :=
  (ring.blamesInput_unlocked name password).map _

theorem Keyring.blamesInput_sign (ring : Keyring) (name password : String) (message : Bytes) :
    BlamesInput (ring.sign name password message) :=
  (ring.blamesInput_unlocked name password).map _

end ChainClient
