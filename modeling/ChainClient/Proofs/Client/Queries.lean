import ChainClient.Client.Query
import ChainClient.Proofs.Client.Operation

/-!
# Queries are careful

Every query checks what it is given before it asks the node, and what goes wrong afterwards is not put down to its input.
-/

namespace ChainClient.Query

open Operation

variable {session : Session}

theorem blameless_decode {codec : Codec} {type : DataType} {bytes : Bytes} :
    Blameless session (Operation.ofExcept (codec.decode type bytes)) := by
  refine failsOnly_ofExcept ?_
  unfold Codec.decode
  split
  · exact failsOnly_error rfl
  · exact failsOnly_mapError fun _ _ => rfl

theorem blameless_unmarshalJson {codec : Codec} {type : DataType} {bytes : Bytes} :
    Blameless session (Operation.ofExcept (codec.unmarshalJson type bytes)) := by
  unfold Codec.unmarshalJson
  split
  · exact blameless_throw rfl
  · exact blameless_decode

theorem blameless_decoded (path : String) (data : Bytes) (type : DataType) : Blameless session (decoded path data type) :=
  (blameless_ask _).bind fun _ => blameless_codec.bind fun _ => blameless_decode

theorem blameless_invoked (path : String) (data : Bytes) (type : DataType) : Blameless session (invoked path data type) :=
  blameless_codec.bind fun _ => (blameless_ask _).bind fun _ => blameless_decode

theorem careful_asked (path : String) (question : JsonType) (value : question.Value) (type : DataType) :
    Careful session (asked path question value type) :=
  silent_codec.bind fun _ => (silent_ofExcept _).bind fun _ =>
    ((blameless_ask _).bind fun _ => blameless_unmarshalJson).careful

theorem careful_askValidators (height : Option Int64) (page perPage : UInt32) :
    Careful session (askValidators height page perPage) :=
  (silent_ofExcept _).bind fun _ => (silent_ofExcept _).bind fun _ => (silent_ofExcept _).bind fun _ =>
    (blameless_ask _).careful

theorem careful_search (query : String) (prove : Bool) (page perPage : UInt32) (order : String) :
    Careful session (search query prove page perPage order) := by
  refine careful_guard _ fun _ => (silent_ofExcept _).bind fun _ => (silent_ofExcept _).bind fun _ => ?_
  split
  · exact (silent_throw _).careful
  · exact (blameless_ask _).careful

/-- The validators of a height that was found good are asked for without further complaint. -/
theorem blameless_askValidators {height : Int64} {checked : UInt32} (h : Params.checkHeight height = .ok checked) :
    Blameless session (askValidators (some height) 1 allValidators) := by
  have hheight : optionalHeight (some height) = .ok (some checked) := by
    rw [optionalHeight, h]
    rfl
  refine (blameless_ofExcept fun e he => ?_).bind fun _ => (blameless_ofExcept fun e he => ?_).bind fun _ =>
    (blameless_ofExcept fun e he => ?_).bind fun _ => blameless_ask _
  · rw [hheight] at he
    cases he
  · cases he
  · cases he

theorem blameless_encoding {α : Type} (result : Except EncodeError α) :
    Blameless session (Operation.ofExcept (result.mapError .encoding)) :=
  failsOnly_ofExcept (failsOnly_mapError fun _ _ => rfl)

/-- No query blames its input once it has asked the node. -/
theorem careful_perform (query : Query) : Careful session query.perform := by
  cases query with
  | account address => exact (silent_ofExcept _).bind fun _ => (blameless_decoded _ _ _).careful
  | validators => exact (blameless_decoded _ _ _).careful
  | validator address => exact (silent_ofExcept _).bind fun _ => (blameless_decoded _ _ _).careful
  | delegator address => exact (silent_ofExcept _).bind fun _ => (blameless_decoded _ _ _).careful
  | stakingParams => exact (blameless_decoded _ _ _).careful
  | proposals depositor voter status limit => exact (silent_ofExcept _).bind fun _ => careful_asked _ _ _ _
  | proposal id => exact (silent_ofExcept _).bind fun _ => careful_asked _ _ _ _
  | token symbol =>
    simp only [perform]
    exact careful_guard _ fun _ => (blameless_decoded _ _ _).careful
  | contractParams => exact (blameless_decoded _ _ _).careful
  | contractCode contract =>
    exact (silent_ofExcept _).bind fun _ => ((blameless_decoded _ _ _).bind fun _ => blameless_encoding _).careful
  | contractStorage contract slot =>
    exact (silent_ofExcept _).bind fun _ => (silent_ofExcept _).bind fun _ =>
      ((blameless_decoded _ _ _).bind fun _ => blameless_encoding _).careful
  | service query => exact (blameless_invoked _ _ _).careful
  | application path data => exact (blameless_ask _).careful
  | block height => exact (silent_ofExcept _).bind fun _ => (blameless_ask _).careful
  | blockResults height => exact (silent_ofExcept _).bind fun _ => (blameless_ask _).careful
  | commit height => exact (silent_ofExcept _).bind fun _ => (blameless_ask _).careful
  | validatorSet height page perPage => exact careful_askValidators height page perPage
  | tx hash prove => exact (silent_ofExcept _).bind fun _ => (blameless_ask _).careful
  | txSearch query prove page perPage order => exact careful_search query prove page perPage order
  | txsByEvents events page limit =>
    exact (silent_ofExcept _).bind fun _ => (silent_ofExcept _).bind fun _ => careful_search _ _ _ _ _
  | txsByConditions conditions page limit =>
    simp only [perform]
    exact careful_guard _ fun _ => (silent_ofExcept _).bind fun _ =>
      (careful_search _ _ _ _ _).bind_blameless fun _ => blameless_pure _
  | header height =>
    simp only [perform]
    refine careful_guard _ fun _ => Careful.ofExcept_bind fun checked hchecked => ?_
    exact ((blameless_ask _).bind fun _ => (blameless_askValidators hchecked).bind fun _ => blameless_pure _).careful

end ChainClient.Query
