import ChainClient.Client.Session
import ChainClient.Proofs.Outcome

/-!
# How operations run

An operation is run from a history of calls and adds its own to it. What it does is settled step by step: each way of building an operation has one equation for its run. Three kinds of operations matter for what a node gets to see of bad input: those that make no call, those that never blame their input, and the careful ones, which blame their input only if they have made no call. Careful operations are built from the other two kinds.
-/

namespace ChainClient

/-- The failure is the fault of the arguments, the password or the choice of the key. -/
def ClientError.blamesInput : ClientError → Bool
  | invalidParam _ _ | value _ | emptyPassword | emptyMessages | keyNotFound _ | wrongPassword _ => true
  | _ => false

theorem Node.Failure.blamesInput_clientError (failure : Node.Failure) : failure.clientError.blamesInput = false := by
  cases failure <;> rfl

namespace Operation

variable {α β : Type} {session : Session} {earlier : List Node.Call}

/-- The result of an operation after some calls, and all calls with its own at the end. -/
def runFrom (operation : Operation α) (session : Session) (earlier : List Node.Call) :
    Except ClientError α × List Node.Call :=
  (ReaderT.run operation session).run.run earlier

theorem run_eq (operation : Operation α) (session : Session) : operation.run session = operation.runFrom session [] := rfl

@[simp] theorem runFrom_pure (value : α) : runFrom (pure value) session earlier = (.ok value, earlier) := rfl

@[simp] theorem runFrom_throw (e : ClientError) : runFrom (throw e : Operation α) session earlier = (.error e, earlier) :=
  rfl

@[simp] theorem runFrom_read_bind (next : Session → Operation α) :
    runFrom (read >>= next) session earlier = runFrom (next session) session earlier := rfl

theorem runFrom_bind (operation : Operation α) (next : α → Operation β) :
    runFrom (operation >>= next) session earlier =
      match operation.runFrom session earlier with
      | (.ok value, calls) => (next value).runFrom session calls
      | (.error e, calls) => (.error e, calls) := by
  rcases h : operation.runFrom session earlier with ⟨result, calls⟩
  simp only [runFrom, ReaderT.run_bind, ExceptT.run_bind, StateT.run_bind] at h ⊢
  rw [h]
  cases result <;> rfl

@[simp] theorem runFrom_ofExcept (result : Except ClientError α) :
    runFrom (ofExcept result) session earlier = (result, earlier) := by
  cases result <;> rfl

@[simp] theorem runFrom_ofExcept_bind (result : Except ClientError α) (next : α → Operation β) :
    runFrom (ofExcept result >>= next) session earlier =
      match result with
      | .ok value => (next value).runFrom session earlier
      | .error e => (.error e, earlier) := by
  rw [runFrom_bind, runFrom_ofExcept]
  cases result <;> rfl

@[simp] theorem runFrom_ask (call : Node.Call) : (ask call).runFrom session earlier =
    ((session.node.answer earlier call).mapError Node.Failure.clientError, earlier ++ [call]) := by
  have hask : (ask call).runFrom session earlier =
      (ofExcept ((session.node.answer earlier call).mapError Node.Failure.clientError)).runFrom session
        (earlier ++ [call]) := rfl
  rw [hask, runFrom_ofExcept]

theorem runFrom_ask_bind (call : Node.Call) (next : call.Answer → Operation α) :
    runFrom (ask call >>= next) session earlier =
      match session.node.answer earlier call with
      | .ok answer => (next answer).runFrom session (earlier ++ [call])
      | .error failure => (.error failure.clientError, earlier ++ [call]) := by
  rw [runFrom_bind, runFrom_ask]
  cases session.node.answer earlier call <;> rfl

theorem runFrom_codec : codec.runFrom session earlier =
    ((match session.codec with | some codec => .ok codec | none => .error .noCodec), earlier) := by
  rw [codec, runFrom_read_bind]
  cases session.codec <;> rfl

/-- A computation without calls fails or hands its value on. -/
theorem ofExcept_bind_cases (result : Except ClientError α) (next : α → Operation β) (session : Session)
    (earlier : List Node.Call) :
    (∃ e, runFrom (ofExcept result >>= next) session earlier = (.error e, earlier)) ∨
    ∃ value, result = .ok value ∧
      runFrom (ofExcept result >>= next) session earlier = runFrom (next value) session earlier := by
  rw [runFrom_ofExcept_bind]
  cases result with
  | ok value => exact .inr ⟨value, rfl, rfl⟩
  | error e => exact .inl ⟨e, rfl⟩

theorem codec_bind_cases (next : Codec → Operation α) (session : Session) (earlier : List Node.Call) :
    runFrom (codec >>= next) session earlier = (.error .noCodec, earlier) ∨
    ∃ found, session.codec = some found ∧
      runFrom (codec >>= next) session earlier = runFrom (next found) session earlier := by
  rw [runFrom_bind, runFrom_codec]
  cases session.codec with
  | none => exact .inl rfl
  | some found => exact .inr ⟨found, rfl, rfl⟩

/-! ### Kinds of operations -/

/-- Whatever the operation fails with in this session has the property. -/
def FailsOnly (p : ClientError → Prop) (session : Session) (operation : Operation α) : Prop :=
  ∀ earlier, ChainClient.FailsOnly p (operation.runFrom session earlier).1

/-- Makes no call in this session. -/
def Silent (session : Session) (operation : Operation α) : Prop :=
  ∀ earlier, (operation.runFrom session earlier).2 = earlier

/-- Does not fail in this session through a fault of the input. -/
def Blameless (session : Session) (operation : Operation α) : Prop :=
  ∀ earlier e, (operation.runFrom session earlier).1 = .error e → e.blamesInput = false

/-- Fails through a fault of the input only without a call. -/
def Careful (session : Session) (operation : Operation α) : Prop :=
  ∀ earlier e, (operation.runFrom session earlier).1 = .error e → e.blamesInput →
    (operation.runFrom session earlier).2 = earlier

theorem Silent.careful {operation : Operation α} (h : Silent session operation) : Careful session operation :=
  fun earlier _ _ _ => h earlier

theorem Blameless.careful {operation : Operation α} (h : Blameless session operation) : Careful session operation :=
  fun earlier e he hblames => absurd hblames (by simp [h earlier e he])

theorem silent_throw (e : ClientError) : Silent session (throw e : Operation α) := fun _ => rfl

theorem silent_ofExcept (result : Except ClientError α) : Silent session (ofExcept result) := fun earlier => by
  rw [runFrom_ofExcept]

theorem silent_codec : Silent session codec := fun earlier => by rw [runFrom_codec]

section FailsOnly

variable {p : ClientError → Prop}

theorem failsOnly_pure (value : α) : FailsOnly p session (pure value) := fun _ => failsOnly_ok value

theorem failsOnly_throw {e : ClientError} (h : p e) : FailsOnly p session (throw e : Operation α) := fun _ =>
  failsOnly_error h

theorem failsOnly_ofExcept {result : Except ClientError α} (h : ChainClient.FailsOnly p result) :
    FailsOnly p session (ofExcept result) := by
  intro earlier
  rw [runFrom_ofExcept]
  exact h

/-- A node only fails in ways of its own. -/
theorem failsOnly_ask (h : ∀ failure : Node.Failure, p failure.clientError) (call : Node.Call) :
    FailsOnly p session (ask call) := by
  intro earlier
  rw [runFrom_ask]
  exact failsOnly_mapError fun failure _ => h failure

theorem FailsOnly.bind {operation : Operation α} {next : α → Operation β} (h : FailsOnly p session operation)
    (hnext : ∀ value, FailsOnly p session (next value)) : FailsOnly p session (operation >>= next) := by
  intro earlier
  rw [runFrom_bind]
  have hfirst := h earlier
  generalize operation.runFrom session earlier = out at hfirst ⊢
  obtain ⟨result, calls⟩ := out
  cases result with
  | ok value => exact hnext value calls
  | error cause => exact failsOnly_error (hfirst cause rfl)

/-- A computation without calls whose outcome is known. -/
theorem failsOnly_ofExcept_bind {result : Except ClientError α} {next : α → Operation β}
    (h : ChainClient.FailsOnly p result) (hnext : ∀ value, result = .ok value → FailsOnly p session (next value)) :
    FailsOnly p session (ofExcept result >>= next) := by
  cases result with
  | ok value => exact hnext value rfl
  | error cause => exact failsOnly_throw (h cause rfl)

theorem failsOnly_codec_bind {found : Codec} {next : Codec → Operation α} (hcodec : session.codec = some found)
    (h : FailsOnly p session (next found)) : FailsOnly p session (codec >>= next) := by
  intro earlier
  rw [runFrom_bind, runFrom_codec, hcodec]
  exact h earlier

theorem failsOnly_read_bind {next : Session → Operation α} (h : FailsOnly p session (next session)) :
    FailsOnly p session (read >>= next) := fun earlier => h earlier

end FailsOnly

theorem blameless_pure (value : α) : Blameless session (pure value) := failsOnly_pure value

theorem blameless_throw {e : ClientError} (h : e.blamesInput = false) : Blameless session (throw e : Operation α) :=
  failsOnly_throw h

theorem blameless_ofExcept {result : Except ClientError α} (h : ∀ e, result = .error e → e.blamesInput = false) :
    Blameless session (ofExcept result) :=
  failsOnly_ofExcept h

theorem blameless_codec : Blameless session codec := by
  intro earlier e he
  rw [runFrom_codec] at he
  cases hcodec : session.codec with
  | none =>
    rw [hcodec] at he
    cases he
    rfl
  | some found =>
    rw [hcodec] at he
    cases he

theorem blameless_ask (call : Node.Call) : Blameless session (ask call) :=
  failsOnly_ask Node.Failure.blamesInput_clientError call

theorem Blameless.bind {operation : Operation α} {next : α → Operation β} (h : Blameless session operation)
    (hnext : ∀ value, Blameless session (next value)) : Blameless session (operation >>= next) :=
  FailsOnly.bind h hnext

/-- What follows an operation without calls may look at the input as well. -/
theorem Silent.bind {operation : Operation α} {next : α → Operation β} (h : Silent session operation)
    (hnext : ∀ value, Careful session (next value)) : Careful session (operation >>= next) := by
  intro earlier e he hblames
  rw [runFrom_bind] at he ⊢
  have hsilent := h earlier
  generalize operation.runFrom session earlier = out at he hsilent ⊢
  obtain ⟨result, calls⟩ := out
  cases hsilent
  cases result with
  | ok value => exact hnext value _ e he hblames
  | error cause => rfl

theorem Careful.bind_blameless {operation : Operation α} {next : α → Operation β} (h : Careful session operation)
    (hnext : ∀ value, Blameless session (next value)) : Careful session (operation >>= next) := by
  intro earlier e he hblames
  rw [runFrom_bind] at he ⊢
  have hcareful := h earlier
  generalize operation.runFrom session earlier = out at he hcareful ⊢
  obtain ⟨result, calls⟩ := out
  cases result with
  | ok value => exact absurd hblames (by simp [hnext value calls e he])
  | error cause => exact hcareful cause rfl (by cases he; exact hblames)

/-- A computation without calls whose outcome is known. -/
theorem Careful.ofExcept_bind {result : Except ClientError α} {next : α → Operation β}
    (h : ∀ value, result = .ok value → Careful session (next value)) : Careful session (ofExcept result >>= next) := by
  cases result with
  | ok value => exact h value rfl
  | error cause => exact (silent_throw cause).careful

/-- A check in front of an operation. -/
theorem careful_guard {condition : Prop} [Decidable condition] (e : ClientError) {next : PUnit → Operation α}
    (h : ¬ condition → Careful session (next ⟨⟩)) :
    Careful session (if condition then (throw e : Operation PUnit) >>= next else next ⟨⟩) := by
  split
  · intro earlier e' _ _
    rw [runFrom_bind, runFrom_throw]
  · rename_i hcondition
    exact h hcondition

end Operation

end ChainClient
