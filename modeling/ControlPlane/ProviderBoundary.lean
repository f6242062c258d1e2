import ControlPlane.FailureClassification

/-!
The boundary between the orchestrator and the provider service. The service
maps what its adapter throws to a gRPC status, the channel delivers that status
or one of its own, and the client maps what it gets back to a transport
failure. Each half keeps the promise it documents for the statuses the other
half sets; a status of any other origin is read as a refusal.
-/
namespace ControlPlane.ProviderBoundary
open ControlPlane.Programs ControlPlane.Programs.Program ControlPlane.Domain ControlPlane.Commands
open ControlPlane.WorkflowSchema ControlPlane.ProviderPort ControlPlane.LifecycleWorkflow
open ControlPlane.Transitions ControlPlane.FailureClassification ControlPlane.EventValidation

/-! ### The two halves -/

/-- The statuses that a failed call can end with. -/
inductive GrpcStatus
  | cancelled
  | unknown
  | invalidArgument
  | deadlineExceeded
  | notFound
  | alreadyExists
  | permissionDenied
  | resourceExhausted
  | failedPrecondition
  | aborted
  | outOfRange
  | unimplemented
  | internal
  | unavailable
  | dataLoss
  | unauthenticated
  deriving DecidableEq, Repr

structure RpcException where
  code : GrpcStatus
  message : String
  deriving DecidableEq, Repr

/-- What the handler of a call can throw: a status of its own, a transport
    failure of the adapter, or anything else. -/
inductive Thrown
  | rpc (exception : RpcException)
  | transport (error : ProviderTransportError)
  | unclassified (message : String)
  deriving DecidableEq, Repr

/-- Maps a provider failure onto a gRPC status. -/
def rpcError : Thrown → RpcException
  | .rpc exception => exception
  | .transport error =>
    { code := match error.code with
        | .aborted => .cancelled
        | .deadlineExceeded => .deadlineExceeded
        | .protocolError => .failedPrecondition
        | .unavailable => .unavailable,
      message := error.message }
  | .unclassified _ => ⟨.internal, "Internal provider error."⟩

/-- A failed call as its client sees it. -/
structure ServiceError where
  code : GrpcStatus
  details : String
  deriving DecidableEq, Repr

/-- Classifies a gRPC failure. -/
def transportError (error : ServiceError) : ProviderTransportError :=
  let code : ProviderTransportErrorCode :=
    if error.code = .deadlineExceeded then .deadlineExceeded
    else if error.code = .cancelled then .aborted
    else if error.code = .unavailable then .unavailable
    else .protocolError
  { code := code, message := if error.details = "" then "Provider gRPC call failed." else error.details,
    retryable := code ≠ .protocolError }

/-- What the transport does with one call: which responses the server can
    encode, with what details it reports one that it cannot, and the status that
    the channel ends the call with by itself, if it does. -/
structure Channel (Response : Type) where
  encodes : Response → Bool
  unencoded : String
  own : Option ServiceError

section
variable {Response : Type} (channel : Channel Response) (outcome : Except Thrown Response)

/-- What a call delivers: the status or response of the service, or a status of
    the channel. A response that cannot be encoded becomes an internal error. -/
def deliver : Except ServiceError Response :=
  match channel.own with
  | some error => .error error
  | none =>
    match outcome with
    | .error thrown => .error ⟨(rpcError thrown).code, (rpcError thrown).message⟩
    | .ok response => if channel.encodes response then .ok response else .error ⟨.internal, channel.unencoded⟩

/-- What the orchestrator gets from a call. -/
def invoke : Except ProviderTransportError Response := (deliver channel outcome).mapError transportError

/-! ### The contract -/

/-- At a mutation stage the failure is reviewed by a human. -/
def Reviewed (error : ProviderTransportError) : Prop :=
  ∀ (around : Surroundings) (workflow : ClaimedWorkflow) (ended : Except WorkflowError StoreWrite),
    workflow.stage ∈ mutationStages workflow.action → handleProviderError around workflow error = finished ended →
      EndsAs .manualReview ended

/-- What the adapter says about its failure arrives, and nothing else is taken
    for its refusal. -/
structure Survives : Prop where
  refused : ∀ error, invoke channel outcome = .error error → error.code = .protocolError →
    ∃ thrown, outcome = .error (.transport thrown) ∧ thrown.code = .protocolError
  arrives : ∀ thrown, channel.own = none → outcome = .error (.transport thrown) →
    ∃ error, invoke channel outcome = .error error ∧ error.code = thrown.code ∧ error.retryable = thrown.retryable
  others : ∀ error, invoke channel outcome = .error error →
    (channel.own.isSome = true ∨ ∀ thrown, outcome ≠ .error (.transport thrown)) → Reviewed error

/-- The statuses that say nothing about the outcome. -/
def leavesOpen : GrpcStatus → Bool
  | .cancelled | .deadlineExceeded | .unavailable => true
  | _ => false

/-- The failures that the two halves agree on. -/
def Agreed : Prop :=
  match channel.own, outcome with
  | some own, _ => leavesOpen own.code = true
  | none, .error (.rpc exception) => leavesOpen exception.code = true
  | none, .error (.transport thrown) => thrown.retryable = decide (thrown.code ≠ .protocolError)
  | none, .error (.unclassified _) => False
  | none, .ok response => channel.encodes response = true

end

/-! ### The theorem -/

theorem transportError_code (error : ServiceError) :
    (transportError error).code = .protocolError ↔ leavesOpen error.code = false := by
  obtain ⟨code, details⟩ := error
  cases code <;> simp [transportError, leavesOpen]

/-- A failure is reviewed exactly when it is no refusal. -/
theorem reviewed_iff {error : ProviderTransportError} : Reviewed error ↔ error.code ≠ .protocolError := by
  constructor
  · intro reviewed code
    let workflow : ClaimedWorkflow := claimedAt samplePower .submittingPower
    have mutation : workflow.stage ∈ mutationStages workflow.action := by decide
    obtain ⟨ended, ends⟩ : ∃ ended, handleProviderError sampleAround workflow error = finished ended :=
      handleProviderError_finished error
    have review := reviewed sampleAround workflow ended mutation ends
    cases handleProviderError_verdict ends with
    | unknown _ other _ => exact other code
    | waits => exact goesOn_not_failed goesOn_checkpoint review
    | defect => exact goesOn_not_failed goesOn_error review
    | exhausted => exact absurd review (not_endsAs rfl (by decide))
    | failed _ _ status => exact absurd review (not_endsAs (congrArg some status) (by decide))
  · intro other around workflow ended mutation ends
    cases handleProviderError_verdict ends with
    | unknown _ _ status => exact ⟨_, rfl, congrArg some status⟩
    | waits safe => exact absurd (safe mutation) other
    | defect safe => exact absurd (safe mutation) other
    | exhausted safe => exact absurd (safe mutation) other
    | failed safe => exact absurd (safe mutation) other

section
variable {Response : Type} {channel : Channel Response} {outcome : Except Thrown Response}

/-- What the delivery of a failure leaves of it. -/
theorem invoke_failed {failed : ServiceError} (delivered : deliver channel outcome = .error failed) :
    invoke channel outcome = .error (transportError failed) := by
  rw [invoke, delivered]
  rfl

/-- A failure that is no refusal of the adapter survives when its status leaves
    the outcome open, and only then. -/
theorem survives_other {failed : ServiceError} (delivered : deliver channel outcome = .error failed)
    (other : channel.own.isSome = true ∨ ∀ thrown, outcome ≠ .error (.transport thrown)) :
    Survives channel outcome ↔ leavesOpen failed.code = true := by
  have received := invoke_failed delivered
  constructor
  · intro survives
    by_contra closed
    have refused := (transportError_code failed).mpr (by simpa using closed)
    exact reviewed_iff.mp (survives.others _ received other) refused
  · intro unresolved
    have open_ : (transportError failed).code ≠ .protocolError := by
      intro refused
      rw [(transportError_code failed).mp refused] at unresolved
      cases unresolved
    refine ⟨fun error same refused => ?_, fun thrown unbroken threw => ?_, fun error same _ => ?_⟩
    · rw [received] at same
      cases same
      exact absurd refused open_
    · rcases other with broken | untransported
      · rw [unbroken] at broken
        cases broken
      · exact absurd threw (untransported thrown)
    · rw [received] at same
      cases same
      exact reviewed_iff.mpr open_

/-- The code of the adapter arrives; its flag arrives when it is the default. -/
theorem survives_transport {thrown : ProviderTransportError} (unbroken : channel.own = none)
    (threw : outcome = .error (.transport thrown)) :
    Survives channel outcome ↔ thrown.retryable = decide (thrown.code ≠ .protocolError) := by
  have delivered : deliver channel outcome =
      .error ⟨(rpcError (.transport thrown)).code, (rpcError (.transport thrown)).message⟩ := by
    simp only [deliver, unbroken, threw]
  have received := invoke_failed delivered
  have code : (transportError ⟨(rpcError (.transport thrown)).code, (rpcError (.transport thrown)).message⟩).code =
      thrown.code := by
    obtain ⟨code, message, retryable⟩ := thrown
    cases code <;> rfl
  have flag : (transportError ⟨(rpcError (.transport thrown)).code, (rpcError (.transport thrown)).message⟩).retryable =
      decide (thrown.code ≠ .protocolError) := by
    rw [← code]
    rfl
  constructor
  · intro survives
    obtain ⟨error, same, -, kept⟩ := survives.arrives thrown unbroken threw
    rw [received] at same
    cases same
    rw [← kept, flag]
  · intro default
    refine ⟨fun error same refused => ?_, fun other _ same => ?_, fun error _ other => ?_⟩
    · rw [received] at same
      cases same
      exact ⟨thrown, threw, code ▸ refused⟩
    · rw [threw] at same
      cases same
      exact ⟨_, received, code, flag.trans default.symm⟩
    · rcases other with broken | untransported
      · rw [unbroken] at broken
        cases broken
      · exact absurd threw (untransported thrown)

/-- What becomes of a failure is what the adapter said of it exactly for the
    failures that the two halves agree on. -/
theorem survives_iff : Survives channel outcome ↔ Agreed channel outcome := by
  obtain ⟨encodes, unencoded, own⟩ := channel
  cases own with
  | some own =>
    have delivered : deliver ⟨encodes, unencoded, some own⟩ outcome = .error own := rfl
    exact survives_other delivered (.inl rfl)
  | none =>
    cases outcome with
    | error thrown =>
      have delivered : deliver ⟨encodes, unencoded, none⟩ (.error thrown : Except Thrown Response) =
          .error ⟨(rpcError thrown).code, (rpcError thrown).message⟩ := rfl
      cases thrown with
      | rpc exception => exact survives_other delivered (.inr fun _ impossible => by cases impossible)
      | transport error => exact survives_transport rfl rfl
      | unclassified message =>
        rw [survives_other delivered (.inr fun _ impossible => by cases impossible)]
        exact iff_of_false Bool.false_ne_true id
    | ok response =>
      have other : ∀ thrown, (.ok response : Except Thrown Response) ≠ .error (.transport thrown) :=
        fun _ impossible => nomatch impossible
      cases encoded : encodes response with
      | false =>
        have delivered : deliver ⟨encodes, unencoded, none⟩ (.ok response) = .error ⟨.internal, unencoded⟩ := by
          simp [deliver, encoded]
        rw [survives_other delivered (.inr other)]
        exact iff_of_false Bool.false_ne_true (by simp [Agreed, encoded])
      | true =>
        have received : invoke ⟨encodes, unencoded, none⟩ (.ok response) = .ok response := by
          simp [invoke, deliver, encoded, Except.mapError]
        refine iff_of_true ⟨fun error same _ => ?_, fun thrown _ same => ?_, fun error same _ => ?_⟩ encoded
        · rw [received] at same
          cases same
        · exact absurd same (other thrown)
        · rw [received] at same
          cases same

end

/-- An exception that the adapter did not classify arrives as a refusal, and the
    mutation that may have been applied is recorded as failed. -/
theorem unclassified_refused : ¬ ∀ (channel : Channel (Option ProviderMutationResult))
    (outcome : Except Thrown (Option ProviderMutationResult)), Survives channel outcome := by
  intro all
  have survives := all ⟨fun _ => true, "", none⟩ (.error (.unclassified "socket hang up"))
  obtain ⟨thrown, same, -⟩ := survives.refused _ rfl rfl
  cases same

end ControlPlane.ProviderBoundary
