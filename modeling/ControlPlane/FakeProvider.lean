import ControlPlane.FakeRequests
import ControlPlane.Runs
import ControlPlane.Tables

/-!
The deterministic provider that stands in for a real one. A mutation is looked up
under its request identifier first, and a repeated one is answered with the result
that is kept for it. Only a mutation that is not known consumes a step of the script;
what the step says happens at once or after a delay, with other calls in between. A
log beside the provider keeps which calls left a result.
-/
namespace ControlPlane.FakeProvider
open ControlPlane.Domain ControlPlane.Tables ControlPlane.Runs ControlPlane.Texts ControlPlane.JsonTexts
open ControlPlane.ProviderPort ControlPlane.FakeRequests

/-! ### Maps -/

section
variable {Key α : Type} [DecidableEq Key]

def valueOf (key : Key) (map : List (Key × α)) : Option α := (find Prod.fst key map).map Prod.snd

def put (key : Key) (value : α) (map : List (Key × α)) : List (Key × α) :=
  if (valueOf key map).isSome then update (fun entry : Key × α => entry.1 = key) (fun _ => (key, value)) map
  else map ++ [(key, value)]

def without (key : Key) (map : List (Key × α)) : List (Key × α) := map.filter fun entry => entry.1 ≠ key

theorem valueOf_put (key other : Key) (value : α) (map : List (Key × α)) :
    valueOf other (put key value map) = if other = key then some value else valueOf other map := by
  unfold put
  split
  next present =>
    rw [valueOf, find_update_of fun entry chosen => chosen.symm]
    by_cases same : other = key
    · subst same
      obtain ⟨_, found⟩ := Option.isSome_iff_exists.mp present
      obtain ⟨entry, found, -⟩ := Option.map_eq_some_iff.mp found
      simp [found, find_key found]
    · rw [if_neg same, valueOf]
      cases found : find Prod.fst other map with
      | none => rfl
      | some entry => simp [find_key found, same]
  next absent =>
    rw [valueOf, find_append]
    by_cases same : other = key
    · subst same
      have none : find Prod.fst other map = none := by simpa [valueOf] using absent
      rw [none]
      simp [find]
    · have apart : find Prod.fst other [(key, value)] = none := by simp [find, Ne.symm same]
      rw [if_neg same, apart, Option.or_none, valueOf]

end

/-! ### State -/

inductive FakeProviderMode
  | failure
  | success
  | timeout
  | unknownOutcome
  deriving DecidableEq, Repr

/-- One scripted outcome for one call to one method. How long a step takes is left
    out: a delay may end at any time. -/
structure FakeProviderStep where
  mode : FakeProviderMode
  applyBeforeResponse : Bool := false
  failureCode : Option String := none
  failureCategory : Option FailureCategory := none
  taskPollsBeforeSuccess : Option Nat := none
  deriving DecidableEq, Repr

/-- `bigint` is `BigInt` of the runtime, which throws on a text that is no number. -/
structure FakeProviderConfiguration where
  defaultTaskPollsBeforeSuccess : Option Nat := none
  script : ProviderMethod → Option (List FakeProviderStep) := fun _ => none
  bigint : String → Option Int

structure FakeProviderCall where
  sequence : Nat
  method : ProviderMethod
  requestId : String
  mode : FakeProviderMode
  duplicate : Bool
  deriving DecidableEq, Repr

structure FakeResource where
  id : String
  instanceId : String
  ownership : OwnershipMarkers
  resources : InstanceResources
  network : Option NetworkConfiguration
  powerState : ObservedPowerState
  retained : Bool
  deriving DecidableEq, Repr

structure FakeTask where
  remainingPolls : Nat
  terminalState : ProviderTaskState
  deriving DecidableEq, Repr

/-- The result of a mutation, with the identifier of its evidence. -/
structure FakeResult extends ProviderMutationResult where
  evidenceId : Option String := none
  deriving DecidableEq, Repr

structure CachedMutation where
  canonicalRequest : String
  result : FakeResult
  deriving DecidableEq, Repr

/-- What a mutation works on. -/
structure World where
  resources : List (String × FakeResource) := []
  resourceByInstance : List (String × String) := []
  tasks : List (String × FakeTask) := []
  snapshots : List (String × List (String × ProviderSnapshot)) := []
  sequence : Nat := 0
  deriving DecidableEq, Repr

structure Fake extends World where
  stepIndexes : List (ProviderMethod × Nat) := []
  mutationCache : List (String × CachedMutation) := []
  calls : List FakeProviderCall := []
  logicalMutationCounts : List (ProviderMethod × Nat) := []
  deriving DecidableEq, Repr

inductive FakeError
  | transport (error : ProviderTransportError)
  | syntaxError
  deriving DecidableEq, Repr

/-- What a method does to the world. What was done before it throws stays done. -/
abbrev Effect (α : Type) : Type := ExceptT FakeError (StateM World) α

/-! ### Checks -/

def required (value : Option String) (name : String) : Except ProviderTransportError String :=
  match value.filter (· ≠ "") with
  | some value => .ok value
  | none => .error (protocolError s!"{name} is required.")

structure ValidatedProviderCallContext where
  requestId : String
  operationId : String
  correlationId : String
  projectId : String
  instanceId : String
  providerProfileId : String
  attempt : Nat

def validatedContext (context : Option ProviderCallContext) : Except ProviderTransportError ValidatedProviderCallContext := do
  let requestId ← required (context.bind (·.requestId)) "context.requestId"
  let operationId ← required (context.bind (·.operationId)) "context.operationId"
  let correlationId ← required (context.bind (·.correlationId)) "context.correlationId"
  let projectId ← required (context.bind (·.projectId)) "context.projectId"
  let instanceId ← required (context.bind (·.instanceId)) "context.instanceId"
  let providerProfileId ← required (context.bind (·.providerProfileId)) "context.providerProfileId"
  return ⟨requestId, operationId, correlationId, projectId, instanceId, providerProfileId,
    (context.bind (·.attempt)).getD 1⟩

def ownership (markers : Option OwnershipMarkers) : Except ProviderTransportError OwnershipMarkers := do
  let managedBy ← required (markers.bind (·.managedBy)) "ownership.managedBy"
  let environment ← required (markers.bind (·.environment)) "ownership.environment"
  let projectId ← required (markers.bind (·.projectId)) "ownership.projectId"
  let instanceId ← required (markers.bind (·.instanceId)) "ownership.instanceId"
  let createOperationId ← required (markers.bind (·.createOperationId)) "ownership.createOperationId"
  return ⟨some managedBy, some environment, some projectId, some instanceId, some createOperationId⟩

/-- What a method has checked before it looks a mutation up: the context, and the
    resource and the markers of a mutation of an existing instance. -/
structure Checked where
  context : ValidatedProviderCallContext
  providerResourceId : Option String
  expectedOwnershipMarkers : Option OwnershipMarkers

def mutationRequest (request : Option InstanceMutationRequest) : Except ProviderTransportError Checked := do
  let context ← validatedContext (request.bind (·.context))
  let providerResourceId ← required (request.bind (·.providerResourceId)) "providerResourceId"
  let expectedOwnershipMarkers ← ownership (request.bind (·.expectedOwnershipMarkers))
  return ⟨context, some providerResourceId, some expectedOwnershipMarkers⟩

def check : Mutation → Except ProviderTransportError Checked
  | .submitCreateInstance request => do return ⟨← validatedContext request.context, none, none⟩
  | .applyInstanceConfiguration request => do
    return ⟨← validatedContext request.context, request.providerResourceId, request.ownershipMarkers⟩
  | mutation => mutationRequest mutation.request

/-! ### Effects -/

def throwing {α : Type} : Except ProviderTransportError α → Effect α
  | .ok value => pure value
  | .error error => throw (.transport error)

def nextId (kind : String) : Effect String := do
  modify fun world => { world with sequence := world.sequence + 1 }
  let digits := toString (← getThe World).sequence
  let padding := String.ofList (List.replicate (6 - digits.length) '0')
  return s!"fake-{kind}-{padding}{digits}"

variable (configuration : FakeProviderConfiguration)

def accepted (resourceId : String) : Effect FakeResult := do
  let taskReference ← nextId "task"
  modify fun world => { world with
    tasks := put taskReference ⟨configuration.defaultTaskPollsBeforeSuccess.getD 0, .succeeded⟩ world.tasks }
  let evidenceId ← nextId "evidence"
  return { state := some .accepted, providerTaskReference := some taskReference, providerResourceId := some resourceId,
           evidenceId := some evidenceId }

def rejected (code : String) (category : FailureCategory) : Effect FakeResult := do
  let evidenceId ← nextId "evidence"
  return { state := some .rejected, evidenceId := some evidenceId,
           failure := some { category := some category, code := some code,
                             safeMessage := some s!"Fake provider rejected the request: {code}." } }

def markersMatch (actual : OwnershipMarkers) (expected : Option OwnershipMarkers) : Bool := some actual = expected

/-- The resource that a request names and owns, or the result that refuses it. -/
def ownedResource (resourceId : Option String) (expected : Option OwnershipMarkers) : Effect (FakeResult ⊕ FakeResource) := do
  let id ← throwing (required resourceId "providerResourceId")
  match valueOf id (← getThe World).resources with
  | none => return .inl (← rejected "RESOURCE_NOT_FOUND" .notFound)
  | some resource =>
    if !markersMatch resource.ownership expected then return .inl (← rejected "OWNERSHIP_MISMATCH" .authorization)
    else return .inr resource

def resourcesValue (resources : Option InstanceResources) : InstanceResources :=
  ⟨some ((resources.bind (·.cpuCount)).getD 1), some ((resources.bind (·.memoryMib)).getD "512"),
    some ((resources.bind (·.diskGib)).getD "8")⟩

/-- Rewrites an owned resource and accepts the mutation, or refuses it. -/
def onOwned (resourceId : Option String) (expected : Option OwnershipMarkers)
    (apply : FakeResource → Effect (FakeResult ⊕ FakeResource)) : Effect FakeResult := do
  match ← ownedResource resourceId expected with
  | .inl failure => return failure
  | .inr resource =>
    match ← apply resource with
    | .inl failure => return failure
    | .inr changed =>
      modify fun world => { world with resources := put resource.id changed world.resources }
      accepted configuration resource.id

def readBigint (text : String) : Effect Int :=
  match configuration.bigint text with
  | some value => pure value
  | none => throw .syntaxError

/-- What a mutation does when it is carried out. -/
def execute (now : Instant) (checked : Checked) : Mutation → Effect FakeResult
  | .submitCreateInstance request => do
    match valueOf checked.context.instanceId (← getThe World).resourceByInstance with
    | some existing => accepted configuration existing
    | none =>
      let resourceId ← nextId "resource"
      let owner ← throwing (ownership request.ownershipMarkers)
      modify fun world => { world with
        resources := put resourceId ⟨resourceId, checked.context.instanceId, owner, resourcesValue request.resources,
          request.network, .stopped, false⟩ world.resources,
        resourceByInstance := put checked.context.instanceId resourceId world.resourceByInstance }
      accepted configuration resourceId
  | .applyInstanceConfiguration request =>
    onOwned configuration checked.providerResourceId checked.expectedOwnershipMarkers fun resource =>
      return .inr { resource with resources := resourcesValue request.resources, network := request.network }
  | .startInstance _ => power .running
  | .shutdownInstance _ => power .stopped
  | .stopInstance _ => power .stopped
  | .rebootInstance _ => power .running
  | .resizeInstance request =>
    onOwned configuration checked.providerResourceId checked.expectedOwnershipMarkers fun resource => do
      let target := resourcesValue request.targetResources
      let asked ← readBigint configuration (target.diskGib.getD "0")
      let current ← readBigint configuration (resource.resources.diskGib.getD "0")
      if asked < current then return .inl (← rejected "DISK_SHRINK_FORBIDDEN" .validation)
      else return .inr { resource with resources := target }
  | .createSnapshot request =>
    onOwned configuration checked.providerResourceId checked.expectedOwnershipMarkers fun resource => do
      let snapshotId ← throwing (required request.snapshotId "snapshotId")
      let name ← throwing (required request.name "name")
      let snapshot : ProviderSnapshot :=
        ⟨some s!"fake-snapshot-{snapshotId}", some name, request.description.filter (· ≠ ""), some now⟩
      modify fun world => { world with
        snapshots := put resource.id (put snapshotId snapshot ((valueOf resource.id world.snapshots).getD []))
          world.snapshots }
      return .inr resource
  | .rollbackSnapshot request => snapshotMutation request false
  | .deleteSnapshot request => snapshotMutation request true
  | .markInstanceRetained _ =>
    onOwned configuration checked.providerResourceId checked.expectedOwnershipMarkers fun resource =>
      return .inr { resource with retained := true }
  | .purgeInstance request =>
    if ((request.purgeAuthorizationId.filter (· ≠ "")).isNone || (request.retentionDeadline.filter (· ≠ "")).isNone) then
      rejected "PURGE_GUARD_FAILED" .validation
    else do
      match ← ownedResource checked.providerResourceId checked.expectedOwnershipMarkers with
      | .inl failure => return failure
      | .inr resource =>
        modify fun world => { world with
          resources := without resource.id world.resources,
          resourceByInstance := without resource.instanceId world.resourceByInstance,
          snapshots := without resource.id world.snapshots }
        accepted configuration resource.id
where
  power (state : ObservedPowerState) : Effect FakeResult :=
    onOwned configuration checked.providerResourceId checked.expectedOwnershipMarkers fun resource =>
      return .inr { resource with powerState := state }
  snapshotMutation (request : Option SnapshotMutationRequest) (remove : Bool) : Effect FakeResult :=
    onOwned configuration checked.providerResourceId checked.expectedOwnershipMarkers fun resource => do
      let snapshotId ← throwing (required (request.bind (·.snapshotId)) "snapshotId")
      let snapshots := (valueOf resource.id (← getThe World).snapshots).getD []
      if (valueOf snapshotId snapshots).isNone then return .inl (← rejected "SNAPSHOT_NOT_FOUND" .notFound)
      else
        if remove then
          modify fun world => { world with snapshots := put resource.id (without snapshotId snapshots) world.snapshots }
        return .inr resource

/-! ### Calls -/

def modeOf (result : FakeResult) : FakeProviderMode :=
  if result.state = some .rejected then .failure
  else if result.state = some .unknown then .unknownOutcome
  else .success

def nextStep (method : ProviderMethod) (s : Fake) : FakeProviderStep × Fake :=
  let index := (valueOf method s.stepIndexes).getD 0
  let script := configuration.script method
  let step := ((script.bind (·[index]?)).or (script.bind List.getLast?)).getD { mode := .success }
  (step, { s with stepIndexes := put method (index + 1) s.stepIndexes })

def record (method : ProviderMethod) (requestId : String) (mode : FakeProviderMode) (duplicate : Bool) (s : Fake) : Fake :=
  { s with
    sequence := s.sequence + 1, calls := s.calls ++ [⟨s.sequence + 1, method, requestId, mode, duplicate⟩] }

def countMutation (method : ProviderMethod) (s : Fake) : Fake :=
  { s with
    logicalMutationCounts := put method ((valueOf method s.logicalMutationCounts).getD 0 + 1) s.logicalMutationCounts }

def mutationKey (method : ProviderMethod) (requestId : String) : String := method.text ++ ":" ++ requestId

/-- Keeps the result of a mutation under its key. -/
def remember (mutation : Mutation) (checked : Checked) (result : FakeResult) (s : Fake) : Fake :=
  { s with
    mutationCache := put (mutationKey mutation.method checked.context.requestId)
      ⟨requestJson mutation.presented, result⟩ s.mutationCache }

def carryOut {α : Type} (effect : Effect α) (s : Fake) : Except FakeError α × Fake :=
  let (outcome, world) := (ExceptT.run effect).run s.toWorld
  (outcome, { s with toWorld := world })

def applyTaskPolling (step : FakeProviderStep) (result : FakeResult) : Effect Unit :=
  match step.taskPollsBeforeSuccess, result.providerTaskReference with
  | some polls, some reference => do
    match valueOf reference (← getThe World).tasks with
    | some task =>
      modify fun world => { world with tasks := put reference { task with remainingPolls := polls } world.tasks }
    | none => return ()
  | _, _ => return ()

/-- Carries a mutation out, with the polls that a step gives its task. -/
def perform (now : Instant) (checked : Checked) (mutation : Mutation) (step : FakeProviderStep) : Effect FakeResult := do
  let result ← execute configuration now checked mutation
  applyTaskPolling step result
  return result

/-- A mutation that waits for the delay of its step, and its result if the provider
    applied it before. -/
structure Pending where
  mutation : Mutation
  checked : Checked
  step : FakeProviderStep
  applied : Option FakeResult

inductive Begun
  | answered (outcome : Except FakeError FakeResult)
  | delayed (pending : Pending)

/-- A mutation up to its delay. -/
def begin_ (now : Instant) (mutation : Mutation) (s : Fake) : Begun × Fake :=
  match check mutation with
  | .error error => (.answered (.error (.transport error)), s)
  | .ok checked =>
    let requestId := checked.context.requestId
    match valueOf (mutationKey mutation.method requestId) s.mutationCache with
    | some cached =>
      if cached.canonicalRequest ≠ requestJson mutation.presented then
        (.answered (.error (.transport (protocolError s!"Request ID '{requestId}' was reused with different input."))), s)
      else (.answered (.ok cached.result), record mutation.method requestId (modeOf cached.result) true s)
    | none =>
      let (step, s) := nextStep configuration mutation.method s
      let s := record mutation.method requestId step.mode false s
      if step.mode = .timeout ∧ step.applyBeforeResponse = true then
        match carryOut (perform configuration now checked mutation step) s with
        | (.error error, s) => (.answered (.error error), s)
        | (.ok result, s) =>
          (.delayed ⟨mutation, checked, step, some result⟩,
            remember mutation checked result (countMutation mutation.method s))
      else (.delayed ⟨mutation, checked, step, none⟩, s)

/-- What a step does after its delay, unless it times out. -/
def afterDelay (now : Instant) (pending : Pending) : Effect FakeResult :=
  let step := pending.step
  match step.mode with
  | .failure => rejected (step.failureCode.getD "FAKE_PROVIDER_REJECTED") (step.failureCategory.getD .transient)
  | .unknownOutcome => do
    if step.applyBeforeResponse then
      let _ ← execute configuration now pending.checked pending.mutation
    let evidenceId ← nextId "evidence"
    return { state := some .unknown, evidenceId := some evidenceId,
             failure := some { category := some .unknownOutcome, code := some (step.failureCode.getD "FAKE_UNKNOWN_OUTCOME"),
                               safeMessage := some "The provider outcome requires observation before retry." } }
  | .success | .timeout => perform configuration now pending.checked pending.mutation step

/-- A mutation after its delay. -/
def resume (now : Instant) (pending : Pending) (s : Fake) : Except FakeError FakeResult × Fake :=
  let method := pending.mutation.method
  let step := pending.step
  if pending.applied.isSome then
    (.error (.transport ⟨.deadlineExceeded, s!"{method.text} timed out after the provider applied it.", true⟩), s)
  else if step.mode = .timeout then
    (.error (.transport ⟨.deadlineExceeded, s!"{method.text} timed out before a known result.", true⟩), s)
  else
    match carryOut (afterDelay configuration now pending) s with
    | (.error error, s) => (.error error, s)
    | (.ok result, s) =>
      let counted := step.mode = .success ∨ step.mode = .unknownOutcome ∧ step.applyBeforeResponse = true
      (.ok result, remember pending.mutation pending.checked result (if counted then countMutation method s else s))

/-! ### Queries -/

/-- A call of a method that reads. What it is answered is left out. -/
inductive Query
  | validateProfile (requestId : Option String)
  | getCapabilities (requestId : Option String)
  | getTask (request : GetTaskRequest)
  | observeInstance (request : InstanceMutationRequest)
  | listSnapshots (request : InstanceMutationRequest)
  deriving DecidableEq, Repr

def Query.method : Query → ProviderMethod
  | .validateProfile _ => .validateProfile
  | .getCapabilities _ => .getCapabilities
  | .getTask _ => .getTask
  | .observeInstance _ => .observeInstance
  | .listSnapshots _ => .listSnapshots

def Query.check : Query → Except ProviderTransportError String
  | .validateProfile requestId | .getCapabilities requestId => required requestId "requestId"
  | .getTask request => (validatedContext request.context).map (·.requestId)
  | .observeInstance request | .listSnapshots request => (validatedContext request.context).map (·.requestId)

/-- What a query does to the world: a poll is counted, evidence is numbered. -/
def Query.effect : Query → Effect Unit
  | .validateProfile _ => do let _ ← nextId "evidence"
  | .getCapabilities _ | .observeInstance _ => return ()
  | .getTask request => do
    let reference ← throwing (required request.providerTaskReference "providerTaskReference")
    match valueOf reference (← getThe World).tasks with
    | some task =>
      modify fun world => { world with
        tasks := put reference { task with remainingPolls := task.remainingPolls - 1 } world.tasks }
    | none => return ()
  | .listSnapshots request => do
    match ← ownedResource request.providerResourceId request.expectedOwnershipMarkers with
    | .inl failure =>
      let said := (failure.failure.bind (·.safeMessage)).getD "Ownership validation failed."
      throw (.transport (protocolError said))
    | .inr _ => return ()

/-! ### Histories -/

/-- A mutation that left a result. -/
structure Done where
  mutation : Mutation
  result : FakeResult

inductive Waiting
  | mutation (pending : Pending)
  | query (query : Query) (step : FakeProviderStep)

structure State where
  fake : Fake := {}
  waiting : List Waiting := []
  log : List Done := []

inductive Action
  | call (mutation : Mutation) (now : Instant)
  | ask (query : Query)
  /-- The delay of a call ends. -/
  | resume (index : Nat) (now : Instant)
  /-- The caller gives a call up during its delay. -/
  | abort (index : Nat)

def next (s : State) : Action → Option State
  | .call mutation now =>
    match begin_ configuration now mutation s.fake with
    | (.answered _, fake) => some { s with fake := fake }
    | (.delayed pending, fake) =>
      some ⟨fake, s.waiting ++ [.mutation pending], s.log ++ (pending.applied.map fun result => ⟨mutation, result⟩).toList⟩
  | .ask query =>
    match query.check with
    | .error _ => some s
    | .ok requestId =>
      let (step, fake) := nextStep configuration query.method s.fake
      some { s with fake := record query.method requestId step.mode false fake, waiting := s.waiting ++ [.query query step] }
  | .resume index now =>
    match s.waiting[index]? with
    | none => none
    | some (.query query step) =>
      let fake := if step.mode = .success then (carryOut query.effect s.fake).2 else s.fake
      some { s with fake := fake, waiting := s.waiting.eraseIdx index }
    | some (.mutation pending) =>
      match resume configuration now pending s.fake with
      | (.error _, fake) => some { s with fake := fake, waiting := s.waiting.eraseIdx index }
      | (.ok result, fake) => some ⟨fake, s.waiting.eraseIdx index, s.log ++ [⟨pending.mutation, result⟩]⟩
  | .abort index => some { s with waiting := s.waiting.eraseIdx index }

/-! ### What is promised -/

def requestIdOf (mutation : Mutation) : Option String := mutation.context.bind (·.requestId)

/-- Two mutations that one result is kept for. -/
def sameKey (done : Done) (mutation : Mutation) : Bool :=
  done.mutation.method = mutation.method ∧ requestIdOf done.mutation = requestIdOf mutation

/-- The last call with the method and the request identifier of a mutation that left a result. -/
def lastDone (mutation : Mutation) (log : List Done) : Option Done := log.reverse.find? (sameKey · mutation)

/-- A repeated mutation is answered with the result that is kept, and nothing happens
    but that the call is recorded; a mutation that means something else is refused, and
    nothing happens at all. -/
def Right (s : State) : Action → Prop
  | .call mutation now =>
    ∀ done, lastDone mutation s.log = some done →
      (done.mutation.intended = mutation.intended →
        begin_ configuration now mutation s.fake =
          (.answered (.ok done.result),
            record mutation.method ((requestIdOf mutation).getD "") (modeOf done.result) true s.fake)) ∧
      (done.mutation.intended ≠ mutation.intended →
        ∃ message, begin_ configuration now mutation s.fake =
          (.answered (.error (.transport (protocolError message))), s.fake))
  | .ask _ | .resume _ _ | .abort _ => True

/-- A mutation is repeated with another fencing token only where the token is left out
    of the comparison. -/
def Comparable (s : State) : Action → Prop
  | .call mutation _ =>
    ∀ done, lastDone mutation s.log = some done → done.mutation.intended = mutation.intended →
      mutation.covered = true ∨ done.mutation = mutation
  | .ask _ | .resume _ _ | .abort _ => True

/-! ### What is checked -/

section
variable {mutation other : Mutation} {checked : Checked}

theorem required_ok {value : Option String} {name text : String} (read : required value name = .ok text) :
    value = some text := by
  unfold required at read
  split at read
  next found =>
    cases read
    exact (Option.filter_eq_some_iff.mp found).1
  next => cases read

theorem validatedContext_ok {context : Option ProviderCallContext} {validated : ValidatedProviderCallContext}
    (read : validatedContext context = .ok validated) : context.bind (·.requestId) = some validated.requestId := by
  obtain ⟨requestId, found, read⟩ := bind_ok read
  obtain ⟨_, -, read⟩ := bind_ok read
  obtain ⟨_, -, read⟩ := bind_ok read
  obtain ⟨_, -, read⟩ := bind_ok read
  obtain ⟨_, -, read⟩ := bind_ok read
  obtain ⟨_, -, read⟩ := bind_ok read
  cases read
  exact required_ok found

theorem mutationRequest_ok {request : Option InstanceMutationRequest} (read : mutationRequest request = .ok checked) :
    (request.bind (·.context)).bind (·.requestId) = some checked.context.requestId := by
  obtain ⟨context, found, read⟩ := bind_ok read
  obtain ⟨_, -, read⟩ := bind_ok read
  obtain ⟨_, -, read⟩ := bind_ok read
  cases read
  exact validatedContext_ok found

theorem check_requestId (read : check mutation = .ok checked) : requestIdOf mutation = some checked.context.requestId := by
  cases mutation with
  | submitCreateInstance request =>
    obtain ⟨_, found, same⟩ := bind_ok read
    cases same
    exact validatedContext_ok found
  | applyInstanceConfiguration request =>
    obtain ⟨_, found, same⟩ := bind_ok read
    cases same
    exact validatedContext_ok found
  | _ => exact mutationRequest_ok read

/-- What is checked, is checked without the fencing token. -/
theorem validatedContext_intent (context : Option ProviderCallContext) :
    validatedContext (context.map intent) = validatedContext context := by
  cases context <;> rfl

theorem mutationRequest_own (request : Option InstanceMutationRequest) :
    mutationRequest (request.map Mutation.intended.own) = mutationRequest request := by
  cases request with
  | none => rfl
  | some request => simp only [mutationRequest, Option.map_some, Option.bind_some, Mutation.intended.own, validatedContext_intent]

theorem check_intended (mutation : Mutation) : check mutation.intended = check mutation := by
  have nested : ∀ request : Option SnapshotMutationRequest,
      (request.map Mutation.intended.ofSnapshot).bind (·.request) = (request.bind (·.request)).map Mutation.intended.own := by
    intro request
    cases request <;> rfl
  cases mutation with
  | submitCreateInstance request => simp only [Mutation.intended, check, validatedContext_intent]
  | applyInstanceConfiguration request => simp only [Mutation.intended, check, validatedContext_intent]
  | rollbackSnapshot request => simp only [Mutation.intended, check, Mutation.request, nested, mutationRequest_own]
  | deleteSnapshot request => simp only [Mutation.intended, check, Mutation.request, nested, mutationRequest_own]
  | _ => simp only [Mutation.intended, check, Mutation.request, mutationRequest_own]

/-- A check that fails as a request that breaks the protocol. -/
def Refusing {α : Type} (result : Except ProviderTransportError α) : Prop :=
  ∀ error, result = .error error → ∃ message, error = protocolError message

theorem refusing_required (value : Option String) (name : String) : Refusing (required value name) := by
  intro error failed
  unfold required at failed
  split at failed
  next => cases failed
  next => cases failed; exact ⟨_, rfl⟩

theorem refusing_bind {α β : Type} {first : Except ProviderTransportError α} {rest : α → Except ProviderTransportError β}
    (refusing : Refusing first) (also : ∀ a, Refusing (rest a)) : Refusing (first >>= rest) := by
  intro error failed
  cases first with
  | error earlier => cases failed; exact refusing _ rfl
  | ok a => exact also a error failed

theorem refusing_pure {α : Type} (a : α) : Refusing (pure a) := nofun

theorem refusing_validatedContext (context : Option ProviderCallContext) : Refusing (validatedContext context) :=
  refusing_bind (refusing_required _ _) fun _ => refusing_bind (refusing_required _ _) fun _ =>
    refusing_bind (refusing_required _ _) fun _ => refusing_bind (refusing_required _ _) fun _ =>
      refusing_bind (refusing_required _ _) fun _ => refusing_bind (refusing_required _ _) fun _ => refusing_pure _

theorem refusing_ownership (markers : Option OwnershipMarkers) : Refusing (ownership markers) :=
  refusing_bind (refusing_required _ _) fun _ => refusing_bind (refusing_required _ _) fun _ =>
    refusing_bind (refusing_required _ _) fun _ => refusing_bind (refusing_required _ _) fun _ =>
      refusing_bind (refusing_required _ _) fun _ => refusing_pure _

theorem refusing_mutationRequest (request : Option InstanceMutationRequest) : Refusing (mutationRequest request) :=
  refusing_bind (refusing_validatedContext _) fun _ => refusing_bind (refusing_required _ _) fun _ =>
    refusing_bind (refusing_ownership _) fun _ => refusing_pure _

theorem refusing_check (mutation : Mutation) : Refusing (check mutation) := by
  cases mutation with
  | submitCreateInstance request => exact refusing_bind (refusing_validatedContext _) fun _ => refusing_pure _
  | applyInstanceConfiguration request => exact refusing_bind (refusing_validatedContext _) fun _ => refusing_pure _
  | _ => exact refusing_mutationRequest _

/-- Methods have no colon in their names, so a key says its method and its identifier. -/
theorem mutationKey_inj {method another : ProviderMethod} {requestId id : String}
    (same : mutationKey method requestId = mutationKey another id) : method = another ∧ requestId = id := by
  have split : ∀ (method : ProviderMethod) (requestId : String),
      (mutationKey method requestId).toList.takeWhile (· ≠ ':') = method.text.toList ∧
        (mutationKey method requestId).toList.dropWhile (· ≠ ':') = ':' :: requestId.toList := by
    intro method requestId
    have all : method.text.toList.all (fun c => c ≠ ':') = true := by cases method <;> decide +kernel
    have plain : ∀ c ∈ method.text.toList, decide (c ≠ ':') = true := List.all_eq_true.mp all
    rw [mutationKey, String.toList_append, String.toList_append, List.append_assoc,
      List.takeWhile_append_of_pos plain, List.dropWhile_append_of_pos plain]
    simp
  have texts : method.text.toList = another.text.toList := by
    rw [← (split method requestId).1, same, (split another id).1]
  have ids : ':' :: requestId.toList = ':' :: id.toList := by
    rw [← (split method requestId).2, same, (split another id).2]
  refine ⟨?_, String.toList_injective (List.cons.inj ids).2⟩
  have named := String.toList_injective texts
  revert named
  cases method <;> cases another <;> decide +kernel

/-! ### The cache keeps the log -/

/-- What the cache keeps for a mutation. -/
def kept (done : Done) : CachedMutation := ⟨requestJson done.mutation.presented, done.result⟩

structure Kept (s : State) : Prop where
  cache : ∀ mutation requestId, requestIdOf mutation = some requestId →
    valueOf (mutationKey mutation.method requestId) s.fake.mutationCache = (lastDone mutation s.log).map kept
  logged : ∀ done ∈ s.log, ∃ checked, check done.mutation = .ok checked
  waiting : ∀ pending, .mutation pending ∈ s.waiting → check pending.mutation = .ok pending.checked

theorem kept_start : Kept {} where
  cache _ _ _ := by simp [valueOf, find, lastDone]
  logged _ listed := absurd listed List.not_mem_nil
  waiting _ listed := absurd listed List.not_mem_nil

theorem lastDone_append (log : List Done) (done : Done) :
    lastDone mutation (log ++ [done]) = if sameKey done mutation = true then some done else lastDone mutation log := by
  rw [lastDone, List.reverse_append, List.reverse_singleton, List.singleton_append, List.find?_cons]
  cases sameKey done mutation <;> rfl

/-- A result that is kept is one more entry of the log. -/
theorem cache_remember {s : Fake} {log : List Done} {result : FakeResult}
    (cache : ∀ mutation requestId, requestIdOf mutation = some requestId →
      valueOf (mutationKey mutation.method requestId) s.mutationCache = (lastDone mutation log).map kept)
    (read : check other = .ok checked) (mutation : Mutation) (requestId : String)
    (identified : requestIdOf mutation = some requestId) :
    valueOf (mutationKey mutation.method requestId) (remember other checked result s).mutationCache =
      (lastDone mutation (log ++ [⟨other, result⟩])).map kept := by
  have own := check_requestId read
  rw [remember, valueOf_put, lastDone_append]
  by_cases same : sameKey ⟨other, result⟩ mutation = true
  · rw [if_pos same]
    simp only [sameKey, decide_eq_true_eq] at same
    obtain ⟨method, id⟩ := same
    rw [own, identified, Option.some.injEq] at id
    rw [← method, ← id, if_pos rfl]
    rfl
  · rw [if_neg same, if_neg, cache mutation requestId identified]
    intro equal
    obtain ⟨method, id⟩ := mutationKey_inj equal
    refine same (decide_eq_true ⟨method.symm, ?_⟩)
    rw [own, identified, id]

theorem mem_eraseIdx {α : Type} {a : α} {items : List α} {index : Nat} (listed : a ∈ items.eraseIdx index) : a ∈ items :=
  List.mem_of_mem_eraseIdx listed

/-- What a mutation does before its delay. -/
inductive Begins (s : Fake) (mutation : Mutation) : Begun × Fake → Prop
  | answered (outcome : Except FakeError FakeResult) (after : Fake) (same : after.mutationCache = s.mutationCache) :
      Begins s mutation (.answered outcome, after)
  | waits (checked : Checked) (step : FakeProviderStep) (after : Fake) (read : check mutation = .ok checked)
      (same : after.mutationCache = s.mutationCache) :
      Begins s mutation (.delayed ⟨mutation, checked, step, none⟩, after)
  | applied (checked : Checked) (step : FakeProviderStep) (result : FakeResult) (before : Fake)
      (read : check mutation = .ok checked) (same : before.mutationCache = s.mutationCache) :
      Begins s mutation (.delayed ⟨mutation, checked, step, some result⟩, remember mutation checked result before)

theorem begins (now : Instant) (mutation : Mutation) (s : Fake) :
    Begins s mutation (begin_ configuration now mutation s) := by
  unfold begin_
  split
  next => exact .answered _ _ rfl
  next checked read =>
    dsimp only
    split
    next =>
      split
      · exact .answered _ _ rfl
      · exact .answered _ _ rfl
    next =>
      split
      next =>
        split
        next failed =>
          have same := congrArg (fun pair => pair.2.mutationCache) failed
          exact .answered _ _ same.symm
        next done =>
          have same := congrArg (fun pair => pair.2.mutationCache) done
          exact .applied checked _ _ _ read same.symm
      next => exact .waits checked _ _ read rfl

/-- What a mutation does after its delay. -/
inductive Resumes (s : Fake) (pending : Pending) : Except FakeError FakeResult × Fake → Prop
  | failed (error : FakeError) (after : Fake) (same : after.mutationCache = s.mutationCache) :
      Resumes s pending (.error error, after)
  | done (result : FakeResult) (before : Fake) (same : before.mutationCache = s.mutationCache) :
      Resumes s pending (.ok result, remember pending.mutation pending.checked result before)

theorem resumes (now : Instant) (pending : Pending) (s : Fake) : Resumes s pending (resume configuration now pending s) := by
  unfold resume
  dsimp only
  split
  next => exact .failed _ _ rfl
  next =>
    split
    next => exact .failed _ _ rfl
    next =>
      split
      next failed =>
        have same := congrArg (fun pair => pair.2.mutationCache) failed
        exact .failed _ _ same.symm
      next done =>
        have same := congrArg (fun pair => pair.2.mutationCache) done
        refine .done _ _ ?_
        split <;> exact same.symm

theorem kept_next {s t : State} {action : Action} (holds : Kept s) (taken : next configuration s action = some t) : Kept t := by
  obtain ⟨cache, logged, waiting⟩ := holds
  have quiet : ∀ {fake : Fake} {more : List Waiting}, fake.mutationCache = s.fake.mutationCache →
      (∀ pending, .mutation pending ∈ more → check pending.mutation = .ok pending.checked) → Kept ⟨fake, more, s.log⟩ := by
    intro fake more same waits
    exact ⟨fun m id identified => same ▸ cache m id identified, logged, waits⟩
  have fewer : ∀ {index : Nat} pending, .mutation pending ∈ s.waiting.eraseIdx index →
      check pending.mutation = .ok pending.checked := fun pending listed => waiting pending (mem_eraseIdx listed)
  have more : ∀ {done : Done}, (∃ checked, check done.mutation = .ok checked) →
      ∀ other ∈ s.log ++ [done], ∃ checked, check other.mutation = .ok checked := by
    intro done read other listed
    rcases List.mem_append.mp listed with old | new
    · exact logged other old
    · exact List.mem_singleton.mp new ▸ read
  cases action with
  | call mutation now =>
    have begun := begins configuration now mutation s.fake
    simp only [next] at taken
    generalize begin_ configuration now mutation s.fake = pair at begun taken
    cases begun with
    | answered outcome after same => cases taken; exact quiet same waiting
    | waits checked step after read same =>
      cases taken
      simp only [Option.map_none, Option.toList_none, List.append_nil]
      refine quiet same fun pending listed => ?_
      rcases List.mem_append.mp listed with old | new
      · exact waiting pending old
      · cases List.mem_singleton.mp new
        exact read
    | applied checked step result before read same =>
      cases taken
      refine ⟨fun m id identified => ?_, more ⟨checked, read⟩, fun pending listed => ?_⟩
      · exact cache_remember (fun m id identified => same ▸ cache m id identified) read m id identified
      · rcases List.mem_append.mp listed with old | new
        · exact waiting pending old
        · cases List.mem_singleton.mp new
          exact read
  | ask query =>
    simp only [next] at taken
    split at taken
    next => cases taken; exact quiet rfl waiting
    next =>
      cases taken
      refine quiet rfl fun pending listed => ?_
      rcases List.mem_append.mp listed with old | new
      · exact waiting pending old
      · cases List.mem_singleton.mp new
  | resume index now =>
    simp only [next] at taken
    split at taken
    next => cases taken
    next =>
      cases taken
      refine quiet ?_ fewer
      split <;> rfl
    next pending listed =>
      have read := waiting pending (List.mem_of_getElem? listed)
      have resumed := resumes configuration now pending s.fake
      generalize resume configuration now pending s.fake = pair at resumed taken
      cases resumed with
      | failed error after same => cases taken; exact quiet same fewer
      | done result before same =>
        cases taken
        exact ⟨fun m id identified => cache_remember (fun m id identified => same ▸ cache m id identified) read m id identified,
          more ⟨_, read⟩, fewer⟩
  | abort index => cases taken; exact quiet rfl fewer

/-! ### What becomes of the promise -/

/-- What a mutation is answered while a result is kept under its key. -/
theorem begin_kept {s : Fake} {done : Done} (now : Instant) (read : check mutation = .ok checked)
    (found : valueOf (mutationKey mutation.method checked.context.requestId) s.mutationCache = some (kept done)) :
    begin_ configuration now mutation s =
      if requestJson done.mutation.presented ≠ requestJson mutation.presented then
        (.answered (.error (.transport (protocolError
          s!"Request ID '{checked.context.requestId}' was reused with different input."))), s)
      else
        (.answered (.ok done.result),
          record mutation.method checked.context.requestId (modeOf done.result) true s) := by
  simp only [begin_, read, found, kept]

/-- Mutations of one method have one canonical text when they mean the same and their
    tokens are left out, or are one. -/
theorem sameText_iff (method : other.method = mutation.method) (first : (requestIdOf other).isSome)
    (second : (requestIdOf mutation).isSome) :
    requestJson other.presented = requestJson mutation.presented ↔
      other.intended = mutation.intended ∧ (mutation.covered = true ∨ other = mutation) := by
  have present : ∀ {m : Mutation}, (requestIdOf m).isSome → m.context.isSome := by
    intro m identified
    obtain ⟨_, found⟩ := Option.isSome_iff_exists.mp identified
    obtain ⟨_, context, -⟩ := Option.bind_eq_some_iff.mp found
    rw [context]
    rfl
  have same : other.covered = mutation.covered := by
    cases other <;> cases mutation <;> first | rfl | cases method
  cases covers : mutation.covered with
  | true =>
    rw [requestJson_covered method (same.trans covers) (present first) (present second)]
    simp
  | false =>
    rw [requestJson_uncovered method (same.trans covers)]
    constructor
    · rintro rfl
      exact ⟨rfl, .inr rfl⟩
    · rintro ⟨-, wrong | equal⟩
      · cases wrong
      · exact equal

theorem lastDone_spec {log : List Done} {done : Done} (last : lastDone mutation log = some done) :
    done ∈ log ∧ done.mutation.method = mutation.method ∧ requestIdOf done.mutation = requestIdOf mutation := by
  have same := List.find?_some last
  exact ⟨List.mem_reverse.mp (List.mem_of_find?_eq_some last), of_decide_eq_true same⟩

theorem Kept.right_iff {s : State} (holds : Kept s) (action : Action) :
    Right configuration s action ↔ Comparable s action := by
  cases action with
  | call mutation now =>
    refine forall₂_congr fun done last => ?_
    obtain ⟨listed, method, identified⟩ := lastDone_spec last
    obtain ⟨earlier, before⟩ := holds.logged done listed
    have known := check_requestId before
    have canonical : requestJson done.mutation.presented = requestJson mutation.presented ↔
        done.mutation.intended = mutation.intended ∧ (mutation.covered = true ∨ done.mutation = mutation) :=
      sameText_iff method (by rw [known]; rfl) (by rw [← identified, known]; rfl)
    cases read : check mutation with
    | error error =>
      -- A mutation that means the same would have been checked as the earlier one was.
      have differs : done.mutation.intended ≠ mutation.intended := by
        intro same
        rw [← check_intended, same, check_intended, read] at before
        cases before
      obtain ⟨message, rfl⟩ := refusing_check mutation error read
      have refused : begin_ configuration now mutation s.fake =
          (.answered (.error (.transport (protocolError message))), s.fake) := by
        simp only [begin_, read]
      exact ⟨fun _ same => absurd same differs, fun _ => ⟨fun same => absurd same differs, fun _ => ⟨message, refused⟩⟩⟩
    | ok checked =>
      have own := check_requestId read
      have found := holds.cache mutation checked.context.requestId own
      rw [last] at found
      have begun := begin_kept configuration now read found
      rw [own, Option.getD_some, begun]
      by_cases same : done.mutation.intended = mutation.intended
      · by_cases comparable : mutation.covered = true ∨ done.mutation = mutation
        · rw [if_neg (not_not.mpr (canonical.mpr ⟨same, comparable⟩))]
          exact ⟨fun _ _ => comparable, fun _ => ⟨fun _ => rfl, fun differs => absurd same differs⟩⟩
        · rw [if_pos fun equal => comparable (canonical.mp equal).2]
          refine ⟨fun right => ?_, fun wrong => absurd (wrong same) comparable⟩
          have answered := congrArg Prod.fst (right.1 same)
          cases answered
      · rw [if_pos fun equal => same (canonical.mp equal).1]
        exact ⟨fun _ equal => absurd equal same, fun _ => ⟨fun equal => absurd equal same, fun _ => ⟨_, rfl⟩⟩⟩
  | ask query => exact Iff.rfl
  | resume index now => exact Iff.rfl
  | abort index => exact Iff.rfl

end

def sampleContext (requestId fencingToken : String) : ProviderCallContext :=
  { requestId := some requestId, operationId := some "operation-1", correlationId := some "correlation-1",
    projectId := some "project-1", instanceId := some "instance-1", providerProfileId := some "lab",
    attempt := some 1, fencingToken := some fencingToken }

def sampleMarkers : OwnershipMarkers :=
  ⟨some "control-plane", some "lab", some "project-1", some "instance-1", some "operation-1"⟩

def sampleConfiguration : FakeProviderConfiguration := { bigint := fun text => some (digitsValue text.toList) }

/-- A resize of the only instance, under one request identifier. -/
def sampleResize (fencingToken : String) : Mutation :=
  .resizeInstance
    { request := some ⟨some (sampleContext "resize-1" fencingToken), some "fake-resource-000002", some sampleMarkers⟩,
      targetResources := some ⟨some 2, some "1024", some "16"⟩ }

/-- Creates the instance, and resizes it under the first lease. -/
def sampleHistory : List Action :=
  [.call (.submitCreateInstance
      { context := some (sampleContext "create-1" "1"), ownershipMarkers := some sampleMarkers }) 0,
   .resume 0 0, .call (sampleResize "1") 0, .resume 0 0]

end ControlPlane.FakeProvider
