import ControlPlane.TerraformRules

/-!
A mutating call of the Terraform adapter that is repeated because the answer to the
first one was lost. Every apply draws an id of its own, which the caller cannot know
before it is answered.
-/
namespace ControlPlane.RepeatedSubmit
open ControlPlane.ProxmoxOwnership ControlPlane.Programs ControlPlane.Domain ControlPlane.ProviderPort ControlPlane.TerraformVariables ControlPlane.TerraformInventory
open ControlPlane.TerraformRunner ControlPlane.TerraformProvider ControlPlane.TerraformRules

section
variable {Numeric : Type}

/-! ### Repeated calls -/

/-- The task reference of an answer. -/
def reference : (call : ProviderCall) → call.Response → Option String
  | .getTask _, _ | .observeInstance _, _ | .listSnapshots _, _ => none
  | .submitCreateInstance _, result | .applyInstanceConfiguration _, result | .startInstance _, result
  | .shutdownInstance _, result | .stopInstance _, result | .rebootInstance _, result | .resizeInstance _, result
  | .createSnapshot _, result | .rollbackSnapshot _, result | .deleteSnapshot _, result
  | .markInstanceRetained _, result | .purgeInstance _, result =>
    result.bind ProviderMutationResult.providerTaskReference

/-- The operation that a call is made for. -/
def operation (call : ProviderCall) : Option Uuid := present (call.context.bind ProviderCallContext.operationId)

/-- A call that is made again: the same method, for the same request and operation. -/
structure Repeats (call again : ProviderCall) : Prop where
  method : again.ctorIdx = call.ctorIdx
  request : again.context.bind ProviderCallContext.requestId = call.context.bind ProviderCallContext.requestId
  operation : again.context.bind ProviderCallContext.operationId = call.context.bind ProviderCallContext.operationId

def drawnOf : RunnerExchange Numeric → Option Uuid
  | ⟨.randomUUID, .ok uuid⟩ => some uuid
  | _ => none

/-- The random ids that were drawn. -/
def drawn (said : List (RunnerExchange Numeric)) : List Uuid := said.filterMap drawnOf

/-- An apply run of an operation that was recorded. -/
def Begins (operationId : Option Uuid) (runId : Uuid) (said : List (RunnerExchange Numeric)) : Prop :=
  ∃ input : BeginRunInput, (⟨.beginRun input, .ok ()⟩ : RunnerExchange Numeric) ∈ said ∧ some input.operationId = operationId ∧
    input.runId = runId ∧ input.command = .apply

/-- A repeated call hands out the run that the first one began, and begins no other. -/
structure SubmitsOnce (again : ProviderCall) (runId : Uuid) (before more : List (RunnerExchange Numeric))
    (ended : Except Thrown (again.Response × Option (Background Numeric))) : Prop where
  unbegun : ∀ other, ¬ Begins (operation again) other (more.drop before.length)
  same : ∃ response work, ended = .ok (response, work) ∧ reference again response = some runId

/-! ### What an answer says of the runs -/

/-- The calls that are carried out by an apply. -/
def applies : ProviderCall → Bool
  | .submitCreateInstance _ | .startInstance _ | .shutdownInstance _ | .resizeInstance _ | .markInstanceRetained _
  | .purgeInstance _ => true
  | _ => false

/-- How an answer is related to what was recorded. -/
inductive Answered (operationId : Option Uuid) (new : List (RunnerExchange Numeric)) :
    Option String → Option (Background Numeric) → Prop
  | settled : Answered operationId new none none
  | begun (runId : Uuid) (directory : String) (input : ApplyInput Numeric) (fresh : runId ∈ drawn new)
      (begins : Begins operationId runId new) : Answered operationId new (some runId) (some (.apply runId directory input))

variable {deployment : Deployment Numeric} {past new later : List (RunnerExchange Numeric)}

theorem drawn_append (said more : List (RunnerExchange Numeric)) : drawn (said ++ more) = drawn said ++ drawn more :=
  List.filterMap_append

theorem Begins.mono {operationId : Option Uuid} {runId : Uuid} (begins : Begins operationId runId new) (part : new ⊆ later) :
    Begins operationId runId later := by
  obtain ⟨input, asked, rest⟩ := begins
  exact ⟨input, part asked, rest⟩

theorem Answered.after {operationId : Option Uuid} {task : Option String} {work : Option (Background Numeric)}
    (answered : Answered operationId later task work) (before : List (RunnerExchange Numeric)) :
    Answered operationId (before ++ later) task work := by
  cases answered with
  | settled => exact .settled
  | begun runId directory input fresh begins =>
    refine .begun runId directory input ?_ (begins.mono (List.subset_append_right _ _))
    rw [drawn_append]
    exact List.mem_append_right _ fresh

/-- What holds when a method ends, of what it added to the conversation. -/
def Answers (operationId : Option Uuid) (past : List (RunnerExchange Numeric)) (said : List (RunnerExchange Numeric))
    (ended : Except Thrown (ProviderMutationResult × Option (Background Numeric))) : Prop :=
  ∃ new, said = past ++ new ∧ ∀ result work, ended = .ok (result, work) →
    Answered operationId new result.providerTaskReference work

section
variable {operationId : Option Uuid}

theorem Answers.raised (thrown : Thrown) :
    Answers operationId past past (.error thrown : Except Thrown (ProviderMutationResult × Option (Background Numeric))) :=
  ⟨[], (List.append_nil _).symm, fun _ _ impossible => by cases impossible⟩

theorem Answers.settled {result : ProviderMutationResult} (unnamed : result.providerTaskReference = none) :
    Answers operationId past past
      (.ok (result, none) : Except Thrown (ProviderMutationResult × Option (Background Numeric))) := by
  refine ⟨[], (List.append_nil _).symm, fun other work same => ?_⟩
  obtain ⟨rfl, rfl⟩ := Prod.mk.inj (Except.ok.inj same)
  rw [unnamed]
  exact .settled

theorem Answers.earlier {said : List (RunnerExchange Numeric)}
    {ended : Except Thrown (ProviderMutationResult × Option (Background Numeric))}
    (answers : Answers operationId (past ++ new) said ended) : Answers operationId past said ended := by
  obtain ⟨more, rfl, each⟩ := answers
  exact ⟨new ++ more, List.append_assoc .., fun result work same => (each result work same).after new⟩

/-- What has been asked stays asked. -/
theorem Answers.goOn {α : Type} {first : Method Numeric α}
    {next : α → Method Numeric (ProviderMutationResult × Option (Background Numeric))}
    (rest : ∀ value more, new ⊆ more → (next value).Satisfies (fun _ _ => True) (Answers operationId past) (past ++ more)) :
    (first >>= next).Satisfies (fun _ _ => True) (Answers operationId past) (past ++ new) := by
  have grows := (Program.satisfies_anything first (past ++ new)).adds
  refine Program.satisfies_bind grows ?_ ?_
  · rintro _ value ⟨-, more, rfl, -⟩
    rw [List.append_assoc]
    exact rest value _ (List.subset_append_left _ _)
  · rintro _ thrown ⟨-, more, rfl, -⟩
    exact (Answers.raised thrown).earlier.earlier

/-- What is asked before does not matter. -/
theorem Answers.bind {α : Type} {first : Method Numeric α}
    {next : α → Method Numeric (ProviderMutationResult × Option (Background Numeric))}
    (rest : ∀ value past, (next value).Satisfies (fun _ _ => True) (Answers operationId past) past) :
    (first >>= next).Satisfies (fun _ _ => True) (Answers operationId past) past := by
  have whole := @Answers.goOn Numeric past [] operationId α first next fun value more _ =>
    (rest value (past ++ more)).weaken (fun _ _ _ => trivial) fun _ _ => Answers.earlier
  rwa [List.append_nil] at whole

end

theorem refuseApply_answers {operationId : Option Uuid} (runId : Uuid) (input : ApplyInput Numeric) (gate : PlanGate.GateResult)
    (invocation : InvocationResult) : (refuseApply deployment runId input gate invocation).Satisfies (fun _ _ => True)
      (Answers operationId past) past :=
  Answers.bind fun _ _ => Answers.bind fun _ _ => Answers.settled rfl

/-- An apply is answered with the id that it drew. -/
theorem startApply_answers {operationId : Option Uuid} (input : ApplyInput Numeric) (same : some input.operationId = operationId) :
    (startApply deployment input).Satisfies (fun _ _ => True) (Answers operationId past) past := by
  subst same
  refine satisfies_perform_bind.mpr ⟨trivial, fun runId => ?_, fun thrown => (Answers.raised thrown).earlier⟩
  refine Answers.goOn fun directory more kept => Answers.goOn fun initialized more kept_ => ?_
  have drew := kept_ (kept List.mem_cons_self)
  split
  · exact Answers.goOn fun _ _ _ => (Answers.raised _).earlier
  · refine Answers.goOn fun pair later grown => ?_
    obtain ⟨gate, invocation⟩ := pair
    refine satisfies_perform_bind.mpr ⟨trivial, fun _ => ?_, fun thrown => (Answers.raised thrown).earlier.earlier⟩
    rw [List.append_assoc]
    split
    · exact (refuseApply_answers runId input gate invocation).weaken (fun _ _ _ => trivial) fun _ _ => Answers.earlier
    next allowed =>
      refine ⟨_, rfl, fun result work same => ?_⟩
      obtain ⟨rfl, rfl⟩ := Prod.mk.inj (Except.ok.inj same)
      refine .begun runId directory input ?_ ?_
      · exact List.mem_filterMap.mpr ⟨_, List.mem_append_left _ (grown drew), rfl⟩
      · exact ⟨_, List.mem_append_right _ List.mem_cons_self, rfl, rfl, if_pos (not_not.mp allowed)⟩

/-- A change of an instance reads its state first. -/
theorem reading_answers {operationId : Option Uuid} {workspace : String} {purge : Bool} {change : String}
    {next : Except ProviderMutationResult (String × InstanceTfvars Numeric) →
      Method Numeric (ProviderMutationResult × Option (Background Numeric))}
    (refused : ∀ result past, result.providerTaskReference = none →
      (next (.error result)).Satisfies (fun _ _ => True) (Answers operationId past) past)
    (read : ∀ found past, (next (.ok found)).Satisfies (fun _ _ => True) (Answers operationId past) past) :
    (readDeclared deployment workspace purge change >>= next).Satisfies (fun _ _ => True) (Answers operationId past) past := by
  refine Program.satisfies_bind (readDeclared_satisfies _ _ _) ?_ ?_
  · rintro _ answer ⟨new, rfl, reads⟩
    suffices on : (next answer).Satisfies (fun _ _ => True) (Answers operationId (past ++ new)) (past ++ new) from
      on.weaken (fun _ _ _ => trivial) fun _ _ => Answers.earlier
    generalize same : (Except.ok answer : Except Thrown _) = ended at reads
    cases reads with
    | unprepared | uninitialized | unreachable | unread => cases same
    | absent =>
      cases same
      exact refused _ _ rfl
    | declared =>
      cases same
      exact read _ _
  · rintro _ thrown ⟨new, rfl, -⟩
    exact (Answers.raised thrown).earlier

theorem identified_operation {context : Option ProviderCallContext} {instanceId operationId : Uuid}
    (known : identified deployment context = .ok (instanceId, operationId)) :
    present (context.bind ProviderCallContext.operationId) = some operationId := by
  obtain ⟨_, -, known⟩ := Tables.bind_ok known
  split at known
  next given => rw [given, (Prod.mk.inj (Except.ok.inj known)).2]
  next => cases known

theorem marked_operation {mutation : Option InstanceMutationRequest} {instanceId operationId : Uuid} {markers : OwnershipMarkers}
    (known : marked deployment mutation = .ok (instanceId, operationId, markers)) :
    present ((mutation.bind InstanceMutationRequest.context).bind ProviderCallContext.operationId) = some operationId := by
  obtain ⟨_, -, known⟩ := Tables.bind_ok known
  split at known
  next given _ => rw [given, (Prod.mk.inj (Prod.mk.inj (Except.ok.inj known)).2).1]
  next => cases known

theorem createInput_operation {request : SubmitCreateInstanceRequest} {input : ApplyInput Numeric}
    (built : createInput deployment.host deployment.configuration request = .ok (.ok input)) :
    present (request.context.bind ProviderCallContext.operationId) = some input.operationId := by
  unfold createInput at built
  obtain ⟨_, -, built⟩ := Tables.bind_ok built
  split at built
  next given =>
    split at built
    next => cases built
    next =>
      split at built
      next => cases built
      next =>
        obtain ⟨_, -, built⟩ := Tables.bind_ok built
        obtain ⟨_, -, built⟩ := Tables.bind_ok built
        obtain ⟨_, -, built⟩ := Tables.bind_ok built
        cases built
        exact given
      next => cases built
  next => cases built

/-- A creation that is refused names no task. -/
theorem createInput_refused {request : SubmitCreateInstanceRequest} {refused : ProviderMutationResult}
    (built : createInput deployment.host deployment.configuration request = .ok (.error refused)) :
    refused.providerTaskReference = none := by
  unfold createInput at built
  obtain ⟨_, -, built⟩ := Tables.bind_ok built
  split at built
  next =>
    split at built
    next => cases built
    next =>
      split at built
      next => cases built
      next =>
        obtain ⟨_, -, built⟩ := Tables.bind_ok built
        obtain ⟨_, -, built⟩ := Tables.bind_ok built
        obtain ⟨_, -, built⟩ := Tables.bind_ok built
        cases built
      next =>
        cases built
        rfl
  next => cases built

theorem setPowerState_answers (request : InstanceMutationRequest) (started : Bool) :
    (setPowerState deployment request started).Satisfies (fun _ _ => True)
      (Answers (present (request.context.bind ProviderCallContext.operationId)) past) past := by
  refine satisfies_checked_bind.mpr ⟨?_, fun _ _ => Answers.raised _⟩
  rintro ⟨instanceId, operationId⟩ known
  rw [identified_operation known]
  refine reading_answers (fun result past unnamed => Answers.settled unnamed) fun found past => ?_
  obtain ⟨directory, declared⟩ := found
  dsimp only
  split
  · exact Answers.bind fun _ _ => Answers.settled rfl
  · exact startApply_answers _ rfl

theorem resizeInstance_answers (request : ResizeInstanceRequest) : (resizeInstance deployment request).Satisfies (fun _ _ => True)
    (Answers (operation (.resizeInstance request)) past) past := by
  refine satisfies_checked_bind.mpr ⟨?_, fun _ _ => Answers.raised _⟩
  rintro ⟨instanceId, operationId⟩ known
  have asked : operation (.resizeInstance request) = some operationId := identified_operation known
  rw [asked]
  refine reading_answers (fun result past unnamed => Answers.settled unnamed) fun found past => ?_
  obtain ⟨directory, declared⟩ := found
  dsimp only
  split
  · exact Answers.bind fun _ _ => Answers.settled rfl
  · exact startApply_answers _ rfl

theorem markInstanceRetained_answers (request : MarkInstanceRetainedRequest) :
    (markInstanceRetained deployment request).Satisfies (fun _ _ => True)
      (Answers (operation (.markInstanceRetained request)) past) past := by
  refine satisfies_checked_bind.mpr ⟨?_, fun _ _ => Answers.raised _⟩
  rintro ⟨instanceId, operationId, markers⟩ known
  have asked : operation (.markInstanceRetained request) = some operationId := marked_operation known
  rw [asked]
  exact reading_answers (fun result past unnamed => Answers.settled unnamed) fun found past => startApply_answers _ rfl

theorem purgeInstance_answers (request : PurgeInstanceRequest) : (purgeInstance deployment request).Satisfies (fun _ _ => True)
    (Answers (operation (.purgeInstance request)) past) past := by
  refine satisfies_checked_bind.mpr ⟨?_, fun _ _ => Answers.raised _⟩
  rintro ⟨instanceId, operationId, markers⟩ known
  have asked : operation (.purgeInstance request) = some operationId := marked_operation known
  rw [asked]
  dsimp only
  split
  · exact Answers.raised _
  · refine Answers.bind fun vmid past => Answers.bind fun _ past => ?_
    exact reading_answers (fun result past unnamed => Answers.settled unnamed) fun found past => startApply_answers _ rfl

theorem submitCreateInstance_answers (request : SubmitCreateInstanceRequest) :
    (submitCreateInstance deployment request).Satisfies (fun _ _ => True)
      (Answers (operation (.submitCreateInstance request)) past) past := by
  refine satisfies_checked_bind.mpr ⟨fun built known => ?_, fun _ _ => Answers.raised _⟩
  cases built with
  | error refused => exact Answers.settled (createInput_refused known)
  | ok input => exact startApply_answers _ (createInput_operation known).symm

theorem mutation_answers {method : Method Numeric (ProviderMutationResult × Option (Background Numeric))}
    {operationId : Option Uuid} (answers : method.Satisfies (fun _ _ => True) (Answers operationId past) past) :
    (mutation method).Satisfies (fun _ _ => True) (fun said ended => ∃ new, said = past ++ new ∧ ∀ response work,
      ended = .ok (response, work) →
        Answered operationId new (response.bind ProviderMutationResult.providerTaskReference) work) past := by
  refine Program.satisfies_bind answers ?_ ?_
  · rintro _ ⟨result, work⟩ ⟨new, rfl, each⟩
    refine ⟨new, rfl, fun response work same => ?_⟩
    obtain ⟨rfl, rfl⟩ := Prod.mk.inj (Except.ok.inj same)
    exact each _ _ rfl
  · rintro _ thrown ⟨new, rfl, -⟩
    exact ⟨new, rfl, fun _ _ impossible => by cases impossible⟩

/-- What any call that is carried out by an apply is answered. -/
theorem handle_answers (now : Nat) {call : ProviderCall} (applied : applies call = true) :
    (handle deployment now call).Satisfies (fun _ _ => True) (fun said ended => ∃ new, said = past ++ new ∧ ∀ response work,
      ended = .ok (response, work) → Answered (operation call) new (reference call response) work) past := by
  cases call with
  | submitCreateInstance request => exact mutation_answers (submitCreateInstance_answers request)
  | startInstance request =>
    have answers := mutation_answers (@setPowerState_answers Numeric deployment past (request.getD {}) true)
    cases request <;> exact answers
  | shutdownInstance request =>
    have answers := mutation_answers (@setPowerState_answers Numeric deployment past (request.getD {}) false)
    cases request <;> exact answers
  | resizeInstance request => exact mutation_answers (resizeInstance_answers request)
  | markInstanceRetained request => exact mutation_answers (markInstanceRetained_answers request)
  | purgeInstance request => exact mutation_answers (purgeInstance_answers request)
  | _ => cases applied

/-! ### The other calls -/

/-- Whether work in the background is an apply. -/
def isApply : Option (Background Numeric) → Bool
  | some (.apply ..) => true
  | _ => false

/-- A method that leaves no apply. -/
def LeavesNone {α : Type} (method : Method Numeric (α × Option (Background Numeric))) : Prop :=
  ∀ past, method.Satisfies (fun _ _ => True) (fun _ ended => ∀ response work, ended = .ok (response, work) → isApply work = false) past

section
variable {α β : Type}

theorem LeavesNone.bind {first : Method Numeric β} {next : β → Method Numeric (α × Option (Background Numeric))}
    (rest : ∀ value, LeavesNone (next value)) : LeavesNone (first >>= next) := fun past =>
  Program.satisfies_bind (Program.satisfies_anything first past) (fun later value _ => rest value later)
    fun _ _ _ _ _ impossible => by cases impossible

theorem leavesNone_raise (thrown : Thrown) : LeavesNone (.raise thrown : Method Numeric (α × Option (Background Numeric))) :=
  fun _ _ _ impossible => by cases impossible

theorem leavesNone_done {response : α} {work : Option (Background Numeric)} (other : isApply work = false) :
    LeavesNone (.done (response, work) : Method Numeric (α × Option (Background Numeric))) := fun _ _ _ same => by
  rw [← (Prod.mk.inj (Except.ok.inj same)).2]
  exact other

theorem LeavesNone.mutation {method : Method Numeric (ProviderMutationResult × Option (Background Numeric))}
    (leaves : LeavesNone method) : LeavesNone (mutation method) := fun past =>
  Program.satisfies_bind (leaves past) (fun later value none_ => leavesNone_done (none_ value.1 value.2 rfl) later)
    fun _ _ _ _ _ impossible => by cases impossible

theorem directMutation_leavesNone (request : InstanceMutationRequest) (act : Int → Method Numeric String) (driftState : DriftState) :
    LeavesNone (directMutation deployment request act driftState) :=
  .bind fun _ => .bind fun _ => .bind fun _ => .bind fun _ => .bind fun _ => leavesNone_done rfl

theorem snapshotMutation_leavesNone (request : Option InstanceMutationRequest) (act : Int → Method Numeric String)
    (driftState : DriftState) : LeavesNone (snapshotMutation deployment request act driftState) := by
  cases request with
  | none => exact leavesNone_raise _
  | some request => exact directMutation_leavesNone request act driftState

theorem inForeground_leavesNone (method : Method Numeric α) : LeavesNone (inForeground method) :=
  .bind fun _ => leavesNone_done rfl

end

/-- A call that leaves an apply is one that is carried out by it. -/
theorem applies_of_run {now : Nat} {call : ProviderCall} {oracle : Oracle (@Call.Answer Numeric)} {response : call.Response}
    {work : Option (Background Numeric)} (ended : ((handle deployment now call).run oracle past).2 = .ok (response, work))
    (leaves : isApply work = true) : applies call = true := by
  by_contra other
  have none_ : LeavesNone (handle deployment now call) := by
    cases call with
    | stopInstance | rebootInstance => exact LeavesNone.mutation (directMutation_leavesNone _ _ _)
    | createSnapshot | rollbackSnapshot | deleteSnapshot => exact LeavesNone.mutation (snapshotMutation_leavesNone _ _ _)
    | applyInstanceConfiguration | getTask | observeInstance | listSnapshots => exact inForeground_leavesNone _
    | _ => exact absurd rfl other
  have unlike := (none_ past).run_post oracle response work ended
  rw [leaves] at unlike
  cases unlike

/-! ### Repetition -/

theorem applies_congr {call again : ProviderCall} (same : again.ctorIdx = call.ctorIdx) : applies again = applies call := by
  cases call <;> cases again <;> first | rfl | cases same

/-- A call whose first answer was lost is repeated in vain: it is never answered with
    the run that was begun, and if it is answered with a run, that is another one of
    the same operation. -/
theorem repeated_begins (deployment : Deployment Numeric) (oracle : Oracle (@Call.Answer Numeric)) {now later : Nat}
    {call again : ProviderCall} (repeats : Repeats call again) {past said between more : List (RunnerExchange Numeric)}
    {response : call.Response} {runId : Uuid} {directory : String} {input : ApplyInput Numeric}
    {ended : Except Thrown (again.Response × Option (Background Numeric))}
    (first : (handle deployment now call).run oracle past = (said, .ok (response, some (.apply runId directory input))))
    (second : (handle deployment later again).run oracle (said ++ between) = (more, ended)) (unique : (drawn more).Nodup) :
    Begins (operation call) runId said ∧ ¬ SubmitsOnce again runId (said ++ between) more ended ∧
      ∀ response other directory input, ended = .ok (response, some (.apply other directory input)) →
        other ≠ runId ∧ reference again response = some other ∧ Begins (operation call) other more := by
  have applied : applies call = true := applies_of_run (by rw [first]) rfl
  have begun := (@handle_answers Numeric deployment past now call applied).run_post oracle
  rw [first] at begun
  obtain ⟨added, rfl, answered⟩ := begun
  obtain ⟨new, grown, each⟩ :=
    (@handle_answers Numeric deployment (past ++ added ++ between) later again ((applies_congr repeats.method).trans applied)).run_post oracle
  rw [second] at grown each
  dsimp only at grown each
  subst grown
  have operations : operation again = operation call := congrArg present repeats.operation
  have answered := answered _ _ rfl
  generalize reference call response = task at answered
  cases answered with
  | begun _ _ _ fresh begins =>
    have unlike : ∀ other ∈ drawn new, other ≠ runId := by
      rintro other redrawn rfl
      rw [drawn_append, drawn_append, drawn_append] at unique
      exact (List.nodup_append.mp unique).2.2 _ (by simp [fresh]) _ redrawn rfl
    refine ⟨begins.mono (List.subset_append_right _ _), ?_, ?_⟩
    · rintro ⟨-, response_, work, same, named⟩
      have answered_ := each response_ work same
      rw [named] at answered_
      cases answered_ with
      | begun _ _ _ redrawn _ => exact unlike runId redrawn rfl
    · intro response_ other place input_ same
      have answered_ := each response_ _ same
      generalize reference again response_ = task at answered_ ⊢
      cases answered_ with
      | begun _ _ _ redrawn begins_ =>
        exact ⟨unlike other redrawn, rfl, (operations ▸ begins_).mono (List.subset_append_right _ _)⟩

end

/-! ### A start that is repeated -/

/-- Every process ends well, and every id that is drawn is new. -/
def sampleOracle : Oracle (@Call.Answer Nat)
  | said, .randomUUID => .ok (toString said.length)
  | _, call => sampleAnswers sampleResults call

def sampleAdapter : Deployment Nat := sampleDeployment (some (sampleState [("started", .bool false)]))

def sampleStart : ProviderCall := .startInstance (some
  { context := some { requestId := some "r1", operationId := some "c1", instanceId := some "a1", providerProfileId := some "proxmox" } })

/-- The runs that a conversation began. -/
def begunRuns (said : List (RunnerExchange Nat)) : List (Uuid × Uuid) :=
  said.filterMap fun
    | ⟨.beginRun input, .ok ()⟩ => if input.command = .apply then some (input.runId, input.operationId) else none
    | _ => none

def firstStart := (handle sampleAdapter 0 sampleStart).run sampleOracle []
def secondStart := (handle sampleAdapter 0 sampleStart).run sampleOracle firstStart.1

theorem firstStart_answered : ∃ response directory input, firstStart.2 = .ok (response, some (.apply "9" directory input)) :=
  ⟨_, _, _, rfl⟩

theorem secondStart_answered : ∃ response directory input,
    secondStart.2 = .ok (response, some (.apply "30" directory input)) ∧ reference sampleStart response = some "30" :=
  ⟨_, _, _, rfl, rfl⟩

/-- The repeated start is not answered with the first run. -/
theorem repeated_begins_sample : Begins (operation sampleStart) "9" firstStart.1 ∧
    ¬ SubmitsOnce sampleStart "9" (firstStart.1 ++ []) secondStart.1 secondStart.2 := by
  obtain ⟨response, directory, input, answered⟩ := firstStart_answered
  have first : (handle sampleAdapter 0 sampleStart).run sampleOracle [] =
      (firstStart.1, .ok (response, some (.apply "9" directory input))) := Prod.ext rfl answered
  have second : (handle sampleAdapter 0 sampleStart).run sampleOracle (firstStart.1 ++ []) = (secondStart.1, secondStart.2) := by
    rw [List.append_nil, secondStart]
  have repeats : Repeats sampleStart sampleStart := ⟨rfl, rfl, rfl⟩
  have again := repeated_begins sampleAdapter sampleOracle repeats first second (by decide +kernel)
  exact ⟨again.1, again.2.1⟩

/-- A start that is repeated begins a second run while the first one goes on. -/
theorem start_repeated : begunRuns secondStart.1 = [("9", "c1"), ("30", "c1")] ∧
    ¬ SubmitsOnce sampleStart "9" firstStart.1 secondStart.1 secondStart.2 := by
  refine ⟨by decide +kernel, ?_⟩
  rintro ⟨-, response, work, same, named⟩
  obtain ⟨other, _, _, answered, second⟩ := secondStart_answered
  rw [answered] at same
  obtain ⟨rfl, -⟩ := Prod.mk.inj (Except.ok.inj same)
  rw [second] at named
  exact absurd (Option.some.inj named) (by decide)

end ControlPlane.RepeatedSubmit
