import ControlPlane.Drift
import ControlPlane.Purge
import ControlPlane.ProviderBoundary
import ControlPlane.TerraformRules

/-!
What an absence rests on that the Terraform adapter reports. The observation refreshes
the state, reads it, and looks for the resource of the instance; the exit code of the
refresh is not read, and a state that cannot be read is taken for one without the
resource. A purge and the reconciliation take the answer at its word.
-/
namespace ControlPlane.ProvenAbsence
open ControlPlane.Programs ControlPlane.Programs.Program ControlPlane.Tables ControlPlane.JsonValues
open ControlPlane.TerraformVariables ControlPlane.ProviderPort ControlPlane.ProxmoxOwnership ControlPlane.TerraformRunner
open ControlPlane.TerraformProvider ControlPlane.TerraformRules

section
variable {Numeric : Type}

/-! ### What the runner reports -/

def refreshOf : RunnerExchange Numeric → Option InvocationResult
  | ⟨.invoke .refresh _, .ok result⟩ => some result
  | _ => none

def showOf : RunnerExchange Numeric → Option InvocationResult
  | ⟨.invoke .showState _, .ok result⟩ => some result
  | _ => none

/-- Both commands end with an exit code and an output. -/
def Reports (oracle : Oracle (@Call.Answer Numeric)) : Prop :=
  ∀ past directory, (∃ result, oracle past (.invoke .refresh directory) = .ok result) ∧
    ∃ result, oracle past (.invoke .showState directory) = .ok result

section
variable (deployment : Deployment Numeric) (said : List (RunnerExchange Numeric))

/-- The refresh succeeded, and the state was read and has no resource at the address of
    the instance. -/
def ShownAbsent : Prop :=
  ∃ refreshed ∈ said.filterMap refreshOf, refreshed.exitCode = 0 ∧
    ∃ shown ∈ said.filterMap showOf, shown.exitCode = 0 ∧
      ∃ document, deployment.host.parse shown.stdout = some document ∧ stateResource (some document) = .ok none

/-- The refresh or the read of the state failed. -/
def Unread : Prop :=
  (∃ refreshed ∈ said.filterMap refreshOf, refreshed.exitCode ≠ 0) ∨
    ∃ shown ∈ said.filterMap showOf, shown.exitCode ≠ 0 ∨ deployment.host.parse shown.stdout = none

end

/-! ### What the orchestrator and the reconciler make of it -/

/-- A failure of the adapter, as the provider service sees it. -/
def thrownOf (deployment : Deployment Numeric) : Thrown → ProviderBoundary.Thrown
  | .transport error => .transport error
  | .failed message => .unclassified message
  | .typeError => .unclassified deployment.typeErrorMessage

/-- What a client of the provider service gets. -/
def arrives (deployment : Deployment Numeric) (channel : ProviderBoundary.Channel (Option InstanceObservation))
    (ended : Except Thrown InstanceObservation) : Except ProviderTransportError (Option InstanceObservation) :=
  ProviderBoundary.invoke channel ((ended.map some).mapError (thrownOf deployment))

/-- A provider of which every observation gets this answer. -/
def Observing (answer : Except ProviderTransportError (Option InstanceObservation)) (provider : Oracle ProviderCall.Answer) : Prop :=
  ∀ past request, provider past (.observeInstance request) = answer

/-- What an observation may rest on: an absence is shown, and a failed read is a
    retryable error. No purge is recorded and no instance found missing otherwise. -/
structure AbsenceProven (deployment : Deployment Numeric) (said : List (RunnerExchange Numeric))
    (ended : Except Thrown InstanceObservation) : Prop where
  absent : ∀ observation, ended = .ok observation → observation.existing ≠ some true → ShownAbsent deployment said
  unread : Unread deployment said → ∃ error, ended = .error (.transport error) ∧ error.retryable = true
  purge : ∀ channel provider host around workflow data write, Observing (arrives deployment channel ended) provider →
    workflow.command.data = .purge data →
    ((LifecycleWorkflow.runClaimed host around workflow).run provider []).2 = .ok write →
    Purge.recordsPurged write.event.data = true → ShownAbsent deployment said
  reconciliation : ∀ channel provider host candidate now outcome, Observing (arrives deployment channel ended) provider →
    ((Drift.reconcile host candidate now).run provider []).2 = .ok (some outcome) →
    outcome.drift = .missingResource → ShownAbsent deployment said

/-! ### How an observation ends -/

/-- Neither command was reported. -/
def Silent (said : List (RunnerExchange Numeric)) : Prop := ∀ exchange ∈ said, refreshOf exchange = none ∧ showOf exchange = none

/-- What a state that was read ends with: only one without the resource shows no instance,
    and nothing is reported as an error of the transport. -/
structure Answers (document : Option Json) (ended : Except Thrown InstanceObservation) : Prop where
  absent : ∀ observation, ended = .ok observation → observation.existing ≠ some true → stateResource document = .ok none
  read : ∀ error, ended ≠ .error (.transport error)

/-- How an observation ends, with what was reported on the way. -/
inductive Looked (deployment : Deployment Numeric) : List (RunnerExchange Numeric) → Except Thrown InstanceObservation → Prop
  | early (said : List (RunnerExchange Numeric)) (silent : Silent said) (thrown : Thrown) : Looked deployment said (.error thrown)
  | threw (before after : List (RunnerExchange Numeric)) (directory : String) (refreshed : InvocationResult) (thrown : Thrown) :
      Looked deployment
        (before ++ [⟨.invoke .refresh directory, .ok refreshed⟩, ⟨.invoke .showState directory, .error thrown⟩] ++ after)
        (.error thrown)
  | shown (before after : List (RunnerExchange Numeric)) (silent : Silent before) (quiet : Silent after) (directory : String)
      (refreshed shown : InvocationResult) (ended : Except Thrown InstanceObservation)
      (answers : Answers (documentOf deployment shown) ended) :
      Looked deployment
        (before ++ [⟨.invoke .refresh directory, .ok refreshed⟩, ⟨.invoke .showState directory, .ok shown⟩] ++ after) ended

section
variable {deployment : Deployment Numeric} {said past : List (RunnerExchange Numeric)} {ended : Except Thrown InstanceObservation}

theorem silent_nil : Silent ([] : List (RunnerExchange Numeric)) := fun _ none => absurd none List.not_mem_nil

theorem Silent.append {first second : List (RunnerExchange Numeric)} (left : Silent first) (right : Silent second) :
    Silent (first ++ second) := by
  intro exchange member
  rcases List.mem_append.mp member with old | new
  · exact left exchange old
  · exact right exchange new

theorem silent_prepared {workspace : String} {tfvars : InstanceTfvars Numeric} {purge : Bool} {prepared : Except Thrown String}
    (made : Prepared deployment workspace tfvars purge said prepared) : Silent said := by
  have each : ∀ uuid directory, Silent (preparation uuid directory tfvars purge) := by
    intro uuid directory exchange member
    simp only [preparation, List.mem_cons, List.not_mem_nil, or_false] at member
    rcases member with rfl | rfl | rfl | rfl | rfl <;> exact ⟨rfl, rfl⟩
  cases made with
  | returned uuid => exact each uuid _
  | raised asked uuid directory call thrown same =>
    refine Silent.append (fun exchange member => each uuid directory exchange (List.mem_of_mem_take member)) ?_
    intro exchange member
    rw [List.mem_singleton.mp member]
    cases call <;> first | exact ⟨rfl, rfl⟩ | skip
    rename_i invocation place
    cases invocation <;> exact ⟨rfl, rfl⟩

theorem silent_initialized {directory workspace : String} {result : Except Thrown InvocationResult}
    (begun : Initialized directory workspace said result) : Silent said := by
  intro exchange member
  cases begun with
  | threw thrown =>
    rw [List.mem_singleton.mp member]
    exact ⟨rfl, rfl⟩
  | failed result exited =>
    rw [List.mem_singleton.mp member]
    exact ⟨rfl, rfl⟩
  | unselected result exited created thrown =>
    simp only [List.mem_cons, List.not_mem_nil, or_false] at member
    rcases member with rfl | rfl | rfl <;> exact ⟨rfl, rfl⟩
  | selected result exited created chosen =>
    simp only [List.mem_cons, List.not_mem_nil, or_false] at member
    rcases member with rfl | rfl | rfl <;> exact ⟨rfl, rfl⟩

theorem silent_disposed {directory : String} (disposed : Disposed deployment directory said) : Silent said := by
  intro exchange member
  cases disposed with
  | elsewhere outside => cases member
  | asked inside answer =>
    rw [List.mem_singleton.mp member]
    exact ⟨rfl, rfl⟩

/-- The observation of a resource says that it exists. -/
theorem observationOf_existing {values : Json} {expected : Option OwnershipMarkers} {observedAt : Nat}
    {observation : InstanceObservation} (observed : observationOf deployment values expected observedAt = .ok observation) :
    observation.existing = some true := by
  simp only [observationOf] at observed
  obtain ⟨resources, -, rest⟩ := bind_ok observed
  obtain ⟨network, -, rest⟩ := bind_ok rest
  obtain ⟨vmId, -, rest⟩ := bind_ok rest
  cases rest
  rfl

theorem answers_typeError (document : Option Json) : Answers document (.error .typeError) := by
  constructor
  · intro _ impossible
    cases impossible
  · intro _ impossible
    cases impossible

theorem answers_ok {document : Option Json} {observation : InstanceObservation}
    (absent : observation.existing ≠ some true → stateResource document = .ok none) : Answers document (.ok observation) := by
  constructor
  · rintro _ ⟨⟩ missing
    exact absent missing
  · intro _ impossible
    cases impossible

/-- What follows the read of a state. -/
theorem stateResource_satisfies (document : Option Json) (expected : Option OwnershipMarkers) (observedAt : Nat)
    {post : List (RunnerExchange Numeric) → Except Thrown InstanceObservation → Prop}
    (answered : ∀ ended, Answers document ended → post past ended) :
    (do match ← evaluated (stateResource document) with
        | none => return absent observedAt
        | some resource => do
          let values ← evaluated (resource.member "values")
          evaluated (observationOf deployment (Json.coalesce (.obj []) values) expected observedAt) :
        Method Numeric InstanceObservation).Satisfies (fun _ _ => True) post past := by
  refine satisfies_evaluated_bind.mpr ⟨fun found looked => ?_, fun _ _ => answered _ (answers_typeError document)⟩
  cases found with
  | none => exact answered _ (answers_ok fun _ => looked)
  | some resource =>
    refine satisfies_evaluated_bind.mpr ⟨fun values _ => ?_, fun _ _ => answered _ (answers_typeError document)⟩
    cases observed : observationOf deployment (Json.coalesce (.obj []) values) expected observedAt with
    | error error => exact answered _ (answers_typeError document)
    | ok observation => exact answered _ (answers_ok fun missing => absurd (observationOf_existing observed) missing)

theorem observeState_satisfies (directory workspace : String) (expected : Option OwnershipMarkers) (observedAt : Nat) :
    (observeState deployment directory workspace expected observedAt).Satisfies (fun _ _ => True)
      (fun said ended => ∃ new, said = past ++ new ∧ Looked deployment new ended) past := by
  refine satisfies_bind (init_satisfies _ _) ?_ ?_
  · rintro _ result ⟨begun, rfl, initialized⟩
    have silent := silent_initialized initialized
    split
    next exited => exact ⟨begun, rfl, .early _ silent _⟩
    next exited =>
      refine satisfies_perform_bind.mpr ⟨trivial, fun refreshed => ?_, fun thrown => ?_⟩
      · unfold readState
        rw [bind_assoc]
        refine satisfies_perform_bind.mpr ⟨trivial, fun shown => ?_, fun thrown => ?_⟩
        · have ends : ∀ ended, Answers (documentOf deployment shown) ended →
              ∃ new, past ++ begun ++ [⟨.invoke .refresh directory, .ok refreshed⟩] ++
                [⟨.invoke .showState directory, .ok shown⟩] = past ++ new ∧ Looked deployment new ended := by
            intro ended answers
            exact ⟨_, by simp, .shown begun [] silent silent_nil directory refreshed shown ended answers⟩
          split
          next failed =>
            have unread : documentOf deployment shown = none := if_pos failed
            exact @stateResource_satisfies _ deployment _ none expected observedAt _ fun ended answers => ends ended (unread ▸ answers)
          next failed =>
            have read : documentOf deployment shown = deployment.host.parse shown.stdout := if_neg failed
            exact stateResource_satisfies _ expected observedAt fun ended answers => ends ended (read ▸ answers)
        · exact ⟨_, by simp, .threw begun [] directory refreshed thrown⟩
      · refine ⟨begun ++ [⟨.invoke .refresh directory, .error thrown⟩], by simp, .early _ (silent.append ?_) thrown⟩
        intro exchange member
        rw [List.mem_singleton.mp member]
        exact ⟨rfl, rfl⟩
  · rintro _ thrown ⟨begun, rfl, initialized⟩
    exact ⟨begun, rfl, .early _ (silent_initialized initialized) thrown⟩

/-- What is said before and after changes nothing in how it ends. -/
theorem Looked.within {before after : List (RunnerExchange Numeric)} (looked : Looked deployment said ended)
    (silent : Silent before) (quiet : Silent after) : Looked deployment (before ++ said ++ after) ended := by
  cases looked with
  | early said within thrown => exact .early _ ((silent.append within).append quiet) thrown
  | threw first last directory refreshed thrown =>
    have same : Looked deployment _ _ := .threw (before ++ first) (last ++ after) directory refreshed thrown
    simpa using same
  | shown first last left right directory refreshed shown ended answers =>
    have same : Looked deployment _ _ := .shown (before ++ first) (last ++ after) (silent.append left) (right.append quiet) directory refreshed
      shown ended answers
    simpa using same

theorem observeInstance_satisfies (request : InstanceMutationRequest) (observedAt : Nat) :
    (observeInstance deployment request observedAt).Satisfies (fun _ _ => True)
      (fun said ended => ∃ new, said = past ++ new ∧ Looked deployment new ended) past := by
  refine satisfies_checked_bind.mpr ⟨fun instanceId _ => ?_, fun error _ => ⟨[], by simp, .early [] silent_nil _⟩⟩
  refine satisfies_bind (prepare_satisfies _ _ _) ?_ ?_
  · rintro _ directory ⟨made, rfl, prepared⟩
    have silent := silent_prepared prepared
    refine satisfies_ensuring (observeState_satisfies _ _ _ _) ?_
    rintro _ ended ⟨new, rfl, looked⟩
    refine (discard_satisfies directory).weaken (fun _ _ guard => guard) ?_
    rintro _ done ⟨rfl, removal, rfl, disposed⟩
    exact ⟨rfl, made ++ new ++ removal, by simp, looked.within silent (silent_disposed disposed)⟩
  · rintro _ thrown ⟨made, rfl, prepared⟩
    exact ⟨made, rfl, .early made (silent_prepared prepared) thrown⟩

/-! ### What was reported -/

theorem refreshOf_silent (silent : Silent said) : said.filterMap refreshOf = [] :=
  List.filterMap_eq_nil_iff.mpr fun exchange member => (silent exchange member).1

theorem showOf_silent (silent : Silent said) : said.filterMap showOf = [] :=
  List.filterMap_eq_nil_iff.mpr fun exchange member => (silent exchange member).2

theorem not_unread_silent (silent : Silent said) : ¬ Unread deployment said := by
  rintro (⟨_, member, -⟩ | ⟨_, member, -⟩)
  · rw [refreshOf_silent silent] at member
    cases member
  · rw [showOf_silent silent] at member
    cases member

section
variable {before after : List (RunnerExchange Numeric)} {directory : String} {refreshed shown : InvocationResult}

theorem unread_shown (silent : Silent before) (quiet : Silent after) :
    Unread deployment
      (before ++ [⟨.invoke .refresh directory, .ok refreshed⟩, ⟨.invoke .showState directory, .ok shown⟩] ++ after) ↔
      refreshed.exitCode ≠ 0 ∨ documentOf deployment shown = none := by
  simp only [Unread, List.filterMap_append, refreshOf_silent silent, refreshOf_silent quiet, showOf_silent silent,
    showOf_silent quiet, documentOf]
  simp [refreshOf, showOf]
  tauto

theorem shownAbsent_shown (read : refreshed.exitCode = 0) {document : Json} (documented : documentOf deployment shown = some document)
    (absent : stateResource (some document) = .ok none) :
    ShownAbsent deployment
      (before ++ [⟨.invoke .refresh directory, .ok refreshed⟩, ⟨.invoke .showState directory, .ok shown⟩] ++ after) := by
  unfold documentOf at documented
  split at documented
  next => cases documented
  next exited =>
    refine ⟨refreshed, ?_, read, shown, ?_, not_not.mp exited, document, documented, absent⟩
    · simp [refreshOf]
    · simp [showOf]

end

/-! ### What rests on an answer -/

section
variable {channel : ProviderBoundary.Channel (Option InstanceObservation)} {answer : Option InstanceObservation}

/-- An answer that arrives is what the adapter returned. -/
theorem arrives_ok (answered : arrives deployment channel ended = .ok answer) :
    ∃ observation, ended = .ok observation ∧ answer = some observation := by
  unfold arrives ProviderBoundary.invoke ProviderBoundary.deliver at answered
  cases own : channel.own with
  | some error => simp only [own] at answered; cases answered
  | none =>
    cases ended with
    | error thrown => simp only [own] at answered; cases answered
    | ok observation =>
      simp only [own, Except.map, Except.mapError] at answered
      cases encoded : channel.encodes (some observation) with
      | true => rw [encoded] at answered; cases answered; exact ⟨observation, rfl, rfl⟩
      | false => rw [encoded] at answered; cases answered

/-- A purge is recorded where the answer is read as an absence. -/
theorem purge_absent {provider : Oracle ProviderCall.Answer} {host : Commands.Host}
    {around : LifecycleWorkflow.Surroundings} {workflow : WorkflowSchema.ClaimedWorkflow} {data : Commands.PurgeData}
    {write : LifecycleWorkflow.StoreWrite} (observing : Observing (arrives deployment channel ended) provider)
    (purge : workflow.command.data = .purge data)
    (written : ((LifecycleWorkflow.runClaimed host around workflow).run provider []).2 = .ok write)
    (purged : Purge.recordsPurged write.event.data = true) :
    ∃ observation, ended = .ok observation ∧ observation.existing ≠ some true := by
  have rests : Purge.Rests workflow (LifecycleWorkflow.runClaimed host around workflow) [] := Purge.runClaimed_rests purge
  have keeps : SagaRules.Keeps around workflow (LifecycleWorkflow.runClaimed host around workflow) [] :=
    Transitions.runClaimed_fits
  have evidence := rests.run_post provider write written
  have fits := keeps.run_post provider write written
  have read : ∃ exchange ∈ ((LifecycleWorkflow.runClaimed host around workflow).run provider []).1,
      Purge.readsAbsent exchange = true := by
    cases fits.outcome with
    | moved follows progressed =>
      exact absurd (Purge.recordsPurged_isTerminal purged) (by rw [LifecycleWorkflow.StoreWrite.event, progressed]; decide)
    | failed failure status event => simp [LifecycleWorkflow.StoreWrite.event, event, Purge.recordsPurged] at purged
    | exhausted action compensation =>
      simp [LifecycleWorkflow.StoreWrite.event, WorkflowSchema.DeadLetterWorkflowInput.event, Purge.recordsPurged] at purged
    | succeeded resource evidenceId observed status event => exact evidence status
  obtain ⟨exchange, member, absent⟩ := read
  have answers : ∀ exchange ∈ ((LifecycleWorkflow.runClaimed host around workflow).run provider []).1,
      ∀ request answer, exchange = ⟨.observeInstance request, answer⟩ → answer = arrives deployment channel ended :=
    run_answers (fun past call request answer same => by cases same; exact observing past request) _ []
      fun _ none => absurd none List.not_mem_nil
  obtain ⟨call, answer⟩ := exchange
  cases call with
  | observeInstance request =>
    have same := answers _ member request answer rfl
    cases answer with
    | error error => cases absent
    | ok found =>
      obtain ⟨observation, rfl, rfl⟩ := arrives_ok same.symm
      refine ⟨observation, rfl, fun existing => ?_⟩
      simp [Purge.readsAbsent, LifecycleWorkflow.PurgeInstanceWorkflow.existsIn, existing] at absent
  | _ => cases absent

theorem reconciliation_absent {provider : Oracle ProviderCall.Answer} {host : Commands.Host}
    {candidate : Reconciliation.ReconciliationCandidate} {now : Nat} {outcome : Drift.ReconciliationOutcome}
    (observing : Observing (arrives deployment channel ended) provider)
    (recorded : ((Drift.reconcile host candidate now).run provider []).2 = .ok (some outcome))
    (missing : outcome.drift = .missingResource) :
    ∃ observation, ended = .ok observation ∧ observation.existing ≠ some true := by
  have answered := observing [] (Drift.observation candidate)
  cases arrived : arrives deployment channel ended with
  | error error =>
    rw [arrived] at answered
    simp only [Drift.reconcile, run, answered] at recorded
    cases recorded
  | ok found =>
    rw [arrived] at answered
    simp only [Drift.reconcile, run, answered] at recorded
    cases recorded
    obtain ⟨observation, rfl, rfl⟩ := arrives_ok arrived
    refine ⟨observation, rfl, fun existing => ?_⟩
    have absent := Drift.classifyDrift_missing missing
    simp [Drift.observed, LifecycleWorkflow.PurgeInstanceWorkflow.existsIn, existing] at absent

end

end

/-! ### The theorem -/

/-- Whatever the runner reports, an observation rests on what was read exactly when neither
    command failed that it asked for. -/
theorem absence_proven_iff (deployment : Deployment Numeric) (request : InstanceMutationRequest) (observedAt : Nat)
    {oracle : Oracle (@Call.Answer Numeric)} (reports : Reports oracle) :
    AbsenceProven deployment ((observeInstance deployment request observedAt).run oracle []).1
        ((observeInstance deployment request observedAt).run oracle []).2 ↔
      ¬ Unread deployment ((observeInstance deployment request observedAt).run oracle []).1 := by
  obtain ⟨new, whole, looked⟩ :=
    (@observeInstance_satisfies Numeric deployment [] request observedAt).run_post oracle
  have reported : ∀ exchange ∈ ((observeInstance deployment request observedAt).run oracle []).1,
      ∀ directory thrown, exchange ≠ ⟨.invoke .showState directory, .error thrown⟩ := by
    refine run_answers (fun past call directory thrown same => ?_) _ [] fun _ none => absurd none List.not_mem_nil
    obtain ⟨rfl, failed⟩ := Sigma.mk.inj same
    obtain ⟨result, answered⟩ := (reports past directory).2
    rw [answered] at failed
    cases eq_of_heq failed
  generalize ((observeInstance deployment request observedAt).run oracle []).1 = said at whole reported ⊢
  generalize ((observeInstance deployment request observedAt).run oracle []).2 = ended at looked ⊢
  rw [List.nil_append] at whole
  subst whole
  constructor
  · intro proven unread
    obtain ⟨error, failed, -⟩ := proven.unread unread
    cases looked with
    | early _ silent thrown => exact not_unread_silent silent unread
    | threw before after directory refreshed thrown =>
      exact reported ⟨.invoke .showState directory, .error thrown⟩ (by simp) directory thrown rfl
    | shown before after silent quiet directory refreshed shown _ answers => exact answers.read error failed
  · intro read
    have proves : ∀ observation, ended = .ok observation → observation.existing ≠ some true → ShownAbsent deployment said := by
      intro observation answered missing
      cases looked with
      | early => cases answered
      | threw => cases answered
      | shown before after silent quiet directory refreshed shown _ answers =>
        rw [unread_shown silent quiet, not_or, not_not] at read
        obtain ⟨document, documented⟩ := Option.ne_none_iff_exists'.mp read.2
        exact shownAbsent_shown read.1 documented (documented ▸ answers.absent observation answered missing)
    refine ⟨proves, fun unread => absurd unread read, ?_, ?_⟩
    · intro channel provider host around workflow data write observing purge written purged
      obtain ⟨observation, answered, missing⟩ := purge_absent observing purge written purged
      exact proves observation answered missing
    · intro channel provider host candidate now outcome observing recorded missing
      obtain ⟨observation, answered, absent⟩ := reconciliation_absent observing recorded missing
      exact proves observation answered absent

end

/-! ### A state that cannot be read -/

def sampleObservation : InstanceMutationRequest :=
  { context := some { operationId := some "c1", instanceId := some "a1", providerProfileId := some "proxmox" } }

/-- What the adapter says and answers, when the processes end like this and the state has no
    resources. -/
def sampleObserved (results : Invocation → InvocationResult) : List (RunnerExchange Nat) × Except Thrown InstanceObservation :=
  (observeInstance (sampleDeployment (some (.obj []))) sampleObservation 5000).run (fun _ => sampleAnswers results) []

theorem reports_sampleAnswers (results : Invocation → InvocationResult) :
    Reports (fun _ => sampleAnswers results : Oracle (@Call.Answer Nat)) :=
  fun _ _ => ⟨⟨_, rfl⟩, ⟨_, rfl⟩⟩

theorem absence_proven_iff_sampleObserved :
    AbsenceProven (sampleDeployment (some (.obj []))) (sampleObserved sampleResults).1 (sampleObserved sampleResults).2 := by
  refine (absence_proven_iff _ sampleObservation 5000 (reports_sampleAnswers sampleResults)).mpr fun unread => ?_
  have refreshed : (sampleObserved sampleResults).1.filterMap refreshOf = [⟨0, [], ""⟩] := by rfl
  have shown : (sampleObserved sampleResults).1.filterMap showOf = [⟨0, [], "state"⟩] := by rfl
  rcases unread with ⟨result, member, failed⟩ | ⟨result, member, failed⟩
  · rw [show result = ⟨0, [], ""⟩ from List.mem_singleton.mp (refreshed ▸ member)] at failed
    exact failed rfl
  · rw [show result = ⟨0, [], "state"⟩ from List.mem_singleton.mp (shown ▸ member)] at failed
    exact failed.elim (fun exited => exited rfl) (fun unparsed => by cases unparsed)

/-- Processes that end well, but for the one that prints the state. -/
def sampleUnread : Invocation → InvocationResult
  | .showState => ⟨1, [], ""⟩
  | invocation => sampleResults invocation

/-- A state that could not be read is answered as an absence. -/
theorem unread_absent :
    ¬ AbsenceProven (sampleDeployment (some (.obj []))) (sampleObserved sampleUnread).1 (sampleObserved sampleUnread).2 := by
  intro proven
  have shown : (sampleObserved sampleUnread).1.filterMap showOf = [⟨1, [], ""⟩] := by rfl
  obtain ⟨error, failed, -⟩ := proven.unread (.inr ⟨⟨1, [], ""⟩, shown ▸ List.mem_singleton_self _, .inl (by decide)⟩)
  have answered : (sampleObserved sampleUnread).2 = .ok (absent 5000) := by rfl
  rw [answered] at failed
  cases failed

end ControlPlane.ProvenAbsence
