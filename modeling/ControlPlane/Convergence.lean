import ControlPlane.TerraformRules

/-!
What the configuration stage proves of an instance. It writes nothing: it plans the
module with the variables that the state of the workspace declares, and succeeds
when that plan is empty. Of the request it reads the profile and the instance.
-/
namespace ControlPlane.Convergence
open ControlPlane.Programs ControlPlane.JsonValues ControlPlane.PlanGate ControlPlane.TerraformVariables
open ControlPlane.ProviderPort ControlPlane.ProxmoxOwnership ControlPlane.TerraformRunner ControlPlane.TerraformProvider ControlPlane.TerraformRules

section
variable {Numeric : Type} (deployment : Deployment Numeric)

/-! ### The claim -/

/-- The state that was read in a directory declares the instance, and the plan that was
    made there with its variables was allowed and is empty. -/
structure Converged (directory : String) (said : List (RunnerExchange Numeric)) (result : ProviderMutationResult)
    (before after : List (RunnerExchange Numeric)) (shown planned document : InvocationResult)
    (declared : InstanceTfvars Numeric) (gate : GateResult) : Prop where
  asked : said = before ++
    [⟨.invoke .showState directory, .ok shown⟩, ⟨.writeVariables directory declared, .ok ()⟩, ⟨.chmod directory, .ok ()⟩,
      ⟨.invoke (.plan false) directory, .ok planned⟩, ⟨.invoke .showPlan directory, .ok document⟩] ++ after
  state : shown.exitCode = 0
  declares : tfvarsFromState deployment.host deployment.configuration (deployment.host.parse shown.stdout) = .ok (some declared)
  exited : planned.exitCode = 0
  judged : evaluatePlan deployment.inherited (deployment.host.parse document.stdout) none = .ok gate
  allowed : gate.decision = .allowed
  empty : ∀ action ∈ ["create", "update", "delete"], plansNone gate action = true
  resource : result.providerResourceId = some (deployment.host.print declared.vmId)

/-- In the directory that was prepared for the workspace of the instance, and after its
    initialization succeeded, the state was found converged. -/
def Proven (request : ApplyInstanceConfigurationRequest) (said : List (RunnerExchange Numeric))
    (result : ProviderMutationResult) : Prop :=
  ∃ instanceId uuid initialized before after shown planned document declared gate,
    present (request.context.bind ProviderCallContext.instanceId) = some instanceId ∧
      initialized.exitCode = 0 ∧
      ⟨.invoke .init (directoryFor deployment (workspaceNameFor instanceId) uuid),
        .ok initialized⟩ ∈ before ∧
      Converged deployment (directoryFor deployment (workspaceNameFor instanceId) uuid) said result
        before after shown planned document declared gate

/-- Two requests of the same profile and instance. -/
def SameInstance (request other : ApplyInstanceConfigurationRequest) : Prop :=
  request.context.bind ProviderCallContext.providerProfileId = other.context.bind ProviderCallContext.providerProfileId ∧
    request.context.bind ProviderCallContext.instanceId = other.context.bind ProviderCallContext.instanceId

end

/-! ### What is asked -/

section
variable {Numeric : Type} {deployment : Deployment Numeric} {past : List (RunnerExchange Numeric)}

theorem quietly_discard_satisfies (path : String) : (quietly (discard deployment path)).Satisfies (fun _ _ => True)
    (fun said done => done = .ok () ∧ ∃ after, said = past ++ after) past := by
  refine satisfies_quietly ?_
  unfold TerraformRunner.discard
  split
  · exact ⟨rfl, [], by simp⟩
  · exact (satisfies_perform (.rm path)).mpr ⟨trivial, fun _ => ⟨rfl, _, rfl⟩⟩

/-- The result of the method, once its directory is prepared. -/
def Concluded (deployment : Deployment Numeric) (request : ApplyInstanceConfigurationRequest)
    (said : List (RunnerExchange Numeric)) (ended : Except Thrown ProviderMutationResult) : Prop :=
  ∀ result, ended = .ok result →
    result.state = some .succeeded ∧ Proven deployment request said result ∨ result.state = some .rejected

theorem Concluded.append {request : ApplyInstanceConfigurationRequest} {said : List (RunnerExchange Numeric)}
    {ended : Except Thrown ProviderMutationResult} (concluded : Concluded deployment request said ended)
    (more : List (RunnerExchange Numeric)) : Concluded deployment request (said ++ more) ended := by
  intro result same
  refine (concluded result same).imp_left (And.imp_right ?_)
  rintro ⟨instanceId, uuid, initialized, before, after, shown, planned, document, declared, gate, named, exited, begun, whole⟩
  refine ⟨instanceId, uuid, initialized, before, after ++ more, shown, planned, document, declared, gate, named, exited, begun, ?_⟩
  exact { whole with asked := by rw [whole.asked, List.append_assoc] }

theorem concluded_error (request : ApplyInstanceConfigurationRequest) (said : List (RunnerExchange Numeric)) (thrown : Thrown) :
    Concluded deployment request said (.error thrown) := fun _ impossible => nomatch impossible

theorem concluded_refused (request : ApplyInstanceConfigurationRequest) (said : List (RunnerExchange Numeric))
    (category : FailureCategory) (code message : String) :
    Concluded deployment request said (.ok (failure category code message)) := by
  rintro result ⟨⟩
  exact .inr rfl

/-- The ids of a request that the adapter accepts. -/
theorem instanceOf_ok {context : Option ProviderCallContext} {instanceId : String}
    (known : instanceOf deployment context = .ok instanceId) :
    present (context.bind ProviderCallContext.instanceId) = some instanceId := by
  obtain ⟨_, -, known⟩ := Tables.bind_ok known
  split at known
  next given => rw [given, Except.ok.inj known]
  next => cases known

/-- A plan that is allowed was shown. -/
theorem planned_allowed {directory : String} {plans : List (RunnerExchange Numeric)} {gate : GateResult}
    {invocation : InvocationResult} (planned : Planned deployment directory false plans (.ok (gate, invocation)))
    (allowed : gate.decision = .allowed) :
    ∃ document, invocation.exitCode = 0 ∧
      evaluatePlan deployment.inherited (deployment.host.parse document.stdout) none = .ok gate ∧
      plans = [⟨.invoke (.plan false) directory, .ok invocation⟩, ⟨.invoke .showPlan directory, .ok document⟩] := by
  generalize same : (Except.ok (gate, invocation) : Except Thrown _) = ended at planned
  cases planned with
  | threw | unshown => cases same
  | failed =>
    obtain ⟨refused, judged, pair⟩ := Tables.bind_ok (ending_ok.mp same.symm)
    cases judged
    cases pair
    cases allowed
  | shown _ exited document =>
    obtain ⟨verdict, judged, pair⟩ := Tables.bind_ok (ending_ok.mp same.symm)
    cases pair
    exact ⟨document, exited, judged, rfl⟩

/-- State that declares an instance was shown. -/
theorem shown_of_declared {shown : InvocationResult} {declared : InstanceTfvars Numeric}
    (read : tfvarsFromState deployment.host deployment.configuration (documentOf deployment shown) = .ok (some declared)) :
    shown.exitCode = 0 ∧
      tfvarsFromState deployment.host deployment.configuration (deployment.host.parse shown.stdout) = .ok (some declared) := by
  unfold documentOf at read
  split at read
  · cases read
  next exited => exact ⟨not_not.mp exited, read⟩

/-- The block between the preparation and the removal of the directory. -/
theorem assertConverged_satisfies {request : ApplyInstanceConfigurationRequest} {instanceId : String} (uuid : String)
    (named : present (request.context.bind ProviderCallContext.instanceId) = some instanceId) :
    (assertConverged deployment (directoryFor deployment (workspaceNameFor instanceId) uuid)
      (workspaceNameFor instanceId)).Satisfies (fun _ _ => True) (Concluded deployment request) past := by
  refine Program.satisfies_bind (init_satisfies _ _) ?_ fun _ _ _ => concluded_error request _ _
  rintro _ initialized ⟨new, rfl, begun⟩
  split
  · exact concluded_error request _ _
  next exited =>
    have exited : initialized.exitCode = 0 := not_not.mp exited
    have asked : (⟨.invoke .init (directoryFor deployment (workspaceNameFor instanceId) uuid), .ok initialized⟩ :
        RunnerExchange Numeric) ∈ past ++ new := by
      cases begun <;> simp
    refine Program.satisfies_bind (declaredState_satisfies _) ?_ fun _ _ _ => concluded_error request _ _
    rintro _ declared ⟨shows, rfl, read⟩
    generalize same : (Except.ok declared : Except Thrown _) = ended at read
    cases read with
    | threw => cases same
    | shown shown =>
      have read := ending_ok.mp same.symm
      cases declared with
      | none => exact concluded_refused request _ _ _ _
      | some declared =>
        dsimp only
        unfold writeVariables
        simp only [bind_assoc]
        refine satisfies_perform_bind.mpr ⟨trivial, fun _ => ?_, fun _ => concluded_error request _ _⟩
        refine satisfies_perform_bind.mpr ⟨trivial, fun _ => ?_, fun _ => concluded_error request _ _⟩
        refine Program.satisfies_bind (plan_satisfies _ _) ?_ fun _ _ _ => concluded_error request _ _
        rintro _ ⟨gate, invocation⟩ ⟨plans, rfl, planned⟩
        dsimp only
        split
        next empty =>
          refine fun result done => .inl ?_
          obtain rfl := Except.ok.inj done
          simp only [converged, Bool.and_eq_true, decide_eq_true_eq] at empty
          obtain ⟨⟨⟨allowed, create⟩, update⟩, delete⟩ := empty
          obtain ⟨document, exited_, judged, rfl⟩ := planned_allowed planned allowed
          refine ⟨rfl, instanceId, uuid, initialized, past ++ new, [], shown, invocation, document, declared, gate, named, exited,
            asked, ?_⟩
          exact {
            asked := by simp
            state := (shown_of_declared read).1
            declares := (shown_of_declared read).2
            exited := exited_
            judged
            allowed
            empty := by simp [create, update, delete]
            resource := rfl }
        next => exact concluded_refused request _ _ _ _

theorem applyInstanceConfiguration_satisfies (request : ApplyInstanceConfigurationRequest) :
    (applyInstanceConfiguration deployment request).Satisfies (fun _ _ => True) (Concluded deployment request) [] := by
  refine satisfies_checked_bind.mpr ⟨fun instanceId known => ?_, fun _ _ => concluded_error request _ _⟩
  refine Program.satisfies_bind (prepare_satisfies _ _ _) ?_ fun _ _ _ => concluded_error request _ _
  rintro _ _ ⟨new, rfl, prepared⟩
  cases prepared with
  | returned uuid =>
    refine Program.satisfies_ensuring (assertConverged_satisfies uuid (instanceOf_ok known)) fun later ended concluded => ?_
    refine (quietly_discard_satisfies _).weaken (fun _ _ _ => trivial) ?_
    rintro _ done ⟨returned, after, rfl⟩
    exact ⟨returned, concluded.append after⟩

end

/-! ### The result -/

/-- The configuration stage succeeds only where the plan of what the state declares is
    empty, refuses or throws elsewhere, and reads no more of its request than the profile
    and the instance. -/
theorem applyInstanceConfiguration_proves {Numeric : Type} (deployment : Deployment Numeric)
    (request : ApplyInstanceConfigurationRequest) (oracle : Oracle (@Call.Answer Numeric)) :
    (∀ result, ((applyInstanceConfiguration deployment request).run oracle []).2 = .ok result →
      result.state = some .succeeded ∧
          Proven deployment request ((applyInstanceConfiguration deployment request).run oracle []).1 result ∨
        result.state = some .rejected) ∧
    ∀ other, SameInstance request other →
      applyInstanceConfiguration deployment other = applyInstanceConfiguration deployment request := by
  refine ⟨(applyInstanceConfiguration_satisfies request).run_post oracle, fun other same => ?_⟩
  unfold applyInstanceConfiguration instanceOf
  rw [same.1, same.2]

/-- A request for four cores. -/
def sampleConfiguring : ApplyInstanceConfigurationRequest :=
  { context := some { operationId := some "c1", instanceId := some "a1", providerProfileId := some "proxmox" },
    providerResourceId := some "910000", resources := some { cpuCount := some 4 } }

/-- Four cores are asked for, the state declares one, and the stage succeeds. -/
theorem applyInstanceConfiguration_other : ∃ result declared,
    ((applyInstanceConfiguration (sampleDeployment (some (sampleState [("cpu", .arr [.obj [("cores", .num "1")]])])))
      sampleConfiguring).run (fun _ => sampleAnswers sampleResults) []).2 = .ok result ∧
    result.state = some .succeeded ∧
    tfvarsFromState sampleHost sampleTerraform (some (sampleState [("cpu", .arr [.obj [("cores", .num "1")]])])) =
      .ok (some declared) ∧
    declared.cpuCores = 1 ∧ (sampleConfiguring.resources.bind InstanceResources.cpuCount) = some 4 :=
  ⟨_, _, rfl, rfl, rfl, rfl, rfl⟩

end ControlPlane.Convergence
