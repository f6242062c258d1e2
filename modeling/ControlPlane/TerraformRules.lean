import ControlPlane.TerraformProvider

/-!
What the parts that the methods of the Terraform adapter share ask, and how they
end, as one description for each part.
-/
namespace ControlPlane.TerraformRules
open ControlPlane.Programs ControlPlane.JsonValues ControlPlane.PlanGate ControlPlane.TerraformVariables
open ControlPlane.ProviderPort ControlPlane.ProxmoxOwnership ControlPlane.TerraformRunner ControlPlane.TerraformProvider

section
variable {Numeric : Type} (deployment : Deployment Numeric)

/-- The directory of a workspace under a random name. -/
def directoryFor (workspace uuid : String) : String :=
  deployment.join deployment.runner.workingRoot (workspace ++ "." ++ uuid)

/-- What is asked for a directory that is returned. -/
def preparation (uuid directory : String) (tfvars : InstanceTfvars Numeric) (purge : Bool) : List (RunnerExchange Numeric) :=
  [⟨.randomUUID, .ok uuid⟩, ⟨.mkdir directory, .ok ()⟩, ⟨.copyModule purge directory, .ok ()⟩,
    ⟨.writeVariables directory tfvars, .ok ()⟩, ⟨.chmod directory, .ok ()⟩]

/-- How a preparation ends. -/
inductive Prepared (workspace : String) (tfvars : InstanceTfvars Numeric) (purge : Bool) :
    List (RunnerExchange Numeric) → Except Thrown String → Prop
  | returned (uuid : String) : Prepared workspace tfvars purge
      (preparation uuid (directoryFor deployment workspace uuid) tfvars purge) (.ok (directoryFor deployment workspace uuid))
  | raised (asked : Nat) (uuid directory : String) (call : Call Numeric) (thrown : Thrown)
      (same : (preparation uuid directory tfvars purge)[asked]?.map Sigma.fst = some call) :
      Prepared workspace tfvars purge ((preparation uuid directory tfvars purge).take asked ++ [⟨call, .error thrown⟩])
        (.error thrown)

/-- How an initialization ends. -/
inductive Initialized (directory workspace : String) : List (RunnerExchange Numeric) → Except Thrown InvocationResult → Prop
  | threw (thrown : Thrown) : Initialized directory workspace [⟨.invoke .init directory, .error thrown⟩] (.error thrown)
  | failed (result : InvocationResult) (exited : result.exitCode ≠ 0) :
      Initialized directory workspace [⟨.invoke .init directory, .ok result⟩] (.ok result)
  | unselected (result : InvocationResult) (exited : result.exitCode = 0)
      (created : Call.Answer (.invoke (.workspaceNew workspace) directory : Call Numeric)) (thrown : Thrown) :
      Initialized directory workspace
        [⟨.invoke .init directory, .ok result⟩, ⟨.invoke (.workspaceNew workspace) directory, created⟩,
          ⟨.invoke (.workspaceSelect workspace) directory, .error thrown⟩] (.error thrown)
  | selected (result : InvocationResult) (exited : result.exitCode = 0)
      (created : Call.Answer (.invoke (.workspaceNew workspace) directory : Call Numeric)) (chosen : InvocationResult) :
      Initialized directory workspace
        [⟨.invoke .init directory, .ok result⟩, ⟨.invoke (.workspaceNew workspace) directory, created⟩,
          ⟨.invoke (.workspaceSelect workspace) directory, .ok chosen⟩] (.ok result)

/-- The document that `terraform show` printed. -/
def documentOf (shown : InvocationResult) : Option Json :=
  if shown.exitCode ≠ 0 then none else deployment.host.parse shown.stdout

/-- An expression, as a method ends with it. -/
def ending {α : Type} : Evaluated α → Except Thrown α
  | .ok value => .ok value
  | .error _ => .error .typeError

/-- How the read of the declared variables ends. -/
inductive Declared (directory : String) : List (RunnerExchange Numeric) → Except Thrown (Option (InstanceTfvars Numeric)) → Prop
  | threw (thrown : Thrown) : Declared directory [⟨.invoke .showState directory, .error thrown⟩] (.error thrown)
  | shown (shown : InvocationResult) : Declared directory [⟨.invoke .showState directory, .ok shown⟩]
      (ending (tfvarsFromState deployment.host deployment.configuration (documentOf deployment shown)))

/-- How a plan ends. -/
inductive Planned (directory : String) (purge : Bool) :
    List (RunnerExchange Numeric) → Except Thrown (GateResult × InvocationResult) → Prop
  | threw (thrown : Thrown) : Planned directory purge [⟨.invoke (.plan purge) directory, .error thrown⟩] (.error thrown)
  | failed (invocation : InvocationResult) (exited : invocation.exitCode ≠ 0) :
      Planned directory purge [⟨.invoke (.plan purge) directory, .ok invocation⟩]
        (ending (do return (← evaluatePlan deployment.inherited none none, invocation)))
  | unshown (invocation : InvocationResult) (exited : invocation.exitCode = 0) (thrown : Thrown) :
      Planned directory purge
        [⟨.invoke (.plan purge) directory, .ok invocation⟩, ⟨.invoke .showPlan directory, .error thrown⟩] (.error thrown)
  | shown (invocation : InvocationResult) (exited : invocation.exitCode = 0) (shown : InvocationResult) :
      Planned directory purge
        [⟨.invoke (.plan purge) directory, .ok invocation⟩, ⟨.invoke .showPlan directory, .ok shown⟩]
        (ending (do return (← evaluatePlan deployment.inherited (deployment.host.parse shown.stdout)
          (if purge then some instanceAddress else none), invocation)))

/-- How a directory is disposed of: one elsewhere is kept. -/
inductive Disposed (directory : String) : List (RunnerExchange Numeric) → Prop
  | elsewhere (outside : underRoot deployment directory = false) : Disposed directory []
  | asked (inside : underRoot deployment directory = true) (answer : Except Thrown Unit) :
      Disposed directory [⟨.rm directory, answer⟩]

/-- How the read that a change begins with ends. -/
inductive Read (workspace : String) (purge : Bool) (change : String) : List (RunnerExchange Numeric) →
    Except Thrown (Except ProviderMutationResult (String × InstanceTfvars Numeric)) → Prop
  | unprepared (made : List (RunnerExchange Numeric)) (thrown : Thrown)
      (prepared : Prepared deployment workspace (probeTfvars deployment.host deployment.configuration) purge made (.error thrown)) :
      Read workspace purge change made (.error thrown)
  | uninitialized (uuid : String) (begun : List (RunnerExchange Numeric)) (thrown : Thrown)
      (initialized : Initialized (directoryFor deployment workspace uuid) workspace begun (.error thrown)) :
      Read workspace purge change
        (preparation uuid (directoryFor deployment workspace uuid) (probeTfvars deployment.host deployment.configuration) purge ++
          begun) (.error thrown)
  | unreachable (uuid : String) (result : InvocationResult) (exited : result.exitCode ≠ 0)
      (removal : List (RunnerExchange Numeric)) (disposed : Disposed deployment (directoryFor deployment workspace uuid) removal) :
      Read workspace purge change
        (preparation uuid (directoryFor deployment workspace uuid) (probeTfvars deployment.host deployment.configuration) purge ++
          ⟨.invoke .init (directoryFor deployment workspace uuid), .ok result⟩ :: removal) (.error backendUnreachable)
  | unread (uuid : String) (begun : List (RunnerExchange Numeric)) (result : InvocationResult) (exited : result.exitCode = 0)
      (initialized : Initialized (directoryFor deployment workspace uuid) workspace begun (.ok result))
      (shown : List (RunnerExchange Numeric)) (thrown : Thrown)
      (declares : Declared deployment (directoryFor deployment workspace uuid) shown (.error thrown)) :
      Read workspace purge change
        (preparation uuid (directoryFor deployment workspace uuid) (probeTfvars deployment.host deployment.configuration) purge ++
          begun ++ shown) (.error thrown)
  | absent (uuid : String) (begun : List (RunnerExchange Numeric)) (result : InvocationResult) (exited : result.exitCode = 0)
      (initialized : Initialized (directoryFor deployment workspace uuid) workspace begun (.ok result))
      (shown : List (RunnerExchange Numeric))
      (declares : Declared deployment (directoryFor deployment workspace uuid) shown (.ok none))
      (removal : List (RunnerExchange Numeric)) (disposed : Disposed deployment (directoryFor deployment workspace uuid) removal) :
      Read workspace purge change
        (preparation uuid (directoryFor deployment workspace uuid) (probeTfvars deployment.host deployment.configuration) purge ++
          begun ++ shown ++ removal)
        (.ok (.error (failure .unknownOutcome "TERRAFORM_STATE_ABSENT" ("The instance has no Terraform state to " ++ change ++ "."))))
  | declared (uuid : String) (begun : List (RunnerExchange Numeric)) (result : InvocationResult) (exited : result.exitCode = 0)
      (initialized : Initialized (directoryFor deployment workspace uuid) workspace begun (.ok result))
      (shown : List (RunnerExchange Numeric)) (declared : InstanceTfvars Numeric)
      (declares : Declared deployment (directoryFor deployment workspace uuid) shown (.ok (some declared))) :
      Read workspace purge change
        (preparation uuid (directoryFor deployment workspace uuid) (probeTfvars deployment.host deployment.configuration) purge ++
          begun ++ shown)
        (.ok (.ok (directoryFor deployment workspace uuid, declared)))

@[simp] theorem ending_ok {α : Type} {expression : Evaluated α} {value : α} :
    ending expression = .ok value ↔ expression = .ok value := by
  cases expression <;> simp [ending]

/-! ### The parts -/

variable {deployment} {past : List (RunnerExchange Numeric)}

theorem prepare_satisfies (workspace : String) (tfvars : InstanceTfvars Numeric) (purge : Bool) :
    (prepare deployment workspace tfvars purge).Satisfies (fun _ _ => True)
      (fun said ended => ∃ new, said = past ++ new ∧ Prepared deployment workspace tfvars purge new ended) past := by
  unfold prepare writeVariables
  simp only [bind_assoc]
  refine satisfies_perform_bind.mpr ⟨trivial, fun uuid => ?_, fun thrown => ?_⟩
  · refine satisfies_perform_bind.mpr ⟨trivial, fun _ => ?_, fun thrown => ?_⟩
    · refine satisfies_perform_bind.mpr ⟨trivial, fun _ => ?_, fun thrown => ?_⟩
      · refine satisfies_perform_bind.mpr ⟨trivial, fun _ => ?_, fun thrown => ?_⟩
        · refine satisfies_perform_bind.mpr ⟨trivial, fun _ => ?_, fun thrown => ?_⟩
          · exact ⟨_, by simp only [List.append_assoc]; rfl, .returned uuid⟩
          · exact ⟨_, by simp only [List.append_assoc]; rfl, .raised 4 uuid _ (.chmod _) thrown rfl⟩
        · exact ⟨_, by simp only [List.append_assoc]; rfl, .raised 3 uuid _ (.writeVariables _ _) thrown rfl⟩
      · exact ⟨_, by simp only [List.append_assoc]; rfl, .raised 2 uuid _ (.copyModule _ _) thrown rfl⟩
    · exact ⟨_, by simp only [List.append_assoc]; rfl, .raised 1 uuid _ (.mkdir _) thrown rfl⟩
  · exact ⟨_, rfl, .raised 0 "" "" .randomUUID thrown rfl⟩

theorem init_satisfies (directory workspace : String) :
    (init directory workspace : Method Numeric InvocationResult).Satisfies (fun _ _ => True)
      (fun said ended => ∃ new, said = past ++ new ∧ Initialized directory workspace new ended) past := by
  refine satisfies_perform_bind.mpr ⟨trivial, fun result => ?_, fun thrown => ⟨_, rfl, .threw thrown⟩⟩
  split
  next exited =>
    refine satisfies_quiet_bind.mpr ⟨trivial, fun created => ?_⟩
    refine satisfies_perform_bind.mpr ⟨trivial, fun chosen => ?_, fun thrown => ?_⟩
    · exact ⟨_, by simp only [List.append_assoc]; rfl, .selected result exited created chosen⟩
    · exact ⟨_, by simp only [List.append_assoc]; rfl, .unselected result exited created thrown⟩
  next exited => exact ⟨_, rfl, .failed result exited⟩

theorem declaredState_satisfies (directory : String) : (declaredState deployment directory).Satisfies (fun _ _ => True)
    (fun said ended => ∃ new, said = past ++ new ∧ Declared deployment directory new ended) past := by
  unfold declaredState readState
  rw [bind_assoc]
  refine satisfies_perform_bind.mpr ⟨trivial, fun shown => ?_, fun thrown => ⟨_, rfl, .threw thrown⟩⟩
  have whole : ∀ document, documentOf deployment shown = document →
      (evaluated (tfvarsFromState deployment.host deployment.configuration document)).Satisfies (fun _ _ => True)
        (fun said ended => ∃ new, said = past ++ new ∧ Declared deployment directory new ended)
        (past ++ [⟨.invoke .showState directory, .ok shown⟩]) := by
    rintro _ rfl
    have ends := @Declared.shown Numeric deployment directory shown
    cases read : tfvarsFromState deployment.host deployment.configuration (documentOf deployment shown) with
    | ok declared =>
      rw [read] at ends
      exact ⟨_, rfl, ends⟩
    | error error =>
      rw [read] at ends
      exact ⟨_, rfl, ends⟩
  split
  next exited => exact whole none (if_pos exited)
  next exited => exact whole _ (if_neg exited)

theorem plan_satisfies (directory : String) (purge : Bool) : (plan deployment directory purge).Satisfies (fun _ _ => True)
    (fun said ended => ∃ new, said = past ++ new ∧ Planned deployment directory purge new ended) past := by
  refine satisfies_perform_bind.mpr ⟨trivial, fun invocation => ?_, fun thrown => ⟨_, rfl, .threw thrown⟩⟩
  split
  next exited =>
    have ends := @Planned.failed Numeric deployment directory purge invocation exited
    refine satisfies_evaluated_bind.mpr ⟨fun gate judged => ?_, fun error judged => ?_⟩ <;>
    · rw [judged] at ends
      exact ⟨_, rfl, ends⟩
  next exited =>
    have exited : invocation.exitCode = 0 := not_not.mp exited
    refine satisfies_perform_bind.mpr ⟨trivial, fun shown => ?_, fun thrown => ?_⟩
    · have ends := @Planned.shown Numeric deployment directory purge invocation exited shown
      refine satisfies_evaluated_bind.mpr ⟨fun gate judged => ?_, fun error judged => ?_⟩ <;>
      · rw [judged] at ends
        exact ⟨_, List.append_assoc .., ends⟩
    · exact ⟨_, List.append_assoc .., .unshown invocation exited thrown⟩

theorem discard_satisfies (directory : String) : (quietly (discard deployment directory)).Satisfies (fun _ _ => True)
    (fun said done => done = .ok () ∧ ∃ new, said = past ++ new ∧ Disposed deployment directory new) past := by
  refine satisfies_quietly ?_
  unfold TerraformRunner.discard
  split
  next outside => exact ⟨rfl, [], by simp, .elsewhere (by simpa using outside)⟩
  next inside =>
    exact (satisfies_perform (.rm directory)).mpr ⟨trivial, fun answer => ⟨rfl, _, rfl, .asked (by simpa using inside) answer⟩⟩

theorem readDeclared_satisfies (workspace : String) (purge : Bool) (change : String) :
    (readDeclared deployment workspace purge change).Satisfies (fun _ _ => True)
      (fun said ended => ∃ new, said = past ++ new ∧ Read deployment workspace purge change new ended) past := by
  refine Program.satisfies_bind (prepare_satisfies _ _ _) ?_ ?_
  · rintro _ _ ⟨made, rfl, prepared⟩
    cases prepared with
    | returned uuid =>
      refine Program.satisfies_bind (init_satisfies _ _) ?_ ?_
      · rintro _ result ⟨begun, rfl, initialized⟩
        split
        next exited =>
          refine Program.satisfies_bind (discard_satisfies _) ?_ ?_
          · rintro _ _ ⟨-, removal, rfl, disposed⟩
            generalize same : (Except.ok result : Except Thrown _) = ended at initialized
            cases initialized with
            | threw | unselected => cases same
            | selected _ zero => cases same; exact absurd zero exited
            | failed _ _ =>
              cases same
              exact ⟨_, by simp, .unreachable uuid result exited removal disposed⟩
          · rintro _ _ ⟨impossible, -⟩
            cases impossible
        next exited =>
          have exited : result.exitCode = 0 := not_not.mp exited
          refine Program.satisfies_bind (declaredState_satisfies _) ?_ ?_
          · rintro _ declared ⟨shown, rfl, declares⟩
            cases declared with
            | none =>
              refine Program.satisfies_bind (discard_satisfies _) ?_ ?_
              · rintro _ _ ⟨-, removal, rfl, disposed⟩
                exact ⟨_, by simp, .absent uuid begun result exited initialized shown declares removal disposed⟩
              · rintro _ _ ⟨impossible, -⟩
                cases impossible
            | some declared => exact ⟨_, by simp, .declared uuid begun result exited initialized shown declared declares⟩
          · rintro _ thrown ⟨shown, rfl, declares⟩
            exact ⟨_, by simp, .unread uuid begun result exited initialized shown thrown declares⟩
      · rintro _ thrown ⟨begun, rfl, initialized⟩
        exact ⟨_, by simp, .uninitialized uuid begun thrown initialized⟩
  · rintro _ thrown ⟨made, rfl, prepared⟩
    exact ⟨_, rfl, .unprepared made thrown prepared⟩

end

/-! ### Kinds of questions -/

section
variable {Numeric α β : Type} {kind other : Call Numeric → Bool} {method : Method Numeric α} {next : α → Method Numeric β}

/-- A method that asks questions of one kind only, whatever was said before it. -/
def Asks (kind : Call Numeric → Bool) (method : Method Numeric α) : Prop :=
  ∀ past, method.Satisfies (fun _ call => kind call = true) (fun _ _ => True) past

theorem Asks.bind (first : Asks kind method) (rest : ∀ value, Asks kind (next value)) : Asks kind (method >>= next) :=
  fun past => Program.satisfies_bind_any (first past) fun later value => rest value later

theorem asks_perform {call : Call Numeric} (allowed : kind call = true) : Asks kind (perform call) :=
  fun _ => (satisfies_perform call).mpr ⟨allowed, fun _ => trivial⟩

theorem asks_done (value : α) : Asks kind (.done value : Method Numeric α) := fun _ => trivial

theorem asks_raise (thrown : Thrown) : Asks kind (.raise thrown : Method Numeric α) := fun _ => trivial

theorem asks_evaluated (expression : Evaluated α) : Asks kind (evaluated expression : Method Numeric α) := by
  cases expression <;> exact fun _ => trivial

theorem asks_checked (check : Except ProviderTransportError α) : Asks kind (checked check : Method Numeric α) := by
  cases check <;> exact fun _ => trivial

theorem Asks.catching {recover : Thrown → Method Numeric α} (first : Asks kind method) (rest : ∀ thrown, Asks kind (recover thrown)) :
    Asks kind (method.catching recover) :=
  fun past => Program.satisfies_catching (first past) (fun _ _ _ => trivial) fun later thrown _ => rest thrown later

theorem Asks.quietly {method : Method Numeric Unit} (first : Asks kind method) : Asks kind (quietly method) :=
  first.catching fun _ => asks_done ()

theorem Asks.attempt (first : Asks kind method) : Asks kind method.attempt := fun past => Program.satisfies_attempt (first past)

theorem Asks.ensuring {cleanup : Method Numeric Unit} (first : Asks kind method) (after : Asks kind cleanup) :
    Asks kind (method.ensuring cleanup) :=
  first.attempt.bind fun ended => after.bind fun _ => by cases ended <;> exact fun _ => trivial

theorem Asks.mono (asks : Asks kind method) (weaker : ∀ call, kind call = true → other call = true) : Asks other method :=
  fun past => (asks past).weaken (fun _ call => weaker call) fun _ _ _ => trivial

/-- What such a method adds to the conversation. -/
theorem Asks.adds (asks : Asks kind method) (past : List (RunnerExchange Numeric)) :
    method.Satisfies (fun _ _ => True)
      (fun said _ => ∃ new, said = past ++ new ∧ ∀ exchange ∈ new, kind exchange.1 = true) past :=
  (asks past).adds.weaken (fun _ _ _ => trivial) fun _ _ added => added.2

variable {deployment : Deployment Numeric} {directory : String}

section
variable (invokes : ∀ invocation place, kind (.invoke invocation place) = true)
include invokes

theorem asks_invocation (invocation : Invocation) (directory : String) :
    Asks kind (startInvocation invocation directory : Method Numeric InvocationResult) :=
  @asks_perform Numeric kind (.invoke invocation directory) (invokes invocation directory)

theorem asks_init (workspace : String) : Asks kind (init directory workspace : Method Numeric InvocationResult) := by
  refine (asks_invocation invokes _ _).bind fun result => ?_
  split
  · exact ((asks_invocation invokes _ _).bind fun _ => asks_done ()).quietly.bind fun _ =>
      (asks_invocation invokes _ _).bind fun _ => asks_done _
  · exact asks_done _

theorem asks_plan (purge : Bool) : Asks kind (plan deployment directory purge) := by
  refine (asks_invocation invokes _ _).bind fun invocation => ?_
  split
  · exact (asks_evaluated _).bind fun _ => asks_done _
  · exact (asks_invocation invokes _ _).bind fun _ => (asks_evaluated _).bind fun _ => asks_done _

theorem asks_apply (gate : GateResult) : Asks kind (apply directory gate : Method Numeric InvocationResult) := by
  unfold apply
  split
  · exact asks_invocation invokes _ _
  · exact (asks_evaluated _).bind fun _ => asks_raise _

theorem asks_readState : Asks kind (readState deployment directory) := by
  refine (asks_invocation invokes _ _).bind fun shown => ?_
  split <;> exact asks_done _

theorem asks_declaredState : Asks kind (declaredState deployment directory) :=
  (asks_readState invokes).bind fun _ => asks_evaluated _

theorem asks_stateMetadata : Asks kind (stateMetadata deployment directory) := by
  refine (asks_invocation invokes _ _).bind fun pulled => ?_
  repeat' split
  all_goals exact asks_done _

theorem asks_deleteWorkspace (workspace : String) : Asks kind (deleteWorkspace directory workspace : Method Numeric InvocationResult) :=
  ((asks_invocation invokes _ _).bind fun _ => asks_done ()).quietly.bind fun _ => asks_invocation invokes _ _

theorem asks_observeState (workspace : String) (expected : Option OwnershipMarkers) (observedAt : Nat) :
    Asks kind (observeState deployment directory workspace expected observedAt) := by
  refine (asks_init invokes _).bind fun initialized => ?_
  split
  · exact asks_raise _
  · refine (asks_invocation invokes _ _).bind fun _ => (asks_readState invokes).bind fun _ => (asks_evaluated _).bind fun found => ?_
    cases found with
    | none => exact asks_done _
    | some => exact (asks_evaluated _).bind fun _ => asks_evaluated _

theorem asks_checkModule (summarize : Diagnostics.Field → String) : Asks kind (checkModule deployment summarize directory) := by
  refine (asks_invocation invokes _ _).attempt.bind fun ended => ?_
  cases ended with
  | error => exact asks_done _
  | ok initialized =>
    dsimp only
    split
    · exact asks_done _
    · refine (asks_invocation invokes _ _).attempt.bind fun ended => ?_
      cases ended with
      | error => exact asks_done _
      | ok validated => dsimp only; split <;> exact asks_done _

section
variable (records : ∀ input, kind (.recordWorkspace input) = true)
include records

theorem asks_recordApplied (runId : String) (input : ApplyInput Numeric) (result : InvocationResult) :
    Asks kind (recordApplied deployment runId directory input result) := by
  unfold recordApplied
  split
  · refine Asks.bind ?_ fun read => ?_
    · split
      · exact asks_done _
      · exact asks_stateMetadata invokes
    · refine (@asks_perform Numeric kind (.recordWorkspace _) (records _)).bind fun _ => ?_
      split
      · exact ((asks_deleteWorkspace invokes _).bind fun _ => asks_done ()).quietly
      · exact asks_done _
  · exact @asks_perform Numeric kind (.recordWorkspace _) (records _)

omit invokes in
theorem asks_recordUnknown (instanceId : String) : Asks kind (recordUnknown instanceId : Method Numeric Unit) :=
  (@asks_perform Numeric kind (.recordWorkspace _) (records _)).quietly

theorem asks_refreshAndRecord (instanceId : String) (driftState : TerraformInventory.DriftState) :
    Asks kind (refreshAndRecord deployment directory instanceId driftState) := by
  refine (asks_init invokes _).bind fun initialized => ?_
  split
  · exact asks_done _
  · refine (asks_invocation invokes _ _).bind fun _ => (asks_stateMetadata invokes).bind fun read => ?_
    exact @asks_perform Numeric kind (.recordWorkspace _) (records _)

end

end

theorem asks_direct : Asks kind (direct deployment) := by
  unfold direct
  split
  · exact asks_raise _
  · exact asks_done _

theorem asks_assertLiveOwnership (configs : ∀ vmid, kind (.config vmid) = true) (vmid : Int) (expected : Option OwnershipMarkers) :
    Asks kind (assertLiveOwnership deployment vmid expected) := by
  unfold assertLiveOwnership
  cases expected with
  | none => exact asks_raise _
  | some expected =>
    refine asks_direct.bind fun _ => (@asks_perform Numeric kind (.config vmid) (configs vmid)).bind fun config => ?_
    dsimp only
    repeat' split
    all_goals first | exact asks_raise _ | exact asks_done _

end

end ControlPlane.TerraformRules
