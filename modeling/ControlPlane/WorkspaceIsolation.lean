import ControlPlane.WorkingDirectories

/-!
The workspace in which a command of Terraform runs. A directory that was just
initialized is in the workspace named default, until another one is created or
selected in it. Whether that worked is not read.
-/
namespace ControlPlane.WorkspaceIsolation
open ControlPlane.Programs ControlPlane.Domain ControlPlane.ProviderPort ControlPlane.ProxmoxOwnership ControlPlane.JsonValues
open ControlPlane.TerraformVariables ControlPlane.TerraformInventory
open ControlPlane.TerraformRunner ControlPlane.TerraformProvider ControlPlane.TerraformRules ControlPlane.WorkingDirectories

section
variable {Numeric : Type}

/-! ### The selected workspace -/

/-- The commands that read or change the state of a workspace, or a plan against it. -/
def stateful : Invocation → Bool
  | .plan _ | .showPlan | .apply | .refresh | .showState | .statePull => true
  | _ => false

/-- What an exchange makes of the workspace that is selected in a directory. -/
def reselect (directory workspace : String) : RunnerExchange Numeric → String
  | ⟨.invoke .init place, _⟩ => if place = directory then "default" else workspace
  | ⟨.invoke (.workspaceNew name) place, .ok result⟩ =>
    if place = directory ∧ result.exitCode = 0 then name else workspace
  | ⟨.invoke (.workspaceSelect name) place, .ok result⟩ =>
    if place = directory ∧ result.exitCode = 0 then name else workspace
  | _ => workspace

/-- The workspace that is selected in a directory. -/
def selected (directory : String) (said : List (RunnerExchange Numeric)) : String := said.foldl (reselect directory) "default"

/-- An event somewhere in a conversation, given what was said before it. -/
def Occurs (event : List (RunnerExchange Numeric) → RunnerExchange Numeric → Prop) (said : List (RunnerExchange Numeric)) : Prop :=
  ∃ before exchange after, said = before ++ exchange :: after ∧ event before exchange

/-- A command on the state, while another workspace is selected. -/
def Strays (workspace : String) (before : List (RunnerExchange Numeric)) : RunnerExchange Numeric → Prop
  | ⟨.invoke invocation directory, _⟩ => stateful invocation = true ∧ selected directory before ≠ workspace
  | _ => False

/-- The workspace could not be selected, and creating it had not selected it either. -/
def Unselected (workspace : String) (before : List (RunnerExchange Numeric)) : RunnerExchange Numeric → Prop
  | ⟨.invoke (.workspaceSelect name) directory, .ok chosen⟩ =>
    name = workspace ∧ chosen.exitCode ≠ 0 ∧ selected directory before ≠ workspace
  | _ => False

/-- The workspace of the instance that a call is about. -/
def workspaceOf (call : ProviderCall) : String :=
  workspaceNameFor ((call.context.bind ProviderCallContext.instanceId).getD "")

section
variable {event : List (RunnerExchange Numeric) → RunnerExchange Numeric → Prop} {said new : List (RunnerExchange Numeric)}
  {exchange : RunnerExchange Numeric}

theorem occurs_concat : Occurs event (said ++ [exchange]) ↔ Occurs event said ∨ event said exchange := by
  constructor
  · rintro ⟨before, found, after, split, happens⟩
    rcases List.eq_nil_or_concat after with rfl | ⟨rest, last, rfl⟩
    · obtain ⟨rfl, same⟩ := List.append_inj' split rfl
      obtain rfl := (List.cons.inj same).1
      exact .inr happens
    · have split : said ++ [exchange] = (before ++ found :: rest) ++ [last] := by simpa using split
      exact .inl ⟨before, found, rest, (List.append_inj' split rfl).1, happens⟩
  · rintro (⟨before, found, after, rfl, happens⟩ | happens)
    · exact ⟨before, found, after ++ [exchange], by simp, happens⟩
    · exact ⟨said, exchange, [], rfl, happens⟩

theorem selected_concat (directory : String) : selected directory (said ++ [exchange]) = reselect directory (selected directory said) exchange := by
  rw [selected, List.foldl_append]
  rfl

end

/-! ### Assertions -/

section
variable (workspace directory : String) (said : List (RunnerExchange Numeric))

/-- Commands have strayed exactly if a selection had failed. -/
def Matched : Prop := Occurs (Strays workspace) said ↔ Occurs (Unselected workspace) said

/-- A command in the directory keeps that so. -/
def Settled : Prop :=
  selected directory said = workspace ∧ Matched workspace said ∨
    Occurs (Strays workspace) said ∧ Occurs (Unselected workspace) said

/-- A command in the directory makes it so. -/
def Primed : Prop := Settled workspace directory said ∨ selected directory said ≠ workspace ∧ Occurs (Unselected workspace) said

end

/-- What a method makes of an assertion, however it ends. -/
def Makes {α : Type} (before after : List (RunnerExchange Numeric) → Prop) (method : Method Numeric α) : Prop :=
  ∀ past, before past → method.Satisfies (fun _ _ => True) (fun said _ => after said) past

/-- Questions that are not put to Terraform. -/
def silent : Call Numeric → Bool
  | .invoke .. => false
  | _ => true

/-- Questions that are not put to Terraform, and commands on the state in a directory. -/
def within (directory : String) : Call Numeric → Bool
  | .invoke invocation place => stateful invocation && place = directory
  | _ => true

section
variable {α β : Type} {before middle after : List (RunnerExchange Numeric) → Prop} {method : Method Numeric α}
  {next : α → Method Numeric β} {workspace directory : String} {said : List (RunnerExchange Numeric)} {exchange : RunnerExchange Numeric}
  {kind : Call Numeric → Bool}

theorem Makes.bind (first : Makes before middle method) (rest : ∀ value, Makes middle after (next value))
    (weaker : ∀ said, middle said → after said) : Makes before after (method >>= next) := fun past holds =>
  Program.satisfies_bind (first past holds) (fun later value reached => rest value later reached) fun later _ reached => weaker later reached

theorem Makes.weaken {weaker : List (RunnerExchange Numeric) → Prop} (makes : Makes before after method)
    (implies : ∀ said, after said → weaker said) : Makes before weaker method := fun past holds =>
  (makes past holds).weaken (fun _ _ _ => trivial) fun said _ => implies said

theorem Makes.given {stronger : List (RunnerExchange Numeric) → Prop} (makes : Makes before after method)
    (implies : ∀ said, stronger said → before said) : Makes stronger after method := fun past holds => makes past (implies past holds)

theorem makes_done (value : α) : Makes before before (.done value : Method Numeric α) := fun _ holds => holds

theorem makes_raise (thrown : Thrown) : Makes before before (.raise thrown : Method Numeric α) := fun _ holds => holds

/-- Questions of a kind that keeps an assertion. -/
theorem makes_asks (stable : ∀ said exchange, kind exchange.1 = true → before said → before (said ++ [exchange]))
    (asks : Asks kind method) : Makes before before method := by
  intro past holds
  refine (asks.adds past).weaken (fun _ _ _ => trivial) ?_
  rintro _ - ⟨new, rfl, kinds⟩
  induction new generalizing past with
  | nil => simpa using holds
  | cons exchange rest ih =>
    have kept := stable past exchange (kinds exchange List.mem_cons_self) holds
    have split : past ++ exchange :: rest = past ++ [exchange] ++ rest := by simp
    rw [split]
    exact ih _ kept fun exchange member => kinds exchange (List.mem_cons_of_mem _ member)

/-! ### What each question makes of them -/

theorem reselect_silent (quiet : silent exchange.1 = true) : reselect directory workspace exchange = workspace := by
  obtain ⟨call, answer⟩ := exchange
  cases call <;> first | rfl | cases quiet

theorem strays_silent (quiet : silent exchange.1 = true) : ¬ Strays workspace said exchange := by
  obtain ⟨call, answer⟩ := exchange
  cases call <;> first | exact id | cases quiet

theorem unselected_silent (quiet : silent exchange.1 = true) : ¬ Unselected workspace said exchange := by
  obtain ⟨call, answer⟩ := exchange
  cases call <;> first | exact id | cases quiet

theorem occurs_of_not {event : List (RunnerExchange Numeric) → RunnerExchange Numeric → Prop} (never : ¬ event said exchange) :
    Occurs event (said ++ [exchange]) ↔ Occurs event said := by
  rw [occurs_concat, or_iff_left never]

theorem matched_silent (quiet : silent exchange.1 = true) (matched : Matched workspace said) : Matched workspace (said ++ [exchange]) := by
  rwa [Matched, occurs_of_not (strays_silent quiet), occurs_of_not (unselected_silent quiet)]

theorem settled_silent (quiet : silent exchange.1 = true) (settled : Settled workspace directory said) :
    Settled workspace directory (said ++ [exchange]) := by
  rwa [Settled, selected_concat, reselect_silent quiet, Matched, occurs_of_not (strays_silent quiet),
    occurs_of_not (unselected_silent quiet)]

theorem Settled.matched (settled : Settled workspace directory said) : Matched workspace said := by
  rcases settled with ⟨-, matched⟩ | ⟨strayed, failed⟩
  · exact matched
  · exact iff_of_true strayed failed

/-- A command on the state selects nothing. -/
theorem reselect_command {invocation : Invocation} (works : stateful invocation = true) (place : String)
    (answer : Call.Answer (.invoke invocation place : Call Numeric)) :
    reselect directory workspace (⟨.invoke invocation place, answer⟩ : RunnerExchange Numeric) = workspace := by
  cases invocation <;> first | rfl | cases works

theorem unselected_command {invocation : Invocation} (works : stateful invocation = true) (place : String)
    (answer : Call.Answer (.invoke invocation place : Call Numeric)) :
    ¬ Unselected workspace said (⟨.invoke invocation place, answer⟩ : RunnerExchange Numeric) := by
  cases invocation <;> first | exact id | cases works

/-- A command in the directory. -/
theorem command_settles {invocation : Invocation} (works : stateful invocation = true)
    (answer : Call.Answer (.invoke invocation directory : Call Numeric)) (primed : Primed workspace directory said) :
    Settled workspace directory (said ++ [⟨.invoke invocation directory, answer⟩]) := by
  have failures : Occurs (Unselected workspace) (said ++ [⟨.invoke invocation directory, answer⟩]) ↔
      Occurs (Unselected workspace) said := occurs_of_not (unselected_command works directory answer)
  have strays : Strays workspace said (⟨.invoke invocation directory, answer⟩ : RunnerExchange Numeric) ↔
      selected directory said ≠ workspace := and_iff_right works
  rw [Settled, selected_concat, reselect_command works, Matched, occurs_concat, strays, failures]
  rcases primed with (⟨chosen, matched⟩ | ⟨strayed, failed⟩) | ⟨other, failed⟩
  · refine .inl ⟨chosen, ?_⟩
    rw [or_iff_left (not_not.mpr chosen)]
    exact matched
  · exact .inr ⟨.inl strayed, failed⟩
  · exact .inr ⟨.inr other, failed⟩

theorem settled_within (inside : within directory exchange.1 = true) (settled : Settled workspace directory said) :
    Settled workspace directory (said ++ [exchange]) := by
  obtain ⟨call, answer⟩ := exchange
  cases call with
  | invoke invocation place =>
    obtain ⟨works, same⟩ := Bool.and_eq_true_iff.mp inside
    obtain rfl : place = directory := of_decide_eq_true same
    exact command_settles works answer (.inl settled)
  | _ => exact settled_silent rfl settled

/-! ### Initialization -/

/-- How a directory is left by its initialization. -/
def Initializes (workspace directory : String) (said : List (RunnerExchange Numeric)) : Except Thrown InvocationResult → Prop
  | .ok result => if result.exitCode = 0 then Primed workspace directory said else Matched workspace said
  | .error _ => Matched workspace said

theorem matched_plain (calm : ¬ Strays workspace said exchange) (unfailed : ¬ Unselected workspace said exchange)
    (matched : Matched workspace said) : Matched workspace (said ++ [exchange]) := by
  rwa [Matched, occurs_of_not calm, occurs_of_not unfailed]

/-- The last step of an initialization. -/
theorem chosen_primes (chosen : InvocationResult) (matched : Matched workspace said) :
    Primed workspace directory (said ++ [⟨.invoke (.workspaceSelect workspace) directory, .ok chosen⟩]) := by
  have calm : ¬ Strays workspace said (⟨.invoke (.workspaceSelect workspace) directory, .ok chosen⟩ : RunnerExchange Numeric) := by
    simp [Strays, stateful]
  by_cases exited : chosen.exitCode = 0
  · refine .inl (.inl ⟨by simp [selected_concat, reselect, exited], matched_plain calm ?_ matched⟩)
    simp [Unselected, exited]
  · have kept : selected directory (said ++ [⟨.invoke (.workspaceSelect workspace) directory, .ok chosen⟩]) = selected directory said := by
      simp [selected_concat, reselect, exited]
    by_cases already : selected directory said = workspace
    · refine .inl (.inl ⟨kept.trans already, matched_plain calm ?_ matched⟩)
      simp [Unselected, already]
    · exact .inr ⟨kept ▸ already, occurs_concat.mpr (.inr ⟨rfl, exited, already⟩)⟩

theorem init_primes {past : List (RunnerExchange Numeric)} (matched : Matched workspace past) :
    (init directory workspace).Satisfies (fun _ _ => True) (Initializes workspace directory) past := by
  have initialized (answer : Call.Answer (.invoke .init directory : Call Numeric)) :
      Matched workspace (past ++ [⟨.invoke .init directory, answer⟩]) :=
    matched_plain (by simp [Strays, stateful]) (by simp [Unselected]) matched
  refine satisfies_perform_bind.mpr ⟨trivial, fun result => ?_, fun thrown => initialized _⟩
  split
  next exited =>
    refine satisfies_quiet_bind.mpr ⟨trivial, fun created => ?_⟩
    have matched : Matched workspace (past ++ [⟨.invoke .init directory, .ok result⟩] ++
        [⟨.invoke (.workspaceNew workspace) directory, created⟩]) :=
      matched_plain (by simp [Strays, stateful]) (by simp [Unselected]) (initialized (.ok result))
    refine satisfies_perform_bind.mpr ⟨trivial, fun chosen => ?_, fun thrown => ?_⟩
    · show Initializes workspace directory _ (.ok result)
      rw [Initializes, if_pos exited]
      exact chosen_primes chosen matched
    · exact matched_plain (by simp [Strays, stateful]) (by simp [Unselected]) matched
  next exited =>
    show Initializes workspace directory _ (.ok result)
    rw [Initializes, if_neg exited]
    exact initialized _

/-- An initialization, and what follows it in the directory or after its failure. -/
theorem init_bind {next : InvocationResult → Method Numeric β} {post : List (RunnerExchange Numeric) → Except Thrown β → Prop}
    (ready : ∀ result, result.exitCode = 0 → ∀ past, Primed workspace directory past →
      (next result).Satisfies (fun _ _ => True) post past)
    (failed : ∀ result, result.exitCode ≠ 0 → ∀ past, Matched workspace past → (next result).Satisfies (fun _ _ => True) post past)
    (raised : ∀ past thrown, Matched workspace past → post past (.error thrown)) {past : List (RunnerExchange Numeric)}
    (matched : Matched workspace past) : (init directory workspace >>= next).Satisfies (fun _ _ => True) post past := by
  refine Program.satisfies_bind (init_primes matched) (fun later result initialized => ?_) fun later thrown => raised later thrown
  by_cases exited : result.exitCode = 0
  · exact ready result exited later (by rwa [Initializes, if_pos exited] at initialized)
  · exact failed result exited later (by rwa [Initializes, if_neg exited] at initialized)

theorem makes_init {next : InvocationResult → Method Numeric β}
    (ready : ∀ result, result.exitCode = 0 → Makes (Primed workspace directory) (Matched workspace) (next result))
    (failed : ∀ result, result.exitCode ≠ 0 → Makes (Matched workspace) (Matched workspace) (next result)) :
    Makes (Matched workspace) (Matched workspace) (init directory workspace >>= next) :=
  fun _ => init_bind ready failed fun _ _ matched => matched

/-! ### Commands in a directory -/

theorem makes_command {invocation : Invocation} (works : stateful invocation = true) :
    Makes (Primed workspace directory) (Settled workspace directory)
      (startInvocation invocation directory : Method Numeric InvocationResult) := fun _ primed =>
  (satisfies_perform _).mpr ⟨trivial, fun answer => command_settles works answer primed⟩

theorem makes_within (asks : Asks (within directory) method) : Makes (Settled workspace directory) (Settled workspace directory) method :=
  makes_asks (fun _ _ => settled_within) asks

theorem makes_silent (asks : Asks silent method) : Makes (Matched workspace) (Matched workspace) method :=
  makes_asks (fun _ _ => matched_silent) asks

theorem within_of_silent (asks : Asks silent method) : Asks (within directory) method :=
  asks.mono fun call quiet => by cases call <;> first | rfl | cases quiet

/-- A command, and what follows it in its directory. -/
theorem makes_commands {invocation : Invocation} (works : stateful invocation = true) {next : InvocationResult → Method Numeric α}
    (rest : ∀ result, Asks (within directory) (next result)) :
    Makes (Primed workspace directory) (Settled workspace directory) (startInvocation invocation directory >>= next) :=
  (makes_command works).bind (fun result => makes_within (rest result)) fun _ settled => settled

theorem asks_command {invocation : Invocation} (works : stateful invocation = true) :
    Asks (within directory) (startInvocation invocation directory : Method Numeric InvocationResult) :=
  @asks_perform Numeric _ (.invoke invocation directory) (by simp [within, works])

theorem Makes.catching {recover : Thrown → Method Numeric α} (first : Makes before middle method)
    (rest : ∀ thrown, Makes middle middle (recover thrown)) : Makes before middle (method.catching recover) := fun past holds =>
  Program.satisfies_catching (first past holds) (fun _ _ reached => reached) fun later thrown reached => rest thrown later reached

theorem Makes.ensuring {cleanup : Method Numeric Unit} (first : Makes before middle method) (cleaned : Makes middle middle cleanup) :
    Makes before middle (method.ensuring cleanup) := by
  have attempted : Makes before middle method.attempt := fun past holds => Program.satisfies_attempt (first past holds)
  refine attempted.bind (fun ended => cleaned.bind (fun _ => ?_) fun _ reached => reached) fun _ reached => reached
  cases ended with
  | ok value => exact makes_done value
  | error thrown => exact makes_raise thrown

end

/-! ### Methods -/

section
variable {deployment : Deployment Numeric} {workspace directory : String}

theorem asks_discard_silent (path : String) : Asks silent (quietly (discard deployment path)) := by
  refine Asks.quietly ?_
  unfold TerraformRunner.discard
  split
  · exact asks_done _
  · exact @asks_perform Numeric silent (.rm path) rfl

theorem asks_prepare_silent (workspace : String) (tfvars : InstanceTfvars Numeric) (purge : Bool) :
    Asks silent (prepare deployment workspace tfvars purge) :=
  (@asks_perform Numeric silent .randomUUID rfl).bind fun _ => (@asks_perform Numeric silent (.mkdir _) rfl).bind fun _ =>
    (@asks_perform Numeric silent (.copyModule ..) rfl).bind fun _ =>
      ((@asks_perform Numeric silent (.writeVariables ..) rfl).bind fun _ => @asks_perform Numeric silent (.chmod _) rfl).bind
        fun _ => asks_done _

theorem plan_settles (purge : Bool) : Makes (Primed workspace directory) (Settled workspace directory) (plan deployment directory purge) := by
  refine makes_commands rfl fun invocation => ?_
  split
  · exact (asks_evaluated _).bind fun _ => asks_done _
  · exact (asks_command rfl).bind fun _ => (asks_evaluated _).bind fun _ => asks_done _

theorem readState_settles : Makes (Primed workspace directory) (Settled workspace directory) (readState deployment directory) := by
  refine makes_commands rfl fun shown => ?_
  split <;> exact asks_done _

theorem declaredState_settles : Makes (Primed workspace directory) (Settled workspace directory) (declaredState deployment directory) :=
  readState_settles.bind (fun _ => makes_within (asks_evaluated _)) fun _ settled => settled

theorem asks_apply_within (gate : PlanGate.GateResult) :
    Asks (within directory) (apply directory gate : Method Numeric InvocationResult) := by
  unfold TerraformRunner.apply
  split
  · exact asks_command rfl
  · exact (asks_evaluated _).bind fun _ => asks_raise _

theorem asks_stateMetadata_within : Asks (within directory) (stateMetadata deployment directory) := by
  refine (asks_command rfl).bind fun pulled => ?_
  repeat' split
  all_goals exact asks_done _

theorem Settled.toPrimed {said : List (RunnerExchange Numeric)} (settled : Settled workspace directory said) :
    Primed workspace directory said := .inl settled

/-- Questions after which commands have strayed exactly if a selection had failed: no
    command on a state, and no selection of the workspace. -/
def harmless (workspace : String) : Call Numeric → Bool
  | .invoke (.workspaceSelect name) _ => name ≠ workspace
  | .invoke invocation _ => !stateful invocation
  | _ => true

theorem makes_harmless {α : Type} {method : Method Numeric α} (asks : Asks (harmless workspace) method) :
    Makes (Matched workspace) (Matched workspace) method := by
  refine makes_asks (fun said exchange harm matched => ?_) asks
  obtain ⟨call, answer⟩ := exchange
  refine matched_plain ?_ ?_ matched
  · cases call with
    | invoke invocation place => cases invocation <;> simp_all [Strays, stateful, harmless]
    | _ => exact id
  · cases call with
    | invoke invocation place =>
      cases invocation with
      | workspaceSelect name =>
        have other : name ≠ workspace := of_decide_eq_true harm
        cases answer <;> simp [Unselected, other]
      | _ => exact id
    | _ => exact id

theorem deleteWorkspace_matched (own : workspace ≠ "default") (named : String) :
    Makes (Matched workspace) (Matched workspace) (deleteWorkspace directory named : Method Numeric InvocationResult) :=
  makes_harmless (((@asks_perform Numeric _ (.invoke (.workspaceSelect "default") directory)
    (decide_eq_true own.symm)).bind fun _ => asks_done ()).quietly.bind fun _ =>
      @asks_perform Numeric _ (.invoke (.workspaceDelete named) directory) rfl)

theorem recordApplied_matched (own : workspace ≠ "default") (runId : Uuid) (input : ApplyInput Numeric) (result : InvocationResult) :
    Makes (Settled workspace directory) (Matched workspace) (recordApplied deployment runId directory input result) := by
  unfold recordApplied
  split
  · refine Makes.bind (makes_within ?_) (fun read => ?_) fun _ => Settled.matched
    · split
      · exact asks_done _
      · exact asks_stateMetadata_within
    · refine Makes.given (Makes.bind (makes_silent (@asks_perform Numeric silent (.recordWorkspace _) rfl)) (fun _ => ?_) fun _ kept => kept)
        fun _ => Settled.matched
      split
      · exact ((deleteWorkspace_matched own _).bind (fun _ => makes_done ()) fun _ kept => kept).catching fun _ => makes_done ()
      · exact makes_done ()
  · exact (makes_silent (@asks_perform Numeric silent (.recordWorkspace _) rfl)).given fun _ => Settled.matched

theorem completeInBackground_matched (own : workspace ≠ "default") (runId : Uuid) (input : ApplyInput Numeric) :
    Makes (Settled workspace directory) (Matched workspace) (completeInBackground deployment runId directory input) := by
  refine Makes.ensuring (Makes.catching ?_ fun thrown => ?_) (makes_silent (asks_discard_silent _))
  · refine Makes.bind ((plan_settles _).given fun _ => Settled.toPrimed) (fun pair => ?_) fun _ => Settled.matched
    refine Makes.bind (makes_within (asks_apply_within _)) (fun result => ?_) fun _ => Settled.matched
    refine Makes.bind (makes_within (@asks_perform Numeric _ (.completeRun _) rfl)) (fun _ => ?_) fun _ => Settled.matched
    exact recordApplied_matched own runId input result
  · exact makes_silent (@asks_perform Numeric silent (.completeRun _) rfl).quietly

theorem refreshAfterDirectMutation_matched (instanceId : Uuid) (driftState : DriftState) :
    Makes (Matched (workspaceNameFor instanceId)) (Matched (workspaceNameFor instanceId))
      (refreshAfterDirectMutation deployment instanceId driftState) := by
  have unknown : Makes (Matched (workspaceNameFor instanceId)) (Matched (workspaceNameFor instanceId))
      (recordUnknown instanceId : Method Numeric Unit) :=
    makes_silent (@asks_perform Numeric silent (.recordWorkspace _) rfl).quietly
  refine Makes.bind (makes_silent (asks_prepare_silent _ _ _).attempt) (fun prepared => ?_) fun _ kept => kept
  cases prepared with
  | error thrown => exact unknown
  | ok place =>
    refine Makes.ensuring (Makes.catching ?_ fun _ => unknown) (makes_silent (asks_discard_silent _))
    refine makes_init (fun result exited => ?_) fun result exited => ?_
    · rw [if_neg (not_not.mpr exited)]
      refine Makes.bind (makes_command rfl) (fun _ => ?_) fun _ => Settled.matched
      refine Makes.bind (makes_within asks_stateMetadata_within) (fun read => ?_) fun _ => Settled.matched
      exact (makes_silent (@asks_perform Numeric silent (.recordWorkspace _) rfl)).given fun _ => Settled.matched
    · rw [if_pos exited]
      exact makes_done ()

/-- How a method ends, with the work that it leaves. -/
def Leaves {α : Type} (workspace : String) (said : List (RunnerExchange Numeric)) : Except Thrown (α × Option (Background Numeric)) → Prop
  | .ok (_, some (.apply _ directory _)) => Settled workspace directory said
  | .ok (_, some (.refresh instanceId _)) => workspaceNameFor instanceId = workspace ∧ Matched workspace said
  | _ => Matched workspace said

/-- A method that begins where an assertion holds. -/
def Leads {α : Type} (before : List (RunnerExchange Numeric) → Prop) (workspace : String)
    (method : Method Numeric (α × Option (Background Numeric))) : Prop :=
  ∀ past, before past → method.Satisfies (fun _ _ => True) (Leaves workspace) past

section
variable {α β : Type} {before middle : List (RunnerExchange Numeric) → Prop}

theorem Makes.leads {first : Method Numeric β} {next : β → Method Numeric (α × Option (Background Numeric))}
    (makes : Makes before middle first) (rest : ∀ value, Leads middle workspace (next value))
    (weaker : ∀ said, middle said → Matched workspace said) : Leads before workspace (first >>= next) := fun past holds =>
  Program.satisfies_bind (makes past holds) (fun later value reached => rest value later reached) fun later _ reached => weaker later reached

theorem leads_silent {first : Method Numeric β} {next : β → Method Numeric (α × Option (Background Numeric))}
    (asks : Asks silent first) (rest : ∀ value, Leads (Matched workspace) workspace (next value)) :
    Leads (Matched workspace) workspace (first >>= next) := (makes_silent asks).leads rest fun _ matched => matched

theorem leads_done (value : α) : Leads (Matched workspace) workspace (.done (value, none) : Method Numeric (α × Option (Background Numeric))) :=
  fun _ matched => matched

theorem leads_raise (thrown : Thrown) : Leads (Matched workspace) workspace (.raise thrown : Method Numeric (α × Option (Background Numeric))) :=
  fun _ matched => matched

end

theorem refuseApply_leads (runId : Uuid) (input : ApplyInput Numeric) (gate : PlanGate.GateResult) (invocation : InvocationResult) :
    Leads (Matched workspace) workspace (refuseApply deployment runId input gate invocation) :=
  leads_silent (@asks_perform Numeric silent (.completeRun _) rfl) fun _ => leads_silent (asks_discard_silent _) fun _ => leads_done _

theorem startApply_leads (input : ApplyInput Numeric) (same : input.workspace = workspace) :
    Leads (Matched workspace) workspace (startApply deployment input) := by
  subst same
  refine leads_silent (@asks_perform Numeric silent .randomUUID rfl) fun runId => leads_silent (asks_prepare_silent _ _ _) fun directory => ?_
  refine fun _ => init_bind (fun result exited => ?_) (fun result exited => ?_) fun _ _ matched => matched
  · rw [if_neg (not_not.mpr exited)]
    refine (plan_settles _).leads (fun pair => ?_) fun _ => Settled.matched
    obtain ⟨gate, invocation⟩ := pair
    refine (makes_within (@asks_perform Numeric _ (.beginRun _) rfl)).leads (fun _ => ?_) fun _ => Settled.matched
    split
    · exact fun past settled => refuseApply_leads runId input gate invocation past settled.matched
    · exact fun _ settled => settled
  · rw [if_pos exited]
    exact leads_silent (asks_discard_silent _) fun _ => leads_raise _

/-- A change of an instance reads its state first. -/
theorem reading_leads {purge : Bool} {change : String}
    {next : Except ProviderMutationResult (String × InstanceTfvars Numeric) →
      Method Numeric (ProviderMutationResult × Option (Background Numeric))}
    (rest : ∀ found, Leads (Matched workspace) workspace (next found)) :
    Leads (Matched workspace) workspace (readDeclared deployment workspace purge change >>= next) := by
  refine Makes.leads ?_ rest fun _ matched => matched
  refine (makes_silent (asks_prepare_silent _ _ _)).bind (fun directory => ?_) fun _ matched => matched
  refine makes_init (fun result exited => ?_) fun result exited => ?_
  · rw [if_neg (not_not.mpr exited)]
    refine declaredState_settles.bind (fun declared => ?_) fun _ => Settled.matched
    cases declared with
    | none => exact ((makes_silent ((asks_discard_silent _).bind fun _ => asks_done _)).given fun _ => Settled.matched)
    | some declared => exact (makes_done _).weaken fun _ => Settled.matched
  · rw [if_pos exited]
    exact makes_silent ((asks_discard_silent _).bind fun _ => asks_raise _)

theorem named_of_present {value : Option String} {name : String} (given : present value = some name) : value.getD "" = name := by
  rw [(Option.filter_eq_some_iff.mp given).1, Option.getD_some]

theorem identified_named {context : Option ProviderCallContext} {instanceId operationId : Uuid}
    (known : identified deployment context = .ok (instanceId, operationId)) :
    (context.bind ProviderCallContext.instanceId).getD "" = instanceId := by
  obtain ⟨_, -, known⟩ := Tables.bind_ok known
  split at known
  next given _ => exact (Prod.mk.inj (Except.ok.inj known)).1 ▸ named_of_present given
  next => cases known

theorem instanceOf_named {context : Option ProviderCallContext} {instanceId : Uuid}
    (known : instanceOf deployment context = .ok instanceId) : (context.bind ProviderCallContext.instanceId).getD "" = instanceId := by
  obtain ⟨_, -, known⟩ := Tables.bind_ok known
  split at known
  next given => exact Except.ok.inj known ▸ named_of_present given
  next => cases known

theorem marked_named {mutation : Option InstanceMutationRequest} {instanceId operationId : Uuid} {markers : OwnershipMarkers}
    (known : marked deployment mutation = .ok (instanceId, operationId, markers)) :
    ((mutation.bind InstanceMutationRequest.context).bind ProviderCallContext.instanceId).getD "" = instanceId := by
  obtain ⟨_, -, known⟩ := Tables.bind_ok known
  split at known
  next given _ _ => exact (Prod.mk.inj (Except.ok.inj known)).1 ▸ named_of_present given
  next => cases known

theorem createInput_workspace {request : SubmitCreateInstanceRequest} {input : ApplyInput Numeric}
    (built : createInput deployment.host deployment.configuration request = .ok (.ok input)) :
    input.workspace = workspaceOf (.submitCreateInstance request) := by
  unfold createInput at built
  obtain ⟨_, -, built⟩ := Tables.bind_ok built
  split at built
  next given _ =>
    split at built
    next => cases built
    next =>
      split at built
      next => cases built
      next =>
        obtain ⟨_, -, built⟩ := Tables.bind_ok built
        obtain ⟨_, -, built⟩ := Tables.bind_ok built
        obtain ⟨_, -, built⟩ := Tables.bind_ok built
        cases built
        exact congrArg workspaceNameFor (named_of_present given).symm
      next => cases built
  next => cases built

theorem leads_checked {α β : Type} {check : Except ProviderTransportError β} {next : β → Method Numeric (α × Option (Background Numeric))}
    (rest : ∀ value, check = .ok value → Leads (Matched workspace) workspace (next value)) :
    Leads (Matched workspace) workspace (checked check >>= next) := fun past matched =>
  satisfies_checked_bind.mpr ⟨fun value known => rest value known past matched, fun _ _ => matched⟩

theorem setPowerState_leads (request : InstanceMutationRequest) (started : Bool)
    (own : workspace = workspaceNameFor ((request.context.bind ProviderCallContext.instanceId).getD "")) :
    Leads (Matched workspace) workspace (setPowerState deployment request started) := by
  refine leads_checked fun ids known => ?_
  obtain ⟨instanceId, operationId⟩ := ids
  rw [identified_named known] at own
  subst own
  refine reading_leads fun found => ?_
  match found with
  | .error refused => exact leads_done refused
  | .ok (directory, declared) =>
    dsimp only
    split
    · exact leads_silent (asks_discard_silent _) fun _ => leads_done _
    · exact startApply_leads _ rfl

theorem resizeInstance_leads (request : ResizeInstanceRequest) :
    Leads (Matched (workspaceOf (.resizeInstance request))) (workspaceOf (.resizeInstance request)) (resizeInstance deployment request) := by
  refine leads_checked fun ids known => ?_
  obtain ⟨instanceId, operationId⟩ := ids
  have own : workspaceOf (.resizeInstance request) = workspaceNameFor instanceId := congrArg workspaceNameFor (identified_named known)
  rw [own]
  refine reading_leads fun found => ?_
  match found with
  | .error refused => exact leads_done refused
  | .ok (directory, declared) =>
    dsimp only
    split
    · exact leads_silent (asks_discard_silent _) fun _ => leads_done _
    · exact startApply_leads _ rfl

theorem markInstanceRetained_leads (request : MarkInstanceRetainedRequest) :
    Leads (Matched (workspaceOf (.markInstanceRetained request))) (workspaceOf (.markInstanceRetained request))
      (markInstanceRetained deployment request) := by
  refine leads_checked fun ids known => ?_
  obtain ⟨instanceId, operationId, markers⟩ := ids
  have own : workspaceOf (.markInstanceRetained request) = workspaceNameFor instanceId := congrArg workspaceNameFor (marked_named known)
  rw [own]
  refine reading_leads fun found => ?_
  match found with
  | .error refused => exact leads_done refused
  | .ok (directory, declared) => exact startApply_leads _ rfl

theorem asks_liveOwnership_silent (vmid : Int) (expected : Option OwnershipMarkers) :
    Asks silent (assertLiveOwnership deployment vmid expected) := asks_assertLiveOwnership (fun _ => rfl) vmid expected

theorem purgeInstance_leads (request : PurgeInstanceRequest) :
    Leads (Matched (workspaceOf (.purgeInstance request))) (workspaceOf (.purgeInstance request)) (purgeInstance deployment request) := by
  refine leads_checked fun ids known => ?_
  obtain ⟨instanceId, operationId, markers⟩ := ids
  have own : workspaceOf (.purgeInstance request) = workspaceNameFor instanceId := congrArg workspaceNameFor (marked_named known)
  rw [own]
  dsimp only
  split
  · exact leads_raise _
  · refine leads_checked fun vmid _ => leads_silent (asks_liveOwnership_silent _ _) fun _ => reading_leads fun found => ?_
    match found with
    | .error refused => exact leads_done refused
    | .ok (directory, declared) => exact startApply_leads _ rfl

theorem submitCreateInstance_leads (request : SubmitCreateInstanceRequest) :
    Leads (Matched (workspaceOf (.submitCreateInstance request))) (workspaceOf (.submitCreateInstance request))
      (submitCreateInstance deployment request) := by
  refine leads_checked fun built known => ?_
  cases built with
  | error refused => exact leads_done refused
  | ok input => exact startApply_leads input (createInput_workspace known)

/-- A direct operation asks Terraform nothing, and leaves a refresh of the instance. -/
theorem directMutation_leads (request : InstanceMutationRequest) {act : Int → Method Numeric String} (quiet : ∀ vmid, Asks silent (act vmid))
    (driftState : DriftState) (own : workspace = workspaceNameFor ((request.context.bind ProviderCallContext.instanceId).getD "")) :
    Leads (Matched workspace) workspace (directMutation deployment request act driftState) := by
  refine leads_checked fun instanceId known => leads_checked fun vmid _ => leads_silent (asks_liveOwnership_silent _ _) fun _ =>
    leads_silent asks_direct fun _ => leads_silent (quiet vmid) fun upid => fun _ matched => ?_
  exact ⟨(own.trans (congrArg workspaceNameFor (instanceOf_named known))).symm, matched⟩

theorem snapshotMutation_leads (request : Option InstanceMutationRequest) {act : Int → Method Numeric String}
    (quiet : ∀ vmid, Asks silent (act vmid)) (driftState : DriftState)
    (own : workspace = workspaceNameFor (((request.bind InstanceMutationRequest.context).bind ProviderCallContext.instanceId).getD "")) :
    Leads (Matched workspace) workspace (snapshotMutation deployment request act driftState) := by
  cases request with
  | none => exact leads_raise _
  | some request => exact directMutation_leads request quiet driftState own

theorem mutation_leads {method : Method Numeric (ProviderMutationResult × Option (Background Numeric))}
    (leads : Leads (Matched workspace) workspace method) : Leads (Matched workspace) workspace (mutation method) := by
  intro past matched
  refine Program.satisfies_bind (leads past matched) ?_ fun _ _ reached => reached
  rintro said ⟨result, work⟩ left
  match work with
  | none => exact left
  | some (.apply ..) => exact left
  | some (.refresh ..) => exact left

theorem inForeground_leads {α : Type} {method : Method Numeric α} (makes : Makes (Matched workspace) (Matched workspace) method) :
    Leads (Matched workspace) workspace (inForeground method) :=
  makes.leads (fun _ => leads_done _) fun _ matched => matched

theorem map_makes {α β : Type} (f : α → β) {method : Method Numeric α} (makes : Makes (Matched workspace) (Matched workspace) method) :
    Makes (Matched workspace) (Matched workspace) (f <$> method) := by
  rw [map_eq_pure_bind]
  exact makes.bind (fun _ => makes_done _) fun _ matched => matched

theorem observeState_matched (expected : Option OwnershipMarkers) (observedAt : Nat) :
    Makes (Matched workspace) (Matched workspace) (observeState deployment directory workspace expected observedAt) := by
  refine makes_init (fun result exited => ?_) fun result exited => ?_
  · rw [if_neg (not_not.mpr exited)]
    refine (makes_command rfl).bind (fun _ => ?_) fun _ => Settled.matched
    refine (readState_settles.given fun _ => Settled.toPrimed).bind (fun state => ?_) fun _ => Settled.matched
    refine (makes_silent ((asks_evaluated _).bind fun found => ?_)).given fun _ => Settled.matched
    cases found with
    | none => exact asks_done _
    | some resource => exact (asks_evaluated _).bind fun _ => asks_evaluated _
  · rw [if_pos exited]
    exact makes_raise _

theorem assertConverged_matched :
    Makes (Matched workspace) (Matched workspace) (assertConverged deployment directory workspace) := by
  refine makes_init (fun result exited => ?_) fun result exited => ?_
  · rw [if_neg (not_not.mpr exited)]
    refine declaredState_settles.bind (fun declared => ?_) fun _ => Settled.matched
    cases declared with
    | none => exact (makes_done _).weaken fun _ => Settled.matched
    | some declared =>
      refine (makes_within ((@asks_perform Numeric _ (.writeVariables directory declared) rfl).bind fun _ =>
        @asks_perform Numeric _ (.chmod directory) rfl)).bind (fun _ => ?_) fun _ => Settled.matched
      refine ((plan_settles _).given fun _ => Settled.toPrimed).bind (fun pair => ?_) fun _ => Settled.matched
      obtain ⟨gate, invocation⟩ := pair
      dsimp only
      split <;> exact (makes_done _).weaken fun _ => Settled.matched
  · rw [if_pos exited]
    exact makes_raise _

theorem observeInstance_matched (request : InstanceMutationRequest) (observedAt : Nat) :
    Makes (Matched (workspaceOf (.observeInstance request))) (Matched (workspaceOf (.observeInstance request)))
      (observeInstance deployment request observedAt) := fun past matched => by
  refine satisfies_checked_bind.mpr ⟨fun instanceId known => ?_, fun _ _ => matched⟩
  have own : workspaceOf (.observeInstance request) = workspaceNameFor instanceId := congrArg workspaceNameFor (instanceOf_named known)
  rw [own] at matched ⊢
  exact (makes_silent (asks_prepare_silent _ _ _)).bind (fun place => (observeState_matched _ _).ensuring
    (makes_silent (asks_discard_silent _))) (fun _ kept => kept) past matched

theorem applyInstanceConfiguration_matched (request : ApplyInstanceConfigurationRequest) :
    Makes (Matched (workspaceOf (.applyInstanceConfiguration request))) (Matched (workspaceOf (.applyInstanceConfiguration request)))
      (applyInstanceConfiguration deployment request) := fun past matched => by
  refine satisfies_checked_bind.mpr ⟨fun instanceId known => ?_, fun _ _ => matched⟩
  have own : workspaceOf (.applyInstanceConfiguration request) = workspaceNameFor instanceId :=
    congrArg workspaceNameFor (instanceOf_named known)
  rw [own] at matched ⊢
  exact (makes_silent (asks_prepare_silent _ _ _)).bind (fun place => assertConverged_matched.ensuring
    (makes_silent (asks_discard_silent _))) (fun _ kept => kept) past matched

theorem getTask_silent (request : GetTaskRequest) : Asks silent (getTask deployment request) := by
  unfold getTask
  split
  · exact asks_raise _
  · split
    · refine asks_direct.bind fun _ => (@asks_perform Numeric _ (.taskState _) rfl).bind fun state => ?_
      cases state <;> exact asks_done _
    · refine (@asks_perform Numeric _ (.readRun _) rfl).bind fun run => ?_
      cases run <;> exact asks_done _

theorem listSnapshots_silent (request : InstanceMutationRequest) : Asks silent (listSnapshots deployment request) :=
  (asks_checked _).bind fun _ => (asks_checked _).bind fun _ => (asks_liveOwnership_silent _ _).bind fun _ =>
    asks_direct.bind fun _ => (@asks_perform Numeric _ (.listSnapshots _) rfl).bind fun _ => asks_done _

/-- Any call of the port, in the workspace of its instance. -/
theorem handle_leads (now : Nat) (call : ProviderCall) :
    Leads (Matched (workspaceOf call)) (workspaceOf call) (handle deployment now call) := by
  cases call with
  | submitCreateInstance request => exact mutation_leads (submitCreateInstance_leads request)
  | applyInstanceConfiguration request => exact inForeground_leads (map_makes _ (applyInstanceConfiguration_matched request))
  | getTask request => exact inForeground_leads (makes_silent (getTask_silent request))
  | observeInstance request => exact inForeground_leads (map_makes _ (observeInstance_matched request now))
  | startInstance request => exact mutation_leads (setPowerState_leads _ _ (by cases request <;> rfl))
  | shutdownInstance request => exact mutation_leads (setPowerState_leads _ _ (by cases request <;> rfl))
  | stopInstance request =>
    exact mutation_leads (directMutation_leads _ (fun _ => @asks_perform Numeric _ (.stopHard _) rfl) _ (by cases request <;> rfl))
  | rebootInstance request =>
    exact mutation_leads (directMutation_leads _ (fun _ => @asks_perform Numeric _ (.reboot _) rfl) _ (by cases request <;> rfl))
  | resizeInstance request => exact mutation_leads (resizeInstance_leads request)
  | listSnapshots request => exact inForeground_leads (map_makes _ (makes_silent (listSnapshots_silent request)))
  | createSnapshot request =>
    exact mutation_leads (snapshotMutation_leads _ (fun _ =>
      (asks_checked _).bind fun _ => @asks_perform Numeric _ (.createSnapshot ..) rfl) _ rfl)
  | rollbackSnapshot request =>
    exact mutation_leads (snapshotMutation_leads _ (fun _ =>
      (asks_checked _).bind fun _ => @asks_perform Numeric _ (.rollbackSnapshot ..) rfl) _ rfl)
  | deleteSnapshot request =>
    exact mutation_leads (snapshotMutation_leads _ (fun _ =>
      (asks_checked _).bind fun _ => @asks_perform Numeric _ (.deleteSnapshot ..) rfl) _ rfl)
  | markInstanceRetained request => exact mutation_leads (markInstanceRetained_leads request)
  | purgeInstance request => exact mutation_leads (purgeInstance_leads request)

/-! ### Sessions -/

theorem workspaceNameFor_ne_default (instanceId : Uuid) : workspaceNameFor instanceId ≠ "default" := by
  intro same
  have first := congrArg (fun name => name.toList.head?) same
  simp [workspaceNameFor] at first

/-- What the work in the background makes of the end of its method. -/
theorem background_matched {work : Background Numeric} {call : ProviderCall} {α : Type} (answer : α) {said : List (RunnerExchange Numeric)}
    (left : Leaves (workspaceOf call) said (.ok (answer, some work) : Except Thrown (α × Option (Background Numeric)))) :
    (background deployment work).Satisfies (fun _ _ => True) (fun said _ => Matched (workspaceOf call) said) said := by
  cases work with
  | apply runId place input => exact completeInBackground_matched (workspaceNameFor_ne_default _) runId input said left
  | refresh instanceId driftState =>
    obtain ⟨own, matched⟩ := left
    rw [← own] at matched ⊢
    exact refreshAfterDirectMutation_matched instanceId driftState said matched

theorem session_matched (now : Nat) (call : ProviderCall) :
    Makes (Matched (workspaceOf call)) (Matched (workspaceOf call)) (session deployment (.port now call)) := by
  intro past matched
  refine Program.satisfies_bind (@Program.satisfies_attempt _ _ _ _ _ _ (fun said ended =>
    ∃ before, ended = .ok before ∧ Leaves (workspaceOf call) said before) _ ?_) ?_ ?_
  · exact (handle_leads now call past matched).weaken (fun _ _ _ => trivial) fun _ ended left => ⟨ended, rfl, left⟩
  · rintro said ended ⟨_, same, left⟩
    obtain rfl := Except.ok.inj same
    match ended with
    | .error _ => exact left
    | .ok (answer, none) => exact left
    | .ok (answer, some work) => exact background_matched answer left
  · rintro said thrown ⟨_, impossible, -⟩
    cases impossible

theorem init_reports (directory workspace : String) :
    (init directory workspace : Method Numeric InvocationResult).Satisfies (fun _ _ => True) (fun said ended =>
      Occurs (Unselected workspace) said ↔
        ∃ result, ended = .ok result ∧ result.exitCode = 0 ∧ selected directory said ≠ workspace) [] := by
  have none_ : ¬ Occurs (Unselected workspace) ([] : List (RunnerExchange Numeric)) := by
    rintro ⟨before, exchange, after, split, -⟩
    simp at split
  have initialized (answer : Call.Answer (.invoke .init directory : Call Numeric)) :
      ¬ Occurs (Unselected workspace) ([] ++ [(⟨.invoke .init directory, answer⟩ : RunnerExchange Numeric)]) := by
    rwa [occurs_of_not (by simp [Unselected])]
  refine satisfies_perform_bind.mpr ⟨trivial, fun result => ?_, fun thrown => iff_of_false (initialized _) nofun⟩
  split
  next exited =>
    refine satisfies_quiet_bind.mpr ⟨trivial, fun created => ?_⟩
    have before : ¬ Occurs (Unselected workspace) ([] ++ [(⟨.invoke .init directory, .ok result⟩ : RunnerExchange Numeric)] ++
        [⟨.invoke (.workspaceNew workspace) directory, created⟩]) := by
      rw [occurs_of_not (by simp [Unselected])]
      exact initialized _
    generalize [] ++ [(⟨.invoke .init directory, .ok result⟩ : RunnerExchange Numeric)] ++
      [⟨.invoke (.workspaceNew workspace) directory, created⟩] = said at before ⊢
    refine satisfies_perform_bind.mpr ⟨trivial, fun chosen => ?_, fun thrown => ?_⟩
    · show Occurs _ _ ↔ ∃ ended, (Except.ok result : Except Thrown _) = .ok ended ∧ _
      rw [occurs_concat, or_iff_right before]
      by_cases chose : chosen.exitCode = 0 <;> simp [Unselected, selected_concat, reselect, chose, exited]
    · rw [occurs_of_not (by simp [Unselected])]
      exact iff_of_false before nofun
  next exited =>
    refine iff_of_false (initialized _) ?_
    rintro ⟨ended, same, zero, -⟩
    exact exited (Except.ok.inj same ▸ zero)

end
end

/-- An initialization reports success only with the workspace selected, and every command
    on the state runs in the workspace of the instance, exactly when no selection failed
    of a workspace that had not been created. -/
theorem isolated_iff {Numeric : Type} (deployment : Deployment Numeric) (oracle : Oracle (@Call.Answer Numeric)) (now : Nat)
    (call : ProviderCall) (directory workspace : String) :
    ((∀ result, ((init directory workspace).run oracle []).2 = .ok result → result.exitCode = 0 →
        selected directory ((init directory workspace).run oracle []).1 = workspace) ↔
      ¬ Occurs (Unselected workspace) ((init directory workspace).run oracle []).1) ∧
    (¬ Occurs (Strays (workspaceOf call)) ((session deployment (.port now call)).run oracle []).1 ↔
      ¬ Occurs (Unselected (workspaceOf call)) ((session deployment (.port now call)).run oracle []).1) := by
  constructor
  · have reports := (init_reports directory workspace).run_post oracle
    rw [reports]
    refine ⟨fun each ⟨result, ended, zero, other⟩ => other (each result ended zero), fun none_ result ended zero => ?_⟩
    by_contra other
    exact none_ ⟨result, ended, zero, other⟩
  · have nothing {event : List (RunnerExchange Numeric) → RunnerExchange Numeric → Prop} : ¬ Occurs event [] := by
      rintro ⟨before, exchange, after, split, -⟩
      simp at split
    have start : Matched (workspaceOf call) ([] : List (RunnerExchange Numeric)) := iff_of_false nothing nothing
    exact not_congr ((session_matched now call [] start).run_post oracle)

/-! ### A start in another workspace -/

/-- Neither creating nor selecting a workspace works. -/
def lockedResults : Invocation → InvocationResult
  | .workspaceNew _ | .workspaceSelect _ => ⟨1, [], ""⟩
  | invocation => sampleResults invocation

def sampleStart : ProviderCall := .startInstance (some sampleMutation)

def sampleSaid : List (RunnerExchange Nat) :=
  ((session (sampleDeployment (some (sampleState [("started", .bool false)]))) (.port 0 sampleStart)).run
    (fun _ => sampleAnswers lockedResults) []).1

/-- The initialization reports success, and the state is read in the workspace named default. -/
theorem start_strays : Occurs (Strays "instance-a1") sampleSaid ∧
    ∃ result, ((init "/work/instance-a1.u1" "instance-a1" : Method Nat InvocationResult).run
        (fun _ => sampleAnswers lockedResults) []).2 = .ok result ∧ result.exitCode = 0 ∧
      selected "/work/instance-a1.u1" ((init "/work/instance-a1.u1" "instance-a1" : Method Nat InvocationResult).run
        (fun _ => sampleAnswers lockedResults) []).1 = "default" := by
  refine ⟨⟨sampleSaid.take 8, ⟨.invoke .showState "/work/instance-a1.u1", .ok ⟨0, [], "state"⟩⟩, sampleSaid.drop 9, rfl, rfl, ?_⟩,
    _, rfl, rfl, rfl⟩
  show selected "/work/instance-a1.u1" (sampleSaid.take 8) ≠ "instance-a1"
  have other : selected "/work/instance-a1.u1" (sampleSaid.take 8) = "default" := rfl
  rw [other]
  decide

end ControlPlane.WorkspaceIsolation
