import ControlPlane.Diagnostics
import ControlPlane.PlanGate
import ControlPlane.Programs
import ControlPlane.TerraformInventory
import ControlPlane.TerraformVariables

/-!
The runner of Terraform: each operation works in a directory of its own, with a
copy of the module and a variable file, and starts one process for each
invocation. What the processes and the file system answer is left open, and so is
what the record of the runs and the hypervisor answer the adapter on top of it.
-/
namespace ControlPlane.TerraformRunner
open ControlPlane.Texts ControlPlane.Programs ControlPlane.Domain ControlPlane.JsonValues ControlPlane.Diagnostics
open ControlPlane.ProviderPort ControlPlane.PlanGate ControlPlane.TerraformVariables
open ControlPlane.TerraformInventory (BeginRunInput CompleteRunInput RecordWorkspaceInput RunRow)

/-- The arguments that a process is started with. -/
inductive Invocation
  | init
  | initWithoutBackend
  | validate
  | workspaceNew (name : String)
  | workspaceSelect (name : String)
  | workspaceDelete (name : String)
  | plan (destroy : Bool)
  | showPlan
  | apply
  | refresh
  | showState
  | statePull
  deriving DecidableEq, Repr

structure InvocationResult where
  exitCode : Int
  diagnostics : List TerraformDiagnostic
  stdout : String

/-- A snapshot as Proxmox lists it. The time is in seconds. -/
structure ListedSnapshot where
  name : String
  description : Option String := none
  snaptime : Option Nat := none
  deriving DecidableEq, Repr

inductive DirectTaskState
  | running
  | succeeded
  | failed
  deriving DecidableEq, Repr

/-- What runner and adapter ask of the host, of the record of the runs and of the
    direct client. -/
inductive Call (Numeric : Type)
  | randomUUID
  | mkdir (directory : String)
  | copyModule (purge : Bool) (directory : String)
  | writeVariables (directory : String) (tfvars : InstanceTfvars Numeric)
  | chmod (directory : String)
  | rm (directory : String)
  | invoke (invocation : Invocation) (directory : String)
  | beginRun (input : BeginRunInput)
  | completeRun (input : CompleteRunInput)
  | recordWorkspace (input : RecordWorkspaceInput)
  | readRun (runId : Uuid)
  | config (vmid : Int)
  | stopHard (vmid : Int)
  | reboot (vmid : Int)
  | createSnapshot (vmid : Int) (name : String) (description : Option String)
  | rollbackSnapshot (vmid : Int) (name : String)
  | deleteSnapshot (vmid : Int) (name : String)
  | listSnapshots (vmid : Int)
  | taskState (upid : String)

@[reducible] def Call.Result {Numeric : Type} : Call Numeric → Type
  | .randomUUID | .stopHard _ | .reboot _ | .createSnapshot .. | .rollbackSnapshot .. | .deleteSnapshot .. => String
  | .invoke .. => InvocationResult
  | .readRun _ => Option RunRow
  | .config _ => Option Json
  | .listSnapshots _ => List ListedSnapshot
  | .taskState _ => DirectTaskState
  | _ => Unit

/-- What may be thrown. -/
inductive Thrown
  | transport (error : ProviderTransportError)
  | failed (message : String)
  | typeError
  deriving DecidableEq, Repr

abbrev Call.Answer {Numeric : Type} (call : Call Numeric) : Type := Except Thrown call.Result

/-- A question with its answer. -/
abbrev RunnerExchange (Numeric : Type) : Type := Exchange (@Call.Answer Numeric)

/-- A method of the runner or of the adapter. -/
abbrev Method (Numeric α : Type) : Type := Program (Call Numeric) Call.Answer Thrown α

/-- What runner and adapter are made of. -/
structure Deployment (Numeric : Type) where
  host : Host Numeric
  configuration : TerraformProxmoxConfiguration
  runner : TerraformRunnerConfiguration
  /-- `path.join`. -/
  join : String → String → String
  /-- What the prototype of objects has under a name, as a text. -/
  inherited : String → Option String
  /-- `JSON.stringify` of a diagnostic. -/
  printDiagnostic : TerraformDiagnostic → String
  /-- A value as the parameter of a text column. -/
  columnText : Json → String
  /-- The message of a type error. -/
  typeErrorMessage : String
  /-- What a 32-bit field of a message carries of a number. -/
  natural : Numeric → Nat
  integral : Numeric → Int
  /-- Whether a direct client is configured. -/
  direct : Bool

section
variable {Numeric α : Type}

/-- Asks, and throws what the answer throws. -/
def perform (call : Call Numeric) : Method Numeric call.Result := .ask call .finished

/-- An expression that may throw a type error. -/
def evaluated : Evaluated α → Method Numeric α
  | .ok value => .done value
  | .error _ => .raise .typeError

/-- A check that throws a transport error. -/
def checked : Except ProviderTransportError α → Method Numeric α
  | .ok value => .done value
  | .error error => .raise (.transport error)

/-- `.catch(() => undefined)`. -/
def quietly (method : Method Numeric Unit) : Method Numeric Unit := method.catching fun _ => .done ()

def startInvocation (invocation : Invocation) (directory : String) : Method Numeric InvocationResult :=
  perform (.invoke invocation directory)

variable (deployment : Deployment Numeric)

/-! ### Working directories -/

/-- The variable file is written before its mode is set. -/
def writeVariables (directory : String) (tfvars : InstanceTfvars Numeric) : Method Numeric Unit := do
  perform (.writeVariables directory tfvars)
  perform (.chmod directory)

/-- Makes a directory of its own for every call. -/
def prepare (workspaceName : String) (tfvars : InstanceTfvars Numeric) (purge : Bool) : Method Numeric String := do
  let uuid ← perform .randomUUID
  let directory := deployment.join deployment.runner.workingRoot (workspaceName ++ "." ++ uuid)
  perform (.mkdir directory)
  perform (.copyModule purge directory)
  writeVariables directory tfvars
  return directory

/-- Whether a path starts with the working root. -/
def underRoot (path : String) : Bool := (afterPrefix deployment.runner.workingRoot path).isSome

/-- Removes a directory, unless its path lies elsewhere. -/
def discard (directory : String) : Method Numeric Unit :=
  if !underRoot deployment directory then .done () else perform (.rm directory)

/-! ### Invocations -/

/-- `workspace new` may fail, and the exit code of `workspace select` is not read. -/
def init (directory workspaceName : String) : Method Numeric InvocationResult := do
  let result ← startInvocation .init directory
  if result.exitCode = 0 then
    quietly do
      let _ ← startInvocation (.workspaceNew workspaceName) directory
    let _ ← startInvocation (.workspaceSelect workspaceName) directory
  return result

def deleteWorkspace (directory workspaceName : String) : Method Numeric InvocationResult := do
  quietly do
    let _ ← startInvocation (.workspaceSelect "default") directory
  startInvocation (.workspaceDelete workspaceName) directory

/-- The serial of a state document, when it is a number of writes. -/
def serialOf : Option Json → Evaluated (Option Int)
  | none => return none
  | some .null => return some 0
  | some (.bool value) => return some (if value then 1 else 0)
  | some value => return (deployment.host.library.number (← value.text)).filter (0 ≤ ·)

/-- The lineage of a state document, when it is a text. -/
def lineageOf : Option Json → Option String
  | some (.str lineage) => some lineage |>.filter (· ≠ "")
  | _ => none

/-- Serial and lineage of a state document. What cannot be read has neither. -/
def stateMetadata (directory : String) : Method Numeric (Option Int × Option String) := do
  let pulled ← startInvocation .statePull directory
  if pulled.exitCode ≠ 0 then return (none, none)
  else
    match deployment.host.parse pulled.stdout with
    | none | some .null => return (none, none)
    | some document =>
      match serialOf deployment (document.own "serial") with
      | .error _ => return (none, none)
      | .ok serial => return (serial, lineageOf (document.own "lineage"))

/-- A plan and the verdict of the gate. A purge may destroy the instance. -/
def plan (directory : String) (purge : Bool) : Method Numeric (GateResult × InvocationResult) := do
  let invocation ← startInvocation (.plan purge) directory
  if invocation.exitCode ≠ 0 then
    return (← evaluated (evaluatePlan deployment.inherited none none), invocation)
  else do
    let shown ← startInvocation .showPlan directory
    let gate ← evaluated (evaluatePlan deployment.inherited (deployment.host.parse shown.stdout)
      (if purge then some instanceAddress else none))
    return (gate, invocation)

/-- Applies the saved plan, if the gate allowed it. -/
def apply (directory : String) (gate : GateResult) : Method Numeric InvocationResult :=
  if gate.decision = .allowed then startInvocation .apply directory
  else do
    let rule ← evaluated (Json.coalesce (.str "unknown") gate.rule).text
    .raise (.failed ("Refusing to apply a plan the gate rejected: " ++ rule))

end

/-! ### Rules -/

section
variable {Numeric α β : Type} {allowed : List (RunnerExchange Numeric) → Call Numeric → Prop}
  {past : List (RunnerExchange Numeric)}

theorem satisfies_perform (call : Call Numeric) {post : List (RunnerExchange Numeric) → Except Thrown call.Result → Prop} :
    (perform call).Satisfies allowed post past ↔ allowed past call ∧ ∀ answer, post (past ++ [⟨call, answer⟩]) answer := by
  refine and_congr_right fun _ => forall_congr' fun answer => ?_
  cases answer <;> exact Iff.rfl

/-- One question and what follows its answer. -/
theorem satisfies_perform_bind {call : Call Numeric} {next : call.Result → Method Numeric β}
    {post : List (RunnerExchange Numeric) → Except Thrown β → Prop} :
    (perform call >>= next).Satisfies allowed post past ↔ allowed past call ∧
      (∀ value, (next value).Satisfies allowed post (past ++ [⟨call, .ok value⟩])) ∧
      ∀ thrown, post (past ++ [⟨call, .error thrown⟩]) (.error thrown) := by
  refine and_congr_right fun _ => ⟨fun each => ⟨fun value => each (.ok value), fun thrown => each (.error thrown)⟩, ?_⟩
  rintro ⟨returned, raised⟩ (thrown | value)
  · exact raised thrown
  · exact returned value

/-- One question whose answer is not read, and what follows it. -/
theorem satisfies_quiet_bind {call : Call Numeric} {next : Unit → Method Numeric β}
    {post : List (RunnerExchange Numeric) → Except Thrown β → Prop} :
    (quietly (do let _ ← perform call) >>= next).Satisfies allowed post past ↔
      allowed past call ∧ ∀ answer, (next ()).Satisfies allowed post (past ++ [⟨call, answer⟩]) := by
  refine and_congr_right fun _ => forall_congr' fun answer => ?_
  cases answer <;> exact Iff.rfl

theorem satisfies_evaluated_bind {expression : Evaluated α} {next : α → Method Numeric β}
    {post : List (RunnerExchange Numeric) → Except Thrown β → Prop} :
    (evaluated expression >>= next).Satisfies allowed post past ↔
      (∀ value, expression = .ok value → (next value).Satisfies allowed post past) ∧
      ∀ error, expression = .error error → post past (.error .typeError) := by
  cases expression with
  | ok value => simp [evaluated]
  | error error =>
    refine ⟨fun meets => ⟨fun _ impossible => (nomatch impossible), fun _ _ => meets⟩, fun each => each.2 error rfl⟩

theorem satisfies_checked_bind {check : Except ProviderTransportError α} {next : α → Method Numeric β}
    {post : List (RunnerExchange Numeric) → Except Thrown β → Prop} :
    (checked check >>= next).Satisfies allowed post past ↔
      (∀ value, check = .ok value → (next value).Satisfies allowed post past) ∧
      ∀ error, check = .error error → post past (.error (.transport error)) := by
  cases check with
  | ok value =>
    refine ⟨fun meets => ⟨fun _ same => Except.ok.inj same ▸ meets, fun _ impossible => (nomatch impossible)⟩, fun each => ?_⟩
    exact each.1 value rfl
  | error error =>
    refine ⟨fun meets => ⟨fun _ impossible => (nomatch impossible), fun _ same => Except.error.inj same ▸ meets⟩, fun each => ?_⟩
    exact each.2 error rfl

/-- What is run quietly only returns. -/
theorem satisfies_quietly {method : Method Numeric Unit} {post : List (RunnerExchange Numeric) → Except Thrown Unit → Prop}
    (first : method.Satisfies allowed (fun said _ => post said (.ok ())) past) :
    (quietly method).Satisfies allowed post past :=
  Program.satisfies_catching first (fun _ _ meets => meets) fun _ _ meets => meets

end

end ControlPlane.TerraformRunner
