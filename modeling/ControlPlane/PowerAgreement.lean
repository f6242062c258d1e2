import ControlPlane.Runs
import ControlPlane.TerraformRules

/-!
When a power request is answered without a run. The methods of the adapter and the
work they leave to the background go on side by side, question by question, while
the VM changes its power state for any cause: an apply, a task of a direct
operation, or a change out of band. What Terraform reads of the VM and when it
writes the state are moments of their own.
-/
namespace ControlPlane.PowerAgreement
open ControlPlane.Programs ControlPlane.Runs ControlPlane.JsonValues ControlPlane.Diagnostics ControlPlane.TerraformVariables
open ControlPlane.ProviderPort ControlPlane.ProxmoxOwnership ControlPlane.TerraformRunner ControlPlane.TerraformProvider ControlPlane.TerraformRules

section
variable {Numeric : Type} (deployment : Deployment Numeric)

/-! ### The system -/

/-- The power state that a request asks for. -/
def requestedPower : ProviderCall → Option Bool
  | .startInstance _ => some true
  | .shutdownInstance _ => some false
  | _ => none

/-- A result that reports success. -/
def succeeds (result : Option ProviderMutationResult) : Bool := result.any fun result => result.state = some .succeeded

/-- Whether a power request was answered with success and without a run. -/
def withoutRun : (call : ProviderCall) → call.Response × Option (Background Numeric) → Bool
  | .startInstance _, (result, work) | .shutdownInstance _, (result, work) => succeeds result && work.isNone
  | _, _ => false

/-- A method that goes on, or work in the background: what is left of it, what was asked
    so far, what its Terraform process has read of the VM, and whether that is still so.
    `current` tells whether every state that it was shown was true of the VM and the VM
    has not changed since. -/
structure Process (Numeric : Type) where
  requested : Option Bool
  rest : Method Numeric (Bool × Option (Background Numeric))
  said : List (RunnerExchange Numeric) := []
  reading : Option (Bool × Bool) := none
  current : Bool := true

/-- The VM, the text of its state, whether that text was written from a reading after
    which the VM has not changed, and the answers without a run, each with the power
    state it was asked for and the one the VM had. -/
structure World (Numeric : Type) where
  running : Bool
  document : String
  fresh : Bool := false
  processes : List (Process Numeric) := []
  answers : List (Bool × Bool) := []

inductive Action (Numeric : Type)
  | receive (now : Nat) (call : ProviderCall)
  | answer (index : Nat) (answers : (call : Call Numeric) → Call.Answer call)
  | show (index : Nat) (diagnostics : List TerraformDiagnostic)
  | read (index : Nat)
  | write (index : Nat) (document : String)
  | miswrite (index : Nat) (document : String)
  | power (running : Bool)
  | finish (index : Nat)
  | crash

/-- The power state that a state document declares, if it declares an instance. -/
def recordedPower (document : String) : Option Bool :=
  match tfvarsFromState deployment.host deployment.configuration (deployment.host.parse document) with
  | .ok (some declared) => some declared.started
  | _ => none

/-- Whether an answer shows a state document. -/
def showsState : RunnerExchange Numeric → Bool
  | ⟨.invoke .showState _, .ok shown⟩ => shown.exitCode = 0
  | _ => false

/-- What a change of the VM makes of a process. -/
def Process.outdated (process : Process Numeric) : Process Numeric :=
  { process with
    reading := process.reading.map fun reading => (reading.1, false)
    current := process.current && !process.said.any showsState }

/-- A process goes on after its question was answered. -/
def Process.resumed (process : Process Numeric) (exchange : RunnerExchange Numeric)
    (rest : Method Numeric (Bool × Option (Background Numeric))) (current : Bool) : Process Numeric :=
  { process with rest, said := process.said ++ [exchange], reading := none, current }

/-- Whether a process waits for an invocation that writes the state. -/
def writesState : Method Numeric (Bool × Option (Background Numeric)) → Bool
  | .ask (.invoke .refresh _) _ | .ask (.invoke .apply _) _ => true
  | _ => false

/-- The answer to a question, other than a document that is shown. -/
def answered (process : Process Numeric) (answers : (call : Call Numeric) → Call.Answer call) : Option (Process Numeric) :=
  match process.rest with
  | .ask call resume =>
    if showsState ⟨call, answers call⟩ then none
    else some (process.resumed ⟨call, answers call⟩ (resume (answers call)) process.current)
  | _ => none

/-- A state document that is shown. -/
def shown (process : Process Numeric) (document : String) (fresh : Bool) (diagnostics : List TerraformDiagnostic) :
    Option (Process Numeric) :=
  match process.rest with
  | .ask (.invoke .showState directory) resume =>
    some (process.resumed ⟨.invoke .showState directory, .ok ⟨0, diagnostics, document⟩⟩ (resume (.ok ⟨0, diagnostics, document⟩))
      (process.current && fresh))
  | _ => none

/-- One process is replaced. -/
def World.with_ (world : World Numeric) (index : Nat) (process : Process Numeric) : World Numeric :=
  { world with processes := world.processes.set index process }

/-- What a process leaves when it ends. -/
def World.finished (world : World Numeric) (index : Nat) (process : Process Numeric) (done : Bool)
    (work : Option (Background Numeric)) : World Numeric :=
  { world with
    processes := world.processes.eraseIdx index ++
      work.toList.map fun work => { requested := none, rest := do background deployment work; return (false, none) }
    answers := world.answers ++ (if done then process.requested.toList.map fun requested => (requested, world.running) else []) }

def next (world : World Numeric) : Action Numeric → Option (World Numeric)
  | .receive now call =>
    some { world with
      processes := world.processes ++
        [{ requested := requestedPower call,
           rest := do
            let response ← handle deployment now call
            return (withoutRun call response, response.2) }] }
  | .answer index answers => do
    let process ← world.processes[index]?
    let after ← answered process answers
    return world.with_ index after
  | .show index diagnostics => do
    let process ← world.processes[index]?
    let after ← shown process world.document world.fresh diagnostics
    return world.with_ index after
  | .read index => do
    let process ← world.processes[index]?
    if !writesState process.rest then none
    else return world.with_ index { process with reading := some (world.running, true) }
  | .write index document => do
    let process ← world.processes[index]?
    let (running, still) ← process.reading
    if (recordedPower deployment document).any (· ≠ running) then none
    else return { world with document, fresh := still }
  | .miswrite index document => do
    let process ← world.processes[index]?
    if !writesState process.rest then none else return { world with document, fresh := false }
  | .power running =>
    if running = world.running then some world
    else some { world with running, fresh := false, processes := world.processes.map Process.outdated }
  | .finish index => do
    let process ← world.processes[index]?
    match process.rest with
    | .done (done, work) => return world.finished deployment index process done work
    | .raise _ => return { world with processes := world.processes.eraseIdx index }
    | .ask .. => none
  | .crash => some { world with processes := [] }

/-- A VM with a state document of which nothing is known. -/
def initial (running : Bool) (document : String) : World Numeric := { running, document }

/-! ### The claim -/

/-- Every answer without a run was given while the VM was in the requested state. -/
def Justified (world : World Numeric) : Prop := ∀ answer ∈ world.answers, answer.2 = answer.1

/-- A power request is answered without a run only while what it was shown of the state
    was written from a reading after which the VM has not changed. -/
def Current (world : World Numeric) : Action Numeric → Prop
  | .finish index => ∀ process, world.processes[index]? = some process →
      (∃ work, process.rest = .done (true, work)) → process.current = true
  | _ => True

end

/-! ### What an answer without a run was shown -/

section
variable {Numeric : Type} {deployment : Deployment Numeric} {past : List (RunnerExchange Numeric)}

/-- A state that was shown declares the power state given. -/
def ShownPower (deployment : Deployment Numeric) (started : Bool) (said : List (RunnerExchange Numeric)) : Prop :=
  ∃ directory shown, (⟨.invoke .showState directory, .ok shown⟩ : RunnerExchange Numeric) ∈ said ∧ shown.exitCode = 0 ∧
    recordedPower deployment shown.stdout = some started

/-- An apply that is started is not answered with success. -/
theorem startApply_satisfies (input : ApplyInput Numeric) : (startApply deployment input).Satisfies (fun _ _ => True)
    (fun _ ended => ∀ result work, ended = .ok (result, work) → result.state ≠ some .succeeded) past := by
  have raises (thrown : Thrown) : ∀ result work,
      (.error thrown : Except Thrown (ProviderMutationResult × Option (Background Numeric))) = .ok (result, work) →
        result.state ≠ some .succeeded := fun _ _ impossible => nomatch impossible
  refine satisfies_perform_bind.mpr ⟨trivial, fun runId => ?_, fun _ => raises _⟩
  refine Program.satisfies_bind (prepare_satisfies _ _ _) (fun _ directory _ => ?_) fun _ _ _ => raises _
  refine Program.satisfies_bind (init_satisfies _ _) (fun _ initialized _ => ?_) fun _ _ _ => raises _
  split
  · refine Program.satisfies_bind (discard_satisfies _) (fun _ _ _ => raises _) ?_
    rintro _ _ ⟨impossible, -⟩
    cases impossible
  · refine Program.satisfies_bind (plan_satisfies _ _) (fun _ pair _ => ?_) fun _ _ _ => raises _
    obtain ⟨gate, invocation⟩ := pair
    refine satisfies_perform_bind.mpr ⟨trivial, fun _ => ?_, fun _ => raises _⟩
    split
    · refine satisfies_perform_bind.mpr ⟨trivial, fun _ => ?_, fun _ => raises _⟩
      refine Program.satisfies_bind (discard_satisfies _) ?_ ?_
      · rintro _ _ - result work ⟨⟩ impossible
        cases impossible
      · rintro _ _ ⟨impossible, -⟩
        cases impossible
    · rintro result work ⟨⟩ impossible
      cases impossible

theorem recordedPower_of_declares {directory : String} {shown : List (RunnerExchange Numeric)} {declared : InstanceTfvars Numeric}
    (declares : Declared deployment directory shown (.ok (some declared))) : ShownPower deployment declared.started shown := by
  generalize same : (Except.ok (some declared) : Except Thrown _) = ended at declares
  cases declares with
  | threw => cases same
  | shown result =>
    have read := ending_ok.mp same.symm
    unfold documentOf at read
    split at read
    · cases read
    next exited =>
      refine ⟨directory, result, List.mem_cons_self, not_not.mp exited, ?_⟩
      rw [recordedPower, read]

theorem ShownPower.mono {started : Bool} {said more : List (RunnerExchange Numeric)} (shown : ShownPower deployment started said)
    (part : said ⊆ more) : ShownPower deployment started more := by
  obtain ⟨directory, result, member, rest⟩ := shown
  exact ⟨directory, result, part member, rest⟩

/-- A power request that succeeds without a run was shown the requested state. -/
theorem setPowerState_satisfies (request : InstanceMutationRequest) (started : Bool) :
    (setPowerState deployment request started).Satisfies (fun _ _ => True)
      (fun said ended => ∀ result work, ended = .ok (result, work) → result.state = some .succeeded →
        ShownPower deployment started said) past := by
  refine satisfies_checked_bind.mpr ⟨?_, fun _ _ _ _ impossible => nomatch impossible⟩
  rintro ⟨instanceId, operationId⟩ -
  refine Program.satisfies_bind (readDeclared_satisfies _ _ _) ?_ fun _ _ _ _ _ impossible => nomatch impossible
  rintro _ answer ⟨new, rfl, read⟩
  generalize same : (Except.ok answer : Except Thrown _) = ended at read
  cases read with
  | unprepared | uninitialized | unreachable | unread => cases same
  | absent =>
    cases same
    rintro result work ⟨⟩ impossible
    cases impossible
  | declared uuid begun initialized exited ready shown declared declares =>
    cases same
    dsimp only
    split
    next already =>
      refine Program.satisfies_bind (discard_satisfies _) ?_ ?_
      · rintro _ _ ⟨-, removal, rfl, -⟩ result work - -
        refine (already ▸ recordedPower_of_declares declares).mono fun exchange member => ?_
        simp [member]
      · rintro _ _ ⟨impossible, -⟩
        cases impossible
    next =>
      refine (startApply_satisfies _).weaken (fun _ _ _ => trivial) ?_
      exact fun said ended never result work same won => absurd won (never result work same)

variable (deployment) in
/-- What holds of a process when it ends: an answer without a run was shown the state
    that was requested. -/
def Told (requested : Option Bool) (said : List (RunnerExchange Numeric))
    (ended : Except Thrown (Bool × Option (Background Numeric))) : Prop :=
  ∀ work, ended = .ok (true, work) → ∃ started, requested = some started ∧ ShownPower deployment started said

/-- A method that is no power request is not answered without a run. -/
theorem told_other {α : Type} (method : Method Numeric α) (work : α → Option (Background Numeric)) (requested : Option Bool) :
    (do let response ← method; return (false, work response) : Method Numeric (Bool × Option (Background Numeric))).Satisfies
      (fun _ _ => True) (Told deployment requested) past := by
  refine Program.satisfies_bind (Program.satisfies_anything method past) (fun _ response _ => ?_) ?_
  · rintro more ⟨⟩
  · rintro _ _ - more ⟨⟩

/-- A power request. -/
theorem told_power (request : InstanceMutationRequest) (started : Bool) :
    (do
      let (result, work) ← setPowerState deployment request started
      return (succeeds (some result) && work.isNone, work) : Method Numeric (Bool × Option (Background Numeric))).Satisfies
      (fun _ _ => True) (Told deployment (some started)) past := by
  refine Program.satisfies_bind (setPowerState_satisfies request started) ?_ ?_
  · rintro said ⟨result, work⟩ shown more same
    obtain ⟨won, -⟩ := Prod.mk.inj (Except.ok.inj same)
    rw [Bool.and_eq_true] at won
    exact ⟨started, rfl, shown result work rfl (by simpa [succeeds] using won.1)⟩
  · rintro _ _ - more ⟨⟩

theorem handle_satisfies (now : Nat) (call : ProviderCall) :
    (do let response ← handle deployment now call; return (withoutRun call response, response.2) :
      Method Numeric (Bool × Option (Background Numeric))).Satisfies (fun _ _ => True) (Told deployment (requestedPower call)) past := by
  cases call with
  | startInstance request =>
    have told := @told_power Numeric deployment past (request.getD {}) true
    simpa [handle, mutation, startInstance, withoutRun, requestedPower] using told
  | shutdownInstance request =>
    have told := @told_power Numeric deployment past (request.getD {}) false
    simpa [handle, mutation, shutdownInstance, withoutRun, requestedPower] using told
  | _ => exact told_other _ Prod.snd _

/-! ### Runs -/

variable (deployment) in
/-- What holds of a process while the VM has the power state given. -/
structure Sound (running : Bool) (process : Process Numeric) : Prop where
  reading : ∀ read, process.reading = some (read, true) → read = running
  shown : process.current = true → ∀ power, ShownPower deployment power process.said → power = running
  method : process.rest.Satisfies (fun _ _ => True) (Told deployment process.requested) process.said

variable (deployment) in
structure Honest (world : World Numeric) : Prop where
  document : world.fresh = true → ∀ power, recordedPower deployment world.document = some power → power = world.running
  processes : ∀ process ∈ world.processes, Sound deployment world.running process
  answers : Justified world

/-- A process that has not asked anything yet. -/
theorem sound_new (running : Bool) (requested : Option Bool) (rest : Method Numeric (Bool × Option (Background Numeric)))
    (told : rest.Satisfies (fun _ _ => True) (Told deployment requested) []) :
    Sound deployment running { requested, rest } := by
  refine ⟨fun _ impossible => (nomatch impossible), fun _ power shown => ?_, told⟩
  obtain ⟨_, _, member, -⟩ := shown
  cases member

/-- A new answer that shows no state leaves what was shown. -/
theorem shownPower_append {said : List (RunnerExchange Numeric)} {exchange : RunnerExchange Numeric} {power : Bool}
    (shown : ShownPower deployment power (said ++ [exchange]))
    (other : ∀ directory result, exchange = ⟨.invoke .showState directory, .ok result⟩ → result.exitCode ≠ 0) :
    ShownPower deployment power said := by
  obtain ⟨directory, result, member, exited, recorded⟩ := shown
  rcases List.mem_append.mp member with old | new
  · exact ⟨directory, result, old, exited, recorded⟩
  · exact absurd exited (other directory result (List.mem_singleton.mp new).symm)

theorem sound_answered {running : Bool} {process after : Process Numeric} {answers : (call : Call Numeric) → Call.Answer call}
    (sound : Sound deployment running process) (taken : answered process answers = some after) : Sound deployment running after := by
  have method := sound.method
  unfold answered at taken
  split at taken
  next call resume asks =>
    rw [asks] at method
    split at taken
    next => cases taken
    next silent =>
      obtain rfl := Option.some.inj taken
      refine ⟨fun _ impossible => (nomatch impossible), fun current power shown => ?_, method.2 _⟩
      refine sound.shown current power (shownPower_append shown fun directory result same exited => silent ?_)
      rw [same]
      exact decide_eq_true exited
  next => cases taken

theorem sound_shown {running fresh : Bool} {process after : Process Numeric} {document : String}
    {diagnostics : List TerraformDiagnostic} (sound : Sound deployment running process)
    (true_ : fresh = true → ∀ power, recordedPower deployment document = some power → power = running)
    (taken : shown process document fresh diagnostics = some after) : Sound deployment running after := by
  have method := sound.method
  unfold PowerAgreement.shown at taken
  split at taken
  next directory resume asks =>
    rw [asks] at method
    obtain rfl := Option.some.inj taken
    refine ⟨fun _ impossible => (nomatch impossible), fun current power shown => ?_, method.2 _⟩
    obtain ⟨current, fresh⟩ := Bool.and_eq_true_iff.mp current
    obtain ⟨place, result, member, exited, recorded⟩ := shown
    rcases List.mem_append.mp member with old | new
    · exact sound.shown current power ⟨place, result, old, exited, recorded⟩
    · cases List.mem_singleton.mp new
      exact true_ fresh power recorded
  next => cases taken

theorem sound_outdated {running : Bool} (now : Bool) {process : Process Numeric} (sound : Sound deployment running process) :
    Sound deployment now process.outdated := by
  refine ⟨fun read same => ?_, fun current power shown => ?_, sound.method⟩
  · obtain ⟨reading, -, same⟩ := Option.map_eq_some_iff.mp same
    cases same
  · obtain ⟨-, none_⟩ := Bool.and_eq_true_iff.mp current
    obtain ⟨directory, result, member, exited, -⟩ := shown
    have some_ : process.said.any showsState = true := List.any_eq_true.mpr ⟨_, member, decide_eq_true exited⟩
    rw [some_] at none_
    cases none_

/-- What a step keeps. -/
theorem honest_next {world after : World Numeric} {action : Action Numeric} (honest : Honest deployment world)
    (current : Current world action) (taken : next deployment world action = some after) : Honest deployment after := by
  have replaced {index : Nat} {process : Process Numeric} (sound : Sound deployment world.running process) :
      ∀ other ∈ world.processes.set index process, Sound deployment world.running other := by
    intro other member
    rcases List.mem_or_eq_of_mem_set member with old | rfl
    · exact honest.processes other old
    · exact sound
  have there {index : Nat} {process : Process Numeric} (found : world.processes[index]? = some process) :
      Sound deployment world.running process := honest.processes process (List.mem_of_getElem? found)
  cases action with
  | receive now call =>
    obtain rfl := Option.some.inj taken
    refine ⟨honest.document, fun process member => ?_, honest.answers⟩
    rcases List.mem_append.mp member with old | new
    · exact honest.processes process old
    · obtain rfl := List.mem_singleton.mp new
      exact sound_new _ _ _ (handle_satisfies now call)
  | answer index answers =>
    obtain ⟨process, found, taken⟩ := Option.bind_eq_some_iff.mp taken
    obtain ⟨later, moved, taken⟩ := Option.bind_eq_some_iff.mp taken
    obtain rfl := Option.some.inj taken
    exact ⟨honest.document, replaced (sound_answered (there found) moved), honest.answers⟩
  | «show» index diagnostics =>
    obtain ⟨process, found, taken⟩ := Option.bind_eq_some_iff.mp taken
    obtain ⟨later, moved, taken⟩ := Option.bind_eq_some_iff.mp taken
    obtain rfl := Option.some.inj taken
    exact ⟨honest.document, replaced (sound_shown (there found) honest.document moved), honest.answers⟩
  | read index =>
    obtain ⟨process, found, taken⟩ := Option.bind_eq_some_iff.mp taken
    split at taken
    · cases taken
    · obtain rfl := Option.some.inj taken
      have sound := there found
      refine ⟨honest.document, replaced ⟨fun read same => ?_, sound.shown, sound.method⟩, honest.answers⟩
      exact (Prod.mk.inj (Option.some.inj same)).1.symm
  | write index document =>
    obtain ⟨process, found, taken⟩ := Option.bind_eq_some_iff.mp taken
    obtain ⟨⟨running, still⟩, reads, taken⟩ := Option.bind_eq_some_iff.mp taken
    dsimp only at taken
    split at taken
    · cases taken
    next agrees =>
      obtain rfl := Option.some.inj taken
      refine ⟨fun fresh power recorded => ?_, honest.processes, honest.answers⟩
      obtain rfl : still = true := fresh
      have same : power = running := by
        rw [recorded] at agrees
        simpa using agrees
      exact same.trans ((there found).reading running reads)
  | miswrite index document =>
    obtain ⟨process, found, taken⟩ := Option.bind_eq_some_iff.mp taken
    split at taken
    · cases taken
    · obtain rfl := Option.some.inj taken
      exact ⟨fun fresh => (nomatch fresh), honest.processes, honest.answers⟩
  | power running =>
    simp only [next] at taken
    split at taken
    · exact Option.some.inj taken ▸ honest
    · obtain rfl := Option.some.inj taken
      refine ⟨fun fresh => (nomatch fresh), fun process member => ?_, honest.answers⟩
      obtain ⟨old, inside, rfl⟩ := List.mem_map.mp member
      exact sound_outdated running (honest.processes old inside)
  | finish index =>
    obtain ⟨process, found, taken⟩ := Option.bind_eq_some_iff.mp taken
    have sound := there found
    split at taken
    next done work ends =>
      obtain rfl := Option.some.inj taken
      refine ⟨honest.document, fun other member => ?_, fun answer member => ?_⟩
      · rcases List.mem_append.mp member with old | new
        · exact honest.processes other (List.mem_of_mem_eraseIdx old)
        · obtain ⟨left, -, rfl⟩ := List.mem_map.mp new
          exact sound_new _ _ _ (told_other (background deployment left) (fun _ => none) none)
      · rcases List.mem_append.mp member with old | new
        · exact honest.answers answer old
        · split at new
          next won =>
            obtain ⟨requested, asked, rfl⟩ := List.mem_map.mp new
            subst won
            have told := sound.method
            rw [ends] at told
            obtain ⟨started, same, shown⟩ := told work rfl
            obtain rfl := Option.some.inj ((Option.mem_toList.mp asked).symm.trans same)
            exact (sound.shown (current process found ⟨work, ends⟩) _ shown).symm
          next => cases new
    next =>
      obtain rfl := Option.some.inj taken
      exact ⟨honest.document, fun other member => honest.processes other (List.mem_of_mem_eraseIdx member), honest.answers⟩
    next => cases taken
  | crash =>
    obtain rfl := Option.some.inj taken
    exact ⟨honest.document, fun _ member => (nomatch member), honest.answers⟩

/-- In every run in which power requests are answered without a run on current readings
    only, each of these answers is justified. -/
theorem powerAnswers_justified (deployment : Deployment Numeric) (running : Bool) (document : String) {world : World Numeric}
    (run : Reaches (next deployment) Current (initial running document) world) : Justified world := by
  have honest : Honest deployment world := by
    refine reaches_invariant (Honest deployment) (fun s action t => honest_next) run ?_
    exact ⟨fun fresh => (nomatch fresh), fun _ member => (nomatch member), fun _ member => (nomatch member)⟩
  exact honest.answers

end

/-! ### Sample runs -/

def sampleOwner : OwnershipMarkers :=
  { managedBy := some "private-cloud-control-plane", environment := some "lab", projectId := some "p1",
    instanceId := some "a1", createOperationId := some "c1" }

/-- A deployment with two state documents, one of a VM that runs and one of a VM that does not. -/
def sampleAdapter : Deployment Nat :=
  { sampleDeployment none with
    host := { sampleHost with
      library := { sampleLibrary {} with parseMarkers := fun text => if text = "m" then some sampleOwner else none }
      parse := fun text =>
        if text = "on" then some (sampleState [("started", .bool true)])
        else if text = "off" then some (sampleState [("started", .bool false)]) else none } }

def sampleMutation : InstanceMutationRequest :=
  { context := some { operationId := some "c1", instanceId := some "a1", providerProfileId := some "proxmox" },
    providerResourceId := some "910000", expectedOwnershipMarkers := some sampleOwner }

/-- The answers of a VM that is owned. -/
def ownedAnswers : (call : Call Nat) → Call.Answer call
  | .config _ => .ok (some (.obj [("description", .str "private-cloud-control:m")]))
  | call => sampleAnswers sampleResults call

/-- The only process is answered so many times. -/
def answering (times : Nat) : List (Action Nat) := List.replicate times (.answer 0 ownedAnswers)

/-- Refreshes, and writes what it read. -/
def refreshing (document : String) : List (Action Nat) := [.read 0, .write 0 document] ++ answering 1

/-- A start, from its preparation to its answer. -/
def starting : List (Action Nat) :=
  [.receive 0 (.startInstance (some sampleMutation))] ++ answering 8 ++ [.show 0 []] ++ answering 1 ++ [.finish 0]

/-- An observation refreshes the state of a running VM, which is then started. -/
def sampleObserved : List (Action Nat) :=
  [.receive 0 (.observeInstance sampleMutation)] ++ answering 8 ++ refreshing "on" ++ [.show 0 []] ++ answering 1 ++
    [.finish 0] ++ starting

/-- A hard stop is accepted, the refresh that follows it reads the VM before the stop
    takes effect, and then the VM is started. -/
def sampleStopped : List (Action Nat) :=
  [.receive 0 (.stopInstance (some sampleMutation))] ++ answering 2 ++ [.finish 0] ++ answering 8 ++ refreshing "on" ++
    answering 3 ++ [.finish 0, .power false] ++ starting

/-- A check that decides `Current`. -/
def isCurrent (world : World Nat) : Action Nat → Bool
  | .finish index => world.processes[index]?.all Process.current
  | _ => true

theorem current_of_isCurrent (world : World Nat) (action : Action Nat) (checked : isCurrent world action = true) :
    Current world action := by
  cases action with
  | finish index =>
    intro process found _
    simpa [isCurrent, found] using checked
  | _ => trivial

/-- The run of the observation gives an answer without a run, which is justified. -/
theorem powerAnswers_justified_sample : ∃ world : World Nat, Justified world ∧ world.answers = [(true, true)] := by
  have ran : (tested (next sampleAdapter) isCurrent (initial true "off") sampleObserved).map World.answers =
      some [(true, true)] := by rfl
  obtain ⟨world, passed, same⟩ := Option.map_eq_some_iff.mp ran
  exact ⟨world, powerAnswers_justified sampleAdapter true "off" (reaches_tested current_of_isCurrent passed), same⟩

/-- The stop that takes effect after its refresh leaves a start unanswered for: it is told
    to be done while the VM is stopped. -/
theorem powerAnswers_unjustified :
    ∃ world, Reaches (next sampleAdapter) Anything (initial true "on") world ∧ ¬ Justified world := by
  have ran : (execute (next sampleAdapter) (initial true "on") sampleStopped).map World.answers = some [(true, false)] := by rfl
  obtain ⟨world, executed, same⟩ := Option.map_eq_some_iff.mp ran
  refine ⟨world, reaches_execute (meets_anything _ _) executed, fun justified => ?_⟩
  have answer := justified (true, false) (by rw [same]; exact List.mem_cons_self)
  cases answer

end ControlPlane.PowerAgreement
