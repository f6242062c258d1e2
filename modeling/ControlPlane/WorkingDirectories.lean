import ControlPlane.TerraformRules

/-!
Which working directories are left behind. A method may prepare one directory to
read the state and another one for its apply; the background work removes a path
that is the name of a workspace, and so no directory.
-/
namespace ControlPlane.WorkingDirectories
open ControlPlane.Programs ControlPlane.JsonValues ControlPlane.Diagnostics ControlPlane.TerraformVariables
open ControlPlane.ProviderPort ControlPlane.TerraformRunner ControlPlane.TerraformProvider ControlPlane.TerraformRules

/-- A method of the adapter that asks for anything. -/
inductive AdapterCall
  | validateProfile (summarize : Field → String) (profileId : Option String)
  | port (now : Nat) (call : ProviderCall)

section
variable {Numeric : Type} (deployment : Deployment Numeric)

/-- A call with all the work that it leaves to the background. -/
def session : AdapterCall → Method Numeric Unit
  | .validateProfile summarize profileId => do
    let _ ← validateProfile deployment summarize profileId
  | .port now call => do
    match ← (handle deployment now call).attempt with
    | .ok (_, some work) => background deployment work
    | _ => return ()

/-! ### The claim -/

/-- The directories that exist. A preparation ends with the mode of the variable file. -/
def keep (kept : List String) : RunnerExchange Numeric → List String
  | ⟨.chmod directory, .ok _⟩ => directory :: kept.filter (· ≠ directory)
  | ⟨.rm directory, .ok _⟩ => kept.filter (· ≠ directory)
  | _ => kept

/-- The prepared directories that are left after a conversation. -/
def leftBehind (said : List (RunnerExchange Numeric)) : List String := said.foldl keep []

def returnedOf : RunnerExchange Numeric → Option String
  | ⟨.chmod directory, .ok _⟩ => some directory
  | _ => none

/-- The directories that a preparation returned. -/
def returned (said : List (RunnerExchange Numeric)) : List String := said.filterMap returnedOf

/-- Every directory lies under the working root, and its removal does not fail. -/
def Disposable (said : List (RunnerExchange Numeric)) : Prop :=
  ∀ directory ∈ returned said, underRoot deployment directory = true ∧
    ∀ answer, (⟨.rm directory, answer⟩ : RunnerExchange Numeric) ∈ said → answer = .ok ()

def initOf : RunnerExchange Numeric → Option (Except Thrown InvocationResult)
  | ⟨.invoke .init _, answer⟩ => some answer
  | _ => none

def shownOf : RunnerExchange Numeric → Option (Except Thrown InvocationResult)
  | ⟨.invoke .showState _, answer⟩ => some answer
  | _ => none

/-- Whether a change is answered from the state alone. -/
def settles (call : ProviderCall) : Evaluated (Option (InstanceTfvars Numeric)) → Bool
  | .error _ => false
  | .ok none => true
  | .ok (some declared) =>
    match call with
    | .startInstance _ => declared.started
    | .shutdownInstance _ => !declared.started
    | .resizeInstance request => shrinks deployment request.targetResources declared
    | _ => false

/-- The first initialization exits with an error, or the first state that is shown
    settles the change. -/
def Early (call : ProviderCall) (said : List (RunnerExchange Numeric)) : Prop :=
  ∃ result, said.findSome? initOf = some (.ok result) ∧
    (result.exitCode ≠ 0 ∨ ∃ shown, said.findSome? shownOf = some (.ok shown) ∧
      settles deployment call (tfvarsFromState deployment.host deployment.configuration (documentOf deployment shown)) = true)

/-- When every directory is removed. -/
def Removable (said : List (RunnerExchange Numeric)) : AdapterCall → Prop
  | .validateProfile .. => Disposable deployment said
  | .port _ call =>
    match call with
    | .submitCreateInstance _ => returned said = []
    | .startInstance _ | .shutdownInstance _ | .resizeInstance _ | .markInstanceRetained _ | .purgeInstance _ =>
      returned said = [] ∨ Early deployment call said ∧ Disposable deployment said
    | _ => Disposable deployment said

/-! ### Conversations -/

/-- Whether a question touches no directory. -/
def neutral : Call Numeric → Bool
  | .chmod _ | .rm _ => false
  | _ => true

/-- A conversation that returned no directory and removed none. -/
structure Untouched (said : List (RunnerExchange Numeric)) : Prop where
  kept : leftBehind said = []
  made : returned said = []
  unremoved : ∀ directory answer, (⟨.rm directory, answer⟩ : RunnerExchange Numeric) ∉ said

/-- A conversation that returned one directory, which still exists. -/
structure Held (directory : String) (said : List (RunnerExchange Numeric)) : Prop where
  kept : leftBehind said = [directory]
  made : ∀ other ∈ returned said, other = directory
  some_ : directory ∈ returned said
  unremoved : ∀ answer, (⟨.rm directory, answer⟩ : RunnerExchange Numeric) ∉ said

end

section
variable {Numeric : Type} {deployment : Deployment Numeric} {said new : List (RunnerExchange Numeric)} {directory : String}

theorem leftBehind_append (said new : List (RunnerExchange Numeric)) :
    leftBehind (said ++ new) = new.foldl keep (leftBehind said) := List.foldl_append ..

theorem returned_append (said new : List (RunnerExchange Numeric)) : returned (said ++ new) = returned said ++ returned new :=
  List.filterMap_append ..

theorem keep_neutral {exchange : RunnerExchange Numeric} (silent : neutral exchange.1 = true) (kept : List String) :
    keep kept exchange = kept := by
  obtain ⟨call, answer⟩ := exchange
  cases call <;> first | rfl | cases silent

theorem returnedOf_neutral {exchange : RunnerExchange Numeric} (silent : neutral exchange.1 = true) :
    returnedOf exchange = none := by
  obtain ⟨call, answer⟩ := exchange
  cases call <;> first | rfl | cases silent

/-- Questions that touch no directory leave the directories. -/
theorem leftBehind_neutral (silent : ∀ exchange ∈ new, neutral exchange.1 = true) :
    leftBehind (said ++ new) = leftBehind said := by
  rw [leftBehind_append]
  generalize leftBehind said = kept
  induction new generalizing kept with
  | nil => rfl
  | cons exchange rest ih =>
    obtain ⟨first, rest_⟩ := List.forall_mem_cons.mp silent
    rw [List.foldl_cons, keep_neutral first]
    exact ih rest_ kept

theorem returned_neutral (silent : ∀ exchange ∈ new, neutral exchange.1 = true) : returned new = [] :=
  List.filterMap_eq_nil_iff.mpr fun exchange member => returnedOf_neutral (silent exchange member)

theorem Untouched.append (untouched : Untouched said) (silent : ∀ exchange ∈ new, neutral exchange.1 = true) :
    Untouched (said ++ new) where
  kept := (leftBehind_neutral silent).trans untouched.kept
  made := by rw [returned_append, untouched.made, returned_neutral silent]; rfl
  unremoved directory answer member := by
    rcases List.mem_append.mp member with old | fresh
    · exact untouched.unremoved directory answer old
    · cases silent _ fresh

theorem untouched_nil : Untouched ([] : List (RunnerExchange Numeric)) := ⟨rfl, rfl, fun _ _ => List.not_mem_nil⟩

/-- A question about a directory that fails, and is no removal. -/
theorem Untouched.failed (untouched : Untouched said) (call : Call Numeric) (thrown : Thrown)
    (other : ∀ directory, call ≠ .rm directory) :
    Untouched (said ++ [⟨call, .error thrown⟩]) := by
  have unkept : ∀ kept, keep kept ⟨call, .error thrown⟩ = kept := fun kept => by cases call <;> rfl
  have unmade : returnedOf ⟨call, .error thrown⟩ = none := by cases call <;> rfl
  refine ⟨?_, ?_, fun directory answer member => ?_⟩
  · rw [leftBehind_append, untouched.kept]
    exact unkept []
  · rw [returned_append, untouched.made, returned, List.filterMap_cons_none unmade]
    rfl
  · rcases List.mem_append.mp member with old | fresh
    · exact untouched.unremoved directory answer old
    · exact other directory (congrArg Sigma.fst (List.mem_singleton.mp fresh)).symm

theorem Held.append (held : Held directory said) (silent : ∀ exchange ∈ new, neutral exchange.1 = true) :
    Held directory (said ++ new) where
  kept := (leftBehind_neutral silent).trans held.kept
  made := by rw [returned_append, returned_neutral silent, List.append_nil]; exact held.made
  some_ := by rw [returned_append]; exact List.mem_append_left _ held.some_
  unremoved answer member := by
    rcases List.mem_append.mp member with old | fresh
    · exact held.unremoved answer old
    · cases silent _ fresh

/-- Another variable file in the directory. -/
theorem Held.rewritten (held : Held directory said) (answer : Except Thrown Unit) :
    Held directory (said ++ [⟨.chmod directory, answer⟩]) := by
  cases answer with
  | error thrown =>
    refine ⟨?_, ?_, ?_, fun answer member => ?_⟩
    · rw [leftBehind_append, held.kept]; rfl
    · rw [returned_append]; exact fun other member => held.made other (by simpa [returned, returnedOf] using member)
    · rw [returned_append]; exact List.mem_append_left _ held.some_
    · exact held.unremoved answer (by simpa using member)
  | ok =>
    refine ⟨?_, ?_, ?_, fun answer member => ?_⟩
    · rw [leftBehind_append, held.kept]; simp [keep]
    · rw [returned_append]
      intro other member
      rcases List.mem_append.mp member with old | fresh
      · exact held.made other old
      · simpa [returned, returnedOf] using fresh
    · rw [returned_append]; exact List.mem_append_left _ held.some_
    · exact held.unremoved answer (by simpa using member)

/-- A held directory is gone after its disposal exactly when it could be removed. -/
theorem Held.disposed (held : Held directory said) {removal : List (RunnerExchange Numeric)}
    (disposed : Disposed deployment directory removal) :
    leftBehind (said ++ removal) = [] ↔ Disposable deployment (said ++ removal) := by
  cases disposed with
  | elsewhere outside =>
    rw [List.append_nil, held.kept]
    refine iff_of_false (List.cons_ne_nil _ _) fun disposable => ?_
    rw [(disposable directory held.some_).1] at outside
    cases outside
  | asked inside answer =>
    have made : returned (said ++ [⟨.rm directory, answer⟩]) = returned said := by
      rw [returned_append]
      exact List.append_nil _
    rw [leftBehind_append, held.kept]
    cases answer with
    | error thrown =>
      refine iff_of_false (List.cons_ne_nil _ _) fun disposable => ?_
      have impossible := (disposable directory (made ▸ held.some_)).2 (.error thrown) (by simp)
      cases impossible
    | ok =>
      refine iff_of_true (by simp [keep]) fun other member => ?_
      obtain rfl := held.made other (made ▸ member)
      refine ⟨inside, fun answer asked => ?_⟩
      rcases List.mem_append.mp asked with old | fresh
      · exact absurd old (held.unremoved answer)
      · cases List.mem_singleton.mp fresh
        rfl

/-- Without a directory there is nothing to remove. -/
theorem Untouched.disposable (untouched : Untouched said) : leftBehind said = [] ↔ Disposable deployment said :=
  iff_of_true untouched.kept fun directory member => by rw [untouched.made] at member; cases member

/-- A preparation that fails returns no directory. -/
theorem Untouched.prepared (untouched : Untouched said) {workspace : String} {tfvars : InstanceTfvars Numeric} {purge : Bool}
    {made : List (RunnerExchange Numeric)} {thrown : Thrown}
    (prepared : Prepared deployment workspace tfvars purge made (.error thrown)) : Untouched (said ++ made) := by
  cases prepared with
  | raised asked uuid directory call _ same =>
    have silent : ∀ exchange ∈ (preparation uuid directory tfvars purge).take asked, neutral exchange.1 = true := by
      have bound : asked ≤ 4 := by
        by_contra beyond
        rw [List.getElem?_eq_none (by simp [preparation]; omega)] at same
        cases same
      intro exchange member
      have within : exchange ∈ (preparation uuid directory tfvars purge).take 4 :=
        (List.take_subset_take_left _ bound) member
      simp only [preparation, List.take_succ_cons, List.take_zero, List.mem_cons, List.not_mem_nil, or_false] at within
      rcases within with rfl | rfl | rfl | rfl <;> rfl
    have other : ∀ directory, call ≠ .rm directory := by
      rintro place rfl
      obtain ⟨exchange, found, is_⟩ := Option.map_eq_some_iff.mp same
      have member := List.mem_of_getElem? found
      simp only [preparation, List.mem_cons, List.not_mem_nil, or_false] at member
      rcases member with rfl | rfl | rfl | rfl | rfl <;> cases is_
    rw [← List.append_assoc]
    exact (untouched.append silent).failed call thrown other

/-- A preparation that returns its directory. -/
theorem Untouched.held (untouched : Untouched said) (uuid : String) (tfvars : InstanceTfvars Numeric) (purge : Bool) :
    Held directory (said ++ preparation uuid directory tfvars purge) := by
  refine ⟨?_, ?_, ?_, ?_⟩
  · rw [leftBehind_append, untouched.kept]
    simp [preparation, keep]
  · rw [returned_append, untouched.made]
    simp [preparation, returned, returnedOf]
  · rw [returned_append, untouched.made]
    simp [preparation, returned, returnedOf]
  · intro answer member
    rcases List.mem_append.mp member with old | fresh
    · exact untouched.unremoved _ answer old
    · simp [preparation] at fresh

/-! ### A method with a directory of its own -/

variable {α : Type}

/-- What is asked in a held directory, and its removal at the end. -/
theorem ensuring_disposable {method : Method Numeric α}
    (body : method.Satisfies (fun _ _ => True) (fun more _ => Held directory more) said) :
    (method.ensuring (quietly (discard deployment directory))).Satisfies (fun _ _ => True)
      (fun more _ => leftBehind more = [] ↔ Disposable deployment more) said := by
  refine Program.satisfies_ensuring body fun later ended kept => ?_
  refine (discard_satisfies _).weaken (fun _ _ _ => trivial) ?_
  rintro _ done ⟨returned, removal, rfl, disposed⟩
  exact ⟨returned, kept.disposed disposed⟩

theorem Held.asks {method : Method Numeric α} (held : Held directory said) (silent : Asks neutral method) :
    method.Satisfies (fun _ _ => True) (fun more _ => Held directory more) said := by
  refine (silent.adds said).weaken (fun _ _ _ => trivial) ?_
  rintro _ _ ⟨new, rfl, kinds⟩
  exact held.append kinds

theorem Untouched.asks {method : Method Numeric α} (untouched : Untouched said) (silent : Asks neutral method) :
    method.Satisfies (fun _ _ => True) (fun more _ => Untouched more) said := by
  refine (silent.adds said).weaken (fun _ _ _ => trivial) ?_
  rintro _ _ ⟨new, rfl, kinds⟩
  exact untouched.append kinds

/-- A preparation, and what follows it when it returns. -/
theorem Untouched.preparing {β : Type} {workspace : String} {tfvars : InstanceTfvars Numeric} {purge : Bool}
    {next : String → Method Numeric β} {post : List (RunnerExchange Numeric) → Except Thrown β → Prop} (untouched : Untouched said)
    (prepared : ∀ uuid later, Held (directoryFor deployment workspace uuid) later →
      (next (directoryFor deployment workspace uuid)).Satisfies (fun _ _ => True) post later)
    (failed : ∀ later thrown, Untouched later → post later (.error thrown)) :
    (prepare deployment workspace tfvars purge >>= next).Satisfies (fun _ _ => True) post said := by
  refine Program.satisfies_bind (prepare_satisfies _ _ _) ?_ ?_
  · rintro _ _ ⟨made, rfl, ends⟩
    cases ends with
    | returned uuid => exact prepared uuid _ (untouched.held uuid _ _)
  · rintro _ thrown ⟨made, rfl, ends⟩
    exact failed _ thrown (untouched.prepared ends)

/-- The same where the failure of the preparation is handled. -/
theorem Untouched.attempting {β : Type} {workspace : String} {tfvars : InstanceTfvars Numeric} {purge : Bool}
    {next : Except Thrown String → Method Numeric β} {post : List (RunnerExchange Numeric) → Except Thrown β → Prop}
    (untouched : Untouched said)
    (prepared : ∀ uuid later, Held (directoryFor deployment workspace uuid) later →
      (next (.ok (directoryFor deployment workspace uuid))).Satisfies (fun _ _ => True) post later)
    (failed : ∀ later thrown, Untouched later → (next (.error thrown)).Satisfies (fun _ _ => True) post later) :
    ((prepare deployment workspace tfvars purge).attempt >>= next).Satisfies (fun _ _ => True) post said := by
  have ended : (prepare deployment workspace tfvars purge).attempt.Satisfies (fun _ _ => True)
      (fun later ended => ∃ result, ended = .ok result ∧
        ((∃ uuid, result = .ok (directoryFor deployment workspace uuid) ∧ Held (directoryFor deployment workspace uuid) later) ∨
          ∃ thrown, result = .error thrown ∧ Untouched later)) said := by
    refine Program.satisfies_attempt ((prepare_satisfies _ _ _).weaken (fun _ _ _ => trivial) ?_)
    rintro _ result ⟨made, rfl, ends⟩
    cases result with
    | error thrown => exact ⟨_, rfl, .inr ⟨thrown, rfl, untouched.prepared ends⟩⟩
    | ok directory =>
      cases ends with
      | returned uuid => exact ⟨_, rfl, .inl ⟨uuid, rfl, untouched.held uuid _ _⟩⟩
  refine Program.satisfies_bind ended ?_ ?_
  · rintro later result ⟨_, same, cases_⟩
    obtain rfl := Except.ok.inj same
    rcases cases_ with ⟨uuid, rfl, held⟩ | ⟨thrown, rfl, still⟩
    · exact prepared uuid later held
    · exact failed later thrown still
  · rintro later thrown ⟨_, impossible, -⟩
    cases impossible

theorem observeInstance_disposable (request : InstanceMutationRequest) (observedAt : Nat) :
    (observeInstance deployment request observedAt).Satisfies (fun _ _ => True)
      (fun said _ => leftBehind said = [] ↔ Disposable deployment said) [] := by
  refine satisfies_checked_bind.mpr ⟨fun instanceId _ => ?_, fun _ _ => untouched_nil.disposable⟩
  refine untouched_nil.preparing (fun uuid later held => ?_) fun later _ untouched => untouched.disposable
  exact ensuring_disposable (held.asks (asks_observeState (fun _ _ => rfl) _ _ _))

theorem applyInstanceConfiguration_disposable (request : ApplyInstanceConfigurationRequest) :
    (applyInstanceConfiguration deployment request).Satisfies (fun _ _ => True)
      (fun said _ => leftBehind said = [] ↔ Disposable deployment said) [] := by
  refine satisfies_checked_bind.mpr ⟨fun instanceId _ => ?_, fun _ _ => untouched_nil.disposable⟩
  refine untouched_nil.preparing (fun uuid later held => ?_) fun later _ untouched => untouched.disposable
  refine ensuring_disposable ?_
  refine Program.satisfies_bind (held.asks (asks_init (fun _ _ => rfl) _)) (fun later initialized held => ?_) fun _ _ held => held
  split
  · exact held
  · refine Program.satisfies_bind (held.asks (asks_declaredState fun _ _ => rfl)) (fun later declared held => ?_) fun _ _ held => held
    cases declared with
    | none => exact held
    | some declared =>
      dsimp only
      unfold writeVariables
      simp only [bind_assoc]
      have written (answer : Except Thrown Unit) : Held (directoryFor deployment (workspaceNameFor instanceId) uuid)
          (later ++ [⟨.writeVariables (directoryFor deployment (workspaceNameFor instanceId) uuid) declared, answer⟩]) := held.append (by simp [neutral])
      refine satisfies_perform_bind.mpr ⟨trivial, fun _ => ?_, fun _ => written _⟩
      refine satisfies_perform_bind.mpr ⟨trivial, fun _ => ?_, fun _ => (written _).rewritten _⟩
      refine ((written (.ok _)).rewritten _).asks ((asks_plan (fun _ _ => rfl) _).bind fun pair => ?_)
      obtain ⟨gate, invocation⟩ := pair
      dsimp only
      split <;> exact asks_done _

theorem validateProfile_disposable (summarize : Field → String) (profileId : Option String) :
    (validateProfile deployment summarize profileId).Satisfies (fun _ _ => True)
      (fun said _ => leftBehind said = [] ↔ Disposable deployment said) [] := by
  refine satisfies_checked_bind.mpr ⟨fun _ _ => ?_, fun _ _ => untouched_nil.disposable⟩
  have named (answer : Except Thrown String) : Untouched ([] ++ [⟨.randomUUID, answer⟩] : List (RunnerExchange Numeric)) :=
    untouched_nil.append (by simp [neutral])
  refine satisfies_perform_bind.mpr ⟨trivial, fun uuid => ?_, fun _ => (named _).disposable⟩
  refine (named (.ok uuid)).attempting (fun uuid later held => ?_) fun later thrown untouched => untouched.disposable
  exact ensuring_disposable (held.asks (asks_checkModule (fun _ _ => rfl) _))

/-- The refresh that follows a direct operation. -/
theorem refreshAfterDirectMutation_disposable (untouched : Untouched said) (instanceId : String)
    (driftState : TerraformInventory.DriftState) :
    (refreshAfterDirectMutation deployment instanceId driftState).Satisfies (fun _ _ => True)
      (fun said _ => leftBehind said = [] ↔ Disposable deployment said) said := by
  refine untouched.attempting (fun uuid later held => ?_) fun later thrown still => ?_
  · exact ensuring_disposable (held.asks ((asks_refreshAndRecord (fun _ _ => rfl) (fun _ => rfl) _ _).catching fun _ =>
      asks_recordUnknown (fun _ => rfl) _))
  · exact (still.asks (asks_recordUnknown (fun _ => rfl) _)).weaken (fun _ _ _ => trivial) fun _ _ still => still.disposable

/-! ### A directory that is never removed -/

/-- Whether a question leaves a directory alone. -/
def spares (directory : String) : Call Numeric → Bool
  | .rm path => path ≠ directory
  | _ => true

/-- What is left stays, as long as it is spared. -/
theorem mem_leftBehind_append (left : directory ∈ leftBehind said) (sparing : ∀ exchange ∈ new, spares directory exchange.1 = true) :
    directory ∈ leftBehind (said ++ new) := by
  rw [leftBehind_append]
  generalize leftBehind said = kept at left
  induction new generalizing kept with
  | nil => exact left
  | cons exchange rest ih =>
    obtain ⟨first, rest_⟩ := List.forall_mem_cons.mp sparing
    refine ih rest_ _ ?_
    obtain ⟨call, answer⟩ := exchange
    cases call with
    | chmod place =>
      cases answer with
      | error => exact left
      | ok => by_cases same : directory = place <;> simp [keep, same, left]
    | rm place =>
      cases answer with
      | error => exact left
      | ok =>
        have other : place ≠ directory := by simpa [spares] using first
        simp [keep, left, Ne.symm other]
    | _ => exact left

/-- What is left behind was returned. -/
theorem leftBehind_subset (said : List (RunnerExchange Numeric)) : leftBehind said ⊆ returned said := by
  induction said using List.reverseRecOn with
  | nil => exact List.Subset.refl _
  | append_singleton said exchange ih =>
    rw [leftBehind_append, returned_append]
    intro directory member
    obtain ⟨call, answer⟩ := exchange
    have old : directory ∈ leftBehind said → directory ∈ returned said ++ returned [⟨call, answer⟩] :=
      fun member => List.mem_append_left _ (ih member)
    cases call with
    | chmod place =>
      cases answer with
      | error => exact old member
      | ok =>
        rcases List.mem_cons.mp member with rfl | kept
        · exact List.mem_append_right _ (by simp [returned, returnedOf])
        · exact old (List.mem_of_mem_filter kept)
    | rm place =>
      cases answer with
      | error => exact old member
      | ok => exact old (List.mem_of_mem_filter member)
    | _ => exact old member

/-- What was returned and never removed is left behind. -/
theorem mem_leftBehind_of_returned (made : directory ∈ returned said)
    (sparing : ∀ exchange ∈ said, spares directory exchange.1 = true) : directory ∈ leftBehind said := by
  induction said using List.reverseRecOn with
  | nil => cases made
  | append_singleton said exchange ih =>
    have last : ∀ exchange_ ∈ [exchange], spares directory exchange_.1 = true :=
      fun other member => sparing other (List.mem_append_right _ member)
    rw [returned_append] at made
    rcases List.mem_append.mp made with old | fresh
    · exact mem_leftBehind_append (ih old fun other member => sparing other (List.mem_append_left _ member)) last
    · obtain ⟨call, answer⟩ := exchange
      obtain ⟨other, member, same⟩ := List.mem_filterMap.mp fresh
      obtain rfl := List.mem_singleton.mp member
      rw [leftBehind_append]
      cases call with
      | chmod place =>
        cases answer with
        | error => cases same
        | ok =>
          obtain rfl := Option.some.inj same
          exact List.mem_cons_self
      | _ => cases same

/-! ### The applies -/

/-- Whether a question makes no directory, and removes the name of a workspace at most. -/
def removesOnly (workspace : String) : Call Numeric → Bool
  | .rm path => path = workspace
  | .chmod _ => false
  | _ => true

section
variable (deployment)

/-- What an apply does with directories: it makes its own under a random name, and removes
    the name of its workspace at most. -/
structure Applying (workspace : String) (new : List (RunnerExchange Numeric)) : Prop where
  removed : ∀ path answer, (⟨.rm path, answer⟩ : RunnerExchange Numeric) ∈ new → path = workspace
  made : ∀ directory ∈ returned new, ∃ uuid, (⟨.randomUUID, .ok uuid⟩ : RunnerExchange Numeric) ∈ new ∧
    directory = directoryFor deployment workspace uuid

/-- The directories under the drawn names are not named like a workspace. -/
def Distinct (said : List (RunnerExchange Numeric)) : Prop :=
  ∀ uuid, (⟨.randomUUID, .ok uuid⟩ : RunnerExchange Numeric) ∈ said → ∀ workspace, directoryFor deployment workspace uuid ≠ workspace

end

section
variable {workspace : String}

theorem Distinct.earlier (distinct : Distinct deployment (said ++ new)) : Distinct deployment said :=
  fun uuid member => distinct uuid (List.mem_append_left _ member)

theorem Applying.nil : Applying deployment workspace ([] : List (RunnerExchange Numeric)) := ⟨nofun, nofun⟩

theorem Applying.append {later : List (RunnerExchange Numeric)} (first : Applying deployment workspace new)
    (second : Applying deployment workspace later) : Applying deployment workspace (new ++ later) where
  removed path answer member := (List.mem_append.mp member).elim (first.removed path answer) (second.removed path answer)
  made directory member := by
    rw [returned_append] at member
    rcases List.mem_append.mp member with old | fresh
    · obtain ⟨uuid, drawn, same⟩ := first.made directory old
      exact ⟨uuid, List.mem_append_left _ drawn, same⟩
    · obtain ⟨uuid, drawn, same⟩ := second.made directory fresh
      exact ⟨uuid, List.mem_append_right _ drawn, same⟩

theorem Applying.of_kind (kinds : ∀ exchange ∈ new, removesOnly workspace exchange.1 = true) :
    Applying deployment workspace new where
  removed path answer member := by simpa [removesOnly] using kinds _ member
  made directory member := by
    obtain ⟨⟨call, answer⟩, asked, same⟩ := List.mem_filterMap.mp member
    cases call with
    | chmod place => cases kinds _ asked
    | _ => cases same

theorem Applying.of_prepared {tfvars : InstanceTfvars Numeric} {purge : Bool} {ended : Except Thrown String}
    (prepared : Prepared deployment workspace tfvars purge new ended) : Applying deployment workspace new := by
  cases prepared with
  | returned uuid =>
    refine ⟨fun path answer member => by simp [preparation] at member, fun directory member => ⟨uuid, by simp [preparation], ?_⟩⟩
    exact (by simpa [preparation, returned, returnedOf] using member : directoryFor deployment workspace uuid = directory).symm
  | raised asked uuid place call thrown same =>
    have untouched := untouched_nil.prepared (@Prepared.raised Numeric deployment workspace tfvars purge asked uuid place call thrown same)
    rw [List.nil_append] at untouched
    exact ⟨fun path answer member => absurd member (untouched.unremoved path answer), fun directory member => by
      rw [untouched.made] at member
      cases member⟩

/-- The work that a method leaves. -/
def workOf {α : Type} : Except Thrown (α × Option (Background Numeric)) → Option (Background Numeric)
  | .ok (_, work) => work
  | .error _ => none

/-- Work of one apply. -/
def Started (input : ApplyInput Numeric) (work : Option (Background Numeric)) : Prop :=
  ∀ some_, work = some some_ → ∃ runId place, some_ = .apply runId place input

theorem started_none (input : ApplyInput Numeric) : Started input none := nofun

theorem asks_discard_removesOnly (workspace : String) :
    Asks (removesOnly workspace) (quietly (discard deployment workspace)) := by
  refine Asks.quietly ?_
  unfold TerraformRunner.discard
  split
  · exact asks_done _
  · exact @asks_perform Numeric _ (.rm workspace) (decide_eq_true rfl)

/-- What goes on with such questions only. -/
theorem Applying.continued {method : Method Numeric α} {post : Except Thrown α → Prop} (first : Applying deployment workspace new)
    (rest : method.Satisfies (fun _ call => removesOnly workspace call = true) (fun _ ended => post ended) (said ++ new)) :
    method.Satisfies (fun _ _ => True)
      (fun more ended => (∃ new, more = said ++ new ∧ Applying deployment workspace new) ∧ post ended) (said ++ new) := by
  refine rest.adds.weaken (fun _ _ _ => trivial) ?_
  rintro _ ended ⟨meets, later, rfl, kinds⟩
  exact ⟨⟨new ++ later, List.append_assoc .., first.append (.of_kind kinds)⟩, meets⟩

/-- An apply, up to the answer of its caller. -/
theorem startApply_satisfies (input : ApplyInput Numeric) : (startApply deployment input).Satisfies (fun _ _ => True)
    (fun more ended => (∃ new, more = said ++ new ∧ Applying deployment input.workspace new) ∧ Started input (workOf ended)) said := by
  have drawn (answer : Except Thrown String) :
      Applying deployment input.workspace [(⟨.randomUUID, answer⟩ : RunnerExchange Numeric)] :=
    .of_kind fun exchange member => by rw [List.mem_singleton.mp member]; rfl
  refine satisfies_perform_bind.mpr ⟨trivial, fun runId => ?_, fun thrown => ⟨⟨_, rfl, drawn _⟩, started_none _⟩⟩
  refine Program.satisfies_bind (prepare_satisfies _ _ _) ?_ ?_
  · rintro _ place ⟨made, rfl, prepared⟩
    rw [List.append_assoc]
    refine ((drawn (.ok runId)).append (.of_prepared prepared)).continued ?_
    refine Program.satisfies_bind (asks_init (fun _ _ => rfl) _ _) (fun _ initialized _ => ?_) fun _ _ _ => started_none _
    split
    · exact Program.satisfies_bind (asks_discard_removesOnly _ _) (fun _ _ _ => started_none _) fun _ _ _ => started_none _
    · refine Program.satisfies_bind (asks_plan (fun _ _ => rfl) _ _) (fun _ pair _ => ?_) fun _ _ _ => started_none _
      obtain ⟨gate, invocation⟩ := pair
      refine satisfies_perform_bind.mpr ⟨rfl, fun _ => ?_, fun _ => started_none _⟩
      split
      · refine satisfies_perform_bind.mpr ⟨rfl, fun _ => ?_, fun _ => started_none _⟩
        exact Program.satisfies_bind (asks_discard_removesOnly _ _) (fun _ _ _ => started_none _) fun _ _ _ => started_none _
      · intro work same
        obtain rfl := Option.some.inj same
        exact ⟨runId, place, rfl⟩
  · rintro _ thrown ⟨made, rfl, prepared⟩
    exact ⟨⟨_, List.append_assoc .., (drawn _).append (.of_prepared prepared)⟩, started_none _⟩

theorem asks_background_removesOnly (runId place : String) (input : ApplyInput Numeric) :
    Asks (removesOnly input.workspace) (completeInBackground deployment runId place input) := by
  refine Asks.ensuring (Asks.catching ?_ fun thrown => ?_) (asks_discard_removesOnly _)
  · refine (asks_plan (fun _ _ => rfl) _).bind fun pair => (asks_apply (fun _ _ => rfl) _).bind fun result => ?_
    exact (@asks_perform Numeric _ (.completeRun _) rfl).bind fun _ => asks_recordApplied (fun _ _ => rfl) (fun _ => rfl) _ _ _
  · exact (@asks_perform Numeric _ (.completeRun _) rfl).quietly

end

/-! ### The methods -/

section
variable (deployment)

/-- A conversation after which an apply decides nothing more about what is removed. -/
def Bound (call : AdapterCall) (workspace : String) (said : List (RunnerExchange Numeric)) : Prop :=
  ∀ new, Applying deployment workspace new → Distinct deployment (said ++ new) →
    (leftBehind (said ++ new) = [] ↔ Removable deployment (said ++ new) call)

/-- How a method ends, with the work that it leaves. -/
inductive Ends (call : AdapterCall) (said : List (RunnerExchange Numeric)) : Option (Background Numeric) → Prop
  | settled (exact_ : Distinct deployment said → (leftBehind said = [] ↔ Removable deployment said call)) : Ends call said none
  | refreshing (untouched : Untouched said) (plain : ∀ more, Removable deployment more call ↔ Disposable deployment more)
      (instanceId : String) (driftState : TerraformInventory.DriftState) : Ends call said (some (.refresh instanceId driftState))
  | applying (runId place : String) (input : ApplyInput Numeric) (bound : Bound deployment call input.workspace said) :
      Ends call said (some (.apply runId place input))

end

variable {call : AdapterCall} {workspace : String}

theorem Bound.append (bound : Bound deployment call workspace said) (applying : Applying deployment workspace new) :
    Bound deployment call workspace (said ++ new) := by
  intro later more distinct
  rw [List.append_assoc] at distinct ⊢
  exact bound _ (applying.append more) distinct

theorem Bound.settled (bound : Bound deployment call workspace said) (distinct : Distinct deployment said) :
    leftBehind said = [] ↔ Removable deployment said call := by
  have whole := bound [] .nil (by rwa [List.append_nil])
  rwa [List.append_nil] at whole

theorem Bound.startApply {input : ApplyInput Numeric} (bound : Bound deployment call input.workspace said) :
    (startApply deployment input).Satisfies (fun _ _ => True) (fun more ended => Ends deployment call more (workOf ended)) said := by
  refine (startApply_satisfies input).weaken (fun _ _ _ => trivial) ?_
  rintro _ ended ⟨⟨new, rfl, applying⟩, started⟩
  have after := bound.append applying
  cases left : workOf ended with
  | none => exact .settled after.settled
  | some work =>
    obtain ⟨runId, place, rfl⟩ := started work left
    exact .applying runId place input after

/-- A creation leaves every directory that it made. -/
theorem bound_creation (now : Nat) (request : SubmitCreateInstanceRequest) (workspace : String) :
    Bound deployment (.port now (.submitCreateInstance request)) workspace ([] : List (RunnerExchange Numeric)) := by
  intro new applying distinct
  rw [List.nil_append] at distinct ⊢
  refine ⟨fun nothing => List.eq_nil_iff_forall_not_mem.mpr fun directory made => ?_, fun nothing => ?_⟩
  · have left : directory ∈ leftBehind new := by
      refine mem_leftBehind_of_returned made fun exchange member => ?_
      obtain ⟨uuid, drawn, rfl⟩ := applying.made directory made
      obtain ⟨question, answer⟩ := exchange
      cases question with
      | rm path =>
        have other : path ≠ directoryFor deployment workspace uuid := by
          rw [applying.removed path answer member]
          exact (distinct uuid drawn workspace).symm
        simpa [spares] using other
      | _ => rfl
    rw [nothing] at left
    cases left
  · exact List.subset_nil.mp (nothing ▸ leftBehind_subset new)

/-! ### Changes -/

/-- The only question before the read of a change. -/
def isConfig : Call Numeric → Bool
  | .config _ => true
  | _ => false

section
variable {uuid : String} {tfvars : InstanceTfvars Numeric} {purge : Bool} {begun shown : List (RunnerExchange Numeric)}
  {change : ProviderCall} {now : Nat}

theorem no_configs : ∀ exchange ∈ ([] : List (RunnerExchange Numeric)), isConfig exchange.1 = true :=
  fun _ member => (nomatch member)

theorem untouched_configs (configs : ∀ exchange ∈ said, isConfig exchange.1 = true) : Untouched said := by
  have silent : ∀ exchange ∈ said, neutral exchange.1 = true := by
    rintro ⟨question, answer⟩ member
    cases question <;> first | rfl | cases configs _ member
  exact untouched_nil.append silent

theorem initialized_neutral {ended : Except Thrown InvocationResult} (initialized : Initialized directory workspace begun ended) :
    ∀ exchange ∈ begun, neutral exchange.1 = true := by
  cases initialized <;> simp [neutral]

theorem declared_neutral {ended : Except Thrown (Option (InstanceTfvars Numeric))}
    (declares : Declared deployment directory shown ended) : ∀ exchange ∈ shown, neutral exchange.1 = true := by
  cases declares <;> simp [neutral]

/-- The first initialization and the first state shown after a preparation. -/
theorem firsts (configs : ∀ exchange ∈ said, isConfig exchange.1 = true) (uuid directory : String) (tfvars : InstanceTfvars Numeric)
    (purge : Bool) (rest : List (RunnerExchange Numeric)) :
    (said ++ (preparation uuid directory tfvars purge ++ rest)).findSome? initOf = rest.findSome? initOf ∧
      (said ++ (preparation uuid directory tfvars purge ++ rest)).findSome? shownOf = rest.findSome? shownOf := by
  have ignored {α : Type} (f : RunnerExchange Numeric → Option α) (nothing : ∀ vmid answer, f ⟨.config vmid, answer⟩ = none) :
      said.findSome? f = none := by
    refine List.findSome?_eq_none_iff.mpr ?_
    rintro ⟨question, answer⟩ member
    cases question <;> first | exact nothing _ _ | cases configs _ member
  simp only [List.findSome?_append, ignored initOf fun _ _ => rfl, ignored shownOf fun _ _ => rfl]
  exact ⟨rfl, rfl⟩

theorem initialized_first {ended : Except Thrown InvocationResult} (initialized : Initialized directory workspace begun ended) :
    begun.findSome? shownOf = none ∧
      ∀ result, begun.findSome? initOf = some (.ok result) → ended = .ok result ∨ result.exitCode = 0 := by
  cases initialized with
  | threw => exact ⟨rfl, nofun⟩
  | failed result => exact ⟨rfl, fun _ same => .inl (Option.some.inj same)⟩
  | unselected result exited =>
    refine ⟨rfl, fun _ same => .inr ?_⟩
    cases same
    exact exited
  | selected result exited => exact ⟨rfl, fun _ same => .inl (Option.some.inj same)⟩

theorem initialized_first_ok {result : InvocationResult} (initialized : Initialized directory workspace begun (.ok result)) :
    begun.findSome? initOf = some (.ok result) := by
  generalize same : (Except.ok result : Except Thrown InvocationResult) = ended at initialized
  cases initialized <;> cases same <;> rfl

/-- A held directory whose change was not settled from the state. -/
theorem Held.stuck (held : Held directory said) (late : ¬ Early deployment change said)
    (same : Removable deployment said (.port now change) ↔ returned said = [] ∨ Early deployment change said ∧ Disposable deployment said) :
    leftBehind said = [] ↔ Removable deployment said (.port now change) := by
  rw [same, held.kept]
  refine iff_of_false (List.cons_ne_nil _ _) ?_
  rintro (nothing | ⟨early, -⟩)
  · exact List.ne_nil_of_mem held.some_ nothing
  · exact late early

/-- A held directory whose change was settled, after its disposal. -/
theorem Held.settled (held : Held directory said) {removal : List (RunnerExchange Numeric)}
    (disposed : Disposed deployment directory removal) (early : Early deployment change (said ++ removal))
    (same : Removable deployment (said ++ removal) (.port now change) ↔
      returned (said ++ removal) = [] ∨ Early deployment change (said ++ removal) ∧ Disposable deployment (said ++ removal)) :
    leftBehind (said ++ removal) = [] ↔ Removable deployment (said ++ removal) (.port now change) := by
  rw [same, held.disposed disposed]
  refine ⟨fun disposable => .inr ⟨early, disposable⟩, ?_⟩
  rintro (nothing | ⟨-, disposable⟩)
  · have made : directory ∈ returned (said ++ removal) := by
      rw [returned_append]
      exact List.mem_append_left _ held.some_
    rw [nothing] at made
    cases made
  · exact disposable

/-- A change that goes on to its apply leaves the directory that it read the state in. -/
theorem bound_change (held : Held (directoryFor deployment workspace uuid) said)
    (drawn : (⟨.randomUUID, .ok uuid⟩ : RunnerExchange Numeric) ∈ said)
    (late : ∀ new, ¬ Early deployment change (said ++ new))
    (same : ∀ more, Removable deployment more (.port now change) ↔
      returned more = [] ∨ Early deployment change more ∧ Disposable deployment more) :
    Bound deployment (.port now change) workspace said := by
  intro new applying distinct
  have other := distinct uuid (List.mem_append_left _ drawn) workspace
  have left : directoryFor deployment workspace uuid ∈ leftBehind (said ++ new) := by
    refine mem_leftBehind_append (by rw [held.kept]; exact List.mem_cons_self) ?_
    rintro ⟨question, answer⟩ member
    cases question with
    | rm path =>
      obtain rfl := applying.removed path answer member
      simpa [spares] using other.symm
    | _ => rfl
  refine iff_of_false (List.ne_nil_of_mem left) fun removable => ?_
  rcases (same _).mp removable with nothing | ⟨early, -⟩
  · exact List.ne_nil_of_mem (leftBehind_subset _ left) nothing
  · exact late new early

/-- The directory that a change reads its state in. -/
theorem Untouched.initialized (untouched : Untouched said) (uuid : String) (tfvars : InstanceTfvars Numeric) (purge : Bool)
    {initial : Except Thrown InvocationResult} (initialized : Initialized directory workspace begun initial) :
    Held directory (said ++ (preparation uuid directory tfvars purge ++ begun)) := by
  rw [← List.append_assoc]
  exact (untouched.held uuid tfvars purge).append (initialized_neutral initialized)

theorem Untouched.read (untouched : Untouched said) (uuid : String) (tfvars : InstanceTfvars Numeric) (purge : Bool)
    {initial : Except Thrown InvocationResult} {ended : Except Thrown (Option (InstanceTfvars Numeric))}
    (initialized : Initialized directory workspace begun initial) (declares : Declared deployment directory shown ended) :
    Held directory (said ++ (preparation uuid directory tfvars purge ++ begun ++ shown)) := by
  rw [← List.append_assoc]
  exact (untouched.initialized uuid tfvars purge initialized).append (declared_neutral declares)

theorem declared_first {ended : Except Thrown (Option (InstanceTfvars Numeric))} (declares : Declared deployment directory shown ended)
    (rest : List (RunnerExchange Numeric)) (result : InvocationResult) (first : (shown ++ rest).findSome? shownOf = some (.ok result)) :
    ending (tfvarsFromState deployment.host deployment.configuration (documentOf deployment result)) = ended := by
  cases declares with
  | threw => cases Option.some.inj first
  | shown =>
    obtain rfl := Except.ok.inj (Option.some.inj first)
    rfl

/-- A state that settles the change. -/
theorem early_read (configs : ∀ exchange ∈ said, isConfig exchange.1 = true) (uuid : String) (tfvars : InstanceTfvars Numeric)
    (purge : Bool) {initial : InvocationResult} {declared : Option (InstanceTfvars Numeric)}
    (initialized : Initialized directory workspace begun (.ok initial)) (declares : Declared deployment directory shown (.ok declared))
    (settled : settles deployment change (.ok declared) = true) (removal : List (RunnerExchange Numeric)) :
    Early deployment change (said ++ (preparation uuid directory tfvars purge ++ (begun ++ (shown ++ removal)))) := by
  obtain ⟨firstInit, firstShown⟩ := firsts configs uuid directory tfvars purge (begun ++ (shown ++ removal))
  refine ⟨initial, ?_, .inr ?_⟩
  · rw [firstInit, List.findSome?_append, initialized_first_ok initialized]
    rfl
  · rw [firstShown, List.findSome?_append, (initialized_first initialized).1]
    generalize same : (Except.ok declared : Except Thrown _) = ended at declares
    cases declares with
    | threw => cases same
    | shown result => exact ⟨result, rfl, ending_ok.mp same.symm ▸ settled⟩

/-- What the first state that was shown says, when a change was settled. -/
theorem late_read (configs : ∀ exchange ∈ said, isConfig exchange.1 = true) (uuid : String) (tfvars : InstanceTfvars Numeric)
    (purge : Bool) {initial : InvocationResult} (exited : initial.exitCode = 0) {ended : Except Thrown (Option (InstanceTfvars Numeric))}
    (initialized : Initialized directory workspace begun (.ok initial)) (declares : Declared deployment directory shown ended)
    (rest : List (RunnerExchange Numeric))
    (early : Early deployment change (said ++ (preparation uuid directory tfvars purge ++ (begun ++ (shown ++ rest))))) :
    ∃ evaluated_, ending evaluated_ = ended ∧ settles deployment change evaluated_ = true := by
  obtain ⟨firstInit, firstShown⟩ := firsts configs uuid directory tfvars purge (begun ++ (shown ++ rest))
  obtain ⟨result, first, reached⟩ := early
  rw [firstInit, List.findSome?_append, initialized_first_ok initialized] at first
  obtain rfl := Except.ok.inj (Option.some.inj first)
  rcases reached with failed | ⟨document, shown_, settled⟩
  · exact absurd exited failed
  · rw [firstShown, List.findSome?_append, (initialized_first initialized).1] at shown_
    exact ⟨_, declared_first declares rest document shown_, settled⟩

/-- A change: it reads the state, and is settled by it or goes on to an apply. -/
theorem changing {name : String} {next : Except ProviderMutationResult (String × InstanceTfvars Numeric) →
      Method Numeric (ProviderMutationResult × Option (Background Numeric))}
    (configs : ∀ exchange ∈ said, isConfig exchange.1 = true)
    (same : ∀ more, Removable deployment more (.port now change) ↔
      returned more = [] ∨ Early deployment change more ∧ Disposable deployment more)
    (refuses : ∀ refused, next (.error refused) = .done (refused, none))
    (goes : ∀ directory declared,
      (settles deployment change (.ok (some declared)) = true ∧
        ∃ answer, next (.ok (directory, declared)) = (quietly (discard deployment directory) >>= fun _ => .done (answer, none))) ∨
      (settles deployment change (.ok (some declared)) = false ∧
        ∃ input : ApplyInput Numeric, next (.ok (directory, declared)) = startApply deployment input ∧ input.workspace = workspace)) :
    (readDeclared deployment workspace purge name >>= next).Satisfies (fun _ _ => True)
      (fun more ended => Ends deployment (.port now change) more (workOf ended)) said := by
  have untouched := untouched_configs configs
  refine Program.satisfies_bind (readDeclared_satisfies _ _ _) ?_ ?_
  · rintro _ result ⟨new, rfl, read⟩
    generalize ended_ : (Except.ok result : Except Thrown _) = ended at read
    cases read with
    | unprepared | uninitialized | unreachable | unread => cases ended_
    | absent uuid begun initial exited initialized shown declares removal disposed =>
      obtain rfl := Except.ok.inj ended_
      rw [refuses]
      refine .settled fun _ => ?_
      rw [← List.append_assoc]
      refine (untouched.read uuid _ _ initialized declares).settled disposed ?_ (same _)
      simpa only [List.append_assoc] using early_read configs uuid _ _ initialized declares rfl removal
    | declared uuid begun initial exited initialized shown declared declares =>
      obtain rfl := Except.ok.inj ended_
      have held := untouched.read uuid (probeTfvars deployment.host deployment.configuration) purge initialized declares
      rcases goes (directoryFor deployment workspace uuid) declared with ⟨settles_, answer, is_⟩ | ⟨open_, input, is_, rfl⟩
      · rw [is_]
        refine Program.satisfies_bind (discard_satisfies _) ?_ ?_
        · rintro _ _ ⟨-, removal, rfl, disposed⟩
          refine .settled fun _ => held.settled disposed ?_ (same _)
          simpa only [List.append_assoc] using early_read configs uuid _ _ initialized declares settles_ removal
        · rintro _ _ ⟨impossible, -⟩
          cases impossible
      · rw [is_]
        refine (bound_change held (by simp [preparation]) (fun new early => ?_) same).startApply
        rw [List.append_assoc, List.append_assoc, List.append_assoc] at early
        obtain ⟨evaluated_, same, settles_⟩ := late_read configs uuid _ _ exited initialized declares new early
        rw [ending_ok.mp same, open_] at settles_
        cases settles_
  · rintro _ thrown ⟨new, rfl, read⟩
    generalize ended_ : (Except.error thrown : Except Thrown _) = ended at read
    refine .settled fun _ => ?_
    cases read with
    | absent | declared => cases ended_
    | unprepared _ _ prepared =>
      have still := untouched.prepared prepared
      exact iff_of_true still.kept ((same _).mpr (.inl still.made))
    | uninitialized uuid begun _ initialized =>
      refine (untouched.initialized uuid _ purge initialized).stuck ?_ (same _)
      rintro ⟨result, first, reached⟩
      obtain ⟨firstInit, firstShown⟩ := firsts configs uuid (directoryFor deployment workspace uuid)
        (probeTfvars deployment.host deployment.configuration) purge begun
      obtain ⟨unshown, exits⟩ := initialized_first initialized
      rcases exits result (firstInit ▸ first) with impossible | zero
      · cases impossible
      · rcases reached with failed | ⟨document, shown, -⟩
        · exact failed zero
        · rw [firstShown, unshown] at shown
          cases shown
    | unreachable uuid initial exited removal disposed =>
      have held := untouched.initialized uuid (probeTfvars deployment.host deployment.configuration) purge
        (@Initialized.failed Numeric (directoryFor deployment workspace uuid) workspace initial exited)
      obtain ⟨firstInit, -⟩ := firsts configs uuid (directoryFor deployment workspace uuid)
        (probeTfvars deployment.host deployment.configuration) purge
        (⟨.invoke .init (directoryFor deployment workspace uuid), .ok initial⟩ :: removal)
      have parted (made : List (RunnerExchange Numeric)) : said ++ (made ++
          ⟨.invoke .init (directoryFor deployment workspace uuid), .ok initial⟩ :: removal) =
          said ++ (made ++ [⟨.invoke .init (directoryFor deployment workspace uuid), .ok initial⟩]) ++ removal := by simp
      rw [parted] at firstInit ⊢
      exact held.settled disposed ⟨initial, firstInit, .inl exited⟩ (same _)
    | unread uuid begun initial exited initialized shown _ declares =>
      refine (untouched.read uuid _ _ initialized declares).stuck (fun early => ?_) (same _)
      rw [← List.append_nil shown, List.append_assoc] at early
      obtain ⟨evaluated_, same, settles_⟩ := late_read configs uuid _ purge exited initialized declares [] early
      cases evaluated_ with
      | ok => cases same
      | error => cases settles_

end

/-! ### Every method -/

section
variable {now : Nat}

theorem mutation_ends {method : Method Numeric (ProviderMutationResult × Option (Background Numeric))}
    (ends : method.Satisfies (fun _ _ => True) (fun more ended => Ends deployment call more (workOf ended)) said) :
    (mutation method).Satisfies (fun _ _ => True) (fun more ended => Ends deployment call more (workOf ended)) said :=
  Program.satisfies_bind ends (fun _ _ left => left) fun _ _ left => left

/-- A method without work in the background. -/
theorem inForeground_ends {method : Method Numeric α}
    (settled : method.Satisfies (fun _ _ => True) (fun more _ => leftBehind more = [] ↔ Removable deployment more call) said) :
    (inForeground method).Satisfies (fun _ _ => True) (fun more ended => Ends deployment call more (workOf ended)) said :=
  Program.satisfies_bind settled (fun _ _ exact_ => .settled fun _ => exact_) fun _ _ exact_ => .settled fun _ => exact_

theorem map_settled {method : Method Numeric α} {β : Type} (f : α → β) {post : List (RunnerExchange Numeric) → Prop}
    (settled : method.Satisfies (fun _ _ => True) (fun more _ => post more) said) :
    (f <$> method).Satisfies (fun _ _ => True) (fun more _ => post more) said := by
  rw [map_eq_pure_bind]
  exact Program.satisfies_bind settled (fun _ _ meets => meets) fun _ _ meets => meets

/-- A direct operation. -/
theorem directMutation_ends {act : Int → Method Numeric String} (plain : ∀ more, Removable deployment more call ↔ Disposable deployment more)
    (silent : ∀ vmid, Asks neutral (act vmid)) (request : InstanceMutationRequest) (driftState : TerraformInventory.DriftState) :
    (directMutation deployment request act driftState).Satisfies (fun _ _ => True)
      (fun more ended => Ends deployment call more (workOf ended)) [] := by
  have settled {more : List (RunnerExchange Numeric)} (untouched : Untouched more) : Ends deployment call more none :=
    .settled fun _ => untouched.disposable.trans (plain _).symm
  refine satisfies_checked_bind.mpr ⟨fun instanceId _ => ?_, fun _ _ => settled untouched_nil⟩
  refine satisfies_checked_bind.mpr ⟨fun vmid _ => ?_, fun _ _ => settled untouched_nil⟩
  refine Program.satisfies_bind (untouched_nil.asks (asks_assertLiveOwnership (fun _ => rfl) _ _)) (fun _ _ untouched => ?_)
    fun _ _ => settled
  refine Program.satisfies_bind (untouched.asks asks_direct) (fun _ _ untouched => ?_) fun _ _ => settled
  exact Program.satisfies_bind (untouched.asks (silent vmid)) (fun _ _ untouched => .refreshing untouched plain _ _) fun _ _ => settled

theorem snapshotMutation_ends {act : Int → Method Numeric String} (plain : ∀ more, Removable deployment more call ↔ Disposable deployment more)
    (silent : ∀ vmid, Asks neutral (act vmid)) (request : Option InstanceMutationRequest) (driftState : TerraformInventory.DriftState) :
    (snapshotMutation deployment request act driftState).Satisfies (fun _ _ => True)
      (fun more ended => Ends deployment call more (workOf ended)) [] := by
  cases request with
  | none => exact .settled fun _ => untouched_nil.disposable.trans (plain _).symm
  | some request => exact directMutation_ends plain silent request driftState

theorem setPowerState_ends {request : InstanceMutationRequest} {started : Bool}
    (same : ∀ more, Removable deployment more (.port now change) ↔
      returned more = [] ∨ Early deployment change more ∧ Disposable deployment more)
    (settled : ∀ declared, settles deployment change (.ok (some declared)) = decide (declared.started = started)) :
    (setPowerState deployment request started).Satisfies (fun _ _ => True)
      (fun more ended => Ends deployment (.port now change) more (workOf ended)) [] := by
  have nothing : leftBehind ([] : List (RunnerExchange Numeric)) = [] ↔ Removable deployment [] (.port now change) :=
    iff_of_true rfl ((same _).mpr (.inl rfl))
  refine satisfies_checked_bind.mpr ⟨fun ids _ => ?_, fun _ _ => .settled fun _ => nothing⟩
  obtain ⟨instanceId, operationId⟩ := ids
  refine changing no_configs same (fun _ => rfl) fun directory declared => ?_
  by_cases already : declared.started = started
  · exact .inl ⟨by simp [settled, already], _, if_pos already⟩
  · exact .inr ⟨by simp [settled, already], _, if_neg already, rfl⟩

theorem resizeInstance_ends (request : ResizeInstanceRequest) :
    (resizeInstance deployment request).Satisfies (fun _ _ => True)
      (fun more ended => Ends deployment (.port now (.resizeInstance request)) more (workOf ended)) [] := by
  refine satisfies_checked_bind.mpr ⟨fun ids _ => ?_, fun _ _ => .settled fun _ => iff_of_true rfl (.inl rfl)⟩
  obtain ⟨instanceId, operationId⟩ := ids
  refine changing no_configs (fun _ => Iff.rfl) (fun _ => rfl) fun directory declared => ?_
  by_cases smaller : shrinks deployment request.targetResources declared = true
  · exact .inl ⟨smaller, _, if_pos smaller⟩
  · exact .inr ⟨Bool.eq_false_iff.mpr smaller, _, if_neg smaller, rfl⟩

theorem markInstanceRetained_ends (request : MarkInstanceRetainedRequest) :
    (markInstanceRetained deployment request).Satisfies (fun _ _ => True)
      (fun more ended => Ends deployment (.port now (.markInstanceRetained request)) more (workOf ended)) [] := by
  refine satisfies_checked_bind.mpr ⟨fun ids _ => ?_, fun _ _ => .settled fun _ => iff_of_true rfl (.inl rfl)⟩
  obtain ⟨instanceId, operationId, markers⟩ := ids
  exact changing no_configs (fun _ => Iff.rfl) (fun _ => rfl) fun directory declared => .inr ⟨rfl, _, rfl, rfl⟩

theorem purgeInstance_ends (request : PurgeInstanceRequest) :
    (purgeInstance deployment request).Satisfies (fun _ _ => True)
      (fun more ended => Ends deployment (.port now (.purgeInstance request)) more (workOf ended)) [] := by
  have settled {more : List (RunnerExchange Numeric)} (configs : ∀ exchange ∈ more, isConfig exchange.1 = true) :
      Ends deployment (.port now (.purgeInstance request)) more none :=
    .settled fun _ => iff_of_true (untouched_configs configs).kept (.inl (untouched_configs configs).made)
  refine satisfies_checked_bind.mpr ⟨fun ids _ => ?_, fun _ _ => settled no_configs⟩
  obtain ⟨instanceId, operationId, markers⟩ := ids
  dsimp only
  split
  · exact settled no_configs
  · refine satisfies_checked_bind.mpr ⟨fun vmid _ => ?_, fun _ _ => settled no_configs⟩
    have asks : Asks isConfig (assertLiveOwnership deployment vmid (some markers)) := asks_assertLiveOwnership (fun _ => rfl) _ _
    refine Program.satisfies_bind (asks.adds []) ?_ ?_
    · rintro _ _ ⟨new, rfl, configs⟩
      exact changing configs (fun _ => Iff.rfl) (fun _ => rfl) fun directory declared => .inr ⟨rfl, _, rfl, rfl⟩
    · rintro _ _ ⟨new, rfl, configs⟩
      exact settled configs

theorem submitCreateInstance_ends (request : SubmitCreateInstanceRequest) :
    (submitCreateInstance deployment request).Satisfies (fun _ _ => True)
      (fun more ended => Ends deployment (.port now (.submitCreateInstance request)) more (workOf ended)) [] := by
  have nothing : leftBehind ([] : List (RunnerExchange Numeric)) = [] ↔
      Removable deployment [] (.port now (.submitCreateInstance request)) := iff_of_true rfl rfl
  refine satisfies_checked_bind.mpr ⟨fun input _ => ?_, fun _ _ => .settled fun _ => nothing⟩
  cases input with
  | error refused => exact .settled fun _ => nothing
  | ok input => exact (bound_creation now request _).startApply

theorem getTask_settled (request : GetTaskRequest) : (getTask deployment request).Satisfies (fun _ _ => True)
    (fun said _ => leftBehind said = [] ↔ Disposable deployment said) [] := by
  have silent : Asks neutral (getTask deployment request) := by
    unfold getTask
    split
    · exact asks_raise _
    · split
      · refine asks_direct.bind fun _ => (@asks_perform Numeric _ (.taskState _) rfl).bind fun state => ?_
        cases state <;> exact asks_done _
      · refine (@asks_perform Numeric _ (.readRun _) rfl).bind fun run => ?_
        cases run <;> exact asks_done _
  exact (untouched_nil.asks silent).weaken (fun _ _ _ => trivial) fun _ _ untouched => untouched.disposable

theorem listSnapshots_settled (request : InstanceMutationRequest) : (listSnapshots deployment request).Satisfies (fun _ _ => True)
    (fun said _ => leftBehind said = [] ↔ Disposable deployment said) [] := by
  have silent : Asks neutral (listSnapshots deployment request) :=
    (asks_checked _).bind fun _ => (asks_checked _).bind fun _ => (asks_assertLiveOwnership (fun _ => rfl) _ _).bind fun _ =>
      asks_direct.bind fun _ => (@asks_perform Numeric _ (.listSnapshots _) rfl).bind fun _ => asks_done _
  exact (untouched_nil.asks silent).weaken (fun _ _ _ => trivial) fun _ _ untouched => untouched.disposable

/-- How any call of the port ends. -/
theorem handle_ends (now : Nat) (call : ProviderCall) : (handle deployment now call).Satisfies (fun _ _ => True)
    (fun more ended => Ends deployment (.port now call) more (workOf ended)) [] := by
  cases call with
  | submitCreateInstance request => exact mutation_ends (submitCreateInstance_ends request)
  | applyInstanceConfiguration request => exact inForeground_ends (map_settled _ (applyInstanceConfiguration_disposable request))
  | getTask request => exact inForeground_ends (getTask_settled request)
  | observeInstance request => exact inForeground_ends (map_settled _ (observeInstance_disposable request now))
  | startInstance request => exact mutation_ends (setPowerState_ends (fun _ => Iff.rfl) fun declared => by simp [settles])
  | shutdownInstance request => exact mutation_ends (setPowerState_ends (fun _ => Iff.rfl) fun declared => by simp [settles])
  | stopInstance request =>
    exact mutation_ends (directMutation_ends (fun _ => Iff.rfl) (fun _ => @asks_perform Numeric _ (.stopHard _) rfl) _ _)
  | rebootInstance request =>
    exact mutation_ends (directMutation_ends (fun _ => Iff.rfl) (fun _ => @asks_perform Numeric _ (.reboot _) rfl) _ _)
  | resizeInstance request => exact mutation_ends (resizeInstance_ends request)
  | listSnapshots request => exact inForeground_ends (map_settled _ (listSnapshots_settled request))
  | createSnapshot request =>
    exact mutation_ends (snapshotMutation_ends (fun _ => Iff.rfl) (fun _ =>
      (asks_checked _).bind fun _ => @asks_perform Numeric _ (.createSnapshot ..) rfl) _ _)
  | rollbackSnapshot request =>
    exact mutation_ends (snapshotMutation_ends (fun _ => Iff.rfl) (fun _ =>
      (asks_checked _).bind fun _ => @asks_perform Numeric _ (.rollbackSnapshot ..) rfl) _ _)
  | deleteSnapshot request =>
    exact mutation_ends (snapshotMutation_ends (fun _ => Iff.rfl) (fun _ =>
      (asks_checked _).bind fun _ => @asks_perform Numeric _ (.deleteSnapshot ..) rfl) _ _)
  | markInstanceRetained request => exact mutation_ends (markInstanceRetained_ends request)
  | purgeInstance request => exact mutation_ends (purgeInstance_ends request)

/-- What the background work adds to the end of its method. -/
theorem Ends.background {work : Background Numeric} (ends : Ends deployment call said (some work)) :
    (background deployment work).Satisfies (fun _ _ => True)
      (fun more _ => Distinct deployment more → (leftBehind more = [] ↔ Removable deployment more call)) said := by
  cases ends with
  | refreshing untouched plain instanceId driftState =>
    exact (refreshAfterDirectMutation_disposable untouched instanceId driftState).weaken (fun _ _ _ => trivial)
      fun _ _ exact_ _ => exact_.trans (plain _).symm
  | applying runId place input bound =>
    refine ((asks_background_removesOnly runId place input).adds said).weaken (fun _ _ _ => trivial) ?_
    rintro _ _ ⟨new, rfl, kinds⟩ distinct
    exact bound new (.of_kind kinds) distinct

theorem session_satisfies (call : AdapterCall) : (session deployment call).Satisfies (fun _ _ => True)
    (fun more _ => Distinct deployment more → (leftBehind more = [] ↔ Removable deployment more call)) [] := by
  cases call with
  | validateProfile summarize profileId =>
    exact Program.satisfies_bind (validateProfile_disposable summarize profileId) (fun _ _ exact_ _ => exact_) fun _ _ exact_ _ => exact_
  | port now call =>
    refine Program.satisfies_bind (@Program.satisfies_attempt _ _ _ _ _ _ (fun said ended =>
      ∃ before, ended = .ok before ∧ Ends deployment (.port now call) said (workOf before)) _ ?_) ?_ ?_
    · exact (handle_ends now call).weaken (fun _ _ _ => trivial) fun _ ended ends => ⟨ended, rfl, ends⟩
    · rintro said ended ⟨_, same, ends⟩
      obtain rfl := Except.ok.inj same
      cases ended with
      | error thrown =>
        cases ends with
        | settled exact_ => exact exact_
      | ok answered =>
        obtain ⟨answer, work⟩ := answered
        cases work with
        | none =>
          cases ends with
          | settled exact_ => exact exact_
        | some work => exact ends.background
    · rintro _ _ ⟨_, impossible, -⟩
      cases impossible

end

end

/-- Exactly when a method and its work in the background leave no directory behind. -/
theorem session_removes_iff {Numeric : Type} (deployment : Deployment Numeric) (oracle : Oracle (@Call.Answer Numeric)) (call : AdapterCall)
    (named : ∀ past uuid, oracle past .randomUUID = Except.ok uuid → ∀ workspace, directoryFor deployment workspace uuid ≠ workspace) :
    leftBehind ((session deployment call).run oracle []).1 = [] ↔
      Removable deployment ((session deployment call).run oracle []).1 call := by
  have answers : ∀ exchange ∈ ((session deployment call).run oracle []).1, ∀ uuid, exchange = ⟨.randomUUID, .ok uuid⟩ →
      ∀ workspace, directoryFor deployment workspace uuid ≠ workspace := by
    refine Program.run_answers (fun past question uuid same => ?_) _ [] fun _ member => (nomatch member)
    obtain rfl : question = .randomUUID := congrArg Sigma.fst same
    exact named past uuid (eq_of_heq (Sigma.mk.inj same).2)
  exact (session_satisfies call).run_post oracle fun uuid drawn => answers _ drawn uuid rfl

/-! ### Sample sessions -/

def sampleMutation : InstanceMutationRequest :=
  { context := some { operationId := some "c1", instanceId := some "a1", providerProfileId := some "proxmox" } }

/-- Every question succeeds, and the state shows a stopped VM. -/
def sampleSession (call : ProviderCall) : List (RunnerExchange Nat) :=
  ((session (sampleDeployment (some (sampleState [("started", .bool false)]))) (.port 0 call)).run
    (fun _ => sampleAnswers sampleResults) []).1

/-- An observation removes its directory. -/
theorem session_removes_iff_sample :
    Removable (sampleDeployment (some (sampleState [("started", .bool false)]))) (sampleSession (.observeInstance sampleMutation))
        (.port 0 (.observeInstance sampleMutation)) ∧
      returned (sampleSession (.observeInstance sampleMutation)) = ["/work/instance-a1.u1"] := by
  refine ⟨(session_removes_iff (sampleDeployment (some (sampleState [("started", .bool false)]))) (fun _ => sampleAnswers sampleResults)
    (.port 0 (.observeInstance sampleMutation)) fun _ uuid _ workspace same => ?_).mp rfl, rfl⟩
  have length := congrArg String.length same
  have dot : ".".length = 1 := by decide
  simp [directoryFor, sampleDeployment, dot] at length
  omega

/-- A start that succeeds leaves what it prepared. -/
theorem session_leaves : leftBehind (sampleSession (.startInstance (some sampleMutation))) = ["/work/instance-a1.u1"] := by rfl

end ControlPlane.WorkingDirectories
