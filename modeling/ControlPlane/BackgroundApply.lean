import ControlPlane.TerraformProvider

/-!
What an apply in the background records. The run is planned again, applied and
recorded inside one block, whose handler records an unknown outcome whatever was
thrown. The record is the truth exactly when the second plan was allowed and the
first outcome that was to be recorded was.
-/
namespace ControlPlane.BackgroundApply
open ControlPlane.Programs ControlPlane.Tables ControlPlane.JsonValues ControlPlane.PlanGate ControlPlane.TerraformVariables
open ControlPlane.TerraformRunner ControlPlane.TerraformProvider
open ControlPlane.ProviderPort (ProviderTaskState)
open ControlPlane.TerraformInventory (InventoryDb RunRow CompleteRunInput finishRun finishedRun completes readRun)

/-! ### The claim -/

section
variable {Numeric : Type} (deployment : Deployment Numeric) (runId directory : String) (input : ApplyInput Numeric)

/-- The verdict on the plan that a conversation holds. -/
def Verdict (said : List (RunnerExchange Numeric)) (gate : GateResult) : Prop :=
  ∃ invocation, ⟨.invoke (.plan input.purge) directory, .ok invocation⟩ ∈ said ∧
    (invocation.exitCode ≠ 0 ∧ evaluatePlan deployment.inherited none none = .ok gate ∨
      invocation.exitCode = 0 ∧ ∃ shown, ⟨.invoke .showPlan directory, .ok shown⟩ ∈ said ∧
        evaluatePlan deployment.inherited (deployment.host.parse shown.stdout)
          (if input.purge then some instanceAddress else none) = .ok gate)

/-- An apply that ended, with its outcome. -/
def Applied (said : List (RunnerExchange Numeric)) (result : InvocationResult) : Prop :=
  ⟨.invoke .apply directory, .ok result⟩ ∈ said

/-- An apply that was started, and threw. -/
def ApplyLost (said : List (RunnerExchange Numeric)) (thrown : Thrown) : Prop :=
  ⟨.invoke .apply directory, .error thrown⟩ ∈ said

/-- How the inventory goes on while it is asked: an outcome that is written may be
    acknowledged or not, one that is not written is answered by an error, and
    whatever else happens leaves the run alone. -/
inductive Stored (bigint : String → Option Int) :
    InventoryDb → List (RunnerExchange Numeric) → List CompleteRunInput → InventoryDb → Prop
  | done (db : InventoryDb) : Stored bigint db [] [] db
  | elsewhere {db other final : InventoryDb} {said : List (RunnerExchange Numeric)} {landed : List CompleteRunInput}
      (keyed : Keyed RunRow.runId other.runs) (same : readRun other runId = readRun db runId)
      (rest : Stored bigint other said landed final) : Stored bigint db said landed final
  | asked {db final : InventoryDb} {exchange : RunnerExchange Numeric} {said : List (RunnerExchange Numeric)}
      {landed : List CompleteRunInput} (silent : ∀ outcome, exchange.1 ≠ .completeRun outcome)
      (rest : Stored bigint db said landed final) : Stored bigint db (exchange :: said) landed final
  | landed {db after final : InventoryDb} {outcome : CompleteRunInput} {said : List (RunnerExchange Numeric)}
      {landed : List CompleteRunInput} (answer : Call.Answer (.completeRun outcome)) (now : Nat)
      (written : finishRun bigint outcome now db = .ok after) (rest : Stored bigint after said landed final) :
      Stored bigint db (⟨.completeRun outcome, answer⟩ :: said) (outcome :: landed) final
  | lost {db final : InventoryDb} {outcome : CompleteRunInput} {said : List (RunnerExchange Numeric)}
      {landed : List CompleteRunInput} (thrown : Thrown) (rest : Stored bigint db said landed final) :
      Stored bigint db (⟨.completeRun outcome, .error thrown⟩ :: said) landed final

/-- One outcome is recorded, and it is the truth. -/
structure Truthful (said : List (RunnerExchange Numeric)) (landed : List CompleteRunInput) (db : InventoryDb) :
    Prop where
  once : ∃ outcome, landed = [outcome]
  ended : ∃ row, readRun db runId = some row ∧ row.status ≠ .running
  succeeded : ∀ row, readRun db runId = some row → row.status = .succeeded →
    ∃ gate result, Verdict deployment directory input said gate ∧ gate.decision = .allowed ∧ Applied directory said result ∧
      result.exitCode = 0
  unknown : ∀ row, readRun db runId = some row → row.status = .unknown → ∃ thrown, ApplyLost directory said thrown
  refused : ∀ gate, Verdict deployment directory input said gate → gate.decision ≠ .allowed →
    ∀ row, readRun db runId = some row →
      row.status = .failed ∧ row.gateDecision = some .refusedDestructive ∧ (taskOf row).state = some .failed

/-- The second plan was allowed, and what is recorded first of its apply was written. -/
def Reported (said : List (RunnerExchange Numeric)) (landed : List CompleteRunInput) : Prop :=
  ∃ gate, Verdict deployment directory input said gate ∧ gate.decision = .allowed ∧
    ((∃ result, Applied directory said result ∧ appliedOutcome deployment runId input gate result ∈ landed) ∨
      ∃ thrown, ApplyLost directory said thrown ∧ unknownOutcome deployment runId input thrown ∈ landed)

end

/-! ### What is asked -/

/-- A question of the second plan. -/
def planning {Numeric : Type} : Call Numeric → Bool
  | .invoke (.plan _) _ | .invoke .showPlan _ => true
  | _ => false

/-- A question that decides about the record: the plan, the apply, or the record itself. -/
def decisive {Numeric : Type} : Call Numeric → Bool
  | .invoke .apply _ | .completeRun _ => true
  | call => planning call

/-- The decisive part of a conversation. -/
def decisions {Numeric : Type} (said : List (RunnerExchange Numeric)) : List (RunnerExchange Numeric) :=
  said.filter fun exchange => decisive exchange.1

section
variable {Numeric : Type} {deployment : Deployment Numeric} {runId directory : String} {input : ApplyInput Numeric}
  {past : List (RunnerExchange Numeric)}

theorem decisions_append (said more : List (RunnerExchange Numeric)) :
    decisions (said ++ more) = decisions said ++ decisions more := List.filter_append ..

theorem decisions_silent {new : List (RunnerExchange Numeric)} (silent : ∀ exchange ∈ new, decisive exchange.1 = false) :
    decisions new = [] := List.filter_eq_nil_iff.mpr fun exchange member => by simp [silent exchange member]

theorem decisions_planning {new : List (RunnerExchange Numeric)} (plans : ∀ exchange ∈ new, planning exchange.1 = true) :
    decisions new = new := by
  refine List.filter_eq_self.mpr fun exchange member => ?_
  have plan := plans exchange member
  unfold decisive
  split <;> simp_all [planning]

/-- A plan asks only for plans, and returns the verdict on what it was answered. -/
theorem plan_satisfies : (plan deployment directory input.purge).Satisfies (fun _ _ => True)
    (fun said ended => ∃ before, said = past ++ before ∧ (∀ exchange ∈ before, planning exchange.1 = true) ∧
      ∀ gate, Verdict deployment directory input before gate ↔ ∃ invocation, ended = .ok (gate, invocation)) past := by
  refine satisfies_perform_bind.mpr ⟨trivial, fun invocation => ?_, fun thrown => ?_⟩
  · split
    next failed =>
      refine satisfies_evaluated_bind.mpr ⟨fun gate judged => ?_, fun error judged => ?_⟩
      · refine ⟨[_], rfl, by simp [planning], fun other => ?_⟩
        simp [Verdict, failed, judged]
      · refine ⟨[_], rfl, by simp [planning], fun other => ?_⟩
        simp [Verdict, judged]
    next ended =>
      have ended : invocation.exitCode = 0 := not_not.mp ended
      refine satisfies_perform_bind.mpr ⟨trivial, fun shown => ?_, fun thrown => ?_⟩
      · refine satisfies_evaluated_bind.mpr ⟨fun gate judged => ?_, fun error judged => ?_⟩
        · refine ⟨[_, _], List.append_assoc .., by simp [planning], fun other => ?_⟩
          simp [Verdict, ended, judged]
        · refine ⟨[_, _], List.append_assoc .., by simp [planning], fun other => ?_⟩
          simp [Verdict, ended, judged]
      · refine ⟨[_, _], List.append_assoc .., by simp [planning], fun other => ?_⟩
        simp [Verdict, ended]
  · exact ⟨[_], rfl, by simp [planning], fun other => by simp [Verdict]⟩

theorem stateMetadata_silent :
    (stateMetadata deployment directory).Satisfies (fun _ call => decisive call = false) (fun _ _ => True) past := by
  refine satisfies_perform_bind.mpr ⟨rfl, fun pulled => ?_, fun _ => trivial⟩
  repeat' split
  all_goals trivial

/-- What is asked once the outcome is recorded decides nothing. -/
theorem recordApplied_silent (result : InvocationResult) :
    (recordApplied deployment runId directory input result).Satisfies (fun _ call => decisive call = false)
      (fun _ _ => True) past := by
  unfold recordApplied
  split
  · refine Program.satisfies_bind_any ?_ ?_
    · split
      · trivial
      · exact stateMetadata_silent
    · rintro later ⟨serial, lineage⟩
      refine satisfies_perform_bind.mpr ⟨rfl, fun _ => ?_, fun _ => trivial⟩
      split
      · refine satisfies_quietly ?_
        refine Program.satisfies_bind_any (Program.satisfies_bind_any ?_ ?_) fun _ _ => trivial
        · exact satisfies_quietly (satisfies_perform_bind.mpr ⟨rfl, fun _ => trivial, fun _ => trivial⟩)
        · intro _ _
          exact (satisfies_perform (.invoke (.workspaceDelete _) _)).mpr ⟨rfl, fun _ => trivial⟩
      · trivial
  · exact (satisfies_perform (.recordWorkspace _)).mpr ⟨rfl, fun _ => trivial⟩

variable (deployment runId directory input) in
/-- The decisive part of the block, and how the block ended. -/
inductive Tried : List (RunnerExchange Numeric) → Except Thrown Unit → Prop
  | unplanned (before : List (RunnerExchange Numeric)) (thrown : Thrown)
      (plans : ∀ exchange ∈ before, planning exchange.1 = true)
      (refused : ∀ gate, Verdict deployment directory input before gate → gate.decision ≠ .allowed) :
      Tried before (.error thrown)
  | lost (before : List (RunnerExchange Numeric)) (gate : GateResult) (thrown : Thrown)
      (plans : ∀ exchange ∈ before, planning exchange.1 = true)
      (verdict : ∀ other, Verdict deployment directory input before other ↔ other = gate)
      (allowed : gate.decision = .allowed) :
      Tried (before ++ [⟨.invoke .apply directory, .error thrown⟩]) (.error thrown)
  | recorded (before : List (RunnerExchange Numeric)) (gate : GateResult) (result : InvocationResult)
      (answer : Except Thrown Unit) (ended : Except Thrown Unit)
      (plans : ∀ exchange ∈ before, planning exchange.1 = true)
      (verdict : ∀ other, Verdict deployment directory input before other ↔ other = gate)
      (allowed : gate.decision = .allowed) (raised : ∀ thrown, answer = .error thrown → ended = .error thrown) :
      Tried
        (before ++ [⟨.invoke .apply directory, .ok result⟩,
          ⟨.completeRun (appliedOutcome deployment runId input gate result), answer⟩]) ended

variable (deployment runId directory input) in
/-- The decisive part of the whole. -/
inductive Decided : List (RunnerExchange Numeric) → Prop
  | ended (asked : List (RunnerExchange Numeric)) (tried : Tried deployment runId directory input asked (.ok ())) :
      Decided asked
  | handled (asked : List (RunnerExchange Numeric)) (thrown : Thrown) (answer : Except Thrown Unit)
      (tried : Tried deployment runId directory input asked (.error thrown)) :
      Decided (asked ++ [⟨.completeRun (unknownOutcome deployment runId input thrown), answer⟩])

theorem quietly_discard_silent (path : String) :
    (quietly (discard deployment path)).Satisfies (fun _ call => decisive call = false) (fun _ done => done = .ok ()) past := by
  refine satisfies_quietly ?_
  unfold TerraformRunner.discard
  split
  · rfl
  · exact (satisfies_perform (.rm path)).mpr ⟨rfl, fun _ => rfl⟩

theorem applyAndRecord_satisfies : (applyAndRecord deployment runId directory input).Satisfies (fun _ _ => True)
    (fun said ended => Tried deployment runId directory input (decisions said) ended) [] := by
  refine Program.satisfies_bind plan_satisfies ?_ ?_
  · rintro before ⟨gate, invocation⟩ ⟨_, rfl, plans, verdict⟩
    have verdict : ∀ other, Verdict deployment directory input before other ↔ other = gate :=
      fun other => by rw [verdict]; simp [eq_comm]
    dsimp only
    unfold apply
    split
    next allowed =>
      refine satisfies_perform_bind.mpr ⟨trivial, fun result => ?_, fun thrown => ?_⟩
      · refine satisfies_perform_bind.mpr ⟨trivial, fun _ => ?_, fun thrown => ?_⟩
        · refine (recordApplied_silent result).adds.weaken (fun _ _ _ => trivial) ?_
          rintro said ended ⟨-, new, rfl, silent⟩
          rw [decisions_append, decisions_silent silent]
          simp only [List.append_nil, List.append_assoc, decisions_append, decisions_planning plans]
          exact .recorded before gate result (.ok ()) ended plans verdict allowed (fun _ impossible => nomatch impossible)
        · simp only [List.append_assoc, decisions_append, decisions_planning plans]
          exact .recorded before gate result (.error thrown) _ plans verdict allowed fun _ same => same
      · simp only [decisions_append, decisions_planning plans]
        exact .lost before gate thrown plans verdict allowed
    next refused =>
      have refused : ∀ other, Verdict deployment directory input before other → other.decision ≠ .allowed :=
        fun other held => (verdict other).mp held ▸ refused
      rw [bind_assoc]
      refine satisfies_evaluated_bind.mpr ⟨fun rule _ => ?_, fun _ _ => ?_⟩ <;>
      · show Tried _ _ _ _ _ _
        rw [decisions_planning plans]
        exact .unplanned before _ plans refused
  · rintro before thrown ⟨_, rfl, plans, verdict⟩
    rw [decisions_planning plans]
    refine .unplanned before thrown plans fun gate held => ?_
    obtain ⟨invocation, impossible⟩ := (verdict gate).mp held
    cases impossible

/-- Every way that an apply in the background takes. -/
theorem completeInBackground_satisfies : (completeInBackground deployment runId directory input).Satisfies
    (fun _ _ => True) (fun said _ => Decided deployment runId directory input (decisions said)) [] := by
  have handled : (Program.catching (applyAndRecord deployment runId directory input)
      fun thrown => quietly (perform (.completeRun (unknownOutcome deployment runId input thrown)))).Satisfies
      (fun _ _ => True) (fun said _ => Decided deployment runId directory input (decisions said)) [] := by
    refine Program.satisfies_catching applyAndRecord_satisfies (fun said _ tried => .ended _ tried) ?_
    intro said thrown tried
    refine satisfies_quietly ((satisfies_perform (.completeRun _)).mpr ⟨trivial, fun answer => ?_⟩)
    rw [decisions_append]
    exact .handled _ thrown answer tried
  refine Program.satisfies_ensuring handled fun later ended decided => ?_
  refine (quietly_discard_silent input.workspace).adds.weaken (fun _ _ _ => trivial) ?_
  rintro said done ⟨returned, new, rfl, silent⟩
  refine ⟨returned, ?_⟩
  rwa [decisions_append, decisions_silent silent, List.append_nil]

/-! ### The ways, from the whole conversation -/

/-- An outcome that is to be written, and whether the write was acknowledged. -/
def writeOf : RunnerExchange Numeric → Option (CompleteRunInput × Bool)
  | ⟨.completeRun outcome, .ok _⟩ => some (outcome, true)
  | ⟨.completeRun outcome, .error _⟩ => some (outcome, false)
  | _ => none

def writes (said : List (RunnerExchange Numeric)) : List (CompleteRunInput × Bool) := said.filterMap writeOf

theorem writeOf_outcome (outcome : CompleteRunInput) (answer : Except Thrown Unit) :
    ∃ acknowledged, @writeOf Numeric ⟨.completeRun outcome, answer⟩ = some (outcome, acknowledged) := by
  cases answer <;> exact ⟨_, rfl⟩

theorem writeOf_invoke (invocation : Invocation) (answer : Call.Answer (.invoke invocation directory)) :
    @writeOf Numeric ⟨.invoke invocation directory, answer⟩ = none := rfl

theorem writeOf_silent {exchange : RunnerExchange Numeric} (silent : ∀ outcome, exchange.1 ≠ .completeRun outcome) :
    writeOf exchange = none := by
  obtain ⟨call, answer⟩ := exchange
  cases call with
  | completeRun outcome => exact absurd rfl (silent outcome)
  | _ => rfl

theorem writes_decisions (said : List (RunnerExchange Numeric)) : writes (decisions said) = writes said := by
  unfold writes decisions
  rw [List.filterMap_filter]
  refine List.filterMap_congr fun exchange _ => ?_
  split
  · rfl
  next silent =>
    refine (writeOf_silent fun outcome same => silent ?_).symm
    rw [same]
    rfl

theorem writes_planning {new : List (RunnerExchange Numeric)} (plans : ∀ exchange ∈ new, planning exchange.1 = true) :
    writes new = [] := by
  refine List.filterMap_eq_nil_iff.mpr fun exchange member => writeOf_silent fun outcome same => ?_
  have plan := plans exchange member
  rw [same] at plan
  cases plan

theorem mem_decisions {said : List (RunnerExchange Numeric)} {exchange : RunnerExchange Numeric}
    (decides : decisive exchange.1 = true) : exchange ∈ decisions said ↔ exchange ∈ said := by
  simp [decisions, decides]

/-- The verdict is on what the questions of the plan were answered. -/
theorem verdict_congr {said other : List (RunnerExchange Numeric)}
    (same : ∀ exchange, planning exchange.1 = true → (exchange ∈ said ↔ exchange ∈ other)) (gate : GateResult) :
    Verdict deployment directory input said gate ↔ Verdict deployment directory input other gate := by
  unfold Verdict
  simp only [same ⟨.invoke (.plan input.purge) directory, .ok _⟩ rfl, same ⟨.invoke .showPlan directory, .ok _⟩ rfl]

variable (deployment runId directory input) in
/-- A conversation, by how far it came: no allowed plan, an apply that threw, or one that
    ended. -/
inductive Course (said : List (RunnerExchange Numeric)) : Prop
  | unplanned (thrown : Thrown) (acknowledged : Bool)
      (refused : ∀ gate, Verdict deployment directory input said gate → gate.decision ≠ .allowed)
      (unapplied : ∀ answer, (⟨.invoke .apply directory, answer⟩ : RunnerExchange Numeric) ∉ said)
      (written : writes said = [(unknownOutcome deployment runId input thrown, acknowledged)])
  | lost (gate : GateResult) (thrown : Thrown) (acknowledged : Bool)
      (verdict : ∀ other, Verdict deployment directory input said other ↔ other = gate) (allowed : gate.decision = .allowed)
      (applied : ∀ answer, (⟨.invoke .apply directory, answer⟩ : RunnerExchange Numeric) ∈ said ↔ answer = .error thrown)
      (written : writes said = [(unknownOutcome deployment runId input thrown, acknowledged)])
  | ended (gate : GateResult) (result : InvocationResult) (acknowledged : Bool) (more : List (CompleteRunInput × Bool))
      (verdict : ∀ other, Verdict deployment directory input said other ↔ other = gate) (allowed : gate.decision = .allowed)
      (applied : ∀ answer, (⟨.invoke .apply directory, answer⟩ : RunnerExchange Numeric) ∈ said ↔ answer = .ok result)
      (written : writes said = (appliedOutcome deployment runId input gate result, acknowledged) :: more)
      (rest : more = [] ∧ acknowledged = true ∨
        ∃ thrown handled, more = [(unknownOutcome deployment runId input thrown, handled)])

/-- The exchanges that the plan is not about. -/
theorem not_mem_planning {before : List (RunnerExchange Numeric)} {exchange : RunnerExchange Numeric}
    (plans : ∀ exchange ∈ before, planning exchange.1 = true) (other : planning exchange.1 = false) : exchange ∉ before :=
  fun member => by rw [plans exchange member] at other; cases other

theorem verdict_append {before more : List (RunnerExchange Numeric)}
    (other : ∀ exchange ∈ more, planning exchange.1 = false) (gate : GateResult) :
    Verdict deployment directory input (before ++ more) gate ↔ Verdict deployment directory input before gate := by
  refine verdict_congr (fun exchange plan => ?_) gate
  rw [List.mem_append]
  refine or_iff_left fun member => ?_
  rw [other exchange member] at plan
  cases plan

/-- The decisive part has one of the courses. -/
theorem Decided.course {asked : List (RunnerExchange Numeric)} (decided : Decided deployment runId directory input asked) :
    Course deployment runId directory input asked := by
  have outside {before : List (RunnerExchange Numeric)} (plans : ∀ exchange ∈ before, planning exchange.1 = true)
      (answer : Call.Answer (.invoke .apply directory)) : (⟨.invoke .apply directory, answer⟩ : RunnerExchange Numeric) ∉ before :=
    not_mem_planning plans rfl
  cases decided with
  | ended _ tried =>
    cases tried with
    | recorded before gate result answer _ plans verdict allowed raised =>
      cases answer with
      | error thrown => cases raised thrown rfl
      | ok =>
        refine .ended gate result true [] (fun other => ?_) allowed (fun answer => ?_) ?_ (.inl ⟨rfl, rfl⟩)
        · rw [verdict_append (by simp [planning]), verdict]
        · simp [outside plans]
        · rw [writes, List.filterMap_append, ← writes, writes_planning plans]
          rfl
  | handled _ thrown answer tried =>
    obtain ⟨acknowledged, last⟩ := @writeOf_outcome Numeric (unknownOutcome deployment runId input thrown) answer
    cases tried with
    | unplanned _ _ plans refused =>
      refine .unplanned thrown acknowledged (fun gate held => refused gate ?_) (fun answer => ?_) ?_
      · rwa [verdict_append (by simp [planning])] at held
      · simp [outside plans]
      · rw [writes, List.filterMap_append, ← writes, writes_planning plans]
        simp [last]
    | lost before gate _ plans verdict allowed =>
      refine .lost gate thrown acknowledged (fun other => ?_) allowed (fun answer => ?_) ?_
      · rw [List.append_assoc, verdict_append (by simp [planning]), verdict]
      · simp [outside plans]
      · rw [writes, List.append_assoc, List.filterMap_append, ← writes, writes_planning plans]
        simp [List.filterMap_cons, last, writeOf_invoke]
    | recorded before gate result recorded _ plans verdict allowed raised =>
      obtain ⟨known, first⟩ := @writeOf_outcome Numeric (appliedOutcome deployment runId input gate result) recorded
      refine .ended gate result known _ (fun other => ?_) allowed (fun answer => ?_) ?_ (.inr ⟨thrown, acknowledged, rfl⟩)
      · rw [List.append_assoc, verdict_append (by simp [planning]), verdict]
      · simp [outside plans]
      · rw [writes, List.append_assoc, List.filterMap_append, ← writes, writes_planning plans]
        simp [List.filterMap_cons, first, last, writeOf_invoke]

/-- So has the whole conversation. -/
theorem course_of_decided {said : List (RunnerExchange Numeric)}
    (decided : Decided deployment runId directory input (decisions said)) : Course deployment runId directory input said := by
  have shown (gate : GateResult) :
      Verdict deployment directory input (decisions said) gate ↔ Verdict deployment directory input said gate := by
    refine verdict_congr (fun exchange plan => mem_decisions ?_) gate
    unfold decisive
    split <;> simp_all [planning]
  have member (answer : Call.Answer (.invoke .apply directory)) :
      (⟨.invoke .apply directory, answer⟩ : RunnerExchange Numeric) ∈ decisions said ↔ ⟨.invoke .apply directory, answer⟩ ∈ said :=
    mem_decisions rfl
  cases decided.course with
  | unplanned thrown acknowledged refused unapplied written =>
    simp only [shown, member, writes_decisions] at refused unapplied written
    exact .unplanned thrown acknowledged refused unapplied written
  | lost gate thrown acknowledged verdict allowed applied written =>
    simp only [shown, member, writes_decisions] at verdict applied written
    exact .lost gate thrown acknowledged verdict allowed applied written
  | ended gate result acknowledged more verdict allowed applied written rest =>
    simp only [shown, member, writes_decisions] at verdict applied written
    exact .ended gate result acknowledged more verdict allowed applied written rest

/-! ### What is stored -/

section
variable {bigint : String → Option Int} {db final : InventoryDb} {said : List (RunnerExchange Numeric)}
  {landed : List CompleteRunInput} {row : RunRow}

/-- An outcome is written to a running run only. -/
theorem finishRun_row {outcome : CompleteRunInput} {now : Nat} {after : InventoryDb} (keyed : Keyed RunRow.runId db.runs)
    (written : finishRun bigint outcome now db = .ok after) (found : readRun db outcome.runId = some row) :
    Keyed RunRow.runId after.runs ∧ row.status = .running ∧ readRun after outcome.runId = some (finishedRun outcome now row) := by
  obtain ⟨token, -, written⟩ := bind_ok written
  split at written
  next => cases written
  next some_ =>
    split at written
    next => cases written
    next =>
      obtain rfl := Except.ok.inj written
      have kept : ∀ other : RunRow, completes outcome token other = true → (finishedRun outcome now other).runId = other.runId :=
        fun _ _ => rfl
      have chosen : completes outcome token row = true := by
        simp only [Bool.not_eq_true', Bool.not_eq_false, List.any_eq_true] at some_
        obtain ⟨other, member, selected⟩ := some_
        have same : other.runId = outcome.runId := by
          simp only [completes, Bool.and_eq_true, decide_eq_true_eq] at selected
          exact selected.1.1
        rwa [← keyed.eq_of_key member (find_mem found) (same.trans (find_key found).symm)]
      refine ⟨keyed_update keyed kept, ?_, ?_⟩
      · simp only [completes, Bool.and_eq_true, decide_eq_true_eq] at chosen
        exact chosen.2
      · rw [readRun, find_update_of kept, ← readRun, found]
        simp [chosen]

/-- A run that ended is not written again. -/
theorem Stored.terminal (stored : Stored runId bigint db said landed final) :
    ∀ {row : RunRow}, Keyed RunRow.runId db.runs → readRun db runId = some row → row.status ≠ .running →
      (∀ write ∈ writes said, write.1.runId = runId) →
      landed = [] ∧ readRun final runId = some row ∧ ∀ write ∈ writes said, write.2 = false := by
  induction stored with
  | done => exact fun _ found _ _ => ⟨rfl, found, fun _ member => nomatch member⟩
  | elsewhere keyed same rest ih => exact fun _ found ended own => ih keyed (same.trans found) ended own
  | asked silent rest ih =>
    intro row keyed found ended own
    rw [writes, List.filterMap_cons_none (writeOf_silent silent)] at own ⊢
    exact ih keyed found ended own
  | @landed db after final outcome said landed answer now written rest ih =>
    intro row keyed found ended own
    exfalso
    have given : outcome.runId = runId := by
      cases answer <;> exact own _ List.mem_cons_self
    subst given
    exact ended (finishRun_row keyed written found).2.1
  | lost thrown rest ih =>
    intro row keyed found ended own
    obtain ⟨nothing, same, answers⟩ := ih keyed found ended fun write member => own write (List.mem_cons_of_mem _ member)
    exact ⟨nothing, same, List.forall_mem_cons.mpr ⟨rfl, answers⟩⟩

/-- Of the outcomes for a running run at most one is written, and only that one may be
    acknowledged. -/
theorem Stored.once (stored : Stored runId bigint db said landed final) :
    ∀ {row : RunRow}, Keyed RunRow.runId db.runs → readRun db runId = some row → row.status = .running →
      (∀ write ∈ writes said, write.1.runId = runId) →
      (landed = [] ∧ readRun final runId = some row ∧ ∀ write ∈ writes said, write.2 = false) ∨
        ∃ before outcome acknowledged after now, writes said = before ++ (outcome, acknowledged) :: after ∧
          (∀ write ∈ before, write.2 = false) ∧ (∀ write ∈ after, write.2 = false) ∧ landed = [outcome] ∧
          readRun final runId = some (finishedRun outcome now row) := by
  induction stored with
  | done => exact fun _ found _ _ => .inl ⟨rfl, found, fun _ member => nomatch member⟩
  | elsewhere keyed same rest ih => exact fun _ found running own => ih keyed (same.trans found) running own
  | asked silent rest ih =>
    intro row keyed found running own
    rw [writes, List.filterMap_cons_none (writeOf_silent silent)] at own ⊢
    exact ih keyed found running own
  | @landed db after final outcome said landed answer now written rest ih =>
    intro row keyed found running own
    obtain ⟨acknowledged, head⟩ := @writeOf_outcome Numeric outcome answer
    rw [writes, List.filterMap_cons_some head, ← writes] at own ⊢
    obtain ⟨given, own⟩ := List.forall_mem_cons.mp own
    have given : outcome.runId = runId := given
    subst given
    obtain ⟨keyed, -, now_⟩ := finishRun_row keyed written found
    have ended : (finishedRun outcome now row).status ≠ .running := by
      show outcome.status.status ≠ .running
      cases outcome.status <;> exact fun impossible => nomatch impossible
    obtain ⟨rfl, same, answers⟩ := rest.terminal keyed now_ ended own
    exact .inr ⟨[], outcome, acknowledged, _, now, rfl, (fun _ member => nomatch member), answers, rfl, same⟩
  | @lost db final outcome said landed thrown rest ih =>
    intro row keyed found running own
    obtain ⟨given, own⟩ := List.forall_mem_cons.mp own
    rcases ih keyed found running own with ⟨nothing, same, answers⟩ | ⟨before, other, acknowledged, after, now, split_, rest⟩
    · exact .inl ⟨nothing, same, List.forall_mem_cons.mpr ⟨rfl, answers⟩⟩
    · refine .inr ⟨(outcome, false) :: before, other, acknowledged, after, now, congrArg _ split_, ?_, rest.2⟩
      exact List.forall_mem_cons.mpr ⟨rfl, rest.1⟩

end

/-! ### The result -/

/-- The outcomes that are to be recorded are of the run. -/
theorem Course.own {said : List (RunnerExchange Numeric)} (course : Course deployment runId directory input said) :
    ∀ write ∈ writes said, write.1.runId = runId := by
  cases course with
  | unplanned _ _ _ _ written | lost _ _ _ _ _ _ written =>
    rw [written]
    exact List.forall_mem_singleton.mpr rfl
  | ended _ _ _ _ _ _ _ written rest =>
    rw [written]
    refine List.forall_mem_cons.mpr ⟨rfl, ?_⟩
    rcases rest with ⟨rfl, -⟩ | ⟨_, _, rfl⟩
    · exact fun _ member => nomatch member
    · exact List.forall_mem_singleton.mpr rfl

section
variable {bigint : String → Option Int} {db final : InventoryDb} {said : List (RunnerExchange Numeric)}
  {landed : List CompleteRunInput} {row : RunRow}

/-- Of one outcome that is to be written, it or nothing is. -/
theorem Stored.single {outcome : CompleteRunInput} {acknowledged : Bool} (stored : Stored runId bigint db said landed final)
    (keyed : Keyed RunRow.runId db.runs) (found : readRun db runId = some row) (running : row.status = .running)
    (own : ∀ write ∈ writes said, write.1.runId = runId) (written : writes said = [(outcome, acknowledged)]) :
    landed = [] ∧ readRun final runId = some row ∨
      ∃ now, landed = [outcome] ∧ readRun final runId = some (finishedRun outcome now row) := by
  rcases stored.once keyed found running own with ⟨nothing, same, -⟩ | ⟨before, other, known, after, now, split_, -, -, one, same⟩
  · exact .inl ⟨nothing, same⟩
  · rw [written] at split_
    cases before with
    | nil =>
      obtain ⟨pair, -⟩ := List.cons.inj split_
      obtain ⟨rfl, -⟩ := Prod.mk.inj pair
      exact .inr ⟨now, one, same⟩
    | cons => simp at split_

/-- Of the outcome of an apply and one that may follow it, one or nothing is. -/
theorem Stored.first {gate : GateResult} {result : InvocationResult} {acknowledged : Bool} {more : List (CompleteRunInput × Bool)}
    (stored : Stored runId bigint db said landed final) (keyed : Keyed RunRow.runId db.runs)
    (found : readRun db runId = some row) (running : row.status = .running) (own : ∀ write ∈ writes said, write.1.runId = runId)
    (written : writes said = (appliedOutcome deployment runId input gate result, acknowledged) :: more)
    (rest : more = [] ∧ acknowledged = true ∨
      ∃ thrown handled, more = [(unknownOutcome deployment runId input thrown, handled)]) :
    landed = [] ∨
      ∃ outcome now, landed = [outcome] ∧ readRun final runId = some (finishedRun outcome now row) ∧
        (outcome = appliedOutcome deployment runId input gate result ∨
          ∃ thrown, outcome = unknownOutcome deployment runId input thrown) := by
  rcases stored.once keyed found running own with ⟨nothing, -, -⟩ | ⟨before, other, known, after, now, split_, -, -, one, same⟩
  · exact .inl nothing
  · refine .inr ⟨other, now, one, same, ?_⟩
    have member : (other, known) ∈ writes said := by simp [split_]
    rw [written] at member
    rcases List.mem_cons.mp member with first | later
    · exact .inl (Prod.mk.inj first).1
    · rcases rest with ⟨rfl, -⟩ | ⟨thrown, handled, rfl⟩
      · cases later
      · exact .inr ⟨thrown, (Prod.mk.inj (List.mem_singleton.mp later)).1⟩

/-- One written outcome that the conversation bears out. -/
theorem truthful_of_written {outcome : CompleteRunInput} {now : Nat} {gate : GateResult}
    (same : readRun final runId = some (finishedRun outcome now row))
    (verdict : ∀ other, Verdict deployment directory input said other ↔ other = gate) (allowed : gate.decision = .allowed)
    (succeeded : outcome.status = .succeeded → ∃ result, Applied directory said result ∧ result.exitCode = 0)
    (unknown : outcome.status = .unknown → ∃ thrown, ApplyLost directory said thrown) :
    Truthful deployment runId directory input said [outcome] final := by
  have status : (finishedRun outcome now row).status = outcome.status.status := rfl
  refine ⟨⟨outcome, rfl⟩, ⟨_, same, ?_⟩, fun other found reads => ?_, fun other found reads => ?_, fun other shown refused => ?_⟩
  · rw [status]
    cases outcome.status <;> exact fun impossible => nomatch impossible
  · obtain rfl := Option.some.inj (same.symm.trans found)
    have won : outcome.status = .succeeded := by
      rw [status] at reads
      cases told : outcome.status <;> rw [told] at reads <;> first | rfl | cases reads
    obtain ⟨result, applied, zero⟩ := succeeded won
    exact ⟨gate, result, (verdict gate).mpr rfl, allowed, applied, zero⟩
  · obtain rfl := Option.some.inj (same.symm.trans found)
    refine unknown ?_
    rw [status] at reads
    cases told : outcome.status <;> rw [told] at reads <;> first | rfl | cases reads
  · rw [(verdict other).mp shown] at refused
    exact absurd allowed refused

theorem truthful_iff (course : Course deployment runId directory input said)
    (stored : Stored runId bigint db said landed final) (keyed : Keyed RunRow.runId db.runs)
    (found : readRun db runId = some row) (running : row.status = .running) :
    Truthful deployment runId directory input said landed final ↔ Reported deployment runId directory input said landed := by
  have own := course.own
  -- An unknown outcome is the truth only of an apply that threw.
  have lost_of_unknown {thrown : Thrown} {now : Nat} (truthful : Truthful deployment runId directory input said landed final)
      (same : readRun final runId = some (finishedRun (unknownOutcome deployment runId input thrown) now row)) :
      ∃ thrown, ApplyLost directory said thrown := truthful.unknown _ same rfl
  cases course with
  | unplanned thrown acknowledged refused unapplied written =>
    constructor
    · intro truthful
      obtain ⟨outcome, one⟩ := truthful.once
      rcases stored.single keyed found running own written with ⟨nothing, -⟩ | ⟨now, -, same⟩
      · cases nothing.symm.trans one
      · obtain ⟨thrown, lost⟩ := lost_of_unknown truthful same
        exact absurd lost (unapplied _)
    · rintro ⟨gate, shown, allowed, -⟩
      exact absurd allowed (refused gate shown)
  | lost gate thrown acknowledged verdict allowed applied written =>
    constructor
    · intro truthful
      obtain ⟨outcome, one⟩ := truthful.once
      rcases stored.single keyed found running own written with ⟨nothing, -⟩ | ⟨now, rfl, -⟩
      · cases nothing.symm.trans one
      · exact ⟨gate, (verdict gate).mpr rfl, allowed, .inr ⟨thrown, (applied _).mpr rfl, List.mem_singleton.mpr rfl⟩⟩
    · rintro ⟨_, -, -, ⟨result, ended, -⟩ | ⟨other, -, recorded⟩⟩
      · cases (applied _).mp ended
      · rcases stored.single keyed found running own written with ⟨rfl, -⟩ | ⟨now, rfl, same⟩
        · cases recorded
        · exact truthful_of_written same verdict allowed (fun impossible => nomatch impossible)
            fun _ => ⟨thrown, (applied _).mpr rfl⟩
  | ended gate result acknowledged more verdict allowed applied written rest =>
    constructor
    · intro truthful
      obtain ⟨outcome, one⟩ := truthful.once
      rcases stored.first keyed found running own written rest with nothing | ⟨_, now, rfl, same, rfl | ⟨thrown, rfl⟩⟩
      · cases nothing.symm.trans one
      · exact ⟨gate, (verdict gate).mpr rfl, allowed, .inl ⟨result, (applied _).mpr rfl, List.mem_singleton.mpr rfl⟩⟩
      · obtain ⟨thrown, lost⟩ := lost_of_unknown truthful same
        cases (applied _).mp lost
    · rintro ⟨other, shown, -, ⟨outcome, ended, recorded⟩ | ⟨thrown, lost, -⟩⟩
      · obtain rfl := (verdict other).mp shown
        obtain rfl := Except.ok.inj ((applied _).mp ended)
        rcases stored.first keyed found running own written rest with rfl | ⟨_, now, rfl, same, rfl | ⟨thrown, rfl⟩⟩
        · cases recorded
        · refine truthful_of_written same verdict allowed (fun won => ⟨outcome, ended, ?_⟩) fun unknown => ?_
          · simp only [appliedOutcome] at won
            split at won
            · assumption
            · cases won
          · simp only [appliedOutcome] at unknown
            split at unknown <;> cases unknown
        · have codes := congrArg CompleteRunInput.exitCode (List.mem_singleton.mp recorded)
          cases codes
      · cases (applied _).mp lost

end

/-- The apply in the background records the truth of a running run, whatever plan,
    apply, state and store answer, exactly when its second plan was allowed and the
    outcome of the apply is what was written. -/
theorem completeInBackground_truthful_iff (deployment : Deployment Numeric) (runId directory : String)
    (input : ApplyInput Numeric) (oracle : Oracle (@Call.Answer Numeric)) (bigint : String → Option Int)
    {db final : InventoryDb} {landed : List CompleteRunInput} {row : RunRow} (keyed : Keyed RunRow.runId db.runs)
    (found : readRun db runId = some row) (running : row.status = .running)
    (stored : Stored runId bigint db ((completeInBackground deployment runId directory input).run oracle []).1 landed final) :
    Truthful deployment runId directory input ((completeInBackground deployment runId directory input).run oracle []).1
        landed final ↔
      Reported deployment runId directory input ((completeInBackground deployment runId directory input).run oracle []).1
        landed := by
  have decided := (@completeInBackground_satisfies Numeric deployment runId directory input).run_post oracle
  exact truthful_iff (course_of_decided decided) stored keyed found running

end

/-- A run that was begun for an apply. -/
def sampleRun : RunRow :=
  { runId := "r1", instanceId := "a1", operationId := "c1", workspaceName := "instance-a1", command := .apply,
    fencingToken := 0, startedAt := 0 }

def sampleInventory : InventoryDb := { runs := [sampleRun] }

def sampleInput : ApplyInput Nat :=
  { instanceId := "a1", operationId := "c1", workspace := "instance-a1", vmId := 910000,
    tfvars := probeTfvars sampleHost sampleTerraform, fencingToken := "0" }

/-- The processes of a sample apply, whose second plan exits with the code given. -/
def sampleProcesses (planCode : Int) : Invocation → InvocationResult
  | .plan _ => ⟨planCode, [], ""⟩
  | .showPlan => ⟨0, [], "plan"⟩
  | _ => ⟨0, [], ""⟩

/-- A plan that is empty, and a state that cannot be read. -/
def sampleApplied : List (RunnerExchange Nat) :=
  ((completeInBackground (sampleDeployment none) "r1" "/work/d1" sampleInput).run
    (fun _ => sampleAnswers (sampleProcesses 0)) []).1

theorem sampleInventory_keyed : Keyed RunRow.runId sampleInventory.runs := List.nodup_singleton _

theorem sampleApplied_stored : ∃ final landed, Stored "r1" (fun _ => some 0) sampleInventory sampleApplied landed final :=
  ⟨_, _, .asked (fun _ impossible => nomatch impossible) (.asked (fun _ impossible => nomatch impossible)
    (.asked (fun _ impossible => nomatch impossible) (.landed (.ok ()) 1 rfl
      (.asked (fun _ impossible => nomatch impossible) (.asked (fun _ impossible => nomatch impossible) (.done _))))))⟩

theorem completeInBackground_truthful_iff_sample : ∃ final landed,
    Truthful (sampleDeployment none) "r1" "/work/d1" sampleInput sampleApplied landed final ↔
      Reported (sampleDeployment none) "r1" "/work/d1" sampleInput sampleApplied landed := by
  obtain ⟨final, landed, stored⟩ := sampleApplied_stored
  exact ⟨final, landed, completeInBackground_truthful_iff (sampleDeployment none) "r1" "/work/d1" sampleInput
    (fun _ => sampleAnswers (sampleProcesses 0)) (fun _ => some 0) sampleInventory_keyed rfl rfl stored⟩

/-- A second plan that fails is refused, and recorded as a run without an outcome. -/
theorem completeInBackground_untruthful : ∃ final landed,
    Stored "r1" (fun _ => some 0) sampleInventory
      ((completeInBackground (sampleDeployment none) "r1" "/work/d1" sampleInput).run
        (fun _ => sampleAnswers (sampleProcesses 1)) []).1 landed final ∧
      ¬ Truthful (sampleDeployment none) "r1" "/work/d1" sampleInput
        ((completeInBackground (sampleDeployment none) "r1" "/work/d1" sampleInput).run
          (fun _ => sampleAnswers (sampleProcesses 1)) []).1 landed final := by
  refine ⟨_, _, .asked (fun _ impossible => nomatch impossible) (.landed (.ok ()) 1 rfl (.done _)), fun truthful => ?_⟩
  have judged := truthful.refused _ ⟨⟨1, [], ""⟩, List.mem_cons_self, .inl ⟨by decide, rfl⟩⟩ (by decide) _ rfl
  cases judged.1

end ControlPlane.BackgroundApply
