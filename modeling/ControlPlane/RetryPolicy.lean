import ControlPlane.SagaOrder

/-!
The retry policy over whole runs. The writes of an operation are kept in a ledger, in
the order in which the store accepted them. The columns that hold the count and the
start of a series of failures are a function of the ledger, and a series of failures
is retried until its eighth failure or the end of its budget, which gives the
workflow up.
-/
namespace ControlPlane.RetryPolicy
open ControlPlane.Programs ControlPlane.Programs.Program ControlPlane.Tables ControlPlane.Runs
open ControlPlane.Domain ControlPlane.Commands ControlPlane.EventValidation
open ControlPlane.WorkflowSchema ControlPlane.WorkflowStore ControlPlane.StoreRules
open ControlPlane.ProviderPort ControlPlane.LifecycleWorkflow ControlPlane.SagaRules ControlPlane.Transitions
open ControlPlane.Orchestrator ControlPlane.Custody ControlPlane.SagaOrder
open ControlPlane.Fencing (StoreCall Called called_next)

/-! ### The ledger -/

/-- A claim whose write was accepted. -/
structure Attempt where
  around : Surroundings
  workflow : ClaimedWorkflow
  past : List ProviderExchange
  write : StoreWrite

inductive Entry
  | wrote (attempt : Attempt)
  /-- An authorized replay reopened the workflow. -/
  | reopened

/-- The columns of a series of failures, and whether the workflow ended. -/
structure Columns where
  attempts : Nat := 0
  startedAt : Option Instant := none
  ended : Bool := false
  deriving DecidableEq, Repr

def Columns.after (c : Columns) : Entry → Columns
  | .reopened => {}
  | .wrote attempt =>
    match attempt.write with
    | .checkpoint input =>
      { attempts := (input.retry.map RetryNote.attempt).getD 0, startedAt := input.retry.map RetryNote.startedAt }
    | .complete _ => { c with ended := true }
    | .deadLetterWorkflow input => { c with attempts := input.attempts, ended := true }

def columns (ledger : List Entry) : Columns := ledger.foldl Columns.after {}

/-- No failure is counted. -/
def Columns.Reset (c : Columns) : Prop := c.attempts = 0 ∧ c.startedAt = none

/-! ### The claim -/

/-- A failure that the classification retries: of the transport, retryable, and where
    the provider may have acted a protocol error. -/
def Attempt.Failed (a : Attempt) : Prop :=
  ∃ exchange error, a.past = [exchange] ∧ reply exchange = .failed error ∧ error.retryable = true ∧
    (a.workflow.stage ∈ mutationStages a.workflow.action → error.code = .protocolError)

/-- The provider answered. -/
def Attempt.Answered (a : Attempt) : Prop :=
  ∃ exchange, a.past = [exchange] ∧ ∀ error, reply exchange ≠ .failed error

/-- The workflow goes on. -/
def Attempt.GoesOn (a : Attempt) : Prop := ∃ input, a.write = .checkpoint input

/-- The k-th retry of a series that began at `start`. -/
def Attempt.Scheduled (a : Attempt) (k : Nat) (start : Instant) : Prop :=
  ∃ input delay, a.write = .checkpoint input ∧ input.stage = a.workflow.stage ∧
    input.retry.map (fun note => (note.attempt, note.startedAt)) = some (k, start) ∧
    input.nextAttemptAt = some (a.around.now + delay) ∧ delay < min 30000 (500 * 2 ^ (k - 1)) ∧
    a.around.now + delay ≤ (start + 15 * 60 * 1000 : Nat)

/-- The workflow is given up, and nothing is scheduled. -/
def Attempt.GivesUp (a : Attempt) : Prop := ∃ input, a.write = .deadLetterWorkflow input

/-- The failures of a series are retried until the eighth, or one after the budget,
    which ends the workflow. -/
def Limited (series : List Attempt) (rest : List Entry) : Prop :=
  ∀ first, series.head? = some first → ∀ k a, series[k]? = some a →
    if k + 1 < 8 ∧ a.around.now < (first.around.now + 15 * 60 * 1000 : Nat) then a.Scheduled (k + 1) first.around.now
    else a.GivesUp ∧ k + 1 = series.length ∧ ∀ b, rest.head? ≠ some (.wrote b)

/-- What a write does to the columns. -/
structure Counts (before : Columns) (a : Attempt) : Prop where
  failed : a.Failed → (before.after (.wrote a)).attempts = before.attempts + 1
  reset : ¬ a.Failed → a.GoesOn → (before.after (.wrote a)).Reset ∧ (a.Answered ∨ before.Reset)
  ended : ¬ a.Failed → ¬ a.GoesOn → before.after (.wrote a) = { before with ended := true }

/-! ### One attempt -/

section
variable {host : Host} {a : Attempt}

/-- A failure that is retried is written as the retry policy decides. -/
theorem failed_write (failed : a.Failed)
    (transition : Transition host a.around a.workflow a.past (.ok a.write)) :
    ∃ error, retryOrDeadLetter a.around a.workflow error = .done a.write := by
  obtain ⟨exchange, error, said, told, retryable, safe⟩ := failed
  refine ⟨error, ?_⟩
  rw [said] at transition
  cases transition with
  | through executed =>
    cases executed with
    | mutated _ _ answered => rw [told] at answered; cases answered
    | polled _ _ _ answered => rw [told] at answered; cases answered
    | reviewed _ describes | confirmed _ describes | verified _ describes => rw [told] at describes; cases describes
  | caught executed ends =>
    cases executed with
    | interrupted asks answered =>
      rw [told] at answered
      cases answered
      have risky : ((mutationStages a.workflow.action).contains a.workflow.stage && error.code ≠ .protocolError) = false := by
        by_cases stage : a.workflow.stage ∈ mutationStages a.workflow.action
        · simp [safe stage]
        · simp [stage]
      rw [handleProviderError, risky, if_neg Bool.false_ne_true, if_pos retryable] at ends
      exact ends

/-- A random part of a ceiling, in whole milliseconds, is below the ceiling. -/
theorem floor_mul_lt {random : Rat} {ceiling : Nat} (most : random < 1) (positive : 0 < ceiling) :
    (random * ceiling).floor < (ceiling : Int) := by
  have positive : (0 : Rat) < (ceiling : Rat) := Rat.natCast_pos.mpr positive
  rw [Rat.floor_lt_iff]
  have below := Rat.mul_lt_mul_of_pos_right most positive
  rwa [Rat.one_mul, ← Rat.intCast_natCast] at below

/-- A delay that the rest of the budget cuts off. -/
theorem delay_bounds {part : Int} {ceiling now deadline : Nat} (below : part < ceiling) (positive : 0 < ceiling)
    (ahead : now < deadline) :
    (min part ((deadline : Int) - now)).toNat < ceiling ∧ now + (min part ((deadline : Int) - now)).toNat ≤ deadline := by
  omega

/-- What the retry policy decides. -/
theorem retry_cases {around : Surroundings} {workflow : ClaimedWorkflow} {error : ProviderTransportError} {write : StoreWrite}
    {past : List ProviderExchange} (ends : retryOrDeadLetter around workflow error = .done write) :
    if workflow.stageAttempt + 1 < 8 ∧ around.now < (workflow.retryStartedAt.getD around.now + 15 * 60 * 1000 : Nat) then
      Attempt.Scheduled ⟨around, workflow, past, write⟩ (workflow.stageAttempt + 1) (workflow.retryStartedAt.getD around.now)
    else ∃ input, write = .deadLetterWorkflow input ∧ input.attempts = workflow.stageAttempt + 1 := by
  rw [retryOrDeadLetter] at ends
  dsimp only at ends
  generalize workflow.retryStartedAt.getD around.now = start at ends ⊢
  have within : (workflow.stageAttempt + 1 < 8 ∧ around.now < (start + 15 * 60 * 1000 : Nat)) ↔
      ¬ (workflow.stageAttempt + 1 ≥ maximumRetryAttempts ∨ ((start + retryBudgetMs : Nat) : Int) - (around.now : Int) ≤ 0) := by
    rw [not_or, Nat.not_le, Int.not_le, Int.sub_pos, Int.ofNat_lt]
    rfl
  by_cases spent : workflow.stageAttempt + 1 ≥ maximumRetryAttempts ∨
      ((start + retryBudgetMs : Nat) : Int) - (around.now : Int) ≤ 0
  · rw [if_pos spent] at ends
    cases ends
    rw [if_neg fun going => within.mp going spent]
    exact ⟨_, rfl, rfl⟩
  · rw [if_neg spent] at ends
    by_cases outside : around.random < 0 ∨ around.random ≥ 1
    · rw [if_pos outside] at ends
      cases ends
    · rw [if_neg outside] at ends
      cases ends
      have positive : 0 < min retryBackoffCeilingMs (retryBackoffBaseMs * 2 ^ (workflow.stageAttempt + 1 - 1)) :=
        Nat.lt_min.mpr ⟨by decide, Nat.mul_pos (by decide) (Nat.two_pow_pos _)⟩
      have below := floor_mul_lt (Rat.not_le.mp fun most => outside (.inr most)) positive
      have going := within.mpr spent
      obtain ⟨short, soon⟩ := delay_bounds below positive going.2
      rw [if_pos going]
      exact ⟨_, _, rfl, rfl, rfl, rfl, short, soon⟩

/-- A write that schedules no retry and gives nothing up. -/
def Plain (write : StoreWrite) : Prop :=
  (∃ input, write = .checkpoint input ∧ input.retry = none) ∨ ∃ input, write = .complete input

theorem finishFailure_plain {around : Surroundings} {workflow : ClaimedWorkflow} {failure : FailureValue} {status : FinalStatus}
    {write : StoreWrite} (ends : finishFailure around workflow failure status = .done write) :
    ∃ input, write = .complete input := by
  cases ends
  exact ⟨_, rfl⟩

theorem succeed_plain {around : Surroundings} {workflow : ClaimedWorkflow} {lifecycleState : LifecycleState}
    {observed : Option ObservedState} {write : StoreWrite} (ends : succeed around workflow lifecycleState observed = .done write) :
    ∃ input, write = .complete input := by
  have completes : (succeed around workflow lifecycleState observed).Satisfies (fun _ _ => True)
      (fun _ ended => ∀ write, ended = .ok write → ∃ input, write = .complete input) [] := by
    refine requiredResource_then (fun _ _ impossible => nomatch impossible) fun resource => ?_
    rintro write ⟨⟩
    exact ⟨_, rfl⟩
  rw [ends] at completes
  exact completes write rfl

theorem progress_plain {around : Surroundings} {workflow : ClaimedWorkflow} {stage : WorkflowStage}
    {options : ProgressOptions} {write : StoreWrite} (none_ : options.retry = none)
    (ends : progress around workflow stage options = .done write) : Plain write := by
  cases ends
  exact .inl ⟨_, rfl, none_⟩

theorem result_plain {around : Surroundings} {workflow : ClaimedWorkflow} {result : Option ProviderMutationResult}
    {acceptedStage synchronousStage : WorkflowStage} {write : StoreWrite}
    (ends : handleMutationResult host around workflow result acceptedStage synchronousStage = .done write) : Plain write := by
  unfold handleMutationResult at ends
  cases result with
  | none => exact .inr (finishFailure_plain ends)
  | some result =>
    dsimp only at ends
    split at ends
    next => exact .inr (finishFailure_plain ends)
    next =>
      split at ends
      next => exact .inr (finishFailure_plain ends)
      next =>
        split at ends
        next => exact .inr (finishFailure_plain ends)
        next =>
          split at ends
          next =>
            split at ends
            next => exact .inr (finishFailure_plain ends)
            next => exact progress_plain rfl ends
          next =>
            split at ends
            next => exact progress_plain rfl ends
            next => exact .inr (finishFailure_plain ends)

theorem task_plain {around : Surroundings} {workflow : ClaimedWorkflow} {response : GetTaskResponse}
    {successStage : WorkflowStage} {taskReference : String} {write : StoreWrite}
    (ends : handleTaskResult host around workflow response successStage taskReference = .done write) : Plain write := by
  unfold handleTaskResult at ends
  split at ends
  next => exact progress_plain rfl ends
  next =>
    split at ends
    next => exact progress_plain rfl ends
    next =>
      split at ends
      next => exact .inr (finishFailure_plain ends)
      next => exact .inr (finishFailure_plain ends)

/-- Where nothing failed that is retried, no retry is scheduled and nothing given up;
    and a workflow goes on because it was answered, or it just began. -/
theorem plain_write (other : ¬ a.Failed) (transition : Transition host a.around a.workflow a.past (.ok a.write)) :
    Plain a.write ∧ (a.GoesOn → a.Answered ∨ a.workflow.stage = .accepted) := by
  have ended (done : ∃ input, a.write = .complete input) : Plain a.write ∧ (a.GoesOn → a.Answered ∨ a.workflow.stage = .accepted) := by
    refine ⟨.inr done, fun ⟨input, goes⟩ => ?_⟩
    obtain ⟨_, done⟩ := done
    rw [done] at goes
    cases goes
  have answers {exchange : ProviderExchange} (plain : Plain a.write) (said : a.past = [exchange])
      (told : ∀ error, reply exchange ≠ .failed error) :
      Plain a.write ∧ (a.GoesOn → a.Answered ∨ a.workflow.stage = .accepted) :=
    ⟨plain, fun _ => .inl ⟨exchange, said, told⟩⟩
  obtain ⟨around, workflow, past, write⟩ := a
  cases transition with
  | through executed =>
    cases executed with
    | advanced accepted ends => exact ⟨progress_plain rfl ends, fun _ => .inr accepted⟩
    | unsupported _ _ _ ends | untracked _ _ ends => exact ended (finishFailure_plain ends)
    | mutated _ _ said _ ends => exact answers (result_plain ends) rfl fun error => by simp [said]
    | polled _ _ _ said _ ends => exact answers (task_plain ends) rfl fun error => by simp [said]
    | reviewed _ _ _ ends => exact ended (finishFailure_plain ends)
    | confirmed _ _ _ ends => exact ended (succeed_plain ends)
    | verified _ describes _ _ ends =>
      refine answers (progress_plain rfl ends) rfl fun error failed => ?_
      rw [failed] at describes
      cases describes
  | @caught error _ executed ends =>
    refine ended ?_
    have declined : ¬ ((mutationStages workflow.action).contains workflow.stage && error.code ≠ .protocolError) →
        error.retryable = false := by
      intro safe
      cases executed with
      | unaddressed _ _ same => rw [same]; rfl
      | @interrupted exchange _ _ said =>
        by_contra retryable
        refine other ⟨exchange, error, rfl, said, by simpa using retryable, fun stage => ?_⟩
        by_contra code
        exact safe (by simp [stage, code])
    rw [handleProviderError] at ends
    split at ends
    next => exact finishFailure_plain ends
    next safe =>
      rw [declined (by simpa using safe)] at ends
      exact finishFailure_plain ends

/-! ### What the ledger tells -/

/-- A claim that was handed the columns, of a workflow that had not ended, made the write. -/
structure Found (host : Host) (c : Columns) (a : Attempt) : Prop where
  transition : Transition host a.around a.workflow a.past (.ok a.write)
  attempts : a.workflow.stageAttempt = c.attempts
  startedAt : a.workflow.retryStartedAt = c.startedAt
  live : c.ended = false
  accepted : a.workflow.stage = .accepted → c.Reset

/-- Every write of a ledger found the columns as the ledger before it tells them. -/
def Recorded (host : Host) (ledger : List Entry) : Prop :=
  ∀ before a after, ledger = before ++ .wrote a :: after → Found host (columns before) a

theorem recorded_append {ledger : List Entry} (recorded : Recorded host ledger) {entry : Entry}
    (found : ∀ a, entry = .wrote a → Found host (columns ledger) a) : Recorded host (ledger ++ [entry]) := by
  intro before a after split_
  rcases List.eq_nil_or_concat after with rfl | ⟨rest, last, rfl⟩
  · obtain ⟨same, one⟩ := List.append_inj' split_ rfl
    exact same ▸ found a (List.cons.inj one).1
  · rw [List.concat_eq_append, ← List.cons_append, ← List.append_assoc] at split_
    exact recorded before a rest (List.append_inj' split_ rfl).1

theorem columns_append (before after : List Entry) : columns (before ++ after) = after.foldl Columns.after (columns before) :=
  List.foldl_append

/-- The columns after a retry. -/
theorem scheduled_columns {before : Columns} {k : Nat} {start : Instant} (scheduled : a.Scheduled k start) :
    before.after (.wrote a) = { attempts := k, startedAt := some start } := by
  obtain ⟨input, delay, write, -, note, -⟩ := scheduled
  obtain ⟨retry, noted, told⟩ := Option.map_eq_some_iff.mp note
  obtain ⟨counted, began⟩ := Prod.mk.inj told
  simp only [Columns.after, write, noted, Option.map_some, Option.getD_some, counted, began]

/-- A failure is retried or gives the workflow up, by the columns that it found. -/
theorem failed_decided {ledger before after : List Entry} (recorded : Recorded host ledger)
    (split_ : ledger = before ++ .wrote a :: after) (failed : a.Failed) :
    if (columns before).attempts + 1 < 8 ∧
        a.around.now < ((columns before).startedAt.getD a.around.now + 15 * 60 * 1000 : Nat) then
      a.Scheduled ((columns before).attempts + 1) ((columns before).startedAt.getD a.around.now)
    else ∃ input, a.write = .deadLetterWorkflow input ∧ input.attempts = (columns before).attempts + 1 := by
  obtain ⟨transition, attempts, startedAt, -⟩ := recorded before a after split_
  obtain ⟨error, ends⟩ := failed_write failed transition
  rw [← attempts, ← startedAt]
  exact @retry_cases _ _ _ _ a.past ends

/-- A write counts a failure that is retried, and resets the columns or ends otherwise. -/
theorem counts_recorded {ledger before after : List Entry} (recorded : Recorded host ledger)
    (split_ : ledger = before ++ .wrote a :: after) : Counts (columns before) a := by
  obtain ⟨transition, attempts, startedAt, -, accepted⟩ := recorded before a after split_
  refine ⟨fun failed => ?_, fun other goes => ?_, fun other stops => ?_⟩
  · have decided := failed_decided recorded split_ failed
    split at decided
    next => rw [scheduled_columns decided]
    next =>
      obtain ⟨input, write, spent⟩ := decided
      simp only [Columns.after, write, spent]
  · obtain ⟨plain, because⟩ := plain_write other transition
    obtain ⟨input, write⟩ := goes
    rcases plain with ⟨input', same, none_⟩ | ⟨_, same⟩
    · refine ⟨?_, (because ⟨input, write⟩).imp id accepted⟩
      simp only [Columns.after, same, none_]
      exact ⟨rfl, rfl⟩
    · rw [write] at same
      cases same
  · obtain ⟨plain, -⟩ := plain_write other transition
    rcases plain with ⟨input, same, -⟩ | ⟨_, same⟩
    · exact absurd ⟨input, same⟩ stops
    · simp only [Columns.after, same]

/-- After a workflow is given up no claim of it writes. -/
theorem given_up_last {ledger before after : List Entry} (recorded : Recorded host ledger)
    (split_ : ledger = before ++ .wrote a :: after) (gives : a.GivesUp) (b : Attempt) : after.head? ≠ some (.wrote b) := by
  intro head
  obtain ⟨rest, rfl⟩ : ∃ rest, after = .wrote b :: rest := by
    cases after with
    | nil => cases head
    | cons first rest => cases head; exact ⟨rest, rfl⟩
  obtain ⟨-, -, -, live, -⟩ := recorded (before ++ [.wrote a]) b rest (by rw [split_, List.append_assoc]; rfl)
  obtain ⟨input, write⟩ := gives
  rw [columns_append] at live
  simp only [List.foldl_cons, List.foldl_nil, Columns.after, write] at live
  cases live

theorem split_series {series : List Attempt} {before rest : List Entry} {k : Nat} (here : series[k]? = some a) :
    before ++ (series.map Entry.wrote ++ rest) =
      (before ++ (series.take k).map .wrote) ++ .wrote a :: ((series.drop (k + 1)).map .wrote ++ rest) := by
  obtain ⟨short, rfl⟩ := List.getElem?_eq_some_iff.mp here
  have parts : series.map Entry.wrote =
      (series.take k).map .wrote ++ .wrote series[k] :: (series.drop (k + 1)).map .wrote := by
    rw [← List.map_cons, ← List.map_append, List.getElem_cons_drop, List.take_append_drop]
  rw [parts, List.append_assoc, List.append_assoc, List.cons_append]

/-- Before each failure of a series, the columns count those before it. -/
theorem series_columns {ledger before rest : List Entry} {series : List Attempt} (recorded : Recorded host ledger)
    (split_ : ledger = before ++ (series.map Entry.wrote ++ rest)) (reset : (columns before).Reset)
    (failing : ∀ a ∈ series, a.Failed) {first : Attempt} (begins : series.head? = some first) (k : Nat)
    (here : series[k]? = some a) :
    (columns (before ++ (series.take k).map .wrote)).attempts = k ∧
      ((columns (before ++ (series.take k).map .wrote)).startedAt).getD a.around.now = first.around.now := by
  induction k generalizing a with
  | zero =>
    rw [List.take_zero, List.map_nil, List.append_nil, reset.1, reset.2]
    rw [← List.head?_eq_getElem?, begins] at here
    cases here
    exact ⟨rfl, rfl⟩
  | succ k ih =>
    have short := (List.getElem?_eq_some_iff.mp here).1
    obtain ⟨b, previous⟩ : ∃ b, series[k]? = some b := ⟨_, List.getElem?_eq_getElem (Nat.lt_of_succ_lt short)⟩
    obtain ⟨counted, began⟩ := ih previous
    have place := split_.trans (split_series previous)
    have decided := failed_decided recorded place (failing b (List.mem_of_getElem? previous))
    rw [counted, began] at decided
    split at decided
    next =>
      have next_ : (series.take (k + 1)).map Entry.wrote = (series.take k).map .wrote ++ [.wrote b] := by
        rw [List.take_add_one, previous, List.map_append]
        rfl
      rw [next_, ← List.append_assoc, columns_append, List.foldl_cons, List.foldl_nil, scheduled_columns decided]
      exact ⟨rfl, rfl⟩
    next =>
      obtain ⟨input, write, -⟩ := decided
      refine absurd ?_ (given_up_last recorded place ⟨input, write⟩ a)
      rw [List.head?_append, List.head?_map, List.head?_drop, here]
      rfl

/-- Each failure of a series is retried or gives the workflow up, and one that is
    followed by another was retried. -/
theorem series_limited {ledger before rest : List Entry} {series : List Attempt} (recorded : Recorded host ledger)
    (split_ : ledger = before ++ (series.map Entry.wrote ++ rest)) (reset : (columns before).Reset)
    (failing : ∀ a ∈ series, a.Failed) : Limited series rest := by
  intro first begins k a here
  obtain ⟨counted, began⟩ := series_columns recorded split_ reset failing begins k here
  have place := split_.trans (split_series here)
  have decided := failed_decided recorded place (failing a (List.mem_of_getElem? here))
  rw [counted, began] at decided
  split at decided
  next going => rw [if_pos going]; exact decided
  next spent =>
    obtain ⟨input, write, -⟩ := decided
    have last := given_up_last recorded place ⟨input, write⟩
    have short := (List.getElem?_eq_some_iff.mp here).1
    have whole : k + 1 = series.length := by
      by_contra more
      obtain ⟨b, following⟩ : ∃ b, series[k + 1]? = some b := ⟨_, List.getElem?_eq_getElem (by omega)⟩
      refine absurd ?_ (last b)
      rw [List.head?_append, List.head?_map, List.head?_drop, following]
      rfl
    rw [whole, List.drop_length] at last
    rw [if_neg spent]
    exact ⟨⟨input, write⟩, whole, last⟩

end

/-! ### The ledger of a run -/

/-- The orchestrator, with the ledger of an operation. -/
structure Watched where
  system : State
  ledger : List Entry := []

section
variable (host : Host) (operationId : Uuid)

/-- What a step adds to the ledger. A write that the store accepted has published something. -/
def added (s t : State) : Action → List Entry
  | .write claim _ =>
    match find InFlight.claim claim s.inFlight with
    | some flight =>
      match flight.program with
      | .done write =>
        if flight.workflow.command.operationId = operationId ∧ s.store.db.outbox.length < t.store.db.outbox.length then
          [.wrote ⟨flight.around, flight.workflow, flight.past, write⟩]
        else []
      | _ => []
    | none => []
  | .outside _ =>
    match s.store.db.workflow operationId, t.store.db.workflow operationId with
    | some before, some after => if before.replayGeneration < after.replayGeneration then [.reopened] else []
    | _, _ => []
  | _ => []

def watch (s : Watched) (action : Action) : Option Watched :=
  (Orchestrator.next host s.system action).map fun t =>
    { system := t, ledger := s.ledger ++ added operationId s.system t action }

/-- The row of the operation agrees with the ledger. -/
structure Agrees (row : WorkflowRow) (c : Columns) : Prop where
  attempts : row.stageAttempt = c.attempts
  startedAt : row.retryStartedAt = c.startedAt
  ended : row.live → c.ended = false
  accepted : row.stage = .stage .accepted → c.Reset

/-- What the ledger of every run keeps. -/
structure Kept (s : Watched) : Prop where
  guarded : Guarded host s.system
  recorded : Recorded host s.ledger
  absent : s.system.store.db.workflow operationId = none → s.ledger = []
  row : ∀ row, s.system.store.db.workflow operationId = some row → Agrees row (columns s.ledger)

variable {host operationId}

theorem write_found {s t : State} {claim : Nat} {fresh : Nat → Uuid}
    (taken : Orchestrator.next host s (.write claim fresh) = some t) :
    ∃ flight write, find InFlight.claim claim s.inFlight = some flight ∧ flight.program = .done write ∧
      Fencing.next host s.store (storeCall fresh write) = some t.store := by
  obtain ⟨flight, found, written⟩ := Option.bind_eq_some_iff.mp taken
  split at written
  next write ends =>
    obtain ⟨store, stored, rfl⟩ := Option.map_eq_some_iff.mp written
    exact ⟨flight, write, found, ends, stored⟩
  next => cases written

/-- A row that was not there begins with nothing counted. -/
theorem first_row {s t : Fencing.State} {call : StoreCall} (taken : Fencing.next host s call = some t)
    (absent : s.db.workflow operationId = none) {row : WorkflowRow} (found : t.db.workflow operationId = some row) :
    Agrees row {} := by
  have none_ {P : Prop} (same : t.db.workflow operationId = none) : P := by
    rw [found] at same
    cases same
  have absent : find WorkflowRow.operationId operationId s.db.workflows = none := absent
  have updated {P : Prop} {id : Uuid} {rewrite : WorkflowRow → WorkflowRow}
      (same : t.db.workflows = update (fun w : WorkflowRow => w.operationId = id) rewrite s.db.workflows)
      (keeps : ∀ w, (rewrite w).operationId = w.operationId) : P :=
    none_ (by rw [WorkflowDb.workflow, same, find_update keeps, absent, Option.map_none])
  have new {command : LifecycleCommand} {generation : Nat} {resource : Option String} {now : Instant}
      (same : t.db.workflows = s.db.workflows ++ [newWorkflow command generation resource now]) : Agrees row {} := by
    rw [WorkflowDb.workflow, same, find_append, absent, Option.none_or] at found
    obtain rfl := List.mem_singleton.mp (find_mem found)
    exact ⟨rfl, rfl, fun _ => rfl, fun _ => ⟨rfl, rfl⟩⟩
  obtain ⟨called, -⟩ := called_next host taken
  generalize t.db = after at called none_ updated new
  cases called with
  | nothing => exact none_ absent
  | admitted admitted =>
    cases admitted with
    | duplicate | noted => exact none_ absent
    | started | introduced => exact new rfl
    | misidentified | unauthorized | conflicting =>
      obtain ⟨records, unchanged⟩ := rejectReplayCommand_same s.db _ _ _ s.now
      exact none_ (by rw [unchanged]; exact absent)
    | reopened => exact updated rfl fun _ => rfl
  | decided decided => cases decided <;> exact none_ absent
  | stored => exact none_ absent
  | claimed claim =>
    obtain ⟨leases, rfl⟩ := claim.frame
    exact updated rfl fun _ => rfl
  | checkpointed | completed | exhausted => exact updated rfl fun _ => rfl

/-- Where nothing happened yet, nothing is asked of the provider. -/
theorem accepted_unasked {workflow : ClaimedWorkflow} {call : ProviderCall} (accepted : workflow.stage = .accepted) :
    ¬ Transitions.Asks workflow call := by
  intro asks
  have outside : ∀ action : WorkflowAction, WorkflowStage.accepted ∉ mutationStages action ∧
      WorkflowStage.accepted ∉ pollingStages action ∧ WorkflowStage.accepted ∉ observingStages action := by
    intro action
    cases action <;> decide
  obtain ⟨mutation, polling, observing⟩ := outside workflow.command.data.action
  cases mutates : call.mutates with
  | true => exact mutation (accepted ▸ asks.stage mutates)
  | false =>
    rcases asks.reads mutates with ⟨stage, -⟩ | stage
    · exact polling (accepted ▸ stage)
    · exact observing (accepted ▸ stage)

theorem accepted_not_failed {a : Attempt} (accepted : a.workflow.stage = .accepted)
    (transition : Transition host a.around a.workflow a.past (.ok a.write)) : ¬ a.Failed := by
  rintro ⟨exchange, error, said, told, -⟩
  rw [said] at transition
  cases transition with
  | through executed => cases executed <;> exact accepted_unasked accepted (by assumption)
  | caught executed => cases executed; exact accepted_unasked accepted (by assumption)

/-- The row that a write leaves agrees with the ledger after it. -/
theorem agrees_write {row : WorkflowRow} {c : Columns} {a : Attempt} {now : Instant} (agrees : Agrees row c)
    (handed : Handed row a.workflow) (found : Found host c a) : Agrees (rewritten a.write now row) (c.after (.wrote a)) := by
  obtain ⟨moves, -⟩ := @rewritten_moves host row a.around a.workflow a.past a.write now found.transition handed
  have same : (rewritten a.write now row).stage = .stage .accepted → a.workflow.stage = .accepted := by
    intro accepted
    rw [accepted, handed.stage] at moves
    rcases moves with stays | moves
    · exact (PersistedStage.stage.inj stays).symm
    · have later := moves_position (commanded _) moves
      exact absurd later (Nat.not_lt_zero _)
  have plain := fun accepted => plain_write (accepted_not_failed accepted found.transition) found.transition
  obtain ⟨around, workflow, past, write⟩ := a
  cases write with
  | checkpoint input =>
    refine ⟨rfl, rfl, fun _ => rfl, fun accepted => ?_⟩
    obtain ⟨⟨input', same, none_⟩ | ⟨_, same⟩, -⟩ := plain (same accepted)
    · cases same
      simp only [Columns.Reset, Columns.after, none_]
      exact ⟨rfl, rfl⟩
    · cases same
  | complete input =>
    refine ⟨agrees.attempts, agrees.startedAt, fun live => ?_, fun accepted => ?_⟩
    · cases status : input.status <;> simp [rewritten, completedRow, WorkflowRow.live, status, FinalStatus.status] at live
    · cases status : input.status <;> simp [rewritten, completedRow, status, FinalStatus.stage] at accepted
  | deadLetterWorkflow input =>
    refine ⟨rfl, agrees.startedAt, fun live => ?_, fun accepted => ?_⟩
    · rcases live with live | live <;> cases live
    · cases accepted

/-- A step that adds nothing to the ledger keeps it. -/
theorem kept_quiet {s : Watched} {t : State} (kept : Kept host operationId s) (guarded : Guarded host t)
    (absent : t.store.db.workflow operationId = none → s.system.store.db.workflow operationId = none)
    (rows : ∀ row, t.store.db.workflow operationId = some row → Agrees row (columns s.ledger)) :
    Kept host operationId { system := t, ledger := s.ledger ++ [] } := by
  rw [List.append_nil]
  exact ⟨guarded, kept.recorded, fun none_ => kept.absent (absent none_), rows⟩

theorem found_none {rows : Option WorkflowRow} {row : WorkflowRow} {P : Prop} (found : rows = some row) (none_ : rows = none) :
    P := by
  rw [found] at none_
  cases none_

/-- While there is no row, no claim of the operation writes. -/
theorem kept_absent {s : Watched} {t : State} {action : Action} (kept : Kept host operationId s)
    (taken : Orchestrator.next host s.system action = some t)
    (absent : s.system.store.db.workflow operationId = none) :
    Kept host operationId { system := t, ledger := s.ledger ++ added operationId s.system t action } := by
  have quiet : added operationId s.system t action = [] := by
    cases action with
    | outside call => simp only [added, absent]
    | write claim fresh =>
      obtain ⟨flight, write, found, ends, -⟩ := write_found taken
      have elsewhere : flight.workflow.command.operationId ≠ operationId := by
        rintro rfl
        obtain ⟨row, there, -⟩ := (kept.guarded.flights flight (find_mem found)).row
        exact found_none there absent
      simp only [added, found, ends, elsewhere, false_and, if_false]
    | _ => rfl
  rw [quiet]
  refine kept_quiet kept (guarded_next kept.guarded taken) (fun _ => absent) fun row there => ?_
  rw [kept.absent absent]
  have same {P : Prop} (store : t.store = s.system.store) : P := found_none (store ▸ there) absent
  cases steps_next taken with
  | outside call _ stored => exact first_row stored absent there
  | claim _ _ _ _ _ _ _ _ stored => exact first_row stored absent there
  | write _ _ _ _ _ stored => exact first_row stored absent there
  | send _ _ _ _ _ same_ => exact same (by rw [same_])
  | receive _ _ _ _ _ _ same_ => exact same (by rw [same_])
  | crash _ same_ => exact same (by rw [same_])

/-- The write of a claim is added to the ledger when the store accepts it. -/
theorem kept_write {s : Watched} {t : State} {claim : Nat} {fresh : Nat → Uuid} {row : WorkflowRow}
    (kept : Kept host operationId s) (taken : Orchestrator.next host s.system (.write claim fresh) = some t)
    (found : s.system.store.db.workflow operationId = some row) :
    Kept host operationId { system := t, ledger := s.ledger ++ added operationId s.system t (.write claim fresh) } := by
  obtain ⟨flight, write, there, ends, stored⟩ := write_found taken
  have member := find_mem there
  obtain rfl := find_key there
  have guarded := kept.guarded
  by_cases own : flight.workflow.command.operationId = operationId
  · rcases write_own guarded member ends stored found taken own with unchanged | ⟨grown, handed, after⟩
    · have quiet : added operationId s.system t (.write flight.claim fresh) = [] := by
        simp [added, there, ends, unchanged]
      rw [quiet]
      refine kept_quiet kept (guarded_next guarded taken) (fun none_ => unchanged ▸ none_) fun later here => ?_
      exact kept.row later (unchanged ▸ here)
    · let a : Attempt := ⟨flight.around, flight.workflow, flight.past, write⟩
      have wrote : added operationId s.system t (.write flight.claim fresh) = [.wrote a] := by
        simp only [added, there, ends, own, grown, and_self, if_true, a]
      have agrees := kept.row row found
      have claimed : Found host (columns s.ledger) a := by
        obtain ⟨live, stage, reached, same⟩ := handed
        refine ⟨((guarded.flights flight member).fence ends).1, ?_, ?_, agrees.ended live, fun accepted => ?_⟩
        · simp only [a, same]; exact agrees.attempts
        · simp only [a, same]; exact agrees.startedAt
        · simp only [a, same] at accepted
          exact agrees.accepted (reached.trans (congrArg PersistedStage.stage accepted))
      rw [wrote]
      refine ⟨guarded_next guarded taken, recorded_append kept.recorded fun b same => by cases same; exact claimed,
        fun none_ => found_none after none_, fun later here => ?_⟩
      obtain rfl : rewritten write s.system.store.now row = later := Option.some.inj (after.symm.trans here)
      rw [columns_append]
      exact agrees_write agrees handed claimed
  · have quiet : added operationId s.system t (.write flight.claim fresh) = [] := by
      simp only [added, there, ends, own, false_and, if_false]
    have same := write_other guarded member ends stored found own
    rw [quiet]
    refine kept_quiet kept (guarded_next guarded taken) (fun none_ => found_none same none_) fun later here => ?_
    obtain rfl : row = later := Option.some.inj (same.symm.trans here)
    exact kept.row row found

/-- Every step keeps the ledger. -/
theorem kept_next {s t : Watched} {action : Action} (kept : Kept host operationId s)
    (taken : watch host operationId s action = some t) : Kept host operationId t := by
  obtain ⟨system, went, rfl⟩ := Option.map_eq_some_iff.mp taken
  have guarded := guarded_next kept.guarded went
  cases found : s.system.store.db.workflow operationId with
  | none => exact kept_absent kept went found
  | some row =>
    obtain ⟨later, there, step⟩ := row_step kept.guarded went found
    have agrees := kept.row row found
    have settled (after : Columns) (same : after = columns s.ledger) (still : Agrees later after) :
        Kept host operationId { system := system, ledger := s.ledger ++ [] } := by
      refine kept_quiet kept guarded (fun none_ => found_none there none_) fun other here => ?_
      obtain rfl : later = other := Option.some.inj (there.symm.trans here)
      exact same ▸ still
    cases action with
    | write claim fresh => exact kept_write kept went found
    | outside call =>
      cases step with
      | kept =>
        have quiet : added operationId s.system system (.outside call) = [] := by
          simp [added, found, there]
        rw [quiet]
        exact settled _ rfl agrees
      | @reopened fresh command delivery own failed sameEvent =>
        have stored : Fencing.next host s.system.store (.admitCommand fresh command delivery) = some system.store := by
          cases steps_next went with
          | outside _ _ stored => exact stored
        obtain rfl := find_key found
        have newer := reopened_generation stored found own failed there
        have wrote : added row.operationId s.system system (.outside (.admitCommand fresh command delivery)) = [.reopened] := by
          simp only [added, found, there]
          exact if_pos newer
        rw [wrote]
        refine ⟨guarded, recorded_append kept.recorded fun a other => Entry.noConfusion other, fun none_ => found_none there none_, fun other here => ?_⟩
        obtain rfl := Option.some.inj (there.symm.trans here)
        rw [columns_append]
        exact ⟨rfl, rfl, fun _ => rfl, fun _ => ⟨rfl, rfl⟩⟩
    | claim =>
      cases step with
      | kept => exact settled _ rfl agrees
      | claimed live newer =>
        exact settled _ rfl ⟨agrees.attempts, agrees.startedAt, fun _ => agrees.ended live, agrees.accepted⟩
    | send | receive | crash =>
      cases step with
      | kept => exact settled _ rfl agrees

end

/-- The retries of every run: a series of failures that may be retried is retried at
    most seven times, each time within its ceiling and its budget, and its eighth failure
    or one after the budget gives the workflow up; the columns are reset exactly when
    the workflow goes on because it was answered, and when it is reopened. -/
theorem retry_policy {host : Host} {operationId : Uuid} {now : Instant} {s : Watched}
    (run : Reaches (watch host operationId) Anything { system := initial now } s) :
    (∀ row, s.system.store.db.workflow operationId = some row →
      row.stageAttempt = (columns s.ledger).attempts ∧ row.retryStartedAt = (columns s.ledger).startedAt) ∧
    (∀ before series rest, s.ledger = before ++ (series.map Entry.wrote ++ rest) → (columns before).Reset →
      (∀ a ∈ series, a.Failed) → Limited series rest) ∧
    ∀ before a rest, s.ledger = before ++ .wrote a :: rest → Counts (columns before) a := by
  have kept := reaches_invariant (Kept host operationId) (fun _ _ _ kept _ taken => kept_next kept taken) run
    ⟨guarded_initial now, fun before _ _ split_ => absurd split_ (by simp), fun _ => rfl,
      fun row found => found_none found rfl⟩
  refine ⟨fun row found => ⟨(kept.row row found).attempts, (kept.row row found).startedAt⟩, ?_, ?_⟩
  · exact fun before series rest split_ reset failing => series_limited kept.recorded split_ reset failing
  · exact fun before a rest split_ => counts_recorded kept.recorded split_

/-! ### Sample runs -/

/-- A claim whose call fails, at some moment. -/
def failedClaim (claim : Nat) (now : Instant) (error : ProviderTransportError) : List Action :=
  [.claim "worker" 30 .createInstance (fun _ => false) ⟨"worker", now, 0, 0, 0, fun _ => ""⟩, .send claim,
    .receive claim fun _ => .error error, .write claim fun _ => ""]

/-- A creation whose observation fails once and then proves the instance. -/
def sampleObserved : List Action :=
  sampleAdmission 0 sampleCreate :: silentClaim 0 .createInstance ++
    (answeredClaim 1 .createInstance sampleObservation ++ (answeredClaim 2 .createInstance sampleObservation ++
    (answeredClaim 3 .createInstance sampleObservation ++ (failedClaim 4 0 ⟨.unavailable, "", true⟩ ++
    answeredClaim 5 .createInstance sampleObservation))))

/-- A creation whose submission is retried, and fails again when the budget is over. -/
def sampleSubmitted : List Action :=
  sampleAdmission 0 sampleCreate :: silentClaim 0 .createInstance ++
    (failedClaim 1 0 ⟨.protocolError, "", true⟩ ++ failedClaim 2 900000 ⟨.unavailable, "", true⟩)

/-- The failure that an attempt was told. -/
def Attempt.failure (a : Attempt) : Option ProviderTransportError :=
  match a.past.map reply with
  | [.failed error] => some error
  | _ => none

theorem failure_told {a : Attempt} {error : ProviderTransportError} (told : a.failure = some error) :
    ∃ exchange, a.past = [exchange] ∧ reply exchange = .failed error := by
  unfold Attempt.failure at told
  split at told
  next said =>
    cases told
    obtain ⟨exchange, same, failed⟩ := List.map_eq_singleton_iff.mp said
    exact ⟨exchange, same, failed⟩
  next => cases told

/-- The attempt at a place of the ledger. -/
def wroteAt (ledger : List Entry) (k : Nat) : Option Attempt :=
  match ledger[k]? with
  | some (.wrote a) => some a
  | _ => none

theorem wroteAt_some {ledger : List Entry} {k : Nat} {a : Attempt} (found : wroteAt ledger k = some a) :
    ledger[k]? = some (.wrote a) := by
  unfold wroteAt at found
  split at found
  next here => cases found; exact here
  next => cases found

/-- A failure that is counted, and an answer that ends the workflow after it. -/
def observes (s : Watched) : Bool :=
  s.ledger.length = 6 && columns (s.ledger.take 4) = {} && columns s.ledger = ⟨1, some 0, true⟩ &&
    ((wroteAt s.ledger 4).any fun a => a.failure.any (·.retryable) && a.workflow.stage = .observing) &&
    (wroteAt s.ledger 5).any fun a => a.past.length = 1 && a.failure.isNone

theorem sampleObserved_run : ∃ s, Reaches (watch sampleHost sampleCreate.operationId) Anything { system := initial 0 } s ∧
    observes s = true := by
  have checked : (execute (watch sampleHost sampleCreate.operationId) { system := initial 0 } sampleObserved).any observes := by
    decide +kernel
  obtain ⟨s, executed, found⟩ := (Option.any_eq_true _ _).mp checked
  exact ⟨s, reaches_execute (meets_anything _ _) executed, found⟩

theorem retry_policy_sample : ∃ (s : Watched) (a : Attempt),
    s.ledger[4]? = some (.wrote a) ∧ a.Failed ∧ Limited [a] (s.ledger.drop 5) := by
  obtain ⟨s, run, found⟩ := sampleObserved_run
  simp only [observes, Bool.and_eq_true, decide_eq_true_eq, Option.any_eq_true] at found
  obtain ⟨⟨⟨⟨-, reset⟩, -⟩, a, here, ⟨error, told, retryable⟩, stage⟩, -⟩ := found
  obtain ⟨exchange, said, failed⟩ := failure_told told
  have fails : a.Failed := ⟨exchange, error, said, failed, retryable, fun mutation => by
    rw [stage] at mutation
    cases action : a.workflow.action <;> rw [action] at mutation <;> exact absurd mutation (by decide)⟩
  have here := wroteAt_some here
  refine ⟨s, a, here, fails, (retry_policy run).2.1 (s.ledger.take 4) [a] _ ?_ (reset ▸ ⟨rfl, rfl⟩) fun b member => ?_⟩
  · obtain ⟨short, same⟩ := List.getElem?_eq_some_iff.mp here
    rw [List.map_singleton, List.singleton_append, ← same, List.getElem_cons_drop, List.take_append_drop]
  · exact List.mem_singleton.mp member ▸ fails

/-- A retryable failure after the budget of its series that does not give the workflow up. -/
def declines (s : Watched) : Bool :=
  columns (s.ledger.take 2) = ⟨1, some 0, false⟩ &&
    (wroteAt s.ledger 2).any fun a => a.failure.any (·.retryable) && a.around.now = 15 * 60 * 1000 &&
      match a.write with
      | .deadLetterWorkflow _ => false
      | _ => true

/-- An answer that ends the workflow leaves the columns of its failures, and where the
    provider may have acted only a protocol error is retried or given up. -/
theorem policy_departs :
    (∃ (s : Watched) (a : Attempt),
      Reaches (watch sampleHost sampleCreate.operationId) Anything { system := initial 0 } s ∧
      s.ledger[5]? = some (.wrote a) ∧ a.Answered ∧ (columns s.ledger).attempts = 1) ∧
    ∃ (s : Watched) (a : Attempt) (error : ProviderTransportError),
      Reaches (watch sampleHost sampleCreate.operationId) Anything { system := initial 0 } s ∧
      s.ledger[2]? = some (.wrote a) ∧ a.failure = some error ∧ error.retryable = true ∧
      columns (s.ledger.take 2) = ⟨1, some 0, false⟩ ∧ a.around.now = 15 * 60 * 1000 ∧ ¬ a.GivesUp := by
  constructor
  · obtain ⟨s, run, found⟩ := sampleObserved_run
    simp only [observes, Bool.and_eq_true, decide_eq_true_eq, Option.any_eq_true, List.length_eq_one_iff,
      Option.isNone_iff_eq_none] at found
    obtain ⟨⟨⟨-, counted⟩, -⟩, a, here, ⟨exchange, said⟩, silent⟩ := found
    refine ⟨s, a, run, wroteAt_some here, ⟨exchange, said, fun error failed => ?_⟩, by rw [counted]⟩
    simp [Attempt.failure, said, failed] at silent
  · have checked : (execute (watch sampleHost sampleCreate.operationId) { system := initial 0 } sampleSubmitted).any declines := by
      decide +kernel
    obtain ⟨s, executed, found⟩ := (Option.any_eq_true _ _).mp checked
    simp only [declines, Bool.and_eq_true, decide_eq_true_eq, Option.any_eq_true] at found
    obtain ⟨counted, a, here, ⟨⟨error, told, retryable⟩, late⟩, other⟩ := found
    refine ⟨s, a, error, reaches_execute (meets_anything _ _) executed, wroteAt_some here, told, retryable, counted, late, ?_⟩
    rintro ⟨input, write⟩
    rw [write] at other
    cases other

end ControlPlane.RetryPolicy
