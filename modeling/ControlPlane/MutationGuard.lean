import ControlPlane.PurgeWindow

/-!
One mutating workflow for each instance. The guard of an acceptance reads the
operation that holds the instance, in the schema of the control plane; the
workflows that it keeps apart are in the schema of the orchestrator. Without a
replay every live workflow holds its instance. A replay reopens a workflow whose
instance was given back when it failed.
-/
namespace ControlPlane.MutationGuard
open ControlPlane.Tables ControlPlane.Runs ControlPlane.Domain ControlPlane.Commands ControlPlane.EventValidation
open ControlPlane.WorkflowSchema ControlPlane.WorkflowStore ControlPlane.StoreRules ControlPlane.ControlSchema
open ControlPlane.Acceptance ControlPlane.AcceptanceRules ControlPlane.CommandConsumer ControlPlane.Rejections
open ControlPlane.Exclusion ControlPlane.Orchestrator
open ControlPlane.Fencing (StoreCall Called called_next)

/-! ### Generations -/

section
variable {host : Host}

/-- A workflow has the generation it had, or that of the delivery that is being
    admitted; a replay is admitted once. -/
theorem generation_from {s : Fencing.State} {call : StoreCall} {after : WorkflowDb} (called : Called host s call after)
    {row : WorkflowRow} (member : row ∈ after.workflows) :
    (∃ old ∈ s.db.workflows, row.replayGeneration = old.replayGeneration) ∨
      ∃ fresh command delivery, call = .admitCommand fresh command delivery ∧
        row.replayGeneration = delivery.replayGeneration ∧
        s.db.receipt command.eventId delivery.replayGeneration = none := by
  have rewritten {op : Uuid} (rewrite : WorkflowRow → WorkflowRow)
      (keeps : ∀ w, (rewrite w).replayGeneration = w.replayGeneration)
      (present : row ∈ (updateWorkflow s.db op rewrite).workflows) :
      ∃ old ∈ s.db.workflows, row.replayGeneration = old.replayGeneration := by
    obtain ⟨old, there, ⟨-, rfl⟩ | ⟨-, rfl⟩⟩ := mem_update.mp present
    · exact ⟨old, there, keeps old⟩
    · exact ⟨row, there, rfl⟩
  cases called with
  | nothing => exact .inl ⟨row, member, rfl⟩
  | @admitted fresh command delivery _ _ admitted =>
    cases admitted with
    | duplicate | noted => exact .inl ⟨row, member, rfl⟩
    | misidentified | unauthorized | conflicting =>
      obtain ⟨records, same⟩ := rejectReplayCommand_same s.db delivery _ _ s.now
      rw [same] at member
      exact .inl ⟨row, member, rfl⟩
    | started _ _ unseen =>
      rcases List.mem_append.mp member with old | new
      · exact .inl ⟨row, old, rfl⟩
      · exact .inr ⟨fresh, command, delivery, rfl, by rw [List.mem_singleton.mp new]; rfl, unseen⟩
    | reopened _ _ _ unseen =>
      obtain ⟨old, there, ⟨-, rfl⟩ | ⟨-, rfl⟩⟩ := mem_update.mp member
      · exact .inr ⟨fresh, command, delivery, rfl, rfl, unseen⟩
      · exact .inl ⟨row, there, rfl⟩
    | introduced _ _ unseen =>
      rcases List.mem_append.mp member with old | new
      · exact .inl ⟨row, old, rfl⟩
      · exact .inr ⟨fresh, command, delivery, rfl, by rw [List.mem_singleton.mp new]; rfl, unseen⟩
  | decided decided => cases decided <;> exact .inl ⟨row, member, rfl⟩
  | stored => exact .inl ⟨row, member, rfl⟩
  | claimed claim =>
    obtain ⟨leases, rfl⟩ := claim.frame
    exact .inl (rewritten (claimedRow _) (fun _ => rfl) member)
  | @checkpointed _ input => exact .inl (rewritten (checkpointRow input s.now) (fun _ => rfl) member)
  | @completed _ input => exact .inl (rewritten (completedRow input s.now) (fun _ => rfl) member)
  | @exhausted _ input => exact .inl (rewritten (deadLetteredRow input s.now) (fun _ => rfl) member)

/-! ### The guard -/

/-- No replay that was not received before is delivered. -/
def Unreplayed (s : Platform.State) (action : Platform.Action) : Prop := ∀ command, ¬ Readmits s command action

/-- An instance has one live workflow, which holds it, and while it has one no
    further command is accepted for it. -/
structure OneWorkflow (host : Host) (s : Platform.State) : Prop where
  alone : ∀ w ∈ s.workflows, ∀ other ∈ s.workflows, w.live → other.live →
    w.command.aggregateId = other.command.aggregateId → w = other
  held : ∀ w ∈ s.workflows, w.live → holder s w.command.aggregateId = some w.operationId
  closed : ∀ w ∈ s.workflows, w.live → ∀ draws request requestHash t,
    Platform.next host s (.accept draws request requestHash) = some t → ∀ command, Queued t.control.db command →
      command.aggregateId = w.command.aggregateId → Queued s.control.db command

/-- No workflow was replayed, and the open operations are exclusive. -/
structure Guarded (host : Host) (s : Platform.State) : Prop where
  exclusive : Exclusive host s
  original : ∀ w ∈ s.workflows, w.replayGeneration = 0

section
variable {s t : Platform.State}

theorem Guarded.untouched (guarded : Guarded host s) (operationId : Uuid) : ¬ Replayed s operationId := by
  rintro ⟨w, member, -, again⟩
  exact again (guarded.original w member)

theorem Guarded.apart (guarded : Guarded host s) {action : Platform.Action} (fresh : Unreplayed s action) :
    Apart s action := by
  cases action with
  | accept draws request requestHash => exact fun _ _ _ operationId _ => guarded.untouched operationId
  | consume | administer | project | work => exact fun command again => absurd again (fresh command)

theorem original_next {action : Platform.Action} (guarded : Guarded host s) (fresh : Unreplayed s action)
    (taken : Platform.next host s action = some t) : ∀ w ∈ t.workflows, w.replayGeneration = 0 := by
  intro w member
  rcases Platform.orchestrator_next taken with same | ⟨-, act, works, stepped⟩
  · exact guarded.original w (by rw [Platform.State.workflows, ← same]; exact member)
  -- What a call of the store leaves is as it was, or the workflow of the command being admitted.
  have called {call : StoreCall} (stored : Fencing.next host s.orchestrator.store call = some t.orchestrator.store)
      (admits : ∀ fresh command delivery, call = .admitCommand fresh command delivery →
        s.orchestrator.store.db.receipt command.eventId delivery.replayGeneration = none → delivery.replayGeneration = 0) :
      w.replayGeneration = 0 := by
    rcases generation_from (called_next host stored).1 member with ⟨old, there, same⟩ | ⟨_, _, _, rfl, same, unseen⟩
    · exact same.trans (guarded.original old there)
    · exact same.trans (admits _ _ _ rfl unseen)
  cases Orchestrator.steps_next stepped with
  | outside call _ stored =>
    refine called stored fun drawn command delivery same unseen => ?_
    subst same
    cases works with
    | command index partition offset drawn attempts row found command narrowed =>
      by_contra replay
      exact fresh command ⟨row, found, (ingress_admits narrowed).1, replay, unseen⟩
    | other _ _ noCommand => exact absurd rfl (noCommand _ _ _)
  | claim _ _ _ _ _ _ _ _ stored => exact called stored (by intro _ _ _ same; cases same)
  | write _ _ _ write _ stored =>
    refine called stored fun drawn command delivery same => ?_
    cases write <;> cases same
  | send _ _ _ _ _ same =>
    rw [Platform.State.workflows, same] at member
    exact guarded.original w member
  | receive _ _ _ _ _ _ same =>
    rw [Platform.State.workflows, same] at member
    exact guarded.original w member
  | crash _ same =>
    rw [Platform.State.workflows, same] at member
    exact guarded.original w member

theorem guarded_run {catalog : Catalog} {began : Instant}
    (run : Reaches (Platform.next host) Unreplayed (Platform.initial catalog began) s) : Guarded host s := by
  refine reaches_invariant (Guarded host) (fun _ _ _ guarded fresh taken => ?_) run
    ⟨exclusive_initial catalog began, fun _ impossible => absurd impossible List.not_mem_nil⟩
  exact ⟨exclusive_next guarded.exclusive (guarded.apart fresh) taken, original_next guarded fresh taken⟩

/-- The operation of a live workflow is open. -/
theorem Guarded.open_ (guarded : Guarded host s) {w : WorkflowRow} (member : w ∈ s.workflows) (live : w.live) :
    Open s w.command.aggregateId w.operationId := by
  obtain ⟨original, queued, copies⟩ := guarded.exclusive.accountable.copied w.command (.workflow w member rfl)
  have own := guarded.exclusive.accountable.guarded.covered.operations
  refine ⟨⟨original, queued, copies.aggregate.symm, ?_⟩, .inl fun other there same => ?_⟩
  · exact copies.operation.symm.trans (guarded.exclusive.accountable.guarded.identified w member)
  · rw [own.eq_of_key there member same]
    exact live

/-- An acceptance for an instance that is held creates nothing. -/
theorem held_closed {draws : Draws} {request : Request} {requestHash : String} {instanceId operationId : Uuid}
    (taken : Platform.next host s (.accept draws request requestHash) = some t)
    (held : holder s instanceId = some operationId) {command : LifecycleCommand} (queued : Queued t.control.db command)
    (about : command.aggregateId = instanceId) : Queued s.control.db command := by
  cases Lifecycle.does_next (Platform.controlled_control taken) with
  | nothing _ same => exact same ▸ queued
  | accepted _ _ _ _ _ effects =>
    cases effects_takes effects with
    | nothing _ queue => exact (queue command).mp queued
    | taken new _ free queue =>
      rcases (queue command).mp queued with old | rfl
      · exact old
      · subst about
        rcases free with absent | ⟨-, idle⟩
        · rw [holder, holderOf, absent] at held
          cases held
        · cases held.symm.trans idle

/-- In every run in which no replay is admitted an instance has one live
    workflow at a time, and it holds the instance. -/
theorem one_workflow (host : Host) (catalog : Catalog) (began : Instant) {s : Platform.State}
    (run : Reaches (Platform.next host) Unreplayed (Platform.initial catalog began) s) : OneWorkflow host s := by
  have guarded := guarded_run run
  have held {w : WorkflowRow} (member : w ∈ s.workflows) (live : w.live) :
      holder s w.command.aggregateId = some w.operationId :=
    guarded.exclusive.held _ _ (guarded.open_ member live) (guarded.untouched _)
  constructor
  · intro w member other there live also same
    have operation := guarded.exclusive.single _ _ _ (guarded.open_ member live) (same ▸ guarded.open_ there also)
    exact guarded.exclusive.accountable.guarded.covered.operations.eq_of_key member there operation
  · exact fun w member live => held member live
  · intro w member live draws request requestHash t taken command queued about
    exact held_closed taken (held member live) queued about

end

end

/-! ### A creation that is running, and one that is replayed beside a retention -/

theorem unreplayed_of_check {s : Platform.State} {action : Platform.Action}
    (fresh : PurgeWindow.unreplayed s action = true) : Unreplayed s action := by
  cases action with
  | accept | administer | project | work => exact fun _ impossible => impossible
  | consume index partition offset drawn attempts =>
    rintro command ⟨row, found, -, replay, -⟩
    rw [PurgeWindow.unreplayed, found, Option.all_some] at fresh
    exact absurd (of_decide_eq_true fresh) replay

theorem one_workflow_sample : ∃ s,
    execute (Platform.next sampleHost) (Platform.initial Lifecycle.sampleCatalog 0) Operations.sampleStarted = some s ∧
    (∃ w ∈ s.workflows, w.live ∧ w.command.aggregateId = sampleCreate.aggregateId) ∧ OneWorkflow sampleHost s := by
  have passed : (tested (Platform.next sampleHost) PurgeWindow.unreplayed (Platform.initial Lifecycle.sampleCatalog 0)
      Operations.sampleStarted).any (fun s => s.workflows.any fun w =>
        decide (w.live ∧ w.command.aggregateId = sampleCreate.aggregateId)) = true := by decide +kernel
  obtain ⟨s, reached, holds⟩ := (Option.any_eq_true _ _).mp passed
  obtain ⟨w, member, live⟩ := List.any_eq_true.mp holds
  have run : Reaches (Platform.next sampleHost) Unreplayed (Platform.initial Lifecycle.sampleCatalog 0) s :=
    reaches_tested (fun _ _ => unreplayed_of_check) reached
  exact ⟨s, execute_tested reached, ⟨w, member, of_decide_eq_true live⟩,
    one_workflow sampleHost Lifecycle.sampleCatalog 0 run⟩

/-- The sample creation fails, its instance is retained, and while the retention
    is on its way the creation is replayed. -/
def sampleBeside : List Platform.Action :=
  Operations.sampleExhausted ++ (requests (Lifecycle.acceptSampleMutation 1000 sampleRetention .retention) ++
    [Operations.sampleConsumption 1 "", Operations.sampleReplayRequest,
      Operations.sampleConsumption 2 "00000000-0000-4000-8000-000000000123",
      Operations.sampleConsumption 3 "00000000-0000-4000-8000-000000000124"])

/-- Two workflows of an instance are live at once. -/
theorem two_workflows : ¬ ∀ (host : Host) (catalog : Catalog) (began : Instant) (s : Platform.State),
    Reaches (Platform.next host) Anything (Platform.initial catalog began) s → OneWorkflow host s := by
  intro every
  have passed : (execute (Platform.next sampleHost) (Platform.initial Lifecycle.sampleCatalog 0) sampleBeside).any
      (fun s => s.workflows.any fun w => s.workflows.any fun other => decide (w.live ∧ other.live ∧
        w.command.aggregateId = other.command.aggregateId ∧ w.operationId ≠ other.operationId)) = true := by decide +kernel
  obtain ⟨s, reached, holds⟩ := (Option.any_eq_true _ _).mp passed
  obtain ⟨w, member, rest⟩ := List.any_eq_true.mp holds
  obtain ⟨other, there, both⟩ := List.any_eq_true.mp rest
  obtain ⟨live, also, same, apart⟩ := of_decide_eq_true both
  have one := every sampleHost Lifecycle.sampleCatalog 0 s (reaches_execute (meets_anything _ _) reached)
  exact apart (congrArg WorkflowRow.operationId (one.alone w member other there live also same))

end ControlPlane.MutationGuard
