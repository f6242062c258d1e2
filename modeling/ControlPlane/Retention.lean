import ControlPlane.Lifecycle

/-!
Soft delete over every run of the control plane: what a tenant may still have
accepted for an instance after it was retained. The guard of the acceptance reads
the lifecycle only, and the outcome of a purge rewrites it.
-/
namespace ControlPlane.Retention
open ControlPlane.Runs ControlPlane.Domain ControlPlane.Tables ControlPlane.Commands ControlPlane.WorkflowSchema
open ControlPlane.ControlSchema ControlPlane.Acceptance ControlPlane.ProjectionStore ControlPlane.AcceptanceRules
open ControlPlane.Lifecycle ControlPlane.EventValidation

/-- The completion of a retention. -/
def retains (event : WorkflowEvent) : Bool :=
  match event.data with
  | .completed action lifecycleState _ _ _ => action = .retainInstance && lifecycleState = .retained
  | _ => false

/-- A retention of the instance has completed. -/
def Retained (history : List Entry) (instanceId : Uuid) : Prop :=
  ∃ event, .projected event ∈ history ∧ event.aggregateId = instanceId ∧ retains event = true

/-- No tenant's request is accepted for an instance after it was retained. -/
def Irrevocable (history : List Entry) : Prop :=
  ∀ before after request operationId instanceId, history = before ++ .accepted request operationId :: after →
    request.mutates = some instanceId → ¬ Retained before instanceId

/-- No retained instance is reopened by the end of an operation. -/
def Shut (s : State) : Action → Prop
  | .project event _ _ => Retained s.history event.aggregateId → reopens event.data = false
  | _ => True

/-- What every step keeps that reopens no retained instance. -/
structure Closed (s : State) : Prop where
  instances : Keyed InstanceRow.id s.db.instances
  closed : ∀ row ∈ s.db.instances, Retained s.history row.id → mutableLifecycleState row.lifecycleState = false
  irrevocable : Irrevocable s.history

/-! ### Histories -/

theorem not_retained_nil (instanceId : Uuid) : ¬ Retained [] instanceId := by
  rintro ⟨_, member, _⟩
  cases member

/-- An acceptance retains nothing. -/
theorem retained_accepted {history : List Entry} {request : Request} {operationId instanceId : Uuid} :
    Retained (history ++ [.accepted request operationId]) instanceId ↔ Retained history instanceId := by
  simp [Retained]

/-- A projected event retains the instance it is about, or none. -/
theorem retained_projected {history : List Entry} {event : WorkflowEvent} {instanceId : Uuid} :
    Retained (history ++ [.projected event]) instanceId ↔
      Retained history instanceId ∨ (event.aggregateId = instanceId ∧ retains event = true) := by
  constructor
  · rintro ⟨other, member, about, completes⟩
    rcases List.mem_append.mp member with old | new
    · exact .inl ⟨other, old, about, completes⟩
    · cases List.mem_singleton.mp new
      exact .inr ⟨about, completes⟩
  · rintro (⟨other, member, about, completes⟩ | ⟨about, completes⟩)
    · exact ⟨other, List.mem_append_left _ member, about, completes⟩
    · exact ⟨event, List.mem_append_right _ List.mem_cons_self, about, completes⟩

/-- A history grows by a projection, or by an acceptance that respects it. -/
theorem irrevocable_append {history : List Entry} {entry : Entry} (irrevocable : Irrevocable history)
    (respects : ∀ request operationId instanceId, entry = .accepted request operationId →
      request.mutates = some instanceId → ¬ Retained history instanceId) : Irrevocable (history ++ [entry]) := by
  intro before after request operationId instanceId split asks
  rcases List.eq_nil_or_concat after with rfl | ⟨rest, last, rfl⟩
  · obtain ⟨rfl, same⟩ := List.append_inj' split rfl
    exact respects request operationId instanceId (List.cons.inj same).1 asks
  · rw [List.concat_eq_append, ← List.cons_append, ← List.append_assoc] at split
    exact irrevocable before rest request operationId instanceId (List.append_inj' split rfl).1 asks

/-- The completion of a retention closes its instance. -/
theorem retains_closes {event : WorkflowEvent} (completes : retains event = true) (row : InstanceRow) :
    mutableLifecycleState (projectedInstance event row).lifecycleState = false := by
  unfold retains at completes
  split at completes
  next action lifecycleState resource evidence observed data =>
    simp only [Bool.and_eq_true, decide_eq_true_eq] at completes
    simp only [projectedInstance, data, completedInstance, completes.2]
    rfl
  next => cases completes

/-! ### Steps and runs -/

section
variable {host : Host} {s t : State} {action : Action}

/-- A tenant's request is accepted for instances that are open. -/
theorem accepted_open {db after : ControlDb} {answer : AcceptedMutation} {request : Request} {instanceId : Uuid}
    (accepted : Accepted db after answer request) (first : answer.replayed = false)
    (asks : request.mutates = some instanceId) :
    ∃ row ∈ db.instances, row.id = instanceId ∧ mutableLifecycleState row.lifecycleState = true := by
  cases accepted with
  | replayed _ _ again => rw [again] at first; cases first
  | create => cases asks
  | tenant _ row _ _ _ same open_ taken =>
    exact ⟨row, find_mem taken.found, Option.some.inj (same.symm.trans asks), open_⟩
  | retention command row _ _ _ _ same open_ _ taken =>
    exact ⟨row, find_mem taken.found, same.symm.trans (Option.some.inj asks), open_⟩
  | purge => cases asks
  | replay => cases asks

/-- What is retained after a step was retained before, or is retained by it. -/
theorem retained_next (steps : Steps s t action) {instanceId : Uuid} (retained : Retained t.history instanceId) :
    Retained s.history instanceId ∨
      ∃ event delivery now, action = .project event delivery now ∧ event.aggregateId = instanceId ∧ retains event = true := by
  cases steps with
  | accepted _ _ _ _ _ history =>
    rw [history] at retained
    split at retained
    · exact .inl retained
    · exact .inl (retained_accepted.mp retained)
  | projected event delivery now _ history =>
    rw [history] at retained
    rcases retained_projected.mp retained with before | ⟨about, completes⟩
    · exact .inl before
    · exact .inr ⟨event, delivery, now, rfl, about, completes⟩
  | quiet _ _ _ history => exact .inl (history ▸ retained)

theorem closed_next (closed : Closed s) (shut : Shut s action) (steps : Steps s t action) :
    ∀ row ∈ t.db.instances, Retained t.history row.id → mutableLifecycleState row.lifecycleState = false := by
  intro row member retained
  have before := retained_next steps retained
  cases instances_next closed.instances steps row member with
  | kept _ old =>
    rcases before with before | ⟨event, delivery, now, rfl, about, completes⟩
    · exact closed.closed row old before
    · cases steps with
      | projected _ _ _ projected =>
        rw [projected.instances] at member
        obtain ⟨other, _, ⟨-, rfl⟩ | ⟨other, rfl⟩⟩ := mem_update.mp member
        · exact retains_closes completes other
        · exact absurd about.symm other
      | quiet _ _ _ history => exact closed.closed row old (history ▸ retained)
  | created _ _ _ pending => rw [pending]; rfl
  | taken _ _ _ old present same _ open_ =>
    rcases before with before | ⟨_, _, _, impossible, _⟩
    · rw [closed.closed old present (same ▸ before)] at open_
      cases open_
    · cases impossible
  | retiring _ _ _ _ _ _ _ _ lifecycle => rw [lifecycle]; rfl
  | purging _ _ _ _ _ _ _ lifecycle => rw [lifecycle]; rfl
  | projected event delivery now old present about same =>
    subst same
    rcases before with before | ⟨_, _, _, ⟨⟩, _, completes⟩
    · rw [projectedInstance_id] at before
      by_contra open_
      rcases projectedInstance_mutable (Bool.of_not_eq_false open_) with again | was
      · rw [shut (about ▸ before)] at again
        cases again
      · rw [closed.closed old present before] at was
        cases was
    · exact retains_closes completes old

theorem irrevocable_next (closed : Closed s) (steps : Steps s t action) : Irrevocable t.history := by
  cases steps with
  | accepted draws request requestHash answer accepted history =>
    rw [history]
    split
    next => exact closed.irrevocable
    next first =>
      refine irrevocable_append closed.irrevocable ?_
      rintro _ _ instanceId ⟨⟩ asks retained
      obtain ⟨row, member, same, open_⟩ :=
        accepted_open accepted (Bool.of_not_eq_true first) asks
      rw [closed.closed row member (same ▸ retained)] at open_
      cases open_
  | projected event delivery now _ history =>
    rw [history]
    refine irrevocable_append closed.irrevocable ?_
    rintro _ _ _ ⟨⟩
  | quiet _ _ _ history => rw [history]; exact closed.irrevocable

theorem closed_initial (catalog : Catalog) : Closed (initial catalog) := by
  refine ⟨List.nodup_nil, fun _ member => absurd member List.not_mem_nil, ?_⟩
  intro before after _ _ _ split
  cases before <;> cases split

/-- In every run that reopens no retained instance, soft delete is irrevocable
    for tenants. -/
theorem retention_irrevocable {catalog : Catalog} (run : Reaches (next host) Shut (initial catalog) s) :
    Irrevocable s.history := by
  have closed := reaches_invariant Closed
    (fun _ _ _ kept shut taken =>
      have steps := steps_next taken
      ⟨keyed_next kept.instances steps, closed_next kept shut steps, irrevocable_next kept steps⟩)
    run (closed_initial catalog)
  exact closed.irrevocable

end

/-! ### A purge that ends well, and one that fails -/

/-- An instance that is created and retained, and whose purge is accepted once
    its retention has expired. -/
def samplePurging : List Action :=
  [acceptSample, projectSample 0 sampleCreate "created" (sampleCompletion .createInstance .active),
   acceptSampleMutation 1000 sampleRetention .retention,
   projectSample 1 sampleRetention "retained" (sampleCompletion .retainInstance .retained),
   acceptSampleMutation 86401000 samplePurge fun request =>
     .purge ⟨request.actor, request.idempotencyKey, request.instanceId, request.correlationId, request.instanceId⟩]

theorem shut_samplePurged : Meets (next sampleHost) Shut (initial sampleCatalog)
    (samplePurging ++ [projectSample 2 samplePurge "purged" (sampleCompletion .purgeInstance .purged)]) := by
  refine .cons trivial rfl (.cons ?_ rfl (.cons trivial rfl (.cons (fun _ => rfl) rfl (.cons trivial rfl
    (.cons (fun _ => rfl) rfl trivial)))))
  -- Nothing is retained before the instance is created.
  rintro ⟨_, member, _⟩
  cases member with
  | tail _ other => cases other

theorem retention_irrevocable_samplePurged :
    ∃ s, execute (next sampleHost) (initial sampleCatalog)
        (samplePurging ++ [projectSample 2 samplePurge "purged" (sampleCompletion .purgeInstance .purged)]) = some s ∧
      s.db.instances.map InstanceRow.lifecycleState = [.purged] ∧ s.history.length = 6 ∧ Irrevocable s.history := by
  have executed : execute (next sampleHost) (initial sampleCatalog)
    (samplePurging ++ [projectSample 2 samplePurge "purged" (sampleCompletion .purgeInstance .purged)]) = some _ := rfl
  exact ⟨_, executed, rfl, rfl, retention_irrevocable (reaches_execute shut_samplePurged executed)⟩

/-- A tenant's request that is accepted for the sample instance. -/
def mutatesSample : Entry → Bool
  | .accepted request _ => request.mutates = some sampleCreate.aggregateId
  | .projected _ => false

def retainsSample : Entry → Bool
  | .accepted .. => false
  | .projected event => event.aggregateId = sampleCreate.aggregateId && retains event

theorem not_irrevocable {history : List Entry} (k : Nat) {entry : Entry} (there : history[k]? = some entry)
    (mutates : mutatesSample entry = true) (retained : (history.take k).any retainsSample = true) :
    ¬ Irrevocable history := by
  intro irrevocable
  obtain ⟨inside, rfl⟩ := List.getElem?_eq_some_iff.mp there
  have split := (List.take_append_drop k history).symm
  rw [List.drop_eq_getElem_cons inside] at split
  cases accepted : history[k] with
  | projected => rw [accepted] at mutates; cases mutates
  | accepted request operationId =>
    rw [accepted] at mutates split
    obtain ⟨found, member, completes⟩ := List.any_eq_true.mp retained
    cases found with
    | accepted => cases completes
    | projected event =>
      simp only [retainsSample, Bool.and_eq_true, decide_eq_true_eq] at completes
      exact irrevocable _ _ request operationId _ split (of_decide_eq_true mutates)
        ⟨event, member, completes.1, completes.2⟩

/-- A purge that fails cleanly reopens its instance, and a power action is
    accepted for it. -/
theorem retained_reopened :
    ∃ s, Reaches (next sampleHost) Anything (initial sampleCatalog) s ∧ ¬ Irrevocable s.history := by
  have executed : execute (next sampleHost) (initial sampleCatalog)
    (samplePurging ++ [projectSample 2 samplePurge "failed" (sampleFailure .purgeInstance),
      acceptSampleMutation 86402000 samplePower fun request => .power { request with action := .start }]) = some _ := rfl
  exact ⟨_, reaches_execute (meets_anything _ _) executed, not_irrevocable 6 rfl rfl rfl⟩

end ControlPlane.Retention
