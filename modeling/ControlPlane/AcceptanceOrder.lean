import ControlPlane.AcceptanceSessions
import ControlPlane.ControlPlaneApplication
import ControlPlane.LockOrder

/-!
The order of the locks. An acceptance locks the scope of its key first, then the
network of a new instance or the instance that it mutates, and a snapshot last.
The scope of a key and a network are both advisory locks on a text; a scope has a
colon in it and the name of a network, which is a slug, has none. So acceptances
that the service hands over never wait for each other in a circle, and whatever
their interleaving is they all end (`sessions_drain`).
-/
namespace ControlPlane.AcceptanceOrder
open ControlPlane.Programs ControlPlane.Programs.Program ControlPlane.Runs ControlPlane.Tables ControlPlane.Texts
open ControlPlane.Domain ControlPlane.Commands ControlPlane.WorkflowSchema ControlPlane.ControlSchema
open ControlPlane.Transactions ControlPlane.Acceptance ControlPlane.AcceptanceRules ControlPlane.RequestValidation
open ControlPlane.ControlPlaneApplication (CreateInstanceInput Input submit submit_handed)
open ControlPlane.LockOrder ControlPlane.AcceptanceSessions
open ControlPlane.KeyExpiry (keyOf)
open ControlPlane.Quota (Conversation)
open ControlPlane.EventValidation (sampleCreate sampleHost)

/-- Scopes, then networks, then instances, then snapshots. -/
def rank : ControlLock → Nat
  | .advisory text => if ':' ∈ text.toList then 0 else 1
  | .instance_ _ => 2
  | .snapshot _ => 3

/-- The name of the network of a new instance is no scope. -/
def Named : Request → Prop
  | .create command => ':' ∉ command.networkId.toList
  | _ => True

/-! ### The rules -/

section
variable {past : Conversation} {α β : Type}

theorem ordered_lock {l : ControlLock} {f : Unit → Step β} {post : Conversation → Except StoreError β → Prop}
    (above : ∀ k ∈ held past, rank k < rank l)
    (rest : (f ()).Satisfies (Ascends rank) post (past ++ [⟨.lock l, ()⟩])) :
    (lock l >>= f : Step β).Satisfies (Ascends rank) post past :=
  ⟨above, fun _ => rest⟩

theorem ordered_select {query : ControlQuery} {f : ControlDb → Step β} {post : Conversation → Except StoreError β → Prop}
    (rest : ∀ db, (f db).Satisfies (Ascends rank) post (past ++ [⟨.select query, db⟩])) :
    (select query >>= f : Step β).Satisfies (Ascends rank) post past :=
  ⟨trivial, rest⟩

/-- A part that takes no lock. -/
def Unlocked (p : Step α) (good : α → Prop) : Prop :=
  ∀ past, p.Satisfies (Ascends rank) (fun later ended => held later = held past ∧ ∀ a, ended = .ok a → good a) past

theorem unlocked_done {a : α} {good : α → Prop} (meets : good a) : Unlocked (.done a) good := by
  intro past
  refine ⟨rfl, ?_⟩
  rintro _ ⟨⟩
  exact meets

theorem unlocked_raise {error : StoreError} {good : α → Prop} : Unlocked (.raise error) good := by
  intro past
  refine ⟨rfl, ?_⟩
  rintro _ ⟨⟩

theorem unlocked_select {query : ControlQuery} {f : ControlDb → Step β} {good : β → Prop}
    (rest : ∀ db, Unlocked (f db) good) : Unlocked (select query >>= f) good := by
  intro past
  refine ordered_select fun db => (rest db _).weaken (fun _ _ ascends => ascends) ?_
  rintro later ended ⟨same, meets⟩
  exact ⟨same.trans (held_select past query db), meets⟩

theorem ordered_unlocked {p : Step α} {good : α → Prop} {f : α → Step β} (unlocked : Unlocked p good)
    (rest : ∀ later a, held later = held past → good a → Ordered rank (f a) later) :
    Ordered rank (p >>= f : Step β) past :=
  satisfies_bind (unlocked past) (fun later a ended => rest later a ended.1 (ended.2 a rfl)) fun _ _ _ => trivial

/-! ### The parts -/

theorem findReplayedResponse_unlocked (identity : MutationIdentity) (action : WorkflowAction) (requestHash : String) :
    Unlocked (findReplayedResponse identity action requestHash) fun _ => True := by
  refine unlocked_select fun db => ?_
  split
  · exact unlocked_done trivial
  · split
    · exact unlocked_raise
    · exact unlocked_done trivial

theorem checked_unlocked (result : Except DomainError α) : Unlocked (checked result) fun _ => True := by
  cases result with
  | ok value => exact unlocked_done trivial
  | error error => exact unlocked_raise

theorem loadAcceptanceContext_unlocked (command : CreateInstanceCommand) :
    Unlocked (loadAcceptanceContext command) fun context => context.network.id = command.networkId := by
  refine unlocked_select fun db => ?_
  split
  next => exact unlocked_raise
  next =>
    split
    next => exact unlocked_raise
    next =>
      refine unlocked_select fun _ => unlocked_select fun _ => unlocked_select fun _ => unlocked_select fun _ => ?_
      split
      next image profile flavor network quota _ _ attached _ =>
        split
        next => exact unlocked_raise
        next =>
          split
          next => exact unlocked_raise
          next => exact unlocked_done (find_key (Option.filter_eq_some_iff.mp attached).1)
      next => exact unlocked_raise

theorem assertQuotaHeadroom_unlocked (command : CreateInstanceCommand) (context : AcceptanceContext) :
    Unlocked (assertQuotaHeadroom command context) fun _ => True := by
  refine unlocked_select fun db => ?_
  dsimp only
  split
  · exact unlocked_raise
  · exact unlocked_done trivial

theorem assertResizeQuotaHeadroom_unlocked (projectId : Uuid) (current target : Resources) :
    Unlocked (assertResizeQuotaHeadroom projectId current target) fun _ => True := by
  refine unlocked_select fun db => ?_
  split
  · exact unlocked_raise
  · refine unlocked_select fun db => ?_
    dsimp only
    split
    · exact unlocked_raise
    · exact unlocked_done trivial

theorem assertSnapshotHeadroom_unlocked (projectId : Uuid) : Unlocked (assertSnapshotHeadroom projectId) fun _ => True := by
  refine unlocked_select fun db => ?_
  split
  · exact unlocked_raise
  · refine unlocked_select fun db => ?_
    split
    · exact unlocked_raise
    · exact unlocked_done trivial

/-! ### The parts that lock -/

variable {identity : MutationIdentity} {action : WorkflowAction} {requestHash : String}

theorem rank_scope (identity : MutationIdentity) (action : WorkflowAction) : rank (scopeLock identity action) = 0 := by
  have colon : ':' ∈ (scopeText (keyOf identity action)).toList := by
    simp [scopeText]
  exact if_pos colon

/-- What an acceptance does after the lookup of its key. -/
theorem ordered_unlessReplayed {accepting : Accepting}
    (rest : ∀ later, held later = [scopeLock identity action] → Ordered rank accepting later) :
    Ordered rank (unlessReplayed identity action requestHash accepting) [] := by
  refine ordered_lock (by simp [held]) ?_
  refine ordered_unlocked (findReplayedResponse_unlocked identity action requestHash) fun later found same _ => ?_
  cases found with
  | none => exact rest later same
  | some answer => trivial

theorem ordered_lockInstanceForMutation {projectId instanceId : Uuid} {f : InstanceRow → Step β}
    (below : ∀ k ∈ held past, rank k < 2)
    (rest : ∀ later row, held later = held past ++ [.instance_ instanceId] → Ordered rank (f row) later) :
    Ordered rank (lockInstanceForMutation projectId instanceId >>= f : Step β) past := by
  have locks : (lockInstanceForMutation projectId instanceId).Satisfies (Ascends rank)
      (fun later _ => held later = held past ++ [.instance_ instanceId]) past := by
    refine ordered_lock below (ordered_select fun db => ?_)
    have took : held (past ++ [⟨.lock (.instance_ instanceId), ()⟩] ++ [⟨.select .instance_, db⟩]) =
        held past ++ [.instance_ instanceId] := by rw [held_select, held_lock]
    split
    · exact took
    · split
      · exact took
      · split
        · exact took
        · exact took
  exact satisfies_bind locks (fun later row ended => rest later row ended) fun _ _ _ => trivial

theorem reserveIpv4Address_ordered {host : Host} {context : AcceptanceContext}
    (above : ∀ k ∈ held past, rank k < rank (.advisory context.network.id)) :
    Ordered rank (reserveIpv4Address host context) past := by
  refine ordered_lock above (ordered_select fun db => ?_)
  dsimp only
  split
  · trivial
  · exact (checked_unlocked _ _).weaken (fun _ _ ascends => ascends) fun _ _ _ => trivial

end

/-! ### Each request -/

section
variable {host : Host} {draws : Draws} {requestHash : String}

theorem scope_below {identity : MutationIdentity} {action : WorkflowAction} {later : Conversation} {bound : Nat}
    (same : held later = [scopeLock identity action]) (positive : 0 < bound) : ∀ k ∈ held later, rank k < bound := by
  intro k member
  rw [same, List.mem_singleton] at member
  rw [member, rank_scope]
  exact positive

theorem acceptCreate_ordered {command : CreateInstanceCommand} (named : ':' ∉ command.networkId.toList) :
    Ordered rank (acceptCreate host draws command requestHash) [] := by
  refine ordered_unlessReplayed fun first same => ?_
  refine ordered_unlocked (loadAcceptanceContext_unlocked command) fun second context kept network => ?_
  refine ordered_unlocked (assertQuotaHeadroom_unlocked command context) fun third _ still _ => ?_
  have ofScope := scope_below ((still.trans kept).trans same) Nat.one_pos
  have above : rank (.advisory context.network.id) = 1 := by
    rw [network]
    exact if_neg named
  refine satisfies_bind_any (reserveIpv4Address_ordered fun k member => above ▸ ofScope k member) fun fourth address => ?_
  exact ordered_unlocked (checked_unlocked _) fun _ _ _ _ => trivial

theorem acceptPowerAction_ordered (command : PowerInstanceCommand) :
    Ordered rank (acceptPowerAction draws command requestHash) [] := by
  refine ordered_unlessReplayed fun first same => ?_
  exact ordered_lockInstanceForMutation (scope_below same Nat.two_pos) fun _ _ _ => trivial

theorem acceptResize_ordered (command : ResizeInstanceCommand) :
    Ordered rank (acceptResize draws command requestHash) [] := by
  refine ordered_unlessReplayed fun first same => ?_
  refine ordered_lockInstanceForMutation (scope_below same Nat.two_pos) fun second row _ => ?_
  refine ordered_select fun db => ?_
  split
  · trivial
  · refine ordered_unlocked (checked_unlocked _) fun third _ _ _ => ?_
    exact ordered_unlocked (assertResizeQuotaHeadroom_unlocked _ _ _) fun _ _ _ _ => trivial

theorem acceptSnapshotCreate_ordered (command : CreateSnapshotCommand) :
    Ordered rank (acceptSnapshotCreate draws command requestHash) [] := by
  refine ordered_unlessReplayed fun first same => ?_
  refine ordered_lockInstanceForMutation (scope_below same Nat.two_pos) fun second row _ => ?_
  refine ordered_unlocked (assertSnapshotHeadroom_unlocked _) fun third _ _ _ => ordered_select fun db => ?_
  split
  · trivial
  · trivial

theorem acceptSnapshotAction_ordered (kind : SnapshotAction) (command : SnapshotActionCommand) :
    Ordered rank (acceptSnapshotAction kind draws command requestHash) [] := by
  refine ordered_unlessReplayed fun first same => ?_
  refine ordered_lockInstanceForMutation (scope_below same Nat.two_pos) fun second row locked => ?_
  refine ordered_lock (fun k member => ?_) (ordered_select fun db => ?_)
  · rw [locked, same] at member
    rcases List.mem_append.mp member with ofScope | instance_
    · rw [List.mem_singleton.mp ofScope, rank_scope]
      exact Nat.succ_pos _
    · rw [List.mem_singleton.mp instance_]
      exact Nat.lt_succ_self _
  · split
    · trivial
    · split
      · trivial
      · split
        · trivial
        · trivial

theorem acceptRetention_ordered (command : RetainInstanceCommand) :
    Ordered rank (acceptRetention draws command requestHash) [] := by
  refine ordered_unlessReplayed fun first same => ?_
  refine ordered_lockInstanceForMutation (scope_below same Nat.two_pos) fun second row _ => ordered_select fun db => ?_
  split
  · trivial
  · trivial

theorem acceptPurge_ordered (command : PurgeInstanceCommand) : Ordered rank (acceptPurge draws command requestHash) [] := by
  unfold acceptPurge
  split
  · trivial
  · refine ordered_unlessReplayed fun first same => ?_
    refine ordered_lock (scope_below same Nat.two_pos) (ordered_select fun db => ?_)
    split
    · trivial
    · split
      · trivial
      · split
        · trivial
        · split
          · trivial
          · trivial

theorem requestDeadLetterReplay_ordered (command : ReplayDeadLetterCommand) :
    Ordered rank (requestDeadLetterReplay draws command requestHash) [] := by
  refine ordered_lock (by simp [held]) (ordered_select fun requests => ordered_select fun letters => ?_)
  dsimp only
  split
  · trivial
  · split
    · trivial
    · trivial
  · split
    · trivial
    · trivial

/-- Every acceptance takes its locks in order. -/
theorem begun_ordered {submission : Submission} (named : Named submission.request) :
    Ordered rank (begun host submission) [] := by
  obtain ⟨draws, request, requestHash⟩ := submission
  cases request with
  | create command => exact acceptCreate_ordered named
  | power command => exact acceptPowerAction_ordered command
  | resize command => exact acceptResize_ordered command
  | snapshotCreate command => exact acceptSnapshotCreate_ordered command
  | snapshotAction kind command => exact acceptSnapshotAction_ordered kind command
  | retention command => exact acceptRetention_ordered command
  | purge command => exact acceptPurge_ordered command
  | replay command => exact requestDeadLetterReplay_ordered command

end

/-! ### What the service hands over -/

theorem slug_named {text : String} (slug : isSlugText text = true) : ':' ∉ text.toList := by
  unfold isSlugText at slug
  split at slug
  next first rest whole =>
    simp only [Bool.and_eq_true, List.all_eq_true, Bool.or_eq_true, decide_eq_true_eq] at slug
    obtain ⟨⟨⟨opens, -⟩, -⟩, others⟩ := slug
    have lower : isLowerAlphanumeric ':' = false := by decide
    rw [whole]
    intro colon
    rcases List.mem_cons.mp colon with rfl | later
    · rw [lower] at opens
      cases opens
    · rcases others ':' later with letter | dash
      · rw [lower] at letter
        cases letter
      · cases dash
  next => cases slug

theorem network_named {input : CreateInstanceInput} (valid : validateCreateInstance
    ⟨input.imageId, input.flavorId, input.networkId, input.hostname, input.sshPublicKeys.getD []⟩ = .ok ()) :
    ':' ∉ input.networkId.toList := by
  unfold validateCreateInstance at valid
  split at valid
  next => cases valid
  next slugs =>
    refine slug_named ?_
    simp only [List.all_cons, List.all_nil, Bool.and_true, Bool.not_eq_true', Bool.not_eq_false, Bool.and_eq_true] at slugs
    exact slugs.2.2

theorem submit_named {input : Input} {request : Request} (served : submit input = .ok request) : Named request := by
  cases submit_handed served with
  | createInstance input _ valid => exact network_named valid
  | mutateInstancePower | resizeInstance | createSnapshot | snapshotAction | retainInstance | purgeInstance
  | requestDeadLetterReplay => trivial

/-- The steps of a store that serves what the service hands over. -/
def Served (_ : Store) : Transactions.Action ControlDb Submission → Prop
  | .start submission => ∃ input, submit input = .ok submission.request
  | .step _ | .commit _ | .rollback _ | .outside _ => True

def sampleInput (name : String) : Input :=
  .mutateInstancePower
    { actor := ⟨"alice", ["tenant_developer"], [sampleCreate.projectId]⟩, projectId := sampleCreate.projectId,
      idempotencyKey := "idempotency-" ++ name, correlationId := sampleCreate.correlationId,
      instanceId := sampleCreate.aggregateId, action := "stop" }

end ControlPlane.AcceptanceOrder
