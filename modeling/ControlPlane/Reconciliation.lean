import Mathlib.Data.List.Perm.Subperm
import ControlPlane.ControlSchema
import ControlPlane.Runs

/-!
The sweeps of the reconciler. A sweep locks a batch of the instances that were
reconciled least recently, and only then drops those that have nothing to observe;
the dropped ones keep their place in the order. When the batch holds none of them,
or none stands behind it that could be claimed instead, the sweep claims what it
may (`covers_iff`), and an instance that waits is passed over finitely often.
-/
namespace ControlPlane.Reconciliation
open ControlPlane.Tables ControlPlane.Runs ControlPlane.Domain ControlPlane.Commands ControlPlane.ControlSchema

/-- What reconciliation reads of a row of `workflow.workflows`. -/
structure WorkflowResource where
  instanceId : Uuid
  providerResourceId : Option String
  createdAt : Instant
  deriving DecidableEq, Repr

/-- The provider resource of the oldest workflow that has one. -/
def resourceOf (workflows : List WorkflowResource) (instanceId : Uuid) : Option String :=
  let named := workflows.filter fun workflow => workflow.instanceId = instanceId && workflow.providerResourceId.isSome
  (named.find? fun workflow => named.all fun other => workflow.createdAt ≤ other.createdAt).bind WorkflowResource.providerResourceId

/-- A text that is there and not empty. -/
def truthy (text : Option String) : Bool := text.any (· ≠ "")

/-- `ORDER BY last_reconciled_at NULLS FIRST`. -/
def notAfter : Option Instant → Option Instant → Bool
  | none, _ => true
  | some _, none => false
  | some a, some b => a ≤ b

/-- One sweep, with the rows that other transactions hold and the order that the
    database returns the rows in. -/
structure Sweep where
  limit : Nat
  staleAfter : Instant
  now : Instant
  locked : Uuid → Bool
  ordered : List InstanceRow

/-- A row that the statement selects. -/
def selected (staleAfter : Instant) (row : InstanceRow) : Bool :=
  row.lifecycleState ≠ .purged && row.lifecycleState ≠ .pending && row.lastReconciledAt.all (· ≤ staleAfter)

/-- What is observed of an instance, and against what. -/
structure ReconciliationCandidate where
  instanceId : Uuid
  projectId : Uuid
  providerProfileId : String
  createOperationId : String
  providerResourceId : String
  lifecycleState : LifecycleState
  desiredPowerState : DesiredPower
  desiredCpuCount : Nat
  desiredMemoryMiB : Nat
  desiredDiskGiB : Nat

def candidateOf (workflows : List WorkflowResource) (row : InstanceRow) : ReconciliationCandidate :=
  { instanceId := row.id, projectId := row.projectId, providerProfileId := row.providerProfileId,
    createOperationId := row.createOperationId.getD "", providerResourceId := (resourceOf workflows row.id).getD "",
    lifecycleState := row.lifecycleState, desiredPowerState := row.desiredPowerState, desiredCpuCount := row.desiredCpuCount,
    desiredMemoryMiB := row.desiredMemoryMib, desiredDiskGiB := row.desiredDiskGib }

section
variable (workflows : List WorkflowResource) (sweep : Sweep) (rows : List InstanceRow)

/-- The statement may return the rows in this order. -/
def Orders : Prop :=
  sweep.ordered.Perm (rows.filter (selected sweep.staleAfter)) ∧
    sweep.ordered.Pairwise fun a b => notAfter a.lastReconciledAt b.lastReconciledAt = true

instance : Decidable (Orders sweep rows) := inferInstanceAs (Decidable (_ ∧ _))

/-- The selected rows that nobody else holds. -/
def free : List InstanceRow := sweep.ordered.filter fun row => !sweep.locked row.id

/-- The rows that the statement locks and returns. -/
def batch : List InstanceRow := (free sweep).take sweep.limit

/-- There is something to observe. -/
def observable (row : InstanceRow) : Bool := truthy (resourceOf workflows row.id) && truthy row.createOperationId

/-- The rows of the batch that are claimed. -/
def claimed : List InstanceRow := (batch sweep).filter (observable workflows)

/-- Claims the instances least recently reconciled, and stamps them. -/
def claimStaleInstances : List ReconciliationCandidate × List InstanceRow :=
  ((claimed workflows sweep).map (candidateOf workflows),
    rows.map fun row =>
      if row.id ∈ (claimed workflows sweep).map InstanceRow.id then { row with lastReconciledAt := some sweep.now } else row)

/-! ### The claim -/

/-- An instance that a sweep may claim. -/
def eligible (row : InstanceRow) : Bool :=
  row.lastReconciledAt.all (· ≤ sweep.staleAfter) && row.lifecycleState ≠ .purged && row.lifecycleState ≠ .pending &&
    truthy row.createOperationId && truthy (resourceOf workflows row.id)

/-- The eligible rows that nobody else holds. -/
def claimable : List InstanceRow := rows.filter fun row => eligible workflows sweep row && !sweep.locked row.id

/-- As many instances are claimed as may be. -/
def Covers : Prop := (claimStaleInstances workflows sweep rows).1.length = min sweep.limit (claimable workflows sweep rows).length

/-- The claimed instances come in order, and no other that may be claimed comes before one. -/
def LeastRecent : Prop :=
  (claimed workflows sweep).Pairwise (fun a b => notAfter a.lastReconciledAt b.lastReconciledAt = true) ∧
    ∀ row ∈ claimed workflows sweep, ∀ other ∈ claimable workflows sweep rows, other ∉ claimed workflows sweep →
      notAfter row.lastReconciledAt other.lastReconciledAt = true

/-- The batch holds nothing that is dropped, or nothing behind it could be claimed. -/
def Clear : Prop :=
  (∀ row ∈ batch sweep, observable workflows row = true) ∨
    ∀ row ∈ (free sweep).drop sweep.limit, observable workflows row = false

end

/-! ### Repeated sweeps -/

/-- The tables, with what is counted of a run. -/
structure State where
  rows : List InstanceRow
  workflows : List WorkflowResource
  /-- How many sweeps were made. -/
  sweeps : Nat := 0
  /-- How many rows others put ahead of the instance that waits. -/
  arrivals : Nat := 0
  /-- The instance was claimed. -/
  served : Bool := false
  deriving DecidableEq

inductive Action
  | sweep (sweep : Sweep)
  /-- What other transactions leave of the tables. -/
  | others (rows : List InstanceRow) (workflows : List WorkflowResource)

section
variable (id : Uuid) (last : Option Instant)

/-- A row that a sweep takes no later than an instance reconciled at that instant. -/
def ahead (row : InstanceRow) : Bool := notAfter row.lastReconciledAt last

/-- The rows that came to be ahead. -/
def arriving (rows after : List InstanceRow) : List InstanceRow :=
  after.filter fun row => ahead last row && !(rows.any fun old => old.id = row.id && ahead last old)

/-- The tables after an action, as an instance sees it that was reconciled last at that instant. -/
def next (s : State) : Action → Option State
  | .sweep sweep =>
    some { s with
      rows := (claimStaleInstances s.workflows sweep s.rows).2
      sweeps := s.sweeps + 1
      served := s.served || (claimStaleInstances s.workflows sweep s.rows).1.any (·.instanceId = id) }
  | .others rows workflows =>
    some { s with rows := rows, workflows := workflows, arrivals := s.arrivals + (arriving last s.rows rows).length }

/-- The instance waits to be claimed by the sweep. -/
def Waits (s : State) (sweep : Sweep) : Prop :=
  ∃ row ∈ s.rows, row.id = id ∧ row.lastReconciledAt = last ∧ eligible s.workflows sweep row = true ∧ sweep.locked id = false

/-- Every sweep returns rows in order and meets a condition, and the instance waits until it is claimed. -/
def Sweeps (condition : List WorkflowResource → Sweep → Prop) (s : State) : Action → Prop
  | .sweep sweep =>
    Orders sweep s.rows ∧ 1 ≤ sweep.limit ∧ sweep.staleAfter < sweep.now ∧ (s.served = false → Waits id last s sweep) ∧
      condition s.workflows sweep
  | .others rows _ => Keyed InstanceRow.id rows

end

/-! ### One sweep -/

section
variable {workflows : List WorkflowResource} {sweep : Sweep} {rows : List InstanceRow}

theorem eligible_eq (row : InstanceRow) :
    eligible workflows sweep row = (selected sweep.staleAfter row && observable workflows row) := by
  simp only [eligible, selected, observable]
  ac_rfl

/-- What may be claimed is what is free and can be observed. -/
theorem claimable_perm (orders : Orders sweep rows) :
    ((free sweep).filter (observable workflows)).Perm (claimable workflows sweep rows) := by
  have perm := (orders.1.filter fun row => !sweep.locked row.id).filter (observable workflows)
  refine perm.trans (List.Perm.of_eq ?_)
  rw [List.filter_filter, List.filter_filter, claimable]
  refine List.filter_congr fun row _ => ?_
  rw [eligible_eq]
  ac_rfl

theorem claimable_length (orders : Orders sweep rows) :
    (claimable workflows sweep rows).length =
      (claimed workflows sweep).length + (((free sweep).drop sweep.limit).filter (observable workflows)).length := by
  rw [← (claimable_perm orders).length_eq, claimed, batch, ← List.length_append, ← List.filter_append, List.take_append_drop]

/-- As many are claimed as may be exactly when nothing that is dropped keeps one out. -/
theorem covers_iff (orders : Orders sweep rows) : Covers workflows sweep rows ↔ Clear workflows sweep := by
  have total := @claimable_length workflows _ _ orders
  have some_ : (claimed workflows sweep).length ≤ (batch sweep).length := List.length_filter_le _ _
  have size : (batch sweep).length = min sweep.limit (free sweep).length := List.length_take
  have rest : (((free sweep).drop sweep.limit).filter (observable workflows)).length ≤ (free sweep).length - sweep.limit :=
    Nat.le_trans (List.length_filter_le _ _) (Nat.le_of_eq List.length_drop)
  have all : (∀ row ∈ batch sweep, observable workflows row = true) ↔
      (claimed workflows sweep).length = (batch sweep).length := List.length_filter_eq_length_iff.symm
  have none_ : (∀ row ∈ (free sweep).drop sweep.limit, observable workflows row = false) ↔
      (((free sweep).drop sweep.limit).filter (observable workflows)).length = 0 := by
    rw [List.length_eq_zero_iff, List.filter_eq_nil_iff]
    simp
  rw [Covers, Clear, all, none_, claimStaleInstances, List.length_map]
  omega

theorem free_pairwise (orders : Orders sweep rows) :
    (free sweep).Pairwise fun a b => notAfter a.lastReconciledAt b.lastReconciledAt = true :=
  orders.2.sublist List.filter_sublist

theorem claimed_batch {row : InstanceRow} (member : row ∈ claimed workflows sweep) : row ∈ batch sweep :=
  List.mem_of_mem_filter member

/-- A row that may be claimed and is not stands behind the batch. -/
theorem claimable_behind (orders : Orders sweep rows) {row : InstanceRow} (may : row ∈ claimable workflows sweep rows)
    (left : row ∉ claimed workflows sweep) :
    row ∈ (free sweep).drop sweep.limit ∧ observable workflows row = true := by
  obtain ⟨there, seen⟩ := List.mem_filter.mp ((claimable_perm orders).mem_iff.mpr may)
  rw [← List.take_append_drop sweep.limit (free sweep)] at there
  rcases List.mem_append.mp there with front | behind
  · exact absurd (List.mem_filter.mpr ⟨front, seen⟩) left
  · exact ⟨behind, seen⟩

/-- The batch comes before what stands behind it. -/
theorem batch_ahead (orders : Orders sweep rows) {row other : InstanceRow} (front : row ∈ batch sweep)
    (behind : other ∈ (free sweep).drop sweep.limit) : notAfter row.lastReconciledAt other.lastReconciledAt = true := by
  have pairwise := free_pairwise orders
  rw [← List.take_append_drop sweep.limit (free sweep)] at pairwise
  exact (List.pairwise_append.mp pairwise).2.2 row front other behind

/-- The least recently reconciled come first. -/
theorem leastRecent (orders : Orders sweep rows) : LeastRecent workflows sweep rows := by
  constructor
  · exact ((free_pairwise orders).sublist (List.take_sublist _ _)).sublist List.filter_sublist
  · intro row member other may left
    exact batch_ahead orders (claimed_batch member) (claimable_behind orders may left).1

end

/-! ### Runs -/

section
variable {id : Uuid} {last : Option Instant} {workflows : List WorkflowResource} {sweep : Sweep} {rows : List InstanceRow}

/-- A row that is stamped is not ahead of what was stale. -/
theorem not_ahead_stamped (old : last.all (· ≤ sweep.staleAfter) = true) (past : sweep.staleAfter < sweep.now)
    (row : InstanceRow) : ahead last { row with lastReconciledAt := some sweep.now } = false := by
  cases last with
  | none => rfl
  | some instant =>
    have stale : instant ≤ sweep.staleAfter := by simpa using old
    simpa [ahead, notAfter] using Nat.lt_of_le_of_lt stale past

/-- The rows as the sweep leaves them that are ahead were so before, unclaimed. -/
theorem ahead_swept (old : last.all (· ≤ sweep.staleAfter) = true) (past : sweep.staleAfter < sweep.now) :
    ((claimStaleInstances workflows sweep rows).2.filter (ahead last)).length =
      ((rows.filter (ahead last)).filter fun row => row.id ∉ (claimed workflows sweep).map InstanceRow.id).length := by
  rw [claimStaleInstances, List.filter_map, List.length_map, List.filter_filter]
  refine congrArg List.length (List.filter_congr fun row _ => ?_)
  by_cases stamped : row.id ∈ (claimed workflows sweep).map InstanceRow.id
  · simp only [Function.comp_apply, if_pos stamped, not_ahead_stamped old past]
    simp [stamped]
  · simp only [Function.comp_apply, if_neg stamped]
    simp [stamped]

/-- An instance that waits and is passed over has a claimed one ahead of it. -/
theorem claimed_ahead (orders : Orders sweep rows) (some_ : 1 ≤ sweep.limit) (clear : Clear workflows sweep)
    {row : InstanceRow} (may : row ∈ claimable workflows sweep rows) (left : row ∉ claimed workflows sweep) :
    ∃ first ∈ claimed workflows sweep, first ∈ rows ∧ notAfter first.lastReconciledAt row.lastReconciledAt = true := by
  obtain ⟨behind, seen⟩ := claimable_behind orders may left
  rcases clear with all | dropped
  · cases front : batch sweep with
    | nil =>
      have short : (free sweep).length = 0 := by
        have size : (batch sweep).length = min sweep.limit (free sweep).length := List.length_take
        rw [front, List.length_nil] at size
        omega
      rw [List.length_eq_zero_iff.mp short, List.drop_nil] at behind
      cases behind
    | cons first others =>
      have member : first ∈ batch sweep := front ▸ List.mem_cons_self
      have listed : first ∈ sweep.ordered := List.mem_of_mem_filter (List.mem_of_mem_take member)
      exact ⟨first, List.mem_filter.mpr ⟨member, all first member⟩, List.mem_of_mem_filter (orders.1.mem_iff.mp listed),
        batch_ahead orders member behind⟩
  · rw [dropped row behind] at seen
    cases seen

/-- A sweep that passes the instance over takes a row from those ahead of it. -/
theorem sweep_spends (orders : Orders sweep rows) (some_ : 1 ≤ sweep.limit) (past : sweep.staleAfter < sweep.now)
    (clear : Clear workflows sweep) {row : InstanceRow} (member : row ∈ rows) (same : row.lastReconciledAt = last)
    (may : eligible workflows sweep row = true) (unlocked : sweep.locked row.id = false)
    (passed : row.id ∉ (claimed workflows sweep).map InstanceRow.id) :
    ((claimStaleInstances workflows sweep rows).2.filter (ahead last)).length + 1 ≤ (rows.filter (ahead last)).length := by
  have old : last.all (· ≤ sweep.staleAfter) = true := by
    simp only [eligible, same, Bool.and_eq_true] at may
    exact may.1.1.1.1
  have here : row ∈ claimable workflows sweep rows := List.mem_filter.mpr ⟨member, by rw [may, unlocked]; rfl⟩
  obtain ⟨first, taken, there, before⟩ := claimed_ahead orders some_ clear here fun taken =>
    passed (List.mem_map_of_mem taken)
  rw [ahead_swept old past, Nat.add_one_le_iff, List.length_filter_lt_length_iff_exists]
  refine ⟨first, List.mem_filter.mpr ⟨there, by rw [ahead, ← same]; exact before⟩, ?_⟩
  simpa using ⟨first, taken, rfl⟩

/-- The rows ahead after an action of others arrived, or were ahead before. -/
theorem ahead_others {after : List InstanceRow} (keyed : Keyed InstanceRow.id after) :
    (after.filter (ahead last)).length ≤ (rows.filter (ahead last)).length + (arriving last rows after).length := by
  let was (row : InstanceRow) : Bool := rows.any fun old => old.id = row.id && ahead last old
  have parts : (after.filter (ahead last)).length =
      ((after.filter (ahead last)).filter was).length + (arriving last rows after).length := by
    rw [List.length_eq_length_filter_add was, List.filter_filter (p := fun row => !was row)]
    refine congrArg (_ + ·) (congrArg List.length (List.filter_congr fun row _ => ?_))
    exact Bool.and_comm _ _
  have stayed : ((after.filter (ahead last)).filter was).length ≤ (rows.filter (ahead last)).length := by
    have apart : (((after.filter (ahead last)).filter was).map InstanceRow.id).Nodup :=
      keyed.sublist ((List.filter_sublist.trans List.filter_sublist).map _)
    have before : ((after.filter (ahead last)).filter was).map InstanceRow.id ⊆ (rows.filter (ahead last)).map InstanceRow.id := by
      intro key member
      obtain ⟨row, kept, rfl⟩ := List.mem_map.mp member
      obtain ⟨old, there, same⟩ := List.any_eq_true.mp (List.mem_filter.mp kept).2
      simp only [Bool.and_eq_true, decide_eq_true_eq] at same
      exact List.mem_map.mpr ⟨old, List.mem_filter.mpr ⟨there, same.2⟩, same.1⟩
    simpa using (List.Nodup.subperm apart before).length_le
  omega

/-- The instance is served, or each sweep that was made took a row from those ahead. -/
def Spends (last : Option Instant) (start s : State) : Prop :=
  s.served = true ∨
    s.sweeps + (s.rows.filter (ahead last)).length ≤ (start.rows.filter (ahead last)).length + s.arrivals

theorem spends_next {start s t : State} {action : Action} (spends : Spends last start s)
    (meets : Sweeps id last Clear s action) (taken : next id last s action = some t) : Spends last start t := by
  rcases spends with served | spends
  · refine .inl ?_
    cases action <;> cases taken <;> simp [served]
  cases action with
  | others rows workflows =>
    cases taken
    have ahead_ := @ahead_others last s.rows rows meets
    refine .inr ?_
    dsimp only
    omega
  | sweep sweep =>
    cases taken
    obtain ⟨orders, some_, past, waits, clear⟩ := meets
    cases served : s.served with
    | true => exact .inl (by simp)
    | false =>
      obtain ⟨row, member, same, lasting, may, unlocked⟩ := waits served
      by_cases taken : row.id ∈ (claimed s.workflows sweep).map InstanceRow.id
      · refine .inl ?_
        obtain ⟨other, chosen, alike⟩ := List.mem_map.mp taken
        simp only [Bool.false_or, claimStaleInstances, List.any_map, List.any_eq_true]
        exact ⟨other, chosen, by simp [candidateOf, alike, same]⟩
      · refine .inr ?_
        have spent := sweep_spends orders some_ past clear member lasting may (same ▸ unlocked) taken
        dsimp only
        omega

/-- An instance that waits is claimed after as many sweeps as rows are ahead of it. -/
theorem served_within {t : State}
    (run : Reaches (next id last) (Sweeps id last Clear) { rows := rows, workflows := workflows } t) :
    t.served = true ∨ t.sweeps ≤ (rows.filter (ahead last)).length + t.arrivals := by
  have start : Spends last { rows := rows, workflows := workflows } { rows := rows, workflows := workflows } :=
    .inr (by simp)
  have spends := reaches_invariant (Spends last _) (fun _ _ _ => spends_next) run start
  rcases spends with served | spends
  · exact .inl served
  · exact .inr (Nat.le_trans (Nat.le_add_right _ _) spends)

end

/-- What a sweep covers, and what repeated sweeps do: when no row that is dropped
    stands before one that may be claimed, an instance that waits is claimed. -/
theorem sweep_coverage (rows : List InstanceRow) (workflows : List WorkflowResource) :
    (∀ sweep, Orders sweep rows →
      (Covers workflows sweep rows ↔ Clear workflows sweep) ∧ LeastRecent workflows sweep rows) ∧
    ∀ id last t, Reaches (next id last) (Sweeps id last Clear) { rows := rows, workflows := workflows } t →
      t.served = true ∨ t.sweeps ≤ (rows.filter (ahead last)).length + t.arrivals :=
  ⟨fun _ orders => ⟨covers_iff orders, leastRecent orders⟩, fun _ _ _ => served_within⟩

/-! ### A sample -/

def sampleRow : InstanceRow where
  id := "instance-2"
  projectId := "project-1"
  imageId := "image-1"
  flavorId := "flavor-1"
  networkId := "network-1"
  providerProfileId := "profile-1"
  hostname := "vm"
  sshPublicKeys := []
  desiredCpuCount := 1
  desiredMemoryMib := 1024
  desiredDiskGib := 10
  desiredPowerState := .running
  lifecycleState := .active
  activeOperationId := none
  createOperationId := some "operation-1"
  retentionDeadline := none
  purgeEligible := false
  observed := none
  lastReconciledAt := some 5

/-- An instance whose creation failed before anything was created. -/
def failedRow : InstanceRow := { sampleRow with id := "instance-1", lifecycleState := .failed, lastReconciledAt := none }

def sampleWorkflows : List WorkflowResource := [⟨"instance-2", some "qemu/100", 1⟩]

def sampleSweep (ordered : List InstanceRow) : Sweep :=
  { limit := 1, staleAfter := 10, now := 20, locked := fun _ => false, ordered }

/-- The tables after the sweep. -/
def sampleSwept : State :=
  { rows := [{ sampleRow with lastReconciledAt := some 20 }], workflows := sampleWorkflows, sweeps := 1, served := true }

theorem sweep_coverage_sample :
    (Covers sampleWorkflows (sampleSweep [sampleRow]) [sampleRow] ↔ Clear sampleWorkflows (sampleSweep [sampleRow])) ∧
      (sampleSwept.served = true ∨ sampleSwept.sweeps ≤ ([sampleRow].filter (ahead (some 5))).length + sampleSwept.arrivals) := by
  have orders : Orders (sampleSweep [sampleRow]) [sampleRow] := by decide
  have clear : Clear sampleWorkflows (sampleSweep [sampleRow]) := .inl (by decide)
  refine ⟨((sweep_coverage _ _).1 _ orders).1, ?_⟩
  refine (sweep_coverage [sampleRow] sampleWorkflows).2 "instance-2" (some 5) sampleSwept (.single ?_)
  exact ⟨.sweep (sampleSweep [sampleRow]), ⟨orders, by decide, by decide,
    fun _ => ⟨sampleRow, List.mem_cons_self, rfl, rfl, by decide, rfl⟩, clear⟩, rfl⟩

/-- A failed creation keeps its place at the head, and the instance behind it is never claimed. -/
theorem starved :
    Orders (sampleSweep [failedRow, sampleRow]) [failedRow, sampleRow] ∧
    ¬ Covers sampleWorkflows (sampleSweep [failedRow, sampleRow]) [failedRow, sampleRow] ∧
    ∀ n, Reaches (next "instance-2" (some 5)) (Sweeps "instance-2" (some 5) fun _ _ => True)
      { rows := [failedRow, sampleRow], workflows := sampleWorkflows }
      { rows := [failedRow, sampleRow], workflows := sampleWorkflows, sweeps := n } := by
  have orders : Orders (sampleSweep [failedRow, sampleRow]) [failedRow, sampleRow] := by decide
  refine ⟨orders, ?_, fun n => ?_⟩
  · rw [covers_iff orders]
    rintro (all | dropped)
    · exact absurd (all failedRow List.mem_cons_self) (by decide)
    · exact absurd (dropped sampleRow List.mem_cons_self) (by decide)
  · induction n with
    | zero => exact .refl
    | succ n ih =>
      refine ih.tail ⟨.sweep (sampleSweep [failedRow, sampleRow]), ⟨orders, by decide, by decide, fun _ => ?_, trivial⟩, rfl⟩
      exact ⟨sampleRow, List.mem_cons_of_mem _ List.mem_cons_self, rfl, rfl, rfl, rfl⟩

end ControlPlane.Reconciliation
