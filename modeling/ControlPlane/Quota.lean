import ControlPlane.AcceptanceRules
import ControlPlane.Lifecycle

/-!
Quotas under concurrent acceptances. A creation, a resize and a snapshot creation
each read what their project uses, and commit on the strength of it later: the
locks that they hold meanwhile are not the project's. What a commit adds is
within the quota as long as the usage has not grown since it was read.
-/
namespace ControlPlane.Quota
open ControlPlane.Programs ControlPlane.Programs.Program ControlPlane.Runs ControlPlane.Tables ControlPlane.Texts
open ControlPlane.Domain ControlPlane.Commands ControlPlane.WorkflowSchema ControlPlane.ControlSchema
open ControlPlane.Transactions ControlPlane.Acceptance ControlPlane.AcceptanceRules ControlPlane.EventValidation

/-- A request that adds to what its project uses. -/
inductive Intent
  | create (draws : Draws) (command : CreateInstanceCommand) (requestHash : String)
  | resize (draws : Draws) (command : ResizeInstanceCommand) (requestHash : String)
  | snapshotCreate (draws : Draws) (command : CreateSnapshotCommand) (requestHash : String)

namespace Intent

def projectId : Intent → Uuid
  | .create _ command _ => command.projectId
  | .resize _ command _ => command.projectId
  | .snapshotCreate _ command _ => command.projectId

def begun (host : Host) : Intent → Accepting
  | .create draws command requestHash => acceptCreate host draws command requestHash
  | .resize draws command requestHash => acceptResize draws command requestHash
  | .snapshotCreate draws command requestHash => acceptSnapshotCreate draws command requestHash

end Intent

/-- The store with its sessions. -/
abbrev Store : Type := Transactions.State ControlDb ControlLock ControlQuery StoreError Intent AcceptedMutation

abbrev Conversation : Type := Past ControlDb ControlLock ControlQuery

/-! ### What is used, and what may be -/

structure Within (used limit : Usage) : Prop where
  instances : used.instances ≤ limit.instances
  cpuCount : used.cpuCount ≤ limit.cpuCount
  memoryMib : used.memoryMib ≤ limit.memoryMib
  diskGib : used.diskGib ≤ limit.diskGib

theorem Within.trans {a b c : Usage} (first : Within a b) (second : Within b c) : Within a c :=
  ⟨Nat.le_trans first.instances second.instances, Nat.le_trans first.cpuCount second.cpuCount,
    Nat.le_trans first.memoryMib second.memoryMib, Nat.le_trans first.diskGib second.diskGib⟩

def limit (quota : QuotaRow) : Usage := ⟨quota.instances, quota.cpuCount, quota.memoryMib, quota.diskGib⟩

/-- Every project stays within its quota. -/
def WithinQuota (db : ControlDb) : Prop :=
  ∀ projectId quota, find QuotaRow.projectId projectId db.quotas = some quota →
    Within (usage db projectId) (limit quota) ∧ snapshotUsage db projectId ≤ quota.snapshots

/-- Every quota in force was in force before, and not above what it is. -/
def NotLowered (before after : List QuotaRow) : Prop :=
  ∀ projectId quota, find QuotaRow.projectId projectId after = some quota →
    ∃ old, find QuotaRow.projectId projectId before = some old ∧ Within (limit old) (limit quota) ∧
      old.snapshots ≤ quota.snapshots

theorem NotLowered.refl (quotas : List QuotaRow) : NotLowered quotas quotas :=
  fun _ quota found => ⟨quota, found, ⟨Nat.le_refl _, Nat.le_refl _, Nat.le_refl _, Nat.le_refl _⟩, Nat.le_refl _⟩

theorem NotLowered.trans {first second third : List QuotaRow} (one : NotLowered first second)
    (two : NotLowered second third) : NotLowered first third := by
  intro projectId quota found
  obtain ⟨middle, between, within, snapshots⟩ := two projectId quota found
  obtain ⟨old, before, below, fewer⟩ := one projectId middle between
  exact ⟨old, before, below.trans within, Nat.le_trans fewer snapshots⟩

/-- What the lock of an instance protects: its project and its sizing. -/
def view : ControlLock → ControlDb → Option (Uuid × Resources)
  | .instance_ id, db => (db.instance_ id).map fun row => (row.projectId, row.sizing)
  | _, _ => none

/-- What every other transaction leaves alone while quotas are not lowered. -/
structure Undisturbed (before after : ControlDb) : Prop where
  quotas : NotLowered before.quotas after.quotas
  usage : ∀ projectId, Within (usage after projectId) (usage before projectId)
  snapshots : ∀ projectId, snapshotUsage after projectId ≤ snapshotUsage before projectId
  keyed : Keyed InstanceRow.id before.instances → Keyed InstanceRow.id after.instances
  sizings : ∀ lock value, view lock before = some value → view lock after = some value

/-- The steps of a store whose other transactions add nothing to any project. -/
def Admissible (s : Store) : Transactions.Action ControlDb Intent → Prop
  | .outside db => Undisturbed s.db db
  | _ => True

/-- What a statement read of a project's usage has not grown since. -/
def NotGrown (projectId : Uuid) (read db : ControlDb) : ControlQuery → Prop
  | .usage => Within (usage db projectId) (usage read projectId)
  | .snapshotUsage => snapshotUsage db projectId ≤ snapshotUsage read projectId
  | _ => True

/-- A session commits only while the usage that it read has not grown. -/
def Unraced (s : Store) : Transactions.Action ControlDb Intent → Prop
  | .commit id => ∀ session ∈ s.sessions, session.id = id → ∀ query read, ⟨.select query, read⟩ ∈ session.past →
      NotGrown session.request.projectId read s.db query
  | action => Admissible s action

/-! ### Sums over the instances -/

def counts (projectId : Uuid) (row : InstanceRow) : Bool := row.projectId = projectId && row.lifecycleState ≠ .purged

/-- What an instance adds to a sum over the instances of a project. -/
def weight (projectId : Uuid) (amount : Resources → Nat) (row : InstanceRow) : Nat :=
  if counts projectId row then amount row.sizing else 0

def total (projectId : Uuid) (amount : Resources → Nat) (instances : List InstanceRow) : Nat :=
  (instances.map (weight projectId amount)).sum

theorem sum_counted (projectId : Uuid) (amount : Resources → Nat) (instances : List InstanceRow) :
    ((countedInstances projectId instances).map fun row => amount row.sizing).sum = total projectId amount instances := by
  change ((instances.filter (counts projectId)).map _).sum = _
  induction instances with
  | nil => rfl
  | cons row rest ih =>
    simp only [total, List.map_cons, List.sum_cons, weight] at ih ⊢
    cases counted : counts projectId row with
    | true => rw [List.filter_cons_of_pos counted, List.map_cons, List.sum_cons, ih]; rfl
    | false => rw [List.filter_cons_of_neg (by simp [counted]), ih]; simp

/-- A project's usage, as sums over all instances. -/
theorem usage_eq (db : ControlDb) (projectId : Uuid) :
    usage db projectId =
      ⟨total projectId (fun _ => 1) db.instances, total projectId Resources.cpuCount db.instances,
        total projectId Resources.memoryMiB db.instances, total projectId Resources.diskGiB db.instances⟩ := by
  have length : (countedInstances projectId db.instances).length = total projectId (fun _ => 1) db.instances := by
    simp [← sum_counted]
  simp only [usage, usageOf, Usage.mk.injEq]
  exact ⟨length, sum_counted projectId Resources.cpuCount _, sum_counted projectId Resources.memoryMiB _,
    sum_counted projectId Resources.diskGiB _⟩

/-- A new instance adds its sizing to its project. -/
theorem usage_append {db after : ControlDb} {row : InstanceRow} (instances : after.instances = db.instances ++ [row])
    (projectId : Uuid) :
    usage after projectId = if counts projectId row then
      ⟨(usage db projectId).instances + 1, (usage db projectId).cpuCount + row.sizing.cpuCount,
        (usage db projectId).memoryMib + row.sizing.memoryMiB, (usage db projectId).diskGib + row.sizing.diskGiB⟩
    else usage db projectId := by
  simp only [usage_eq, instances, total, List.map_append, List.sum_append, List.map_cons, List.map_nil, List.sum_cons,
    List.sum_nil, weight, Nat.add_zero]
  split <;> rfl

/-- One instance is rewritten, with another sizing. -/
def Resized (db after : ControlDb) (id : Uuid) (sizing : InstanceRow → Resources) : Prop :=
  ∃ rewrite : InstanceRow → InstanceRow, (∀ row, (rewrite row).id = row.id ∧ (rewrite row).projectId = row.projectId ∧
    (rewrite row).lifecycleState = row.lifecycleState ∧ (rewrite row).sizing = sizing row) ∧
      after.instances = (db.updateInstance id rewrite).instances

section
variable {db after : ControlDb} {live : InstanceRow} {sizing : InstanceRow → Resources}

theorem Resized.keyed {id : Uuid} (resized : Resized db after id sizing) (keyed : Keyed InstanceRow.id db.instances) :
    Keyed InstanceRow.id after.instances := by
  obtain ⟨rewrite, keeps, instances⟩ := resized
  rw [instances]
  exact keyed_update keyed fun row _ => (keeps row).1

theorem total_resized (keyed : Keyed InstanceRow.id db.instances) (member : live ∈ db.instances)
    (resized : Resized db after live.id sizing) (projectId : Uuid) (amount : Resources → Nat) :
    total projectId amount after.instances + weight projectId amount live =
      total projectId amount db.instances + if counts projectId live then amount (sizing live) else 0 := by
  obtain ⟨rewrite, keeps, instances⟩ := resized
  have exchanged := sum_update keyed member rewrite (weight projectId amount)
  obtain ⟨-, project, lifecycle, sized⟩ := keeps live
  have counted : counts projectId (rewrite live) = counts projectId live := by simp only [counts, project, lifecycle]
  have rewritten : weight projectId amount (rewrite live) = if counts projectId live then amount (sizing live) else 0 := by
    rw [weight, counted, sized]
  rw [← rewritten, instances]
  exact exchanged

/-- An instance that does not count adds nothing, whatever its sizing is. -/
theorem usage_uncounted (keyed : Keyed InstanceRow.id db.instances) (member : live ∈ db.instances)
    (resized : Resized db after live.id sizing) {projectId : Uuid} (uncounted : counts projectId live = false) :
    usage after projectId = usage db projectId := by
  have same (amount : Resources → Nat) : total projectId amount after.instances = total projectId amount db.instances := by
    simpa [weight, uncounted] using total_resized keyed member resized projectId amount
  simp only [usage_eq, same]

/-- An instance that keeps its sizing keeps its project's usage. -/
theorem usage_same (keyed : Keyed InstanceRow.id db.instances) (member : live ∈ db.instances)
    (resized : Resized db after live.id InstanceRow.sizing) (projectId : Uuid) :
    usage after projectId = usage db projectId := by
  have same (amount : Resources → Nat) : total projectId amount after.instances = total projectId amount db.instances :=
    Nat.add_right_cancel (total_resized keyed member resized projectId amount)
  simp only [usage_eq, same]

/-- A resize exchanges one sizing for another. -/
theorem usage_resized (keyed : Keyed InstanceRow.id db.instances) (member : live ∈ db.instances)
    (resized : Resized db after live.id sizing) {projectId : Uuid} (counted : counts projectId live = true) :
    (usage after projectId).instances = (usage db projectId).instances ∧
      (usage after projectId).cpuCount + live.sizing.cpuCount = (usage db projectId).cpuCount + (sizing live).cpuCount ∧
      (usage after projectId).memoryMib + live.sizing.memoryMiB = (usage db projectId).memoryMib + (sizing live).memoryMiB ∧
      (usage after projectId).diskGib + live.sizing.diskGiB = (usage db projectId).diskGib + (sizing live).diskGiB := by
  have exchange (amount : Resources → Nat) : total projectId amount after.instances + amount live.sizing =
      total projectId amount db.instances + amount (sizing live) := by
    simpa [weight, counted] using total_resized keyed member resized projectId amount
  simp only [usage_eq]
  exact ⟨Nat.add_right_cancel (exchange fun _ => 1), exchange Resources.cpuCount, exchange Resources.memoryMiB,
    exchange Resources.diskGiB⟩

end

/-! ### What a commit rests on -/

/-- A row that was read under the lock of its instance. -/
def Locked (past : Conversation) (row : InstanceRow) : Prop :=
  ∃ before after read, past = before ++ ⟨.lock (.instance_ row.id), ()⟩ :: after ∧ ⟨.select .instance_, read⟩ ∈ after ∧
    read.instance_ row.id = some row

/-- A quota and a usage that were read, and fit. -/
def Headroom (past : Conversation) (projectId : Uuid) (query : ControlQuery) (fits : ControlDb → QuotaRow → Prop) :
    Prop :=
  ∃ quotaDb quota read, ⟨.select .quota, quotaDb⟩ ∈ past ∧
    find QuotaRow.projectId projectId quotaDb.quotas = some quota ∧ ⟨.select query, read⟩ ∈ past ∧ fits read quota

/-- What a commit of each request was checked against, and what it writes. -/
inductive Backed (intent : Intent) (past : Conversation) (commit : Commit ControlDb StoreError AcceptedMutation) : Prop
  | replayed (same : ∀ db after, commit.write db = .ok after → after = db)
  | create (sizing : Resources)
      (headroom : Headroom past intent.projectId .usage fun read quota =>
        Within ⟨(usage read intent.projectId).instances + 1, (usage read intent.projectId).cpuCount + sizing.cpuCount,
          (usage read intent.projectId).memoryMib + sizing.memoryMiB,
          (usage read intent.projectId).diskGib + sizing.diskGiB⟩ (limit quota))
      (writes : ∀ db after, commit.write db = .ok after → ∃ row, (∀ other ∈ db.instances, other.id ≠ row.id) ∧
        row.projectId = intent.projectId ∧ row.sizing = sizing ∧ after.instances = db.instances ++ [row] ∧
        after.snapshots = db.snapshots ∧ after.quotas = db.quotas)
  | resize (row : InstanceRow) (target : Resources) (locked : Locked past row)
      (project : row.projectId = intent.projectId)
      (headroom : Headroom past intent.projectId .usage fun read quota =>
        (usage read intent.projectId).cpuCount + target.cpuCount ≤ quota.cpuCount + row.desiredCpuCount ∧
          (usage read intent.projectId).memoryMib + target.memoryMiB ≤ quota.memoryMib + row.desiredMemoryMib ∧
          (usage read intent.projectId).diskGib + target.diskGiB ≤ quota.diskGib + row.desiredDiskGib)
      (writes : ∀ db after, commit.write db = .ok after →
        Resized db after row.id (fun _ => target) ∧ after.snapshots = db.snapshots ∧ after.quotas = db.quotas)
  | snapshotCreate (row : InstanceRow) (locked : Locked past row)
      (headroom : Headroom past intent.projectId .snapshotUsage fun read quota =>
        snapshotUsage read intent.projectId + 1 ≤ quota.snapshots)
      (writes : ∀ db after, commit.write db = .ok after → Resized db after row.id InstanceRow.sizing ∧
        (∃ snapshot, snapshot.projectId = intent.projectId ∧ after.snapshots = db.snapshots ++ [snapshot]) ∧
        after.quotas = db.quotas)

section
variable {past : Conversation} {α β : Type} {good : Conversation → β → Prop}

theorem ends_checked {result : Except DomainError α} {f : α → Step β}
    (rest : ∀ a, result = .ok a → (f a).Ends past good) : Reading.Ends (checked result >>= f) past good := by
  cases result with
  | error _ => trivial
  | ok a => exact rest a rfl

theorem findReplayedResponse_ends {identity : MutationIdentity} {action : WorkflowAction} {requestHash : String} :
    (findReplayedResponse identity action requestHash).Ends past fun _ _ => True := by
  refine ends_select fun db => ?_
  split
  · trivial
  · split <;> trivial

theorem unlessReplayed_ends {identity : MutationIdentity} {action : WorkflowAction} {requestHash : String}
    {accepting : Accepting} {good : Conversation → Commit ControlDb StoreError AcceptedMutation → Prop}
    (replayed : ∀ later answer, good later ⟨answer, .ok⟩) (rest : ∀ later, accepting.Ends later good) :
    (unlessReplayed identity action requestHash accepting).Ends past good := by
  refine ends_lock (ends_bind findReplayedResponse_ends fun later found _ => ?_)
  cases found with
  | none => exact rest later
  | some answer => exact replayed later answer

theorem lockInstanceForMutation_ends {projectId instanceId : Uuid} :
    (lockInstanceForMutation projectId instanceId).Ends past fun later row => ∃ read,
      later = past ++ [⟨.lock (.instance_ instanceId), ()⟩, ⟨.select .instance_, read⟩] ∧ row.id = instanceId ∧
        read.instance_ row.id = some row ∧ row.projectId = projectId := by
  refine ends_lock (ends_select fun read => ?_)
  split
  next => trivial
  next row found =>
    obtain ⟨present, project⟩ := Option.filter_eq_some_iff.mp found
    have id : row.id = instanceId := find_key present
    split
    · trivial
    · split
      · trivial
      · exact ⟨read, by simp, id, id ▸ present, of_decide_eq_true project⟩

theorem assertResizeQuotaHeadroom_ends {projectId : Uuid} {current target : Resources} :
    (assertResizeQuotaHeadroom projectId current target).Ends past fun later _ => ∃ quotaDb quota read,
      later = past ++ [⟨.select .quota, quotaDb⟩, ⟨.select .usage, read⟩] ∧
        find QuotaRow.projectId projectId quotaDb.quotas = some quota ∧
        (usage read projectId).cpuCount + target.cpuCount ≤ quota.cpuCount + current.cpuCount ∧
        (usage read projectId).memoryMib + target.memoryMiB ≤ quota.memoryMib + current.memoryMiB ∧
        (usage read projectId).diskGib + target.diskGiB ≤ quota.diskGib + current.diskGiB := by
  refine ends_select fun quotaDb => ?_
  split
  next => trivial
  next quota found =>
    refine ends_select fun read => ?_
    dsimp only
    split
    next => trivial
    next fits => exact ⟨quotaDb, quota, read, by simp, found, by omega, by omega, by omega⟩

theorem assertSnapshotHeadroom_ends {projectId : Uuid} :
    (assertSnapshotHeadroom projectId).Ends past fun later _ => ∃ quotaDb quota read,
      later = past ++ [⟨.select .quota, quotaDb⟩, ⟨.select .snapshotUsage, read⟩] ∧
        find QuotaRow.projectId projectId quotaDb.quotas = some quota ∧
        snapshotUsage read projectId + 1 ≤ quota.snapshots := by
  refine ends_select fun quotaDb => ?_
  split
  next => trivial
  next quota found =>
    refine ends_select fun read => ?_
    split
    next => trivial
    next fits => exact ⟨quotaDb, quota, read, by simp, found, by omega⟩

/-- The flavor and the quota that a creation is checked against. -/
theorem loadAcceptanceContext_ends {command : CreateInstanceCommand} :
    (loadAcceptanceContext command).Ends past fun later context => ∃ quotaDb, ⟨.select .quota, quotaDb⟩ ∈ later ∧
      find QuotaRow.projectId command.projectId quotaDb.quotas = some context.quota := by
  refine ends_select fun db => ?_
  split
  next => trivial
  next =>
    split
    next => trivial
    next =>
      refine ends_select fun _ => ends_select fun _ => ends_select fun _ => ends_select fun quotaDb => ?_
      split
      next quota _ _ _ found =>
        split
        · trivial
        · split
          · trivial
          · exact ⟨quotaDb, by simp, found⟩
      next => trivial

theorem assertQuotaHeadroom_ends {command : CreateInstanceCommand} {context : AcceptanceContext} :
    (assertQuotaHeadroom command context).Ends past fun later _ => ∃ read,
      later = past ++ [⟨.select .usage, read⟩] ∧
        Within ⟨(usage read command.projectId).instances + 1,
          (usage read command.projectId).cpuCount + context.flavor.cpuCount,
          (usage read command.projectId).memoryMib + context.flavor.memoryMib,
          (usage read command.projectId).diskGib + context.flavor.minimumDiskGib⟩ (limit context.quota) := by
  refine ends_select fun read => ?_
  dsimp only
  split
  next => trivial
  next fits => exact ⟨read, rfl, by dsimp [limit]; omega, by dsimp [limit]; omega, by dsimp [limit]; omega, by dsimp [limit]; omega⟩

theorem reserveIpv4Address_ends {host : Host} {context : AcceptanceContext} :
    (reserveIpv4Address host context).Ends past fun later _ => past <+: later := by
  refine ends_lock (ends_select fun db => ?_)
  dsimp only
  split
  · trivial
  · unfold checked
    split
    · exact ⟨[_, _], by simp; exact ⟨rfl, rfl⟩⟩
    · trivial

variable {host : Host} {draws : Draws} {requestHash : String}

theorem acceptCreate_backed (command : CreateInstanceCommand) :
    (acceptCreate host draws command requestHash).Ends past (Backed (.create draws command requestHash)) := by
  refine unlessReplayed_ends (fun _ _ => .replayed fun db after same => (Except.ok.inj same).symm) fun start => ?_
  refine ends_bind loadAcceptanceContext_ends fun first context ⟨quotaDb, readQuota, found⟩ => ?_
  refine ends_bind assertQuotaHeadroom_ends fun second _ ⟨read, then_, fits⟩ => ?_
  refine ends_bind reserveIpv4Address_ends fun third address later => ?_
  refine ends_checked fun records built => ?_
  obtain ⟨-, project, -, -, -, -, -, -, active, sizing, same⟩ := buildAcceptanceRecords_ok built
  subst then_
  refine .create ⟨context.flavor.cpuCount, context.flavor.memoryMib, context.flavor.minimumDiskGib⟩
    ⟨quotaDb, context.quota, read, later.subset (List.mem_append_left _ readQuota), found,
      later.subset (List.mem_append_right _ List.mem_cons_self), fits⟩ fun db after written => ?_
  have creates := writeAcceptanceRecords_ok active same written
  exact ⟨records.row, creates.fresh, project, sizing, creates.instances, creates.snapshots,
    congrArg Catalog.quotas creates.frame.catalog⟩

theorem acceptResize_backed (command : ResizeInstanceCommand) :
    (acceptResize draws command requestHash).Ends past (Backed (.resize draws command requestHash)) := by
  refine unlessReplayed_ends (fun _ _ => .replayed fun db after same => (Except.ok.inj same).symm) fun start => ?_
  refine ends_bind lockInstanceForMutation_ends fun first row ⟨read, locked, id, found, project⟩ => ?_
  subst locked
  refine ends_select fun flavors => ?_
  split
  next => trivial
  next flavor _ =>
    refine ends_checked fun _ _ => ends_bind assertResizeQuotaHeadroom_ends ?_
    rintro _ - ⟨quotaDb, quota, used, rfl, quotaFound, cpuCount, memoryMib, diskGib⟩
    refine .resize row (resizeTarget flavor row.sizing command.diskGiB)
      ⟨start, [⟨.select .instance_, read⟩, ⟨.select .flavor, flavors⟩, ⟨.select .quota, quotaDb⟩, ⟨.select .usage, used⟩],
        read, by simp [id], by simp, found⟩ project
      ⟨quotaDb, quota, used, by simp, quotaFound, by simp, cpuCount, memoryMib, diskGib⟩ fun db after written => ?_
    obtain ⟨-, -, _, rfl⟩ := writeMutation_ok written
    refine ⟨⟨_, ?_, rfl⟩, rfl, rfl⟩
    exact fun row => ⟨rfl, rfl, rfl, rfl⟩

theorem acceptSnapshotCreate_backed (command : CreateSnapshotCommand) :
    (acceptSnapshotCreate draws command requestHash).Ends past (Backed (.snapshotCreate draws command requestHash)) := by
  refine unlessReplayed_ends (fun _ _ => .replayed fun db after same => (Except.ok.inj same).symm) fun start => ?_
  refine ends_bind lockInstanceForMutation_ends fun first row ⟨read, locked, id, found, project⟩ => ?_
  subst locked
  refine ends_bind assertSnapshotHeadroom_ends ?_
  rintro _ - ⟨quotaDb, quota, used, rfl, quotaFound, fits⟩
  refine ends_select fun names => ?_
  split
  next => trivial
  next =>
    refine .snapshotCreate row
      ⟨start, [⟨.select .instance_, read⟩, ⟨.select .quota, quotaDb⟩, ⟨.select .snapshotUsage, used⟩,
        ⟨.select .snapshotName, names⟩], read, by simp [id], by simp, found⟩
      ⟨quotaDb, quota, used, by simp, quotaFound, by simp, fits⟩ fun db after written => ?_
    obtain ⟨middle, inserted, written⟩ := bind_ok written
    obtain ⟨snapshots, appended, same⟩ := bind_ok inserted
    cases same
    obtain ⟨rfl, -⟩ := insertRow_ok appended
    obtain ⟨last, mutated, projected⟩ := bind_ok written
    obtain ⟨-, -, _, rfl⟩ := writeMutation_ok mutated
    obtain ⟨_, rfl⟩ := writeSnapshotProjection_ok projected
    refine ⟨⟨_, ?_, rfl⟩, ⟨_, rfl, rfl⟩, rfl⟩
    exact fun row => ⟨rfl, rfl, rfl, rfl⟩

end

/-! ### Commits -/

/-- The sizing that was read under the lock is that of one row of the table. -/
theorem live_row {s : Store} {session : Session ControlDb ControlLock ControlQuery StoreError Intent AcceptedMutation}
    {row : InstanceRow} (current : Current view s) (member : session ∈ s.sessions) (locked : Locked session.past row) :
    ∃ live ∈ s.db.instances, live.id = row.id ∧ live.projectId = row.projectId ∧ live.sizing = row.sizing := by
  obtain ⟨before, after, read, split, asked, found⟩ := locked
  have seen := current session member before (.instance_ row.id) after split .instance_ read asked
    (row.projectId, row.sizing) (by simp only [view, found, Option.map_some])
  obtain ⟨live, present, same⟩ := Option.map_eq_some_iff.mp seen
  obtain ⟨project, sizing⟩ := Prod.mk.inj same
  exact ⟨live, find_mem present, find_key present, project, sizing⟩

theorem view_resized {db after : ControlDb} {id : Uuid} {sizing : InstanceRow → Resources} {l : ControlLock}
    (resized : Resized db after id sizing) (other : l ≠ .instance_ id) : view l after = view l db := by
  obtain ⟨rewrite, keeps, instances⟩ := resized
  cases l with
  | advisory => rfl
  | snapshot => rfl
  | instance_ target =>
    have apart : target ≠ id := fun same => other (same ▸ rfl)
    simp only [view, ControlDb.instance_, instances, ControlDb.updateInstance]
    rw [find_update fun row => (keeps row).1]
    cases found : find InstanceRow.id target db.instances with
    | none => rfl
    | some row => simp [(find_key found : row.id = target) ▸ apart]

theorem backed_respects {intent : Intent} {past : Conversation} {commit : Commit ControlDb StoreError AcceptedMutation}
    (backed : Backed intent past commit) : Respects view past commit := by
  intro db after written l unheld value seen
  have away {row : InstanceRow} (locked : Locked past row) : l ≠ .instance_ row.id := by
    obtain ⟨_, _, _, split, _, _⟩ := locked
    rintro rfl
    exact unheld (held_split split)
  cases backed with
  | replayed same => rw [same db after written]; exact seen
  | create _ _ writes =>
    obtain ⟨row, _, _, _, instances, _, _⟩ := writes db after written
    cases l with
    | advisory => cases seen
    | snapshot => cases seen
    | instance_ target =>
      obtain ⟨found, present, same⟩ := Option.map_eq_some_iff.mp seen
      refine Option.map_eq_some_iff.mpr ⟨found, ?_, same⟩
      rw [ControlDb.instance_, instances, find_append, show find InstanceRow.id target db.instances = some found from present]
      rfl
  | resize row _ locked _ _ writes => rw [view_resized (writes db after written).1 (away locked)]; exact seen
  | snapshotCreate row locked _ writes => rw [view_resized (writes db after written).1 (away locked)]; exact seen

/-- What every unraced step keeps. -/
structure Kept (s : Store) : Prop where
  sound : Sound (fun intent => Ending (Backed intent)) s
  current : Current view s
  keyed : Keyed InstanceRow.id s.db.instances
  remembered : ∀ session ∈ s.sessions, ∀ query read, ⟨.select query, read⟩ ∈ session.past →
    NotLowered read.quotas s.db.quotas
  within : WithinQuota s.db

section
variable {s : Store} {session : Session ControlDb ControlLock ControlQuery StoreError Intent AcceptedMutation}
  {commit : Commit ControlDb StoreError AcceptedMutation} {after : ControlDb}

/-- What was read fits what is in force now. -/
theorem Headroom.now (kept : Kept s) (member : session ∈ s.sessions) {query : ControlQuery}
    {fits : ControlDb → QuotaRow → Prop} (headroom : Headroom session.past session.request.projectId query fits)
    (fresh : ∀ query read, ⟨.select query, read⟩ ∈ session.past → NotGrown session.request.projectId read s.db query)
    {quota : QuotaRow} (found : find QuotaRow.projectId session.request.projectId s.db.quotas = some quota) :
    ∃ read old, fits read old ∧ NotGrown session.request.projectId read s.db query ∧ Within (limit old) (limit quota) ∧
      old.snapshots ≤ quota.snapshots := by
  obtain ⟨quotaDb, old, read, readQuota, before, readUsage, fit⟩ := headroom
  obtain ⟨was, same, lower, fewer⟩ := kept.remembered session member _ quotaDb readQuota _ quota found
  obtain rfl := Option.some.inj (before.symm.trans same)
  exact ⟨read, old, fit, fresh _ _ readUsage, lower, fewer⟩

theorem counts_project {projectId : Uuid} {row : InstanceRow} (counted : counts projectId row = true) :
    row.projectId = projectId := by
  simp only [counts, Bool.and_eq_true, decide_eq_true_eq] at counted
  exact counted.1

theorem within_commit (kept : Kept s) (member : session ∈ s.sessions) (backed : Backed session.request session.past commit)
    (fresh : ∀ query read, ⟨.select query, read⟩ ∈ session.past → NotGrown session.request.projectId read s.db query)
    (written : commit.write s.db = .ok after) : WithinQuota after := by
  cases backed with
  | replayed same => rw [same _ _ written]; exact kept.within
  | create sizing headroom writes =>
    obtain ⟨row, -, project, sized, instances, snapshots, quotas⟩ := writes _ _ written
    intro projectId quota found
    rw [quotas] at found
    obtain ⟨below, fewer⟩ := kept.within projectId quota found
    refine ⟨?_, by rw [snapshotUsage, snapshots]; exact fewer⟩
    rw [usage_append instances]
    split
    next counted =>
      obtain rfl := (counts_project counted).symm.trans project
      obtain ⟨read, old, fits, now, lower, -⟩ := headroom.now kept member fresh found
      refine Within.trans ?_ (fits.trans lower)
      rw [sized]
      exact ⟨Nat.add_le_add_right now.instances _, Nat.add_le_add_right now.cpuCount _,
        Nat.add_le_add_right now.memoryMib _, Nat.add_le_add_right now.diskGib _⟩
    next => exact below
  | resize row target locked project headroom writes =>
    obtain ⟨resized, snapshots, quotas⟩ := writes _ _ written
    obtain ⟨live, there, id, same, sized⟩ := live_row kept.current member locked
    rw [← id] at resized
    intro projectId quota found
    rw [quotas] at found
    obtain ⟨below, fewer⟩ := kept.within projectId quota found
    refine ⟨?_, by rw [snapshotUsage, snapshots]; exact fewer⟩
    cases counted : counts projectId live with
    | false => rw [usage_uncounted kept.keyed there resized counted]; exact below
    | true =>
      obtain rfl := (counts_project counted).symm.trans (same.trans project)
      obtain ⟨read, old, ⟨cpuFits, memoryFits, diskFits⟩, now, lower, -⟩ := headroom.now kept member fresh found
      obtain ⟨instances, cpuCount, memoryMib, diskGib⟩ := usage_resized kept.keyed there resized counted
      rw [sized] at cpuCount memoryMib diskGib
      have := now.cpuCount; have := now.memoryMib; have := now.diskGib
      have := lower.cpuCount; have := lower.memoryMib; have := lower.diskGib
      simp only [limit, InstanceRow.sizing] at *
      exact ⟨instances ▸ below.instances, by dsimp only; omega, by dsimp only; omega, by dsimp only; omega⟩
  | snapshotCreate row locked headroom writes =>
    obtain ⟨resized, ⟨snapshot, project, snapshots⟩, quotas⟩ := writes _ _ written
    obtain ⟨live, there, id, -, -⟩ := live_row kept.current member locked
    rw [← id] at resized
    intro projectId quota found
    rw [quotas] at found
    obtain ⟨below, fewer⟩ := kept.within projectId quota found
    refine ⟨usage_same kept.keyed there resized projectId ▸ below, ?_⟩
    simp only [snapshotUsage, snapshots, List.countP_append, List.countP_singleton]
    by_cases own : snapshot.projectId = projectId
    · obtain rfl := own.symm.trans project
      obtain ⟨read, old, fits, now, -, lower⟩ := headroom.now kept member fresh found
      have now : snapshotUsage s.db session.request.projectId ≤ snapshotUsage read session.request.projectId := now
      simp only [snapshotUsage] at fits now
      split <;> omega
    · simpa [snapshotUsage, own] using fewer

/-- A commit leaves the quotas alone, and the instances keyed. -/
theorem backed_keeps {intent : Intent} {past : Conversation} {db : ControlDb} (backed : Backed intent past commit)
    (keyed : Keyed InstanceRow.id db.instances) (written : commit.write db = .ok after) :
    after.quotas = db.quotas ∧ Keyed InstanceRow.id after.instances := by
  cases backed with
  | replayed same => rw [same _ _ written]; exact ⟨rfl, keyed⟩
  | create _ _ writes =>
    obtain ⟨row, fresh, _, _, instances, _, quotas⟩ := writes _ _ written
    exact ⟨quotas, instances ▸ keyed_append keyed fresh⟩
  | resize _ _ _ _ _ writes =>
    obtain ⟨resized, _, quotas⟩ := writes _ _ written
    exact ⟨quotas, resized.keyed keyed⟩
  | snapshotCreate _ _ _ writes =>
    obtain ⟨resized, _, quotas⟩ := writes _ _ written
    exact ⟨quotas, resized.keyed keyed⟩

end

/-! ### Steps and runs -/

section
variable {host : Host} {s t : Store} {action : Transactions.Action ControlDb Intent}

theorem begun_backed (intent : Intent) : (intent.begun host).Ends [] (Backed intent) := by
  cases intent with
  | create draws command requestHash => exact acceptCreate_backed command
  | resize draws command requestHash => exact acceptResize_backed command
  | snapshotCreate draws command requestHash => exact acceptSnapshotCreate_backed command

/-- The quotas that sessions have read are not above those in force. -/
theorem remembered_next (kept : Kept s) (unraced : Unraced s action)
    (taken : next (Intent.begun host) s action = some t) :
    ∀ session ∈ t.sessions, ∀ query read, ⟨.select query, read⟩ ∈ session.past → NotLowered read.quotas t.db.quotas := by
  cases steps_next taken with
  | start request same =>
    subst same
    intro session member query read asked
    rcases List.mem_append.mp member with old | new
    · exact kept.remembered session old query read asked
    · rw [List.mem_singleton.mp new] at asked; cases asked
  | lock session present l resume _ _ same =>
    subst same
    intro out member query read asked
    rcases mem_replace member with rfl | ⟨old, -⟩
    · rcases List.mem_append.mp asked with before | now
      · exact kept.remembered session present query read before
      · cases List.mem_singleton.mp now
    · exact kept.remembered out old query read asked
  | select session present statement resume _ same =>
    subst same
    intro out member query read asked
    rcases mem_replace member with rfl | ⟨old, -⟩
    · rcases List.mem_append.mp asked with before | now
      · exact kept.remembered session present query read before
      · cases List.mem_singleton.mp now; exact .refl _
    · exact kept.remembered out old query read asked
  | commit session present commit ends after written same =>
    subst same
    have backed := kept.sound.follows session present
    rw [ends] at backed
    intro out member query read asked
    rw [(backed_keeps backed kept.keyed written).1]
    exact kept.remembered out (mem_without member).1 query read asked
  | leave id same =>
    subst same
    exact fun out member => kept.remembered out (mem_without member).1
  | outside db same =>
    subst same
    exact fun out member query read asked => (kept.remembered out member query read asked).trans unraced.quotas

theorem within_next (kept : Kept s) (unraced : Unraced s action) (taken : next (Intent.begun host) s action = some t) :
    Keyed InstanceRow.id t.db.instances ∧ WithinQuota t.db := by
  cases steps_next taken with
  | start request same => subst same; exact ⟨kept.keyed, kept.within⟩
  | lock _ _ _ _ _ _ same => subst same; exact ⟨kept.keyed, kept.within⟩
  | select _ _ _ _ _ same => subst same; exact ⟨kept.keyed, kept.within⟩
  | commit session present commit ends after written same =>
    subst same
    have backed := kept.sound.follows session present
    rw [ends] at backed
    exact ⟨(backed_keeps backed kept.keyed written).2,
      within_commit kept present backed (unraced session present rfl) written⟩
  | leave _ same => subst same; exact ⟨kept.keyed, kept.within⟩
  | outside db same =>
    subst same
    refine ⟨unraced.keyed kept.keyed, fun projectId quota found => ?_⟩
    obtain ⟨old, before, lower, fewer⟩ := unraced.quotas projectId quota found
    obtain ⟨below, count⟩ := kept.within projectId old before
    exact ⟨(unraced.usage projectId).trans (below.trans lower),
      Nat.le_trans (unraced.snapshots projectId) (Nat.le_trans count fewer)⟩

theorem kept_next (kept : Kept s) (unraced : Unraced s action) (taken : next (Intent.begun host) s action = some t) :
    Kept t := by
  obtain ⟨keyed, within⟩ := within_next kept unraced taken
  refine ⟨sound_next begun_backed kept.sound taken, ?_, keyed, remembered_next kept unraced taken, within⟩
  refine current_next (fun _ _ _ backed => backed_respects backed) kept.sound kept.current ?_ taken
  rintro db rfl
  exact unraced.sizings

/-- In every run whose sessions commit only while the usage that they read has
    not grown, every project stays within its quota in every committed state. -/
theorem quota_kept {db : ControlDb} (keyed : Keyed InstanceRow.id db.instances) (within : WithinQuota db)
    (run : Reaches (next (Intent.begun host)) Unraced ⟨db, [], 0⟩ s) : WithinQuota s.db := by
  have start : Kept ⟨db, [], 0⟩ := by
    refine ⟨⟨?_, ?_, ?_, ?_⟩, ?_, keyed, ?_, within⟩ <;> exact fun _ impossible => absurd impossible List.not_mem_nil
  exact (reaches_invariant Kept (fun _ _ _ kept unraced taken => kept_next kept unraced taken) run start).within

end

/-! ### One creation after the other, and two at once -/

/-- A catalog whose project may have one instance. -/
def cappedCatalog : Catalog :=
  { Lifecycle.sampleCatalog with quotas := [⟨sampleCreate.projectId, 1, 8, 8192, 100, 4, 4⟩] }

def sampleIntent (name : String) : Intent :=
  .create (Lifecycle.sampleDraws 0 (["operation-", "event-", "outbox-", "instance-", "lease-"].map (· ++ name)))
    { Lifecycle.sampleIdentity name with
      correlationId := sampleCreate.correlationId, imageId := "debian-12", flavorId := "small", networkId := "lab",
      hostname := name, sshPublicKeys := [] } name

def sampleStore : Store := ⟨{ toCatalog := cappedCatalog }, [], 0⟩

theorem sampleStore_within : WithinQuota sampleStore.db := by
  intro projectId quota _
  exact ⟨⟨Nat.zero_le _, Nat.zero_le _, Nat.zero_le _, Nat.zero_le _⟩, Nat.zero_le _⟩

/-- A creation that is committed, and one that finds the quota used up. -/
def sampleSerial : List (Transactions.Action ControlDb Intent) :=
  .start (sampleIntent "a") :: List.replicate 10 (.step 0) ++
    .commit 0 :: .start (sampleIntent "b") :: List.replicate 8 (.step 1) ++ [.rollback 1]

/-- Whether a commit is the first. -/
def firstCommit (s : Store) : Transactions.Action ControlDb Intent → Bool
  | .commit _ => s.db.instances.isEmpty && s.db.snapshots.isEmpty
  | .outside _ => false
  | _ => true

/-- Before anything is used, nothing has grown. -/
theorem unraced_first (s : Store) (action : Transactions.Action ControlDb Intent) (first : firstCommit s action = true) :
    Unraced s action := by
  cases action with
  | commit id =>
    simp only [firstCommit, Bool.and_eq_true, List.isEmpty_iff] at first
    intro session _ _ query read _
    cases query with
    | usage =>
      have unused : usage s.db session.request.projectId = ⟨0, 0, 0, 0⟩ := by rw [usage_eq, first.1]; rfl
      rw [NotGrown, unused]
      exact ⟨Nat.zero_le _, Nat.zero_le _, Nat.zero_le _, Nat.zero_le _⟩
    | snapshotUsage => rw [NotGrown, snapshotUsage, first.2]; exact Nat.zero_le _
    | _ => trivial
  | outside db => cases first
  | _ => trivial

theorem quota_kept_sampleSerial :
    ∃ s, execute (next (Intent.begun sampleHost)) sampleStore sampleSerial = some s ∧ s.db.instances.length = 1 ∧
      WithinQuota s.db := by
  have executed : execute (next (Intent.begun sampleHost)) sampleStore sampleSerial = some _ := rfl
  have keyed : Keyed InstanceRow.id sampleStore.db.instances := List.nodup_nil
  exact ⟨_, executed, rfl, quota_kept keyed sampleStore_within
    (reaches_execute (meets_of_checks unraced_first rfl) executed)⟩

/-- Two creations of one project that both read the usage before either commits. -/
def sampleRace : List (Transactions.Action ControlDb Intent) :=
  .start (sampleIntent "a") :: .start (sampleIntent "b") :: List.replicate 10 (.step 0) ++ List.replicate 8 (.step 1) ++
    .commit 0 :: List.replicate 2 (.step 1) ++ [.commit 1]

/-- Whether the first project has more instances than it may. -/
def exceeded (db : ControlDb) : Bool :=
  db.quotas.head?.any fun quota => quota.instances < (usage db quota.projectId).instances

theorem not_withinQuota {db : ControlDb} (exceeds : exceeded db = true) : ¬ WithinQuota db := by
  intro within
  obtain ⟨quota, first, more⟩ := (Option.any_eq_true _ _).mp exceeds
  obtain ⟨rest, rows⟩ := List.head?_eq_some_iff.mp first
  have found : find QuotaRow.projectId quota.projectId db.quotas = some quota := by simp [rows, find]
  have below := (within quota.projectId quota found).1.instances
  simp only [limit, decide_eq_true_eq] at below more
  omega

/-- Both are committed, and the project has two instances where it may have one. -/
theorem quota_exceeded :
    ∃ s, Reaches (next (Intent.begun sampleHost)) Admissible sampleStore s ∧ WithinQuota sampleStore.db ∧
      ¬ WithinQuota s.db := by
  have executed : execute (next (Intent.begun sampleHost)) sampleStore sampleRace = some _ := rfl
  refine ⟨_, reaches_execute (meets_of_forall fun action member _ => ?_) executed, sampleStore_within, not_withinQuota rfl⟩
  simp only [sampleRace, List.mem_append, List.mem_cons, List.mem_replicate] at member
  rcases action with _ | _ | _ | _ | db
  case outside => simp at member
  all_goals trivial

end ControlPlane.Quota
