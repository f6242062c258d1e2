import ControlPlane.Addresses
import ControlPlane.Retention

/-!
What becomes of an instance's address. Its lease leaves `active` once, when the
first retention of the instance is accepted, and that retention's mode decides
where it goes: into quarantine or back to the pool (`Pooled.told`). No later
retention, no purge and no outcome of either moves it again.
-/
namespace ControlPlane.AddressPool
open ControlPlane.Tables ControlPlane.Runs ControlPlane.Domain ControlPlane.Commands ControlPlane.EventValidation
open ControlPlane.WorkflowSchema ControlPlane.ControlSchema ControlPlane.Transactions ControlPlane.Acceptance
open ControlPlane.ProjectionStore ControlPlane.AcceptanceRules ControlPlane.Lifecycle

/-! ### The retention that counts -/

/-- The mode in which a published command gives up the address of an instance. -/
def releaseMode (instanceId : Uuid) (row : OutboxRow CommandMessage) : Option LeaseReleaseMode :=
  match row.message with
  | .lifecycle command =>
    match command.data with
    | .retention data => if command.aggregateId = instanceId then some data.leaseReleaseMode else none
    | _ => none
  | _ => none

/-- The mode of the first retention that was accepted for an instance. -/
def firstMode (db : ControlDb) (instanceId : Uuid) : Option LeaseReleaseMode :=
  db.outbox.findSome? (releaseMode instanceId)

/-- Where a lease is after that retention. -/
def movedTo : Option LeaseReleaseMode → LeaseState
  | none => .active
  | some .quarantineUntilPurge => .quarantined
  | some .releaseOnRetain => .released

/-- No lease of the instance occupies an address or counts against a quota. -/
def Returned (db : ControlDb) (instanceId : Uuid) : Prop :=
  ∀ held ∈ db.ipv4Leases, held.instanceId = instanceId → held.state ≠ .active ∧ held.state ≠ .quarantined

/-- The instance's address is in quarantine, and no other lease occupies it. -/
def Withheld (db : ControlDb) (instanceId : Uuid) : Prop :=
  ∃ held ∈ db.ipv4Leases, held.instanceId = instanceId ∧ held.state = .quarantined ∧
    ∀ other ∈ db.ipv4Leases, other.instanceId ≠ instanceId → other.networkId = held.networkId →
      other.address = held.address → other.state = .released

/-- What every step keeps. -/
structure Pooled (db : ControlDb) : Prop where
  leased : ∀ row ∈ db.instances, ∃ held ∈ db.ipv4Leases, held.instanceId = row.id
  told : ∀ held ∈ db.ipv4Leases, held.state = movedTo (firstMode db held.instanceId)
  known : ∀ instanceId, firstMode db instanceId ≠ none → ∃ held ∈ db.ipv4Leases, held.instanceId = instanceId
  apart : ∀ a ∈ db.ipv4Leases, ∀ b ∈ db.ipv4Leases, a.networkId = b.networkId → a.address = b.address →
    a.instanceId ≠ b.instanceId → a.state = .released ∨ b.state = .released

theorem firstMode_append {db after : ControlDb} {more : List (OutboxRow CommandMessage)}
    (appended : after.outbox = db.outbox ++ more) (instanceId : Uuid) :
    firstMode after instanceId = (firstMode db instanceId).or (more.findSome? (releaseMode instanceId)) := by
  rw [firstMode, appended, List.findSome?_append]
  rfl

/-- Only a retention gives an address up. -/
theorem firstMode_quiet {db after : ControlDb} {message : CommandMessage} {outboxId : Uuid} {occurredAt : Instant}
    (quiet : ∀ command data, message = .lifecycle command → command.data ≠ .retention data)
    (appended : after.outbox = db.outbox ++ [⟨outboxId, message, 0, occurredAt⟩]) (instanceId : Uuid) :
    firstMode after instanceId = firstMode db instanceId := by
  have nothing : releaseMode instanceId ⟨outboxId, message, 0, occurredAt⟩ = none := by
    unfold releaseMode
    split
    next command same =>
      split
      next data kind => exact absurd kind (quiet command data same)
      next => rfl
    next => rfl
  rw [firstMode_append appended]
  simp [nothing]

section
variable {host : Host} {s t : State} {db after : ControlDb}

/-- What leaves the leases and the retentions alone. -/
theorem Pooled.kept (pooled : Pooled db) (instances : ∀ row ∈ after.instances, ∃ old ∈ db.instances, row.id = old.id)
    (leases : after.ipv4Leases = db.ipv4Leases) (modes : ∀ instanceId, firstMode after instanceId = firstMode db instanceId) :
    Pooled after := by
  refine ⟨fun row member => ?_, ?_, ?_, leases ▸ pooled.apart⟩
  · obtain ⟨old, there, same⟩ := instances row member
    obtain ⟨held, present, owner⟩ := pooled.leased old there
    exact ⟨held, leases ▸ present, owner.trans same.symm⟩
  · rw [leases]
    intro held member
    rw [modes]
    exact pooled.told held member
  · intro instanceId given
    rw [leases]
    exact pooled.known instanceId (modes instanceId ▸ given)

theorem updated_before {rows : List InstanceRow} {instanceId : Uuid} {rewrite : InstanceRow → InstanceRow}
    (keeps : ∀ row, (rewrite row).id = row.id) (same : rows = (db.updateInstance instanceId rewrite).instances) :
    ∀ row ∈ rows, ∃ old ∈ db.instances, row.id = old.id := by
  intro row member
  rw [same] at member
  obtain ⟨old, there, ⟨-, rfl⟩ | ⟨-, rfl⟩⟩ := mem_update.mp member
  · exact ⟨old, there, keeps old⟩
  · exact ⟨row, there, rfl⟩

theorem pooled_mutates {now : Instant} {m : Mutation} (pooled : Pooled db) (mutates : Mutates db after now m)
    (keeps : ∀ row, (m.rewrite row).id = row.id) (leases : m.leases db.ipv4Leases = db.ipv4Leases)
    (quiet : ∀ data, m.event.data ≠ .retention data) : Pooled after := by
  obtain ⟨outboxId, appended⟩ := mutates.outbox
  refine pooled.kept (updated_before ?_ mutates.instances) (mutates.leases.trans leases) ?_
  · exact fun row => keeps row
  refine firstMode_quiet (fun command data same => ?_) appended
  cases same
  exact quiet data

/-- A new instance brings a lease of its own. -/
theorem pooled_create {now : Instant} {records : AcceptanceRecords} (pooled : Pooled db)
    (creates : Creates db after now records) (owner : records.lease.instanceId = records.row.id)
    (active : records.lease.state = .active) (quiet : ∀ data, records.event.data ≠ .retention data) : Pooled after := by
  obtain ⟨outboxId, appended⟩ := creates.outbox
  have modes := firstMode_quiet (fun command data same => by cases same; exact quiet data) appended
  -- No retention was accepted for an instance that is new.
  have unretained : firstMode db records.lease.instanceId = none := by
    by_contra given
    obtain ⟨held, there, same⟩ := pooled.known _ given
    exact (creates.free held there).1 same
  have occupied : ∀ other ∈ db.ipv4Leases, other.networkId = records.lease.networkId →
      other.address = records.lease.address → other.state = .released := fun other member => (creates.free other member).2
  refine ⟨fun row member => ?_, fun held member => ?_, fun instanceId given => ?_, fun a first b second network address other => ?_⟩
  · rw [creates.instances] at member
    rw [creates.leases]
    rcases List.mem_append.mp member with old | new
    · obtain ⟨held, there, same⟩ := pooled.leased row old
      exact ⟨held, List.mem_append_left _ there, same⟩
    · rw [List.mem_singleton.mp new]
      exact ⟨records.lease, List.mem_append_right _ (List.mem_singleton_self _), owner⟩
  · rw [creates.leases] at member
    rw [modes]
    rcases List.mem_append.mp member with old | new
    · exact pooled.told held old
    · rw [List.mem_singleton.mp new, unretained, active]
      rfl
  · rw [modes] at given
    obtain ⟨held, there, same⟩ := pooled.known instanceId given
    exact ⟨held, creates.leases ▸ List.mem_append_left _ there, same⟩
  · rw [creates.leases] at first second
    rcases List.mem_append.mp first with old | new <;> rcases List.mem_append.mp second with also | fresh
    · exact pooled.apart a old b also network address other
    · rw [List.mem_singleton.mp fresh] at network address
      exact .inl (occupied a old network address)
    · rw [List.mem_singleton.mp new] at network address
      exact .inr (occupied b also network.symm address.symm)
    · exact absurd (by rw [List.mem_singleton.mp new, List.mem_singleton.mp fresh]) other

/-- A lease after a retention was accepted for an instance: moved, when it is the
    instance's and was active, and as it was otherwise. -/
theorem moved_cases {instanceId : Uuid} {mode : LeaseReleaseMode} {held : Ipv4LeaseRow}
    (member : held ∈ (moveLease instanceId mode db).ipv4Leases) :
    ∃ old ∈ db.ipv4Leases, held.instanceId = old.instanceId ∧ held.networkId = old.networkId ∧
      held.address = old.address ∧
      (old.instanceId = instanceId ∧ old.state = .active ∧ held.state = movedTo (some mode) ∨
        ¬ (old.instanceId = instanceId ∧ old.state = .active) ∧ held.state = old.state) := by
  obtain ⟨old, there, ⟨⟨owner, active⟩, rfl⟩ | ⟨elsewhere, rfl⟩⟩ := mem_update.mp member
  · refine ⟨old, there, rfl, rfl, rfl, .inl ⟨owner, active, ?_⟩⟩
    cases mode <;> rfl
  · exact ⟨held, there, rfl, rfl, rfl, .inr ⟨elsewhere, rfl⟩⟩

theorem moved_owner {instanceId : Uuid} {mode : LeaseReleaseMode} {owner : Uuid}
    (there : ∃ held ∈ db.ipv4Leases, held.instanceId = owner) :
    ∃ held ∈ (moveLease instanceId mode db).ipv4Leases, held.instanceId = owner := by
  obtain ⟨held, member, same⟩ := there
  refine ⟨_, List.mem_map_of_mem member, ?_⟩
  dsimp only
  split <;> exact same

/-- A lease that is active belongs to an instance without a retention. -/
theorem Pooled.unretained (pooled : Pooled db) {held : Ipv4LeaseRow} (member : held ∈ db.ipv4Leases) :
    held.state = .active ↔ firstMode db held.instanceId = none := by
  rw [pooled.told held member]
  cases firstMode db held.instanceId with
  | none => exact iff_of_true rfl rfl
  | some mode => cases mode <;> exact iff_of_false LeaseState.noConfusion (Option.some_ne_none _)

theorem pooled_retention {draws : Draws} {command : RetainInstanceCommand} {row : InstanceRow}
    {policy : RetentionPolicy} (pooled : Pooled db) (present : row ∈ db.instances)
    (mutates : Mutates db after draws.now (retentionMutation draws command row policy)) : Pooled after := by
  obtain ⟨outboxId, appended⟩ := mutates.outbox
  have leases : after.ipv4Leases = (moveLease row.id policy.leaseReleaseMode db).ipv4Leases := mutates.leases
  have modes (instanceId : Uuid) : firstMode after instanceId =
      (firstMode db instanceId).or (if row.id = instanceId then some policy.leaseReleaseMode else none) := by
    rw [firstMode_append appended]
    simp [releaseMode, retentionMutation, commandEnvelope]
  refine ⟨fun out member => ?_, fun held member => ?_, fun instanceId given => ?_, fun a first b second network address other => ?_⟩
  · have before := updated_before (fun row => by rfl) mutates.instances out member
    obtain ⟨old, there, same⟩ := before
    rw [leases, same]
    exact moved_owner (pooled.leased old there)
  · rw [leases] at member
    obtain ⟨old, there, owner, -, -, ⟨own, active, moved⟩ | ⟨elsewhere, same⟩⟩ := moved_cases member
    · have first := (pooled.unretained there).mp active
      rw [moved, modes, owner, first, Option.none_or, if_pos own.symm]
    · rw [same, modes, owner, pooled.told old there]
      by_cases own : old.instanceId = row.id
      · -- The instance was retained before, and the first retention counts.
        have given : firstMode db old.instanceId ≠ none := fun none =>
          elsewhere ⟨own, (pooled.unretained there).mpr none⟩
        obtain ⟨mode, first⟩ := Option.ne_none_iff_exists'.mp given
        rw [first, Option.some_or]
      · rw [if_neg (Ne.symm own), Option.or_none]
  · rw [leases]
    rw [modes] at given
    by_cases own : row.id = instanceId
    · exact moved_owner (own ▸ pooled.leased row present)
    · rw [if_neg own, Option.or_none] at given
      exact moved_owner (pooled.known instanceId given)
  · rw [leases] at first second
    obtain ⟨old, there, owner, network', address', state⟩ := moved_cases first
    obtain ⟨also, here, owner', network'', address'', state'⟩ := moved_cases second
    rw [network', network''] at network
    rw [address', address''] at address
    rw [owner, owner'] at other
    -- A released lease stays as it is.
    have stays {before after : Ipv4LeaseRow} (released : before.state = .released)
        (moves : before.instanceId = row.id ∧ before.state = .active ∧
            after.state = movedTo (some policy.leaseReleaseMode) ∨
          ¬ (before.instanceId = row.id ∧ before.state = .active) ∧ after.state = before.state) :
        after.state = .released := by
      rcases moves with ⟨-, active, -⟩ | ⟨-, same⟩
      · rw [released] at active; cases active
      · rw [same, released]
    rcases pooled.apart old there also here network address other with released | released
    · exact .inl (stays released state)
    · exact .inr (stays released state')

theorem pooled_effects {draws : Draws} {answer : AcceptedMutation} {request : Request} (pooled : Pooled db)
    (effects : Effects host draws db after answer request) : Pooled after := by
  cases effects with
  | replayed _ same => exact same ▸ pooled
  | create command context address records _ _ built creates =>
    obtain ⟨_, first, rest⟩ := bind_ok built
    obtain ⟨_, second, done⟩ := bind_ok rest
    cases done
    exact pooled_create pooled creates rfl rfl fun _ impossible => nomatch impossible
  | power _ _ _ mutates => exact pooled_mutates pooled mutates (fun _ => rfl) rfl fun _ impossible => nomatch impossible
  | resize _ _ _ _ _ _ mutates =>
    exact pooled_mutates pooled mutates (fun _ => rfl) rfl fun _ impossible => nomatch impossible
  | snapshotCreate _ _ _ _ mutates =>
    exact pooled_mutates pooled mutates (fun _ => rfl) rfl fun _ impossible => nomatch impossible
  | snapshotAction action _ _ _ _ _ _ _ mutates =>
    refine pooled_mutates pooled mutates (fun _ => rfl) rfl fun _ impossible => ?_
    cases action <;> cases impossible
  | retention _ row _ idle _ mutates => exact pooled_retention pooled (find_mem idle.found) mutates
  | purge _ _ _ _ _ _ _ _ _ mutates =>
    exact pooled_mutates pooled mutates (fun _ => rfl) rfl fun _ impossible => nomatch impossible
  | replay _ _ _ _ outboxId _ _ written =>
    subst written
    refine pooled.kept (fun row member => ⟨row, member, rfl⟩) rfl (firstMode_quiet (fun command data same => ?_) rfl)
    cases same

theorem pooled_next {action : Lifecycle.Action} (pooled : Pooled s.db) (taken : next host s action = some t) :
    Pooled t.db := by
  cases does_next taken with
  | accepted draws request requestHash answer _ effects _ => exact pooled_effects pooled effects
  | projected event delivery now _ applied _ =>
    have projected := applied.projected
    have modes (instanceId : Uuid) : firstMode t.db instanceId = firstMode s.db instanceId := by
      rw [firstMode, projected.outbox]
      rfl
    exact pooled.kept (updated_before (projectedInstance_id event) projected.instances) projected.leases modes
  | lettered letter delivery now _ written =>
    rw [written]
    exact pooled.kept (fun row member => ⟨row, member, rfl⟩) rfl fun _ => rfl
  | administered catalog written =>
    rw [written]
    exact pooled.kept (fun row member => ⟨row, member, rfl⟩) rfl fun _ => rfl
  | nothing _ same => exact same ▸ pooled

theorem pooled_initial (catalog : Catalog) : Pooled (initial catalog).db :=
  ⟨fun _ impossible => absurd impossible List.not_mem_nil, fun _ impossible => absurd impossible List.not_mem_nil,
    fun _ given => absurd rfl given, fun _ impossible => absurd impossible List.not_mem_nil⟩

theorem pooled_run {catalog : Catalog} (run : Reaches (next host) Anything (initial catalog) s) : Pooled s.db :=
  reaches_invariant (fun s => Pooled s.db) (fun _ _ _ pooled _ taken => pooled_next pooled taken) run
    (pooled_initial catalog)

/-! ### The address of a purged instance -/

/-- The address of a purged instance is back in the pool exactly when the first
    retention of the instance gave it up at once. The purge has no part in it. An
    address that was quarantined stays out of the pool, also before the purge. -/
theorem returned_iff_released {catalog : Catalog} (run : Reaches (next host) Anything (initial catalog) s)
    {row : InstanceRow} (member : row ∈ s.db.instances) :
    (row.lifecycleState = .purged → (Returned s.db row.id ↔ firstMode s.db row.id = some .releaseOnRetain)) ∧
    (firstMode s.db row.id = some .quarantineUntilPurge → Withheld s.db row.id) := by
  have pooled := pooled_run run
  obtain ⟨held, there, owner⟩ := pooled.leased row member
  have told := owner ▸ pooled.told held there
  constructor
  · intro _
    constructor
    · intro returned
      have away := returned held there owner
      rw [told] at away
      cases mode : firstMode s.db row.id with
      | none => rw [mode] at away; exact absurd rfl away.1
      | some mode' =>
        rw [mode] at away
        cases mode' with
        | quarantineUntilPurge => exact absurd rfl away.2
        | releaseOnRetain => rfl
    · intro released other present same
      have moved := pooled.told other present
      rw [same, released] at moved
      rw [moved]
      exact ⟨LeaseState.noConfusion, LeaseState.noConfusion⟩
  · intro quarantined
    rw [quarantined] at told
    refine ⟨held, there, owner, told, fun other present apart network address => ?_⟩
    rcases pooled.apart other present held there network address (owner ▸ apart) with released | released
    · exact released
    · exact absurd (told.symm.trans released) LeaseState.noConfusion

end

/-- An instance that is created, retained and purged. -/
def samplePurged : List Lifecycle.Action :=
  Retention.samplePurging ++ [projectSample 2 samplePurge "purged" (sampleCompletion .purgeInstance .purged)]

theorem returned_iff_samplePurged :
    ∃ s, execute (next sampleHost) (initial Addresses.releasingCatalog) samplePurged = some s ∧
      ∃ row ∈ s.db.instances, row.lifecycleState = .purged ∧ Returned s.db row.id := by
  have executed : execute (next sampleHost) (initial Addresses.releasingCatalog) samplePurged = some _ := rfl
  refine ⟨_, executed, _, List.mem_singleton_self _, rfl, ?_⟩
  have run := reaches_execute (meets_anything _ _) executed
  exact ((returned_iff_released run (List.mem_singleton_self _)).1 rfl).mpr rfl

/-- The quarantined address of an instance stays in quarantine when the instance
    is purged. -/
theorem purged_quarantined :
    ∃ s, Reaches (next sampleHost) Anything (initial sampleCatalog) s ∧
      ∃ row ∈ s.db.instances, row.lifecycleState = .purged ∧ ¬ Returned s.db row.id := by
  have executed : execute (next sampleHost) (initial sampleCatalog) samplePurged = some _ := rfl
  refine ⟨_, reaches_execute (meets_anything _ _) executed, _, List.mem_singleton_self _, rfl, fun returned => ?_⟩
  exact (returned _ (List.mem_singleton_self _) rfl).2 rfl

end ControlPlane.AddressPool
