import ControlPlane.Lifecycle

/-!
The ownership of IPv4 addresses over every run of the control plane. The lease
of an instance leaves `active` when a retention is accepted, while the outcome
of the retention decides about its lifecycle later: an instance whose retention
fails is open to mutations again, without its lease.
-/
namespace ControlPlane.Addresses
open ControlPlane.Tables ControlPlane.Runs ControlPlane.Domain ControlPlane.Commands ControlPlane.WorkflowSchema
open ControlPlane.ControlSchema ControlPlane.Transactions ControlPlane.Acceptance ControlPlane.ProjectionStore
open ControlPlane.AcceptanceRules ControlPlane.Lifecycle ControlPlane.EventValidation

/-- The lease of an instance. -/
def lease (db : ControlDb) (instanceId : Uuid) : Option Ipv4LeaseRow :=
  find Ipv4LeaseRow.instanceId instanceId db.ipv4Leases

/-- Every instance that accepts tenant mutations holds its lease in state `active`. -/
def LeasesHeld (db : ControlDb) : Prop :=
  ∀ row ∈ db.instances, mutableLifecycleState row.lifecycleState = true → row.activeOperationId = none →
    ∃ held, lease db row.id = some held ∧ held.state = .active

/-- A lifecycle that has not given its address up. -/
def Present (state : LifecycleState) : Prop := state ≠ .retained ∧ state ≠ .purged

/-- No two present instances name one address of a network. -/
def AddressesApart (db : ControlDb) : Prop :=
  ∀ a ∈ db.instances, ∀ b ∈ db.instances, Present a.lifecycleState → Present b.lifecycleState →
    ∀ first second, lease db a.id = some first → lease db b.id = some second →
      first.networkId = second.networkId → first.address = second.address → a.id = b.id

/-- Retentions quarantine the address, and no instance whose retention was
    accepted is reopened. -/
def Settled (s : State) : Action → Prop
  | .accept _ (.retention _) _ =>
    ∀ policy, s.db.retentionPolicy = some policy → policy.leaseReleaseMode = .quarantineUntilPurge
  | .project event _ _ =>
    ∀ row ∈ s.db.instances, row.id = event.aggregateId → row.retentionDeadline ≠ none → reopens event.data = false
  | _ => True

/-- What every settled step keeps. -/
structure Allocated (db : ControlDb) : Prop where
  instances : Keyed InstanceRow.id db.instances
  leases : Keyed Ipv4LeaseRow.instanceId db.ipv4Leases
  leased : ∀ row ∈ db.instances, ∃ held ∈ db.ipv4Leases, held.instanceId = row.id ∧
    (row.retentionDeadline = none → held.state = .active)
  closed : ∀ row ∈ db.instances, row.retentionDeadline ≠ none → mutableLifecycleState row.lifecycleState = false
  occupied : ∀ held ∈ db.ipv4Leases, held.state ≠ .released
  apart : ∀ a ∈ db.ipv4Leases, ∀ b ∈ db.ipv4Leases, a.networkId = b.networkId → a.address = b.address →
    a.instanceId = b.instanceId

theorem Allocated.held {db : ControlDb} (allocated : Allocated db) : LeasesHeld db := by
  intro row member open_ _
  obtain ⟨held, there, same, active⟩ := allocated.leased row member
  refine ⟨held, allocated.leases.find_eq there same, active ?_⟩
  by_contra due
  exact absurd (allocated.closed row member due) (by rw [open_]; exact Bool.noConfusion)

theorem Allocated.addresses {db : ControlDb} (allocated : Allocated db) : AddressesApart db := by
  intro a _ b _ _ _ first second ofFirst ofSecond network address
  have same := allocated.apart first (find_mem ofFirst) second (find_mem ofSecond) network address
  exact (find_key ofFirst).symm.trans (same.trans (find_key ofSecond))

section
variable {host : Host} {s t : State} {action : Action}

theorem closed_next (allocated : Allocated s.db) (settled : Settled s action) (steps : Steps s t action) :
    ∀ row ∈ t.db.instances, row.retentionDeadline ≠ none → mutableLifecycleState row.lifecycleState = false := by
  intro row member due
  cases instances_next allocated.instances steps row member with
  | kept _ old => exact allocated.closed row old due
  | created _ _ _ _ undue => exact absurd undue due
  | taken _ _ _ old present _ _ open_ _ deadline =>
    exact absurd (allocated.closed old present (deadline ▸ due)) (by rw [open_]; exact Bool.noConfusion)
  | retiring _ _ _ _ _ _ _ _ lifecycle => rw [lifecycle]; rfl
  | purging _ _ _ _ _ _ _ lifecycle => rw [lifecycle]; rfl
  | projected event _ _ old present about same =>
    subst same
    rw [projectedInstance_retentionDeadline] at due
    by_contra open_
    rcases projectedInstance_mutable (Bool.of_not_eq_false open_) with again | before
    · exact absurd again (by rw [settled old present about due]; exact Bool.noConfusion)
    · exact absurd (allocated.closed old present due) (by rw [before]; exact Bool.noConfusion)

/-- A step that leaves the leases alone leaves every instance its lease. -/
theorem leased_same (allocated : Allocated s.db) (steps : Steps s t action)
    (old : ∀ draws command requestHash, action ≠ .accept draws (.create command) requestHash)
    (same : t.db.ipv4Leases = s.db.ipv4Leases) :
    ∀ row ∈ t.db.instances, ∃ held ∈ t.db.ipv4Leases, held.instanceId = row.id ∧
      (row.retentionDeadline = none → held.state = .active) := by
  intro row member
  rcases (instances_next allocated.instances steps row member).before with ⟨_, _, _, created⟩ | ⟨before, there, id, undue⟩
  · exact absurd created (old _ _ _)
  · obtain ⟨held, present, owner, active⟩ := allocated.leased before there
    exact ⟨held, same ▸ present, owner.trans id.symm, fun none => active (undue none)⟩

/-- A new instance brings the lease that names a free address. -/
theorem allocated_create {row : InstanceRow} {lease : Ipv4LeaseRow} (allocated : Allocated s.db)
    (instances : Keyed InstanceRow.id t.db.instances)
    (closed : ∀ row ∈ t.db.instances, row.retentionDeadline ≠ none → mutableLifecycleState row.lifecycleState = false)
    (leased : lease.instanceId = row.id ∧ lease.state = .active)
    (free : ∀ other ∈ s.db.ipv4Leases, other.instanceId ≠ lease.instanceId ∧
      (other.networkId = lease.networkId → other.address = lease.address → other.state = .released))
    (rows : t.db.instances = s.db.instances ++ [row]) (leases : t.db.ipv4Leases = s.db.ipv4Leases ++ [lease]) :
    Allocated t.db := by
  have apart : ∀ other ∈ s.db.ipv4Leases, other.networkId = lease.networkId → other.address ≠ lease.address :=
    fun other member network address => allocated.occupied other member ((free other member).2 network address)
  refine ⟨instances, ?_, fun out member => ?_, closed, fun held member => ?_, fun a first b second network address => ?_⟩
  · rw [leases]; exact keyed_append allocated.leases fun other member => (free other member).1
  · rw [rows] at member
    rw [leases]
    rcases List.mem_append.mp member with old | new
    · obtain ⟨held, there, owner, active⟩ := allocated.leased out old
      exact ⟨held, List.mem_append_left _ there, owner, active⟩
    · rw [List.mem_singleton.mp new]
      exact ⟨lease, List.mem_append_right _ List.mem_cons_self, leased.1, fun _ => leased.2⟩
  · rw [leases] at member
    rcases List.mem_append.mp member with old | new
    · exact allocated.occupied held old
    · rw [List.mem_singleton.mp new, leased.2]; decide
  · rw [leases] at first second
    rcases List.mem_append.mp first with old | new <;> rcases List.mem_append.mp second with also | fresh
    · exact allocated.apart a old b also network address
    · rw [List.mem_singleton.mp fresh] at network address; exact absurd address (apart a old network)
    · rw [List.mem_singleton.mp new] at network address; exact absurd address.symm (apart b also network.symm)
    · rw [List.mem_singleton.mp new, List.mem_singleton.mp fresh]

/-- A moved lease is a lease of the same instance that names the same address. -/
theorem moveLease_from {db : ControlDb} {instanceId : Uuid} {mode : LeaseReleaseMode} {out : Ipv4LeaseRow}
    (member : out ∈ (moveLease instanceId mode db).ipv4Leases) : ∃ old ∈ db.ipv4Leases,
    out.networkId = old.networkId ∧ out.address = old.address ∧ out.instanceId = old.instanceId := by
  obtain ⟨old, there, ⟨-, rfl⟩ | ⟨-, rfl⟩⟩ := mem_update.mp member
  · exact ⟨old, there, rfl, rfl, rfl⟩
  · exact ⟨out, there, rfl, rfl, rfl⟩

/-- A retention that quarantines the lease of its instance. -/
theorem allocated_retention {row : InstanceRow} {rewrite : InstanceRow → InstanceRow} {event : LifecycleCommand}
    (allocated : Allocated s.db) (instances : Keyed InstanceRow.id t.db.instances)
    (closed : ∀ row ∈ t.db.instances, row.retentionDeadline ≠ none → mutableLifecycleState row.lifecycleState = false)
    (taken : Taken s.db t.db row rewrite event) (due : ∀ row, (rewrite row).retentionDeadline ≠ none)
    (leases : t.db.ipv4Leases = (moveLease row.id .quarantineUntilPurge s.db).ipv4Leases) : Allocated t.db := by
  refine ⟨instances, ?_, fun out member => ?_, closed, fun held member => ?_, fun a first b second network address => ?_⟩
  · rw [leases]; exact keyed_update allocated.leases fun _ _ => rfl
  · rw [leases]
    rcases taken_row allocated.instances taken member with ⟨old, other⟩ | ⟨present, rfl⟩
    · obtain ⟨held, there, owner, active⟩ := allocated.leased out old
      exact ⟨held, mem_update.mpr ⟨held, there, .inr ⟨fun moved => other (owner.symm.trans moved.1), rfl⟩⟩, owner, active⟩
    · obtain ⟨held, there, owner, -⟩ := allocated.leased row present
      refine ⟨_, List.mem_map_of_mem there, ?_, fun undue => absurd undue (due row)⟩
      split <;> exact owner.trans (taken.keeps row).symm
  · rw [leases] at member
    obtain ⟨old, there, ⟨-, rfl⟩ | ⟨-, rfl⟩⟩ := mem_update.mp member
    · exact LeaseState.noConfusion
    · exact allocated.occupied held there
  · rw [leases] at first second
    obtain ⟨old, there, network', address', owner⟩ := moveLease_from first
    obtain ⟨also, here, network'', address'', owner'⟩ := moveLease_from second
    have same := allocated.apart old there also here (network'.symm.trans (network.trans network''))
      (address'.symm.trans (address.trans address''))
    exact owner.trans (same.trans owner'.symm)

theorem allocated_next (allocated : Allocated s.db) (settled : Settled s action) (steps : Steps s t action) :
    Allocated t.db := by
  have instances := keyed_next allocated.instances steps
  have closed := closed_next allocated settled steps
  -- Most steps leave the leases alone.
  have same (old : ∀ draws command requestHash, action ≠ .accept draws (.create command) requestHash)
      (kept : t.db.ipv4Leases = s.db.ipv4Leases) : Allocated t.db :=
    ⟨instances, kept ▸ allocated.leases, leased_same allocated steps old kept, closed, kept ▸ allocated.occupied,
      kept ▸ allocated.apart⟩
  cases steps with
  | accepted draws request requestHash answer accepted =>
    cases accepted with
    | replayed _ unchanged => rw [unchanged]; exact allocated
    | create command row lease operation event _ _ _ _ _ _ _ _ leased free rows _ leases =>
      exact allocated_create allocated instances closed leased free rows leases
    | tenant _ _ _ _ _ asks _ _ _ leases =>
      refine same ?_ leases
      rintro _ command _ ⟨⟩
      cases asks
    | retention command row deadline policy event _ _ _ current taken leases =>
      rw [settled policy current] at leases
      exact allocated_retention allocated instances closed taken (fun _ => Option.some_ne_none _) leases
    | purge _ _ _ _ _ _ leases => exact same (fun _ _ _ impossible => nomatch impossible) leases
    | replay _ _ _ _ _ leases => exact same (fun _ _ _ impossible => nomatch impossible) leases
  | projected event delivery now projected => exact same (fun _ _ _ impossible => nomatch impossible) projected.leases
  | quiet _ rows leases =>
    refine ⟨instances, leases ▸ allocated.leases, ?_, closed, leases ▸ allocated.occupied, leases ▸ allocated.apart⟩
    rw [rows, leases]
    exact allocated.leased

theorem allocated_initial (catalog : Catalog) : Allocated (initial catalog).db :=
  ⟨List.nodup_nil, List.nodup_nil, fun _ impossible => absurd impossible List.not_mem_nil,
    fun _ impossible => absurd impossible List.not_mem_nil, fun _ impossible => absurd impossible List.not_mem_nil,
    fun _ impossible => absurd impossible List.not_mem_nil⟩

/-- In every run whose retentions quarantine and whose retained instances are
    not reopened, every instance open to mutations holds its active lease, and no
    two present instances name one address. -/
theorem addresses_owned {catalog : Catalog} (run : Reaches (next host) Settled (initial catalog) s) :
    LeasesHeld s.db ∧ AddressesApart s.db := by
  have allocated := reaches_invariant (fun s => Allocated s.db)
    (fun _ _ _ kept settled taken => allocated_next kept settled (steps_next taken)) run (allocated_initial catalog)
  exact ⟨allocated.held, allocated.addresses⟩

end

/-- An instance that is created and retained. -/
def sampleRetired : List Action :=
  [acceptSample, projectSample 0 sampleCreate "created" (sampleCompletion .createInstance .active),
   acceptSampleMutation 1000 sampleRetention .retention,
   projectSample 1 sampleRetention "retained" (sampleCompletion .retainInstance .retained)]

/-- An event is settled where no retention was accepted yet. -/
theorem settled_undue {event : WorkflowEvent} {delivery : MessageDeliveryIdentity} {now : Instant} {s : State}
    (undue : s.db.instances.all (fun row => row.retentionDeadline.isNone) = true) :
    Settled s (.project event delivery now) := by
  intro row member _ due
  exact absurd (Option.isNone_iff_eq_none.mp (List.all_eq_true.mp undue row member)) due

theorem settled_sampleRetired : Meets (next sampleHost) Settled (initial sampleCatalog) sampleRetired := by
  refine .cons trivial rfl (.cons (settled_undue rfl) rfl (.cons ?_ rfl (.cons ?_ rfl trivial)))
  · rintro policy ⟨⟩; rfl
  · exact fun _ _ _ _ => rfl

theorem addresses_owned_sampleRetired :
    ∃ s, execute (next sampleHost) (initial sampleCatalog) sampleRetired = some s ∧
      s.db.instances.map InstanceRow.lifecycleState = [.retained] ∧ LeasesHeld s.db ∧ AddressesApart s.db := by
  have executed : execute (next sampleHost) (initial sampleCatalog) sampleRetired = some _ := rfl
  exact ⟨_, executed, rfl, addresses_owned (reaches_execute settled_sampleRetired executed)⟩

/-- Whether an instance is open to mutations without an active lease. -/
def leaseLost (db : ControlDb) : Bool :=
  db.instances.any fun row => mutableLifecycleState row.lifecycleState && row.activeOperationId.isNone &&
    !(lease db row.id).any fun held => held.state = .active

theorem not_leasesHeld {db : ControlDb} (lost : leaseLost db = true) : ¬ LeasesHeld db := by
  intro held
  obtain ⟨row, member, without⟩ := List.any_eq_true.mp lost
  simp only [Bool.and_eq_true, Option.isNone_iff_eq_none, Bool.not_eq_true'] at without
  obtain ⟨found, there, active⟩ := held row member without.1.1 without.1.2
  simp [there, active] at without

/-- Whether two present instances name one address. -/
def addressShared (db : ControlDb) : Bool :=
  db.instances.any fun a => db.instances.any fun b =>
    a.id ≠ b.id && a.lifecycleState ≠ .retained && a.lifecycleState ≠ .purged && b.lifecycleState ≠ .retained &&
      b.lifecycleState ≠ .purged && (lease db a.id).any fun first => (lease db b.id).any fun second =>
        first.networkId = second.networkId && first.address = second.address

theorem not_addressesApart {db : ControlDb} (shared : addressShared db = true) : ¬ AddressesApart db := by
  intro apart
  obtain ⟨a, first, shared⟩ := List.any_eq_true.mp shared
  obtain ⟨b, second, shared⟩ := List.any_eq_true.mp shared
  simp only [Bool.and_eq_true, decide_eq_true_eq, Option.any_eq_true] at shared
  obtain ⟨⟨⟨⟨⟨other, notRetained⟩, notPurged⟩, retainedNot⟩, purgedNot⟩, one, ofOne, two, ofTwo, network, address⟩ := shared
  exact other (apart a first b second ⟨notRetained, notPurged⟩ ⟨retainedNot, purgedNot⟩ one two ofOne ofTwo network address)

/-- A catalog that releases addresses when a retention is accepted. -/
def releasingCatalog : Catalog := { sampleCatalog with retentionPolicy := some ⟨24, .releaseOnRetain⟩ }

/-- A second creation on the same network. -/
def acceptOther : Action :=
  .accept (sampleDraws 2000 ["operation-2", "event-2", "outbox-2", "instance-2", "lease-2"])
    (.create
      { sampleIdentity "other" with
        correlationId := "correlation-2", imageId := "debian-12", flavorId := "small", networkId := "lab",
        hostname := "vm2", sshPublicKeys := [] }) "hash-2"

/-- A retention that fails cleanly leaves its instance open without its lease,
    and one that releases the address lets another instance name it at once. -/
theorem leases_lost :
    (∃ s, Reaches (next sampleHost) Anything (initial sampleCatalog) s ∧ ¬ LeasesHeld s.db) ∧
      ∃ s, Reaches (next sampleHost) Anything (initial releasingCatalog) s ∧ ¬ AddressesApart s.db := by
  have failed : execute (next sampleHost) (initial sampleCatalog)
    [acceptSample, projectSample 0 sampleCreate "created" (sampleCompletion .createInstance .active),
     acceptSampleMutation 1000 sampleRetention .retention,
     projectSample 1 sampleRetention "failed" (sampleFailure .retainInstance)] = some _ := rfl
  have released : execute (next sampleHost) (initial releasingCatalog)
    [acceptSample, projectSample 0 sampleCreate "created" (sampleCompletion .createInstance .active),
     acceptSampleMutation 1000 sampleRetention .retention, acceptOther] = some _ := rfl
  exact ⟨⟨_, reaches_execute (meets_anything _ _) failed, not_leasesHeld rfl⟩,
    _, reaches_execute (meets_anything _ _) released, not_addressesApart rfl⟩

end ControlPlane.Addresses
