import ControlPlane.Lifecycle

/-!
The quota of addresses: what a creation is refused for, against what a project is
told that it uses. The reservation counts the leases of the network, of whichever
project; the report counts the leases of the project, on whichever network.
-/
namespace ControlPlane.AddressQuota
open ControlPlane.Programs ControlPlane.Programs.Program ControlPlane.Tables ControlPlane.Domain ControlPlane.Commands
open ControlPlane.EventValidation ControlPlane.WorkflowSchema ControlPlane.ControlSchema ControlPlane.Transactions
open ControlPlane.Acceptance ControlPlane.AcceptanceRules ControlPlane.Lifecycle

/-- The amounts that a project is limited to, or uses. -/
structure QuotaAmounts where
  instances : Nat
  cpuCount : Nat
  memoryMiB : Nat
  diskGiB : Nat
  ipv4Addresses : Nat
  snapshots : Nat

structure QuotaView where
  projectId : Uuid
  limits : QuotaAmounts
  usage : QuotaAmounts
  measuredAt : Instant

/-- The leases that a project's usage counts. -/
def leased (db : ControlDb) (projectId : Uuid) : List Ipv4LeaseRow :=
  db.ipv4Leases.filter fun lease => lease.projectId = projectId && lease.occupies

/-- The quota and the usage that a project is told of. -/
def getQuota (db : ControlDb) (projectId : Uuid) (now : Instant) : Option QuotaView :=
  (find QuotaRow.projectId projectId db.quotas).map fun quota =>
    let used := usage db projectId
    { projectId,
      limits := ⟨quota.instances, quota.cpuCount, quota.memoryMib, quota.diskGib, quota.ipv4Addresses, quota.snapshots⟩,
      usage := ⟨used.instances, used.cpuCount, used.memoryMib, used.diskGib, (leased db projectId).length, snapshotUsage db projectId⟩,
      measuredAt := now }

/-! ### The claim -/

def ipv4Refusal : StoreError := .domain ⟨.quotaExceeded, "The create request exceeds IPv4 quota."⟩

/-- What a creation of a project passes before its address is reserved. -/
structure Passes (host : Host) (command : CreateInstanceCommand) (requestHash : String) (db : ControlDb)
    (context : AcceptanceContext) : Prop where
  new : Reading.on (findReplayedResponse command.toMutationIdentity .createInstance requestHash) db = .ok none
  loaded : Reading.on (loadAcceptanceContext command) db = .ok context
  headroom : Reading.on (assertQuotaHeadroom command context) db = .ok ()

/-- One more address than the project has exceeds its limit, as it is told. -/
def Exceeds (db : ControlDb) (projectId : Uuid) (now : Instant) : Prop :=
  ∃ view, getQuota db projectId now = some view ∧ view.usage.ipv4Addresses + 1 > view.limits.ipv4Addresses

section
variable {host : Host} {draws : Draws} {command : CreateInstanceCommand} {requestHash : String} {db : ControlDb}
  {context : AcceptanceContext}

/-- What follows the checks that a creation passes. -/
theorem atomically_acceptCreate (passes : Passes host command requestHash db context) :
    atomically (acceptCreate host draws command requestHash) db =
      Reading.on (reserveIpv4Address host context) db >>= fun address =>
        Reading.on (checked (buildAcceptanceRecords host draws command context address)) db >>= fun records =>
          writeAcceptanceRecords command.toMutationIdentity records requestHash (draws.fresh 2) draws.now db >>= fun after =>
            return (records.accepted, after) := by
  have begins : Reading.on (lockIdempotencyScope command.toMutationIdentity .createInstance) db = .ok () := rfl
  rw [acceptCreate, unlessReplayed, atomically_bind, begins]
  refine (atomically_bind _ _ db).trans ?_
  rw [passes.new]
  refine (atomically_bind _ _ db).trans ?_
  rw [passes.loaded]
  refine (atomically_bind _ _ db).trans ?_
  rw [passes.headroom]
  refine (atomically_bind _ _ db).trans ?_
  cases Reading.on (reserveIpv4Address host context) db with
  | error error => rfl
  | ok address => exact atomically_bind _ _ db

/-- No other check of the creation is refused in the same words. -/
theorem allocateIpv4_other {number : String → Option Int} {pool : Ipv4Pool} {addresses : List String} {error : DomainError}
    (refused : allocateIpv4 number pool addresses = .error error) : StoreError.domain error ≠ ipv4Refusal := by
  simp only [allocateIpv4] at refused
  repeat' split at refused
  all_goals cases refused <;> simp [ipv4Refusal]

/-- A sequence fails in one of its parts. -/
theorem bind_error {ε α β : Type} {first : Except ε α} {rest : α → Except ε β} {error : ε} (ended : (first >>= rest) = .error error) :
    first = .error error ∨ ∃ value, first = .ok value ∧ rest value = .error error := by
  cases first with
  | error other =>
    cases ended
    exact .inl rfl
  | ok value => exact .inr ⟨value, rfl, ended⟩

theorem dnsTuple_other {values : List String} {error : DomainError} (refused : dnsTuple values = .error error) :
    StoreError.domain error ≠ ipv4Refusal := by
  unfold dnsTuple at refused
  split at refused
  all_goals cases refused
  simp [ipv4Refusal]

theorem sshField_other {values : List String} {error : DomainError} (refused : sshField values = .error error) :
    StoreError.domain error ≠ ipv4Refusal := by
  unfold sshField sshTuple at refused
  repeat' split at refused
  all_goals cases refused
  simp [ipv4Refusal]

theorem buildAcceptanceRecords_other {address : String} {error : DomainError}
    (refused : buildAcceptanceRecords host draws command context address = .error error) : StoreError.domain error ≠ ipv4Refusal := by
  rcases bind_error refused with first | ⟨_, -, rest⟩
  · exact dnsTuple_other first
  · rcases bind_error rest with second | ⟨_, -, impossible⟩
    · exact sshField_other second
    · cases impossible

/-- A constraint of the database is refused in words of its own. -/
theorem insertRow_other {Row : Type} {clashes : Row → Bool} {row : Row} {rows : List Row} {error : StoreError}
    (refused : insertRow clashes row rows = .error error) : error ≠ ipv4Refusal := by
  unfold insertRow at refused
  cases ended : insert clashes row rows with
  | error message => rw [ended] at refused; cases refused; simp [ipv4Refusal]
  | ok result => rw [ended] at refused; cases refused

theorem writeAcceptanceRecords_other {records : AcceptanceRecords} {outboxId : Uuid} {now : Instant} {error : StoreError}
    (refused : writeAcceptanceRecords command.toMutationIdentity records requestHash outboxId now db = .error error) :
    error ≠ ipv4Refusal := by
  -- Four writes of one or two rows each.
  have one {α β : Type} {row : Except StoreError α} {wrap : α → β} (other : ∀ {error}, row = .error error → error ≠ ipv4Refusal)
      {error : StoreError} (refused : (row >>= fun rows => .ok (wrap rows)) = .error error) : error ≠ ipv4Refusal := by
    rcases bind_error refused with first | ⟨_, -, impossible⟩
    · exact other first
    · cases impossible
  rcases bind_error refused with first | ⟨_, -, refused⟩
  · rcases bind_error first with row | ⟨_, -, document⟩
    · exact insertRow_other row
    · exact one insertRow_other document
  rcases bind_error refused with second | ⟨_, -, refused⟩
  · rcases bind_error second with row | ⟨_, -, document⟩
    · exact insertRow_other row
    · exact one insertRow_other document
  rcases bind_error refused with third | ⟨_, -, refused⟩
  · exact one insertRow_other third
  rcases bind_error refused with fourth | ⟨_, -, impossible⟩
  · exact one insertRow_other fourth
  · cases impossible

/-- Whether the creation is refused for its address is decided by the leases of the network. -/
theorem refused_iff (passes : Passes host command requestHash db context) :
    atomically (acceptCreate host draws command requestHash) db = .error ipv4Refusal ↔
      (occupied db context.network.id).length + 1 > context.quota.ipv4Addresses := by
  rw [atomically_acceptCreate passes]
  have reserves : Reading.on (reserveIpv4Address host context) db =
      if (occupied db context.network.id).length + 1 > context.quota.ipv4Addresses then .error ipv4Refusal
      else (allocateIpv4 host.number ⟨context.network.ipv4Cidr, context.network.gateway, context.network.exclusions⟩
        ((occupied db context.network.id).map Ipv4LeaseRow.address)).mapError .domain := by
    change Program.answered _ (if (occupied db context.network.id).length + 1 > context.quota.ipv4Addresses then _ else _) = _
    by_cases full : (occupied db context.network.id).length + 1 > context.quota.ipv4Addresses
    · rw [if_pos full, if_pos full]
      rfl
    · rw [if_neg full, if_neg full]
      exact checked_on _
  rw [reserves]
  by_cases full : (occupied db context.network.id).length + 1 > context.quota.ipv4Addresses
  · rw [if_pos full]
    exact iff_of_true rfl full
  · rw [if_neg full]
    refine iff_of_false ?_ full
    cases allocated : allocateIpv4 host.number ⟨context.network.ipv4Cidr, context.network.gateway, context.network.exclusions⟩
      ((occupied db context.network.id).map Ipv4LeaseRow.address) with
    | error error => exact fun same => allocateIpv4_other allocated (Except.error.inj same)
    | ok address =>
      change (Reading.on (checked (buildAcceptanceRecords host draws command context address)) db >>= _) ≠ _
      rw [checked_on]
      cases built : buildAcceptanceRecords host draws command context address with
      | error error => exact fun same => buildAcceptanceRecords_other built (Except.error.inj same)
      | ok records =>
        change (writeAcceptanceRecords command.toMutationIdentity records requestHash (draws.fresh 2) draws.now db >>= _) ≠ _
        cases written : writeAcceptanceRecords command.toMutationIdentity records requestHash (draws.fresh 2) draws.now db with
        | error error => exact fun same => writeAcceptanceRecords_other written (Except.error.inj same)
        | ok after => exact fun same => by cases same

/-- The quota that a creation is checked against. -/
theorem Passes.quota (passes : Passes host command requestHash db context) :
    find QuotaRow.projectId command.projectId db.quotas = some context.quota := by
  obtain ⟨_, read, loaded⟩ := answered_bind_ok passes.loaded
  cases read
  split at loaded
  next => cases loaded
  next =>
    split at loaded
    next => cases loaded
    next =>
      obtain ⟨_, read, loaded⟩ := answered_bind_ok loaded
      cases read
      obtain ⟨_, read, loaded⟩ := answered_bind_ok loaded
      cases read
      obtain ⟨_, read, loaded⟩ := answered_bind_ok loaded
      cases read
      obtain ⟨_, read, loaded⟩ := answered_bind_ok loaded
      cases read
      split at loaded
      next found =>
        split at loaded
        next => cases loaded
        next =>
          split at loaded
          next => cases loaded
          next =>
            cases loaded
            exact found
      next => cases loaded

theorem exceeds_iff (passes : Passes host command requestHash db context) (now : Instant) :
    Exceeds db command.projectId now ↔ (leased db command.projectId).length + 1 > context.quota.ipv4Addresses := by
  rw [Exceeds, getQuota, passes.quota]
  constructor
  · rintro ⟨_, ⟨⟩, more⟩
    exact more
  · exact fun more => ⟨_, rfl, more⟩

/-- Exactly when a creation that passes the other checks is refused for the quota that its
    project is told of: when the leases of the network and the leases of the project are on
    the same side of the limit. -/
theorem refused_as_reported_iff (passes : Passes host command requestHash db context) (now : Instant) :
    (atomically (acceptCreate host draws command requestHash) db = .error ipv4Refusal ↔ Exceeds db command.projectId now) ↔
      ((occupied db context.network.id).length < context.quota.ipv4Addresses ↔
        (leased db command.projectId).length < context.quota.ipv4Addresses) := by
  rw [refused_iff passes, exceeds_iff passes]
  omega

end

/-! ### Two projects on one network -/

def sampleCommand : CreateInstanceCommand :=
  { sampleIdentity "create" with
    correlationId := sampleCreate.correlationId, imageId := "debian-12", flavorId := "small", networkId := "lab",
    hostname := "vm", sshPublicKeys := [] }

/-- Leases of another project on the network. -/
def sampleDb (leases : Nat) : ControlDb :=
  { toCatalog := sampleCatalog,
    ipv4Leases := List.replicate leases
      { id := "lease", projectId := "other", instanceId := "other", networkId := "lab", address := "10.0.0.9", prefixLength := 24,
        gateway := "10.0.0.1", state := .active } }

def sampleContext : AcceptanceContext :=
  ⟨"proxmox", ⟨"small", 1, 1024, 10, true⟩, ⟨"lab", "10.0.0.0/24", "10.0.0.1", ["10.0.0.1"], [], true⟩,
    ⟨sampleCreate.projectId, 4, 8, 8192, 100, 4, 4⟩⟩

theorem sample_passes (leases : Nat) : Passes sampleHost sampleCommand "hash" (sampleDb leases) sampleContext := by
  refine ⟨rfl, rfl, ?_⟩
  have unused : usage (sampleDb leases) sampleCommand.projectId = ⟨0, 0, 0, 0⟩ := rfl
  have asked : (select .usage : Step ControlDb) = .ask (.select .usage) .done := rfl
  simp [Reading.on, assertQuotaHeadroom, asked, fixed, unused, sampleContext]

/-- Three leases of another project leave room for one. -/
theorem refused_as_reported_iff_sample :
    atomically (acceptCreate sampleHost (sampleDraws 0 []) sampleCommand "hash") (sampleDb 3) = .error ipv4Refusal ↔
      Exceeds (sampleDb 3) sampleCommand.projectId 0 :=
  (refused_as_reported_iff (sample_passes 3) 0).mpr (by decide)

/-- Four leases of another project refuse a project that has none of its four. -/
theorem refused_for_others :
    atomically (acceptCreate sampleHost (sampleDraws 0 []) sampleCommand "hash") (sampleDb 4) = .error ipv4Refusal ∧
      ¬ Exceeds (sampleDb 4) sampleCommand.projectId 0 := by
  rw [refused_iff (sample_passes 4), exceeds_iff (sample_passes 4)]
  decide

end ControlPlane.AddressQuota
