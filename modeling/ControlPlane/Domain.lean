import ControlPlane.Texts

/-!
The domain rules of the control plane: its error codes, the allocation of IPv4
addresses and the check of a resize request.
-/
namespace ControlPlane.Domain
open ControlPlane.Texts

abbrev Uuid := String

/-- Milliseconds since the epoch. A timestamp is an instant, also where the
    source carries its ISO text. -/
abbrev Instant := Nat

inductive DomainErrorCode
  | adminRequired
  | deadLetterNotFound
  | diskShrinkForbidden
  | idempotencyConflict
  | instanceBusy
  | instanceNotFound
  | operationNotFound
  | profileDisabled
  | projectAccessDenied
  | projectNotFound
  | quotaExceeded
  | replayNotAllowed
  | snapshotNotFound
  | snapshotOwnershipMismatch
  | validationFailed
  deriving DecidableEq, Repr

structure DomainError where
  code : DomainErrorCode
  message : String
  deriving DecidableEq, Repr

/-! ### IPv4 addresses -/

/-- An IPv4 pool with its gateway and any addresses held back from allocation. -/
structure Ipv4Pool where
  cidr : String
  gateway : String
  exclusions : List String

/-- The octets of an address shifted into one 32-bit number, left to right. -/
def shiftOctets : BitVec 32 → List String → Option (BitVec 32)
  | result, [] => some result
  | result, octet :: rest =>
    if !isOctetText octet then none else
      let parsed := digitsValue octet.toList
      if parsed > 255 then none else shiftOctets (result <<< 8 ||| BitVec.ofNat 32 parsed) rest

/-- The number of a canonical dotted-decimal address. -/
def strictIpv4 (value : String) : Option (BitVec 32) :=
  let octets := split '.' value
  if octets.length ≠ 4 then none else shiftOctets 0 octets

/-- The dotted-decimal text of an address. -/
def dottedDecimal (address : BitVec 32) : String :=
  ".".intercalate ([24, 16, 8, 0].map fun shift => toString ((address >>> shift) &&& 255#32).toNat)

/-- The first address from an offset on that is neither excluded nor leased,
    among the next `remaining` ones. -/
def firstFree (network : BitVec 32) (taken : String → Bool) : Nat → Nat → Option String
  | _, 0 => none
  | offset, remaining + 1 =>
    let candidate := dottedDecimal (network + BitVec.ofNat 32 offset)
    if taken candidate then firstFree network taken (offset + 1) remaining else some candidate

/-- The lowest assignable address of a pool. `number` is what `Number` reads
    from a text, when that is an integer. -/
def allocateIpv4 (number : String → Option Int) (pool : Ipv4Pool) (leased : List String) :
    Except DomainError String :=
  let parts := split '/' pool.cidr
  let networkAddress := parts.headD ""
  -- A missing prefix length is read as `undefined`, which is no number.
  let prefixLength := (parts[1]?).bind number
  match prefixLength with
  | none => .error ⟨.validationFailed, "The configured IPv4 pool is invalid."⟩
  | some length =>
    if networkAddress = "" ∨ length < 1 ∨ length > 30 then
      .error ⟨.validationFailed, "The configured IPv4 pool is invalid."⟩
    else
      match strictIpv4 networkAddress, strictIpv4 pool.gateway with
      | some network, some _ =>
        let hostCount := 2 ^ (32 - length.toNat)
        if network &&& BitVec.ofNat 32 (hostCount - 1) ≠ 0 then
          .error ⟨.validationFailed, "The configured IPv4 pool must name a network address."⟩
        else
          let excluded := pool.exclusions ++ [pool.gateway]
          match firstFree network (fun candidate => excluded.contains candidate || leased.contains candidate)
              1 (hostCount - 2) with
          | some candidate => .ok candidate
          | none => .error ⟨.quotaExceeded, "No IPv4 address is available in the selected network."⟩
      | _, _ => .error ⟨.validationFailed, "The configured network must use IPv4."⟩

theorem firstFree_free {network : BitVec 32} {taken : String → Bool} {offset remaining : Nat} {address : String}
    (found : firstFree network taken offset remaining = some address) : taken address = false := by
  induction remaining generalizing offset with
  | zero => cases found
  | succ remaining ih =>
    simp only [firstFree] at found
    split at found
    next => exact ih found
    next free => cases found; simpa using free

/-- An allocated address is not leased. -/
theorem allocateIpv4_free {number : String → Option Int} {pool : Ipv4Pool} {leased : List String} {address : String}
    (allocated : allocateIpv4 number pool leased = .ok address) : address ∉ leased := by
  simp only [allocateIpv4] at allocated
  repeat' split at allocated
  all_goals first | cases allocated; done | skip
  have free := firstFree_free ‹_›
  cases allocated
  simp only [Bool.or_eq_false_iff] at free
  simpa using free.2

/-! ### Sizing -/

structure Resources where
  cpuCount : Nat
  memoryMiB : Nat
  diskGiB : Nat
  deriving DecidableEq, Repr

def validateResize (current target : Resources) : Except DomainError Unit :=
  if target.diskGiB < current.diskGiB then
    .error ⟨.diskShrinkForbidden, "Disk size can grow but never shrink."⟩
  else if target = current then
    .error ⟨.validationFailed, "The requested sizing matches the current sizing."⟩
  else .ok ()

/-! ### Drift -/

/-- How a reconciliation classifies the difference that it found. -/
inductive DriftClassification
  | none
  | missingResource
  | identityMismatch
  | staleTask
  | lateSuccess
  | powerDrift
  | networkDrift
  | ambiguous
  deriving DecidableEq, Repr

def DriftClassification.text : DriftClassification → String
  | none => "none"
  | missingResource => "missing_resource"
  | identityMismatch => "identity_mismatch"
  | staleTask => "stale_task"
  | lateSuccess => "late_success"
  | powerDrift => "power_drift"
  | networkDrift => "network_drift"
  | ambiguous => "ambiguous"

end ControlPlane.Domain
