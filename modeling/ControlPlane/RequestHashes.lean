import ControlPlane.CanonicalJson
import ControlPlane.CodeUnits
import ControlPlane.ControlPlaneApplication
import ControlPlane.WireMessages

/-!
What a key is bound to. The service hashes the content of a request, and the
store takes a request under a bound key for a repetition when the hashes agree.
As long as the hash tells the hashed texts apart, requests with one hash ask for
the same (`requestHash_iff`), and the store is handed the same command for them,
but for its correlation, and for the order of the keys of a new instance
(`submit_repeats`).
-/
namespace ControlPlane.RequestHashes
open ControlPlane.Texts ControlPlane.JsonTexts ControlPlane.JsonTexts.Value ControlPlane.CanonicalJson ControlPlane.CodeUnits
open ControlPlane.WireMessages (numeral numeral_inj Plain)
open ControlPlane.Commands (WorkflowAction.text)
open ControlPlane.Acceptance (SnapshotAction)
open ControlPlane.Domain ControlPlane.ControlSchema ControlPlane.AcceptanceRules
open ControlPlane.ControlPlaneApplication

/-- `value ?? null`. -/
def orNull (value : Option Value) : Value := value.getD null

/-- The texts of SSH keys, sorted: the order of the keys is no part of the request. -/
def sortedKeys (input : CreateInstanceInput) : List String := sorted id (input.sshPublicKeys.getD [])

/-- What is hashed of a request. A power action is hashed as it was narrowed, which
    is as it was sent. -/
def hashed : Input → List (String × Value)
  | .createInstance input =>
    [("actor", string input.actor.subject), ("projectId", string input.projectId), ("operation", string "create_instance"),
      ("imageId", string input.imageId), ("flavorId", string input.flavorId), ("networkId", string input.networkId),
      ("hostname", string input.hostname), ("sshPublicKeys", array ((sortedKeys input).map string))]
  | .mutateInstancePower input =>
    [("actor", string input.actor.subject), ("projectId", string input.projectId), ("operation", string "power_instance"),
      ("instanceId", string input.instanceId), ("action", string input.action)]
  | .resizeInstance input =>
    [("actor", string input.actor.subject), ("projectId", string input.projectId), ("operation", string "resize_instance"),
      ("instanceId", string input.instanceId), ("flavorId", string input.flavorId),
      ("diskGiB", orNull (input.diskGiB.map fun size : Nat => number (numeral size)))]
  | .createSnapshot input =>
    [("actor", string input.actor.subject), ("projectId", string input.projectId), ("operation", string "create_snapshot"),
      ("instanceId", string input.instanceId), ("name", string input.name),
      ("description", orNull (input.description.map string))]
  | .snapshotAction action input =>
    [("actor", string input.actor.subject), ("projectId", string input.projectId),
      ("operation", string action.action.text), ("instanceId", string input.instanceId),
      ("snapshotId", string input.snapshotId)]
  | .retainInstance input =>
    [("actor", string input.actor.subject), ("projectId", string input.projectId), ("operation", string "retain_instance"),
      ("instanceId", string input.instanceId)]
  | .purgeInstance input =>
    [("actor", string input.actor.subject), ("operation", string "purge_instance"), ("instanceId", string input.instanceId)]
  | .requestDeadLetterReplay input =>
    [("originalEventId", string input.originalEventId), ("reason", string (trim input.reason))]

def requestHash (host : Host) (input : Input) : String := canonicalSha256 host (object (hashed input))

/-- The text that is hashed. -/
def hashedText (host : Host) (input : Input) : List Char := canonicalJson host.collation (object (hashed input))

/-! ### Asking for the same -/

/-- Two requests with the same content. -/
def Alike : Input → Input → Prop
  | .createInstance a, .createInstance b => a.actor.subject = b.actor.subject ∧ a.projectId = b.projectId ∧
      a.imageId = b.imageId ∧ a.flavorId = b.flavorId ∧ a.networkId = b.networkId ∧ a.hostname = b.hostname ∧
      (a.sshPublicKeys.getD []).Perm (b.sshPublicKeys.getD [])
  | .mutateInstancePower a, .mutateInstancePower b => a.actor.subject = b.actor.subject ∧ a.projectId = b.projectId ∧
      a.instanceId = b.instanceId ∧ a.action = b.action
  | .resizeInstance a, .resizeInstance b => a.actor.subject = b.actor.subject ∧ a.projectId = b.projectId ∧
      a.instanceId = b.instanceId ∧ a.flavorId = b.flavorId ∧ a.diskGiB = b.diskGiB
  | .createSnapshot a, .createSnapshot b => a.actor.subject = b.actor.subject ∧ a.projectId = b.projectId ∧
      a.instanceId = b.instanceId ∧ a.name = b.name ∧ a.description = b.description
  | .snapshotAction action a, .snapshotAction another b => a.actor.subject = b.actor.subject ∧ a.projectId = b.projectId ∧
      action = another ∧ a.instanceId = b.instanceId ∧ a.snapshotId = b.snapshotId
  | .retainInstance a, .retainInstance b => a.actor.subject = b.actor.subject ∧ a.projectId = b.projectId ∧
      a.instanceId = b.instanceId
  | .purgeInstance a, .purgeInstance b => a.actor.subject = b.actor.subject ∧ a.instanceId = b.instanceId
  | .requestDeadLetterReplay a, .requestDeadLetterReplay b => a.originalEventId = b.originalEventId ∧
      trim a.reason = trim b.reason
  | _, _ => False

/-- Two commands of the store that ask for the same. -/
def Repeats : Request → Request → Prop
  | .create a, .create b => a.sshPublicKeys.Perm b.sshPublicKeys ∧
      { a with idempotencyKey := b.idempotencyKey, correlationId := b.correlationId, sshPublicKeys := b.sshPublicKeys } = b
  | .power a, .power b => { a with idempotencyKey := b.idempotencyKey, correlationId := b.correlationId } = b
  | .resize a, .resize b => { a with idempotencyKey := b.idempotencyKey, correlationId := b.correlationId } = b
  | .snapshotCreate a, .snapshotCreate b => { a with idempotencyKey := b.idempotencyKey, correlationId := b.correlationId } = b
  | .snapshotAction action a, .snapshotAction another b =>
    action = another ∧ { a with idempotencyKey := b.idempotencyKey, correlationId := b.correlationId } = b
  | .retention a, .retention b => { a with idempotencyKey := b.idempotencyKey, correlationId := b.correlationId } = b
  | .purge a, .purge b => a.actor = b.actor ∧ a.instanceId = b.instanceId
  | .replay a, .replay b => a.originalEventId = b.originalEventId ∧ a.reason = b.reason
  | _, _ => False

section
variable {a b : Input}

/-! ### The hashed value -/

theorem hashed_names (input : Input) : Plain ((hashed input).map Prod.fst) := by
  cases input with
  | createInstance | mutateInstancePower | resizeInstance | createSnapshot | snapshotAction | retainInstance | purgeInstance
  | requestDeadLetterReplay => simp only [hashed, List.map_cons, List.map_nil]; decide

theorem orNull_json {α : Type} (value : Option α) (said : α → Value) (valid : ∀ a, (said a).Json) : (orNull (value.map said)).Json := by
  cases value with
  | none => trivial
  | some a => exact valid a

theorem texts_json (listed : List String) : (array (listed.map string)).Json := by
  refine every_array.mpr ⟨trivial, fun item member => ?_⟩
  obtain ⟨text, -, rfl⟩ := List.mem_map.mp member
  trivial

theorem hashed_said (input : Input) : ∀ entry ∈ hashed input, entry.2.Json := by
  have said : ∀ text : String, (string text).Json := fun _ => trivial
  have counted : ∀ size : Nat, (number (numeral size)).Json := fun _ => trivial
  cases input with
  | createInstance input => simp [hashed, said, texts_json]
  | resizeInstance input => simp [hashed, said, orNull_json _ _ counted]
  | createSnapshot input => simp [hashed, said, orNull_json _ _ said]
  | mutateInstancePower | snapshotAction | retainInstance | purgeInstance | requestDeadLetterReplay => simp [hashed, said]

theorem hashed_json (input : Input) : (object (hashed input)).Json := by
  obtain ⟨distinct, plain⟩ := hashed_names input
  refine every_object.mpr ⟨⟨distinct, propertyOrder_of_named fun entry listed => ?_⟩, hashed_said input⟩
  exact plain _ (List.mem_map_of_mem listed)

/-- The operation that a hash is for. A replay has none. -/
def operation : Input → Option String
  | .createInstance _ => some "create_instance"
  | .mutateInstancePower _ => some "power_instance"
  | .resizeInstance _ => some "resize_instance"
  | .createSnapshot _ => some "create_snapshot"
  | .snapshotAction action _ => some action.action.text
  | .retainInstance _ => some "retain_instance"
  | .purgeInstance _ => some "purge_instance"
  | .requestDeadLetterReplay _ => none

theorem operation_hashed (input : Input) (value : Value) :
    ("operation", value) ∈ hashed input ↔ ∃ text, operation input = some text ∧ value = string text := by
  cases input <;> simp [hashed, operation, eq_comm]

theorem operation_none (input : Input) : operation input = none ↔ (hashed input).length = 2 := by
  cases input <;> simp [hashed, operation]

theorem same_operation (same : Same (object (hashed a)) (object (hashed b))) : operation a = operation b := by
  obtain ⟨length, each⟩ := same_object.mp same
  cases found : operation a with
  | none => exact ((operation_none b).mpr (length ▸ (operation_none a).mp found)).symm
  | some text =>
    obtain ⟨other, listed, equal⟩ := each _ ((operation_hashed a (string text)).mpr ⟨text, found, rfl⟩)
    obtain ⟨another, said, rfl⟩ := (operation_hashed b other).mp listed
    simp only [Same, string.injEq] at equal
    rw [said, equal]

/-! ### What the hash decides -/

theorem same_string {text another : String} : Same (string text) (string another) ↔ text = another := by simp [Same]

theorem sortedKeys_iff {a b : CreateInstanceInput} :
    sortedKeys a = sortedKeys b ↔ (a.sshPublicKeys.getD []).Perm (b.sshPublicKeys.getD []) := sorted_texts_iff

theorem same_orNull {α : Type} {value other : Option α} {said : α → Value} (present : ∀ a, said a ≠ null)
    (decides : ∀ a b, Same (said a) (said b) ↔ a = b) : Same (orNull (value.map said)) (orNull (other.map said)) ↔ value = other := by
  cases value with
  | none =>
    cases other with
    | none => simp [orNull, Same]
    | some b =>
      have apart := present b
      cases shown : said b <;> simp_all [orNull, Same]
  | some a =>
    cases other with
    | none =>
      have apart := present a
      cases shown : said a <;> simp_all [orNull, Same]
    | some b => simp [orNull, decides]

theorem same_description {value other : Option String} : Same (orNull (value.map string)) (orNull (other.map string)) ↔ value = other :=
  same_orNull (by simp) fun _ _ => same_string

theorem same_size {value other : Option Nat} : Same (orNull (value.map fun size : Nat => number (numeral size)))
    (orNull (other.map fun size : Nat => number (numeral size))) ↔ value = other := by
  refine same_orNull (by simp) fun a b => ?_
  simp only [Same, number.injEq]
  constructor
  · intro equal
    exact Int.ofNat.inj (numeral_inj equal)
  · rintro rfl
    rfl

theorem actionText_inj {action another : SnapshotAction} : action.action.text = another.action.text ↔ action = another := by
  cases action <;> cases another <;> decide

theorem actionText_apart (action : SnapshotAction) : ∀ text ∈ ["create_instance", "power_instance",
    "resize_instance", "create_snapshot", "retain_instance", "purge_instance"], text ≠ action.action.text := by
  cases action <;> decide

/-- Requests for different operations are never the same. -/
theorem same_apart (differ : operation a ≠ operation b) (unlike : ¬ Alike a b) :
    Same (object (hashed a)) (object (hashed b)) ↔ Alike a b :=
  iff_of_false (fun same => differ (same_operation same)) unlike

/-- Hashed values are the same exactly for requests with the same content. -/
theorem same_hashed : Same (object (hashed a)) (object (hashed b)) ↔ Alike a b := by
  cases a with
  | createInstance a =>
    cases b with
    | createInstance b => simp [hashed, Alike, same_string, sortedKeys_iff]
    | snapshotAction action b => exact same_apart (by simpa [operation] using actionText_apart action _ (by simp)) id
    | _ => exact same_apart (by simp [operation]) id
  | mutateInstancePower a =>
    cases b with
    | mutateInstancePower b => simp [hashed, Alike, same_string]
    | snapshotAction action b => exact same_apart (by simpa [operation] using actionText_apart action _ (by simp)) id
    | _ => exact same_apart (by simp [operation]) id
  | resizeInstance a =>
    cases b with
    | resizeInstance b => simp [hashed, Alike, same_string, same_size]
    | snapshotAction action b => exact same_apart (by simpa [operation] using actionText_apart action _ (by simp)) id
    | _ => exact same_apart (by simp [operation]) id
  | createSnapshot a =>
    cases b with
    | createSnapshot b => simp [hashed, Alike, same_string, same_description]
    | snapshotAction action b => exact same_apart (by simpa [operation] using actionText_apart action _ (by simp)) id
    | _ => exact same_apart (by simp [operation]) id
  | snapshotAction action a =>
    cases b with
    | snapshotAction another b => simp [hashed, Alike, same_string, actionText_inj]
    | requestDeadLetterReplay b => exact same_apart (by simp [operation]) id
    | _ => exact same_apart (by simpa [operation, eq_comm] using actionText_apart action _ (by simp)) id
  | retainInstance a =>
    cases b with
    | retainInstance b => simp [hashed, Alike, same_string]
    | snapshotAction action b => exact same_apart (by simpa [operation] using actionText_apart action _ (by simp)) id
    | _ => exact same_apart (by simp [operation]) id
  | purgeInstance a =>
    cases b with
    | purgeInstance b => simp [hashed, Alike, same_string]
    | snapshotAction action b => exact same_apart (by simpa [operation] using actionText_apart action _ (by simp)) id
    | _ => exact same_apart (by simp [operation]) id
  | requestDeadLetterReplay a =>
    cases b with
    | requestDeadLetterReplay b => simp [hashed, Alike, same_string]
    | _ => exact same_apart (by simp [operation]) id

/-- Requests with the same content are hashed by one value: their keys are written in
    one order, and so are the SSH keys. -/
theorem hashed_alike (alike : Alike a b) : hashed a = hashed b := by
  cases a with
  | createInstance a =>
    cases b with
    | createInstance b =>
      obtain ⟨subject, project, image, flavor, network, hostname, keys⟩ := alike
      simp only [hashed, subject, project, image, flavor, network, hostname, sortedKeys_iff.mpr keys]
    | _ => cases alike
  | mutateInstancePower a =>
    cases b with
    | mutateInstancePower b =>
      obtain ⟨subject, project, instance_, action⟩ := alike
      simp only [hashed, subject, project, instance_, action]
    | _ => cases alike
  | resizeInstance a =>
    cases b with
    | resizeInstance b =>
      obtain ⟨subject, project, instance_, flavor, size⟩ := alike
      simp only [hashed, subject, project, instance_, flavor, size]
    | _ => cases alike
  | createSnapshot a =>
    cases b with
    | createSnapshot b =>
      obtain ⟨subject, project, instance_, name, description⟩ := alike
      simp only [hashed, subject, project, instance_, name, description]
    | _ => cases alike
  | snapshotAction action a =>
    cases b with
    | snapshotAction another b =>
      obtain ⟨subject, project, same, instance_, snapshot⟩ := alike
      simp only [hashed, subject, project, same, instance_, snapshot]
    | _ => cases alike
  | retainInstance a =>
    cases b with
    | retainInstance b =>
      obtain ⟨subject, project, instance_⟩ := alike
      simp only [hashed, subject, project, instance_]
    | _ => cases alike
  | purgeInstance a =>
    cases b with
    | purgeInstance b =>
      obtain ⟨subject, instance_⟩ := alike
      simp only [hashed, subject, instance_]
    | _ => cases alike
  | requestDeadLetterReplay a =>
    cases b with
    | requestDeadLetterReplay b =>
      obtain ⟨event, reason⟩ := alike
      simp only [hashed, event, reason]
    | _ => cases alike

theorem requestHash_alike {host : Host} (alike : Alike a b) : requestHash host a = requestHash host b := by
  rw [requestHash, requestHash, hashed_alike alike]

/-- The texts that are hashed tell requests with different contents apart. -/
theorem alike_of_hashedText {host : Host} (same : hashedText host a = hashedText host b) : Alike a b := by
  have values := (canonicalJson_inj (hashed_json a) (hashed_json b)).mp same
  exact same_hashed.mp (same_of_canonicalValue (hashed_json a) (hashed_json b) values)

/-- A new instance with some SSH keys. -/
def sampleKeys (keys : List String) : Input :=
  .createInstance
    { actor := ⟨"alice", ["tenant_developer"], ["project"]⟩, projectId := "project", idempotencyKey := "idempotency-a",
      correlationId := "correlation", imageId := "debian-12", flavorId := "small", networkId := "lab", hostname := "vm",
      sshPublicKeys := some keys }

/-- For requests with the same content the store is handed commands that ask for the
    same. -/
theorem submit_repeats {first second : Request} (alike : Alike a b) (served : submit a = .ok first)
    (also : submit b = .ok second) : Repeats first second := by
  cases submit_handed served with
  | createInstance a _ _ =>
    cases submit_handed also with
    | createInstance b _ _ =>
      obtain ⟨subject, project, image, flavor, network, hostname, keys⟩ := alike
      exact ⟨keys, by simp [MutationInput.identity, subject, project, image, flavor, network, hostname]⟩
    | _ => cases alike
  | mutateInstancePower a _ _ known =>
    cases submit_handed also with
    | mutateInstancePower b _ _ found =>
      obtain ⟨subject, project, instance_, action⟩ := alike
      rw [action, found, Except.ok.injEq] at known
      simp [Repeats, InstanceInput.request, MutationInput.identity, subject, project, instance_, known]
    | _ => cases alike
  | resizeInstance a _ =>
    cases submit_handed also with
    | resizeInstance b _ =>
      obtain ⟨subject, project, instance_, flavor, size⟩ := alike
      simp [Repeats, InstanceInput.request, MutationInput.identity, subject, project, instance_, flavor, size]
    | _ => cases alike
  | createSnapshot a _ _ =>
    cases submit_handed also with
    | createSnapshot b _ _ =>
      obtain ⟨subject, project, instance_, name, description⟩ := alike
      simp [Repeats, InstanceInput.request, MutationInput.identity, subject, project, instance_, name, description]
    | _ => cases alike
  | snapshotAction action a _ =>
    cases submit_handed also with
    | snapshotAction another b _ =>
      obtain ⟨subject, project, same, instance_, snapshot⟩ := alike
      simp [Repeats, InstanceInput.request, MutationInput.identity, subject, project, same, instance_, snapshot]
    | _ => cases alike
  | retainInstance a _ =>
    cases submit_handed also with
    | retainInstance b _ =>
      obtain ⟨subject, project, instance_⟩ := alike
      simp [Repeats, InstanceInput.request, MutationInput.identity, subject, project, instance_]
    | _ => cases alike
  | purgeInstance a _ =>
    cases submit_handed also with
    | purgeInstance b _ => exact alike
    | _ => cases alike
  | requestDeadLetterReplay a _ =>
    cases submit_handed also with
    | requestDeadLetterReplay b _ => exact alike
    | _ => cases alike

end
end ControlPlane.RequestHashes
