import ControlPlane.JsonTexts
import ControlPlane.Numerals
import ControlPlane.ProviderPort

/-!
The messages of the provider port as the JSON texts that a program compares them
by. A schema gives the fields of a kind of message in one order; a field that is
missing is left out of the object. Two messages of a kind with one text are one
message (`Schema.text_inj`).
-/
namespace ControlPlane.WireMessages
open ControlPlane.JsonTexts ControlPlane.Texts ControlPlane.Numerals ControlPlane.ProviderPort

/-! ### Fields -/

/-- The properties of an object, without the fields that are missing. -/
def members (fields : List (String × Option Value)) : List (String × Value) :=
  fields.filterMap fun field => field.2.map fun value => (field.1, value)

/-- Names that an object keeps in the order in which they were added. -/
def Plain (names : List String) : Prop := names.Nodup ∧ ∀ name ∈ names, arrayIndex name = none

instance (names : List String) : Decidable (Plain names) := inferInstanceAs (Decidable (_ ∧ _))

/-- A field holds a value that JSON can say. -/
def Sayable (field : String × Option Value) : Prop := ∀ value, field.2 = some value → value.Json

section
variable {fields others : List (String × Option Value)}

@[simp] theorem members_nil : members [] = [] := rfl

@[simp] theorem members_none (name : String) : members ((name, none) :: fields) = members fields := rfl

@[simp] theorem members_some (name : String) (value : Value) :
    members ((name, some value) :: fields) = (name, value) :: members fields := rfl

theorem members_append : members (fields ++ others) = members fields ++ members others := List.filterMap_append

theorem members_sublist : ((members fields).map Prod.fst).Sublist (fields.map Prod.fst) := by
  induction fields with
  | nil => exact List.Sublist.refl _
  | cons field rest ih =>
    obtain ⟨name, _ | value⟩ := field
    · exact ih.cons name
    · exact ih.cons_cons name

theorem mem_members {name : String} {value : Value} : (name, value) ∈ members fields ↔ (name, some value) ∈ fields := by
  simp only [members, List.mem_filterMap, Option.map_eq_some_iff, Prod.mk.injEq]
  constructor
  · rintro ⟨⟨_, _⟩, listed, _, rfl, rfl, rfl⟩
    exact listed
  · intro listed
    exact ⟨_, listed, value, rfl, rfl, rfl⟩

/-- Leaving a property out is leaving its field out. -/
theorem filter_members (kept : String → Bool) :
    (members fields).filter (fun member => kept member.1) = members (fields.filter fun field => kept field.1) := by
  induction fields with
  | nil => rfl
  | cons field rest ih =>
    obtain ⟨name, _ | value⟩ := field
    · by_cases keeps : kept name = true
      · simpa [keeps] using ih
      · simpa [keeps] using ih
    · by_cases keeps : kept name = true
      · simpa [keeps] using ih
      · simpa [keeps] using ih

/-- The properties tell which fields are missing. -/
theorem members_inj (names : fields.map Prod.fst = others.map Prod.fst) (distinct : (fields.map Prod.fst).Nodup)
    (same : members fields = members others) : fields = others := by
  have absent : ∀ {name : String} {rest : List (String × Option Value)}, name ∉ rest.map Prod.fst →
      ∀ value, (name, value) ∉ members rest := by
    intro name rest apart value listed
    exact apart (List.mem_map.mpr ⟨_, mem_members.mp listed, rfl⟩)
  induction fields generalizing others with
  | nil => simpa using names.symm
  | cons field rest ih =>
    cases others with
    | nil => cases names
    | cons other remaining =>
      obtain ⟨name, value⟩ := field
      obtain ⟨_, another⟩ := other
      simp only [List.map_cons, List.cons.injEq] at names
      obtain ⟨rfl, names⟩ := names
      obtain ⟨apart, apartness⟩ := List.nodup_cons.mp distinct
      have apart_ : name ∉ remaining.map Prod.fst := names ▸ apart
      cases value with
      | none =>
        cases another with
        | none => rw [ih names apartness same]
        | some another =>
          rw [members_none, members_some] at same
          exact absurd (same ▸ List.mem_cons_self) (absent apart another)
      | some value =>
        cases another with
        | none =>
          rw [members_none, members_some] at same
          exact absurd (same ▸ List.mem_cons_self) (absent apart_ value)
        | some another =>
          rw [members_some, members_some] at same
          obtain ⟨first, tail⟩ := List.cons.inj same
          cases first
          rw [ih names apartness tail]

theorem members_json (plain : Plain (fields.map Prod.fst))
    (valid : ∀ field ∈ fields, Sayable field) : (Value.object (members fields)).Json := by
  refine Value.every_object.mpr ⟨⟨members_sublist.nodup plain.1, propertyOrder_of_named fun member listed => ?_⟩, ?_⟩
  · exact plain.2 _ (members_sublist.subset (List.mem_map_of_mem listed))
  · intro member listed
    exact valid _ (mem_members.mp listed) _ rfl

end

/-! ### Kinds of messages -/

/-- The fields of a kind of message, that say everything about it. -/
structure Schema (α : Type) where
  names : List String
  fields : α → List (String × Option Value)
  named : ∀ a, (fields a).map Prod.fst = names
  plain : Plain names
  valid : ∀ a, ∀ field ∈ fields a, Sayable field
  faithful : ∀ a b, fields a = fields b → a = b

namespace Schema
variable {α : Type} (schema : Schema α) {a b : α}

def json (a : α) : Value := .object (members (schema.fields a))

theorem json_valid : (schema.json a).Json := members_json ((schema.named a).symm ▸ schema.plain) (schema.valid a)

theorem json_inj (same : schema.json a = schema.json b) : a = b := by
  refine schema.faithful a b (members_inj ?_ ?_ (Value.object.inj same))
  · rw [schema.named, schema.named]
  · rw [schema.named]
    exact schema.plain.1

theorem text_inj (same : (schema.json a).serialize = (schema.json b).serialize) : a = b :=
  schema.json_inj (Value.serialize_inj schema.json_valid schema.json_valid same)

end Schema

/-! ### Fields of one kind -/

/-- How an integer prints. -/
def numeral (n : Int) : Numeral where
  printed := if n < 0 then '-' :: (toString n.natAbs).toList else (toString n.natAbs).toList
  nonempty := by
    split
    · exact List.cons_ne_nil _ _
    · exact toString_ne_nil _
  valid := by
    have digits : ∀ c ∈ (toString n.natAbs).toList, c ∈ numeric := by
      intro c listed
      have digit := mem_of_isDigit (isDigit_toString c listed)
      simp only [List.mem_cons, List.not_mem_nil, or_false] at digit
      rcases digit with rfl | rfl | rfl | rfl | rfl | rfl | rfl | rfl | rfl | rfl <;> decide
    split
    · exact List.forall_mem_cons.mpr ⟨by decide, digits⟩
    · exact digits

theorem numeral_inj {m n : Int} (same : numeral m = numeral n) : m = n := by
  have signed : ∀ k l : Nat, (toString k).toList ≠ '-' :: (toString l).toList := by
    intro k l equal
    have digit := isDigit_toString '-' (equal ▸ List.mem_cons_self : '-' ∈ (toString k).toList)
    exact absurd digit (by decide)
  have value : ∀ k l : Nat, (toString k).toList = (toString l).toList → k = l := by
    intro k l equal
    rw [← digitsValue_toString k, equal, digitsValue_toString]
  have printed := congrArg Numeral.printed same
  simp only [numeral] at printed
  split at printed
  next negative =>
    split at printed
    next => have := value _ _ (List.cons.inj printed).2; omega
    next => exact absurd printed.symm (signed _ _)
  next =>
    split at printed
    next => exact absurd printed (signed _ _)
    next => have := value _ _ printed; omega

def text (value : Option String) : Option Value := value.map .string

def number (value : Option Int) : Option Value := value.map fun n => .number (numeral n)

def natural (value : Option Nat) : Option Value := number (value.map Int.ofNat)

def texts (value : Option (List String)) : Option Value := value.map fun items => .array (items.map .string)

def nested {α : Type} (schema : Schema α) (value : Option α) : Option Value := value.map schema.json

@[simp] theorem text_eq {a b : Option String} : text a = text b ↔ a = b :=
  ⟨fun same => Option.map_injective (fun _ _ => Value.string.inj) same, congrArg text⟩

@[simp] theorem number_eq {a b : Option Int} : number a = number b ↔ a = b :=
  ⟨fun same => Option.map_injective (fun _ _ equal => numeral_inj (Value.number.inj equal)) same, congrArg number⟩

@[simp] theorem natural_eq {a b : Option Nat} : natural a = natural b ↔ a = b :=
  number_eq.trans ⟨fun same => Option.map_injective (fun _ _ => Int.ofNat.inj) same, congrArg _⟩

@[simp] theorem texts_eq {a b : Option (List String)} : texts a = texts b ↔ a = b :=
  ⟨fun same => Option.map_injective (fun _ _ equal =>
    List.map_injective_iff.mpr (fun _ _ => Value.string.inj) (Value.array.inj equal)) same, congrArg texts⟩

@[simp] theorem nested_eq {α : Type} {schema : Schema α} {a b : Option α} : nested schema a = nested schema b ↔ a = b :=
  ⟨fun same => Option.map_injective (fun _ _ => schema.json_inj) same, congrArg (nested schema)⟩

@[simp] theorem sayable_text (name : String) (value : Option String) : Sayable (name, text value) := by
  cases value with
  | none => nofun
  | some _ => intro _ same; cases same; trivial

@[simp] theorem sayable_number (name : String) (value : Option Int) : Sayable (name, number value) := by
  cases value with
  | none => nofun
  | some _ => intro _ same; cases same; trivial

@[simp] theorem sayable_natural (name : String) (value : Option Nat) : Sayable (name, natural value) :=
  sayable_number name _

@[simp] theorem sayable_texts (name : String) (value : Option (List String)) : Sayable (name, texts value) := by
  cases value with
  | none => nofun
  | some items =>
    intro _ same
    cases same
    refine Value.every_array.mpr ⟨trivial, fun item listed => ?_⟩
    obtain ⟨_, -, rfl⟩ := List.mem_map.mp listed
    trivial

@[simp] theorem sayable_nested {α : Type} (name : String) (schema : Schema α) (value : Option α) :
    Sayable (name, nested schema value) := by
  cases value with
  | none => nofun
  | some _ => intro _ same; cases same; exact schema.json_valid

/-! ### The messages of the port -/

def contextSchema : Schema ProviderCallContext where
  names := ["requestId", "operationId", "correlationId", "projectId", "instanceId", "providerProfileId", "attempt",
    "fencingToken"]
  fields context :=
    [("requestId", text context.requestId), ("operationId", text context.operationId),
     ("correlationId", text context.correlationId), ("projectId", text context.projectId),
     ("instanceId", text context.instanceId), ("providerProfileId", text context.providerProfileId),
     ("attempt", natural context.attempt), ("fencingToken", text context.fencingToken)]
  named _ := rfl
  plain := by decide +kernel
  valid _ := by simp
  faithful a b same := by
    cases a
    cases b
    simpa using same

def markersSchema : Schema OwnershipMarkers where
  names := ["managedBy", "environment", "projectId", "instanceId", "createOperationId"]
  fields markers :=
    [("managedBy", text markers.managedBy), ("environment", text markers.environment),
     ("projectId", text markers.projectId), ("instanceId", text markers.instanceId),
     ("createOperationId", text markers.createOperationId)]
  named _ := rfl
  plain := by decide +kernel
  valid _ := by simp
  faithful a b same := by
    cases a
    cases b
    simpa using same

def resourcesSchema : Schema InstanceResources where
  names := ["cpuCount", "memoryMib", "diskGib"]
  fields resources :=
    [("cpuCount", natural resources.cpuCount), ("memoryMib", text resources.memoryMib),
     ("diskGib", text resources.diskGib)]
  named _ := rfl
  plain := by decide +kernel
  valid _ := by simp
  faithful a b same := by
    cases a
    cases b
    simpa using same

def networkSchema : Schema NetworkConfiguration where
  names := ["networkId", "ipv4Address", "ipv4PrefixLength", "ipv4Gateway", "dnsServers"]
  fields network :=
    [("networkId", text network.networkId), ("ipv4Address", text network.ipv4Address),
     ("ipv4PrefixLength", number network.ipv4PrefixLength), ("ipv4Gateway", text network.ipv4Gateway),
     ("dnsServers", texts network.dnsServers)]
  named _ := rfl
  plain := by decide +kernel
  valid _ := by simp
  faithful a b same := by
    cases a
    cases b
    simpa using same

def instanceMutationSchema : Schema InstanceMutationRequest where
  names := ["context", "providerResourceId", "expectedOwnershipMarkers"]
  fields request :=
    [("context", nested contextSchema request.context), ("providerResourceId", text request.providerResourceId),
     ("expectedOwnershipMarkers", nested markersSchema request.expectedOwnershipMarkers)]
  named _ := rfl
  plain := by decide +kernel
  valid _ := by simp
  faithful a b same := by
    cases a
    cases b
    simpa using same

def submitCreateInstanceSchema : Schema SubmitCreateInstanceRequest where
  names := ["context", "imageId", "flavorId", "hostname", "resources", "network", "sshPublicKeys", "ownershipMarkers"]
  fields request :=
    [("context", nested contextSchema request.context), ("imageId", text request.imageId),
     ("flavorId", text request.flavorId), ("hostname", text request.hostname),
     ("resources", nested resourcesSchema request.resources), ("network", nested networkSchema request.network),
     ("sshPublicKeys", texts request.sshPublicKeys), ("ownershipMarkers", nested markersSchema request.ownershipMarkers)]
  named _ := rfl
  plain := by decide +kernel
  valid _ := by simp
  faithful a b same := by
    cases a
    cases b
    simpa using same

def applyInstanceConfigurationSchema : Schema ApplyInstanceConfigurationRequest where
  names := ["context", "providerResourceId", "hostname", "resources", "network", "sshPublicKeys", "ownershipMarkers"]
  fields request :=
    [("context", nested contextSchema request.context), ("providerResourceId", text request.providerResourceId),
     ("hostname", text request.hostname), ("resources", nested resourcesSchema request.resources),
     ("network", nested networkSchema request.network), ("sshPublicKeys", texts request.sshPublicKeys),
     ("ownershipMarkers", nested markersSchema request.ownershipMarkers)]
  named _ := rfl
  plain := by decide +kernel
  valid _ := by simp
  faithful a b same := by
    cases a
    cases b
    simpa using same

def resizeInstanceSchema : Schema ResizeInstanceRequest where
  names := ["request", "targetResources"]
  fields request :=
    [("request", nested instanceMutationSchema request.request),
     ("targetResources", nested resourcesSchema request.targetResources)]
  named _ := rfl
  plain := by decide +kernel
  valid _ := by simp
  faithful a b same := by
    cases a
    cases b
    simpa using same

def createSnapshotSchema : Schema CreateSnapshotRequest where
  names := ["request", "snapshotId", "name", "description"]
  fields request :=
    [("request", nested instanceMutationSchema request.request), ("snapshotId", text request.snapshotId),
     ("name", text request.name), ("description", text request.description)]
  named _ := rfl
  plain := by decide +kernel
  valid _ := by simp
  faithful a b same := by
    cases a
    cases b
    simpa using same

def snapshotMutationSchema : Schema SnapshotMutationRequest where
  names := ["request", "snapshotId", "providerSnapshotReference"]
  fields request :=
    [("request", nested instanceMutationSchema request.request), ("snapshotId", text request.snapshotId),
     ("providerSnapshotReference", text request.providerSnapshotReference)]
  named _ := rfl
  plain := by decide +kernel
  valid _ := by simp
  faithful a b same := by
    cases a
    cases b
    simpa using same

/-- The message that a snapshot action nests its request in. -/
def snapshotActionSchema : Schema (Option SnapshotMutationRequest) where
  names := ["request"]
  fields request := [("request", nested snapshotMutationSchema request)]
  named _ := rfl
  plain := by decide +kernel
  valid _ := by simp
  faithful a b same := by simpa using same

end ControlPlane.WireMessages
