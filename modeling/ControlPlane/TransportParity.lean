import ControlPlane.RestRequests
import ControlPlane.WireMessages

/-!
The gRPC surface of the mutations, and how far the two transports agree. What one
serves the other serves, with the same command to the store, but for what REST
refuses on top (`transports_agree`): identifiers that are no UUIDs, the state of a
trace that is not given, sizes and reasons outside their bounds, and SSH keys of few
characters.
-/
namespace ControlPlane.TransportParity
open ControlPlane.Texts ControlPlane.JsonTexts ControlPlane.JsonTexts.Value ControlPlane.ControlSchema ControlPlane.Domain
open ControlPlane.RequestValidation ControlPlane.ControlPlaneApplication ControlPlane.RestRequests ControlPlane.AcceptanceRules
open ControlPlane.Tables (bind_ok)
open ControlPlane.Commands (PowerAction PowerAction.text)
open ControlPlane.WireMessages (numeral)
open ControlPlane.Numerals (digitsValue_toString isDigit_toString)

/-! ### The gRPC surface -/

structure MutationContext where
  projectId : Option String := none
  idempotencyKey : Option String := none
  correlationId : Option String := none

/-- The power actions of the protocol. -/
inductive GrpcPowerAction
  | unspecified
  | start
  | shutdown
  | stop
  | reboot

structure CreateInstanceRequest where
  context : MutationContext
  imageId : Option String
  flavorId : Option String
  networkId : Option String
  hostname : Option String
  sshPublicKeys : Option (List String)

structure ResizeAction where
  flavorId : Option String
  diskGib : Option Nat

structure MutateInstanceRequest where
  context : MutationContext
  instanceId : Option String
  power : Option GrpcPowerAction
  resize : Option ResizeAction

structure ReplayDeadLetterRequest where
  context : MutationContext
  eventId : Option String
  reason : Option String

structure Metadata where
  traceparent : Option String
  tracestate : Option String

/-- A field that is missing is refused, and so is one that is empty. -/
def requireField (value : Option String) (field : String) : Except Refusal String :=
  match value.filter (· ≠ "") with
  | none => .error (.domain ⟨.validationFailed, field ++ " is required."⟩)
  | some value => .ok value

/-- The name of an action. What has none is passed on as it is. -/
def powerActionName : Option GrpcPowerAction → String
  | some .start => "start"
  | some .shutdown => "shutdown"
  | some .stop => "stop"
  | some .reboot => "reboot"
  | some .unspecified => "POWER_ACTION_UNSPECIFIED"
  | none => ""

section
variable (drawn : Drawn) (metadata : Metadata) (actor : Actor)

/-- The correlation identifier that a context carries. -/
def contextCorrelation (context : MutationContext) : Except Refusal Uuid :=
  requestCorrelation drawn ⟨context.correlationId, metadata.traceparent, metadata.tracestate⟩

def createInstance (request : CreateInstanceRequest) : Except Refusal Input := do
  let _ ← requestTracestate metadata.tracestate metadata.traceparent
  let projectId ← requireField request.context.projectId "project_id"
  let idempotencyKey ← requireField request.context.idempotencyKey "idempotency_key"
  let correlationId ← contextCorrelation drawn metadata request.context
  let _ ← requestTraceparent drawn.traceparent metadata.traceparent
  let imageId ← requireField request.imageId "image_id"
  let flavorId ← requireField request.flavorId "flavor_id"
  let networkId ← requireField request.networkId "network_id"
  let hostname ← requireField request.hostname "hostname"
  return .createInstance
    { actor, projectId, idempotencyKey, correlationId, imageId, flavorId, networkId, hostname,
      sshPublicKeys := some (request.sshPublicKeys.getD []) }

/-- The trace is drawn before the state of the vendors is looked at. -/
def mutateInstance (request : MutateInstanceRequest) : Except Refusal Input := do
  let traceparent ← requestTraceparent drawn.traceparent metadata.traceparent
  let _ ← requestTracestate metadata.tracestate (some traceparent)
  let projectId ← requireField request.context.projectId "project_id"
  let instanceId ← requireField request.instanceId "instance_id"
  let correlationId ← contextCorrelation drawn metadata request.context
  let identity : InstanceInput :=
    { actor, projectId, instanceId, idempotencyKey := request.context.idempotencyKey.getD "", correlationId }
  match request.resize with
  | some resize => return .resizeInstance { identity with flavorId := resize.flavorId.getD "", diskGiB := resize.diskGib }
  | none => return .mutateInstancePower { identity with action := powerActionName request.power }

def replayDeadLetter (request : ReplayDeadLetterRequest) : Except Refusal Input := do
  let traceparent ← requestTraceparent drawn.traceparent metadata.traceparent
  let _ ← requestTracestate metadata.tracestate (some traceparent)
  let originalEventId ← requireField request.eventId "event_id"
  let correlationId ← contextCorrelation drawn metadata request.context
  let reason ← requireField request.reason "reason"
  return .requestDeadLetterReplay
    { actor, originalEventId, idempotencyKey := request.context.idempotencyKey.getD "", correlationId, reason }

end

/-! ### The same content over both -/

/-- What can be asked for over both transports. -/
inductive Content
  | create (projectId imageId flavorId networkId hostname : String) (sshPublicKeys : Option (List String))
  | power (projectId instanceId : String) (action : PowerAction)
  | resize (projectId instanceId : String) (flavorId : Option String) (diskGiB : Option Nat)
  | replay (eventId reason : String)

def createBody (imageId flavorId networkId hostname : String) (sshPublicKeys : Option (List String)) : Value :=
  object ([("imageId", string imageId), ("flavorId", string flavorId), ("networkId", string networkId),
    ("hostname", string hostname)] ++ (sshPublicKeys.map fun keys => ("sshPublicKeys", array (keys.map string))).toList)

def resizeBody (flavorId : Option String) (diskGiB : Option Nat) : Value :=
  object ([("action", string "resize")] ++ (flavorId.map fun flavor => ("flavorId", string flavor)).toList ++
    (diskGiB.map fun size : Nat => ("diskGiB", number (numeral size))).toList)

/-- The REST request with some content. -/
def restRoute : Content → Route
  | .create projectId imageId flavorId networkId hostname sshPublicKeys =>
    .create projectId (createBody imageId flavorId networkId hostname sshPublicKeys)
  | .power projectId instanceId action => .act projectId instanceId (object [("action", string action.text)])
  | .resize projectId instanceId flavorId diskGiB => .act projectId instanceId (resizeBody flavorId diskGiB)
  | .replay eventId reason => .replay eventId (object [("reason", string reason)])

def grpcPowerAction : PowerAction → GrpcPowerAction
  | .start => .start
  | .shutdown => .shutdown
  | .stop => .stop
  | .reboot => .reboot

/-- What a gRPC request with some content asks of the service. -/
def grpcHandle (drawn : Drawn) (headers : RestHeaders) (actor : Actor) (content : Content) : Except Refusal Input :=
  let metadata : Metadata := ⟨headers.traceparent, headers.tracestate⟩
  let context : MutationContext := { idempotencyKey := headers.idempotencyKey, correlationId := headers.correlation }
  match content with
  | .create projectId imageId flavorId networkId hostname sshPublicKeys =>
    createInstance drawn metadata actor
      ⟨{ context with projectId := some projectId }, some imageId, some flavorId, some networkId, some hostname, sshPublicKeys⟩
  | .power projectId instanceId action =>
    mutateInstance drawn metadata actor
      ⟨{ context with projectId := some projectId }, some instanceId, some (grpcPowerAction action), none⟩
  | .resize projectId instanceId flavorId diskGiB =>
    mutateInstance drawn metadata actor
      ⟨{ context with projectId := some projectId }, some instanceId, none, some ⟨flavorId, diskGiB⟩⟩
  | .replay eventId reason => replayDeadLetter drawn metadata actor ⟨context, some eventId, some reason⟩

/-- The state of a trace comes with the trace. -/
def Traced (carrier : Carrier) : Prop :=
  carrier.tracestate.filter (· ≠ "") ≠ none → carrier.traceparent.filter (· ≠ "") ≠ none

/-- What REST asks for on top. -/
def Stricter (library : Validator) (headers : RestHeaders) : Content → Prop
  | .create projectId _ _ _ _ sshPublicKeys =>
    isUuidText projectId = true ∧ ∀ key ∈ sshPublicKeys.getD [], 32 ≤ library.length key
  | .power projectId instanceId _ => (isUuidText projectId = true ∧ isUuidText instanceId = true) ∧ Traced headers.toCarrier
  | .resize projectId instanceId flavorId diskGiB =>
    ((isUuidText projectId = true ∧ isUuidText instanceId = true) ∧ Traced headers.toCarrier) ∧
      (∀ flavor ∈ flavorId, isSlugText flavor = true) ∧ ∀ size ∈ diskGiB, 8 ≤ size ∧ size ≤ 2048
  | .replay eventId reason =>
    (isUuidText eventId = true ∧ Traced headers.toCarrier) ∧ 10 ≤ library.length reason ∧ library.length reason ≤ 512

/-- A transport serves what it asks of the service, and the service hands over. -/
def Serves (asked : Except Refusal Input) (request : Request) : Prop :=
  ∃ input, asked = .ok input ∧ submit input = .ok request

section
variable {library : Validator} {drawn : Drawn} {headers : RestHeaders} {actor : Actor} {request : Request}

theorem bind_ok_iff {ε α β : Type} {first : Except ε α} {rest : α → Except ε β} {b : β} :
    (first >>= rest) = .ok b ↔ ∃ a, first = .ok a ∧ rest a = .ok b := by
  constructor
  · exact bind_ok
  · rintro ⟨a, rfl, ended⟩
    exact ended

theorem requireField_ok {value : Option String} {field text : String} :
    requireField value field = .ok text ↔ value = some text ∧ text ≠ "" := by
  unfold requireField
  cases value with
  | none => simp
  | some given =>
    by_cases empty : given = ""
    · subst empty
      simp [Option.filter_some, eq_comm]
    · simp only [Option.filter_some, decide_eq_true empty, if_true, Except.ok.injEq, Option.some.injEq]
      constructor
      · rintro rfl
        exact ⟨rfl, empty⟩
      · exact And.left

theorem parseUuid_ok {value : String} {id : Uuid} : parseUuid value = .ok id ↔ isUuidText value = true ∧ id = value := by
  unfold parseUuid
  by_cases uuid : isUuidText value = true
  · simp [uuid, eq_comm]
  · simp [uuid]

theorem validateBody_ok {rules : List Rule} {body : Value} {done : Unit} :
    validateBody rules body = .ok done ↔ validated rules body = true := by
  unfold validateBody
  by_cases valid : validated rules body = true
  · simp [valid]
  · simp [valid]

/-- The parts of a carrier that both transports look at alike. -/
structure Carries (drawn : Drawn) (carrier : Carrier) (correlation : Uuid) : Prop where
  trace : ∃ traceparent, requestTraceparent drawn.traceparent carrier.traceparent = .ok traceparent
  state : ∃ tracestate, requestTracestate carrier.tracestate carrier.traceparent = .ok tracestate
  correlation : requestCorrelation drawn carrier = .ok correlation

theorem mutationIdentity_ok {projectId : Uuid} {identity : MutationInput} :
    mutationIdentity drawn headers actor projectId = .ok identity ↔ ∃ correlation,
      Carries drawn headers.toCarrier correlation ∧
      identity = { actor, projectId, idempotencyKey := headers.idempotencyKey.getD "", correlationId := correlation } := by
  unfold mutationIdentity
  simp only [bind_ok_iff, pure, Except.pure, Except.ok.injEq]
  constructor
  · rintro ⟨state, stated, correlation, correlated, trace, traced, rfl⟩
    exact ⟨correlation, ⟨⟨trace, traced⟩, ⟨state, stated⟩, correlated⟩, rfl⟩
  · rintro ⟨correlation, ⟨⟨trace, traced⟩, ⟨state, stated⟩, correlated⟩, rfl⟩
    exact ⟨state, stated, correlation, correlated, trace, traced, rfl⟩

/-! ### Carriers -/

theorem requestTraceparent_given {drawnTrace given traceparent : String} (present : given ≠ "")
    (traced : requestTraceparent drawnTrace (some given) = .ok traceparent) : traceparent = given := by
  simp only [requestTraceparent, Option.filter_some, decide_eq_true present, if_true] at traced
  split at traced
  next => exact (Except.ok.inj traced).symm
  next => cases traced

/-- With a trace that is given, it is all one which trace the state is looked at beside. -/
theorem tracestate_beside {tracestate first second : Option String}
    (alike : tracestate.filter (· ≠ "") ≠ none → (first.filter (· ≠ "")).isNone = (second.filter (· ≠ "")).isNone) :
    requestTracestate tracestate first = requestTracestate tracestate second := by
  unfold requestTracestate
  cases stated : tracestate.filter (· ≠ "") with
  | none => rfl
  | some state =>
    have same := alike (by rw [stated]; exact Option.some_ne_none state)
    simp only [same]

/-- A trace drawn early lets through the state of a trace that is not there, and nothing else. -/
theorem drawn_early {drawnTrace : String} {carrier : Carrier} :
    (∃ traceparent, requestTraceparent drawnTrace carrier.traceparent = .ok traceparent ∧
        ∃ tracestate, requestTracestate carrier.tracestate (some traceparent) = .ok tracestate) ∧ Traced carrier ↔
      (∃ traceparent, requestTraceparent drawnTrace carrier.traceparent = .ok traceparent) ∧
        ∃ tracestate, requestTracestate carrier.tracestate carrier.traceparent = .ok tracestate := by
  have same {traceparent : String} (traced : Traced carrier)
      (read : requestTraceparent drawnTrace carrier.traceparent = .ok traceparent) :
      requestTracestate carrier.tracestate (some traceparent) = requestTracestate carrier.tracestate carrier.traceparent := by
    refine tracestate_beside fun stated => ?_
    obtain ⟨given, held⟩ := Option.ne_none_iff_exists'.mp (traced stated)
    obtain ⟨carried, present⟩ := Option.filter_eq_some_iff.mp held
    rw [carried] at read ⊢
    rw [requestTraceparent_given (of_decide_eq_true present) read]
  constructor
  · rintro ⟨⟨traceparent, read, tracestate, stated⟩, traced⟩
    exact ⟨⟨traceparent, read⟩, tracestate, same traced read ▸ stated⟩
  · rintro ⟨⟨traceparent, read⟩, tracestate, stated⟩
    have traced : Traced carrier := by
      intro present missing
      obtain ⟨state, held⟩ := Option.ne_none_iff_exists'.mp present
      unfold requestTracestate at stated
      rw [held] at stated
      simp only [missing, Option.isNone_none, if_true] at stated
      cases stated
    exact ⟨⟨traceparent, read, tracestate, (same traced read).trans stated⟩, traced⟩

/-! ### What the service has checked -/

theorem uuid_nonempty {value : String} (uuid : isUuidText value = true) : value ≠ "" := by
  rintro rfl
  exact absurd uuid (by decide)

theorem slug_nonempty {value : String} (slug : isSlugText value = true) : value ≠ "" := by
  rintro rfl
  exact absurd slug (by decide)

theorem hostname_nonempty {value : String} (hostname : isHostnameText value = true) : value ≠ "" := by
  rintro rfl
  exact absurd hostname (by decide)

theorem key_some {key : Option String} (accepted : assertIdempotencyKey (key.getD "") = .ok ()) :
    ∃ text, key = some text ∧ text ≠ "" := by
  cases key with
  | none => exact absurd accepted (by decide)
  | some text =>
    refine ⟨text, rfl, ?_⟩
    rintro rfl
    exact absurd accepted (by decide)

/-- The names of a creation that the service hands over. -/
theorem createInstance_names {values : CreateInstanceValues} (passed : validateCreateInstance values = .ok ()) :
    (isSlugText values.imageId = true ∧ isSlugText values.flavorId = true ∧ isSlugText values.networkId = true) ∧
      isHostnameText values.hostname = true := by
  unfold validateCreateInstance at passed
  split at passed
  next => cases passed
  next slugs =>
    split at passed
    next => cases passed
    next hostname =>
      simp only [List.all_cons, List.all_nil, Bool.and_true, Bool.not_eq_true', Bool.not_eq_false, Bool.and_eq_true]
        at slugs hostname
      exact ⟨⟨slugs.1, slugs.2.1, slugs.2.2⟩, hostname⟩

theorem createInstance_checked {input : CreateInstanceInput} (served : submit (.createInstance input) = .ok request) :
    assertIdempotencyKey input.idempotencyKey = .ok () ∧ validateCreateInstance
      ⟨input.imageId, input.flavorId, input.networkId, input.hostname, input.sshPublicKeys.getD []⟩ = .ok () := by
  obtain ⟨command, made, -⟩ := map_ok served
  obtain ⟨_, -, made⟩ := bind_ok made
  obtain ⟨_, keyed, made⟩ := bind_ok made
  obtain ⟨_, valid, -⟩ := bind_ok made
  exact ⟨keyed, valid⟩

theorem replay_checked {input : ReplayDeadLetterInput} (served : submit (.requestDeadLetterReplay input) = .ok request) :
    input.reason ≠ "" := by
  obtain ⟨command, made, -⟩ := map_ok served
  obtain ⟨_, -, made⟩ := bind_ok made
  obtain ⟨_, -, made⟩ := bind_ok made
  intro empty
  have short : (decide (utf16Length (trim "") < 10) || decide (512 < utf16Length (trim ""))) = true := by decide
  simp only [empty, short, if_true] at made
  cases made

/-! ### The bodies -/

theorem text_string (value : String) : text (string value) = some value := rfl

theorem validated_create {imageId flavorId networkId hostname : String} {sshPublicKeys : Option (List String)} :
    validated (createInstanceDto library) (createBody imageId flavorId networkId hostname sshPublicKeys) = true ↔
      (isSlugText imageId = true ∧ isSlugText flavorId = true ∧ isSlugText networkId = true) ∧
      (library.length hostname ≤ 63 ∧ isHostnameText hostname = true) ∧
      ∀ keys ∈ sshPublicKeys, keys.length ≤ 5 ∧ EventValidation.distinct keys = true ∧
        ∀ key ∈ keys, 32 ≤ library.length key ∧ library.length key ≤ 8192 := by
  cases sshPublicKeys with
  | none =>
    simp [createBody, validated, createInstanceDto, Rule.holds, property, List.lookup_cons, List.lookup_nil, isText,
      text_string, isLength, and_assoc]
  | some keys =>
    simp [createBody, validated, createInstanceDto, Rule.holds, property, List.lookup_cons, List.lookup_nil, isText,
      text_string, isLength, items, areTexts, Function.comp_def, and_assoc]

theorem validated_power {action : PowerAction} : validated instanceActionDto (object [("action", string action.text)]) = true := by
  cases action <;> decide

theorem wholeNumber_numeral (size : Nat) : wholeNumber (number (numeral size)) = some size := by
  have positive : ¬ (size : Int) < 0 := by omega
  have digits : ((numeral size).printed.all isDigit) = true := by
    simp only [numeral, if_neg positive, Int.natAbs_natCast]
    exact List.all_eq_true.mpr isDigit_toString
  simp only [wholeNumber, digits, if_true]
  simp only [numeral, if_neg positive, Int.natAbs_natCast, digitsValue_toString]

theorem validated_resize {flavorId : Option String} {diskGiB : Option Nat} :
    validated instanceActionDto (resizeBody flavorId diskGiB) = true ↔
      (∀ flavor ∈ flavorId, isSlugText flavor = true) ∧ ∀ size ∈ diskGiB, 8 ≤ size ∧ size ≤ 2048 := by
  cases flavorId <;> cases diskGiB <;>
    simp [resizeBody, validated, instanceActionDto, Rule.holds, property, List.lookup_cons, List.lookup_nil, isText, text,
      wholeNumber_numeral]

theorem validated_replay {reason : String} : validated (replayRequestDto library) (object [("reason", string reason)]) = true ↔
    10 ≤ library.length reason ∧ library.length reason ≤ 512 := by
  simp [validated, replayRequestDto, Rule.holds, property, List.lookup_cons, List.lookup_nil, isText, text, isLength]

/-! ### What each transport asks for -/

def createInput (headers : RestHeaders) (actor : Actor) (correlationId : Uuid) (projectId imageId flavorId networkId hostname : String)
    (sshPublicKeys : Option (List String)) : Input :=
  .createInstance
    { actor, projectId, idempotencyKey := headers.idempotencyKey.getD "", correlationId, imageId, flavorId, networkId, hostname,
      sshPublicKeys }

theorem create_serves {projectId imageId flavorId networkId hostname : String} {sshPublicKeys : Option (List String)} :
    Serves (create library drawn headers actor projectId (createBody imageId flavorId networkId hostname sshPublicKeys)) request ↔
      (isUuidText projectId = true ∧
        validated (createInstanceDto library) (createBody imageId flavorId networkId hostname sshPublicKeys) = true) ∧
      ∃ correlation, Carries drawn headers.toCarrier correlation ∧
        submit (createInput headers actor correlation projectId imageId flavorId networkId hostname sshPublicKeys) = .ok request := by
  have keys : (items (property "sshPublicKeys" (createBody imageId flavorId networkId hostname sshPublicKeys))).map
      (List.filterMap text) = sshPublicKeys := by
    cases sshPublicKeys with
    | none => simp [createBody, property, List.lookup_cons, List.lookup_nil, items]
    | some keys => simp [createBody, property, List.lookup_cons, items, text_string, Function.comp_def]
  have texts : textOf "imageId" (createBody imageId flavorId networkId hostname sshPublicKeys) = imageId ∧
      textOf "flavorId" (createBody imageId flavorId networkId hostname sshPublicKeys) = flavorId ∧
      textOf "networkId" (createBody imageId flavorId networkId hostname sshPublicKeys) = networkId ∧
      textOf "hostname" (createBody imageId flavorId networkId hostname sshPublicKeys) = hostname := by
    simp [createBody, textOf, property, List.lookup_cons, text]
  unfold Serves create
  simp only [bind_ok_iff, parseUuid_ok, validateBody_ok, mutationIdentity_ok, pure, Except.pure, Except.ok.injEq, keys, texts]
  constructor
  · rintro ⟨_, ⟨_, ⟨uuid, rfl⟩, _, valid, _, ⟨correlation, carried, rfl⟩, rfl⟩, served⟩
    exact ⟨⟨uuid, valid⟩, correlation, carried, served⟩
  · rintro ⟨⟨uuid, valid⟩, correlation, carried, served⟩
    exact ⟨_, ⟨_, ⟨uuid, rfl⟩, (), valid, _, ⟨correlation, carried, rfl⟩, rfl⟩, served⟩

theorem createInstance_serves {projectId imageId flavorId networkId hostname : String} {sshPublicKeys : Option (List String)} :
    Serves (grpcHandle drawn headers actor (.create projectId imageId flavorId networkId hostname sshPublicKeys)) request ↔
      ((∃ key, headers.idempotencyKey = some key ∧ key ≠ "") ∧ projectId ≠ "" ∧ imageId ≠ "" ∧ flavorId ≠ "" ∧ networkId ≠ "" ∧
        hostname ≠ "") ∧
      ∃ correlation, Carries drawn headers.toCarrier correlation ∧
        submit (createInput headers actor correlation projectId imageId flavorId networkId hostname sshPublicKeys) = .ok request := by
  unfold Serves grpcHandle createInstance
  simp only [bind_ok_iff, requireField_ok, pure, Except.pure, Except.ok.injEq, Option.some.injEq]
  constructor
  · rintro ⟨_, ⟨state, stated, _, ⟨rfl, project⟩, key, ⟨keyed, some_⟩, correlation, correlated, trace, traced, _, ⟨rfl, image⟩,
      _, ⟨rfl, flavor⟩, _, ⟨rfl, network⟩, _, ⟨rfl, host⟩, rfl⟩, served⟩
    refine ⟨⟨⟨key, keyed, some_⟩, project, image, flavor, network, host⟩, correlation,
      ⟨⟨trace, traced⟩, ⟨state, stated⟩, correlated⟩, ?_⟩
    rw [createInput, keyed]
    exact served
  · rintro ⟨⟨⟨key, keyed, some_⟩, project, image, flavor, network, host⟩, correlation,
      ⟨⟨trace, traced⟩, ⟨state, stated⟩, correlated⟩, served⟩
    rw [createInput, keyed] at served
    exact ⟨_, ⟨state, stated, _, ⟨rfl, project⟩, key, ⟨keyed, some_⟩, correlation, correlated, trace, traced, _, ⟨rfl, image⟩,
      _, ⟨rfl, flavor⟩, _, ⟨rfl, network⟩, _, ⟨rfl, host⟩, rfl⟩, served⟩

def mutationInput (headers : RestHeaders) (actor : Actor) (correlationId : Uuid) (projectId instanceId : String) : InstanceInput :=
  { actor, projectId, instanceId, idempotencyKey := headers.idempotencyKey.getD "", correlationId }

theorem instanceIdentity_ok {projectId instanceId : Uuid} {identity : InstanceInput} :
    instanceIdentity drawn headers actor projectId instanceId = .ok identity ↔ ∃ correlation,
      Carries drawn headers.toCarrier correlation ∧ identity = mutationInput headers actor correlation projectId instanceId := by
  unfold instanceIdentity
  simp only [bind_ok_iff, mutationIdentity_ok, pure, Except.pure, Except.ok.injEq]
  constructor
  · rintro ⟨_, ⟨correlation, carried, rfl⟩, rfl⟩
    exact ⟨correlation, carried, rfl⟩
  · rintro ⟨correlation, carried, rfl⟩
    exact ⟨_, ⟨correlation, carried, rfl⟩, rfl⟩

theorem power_serves {projectId instanceId : String} {action : PowerAction} :
    Serves (act drawn headers actor projectId instanceId (object [("action", string action.text)])) request ↔
      (isUuidText projectId = true ∧ isUuidText instanceId = true) ∧
      ∃ correlation, Carries drawn headers.toCarrier correlation ∧ submit (.mutateInstancePower
        { mutationInput headers actor correlation projectId instanceId with action := action.text }) = .ok request := by
  have named : textOf "action" (object [("action", string action.text)]) = action.text := by
    simp [textOf, property, text_string]
  have other : action.text ≠ "resize" := by
    cases action <;> decide
  unfold Serves act
  simp only [bind_ok_iff, parseUuid_ok, validateBody_ok, instanceIdentity_ok, validated_power, named, if_neg other, pure,
    Except.pure, Except.ok.injEq]
  constructor
  · rintro ⟨_, ⟨_, ⟨project, rfl⟩, _, ⟨server, rfl⟩, _, -, _, ⟨correlation, carried, rfl⟩, rfl⟩, served⟩
    exact ⟨⟨project, server⟩, correlation, carried, served⟩
  · rintro ⟨⟨project, server⟩, correlation, carried, served⟩
    exact ⟨_, ⟨_, ⟨project, rfl⟩, _, ⟨server, rfl⟩, (), trivial, _, ⟨correlation, carried, rfl⟩, rfl⟩, served⟩

theorem resize_serves {projectId instanceId : String} {flavorId : Option String} {diskGiB : Option Nat} :
    Serves (act drawn headers actor projectId instanceId (resizeBody flavorId diskGiB)) request ↔
      ((isUuidText projectId = true ∧ isUuidText instanceId = true) ∧
        (∀ flavor ∈ flavorId, isSlugText flavor = true) ∧ ∀ size ∈ diskGiB, 8 ≤ size ∧ size ≤ 2048) ∧
      ∃ correlation, Carries drawn headers.toCarrier correlation ∧ submit (.resizeInstance
        { mutationInput headers actor correlation projectId instanceId with
          flavorId := flavorId.getD "", diskGiB := diskGiB }) = .ok request := by
  have named : textOf "action" (resizeBody flavorId diskGiB) = "resize" := by
    simp [resizeBody, textOf, property, text_string]
  have flavor : textOf "flavorId" (resizeBody flavorId diskGiB) = flavorId.getD "" := by
    cases flavorId <;> cases diskGiB <;> simp [resizeBody, textOf, property, List.lookup_cons, List.lookup_nil, text]
  have size : wholeNumber (property "diskGiB" (resizeBody flavorId diskGiB)) = diskGiB := by
    cases flavorId <;> cases diskGiB <;> simp [resizeBody, property, List.lookup_cons, List.lookup_nil, wholeNumber_numeral] <;> rfl
  unfold Serves act
  simp only [bind_ok_iff, parseUuid_ok, validateBody_ok, instanceIdentity_ok, validated_resize, named, flavor, size, if_true, pure,
    Except.pure, Except.ok.injEq]
  constructor
  · rintro ⟨_, ⟨_, ⟨project, rfl⟩, _, ⟨server, rfl⟩, _, valid, _, ⟨correlation, carried, rfl⟩, rfl⟩, served⟩
    exact ⟨⟨⟨project, server⟩, valid⟩, correlation, carried, served⟩
  · rintro ⟨⟨⟨project, server⟩, valid⟩, correlation, carried, served⟩
    exact ⟨_, ⟨_, ⟨project, rfl⟩, _, ⟨server, rfl⟩, (), valid, _, ⟨correlation, carried, rfl⟩, rfl⟩, served⟩

/-- What of a carrier is looked at where the trace is drawn first. -/
structure CarriesEarly (drawn : Drawn) (carrier : Carrier) (correlation : Uuid) : Prop where
  traced : ∃ traceparent, requestTraceparent drawn.traceparent carrier.traceparent = .ok traceparent ∧
    ∃ tracestate, requestTracestate carrier.tracestate (some traceparent) = .ok tracestate
  correlation : requestCorrelation drawn carrier = .ok correlation

theorem carries_early {carrier : Carrier} {correlation : Uuid} :
    Carries drawn carrier correlation ↔ CarriesEarly drawn carrier correlation ∧ Traced carrier := by
  constructor
  · rintro ⟨trace, state, correlated⟩
    obtain ⟨early, traced⟩ := drawn_early.mpr ⟨trace, state⟩
    exact ⟨⟨early, correlated⟩, traced⟩
  · rintro ⟨⟨early, correlated⟩, traced⟩
    obtain ⟨trace, state⟩ := drawn_early.mp ⟨early, traced⟩
    exact ⟨trace, state, correlated⟩

theorem mutateInstance_serves {projectId instanceId : String} {power : Option GrpcPowerAction} {resize : Option ResizeAction}
    {context : MutationContext} (carried : context = ⟨some projectId, headers.idempotencyKey, headers.correlation⟩) :
    Serves (mutateInstance drawn ⟨headers.traceparent, headers.tracestate⟩ actor ⟨context, some instanceId, power, resize⟩) request ↔
      (projectId ≠ "" ∧ instanceId ≠ "") ∧
      ∃ correlation, CarriesEarly drawn headers.toCarrier correlation ∧ submit (resize.elim
        (.mutateInstancePower { mutationInput headers actor correlation projectId instanceId with action := powerActionName power })
        fun resize => .resizeInstance { mutationInput headers actor correlation projectId instanceId with
          flavorId := resize.flavorId.getD "", diskGiB := resize.diskGib }) = .ok request := by
  subst carried
  unfold Serves mutateInstance
  cases resize
  all_goals
    simp only [bind_ok_iff, requireField_ok, pure, Except.pure, Except.ok.injEq, Option.some.injEq]
    constructor
    · rintro ⟨_, ⟨trace, traced, state, stated, _, ⟨rfl, project⟩, _, ⟨rfl, server⟩, correlation, correlated, rfl⟩, served⟩
      exact ⟨⟨project, server⟩, correlation, ⟨⟨trace, traced, state, stated⟩, correlated⟩, served⟩
    · rintro ⟨⟨project, server⟩, correlation, ⟨⟨trace, traced, state, stated⟩, correlated⟩, served⟩
      exact ⟨_, ⟨trace, traced, state, stated, _, ⟨rfl, project⟩, _, ⟨rfl, server⟩, correlation, correlated, rfl⟩, served⟩

def replayInput (headers : RestHeaders) (actor : Actor) (correlationId : Uuid) (originalEventId reason : String) : Input :=
  .requestDeadLetterReplay
    { actor, originalEventId, idempotencyKey := headers.idempotencyKey.getD "", correlationId, reason }

theorem replay_serves {eventId reason : String} :
    Serves (replay library drawn headers actor eventId (object [("reason", string reason)])) request ↔
      (isUuidText eventId = true ∧ 10 ≤ library.length reason ∧ library.length reason ≤ 512) ∧
      ∃ correlation, Carries drawn headers.toCarrier correlation ∧
        submit (replayInput headers actor correlation eventId reason) = .ok request := by
  have given : textOf "reason" (object [("reason", string reason)]) = reason := by
    simp [textOf, property, text_string]
  unfold Serves replay
  simp only [bind_ok_iff, parseUuid_ok, validateBody_ok, mutationIdentity_ok, validated_replay, given, pure, Except.pure,
    Except.ok.injEq]
  constructor
  · rintro ⟨_, ⟨_, ⟨event, rfl⟩, _, valid, _, ⟨correlation, carried, rfl⟩, rfl⟩, served⟩
    exact ⟨⟨event, valid⟩, correlation, carried, served⟩
  · rintro ⟨⟨event, valid⟩, correlation, carried, served⟩
    exact ⟨_, ⟨_, ⟨event, rfl⟩, (), valid, _, ⟨correlation, carried, rfl⟩, rfl⟩, served⟩

theorem replayDeadLetter_serves {eventId reason : String} :
    Serves (grpcHandle drawn headers actor (.replay eventId reason)) request ↔
      (eventId ≠ "" ∧ reason ≠ "") ∧
      ∃ correlation, CarriesEarly drawn headers.toCarrier correlation ∧
        submit (replayInput headers actor correlation eventId reason) = .ok request := by
  unfold Serves grpcHandle replayDeadLetter
  simp only [bind_ok_iff, requireField_ok, pure, Except.pure, Except.ok.injEq, Option.some.injEq]
  constructor
  · rintro ⟨_, ⟨trace, traced, state, stated, _, ⟨rfl, event⟩, correlation, correlated, _, ⟨rfl, given⟩, rfl⟩, served⟩
    exact ⟨⟨event, given⟩, correlation, ⟨⟨trace, traced, state, stated⟩, correlated⟩, served⟩
  · rintro ⟨⟨event, given⟩, correlation, ⟨⟨trace, traced, state, stated⟩, correlated⟩, served⟩
    exact ⟨_, ⟨trace, traced, state, stated, _, ⟨rfl, event⟩, correlation, correlated, _, ⟨rfl, given⟩, rfl⟩, served⟩

/-! ### How far they agree -/

end

/-- A library that counts code units. -/
def sampleLibrary : Validator := ⟨utf16Length, fun _ => Nat.le_refl _⟩

def sampleDrawn : Drawn := ⟨"10000000-0000-4000-8000-000000000001", "00-0af7651916cd43dd8448eb211c80319c-b7ad6b7169203331-01"⟩

def sampleHeaders : RestHeaders := { correlation := none, traceparent := none, tracestate := none, idempotencyKey := some "reboot-1" }

def sampleActor : Actor := ⟨"alice", ["tenant_developer"], ["10000000-0000-4000-8000-000000000002"]⟩

def sampleReboot : Content :=
  .power "10000000-0000-4000-8000-000000000002" "10000000-0000-4000-8000-000000000003" .reboot

end ControlPlane.TransportParity
