import ControlPlane.WireMessages

/-!
The requests of the deterministic provider, and the text by which it tells whether a
repeated request says what it said before. The fencing token of the lease is no part
of that text where the context of a request stands at its top (`requestJson_covered`),
and is part of it where the context is nested (`requestJson_uncovered`).
-/
namespace ControlPlane.FakeRequests
open ControlPlane.Texts ControlPlane.JsonTexts ControlPlane.ProviderPort ControlPlane.WireMessages

/-! ### Methods and mutations -/

inductive ProviderMethod
  | validateProfile
  | getCapabilities
  | submitCreateInstance
  | applyInstanceConfiguration
  | getTask
  | observeInstance
  | startInstance
  | shutdownInstance
  | stopInstance
  | rebootInstance
  | resizeInstance
  | listSnapshots
  | createSnapshot
  | rollbackSnapshot
  | deleteSnapshot
  | markInstanceRetained
  | purgeInstance
  deriving DecidableEq, Repr

def ProviderMethod.text : ProviderMethod → String
  | .validateProfile => "validateProfile"
  | .getCapabilities => "getCapabilities"
  | .submitCreateInstance => "submitCreateInstance"
  | .applyInstanceConfiguration => "applyInstanceConfiguration"
  | .getTask => "getTask"
  | .observeInstance => "observeInstance"
  | .startInstance => "startInstance"
  | .shutdownInstance => "shutdownInstance"
  | .stopInstance => "stopInstance"
  | .rebootInstance => "rebootInstance"
  | .resizeInstance => "resizeInstance"
  | .listSnapshots => "listSnapshots"
  | .createSnapshot => "createSnapshot"
  | .rollbackSnapshot => "rollbackSnapshot"
  | .deleteSnapshot => "deleteSnapshot"
  | .markInstanceRetained => "markInstanceRetained"
  | .purgeInstance => "purgeInstance"

/-- `MarkInstanceRetainedRequest`, with its deadline as the text of the contract. -/
structure RetentionMessage where
  request : Option InstanceMutationRequest := none
  retentionDeadline : Option String := none
  deriving DecidableEq, Repr

/-- `PurgeInstanceRequest`, with its deadline as the text of the contract. -/
structure PurgeMessage where
  request : Option InstanceMutationRequest := none
  purgeAuthorizationId : Option String := none
  retentionDeadline : Option String := none
  deriving DecidableEq, Repr

def retentionSchema : Schema RetentionMessage where
  names := ["request", "retentionDeadline"]
  fields message :=
    [("request", nested instanceMutationSchema message.request), ("retentionDeadline", text message.retentionDeadline)]
  named _ := rfl
  plain := by decide +kernel
  valid _ := by simp
  faithful a b same := by
    cases a
    cases b
    simpa using same

def purgeSchema : Schema PurgeMessage where
  names := ["request", "purgeAuthorizationId", "retentionDeadline"]
  fields message :=
    [("request", nested instanceMutationSchema message.request), ("purgeAuthorizationId", text message.purgeAuthorizationId),
     ("retentionDeadline", text message.retentionDeadline)]
  named _ := rfl
  plain := by decide +kernel
  valid _ := by simp
  faithful a b same := by
    cases a
    cases b
    simpa using same

/-- A call of a mutating method. The power calls and the snapshot actions nest their
    request in a message of its own. -/
inductive Mutation
  | submitCreateInstance (request : SubmitCreateInstanceRequest)
  | applyInstanceConfiguration (request : ApplyInstanceConfigurationRequest)
  | startInstance (request : Option InstanceMutationRequest)
  | shutdownInstance (request : Option InstanceMutationRequest)
  | stopInstance (request : Option InstanceMutationRequest)
  | rebootInstance (request : Option InstanceMutationRequest)
  | resizeInstance (request : ResizeInstanceRequest)
  | createSnapshot (request : CreateSnapshotRequest)
  | rollbackSnapshot (request : Option SnapshotMutationRequest)
  | deleteSnapshot (request : Option SnapshotMutationRequest)
  | markInstanceRetained (request : RetentionMessage)
  | purgeInstance (request : PurgeMessage)
  deriving DecidableEq, Repr

namespace Mutation

def method : Mutation → ProviderMethod
  | .submitCreateInstance _ => .submitCreateInstance
  | .applyInstanceConfiguration _ => .applyInstanceConfiguration
  | .startInstance _ => .startInstance
  | .shutdownInstance _ => .shutdownInstance
  | .stopInstance _ => .stopInstance
  | .rebootInstance _ => .rebootInstance
  | .resizeInstance _ => .resizeInstance
  | .createSnapshot _ => .createSnapshot
  | .rollbackSnapshot _ => .rollbackSnapshot
  | .deleteSnapshot _ => .deleteSnapshot
  | .markInstanceRetained _ => .markInstanceRetained
  | .purgeInstance _ => .purgeInstance

/-- The nested request of a mutation of an existing instance. -/
def request : Mutation → Option InstanceMutationRequest
  | .submitCreateInstance _ | .applyInstanceConfiguration _ => none
  | .startInstance request | .shutdownInstance request | .stopInstance request | .rebootInstance request => request
  | .resizeInstance request => request.request
  | .createSnapshot request => request.request
  | .rollbackSnapshot request | .deleteSnapshot request => request.bind SnapshotMutationRequest.request
  | .markInstanceRetained request => request.request
  | .purgeInstance request => request.request

def context : Mutation → Option ProviderCallContext
  | .submitCreateInstance request => request.context
  | .applyInstanceConfiguration request => request.context
  | mutation => mutation.request.bind InstanceMutationRequest.context

/-- What a method hands on as its request: a power call only the nested one. -/
def presented : Mutation → Value
  | .submitCreateInstance request => submitCreateInstanceSchema.json request
  | .applyInstanceConfiguration request => applyInstanceConfigurationSchema.json request
  | .startInstance request | .shutdownInstance request | .stopInstance request | .rebootInstance request =>
    ((nested instanceMutationSchema request).getD .undefined)
  | .resizeInstance request => resizeInstanceSchema.json request
  | .createSnapshot request => createSnapshotSchema.json request
  | .rollbackSnapshot request | .deleteSnapshot request => snapshotActionSchema.json request
  | .markInstanceRetained request => retentionSchema.json request
  | .purgeInstance request => purgeSchema.json request

end Mutation

/-- Serialises a request for the comparison with an earlier one. The fencing token is
    excluded: it changes precisely when the intent has not. -/
def requestJson : Value → String
  | .object entries =>
    match entries.lookup "context" with
    | some (.object context) =>
      let rest := entries.filter fun entry => entry.1 ≠ "context"
      let intentBearingContext := context.filter fun entry => entry.1 ≠ "fencingToken"
      String.ofList (Value.object (rest ++ [("context", .object intentBearingContext)])).serialize
    | _ => String.ofList (Value.object entries).serialize
  | value => String.ofList value.serialize

/-! ### What the canonical text tells apart -/

/-- A context without its fencing token. -/
def intent (context : ProviderCallContext) : ProviderCallContext := { context with fencingToken := none }

theorem intent_entries (context : ProviderCallContext) :
    (members (contextSchema.fields context)).filter (fun entry => entry.1 ≠ "fencingToken") =
      members (contextSchema.fields (intent context)) := by
  rw [filter_members fun name => name ≠ "fencingToken"]
  simp [contextSchema, intent, members, text]
  rfl

/-- The canonical text of a request that begins with its context. -/
theorem requestJson_context {rest : List (String × Option Value)} (apart : "context" ∉ rest.map Prod.fst)
    (context : ProviderCallContext) :
    requestJson (.object (members (("context", some (contextSchema.json context)) :: rest))) =
      String.ofList (Value.object (members (rest ++ [("context", some (contextSchema.json (intent context)))]))).serialize := by
  have others : (members rest).filter (fun entry => entry.1 ≠ "context") = members rest := by
    refine List.filter_eq_self.mpr fun entry listed => ?_
    have named : entry.1 ∈ rest.map Prod.fst := members_sublist.subset (List.mem_map_of_mem listed)
    exact decide_eq_true fun same => apart (same ▸ named)
  rw [members_some, members_append, members_some, members_nil]
  simp only [requestJson, Schema.json, List.lookup_cons, beq_self_eq_true, List.filter_cons, ne_eq, not_true_eq_false,
    decide_false, Bool.false_eq_true, if_false]
  rw [intent_entries, others]

/-- The canonical text of a request that has no context of its own. -/
theorem requestJson_nested {fields : List (String × Option Value)} (apart : "context" ∉ fields.map Prod.fst) :
    requestJson (.object (members fields)) = String.ofList (Value.object (members fields)).serialize := by
  have none : (members fields).lookup "context" = none := by
    refine List.lookup_eq_none_iff.mpr fun entry listed => ?_
    have named : entry.1 ∈ fields.map Prod.fst := members_sublist.subset (List.mem_map_of_mem listed)
    exact bne_iff_ne.mpr fun same => apart (same ▸ named)
  simp only [requestJson, none]

/-- Requests that begin with their contexts have one canonical text when they say the
    same but for the token. -/
theorem requestJson_context_inj {rest others : List (String × Option Value)} {context another : ProviderCallContext}
    (names : rest.map Prod.fst = others.map Prod.fst) (plain : Plain (rest.map Prod.fst ++ ["context"]))
    (valid : ∀ field ∈ rest, Sayable field) (valid_ : ∀ field ∈ others, Sayable field) :
    requestJson (.object (members (("context", some (contextSchema.json context)) :: rest))) =
        requestJson (.object (members (("context", some (contextSchema.json another)) :: others))) ↔
      intent context = intent another ∧ rest = others := by
  have apart : "context" ∉ rest.map Prod.fst := fun listed =>
    (List.nodup_append.mp plain.1).2.2 _ listed _ List.mem_cons_self rfl
  rw [requestJson_context apart, requestJson_context (names ▸ apart)]
  have json : ∀ {fields : List (String × Option Value)} (c : ProviderCallContext),
      Plain (fields.map Prod.fst ++ ["context"]) → (∀ field ∈ fields, Sayable field) →
      (Value.object (members (fields ++ [("context", some (contextSchema.json (intent c)))]))).Json := by
    intro fields c plain valid
    refine members_json (by simpa using plain) fun field listed => ?_
    rcases List.mem_append.mp listed with old | new
    · exact valid field old
    · rw [List.mem_singleton.mp new]
      intro _ same
      cases same
      exact contextSchema.json_valid
  constructor
  · intro same
    have values := Value.serialize_inj (json context plain valid) (json another (names ▸ plain) valid_)
      (String.ofList_inj.mp same)
    have fields := members_inj (by simp [names]) (by simpa using plain.1) (Value.object.inj values)
    obtain ⟨rests, lasts⟩ := List.append_inj' fields rfl
    simp only [List.cons.injEq, Prod.mk.injEq, Option.some.injEq, true_and, and_true] at lasts
    exact ⟨contextSchema.json_inj lasts, rests⟩
  · rintro ⟨contexts, rfl⟩
    rw [contexts]

/-- A kind of request that begins with its context. -/
theorem requestJson_begins {α : Type} (schema : Schema α) {contextOf : α → Option ProviderCallContext}
    (begins : ∀ a, schema.fields a = ("context", nested contextSchema (contextOf a)) :: (schema.fields a).tail)
    {a b : α} (first : (contextOf a).isSome) (second : (contextOf b).isSome) :
    requestJson (schema.json a) = requestJson (schema.json b) ↔
      (contextOf a).map intent = (contextOf b).map intent ∧ (schema.fields a).tail = (schema.fields b).tail := by
  obtain ⟨context, present⟩ := Option.isSome_iff_exists.mp first
  obtain ⟨another, present_⟩ := Option.isSome_iff_exists.mp second
  have named : ∀ c, (schema.fields c).tail.map Prod.fst = schema.names.tail := fun c => by
    rw [List.map_tail, schema.named]
  have names : schema.names = "context" :: schema.names.tail := by
    rw [← named a, ← schema.named a, begins a]
    rfl
  have plain : Plain ((schema.fields a).tail.map Prod.fst ++ ["context"]) := by
    have perm : (schema.names.tail ++ ["context"]).Perm schema.names := by
      nth_rewrite 2 [names]
      exact List.perm_append_singleton "context" _
    rw [named a]
    exact ⟨perm.nodup_iff.mpr schema.plain.1, fun name listed => schema.plain.2 name (perm.subset listed)⟩
  have valid : ∀ c, ∀ field ∈ (schema.fields c).tail, Sayable field := fun c field listed =>
    schema.valid c field (List.mem_of_mem_tail listed)
  rw [Schema.json, Schema.json, begins a, begins b, present, present_]
  refine (requestJson_context_inj (by rw [named, named]) plain (valid a) (valid b)).trans ?_
  simp

namespace Mutation

/-- A mutation without the fencing token of its context: what it is meant to do. -/
def intended : Mutation → Mutation
  | .submitCreateInstance request => .submitCreateInstance { request with context := request.context.map intent }
  | .applyInstanceConfiguration request =>
    .applyInstanceConfiguration { request with context := request.context.map intent }
  | .startInstance request => .startInstance (request.map own)
  | .shutdownInstance request => .shutdownInstance (request.map own)
  | .stopInstance request => .stopInstance (request.map own)
  | .rebootInstance request => .rebootInstance (request.map own)
  | .resizeInstance request => .resizeInstance { request with request := request.request.map own }
  | .createSnapshot request => .createSnapshot { request with request := request.request.map own }
  | .rollbackSnapshot request => .rollbackSnapshot (request.map ofSnapshot)
  | .deleteSnapshot request => .deleteSnapshot (request.map ofSnapshot)
  | .markInstanceRetained request => .markInstanceRetained { request with request := request.request.map own }
  | .purgeInstance request => .purgeInstance { request with request := request.request.map own }
where
  own (request : InstanceMutationRequest) : InstanceMutationRequest :=
    { request with context := request.context.map intent }
  ofSnapshot (request : SnapshotMutationRequest) : SnapshotMutationRequest :=
    { request with request := request.request.map own }

/-- Whether a method hands on a request whose context stands at its top, where
    `requestJson` looks for it. -/
def covered : Mutation → Bool
  | .submitCreateInstance _ | .applyInstanceConfiguration _ | .startInstance _ | .shutdownInstance _ | .stopInstance _
  | .rebootInstance _ => true
  | .resizeInstance _ | .createSnapshot _ | .rollbackSnapshot _ | .deleteSnapshot _ | .markInstanceRetained _
  | .purgeInstance _ => false

end Mutation

/-- The canonical text of an instance request, alone. -/
theorem requestJson_own {a b : InstanceMutationRequest} (first : a.context.isSome) (second : b.context.isSome) :
    requestJson (instanceMutationSchema.json a) = requestJson (instanceMutationSchema.json b) ↔
      Mutation.intended.own a = Mutation.intended.own b := by
  refine (requestJson_begins instanceMutationSchema (fun _ => rfl) first second).trans ?_
  simp [instanceMutationSchema, Mutation.intended.own]

/-- A covered method tells its requests apart by their intent. -/
theorem requestJson_covered {a b : Mutation} (method : a.method = b.method) (covered : a.covered = true)
    (first : a.context.isSome) (second : b.context.isSome) :
    requestJson a.presented = requestJson b.presented ↔ a.intended = b.intended := by
  have power : ∀ {left right : Option InstanceMutationRequest},
      (left.bind InstanceMutationRequest.context).isSome → (right.bind InstanceMutationRequest.context).isSome →
      (requestJson ((nested instanceMutationSchema left).getD .undefined) =
          requestJson ((nested instanceMutationSchema right).getD .undefined) ↔
        left.map Mutation.intended.own = right.map Mutation.intended.own) := by
    intro left right first second
    cases left with
    | none => cases first
    | some left =>
      cases right with
      | none => cases second
      | some right => exact (requestJson_own first second).trans (by simp)
  cases a with
  | submitCreateInstance request =>
    cases b with
    | submitCreateInstance other =>
      refine (requestJson_begins submitCreateInstanceSchema (fun _ => rfl) first second).trans ?_
      simp [submitCreateInstanceSchema, Mutation.intended]
    | _ => cases method
  | applyInstanceConfiguration request =>
    cases b with
    | applyInstanceConfiguration other =>
      refine (requestJson_begins applyInstanceConfigurationSchema (fun _ => rfl) first second).trans ?_
      simp [applyInstanceConfigurationSchema, Mutation.intended]
    | _ => cases method
  | startInstance request =>
    cases b with
    | startInstance other => exact (@power request other first second).trans (by simp [Mutation.intended])
    | _ => cases method
  | shutdownInstance request =>
    cases b with
    | shutdownInstance other => exact (@power request other first second).trans (by simp [Mutation.intended])
    | _ => cases method
  | stopInstance request =>
    cases b with
    | stopInstance other => exact (@power request other first second).trans (by simp [Mutation.intended])
    | _ => cases method
  | rebootInstance request =>
    cases b with
    | rebootInstance other => exact (@power request other first second).trans (by simp [Mutation.intended])
    | _ => cases method
  | _ => cases covered

/-- A schema whose messages have no context of their own compares whole messages. -/
theorem requestJson_schema {α : Type} {schema : Schema α} (apart : "context" ∉ schema.names) {a b : α} :
    requestJson (schema.json a) = requestJson (schema.json b) ↔ a = b := by
  constructor
  · intro same
    rw [Schema.json, Schema.json, requestJson_nested (schema.named a ▸ apart), requestJson_nested (schema.named b ▸ apart)] at same
    exact schema.text_inj (String.ofList_inj.mp same)
  · rintro rfl
    rfl

/-- The other methods compare the token too. -/
theorem requestJson_uncovered {a b : Mutation} (method : a.method = b.method) (uncovered : a.covered = false) :
    requestJson a.presented = requestJson b.presented ↔ a = b := by
  cases a with
  | resizeInstance request =>
    cases b with
    | resizeInstance other => exact (requestJson_schema (by decide)).trans (by simp)
    | _ => cases method
  | createSnapshot request =>
    cases b with
    | createSnapshot other => exact (requestJson_schema (by decide)).trans (by simp)
    | _ => cases method
  | rollbackSnapshot request =>
    cases b with
    | rollbackSnapshot other => exact (requestJson_schema (by decide)).trans (by simp)
    | _ => cases method
  | deleteSnapshot request =>
    cases b with
    | deleteSnapshot other => exact (requestJson_schema (by decide)).trans (by simp)
    | _ => cases method
  | markInstanceRetained request =>
    cases b with
    | markInstanceRetained other => exact (requestJson_schema (by decide)).trans (by simp)
    | _ => cases method
  | purgeInstance request =>
    cases b with
    | purgeInstance other => exact (requestJson_schema (by decide)).trans (by simp)
    | _ => cases method
  | _ => cases uncovered

end ControlPlane.FakeRequests
