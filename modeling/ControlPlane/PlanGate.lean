import Mathlib.Data.List.Count
import ControlPlane.JsonValues
import ControlPlane.Tables

/-!
The gate that every Terraform plan passes before it is applied. It reads what
`terraform show -json` printed, whose types are asserted and not checked:
whatever is missing takes a default.
-/
namespace ControlPlane.PlanGate
open ControlPlane.JsonValues ControlPlane.Tables

inductive GateDecision
  | allowed
  | refusedDestructive
deriving DecidableEq

/-- One resource change that the gate objected to. -/
structure GateObjection where
  address : Json
  actions : List Json
  actionReason : Option Json
  replacePaths : Option (List String)

/-- An entry of a tally. What objects inherit is no number, and adding to it
    makes a text. -/
inductive Count
  | number (value : Nat)
  | text (value : String)
deriving DecidableEq, Repr

structure GateResult where
  decision : GateDecision
  rule : Option Json
  actionCounts : List (String × Count)
  objections : List GateObjection
  summary : String

def permittedActions : List String := ["no-op", "create", "read", "update"]

def destructiveAction : String := "delete"

def countedActions : List String := ["no-op", "create", "read", "update", "delete", "replace"]

/-! ### The tally -/

/-- `change.change?.actions ?? []`. -/
def changeActions (change : Json) : Evaluated Json :=
  return Json.coalesce (.arr []) (Json.optional "actions" (← change.member "change"))

def Count.succ : Count → Count
  | number value => number (value + 1)
  | text value => text (value ++ "1")

def Count.positive : Count → Bool
  | number value => 0 < value
  | text _ => false

def Count.printed : Count → String
  | number value => toString value
  | text value => value

/-- `counts[key] = (counts[key] ?? 0) + 1`, where `inherited` is what the
    prototype of objects has under a name, as a text. -/
def increment (inherited : String → Option String) (counts : List (String × Count)) (key : String) :
    List (String × Count) :=
  match counts.find? (·.1 = key) with
  | some _ => counts.map fun entry => if entry.1 = key then (key, entry.2.succ) else entry
  | none =>
    -- The prototype itself is not replaced by a text.
    if key = "__proto__" then counts
    else
      let start := match inherited key with
        | some printed => .text printed
        | none => .number 0
      counts ++ [(key, Count.succ start)]

/-- A replacement is two actions in one list. -/
def isReplacement (actions : Json) : Evaluated Bool := do
  if ← actions.includes destructiveAction then actions.includes "create" else return false

def countAction (inherited : String → Option String) (counts : List (String × Count)) (action : Json) :
    Evaluated (List (String × Count)) := return increment inherited counts (← action.text)

/-- The tally of one resource change. -/
def countChange (inherited : String → Option String) (counts : List (String × Count)) (change : Json) :
    Evaluated (List (String × Count)) := do
  let actions ← changeActions change
  let replaced ← isReplacement actions
  (← actions.iterate).foldlM (countAction inherited) (if replaced then increment inherited counts "replace" else counts)

def countActions (inherited : String → Option String) (changes : Json) : Evaluated (List (String × Count)) := do
  (← changes.iterate).foldlM (countChange inherited) (countedActions.map fun action => (action, .number 0))

/-! ### The objections -/

def renderPath (path : Json) : Evaluated String :=
  return ".".intercalate (← (← path.array).mapM Json.text)

/-- The paths of `change.change?.replace_paths`, if it counts as true. -/
def renderReplacePaths (replaced : Option Json) : Evaluated (Option (List String)) :=
  match replaced.filter Json.truthy with
  | some paths => do return some (← (← paths.array).mapM renderPath)
  | none => return none

/-- The rule and the objections so far. -/
structure Gate where
  rule : Option Json
  objections : List GateObjection

/-- What the gate has against one resource change: the rule that it falls under,
    and the objection. -/
def judge (allowDestroyOf : Option String) (change : Json) : Evaluated (Option (Json × GateObjection)) := do
  let address := Json.coalesce (.str "unknown") (← change.member "address")
  let actions ← (← changeActions change).array
  if actions.any fun action => !permittedActions.any action.is && !action.is destructiveAction then
    return some (.str "unrecognised_action", ⟨address, actions, none, none⟩)
  else if !actions.any (Json.is destructiveAction) then return none
  else if allowDestroyOf.any address.is then return none
  else
    let reason ← change.member "action_reason"
    let replacePaths ← renderReplacePaths (Json.optional "replace_paths" (← change.member "change"))
    return some (Json.coalesce (.str "delete_not_permitted") reason,
      ⟨address, actions, reason.filter Json.truthy, replacePaths⟩)

/-- One turn of the loop over the resource changes. -/
def gateChange (allowDestroyOf : Option String) (gate : Gate) (change : Json) : Evaluated Gate := do
  match ← judge allowDestroyOf change with
  | none => return gate
  | some (rule, objection) => return ⟨gate.rule.or (some rule), gate.objections ++ [objection]⟩

def describeReason : Option Json → Evaluated String
  | some reason => return " (" ++ (← reason.text) ++ ")"
  | none => return ""

/-- The line of the summary about one objection. -/
def describeObjection (objection : GateObjection) : Evaluated String := do
  let reason ← describeReason objection.actionReason
  let paths := match objection.replacePaths with
    | some (path :: more) => " forced by " ++ ", ".intercalate (path :: more)
    | _ => ""
  return (← objection.address.text) ++ ": " ++ (← Json.join "+" objection.actions) ++ reason ++ paths

/-- `plan && typeof plan === 'object'`: lists are objects too. -/
def isObject : Option Json → Bool
  | some (.arr _) | some (.obj _) => true
  | _ => false

/-- `plan.errored === true`. -/
def isErrored (plan : Option Json) : Bool :=
  match Json.optional "errored" plan with
  | some (.bool true) => true
  | _ => false

/-- `changes.length === 0`. -/
def isEmpty : Json → Bool
  | .arr items => items.isEmpty
  | .str value => value = ""
  | _ => false

def allowedSummary (changes : Json) (actionCounts : List (String × Count)) : String :=
  if isEmpty changes then "No changes."
  else
    let described := " ".intercalate ((actionCounts.filter (·.2.positive)).map fun entry =>
      entry.1 ++ "=" ++ entry.2.printed)
    "Allowed: " ++ (if described = "" then "no-op" else described) ++ "."

def evaluatePlan (inherited : String → Option String) (plan : Option Json) (allowDestroyOf : Option String) :
    Evaluated GateResult := do
  if !isObject plan then
    return ⟨.refusedDestructive, some (.str "unparseable_plan"), [], [],
      "The plan could not be read. Refusing, because a gate that guesses is not a gate."⟩
  else if isErrored plan then
    return ⟨.refusedDestructive, some (.str "errored_plan"), [], [],
      "Terraform marked this plan as errored. Nothing is applied from an errored plan."⟩
  else
    let changes := Json.coalesce (.arr []) (Json.optional "resource_changes" plan)
    let actionCounts ← countActions inherited changes
    let gate ← (← changes.iterate).foldlM (gateChange allowDestroyOf) ⟨none, []⟩
    if gate.objections.isEmpty then
      return ⟨.allowed, none, actionCounts, [], allowedSummary changes actionCounts⟩
    else
      let detail ← gate.objections.mapM describeObjection
      return ⟨.refusedDestructive, gate.rule.filter Json.truthy, actionCounts, gate.objections,
        "Refused, this plan would destroy a provider resource. " ++ "; ".intercalate detail⟩

/-- The gate's part of `TerraformRunner.plan`: a plan that exits with an error and
    an output that is not JSON are no plan. The exit code of `terraform show` is
    not read, and an empty address permits nothing. -/
def planGate (inherited : String → Option String) (parse : String → Option Json) (exitCode : Int) (shown : String)
    (allowDestroyOf : Option String) : Evaluated GateResult :=
  if exitCode ≠ 0 then evaluatePlan inherited none none
  else evaluatePlan inherited (parse shown) (allowDestroyOf.filter (· ≠ ""))

/-! ### What is to be refused -/

/-- The actions that a resource change states. -/
def statedActions (change : Json) : Option (List Json) :=
  match Json.optional "actions" (change.own "change") with
  | some (.arr actions) => some actions
  | _ => none

def statedAddress (change : Json) : Json := Json.coalesce (.str "unknown") (change.own "address")

/-- A delete is permitted at the address that may be destroyed. -/
def permits (allowDestroyOf : Option String) (change action : Json) : Bool :=
  permittedActions.any action.is ||
    action.is destructiveAction && allowDestroyOf.any fun address => (change.own "address").any (Json.is address)

/-- Whether a resource change states its actions, and each of them is permitted. -/
def harmless (allowDestroyOf : Option String) (change : Json) : Bool :=
  match statedActions change with
  | some (action :: more) => (action :: more).all (permits allowDestroyOf change)
  | _ => false

/-- A document that lists its resource changes, all of them harmless. -/
def Complete (plan : Option Json) (allowDestroyOf : Option String) : Prop :=
  isErrored plan = false ∧ ∃ changes, Json.optional "resource_changes" plan = some (.arr changes) ∧
    ∀ change ∈ changes, harmless allowDestroyOf change = true

/-- Only a complete document is allowed, any other is refused, and what is refused
    for its actions names each change that is not harmless. -/
structure FailsClosed (inherited : String → Option String) (plan : Option Json) (allowDestroyOf : Option String) : Prop where
  complete : ∀ result, evaluatePlan inherited plan allowDestroyOf = .ok result → result.decision = .allowed →
    Complete plan allowDestroyOf
  refused : ¬ Complete plan allowDestroyOf →
    ∃ result, evaluatePlan inherited plan allowDestroyOf = .ok result ∧ result.decision = .refusedDestructive
  objections : isErrored plan = false → ∀ changes, Json.optional "resource_changes" plan = some (.arr changes) →
    ∀ result, evaluatePlan inherited plan allowDestroyOf = .ok result → result.decision = .refusedDestructive →
      result.objections.map (fun objection => (objection.address, objection.actions)) =
        (changes.filter fun change => !harmless allowDestroyOf change).map fun change =>
          (statedAddress change, (statedActions change).getD [])

/-! ### What the gate can read -/

/-- Whether the gate knows an action. -/
def recognised (action : Json) : Bool := permittedActions.any action.is || action.is destructiveAction

/-- A change whose actions are stated and printable. Where it is objected to, its
    address prints too, and if only for a delete the reason and the paths do. -/
structure Legible (allowDestroyOf : Option String) (change : Json) : Prop where
  stated : ∃ actions, statedActions change = some actions ∧ actions ≠ [] ∧
    ∀ action ∈ actions, ∃ printed, action.text = .ok printed
  addressed : harmless allowDestroyOf change = false → ∃ printed, (statedAddress change).text = .ok printed
  named : ((statedActions change).getD []).all recognised = true →
    ((statedActions change).getD []).any (Json.is destructiveAction) = true → allowDestroyOf = some "unknown" →
    change.own "address" ≠ none ∧ change.own "address" ≠ some .null
  explained : ((statedActions change).getD []).all recognised = true → harmless allowDestroyOf change = false →
    ∀ reason, change.own "action_reason" = some reason → reason.truthy = true → ∃ printed, reason.text = .ok printed
  routed : ((statedActions change).getD []).all recognised = true → harmless allowDestroyOf change = false →
    ∀ paths, Json.optional "replace_paths" (change.own "change") = some paths → paths.truthy = true →
      ∃ routes, paths = .arr routes ∧ ∀ route ∈ routes, ∃ rendered, renderPath route = .ok rendered

/-- No document, an errored one, or one that lists legible changes. -/
def Readable (plan : Option Json) (allowDestroyOf : Option String) : Prop :=
  isObject plan = false ∨ isErrored plan = true ∨
    ∃ changes, Json.optional "resource_changes" plan = some (.arr changes) ∧
      ∀ change ∈ changes, Legible allowDestroyOf change

/-! ### One change -/

section
variable {inherited : String → Option String} {allowDestroyOf : Option String} {change : Json}

theorem mapM_ok {α β : Type} {f : α → Evaluated β} (items : List α) :
    (∃ results, items.mapM f = .ok results) ↔ ∀ item ∈ items, ∃ result, f item = .ok result := by
  induction items with
  | nil => exact ⟨fun _ _ impossible => absurd impossible List.not_mem_nil, fun _ => ⟨[], rfl⟩⟩
  | cons item rest ih =>
    rw [List.mapM_cons, List.forall_mem_cons, ← ih]
    constructor
    · rintro ⟨results, ended⟩
      obtain ⟨result, first, ended⟩ := bind_ok ended
      obtain ⟨more, remaining, -⟩ := bind_ok ended
      exact ⟨⟨result, first⟩, more, remaining⟩
    · rintro ⟨⟨result, first⟩, more, remaining⟩
      exact ⟨result :: more, by rw [first, remaining]; rfl⟩

/-- The actions that are read are the stated ones, or none are stated. -/
theorem changeActions_array {actions : List Json}
    (read : (changeActions change >>= Json.array) = .ok actions) :
    change ≠ .null ∧ (statedActions change = some actions ∨ statedActions change = none ∧ actions = []) := by
  obtain ⟨value, first, listed⟩ := bind_ok read
  obtain ⟨found, inner, same⟩ := bind_ok first
  obtain ⟨given, rfl⟩ := Json.member_ok inner
  have same : Json.coalesce (.arr []) (Json.optional "actions" (change.own "change")) = value := Except.ok.inj same
  refine ⟨given, ?_⟩
  rw [Json.array_ok listed] at same
  rcases Json.coalesce_cases same with ⟨missing, empty⟩ | ⟨stated, -⟩
  · refine .inr ⟨?_, Json.arr.inj empty⟩
    unfold statedActions
    rcases missing with none_ | null_
    · rw [none_]
    · rw [null_]
  · exact .inl (by rw [statedActions, stated])

theorem changeActions_stated {actions : List Json} (stated : statedActions change = some actions) :
    changeActions change = .ok (.arr actions) := by
  unfold statedActions at stated
  split at stated
  next listed found =>
    cases stated
    have given : change ≠ .null := by
      rintro rfl
      cases found
    rw [changeActions, Json.member_of_ne given]
    show Except.ok (Json.coalesce (.arr []) (Json.optional "actions" (change.own "change"))) = _
    rw [found]
    rfl
  next => cases stated

theorem renderReplacePaths_ok (replaced : Option Json) : (∃ rendered, renderReplacePaths replaced = .ok rendered) ↔
    ∀ paths, replaced = some paths → paths.truthy = true →
      ∃ routes, paths = .arr routes ∧ ∀ route ∈ routes, ∃ rendered, renderPath route = .ok rendered := by
  unfold renderReplacePaths
  constructor
  · rintro ⟨rendered, ended⟩ paths rfl truthy
    rw [Option.filter_some, if_pos truthy] at ended
    obtain ⟨routes, listed, ended⟩ := bind_ok ended
    obtain ⟨results, ended, -⟩ := bind_ok ended
    exact ⟨routes, Json.array_ok listed, (mapM_ok routes).mp ⟨results, ended⟩⟩
  · intro legible
    cases kept : replaced.filter Json.truthy with
    | none => exact ⟨none, rfl⟩
    | some paths =>
      obtain ⟨given, truthy⟩ := Option.filter_eq_some_iff.mp kept
      obtain ⟨routes, rfl, renders⟩ := legible paths given truthy
      obtain ⟨results, ended⟩ := (mapM_ok routes).mpr renders
      exact ⟨some results, by show (routes.mapM renderPath >>= fun rendered => pure (some rendered)) = _; rw [ended]; rfl⟩

/-- What is held against a change with the actions given. -/
inductive Judged (allowDestroyOf : Option String) (change : Json) (actions : List Json) :
    Option (Json × GateObjection) → Prop
  | unrecognised (unknown : actions.all recognised = false) : Judged allowDestroyOf change actions
      (some (.str "unrecognised_action", ⟨statedAddress change, actions, none, none⟩))
  | unharmed (known : actions.all recognised = true) (kept : actions.any (Json.is destructiveAction) = false) :
      Judged allowDestroyOf change actions none
  | authorized (known : actions.all recognised = true) (destroys : actions.any (Json.is destructiveAction) = true)
      (address : allowDestroyOf.any (statedAddress change).is = true) : Judged allowDestroyOf change actions none
  | destructive (known : actions.all recognised = true) (destroys : actions.any (Json.is destructiveAction) = true)
      (elsewhere : allowDestroyOf.any (statedAddress change).is = false) (replacePaths : Option (List String))
      (rendered : renderReplacePaths (Json.optional "replace_paths" (change.own "change")) = .ok replacePaths) :
      Judged allowDestroyOf change actions (some (Json.coalesce (.str "delete_not_permitted") (change.own "action_reason"),
        ⟨statedAddress change, actions, (change.own "action_reason").filter Json.truthy, replacePaths⟩))

theorem recognised_any (actions : List Json) :
    (actions.any fun action => !permittedActions.any action.is && !action.is destructiveAction) =
      !actions.all recognised := by
  rw [List.not_all_eq_any_not]
  simp only [recognised, Bool.not_or]

theorem judge_ok {verdict : Option (Json × GateObjection)} (judged : judge allowDestroyOf change = .ok verdict) :
    change ≠ .null ∧ ∃ actions, (statedActions change = some actions ∨ statedActions change = none ∧ actions = []) ∧
      Judged allowDestroyOf change actions verdict := by
  obtain ⟨found, inner, judged⟩ := bind_ok judged
  obtain ⟨given, rfl⟩ := Json.member_ok inner
  obtain ⟨value, first, judged⟩ := bind_ok judged
  obtain ⟨actions, listed, judged⟩ := bind_ok judged
  refine ⟨given, actions, (changeActions_array (by rw [first]; exact listed)).2, ?_⟩
  rw [recognised_any] at judged
  cases known : actions.all recognised with
  | false =>
    rw [known] at judged
    cases judged
    exact .unrecognised known
  | true =>
    simp only [known, Bool.not_true, Bool.false_eq_true, if_false] at judged
    cases destroys : actions.any (Json.is destructiveAction) with
    | false =>
      simp only [destroys, Bool.not_false, if_true] at judged
      cases judged
      exact .unharmed known destroys
    | true =>
      simp only [destroys, Bool.not_true, Bool.false_eq_true, if_false] at judged
      cases address : allowDestroyOf.any (statedAddress change).is with
      | true =>
        rw [statedAddress] at address
        simp only [address, if_true] at judged
        cases judged
        exact .authorized known destroys address
      | false =>
        have elsewhere := address
        rw [statedAddress] at address
        simp only [address, Bool.false_eq_true, if_false] at judged
        obtain ⟨reason, asked, judged⟩ := bind_ok judged
        obtain ⟨-, rfl⟩ := Json.member_ok asked
        obtain ⟨replaced, inside, judged⟩ := bind_ok judged
        obtain ⟨-, rfl⟩ := Json.member_ok inside
        obtain ⟨replacePaths, rendered, judged⟩ := bind_ok judged
        cases judged
        exact .destructive known destroys elsewhere replacePaths rendered

/-! ### What is objected to is not harmless -/

theorem harmless_stated {actions : List Json} (stated : statedActions change = some actions) (some_ : actions ≠ []) :
    harmless allowDestroyOf change = actions.all (permits allowDestroyOf change) := by
  rw [harmless, stated]
  cases actions with
  | nil => exact absurd rfl some_
  | cons => rfl

theorem stated_of_harmless (harm : harmless allowDestroyOf change = true) :
    ∃ actions, statedActions change = some actions ∧ actions ≠ [] ∧ actions.all (permits allowDestroyOf change) = true := by
  unfold harmless at harm
  split at harm
  next action more stated => exact ⟨_, stated, List.cons_ne_nil _ _, harm⟩
  next => cases harm

theorem recognised_of_permits {action : Json} (permitted : permits allowDestroyOf change action = true) :
    recognised action = true := by
  rw [permits, Bool.or_eq_true, Bool.and_eq_true] at permitted
  rw [recognised, Bool.or_eq_true]
  exact permitted.imp id And.left

/-- An address that may be destroyed is the one that the gate compares. -/
theorem permits_destructive {action : Json} (deletes : action.is destructiveAction = true) :
    permits allowDestroyOf change action = allowDestroyOf.any fun address => (change.own "address").any (Json.is address) := by
  rw [Json.is_iff] at deletes
  subst deletes
  rw [permits, show (permittedActions.any fun text => (Json.str destructiveAction).is text) = false by decide,
    show (Json.str destructiveAction).is destructiveAction = true by decide, Bool.false_or, Bool.true_and]

theorem statedAddress_is {address : String} (own : (change.own "address").any (Json.is address) = true) :
    (statedAddress change).is address = true := by
  obtain ⟨value, found, same⟩ := (Option.any_eq_true _ _).mp own
  rw [Json.is_iff] at same
  subst same
  rw [statedAddress, found]
  exact Json.is_iff.mpr rfl

/-- The address is compared with itself, unless it is missing and `unknown` may be
    destroyed. -/
theorem own_address {address : String} (same : (statedAddress change).is address = true)
    (given : address = "unknown" → change.own "address" ≠ none ∧ change.own "address" ≠ some .null) :
    (change.own "address").any (Json.is address) = true := by
  rw [Json.is_iff] at same
  rcases Json.coalesce_cases same with ⟨missing, unknown⟩ | ⟨found, -⟩
  · cases unknown
    exact (missing.elim (given rfl).1 (given rfl).2).elim
  · rw [found]
    exact Json.is_iff.mpr rfl

/-- An action that is not permitted does harm. -/
theorem harmful_of_action {actions : List Json} (listed : (statedActions change).getD [] = actions) {action : Json}
    (member : action ∈ actions) (forbidden : permits allowDestroyOf change action = false) :
    harmless allowDestroyOf change = false := by
  by_contra harm
  obtain ⟨found, same, -, permitted⟩ := stated_of_harmless (Bool.of_not_eq_false harm)
  rw [same] at listed
  have listed : found = actions := listed
  have own := List.all_eq_true.mp permitted action (listed ▸ member)
  rw [forbidden] at own
  cases own

/-- So does a delete elsewhere than where it is permitted. -/
theorem harmful_of_delete {actions : List Json} (listed : (statedActions change).getD [] = actions)
    (destroys : actions.any (Json.is destructiveAction) = true)
    (elsewhere : allowDestroyOf.any (statedAddress change).is = false) : harmless allowDestroyOf change = false := by
  obtain ⟨action, member, deletes⟩ := List.any_eq_true.mp destroys
  refine harmful_of_action listed member ?_
  by_contra permitted
  have own := Bool.of_not_eq_false permitted
  rw [permits_destructive deletes] at own
  obtain ⟨address, allows, same⟩ := (Option.any_eq_true _ _).mp own
  rw [allows, Option.any_some, statedAddress_is same] at elsewhere
  cases elsewhere

theorem objected_harmful {actions : List Json} {verdict : Json × GateObjection}
    (listed : (statedActions change).getD [] = actions) (judged : Judged allowDestroyOf change actions (some verdict)) :
    harmless allowDestroyOf change = false ∧ verdict.2.address = statedAddress change ∧ verdict.2.actions = actions := by
  cases judged with
  | unrecognised unknown =>
    obtain ⟨action, member, not_⟩ := List.all_eq_false.mp unknown
    refine ⟨harmful_of_action listed member ?_, rfl, rfl⟩
    by_contra permitted
    exact not_ (recognised_of_permits (Bool.of_not_eq_false permitted))
  | destructive known destroys elsewhere => exact ⟨harmful_of_delete listed destroys elsewhere, rfl, rfl⟩

theorem unobjected_harmless {actions : List Json} (stated : statedActions change = some actions) (some_ : actions ≠ [])
    (named : actions.all recognised = true → actions.any (Json.is destructiveAction) = true →
      allowDestroyOf = some "unknown" → change.own "address" ≠ none ∧ change.own "address" ≠ some .null)
    (judged : Judged allowDestroyOf change actions none) : harmless allowDestroyOf change = true := by
  rw [harmless_stated stated some_, List.all_eq_true]
  intro action member
  cases judged with
  | unharmed known kept =>
    have spared : action.is destructiveAction = false := by
      by_contra deletes
      exact absurd (List.any_eq_true.mpr ⟨action, member, Bool.of_not_eq_false deletes⟩) (by rw [kept]; exact Bool.false_ne_true)
    have own := List.all_eq_true.mp known action member
    rw [recognised, spared, Bool.or_false] at own
    rw [permits, own, Bool.true_or]
  | authorized known destroys address =>
    have own := List.all_eq_true.mp known action member
    rw [recognised, Bool.or_eq_true] at own
    rw [permits, Bool.or_eq_true, Bool.and_eq_true]
    refine own.imp id fun deletes => ⟨deletes, ?_⟩
    obtain ⟨named_, allows, same⟩ := (Option.any_eq_true _ _).mp address
    rw [allows, Option.any_some]
    refine own_address same fun unknown => ?_
    subst unknown
    exact named known destroys allows

theorem describeObjection_ok (objection : GateObjection) : (∃ described, describeObjection objection = .ok described) ↔
    (∀ reason, objection.actionReason = some reason → ∃ printed, reason.text = .ok printed) ∧
      (∃ printed, objection.address.text = .ok printed) ∧
      ∀ action ∈ objection.actions, ∃ printed, action.text = .ok printed := by
  rw [← Json.texts_ok]
  constructor
  · rintro ⟨described, ended⟩
    obtain ⟨reason, first, ended⟩ := bind_ok ended
    obtain ⟨address, second, ended⟩ := bind_ok ended
    obtain ⟨actions, third, -⟩ := bind_ok ended
    obtain ⟨texts, joined, -⟩ := bind_ok third
    refine ⟨fun given same => ?_, ⟨address, second⟩, texts, joined⟩
    rw [same] at first
    obtain ⟨printed, prints, -⟩ := bind_ok first
    exact ⟨printed, prints⟩
  · rintro ⟨reasons, ⟨address, second⟩, texts, joined⟩
    unfold describeObjection Json.join
    rw [second, joined]
    cases given : objection.actionReason with
    | none => exact ⟨_, rfl⟩
    | some reason =>
      obtain ⟨printed, prints⟩ := reasons reason given
      rw [describeReason, prints]
      exact ⟨_, rfl⟩

/-- A legible change is judged, what is held against it can be described, and
    nothing is held against a harmless one. -/
theorem judge_legible (legible : Legible allowDestroyOf change) :
    ∃ verdict, judge allowDestroyOf change = .ok verdict ∧
      ∀ rule objection, verdict = some (rule, objection) → ∃ described, describeObjection objection = .ok described := by
  obtain ⟨actions, stated, some_, printable⟩ := legible.stated
  have given : change ≠ .null := by
    rintro rfl
    cases stated
  have listed : (statedActions change).getD [] = actions := by rw [stated]; rfl
  unfold judge
  rw [Json.member_of_ne given, changeActions_stated stated, Json.member_of_ne given, Json.member_of_ne given]
  simp only [bind, Except.bind, Json.array, pure, Except.pure, recognised_any]
  cases known : actions.all recognised with
  | false =>
    refine ⟨_, rfl, fun rule objection same => ?_⟩
    cases same
    exact (describeObjection_ok _).mpr
      ⟨(by intro _ impossible; cases impossible), legible.addressed (objected_harmful listed (.unrecognised known)).1,
        printable⟩
  | true =>
    cases destroys : actions.any (Json.is destructiveAction) with
    | false => exact ⟨none, rfl, fun _ _ impossible => by cases impossible⟩
    | true =>
      cases elsewhere : allowDestroyOf.any (statedAddress change).is with
      | true =>
        rw [statedAddress] at elsewhere
        rw [elsewhere]
        exact ⟨none, rfl, fun _ _ impossible => by cases impossible⟩
      | false =>
        have harm := harmful_of_delete listed destroys elsewhere
        rw [statedAddress] at elsewhere
        rw [elsewhere]
        obtain ⟨replacePaths, rendered⟩ :=
          (renderReplacePaths_ok _).mpr (legible.routed (listed ▸ known) harm)
        simp only [Bool.not_true, Bool.false_eq_true, if_false, rendered]
        refine ⟨_, rfl, fun rule objection same => ?_⟩
        cases same
        refine (describeObjection_ok _).mpr ⟨fun reason kept => ?_, legible.addressed harm, printable⟩
        obtain ⟨own, truthy⟩ := Option.filter_eq_some_iff.mp kept
        exact legible.explained (listed ▸ known) harm reason own truthy

/-! ### All changes -/

theorem foldlM_ok {α β : Type} {f : β → α → Evaluated β} {good : α → Prop}
    (steps : ∀ sum item, (∃ next, f sum item = .ok next) ↔ good item) (items : List α) (sum : β) :
    (∃ result, items.foldlM f sum = .ok result) ↔ ∀ item ∈ items, good item := by
  induction items generalizing sum with
  | nil => exact ⟨fun _ _ impossible => absurd impossible List.not_mem_nil, fun _ => ⟨sum, rfl⟩⟩
  | cons item rest ih =>
    rw [List.foldlM_cons, List.forall_mem_cons, ← steps sum item]
    constructor
    · rintro ⟨result, ended⟩
      obtain ⟨next, first, remaining⟩ := bind_ok ended
      exact ⟨⟨next, first⟩, (ih next).mp ⟨result, remaining⟩⟩
    · rintro ⟨⟨next, first⟩, more⟩
      obtain ⟨result, remaining⟩ := (ih next).mpr more
      exact ⟨result, by rw [first]; exact remaining⟩

/-- A change whose actions can be tallied. -/
def Countable (change : Json) : Prop :=
  ∃ actions items, changeActions change = .ok actions ∧ actions.iterate = .ok items ∧
    ∀ item ∈ items, ∃ printed, item.text = .ok printed

theorem isReplacement_ok {actions : Json} {items : List Json} (listed : actions.iterate = .ok items) :
    ∃ replaced, isReplacement actions = .ok replaced := by
  have includes (text : String) : ∃ found, actions.includes text = .ok found := by
    cases actions with
    | arr | str => exact ⟨_, rfl⟩
    | _ => cases listed
  obtain ⟨deletes, has⟩ := includes destructiveAction
  unfold isReplacement
  rw [has]
  cases deletes with
  | true => exact includes "create"
  | false => exact ⟨false, rfl⟩

theorem countAction_ok (counts : List (String × Count)) (action : Json) :
    (∃ tally, countAction inherited counts action = .ok tally) ↔ ∃ printed, action.text = .ok printed := by
  constructor
  · rintro ⟨tally, ended⟩
    exact (bind_ok ended).imp fun _ found => found.1
  · rintro ⟨printed, prints⟩
    exact ⟨increment inherited counts printed, by rw [countAction, prints]; rfl⟩

theorem countChange_ok (counts : List (String × Count)) (change : Json) :
    (∃ tally, countChange inherited counts change = .ok tally) ↔ Countable change := by
  constructor
  · rintro ⟨tally, ended⟩
    obtain ⟨actions, read, ended⟩ := bind_ok ended
    obtain ⟨replaced, -, ended⟩ := bind_ok ended
    obtain ⟨items, listed, ended⟩ := bind_ok ended
    exact ⟨actions, items, read, listed, (foldlM_ok countAction_ok items _).mp ⟨tally, ended⟩⟩
  · rintro ⟨actions, items, read, listed, printable⟩
    obtain ⟨replaced, replaces⟩ := isReplacement_ok listed
    obtain ⟨tally, ended⟩ := (foldlM_ok (@countAction_ok inherited) items
      (if replaced then increment inherited counts "replace" else counts)).mpr printable
    refine ⟨tally, ?_⟩
    rw [countChange, read]
    show (isReplacement actions >>= _) = _
    rw [replaces]
    show (actions.iterate >>= _) = _
    rw [listed]
    exact ended

theorem gateChange_ok (gate : Gate) (change : Json) : (∃ next, gateChange allowDestroyOf gate change = .ok next) ↔
    ∃ verdict, judge allowDestroyOf change = .ok verdict := by
  constructor
  · rintro ⟨next, ended⟩
    exact (bind_ok ended).imp fun _ found => found.1
  · rintro ⟨verdict, judged⟩
    unfold gateChange
    rw [judged]
    cases verdict with
    | none => exact ⟨_, rfl⟩
    | some => exact ⟨_, rfl⟩

/-- The objection to a change. -/
def objectionTo (allowDestroyOf : Option String) (change : Json) : Option GateObjection :=
  match judge allowDestroyOf change with
  | .ok (some (_, objection)) => some objection
  | _ => none

theorem gateChange_objections {gate next : Gate} (ended : gateChange allowDestroyOf gate change = .ok next) :
    next.objections = gate.objections ++ (objectionTo allowDestroyOf change).toList := by
  obtain ⟨verdict, judged, ended⟩ := bind_ok ended
  rw [objectionTo, judged]
  cases verdict with
  | none =>
    cases ended
    exact (List.append_nil _).symm
  | some =>
    cases ended
    rfl

theorem gate_objections {changes : List Json} {gate after : Gate}
    (ended : changes.foldlM (gateChange allowDestroyOf) gate = .ok after) :
    after.objections = gate.objections ++ changes.filterMap (objectionTo allowDestroyOf) := by
  induction changes generalizing gate with
  | nil =>
    cases ended
    exact (List.append_nil _).symm
  | cons change rest ih =>
    rw [List.foldlM_cons] at ended
    obtain ⟨next, first, remaining⟩ := bind_ok ended
    rw [ih remaining, gateChange_objections first, List.append_assoc, List.filterMap_cons]
    cases objectionTo allowDestroyOf change <;> rfl

/-! ### The document -/

/-- What the gate made of the changes of a document. -/
structure Evaluation (changes : Json) (allowDestroyOf : Option String) (result : GateResult) : Prop where
  gated : ∃ items gate, changes.iterate = .ok items ∧
    items.foldlM (gateChange allowDestroyOf) ⟨none, []⟩ = .ok gate ∧ result.objections = gate.objections
  decided : result.objections = [] ∧ result.decision = .allowed ∨ result.objections ≠ [] ∧
    result.decision = .refusedDestructive ∧ ∃ detail, result.objections.mapM describeObjection = .ok detail

variable {plan : Option Json}

theorem evaluatePlan_ok {result : GateResult} (object : isObject plan = true) (sound : isErrored plan = false)
    (ended : evaluatePlan inherited plan allowDestroyOf = .ok result) :
    Evaluation (Json.coalesce (.arr []) (Json.optional "resource_changes" plan)) allowDestroyOf result := by
  unfold evaluatePlan at ended
  simp only [object, sound, Bool.not_true, Bool.false_eq_true, if_false] at ended
  obtain ⟨_, _, ended⟩ := bind_ok ended
  obtain ⟨items, listed, ended⟩ := bind_ok ended
  obtain ⟨gate, folded, ended⟩ := bind_ok ended
  split at ended
  next none_ =>
    cases ended
    exact ⟨⟨items, gate, listed, folded, (List.isEmpty_iff.mp none_).symm⟩, .inl ⟨rfl, rfl⟩⟩
  next some_ =>
    obtain ⟨detail, described, ended⟩ := bind_ok ended
    cases ended
    exact ⟨⟨items, gate, listed, folded, rfl⟩,
      .inr ⟨fun same => some_ (List.isEmpty_iff.mpr same), rfl, detail, described⟩⟩

theorem evaluatePlan_legible {changes : List Json} (object : isObject plan = true) (sound : isErrored plan = false)
    (listed : Json.optional "resource_changes" plan = some (.arr changes))
    (legible : ∀ change ∈ changes, Legible allowDestroyOf change) :
    ∃ result, evaluatePlan inherited plan allowDestroyOf = .ok result := by
  have countable : ∀ change ∈ changes, Countable change := by
    intro change member
    obtain ⟨actions, stated, -, printable⟩ := (legible change member).stated
    exact ⟨_, actions, changeActions_stated stated, rfl, printable⟩
  have judged : ∀ change ∈ changes, ∃ verdict, judge allowDestroyOf change = .ok verdict :=
    fun change member => (judge_legible (legible change member)).imp fun _ found => found.1
  obtain ⟨counts, counted⟩ := (foldlM_ok (@countChange_ok inherited) changes
    (countedActions.map fun action => (action, .number 0))).mpr countable
  obtain ⟨gate, folded⟩ := (foldlM_ok gateChange_ok changes ⟨none, []⟩).mpr judged
  have counted : countActions inherited (.arr changes) = .ok counts := counted
  unfold evaluatePlan
  simp only [object, sound, Bool.not_true, Bool.false_eq_true, if_false, listed]
  show ∃ result, (countActions inherited (.arr changes) >>= _) = _
  rw [counted]
  show ∃ result, (changes.foldlM (gateChange allowDestroyOf) ⟨none, []⟩ >>= _) = _
  rw [folded]
  have describes : ∀ objection ∈ gate.objections, ∃ described, describeObjection objection = .ok described := by
    intro objection member
    rw [gate_objections folded, List.nil_append, List.mem_filterMap] at member
    obtain ⟨change, present, objected⟩ := member
    obtain ⟨verdict, judged, describes⟩ := judge_legible (legible change present)
    rw [objectionTo, judged] at objected
    cases verdict with
    | none => cases objected
    | some verdict =>
      cases objected
      exact describes _ _ rfl
  obtain ⟨detail, described⟩ := (mapM_ok gate.objections).mpr describes
  show ∃ result, (if gate.objections.isEmpty then _ else (gate.objections.mapM describeObjection >>= _)) = _
  split
  · exact ⟨_, rfl⟩
  · rw [described]
    exact ⟨_, rfl⟩

theorem isObject_of_listed {changes : Json} (listed : Json.optional "resource_changes" plan = some changes) :
    isObject plan = true := by
  obtain ⟨document, rfl, found⟩ := Option.bind_eq_some_iff.mp listed
  cases document with
  | arr | obj => rfl
  | _ => cases found

theorem legible_of_harmless (harm : harmless allowDestroyOf change = true) : Legible allowDestroyOf change := by
  obtain ⟨actions, stated, some_, permitted⟩ := stated_of_harmless harm
  have contradicts {P : Prop} (harmful : harmless allowDestroyOf change = false) : P := by
    rw [harm] at harmful
    cases harmful
  refine ⟨⟨actions, stated, some_, fun action member => ?_⟩, fun harmful => contradicts harmful, fun known destroys unknown => ?_,
    fun _ harmful => contradicts harmful, fun _ harmful => contradicts harmful⟩
  · have own := List.all_eq_true.mp permitted action member
    have known := recognised_of_permits own
    cases action with
    | str value => exact ⟨value, rfl⟩
    | _ => simp [recognised, permittedActions, Json.is] at known
  · have listed : (statedActions change).getD [] = actions := by rw [stated]; rfl
    rw [listed] at destroys
    obtain ⟨action, member, deletes⟩ := List.any_eq_true.mp destroys
    have own := List.all_eq_true.mp permitted action member
    rw [permits_destructive deletes, unknown, Option.any_some] at own
    obtain ⟨value, found, same⟩ := (Option.any_eq_true _ _).mp own
    rw [Json.is_iff] at same
    subst same
    rw [found]
    exact ⟨fun impossible => (by cases impossible), fun impossible => (by cases impossible)⟩

/-- A selection of as many members as a wider one selects all of them. -/
theorem selected_of_length {α β : Type} {select : α → Option β} {wide : α → Bool} {items : List α}
    (narrow : ∀ item ∈ items, (select item).isSome = true → wide item = true)
    (same : (items.filterMap select).length = (items.filter wide).length) :
    ∀ item ∈ items, wide item = true → (select item).isSome = true := by
  have twice : (items.filter wide).filter (fun item => (select item).isSome) =
      items.filter fun item => (select item).isSome := by
    rw [List.filter_filter]
    refine List.filter_congr fun item member => ?_
    cases chosen : (select item).isSome with
    | false => rfl
    | true => exact narrow item member chosen
  rw [List.length_filterMap_eq_countP, List.countP_eq_length_filter, ← twice,
    List.length_filter_eq_length_iff] at same
  exact fun item member also => same item (List.mem_filter.mpr ⟨member, also⟩)

/-- The objections that are listed, in order. -/
theorem filterMap_pairs {α β γ : Type} {select : α → Option β} {wide : α → Bool} {left : β → γ} {right : α → γ}
    {items : List α} (selects : ∀ item ∈ items, (select item).map left = if wide item = true then some (right item) else none) :
    (items.filterMap select).map left = (items.filter wide).map right := by
  induction items with
  | nil => rfl
  | cons item rest ih =>
    obtain ⟨here, later⟩ := List.forall_mem_cons.mp selects
    rw [List.filterMap_cons, List.filter_cons]
    by_cases also : wide item = true
    · rw [if_pos also] at here ⊢
      obtain ⟨value, chosen, same⟩ := Option.map_eq_some_iff.mp here
      rw [chosen, List.map_cons, List.map_cons, ih later, same]
    · rw [if_neg also] at here ⊢
      rw [Option.map_eq_none_iff.mp here]
      exact ih later

/-- What is held against a legible change, if it is not harmless. -/
theorem objectionTo_legible (legible : Legible allowDestroyOf change) :
    (objectionTo allowDestroyOf change).map (fun objection => (objection.address, objection.actions)) =
      if (!harmless allowDestroyOf change) = true then
        some (statedAddress change, (statedActions change).getD []) else none := by
  obtain ⟨actions, stated, some_, -⟩ := legible.stated
  have listed : (statedActions change).getD [] = actions := by rw [stated]; rfl
  obtain ⟨verdict, judged, -⟩ := judge_legible legible
  obtain ⟨-, found, own, holds⟩ := judge_ok judged
  have same : found = actions := by
    rcases own with given | ⟨missing, -⟩
    · exact Option.some.inj (given.symm.trans stated)
    · cases missing.symm.trans stated
  subst same
  rw [objectionTo, judged, listed]
  cases verdict with
  | none =>
    rw [unobjected_harmless stated some_ (listed ▸ legible.named) holds]
    rfl
  | some verdict =>
    obtain ⟨harm, address, actions⟩ := objected_harmful listed holds
    rw [harm, ← address, ← actions]
    rfl

/-- The gate fails closed on a document that it can read. -/
theorem fails_closed_of_readable (readable : Readable plan allowDestroyOf) : FailsClosed inherited plan allowDestroyOf := by
  cases object : isObject plan with
  | false =>
    have ended : ∃ result, evaluatePlan inherited plan allowDestroyOf = .ok result ∧ result.decision = .refusedDestructive := by
      unfold evaluatePlan
      rw [object]
      exact ⟨_, rfl, rfl⟩
    obtain ⟨result, ended, refuses⟩ := ended
    refine ⟨fun other same allows => ?_, fun _ => ⟨result, ended, refuses⟩, fun _ changes listed => ?_⟩
    · cases ended.symm.trans same
      rw [refuses] at allows
      cases allows
    · rw [isObject_of_listed listed] at object
      cases object
  | true =>
  cases errored : isErrored plan with
  | true =>
    have ended : ∃ result, evaluatePlan inherited plan allowDestroyOf = .ok result ∧ result.decision = .refusedDestructive := by
      unfold evaluatePlan
      rw [object, errored]
      exact ⟨_, rfl, rfl⟩
    obtain ⟨result, ended, refuses⟩ := ended
    refine ⟨fun other same allows => ?_, fun _ => ⟨result, ended, refuses⟩, fun sound => ?_⟩
    · cases ended.symm.trans same
      rw [refuses] at allows
      cases allows
    · rw [errored] at sound
      cases sound
  | false =>
  obtain ⟨changes, listed, legible⟩ : ∃ changes, Json.optional "resource_changes" plan = some (.arr changes) ∧
      ∀ change ∈ changes, Legible allowDestroyOf change := by
    rcases readable with none_ | impossible | found
    · rw [object] at none_
      cases none_
    · rw [errored] at impossible
      cases impossible
    · exact found
  obtain ⟨result, ended⟩ : ∃ result, evaluatePlan inherited plan allowDestroyOf = .ok result :=
    evaluatePlan_legible object errored listed legible
  have evaluation := evaluatePlan_ok object errored ended
  obtain ⟨items, gate, read, folded, objections⟩ := evaluation.gated
  rw [listed] at read
  cases read
  rw [gate_objections folded, List.nil_append] at objections
  have pairs : result.objections.map (fun objection => (objection.address, objection.actions)) =
      (changes.filter fun change => !harmless allowDestroyOf change).map fun change =>
        (statedAddress change, (statedActions change).getD []) := by
    rw [objections]
    exact filterMap_pairs fun change member => objectionTo_legible (legible change member)
  have complete (none_ : result.objections = []) : Complete plan allowDestroyOf := by
    refine ⟨errored, changes, listed, fun change member => ?_⟩
    rw [none_, List.map_nil, eq_comm, List.map_eq_nil_iff, List.filter_eq_nil_iff] at pairs
    have harm := pairs change member
    rwa [Bool.not_eq_true', Bool.not_eq_false] at harm
  refine ⟨fun other same allows => ?_, fun incomplete => ?_, fun _ others also other same _ => ?_⟩
  · cases ended.symm.trans same
    rcases evaluation.decided with ⟨none_, -⟩ | ⟨-, refuses, -⟩
    · exact complete none_
    · rw [refuses] at allows
      cases allows
  · rcases evaluation.decided with ⟨none_, -⟩ | ⟨-, refuses, -⟩
    · exact absurd (complete none_) incomplete
    · exact ⟨result, ended, refuses⟩
  · cases ended.symm.trans same
    cases listed.symm.trans also
    exact pairs

/-- What is held against a change of a document that the gate fails closed on. -/
theorem legible_of_judged {actions : List Json} {verdict : Option (Json × GateObjection)}
    (own : statedActions change = some actions ∨ statedActions change = none ∧ actions = [])
    (judged : Judged allowDestroyOf change actions verdict)
    (described : ∀ rule objection, verdict = some (rule, objection) → ∃ text, describeObjection objection = .ok text)
    (objects : harmless allowDestroyOf change = false → verdict.isSome = true) : Legible allowDestroyOf change := by
  by_cases harm : harmless allowDestroyOf change = true
  · exact legible_of_harmless harm
  rw [Bool.not_eq_true] at harm
  obtain ⟨⟨rule, objection⟩, rfl⟩ := Option.isSome_iff_exists.mp (objects harm)
  have some_ : actions ≠ [] := by
    rintro rfl
    cases judged with
    | unrecognised unknown => cases unknown
    | destructive _ destroys => cases destroys
  have stated : statedActions change = some actions := own.resolve_right fun missing => some_ missing.2
  have listed : (statedActions change).getD [] = actions := by rw [stated]; rfl
  have ⟨reasons, address, printable⟩ := (describeObjection_ok objection).mp (described rule objection rfl)
  have ⟨_, at_, named⟩ := objected_harmful listed judged
  rw [show objection.address = statedAddress change from at_] at address
  rw [show objection.actions = actions from named] at printable
  refine ⟨⟨actions, stated, some_, printable⟩, fun _ => address, ?_, ?_, ?_⟩
  · rw [listed]
    intro known destroys unknown
    cases judged with
    | unrecognised impossible =>
      rw [known] at impossible
      cases impossible
    | destructive _ _ elsewhere =>
      rw [unknown, Option.any_some] at elsewhere
      constructor <;> intro missing
      · rw [statedAddress, missing] at elsewhere
        cases elsewhere
      · rw [statedAddress, missing] at elsewhere
        cases elsewhere
  · rw [listed]
    intro known _ reason given truthy
    cases judged with
    | unrecognised impossible =>
      rw [known] at impossible
      cases impossible
    | destructive => exact reasons reason (Option.filter_eq_some_iff.mpr ⟨given, truthy⟩)
  · rw [listed]
    intro known _ paths given truthy
    cases judged with
    | unrecognised impossible =>
      rw [known] at impossible
      cases impossible
    | destructive _ _ _ replacePaths rendered =>
      exact (renderReplacePaths_ok _).mp ⟨replacePaths, rendered⟩ paths given truthy

/-- A text is taken for a list of characters, and nothing is held against them. -/
theorem objectionTo_str (text : String) : objectionTo allowDestroyOf (.str text) = none := by
  cases allowDestroyOf <;> rfl

theorem readable_of_fails_closed (closed : FailsClosed inherited plan allowDestroyOf) : Readable plan allowDestroyOf := by
  cases object : isObject plan with
  | false => exact .inl object
  | true =>
  cases errored : isErrored plan with
  | true => exact .inr (.inl errored)
  | false =>
  by_cases complete : Complete plan allowDestroyOf
  · obtain ⟨-, changes, listed, harmless⟩ := complete
    exact .inr (.inr ⟨changes, listed, fun change member => legible_of_harmless (harmless change member)⟩)
  obtain ⟨result, ended, refuses⟩ := closed.refused complete
  have evaluation := evaluatePlan_ok object errored ended
  obtain ⟨items, gate, read, folded, objections⟩ := evaluation.gated
  rw [gate_objections folded, List.nil_append] at objections
  -- A document without objections would have been allowed.
  have some_ : items.filterMap (objectionTo allowDestroyOf) ≠ [] := by
    intro none_
    rcases evaluation.decided with ⟨-, allows⟩ | ⟨some_, -⟩
    · rw [refuses] at allows
      cases allows
    · exact some_ (objections.trans none_)
  cases listed : Json.optional "resource_changes" plan with
  | none =>
    rw [listed] at read
    cases read
    exact absurd rfl some_
  | some changes =>
    cases changes with
    | null =>
      rw [listed] at read
      cases read
      exact absurd rfl some_
    | bool | num | obj =>
      rw [listed] at read
      cases read
    | str text =>
      rw [listed] at read
      cases read
      refine absurd ?_ some_
      rw [List.filterMap_eq_nil_iff]
      intro change member
      obtain ⟨c, -, rfl⟩ := List.mem_map.mp member
      exact objectionTo_str _
    | arr changes =>
      rw [listed] at read
      have same : items = changes := (Except.ok.inj read).symm
      subst same
      have pairs := closed.objections errored items listed result ended refuses
      rw [objections] at pairs
      have lengths := congrArg List.length pairs
      rw [List.length_map, List.length_map] at lengths
      have judged := (foldlM_ok gateChange_ok items ⟨none, []⟩).mp ⟨gate, folded⟩
      have selected := selected_of_length (fun change member objected => by
        obtain ⟨objection, objected⟩ := Option.isSome_iff_exists.mp objected
        obtain ⟨verdict, judges⟩ := judged change member
        obtain ⟨-, actions, own, holds⟩ := judge_ok judges
        rw [objectionTo, judges] at objected
        cases verdict with
        | none => cases objected
        | some verdict =>
          have listed : (statedActions change).getD [] = actions := by
            rcases own with given | ⟨missing, rfl⟩
            · rw [given]; rfl
            · rw [missing]; rfl
          rw [(objected_harmful listed holds).1]
          rfl) lengths
      refine .inr (.inr ⟨items, listed, fun change member => ?_⟩)
      obtain ⟨verdict, judges⟩ := judged change member
      obtain ⟨-, actions, own, holds⟩ := judge_ok judges
      refine legible_of_judged own holds (fun rule objection same => ?_) fun harm => ?_
      · subst same
        rcases evaluation.decided with ⟨none_, -⟩ | ⟨-, -, detail, described⟩
        · exact absurd (objections.symm.trans none_) some_
        · refine (mapM_ok _).mp ⟨detail, described⟩ objection ?_
          rw [objections, List.mem_filterMap]
          exact ⟨change, member, by rw [objectionTo, judges]⟩
      · obtain ⟨objection, objected⟩ := Option.isSome_iff_exists.mp (selected change member (by rw [harm]; rfl))
        rw [objectionTo, judges] at objected
        cases verdict with
        | none => cases objected
        | some => rfl

end

/-! ### The gate -/

/-- The gate fails closed exactly on the documents that it can read, and then what
    the runner lets through was planned without an error and is complete. -/
theorem evaluatePlan_fails_closed (inherited : String → Option String) :
    (∀ plan allowDestroyOf, FailsClosed inherited plan allowDestroyOf ↔ Readable plan allowDestroyOf) ∧
      ∀ (parse : String → Option Json) (exitCode : Int) (shown : String) (allowDestroyOf : Option String) (result : GateResult),
        (exitCode = 0 → Readable (parse shown) (allowDestroyOf.filter (· ≠ ""))) →
        planGate inherited parse exitCode shown allowDestroyOf = .ok result → result.decision = .allowed →
        exitCode = 0 ∧ Complete (parse shown) (allowDestroyOf.filter (· ≠ "")) := by
  refine ⟨fun plan allowDestroyOf => ⟨readable_of_fails_closed, fails_closed_of_readable⟩, ?_⟩
  intro parse exitCode shown allowDestroyOf result readable ended allows
  unfold planGate at ended
  split at ended
  next failed =>
    -- A failed plan is no document.
    cases ended
    cases allows
  next exited =>
    have exited : exitCode = 0 := not_not.mp exited
    exact ⟨exited, (fails_closed_of_readable (readable exited)).complete result ended allows⟩

/-- A document that proposes to create one resource. -/
def sampleDocument : Json :=
  .obj [("resource_changes", .arr [.obj [("address", .str "proxmox_virtual_environment_vm.instance"),
    ("change", .obj [("actions", .arr [.str "create"])])]])]

theorem evaluatePlan_fails_closed_sample :
    (∃ result, planGate (fun _ => none) (fun _ => some sampleDocument) 0 "" none = .ok result ∧ result.decision = .allowed) ∧
      Complete (some sampleDocument) none := by
  have gate := evaluatePlan_fails_closed fun _ => none
  have harm : harmless none (.obj [("address", .str "proxmox_virtual_environment_vm.instance"),
      ("change", .obj [("actions", .arr [.str "create"])])]) = true := by decide
  have readable : Readable (some sampleDocument) none :=
    .inr (.inr ⟨_, rfl, fun change member => by
      rw [List.mem_singleton.mp member]
      exact legible_of_harmless harm⟩)
  have ended : ∃ result, planGate (fun _ => none) (fun _ => some sampleDocument) 0 "" none = .ok result ∧
      result.decision = .allowed := ⟨_, rfl, rfl⟩
  obtain ⟨result, ended, allows⟩ := ended
  exact ⟨⟨result, ended, allows⟩, (gate.2 _ 0 "" none result (fun _ => readable) ended allows).2⟩

/-- A document without resource changes is allowed. -/
theorem gate_opens : ¬ ∀ inherited plan allowDestroyOf, FailsClosed inherited plan allowDestroyOf := by
  intro every
  obtain ⟨-, changes, impossible, -⟩ := (every (fun _ => none) (some (.obj [])) none).complete _ rfl rfl
  cases impossible

end ControlPlane.PlanGate
