import Mathlib.Logic.Relation
import ControlPlane.AdapterRefusals

/-!
A Proxmox node as a state: the VMs that it holds, what its answers say about
them, and what each write of the adapter makes of them. A read is answered
truthfully or not conclusively; a program that is judged on a node is judged on
the truthful conversations only (`On`).
-/
namespace ControlPlane.ProxmoxNode
open ControlPlane.Programs ControlPlane.Programs.Program ControlPlane.ProviderPort
open ControlPlane.ProxmoxOwnership ControlPlane.ProxmoxProvider ControlPlane.ProxmoxRules
open ControlPlane.AdapterRefusals (ProxmoxExchange)

structure Vm where
  config : ProxmoxVmConfig
  status : ProxmoxCurrentStatus
  deriving DecidableEq, Repr

/-- The VMs of a node, by id. -/
abbrev Node := Int → Option Vm

/-! ### What the answers say -/

/-- An answer that tells nothing about the node. -/
def inconclusive {request : ProxmoxRequest} : request.Outcome → Bool
  | .failed code => code ≠ .protocolError
  | .status status => status = 408 || status = 429 || status ≥ 500
  | _ => false

/-- An answer that says what the node holds. -/
def Shows (node : Node) : ProxmoxExchange → Prop
  | ⟨.listVms, .data summaries⟩ => ∀ vmid, vmid ≠ 0 → (some vmid ∈ summaries ↔ (node vmid).isSome = true)
  | ⟨.vmConfig vmid, .data config⟩ => ∃ vm, node vmid = some vm ∧ config = some vm.config
  | ⟨.vmConfig vmid, .status status⟩ => status = 404 ∧ node vmid = none
  | ⟨.currentStatus vmid, .data status⟩ => ∃ vm, node vmid = some vm ∧ status = vm.status
  | ⟨.taskStatus _, .data _⟩ | ⟨.listSnapshots _, .data _⟩ => True
  | _ => False

/-- Every read is answered with what the node holds, or not conclusively. -/
def Truthful (node : Node) (said : Conversation) : Prop :=
  ∀ exchange ∈ said, exchange.1.method = .get → inconclusive exchange.2 = true ∨ Shows node exchange

/-- An error that says nothing about the request. -/
def Unclear (error : ProxmoxError) : Prop := ∃ failure, error.error = some failure ∧ failure.code ≠ .protocolError

theorem Truthful.before {node : Node} {past more : Conversation} (truthful : Truthful node (past ++ more)) :
    Truthful node past := fun exchange member => truthful exchange (List.mem_append_left _ member)

/-- The error of an answer that tells nothing. -/
theorem unclear_failed {code : ProviderTransportErrorCode} (other : code ≠ .protocolError) :
    Unclear { error := some ⟨code, "Proxmox transport failed.", code ≠ .protocolError⟩ } := ⟨_, rfl, other⟩

theorem unclear_status {status : Nat} (retryable : (status = 408 || status = 429 || status ≥ 500) = true) :
    Unclear (httpError status) := by
  have retries : status = 408 ∨ status = 429 ∨ status ≥ 500 := by
    simpa [Bool.or_eq_true, or_assoc] using retryable
  refine ⟨_, rfl, ?_⟩
  simp [retries]

/-! ### What the writes do -/

/-- The configuration after a form was written: a field that the form does not
    name keeps its value, and no form of the adapter names a disk. -/
structure Rewritten (form : List (String × String)) (before after : ProxmoxVmConfig) : Prop where
  description : after.description = (form.lookup "description").or before.description
  net0 : after.net0 = (form.lookup "net0").or before.net0
  scsi0 : after.scsi0 = before.scsi0
  virtio0 : after.virtio0 = before.virtio0
  sata0 : after.sata0 = before.sata0

/-- The size that a disk specification names. -/
def specifiedSize (text : Option String) : Option Int := text.bind fun disk => (Texts.split ',' disk).findSome? sizeOfPart

/-- A disk after it was grown to a size. -/
def Grown (size : Option String) (after : Option String) : Prop :=
  ∀ disk : Int, size = some (toString disk ++ "G") → specifiedSize after = some disk

/-- The configuration after a disk was grown. -/
inductive Resized (form : List (String × String)) (before : ProxmoxVmConfig) : ProxmoxVmConfig → Prop
  | scsi0 {text : String} (named : form.lookup "disk" = some "scsi0") (grown : Grown (form.lookup "size") (some text)) :
      Resized form before { before with scsi0 := some text }
  | virtio0 {text : String} (named : form.lookup "disk" = some "virtio0")
      (grown : Grown (form.lookup "size") (some text)) : Resized form before { before with virtio0 := some text }
  | sata0 {text : String} (named : form.lookup "disk" = some "sata0") (grown : Grown (form.lookup "size") (some text)) :
      Resized form before { before with sata0 := some text }

/-- A VM changes, and no other does. Its status may be anything. -/
structure Changes (vmid : Int) (changed : ProxmoxVmConfig → ProxmoxVmConfig → Prop) (before after : Node) : Prop where
  vm : ∃ old new, before vmid = some old ∧ after vmid = some new ∧ changed old.config new.config
  others : ∀ other, other ≠ vmid → after other = before other

/-- What a write makes of a node, once it takes effect. -/
def Effect : ProxmoxRequest → Node → Node → Prop
  | .clone form, before, after =>
    ∃ vm : Vm, vm.config.description = form.lookup "description" ∧
      ∀ vmid, after vmid = if form.lookup "newid" = some (toString vmid) then some vm else before vmid
  | .writeConfig vmid form, before, after => Changes vmid (Rewritten form) before after
  | .power vmid _ _, before, after => Changes vmid Eq before after
  | .resizeDisk vmid form, before, after => Changes vmid (Resized form) before after
  -- A rollback restores what the snapshot holds, but for the description.
  | .createSnapshot vmid _, before, after | .rollbackSnapshot vmid _ _, before, after
  | .deleteSnapshot vmid _, before, after =>
    Changes vmid (fun old new => new.description = old.description) before after
  | .destroy vmid, before, after => after vmid = none ∧ ∀ other, other ≠ vmid → after other = before other
  | _, before, after => after = before

/-- A node after some of the requests of a conversation took effect. -/
def Evolves (said : Conversation) : Node → Node → Prop :=
  Relation.ReflTransGen fun before after => ∃ exchange ∈ said, Effect exchange.1 before after

/-! ### Programs on a node -/

section
variable {α : Type} {node : Node} {allowed : Conversation → ProxmoxRequest → Prop}
  {post : Conversation → Except ProxmoxError α → Prop} {past : Conversation}

/-- What a program does while the node answers truthfully. -/
abbrev On (node : Node) (allowed : Conversation → ProxmoxRequest → Prop)
    (post : Conversation → Except ProxmoxError α → Prop) (p : Api α) (past : Conversation) : Prop :=
  p.Satisfies (fun past request => Truthful node past → allowed past request)
    (fun said ended => Truthful node said → post said ended) past

/-- After a lie nothing is judged. -/
theorem on_lie {p : Api α} (lie : ¬ Truthful node past) : On node allowed post p past := by
  induction p generalizing past with
  | done result => exact fun truthful => absurd truthful lie
  | raise error => exact fun truthful => absurd truthful lie
  | ask request resume ih =>
    exact ⟨fun truthful => absurd truthful lie, fun outcome => ih outcome fun truthful => lie truthful.before⟩

/-- The last answer may be taken for true. -/
theorem on_last {p : Api α} {exchange : ProxmoxExchange} (read : exchange.1.method = .get)
    (judged : inconclusive exchange.2 = true ∨ Shows node exchange → On node allowed post p (past ++ [exchange])) :
    On node allowed post p (past ++ [exchange]) := by
  by_cases honest : inconclusive exchange.2 = true ∨ Shows node exchange
  · exact judged honest
  · exact on_lie fun truthful => honest (truthful exchange (List.mem_append_right _ List.mem_cons_self) read)

theorem check_on {β : Type} {checked : Except ProviderTransportError β} {f : β → Api α}
    (refused : ∀ error, checked = .error error → post past (.error { error := error }))
    (passed : ∀ value, checked = .ok value → On node allowed post (f value) past) :
    On node allowed post (check checked >>= f) past := by
  cases checked with
  | ok value => exact passed value rfl
  | error error => exact fun _ => refused error rfl

/-- What a program may be told while it only reads: reads are allowed, and an
    error that tells nothing is as good as any. -/
structure Reading (allowed : Conversation → ProxmoxRequest → Prop) (post : Conversation → Except ProxmoxError α → Prop)
    (calm : Conversation → Prop) : Prop where
  reads : ∀ past request, request.method = .get → allowed past request
  lost : ∀ past error, calm past → Unclear error → post past (.error error)
  unanswered : ∀ past exchange, calm past → exchange.1.method = .get → inconclusive exchange.2 = true →
    calm (past ++ [exchange])
  listed : ∀ past summaries, calm past → calm (past ++ [⟨.listVms, .data summaries⟩])
  configured : ∀ past vmid config, calm past → calm (past ++ [⟨.vmConfig vmid, .data config⟩])

variable {calm : Conversation → Prop} (reading : Reading allowed post calm)
include reading

/-- A read that is answered, or not conclusively. -/
theorem Reading.request {request : ProxmoxRequest} {f : request.Response → Api α} (calmly : calm past)
    (read : request.method = .get) (known : ∀ status, ¬ Shows node ⟨request, .status status⟩)
    (shown : ∀ data, Shows node ⟨request, .data data⟩ → On node allowed post (f data) (past ++ [⟨request, .data data⟩])) :
    On node allowed post (ProxmoxProvider.request request >>= f) past := by
  have silent (outcome : request.Outcome) (unknown : ∀ data, outcome ≠ .data data)
      (other : ∀ status, outcome ≠ .status status) : ¬ Shows node ⟨request, outcome⟩ := by
    intro shows
    cases outcome with
    | data data => exact unknown data rfl
    | status status => exact other status rfl
    | _ => cases request <;> exact shows
  have lost {outcome : request.Outcome} {error : ProxmoxError} (unclear : inconclusive outcome = true → Unclear error)
      (hidden : ¬ Shows node ⟨request, outcome⟩) :
      On node allowed post (.raise error) (past ++ [⟨request, outcome⟩]) := by
    refine on_last read fun honest _ => ?_
    have vague := honest.resolve_right hidden
    exact reading.lost _ _ (reading.unanswered past ⟨request, outcome⟩ calmly read vague) (unclear vague)
  refine ⟨fun _ => reading.reads past request read, fun outcome => ?_⟩
  cases outcome with
  | data data =>
    refine on_last read fun honest => shown data ?_
    exact honest.resolve_left Bool.false_ne_true
  | failed code =>
    exact lost (fun vague => unclear_failed (of_decide_eq_true vague))
      (silent _ (fun _ same => by cases same) fun _ same => by cases same)
  | status status => exact lost unclear_status (known status)
  | invalidJson =>
    exact lost (fun vague => by cases vague) (silent _ (fun _ same => by cases same) fun _ same => by cases same)
  | noData =>
    exact lost (fun vague => by cases vague) (silent _ (fun _ same => by cases same) fun _ same => by cases same)
  | malformed =>
    exact lost (fun vague => by cases vague) (silent _ (fun _ same => by cases same) fun _ same => by cases same)

theorem Reading.list {f : List (Option Int) → Api α} (calmly : calm past)
    (shown : ∀ summaries, (∀ vmid, vmid ≠ 0 → (some vmid ∈ summaries ↔ (node vmid).isSome = true)) →
      calm (past ++ [⟨.listVms, .data summaries⟩]) →
      On node allowed post (f summaries) (past ++ [⟨.listVms, .data summaries⟩])) :
    On node allowed post (ProxmoxProvider.request .listVms >>= f) past :=
  reading.request calmly rfl (fun _ => id) fun summaries all => shown summaries all (reading.listed past summaries calmly)

theorem Reading.status {vmid : Int} {f : ProxmoxCurrentStatus → Api α} (calmly : calm past)
    (shown : ∀ vm, node vmid = some vm →
      On node allowed post (f vm.status) (past ++ [⟨.currentStatus vmid, .data vm.status⟩])) :
    On node allowed post (ProxmoxProvider.request (.currentStatus vmid) >>= f) past := by
  refine reading.request calmly rfl (fun _ => id) fun status found => ?_
  obtain ⟨vm, there, rfl⟩ := found
  exact shown vm there

/-- The configuration of a VM is read, or the VM is missing. -/
theorem Reading.vmConfig {vmid : Int} {allowMissing : Bool} {f : Option ProxmoxVmConfig → Api α} (calmly : calm past)
    (found : ∀ vm, node vmid = some vm → calm (past ++ [⟨.vmConfig vmid, .data (some vm.config)⟩]) →
      On node allowed post (f (some vm.config)) (past ++ [⟨.vmConfig vmid, .data (some vm.config)⟩]))
    (missing : node vmid = none → On node allowed post
      ((if allowMissing then .done none else .raise (httpError 404) : Api (Option ProxmoxVmConfig)) >>= f)
      (past ++ [⟨.vmConfig vmid, .status 404⟩])) :
    On node allowed post (ProxmoxProvider.vmConfig vmid allowMissing >>= f) past := by
  have lost {outcome : (ProxmoxRequest.vmConfig vmid).Outcome} {error : ProxmoxError}
      (unclear : inconclusive outcome = true → Unclear error) (hidden : ¬ Shows node ⟨.vmConfig vmid, outcome⟩) :
      On node allowed post (.raise error) (past ++ [⟨.vmConfig vmid, outcome⟩]) := by
    refine on_last rfl fun honest _ => ?_
    have vague := honest.resolve_right hidden
    exact reading.lost _ _ (reading.unanswered past ⟨.vmConfig vmid, outcome⟩ calmly rfl vague) (unclear vague)
  -- Only a missing VM is caught.
  have uncaught {error : ProxmoxError} (other : error.status ≠ some 404) :
      (if allowMissing = true ∧ error.status = some 404 then .done none
        else .raise error : Api (Option ProxmoxVmConfig)) = .raise error := if_neg fun both => other both.2
  refine ⟨fun _ => reading.reads past _ rfl, fun outcome => ?_⟩
  cases outcome with
  | data config =>
    refine on_last rfl fun honest => ?_
    obtain ⟨vm, there, rfl⟩ := honest.resolve_left Bool.false_ne_true
    exact found vm there (reading.configured past vmid _ calmly)
  | failed code =>
    show On node allowed post ((if _ then _ else _ : Api (Option ProxmoxVmConfig)) >>= f) _
    rw [uncaught (by simp)]
    exact lost (fun vague => unclear_failed (of_decide_eq_true vague)) id
  | status status =>
    show On node allowed post ((if _ then _ else _ : Api (Option ProxmoxVmConfig)) >>= f) _
    by_cases absent : status = 404
    · subst absent
      refine on_last rfl fun honest => ?_
      obtain ⟨-, gone⟩ := honest.resolve_left (by simp [inconclusive])
      have rest := missing gone
      cases allowMissing with
      | true => exact rest
      | false => exact rest
    · rw [uncaught (by simpa [httpError] using absent)]
      exact lost unclear_status fun shows => absent shows.1
  | invalidJson =>
    show On node allowed post ((if _ then _ else _ : Api (Option ProxmoxVmConfig)) >>= f) _
    rw [uncaught (by simp [refusal])]
    exact lost (fun vague => by cases vague) id
  | noData =>
    show On node allowed post ((if _ then _ else _ : Api (Option ProxmoxVmConfig)) >>= f) _
    rw [uncaught (by simp [refusal])]
    exact lost (fun vague => by cases vague) id
  | malformed =>
    show On node allowed post ((if _ then _ else _ : Api (Option ProxmoxVmConfig)) >>= f) _
    rw [uncaught (by simp)]
    exact lost (fun vague => by cases vague) id

/-! ### The searches -/

section
variable {library : Library} {configuration : ProxmoxProviderConfiguration}

/-- The ownership of a VM is proven, or it is not. -/
theorem Reading.requireOwnedConfig {vmid : Int} {expected : OwnershipMarkers} {f : ProxmoxVmConfig → Api α}
    (calmly : calm past)
    (owned : ∀ vm, node vmid = some vm → parseOwnership library vm.config.description = some expected →
      calm (past ++ [⟨.vmConfig vmid, .data (some vm.config)⟩]) →
      On node allowed post (f vm.config) (past ++ [⟨.vmConfig vmid, .data (some vm.config)⟩]))
    (foreign : ∀ vm, node vmid = some vm → parseOwnership library vm.config.description ≠ some expected →
      post (past ++ [⟨.vmConfig vmid, .data (some vm.config)⟩])
        (.error (refusal "Provider ownership could not be proven.")))
    (missing : node vmid = none → post (past ++ [⟨.vmConfig vmid, .status 404⟩])
      (.error (refusal "Provider ownership could not be proven."))) :
    On node allowed post (ProxmoxProvider.requireOwnedConfig library vmid expected >>= f) past := by
  unfold ProxmoxProvider.requireOwnedConfig
  rw [On, bind_assoc]
  refine reading.vmConfig calmly (fun vm there after => ?_) fun gone _ => missing gone
  dsimp only
  by_cases matching : markersMatch (parseOwnership library vm.config.description) expected = true
  · rw [if_pos matching]
    exact owned vm there (markersMatch_iff.mp matching) after
  · rw [if_neg matching]
    exact fun _ => foreign vm there fun same => matching (markersMatch_iff.mpr same)

/-- A VM id that a creation may use: nothing is there, or its own VM. -/
def Available (library : Library) (node : Node) (markers : OwnershipMarkers) (vmid : Int) : Prop :=
  vmid = 0 ∨ node vmid = none ∨
    ∃ vm, node vmid = some vm ∧ parseOwnership library vm.config.description = some markers

/-- The search for a VM id ends with the first that is available. -/
theorem Reading.searchVmid {markers : OwnershipMarkers} {occupied : List Int} {seed size : Nat} {f : Int → Api α}
    (listed : ∀ vmid, vmid ∈ occupied ↔ vmid ≠ 0 ∧ (node vmid).isSome = true) :
    ∀ remaining offset past, calm past →
      ((∀ k < remaining, ¬ Available library node markers
          (configuration.resourceIdMinimum + ((seed + (offset + k)) % size : Nat))) →
        ∀ later, calm later → post later (.error (refusal "The reserved VMID range is exhausted."))) →
      (∀ k < remaining, ∀ later, calm later →
        On node allowed post (f (configuration.resourceIdMinimum + ((seed + (offset + k)) % size : Nat))) later) →
      On node allowed post
        (ProxmoxProvider.searchVmid library configuration markers occupied seed size offset remaining >>= f) past := by
  intro remaining
  induction remaining with
  | zero =>
    intro offset past calmly exhausted _
    exact fun _ => exhausted (fun k impossible => absurd impossible (Nat.not_lt_zero k)) past calmly
  | succ remaining ih =>
    intro offset past calmly exhausted found
    unfold ProxmoxProvider.searchVmid
    dsimp only
    have here := found 0 (Nat.succ_pos remaining)
    rw [Nat.add_zero] at here
    by_cases taken : occupied.contains (configuration.resourceIdMinimum + ((seed + offset) % size : Nat)) = true
    · obtain ⟨some_, there⟩ := (listed _).mp (List.contains_iff_mem.mp taken)
      obtain ⟨vm, held⟩ := Option.isSome_iff_exists.mp there
      rw [if_pos taken]
      unfold ownsVm
      rw [On, bind_assoc, bind_assoc]
      refine reading.vmConfig calmly (fun vm' same after => ?_) fun gone => ?_
      · obtain rfl := Option.some.inj (held.symm.trans same)
        by_cases matching : markersMatch (parseOwnership library vm.config.description) markers = true
        · simp only [Option.bind_some, pure_eq, done_bind, matching, if_true]
          exact here _ after
        · simp only [Option.bind_some, pure_eq, done_bind, matching, if_false, Bool.false_eq_true]
          refine ih (offset + 1) _ after (fun all => exhausted fun k below => ?_) fun k below later calmly => ?_
          · cases k with
            | zero =>
              rintro (zero | free | ⟨other, also, owned⟩)
              · exact some_ zero
              · rw [Nat.add_zero, held] at free
                cases free
              · rw [Nat.add_zero, held] at also
                cases also
                exact matching (markersMatch_iff.mpr owned)
            | succ k =>
              have next := all k (Nat.lt_of_succ_lt_succ below)
              rwa [Nat.add_right_comm offset 1 k, Nat.add_assoc] at next
          · have next := found (k + 1) (Nat.succ_lt_succ below) later calmly
            rwa [Nat.add_right_comm offset 1 k, Nat.add_assoc]
      · rw [held] at gone
        cases gone
    · rw [if_neg taken]
      exact here past calmly

/-- Whether a VM is configured with an address. -/
def uses (address : String) (config : ProxmoxVmConfig) : Bool :=
  config.ipconfig0.any fun text => includes text ("ip=" ++ address ++ "/")

/-- No other VM of the node is configured with an address. -/
def Unused (node : Node) (address : String) (currentVmid : Int) : Prop :=
  ∀ vmid vm, vmid ≠ 0 → vmid ≠ currentVmid → node vmid = some vm → uses address vm.config = false

theorem Reading.searchAddress {address : String} {currentVmid : Int} {f : Unit → Api α} :
    ∀ summaries past, calm past → (∀ vmid, vmid ≠ 0 → some vmid ∈ summaries → (node vmid).isSome = true) →
      (¬ Unused node address currentVmid →
        ∀ later, calm later → post later (.error (refusal "The reserved IPv4 address is already configured."))) →
      ((∀ vmid vm, vmid ≠ 0 → vmid ≠ currentVmid → some vmid ∈ summaries → node vmid = some vm →
          uses address vm.config = false) → ∀ later, calm later → On node allowed post (f ()) later) →
      On node allowed post (ProxmoxProvider.searchAddress address currentVmid summaries >>= f) past := by
  intro summaries
  induction summaries with
  | nil =>
    intro past calmly _ _ free
    exact free (fun _ _ _ _ impossible => absurd impossible List.not_mem_nil) past calmly
  | cons summary rest ih =>
    intro past calmly listed taken free
    have others : ∀ vmid, vmid ≠ 0 → some vmid ∈ rest → (node vmid).isSome = true :=
      fun vmid some_ member => listed vmid some_ (List.mem_cons_of_mem _ member)
    cases summary with
    | none =>
      refine ih past calmly others taken fun all => free fun vmid vm some_ other member there => ?_
      rcases List.mem_cons.mp member with impossible | later
      · cases impossible
      · exact all vmid vm some_ other later there
    | some vmid =>
      unfold ProxmoxProvider.searchAddress
      by_cases skipped : vmid = 0 ∨ vmid = currentVmid
      · rw [if_pos skipped]
        refine ih past calmly others taken fun all => free fun other vm some_ apart member there => ?_
        rcases List.mem_cons.mp member with same | later
        · obtain rfl := Option.some.inj same
          exact absurd skipped (not_or.mpr ⟨some_, apart⟩)
        · exact all other vm some_ apart later there
      · obtain ⟨some_, apart⟩ := not_or.mp skipped
        obtain ⟨vm, held⟩ := Option.isSome_iff_exists.mp (listed vmid some_ List.mem_cons_self)
        rw [if_neg skipped, On, bind_assoc]
        refine reading.vmConfig calmly (fun vm' same after => ?_) fun gone => ?_
        · obtain rfl := Option.some.inj (held.symm.trans same)
          show On node allowed post ((if uses address vm.config = true then _ else _ : Api Unit) >>= f) _
          by_cases used : uses address vm.config = true
          · rw [if_pos used]
            refine fun _ => taken (fun unused => ?_) _ after
            rw [unused vmid vm some_ apart held] at used
            cases used
          · rw [if_neg used]
            refine ih _ after others taken fun all => free fun other vm' nonzero distinct member there => ?_
            rcases List.mem_cons.mp member with same | later
            · obtain rfl := Option.some.inj same
              rw [held] at there
              cases there
              simpa using used
            · exact all other vm' nonzero distinct later there
        · rw [held] at gone
          cases gone

end

end

end ControlPlane.ProxmoxNode
