import ControlPlane.ProxmoxRules

/-!
What a refusal of the direct adapter says about Proxmox. A `protocol_error` is
read as: nothing was done. The adapter also raises it after Proxmox has acted,
when it cannot read the answer, when the answer names no task, when a second
request of the call is refused, and when there is no disk left to grow.
-/
namespace ControlPlane.AdapterRefusals
open ControlPlane.Programs ControlPlane.Programs.Program ControlPlane.ProviderPort
open ControlPlane.ProxmoxOwnership ControlPlane.ProxmoxProvider ControlPlane.ProxmoxRules

abbrev ProxmoxExchange := Exchange ProxmoxRequest.Outcome

/-! ### What Proxmox answered -/

def reads (request : ProxmoxRequest) : Prop := request.method = .get

/-- A request that changes something was answered with a success status. -/
def applied (exchange : ProxmoxExchange) : Bool :=
  exchange.1.method ≠ .get &&
    match exchange.2 with
    | .failed _ | .status _ => false
    | _ => true

/-- The success came without anything that the adapter can read. -/
def unreadable (exchange : ProxmoxExchange) : Bool :=
  exchange.1.method ≠ .get &&
    match exchange.2 with
    | .invalidJson | .noData => true
    | _ => false

/-- A request that changes something was refused for good. -/
def refused (exchange : ProxmoxExchange) : Bool :=
  exchange.1.method ≠ .get &&
    match exchange.2 with
    | .failed code => code = .protocolError
    | .status status => !(status = 408 || status = 429 || status ≥ 500)
    | _ => false

/-- The data that a change was answered with: the task, if there is one. -/
def written : ProxmoxExchange → Option (Option String)
  | ⟨.clone _, .data upid⟩ => some upid
  | ⟨.writeConfig .., .data upid⟩ => some upid
  | ⟨.power .., .data upid⟩ => some upid
  | ⟨.resizeDisk .., .data upid⟩ => some upid
  | ⟨.createSnapshot .., .data upid⟩ => some upid
  | ⟨.rollbackSnapshot .., .data upid⟩ => some upid
  | ⟨.deleteSnapshot .., .data upid⟩ => some upid
  | ⟨.destroy _, .data upid⟩ => some upid
  | _ => none

/-- Whether a call needs the task of a request. A purge does not wait for the
    VM that it stops. -/
def needsTask : ProviderCall → ProxmoxRequest → Bool
  | .purgeInstance _, .power .. => false
  | _, .clone _ | _, .power .. | _, .createSnapshot .. | _, .rollbackSnapshot .. | _, .deleteSnapshot .. => true
  | _, _ => false

/-- A resize that grows the disk of a VM that has none to grow. -/
def GrowsNothing (library : Library) (call : ProviderCall) (said : Conversation) : Prop :=
  ∃ resize, call = .resizeInstance resize ∧ ∃ vmid config disk,
    (⟨.vmConfig vmid, .data (some config)⟩ : ProxmoxExchange) ∈ said ∧
      numberOrZero library (resize.targetResources.bind InstanceResources.diskGib) = some disk ∧
      (diskGiB config).getD 0 < disk ∧ ∀ key, primaryDiskKey config ≠ .ok key

/-! ### The contract -/

/-- The adapter throws what the workflow records as a failure. -/
def Refuses {α : Type} (ended : Except ProxmoxError α) : Prop :=
  ∃ error refusal, ended = .error error ∧ error.error = some refusal ∧ refusal.code = .protocolError ∧
    refusal.retryable = false

/-- A refusal means that nothing was done. -/
def Honest {α : Type} (said : Conversation) (ended : Except ProxmoxError α) : Prop :=
  Refuses ended → ∀ exchange ∈ said, applied exchange = false

/-- The answers after which no refusal follows a success. -/
structure Conclusive (library : Library) (call : ProviderCall) (said : Conversation) : Prop where
  readable : ∀ exchange ∈ said, unreadable exchange = false
  tasked : ∀ exchange ∈ said, needsTask call exchange.1 = true →
    ∀ upid, written exchange = some upid → (present upid).isSome = true
  whole : ∀ exchange ∈ said, applied exchange = true → ∀ other ∈ said, refused other = false
  disk : ∀ exchange ∈ said, (written exchange).isSome = true → ¬ GrowsNothing library call said

/-- The contract holds exactly when the answers are conclusive. -/
def Settled {α : Type} (library : Library) (call : ProviderCall) (said : Conversation)
    (ended : Except ProxmoxError α) : Prop := Honest said ended ↔ Conclusive library call said

/-! ### Rules -/

theorem applied_of_written {exchange : ProxmoxExchange} (answered : (written exchange).isSome = true) :
    applied exchange = true := by
  unfold written at answered
  split at answered <;> first | rfl | cases answered

theorem written_of_read {exchange : ProxmoxExchange} (read : reads exchange.1) : written exchange = none := by
  obtain ⟨request, outcome⟩ := exchange
  cases request <;> first | rfl | cases read

theorem written_malformed (request : ProxmoxRequest) : written ⟨request, .malformed⟩ = none := by
  cases request <;> rfl

theorem applied_of_unreadable {exchange : ProxmoxExchange} (blank : unreadable exchange = true) :
    applied exchange = true := by
  obtain ⟨request, outcome⟩ := exchange
  cases outcome <;> simp_all [unreadable, applied]

theorem refused_of_read {exchange : ProxmoxExchange} (read : reads exchange.1) : refused exchange = false := by
  have got : exchange.1.method = .get := read
  simp [refused, got]

theorem applied_of_read {exchange : ProxmoxExchange} (read : reads exchange.1) : applied exchange = false := by
  have got : exchange.1.method = .get := read
  simp [applied, got]

section
variable {α β : Type} {library : Library} {configuration : ProxmoxProviderConfiguration} {call : ProviderCall}
  {said past : Conversation}

/-- Where nothing was applied, nothing can be hidden. -/
theorem unapplied_settled {ended : Except ProxmoxError α} (nothing : ∀ exchange ∈ said, applied exchange = false) :
    Settled library call said ended := by
  have silent : ∀ exchange ∈ said, (written exchange).isSome = true → False := by
    intro exchange member answered
    have done := applied_of_written answered
    rw [nothing exchange member] at done
    cases done
  refine iff_of_true (fun _ => nothing) ⟨fun exchange member => ?_, fun exchange member _ upid answered => ?_,
    fun exchange member done => ?_, fun exchange member answered => ?_⟩
  · by_contra blank
    have done := applied_of_unreadable (by simpa using blank)
    rw [nothing exchange member] at done
    cases done
  · exact absurd (by rw [answered]; rfl) (silent exchange member)
  · rw [nothing exchange member] at done
    cases done
  · exact absurd answered (silent exchange member)

theorem quiet_settled {ended : Except ProxmoxError α} (quiet : ∀ exchange ∈ said, reads exchange.1) :
    Settled library call said ended :=
  unapplied_settled fun exchange member => applied_of_read (quiet exchange member)

/-- A program whose every ending settles. -/
abbrev Settles (library : Library) (call : ProviderCall) (p : Api α) (past : Conversation) : Prop :=
  p.Satisfies (fun _ _ => True) (fun said ended => Settled library call said ended) past

/-- A part that only reads, and then the rest. -/
theorem reads_then {p : Api β} {f : β → Api α} (quiet : ∀ exchange ∈ past, reads exchange.1)
    (asks : p.Satisfies (fun _ request => reads request) (fun _ _ => True) past)
    (rest : ∀ later value, (∀ exchange ∈ later, reads exchange.1) → Settles library call (f value) later) :
    Settles library call (p >>= f) past :=
  satisfies_bind (asks.only quiet) (fun later value kept => rest later value kept.2)
    fun _ _ kept => quiet_settled kept.2

/-- A check before anything was sent. -/
theorem check_settles {checked : Except ProviderTransportError β} {f : β → Api α}
    (quiet : ∀ exchange ∈ past, reads exchange.1)
    (passed : ∀ value, checked = .ok value → Settles library call (f value) past) :
    Settles library call (check checked >>= f) past := by
  cases checked with
  | ok value => exact passed value rfl
  | error error => exact quiet_settled quiet

/-- A refusal with something applied before it breaks the contract. -/
theorem not_honest {ended : Except ProxmoxError α} {exchange : ProxmoxExchange} (member : exchange ∈ said)
    (done : applied exchange = true) (refuses : Refuses ended) : ¬ Honest said ended := by
  intro honest
  have undone := honest refuses exchange member
  rw [done] at undone
  cases undone

theorem refuses_refusal (message : String) : Refuses (.error (refusal message) : Except ProxmoxError α) :=
  ⟨_, _, rfl, rfl, rfl, rfl⟩

theorem honest_of_result {result : α} : Honest said (.ok result : Except ProxmoxError α) := by
  rintro ⟨_, _, impossible, -⟩
  cases impossible

/-- A conversation without a refusal, an unreadable success or a missing task. -/
def Clean (call : ProviderCall) (said : Conversation) : Prop :=
  ∀ exchange ∈ said, unreadable exchange = false ∧ refused exchange = false ∧
    (needsTask call exchange.1 = true → ∀ upid, written exchange = some upid → (present upid).isSome = true)

theorem clean_of_quiet (quiet : ∀ exchange ∈ past, reads exchange.1) : Clean call past := by
  intro exchange member
  have got : exchange.1.method = .get := quiet exchange member
  refine ⟨by simp [unreadable, got], refused_of_read got, fun _ upid answered => ?_⟩
  rw [written_of_read got] at answered
  cases answered

theorem Clean.append {exchange : ProxmoxExchange} (clean : Clean call past) (readable : unreadable exchange = false)
    (taken : refused exchange = false) (tasked : needsTask call exchange.1 = true →
      ∀ upid, written exchange = some upid → (present upid).isSome = true) : Clean call (past ++ [exchange]) := by
  intro other member
  rcases List.mem_append.mp member with old | new
  · exact clean other old
  · rw [List.mem_singleton.mp new]
    exact ⟨readable, taken, tasked⟩

theorem Clean.conclusive (clean : Clean call said)
    (disk : ∀ exchange ∈ said, (written exchange).isSome = true → ¬ GrowsNothing library call said) :
    Conclusive library call said where
  readable exchange member := (clean exchange member).1
  tasked exchange member := (clean exchange member).2.2
  whole _ _ _ other member := (clean other member).2.1
  disk := disk

/-- Only a read of a configuration shows that there is no disk. -/
theorem GrowsNothing.before {exchange : ProxmoxExchange} (write : ¬ reads exchange.1)
    (grows : GrowsNothing library call (past ++ [exchange])) : GrowsNothing library call past := by
  obtain ⟨resize, same, vmid, config, disk, member, rest⟩ := grows
  refine ⟨resize, same, vmid, config, disk, ?_, rest⟩
  rcases List.mem_append.mp member with old | new
  · exact old
  · rw [← List.mem_singleton.mp new] at write
    exact absurd rfl write

/-- A success that cannot be read is refused, and the contract is broken. -/
theorem unreadable_settled {ended : Except ProxmoxError α} {exchange : ProxmoxExchange} (member : exchange ∈ said)
    (blank : unreadable exchange = true) (refuses : Refuses ended) : Settled library call said ended := by
  refine iff_of_false (not_honest member (applied_of_unreadable blank) refuses) fun conclusive => ?_
  have readable := conclusive.readable exchange member
  rw [blank] at readable
  cases readable

/-- The first change of a call. -/
theorem write_then {request : ProxmoxRequest} {f : request.Response → Api α}
    (quiet : ∀ exchange ∈ past, reads exchange.1) (write : ¬ reads request)
    (answered : ∀ data, Settles library call (f data) (past ++ [⟨request, .data data⟩])) :
    Settles library call (ProxmoxProvider.request request >>= f) past := by
  have changes : (request.method ≠ .get) := write
  have unapplied {outcome : ProxmoxRequest.Outcome request} (undone : applied ⟨request, outcome⟩ = false) :
      ∀ exchange ∈ past ++ [⟨request, outcome⟩], applied exchange = false := by
    intro exchange member
    rcases List.mem_append.mp member with old | new
    · exact applied_of_read (quiet exchange old)
    · rw [List.mem_singleton.mp new]
      exact undone
  have last {exchange : ProxmoxExchange} : exchange ∈ past ++ [exchange] :=
    List.mem_append_right _ List.mem_cons_self
  refine ⟨trivial, fun outcome => ?_⟩
  cases outcome with
  | failed code => exact unapplied_settled (unapplied (by simp [applied]))
  | status status => exact unapplied_settled (unapplied (by simp [applied]))
  | invalidJson => exact unreadable_settled last (by simp [unreadable, changes]) (refuses_refusal _)
  | noData => exact unreadable_settled last (by simp [unreadable, changes]) (refuses_refusal _)
  | malformed =>
    have silent : ∀ exchange ∈ past ++ [⟨request, .malformed⟩], written exchange = none := by
      intro exchange member
      rcases List.mem_append.mp member with old | new
      · exact written_of_read (quiet exchange old)
      · rw [List.mem_singleton.mp new]
        exact written_malformed request
    refine iff_of_true ?_ (((clean_of_quiet quiet).append (by simp [unreadable]) (by simp [refused])
      fun _ upid answered => ?_).conclusive fun exchange member answered => ?_)
    · rintro ⟨_, _, ⟨⟩, impossible, -⟩
      cases impossible
    · rw [written_malformed] at answered
      cases answered
    · rw [silent exchange member] at answered
      cases answered
  | data data => exact answered data

/-- A further change of a call, after one that was applied. -/
theorem second_write_then {request : ProxmoxRequest} {f : request.Response → Api α} {first : ProxmoxExchange}
    (clean : Clean call past) (member : first ∈ past) (done : applied first = true)
    (disk : ¬ GrowsNothing library call past) (write : ¬ reads request) (taskless : needsTask call request = false)
    (answered : ∀ data, Settles library call (f data) (past ++ [⟨request, .data data⟩])) :
    Settles library call (ProxmoxProvider.request request >>= f) past := by
  have changes : (request.method ≠ .get) := write
  have before {outcome : ProxmoxRequest.Outcome request} : first ∈ past ++ [⟨request, outcome⟩] :=
    List.mem_append_left _ member
  have last {exchange : ProxmoxExchange} : exchange ∈ past ++ [exchange] :=
    List.mem_append_right _ List.mem_cons_self
  have refusal {outcome : ProxmoxRequest.Outcome request} {ended : Except ProxmoxError α}
      (refuses : refused ⟨request, outcome⟩ = true) (thrown : Refuses ended) :
      Settled library call (past ++ [⟨request, outcome⟩]) ended := by
    refine iff_of_false (not_honest before done thrown) fun conclusive => ?_
    have taken := conclusive.whole first before done _ last
    rw [refuses] at taken
    cases taken
  have pending {outcome : ProxmoxRequest.Outcome request} {ended : Except ProxmoxError α}
      (readable : unreadable ⟨request, outcome⟩ = false) (taken : refused ⟨request, outcome⟩ = false)
      (unrefused : ¬ Refuses ended) : Settled library call (past ++ [⟨request, outcome⟩]) ended := by
    refine iff_of_true (fun refuses => absurd refuses unrefused) ((clean.append readable taken fun needs => ?_).conclusive
      fun _ _ _ grows => disk (grows.before write))
    rw [taskless] at needs
    cases needs
  refine ⟨trivial, fun outcome => ?_⟩
  cases outcome with
  | failed code =>
    by_cases refuses : code = .protocolError
    · exact refusal (by simp [refused, changes, refuses]) ⟨_, _, rfl, rfl, refuses, by simp [refuses]⟩
    · refine pending (by simp [unreadable]) (by simp [refused, refuses]) ?_
      rintro ⟨_, _, ⟨⟩, ⟨⟩, same, -⟩
      exact refuses same
  | status status =>
    by_cases retryable : status = 408 ∨ status = 429 ∨ status ≥ 500
    · refine pending (by simp [unreadable]) (by simp [refused]; omega) ?_
      rintro ⟨_, _, ⟨⟩, ⟨⟩, same, -⟩
      rw [if_pos retryable] at same
      cases same
    · refine refusal (by simp [refused, changes]; omega) ⟨_, _, rfl, rfl, ?_, ?_⟩
      · exact if_neg retryable
      · simpa using retryable
  | invalidJson => exact unreadable_settled last (by simp [unreadable, changes]) (refuses_refusal _)
  | noData => exact unreadable_settled last (by simp [unreadable, changes]) (refuses_refusal _)
  | malformed =>
    refine pending (by simp [unreadable]) (by simp [refused]) ?_
    rintro ⟨_, _, ⟨⟩, impossible, -⟩
    cases impossible
  | data data => exact answered data

/-! ### The ways a call ends -/

/-- A result after a change that was answered. -/
theorem done_settles {exchange : ProxmoxExchange} {result : α} (clean : Clean call past)
    (readable : unreadable exchange = false) (taken : refused exchange = false)
    (tasked : needsTask call exchange.1 = true → ∀ upid, written exchange = some upid → (present upid).isSome = true)
    (disk : ¬ GrowsNothing library call (past ++ [exchange])) :
    Settles library call (.done result) (past ++ [exchange]) :=
  iff_of_true honest_of_result ((clean.append readable taken tasked).conclusive fun _ _ _ => disk)

theorem grows_only_resize (other : ∀ resize, call ≠ .resizeInstance resize) : ¬ GrowsNothing library call said := by
  rintro ⟨resize, same, -⟩
  exact other resize same

/-- A task that a change must name. -/
theorem acceptedTask_settles {exchange : ProxmoxExchange} {vmid : Int} {upid : Option String} (clean : Clean call past)
    (answered : written exchange = some upid) (needs : needsTask call exchange.1 = true)
    (readable : unreadable exchange = false) (taken : refused exchange = false)
    (disk : ¬ GrowsNothing library call (past ++ [exchange])) :
    Settles library call (acceptedTask library configuration vmid upid) (past ++ [exchange]) := by
  have last : exchange ∈ past ++ [exchange] := List.mem_append_right _ List.mem_cons_self
  unfold acceptedTask required
  cases named : present upid with
  | none =>
    refine iff_of_false (not_honest last (applied_of_written (by rw [answered]; rfl)) ⟨_, _, rfl, rfl, rfl, rfl⟩)
      fun conclusive => ?_
    have tasked := conclusive.tasked exchange last needs upid answered
    rw [named] at tasked
    cases tasked
  | some task =>
    refine done_settles clean readable taken (fun _ other same => ?_) disk
    rw [answered] at same
    cases same
    rw [named]
    rfl

end

/-! ### Parts that only read -/

section
variable {library : Library} {configuration : ProxmoxProviderConfiguration} {past : Conversation}

/-- A program that only reads. -/
abbrev Reads {α : Type} (p : Api α) (past : Conversation) : Prop :=
  p.Satisfies (fun _ request => reads request) (fun _ _ => True) past

theorem request_reads {request : ProxmoxRequest} (read : reads request) : Reads (ProxmoxProvider.request request) past := by
  refine ⟨read, fun outcome => ?_⟩
  cases outcome <;> trivial

theorem vmConfig_reads {vmid : Int} {allowMissing : Bool} : Reads (vmConfig vmid allowMissing) past := by
  refine satisfies_catching (request_reads rfl) (fun _ _ _ => trivial) fun later error _ => ?_
  split
  · trivial
  · trivial

theorem requireOwnedConfig_reads {vmid : Int} {expected : OwnershipMarkers} :
    Reads (requireOwnedConfig library vmid expected) past := by
  refine reads_bind vmConfig_reads fun later config => ?_
  cases config with
  | none => trivial
  | some config =>
    dsimp only
    split
    · trivial
    · trivial

theorem check_reads {α : Type} {checked : Except ProviderTransportError α} : Reads (check checked) past := by
  cases checked <;> trivial

theorem findOwnedOrFreeVmid_reads {markers : OwnershipMarkers} :
    Reads (findOwnedOrFreeVmid library configuration markers) past := by
  refine reads_bind (request_reads rfl) fun later summaries => ?_
  refine reads_bind check_reads fun later instanceId => ?_
  exact searchVmid_reads (fun _ _ => rfl) _ _ _

theorem assertIpv4Available_reads {address : String} {currentVmid : Int} :
    Reads (assertIpv4Available address currentVmid) past := by
  refine reads_bind check_reads fun later _ => ?_
  refine reads_bind (request_reads rfl) fun later summaries => ?_
  exact searchAddress_reads (fun _ _ => rfl) _ _

/-! ### The methods -/

theorem submitCreateInstance_settles {call : SubmitCreateInstanceRequest}
    (quiet : ∀ exchange ∈ past, reads exchange.1) :
    Settles library (.submitCreateInstance call) (submitCreateInstance library configuration call) past := by
  refine check_settles quiet fun context _ => check_settles quiet fun ownership _ => ?_
  split
  next => exact quiet_settled quiet
  next =>
    split
    next => exact quiet_settled quiet
    next =>
      refine reads_then quiet findOwnedOrFreeVmid_reads fun later vmid quiet => ?_
      refine reads_then quiet vmConfig_reads fun later config quiet => ?_
      cases config with
      | some config => exact quiet_settled quiet
      | none =>
        refine check_settles quiet fun hostname _ => ?_
        refine write_then quiet (fun read => by cases read) fun upid => ?_
        exact acceptedTask_settles (clean_of_quiet quiet) rfl rfl rfl rfl (grows_only_resize fun _ same => by cases same)

theorem applyInstanceConfiguration_settles {call : ApplyInstanceConfigurationRequest}
    (quiet : ∀ exchange ∈ past, reads exchange.1) :
    Settles library (.applyInstanceConfiguration call) (applyInstanceConfiguration library configuration call) past := by
  refine check_settles quiet fun ⟨ownership, vmid⟩ _ => ?_
  refine reads_then quiet requireOwnedConfig_reads fun later current quiet => ?_
  split
  next network resources _ _ =>
    refine check_settles quiet fun _ _ => check_settles quiet fun _ _ => ?_
    refine reads_then quiet assertIpv4Available_reads fun later _ quiet => ?_
    split
    next => exact quiet_settled quiet
    next net0 _ =>
      refine check_settles quiet fun hostname _ => check_settles quiet fun address _ => ?_
      refine check_settles quiet fun gateway _ => ?_
      refine write_then quiet (fun read => by cases read) fun upid => ?_
      exact done_settles (clean_of_quiet quiet) rfl rfl (fun needs => by cases needs)
        (grows_only_resize fun _ same => by cases same)
  next => exact quiet_settled quiet

theorem startInstance_settles {mutation : Option InstanceMutationRequest}
    (quiet : ∀ exchange ∈ past, reads exchange.1) :
    Settles library (.startInstance mutation) (startInstance library configuration mutation) past := by
  refine check_settles quiet fun ⟨ownership, vmid⟩ _ => ?_
  refine reads_then quiet requireOwnedConfig_reads fun later _ quiet => ?_
  refine reads_then quiet (request_reads rfl) fun later current quiet => ?_
  split
  next => exact quiet_settled quiet
  next =>
    refine write_then quiet (fun read => by cases read) fun upid => ?_
    exact acceptedTask_settles (clean_of_quiet quiet) rfl rfl rfl rfl (grows_only_resize fun _ same => by cases same)

theorem powerTransition_settles {call : ProviderCall} {mutation : Option InstanceMutationRequest} {action : String}
    {alreadyInState : Option String} {extraFields : List (String × String)}
    (needs : ∀ vmid, needsTask call (.power vmid action extraFields) = true)
    (other : ∀ resize, call ≠ .resizeInstance resize) (quiet : ∀ exchange ∈ past, reads exchange.1) :
    Settles library call (powerTransition library configuration mutation action alreadyInState extraFields) past := by
  refine check_settles quiet fun ⟨ownership, vmid⟩ _ => ?_
  refine reads_then quiet requireOwnedConfig_reads fun later _ quiet => ?_
  refine reads_then quiet (request_reads rfl) fun later current quiet => ?_
  split
  next => exact quiet_settled quiet
  next =>
    split
    next => exact quiet_settled quiet
    next =>
      refine write_then quiet (fun read => by cases read) fun upid => ?_
      exact acceptedTask_settles (clean_of_quiet quiet) rfl (needs vmid) rfl rfl (grows_only_resize other)

theorem prepareSnapshotMutation_reads {mutation : Option InstanceMutationRequest} :
    Reads (prepareSnapshotMutation library configuration mutation) past := by
  refine reads_bind check_reads fun later checked => ?_
  obtain ⟨ownership, vmid⟩ := checked
  refine reads_bind requireOwnedConfig_reads fun later _ => ?_
  refine reads_bind (request_reads rfl) fun later current => ?_
  split
  · trivial
  · trivial

theorem createSnapshot_settles {call : CreateSnapshotRequest} (quiet : ∀ exchange ∈ past, reads exchange.1) :
    Settles library (.createSnapshot call) (createSnapshot library configuration call) past := by
  refine reads_then quiet prepareSnapshotMutation_reads fun later vmid quiet => ?_
  refine check_settles quiet fun name _ => ?_
  refine write_then quiet (fun read => by cases read) fun upid => ?_
  exact acceptedTask_settles (clean_of_quiet quiet) rfl rfl rfl rfl (grows_only_resize fun _ same => by cases same)

theorem rollbackSnapshot_settles {call : Option SnapshotMutationRequest}
    (quiet : ∀ exchange ∈ past, reads exchange.1) :
    Settles library (.rollbackSnapshot call) (rollbackSnapshot library configuration call) past := by
  refine reads_then quiet prepareSnapshotMutation_reads fun later vmid quiet => ?_
  refine check_settles quiet fun name _ => ?_
  refine write_then quiet (fun read => by cases read) fun upid => ?_
  exact acceptedTask_settles (clean_of_quiet quiet) rfl rfl rfl rfl (grows_only_resize fun _ same => by cases same)

theorem deleteSnapshot_settles {call : Option SnapshotMutationRequest}
    (quiet : ∀ exchange ∈ past, reads exchange.1) :
    Settles library (.deleteSnapshot call) (deleteSnapshot library configuration call) past := by
  refine reads_then quiet prepareSnapshotMutation_reads fun later vmid quiet => ?_
  refine check_settles quiet fun name _ => ?_
  refine write_then quiet (fun read => by cases read) fun upid => ?_
  exact acceptedTask_settles (clean_of_quiet quiet) rfl rfl rfl rfl (grows_only_resize fun _ same => by cases same)

theorem markInstanceRetained_settles {call : MarkInstanceRetainedRequest}
    (quiet : ∀ exchange ∈ past, reads exchange.1) :
    Settles library (.markInstanceRetained call) (markInstanceRetained library configuration call) past := by
  refine check_settles quiet fun ⟨ownership, vmid⟩ _ => ?_
  refine reads_then quiet requireOwnedConfig_reads fun later _ quiet => ?_
  refine reads_then quiet (request_reads rfl) fun later current quiet => ?_
  dsimp only
  split
  next => exact quiet_settled quiet
  next =>
    refine write_then quiet (fun read => by cases read) fun upid => ?_
    exact done_settles (clean_of_quiet quiet) rfl rfl (fun needs => by cases needs)
      (grows_only_resize fun _ same => by cases same)

theorem purgeInstance_settles {call : PurgeInstanceRequest} (quiet : ∀ exchange ∈ past, reads exchange.1) :
    Settles library (.purgeInstance call) (purgeInstance library configuration call) past := by
  have disk {said : Conversation} : ¬ GrowsNothing library (.purgeInstance call) said :=
    grows_only_resize fun _ same => by cases same
  refine check_settles quiet fun ⟨ownership, vmid⟩ _ => ?_
  refine reads_then quiet requireOwnedConfig_reads fun later _ quiet => ?_
  refine reads_then quiet (request_reads rfl) fun later current quiet => ?_
  dsimp only
  split
  next => exact quiet_settled quiet
  next =>
    split
    next =>
      -- The VM is stopped first, and the destruction is the second change.
      refine write_then quiet (fun read => by cases read) fun stopped => ?_
      have clean : Clean (.purgeInstance call) (later ++ [⟨.power vmid "stop" [("overrule-shutdown", "1")], .data stopped⟩]) :=
        (clean_of_quiet quiet).append rfl rfl fun needs => by cases needs
      refine second_write_then clean (List.mem_append_right _ List.mem_cons_self) rfl disk (fun read => by cases read)
        rfl fun upid => ?_
      exact done_settles clean rfl rfl (fun needs => by cases needs) disk
    next =>
      refine write_then quiet (fun read => by cases read) fun upid => ?_
      exact done_settles (clean_of_quiet quiet) rfl rfl (fun needs => by cases needs) disk

/-- The configuration that ownership was proven on is what was read. -/
theorem requireOwnedConfig_answer {vmid : Int} {expected : OwnershipMarkers} :
    (requireOwnedConfig library vmid expected).Satisfies (fun _ request => reads request)
      (fun said ended => ∀ config, ended = .ok config → said = past ++ [⟨.vmConfig vmid, .data (some config)⟩]) past := by
  refine vmConfig_then rfl (fun _ _ _ impossible => nomatch impossible) fun found later known => ?_
  cases found with
  | none => exact fun _ impossible => nomatch impossible
  | some found =>
    dsimp only
    split
    next =>
      rintro config ⟨⟩
      exact known _ rfl
    next => exact fun _ impossible => nomatch impossible

/-- A read, and then the rest with its answer. -/
theorem read_then {α : Type} {call : ProviderCall} {request : ProxmoxRequest} {f : request.Response → Api α}
    (quiet : ∀ exchange ∈ past, reads exchange.1) (read : reads request)
    (answered : ∀ data, (∀ exchange ∈ past ++ [⟨request, .data data⟩], reads exchange.1) →
      Settles library call (f data) (past ++ [⟨request, .data data⟩])) :
    Settles library call (ProxmoxProvider.request request >>= f) past := by
  have after {outcome : ProxmoxRequest.Outcome request} : ∀ exchange ∈ past ++ [⟨request, outcome⟩], reads exchange.1 := by
    intro exchange member
    rcases List.mem_append.mp member with old | new
    · exact quiet exchange old
    · rw [List.mem_singleton.mp new]
      exact read
  refine ⟨trivial, fun outcome => ?_⟩
  cases outcome with
  | data data => exact answered data after
  | failed code => exact quiet_settled after
  | status status => exact quiet_settled after
  | invalidJson => exact quiet_settled after
  | noData => exact quiet_settled after
  | malformed => exact quiet_settled after

/-- The one configuration that was read has a disk to grow. -/
theorem not_growsNothing {resize : ResizeInstanceRequest} {vmid : Int} {config : ProxmoxVmConfig} {disk : Int}
    {rest : Conversation} (others : ∀ exchange ∈ rest, ∀ other, exchange.1 ≠ .vmConfig other)
    (target : numberOrZero library (resize.targetResources.bind InstanceResources.diskGib) = some disk)
    (able : (diskGiB config).getD 0 < disk → ∃ key, primaryDiskKey config = .ok key) :
    ¬ GrowsNothing library (.resizeInstance resize) (⟨.vmConfig vmid, .data (some config)⟩ :: rest) := by
  rintro ⟨_, ⟨⟩, other, found, size, member, wanted, grows, none⟩
  rcases List.mem_cons.mp member with first | later
  · cases first
    rw [target] at wanted
    cases wanted
    obtain ⟨key, has⟩ := able grows
    exact none key has
  · exact others _ later other rfl

theorem primaryDiskKey_error {config : ProxmoxVmConfig} {error : ProviderTransportError}
    (missing : primaryDiskKey config = .error error) : error = protocolError "The instance has no resizable disk." := by
  unfold primaryDiskKey at missing
  dsimp only at missing
  split at missing
  · cases missing
  · exact (Except.error.inj missing).symm

theorem resizeInstance_settles {call : ResizeInstanceRequest} :
    Settles library (.resizeInstance call) (resizeInstance library configuration call) [] := by
  have begins : ∀ exchange ∈ ([] : Conversation), reads exchange.1 := fun _ impossible => absurd impossible List.not_mem_nil
  refine check_settles begins fun ⟨ownership, vmid⟩ _ => ?_
  refine satisfies_bind (requireOwnedConfig_answer.only begins) (fun said config kept => ?_)
    fun _ _ kept => quiet_settled kept.2
  obtain ⟨known, quiet⟩ := kept
  have same := known config rfl
  subst same
  dsimp only
  split
  next memory disk _ target =>
    split
    next => exact quiet_settled quiet
    next =>
      split
      next => exact quiet_settled quiet
      next =>
        refine read_then quiet rfl fun current quiet => ?_
        split
        next => exact quiet_settled quiet
        next =>
          refine write_then quiet (fun read => by cases read) fun configTask => ?_
          -- What was said so far: the configuration, the status and the first change.
          let form := [("cores", toString ((call.targetResources.bind InstanceResources.cpuCount).getD 0)),
            ("sockets", "1"), ("vcpus", toString ((call.targetResources.bind InstanceResources.cpuCount).getD 0)),
            ("memory", toString memory)]
          have others : ∀ exchange ∈ ([⟨.currentStatus vmid, .data current⟩,
              ⟨.writeConfig vmid form, .data configTask⟩] : Conversation), ∀ other, exchange.1 ≠ .vmConfig other := by
            simp
          split
          next grows =>
            cases found : primaryDiskKey config with
            | error error =>
              rw [primaryDiskKey_error found]
              refine iff_of_false (not_honest (List.mem_append_right _ List.mem_cons_self) rfl
                ⟨_, _, rfl, rfl, rfl, rfl⟩) fun conclusive => ?_
              refine conclusive.disk _ (List.mem_append_right _ List.mem_cons_self) rfl ⟨call, rfl, vmid, config, disk,
                List.mem_cons_self, target, grows, fun key => ?_⟩
              rw [found]
              exact fun impossible => nomatch impossible
            | ok key =>
              have disks := @not_growsNothing library call vmid config disk _ others target fun _ => ⟨key, found⟩
              have clean := @Clean.append (.resizeInstance call) _ ⟨.writeConfig vmid form, .data configTask⟩
                (clean_of_quiet quiet) rfl rfl fun needs => by cases needs
              refine second_write_then clean (List.mem_append_right _ List.mem_cons_self) rfl disks
                (fun read => by cases read) rfl fun growTask => ?_
              have still {exchange : ProxmoxExchange} (write : ¬ reads exchange.1) := fun grown =>
                disks (GrowsNothing.before write grown)
              split
              next => exact done_settles clean rfl rfl (fun needs => by cases needs) (still fun read => by cases read)
              next => exact done_settles clean rfl rfl (fun needs => by cases needs) (still fun read => by cases read)
          next keeps =>
            refine done_settles (clean_of_quiet quiet) rfl rfl (fun needs => by cases needs) ?_
            exact not_growsNothing others target fun grows => absurd grows keeps
  next => exact quiet_settled quiet

end

/-! ### The theorem -/

section
variable {library : Library} {configuration : ProxmoxProviderConfiguration}

theorem handle_settles {observedAt : Nat} {call : ProviderCall} (mutates : call.mutates = true) :
    Settles library call (handle library configuration observedAt call) [] := by
  have begins : ∀ exchange ∈ ([] : Conversation), reads exchange.1 := fun _ impossible => absurd impossible List.not_mem_nil
  cases call with
  | submitCreateInstance call => exact submitCreateInstance_settles begins
  | applyInstanceConfiguration call => exact applyInstanceConfiguration_settles begins
  | getTask call => cases mutates
  | observeInstance call => cases mutates
  | startInstance mutation => exact startInstance_settles begins
  | shutdownInstance mutation => exact powerTransition_settles (fun _ => rfl) (fun _ same => by cases same) begins
  | stopInstance mutation => exact powerTransition_settles (fun _ => rfl) (fun _ same => by cases same) begins
  | rebootInstance mutation => exact powerTransition_settles (fun _ => rfl) (fun _ same => by cases same) begins
  | resizeInstance call => exact resizeInstance_settles
  | listSnapshots call => cases mutates
  | createSnapshot call => exact createSnapshot_settles begins
  | rollbackSnapshot call => exact rollbackSnapshot_settles begins
  | deleteSnapshot call => exact deleteSnapshot_settles begins
  | markInstanceRetained call => exact markInstanceRetained_settles begins
  | purgeInstance call => exact purgeInstance_settles begins

/-- Whatever Proxmox answers, a mutation refuses only what was not done exactly
    when the answers are conclusive. -/
theorem refusal_honest_iff {observedAt : Nat} {call : ProviderCall} (mutates : call.mutates = true)
    (proxmox : Oracle ProxmoxRequest.Outcome) :
    Honest ((handle library configuration observedAt call).run proxmox []).1
        ((handle library configuration observedAt call).run proxmox []).2 ↔
      Conclusive library call ((handle library configuration observedAt call).run proxmox []).1 :=
  (handle_settles mutates).run_post proxmox

end

/-! ### A sample conversation -/

def sampleMarkers : OwnershipMarkers :=
  { managedBy := some "private-cloud-control-plane", environment := some "lab",
    projectId := some sampleConfiguration.projectId, instanceId := some "00000000-0000-4000-8000-0000000000a1",
    createOperationId := some "00000000-0000-4000-8000-0000000000c1" }

def sampleContext : ProviderCallContext :=
  { requestId := some "00000000-0000-4000-8000-0000000000c1:start", operationId := sampleMarkers.createOperationId,
    correlationId := some "00000000-0000-4000-8000-0000000000d1", projectId := sampleMarkers.projectId,
    instanceId := sampleMarkers.instanceId, providerProfileId := some sampleConfiguration.providerProfileId,
    attempt := some 1, fencingToken := some "1" }

/-- The request of the creating operation about its VM. -/
def sampleMutation : InstanceMutationRequest :=
  { context := some sampleContext, providerResourceId := some "910000", expectedOwnershipMarkers := some sampleMarkers }

/-- The description that the creation wrote. -/
def sampleConfig : ProxmoxVmConfig :=
  { description := some (ownershipDescription (sampleLibrary sampleMarkers) sampleMarkers) }

/-- Proxmox with the VM in a state, answering every power action in one way. -/
def sampleProxmox (status : ProxmoxCurrentStatus) (powered : (request : ProxmoxRequest) → request.Outcome) :
    Oracle ProxmoxRequest.Outcome
  | _, .vmConfig _ => .data (some sampleConfig)
  | _, .currentStatus _ => .data status
  | _, request => powered request

theorem sample_legible : Legible (sampleLibrary sampleMarkers) sampleMarkers :=
  { restored := by simp [sampleLibrary]
    oneLine := markersJson_oneLine (by decide) (by decide) (by decide) (by decide) (by decide)
    managedBy := by simp [sampleMarkers, present]
    environment := by simp [sampleMarkers, present]
    projectId := by simp [sampleMarkers, present, sampleConfiguration]
    instanceId := by simp [sampleMarkers, present]
    createOperationId := by simp [sampleMarkers, present] }

theorem sample_context : assertContext sampleConfiguration sampleMutation.context = .ok sampleContext := by
  simp [assertContext, assertDirectProfile, sampleMutation, sampleContext, sampleMarkers, sampleConfiguration,
    required_some, bind, Except.bind, pure, Except.pure]

theorem sample_boundaries : boundaries (sampleLibrary sampleMarkers) sampleConfiguration (some sampleMutation) =
    .ok (sampleMarkers, 910000) := by
  simp only [boundaries, Option.bind_some, sample_context]
  simp [assertOwnership, assertVmid, sampleMutation, sampleMarkers, sampleContext, sampleConfiguration, sampleLibrary,
    ProxmoxProviderConfiguration.managedBy, ProxmoxProviderConfiguration.environment, bind, Except.bind, pure, Except.pure]

theorem refusal_honest_iff_sampleStart :
    (ProviderCall.startInstance (some sampleMutation)).mutates = true ∧
    (Honest ((handle (sampleLibrary sampleMarkers) sampleConfiguration 0 (.startInstance (some sampleMutation))).run
        (sampleProxmox { status := some "stopped" } fun _ => .invalidJson) []).1
      ((handle (sampleLibrary sampleMarkers) sampleConfiguration 0 (.startInstance (some sampleMutation))).run
        (sampleProxmox { status := some "stopped" } fun _ => .invalidJson) []).2 ↔
      Conclusive (sampleLibrary sampleMarkers) (.startInstance (some sampleMutation))
        ((handle (sampleLibrary sampleMarkers) sampleConfiguration 0 (.startInstance (some sampleMutation))).run
          (sampleProxmox { status := some "stopped" } fun _ => .invalidJson) []).1) :=
  ⟨rfl, refusal_honest_iff rfl _⟩

/-- The start of a stopped VM gets as far as its request. -/
theorem sample_unread : (startInstance (sampleLibrary sampleMarkers) sampleConfiguration (some sampleMutation)).run
      (sampleProxmox { status := some "stopped" } fun _ => .invalidJson) [] =
    ([⟨.vmConfig 910000, .data (some sampleConfig)⟩, ⟨.currentStatus 910000, .data { status := some "stopped" }⟩,
      ⟨.power 910000 "start" [], .invalidJson⟩], .error (refusal "Proxmox returned invalid JSON.")) := by
  have owned : parseOwnership (sampleLibrary sampleMarkers) sampleConfig.description = some sampleMarkers :=
    parseOwnership_description sample_legible
  unfold startInstance
  rw [sample_boundaries]
  show (requireOwnedConfig _ _ _ >>= _).run _ _ = _
  rw [run_requireOwnedConfig rfl owned, run_request rfl, if_neg (by simp)]
  rfl

/-- A start whose success is no JSON is refused, and the VM runs. -/
theorem started_refused : ¬ ∀ (library : Library) (configuration : ProxmoxProviderConfiguration) (call : ProviderCall)
    (proxmox : Oracle ProxmoxRequest.Outcome), call.mutates = true →
    Honest ((handle library configuration 0 call).run proxmox []).1
      ((handle library configuration 0 call).run proxmox []).2 := by
  intro all
  have honest := all (sampleLibrary sampleMarkers) sampleConfiguration (.startInstance (some sampleMutation))
    (sampleProxmox { status := some "stopped" } fun _ => .invalidJson) rfl
  simp only [handle, sample_unread] at honest
  have undone := honest ⟨refusal "Proxmox returned invalid JSON.", _, rfl, rfl, rfl, rfl⟩
    ⟨.power 910000 "start" [], .invalidJson⟩ (List.mem_cons_of_mem _ (List.mem_cons_of_mem _ List.mem_cons_self))
  cases undone

end ControlPlane.AdapterRefusals
