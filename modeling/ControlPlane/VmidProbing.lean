import ControlPlane.ProxmoxNode
import ControlPlane.Tables

/-!
The search of the direct adapter for a VM id, on a node that changes meanwhile.
The listing, every configuration that is read and the clone are requests of
their own, and each of them meets the node as it is by then. The VMs that carry
the markers of the creation stay; what comes and goes belongs to others.
-/
namespace ControlPlane.VmidProbing
open ControlPlane.Programs ControlPlane.Programs.Program ControlPlane.ProviderPort
open ControlPlane.ProxmoxOwnership ControlPlane.ProxmoxProvider ControlPlane.ProxmoxRules ControlPlane.ProxmoxNode
open ControlPlane.AdapterRefusals (ProxmoxExchange)

/-- What a node holds when each request of a call reaches it. -/
abbrev History := Nat → Node

/-- The listing and the configurations are answered with what the node holds. -/
def Answers (nodes : History) (proxmox : Oracle ProxmoxRequest.Outcome) : Prop :=
  ∀ past request, (request = .listVms ∨ ∃ vmid, request = .vmConfig vmid) →
    Shows (nodes past.length) ⟨request, proxmox past request⟩

/-- The range of VM ids that the constructor accepts. -/
structure Reserved (configuration : ProxmoxProviderConfiguration) : Prop where
  minimum : 910000 ≤ configuration.resourceIdMinimum
  maximum : configuration.resourceIdMaximum ≤ 910099
  ordered : configuration.resourceIdMinimum ≤ configuration.resourceIdMaximum

/-! ### The claim -/

section
variable (library : Library) (configuration : ProxmoxProviderConfiguration) (markers : OwnershipMarkers)

/-- The VM with an id carries exactly the markers. -/
def Carries (node : Node) (vmid : Int) : Prop :=
  ∃ vm, node vmid = some vm ∧ parseOwnership library vm.config.description = some markers

/-- The VMs that carry the markers stay. -/
def Lasting (nodes : History) : Prop :=
  ∀ now later vmid, Carries library markers (nodes now) vmid → Carries library markers (nodes later) vmid

def InRange (vmid : Int) : Prop :=
  configuration.resourceIdMinimum ≤ vmid ∧ vmid ≤ configuration.resourceIdMaximum

def rangeSize : Nat := configuration.resourceIdMaximum - configuration.resourceIdMinimum + 1

/-- The VM id that the search looks at with an offset. -/
def slot (offset : Nat) : Int :=
  configuration.resourceIdMinimum +
    ((library.sha256Seed (markers.instanceId.getD "") + offset) % rangeSize configuration : Nat)

/-- Some VM of the range carries the markers. -/
def HasOwn (nodes : History) : Prop := ∃ vmid, InRange configuration vmid ∧ Carries library markers (nodes 0) vmid

/-- A creation finds its own VM: if there is one, it is the answer and nothing is
    cloned; nothing else is answered with; and if there is none, a free id of the
    range is cloned into, or every id is taken. -/
structure FindsOwn (nodes : History) (said : Conversation) (ended : Except ProxmoxError (Option ProviderMutationResult)) :
    Prop where
  own : HasOwn library configuration markers nodes →
    (∃ vmid, InRange configuration vmid ∧ Carries library markers (nodes 0) vmid ∧ ended = .ok (some (succeeded vmid))) ∧
      ∀ form outcome, ⟨.clone form, outcome⟩ ∉ said
  only : ∀ result, ended = .ok (some result) → result.state = some .succeeded →
    ∃ vmid, result.providerResourceId = some (toString vmid) ∧ Carries library markers (nodes 0) vmid
  other : ¬ HasOwn library configuration markers nodes →
    (∃ before form outcome vmid, said = before ++ [⟨.clone form, outcome⟩] ∧
      form.lookup "newid" = some (toString vmid) ∧ InRange configuration vmid ∧ nodes before.length vmid = none) ∨
    (ended = .error (refusal "The reserved VMID range is exhausted.") ∧
      ∀ vmid, InRange configuration vmid → (nodes 0 vmid).isSome = true)

/-- The VM ids before an offset were all taken by others when they were listed. -/
def Passed (nodes : History) (offset : Nat) : Prop :=
  ∀ earlier < offset, (nodes 0 (slot library configuration markers earlier)).isSome = true ∧
    ¬ Carries library markers (nodes 0) (slot library configuration markers earlier)

/-- Nobody comes in the way: a taken id that is looked at is taken until its
    configuration is read, and the first free one stays free until it is cloned
    into, unless there is a VM to find. -/
def Undisturbed (nodes : History) : Prop :=
  ∀ offset < rangeSize configuration, Passed library configuration markers nodes offset →
    if (nodes 0 (slot library configuration markers offset)).isSome = true then
      (nodes (1 + offset) (slot library configuration markers offset)).isSome = true
    else ¬ HasOwn library configuration markers nodes ∧
      nodes (1 + offset) (slot library configuration markers offset) = none ∧
      nodes (2 + offset) (slot library configuration markers offset) = none

end

/-! ### The slots are the range -/

section
variable {library : Library} {configuration : ProxmoxProviderConfiguration} {markers : OwnershipMarkers}

theorem slot_inRange (library : Library) (markers : OwnershipMarkers) (reserved : Reserved configuration) (offset : Nat) :
    InRange configuration (slot library configuration markers offset) := by
  have positive : 0 < rangeSize configuration := Nat.succ_pos _
  have below := Nat.mod_lt (library.sha256Seed (markers.instanceId.getD "") + offset) positive
  have ordered := reserved.ordered
  unfold slot InRange
  unfold rangeSize at below ⊢
  omega

/-- Counting on from a seed reaches every residue. -/
theorem residue_reached (seed : Nat) {size rest : Nat} (below : rest < size) : ∃ offset < size, (seed + offset) % size = rest := by
  have seedBelow := Nat.mod_lt seed (Nat.zero_lt_of_lt below)
  refine ⟨(rest + (size - seed % size)) % size, Nat.mod_lt _ (Nat.zero_lt_of_lt below), ?_⟩
  rw [Nat.add_mod_mod, ← Nat.mod_add_mod, show seed % size + (rest + (size - seed % size)) = rest + size by omega,
    Nat.add_mod_right, Nat.mod_eq_of_lt below]

theorem slot_reaches (library : Library) (markers : OwnershipMarkers) {vmid : Int} (inRange : InRange configuration vmid) :
    ∃ offset < rangeSize configuration, slot library configuration markers offset = vmid := by
  obtain ⟨least, most⟩ := inRange
  obtain ⟨rest, same⟩ := Int.eq_ofNat_of_zero_le (show 0 ≤ vmid - configuration.resourceIdMinimum by omega)
  have below : rest < rangeSize configuration := by
    unfold rangeSize
    omega
  obtain ⟨offset, inside, reached⟩ := residue_reached (library.sha256Seed (markers.instanceId.getD "")) below
  refine ⟨offset, inside, ?_⟩
  unfold slot
  rw [reached]
  omega

/-! ### The search -/

variable {nodes : History} {proxmox : Oracle ProxmoxRequest.Outcome}

/-- A conversation that cloned nothing. -/
def OnlyReads (said : Conversation) : Prop := ∀ exchange ∈ said, exchange.1.method = .get

theorem OnlyReads.append {said : Conversation} {exchange : ProxmoxExchange} (reads : OnlyReads said)
    (read : exchange.1.method = .get) : OnlyReads (said ++ [exchange]) := by
  intro other member
  rcases List.mem_append.mp member with old | new
  · exact reads other old
  · rw [List.mem_singleton.mp new]
    exact read

theorem OnlyReads.clones_nothing {said : Conversation} (reads : OnlyReads said) {form : List (String × String)}
    {outcome : (ProxmoxRequest.clone form).Outcome} : ⟨.clone form, outcome⟩ ∉ said := by
  intro member
  cases reads _ member

section
variable (answers : Answers nodes proxmox)
include answers

theorem answered_listing (past : Conversation) : ∃ summaries, proxmox past .listVms = .data summaries ∧
    ∀ vmid, vmid ≠ 0 → (some vmid ∈ summaries ↔ (nodes past.length vmid).isSome = true) := by
  have shows := answers past .listVms (.inl rfl)
  cases answer : proxmox past .listVms with
  | data summaries =>
    rw [answer] at shows
    exact ⟨summaries, rfl, shows⟩
  | _ => rw [answer] at shows; exact absurd shows id

theorem answered_config (past : Conversation) (vmid : Int) :
    (∃ vm, nodes past.length vmid = some vm ∧ proxmox past (.vmConfig vmid) = .data (some vm.config)) ∨
      (nodes past.length vmid = none ∧ proxmox past (.vmConfig vmid) = .status 404) := by
  have shows := answers past (.vmConfig vmid) (.inr ⟨vmid, rfl⟩)
  cases answer : proxmox past (.vmConfig vmid) with
  | data config =>
    rw [answer] at shows
    obtain ⟨vm, there, rfl⟩ := shows
    exact .inl ⟨vm, there, rfl⟩
  | status status =>
    rw [answer] at shows
    obtain ⟨rfl, gone⟩ := shows
    exact .inr ⟨gone, rfl⟩
  | _ => rw [answer] at shows; exact absurd shows id

end

section
variable {α : Type} {past : Conversation}

theorem run_vmConfig_found {vmid : Int} {config : ProxmoxVmConfig} {allowMissing : Bool} {f : Option ProxmoxVmConfig → Api α}
    (answered : proxmox past (.vmConfig vmid) = .data (some config)) :
    (vmConfig vmid allowMissing >>= f).run proxmox past =
      (f (some config)).run proxmox (past ++ [⟨.vmConfig vmid, .data (some config)⟩]) := by
  show ((vmConfig vmid allowMissing).bind f).run proxmox past = _
  simp [vmConfig, request, Program.bind, Program.catching, Program.run, answered]

theorem run_vmConfig_missing {vmid : Int} {f : Option ProxmoxVmConfig → Api α}
    (answered : proxmox past (.vmConfig vmid) = .status 404) :
    (vmConfig vmid true >>= f).run proxmox past = (f none).run proxmox (past ++ [⟨.vmConfig vmid, .status 404⟩]) := by
  show ((vmConfig vmid true).bind f).run proxmox past = _
  simp [vmConfig, request, Program.bind, Program.catching, Program.run, answered, httpError]

theorem run_vmConfig_gone {vmid : Int} {f : Option ProxmoxVmConfig → Api α}
    (answered : proxmox past (.vmConfig vmid) = .status 404) :
    (vmConfig vmid false >>= f).run proxmox past = (past ++ [⟨.vmConfig vmid, .status 404⟩], .error (httpError 404)) := by
  show ((vmConfig vmid false).bind f).run proxmox past = _
  simp [vmConfig, request, Program.bind, Program.catching, Program.run, answered]

end

section
variable (library : Library) (configuration : ProxmoxProviderConfiguration) (markers : OwnershipMarkers)

/-- The VM ids before an offset were taken by others, also when they were read. -/
structure Looked (nodes : History) (offset : Nat) : Prop where
  passed : Passed library configuration markers nodes offset
  kept : ∀ earlier < offset, (nodes (1 + earlier) (slot library configuration markers earlier)).isSome = true

/-- How a search ends: at a free id, at a VM with the markers, at a VM that is
    gone, or nowhere. -/
inductive Search {α : Type} (nodes : History) (proxmox : Oracle ProxmoxRequest.Outcome) (rest : Int → Api α) :
    Conversation × Except ProxmoxError α → Prop
  | free (offset : Nat) (later : Conversation) (below : offset < rangeSize configuration) (reads : OnlyReads later)
      (length : later.length = 1 + offset) (looked : Looked library configuration markers nodes offset)
      (vacant : nodes 0 (slot library configuration markers offset) = none) :
      Search nodes proxmox rest ((rest (slot library configuration markers offset)).run proxmox later)
  | own (offset : Nat) (later : Conversation) (below : offset < rangeSize configuration) (reads : OnlyReads later)
      (length : later.length = 2 + offset) (looked : Looked library configuration markers nodes offset)
      (carries : Carries library markers (nodes 0) (slot library configuration markers offset)) :
      Search nodes proxmox rest ((rest (slot library configuration markers offset)).run proxmox later)
  | gone (offset : Nat) (later : Conversation) (below : offset < rangeSize configuration) (reads : OnlyReads later)
      (looked : Looked library configuration markers nodes offset)
      (listed : (nodes 0 (slot library configuration markers offset)).isSome = true)
      (vacant : nodes (1 + offset) (slot library configuration markers offset) = none) :
      Search nodes proxmox rest (later, .error (httpError 404))
  | exhausted (later : Conversation) (reads : OnlyReads later)
      (looked : Looked library configuration markers nodes (rangeSize configuration)) :
      Search nodes proxmox rest (later, .error (refusal "The reserved VMID range is exhausted."))

end

theorem Looked.succ {offset : Nat} (looked : Looked library configuration markers nodes offset)
    (listed : (nodes 0 (slot library configuration markers offset)).isSome = true)
    (foreign : ¬ Carries library markers (nodes 0) (slot library configuration markers offset))
    (kept : (nodes (1 + offset) (slot library configuration markers offset)).isSome = true) :
    Looked library configuration markers nodes (offset + 1) := by
  constructor
  · intro earlier before
    rcases Nat.lt_succ_iff_lt_or_eq.mp before with below | rfl
    · exact looked.passed earlier below
    · exact ⟨listed, foreign⟩
  · intro earlier before
    rcases Nat.lt_succ_iff_lt_or_eq.mp before with below | rfl
    · exact looked.kept earlier below
    · exact kept

theorem searchVmid_succ (occupied : List Int) (offset remaining : Nat) :
    searchVmid library configuration markers occupied (library.sha256Seed (markers.instanceId.getD ""))
        (rangeSize configuration) offset (remaining + 1) =
      if occupied.contains (slot library configuration markers offset) then do
        if ← ownsVm library (slot library configuration markers offset) markers then
          return slot library configuration markers offset
        else
          searchVmid library configuration markers occupied (library.sha256Seed (markers.instanceId.getD ""))
            (rangeSize configuration) (offset + 1) remaining
      else .done (slot library configuration markers offset) := rfl

/-- Each offset that is looked at is one more request, so it is read on the node
    with its own number. -/
theorem run_searchVmid {α : Type} {rest : Int → Api α} {occupied : List Int} (answers : Answers nodes proxmox)
    (lasting : Lasting library markers nodes) (listed : ∀ offset, occupied.contains (slot library configuration markers offset) =
      (nodes 0 (slot library configuration markers offset)).isSome) :
    ∀ remaining offset past, offset + remaining = rangeSize configuration → past.length = 1 + offset → OnlyReads past →
      Looked library configuration markers nodes offset →
      Search library configuration markers nodes proxmox rest
        ((searchVmid library configuration markers occupied (library.sha256Seed (markers.instanceId.getD ""))
          (rangeSize configuration) offset remaining >>= rest).run proxmox past) := by
  intro remaining
  induction remaining with
  | zero =>
    intro offset past whole length reads looked
    rw [Nat.add_zero] at whole
    exact .exhausted past reads (whole ▸ looked)
  | succ remaining ih =>
    intro offset past whole length reads looked
    have below : offset < rangeSize configuration := by omega
    rw [searchVmid_succ, listed offset]
    cases there : (nodes 0 (slot library configuration markers offset)).isSome with
    | false =>
      exact .free offset past below reads length looked (Option.isNone_iff_eq_none.mp (by simpa using there))
    | true =>
      rw [if_pos rfl]
      unfold ownsVm
      rw [bind_assoc, bind_assoc]
      rcases answered_config answers past (slot library configuration markers offset) with ⟨vm, held, answer⟩ | ⟨free, answer⟩
      · rw [run_vmConfig_found answer]
        rw [length] at held
        have longer : (past ++ [⟨.vmConfig (slot library configuration markers offset), .data (some vm.config)⟩] :
            Conversation).length = 2 + offset := by
          rw [List.length_append, length, List.length_singleton]
          omega
        by_cases matching : markersMatch (parseOwnership library vm.config.description) markers = true
        · simp only [Option.bind_some, pure_eq, done_bind, matching, if_true]
          exact .own offset _ below (reads.append rfl) longer looked
            (lasting _ 0 _ ⟨vm, held, markersMatch_iff.mp matching⟩)
        · simp only [Option.bind_some, pure_eq, done_bind, matching, if_false, Bool.false_eq_true]
          refine ih (offset + 1) _ (by omega) (longer.trans (by omega)) (reads.append rfl)
            (looked.succ there (fun carries => ?_) (by rw [held]; rfl))
          obtain ⟨other, also, owned⟩ := lasting 0 (1 + offset) _ carries
          obtain rfl := Option.some.inj (held.symm.trans also)
          exact matching (markersMatch_iff.mpr owned)
      · rw [run_vmConfig_gone answer]
        exact .gone offset _ below (reads.append rfl) looked there (length ▸ free)

/-! ### The creation -/

/-- A creation that the adapter does not refuse on sight. -/
structure Accepts (configuration : ProxmoxProviderConfiguration) (markers : OwnershipMarkers)
    (call : SubmitCreateInstanceRequest) : Prop where
  context : ∃ context, assertContext configuration call.context = .ok context ∧
    assertOwnership configuration call.ownershipMarkers context = .ok markers
  image : call.imageId = some configuration.imageId
  hostname : hostnameAllowed (call.hostname.getD "") = true

/-- What a creation does with the VM id that its search ended with. -/
def place (library : Library) (configuration : ProxmoxProviderConfiguration) (markers : OwnershipMarkers)
    (hostname : Option String) (vmid : Int) : Api (Option ProviderMutationResult) := do
  match ← vmConfig vmid true with
  | some _ => return some (succeeded vmid)
  | none => do
    let hostname ← check (required hostname "hostname")
    let upid ← request (.clone [("newid", toString vmid), ("name", hostname), ("full", "1"),
      ("storage", configuration.storage), ("description", ownershipDescription library markers)])
    acceptedTask library configuration vmid upid

theorem required_iff {value : Option String} {name text : String} :
    required value name = .ok text ↔ value = some text ∧ text ≠ "" := by
  cases value with
  | none => simp [required, present]
  | some value =>
    by_cases empty : value = ""
    · simp [required, present, Option.filter, empty]
    · simp only [required, present, Option.filter, empty, ne_eq, not_false_eq_true, decide_true, if_true, Except.ok.injEq,
        Option.some.injEq]
      exact ⟨fun same => ⟨same, same ▸ empty⟩, And.left⟩

section
variable {call : SubmitCreateInstanceRequest}

theorem instanceId_required {given : Option ProviderCallContext} {context : ProviderCallContext}
    (checked : assertContext configuration given = .ok context) :
    ∃ instanceId, required context.instanceId "context.instanceId" = .ok instanceId := by
  unfold assertContext at checked
  cases given with
  | none => cases checked
  | some given =>
    dsimp only at checked
    obtain ⟨_, _, checked⟩ := Tables.bind_ok checked
    split at checked
    · cases checked
    · obtain ⟨_, _, checked⟩ := Tables.bind_ok checked
      obtain ⟨_, _, checked⟩ := Tables.bind_ok checked
      obtain ⟨_, _, checked⟩ := Tables.bind_ok checked
      obtain ⟨instanceId, known, checked⟩ := Tables.bind_ok checked
      cases checked
      exact ⟨instanceId, known⟩

theorem Accepts.instanceId (accepts : Accepts configuration markers call) :
    required markers.instanceId "ownership.instanceId" = .ok (markers.instanceId.getD "") := by
  obtain ⟨context, contextual, owned⟩ := accepts.context
  obtain ⟨instanceId, known⟩ := instanceId_required contextual
  obtain ⟨named, filled⟩ := required_iff.mp known
  have same : markers.instanceId = some instanceId := by
    unfold assertOwnership at owned
    split at owned
    · cases owned
    · split at owned
      · cases owned
      · next allowed =>
        cases owned
        rw [← named]
        exact not_not.mp fun other => allowed (.inr (.inr (.inr (.inl other))))
  rw [required_iff, same]
  exact ⟨rfl, filled⟩

theorem Accepts.named (accepts : Accepts configuration markers call) :
    required call.hostname "hostname" = .ok (call.hostname.getD "") := by
  have allowed := accepts.hostname
  cases given : call.hostname with
  | none => rw [given] at allowed; exact absurd allowed (by decide)
  | some hostname =>
    rw [given] at allowed
    refine required_iff.mpr ⟨rfl, fun empty => ?_⟩
    rw [Option.getD_some] at empty
    rw [empty] at allowed
    exact absurd allowed (by decide)

/-- A creation lists the VMs, searches and places. -/
theorem run_submitCreateInstance (accepts : Accepts configuration markers call) (answers : Answers nodes proxmox) :
    ∃ occupied summaries, (∀ vmid, vmid ≠ 0 → occupied.contains vmid = (nodes 0 vmid).isSome) ∧
      (submitCreateInstance library configuration call).run proxmox [] =
        (searchVmid library configuration markers occupied (library.sha256Seed (markers.instanceId.getD ""))
          (rangeSize configuration) 0 (rangeSize configuration) >>= place library configuration markers call.hostname).run
          proxmox [⟨.listVms, .data summaries⟩] := by
  obtain ⟨summaries, listing, listed⟩ := answered_listing answers []
  refine ⟨(summaries.filterMap id).filter (· ≠ 0), summaries, fun vmid some_ => ?_, ?_⟩
  · have same : ((summaries.filterMap id).filter (· ≠ 0)).contains vmid = true ↔ (nodes 0 vmid).isSome = true := by
      refine .trans ?_ (listed vmid some_)
      rw [List.contains_iff_mem]
      simp [some_]
    exact Bool.eq_iff_iff.mpr same
  · obtain ⟨context, contextual, owned⟩ := accepts.context
    unfold submitCreateInstance
    simp only [contextual, owned, check, done_bind, accepts.image, ne_eq, not_true_eq_false, if_false, accepts.hostname,
      Bool.not_true, Bool.false_eq_true]
    unfold findOwnedOrFreeVmid
    rw [bind_assoc, run_request listing]
    simp only [accepts.instanceId, check, done_bind]
    rfl

end

/-! ### The four ends -/

theorem vmidText_injective {vmid other : Int} (natural : 0 ≤ vmid) (also : 0 ≤ other)
    (same : toString vmid = toString other) : vmid = other := by
  obtain ⟨vmid, rfl⟩ := Int.eq_ofNat_of_zero_le natural
  obtain ⟨other, rfl⟩ := Int.eq_ofNat_of_zero_le also
  exact congrArg Int.ofNat (Texts.natText_injective same)

/-- What an offset asks for, once all before it were passed. -/
abbrev Calm (library : Library) (configuration : ProxmoxProviderConfiguration) (markers : OwnershipMarkers)
    (nodes : History) (offset : Nat) : Prop :=
  if (nodes 0 (slot library configuration markers offset)).isSome = true then
    (nodes (1 + offset) (slot library configuration markers offset)).isSome = true
  else ¬ HasOwn library configuration markers nodes ∧
    nodes (1 + offset) (slot library configuration markers offset) = none ∧
    nodes (2 + offset) (slot library configuration markers offset) = none

/-- Where the search stops, only that offset is left to ask for anything. -/
theorem undisturbed_iff {offset : Nat} (below : offset < rangeSize configuration)
    (looked : Looked library configuration markers nodes offset)
    (stops : ¬ ((nodes 0 (slot library configuration markers offset)).isSome = true ∧
      ¬ Carries library markers (nodes 0) (slot library configuration markers offset))) :
    Undisturbed library configuration markers nodes ↔ Calm library configuration markers nodes offset := by
  refine ⟨fun undisturbed => undisturbed offset below looked.passed, fun calm other inside passed => ?_⟩
  rcases Nat.lt_trichotomy other offset with before | rfl | after
  · rw [if_pos (looked.passed other before).1]
    exact looked.kept other before
  · exact calm
  · exact absurd (passed offset after) stops

/-- An error after reads only finds no VM, unless every id is taken. -/
theorem failed_finds {said : Conversation} {error : ProxmoxError} (reads : OnlyReads said) :
    FindsOwn library configuration markers nodes said (.error error) ↔
      ¬ HasOwn library configuration markers nodes ∧ error = refusal "The reserved VMID range is exhausted." ∧
        ∀ vmid, InRange configuration vmid → (nodes 0 vmid).isSome = true := by
  constructor
  · intro finds
    have none_ : ¬ HasOwn library configuration markers nodes := by
      intro present
      obtain ⟨⟨_, _, _, impossible⟩, -⟩ := finds.own present
      cases impossible
    rcases finds.other none_ with ⟨_, _, _, _, rfl, -⟩ | ⟨same, all⟩
    · exact absurd (List.mem_append_right _ List.mem_cons_self) reads.clones_nothing
    · exact ⟨none_, Except.error.inj same, all⟩
  · rintro ⟨none_, rfl, all⟩
    exact ⟨fun present => absurd present none_, fun _ impossible => (nomatch impossible), fun _ => .inr ⟨rfl, all⟩⟩

/-- An answer after reads only is right if the VM carries the markers. -/
theorem succeeded_finds {said : Conversation} {offset : Nat} (reads : OnlyReads said) (reserved : Reserved configuration) :
    FindsOwn library configuration markers nodes said
        (.ok (some (succeeded (slot library configuration markers offset)))) ↔
      Carries library markers (nodes 0) (slot library configuration markers offset) := by
  have inRange : ∀ other, InRange configuration (slot library configuration markers other) := slot_inRange library markers reserved
  constructor
  · intro finds
    by_cases present : HasOwn library configuration markers nodes
    · obtain ⟨⟨vmid, inside, carries, same⟩, -⟩ := finds.own present
      have text : toString (slot library configuration markers offset) = toString vmid := by
        simpa [succeeded] using same
      have least := (inRange offset).1
      have natural := inside.1
      rwa [vmidText_injective (by omega) (by omega) text]
    · rcases finds.other present with ⟨_, _, _, _, rfl, -⟩ | ⟨impossible, -⟩
      · exact absurd (List.mem_append_right _ List.mem_cons_self) reads.clones_nothing
      · cases impossible
  · intro carries
    refine ⟨fun _ => ⟨⟨_, inRange offset, carries, rfl⟩, fun _ _ => reads.clones_nothing⟩, fun result same _ => ?_, ?_⟩
    · cases same
      exact ⟨_, rfl, carries⟩
    · exact fun none_ => absurd ⟨_, inRange offset, carries⟩ none_

/-- A clone is right if there is no VM to find and its id is free. -/
theorem cloned_finds {before : Conversation} {form : List (String × String)} {outcome : (ProxmoxRequest.clone form).Outcome}
    {ended : Except ProxmoxError (Option ProviderMutationResult)} {offset : Nat} (reserved : Reserved configuration)
    (named : form.lookup "newid" = some (toString (slot library configuration markers offset)))
    (unanswered : ∀ result, ended = .ok (some result) → result.state ≠ some .succeeded)
    (sought : ended ≠ .error (refusal "The reserved VMID range is exhausted.")) :
    FindsOwn library configuration markers nodes (before ++ [⟨.clone form, outcome⟩]) ended ↔
      ¬ HasOwn library configuration markers nodes ∧
        nodes before.length (slot library configuration markers offset) = none := by
  have inRange := slot_inRange library markers reserved offset
  constructor
  · intro finds
    have none_ : ¬ HasOwn library configuration markers nodes := fun present =>
      (finds.own present).2 form outcome (List.mem_append_right _ List.mem_cons_self)
    refine ⟨none_, ?_⟩
    rcases finds.other none_ with ⟨before', form', outcome', vmid, same, named', inside, free⟩ | ⟨impossible, -⟩
    · obtain ⟨rfl, last⟩ := List.append_inj' same rfl
      obtain ⟨request, -⟩ := Sigma.mk.inj (List.cons.inj last).1
      obtain rfl := ProxmoxRequest.clone.inj request
      have text := Option.some.inj (named.symm.trans named')
      have least := inRange.1
      have natural := inside.1
      rwa [vmidText_injective (by omega) (by omega) text]
    · exact absurd impossible sought
  · rintro ⟨none_, free⟩
    refine ⟨fun present => absurd present none_, fun result same state => absurd state (unanswered result same), fun _ => .inl ?_⟩
    exact ⟨before, form, outcome, _, rfl, named, inRange, free⟩

/-- What becomes of a clone is neither an answer that names a VM nor the end of
    the range. -/
theorem run_clone (form : List (String × String)) (past : Conversation) (vmid : Int) :
    ∃ outcome ended, (∀ result, ended = .ok (some result) → result.state ≠ some .succeeded) ∧
      ended ≠ .error (refusal "The reserved VMID range is exhausted.") ∧
      (request (.clone form) >>= fun upid => acceptedTask library configuration vmid upid).run proxmox past =
        (past ++ [⟨.clone form, outcome⟩], ended) := by
  have raised (outcome : (ProxmoxRequest.clone form).Outcome) (error : ProxmoxError)
      (other : error ≠ refusal "The reserved VMID range is exhausted.")
      (ran : (request (.clone form) >>= fun upid => acceptedTask library configuration vmid upid).run proxmox past =
        (past ++ [⟨.clone form, outcome⟩], .error error)) :
      ∃ outcome ended, (∀ result, ended = .ok (some result) → result.state ≠ some .succeeded) ∧
        ended ≠ .error (refusal "The reserved VMID range is exhausted.") ∧
        (request (.clone form) >>= fun upid => acceptedTask library configuration vmid upid).run proxmox past =
          (past ++ [⟨.clone form, outcome⟩], ended) :=
    ⟨outcome, .error error, fun _ impossible => (nomatch impossible), fun same => other (Except.error.inj same), ran⟩
  have ran {outcome : (ProxmoxRequest.clone form).Outcome} (answer : proxmox past (.clone form) = outcome)
      {after : Api (Option ProviderMutationResult)}
      (resumed : (match outcome with
        | .failed code => .raise { error := some ⟨code, "Proxmox transport failed.", code ≠ .protocolError⟩ }
        | .status status => .raise (httpError status)
        | .invalidJson => .raise (refusal "Proxmox returned invalid JSON.")
        | .noData => .raise (refusal "Proxmox response omitted data.")
        | .malformed => .raise { error := none }
        | .data upid => acceptedTask library configuration vmid upid) = after) :
      (request (.clone form) >>= fun upid => acceptedTask library configuration vmid upid).run proxmox past =
        after.run proxmox (past ++ [⟨.clone form, outcome⟩]) := by
    show ((request (.clone form)).bind _).run proxmox past = _
    subst resumed
    cases outcome <;> simp [request, Program.bind, Program.run, answer]
  cases answer : proxmox past (.clone form) with
  | data upid =>
    cases known : required upid "provider task reference" with
    | ok reference =>
      refine ⟨.data upid, .ok (some (accepted library configuration vmid reference)), ?_, by simp, ?_⟩
      · rintro result ⟨⟩
        simp [accepted]
      · rw [ran answer rfl]
        simp [acceptedTask, known, check, Program.run]
    | error error =>
      refine raised (.data upid) { error := error } ?_ ?_
      · unfold required at known
        split at known
        · cases known
        · cases known
          simp [refusal, protocolError]
      · rw [ran answer rfl]
        simp [acceptedTask, known, check, Program.run]
  | failed code => exact raised (.failed code) _ (by simp [refusal, protocolError]) (ran answer rfl)
  | status status => exact raised (.status status) _ (by simp [refusal, protocolError, httpError]) (ran answer rfl)
  | invalidJson => exact raised .invalidJson _ (by simp [refusal, protocolError]) (ran answer rfl)
  | noData => exact raised .noData _ (by simp [refusal, protocolError]) (ran answer rfl)
  | malformed => exact raised .malformed _ (by simp [refusal, protocolError]) (ran answer rfl)

/-- A VM that is there is the answer; otherwise the id is cloned into. -/
theorem run_place {call : SubmitCreateInstanceRequest} (accepts : Accepts configuration markers call)
    (answers : Answers nodes proxmox) (past : Conversation) (vmid : Int) :
    (∃ vm, nodes past.length vmid = some vm ∧
      (place library configuration markers call.hostname vmid).run proxmox past =
        (past ++ [⟨.vmConfig vmid, .data (some vm.config)⟩], .ok (some (succeeded vmid)))) ∨
    (nodes past.length vmid = none ∧ ∃ form outcome ended, form.lookup "newid" = some (toString vmid) ∧
      (∀ result, ended = .ok (some result) → result.state ≠ some .succeeded) ∧
      ended ≠ .error (refusal "The reserved VMID range is exhausted.") ∧
      (place library configuration markers call.hostname vmid).run proxmox past =
        (past ++ [⟨.vmConfig vmid, .status 404⟩] ++ [⟨.clone form, outcome⟩], ended)) := by
  unfold place
  rcases answered_config answers past vmid with ⟨vm, held, answer⟩ | ⟨free, answer⟩
  · exact .inl ⟨vm, held, run_vmConfig_found answer⟩
  · refine .inr ⟨free, ?_⟩
    rw [run_vmConfig_missing answer]
    simp only [accepts.named, check, done_bind]
    obtain ⟨outcome, ended, unanswered, sought, cloned⟩ := run_clone
      [("newid", toString vmid), ("name", call.hostname.getD ""), ("full", "1"), ("storage", configuration.storage),
        ("description", ownershipDescription library markers)] (past ++ [⟨.vmConfig vmid, .status 404⟩]) vmid
    exact ⟨_, outcome, ended, rfl, unanswered, sought, cloned⟩

theorem finds_iff {call : SubmitCreateInstanceRequest} (reserved : Reserved configuration)
    (accepts : Accepts configuration markers call) (answers : Answers nodes proxmox)
    (lasting : Lasting library markers nodes) :
    FindsOwn library configuration markers nodes ((submitCreateInstance library configuration call).run proxmox []).1
        ((submitCreateInstance library configuration call).run proxmox []).2 ↔
      Undisturbed library configuration markers nodes := by
  have natural (offset : Nat) : slot library configuration markers offset ≠ 0 := by
    have inside := (slot_inRange library markers reserved offset).1
    have least := reserved.minimum
    omega
  obtain ⟨occupied, summaries, listed, same⟩ := run_submitCreateInstance accepts answers
  rw [same]
  have fresh : Looked library configuration markers nodes 0 :=
    ⟨fun _ impossible => absurd impossible (Nat.not_lt_zero _), fun _ impossible => absurd impossible (Nat.not_lt_zero _)⟩
  have quiet : OnlyReads [⟨.listVms, .data summaries⟩] := by
    intro exchange member
    rw [List.mem_singleton.mp member]
    rfl
  have search := @run_searchVmid library configuration markers nodes proxmox _
    (place library configuration markers call.hostname) occupied answers lasting (fun offset => listed _ (natural offset))
    (rangeSize configuration) 0 [⟨.listVms, .data summaries⟩] (Nat.zero_add _) rfl quiet fresh
  generalize ((searchVmid library configuration markers occupied _ _ 0 _ >>= _).run proxmox _) = ran at search
  cases search with
  | free offset later below reads length looked vacant =>
    have stops : ¬ ((nodes 0 (slot library configuration markers offset)).isSome = true ∧
        ¬ Carries library markers (nodes 0) (slot library configuration markers offset)) := by
      rintro ⟨taken, -⟩
      rw [vacant] at taken
      cases taken
    rw [undisturbed_iff below looked stops, Calm, vacant]
    rcases run_place accepts answers later (slot library configuration markers offset) with
      ⟨vm, held, placed⟩ | ⟨gone, form, outcome, ended, named, unanswered, sought, placed⟩
    · -- Somebody took the id after the listing: the answer is the VM of another.
      rw [length] at held
      rw [placed, succeeded_finds (reads.append rfl) reserved, held]
      refine iff_of_false ?_ fun calm => (nomatch calm.2.1)
      rintro ⟨other, impossible, -⟩
      rw [vacant] at impossible
      cases impossible
    · rw [length] at gone
      rw [placed, cloned_finds reserved named unanswered sought, gone, List.length_append, length, List.length_singleton,
        show 1 + offset + 1 = 2 + offset by omega]
      simp
  | own offset later below reads length looked carries =>
    rcases run_place accepts answers later (slot library configuration markers offset) with
      ⟨vm, there, placed⟩ | ⟨gone, -⟩
    · rw [placed, succeeded_finds (reads.append rfl) reserved,
        undisturbed_iff below looked fun taken => taken.2 carries]
      obtain ⟨keptVm, isKept, -⟩ := lasting 0 (1 + offset) _ carries
      refine iff_of_true carries ?_
      obtain ⟨listedVm, isListed, -⟩ := carries
      rw [Calm, isListed, isKept]
      rfl
    · obtain ⟨vm, there, -⟩ := lasting 0 (2 + offset) _ carries
      rw [length, there] at gone
      cases gone
  | gone offset later below reads looked listedHere vacant =>
    rw [failed_finds reads]
    refine iff_of_false ?_ fun undisturbed => ?_
    · rintro ⟨-, impossible, -⟩
      simp [httpError, refusal] at impossible
    · have calm := undisturbed offset below looked.passed
      rw [if_pos listedHere, vacant] at calm
      cases calm
  | exhausted later reads looked =>
    rw [failed_finds reads]
    refine iff_of_true ⟨?_, rfl, ?_⟩ fun offset below _ => ?_
    · rintro ⟨vmid, inside, carries⟩
      obtain ⟨offset, below, rfl⟩ := slot_reaches library markers inside
      exact (looked.passed offset below).2 carries
    · intro vmid inside
      obtain ⟨offset, below, rfl⟩ := slot_reaches library markers inside
      exact (looked.passed offset below).1
    · rw [if_pos (looked.passed offset below).1]
      exact looked.kept offset below

end

/-! ### The theorem -/

/-- Whatever others do to the node: a creation finds its own VM, and takes no
    other for it, exactly if nobody comes in the way. -/
theorem submitCreateInstance_finds_own (library : Library) (configuration : ProxmoxProviderConfiguration)
    (markers : OwnershipMarkers) (call : SubmitCreateInstanceRequest) (nodes : History)
    (proxmox : Oracle ProxmoxRequest.Outcome) (reserved : Reserved configuration)
    (accepts : Accepts configuration markers call) (answers : Answers nodes proxmox)
    (lasting : Lasting library markers nodes) :
    FindsOwn library configuration markers nodes ((submitCreateInstance library configuration call).run proxmox []).1
        ((submitCreateInstance library configuration call).run proxmox []).2 ↔
      Undisturbed library configuration markers nodes :=
  finds_iff reserved accepts answers lasting

/-! ### A hole before the VM -/

/-- A node with one VM, which carries the markers. -/
def sampleNode (held : Int) : Node :=
  fun vmid => if vmid = held then some ⟨AdapterRefusals.sampleConfig, {}⟩ else none

/-- A node that stays as it is and answers. -/
def sampleNodeAnswers (held : Int) : Oracle ProxmoxRequest.Outcome
  | _, .listVms => .data [some held]
  | _, .vmConfig vmid => if vmid = held then .data (some AdapterRefusals.sampleConfig) else .status 404
  | _, _ => .noData

def sampleCreation : SubmitCreateInstanceRequest :=
  { context := some AdapterRefusals.sampleContext, ownershipMarkers := some AdapterRefusals.sampleMarkers,
    imageId := some "debian-12", hostname := some "vm-1" }

theorem sample_reserved : Reserved sampleConfiguration := by constructor <;> decide

theorem sample_accepts : Accepts sampleConfiguration AdapterRefusals.sampleMarkers sampleCreation where
  context := by
    refine ⟨AdapterRefusals.sampleContext, AdapterRefusals.sample_context, ?_⟩
    simp [assertOwnership, sampleCreation, AdapterRefusals.sampleMarkers, AdapterRefusals.sampleContext, sampleConfiguration,
      ProxmoxProviderConfiguration.managedBy, ProxmoxProviderConfiguration.environment]
  image := by decide
  hostname := by decide

theorem sample_answers (held : Int) : Answers (fun _ => sampleNode held) (sampleNodeAnswers held) := by
  rintro past request (rfl | ⟨vmid, rfl⟩)
  · intro vmid _
    by_cases same : vmid = held
    · simp [sampleNode, same]
    · simp [sampleNode, same]
  · by_cases same : vmid = held
    · simp [sampleNodeAnswers, sampleNode, Shows, same]
    · simp [sampleNodeAnswers, sampleNode, Shows, same]

theorem sample_carries (held : Int) :
    Carries (sampleLibrary AdapterRefusals.sampleMarkers) AdapterRefusals.sampleMarkers (sampleNode held) held :=
  ⟨_, if_pos rfl, parseOwnership_description AdapterRefusals.sample_legible⟩

/-- A VM with the first id that is looked at is found. -/
theorem submitCreateInstance_finds_own_sample :
    Undisturbed (sampleLibrary AdapterRefusals.sampleMarkers) sampleConfiguration AdapterRefusals.sampleMarkers
      (fun _ => sampleNode 910000) ∧
    FindsOwn (sampleLibrary AdapterRefusals.sampleMarkers) sampleConfiguration AdapterRefusals.sampleMarkers
      (fun _ => sampleNode 910000)
      ((submitCreateInstance (sampleLibrary AdapterRefusals.sampleMarkers) sampleConfiguration sampleCreation).run
        (sampleNodeAnswers 910000) []).1
      ((submitCreateInstance (sampleLibrary AdapterRefusals.sampleMarkers) sampleConfiguration sampleCreation).run
        (sampleNodeAnswers 910000) []).2 := by
  have calm : Undisturbed (sampleLibrary AdapterRefusals.sampleMarkers) sampleConfiguration
      AdapterRefusals.sampleMarkers (fun _ => sampleNode 910000) := by
    intro offset _ passed
    cases offset with
    | zero => exact (if_pos (by decide)).mpr (by decide)
    | succ offset => exact absurd (sample_carries 910000) (passed 0 (Nat.succ_pos offset)).2
  exact ⟨calm, (submitCreateInstance_finds_own _ _ _ sampleCreation _ (sampleNodeAnswers 910000) sample_reserved
    sample_accepts (sample_answers _) fun _ _ _ carries => carries).mpr calm⟩

/-- A VM behind an id that became free is not found. -/
theorem submitCreateInstance_misses_own : ¬ ∀ library configuration markers call nodes proxmox, Reserved configuration →
    Accepts configuration markers call → Answers nodes proxmox → Lasting library markers nodes →
    FindsOwn library configuration markers nodes ((submitCreateInstance library configuration call).run proxmox []).1
      ((submitCreateInstance library configuration call).run proxmox []).2 := by
  intro every
  have finds := every (sampleLibrary AdapterRefusals.sampleMarkers) sampleConfiguration AdapterRefusals.sampleMarkers
    sampleCreation (fun _ => sampleNode 910001) (sampleNodeAnswers 910001) sample_reserved sample_accepts
    (sample_answers _) fun _ _ _ carries => carries
  have undisturbed := (finds_iff sample_reserved sample_accepts (sample_answers _)
    fun _ _ _ carries => carries).mp finds
  have calm := undisturbed 0 (by decide) fun _ impossible => absurd impossible (Nat.not_lt_zero _)
  rw [if_neg (by decide)] at calm
  exact calm.1 ⟨910001, ⟨by decide, by decide⟩, sample_carries 910001⟩

end ControlPlane.VmidProbing
