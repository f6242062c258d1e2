import ControlPlane.ProxmoxProvider

/-!
What the steps of the direct adapter do whatever the API answers: which of them
only read, and what a proven ownership leaves in the conversation.
-/
namespace ControlPlane.ProxmoxRules
open ControlPlane.Programs ControlPlane.Programs.Program ControlPlane.ProviderPort
open ControlPlane.ProxmoxOwnership ControlPlane.ProxmoxProvider

abbrev Conversation := List (Exchange ProxmoxRequest.Outcome)

theorem required_some {value name : String} (filled : value ≠ "") : required (some value) name = .ok value := by
  simp [required, present, Option.filter, filled]

section
variable {α : Type} {allowed : Conversation → ProxmoxRequest → Prop} {post : Conversation → Except ProxmoxError α → Prop}
  {past : Conversation} {library : Library} {configuration : ProxmoxProviderConfiguration}

/-- A request is sent; its data is handed on with the conversation. -/
theorem request_then {call : ProxmoxRequest} {f : call.Response → Api α} (sends : allowed past call)
    (raised : ∀ later error, post later (.error error))
    (answered : ∀ data, (f data).Satisfies allowed post (past ++ [⟨call, .data data⟩])) :
    (request call >>= f).Satisfies allowed post past := by
  refine ⟨sends, fun outcome => ?_⟩
  cases outcome with
  | data data => exact answered data
  | failed code => exact raised _ _
  | status status => exact raised _ _
  | invalidJson => exact raised _ _
  | noData => exact raised _ _
  | malformed => exact raised _ _

/-- A check passes a value on or raises. -/
theorem check_then {β : Type} {checked : Except ProviderTransportError β} {f : β → Api α}
    (raised : ∀ later error, post later (.error error))
    (passed : ∀ value, checked = .ok value → (f value).Satisfies allowed post past) :
    (check checked >>= f).Satisfies allowed post past := by
  cases checked with
  | ok value => exact passed value rfl
  | error error => exact raised _ _

/-- A part that ends anywhere is followed by the rest. -/
theorem reads_bind {β : Type} {p : Api β} {f : β → Api α} (first : p.Satisfies allowed (fun _ _ => True) past)
    (rest : ∀ later value, (f value).Satisfies allowed (fun _ _ => True) later) :
    (p >>= f).Satisfies allowed (fun _ _ => True) past :=
  satisfies_bind first (fun later value _ => rest later value) fun _ _ _ => trivial

/-- The configuration of a VM is read; if there is one, it is in the conversation. -/
theorem vmConfig_then {vmid : Int} {allowMissing : Bool} {f : Option ProxmoxVmConfig → Api α}
    (sends : allowed past (.vmConfig vmid)) (raised : ∀ later error, post later (.error error))
    (answered : ∀ config later, (∀ found, config = some found →
        later = past ++ [⟨.vmConfig vmid, .data (some found)⟩]) → (f config).Satisfies allowed post later) :
    (vmConfig vmid allowMissing >>= f).Satisfies allowed post past := by
  let read : Conversation → Except ProxmoxError (Option ProxmoxVmConfig) → Prop := fun later ended =>
    ∀ config, ended = .ok config → ∀ found, config = some found →
      later = past ++ [⟨.vmConfig vmid, .data (some found)⟩]
  have asked : (vmConfig vmid allowMissing).Satisfies allowed read past := by
    refine @satisfies_catching _ _ _ _ _ _ read _ _ _ ?_ (fun _ _ known => known) fun later error _ => ?_
    · refine ⟨sends, fun outcome => ?_⟩
      cases outcome with
      | data data => rintro config ⟨⟩ found rfl; rfl
      | failed code => exact fun _ impossible => nomatch impossible
      | status status => exact fun _ impossible => nomatch impossible
      | invalidJson => exact fun _ impossible => nomatch impossible
      | noData => exact fun _ impossible => nomatch impossible
      | malformed => exact fun _ impossible => nomatch impossible
    · split
      · rintro config ⟨⟩ found ⟨⟩
      · exact fun _ impossible => nomatch impossible
  exact satisfies_bind asked (fun later config known => answered config later (known config rfl))
    fun later error _ => raised later error

/-- The read of a VM whose description carries exactly the markers. -/
def Proven (library : Library) (vmid : Int) (markers : OwnershipMarkers) (past : Conversation) : Prop :=
  ∃ config : ProxmoxVmConfig, (⟨.vmConfig vmid, .data (some config)⟩ : Exchange ProxmoxRequest.Outcome) ∈ past ∧
    parseOwnership library config.description = some markers

theorem Proven.later {vmid : Int} {markers : OwnershipMarkers} {more : Conversation}
    (proven : Proven library vmid markers past) : Proven library vmid markers (past ++ more) := by
  obtain ⟨config, member, parsed⟩ := proven
  exact ⟨config, List.mem_append_left _ member, parsed⟩

/-- Past the ownership check, the ownership is proven. -/
theorem requireOwnedConfig_then {vmid : Int} {expected : OwnershipMarkers} {f : ProxmoxVmConfig → Api α}
    (sends : allowed past (.vmConfig vmid)) (raised : ∀ later error, post later (.error error))
    (answered : ∀ config later, Proven library vmid expected later → (f config).Satisfies allowed post later) :
    (requireOwnedConfig library vmid expected >>= f).Satisfies allowed post past := by
  unfold requireOwnedConfig
  rw [bind_assoc]
  refine vmConfig_then sends raised fun config later known => ?_
  cases config with
  | none => exact raised _ _
  | some config =>
    dsimp only
    split
    next matching =>
      refine answered config later ⟨config, ?_, markersMatch_iff.mp matching⟩
      rw [known config rfl]
      exact List.mem_append_right _ List.mem_cons_self
    next => exact raised _ _

/-! ### Requests that are answered -/

section
variable {proxmox : Oracle ProxmoxRequest.Outcome}

theorem run_request {call : ProxmoxRequest} {data : call.Response} {f : call.Response → Api α}
    (answered : proxmox past call = .data data) :
    (request call >>= f).run proxmox past = (f data).run proxmox (past ++ [⟨call, .data data⟩]) := by
  show ((request call).bind f).run proxmox past = _
  simp only [request, Program.bind, Program.run, answered]

theorem run_requireOwnedConfig {vmid : Int} {expected : OwnershipMarkers} {config : ProxmoxVmConfig}
    {f : ProxmoxVmConfig → Api α} (answered : proxmox past (.vmConfig vmid) = .data (some config))
    (owned : parseOwnership library config.description = some expected) :
    (requireOwnedConfig library vmid expected >>= f).run proxmox past =
      (f config).run proxmox (past ++ [⟨.vmConfig vmid, .data (some config)⟩]) := by
  show ((requireOwnedConfig library vmid expected).bind f).run proxmox past = _
  simp [requireOwnedConfig, vmConfig, request, Program.bind, bind, Program.catching, Program.run, answered,
    markersMatch_iff.mpr owned, pure]

end

/-! ### Searches only read -/

section
variable (reads : ∀ past vmid, allowed past (.vmConfig vmid))
include reads

theorem ownsVm_then {vmid : Int} {markers : OwnershipMarkers} {f : Bool → Api α}
    (raised : ∀ later error, post later (.error error))
    (answered : ∀ owns later, (f owns).Satisfies allowed post later) :
    (ownsVm library vmid markers >>= f).Satisfies allowed post past := by
  unfold ownsVm
  rw [bind_assoc]
  exact vmConfig_then (reads _ _) raised fun config later _ => answered _ later

theorem searchVmid_reads {markers : OwnershipMarkers} {occupied : List Int} {seed size : Nat} :
    ∀ remaining offset past, (searchVmid library configuration markers occupied seed size offset remaining).Satisfies
      allowed (fun _ _ => True) past
  | 0, _, _ => trivial
  | remaining + 1, offset, past => by
    unfold searchVmid
    dsimp only
    split
    · refine ownsVm_then reads (fun _ _ => trivial) fun owns later => ?_
      cases owns
      · exact searchVmid_reads remaining (offset + 1) later
      · trivial
    · trivial

theorem searchOwned_reads {markers : OwnershipMarkers} :
    ∀ summaries past, (searchOwned library configuration markers summaries).Satisfies allowed (fun _ _ => True) past
  | [], _ => trivial
  | none :: rest, past => searchOwned_reads rest past
  | some vmid :: rest, past => by
    unfold searchOwned
    split
    · exact searchOwned_reads rest past
    · refine ownsVm_then reads (fun _ _ => trivial) fun owns later => ?_
      cases owns
      · exact searchOwned_reads rest later
      · trivial

theorem searchAddress_reads {address : String} {currentVmid : Int} :
    ∀ summaries past, (searchAddress address currentVmid summaries).Satisfies allowed (fun _ _ => True) past
  | [], _ => trivial
  | none :: rest, past => searchAddress_reads rest past
  | some vmid :: rest, past => by
    unfold searchAddress
    split
    · exact searchAddress_reads rest past
    · refine vmConfig_then (reads _ _) (fun _ _ => trivial) fun config later _ => ?_
      split
      · trivial
      · exact searchAddress_reads rest later

end

end

end ControlPlane.ProxmoxRules
