import ControlPlane.Acceptance
import ControlPlane.Listings

/-!
The listing of the networks, each with the provider profile that it belongs to. The
networks are joined with the profiles that refer to them, and a page is read behind a
network. So the listing is complete if no network is referred to twice, and if one is,
some pages show it twice or not with every profile (`complete_iff`).
-/
namespace ControlPlane.NetworkListing
open ControlPlane.Texts ControlPlane.Tables ControlPlane.Commands ControlPlane.ControlSchema ControlPlane.RequestValidation
open ControlPlane.Transactions ControlPlane.Acceptance ControlPlane.PageCursor ControlPlane.SeekPages ControlPlane.Listings

/-- A network as it is answered. -/
structure NetworkView where
  network : NetworkRow
  providerProfileId : Option String
  deriving DecidableEq

/-- A row of the joined tables. -/
abbrev JoinedRow := NetworkRow × Option String

/-- The rows that a network has in the join. -/
def joined (profiles : List ProviderProfileRow) (network : NetworkRow) : List JoinedRow :=
  match profiles.filter (·.networkId = network.id) with
  | [] => [(network, none)]
  | referring => referring.map fun profile => (network, some profile.id)

/-- `control.networks` left joined with `control.provider_profiles`. -/
def leftJoin (catalog : Catalog) : List JoinedRow := catalog.networks.flatMap (joined catalog.providerProfiles)

def JoinedRow.id (row : JoinedRow) : String := row.1.id

/-- The profile is left out if its identifier is empty. -/
def JoinedRow.view (row : JoinedRow) : NetworkView := ⟨row.1, row.2.filter (· ≠ "")⟩

/-- A page of the enabled networks. It is open how the rows of one network follow
    each other. -/
def listNetworks {pg : Postgres} (arrangement : Arrangement pg.collation JoinedRow.id) (catalog : Catalog)
    (request : PageRequest) : Except Failure (Page NetworkView) :=
  (listRows arrangement seekAscending (catalogPosition JoinedRow.id) ((leftJoin catalog).filter fun row => row.1.enabled)
    request.limit request.cursor).map (page request JoinedRow.view)

/-- The tables of an installation: identifiers are primary keys, and slugs. -/
structure Installed where
  db : ControlDb
  networkIds : (db.networks.map NetworkRow.id).Nodup
  profileIds : (db.providerProfiles.map ProviderProfileRow.id).Nodup
  networkSlugs : ∀ network ∈ db.networks, isSlugText network.id = true
  profileSlugs : ∀ profile ∈ db.providerProfiles, isSlugText profile.id = true

/-- The acceptance of a creation takes the network with the profile. -/
def Allowed (db : ControlDb) (network : NetworkRow) (providerProfileId : String) : Prop :=
  ∃ command context, Reading.on (loadAcceptanceContext command) db = .ok context ∧ context.network = network ∧
    context.providerProfileId = providerProfileId

/-- The enabled networks. -/
def enabledNetworks (db : ControlDb) : List NetworkRow := db.networks.filter NetworkRow.enabled

/-- Every enabled network is shown once, and with every profile that it is accepted with. -/
structure ShowsNetworks (db : ControlDb) (shown : List NetworkView) : Prop where
  once : (shown.map NetworkView.network).Perm (enabledNetworks db)
  paired : ∀ network providerProfileId, Allowed db network providerProfileId →
    ⟨network, some providerProfileId⟩ ∈ shown

/-- Following the pages shows the networks, at every limit and in every order of the
    rows of a network. -/
def Complete (pg : Postgres) (db : ControlDb) : Prop :=
  ∀ (arrangement : Arrangement pg.collation JoinedRow.id) (limit : Nat), 1 ≤ limit →
    ∃ shown, ShowsNetworks db shown ∧
      Walk (fun cursor => (listNetworks arrangement db.toCatalog ⟨limit, cursor⟩).map fun page => (page.items, page.nextCursor))
        none shown

/-- No enabled network is referred to by two profiles. -/
def ReferredOnce (db : ControlDb) : Prop :=
  ∀ network ∈ enabledNetworks db, (db.providerProfiles.filter (·.networkId = network.id)).length ≤ 1

/-! ### What acceptance allows -/

theorem allowed_spec {db : ControlDb} {network : NetworkRow} {providerProfileId : String}
    (allowed : Allowed db network providerProfileId) : network ∈ enabledNetworks db ∧
      ∃ profile ∈ db.providerProfiles, profile.id = providerProfileId ∧ profile.networkId = network.id := by
  obtain ⟨command, context, loaded, rfl, rfl⟩ := allowed
  obtain ⟨_, read, loaded⟩ := Programs.Program.answered_bind_ok loaded
  cases read
  split at loaded
  next => cases loaded
  next project found =>
    split at loaded
    next => cases loaded
    next =>
      obtain ⟨_, read, loaded⟩ := Programs.Program.answered_bind_ok loaded
      cases read
      obtain ⟨_, read, loaded⟩ := Programs.Program.answered_bind_ok loaded
      cases read
      obtain ⟨_, read, loaded⟩ := Programs.Program.answered_bind_ok loaded
      cases read
      obtain ⟨_, read, loaded⟩ := Programs.Program.answered_bind_ok loaded
      cases read
      split at loaded
      next image profile flavor network quota listed offered attached _ =>
        split at loaded
        next => cases loaded
        next =>
          split at loaded
          next => cases loaded
          next shared =>
            cases loaded
            obtain ⟨attached, enabled⟩ := Option.filter_eq_some_iff.1 attached
            obtain ⟨image_, -, routed⟩ := Option.bind_eq_some_iff.1 (Option.filter_eq_some_iff.1 listed).1
            obtain ⟨profile_, referred, same⟩ := Option.map_eq_some_iff.1 routed
            obtain ⟨-, rfl⟩ := Prod.mk.inj same
            exact ⟨List.mem_filter.2 ⟨find_mem attached, enabled⟩, profile_, find_mem referred, rfl, not_not.1 shared⟩
      next => cases loaded

/-! ### The joined rows -/

section
variable {db : ControlDb}

/-- The rows that are listed. -/
def listedRows (db : ControlDb) : List JoinedRow := (leftJoin db.toCatalog).filter fun row => row.1.enabled

theorem joined_network {profiles : List ProviderProfileRow} {network : NetworkRow} {row : JoinedRow}
    (listed : row ∈ joined profiles network) : row.1 = network := by
  unfold joined at listed
  split at listed
  next =>
    obtain rfl := List.mem_singleton.1 listed
    rfl
  next =>
    obtain ⟨profile, -, rfl⟩ := List.mem_map.1 listed
    rfl

theorem listedRows_eq : listedRows db = (enabledNetworks db).flatMap (joined db.providerProfiles) := by
  have rows : ∀ networks : List NetworkRow, (networks.flatMap (joined db.providerProfiles)).filter (fun row => row.1.enabled) =
      (networks.filter NetworkRow.enabled).flatMap (joined db.providerProfiles) := by
    intro networks
    induction networks with
    | nil => rfl
    | cons network networks ih =>
      rw [List.flatMap_cons, List.filter_append, ih]
      cases enabled : network.enabled with
      | true =>
        have all : (joined db.providerProfiles network).filter (fun row => row.1.enabled) = joined db.providerProfiles network :=
          List.filter_eq_self.2 fun row listed => by rw [joined_network listed, enabled]
        rw [all, List.filter_cons_of_pos enabled, List.flatMap_cons]
      | false =>
        have none : (joined db.providerProfiles network).filter (fun row => row.1.enabled) = [] :=
          List.filter_eq_nil_iff.2 fun row listed => by rw [joined_network listed, enabled]; decide
        rw [none, List.filter_cons_of_neg (by simp [enabled]), List.nil_append]
  exact rows db.networks

/-- A network that is referred to once at most has one row. -/
theorem joined_single {profiles : List ProviderProfileRow} {network : NetworkRow}
    (once : (profiles.filter (·.networkId = network.id)).length ≤ 1) : ∃ profile, joined profiles network = [(network, profile)] := by
  cases referring : profiles.filter (·.networkId = network.id) with
  | nil => exact ⟨none, by rw [joined, referring]⟩
  | cons profile rest =>
    rw [referring, List.length_cons] at once
    obtain rfl : rest = [] := List.length_eq_zero_iff.1 (by omega)
    exact ⟨some profile.id, by rw [joined, referring]; rfl⟩

theorem listedRows_networks (once : ReferredOnce db) : (listedRows db).map Prod.fst = enabledNetworks db := by
  rw [listedRows_eq]
  have rows : ∀ networks : List NetworkRow, (∀ network ∈ networks, (db.providerProfiles.filter (·.networkId = network.id)).length ≤ 1) →
      (networks.flatMap (joined db.providerProfiles)).map Prod.fst = networks := by
    intro networks once
    induction networks with
    | nil => rfl
    | cons network networks ih =>
      rw [List.forall_mem_cons] at once
      obtain ⟨profile, single⟩ := joined_single once.1
      rw [List.flatMap_cons, List.map_append, ih once.2, single]
      rfl
  exact rows _ once

/-- A profile that refers to an enabled network has a row with it. -/
theorem mem_listedRows {network : NetworkRow} {profile : ProviderProfileRow} (enabled : network ∈ enabledNetworks db)
    (listed : profile ∈ db.providerProfiles) (refers : profile.networkId = network.id) :
    (network, some profile.id) ∈ listedRows db := by
  rw [listedRows_eq]
  refine List.mem_flatMap.2 ⟨network, enabled, ?_⟩
  have referring : profile ∈ db.providerProfiles.filter (·.networkId = network.id) := List.mem_filter.2 ⟨listed, by simpa using refers⟩
  unfold joined
  split
  next none =>
    rw [none] at referring
    cases referring
  next => exact List.mem_map.2 ⟨profile, referring, rfl⟩

/-- A network that is referred to twice has two rows. -/
theorem listedRows_twice {network : NetworkRow} (enabled : network ∈ enabledNetworks db)
    (twice : 1 < (db.providerProfiles.filter (·.networkId = network.id)).length) : ¬ ((listedRows db).map Prod.fst).Nodup := by
  obtain ⟨before, after, split⟩ := List.append_of_mem enabled
  have rows : joined db.providerProfiles network =
      (db.providerProfiles.filter (·.networkId = network.id)).map fun profile => (network, some profile.id) := by
    unfold joined
    split
    next none =>
      rw [none] at twice
      exact absurd twice (by decide)
    next => rfl
  rw [listedRows_eq, split, List.flatMap_append, List.flatMap_cons, rows]
  intro distinct
  simp only [List.map_append, List.map_map, Function.comp_def, List.map_const'] at distinct
  have own := (List.nodup_append.1 (List.nodup_append.1 distinct).2.1).1
  have short := List.nodup_replicate.1 own
  omega

theorem enabledNetworks_nodup (installed : Installed) : (enabledNetworks installed.db).Nodup :=
  (List.Nodup.of_map NetworkRow.id installed.networkIds).sublist List.filter_sublist

end

/-! ### Completeness -/

theorem complete_of_once (pg : Postgres) {installed : Installed} (once : ReferredOnce installed.db) :
    NetworkListing.Complete pg installed.db := by
  intro arrangement limit positive
  have networks := listedRows_networks once
  have distinct : ((listedRows installed.db).map JoinedRow.id).Nodup := by
    have ids : (listedRows installed.db).map JoinedRow.id = ((listedRows installed.db).map Prod.fst).map NetworkRow.id := by
      rw [List.map_map]
      rfl
    rw [ids, networks]
    exact installed.networkIds.sublist (List.filter_sublist.map NetworkRow.id)
  have slug : ∀ row ∈ listedRows installed.db, isSlugText (JoinedRow.id row) = true := by
    intro row listed
    have member : row.1 ∈ enabledNetworks installed.db := networks ▸ List.mem_map_of_mem listed
    exact installed.networkSlugs row.1 (List.mem_of_mem_filter member)
  have readable : ∀ row ∈ listedRows installed.db,
      seekAscending (encodePageCursor (catalogPosition JoinedRow.id row)) = .ok (JoinedRow.id row) := by
    intro row listed
    rw [seekAscending, decode_catalog (slug row listed)]
    rfl
  have complete := complete_of_rows arrangement JoinedRow.view distinct readable (fun row listed => decode_catalog (slug row listed)) positive
  obtain ⟨ordered, perm, -, walk⟩ := complete.walk
  refine ⟨ordered.map JoinedRow.view, ⟨?_, fun network providerProfileId allowed => ?_⟩, (walk _).2 rfl⟩
  · have shown : (ordered.map JoinedRow.view).map NetworkView.network = ordered.map Prod.fst := by
      rw [List.map_map]
      rfl
    rw [shown, ← networks]
    exact perm.map Prod.fst
  · obtain ⟨enabled, profile, listed, rfl, refers⟩ := allowed_spec allowed
    refine List.mem_map.2 ⟨(network, some profile.id), perm.mem_iff.2 (mem_listedRows enabled listed refers), ?_⟩
    have named : profile.id ≠ "" := by
      intro empty
      have slug := installed.profileSlugs profile listed
      rw [empty] at slug
      exact absurd slug (by decide)
    simp [JoinedRow.view, named]

/-- On a page that has room for every row, a network that is referred to twice is
    there twice. -/
theorem once_of_complete {pg : Postgres} {installed : Installed} (complete : NetworkListing.Complete pg installed.db) :
    ReferredOnce installed.db := by
  intro network enabled
  by_contra twice
  let arrangement := pg.collation.stable JoinedRow.id
  obtain ⟨shown, shows, walk⟩ := complete arrangement ((listedRows installed.db).length + 1) (Nat.le_add_left 1 _)
  have whole : arrangement.arrange (listedRows installed.db) = fetch arrangement none ((listedRows installed.db).length + 2) (listedRows installed.db) := by
    have length := (arrangement.perm (listedRows installed.db)).length_eq
    rw [fetch_first, List.take_of_length_le (by omega)]
  have first : (listNetworks arrangement installed.db.toCatalog ⟨(listedRows installed.db).length + 1, none⟩).map
      (fun page => (page.items, page.nextCursor)) = .ok ((arrangement.arrange (listedRows installed.db)).map JoinedRow.view, none) := by
    have length := (arrangement.perm (listedRows installed.db)).length_eq
    have trimmed : paginate (fetch arrangement none ((listedRows installed.db).length + 2) (listedRows installed.db))
        ((listedRows installed.db).length + 1) (catalogPosition JoinedRow.id) = (arrangement.arrange (listedRows installed.db), none) := by
      rw [← whole, paginate, SeekPages.trim, if_pos (by omega)]
    have rows : listRows arrangement seekAscending (catalogPosition JoinedRow.id) (listedRows installed.db)
        ((listedRows installed.db).length + 1) none = .ok (arrangement.arrange (listedRows installed.db), none) :=
      congrArg Except.ok trimmed
    rw [listNetworks]
    show ((Except.map _ (listRows arrangement seekAscending (catalogPosition JoinedRow.id) (listedRows installed.db)
      ((listedRows installed.db).length + 1) none)).map _) = _
    rw [rows]
    rfl
  obtain rfl := walk.unique (.last first)
  have perm := shows.once
  have networks : ((arrangement.arrange (listedRows installed.db)).map JoinedRow.view).map NetworkView.network =
      (arrangement.arrange (listedRows installed.db)).map Prod.fst := by
    rw [List.map_map]
    rfl
  rw [networks] at perm
  have distinct : ((listedRows installed.db).map Prod.fst).Nodup :=
    (((arrangement.perm (listedRows installed.db)).map Prod.fst).symm.trans perm).nodup_iff.2 (enabledNetworks_nodup installed)
  exact listedRows_twice enabled (Nat.lt_of_not_le twice) distinct

/-- The networks are listed right, at every limit, exactly if no enabled network is
    referred to by two profiles. -/
theorem complete_iff (pg : Postgres) (installed : Installed) :
    NetworkListing.Complete pg installed.db ↔ ReferredOnce installed.db :=
  ⟨once_of_complete, complete_of_once pg⟩

/-- A network that two active profiles refer to. -/
def sharedNetwork : NetworkRow := ⟨"lab", "10.0.0.0/24", "10.0.0.1", ["10.0.0.2"], [], true⟩

def sharedDb : ControlDb :=
  { networks := [sharedNetwork],
    providerProfiles := [⟨"proxmox-one", .active, "lab"⟩, ⟨"proxmox-two", .active, "lab"⟩] }

def sharedInstallation : Installed := ⟨sharedDb, by decide, by decide, by decide, by decide⟩

/-- Two profiles refer to one network. At a limit of 2 it is listed twice, and at a
    limit of 1 once, with one of them and no page behind it. -/
theorem shared_network :
    let arrangement := samplePostgres.collation.stable JoinedRow.id
    let first : NetworkView := ⟨sharedNetwork, some "proxmox-one"⟩
    let cursor := encodePageCursor ⟨"lab", "lab"⟩
    listNetworks arrangement sharedDb.toCatalog ⟨2, none⟩ = .ok ⟨[first, ⟨sharedNetwork, some "proxmox-two"⟩], 2, none⟩ ∧
      listNetworks arrangement sharedDb.toCatalog ⟨1, none⟩ = .ok ⟨[first], 1, some cursor⟩ ∧
      listNetworks arrangement sharedDb.toCatalog ⟨1, some cursor⟩ = .ok ⟨[], 1, none⟩ ∧
      ¬ NetworkListing.Complete samplePostgres sharedInstallation.db := by
  refine ⟨by decide +kernel, by decide +kernel, by decide +kernel, fun complete => ?_⟩
  exact absurd (once_of_complete complete sharedNetwork (by decide)) (by decide)

end ControlPlane.NetworkListing
