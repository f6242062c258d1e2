import ControlPlane.ControlSchema
import ControlPlane.PageCursor

/-!
The paginated listings. A projection is ordered by the time of the last update, the
most recent first, and then by identifier; a catalog table is ordered by identifier.
Following the cursors from the first page shows every row once
(`pagination_complete`), and each of these cursors is read back as the position of
the row that it was made from.
-/
namespace ControlPlane.Listings
open ControlPlane.Texts ControlPlane.Domain ControlPlane.ControlSchema ControlPlane.RequestValidation ControlPlane.IsoDates
open ControlPlane.JsonTexts ControlPlane.TextEncodings ControlPlane.PageCursor ControlPlane.SeekPages

/-! ### The database -/

/-- What the queries use of the database: the instant, in microseconds, and the
    identifier that it reads from texts, and its orders. -/
structure Postgres where
  timestamptz : String → Option Int
  uuid : String → Option Uuid
  uuidOrder : Order Uuid
  collation : Order String

/-- A row of a projection that is listed. -/
structure ProjectedRow (δ : Type) where
  id : { text : Uuid // isUuidText text = true }
  projectId : Uuid
  updatedAt : TimeValue
  document : δ

structure PageRequest where
  limit : Nat
  cursor : Option String := none

structure Page (δ : Type) where
  items : List δ
  limit : Nat
  nextCursor : Option String
  deriving DecidableEq

/-- What ends a listing: a refusal, or an error of the database. -/
inductive Failure
  | refused (error : DomainError)
  | invalidText
  deriving DecidableEq

section
variable (pg : Postgres) {α δ κ : Type}

/-! ### Listings -/

/-- The columns that order a projection. -/
def ProjectedRow.key (row : ProjectedRow δ) : Int × Uuid := (1000 * row.updatedAt.milliseconds, row.id.1)

/-- `(sort, id) < (sort, id)`, which the descending order of both columns follows. -/
def descending : Order (Int × Uuid) where
  before left right := right.1 < left.1 || (right.1 = left.1 && pg.uuidOrder.before right.2 left.2)
  irrefl a := by simp [pg.uuidOrder.irrefl]
  trans := by
    intro a b c first second
    simp only [Bool.or_eq_true, Bool.and_eq_true, decide_eq_true_eq] at *
    rcases first with first | ⟨same, first⟩ <;> rcases second with second | ⟨same_, second⟩
    · exact Or.inl (Int.lt_trans second first)
    · exact Or.inl (same_ ▸ first)
    · exact Or.inl (same ▸ second)
    · exact Or.inr ⟨same_.trans same, pg.uuidOrder.trans second first⟩
  total := by
    intro a b differs
    simp only [Bool.or_eq_true, Bool.and_eq_true, decide_eq_true_eq]
    by_cases same : a.1 = b.1
    · have ids : a.2 ≠ b.2 := fun ids => differs (Prod.ext same ids)
      rcases pg.uuidOrder.total ids with before | before
      · exact Or.inr (Or.inr ⟨same, before⟩)
      · exact Or.inl (Or.inr ⟨same.symm, before⟩)
    · rcases Int.lt_or_gt_of_ne same with less | greater
      · exact Or.inr (Or.inl less)
      · exact Or.inl (Or.inl greater)

/-- The position behind which a projection is read. -/
def seekDescending (cursor : String) : Except Failure (Int × Uuid) :=
  match decodePageCursor cursor with
  | .error error => .error (.refused error)
  | .ok position =>
    match pg.timestamptz position.sortKey, pg.uuid position.id with
    | some sortKey, some id => .ok (sortKey, id)
    | _, _ => .error .invalidText

/-- The identifier behind which a table of the catalog is read. -/
def seekAscending (cursor : String) : Except Failure String :=
  match decodePageCursor cursor with
  | .error error => .error (.refused error)
  | .ok position => .ok position.id

/-- `Boolean(page.cursor)`, and the position that a cursor names. -/
def seek (read : String → Except Failure κ) (cursor : Option String) : Except Failure (Option κ) :=
  match cursor.filter (· ≠ "") with
  | none => .ok none
  | some cursor => (read cursor).map some

/-- A page of ordered rows. -/
def listRows {order : Order κ} {key : α → κ} (arrangement : Arrangement order key) (read : String → Except Failure κ)
    (position : α → Position) (rows : List α) (limit : Nat) (cursor : Option String) : Except Failure (List α × Option String) :=
  (seek read cursor).map fun after => paginate (fetch arrangement after (limit + 1) rows) limit position

/-- The page that is answered. -/
def page (request : PageRequest) (document : α → δ) (trimmed : List α × Option String) : Page δ :=
  { items := trimmed.1.map document, limit := request.limit, nextCursor := trimmed.2 }

/-- The position of a row of a projection. -/
def ProjectedRow.position (row : ProjectedRow δ) : Position := ⟨row.updatedAt.text, row.id.1⟩

/-- The position of a row of the catalog. -/
def catalogPosition (id : α → String) (row : α) : Position := ⟨id row, id row⟩

/-- A page of a projection. -/
def listProjected (rows : List (ProjectedRow δ)) (request : PageRequest) : Except Failure (Page δ) :=
  (listRows ((descending pg).stable ProjectedRow.key) (seekDescending pg) ProjectedRow.position rows request.limit
    request.cursor).map (page request ProjectedRow.document)

/-- A page of the enabled rows of a table of the catalog. -/
def listCatalog (id : α → String) (enabled : α → Bool) (rows : List α) (request : PageRequest) : Except Failure (Page α) :=
  (listRows (pg.collation.stable id) seekAscending (catalogPosition id) (rows.filter enabled) request.limit
    request.cursor).map (page request fun row => row)

/-- The projections that are listed. -/
structure Projections where
  instances : List (ProjectedRow InstanceView)
  operations : List (ProjectedRow OperationView)

def listInstances (projections : Projections) (projectId : Uuid) (request : PageRequest) : Except Failure (Page InstanceView) :=
  listProjected pg (projections.instances.filter (·.projectId = projectId)) request

def listOperations (projections : Projections) (projectId : Uuid) (request : PageRequest) :
    Except Failure (Page OperationView) :=
  listProjected pg (projections.operations.filter (·.projectId = projectId)) request

def listImages (catalog : Catalog) (request : PageRequest) : Except Failure (Page ImageRow) :=
  listCatalog pg ImageRow.id ImageRow.enabled catalog.images request

def listFlavors (catalog : Catalog) (request : PageRequest) : Except Failure (Page FlavorRow) :=
  listCatalog pg FlavorRow.id FlavorRow.enabled catalog.flavors request

end

/-! ### Positions that are read back -/

theorem plain_iff_all {text : List Char} : Plain text ↔ text.all isPlain = true := List.all_eq_true.symm

theorem plain_padded (width value : Nat) : Plain (padded width value) := by
  have digit : ∀ digit < 10, isPlain (Char.ofNat ('0'.toNat + digit)) = true := by decide +kernel
  induction width generalizing value with
  | zero => exact nofun
  | succ width ih => exact plain_append (ih (value / 10)) (plain_cons (digit _ (Nat.mod_lt _ (by decide))) nofun)

theorem plain_dayText (month day ofDay : Nat) : Plain (dayText month day ofDay) := by
  refine plain_cons (by decide) (plain_append (plain_padded _ _) (plain_cons (by decide) (plain_append (plain_padded _ _) ?_)))
  refine plain_cons (by decide) (plain_append (plain_padded _ _) (plain_cons (by decide) (plain_append (plain_padded _ _) ?_)))
  refine plain_cons (by decide) (plain_append (plain_padded _ _) (plain_cons (by decide) (plain_append (plain_padded _ _) ?_)))
  exact plain_cons (by decide) nofun

/-- The text of a time value is plain, and short. -/
theorem isoText_plain (time : TimeValue) : Plain time.text.toList ∧ 0 < time.text.toList.length ∧ time.text.toList.length ≤ 128 := by
  rw [TimeValue.text, String.toList_ofList, isoText]
  have year : ∀ year : Int, Plain (yearText year) ∧ (yearText year).length ≤ 7 := by
    intro year
    unfold yearText
    split
    · exact ⟨plain_padded _ _, by simp⟩
    · refine ⟨plain_cons ?_ (plain_padded _ _), by simp⟩
      split <;> decide
  have day : ∀ month day ofDay : Nat, (dayText month day ofDay).length = 20 := by simp [dayText]
  refine ⟨plain_append (year _).1 (plain_dayText _ _ _), ?_, ?_⟩
  · simp [day]
  · have long := (year (civilOf (time.milliseconds / dayMs)).year).2
    simp only [List.length_append, day]
    omega

/-- The lengths of the parts of a text and the separators between them. -/
theorem splitChars_length (separator : Char) (text : List Char) :
    ((splitChars separator text).map fun part => part.length + 1).sum = text.length + 1 := by
  induction text with
  | nil => rfl
  | cons c text ih =>
    by_cases same : c = separator
    · rw [splitChars, if_pos same, List.map_cons, List.sum_cons, ih, List.length_nil, List.length_cons]
      omega
    · rw [splitChars, if_neg same]
      cases parts : splitChars separator text with
      | nil => simp [parts] at ih
      | cons part others =>
        rw [parts, List.map_cons, List.sum_cons] at ih
        simp only [List.map_cons, List.sum_cons, List.length_cons]
        omega

theorem mem_splitChars {separator c : Char} {text : List Char} (listed : c ∈ text) :
    c = separator ∨ ∃ part ∈ splitChars separator text, c ∈ part := by
  induction text with
  | nil => cases listed
  | cons d text ih =>
    by_cases same : d = separator
    · rw [splitChars, if_pos same]
      rcases List.mem_cons.1 listed with rfl | later
      · exact Or.inl same
      · rcases ih later with rfl | ⟨part, inside, own⟩
        · exact Or.inl rfl
        · exact Or.inr ⟨part, List.mem_cons_of_mem _ inside, own⟩
    · rw [splitChars, if_neg same]
      cases parts : splitChars separator text with
      | nil =>
        have total := splitChars_length separator text
        simp [parts] at total
      | cons part others =>
        rcases List.mem_cons.1 listed with rfl | later
        · exact Or.inr ⟨c :: part, List.mem_cons_self, List.mem_cons_self⟩
        · rcases ih later with rfl | ⟨other, inside, own⟩
          · exact Or.inl rfl
          · rw [parts] at inside
            rcases List.mem_cons.1 inside with rfl | inside
            · exact Or.inr ⟨d :: other, List.mem_cons_self, List.mem_cons_of_mem d own⟩
            · exact Or.inr ⟨other, List.mem_cons_of_mem _ inside, own⟩

theorem hexDigit_plain {c : Char} (digit : isHexDigit c = true) : isPlain c = true := by
  simp only [isHexDigit, isPlain, isAlphanumeric, isLowerAlphanumeric, Bool.or_eq_true, Bool.and_eq_true, decide_eq_true_eq] at *
  obtain (decimal | ⟨least, most⟩) | ⟨least, most⟩ := digit
  · exact Or.inl (Or.inl (Or.inl (Or.inl (Or.inl (Or.inl decimal)))))
  · exact Or.inl (Or.inl (Or.inl (Or.inl (Or.inl (Or.inr ⟨least, Nat.le_trans most (by decide)⟩)))))
  · exact Or.inl (Or.inl (Or.inl (Or.inl (Or.inr ⟨least, Nat.le_trans most (by decide)⟩))))

/-- A UUID is plain, and of 36 characters. -/
theorem uuid_plain {text : Uuid} (uuid : isUuidText text = true) : Plain text.toList ∧ text.toList.length = 36 := by
  rw [isUuidText, characters_eq, Bool.and_eq_true] at uuid
  have groups := of_decide_eq_true uuid.1
  constructor
  · intro c listed
    rcases @mem_splitChars '-' c _ listed with rfl | ⟨part, inside, own⟩
    · decide
    · exact hexDigit_plain (List.all_eq_true.1 (List.all_eq_true.1 uuid.2 part inside) c own)
  · have total := splitChars_length '-' text.toList
    have sum : ((splitChars '-' text.toList).map fun part => part.length + 1).sum =
        (((splitChars '-' text.toList).map List.length).map (· + 1)).sum := by rw [List.map_map]; rfl
    rw [sum, groups] at total
    simpa using total.symm

/-- A slug is plain, and short. -/
theorem slug_plain {text : String} (slug : isSlugText text = true) :
    Plain text.toList ∧ 0 < text.toList.length ∧ text.toList.length ≤ 128 := by
  unfold isSlugText at slug
  split at slug
  next first rest whole =>
    simp only [Bool.and_eq_true, decide_eq_true_eq, List.all_eq_true, Bool.or_eq_true] at slug
    obtain ⟨⟨⟨opens, -⟩, short⟩, others⟩ := slug
    have letter : ∀ {c : Char}, isLowerAlphanumeric c = true → isPlain c = true := by
      intro c lower
      simp [isPlain, isAlphanumeric, lower]
    refine ⟨?_, ?_, ?_⟩
    · rw [whole]
      refine plain_cons (letter opens) fun c listed => ?_
      rcases others c listed with lower | rfl
      · exact letter lower
      · decide
    · rw [whole]
      exact Nat.succ_pos _
    · rw [whole, List.length_cons]
      omega
  next => cases slug

section
variable {δ : Type}

theorem decode_projected (row : ProjectedRow δ) : decodePageCursor (encodePageCursor row.position) = .ok row.position := by
  obtain ⟨plain, some_, short⟩ := isoText_plain row.updatedAt
  obtain ⟨plain_, length⟩ := uuid_plain row.id.2
  exact decode_plain plain plain_ ⟨some_, short, by rw [ProjectedRow.position, length]; decide, by rw [ProjectedRow.position, length]; decide⟩

theorem decode_catalog {α : Type} {id : α → String} {row : α} (slug : isSlugText (id row) = true) :
    decodePageCursor (encodePageCursor (catalogPosition id row)) = .ok (catalogPosition id row) := by
  obtain ⟨plain, some_, short⟩ := slug_plain slug
  exact decode_plain plain plain ⟨some_, short, some_, short⟩

/-- A cursor is not empty, which would stand for none. -/
theorem encodePageCursor_ne_empty (position : Position) : encodePageCursor position ≠ "" := by
  intro empty
  have length := congrArg (fun text => text.toList.length) empty
  have some_ : 0 < (encodeUtf8 (payload position).serialize).length := by
    have brace : utf8 '\x7b' = [123] := by decide
    rw [payload, Value.serialize, encodeUtf8, List.flatMap_cons, brace]
    exact Nat.succ_pos _
  simp only [encodePageCursor, String.toList_ofList, encodeBase64url_length, String.toList_empty, List.length_nil] at length
  omega

/-! ### Complete listings -/

/-- Following the cursors shows every row once, in one order, and every cursor that a
    page has is read back as the position of a row. -/
structure Complete {α δ κ : Type} (order : Order κ) (key : α → κ) (position : α → Position) (document : α → δ)
    (rows : List α) (limit : Nat) (list : PageRequest → Except Failure (Page δ)) : Prop where
  walk : ∃ ordered : List α, ordered.Perm rows ∧ (ordered.Pairwise fun a b => order.before (key a) (key b) = true) ∧
    ∀ shown, Walk (fun cursor => (list ⟨limit, cursor⟩).map fun page => (page.items, page.nextCursor)) none shown ↔
      shown = ordered.map document
  issued : ∀ request answer next, list request = .ok answer → answer.nextCursor = some next →
    ∃ row ∈ rows, next = encodePageCursor (position row) ∧ decodePageCursor next = .ok (position row)

theorem listRows_complete {α κ : Type} {order : Order κ} {key : α → κ} (arrangement : Arrangement order key)
    {read : String → Except Failure κ} {position : α → Position} {rows : List α} (distinct : (rows.map key).Nodup)
    (readable : ∀ row ∈ rows, read (encodePageCursor (position row)) = .ok (key row)) {limit : Nat} (positive : 1 ≤ limit) :
    Walk (listRows arrangement read position rows limit) none (arrangement.arrange rows) := by
  refine walk_arranged arrangement distinct positive (fun row => encodePageCursor (position row)) _ rfl fun row listed => ?_
  have some_ : (some (encodePageCursor (position row))).filter (· ≠ "") = some (encodePageCursor (position row)) := by
    simp [encodePageCursor_ne_empty]
  rw [listRows, seek, some_]
  show (((read (encodePageCursor (position row))).map some).map _) = _
  rw [readable row listed]
  rfl

/-- A cursor that a page has is made from a row. -/
theorem listRows_issued {α κ : Type} {order : Order κ} {key : α → κ} {arrangement : Arrangement order key}
    {read : String → Except Failure κ} {position : α → Position} {rows items : List α} {limit : Nat} {cursor next : Option String}
    (listed : listRows arrangement read position rows limit cursor = .ok (items, next)) :
    ∀ issued, next = some issued → ∃ row ∈ rows, issued = encodePageCursor (position row) := by
  rintro issued rfl
  rw [listRows] at listed
  cases sought : seek read cursor with
  | error failure =>
    rw [sought] at listed
    cases listed
  | ok after =>
    rw [sought] at listed
    have trimmed : paginate (fetch arrangement after (limit + 1) rows) limit position = (items, some issued) := Except.ok.inj listed
    rw [paginate, SeekPages.trim] at trimmed
    split at trimmed
    next => cases trimmed
    next =>
      obtain ⟨-, last⟩ := Prod.mk.inj trimmed
      obtain ⟨row, ends, rfl⟩ := Option.map_eq_some_iff.1 last
      refine ⟨row, ?_, rfl⟩
      have fetched := List.mem_of_mem_take (List.mem_of_mem_take (List.mem_of_getLast? ends))
      exact List.mem_of_mem_filter ((arrangement.perm _).mem_iff.1 fetched)

theorem complete_of_rows {α δ κ : Type} {order : Order κ} {key : α → κ} (arrangement : Arrangement order key)
    {read : String → Except Failure κ} {position : α → Position} {rows : List α} (document : α → δ)
    (distinct : (rows.map key).Nodup) (readable : ∀ row ∈ rows, read (encodePageCursor (position row)) = .ok (key row))
    (decoded : ∀ row ∈ rows, decodePageCursor (encodePageCursor (position row)) = .ok (position row)) {limit : Nat}
    (positive : 1 ≤ limit) : Complete order key position document rows limit fun request =>
      (listRows arrangement read position rows request.limit request.cursor).map (page request document) := by
  refine ⟨⟨arrangement.arrange rows, arrangement.perm rows, ?_, fun shown => ?_⟩, fun request answer next listed cursor => ?_⟩
  · exact strictly_sorted (((arrangement.perm rows).map key).nodup_iff.2 distinct) (arrangement.sorted rows)
  · have pages : (fun cursor => (((listRows arrangement read position rows limit cursor).map (page ⟨limit, cursor⟩ document)).map
        fun page => (page.items, page.nextCursor))) =
        fun cursor => (listRows arrangement read position rows limit cursor).map fun page => (page.1.map document, page.2) := by
      funext cursor
      cases listRows arrangement read position rows limit cursor <;> rfl
    have walk := (listRows_complete arrangement distinct readable positive).map document
    rw [pages]
    exact ⟨fun another => another.unique walk, fun same => same ▸ walk⟩
  · cases found : listRows arrangement read position rows request.limit request.cursor with
    | error failure =>
      rw [found] at listed
      cases listed
    | ok trimmed =>
      rw [found] at listed
      obtain rfl : page request document trimmed = answer := Except.ok.inj listed
      obtain ⟨row, member, rfl⟩ := listRows_issued found next cursor
      exact ⟨row, member, rfl, decoded row member⟩

section
variable {pg : Postgres} {limit : Nat}

/-- The database reads the columns of a row back from their texts. -/
def Readable (pg : Postgres) (row : ProjectedRow δ) : Prop :=
  pg.timestamptz row.updatedAt.text = some (1000 * row.updatedAt.milliseconds) ∧ pg.uuid row.id.1 = some row.id.1

theorem seekDescending_projected {row : ProjectedRow δ} (readable : Readable pg row) :
    seekDescending pg (encodePageCursor row.position) = .ok row.key := by
  have sortKey : pg.timestamptz row.position.sortKey = some (1000 * row.updatedAt.milliseconds) := readable.1
  have id : pg.uuid row.position.id = some row.id.1 := readable.2
  rw [seekDescending, decode_projected row]
  dsimp only
  rw [sortKey, id]
  rfl

theorem listProjected_complete {rows : List (ProjectedRow δ)} (distinct : (rows.map fun row => row.id.1).Nodup)
    (readable : ∀ row ∈ rows, Readable pg row) (positive : 1 ≤ limit) :
    Complete (descending pg) ProjectedRow.key ProjectedRow.position ProjectedRow.document rows limit (listProjected pg rows) := by
  have keys : (rows.map ProjectedRow.key).Nodup := by
    have second : (rows.map fun row => row.id.1) = (rows.map ProjectedRow.key).map Prod.snd := by
      rw [List.map_map]
      rfl
    rw [second] at distinct
    exact List.Nodup.of_map _ distinct
  exact complete_of_rows ((descending pg).stable ProjectedRow.key) ProjectedRow.document keys
    (fun row listed => seekDescending_projected (readable row listed)) (fun row _ => decode_projected row) positive

theorem listCatalog_complete {α : Type} {id : α → String} {enabled : α → Bool} {rows : List α} (distinct : (rows.map id).Nodup)
    (slugs : ∀ row ∈ rows, isSlugText (id row) = true) (positive : 1 ≤ limit) :
    Complete pg.collation id (catalogPosition id) (fun row => row) (rows.filter enabled) limit
      (listCatalog pg id enabled rows) := by
  have slug : ∀ row ∈ rows.filter enabled, isSlugText (id row) = true := fun row listed => slugs row (List.mem_of_mem_filter listed)
  refine complete_of_rows _ _ (distinct.sublist (List.filter_sublist.map id)) (fun row listed => ?_)
    (fun row listed => decode_catalog (slug row listed)) positive
  rw [seekAscending, decode_catalog (slug row listed)]
  rfl

end

/-- Contents of the tables: identifiers are primary keys, those of the catalog are
    slugs, and the database reads the columns of the projections back. -/
structure Stored (pg : Postgres) (projections : Projections) (catalog : Catalog) : Prop where
  instances : (projections.instances.map fun row => row.id.1).Nodup
  operations : (projections.operations.map fun row => row.id.1).Nodup
  images : (catalog.images.map ImageRow.id).Nodup
  flavors : (catalog.flavors.map FlavorRow.id).Nodup
  imageSlugs : ∀ row ∈ catalog.images, isSlugText row.id = true
  flavorSlugs : ∀ row ∈ catalog.flavors, isSlugText row.id = true
  readInstances : ∀ row ∈ projections.instances, Readable pg row
  readOperations : ∀ row ∈ projections.operations, Readable pg row

/-- Every listing shows each of its rows once, however many share a time and wherever
    the pages end. -/
theorem pagination_complete {pg : Postgres} {projections : Projections} {catalog : Catalog} (stored : Stored pg projections catalog)
    (projectId : Uuid) {limit : Nat} (positive : 1 ≤ limit) :
    Complete (descending pg) ProjectedRow.key ProjectedRow.position ProjectedRow.document
        (projections.instances.filter (·.projectId = projectId)) limit (listInstances pg projections projectId) ∧
      Complete (descending pg) ProjectedRow.key ProjectedRow.position ProjectedRow.document
        (projections.operations.filter (·.projectId = projectId)) limit (listOperations pg projections projectId) ∧
      Complete pg.collation ImageRow.id (catalogPosition ImageRow.id) (fun row => row)
        (catalog.images.filter ImageRow.enabled) limit (listImages pg catalog) ∧
      Complete pg.collation FlavorRow.id (catalogPosition FlavorRow.id) (fun row => row)
        (catalog.flavors.filter FlavorRow.enabled) limit (listFlavors pg catalog) := by
  refine ⟨?_, ?_, listCatalog_complete stored.images stored.imageSlugs positive,
    listCatalog_complete stored.flavors stored.flavorSlugs positive⟩
  · exact listProjected_complete (stored.instances.sublist (List.filter_sublist.map _))
      (fun row listed => stored.readInstances row (List.mem_of_mem_filter listed)) positive
  · exact listProjected_complete (stored.operations.sublist (List.filter_sublist.map _))
      (fun row listed => stored.readOperations row (List.mem_of_mem_filter listed)) positive

end

/-- Whether a text comes first in the order of the code points. -/
def precedes : List Char → List Char → Bool
  | _, [] => false
  | [], _ :: _ => true
  | a :: left, b :: right => a.toNat < b.toNat || (a = b && precedes left right)

theorem precedes_irrefl (text : List Char) : precedes text text = false := by
  induction text with
  | nil => rfl
  | cons c text ih => simp [precedes, ih]

theorem precedes_trans {a b c : List Char} (first : precedes a b = true) (second : precedes b c = true) : precedes a c = true := by
  induction a generalizing b c with
  | nil =>
    cases c with
    | nil => cases b <;> cases second
    | cons _ _ => rfl
  | cons x a ih =>
    cases b with
    | nil => cases first
    | cons y b =>
      cases c with
      | nil => cases second
      | cons z c =>
        simp only [precedes, Bool.or_eq_true, Bool.and_eq_true, decide_eq_true_eq] at *
        rcases first with first | ⟨rfl, first⟩ <;> rcases second with second | ⟨rfl, second⟩
        · exact Or.inl (Nat.lt_trans first second)
        · exact Or.inl first
        · exact Or.inl second
        · exact Or.inr ⟨rfl, ih first second⟩

theorem precedes_total {a b : List Char} (differs : a ≠ b) : precedes a b = true ∨ precedes b a = true := by
  induction a generalizing b with
  | nil =>
    cases b with
    | nil => exact absurd rfl differs
    | cons _ _ => exact Or.inl rfl
  | cons x a ih =>
    cases b with
    | nil => exact Or.inr rfl
    | cons y b =>
      simp only [precedes, Bool.or_eq_true, Bool.and_eq_true, decide_eq_true_eq]
      by_cases same : x = y
      · subst same
        rcases ih (fun rest => differs (congrArg (x :: ·) rest)) with before | before
        · exact Or.inl (Or.inr ⟨rfl, before⟩)
        · exact Or.inr (Or.inr ⟨rfl, before⟩)
      · have codes : x.toNat ≠ y.toNat := fun codes => same (Char.toNat_inj.1 codes)
        omega

/-- The order of the code points. -/
def codePoints : Order String where
  before left right := precedes left.toList right.toList
  irrefl text := precedes_irrefl text.toList
  trans := precedes_trans
  total differs := precedes_total fun same => differs (String.toList_injective same)

/-- A database that reads the texts that were written and no others. -/
def samplePostgres : Postgres :=
  { timestamptz := fun text => (ofISOString text).map (1000 * ·), uuid := some, uuidOrder := codePoints, collation := codePoints }

theorem samplePostgres_readable {δ : Type} (row : ProjectedRow δ) : Readable samplePostgres row := by
  simp only [Readable, samplePostgres, TimeValue.ofISOString_text, Option.map_some, and_self]

/-- A row of an operation, for any two of which the time is the same. -/
def sampleRow (id : Uuid) (uuid : isUuidText id = true) : ProjectedRow OperationView :=
  { id := ⟨id, uuid⟩, projectId := "00000000-0000-4000-8000-0000000000a1", updatedAt := ⟨1000, by decide⟩,
    document :=
      { id := id, projectId := "00000000-0000-4000-8000-0000000000a1", action := .powerInstance, targetType := .instance_,
        targetId := "00000000-0000-4000-8000-0000000000b1", state := .accepted, stage := .stage .accepted, progressPercent := 0,
        acceptedAt := 1000, updatedAt := 1000 } }

def sampleProjections : Projections :=
  { instances := [],
    operations := [sampleRow "00000000-0000-4000-8000-0000000000c1" (by decide),
      sampleRow "00000000-0000-4000-8000-0000000000c2" (by decide)] }

def sampleCatalog : Catalog :=
  { images := [⟨"debian-12", "proxmox", true⟩, ⟨"debian-13", "proxmox", true⟩], flavors := [⟨"small", 1, 1024, 10, true⟩] }

theorem sample_stored : Stored samplePostgres sampleProjections sampleCatalog where
  instances := by decide
  operations := by decide
  images := by decide
  flavors := by decide
  imageSlugs := by decide
  flavorSlugs := by decide
  readInstances row _ := samplePostgres_readable row
  readOperations row _ := samplePostgres_readable row

theorem sample_complete :
    Complete (descending samplePostgres) ProjectedRow.key ProjectedRow.position ProjectedRow.document
        (sampleProjections.operations.filter (·.projectId = "00000000-0000-4000-8000-0000000000a1")) 1
        (listOperations samplePostgres sampleProjections "00000000-0000-4000-8000-0000000000a1") :=
  (pagination_complete sample_stored "00000000-0000-4000-8000-0000000000a1" (Nat.le_refl 1)).2.1

end ControlPlane.Listings
