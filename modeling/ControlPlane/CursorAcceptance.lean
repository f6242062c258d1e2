import ControlPlane.Listings

/-!
The cursors that a listing takes. A cursor is refused if it is too long, says no
JSON, or says no version and two components; what is not refused need not have been
issued. Base 64 is read loosely, so is JSON, an empty cursor stands for none, and
what the components are is left to the query (`cursor_met_iff`).
-/
namespace ControlPlane.CursorAcceptance
open ControlPlane.Texts ControlPlane.Domain ControlPlane.RequestValidation ControlPlane.JsonTexts ControlPlane.JsonReading
open ControlPlane.TextEncodings ControlPlane.PageCursor ControlPlane.Listings

/-! ### What a request may be told -/

/-- A cursor that a projection issues. -/
def IssuedProjected (pg : Postgres) (cursor : String) : Prop :=
  ∃ row : ProjectedRow Unit, Readable pg row ∧ cursor = encodePageCursor row.position

/-- A cursor that a table of the catalog issues. -/
def IssuedCatalog (cursor : String) : Prop :=
  ∃ slug, isSlugText slug = true ∧ cursor = encodePageCursor ⟨slug, slug⟩

/-- A page of a projection is refused, or its cursor is one that a projection issues. -/
def MetProjected {δ : Type} (pg : Postgres) (rows : List (ProjectedRow δ)) (limit : Nat) (cursor : String) : Prop :=
  listProjected pg rows ⟨limit, some cursor⟩ = .error (.refused invalidCursor) ∨ IssuedProjected pg cursor

/-- A page of the catalog is refused, or its cursor is one that the catalog issues. -/
def MetCatalog {α : Type} (pg : Postgres) (id : α → String) (enabled : α → Bool) (rows : List α) (limit : Nat)
    (cursor : String) : Prop :=
  listCatalog pg id enabled rows ⟨limit, some cursor⟩ = .error (.refused invalidCursor) ∨ IssuedCatalog cursor

/-! ### How a cursor is written -/

/-- A cursor that the decoder cannot read: it is too long, or its text is no JSON, or
    that has no version or not two components. -/
def Unreadable (cursor : String) : Prop :=
  maximumCursorLength < utf16Length cursor ∨
    ∀ json, parse (cursorText cursor) = some json →
      isVersion (json.property "v") = false ∨ component (json.property "s") = none ∨ component (json.property "i") = none

/-- A cursor is written without a choice: in digits of the alphabet of URLs, with no
    padding, nothing between them and no bits to spare; its bytes are UTF-8; and the
    text has the three members once, in their order and with no white space, the
    version as `1`, and the components with no escapes but the necessary ones. -/
structure Spelled (cursor : String) (position : Position) : Prop where
  digits : cursor.toList = encodeBase64url (decodeBase64url cursor.toList)
  bytes : decodeBase64url cursor.toList = encodeUtf8 (cursorText cursor)
  text : cursorText cursor =
    "\x7b\"v\":1,\"s\":".toList ++ (quoted position.sortKey ++ (",\"i\":".toList ++ (quoted position.id ++ "\x7d".toList)))

/-- The position is one of a row of a projection. -/
def OfProjection (pg : Postgres) (position : Position) : Prop :=
  ∃ row : ProjectedRow Unit, Readable pg row ∧ position.sortKey = row.updatedAt.text ∧ position.id = row.id.1

/-- The position is one of a row of the catalog. -/
def OfCatalog (position : Position) : Prop := isSlugText position.id = true ∧ position.sortKey = position.id

theorem decode_error_iff {cursor : String} :
    decodePageCursor cursor = .error invalidCursor ↔ cursor = "" ∨ Unreadable cursor := by
  have empty : utf16Length cursor = 0 ↔ cursor = "" := by
    constructor
    · intro none
      apply String.toList_injective
      rw [utf16Length, characters_eq] at none
      cases characters : cursor.toList with
      | nil => rfl
      | cons c rest =>
        rw [characters, List.map_cons, List.sum_cons] at none
        split at none <;> omega
    · rintro rfl
      rfl
  rw [decodePageCursor, ← empty]
  by_cases bounded : (utf16Length cursor = 0 || maximumCursorLength < utf16Length cursor) = true
  · rw [if_pos bounded]
    rw [Bool.or_eq_true, decide_eq_true_eq, decide_eq_true_eq] at bounded
    exact iff_of_true rfl (bounded.imp_right Or.inl)
  · rw [if_neg bounded]
    rw [Bool.or_eq_true, decide_eq_true_eq, decide_eq_true_eq, not_or] at bounded
    have refused : (parse (cursorText cursor)).bind positionOf = none ↔
        ∀ json, parse (cursorText cursor) = some json →
          isVersion (json.property "v") = false ∨ component (json.property "s") = none ∨ component (json.property "i") = none := by
      rw [Option.bind_eq_none_iff]
      refine forall_congr' fun json => forall_congr' fun _ => ?_
      rw [positionOf]
      cases isVersion (json.property "v") with
      | false => simp
      | true =>
        cases component (json.property "s") with
        | none => simp
        | some sortKey => cases component (json.property "i") <;> simp
    constructor
    · intro failed
      refine Or.inr (Or.inr (refused.1 ?_))
      split at failed
      next => cases failed
      next none => exact none
    · rintro (none | long | unread)
      · exact absurd none bounded.1
      · exact absurd long bounded.2
      · rw [refused.2 unread]

theorem encodePageCursor_iff {cursor : String} {position : Position} :
    cursor = encodePageCursor position ↔ Spelled cursor position := by
  have serialized : (payload position).serialize =
      "\x7b\"v\":1,\"s\":".toList ++ (quoted position.sortKey ++ (",\"i\":".toList ++ (quoted position.id ++ "\x7d".toList))) := by
    have names : quoted "v" = "\"v\"".toList ∧ quoted "s" = "\"s\"".toList ∧ quoted "i" = "\"i\"".toList := by decide
    simp only [payload, Value.serialize, Value.memberTexts, joined, names, cursorVersion]
    simp
  constructor
  · rintro rfl
    have decoded : decodeBase64url (encodePageCursor position).toList = encodeUtf8 (payload position).serialize := by
      rw [encodePageCursor, String.toList_ofList, decodeBase64url_encodeBase64url (encodeUtf8_lt _)]
    refine ⟨?_, ?_, ?_⟩
    · rw [decoded, encodePageCursor, String.toList_ofList]
    · rw [decoded, cursorText_encode]
    · rw [cursorText_encode, serialized]
  · intro spelled
    apply String.toList_injective
    rw [encodePageCursor, String.toList_ofList, serialized, ← spelled.text, ← spelled.bytes, ← spelled.digits]

/-! ### Acceptance -/

section
variable {pg : Postgres} {δ α κ : Type} {cursor : String} {limit : Nat}

theorem seek_some {read : String → Except Failure κ} (some_ : cursor ≠ "") :
    seek read (some cursor) = (read cursor).map some := by
  have kept : (some cursor).filter (· ≠ "") = some cursor := by simp [some_]
  rw [seek, kept]

/-- A page is refused if its cursor is there and is not decoded. -/
theorem listRows_refused {order : SeekPages.Order κ} {key : α → κ} (arrangement : SeekPages.Arrangement order key)
    {read : String → Except Failure κ} (position : α → Position) (rows : List α) (document : α → δ)
    (reads : read cursor = .error (.refused invalidCursor) ↔ decodePageCursor cursor = .error invalidCursor) :
    (listRows arrangement read position rows limit (some cursor)).map (page ⟨limit, some cursor⟩ document) =
        .error (.refused invalidCursor) ↔ cursor ≠ "" ∧ Unreadable cursor := by
  by_cases empty : cursor = ""
  · subst empty
    refine iff_of_false (fun refused => ?_) (fun unread => unread.1 rfl)
    cases refused
  · have own : decodePageCursor cursor = .error invalidCursor ↔ Unreadable cursor := by
      rw [decode_error_iff]
      exact or_iff_right empty
    rw [← own, ← reads, listRows, seek_some empty]
    cases read cursor with
    | ok position_ => exact iff_of_false (by rintro ⟨⟩) (by rintro ⟨-, ⟨⟩⟩)
    | error failure =>
      constructor
      · intro refused
        cases refused
        exact ⟨empty, rfl⟩
      · rintro ⟨-, refused⟩
        cases refused
        rfl

theorem seekAscending_refused :
    seekAscending cursor = .error (.refused invalidCursor) ↔ decodePageCursor cursor = .error invalidCursor := by
  rw [seekAscending]
  cases decodePageCursor cursor with
  | ok position => exact iff_of_false (by simp) (by simp)
  | error failure => simp

theorem seekDescending_refused :
    seekDescending pg cursor = .error (.refused invalidCursor) ↔ decodePageCursor cursor = .error invalidCursor := by
  rw [seekDescending]
  cases decodePageCursor cursor with
  | ok position =>
    dsimp only
    cases pg.timestamptz position.sortKey <;> cases pg.uuid position.id <;> exact iff_of_false (by simp) (by simp)
  | error failure => simp

theorem issuedProjected_iff : IssuedProjected pg cursor ↔ ∃ position, OfProjection pg position ∧ Spelled cursor position := by
  constructor
  · rintro ⟨row, readable, issued⟩
    exact ⟨row.position, ⟨row, readable, rfl, rfl⟩, encodePageCursor_iff.1 issued⟩
  · rintro ⟨⟨sortKey, id⟩, ⟨row, readable, rfl, rfl⟩, spelled⟩
    exact ⟨row, readable, encodePageCursor_iff.2 spelled⟩

theorem issuedCatalog_iff : IssuedCatalog cursor ↔ ∃ position, OfCatalog position ∧ Spelled cursor position := by
  constructor
  · rintro ⟨slug, valid, issued⟩
    exact ⟨⟨slug, slug⟩, ⟨valid, rfl⟩, encodePageCursor_iff.1 issued⟩
  · rintro ⟨⟨sortKey, id⟩, ⟨valid, same⟩, spelled⟩
    obtain rfl : sortKey = id := same
    exact ⟨sortKey, valid, encodePageCursor_iff.2 spelled⟩

/-- A cursor that stands for none was not issued. -/
theorem spelled_ne_empty {position : Position} (spelled : Spelled cursor position) : cursor ≠ "" := by
  rintro rfl
  exact encodePageCursor_ne_empty position (encodePageCursor_iff.2 spelled).symm

/-- What is issued by a projection is cast. -/
theorem issued_cast {rows : List (ProjectedRow δ)} (issued : IssuedProjected pg cursor) :
    listProjected pg rows ⟨limit, some cursor⟩ ≠ .error .invalidText := by
  obtain ⟨row, readable, rfl⟩ := issued
  rw [listProjected, listRows, seek_some (encodePageCursor_ne_empty _), seekDescending_projected readable]
  rintro ⟨⟩

end

end ControlPlane.CursorAcceptance
