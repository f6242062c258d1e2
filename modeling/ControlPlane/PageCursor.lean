import ControlPlane.JsonReading
import ControlPlane.TextEncodings
import ControlPlane.IsoDates
import ControlPlane.SeekPages

/-!
The cursors of the listings. A cursor is a position, the sort key and the identifier
of the last row of a page, as JSON in base 64; the decoder reads every cursor that
was issued, and bounds what it reads.
-/
namespace ControlPlane.PageCursor
open ControlPlane.Texts ControlPlane.Domain ControlPlane.RequestValidation ControlPlane.IsoDates
open ControlPlane.JsonTexts ControlPlane.JsonReading ControlPlane.TextEncodings ControlPlane.SeekPages

def maximumCursorLength : Nat := 512

def maximumComponentLength : Nat := 128

/-- Where a page ends: the leading sort value of its last row and that row's key. -/
structure Position where
  sortKey : String
  id : String
  deriving DecidableEq, Repr

/-- The version of a cursor's payload. -/
def cursorVersion : Numeral := ⟨['1'], by decide, List.forall_mem_singleton.2 (by decide)⟩

/-- The payload of a cursor. -/
def payload (position : Position) : Value :=
  .object [("v", .number cursorVersion), ("s", .string position.sortKey), ("i", .string position.id)]

def encodePageCursor (position : Position) : String :=
  String.ofList (encodeBase64url (encodeUtf8 (payload position).serialize))

/-- The digits of a number, the digits of its fraction, and its exponent. -/
def literalParts (literal : List Char) : List Char × List Char × Int :=
  let whole := literal.takeWhile isDecimal
  let tail := literal.dropWhile isDecimal
  let fraction := if tail.head? = some '.' then (tail.drop 1).takeWhile isDecimal else []
  let power := if tail.head? = some '.' then (tail.drop 1).dropWhile isDecimal else tail
  let digits := unsigned (fun sign => sign = '+' || sign = '-') (power.drop 1)
  (whole, fraction, if (power.drop 1).head? = some '-' then -(digitsValue digits : Int) else digitsValue digits)

/-- Whether a literal is read as 1: no other double is nearer to what it writes. -/
def isOne (literal : List Char) : Bool :=
  let (whole, fraction, exponent) := literalParts literal
  let shift := exponent - fraction.length
  let scaled := digitsValue (whole ++ fraction) * 10 ^ shift.toNat
  let unit := 10 ^ (-shift).toNat
  literal.head? ≠ some '-' && (2 ^ 54 - 1) * unit ≤ 2 ^ 54 * scaled && 2 ^ 53 * scaled ≤ (2 ^ 53 + 1) * unit

/-- `value === CURSOR_VERSION`. -/
def isVersion : Option Json → Bool
  | some (.number literal) => isOne literal
  | _ => false

/-- A text of a bounded length that is not empty. -/
def component : Option Json → Option String
  | some (.string text) => if 0 < utf16Length text && utf16Length text ≤ maximumComponentLength then some text else none
  | _ => none

def invalidCursor : DomainError := ⟨.validationFailed, "The pagination cursor is not valid."⟩

/-- The text that a cursor carries. -/
def cursorText (cursor : String) : List Char := decodeUtf8 (decodeBase64url cursor.toList)

/-- The position that a payload holds. -/
def positionOf (json : Json) : Option Position :=
  if isVersion (json.property "v") then
    match component (json.property "s"), component (json.property "i") with
    | some sortKey, some id => some ⟨sortKey, id⟩
    | _, _ => none
  else none

def decodePageCursor (cursor : String) : Except DomainError Position :=
  if utf16Length cursor = 0 || maximumCursorLength < utf16Length cursor then .error invalidCursor
  else
    match (parse (cursorText cursor)).bind positionOf with
    | some position => .ok position
    | none => .error invalidCursor

/-- The rows of a page and the cursor for the next one, from up to one row more. -/
def paginate {α : Type} (rows : List α) (limit : Nat) (position : α → Position) : List α × Option String :=
  trim rows limit fun row => encodePageCursor (position row)

example : decodePageCursor "eyJ2IjoxLCJzIjoiYSIsImkiOiJiIn0" = .ok ⟨"a", "b"⟩ := by decide +kernel

/-! ### Cursors are read back -/

/-- A component that a decoder accepts. -/
def Component (text : String) : Prop := 0 < utf16Length text ∧ utf16Length text ≤ maximumComponentLength

theorem cursorText_encode (position : Position) : cursorText (encodePageCursor position) = (payload position).serialize := by
  rw [cursorText, encodePageCursor, String.toList_ofList, decodeBase64url_encodeBase64url (encodeUtf8_lt _),
    decodeUtf8_encodeUtf8]

theorem payload_written (position : Position) : Written (payload position) := by
  rw [Written, payload, Value.every_object]
  simp [Value.Every]
  decide

/-- The members of a payload. -/
theorem parse_payload (position : Position) : parse (payload position).serialize =
    some (.object [("v", .number ['1']), ("s", .string position.sortKey), ("i", .string position.id)]) := by
  rw [parse_serialize (payload_written position)]
  rfl

theorem positionOf_members {position : Position} (first : Component position.sortKey) (second : Component position.id) :
    positionOf (.object [("v", .number ['1']), ("s", .string position.sortKey), ("i", .string position.id)]) = some position := by
  have one : isOne ['1'] = true := by decide
  simp [positionOf, Json.property, List.lookup_cons, isVersion, one, component, first.1, first.2, second.1, second.2]

/-- An encoded position is decoded again, if it is short enough. -/
theorem decodePageCursor_encode {position : Position} (first : Component position.sortKey) (second : Component position.id)
    (some_ : 0 < utf16Length (encodePageCursor position)) (short : utf16Length (encodePageCursor position) ≤ maximumCursorLength) :
    decodePageCursor (encodePageCursor position) = .ok position := by
  rw [decodePageCursor, if_neg (by simp; omega), cursorText_encode, parse_payload, Option.bind_some,
    positionOf_members first second]

/-! ### Lengths -/

/-- A character that stands for itself in JSON, in one byte and one code unit. -/
def isPlain (c : Char) : Bool := isAlphanumeric c || c = '-' || c = '+' || c = ':' || c = '.'

theorem isPlain_spec {c : Char} (plain : isPlain c = true) : c.toNat < 128 ∧ c ∉ escaped := by
  have narrow : c.toNat < 128 := by
    simp only [isPlain, isAlphanumeric, isLowerAlphanumeric, isDigit, Bool.or_eq_true, Bool.and_eq_true, decide_eq_true_eq] at plain
    have bound : ∀ {low high : Char}, low ≤ c ∧ c ≤ high → c.toNat ≤ high.toNat := fun within => within.2
    obtain (((((digit | lower) | upper) | rfl) | rfl) | rfl) | rfl := plain
    · exact Nat.lt_of_le_of_lt (bound digit) (by decide)
    · exact Nat.lt_of_le_of_lt (bound lower) (by decide)
    · exact Nat.lt_of_le_of_lt (bound upper) (by decide)
    all_goals decide
  refine ⟨narrow, fun listed => ?_⟩
  have all : (escaped.all fun c => !isPlain c) = true := by decide
  have none := List.all_eq_true.1 all c listed
  rw [plain] at none
  cases none

/-- A text of such characters. -/
def Plain (text : List Char) : Prop := ∀ c ∈ text, isPlain c = true

theorem plain_append {left right : List Char} (first : Plain left) (second : Plain right) : Plain (left ++ right) :=
  List.forall_mem_append.2 ⟨first, second⟩

theorem plain_cons {c : Char} {rest : List Char} (first : isPlain c = true) (second : Plain rest) : Plain (c :: rest) :=
  List.forall_mem_cons.2 ⟨first, second⟩

theorem utf16Length_narrow {text : List Char} (narrow : ∀ c ∈ text, c.toNat < 128) : utf16Length (String.ofList text) = text.length := by
  rw [utf16Length_ofList]
  induction text with
  | nil => rfl
  | cons c text ih =>
    rw [List.forall_mem_cons] at narrow
    have single : ¬ c.val > 0xFFFF := by
      have small : c.val.toNat < 128 := narrow.1
      rw [gt_iff_lt, UInt32.lt_iff_toNat_lt]
      exact Nat.not_lt.2 (Nat.le_trans (Nat.le_of_lt small) (by decide))
    rw [List.map_cons, List.sum_cons, if_neg single, ih narrow.2, List.length_cons, Nat.add_comm]

theorem encodeUtf8_length {text : List Char} (narrow : ∀ c ∈ text, c.toNat < 128) : (encodeUtf8 text).length = text.length := by
  induction text with
  | nil => rfl
  | cons c text ih =>
    rw [List.forall_mem_cons] at narrow
    have own : utf8 c = [c.toNat] := if_pos narrow.1
    rw [encodeUtf8, List.flatMap_cons, own, List.singleton_append, List.length_cons, List.length_cons]
    exact congrArg (· + 1) (ih narrow.2)

/-- A plain text prints as itself, between quotes. -/
theorem quoted_plain {text : List Char} (plain : Plain text) : quoted (String.ofList text) = '"' :: (text ++ ['"']) := by
  have own : text.flatMap escape = text := by
    induction text with
    | nil => rfl
    | cons c text ih =>
      have first := escape_plain (isPlain_spec (plain c List.mem_cons_self)).2
      rw [List.flatMap_cons, first, ih fun d listed => plain d (List.mem_cons_of_mem c listed)]
      rfl
  rw [quoted, quotedAfter, String.toList_ofList, own]

theorem payload_plain {sortKey id : List Char} (first : Plain sortKey) (second : Plain id) :
    (payload ⟨String.ofList sortKey, String.ofList id⟩).serialize =
      "\x7b\"v\":1,\"s\":\"".toList ++ (sortKey ++ ("\",\"i\":\"".toList ++ (id ++ "\"\x7d".toList))) := by
  have names : quoted "v" = "\"v\"".toList ∧ quoted "s" = "\"s\"".toList ∧ quoted "i" = "\"i\"".toList := by decide
  simp only [payload, Value.serialize, Value.memberTexts, joined, names, quoted_plain first, quoted_plain second, cursorVersion]
  simp

/-- The cursor of a short position is short. -/
theorem encode_length {sortKey id : List Char} (first : Plain sortKey) (second : Plain id) :
    utf16Length (encodePageCursor ⟨String.ofList sortKey, String.ofList id⟩) = (4 * (sortKey.length + id.length + 21) + 2) / 3 := by
  have narrow : ∀ {text : List Char}, Plain text → ∀ c ∈ text, c.toNat < 128 := fun plain c listed => (isPlain_spec (plain c listed)).1
  rw [encodePageCursor, utf16Length_narrow, encodeBase64url_length, encodeUtf8_length, payload_plain first second]
  · simp only [List.length_append, String.length_toList]
    congr 1
    have lengths : "\x7b\"v\":1,\"s\":\"".length = 12 ∧ "\",\"i\":\"".length = 7 ∧ "\"\x7d".length = 2 := by decide
    omega
  · rw [payload_plain first second]
    have fixed : ∀ {text : List Char}, (text.all fun c => c.toNat < 128) = true → ∀ c ∈ text, c.toNat < 128 :=
      fun checked c listed => of_decide_eq_true (List.all_eq_true.1 checked c listed)
    simp only [List.forall_mem_append]
    exact ⟨fixed (by decide), narrow first, fixed (by decide), narrow second, fixed (by decide)⟩
  · intro c listed
    obtain ⟨digit, -, rfl⟩ := List.mem_map.1 listed
    exact urlDigit_narrow digit

/-- A position of plain components that are not too long is read back from its cursor. -/
theorem decode_plain {position : Position} (first : Plain position.sortKey.toList) (second : Plain position.id.toList)
    (lengths : 0 < position.sortKey.toList.length ∧ position.sortKey.toList.length ≤ 128 ∧
      0 < position.id.toList.length ∧ position.id.toList.length ≤ 128) :
    decodePageCursor (encodePageCursor position) = .ok position := by
  have narrow : ∀ {text : String}, Plain text.toList → utf16Length text = text.toList.length := by
    intro text plain
    have own := utf16Length_narrow fun c listed => (isPlain_spec (plain c listed)).1
    rwa [String.ofList_toList] at own
  have length := encode_length first second
  rw [String.ofList_toList, String.ofList_toList] at length
  obtain ⟨some_, most, some_id, most_id⟩ := lengths
  refine decodePageCursor_encode ?_ ?_ ?_ ?_
  · rw [Component, narrow first]
    exact ⟨some_, most⟩
  · rw [Component, narrow second]
    exact ⟨some_id, most_id⟩
  · show 0 < utf16Length (encodePageCursor ⟨position.sortKey, position.id⟩)
    omega
  · show utf16Length (encodePageCursor ⟨position.sortKey, position.id⟩) ≤ 512
    omega

end ControlPlane.PageCursor
