import ControlPlane.JsonReading
import ControlPlane.ProxmoxOwnership

/-!
The ownership marker as text. The library of the adapters is given here by the
texts of JSON: what is written into a description is read back from its first line,
whatever the values are and whatever stands below, and a description whose marker
agrees with expected values begins with the prefix and an object that holds them.
-/
namespace ControlPlane.MarkerCodec
open ControlPlane.Texts ControlPlane.JsonTexts ControlPlane.JsonReading ControlPlane.ProviderPort ControlPlane.ProxmoxOwnership

/-! ### The texts of markers -/

def textValue (text : Option String) : Value := text.elim .undefined .string

/-- The object that is written. -/
def markersValue (markers : OwnershipMarkers) : Value :=
  .object [("managedBy", textValue markers.managedBy), ("environment", textValue markers.environment),
    ("projectId", textValue markers.projectId), ("instanceId", textValue markers.instanceId),
    ("createOperationId", textValue markers.createOperationId)]

/-- The text that a property holds. No expected value equals one that is no text. -/
def textProperty (key : String) (json : Json) : Option String :=
  match json.property key with
  | some (.string text) => some text
  | _ => none

/-- The fields of a value that was read. -/
def markersOf (json : Json) : OwnershipMarkers :=
  { managedBy := textProperty "managedBy" json, environment := textProperty "environment" json,
    projectId := textProperty "projectId" json, instanceId := textProperty "instanceId" json,
    createOperationId := textProperty "createOperationId" json }

/-- A library whose markers are JSON texts. -/
def jsonLibrary (library : Library) : Library :=
  { library with
    stringifyMarkers := fun markers => String.ofList (markersValue markers).serialize,
    parseMarkers := fun text => (parse text.toList).map markersOf }

theorem stringifyMarkers_eq (library : Library) (markers : OwnershipMarkers) :
    (jsonLibrary library).stringifyMarkers markers = String.ofList (markersValue markers).serialize := rfl

theorem parseMarkers_eq (library : Library) (text : String) :
    (jsonLibrary library).parseMarkers text = (parse text.toList).map markersOf := rfl

/-! ### Lines -/

theorem hexDigit_printing : ∀ digit < 16, 32 ≤ (hexDigit digit).toNat := by decide

/-- No control character stands in a string literal. -/
theorem escape_printing {c d : Char} (written : d ∈ escape c) : 32 ≤ d.toNat := by
  by_cases listed : c ∈ escaped
  · have all : (escaped.all fun c => (escape c).all fun d => 32 ≤ d.toNat) = true := by decide +kernel
    exact of_decide_eq_true (List.all_eq_true.1 (List.all_eq_true.1 all c listed) d written)
  · rw [escape_plain listed, List.mem_singleton] at written
    subst written
    exact Nat.le_of_not_lt fun control => listed (mem_escaped_of_lt control)

theorem quoted_printing {text : String} {d : Char} (written : d ∈ quoted text) : 32 ≤ d.toNat := by
  simp only [quoted, quotedAfter, List.mem_cons, List.mem_append, List.mem_flatMap, List.not_mem_nil, or_false] at written
  obtain rfl | ⟨c, -, inside⟩ | rfl := written
  · decide
  · exact escape_printing inside
  · decide

/-- The text of a marker is one line. -/
theorem markersValue_printing {markers : OwnershipMarkers} {d : Char} (written : d ∈ (markersValue markers).serialize) :
    32 ≤ d.toNat := by
  have members : ∀ {entries : List (String × Option String)},
      ∀ text ∈ Value.memberTexts (entries.map fun entry => (entry.1, textValue entry.2)), ∀ d ∈ text, 32 ≤ d.toNat := by
    intro entries
    induction entries with
    | nil => exact nofun
    | cons entry entries ih =>
      obtain ⟨key, text⟩ := entry
      cases text with
      | none => exact ih
      | some text =>
        refine List.forall_mem_cons.2 ⟨fun d inside => ?_, ih⟩
        simp only [textValue, Option.elim, Value.serialize, List.mem_append, List.mem_cons] at inside
        obtain key_ | rfl | value := inside
        · exact quoted_printing key_
        · decide
        · exact quoted_printing value
  have joined_ : ∀ {texts : List (List Char)}, (∀ text ∈ texts, ∀ d ∈ text, 32 ≤ d.toNat) → ∀ d ∈ joined texts, 32 ≤ d.toNat := by
    intro texts printing d inside
    cases texts with
    | nil => cases inside
    | cons text texts =>
      rw [List.forall_mem_cons] at printing
      simp only [joined, List.mem_append, List.mem_flatMap, List.mem_cons] at inside
      obtain first | ⟨other, listed, rfl | later⟩ := inside
      · exact printing.1 d first
      · decide
      · exact printing.2 other listed d later
  have fields := @members [("managedBy", markers.managedBy), ("environment", markers.environment),
    ("projectId", markers.projectId), ("instanceId", markers.instanceId), ("createOperationId", markers.createOperationId)]
  simp only [markersValue, Value.serialize, List.mem_cons, List.mem_append, List.not_mem_nil, or_false] at written
  obtain rfl | inside | rfl := written
  · decide
  · exact joined_ fields d inside
  · decide

/-! ### Markers that are written -/

/-- Markers whose five fields are texts that are not empty. -/
structure Filled where
  managedBy : String
  environment : String
  projectId : String
  instanceId : String
  createOperationId : String
  managedBy_ne : managedBy ≠ ""
  environment_ne : environment ≠ ""
  projectId_ne : projectId ≠ ""
  instanceId_ne : instanceId ≠ ""
  createOperationId_ne : createOperationId ≠ ""

def Filled.markers (filled : Filled) : OwnershipMarkers :=
  ⟨some filled.managedBy, some filled.environment, some filled.projectId, some filled.instanceId,
    some filled.createOperationId⟩

theorem present_some {text : String} (some_ : text ≠ "") : (present (some text)).isSome = true := by
  simp [present, some_]

/-- The fields of the object that is written. -/
theorem markersOf_parsed (filled : Filled) : markersOf (parsed (markersValue filled.markers)) = filled.markers := by
  simp [markersOf, textProperty, Json.property, markersValue, textValue, parsed, parsedMembers, Filled.markers, List.lookup_cons]

theorem markersValue_written (filled : Filled) : Written (markersValue filled.markers) := by
  rw [Written, markersValue, Value.every_object]
  simp [Filled.markers, textValue, Value.Every]

theorem filled_legible (library : Library) (filled : Filled) : Legible (jsonLibrary library) filled.markers where
  restored := by
    rw [stringifyMarkers_eq, parseMarkers_eq, String.toList_ofList, parse_serialize (markersValue_written filled), Option.map_some, markersOf_parsed]
  oneLine := by
    rw [stringifyMarkers_eq, String.toList_ofList]
    intro inside
    exact absurd (markersValue_printing inside) (by decide)
  managedBy := present_some filled.managedBy_ne
  environment := present_some filled.environment_ne
  projectId := present_some filled.projectId_ne
  instanceId := present_some filled.instanceId_ne
  createOperationId := present_some filled.createOperationId_ne

/-! ### Markers that are read -/

/-- The first line of a text. -/
structure FirstLine (text line : String) : Prop where
  oneLine : '\n' ∉ line.toList
  begins : ∃ rest, text = line ++ rest ∧ ∀ c ∈ rest.toList.head?, c = '\n'

/-- A text is an object that holds these five values. -/
def Holds (text : String) (markers : OwnershipMarkers) : Prop :=
  ∃ members, parse text.toList = some (.object members) ∧
    ∀ field ∈ [("managedBy", markers.managedBy), ("environment", markers.environment), ("projectId", markers.projectId),
      ("instanceId", markers.instanceId), ("createOperationId", markers.createOperationId)],
      ∃ value, field.2 = some value ∧ value ≠ "" ∧ (Json.object members).property field.1 = some (.string value)

theorem splitChars_head (separator : Char) (text : List Char) : ∃ first rest others,
    splitChars separator text = first :: others ∧ text = first ++ rest ∧ separator ∉ first ∧ ∀ c ∈ rest.head?, c = separator := by
  induction text with
  | nil => exact ⟨[], [], [], rfl, rfl, nofun, nofun⟩
  | cons c text ih =>
    obtain ⟨first, rest, others, parts, rfl, free, ends⟩ := ih
    by_cases same : c = separator
    · subst same
      refine ⟨[], c :: (first ++ rest), _, by rw [splitChars, if_pos rfl], rfl, nofun, fun d head => ?_⟩
      exact (Option.some.inj head).symm
    · refine ⟨c :: first, rest, others, by rw [splitChars, if_neg same, parts], rfl, ?_, ends⟩
      exact List.not_mem_cons_of_ne_of_not_mem (Ne.symm same) free

theorem property_of_text {key : String} {json : Json} {text : String} (found : textProperty key json = some text) :
    ∃ members, json = .object members ∧ json.property key = some (.string text) := by
  unfold textProperty at found
  split at found
  next text_ property =>
    obtain rfl : text_ = text := Option.some.inj found
    cases json with
    | object members => exact ⟨members, rfl, property⟩
    | _ => cases property
  next => cases found

/-- Markers that were read are filled, and each is a property of the object. -/
theorem holds_of_read {library : Library} {text : String} {expected : OwnershipMarkers}
    (read : (jsonLibrary library).parseMarkers text = some expected)
    (managedBy : (present expected.managedBy).isSome) (environment : (present expected.environment).isSome)
    (projectId : (present expected.projectId).isSome) (instanceId : (present expected.instanceId).isSome)
    (createOperationId : (present expected.createOperationId).isSome) : Holds text expected := by
  obtain ⟨json, parsed_, rfl⟩ := Option.map_eq_some_iff.1 read
  have held : ∀ {key : String}, (present (textProperty key json)).isSome → ∃ value, textProperty key json = some value ∧
      value ≠ "" ∧ json.property key = some (.string value) := by
    intro key some_
    obtain ⟨value, found⟩ := Option.isSome_iff_exists.1 some_
    obtain ⟨property, nonempty⟩ := Option.filter_eq_some_iff.1 found
    obtain ⟨-, -, own⟩ := property_of_text property
    exact ⟨value, property, of_decide_eq_true nonempty, own⟩
  obtain ⟨value, found, -⟩ := held managedBy
  obtain ⟨members, rfl, -⟩ := property_of_text found
  refine ⟨members, parsed_, ?_⟩
  simp only [List.forall_mem_cons, List.not_mem_nil, false_implies, implies_true, and_true]
  exact ⟨held managedBy, held environment, held projectId, held instanceId, held createOperationId⟩

/-- The marker survives its description, with a trailer or without, and a description
agrees with expected markers only if its first line is the prefix and an object that
holds them. -/
theorem marker_codec (library : Library) :
    (∀ (filled : Filled) (key value : String),
      parseOwnership (jsonLibrary library) (some (ownershipDescription (jsonLibrary library) filled.markers)) =
          some filled.markers ∧
        parseOwnership (jsonLibrary library) (some (describedWithTrailer (jsonLibrary library) filled.markers key value)) =
          some filled.markers) ∧
    ∀ (description : Option String) (expected : OwnershipMarkers),
      markersMatch (parseOwnership (jsonLibrary library) description) expected = true →
        ∃ text object, description = some text ∧ FirstLine text (markerPrefix ++ object) ∧ Holds object expected := by
  refine ⟨fun filled key value => ?_, fun description expected matching => ?_⟩
  · have legible := filled_legible library filled
    exact ⟨parseOwnership_description legible, parseOwnership_trailer legible⟩
  · have owned := markersMatch_iff.1 matching
    obtain ⟨rest, begins, read⟩ := Option.bind_eq_some_iff.1 owned
    obtain ⟨text, rfl, after⟩ := Option.bind_eq_some_iff.1 begins
    obtain ⟨line, later, others, parts, whole, free, ends⟩ := splitChars_head '\n' rest.toList
    obtain ⟨fields, filled⟩ := Option.filter_eq_some_iff.1 read
    have first : (split '\n' rest).headD "" = String.ofList line := by rw [split, parts]; rfl
    rw [first] at fields
    simp only [Bool.and_eq_true] at filled
    obtain ⟨⟨⟨⟨managedBy, environment⟩, projectId⟩, instanceId⟩, createOperationId⟩ := filled
    refine ⟨text, String.ofList line, rfl, ⟨?_, String.ofList later, ?_, ?_⟩,
      holds_of_read fields managedBy environment projectId instanceId createOperationId⟩
    · rw [String.toList_append, String.toList_ofList, List.mem_append, not_or]
      exact ⟨by decide, free⟩
    · rw [afterPrefix, Option.ite_none_right_eq_some] at after
      obtain ⟨⟨tail, split_⟩, rest_⟩ := after
      obtain rfl : String.ofList (text.toList.drop markerPrefix.toList.length) = rest := Option.some.inj rest_
      rw [← split_, List.drop_left, String.toList_ofList] at whole
      apply String.toList_injective
      rw [String.toList_append, String.toList_append, String.toList_ofList, String.toList_ofList, ← split_, whole, List.append_assoc]
    · rw [String.toList_ofList]
      exact ends

end ControlPlane.MarkerCodec
