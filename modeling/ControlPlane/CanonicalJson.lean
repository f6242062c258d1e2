import Mathlib.Data.List.Pairwise
import ControlPlane.JsonTexts

/-!
The canonical JSON that requests and commands are hashed by. Its keys are sorted by
the collation of the locale, which ranks some different keys equal. The sort leaves
those in the order in which the object has them.
-/
namespace ControlPlane.CanonicalJson
open ControlPlane.JsonTexts Value

/-- `left.localeCompare(right) <= 0`. A collation may rank different texts equal. -/
structure Collation where
  le : String → String → Bool
  trans : ∀ first second third, le first second → le second third → le first third
  total : ∀ left right, le left right || le right left

/-- What the runtime and the libraries give. -/
structure Host where
  collation : Collation
  /-- `JSON.parse(text)`. -/
  parse : List Char → Option JsonValue
  /-- What is read from the text of a value prints as that text. -/
  prints : ∀ value read : JsonValue, parse value.1.serialize = some read → read.1.serialize = value.1.serialize
  /-- `createHash('sha256').update(text).digest('hex')`. -/
  sha256 : List Char → String

/-! ### Functions -/

mutual

/-- A value whose objects are built again from their entries, at any depth. -/
def rebuilt (arrange : List (String × Value) → List (String × Value)) : Value → Value
  | array items => array (rebuiltItems arrange items)
  | object entries => object (fromEntries (arrange (rebuiltEntries arrange entries)))
  | value => value

def rebuiltItems (arrange : List (String × Value) → List (String × Value)) : List Value → List Value
  | [] => []
  | item :: rest => rebuilt arrange item :: rebuiltItems arrange rest

def rebuiltEntries (arrange : List (String × Value) → List (String × Value)) :
    List (String × Value) → List (String × Value)
  | [] => []
  | (key, value) :: rest => (key, rebuilt arrange value) :: rebuiltEntries arrange rest

end

/-- Whether a property is there for `JSON.stringify`. -/
def defined : Value → Bool
  | undefined => false
  | _ => true

/-- Entries in an order of their keys. -/
def byKey (le : String → String → Bool) (left right : String × Value) : Bool := le left.1 right.1

section
variable (collation : Collation)

/-- The entries that are not undefined, sorted by their keys. -/
def sortedEntries (entries : List (String × Value)) : List (String × Value) :=
  (entries.filter fun entry => defined entry.2).mergeSort (byKey collation.le)

/-- The source sorts the entries before it rewrites what they hold, which the sort does
    not look at. -/
def canonicalValue (value : Value) : Value := rebuilt (sortedEntries collation) value

def canonicalJson (value : Value) : List Char := (canonicalValue collation value).serialize

end

def canonicalSha256 (host : Host) (value : Value) : String := host.sha256 (canonicalJson host.collation value)

/-! ### Storing and sending -/

/-- Texts in the order of their characters, which is also that of their bytes. -/
def characterOrder : List Char → List Char → Bool
  | [], _ => true
  | _ :: _, [] => false
  | first :: left, second :: right =>
    first.toNat < second.toNat || first.toNat = second.toNat && characterOrder left right

/-- A `jsonb` column keeps shorter keys before longer ones, and keys of one length in
    the order of their bytes. -/
def jsonbOrder (left right : String) : Bool :=
  left.utf8ByteSize < right.utf8ByteSize ||
    left.utf8ByteSize = right.utf8ByteSize && characterOrder left.toList right.toList

/-- What is read back from a `jsonb` column. -/
def jsonb (value : Value) : Value :=
  rebuilt (fun entries => entries.mergeSort (byKey jsonbOrder)) value

/-- A value whose objects have been built in the opposite order. -/
def turned (value : Value) : Value := rebuilt List.reverse value

/-! ### What building objects again keeps -/

section
variable {arrange : List (String × Value) → List (String × Value)} {items : List Value}
  {entries : List (String × Value)} {value : Value}

@[simp] theorem rebuilt_array : rebuilt arrange (array items) = array (items.map (rebuilt arrange)) := by
  have mapped : rebuiltItems arrange items = items.map (rebuilt arrange) := by
    induction items with
    | nil => rfl
    | cons item rest ih => rw [rebuiltItems, ih, List.map_cons]
  rw [rebuilt, mapped]

@[simp] theorem rebuilt_object : rebuilt arrange (object entries) =
    object (fromEntries (arrange (entries.map (Prod.map id (rebuilt arrange))))) := by
  have mapped : rebuiltEntries arrange entries = entries.map (Prod.map id (rebuilt arrange)) := by
    induction entries with
    | nil => rfl
    | cons entry rest ih => rw [rebuiltEntries, ih, List.map_cons, Prod.map, id]
  rw [rebuilt, mapped]

example : (rebuilt List.reverse (array [bool true, null])).serialize = "[true,null]".toList := by decide +kernel

theorem keys_rewritten (entries : List (String × Value)) (f : Value → Value) : (entries.map (Prod.map id f)).map Prod.fst = entries.map Prod.fst := by
  simp

theorem defined_rebuilt : defined (rebuilt arrange value) = defined value := by
  cases value <;> simp [rebuilt, defined]

/-- The objects of a JSON value lose no entry and gain none. -/
def Keeps (arrange : List (String × Value) → List (String × Value)) : Prop :=
  ∀ entries, (∀ entry ∈ entries, defined entry.2 = true) → (arrange entries).Perm entries

theorem Json.defined (valid : value.Json) : CanonicalJson.defined value = true := by
  cases value with
  | undefined => exact absurd rfl (Value.Json.defined valid)
  | _ => rfl

theorem rewritten_defined (valid : (object entries).Json) :
    ∀ entry ∈ entries.map (Prod.map id (rebuilt arrange)), defined entry.2 = true := by
  intro entry listed
  obtain ⟨original, held, rfl⟩ := List.mem_map.1 listed
  exact defined_rebuilt.trans (Json.defined ((every_object.1 valid).2 original held))

theorem rewritten_perm (keeps : Keeps arrange) (valid : (object entries).Json) :
    (fromEntries (arrange (entries.map (Prod.map id (rebuilt arrange))))).Perm
      (entries.map (Prod.map id (rebuilt arrange))) :=
  (propertyOrder_perm _ _).trans (keeps _ (rewritten_defined valid))

theorem rebuilt_json (keeps : Keeps arrange) (valid : value.Json) : (rebuilt arrange value).Json := by
  induction value using Value.induct with
  | array items ih =>
    rw [rebuilt_array]
    refine every_array.2 ⟨trivial, ?_⟩
    intro item listed
    obtain ⟨original, held, rfl⟩ := List.mem_map.1 listed
    exact ih original held ((every_array.1 valid).2 original held)
  | object entries ih =>
    have perm := rewritten_perm keeps valid
    rw [rebuilt_object]
    refine every_object.2 ⟨⟨?_, propertyOrder_again⟩, ?_⟩
    · rw [(perm.map Prod.fst).nodup_iff, keys_rewritten]
      exact (every_object.1 valid).1.distinct
    · intro entry listed
      obtain ⟨original, held, rfl⟩ := List.mem_map.1 (perm.mem_iff.1 listed)
      exact ih original held ((every_object.1 valid).2 original held)
  | _ => exact valid

theorem same_map {f : Value → Value} (each : ∀ item ∈ items, Same item (f item)) :
    List.Forall₂ Same items (items.map f) := by
  induction items with
  | nil => exact .nil
  | cons item rest ih =>
    rw [List.forall_mem_cons] at each
    exact .cons each.1 (ih each.2)

theorem rebuilt_same (keeps : Keeps arrange) (valid : value.Json) : Same value (rebuilt arrange value) := by
  induction value using Value.induct with
  | array items ih =>
    rw [rebuilt_array, same_array]
    exact same_map fun item listed => ih item listed ((every_array.1 valid).2 item listed)
  | object entries ih =>
    have perm := rewritten_perm keeps valid
    rw [rebuilt_object, same_object]
    refine ⟨by rw [perm.length_eq, List.length_map], ?_⟩
    intro entry listed
    refine ⟨rebuilt arrange entry.2, perm.mem_iff.2 (List.mem_map.2 ⟨entry, listed, rfl⟩), ?_⟩
    exact ih entry listed ((every_object.1 valid).2 entry listed)
  | _ => simp [rebuilt, Same]

theorem reverse_keeps : Keeps List.reverse := fun entries _ => entries.reverse_perm

theorem jsonb_keeps : Keeps fun entries => entries.mergeSort (byKey jsonbOrder) :=
  fun entries _ => entries.mergeSort_perm _

theorem sortedEntries_eq (collation : Collation) (held : ∀ entry ∈ entries, defined entry.2 = true) :
    sortedEntries collation entries = entries.mergeSort (byKey collation.le) := by
  rw [sortedEntries, List.filter_eq_self.2 held]

theorem sorted_keeps (collation : Collation) : Keeps (sortedEntries collation) := by
  intro entries held
  rw [sortedEntries_eq collation held]
  exact entries.mergeSort_perm _

/-- The canonical value, as the source computes it: the entries are sorted first. -/
theorem canonicalValue_object (collation : Collation) : canonicalValue collation (object entries) =
    object (fromEntries ((sortedEntries collation entries).map (Prod.map id (canonicalValue collation)))) := by
  have sorts : sortedEntries collation (entries.map (Prod.map id (canonicalValue collation))) =
      (sortedEntries collation entries).map (Prod.map id (canonicalValue collation)) := by
    rw [sortedEntries, List.filter_map, sortedEntries]
    have kept : (fun entry : String × Value => defined entry.2) ∘ Prod.map id (canonicalValue collation) =
        fun entry => defined entry.2 := funext fun entry => defined_rebuilt
    rw [kept]
    exact (List.map_mergeSort (s := byKey collation.le) fun _ _ _ _ => rfl).symm
  rw [canonicalValue, rebuilt_object]
  exact congrArg (fun entries => object (fromEntries entries)) sorts

end

/-! ### Keys that the collation ranks equal -/

section
variable (collation : Collation)

/-- Two keys stand in the order in which they were added: neither is an array index,
    and the collation ranks them equal. -/
def Tied (left right : String) : Prop :=
  arrayIndex left = none ∧ arrayIndex right = none ∧ collation.le left right = true ∧ collation.le right left = true

/-- No object at any depth has two keys whose order the collation leaves open. -/
def Untied : Value → Prop :=
  Value.Every fun
    | object entries => (entries.map Prod.fst).Pairwise fun left right => ¬ Tied collation left right
    | _ => True

end

section
variable {collation : Collation} {entries members : List (String × Value)} {value another : Value}

theorem Tied.symm {left right : String} (tied : Tied collation left right) : Tied collation right left :=
  ⟨tied.2.1, tied.1, tied.2.2.2, tied.2.2.1⟩

theorem sortedEntries_sorted (collation : Collation) (entries : List (String × Value)) :
    (sortedEntries collation entries).Pairwise fun left right => byKey collation.le left right = true :=
  @List.pairwise_mergeSort _ (byKey collation.le) (fun first second third => collation.trans first.1 second.1 third.1)
    (fun left right => collation.total left.1 right.1) _

/-- Entries with different keys, none of them tied, come into one order. -/
theorem arranged_eq (perm : entries.Perm members) (distinct : (entries.map Prod.fst).Nodup)
    (held : ∀ entry ∈ entries, defined entry.2 = true)
    (untied : (entries.map Prod.fst).Pairwise fun left right => ¬ Tied collation left right) :
    fromEntries (sortedEntries collation entries) = fromEntries (sortedEntries collation members) := by
  have own := sorted_keeps collation entries held
  have theirs := sorted_keeps collation members fun entry listed => held entry (perm.mem_iff.2 listed)
  have both := own.trans (perm.trans theirs.symm)
  have known : ∀ {entry : String × Value}, entry ∈ sortedEntries collation members → entry ∈ entries :=
    fun listed => perm.mem_iff.2 (theirs.mem_iff.1 listed)
  have alike : ∀ {left right : String × Value}, left ∈ sortedEntries collation entries →
      right ∈ sortedEntries collation members → left.1 = right.1 → left = right :=
    fun first second same => List.inj_on_of_nodup_map distinct (own.mem_iff.1 first) (known second) same
  have indices : indexed Prod.fst (sortedEntries collation entries) =
      indexed Prod.fst (sortedEntries collation members) := by
    refine List.Perm.eq_of_pairwise ?_ (indexed_sorted _ _) (indexed_sorted _ _) ?_
    · intro left right first second up down
      rw [mem_indexed] at first second
      exact alike first.1 second.1 (ascending_antisymm first.2 second.2 up down)
    · exact (List.mergeSort_perm _ _).trans ((both.filter _).trans (List.mergeSort_perm _ _).symm)
  have others : named Prod.fst (sortedEntries collation entries) =
      named Prod.fst (sortedEntries collation members) := by
    refine List.Perm.eq_of_pairwise ?_ ((sortedEntries_sorted _ _).filter _) ((sortedEntries_sorted _ _).filter _)
      (both.filter _)
    intro left right first second up down
    rw [mem_named] at first second
    refine alike first.1 second.1 ?_
    by_contra differ
    have : Std.Symm fun left right => ¬ Tied collation left right := ⟨fun _ _ open_ tied => open_ tied.symm⟩
    exact untied.forall (List.mem_map.2 ⟨left, own.mem_iff.1 first.1, rfl⟩)
      (List.mem_map.2 ⟨right, known second.1, rfl⟩) differ ⟨first.2, second.2, up, down⟩
  rw [fromEntries, fromEntries, propertyOrder, propertyOrder, indices, others]

example : (turned (array [null, bool true])).serialize = "[null,true]".toList := by decide +kernel

theorem map_eq_of_same {f : Value → Value} {items others : List Value} (same : List.Forall₂ Same items others)
    (each : ∀ item ∈ items, ∀ other ∈ others, Same item other → f item = f other) : items.map f = others.map f := by
  induction same with
  | nil => rfl
  | @cons item other items others first rest ih =>
    rw [List.map_cons, List.map_cons, each item List.mem_cons_self other List.mem_cons_self first,
      ih fun item listed other found => each item (List.mem_cons_of_mem _ listed) other (List.mem_cons_of_mem _ found)]

theorem same_of_map_eq {f : Value → Value} {items others : List Value} (same : items.map f = others.map f)
    (each : ∀ item ∈ items, ∀ other ∈ others, f item = f other → Same item other) :
    List.Forall₂ Same items others := by
  induction items generalizing others with
  | nil =>
    cases others with
    | nil => exact .nil
    | cons other others => simp at same
  | cons item items ih =>
    cases others with
    | nil => simp at same
    | cons other others =>
      rw [List.map_cons, List.map_cons, List.cons.injEq] at same
      refine .cons (each item List.mem_cons_self other List.mem_cons_self same.1) (ih same.2 ?_)
      intro item listed other found
      exact each item (List.mem_cons_of_mem _ listed) other (List.mem_cons_of_mem _ found)

/-- Values with one canonical value are equal up to the order of keys. -/
theorem same_of_canonicalValue (valid : value.Json) (valid_ : another.Json)
    (equal : canonicalValue collation value = canonicalValue collation another) : Same value another := by
  induction value using Value.induct generalizing another with
  | array items ih =>
    cases another with
    | array others =>
      rw [canonicalValue, canonicalValue, rebuilt_array, rebuilt_array, array.injEq] at equal
      refine same_array.2 (same_of_map_eq equal fun item listed other found equal => ?_)
      exact ih item listed ((every_array.1 valid).2 item listed) ((every_array.1 valid_).2 other found) equal
    | _ => simp [canonicalValue, rebuilt] at equal
  | object entries ih =>
    cases another with
    | object members =>
      have own := rewritten_perm (sorted_keeps collation) valid
      have theirs := rewritten_perm (sorted_keeps collation) valid_
      rw [canonicalValue, canonicalValue, rebuilt_object, rebuilt_object, object.injEq] at equal
      have both := own.symm.trans (equal ▸ theirs)
      refine same_object.2 ⟨by simpa using both.length_eq, ?_⟩
      intro entry listed
      obtain ⟨other, found, same⟩ := List.mem_map.1 (both.mem_iff.1 (List.mem_map.2 ⟨entry, listed, rfl⟩))
      obtain ⟨key, rewritten⟩ := Prod.mk.inj same
      refine ⟨other.2, ?_, ?_⟩
      · have key : other.1 = entry.1 := key
        rw [← key]
        exact found
      · exact ih entry listed ((every_object.1 valid).2 entry listed) ((every_object.1 valid_).2 other found)
          rewritten.symm
    | _ => simp [canonicalValue, rebuilt] at equal
  | _ => cases another <;> simp_all [canonicalValue, rebuilt, Same]

/-- Without ties, values that are equal up to the order of keys have one canonical
    value. -/
theorem canonicalValue_of_same (valid : value.Json) (valid_ : another.Json) (untied : Untied collation value)
    (same : Same value another) : canonicalValue collation value = canonicalValue collation another := by
  induction value using Value.induct generalizing another with
  | array items ih =>
    cases another with
    | array others =>
      rw [canonicalValue, canonicalValue, rebuilt_array, rebuilt_array, array.injEq]
      refine map_eq_of_same (same_array.1 same) fun item listed other found same => ?_
      exact ih item listed ((every_array.1 valid).2 item listed) ((every_array.1 valid_).2 other found)
        ((every_array.1 untied).2 item listed) same
    | _ => simp [Same] at same
  | object entries ih =>
    cases another with
    | object members =>
      obtain ⟨length, each⟩ := same_object.1 same
      have distinct := (every_object.1 valid).1.distinct
      have keys := keys_rewritten entries (canonicalValue collation)
      have inside : entries.map (Prod.map id (canonicalValue collation)) ⊆
          members.map (Prod.map id (canonicalValue collation)) := by
        intro entry listed
        obtain ⟨original, held, rfl⟩ := List.mem_map.1 listed
        obtain ⟨other, found, same⟩ := each original held
        refine List.mem_map.2 ⟨(original.1, other), found, ?_⟩
        have equal := ih original held ((every_object.1 valid).2 original held) ((every_object.1 valid_).2 _ found)
          ((every_object.1 untied).2 original held) same
        rw [Prod.map, Prod.map, equal]
      have perm := (List.subperm_of_subset (List.Nodup.of_map Prod.fst (keys ▸ distinct)) inside).perm_of_length_le
        (by simp [length])
      rw [canonicalValue, canonicalValue, rebuilt_object, rebuilt_object, object.injEq]
      exact arranged_eq perm (keys ▸ distinct) (rewritten_defined valid) (keys ▸ (every_object.1 untied).1)
    | _ => simp [Same] at same
  | _ => cases another <;> simp_all [Same]

/-- Two members of a list without repetitions stand in one order. -/
theorem order_unique {α : Type} {list : List α} {left right : α} (distinct : list.Nodup) (up : [left, right].Sublist list)
    (down : [right, left].Sublist list) : False := by
  induction list with
  | nil => cases up
  | cons head rest ih =>
    obtain ⟨new, distinct⟩ := List.nodup_cons.1 distinct
    cases up with
    | cons _ up =>
      cases down with
      | cons _ down => exact ih distinct up down
      | cons_cons _ down => exact new (up.subset (by simp))
    | cons_cons _ up =>
      have later : right ∈ rest := up.subset (by simp)
      cases down with
      | cons _ down => exact new (down.subset (by simp))
      | cons_cons _ down => exact new later

/-- Tied keys stay in the order in which they were added. -/
theorem tied_sublist {keys : List String} {left right : String} (tied : Tied collation left right)
    (added : [left, right].Sublist keys) : [left, right].Sublist (propertyOrder id (keys.mergeSort collation.le)) := by
  have sorted := List.pair_sublist_mergeSort collation.trans collation.total tied.2.2.1 added
  have others : [left, right].Sublist (named id (keys.mergeSort collation.le)) := by
    have kept := sorted.filter fun key => (arrayIndex key).isNone
    simpa [tied.1, tied.2.1, named] using kept
  exact others.trans (List.sublist_append_right _ _)

/-- An order that does not change when the keys are added in the opposite order leaves
    none of them open. -/
theorem untied_of_turned {keys : List String} (distinct : keys.Nodup)
    (equal : propertyOrder id ((propertyOrder id keys.reverse).mergeSort collation.le) =
      propertyOrder id (keys.mergeSort collation.le)) :
    keys.Pairwise fun left right => ¬ Tied collation left right := by
  refine List.pairwise_iff_forall_sublist.2 fun {left right} added tied => ?_
  have turned : [right, left].Sublist (propertyOrder id keys.reverse) := by
    have kept := added.reverse.filter fun key => (arrayIndex key).isNone
    have others : [right, left].Sublist (named id keys.reverse) := by simpa [tied.1, tied.2.1, named] using kept
    exact others.trans (List.sublist_append_right _ _)
  have down := tied_sublist tied.symm turned
  rw [equal] at down
  have perm := (propertyOrder_perm id (keys.mergeSort collation.le)).trans (keys.mergeSort_perm _)
  exact order_unique (perm.nodup_iff.2 distinct) (tied_sublist tied added) down

theorem keys_arranged (collation : Collation) (held : ∀ entry ∈ entries, defined entry.2 = true) :
    (fromEntries (sortedEntries collation entries)).map Prod.fst =
      propertyOrder id ((entries.map Prod.fst).mergeSort collation.le) := by
  rw [fromEntries, map_propertyOrder, sortedEntries_eq collation held]
  exact congrArg _ (List.map_mergeSort fun _ _ _ _ => rfl)

/-- If the canonical value is unchanged by building the objects in the opposite order,
    nothing is tied. -/
theorem untied_of_canonicalValue (valid : value.Json)
    (equal : canonicalValue collation (turned value) = canonicalValue collation value) : Untied collation value := by
  induction value using Value.induct with
  | array items ih =>
    rw [turned, rebuilt_array, canonicalValue, canonicalValue, rebuilt_array, rebuilt_array, array.injEq,
      List.map_map] at equal
    refine every_array.2 ⟨trivial, fun item listed => ih item listed ((every_array.1 valid).2 item listed) ?_⟩
    exact List.map_inj_left.1 equal item listed
  | object entries ih =>
    have distinct := (every_object.1 valid).1.distinct
    have built := rebuilt_json reverse_keeps valid
    have perm := rewritten_perm reverse_keeps valid
    rw [rebuilt_object] at built
    rw [turned, rebuilt_object, canonicalValue, canonicalValue, rebuilt_object, rebuilt_object, object.injEq] at equal
    refine every_object.2 ⟨?_, ?_⟩
    · have keys := congrArg (List.map Prod.fst) equal
      rw [keys_arranged collation (rewritten_defined built), keys_arranged collation (rewritten_defined valid),
        keys_rewritten, keys_rewritten, fromEntries, map_propertyOrder, List.map_reverse, keys_rewritten] at keys
      exact untied_of_turned distinct keys
    · intro entry listed
      have own := rewritten_perm (sorted_keeps collation) valid
      have theirs := rewritten_perm (sorted_keeps collation) built
      have both := theirs.symm.trans (equal ▸ own)
      obtain ⟨_, found, same⟩ := List.mem_map.1 (both.mem_iff.2 (List.mem_map.2 ⟨entry, listed, rfl⟩))
      obtain ⟨original, held, rfl⟩ := List.mem_map.1 (perm.mem_iff.1 found)
      obtain ⟨key, rewritten⟩ := Prod.mk.inj same
      obtain rfl := List.inj_on_of_nodup_map distinct held listed key
      exact ih original held ((every_object.1 valid).2 original held) rewritten
  | _ => trivial

end

/-! ### Canonical JSON -/

/-- What comes back of a command that was written to the outbox and sent over the broker. -/
def delivered (host : Host) (command : JsonValue) : Option JsonValue := host.parse (jsonb command.1).serialize

/-- The canonical JSON of a value stands for it, whatever the order of the keys. -/
structure Canonical (host : Host) (value : JsonValue) : Prop where
  decides : ∀ other : JsonValue,
    canonicalJson host.collation value.1 = canonicalJson host.collation other.1 ↔ Same value.1 other.1
  parsed : ∀ read : JsonValue, host.parse value.1.serialize = some read →
    canonicalJson host.collation read.1 = canonicalJson host.collation value.1
  stored : canonicalJson host.collation (jsonb value.1) = canonicalJson host.collation value.1
  admitted : ∀ command : JsonValue, delivered host value = some command →
    canonicalSha256 host command.1 = canonicalSha256 host value.1

section
variable {host : Host} {value : Value}

theorem canonicalJson_inj {collation : Collation} {other : Value} (valid : value.Json) (valid_ : other.Json) :
    canonicalJson collation value = canonicalJson collation other ↔
      canonicalValue collation value = canonicalValue collation other :=
  ⟨serialize_inj (rebuilt_json (sorted_keeps collation) valid) (rebuilt_json (sorted_keeps collation) valid_),
    congrArg serialize⟩

/-- A text is read as the value that it was written for. -/
theorem parse_serialize {read : JsonValue} (valid : value.Json) (found : host.parse value.serialize = some read) :
    read.1 = value :=
  serialize_inj read.2 valid (host.prints ⟨value, valid⟩ read found)

end

/-- The canonical JSON of a value is what it is meant to be if and only if no object in
    the value has two keys that the collation ranks equal. -/
theorem canonical_iff (host : Host) (value : JsonValue) : Canonical host value ↔ Untied host.collation value.1 := by
  obtain ⟨value, valid⟩ := value
  constructor
  · intro canonical
    have built : (turned value).Json := rebuilt_json reverse_keeps valid
    have same : Same value (turned value) := rebuilt_same reverse_keeps valid
    have equal := (canonical.decides ⟨turned value, built⟩).2 same
    exact untied_of_canonicalValue valid ((canonicalJson_inj valid built).1 equal).symm
  · intro untied
    have stored : canonicalJson host.collation (jsonb value) = canonicalJson host.collation value :=
      ((canonicalJson_inj valid (rebuilt_json jsonb_keeps valid)).2
        (canonicalValue_of_same valid (rebuilt_json jsonb_keeps valid) untied (rebuilt_same jsonb_keeps valid))).symm
    refine ⟨fun other => ?_, fun read found => ?_, stored, fun command found => ?_⟩
    · rw [canonicalJson_inj valid other.2]
      exact ⟨same_of_canonicalValue valid other.2, canonicalValue_of_same valid other.2 untied⟩
    · rw [parse_serialize valid found]
    · have read : command.1 = jsonb value := parse_serialize (rebuilt_json jsonb_keeps valid) found
      rw [canonicalSha256, read, stored, canonicalSha256]

/-! ### A command that comes back with another hash -/

theorem characterOrder_total (left right : List Char) :
    (characterOrder left right || characterOrder right left) = true := by
  induction left generalizing right with
  | nil => simp [characterOrder]
  | cons first left ih =>
    cases right with
    | nil => simp [characterOrder]
    | cons second right =>
      have rest := ih right
      simp only [characterOrder, Bool.or_eq_true, Bool.and_eq_true, decide_eq_true_iff] at rest ⊢
      rcases Nat.lt_trichotomy first.toNat second.toNat with less | equal | more
      · exact .inl (.inl less)
      · exact rest.imp (fun up => .inr ⟨equal, up⟩) fun down => .inr ⟨equal.symm, down⟩
      · exact .inr (.inl more)

theorem characterOrder_trans {left middle right : List Char} (up : characterOrder left middle = true)
    (on : characterOrder middle right = true) : characterOrder left right = true := by
  induction left generalizing middle right with
  | nil => rfl
  | cons first left ih =>
    cases middle with
    | nil => simp [characterOrder] at up
    | cons second middle =>
      cases right with
      | nil => simp [characterOrder] at on
      | cons third right =>
        simp only [characterOrder, Bool.or_eq_true, Bool.and_eq_true, decide_eq_true_iff] at up on ⊢
        rcases up with less | ⟨equal, up⟩
        · omega
        · rcases on with less | ⟨equal_, on⟩
          · omega
          · exact .inr ⟨by omega, ih up on⟩

/-- A letter with an accent, taken apart. -/
def decomposed (text : String) : List Char := text.toList.flatMap fun c => if c = 'é' then ['e', '\u0301'] else [c]

/-- A collation that compares the characters of texts taken apart. -/
def sampleCollation : Collation where
  le left right := characterOrder (decomposed left) (decomposed right)
  trans _ _ _ := characterOrder_trans
  total _ _ := characterOrder_total _ _

theorem fromEntries_accents (first second : Bool) :
    fromEntries [("e\u0301", bool first), ("é", bool second)] = [("e\u0301", bool first), ("é", bool second)] ∧
    fromEntries [("é", bool second), ("e\u0301", bool first)] = [("é", bool second), ("e\u0301", bool first)] := by
  have plain : arrayIndex "e\u0301" = none ∧ arrayIndex "é" = none := by decide +kernel
  constructor <;> exact propertyOrder_of_named (by simp [plain.1, plain.2])

/-- Two keys that print alike, the shorter one added last. -/
def accents : JsonValue :=
  ⟨object [("e\u0301", bool false), ("é", bool true)],
    every_object.2 ⟨⟨by decide, (fromEntries_accents _ _).1⟩, by simp [Every]⟩⟩

/-- The same value, its keys added in the opposite order. -/
def swapped : JsonValue :=
  ⟨object [("é", bool true), ("e\u0301", bool false)],
    every_object.2 ⟨⟨by decide, (fromEntries_accents _ _).2⟩, by simp [Every]⟩⟩

theorem jsonb_accents : jsonb accents.1 = swapped.1 := by
  have order : jsonbOrder "e\u0301" "é" = false ∧ jsonbOrder "é" "e\u0301" = true := by decide +kernel
  have sorts : [("e\u0301", bool false), ("é", bool true)].mergeSort (byKey jsonbOrder) =
      [("é", bool true), ("e\u0301", bool false)] := by
    simp [List.mergeSort, byKey, order.1]
  rw [jsonb, accents, rebuilt_object]
  exact congrArg object ((congrArg fromEntries sorts).trans (fromEntries_accents _ _).2)

theorem canonical_accents : canonicalValue sampleCollation accents.1 = accents.1 ∧
    canonicalValue sampleCollation swapped.1 = swapped.1 := by
  have tied : sampleCollation.le "e\u0301" "é" = true ∧ sampleCollation.le "é" "e\u0301" = true := by decide +kernel
  constructor
  · rw [accents, canonicalValue, rebuilt_object]
    refine congrArg object (Eq.trans ?_ (fromEntries_accents _ _).1)
    exact congrArg fromEntries (List.mergeSort_of_pairwise (by simp [defined, byKey, tied.1, rebuilt]))
  · rw [swapped, canonicalValue, rebuilt_object]
    refine congrArg object (Eq.trans ?_ (fromEntries_accents _ _).2)
    exact congrArg fromEntries (List.mergeSort_of_pairwise (by simp [defined, byKey, tied.2, rebuilt]))

/-- A runtime that reads the two texts, and a hash that tells every text apart. -/
def sampleHost : Host where
  collation := sampleCollation
  parse text := [accents, swapped].find? fun value => value.1.serialize = text
  prints value read found := by
    have texts := List.find?_some found
    exact of_decide_eq_true texts
  sha256 := String.ofList

/-- Two keys that print alike: adding them in the other order, which is what the outbox
    does, changes the canonical JSON and the hash. -/
theorem swapped_hash : Same accents.1 swapped.1 ∧
    canonicalJson sampleHost.collation accents.1 ≠ canonicalJson sampleHost.collation swapped.1 ∧
    delivered sampleHost accents = some swapped ∧
    canonicalSha256 sampleHost swapped.1 ≠ canonicalSha256 sampleHost accents.1 := by
  have apart : canonicalJson sampleHost.collation accents.1 ≠ canonicalJson sampleHost.collation swapped.1 := by
    rw [canonicalJson, canonicalJson, sampleHost, canonical_accents.1, canonical_accents.2]
    decide +kernel
  have reads : delivered sampleHost accents = some swapped := by
    have first : accents.1.serialize ≠ swapped.1.serialize := by decide +kernel
    rw [delivered, jsonb_accents]
    simp [sampleHost, first]
  refine ⟨?_, apart, reads, fun same => apart (String.ofList_injective same).symm⟩
  exact same_object.2 ⟨rfl, by simp [Same]⟩

end ControlPlane.CanonicalJson
