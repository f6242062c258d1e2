import Mathlib.Data.List.Basic
import Mathlib.Data.List.Nodup
import Mathlib.Data.List.Perm.Basic
import Mathlib.Data.List.Perm.Subperm

/-!
Values of JSON as a program holds them, and the texts that `JSON.stringify` writes
for them. An object keeps its properties in an order that is no part of what it
says, and a text is that of one value only.
-/
namespace ControlPlane.JsonTexts

/-! ### Values -/

/-- The characters of the texts that numbers print as. -/
def numeric : List Char := "0123456789.e+-".toList

/-- A number, given by the text that it prints as. -/
@[ext] structure Numeral where
  printed : List Char
  nonempty : printed ≠ []
  valid : ∀ c ∈ printed, c ∈ numeric

/-- What a property holds. A property that is there may be undefined, which no JSON
    text can say. -/
inductive Value
  | undefined
  | null
  | bool (value : Bool)
  | number (value : Numeral)
  | string (value : String)
  | array (items : List Value)
  | object (entries : List (String × Value))

namespace Value

/-- A property of a value, which a value without properties does not have. -/
def property (key : String) : Value → Value
  | object entries => (entries.lookup key).getD undefined
  | _ => undefined

/-- A value that is a text. -/
def text : Value → Option String
  | string value => some value
  | _ => none

/-- A value that is a list. -/
def items : Value → Option (List Value)
  | array values => some values
  | _ => none

/-- Induction over a value and what it holds at any depth. -/
theorem induct {motive : Value → Prop} (undefined : motive undefined) (null : motive null)
    (bool : ∀ value, motive (bool value)) (number : ∀ value, motive (number value))
    (string : ∀ value, motive (string value))
    (array : ∀ items, (∀ item ∈ items, motive item) → motive (array items))
    (object : ∀ entries, (∀ entry ∈ entries, motive entry.2) → motive (object entries)) (value : Value) :
    motive value :=
  @Value.rec motive (fun items => ∀ item ∈ items, motive item) (fun entries => ∀ entry ∈ entries, motive entry.2)
    (fun entry => motive entry.2) undefined null bool number string array object nofun
    (fun _ _ first rest => List.forall_mem_cons.2 ⟨first, rest⟩) nofun
    (fun _ _ first rest => List.forall_mem_cons.2 ⟨first, rest⟩) (fun _ _ held => held) value

mutual

/-- A condition on a value and on every value in it, at any depth. -/
def Every (condition : Value → Prop) : Value → Prop
  | array items => condition (array items) ∧ EveryItem condition items
  | object entries => condition (object entries) ∧ EveryEntry condition entries
  | value => condition value

def EveryItem (condition : Value → Prop) : List Value → Prop
  | [] => True
  | item :: rest => Every condition item ∧ EveryItem condition rest

def EveryEntry (condition : Value → Prop) : List (String × Value) → Prop
  | [] => True
  | (_, value) :: rest => Every condition value ∧ EveryEntry condition rest

end

mutual

/-- Two values are equal up to the order of the keys of their objects, at any depth. -/
def Same : Value → Value → Prop
  | array items, array others => SameItems items others
  | object entries, object others => entries.length = others.length ∧ SameEntries entries others
  | value, other => value = other

def SameItems : List Value → List Value → Prop
  | [], [] => True
  | item :: rest, other :: others => Same item other ∧ SameItems rest others
  | _, _ => False

/-- Every entry has one with its key and the same value among the others. -/
def SameEntries : List (String × Value) → List (String × Value) → Prop
  | [], _ => True
  | (key, value) :: rest, others => (∃ other, (key, other) ∈ others ∧ Same value other) ∧ SameEntries rest others

end

example (condition : Value → Prop) : Every condition (array [null]) ↔ condition (array [null]) ∧ condition null := by
  simp [Every, EveryItem]

example (condition : Value → Prop) : EveryEntry condition [("name", null)] ↔ condition null := by simp [EveryEntry, Every]

example : Same (array [null, bool true]) (array [null, bool true]) := by simp [Same, SameItems]

example : SameEntries [("name", null)] [("size", null), ("name", null)] := by simp [SameEntries, Same]

section
variable {condition : Value → Prop} {items others : List Value} {entries members : List (String × Value)}

theorem everyItem_iff : EveryItem condition items ↔ ∀ item ∈ items, Every condition item := by
  induction items with
  | nil => simp [EveryItem]
  | cons item rest ih => simp [EveryItem, ih]

theorem everyEntry_iff : EveryEntry condition entries ↔ ∀ entry ∈ entries, Every condition entry.2 := by
  induction entries with
  | nil => simp [EveryEntry]
  | cons entry rest ih => simp [EveryEntry, ih]

@[simp] theorem every_array :
    Every condition (array items) ↔ condition (array items) ∧ ∀ item ∈ items, Every condition item := by
  rw [Every, everyItem_iff]

@[simp] theorem every_object :
    Every condition (object entries) ↔ condition (object entries) ∧ ∀ entry ∈ entries, Every condition entry.2 := by
  rw [Every, everyEntry_iff]

theorem sameItems_iff : SameItems items others ↔ List.Forall₂ Same items others := by
  induction items generalizing others with
  | nil => cases others <;> simp [SameItems]
  | cons item rest ih => cases others <;> simp [SameItems, ih]

theorem sameEntries_iff : SameEntries entries members ↔
    ∀ entry ∈ entries, ∃ other, (entry.1, other) ∈ members ∧ Same entry.2 other := by
  induction entries with
  | nil => simp [SameEntries]
  | cons entry rest ih => simp only [SameEntries, ih, List.forall_mem_cons]

@[simp] theorem same_array : Same (array items) (array others) ↔ List.Forall₂ Same items others := by
  rw [Same, sameItems_iff]

@[simp] theorem same_object : Same (object entries) (object members) ↔ entries.length = members.length ∧
    ∀ entry ∈ entries, ∃ other, (entry.1, other) ∈ members ∧ Same entry.2 other := by
  rw [Same, sameEntries_iff]

end

end Value

/-! ### The order of properties -/

/-- The number of a key that is an array index. -/
def arrayIndex (key : String) : Option Nat :=
  let index := key.toList.foldl (fun value c => 10 * value + (c.toNat - '0'.toNat)) 0
  if toString index = key ∧ index < 4294967295 then some index else none

theorem arrayIndex_inj {left right : String} {index : Nat} (first : arrayIndex left = some index)
    (second : arrayIndex right = some index) : left = right := by
  have shown : ∀ {key : String}, arrayIndex key = some index → toString index = key := by
    intro key found
    simp only [arrayIndex, Option.ite_none_right_eq_some, Option.some.injEq] at found
    obtain ⟨⟨printed, -⟩, rfl⟩ := found
    exact printed
  exact (shown first).symm.trans (shown second)

/-- Whether an array index does not come after another one. -/
def ascending (left right : String) : Bool := (arrayIndex left).getD 0 ≤ (arrayIndex right).getD 0

/-- The entries whose keys are array indices, in ascending order. -/
def indexed {α : Type} (key : α → String) (added : List α) : List α :=
  (added.filter fun entry => (arrayIndex (key entry)).isSome).mergeSort fun left right => ascending (key left) (key right)

/-- The entries with the other keys, in the order in which they were added. -/
def named {α : Type} (key : α → String) (added : List α) : List α :=
  added.filter fun entry => (arrayIndex (key entry)).isNone

/-- The order that an object gives its properties. -/
def propertyOrder {α : Type} (key : α → String) (added : List α) : List α := indexed key added ++ named key added

/-- `Object.fromEntries(entries)`, for entries with different keys. -/
def fromEntries (entries : List (String × Value)) : List (String × Value) := propertyOrder Prod.fst entries

section
variable {α : Type} {key : α → String} {added : List α}

theorem mem_indexed {entry : α} : entry ∈ indexed key added ↔ entry ∈ added ∧ (arrayIndex (key entry)).isSome := by
  simp [indexed]

theorem mem_named {entry : α} : entry ∈ named key added ↔ entry ∈ added ∧ arrayIndex (key entry) = none := by
  simp [named]

theorem ascending_trans {first second third : String} (left : ascending first second = true)
    (right : ascending second third = true) : ascending first third = true := by
  rw [ascending, decide_eq_true_iff] at *
  exact Nat.le_trans left right

theorem ascending_total (left right : String) : (ascending left right || ascending right left) = true := by
  rw [Bool.or_eq_true, ascending, ascending, decide_eq_true_iff, decide_eq_true_iff]
  exact Nat.le_total _ _

theorem ascending_antisymm {left right : String} (first : (arrayIndex left).isSome) (second : (arrayIndex right).isSome)
    (up : ascending left right = true) (down : ascending right left = true) : left = right := by
  obtain ⟨low, found⟩ := Option.isSome_iff_exists.1 first
  obtain ⟨high, found_⟩ := Option.isSome_iff_exists.1 second
  rw [ascending, decide_eq_true_iff, found, found_] at up down
  have same : low = high := Nat.le_antisymm up down
  exact arrayIndex_inj found (same ▸ found_)

theorem indexed_sorted (key : α → String) (added : List α) :
    (indexed key added).Pairwise fun left right => ascending (key left) (key right) = true :=
  @List.pairwise_mergeSort α (fun left right => ascending (key left) (key right)) (fun _ _ _ => ascending_trans)
    (fun _ _ => ascending_total _ _) _

theorem propertyOrder_perm (key : α → String) (added : List α) : (propertyOrder key added).Perm added := by
  have split := List.filter_append_perm (fun entry => (arrayIndex (key entry)).isSome) added
  refine ((List.mergeSort_perm _ _).append_right _).trans ?_
  simpa [named] using split

/-- The order depends on the keys only. -/
theorem map_propertyOrder : (propertyOrder key added).map key = propertyOrder id (added.map key) := by
  simp only [propertyOrder, indexed, named, List.map_append, List.filter_map, Function.comp_def, id]
  congr 1
  exact List.map_mergeSort fun _ _ _ _ => rfl

theorem propertyOrder_of_named (plain : ∀ entry ∈ added, arrayIndex (key entry) = none) : propertyOrder key added = added := by
  have indices : added.filter (fun entry => (arrayIndex (key entry)).isSome) = [] :=
    List.filter_eq_nil_iff.2 fun entry listed => by simp [plain entry listed]
  have others : named key added = added := List.filter_eq_self.2 fun entry listed => by simp [plain entry listed]
  rw [propertyOrder, indexed, indices, others, List.mergeSort_nil, List.nil_append]

/-- An object that is read and built again has its properties in the order they had. -/
theorem propertyOrder_again : propertyOrder key (propertyOrder key added) = propertyOrder key added := by
  have indices : (propertyOrder key added).filter (fun entry => (arrayIndex (key entry)).isSome) = indexed key added := by
    have own : (indexed key added).filter (fun entry => (arrayIndex (key entry)).isSome) = indexed key added :=
      List.filter_eq_self.2 fun entry listed => (mem_indexed.1 listed).2
    have rest : (named key added).filter (fun entry => (arrayIndex (key entry)).isSome) = [] :=
      List.filter_eq_nil_iff.2 fun entry listed => by simp [(mem_named.1 listed).2]
    rw [propertyOrder, List.filter_append, own, rest, List.append_nil]
  have others : named key (propertyOrder key added) = named key added := by
    have own : named key (named key added) = named key added :=
      List.filter_eq_self.2 fun entry listed => by simp [(mem_named.1 listed).2]
    have rest : named key (indexed key added) = [] :=
      List.filter_eq_nil_iff.2 fun entry listed => by
        have some_ := (mem_indexed.1 listed).2
        simpa [Option.isSome_iff_ne_none] using some_
    rw [propertyOrder, named, List.filter_append]
    exact (congrArg (· ++ _) rest).trans own
  have again : indexed key (propertyOrder key added) = indexed key added := by
    rw [indexed, indices]
    exact List.mergeSort_of_pairwise (indexed_sorted key added)
  rw [propertyOrder, again, others, propertyOrder]

end

/-- The properties of an object have different keys and stand in their order. -/
structure Held (entries : List (String × Value)) : Prop where
  distinct : (entries.map Prod.fst).Nodup
  ordered : fromEntries entries = entries

/-- A value that a JSON text can say. -/
def Value.Json : Value → Prop :=
  Value.Every fun
    | undefined => False
    | object entries => Held entries
    | _ => True

/-- A value in which nothing is undefined. -/
def Value.Said : Value → Prop :=
  Value.Every fun
    | undefined => False
    | _ => True

/-- A JSON value that a program holds. -/
abbrev JsonValue := { value : Value // value.Json }

/-! ### Texts -/

/-- A hexadecimal digit. -/
def hexDigit (n : Nat) : Char := "0123456789abcdef".toList.getD n '0'

/-- How a character stands in a string literal. -/
def escape (c : Char) : List Char :=
  if c = '"' then ['\\', '"']
  else if c = '\\' then ['\\', '\\']
  else if c = '\x08' then ['\\', 'b']
  else if c = '\x0c' then ['\\', 'f']
  else if c = '\n' then ['\\', 'n']
  else if c = '\r' then ['\\', 'r']
  else if c = '\t' then ['\\', 't']
  else if c.toNat < 32 then ['\\', 'u', '0', '0', hexDigit (c.toNat / 16), hexDigit (c.toNat % 16)]
  else [c]

/-- The characters of a string literal, after its opening quote. -/
def quotedAfter (characters : List Char) : List Char := characters.flatMap escape ++ ['"']

/-- A string literal. -/
def quoted (text : String) : List Char := '"' :: quotedAfter text.toList

/-- Texts with commas between them. -/
def joined : List (List Char) → List Char
  | [] => []
  | text :: rest => text ++ rest.flatMap (',' :: ·)

namespace Value
mutual

/-- `JSON.stringify(value)`. An item that is undefined prints as null, and a property
    that is undefined is left out. -/
def serialize : Value → List Char
  | undefined | null => "null".toList
  | bool true => "true".toList
  | bool false => "false".toList
  | number value => value.printed
  | string value => quoted value
  | array items => '[' :: (joined (itemTexts items) ++ [']'])
  | object entries => '{' :: (joined (memberTexts entries) ++ ['}'])

def itemTexts : List Value → List (List Char)
  | [] => []
  | item :: rest => serialize item :: itemTexts rest

def memberTexts : List (String × Value) → List (List Char)
  | [] => []
  | (_, undefined) :: rest => memberTexts rest
  | (key, value) :: rest => (quoted key ++ ':' :: serialize value) :: memberTexts rest

end
end Value

/-! ### A text has one value -/

/-- No longer number begins with what precedes this text. -/
def Stops (rest : List Char) : Prop := ∀ c ∈ rest.head?, c ∉ numeric

/-- The value that a text begins with, and where that one ends, is determined by the
    text. -/
def Reads {α : Type} (print : α → List Char) (valid : α → Prop) (a : α) : Prop :=
  ∀ b rest other, valid b → Stops rest → Stops other → print a ++ rest = print b ++ other → a = b ∧ rest = other

/-- The characters that stand behind a backslash. -/
def escaped : List Char := '"' :: '\\' :: (List.range 32).map Char.ofNat

theorem escaped_begins : (escaped.all fun a => escaped.all fun b => (escape a).isPrefixOf (escape b) → a = b) = true := by
  decide +kernel

theorem escaped_length : (escaped.all fun a => (escape a).head? = some '\\' ∧ 1 < (escape a).length) = true := by
  decide +kernel

example : escape '"' = ['\\', '"'] := by decide +kernel

theorem mem_escaped_of_lt {c : Char} (control : c.toNat < 32) : c ∈ escaped := by
  have found : c ∈ (List.range 32).map Char.ofNat :=
    List.mem_map.2 ⟨c.toNat, List.mem_range.2 control, Char.ofNat_toNat c⟩
  simp [escaped, found]

theorem escape_plain {c : Char} (plain : c ∉ escaped) : escape c = [c] := by
  have differs : ∀ {d : Char}, d ∈ escaped → c ≠ d := by
    rintro d listed rfl
    exact plain listed
  have printing : ¬ c.toNat < 32 := fun control => plain (mem_escaped_of_lt control)
  rw [escape, if_neg (differs (by decide)), if_neg (differs (by decide)), if_neg (differs (by decide)),
    if_neg (differs (by decide)), if_neg (differs (by decide)), if_neg (differs (by decide)),
    if_neg (differs (by decide)), if_neg printing]

/-- No character is written as the beginning of another one. -/
theorem escape_begins {a b : Char} (begins : escape a <+: escape b) : a = b := by
  by_cases first : a ∈ escaped
  · have long := of_decide_eq_true (List.all_eq_true.1 escaped_length a first)
    by_cases second : b ∈ escaped
    · exact of_decide_eq_true (List.all_eq_true.1 (List.all_eq_true.1 escaped_begins a first) b second)
        ( List.isPrefixOf_iff_prefix.2 begins)
    · rw [escape_plain second] at begins
      exact absurd begins.length_le (by simpa using long.2)
  · rw [escape_plain first] at begins
    by_cases second : b ∈ escaped
    · have long := of_decide_eq_true (List.all_eq_true.1 escaped_length b second)
      obtain ⟨rest, split⟩ := begins
      rw [← split] at long
      have slash : a = '\\' := by simpa using long.1
      exact absurd (by rw [slash]; decide) first
    · rw [escape_plain second] at begins
      simpa using begins

theorem escape_opens (c : Char) : ∃ first rest, escape c = first :: rest ∧ first ≠ '"' := by
  by_cases listed : c ∈ escaped
  · have long := of_decide_eq_true (List.all_eq_true.1 escaped_length c listed)
    cases written : escape c with
    | nil => simp [written] at long
    | cons first rest =>
      have slash : first = '\\' := by simpa [written] using long.1
      exact ⟨first, rest, rfl, by rw [slash]; decide⟩
  · refine ⟨c, [], escape_plain listed, ?_⟩
    rintro rfl
    exact listed (by decide)

theorem escape_reads {a b : Char} {rest other : List Char} (same : escape a ++ rest = escape b ++ other) :
    a = b ∧ rest = other := by
  have agree : a = b := by
    have left : escape a <+: escape b ++ other := ⟨rest, same⟩
    have right : escape b <+: escape b ++ other := ⟨other, rfl⟩
    rcases List.prefix_or_prefix_of_prefix left right with begins | begins
    · exact escape_begins begins
    · exact (escape_begins begins).symm
  subst agree
  exact ⟨rfl, List.append_cancel_left same⟩

theorem quotedAfter_reads {characters others rest other : List Char}
    (same : quotedAfter characters ++ rest = quotedAfter others ++ other) : characters = others ∧ rest = other := by
  induction characters generalizing others with
  | nil =>
    cases others with
    | nil => exact ⟨rfl, List.append_cancel_left same⟩
    | cons b others =>
      obtain ⟨first, tail, written, opens⟩ := escape_opens b
      simp [quotedAfter, written] at same
      exact absurd same.1.symm opens
  | cons a characters ih =>
    cases others with
    | nil =>
      obtain ⟨first, tail, written, opens⟩ := escape_opens a
      simp [quotedAfter, written] at same
      exact absurd same.1 opens
    | cons b others =>
      have split : escape a ++ (quotedAfter characters ++ rest) = escape b ++ (quotedAfter others ++ other) := by
        simpa [quotedAfter] using same
      obtain ⟨rfl, remaining⟩ := escape_reads split
      obtain ⟨rfl, ends⟩ := ih remaining
      exact ⟨rfl, ends⟩

theorem quoted_reads {text another : String} {rest other : List Char}
    (same : quoted text ++ rest = quoted another ++ other) : text = another ∧ rest = other := by
  obtain ⟨characters, ends⟩ := quotedAfter_reads (List.cons.inj same).2
  exact ⟨String.toList_injective characters, ends⟩

/-- A number ends before the first character that is not one of a number. -/
theorem numeral_reads {numeral another : Numeral} {rest other : List Char} (stops : Stops rest) (halts : Stops other)
    (same : numeral.printed ++ rest = another.printed ++ other) : numeral = another ∧ rest = other := by
  have taken : ∀ (number : Numeral) {rest : List Char}, Stops rest →
      (number.printed ++ rest).takeWhile (· ∈ numeric) = number.printed := by
    intro number rest stops
    rw [List.takeWhile_append_of_pos fun c listed => decide_eq_true (number.valid c listed)]
    cases rest with
    | nil => simp
    | cons c rest =>
      have ends : c ∉ numeric := stops c rfl
      simp [ends]
  have printed : numeral.printed = another.printed := by
    rw [← taken numeral stops, same, taken another halts]
  exact ⟨Numeral.ext printed, List.append_cancel_left (printed ▸ same)⟩

section
variable {α : Type} {print : α → List Char} {valid : α → Prop} {close : Char} {items others : List α}
  {rest other : List Char}

theorem stops_cons {c : Char} (ends : c ∉ numeric) : Stops (c :: rest) := by
  intro d first
  obtain rfl : c = d := by simpa using first
  exact ends

theorem stops_following (ends : close ∉ numeric) (texts : List (List Char)) :
    Stops (texts.flatMap (',' :: ·) ++ close :: rest) := by
  cases texts with
  | nil => exact stops_cons ends
  | cons text texts => exact stops_cons (by decide)

theorem following_reads (ends : close ∉ numeric) (apart : close ≠ ',') (reads : ∀ item ∈ items, Reads print valid item)
    (valid_ : ∀ item ∈ others, valid item)
    (same : (items.map print).flatMap (',' :: ·) ++ close :: rest =
      (others.map print).flatMap (',' :: ·) ++ close :: other) : items = others ∧ rest = other := by
  induction items generalizing others with
  | nil =>
    cases others with
    | nil => exact ⟨rfl, (List.cons.inj same).2⟩
    | cons b others => exact absurd (List.cons.inj same).1 apart
  | cons a items ih =>
    cases others with
    | nil => exact absurd (List.cons.inj same).1.symm apart
    | cons b others =>
      rw [List.forall_mem_cons] at reads valid_
      simp only [List.map_cons, List.flatMap_cons, List.cons_append, List.append_assoc, List.cons.injEq, true_and] at same
      obtain ⟨rfl, remaining⟩ := reads.1 b _ _ valid_.1 (stops_following ends _) (stops_following ends _) same
      obtain ⟨rfl, after⟩ := ih reads.2 valid_.2 remaining
      exact ⟨rfl, after⟩

/-- A list of texts between brackets, none of which begins like the closing one. -/
theorem joined_reads (ends : close ∉ numeric) (apart : close ≠ ',') (reads : ∀ item ∈ items, Reads print valid item)
    (valid_ : ∀ item ∈ others, valid item)
    (opens : ∀ item, ∃ first tail, print item = first :: tail ∧ first ≠ close)
    (same : joined (items.map print) ++ close :: rest = joined (others.map print) ++ close :: other) :
    items = others ∧ rest = other := by
  cases items with
  | nil =>
    cases others with
    | nil => exact ⟨rfl, (List.cons.inj same).2⟩
    | cons b others =>
      obtain ⟨first, tail, printed, differs⟩ := opens b
      simp only [List.map_nil, List.map_cons, joined, printed, List.nil_append, List.cons_append, List.cons.injEq] at same
      exact absurd same.1.symm differs
  | cons a items =>
    cases others with
    | nil =>
      obtain ⟨first, tail, printed, differs⟩ := opens a
      simp only [List.map_nil, List.map_cons, joined, printed, List.nil_append, List.cons_append, List.cons.injEq] at same
      exact absurd same.1 differs
    | cons b others =>
      rw [List.forall_mem_cons] at reads valid_
      simp only [List.map_cons, joined, List.append_assoc] at same
      obtain ⟨rfl, remaining⟩ := reads.1 b _ _ valid_.1 (stops_following ends _) (stops_following ends _) same
      obtain ⟨rfl, after⟩ := following_reads ends apart reads.2 valid_.2 remaining
      exact ⟨rfl, after⟩

end

namespace Value

/-- What kind of value begins with a character. -/
def kindOf (c : Char) : Char := if c ∈ numeric then '0' else c

/-- The kind of a value, by the character that its text begins with. -/
def kind : Value → Char
  | undefined | null => 'n'
  | bool value => if value then 't' else 'f'
  | number _ => '0'
  | string _ => '"'
  | array _ => '['
  | object _ => '{'

theorem serialize_opens (value : Value) : ∃ first tail, serialize value = first :: tail ∧ kindOf first = value.kind := by
  cases value with
  | number value =>
    obtain ⟨first, tail, printed⟩ := List.exists_cons_of_ne_nil value.nonempty
    refine ⟨first, tail, printed, if_pos (value.valid first ?_)⟩
    rw [printed]
    exact List.mem_cons_self
  | bool value => cases value <;> exact ⟨_, _, rfl, by decide⟩
  | undefined | null => exact ⟨_, _, rfl, by decide⟩
  | string value => exact ⟨_, _, rfl, (by decide : kindOf '"' = '"')⟩
  | array items => exact ⟨_, _, rfl, (by decide : kindOf '[' = '[')⟩
  | object entries => exact ⟨_, _, rfl, (by decide : kindOf '{' = '{')⟩

theorem kind_eq {value another : Value} {rest other : List Char}
    (same : serialize value ++ rest = serialize another ++ other) : value.kind = another.kind := by
  obtain ⟨first, tail, printed, kind⟩ := serialize_opens value
  obtain ⟨second, more, written, like⟩ := serialize_opens another
  rw [printed, written] at same
  rw [← kind, ← like, (List.cons.inj same).1]

/-- An entry of an object, as it prints. -/
def member (entry : String × Value) : List Char := quoted entry.1 ++ ':' :: serialize entry.2

theorem itemTexts_eq (items : List Value) : itemTexts items = items.map serialize := by
  induction items with
  | nil => rfl
  | cons item rest ih => rw [itemTexts, ih, List.map_cons]

theorem memberTexts_eq {entries : List (String × Value)} (defined : ∀ entry ∈ entries, entry.2 ≠ undefined) :
    memberTexts entries = entries.map member := by
  induction entries with
  | nil => rfl
  | cons entry rest ih =>
    obtain ⟨key, value⟩ := entry
    rw [List.forall_mem_cons] at defined
    rw [memberTexts.eq_3 _ _ _ defined.1, ih defined.2]
    rfl

theorem Said.defined {value : Value} (valid : value.Said) : value ≠ undefined := by
  rintro rfl
  exact valid

theorem Json.said {value : Value} (valid : value.Json) : value.Said := by
  induction value using Value.induct with
  | array items ih => exact every_array.2 ⟨trivial, fun item listed => ih item listed ((every_array.1 valid).2 item listed)⟩
  | object entries ih => exact every_object.2 ⟨trivial, fun entry listed => ih entry listed ((every_object.1 valid).2 entry listed)⟩
  | undefined => exact valid
  | _ => trivial

theorem Json.defined {value : Value} (valid : value.Json) : value ≠ undefined := (Json.said valid).defined

theorem bracket_free {value : Value} {c : Char} (bracket : kindOf c ∉ ['n', 't', 'f', '0', '"', '[', '{']) :
    ∃ first tail, serialize value = first :: tail ∧ first ≠ c := by
  obtain ⟨first, tail, printed, kind⟩ := serialize_opens value
  refine ⟨first, tail, printed, ?_⟩
  rintro rfl
  rw [kind] at bracket
  revert bracket
  cases value with
  | bool value => cases value <;> simp [Value.kind]
  | _ => simp [Value.kind]

/-- A value is read from its text, whatever follows. -/
theorem serialize_reads {value : Value} (valid : value.Said) : Reads serialize Said value := by
  intro another rest other valid_ stops halts same
  have kinds := kind_eq same
  induction value using Value.induct generalizing another rest other with
  | undefined => exact absurd rfl valid.defined
  | null =>
    cases another with
    | null => exact ⟨rfl, List.append_cancel_left same⟩
    | undefined => exact absurd rfl valid_.defined
    | bool value => cases value <;> simp [kind] at kinds
    | _ => simp [kind] at kinds
  | bool value =>
    cases another with
    | bool another =>
      cases value <;> cases another <;> first | exact ⟨rfl, List.append_cancel_left same⟩ | simp [kind] at kinds
    | _ => cases value <;> simp [kind] at kinds
  | number value =>
    cases another with
    | number another =>
      obtain ⟨rfl, after⟩ := numeral_reads stops halts same
      exact ⟨rfl, after⟩
    | bool value => cases value <;> simp [kind] at kinds
    | _ => simp [kind] at kinds
  | string value =>
    cases another with
    | string another =>
      obtain ⟨rfl, after⟩ := quoted_reads same
      exact ⟨rfl, after⟩
    | bool value => cases value <;> simp [kind] at kinds
    | _ => simp [kind] at kinds
  | array items ih =>
    cases another with
    | array others =>
      have each : ∀ item ∈ items, Reads serialize Said item := by
        intro item listed another rest other valid_ stops halts same
        exact ih item listed ((every_array.1 valid).2 item listed) another rest other valid_ stops halts same (kind_eq same)
      simp only [serialize, itemTexts_eq, List.cons_append, List.append_assoc, List.cons.injEq, true_and,
        List.nil_append] at same
      obtain ⟨rfl, after⟩ := joined_reads (by decide) (by decide) each (every_array.1 valid_).2
        (fun item => bracket_free (by decide)) same
      exact ⟨rfl, after⟩
    | bool value => cases value <;> simp [kind] at kinds
    | _ => simp [kind] at kinds
  | object entries ih =>
    cases another with
    | object members =>
      have inside := (every_object.1 valid).2
      have inside_ := (every_object.1 valid_).2
      have each : ∀ entry ∈ entries, Reads member (fun entry => entry.2.Said) entry := by
        rintro ⟨key, value⟩ listed ⟨another, value_⟩ rest other valid_ stops halts same
        simp only [member, List.append_assoc, List.cons_append] at same
        obtain ⟨rfl, remaining⟩ := quoted_reads same
        have text := (List.cons.inj remaining).2
        obtain ⟨rfl, after⟩ := ih _ listed (inside _ listed) value_ rest other valid_ stops halts text (kind_eq text)
        exact ⟨rfl, after⟩
      simp only [serialize, memberTexts_eq fun entry listed => Said.defined (inside entry listed),
        memberTexts_eq fun entry listed => Said.defined (inside_ entry listed), List.cons_append, List.append_assoc,
        List.cons.injEq, true_and, List.nil_append] at same
      obtain ⟨rfl, after⟩ := joined_reads (by decide) (by decide) each inside_
        (fun entry => ⟨'"', _, rfl, by decide⟩) same
      exact ⟨rfl, after⟩
    | bool value => cases value <;> simp [kind] at kinds
    | _ => simp [kind] at kinds

/-- Only one value has a text, of those in which nothing is undefined. -/
theorem Said.serialize_inj {value another : Value} (valid : value.Said) (valid_ : another.Said)
    (same : serialize value = serialize another) : value = another :=
  (serialize_reads valid another [] [] valid_ nofun nofun (congrArg (· ++ []) same)).1

/-- Only one JSON value has a text. -/
theorem serialize_inj {value another : Value} (valid : value.Json) (valid_ : another.Json)
    (same : serialize value = serialize another) : value = another :=
  (Json.said valid).serialize_inj (Json.said valid_) same

end Value
end ControlPlane.JsonTexts
