import Mathlib.Data.List.Infix

/-!
What JSON.parse returns, and what a program that trusts a type assertion does
with it: properties that may be missing, values that are taken for lists or for
texts, and the type errors of those that are neither.
-/
namespace ControlPlane.JsonValues

/-- A value that was read from JSON. A number is given by the text it prints as,
    and an object by its properties. -/
inductive Json
  | null
  | bool (value : Bool)
  | num (printed : String)
  | str (value : String)
  | arr (items : List Json)
  | obj (fields : List (String × Json))

/-- The exception of an operation on a value that does not have it. -/
structure TypeError where
deriving DecidableEq

/-- The outcome of an expression that may throw. -/
abbrev Evaluated := Except TypeError

namespace Json

/-- A property of the value itself. -/
def own (key : String) : Json → Option Json
  | obj fields => (fields.find? (·.1 = key)).map Prod.snd
  | _ => none

/-- `value.key`: nothing is read from null. -/
def member (key : String) : Json → Evaluated (Option Json)
  | null => throw ⟨⟩
  | value => return value.own key

/-- `value?.key`. -/
def optional (key : String) (value : Option Json) : Option Json := value.bind (own key)

/-- `value ?? fallback`. -/
def coalesce (fallback : Json) : Option Json → Json
  | none | some null => fallback
  | some value => value

/-- Whether a condition takes the value for true. -/
def truthy : Json → Bool
  | null => false
  | bool value => value
  | num printed => printed ≠ "0"
  | str value => value ≠ ""
  | arr _ | obj _ => true

/-- `value === text`. -/
def is (text : String) : Json → Bool
  | str value => value = text
  | _ => false

mutual

/-- `String(value)`. A property named `toString` hides the method. -/
def text : Json → Evaluated String
  | null => return "null"
  | bool value => return toString value
  | num printed => return printed
  | str value => return value
  | arr items => return ",".intercalate (← texts items)
  | obj fields => if fields.any (·.1 = "toString") then throw ⟨⟩ else return "[object Object]"

/-- The texts that `join` puts together. -/
def texts : List Json → Evaluated (List String)
  | [] => return []
  | null :: rest => return "" :: (← texts rest)
  | item :: rest => return (← text item) :: (← texts rest)

end

mutual

/-- Every text that a value shows: its strings, the names of its properties, and what
    its numbers print as. -/
def words : Json → List String
  | null | bool _ => []
  | num printed => [printed]
  | str value => [value]
  | arr items => itemWords items
  | obj fields => fieldWords fields

def itemWords : List Json → List String
  | [] => []
  | item :: rest => item.words ++ itemWords rest

def fieldWords : List (String × Json) → List String
  | [] => []
  | (name, value) :: rest => name :: value.words ++ fieldWords rest

end

/-- `values.join(separator)`. -/
def join (separator : String) (values : List Json) : Evaluated String := return separator.intercalate (← texts values)

/-- What `for (const item of value)` goes through. -/
def iterate : Json → Evaluated (List Json)
  | arr items => return items
  | str value => return value.toList.map fun c => str (String.singleton c)
  | _ => throw ⟨⟩

/-- The receiver of a method that only arrays have. -/
def array : Json → Evaluated (List Json)
  | arr items => return items
  | _ => throw ⟨⟩

/-- `value.includes(text)`, which strings have too. -/
def includes (text : String) : Json → Evaluated Bool
  | arr items => return items.any (is text)
  | str value => return decide (text.toList <:+: value.toList)
  | _ => throw ⟨⟩

/-! ### Rules -/

section
variable {key name : String} {value : Json}

@[simp] theorem is_iff : value.is name = true ↔ value = str name := by
  cases value <;> simp [is]

@[simp] theorem coalesce_none (fallback : Json) : coalesce fallback none = fallback := rfl
@[simp] theorem coalesce_null (fallback : Json) : coalesce fallback (some null) = fallback := rfl

theorem coalesce_some {fallback : Json} (given : value ≠ null) : coalesce fallback (some value) = value := by
  cases value <;> first | rfl | exact absurd rfl given

/-- A default that is no string is what a missing property gives. -/
theorem coalesce_cases {fallback result : Json} {found : Option Json} (same : coalesce fallback found = result) :
    (found = none ∨ found = some null) ∧ result = fallback ∨ found = some result ∧ result ≠ null := by
  cases found with
  | none => exact .inl ⟨.inl rfl, same.symm⟩
  | some value =>
    by_cases null_ : value = null
    · subst null_
      exact .inl ⟨.inr rfl, same.symm⟩
    · rw [coalesce_some null_] at same
      subst same
      exact .inr ⟨rfl, null_⟩

@[simp] theorem text_str (name : String) : (str name).text = .ok name := rfl

theorem member_ok {found : Option Json} (read : value.member key = .ok found) : value ≠ null ∧ found = value.own key := by
  cases value with
  | null => cases read
  | _ => exact ⟨Json.noConfusion, (Except.ok.inj read).symm⟩

theorem member_of_ne (given : value ≠ null) : value.member key = .ok (value.own key) := by
  cases value <;> first | rfl | exact absurd rfl given

theorem own_ne_null {found : Json} (has : value.own key = some found) : value ≠ null := by
  rintro rfl
  cases has

theorem array_ok {items : List Json} (read : value.array = .ok items) : value = arr items := by
  cases value with
  | arr listed => exact congrArg arr (Except.ok.inj read)
  | _ => cases read

/-- The items of a list can be joined if each of them has a text. -/
theorem texts_ok (items : List Json) : (∃ printed, texts items = .ok printed) ↔ ∀ item ∈ items, ∃ printed, item.text = .ok printed := by
  induction items with
  | nil => exact ⟨fun _ _ impossible => absurd impossible List.not_mem_nil, fun _ => ⟨[], rfl⟩⟩
  | cons item rest ih =>
    have joins : (∃ printed, texts (item :: rest) = .ok printed) ↔
        (∃ printed, item.text = .ok printed) ∧ ∃ printed, texts rest = .ok printed := by
      cases first : item.text with
      | error =>
        refine ⟨?_, fun both => by obtain ⟨⟨_, impossible⟩, -⟩ := both; cases impossible⟩
        rintro ⟨printed, joined⟩
        cases item with
        | null => cases first
        | _ => simp [texts, first, bind, Except.bind] at joined
      | ok own =>
        cases remaining : texts rest <;> cases item <;> simp [texts, first, remaining, bind, Except.bind, pure, Except.pure]
    rw [joins, ih]
    simp

end

/-! ### Values that hold more -/

/-- A value has everything that another one has: its objects may have further
    properties. -/
inductive Covers : Json → Json → Prop
  | same (value : Json) : Covers value value
  | single {held wanted : Json} (covers : Covers held wanted) : Covers (arr [held]) (arr [wanted])
  | fields {held wanted : List (String × Json)} (child : String → Json)
      (has : ∀ key value, (obj wanted).own key = some value → (obj held).own key = some (child key))
      (covers : ∀ key value, (obj wanted).own key = some value → Covers (child key) value) :
      Covers (obj held) (obj wanted)

section
variable {held wanted value : Json}

theorem Covers.own (covers : Covers held wanted) {key : String} (has : wanted.own key = some value) :
    ∃ found, held.own key = some found ∧ Covers found value := by
  cases covers with
  | same => exact ⟨value, has, .same value⟩
  | single covers => cases has
  | fields child held covers => exact ⟨child key, held key value has, covers key value has⟩

theorem Covers.of_list (covers : Covers held (arr [wanted])) : ∃ item, held = arr [item] ∧ Covers item wanted := by
  cases covers with
  | same => exact ⟨wanted, rfl, .same wanted⟩
  | single covers => exact ⟨_, rfl, covers⟩

theorem Covers.of_null (covers : Covers held null) : held = null := by cases covers; rfl

theorem Covers.of_bool {given : Bool} (covers : Covers held (bool given)) : held = bool given := by cases covers; rfl

theorem Covers.of_num {printed : String} (covers : Covers held (num printed)) : held = num printed := by cases covers; rfl

theorem Covers.of_str {given : String} (covers : Covers held (str given)) : held = str given := by cases covers; rfl

/-- A list of texts is only covered by itself. -/
theorem Covers.of_strs {items : List String} (covers : Covers held (arr (items.map str))) : held = arr (items.map str) := by
  generalize same : items.map str = texts at covers
  cases covers with
  | same => rfl
  | @single held wanted covers =>
    have member : wanted ∈ items.map str := by rw [same]; exact List.mem_cons_self
    obtain ⟨item, -, rfl⟩ := List.mem_map.mp member
    rw [covers.of_str]

end

end Json

end ControlPlane.JsonValues
