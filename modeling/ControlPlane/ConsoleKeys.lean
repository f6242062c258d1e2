import ControlPlane.CanonicalJson
import ControlPlane.CodeUnits
import ControlPlane.RequestHashes

/-!
The keys under which the console sends its mutations. A key is derived from what is
asked for, so that a request that is sent again has the key of the first: the values
of a body have one canonical text exactly if they say the same (`canonicalJson_iff`),
and mutations have one key exactly if they are the same (`idempotencyKey_iff`), as
long as the part of the digest that a key shows tells their texts apart.
-/
namespace ControlPlane.ConsoleKeys
open ControlPlane.Texts ControlPlane.JsonTexts ControlPlane.JsonTexts.Value ControlPlane.CodeUnits
open ControlPlane.ControlPlaneApplication (assertIdempotencyKey)
open ControlPlane.RequestValidation (isAlphanumeric alphanumeric_unit utf16Length_units)
open ControlPlane.RequestHashes (orNull same_string same_description)

/-! ### Canonical texts -/

/-- An entry of an object, given by its key and the text of its value. -/
def printed (entry : String × List Char) : List Char := quoted entry.1 ++ ':' :: entry.2

mutual

/-- The source sorts the entries before it prints what they hold, which the sort does
    not look at. -/
def canonicalJson : Value → List Char
  | array items => '[' :: (joined (canonicalItems items) ++ [']'])
  | object entries => '{' :: (joined ((sorted Prod.fst (canonicalEntries entries)).map printed) ++ ['}'])
  | value => value.serialize

def canonicalItems : List Value → List (List Char)
  | [] => []
  | item :: rest => canonicalJson item :: canonicalItems rest

/-- The entries that are not undefined. -/
def canonicalEntries : List (String × Value) → List (String × List Char)
  | [] => []
  | (_, undefined) :: rest => canonicalEntries rest
  | (key, value) :: rest => (key, canonicalJson value) :: canonicalEntries rest

end

/-! ### Keys -/

/-- The runtime's digest. -/
structure Host where
  /-- `crypto.subtle.digest('SHA-256', new TextEncoder().encode(text))`. -/
  digest : List Char → List (Fin 256)
  digest_length : ∀ text, (digest text).length = 32

def sha256Hex (host : Host) (text : List Char) : List Char :=
  (host.digest text).flatMap fun byte => [hexDigit (byte.val / 16), hexDigit (byte.val % 16)]

/-- A mutation that the console asks for. Its body is undefined if it has none. -/
structure Mutation where
  action : String
  projectId : String
  targetId : Option String
  body : Value

/-- `body ?? null`. -/
def Mutation.given (mutation : Mutation) : Value :=
  match mutation.body with
  | undefined => null
  | body => body

def Mutation.content (mutation : Mutation) : Value :=
  object [("action", string mutation.action), ("projectId", string mutation.projectId),
    ("targetId", orNull (mutation.targetId.map string)), ("body", mutation.given)]

def material (mutation : Mutation) : List Char := canonicalJson mutation.content

/-- The part of the digest that a key shows. -/
def fingerprint (host : Host) (text : List Char) : List Char := (sha256Hex host text).take 32

/-- `/^[A-Za-z0-9._:-]+$/`, on one character. -/
def isKeyCharacter (c : Char) : Bool := isAlphanumeric c || ['.', '_', ':', '-'].contains c

/-- What every key begins with. -/
def keyStart : List Char := "console.".toList

def keyText (host : Host) (mutation : Mutation) : List Char :=
  keyStart ++ (mutation.action.toList ++ '.' :: fingerprint host (material mutation))

def isUnusable (key : String) : Bool :=
  utf16Length key < 8 || 128 < utf16Length key || !(key.toList ≠ [] && key.toList.all isKeyCharacter)

/-- The key, unless it is unusable. -/
def idempotencyKey (host : Host) (mutation : Mutation) : Option String :=
  let key := String.ofList (keyText host mutation)
  if isUnusable key then none else some key

/-! ### What a value says -/

mutual

/-- A value as its text says it: an item that is undefined is null, and a property
    that is undefined is not there. -/
def said : Value → Value
  | undefined => null
  | array items => array (saidItems items)
  | object entries => object (saidEntries entries)
  | value => value

def saidItems : List Value → List Value
  | [] => []
  | item :: rest => said item :: saidItems rest

def saidEntries : List (String × Value) → List (String × Value)
  | [] => []
  | (_, undefined) :: rest => saidEntries rest
  | (key, value) :: rest => (key, said value) :: saidEntries rest

end

mutual

/-- A value whose properties are sorted by their keys, at any depth. -/
def arranged : Value → Value
  | array items => array (arrangedItems items)
  | object entries => object (sorted Prod.fst (arrangedEntries entries))
  | value => value

def arrangedItems : List Value → List Value
  | [] => []
  | item :: rest => arranged item :: arrangedItems rest

def arrangedEntries : List (String × Value) → List (String × Value)
  | [] => []
  | (key, value) :: rest => (key, arranged value) :: arrangedEntries rest

end

example : canonicalJson (array [null, null]) = ['[', 'n', 'u', 'l', 'l', ',', 'n', 'u', 'l', 'l', ']'] := by
  simp [canonicalJson, canonicalItems, serialize, joined]

example : said (array [undefined, object [("name", undefined)]]) = array [null, object []] := by
  simp [said, saidItems, saidEntries]

example : arranged (array [object [], null]) = array [object [], null] := by
  simp [arranged, arrangedItems, arrangedEntries, sorted]

/-- A value whose objects have different keys, which is so of every value that a
    program holds. -/
def Distinct : Value → Prop :=
  Every fun
    | object entries => (entries.map Prod.fst).Nodup
    | _ => True

/-- Two mutations that ask for the same. -/
structure Alike (first second : Mutation) : Prop where
  action : first.action = second.action
  projectId : first.projectId = second.projectId
  targetId : first.targetId = second.targetId
  body : Same (said first.body) (said second.body)

section
variable {items others : List Value} {entries members : List (String × Value)} {value another : Value}

@[simp] theorem canonicalItems_eq (items : List Value) : canonicalItems items = items.map canonicalJson := by
  induction items with
  | nil => rfl
  | cons item rest ih => rw [canonicalItems, ih, List.map_cons]

@[simp] theorem saidItems_eq (items : List Value) : saidItems items = items.map said := by
  induction items with
  | nil => rfl
  | cons item rest ih => rw [saidItems, ih, List.map_cons]

@[simp] theorem arrangedItems_eq (items : List Value) : arrangedItems items = items.map arranged := by
  induction items with
  | nil => rfl
  | cons item rest ih => rw [arrangedItems, ih, List.map_cons]

@[simp] theorem arrangedEntries_eq (entries : List (String × Value)) :
    arrangedEntries entries = entries.map (Prod.map id arranged) := by
  induction entries with
  | nil => rfl
  | cons entry rest ih => rw [arrangedEntries, ih, List.map_cons, Prod.map, id]

theorem mem_saidEntries {entry : String × Value} (listed : entry ∈ saidEntries entries) :
    ∃ value, (entry.1, value) ∈ entries ∧ value ≠ undefined ∧ entry.2 = said value := by
  induction entries with
  | nil => cases listed
  | cons first rest ih =>
    obtain ⟨key, value⟩ := first
    by_cases missing : value = undefined
    · subst missing
      obtain ⟨value, found, defined, same⟩ := ih listed
      exact ⟨value, List.mem_cons_of_mem _ found, defined, same⟩
    · rw [saidEntries.eq_3 _ _ _ missing] at listed
      rcases List.mem_cons.mp listed with rfl | later
      · exact ⟨value, List.mem_cons_self, missing, rfl⟩
      · obtain ⟨value, found, defined, same⟩ := ih later
        exact ⟨value, List.mem_cons_of_mem _ found, defined, same⟩

theorem saidEntries_keys (entries : List (String × Value)) :
    ((saidEntries entries).map Prod.fst).Sublist (entries.map Prod.fst) := by
  induction entries with
  | nil => exact List.Sublist.refl _
  | cons first rest ih =>
    obtain ⟨key, value⟩ := first
    by_cases missing : value = undefined
    · subst missing
      exact ih.cons key
    · rw [saidEntries.eq_3 _ _ _ missing]
      exact ih.cons_cons key

theorem said_said (value : Value) : (said value).Said := by
  induction value using Value.induct with
  | array items ih =>
    refine every_array.2 ⟨trivial, fun item listed => ?_⟩
    rw [saidItems_eq] at listed
    obtain ⟨original, held, rfl⟩ := List.mem_map.1 listed
    exact ih original held
  | object entries ih =>
    refine every_object.2 ⟨trivial, fun entry listed => ?_⟩
    obtain ⟨value, found, -, same⟩ := mem_saidEntries listed
    rw [same]
    exact ih (entry.1, value) found
  | _ => trivial

theorem said_distinct (distinct : Distinct value) : Distinct (said value) := by
  induction value using Value.induct with
  | array items ih =>
    refine every_array.2 ⟨trivial, fun item listed => ?_⟩
    rw [saidItems_eq] at listed
    obtain ⟨original, held, rfl⟩ := List.mem_map.1 listed
    exact ih original held ((every_array.1 distinct).2 original held)
  | object entries ih =>
    refine every_object.2 ⟨(every_object.1 distinct).1.sublist (saidEntries_keys entries), fun entry listed => ?_⟩
    obtain ⟨value, found, -, same⟩ := mem_saidEntries listed
    rw [same]
    exact ih (entry.1, value) found ((every_object.1 distinct).2 _ found)
  | _ => trivial

example : (said (array [undefined])).serialize = "[null]".toList := by decide +kernel

theorem arranged_said (valid : value.Said) : (arranged value).Said := by
  induction value using Value.induct with
  | array items ih =>
    refine every_array.2 ⟨trivial, fun item listed => ?_⟩
    rw [arrangedItems_eq] at listed
    obtain ⟨original, held, rfl⟩ := List.mem_map.1 listed
    exact ih original held ((every_array.1 valid).2 original held)
  | object entries ih =>
    refine every_object.2 ⟨trivial, fun entry listed => ?_⟩
    rw [(sorted_perm _ _).mem_iff, arrangedEntries_eq] at listed
    obtain ⟨original, held, rfl⟩ := List.mem_map.1 listed
    exact ih original held ((every_object.1 valid).2 original held)
  | _ => exact valid

/-! ### The text is that of the arranged value -/

example : (arranged (said (array [undefined, null]))).serialize = "[null,null]".toList := by decide +kernel

theorem sorted_map {α β : Type} (entries : List (String × α)) (f : α → β) :
    sorted Prod.fst (entries.map (Prod.map id f)) = (sorted Prod.fst entries).map (Prod.map id f) := by
  have keyed : ∀ left ∈ entries, ∀ right ∈ entries, unitOrder left.1 right.1 =
      unitOrder (Prod.map id f left).1 (Prod.map id f right).1 := by
    intro left _ right _
    rw [Prod.map_fst, Prod.map_fst, id, id]
  have moved := @List.map_mergeSort (String × α) (String × β) (fun left right => unitOrder left.1 right.1)
    (fun left right => unitOrder left.1 right.1) (Prod.map id f) entries keyed
  exact moved.symm

theorem canonicalEntries_eq (each : ∀ entry ∈ entries, canonicalJson entry.2 = (arranged (said entry.2)).serialize) :
    canonicalEntries entries = (arrangedEntries (saidEntries entries)).map (Prod.map id serialize) := by
  induction entries with
  | nil => rfl
  | cons first rest ih =>
    obtain ⟨key, value⟩ := first
    rw [List.forall_mem_cons] at each
    by_cases missing : value = undefined
    · subst missing
      exact ih each.2
    · rw [canonicalEntries.eq_3 _ _ _ missing, saidEntries.eq_3 _ _ _ missing, ih each.2, each.1]
      rfl

/-- The canonical text of a value is the text of what it says, arranged. -/
theorem canonicalJson_eq (value : Value) : canonicalJson value = (arranged (said value)).serialize := by
  induction value using Value.induct with
  | array items ih =>
    have each : items.map canonicalJson = ((items.map said).map arranged).map serialize := by
      rw [List.map_map, List.map_map]
      exact List.map_congr_left ih
    simp only [canonicalJson, said, arranged, serialize, canonicalItems_eq, saidItems_eq, arrangedItems_eq, itemTexts_eq, each]
  | object entries ih =>
    have defined : ∀ entry ∈ sorted Prod.fst (arrangedEntries (saidEntries entries)), entry.2 ≠ undefined := by
      have valid := arranged_said (said_said (object entries))
      intro entry listed
      exact Said.defined ((every_object.1 valid).2 entry listed)
    simp only [canonicalJson, said, arranged, serialize, canonicalEntries_eq ih, sorted_map, memberTexts_eq defined, List.map_map]
    rfl
  | _ => rfl

/-! ### Arranging decides what a value says -/

example : (arranged (array [bool true])).serialize = "[true]".toList := by decide +kernel

theorem same_of_arranged (equal : arranged value = arranged another) : Same value another := by
  induction value using Value.induct generalizing another with
  | array items ih =>
    cases another with
    | array others =>
      simp only [arranged, arrangedItems_eq, array.injEq] at equal
      exact same_array.2 (CanonicalJson.same_of_map_eq equal fun item listed other _ equal => ih item listed equal)
    | _ => simp [arranged] at equal
  | object entries ih =>
    cases another with
    | object members =>
      simp only [arranged, arrangedEntries_eq, object.injEq] at equal
      have own := sorted_perm Prod.fst (entries.map (Prod.map id arranged))
      have both := own.symm.trans (equal ▸ sorted_perm Prod.fst (members.map (Prod.map id arranged)))
      refine same_object.2 ⟨by simpa using both.length_eq, fun entry listed => ?_⟩
      obtain ⟨other, found, same⟩ := List.mem_map.1 (both.mem_iff.1 (List.mem_map.2 ⟨entry, listed, rfl⟩))
      obtain ⟨key, rewritten⟩ := Prod.mk.inj same
      have key : other.1 = entry.1 := key
      exact ⟨other.2, key ▸ found, ih entry listed rewritten.symm⟩
    | _ => simp [arranged] at equal
  | _ => cases another <;> simp_all [arranged, Same]

example : canonicalJson (array [bool true]) = "[true]".toList := by decide +kernel

theorem arranged_of_same (distinct : Distinct value) (distinct_ : Distinct another) (same : Same value another) :
    arranged value = arranged another := by
  induction value using Value.induct generalizing another with
  | array items ih =>
    cases another with
    | array others =>
      simp only [arranged, arrangedItems_eq, array.injEq]
      refine CanonicalJson.map_eq_of_same (same_array.1 same) fun item listed other found same => ?_
      exact ih item listed ((every_array.1 distinct).2 item listed) ((every_array.1 distinct_).2 other found) same
    | _ => simp [Same] at same
  | object entries ih =>
    cases another with
    | object members =>
      obtain ⟨length, each⟩ := same_object.1 same
      obtain ⟨apart, inside⟩ := every_object.1 distinct
      obtain ⟨-, inside_⟩ := every_object.1 distinct_
      have keys : (entries.map (Prod.map id arranged)).map Prod.fst = entries.map Prod.fst := by simp
      have once : ((entries.map (Prod.map id arranged)).map Prod.fst).Nodup := keys ▸ apart
      have among : entries.map (Prod.map id arranged) ⊆ members.map (Prod.map id arranged) := by
        intro entry listed
        obtain ⟨original, held, rfl⟩ := List.mem_map.1 listed
        obtain ⟨other, found, like⟩ := each original held
        refine List.mem_map.2 ⟨(original.1, other), found, ?_⟩
        exact Prod.ext rfl (ih original held (inside original held) (inside_ _ found) like).symm
      have perm : (entries.map (Prod.map id arranged)).Perm (members.map (Prod.map id arranged)) :=
        (List.subperm_of_subset (List.Nodup.of_map _ once) among).perm_of_length_le (by simp [length])
      simp only [arranged, arrangedEntries_eq, object.injEq]
      exact sorted_of_perm perm fun left listed right also equal => List.inj_on_of_nodup_map once listed also equal
    | _ => simp [Same] at same
  | _ => cases another <;> simp_all [arranged, Same]

/-- Two values have one canonical text exactly if they say the same. -/
theorem canonicalJson_iff (distinct : Distinct value) (distinct_ : Distinct another) :
    canonicalJson value = canonicalJson another ↔ Same (said value) (said another) := by
  rw [canonicalJson_eq, canonicalJson_eq]
  constructor
  · intro same
    exact same_of_arranged ((arranged_said (said_said value)).serialize_inj (arranged_said (said_said another)) same)
  · intro same
    rw [arranged_of_same (said_distinct distinct) (said_distinct distinct_) same]

end

/-! ### Two mutations with one key -/

section
variable {host : Host} {first second : Mutation}

theorem said_given (mutation : Mutation) : said mutation.given = said mutation.body := by
  unfold Mutation.given
  split
  next missing => rw [missing]; rfl
  next => rfl

theorem given_defined (mutation : Mutation) : mutation.given ≠ undefined := by
  unfold Mutation.given
  split
  next => simp
  next defined => exact defined

theorem given_distinct (distinct : Distinct first.body) : Distinct first.given := by
  unfold Mutation.given
  split
  next => trivial
  next => exact distinct

theorem content_distinct (distinct : Distinct first.body) : Distinct first.content := by
  refine every_object.2 ⟨by simp, ?_⟩
  have target : Distinct (orNull (first.targetId.map string)) := by
    cases first.targetId with
    | none => trivial
    | some target => trivial
  simp only [List.forall_mem_cons]
  exact ⟨trivial, trivial, target, given_distinct distinct, by simp⟩

theorem said_content (mutation : Mutation) : said mutation.content =
    object [("action", string mutation.action), ("projectId", string mutation.projectId),
      ("targetId", orNull (mutation.targetId.map string)), ("body", said mutation.body)] := by
  have target : orNull (mutation.targetId.map string) ≠ undefined ∧
      said (orNull (mutation.targetId.map string)) = orNull (mutation.targetId.map string) := by
    cases mutation.targetId with
    | none => exact ⟨by simp [orNull], rfl⟩
    | some target => exact ⟨by simp [orNull], rfl⟩
  simp only [Mutation.content, said]
  rw [saidEntries.eq_3 _ _ _ (by simp), saidEntries.eq_3 _ _ _ (by simp), saidEntries.eq_3 _ _ _ target.1,
    saidEntries.eq_3 _ _ _ (given_defined mutation), target.2, said_given]
  rfl

/-- Mutations have one text exactly if they are the same. -/
theorem material_iff (distinct : Distinct first.body) (distinct_ : Distinct second.body) :
    material first = material second ↔ Alike first second := by
  rw [material, material, canonicalJson_iff (content_distinct distinct) (content_distinct distinct_), said_content, said_content]
  constructor
  · intro same
    simp [same_string, same_description] at same
    obtain ⟨action, project, target, body⟩ := same
    exact ⟨action, project, target, body⟩
  · rintro ⟨action, project, target, body⟩
    simp [same_string, same_description, action, project, target, body]

theorem fingerprint_length (host : Host) (text : List Char) : (fingerprint host text).length = 32 := by
  have width : ∀ bytes : List (Fin 256),
      (bytes.flatMap fun byte => [hexDigit (byte.val / 16), hexDigit (byte.val % 16)]).length = 2 * bytes.length := by
    intro bytes
    simp [List.length_flatMap, Nat.mul_comm]
  rw [fingerprint, sha256Hex, List.length_take, width, host.digest_length]
  rfl

/-- The text of a key shows its action and its fingerprint. -/
theorem keyText_inj (same : keyText host first = keyText host second) :
    first.action = second.action ∧ fingerprint host (material first) = fingerprint host (material second) := by
  have rest := (List.append_right_inj keyStart).mp same
  have widths : ('.' :: fingerprint host (material first)).length = ('.' :: fingerprint host (material second)).length := by
    rw [List.length_cons, List.length_cons, fingerprint_length, fingerprint_length]
  obtain ⟨action, shown⟩ := List.append_inj' rest widths
  exact ⟨String.toList_injective action, (List.cons.inj shown).2⟩

theorem idempotencyKey_some {key : String} (derived : idempotencyKey host first = some key) :
    isUnusable key = false ∧ key = String.ofList (keyText host first) := by
  simp only [idempotencyKey] at derived
  split at derived
  next => cases derived
  next usable =>
    obtain rfl := Option.some.inj derived
    exact ⟨by simpa using usable, rfl⟩

/-- The keys of two mutations are the same exactly if the mutations are, where the part
    of the digest that a key shows tells their texts apart. -/
theorem idempotencyKey_iff {key other : String} (distinct : Distinct first.body) (distinct_ : Distinct second.body)
    (told : fingerprint host (material first) = fingerprint host (material second) → material first = material second)
    (derived : idempotencyKey host first = some key) (also : idempotencyKey host second = some other) :
    key = other ↔ Alike first second := by
  obtain ⟨-, rfl⟩ := idempotencyKey_some derived
  obtain ⟨-, rfl⟩ := idempotencyKey_some also
  rw [← material_iff distinct distinct_]
  constructor
  · intro same
    exact told (keyText_inj (String.ofList_injective same)).2
  · intro same
    have alike := (material_iff distinct distinct_).mp same
    have text : keyText host first = keyText host second := by
      unfold keyText
      rw [same, alike.action]
    rw [text]

/-- Every key that the console derives is one that the service takes. -/
theorem idempotencyKey_accepted {key : String} (derived : idempotencyKey host first = some key) :
    assertIdempotencyKey key = .ok () := by
  obtain ⟨usable, -⟩ := idempotencyKey_some derived
  simp only [isUnusable, Bool.or_eq_false_iff, decide_eq_false_iff_not] at usable
  simp [assertIdempotencyKey, usable.1]

/-! ### Which mutations have a key -/

theorem keyCharacter_unit {c : Char} (named : isKeyCharacter c = true) : c.val ≤ 0xFFFF := by
  simp only [isKeyCharacter, Bool.or_eq_true, List.contains_iff_mem, List.mem_cons, List.not_mem_nil, or_false] at named
  rcases named with letter | rfl | rfl | rfl | rfl
  · exact alphanumeric_unit letter
  all_goals decide

theorem fingerprint_named (host : Host) (text : List Char) : ∀ c ∈ fingerprint host text, isKeyCharacter c = true := by
  have digits : ∀ n < 16, isKeyCharacter (hexDigit n) = true := by decide
  intro c listed
  obtain ⟨byte, -, shown⟩ := List.mem_flatMap.mp (List.mem_of_mem_take listed)
  have bound := byte.isLt
  rcases List.mem_cons.mp shown with rfl | shown
  · exact digits _ (by omega)
  · obtain rfl := List.mem_singleton.mp shown
    exact digits _ (by omega)

theorem keyText_named (named : ∀ c ∈ first.action.toList, isKeyCharacter c = true) :
    ∀ c ∈ keyText host first, isKeyCharacter c = true := by
  have console : ∀ c ∈ keyStart, isKeyCharacter c = true := List.all_eq_true.mp (by decide)
  intro c listed
  rcases List.mem_append.mp listed with start | rest
  · exact console c start
  · rcases List.mem_append.mp rest with action | rest
    · exact named c action
    · rcases List.mem_cons.mp rest with rfl | shown
      · decide
      · exact fingerprint_named host _ c shown

theorem keyText_length (host : Host) (mutation : Mutation) : (keyText host mutation).length = mutation.action.toList.length + 41 := by
  have console : keyStart.length = 8 := by decide
  simp only [keyText, List.length_append, List.length_cons, fingerprint_length, console]
  omega

/-- An action of at most 87 characters that the pattern of keys takes has a key. -/
theorem idempotencyKey_exists (host : Host) (named : ∀ c ∈ first.action.toList, isKeyCharacter c = true)
    (short : first.action.toList.length ≤ 87) : ∃ key, idempotencyKey host first = some key := by
  have all := @keyText_named host first named
  have length := keyText_length host first
  have units : utf16Length (String.ofList (keyText host first)) = (keyText host first).length := by
    rw [utf16Length_units fun c listed => keyCharacter_unit (all c (by simpa using listed)), String.toList_ofList]
  have some_ : keyText host first ≠ [] := List.ne_nil_of_length_pos (by omega)
  have usable : isUnusable (String.ofList (keyText host first)) = false := by
    rw [isUnusable, units, String.toList_ofList]
    simp only [Bool.or_eq_false_iff, decide_eq_false_iff_not, not_lt]
    refine ⟨⟨by omega, by omega⟩, ?_⟩
    simpa [some_] using all
  exact ⟨_, if_neg (by simp [usable])⟩

end

/-! ### Stopping and starting a server -/

def sampleMutation (action : String) (body : Value) : Mutation :=
  ⟨action, "project", some "server", body⟩

/-- A digest that tells one text from all others. -/
def sampleHost : Host where
  digest text := List.replicate 32 (if text = material (sampleMutation "instance-stop" (object [("action", string "stop")])) then 0 else 1)
  digest_length _ := List.length_replicate

theorem idempotencyKey_iff_sampleMutation : ∃ stop start : String,
    idempotencyKey sampleHost (sampleMutation "instance-stop" (object [("action", string "stop")])) = some stop ∧
    idempotencyKey sampleHost (sampleMutation "instance-start" (object [("action", string "start")])) = some start ∧
    stop ≠ start := by
  obtain ⟨stop, first⟩ := @idempotencyKey_exists (sampleMutation "instance-stop" (object [("action", string "stop")]))
    sampleHost (List.all_eq_true.mp (by decide)) (by decide)
  obtain ⟨start, second⟩ := @idempotencyKey_exists (sampleMutation "instance-start" (object [("action", string "start")]))
    sampleHost (List.all_eq_true.mp (by decide)) (by decide)
  have distinct : ∀ action, Distinct (object [("action", string action)]) :=
    fun action => every_object.2 ⟨by simp, by simp [Every]⟩
  have apart : material (sampleMutation "instance-start" (object [("action", string "start")])) ≠
      material (sampleMutation "instance-stop" (object [("action", string "stop")])) := by
    intro same
    have alike := (material_iff (distinct "start") (distinct "stop")).mp same
    exact absurd alike.action (by decide)
  refine ⟨stop, start, first, second, fun same => ?_⟩
  have alike := (idempotencyKey_iff (distinct "stop") (distinct "start") (fun shown => ?_) first second).mp same
  · exact absurd alike.action (by decide)
  · simp only [fingerprint, sha256Hex, sampleHost, if_neg apart, if_true] at shown
    exact absurd shown (by decide)

end ControlPlane.ConsoleKeys
