import ControlPlane.EventValidation

/-!
The checks of a request that the control plane makes for every transport:
catalog identifiers, host names, snapshot names, power actions, and the SSH keys
that are written into the configuration of a guest.
-/
namespace ControlPlane.RequestValidation
open ControlPlane.Texts ControlPlane.Domain ControlPlane.Commands ControlPlane.EventValidation

def refused {α : Type} (message : String) : Except DomainError α := .error ⟨.validationFailed, message⟩

/-! ### Names -/

def isLowerAlphanumeric (c : Char) : Bool := isDigit c || ('a' ≤ c && c ≤ 'z')

def isAlphanumeric (c : Char) : Bool := isLowerAlphanumeric c || ('A' ≤ c && c ≤ 'Z')

/-- `/^[a-z0-9][a-z0-9-]{1,62}$/`: a catalog identifier. -/
def isSlugText (text : String) : Bool :=
  match text.toList with
  | first :: rest =>
    isLowerAlphanumeric first && 1 ≤ rest.length && rest.length ≤ 62 && rest.all fun c => isLowerAlphanumeric c || c = '-'
  | [] => false

/-- `/^[a-zA-Z0-9](?:[a-zA-Z0-9-]{0,61}[a-zA-Z0-9])?$/`: a label of a host name. -/
def isHostnameText (text : String) : Bool :=
  match text.toList with
  | first :: rest =>
    isAlphanumeric first && rest.length ≤ 62 && (rest.all fun c => isAlphanumeric c || c = '-') &&
      rest.getLast?.all isAlphanumeric
  | [] => false

/-- `/^[A-Za-z0-9][A-Za-z0-9_.-]{0,62}$/`: a snapshot name that the provider accepts. -/
def isSnapshotNameText (text : String) : Bool :=
  match text.toList with
  | first :: rest =>
    isAlphanumeric first && rest.length ≤ 62 && rest.all fun c => isAlphanumeric c || c = '_' || c = '.' || c = '-'
  | [] => false

/-! ### SSH keys -/

/-- The parts of a trimmed text between its runs of white space. -/
def words (text : String) : List (List Char) := (text.toList.splitOnP isWhiteSpace).filter (· ≠ [])

/-- The value of a digit of base 64. -/
def base64Digit (c : Char) : Option Nat :=
  if 'A' ≤ c && c ≤ 'Z' then some (c.toNat - 'A'.toNat)
  else if 'a' ≤ c && c ≤ 'z' then some (c.toNat - 'a'.toNat + 26)
  else if isDigit c then some (c.toNat - '0'.toNat + 52)
  else if c = '+' then some 62
  else if c = '/' then some 63
  else none

/-- The bytes that digits of six bits write; what is left of a byte is dropped. -/
def base64Bytes : List Nat → List Nat
  | a :: b :: c :: d :: rest => [a * 4 + b / 16, b % 16 * 16 + c / 4, c % 4 * 64 + d] ++ base64Bytes rest
  | [a, b, c] => [a * 4 + b / 16, b % 16 * 16 + c / 4]
  | [a, b] => [a * 4 + b / 16]
  | _ => []

/-- A text without the padding that completes its last four characters. -/
def unpadded (text : List Char) : List Char :=
  if text.length % 4 ≠ 0 then text else
    match text.reverse with
    | '=' :: '=' :: rest => rest.reverse
    | '=' :: rest => rest.reverse
    | _ => text

/-- `atob(text)`, for a text without white space. -/
def atob (text : List Char) : Option (List Nat) :=
  if (unpadded text).length % 4 = 1 then none else ((unpadded text).mapM base64Digit).map base64Bytes

/-- `/^[A-Za-z0-9+/]+={0,2}$/`. -/
def isBase64Text (text : List Char) : Bool :=
  let digits := text.takeWhile fun c => (base64Digit c).isSome
  let padding := text.dropWhile fun c => (base64Digit c).isSome
  digits ≠ [] && padding.length ≤ 2 && padding.all (· = '=')

def sshKeyTypes : List String :=
  ["ecdsa-sha2-nistp256", "ecdsa-sha2-nistp384", "ecdsa-sha2-nistp521", "sk-ecdsa-sha2-nistp256@openssh.com",
   "sk-ssh-ed25519@openssh.com", "ssh-ed25519", "ssh-rsa"]

/-- The algorithm that a key's body names: a length of four bytes, and that many characters. -/
def embeddedName : List Nat → Option String
  | a :: b :: c :: d :: rest =>
    let nameLength := ((a * 256 + b) * 256 + c) * 256 + d
    if nameLength = 0 || 64 < nameLength || rest.length < nameLength then none
    else some (String.ofList ((rest.take nameLength).map Char.ofNat))
  | _ => none

/-- Whether the type of a key, its body and the algorithm named there agree. -/
def isStructurallyValidSshPublicKey (key : String) : Bool :=
  match words key with
  | type :: body :: _ =>
    sshKeyTypes.contains (String.ofList type) && isBase64Text body &&
      ((atob body).bind embeddedName).any (· = String.ofList type)
  | _ => false

/-! ### Requests -/

structure CreateInstanceValues where
  imageId : String
  flavorId : String
  networkId : String
  hostname : String
  sshPublicKeys : List String

/-- Validates the fields of a creation that its caller supplies. -/
def validateCreateInstance (values : CreateInstanceValues) : Except DomainError Unit :=
  if !([values.imageId, values.flavorId, values.networkId].all isSlugText) then
    refused "Catalog identifiers are invalid."
  else if !isHostnameText values.hostname then refused "Hostname is invalid."
  else if values.sshPublicKeys.length > 5 then refused "At most five SSH public keys are accepted."
  else if !distinct values.sshPublicKeys then refused "SSH public keys must be unique."
  else values.sshPublicKeys.forM fun key =>
    if utf16Length key < 32 || 8192 < utf16Length key || key.toList.any (fun c => c = '\r' || c = '\n' || c = '\x00') then
      refused "An SSH public key is invalid."
    else if !isStructurallyValidSshPublicKey key then refused "An SSH public key is not a well-formed key."
    else .ok ()

def validatePowerAction (action : String) : Except DomainError PowerAction :=
  match [PowerAction.start, .shutdown, .stop, .reboot].find? fun known => known.text = action with
  | some known => .ok known
  | none => refused "The requested power action is not supported."

def validateSnapshotName (name : String) : Except DomainError Unit :=
  if !isSnapshotNameText name then
    refused "Snapshot name must be 1 to 63 characters of letters, digits, dot, dash, or underscore."
  else if String.ofList (name.toList.map Char.toLower) = "current" then
    refused "The snapshot name \"current\" is reserved."
  else .ok ()

/-! ### What a request that passed keeps to -/

theorem alphanumeric_lower {c : Char} (lower : isLowerAlphanumeric c = true) : isAlphanumeric c = true := by
  simp [isAlphanumeric, lower]

/-- A letter or digit is one code unit. -/
theorem alphanumeric_unit {c : Char} (named : isAlphanumeric c = true) : c.val ≤ 0xFFFF := by
  have under {last : Char} (below : c ≤ last) (small : last.val ≤ 0xFFFF) : c.val ≤ 0xFFFF := UInt32.le_trans below small
  simp only [isAlphanumeric, isLowerAlphanumeric, isDigit, Bool.or_eq_true, Bool.and_eq_true, decide_eq_true_eq] at named
  rcases named with (⟨-, digit⟩ | ⟨-, lower⟩) | ⟨-, upper⟩
  · exact under digit (by decide)
  · exact under lower (by decide)
  · exact under upper (by decide)

theorem utf16Length_units {text : String} (units : ∀ c ∈ text.toList, c.val ≤ 0xFFFF) :
    utf16Length text = text.toList.length := by
  have ones : (text.toList.map fun c => if c.val > 0xFFFF then 2 else 1) = text.toList.map fun _ => 1 := by
    refine List.map_congr_left fun c member => if_neg ?_
    exact UInt32.not_lt.mpr (units c member)
  rw [utf16Length, characters_eq, ones]
  simp

/-- A text of a first character and at most 62 more is a name of the contracts. -/
theorem stringInRange_name {text : String} {first : Char} {rest : List Char} (spelled : text.toList = first :: rest)
    (short : rest.length ≤ 62) (units : ∀ c ∈ text.toList, c.val ≤ 0xFFFF) : stringInRange text 1 63 = true := by
  rw [stringInRange, utf16Length_units units, spelled]
  simp only [List.length_cons, Bool.and_eq_true, decide_eq_true_eq]
  omega

theorem isSlugText_inRange {text : String} (slug : isSlugText text = true) : stringInRange text 1 63 = true := by
  unfold isSlugText at slug
  split at slug
  next first rest spelled =>
    simp only [Bool.and_eq_true, decide_eq_true_eq, List.all_eq_true, Bool.or_eq_true] at slug
    obtain ⟨⟨⟨start, -⟩, short⟩, named⟩ := slug
    refine stringInRange_name spelled short ?_
    rw [spelled]
    rintro c member
    rcases List.mem_cons.mp member with rfl | later
    · exact alphanumeric_unit (alphanumeric_lower start)
    · rcases named c later with lower | rfl
      · exact alphanumeric_unit (alphanumeric_lower lower)
      · decide
  next => cases slug

theorem isHostnameText_inRange {text : String} (hostname : isHostnameText text = true) :
    stringInRange text 1 63 = true := by
  unfold isHostnameText at hostname
  split at hostname
  next first rest spelled =>
    simp only [Bool.and_eq_true, decide_eq_true_eq, List.all_eq_true, Bool.or_eq_true] at hostname
    obtain ⟨⟨⟨start, short⟩, named⟩, -⟩ := hostname
    refine stringInRange_name spelled short ?_
    rw [spelled]
    rintro c member
    rcases List.mem_cons.mp member with rfl | later
    · exact alphanumeric_unit start
    · rcases named c later with letter | rfl
      · exact alphanumeric_unit letter
      · decide
  next => cases hostname

theorem isSnapshotNameText_inRange {text : String} (name : isSnapshotNameText text = true) :
    stringInRange text 1 63 = true := by
  unfold isSnapshotNameText at name
  split at name
  next first rest spelled =>
    simp only [Bool.and_eq_true, decide_eq_true_eq, List.all_eq_true, Bool.or_eq_true] at name
    obtain ⟨⟨start, short⟩, named⟩ := name
    refine stringInRange_name spelled short ?_
    rw [spelled]
    rintro c member
    rcases List.mem_cons.mp member with rfl | later
    · exact alphanumeric_unit start
    · rcases named c later with ((letter | rfl) | rfl) | rfl
      · exact alphanumeric_unit letter
      all_goals decide
  next => cases name

/-- What the contract of the creation asks of the names and keys of a request. -/
structure Supplied (values : CreateInstanceValues) : Prop where
  imageId : stringInRange values.imageId 1 63 = true
  flavorId : stringInRange values.flavorId 1 63 = true
  networkId : stringInRange values.networkId 1 63 = true
  hostname : stringInRange values.hostname 1 63 = true
  few : values.sshPublicKeys.length ≤ 5
  unique : distinct values.sshPublicKeys = true
  keys : ∀ key ∈ values.sshPublicKeys, stringInRange key 32 8192 = true

theorem forM_ok {α : Type} {check : α → Except DomainError Unit} {values : List α} (passed : values.forM check = .ok ()) :
    ∀ value ∈ values, check value = .ok () := by
  induction values with
  | nil => exact fun value member => absurd member List.not_mem_nil
  | cons first rest ih =>
    change (check first >>= fun _ => rest.forM check) = .ok () at passed
    cases head : check first with
    | error error => rw [head] at passed; cases passed
    | ok done =>
      rw [head] at passed
      intro value member
      rcases List.mem_cons.mp member with rfl | later
      · exact head
      · exact ih passed value later

theorem validateCreateInstance_ok {values : CreateInstanceValues} (passed : validateCreateInstance values = .ok ()) :
    Supplied values := by
  unfold validateCreateInstance at passed
  split at passed
  next => cases passed
  next slugs =>
    split at passed
    next => cases passed
    next hostname =>
      split at passed
      next => cases passed
      next few =>
        split at passed
        next => cases passed
        next unique =>
          simp only [List.all_cons, List.all_nil, Bool.and_true, Bool.not_eq_true', Bool.not_eq_false,
            Bool.and_eq_true] at slugs hostname unique
          refine ⟨isSlugText_inRange slugs.1, isSlugText_inRange slugs.2.1, isSlugText_inRange slugs.2.2,
            isHostnameText_inRange hostname, Nat.le_of_not_lt few, unique, fun key member => ?_⟩
          have checked := forM_ok passed key member
          split at checked
          next => cases checked
          next sized =>
            simp only [Bool.or_eq_true, decide_eq_true_eq, not_or, Nat.not_lt] at sized
            simp [stringInRange, sized.1.1, sized.1.2]

theorem validateSnapshotName_ok {name : String} (passed : validateSnapshotName name = .ok ()) :
    stringInRange name 1 63 = true := by
  unfold validateSnapshotName at passed
  split at passed
  next => cases passed
  next named => exact isSnapshotNameText_inRange (by simpa using named)

end ControlPlane.RequestValidation
