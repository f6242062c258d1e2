import ControlPlane.RequestValidation

/-!
The grammar of the SSH keys that are accepted. A key is a type, white space, and a
body in base 64 whose bytes begin with the length of the type, in four bytes, and
the type (`accepted_iff`). The length is computed with the shifts of signed 32-bit
integers, and the pattern that the body has to match says nothing that its
decoding does not.
-/
namespace ControlPlane.SshKeys
open ControlPlane.Texts ControlPlane.RequestValidation

/-! ### Fields -/

/-- The first two fields of a text between white space. -/
def Fields (key : String) (type body : List Char) : Prop :=
  ∃ before gap rest, key.toList = before ++ type ++ gap ++ body ++ rest ∧
    (∀ c ∈ before, isWhiteSpace c = true) ∧ type ≠ [] ∧ (∀ c ∈ type, isWhiteSpace c = false) ∧
    gap ≠ [] ∧ (∀ c ∈ gap, isWhiteSpace c = true) ∧ body ≠ [] ∧ (∀ c ∈ body, isWhiteSpace c = false) ∧
    ∀ c ∈ rest.head?, isWhiteSpace c = true

/-- The parts of a text between its runs of white space. -/
def parts (text : List Char) : List (List Char) := (text.splitOnP isWhiteSpace).filter (· ≠ [])

theorem parts_space {c : Char} {rest : List Char} (space : isWhiteSpace c = true) : parts (c :: rest) = parts rest := by
  rw [parts, List.splitOnP_cons_eq_if_modifyHead, if_pos space, List.filter_cons_of_neg (by simp), parts]

theorem parts_spaces {before rest : List Char} (spaces : ∀ c ∈ before, isWhiteSpace c = true) :
    parts (before ++ rest) = parts rest := by
  induction before with
  | nil => rfl
  | cons c before ih =>
    rw [List.forall_mem_cons] at spaces
    rw [List.cons_append, parts_space spaces.1, ih spaces.2]

/-- A field ends with the text or at white space. -/
theorem parts_field {field rest : List Char} (some_ : field ≠ []) (inside : ∀ c ∈ field, isWhiteSpace c = false)
    (ends : ∀ c ∈ rest.head?, isWhiteSpace c = true) : parts (field ++ rest) = field :: parts rest := by
  cases rest with
  | nil =>
    rw [List.append_nil, parts, List.splitOnP_eq_singleton inside, List.filter_cons_of_pos (by simpa using some_)]
    rfl
  | cons c rest =>
    have space : isWhiteSpace c = true := ends c rfl
    rw [parts_space space, parts, List.splitOnP_append_cons_of_forall_mem inside c space, List.filter_cons_of_pos (by simpa using some_), parts]

/-- A text up to its first white space, and what follows. -/
theorem exists_run (text : List Char) : ∃ run rest, text = run ++ rest ∧ (∀ c ∈ run, isWhiteSpace c = false) ∧
    ∀ c ∈ rest.head?, isWhiteSpace c = true := by
  induction text with
  | nil => exact ⟨[], [], rfl, nofun, nofun⟩
  | cons c text ih =>
    cases space : isWhiteSpace c with
    | true => exact ⟨[], c :: text, rfl, nofun, fun d first => by simp_all⟩
    | false =>
      obtain ⟨run, rest, rfl, inside, ends⟩ := ih
      exact ⟨c :: run, rest, rfl, List.forall_mem_cons.2 ⟨space, inside⟩, ends⟩

/-- The first field of a text that has one, and what comes before and after it. -/
theorem parts_cons {text field : List Char} {others : List (List Char)} (found : parts text = field :: others) :
    ∃ before rest, text = before ++ field ++ rest ∧ (∀ c ∈ before, isWhiteSpace c = true) ∧ field ≠ [] ∧
      (∀ c ∈ field, isWhiteSpace c = false) ∧ (∀ c ∈ rest.head?, isWhiteSpace c = true) ∧ parts rest = others := by
  induction text with
  | nil => cases found
  | cons c text ih =>
    cases space : isWhiteSpace c with
    | true =>
      rw [parts_space space] at found
      obtain ⟨before, rest, rfl, spaces, own⟩ := ih found
      exact ⟨c :: before, rest, rfl, List.forall_mem_cons.2 ⟨space, spaces⟩, own⟩
    | false =>
      obtain ⟨run, rest, rfl, inside, ends⟩ := exists_run text
      have inside_ : ∀ d ∈ c :: run, isWhiteSpace d = false := List.forall_mem_cons.2 ⟨space, inside⟩
      rw [← List.cons_append, parts_field (List.cons_ne_nil c run) inside_ ends] at found
      obtain ⟨rfl, rfl⟩ := List.cons.inj found
      exact ⟨[], rest, rfl, nofun, List.cons_ne_nil c run, inside_, ends, rfl⟩

/-- The fields of a key are the first two of its words. -/
theorem fields_iff {key : String} {type body : List Char} :
    Fields key type body ↔ ∃ others, words key = type :: body :: others := by
  constructor
  · rintro ⟨before, gap, rest, whole, spaces, some_, inside, apart, between, full, own, ends⟩
    refine ⟨parts rest, ?_⟩
    have gap_ : ∀ c ∈ (gap ++ (body ++ rest)).head?, isWhiteSpace c = true := by
      obtain ⟨c, gap, rfl⟩ := List.exists_cons_of_ne_nil apart
      intro d first
      obtain rfl : c = d := by simpa using first
      exact between c List.mem_cons_self
    show parts key.toList = _
    rw [whole]
    simp only [List.append_assoc]
    rw [parts_spaces spaces, parts_field some_ inside gap_, parts_spaces between, parts_field full own ends]
  · rintro ⟨others, found⟩
    obtain ⟨before, rest, whole, spaces, some_, inside, ends, later⟩ := parts_cons found
    obtain ⟨gap, rest, rfl, between, full, own, ends_, -⟩ := parts_cons later
    refine ⟨before, gap, rest, by simp [whole], spaces, some_, inside, ?_, between, full, own, ends_⟩
    rintro rfl
    -- Without white space between them the two would be one field.
    obtain ⟨c, body, rfl⟩ := List.exists_cons_of_ne_nil full
    have space : isWhiteSpace c = true := ends c rfl
    rw [own c List.mem_cons_self] at space
    cases space

/-! ### Bodies -/

theorem unpadded_spec (text : List Char) :
    ∃ padding, text = unpadded text ++ padding ∧ padding.length ≤ 2 ∧ ∀ c ∈ padding, c = '=' := by
  unfold unpadded
  split
  · exact ⟨[], by simp, by simp, nofun⟩
  · split
    next rest reversed =>
      have whole := congrArg List.reverse reversed
      refine ⟨['=', '='], ?_, by simp, by simp⟩
      simpa using whole
    next rest _ reversed =>
      have whole := congrArg List.reverse reversed
      refine ⟨['='], ?_, by simp, by simp⟩
      simpa using whole
    next => exact ⟨[], by simp, by simp, nofun⟩

theorem base64Digit_lt {c : Char} {digit : Nat} (known : base64Digit c = some digit) : digit < 64 := by
  have within : ∀ {low high : Char}, (low ≤ c && c ≤ high) = true → c.toNat - low.toNat ≤ high.toNat - low.toNat := by
    intro low high inside
    have most : c.toNat ≤ high.toNat := (of_decide_eq_true (Bool.and_eq_true_iff.1 inside).2 : c ≤ high)
    omega
  unfold base64Digit at known
  split at known
  next upper =>
    have size : c.toNat - 'A'.toNat ≤ 25 := within upper
    obtain rfl := Option.some.inj known
    omega
  next =>
    split at known
    next lower =>
      have size : c.toNat - 'a'.toNat ≤ 25 := within lower
      obtain rfl := Option.some.inj known
      omega
    next =>
      split at known
      next decimal =>
        have size : c.toNat - '0'.toNat ≤ 9 := within decimal
        obtain rfl := Option.some.inj known
        omega
      next =>
        split at known
        next =>
          obtain rfl := Option.some.inj known
          decide
        next =>
          split at known
          next =>
            obtain rfl := Option.some.inj known
            decide
          next => cases known

/-- What is decoded digit by digit has digits only, each of six bits. -/
theorem mapM_base64Digit {text : List Char} {digits : List Nat} (decoded : text.mapM base64Digit = some digits) :
    (∀ c ∈ text, (base64Digit c).isSome = true) ∧ ∀ digit ∈ digits, digit < 64 := by
  induction text generalizing digits with
  | nil =>
    obtain rfl : [] = digits := Option.some.inj decoded
    exact ⟨nofun, nofun⟩
  | cons c text ih =>
    simp only [List.mapM_cons, Option.bind_eq_bind, Option.bind_eq_some_iff, Option.pure_def, Option.some.injEq] at decoded
    obtain ⟨digit, first, rest, others, rfl⟩ := decoded
    obtain ⟨known, small⟩ := ih others
    exact ⟨List.forall_mem_cons.2 ⟨by rw [first]; rfl, known⟩, List.forall_mem_cons.2 ⟨base64Digit_lt first, small⟩⟩

theorem base64Bytes_lt {digits : List Nat} (small : ∀ digit ∈ digits, digit < 64) : ∀ byte ∈ base64Bytes digits, byte < 256 := by
  induction digits using base64Bytes.induct with
  | case1 a b c d rest ih =>
    simp only [List.forall_mem_cons] at small
    simp only [base64Bytes, List.cons_append, List.nil_append, List.forall_mem_cons]
    refine ⟨by omega, by omega, by omega, ih small.2.2.2.2⟩
  | case2 a b c =>
    simp only [List.forall_mem_cons] at small
    simp only [base64Bytes, List.forall_mem_cons]
    exact ⟨by omega, by omega, nofun⟩
  | case3 a b =>
    simp only [List.forall_mem_cons] at small
    simp only [base64Bytes, List.forall_mem_cons]
    exact ⟨by omega, nofun⟩
  | case4 digits _ _ _ =>
    rw [base64Bytes]
    · nofun
    all_goals assumption

/-- A text that decodes to some bytes matches the pattern of a body. -/
theorem atob_spec {text : List Char} {bytes : List Nat} (decoded : atob text = some bytes) :
    (bytes ≠ [] → isBase64Text text = true) ∧ ∀ byte ∈ bytes, byte < 256 := by
  rw [atob] at decoded
  split at decoded
  next => cases decoded
  next =>
    obtain ⟨digits, read, rfl⟩ := Option.map_eq_some_iff.1 decoded
    obtain ⟨known, small⟩ := mapM_base64Digit read
    refine ⟨fun some_ => ?_, base64Bytes_lt small⟩
    obtain ⟨padding, whole, short, equals⟩ := unpadded_spec text
    have ends : padding.takeWhile (fun c => (base64Digit c).isSome) = [] := by
      cases padding with
      | nil => rfl
      | cons c padding =>
        obtain rfl := equals c List.mem_cons_self
        rfl
    have taken : text.takeWhile (fun c => (base64Digit c).isSome) = unpadded text := by
      rw [whole, List.takeWhile_append_of_pos known, ends, List.append_nil, ← whole]
    have dropped : text.dropWhile (fun c => (base64Digit c).isSome) = padding := by
      have parts := @List.takeWhile_append_dropWhile _ (fun c => (base64Digit c).isSome) text
      rw [taken] at parts
      exact List.append_cancel_left (parts.trans whole)
    have digits_ : unpadded text ≠ [] := by
      intro none
      rw [none] at read
      obtain rfl : [] = digits := Option.some.inj read
      exact some_ rfl
    have only : padding.all (· = '=') = true := List.all_eq_true.2 fun c member => decide_eq_true (equals c member)
    simp only [isBase64Text, taken, dropped, only, digits_, short, decide_true, Bool.and_true, ne_eq, not_false_eq_true]

/-! ### Headers -/

/-- A number in four bytes, the highest first. -/
def bigEndian (value : Nat) : List Nat := [value / 16777216 % 256, value / 65536 % 256, value / 256 % 256, value % 256]

/-- The bytes begin with a length between 1 and 64 and as many bytes that spell the type. -/
def Names (bytes : List Nat) (type : List Char) : Prop :=
  1 ≤ type.length ∧ type.length ≤ 64 ∧ ∃ tail, bytes = bigEndian type.length ++ type.map Char.toNat ++ tail

theorem toNat_ofNat_byte : ∀ byte < 256, (Char.ofNat byte).toNat = byte := by decide +kernel

theorem map_ofNat {bytes : List Nat} (small : ∀ byte ∈ bytes, byte < 256) :
    (bytes.map Char.ofNat).map Char.toNat = bytes := by
  rw [List.map_map]
  exact (List.map_congr_left fun byte member => toNat_ofNat_byte byte (small byte member)).trans (List.map_id _)

theorem map_toNat (text : List Char) : (text.map Char.toNat).map Char.ofNat = text := by
  rw [List.map_map]
  exact (List.map_congr_left fun c _ => Char.ofNat_toNat c).trans (List.map_id _)

theorem embeddedName_iff {bytes : List Nat} {type : List Char} (small : ∀ byte ∈ bytes, byte < 256) :
    embeddedName bytes = some (String.ofList type) ↔ Names bytes type := by
  constructor
  · intro embedded
    unfold embeddedName at embedded
    split at embedded
    next a b c d rest =>
      dsimp only at embedded
      split at embedded
      next => cases embedded
      next fits =>
        simp only [Bool.or_eq_true, decide_eq_true_eq, not_or, Nat.not_lt] at fits
        simp only [List.forall_mem_cons] at small
        have spelled : (rest.take (((a * 256 + b) * 256 + c) * 256 + d)).map Char.ofNat = type :=
          String.ofList_injective (Option.some.inj embedded)
        have length : type.length = ((a * 256 + b) * 256 + c) * 256 + d := by
          rw [← spelled, List.length_map, List.length_take, Nat.min_eq_left fits.2]
        have header : bigEndian type.length = [a, b, c, d] := by
          rw [length, bigEndian]
          simp only [List.cons.injEq, and_true]
          omega
        refine ⟨by omega, by omega, rest.drop (((a * 256 + b) * 256 + c) * 256 + d), ?_⟩
        have bytes_ : type.map Char.toNat = rest.take (((a * 256 + b) * 256 + c) * 256 + d) := by
          rw [← spelled, map_ofNat fun byte member => small.2.2.2.2 byte (List.mem_of_mem_take member)]
        rw [header, bytes_]
        simp
    next => cases embedded
  · rintro ⟨least, most, tail, rfl⟩
    have value : ((type.length / 16777216 % 256 * 256 + type.length / 65536 % 256) * 256 + type.length / 256 % 256) * 256 +
        type.length % 256 = type.length := by omega
    have long : type.length ≤ (type.map Char.toNat ++ tail).length := by simp
    have read : (type.map Char.toNat ++ tail).take type.length = type.map Char.toNat := by
      rw [← List.length_map (f := Char.toNat), List.take_left]
    simp only [bigEndian, List.cons_append, List.nil_append, embeddedName, value]
    rw [if_neg, read, map_toNat]
    simp only [Bool.or_eq_true, decide_eq_true_eq, not_or, Nat.not_lt]
    omega

/-! ### Signed lengths -/

/-- The length as the shifts of 32-bit integers compute it. -/
def shiftedLength (a b c d : Nat) : Int :=
  (BitVec.ofNat 32 a <<< 24 ||| BitVec.ofNat 32 b <<< 16 ||| BitVec.ofNat 32 c <<< 8 ||| BitVec.ofNat 32 d).toInt

theorem shifted_toNat {a b c d : Nat} (first : a < 256) (second : b < 256) (third : c < 256) (last : d < 256) :
    (BitVec.ofNat 32 a <<< 24 ||| BitVec.ofNat 32 b <<< 16 ||| BitVec.ofNat 32 c <<< 8 ||| BitVec.ofNat 32 d).toNat =
      ((a * 256 + b) * 256 + c) * 256 + d := by
  have low : c <<< 8 ||| d = c <<< 8 + d := (Nat.shiftLeft_add_eq_or_of_lt (by omega) c).symm
  have middle : b <<< 16 ||| (c <<< 8 + d) = b <<< 16 + (c <<< 8 + d) :=
    (Nat.shiftLeft_add_eq_or_of_lt (by simp only [Nat.shiftLeft_eq]; omega) b).symm
  have high : a <<< 24 ||| (b <<< 16 + (c <<< 8 + d)) = a <<< 24 + (b <<< 16 + (c <<< 8 + d)) :=
    (Nat.shiftLeft_add_eq_or_of_lt (by simp only [Nat.shiftLeft_eq]; omega) a).symm
  have shifted : ∀ {byte places : Nat}, byte < 256 → places ≤ 24 →
      (BitVec.ofNat 32 byte <<< places).toNat = byte <<< places := by
    intro byte places small few
    have power : 2 ^ places ≤ 2 ^ 24 := Nat.pow_le_pow_right (by decide) few
    have fits : byte * 2 ^ places < 2 ^ 32 := by
      calc byte * 2 ^ places ≤ 255 * 2 ^ 24 := Nat.mul_le_mul (by omega) power
        _ < 2 ^ 32 := by decide
    have whole : byte % 2 ^ 32 = byte := Nat.mod_eq_of_lt (by omega)
    rw [BitVec.toNat_shiftLeft, BitVec.toNat_ofNat, whole, Nat.shiftLeft_eq, Nat.mod_eq_of_lt fits]
  have unshifted : (BitVec.ofNat 32 d).toNat = d := by rw [BitVec.toNat_ofNat, Nat.mod_eq_of_lt (by omega)]
  rw [BitVec.toNat_or, BitVec.toNat_or, BitVec.toNat_or, shifted first (by decide), shifted second (by decide),
    shifted third (by decide), unshifted, Nat.or_assoc, Nat.or_assoc, low, middle, high]
  simp only [Nat.shiftLeft_eq]
  omega

/-- A length with its top bit set is negative, and any other one is what its bytes write. -/
theorem shiftedLength_eq {a b c d : Nat} (first : a < 256) (second : b < 256) (third : c < 256) (last : d < 256) :
    shiftedLength a b c d =
      (((a * 256 + b) * 256 + c) * 256 + d : Nat) - if a < 128 then 0 else 4294967296 := by
  rw [shiftedLength, BitVec.toInt_eq_toNat_cond, shifted_toNat first second third last]
  by_cases positive : a < 128
  · rw [if_pos positive, if_pos (by omega), Int.sub_zero]
  · rw [if_neg positive, if_neg (by omega)]
    rfl

/-- The name as the source reads it: the length is signed. -/
def shiftedName : List Nat → Option String
  | a :: b :: c :: d :: rest =>
    let nameLength := shiftedLength a b c d
    if nameLength ≤ 0 || 64 < nameLength || rest.length < nameLength then none
    else some (String.ofList ((rest.take nameLength.toNat).map Char.ofNat))
  | _ => none

/-- The sign of a length decides nothing: a negative length is refused, and it would be too long without its sign. -/
theorem shiftedName_eq {bytes : List Nat} (small : ∀ byte ∈ bytes, byte < 256) : shiftedName bytes = embeddedName bytes := by
  rcases bytes with _ | ⟨a, _ | ⟨b, _ | ⟨c, _ | ⟨d, rest⟩⟩⟩⟩
  · rfl
  · rfl
  · rfl
  · rfl
  · simp only [List.forall_mem_cons] at small
    simp only [shiftedName, embeddedName]
    rw [shiftedLength_eq small.1 small.2.1 small.2.2.1 small.2.2.2.1]
    by_cases positive : a < 128
    · rw [if_pos positive, Int.sub_zero, Int.toNat_natCast]
      congr 1
      simp only [Bool.or_eq_true, decide_eq_true_eq, eq_iff_iff]
      omega
    · rw [if_neg positive, if_pos, if_pos]
      · simp only [Bool.or_eq_true, decide_eq_true_eq]
        omega
      · simp only [Bool.or_eq_true, decide_eq_true_eq]
        omega

/-! ### Keys -/

/-- The first byte of a length with its top bit set. -/
def TopBit (bytes : List Nat) : Prop := ∃ first rest, bytes = first :: rest ∧ 128 ≤ first

/-- Fewer bytes than the length they begin with asks for. -/
def Truncated (bytes : List Nat) : Prop :=
  bytes.length < 4 ∨ ∃ length rest, bytes = bigEndian length ++ rest ∧ length < 4294967296 ∧ rest.length < length

/-- Bytes that name a type, and not the one that is given. -/
def NamesOther (bytes : List Nat) (type : List Char) : Prop := ∃ other, other ≠ type ∧ Names bytes other

/-- A negative length names nothing. -/
theorem not_names_of_topBit {bytes : List Nat} {type : List Char} (top : TopBit bytes) : ¬ Names bytes type := by
  rintro ⟨-, most, tail, rfl⟩
  obtain ⟨first, rest, whole, large⟩ := top
  simp only [bigEndian, List.cons_append, List.cons.injEq] at whole
  omega

theorem bigEndian_inj {left right : Nat} (left_lt : left < 4294967296) (right_lt : right < 4294967296)
    (same : bigEndian left = bigEndian right) : left = right := by
  simp only [bigEndian, List.cons.injEq, and_true] at same
  omega

theorem not_names_of_truncated {bytes : List Nat} {type : List Char} (truncated : Truncated bytes) : ¬ Names bytes type := by
  rintro ⟨-, most, tail, rfl⟩
  obtain short | ⟨length, rest, whole, fits, missing⟩ := truncated
  · simp [bigEndian] at short
    omega
  · rw [List.append_assoc] at whole
    obtain ⟨header, after⟩ := List.append_inj whole rfl
    have asked : type.length = length := bigEndian_inj (by omega) fits header
    rw [← after, List.length_append, List.length_map] at missing
    omega

/-- Bytes name one type at most. -/
theorem names_unique {bytes : List Nat} {left right : List Char} (first : Names bytes left) (second : Names bytes right) :
    left = right := by
  obtain ⟨-, most, tail, rfl⟩ := first
  obtain ⟨-, most_, tail_, whole⟩ := second
  rw [List.append_assoc, List.append_assoc] at whole
  obtain ⟨header, after⟩ := List.append_inj whole rfl
  have length : left.length = right.length := bigEndian_inj (by omega) (by omega) header
  obtain ⟨spelled, -⟩ := List.append_inj after (by rw [List.length_map, List.length_map, length])
  rw [← map_toNat left, spelled, map_toNat]

/-- A key is accepted if its type is known and its body names it. -/
theorem accepted_of_fields {key : String} {type body : List Char} (fields : Fields key type body) :
    isStructurallyValidSshPublicKey key = true ↔
      String.ofList type ∈ sshKeyTypes ∧ ∃ bytes, atob body = some bytes ∧ Names bytes type := by
  obtain ⟨others, found⟩ := fields_iff.1 fields
  rw [isStructurallyValidSshPublicKey, found]
  simp only [Bool.and_eq_true, Option.any_eq_true, decide_eq_true_eq, Option.bind_eq_some_iff, List.contains_iff_mem]
  constructor
  · rintro ⟨⟨known, -⟩, _, ⟨bytes, decoded, embedded⟩, rfl⟩
    exact ⟨known, bytes, decoded, (embeddedName_iff (atob_spec decoded).2).1 embedded⟩
  · rintro ⟨known, bytes, decoded, names⟩
    have some_ : bytes ≠ [] := by
      obtain ⟨-, -, tail, rfl⟩ := names
      simp [bigEndian]
    exact ⟨⟨known, (atob_spec decoded).1 some_⟩, _, ⟨bytes, decoded, (embeddedName_iff (atob_spec decoded).2).2 names⟩, rfl⟩

/-- A text is accepted exactly if it is a key: its type is known, and its body
decodes to bytes that name the type. A length with its top bit set, bytes that are
cut short, and bytes that name another type are refused. -/
theorem accepted_iff (key : String) :
    (isStructurallyValidSshPublicKey key = true ↔
      ∃ type body bytes, Fields key type body ∧ String.ofList type ∈ sshKeyTypes ∧ atob body = some bytes ∧ Names bytes type) ∧
    ∀ type body bytes, Fields key type body → atob body = some bytes →
      TopBit bytes ∨ Truncated bytes ∨ NamesOther bytes type → isStructurallyValidSshPublicKey key = false := by
  constructor
  · constructor
    · intro accepted
      have fields : ∃ type body, Fields key type body := by
        rw [isStructurallyValidSshPublicKey] at accepted
        split at accepted
        next type body others found => exact ⟨type, body, fields_iff.2 ⟨others, found⟩⟩
        next => cases accepted
      obtain ⟨type, body, fields⟩ := fields
      obtain ⟨known, bytes, decoded, names⟩ := (accepted_of_fields fields).1 accepted
      exact ⟨type, body, bytes, fields, known, decoded, names⟩
    · rintro ⟨type, body, bytes, fields, known, decoded, names⟩
      exact (accepted_of_fields fields).2 ⟨known, bytes, decoded, names⟩
  · intro type body bytes fields decoded wrong
    rw [Bool.eq_false_iff]
    intro accepted
    obtain ⟨-, bytes_, decoded_, names⟩ := (accepted_of_fields fields).1 accepted
    obtain rfl : bytes = bytes_ := Option.some.inj (decoded.symm.trans decoded_)
    obtain top | truncated | ⟨other, differs, names_⟩ := wrong
    · exact not_names_of_topBit top names
    · exact not_names_of_truncated truncated names
    · exact differs (names_unique names_ names)

end ControlPlane.SshKeys
