import ControlPlane.RequestValidation

/-!
Texts as bytes and bytes as texts: UTF-8, and base 64 in the alphabet of URLs. Both
decoders take everything. Bytes that are no UTF-8 are read as replacement characters,
and characters that are no digits are passed by. What was encoded is decoded again.
-/
namespace ControlPlane.TextEncodings
open ControlPlane.Texts ControlPlane.RequestValidation

/-! ### UTF-8 -/

/-- The bytes of a character. -/
def utf8 (c : Char) : List Nat :=
  let code := c.toNat
  if code < 0x80 then [code]
  else if code < 0x800 then [0xc0 + code / 0x40, 0x80 + code % 0x40]
  else if code < 0x10000 then [0xe0 + code / 0x1000, 0x80 + code / 0x40 % 0x40, 0x80 + code % 0x40]
  else [0xf0 + code / 0x40000, 0x80 + code / 0x1000 % 0x40, 0x80 + code / 0x40 % 0x40, 0x80 + code % 0x40]

/-- The bytes of a text. -/
def encodeUtf8 (text : List Char) : List Nat := text.flatMap utf8

/-- A character whose bytes are not all there: its code so far, how many bytes are
    missing, and between which bounds the next one lies. -/
structure Partial where
  code : Nat
  needed : Nat
  least : Nat
  most : Nat

/-- The bytes that continue a character. -/
def continued (code needed : Nat) : Partial := ⟨code, needed, 0x80, 0xbf⟩

/-- The first byte of a character. -/
def lead (byte : Nat) : List Char × Option Partial :=
  if byte < 0x80 then ([Char.ofNat byte], none)
  else if 0xc2 ≤ byte && byte ≤ 0xdf then ([], some (continued (byte - 0xc0) 1))
  else if 0xe0 ≤ byte && byte ≤ 0xef then
    ([], some ⟨byte - 0xe0, 2, if byte = 0xe0 then 0xa0 else 0x80, if byte = 0xed then 0x9f else 0xbf⟩)
  else if 0xf0 ≤ byte && byte ≤ 0xf4 then
    ([], some ⟨byte - 0xf0, 3, if byte = 0xf0 then 0x90 else 0x80, if byte = 0xf4 then 0x8f else 0xbf⟩)
  else (['\ufffd'], none)

/-- The characters that a byte completes. A byte that does not continue a character
    may begin another one. -/
def next (waiting : Option Partial) (byte : Nat) : List Char × Option Partial :=
  match waiting with
  | none => lead byte
  | some begun =>
    if begun.least ≤ byte && byte ≤ begun.most then
      if begun.needed = 1 then ([Char.ofNat (begun.code * 0x40 + byte % 0x40)], none)
      else ([], some (continued (begun.code * 0x40 + byte % 0x40) (begun.needed - 1)))
    else ('\ufffd' :: (lead byte).1, (lead byte).2)

def decodeFrom : Option Partial → List Nat → List Char
  | none, [] => []
  | some _, [] => ['\ufffd']
  | waiting, byte :: rest => (next waiting byte).1 ++ decodeFrom (next waiting byte).2 rest

/-- The text of some bytes. -/
def decodeUtf8 (bytes : List Nat) : List Char := decodeFrom none bytes

example : decodeUtf8 [0x68, 0x69] = ['h', 'i'] := by simp [decodeUtf8, decodeFrom, next, lead]

theorem utf8_lt (c : Char) : ∀ byte ∈ utf8 c, byte < 256 := by
  have valid : c.toNat < 0xd800 ∨ 0xdfff < c.toNat ∧ c.toNat < 0x110000 := c.valid
  simp only [utf8]
  split
  · simp only [List.forall_mem_cons]
    exact ⟨by omega, nofun⟩
  · split
    · simp only [List.forall_mem_cons]
      exact ⟨by omega, by omega, nofun⟩
    · split
      · simp only [List.forall_mem_cons]
        exact ⟨by omega, by omega, by omega, nofun⟩
      · simp only [List.forall_mem_cons]
        exact ⟨by omega, by omega, by omega, by omega, nofun⟩

theorem encodeUtf8_lt (text : List Char) : ∀ byte ∈ encodeUtf8 text, byte < 256 := by
  intro byte listed
  obtain ⟨c, -, inside⟩ := List.mem_flatMap.1 listed
  exact utf8_lt c byte inside

theorem lead_two {head : Nat} (least : 2 ≤ head) (most : head < 0x20) :
    lead (0xc0 + head) = ([], some (continued head 1)) := by
  simp only [lead, Bool.and_eq_true, decide_eq_true_eq]
  rw [if_neg (by omega), if_pos (by omega), Nat.add_sub_cancel_left]

theorem lead_three {head : Nat} (small : head < 0x10) : lead (0xe0 + head) =
    ([], some ⟨head, 2, if 0xe0 + head = 0xe0 then 0xa0 else 0x80, if 0xe0 + head = 0xed then 0x9f else 0xbf⟩) := by
  simp only [lead, Bool.and_eq_true, decide_eq_true_eq]
  rw [if_neg (by omega), if_neg (by omega), if_pos (by omega), Nat.add_sub_cancel_left]

theorem lead_four {head : Nat} (small : head < 5) : lead (0xf0 + head) =
    ([], some ⟨head, 3, if 0xf0 + head = 0xf0 then 0x90 else 0x80, if 0xf0 + head = 0xf4 then 0x8f else 0xbf⟩) := by
  simp only [lead, Bool.and_eq_true, decide_eq_true_eq]
  rw [if_neg (by omega), if_neg (by omega), if_neg (by omega), if_pos (by omega), Nat.add_sub_cancel_left]

/-- The bytes that end a character. -/
theorem decodeFrom_last {code byte : Nat} {c : Char} (least : 0x80 ≤ byte) (most : byte ≤ 0xbf)
    (value : code * 0x40 + byte % 0x40 = c.toNat) (rest : List Nat) :
    decodeFrom (some (continued code 1)) (byte :: rest) = c :: decodeFrom none rest := by
  have last : next (some (continued code 1)) byte = ([c], none) := by
    simp [next, continued, least, most, value, Char.ofNat_toNat]
  rw [decodeFrom, last]
  rfl

theorem decodeFrom_more {begun : Partial} {byte : Nat} (least : begun.least ≤ byte) (most : byte ≤ begun.most)
    (more : begun.needed ≠ 1) (rest : List Nat) : decodeFrom (some begun) (byte :: rest) =
      decodeFrom (some (continued (begun.code * 0x40 + byte % 0x40) (begun.needed - 1))) rest := by
  have later : next (some begun) byte = ([], some (continued (begun.code * 0x40 + byte % 0x40) (begun.needed - 1))) := by
    simp only [next, Bool.and_eq_true, decide_eq_true_eq]
    rw [if_pos ⟨least, most⟩, if_neg more]
  rw [decodeFrom, later]
  rfl

theorem decodeFrom_lead {byte : Nat} {begun : Partial} (begins : lead byte = ([], some begun)) (rest : List Nat) :
    decodeFrom none (byte :: rest) = decodeFrom (some begun) rest := by
  rw [decodeFrom, next, begins]
  rfl

/-- The bytes of a character are read as this character. -/
theorem decodeFrom_utf8 (c : Char) (rest : List Nat) : decodeFrom none (utf8 c ++ rest) = c :: decodeFrom none rest := by
  have valid : c.toNat < 0xd800 ∨ 0xdfff < c.toNat ∧ c.toNat < 0x110000 := c.valid
  simp only [utf8]
  split
  next short =>
    have first : lead c.toNat = ([c], none) := by rw [lead, if_pos short, Char.ofNat_toNat]
    rw [List.singleton_append, decodeFrom, next, first]
    rfl
  next =>
    split
    next =>
      rw [List.cons_append, decodeFrom_lead (lead_two (by omega) (by omega)), List.singleton_append]
      exact decodeFrom_last (by omega) (by omega) (by omega) rest
    next =>
      split
      next =>
        rw [List.cons_append, decodeFrom_lead (lead_three (by omega)), List.cons_append, decodeFrom_more, List.singleton_append]
        · exact decodeFrom_last (by omega) (by omega) (by dsimp only; omega) rest
        · dsimp only
          split <;> omega
        · dsimp only
          split <;> omega
        · exact (by decide : (2 : Nat) ≠ 1)
      next =>
        rw [List.cons_append, decodeFrom_lead (lead_four (by omega)), List.cons_append, decodeFrom_more, List.cons_append,
          decodeFrom_more, List.singleton_append]
        · exact decodeFrom_last (by omega) (by omega) (by dsimp only [continued]; omega) rest
        · exact Nat.le_add_right _ _
        · dsimp only [continued]
          omega
        · exact (by decide : (2 : Nat) ≠ 1)
        · dsimp only
          split <;> omega
        · dsimp only
          split <;> omega
        · exact (by decide : (3 : Nat) ≠ 1)

theorem decodeUtf8_encodeUtf8 (text : List Char) : decodeUtf8 (encodeUtf8 text) = text := by
  induction text with
  | nil => rfl
  | cons c text ih =>
    rw [encodeUtf8, List.flatMap_cons, decodeUtf8, decodeFrom_utf8]
    exact congrArg (c :: ·) ih

/-! ### Base 64 -/

def urlAlphabet : List Char := characters "ABCDEFGHIJKLMNOPQRSTUVWXYZabcdefghijklmnopqrstuvwxyz0123456789-_"

def urlDigit (value : Nat) : Char := urlAlphabet.getD value 'A'

/-- The value of a digit of either alphabet. -/
def digitValue (c : Char) : Option Nat :=
  if c = '-' then some 62 else if c = '_' then some 63 else base64Digit c

/-- Bytes in parts of six bits. -/
def sextets : List Nat → List Nat
  | a :: b :: c :: rest => [a / 4, a % 4 * 16 + b / 16, b % 16 * 4 + c / 64, c % 64] ++ sextets rest
  | [a, b] => [a / 4, a % 4 * 16 + b / 16, b % 16 * 4]
  | [a] => [a / 4, a % 4 * 16]
  | [] => []

example : sextets [77, 97, 110] = [19, 22, 5, 46] := by simp [sextets]

/-- `Buffer.from(bytes).toString('base64url')`. -/
def encodeBase64url (bytes : List Nat) : List Char := (sextets bytes).map urlDigit

/-- `Buffer.from(text, 'base64url')`: what is no digit is passed by. -/
def decodeBase64url (text : List Char) : List Nat := base64Bytes (text.filterMap digitValue)

theorem digitValue_urlDigit : ∀ value < 64, digitValue (urlDigit value) = some value := by decide +kernel

theorem sextets_lt {bytes : List Nat} (small : ∀ byte ∈ bytes, byte < 256) : ∀ digit ∈ sextets bytes, digit < 64 := by
  induction bytes using sextets.induct with
  | case1 a b c rest ih =>
    simp only [List.forall_mem_cons] at small
    simp only [sextets, List.cons_append, List.nil_append, List.forall_mem_cons]
    exact ⟨by omega, by omega, by omega, by omega, ih small.2.2.2⟩
  | case2 a b =>
    simp only [List.forall_mem_cons] at small
    simp only [sextets, List.forall_mem_cons]
    exact ⟨by omega, by omega, by omega, nofun⟩
  | case3 a =>
    simp only [List.forall_mem_cons] at small
    simp only [sextets, List.forall_mem_cons]
    exact ⟨by omega, by omega, nofun⟩
  | case4 => exact nofun

theorem base64Bytes_sextets {bytes : List Nat} (small : ∀ byte ∈ bytes, byte < 256) : base64Bytes (sextets bytes) = bytes := by
  induction bytes using sextets.induct with
  | case1 a b c rest ih =>
    simp only [List.forall_mem_cons] at small
    simp only [sextets, List.cons_append, List.nil_append, base64Bytes, ih small.2.2.2, List.cons.injEq, and_true]
    omega
  | case2 a b =>
    simp only [List.forall_mem_cons] at small
    simp only [sextets, base64Bytes, List.cons.injEq, and_true]
    omega
  | case3 a =>
    simp only [List.forall_mem_cons] at small
    simp only [sextets, base64Bytes, List.cons.injEq, and_true]
    omega
  | case4 => rfl

theorem decodeBase64url_encodeBase64url {bytes : List Nat} (small : ∀ byte ∈ bytes, byte < 256) :
    decodeBase64url (encodeBase64url bytes) = bytes := by
  have digits : ∀ values : List Nat, (∀ value ∈ values, value < 64) → (values.map urlDigit).filterMap digitValue = values := by
    intro values small
    induction values with
    | nil => rfl
    | cons value values ih =>
      rw [List.forall_mem_cons] at small
      rw [List.map_cons, List.filterMap_cons_some (digitValue_urlDigit value small.1), ih small.2]
  rw [decodeBase64url, encodeBase64url, digits _ (sextets_lt small), base64Bytes_sextets small]

/-- The length of a text in base 64. -/
theorem encodeBase64url_length (bytes : List Nat) : (encodeBase64url bytes).length = (4 * bytes.length + 2) / 3 := by
  rw [encodeBase64url, List.length_map]
  induction bytes using sextets.induct with
  | case1 a b c rest ih =>
    simp only [sextets, List.length_append, List.length_cons, List.length_nil, ih]
    omega
  | case2 a b => simp [sextets]
  | case3 a => simp [sextets]
  | case4 => rfl

/-- A digit is one code unit. -/
theorem urlDigit_narrow (value : Nat) : (urlDigit value).toNat < 128 := by
  have all : (urlAlphabet.all fun c => c.toNat < 128) = true := by decide +kernel
  rw [urlDigit, List.getD_eq_getElem?_getD]
  cases found : urlAlphabet[value]? with
  | none => decide
  | some c => exact of_decide_eq_true (List.all_eq_true.1 all c (List.mem_of_getElem? found))

end ControlPlane.TextEncodings
