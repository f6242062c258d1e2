import Mathlib.Algebra.GroupWithZero.Nat
import Mathlib.Data.List.Basic

/-!
The parts of the language's string library that the programs use, on lists of
characters so that they compute: splitting at a separator, the length in UTF-16
code units, and prefixes.
-/
namespace ControlPlane.Texts

/-- The characters of a text. Those of an ASCII text are read off its bytes, which is
    faster than to decode them. -/
def characters (text : String) : List Char :=
  let bytes := text.toByteArray.data.toList
  if bytes.all (· < 128) then bytes.map Char.ofUInt8 else text.toList

theorem not_ascii {byte : Nat} (least : 128 ≤ byte) (most : byte < 256) : ¬ UInt8.ofNat byte < 128 := by
  rw [UInt8.lt_iff_toNat_lt, UInt8.toNat_ofNat', Nat.mod_eq_of_lt most]
  exact Nat.not_lt.mpr least

theorem ascii_encoded {c : Char} (ascii : ∀ byte ∈ String.utf8EncodeChar c, byte < 128) :
    (String.utf8EncodeChar c).map Char.ofUInt8 = [c] := by
  by_cases narrow : c.val.toNat ≤ 0x7f
  · rw [String.utf8EncodeChar, if_pos narrow]
    refine congrArg (· :: []) (Char.ext (UInt32.toNat_inj.mp ?_))
    show (UInt8.ofNat c.val.toNat).toNat = c.val.toNat
    rw [UInt8.toNat_ofNat', Nat.mod_eq_of_lt (by omega)]
  · -- the first byte of a longer character is not ASCII
    rw [String.utf8EncodeChar, if_neg narrow] at ascii
    split_ifs at ascii <;> exact absurd (ascii _ List.mem_cons_self) (not_ascii (by omega) (by omega))

theorem bytes_encoded (text : String) : text.toByteArray.data.toList = text.toList.flatMap String.utf8EncodeChar := by
  rw [← String.utf8Encode_toList, List.utf8Encode, List.data_toByteArray]

/-- The characters of an ASCII text are its bytes. -/
theorem characters_ascii {chars : List Char} (ascii : ∀ byte ∈ chars.flatMap String.utf8EncodeChar, byte < 128) :
    (chars.flatMap String.utf8EncodeChar).map Char.ofUInt8 = chars := by
  induction chars with
  | nil => rfl
  | cons c rest ih =>
    rw [List.flatMap_cons, List.forall_mem_append] at ascii
    rw [List.flatMap_cons, List.map_append, ascii_encoded ascii.1, ih ascii.2]
    rfl

@[simp] theorem characters_eq (text : String) : characters text = text.toList := by
  rw [characters, bytes_encoded]
  split_ifs with ascii
  · exact characters_ascii fun byte listed => of_decide_eq_true (List.all_eq_true.mp ascii byte listed)
  · rfl

/-- The parts between the occurrences of a character. -/
def splitChars (separator : Char) : List Char → List (List Char)
  | [] => [[]]
  | c :: rest =>
    if c = separator then [] :: splitChars separator rest else
      match splitChars separator rest with
      | [] => [[c]]
      | part :: parts => (c :: part) :: parts

theorem splitChars_of_not_mem {separator : Char} {text : List Char} (free : separator ∉ text) :
    splitChars separator text = [text] := by
  induction text with
  | nil => rfl
  | cons c rest ih =>
    have differs := List.ne_of_not_mem_cons free
    simp [splitChars, Ne.symm differs, ih (List.not_mem_of_not_mem_cons free)]

theorem splitChars_append {separator : Char} {first rest : List Char} (free : separator ∉ first) :
    splitChars separator (first ++ separator :: rest) = first :: splitChars separator rest := by
  induction first with
  | nil => simp [splitChars]
  | cons c first ih =>
    have differs := List.ne_of_not_mem_cons free
    simp [splitChars, Ne.symm differs, ih (List.not_mem_of_not_mem_cons free)]

/-- `text.split(separator)` for a separator of one character. -/
def split (separator : Char) (text : String) : List String :=
  (splitChars separator text.toList).map String.ofList

/-- `text.length`, which counts UTF-16 code units. -/
def utf16Length (text : String) : Nat :=
  ((characters text).map fun c => if c.val > 0xFFFF then 2 else 1).sum

/-- The rest of a text after a prefix, when it starts with it. -/
def afterPrefix (start text : String) : Option String :=
  if start.toList <+: text.toList then some (String.ofList (text.toList.drop start.toList.length)) else none

theorem afterPrefix_append (start text : String) : afterPrefix start (start ++ text) = some text := by
  simp [afterPrefix]

/-- `text.toUpperCase()` for a text of ASCII letters. -/
def toUpperCase (text : String) : String := String.ofList (text.toList.map Char.toUpper)

/-- A character that a decimal digit pattern accepts. -/
def isDigit (c : Char) : Bool := '0' ≤ c && c ≤ '9'

/-- A character that a hexadecimal digit pattern accepts, in either case. -/
def isHexDigit (c : Char) : Bool := isDigit c || ('a' ≤ c && c ≤ 'f') || ('A' ≤ c && c ≤ 'F')

/-- The number that a list of decimal digits writes. -/
def digitsValue (digits : List Char) : Nat := digits.foldl (fun n c => 10 * n + (c.toNat - '0'.toNat)) 0

/-- `/^(0|[1-9][0-9]{0,2})$/`: a decimal octet without leading zeros. -/
def isOctetText (text : String) : Bool :=
  match text.toList with
  | ['0'] => true
  | first :: rest => isDigit first && first ≠ '0' && rest.length ≤ 2 && rest.all isDigit
  | [] => false

/-- `/^(0|[1-9][0-9]*)$/`: a decimal number without leading zeros. -/
def isNaturalText (text : String) : Bool :=
  match text.toList with
  | ['0'] => true
  | first :: rest => isDigit first && first ≠ '0' && rest.all isDigit
  | [] => false

/-- `/^[0-9a-f]{8}-[0-9a-f]{4}-[0-9a-f]{4}-[0-9a-f]{4}-[0-9a-f]{12}$/i`. -/
def isUuidText (text : String) : Bool :=
  let groups := splitChars '-' (characters text)
  groups.map List.length = [8, 4, 4, 4, 12] && groups.all fun group => group.all isHexDigit

/-- The length of a written text is read off its characters. -/
theorem utf16Length_ofList (characters : List Char) :
    utf16Length (String.ofList characters) = (characters.map fun c => if c.val > 0xFFFF then 2 else 1).sum := by
  rw [utf16Length, characters_eq, String.toList_ofList]

theorem isUuidText_ofList {characters : List Char}
    (grouped : (splitChars '-' characters).map List.length = [8, 4, 4, 4, 12] ∧
      ((splitChars '-' characters).all fun group => group.all isHexDigit) = true) :
    isUuidText (String.ofList characters) = true := by
  simp only [isUuidText, characters_eq, String.toList_ofList, grouped.1, grouped.2, decide_true, Bool.and_self]

theorem isUuidText_ne_empty {text : String} (uuid : isUuidText text = true) : text ≠ "" := by
  rintro rfl
  exact absurd uuid (by decide)

/-- White space, which `trim` removes and `\s` matches. -/
def isWhiteSpace (c : Char) : Bool :=
  ('\t' ≤ c && c ≤ '\r') || c = ' ' || c = '\u00a0' || c = '\u1680' || ('\u2000' ≤ c && c ≤ '\u200a') || c = '\u2028' ||
    c = '\u2029' || c = '\u202f' || c = '\u205f' || c = '\u3000' || c = '\ufeff'

/-- `text.trim()`. -/
def trim (text : String) : String :=
  String.ofList ((text.toList.dropWhile isWhiteSpace).reverse.dropWhile isWhiteSpace).reverse

/-- Different numbers print differently. -/
theorem natText_injective {left right : Nat} (same : toString left = toString right) : left = right := by
  have digits : Nat.toDigits 10 left = Nat.toDigits 10 right := by
    rw [← Nat.toList_repr, ← Nat.toList_repr]
    exact congrArg String.toList same
  rw [← @Nat.ofDigitChars_toDigits 10 left (by decide) (by decide), digits, Nat.ofDigitChars_toDigits (by decide) (by decide)]

end ControlPlane.Texts
