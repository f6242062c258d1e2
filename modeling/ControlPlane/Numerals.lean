import Mathlib.Data.Int.Log
import Mathlib.Data.List.Induction
import Mathlib.Data.List.TakeWhile
import Mathlib.Data.Rat.Floor
import Mathlib.Tactic.FinCases
import Mathlib.Tactic.IntervalCases
import ControlPlane.Texts

/-!
`Number(text)`: the literals that the conversion of a text accepts, and the double
that it gives for one. Canonical decimal texts are among them, beside fractions,
exponents, leading zeros, white space and other bases.
-/
namespace ControlPlane.Numerals
open ControlPlane.Texts

/-! ### Literals -/

/-- The value of a digit in any base up to sixteen. -/
def digit (c : Char) : Option Nat :=
  if isDigit c then some (c.toNat - '0'.toNat)
  else if 'a' ≤ c ∧ c ≤ 'f' then some (c.toNat - 'a'.toNat + 10)
  else if 'A' ≤ c ∧ c ≤ 'F' then some (c.toNat - 'A'.toNat + 10)
  else none

/-- A number in a base, from digits that there must be some of. -/
def natural (base : Nat) (digits : List Char) : Option Nat :=
  if digits = [] then none
  else digits.foldlM (fun value c => ((digit c).filter (· < base)).map (base * value + ·)) 0

/-- The exponent of a decimal literal. -/
def exponent : List Char → Option Int
  | [] => some 0
  | mark :: rest =>
    if mark ≠ 'e' ∧ mark ≠ 'E' then none
    else
      match rest with
      | '-' :: digits => (natural 10 digits).map fun value => -(value : Int)
      | '+' :: digits => (natural 10 digits).map Int.ofNat
      | digits => (natural 10 digits).map Int.ofNat

/-- The digits of a fraction, and what follows it. -/
def fraction : List Char → List Char × List Char
  | '.' :: rest => (rest.takeWhile isDigit, rest.dropWhile isDigit)
  | rest => ([], rest)

/-- A decimal literal without a sign. `Infinity` is no finite number and left out. -/
def unsignedDecimal (text : List Char) : Option ℚ :=
  let whole := text.takeWhile isDigit
  let (part, rest) := fraction (text.dropWhile isDigit)
  if whole ++ part = [] then none
  else (exponent rest).map fun shift : Int => (digitsValue (whole ++ part) : ℚ) * 10 ^ (shift - part.length)

/-- A decimal literal. -/
def decimal : List Char → Option ℚ
  | '+' :: rest => unsignedDecimal rest
  | '-' :: rest => (unsignedDecimal rest).map (- ·)
  | text => unsignedDecimal text

/-- The finite number that a trimmed text writes. -/
def literal : List Char → Option ℚ
  | [] => some 0
  | '0' :: mark :: digits =>
    if mark = 'x' ∨ mark = 'X' then (natural 16 digits).map Nat.cast
    else if mark = 'o' ∨ mark = 'O' then (natural 8 digits).map Nat.cast
    else if mark = 'b' ∨ mark = 'B' then (natural 2 digits).map Nat.cast
    else decimal ('0' :: mark :: digits)
  | text => decimal text

/-! ### Doubles -/

/-- The nearest integer, and the even one of two. -/
def nearest (value : ℚ) : Int :=
  let low := ⌊value⌋
  if value - low < 1 / 2 then low
  else if value - low = 1 / 2 ∧ low % 2 = 0 then low
  else low + 1

/-- The double nearest to a number, if there is a finite one. -/
def double (value : ℚ) : Option ℚ :=
  if value = 0 then some 0
  else
    let unit : ℚ := 2 ^ max (Int.log 2 |value| - 52) (-1074)
    let rounded := nearest (value / unit) * unit
    if 2 ^ 1024 ≤ |rounded| then none else some rounded

/-- `Number(text)`, when it is finite. -/
def number (text : String) : Option ℚ := (literal (trim text).toList).bind double

/-- `Number(text)`, when it is an integer. -/
def integer (text : String) : Option Int := ((number text).filter (·.den = 1)).map Rat.num

/-! ### Decimal texts -/

/-- The digits of a number, without leading zeros. -/
theorem digitsValue_toString (value : Nat) : digitsValue (toString value).toList = value := by
  rw [show (toString value).toList = Nat.toDigits 10 value from Nat.toList_repr]
  exact Nat.ofDigitChars_toDigits (by decide) (by decide)

theorem isDigit_toString {value : Nat} : ∀ c ∈ (toString value).toList, isDigit c = true := by
  intro c member
  rw [show (toString value).toList = Nat.toDigits 10 value from Nat.toList_repr] at member
  have digit_ := Nat.isDigit_of_mem_toDigits (by decide) (by decide) member
  simpa [Char.isDigit, isDigit, Char.le_def] using digit_

theorem toString_ne_nil (value : Nat) : (toString value).toList ≠ [] := by
  rw [show (toString value).toList = Nat.toDigits 10 value from Nat.toList_repr]
  exact Nat.toDigits_ne_nil

theorem digitsValue_concat (digits : List Char) (c : Char) :
    digitsValue (digits ++ [c]) = 10 * digitsValue digits + (c.toNat - '0'.toNat) := by
  simp [digitsValue]

theorem mem_of_isDigit {c : Char} (is_ : isDigit c = true) : c ∈ ['0', '1', '2', '3', '4', '5', '6', '7', '8', '9'] := by
  simp only [isDigit, Bool.and_eq_true, decide_eq_true_eq, Char.le_def, UInt32.le_iff_toNat_le] at is_
  obtain ⟨low, high⟩ := is_
  have low : 48 ≤ c.toNat := low
  have high : c.toNat ≤ 57 := high
  rw [← Char.ofNat_toNat c]
  generalize c.toNat = code at low high
  interval_cases code <;> decide

/-- A digit and its value. -/
theorem digitChar_of_isDigit {c : Char} (is_ : isDigit c = true) :
    c.toNat - '0'.toNat < 10 ∧ Nat.digitChar (c.toNat - '0'.toNat) = c := by
  have listed := mem_of_isDigit is_
  fin_cases listed <;> decide

/-- Digits without a leading zero are the text of their number. -/
theorem toDigits_digitsValue {first : Char} {rest : List Char} (digits : ∀ c ∈ first :: rest, isDigit c = true) (leads : first ≠ '0') :
    Nat.toDigits 10 (digitsValue (first :: rest)) = first :: rest ∧ 0 < digitsValue (first :: rest) := by
  induction rest using List.reverseRecOn with
  | nil =>
    obtain ⟨small, same⟩ := digitChar_of_isDigit (digits first List.mem_cons_self)
    have value : digitsValue [first] = first.toNat - '0'.toNat := by simp [digitsValue]
    rw [value, Nat.toDigits_of_lt_base small, same]
    refine ⟨rfl, Nat.pos_of_ne_zero fun zero => leads ?_⟩
    rw [← same, zero]
    rfl
  | append_singleton rest c ih =>
    obtain ⟨front, positive⟩ := ih fun other member => digits other (by
      rw [← List.cons_append]; exact List.mem_append_left _ member)
    obtain ⟨small, same⟩ := digitChar_of_isDigit (digits c (by simp))
    rw [← List.cons_append, digitsValue_concat]
    refine ⟨?_, by omega⟩
    rw [← Nat.toDigits_append_toDigits (by decide) positive small, front, Nat.toDigits_of_lt_base small, same]

/-- A text that the pattern of decimal numbers matches is the text of its number. -/
theorem toString_digitsValue {text : String} (natural_ : isNaturalText text = true) :
    toString (digitsValue text.toList) = text := by
  have spelled : Nat.toDigits 10 (digitsValue text.toList) = text.toList := by
    unfold isNaturalText at natural_
    split at natural_
    next zero => rw [zero]; decide
    next first rest _ cons =>
      simp only [Bool.and_eq_true, decide_eq_true_eq, List.all_eq_true] at natural_
      rw [cons]
      exact (toDigits_digitsValue (List.forall_mem_cons.mpr ⟨natural_.1.1, natural_.2⟩) natural_.1.2).1
    next => cases natural_
  rw [← String.toList_inj]
  exact Nat.toList_repr.trans spelled

/-! ### Integers are exact -/

theorem nearest_intCast (value : Int) : nearest value = value := by
  simp [nearest]

/-- An integer of at most 53 bits is a double. -/
theorem double_natCast {value : Nat} (positive : 0 < value) (small : value < 2 ^ 53) : double value = some (value : ℚ) := by
  have nonzero : (value : ℚ) ≠ 0 := by exact_mod_cast positive.ne'
  have logarithm : Int.log 2 |(value : ℚ)| = (Nat.log 2 value : Int) := by
    rw [abs_of_pos (by exact_mod_cast positive), Int.log_natCast]
  have exponent_ : Nat.log 2 value ≤ 52 := by
    have := Nat.log_lt_of_lt_pow positive.ne' small
    omega
  have whole : ∃ scale : Nat, max (Int.log 2 |(value : ℚ)| - 52) (-1074) = -(scale : Int) := by
    refine ⟨52 - Nat.log 2 value, ?_⟩
    rw [logarithm]
    omega
  obtain ⟨scale, unit⟩ := whole
  have scaled : (value : ℚ) / 2 ^ (-(scale : Int)) = ((value * 2 ^ scale : Nat) : Int) := by
    rw [zpow_neg, zpow_natCast, div_inv_eq_mul]
    push_cast
    rfl
  have back : ((value * 2 ^ scale : Nat) : ℚ) * 2 ^ (-(scale : Int)) = value := by
    rw [zpow_neg, zpow_natCast]
    push_cast
    exact mul_inv_cancel_right₀ (by positivity) _
  rw [double, if_neg nonzero]
  simp only [unit, scaled, nearest_intCast]
  rw [Int.cast_natCast, back, if_neg]
  rw [abs_of_pos (by exact_mod_cast positive), not_le]
  calc (value : ℚ) < 2 ^ 53 := by exact_mod_cast small
    _ ≤ 2 ^ 1024 := pow_le_pow_right₀ (by norm_num) (by norm_num)

/-- Digits are read as their number, with leading zeros and without. -/
theorem literal_digits {digits : List Char} (some_ : digits ≠ []) (all : ∀ c ∈ digits, isDigit c = true) :
    literal digits = some (digitsValue digits : ℚ) := by
  have whole : unsignedDecimal digits = some (digitsValue digits : ℚ) := by
    have spelled : digits.takeWhile isDigit = digits := List.takeWhile_eq_self_iff.mpr all
    have nothing : digits.dropWhile isDigit = [] := List.dropWhile_eq_nil_iff.mpr all
    simp [unsignedDecimal, spelled, nothing, fraction, exponent, some_]
  have unsigned : decimal digits = unsignedDecimal digits := by
    unfold decimal
    split
    next => exact absurd (all '+' List.mem_cons_self) (by decide)
    next => exact absurd (all '-' List.mem_cons_self) (by decide)
    next => rfl
  unfold literal
  split
  next => exact absurd rfl some_
  next mark rest =>
    have digit_ : isDigit mark = true := all mark (by simp)
    have other (c : Char) (letter : isDigit c = false) : mark ≠ c := by
      rintro rfl
      rw [letter] at digit_
      cases digit_
    rw [if_neg, if_neg, if_neg, unsigned, whole]
    all_goals rintro (same | same)
    all_goals exact other _ (by decide) same
  next => rw [unsigned, whole]

theorem trim_digits {text : String} (all : ∀ c ∈ text.toList, isDigit c = true) : trim text = text := by
  have solid (characters : List Char) (each : ∀ c ∈ characters, isDigit c = true) : characters.dropWhile isWhiteSpace = characters := by
    cases characters with
    | nil => rfl
    | cons first rest =>
      have digit_ := each first List.mem_cons_self
      have dark : isWhiteSpace first = false := by
        have listed := mem_of_isDigit digit_
        fin_cases listed <;> decide
      rw [List.dropWhile_cons_of_neg (by simp [dark])]
  rw [trim, solid _ all, solid _ fun c member => all c (List.mem_reverse.mp member), List.reverse_reverse, String.ofList_toList]

theorem integer_digits {text : String} (some_ : text.toList ≠ []) (all : ∀ c ∈ text.toList, isDigit c = true)
    (positive : 0 < digitsValue text.toList) (small : digitsValue text.toList < 2 ^ 53) :
    integer text = some (digitsValue text.toList : Int) := by
  rw [integer, number, trim_digits all, literal_digits some_ all, Option.bind_some, double_natCast positive small]
  simp [Option.filter]

/-- The text of a number is read as the number. -/
theorem integer_toString {value : Nat} (positive : 0 < value) (small : value < 2 ^ 53) : integer (toString value) = some (value : Int) := by
  have read := integer_digits (toString_ne_nil value) isDigit_toString
  rw [digitsValue_toString] at read
  exact read positive small

end ControlPlane.Numerals
