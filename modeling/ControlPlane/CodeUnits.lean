import Mathlib.Data.List.Lex
import Mathlib.Data.List.Sort
import ControlPlane.Diagnostics
import ControlPlane.JsonReading

/-!
Texts in the order in which the language compares them, which is that of their
UTF-16 code units. Different texts have different code units, so entries with
different keys have one order only.
-/
namespace ControlPlane.CodeUnits
open ControlPlane.Diagnostics ControlPlane.JsonReading

def codeUnits (text : String) : List Nat := (units text).map UInt16.toNat

/-- `!(right < left)`. -/
def unitOrder (left right : String) : Bool := decide (codeUnits left ≤ codeUnits right)

/-! ### Code units are read back -/

theorem codeUnits_cons (c : Char) (rest : List Char) : codeUnits (String.ofList (c :: rest)) =
    (if c.toNat < 0x10000 then [c.toNat]
      else [0xd800 + (c.toNat - 0x10000) / 0x400, 0xdc00 + (c.toNat - 0x10000) % 0x400]) ++
      codeUnits (String.ofList rest) := by
  have valid : c.toNat < 0xd800 ∨ 0xdfff < c.toNat ∧ c.toNat < 0x110000 := c.valid
  simp only [codeUnits, units, String.toList_ofList, List.flatMap_cons, List.map_append]
  congr 1
  by_cases plain : c.toNat < 0x10000
  · simp only [if_pos plain, List.map_cons, List.map_nil, List.cons.injEq, and_true]
    exact UInt16.toNat_ofNat_of_lt' plain
  · simp only [if_neg plain, List.map_cons, List.map_nil, List.cons.injEq, and_true]
    constructor
    · exact UInt16.toNat_ofNat_of_lt' (show _ < 65536 by omega)
    · exact UInt16.toNat_ofNat_of_lt' (show _ < 65536 by omega)

/-- A code that is no half of a pair is a character of its own. -/
theorem join_plain {code : Nat} (high : isHigh code = false) (low : isLow code = false) (rest : List Nat) :
    join (code :: rest) = Char.ofNat code :: join rest := by
  have alone : scalar code = Char.ofNat code := by simp [scalar, high, low]
  cases rest with
  | nil => simp [join, alone]
  | cons next rest => simp [join, high, alone]

theorem join_codeUnits (text : String) : join (codeUnits text) = text.toList := by
  obtain ⟨characters, rfl⟩ : ∃ characters, text = String.ofList characters := ⟨text.toList, String.ofList_toList.symm⟩
  rw [String.toList_ofList]
  induction characters with
  | nil => rfl
  | cons c rest ih =>
    have valid : c.toNat < 0xd800 ∨ 0xdfff < c.toNat ∧ c.toNat < 0x110000 := c.valid
    rw [codeUnits_cons]
    by_cases plain : c.toNat < 0x10000
    · have high : isHigh c.toNat = false := by
        simp only [isHigh, Bool.and_eq_false_iff, decide_eq_false_iff_not]
        omega
      have low : isLow c.toNat = false := by
        simp only [isLow, Bool.and_eq_false_iff, decide_eq_false_iff_not]
        omega
      rw [if_pos plain, List.singleton_append, join_plain high low, ih, Char.ofNat_toNat]
    · have high : isHigh (0xd800 + (c.toNat - 0x10000) / 0x400) = true := by
        simp only [isHigh, Bool.and_eq_true, decide_eq_true_eq]
        omega
      have low : isLow (0xdc00 + (c.toNat - 0x10000) % 0x400) = true := by
        simp only [isLow, Bool.and_eq_true, decide_eq_true_eq]
        omega
      have code : 0x10000 + (0xd800 + (c.toNat - 0x10000) / 0x400 - 0xd800) * 0x400 +
          (0xdc00 + (c.toNat - 0x10000) % 0x400 - 0xdc00) = c.toNat := by omega
      rw [if_neg plain, List.cons_append, List.cons_append, List.nil_append, join, high, low, Bool.and_self, if_pos rfl,
        code, Char.ofNat_toNat, ih]

theorem codeUnits_inj {left right : String} (same : codeUnits left = codeUnits right) : left = right := by
  apply String.toList_injective
  rw [← join_codeUnits left, same, join_codeUnits]

/-! ### The order -/

theorem unitOrder_trans (first second third : String) (up : unitOrder first second = true)
    (on : unitOrder second third = true) : unitOrder first third = true := by
  simp only [unitOrder, decide_eq_true_eq] at *
  exact le_trans up on

theorem unitOrder_total (left right : String) : (unitOrder left right || unitOrder right left) = true := by
  simp only [unitOrder, Bool.or_eq_true, decide_eq_true_eq]
  exact le_total _ _

theorem unitOrder_antisymm {left right : String} (up : unitOrder left right = true) (down : unitOrder right left = true) :
    left = right := by
  simp only [unitOrder, decide_eq_true_eq] at up down
  exact codeUnits_inj (le_antisymm up down)

/-! ### Sorted entries -/

/-- `entries.sort(...)`, by their keys. -/
def sorted {α : Type} (key : α → String) (entries : List α) : List α :=
  entries.mergeSort fun left right => unitOrder (key left) (key right)

section
variable {α : Type} {key : α → String} {entries others : List α}

theorem sorted_perm (key : α → String) (entries : List α) : (sorted key entries).Perm entries := List.mergeSort_perm _ _

theorem sorted_sorted (key : α → String) (entries : List α) :
    (sorted key entries).Pairwise fun left right => unitOrder (key left) (key right) = true :=
  @List.pairwise_mergeSort α (fun left right => unitOrder (key left) (key right))
    (fun first second third => unitOrder_trans (key first) (key second) (key third))
    (fun left right => unitOrder_total (key left) (key right)) entries

/-- The order of entries whose keys tell them apart is that of their keys. -/
theorem sorted_of_perm (perm : entries.Perm others) (apart : ∀ left ∈ entries, ∀ right ∈ entries, key left = key right → left = right) :
    sorted key entries = sorted key others := by
  refine List.Perm.eq_of_pairwise (fun left right first second up down => ?_) (sorted_sorted key entries)
    (sorted_sorted key others) (((sorted_perm key entries).trans perm).trans (sorted_perm key others).symm)
  have here : right ∈ entries := perm.mem_iff.mpr ((sorted_perm key others).mem_iff.mp second)
  exact apart left ((sorted_perm key entries).mem_iff.mp first) right here (unitOrder_antisymm up down)

/-- Texts are sorted into one list exactly if they are the same ones. -/
theorem sorted_texts_iff {texts more : List String} : sorted id texts = sorted id more ↔ texts.Perm more := by
  constructor
  · intro same
    exact (sorted_perm id texts).symm.trans (same ▸ sorted_perm id more)
  · intro perm
    exact sorted_of_perm perm fun _ _ _ _ same => same

end
end ControlPlane.CodeUnits
