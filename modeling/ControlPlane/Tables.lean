import Mathlib.Algebra.GroupWithZero.Nat
import Mathlib.Data.List.Nodup

/-!
Tables as lists of rows in the order of their insertion. A table is keyed when
no two rows have one key; `find` reads the row of a key and `update` rewrites
the rows that a condition selects. `insert` refuses a row that a unique
constraint excludes.
-/
namespace ControlPlane.Tables
universe u v

section
variable {Row : Type u} {Key : Type v} [DecidableEq Key]

/-- The row of a key. -/
def find (key : Row → Key) (k : Key) (rows : List Row) : Option Row := rows.find? fun row => key row = k

/-- The rows with those that a condition selects rewritten. -/
def update (selected : Row → Prop) [DecidablePred selected] (rewrite : Row → Row) (rows : List Row) : List Row :=
  rows.map fun row => if selected row then rewrite row else row

/-- No two rows have one key. -/
def Keyed (key : Row → Key) (rows : List Row) : Prop := (rows.map key).Nodup

variable {key : Row → Key} {k : Key} {rows : List Row} {row : Row}

theorem find_mem (found : find key k rows = some row) : row ∈ rows := List.mem_of_find?_eq_some found

theorem find_key (found : find key k rows = some row) : key row = k := by
  simpa using List.find?_some found

theorem find_none (absent : find key k rows = none) : ∀ row ∈ rows, key row ≠ k := by
  simpa [find] using absent

theorem find_isSome (member : row ∈ rows) (same : key row = k) : ∃ first, find key k rows = some first := by
  cases found : find key k rows with
  | some first => exact ⟨first, rfl⟩
  | none => exact absurd same (find_none found row member)

omit [DecidableEq Key] in
theorem Keyed.eq_of_key (keyed : Keyed key rows) {other : Row} (member : row ∈ rows) (also : other ∈ rows)
    (same : key row = key other) : row = other :=
  List.inj_on_of_nodup_map keyed member also same

/-- In a keyed table the row of a key is the row that has it. -/
theorem Keyed.find_eq (keyed : Keyed key rows) (member : row ∈ rows) (same : key row = k) :
    find key k rows = some row := by
  obtain ⟨first, found⟩ := find_isSome member same
  rw [found, keyed.eq_of_key (find_mem found) member ((find_key found).trans same.symm)]

omit [DecidableEq Key] in
theorem keyed_append (keyed : Keyed key rows) (fresh : ∀ other ∈ rows, key other ≠ key row) :
    Keyed key (rows ++ [row]) := by
  simp only [Keyed, List.map_append, List.map_cons, List.map_nil]
  refine List.nodup_append.mpr ⟨keyed, List.nodup_singleton _, ?_⟩
  rintro a old b new rfl
  obtain ⟨other, member, rfl⟩ := List.mem_map.mp old
  exact fresh other member (List.mem_singleton.mp new)

theorem find_append (k : Key) (rows more : List Row) :
    find key k (rows ++ more) = (find key k rows).or (find key k more) := List.find?_append

/-! ### Rewriting rows -/

variable {selected : Row → Prop} [DecidablePred selected] {rewrite : Row → Row}

/-- A rewritten table holds the rewritten selected rows and the others. -/
theorem mem_update {out : Row} :
    out ∈ update selected rewrite rows ↔
      ∃ row ∈ rows, (selected row ∧ out = rewrite row) ∨ (¬ selected row ∧ out = row) := by
  simp only [update, List.mem_map]
  refine exists_congr fun row => and_congr_right fun _ => ?_
  by_cases chosen : selected row <;> simp [chosen, eq_comm]

theorem update_eq_self (none : ∀ row ∈ rows, ¬ selected row) : update selected rewrite rows = rows := by
  refine (List.map_congr_left fun row member => ?_).trans (List.map_id _)
  simp [none row member]

/-- Rewriting rows reads as rewriting the row of the key when the key stays. -/
theorem find_update_of (keeps : ∀ row, selected row → key (rewrite row) = key row) :
    find key k (update selected rewrite rows) =
      (find key k rows).map fun row => if selected row then rewrite row else row := by
  have same : ∀ row, key (if selected row then rewrite row else row) = key row := by
    intro row; split
    next chosen => exact keeps row chosen
    · rfl
  simp only [find, update, List.find?_map]
  congr 1
  exact congrArg (fun p => List.find? p rows) (funext fun row => by simp [same row])

theorem find_update (keeps : ∀ row, key (rewrite row) = key row) :
    find key k (update selected rewrite rows) =
      (find key k rows).map fun row => if selected row then rewrite row else row :=
  find_update_of fun row _ => keeps row

omit [DecidableEq Key] in
theorem map_update (keeps : ∀ row, selected row → key (rewrite row) = key row) :
    (update selected rewrite rows).map key = rows.map key := by
  simp only [update, List.map_map]
  refine List.map_congr_left fun row _ => ?_
  by_cases chosen : selected row <;> simp [chosen, keeps row]

omit [DecidableEq Key] in
theorem keyed_update (keyed : Keyed key rows) (keeps : ∀ row, selected row → key (rewrite row) = key row) :
    Keyed key (update selected rewrite rows) := by
  rw [Keyed, map_update keeps]; exact keyed

/-- Rewriting the row of a key exchanges its part of a sum over the table. -/
theorem sum_update (keyed : Keyed key rows) (member : row ∈ rows) (rewrite : Row → Row) (weight : Row → Nat) :
    ((update (fun other => key other = key row) rewrite rows).map weight).sum + weight row =
      (rows.map weight).sum + weight (rewrite row) := by
  induction rows with
  | nil => cases member
  | cons first rest ih =>
    obtain ⟨apart, keyed⟩ := List.nodup_cons.mp keyed
    have others : ∀ other ∈ rest, key other ≠ key first :=
      fun other there same => apart (same ▸ List.mem_map_of_mem there)
    by_cases same : key first = key row
    · have here : row = first := by
        rcases List.mem_cons.mp member with here | there
        · exact here
        · exact absurd same.symm (others row there)
      subst here
      have unchanged : update (fun other => key other = key row) rewrite rest = rest := update_eq_self others
      simp only [update] at unchanged
      simp only [update, List.map_cons, List.sum_cons, if_true, unchanged]
      omega
    · have there : row ∈ rest := (List.mem_cons.mp member).resolve_left fun here => same (here ▸ rfl)
      have step := ih keyed there
      simp only [update] at step
      simp only [update, List.map_cons, List.sum_cons, if_neg same]
      omega

/-! ### Statements that may fail -/

/-- Appends a row, unless it clashes with a row that is there under a unique
    constraint. -/
def insert (clashes : Row → Bool) (row : Row) (rows : List Row) : Except String (List Row) :=
  if rows.any clashes then .error "duplicate key value violates unique constraint" else .ok (rows ++ [row])

omit [DecidableEq Key] in
theorem insert_ok {clashes : Row → Bool} {after : List Row} (inserted : insert clashes row rows = .ok after) :
    after = rows ++ [row] ∧ ∀ other ∈ rows, clashes other = false := by
  simp only [insert] at inserted
  split at inserted
  next => cases inserted
  next free => cases inserted; exact ⟨rfl, by simpa using free⟩

end

/-- A sequence that ends well has a first part that ended well. -/
theorem bind_ok {ε α β : Type} {first : Except ε α} {rest : α → Except ε β} {b : β}
    (ended : (first >>= rest) = .ok b) : ∃ a, first = .ok a ∧ rest a = .ok b := by
  cases first with
  | error e => cases ended
  | ok a => exact ⟨a, rfl, ended⟩

end ControlPlane.Tables
