import Mathlib.Data.List.Basic
import Mathlib.Data.List.Nodup
import Mathlib.Data.List.Perm.Basic
import Mathlib.Data.List.Sort

/-!
Pages of an ordered table. A page holds the rows behind a position, up to a limit,
and names the position of its last row if there are more; following these positions
shows every row once, if no two rows share a position (`walk_arranged`).
-/
namespace ControlPlane.SeekPages

variable {α κ γ ε : Type}

/-! ### Orders -/

/-- A strict linear order. -/
structure Order (κ : Type) where
  before : κ → κ → Bool
  irrefl : ∀ a, before a a = false
  trans : ∀ {a b c}, before a b = true → before b c = true → before a c = true
  total : ∀ {a b}, a ≠ b → before a b = true ∨ before b a = true

namespace Order
variable (order : Order κ)

theorem asymm {a b : κ} (first : order.before a b = true) : order.before b a = false := by
  rw [Bool.eq_false_iff]
  intro second
  exact absurd (order.trans first second) (by simp [order.irrefl])

theorem eq_of_neither {a b : κ} (first : order.before a b = false) (second : order.before b a = false) : a = b := by
  by_contra differs
  rcases order.total differs with before | before <;> simp_all

/-- What is not before something is not before what comes before that. -/
theorem not_before_trans {a b c : κ} (first : order.before b a = false) (second : order.before c b = false) :
    order.before c a = false := by
  by_cases same : a = b
  · exact same ▸ second
  · have up : order.before a b = true := (order.total same).resolve_right (by simp [first])
    rw [Bool.eq_false_iff]
    intro down
    exact absurd (order.trans down up) (by simp [second])

end Order

/-- A way to arrange rows along their keys. It is open how rows with the same key
    follow each other. -/
structure Arrangement (order : Order κ) (key : α → κ) where
  arrange : List α → List α
  perm : ∀ rows, (arrange rows).Perm rows
  sorted : ∀ rows, (arrange rows).Pairwise fun a b => order.before (key b) (key a) = false

/-- A row does not come after another one. -/
def Order.NotAfter (order : Order κ) (key : α → κ) (a b : α) : Prop := order.before (key b) (key a) = false

instance (order : Order κ) (key : α → κ) : DecidableRel (order.NotAfter key) := fun _ _ => inferInstanceAs (Decidable (_ = _))

instance (order : Order κ) (key : α → κ) : Std.Total (order.NotAfter key) where
  total a b := by
    simp only [Order.NotAfter]
    cases before : order.before (key b) (key a) with
    | false => exact Or.inl rfl
    | true => exact Or.inr (order.asymm before)

instance (order : Order κ) (key : α → κ) : IsTrans α (order.NotAfter key) where
  trans _ _ _ first second := order.not_before_trans first second

/-- Rows with the same key stay in the order they have. -/
def Order.stable (order : Order κ) (key : α → κ) : Arrangement order key where
  arrange rows := rows.insertionSort (order.NotAfter key)
  perm rows := List.perm_insertionSort (order.NotAfter key) rows
  sorted rows := List.pairwise_insertionSort (order.NotAfter key) rows

section
variable {order : Order κ} {key : α → κ} (arrangement : Arrangement order key) {rows left right : List α}

/-- Rows with different keys stand in one order only. -/
theorem eq_of_sorted (distinct : (left.map key).Nodup) (perm : left.Perm right)
    (sorted : left.Pairwise fun a b => order.before (key b) (key a) = false)
    (sorted_ : right.Pairwise fun a b => order.before (key b) (key a) = false) : left = right := by
  refine List.Perm.eq_of_pairwise (fun a b first second up down => ?_) sorted sorted_ perm
  exact List.inj_on_of_nodup_map distinct first (perm.mem_iff.2 second) (order.eq_of_neither down up)

/-- Rows with different keys come one before the other. -/
theorem strictly_sorted (distinct : (left.map key).Nodup)
    (sorted : left.Pairwise fun a b => order.before (key b) (key a) = false) :
    left.Pairwise fun a b => order.before (key a) (key b) = true := by
  have apart : left.Pairwise fun a b => key a ≠ key b := List.pairwise_map.1 distinct
  exact (sorted.and apart).imp fun ⟨after, differs⟩ => (order.total differs).resolve_right (by simp [after])

/-! ### Pages -/

/-- The rows behind a position, up to a limit. -/
def fetch (after : Option κ) (limit : Nat) (rows : List α) : List α :=
  (arrangement.arrange (rows.filter fun row => after.all fun position => order.before position (key row))).take limit

/-- The rows of a page and the position for the next one, from one row more than a
    page may have. -/
def trim (rows : List α) (limit : Nat) (position : α → γ) : List α × Option γ :=
  if rows.length ≤ limit then (rows, none) else (rows.take limit, (rows.take limit).getLast?.map position)

/-- The rows behind the last of the first ones. -/
theorem fetch_after {first rest : List α} {last : α} (distinct : (rows.map key).Nodup)
    (arranged : arrangement.arrange rows = first ++ last :: rest) (limit : Nat) :
    fetch arrangement (some (key last)) limit rows = rest.take limit := by
  have perm := arrangement.perm rows
  have sorted := arrangement.sorted rows
  have distinct_ : ((arrangement.arrange rows).map key).Nodup := (perm.map key).nodup_iff.2 distinct
  have strict := strictly_sorted distinct_ sorted
  rw [arranged] at perm sorted distinct_ strict
  have behind : (first ++ last :: rest).filter (fun row => order.before (key last) (key row)) = rest := by
    rw [List.pairwise_append, List.pairwise_cons] at strict
    have none : first.filter (fun row => order.before (key last) (key row)) = [] :=
      List.filter_eq_nil_iff.2 fun row listed => by
        simp [order.asymm (strict.2.2 row listed last List.mem_cons_self)]
    have all : rest.filter (fun row => order.before (key last) (key row)) = rest :=
      List.filter_eq_self.2 fun row listed => strict.2.1.1 row listed
    rw [List.filter_append, none, List.nil_append, List.filter_cons_of_neg (by simp [order.irrefl]), all]
  have same : arrangement.arrange (rows.filter fun row => order.before (key last) (key row)) = rest := by
    have filtered : (rows.filter fun row => order.before (key last) (key row)).Perm rest := by
      have kept := perm.filter fun row => order.before (key last) (key row)
      rw [behind] at kept
      exact kept.symm
    refine eq_of_sorted ?_ ((arrangement.perm _).trans filtered) (arrangement.sorted _) ?_
    · have part : (rows.filter fun row => order.before (key last) (key row)).Sublist rows := List.filter_sublist
      exact ((arrangement.perm _).map key).nodup_iff.2 (distinct.sublist (part.map key))
    · exact (List.pairwise_cons.1 (List.pairwise_append.1 sorted).2.1).2
  exact congrArg (List.take limit) same

theorem fetch_first (limit : Nat) : fetch arrangement none limit rows = (arrangement.arrange rows).take limit := by
  simp [fetch]

end

/-! ### Walks -/

/-- The rows that following the pages from a position on shows. -/
inductive Walk (list : Option γ → Except ε (List α × Option γ)) : Option γ → List α → Prop
  | last {cursor items} : list cursor = .ok (items, none) → Walk list cursor items
  | more {cursor items next rest} : list cursor = .ok (items, some next) → Walk list (some next) rest →
      Walk list cursor (items ++ rest)

/-- A walk whose rows are shown in another form. -/
theorem Walk.map {δ : Type} {list : Option γ → Except ε (List α × Option γ)} {cursor : Option γ} {shown : List α}
    (walk : Walk list cursor shown) (document : α → δ) :
    Walk (fun cursor => (list cursor).map fun page => (page.1.map document, page.2)) cursor (shown.map document) := by
  induction walk with
  | last page => exact .last (by rw [page]; rfl)
  | more page rest ih =>
    rw [List.map_append]
    exact .more (by rw [page]; rfl) ih

/-- Following the pages is never a choice. -/
theorem Walk.unique {list : Option γ → Except ε (List α × Option γ)} {cursor : Option γ} {shown other : List α}
    (walk : Walk list cursor shown) (another : Walk list cursor other) : shown = other := by
  induction walk generalizing other with
  | last page =>
    cases another with
    | last page_ =>
      obtain ⟨rfl, -⟩ := Prod.mk.inj (Except.ok.inj (page.symm.trans page_))
      rfl
    | more page_ rest => cases page.symm.trans page_
  | more page rest ih =>
    cases another with
    | last page_ => cases page.symm.trans page_
    | more page_ rest_ =>
      obtain ⟨rfl, next⟩ := Prod.mk.inj (Except.ok.inj (page.symm.trans page_))
      cases next
      rw [ih rest_]

/-- A walk shows every row once, in the order of the table. -/
theorem walk_arranged {order : Order κ} {key : α → κ} (arrangement : Arrangement order key) {rows : List α}
    (distinct : (rows.map key).Nodup) {limit : Nat} (positive : 1 ≤ limit) (position : α → γ)
    (list : Option γ → Except ε (List α × Option γ))
    (first : list none = .ok (trim (fetch arrangement none (limit + 1) rows) limit position))
    (next : ∀ row ∈ rows, list (some (position row)) =
      .ok (trim (fetch arrangement (some (key row)) (limit + 1) rows) limit position)) :
    Walk list none (arrangement.arrange rows) := by
  -- What is left, from a cursor behind which it stands.
  have walk : ∀ (rest done : List α) (cursor : Option γ), arrangement.arrange rows = done ++ rest →
      list cursor = .ok (trim (rest.take (limit + 1)) limit position) → Walk list cursor rest := by
    intro rest
    induction h : rest.length using Nat.strongRecOn generalizing rest with
    | ind length ih =>
      intro done cursor whole page
      by_cases short : rest.length ≤ limit
      · rw [List.take_of_length_le (by omega), trim, if_pos short] at page
        exact .last page
      · have items : (rest.take (limit + 1)).take limit = rest.take limit := by rw [List.take_take, Nat.min_eq_left (by omega)]
        obtain ⟨before, last, split⟩ : ∃ before last, rest.take limit = before ++ [last] := by
          have some_ : rest.take limit ≠ [] := by
            intro none
            have length_ := congrArg List.length none
            rw [List.length_take, List.length_nil] at length_
            omega
          exact ⟨_, _, (List.dropLast_append_getLast some_).symm⟩
        rw [trim, if_neg (by rw [List.length_take]; omega), items, split, List.getLast?_concat] at page
        have parts : rest = (before ++ [last]) ++ rest.drop limit := by rw [← split, List.take_append_drop]
        have arranged : arrangement.arrange rows = (done ++ before) ++ last :: rest.drop limit := by
          rw [whole]
          exact (congrArg (done ++ ·) parts).trans (by simp)
        have member : last ∈ rows := (arrangement.perm rows).mem_iff.1 (by rw [arranged]; simp)
        have later := next last member
        rw [fetch_after arrangement distinct arranged] at later
        rw [parts]
        refine .more page (ih (rest.drop limit).length ?_ (rest.drop limit) rfl (done ++ before ++ [last]) _ ?_ later)
        · rw [List.length_drop]
          omega
        · rw [arranged]
          simp
  refine walk (arrangement.arrange rows) [] none rfl ?_
  rw [first, fetch_first]

end ControlPlane.SeekPages
