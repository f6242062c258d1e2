import Mathlib.Data.List.Infix

/-!
Replacing occurrences of patterns in a text by a marker, one pattern after the
other. As long as no pattern can be read across a marker, the outcome is what is
left of the text between the occurrences, with the marker in between.
-/
namespace ControlPlane.Masking
variable {α : Type} [DecidableEq α]

/-- The text with every occurrence of a pattern replaced, from the left and
    without overlaps. `skip` characters belong to the last occurrence. -/
def maskFrom (pattern marker : List α) : Nat → List α → List α
  | _, [] => []
  | skip + 1, _ :: rest => maskFrom pattern marker skip rest
  | 0, c :: rest =>
    if pattern.isPrefixOf (c :: rest) then marker ++ maskFrom pattern marker (pattern.length - 1) rest
    else c :: maskFrom pattern marker 0 rest

def mask (pattern marker text : List α) : List α := maskFrom pattern marker 0 text

/-- What is left of a text between the occurrences. -/
def cutFrom (pattern : List α) : Nat → List α → List (List α)
  | _, [] => [[]]
  | skip + 1, _ :: rest => cutFrom pattern skip rest
  | 0, c :: rest =>
    if pattern.isPrefixOf (c :: rest) then [] :: cutFrom pattern (pattern.length - 1) rest
    else
      match cutFrom pattern 0 rest with
      | [] => [[c]]
      | piece :: pieces => (c :: piece) :: pieces

def cut (pattern text : List α) : List (List α) := cutFrom pattern 0 text

/-- Replaces the occurrences of each pattern in turn. -/
def maskAll (patterns : List (List α)) (marker text : List α) : List α :=
  patterns.foldl (fun text pattern => mask pattern marker text) text

/-- What is left between the occurrences of all patterns. -/
def pieces (patterns : List (List α)) (text : List α) : List (List α) :=
  patterns.foldl (fun left pattern => left.flatMap (cut pattern)) [text]

/-- Where a text has a marker in it, no reading of the pattern takes a character
    of the marker. -/
def Apart (marker pattern : List α) : Prop :=
  ∀ before after offset, offset < before.length + marker.length → before.length < offset + pattern.length →
    ¬ pattern <+: (before ++ marker ++ after).drop offset

variable {pattern marker : List α}

/-! ### One pattern -/

theorem cutFrom_ne_nil (skip : Nat) (text : List α) : cutFrom pattern skip text ≠ [] := by
  induction text generalizing skip with
  | nil => simp [cutFrom]
  | cons c rest ih =>
    cases skip with
    | succ skip => exact ih skip
    | zero =>
      unfold cutFrom
      split
      · exact List.cons_ne_nil _ _
      · split <;> exact List.cons_ne_nil _ _

/-- Masking is cutting and joining. -/
theorem maskFrom_eq (skip : Nat) (text : List α) :
    maskFrom pattern marker skip text = marker.intercalate (cutFrom pattern skip text) := by
  induction text generalizing skip with
  | nil => cases skip <;> simp [maskFrom, cutFrom, List.intercalate]
  | cons c rest ih =>
    cases skip with
    | succ skip => exact ih skip
    | zero =>
      unfold maskFrom cutFrom
      split
      · rw [ih]
        cases left : cutFrom pattern (pattern.length - 1) rest with
        | nil => exact absurd left (cutFrom_ne_nil _ _)
        | cons piece more => simp [List.intercalate_cons_cons]
      · rw [ih]
        cases left : cutFrom pattern 0 rest with
        | nil => exact absurd left (cutFrom_ne_nil _ _)
        | cons piece more => cases more <;> simp [List.intercalate_cons_cons]

theorem flatMap_cut_ne_nil {left : List (List α)} (some_ : left ≠ []) : left.flatMap (cut pattern) ≠ [] := by
  cases left with
  | nil => exact absurd rfl some_
  | cons piece more =>
    rw [List.flatMap_cons]
    exact List.append_ne_nil_of_left_ne_nil (cutFrom_ne_nil _ _) _

omit [DecidableEq α] in
theorem intercalate_append {first second : List (List α)} (some_ : first ≠ []) (also : second ≠ []) :
    marker.intercalate (first ++ second) = marker.intercalate first ++ marker ++ marker.intercalate second := by
  induction first with
  | nil => exact absurd rfl some_
  | cons piece more ih =>
    cases more with
    | nil => rw [List.singleton_append, List.intercalate_cons_of_ne_nil also, List.intercalate_singleton]
    | cons next more =>
      rw [List.cons_append, List.intercalate_cons_of_ne_nil (List.append_ne_nil_of_right_ne_nil _ also),
        ih (List.cons_ne_nil _ _), List.intercalate_cons_cons]
      simp

section
variable (apart : Apart marker pattern) (filled : pattern ≠ [])
include apart filled

/-- No occurrence starts inside a marker. -/
theorem maskFrom_marker (after : List α) : ∀ offset, offset ≤ marker.length →
    maskFrom pattern marker 0 (marker.drop offset ++ after) = marker.drop offset ++ maskFrom pattern marker 0 after := by
  suffices whole : ∀ rest offset, offset ≤ marker.length → marker.drop offset = rest →
      maskFrom pattern marker 0 (rest ++ after) = rest ++ maskFrom pattern marker 0 after from
    fun offset below => whole _ offset below rfl
  intro rest
  induction rest with
  | nil => exact fun _ _ _ => rfl
  | cons c rest ih =>
    intro offset below same
    have inside : offset < marker.length := by
      by_contra beyond
      rw [List.drop_eq_nil_of_le (Nat.not_lt.mp beyond)] at same
      cases same
    have unread : pattern.isPrefixOf (c :: rest ++ after) = false := by
      refine Bool.eq_false_iff.mpr fun reads => ?_
      refine apart [] after offset (by simpa using inside) (by have := List.length_pos_of_ne_nil filled; simp; omega) ?_
      rw [List.nil_append, List.drop_append_of_le_length below, same]
      exact List.isPrefixOf_iff_prefix.mp reads
    rw [List.cons_append] at unread ⊢
    rw [maskFrom, unread, if_neg Bool.false_ne_true, ih (offset + 1) inside, List.cons_append]
    rw [← List.drop_drop, same]
    rfl

/-- Nor is one read across it. -/
theorem maskFrom_append (before after : List α) : ∀ skip, skip ≤ before.length →
    maskFrom pattern marker skip (before ++ marker ++ after) =
      maskFrom pattern marker skip before ++ marker ++ maskFrom pattern marker 0 after := by
  induction before with
  | nil =>
    intro skip below
    obtain rfl := Nat.le_zero.mp below
    simpa [maskFrom] using maskFrom_marker apart filled after 0 (Nat.zero_le _)
  | cons c rest ih =>
    intro skip below
    cases skip with
    | succ skip => exact ih skip (Nat.le_of_succ_le_succ below)
    | zero =>
      have reads : pattern.isPrefixOf (c :: rest ++ marker ++ after) = pattern.isPrefixOf (c :: rest) := by
        refine Bool.eq_iff_iff.mpr ?_
        rw [List.isPrefixOf_iff_prefix, List.isPrefixOf_iff_prefix]
        refine ⟨fun across => ?_, fun within => ?_⟩
        · refine List.prefix_of_prefix_length_le across ⟨marker ++ after, by simp⟩ (Nat.not_lt.mp fun longer => ?_)
          exact apart (c :: rest) after 0 (by rw [List.length_cons]; omega) (by omega) across
        · exact within.trans ⟨marker ++ after, by simp⟩
      rw [List.cons_append, List.cons_append] at reads ⊢
      rw [maskFrom, maskFrom, reads]
      split
      next found =>
        have fits := (List.isPrefixOf_iff_prefix.mp found).length_le
        rw [ih _ (by simp at fits; omega)]
        simp
      next => rw [ih 0 (Nat.zero_le _)]; simp

/-- A marked text is masked piece by piece. -/
theorem mask_intercalate (left : List (List α)) (some_ : left ≠ []) :
    mask pattern marker (marker.intercalate left) = marker.intercalate (left.flatMap (cut pattern)) := by
  induction left with
  | nil => exact absurd rfl some_
  | cons piece more ih =>
    cases more with
    | nil => simpa [mask, cut] using maskFrom_eq 0 piece
    | cons next more =>
      have rest := ih (List.cons_ne_nil _ _)
      rw [mask] at rest
      rw [List.intercalate_cons_cons, mask, maskFrom_append apart filled _ _ 0 (Nat.zero_le _), rest, maskFrom_eq,
        List.flatMap_cons]
      exact (intercalate_append (cutFrom_ne_nil _ _) (flatMap_cut_ne_nil (List.cons_ne_nil _ _))).symm

end

/-! ### All patterns -/

theorem pieces_eq (patterns : List (List α)) (apart : ∀ pattern ∈ patterns, Apart marker pattern ∧ pattern ≠ []) (text : List α) :
    maskAll patterns marker text = marker.intercalate (pieces patterns text) := by
  suffices whole : ∀ left : List (List α), left ≠ [] →
      patterns.foldl (fun text pattern => mask pattern marker text) (marker.intercalate left) =
        marker.intercalate (patterns.foldl (fun left pattern => left.flatMap (cut pattern)) left) by
    simpa [maskAll, pieces] using whole [text] (List.cons_ne_nil _ _)
  induction patterns with
  | nil => exact fun _ _ => rfl
  | cons pattern rest ih =>
    intro left some_
    obtain ⟨own, filled⟩ := apart pattern List.mem_cons_self
    rw [List.foldl_cons, List.foldl_cons, mask_intercalate own filled left some_]
    exact ih (fun other member => apart other (List.mem_cons_of_mem _ member)) _ (flatMap_cut_ne_nil some_)

omit [DecidableEq α] in
/-- A pattern without a character of the marker is apart from it. -/
theorem Apart.of_disjoint (filled : 0 < pattern.length) (marked : 0 < marker.length) (disjoint : ∀ c ∈ pattern, c ∉ marker) :
    Apart marker pattern := by
  rintro before after offset below beyond ⟨rest, same⟩
  -- the first position that is in both
  have position : max offset before.length - before.length < marker.length := by omega
  have within : max offset before.length - offset < pattern.length := by omega
  have read := congrArg (·[max offset before.length - offset]?) same
  have there : offset + (max offset before.length - offset) = max offset before.length := by omega
  simp only [List.getElem?_append_left within, List.getElem?_drop, there, List.append_assoc] at read
  rw [List.getElem?_append_right (by omega), List.getElem?_append_left position, List.getElem?_eq_getElem position,
    List.getElem?_eq_getElem within, Option.some.injEq] at read
  exact disjoint _ (List.getElem_mem within) (read ▸ List.getElem_mem position)

omit [DecidableEq α] in
/-- What is read beside a marker is read before it or after it. -/
theorem Apart.infix_iff {run : List α} (apart : Apart marker run) (before after : List α) :
    run <:+: before ++ marker ++ after ↔ run <:+: before ∨ run <:+: after := by
  constructor
  · rintro ⟨start, rest, same⟩
    have reads : run <+: (before ++ marker ++ after).drop start.length := by
      rw [← same, List.append_assoc, List.drop_left]
      exact ⟨rest, rfl⟩
    by_cases inside : start.length + run.length ≤ before.length
    · left
      have whole : start ++ run <+: before := by
        refine @List.prefix_of_prefix_length_le _ _ _ (before ++ marker ++ after) ⟨rest, same⟩ ⟨marker ++ after, by simp⟩ ?_
        simpa using inside
      obtain ⟨end_, whole⟩ := whole
      exact ⟨start, end_, whole⟩
    · right
      have beyond : before.length + marker.length ≤ start.length := by
        by_contra meets
        exact apart before after start.length (by omega) (by omega) reads
      rw [List.append_assoc, ← List.append_assoc, List.drop_append, List.drop_eq_nil_of_le (by simpa using beyond),
        List.nil_append] at reads
      exact reads.isInfix.trans (List.drop_suffix _ _).isInfix
  · rintro (first | second)
    · exact first.trans ⟨[], marker ++ after, by simp⟩
    · exact second.trans ⟨before ++ marker, [], by simp⟩

omit [DecidableEq α] in
/-- What is read in a joined text is read in one of its parts. -/
theorem infix_intercalate {run : List α} (apart : Apart marker run) (filled : run ≠ []) (left : List (List α)) :
    run <:+: marker.intercalate left ↔ ∃ piece ∈ left, run <:+: piece := by
  induction left with
  | nil => simp [filled]
  | cons piece more ih =>
    cases more with
    | nil => simp
    | cons next more =>
      rw [List.intercalate_cons_cons, apart.infix_iff, ih]
      simp

end ControlPlane.Masking
