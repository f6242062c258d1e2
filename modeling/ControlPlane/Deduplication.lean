import Mathlib.Data.List.Induction
import Mathlib.Data.List.Nodup

/-!
Entries that may repeat the key of an earlier one. `once` keeps the first entry
of each key and every entry without a key, in their order. A machine that passes
over repetitions computes what the kept entries make (`foldlM_once`).
-/
namespace ControlPlane.Deduplication
universe u v w

section
variable {Entry : Type u} {Key : Type v} [DecidableEq Key] (key : Entry → Option Key)

/-- An entry has the key of an entry before it. -/
def repeats (before : List Entry) (entry : Entry) : Bool :=
  before.any fun other => (key entry).isSome && key other = key entry

/-- The entries without the repetitions. -/
def once (entries : List Entry) : List Entry :=
  entries.foldl (fun kept entry => if repeats key kept entry then kept else kept ++ [entry]) []

variable {key} {entries : List Entry} {entry : Entry} {k : Key}

theorem repeats_iff : repeats key entries entry = true ↔ ∃ k, key entry = some k ∧ some k ∈ entries.map key := by
  simp only [repeats, List.any_eq_true, Bool.and_eq_true, decide_eq_true_eq, Option.isSome_iff_exists, List.mem_map]
  constructor
  · rintro ⟨other, member, ⟨k, some⟩, same⟩
    exact ⟨k, some, other, member, same.trans some⟩
  · rintro ⟨k, some, other, member, same⟩
    exact ⟨other, member, ⟨k, some⟩, same.trans some.symm⟩

variable (key)

theorem once_concat (entries : List Entry) (entry : Entry) :
    once key (entries ++ [entry]) = if repeats key (once key entries) entry then once key entries
      else once key entries ++ [entry] := by
  rw [once, List.foldl_append]
  rfl

variable {key}

/-- No key is lost. -/
theorem mem_once_key : some k ∈ (once key entries).map key ↔ some k ∈ entries.map key := by
  induction entries using List.reverseRecOn with
  | nil => rfl
  | append_singleton entries entry ih =>
    rw [once_concat, List.map_append, List.mem_append, ← ih]
    split
    next again =>
      constructor
      · exact .inl
      · rintro (old | new)
        · exact old
        · obtain ⟨k', some, known⟩ := repeats_iff.mp again
          rw [List.map_singleton, List.mem_singleton, some] at new
          exact new ▸ known
    next => simp

/-- Whether an entry is a repetition is seen from the kept entries. -/
theorem repeats_once : repeats key (once key entries) entry = repeats key entries entry := by
  rw [Bool.eq_iff_iff, repeats_iff, repeats_iff]
  exact exists_congr fun k => and_congr_right fun _ => mem_once_key

/-- A repetition changes nothing about the kept entries. -/
theorem once_repeated (again : repeats key entries entry = true) : once key (entries ++ [entry]) = once key entries := by
  rw [once_concat, repeats_once, if_pos again]

theorem once_new (new : repeats key entries entry = false) :
    once key (entries ++ [entry]) = once key entries ++ [entry] := by
  rw [once_concat, repeats_once, if_neg (Bool.eq_false_iff.mp new)]

/-- The kept entries stand in their order. -/
theorem once_sublist (entries : List Entry) : (once key entries).Sublist entries := by
  induction entries using List.reverseRecOn with
  | nil => exact .slnil
  | append_singleton entries entry ih =>
    rw [once_concat]
    split
    · exact ih.trans (List.sublist_append_left entries [entry])
    · exact ih.append (.refl [entry])

/-- No key is kept twice. -/
theorem once_nodup (entries : List Entry) : ((once key entries).filterMap key).Nodup := by
  induction entries using List.reverseRecOn with
  | nil => exact List.nodup_nil
  | append_singleton entries entry ih =>
    rw [once_concat]
    split
    next => exact ih
    next new =>
      rw [List.filterMap_append]
      refine List.nodup_append.mpr ⟨ih, ?_, ?_⟩
      · cases keyed : key entry <;> simp [keyed]
      · intro k old k' new' same
        subst same
        have keyed : key entry = some k := by simpa using new'
        obtain ⟨other, member, known⟩ := List.mem_filterMap.mp old
        exact new (repeats_iff.mpr ⟨k, keyed, List.mem_map.mpr ⟨other, member, known⟩⟩)

end

/-! ### Machines -/

section
variable {Entry : Type u} {Key : Type v} [DecidableEq Key] {key : Entry → Option Key} {State : Type w} {ε : Type*}
  {step : State → Entry → Except ε State} {start s t : State} {entries : List Entry} {entry : Entry}

/-- A machine that made of the entries what the kept ones make still does when it
    passes over a repetition. -/
theorem foldlM_repeated (made : (once key entries).foldlM step start = .ok s)
    (again : repeats key entries entry = true) : (once key (entries ++ [entry])).foldlM step start = .ok s := by
  rw [once_repeated again]
  exact made

/-- And when it applies a new entry. -/
theorem foldlM_new (made : (once key entries).foldlM step start = .ok s) (new : repeats key entries entry = false)
    (applied : step s entry = .ok t) : (once key (entries ++ [entry])).foldlM step start = .ok t := by
  rw [once_new new, List.foldlM_append, made]
  simp only [bind, Except.bind, List.foldlM_cons, List.foldlM_nil, applied]
  rfl

end

end ControlPlane.Deduplication
