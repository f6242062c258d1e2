import ControlPlane.Transactions
import Mathlib.Data.List.MinMax
import Mathlib.Logic.Hydra

/-!
Locks taken in order. When every transaction takes each lock above all that it
holds, in one ranking of the locks, some session can always go on: the one that
waits for the highest lock waits for a session that waits for nothing
(`goes_on`). Every step of a session leaves it with less to do, so whatever the
sessions do, and in whatever order, the database comes to rest with none of them
left (`drains`).
-/
namespace ControlPlane.LockOrder
open ControlPlane.Programs ControlPlane.Tables ControlPlane.Runs ControlPlane.Transactions

section
variable {Db Lock Query Err Request α : Type}

/-- A lock that is asked for ranks above those that are held. -/
def Ascends (rank : Lock → Nat) (past : Past Db Lock Query) : Statement Lock Query → Prop
  | .lock l => ∀ k ∈ held past, rank k < rank l
  | .select _ => True

/-- A transaction that takes its locks in order. -/
abbrev Ordered (rank : Lock → Nat) (p : Reading Db Lock Query Err α) (past : Past Db Lock Query) : Prop :=
  p.Satisfies (Ascends rank) (fun _ _ => True) past

/-- Sessions that take their locks in order, and share none. -/
structure Orderly (rank : Lock → Nat) (s : State Db Lock Query Err Request α) : Prop where
  numbered : ∀ session ∈ s.sessions, session.id < s.opened
  keyed : Keyed Session.id s.sessions
  ordered : ∀ session ∈ s.sessions, Ordered rank session.program session.past
  exclusive : ∀ a ∈ s.sessions, ∀ b ∈ s.sessions, ∀ l ∈ held a.past, l ∈ held b.past → a.id = b.id

variable [DecidableEq Lock] {begun : Request → Transaction Db Lock Query Err α} {rank : Lock → Nat}

omit [DecidableEq Lock] in
theorem Orderly.fewer {s t : State Db Lock Query Err Request α} (orderly : Orderly rank s)
    (fewer : t.sessions.Sublist s.sessions) (same : t.opened = s.opened) : Orderly rank t := by
  have subset := fewer.subset
  constructor
  · intro session member
    rw [same]
    exact orderly.numbered session (subset member)
  · exact orderly.keyed.sublist (fewer.map Session.id)
  · exact fun session member => orderly.ordered session (subset member)
  · exact fun a first b second => orderly.exclusive a (subset first) b (subset second)

omit [DecidableEq Lock] in
theorem Orderly.replaced {s : State Db Lock Query Err Request α} {session moved : Session Db Lock Query Err Request α}
    (orderly : Orderly rank s) (member : session ∈ s.sessions) (same : moved.id = session.id)
    (ordered : Ordered rank moved.program moved.past)
    (free : ∀ other ∈ s.sessions, ∀ l ∈ held moved.past, l ∈ held other.past → other.id = session.id) :
    Orderly rank { s with sessions := replace moved s.sessions } := by
  constructor
  · intro other present
    rcases mem_replace present with rfl | ⟨old, -⟩
    · exact same ▸ orderly.numbered session member
    · exact orderly.numbered other old
  · exact keyed_update orderly.keyed fun row chosen => chosen.symm
  · intro other present
    rcases mem_replace present with rfl | ⟨old, -⟩
    · exact ordered
    · exact orderly.ordered other old
  · intro a first b second l left right
    rcases mem_replace first with rfl | ⟨old, -⟩ <;> rcases mem_replace second with rfl | ⟨also, -⟩
    · rfl
    · exact same.trans (free b also l left right).symm
    · exact (free a old l right left).trans same.symm
    · exact orderly.exclusive a old b also l left right

/-- Every step keeps the order, as long as the transactions that begin have it. -/
theorem orderly_next {s t : State Db Lock Query Err Request α} {action : Action Db Request}
    (begins : ∀ request, action = .start request → Ordered rank (begun request) []) (orderly : Orderly rank s)
    (taken : next begun s action = some t) : Orderly rank t := by
  cases steps_next taken with
  | start request same =>
    have apart : ∀ old ∈ s.sessions, old.id ≠ s.opened := fun old present => Nat.ne_of_lt (orderly.numbered old present)
    rw [same]
    constructor
    · intro session member
      rcases List.mem_append.mp member with old | new
      · exact Nat.lt_succ_of_lt (orderly.numbered session old)
      · rw [List.mem_singleton.mp new]; exact Nat.lt_succ_self _
    · exact keyed_append orderly.keyed apart
    · intro session member
      rcases List.mem_append.mp member with old | new
      · exact orderly.ordered session old
      · rw [List.mem_singleton.mp new]; exact begins request rfl
    · intro a first b second l left right
      rcases List.mem_append.mp first with old | new
      · rcases List.mem_append.mp second with also | fresh
        · exact orderly.exclusive a old b also l left right
        · rw [List.mem_singleton.mp fresh] at right; cases right
      · rw [List.mem_singleton.mp new] at left; cases left
  | lock session member l resume asks free same =>
    have ordered := orderly.ordered session member
    rw [asks] at ordered
    rw [same]
    refine orderly.replaced member rfl (ordered.2 ()) fun other present k ours theirs => ?_
    rcases List.mem_append.mp (held_lock session.past l ▸ ours) with before | now
    · exact orderly.exclusive other present session member k theirs before
    · rw [List.mem_singleton.mp now] at theirs; exact free other present theirs
  | select session member query resume asks same =>
    have ordered := orderly.ordered session member
    rw [asks] at ordered
    rw [same]
    refine orderly.replaced member rfl (ordered.2 s.db) fun other present k ours theirs => ?_
    exact orderly.exclusive other present session member k theirs (held_select session.past query s.db ▸ ours)
  | commit session member commit ends after written same =>
    rw [same]; exact orderly.fewer List.filter_sublist rfl
  | leave id same => rw [same]; exact orderly.fewer List.filter_sublist rfl
  | outside db same => rw [same]; exact orderly.fewer (List.Sublist.refl _) rfl

/-! ### Someone can go on -/

/-- What a session does of its own accord. It gives up only when its transaction
    has failed. -/
def Own (s : State Db Lock Query Err Request α) : Action Db Request → Prop
  | .step _ | .commit _ => True
  | .rollback id => ∃ session ∈ s.sessions, session.id = id ∧ ∃ error, session.program = .raise error
  | .start _ | .outside _ => False

/-- The rank of the lock that a session asks for next, counted from one. -/
def wanted (rank : Lock → Nat) (session : Session Db Lock Query Err Request α) : Nat :=
  match session.program with
  | .ask (.lock l) _ => rank l + 1
  | _ => 0

omit [DecidableEq Lock] in
theorem exists_highest {Row : Type} (f : Row → Nat) {rows : List Row} (some_ : rows ≠ []) :
    ∃ row ∈ rows, ∀ other ∈ rows, f other ≤ f row := by
  obtain ⟨row, found⟩ := Option.ne_none_iff_exists'.mp (mt List.argmax_eq_none.mp some_ : List.argmax f rows ≠ none)
  exact ⟨row, List.argmax_mem found, fun other member => List.le_of_mem_argmax member found⟩

/-- A session that does not wait for anybody goes on. -/
theorem proceeds {s : State Db Lock Query Err Request α} (orderly : Orderly rank s) {session : Session Db Lock Query Err Request α}
    (member : session ∈ s.sessions)
    (free : ∀ l resume, session.program = .ask (.lock l) resume → blocked s.sessions session.id l = false) :
    ∃ action t, Own s action ∧ next begun s action = some t := by
  have found : find Session.id session.id s.sessions = some session := orderly.keyed.find_eq member rfl
  cases program : session.program with
  | done commit =>
    cases written : commit.write s.db with
    | ok after => exact ⟨.commit session.id, _, trivial, by simp [next, found, program, written]; rfl⟩
    | error error => exact ⟨.commit session.id, _, trivial, by simp [next, found, program, written]; rfl⟩
  | raise error => exact ⟨.rollback session.id, _, ⟨session, member, rfl, error, program⟩, rfl⟩
  | ask statement resume =>
    cases statement with
    | select query => exact ⟨.step session.id, _, trivial, by simp [next, found, program]; rfl⟩
    | lock l => exact ⟨.step session.id, _, trivial, by simp [next, found, program, free l resume program]; rfl⟩

/-- Some session goes on, whatever the others wait for. -/
theorem goes_on {s : State Db Lock Query Err Request α} (orderly : Orderly rank s) (some_ : s.sessions ≠ []) :
    ∃ action t, Own s action ∧ next begun s action = some t := by
  obtain ⟨session, member, highest⟩ := exists_highest (wanted rank) some_
  by_cases waits : ∃ l resume, session.program = .ask (.lock l) resume ∧ blocked s.sessions session.id l = true
  · obtain ⟨l, resume, asks, waits⟩ := waits
    simp only [blocked, List.any_eq_true, Bool.and_eq_true, List.contains_iff_mem] at waits
    obtain ⟨other, present, -, holds⟩ := waits
    -- Who holds the lock would ask for a higher one than the highest.
    refine proceeds orderly present fun k rest wants => ?_
    have ascends := orderly.ordered other present
    rw [wants] at ascends
    have above : rank l < rank k := ascends.1 l holds
    have below := highest other present
    simp only [wanted, asks, wants] at below
    omega
  · refine proceeds orderly member fun l resume asks => ?_
    cases waiting : blocked s.sessions session.id l with
    | false => rfl
    | true => exact absurd ⟨l, resume, asks, waiting⟩ waits

/-! ### Everyone ends -/

/-- What is left of a transaction after a statement. -/
def Rest (rest whole : Reading Db Lock Query Err α) : Prop :=
  ∃ statement resume, whole = .ask statement resume ∧ ∃ answer, rest = resume answer

omit [DecidableEq Lock] in
theorem rest_wellFounded : WellFounded (Rest : Reading Db Lock Query Err α → Reading Db Lock Query Err α → Prop) := by
  refine ⟨fun whole => ?_⟩
  induction whole with
  | done a => exact ⟨_, by rintro _ ⟨_, _, ⟨⟩, _⟩⟩
  | raise e => exact ⟨_, by rintro _ ⟨_, _, ⟨⟩, _⟩⟩
  | ask statement resume ih =>
    refine ⟨_, ?_⟩
    rintro _ ⟨_, _, same, answer, rfl⟩
    cases same
    exact ih answer

/-- What the sessions still have to do. -/
def left (s : State Db Lock Query Err Request α) : Multiset (Transaction Db Lock Query Err α) :=
  (s.sessions.map Session.program : List _)

omit [DecidableEq Lock] in
/-- One session among the others. -/
theorem split_at {s : State Db Lock Query Err Request α} {session : Session Db Lock Query Err Request α}
    (keyed : Keyed Session.id s.sessions) (member : session ∈ s.sessions) :
    ∃ before after, s.sessions = before ++ session :: after ∧ ∀ other ∈ before ++ after, other.id ≠ session.id := by
  obtain ⟨before, after, split⟩ := List.append_of_mem member
  refine ⟨before, after, split, fun other there same => ?_⟩
  rw [split, Keyed, List.map_append, List.map_cons, List.nodup_middle] at keyed
  have apart := (List.nodup_cons.mp keyed).1
  rw [← List.map_append] at apart
  exact apart (same ▸ List.mem_map_of_mem there)

omit [DecidableEq Lock] in
theorem among_others (before after : List (Session Db Lock Query Err Request α)) (session : Session Db Lock Query Err Request α) :
    ((before ++ session :: after).map Session.program : Multiset (Transaction Db Lock Query Err α)) =
      session.program ::ₘ ((before ++ after).map Session.program : List _) :=
  Multiset.coe_eq_coe.mpr (List.perm_middle.map Session.program)

omit [DecidableEq Lock] in
theorem left_replace {s : State Db Lock Query Err Request α} {session moved : Session Db Lock Query Err Request α}
    (keyed : Keyed Session.id s.sessions) (member : session ∈ s.sessions) (same : moved.id = session.id)
    (rest : Rest moved.program session.program) :
    Relation.CutExpand Rest (left { s with sessions := replace moved s.sessions }) (left s) := by
  obtain ⟨before, after, split, others⟩ := split_at keyed member
  have unchanged : ∀ part : List (Session Db Lock Query Err Request α), (∀ other ∈ part, other ∈ before ++ after) →
      replace moved part = part := by
    intro part inside
    exact update_eq_self fun other there equal => others other (inside other there) (equal.trans same)
  have replaced : replace moved s.sessions = before ++ moved :: after := by
    have first := unchanged before fun other there => List.mem_append_left _ there
    have last := unchanged after fun other there => List.mem_append_right _ there
    simp only [replace, update] at first last ⊢
    rw [split, List.map_append, List.map_cons, first, last, if_pos same.symm]
  refine ⟨{moved.program}, session.program, by simpa using rest, ?_⟩
  rw [left, left, replaced, split, among_others, among_others, Multiset.cons_add, Multiset.cons_add,
    Multiset.add_comm _ {session.program}, Multiset.add_comm _ {moved.program}, Multiset.singleton_add, Multiset.singleton_add,
    Multiset.cons_swap]

omit [DecidableEq Lock] in
theorem left_without {s : State Db Lock Query Err Request α} {session : Session Db Lock Query Err Request α} {db : Db}
    (keyed : Keyed Session.id s.sessions) (member : session ∈ s.sessions) :
    Relation.CutExpand Rest (left { s with db := db, sessions := without session.id s.sessions }) (left s) := by
  obtain ⟨before, after, split, others⟩ := split_at keyed member
  have remaining : without session.id s.sessions = before ++ after := by
    have kept : ∀ other ∈ before ++ after, decide (other.id ≠ session.id) = true := by simpa using others
    simp only [without, split, List.filter_append, List.filter_cons]
    rw [List.filter_eq_self.mpr fun other there => kept other (List.mem_append_left _ there),
      List.filter_eq_self.mpr fun other there => kept other (List.mem_append_right _ there)]
    simp
  refine ⟨0, session.program, by simp, ?_⟩
  rw [left, left, remaining, split, among_others, Multiset.add_comm _ {session.program}, Multiset.singleton_add, Multiset.add_zero]

/-- A session's own step leaves less to do. -/
theorem left_next {s t : State Db Lock Query Err Request α} {action : Action Db Request} (orderly : Orderly rank s)
    (own : Own s action) (taken : next begun s action = some t) : Relation.CutExpand Rest (left t) (left s) := by
  cases steps_next taken with
  | start => exact own.elim
  | lock session member l resume asks free same =>
    rw [same]
    exact left_replace orderly.keyed member rfl ⟨.lock l, resume, asks, (), rfl⟩
  | select session member query resume asks same =>
    rw [same]
    exact left_replace orderly.keyed member rfl ⟨.select query, resume, asks, s.db, rfl⟩
  | commit session member commit ends after written same =>
    rw [same]
    exact left_without orderly.keyed member
  | leave id same _ ends =>
    have here : ∃ session ∈ s.sessions, session.id = id := by
      rcases ends with rfl | rfl
      · obtain ⟨session, found, -⟩ := Option.bind_eq_some_iff.mp taken
        exact ⟨session, find_mem found, find_key found⟩
      · obtain ⟨session, member, same, -⟩ := own
        exact ⟨session, member, same⟩
    obtain ⟨session, member, rfl⟩ := here
    rw [same]
    exact left_without orderly.keyed member
  | outside => exact own.elim

/-- Whatever the sessions do of their own accord, they all end. -/
inductive Drains (begun : Request → Transaction Db Lock Query Err α) : State Db Lock Query Err Request α → Prop
  | rest (s : State Db Lock Query Err Request α) (empty : s.sessions = []) : Drains begun s
  | later (s : State Db Lock Query Err Request α) (some_ : ∃ action t, Own s action ∧ next begun s action = some t)
      (each : ∀ action t, Own s action → next begun s action = some t → Drains begun t) : Drains begun s

theorem drains {s : State Db Lock Query Err Request α} (orderly : Orderly rank s) : Drains begun s := by
  induction less : left s using rest_wellFounded.cutExpand.induction generalizing s with
  | _ remaining ih =>
    subst less
    by_cases empty : s.sessions = []
    · exact .rest s empty
    · refine .later s (goes_on orderly empty) fun action t own taken => ?_
      have kept : Orderly rank t := by
        refine orderly_next (fun request begins => ?_) orderly taken
        subst begins
        exact own.elim
      exact ih (left t) (left_next orderly own taken) kept rfl

end

end ControlPlane.LockOrder
