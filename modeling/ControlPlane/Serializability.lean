import ControlPlane.Transactions

/-!
Serializable transactions under READ COMMITTED. A transaction is protected when
it decides by nothing but what its locks protect: read again, on any tables that
agree with the first ones on what it has locked, it goes on as it did. A
protected transaction commits what it would commit in one step on the tables it
finds at its commit (`serializable`), so the commits of a run, in their order,
are a run of transactions that each take one step (`serialized`).
-/
namespace ControlPlane.Serializability
open ControlPlane.Programs ControlPlane.Programs.Program ControlPlane.Tables ControlPlane.Runs ControlPlane.Transactions

section
variable {Db Lock Query Err Request Value α β : Type} (view : Lock → Db → Option Value)

/-- Tables that still show what the locks showed. -/
def Leads (locks : List Lock) (db later : Db) : Prop :=
  ∀ l ∈ locks, ∀ value, view l db = some value → view l later = some value

/-- A part of a transaction that decides by what its locks protect. A statement
    that would read something else later is followed by nothing but a refusal. -/
def Protected (good : List Lock → α → Prop) : Reading Db Lock Query Err α → List Lock → Prop
  | .done a, locks => good locks a
  | .raise _, _ => True
  | .ask (.lock l) resume, locks => Protected good (resume ()) (locks ++ [l])
  | .ask (.select _) resume, locks => ∀ db, Protected good (resume db) locks ∧
      ((∃ error, resume db = .raise error) ∨ ∀ later, Leads view locks db later → resume later = resume db)

variable {view}

theorem Leads.refl (locks : List Lock) (db : Db) : Leads view locks db db := fun _ _ _ seen => seen

theorem Leads.trans {locks : List Lock} {a b c : Db} (first : Leads view locks a b) (second : Leads view locks b c) :
    Leads view locks a c :=
  fun l taken value seen => second l taken value (first l taken value seen)

theorem Leads.fewer {locks more : List Lock} {db later : Db} (leads : Leads view more db later) (fewer : locks ⊆ more) :
    Leads view locks db later :=
  fun l taken => leads l (fewer taken)

/-! ### The rules -/

section
variable {good : List Lock → β → Prop} {middle : List Lock → α → Prop} {locks : List Lock}

theorem protected_lock {l : Lock} {f : Unit → Reading Db Lock Query Err β} (rest : Protected view good (f ()) (locks ++ [l])) :
    Protected view good (lock l >>= f : Reading Db Lock Query Err β) locks :=
  rest

theorem protected_select {query : Query} {f : Db → Reading Db Lock Query Err β}
    (rest : ∀ db, Protected view good (f db) locks)
    (same : ∀ db, (∃ error, f db = .raise error) ∨ ∀ later, Leads view locks db later → f later = f db) :
    Protected view good (select query >>= f : Reading Db Lock Query Err β) locks :=
  fun db => ⟨rest db, same db⟩

theorem protected_bind {p : Reading Db Lock Query Err α} {f : α → Reading Db Lock Query Err β}
    (first : Protected view middle p locks) (rest : ∀ later a, middle later a → Protected view good (f a) later) :
    Protected view good (p >>= f : Reading Db Lock Query Err β) locks := by
  induction p generalizing locks with
  | done a => exact rest locks a first
  | raise error => trivial
  | ask statement resume ih =>
    cases statement with
    | lock l => exact ih () first
    | select query =>
      intro db
      obtain ⟨goes, same⟩ := first db
      refine ⟨ih db goes, ?_⟩
      rcases same with ⟨error, raised⟩ | same
      · exact .inl ⟨error, by simp only [raised]; rfl⟩
      · exact .inr fun later leads => by simp only [same later leads]

end

/-! ### Every commit is one step -/

/-- A transaction whose decision rests on nothing but what its locks protect. -/
abbrev Serial (view : Lock → Db → Option Value) (p : Transaction Db Lock Query Err α) : Prop :=
  Protected view (fun _ _ => True) p []

variable (view) in
/-- What a session of a protected transaction has decided so far, it would decide
    again on any tables that still show what its locks show. -/
def Repeats (begun : Request → Transaction Db Lock Query Err α) (s : State Db Lock Query Err Request α) : Prop :=
  ∀ session ∈ s.sessions, Serial view (begun session.request) →
    Protected view (fun _ _ => True) session.program (held session.past) ∧
    ∀ later, Leads view (held session.past) s.db later → ∀ commit,
      Reading.on session.program later = .ok commit → Reading.on (begun session.request) later = .ok commit

variable [DecidableEq Lock] {begun : Request → Transaction Db Lock Query Err α}

omit [DecidableEq Lock] in
/-- Sessions that stay, over tables that still show what they have locked. -/
theorem Repeats.kept {s t : State Db Lock Query Err Request α} (repeats : Repeats view begun s)
    (fewer : ∀ session ∈ t.sessions, session ∈ s.sessions ∧ Leads view (held session.past) s.db t.db) :
    Repeats view begun t := by
  intro session member serial
  obtain ⟨old, leads⟩ := fewer session member
  obtain ⟨rest, again⟩ := repeats session old serial
  exact ⟨rest, fun later further => again later (leads.trans further)⟩

omit [DecidableEq Lock] in
theorem Repeats.replaced {s : State Db Lock Query Err Request α} {session : Session Db Lock Query Err Request α}
    {exchange : Exchange (@Statement.Answer Db Lock Query)} {program : Transaction Db Lock Query Err α}
    (repeats : Repeats view begun s)
    (moved : Serial view (begun session.request) →
      Protected view (fun _ _ => True) program (held (session.past ++ [exchange])) ∧
      ∀ later, Leads view (held (session.past ++ [exchange])) s.db later → ∀ commit,
        Reading.on program later = .ok commit → Reading.on (begun session.request) later = .ok commit) :
    Repeats view begun { s with sessions := replace (answered session exchange program) s.sessions } := by
  intro other present
  rcases mem_replace present with rfl | ⟨old, -⟩
  · exact moved
  · exact repeats other old

/-- Every step keeps the decisions, as long as everybody leaves alone what the
    sessions have locked. -/
theorem repeats_next {post : Request → Past Db Lock Query → Except Err (Commit Db Err α) → Prop}
    (respects : ∀ request past commit, post request past (.ok commit) → Respects view past commit)
    {s t : State Db Lock Query Err Request α} {action : Action Db Request} (sound : Sound post s)
    (repeats : Repeats view begun s)
    (outside : ∀ db, action = .outside db → ∀ session ∈ s.sessions, Leads view (held session.past) s.db db)
    (taken : next begun s action = some t) : Repeats view begun t := by
  cases steps_next taken with
  | start request same =>
    rw [same]
    intro session member serial
    rcases List.mem_append.mp member with old | new
    · exact repeats session old serial
    · rw [List.mem_singleton.mp new] at serial ⊢
      exact ⟨serial, fun later _ commit done => done⟩
  | lock session member l resume asks free same =>
    rw [same]
    refine repeats.replaced fun serial => ?_
    obtain ⟨rest, again⟩ := repeats session member serial
    rw [asks] at rest again
    rw [held_lock]
    refine ⟨rest, fun later leads commit done => again later (leads.fewer ?_) commit done⟩
    exact List.subset_append_left _ _
  | select session member query resume asks same =>
    rw [same]
    refine repeats.replaced fun serial => ?_
    obtain ⟨rest, again⟩ := repeats session member serial
    rw [asks] at rest again
    rw [held_select]
    obtain ⟨goes, stays⟩ := rest s.db
    refine ⟨goes, fun later leads commit done => again later leads commit ?_⟩
    -- The statement is read again at the later tables.
    show Reading.on (resume later) later = .ok commit
    rcases stays with ⟨error, raised⟩ | stays
    · rw [raised] at done
      cases done
    · rw [stays later leads]
      exact done
  | commit session member commit ends after written same =>
    have follows := sound.follows session member
    rw [ends] at follows
    rw [same]
    refine repeats.kept fun other present => ?_
    obtain ⟨old, apart⟩ := mem_without present
    refine ⟨old, fun l theirs value seen => ?_⟩
    refine respects session.request session.past commit follows s.db after written l (fun ours => apart ?_) value seen
    exact sound.exclusive other old session member l theirs ours
  | leave id same =>
    rw [same]
    exact repeats.kept fun other present => ⟨(mem_without present).1, .refl _ _⟩
  | outside db same =>
    rw [same]
    exact repeats.kept fun other present => ⟨present, outside db rfl other present⟩

omit [DecidableEq Lock] in
/-- A session of a protected transaction ends with what the transaction does in
    one step. -/
theorem serializable {s : State Db Lock Query Err Request α} {session : Session Db Lock Query Err Request α}
    {commit : Commit Db Err α} (repeats : Repeats view begun s) (member : session ∈ s.sessions)
    (serial : Serial view (begun session.request)) (ends : session.program = .done commit) :
    atomically (begun session.request) s.db = (commit.write s.db).map fun after => (commit.answer, after) := by
  obtain ⟨-, again⟩ := repeats session member serial
  have decided : Reading.on (begun session.request) s.db = .ok commit := by
    refine again s.db (.refl _ _) commit ?_
    rw [ends]
    rfl
  rw [atomically, decided]
  cases written : commit.write s.db with
  | error error => simp [written, bind, Except.bind, Except.map]
  | ok after => simp [written, bind, Except.bind, Except.map, pure, Except.pure]

/-- What a session has read under a lock is so still, as long as everybody leaves
    alone what the sessions have locked. -/
theorem current_next_held {post : Request → Past Db Lock Query → Except Err (Commit Db Err α) → Prop}
    (respects : ∀ request past commit, post request past (.ok commit) → Respects view past commit)
    {s t : State Db Lock Query Err Request α} {action : Action Db Request} (sound : Sound post s) (current : Current view s)
    (outside : ∀ db, action = .outside db → ∀ session ∈ s.sessions, Leads view (held session.past) s.db db)
    (taken : next begun s action = some t) : Current view t := by
  by_cases other : ∃ db, action = .outside db
  · obtain ⟨db, rfl⟩ := other
    cases taken
    intro session present before l after split query read said value seen
    have now := current session present before l after split query read said value seen
    exact outside db rfl session present l (held_split split) value now
  · exact current_next respects sound current (fun db same => absurd ⟨db, same⟩ other) taken

/-- What all sessions are asked. -/
def Asked (wanted : Request → Prop) (s : State Db Lock Query Err Request α) : Prop := ∀ session ∈ s.sessions, wanted session.request

theorem asked_next {wanted : Request → Prop} {s t : State Db Lock Query Err Request α} {action : Action Db Request}
    (asked : Asked wanted s) (begins : ∀ request, action = .start request → wanted request)
    (taken : next begun s action = some t) : Asked wanted t := by
  cases steps_next taken with
  | start request same =>
    subst same
    intro session member
    rcases List.mem_append.mp member with old | new
    · exact asked session old
    · rw [List.mem_singleton.mp new]; exact begins request rfl
  | lock session member l resume asks free same =>
    subst same
    intro other present
    rcases mem_replace present with rfl | ⟨old, -⟩
    · exact asked session member
    · exact asked other old
  | select session member query resume asks same =>
    subst same
    intro other present
    rcases mem_replace present with rfl | ⟨old, -⟩
    · exact asked session member
    · exact asked other old
  | commit session member commit ends after written same =>
    subst same
    exact fun other present => asked other (mem_without present).1
  | leave id same =>
    subst same
    exact fun other present => asked other (mem_without present).1
  | outside db same =>
    subst same
    exact asked

/-- What all sessions have read. -/
def Viewed (good : Db → Prop) (s : State Db Lock Query Err Request α) : Prop :=
  ∀ session ∈ s.sessions, ∀ query read, (⟨.select query, read⟩ : Exchange (@Statement.Answer Db Lock Query)) ∈ session.past → good read

theorem viewed_next {good : Db → Prop} {s t : State Db Lock Query Err Request α} {action : Action Db Request}
    (viewed : Viewed good s) (now : good s.db) (taken : next begun s action = some t) : Viewed good t := by
  cases steps_next taken with
  | start request same =>
    subst same
    intro session member query read said
    rcases List.mem_append.mp member with old | new
    · exact viewed session old query read said
    · rw [List.mem_singleton.mp new] at said; cases said
  | lock session member l resume asks free same =>
    subst same
    intro other present query read said
    rcases mem_replace present with rfl | ⟨old, -⟩
    · rcases List.mem_append.mp said with before | last
      · exact viewed session member query read before
      · cases List.mem_singleton.mp last
    · exact viewed other old query read said
  | select session member asked resume asks same =>
    subst same
    intro other present query read said
    rcases mem_replace present with rfl | ⟨old, -⟩
    · rcases List.mem_append.mp said with before | last
      · exact viewed session member query read before
      · cases List.mem_singleton.mp last; exact now
    · exact viewed other old query read said
  | commit session member commit ends after written same =>
    subst same
    exact fun other present => viewed other (mem_without present).1
  | leave id same =>
    subst same
    exact fun other present => viewed other (mem_without present).1
  | outside db same =>
    subst same
    exact viewed

/-! ### A serial history -/

/-- What happens to the tables at one moment: a transaction takes one step, or
    somebody else commits. -/
inductive Event (Db Request α : Type) : Type
  | accepted (request : Request) (answer : α)
  | outside (db : Db)

/-- Events that happen to the tables one after the other, each transaction in one
    step and with the answer it gave. -/
inductive History (begun : Request → Transaction Db Lock Query Err α) : Db → List (Event Db Request α) → Db → Prop
  | done (db : Db) : History begun db [] db
  | accepted {db after last : Db} {events : List (Event Db Request α)} (request : Request) (answer : α)
      (taken : atomically (begun request) db = .ok (answer, after)) (rest : History begun after events last) :
      History begun db (.accepted request answer :: events) last
  | outside {db last : Db} {events : List (Event Db Request α)} (other : Db) (rest : History begun other events last) :
      History begun db (.outside other :: events) last

/-- What a step makes happen to the tables: a commit, and nothing before it. -/
def event (s : State Db Lock Query Err Request α) : Action Db Request → Option (Event Db Request α)
  | .commit id =>
    (find Session.id id s.sessions).bind fun session =>
      match session.program with
      | .done commit =>
        match commit.write s.db with
        | .ok _ => some (.accepted session.request commit.answer)
        | .error _ => none
      | _ => none
  | .outside db => some (.outside db)
  | .start _ | .step _ | .rollback _ => none

/-- What a run makes happen, in the order of the commits. -/
def trace (begun : Request → Transaction Db Lock Query Err α) (s : State Db Lock Query Err Request α) :
    List (Action Db Request) → List (Event Db Request α)
  | [] => []
  | action :: rest => (event s action).toList ++ ((next begun s action).map fun t => trace begun t rest).getD []

/-- What one step does to the tables, by what it makes happen. -/
inductive Happens (s t : State Db Lock Query Err Request α) (action : Action Db Request) :
    Option (Event Db Request α) → Prop
  | nothing (same : t.db = s.db) : Happens s t action none
  | accepted (session : Session Db Lock Query Err Request α) (member : session ∈ s.sessions) (commit : Commit Db Err α)
      (ends : session.program = .done commit) (written : commit.write s.db = .ok t.db) :
      Happens s t action (some (.accepted session.request commit.answer))
  | outside (same : action = .outside t.db) : Happens s t action (some (.outside t.db))

theorem happens_next {s t : State Db Lock Query Err Request α} {action : Action Db Request}
    (taken : next begun s action = some t) : Happens s t action (event s action) := by
  cases action with
  | start request => cases taken; exact .nothing rfl
  | step id =>
    refine .nothing ?_
    cases steps_next taken with
    | lock session member l resume asks free same => rw [same]
    | select session member query resume asks same => rw [same]
    | leave id same => rw [same]
  | commit id =>
    obtain ⟨session, found, stepped⟩ := Option.bind_eq_some_iff.mp taken
    split at stepped
    next commit ends =>
      split at stepped
      next after written =>
        cases stepped
        have happens : event s (.commit id) = some (.accepted session.request commit.answer) := by
          simp [event, found, ends, written]
        rw [happens]
        exact .accepted session (find_mem found) commit ends written
      next error failed =>
        cases stepped
        have happens : event s (.commit id) = none := by simp [event, found, ends, failed]
        rw [happens]
        exact .nothing rfl
    next => cases stepped
  | rollback id => cases taken; exact .nothing rfl
  | outside db => cases taken; exact .outside rfl

/-- What every step puts before what happens later, a run puts together. -/
theorem trace_run {Invariant : State Db Lock Query Err Request α → Prop}
    {allowed : State Db Lock Query Err Request α → Action Db Request → Prop}
    (Related : Db → List (Event Db Request α) → Db → Prop) (done : ∀ db, Related db [] db)
    (kept : ∀ s action t, Invariant s → allowed s action → next begun s action = some t → Invariant t)
    (before : ∀ s action t, Invariant s → allowed s action → next begun s action = some t →
      ∀ events last, Related t.db events last → Related s.db ((event s action).toList ++ events) last)
    {s t : State Db Lock Query Err Request α} {inputs : List (Action Db Request)} (start : Invariant s)
    (meets : Meets (next begun) allowed s inputs) (executed : execute (next begun) s inputs = some t) :
    Related s.db (trace begun s inputs) t.db := by
  induction inputs generalizing s with
  | nil => cases executed; exact done _
  | cons action rest ih =>
    obtain ⟨middle, taken, remaining⟩ := Option.bind_eq_some_iff.mp executed
    have later := ih (kept s action middle start meets.1 taken) (meets.2 middle taken) remaining
    rw [trace, taken]
    exact before s action middle start meets.1 taken _ _ later

/-- Whoever is answered in a run was asked for. -/
theorem trace_asked {wanted : Request → Prop} {allowed : State Db Lock Query Err Request α → Action Db Request → Prop}
    {s t : State Db Lock Query Err Request α} {inputs : List (Action Db Request)}
    (begins : ∀ s request, allowed s (.start request) → wanted request) (asked : Asked wanted s)
    (meets : Meets (next begun) allowed s inputs) (executed : execute (next begun) s inputs = some t) :
    ∀ request answer, .accepted request answer ∈ trace begun s inputs → wanted request := by
  refine trace_run (fun _ events _ => ∀ request answer, .accepted request answer ∈ events → wanted request) (fun _ _ _ listed => by cases listed)
    (fun s action t asked allowed taken => ?_) (fun s action t asked allowed taken events last later => ?_) asked meets executed
  · refine asked_next asked (fun request begun => ?_) taken
    subst begun
    exact begins s request allowed
  · intro request answer listed
    rcases List.mem_append.mp listed with now | after
    · have happens := happens_next taken
      generalize event s action = happening at happens now
      cases happens with
      | nothing same => cases now
      | accepted session member commit ends written =>
        cases List.mem_singleton.mp now
        exact asked session member
      | outside same => cases List.mem_singleton.mp now
    · exact later request answer after

/-- The steps of a database whose transactions are protected, and in which nobody
    else changes what a session has locked. -/
def Fair (view : Lock → Db → Option Value) (begun : Request → Transaction Db Lock Query Err α)
    (s : State Db Lock Query Err Request α) : Action Db Request → Prop
  | .start request => Serial view (begun request)
  | .outside db => ∀ session ∈ s.sessions, Leads view (held session.past) s.db db
  | .step _ | .commit _ | .rollback _ => True

/-- Protected transactions on their way. -/
structure Serialized (view : Lock → Db → Option Value) (begun : Request → Transaction Db Lock Query Err α)
    (post : Request → Past Db Lock Query → Except Err (Commit Db Err α) → Prop)
    (s : State Db Lock Query Err Request α) : Prop where
  sound : Sound post s
  repeats : Repeats view begun s
  serial : Asked (fun request => Serial view (begun request)) s

variable {post : Request → Past Db Lock Query → Except Err (Commit Db Err α) → Prop}
  {s t : State Db Lock Query Err Request α} {action : Action Db Request}

theorem serialized_next (begins : ∀ request, (begun request).Satisfies (fun _ _ => True) (post request) [])
    (respects : ∀ request past commit, post request past (.ok commit) → Respects view past commit)
    (serialized : Serialized view begun post s) (fair : Fair view begun s action) (taken : next begun s action = some t) :
    Serialized view begun post t := by
  have sound := sound_next begins serialized.sound taken
  have repeats : Repeats view begun t := by
    refine repeats_next respects serialized.sound serialized.repeats (fun db same => ?_) taken
    subst same
    exact fair
  refine ⟨sound, repeats, asked_next serialized.serial (fun request begins => ?_) taken⟩
  subst begins
  exact fair

/-- What one step of protected transactions makes happen to the tables. -/
theorem history_next (serialized : Serialized view begun post s) (taken : next begun s action = some t)
    {events : List (Event Db Request α)} {last : Db} (rest : History begun t.db events last) :
    History begun s.db ((event s action).toList ++ events) last := by
  have happens := happens_next taken
  generalize event s action = happening at happens ⊢
  cases happens with
  | nothing same => exact same ▸ rest
  | accepted session member commit ends written =>
    have once := serializable serialized.repeats member (serialized.serial session member) ends
    rw [written] at once
    exact .accepted session.request commit.answer once rest
  | outside same => exact .outside t.db rest

/-- The commits of a run of protected transactions, in their order, are a history
    in which each takes one step. -/
theorem history_run (begins : ∀ request, (begun request).Satisfies (fun _ _ => True) (post request) [])
    (respects : ∀ request past commit, post request past (.ok commit) → Respects view past commit)
    {inputs : List (Action Db Request)} (serialized : Serialized view begun post s)
    (fair : Meets (next begun) (Fair view begun) s inputs) (executed : execute (next begun) s inputs = some t) :
    History begun s.db (trace begun s inputs) t.db :=
  trace_run (History begun) .done
    (fun _ _ _ serialized fair taken => serialized_next begins respects serialized fair taken)
    (fun _ _ _ serialized _ taken _ _ rest => history_next serialized taken rest) serialized fair executed

end

end ControlPlane.Serializability
