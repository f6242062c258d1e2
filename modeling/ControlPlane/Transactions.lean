import ControlPlane.Programs
import ControlPlane.Runs
import ControlPlane.Tables

/-!
Transactions under READ COMMITTED. A transaction is a program that takes locks
and reads what is committed at that moment, and ends with a write that is made
at its commit. Any number of them run as sessions of one database, in any
interleaving; a lock is held until its session ends. Run alone, a session does
what the transaction does in one step (`alone`). What a session has read under
a lock stays true while every write leaves alone what it holds no lock on
(`current_next`).
-/
namespace ControlPlane.Transactions
open ControlPlane.Programs ControlPlane.Programs.Program ControlPlane.Tables ControlPlane.Runs

/-- A statement of a transaction: it takes a lock, or reads what is committed. -/
inductive Statement (Lock Query : Type) : Type
  | lock (lock : Lock)
  | select (query : Query)

abbrev Statement.Answer (Db : Type) {Lock Query : Type} : Statement Lock Query → Type
  | .lock _ => Unit
  | .select _ => Db

/-- What a transaction ends with: its answer, and its writes. -/
structure Commit (Db Err α : Type) : Type where
  answer : α
  write : Db → Except Err Db

/-- A part of a transaction. -/
abbrev Reading (Db Lock Query Err α : Type) : Type :=
  Program (Statement Lock Query) (Statement.Answer Db) Err α

abbrev Transaction (Db Lock Query Err α : Type) : Type := Reading Db Lock Query Err (Commit Db Err α)

section
variable {Db Lock Query Err α β : Type}

def lock (l : Lock) : Reading Db Lock Query Err Unit := call (Statement.lock l)

/-- Reads the committed tables. -/
def select (query : Query) : Reading Db Lock Query Err Db := call (Statement.select query)

/-! ### One step -/

/-- The answers of tables that nobody else changes. -/
def fixed (db : Db) : (statement : Statement Lock Query) → statement.Answer Db
  | .lock _ => ()
  | .select _ => db

/-- What a part of a transaction computes when nothing happens meanwhile. -/
abbrev Reading.on (p : Reading Db Lock Query Err α) (db : Db) : Except Err α := p.answered (fixed db)

/-- A transaction as one step. -/
def atomically (transaction : Transaction Db Lock Query Err α) (db : Db) : Except Err (α × Db) := do
  let commit ← Reading.on transaction db
  let after ← commit.write db
  return (commit.answer, after)

theorem atomically_ok {transaction : Transaction Db Lock Query Err α} {db after : Db} {answer : α}
    (ended : atomically transaction db = .ok (answer, after)) :
    ∃ commit, Reading.on transaction db = .ok commit ∧ commit.answer = answer ∧ commit.write db = .ok after := by
  obtain ⟨commit, done, rest⟩ := bind_ok ended
  obtain ⟨_, written, same⟩ := bind_ok rest
  cases same
  exact ⟨commit, done, rfl, written⟩

/-- A transaction in one step does its parts one after the other. -/
theorem atomically_bind (p : Reading Db Lock Query Err α) (f : α → Transaction Db Lock Query Err β) (db : Db) :
    atomically (p >>= f : Reading Db Lock Query Err (Commit Db Err β)) db = Reading.on p db >>= fun a => atomically (f a) db := by
  simp only [atomically, Reading.on, answered_bind]
  cases p.answered (fixed db) <;> rfl

theorem atomically_bind_ok {p : Reading Db Lock Query Err α} {f : α → Transaction Db Lock Query Err β} {db after : Db}
    {answer : β} (ended : atomically (p >>= f : Reading Db Lock Query Err (Commit Db Err β)) db = .ok (answer, after)) :
    ∃ a, Reading.on p db = .ok a ∧ atomically (f a) db = .ok (answer, after) :=
  bind_ok (atomically_bind p f db ▸ ended)

/-! ### Sessions -/

/-- A transaction on its way: the request it serves, what is left of it and what
    it was answered. -/
structure Session (Db Lock Query Err Request α : Type) : Type where
  id : Nat
  request : Request
  program : Transaction Db Lock Query Err α
  past : List (Exchange (@Statement.Answer Db Lock Query))

/-- The locks taken so far. -/
def held (past : List (Exchange (@Statement.Answer Db Lock Query))) : List Lock :=
  past.filterMap fun
    | ⟨.lock l, _⟩ => some l
    | ⟨.select _, _⟩ => none

structure State (Db Lock Query Err Request α : Type) : Type where
  db : Db
  sessions : List (Session Db Lock Query Err Request α)
  opened : Nat

inductive Action (Db Request : Type) : Type
  | start (request : Request)
  | step (id : Nat)
  | commit (id : Nat)
  | rollback (id : Nat)
  /-- Somebody else commits. -/
  | outside (db : Db)

variable [DecidableEq Lock] {Request : Type} (begun : Request → Transaction Db Lock Query Err α)

def replace (session : Session Db Lock Query Err Request α) (sessions : List (Session Db Lock Query Err Request α)) :
    List (Session Db Lock Query Err Request α) :=
  update (fun other : Session Db Lock Query Err Request α => other.id = session.id) (fun _ => session) sessions

def without (id : Nat) (sessions : List (Session Db Lock Query Err Request α)) : List (Session Db Lock Query Err Request α) :=
  sessions.filter fun session => session.id ≠ id

/-- Whether another session holds a lock. -/
def blocked (sessions : List (Session Db Lock Query Err Request α)) (id : Nat) (l : Lock) : Bool :=
  sessions.any fun other => other.id ≠ id && (held other.past).contains l

/-- A session after a statement. -/
def answered (session : Session Db Lock Query Err Request α)
    (exchange : Exchange (@Statement.Answer Db Lock Query))
    (program : Transaction Db Lock Query Err α) : Session Db Lock Query Err Request α :=
  { session with program := program, past := session.past ++ [exchange] }

def next (s : State Db Lock Query Err Request α) : Action Db Request → Option (State Db Lock Query Err Request α)
  | .start request =>
    some { s with sessions := s.sessions ++ [⟨s.opened, request, begun request, []⟩], opened := s.opened + 1 }
  | .step id =>
    (find Session.id id s.sessions).bind fun session =>
      match session.program with
      | .ask (.lock l) resume =>
        if blocked s.sessions session.id l then none else
          some { s with sessions := replace (answered session ⟨.lock l, ()⟩ (resume ())) s.sessions }
      | .ask (.select query) resume =>
        some { s with sessions := replace (answered session ⟨.select query, s.db⟩ (resume s.db)) s.sessions }
      | _ => none
  | .commit id =>
    (find Session.id id s.sessions).bind fun session =>
      match session.program with
      | .done commit =>
        match commit.write s.db with
        | .ok after => some { s with db := after, sessions := without session.id s.sessions }
        | .error _ => some { s with sessions := without session.id s.sessions }
      | _ => none
  | .rollback id => some { s with sessions := without id s.sessions }
  | .outside db => some { s with db := db }

/-- What a step of the database does, by action. -/
inductive Steps (s t : State Db Lock Query Err Request α) : Action Db Request → Prop
  | start (request : Request)
      (same : t = { s with sessions := s.sessions ++ [⟨s.opened, request, begun request, []⟩], opened := s.opened + 1 }) :
      Steps s t (.start request)
  | lock (session : Session Db Lock Query Err Request α) (member : session ∈ s.sessions) (l : Lock)
      (resume : Unit → Transaction Db Lock Query Err α) (asks : session.program = .ask (.lock l) resume)
      (free : ∀ other ∈ s.sessions, l ∈ held other.past → other.id = session.id)
      (same : t = { s with sessions := replace (answered session ⟨.lock l, ()⟩ (resume ())) s.sessions }) :
      Steps s t (.step session.id)
  | select (session : Session Db Lock Query Err Request α) (member : session ∈ s.sessions) (query : Query)
      (resume : Db → Transaction Db Lock Query Err α) (asks : session.program = .ask (.select query) resume)
      (same : t = { s with sessions := replace (answered session ⟨.select query, s.db⟩ (resume s.db)) s.sessions }) :
      Steps s t (.step session.id)
  | commit (session : Session Db Lock Query Err Request α) (member : session ∈ s.sessions) (commit : Commit Db Err α)
      (ends : session.program = .done commit) (after : Db) (written : commit.write s.db = .ok after)
      (same : t = { s with db := after, sessions := without session.id s.sessions }) :
      Steps s t (.commit session.id)
  | leave (id : Nat) (same : t = { s with sessions := without id s.sessions }) (action : Action Db Request)
      (ends : action = .commit id ∨ action = .rollback id) : Steps s t action
  | outside (db : Db) (same : t = { s with db := db }) : Steps s t (.outside db)

variable {begun}

theorem steps_next {s t : State Db Lock Query Err Request α} {action : Action Db Request}
    (taken : next begun s action = some t) : Steps begun s t action := by
  cases action with
  | start request => cases taken; exact .start request rfl
  | step id =>
    obtain ⟨session, found, stepped⟩ := Option.bind_eq_some_iff.mp taken
    obtain rfl := find_key found
    split at stepped
    next l resume asks =>
      split at stepped
      next => cases stepped
      next free =>
        cases stepped
        refine .lock session (find_mem found) l resume asks (fun other member holds => ?_) rfl
        simp only [blocked, List.any_eq_true, not_exists, not_and] at free
        by_contra different
        exact free other member (by simpa [different] using holds)
    next query resume asks => cases stepped; exact .select session (find_mem found) query resume asks rfl
    next => cases stepped
  | commit id =>
    obtain ⟨session, found, stepped⟩ := Option.bind_eq_some_iff.mp taken
    obtain rfl := find_key found
    split at stepped
    next commit ends =>
      split at stepped
      next after written => cases stepped; exact .commit session (find_mem found) commit ends after written rfl
      next => cases stepped; exact .leave session.id rfl _ (.inl rfl)
    next => cases stepped
  | rollback id => cases taken; exact .leave id rfl _ (.inr rfl)
  | outside db => cases taken; exact .outside db rfl

omit [DecidableEq Lock] in
theorem mem_replace {session out : Session Db Lock Query Err Request α} {sessions : List (Session Db Lock Query Err Request α)}
    (member : out ∈ replace session sessions) : out = session ∨ out ∈ sessions ∧ out.id ≠ session.id := by
  obtain ⟨old, present, ⟨-, rfl⟩ | ⟨other, rfl⟩⟩ := mem_update.mp member
  · exact .inl rfl
  · exact .inr ⟨present, other⟩

omit [DecidableEq Lock] in
theorem mem_without {id : Nat} {out : Session Db Lock Query Err Request α} {sessions : List (Session Db Lock Query Err Request α)}
    (member : out ∈ without id sessions) : out ∈ sessions ∧ out.id ≠ id := by
  simpa [without] using member

/-! ### What a part of a transaction ends with -/

/-- The conversation of a session. -/
abbrev Past (Db Lock Query : Type) : Type := List (Exchange (@Statement.Answer Db Lock Query))

/-- What holds of the conversation and the value when a part ends well. -/
def Ending (good : Past Db Lock Query → α → Prop) (past : Past Db Lock Query) : Except Err α → Prop
  | .ok a => good past a
  | .error _ => True

/-- Whatever it is answered after a conversation, a part that ends well ends so. -/
abbrev Reading.Ends (p : Reading Db Lock Query Err α) (past : Past Db Lock Query)
    (good : Past Db Lock Query → α → Prop) : Prop :=
  p.Satisfies (fun _ _ => True) (Ending good) past

section
variable {past : Past Db Lock Query} {good : Past Db Lock Query → β → Prop} {middle : Past Db Lock Query → α → Prop}

omit [DecidableEq Lock] in
theorem ends_lock {l : Lock} {f : Unit → Reading Db Lock Query Err β}
    (rest : (f ()).Ends (past ++ [⟨.lock l, ()⟩]) good) : Reading.Ends (lock l >>= f) past good :=
  ⟨trivial, fun _ => rest⟩

omit [DecidableEq Lock] in
theorem ends_select {query : Query} {f : Db → Reading Db Lock Query Err β}
    (rest : ∀ db, (f db).Ends (past ++ [⟨.select query, db⟩]) good) : Reading.Ends (select query >>= f) past good :=
  ⟨trivial, rest⟩

omit [DecidableEq Lock] in
theorem ends_bind {p : Reading Db Lock Query Err α} {f : α → Reading Db Lock Query Err β}
    (first : p.Ends past middle) (rest : ∀ later a, middle later a → (f a).Ends later good) :
    Reading.Ends (p >>= f) past good :=
  satisfies_bind first rest fun _ _ _ => trivial

end

/-! ### What every run keeps -/

omit [DecidableEq Lock] in
@[simp] theorem held_lock (past : Past Db Lock Query) (l : Lock) : held (past ++ [⟨.lock l, ()⟩]) = held past ++ [l] := by
  simp [held]

omit [DecidableEq Lock] in
@[simp] theorem held_select (past : Past Db Lock Query) (query : Query) (db : Db) :
    held (past ++ [⟨.select query, db⟩]) = held past := by
  simp [held]

/-- Sessions that follow their transactions and share no lock. -/
structure Sound (post : Request → Past Db Lock Query → Except Err (Commit Db Err α) → Prop) (s : State Db Lock Query Err Request α) :
    Prop where
  numbered : ∀ session ∈ s.sessions, session.id < s.opened
  keyed : ∀ a ∈ s.sessions, ∀ b ∈ s.sessions, a.id = b.id → a = b
  follows : ∀ session ∈ s.sessions, session.program.Satisfies (fun _ _ => True) (post session.request) session.past
  exclusive : ∀ a ∈ s.sessions, ∀ b ∈ s.sessions, ∀ l ∈ held a.past, l ∈ held b.past → a.id = b.id

omit [DecidableEq Lock] in
theorem Sound.fewer {post : Request → Past Db Lock Query → Except Err (Commit Db Err α) → Prop} {s t : State Db Lock Query Err Request α}
    (sound : Sound post s) (subset : ∀ session ∈ t.sessions, session ∈ s.sessions) (same : t.opened = s.opened) :
    Sound post t :=
  ⟨fun a member => same ▸ sound.numbered a (subset a member),
    fun a first b second => sound.keyed a (subset a first) b (subset b second),
    fun a member => sound.follows a (subset a member),
    fun a first b second => sound.exclusive a (subset a first) b (subset b second)⟩

omit [DecidableEq Lock] in
/-- A session that goes on, with locks that no other session holds. -/
theorem Sound.replaced {post : Request → Past Db Lock Query → Except Err (Commit Db Err α) → Prop} {s : State Db Lock Query Err Request α}
    {session moved : Session Db Lock Query Err Request α} (sound : Sound post s) (member : session ∈ s.sessions)
    (same : moved.id = session.id) (follows : moved.program.Satisfies (fun _ _ => True) (post moved.request) moved.past)
    (free : ∀ other ∈ s.sessions, ∀ l ∈ held moved.past, l ∈ held other.past → other.id = session.id) :
    Sound post { s with sessions := replace moved s.sessions } := by
  refine ⟨fun a first => ?_, fun a first b second equal => ?_, fun a first => ?_, fun a first b second l left right => ?_⟩
  · rcases mem_replace first with rfl | ⟨old, -⟩
    · exact same ▸ sound.numbered session member
    · exact sound.numbered a old
  · rcases mem_replace first with rfl | ⟨old, away⟩ <;> rcases mem_replace second with rfl | ⟨also, apart⟩
    · rfl
    · exact absurd equal.symm apart
    · exact absurd equal away
    · exact sound.keyed a old b also equal
  · rcases mem_replace first with rfl | ⟨old, -⟩
    · exact follows
    · exact sound.follows a old
  · rcases mem_replace first with rfl | ⟨old, -⟩ <;> rcases mem_replace second with rfl | ⟨also, -⟩
    · rfl
    · exact same.trans (free b also l left right).symm
    · exact (free a old l right left).trans same.symm
    · exact sound.exclusive a old b also l left right

theorem sound_next {post : Request → Past Db Lock Query → Except Err (Commit Db Err α) → Prop}
    (begins : ∀ request, (begun request).Satisfies (fun _ _ => True) (post request) []) {s t : State Db Lock Query Err Request α}
    {action : Action Db Request} (sound : Sound post s) (taken : next begun s action = some t) : Sound post t := by
  cases steps_next taken with
  | start request same =>
    have apart : ∀ old ∈ s.sessions, old.id ≠ s.opened := fun old present => Nat.ne_of_lt (sound.numbered old present)
    rw [same]
    refine ⟨fun a first => ?_, fun a first b second equal => ?_, fun a first => ?_, fun a first b second l left right => ?_⟩
    all_goals rcases List.mem_append.mp first with old | new
    · exact Nat.lt_succ_of_lt (sound.numbered a old)
    · rw [List.mem_singleton.mp new]; exact Nat.lt_succ_self _
    · rcases List.mem_append.mp second with also | fresh
      · exact sound.keyed a old b also equal
      · rw [List.mem_singleton.mp fresh] at equal; exact absurd equal (apart a old)
    · rcases List.mem_append.mp second with also | fresh
      · rw [List.mem_singleton.mp new] at equal; exact absurd equal.symm (apart b also)
      · rw [List.mem_singleton.mp new, List.mem_singleton.mp fresh]
    · exact sound.follows a old
    · rw [List.mem_singleton.mp new]; exact begins request
    · rcases List.mem_append.mp second with also | fresh
      · exact sound.exclusive a old b also l left right
      · rw [List.mem_singleton.mp fresh] at right; cases right
    · rw [List.mem_singleton.mp new] at left; cases left
  | lock session member l resume asks free same =>
    have follows := sound.follows session member
    rw [asks] at follows
    rw [same]
    refine sound.replaced member rfl (follows.2 ()) fun other present k ours theirs => ?_
    rcases List.mem_append.mp (held_lock session.past l ▸ ours) with before | now
    · exact sound.exclusive other present session member k theirs before
    · rw [List.mem_singleton.mp now] at theirs; exact free other present theirs
  | select session member query resume asks same =>
    have follows := sound.follows session member
    rw [asks] at follows
    rw [same]
    refine sound.replaced member rfl (follows.2 s.db) fun other present k ours theirs => ?_
    exact sound.exclusive other present session member k theirs (held_select session.past query s.db ▸ ours)
  | commit session member commit ends after written same =>
    rw [same]; exact sound.fewer (fun a first => (mem_without first).1) rfl
  | leave id same => rw [same]; exact sound.fewer (fun a first => (mem_without first).1) rfl
  | outside db same => rw [same]; exact sound.fewer (fun _ first => first) rfl

/-! ### What is read under a lock -/

variable {Value : Type} (view : Lock → Db → Option Value)

/-- A write that leaves what it holds no lock on as it is. -/
def Respects (past : Past Db Lock Query) (commit : Commit Db Err α) : Prop :=
  ∀ db after, commit.write db = .ok after →
    ∀ l, l ∉ held past → ∀ value, view l db = some value → view l after = some value

/-- What a session has read under a lock is so still. -/
def Current (s : State Db Lock Query Err Request α) : Prop :=
  ∀ session ∈ s.sessions, ∀ before l after, session.past = before ++ ⟨.lock l, ()⟩ :: after →
    ∀ query db, ⟨.select query, db⟩ ∈ after → ∀ value, view l db = some value → view l s.db = some value

omit [DecidableEq Lock] in
theorem held_split {past before after : Past Db Lock Query} {l : Lock} (split : past = before ++ ⟨.lock l, ()⟩ :: after) :
    l ∈ held past := by
  rw [split]; simp [held]

variable {view}

omit [DecidableEq Lock] in
/-- A session that goes on by one exchange has read what it had read, and what
    it reads now. -/
theorem Current.replaced {s : State Db Lock Query Err Request α} {session : Session Db Lock Query Err Request α}
    {exchange : Exchange (@Statement.Answer Db Lock Query)} {program : Transaction Db Lock Query Err α}
    (current : Current view s) (member : session ∈ s.sessions)
    (now : ∀ query db, exchange = ⟨.select query, db⟩ → db = s.db) :
    Current view { s with sessions := replace (answered session exchange program) s.sessions } := by
  intro other present before l after split query db said value seen
  rcases mem_replace present with rfl | ⟨old, -⟩
  · rcases List.eq_nil_or_concat after with rfl | ⟨rest, last, rfl⟩
    · cases said
    · rw [List.concat_eq_append, ← List.cons_append, ← List.append_assoc] at split
      obtain ⟨whole, final⟩ := List.append_inj' split rfl
      rw [List.concat_eq_append] at said
      rcases List.mem_append.mp said with earlier | latest
      · exact current session member before l rest whole query db earlier value seen
      · obtain rfl := (List.cons.inj final).1
        exact now query db (List.mem_singleton.mp latest).symm ▸ seen
  · exact current other old before l after split query db said value seen

theorem current_next {post : Request → Past Db Lock Query → Except Err (Commit Db Err α) → Prop}
    (respects : ∀ request past commit, post request past (.ok commit) → Respects view past commit) {s t : State Db Lock Query Err Request α}
    {action : Action Db Request} (sound : Sound post s) (current : Current view s)
    (outside : ∀ db, action = .outside db → ∀ l value, view l s.db = some value → view l db = some value)
    (taken : next begun s action = some t) : Current view t := by
  cases steps_next taken with
  | start request same =>
    rw [same]
    intro other present before l after split query db said value seen
    rcases List.mem_append.mp present with old | new
    · exact current other old before l after split query db said value seen
    · rw [List.mem_singleton.mp new] at split
      simp at split
  | lock session member l resume asks free same =>
    rw [same]; exact current.replaced member fun _ _ impossible => nomatch impossible
  | select session member query resume asks same =>
    rw [same]
    refine current.replaced member fun _ db equal => ?_
    cases equal
    rfl
  | commit session member commit ends after written same =>
    have follows := sound.follows session member
    rw [ends] at follows
    rw [same]
    intro other present before l rest split query db said value seen
    obtain ⟨old, apart⟩ := mem_without present
    have unheld : l ∉ held session.past := fun ours =>
      apart (sound.exclusive other old session member l (held_split split) ours)
    exact respects session.request session.past commit follows s.db after written l unheld value
      (current other old before l rest split query db said value seen)
  | leave id same =>
    rw [same]
    exact fun other present => current other (mem_without present).1
  | outside db same =>
    rw [same]
    intro other present before l after split query seenDb said value seen
    exact outside db rfl l value (current other present before l after split query seenDb said value seen)

/-! ### A session on its own -/

/-- A session that nobody disturbs commits what its transaction does in one step. -/
theorem alone {permitted : State Db Lock Query Err Request α → Action Db Request → Prop} {db after : Db} {opened : Nat}
    (free : ∀ s action, (∀ other, action ≠ .outside other) → permitted s action) {request : Request} {answer : α}
    (ended : atomically (begun request) db = .ok (answer, after)) :
    Reaches (next begun) permitted ⟨db, [], opened⟩ ⟨after, [], opened + 1⟩ := by
  obtain ⟨commit, done, -, written⟩ := atomically_ok ended
  have goes : ∀ (program : Transaction Db Lock Query Err α) (past : Past Db Lock Query),
      Reading.on program db = .ok commit →
      Reaches (next begun) permitted ⟨db, [⟨opened, request, program, past⟩], opened + 1⟩ ⟨after, [], opened + 1⟩ := by
    intro program
    induction program with
    | done result =>
      rintro past ⟨⟩
      refine .single ⟨.commit opened, free _ _ (by rintro _ ⟨⟩), ?_⟩
      simp [next, find, written, without]
    | raise error => rintro past ⟨⟩
    | ask statement resume ih =>
      intro past rest
      refine .head ⟨.step opened, free _ _ (by rintro _ ⟨⟩), ?_⟩ (ih (fixed db statement) (past ++ [⟨statement, fixed db statement⟩]) rest)
      cases statement with
      | lock l => simp [next, find, blocked, replace, update, answered, fixed]
      | select query => simp [next, find, replace, update, answered, fixed]
  exact .head ⟨.start request, free _ _ (by rintro _ ⟨⟩), rfl⟩ (goes (begun request) [] done)

end

end ControlPlane.Transactions
