import Mathlib.Data.List.Basic

/-!
Programs that talk to something else. A program is finished, has raised an
error, or asks a question and goes on with whatever answer it gets, so that one
description can be run against every way of answering. `Program.run` answers
from an oracle that sees the whole conversation so far; `Program.answered`
answers every question from one fixed table. `Program.Satisfies` is the rule
book: a program satisfies a guard and a postcondition when every question it
asks is allowed by the conversation before it and every way it ends meets the
postcondition, whatever the answers were.
-/
namespace ControlPlane.Programs

/-- A program over questions `Call`, the answers each of them may get, errors
    and results. -/
inductive Program (Call : Type) (Answer : Call → Type) (Err : Type) (α : Type) : Type
  | done (result : α)
  | raise (error : Err)
  | ask (call : Call) (resume : Answer call → Program Call Answer Err α)

/-- A question together with the answer it got. -/
abbrev Exchange {Call : Type} (Answer : Call → Type) := Sigma Answer

/-- Something that answers every question, given the conversation before it. -/
abbrev Oracle {Call : Type} (Answer : Call → Type) := List (Exchange Answer) → (call : Call) → Answer call

namespace Program
variable {Call : Type} {Answer : Call → Type} {Err α β : Type}

protected def bind : Program Call Answer Err α → (α → Program Call Answer Err β) → Program Call Answer Err β
  | .done a, f => f a
  | .raise e, _ => .raise e
  | .ask c resume, f => .ask c fun a => (resume a).bind f

instance : Monad (Program Call Answer Err) where
  pure := .done
  bind := Program.bind

/-- Runs `recover` when the program raises an error. -/
protected def catching : Program Call Answer Err α → (Err → Program Call Answer Err α) → Program Call Answer Err α
  | .done a, _ => .done a
  | .raise e, recover => recover e
  | .ask c resume, recover => .ask c fun a => (resume a).catching recover

/-- Runs a program and hands on how it ended. -/
def attempt (p : Program Call Answer Err α) : Program Call Answer Err (Except Err α) :=
  match p with
  | .done a => .done (.ok a)
  | .raise e => .done (.error e)
  | .ask c resume => .ask c fun a => (resume a).attempt

/-- The program that ends at once. -/
def finished : Except Err α → Program Call Answer Err α
  | .ok a => .done a
  | .error e => .raise e

/-- Runs `cleanup` however the program ends, and then ends as it did. -/
protected def ensuring (p : Program Call Answer Err α) (cleanup : Program Call Answer Err Unit) :
    Program Call Answer Err α := do
  let ended ← p.attempt
  cleanup
  finished ended

/-- Asks one question and returns its answer. -/
def call (c : Call) : Program Call Answer Err (Answer c) := .ask c .done

@[simp] theorem pure_eq (a : α) : (pure a : Program Call Answer Err α) = .done a := rfl
@[simp] theorem done_bind (a : α) (f : α → Program Call Answer Err β) : (.done a : Program Call Answer Err α) >>= f = f a := rfl
@[simp] theorem raise_bind (e : Err) (f : α → Program Call Answer Err β) :
    (.raise e : Program Call Answer Err α) >>= f = .raise e := rfl
@[simp] theorem ask_bind (c : Call) (resume : Answer c → Program Call Answer Err α)
    (f : α → Program Call Answer Err β) :
    (.ask c resume : Program Call Answer Err α) >>= f = .ask c fun a => resume a >>= f := rfl
@[simp] theorem call_bind (c : Call) (f : Answer c → Program Call Answer Err β) :
    (call c : Program Call Answer Err (Answer c)) >>= f = .ask c f := rfl

instance : LawfulMonad (Program Call Answer Err) := by
  refine LawfulMonad.mk' _ (fun p => ?_) (fun _ _ => rfl) fun p f g => ?_
  · induction p with
    | done a => rfl
    | raise e => rfl
    | ask c resume ih => exact congrArg (Program.ask c) (funext ih)
  · induction p with
    | done a => rfl
    | raise e => rfl
    | ask c resume ih => exact congrArg (Program.ask c) (funext ih)

/-! ### Running a program -/

/-- The conversation a program ends with, and how it ends, when it starts after
    the conversation `past` and the oracle answers. -/
def run (oracle : Oracle Answer) :
    Program Call Answer Err α → List (Exchange Answer) → List (Exchange Answer) × Except Err α
  | .done a, past => (past, .ok a)
  | .raise e, past => (past, .error e)
  | .ask c resume, past => (resume (oracle past c)).run oracle (past ++ [⟨c, oracle past c⟩])

/-- How a program ends when every question has one fixed answer. -/
def answered (answers : (c : Call) → Answer c) : Program Call Answer Err α → Except Err α
  | .done a => .ok a
  | .raise e => .error e
  | .ask c resume => (resume (answers c)).answered answers

@[simp] theorem answered_done (answers : (c : Call) → Answer c) (a : α) :
    (.done a : Program Call Answer Err α).answered answers = .ok a := rfl
@[simp] theorem answered_raise (answers : (c : Call) → Answer c) (e : Err) :
    (.raise e : Program Call Answer Err α).answered answers = .error e := rfl
@[simp] theorem answered_ask (answers : (c : Call) → Answer c) (c : Call)
    (resume : Answer c → Program Call Answer Err α) :
    (.ask c resume : Program Call Answer Err α).answered answers = (resume (answers c)).answered answers := rfl

theorem answered_bind (answers : (c : Call) → Answer c) (p : Program Call Answer Err α)
    (f : α → Program Call Answer Err β) :
    (p >>= f).answered answers = p.answered answers >>= fun a => (f a).answered answers := by
  induction p with
  | done a => rfl
  | raise e => rfl
  | ask c resume ih => exact ih (answers c)

/-- A program that ends well after a bind ended well before it. -/
theorem answered_bind_ok {answers : (c : Call) → Answer c} {p : Program Call Answer Err α}
    {f : α → Program Call Answer Err β} {b : β} (ended : (p >>= f).answered answers = .ok b) :
    ∃ a, p.answered answers = .ok a ∧ (f a).answered answers = .ok b := by
  rw [answered_bind] at ended
  cases first : p.answered answers with
  | error e => rw [first] at ended; cases ended
  | ok a => rw [first] at ended; exact ⟨a, rfl, ended⟩

/-- The conversation before a run is the beginning of the conversation after it. -/
theorem run_extends (oracle : Oracle Answer) (p : Program Call Answer Err α) :
    ∀ past, past <+: (p.run oracle past).1 := by
  induction p with
  | done a => exact fun past => List.prefix_rfl
  | raise e => exact fun past => List.prefix_rfl
  | ask c resume ih =>
    intro past
    exact (List.prefix_append past [⟨c, oracle past c⟩]).trans (ih (oracle past c) _)

/-- What holds of every answer of the oracle holds of the conversation. -/
theorem run_answers {oracle : Oracle Answer} {good : Exchange Answer → Prop} (answers : ∀ past c, good ⟨c, oracle past c⟩)
    (p : Program Call Answer Err α) :
    ∀ past, (∀ exchange ∈ past, good exchange) → ∀ exchange ∈ (p.run oracle past).1, good exchange := by
  induction p with
  | done a => exact fun _ before => before
  | raise e => exact fun _ before => before
  | ask c resume ih =>
    intro past before
    refine ih (oracle past c) _ fun exchange member => ?_
    rcases List.mem_append.mp member with old | new
    · exact before exchange old
    · rw [List.mem_singleton.mp new]
      exact answers past c

/-! ### What a program does whatever it is answered -/

/-- Every question is allowed by the conversation before it, and every ending
    meets the postcondition, whatever the answers are. -/
def Satisfies (allowed : List (Exchange Answer) → Call → Prop)
    (post : List (Exchange Answer) → Except Err α → Prop) :
    Program Call Answer Err α → List (Exchange Answer) → Prop
  | .done a, past => post past (.ok a)
  | .raise e, past => post past (.error e)
  | .ask c resume, past => allowed past c ∧ ∀ a, (resume a).Satisfies allowed post (past ++ [⟨c, a⟩])

variable {allowed : List (Exchange Answer) → Call → Prop} {past : List (Exchange Answer)}

@[simp] theorem satisfies_done (post : List (Exchange Answer) → Except Err α → Prop) (a : α) :
    (.done a : Program Call Answer Err α).Satisfies allowed post past ↔ post past (.ok a) := .rfl
@[simp] theorem satisfies_raise (post : List (Exchange Answer) → Except Err α → Prop) (e : Err) :
    (.raise e : Program Call Answer Err α).Satisfies allowed post past ↔ post past (.error e) := .rfl
@[simp] theorem satisfies_ask (post : List (Exchange Answer) → Except Err α → Prop) (c : Call)
    (resume : Answer c → Program Call Answer Err α) :
    (.ask c resume : Program Call Answer Err α).Satisfies allowed post past ↔
      allowed past c ∧ ∀ a, (resume a).Satisfies allowed post (past ++ [⟨c, a⟩]) := .rfl

/-- The rule for a program that ends at once. -/
theorem satisfies_finished {post : List (Exchange Answer) → Except Err α → Prop} {p : Program Call Answer Err α}
    (quiet : ∃ ended, p = finished ended) (each : ∀ ended, p = finished ended → post past ended) :
    p.Satisfies allowed post past := by
  obtain ⟨ended, rfl⟩ := quiet
  cases ended with
  | ok a => exact each (.ok a) rfl
  | error e => exact each (.error e) rfl

/-- The rule for a sequence: what the first part ends with is what the second
    part starts from. -/
theorem satisfies_bind {middle : List (Exchange Answer) → Except Err α → Prop}
    {post : List (Exchange Answer) → Except Err β → Prop} {p : Program Call Answer Err α}
    {f : α → Program Call Answer Err β} (first : p.Satisfies allowed middle past)
    (ended : ∀ later a, middle later (.ok a) → (f a).Satisfies allowed post later)
    (raised : ∀ later e, middle later (.error e) → post later (.error e)) :
    (p >>= f).Satisfies allowed post past := by
  induction p generalizing past with
  | done a => exact ended past a first
  | raise e => exact raised past e first
  | ask c resume ih => exact ⟨first.1, fun a => ih a (first.2 a)⟩

/-- Of a program of which nothing is known. -/
theorem satisfies_anything (p : Program Call Answer Err α) (past : List (Exchange Answer)) :
    p.Satisfies (fun _ _ => True) (fun _ _ => True) past := by
  induction p generalizing past with
  | done a => trivial
  | raise e => trivial
  | ask c resume ih => exact ⟨trivial, fun a => ih a _⟩

/-- The rule for a sequence of which only the questions matter. -/
theorem satisfies_bind_any {p : Program Call Answer Err α} {f : α → Program Call Answer Err β}
    (first : p.Satisfies allowed (fun _ _ => True) past)
    (next : ∀ later a, (f a).Satisfies allowed (fun _ _ => True) later) :
    (p >>= f).Satisfies allowed (fun _ _ => True) past :=
  satisfies_bind first (fun later a _ => next later a) fun _ _ _ => trivial

/-- The rule for recovering from an error. -/
theorem satisfies_catching {middle post : List (Exchange Answer) → Except Err α → Prop}
    {p : Program Call Answer Err α} {recover : Err → Program Call Answer Err α}
    (first : p.Satisfies allowed middle past)
    (ended : ∀ later a, middle later (.ok a) → post later (.ok a))
    (raised : ∀ later e, middle later (.error e) → (recover e).Satisfies allowed post later) :
    (p.catching recover).Satisfies allowed post past := by
  induction p generalizing past with
  | done a => exact ended past a first
  | raise e => exact raised past e first
  | ask c resume ih => exact ⟨first.1, fun a => ih a (first.2 a)⟩

/-- The rule of consequence. -/
theorem Satisfies.weaken {allowed' : List (Exchange Answer) → Call → Prop}
    {post post' : List (Exchange Answer) → Except Err α → Prop} {p : Program Call Answer Err α}
    (strong : p.Satisfies allowed post past) (guard : ∀ h c, allowed h c → allowed' h c)
    (result : ∀ h r, post h r → post' h r) : p.Satisfies allowed' post' past := by
  induction p generalizing past with
  | done a => exact result _ _ strong
  | raise e => exact result _ _ strong
  | ask c resume ih => exact ⟨guard _ _ strong.1, fun a => ih a (strong.2 a)⟩

/-- The rule for a program whose ending is handed on. -/
theorem satisfies_attempt {post : List (Exchange Answer) → Except Err (Except Err α) → Prop} {p : Program Call Answer Err α}
    (first : p.Satisfies allowed (fun said ended => post said (.ok ended)) past) : p.attempt.Satisfies allowed post past := by
  induction p generalizing past with
  | done a => exact first
  | raise e => exact first
  | ask c resume ih => exact ⟨first.1, fun a => ih a (first.2 a)⟩

/-- The rule for a program with a cleanup that does not fail. -/
theorem satisfies_ensuring {middle post : List (Exchange Answer) → Except Err α → Prop} {p : Program Call Answer Err α}
    {cleanup : Program Call Answer Err Unit} (first : p.Satisfies allowed middle past)
    (cleaned : ∀ later ended, middle later ended →
      cleanup.Satisfies allowed (fun said done => done = .ok () ∧ post said ended) later) :
    (p.ensuring cleanup).Satisfies allowed post past := by
  refine satisfies_bind (@satisfies_attempt _ _ _ _ _ _ (fun said ended => ∃ before, ended = .ok before ∧ middle said before) _ ?_) ?_ ?_
  · exact first.weaken (fun _ _ guard => guard) fun _ ended meets => ⟨ended, rfl, meets⟩
  · rintro later ended ⟨_, same, meets⟩
    obtain rfl := Except.ok.inj same
    refine satisfies_bind (cleaned later ended meets) ?_ ?_
    · rintro said - ⟨-, reached⟩
      cases ended <;> exact reached
    · rintro said error ⟨raised, -⟩
      cases raised
  · rintro later error ⟨_, raised, -⟩
    cases raised

/-- What every exchange leaves true holds at every question and at the end. -/
theorem Satisfies.under {holds : List (Exchange Answer) → Prop} {post : List (Exchange Answer) → Except Err α → Prop}
    {p : Program Call Answer Err α} (stable : ∀ said exchange, holds said → holds (said ++ [exchange]))
    (satisfied : p.Satisfies allowed post past) (now : holds past) :
    p.Satisfies (fun h c => allowed h c ∧ holds h) (fun h r => post h r ∧ holds h) past := by
  induction p generalizing past with
  | done a => exact ⟨satisfied, now⟩
  | raise e => exact ⟨satisfied, now⟩
  | ask c resume ih => exact ⟨⟨satisfied.1, now⟩, fun a => ih a (satisfied.2 a) (stable past ⟨c, a⟩ now)⟩

/-- What two descriptions say of a program holds together. -/
theorem Satisfies.both {allowed' : List (Exchange Answer) → Call → Prop}
    {post post' : List (Exchange Answer) → Except Err α → Prop} {p : Program Call Answer Err α}
    (first : p.Satisfies allowed post past) (second : p.Satisfies allowed' post' past) :
    p.Satisfies (fun h c => allowed h c ∧ allowed' h c) (fun h r => post h r ∧ post' h r) past := by
  induction p generalizing past with
  | done a => exact ⟨first, second⟩
  | raise e => exact ⟨first, second⟩
  | ask c resume ih => exact ⟨⟨first.1, second.1⟩, fun a => ih a (first.2 a) (second.2 a)⟩

/-- A program that only asks questions of one kind leaves a conversation of
    that kind. -/
theorem Satisfies.only {kind : Call → Prop} {post : List (Exchange Answer) → Except Err α → Prop}
    {p : Program Call Answer Err α} (asks : p.Satisfies (fun _ c => kind c) post past)
    (before : ∀ exchange ∈ past, kind exchange.1) :
    p.Satisfies (fun _ _ => True) (fun said ended => post said ended ∧ ∀ exchange ∈ said, kind exchange.1) past := by
  induction p generalizing past with
  | done a => exact ⟨asks, before⟩
  | raise e => exact ⟨asks, before⟩
  | ask c resume ih =>
    refine ⟨trivial, fun a => ih a (asks.2 a) fun exchange member => ?_⟩
    rcases List.mem_append.mp member with old | new
    · exact before exchange old
    · rw [List.mem_singleton.mp new]
      exact asks.1

/-- What a program adds to the conversation is of the kind that it asks. -/
theorem Satisfies.adds {kind : Call → Prop} {post : List (Exchange Answer) → Except Err α → Prop}
    {p : Program Call Answer Err α} (asks : p.Satisfies (fun _ c => kind c) post past) :
    p.Satisfies (fun _ _ => True)
      (fun said ended => post said ended ∧ ∃ new, said = past ++ new ∧ ∀ exchange ∈ new, kind exchange.1) past := by
  induction p generalizing past with
  | done a => exact ⟨asks, [], by simp⟩
  | raise e => exact ⟨asks, [], by simp⟩
  | ask c resume ih =>
    refine ⟨trivial, fun a => (ih a (asks.2 a)).weaken (fun _ _ _ => trivial) ?_⟩
    rintro said ended ⟨meets, new, rfl, kinds⟩
    exact ⟨meets, ⟨c, a⟩ :: new, by simp, List.forall_mem_cons.mpr ⟨asks.1, kinds⟩⟩

/-- Whatever the oracle is, a run of a satisfying program ends in the
    postcondition. -/
theorem Satisfies.run_post {post : List (Exchange Answer) → Except Err α → Prop} {p : Program Call Answer Err α}
    (satisfied : p.Satisfies allowed post past) (oracle : Oracle Answer) :
    post (p.run oracle past).1 (p.run oracle past).2 := by
  induction p generalizing past with
  | done a => exact satisfied
  | raise e => exact satisfied
  | ask c resume ih => exact ih _ (satisfied.2 _)

/-- Whatever the oracle is, every question a run adds to the conversation was
    allowed by what came before it. -/
theorem Satisfies.run_allowed {post : List (Exchange Answer) → Except Err α → Prop}
    {p : Program Call Answer Err α} (satisfied : p.Satisfies allowed post past) (oracle : Oracle Answer)
    {before after : List (Exchange Answer)} {c : Call} {a : Answer c}
    (asked : (p.run oracle past).1 = before ++ ⟨c, a⟩ :: after) (new : past.length ≤ before.length) :
    allowed before c := by
  induction p generalizing past with
  | done r => exact absurd (congrArg List.length asked) (by simp [run]; omega)
  | raise e => exact absurd (congrArg List.length asked) (by simp [run]; omega)
  | ask d resume ih =>
    rcases Nat.lt_or_eq_of_le new with later | now
    · exact ih _ (satisfied.2 _) asked (by simp; omega)
    · -- the question asked now: `before` is the conversation so far
      obtain ⟨rest, whole⟩ := run_extends oracle (resume (oracle past d)) (past ++ [⟨d, oracle past d⟩])
      have same : past ++ ⟨d, oracle past d⟩ :: rest = before ++ ⟨c, a⟩ :: after := by
        rw [← asked, run, ← whole, List.append_assoc]; rfl
      obtain ⟨pastSame, restSame⟩ := List.append_inj same now
      obtain ⟨exchange, -⟩ := List.cons.inj restSame
      obtain ⟨rfl, -⟩ := Sigma.mk.inj exchange
      exact pastSame ▸ satisfied.1

end Program

end ControlPlane.Programs
