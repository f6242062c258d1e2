import Mathlib.Data.List.Nodup
import Mathlib.Data.Nat.ModEq
import ControlPlane.Commands

/-!
The registry that offers the executors of the capabilities their turns. A call
starts behind the executor that advanced last and stops at the first one that
advances, or throws. When none throws, an executor that is ready gets its turn
within as many calls as there are executors; one that throws is offered the first
turn of the next call again, and those behind it get none.
-/
namespace ControlPlane.WorkflowRegistry
open ControlPlane.Commands

/-- What an executor does with a turn. -/
inductive Turn
  | advanced
  | idle
  | threw
  deriving DecidableEq, Repr

/-- One executor for each action, and where the next call starts. -/
structure Registry (Action : Type) where
  executors : List Action
  distinct : executors.Nodup
  cursor : Nat := 0
  inRange : executors ≠ [] → cursor < executors.length

/-- How a call ends: with `true`, with `false`, or with what an executor threw. -/
inductive Ended
  | advanced
  | idle
  | threw
  deriving DecidableEq, Repr

/-- A call: the executors that were offered a turn, how it ended, and the registry after it. -/
structure Call (Action : Type) where
  offered : List Action
  ended : Ended
  registry : Registry Action

section
variable {Action : Type}

/-- The constructor refuses two executors of one action. -/
def create [DecidableEq Action] (executors : List Action) : Except String (Registry Action) :=
  if distinct : executors.Nodup then .ok { executors, distinct, inRange := List.length_pos_iff.2 }
  else .error "Duplicate workflow executor for action."

namespace Registry
variable (registry : Registry Action)

/-- The executor of an attempt. -/
def executorAt (attempt : Nat) : Option Action :=
  registry.executors[(registry.cursor + attempt) % registry.executors.length]?

/-- The next call starts with the executor after the one of this attempt. -/
def advance (attempt : Nat) : Registry Action :=
  { registry with
    cursor := (registry.cursor + attempt + 1) % registry.executors.length
    inRange := fun some_ => Nat.mod_lt _ (List.length_pos_iff.2 some_) }

/-- The attempts of a call that remain, from one on. -/
def attempts (turns : Action → Turn) : Nat → Nat → Call Action
  | 0, _ => ⟨[], .idle, registry⟩
  | remaining + 1, attempt =>
    match registry.executorAt attempt with
    | none => attempts turns remaining (attempt + 1)
    | some executor =>
      match turns executor with
      | .advanced => ⟨[executor], .advanced, registry.advance attempt⟩
      | .threw => ⟨[executor], .threw, registry⟩
      | .idle =>
        let rest := attempts turns remaining (attempt + 1)
        { rest with offered := executor :: rest.offered }

example (turns : Action → Turn) : registry.attempts turns 0 0 = ⟨[], .idle, registry⟩ := by rw [attempts]

/-- Gives each executor one chance, and stops at the first that advances. -/
def runOne (turns : Action → Turn) : Call Action := registry.attempts turns registry.executors.length 0

/-- The registry after a number of calls. The worker calls again however a call ends. -/
def after (turns : Nat → Action → Turn) : Nat → Registry Action
  | 0 => registry
  | calls + 1 => ((after turns calls).runOne (turns calls)).registry

/-- The executors that a call offers a turn. -/
def offered (turns : Nat → Action → Turn) (call : Nat) : List Action :=
  ((registry.after turns call).runOne (turns call)).offered

/-- In as many calls in a row as there are executors, each one that is ready throughout is offered a turn. -/
def Fair (turns : Nat → Action → Turn) : Prop :=
  ∀ start, ∀ executor ∈ registry.executors,
    (∀ call, start ≤ call → call < start + registry.executors.length → turns call executor ≠ .idle) →
      ∃ call, start ≤ call ∧ call < start + registry.executors.length ∧ executor ∈ registry.offered turns call

end Registry

/-! ### One call -/

section
variable {registry : Registry Action} {turns : Action → Turn} {executor : Action}

theorem attempts_executors (remaining attempt : Nat) :
    (registry.attempts turns remaining attempt).registry.executors = registry.executors := by
  induction remaining generalizing attempt with
  | zero => rfl
  | succ remaining ih =>
    rw [Registry.attempts]
    split
    · exact ih _
    · split
      · rfl
      · rfl
      · exact ih _

theorem runOne_executors : (registry.runOne turns).registry.executors = registry.executors := attempts_executors _ _

/-- Attempts at which every executor is idle only lead to the next one. -/
theorem attempts_idle {passed remaining attempt : Nat}
    (idle : ∀ other ∈ registry.executorAt attempt, turns other = .idle) (some_ : remaining = passed + 1) :
    (registry.attempts turns remaining attempt).registry = (registry.attempts turns passed (attempt + 1)).registry := by
  rw [some_, Registry.attempts]
  split
  · rfl
  next other found =>
    rw [idle other found]

/-- A call that nobody throws in offers an executor its turn, or moves closer to it. -/
theorem attempts_approaches (calm : ∀ other ∈ registry.executors, turns other ≠ .threw)
    {remaining attempt distance : Nat} (reached : attempt ≤ distance) (ahead : distance < attempt + remaining)
    (place : registry.executorAt distance = some executor) :
    executor ∈ (registry.attempts turns remaining attempt).offered ∨
      ∃ nearer, attempt ≤ nearer ∧ nearer < distance ∧
        (registry.attempts turns remaining attempt).registry = registry.advance nearer := by
  induction remaining generalizing attempt with
  | zero => omega
  | succ remaining ih =>
    by_cases here : attempt = distance
    · refine .inl ?_
      subst here
      rw [Registry.attempts, place]
      dsimp only
      split <;> simp
    · have later : attempt + 1 ≤ distance := by omega
      rw [Registry.attempts]
      split
      next =>
        rcases ih later (by omega) with offered | ⟨nearer, least, most, same⟩
        · exact .inl offered
        · exact .inr ⟨nearer, by omega, most, same⟩
      next other found =>
        have member : other ∈ registry.executors := List.mem_of_getElem? found
        split
        next advanced => exact .inr ⟨attempt, Nat.le_refl _, by omega, rfl⟩
        next threw => exact absurd threw (calm other member)
        next idle =>
          rcases ih later (by omega) with offered | ⟨nearer, least, most, same⟩
          · exact .inl (List.mem_cons_of_mem _ offered)
          · exact .inr ⟨nearer, by omega, most, same⟩

/-- The executor that was some attempts away is that many fewer away for the next call. -/
theorem advance_executorAt {nearer distance : Nat} (closer : nearer < distance) :
    (registry.advance nearer).executorAt (distance - nearer - 1) = registry.executorAt distance := by
  have whole : registry.cursor + nearer + 1 + (distance - nearer - 1) = registry.cursor + distance := by omega
  show registry.executors[((registry.cursor + nearer + 1) % registry.executors.length + (distance - nearer - 1)) %
    registry.executors.length]? = _
  rw [Nat.mod_add_mod, whole]
  rfl

/-- Every executor is offered its turn at some attempt. -/
theorem executorAt_exists (member : executor ∈ registry.executors) :
    ∃ distance, distance < registry.executors.length ∧ registry.executorAt distance = some executor := by
  obtain ⟨place, inside, found⟩ := List.mem_iff_getElem.1 member
  have cursor : registry.cursor < registry.executors.length := registry.inRange (List.ne_nil_of_mem member)
  have read : registry.executors[place]? = some executor := by rw [List.getElem?_eq_getElem inside, found]
  by_cases behind : registry.cursor ≤ place
  · refine ⟨place - registry.cursor, by omega, ?_⟩
    have index : (registry.cursor + (place - registry.cursor)) % registry.executors.length = place := by
      rw [Nat.add_sub_cancel' behind, Nat.mod_eq_of_lt inside]
    rw [Registry.executorAt, index, read]
  · refine ⟨place + registry.executors.length - registry.cursor, by omega, ?_⟩
    have index : (registry.cursor + (place + registry.executors.length - registry.cursor)) %
        registry.executors.length = place := by
      have whole : registry.cursor + (place + registry.executors.length - registry.cursor) =
          place + registry.executors.length := by omega
      rw [whole, Nat.add_mod_right, Nat.mod_eq_of_lt inside]
    rw [Registry.executorAt, index, read]

end

/-! ### Runs -/

section
variable {registry : Registry Action} {turns : Nat → Action → Turn}

theorem after_executors (calls : Nat) : (registry.after turns calls).executors = registry.executors := by
  induction calls with
  | zero => rfl
  | succ calls ih => exact runOne_executors.trans ih

/-- An executor that is some attempts away is offered its turn within that many calls and one. -/
theorem offered_within (calm : ∀ call, ∀ other ∈ registry.executors, turns call other ≠ .threw) {executor : Action}
    (distance start : Nat) (near : distance < registry.executors.length)
    (place : (registry.after turns start).executorAt distance = some executor) :
    ∃ call, start ≤ call ∧ call < start + distance + 1 ∧ executor ∈ registry.offered turns call := by
  -- The distance falls with every call that does not reach the executor.
  induction distance using Nat.strongRecOn generalizing start with
  | _ distance ih =>
    have calm_ : ∀ other ∈ (registry.after turns start).executors, turns start other ≠ .threw := by
      intro other member
      exact calm start other (after_executors start ▸ member)
    have ahead : distance < 0 + (registry.after turns start).executors.length := by
      rw [after_executors]
      omega
    rcases attempts_approaches calm_ (Nat.zero_le _) ahead place with
      offered | ⟨nearer, -, closer, same⟩
    · exact ⟨start, Nat.le_refl _, by omega, offered⟩
    · have moved : (registry.after turns (start + 1)).executorAt (distance - nearer - 1) = some executor := by
        rw [Registry.after, Registry.runOne, same, advance_executorAt closer, place]
      obtain ⟨call, first, last, offered⟩ := ih _ (by omega) (start + 1) (by omega) moved
      exact ⟨call, by omega, by omega, offered⟩

/-- When no executor throws, the rotation is fair. -/
theorem fair_of_calm (calm : ∀ call, ∀ other ∈ registry.executors, turns call other ≠ .threw) : registry.Fair turns := by
  intro start executor member _
  have member_ : executor ∈ (registry.after turns start).executors := (after_executors start).symm ▸ member
  obtain ⟨distance, near, place⟩ := executorAt_exists member_
  rw [after_executors] at near
  obtain ⟨call, first, last, offered⟩ := offered_within calm distance start near place
  exact ⟨call, first, by omega, offered⟩

end

/-! ### An executor that throws -/

section
variable {registry : Registry Action}

/-- Different attempts of a call are for different executors. -/
theorem executorAt_inj {first second : Nat} (inside : first < registry.executors.length)
    (inside_ : second < registry.executors.length) (same : registry.executorAt first = registry.executorAt second) :
    first = second := by
  have some_ : 0 < registry.executors.length := by omega
  have place := (List.getElem?_inj (Nat.mod_lt _ some_) registry.distinct).1 same
  have congruent : first ≡ second [MOD registry.executors.length] := Nat.ModEq.add_left_cancel' registry.cursor place
  rwa [Nat.ModEq, Nat.mod_eq_of_lt inside, Nat.mod_eq_of_lt inside_] at congruent

/-- A call that ends at an attempt when every executor before it is idle. -/
theorem attempts_first {turns : Action → Turn} {executor : Action} {distance remaining attempt : Nat}
    (idle : ∀ passed, attempt ≤ passed → passed < distance → ∀ other ∈ registry.executorAt passed, turns other = .idle)
    (place : registry.executorAt distance = some executor) (advances : turns executor = .advanced)
    (reached : attempt ≤ distance) (ahead : distance < attempt + remaining) :
    (registry.attempts turns remaining attempt).registry = registry.advance distance := by
  induction remaining generalizing attempt with
  | zero => omega
  | succ remaining ih =>
    rw [Registry.attempts]
    by_cases here : attempt = distance
    · subst here
      rw [place]
      dsimp only
      rw [advances]
    · have rest := @ih (attempt + 1) (fun passed least => idle passed (by omega)) (by omega) (by omega)
      split
      next => exact rest
      next other found =>
        rw [idle attempt (Nat.le_refl _) (by omega) other found]
        exact rest

/-- The first executor of a call is always offered its turn. -/
theorem offered_first {turns : Action → Turn} {executor : Action} (place : registry.executorAt 0 = some executor) :
    executor ∈ (registry.runOne turns).offered := by
  obtain ⟨remaining, length⟩ : ∃ remaining, registry.executors.length = remaining + 1 := by
    have inside := List.ne_nil_of_mem (List.mem_of_getElem? place)
    exact Nat.exists_eq_add_one.2 (List.length_pos_iff.2 inside)
  rw [Registry.runOne, length, Registry.attempts, place]
  dsimp only
  split <;> simp

/-- A call whose first executor throws leaves the registry as it was and offers nobody else a turn. -/
theorem runOne_threw {turns : Action → Turn} {thrower : Action} (place : registry.executorAt 0 = some thrower)
    (throws : turns thrower = .threw) : registry.runOne turns = ⟨[thrower], .threw, registry⟩ := by
  obtain ⟨remaining, length⟩ : ∃ remaining, registry.executors.length = remaining + 1 := by
    have inside := List.ne_nil_of_mem (List.mem_of_getElem? place)
    exact Nat.exists_eq_add_one.2 (List.length_pos_iff.2 inside)
  rw [Registry.runOne, length, Registry.attempts, place]
  dsimp only
  rw [throws]

open Classical in
/-- The executor before the one that throws advances first, and from then on every other one is ready. -/
noncomputable def starving (registry : Registry Action) (thrower : Action) (distance call : Nat) (executor : Action) : Turn :=
  if executor = thrower then .threw
  else if call = 0 then if registry.executorAt (distance - 1) = some executor then .advanced else .idle
  else .advanced

theorem starving_first {thrower : Action} {distance : Nat} (near : distance < registry.executors.length)
    (place : registry.executorAt distance = some thrower) :
    (registry.after (starving registry thrower distance) 1).executorAt 0 = some thrower := by
  cases distance with
  | zero =>
    rw [Registry.after, Registry.after, runOne_threw place (if_pos rfl), place]
  | succ before =>
    obtain ⟨previous, found⟩ : ∃ previous, registry.executorAt before = some previous :=
      ⟨_, List.getElem?_eq_getElem (Nat.mod_lt _ (by omega))⟩
    have apart : previous ≠ thrower := by
      rintro rfl
      have same := executorAt_inj (by omega) near (found.trans place.symm)
      omega
    have advances : starving registry thrower (before + 1) 0 previous = .advanced := by
      rw [starving, if_neg apart, if_pos rfl, Nat.add_sub_cancel, if_pos found]
    have idle : ∀ passed, 0 ≤ passed → passed < before → ∀ other ∈ registry.executorAt passed,
        starving registry thrower (before + 1) 0 other = .idle := by
      intro passed _ earlier other there
      have other_ : other ≠ thrower := by
        rintro rfl
        have same := executorAt_inj (by omega) near (Eq.trans there place.symm)
        omega
      have unlike : registry.executorAt before ≠ some other := by
        intro same
        have same := executorAt_inj (by omega) (by omega) (Eq.trans there same.symm)
        omega
      rw [starving, if_neg other_, if_pos rfl, Nat.add_sub_cancel, if_neg unlike]
    rw [Registry.after, Registry.after, Registry.runOne,
      attempts_first idle found advances (Nat.zero_le _) (by omega)]
    have moved := @advance_executorAt Action registry before (before + 1) (Nat.lt_succ_self _)
    rw [Nat.add_sub_cancel_left] at moved
    exact moved.trans place

/-- From the first call on, only the executor that throws is offered a turn. -/
theorem starving_offered {thrower : Action} {distance : Nat} (near : distance < registry.executors.length)
    (place : registry.executorAt distance = some thrower) (calls : Nat) :
    registry.after (starving registry thrower distance) (calls + 1) = registry.after (starving registry thrower distance) 1 ∧
      registry.offered (starving registry thrower distance) (calls + 1) = [thrower] := by
  have first := starving_first near place
  have throws : ∀ call, starving registry thrower distance call thrower = .threw := fun call => if_pos rfl
  have stays : ∀ calls, registry.after (starving registry thrower distance) (calls + 1) =
      registry.after (starving registry thrower distance) 1 := by
    intro calls
    induction calls with
    | zero => rfl
    | succ calls ih =>
      rw [Registry.after, ih, runOne_threw first (throws _)]
  refine ⟨stays calls, ?_⟩
  rw [Registry.offered, stays, runOne_threw first (throws _)]

/-- An executor that throws starves every other one. -/
theorem starves {thrower : Action} (member : thrower ∈ registry.executors) (others : 1 < registry.executors.length) :
    ∃ turns : Nat → Action → Turn, (∀ call executor, turns call executor = .threw → executor = thrower) ∧
      ¬ registry.Fair turns := by
  obtain ⟨distance, near, place⟩ := executorAt_exists member
  refine ⟨starving registry thrower distance, ?_, ?_⟩
  · intro call executor threw
    by_contra other
    simp only [starving, if_neg other] at threw
    split at threw
    · split at threw <;> cases threw
    · cases threw
  · intro fair
    obtain ⟨victim, there, apart⟩ : ∃ victim ∈ registry.executors, victim ≠ thrower := by
      obtain ⟨other, inside, differs⟩ : ∃ other, other < registry.executors.length ∧ other ≠ distance := by
        by_cases first : distance = 0
        · exact ⟨1, others, by omega⟩
        · exact ⟨0, by omega, fun same => first same.symm⟩
      obtain ⟨victim, found⟩ : ∃ victim, registry.executorAt other = some victim :=
        ⟨_, List.getElem?_eq_getElem (Nat.mod_lt _ (by omega))⟩
      refine ⟨victim, List.mem_of_getElem? found, ?_⟩
      rintro rfl
      exact differs (executorAt_inj inside near (found.trans place.symm))
    have ready : ∀ call, 1 ≤ call → call < 1 + registry.executors.length → starving registry thrower distance call victim ≠ .idle := by
      intro call later _
      rw [starving, if_neg apart, if_neg (by omega)]
      decide
    obtain ⟨call, later, -, offered⟩ := fair 1 victim there ready
    obtain ⟨calls, rfl⟩ := Nat.exists_eq_add_of_le' later
    rw [(starving_offered near place calls).2, List.mem_singleton] at offered
    exact apart offered

end

/-- Whatever the executors that may throw do, the rotation is fair, exactly when the registry holds none of them
    or nobody else. -/
theorem fair_iff (registry : Registry Action) (mayThrow : Action → Prop) :
    (∀ turns : Nat → Action → Turn, (∀ call executor, turns call executor = .threw → mayThrow executor) → registry.Fair turns) ↔
      (∀ executor ∈ registry.executors, ¬ mayThrow executor) ∨ registry.executors.length ≤ 1 := by
  constructor
  · intro fair
    by_contra unfit
    simp only [not_or, not_forall, not_not, Nat.not_le] at unfit
    obtain ⟨⟨thrower, member, may⟩, others⟩ := unfit
    obtain ⟨turns, only, unfair⟩ := starves member others
    exact unfair (fair turns fun call executor threw => only call executor threw ▸ may)
  · rintro (calm | single) turns only
    · exact fair_of_calm fun call other member threw => calm other member (only call other threw)
    · intro start executor member _
      refine ⟨start, Nat.le_refl _, ?_, ?_⟩
      · have some_ := List.length_pos_of_mem member
        omega
      · have member_ : executor ∈ (registry.after turns start).executors := (after_executors start).symm ▸ member
        obtain ⟨distance, near, place⟩ := executorAt_exists member_
        obtain rfl : distance = 0 := by
          rw [after_executors] at near
          omega
        exact offered_first place

end

/-- The registry of two capabilities. -/
def sampleRegistry : Registry WorkflowAction :=
  { executors := [.createInstance, .powerInstance], distinct := by decide, inRange := by decide }

/-- Every claim of a creation throws, and a power action is always ready. -/
def sampleTurns (_ : Nat) (action : WorkflowAction) : Turn := if action = .createInstance then .threw else .advanced

/-- The capability that always throws is the only one that is ever offered a turn. -/
theorem creation_starves_power :
    create [WorkflowAction.createInstance, .powerInstance] = .ok sampleRegistry ∧
    (∀ call, sampleRegistry.offered sampleTurns call = [.createInstance]) ∧ ¬ sampleRegistry.Fair sampleTurns := by
  have throws : ∀ call, sampleRegistry.runOne (sampleTurns call) = ⟨[.createInstance], .threw, sampleRegistry⟩ :=
    fun _ => runOne_threw rfl rfl
  have stays : ∀ call, sampleRegistry.after sampleTurns call = sampleRegistry := by
    intro call
    induction call with
    | zero => rfl
    | succ call ih => rw [Registry.after, ih, throws]
  have only : ∀ call, sampleRegistry.offered sampleTurns call = [.createInstance] := by
    intro call
    rw [Registry.offered, stays, throws]
  refine ⟨rfl, only, fun fair => ?_⟩
  obtain ⟨call, -, -, offered⟩ := fair 0 .powerInstance (by decide) fun _ _ _ idle => nomatch idle
  rw [only] at offered
  exact absurd offered (by decide)

end ControlPlane.WorkflowRegistry
