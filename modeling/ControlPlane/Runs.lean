import Mathlib.Data.List.Forall2
import Mathlib.Logic.Relation

/-!
Runs of a transition system. A system is a function that answers an input in a
state with the next state, or refuses it. A run is a chain of such steps, each
of which may have to meet a condition on the state and the input. Whatever every
step keeps, every run keeps (`reaches_invariant`), and executing a list of
inputs gives a run (`reaches_execute`). Two runs look alike when their steps do
(`execute_view`).
-/
namespace ControlPlane.Runs
universe u v w

section
variable {State : Type u} {Input : Type v} {next : State → Input → Option State}
  {allowed : State → Input → Prop}

/-- One step of the system on an input that meets the condition. -/
def Step (next : State → Input → Option State) (allowed : State → Input → Prop) (s t : State) : Prop :=
  ∃ input, allowed s input ∧ next s input = some t

/-- A run whose steps all meet the condition. -/
abbrev Reaches (next : State → Input → Option State) (allowed : State → Input → Prop) : State → State → Prop :=
  Relation.ReflTransGen (Step next allowed)

/-- The condition that every step meets. -/
def Anything (_ : State) (_ : Input) : Prop := True

/-- What every allowed step keeps, every run keeps. -/
theorem reaches_invariant (Invariant : State → Prop)
    (kept : ∀ s input t, Invariant s → allowed s input → next s input = some t → Invariant t)
    {s t : State} (run : Reaches next allowed s t) (start : Invariant s) : Invariant t := by
  induction run with
  | refl => exact start
  | tail _ last ih =>
    obtain ⟨input, meets, taken⟩ := last
    exact kept _ input _ ih meets taken

/-- What every step keeps only grows along a run. -/
theorem reaches_relation (Related : State → State → Prop) (refl : ∀ s, Related s s)
    (trans : ∀ r s t, Related r s → Related s t → Related r t)
    (kept : ∀ s input t, allowed s input → next s input = some t → Related s t)
    {s t : State} (run : Reaches next allowed s t) : Related s t := by
  induction run with
  | refl => exact refl _
  | tail _ last ih =>
    obtain ⟨input, meets, taken⟩ := last
    exact trans _ _ _ ih (kept _ input _ meets taken)

theorem reaches_weaken {stronger : State → Input → Prop} (implies : ∀ s input, stronger s input → allowed s input)
    {s t : State} (run : Reaches next stronger s t) : Reaches next allowed s t :=
  Relation.ReflTransGen.mono (fun _ _ ⟨input, meets, taken⟩ => ⟨input, implies _ _ meets, taken⟩) _ _ run

/-! ### Executing a list of inputs -/

/-- The state after a list of inputs, each of them answered. -/
def execute (next : State → Input → Option State) (s : State) : List Input → Option State
  | [] => some s
  | input :: rest => (next s input).bind fun t => execute next t rest

/-- Whether every input of a list meets the condition in the state it is given in. -/
def Meets (next : State → Input → Option State) (allowed : State → Input → Prop) (s : State) : List Input → Prop
  | [] => True
  | input :: rest => allowed s input ∧ ∀ t, next s input = some t → Meets next allowed t rest

theorem meets_anything (s : State) (inputs : List Input) : Meets next Anything s inputs := by
  induction inputs generalizing s with
  | nil => trivial
  | cons input rest ih => exact ⟨trivial, fun t _ => ih t⟩

theorem Meets.cons {s t : State} {input : Input} {rest : List Input} (meets : allowed s input)
    (taken : next s input = some t) (after : Meets next allowed t rest) : Meets next allowed s (input :: rest) :=
  ⟨meets, fun u same => by rw [taken] at same; cases same; exact after⟩

theorem meets_weaken {stronger : State → Input → Prop} (implies : ∀ s input, stronger s input → allowed s input) {s : State}
    {inputs : List Input} (meets : Meets next stronger s inputs) : Meets next allowed s inputs := by
  induction inputs generalizing s with
  | nil => trivial
  | cons input rest ih => exact ⟨implies s input meets.1, fun t taken => ih (meets.2 t taken)⟩

/-- The input after a list of inputs that is executed meets the condition. -/
theorem meets_last {s t : State} {inputs : List Input} {input : Input} (meets : Meets next allowed s (inputs ++ [input]))
    (executed : execute next s inputs = some t) : allowed t input := by
  induction inputs generalizing s with
  | nil => cases executed; exact meets.1
  | cons first rest ih =>
    obtain ⟨middle, taken, remaining⟩ := Option.bind_eq_some_iff.mp executed
    exact ih (meets.2 middle taken) remaining

/-- Two conditions that say the same in every state that an invariant holds of, hold of
    the same lists of inputs. -/
theorem meets_iff {other : State → Input → Prop} (Invariant : State → Prop)
    (kept : ∀ s input t, Invariant s → next s input = some t → Invariant t)
    (same : ∀ s input, Invariant s → (allowed s input ↔ other s input)) {s : State} (start : Invariant s)
    (inputs : List Input) : Meets next allowed s inputs ↔ Meets next other s inputs := by
  induction inputs generalizing s with
  | nil => exact Iff.rfl
  | cons input rest ih =>
    exact and_congr (same s input start) (forall₂_congr fun t taken => ih (kept s input t start taken))

/-- Inputs that meet the condition in any state. -/
theorem meets_of_forall {s : State} {inputs : List Input} (all : ∀ input ∈ inputs, ∀ s, allowed s input) :
    Meets next allowed s inputs := by
  induction inputs generalizing s with
  | nil => trivial
  | cons input rest ih =>
    exact ⟨all input List.mem_cons_self s, fun t _ => ih fun other member => all other (List.mem_cons_of_mem _ member)⟩

/-- Whether a decided condition holds of every input of a list. -/
def checks (next : State → Input → Option State) (check : State → Input → Bool) (s : State) : List Input → Bool
  | [] => true
  | input :: rest => check s input && (next s input).all fun t => checks next check t rest

/-- Inputs that pass a check meet the condition that it decides. -/
theorem meets_of_checks {check : State → Input → Bool} (sound : ∀ s input, check s input = true → allowed s input)
    {s : State} {inputs : List Input} (passed : checks next check s inputs = true) : Meets next allowed s inputs := by
  induction inputs generalizing s with
  | nil => trivial
  | cons input rest ih =>
    simp only [checks, Bool.and_eq_true] at passed
    refine ⟨sound s input passed.1, fun t taken => ih ?_⟩
    simpa [taken] using passed.2

/-- The state after a list of inputs that all pass a check. -/
def tested (next : State → Input → Option State) (check : State → Input → Bool) (s : State) : List Input → Option State
  | [] => some s
  | input :: rest => if check s input then (next s input).bind fun t => tested next check t rest else none

/-- Executing a list of inputs that meet the condition is a run. -/
theorem reaches_execute {s t : State} {inputs : List Input} (meets : Meets next allowed s inputs)
    (executed : execute next s inputs = some t) : Reaches next allowed s t := by
  induction inputs generalizing s with
  | nil => cases executed; exact .refl
  | cons input rest ih =>
    obtain ⟨middle, first, remaining⟩ := Option.bind_eq_some_iff.mp executed
    exact .head ⟨input, meets.1, first⟩ (ih (meets.2 middle first) remaining)

theorem execute_tested {check : State → Input → Bool} {s t : State} {inputs : List Input}
    (passed : tested next check s inputs = some t) : execute next s inputs = some t := by
  induction inputs generalizing s with
  | nil => exact passed
  | cons input rest ih =>
    simp only [tested] at passed
    split at passed
    next =>
      obtain ⟨middle, first, remaining⟩ := Option.bind_eq_some_iff.mp passed
      exact Option.bind_eq_some_iff.mpr ⟨middle, first, ih remaining⟩
    next => cases passed

theorem reaches_tested {check : State → Input → Bool} (sound : ∀ s input, check s input = true → allowed s input)
    {s t : State} {inputs : List Input} (passed : tested next check s inputs = some t) : Reaches next allowed s t := by
  induction inputs generalizing s with
  | nil => cases passed; exact .refl
  | cons input rest ih =>
    simp only [tested] at passed
    split at passed
    next meets =>
      obtain ⟨middle, first, remaining⟩ := Option.bind_eq_some_iff.mp passed
      exact .head ⟨input, sound s input meets, first⟩ (ih remaining)
    next => cases passed

end

/-! ### What is seen of two runs -/

section
variable {State : Type u} {Input : Type v} {View : Type w} {next : State → Input → Option State}

/-- When inputs that are alike, given in states that look alike, lead to states that look
    alike, or are both refused, so do lists of them. -/
theorem execute_view (view : State → View) (Alike : Input → Input → Prop)
    (unwinds : ∀ s t input other, view s = view t → Alike input other → (next s input).map view = (next t other).map view)
    {s t : State} (same : view s = view t) {inputs others : List Input} (alike : List.Forall₂ Alike inputs others) :
    (execute next s inputs).map view = (execute next t others).map view := by
  induction alike generalizing s t with
  | nil => exact congrArg some same
  | @cons input other rest more first _ ih =>
    have step := unwinds s t input other same first
    simp only [execute]
    cases taken : next s input with
    | none =>
      rw [taken, Option.map_none] at step
      rw [Option.map_eq_none_iff.mp step.symm]
      rfl
    | some after =>
      rw [taken, Option.map_some] at step
      obtain ⟨reached, found, looks⟩ := Option.map_eq_some_iff.mp step.symm
      rw [found]
      exact ih looks.symm

end

/-! ### A system inside a larger one -/

section
variable {State : Type u} {Input : Type v} {Whole : Type w} {Action : Type*}
  {next : State → Input → Option State} {allowed : State → Input → Prop}
  {act : Whole → Action → Option Whole} {permitted : Whole → Action → Prop}

/-- When each step of a larger system is a run of the smaller one on its part,
    each run of the larger one is. -/
theorem reaches_part (part : Whole → State)
    (simulated : ∀ s action t, permitted s action → act s action = some t →
      Reaches next allowed (part s) (part t))
    {s t : Whole} (run : Reaches act permitted s t) : Reaches next allowed (part s) (part t) := by
  induction run with
  | refl => exact .refl
  | tail _ last ih =>
    obtain ⟨action, meets, taken⟩ := last
    exact ih.trans (simulated _ action _ meets taken)

end

end ControlPlane.Runs
