import Mathlib.Data.List.Basic

/-! Deterministic machines driven by a finite list of inputs: what one step keeps, every run keeps. -/

namespace DfStudy.Support.Machine

universe u v

variable {State : Type u} {Input : Type v}

def run (step : State → Input → State) (start : State) (inputs : List Input) : State :=
  inputs.foldl step start

@[simp] theorem run_nil (step : State → Input → State) (start : State) : run step start [] = start := rfl

@[simp] theorem run_cons (step : State → Input → State) (start : State) (input : Input)
    (inputs : List Input) : run step start (input :: inputs) = run step (step start input) inputs := rfl

theorem run_append (step : State → Input → State) (start : State) (first second : List Input) :
    run step start (first ++ second) = run step (run step start first) second :=
  List.foldl_append ..

/-- Every input of the run arrives in a state that permits it. -/
def Permitted (step : State → Input → State) (permits : State → Input → Prop) : State → List Input → Prop
  | _, [] => True
  | start, input :: inputs => permits start input ∧ Permitted step permits (step start input) inputs

instance decidablePermitted (step : State → Input → State) (permits : State → Input → Prop)
    [∀ state input, Decidable (permits state input)] :
    ∀ start inputs, Decidable (Permitted step permits start inputs)
  | _, [] => .isTrue trivial
  | start, input :: inputs =>
    have : Decidable (Permitted step permits (step start input) inputs) := decidablePermitted step permits _ inputs
    inferInstanceAs (Decidable (permits start input ∧ _))

/-- Up to a turn, at the turn, and after it. -/
theorem permitted_split {step : State → Input → State} {permits : State → Input → Prop} {start : State}
    {before after : List Input} {input : Input} (permitted : Permitted step permits start (before ++ input :: after)) :
    Permitted step permits start before ∧ permits (run step start before) input ∧
      Permitted step permits (step (run step start before) input) after := by
  induction before generalizing start with
  | nil => exact ⟨trivial, permitted⟩
  | cons first rest ih =>
    obtain ⟨here, later⟩ := permitted
    obtain ⟨front, turn, back⟩ := ih later
    exact ⟨⟨here, front⟩, turn, back⟩

theorem Permitted.mono {step : State → Input → State} {permits wider : State → Input → Prop}
    (implies : ∀ state input, permits state input → wider state input) {start : State} {inputs : List Input}
    (permitted : Permitted step permits start inputs) : Permitted step wider start inputs := by
  induction inputs generalizing start with
  | nil => trivial
  | cons input inputs ih => exact ⟨implies start input permitted.1, ih permitted.2⟩

theorem Permitted.and {step : State → Input → State} {permits also : State → Input → Prop} {start : State}
    {inputs : List Input} (permitted : Permitted step permits start inputs) (permitted' : Permitted step also start inputs) :
    Permitted step (fun state input => permits state input ∧ also state input) start inputs := by
  induction inputs generalizing start with
  | nil => trivial
  | cons input inputs ih => exact ⟨⟨permitted.1, permitted'.1⟩, ih permitted.2 permitted'.2⟩

theorem permitted_parts {step : State → Input → State} {permits : State → Input → Prop} {start : State}
    {first second : List Input} (permitted : Permitted step permits start (first ++ second)) :
    Permitted step permits start first ∧ Permitted step permits (run step start first) second := by
  induction first generalizing start with
  | nil => exact ⟨trivial, permitted⟩
  | cons input inputs ih =>
    obtain ⟨front, back⟩ := ih permitted.2
    exact ⟨⟨permitted.1, front⟩, back⟩

theorem run_invariant {step : State → Input → State} (invariant : State → Prop)
    (preserves : ∀ state input, invariant state → invariant (step state input))
    {start : State} (inputs : List Input) (initial : invariant start) :
    invariant (run step start inputs) := by
  induction inputs generalizing start with
  | nil => exact initial
  | cons input inputs ih => exact ih (preserves start input initial)

theorem run_invariant_of_permitted {step : State → Input → State} {permits : State → Input → Prop}
    (invariant : State → Prop)
    (preserves : ∀ state input, permits state input → invariant state → invariant (step state input))
    {start : State} {inputs : List Input} (permitted : Permitted step permits start inputs)
    (initial : invariant start) : invariant (run step start inputs) := by
  induction inputs generalizing start with
  | nil => exact initial
  | cons input inputs ih => exact ih permitted.2 (preserves start input permitted.1 initial)

/-- What holds in every state of the run holds about each of its turns. -/
theorem permitted_of_prefixes {step : State → Input → State} {holds : State → Prop} {start : State} {inputs : List Input}
    (every : ∀ count, holds (run step start (inputs.take count))) :
    Permitted step (fun state input => holds state ∧ holds (step state input)) start inputs := by
  induction inputs generalizing start with
  | nil => trivial
  | cons input inputs ih => exact ⟨⟨every 0, every 1⟩, ih fun count => every (count + 1)⟩

/-- What every turn of the run brings about holds in each of its later states. -/
theorem prefixes_of_permitted {step : State → Input → State} {holds : State → Prop} {start : State} {inputs : List Input}
    (permitted : Permitted step (fun state input => holds (step state input)) start inputs) (initial : holds start)
    (count : Nat) : holds (run step start (inputs.take count)) := by
  rw [← List.take_append_drop count inputs] at permitted
  exact run_invariant_of_permitted holds (fun _ _ brought _ => brought) (permitted_parts permitted).1 initial

/-! What a state means, where it does not say so itself. -/

section
variable {Meaning : Type v} {step : State → Input → State} {holds : State → Meaning → Prop}
  {moves : State → Input → Meaning → Meaning → Prop}

/-- Every state of the run has a meaning, and each input moves it as it may. -/
def Shadowed (step : State → Input → State) (holds : State → Meaning → Prop)
    (moves : State → Input → Meaning → Meaning → Prop) : State → Meaning → List Input → Prop
  | state, meaning, [] => holds state meaning
  | state, meaning, input :: inputs => holds state meaning ∧
      ∃ next, moves state input meaning next ∧ Shadowed step holds moves (step state input) next inputs

theorem shadowed_of_permitted {permits : State → Input → Prop}
    (steps : ∀ state input meaning, permits state input → holds state meaning →
      ∃ next, moves state input meaning next ∧ holds (step state input) next)
    {start : State} {meaning : Meaning} {inputs : List Input} (permitted : Permitted step permits start inputs)
    (initial : holds start meaning) : Shadowed step holds moves start meaning inputs := by
  induction inputs generalizing start meaning with
  | nil => exact initial
  | cons input inputs ih =>
    obtain ⟨next, moved, held⟩ := steps start input meaning permitted.1 initial
    exact ⟨initial, next, moved, ih permitted.2 held⟩

theorem Shadowed.mono {wider : State → Meaning → Prop} {looser : State → Input → Meaning → Meaning → Prop} {start : State}
    {meaning : Meaning} {inputs : List Input} (shadowed : Shadowed step holds moves start meaning inputs)
    (implies : ∀ state meaning, holds state meaning → wider state meaning)
    (loosens : ∀ state input meaning next, holds state meaning → moves state input meaning next →
      looser state input meaning next) : Shadowed step wider looser start meaning inputs := by
  induction inputs generalizing start meaning with
  | nil => exact implies _ _ shadowed
  | cons input inputs ih =>
    obtain ⟨held, next, moved, rest⟩ := shadowed
    exact ⟨implies _ _ held, next, loosens _ _ _ _ held moved, ih rest⟩

end

/-! What an input sets once and for all. -/

/-- It happens at this input, and at none of those before. -/
def First (step : State → Input → State) (happens : State → Input → Prop) (start : State) (before : List Input)
    (input : Input) : Prop :=
  Permitted step (fun state input => ¬happens state input) start before ∧ happens (run step start before) input

section
variable {step : State → Input → State} {happens : State → Input → Prop} {invariant latched : State → Prop}
  (keeps : ∀ state input, invariant state → invariant (step state input))
  (latches : ∀ state input, invariant state → (latched (step state input) ↔ latched state ∨ happens state input))
include keeps latches

theorem latched_run {start : State} (initial : invariant start) (already : latched start) (inputs : List Input) :
    latched (run step start inputs) := by
  induction inputs generalizing start with
  | nil => exact already
  | cons input inputs ih => exact ih (keeps start input initial) ((latches start input initial).mpr (.inl already))

/-- It is not set as long as nothing has set it. -/
theorem unlatched_iff {start : State} (initial : invariant start) (unlatched : ¬latched start) (inputs : List Input) :
    ¬latched (run step start inputs) ↔ Permitted step (fun state input => ¬happens state input) start inputs := by
  induction inputs generalizing start with
  | nil => exact iff_of_true unlatched trivial
  | cons input inputs ih =>
    have later := keeps start input initial
    have set := latches start input initial
    by_cases here : happens start input
    · have latched := latched_run keeps latches later (set.mpr (.inr here)) inputs
      exact iff_of_false (fun never => never latched) (fun never => never.1 here)
    · have still : ¬latched (step start input) := fun already => (set.mp already).elim unlatched here
      exact (ih later still).trans ⟨fun rest => ⟨here, rest⟩, fun rest => rest.2⟩

theorem latches_first {start : State} (initial : invariant start) (unlatched : ¬latched start) (before : List Input)
    (input : Input) :
    ¬latched (run step start before) ∧ latched (run step start (before ++ [input])) ↔
      First step happens start before input := by
  have sofar := unlatched_iff keeps latches initial unlatched before
  have set := latches (run step start before) input (run_invariant invariant keeps before initial)
  rw [run_append, run_cons, run_nil, set, sofar]
  constructor
  · intro ⟨never, now⟩
    exact ⟨never, now.resolve_left (sofar.mpr never)⟩
  · intro ⟨never, now⟩
    exact ⟨never, .inr now⟩

end

/-! Machines that are never out of inputs. -/

/-- The state after so many steps. -/
def after (step : State → Input → State) (start : State) (inputs : Nat → Input) : Nat → State
  | 0 => start
  | n + 1 => after step (step start (inputs 0)) (fun later => inputs (later + 1)) n

theorem after_succ (step : State → Input → State) (start : State) (inputs : Nat → Input) (n : Nat) :
    after step start inputs (n + 1) = step (after step start inputs n) (inputs n) := by
  induction n generalizing start inputs with
  | zero => rfl
  | succ n ih => exact ih (step start (inputs 0)) fun later => inputs (later + 1)

/-- A state no input changes is the last one. -/
theorem after_settled {step : State → Input → State} {start : State} {inputs : Nat → Input} {n : Nat}
    (settled : ∀ input, step (after step start inputs n) input = after step start inputs n) {m : Nat} (later : n ≤ m) :
    after step start inputs m = after step start inputs n := by
  induction later with
  | refl => rfl
  | step _ ih => rw [after_succ, ih, settled]

/-- Whatever the inputs are, a state of this kind comes. -/
def Reaches (step : State → Input → State) (goal : State → Prop) (start : State) : Prop :=
  ∀ inputs : Nat → Input, ∃ n, goal (after step start inputs n)

theorem reaches_here {step : State → Input → State} {goal : State → Prop} {start : State} (here : goal start) :
    Reaches step goal start := fun _ => ⟨0, here⟩

theorem reaches_step {step : State → Input → State} {goal : State → Prop} {start next : State}
    (moves : ∀ input, step start input = next) (later : Reaches step goal next) : Reaches step goal start := by
  intro inputs
  obtain ⟨n, reached⟩ := later fun later => inputs (later + 1)
  exact ⟨n + 1, by rw [after, moves]; exact reached⟩

end DfStudy.Support.Machine
