import DfStudy.Support.Machine

/-! Fair schedules. Jobs come up while a machine runs. If none of them stays pending for ever without being served, and
serving or dropping one brings a measure down that nothing raises, then the machine comes to a state where it has none left. -/

namespace DfStudy.Support.Fairness
open Machine

universe u v w

variable {State : Type u} {Input : Type v} {Job : Type w} {step : State → Input → State} {start : State}
  {inputs : Nat → Input} {pending : State → Job → Prop} {serves : Input → Job → Prop}

/-- Every pending job is served, or is not pending any more, now or later. -/
def Fair (step : State → Input → State) (start : State) (inputs : Nat → Input) (pending : State → Job → Prop)
    (serves : Input → Job → Prop) : Prop :=
  ∀ n job, pending (after step start inputs n) job →
    ∃ m ≥ n, serves (inputs m) job ∨ ¬pending (after step start inputs m) job

theorem after_invariant {invariant : State → Prop} (keeps : ∀ state input, invariant state → invariant (step state input))
    {n : Nat} (here : invariant (after step start inputs n)) {m : Nat} (later : n ≤ m) :
    invariant (after step start inputs m) := by
  induction later with
  | refl => exact here
  | step _ ih =>
    rw [after_succ]
    exact keeps _ _ ih

/-- The last moment at which the job is pending: there it is served, or the next state does without it. -/
theorem settled_at (fair : Fair step start inputs pending serves) {n : Nat} {job : Job}
    (waits : pending (after step start inputs n) job) : ∃ m ≥ n, pending (after step start inputs m) job ∧
      (serves (inputs m) job ∨ ¬pending (after step start inputs (m + 1)) job) := by
  obtain ⟨m, later, settled⟩ := fair n job waits
  obtain ⟨distance, rfl⟩ := Nat.exists_eq_add_of_le later
  induction distance generalizing n with
  | zero =>
    rcases settled with served | gone
    · exact ⟨n, Nat.le_refl n, waits, .inl served⟩
    · exact absurd waits gone
  | succ distance ih =>
    by_cases still : pending (after step start inputs (n + 1)) job
    · have same : n + (distance + 1) = n + 1 + distance := by omega
      rw [same] at settled
      obtain ⟨m, after, rest⟩ := ih still (Nat.le_add_right _ _) settled
      exact ⟨m, by omega, rest⟩
    · exact ⟨n, Nat.le_refl n, waits, .inr still⟩

theorem reached_of_fair {invariant goal : State → Prop} {measure : State → Nat}
    (keeps : ∀ state input, invariant state → invariant (step state input))
    (busy : ∀ state, invariant state → goal state ∨ ∃ job, pending state job)
    (monotone : ∀ state input, invariant state → measure (step state input) ≤ measure state)
    (falls : ∀ state input job, invariant state → pending state job →
      serves input job ∨ ¬pending (step state input) job → measure (step state input) < measure state)
    (fair : Fair step start inputs pending serves) {n : Nat} (here : invariant (after step start inputs n)) :
    ∃ m ≥ n, goal (after step start inputs m) := by
  generalize size : measure (after step start inputs n) = bound
  induction bound using Nat.strongRecOn generalizing n with
  | ind bound ih =>
    rcases busy _ here with done | ⟨job, waits⟩
    · exact ⟨n, Nat.le_refl n, done⟩
    · obtain ⟨m, later, still, settled⟩ := settled_at fair waits
      have there := after_invariant keeps here later
      have lower : measure (after step start inputs m) ≤ measure (after step start inputs n) :=
        (@after_invariant _ _ step start inputs
          (fun state => invariant state ∧ measure state ≤ measure (after step start inputs n))
          (fun state input held => ⟨keeps _ _ held.1, Nat.le_trans (monotone _ _ held.1) held.2⟩) n ⟨here, Nat.le_refl _⟩ m later).2
      have less : measure (after step start inputs (m + 1)) < measure (after step start inputs m) := by
        rw [after_succ] at settled ⊢
        exact falls _ _ _ there still settled
      obtain ⟨k, beyond, reached⟩ := ih _ (by omega) (after_invariant keeps there (Nat.le_add_right m 1)) rfl
      exact ⟨k, by omega, reached⟩

end DfStudy.Support.Fairness
