import Mathlib.Data.List.Basic

/-! Guards that may throw, joined by `&&`: the first that is not true decides. What is made of the items of a list, when
making one of them may throw. -/

namespace DfStudy.Support.Guards

variable {ε α β : Type}

theorem of_bind_ok {first : Except ε α} {next : α → Except ε β} {result : β} (done : first.bind next = .ok result) :
    ∃ value, first = .ok value ∧ next value = .ok result := by
  cases first with
  | ok value => exact ⟨value, rfl, done⟩
  | error error => cases done

def conj : List (Except ε Bool) → Except ε Bool
  | [] => .ok true
  | .ok true :: guards => conj guards
  | .ok false :: _ => .ok false
  | .error error :: _ => .error error

/-- `items.every(test)`. -/
def every (test : α → Except ε Bool) (items : List α) : Except ε Bool := conj (items.map test)

theorem conj_true {guards : List (Except ε Bool)} : conj guards = .ok true ↔ ∀ guard ∈ guards, guard = .ok true := by
  induction guards with
  | nil => simp [conj]
  | cons guard guards ih =>
    cases guard with
    | error error => simp [conj]
    | ok value => cases value <;> simp [conj, ih]

/-- What throws is a guard that all guards before it have let through. -/
theorem conj_error {guards : List (Except ε Bool)} {error : ε} :
    conj guards = .error error ↔
      ∃ before after, guards = before ++ .error error :: after ∧ ∀ guard ∈ before, guard = .ok true := by
  constructor
  · intro thrown
    induction guards with
    | nil => cases thrown
    | cons guard guards ih =>
      cases guard with
      | error first =>
        cases thrown
        exact ⟨[], guards, rfl, by simp⟩
      | ok value =>
        cases value with
        | false => cases thrown
        | true =>
          obtain ⟨before, after, split, passed⟩ := ih thrown
          refine ⟨.ok true :: before, after, by rw [split]; rfl, ?_⟩
          simpa using passed
  · rintro ⟨before, after, rfl, passed⟩
    induction before with
    | nil => rfl
    | cons guard before ih =>
      rw [passed guard List.mem_cons_self]
      exact ih fun later member => passed later (List.mem_cons_of_mem _ member)

theorem conj_returns {guards : List (Except ε Bool)} (returns : ∀ guard ∈ guards, ∃ value, guard = .ok value) :
    ∃ value, conj guards = .ok value := by
  cases joined : conj guards with
  | ok value => exact ⟨value, rfl⟩
  | error error =>
    obtain ⟨before, after, split, _⟩ := conj_error.mp joined
    obtain ⟨value, same⟩ := returns (.error error) (by rw [split]; simp)
    cases same

theorem every_true {test : α → Except ε Bool} {items : List α} :
    every test items = .ok true ↔ ∀ item ∈ items, test item = .ok true := by
  unfold every
  rw [conj_true, List.forall_mem_map]

theorem every_returns {test : α → Except ε Bool} {items : List α}
    (returns : ∀ item ∈ items, ∃ value, test item = .ok value) : ∃ value, every test items = .ok value :=
  conj_returns (List.forall_mem_map.mpr returns)

theorem every_error {test : α → Except ε Bool} {items : List α} {error : ε} :
    every test items = .error error ↔ ∃ before item after, items = before ++ item :: after ∧
      test item = .error error ∧ ∀ earlier ∈ before, test earlier = .ok true := by
  unfold every
  rw [conj_error]
  constructor
  · rintro ⟨before, after, split, passed⟩
    obtain ⟨first, rest, rfl, rfl, tail⟩ := List.map_eq_append_iff.mp split
    obtain ⟨item, last, rfl, thrown, _⟩ := List.map_eq_cons_iff.mp tail
    exact ⟨first, item, last, rfl, thrown, List.forall_mem_map.mp passed⟩
  · rintro ⟨before, item, after, rfl, thrown, passed⟩
    refine ⟨before.map test, after.map test, ?_, List.forall_mem_map.mpr passed⟩
    rw [List.map_append, List.map_cons, thrown]

/-! `items.map(make)`, where `make` may throw. -/

variable {make : α → Except ε β} {items : List α}

theorem mapM_map {result : α → β} (returns : ∀ item ∈ items, make item = .ok (result item)) :
    items.mapM make = .ok (items.map result) := by
  induction items with
  | nil => rfl
  | cons item items ih =>
    have rest := ih fun later member => returns later (List.mem_cons_of_mem _ member)
    rw [List.mapM_cons, returns item List.mem_cons_self, rest]
    rfl

theorem mapM_returns {results : List β} (returned : items.mapM make = .ok results) :
    ∀ item ∈ items, ∃ result, make item = .ok result := by
  induction items generalizing results with
  | nil => simp
  | cons item items ih =>
    rw [List.mapM_cons] at returned
    cases first : make item with
    | error error =>
      rw [first] at returned
      cases returned
    | ok result =>
      cases rest : items.mapM make with
      | error error =>
        rw [first, rest] at returned
        cases returned
      | ok results => exact List.forall_mem_cons.mpr ⟨⟨result, first⟩, ih rest⟩

end DfStudy.Support.Guards
