import Mathlib.Data.List.Nodup
import Mathlib.Data.List.Basic

/-! A walk over a list by index, up to the length the list had at its start, while the list changes. -/

namespace DfStudy.Support.IndexWalk

universe u v

variable {α : Type u} {κ : Type v}

/-- What a walk has still to visit that is to look at the places from `next` up to `len`. -/
def ahead (next len : Nat) (items : List α) : List α := (items.drop next).take (len - next)

theorem ahead_start (items : List α) : ahead 0 items.length items = items := List.take_length

theorem mem_of_ahead {next len : Nat} {items : List α} {item : α} (member : item ∈ ahead next len items) : item ∈ items :=
  List.mem_of_mem_drop (List.mem_of_mem_take member)

theorem ahead_done {next len : Nat} {items : List α} (done : len ≤ next ∨ items.length ≤ next) :
    ahead next len items = [] := by
  unfold ahead
  cases done with
  | inl last => rw [Nat.sub_eq_zero_of_le last, List.take_zero]
  | inr short => rw [List.drop_eq_nil_of_le short, List.take_nil]

theorem ahead_cons {next len : Nat} {items : List α} {item : α} (below : next < len) (here : items[next]? = some item) :
    ahead next len items = item :: ahead (next + 1) len items := by
  obtain ⟨inside, rfl⟩ := List.getElem?_eq_some_iff.mp here
  unfold ahead
  rw [List.drop_eq_getElem_cons inside, show len - next = len - (next + 1) + 1 by omega, List.take_succ_cons]

/-- An item at the end is not visited by a walk that has not lost a place, or that is past the end. -/
theorem ahead_append {next len : Nat} {items : List α} (settled : len ≤ items.length ∨ items.length < next) (item : α) :
    ahead next len (items ++ [item]) = ahead next len items := by
  cases settled with
  | inl whole =>
    unfold ahead
    by_cases inside : next ≤ items.length
    · rw [List.drop_append_of_le_length inside, List.take_append_of_le_length (by rw [List.length_drop]; omega)]
    · rw [show len - next = 0 by omega, List.take_zero, List.take_zero]
  | inr past =>
    rw [ahead_done (.inr (by rw [List.length_append, List.length_singleton]; omega)), ahead_done (.inr (by omega))]

section
variable [DecidableEq κ] {key : α → κ}

/-- Without the item at this place, where keys are unique. -/
def without (key : α → κ) (removed : α) (items : List α) : List α := items.filter fun item => key item ≠ key removed

theorem without_absent {removed : α} {items : List α} (absent : ∀ item ∈ items, key item ≠ key removed) :
    without key removed items = items :=
  List.filter_eq_self.mpr fun item member => decide_eq_true (absent item member)

theorem without_here {removed : α} {before after : List α} (unique : ((before ++ removed :: after).map key).Nodup) :
    without key removed (before ++ removed :: after) = before ++ after := by
  rw [List.map_append, List.map_cons, List.nodup_append] at unique
  obtain ⟨_, later, apart⟩ := unique
  have earlier : ∀ item ∈ before, key item ≠ key removed := fun item member =>
    apart _ (List.mem_map_of_mem member) _ List.mem_cons_self
  have rest : ∀ item ∈ after, key item ≠ key removed := fun item member same =>
    (List.nodup_cons.mp later).1 (same ▸ List.mem_map_of_mem member)
  unfold without at *
  rw [List.filter_append, List.filter_cons_of_neg (by simp)]
  exact congr (congrArg _ (without_absent earlier)) (without_absent rest)

/-- What a walk must be like for the removal of the item at place `i` not to change which others it visits. -/
def Bears (next len length i : Nat) : Prop :=
  (i < next → len ≤ next ∨ length ≤ next) ∧ (next ≤ i → len ≤ i ∨ length ≤ len)

instance (next len length i : Nat) : Decidable (Bears next len length i) := by
  unfold Bears
  infer_instance

theorem ahead_without {next len : Nat} {before after : List α} {removed : α}
    (unique : ((before ++ removed :: after).map key).Nodup)
    (bears : Bears next len (before ++ removed :: after).length before.length) :
    ahead next len (without key removed (before ++ removed :: after)) =
      without key removed (ahead next len (before ++ removed :: after)) := by
  have shorter := without_here unique
  have earlier : without key removed before = before := by
    rw [List.map_append, List.map_cons, List.nodup_append] at unique
    exact without_absent fun item member => unique.2.2 _ (List.mem_map_of_mem member) _ List.mem_cons_self
  by_cases visited : before.length < next
  · have done := bears.1 visited
    have short : len ≤ next ∨ (before ++ after).length ≤ next := by
      simp only [List.length_append, List.length_cons] at done ⊢
      omega
    rw [shorter, ahead_done short, ahead_done done]
    rfl
  · have inside : next ≤ before.length := by omega
    have unvisited : ((before.drop next ++ removed :: after).map key).Nodup := by
      rw [← List.drop_append_of_le_length inside]
      exact unique.sublist ((List.drop_sublist _ _).map key)
    rw [shorter]
    unfold ahead
    rw [List.drop_append_of_le_length inside, List.drop_append_of_le_length inside]
    cases bears.2 inside with
    | inl below =>
      have front : len - next ≤ (before.drop next).length := by rw [List.length_drop]; omega
      rw [List.take_append_of_le_length front, List.take_append_of_le_length front]
      refine (without_absent fun item member => ?_).symm
      have member : item ∈ before := List.mem_of_mem_drop (List.mem_of_mem_take member)
      exact of_decide_eq_true (List.filter_eq_self.mp earlier item member)
    | inr all =>
      simp only [List.length_append, List.length_cons] at all
      rw [List.take_of_length_le (by simp; omega), List.take_of_length_le (by simp; omega), without_here unvisited]

end

end DfStudy.Support.IndexWalk
