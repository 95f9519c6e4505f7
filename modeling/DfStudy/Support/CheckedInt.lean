import Mathlib.Data.List.Basic
import Mathlib.Data.List.Range
import Mathlib.Algebra.Ring.Int.Defs

/-! Signed arithmetic of a fixed width in which a result that does not fit is a fault, as is a division by zero. -/

namespace DfStudy.Support.CheckedInt

universe u v

variable {Fault : Type u} {α β : Type v}

/-- The values of the signed type of this width. -/
def InRange (width : Nat) (value : Int) : Prop := -2 ^ (width - 1) ≤ value ∧ value < 2 ^ (width - 1)

instance (width : Nat) (value : Int) : Decidable (InRange width value) := by
  unfold InRange
  infer_instance

section
variable (width : Nat) (fault : Fault)

def checked (value : Int) : Except Fault Int := if InRange width value then .ok value else .error fault

def add (a b : Int) : Except Fault Int := checked width fault (a + b)

def sub (a b : Int) : Except Fault Int := checked width fault (a - b)

def mul (a b : Int) : Except Fault Int := checked width fault (a * b)

/-- Division rounds towards zero. -/
def div (a b : Int) : Except Fault Int := if b = 0 then .error fault else checked width fault (a.tdiv b)

end

section
variable {width : Nat} {fault : Fault}

theorem checked_ok {value : Int} (inside : InRange width value) : checked width fault value = .ok value := if_pos inside

theorem checked_error {value : Int} (outside : ¬InRange width value) : checked width fault value = .error fault :=
  if_neg outside

theorem div_zero (a : Int) : div width fault a 0 = .error fault := if_pos rfl

theorem div_ok {a b : Int} (some : b ≠ 0) (inside : InRange width (a.tdiv b)) : div width fault a b = .ok (a.tdiv b) :=
  (if_neg some).trans (checked_ok inside)

/-- A quotient is no larger than what is divided. -/
theorem tdiv_inRange {a b : Int} (inside : InRange width a) (negated : InRange width (-a)) : InRange width (a.tdiv b) := by
  have small := Int.natAbs_tdiv_le_natAbs a b
  unfold InRange at *
  omega

end

/-! A computation whose first step is known. -/

theorem ok_ne_error {value : α} {fault : Fault} : Except.ok value ≠ .error fault := fun equal => by cases equal

theorem bind_ok {first : Except Fault α} {value : α} (done : first = .ok value) (rest : α → Except Fault β) :
    (first >>= rest) = rest value := by
  rw [done]
  rfl

theorem bind_error {first : Except Fault α} {fault : Fault} (failed : first = .error fault) (rest : α → Except Fault β) :
    (first >>= rest) = .error fault := by
  rw [failed]
  rfl

/-! Loops. -/

theorem forM_ok {pass : Nat → Except Fault Unit} {items : List Nat} (passes : ∀ item ∈ items, pass item = .ok ()) :
    items.forM pass = .ok () := by
  induction items with
  | nil => rfl
  | cons item items ih =>
    change (pass item >>= fun _ => items.forM pass) = _
    rw [passes item List.mem_cons_self]
    exact ih fun later member => passes later (List.mem_cons_of_mem _ member)

/-- A loop whose passes either go on as planned or fail in the same way goes on to its end, or fails in this way. -/
theorem foldlM_guarded {step : α → Nat → Except Fault α} {state : Nat → α} {guard : Nat → Prop} [DecidablePred guard]
    {fault : Fault} (count : Nat)
    (passes : ∀ i < count, step (state i) i = if guard i then .ok (state (i + 1)) else .error fault) :
    (List.range count).foldlM step (state 0) = if ∀ i < count, guard i then .ok (state count) else .error fault := by
  induction count with
  | zero =>
    rw [if_pos fun i none => absurd none (Nat.not_lt_zero i)]
    rfl
  | succ count ih =>
    rw [List.range_succ, List.foldlM_append, ih fun i earlier => passes i (Nat.lt_succ_of_lt earlier)]
    by_cases before : ∀ i < count, guard i
    · have last : [count].foldlM step (state count) =
          if guard count then .ok (state (count + 1)) else .error fault := by
        rw [← passes count (Nat.lt_succ_self count), List.foldlM_cons]
        exact bind_pure _
      rw [if_pos before]
      change [count].foldlM step (state count) = _
      rw [last]
      by_cases here : guard count
      · have all : ∀ i < count + 1, guard i := fun i earlier => by
          rcases Nat.lt_succ_iff_lt_or_eq.mp earlier with first | rfl
          · exact before i first
          · exact here
        rw [if_pos here, if_pos all]
      · rw [if_neg here, if_neg fun all => here (all count (Nat.lt_succ_self count))]
    · rw [if_neg before, if_neg fun all => before fun i earlier => all i (Nat.lt_succ_of_lt earlier)]
      rfl

end DfStudy.Support.CheckedInt
