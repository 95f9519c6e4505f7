import DfStudy.Support.Futures

/-! Futures whose operations carry a label, and the same futures without it. Forgetting the labels commutes with every
way to compose futures. -/

namespace DfStudy.Support.Labels
open Futures Future

variable {Op : Type} {Res : Op → Type} {Err α β Label : Type}

abbrev Labelled (Res : Op → Type) (Err Label α : Type) := Future (Op × Label) (fun call => Res call.1) Err α

def unlabel : Labelled Res Err Label α → Future Op Res Err α
  | .resolve value => .resolve value
  | .reject error => .reject error
  | .step call next => .step call.1 fun answer => unlabel (next answer)

/-- Every operation has the same label. -/
def label (mark : Label) : Future Op Res Err α → Labelled Res Err Label α
  | .resolve value => .resolve value
  | .reject error => .reject error
  | .step op next => .step (op, mark) fun answer => label mark (next answer)

@[simp] theorem unlabel_label (mark : Label) (future : Future Op Res Err α) : unlabel (label mark future) = future := by
  induction future with
  | resolve value => rfl
  | reject error => rfl
  | step op next ih => exact congrArg _ (funext ih)

@[simp] theorem unlabel_chain (future : Labelled Res Err Label α) (f : α → Labelled Res Err Label β) :
    unlabel (future.chain f) = (unlabel future).chain fun value => unlabel (f value) := by
  induction future with
  | resolve value => rfl
  | reject error => rfl
  | step call next ih => exact congrArg _ (funext ih)

@[simp] theorem unlabel_chainRej (future : Labelled Res Err Label α) (f : Err → Labelled Res Err Label α) :
    unlabel (future.chainRej f) = (unlabel future).chainRej fun error => unlabel (f error) := by
  induction future with
  | resolve value => rfl
  | reject error => rfl
  | step call next ih => exact congrArg _ (funext ih)

@[simp] theorem unlabel_map (future : Labelled Res Err Label α) (f : α → β) :
    unlabel (future.map f) = (unlabel future).map f := unlabel_chain future _

@[simp] theorem unlabel_mapRej (future : Labelled Res Err Label α) (f : Err → Err) :
    unlabel (future.mapRej f) = (unlabel future).mapRej f := unlabel_chainRej future _

@[simp] theorem unlabel_coalesce (future : Labelled Res Err Label α) : unlabel future.coalesce = (unlabel future).coalesce := by
  unfold coalesce
  rw [unlabel_chainRej, unlabel_map]
  rfl

@[simp] theorem unlabel_call (op : Op) (mark : Label) :
    unlabel (call (op, mark) : Labelled Res Err Label (Res op)) = call op := by
  refine congrArg _ (funext fun answer => ?_)
  cases answer <;> rfl

@[simp] theorem unlabel_parallel (futures : List (Labelled Res Err Label α)) :
    unlabel (parallel futures) = parallel (futures.map unlabel) := by
  induction futures with
  | nil => rfl
  | cons future futures ih => simp [parallel, ih]

theorem requires_label {needed : Op} (mark : Label) {future : Future Op Res Err α} (requires : Requires needed future) :
    Requires (needed, mark) (label mark future) := by
  induction future with
  | resolve value => cases requires
  | reject error => trivial
  | step op next ih =>
    rcases requires with ⟨rfl, failing⟩ | always
    · exact .inl ⟨rfl, fun error => ih _ (failing error)⟩
    · exact .inr fun answer => ih answer (always answer)

end DfStudy.Support.Labels
