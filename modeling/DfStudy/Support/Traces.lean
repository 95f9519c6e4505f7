import DfStudy.Support.Futures

/-! What a future does against a world that answers each operation by what has been performed before it. Some operations
halt: they never come back, and nothing above them is told. -/

namespace DfStudy.Support.Futures

variable {Op : Type} {Res : Op → Type} {Err α β : Type}

/-- `fork(rejected)(resolved)`. -/
def Future.fork (rejected : Err → Future Op Res Err β) (resolved : α → Future Op Res Err β) :
    Future Op Res Err α → Future Op Res Err β
  | .resolve value => resolved value
  | .reject error => rejected error
  | .step op next => .step op fun answer => (next answer).fork rejected resolved

section
variable (halts : Op → Bool) (world : List Op → (op : Op) → Except Err (Res op))

/-- All operations that have been performed when the future is done, `past` included. -/
def trace : Future Op Res Err α → List Op → List Op
  | .resolve _, past => past
  | .reject _, past => past
  | .step op next, past =>
    if halts op then past ++ [op] else trace (next (world past op)) (past ++ [op])

/-- What a future that does not halt comes to. -/
def settled : Future Op Res Err α → List Op → Except Err α
  | .resolve value, _ => .ok value
  | .reject error, _ => .error error
  | .step op next, past => settled (next (world past op)) (past ++ [op])

end

section
variable {halts : Op → Bool} {world : List Op → (op : Op) → Except Err (Res op)} {allowed : Op → Prop}

theorem trace_step {op : Op} (goes : halts op = false) {next : Except Err (Res op) → Future Op Res Err α}
    {past : List Op} :
    trace halts world (.step op next) past = trace halts world (next (world past op)) (past ++ [op]) := by
  rw [trace, goes]
  rfl

theorem trace_call (op : Op) (past : List Op) :
    trace halts world (Future.call op : Future Op Res Err (Res op)) past = past ++ [op] := by
  unfold Future.call trace
  split
  next => rfl
  next => cases world past op <;> rfl

/-- Only allowed operations come to those that have been performed. -/
theorem mem_trace {future : Future Op Res Err α} (within : Within allowed future) {past : List Op} {op : Op}
    (member : op ∈ trace halts world future past) : op ∈ past ∨ allowed op := by
  induction future generalizing past with
  | resolve value => exact .inl member
  | reject error => exact .inl member
  | step first next ih =>
    have added : op ∈ past ++ [first] → op ∈ past ∨ allowed op := fun either => by
      rcases List.mem_append.mp either with before | here
      · exact .inl before
      · rw [List.mem_singleton.mp here]
        exact .inr within.1
    unfold trace at member
    split at member
    next => exact added member
    next =>
      rcases ih _ (within.2 _) member with earlier | later
      · exact added earlier
      · exact .inr later

/-- A future without operations that halt is performed to its end, and then the one of its callbacks it has come to. -/
theorem trace_fork {rejected : Err → Future Op Res Err β} {resolved : α → Future Op Res Err β}
    {future : Future Op Res Err α} (within : Within (fun op => halts op = false) future) (past : List Op) :
    trace halts world (future.fork rejected resolved) past =
      match settled world future past with
      | .ok value => trace halts world (resolved value) (trace halts world future past)
      | .error error => trace halts world (rejected error) (trace halts world future past) := by
  induction future generalizing past with
  | resolve value => rfl
  | reject error => rfl
  | step op next ih =>
    have goes : halts op = false := within.1
    rw [trace_step goes, Future.fork, trace_step goes, settled]
    exact ih _ (within.2 _) _

/-! The values a future resolves to. -/

def Yields (good : α → Prop) : Future Op Res Err α → Prop
  | .resolve value => good value
  | .reject _ => True
  | .step _ next => ∀ answer, Yields good (next answer)

theorem Yields.map {good : β → Prop} {f : α → β} (all : ∀ value, good (f value)) (future : Future Op Res Err α) :
    Yields good (future.map f) := by
  induction future with
  | resolve value => exact all value
  | reject error => trivial
  | step op next ih => exact ih

theorem Yields.mapRej {good : α → Prop} {future : Future Op Res Err α} (yields : Yields good future) (f : Err → Err) :
    Yields good (future.mapRej f) := by
  induction future with
  | resolve value => exact yields
  | reject error => trivial
  | step op next ih => exact fun answer => ih answer (yields answer)

theorem Within.chain_yields {good : α → Prop} {future : Future Op Res Err α} {f : α → Future Op Res Err β}
    (within : Within allowed future) (yields : Yields good future)
    (rest : ∀ value, good value → Within allowed (f value)) : Within allowed (future.chain f) := by
  induction future with
  | resolve value => exact rest value yields
  | reject error => trivial
  | step op next ih => exact ⟨within.1, fun answer => ih answer (within.2 answer) (yields answer)⟩

end

end DfStudy.Support.Futures
