import Mathlib.Data.List.Basic

/-! Lazy futures. A future is the list of its atomic operations with what it does on each answer. It is
run alone against a state, or one operation at a time beside others. `Follows` types a future by a
protocol: at every operation the protocol's own record of the past permits it. -/

namespace DfStudy.Support.Futures

inductive Future (Op : Type) (Res : Op → Type) (Err α : Type) where
  | resolve (value : α)
  | reject (error : Err)
  | step (op : Op) (next : Except Err (Res op) → Future Op Res Err α)

variable {Op : Type} {Res : Op → Type} {Err α β σ : Type}

namespace Future

def call (op : Op) : Future Op Res Err (Res op) :=
  .step op fun answer =>
    match answer with
    | .ok value => .resolve value
    | .error error => .reject error

def ofExcept : Except Err α → Future Op Res Err α
  | .ok value => .resolve value
  | .error error => .reject error

def chain : Future Op Res Err α → (α → Future Op Res Err β) → Future Op Res Err β
  | .resolve value, f => f value
  | .reject error, _ => .reject error
  | .step op next, f => .step op fun answer => (next answer).chain f

def chainRej : Future Op Res Err α → (Err → Future Op Res Err α) → Future Op Res Err α
  | .resolve value, _ => .resolve value
  | .reject error, f => f error
  | .step op next, f => .step op fun answer => (next answer).chainRej f

def map (future : Future Op Res Err α) (f : α → β) : Future Op Res Err β :=
  future.chain fun value => .resolve (f value)

def mapRej (future : Future Op Res Err α) (f : Err → Err) : Future Op Res Err α :=
  future.chainRej fun error => .reject (f error)

/-- `coalesce(Left)(Right)`: it never rejects. -/
def coalesce (future : Future Op Res Err α) : Future Op Res Err (Except Err α) :=
  (future.map .ok).chainRej fun error => .resolve (.error error)

/-- `parallel(1)`: one after the other, up to the first rejection. -/
def parallel : List (Future Op Res Err α) → Future Op Res Err (List α)
  | [] => .resolve []
  | future :: futures => future.chain fun value => (parallel futures).map (value :: ·)

/-- Whether a future has been settled. -/
def Settled : Future Op Res Err α → Prop
  | .step _ _ => False
  | _ => True

/-! Running a future to its end. -/

def run (perform : (op : Op) → σ → Except Err (Res op) × σ) : Future Op Res Err α → σ → Except Err α × σ
  | .resolve value, state => (.ok value, state)
  | .reject error, state => (.error error, state)
  | .step op next, state => (next (perform op state).1).run perform (perform op state).2

/-- One operation of a future. A settled future has none left. -/
def advance (perform : (op : Op) → σ → Except Err (Res op) × σ) (state : σ) :
    Future Op Res Err α → Future Op Res Err α × σ
  | .step op next => (next (perform op state).1, (perform op state).2)
  | future => (future, state)

section
variable (perform : (op : Op) → σ → Except Err (Res op) × σ)

theorem run_chain (future : Future Op Res Err α) (f : α → Future Op Res Err β) (state : σ) :
    (future.chain f).run perform state =
      match future.run perform state with
      | (.ok value, state) => (f value).run perform state
      | (.error error, state) => (.error error, state) := by
  induction future generalizing state with
  | resolve value => rfl
  | reject error => rfl
  | step op next ih => exact ih _ _

theorem run_chainRej (future : Future Op Res Err α) (f : Err → Future Op Res Err α) (state : σ) :
    (future.chainRej f).run perform state =
      match future.run perform state with
      | (.ok value, state) => (.ok value, state)
      | (.error error, state) => (f error).run perform state := by
  induction future generalizing state with
  | resolve value => rfl
  | reject error => rfl
  | step op next ih => exact ih _ _

theorem run_chain_ok {future : Future Op Res Err α} {f : α → Future Op Res Err β} {state after : σ} {value : α}
    (ran : future.run perform state = (.ok value, after)) :
    (future.chain f).run perform state = (f value).run perform after := by
  rw [run_chain, ran]

theorem run_call (op : Op) (state : σ) :
    (call op : Future Op Res Err (Res op)).run perform state = perform op state := by
  unfold call
  rw [run]
  cases answer : perform op state with
  | mk result after => cases result <;> rfl

theorem run_map (future : Future Op Res Err α) (f : α → β) (state : σ) :
    (future.map f).run perform state =
      ((future.run perform state).1.map f, (future.run perform state).2) := by
  unfold map
  rw [run_chain]
  cases future.run perform state with
  | mk result after => cases result <;> rfl

theorem run_coalesce (future : Future Op Res Err α) (state : σ) :
    future.coalesce.run perform state =
      (.ok (future.run perform state).1, (future.run perform state).2) := by
  unfold coalesce
  rw [run_chainRej, run_map]
  cases future.run perform state with
  | mk result after => cases result <;> rfl

theorem run_parallel_cons (future : Future Op Res Err α) (futures : List (Future Op Res Err α)) (state : σ) :
    (parallel (future :: futures)).run perform state =
      match future.run perform state with
      | (.ok value, state) =>
        (((parallel futures).run perform state).1.map (value :: ·), ((parallel futures).run perform state).2)
      | (.error error, state) => (.error error, state) := by
  rw [parallel, run_chain]
  cases future.run perform state with
  | mk result after =>
    cases result with
    | ok value => exact run_map perform _ _ _
    | error error => rfl

/-- Of a run against more state one sees the run against a part of it, if the operations do. -/
theorem run_part {τ : Type} {part : (op : Op) → τ → Except Err (Res op) × τ} (f : σ → τ) (holds : σ → Prop)
    (same : ∀ op state, holds state → part op (f state) = ((perform op state).1, f (perform op state).2))
    (keeps : ∀ op state, holds state → holds (perform op state).2) (future : Future Op Res Err α) {state : σ}
    (initial : holds state) :
    future.run part (f state) = ((future.run perform state).1, f (future.run perform state).2) := by
  induction future generalizing state with
  | resolve value => rfl
  | reject error => rfl
  | step op next ih =>
    change (next (part op (f state)).1).run part (part op (f state)).2 = _
    rw [same op state initial]
    exact ih _ (keeps op state initial)

/-- Futures that cannot reject all run, one after the other. -/
theorem run_parallel_coalesce (futures : List (Future Op Res Err α)) (state : σ) : ∃ results,
    (parallel (futures.map coalesce)).run perform state =
      (.ok results, futures.foldl (fun state future => (future.run perform state).2) state) := by
  induction futures generalizing state with
  | nil => exact ⟨[], rfl⟩
  | cons future futures ih =>
    obtain ⟨results, ran⟩ := ih (future.run perform state).2
    rw [List.map_cons, run_parallel_cons, run_coalesce]
    dsimp only
    rw [ran]
    exact ⟨_, rfl⟩

end

end Future

/-! Futures that keep to some operations. -/

/-- Every operation of the future is an allowed one, whatever it is answered. -/
def Within (allowed : Op → Prop) : Future Op Res Err α → Prop
  | .resolve _ => True
  | .reject _ => True
  | .step op next => allowed op ∧ ∀ answer, Within allowed (next answer)

namespace Within
open Future

variable {allowed : Op → Prop}

theorem mono {wider : Op → Prop} {future : Future Op Res Err α} (within : Within allowed future)
    (implies : ∀ op, allowed op → wider op) : Within wider future := by
  induction future with
  | resolve value => trivial
  | reject error => trivial
  | step op next ih => exact ⟨implies op within.1, fun answer => ih answer (within.2 answer)⟩

theorem call {op : Op} (permitted : allowed op) : Within allowed (Future.call op : Future Op Res Err (Res op)) := by
  refine ⟨permitted, fun answer => ?_⟩
  cases answer <;> trivial

theorem ofExcept (result : Except Err α) : Within allowed (Future.ofExcept result : Future Op Res Err α) := by
  cases result <;> trivial

theorem chain {future : Future Op Res Err α} {f : α → Future Op Res Err β} (within : Within allowed future)
    (rest : ∀ value, Within allowed (f value)) : Within allowed (future.chain f) := by
  induction future with
  | resolve value => exact rest value
  | reject error => trivial
  | step op next ih => exact ⟨within.1, fun answer => ih answer (within.2 answer)⟩

theorem chainRej {future : Future Op Res Err α} {f : Err → Future Op Res Err α} (within : Within allowed future)
    (rest : ∀ error, Within allowed (f error)) : Within allowed (future.chainRej f) := by
  induction future with
  | resolve value => trivial
  | reject error => exact rest error
  | step op next ih => exact ⟨within.1, fun answer => ih answer (within.2 answer)⟩

theorem map {future : Future Op Res Err α} (f : α → β) (within : Within allowed future) :
    Within allowed (future.map f) := within.chain fun _ => trivial

theorem mapRej {future : Future Op Res Err α} (f : Err → Err) (within : Within allowed future) :
    Within allowed (future.mapRej f) := within.chainRej fun _ => trivial

theorem coalesce {future : Future Op Res Err α} (within : Within allowed future) : Within allowed future.coalesce := by
  have resolves : Within allowed (future.map (Except.ok : α → Except Err α)) := within.map _
  exact resolves.chainRej fun _ => trivial

theorem parallel {futures : List (Future Op Res Err α)} (each : ∀ future ∈ futures, Within allowed future) :
    Within allowed (parallel futures) := by
  induction futures with
  | nil => trivial
  | cons future futures ih =>
    refine (each future List.mem_cons_self).chain fun value => map _ ?_
    exact ih fun later member => each later (List.mem_cons_of_mem _ member)

theorem of_all (all : ∀ op, allowed op) (future : Future Op Res Err α) : Within allowed future := by
  induction future with
  | resolve value => trivial
  | reject error => trivial
  | step op next ih => exact ⟨all op, ih⟩

/-- What every allowed operation keeps, a run keeps. -/
theorem run_keeps {perform : (op : Op) → σ → Except Err (Res op) × σ} {holds : σ → Prop}
    (keeps : ∀ op state, allowed op → holds state → holds (perform op state).2) {future : Future Op Res Err α}
    (within : Within allowed future) {state : σ} (initial : holds state) : holds (future.run perform state).2 := by
  induction future generalizing state with
  | resolve value => exact initial
  | reject error => exact initial
  | step op next ih => exact ih _ (within.2 _) (keeps op state within.1 initial)

end Within

/-! Futures that need an operation to succeed. -/

/-- The future resolves on no path but those on which this operation has succeeded. -/
def Requires (needed : Op) : Future Op Res Err α → Prop
  | .resolve _ => False
  | .reject _ => True
  | .step op next => (op = needed ∧ ∀ error, Requires needed (next (.error error))) ∨ ∀ answer, Requires needed (next answer)

namespace Requires
open Future

variable {needed : Op}

theorem call : Requires needed (Future.call needed : Future Op Res Err (Res needed)) := .inl ⟨rfl, fun _ => trivial⟩

theorem chain {future : Future Op Res Err α} (requires : Requires needed future) (f : α → Future Op Res Err β) :
    Requires needed (future.chain f) := by
  induction future with
  | resolve value => cases requires
  | reject error => trivial
  | step op next ih =>
    rcases requires with ⟨same, failing⟩ | always
    · exact .inl ⟨same, fun error => ih _ (failing error)⟩
    · exact .inr fun answer => ih answer (always answer)

theorem chain_rest (future : Future Op Res Err α) {f : α → Future Op Res Err β} (rest : ∀ value, Requires needed (f value)) :
    Requires needed (future.chain f) := by
  induction future with
  | resolve value => exact rest value
  | reject error => trivial
  | step op next ih => exact .inr ih

theorem chainRej {future : Future Op Res Err α} {f : Err → Future Op Res Err α} (requires : Requires needed future)
    (rest : ∀ error, Requires needed (f error)) : Requires needed (future.chainRej f) := by
  induction future with
  | resolve value => cases requires
  | reject error => exact rest error
  | step op next ih =>
    rcases requires with ⟨same, failing⟩ | always
    · exact .inl ⟨same, fun error => ih _ (failing error)⟩
    · exact .inr fun answer => ih answer (always answer)

theorem map {future : Future Op Res Err α} (requires : Requires needed future) (f : α → β) :
    Requires needed (future.map f) := requires.chain _

theorem mapRej {future : Future Op Res Err α} (requires : Requires needed future) (f : Err → Err) :
    Requires needed (future.mapRej f) := requires.chainRej fun _ => trivial

end Requires

/-! Protocols. -/

/-- What a future may do next, by a record of what it has done and been answered. `expects` is what the
state it runs against is known to answer. -/
structure Protocol (Op : Type) (Res : Op → Type) (Err Record : Type) where
  permits : Record → Op → Prop
  expects : Record → (op : Op) → Except Err (Res op) → Prop
  after : Record → (op : Op) → Except Err (Res op) → Record

variable {Record : Type}

def Follows (protocol : Protocol Op Res Err Record) (post : Record → Except Err α → Prop) :
    Record → Future Op Res Err α → Prop
  | record, .resolve value => post record (.ok value)
  | record, .reject error => post record (.error error)
  | record, .step op next => protocol.permits record op ∧
      ∀ answer, protocol.expects record op answer → Follows protocol post (protocol.after record op answer) (next answer)

namespace Follows
open Future

variable {protocol : Protocol Op Res Err Record} {post : Record → Except Err α → Prop} {record : Record}

theorem weaken {stronger : Record → Except Err α → Prop} {future : Future Op Res Err α}
    (follows : Follows protocol stronger record future)
    (implies : ∀ record result, stronger record result → post record result) :
    Follows protocol post record future := by
  induction future generalizing record with
  | resolve value => exact implies _ _ follows
  | reject error => exact implies _ _ follows
  | step op next ih => exact ⟨follows.1, fun answer expected => ih answer (follows.2 answer expected)⟩

theorem chain {middle : Record → Except Err β → Prop} {future : Future Op Res Err β}
    {f : β → Future Op Res Err α} (follows : Follows protocol middle record future)
    (resolved : ∀ record value, middle record (.ok value) → Follows protocol post record (f value))
    (rejected : ∀ record error, middle record (.error error) → post record (.error error)) :
    Follows protocol post record (future.chain f) := by
  induction future generalizing record with
  | resolve value => exact resolved _ _ follows
  | reject error => exact rejected _ _ follows
  | step op next ih => exact ⟨follows.1, fun answer expected => ih answer (follows.2 answer expected)⟩

theorem chainRej {middle : Record → Except Err α → Prop} {future : Future Op Res Err α}
    {f : Err → Future Op Res Err α} (follows : Follows protocol middle record future)
    (resolved : ∀ record value, middle record (.ok value) → post record (.ok value))
    (rejected : ∀ record error, middle record (.error error) → Follows protocol post record (f error)) :
    Follows protocol post record (future.chainRej f) := by
  induction future generalizing record with
  | resolve value => exact resolved _ _ follows
  | reject error => exact rejected _ _ follows
  | step op next ih => exact ⟨follows.1, fun answer expected => ih answer (follows.2 answer expected)⟩

theorem call {op : Op} {post : Record → Except Err (Res op) → Prop} (permitted : protocol.permits record op)
    (answered : ∀ answer, protocol.expects record op answer → post (protocol.after record op answer) answer) :
    Follows protocol post record (Future.call op) := by
  refine ⟨permitted, fun answer expected => ?_⟩
  have after := answered answer expected
  cases answer <;> exact after

theorem map {middle : Record → Except Err β → Prop} {future : Future Op Res Err β} {f : β → α}
    (follows : Follows protocol middle record future)
    (implies : ∀ record result, middle record result → post record (result.map f)) :
    Follows protocol post record (future.map f) :=
  follows.chain (fun record value => implies record (.ok value)) fun record error => implies record (.error error)

theorem mapRej {middle : Record → Except Err α → Prop} {future : Future Op Res Err α} {f : Err → Err}
    (follows : Follows protocol middle record future)
    (implies : ∀ record result, middle record result → post record (result.mapError f)) :
    Follows protocol post record (future.mapRej f) :=
  follows.chainRej (fun record value => implies record (.ok value)) fun record error => implies record (.error error)

theorem coalesce {middle : Record → Except Err β → Prop} {post : Record → Except Err (Except Err β) → Prop}
    {future : Future Op Res Err β} (follows : Follows protocol middle record future)
    (implies : ∀ record result, middle record result → post record (.ok result)) :
    Follows protocol post record future.coalesce := by
  let mapped : Record → Except Err (Except Err β) → Prop := fun record result =>
    match result with
    | Except.ok value => post record (.ok value)
    | Except.error error => middle record (.error error)
  have resolves : Follows protocol mapped record (future.map .ok) := by
    apply map follows
    intro record result held
    cases result with
    | ok value => exact implies record (.ok value) held
    | error error => exact held
  exact resolves.chainRej (fun _ _ held => held) fun record error held => implies record (.error error) held

/-- Futures that all keep an assertion about the record keep it one after the other. -/
theorem parallel {futures : List (Future Op Res Err α)} {holds : Record → Prop}
    (each : ∀ future ∈ futures, ∀ record, holds record → Follows protocol (fun record _ => holds record) record future)
    (initial : holds record) : Follows protocol (fun record _ => holds record) record (parallel futures) := by
  induction futures generalizing record with
  | nil => exact initial
  | cons future futures ih =>
    refine (each future (List.mem_cons_self ..) record initial).chain (fun record value held => ?_) fun _ _ held => held
    exact (ih (fun later member => each later (List.mem_cons_of_mem _ member)) held).map fun _ _ held => held

/-- Operations that are permitted now and teach nothing are permitted to the end. -/
theorem of_silent {allowed : Op → Prop} (silent : ∀ op, allowed op → protocol.permits record op ∧
    ∀ answer, protocol.after record op answer = record) {future : Future Op Res Err α} (within : Within allowed future) :
    Follows protocol (fun after _ => after = record) record future := by
  induction future with
  | resolve value => rfl
  | reject error => rfl
  | step op next ih =>
    obtain ⟨permitted, same⟩ := silent op within.1
    refine ⟨permitted, fun answer _ => ?_⟩
    rw [same answer]
    exact ih answer (within.2 answer)

/-- Operations that are permitted as long as an assertion holds, and keep it. -/
theorem of_kept {allowed : Op → Prop} {holds : Record → Prop} (kept : ∀ record op, holds record → allowed op →
    protocol.permits record op ∧ ∀ answer, holds (protocol.after record op answer)) {future : Future Op Res Err α}
    (within : Within allowed future) (initial : holds record) :
    Follows protocol (fun record _ => holds record) record future := by
  induction future generalizing record with
  | resolve value => exact initial
  | reject error => exact initial
  | step op next ih =>
    obtain ⟨permitted, after⟩ := kept record op initial within.1
    exact ⟨permitted, fun answer _ => ih answer (within.2 answer) (after answer)⟩

/-- One operation of a future that follows a protocol, against a state that answers as expected. -/
theorem advance {perform : (op : Op) → σ → Except Err (Res op) × σ} {state : σ} {op : Op}
    {next : Except Err (Res op) → Future Op Res Err α} (follows : Follows protocol post record (.step op next))
    (expected : protocol.expects record op (perform op state).1) :
    Follows protocol post (protocol.after record op (perform op state).1) (next (perform op state).1) :=
  follows.2 _ expected

end Follows

end DfStudy.Support.Futures
