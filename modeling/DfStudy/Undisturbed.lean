import DfStudy.Sessions

/-! A request that runs alone, step by step. A step is a statement or an outside call, and the
environment says of each step whether it fails. `Ends` says how a request ends: resolved, or rejected. -/

namespace DfStudy.Undisturbed
open Tables Servers Support.Futures Future

/-- The steps of a request. The other operations are synchronous callbacks, which cannot fail by themselves. -/
def fallible : Op → Bool
  | .randomUUID | .initGameRows _ | .chainGames _ _ | .getGames _ => false
  | .removeMemGame _ | .onRound _ _ | .joinGame _ _ => false
  | _ => true

structure Alone where
  server : Server
  /-- How many steps have been taken. -/
  step : Nat := 0

section
variable (host : Host) (fails : Nat → Bool)

def performAlone (op : Op) (a : Alone) : Except Failure (Res op) × Alone :=
  if fallible op then
    ((perform host (fails a.step) op a.server).1,
      { server := (perform host (fails a.step) op a.server).2, step := a.step + 1 })
  else
    ((perform host false op a.server).1, { a with server := (perform host false op a.server).2 })

def alone {α : Type} (request : Request α) (a : Alone) : Except Failure α × Alone :=
  request.run (performAlone host fails) a

/-- No step before this one has failed. -/
def Clean (step : Nat) : Prop := ∀ earlier < step, fails earlier = false

/-- The step taken last is the first one that failed. -/
def FailedLast (step : Nat) : Prop := ∃ last, step = last + 1 ∧ fails last = true ∧ Clean fails last

def Ends {α : Type} (request : Request α) (a : Alone) (good : α → Alone → Prop) (bad : Failure → Alone → Prop) :
    Prop :=
  match alone host fails request a with
  | (.ok value, a) => good value a
  | (.error error, a) => bad error a

end

section
variable {host : Host} {fails : Nat → Bool} {α β : Type} {a : Alone} {bad : Failure → Alone → Prop}

theorem Clean.succ {step : Nat} (clean : Clean fails step) (ok : fails step = false) : Clean fails (step + 1) := by
  intro earlier below
  rcases Nat.lt_succ_iff_lt_or_eq.mp below with before | rfl
  · exact clean earlier before
  · exact ok

theorem Clean.mono {step earlier : Nat} (clean : Clean fails step) (le : earlier ≤ step) : Clean fails earlier :=
  fun first below => clean first (by omega)

theorem failedLast_of_clean {step : Nat} (clean : Clean fails step) (failed : fails step = true) :
    FailedLast fails (step + 1) := ⟨step, rfl, failed, clean⟩

theorem ends_resolved {good : α → Alone → Prop} {request : Request α} {a' : Alone} {value : α}
    (ends : Ends host fails request a good bad) (resolved : alone host fails request a = (.ok value, a')) :
    good value a' := by
  unfold Ends at ends
  rw [resolved] at ends
  exact ends

theorem ends_rejected {good : α → Alone → Prop} {request : Request α} {a' : Alone} {error : Failure}
    (ends : Ends host fails request a good bad) (rejected : alone host fails request a = (.error error, a')) :
    bad error a' := by
  unfold Ends at ends
  rw [rejected] at ends
  exact ends

theorem alone_chainRej_ok {request : Request α} {f : Failure → Request α} {a' : Alone} {value : α}
    (resolved : alone host fails request a = (.ok value, a')) :
    alone host fails (request.chainRej f) a = (.ok value, a') := by
  unfold alone at resolved ⊢
  rw [run_chainRej, resolved]

theorem alone_chainRej_error {request : Request α} {f : Failure → Request α} {a' : Alone} {error : Failure}
    (rejected : alone host fails request a = (.error error, a')) :
    alone host fails (request.chainRej f) a = alone host fails (f error) a' := by
  unfold alone at rejected ⊢
  rw [run_chainRej, rejected]

theorem ends_weaken {good good' : α → Alone → Prop} {bad' : Failure → Alone → Prop} {request : Request α}
    (ends : Ends host fails request a good' bad') (resolved : ∀ value a, good' value a → good value a)
    (rejected : ∀ error a, bad' error a → bad error a) : Ends host fails request a good bad := by
  unfold Ends at ends ⊢
  cases ran : alone host fails request a with
  | mk result after =>
    rw [ran] at ends
    cases result with
    | ok value => exact resolved value after ends
    | error error => exact rejected error after ends

theorem ends_chain {M : α → Alone → Prop} {good : β → Alone → Prop} {request : Request α}
    {f : α → Request β} (first : Ends host fails request a M bad)
    (rest : ∀ value a, M value a → Ends host fails (f value) a good bad) :
    Ends host fails (request.chain f) a good bad := by
  unfold Ends alone at *
  rw [run_chain]
  cases ran : request.run (performAlone host fails) a with
  | mk result after =>
    rw [ran] at first
    cases result with
    | ok value => exact rest value after first
    | error error => exact first

theorem ends_map {good : β → Alone → Prop} {request : Request α} {f : α → β}
    (ends : Ends host fails request a (fun value => good (f value)) bad) :
    Ends host fails (request.map f) a good bad :=
  ends_chain ends fun _ _ held => held

theorem ends_chainRej {M : Failure → Alone → Prop} {good : α → Alone → Prop} {request : Request α}
    {f : Failure → Request α} (first : Ends host fails request a good M)
    (rest : ∀ error a, M error a → Ends host fails (f error) a good bad) :
    Ends host fails (request.chainRej f) a good bad := by
  unfold Ends alone at *
  rw [run_chainRej]
  cases ran : request.run (performAlone host fails) a with
  | mk result after =>
    rw [ran] at first
    cases result with
    | ok value => exact first
    | error error => exact rest error after first

theorem ends_mapRej {good : α → Alone → Prop} {request : Request α} {f : Failure → Failure}
    (ends : Ends host fails request a good fun error => bad (f error)) :
    Ends host fails (request.mapRej f) a good bad :=
  ends_chainRej ends fun _ _ held => held

theorem ends_nil {good : List α → Alone → Prop} (held : good [] a) : Ends host fails (parallel []) a good bad := held

theorem ends_cons {good : List α → Alone → Prop} {request : Request α} {requests : List (Request α)}
    {M : α → Alone → Prop} (first : Ends host fails request a M bad)
    (rest : ∀ value a, M value a →
      Ends host fails (parallel requests) a (fun values => good (value :: values)) bad) :
    Ends host fails (parallel (request :: requests)) a good bad :=
  ends_chain first fun value a held => ends_map (rest value a held)

theorem ends_call {op : Op} {good : Res op → Alone → Prop}
    (ended : match performAlone host fails op a with
      | (.ok value, a) => good value a
      | (.error error, a) => bad error a) : Ends host fails (call op) a good bad := by
  unfold Ends alone
  rw [run_call]
  cases result : performAlone host fails op a with
  | mk answer after =>
    rw [result] at ended
    cases answer <;> exact ended

/-- A step fails by the environment without effect, or does what it does. -/
theorem ends_step {op : Op} {good : Res op → Alone → Prop} (step : fallible op = true)
    (fail : fails a.step = true → ∀ message, bad (.error message) { a with step := a.step + 1 })
    (works : fails a.step = false → match perform host false op a.server with
      | (.ok value, server) => good value { server, step := a.step + 1 }
      | (.error error, server) => bad error { server, step := a.step + 1 }) :
    Ends host fails (call op) a good bad := by
  apply ends_call
  unfold performAlone
  rw [if_pos step]
  cases failed : fails a.step with
  | true =>
    have noEffect : ∃ message, perform host true op a.server = (.error (.error message), a.server) := by
      cases op <;> first | exact ⟨_, rfl⟩ | cases step
    obtain ⟨message, result⟩ := noEffect
    rw [result]
    exact fail failed message
  | false =>
    have ended := works failed
    cases result : perform host false op a.server with
    | mk answer server =>
      rw [result] at ended
      cases answer <;> exact ended

theorem ends_step_ok {op : Op} {good : Res op → Alone → Prop} {v : Res op} {S : Server}
    (step : fallible op = true) (result : perform host false op a.server = (.ok v, S))
    (fail : fails a.step = true → ∀ message, bad (.error message) { a with step := a.step + 1 })
    (works : fails a.step = false → good v { server := S, step := a.step + 1 }) :
    Ends host fails (call op) a good bad := by
  apply ends_step step fail
  rw [result]
  exact works

/-- A synchronous callback. -/
theorem ends_sync {op : Op} {good : Res op → Alone → Prop} (sync : fallible op = false)
    (works : match perform host false op a.server with
      | (.ok value, server) => good value { a with server }
      | (.error error, server) => bad error { a with server }) :
    Ends host fails (call op) a good bad := by
  apply ends_call
  unfold performAlone
  rw [if_neg (by simp [sync])]
  cases result : perform host false op a.server with
  | mk answer server =>
    rw [result] at works
    cases answer <;> exact works

theorem ends_sync_ok {op : Op} {good : Res op → Alone → Prop} {v : Res op} {S : Server}
    (sync : fallible op = false) (result : perform host false op a.server = (.ok v, S))
    (works : good v { a with server := S }) : Ends host fails (call op) a good bad := by
  apply ends_sync sync
  rw [result]
  exact works

/-- What every operation that the request may do keeps, it ends with. -/
theorem ends_within {allowed : Op → Prop} {holds : Server → Prop}
    (keeps : ∀ (failing : Bool) op s, allowed op → holds s → holds (perform host failing op s).2) {request : Request α}
    (within : Within allowed request) (initial : holds a.server) :
    Ends host fails request a (fun _ a' => holds a'.server) fun _ a' => holds a'.server := by
  let kept (a : Alone) : Prop := holds a.server
  have after : kept (alone host fails request a).2 := by
    refine within.run_keeps (fun op a permitted held => ?_) initial
    change holds (performAlone host fails op a).2.server
    unfold performAlone
    split
    · exact keeps _ op a.server permitted held
    · exact keeps _ op a.server permitted held
  unfold Ends
  cases ended : alone host fails request a with
  | mk result a' =>
    rw [ended] at after
    cases result <;> exact after

/-- No step fails from here on. -/
def Steady (fails : Nat → Bool) (step : Nat) : Prop := ∀ later, step ≤ later → fails later = false

theorem alone_steady (steady : Steady fails a.step) (request : Request α) :
    request.run (perform host false) a.server =
      ((alone host fails request a).1, (alone host fails request a).2.server) := by
  refine run_part _ Alone.server (fun a => Steady fails a.step) ?_ ?_ request steady
  · intro op a steady
    unfold performAlone
    split
    · rw [steady a.step (Nat.le_refl _)]
    · rfl
  · intro op a steady
    unfold performAlone
    split
    · exact fun later above => steady later (Nat.le_trans (Nat.le_succ _) above)
    · exact steady

end

end DfStudy.Undisturbed
