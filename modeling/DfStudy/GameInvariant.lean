import DfStudy.GameControl

/-! The control invariant of a game over its whole life in one process. -/

namespace DfStudy.GameInvariant
open Rounds Games GameFrames GameControl Support.Machine

/-- The rounds whose timers may still fire. -/
def liveTimers (s : LiveGame) : List Nat :=
  s.timeouts.filterMap fun timeout =>
    match timeout.callback with
    | .answer round => some round
    | .gotoRound _ => none

/-- The targets of the delayed `gotoRound` calls that are still pending. -/
def transitions (s : LiveGame) : List Nat :=
  s.timeouts.filterMap fun timeout =>
    match timeout.callback with
    | .answer _ => none
    | .gotoRound round => some round

def Idle (s : LiveGame) : Prop := liveTimers s = [] ∧ transitions s = []

def NotStarted (s : LiveGame) : Prop :=
  s.game.startTime = none ∧ s.game.currentRound = 0 ∧
    (∀ round ∈ s.game.rounds, round.startTime = none ∧ round.endTime = none) ∧ Idle s

def Running (s : LiveGame) : Prop :=
  s.game.currentRound < s.game.rounds.length ∧
    (∀ index < s.game.currentRound, ∀ round, s.game.rounds[index]? = some round → round.endTime.isSome) ∧
    (∀ index > s.game.currentRound, ∀ round, s.game.rounds[index]? = some round →
      round.startTime = none ∧ round.endTime = none) ∧
    ∃ round, s.game.rounds[s.game.currentRound]? = some round ∧
      (round.startTime.isSome ∧ round.endTime = none ∧
          liveTimers s = [s.game.currentRound] ∧ transitions s = [] ∨
        round.endTime.isSome ∧ liveTimers s = [] ∧ transitions s = [s.game.currentRound + 1])

def Halted (s : LiveGame) : Prop :=
  s.game.currentRound = s.game.rounds.length ∧ (∀ round ∈ s.game.rounds, round.endTime.isSome) ∧
    Idle s ∧ stops s = 1

theorem fresh_rounds {schedule : List RoundData} {rounds : List Round}
    (created : schedule.mapM createRound = .ok rounds) :
    ∀ round ∈ rounds, round.Fresh ∧ round.name = .button := by
  induction schedule generalizing rounds with
  | nil =>
    cases created
    simp
  | cons data schedule ih =>
    simp only [List.mapM_cons] at created
    cases first : createRound data with
    | error message => simp [first, Bind.bind, Except.bind] at created
    | ok round =>
      cases others : schedule.mapM createRound with
      | error message => simp [first, others, Bind.bind, Except.bind] at created
      | ok rest =>
        simp only [first, others, Bind.bind, Except.bind, pure, Except.pure, Except.ok.injEq] at created
        subst created
        intro member present
        rcases List.mem_cons.mp present with rfl | later
        · exact createRound_spec first
        · exact ih others member later

theorem rounds_length {datas : List RoundData} {rounds : List Round} (created : datas.mapM createRound = .ok rounds) :
    rounds.length = datas.length := by
  induction datas generalizing rounds with
  | nil =>
    cases created
    rfl
  | cons data datas ih =>
    rw [List.mapM_cons] at created
    cases first : createRound data with
    | error message => simp [first, Bind.bind, Except.bind] at created
    | ok round =>
      cases later : datas.mapM createRound with
      | error message => simp [first, later, Bind.bind, Except.bind] at created
      | ok rest =>
        simp only [first, later, Bind.bind, Except.bind, pure, Except.pure, Except.ok.injEq] at created
        rw [← created, List.length_cons, List.length_cons, ih later]

theorem unstarted_of_fresh {s : LiveGame} (fresh : Fresh s) : Unstarted s where
  startTime := fresh.startTime
  endTime := fresh.endTime
  currentRound := fresh.currentRound
  untouched := by
    obtain ⟨schedule, created⟩ := fresh.rounds
    intro index _ round present
    exact (fresh_rounds created round (List.mem_of_getElem? present)).1
  timeouts := fresh.timeouts
  stops := by simp [stops, fresh.effects]

/-- The phase invariant of every run, together with the listeners it relies on. -/
theorem phase_run {s : LiveGame} (phase : Phase s) (wired : Wired s) (actions : List Action) :
    Phase (run step s actions) ∧ Wired (run step s actions) := by
  apply run_invariant (fun s => Phase s ∧ Wired s) _ actions ⟨phase, wired⟩
  intro s action ⟨phase, wired⟩
  have move := move_step phase wired action
  exact ⟨phase_move phase move, wired_move move wired⟩

theorem phase_of_fresh {s : LiveGame} (fresh : Fresh s) (actions : List Action) : Phase (run step s actions) :=
  (phase_run (.unstarted (unstarted_of_fresh fresh)) fresh.wired actions).1

theorem notStarted_of_unstarted {s : LiveGame} (phase : Unstarted s) : NotStarted s := by
  refine ⟨phase.startTime, phase.currentRound, ?_, by simp [Idle, liveTimers, transitions, phase.timeouts]⟩
  intro round member
  obtain ⟨index, present⟩ := List.getElem?_of_mem member
  have fresh := phase.untouched index (Nat.zero_le _) round present
  exact ⟨fresh.startTime, fresh.endTime⟩

theorem running_of_open {s : LiveGame} (phase : RoundOpen s) : Running s := by
  obtain ⟨round, present, started, running, _⟩ := phase.current
  obtain ⟨handle, ms, _, only⟩ := phase.timer
  refine ⟨(List.getElem?_eq_some_iff.mp present).1, fun index below value found => (phase.played index below value found).2,
    fun index above value found => ?_, round, present, .inl ⟨started, running, ?_⟩⟩
  · have fresh := phase.untouched index above value found
    exact ⟨fresh.startTime, fresh.endTime⟩
  · simp [liveTimers, transitions, only]

theorem running_of_over {s : LiveGame} (phase : RoundOver s) : Running s := by
  obtain ⟨handle, ms, only⟩ := phase.transition
  have present := List.getElem?_eq_getElem phase.current
  refine ⟨phase.current, fun index below value found => (phase.played index (by omega) value found).2,
    fun index above value found => ?_, _, present, .inr ⟨(phase.played _ (by omega) _ present).2, ?_⟩⟩
  · have fresh := phase.untouched index above value found
    exact ⟨fresh.startTime, fresh.endTime⟩
  · simp [liveTimers, transitions, only]

theorem halted_of_stopped {s : LiveGame} (phase : Stopped s) : Halted s := by
  refine ⟨phase.current, ?_, by simp [Idle, liveTimers, transitions, phase.timeouts], phase.stops⟩
  intro round member
  obtain ⟨index, present⟩ := List.getElem?_of_mem member
  have below := (List.getElem?_eq_some_iff.mp present).1
  exact (phase.played index (phase.current ▸ below) round present).2

theorem not_running_of_unstarted {s : LiveGame} (phase : Unstarted s) : ¬Running s := by
  rintro ⟨_, _, _, round, present, opened | hasEnded⟩
  · have fresh := phase.untouched _ (Nat.zero_le _) round present
    simp [fresh.startTime] at opened
  · have fresh := phase.untouched _ (Nat.zero_le _) round present
    simp [fresh.endTime] at hasEnded

/-- In every reachable state exactly one of the three control states holds, and a running game has
exactly one timer or transition to move it on. -/
theorem control_invariant (s : LiveGame) (fresh : Fresh s) (actions : List Action) :
    (NotStarted (run step s actions) ∧ ¬Running (run step s actions) ∧ ¬Halted (run step s actions) ∨
      ¬NotStarted (run step s actions) ∧ Running (run step s actions) ∧ ¬Halted (run step s actions) ∨
      ¬NotStarted (run step s actions) ∧ ¬Running (run step s actions) ∧ Halted (run step s actions)) ∧
    (Running (run step s actions) →
      (liveTimers (run step s actions)).length + (transitions (run step s actions)).length = 1) := by
  have phase := phase_of_fresh fresh actions
  generalize run step s actions = s' at phase
  constructor
  · have distinct : Running s' → ¬Halted s' := fun running halted => by
      have bound := running.1
      rw [halted.1] at bound
      exact lt_irrefl _ bound
    have later : s'.game.startTime.isSome → ¬NotStarted s' := fun started waiting => by
      rw [waiting.1] at started
      cases started
    cases phase with
    | unstarted phase =>
      refine .inl ⟨notStarted_of_unstarted phase, not_running_of_unstarted phase, fun halted => ?_⟩
      exact absurd halted.2.2.2 (by simp [phase.stops])
    | roundOpen phase =>
      have running := running_of_open phase
      exact .inr (.inl ⟨later phase.startTime, running, distinct running⟩)
    | roundOver phase =>
      have running := running_of_over phase
      exact .inr (.inl ⟨later phase.startTime, running, distinct running⟩)
    | stopped phase =>
      have halted := halted_of_stopped phase
      exact .inr (.inr ⟨later phase.startTime, fun running => distinct running halted, halted⟩)
  · rintro ⟨_, _, _, round, _, ⟨_, _, timers, pending⟩ | ⟨_, timers, pending⟩⟩ <;> simp [timers, pending]

/-- Two rounds, two players, and the readings of a clock that stands still. -/
def sample : LiveGame where
  game := newGame {
    gameId := "foobar"
    players := [createPlayer "pete", createPlayer "kate"]
    rounds := [buttonRound 0 [0, 1] none, buttonRound 1 [0, 1] none] }
  clock := fun _ => 0

theorem sample_fresh : Fresh sample where
  startTime := rfl
  endTime := rfl
  currentRound := rfl
  rounds := ⟨[{ name := .button, msLength := none, solution := .number 0, options := some [0, 1] },
    { name := .button, msLength := none, solution := .number 1, options := some [0, 1] }], rfl⟩
  timeouts := rfl
  effects := rfl
  wired := constructed_default

/-- Both players get ready, the first round is answered, the gap passes, the second round times out. -/
def sampleRun : List Action :=
  [.playerReady "pete" true, .playerReady "kate" true, .answer { round := .ofNat 0 }, .fire 1, .fire 2, .fire 3]

theorem control_invariant_sample : Halted (run step sample sampleRun) := by
  have current : (run step sample sampleRun).game.currentRound = 2 := by decide
  have count : (run step sample sampleRun).game.rounds.length = 2 := by decide
  rcases (control_invariant sample sample_fresh sampleRun).1 with waiting | running | halted
  · exact absurd waiting.1.2.1 (by simp [current])
  · exact absurd running.2.1.1 (by simp [current, count])
  · exact halted.2.2

end DfStudy.GameInvariant
