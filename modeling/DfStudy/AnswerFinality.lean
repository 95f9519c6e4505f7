import DfStudy.GameStart

/-! Answers that are rejected change nothing, and those that are accepted are final. -/

namespace DfStudy.AnswerFinality
open Rounds Games GameFrames GameControl GameInvariant LoadedGame GameStart Support.Machine LiveGame

/-- A game right after its constructor, or as it is loaded from its row. -/
inductive Origin : LiveGame → Prop where
  | constructed {s : LiveGame} (fresh : GameControl.Fresh s) : Origin s
  | loaded {clock : Nat → Nat} {data : GameData} {s : LiveGame} (loaded : deserializeGame clock data = .ok s) : Origin s

/-- What can happen to a game while its process lives. -/
inductive Turn where
  | action (action : Action)
  | listen (listener : Listener)

def turn (s : LiveGame) : Turn → LiveGame
  | .action action => step s action
  | .listen listener => listen s listener

theorem run_actions (s : LiveGame) (actions : List Action) : run turn s (actions.map .action) = run step s actions :=
  List.foldl_map

/-- The answer has been recorded: the round has its answer and its end, the timer of the round is gone, and one
transition is due. -/
structure Recorded (s : LiveGame) (answer : Answer) (status : Int) (round : Nat) (roundObj : Round) (s' : LiveGame) :
    Prop where
  found : s.roundAt answer.round = some (round, roundObj)
  game : s'.game = { s.game with
    rounds := s.game.rounds.set round { roundObj with answer := answer.value, endTime := some s.now } }
  timer : liveTimers s = [round]
  cancelled : liveTimers s' = []
  transition : transitions s' = transitions s ++ [round + 1]
  status : status = if answer.value.equalsNumber roundObj.solution then 1 else -1

/-! States. -/

/-- Some round has been entered last, and the listeners of the constructor are there. -/
def Reached (s : LiveGame) : Prop := (∃ base, Turning base s) ∧ Wired s

theorem waiting_of_unstarted {s : LiveGame} (unstarted : Unstarted s) : Waiting 0 s :=
  ⟨rfl, unstarted.startTime, unstarted.endTime, unstarted.untouched, unstarted.timeouts⟩

theorem Origin.reached {s : LiveGame} (origin : Origin s) : Reached s := by
  cases origin with
  | constructed fresh => exact ⟨⟨0, .waiting (waiting_of_unstarted (unstarted_of_fresh fresh))⟩, fresh.wired⟩
  | loaded loaded => exact ⟨⟨_, turning_loaded loaded⟩, wired_loaded loaded⟩

theorem reached_turn {s : LiveGame} (next : Turn) (reached : Reached s) : Reached (turn s next) := by
  obtain ⟨⟨base, turning⟩, wired⟩ := reached
  cases next with
  | action action => exact ⟨⟨base, turning_step turning wired action⟩, wired_step wired action⟩
  | listen listener => exact ⟨⟨base, turning_listen turning listener⟩, wired_listen wired listener⟩

/-! One answer. -/

theorem answer_left {s : LiveGame} {answer : Answer} {message : String} (left : (s.answer answer).2 = .left message) :
    (s.answer answer).1 = s := by
  rcases answer_cases s answer with ⟨round, roundObj, found, running, started⟩ | ⟨same, -⟩
  · rw [answer_accepted s answer round roundObj found running started] at left
    cases left
  · exact same

theorem answer_right {base : Nat} {s : LiveGame} (turning : Turning base s) {answer : Answer} {status : Int}
    (right : (s.answer answer).2 = .right status) :
    ∃ round roundObj, Recorded s answer status round roundObj (s.answer answer).1 := by
  rcases answer_cases s answer with ⟨round, roundObj, found, running, started⟩ | ⟨-, message, left⟩
  · obtain ⟨phase, rfl⟩ := turning.open_current (roundAt_some found) ⟨started, running⟩
    obtain ⟨handle, ms, -, only⟩ := phase.timer
    rw [answer_accepted s answer _ roundObj found running started] at right
    rw [answer_settles answer found started running phase.cleared]
    refine ⟨s.game.currentRound, roundObj, found, rfl, ?_, rfl, ?_, ?_⟩
    · unfold liveTimers
      rw [only]
      rfl
    · have none : transitions s = [] := by
        unfold transitions
        rw [only]
        rfl
      rw [none]
      rfl
    · exact (Outcome.right.inj right).symm
  · rw [left] at right
    cases right

/-! Rounds that are over. -/

/-- No round that is over is touched. -/
def Keeps (s s' : LiveGame) : Prop :=
  ∀ (index : Nat) (round : Round), s.game.rounds[index]? = some round → round.endTime.isSome →
    s'.game.rounds[index]? = some round

theorem keeps_of_rounds {s s' : LiveGame} (same : s'.game.rounds = s.game.rounds) : Keeps s s' := by
  intro index round present _
  rw [same]
  exact present

theorem keeps_set {s s' : LiveGame} {index : Nat} {old new : Round} (present : s.game.rounds[index]? = some old)
    (running : old.endTime = none) (set : s'.game.rounds = s.game.rounds.set index new) : Keeps s s' := by
  intro other round there closed
  have elsewhere : index ≠ other := by
    rintro rfl
    cases present.symm.trans there
    rw [running] at closed
    cases closed
  rw [set, List.getElem?_set_ne elsewhere]
  exact there

theorem keeps_answer (s : LiveGame) (answer : Answer) : Keeps s (s.answer answer).1 := by
  rcases answer_cases s answer with ⟨round, roundObj, found, running, started⟩ | ⟨same, -⟩
  · rw [answer_accepted s answer round roundObj found running started]
    exact keeps_set (roundAt_some found) running rfl
  · rw [same]
    exact keeps_of_rounds rfl

theorem keeps_gotoRound {s : LiveGame} {round : Nat} (untouched : Untouched s.game.rounds round) :
    Keeps s (s.gotoRound round).1 := by
  cases found : s.game.rounds[round]? with
  | none =>
    rw [gotoRound_past s round found, stop_eq]
    exact keeps_of_rounds rfl
  | some roundObj =>
    rw [gotoRound_enters s round roundObj found]
    exact keeps_set found (untouched round le_rfl roundObj found).endTime rfl

theorem keeps_fire {base : Nat} {s : LiveGame} (turning : Turning base s) (handle : Nat) : Keeps s (s.fire handle) := by
  unfold LiveGame.fire
  cases found : s.timeouts.find? (·.handle = handle) with
  | none => exact keeps_of_rounds rfl
  | some timeout =>
    have member := List.mem_of_find?_eq_some found
    dsimp only
    cases turning with
    | waiting phase => simp [phase.timeouts] at member
    | done phase => simp [phase.timeouts] at member
    | playing phase =>
      obtain ⟨timer, ms, -, only⟩ := phase.timer
      cases List.mem_singleton.mp (only ▸ member)
      exact keeps_answer (s.clearTimeout (some handle)) _
    | between phase =>
      obtain ⟨timer, ms, only⟩ := phase.transition
      cases List.mem_singleton.mp (only ▸ member)
      exact keeps_gotoRound (s := s.clearTimeout (some handle)) phase.untouched

/-- A game that waits has no round that is over, and any other is not moved. -/
theorem keeps_playerReady {base : Nat} {s : LiveGame} (turning : Turning base s) (wired : Wired s) (playerId : String)
    (ready : Bool) : Keeps s (s.playerReady playerId ready).1 := by
  have running : s.game.startTime.isSome → Keeps s (s.playerReady playerId ready).1 := fun started =>
    keeps_of_rounds (playerReady_unmoved wired.playerReady started playerId ready).rounds
  cases turning with
  | waiting phase =>
    intro index round present closed
    have fresh := phase.untouched index (Nat.zero_le _) round present
    rw [fresh.endTime] at closed
    cases closed
  | playing phase => exact running phase.startTime
  | between phase => exact running phase.startTime
  | done phase => exact running phase.startTime

theorem keeps_turn {s : LiveGame} (reached : Reached s) (next : Turn) : Keeps s (turn s next) := by
  obtain ⟨⟨base, turning⟩, wired⟩ := reached
  cases next with
  | listen listener => cases listener <;> exact keeps_of_rounds rfl
  | action action =>
    cases action with
    | playerReady playerId ready => exact keeps_playerReady turning wired playerId ready
    | answer answer => exact keeps_answer s answer
    | fire handle => exact keeps_fire turning handle
    | onState socket => exact keeps_of_rounds rfl
    | finish pid ok =>
      show Keeps s (s.finish pid ok)
      cases found : s.children.find? (·.pid = pid) with
      | none =>
        unfold LiveGame.finish
        rw [found]
        exact keeps_of_rounds rfl
      | some child =>
        rw [finish_eq found ok]
        exact keeps_of_rounds rfl

theorem keeps_run {s : LiveGame} (reached : Reached s) (later : List Turn) : Keeps s (run turn s later) := by
  induction later generalizing s with
  | nil => exact keeps_of_rounds rfl
  | cons next later ih =>
    intro index round present closed
    exact ih (reached_turn next reached) index round (keeps_turn reached next index round present closed) closed

/-- In every state of every game: an answer is rejected and nothing changes, or it is recorded. What is recorded stays. -/
theorem answers_final {origin : LiveGame} (begun : Origin origin) (turns : List Turn) (answer : Answer) :
    (∀ message, ((run turn origin turns).answer answer).2 = .left message →
        ((run turn origin turns).answer answer).1 = run turn origin turns) ∧
      (∀ status, ((run turn origin turns).answer answer).2 = .right status →
        ∃ round roundObj, Recorded (run turn origin turns) answer status round roundObj
          ((run turn origin turns).answer answer).1) ∧
      ∀ later, Keeps (run turn origin turns) (run turn origin (turns ++ later)) := by
  have reached : Reached (run turn origin turns) :=
    run_invariant Reached (fun _ next reached => reached_turn next reached) turns begun.reached
  refine ⟨fun _ left => answer_left left, fun _ right => answer_right reached.1.choose_spec right, fun later => ?_⟩
  rw [run_append]
  exact keeps_run reached later

/-- The answer of the first round of the sample is recorded, and is there at the end of the run. -/
theorem answers_final_sample :
    Recorded (run turn sample ((sampleRun.take 2).map .action)) { round := .ofNat 0, value := .number (.ofNat 0) } 1 0
        { buttonRound 0 [0, 1] none with startTime := some 0 }
        ((run turn sample ((sampleRun.take 2).map .action)).answer { round := .ofNat 0, value := .number (.ofNat 0) }).1 ∧
      ∀ later, Keeps (run turn sample (sampleRun.map .action)) (run turn sample (sampleRun.map .action ++ later)) := by
  obtain ⟨-, recorded, -⟩ := answers_final (.constructed sample_fresh) ((sampleRun.take 2).map .action)
    { round := .ofNat 0, value := .number (.ofNat 0) }
  obtain ⟨-, -, keeps⟩ := answers_final (.constructed sample_fresh) (sampleRun.map .action) { round := .ofNat 0 }
  obtain ⟨round, roundObj, all⟩ := recorded 1 (by decide +kernel)
  cases all.found.symm.trans (by rfl : _ = some (0, { buttonRound 0 [0, 1] none with startTime := some 0 }))
  exact ⟨all, keeps⟩

end DfStudy.AnswerFinality
