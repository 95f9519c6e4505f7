import DfStudy.AnswerFinality

/-! The score on the screens of the two players. It is computed there from the rounds of the game as they come out of
JSON, and it is what `answer` has decided while the game was played. -/

namespace DfStudy.ScoreScreens
open Js Rounds Games GameFrames ServerFrames GameControl GameInvariant LoadedGame AnswerFinality Support.Machine LiveGame

/-- `round.answer !== undefined`. -/
def hasAnswer (round : RoundData) : Bool := round.answer.any fun answer => !answer.isUndefined

/-- `round.answer === round.solution`. No two arrays that come out of `JSON.parse` are the same. -/
def answersSolution (round : RoundData) : Bool :=
  match round.solution with
  | .number solution => round.answer.any fun answer => answer.equalsNumber solution
  | .numbers _ => false

/-- Of `RoundScreen`. -/
def score (gameData : GameData) : Nat :=
  (gameData.rounds.map fun round => if hasAnswer round && answersSolution round then 1 else 0).foldl
    (fun acc curr => acc + curr) 0

/-- Of `RoundScreen`. -/
def total (gameData : GameData) : Nat :=
  (gameData.rounds.map fun round => if hasAnswer round then 1 else 0).foldl (fun acc curr => acc + curr) 0

/-- Of `GameReview`. -/
def correctLen (gameData : GameData) : Nat :=
  (gameData.rounds.filter fun round => hasAnswer round && answersSolution round).length

/-! The calls of `answer`, by a player or by the timeout of the round. -/

structure Call where
  answer : Answer
  outcome : Outcome Int

/-- It returned `Right(1)`. -/
def Call.won (call : Call) : Bool := call.outcome = .right 1

/-- The answer was accepted and carried a value. -/
def Call.carried (call : Call) : Bool :=
  match call.outcome with
  | .right _ => !call.answer.value.isUndefined
  | _ => false

def callOf (s : LiveGame) (answer : Answer) : Call := { answer, outcome := (s.answer answer).2 }

/-- The call a turn makes, if it makes one. -/
def answerCall (s : LiveGame) : Turn → Option Call
  | .action (.answer answer) => some (callOf s answer)
  | .action (.fire handle) =>
    match (s.timeouts.find? (·.handle = handle)).map Timeout.callback with
    | some (.answer round) => some (callOf (s.clearTimeout (some handle)) { round := .ofNat round })
    | _ => none
  | _ => none

/-- The calls of a run that have returned, in their order. -/
def answerCalls (s : LiveGame) : List Turn → List Call
  | [] => []
  | next :: turns => (answerCall s next).toList ++ answerCalls (turn s next) turns

/-! The screens read of a round what the game knows of it. -/

def right (round : Round) : Bool := round.answer.equalsNumber round.solution

def hasValue (round : Round) : Bool := !round.answer.isUndefined

theorem foldl_marks {Item : Type} (items : List Item) (marked : Item → Bool) (acc : Nat) :
    (items.map fun item => if marked item then 1 else 0).foldl (fun acc curr => acc + curr) acc =
      acc + items.countP marked := by
  induction items generalizing acc with
  | nil => rfl
  | cons item items ih =>
    rw [List.map_cons, List.foldl_cons, ih, List.countP_cons]
    omega

theorem hasAnswer_json (round : Round) : hasAnswer round.json.json = hasValue round := by
  rw [Round.json_json]
  unfold hasAnswer hasValue Round.json
  cases round.answer with
  | number value => cases value <;> rfl
  | _ => rfl

theorem answersSolution_json (round : Round) : answersSolution round.json.json = right round := by
  rw [Round.json_json]
  unfold answersSolution right Round.json
  cases round.answer with
  | number value => cases value <;> rfl
  | _ => rfl

/-- The right value is no `undefined`. -/
theorem hasValue_of_right {round : Round} (correct : right round) : hasValue round := by
  unfold right at correct
  unfold hasValue
  cases answer : round.answer with
  | undefined =>
    rw [answer] at correct
    cases correct
  | _ => rfl

theorem correct_json (round : Round) :
    (hasAnswer round.json.json && answersSolution round.json.json) = right round := by
  rw [hasAnswer_json, answersSolution_json]
  cases correct : right round with
  | false => rw [Bool.and_false]
  | true => rw [hasValue_of_right correct, Bool.and_true]

theorem rounds_json (game : Game) : game.state.json.rounds = game.rounds.map fun round => round.json.json := by
  simp [Game.state, GameData.json, Function.comp_def]

theorem countP_json (game : Game) {shown : RoundData → Bool} {known : Round → Bool}
    (agree : ∀ round : Round, shown round.json.json = known round) :
    game.state.json.rounds.countP shown = game.rounds.countP known := by
  rw [rounds_json, List.countP_map]
  exact congrArg (game.rounds.countP ·) (funext agree)

theorem score_state (game : Game) : score game.state.json = game.rounds.countP right := by
  unfold score
  rw [foldl_marks, Nat.zero_add]
  exact countP_json game correct_json

theorem total_state (game : Game) : total game.state.json = game.rounds.countP hasValue := by
  unfold total
  rw [foldl_marks, Nat.zero_add]
  exact countP_json game hasAnswer_json

theorem correctLen_state (game : Game) : correctLen game.state.json = game.rounds.countP right := by
  unfold correctLen
  rw [← List.countP_eq_length_filter]
  exact countP_json game correct_json

/-! What the other methods leave alone. -/

/-- What has been decided of a round. -/
def verdict (round : Round) : Value × ℚ × Option Nat := (round.answer, round.solution, round.endTime)

def verdicts (s : LiveGame) : List (Value × ℚ × Option Nat) := s.game.rounds.map verdict

/-- A round that is entered is not decided. -/
theorem verdict_set {rounds : List Round} {index : Nat} {roundObj : Round} (present : rounds[index]? = some roundObj)
    (startTime : Option Nat) :
    (rounds.set index { roundObj with startTime }).map verdict = rounds.map verdict := by
  obtain ⟨below, rfl⟩ := List.getElem?_eq_some_iff.mp present
  have bound : index < (rounds.map verdict).length := by rwa [List.length_map]
  have unchanged : (rounds.map verdict).set index (rounds.map verdict)[index] = rounds.map verdict :=
    List.set_getElem_self bound
  rw [List.getElem_map] at unchanged
  rw [List.map_set]
  exact unchanged

theorem gotoRound_verdicts (s : LiveGame) (round : Nat) : verdicts (s.gotoRound round).1 = verdicts s := by
  cases found : s.game.rounds[round]? with
  | none =>
    rw [gotoRound_past s round found, stop_eq]
    rfl
  | some roundObj =>
    rw [gotoRound_enters s round roundObj found]
    exact verdict_set found (some s.now)

theorem start_verdicts (s : LiveGame) : verdicts s.start.1 = verdicts s := by
  change verdicts ((stamped s).gotoRound 0).1.triggerStart = _
  rw [triggerStart_eq]
  exact gotoRound_verdicts (stamped s) 0

theorem playerReadyCallbacks_verdicts (callbacks : List PlayerReadyCallback) (s : LiveGame) :
    verdicts (s.runPlayerReadyCallbacks callbacks).1 = verdicts s := by
  induction callbacks generalizing s with
  | nil => rfl
  | cons callback callbacks ih =>
    cases callback with
    | triggerState =>
      change verdicts (s.triggerState.runPlayerReadyCallbacks callbacks).1 = _
      rw [ih, triggerState_eq]
      rfl
    | startIfPlayersReady =>
      unfold runPlayerReadyCallbacks
      rcases startIfPlayersReady_cases s with waiting | ⟨⟨message, threw⟩, -, -⟩ | ⟨starting, -⟩
      · rw [waiting]
        exact ih s
      · rw [threw]
      · rw [starting]
        exact (ih s.start.1).trans (start_verdicts s)

theorem playerReady_verdicts (s : LiveGame) (playerId : String) (ready : Bool) :
    verdicts (s.playerReady playerId ready).1 = verdicts s := by
  unfold LiveGame.playerReady
  split
  next => rfl
  next =>
    rw [playerReadyCallbacks_verdicts]
    rfl

theorem finish_verdicts (s : LiveGame) (pid : Nat) (ok : Bool) : verdicts (s.finish pid ok) = verdicts s := by
  cases found : s.children.find? (·.pid = pid) with
  | none =>
    unfold LiveGame.finish
    rw [found]
  | some child =>
    rw [finish_eq found ok]
    rfl

theorem listen_verdicts (s : LiveGame) (listener : Listener) : verdicts (listen s listener) = verdicts s := by
  cases listener <;> rfl

/-! The score so far. -/

/-- A round that runs has no answer, and those that are over count the calls that won and that carried a value. -/
structure Tallied (s : LiveGame) (calls : List Call) : Prop where
  unanswered : ∀ round ∈ s.game.rounds, round.endTime = none → round.answer = .undefined
  right : s.game.rounds.countP right = calls.countP Call.won
  valued : s.game.rounds.countP hasValue = calls.countP Call.carried

theorem Tallied.of_verdicts {s s' : LiveGame} {calls : List Call} (tallied : Tallied s calls)
    (same : verdicts s' = verdicts s) : Tallied s' calls := by
  have counted (count : Value × ℚ × Option Nat → Bool) :
      s'.game.rounds.countP (count ∘ verdict) = s.game.rounds.countP (count ∘ verdict) := by
    rw [← List.countP_map, ← List.countP_map]
    exact congrArg (List.countP count) same
  refine ⟨fun round member running => ?_, ?_, ?_⟩
  · have listed : verdict round ∈ verdicts s := same ▸ List.mem_map_of_mem member
    obtain ⟨old, present, agrees⟩ := List.mem_map.mp listed
    have equal : old.answer = round.answer ∧ old.solution = round.solution ∧ old.endTime = round.endTime := by
      simpa [verdict] using agrees
    rw [← equal.1]
    exact tallied.unanswered old present (equal.2.2.trans running)
  · exact (counted fun (answer, solution, _) => answer.equalsNumber solution).trans tallied.right
  · exact (counted fun (answer, _, _) => !answer.isUndefined).trans tallied.valued

/-- A round that runs and that a value is set in counts once more where the value counts. -/
theorem countP_decided {rounds : List Round} {index : Nat} {old new : Round} (present : rounds[index]? = some old)
    (count : Round → Bool) (uncounted : count old = false) :
    (rounds.set index new).countP count = rounds.countP count + if count new then 1 else 0 := by
  obtain ⟨below, rfl⟩ := List.getElem?_eq_some_iff.mp present
  rw [List.countP_set below, uncounted]
  rfl

theorem tallied_answer {s : LiveGame} {calls : List Call} (tallied : Tallied s calls) (answer : Answer) :
    Tallied (s.answer answer).1 (calls ++ [callOf s answer]) := by
  rcases answer_cases s answer with ⟨round, roundObj, found, running, started⟩ | ⟨same, message, left⟩
  · have present := roundAt_some found
    have blank : roundObj.answer = .undefined :=
      tallied.unanswered roundObj (List.mem_of_getElem? present) running
    have call : callOf s answer = { answer, outcome := .right (roundObj.onAnswer answer.value s.now).2 } := by
      unfold callOf
      rw [answer_accepted s answer round roundObj found running started]
    have won : (callOf s answer).won = right (roundObj.onAnswer answer.value s.now).1 := by
      rw [call]
      unfold Call.won right Round.onAnswer
      cases answer.value.equalsNumber roundObj.solution <;> rfl
    have carried : (callOf s answer).carried = hasValue (roundObj.onAnswer answer.value s.now).1 := by
      rw [call]
      rfl
    rw [answer_accepted s answer round roundObj found running started]
    refine ⟨fun other member unended => ?_, ?_, ?_⟩
    · rcases List.mem_or_eq_of_mem_set member with earlier | rfl
      · exact tallied.unanswered other earlier unended
      · cases unended
    · have uncounted : right roundObj = false := by
        unfold right
        rw [blank]
        rfl
      rw [List.countP_append, List.countP_singleton, won, ← tallied.right]
      exact countP_decided present right uncounted
    · have uncounted : hasValue roundObj = false := by
        unfold hasValue
        rw [blank]
        rfl
      rw [List.countP_append, List.countP_singleton, carried, ← tallied.valued]
      exact countP_decided present hasValue uncounted
  · have call : callOf s answer = { answer, outcome := .left message } := congrArg (Call.mk answer) left
    rw [same, call]
    refine ⟨tallied.unanswered, ?_, ?_⟩
    · rw [List.countP_append, tallied.right]
      rfl
    · rw [List.countP_append, tallied.valued]
      rfl

theorem tallied_fire {s : LiveGame} {calls : List Call} (tallied : Tallied s calls) (handle : Nat) :
    Tallied (s.fire handle) (calls ++ (answerCall s (.action (.fire handle))).toList) := by
  have cleared : Tallied (s.clearTimeout (some handle)) calls := tallied.of_verdicts rfl
  cases found : s.timeouts.find? (·.handle = handle) with
  | none =>
    simp only [LiveGame.fire, answerCall, found, Option.map_none, Option.toList_none, List.append_nil]
    exact tallied
  | some timeout =>
    simp only [LiveGame.fire, answerCall, found, Option.map_some]
    cases timeout.callback with
    | answer round => exact tallied_answer cleared { round := .ofNat round }
    | gotoRound round =>
      dsimp only
      rw [Option.toList_none, List.append_nil]
      exact cleared.of_verdicts (gotoRound_verdicts _ round)

theorem tallied_turn {s : LiveGame} {calls : List Call} (tallied : Tallied s calls) (next : Turn) :
    Tallied (turn s next) (calls ++ (answerCall s next).toList) := by
  have silent {s' : LiveGame} (same : verdicts s' = verdicts s) : Tallied s' (calls ++ []) := by
    rw [List.append_nil]
    exact tallied.of_verdicts same
  cases next with
  | listen listener => exact silent (listen_verdicts s listener)
  | action action =>
    cases action with
    | playerReady playerId ready => exact silent (playerReady_verdicts s playerId ready)
    | answer answer => exact tallied_answer tallied answer
    | fire handle => exact tallied_fire tallied handle
    | finish pid ok => exact silent (finish_verdicts s pid ok)
    | onState socket => exact silent rfl

theorem tallied_run {s : LiveGame} {calls : List Call} (tallied : Tallied s calls) (turns : List Turn) :
    Tallied (run turn s turns) (calls ++ answerCalls s turns) := by
  induction turns generalizing s calls with
  | nil =>
    rw [answerCalls, List.append_nil]
    exact tallied
  | cons next turns ih =>
    have later := ih (tallied_turn tallied next)
    rwa [List.append_assoc] at later

/-- Nothing has been answered in a round that `createRound` has just built. -/
theorem tallied_fresh {s : LiveGame} (fresh : ∀ round ∈ s.game.rounds, round.Fresh) : Tallied s [] := by
  refine ⟨fun round member _ => (fresh round member).answer, ?_, ?_⟩
  · refine List.countP_eq_zero.mpr fun round member => ?_
    unfold right
    rw [(fresh round member).answer]
    exact Bool.false_ne_true
  · refine List.countP_eq_zero.mpr fun round member => ?_
    unfold hasValue
    rw [(fresh round member).answer]
    exact Bool.false_ne_true

theorem tallied_origin {origin : LiveGame} (begun : Origin origin) : Tallied origin [] := by
  cases begun with
  | constructed fresh =>
    refine tallied_fresh fun round member => ?_
    obtain ⟨index, present⟩ := List.getElem?_of_mem member
    exact (unstarted_of_fresh fresh).untouched index (Nat.zero_le _) round present
  | @loaded clock data s loaded =>
    obtain ⟨rounds, created, rfl⟩ := deserializeGame_ok loaded
    have blank : Tallied (reread clock data rounds) [] :=
      tallied_fresh fun round member => (fresh_rounds created round member).1
    unfold resumeGame
    split
    next => exact blank.of_verdicts (gotoRound_verdicts _ _)
    next => exact blank

/-- In every state of every game both screens show the number of calls that have returned `Right(1)`, out of the number
of accepted answers that carried a value. -/
theorem screens_show_verdicts {origin : LiveGame} (begun : Origin origin) (turns : List Turn) :
    score (run turn origin turns).game.state.json = (answerCalls origin turns).countP Call.won ∧
      correctLen (run turn origin turns).game.state.json = (answerCalls origin turns).countP Call.won ∧
      total (run turn origin turns).game.state.json = (answerCalls origin turns).countP Call.carried := by
  have tallied : Tallied (run turn origin turns) (answerCalls origin turns) := tallied_run (tallied_origin begun) turns
  rw [score_state, correctLen_state, total_state]
  exact ⟨tallied.right, tallied.right, tallied.valued⟩

/-- The first round is won, the second one lost with a value that is no number. -/
def sampleAnswers : List Turn :=
  [.action (.playerReady "pete" true), .action (.playerReady "kate" true),
    .action (.answer { round := .ofNat 0, value := .number (.ofNat 0) }), .action (.fire 1),
    .action (.answer { round := .ofNat 1, value := .string "1" })]

theorem screens_show_verdicts_sample :
    score (run turn sample sampleAnswers).game.state.json = 1 ∧
      correctLen (run turn sample sampleAnswers).game.state.json = 1 ∧
      total (run turn sample sampleAnswers).game.state.json = 2 := by
  obtain ⟨score, correctLen, total⟩ := screens_show_verdicts (.constructed sample_fresh) sampleAnswers
  rw [score, correctLen, total]
  decide +kernel

end DfStudy.ScoreScreens
