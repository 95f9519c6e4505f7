import DfStudy.Games

/-! What the listeners of a game do: they add effects and spawn processes, and leave the game, its
timeouts and its clock alone. Each trigger appends one block of effects, named here. -/

namespace DfStudy.GameFrames
open Js Rounds Attacks Games Support.Machine

def stateEffect (data : GameData) : StateCallback → Effect
  | .saveGame => .saveGame data
  | .emitState socket => .emitState socket data

def stateBlock (game : Game) : List Effect :=
  .trigger .state :: game.cbMap.state.map (stateEffect game.state)

def stopEffects (game : Game) : StopCallback → List Effect
  | .triggerState => stateBlock game
  | .setCurrentGame sessionId gameId => [.setCurrentGame sessionId gameId]

/-- The commands one listener of 'round' spawns, each with the command chained to it. -/
def spawned (round : Nat) : RoundCallback → List (Command × Option Command)
  | .triggerState => []
  | .scheduledAttack grpcPort attack =>
    (if round = attack.round then [(attack.mute grpcPort, some (attack.spoof grpcPort))] else []) ++
      if round = attack.round + 1 then [(attack.unmute grpcPort, none)] else []

def roundEffects (game : Game) (round : Nat) : RoundCallback → List Effect
  | .triggerState => stateBlock game
  | callback => (spawned round callback).map fun (command, next) => .exec command next

def answerBlock (game : Game) (answer : Answer) : List Effect :=
  .trigger (.answer answer) :: game.cbMap.answer.flatMap fun _ => stateBlock game

def startBlock (game : Game) : List Effect :=
  .trigger .start :: game.cbMap.start.flatMap fun _ => stateBlock game

def stopBlock (game : Game) : List Effect :=
  .trigger .stop :: game.cbMap.stop.flatMap (stopEffects game)

def roundBlock (game : Game) (round : Nat) : List Effect :=
  .trigger (.round round) :: game.cbMap.round.flatMap (roundEffects game round)

def adding (s : LiveGame) (effects : List Effect) : LiveGame :=
  { s with effects := s.effects ++ effects }

def numbered : Nat → List (Command × Option Command) → List Child
  | _, [] => []
  | pid, (command, next) :: jobs => { pid, command, next } :: numbered (pid + 1) jobs

def spawning (s : LiveGame) (jobs : List (Command × Option Command)) : LiveGame :=
  { s with children := s.children ++ numbered s.pids jobs, pids := s.pids + jobs.length }

open LiveGame

@[simp] theorem adding_nil (s : LiveGame) : adding s [] = s := by
  simp [adding]

@[simp] theorem spawning_nil (s : LiveGame) : spawning s [] = s := by
  simp [spawning, numbered]

theorem emit_eq_adding (s : LiveGame) (effect : Effect) : s.emit effect = adding s [effect] := rfl

theorem adding_adding (s : LiveGame) (first second : List Effect) :
    adding (adding s first) second = adding s (first ++ second) := by
  simp [adding]

/-- Callbacks that only add effects read off the game add them all, in registration order. -/
theorem run_adding {Callback : Type} {call : LiveGame → Callback → LiveGame}
    (block : Game → Callback → List Effect)
    (adds : ∀ s callback, call s callback = adding s (block s.game callback))
    (s : LiveGame) (callbacks : List Callback) :
    run call s callbacks = adding s (callbacks.flatMap (block s.game)) := by
  induction callbacks generalizing s with
  | nil => simp
  | cons callback callbacks ih =>
    rw [run_cons, adds, ih, adding_adding]
    rfl

theorem triggerState_eq (s : LiveGame) : s.triggerState = adding s (stateBlock s.game) := by
  have adds : ∀ (s : LiveGame) (callback : StateCallback),
      s.runStateCallback callback = adding s [stateEffect s.game.state callback] := by
    intro s callback
    cases callback <;> rfl
  unfold triggerState
  rw [run_adding (fun game callback => [stateEffect game.state callback]) adds, emit_eq_adding, adding_adding,
    ← List.map_eq_flatMap]
  rfl

theorem runTriggerCallback_eq (s : LiveGame) (callback : TriggerCallback) :
    s.runTriggerCallback callback = adding s (stateBlock s.game) := by
  cases callback
  exact triggerState_eq s

theorem triggerAnswer_eq (s : LiveGame) (answer : Answer) :
    s.triggerAnswer answer = adding s (answerBlock s.game answer) := by
  unfold triggerAnswer
  rw [run_adding (fun game _ => stateBlock game) runTriggerCallback_eq, emit_eq_adding, adding_adding]
  rfl

theorem triggerStart_eq (s : LiveGame) : s.triggerStart = adding s (startBlock s.game) := by
  unfold triggerStart
  rw [run_adding (fun game _ => stateBlock game) runTriggerCallback_eq, emit_eq_adding, adding_adding]
  rfl

theorem triggerStop_eq (s : LiveGame) : s.triggerStop = adding s (stopBlock s.game) := by
  have adds : ∀ (s : LiveGame) (callback : StopCallback),
      s.runStopCallback callback = adding s (stopEffects s.game callback) := by
    intro s callback
    cases callback with
    | triggerState => exact triggerState_eq s
    | setCurrentGame sessionId gameId => rfl
  unfold triggerStop
  rw [run_adding stopEffects adds, emit_eq_adding, adding_adding]
  rfl

theorem numbered_append (pid : Nat) (first second : List (Command × Option Command)) :
    numbered pid (first ++ second) = numbered pid first ++ numbered (pid + first.length) second := by
  induction first generalizing pid with
  | nil => rfl
  | cons job jobs ih =>
    obtain ⟨command, next⟩ := job
    simp only [List.cons_append, numbered, ih, List.length_cons]
    rw [Nat.add_right_comm, Nat.add_assoc]

theorem spawning_spawning (s : LiveGame) (first second : List (Command × Option Command)) :
    spawning (spawning s first) second = spawning s (first ++ second) := by
  simp [spawning, numbered_append, Nat.add_assoc]

theorem spawning_adding (s : LiveGame) (jobs : List (Command × Option Command)) (effects : List Effect) :
    adding (spawning s jobs) effects = spawning (adding s effects) jobs := rfl

theorem onRound_eq (s : LiveGame) (grpcPort : Nat) (attack : Attack) (round : Nat) :
    s.onRound grpcPort attack round =
      spawning (adding s (roundEffects s.game round (.scheduledAttack grpcPort attack)))
        (spawned round (.scheduledAttack grpcPort attack)) := by
  by_cases launch : round = attack.round
  · have later : ¬round = attack.round + 1 := by omega
    simp only [onRound, roundEffects, spawned, if_pos launch, if_neg later]
    rfl
  · by_cases unmutes : round = attack.round + 1
    · simp only [onRound, roundEffects, spawned, if_neg launch, if_pos unmutes]
      rfl
    · simp [onRound, roundEffects, spawned, launch, unmutes]

theorem triggerRound_eq (s : LiveGame) (round : Nat) :
    s.triggerRound round = spawning (adding s (roundBlock s.game round))
      (s.game.cbMap.round.flatMap (spawned round)) := by
  have calls : ∀ (s : LiveGame) (callback : RoundCallback), runRoundCallback round s callback =
      spawning (adding s (roundEffects s.game round callback)) (spawned round callback) := by
    intro s callback
    cases callback with
    | triggerState =>
      rw [spawned, spawning_nil]
      exact triggerState_eq s
    | scheduledAttack grpcPort attack => exact onRound_eq s grpcPort attack round
  have all : ∀ (callbacks : List RoundCallback) (s : LiveGame), run (runRoundCallback round) s callbacks =
      spawning (adding s (callbacks.flatMap (roundEffects s.game round)))
        (callbacks.flatMap (spawned round)) := by
    intro callbacks
    induction callbacks with
    | nil => simp
    | cons callback callbacks ih =>
      intro s
      rw [run_cons, calls, ih, spawning_adding, adding_adding, spawning_spawning]
      rfl
  unfold triggerRound
  rw [all, emit_eq_adding, adding_adding]
  rfl

/-! Reading a log of effects. An observation that ignores the routine effects sees of each block
only what the block is named after. -/

/-- Effects that come with every change of a game. -/
def routine : Effect → Bool
  | .trigger .start | .trigger .state | .trigger (.answer _) | .trigger (.playerReady _) => true
  | .saveGame _ | .emitState _ _ => true
  | _ => false

/-- What the listeners of 'stop' fork besides the save. -/
def forked : StopCallback → List (Nat × String)
  | .triggerState => []
  | .setCurrentGame sessionId gameId => [(sessionId, gameId)]

theorem filterMap_cons_toList {α β : Type} (observe : α → Option β) (first : α) (rest : List α) :
    (first :: rest).filterMap observe = (observe first).toList ++ rest.filterMap observe := by
  cases seen : observe first <;> simp [seen]

/-- The routine effects that a 'state' comes with. -/
def published : Effect → Bool
  | .trigger .state | .saveGame _ | .emitState _ _ => true
  | _ => false

theorem published_stateBlock (game : Game) : ∀ effect ∈ stateBlock game, published effect := by
  intro effect member
  rcases List.mem_cons.mp member with rfl | handed
  · rfl
  · obtain ⟨callback, _, rfl⟩ := List.mem_map.mp handed
    cases callback <;> rfl

theorem routine_of_published {effect : Effect} (quiet : published effect) : routine effect := by
  cases effect with
  | trigger event => cases event <;> first | rfl | cases quiet
  | saveGame data => rfl
  | emitState socket data => rfl
  | setCurrentGame sessionId gameId => cases quiet
  | exec command next => cases quiet
  | exit child ok => cases quiet

theorem routine_stateBlock (game : Game) : ∀ effect ∈ stateBlock game, routine effect :=
  fun effect member => routine_of_published (published_stateBlock game effect member)

section
variable {Seen : Type} {observe : Effect → Option Seen}
  (ignores : ∀ effect, routine effect → observe effect = none)
include ignores

theorem observe_stateBlock (game : Game) : (stateBlock game).filterMap observe = [] :=
  List.filterMap_eq_nil_iff.mpr fun effect member => ignores effect (routine_stateBlock game effect member)

theorem observe_stateBlocks {Callback : Type} (game : Game) (callbacks : List Callback) :
    (callbacks.flatMap fun _ => stateBlock game).filterMap observe = [] := by
  rw [List.filterMap_flatMap]
  simp [observe_stateBlock ignores]

theorem observe_answerBlock (game : Game) (answer : Answer) : (answerBlock game answer).filterMap observe = [] := by
  rw [answerBlock, filterMap_cons_toList, ignores _ rfl, observe_stateBlocks ignores]
  rfl

theorem observe_startBlock (game : Game) : (startBlock game).filterMap observe = [] := by
  rw [startBlock, filterMap_cons_toList, ignores _ rfl, observe_stateBlocks ignores]
  rfl

theorem observe_stopBlock (game : Game) : (stopBlock game).filterMap observe =
    (observe (.trigger .stop)).toList ++
      (game.cbMap.stop.flatMap forked).filterMap fun (sessionId, gameId) => observe (.setCurrentGame sessionId gameId) := by
  rw [stopBlock, filterMap_cons_toList, List.filterMap_flatMap, List.filterMap_flatMap]
  congr 2
  funext callback
  cases callback with
  | triggerState => exact observe_stateBlock ignores game
  | setCurrentGame sessionId gameId => rfl

theorem observe_roundBlock (game : Game) (round : Nat) : (roundBlock game round).filterMap observe =
    (observe (.trigger (.round round))).toList ++
      (game.cbMap.round.flatMap (spawned round)).filterMap fun (command, next) => observe (.exec command next) := by
  rw [roundBlock, filterMap_cons_toList, List.filterMap_flatMap, List.filterMap_flatMap]
  congr 2
  funext callback
  cases callback with
  | triggerState => exact observe_stateBlock ignores game
  | scheduledAttack grpcPort attack =>
    change ((spawned round (.scheduledAttack grpcPort attack)).map _).filterMap observe = _
    rw [List.filterMap_map]
    rfl

end

/-- What follows the end of a process. -/
def chained (child : Child) (ok : Bool) : List (Command × Option Command) :=
  if ok then child.next.toList.map (·, none) else []

theorem finish_eq {s : LiveGame} {pid : Nat} {child : Child} (found : s.children.find? (·.pid = pid) = some child)
    (ok : Bool) : s.finish pid ok =
      spawning (adding { s with children := s.children.filter (·.pid ≠ pid) }
        (.exit child ok :: (chained child ok).map fun (command, next) => .exec command next)) (chained child ok) := by
  unfold LiveGame.finish
  rw [found]
  dsimp only
  cases ok with
  | false => simp [LiveGame.emit, chained, spawning, adding, numbered]
  | true => cases next : child.next <;> simp [LiveGame.emit, LiveGame.execF, chained, spawning, adding, numbered, next]

/-! What each method does to the game, its timeouts and its effects. -/

/-- The game after `this.endTime = Date.now()`. -/
def ended (s : LiveGame) : Game := { s.game with endTime := some s.now }

/-- The game after round `round` has been made current and stamped. -/
def entered (s : LiveGame) (round : Nat) (roundObj : Round) : Game :=
  { s.game with
    currentRound := round
    rounds := s.game.rounds.set round { roundObj with startTime := some s.now } }

theorem stop_eq (s : LiveGame) :
    s.stop = adding { s.tick with game := ended s } (stopBlock (ended s)) := by
  unfold LiveGame.stop
  rw [triggerStop_eq]
  rfl

theorem gotoRound_past (s : LiveGame) (round : Nat) (past : s.game.rounds[round]? = none) :
    (s.gotoRound round).1 = (s.setCurrentRound round).stop := by
  unfold gotoRound
  simp only [setCurrentRound]
  rw [past]

theorem gotoRound_enters (s : LiveGame) (round : Nat) (roundObj : Round)
    (found : s.game.rounds[round]? = some roundObj) :
    (s.gotoRound round).1 =
      (spawning (adding { s.tick with game := entered s round roundObj } (roundBlock (entered s round roundObj) round))
        (s.game.cbMap.round.flatMap (spawned round))).scheduleTimer (.answer round) roundObj.msLength := by
  unfold gotoRound
  simp only [setCurrentRound]
  rw [found]
  simp only [triggerRound_eq]
  rfl

/-- The game after its round `round` has been answered. -/
def answered (s : LiveGame) (round : Nat) (roundObj : Round) (answer : Answer) : Game :=
  { s.game with rounds := s.game.rounds.set round (roundObj.onAnswer answer.value s.now).1 }

theorem answer_accepted (s : LiveGame) (answer : Answer) (round : Nat) (roundObj : Round)
    (found : s.roundAt answer.round = some (round, roundObj)) (running : roundObj.endTime = none)
    (started : roundObj.startTime.isSome) :
    s.answer answer =
      ((adding { (s.clearTimeout s.gameTimers).tick with game := answered s round roundObj answer }
          (answerBlock s.game answer)).setTimeout (.gotoRound (round + 1)) 1000,
        .right (roundObj.onAnswer answer.value s.now).2) := by
  have unended : ¬roundObj.endTime.isSome := by simp [running]
  have unblocked : ¬roundObj.startTime.isNone := by simpa using Option.isSome_iff_ne_none.mp started
  unfold LiveGame.answer
  rw [found]
  simp only [if_neg unended, if_neg unblocked, triggerAnswer_eq]
  rw [if_pos (onAnswer_status _ _ _)]
  rfl

theorem answer_rejected (s : LiveGame) (answer : Answer)
    (rejected : ∀ round roundObj, s.roundAt answer.round = some (round, roundObj) →
      roundObj.endTime.isSome ∨ roundObj.startTime = none) :
    (s.answer answer).1 = s ∧ ∃ message, (s.answer answer).2 = .left message := by
  unfold LiveGame.answer
  cases found : s.roundAt answer.round with
  | none => exact ⟨rfl, _, rfl⟩
  | some slot =>
    obtain ⟨round, roundObj⟩ := slot
    simp only
    by_cases hasEnded : roundObj.endTime.isSome
    · rw [if_pos hasEnded]
      exact ⟨rfl, _, rfl⟩
    · have unstarted : roundObj.startTime.isNone := by
        rcases rejected round roundObj found with ended | never
        · exact absurd ended hasEnded
        · simp [never]
      rw [if_neg hasEnded, if_pos unstarted]
      exact ⟨rfl, _, rfl⟩

/-- An answer is for a round that runs, or changes nothing. -/
theorem answer_cases (s : LiveGame) (answer : Answer) :
    (∃ round roundObj, s.roundAt answer.round = some (round, roundObj) ∧ roundObj.endTime = none ∧
        roundObj.startTime.isSome) ∨
      (s.answer answer).1 = s ∧ ∃ message, (s.answer answer).2 = .left message := by
  by_cases accepted : ∃ round roundObj, s.roundAt answer.round = some (round, roundObj) ∧
      roundObj.endTime = none ∧ roundObj.startTime.isSome
  · exact .inl accepted
  · refine .inr (answer_rejected s answer fun round roundObj found => ?_)
    by_contra live
    rw [not_or] at live
    exact accepted ⟨round, roundObj, found, by simpa using live.1, Option.isSome_iff_ne_none.mpr live.2⟩

theorem roundAt_some {s : LiveGame} {key : Number} {round : Nat} {roundObj : Round}
    (found : s.roundAt key = some (round, roundObj)) : s.game.rounds[round]? = some roundObj := by
  unfold roundAt at found
  obtain ⟨index, _, located⟩ := Option.bind_eq_some_iff.mp found
  obtain ⟨value, present, same⟩ := Option.map_eq_some_iff.mp located
  cases same
  exact present

@[simp] theorem roundAt_ofNat (s : LiveGame) (round : Nat) :
    s.roundAt (.ofNat round) = s.game.rounds[round]?.map (round, ·) := by
  simp [roundAt]

end DfStudy.GameFrames
