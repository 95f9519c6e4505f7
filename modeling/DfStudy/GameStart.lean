import DfStudy.LoadedGame
import DfStudy.Presence

/-! How a game starts: in the one call that completes the ready flags, whatever else is called and fires around it. -/

namespace DfStudy.GameStart
open Games GameFrames GameControl GameInvariant LoadedGame Presence Support.Machine LiveGame

/-- The listeners of 'player_ready', as the constructor leaves them. -/
abbrev Listens (s : LiveGame) : Prop := s.game.cbMap.playerReady = [.startIfPlayersReady, .triggerState]

def Known (s : LiveGame) (playerId : String) : Prop := ∃ player ∈ s.game.players, player.playerId = playerId

/-- A call of `playerReady` with both flags set after it. -/
def BothAfter (s : LiveGame) (action : Action) : Prop :=
  ∃ playerId ready, action = .playerReady playerId ready ∧ BothReady (step s action).game.players

/-- Such a call, for a player of the game. -/
def Completes (s : LiveGame) (action : Action) : Prop :=
  ∃ playerId ready, action = .playerReady playerId ready ∧ Known s playerId ∧ BothReady (step s action).game.players

def startOf : Effect → Option Unit
  | .trigger .start => some ()
  | _ => none

/-- How often 'start' has been triggered. -/
def starts (s : LiveGame) : Nat := (s.effects.filterMap startOf).length

/-- The game does not move, and neither do its timers. -/
structure Unmoved (s s' : LiveGame) : Prop where
  startTime : s'.game.startTime = s.game.startTime
  currentRound : s'.game.currentRound = s.game.currentRound
  rounds : s'.game.rounds = s.game.rounds
  gameTimers : s'.gameTimers = s.gameTimers
  timeouts : s'.timeouts = s.timeouts

/-! Counting. -/

theorem starts_adding (s : LiveGame) (block : List Effect) :
    starts (adding s block) = starts s + (block.filterMap startOf).length := by
  unfold starts adding
  rw [List.filterMap_append, List.length_append]

theorem startOf_published {block : List Effect} (quiet : ∀ effect ∈ block, published effect) :
    block.filterMap startOf = [] := by
  rw [List.filterMap_eq_nil_iff]
  intro effect member
  have known := quiet effect member
  cases effect with
  | trigger event => cases event <;> first | rfl | cases known
  | _ => rfl

theorem startOf_stateBlock (game : Game) : (stateBlock game).filterMap startOf = [] :=
  startOf_published (published_stateBlock game)

theorem startOf_flatMap {Callback : Type} {block : Callback → List Effect} (callbacks : List Callback)
    (quiet : ∀ callback, (block callback).filterMap startOf = []) :
    (callbacks.flatMap block).filterMap startOf = [] := by
  rw [List.filterMap_flatMap, List.flatMap_eq_nil_iff]
  exact fun callback _ => quiet callback

theorem startOf_answerBlock (game : Game) (answer : Rounds.Answer) : (answerBlock game answer).filterMap startOf = [] :=
  startOf_flatMap _ fun _ => startOf_stateBlock game

theorem startOf_startBlock (game : Game) : (startBlock game).filterMap startOf = [()] :=
  congrArg (() :: ·) (startOf_flatMap _ fun _ => startOf_stateBlock game)

theorem startOf_stopBlock (game : Game) : (stopBlock game).filterMap startOf = [] := by
  have quiet : ∀ callback, (stopEffects game callback).filterMap startOf = [] := by
    intro callback
    cases callback with
    | triggerState => exact startOf_stateBlock game
    | setCurrentGame sessionId gameId => rfl
  exact startOf_flatMap _ quiet

theorem startOf_execs (jobs : List (Attacks.Command × Option Attacks.Command)) :
    (jobs.map fun (command, next) => Effect.exec command next).filterMap startOf = [] := by
  rw [List.filterMap_map, List.filterMap_eq_nil_iff]
  exact fun _ _ => rfl

theorem startOf_roundBlock (game : Game) (round : Nat) : (roundBlock game round).filterMap startOf = [] := by
  have quiet : ∀ callback, (roundEffects game round callback).filterMap startOf = [] := by
    intro callback
    cases callback with
    | triggerState => exact startOf_stateBlock game
    | scheduledAttack grpcPort attack => exact startOf_execs _
  exact startOf_flatMap _ quiet

/-! The calls that do not start a game. -/

theorem gotoRound_starts (s : LiveGame) (round : Nat) : starts (s.gotoRound round).1 = starts s := by
  cases found : s.game.rounds[round]? with
  | none =>
    rw [gotoRound_past s round found, stop_eq, starts_adding, startOf_stopBlock]
    rfl
  | some roundObj =>
    rw [gotoRound_enters s round roundObj found]
    show starts (adding _ (roundBlock _ round)) = _
    rw [starts_adding, startOf_roundBlock]
    rfl

theorem answer_starts (s : LiveGame) (answer : Rounds.Answer) : starts (s.answer answer).1 = starts s := by
  unfold LiveGame.answer
  split
  next => rfl
  next round roundObj _ =>
    split
    next => rfl
    next =>
      split
      next => rfl
      next =>
        have triggered : starts ((s.clearTimeout s.gameTimers).triggerAnswer answer) = starts s := by
          rw [triggerAnswer_eq, starts_adding, startOf_answerBlock]
          rfl
        dsimp only
        split
        next => exact triggered
        next => exact triggered

theorem step_starts {s : LiveGame} {action : Action} (other : ∀ playerId ready, action ≠ .playerReady playerId ready) :
    starts (step s action) = starts s := by
  cases action with
  | playerReady playerId ready => exact absurd rfl (other playerId ready)
  | answer answer => exact answer_starts s answer
  | fire handle =>
    show starts (s.fire handle) = starts s
    unfold LiveGame.fire
    split
    next => rfl
    next timeout _ =>
      cases timeout.callback with
      | answer round => exact answer_starts (s.clearTimeout (some handle)) { round := .ofNat round }
      | gotoRound round => exact gotoRound_starts (s.clearTimeout (some handle)) round
  | finish pid ok =>
    show starts (s.finish pid ok) = starts s
    cases found : s.children.find? (·.pid = pid) with
    | none =>
      unfold LiveGame.finish
      rw [found]
    | some child =>
      rw [finish_eq found ok]
      show starts (adding _ (.exit child ok :: _)) = _
      rw [starts_adding, filterMap_cons_toList, startOf_execs]
      rfl
  | onState socket => rfl

/-! The call that does. -/

theorem startIfPlayersReady_starting {s : LiveGame} (never : s.game.startTime = none)
    (both : BothReady s.game.players) : s.startIfPlayersReady = (s.start.1, .right true) := by
  obtain ⟨blue, red, rest, players, blueReady, redReady⟩ := both
  unfold startIfPlayersReady
  simp only [never, players, blueReady, redReady]
  rfl

theorem startIfPlayersReady_waiting {s : LiveGame} (waiting : s.game.startTime.isSome ∨ ¬BothReady s.game.players) :
    s.startIfPlayersReady.1 = s := by
  unfold startIfPlayersReady
  split
  next => rfl
  next unstarted =>
    split
    next => rfl
    next blue rest players =>
      split
      next => rfl
      next blueReady =>
        split
        next => rfl
        next red others =>
          split
          next => rfl
          next redReady =>
            have both : BothReady s.game.players :=
              ⟨blue, red, others, players, by simpa using blueReady, by simpa using redReady⟩
            exact (waiting.elim unstarted fun lacking => lacking both).elim

theorem start_starts (s : LiveGame) : starts s.start.1 = starts s + 1 := by
  show starts ((stamped s).gotoRound 0).1.triggerStart = _
  rw [triggerStart_eq, starts_adding, startOf_startBlock, gotoRound_starts]
  rfl

theorem start_lineup (s : LiveGame) : lineup s.start.1 = (s.game.gameId, s.game.players, some s.now) := by
  show lineup ((stamped s).gotoRound 0).1.triggerStart = _
  rw [triggerStart_eq]
  exact gotoRound_lineup (stamped s) 0

/-- The flag is set, and the listeners have not been called yet. -/
def flagged (s : LiveGame) (index : Nat) (playerId : String) (ready : Bool) : LiveGame :=
  adding (withPlayers s (s.game.players.modify index ({ · with ready }))) [.trigger (.playerReady { playerId, ready })]

theorem flagged_starts (s : LiveGame) (index : Nat) (playerId : String) (ready : Bool) :
    starts (flagged s index playerId ready) = starts s := by
  unfold flagged
  rw [starts_adding]
  rfl

section
variable {s : LiveGame} {playerId : String} {ready : Bool} {index : Nat}

theorem playerReady_located (listens : Listens s) (located : s.game.players.findIdx? (·.playerId = playerId) = some index) :
    s.playerReady playerId ready =
      (flagged s index playerId ready).runPlayerReadyCallbacks [.startIfPlayersReady, .triggerState] := by
  unfold LiveGame.playerReady
  rw [located]
  dsimp only
  rw [listens]
  rfl

theorem playerReady_waiting (listens : Listens s) (located : s.game.players.findIdx? (·.playerId = playerId) = some index)
    (waiting : s.game.startTime.isSome ∨ ¬BothReady (s.game.players.modify index ({ · with ready }))) :
    ∃ block, (s.playerReady playerId ready).1 = adding (flagged s index playerId ready) block ∧
      ∀ effect ∈ block, published effect := by
  have still : (flagged s index playerId ready).startIfPlayersReady.1 = flagged s index playerId ready :=
    startIfPlayersReady_waiting waiting
  rw [playerReady_located listens located]
  unfold runPlayerReadyCallbacks
  split
  next after message threw =>
    rw [threw] at still
    exact ⟨[], still.trans (adding_nil _).symm, fun _ member => nomatch member⟩
  next after outcome _ returned =>
    rw [returned] at still
    have same : after = flagged s index playerId ready := still
    unfold runPlayerReadyCallbacks runPlayerReadyCallbacks
    rw [same, triggerState_eq]
    exact ⟨_, rfl, published_stateBlock _⟩

theorem playerReady_starting (listens : Listens s) (located : s.game.players.findIdx? (·.playerId = playerId) = some index)
    (never : s.game.startTime = none) (both : BothReady (s.game.players.modify index ({ · with ready }))) :
    ∃ block, (s.playerReady playerId ready).1 = adding (flagged s index playerId ready).start.1 block ∧
      ∀ effect ∈ block, published effect := by
  have starting : (flagged s index playerId ready).startIfPlayersReady =
      ((flagged s index playerId ready).start.1, .right true) := startIfPlayersReady_starting never both
  rw [playerReady_located listens located]
  unfold runPlayerReadyCallbacks
  rw [starting]
  dsimp only
  unfold runPlayerReadyCallbacks runPlayerReadyCallbacks
  rw [triggerState_eq]
  exact ⟨_, rfl, published_stateBlock _⟩

theorem playerReady_unknown (unknown : ¬Known s playerId) :
    s.playerReady playerId ready = (s, .left "Player not found in game.") := by
  have absent : s.game.players.findIdx? (·.playerId = playerId) = none := by
    rw [List.findIdx?_eq_none_iff]
    intro player member
    exact decide_eq_false fun same => unknown ⟨player, member, same⟩
  unfold LiveGame.playerReady
  rw [absent]

theorem located_of_known (known : Known s playerId) :
    ∃ index, s.game.players.findIdx? (·.playerId = playerId) = some index := by
  obtain ⟨player, member, same⟩ := known
  refine Option.isSome_iff_exists.mp ?_
  rw [List.findIdx?_isSome, List.any_eq_true]
  exact ⟨player, member, decide_eq_true same⟩

end

/-! One turn. -/

section
variable {s : LiveGame}

theorem listens_step (listens : Listens s) (action : Action) : Listens (step s action) := by
  unfold Listens
  rw [step_cbMap]
  cases action <;> exact listens

/-- What a turn leaves of the start of a game. -/
def Passes (s : LiveGame) (action : Action) : Prop :=
  (step s action).game.startTime = s.game.startTime ∧ starts (step s action) = starts s ∧
    (s.game.startTime.isSome ∨ ¬Completes s action)

/-- The turn that starts the game. -/
def Begins (s : LiveGame) (action : Action) : Prop :=
  s.game.startTime = none ∧ Completes s action ∧ (step s action).game.startTime.isSome ∧
    starts (step s action) = starts s + 1

theorem waiting_passes {playerId : String} {ready : Bool} {index : Nat} (listens : Listens s)
    (located : s.game.players.findIdx? (·.playerId = playerId) = some index)
    (waiting : s.game.startTime.isSome ∨ ¬BothReady (s.game.players.modify index ({ · with ready }))) :
    Passes s (.playerReady playerId ready) := by
  obtain ⟨block, result, quiet⟩ := playerReady_waiting listens located waiting
  have after : step s (.playerReady playerId ready) = adding (flagged s index playerId ready) block := result
  unfold Passes
  rw [after, starts_adding, startOf_published quiet, flagged_starts]
  refine ⟨rfl, rfl, waiting.imp_right fun lacking completes => ?_⟩
  obtain ⟨_, _, _, _, both⟩ := completes
  rw [after] at both
  exact lacking both

theorem starting_begins {playerId : String} {ready : Bool} {index : Nat} (listens : Listens s)
    (located : s.game.players.findIdx? (·.playerId = playerId) = some index) (known : Known s playerId)
    (never : s.game.startTime = none) (both : BothReady (s.game.players.modify index ({ · with ready }))) :
    Begins s (.playerReady playerId ready) := by
  obtain ⟨block, result, quiet⟩ := playerReady_starting listens located never both
  have after : step s (.playerReady playerId ready) = adding (flagged s index playerId ready).start.1 block := result
  have line := start_lineup (flagged s index playerId ready)
  have players : (flagged s index playerId ready).start.1.game.players = _ := congrArg (·.2.1) line
  have startTime : (flagged s index playerId ready).start.1.game.startTime = _ := congrArg (·.2.2) line
  refine ⟨never, ⟨playerId, ready, rfl, known, ?_⟩, ?_, ?_⟩
  · rw [after]
    show BothReady (flagged s index playerId ready).start.1.game.players
    rw [players]
    exact both
  · rw [after]
    show (flagged s index playerId ready).start.1.game.startTime.isSome = true
    rw [startTime]
    rfl
  · rw [after, starts_adding, startOf_published quiet, start_starts, flagged_starts]
    rfl

theorem step_either (listens : Listens s) (action : Action) : Passes s action ∨ Begins s action := by
  by_cases calls : ∃ playerId ready, action = .playerReady playerId ready
  · obtain ⟨playerId, ready, rfl⟩ := calls
    by_cases known : Known s playerId
    · obtain ⟨index, located⟩ := located_of_known known
      by_cases waiting : s.game.startTime.isSome ∨ ¬BothReady (s.game.players.modify index ({ · with ready }))
      · exact .inl (waiting_passes listens located waiting)
      · rw [not_or, not_not] at waiting
        exact .inr (starting_begins listens located known (by simpa using waiting.1) waiting.2)
    · have same : step s (.playerReady playerId ready) = s := congrArg Prod.fst (playerReady_unknown known)
      refine .inl ⟨by rw [same], by rw [same], .inr ?_⟩
      rintro ⟨_, _, call, here, _⟩
      cases call
      exact known here
  · have other : ∀ playerId ready, action ≠ .playerReady playerId ready :=
      fun playerId ready call => calls ⟨playerId, ready, call⟩
    have line := step_lineup (s := s) other
    refine .inl ⟨congrArg (·.2.2) line, step_starts other, .inr ?_⟩
    rintro ⟨playerId, ready, call, _⟩
    exact other playerId ready call

theorem step_started (listens : Listens s) (action : Action) :
    (step s action).game.startTime.isSome ↔ s.game.startTime.isSome ∨ Completes s action := by
  rcases step_either listens action with ⟨same, -, passed⟩ | ⟨never, completes, now, -⟩
  · rw [same]
    exact ⟨.inl, fun set => set.elim id fun completes => passed.resolve_right (not_not_intro completes)⟩
  · exact iff_of_true now (.inr completes)

/-- A game that has been started has triggered 'start' once, any other has not. -/
def Counted (count : Nat) (s : LiveGame) : Prop := starts s = count + if s.game.startTime.isSome then 1 else 0

theorem counted_step {count : Nat} (listens : Listens s) (counted : Counted count s) (action : Action) :
    Counted count (step s action) := by
  unfold Counted at counted ⊢
  rcases step_either listens action with ⟨same, starts, -⟩ | ⟨never, -, now, starts⟩
  · rw [starts, same]
    exact counted
  · rw [starts, counted, never, now]
    rfl

/-- A call for a player of a game that runs sets the flag and nothing else. -/
theorem playerReady_unmoved (listens : Listens s) (started : s.game.startTime.isSome) (playerId : String) (ready : Bool) :
    Unmoved s (s.playerReady playerId ready).1 := by
  by_cases known : Known s playerId
  · obtain ⟨index, located⟩ := located_of_known known
    have waits : ∃ block, (s.playerReady playerId ready).1 = adding (flagged s index playerId ready) block ∧
        ∀ effect ∈ block, published effect := playerReady_waiting listens located (.inl started)
    obtain ⟨block, result, -⟩ := waits
    rw [result]
    exact ⟨rfl, rfl, rfl, rfl, rfl⟩
  · rw [playerReady_unknown known]
    exact ⟨rfl, rfl, rfl, rfl, rfl⟩

/-- As long as the flags are not both set, it takes a player of the game to set the second one. -/
theorem bothAfter_iff (lacking : ¬BothReady s.game.players) (action : Action) :
    BothAfter s action ↔ Completes s action := by
  constructor
  · rintro ⟨playerId, ready, rfl, both⟩
    refine ⟨playerId, ready, rfl, ?_, both⟩
    by_contra unknown
    have same : step s (.playerReady playerId ready) = s := congrArg Prod.fst (playerReady_unknown unknown)
    rw [same] at both
    exact lacking both
  · rintro ⟨playerId, ready, call, -, both⟩
    exact ⟨playerId, ready, call, both⟩

theorem lacking_step (lacking : ¬BothReady s.game.players) {action : Action} (not : ¬BothAfter s action) :
    ¬BothReady (step s action).game.players := by
  intro both
  by_cases calls : ∃ playerId ready, action = .playerReady playerId ready
  · obtain ⟨playerId, ready, call⟩ := calls
    exact not ⟨playerId, ready, call, both⟩
  · have line := step_lineup (s := s) fun playerId ready call => calls ⟨playerId, ready, call⟩
    have players : (step s action).game.players = s.game.players := congrArg (·.2.1) line
    rw [players] at both
    exact lacking both

end

/-! Whole runs. -/

theorem silent_iff {s : LiveGame} (lacking : ¬BothReady s.game.players) (before : List Action) :
    Permitted step (fun s action => ¬BothAfter s action) s before ↔
      Permitted step (fun s action => ¬Completes s action) s before := by
  induction before generalizing s with
  | nil => exact Iff.rfl
  | cons action before ih =>
    have same := not_congr (bothAfter_iff lacking action)
    constructor
    · intro ⟨here, later⟩
      exact ⟨same.mp here, (ih (lacking_step lacking here)).mp later⟩
    · intro ⟨here, later⟩
      exact ⟨same.mpr here, (ih (lacking_step lacking (same.mpr here))).mpr later⟩

theorem lacking_run {s : LiveGame} (lacking : ¬BothReady s.game.players) {before : List Action}
    (silent : Permitted step (fun s action => ¬BothAfter s action) s before) :
    ¬BothReady (run step s before).game.players := by
  have lacks : ∀ (s : LiveGame) (action : Action), ¬BothAfter s action → ¬BothReady s.game.players →
      ¬BothReady (step s action).game.players := fun s action not lacking => lacking_step lacking not
  exact run_invariant_of_permitted (fun s => ¬BothReady s.game.players) lacks silent lacking

theorem first_iff {s : LiveGame} (lacking : ¬BothReady s.game.players) (before : List Action) (action : Action) :
    First step BothAfter s before action ↔ First step Completes s before action := by
  unfold First
  rw [← silent_iff lacking]
  exact and_congr_right fun silent => bothAfter_iff (lacking_run lacking silent) action

/-- The game is started by this turn. -/
def StartsAt (s : LiveGame) (before : List Action) (action : Action) : Prop :=
  (run step s before).game.startTime = none ∧ (run step s (before ++ [action])).game.startTime ≠ none

theorem startsAt_iff {s : LiveGame} (never : s.game.startTime = none) (listens : Listens s) (before : List Action)
    (action : Action) : StartsAt s before action ↔ First step Completes s before action := by
  have keeps : ∀ (s : LiveGame) (action : Action), Listens s → Listens (step s action) :=
    fun s action listens => listens_step listens action
  have latches : ∀ (s : LiveGame) (action : Action), Listens s →
      ((step s action).game.startTime.isSome ↔ s.game.startTime.isSome ∨ Completes s action) :=
    fun s action listens => step_started listens action
  have unstarted : ¬s.game.startTime.isSome := by simp [never]
  have latch : ¬(run step s before).game.startTime.isSome ∧ (run step s (before ++ [action])).game.startTime.isSome ↔
      First step Completes s before action :=
    @latches_first _ _ _ _ _ (fun s => s.game.startTime.isSome) keeps latches _ listens unstarted before action
  rw [← latch]
  unfold StartsAt
  rw [Bool.not_eq_true, Option.isSome_eq_false_iff, Option.isNone_iff_eq_none, Option.isSome_iff_ne_none]

theorem counted_run {s : LiveGame} (never : s.game.startTime = none) (listens : Listens s) (actions : List Action) :
    Counted (starts s) (run step s actions) ∧ Listens (run step s actions) := by
  refine run_invariant (fun later => Counted (starts s) later ∧ Listens later) ?_ actions ⟨?_, listens⟩
  · intro later action ⟨counted, listens⟩
    exact ⟨counted_step listens counted action, listens_step listens action⟩
  · unfold Counted
    rw [never]
    rfl

/-- The game is started in the first call that completes the flags, which is the first call with both flags set after
it unless both were set to begin with. It triggers 'start' once, calls for unknown players change nothing, and calls for
its players do not move a game that has been started. -/
theorem starts_once {s : LiveGame} (never : s.game.startTime = none) (listens : Listens s) (before : List Action)
    (action : Action) :
    (StartsAt s before action ↔ First step Completes s before action) ∧
      (¬BothReady s.game.players → (StartsAt s before action ↔ First step BothAfter s before action)) ∧
      Counted (starts s) (run step s before) ∧
      ∀ playerId ready,
        (¬Known (run step s before) playerId →
          (run step s before).playerReady playerId ready = (run step s before, .left "Player not found in game.")) ∧
        ((run step s before).game.startTime.isSome →
          Unmoved (run step s before) ((run step s before).playerReady playerId ready).1) := by
  have first := startsAt_iff never listens before action
  obtain ⟨counted, listens⟩ := counted_run never listens before
  refine ⟨first, fun lacking => first.trans (first_iff lacking before action).symm, counted, fun playerId ready => ?_⟩
  exact ⟨playerReady_unknown, fun started => playerReady_unmoved listens started playerId ready⟩

/-- The second player of the sample starts it. -/
theorem starts_once_sample :
    First step BothAfter sample [.playerReady "pete" true] (.playerReady "kate" true) ∧
      Counted 0 (run step sample sampleRun) ∧ starts (run step sample sampleRun) = 1 := by
  have lacking : ¬BothReady sample.game.players := by
    rintro ⟨blue, red, rest, players, ready, -⟩
    cases players
    cases ready
  have first := (starts_once (s := sample) rfl rfl [.playerReady "pete" true] (.playerReady "kate" true)).2.1 lacking
  have counted := (starts_once (s := sample) rfl rfl sampleRun (.playerReady "kate" true)).2.2.1
  exact ⟨first.mp ⟨by decide, by decide⟩, counted, by decide⟩

end DfStudy.GameStart
