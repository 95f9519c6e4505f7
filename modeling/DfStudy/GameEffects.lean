import DfStudy.GameFrames

/-! What any turn of any game keeps, in whatever phase the game is: its id, its 'stop' listeners and the
kinds of its rounds. The writes it issues are saves of itself and moves its 'stop' listeners ask for. -/

namespace DfStudy.GameEffects
open Js Rounds Attacks Games GameFrames Support.Machine LiveGame

structure Alike (game game' : Game) : Prop where
  gameId : game'.gameId = game.gameId
  stop : game'.cbMap.stop = game.cbMap.stop
  names : game'.rounds.map (·.name) = game.rounds.map (·.name)

def Issued (game : Game) : Effect → Prop
  | .saveGame data => ∃ saved : Game, data = saved.state ∧ saved.gameId = game.gameId ∧
      saved.rounds.map (·.name) = game.rounds.map (·.name)
  | .setCurrentGame sessionId gameId => .setCurrentGame sessionId gameId ∈ game.cbMap.stop
  | _ => True

structure Extends (s s' : LiveGame) : Prop where
  alike : Alike s.game s'.game
  block : ∃ block, s'.effects = s.effects ++ block ∧ ∀ effect ∈ block, Issued s.game effect

theorem Alike.refl (game : Game) : Alike game game := ⟨rfl, rfl, rfl⟩

theorem Alike.trans {first second third : Game} (before : Alike first second) (after : Alike second third) :
    Alike first third :=
  ⟨after.gameId.trans before.gameId, after.stop.trans before.stop, after.names.trans before.names⟩

theorem Alike.issued {game game' : Game} (alike : Alike game game') {effect : Effect} (issued : Issued game' effect) :
    Issued game effect := by
  cases effect with
  | saveGame data =>
    obtain ⟨saved, same, gameId, names⟩ := issued
    exact ⟨saved, same, gameId.trans alike.gameId, names.trans alike.names⟩
  | setCurrentGame sessionId gameId =>
    have member : StopCallback.setCurrentGame sessionId gameId ∈ game'.cbMap.stop := issued
    rw [alike.stop] at member
    exact member
  | _ => trivial

theorem Extends.refl (s : LiveGame) : Extends s s := ⟨.refl _, [], by simp, by simp⟩

theorem Extends.trans {first second third : LiveGame} (before : Extends first second) (after : Extends second third) :
    Extends first third := by
  obtain ⟨early, effects, issued⟩ := before.block
  obtain ⟨late, effects', issued'⟩ := after.block
  refine ⟨before.alike.trans after.alike, early ++ late, by rw [effects', effects, List.append_assoc], ?_⟩
  intro effect member
  rcases List.mem_append.mp member with old | new
  · exact issued effect old
  · exact before.alike.issued (issued' effect new)

theorem Extends.of_block {s s' : LiveGame} (alike : Alike s.game s'.game) (block : List Effect)
    (effects : s'.effects = s.effects ++ block) (issued : ∀ effect ∈ block, Issued s'.game effect) : Extends s s' :=
  ⟨alike, block, effects, fun effect member => alike.issued (issued effect member)⟩

/-- A change that issues nothing. -/
theorem Extends.of_quiet {s s' : LiveGame} (alike : Alike s.game s'.game) (effects : s'.effects = s.effects) :
    Extends s s' := .of_block alike [] (by simp [effects]) (by simp)

theorem issued_stateBlock (game : Game) : ∀ effect ∈ stateBlock game, Issued game effect := by
  intro effect member
  rcases List.mem_cons.mp member with rfl | handed
  · trivial
  · obtain ⟨callback, _, rfl⟩ := List.mem_map.mp handed
    cases callback with
    | saveGame => exact ⟨game, rfl, rfl, rfl⟩
    | emitState socket => trivial

theorem issued_stateBlocks {Callback : Type} (game : Game) (callbacks : List Callback) :
    ∀ effect ∈ callbacks.flatMap fun _ => stateBlock game, Issued game effect := by
  intro effect member
  obtain ⟨_, _, handed⟩ := List.mem_flatMap.mp member
  exact issued_stateBlock game effect handed

theorem issued_stopBlock (game : Game) : ∀ effect ∈ stopBlock game, Issued game effect := by
  intro effect member
  rcases List.mem_cons.mp member with rfl | handed
  · trivial
  · obtain ⟨callback, listener, emitted⟩ := List.mem_flatMap.mp handed
    cases callback with
    | triggerState => exact issued_stateBlock game effect emitted
    | setCurrentGame sessionId gameId =>
      rw [List.mem_singleton.mp emitted]
      exact listener

theorem issued_execs (game : Game) (jobs : List (Command × Option Command)) :
    ∀ effect ∈ jobs.map fun (command, next) => Effect.exec command next, Issued game effect := by
  intro effect member
  obtain ⟨_, _, rfl⟩ := List.mem_map.mp member
  trivial

theorem issued_roundBlock (game : Game) (round : Nat) : ∀ effect ∈ roundBlock game round, Issued game effect := by
  intro effect member
  rcases List.mem_cons.mp member with rfl | handed
  · trivial
  · obtain ⟨callback, _, emitted⟩ := List.mem_flatMap.mp handed
    cases callback with
    | triggerState => exact issued_stateBlock game effect emitted
    | scheduledAttack grpcPort attack => exact issued_execs game _ effect emitted

theorem issued_cons {game : Game} {event : Event} {block : List Effect}
    (issued : ∀ effect ∈ block, Issued game effect) : ∀ effect ∈ Effect.trigger event :: block, Issued game effect := by
  intro effect member
  rcases List.mem_cons.mp member with rfl | rest
  · trivial
  · exact issued effect rest

theorem names_set {rounds : List Round} {round : Nat} {roundObj later : Round} (found : rounds[round]? = some roundObj)
    (name : later.name = roundObj.name) : (rounds.set round later).map (·.name) = rounds.map (·.name) := by
  rw [List.map_set, name]
  apply List.ext_getElem?
  intro index
  rw [List.getElem?_set]
  by_cases same : round = index
  · subst same
    have bound := (List.getElem?_eq_some_iff.mp found).1
    have here : rounds[round] = roundObj := (List.getElem?_eq_some_iff.mp found).2
    simp [bound, here]
  · rw [if_neg same]

/-! The methods. -/

theorem extends_triggerState (s : LiveGame) : Extends s s.triggerState := by
  rw [triggerState_eq]
  exact .of_block (.refl _) _ rfl (issued_stateBlock _)

theorem extends_stop (s : LiveGame) : Extends s s.stop := by
  rw [stop_eq]
  exact .of_block ⟨rfl, rfl, rfl⟩ _ rfl (issued_stopBlock _)

theorem extends_gotoRound (s : LiveGame) (round : Nat) : Extends s (s.gotoRound round).1 := by
  cases found : s.game.rounds[round]? with
  | none =>
    rw [gotoRound_past s round found]
    have moved : Extends s (s.setCurrentRound round) := .of_quiet ⟨rfl, rfl, rfl⟩ rfl
    exact moved.trans (extends_stop _)
  | some roundObj =>
    rw [gotoRound_enters s round roundObj found]
    exact .of_block ⟨rfl, rfl, names_set found rfl⟩ _ rfl (issued_roundBlock _ round)

theorem extends_start (s : LiveGame) : Extends s s.start.1 := by
  let stamped : LiveGame := { s.tick with game := { s.game with startTime := some s.now } }
  have begun : Extends s stamped := .of_quiet ⟨rfl, rfl, rfl⟩ rfl
  have entered : Extends s (stamped.gotoRound 0).1 := begun.trans (extends_gotoRound stamped 0)
  have triggered : Extends (stamped.gotoRound 0).1 (stamped.gotoRound 0).1.triggerStart := by
    rw [triggerStart_eq]
    exact .of_block (.refl _) _ rfl (issued_cons (issued_stateBlocks _ _))
  exact entered.trans triggered

theorem extends_startIfPlayersReady (s : LiveGame) : Extends s s.startIfPlayersReady.1 := by
  unfold startIfPlayersReady
  split
  · exact .refl s
  · split
    · exact .refl s
    · split
      · exact .refl s
      · split
        · exact .refl s
        · split
          · exact .refl s
          · exact extends_start s

theorem extends_playerReadyCallbacks (callbacks : List PlayerReadyCallback) (s : LiveGame) :
    Extends s (s.runPlayerReadyCallbacks callbacks).1 := by
  induction callbacks generalizing s with
  | nil => exact .refl s
  | cons callback callbacks ih =>
    cases callback with
    | triggerState => exact (extends_triggerState s).trans (ih _)
    | startIfPlayersReady =>
      have first := extends_startIfPlayersReady s
      unfold runPlayerReadyCallbacks
      split
      · rename_i after message result
        rw [result] at first
        exact first
      · rename_i after outcome _ result
        rw [result] at first
        exact first.trans (ih _)

theorem extends_playerReady (s : LiveGame) (playerId : String) (ready : Bool) :
    Extends s (s.playerReady playerId ready).1 := by
  unfold LiveGame.playerReady
  split
  · exact .refl s
  · refine Extends.trans (.of_block ?_ [_] rfl ?_) (extends_playerReadyCallbacks _ _)
    · exact ⟨rfl, rfl, rfl⟩
    · exact issued_cons (by simp)

theorem extends_answer (s : LiveGame) (answer : Answer) : Extends s (s.answer answer).1 := by
  rcases answer_cases s answer with ⟨round, roundObj, found, running, started⟩ | ⟨same, -⟩
  · rw [answer_accepted s answer round roundObj found running started]
    have names : (answered s round roundObj answer).rounds.map (·.name) = s.game.rounds.map (·.name) :=
      names_set (roundAt_some found) rfl
    have alike : Alike s.game (answered s round roundObj answer) := ⟨rfl, rfl, names⟩
    refine ⟨alike, answerBlock s.game answer, rfl, issued_cons (issued_stateBlocks _ _)⟩
  · rw [same]
    exact .refl s

theorem extends_fire (s : LiveGame) (handle : Nat) : Extends s (s.fire handle) := by
  unfold fire
  split
  · exact .refl s
  · rename_i timeout _
    have cleared : Extends s (s.clearTimeout (some handle)) := .of_quiet (.refl _) rfl
    cases timeout.callback with
    | answer round => exact cleared.trans (extends_answer _ _)
    | gotoRound round => exact cleared.trans (extends_gotoRound _ _)

theorem extends_finish (s : LiveGame) (pid : Nat) (ok : Bool) : Extends s (s.finish pid ok) := by
  cases found : s.children.find? (·.pid = pid) with
  | none =>
    unfold LiveGame.finish
    rw [found]
    exact .refl s
  | some child =>
    rw [finish_eq found ok]
    refine .of_block (.refl _) _ rfl ?_
    intro effect member
    rcases List.mem_cons.mp member with rfl | rest
    · trivial
    · exact issued_execs _ _ effect rest

theorem extends_resumeGame (s : LiveGame) : Extends s (resumeGame s) := by
  unfold resumeGame
  split
  · exact extends_gotoRound s _
  · exact .refl s

/-- A turn of the event loop. -/
theorem extends_step (s : LiveGame) (action : Action) : Extends s (step s action) := by
  cases action with
  | playerReady playerId ready => exact extends_playerReady s playerId ready
  | answer answer => exact extends_answer s answer
  | fire handle => exact extends_fire s handle
  | finish pid ok => exact extends_finish s pid ok
  | onState socket => exact .of_quiet ⟨rfl, rfl, rfl⟩ rfl

end DfStudy.GameEffects
