import DfStudy.GameControl
import DfStudy.ServerFrames

/-! Whom a game is about, in whatever phase it is. Its players stay the same, also in all it saves, and the commands it runs
are those of the attacks it listens for. -/

namespace DfStudy.GameCrew
open Rounds Attacks Games GameFrames GameControl ServerFrames LiveGame

/-- The effect saves a game of these players, or runs a command that is allowed. -/
def Fitting (crew : List String) (allowed : Command → Prop) : Effect → Prop
  | .saveGame data => playerIds data.players = crew
  | .exec command _ => allowed command
  | _ => True

structure Manned (crew : List String) (allowed : Command → Prop) (s : LiveGame) : Prop where
  players : playerIds s.game.players = crew
  attacks : ∀ round grpcPort attack, .scheduledAttack grpcPort attack ∈ s.game.cbMap.round →
    ∀ job ∈ spawned round (.scheduledAttack grpcPort attack), allowed job.1 ∧ ∀ next ∈ job.2, allowed next
  children : ∀ child ∈ s.children, allowed child.command ∧ ∀ next ∈ child.next, allowed next
  effects : ∀ effect ∈ s.effects, Fitting crew allowed effect

section
variable {crew : List String} {allowed : Command → Prop} {s s' : LiveGame} {game : Game}

/-! Blocks of effects. -/

theorem fitting_stateBlock (players : playerIds game.players = crew) :
    ∀ effect ∈ stateBlock game, Fitting crew allowed effect := by
  intro effect member
  rcases List.mem_cons.mp member with rfl | handed
  · trivial
  · obtain ⟨callback, _, rfl⟩ := List.mem_map.mp handed
    cases callback with
    | saveGame => exact players
    | emitState socket => trivial

theorem fitting_flatMap {Callback : Type} {block : Callback → List Effect} {callbacks : List Callback} (event : Event)
    (each : ∀ callback ∈ callbacks, ∀ effect ∈ block callback, Fitting crew allowed effect) :
    ∀ effect ∈ .trigger event :: callbacks.flatMap block, Fitting crew allowed effect := by
  intro effect member
  rcases List.mem_cons.mp member with rfl | called
  · trivial
  · obtain ⟨callback, registered, within⟩ := List.mem_flatMap.mp called
    exact each callback registered effect within

theorem fitting_execs {jobs : List (Command × Option Command)} (all : ∀ job ∈ jobs, allowed job.1) :
    ∀ effect ∈ jobs.map fun (command, next) => Effect.exec command next, Fitting crew allowed effect := by
  intro effect member
  obtain ⟨job, among, rfl⟩ := List.mem_map.mp member
  exact all job among

theorem fitting_stopBlock (players : playerIds game.players = crew) :
    ∀ effect ∈ stopBlock game, Fitting crew allowed effect := by
  apply fitting_flatMap
  intro callback _
  cases callback with
  | triggerState => exact fitting_stateBlock players
  | setCurrentGame sessionId gameId => simp [stopEffects, Fitting]

theorem numbered_mem {pid : Nat} {jobs : List (Command × Option Command)} {child : Child}
    (member : child ∈ numbered pid jobs) : (child.command, child.next) ∈ jobs := by
  induction jobs generalizing pid with
  | nil => cases member
  | cons job jobs ih =>
    rcases List.mem_cons.mp member with rfl | later
    · exact List.mem_cons_self
    · exact List.mem_cons_of_mem _ (ih later)

/-! What the methods are made of. -/

/-- The game, its timeouts and its clock change, but neither its players nor its listeners. -/
theorem Manned.change (manned : Manned crew allowed s) (players : playerIds s'.game.players = playerIds s.game.players)
    (round : s'.game.cbMap.round = s.game.cbMap.round) (children : s'.children = s.children)
    (effects : s'.effects = s.effects) : Manned crew allowed s' where
  players := players.trans manned.players
  attacks := by
    rw [round]
    exact manned.attacks
  children := by
    rw [children]
    exact manned.children
  effects := by
    rw [effects]
    exact manned.effects

theorem Manned.adding (manned : Manned crew allowed s) {block : List Effect}
    (fitting : ∀ effect ∈ block, Fitting crew allowed effect) : Manned crew allowed (adding s block) :=
  { manned with effects := List.forall_mem_append.mpr ⟨manned.effects, fitting⟩ }

theorem Manned.spawning (manned : Manned crew allowed s) {jobs : List (Command × Option Command)}
    (all : ∀ job ∈ jobs, allowed job.1 ∧ ∀ next ∈ job.2, allowed next) : Manned crew allowed (spawning s jobs) :=
  { manned with
    children := List.forall_mem_append.mpr ⟨manned.children, fun child member =>
      all (child.command, child.next) (numbered_mem member)⟩ }

theorem Manned.jobs (manned : Manned crew allowed s) (round : Nat) :
    ∀ job ∈ s.game.cbMap.round.flatMap (spawned round), allowed job.1 ∧ ∀ next ∈ job.2, allowed next := by
  intro job member
  obtain ⟨callback, registered, listed⟩ := List.mem_flatMap.mp member
  cases callback with
  | triggerState => cases listed
  | scheduledAttack grpcPort attack => exact manned.attacks round grpcPort attack registered job listed

theorem Manned.roundBlock (manned : Manned crew allowed s) (round : Nat) :
    ∀ effect ∈ roundBlock s.game round, Fitting crew allowed effect := by
  apply fitting_flatMap
  intro callback registered
  cases callback with
  | triggerState => exact fitting_stateBlock manned.players
  | scheduledAttack grpcPort attack =>
    exact fitting_execs fun job listed => (manned.attacks round grpcPort attack registered job listed).1

/-! The methods. -/

theorem Manned.triggerState (manned : Manned crew allowed s) : Manned crew allowed s.triggerState := by
  rw [triggerState_eq]
  exact manned.adding (fitting_stateBlock manned.players)

theorem Manned.stop (manned : Manned crew allowed s) : Manned crew allowed s.stop := by
  rw [stop_eq]
  have stamped : Manned crew allowed { s.tick with game := ended s } := manned.change rfl rfl rfl rfl
  exact stamped.adding (fitting_stopBlock stamped.players)

theorem Manned.gotoRound (manned : Manned crew allowed s) (round : Nat) : Manned crew allowed (s.gotoRound round).1 := by
  cases found : s.game.rounds[round]? with
  | none =>
    rw [gotoRound_past s round found]
    have moved : Manned crew allowed (s.setCurrentRound round) := manned.change rfl rfl rfl rfl
    exact moved.stop
  | some roundObj =>
    rw [gotoRound_enters s round roundObj found]
    have here : Manned crew allowed { s.tick with game := entered s round roundObj } := manned.change rfl rfl rfl rfl
    have spawned := (here.adding (here.roundBlock round)).spawning (here.jobs round)
    exact spawned.change rfl rfl rfl rfl

theorem Manned.start (manned : Manned crew allowed s) : Manned crew allowed s.start.1 := by
  have stamped : Manned crew allowed { s.tick with game := { s.game with startTime := some s.now } } :=
    manned.change rfl rfl rfl rfl
  have begun := stamped.gotoRound 0
  unfold LiveGame.start
  dsimp only
  rw [triggerStart_eq]
  exact begun.adding (fitting_flatMap _ fun _ _ => fitting_stateBlock begun.players)

theorem Manned.startIfPlayersReady (manned : Manned crew allowed s) : Manned crew allowed s.startIfPlayersReady.1 := by
  rcases startIfPlayersReady_cases s with same | ⟨⟨_, same⟩, _⟩ | ⟨same, _⟩
  · rw [same]
    exact manned
  · rw [same]
    exact manned
  · rw [same]
    exact manned.start

theorem Manned.runPlayerReadyCallbacks (manned : Manned crew allowed s) (callbacks : List PlayerReadyCallback) :
    Manned crew allowed (s.runPlayerReadyCallbacks callbacks).1 := by
  induction callbacks generalizing s with
  | nil => exact manned
  | cons callback callbacks ih =>
    cases callback with
    | triggerState => exact ih manned.triggerState
    | startIfPlayersReady =>
      have first := manned.startIfPlayersReady
      unfold LiveGame.runPlayerReadyCallbacks
      split
      next after message result =>
        rw [result] at first
        exact first
      next after outcome _ result =>
        rw [result] at first
        exact ih first

theorem Manned.playerReady (manned : Manned crew allowed s) (playerId : String) (ready : Bool) :
    Manned crew allowed (s.playerReady playerId ready).1 := by
  unfold LiveGame.playerReady
  split
  next => exact manned
  next index found =>
    have flagged : Manned crew allowed
        { s with game := { s.game with players := s.game.players.modify index ({ · with ready }) } } :=
      manned.change (playerIds_modify _ _ _) rfl rfl rfl
    have emitted := @Manned.adding crew allowed _ flagged [.trigger (.playerReady { playerId, ready })] (by simp [Fitting])
    exact emitted.runPlayerReadyCallbacks _

theorem Manned.answer (manned : Manned crew allowed s) (answer : Answer) : Manned crew allowed (s.answer answer).1 := by
  rcases answer_cases s answer with ⟨round, roundObj, found, running, started⟩ | ⟨same, _⟩
  · rw [answer_accepted s answer round roundObj found running started]
    have settled : Manned crew allowed { (s.clearTimeout s.gameTimers).tick with game := answered s round roundObj answer } :=
      manned.change rfl rfl rfl rfl
    have told := settled.adding (fitting_flatMap (.answer answer) fun _ (_ : _ ∈ s.game.cbMap.answer) =>
      @fitting_stateBlock crew allowed s.game manned.players)
    exact told.change rfl rfl rfl rfl
  · rw [same]
    exact manned

theorem Manned.fire (manned : Manned crew allowed s) (handle : Nat) : Manned crew allowed (s.fire handle) := by
  unfold LiveGame.fire
  split
  next => exact manned
  next timeout _ =>
    have cleared : Manned crew allowed (s.clearTimeout (some handle)) := manned.change rfl rfl rfl rfl
    cases timeout.callback with
    | answer round => exact cleared.answer _
    | gotoRound round => exact cleared.gotoRound round

theorem Manned.finish (manned : Manned crew allowed s) (pid : Nat) (ok : Bool) : Manned crew allowed (s.finish pid ok) := by
  cases found : s.children.find? (·.pid = pid) with
  | none =>
    unfold LiveGame.finish
    rw [found]
    exact manned
  | some child =>
    rw [finish_eq found ok]
    have next := (manned.children child (List.mem_of_find?_eq_some found)).2
    have jobs : ∀ job ∈ chained child ok, allowed job.1 ∧ ∀ next ∈ job.2, allowed next := by
      intro job member
      unfold chained at member
      split at member
      next =>
        obtain ⟨command, listed, rfl⟩ := List.mem_map.mp member
        exact ⟨next command (Option.mem_toList.mp listed), nofun⟩
      next => cases member
    have left : Manned crew allowed { s with children := s.children.filter (·.pid ≠ pid) } :=
      { manned with children := fun other member => manned.children other (List.mem_filter.mp member).1 }
    refine (left.adding ?_).spawning jobs
    exact List.forall_mem_cons.mpr ⟨trivial, fitting_execs fun job member => (jobs job member).1⟩

/-- A turn of the event loop. -/
theorem Manned.step (manned : Manned crew allowed s) (action : Action) : Manned crew allowed (Games.step s action) := by
  cases action with
  | playerReady playerId ready => exact manned.playerReady playerId ready
  | answer answer => exact manned.answer answer
  | fire handle => exact manned.fire handle
  | finish pid ok => exact manned.finish pid ok
  | onState socket => exact manned.change rfl rfl rfl rfl

/-- A game that has just been loaded runs no command yet. -/
theorem manned_loaded {clock : Nat → Nat} {data : GameData} (loaded : deserializeGame clock data = .ok s)
    (players : playerIds data.players = crew) : Manned crew allowed s := by
  obtain ⟨rounds, _, rfl⟩ := deserializeGame_ok loaded
  have read : Manned crew allowed (reread clock data rounds) := by
    refine ⟨players, fun _ grpcPort attack registered => ?_, nofun, nofun⟩
    have only : RoundCallback.scheduledAttack grpcPort attack ∈ [RoundCallback.triggerState] := registered
    simp at only
  unfold resumeGame
  split
  next => exact read.gotoRound _
  next => exact read

end

end DfStudy.GameCrew
