import DfStudy.AnswerFinality

/-! When the database and the connected sockets have seen the state a turn leaves behind. Every
operation changes the game first and triggers 'state' after, except `answer`, which triggers 'answer'
(and with it 'state') before the round records the answer. -/

namespace DfStudy.GamePublication
open Rounds Games GameFrames GameControl GameInvariant LoadedGame GameStart AnswerFinality Support.Machine LiveGame

def saved : Effect → Option GameData
  | .saveGame data => some data
  | _ => none

def emitted (socket : Nat) : Effect → Option GameData
  | .emitState other data => if other = socket then some data else none
  | _ => none

/-- The sockets that listen to 'state'. -/
def sockets (game : Game) : List Nat :=
  game.cbMap.state.filterMap fun callback =>
    match callback with
    | .saveGame => none
    | .emitState socket => some socket

/-- The effects a turn added. -/
def news (s s' : LiveGame) : List Effect := s'.effects.drop s.effects.length

def Changed (before after : Game) : Prop :=
  before.players ≠ after.players ∨ before.rounds ≠ after.rounds ∨ before.currentRound ≠ after.currentRound ∨
    before.startTime ≠ after.startTime ∨ before.endTime ≠ after.endTime

/-- A 'state' event was triggered, and the last snapshot each of its listeners was handed is the game
as it stands. -/
structure Published (effects : List Effect) (game : Game) : Prop where
  triggered : .trigger .state ∈ effects
  saved : (effects.filterMap saved).getLast? = some game.state
  emitted : ∀ socket ∈ sockets game, (effects.filterMap (emitted socket)).getLast? = some game.state

def snapshotOf : Effect → Option GameData
  | .saveGame data => some data
  | .emitState _ data => some data
  | _ => none

/-- Every snapshot among the effects is `data`. -/
def Only (data : GameData) (effects : List Effect) : Prop :=
  ∀ effect ∈ effects, ∀ other, snapshotOf effect = some other → other = data

theorem only_append {data : GameData} {first second : List Effect} (front : Only data first)
    (back : Only data second) : Only data (first ++ second) := by
  intro effect member
  rcases List.mem_append.mp member with before | after
  · exact front effect before
  · exact back effect after

theorem only_flatMap {Callback : Type} {data : GameData} {callbacks : List Callback} {block : Callback → List Effect}
    (each : ∀ callback, Only data (block callback)) : Only data (callbacks.flatMap block) := by
  intro effect member
  obtain ⟨callback, _, within⟩ := List.mem_flatMap.mp member
  exact each callback effect within

theorem only_trigger (data : GameData) (event : Event) : Only data [.trigger event] := by
  intro effect member other seen
  rw [List.mem_singleton.mp member] at seen
  cases seen

theorem only_stateBlock (game : Game) : Only game.state (stateBlock game) := by
  intro effect member other seen
  rcases List.mem_cons.mp member with rfl | handed
  · cases seen
  · obtain ⟨callback, _, rfl⟩ := List.mem_map.mp handed
    cases callback <;> (cases seen; rfl)

theorem only_answerBlock (game : Game) (answer : Answer) : Only game.state (answerBlock game answer) :=
  only_append (only_trigger _ _) (only_flatMap fun _ => only_stateBlock game)

theorem only_startBlock (game : Game) : Only game.state (startBlock game) :=
  only_append (only_trigger _ _) (only_flatMap fun _ => only_stateBlock game)

theorem only_stopBlock (game : Game) : Only game.state (stopBlock game) := by
  refine only_append (only_trigger _ _) (only_flatMap fun callback => ?_)
  cases callback with
  | triggerState => exact only_stateBlock game
  | setCurrentGame sessionId gameId =>
    intro effect member other seen
    rw [List.mem_singleton.mp member] at seen
    cases seen

theorem only_roundBlock (game : Game) (round : Nat) : Only game.state (roundBlock game round) := by
  refine only_append (only_trigger _ _) (only_flatMap fun callback => ?_)
  cases callback with
  | triggerState => exact only_stateBlock game
  | scheduledAttack grpcPort attack =>
    intro effect member other seen
    obtain ⟨job, _, rfl⟩ := List.mem_map.mp member
    cases seen

theorem subset_stopBlock {game : Game} (constructed : Constructed game.cbMap) : stateBlock game ⊆ stopBlock game := by
  obtain ⟨more, stop⟩ := constructed.stop
  intro effect member
  rw [stopBlock, stop]
  exact List.mem_cons_of_mem _ (List.mem_append_left _ member)

theorem subset_roundBlock {game : Game} (constructed : Constructed game.cbMap) (round : Nat) :
    stateBlock game ⊆ roundBlock game round := by
  obtain ⟨more, listeners⟩ := constructed.round
  intro effect member
  rw [roundBlock, listeners]
  exact List.mem_cons_of_mem _ (List.mem_append_left _ member)

theorem getLast?_of_all {α : Type} {items : List α} {value : α} (all : ∀ item ∈ items, item = value)
    (some : value ∈ items) : items.getLast? = .some value := by
  rw [List.getLast?_eq_getLast_of_ne_nil (List.ne_nil_of_mem some)]
  exact congrArg _ (all _ (List.getLast_mem _))

/-- One block of 'state' listeners, with no snapshot of anything else around it, publishes the game. -/
theorem published_of_only {game : Game} {effects : List Effect} (constructed : Constructed game.cbMap)
    (only : Only game.state effects) (handed : stateBlock game ⊆ effects) : Published effects game where
  triggered := handed (List.mem_cons_self ..)
  saved := by
    obtain ⟨more, listeners⟩ := constructed.state
    apply getLast?_of_all
    · intro data member
      obtain ⟨effect, present, seen⟩ := List.mem_filterMap.mp member
      cases effect with
      | saveGame other => cases seen; exact only _ present _ rfl
      | _ => cases seen
    · exact List.mem_filterMap.mpr ⟨.saveGame game.state, handed (by simp [stateBlock, listeners, stateEffect]), rfl⟩
  emitted := by
    intro socket listening
    obtain ⟨callback, registered, found⟩ := List.mem_filterMap.mp listening
    have same : callback = .emitState socket := by
      cases callback with
      | saveGame => cases found
      | emitState other => cases found; rfl
    subst same
    apply getLast?_of_all
    · intro data member
      obtain ⟨effect, present, seen⟩ := List.mem_filterMap.mp member
      cases effect with
      | emitState other snapshot =>
        simp only [emitted] at seen
        split at seen
        · cases seen; exact only _ present _ rfl
        · cases seen
      | _ => cases seen
    · refine List.mem_filterMap.mpr ⟨.emitState socket game.state, handed ?_, by simp [emitted]⟩
      exact List.mem_cons_of_mem _ (List.mem_map.mpr ⟨_, registered, rfl⟩)

theorem news_of_append {s s' : LiveGame} (block : List Effect) (effects : s'.effects = s.effects ++ block) :
    news s s' = block := by
  simp [news, effects]

/-- There is a round under this number, and it runs. -/
def isOpen (s : LiveGame) (round : Js.Number) : Bool :=
  (s.roundAt round).any fun (_, roundObj) => roundObj.startTime.isSome && roundObj.endTime.isNone

/-- The time of a round that runs is up. -/
def expires (s : LiveGame) : TimeoutCallback → Bool
  | .answer round => isOpen s (.ofNat round)
  | .gotoRound _ => false

/-- The turn records an answer, or the only player of a game that waits gets ready. What it changes is not told in it. -/
def lags (s : LiveGame) : Action → Bool
  | .answer answer => isOpen s answer.round
  | .fire handle => (s.timeouts.find? (·.handle = handle)).any fun timeout => expires s timeout.callback
  | .playerReady playerId ready => ready && s.game.startTime.isNone && s.game.players = [{ playerId, ready := false }]
  | .finish _ _ => false
  | .onState _ => false

def isState : Effect → Bool
  | .trigger .state => true
  | _ => false

/-- 'state' is triggered in the turn. -/
def speaks (s s' : LiveGame) : Bool := (news s s').any isState

/-- What a socket is sent in the turn. -/
def heard (socket : Nat) (s s' : LiveGame) : List GameData := (news s s').filterMap (emitted socket)

/-- The only player of a game that has not started gets ready. -/
def Lone (s : LiveGame) : Action → Prop
  | .playerReady playerId ready =>
    ready = true ∧ s.game.startTime = none ∧ s.game.players = [{ playerId, ready := false }]
  | _ => False

/-- A state that is handed out is of this game, and is sent to those who listen. -/
def Own (game : Game) : Effect → Prop
  | .saveGame data => data.gameId = game.gameId
  | .emitState socket data => data.gameId = game.gameId ∧ socket ∈ sockets game
  | _ => True

def Owned (game : Game) (effects : List Effect) : Prop := ∀ effect ∈ effects, Own game effect

/-- No 'state' is triggered, and none is handed out. -/
def Mute (effects : List Effect) : Prop := ∀ effect ∈ effects, published effect = false

theorem Owned.append {game : Game} {first second : List Effect} (front : Owned game first) (back : Owned game second) :
    Owned game (first ++ second) := by
  intro effect member
  rcases List.mem_append.mp member with before | after
  · exact front effect before
  · exact back effect after

theorem owned_flatMap {Callback : Type} {game : Game} {callbacks : List Callback} {block : Callback → List Effect}
    (each : ∀ callback, Owned game (block callback)) : Owned game (callbacks.flatMap block) := by
  intro effect member
  obtain ⟨callback, -, within⟩ := List.mem_flatMap.mp member
  exact each callback effect within

theorem owned_trigger (game : Game) (event : Event) : Owned game [.trigger event] := by
  intro effect member
  rw [List.mem_singleton.mp member]
  trivial

theorem owned_stateBlock (game : Game) : Owned game (stateBlock game) := by
  intro effect member
  rcases List.mem_cons.mp member with rfl | handed
  · trivial
  · obtain ⟨callback, registered, rfl⟩ := List.mem_map.mp handed
    cases callback with
    | saveGame => rfl
    | emitState socket => exact ⟨rfl, List.mem_filterMap.mpr ⟨_, registered, rfl⟩⟩

theorem owned_answerBlock (game : Game) (answer : Answer) : Owned game (answerBlock game answer) :=
  (owned_trigger game _).append (owned_flatMap fun _ => owned_stateBlock game)

theorem owned_startBlock (game : Game) : Owned game (startBlock game) :=
  (owned_trigger game _).append (owned_flatMap fun _ => owned_stateBlock game)

theorem owned_stopBlock (game : Game) : Owned game (stopBlock game) := by
  refine (owned_trigger game _).append (owned_flatMap fun callback => ?_)
  cases callback with
  | triggerState => exact owned_stateBlock game
  | setCurrentGame sessionId gameId =>
    intro effect member
    rw [List.mem_singleton.mp member]
    trivial

theorem owned_roundBlock (game : Game) (round : Nat) : Owned game (roundBlock game round) := by
  refine (owned_trigger game _).append (owned_flatMap fun callback => ?_)
  cases callback with
  | triggerState => exact owned_stateBlock game
  | scheduledAttack grpcPort attack =>
    intro effect member
    obtain ⟨job, -, rfl⟩ := List.mem_map.mp member
    trivial

theorem Owned.congr {game game' : Game} {effects : List Effect} (owned : Owned game effects)
    (gameId : game'.gameId = game.gameId) (cbMap : game'.cbMap = game.cbMap) : Owned game' effects := by
  have listening : sockets game' = sockets game := by
    unfold sockets
    rw [cbMap]
  intro effect member
  have own := owned effect member
  cases effect with
  | saveGame data => exact own.trans gameId.symm
  | emitState socket data => exact ⟨own.1.trans gameId.symm, listening ▸ own.2⟩
  | _ => trivial

theorem snapshot_mute {effect : Effect} (quiet : published effect = false) : snapshotOf effect = none := by
  cases effect <;> first | rfl | cases quiet

theorem Mute.owned {effects : List Effect} (mute : Mute effects) (game : Game) : Owned game effects := by
  intro effect member
  have quiet := mute effect member
  cases effect with
  | saveGame data => cases quiet
  | emitState socket data => cases quiet
  | _ => trivial

theorem Mute.append {first second : List Effect} (front : Mute first) (back : Mute second) : Mute (first ++ second) := by
  intro effect member
  rcases List.mem_append.mp member with before | after
  · exact front effect before
  · exact back effect after

theorem Mute.filterMap {Seen : Type} {observe : Effect → Option Seen} {effects : List Effect} (mute : Mute effects)
    (ignores : ∀ effect, snapshotOf effect = none → observe effect = none) : effects.filterMap observe = [] :=
  List.filterMap_eq_nil_iff.mpr fun effect member => ignores effect (snapshot_mute (mute effect member))

theorem saved_ignores (effect : Effect) (none : snapshotOf effect = none) : saved effect = .none := by
  cases effect <;> first | rfl | cases none

theorem emitted_ignores (socket : Nat) (effect : Effect) (none : snapshotOf effect = none) :
    emitted socket effect = .none := by
  cases effect <;> first | rfl | cases none

theorem published_append {first second : List Effect} {game : Game} (published : Published second game) :
    Published (first ++ second) game where
  triggered := List.mem_append_right _ published.triggered
  saved := by
    rw [List.filterMap_append, List.getLast?_append, published.saved]
    rfl
  emitted socket listening := by
    rw [List.filterMap_append, List.getLast?_append, published.emitted socket listening]
    rfl

theorem published_mute {first second : List Effect} {game : Game} (published : Published first game) (mute : Mute second) :
    Published (first ++ second) game where
  triggered := List.mem_append_left _ published.triggered
  saved := by
    rw [List.filterMap_append, mute.filterMap saved_ignores, List.append_nil]
    exact published.saved
  emitted socket listening := by
    rw [List.filterMap_append, mute.filterMap (emitted_ignores socket), List.append_nil]
    exact published.emitted socket listening

/-- Nothing has changed that is not told last. -/
structure Tells (s s' : LiveGame) (block : List Effect) : Prop where
  effects : s'.effects = s.effects ++ block
  owned : Owned s.game block
  gameId : s'.game.gameId = s.game.gameId
  cbMap : s'.game.cbMap = s.game.cbMap
  told : Published block s'.game ∨ s'.game = s.game ∧ Mute block

theorem Tells.refl (s : LiveGame) : Tells s s [] where
  effects := (List.append_nil _).symm
  owned _ member := nomatch member
  gameId := rfl
  cbMap := rfl
  told := .inr ⟨rfl, fun _ member => nomatch member⟩

theorem Tells.trans {s s' s'' : LiveGame} {first second : List Effect} (before : Tells s s' first)
    (after : Tells s' s'' second) : Tells s s'' (first ++ second) where
  effects := by rw [after.effects, before.effects, List.append_assoc]
  owned := before.owned.append (after.owned.congr before.gameId.symm before.cbMap.symm)
  gameId := after.gameId.trans before.gameId
  cbMap := after.cbMap.trans before.cbMap
  told := by
    rcases after.told with published | ⟨same, mute⟩
    · exact .inl (published_append published)
    · rcases before.told with published | ⟨same', mute'⟩
      · exact .inl (same ▸ published_mute published mute)
      · exact .inr ⟨same.trans same', mute'.append mute⟩

/-- Everything that is told is of the game as it is in the end. -/
theorem tells_of_only {s s' : LiveGame} {block : List Effect} (effects : s'.effects = s.effects ++ block)
    (gameId : s'.game.gameId = s.game.gameId) (cbMap : s'.game.cbMap = s.game.cbMap) (wired : Wired s)
    (owned : Owned s'.game block) (only : Only s'.game.state block) (handed : stateBlock s'.game ⊆ block) :
    Tells s s' block ∧ Published block s'.game := by
  have wired' : Wired s' := by
    unfold Wired
    rw [cbMap]
    exact wired
  have told := published_of_only wired' only handed
  exact ⟨⟨effects, owned.congr gameId.symm cbMap.symm, gameId, cbMap, .inl told⟩, told⟩

/-- What is changed before the first 'state' is told with it. -/
theorem Tells.after {s s' s'' : LiveGame} {first block : List Effect} (tells : Tells s' s'' block)
    (told : Published block s''.game) (effects : s'.effects = s.effects ++ first) (mute : Mute first)
    (gameId : s'.game.gameId = s.game.gameId) (cbMap : s'.game.cbMap = s.game.cbMap) : Tells s s'' (first ++ block) where
  effects := by rw [tells.effects, effects, List.append_assoc]
  owned := (mute.owned _).append (tells.owned.congr gameId.symm cbMap.symm)
  gameId := tells.gameId.trans gameId
  cbMap := tells.cbMap.trans cbMap
  told := .inl (published_append told)

theorem tells_triggerState {s : LiveGame} (wired : Wired s) :
    Tells s s.triggerState (stateBlock s.game) ∧ Published (stateBlock s.game) s.triggerState.game := by
  rw [triggerState_eq]
  exact tells_of_only rfl rfl rfl wired (owned_stateBlock s.game) (only_stateBlock s.game) (List.Subset.refl _)

theorem tells_gotoRound {s : LiveGame} (wired : Wired s) (round : Nat) :
    ∃ block, Tells s (s.gotoRound round).1 block ∧ Published block (s.gotoRound round).1.game := by
  cases found : s.game.rounds[round]? with
  | none =>
    rw [gotoRound_past s round found, stop_eq]
    have handed := @subset_stopBlock (ended (s.setCurrentRound round)) wired
    exact ⟨_, tells_of_only rfl rfl rfl wired (owned_stopBlock _) (only_stopBlock _) handed⟩
  | some roundObj =>
    rw [gotoRound_enters s round roundObj found]
    have handed := @subset_roundBlock (entered s round roundObj) wired round
    exact ⟨_, tells_of_only rfl rfl rfl wired (owned_roundBlock _ _) (only_roundBlock _ _) handed⟩

theorem subset_startBlock {game : Game} (constructed : Constructed game.cbMap) : stateBlock game ⊆ startBlock game := by
  intro effect member
  rw [startBlock, constructed.start]
  exact List.mem_cons_of_mem _ (List.mem_append_left _ member)

theorem tells_start {s : LiveGame} (wired : Wired s) :
    ∃ block, Tells s s.start.1 block ∧ Published block s.start.1.game := by
  change ∃ block, Tells s ((stamped s).gotoRound 0).1.triggerStart block ∧
    Published block ((stamped s).gotoRound 0).1.triggerStart.game
  obtain ⟨block, moves, told⟩ := tells_gotoRound (s := stamped s) wired 0
  have wired' : Wired ((stamped s).gotoRound 0).1 := by
    unfold Wired
    rw [gotoRound_cbMap]
    exact wired
  have moved : Tells s ((stamped s).gotoRound 0).1 ([] ++ block) :=
    moves.after told (List.append_nil _).symm (fun _ member => nomatch member) rfl rfl
  rw [triggerStart_eq]
  obtain ⟨tells, published⟩ := @tells_of_only ((stamped s).gotoRound 0).1
    (adding ((stamped s).gotoRound 0).1 (startBlock ((stamped s).gotoRound 0).1.game)) _ rfl rfl rfl wired'
    (owned_startBlock _) (only_startBlock _) (subset_startBlock wired')
  exact ⟨_, moved.trans tells, published_append published⟩

/-! Turns. -/

/-- What a turn tells, unless it leaves the game with something untold. -/
def Turns (s : LiveGame) (action : Action) : Prop := ∃ block, (step s action).effects = s.effects ++ block ∧
  Owned s.game block ∧
    (lags s action ∨ Published block (step s action).game ∨ (step s action).game = s.game ∧ Mute block)

theorem Tells.turns {s : LiveGame} {action : Action} {block : List Effect} (tells : Tells s (step s action) block) :
    Turns s action := ⟨block, tells.effects, tells.owned, .inr tells.told⟩

theorem mute_playerReady (player : Player) : Mute [.trigger (.playerReady player)] := by
  intro effect member
  rw [List.mem_singleton.mp member]
  rfl

theorem turns_playerReady {s : LiveGame} (wired : Wired s) (playerId : String) (ready : Bool) :
    Turns s (.playerReady playerId ready) := by
  cases located : s.game.players.findIdx? (·.playerId = playerId) with
  | none =>
    have same : step s (.playerReady playerId ready) = s := by
      change (s.playerReady playerId ready).1 = s
      unfold LiveGame.playerReady
      rw [located]
    have still : Tells s (step s (.playerReady playerId ready)) [] := same.symm ▸ Tells.refl s
    exact still.turns
  | some index =>
    have begins : step s (.playerReady playerId ready) =
        ((flagged s index playerId ready).runPlayerReadyCallbacks [.startIfPlayersReady, .triggerState]).1 :=
      congrArg Prod.fst (playerReady_located wired.playerReady located)
    have mute := mute_playerReady { playerId, ready }
    have wired' : Wired (flagged s index playerId ready) := wired
    rcases startIfPlayersReady_cases (flagged s index playerId ready) with
      waiting | ⟨⟨message, threw⟩, never, alone⟩ | ⟨starting, -⟩
    · have ends : step s (.playerReady playerId ready) = (flagged s index playerId ready).triggerState := by
        rw [begins]
        unfold runPlayerReadyCallbacks
        rw [waiting]
        rfl
      obtain ⟨tells, told⟩ := tells_triggerState wired'
      rw [← ends] at tells told
      have whole : Tells s (step s (.playerReady playerId ready)) _ := tells.after told rfl mute rfl rfl
      exact whole.turns
    · have ends : step s (.playerReady playerId ready) = flagged s index playerId ready := by
        rw [begins]
        unfold runPlayerReadyCallbacks
        rw [threw]
      obtain ⟨waits, flag, after, ⟨id, old⟩, players, own⟩ := alone_of_threw (s := s) located never alone
      simp only at own flag
      subst own flag
      refine ⟨_, congrArg (·.effects) ends, mute.owned _, ?_⟩
      cases old with
      | false =>
        left
        unfold lags
        rw [waits, players]
        exact decide_eq_true rfl
      | true =>
        refine .inr (.inr ⟨?_, mute⟩)
        rw [ends]
        change { s.game with players := s.game.players.modify index ({ · with ready := true }) } = s.game
        rw [after, ← players]
    · have ends : step s (.playerReady playerId ready) = (flagged s index playerId ready).start.1.triggerState := by
        rw [begins]
        unfold runPlayerReadyCallbacks
        rw [starting]
        rfl
      obtain ⟨block, tells, told⟩ := tells_start wired'
      have wired'' : Wired (flagged s index playerId ready).start.1 := by
        unfold Wired
        rw [start_cbMap]
        exact wired
      obtain ⟨again, told'⟩ := tells_triggerState wired''
      rw [← ends] at again told'
      have whole : Tells s (step s (.playerReady playerId ready)) _ :=
        (tells.trans again).after (published_append told') rfl mute rfl rfl
      exact whole.turns

theorem answer_shut {s : LiveGame} {answer : Answer} (shut : isOpen s answer.round = false) : (s.answer answer).1 = s := by
  rcases answer_cases s answer with ⟨round, roundObj, found, running, started⟩ | ⟨same, -⟩
  · unfold isOpen at shut
    rw [found] at shut
    simp [running, started] at shut
  · exact same

theorem answer_owned (s : LiveGame) (answer : Answer) :
    ∃ block, (s.answer answer).1.effects = s.effects ++ block ∧ Owned s.game block := by
  rcases answer_cases s answer with ⟨round, roundObj, found, running, started⟩ | ⟨same, -⟩
  · rw [answer_accepted s answer round roundObj found running started]
    exact ⟨_, rfl, owned_answerBlock s.game answer⟩
  · rw [same]
    exact ⟨[], (List.append_nil _).symm, fun _ member => nomatch member⟩

theorem turns_answer (s : LiveGame) (answer : Answer) : Turns s (.answer answer) := by
  cases runs : isOpen s answer.round with
  | true =>
    obtain ⟨block, effects, owned⟩ := answer_owned s answer
    exact ⟨block, effects, owned, .inl runs⟩
  | false =>
    have same : step s (.answer answer) = s := answer_shut runs
    have still : Tells s (step s (.answer answer)) [] := same.symm ▸ Tells.refl s
    exact still.turns

theorem fire_found {s : LiveGame} {handle : Nat} {timeout : Timeout}
    (found : s.timeouts.find? (·.handle = handle) = some timeout) :
    step s (.fire handle) = (s.clearTimeout (some handle)).runTimeout timeout.callback := by
  change s.fire handle = _
  unfold LiveGame.fire
  rw [found]

theorem turns_fire {s : LiveGame} (wired : Wired s) (handle : Nat) : Turns s (.fire handle) := by
  cases found : s.timeouts.find? (·.handle = handle) with
  | none =>
    have same : step s (.fire handle) = s := by
      change s.fire handle = s
      unfold LiveGame.fire
      rw [found]
    have still : Tells s (step s (.fire handle)) [] := same.symm ▸ Tells.refl s
    exact still.turns
  | some timeout =>
    have fires := fire_found found
    obtain ⟨handle', callback, ms⟩ := timeout
    cases callback with
    | answer round =>
      have answers : step s (.fire handle) = ((s.clearTimeout (some handle)).answer { round := .ofNat round }).1 := fires
      obtain ⟨block, effects, owned, rest⟩ := turns_answer (s.clearTimeout (some handle)) { round := .ofNat round }
      have same : lags s (.fire handle) = lags (s.clearTimeout (some handle)) (.answer { round := .ofNat round }) := by
        change (s.timeouts.find? _).any _ = _
        rw [found]
        rfl
      refine ⟨block, ?_, owned, ?_⟩
      · rw [answers]
        exact effects
      · rw [same, answers]
        exact rest
    | gotoRound round =>
      have moves : step s (.fire handle) = ((s.clearTimeout (some handle)).gotoRound round).1 := fires
      obtain ⟨block, tells, told⟩ := tells_gotoRound (s := s.clearTimeout (some handle)) wired round
      refine ⟨block, ?_, tells.owned, ?_⟩
      · rw [moves]
        exact tells.effects
      · rw [moves]
        exact .inr (.inl told)

theorem turns_finish (s : LiveGame) (pid : Nat) (ok : Bool) : Turns s (.finish pid ok) := by
  cases found : s.children.find? (·.pid = pid) with
  | none =>
    have same : step s (.finish pid ok) = s := by
      change s.finish pid ok = s
      unfold LiveGame.finish
      rw [found]
    have still : Tells s (step s (.finish pid ok)) [] := same.symm ▸ Tells.refl s
    exact still.turns
  | some child =>
    have ends : step s (.finish pid ok) = _ := finish_eq found ok
    have mute : Mute (.exit child ok :: (chained child ok).map fun job => .exec job.1 job.2) := by
      intro effect member
      rcases List.mem_cons.mp member with rfl | spawned
      · rfl
      · obtain ⟨job, -, rfl⟩ := List.mem_map.mp spawned
        rfl
    refine ⟨_, ?_, mute.owned _, .inr (.inr ⟨?_, mute⟩)⟩
    · rw [ends]
      rfl
    · rw [ends]
      rfl

theorem turns_step {s : LiveGame} (wired : Wired s) (action : Action) (other : ∀ socket, action ≠ .onState socket) :
    Turns s action := by
  cases action with
  | playerReady playerId ready => exact turns_playerReady wired playerId ready
  | answer answer => exact turns_answer s answer
  | fire handle => exact turns_fire wired handle
  | finish pid ok => exact turns_finish s pid ok
  | onState socket => exact absurd rfl (other socket)

/-! What one socket hears. -/

section
variable {s : LiveGame} {action : Action} (wired : Wired s) (other : ∀ socket, action ≠ .onState socket)
include wired other

theorem heard_own (socket : Nat) : ∀ data ∈ heard socket s (step s action),
    data.gameId = s.game.gameId ∧ socket ∈ sockets s.game := by
  obtain ⟨block, effects, owned, -⟩ := turns_step wired action other
  intro data member
  unfold heard at member
  rw [news_of_append block effects] at member
  obtain ⟨effect, present, seen⟩ := List.mem_filterMap.mp member
  have own := owned effect present
  cases effect with
  | emitState receiver snapshot =>
    unfold emitted at seen
    dsimp only at seen
    split at seen
    next same =>
      cases seen
      exact same ▸ own
    next => cases seen
  | _ => cases seen

/-- Who listens has been told last how the game is, or it is as it was. -/
theorem heard_last {socket : Nat} (listening : socket ∈ sockets s.game) (keeps : lags s action = false) :
    (heard socket s (step s action)).getLast? = some (step s action).game.state ∨
      (step s action).game = s.game ∧ heard socket s (step s action) = [] ∧ speaks s (step s action) = false := by
  obtain ⟨block, effects, -, told⟩ := turns_step wired action other
  unfold heard speaks
  rw [news_of_append block effects]
  rcases told with lagging | published | ⟨same, mute⟩
  · rw [keeps] at lagging
    cases lagging
  · have listening' : socket ∈ sockets (step s action).game := by
      unfold sockets
      rw [step_cbMap]
      cases action with
      | onState admin => exact absurd rfl (other admin)
      | _ => exact listening
    exact .inl (published.emitted socket listening')
  · refine .inr ⟨same, mute.filterMap (emitted_ignores socket), ?_⟩
    rw [List.any_eq_false]
    intro effect member triggers
    have quiet := mute effect member
    cases effect with
    | trigger event =>
      cases event with
      | state => cases quiet
      | _ => cases triggers
    | _ => cases triggers

end

/-! What is told, and what is not. -/

theorem isOpen_iff {s : LiveGame} {round : Js.Number} : isOpen s round ↔
    ∃ index roundObj, s.roundAt round = some (index, roundObj) ∧ roundObj.startTime.isSome ∧ roundObj.endTime = none := by
  unfold isOpen
  cases s.roundAt round with
  | none => simp
  | some slot =>
    obtain ⟨index, roundObj⟩ := slot
    simp

theorem expires_iff {s : LiveGame} {callback : TimeoutCallback} : expires s callback ↔
    ∃ round roundObj, callback = .answer round ∧ s.game.rounds[round]? = some roundObj ∧ roundObj.startTime.isSome ∧
      roundObj.endTime = none := by
  cases callback with
  | answer round => exact isOpen_iff.trans (by simp)
  | gotoRound round => simp [expires]

theorem lags_iff {s : LiveGame} (reached : Reached s) (action : Action) :
    lags s action ↔ Accepts s action ∨ Lone s action := by
  cases action with
  | playerReady playerId ready => simp [lags, Accepts, Lone, and_assoc]
  | answer answer => exact isOpen_iff.trans (or_iff_left id).symm
  | fire handle =>
    obtain ⟨⟨base, turning⟩, -⟩ := reached
    refine Iff.trans ?_ (or_iff_left id).symm
    change (s.timeouts.find? _).any _ = true ↔ ∃ timeout ∈ s.timeouts, _
    cases found : s.timeouts.find? (·.handle = handle) with
    | none =>
      have unknown := List.find?_eq_none.mp found
      simp only [Option.any_none, Bool.false_eq_true, false_iff]
      rintro ⟨timeout, member, same, -⟩
      exact unknown timeout member (decide_eq_true same)
    | some timeout =>
      have member := List.mem_of_find?_eq_some found
      have same : timeout.handle = handle := by simpa using List.find?_some found
      refine expires_iff.trans ⟨fun expired => ⟨timeout, member, same, expired⟩, ?_⟩
      rintro ⟨other, among, -, expired⟩
      rw [turning.single member among]
      exact expired
  | finish pid ok => simp [lags, Accepts, Lone]
  | onState socket => simp [lags, Accepts, Lone]

/-- A turn that leaves nothing untold publishes what it changes. -/
theorem published_of_told {s : LiveGame} {action : Action} (wired : Wired s) (told : lags s action = false)
    (changed : Changed s.game (step s action).game) : Published (news s (step s action)) (step s action).game := by
  by_cases joins : ∃ socket, action = .onState socket
  · obtain ⟨socket, rfl⟩ := joins
    exact absurd changed (by simp [Changed, step, LiveGame.onState, LiveGame.on])
  · obtain ⟨block, effects, -, rest⟩ := turns_step wired action fun socket same => joins ⟨socket, same⟩
    rw [news_of_append block effects]
    rcases rest with lagging | published | ⟨same, -⟩
    · rw [told] at lagging
      cases lagging
    · exact published
    · rw [same] at changed
      exact absurd changed (by simp [Changed])

/-- `startIfPlayersReady` throws before the listener that triggers 'state' is called. -/
theorem lone_unpublished {s : LiveGame} {playerId : String} {ready : Bool} (wired : Wired s)
    (lone : Lone s (.playerReady playerId ready)) :
    Changed s.game (step s (.playerReady playerId ready)).game ∧
      ¬Published (news s (step s (.playerReady playerId ready))) (step s (.playerReady playerId ready)).game := by
  obtain ⟨rfl, never, only⟩ := lone
  have result : step s (.playerReady playerId true) =
      adding (withPlayers s [{ playerId, ready := true }]) [.trigger (.playerReady { playerId, ready := true })] := by
    simp only [step, LiveGame.playerReady, only, List.findIdx?_cons, decide_true, if_true]
    simp [wired.playerReady, LiveGame.runPlayerReadyCallbacks, LiveGame.startIfPlayersReady, LiveGame.emit, never, adding,
      withPlayers]
  rw [result]
  refine ⟨.inl (by simp [adding, withPlayers, only]), fun published => ?_⟩
  have saved := published.saved
  rw [news_of_append (s := s) _ rfl] at saved
  cases saved

/-- An accepted answer ends the round after the only snapshots of the turn have been taken. -/
theorem answer_unpublished {s : LiveGame} {answer : Answer} (runs : isOpen s answer.round) :
    Changed s.game (s.answer answer).1.game ∧ ¬Published (news s (s.answer answer).1) (s.answer answer).1.game := by
  obtain ⟨round, roundObj, found, started, running⟩ := isOpen_iff.mp runs
  have current := roundAt_some found
  have bound := (List.getElem?_eq_some_iff.mp current).1
  have stamped : (answered s round roundObj answer).rounds[round]? = some (roundObj.onAnswer answer.value s.now).1 :=
    List.getElem?_set_self bound
  rw [answer_accepted s answer round roundObj found running started]
  refine ⟨.inr (.inl fun same => ?_), fun published => ?_⟩
  · change s.game.rounds = (answered s round roundObj answer).rounds at same
    rw [← same, current] at stamped
    have ended := congrArg Round.endTime (Option.some.inj stamped)
    simp [running, Round.onAnswer] at ended
  · rw [news_of_append (s := s) _ rfl] at published
    obtain ⟨effect, member, seen⟩ := List.mem_filterMap.mp (List.mem_of_getLast? published.saved)
    have snapshot : snapshotOf effect = some (answered s round roundObj answer).state := by
      cases effect with
      | saveGame data => exact seen
      | _ => cases seen
    have stale := only_answerBlock s.game answer effect member _ snapshot
    have rounds := congrArg (fun data => data.rounds[round]?) stale
    simp only [Game.state, List.getElem?_map, current, stamped] at rounds
    have ended := congrArg RoundData.endTime (Option.some.inj rounds)
    simp [Round.json, running, Round.onAnswer] at ended

theorem lagging_unpublished {s : LiveGame} {action : Action} (wired : Wired s) (lagging : lags s action) :
    Changed s.game (step s action).game ∧ ¬Published (news s (step s action)) (step s action).game := by
  cases action with
  | playerReady playerId ready =>
    apply lone_unpublished wired
    simpa [lags, Lone, and_assoc] using lagging
  | answer answer => exact answer_unpublished lagging
  | fire handle =>
    obtain ⟨timeout, found, expired⟩ := (Option.any_eq_true _ _).mp lagging
    rw [fire_found found]
    cases callback : timeout.callback with
    | answer round =>
      rw [callback] at expired
      -- The timer is out of the list when it answers, which changes neither the game nor its effects.
      exact answer_unpublished (s := s.clearTimeout (some handle)) expired
    | gotoRound round =>
      rw [callback] at expired
      cases expired
  | finish pid ok => cases lagging
  | onState socket => cases lagging

/-- A turn publishes what it changed unless it answers the open round, or readies a lone player. The game may be new, or
resumed from its row. -/
theorem published_iff {origin : LiveGame} (begun : Origin origin) (turns : List Turn) (action : Action) :
    (Changed (run turn origin turns).game (step (run turn origin turns) action).game →
        Published (news (run turn origin turns) (step (run turn origin turns) action))
          (step (run turn origin turns) action).game) ↔
      ¬Accepts (run turn origin turns) action ∧ ¬Lone (run turn origin turns) action := by
  have reached : Reached (run turn origin turns) :=
    run_invariant Reached (fun _ next reached => reached_turn next reached) turns begun.reached
  rw [← not_or, ← lags_iff reached, Bool.not_eq_true]
  constructor
  · intro publishes
    by_contra lagging
    obtain ⟨changed, unpublished⟩ := lagging_unpublished reached.2 (Bool.not_eq_false _ ▸ lagging)
    exact unpublished (publishes changed)
  · exact fun told changed => published_of_told reached.2 told changed

theorem published_iff_sample :
    Published (news (run turn sample ((sampleRun.take 1).map .action)) (run turn sample ((sampleRun.take 2).map .action)))
      (run turn sample ((sampleRun.take 2).map .action)).game := by
  have company : ¬Lone (run turn sample ((sampleRun.take 1).map .action)) (.playerReady "kate" true) := fun lone =>
    absurd (congrArg List.length lone.2.2) (by decide)
  refine (published_iff (.constructed sample_fresh) ((sampleRun.take 1).map .action) (.playerReady "kate" true)).mpr
    ⟨id, company⟩ ?_
  exact .inr (.inr (.inr (.inl (by decide))))

/-- Pete answers round 0 of the running sample game. -/
def sampleAnswer : Action := .answer { round := .ofNat 0, value := .number (.finite 1) }

theorem sampleAnswer_unpublished :
    ¬(Changed (run step sample (sampleRun.take 2)).game (step (run step sample (sampleRun.take 2)) sampleAnswer).game →
      Published (news (run step sample (sampleRun.take 2)) (step (run step sample (sampleRun.take 2)) sampleAnswer))
        (step (run step sample (sampleRun.take 2)) sampleAnswer).game) := by
  intro publishes
  have runs : isOpen (run step sample (sampleRun.take 2)) (.ofNat 0) = true := rfl
  obtain ⟨changed, unpublished⟩ := @answer_unpublished _ { round := .ofNat 0, value := .number (.finite 1) } runs
  exact unpublished (publishes changed)

end DfStudy.GamePublication
