import DfStudy.GameFrames

/-! The control state of a game: which of its rounds have been played, and the one timeout that will
move it on. `Phase` is the invariant, `Move` lists everything one turn of the event loop can do to a
game in a phase, and every later result about runs is a case analysis of `Move`. -/

namespace DfStudy.GameControl
open Js Rounds Games GameFrames Support.Machine LiveGame

/-- Every round below `count` has been started and has ended. -/
def Played (rounds : List Round) (count : Nat) : Prop :=
  ∀ index < count, ∀ round, rounds[index]? = some round → round.startTime.isSome ∧ round.endTime.isSome

/-- No round from `first` on has been touched. -/
def Untouched (rounds : List Round) (first : Nat) : Prop :=
  ∀ index ≥ first, ∀ round, rounds[index]? = some round → round.Fresh

def stopOf : Effect → Option Unit
  | .trigger .stop => some ()
  | _ => none

/-- How often 'stop' has been triggered. -/
def stops (s : LiveGame) : Nat := (s.effects.filterMap stopOf).length

structure Unstarted (s : LiveGame) : Prop where
  startTime : s.game.startTime = none
  endTime : s.game.endTime = none
  currentRound : s.game.currentRound = 0
  untouched : Untouched s.game.rounds 0
  timeouts : s.timeouts = []
  stops : stops s = 0

structure RoundOpen (s : LiveGame) : Prop where
  startTime : s.game.startTime.isSome
  endTime : s.game.endTime = none
  played : Played s.game.rounds s.game.currentRound
  current : ∃ round, s.game.rounds[s.game.currentRound]? = some round ∧
    round.startTime.isSome ∧ round.endTime = none ∧ round.answer = .undefined
  untouched : Untouched s.game.rounds (s.game.currentRound + 1)
  timer : ∃ handle ms, s.gameTimers = some handle ∧
    s.timeouts = [{ handle, callback := .answer s.game.currentRound, ms }]
  stops : stops s = 0

structure RoundOver (s : LiveGame) : Prop where
  startTime : s.game.startTime.isSome
  endTime : s.game.endTime = none
  current : s.game.currentRound < s.game.rounds.length
  played : Played s.game.rounds (s.game.currentRound + 1)
  untouched : Untouched s.game.rounds (s.game.currentRound + 1)
  transition : ∃ handle ms, s.timeouts = [{ handle, callback := .gotoRound (s.game.currentRound + 1), ms }]
  stops : stops s = 0

structure Stopped (s : LiveGame) : Prop where
  startTime : s.game.startTime.isSome
  endTime : s.game.endTime.isSome
  current : s.game.currentRound = s.game.rounds.length
  played : Played s.game.rounds s.game.currentRound
  timeouts : s.timeouts = []
  stops : stops s = 1

inductive Phase (s : LiveGame) : Prop where
  | unstarted (phase : Unstarted s)
  | roundOpen (phase : RoundOpen s)
  | roundOver (phase : RoundOver s)
  | stopped (phase : Stopped s)

/-- The constructor's listeners come first. The rest of the server adds its own to 'state', 'stop' and
'round' only. -/
structure Constructed (cbMap : CbMap) : Prop where
  playerReady : cbMap.playerReady = [.startIfPlayersReady, .triggerState]
  answer : cbMap.answer = [.triggerState]
  start : cbMap.start = [.triggerState]
  state : ∃ more, cbMap.state = .saveGame :: more
  stop : ∃ more, cbMap.stop = .triggerState :: more
  round : ∃ more, cbMap.round = .triggerState :: more

def Wired (s : LiveGame) : Prop := Constructed s.game.cbMap

theorem constructed_default : Constructed {} where
  playerReady := rfl
  answer := rfl
  start := rfl
  state := ⟨[], rfl⟩
  stop := ⟨[], rfl⟩
  round := ⟨[], rfl⟩

/-- A `Game` as the constructor leaves it, with rounds from `createRound`. Sockets, attacks and the
session may have added their listeners. -/
structure Fresh (s : LiveGame) : Prop where
  startTime : s.game.startTime = none
  endTime : s.game.endTime = none
  currentRound : s.game.currentRound = 0
  rounds : ∃ schedule : List RoundData, schedule.mapM createRound = .ok s.game.rounds
  timeouts : s.timeouts = []
  effects : s.effects = []
  wired : Wired s

/-! The states one turn can lead to. -/

def withPlayers (s : LiveGame) (players : List Player) : LiveGame :=
  { s with game := { s.game with players } }

/-- `this.startTime = Date.now()`. -/
def stamped (s : LiveGame) : LiveGame :=
  { s.tick with game := { s.game with startTime := some s.now } }

def enter (s : LiveGame) (round : Nat) (roundObj : Round) : LiveGame :=
  (spawning (adding { s.tick with game := entered s round roundObj } (roundBlock (entered s round roundObj) round))
    (s.game.cbMap.round.flatMap (spawned round))).scheduleTimer (.answer round) roundObj.msLength

def close (s : LiveGame) (round : Nat) : LiveGame :=
  adding { s.tick with game := ended (s.setCurrentRound round), timeouts := [] }
    (stopBlock (ended (s.setCurrentRound round)))

def settle (s : LiveGame) (round : Nat) (roundObj : Round) (answer : Answer) : LiveGame :=
  adding { s.tick with
    game := answered s round roundObj answer
    timeouts := [{ handle := s.handles, callback := .gotoRound (round + 1), ms := 1000 }]
    handles := s.handles + 1 } (answerBlock s.game answer)

/-- The start of the game on top of the ready flag that completed the players. -/
def begin (s : LiveGame) (players : List Player) (player : Player) : LiveGame :=
  stamped (adding (withPlayers s players) [.trigger (.playerReady player)])

/-- The turn answers the open round, be it a client's answer or the round's own timer. -/
def Accepts (s : LiveGame) : Action → Prop
  | .answer answer => ∃ round roundObj, s.roundAt answer.round = some (round, roundObj) ∧
      roundObj.startTime.isSome ∧ roundObj.endTime = none
  | .fire handle => ∃ timeout ∈ s.timeouts, timeout.handle = handle ∧
      ∃ round roundObj, timeout.callback = .answer round ∧ s.game.rounds[round]? = some roundObj ∧
        roundObj.startTime.isSome ∧ roundObj.endTime = none
  | .playerReady _ _ => False
  | .finish _ _ => False
  | .onState _ => False

def playerIds (players : List Player) : List String := players.map Player.playerId

/-- The only player of a game gets ready. Then `startIfPlayersReady` throws, for the want of a second
player, and 'state' is not triggered. -/
def Alone (s : LiveGame) (players : List Player) (player : Player) : Prop :=
  s.game.startTime = none ∧ player.ready = true ∧ players = [player] ∧
    ∃ old, s.game.players = [old] ∧ old.playerId = player.playerId

inductive Move (s : LiveGame) : Action → LiveGame → Prop where
  | still (action : Action) (refused : ¬Accepts s action) : Move s action s
  | readied (players : List Player) (player : Player) (block : List Effect)
      (published : block = stateBlock (withPlayers s players).game ∨ block = [] ∧ Alone s players player)
      (ids : playerIds players = playerIds s.game.players) :
      Move s (.playerReady player.playerId player.ready)
        (adding (withPlayers s players) (.trigger (.playerReady player) :: block))
  | exited (child : Child) (ok : Bool) (pid : Nat) (found : s.children.find? (·.pid = pid) = some child) :
      Move s (.finish pid ok) (s.finish pid ok)
  | joined (socket : Nat) : Move s (.onState socket) (s.onState socket)
  | begun (players : List Player) (player : Player) (roundObj : Round) (phase : Unstarted s)
      (first : s.game.rounds[0]? = some roundObj) (ids : playerIds players = playerIds s.game.players)
      (s' : LiveGame) (result : s' = enter (begin s players player) 0 roundObj) :
      Move s (.playerReady player.playerId player.ready) (adding s' (startBlock s'.game ++ stateBlock s'.game))
  | begunEmpty (players : List Player) (player : Player) (phase : Unstarted s)
      (empty : s.game.rounds = []) (ids : playerIds players = playerIds s.game.players)
      (s' : LiveGame) (result : s' = close (begin s players player) 0) :
      Move s (.playerReady player.playerId player.ready) (adding s' (startBlock s'.game ++ stateBlock s'.game))
  | answered (action : Action) (answer : Answer) (roundObj : Round) (phase : RoundOpen s)
      (current : s.game.rounds[s.game.currentRound]? = some roundObj) (accepted : Accepts s action) :
      Move s action (settle s s.game.currentRound roundObj answer)
  | advanced (handle : Nat) (roundObj : Round) (phase : RoundOver s)
      (next : s.game.rounds[s.game.currentRound + 1]? = some roundObj)
      (pending : ∃ ms, s.timeouts = [{ handle, callback := .gotoRound (s.game.currentRound + 1), ms }]) :
      Move s (.fire handle) (enter { s with timeouts := [] } (s.game.currentRound + 1) roundObj)
  | finished (handle : Nat) (phase : RoundOver s) (last : s.game.currentRound + 1 = s.game.rounds.length)
      (pending : ∃ ms, s.timeouts = [{ handle, callback := .gotoRound (s.game.currentRound + 1), ms }]) :
      Move s (.fire handle) (close s (s.game.currentRound + 1))

/-! Every turn is a move. -/

theorem startIfPlayersReady_cases (s : LiveGame) :
    s.startIfPlayersReady = (s, .right false) ∨
      (∃ message, s.startIfPlayersReady = (s, .threw message)) ∧ s.game.startTime = none ∧
        (s.game.players = [] ∨ ∃ blue, s.game.players = [blue] ∧ blue.ready = true) ∨
      s.startIfPlayersReady = (s.start.1, .right true) ∧ s.game.startTime = none := by
  unfold startIfPlayersReady
  by_cases started : s.game.startTime.isSome
  · exact .inl (if_pos started)
  · rw [if_neg started]
    have never : s.game.startTime = none := by simpa using started
    cases players : s.game.players with
    | nil => exact .inr (.inl ⟨⟨_, rfl⟩, never, .inl rfl⟩)
    | cons blue rest =>
      dsimp only
      by_cases blueReady : blue.ready ≠ true
      · exact .inl (if_pos blueReady)
      · rw [if_neg blueReady]
        cases rest with
        | nil => exact .inr (.inl ⟨⟨_, rfl⟩, never, .inr ⟨blue, rfl, by simpa using blueReady⟩⟩)
        | cons red others =>
          dsimp only
          by_cases redReady : red.ready ≠ true
          · exact .inl (if_pos redReady)
          · rw [if_neg redReady]
            exact .inr (.inr ⟨rfl, never⟩)

theorem start_enters (s : LiveGame) (roundObj : Round) (first : s.game.rounds[0]? = some roundObj) :
    s.start.1 = adding (enter (stamped s) 0 roundObj) (startBlock (enter (stamped s) 0 roundObj).game) := by
  have moved : ((stamped s).gotoRound 0).1 = enter (stamped s) 0 roundObj :=
    gotoRound_enters (stamped s) 0 roundObj first
  change ((stamped s).gotoRound 0).1.triggerStart = _
  rw [moved, triggerStart_eq]

theorem start_empty (s : LiveGame) (empty : s.game.rounds = []) (idle : s.timeouts = []) :
    s.start.1 = adding (close (stamped s) 0) (startBlock (close (stamped s) 0).game) := by
  have past : (stamped s).game.rounds[0]? = none := by simp [stamped, empty]
  have moved : ((stamped s).gotoRound 0).1 = close (stamped s) 0 := by
    rw [gotoRound_past _ _ past, stop_eq]
    simp [close, stamped, setCurrentRound, tick, idle]
  change ((stamped s).gotoRound 0).1.triggerStart = _
  rw [moved, triggerStart_eq]

/-- Starting needs an unset `startTime`, and then no phase but the first is possible. -/
theorem unstarted_of_none {s : LiveGame} (phase : Phase s) (never : s.game.startTime = none) : Unstarted s := by
  cases phase with
  | unstarted phase => exact phase
  | roundOpen phase => exact absurd phase.startTime (by simp [never])
  | roundOver phase => exact absurd phase.startTime (by simp [never])
  | stopped phase => exact absurd phase.startTime (by simp [never])

theorem playerIds_modify (players : List Player) (index : Nat) (ready : Bool) :
    playerIds (players.modify index ({ · with ready })) = playerIds players := by
  unfold playerIds
  apply List.ext_getElem?
  intro slot
  rw [List.getElem?_map, List.getElem?_map, List.getElem?_modify]
  cases players[slot]? with
  | none => rfl
  | some player =>
    by_cases here : index = slot
    · simp [here]
    · simp [here]

theorem alone_of_threw {s : LiveGame} {playerId : String} {ready : Bool} {index : Nat}
    (located : s.game.players.findIdx? (·.playerId = playerId) = some index) (never : s.game.startTime = none)
    (few : s.game.players.modify index ({ · with ready }) = [] ∨
      ∃ blue, s.game.players.modify index ({ · with ready }) = [blue] ∧ blue.ready = true) :
    Alone s (s.game.players.modify index ({ · with ready })) { playerId, ready } := by
  obtain ⟨bound, same, _⟩ := List.findIdx?_eq_some_iff_getElem.mp located
  rcases few with none | ⟨blue, single, blueReady⟩
  · rw [List.modify_eq_nil_iff] at none
    simp [none] at bound
  · have one : s.game.players.length = 1 := by
      have count := congrArg List.length single
      simpa using count
    obtain ⟨old, only⟩ := List.length_eq_one_iff.mp one
    have first : index = 0 := by omega
    subst first
    simp only [only, List.getElem_cons_zero, decide_eq_true_eq] at same
    rw [only, List.modify_zero_cons, List.cons.injEq] at single
    have flag : ready = true := by rw [← blueReady, ← single.1]
    exact ⟨never, flag, by simp [only, same], old, only, same⟩

theorem move_playerReady {s : LiveGame} (phase : Phase s) (wired : Wired s) (playerId : String) (ready : Bool) :
    Move s (.playerReady playerId ready) (s.playerReady playerId ready).1 := by
  unfold LiveGame.playerReady
  cases located : s.game.players.findIdx? (·.playerId = playerId) with
  | none => exact .still _ id
  | some index =>
    dsimp only
    rw [wired.playerReady]
    set players := s.game.players.modify index ({ · with ready }) with modified
    have ids : playerIds players = playerIds s.game.players := playerIds_modify _ _ _
    let player : Player := { playerId, ready }
    change Move s (.playerReady player.playerId player.ready)
      (runPlayerReadyCallbacks (adding (withPlayers s players) [.trigger (.playerReady player)])
        [.startIfPlayersReady, .triggerState]).1
    simp only [runPlayerReadyCallbacks]
    rcases startIfPlayersReady_cases (adding (withPlayers s players) [.trigger (.playerReady player)]) with
      waiting | ⟨⟨message, threw⟩, never, few⟩ | ⟨starting, never⟩
    · rw [waiting]
      dsimp only
      rw [triggerState_eq, adding_adding]
      exact .readied players player _ (.inl rfl) ids
    · rw [threw]
      have alone : Alone s players player := alone_of_threw located never few
      exact .readied players player _ (.inr ⟨rfl, alone⟩) ids
    · rw [starting]
      dsimp only
      have unstarted := unstarted_of_none phase never
      cases first : s.game.rounds[0]? with
      | some roundObj =>
        rw [start_enters _ roundObj (by exact first), triggerState_eq, adding_adding]
        exact .begun players player roundObj unstarted first ids _ rfl
      | none =>
        have empty : s.game.rounds = [] := by simpa using first
        rw [start_empty _ (by exact empty) (by exact unstarted.timeouts), triggerState_eq, adding_adding]
        exact .begunEmpty players player unstarted empty ids _ rfl

/-- A started round that has not ended is the current one. -/
theorem open_of_phase {s : LiveGame} (phase : Phase s) {round : Nat} {roundObj : Round}
    (present : s.game.rounds[round]? = some roundObj) (started : roundObj.startTime.isSome)
    (running : roundObj.endTime = none) : RoundOpen s ∧ round = s.game.currentRound := by
  have fresh : ∀ first, Untouched s.game.rounds first → ¬first ≤ round := fun first untouched beyond => by
    simp [(untouched round beyond _ present).startTime] at started
  have hasEnded : ∀ count, Played s.game.rounds count → ¬round < count := fun count played below => by
    simpa [running] using (played round below _ present).2
  cases phase with
  | unstarted phase => exact absurd (Nat.zero_le _) (fresh 0 phase.untouched)
  | roundOpen phase =>
    have lower := hasEnded _ phase.played
    have upper := fresh _ phase.untouched
    exact ⟨phase, by omega⟩
  | roundOver phase =>
    have lower := hasEnded _ phase.played
    have upper := fresh _ phase.untouched
    omega
  | stopped phase =>
    have below := (List.getElem?_eq_some_iff.mp present).1
    exact absurd (phase.current ▸ below) (hasEnded _ phase.played)

theorem RoundOpen.cleared {s : LiveGame} (phase : RoundOpen s) :
    (s.clearTimeout s.gameTimers).timeouts = [] := by
  obtain ⟨handle, ms, slot, only⟩ := phase.timer
  simp [LiveGame.clearTimeout, slot, only]

theorem answer_settles {s : LiveGame} (answer : Answer) {round : Nat} {roundObj : Round}
    (found : s.roundAt answer.round = some (round, roundObj)) (started : roundObj.startTime.isSome)
    (running : roundObj.endTime = none) (cleared : (s.clearTimeout s.gameTimers).timeouts = []) :
    (s.answer answer).1 = settle s round roundObj answer := by
  rw [answer_accepted s answer _ roundObj found running started]
  unfold settle LiveGame.setTimeout adding
  simp only [LiveGame.tick, cleared, delay_pause]
  rfl

theorem move_answer {s : LiveGame} (phase : Phase s) (answer : Answer) :
    Move s (.answer answer) (s.answer answer).1 := by
  by_cases accepted : Accepts s (.answer answer)
  · obtain ⟨round, roundObj, found, started, running⟩ := accepted
    obtain ⟨opened, rfl⟩ := open_of_phase phase (roundAt_some found) started running
    rw [answer_settles answer found started running opened.cleared]
    exact .answered _ answer roundObj opened (roundAt_some found) ⟨_, roundObj, found, started, running⟩
  · have rejected : (s.answer answer).1 = s := by
      apply (answer_rejected s answer _).1
      intro round roundObj found
      by_contra live
      rw [not_or, Bool.not_eq_true, Option.isSome_eq_false_iff, Option.isNone_iff_eq_none] at live
      exact accepted ⟨round, roundObj, found, Option.isSome_iff_ne_none.mpr live.2, live.1⟩
    rw [rejected]
    exact .still _ accepted

/-- Only the handle of the single live timeout fires. -/
theorem fire_single (s : LiveGame) (timeout : Timeout) (only : s.timeouts = [timeout]) :
    s.fire timeout.handle = ({ s with timeouts := [] } : LiveGame).runTimeout timeout.callback := by
  unfold LiveGame.fire
  simp [LiveGame.clearTimeout, only]

theorem fire_unknown (s : LiveGame) (handle : Nat) (unknown : ∀ timeout ∈ s.timeouts, timeout.handle ≠ handle) :
    s.fire handle = s := by
  have absent : s.timeouts.find? (·.handle = handle) = none := by
    rw [List.find?_eq_none]
    intro timeout member
    simpa using unknown timeout member
  unfold LiveGame.fire
  rw [absent]

theorem move_fire {s : LiveGame} (phase : Phase s) (handle : Nat) : Move s (.fire handle) (s.fire handle) := by
  by_cases unknown : ∀ timeout ∈ s.timeouts, timeout.handle ≠ handle
  · rw [fire_unknown s handle unknown]
    exact .still _ (fun ⟨timeout, member, same, _⟩ => unknown timeout member same)
  · push Not at unknown
    obtain ⟨timeout, member, same⟩ := unknown
    subst same
    cases phase with
    | unstarted phase => simp [phase.timeouts] at member
    | stopped phase => simp [phase.timeouts] at member
    | roundOpen phase =>
      obtain ⟨timer, ms, slot, only⟩ := phase.timer
      obtain ⟨roundObj, present, started, running, _⟩ := phase.current
      have identified := List.mem_singleton.mp (only ▸ member)
      subst identified
      rw [fire_single s _ only]
      let answer : Answer := { round := .ofNat s.game.currentRound }
      have found : ({ s with timeouts := [] } : LiveGame).roundAt answer.round =
          some (s.game.currentRound, roundObj) := by
        rw [roundAt_ofNat]
        simp [present]
      have settled : ({ s with timeouts := [] } : LiveGame).runTimeout (.answer s.game.currentRound) =
          settle s s.game.currentRound roundObj answer :=
        answer_settles answer found started running rfl
      rw [settled]
      exact .answered _ answer roundObj phase present
        ⟨_, member, rfl, _, roundObj, rfl, present, started, running⟩
    | roundOver phase =>
      obtain ⟨timer, ms, only⟩ := phase.transition
      have identified := List.mem_singleton.mp (only ▸ member)
      subst identified
      rw [fire_single s _ only]
      change Move s (.fire timer) (({ s with timeouts := [] } : LiveGame).gotoRound (s.game.currentRound + 1)).1
      cases next : s.game.rounds[s.game.currentRound + 1]? with
      | some roundObj =>
        rw [gotoRound_enters { s with timeouts := [] } _ roundObj next]
        exact .advanced timer roundObj phase next ⟨ms, only⟩
      | none =>
        have last : s.game.currentRound + 1 = s.game.rounds.length := by
          have bound := phase.current
          have past := List.getElem?_eq_none_iff.mp next
          omega
        rw [gotoRound_past { s with timeouts := [] } _ next, stop_eq]
        exact .finished timer phase last ⟨ms, only⟩

theorem move_finish {s : LiveGame} (pid : Nat) (ok : Bool) : Move s (.finish pid ok) (s.finish pid ok) := by
  cases found : s.children.find? (·.pid = pid) with
  | none =>
    unfold LiveGame.finish
    rw [found]
    exact .still _ id
  | some child => exact .exited child ok pid found

theorem move_step {s : LiveGame} (phase : Phase s) (wired : Wired s) (action : Action) :
    Move s action (step s action) := by
  cases action with
  | playerReady playerId ready => exact move_playerReady phase wired playerId ready
  | answer answer => exact move_answer phase answer
  | fire handle => exact move_fire phase handle
  | finish pid ok => exact move_finish pid ok
  | onState socket => exact .joined socket

/-! Every move leads from a phase to a phase. -/

theorem stopOf_ignores (effect : Effect) (quiet : routine effect) : stopOf effect = none := by
  cases effect with
  | trigger event => cases event <;> first | rfl | cases quiet
  | _ => rfl

theorem stops_append {s s' : LiveGame} (block : List Effect) (effects : s'.effects = s.effects ++ block) :
    stops s' = stops s + (block.filterMap stopOf).length := by
  simp [stops, effects]

theorem stopOf_roundBlock (game : Game) (round : Nat) : (roundBlock game round).filterMap stopOf = [] := by
  rw [observe_roundBlock stopOf_ignores]
  simp [stopOf]

theorem stopOf_stopBlock (game : Game) : (stopBlock game).filterMap stopOf = [()] := by
  rw [observe_stopBlock stopOf_ignores]
  simp [stopOf]

theorem Phase.congr {s s' : LiveGame} (game : s'.game = { s.game with players := s'.game.players, cbMap := s'.game.cbMap })
    (timeouts : s'.timeouts = s.timeouts) (gameTimers : s'.gameTimers = s.gameTimers)
    (same : stops s' = stops s) (phase : Phase s) : Phase s' := by
  have startTime : s'.game.startTime = s.game.startTime := by rw [game]
  have endTime : s'.game.endTime = s.game.endTime := by rw [game]
  have currentRound : s'.game.currentRound = s.game.currentRound := by rw [game]
  have rounds : s'.game.rounds = s.game.rounds := by rw [game]
  cases phase with
  | unstarted phase =>
    exact .unstarted ⟨startTime ▸ phase.startTime, endTime ▸ phase.endTime, currentRound ▸ phase.currentRound,
      rounds ▸ phase.untouched, timeouts ▸ phase.timeouts, same ▸ phase.stops⟩
  | roundOpen phase =>
    refine .roundOpen ⟨startTime ▸ phase.startTime, endTime ▸ phase.endTime, ?_, ?_, ?_, ?_, same ▸ phase.stops⟩
    · rw [rounds, currentRound]; exact phase.played
    · rw [rounds, currentRound]; exact phase.current
    · rw [rounds, currentRound]; exact phase.untouched
    · rw [gameTimers, timeouts, currentRound]; exact phase.timer
  | roundOver phase =>
    refine .roundOver ⟨startTime ▸ phase.startTime, endTime ▸ phase.endTime, ?_, ?_, ?_, ?_, same ▸ phase.stops⟩
    · rw [rounds, currentRound]; exact phase.current
    · rw [rounds, currentRound]; exact phase.played
    · rw [rounds, currentRound]; exact phase.untouched
    · rw [timeouts, currentRound]; exact phase.transition
  | stopped phase =>
    refine .stopped ⟨startTime ▸ phase.startTime, endTime ▸ phase.endTime, ?_, ?_, timeouts ▸ phase.timeouts,
      same ▸ phase.stops⟩
    · rw [rounds, currentRound]; exact phase.current
    · rw [rounds, currentRound]; exact phase.played

theorem Played.set_ge {rounds : List Round} {count index : Nat} (played : Played rounds count)
    (beyond : count ≤ index) (round : Round) : Played (rounds.set index round) count := by
  intro other below value present
  rw [List.getElem?_set_ne (by omega)] at present
  exact played other below value present

theorem Played.succ {rounds : List Round} {count : Nat} (played : Played rounds count) (round : Round)
    (started : round.startTime.isSome) (hasEnded : round.endTime.isSome) :
    Played (rounds.set count round) (count + 1) := by
  intro other below value present
  by_cases last : other = count
  · subst last
    rw [List.getElem?_set_self'] at present
    obtain ⟨_, _, same⟩ := Option.map_eq_some_iff.mp present
    cases same
    exact ⟨started, hasEnded⟩
  · exact played.set_ge le_rfl round other (by omega) value present

theorem Untouched.set_lt {rounds : List Round} {first index : Nat} (untouched : Untouched rounds first)
    (below : index < first) (round : Round) : Untouched (rounds.set index round) first := by
  intro other beyond value present
  rw [List.getElem?_set_ne (by omega)] at present
  exact untouched other beyond value present

theorem Untouched.mono {rounds : List Round} {first later : Nat} (untouched : Untouched rounds first)
    (le : first ≤ later) : Untouched rounds later :=
  fun index beyond => untouched index (le.trans beyond)

theorem stops_enter (s : LiveGame) (round : Nat) (roundObj : Round) : stops (enter s round roundObj) = stops s := by
  rw [stops_append (s := s) (roundBlock (entered s round roundObj) round) rfl, stopOf_roundBlock]
  rfl

theorem stops_close (s : LiveGame) (round : Nat) : stops (close s round) = stops s + 1 := by
  rw [stops_append (s := s) (stopBlock (ended (s.setCurrentRound round))) rfl, stopOf_stopBlock]
  rfl

theorem stops_begin (s : LiveGame) (players : List Player) (player : Player) :
    stops (begin s players player) = stops s := by
  rw [stops_append (s := s) [.trigger (.playerReady player)] rfl]
  rfl

/-- The open round right after `enter`. -/
theorem enter_open {s : LiveGame} {round : Nat} {roundObj : Round} (present : s.game.rounds[round]? = some roundObj)
    (startTime : s.game.startTime.isSome) (endTime : s.game.endTime = none) (idle : s.timeouts = [])
    (played : Played s.game.rounds round) (untouched : Untouched s.game.rounds round) (stops : stops s = 0) :
    RoundOpen (enter s round roundObj) where
  startTime := startTime
  endTime := endTime
  played := played.set_ge le_rfl _
  current := by
    have fresh := untouched round le_rfl roundObj present
    have bound := (List.getElem?_eq_some_iff.mp present).1
    exact ⟨_, List.getElem?_set_self bound, rfl, fresh.endTime, fresh.answer⟩
  untouched := (untouched.mono (Nat.le_succ _)).set_lt (Nat.lt_succ_self _) _
  timer := ⟨s.handles, delay roundObj.msLength, rfl, by
    simp [enter, scheduleTimer, LiveGame.setTimeout, LiveGame.clearTimeout, spawning, adding, tick, entered, idle]⟩
  stops := (stops_enter s round roundObj).trans stops

theorem close_stopped {s : LiveGame} {round : Nat} (all : round = s.game.rounds.length)
    (startTime : s.game.startTime.isSome) (played : Played s.game.rounds round) (stops : stops s = 0) :
    Stopped (close s round) where
  startTime := startTime
  endTime := rfl
  current := all
  played := played
  timeouts := rfl
  stops := by rw [stops_close, stops]

/-- The 'start' and 'state' events that follow the first round change nothing in the game. -/
theorem Phase.started {s : LiveGame} (phase : Phase s) :
    Phase (adding s (startBlock s.game ++ stateBlock s.game)) := by
  refine phase.congr rfl rfl rfl ?_
  rw [stops_append (s := s) _ rfl, List.filterMap_append, observe_startBlock stopOf_ignores,
    observe_stateBlock stopOf_ignores]
  rfl

theorem phase_move {s s' : LiveGame} {action : Action} (phase : Phase s) (move : Move s action s') : Phase s' := by
  cases move with
  | still action refused => exact phase
  | readied players player block published ids =>
    refine phase.congr rfl rfl rfl ?_
    rw [stops_append (s := s) _ rfl, filterMap_cons_toList]
    rcases published with rfl | ⟨rfl, _⟩
    · rw [observe_stateBlock stopOf_ignores]
      rfl
    · rfl
  | exited child ok pid found =>
    rw [finish_eq found]
    refine phase.congr rfl rfl rfl ?_
    rw [stops_append (s := s) _ rfl, filterMap_cons_toList, List.filterMap_map]
    simp [stopOf]
  | joined socket => exact phase.congr rfl rfl rfl rfl
  | begun players player roundObj unstarted first ids s' result =>
    subst result
    refine (Phase.roundOpen (enter_open (s := begin s players player) first rfl unstarted.endTime unstarted.timeouts ?_ unstarted.untouched ?_)).started
    · intro index below
      exact absurd below (Nat.not_lt_zero index)
    · rw [stops_begin, unstarted.stops]
  | begunEmpty players player unstarted empty ids s' result =>
    subst result
    refine (Phase.stopped (close_stopped (s := begin s players player) ?_ rfl ?_ ?_)).started
    · simp [begin, stamped, adding, withPlayers, empty]
    · intro index below
      exact absurd below (Nat.not_lt_zero index)
    · rw [stops_begin, unstarted.stops]
  | answered action answer roundObj opened current accepted =>
    obtain ⟨found, present, started, _, _⟩ := opened.current
    cases Option.some.inj (present.symm.trans current)
    refine .roundOver ⟨opened.startTime, opened.endTime, ?_, opened.played.succ _ started rfl,
      opened.untouched.set_lt (Nat.lt_succ_self _) _, ⟨s.handles, 1000, rfl⟩, ?_⟩
    · simpa [settle, adding, GameFrames.answered] using (List.getElem?_eq_some_iff.mp current).1
    · rw [stops_append (s := s) (answerBlock s.game answer) rfl, observe_answerBlock stopOf_ignores,
        opened.stops]
      rfl
  | advanced handle roundObj gap next pending =>
    exact .roundOpen (enter_open next gap.startTime gap.endTime rfl gap.played gap.untouched gap.stops)
  | finished handle gap last pending =>
    exact .stopped (close_stopped last gap.startTime gap.played gap.stops)

theorem Constructed.onState {cbMap : CbMap} (constructed : Constructed cbMap) (socket : Nat) :
    Constructed { cbMap with state := cbMap.state ++ [.emitState socket] } := by
  obtain ⟨more, state⟩ := constructed.state
  refine { constructed with state := ⟨more ++ [.emitState socket], ?_⟩ }
  rw [state]
  rfl

theorem wired_move {s s' : LiveGame} {action : Action} (move : Move s action s') (wired : Wired s) : Wired s' := by
  cases move with
  | joined socket => exact wired.onState socket
  | exited child ok pid found => rw [finish_eq found]; exact wired
  | begun players player roundObj unstarted first ids s' result => subst result; exact wired
  | begunEmpty players player unstarted empty ids s' result => subst result; exact wired
  | _ => exact wired

/-- The listeners of 'round' and 'stop' are registered before a game is played. -/
theorem listeners_move {s s' : LiveGame} {action : Action} (move : Move s action s') :
    s'.game.cbMap.round = s.game.cbMap.round ∧ s'.game.cbMap.stop = s.game.cbMap.stop := by
  cases move with
  | exited child ok pid found => rw [finish_eq found]; exact ⟨rfl, rfl⟩
  | begun players player roundObj unstarted first ids s' result => subst result; exact ⟨rfl, rfl⟩
  | begunEmpty players player unstarted empty ids s' result => subst result; exact ⟨rfl, rfl⟩
  | _ => exact ⟨rfl, rfl⟩

theorem playerIds_move {s s' : LiveGame} {action : Action} (move : Move s action s') :
    playerIds s'.game.players = playerIds s.game.players := by
  cases move with
  | readied players player block published ids => exact ids
  | exited child ok pid found => rw [finish_eq found]; rfl
  | begun players player roundObj unstarted first ids s' result => subst result; exact ids
  | begunEmpty players player unstarted empty ids s' result => subst result; exact ids
  | _ => rfl

end DfStudy.GameControl
