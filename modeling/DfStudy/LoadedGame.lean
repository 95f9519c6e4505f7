import DfStudy.GameInvariant
import DfStudy.ServerFrames

/-! A game as it is loaded from its row, new or played before. The rounds below the one it is resumed in have been
forgotten, so what is known of a game that runs is known from that round on. -/

namespace DfStudy.LoadedGame
open Js Rounds Attacks Games GameFrames GameControl GameInvariant ServerFrames Support.Machine LiveGame

/-- Started, and not ended. -/
def Round.Open (round : Round) : Prop := round.startTime.isSome ∧ round.endTime = none

/-- Every round below `count` has been played since the game was loaded in round `base`, or is as it was loaded. -/
def PlayedSince (base : Nat) (rounds : List Round) (count : Nat) : Prop :=
  ∀ index < count, ∀ round, rounds[index]? = some round →
    if base ≤ index then round.startTime.isSome ∧ round.endTime.isSome else round.Fresh

structure Waiting (base : Nat) (s : LiveGame) : Prop where
  base : base = 0
  startTime : s.game.startTime = none
  endTime : s.game.endTime = none
  untouched : Untouched s.game.rounds 0
  timeouts : s.timeouts = []

structure Playing (base : Nat) (s : LiveGame) : Prop where
  startTime : s.game.startTime.isSome
  endTime : s.game.endTime = none
  played : PlayedSince base s.game.rounds s.game.currentRound
  reached : base ≤ s.game.currentRound
  current : ∃ round, s.game.rounds[s.game.currentRound]? = some round ∧ Round.Open round ∧ round.answer = .undefined
  untouched : Untouched s.game.rounds (s.game.currentRound + 1)
  timer : ∃ handle ms, s.gameTimers = some handle ∧
    s.timeouts = [{ handle, callback := .answer s.game.currentRound, ms }]

structure Between (base : Nat) (s : LiveGame) : Prop where
  startTime : s.game.startTime.isSome
  endTime : s.game.endTime = none
  current : s.game.currentRound < s.game.rounds.length
  played : PlayedSince base s.game.rounds (s.game.currentRound + 1)
  reached : base ≤ s.game.currentRound
  untouched : Untouched s.game.rounds (s.game.currentRound + 1)
  transition : ∃ handle ms, s.timeouts = [{ handle, callback := .gotoRound (s.game.currentRound + 1), ms }]

structure Done (base : Nat) (s : LiveGame) : Prop where
  startTime : s.game.startTime.isSome
  endTime : s.game.endTime.isSome
  played : PlayedSince base s.game.rounds s.game.rounds.length
  timeouts : s.timeouts = []

inductive Turning (base : Nat) (s : LiveGame) : Prop where
  | waiting (phase : Waiting base s)
  | playing (phase : Playing base s)
  | between (phase : Between base s)
  | done (phase : Done base s)

/-! A round that is open is the current one. -/

theorem PlayedSince.closed {base count index : Nat} {rounds : List Round} (played : PlayedSince base rounds count)
    (below : index < count) {round : Round} (present : rounds[index]? = some round) : ¬Round.Open round := by
  rintro ⟨started, running⟩
  have known := played index below round present
  split at known
  · simp [running] at known
  · simp [known.startTime] at started

theorem untouched_closed {first index : Nat} {rounds : List Round} (untouched : Untouched rounds first)
    (beyond : first ≤ index) {round : Round} (present : rounds[index]? = some round) : ¬Round.Open round := by
  rintro ⟨started, -⟩
  simp [(untouched index beyond round present).startTime] at started

theorem Turning.open_current {base : Nat} {s : LiveGame} (turning : Turning base s) {index : Nat} {round : Round}
    (present : s.game.rounds[index]? = some round) (running : Round.Open round) :
    Playing base s ∧ index = s.game.currentRound := by
  cases turning with
  | waiting phase => exact absurd running (untouched_closed phase.untouched (Nat.zero_le _) present)
  | playing phase =>
    refine ⟨phase, ?_⟩
    by_contra elsewhere
    rcases Nat.lt_or_gt_of_ne elsewhere with below | above
    · exact phase.played.closed below present running
    · exact untouched_closed phase.untouched above present running
  | between phase =>
    rcases Nat.lt_or_ge index (s.game.currentRound + 1) with below | above
    · exact absurd running (phase.played.closed below present)
    · exact absurd running (untouched_closed phase.untouched above present)
  | done phase => exact absurd running (phase.played.closed (List.getElem?_eq_some_iff.mp present).1 present)

theorem Playing.cleared {base : Nat} {s : LiveGame} (phase : Playing base s) :
    (s.clearTimeout s.gameTimers).timeouts = [] := by
  obtain ⟨handle, ms, slot, only⟩ := phase.timer
  simp [LiveGame.clearTimeout, slot, only]

/-- No two timeouts are pending. -/
theorem Turning.single {base : Nat} {s : LiveGame} (turning : Turning base s) {timeout other : Timeout}
    (member : timeout ∈ s.timeouts) (member' : other ∈ s.timeouts) : timeout = other := by
  have one {only : Timeout} (single : s.timeouts = [only]) : timeout = other := by
    rw [single] at member member'
    rw [List.mem_singleton.mp member, List.mem_singleton.mp member']
  cases turning with
  | waiting phase => simp [phase.timeouts] at member
  | done phase => simp [phase.timeouts] at member
  | playing phase =>
    obtain ⟨_, _, -, only⟩ := phase.timer
    exact one only
  | between phase =>
    obtain ⟨_, _, only⟩ := phase.transition
    exact one only

/-! One turn. -/

theorem PlayedSince.set_ge {base count index : Nat} {rounds : List Round} (played : PlayedSince base rounds count)
    (beyond : count ≤ index) (round : Round) : PlayedSince base (rounds.set index round) count := by
  intro other below value present
  rw [List.getElem?_set_ne (by omega)] at present
  exact played other below value present

theorem PlayedSince.succ {base count : Nat} {rounds : List Round} (played : PlayedSince base rounds count)
    (reached : base ≤ count) (round : Round) (started : round.startTime.isSome) (hasEnded : round.endTime.isSome) :
    PlayedSince base (rounds.set count round) (count + 1) := by
  intro other below value present
  by_cases last : other = count
  · subst last
    rw [List.getElem?_set_self'] at present
    obtain ⟨_, _, same⟩ := Option.map_eq_some_iff.mp present
    cases same
    rw [if_pos reached]
    exact ⟨started, hasEnded⟩
  · exact played.set_ge le_rfl round other (by omega) value present

theorem PlayedSince.all {base count : Nat} {rounds : List Round} (played : PlayedSince base rounds count)
    (past : rounds[count]? = none) : PlayedSince base rounds rounds.length := by
  intro index below round present
  exact played index (below.trans_le (List.getElem?_eq_none_iff.mp past)) round present

/-- Entering a round, be it the first one, the next one, or the one a game is resumed in. -/
theorem enter_playing {base : Nat} {s : LiveGame} {round : Nat} {roundObj : Round}
    (present : s.game.rounds[round]? = some roundObj) (startTime : s.game.startTime.isSome)
    (endTime : s.game.endTime = none) (idle : s.timeouts = []) (played : PlayedSince base s.game.rounds round)
    (reached : base ≤ round) (untouched : Untouched s.game.rounds round) : Playing base (enter s round roundObj) where
  startTime := startTime
  endTime := endTime
  played := played.set_ge le_rfl _
  reached := reached
  current := by
    have fresh := untouched round le_rfl roundObj present
    have bound := (List.getElem?_eq_some_iff.mp present).1
    exact ⟨_, List.getElem?_set_self bound, ⟨rfl, fresh.endTime⟩, fresh.answer⟩
  untouched := (untouched.mono (Nat.le_succ _)).set_lt (Nat.lt_succ_self _) _
  timer := ⟨s.handles, delay roundObj.msLength, rfl, by
    simp [enter, scheduleTimer, LiveGame.setTimeout, LiveGame.clearTimeout, spawning, adding, tick, entered, idle]⟩

/-- Going past the last round. -/
theorem close_done {base : Nat} {s : LiveGame} {round : Nat} (past : s.game.rounds[round]? = none)
    (startTime : s.game.startTime.isSome) (played : PlayedSince base s.game.rounds round) : Done base (close s round) where
  startTime := startTime
  endTime := rfl
  played := played.all past
  timeouts := rfl

/-- Wherever a game goes. -/
theorem gotoRound_turning {base : Nat} {s : LiveGame} (round : Nat) (startTime : s.game.startTime.isSome)
    (endTime : s.game.endTime = none) (idle : s.timeouts = []) (played : PlayedSince base s.game.rounds round)
    (reached : base ≤ round) (untouched : Untouched s.game.rounds round) : Turning base (s.gotoRound round).1 := by
  cases found : s.game.rounds[round]? with
  | none =>
    rw [gotoRound_past s round found, stop_eq]
    have ended := close_done found startTime played
    unfold close at ended
    rw [← idle] at ended
    exact .done ended
  | some roundObj =>
    rw [gotoRound_enters s round roundObj found]
    exact .playing (enter_playing found startTime endTime idle played reached untouched)

/-- Effects, listeners, players and processes. -/
theorem Turning.congr {base : Nat} {s s' : LiveGame} (turning : Turning base s)
    (game : s'.game = { s.game with players := s'.game.players, cbMap := s'.game.cbMap })
    (timeouts : s'.timeouts = s.timeouts) (gameTimers : s'.gameTimers = s.gameTimers) : Turning base s' := by
  have startTime : s'.game.startTime = s.game.startTime := by rw [game]
  have endTime : s'.game.endTime = s.game.endTime := by rw [game]
  have currentRound : s'.game.currentRound = s.game.currentRound := by rw [game]
  have rounds : s'.game.rounds = s.game.rounds := by rw [game]
  cases turning with
  | waiting phase =>
    exact .waiting ⟨phase.base, startTime ▸ phase.startTime, endTime ▸ phase.endTime, rounds ▸ phase.untouched,
      timeouts ▸ phase.timeouts⟩
  | playing phase =>
    refine .playing ⟨startTime ▸ phase.startTime, endTime ▸ phase.endTime, ?_, ?_, ?_, ?_, ?_⟩
    · rw [rounds, currentRound]; exact phase.played
    · rw [currentRound]; exact phase.reached
    · rw [rounds, currentRound]; exact phase.current
    · rw [rounds, currentRound]; exact phase.untouched
    · rw [gameTimers, timeouts, currentRound]; exact phase.timer
  | between phase =>
    refine .between ⟨startTime ▸ phase.startTime, endTime ▸ phase.endTime, ?_, ?_, ?_, ?_, ?_⟩
    · rw [rounds, currentRound]; exact phase.current
    · rw [rounds, currentRound]; exact phase.played
    · rw [currentRound]; exact phase.reached
    · rw [rounds, currentRound]; exact phase.untouched
    · rw [timeouts, currentRound]; exact phase.transition
  | done phase =>
    exact .done ⟨startTime ▸ phase.startTime, endTime ▸ phase.endTime, rounds ▸ phase.played,
      timeouts ▸ phase.timeouts⟩

/-- The open round is answered, by a client or by its timer. -/
theorem settle_between {base : Nat} {s : LiveGame} (phase : Playing base s) {roundObj : Round}
    (present : s.game.rounds[s.game.currentRound]? = some roundObj) (running : Round.Open roundObj) (answer : Answer) :
    Between base (settle s s.game.currentRound roundObj answer) where
  startTime := phase.startTime
  endTime := phase.endTime
  current := by
    simpa [settle, adding, GameFrames.answered] using (List.getElem?_eq_some_iff.mp present).1
  played := phase.played.succ phase.reached _ running.1 rfl
  reached := phase.reached
  untouched := phase.untouched.set_lt (Nat.lt_succ_self _) _
  transition := ⟨s.handles, 1000, rfl⟩

theorem turning_answer {base : Nat} {s : LiveGame} (turning : Turning base s) (answer : Answer) :
    Turning base (s.answer answer).1 := by
  rcases answer_cases s answer with ⟨round, roundObj, found, running, started⟩ | ⟨same, -⟩
  · obtain ⟨phase, rfl⟩ := turning.open_current (roundAt_some found) ⟨started, running⟩
    rw [answer_settles answer found started running phase.cleared]
    exact .between (settle_between phase (roundAt_some found) ⟨started, running⟩ answer)
  · rw [same]
    exact turning

theorem turning_fire {base : Nat} {s : LiveGame} (turning : Turning base s) (handle : Nat) :
    Turning base (s.fire handle) := by
  by_cases unknown : ∀ timeout ∈ s.timeouts, timeout.handle ≠ handle
  · rw [fire_unknown s handle unknown]
    exact turning
  · push Not at unknown
    obtain ⟨timeout, member, same⟩ := unknown
    subst same
    cases turning with
    | waiting phase => simp [phase.timeouts] at member
    | done phase => simp [phase.timeouts] at member
    | playing phase =>
      obtain ⟨timer, ms, slot, only⟩ := phase.timer
      obtain ⟨roundObj, present, running, -⟩ := phase.current
      cases List.mem_singleton.mp (only ▸ member)
      rw [fire_single s _ only]
      have found : ({ s with timeouts := [] } : LiveGame).roundAt (.ofNat s.game.currentRound) =
          some (s.game.currentRound, roundObj) := by
        rw [roundAt_ofNat]
        simp [present]
      have settled := answer_settles { round := .ofNat s.game.currentRound } found running.1 running.2 rfl
      change Turning base (({ s with timeouts := [] } : LiveGame).answer { round := .ofNat s.game.currentRound }).1
      rw [settled]
      exact .between (settle_between phase present running _)
    | between phase =>
      obtain ⟨timer, ms, only⟩ := phase.transition
      cases List.mem_singleton.mp (only ▸ member)
      rw [fire_single s _ only]
      exact gotoRound_turning (s := { s with timeouts := [] }) _ phase.startTime phase.endTime rfl phase.played
        (Nat.le_succ_of_le phase.reached) phase.untouched

theorem turning_playerReady {base : Nat} {s : LiveGame} (turning : Turning base s) (wired : Wired s) (playerId : String)
    (ready : Bool) : Turning base (s.playerReady playerId ready).1 := by
  unfold LiveGame.playerReady
  cases located : s.game.players.findIdx? (·.playerId = playerId) with
  | none => exact turning
  | some index =>
    dsimp only
    rw [wired.playerReady]
    set players := s.game.players.modify index ({ · with ready })
    change Turning base (runPlayerReadyCallbacks
      (adding (withPlayers s players) [.trigger (.playerReady { playerId, ready })]) [.startIfPlayersReady, .triggerState]).1
    simp only [runPlayerReadyCallbacks]
    rcases startIfPlayersReady_cases (adding (withPlayers s players) [.trigger (.playerReady { playerId, ready })]) with
      waiting | ⟨⟨message, threw⟩, -, -⟩ | ⟨starting, never⟩
    · rw [waiting]
      dsimp only
      rw [triggerState_eq]
      exact turning.congr rfl rfl rfl
    · rw [threw]
      exact turning.congr rfl rfl rfl
    · rw [starting]
      dsimp only
      rw [triggerState_eq]
      refine Turning.congr ?_ rfl rfl rfl (s := (adding (withPlayers s players)
        [.trigger (.playerReady { playerId, ready })]).start.1)
      have unset : s.game.startTime = none := never
      cases turning with
      | waiting phase =>
        let begun := stamped (adding (withPlayers s players) [.trigger (.playerReady { playerId, ready })])
        have moves : Turning base (begun.gotoRound 0).1 := gotoRound_turning 0 rfl phase.endTime phase.timeouts
          (fun index below => absurd below (Nat.not_lt_zero index)) phase.base.le phase.untouched
        change Turning base (triggerStart _)
        rw [triggerStart_eq]
        exact moves.congr rfl rfl rfl
      | playing phase => exact absurd phase.startTime (by simp [unset])
      | between phase => exact absurd phase.startTime (by simp [unset])
      | done phase => exact absurd phase.startTime (by simp [unset])

theorem turning_step {base : Nat} {s : LiveGame} (turning : Turning base s) (wired : Wired s) (action : Action) :
    Turning base (step s action) := by
  cases action with
  | playerReady playerId ready => exact turning_playerReady turning wired playerId ready
  | answer answer => exact turning_answer turning answer
  | fire handle => exact turning_fire turning handle
  | finish pid ok =>
    change Turning base (s.finish pid ok)
    cases found : s.children.find? (·.pid = pid) with
    | none =>
      unfold LiveGame.finish
      rw [found]
      exact turning
    | some child =>
      rw [finish_eq found]
      exact turning.congr rfl rfl rfl
  | onState socket => exact turning.congr rfl rfl rfl

/-! Playing a game registers no listeners. -/

theorem gotoRound_cbMap (s : LiveGame) (round : Nat) : (s.gotoRound round).1.game.cbMap = s.game.cbMap := by
  cases found : s.game.rounds[round]? with
  | none =>
    rw [gotoRound_past s round found, stop_eq]
    rfl
  | some roundObj =>
    rw [gotoRound_enters s round roundObj found]
    rfl

theorem start_cbMap (s : LiveGame) : s.start.1.game.cbMap = s.game.cbMap := by
  change ((stamped s).gotoRound 0).1.triggerStart.game.cbMap = _
  rw [triggerStart_eq]
  exact gotoRound_cbMap (stamped s) 0

theorem playerReadyCallbacks_cbMap (callbacks : List PlayerReadyCallback) (s : LiveGame) :
    (s.runPlayerReadyCallbacks callbacks).1.game.cbMap = s.game.cbMap := by
  induction callbacks generalizing s with
  | nil => rfl
  | cons callback callbacks ih =>
    cases callback with
    | triggerState =>
      change (s.triggerState.runPlayerReadyCallbacks callbacks).1.game.cbMap = _
      rw [ih, triggerState_eq]
      rfl
    | startIfPlayersReady =>
      unfold runPlayerReadyCallbacks
      rcases startIfPlayersReady_cases s with waiting | ⟨⟨message, threw⟩, -, -⟩ | ⟨starting, -⟩
      · rw [waiting]
        exact ih s
      · rw [threw]
      · rw [starting]
        exact (ih s.start.1).trans (start_cbMap s)

theorem answer_cbMap (s : LiveGame) (answer : Answer) : (s.answer answer).1.game.cbMap = s.game.cbMap := by
  rcases answer_cases s answer with ⟨round, roundObj, found, running, started⟩ | ⟨same, -⟩
  · rw [answer_accepted s answer round roundObj found running started]
    rfl
  · rw [same]

/-- A socket asks for every state, and no other turn changes the listeners. -/
theorem step_cbMap (s : LiveGame) (action : Action) : (step s action).game.cbMap =
    match action with
    | .onState socket => { s.game.cbMap with state := s.game.cbMap.state ++ [.emitState socket] }
    | _ => s.game.cbMap := by
  cases action with
  | playerReady playerId ready =>
    change (s.playerReady playerId ready).1.game.cbMap = _
    unfold LiveGame.playerReady
    split
    · rfl
    · rw [playerReadyCallbacks_cbMap]
      rfl
  | answer answer => exact answer_cbMap s answer
  | fire handle =>
    change (s.fire handle).game.cbMap = _
    unfold LiveGame.fire
    split
    · rfl
    · rename_i timeout _
      cases timeout.callback with
      | answer round => exact answer_cbMap (s.clearTimeout (some handle)) { round := .ofNat round }
      | gotoRound round => exact gotoRound_cbMap (s.clearTimeout (some handle)) round
  | finish pid ok =>
    change (s.finish pid ok).game.cbMap = _
    cases found : s.children.find? (·.pid = pid) with
    | none =>
      unfold LiveGame.finish
      rw [found]
    | some child =>
      rw [finish_eq found ok]
      rfl
  | onState socket => rfl

theorem wired_step {s : LiveGame} (wired : Wired s) (action : Action) : Wired (step s action) := by
  unfold Wired
  rw [step_cbMap]
  cases action with
  | onState socket => exact wired.onState socket
  | _ => exact wired

/-! The listeners the rest of the server registers with a game. -/

inductive Listener where
  /-- Of `chainGames`. -/
  | chained (sessionId : Nat) (gameId : String)
  /-- Of `scheduleAttack`. -/
  | scheduled (grpcPort : Nat) (attack : Attack)

def listen (s : LiveGame) : Listener → LiveGame
  | .chained sessionId gameId => s.on fun cbMap => { cbMap with stop := cbMap.stop ++ [.setCurrentGame sessionId gameId] }
  | .scheduled grpcPort attack => s.on fun cbMap => { cbMap with round := cbMap.round ++ [.scheduledAttack grpcPort attack] }

theorem wired_listen {s : LiveGame} (wired : Wired s) (listener : Listener) : Wired (listen s listener) := by
  cases listener with
  | chained sessionId gameId =>
    obtain ⟨more, stop⟩ := wired.stop
    exact { wired with stop := ⟨_, congrArg (· ++ _) stop⟩ }
  | scheduled grpcPort attack =>
    obtain ⟨more, round⟩ := wired.round
    exact { wired with round := ⟨_, congrArg (· ++ _) round⟩ }

theorem turning_listen {base : Nat} {s : LiveGame} (turning : Turning base s) (listener : Listener) :
    Turning base (listen s listener) := by
  cases listener <;> exact turning.congr rfl rfl rfl

/-! Where a game starts from. -/

/-- The round a game is resumed in. A game that has not been started is not resumed. -/
def resumedIn (data : GameData) : Nat := if data.startTime.isSome then data.currentRound else 0

theorem turning_loaded {clock : Nat → Nat} {data : GameData} {s : LiveGame}
    (loaded : deserializeGame clock data = .ok s) : Turning (resumedIn data) s := by
  obtain ⟨rounds, created, rfl⟩ := deserializeGame_ok loaded
  have fresh : Untouched rounds 0 := fun index _ round present =>
    (fresh_rounds created round (List.mem_of_getElem? present)).1
  unfold resumeGame resumedIn
  by_cases started : data.startTime.isSome
  · have running : (reread clock data rounds).game.startTime.isSome := started
    rw [if_pos running, if_pos started]
    refine gotoRound_turning (s := reread clock data rounds) data.currentRound started rfl rfl ?_ le_rfl
      (fresh.mono (Nat.zero_le _))
    intro index below round present
    rw [if_neg (by omega)]
    exact fresh index (Nat.zero_le _) round present
  · have waiting : ¬(reread clock data rounds).game.startTime.isSome := started
    rw [if_neg waiting, if_neg started]
    have never : data.startTime = none := by simpa using started
    exact .waiting ⟨rfl, never, rfl, fresh, rfl⟩

theorem wired_loaded {clock : Nat → Nat} {data : GameData} {s : LiveGame}
    (loaded : deserializeGame clock data = .ok s) : Wired s := by
  obtain ⟨rounds, created, rfl⟩ := deserializeGame_ok loaded
  unfold Wired resumeGame
  split
  · rw [gotoRound_cbMap]
    exact constructed_default
  · exact constructed_default

end DfStudy.LoadedGame
