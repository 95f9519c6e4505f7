import DfStudy.Attacks
import DfStudy.Rounds
import DfStudy.Support.Machine

/-! A `Game` object in memory, with what the event loop holds for it: the `gameTimers` slot, the
timeouts that have not fired, and the mumble-cli processes its listeners have spawned. Every
operation of the class is a function on this state, and `step` is one turn of the event loop. -/

namespace DfStudy.Games
open Js Rounds Attacks Support.Machine

structure Player where
  playerId : String
  ready : Bool
  deriving DecidableEq, Repr

def createPlayer (playerId : String) : Player := { playerId, ready := false }

/-! Listeners, each event with the callbacks the server registers for it. -/

inductive PlayerReadyCallback where
  | startIfPlayersReady
  | triggerState
  deriving DecidableEq, Repr

inductive StateCallback where
  | saveGame
  | emitState (socket : Nat)
  deriving DecidableEq, Repr

/-- The only listener of 'answer' and of 'start'. -/
inductive TriggerCallback where
  | triggerState
  deriving DecidableEq, Repr

inductive StopCallback where
  | triggerState
  | setCurrentGame (sessionId : Nat) (gameId : String)
  deriving DecidableEq, Repr

inductive RoundCallback where
  | triggerState
  | scheduledAttack (grpcPort : Nat) (attack : Attack)
  deriving DecidableEq, Repr

/-- `cbMap` of an `Evented` game. The defaults are what the constructor of `Game` registers. -/
structure CbMap where
  playerReady : List PlayerReadyCallback := [.startIfPlayersReady, .triggerState]
  state : List StateCallback := [.saveGame]
  answer : List TriggerCallback := [.triggerState]
  stop : List StopCallback := [.triggerState]
  start : List TriggerCallback := [.triggerState]
  round : List RoundCallback := [.triggerState]
  deriving DecidableEq, Repr

/-- `JSON.stringify` writes each array of functions as an array of as many nulls. -/
def CbMap.json (cbMap : CbMap) : List (String × Nat) :=
  [("player_ready", cbMap.playerReady.length), ("state", cbMap.state.length),
    ("answer", cbMap.answer.length), ("stop", cbMap.stop.length), ("start", cbMap.start.length),
    ("round", cbMap.round.length)]

/-- What `Game.state` returns, and what the column `game_data` holds. -/
structure GameData where
  players : List Player
  gameId : String
  rounds : List RoundData
  currentRound : Nat
  startTime : Option Nat
  endTime : Option Nat
  cbMap : List (String × Nat) := []

def GameData.json (data : GameData) : GameData :=
  { data with rounds := data.rounds.map RoundData.json }

structure Game where
  players : List Player
  gameId : String
  rounds : List Round
  currentRound : Nat := 0
  startTime : Option Nat := none
  endTime : Option Nat := none
  cbMap : CbMap := {}

structure GameParams where
  gameId : String
  players : List Player
  rounds : List Round
  currentRound : Option Nat := none
  startTime : Option Nat := none
  endTime : Option Nat := none

/-- The constructor of `Game`. It does not look at `endTime`. -/
def newGame (params : GameParams) : Game where
  players := params.players
  gameId := params.gameId
  rounds := params.rounds
  currentRound := params.currentRound.getD 0
  startTime := params.startTime

def Game.state (game : Game) : GameData where
  players := game.players
  gameId := game.gameId
  rounds := game.rounds.map Round.json
  currentRound := game.currentRound
  startTime := game.startTime
  endTime := game.endTime
  cbMap := game.cbMap.json

/-! The event loop. -/

inductive Event where
  | start
  | stop
  | state
  | answer (answer : Answer)
  | round (round : Nat)
  | playerReady (player : Player)

inductive TimeoutCallback where
  | answer (round : Nat)
  | gotoRound (round : Nat)
  deriving DecidableEq, Repr

structure Timeout where
  handle : Nat
  callback : TimeoutCallback
  ms : ℚ

/-- A process spawned by `execF`, with the command its future is chained to on success. -/
structure Child where
  pid : Nat
  command : Command
  next : Option Command
  deriving DecidableEq, Repr

inductive Effect where
  | trigger (event : Event)
  | saveGame (data : GameData)
  | emitState (socket : Nat) (data : GameData)
  | setCurrentGame (sessionId : Nat) (gameId : String)
  | exec (command : Command) (next : Option Command)
  | exit (child : Child) (ok : Bool)

structure LiveGame where
  game : Game
  /-- The entry of the table `gameTimers` under the id of the game, which is its own unless a second object has that id. -/
  gameTimers : Option Nat := none
  timeouts : List Timeout := []
  handles : Nat := 0
  children : List Child := []
  pids : Nat := 0
  /-- What the coming calls of `Date.now` will return. -/
  clock : Nat → Nat
  effects : List Effect := []

/-- What a method returns, or the error it throws. -/
inductive Outcome (Result : Type) where
  | right (result : Result)
  | left (message : String)
  | threw (message : String)
  deriving DecidableEq, Repr

namespace LiveGame

def emit (s : LiveGame) (effect : Effect) : LiveGame :=
  { s with effects := s.effects ++ [effect] }

def now (s : LiveGame) : Nat := s.clock 0

def tick (s : LiveGame) : LiveGame := { s with clock := fun reading => s.clock (reading + 1) }

/-- The delay Node uses: whole milliseconds, and one in place of what is less than that or too long for 32 bits. -/
def delay (ms : ℚ) : ℚ := if 1 ≤ ms ∧ ms ≤ 2147483647 then ms.floor else 1

@[simp] theorem delay_pause : delay 1000 = 1000 := by decide +kernel

def setTimeout (s : LiveGame) (callback : TimeoutCallback) (ms : ℚ) : LiveGame :=
  { s with
    timeouts := s.timeouts ++ [{ handle := s.handles, callback, ms := delay ms }]
    handles := s.handles + 1 }

/-- Clearing an unknown, fired or cleared handle does nothing. -/
def clearTimeout (s : LiveGame) (handle : Option Nat) : LiveGame :=
  { s with timeouts := s.timeouts.filter fun timeout => some timeout.handle ≠ handle }

def scheduleTimer (s : LiveGame) (callback : TimeoutCallback) (ms : ℚ) : LiveGame :=
  { (s.clearTimeout s.gameTimers).setTimeout callback ms with gameTimers := some s.handles }

def execF (s : LiveGame) (command : Command) (next : Option Command) : LiveGame :=
  { s with
    children := s.children ++ [{ pid := s.pids, command, next }]
    pids := s.pids + 1
    effects := s.effects ++ [.exec command next] }

def on (s : LiveGame) (register : CbMap → CbMap) : LiveGame :=
  { s with game := { s.game with cbMap := register s.game.cbMap } }

/-- A socket asks to be sent every state. -/
def onState (s : LiveGame) (socket : Nat) : LiveGame :=
  s.on fun cbMap => { cbMap with state := cbMap.state ++ [.emitState socket] }

/-! Listeners at work. -/

def runStateCallback (s : LiveGame) : StateCallback → LiveGame
  | .saveGame => s.emit (.saveGame s.game.state)
  | .emitState socket => s.emit (.emitState socket s.game.state)

def triggerState (s : LiveGame) : LiveGame :=
  run runStateCallback (s.emit (.trigger .state)) s.game.cbMap.state

def runTriggerCallback (s : LiveGame) : TriggerCallback → LiveGame
  | .triggerState => s.triggerState

def triggerAnswer (s : LiveGame) (answer : Answer) : LiveGame :=
  run runTriggerCallback (s.emit (.trigger (.answer answer))) s.game.cbMap.answer

def triggerStart (s : LiveGame) : LiveGame :=
  run runTriggerCallback (s.emit (.trigger .start)) s.game.cbMap.start

def runStopCallback (s : LiveGame) : StopCallback → LiveGame
  | .triggerState => s.triggerState
  | .setCurrentGame sessionId gameId => s.emit (.setCurrentGame sessionId gameId)

def triggerStop (s : LiveGame) : LiveGame :=
  run runStopCallback (s.emit (.trigger .stop)) s.game.cbMap.stop

/-- The closure `scheduleAttack` registers: launch on the attack's round, unmute on the next one. -/
def onRound (s : LiveGame) (grpcPort : Nat) (attack : Attack) (round : Nat) : LiveGame :=
  let s := if round = attack.round
    then s.execF (attack.mute grpcPort) (some (attack.spoof grpcPort)) else s
  if round = attack.round + 1 then s.execF (attack.unmute grpcPort) none else s

def runRoundCallback (round : Nat) (s : LiveGame) : RoundCallback → LiveGame
  | .triggerState => s.triggerState
  | .scheduledAttack grpcPort attack => s.onRound grpcPort attack round

def triggerRound (s : LiveGame) (round : Nat) : LiveGame :=
  run (runRoundCallback round) (s.emit (.trigger (.round round))) s.game.cbMap.round

/-! The methods of `Game`. -/

def stop (s : LiveGame) : LiveGame :=
  { s.tick with game := { s.game with endTime := some s.now } }.triggerStop

/-- `this.currentRound = round`. -/
def setCurrentRound (s : LiveGame) (round : Nat) : LiveGame :=
  { s with game := { s.game with currentRound := round } }

def setRound (s : LiveGame) (index : Nat) (round : Round) : LiveGame :=
  { s with game := { s.game with rounds := s.game.rounds.set index round } }

def gotoRound (s : LiveGame) (round : Nat) : LiveGame × Outcome Unit :=
  let s := s.setCurrentRound round
  match s.game.rounds[round]? with
  | none => (s.stop, .left "round does not exit")
  | some roundObj =>
    let s := (s.setRound round { roundObj with startTime := some s.now }).tick
    ((s.triggerRound round).scheduleTimer (.answer round) roundObj.msLength, .right ())

def start (s : LiveGame) : LiveGame × Bool :=
  let s := { s.tick with game := { s.game with startTime := some s.now } }
  ((s.gotoRound 0).1.triggerStart, true)

/-- `const [blue, red] = this.players`, where reading `ready` of a missing player throws. -/
def startIfPlayersReady (s : LiveGame) : LiveGame × Outcome Bool :=
  if s.game.startTime.isSome then (s, .right false) else
    match s.game.players with
    | [] => (s, .threw "Cannot read properties of undefined (reading 'ready')")
    | blue :: rest =>
      if blue.ready ≠ true then (s, .right false) else
        match rest with
        | [] => (s, .threw "Cannot read properties of undefined (reading 'ready')")
        | red :: _ =>
          if red.ready ≠ true then (s, .right false) else (s.start.1, .right s.start.2)

/-- An exception in a callback of 'player_ready' keeps the later ones from running. -/
def runPlayerReadyCallbacks (s : LiveGame) : List PlayerReadyCallback → LiveGame × Outcome Unit
  | [] => (s, .right ())
  | .triggerState :: callbacks => s.triggerState.runPlayerReadyCallbacks callbacks
  | .startIfPlayersReady :: callbacks =>
    match s.startIfPlayersReady with
    | (s, .threw message) => (s, .threw message)
    | (s, _) => s.runPlayerReadyCallbacks callbacks

def playerReady (s : LiveGame) (playerId : String) (ready : Bool) : LiveGame × Outcome Unit :=
  match s.game.players.findIdx? (·.playerId = playerId) with
  | none => (s, .left "Player not found in game.")
  | some index =>
    let players := s.game.players.modify index ({ · with ready })
    let s := { s with game := { s.game with players } }
    (s.emit (.trigger (.playerReady { playerId, ready }))).runPlayerReadyCallbacks s.game.cbMap.playerReady

/-- `this.rounds[round]`, together with the slot it is in. -/
def roundAt (s : LiveGame) (round : Number) : Option (Nat × Round) :=
  round.index.bind fun index => s.game.rounds[index]?.map (index, ·)

def answer (s : LiveGame) (answer : Answer) : LiveGame × Outcome Int :=
  match s.roundAt answer.round with
  | none => (s, .left "invalid round number")
  | some (round, roundObj) =>
    if roundObj.endTime.isSome then (s, .left "round ended") else
    if roundObj.startTime.isNone then (s, .left "round not started") else
      let s := (s.clearTimeout s.gameTimers).triggerAnswer answer
      let (answered, answerStatus) := roundObj.onAnswer answer.value s.now
      let s := (s.setRound round answered).tick
      (if answerStatus ≠ 0 then s.setTimeout (.gotoRound (round + 1)) 1000 else s, .right answerStatus)

def runTimeout (s : LiveGame) : TimeoutCallback → LiveGame
  | .answer round => (s.answer { round := .ofNat round }).1
  | .gotoRound round => (s.gotoRound round).1

/-- The timeout with this handle fires, if it is still there to fire. -/
def fire (s : LiveGame) (handle : Nat) : LiveGame :=
  match s.timeouts.find? (·.handle = handle) with
  | none => s
  | some timeout => (s.clearTimeout (some handle)).runTimeout timeout.callback

/-- A spawned process ends. On success its future goes on to the next command. -/
def finish (s : LiveGame) (pid : Nat) (ok : Bool) : LiveGame :=
  match s.children.find? (·.pid = pid) with
  | none => s
  | some child =>
    let s := { s with children := s.children.filter (·.pid ≠ pid) }.emit (.exit child ok)
    match ok, child.next with
    | true, some command => s.execF command none
    | _, _ => s

end LiveGame

def resumeGame (s : LiveGame) : LiveGame :=
  if s.game.startTime.isSome then (s.gotoRound s.game.currentRound).1 else s

/-- A game read back from `game_data`, in a process that knows no timer under its id. -/
def deserializeGame (clock : Nat → Nat) (data : GameData) : Except String LiveGame := do
  let rounds ← data.rounds.mapM createRound
  let game := newGame {
    gameId := data.gameId
    players := data.players
    rounds
    currentRound := some data.currentRound
    startTime := data.startTime
    endTime := data.endTime }
  return resumeGame { game, clock }

/-- One turn of the event loop that concerns one game. -/
inductive Action where
  | playerReady (playerId : String) (ready : Bool)
  | answer (answer : Answer)
  | fire (handle : Nat)
  | finish (pid : Nat) (ok : Bool)
  | onState (socket : Nat)

def step (s : LiveGame) : Action → LiveGame
  | .playerReady playerId ready => (s.playerReady playerId ready).1
  | .answer answer => (s.answer answer).1
  | .fire handle => s.fire handle
  | .finish pid ok => s.finish pid ok
  | .onState socket => s.onState socket

end DfStudy.Games
