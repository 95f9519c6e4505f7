import DfStudy.Tables
import DfStudy.Support.Futures
import DfStudy.Support.PosixPath

/-! The server process: the tables, the games in memory and the writes it has forked. `perform` is one
atomic operation of a request: a statement, a call to docker or the file system, or a synchronous
callback. The requests of the server are futures over these operations. -/

namespace DfStudy.Servers
open Attacks Rounds Games Tables Support.Futures Support.PosixPath

/-- What the server runs on. SQLite returns rows in an order of its own. -/
structure Host where
  cwd : String
  dirname : String
  DFS_REC_DIR : String
  numberToString : ℚ → String
  /-- The clock a game sees that is loaded at this address. -/
  clock : Nat → Nat → Nat
  gameRows : List GameRow → List GameRow
  gameRows_perm : ∀ rows, (gameRows rows).Perm rows
  attackRows : List Attack → List Attack
  attackRows_perm : ∀ rows, (attackRows rows).Perm rows

inductive Failure where
  | error (message : String)
  | createMurmurError (message : String)
  | sessionError (session : Session) (message : String)
  deriving DecidableEq

def Failure.message : Failure → String
  | .error message => message
  | .createMurmurError message => message
  | .sessionError _ message => message

/-- A reference to a `Game` object. -/
@[ext]
structure GameRef where
  address : Nat
  gameId : String
  deriving DecidableEq

/-- A write that a listener has forked and that has not been committed. -/
inductive Task where
  | saveGame (gameId : String) (data : GameData)
  | setCurrentGame (sessionId : Nat) (gameId : String)

structure Socket where
  playerId : String
  gameId : Option String := none
  connected : Bool := true
  deriving DecidableEq

structure Server where
  db : Database := {}
  heap : List LiveGame := []
  memGames : List GameRef := []
  tasks : List Task := []
  sockets : List Socket := []
  /-- What the coming calls of `randomUUID` will return. -/
  uuids : Nat → String

inductive DockerRequest where
  | create (murmur : Murmur)
  | start (murmurId : String)
  | stop (murmurId : String)
  | rm (murmurId : String)

inductive Op where
  | insertSession (params : CreateSessionParams)
  | selectSessions
  | deleteSession (sessionId : Nat)
  | insertMurmur (murmur : Murmur)
  | selectMurmurs (sessionId : Nat)
  | deleteMurmur (murmurId : String)
  | insertGame (row : GameRow)
  | selectGames (sessionId : Nat)
  | deleteGame (gameId : String)
  | insertAttack (attack : NewAttack)
  | selectAttacks
  | deleteAttacks (sessionId : Nat)
  | docker (request : DockerRequest)
  | mkdirSync (recDir : String)
  | rmdirSync (recDir : String)
  | randomUUID
  | initGameRows (rows : List GameRow)
  | chainGames (sessionId : Nat) (games : List GameRef)
  | getGames (gameIds : List String)
  | removeMemGame (game : GameRef)
  | onRound (attack : Attack) (grpcPort : Nat)
  | joinGame (socket : Nat) (game : GameRef)

@[reducible] def Res : Op → Type
  | .insertSession _ => Nat
  | .selectSessions => List Session
  | .selectMurmurs _ => List Murmur
  | .selectGames _ => List GameRow
  | .insertAttack _ => Nat
  | .selectAttacks => List Attack
  | .randomUUID => String
  | .initGameRows _ => List GameRef
  | .getGames _ => List GameRef
  | _ => Unit

/-! The games in memory. -/

/-- `findIndex`. -/
def findIndex {α : Type} (test : α → Bool) (items : List α) : Int :=
  match items.findIdx? test with
  | some index => index
  | none => -1

/-- `splice(start, 1)`. A negative start counts from the end. -/
def spliceOne {α : Type} (items : List α) (start : Int) : List α :=
  items.eraseIdx (if start < 0 then items.length + start else start).toNat

def removeMemGame (memGames : List GameRef) (game : GameRef) : List GameRef :=
  spliceOne memGames (findIndex (·.gameId = game.gameId) memGames)

def setMemGame (memGames : List GameRef) (game : GameRef) : List GameRef :=
  let memIndx := findIndex (·.gameId = game.gameId) memGames
  if memIndx ≠ -1 then memGames.set memIndx.toNat game else memGames ++ [game]

def getGame (memGames : List GameRef) (gameId : String) : Except String GameRef :=
  match memGames.find? (·.gameId = gameId) with
  | none => .error "Game not found."
  | some game => .ok game

/-- The write an effect forks. -/
def forkOf (gameId : String) : Effect → Option Task
  | .saveGame data => some (.saveGame gameId data)
  | .setCurrentGame sessionId nextId => some (.setCurrentGame sessionId nextId)
  | _ => none

def forks (game : LiveGame) (known : Nat) : List Task :=
  (game.effects.drop known).filterMap (forkOf game.game.gameId)

def initGame (host : Host) (s : Server) (gameData : GameData) : Except String GameRef × Server :=
  match deserializeGame (host.clock s.heap.length) gameData with
  | .error message => (.error message, s)
  | .ok game =>
    let ref : GameRef := { address := s.heap.length, gameId := game.game.gameId }
    (.ok ref, { s with
      heap := s.heap ++ [game]
      memGames := setMemGame s.memGames ref
      tasks := s.tasks ++ forks game 0 })

/-- Every game is initialised, also after one has failed. -/
def initGames (host : Host) : List GameData → Server → Except String (List GameRef) × Server
  | [], s => (.ok [], s)
  | gameData :: rest, s =>
    let first := initGame host s gameData
    let others := initGames host rest first.2
    (first.1.bind fun ref => others.1.map (ref :: ·), others.2)

def initGameRows (host : Host) (rows : List GameRow) (s : Server) : Except String (List GameRef) × Server :=
  initGames host ((rows.insertionSort fun a b => a.gameOrder ≤ b.gameOrder).map (·.gameData)) s

/-- Changes one game in place. -/
def modifyGame (s : Server) (address : Nat) (change : LiveGame → LiveGame) : Server :=
  { s with heap := s.heap.modify address change }

/-- `curr.on('stop', ...)`, which makes the game `acc` the current one. -/
def onStop (s : Server) (sessionId : Nat) (acc curr : GameRef) : Server :=
  modifyGame s curr.address fun game => game.on fun cbMap =>
    { cbMap with stop := cbMap.stop ++ [.setCurrentGame sessionId acc.gameId] }

/-- `reduceRight` without an initial value: the last game is the first `acc`. -/
def chainGames (s : Server) (sessionId : Nat) : List GameRef → Server
  | [] => s
  | [_] => s
  | curr :: acc :: games => onStop (chainGames s sessionId (acc :: games)) sessionId acc curr

def onRound (s : Server) (attack : Attack) (grpcPort : Nat) : Server :=
  match getGame s.memGames attack.gameId with
  | .error _ => s
  | .ok game => modifyGame s game.address fun game => game.on fun cbMap =>
      { cbMap with round := cbMap.round ++ [.scheduledAttack grpcPort attack] }

def joinGame (s : Server) (socket : Nat) (game : GameRef) : Server :=
  let s := modifyGame s game.address (·.onState socket)
  { s with sockets := s.sockets.modify socket fun entry => { entry with gameId := some game.gameId } }

/-! Operations. -/

/-- A statement, or the connection it runs on, may fail. Then it has no effect. -/
def statement {α : Type} (fails : Bool) (s : Server) (result : Except String (α × Database)) :
    Except Failure α × Server :=
  if fails then (.error (.error "SQLITE_ERROR"), s) else
    match result with
    | .error message => (.error (.error message), s)
    | .ok (value, db) => (.ok value, { s with db })

/-- A call to docker or the file system. Nothing the server reads later depends on what it did there. -/
def external (fails : Bool) (s : Server) : Except Failure Unit × Server :=
  (if fails then .error (.error "ERR") else .ok (), s)

def perform (host : Host) (fails : Bool) : (op : Op) → Server → Except Failure (Res op) × Server
  | .insertSession params, s => statement fails s (s.db.insertSession params)
  | .selectSessions, s => statement fails s (.ok (s.db.sessions, s.db))
  | .deleteSession sessionId, s => statement fails s (.ok ((), s.db.deleteSession sessionId))
  | .insertMurmur murmur, s => statement fails s (s.db.insertMurmur murmur)
  | .selectMurmurs sessionId, s => statement fails s (.ok (s.db.selectMurmurs sessionId, s.db))
  | .deleteMurmur murmurId, s => statement fails s (.ok ((), s.db.deleteMurmur murmurId))
  | .insertGame row, s => statement fails s (s.db.insertGame row)
  | .selectGames sessionId, s => statement fails s (.ok (host.gameRows (s.db.selectGames sessionId), s.db))
  | .deleteGame gameId, s => statement fails s (.ok ((), s.db.deleteGame gameId))
  | .insertAttack attack, s => statement fails s (.ok (s.db.insertAttack attack))
  | .selectAttacks, s => statement fails s (.ok (host.attackRows s.db.attacks, s.db))
  | .deleteAttacks sessionId, s => statement fails s (.ok ((), s.db.deleteAttacks sessionId))
  | .docker _, s => external fails s
  | .mkdirSync _, s => external fails s
  | .rmdirSync _, s => external fails s
  | .randomUUID, s => (.ok (s.uuids 0), { s with uuids := fun drawn => s.uuids (drawn + 1) })
  | .initGameRows rows, s => ((initGameRows host rows s).1.mapError .error, (initGameRows host rows s).2)
  | .chainGames sessionId games, s => (.ok (), chainGames s sessionId games)
  | .getGames gameIds, s => ((gameIds.mapM (getGame s.memGames)).mapError .error, s)
  | .removeMemGame game, s => (.ok (), { s with memGames := removeMemGame s.memGames game })
  | .onRound attack grpcPort, s => (.ok (), onRound s attack grpcPort)
  | .joinGame socket game, s => (.ok (), joinGame s socket game)

/-- A pending request or connection, with what it resolves to. -/
abbrev Request (α : Type) := Future Op Res Failure α

/-! Each operation as a future of its own. -/

namespace Request

def insertSession (params : CreateSessionParams) : Request Nat := Future.call (Op.insertSession params)
def selectSessions : Request (List Session) := Future.call Op.selectSessions
def deleteSession (sessionId : Nat) : Request Unit := Future.call (Op.deleteSession sessionId)
def insertMurmur (murmur : Murmur) : Request Unit := Future.call (Op.insertMurmur murmur)
def selectMurmurs (sessionId : Nat) : Request (List Murmur) := Future.call (Op.selectMurmurs sessionId)
def deleteMurmur (murmurId : String) : Request Unit := Future.call (Op.deleteMurmur murmurId)
def insertGame (row : GameRow) : Request Unit := Future.call (Op.insertGame row)
def selectGames (sessionId : Nat) : Request (List GameRow) := Future.call (Op.selectGames sessionId)
def deleteGame (gameId : String) : Request Unit := Future.call (Op.deleteGame gameId)
def insertAttack (attack : NewAttack) : Request Nat := Future.call (Op.insertAttack attack)
def selectAttacks : Request (List Attack) := Future.call Op.selectAttacks
def deleteAttacks (sessionId : Nat) : Request Unit := Future.call (Op.deleteAttacks sessionId)
def docker (request : DockerRequest) : Request Unit := Future.call (Op.docker request)
def mkdirSync (recDir : String) : Request Unit := Future.call (Op.mkdirSync recDir)
def rmdirSync (recDir : String) : Request Unit := Future.call (Op.rmdirSync recDir)
def randomUUID : Request String := Future.call Op.randomUUID
def initGameRows (rows : List GameRow) : Request (List GameRef) := Future.call (Op.initGameRows rows)
def chainGames (sessionId : Nat) (games : List GameRef) : Request Unit := Future.call (Op.chainGames sessionId games)
def getGames (gameIds : List String) : Request (List GameRef) := Future.call (Op.getGames gameIds)
def removeMemGame (game : GameRef) : Request Unit := Future.call (Op.removeMemGame game)
def onRound (attack : Attack) (grpcPort : Nat) : Request Unit := Future.call (Op.onRound attack grpcPort)
def joinGame (socket : Nat) (game : GameRef) : Request Unit := Future.call (Op.joinGame socket game)

end Request

end DfStudy.Servers
