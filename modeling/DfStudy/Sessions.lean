import DfStudy.Servers

/-! Creating, initialising and removing a session, as futures over the server's operations. -/

namespace DfStudy.Sessions
open Attacks Rounds Games Tables Servers Schedules Support.Futures Support.PosixPath Future

section
variable (host : Host)

/-! Attacks. -/

def fakesDir : String := resolve host.cwd ["var/fakes"]

/-- The file with the fake voice of a player for one solution. -/
def audioPath (sourceUser : String) (attackSolution : ℚ) : String :=
  resolve host.cwd [fakesDir host, sourceUser, host.numberToString attackSolution ++ ".wav"]

/-- `const [sourceUser, targetUser] = players.map(p => p.playerId)`. A game has two players. -/
def attackUser (gameRow : GameRow) (index : Nat) : String :=
  (gameRow.gameData.players[index]?.map (·.playerId)).getD "undefined"

def createAttack (gameRow : GameRow) (attackSolution : ℚ) (roundIndex : Nat) : Request Nat :=
  Request.insertAttack {
    gameId := gameRow.gameData.gameId
    sessionId := gameRow.sessionId
    audioPath := audioPath host (attackUser gameRow 0) attackSolution
    targetUser := attackUser gameRow 1
    sourceUser := attackUser gameRow 0
    round := roundIndex }

/-- The rounds of a schedule that have the property 'attack', with their indices. -/
def attackRounds (schedule : List RoundData) : List (ℚ × Nat) :=
  schedule.zipIdx.filterMap fun (roundData, roundIndex) => roundData.attack.map (·, roundIndex)

def createGameAttacks (schedule : List RoundData) (gameRow : GameRow) : Request GameRow :=
  (parallel ((attackRounds schedule).map fun (attackSolution, roundIndex) =>
    createAttack host gameRow attackSolution roundIndex)).map fun _ => gameRow

def scheduleAttack (attack : Attack) : Request Attack :=
  Request.selectSessions.chain fun sessions =>
    match sessions.find? (·.sessionId = attack.sessionId) with
    | none => .reject (.error "Cannot find element")
    | some session => (Request.onRound attack session.grpcPort).map fun _ => attack

/-! Games. -/

/-- The row `createGame` inserts. -/
def newGameRow (gameId blue red : String) (sessionId gameOrder : Nat) (rounds : List Round) (isCurrent : Bool) :
    GameRow where
  gameId := gameId
  sessionId := sessionId
  gameData := (newGame { gameId, players := [blue, red].map createPlayer, rounds }).state
  isCurrent := isCurrent
  gameOrder := gameOrder

/-- `createGame`, after it has drawn the id of the game. -/
def createGame (gameId blue red : String) (sessionId gameOrder : Nat) (schedule : List RoundData)
    (isCurrent : Bool) : Request GameRow :=
  (ofExcept ((schedule.mapM createRound).mapError Failure.error)).chain fun rounds =>
    let gameRow := newGameRow gameId blue red sessionId gameOrder rounds isCurrent
    (Request.insertGame gameRow).chain fun _ => createGameAttacks host schedule gameRow

def getSessionGames (sessionId : Nat) : Request (List GameRow) := Request.selectGames sessionId

def removeGame (game : GameRef) : Request GameRef :=
  (Request.deleteGame game.gameId).chain fun _ => (Request.removeMemGame game).map fun _ => game

def removeSessionGames (session : Session) : Request Session :=
  (getSessionGames session.sessionId).chain fun gameRows =>
    (Request.getGames (gameRows.map (·.gameId))).chain fun games =>
      (parallel (games.map removeGame)).map fun _ => session

/-! Murmurs. -/

def recDirRoot : String := resolve host.cwd [host.dirname, host.DFS_REC_DIR]

def resolveMurmur (sessionId grpcPort murmurPort : Nat) : Murmur :=
  let murmurId := s!"g{grpcPort}_m{murmurPort}"
  { sessionId, grpcPort, murmurPort, murmurId, recDir := resolve host.cwd [recDirRoot host, murmurId] }

def createMurmur (sessionId grpcPort murmurPort : Nat) : Request Murmur :=
  let murmur := resolveMurmur host sessionId grpcPort murmurPort
  ((Request.insertMurmur murmur).chain fun _ =>
    (Request.mkdirSync murmur.recDir).chain fun _ =>
      (Request.docker (.create murmur)).map fun _ => murmur).mapRej fun error => .createMurmurError error.message

def initMurmur (murmur : Murmur) : Request Murmur :=
  (Request.mkdirSync murmur.recDir).chain fun _ =>
    (Request.docker (.start murmur.murmurId)).map fun _ => murmur

def removeContainer (murmur : Murmur) : Request Unit :=
  (Request.docker (.stop murmur.murmurId)).chain fun _ => Request.docker (.rm murmur.murmurId)

/-- The directory is removed while the futures are being built, before the container is stopped. -/
def removeMurmur (murmur : Murmur) : Request Murmur :=
  (Request.rmdirSync murmur.recDir).coalesce.chain fun removed =>
    (parallel [(removeContainer murmur).coalesce, (ofExcept removed).coalesce]).chain fun _ =>
      (Request.deleteMurmur murmur.murmurId).map fun _ => murmur

def getMurmurBySessionId (sessionId : Nat) : Request Murmur :=
  (Request.selectMurmurs sessionId).chain fun murmurs =>
    match murmurs with
    | [] => .reject (.error "Murmur not found by sessionId.")
    | murmur :: _ => .resolve murmur

def removeSessionMurmur (session : Session) : Request Session :=
  (getMurmurBySessionId session.sessionId).chain fun murmur => (removeMurmur murmur).map fun _ => session

/-! Sessions. -/

def insertSession (params : CreateSessionParams) : Request Session :=
  (Request.insertSession params).map fun sessionId => { params with sessionId }

def getSessionById (sessionId : Nat) : Request Session :=
  Request.selectSessions.chain fun sessions =>
    match sessions.find? (·.sessionId = sessionId) with
    | none => .reject (.error "Cannot find element")
    | some session => .resolve session

def deleteSessionAttacks (session : Session) : Request Session :=
  (Request.deleteAttacks session.sessionId).map fun _ => session

def deleteSession (session : Session) : Request Session :=
  (Request.deleteSession session.sessionId).map fun _ => session

/-- Whatever fails in taking a session apart, its row is deleted in the end. -/
def removeSession (sessionId : Nat) : Request Session :=
  (getSessionById sessionId).chain fun session =>
    (parallel [(removeSessionGames session).coalesce, (deleteSessionAttacks session).coalesce,
      (removeSessionMurmur session).coalesce]).chain fun _ => deleteSession session

/-- `new SessionError(session, err.message)`. -/
def sessionError (session : Session) (error : Failure) : Failure := .sessionError session error.message

def createSessionMurmur (session : Session) : Request Session :=
  ((createMurmur host session.sessionId session.grpcPort session.murmurPort).map fun _ => session).mapRej
    (sessionError session)

/-- One game of a session that is to be created. -/
structure GamePlan where
  blue : String
  red : String
  schedule : List RoundData
  isCurrent : Bool

/-- The games of every session. The players swap places from game to game. -/
def sessionPlan (session : Session) : List GamePlan :=
  let blue := session.blueParticipant
  let red := session.redParticipant
  [{ blue := blue, red := red, schedule := tutorialSchedules.getD 0 [], isCurrent := true },
    { blue := red, red := blue, schedule := tutorialSchedules.getD 1 [], isCurrent := false },
    { blue := blue, red := red, schedule := gameSchedules.getD 0 [], isCurrent := false },
    { blue := red, red := blue, schedule := gameSchedules.getD 1 [], isCurrent := false }]

/-- The ids are drawn while the array of futures is being built. -/
def drawIds : Nat → Request (List String)
  | 0 => .resolve []
  | count + 1 => Request.randomUUID.chain fun gameId => (drawIds count).map (gameId :: ·)

/-- `createGame` for each game of a plan, with its place in the plan as `gameOrder`. -/
def createGames (sessionId : Nat) (plan : List GamePlan) (gameIds : List String) : List (Request GameRow) :=
  (plan.zip gameIds).zipIdx.map fun ((game, gameId), gameOrder) =>
    createGame host gameId game.blue game.red sessionId gameOrder game.schedule game.isCurrent

def createSessionGames (session : Session) : Request Session :=
  ((drawIds (sessionPlan session).length).chain fun gameIds =>
    (parallel (createGames host session.sessionId (sessionPlan session) gameIds)).map fun _ => session).mapRej
      (sessionError session)

def doGames (session : Session) : Request Unit :=
  (getSessionGames session.sessionId).chain fun gameRows =>
    (Request.initGameRows gameRows).chain fun games => Request.chainGames session.sessionId games

def doAttacks (session : Session) : Request (List Attack) :=
  Request.selectAttacks.chain fun attacks =>
    parallel ((attacks.filter (·.sessionId = session.sessionId)).map scheduleAttack)

def doMurmur (session : Session) : Request Murmur := (getMurmurBySessionId session.sessionId).chain initMurmur

def initSession (session : Session) : Request Session :=
  (((doGames session).chain fun _ => (doAttacks session).chain fun _ => doMurmur session).mapRej
    (sessionError session)).map fun _ => session

/-- A session that could not be created in full is removed again. -/
def rollback : Failure → Request Session
  | .sessionError session message =>
    (removeSession session.sessionId).chain fun _ => .reject (.sessionError session message)
  | error => .reject error

def createSession (params : CreateSessionParams) : Request Session :=
  ((insertSession params).chain fun session =>
    (createSessionMurmur host session).chain fun session =>
      (createSessionGames host session).chain initSession).chainRej rollback

/-! Sockets of players. -/

def getPlayerSession (playerId : String) : Request Session :=
  Request.selectSessions.chain fun sessions =>
    match sessions.find? fun session => session.blueParticipant = playerId ∨ session.redParticipant = playerId with
    | none => .reject (.error "Player session not found.")
    | some session => .resolve session

def getCurrentGame (sessionId : Nat) : Request GameRef :=
  (getSessionGames sessionId).chain fun gameRows =>
    match gameRows.find? (·.isCurrent) with
    | none => .reject (.error "Cannot find element")
    | some row => (Request.getGames [row.gameId]).chain fun games =>
      match games with
      | [] => .reject (.error "Game not found.")
      | game :: _ => .resolve game

def onConnect (socket : Nat) (playerId : String) : Request Unit :=
  (getPlayerSession playerId).chain fun session =>
    (getCurrentGame session.sessionId).chain fun game => Request.joinGame socket game

end

end DfStudy.Sessions
