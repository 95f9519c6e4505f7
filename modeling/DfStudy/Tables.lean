import DfStudy.Games
import DfStudy.Schedules
import Mathlib.Data.List.Sort

/-! The SQLite tables and the statements the server runs on them. Every statement is atomic. The tables
declare foreign keys, which SQLite does not enforce unless told to, and the server does not tell it. -/

namespace DfStudy.Tables
open Attacks Games

structure CreateSessionParams where
  blueParticipant : String
  redParticipant : String
  grpcPort : Nat
  murmurPort : Nat
  deriving DecidableEq

structure Session extends CreateSessionParams where
  sessionId : Nat
  deriving DecidableEq

structure Murmur where
  murmurId : String
  sessionId : Nat
  grpcPort : Nat
  murmurPort : Nat
  recDir : String
  deriving DecidableEq

/-- The column `game_data` holds JSON text. What is kept here is the data that text is read back as. -/
structure GameRow where
  gameId : String
  sessionId : Nat
  gameData : GameData
  isCurrent : Bool
  gameOrder : Nat

/-- `Omit<Attack, "attackId">`. -/
structure NewAttack where
  sessionId : Nat
  gameId : String
  round : Nat
  sourceUser : String
  targetUser : String
  audioPath : String
  deriving DecidableEq

def NewAttack.row (attack : NewAttack) (attackId : Nat) : Attack where
  attackId := attackId
  sessionId := attack.sessionId
  gameId := attack.gameId
  round := attack.round
  sourceUser := attack.sourceUser
  targetUser := attack.targetUser
  audioPath := attack.audioPath

@[ext]
structure Database where
  sessions : List Session := []
  games : List GameRow := []
  attacks : List Attack := []
  murmurs : List Murmur := []

/-- The rowid SQLite gives a new row of a table with an integer primary key: one more than the largest. -/
def nextRowId (ids : List Nat) : Nat := ids.foldr max 0 + 1

theorem lt_nextRowId {ids : List Nat} {rowId : Nat} (member : rowId ∈ ids) : rowId < nextRowId ids := by
  unfold nextRowId
  induction ids with
  | nil => cases member
  | cons first rest ih =>
    rw [List.foldr_cons]
    rcases List.mem_cons.mp member with rfl | later
    · omega
    · have below := ih later
      omega

namespace Database

def insertSession (db : Database) (params : CreateSessionParams) : Except String (Nat × Database) :=
  if db.sessions.any fun row => row.blueParticipant = params.blueParticipant ∨
      row.redParticipant = params.redParticipant ∨ row.grpcPort = params.grpcPort ∨
      row.murmurPort = params.murmurPort then
    .error "SQLITE_CONSTRAINT: UNIQUE constraint failed"
  else
    let sessionId := nextRowId (db.sessions.map (·.sessionId))
    .ok (sessionId, { db with sessions := db.sessions ++ [{ params with sessionId }] })

def deleteSession (db : Database) (sessionId : Nat) : Database :=
  { db with sessions := db.sessions.filter (·.sessionId ≠ sessionId) }

def insertMurmur (db : Database) (murmur : Murmur) : Except String (Unit × Database) :=
  if db.murmurs.any fun row => row.murmurId = murmur.murmurId ∨ row.sessionId = murmur.sessionId ∨
      row.recDir = murmur.recDir ∨ row.grpcPort = murmur.grpcPort ∨ row.murmurPort = murmur.murmurPort then
    .error "SQLITE_CONSTRAINT: UNIQUE constraint failed"
  else .ok ((), { db with murmurs := db.murmurs ++ [murmur] })

def selectMurmurs (db : Database) (sessionId : Nat) : List Murmur :=
  db.murmurs.filter (·.sessionId = sessionId)

def deleteMurmur (db : Database) (murmurId : String) : Database :=
  { db with murmurs := db.murmurs.filter (·.murmurId ≠ murmurId) }

def insertGame (db : Database) (row : GameRow) : Except String (Unit × Database) :=
  if db.games.any (·.gameId = row.gameId) then .error "SQLITE_CONSTRAINT: UNIQUE constraint failed"
  else .ok ((), { db with games := db.games ++ [{ row with gameData := row.gameData.json }] })

def selectGames (db : Database) (sessionId : Nat) : List GameRow :=
  db.games.filter (·.sessionId = sessionId)

def deleteGame (db : Database) (gameId : String) : Database :=
  { db with games := db.games.filter (·.gameId ≠ gameId) }

/-- `updateGameQuery`. -/
def updateGame (db : Database) (gameId : String) (gameData : GameData) : Database :=
  { db with games := db.games.map fun row =>
      if row.gameId = gameId then { row with gameData := gameData.json } else row }

/-- The transaction of `setCurrentGame`. -/
def setCurrentGame (db : Database) (sessionId : Nat) (gameId : String) : Database :=
  let cleared := db.games.map fun row => if row.sessionId = sessionId then { row with isCurrent := false } else row
  { db with games := cleared.map fun row => if row.gameId = gameId then { row with isCurrent := true } else row }

def insertAttack (db : Database) (attack : NewAttack) : Nat × Database :=
  let attackId := nextRowId (db.attacks.map (·.attackId))
  (attackId, { db with attacks := db.attacks ++ [attack.row attackId] })

def deleteAttacks (db : Database) (sessionId : Nat) : Database :=
  { db with attacks := db.attacks.filter (·.sessionId ≠ sessionId) }

end Database

end DfStudy.Tables
