import DfStudy.Requests
import DfStudy.ServerFrames

/-! The server at work: any number of requests and connections, each advancing one operation at a time,
beside the games that are played and the writes they have forked. -/

namespace DfStudy.Processes
open Rounds Games Tables Servers MemGames ServerFrames Sessions Requests Support.Futures Future

inductive Asked where
  | create (params : CreateSessionParams)
  | remove (sessionId : Nat)
  | connect (socket : Nat) (playerId : String)

def Asked.request (host : Host) : Asked → Request (Option Session)
  | .create params => (createSession host params).map some
  | .remove sessionId => (removeSession sessionId).map some
  | .connect socket playerId => (onConnect socket playerId).map fun _ => none

def Asked.stage : Asked → Stage
  | .create _ => .asking
  | .remove sessionId => .removing sessionId []
  | .connect _ _ => .connecting none

structure Thread where
  asked : Asked
  /-- What the request has done so far. The server itself does not keep it. -/
  stage : Stage
  request : Request (Option Session)

structure Process where
  server : Server
  threads : List Thread := []

inductive Turn where
  | create (params : CreateSessionParams)
  | remove (sessionId : Nat)
  | connect (playerId : String)
  /-- One operation of a request. -/
  | advance (thread : Nat) (fails : Bool)
  /-- A forked write reaches the tables, or fails. The writes are independent of each other. -/
  | commit (task : Nat) (fails : Bool)
  | playerReady (socket : Nat) (readyFlag : Bool)
  | answer (socket : Nat) (answer : Answer)
  | disconnect (socket : Nat)
  /-- An admin connects, and asks for every state of every game in memory. -/
  | watch (admin : Nat)
  | fire (address handle : Nat)
  | finish (address pid : Nat) (ok : Bool)

/-- One turn of one game. -/
def act (s : Server) (address : Nat) (action : Action) : Server :=
  match s.heap[address]? with
  | none => s
  | some game =>
    { s with
      heap := s.heap.set address (Games.step game action)
      tasks := s.tasks ++ forks (Games.step game action) game.effects.length }

/-- An event of a connected socket, for the game it has joined. -/
def actFrom (s : Server) (socket : Nat) (action : String → Action) : Server :=
  match s.sockets[socket]? with
  | some { playerId, gameId := some gameId, connected := true } =>
    match getGame s.memGames gameId with
    | .ok game => act s game.address (action playerId)
    | .error _ => s
  | _ => s

def onDisconnect (s : Server) (socket : Nat) : Server :=
  let s := actFrom s socket fun playerId => .playerReady playerId false
  { s with sockets := s.sockets.modify socket fun entry => { entry with connected := false } }

def commitTask (db : Database) : Task → Database
  | .saveGame gameId data => db.updateGame gameId data
  | .setCurrentGame sessionId gameId => db.setCurrentGame sessionId gameId

def commit (s : Server) (index : Nat) (fails : Bool) : Server :=
  match s.tasks[index]? with
  | none => s
  | some task =>
    { s with
      db := if fails then s.db else commitTask s.db task
      tasks := s.tasks.eraseIdx index }

def watch (s : Server) (admin : Nat) : Server :=
  s.memGames.foldl (fun s game => modifyGame s game.address (·.onState admin)) s

def arrive (host : Host) (p : Process) (asked : Asked) : Process :=
  { p with threads := p.threads ++ [{ asked, stage := asked.stage, request := asked.request host }] }

def connect (s : Server) (playerId : String) : Server := { s with sockets := s.sockets ++ [{ playerId }] }

def advance (host : Host) (p : Process) (index : Nat) (fails : Bool) : Process :=
  match p.threads[index]? with
  | some { asked, stage, request := .step op next } =>
    let answer := (perform host fails op p.server).1
    { server := (perform host fails op p.server).2
      threads := p.threads.set index { asked, stage := stage.after op answer, request := next answer } }
  | _ => p

/-- The part of a turn that concerns no request. -/
def play (s : Server) : Turn → Server
  | .connect playerId => connect s playerId
  | .commit task fails => commit s task fails
  | .playerReady socket readyFlag => actFrom s socket fun playerId => .playerReady playerId readyFlag
  | .answer socket answer => actFrom s socket fun _ => .answer answer
  | .disconnect socket => onDisconnect s socket
  | .watch admin => watch s admin
  | .fire address handle => act s address (.fire handle)
  | .finish address pid ok => act s address (.finish pid ok)
  | .create _ | .remove _ | .advance _ _ => s

def step (host : Host) (p : Process) (turn : Turn) : Process :=
  match turn with
  | .advance thread fails => advance host p thread fails
  | .create params => arrive host p (.create params)
  | .remove sessionId => arrive host p (.remove sessionId)
  | .connect playerId => arrive host { p with server := play p.server turn } (.connect p.server.sockets.length playerId)
  | _ => { p with server := play p.server turn }

/-- Everything a turn can do: nothing, one operation of a request, an arrival, or play. -/
theorem step_cases (host : Host) (p : Process) (turn : Turn) :
    step host p turn = p ∨
    (∃ index fails thread op next, turn = .advance index fails ∧ p.threads[index]? = some thread ∧
      thread.request = .step op next ∧ step host p turn = {
        server := (perform host fails op p.server).2
        threads := p.threads.set index { thread with
          stage := thread.stage.after op (perform host fails op p.server).1
          request := next (perform host fails op p.server).1 } }) ∨
    (∃ asked, step host p turn = arrive host { p with server := play p.server turn } asked) ∨
    step host p turn = { p with server := play p.server turn } := by
  cases turn with
  | advance index fails =>
    change advance host p index fails = p ∨ _
    cases found : p.threads[index]? with
    | none =>
      left
      unfold advance
      rw [found]
    | some thread =>
      obtain ⟨asked, stage, request⟩ := thread
      cases request with
      | resolve value =>
        left
        unfold advance
        rw [found]
      | reject error =>
        left
        unfold advance
        rw [found]
      | step op next =>
        refine .inr (.inl ⟨index, fails, { asked, stage, request := .step op next }, op, next, rfl, found, rfl, ?_⟩)
        change advance host p index fails = _
        unfold advance
        rw [found]
  | create params => exact .inr (.inr (.inl ⟨_, rfl⟩))
  | remove sessionId => exact .inr (.inr (.inl ⟨_, rfl⟩))
  | connect playerId => exact .inr (.inr (.inl ⟨_, rfl⟩))
  | _ => exact .inr (.inr (.inr rfl))

/-! What play leaves alone. -/

theorem act_frame (s : Server) (address : Nat) (action : Action) :
    act s address action = { s with heap := (act s address action).heap, tasks := (act s address action).tasks } := by
  unfold act
  split <;> rfl

/-- An event of a socket reaches the game the socket is in, if it is connected and the game in memory. -/
theorem actFrom_ways (s : Server) (socket : Nat) (action : String → Action) :
    (∀ playerId gameId, s.sockets[socket]? ≠ some { playerId, gameId := some gameId, connected := true }) ∧
        actFrom s socket action = s ∨
      ∃ playerId gameId, s.sockets[socket]? = some { playerId, gameId := some gameId, connected := true } ∧
        (¬Registered s.memGames gameId ∧ actFrom s socket action = s ∨
          ∃ ref, getGame s.memGames gameId = .ok ref ∧ actFrom s socket action = act s ref.address (action playerId)) := by
  unfold actFrom
  split
  next playerId gameId found =>
    refine .inr ⟨playerId, gameId, found, ?_⟩
    split
    next ref looked => exact .inr ⟨ref, looked, rfl⟩
    next message failed =>
      refine .inl ⟨fun known => ?_, rfl⟩
      obtain ⟨ref, looked⟩ := getGame_isOk.mpr known
      rw [failed] at looked
      cases looked
  next other => exact .inl ⟨fun playerId gameId found => other playerId gameId found, rfl⟩

theorem actFrom_cases (s : Server) (socket : Nat) (action : String → Action) :
    actFrom s socket action = s ∨
      ∃ (game : GameRef) (playerId : String), actFrom s socket action = act s game.address (action playerId) := by
  rcases actFrom_ways s socket action with ⟨_, same⟩ | ⟨playerId, _, _, ⟨_, same⟩ | ⟨game, _, same⟩⟩
  · exact .inl same
  · exact .inl same
  · exact .inr ⟨_, _, same⟩

/-- Play is turns of games, listeners for states, sockets, and committed writes. -/
inductive Played (s : Server) : Server → Prop where
  | nothing : Played s s
  | acted (address : Nat) (action : Action) : Played s (act s address action)
  | sockets (sockets : List Socket) : Played s { s with sockets }
  | hung (address : Nat) (action : Action) (sockets : List Socket) : Played s { act s address action with sockets }
  | watched (admin : Nat) : Played s (watch s admin)
  | committed (index : Nat) (fails : Bool) : Played s (commit s index fails)

theorem played (s : Server) (turn : Turn) : Played s (play s turn) := by
  cases turn with
  | create params => exact .nothing
  | remove sessionId => exact .nothing
  | advance thread fails => exact .nothing
  | connect playerId => exact .sockets _
  | commit task fails => exact .committed task fails
  | playerReady socket readyFlag =>
    rcases actFrom_cases s socket fun playerId => .playerReady playerId readyFlag with same | ⟨_, _, same⟩
    · change Played s (actFrom s socket _)
      rw [same]
      exact .nothing
    · change Played s (actFrom s socket _)
      rw [same]
      exact .acted _ _
  | answer socket answer =>
    rcases actFrom_cases s socket fun _ => .answer answer with same | ⟨_, _, same⟩
    · change Played s (actFrom s socket _)
      rw [same]
      exact .nothing
    · change Played s (actFrom s socket _)
      rw [same]
      exact .acted _ _
  | disconnect socket =>
    change Played s (onDisconnect s socket)
    unfold onDisconnect
    rcases actFrom_cases s socket fun playerId => .playerReady playerId false with same | ⟨_, _, same⟩
    · rw [same]
      exact .sockets _
    · rw [same]
      exact .hung _ _ _
  | watch admin => exact .watched admin
  | fire address handle => exact .acted _ _
  | finish address pid ok => exact .acted _ _

theorem watch_bares (s : Server) (admin : Nat) : bares (watch s admin) = bares s := by
  have folds : ∀ (games : List GameRef) (s : Server),
      bares (games.foldl (fun s game => modifyGame s game.address (·.onState admin)) s) = bares s := by
    intro games
    induction games with
    | nil => exact fun _ => rfl
    | cons game games ih =>
      intro s
      rw [List.foldl_cons, ih]
      exact modifyGame_bares fun _ => rfl
  exact folds s.memGames s

theorem watch_frame (s : Server) (admin : Nat) : watch s admin = { s with heap := (watch s admin).heap } := by
  have folds : ∀ (games : List GameRef) (s : Server),
      games.foldl (fun s game => modifyGame s game.address (·.onState admin)) s =
        { s with heap := (games.foldl (fun s game => modifyGame s game.address (·.onState admin)) s).heap } := by
    intro games
    induction games with
    | nil => exact fun _ => rfl
    | cons game games ih =>
      intro s
      rw [List.foldl_cons, ih]
      rfl
  exact folds s.memGames s

/-- Requests alone change the lists of sessions and of games, and draw ids. -/
theorem Played.frame {s s' : Server} (played : Played s s') :
    s'.memGames = s.memGames ∧ s'.uuids = s.uuids ∧ s'.db.sessions = s.db.sessions := by
  cases played with
  | nothing => exact ⟨rfl, rfl, rfl⟩
  | acted address action =>
    rw [act_frame]
    exact ⟨rfl, rfl, rfl⟩
  | sockets sockets => exact ⟨rfl, rfl, rfl⟩
  | hung address action sockets =>
    rw [act_frame]
    exact ⟨rfl, rfl, rfl⟩
  | watched admin =>
    rw [watch_frame]
    exact ⟨rfl, rfl, rfl⟩
  | committed index fails =>
    unfold commit
    split
    · exact ⟨rfl, rfl, rfl⟩
    · rename_i task _
      refine ⟨rfl, rfl, ?_⟩
      cases fails with
      | true => rfl
      | false => cases task <;> rfl

/-- The sockets after a turn. -/
def socketsAfter (sockets : List Socket) : Turn → List Socket
  | .connect playerId => sockets ++ [{ playerId }]
  | .disconnect socket => sockets.modify socket fun entry => { entry with connected := false }
  | _ => sockets

theorem play_socketsAfter (s : Server) (turn : Turn) : (play s turn).sockets = socketsAfter s.sockets turn := by
  have acts : ∀ (address : Nat) (action : Action), (act s address action).sockets = s.sockets := by
    intro address action
    rw [act_frame]
  have actsFrom : ∀ (place : Nat) (action : String → Action), (actFrom s place action).sockets = s.sockets := by
    intro place action
    rcases actFrom_cases s place action with same | ⟨game, _, same⟩
    · rw [same]
    · rw [same, acts]
  cases turn with
  | commit task fails =>
    change (commit s task fails).sockets = _
    unfold commit
    split <;> rfl
  | playerReady place readyFlag => exact actsFrom _ _
  | answer place answer => exact actsFrom _ _
  | disconnect place =>
    change (actFrom s place _).sockets.modify place _ = _
    rw [actsFrom]
    rfl
  | watch admin =>
    change (watch s admin).sockets = _
    rw [watch_frame]
    rfl
  | fire address handle => exact acts _ _
  | finish address pid ok => exact acts _ _
  | _ => rfl

/-! A server to try things on. Its `randomUUID` counts in unary. -/

def sampleHost : Host where
  cwd := "/srv/dfs"
  dirname := "/srv/dfs/lib"
  DFS_REC_DIR := "rec"
  numberToString value := toString value.num
  clock _ reading := reading
  gameRows rows := rows
  gameRows_perm rows := List.Perm.refl rows
  attackRows rows := rows
  attackRows_perm rows := List.Perm.refl rows

def sampleStart : Process where
  server := { uuids := fun index => String.ofList (List.replicate index 'g') }

def sampleParams : CreateSessionParams where
  blueParticipant := "pete"
  redParticipant := "kate"
  grpcPort := 50051
  murmurPort := 64738

end DfStudy.Processes
