import DfStudy.GameFrames
import DfStudy.Lifetimes

/-! A game starts with both players present: on connected sockets which have said so. The ready flags are saved
with every state of the game, and a restart reads them back for sockets that are gone. -/

namespace DfStudy.Presence
open Attacks Rounds Games GameFrames GameEffects Tables Servers MemGames ServerFrames Sessions Requests Processes Lifetimes
open Support.Futures Support.Machine Future

/-! Sockets join a game once. -/

def joins : Op → Bool
  | .joinGame _ _ => true
  | _ => false

/-- The request makes no socket join a game. -/
abbrev Unjoined {α : Type} (request : Request α) : Prop := Within (fun op => joins op = false) request

theorem unjoined_call {op : Op} (other : joins op = false) : Unjoined (call op) := Within.call other

theorem unjoined_of_removal {op : Op} (own : ofRemoval op) : joins op = false := by
  cases op <;> first | rfl | cases own

theorem unjoined_quietly {α : Type} {request : Request α} (quietly : Quietly request) : Unjoined request :=
  quietly.mono fun _ silent => unjoined_of_removal (ofRemoval_of_quiet silent)

theorem unjoined_removeSession (sessionId : Nat) : Unjoined (removeSession sessionId) :=
  (within_removeSession sessionId).mono fun _ => unjoined_of_removal

theorem unjoined_initSession (session : Session) : Unjoined (initSession session) := by
  have games : Unjoined (doGames session) := by
    apply Within.chain (unjoined_call rfl)
    intro rows
    exact Within.chain (unjoined_call rfl) fun games => unjoined_call rfl
  have rest : Quietly ((doAttacks session).chain fun _ => doMurmur session) :=
    (quietly_doAttacks session).chain fun _ => quietly_doMurmur session
  exact Within.map _ (Within.mapRej _ (games.chain fun _ => unjoined_quietly rest))

theorem unjoined_initSessions : Unjoined initSessions := by
  apply Within.chain (unjoined_call rfl)
  intro sessions
  apply Within.parallel
  intro request member
  obtain ⟨session, _, rfl⟩ := List.mem_map.mp member
  exact (unjoined_initSession session).coalesce

theorem unjoined_createSessionGames (host : Host) (session : Session) : Unjoined (createSessionGames host session) := by
  have draws : ∀ count, Unjoined (drawIds count) := by
    intro count
    induction count with
    | zero => trivial
    | succ count ih => exact Within.chain (unjoined_call rfl) fun _ => Within.map _ ih
  apply Within.mapRej
  apply (draws _).chain
  intro gameIds
  apply Within.map
  apply Within.parallel
  intro request member
  obtain ⟨⟨⟨game, gameId⟩, gameOrder⟩, _, rfl⟩ := List.mem_map.mp member
  apply Within.chain (Within.ofExcept _)
  intro rounds
  exact Within.chain (unjoined_call rfl) fun _ => unjoined_quietly (quietly_createGameAttacks host game.schedule _)

theorem unjoined_createSession (host : Host) (params : CreateSessionParams) : Unjoined (createSession host params) := by
  have inserted : Unjoined (insertSession params) := Within.map _ (unjoined_call rfl)
  have murmured : ∀ session, Unjoined (createSessionMurmur host session) := fun session =>
    Within.mapRej _ (Within.map _ (unjoined_quietly (quietly_createMurmur host _ _ _)))
  have created : Unjoined ((insertSession params).chain fun session =>
      (createSessionMurmur host session).chain fun session =>
        (createSessionGames host session).chain initSession) :=
    inserted.chain fun session => (murmured session).chain fun session =>
      (unjoined_createSessionGames host session).chain unjoined_initSession
  apply created.chainRej
  intro error
  cases error with
  | sessionError session message => exact (unjoined_removeSession _).chain fun _ => trivial
  | error message => trivial
  | createMurmurError message => trivial

/-- The request makes this socket join a game, at most once. -/
def JoinsOnce {α : Type} (socket : Nat) : Request α → Prop
  | .resolve _ => True
  | .reject _ => True
  | .step op next => (∃ game, op = .joinGame socket game) ∧ (∀ answer, Unjoined (next answer)) ∨
      joins op = false ∧ ∀ answer, JoinsOnce socket (next answer)

theorem joinsOnce_chain {α β : Type} {socket : Nat} {request : Request α} {f : α → Request β}
    (unjoined : Unjoined request) (rest : ∀ value, JoinsOnce socket (f value)) : JoinsOnce socket (request.chain f) := by
  induction request with
  | resolve value => exact rest value
  | reject error => trivial
  | step op next ih => exact .inr ⟨unjoined.1, fun answer => ih answer (unjoined.2 answer)⟩

theorem joinsOnce_map {α β : Type} {socket : Nat} {request : Request α} (f : α → β)
    (once : JoinsOnce socket request) : JoinsOnce socket (request.map f) := by
  induction request with
  | resolve value => trivial
  | reject error => trivial
  | step op next ih =>
    rcases once with ⟨joined, after⟩ | ⟨other, after⟩
    · exact .inl ⟨joined, fun answer => (after answer).map f⟩
    · exact .inr ⟨other, fun answer => ih answer (after answer)⟩

theorem joinsOnce_onConnect (socket : Nat) (playerId : String) : JoinsOnce socket (onConnect socket playerId) := by
  have found : Unjoined (getPlayerSession playerId) := by
    apply Within.chain (unjoined_call rfl)
    intro sessions
    split <;> trivial
  apply joinsOnce_chain found
  intro session
  have current : Unjoined (getCurrentGame session.sessionId) := by
    apply Within.chain (unjoined_call rfl)
    intro rows
    split
    · trivial
    · apply Within.chain (unjoined_call rfl)
      intro games
      split <;> trivial
  apply joinsOnce_chain current
  intro game
  refine .inl ⟨⟨game, rfl⟩, fun answer => ?_⟩
  cases answer <;> trivial

/-- What is left of a request, when its socket has joined the game of `joined`. -/
def Joinable (joined : Option (Option String)) (socket : Nat) (request : Request (Option Session)) : Prop :=
  ∃ gameId, joined = some gameId ∧ (Unjoined request ∨ gameId = none ∧ JoinsOnce socket request)

def Pends (sockets : List Socket) (thread : Thread) : Prop :=
  match thread.asked with
  | .connect socket _ => Joinable (sockets[socket]?.map (·.gameId)) socket thread.request
  | _ => Unjoined thread.request

/-- Requests join sockets of their own. -/
structure Joining (p : Process) : Prop where
  pends : ∀ thread ∈ p.threads, Pends p.server.sockets thread
  alone : ∀ (index other : Nat) (first second : Thread), p.threads[index]? = some first → p.threads[other]? = some second →
    ∀ socket playerId playerId', first.asked = .connect socket playerId → second.asked = .connect socket playerId' →
      index = other

/-! One game. -/

/-- Which game it is, who plays it, and when it has started. -/
def lineup (s : LiveGame) : String × List Player × Option Nat := (s.game.gameId, s.game.players, s.game.startTime)

theorem gotoRound_lineup (s : LiveGame) (round : Nat) : lineup (s.gotoRound round).1 = lineup s := by
  cases found : s.game.rounds[round]? with
  | none =>
    rw [gotoRound_past s round found, stop_eq]
    rfl
  | some roundObj =>
    rw [gotoRound_enters s round roundObj found]
    rfl

theorem answer_lineup (s : LiveGame) (answer : Answer) : lineup (s.answer answer).1 = lineup s := by
  unfold LiveGame.answer
  split
  next => rfl
  next round roundObj _ =>
    split
    · rfl
    · split
      · rfl
      · rw [triggerAnswer_eq]
        dsimp only
        split <;> rfl

/-- The game is started by nothing but a ready player. -/
theorem step_lineup {s : LiveGame} {action : Action} (other : ∀ playerId ready, action ≠ .playerReady playerId ready) :
    lineup (Games.step s action) = lineup s := by
  cases action with
  | playerReady playerId ready => exact absurd rfl (other playerId ready)
  | answer answer => exact answer_lineup s answer
  | fire handle =>
    change lineup (s.fire handle) = _
    unfold LiveGame.fire
    split
    next => rfl
    next timeout _ =>
      cases timeout.callback with
      | answer round => exact answer_lineup _ _
      | gotoRound round => exact gotoRound_lineup _ round
  | finish pid ok =>
    change lineup (s.finish pid ok) = _
    cases found : s.children.find? (·.pid = pid) with
    | none =>
      unfold LiveGame.finish
      rw [found]
    | some child =>
      rw [finish_eq found]
      rfl
  | onState socket => rfl

/-- Both players have set their flag. -/
def BothReady (players : List Player) : Prop :=
  ∃ blue red rest, players = blue :: red :: rest ∧ blue.ready = true ∧ red.ready = true

theorem startIfPlayersReady_lineup (s : LiveGame) : s.startIfPlayersReady.1.game.players = s.game.players ∧
    (s.startIfPlayersReady.1.game.startTime = s.game.startTime ∨
      s.game.startTime = none ∧ BothReady s.game.players) := by
  unfold LiveGame.startIfPlayersReady
  split
  next => exact ⟨rfl, .inl rfl⟩
  next unstarted =>
    split
    next => exact ⟨rfl, .inl rfl⟩
    next blue rest players =>
      split
      next => exact ⟨rfl, .inl rfl⟩
      next first =>
        split
        next => exact ⟨rfl, .inl rfl⟩
        next red others =>
          split
          next => exact ⟨rfl, .inl rfl⟩
          next second =>
            have never : s.game.startTime = none := by simpa using unstarted
            have entered := gotoRound_lineup { s.tick with game := { s.game with startTime := some s.now } } 0
            refine ⟨?_, .inr ⟨never, blue, red, others, players, by simpa using first, by simpa using second⟩⟩
            change (LiveGame.triggerStart _).game.players = _
            rw [triggerStart_eq]
            exact congrArg (·.2.1) entered

theorem runPlayerReadyCallbacks_lineup (callbacks : List PlayerReadyCallback) (s : LiveGame) :
    (s.runPlayerReadyCallbacks callbacks).1.game.players = s.game.players ∧
      ((s.runPlayerReadyCallbacks callbacks).1.game.startTime = s.game.startTime ∨
        s.game.startTime = none ∧ BothReady s.game.players) := by
  induction callbacks generalizing s with
  | nil => exact ⟨rfl, .inl rfl⟩
  | cons callback callbacks ih =>
    cases callback with
    | triggerState =>
      have later := ih s.triggerState
      rw [triggerState_eq] at later
      unfold LiveGame.runPlayerReadyCallbacks
      rw [triggerState_eq]
      exact later
    | startIfPlayersReady =>
      have first := startIfPlayersReady_lineup s
      unfold LiveGame.runPlayerReadyCallbacks
      cases started : s.startIfPlayersReady with
      | mk after outcome =>
        rw [started] at first
        have later := ih after
        rw [first.1] at later
        have rest : (after.runPlayerReadyCallbacks callbacks).1.game.startTime = s.game.startTime ∨
            s.game.startTime = none ∧ BothReady s.game.players := by
          rcases first.2 with same | both
          · rw [same] at later
            exact later.2
          · exact .inr both
        cases outcome with
        | threw message => exact first
        | left message => exact ⟨later.1, rest⟩
        | right result => exact ⟨later.1, rest⟩

/-- What a ready flag does: it is set for the first player of the name, and may start the game. -/
theorem playerReady_lineup (s : LiveGame) (playerId : String) (ready : Bool) :
    (s.playerReady playerId ready).1 = s ∧ (∀ player ∈ s.game.players, player.playerId ≠ playerId) ∨
      ∃ index, s.game.players.findIdx? (·.playerId = playerId) = some index ∧
        (s.playerReady playerId ready).1.game.players = s.game.players.modify index ({ · with ready }) ∧
        ((s.playerReady playerId ready).1.game.startTime = s.game.startTime ∨
          s.game.startTime = none ∧ BothReady (s.playerReady playerId ready).1.game.players) := by
  unfold LiveGame.playerReady
  cases found : s.game.players.findIdx? (·.playerId = playerId) with
  | none =>
    refine .inl ⟨rfl, fun player member => ?_⟩
    simpa using List.findIdx?_eq_none_iff.mp found player member
  | some index =>
    right
    dsimp only
    have called := runPlayerReadyCallbacks_lineup s.game.cbMap.playerReady
      (LiveGame.emit { s with game := { s.game with players := s.game.players.modify index ({ · with ready }) } }
        (.trigger (.playerReady { playerId, ready })))
    refine ⟨index, rfl, called.1, ?_⟩
    rw [called.1]
    exact called.2

/-- Whoever is ready is the first player of the name, and there. -/
def Attends (here : String → Prop) (players : List Player) : Prop :=
  ∀ index player, players[index]? = some player → player.ready = true →
    players.findIdx? (·.playerId = player.playerId) = some index ∧ here player.playerId

theorem modify_findIdx (players : List Player) (index : Nat) (ready : Bool) (playerId : String) :
    (players.modify index ({ · with ready })).findIdx? (·.playerId = playerId) =
      players.findIdx? (·.playerId = playerId) := by
  have names : ∀ players : List Player, players.findIdx? (·.playerId = playerId) =
      (players.map (·.playerId)).findIdx? (· = playerId) := by
    intro players
    rw [List.findIdx?_map]
    rfl
  have same : (players.modify index ({ · with ready })).map (·.playerId) = players.map (·.playerId) := by
    apply List.ext_getElem?
    intro position
    rw [List.getElem?_map, List.getElem?_map, List.getElem?_modify]
    cases players[position]? with
    | none => rfl
    | some player => by_cases here : index = position <;> simp [here]
  rw [names, same, ← names]

/-- A flag is set for a player who is there, or taken from whom it was set for. -/
theorem playerReady_attends {game : LiveGame} {playerId : String} {ready : Bool} {here here' : String → Prop}
    (attends : Attends here game.game.players) (kept : ∀ other, here other → other ≠ playerId → here' other)
    (told : ready = true → here' playerId) : Attends here' (game.playerReady playerId ready).1.game.players := by
  rcases playerReady_lineup game playerId ready with ⟨same, absent⟩ | ⟨own, found, players, -⟩
  · rw [same]
    intro index player present flag
    obtain ⟨first, there⟩ := attends index player present flag
    exact ⟨first, kept _ there (absent player (List.mem_of_getElem? present))⟩
  · rw [players]
    intro index player present flag
    rw [List.getElem?_modify] at present
    obtain ⟨old, before, changed⟩ := Option.map_eq_some_iff.mp present
    by_cases here : own = index
    · subst here
      obtain ⟨bound, named, -⟩ := List.findIdx?_eq_some_iff_getElem.mp found
      have name : old.playerId = playerId := by
        rw [List.getElem?_eq_getElem bound, Option.some.injEq] at before
        rw [← before]
        simpa using named
      rw [if_pos rfl] at changed
      subst changed
      refine ⟨?_, ?_⟩
      · rw [modify_findIdx]
        change game.game.players.findIdx? (·.playerId = old.playerId) = _
        rw [name]
        exact found
      · change here' old.playerId
        rw [name]
        exact told flag
    · rw [if_neg here] at changed
      subst changed
      obtain ⟨first, there⟩ := attends index old before flag
      refine ⟨?_, kept _ there fun same => here ?_⟩
      · rw [modify_findIdx]
        exact first
      · rw [same, found] at first
        exact Option.some.inj first

/-! One operation. -/

def lineups (s : Server) : List (String × List Player × Option Nat) := s.heap.map lineup

theorem lineups_eq (s : Server) : lineups s = (bares s).map lineup := by
  unfold lineups bares
  rw [List.map_map]
  rfl

section
variable {host : Host} {fails : Bool} {op : Op} {s : Server}

theorem perform_lineups (other : ∀ rows, op ≠ .initGameRows rows) : lineups (perform host fails op s).2 = lineups s := by
  rw [lineups_eq, lineups_eq, perform_bares other]

theorem unjoined_sockets (unjoined : joins op = false) : (perform host fails op s).2.sockets = s.sockets := by
  apply perform_sockets
  rintro socket game rfl
  cases unjoined

end

/-! The games in memory, and the sockets in them. -/

/-- The player has a connected socket in the game, one of those that have said that they are ready. -/
def Here (s : Server) (ready : List Nat) (gameId playerId : String) : Prop :=
  ∃ socket ∈ ready, s.sockets[socket]? = some { playerId, gameId := some gameId, connected := true }

/-- Whoever is ready in a game that has not started is there. -/
def Attended (s : Server) (ready : List Nat) : Prop :=
  ∀ ref ∈ s.memGames, ∃ players startTime, (lineups s)[ref.address]? = some (ref.gameId, players, startTime) ∧
    (startTime = none → Attends (Here s ready ref.gameId) players)

/-- No game among these that has not started remembers a ready player. -/
def Unready (rows : List GameRow) : Prop :=
  ∀ row ∈ rows, row.gameData.startTime = none → ∀ player ∈ row.gameData.players, player.ready = false

instance (rows : List GameRow) : Decidable (Unready rows) :=
  inferInstanceAs (Decidable (∀ row ∈ rows, row.gameData.startTime = none →
    ∀ player ∈ row.gameData.players, player.ready = false))

theorem Attended.frame {s s' : Server} {ready ready' : List Nat} (attended : Attended s ready)
    (games : ∀ ref ∈ s'.memGames, ref ∈ s.memGames) (same : lineups s' = lineups s)
    (kept : ∀ gameId playerId, Registered s.memGames gameId → Here s ready gameId playerId →
      Here s' ready' gameId playerId) : Attended s' ready' := by
  intro ref member
  obtain ⟨players, startTime, line, attends⟩ := attended ref (games ref member)
  refine ⟨players, startTime, by rw [same]; exact line, fun never index player present flag => ?_⟩
  obtain ⟨first, there⟩ := attends never index player present flag
  exact ⟨first, kept _ _ ⟨ref, games ref member, rfl⟩ there⟩

theorem loaded_lineup {clock : Nat → Nat} {data : GameData} {game : LiveGame}
    (loaded : deserializeGame clock data = .ok game) : lineup game = (data.gameId, data.players, data.startTime) := by
  obtain ⟨rounds, _, rfl⟩ := deserializeGame_ok loaded
  unfold resumeGame
  split
  · rw [gotoRound_lineup]
    rfl
  · rfl

theorem attended_loads {host : Host} {rows : List GameRow} {s : Server} {ready : List Nat} (unready : Unready rows)
    (attended : Attended s ready) : Attended (Servers.initGameRows host rows s).2 ready := by
  unfold Servers.initGameRows
  apply initGames_keeps host (Attended · ready) _ attended
  intro s data game member attended loaded ref present
  have line := loaded_lineup loaded
  rcases (setMemGame_registered s.memGames { address := s.heap.length, gameId := game.game.gameId }).2.2.1 ref present with
    old | rfl
  · obtain ⟨players, startTime, known, attends⟩ := attended ref old
    refine ⟨players, startTime, ?_, attends⟩
    unfold lineups at known ⊢
    rw [List.map_append]
    exact (List.getElem?_append_left (List.getElem?_eq_some_iff.mp known).1).trans known
  · refine ⟨game.game.players, game.game.startTime, ?_, fun never index player here flag => ?_⟩
    · simp [lineups, lineup]
    · obtain ⟨row, among, rfl⟩ := List.mem_map.mp member
      have own : game.game.players = row.gameData.players ∧ game.game.startTime = row.gameData.startTime :=
        Prod.ext_iff.mp (congrArg Prod.snd line)
      rw [own.2] at never
      rw [own.1] at here
      have sorted : row ∈ rows := (List.perm_insertionSort _ rows).mem_iff.mp among
      rw [unready row sorted never player (List.mem_of_getElem? here)] at flag
      cases flag

section
variable {s s' : Server} {ready ready' : List Nat} {ref : GameRef} {gameId playerId : String} {flag : Bool}

/-- A ready flag of a joined socket: for one game, and one player of it. -/
structure Flagged (s s' : Server) (ready ready' : List Nat) (ref : GameRef) (gameId playerId : String) (flag : Bool) :
    Prop where
  found : getGame s.memGames gameId = .ok ref
  memGames : s'.memGames = s.memGames
  heap : s'.heap = (act s ref.address (.playerReady playerId flag)).heap
  kept : ∀ otherGame otherPlayer, Here s ready otherGame otherPlayer → otherGame ≠ gameId ∨ otherPlayer ≠ playerId →
    Here s' ready' otherGame otherPlayer
  told : flag = true → Here s' ready' gameId playerId

theorem Flagged.line (flagged : Flagged s s' ready ready' ref gameId playerId flag) {game : LiveGame}
    (known : s.heap[ref.address]? = some game) : s'.heap = s.heap.set ref.address (game.playerReady playerId flag).1 := by
  rw [flagged.heap]
  unfold act
  rw [known]
  rfl

theorem Flagged.attends (flagged : Flagged s s' ready ready' ref gameId playerId flag) (attended : Attended s ready)
    {game : LiveGame} (known : s.heap[ref.address]? = some game) (never : game.game.startTime = none) :
    Attends (Here s' ready' gameId) (game.playerReady playerId flag).1.game.players := by
  obtain ⟨member, named⟩ := getGame_ok flagged.found
  obtain ⟨players, startTime, line, attends⟩ := attended ref member
  have same : lineup game = (ref.gameId, players, startTime) := by
    unfold lineups at line
    rw [List.getElem?_map, known] at line
    exact Option.some.inj line
  have own : game.game.players = players ∧ game.game.startTime = startTime := Prod.ext_iff.mp (congrArg Prod.snd same)
  have before := attends (own.2 ▸ never)
  rw [← own.1, named] at before
  exact playerReady_attends before (fun other there differs => flagged.kept gameId other there (.inr differs)) flagged.told

theorem playerReady_never {game : LiveGame} (never : (game.playerReady playerId flag).1.game.startTime = none) :
    game.game.startTime = none := by
  rcases playerReady_lineup game playerId flag with ⟨same, -⟩ | ⟨_, _, _, same | ⟨unstarted, -⟩⟩
  · rw [same] at never
    exact never
  · rw [same] at never
    exact never
  · exact unstarted

theorem Flagged.attended (flagged : Flagged s s' ready ready' ref gameId playerId flag) (distinct : Distinct s.memGames)
    (attended : Attended s ready) : Attended s' ready' := by
  obtain ⟨member, named⟩ := getGame_ok flagged.found
  intro other present
  rw [flagged.memGames] at present
  obtain ⟨players, startTime, line, attends⟩ := attended other present
  unfold lineups at line
  rw [List.getElem?_map] at line
  obtain ⟨game, known, same⟩ := Option.map_eq_some_iff.mp line
  by_cases own : other.gameId = gameId
  · obtain rfl : other = ref := distinct.eq present member (own.trans named.symm)
    let after := (game.playerReady playerId flag).1
    have bound := (List.getElem?_eq_some_iff.mp known).1
    have id : after.game.gameId = other.gameId := by
      have kept : after.game.gameId = game.game.gameId := (extends_playerReady game playerId flag).alike.gameId
      rw [kept]
      exact congrArg Prod.fst same
    refine ⟨after.game.players, after.game.startTime, ?_, fun never => ?_⟩
    · unfold lineups
      rw [flagged.line known, List.getElem?_map, List.getElem?_set_self bound, ← id]
      rfl
    · rw [own]
      exact flagged.attends attended known (playerReady_never never)
  · obtain ⟨_, _, ours, _⟩ := attended ref member
    have apart : ref.address ≠ other.address := by
      intro equal
      unfold lineups at ours
      rw [equal, List.getElem?_map, known] at ours
      have ids : game.game.gameId = ref.gameId := congrArg Prod.fst (Option.some.inj ours)
      have theirs : game.game.gameId = other.gameId := congrArg Prod.fst same
      exact own (theirs.symm.trans (ids.trans named))
    refine ⟨players, startTime, ?_, fun never index player here ready => ?_⟩
    · unfold lineups
      obtain ⟨acted, there⟩ : ∃ acted, s.heap[ref.address]? = some acted := by
        unfold lineups at ours
        rw [List.getElem?_map] at ours
        obtain ⟨acted, there, _⟩ := Option.map_eq_some_iff.mp ours
        exact ⟨acted, there⟩
      rw [flagged.line there, List.getElem?_map, List.getElem?_set_ne apart, known]
      exact congrArg some same
    · obtain ⟨first, there⟩ := attends never index player here ready
      exact ⟨first, flagged.kept _ _ there (.inl own)⟩

end

/-! One operation beside others. -/

/-- What an operation of a request or of `initSessions` may be: its rows are not stale, its socket is free. -/
structure Due (s : Server) (op : Op) : Prop where
  unready : ∀ rows, op = .initGameRows rows → Unready rows
  free : ∀ socket game, op = .joinGame socket game → s.sockets[socket]?.map (·.gameId) = some none

theorem attended_perform {host : Host} {fails : Bool} {op : Op} {s : Server} {ready : List Nat} (due : Due s op)
    (attended : Attended s ready) : Attended (perform host fails op s).2 ready := by
  by_cases loading : ∃ rows, op = .initGameRows rows
  · obtain ⟨rows, rfl⟩ := loading
    exact attended_loads (due.unready rows rfl) attended
  have games : ∀ ref ∈ (perform host fails op s).2.memGames, ref ∈ s.memGames := by
    rcases perform_memGames host fails op s with same | loads | ⟨game, rfl, same⟩
    · exact fun ref member => same ▸ member
    · exact absurd loads loading
    · intro ref member
      rw [same] at member
      exact removeMemGame_sublist.subset member
  refine attended.frame games (perform_lineups fun rows same => loading ⟨rows, same⟩) ?_
  rintro gameId playerId _ ⟨socket, said, entry⟩
  refine ⟨socket, said, ?_⟩
  cases joined : joins op with
  | false =>
    rw [unjoined_sockets joined]
    exact entry
  | true =>
    cases op with
    | joinGame other game =>
      have free := due.free other game rfl
      have apart : other ≠ socket := by
        rintro rfl
        rw [entry] at free
        cases free
      change (s.sockets.modify other _)[socket]? = _
      rw [List.getElem?_modify, entry]
      simp [apart]
    | _ => cases joined

/-- The turns of a process that concern no request leave each socket the game it has joined. -/
theorem play_sockets (s : Server) {turn : Turn} (other : ∀ playerId, turn ≠ .connect playerId) (socket : Nat) :
    (play s turn).sockets[socket]?.map (·.gameId) = s.sockets[socket]?.map (·.gameId) := by
  rw [play_socketsAfter]
  cases turn with
  | connect playerId => exact absurd rfl (other playerId)
  | disconnect place =>
    change (s.sockets.modify place _)[socket]?.map _ = _
    rw [List.getElem?_modify]
    cases s.sockets[socket]? with
    | none => rfl
    | some entry => by_cases here : place = socket <;> simp [here]
  | _ => rfl

/-! Requests beside each other. -/

theorem Pends.frame {sockets sockets' : List Socket} {thread : Thread} (pends : Pends sockets thread)
    (same : ∀ (socket : Nat) gameId, sockets[socket]?.map (·.gameId) = some gameId →
      sockets'[socket]?.map (·.gameId) = some gameId) : Pends sockets' thread := by
  unfold Pends at pends ⊢
  split
  next socket playerId asked =>
    rw [asked] at pends
    obtain ⟨gameId, joined, rest⟩ := pends
    exact ⟨gameId, same socket gameId joined, rest⟩
  next others =>
    split at pends
    next socket playerId asked => exact absurd asked (others socket playerId)
    next => exact pends

theorem Joining.play {p : Process} (joining : Joining p) {server : Server}
    (same : ∀ socket : Nat, server.sockets[socket]?.map (·.gameId) = p.server.sockets[socket]?.map (·.gameId)) :
    Joining { p with server } where
  pends thread member := (joining.pends thread member).frame fun socket _ joined => (same socket).trans joined
  alone := joining.alone

theorem Joining.arrive {host : Host} {p : Process} {asked : Asked} {server : Server} (joining : Joining p)
    (kept : ∀ (socket : Nat) gameId, p.server.sockets[socket]?.map (·.gameId) = some gameId →
      server.sockets[socket]?.map (·.gameId) = some gameId)
    (fresh : ∀ socket playerId, asked = .connect socket playerId → p.server.sockets.length ≤ socket ∧
      server.sockets[socket]?.map (·.gameId) = some none) :
    Joining (arrive host { p with server } asked) := by
  have new : Pends server.sockets { asked, stage := asked.stage, request := asked.request host } := by
    cases asked with
    | create params => exact (unjoined_createSession host params).map some
    | remove sessionId => exact (unjoined_removeSession sessionId).map some
    | connect socket playerId =>
      exact ⟨none, (fresh socket playerId rfl).2, .inr ⟨rfl, joinsOnce_map _ (joinsOnce_onConnect socket playerId)⟩⟩
  have place : ∀ (index : Nat) (thread : Thread), (p.threads ++ [{ asked, stage := asked.stage, request := asked.request host }])[index]? =
      some thread → p.threads[index]? = some thread ∨ index = p.threads.length ∧ thread.asked = asked := by
    intro index thread found
    rw [List.getElem?_append] at found
    split at found
    next => exact .inl found
    next beyond =>
      obtain ⟨bound, same⟩ := List.getElem?_eq_some_iff.mp found
      rw [List.length_singleton] at bound
      refine .inr ⟨by omega, ?_⟩
      rw [← same]
      simp
  have earlier : ∀ (index : Nat) (thread : Thread) socket playerId, p.threads[index]? = some thread →
      thread.asked = .connect socket playerId → asked ≠ .connect socket playerId ∧
        ∀ playerId', asked ≠ .connect socket playerId' := by
    intro index thread socket playerId found mine
    have pends := joining.pends thread (List.mem_of_getElem? found)
    unfold Pends at pends
    rw [mine] at pends
    obtain ⟨gameId, joined, _⟩ := pends
    obtain ⟨entry, there, _⟩ := Option.map_eq_some_iff.mp joined
    have bound := (List.getElem?_eq_some_iff.mp there).1
    have apart : ∀ playerId', asked ≠ .connect socket playerId' := fun playerId' same => by
      have beyond := (fresh socket playerId' same).1
      omega
    exact ⟨apart playerId, apart⟩
  constructor
  · intro thread member
    rcases List.mem_append.mp member with old | added
    · exact (joining.pends thread old).frame kept
    · rw [List.mem_singleton.mp added]
      exact new
  · intro index other first second found found' socket playerId playerId' mine theirs
    rcases place index first found with old | ⟨last, own⟩ <;> rcases place other second found' with old' | ⟨last', own'⟩
    · exact joining.alone index other first second old old' socket playerId playerId' mine theirs
    · exact absurd (own'.symm.trans theirs) ((earlier index first socket playerId old mine).2 playerId')
    · exact absurd (own.symm.trans mine) ((earlier other second socket playerId' old' theirs).2 playerId)
    · exact last.trans last'.symm

/-- The operation a request has come to joins no socket but its own, which has joined nothing yet. -/
theorem Joining.free {p : Process} (joining : Joining p) {index : Nat} {thread : Thread} {op : Op}
    {next : Except Failure (Res op) → Request (Option Session)} (found : p.threads[index]? = some thread)
    (pending : thread.request = .step op next) {socket : Nat} {game : GameRef} (joined : op = .joinGame socket game) :
    (∃ playerId, thread.asked = .connect socket playerId) ∧ p.server.sockets[socket]?.map (·.gameId) = some none := by
  have pends := joining.pends thread (List.mem_of_getElem? found)
  have joining_ : joins op = true := by rw [joined]; rfl
  unfold Pends at pends
  rw [pending] at pends
  split at pends
  next other playerId asked =>
    obtain ⟨gameId, there, unjoined | ⟨rfl, ⟨⟨game', own⟩, _⟩ | ⟨unjoined, _⟩⟩⟩ := pends
    · rw [unjoined.1] at joining_
      cases joining_
    · rw [joined] at own
      cases own
      exact ⟨⟨playerId, asked⟩, there⟩
    · rw [unjoined] at joining_
      cases joining_
  next =>
    rw [pends.1] at joining_
    cases joining_

theorem Joining.advance {host : Host} {fails : Bool} {p : Process} {index : Nat} {thread : Thread} {op : Op}
    {next : Except Failure (Res op) → Request (Option Session)} (joining : Joining p)
    (found : p.threads[index]? = some thread) (pending : thread.request = .step op next) : Joining {
      server := (perform host fails op p.server).2
      threads := p.threads.set index { thread with
        stage := thread.stage.after op (perform host fails op p.server).1
        request := next (perform host fails op p.server).1 } } := by
  set later : Thread := { thread with
    stage := thread.stage.after op (perform host fails op p.server).1
    request := next (perform host fails op p.server).1 } with isLater
  have place : ∀ (other : Nat) (after : Thread), (p.threads.set index later)[other]? = some after →
      other = index ∧ after = later ∨ other ≠ index ∧ p.threads[other]? = some after := by
    intro other after there
    rw [List.getElem?_set] at there
    split at there
    next same =>
      split at there
      · exact .inl ⟨same.symm, (Option.some.inj there).symm⟩
      · cases there
    next apart => exact .inr ⟨fun same => apart same.symm, there⟩
  constructor
  · intro after member
    obtain ⟨other, there⟩ := List.mem_iff_getElem?.mp member
    have pends := joining.pends thread (List.mem_of_getElem? found)
    rcases place other after there with ⟨rfl, rfl⟩ | ⟨apart, before⟩
    · cases joined : joins op with
      | false =>
        unfold Pends at pends ⊢
        rw [pending] at pends
        rw [unjoined_sockets joined]
        change match thread.asked with
          | .connect socket _ => Joinable (p.server.sockets[socket]?.map (·.gameId)) socket later.request
          | _ => Unjoined later.request
        split at pends
        next socket playerId asked =>
          obtain ⟨gameId, there, unjoined | ⟨rfl, ⟨⟨game, own⟩, _⟩ | ⟨_, once⟩⟩⟩ := pends
          · exact ⟨gameId, there, .inl (unjoined.2 _)⟩
          · rw [own] at joined
            cases joined
          · exact ⟨none, there, .inr ⟨rfl, once _⟩⟩
        next => exact pends.2 _
      | true =>
        cases op with
        | joinGame socket game =>
          obtain ⟨⟨playerId, asked⟩, free⟩ := joining.free found pending rfl
          obtain ⟨entry, here, _⟩ := Option.map_eq_some_iff.mp free
          have unjoined : Unjoined later.request := by
            unfold Pends at pends
            rw [asked, pending] at pends
            obtain ⟨gameId, _, unjoined | ⟨_, ⟨_, after⟩ | ⟨other, _⟩⟩⟩ := pends
            · exact unjoined.2 _
            · exact after _
            · cases other
          have own : later.asked = .connect socket playerId := asked
          unfold Pends
          rw [own]
          refine ⟨some game.gameId, ?_, .inl unjoined⟩
          change (p.server.sockets.modify socket _)[socket]?.map _ = _
          rw [List.getElem?_modify, here]
          simp
        | _ => cases joined
    · have theirs := joining.pends after (List.mem_of_getElem? before)
      cases joined : joins op with
      | false =>
        rw [unjoined_sockets joined]
        exact theirs
      | true =>
        cases op with
        | joinGame socket game =>
          obtain ⟨⟨playerId, asked⟩, _⟩ := joining.free found pending rfl
          unfold Pends at theirs ⊢
          split at theirs
          next socket' playerId' asked' =>
            have different : socket ≠ socket' := by
              rintro rfl
              exact apart (joining.alone other index after thread before found socket playerId' playerId asked' asked)
            obtain ⟨gameId, there, rest⟩ := theirs
            refine ⟨gameId, ?_, rest⟩
            change (p.server.sockets.modify socket _)[socket']?.map _ = _
            rw [List.getElem?_modify, ← there]
            simp [different]
          next => exact theirs
        | _ => cases joined
  · intro first second one two there there' socket playerId playerId' mine theirs
    rcases place first one there with ⟨rfl, rfl⟩ | ⟨_, before⟩ <;> rcases place second two there' with ⟨rfl, rfl⟩ | ⟨_, before'⟩
    · rfl
    · exact joining.alone first second thread two found before' socket playerId playerId' mine theirs
    · exact joining.alone first second one thread before found socket playerId playerId' mine theirs
    · exact joining.alone first second one two before before' socket playerId playerId' mine theirs

theorem Joining.step {host : Host} {p : Process} (joining : Joining p) (turn : Turn) :
    Joining (Processes.step host p turn) := by
  cases turn with
  | advance index fails =>
    change Joining (Processes.advance host p index fails)
    unfold Processes.advance
    split
    next found => exact joining.advance found rfl
    next => exact joining
  | create params => exact joining.arrive (fun _ _ joined => joined) fun socket playerId same => nomatch same
  | remove sessionId => exact joining.arrive (fun _ _ joined => joined) fun socket playerId same => nomatch same
  | connect playerId =>
    refine joining.arrive (fun socket gameId joined => ?_) fun socket other same => ?_
    · obtain ⟨entry, there, own⟩ := Option.map_eq_some_iff.mp joined
      change (p.server.sockets ++ _)[socket]?.map _ = _
      rw [List.getElem?_append_left (List.getElem?_eq_some_iff.mp there).1, there]
      exact congrArg some own
    · cases same
      refine ⟨Nat.le_refl _, ?_⟩
      change (p.server.sockets ++ _)[p.server.sockets.length]?.map _ = _
      simp
  | _ => exact joining.play fun socket => play_sockets p.server (by intro playerId same; cases same) socket

/-! The server, and who has told it that they are ready. -/

structure Heard where
  life : Life
  /-- The sockets that have sent `player_ready` with true, in this life of the process. -/
  ready : List Nat

def isConnected (s : Server) (socket : Nat) : Bool :=
  match s.sockets[socket]? with
  | some entry => entry.connected
  | none => false

def hear (h : Heard) : Lifetimes.Event → List Nat
  | .restart _ => []
  | .turn (.playerReady socket true) =>
    if isConnected h.life.process.server socket then socket :: h.ready else h.ready
  | _ => h.ready

def step (host : Host) (h : Heard) (event : Lifetimes.Event) : Heard where
  life := Lifetimes.step host h.life event
  ready := hear h event

def begin (uuids : Nat → String) (clock : Nat → Nat → Nat) : Heard := { life := born uuids clock, ready := [] }

/-- The rows the event loads into memory. -/
def loading (life : Life) : Lifetimes.Event → List GameRow
  | .boot _ =>
    match life.boot with
    | .step (.initGameRows rows) _ => rows
    | _ => []
  | .turn (.advance index _) =>
    match life.process.threads[index]? with
    | some { request := .step (.initGameRows rows) _, .. } => rows
    | _ => []
  | _ => []

/-- No game is loaded that has not started and remembers a ready player. -/
def Fresh (h : Heard) (event : Lifetimes.Event) : Prop := Unready (loading h.life event)

instance (h : Heard) (event : Lifetimes.Event) : Decidable (Fresh h event) :=
  inferInstanceAs (Decidable (Unready (loading h.life event)))

/-- What a turn without requests can do to the games and to who is there. -/
inductive Change (s s' : Server) (ready ready' : List Nat) : Prop where
  | still (games : s'.memGames = s.memGames) (same : lineups s' = lineups s)
      (kept : ∀ gameId playerId, Registered s.memGames gameId → Here s ready gameId playerId →
        Here s' ready' gameId playerId)
  | flagged (ref : GameRef) (gameId playerId : String) (flag : Bool)
      (flagged : Flagged s s' ready ready' ref gameId playerId flag)

theorem act_lineups {s : Server} {address : Nat} {action : Action}
    (other : ∀ playerId ready, action ≠ .playerReady playerId ready) : lineups (act s address action) = lineups s := by
  unfold act
  split
  next => rfl
  next game found =>
    apply List.ext_getElem?
    intro position
    unfold lineups
    dsimp only
    rw [List.getElem?_map, List.getElem?_map, List.getElem?_set]
    split
    next same =>
      subst same
      rw [if_pos (List.getElem?_eq_some_iff.mp found).1, found]
      exact congrArg some (step_lineup other)
    next => rfl

theorem watch_lineups (s : Server) (admin : Nat) : lineups (watch s admin) = lineups s := by
  rw [lineups_eq, lineups_eq, watch_bares]

theorem play_change (h : Heard) (turn : Turn) :
    Change h.life.process.server (play h.life.process.server turn) h.ready (hear h (.turn turn)) := by
  set s := h.life.process.server with server
  have acts : ∀ address action, (∀ playerId ready, action ≠ .playerReady playerId ready) →
      Change s (act s address action) h.ready h.ready := by
    intro address action other
    refine .still ?_ (act_lineups other) fun gameId playerId _ here => ?_
    · rw [act_frame]
    · unfold Here
      rw [act_frame]
      exact here
  have nothing : Change s s h.ready h.ready := .still rfl rfl fun _ _ _ here => here
  cases turn with
  | create params => exact nothing
  | remove sessionId => exact nothing
  | advance thread fails => exact nothing
  | connect playerId =>
    refine .still rfl rfl fun gameId other _ ⟨socket, said, entry⟩ => ⟨socket, said, ?_⟩
    change (s.sockets ++ _)[socket]? = _
    rw [List.getElem?_append_left (List.getElem?_eq_some_iff.mp entry).1]
    exact entry
  | commit task fails =>
    change Change s (commit s task fails) h.ready h.ready
    unfold commit
    split
    next => exact nothing
    next => exact .still rfl rfl fun _ _ _ here => here
  | answer socket answer =>
    change Change s (actFrom s socket _) h.ready h.ready
    rcases actFrom_ways s socket fun _ => .answer answer with ⟨_, same⟩ | ⟨_, _, _, ⟨_, same⟩ | ⟨ref, _, same⟩⟩
    · rw [same]
      exact nothing
    · rw [same]
      exact nothing
    · rw [same]
      exact acts _ _ fun _ _ same => nomatch same
  | watch admin =>
    change Change s (watch s admin) h.ready h.ready
    refine .still ?_ (watch_lineups s admin) fun gameId playerId _ here => ?_
    · rw [watch_frame]
    · unfold Here
      rw [watch_frame]
      exact here
  | fire address handle => exact acts _ _ fun _ _ same => nomatch same
  | finish address pid ok => exact acts _ _ fun _ _ same => nomatch same
  | playerReady socket flag =>
    have more : ∀ other ∈ h.ready, other ∈ hear h (.turn (.playerReady socket flag)) := by
      intro other said
      cases flag with
      | false => exact said
      | true =>
        change other ∈ if isConnected s socket then socket :: h.ready else h.ready
        split
        · exact List.mem_cons_of_mem _ said
        · exact said
    have kept : ∀ gameId playerId, Here s h.ready gameId playerId →
        Here s (hear h (.turn (.playerReady socket flag))) gameId playerId :=
      fun gameId playerId ⟨other, said, entry⟩ => ⟨other, more other said, entry⟩
    change Change s (actFrom s socket _) h.ready _
    rcases actFrom_ways s socket fun playerId => .playerReady playerId flag with
      ⟨_, same⟩ | ⟨playerId, gameId, entry, ⟨_, same⟩ | ⟨ref, found, same⟩⟩
    · rw [same]
      exact .still rfl rfl fun gameId playerId _ here => kept gameId playerId here
    · rw [same]
      exact .still rfl rfl fun gameId playerId _ here => kept gameId playerId here
    · rw [same]
      have sockets : (act s ref.address (.playerReady playerId flag)).sockets = s.sockets := by rw [act_frame]
      refine .flagged ref gameId playerId flag ⟨found, by rw [act_frame], rfl, fun otherGame otherPlayer here _ => ?_, ?_⟩
      · unfold Here
        rw [sockets]
        exact kept otherGame otherPlayer here
      · rintro rfl
        refine ⟨socket, ?_, by rw [sockets]; exact entry⟩
        have connected : isConnected s socket = true := by
          unfold isConnected
          rw [entry]
        change socket ∈ if isConnected s socket then socket :: h.ready else h.ready
        rw [if_pos connected]
        exact List.mem_cons_self
  | disconnect socket =>
    change Change s (onDisconnect s socket) h.ready h.ready
    unfold onDisconnect
    -- Only the socket that hangs up is no longer there.
    have others : ∀ (sockets : List Socket) other entry, sockets[other]? = some entry → other ≠ socket →
        (sockets.modify socket fun entry => { entry with connected := false })[other]? = some entry := by
      intro sockets other entry there apart
      rw [List.getElem?_modify, there]
      simp [Ne.symm apart]
    rcases actFrom_ways s socket fun playerId => .playerReady playerId false with
      ⟨away, same⟩ | ⟨playerId, gameId, entry, ⟨unknown, same⟩ | ⟨ref, found, same⟩⟩
    · rw [same]
      refine .still rfl rfl fun gameId playerId _ ⟨other, said, there⟩ => ⟨other, said, others _ other _ there ?_⟩
      rintro rfl
      exact away playerId gameId there
    · rw [same]
      refine .still rfl rfl fun otherGame otherPlayer known ⟨other, said, there⟩ => ⟨other, said, others _ other _ there ?_⟩
      rintro rfl
      rw [entry] at there
      cases there
      exact unknown known
    · rw [same]
      have sockets : (act s ref.address (.playerReady playerId false)).sockets = s.sockets := by rw [act_frame]
      refine .flagged ref gameId playerId false ⟨found, by rw [act_frame], rfl, ?_, fun same => nomatch same⟩
      rintro otherGame otherPlayer ⟨other, said, there⟩ differs
      refine ⟨other, said, ?_⟩
      dsimp only
      rw [sockets]
      refine others _ other _ there ?_
      rintro rfl
      rw [entry] at there
      cases there
      rcases differs with wrong | wrong <;> exact wrong rfl

/-! What holds in every life. -/

structure Watched (h : Heard) : Prop where
  distinct : Distinct h.life.process.server.memGames
  attended : Attended h.life.process.server h.ready
  boot : Unjoined h.life.boot
  joining : Joining h.life.process

theorem Change.attended {s s' : Server} {ready ready' : List Nat} (change : Change s s' ready ready')
    (distinct : Distinct s.memGames) (attended : Attended s ready) : Attended s' ready' := by
  cases change with
  | still games same kept => exact attended.frame (fun ref member => games ▸ member) same kept
  | flagged ref gameId playerId flag flagged => exact flagged.attended distinct attended

theorem Change.memGames {s s' : Server} {ready ready' : List Nat} (change : Change s s' ready ready') :
    s'.memGames = s.memGames := by
  cases change with
  | still games same kept => exact games
  | flagged ref gameId playerId flag flagged => exact flagged.memGames

theorem hear_arrives {h : Heard} {turn : Turn} (arriving : arrives turn = true) : hear h (.turn turn) = h.ready := by
  cases turn <;> first | rfl | cases arriving

section
variable {host : Host} {h : Heard}

theorem Watched.boot_step {fails : Bool} (watched : Watched h) (fresh : Fresh h (.boot fails)) :
    Watched (step host h (.boot fails)) := by
  have boot := watched.boot
  change Watched { life := bootStep host h.life fails, ready := h.ready }
  unfold bootStep
  split
  next op next pending =>
    rw [pending] at boot
    have due : Due h.life.process.server op := by
      constructor
      · rintro rows rfl
        unfold Fresh loading at fresh
        simp only [pending] at fresh
        exact fresh
      · rintro socket game rfl
        cases boot.1
    refine ⟨perform_distinct watched.distinct, attended_perform due watched.attended, boot.2 _, ?_⟩
    refine watched.joining.play fun socket => ?_
    rw [unjoined_sockets boot.1]
  next => exact ⟨watched.distinct, watched.attended, watched.boot, watched.joining⟩

theorem attended_turn {turn : Turn} (watched : Watched h) (fresh : Fresh h (.turn turn)) :
    Distinct (Processes.step host h.life.process turn).server.memGames ∧
      Attended (Processes.step host h.life.process turn).server (hear h (.turn turn)) := by
  have change := play_change h turn
  have played : Distinct (play h.life.process.server turn).memGames := by
    rw [change.memGames]
    exact watched.distinct
  rcases step_cases host h.life.process turn with
    same | ⟨index, fails, thread, op, next, rfl, found, pending, same⟩ | ⟨asked, same⟩ | same
  · cases turn with
    | advance index fails =>
      rw [same]
      exact ⟨watched.distinct, watched.attended⟩
    | create params =>
      rw [same]
      exact ⟨watched.distinct, watched.attended⟩
    | remove sessionId =>
      rw [same]
      exact ⟨watched.distinct, watched.attended⟩
    | _ => exact ⟨played, change.attended watched.distinct watched.attended⟩
  · rw [same]
    refine ⟨perform_distinct watched.distinct, attended_perform ⟨?_, ?_⟩ watched.attended⟩
    · rintro rows rfl
      obtain ⟨asked, stage, request⟩ := thread
      have request_eq : request = .step (.initGameRows rows) next := pending
      subst request_eq
      unfold Fresh loading at fresh
      simp only [found] at fresh
      exact fresh
    · exact fun socket game joined => (watched.joining.free found pending joined).2
  · rw [same]
    exact ⟨played, change.attended watched.distinct watched.attended⟩
  · rw [same]
    exact ⟨played, change.attended watched.distinct watched.attended⟩

theorem watched_step {event : Lifetimes.Event} (fresh : Fresh h event) (watched : Watched h) :
    Watched (step host h event) := by
  cases event with
  | restart clock =>
    refine ⟨List.nodup_nil, (fun ref member => nomatch member), unjoined_initSessions, (fun thread member => nomatch member), ?_⟩
    exact fun index other first second found => nomatch found
  | boot fails => exact watched.boot_step fresh
  | turn turn =>
    change Watched { life := turnStep host h.life turn, ready := hear h (.turn turn) }
    unfold turnStep
    split
    next =>
      obtain ⟨distinct, attended⟩ := attended_turn watched fresh
      exact ⟨distinct, attended, watched.boot, watched.joining.step turn⟩
    next closed =>
      have arriving : arrives turn = true := by
        rw [Bool.or_eq_true, not_or] at closed
        simpa using closed.2
      rw [hear_arrives arriving]
      exact ⟨watched.distinct, watched.attended, watched.boot, watched.joining⟩

theorem watched_run {uuids : Nat → String} {clock : Nat → Nat → Nat} {events : List Lifetimes.Event}
    (fresh : Permitted (step host) Fresh (begin uuids clock) events) :
    Watched (run (step host) (begin uuids clock) events) := by
  refine run_invariant_of_permitted Watched (fun _ _ fresh watched => watched_step fresh watched) fresh ?_
  refine ⟨List.nodup_nil, (fun ref member => nomatch member), unjoined_initSessions, (fun thread member => nomatch member), ?_⟩
  exact fun index other first second found => nomatch found

end

/-! The moment a game starts. -/

/-- Both players of the game have a connected socket in it that has said they are ready. -/
def BothHere (s : Server) (ready : List Nat) (game : Game) : Prop :=
  ∃ blue red rest, game.players = blue :: red :: rest ∧ Here s ready game.gameId blue.playerId ∧
    Here s ready game.gameId red.playerId

/-- The game at the address has not started before, and has started after. -/
structure Starts (s s' : Server) (address : Nat) (game game' : LiveGame) : Prop where
  before : s.heap[address]? = some game
  never : game.game.startTime = none
  after : s'.heap[address]? = some game'
  now : game'.game.startTime ≠ none

section
variable {s s' : Server} {ready ready' : List Nat} {address : Nat} {game game' : LiveGame}

theorem Starts.absurd (starts : Starts s s' address game game')
    (kept : ∀ line, (lineups s)[address]? = some line → (lineups s')[address]? = some line) : False := by
  have line := kept (lineup game) (by unfold lineups; rw [List.getElem?_map, starts.before]; rfl)
  unfold lineups at line
  rw [List.getElem?_map, starts.after] at line
  have same : game'.game.startTime = game.game.startTime := congrArg (·.2.2) (Option.some.inj line)
  exact starts.now (same.trans starts.never)

theorem perform_line {host : Host} {fails : Bool} {op : Op} {line : String × List Player × Option Nat}
    (known : (lineups s)[address]? = some line) : (lineups (perform host fails op s).2)[address]? = some line := by
  by_cases loading : ∃ rows, op = .initGameRows rows
  · obtain ⟨rows, rfl⟩ := loading
    obtain ⟨born, heap, _⟩ := (initGameRows_loads host rows s).heap
    change (((Servers.initGameRows host rows s).2).heap.map lineup)[address]? = _
    rw [heap, List.map_append]
    exact (List.getElem?_append_left (List.getElem?_eq_some_iff.mp known).1).trans known
  · rw [perform_lineups fun rows same => loading ⟨rows, same⟩]
    exact known

theorem Flagged.starts {ref : GameRef} {gameId playerId : String} {flag : Bool}
    (flagged : Flagged s s' ready ready' ref gameId playerId flag) (attended : Attended s ready)
    (starts : Starts s s' address game game') : BothHere s' ready' game'.game := by
  obtain ⟨member, named⟩ := getGame_ok flagged.found
  obtain ⟨players, startTime, line, _⟩ := attended ref member
  unfold lineups at line
  rw [List.getElem?_map] at line
  obtain ⟨acted, known, same⟩ := Option.map_eq_some_iff.mp line
  have heap := flagged.line known
  by_cases here : ref.address = address
  · subst here
    have bound := (List.getElem?_eq_some_iff.mp known).1
    obtain rfl : acted = game := Option.some.inj (known.symm.trans starts.before)
    obtain rfl : (acted.playerReady playerId flag).1 = game' := by
      have after := starts.after
      rw [heap, List.getElem?_set_self bound] at after
      exact Option.some.inj after
    have attends := flagged.attends attended known starts.never
    have id : (acted.playerReady playerId flag).1.game.gameId = gameId := by
      have own : acted.game.gameId = ref.gameId := congrArg Prod.fst same
      exact (extends_playerReady acted playerId flag).alike.gameId.trans (own.trans named)
    rcases playerReady_lineup acted playerId flag with ⟨kept, _⟩ | ⟨_, _, _, kept | ⟨_, blue, red, rest, both, first, second⟩⟩
    · exact absurd (by rw [kept]; exact starts.never) starts.now
    · exact absurd (kept.trans starts.never) starts.now
    · refine ⟨blue, red, rest, both, ?_, ?_⟩
      · rw [id]
        exact (attends 0 blue (by rw [both]; rfl) first).2
      · rw [id]
        exact (attends 1 red (by rw [both]; rfl) second).2
  · refine (starts.absurd fun line known' => ?_).elim
    unfold lineups at known' ⊢
    rw [List.getElem?_map] at known' ⊢
    rw [heap, List.getElem?_set_ne here]
    exact known'

theorem Change.starts (change : Change s s' ready ready') (attended : Attended s ready)
    (starts : Starts s s' address game game') : BothHere s' ready' game'.game := by
  cases change with
  | still games same kept =>
    refine (starts.absurd fun line known => ?_).elim
    rw [same]
    exact known
  | flagged ref gameId playerId flag flagged => exact flagged.starts attended starts

end

theorem watched_starts {host : Host} {h : Heard} {event : Lifetimes.Event} {address : Nat} {game game' : LiveGame}
    (watched : Watched h)
    (starts : Starts h.life.process.server (step host h event).life.process.server address game game') :
    BothHere (step host h event).life.process.server (step host h event).ready game'.game := by
  cases event with
  | restart clock => cases starts.after
  | boot fails =>
    refine (starts.absurd fun line known => ?_).elim
    change (lineups (bootStep host h.life fails).process.server)[address]? = _
    unfold bootStep
    split
    next => exact perform_line known
    next => exact known
  | turn turn =>
    change BothHere (turnStep host h.life turn).process.server (hear h (.turn turn)) game'.game
    have starts : Starts h.life.process.server (turnStep host h.life turn).process.server address game game' := starts
    unfold turnStep at starts ⊢
    split at starts
    next open_ =>
      rw [if_pos open_]
      have change := play_change h turn
      rcases step_cases (h.life.host host) h.life.process turn with
        same | ⟨index, fails, thread, op, next, rfl, found, pending, same⟩ | ⟨asked, same⟩ | same
      · rw [same] at starts
        exact (starts.absurd fun _ known => known).elim
      · rw [same] at starts
        exact (starts.absurd fun _ known => perform_line known).elim
      · rw [same] at starts ⊢
        exact change.starts watched.attended starts
      · rw [same] at starts ⊢
        exact change.starts watched.attended starts
    next => exact (starts.absurd fun _ known => known).elim

/-- The server, and who is ready, after these events. -/
def lived (host : Host) (uuids : Nat → String) (clock : Nat → Nat → Nat) (events : List Lifetimes.Event) : Heard :=
  run (step host) (begin uuids clock) events

/-- Whenever a game starts, both players are there, in every run that loads no stale flag. -/
theorem both_present {host : Host} {uuids : Nat → String} {clock : Nat → Nat → Nat}
    {before after : List Lifetimes.Event} {event : Lifetimes.Event}
    (fresh : Permitted (step host) Fresh (begin uuids clock) (before ++ event :: after)) :
    ∀ address game game',
      Starts (lived host uuids clock before).life.process.server
        (lived host uuids clock (before ++ [event])).life.process.server address game game' →
      BothHere (lived host uuids clock (before ++ [event])).life.process.server
        (lived host uuids clock (before ++ [event])).ready game'.game := by
  intro address game game' starts
  unfold lived at starts ⊢
  rw [run_append] at starts ⊢
  exact watched_starts (watched_run (permitted_split fresh).1) starts

/-! A session of pete and kate. -/

def sampleClock (_ reading : Nat) : Nat := reading

def advances (thread operations : Nat) : List Lifetimes.Event := List.replicate operations (.turn (.advance thread false))

def sampleCreated : List Lifetimes.Event := [.boot false, .turn (.create sampleParams)] ++ advances 0 40

/-- A player connects, with the request at this place. -/
def sampleJoined (thread : Nat) (playerId : String) : List Lifetimes.Event :=
  .turn (.connect playerId) :: advances thread 4

/-- Both join, and pete is ready. -/
def oneReady : List Lifetimes.Event :=
  sampleCreated ++ sampleJoined 1 "pete" ++ sampleJoined 2 "kate" ++ [.turn (.playerReady 0 true)]

/-- pete is ready and his flag is saved. The server restarts, and kate joins. -/
def staleReady : List Lifetimes.Event :=
  sampleCreated ++ sampleJoined 1 "pete" ++
    [.turn (.playerReady 0 true), .turn (.commit 0 false), .restart sampleClock] ++
    List.replicate 30 (.boot false) ++ sampleJoined 0 "kate"

def sampleLived (events : List Lifetimes.Event) : Heard := lived sampleHost sampleStart.server.uuids sampleClock events

theorem starts_of_startTimes {s s' : Server} {address startTime : Nat}
    (before : s.heap[address]?.map (·.game.startTime) = some none)
    (after : s'.heap[address]?.map (·.game.startTime) = some (some startTime)) :
    ∃ game game', Starts s s' address game game' := by
  obtain ⟨game, there, never⟩ := Option.map_eq_some_iff.mp before
  obtain ⟨game', there', now⟩ := Option.map_eq_some_iff.mp after
  exact ⟨game, game', there, never, there', by rw [now]; simp⟩

/-- kate gets ready last, and the game starts with both. -/
theorem both_present_sample : ∃ game,
    (sampleLived (oneReady ++ [.turn (.playerReady 1 true)])).life.process.server.heap[0]? = some game ∧
      game.game.startTime ≠ none ∧
      BothHere (sampleLived (oneReady ++ [.turn (.playerReady 1 true)])).life.process.server
        (sampleLived (oneReady ++ [.turn (.playerReady 1 true)])).ready game.game := by
  have fresh : Permitted (step sampleHost) Fresh (begin sampleStart.server.uuids sampleClock)
      (oneReady ++ .turn (.playerReady 1 true) :: []) := by decide +kernel
  have before : (sampleLived oneReady).life.process.server.heap[0]?.map (·.game.startTime) = some none := by
    decide +kernel
  have after : (sampleLived (oneReady ++ [.turn (.playerReady 1 true)])).life.process.server.heap[0]?.map
      (·.game.startTime) = some (some 0) := by decide +kernel
  obtain ⟨game, game', starts⟩ := starts_of_startTimes before after
  refine ⟨game', starts.after, starts.now, ?_⟩
  unfold sampleLived at starts ⊢
  exact both_present fresh 0 game game' starts

/-- kate alone starts the game after the restart. -/
theorem staleFlag_starts : ∃ game game',
    Starts (sampleLived staleReady).life.process.server
        (sampleLived (staleReady ++ [.turn (.playerReady 0 true)])).life.process.server 0 game game' ∧
      (∃ player ∈ game'.game.players, player.playerId = "pete") ∧
      ∀ entry ∈ (sampleLived (staleReady ++ [.turn (.playerReady 0 true)])).life.process.server.sockets,
        entry.playerId = "kate" := by
  have before : (sampleLived staleReady).life.process.server.heap[0]?.map (·.game.startTime) = some none := by
    decide +kernel
  have after : (sampleLived (staleReady ++ [.turn (.playerReady 0 true)])).life.process.server.heap[0]?.map
      (·.game.startTime) = some (some 0) := by decide +kernel
  have players : (sampleLived (staleReady ++ [.turn (.playerReady 0 true)])).life.process.server.heap[0]?.map
      (fun game => game.game.players.map (·.playerId)) = some ["pete", "kate"] := by decide +kernel
  obtain ⟨game, game', starts⟩ := starts_of_startTimes before after
  rw [starts.after] at players
  have names : game'.game.players.map (·.playerId) = ["pete", "kate"] := Option.some.inj players
  refine ⟨game, game', starts, ?_, by decide +kernel⟩
  exact List.mem_map.mp (by rw [names]; exact List.mem_cons_self)

end DfStudy.Presence
