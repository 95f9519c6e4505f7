import DfStudy.Acquaintance
import DfStudy.GameCrew
import DfStudy.Ownership
import DfStudy.Presence
import DfStudy.Quiescence

/-! Sessions are apart. A game is played by the two participants of the session it was made for, its attacks are run against
that session's murmur, and only a participant's socket is ever in it. This is so in whatever order requests, crashes, timers
and writes follow each other, as long as no session is given an id that another one has had. -/

namespace DfStudy.Isolation
open Attacks Rounds Games GameFrames GameControl GameEffects Tables Servers MemGames ServerFrames Processes Ownership
open GameCrew Acquaintance Quiescence Support.Futures Support.Machine
open Lifetimes (Life born reached bootStep turnStep initSessions)
open Presence (sampleCreated sampleClock sampleJoined advances)
open Registry (otherParams sample_booted)

/-! What belongs to a session. `title` is the session an id is given to, `owner` the id of the session a game is made for. -/

/-- The command is run against the session's murmur, and is about one of its participants. -/
def Concerns (session : Session) : Command → Prop
  | .shadowmute grpcPort target _ => grpcPort = session.grpcPort ∧ target ∈ participants session
  | .spoof grpcPort user _ => grpcPort = session.grpcPort ∧ user ∈ participants session

section
variable (title : Nat → Option Session) (owner : String → Option Nat)

def Of (gameId : String) (session : Session) : Prop :=
  owner gameId = some session.sessionId ∧ title session.sessionId = some session

def RowOf (row : GameRow) : Prop := row.gameData.gameId = row.gameId ∧ ∃ session, Of title owner row.gameId session ∧
  row.sessionId = session.sessionId ∧ (playerIds row.gameData.players).Perm (participants session)

def AttackOf (attack : Attack) : Prop := ∃ session, Of title owner attack.gameId session ∧
  attack.sessionId = session.sessionId ∧ [attack.sourceUser, attack.targetUser].Perm (participants session)

def GameOf (game : LiveGame) : Prop := ∃ session, Of title owner game.game.gameId session ∧
  (playerIds game.game.players).Perm (participants session) ∧ Manned (playerIds game.game.players) (Concerns session) game

def TaskOf : Task → Prop
  | .saveGame gameId data => data.gameId = gameId ∧ ∃ session, Of title owner gameId session ∧
      (playerIds data.players).Perm (participants session)
  | .setCurrentGame _ _ => True

def SocketOf (socket : Socket) : Prop := ∀ gameId, socket.gameId = some gameId →
  ∃ session, Of title owner gameId session ∧ socket.playerId ∈ participants session

structure Isolated (s : Server) : Prop where
  rows : ∀ row ∈ s.db.games, RowOf title owner row
  attacks : ∀ attack ∈ s.db.attacks, AttackOf title owner attack
  games : ∀ game ∈ s.heap, GameOf title owner game
  tasks : ∀ task ∈ s.tasks, TaskOf title owner task
  fresh : ∀ index, owner (s.uuids index) = none
  injective : Function.Injective s.uuids

/-- What a request has been told is so. -/
structure Sound (known : Known) : Prop where
  session : ∀ session, known.session = some session → title session.sessionId = some session
  drawn : ∀ gameId ∈ known.drawn, ∃ session, known.session = some session ∧ owner gameId = some session.sessionId
  sessions : ∀ session ∈ known.sessions, title session.sessionId = some session
  rows : ∀ row ∈ known.rows, RowOf title owner row
  attacks : ∀ attack ∈ known.attacks, AttackOf title owner attack

/-- The sessions of the tables have their own ids. -/
def Titled (s : Server) : Prop := ∀ session ∈ s.db.sessions, title session.sessionId = some session

end

section
variable {title : Nat → Option Session} {owner owner' : String → Option Nat}

theorem Of.unique {gameId : String} {session other : Session} (of : Of title owner gameId session)
    (of' : Of title owner gameId other) : session = other := by
  have ids : session.sessionId = other.sessionId := Option.some.inj (of.1.symm.trans of'.1)
  have titles := of.2
  rw [ids, of'.2] at titles
  exact (Option.some.inj titles).symm

theorem Of.wider (wider : Wider owner owner') {gameId : String} {session : Session} (of : Of title owner gameId session) :
    Of title owner' gameId session := ⟨wider _ _ of.1, of.2⟩

theorem RowOf.wider (wider : Wider owner owner') {row : GameRow} (of : RowOf title owner row) : RowOf title owner' row := by
  obtain ⟨data, session, of, rest⟩ := of
  exact ⟨data, session, of.wider wider, rest⟩

theorem AttackOf.wider (wider : Wider owner owner') {attack : Attack} (of : AttackOf title owner attack) :
    AttackOf title owner' attack := by
  obtain ⟨session, of, rest⟩ := of
  exact ⟨session, of.wider wider, rest⟩

theorem GameOf.wider (wider : Wider owner owner') {game : LiveGame} (of : GameOf title owner game) :
    GameOf title owner' game := by
  obtain ⟨session, of, rest⟩ := of
  exact ⟨session, of.wider wider, rest⟩

theorem TaskOf.wider (wider : Wider owner owner') {task : Task} (of : TaskOf title owner task) : TaskOf title owner' task := by
  cases task with
  | saveGame gameId data =>
    obtain ⟨data, session, of, rest⟩ := of
    exact ⟨data, session, of.wider wider, rest⟩
  | setCurrentGame sessionId gameId => trivial

theorem SocketOf.wider (wider : Wider owner owner') {socket : Socket} (of : SocketOf title owner socket) :
    SocketOf title owner' socket := by
  intro gameId joined
  obtain ⟨session, of, rest⟩ := of gameId joined
  exact ⟨session, of.wider wider, rest⟩

theorem Sound.wider (wider : Wider owner owner') {known : Known} (sound : Sound title owner known) :
    Sound title owner' known where
  session := sound.session
  drawn gameId listed := by
    obtain ⟨session, acts, own⟩ := sound.drawn gameId listed
    exact ⟨session, acts, wider _ _ own⟩
  sessions := sound.sessions
  rows row listed := (sound.rows row listed).wider wider
  attacks attack listed := (sound.attacks attack listed).wider wider

/-- A request knows nothing yet. -/
theorem sound_nothing : Sound title owner {} where
  session _ same := nomatch same
  drawn _ listed := nomatch listed
  sessions _ listed := nomatch listed
  rows _ listed := nomatch listed
  attacks _ listed := nomatch listed

theorem Sound.draws {known : Known} (sound : Sound title owner known) {session : Session} {gameId : String}
    (draws : known.Draws session gameId) : Of title owner gameId session := by
  obtain ⟨other, acts, own⟩ := sound.drawn gameId draws.2
  have same : session = other := Option.some.inj (draws.1.symm.trans acts)
  exact ⟨same ▸ own, sound.session session draws.1⟩

/-! Games. -/

theorem TaskOf.forked {game : LiveGame} (of : GameOf title owner game) {known : Nat} {task : Task}
    (member : task ∈ forks game known) (ids : ∀ data, .saveGame game.game.gameId data = task → data.gameId = game.game.gameId) :
    TaskOf title owner task := by
  obtain ⟨session, of, perm, manned⟩ := of
  obtain ⟨effect, listed, forked⟩ := List.mem_filterMap.mp member
  have fitting := manned.effects effect (List.mem_of_mem_drop listed)
  cases effect with
  | saveGame data =>
    cases forked
    exact ⟨ids data rfl, session, of, fitting ▸ perm⟩
  | setCurrentGame sessionId gameId =>
    cases forked
    trivial
  | _ => cases forked

theorem GameOf.step {game : LiveGame} (of : GameOf title owner game) (action : Action) :
    GameOf title owner (Games.step game action) := by
  obtain ⟨session, of, perm, manned⟩ := of
  have after := manned.step action
  have alike := (extends_step game action).alike
  exact ⟨session, alike.gameId ▸ of, after.players ▸ perm, after.players ▸ after⟩

theorem gameOf_loaded {clock : Nat → Nat} {data : GameData} {game : LiveGame}
    (loaded : deserializeGame clock data = .ok game) {session : Session} (of : Of title owner data.gameId session)
    (perm : (playerIds data.players).Perm (participants session)) : GameOf title owner game := by
  have manned : Manned (playerIds data.players) (Concerns session) game := manned_loaded loaded rfl
  exact ⟨session, (loaded_game loaded).1 ▸ of, manned.players ▸ perm, manned.players ▸ manned⟩

theorem taskOf_act {s : Server} (isolated : Isolated title owner s) {address : Nat} {action : Action} :
    ∀ task ∈ (act s address action).tasks, TaskOf title owner task := by
  intro task member
  unfold act at member
  split at member
  next => exact isolated.tasks task member
  next game found =>
    rcases List.mem_append.mp member with old | new
    · exact isolated.tasks task old
    · have after := (isolated.games game (List.mem_of_getElem? found)).step action
      refine TaskOf.forked after new fun data same => ?_
      have alike := (extends_step game action).alike
      rcases forks_step game action task new with ⟨saved, own, kept, _⟩ | ⟨sessionId, gameId, other, _⟩
      · rw [← same] at own
        rw [(Task.saveGame.inj own).2]
        exact kept.trans alike.gameId.symm
      · rw [← same] at other
        cases other

theorem gameOf_act {s : Server} (isolated : Isolated title owner s) {address : Nat} {action : Action} :
    ∀ game ∈ (act s address action).heap, GameOf title owner game := by
  intro game member
  unfold act at member
  split at member
  next => exact isolated.games game member
  next before found =>
    rcases List.mem_or_eq_of_mem_set member with old | rfl
    · exact isolated.games game old
    · exact (isolated.games before (List.mem_of_getElem? found)).step action

/-- A listener changes neither the game nor its attacks. -/
theorem GameOf.on {game game' : LiveGame} (of : GameOf title owner game)
    (same : game' = { game with game := { game.game with cbMap := game'.game.cbMap } })
    (round : game'.game.cbMap.round = game.game.cbMap.round) : GameOf title owner game' := by
  obtain ⟨session, of, perm, manned⟩ := of
  rw [same] at round ⊢
  exact ⟨session, of, perm, manned.change rfl round rfl rfl⟩

theorem gameOf_modify {s : Server} {address : Nat} {change : LiveGame → LiveGame}
    (games : ∀ game ∈ s.heap, GameOf title owner game)
    (each : ∀ game, s.heap[address]? = some game → GameOf title owner game → GameOf title owner (change game)) :
    ∀ game ∈ (modifyGame s address change).heap, GameOf title owner game := by
  intro game' member
  obtain ⟨place, found⟩ := List.mem_iff_getElem?.mp member
  change (s.heap.modify address change)[place]? = _ at found
  rw [List.getElem?_modify] at found
  obtain ⟨game, there, rfl⟩ := Option.map_eq_some_iff.mp found
  have before := games game (List.mem_of_getElem? there)
  split
  next here =>
    subst here
    exact each game there before
  next => exact before

theorem gameOf_watch {s : Server} {admin : Nat} (games : ∀ game ∈ s.heap, GameOf title owner game) :
    ∀ game ∈ (watch s admin).heap, GameOf title owner game := by
  have folds : ∀ (refs : List GameRef) (s : Server), (∀ game ∈ s.heap, GameOf title owner game) →
      ∀ game ∈ (refs.foldl (fun s game => modifyGame s game.address (·.onState admin)) s).heap, GameOf title owner game := by
    intro refs
    induction refs with
    | nil => exact fun _ games => games
    | cons ref refs ih =>
      intro s games
      exact ih _ (gameOf_modify games fun game _ of => of.on rfl rfl)
  exact folds s.memGames s games

/-! Operations of requests. -/

variable {visitor : Option (Nat × String)} {known : Known} {s : Server} {op : Op} {host : Host} {fails : Bool}

theorem perform_attacks (host : Host) (fails : Bool) (op : Op) (s : Server) :
    (perform host fails op s).2.db.attacks.Sublist s.db.attacks ∨ ∃ attack attackId, op = .insertAttack attack ∧
      (perform host fails op s).2.db.attacks = s.db.attacks ++ [attack.row attackId] := by
  cases op with
  | insertAttack attack =>
    cases fails with
    | true => exact .inl (List.Sublist.refl _)
    | false => exact .inr ⟨attack, _, rfl, rfl⟩
  | deleteAttacks sessionId =>
    left
    cases fails with
    | true => exact List.Sublist.refl _
    | false => exact List.filter_sublist
  | insertSession params =>
    left
    change (statement fails s (s.db.insertSession params)).2.db.attacks.Sublist _
    rcases statement_cases fails s (s.db.insertSession params) with ⟨message, same⟩ | ⟨value, db, inserted, same⟩
    · rw [same]
    · rw [same, (insertSession_ok inserted).2]
  | insertMurmur murmur =>
    left
    change (statement fails s (s.db.insertMurmur murmur)).2.db.attacks.Sublist _
    rcases statement_cases fails s (s.db.insertMurmur murmur) with ⟨message, same⟩ | ⟨value, db, inserted, same⟩
    · rw [same]
    · rw [same, insertMurmur_ok inserted]
  | insertGame row =>
    left
    change (statement fails s (s.db.insertGame row)).2.db.attacks.Sublist _
    rcases statement_cases fails s (s.db.insertGame row) with ⟨message, same⟩ | ⟨value, db, inserted, same⟩
    · rw [same]
    · rw [same, (insertGame_ok inserted).2]
  | initGameRows rows =>
    left
    change (initGameRows host rows s).2.db.attacks.Sublist _
    rw [(initGameRows_loads host rows s).frame]
  | chainGames sessionId games =>
    left
    change (chainGames s sessionId games).db.attacks.Sublist _
    rw [chainGames_frame]
  | onRound attack grpcPort =>
    left
    change (onRound s attack grpcPort).db.attacks.Sublist _
    rw [onRound_frame]
  | _ => exact .inl (by cases fails <;> exact List.Sublist.refl _)

theorem rowOf_perform (isolated : Isolated title owner s) (sound : Sound title owner known)
    (permitted : known.permits visitor op) : ∀ row ∈ (perform host fails op s).2.db.games, RowOf title owner row := by
  intro row member
  rcases perform_games host fails op s with same | ⟨new, rfl, same⟩ | ⟨gameId, rfl, same⟩
  · rw [same] at member
    exact isolated.rows row member
  · rw [same] at member
    rcases List.mem_append.mp member with old | added
    · exact isolated.rows row old
    · obtain ⟨session, draws, own, data, perm⟩ := permitted
      rw [List.mem_singleton.mp added]
      exact ⟨data, session, sound.draws draws, own, perm⟩
  · rw [same] at member
    exact isolated.rows row (List.mem_filter.mp member).1

theorem attackOf_perform (isolated : Isolated title owner s) (sound : Sound title owner known)
    (permitted : known.permits visitor op) : ∀ attack ∈ (perform host fails op s).2.db.attacks, AttackOf title owner attack := by
  intro attack member
  rcases perform_attacks host fails op s with fewer | ⟨new, attackId, rfl, same⟩
  · exact isolated.attacks attack (fewer.subset member)
  · rw [same] at member
    rcases List.mem_append.mp member with old | added
    · exact isolated.attacks attack old
    · obtain ⟨session, draws, own, perm⟩ := permitted
      rw [List.mem_singleton.mp added]
      exact ⟨session, sound.draws draws, own, perm⟩

/-- A game is given attacks of its own only. -/
theorem gameOf_onRound (isolated : Isolated title owner s) (placed : Placed s) {attack : Attack} {grpcPort : Nat}
    (of : AttackOf title owner attack) {session : Session} (titled : title session.sessionId = some session)
    (own : session.sessionId = attack.sessionId) (port : session.grpcPort = grpcPort) :
    ∀ game ∈ (onRound s attack grpcPort).heap, GameOf title owner game := by
  obtain ⟨session', belongs, own', users⟩ := of
  have same : session = session' := by
    have titles := belongs.2
    rw [← own', ← own, titled] at titles
    exact Option.some.inj titles
  subst same
  unfold onRound
  split
  next => exact isolated.games
  next ref looked =>
    obtain ⟨member, named⟩ := getGame_ok looked
    obtain ⟨there, found, called⟩ := placed ref member
    apply gameOf_modify isolated.games
    intro game here before
    obtain rfl : there = game := Option.some.inj (found.symm.trans here)
    obtain ⟨other, of, perm, manned⟩ := before
    obtain rfl : other = session := of.unique (by rw [called, named]; exact belongs)
    refine ⟨other, of, perm, { manned with attacks := fun round port' attack' registered job listed => ?_ }⟩
    rcases List.mem_append.mp registered with old | new
    · exact manned.attacks round port' attack' old job listed
    · cases List.mem_singleton.mp new
      have about : attack.sourceUser ∈ participants other := users.subset List.mem_cons_self
      have listed : job ∈ (if round = attack.round then [(attack.mute grpcPort, some (attack.spoof grpcPort))] else []) ++
          if round = attack.round + 1 then [(attack.unmute grpcPort, none)] else [] := listed
      rcases List.mem_append.mp listed with muted | unmuted
      · split at muted
        next =>
          rw [List.mem_singleton.mp muted]
          refine ⟨⟨port.symm, about⟩, fun next same => ?_⟩
          cases same
          exact ⟨port.symm, about⟩
        next => cases muted
      · split at unmuted
        next =>
          rw [List.mem_singleton.mp unmuted]
          exact ⟨⟨port.symm, about⟩, nofun⟩
        next => cases unmuted

theorem gameOf_chainGames (games : ∀ game ∈ s.heap, GameOf title owner game) (sessionId : Nat) (refs : List GameRef) :
    ∀ game ∈ (chainGames s sessionId refs).heap, GameOf title owner game := by
  induction refs with
  | nil => exact games
  | cons curr refs ih =>
    cases refs with
    | nil => exact games
    | cons acc refs => exact gameOf_modify ih fun game _ of => of.on rfl rfl

/-- Games are loaded with the tasks they fork. -/
theorem loaded_initGameRows (isolated : Isolated title owner s) {rows : List GameRow}
    (of : ∀ row ∈ rows, RowOf title owner row) : (∀ game ∈ (initGameRows host rows s).2.heap, GameOf title owner game) ∧
      ∀ task ∈ (initGameRows host rows s).2.tasks, TaskOf title owner task := by
  refine initGames_keeps host (fun s => (∀ game ∈ s.heap, GameOf title owner game) ∧ ∀ task ∈ s.tasks, TaskOf title owner task)
    ?_ ⟨isolated.games, isolated.tasks⟩
  intro s data game member ⟨games, tasks⟩ loaded
  obtain ⟨row, sorted, rfl⟩ := List.mem_map.mp member
  obtain ⟨data, session, belongs, _, perm⟩ := of row ((List.perm_insertionSort _ rows).mem_iff.mp sorted)
  have new : GameOf title owner game := gameOf_loaded loaded (data ▸ belongs) perm
  refine ⟨List.forall_mem_append.mpr ⟨games, List.forall_mem_singleton.mpr new⟩, List.forall_mem_append.mpr ⟨tasks, ?_⟩⟩
  intro task forked
  refine TaskOf.forked new forked fun data same => ?_
  obtain ⟨named, saves⟩ := loaded_game loaded
  obtain ⟨saved, own, kept⟩ := saves task forked
  rw [← same] at own
  rw [(Task.saveGame.inj own).2, kept, named]

theorem gameOf_perform (isolated : Isolated title owner s) (sound : Sound title owner known) (placed : Placed s)
    (permitted : known.permits visitor op) : ∀ game ∈ (perform host fails op s).2.heap, GameOf title owner game := by
  cases op with
  | initGameRows rows =>
    exact (loaded_initGameRows isolated fun row listed => sound.rows row (permitted row listed)).1
  | chainGames sessionId games => exact gameOf_chainGames isolated.games sessionId games
  | onRound attack grpcPort =>
    obtain ⟨listed, session, read, own, port⟩ := permitted
    exact gameOf_onRound isolated placed (sound.attacks attack listed) (sound.sessions session read) own port
  | joinGame socket game => exact gameOf_modify isolated.games fun game _ of => of.on rfl rfl
  | randomUUID => exact isolated.games
  | removeMemGame game => exact isolated.games
  | _ =>
    rw [perform_frame host fails _ s rfl]
    exact isolated.games

theorem taskOf_perform (isolated : Isolated title owner s) (sound : Sound title owner known)
    (permitted : known.permits visitor op) : ∀ task ∈ (perform host fails op s).2.tasks, TaskOf title owner task := by
  rcases perform_tasks host fails op s with same | ⟨rows, rfl⟩
  · rw [same]
    exact isolated.tasks
  · exact (loaded_initGameRows isolated fun row listed => sound.rows row (permitted row listed)).2

/-- The player behind a socket that a request may let into a game. -/
def Behind (sockets : List Socket) (visitor : Option (Nat × String)) : Prop :=
  ∀ socket playerId, visitor = some (socket, playerId) → sockets[socket]?.map (·.playerId) = some playerId

theorem socketOf_perform (sockets : ∀ socket ∈ s.sockets, SocketOf title owner socket) (sound : Sound title owner known)
    (behind : Behind s.sockets visitor) (permitted : known.permits visitor op) :
    ∀ socket ∈ (perform host fails op s).2.sockets, SocketOf title owner socket := by
  cases op with
  | joinGame place game =>
    obtain ⟨playerId, same, row, listed, named, session, read, own, takes⟩ := permitted
    intro socket member
    obtain ⟨other, found⟩ := List.mem_iff_getElem?.mp member
    change (s.sockets.modify place _)[other]? = _ at found
    rw [List.getElem?_modify] at found
    obtain ⟨before, there, rfl⟩ := Option.map_eq_some_iff.mp found
    split
    next here =>
      subst here
      have player := behind place playerId same
      rw [there] at player
      intro gameId joined
      obtain rfl : game.gameId = gameId := Option.some.inj joined
      obtain ⟨_, session', belongs, own', _⟩ := sound.rows row listed
      have titles := sound.sessions session read
      rw [own, own', belongs.2] at titles
      obtain rfl := Option.some.inj titles
      refine ⟨session', named ▸ belongs, ?_⟩
      rw [← Option.some.inj player] at takes
      exact takes
    next => exact sockets before (List.mem_of_getElem? there)
  | _ =>
    rw [perform_sockets]
    · exact sockets
    · exact fun socket game same => nomatch same

theorem behind_modify {sockets : List Socket} (behind : Behind sockets visitor) (place : Nat) {change : Socket → Socket}
    (keeps : ∀ entry, (change entry).playerId = entry.playerId) : Behind (sockets.modify place change) visitor := by
  intro socket playerId same
  obtain ⟨entry, there, own⟩ := Option.map_eq_some_iff.mp (behind socket playerId same)
  rw [List.getElem?_modify, there]
  by_cases here : place = socket
  · simp [here, keeps, own]
  · simp [here, own]

theorem behind_perform (behind : Behind s.sockets visitor) : Behind (perform host fails op s).2.sockets visitor := by
  cases op with
  | joinGame place game => exact behind_modify behind place fun _ => rfl
  | _ =>
    rw [perform_sockets]
    · exact behind
    · exact fun socket game same => nomatch same

theorem perform_expected (known : Known) (host : Host) (fails : Bool) (op : Op) (s : Server) :
    known.expects op (perform host fails op s).1 := by
  cases answer : (perform host fails op s).1 with
  | error error => cases op <;> trivial
  | ok value =>
    cases op with
    | selectGames sessionId =>
      intro row member
      have listed := (selectGames_ok answer).mem_iff.mp member
      simpa using (List.mem_filter.mp listed).2
    | getGames gameIds =>
      change (gameIds.mapM (getGame s.memGames)).mapError _ = _ at answer
      cases result : gameIds.mapM (getGame s.memGames) with
      | error message =>
        rw [result] at answer
        cases answer
      | ok games =>
        rw [result] at answer
        cases answer
        exact (getGames_ok result).1
    | _ => trivial

/-- What the server answers is so. -/
theorem Sound.perform (isolated : Isolated title owner s) (sound : Sound title owner known) (titled : Titled title s)
    (titled' : Titled title (perform host fails op s).2) (other : op ≠ .randomUUID) (permitted : known.permits visitor op) :
    Sound title owner (known.after op (Servers.perform host fails op s).1) := by
  cases answer : (Servers.perform host fails op s).1 with
  | error error => cases op <;> exact sound
  | ok value =>
    cases op with
    | randomUUID => exact absurd rfl other
    | insertSession params =>
      have inserted : ({ params with sessionId := value } : Session) ∈ (Servers.perform host fails (.insertSession params) s).2.db.sessions := by
        change (statement fails s (s.db.insertSession params)).1 = _ at answer
        change _ ∈ (statement fails s (s.db.insertSession params)).2.db.sessions
        rcases statement_cases fails s (s.db.insertSession params) with ⟨message, same⟩ | ⟨sessionId, db, added, same⟩
        · rw [same] at answer
          cases answer
        · rw [same] at answer ⊢
          cases answer
          rw [(insertSession_ok added).2]
          simp
      have began : known.session = none := permitted
      refine { sound with session := fun session same => ?_, drawn := fun gameId listed => ?_ }
      · cases same
        exact titled' _ inserted
      · obtain ⟨session, acts, _⟩ := sound.drawn gameId listed
        rw [began] at acts
        cases acts
    | selectSessions =>
      refine { sound with sessions := fun session listed => titled session ?_ }
      cases fails with
      | true => cases answer
      | false =>
        cases answer
        exact listed
    | selectGames sessionId =>
      refine { sound with rows := fun row listed => isolated.rows row ?_ }
      exact (List.mem_filter.mp ((selectGames_ok answer).mem_iff.mp listed)).1
    | selectAttacks =>
      refine { sound with attacks := fun attack listed => isolated.attacks attack ?_ }
      cases fails with
      | true => cases answer
      | false =>
        cases answer
        exact (host.attackRows_perm _).mem_iff.mp listed
    | _ => exact sound

theorem Isolated.wider (wider : Wider owner owner') (fresh : ∀ index, owner' (s.uuids index) = none)
    (isolated : Isolated title owner s) : Isolated title owner' s where
  rows row member := (isolated.rows row member).wider wider
  attacks attack member := (isolated.attacks attack member).wider wider
  games game member := (isolated.games game member).wider wider
  tasks task member := (isolated.tasks task member).wider wider
  fresh := fresh
  injective := isolated.injective

/-- An id that is drawn belongs to the session the request acts for. -/
theorem isolated_draw (isolated : Isolated title owner s) (sound : Sound title owner known)
    (permitted : known.permits visitor .randomUUID) : ∃ owner', Wider owner owner' ∧
      Isolated title owner' (perform host fails .randomUUID s).2 ∧
      Sound title owner' (known.after .randomUUID (perform host fails .randomUUID s).1) := by
  obtain ⟨session, acts⟩ := Option.isSome_iff_exists.mp permitted
  have wider := wider_claim (isolated.fresh 0) session.sessionId
  refine ⟨claim owner (s.uuids 0) session.sessionId, wider, ?_, ?_⟩
  · exact {
      rows := fun row member => (isolated.rows row member).wider wider
      attacks := fun attack member => (isolated.attacks attack member).wider wider
      games := fun game member => (isolated.games game member).wider wider
      tasks := fun task member => (isolated.tasks task member).wider wider
      fresh := fun index => by
        have apart : s.uuids (index + 1) ≠ s.uuids 0 := fun same => by
          have impossible := isolated.injective same
          omega
        exact (if_neg apart).trans (isolated.fresh (index + 1))
      injective := fun first second same => Nat.succ.inj (isolated.injective same) }
  · refine { sound.wider wider with drawn := fun gameId listed => ?_ }
    rcases List.mem_cons.mp listed with rfl | old
    · exact ⟨session, acts, if_pos rfl⟩
    · exact (sound.wider wider).drawn gameId old

theorem isolated_perform (isolated : Isolated title owner s) (sound : Sound title owner known) (placed : Placed s)
    (titled : Titled title s) (titled' : Titled title (perform host fails op s).2) (permitted : known.permits visitor op) :
    ∃ owner', Wider owner owner' ∧ Isolated title owner' (perform host fails op s).2 ∧
      Sound title owner' (known.after op (perform host fails op s).1) := by
  by_cases draws : op = .randomUUID
  · subst draws
    exact isolated_draw isolated sound permitted
  · have uuids : (perform host fails op s).2.uuids = s.uuids := by
      rcases perform_uuids host fails op s with same | ⟨same, _⟩
      · exact same
      · exact absurd same draws
    refine ⟨owner, .refl owner, ?_, sound.perform isolated titled titled' draws permitted⟩
    exact {
      rows := rowOf_perform isolated sound permitted
      attacks := attackOf_perform isolated sound permitted
      games := gameOf_perform isolated sound placed permitted
      tasks := taskOf_perform isolated sound permitted
      fresh := by
        rw [uuids]
        exact isolated.fresh
      injective := by
        rw [uuids]
        exact isolated.injective }

/-! Play. -/

theorem Isolated.act (isolated : Isolated title owner s) (address : Nat) (action : Action) :
    Isolated title owner (act s address action) := by
  have games := @gameOf_act title owner s isolated address action
  have tasks := @taskOf_act title owner s isolated address action
  rw [act_frame] at games tasks ⊢
  exact { isolated with games, tasks }

theorem Isolated.commit (isolated : Isolated title owner s) (index : Nat) (fails : Bool) :
    Isolated title owner (commit s index fails) := by
  unfold Processes.commit
  split
  next => exact isolated
  next task found =>
    have rest : ∀ task ∈ s.tasks.eraseIdx index, TaskOf title owner task := fun task member =>
      isolated.tasks task (List.mem_of_mem_eraseIdx member)
    cases fails with
    | true => exact { isolated with tasks := rest }
    | false =>
      refine { isolated with tasks := rest, rows := fun row member => ?_, attacks := fun attack member => ?_ }
      · obtain ⟨old, present, named, own, _, same | ⟨data, rfl, same⟩⟩ := commitTask_rows member
        · obtain ⟨kept, session, rest⟩ := isolated.rows old present
          refine ⟨?_, session, ?_⟩
          · rw [same, named, kept]
          · rw [same, named, own]
            exact rest
        · obtain ⟨_, session, belongs, mine, _⟩ := isolated.rows old present
          obtain ⟨kept, other, belongs', perm⟩ := isolated.tasks _ (List.mem_of_getElem? found)
          obtain rfl := belongs.unique belongs'
          refine ⟨?_, session, ?_, ?_, ?_⟩
          · rw [same, named]
            exact kept
          · rw [named]
            exact belongs
          · rw [own, mine]
          · rw [same]
            exact perm
      · cases task <;> exact isolated.attacks attack member

theorem isolated_played {s' : Server} (played : Played s s') (isolated : Isolated title owner s) : Isolated title owner s' := by
  cases played with
  | nothing => exact isolated
  | acted address action => exact isolated.act address action
  | sockets sockets => exact { isolated with }
  | hung address action sockets => exact { isolated.act address action with }
  | watched admin =>
    have games := @gameOf_watch title owner s admin isolated.games
    rw [watch_frame] at games ⊢
    exact { isolated with games }
  | committed index fails => exact isolated.commit index fails

/-- Players stay behind their sockets, and enter a game by a request only. -/
theorem socketOf_play (turn : Turn) (sockets : ∀ socket ∈ s.sockets, SocketOf title owner socket) :
    ∀ socket ∈ (play s turn).sockets, SocketOf title owner socket := by
  rw [play_socketsAfter]
  cases turn with
  | connect playerId =>
    refine List.forall_mem_append.mpr ⟨sockets, List.forall_mem_singleton.mpr fun gameId joined => ?_⟩
    cases joined
  | disconnect place =>
    intro socket member
    obtain ⟨other, found⟩ := List.mem_iff_getElem?.mp member
    change (s.sockets.modify place _)[other]? = _ at found
    rw [List.getElem?_modify] at found
    obtain ⟨before, there, rfl⟩ := Option.map_eq_some_iff.mp found
    have kept := sockets before (List.mem_of_getElem? there)
    split
    · exact kept
    · exact kept
  | _ => exact sockets

theorem behind_play (turn : Turn) (behind : Behind s.sockets visitor) : Behind (play s turn).sockets visitor := by
  rw [play_socketsAfter]
  cases turn with
  | connect other =>
    intro socket playerId same
    obtain ⟨entry, there, own⟩ := Option.map_eq_some_iff.mp (behind socket playerId same)
    change ((s.sockets ++ _)[socket]?).map _ = _
    rw [List.getElem?_append_left (List.getElem?_eq_some_iff.mp there).1, there]
    exact congrArg some own
  | disconnect place => exact behind_modify behind place fun _ => rfl
  | _ => exact behind

/-! Lives. -/

/-- A request that acts for a visitor, on what it has been told. -/
def Acting {α : Type} (title : Nat → Option Session) (owner : String → Option Nat) (sockets : List Socket)
    (visitor : Option (Nat × String)) (request : Request α) : Prop :=
  Behind sockets visitor ∧ ∃ known, Sound title owner known ∧ Follows (acquaintance visitor) (fun _ _ => True) known request

theorem Acting.wider {α : Type} {sockets : List Socket} {request : Request α} (wider : Wider owner owner')
    (acting : Acting title owner sockets visitor request) : Acting title owner' sockets visitor request := by
  obtain ⟨behind, known, sound, follows⟩ := acting
  exact ⟨behind, known, sound.wider wider, follows⟩

structure Apart (title : Nat → Option Session) (owner : String → Option Nat) (p : Process) : Prop where
  isolated : Isolated title owner p.server
  placed : Placed p.server
  sockets : ∀ socket ∈ p.server.sockets, SocketOf title owner socket
  threads : ∀ thread ∈ p.threads, Acting title owner p.server.sockets (visitorOf thread.asked) thread.request

/-- An operation of a request. Whatever else is pending still acts on what is so. -/
theorem Apart.perform {α : Type} {p : Process} (apart : Apart title owner p) (titled : Titled title p.server)
    (titled' : Titled title (perform host fails op p.server).2) {next : Except Failure (Res op) → Request α}
    (acting : Acting title owner p.server.sockets visitor (.step op next)) :
    ∃ owner', Wider owner owner' ∧ Apart title owner' { p with server := (Servers.perform host fails op p.server).2 } ∧
      Acting title owner' (Servers.perform host fails op p.server).2.sockets visitor
        (next (Servers.perform host fails op p.server).1) := by
  obtain ⟨behind, known, sound, follows⟩ := acting
  obtain ⟨owner', wider, isolated, after⟩ := isolated_perform apart.isolated sound apart.placed titled titled' follows.1
  refine ⟨owner', wider, ⟨isolated, perform_placed apart.placed, ?_, ?_⟩, behind_perform behind, _, after,
    follows.2 _ (perform_expected known host fails op p.server)⟩
  · exact fun socket member => (socketOf_perform apart.sockets sound behind follows.1 socket member).wider wider
  · intro thread member
    obtain ⟨theirs, rest⟩ := (apart.threads thread member).wider wider
    exact ⟨behind_perform theirs, rest⟩

theorem Apart.play {p : Process} (apart : Apart title owner p) (turn : Turn) :
    Apart title owner { p with server := Processes.play p.server turn } where
  isolated := isolated_played (played p.server turn) apart.isolated
  placed := placed_played apart.placed (played p.server turn)
  sockets := socketOf_play turn apart.sockets
  threads thread member := ⟨behind_play turn (apart.threads thread member).1, (apart.threads thread member).2⟩

theorem Apart.arrive {p : Process} (apart : Apart title owner p) {asked : Asked}
    (behind : Behind p.server.sockets (visitorOf asked)) : Apart title owner (arrive host p asked) where
  isolated := apart.isolated
  placed := apart.placed
  sockets := apart.sockets
  threads := List.forall_mem_append.mpr ⟨apart.threads,
    List.forall_mem_singleton.mpr ⟨behind, {}, sound_nothing, Acquaintance.follows_asked host asked⟩⟩

theorem Apart.step {p : Process} (apart : Apart title owner p) (turn : Turn) (titled : Titled title p.server)
    (titled' : Titled title (Processes.step host p turn).server) :
    ∃ owner', Wider owner owner' ∧ Apart title owner' (Processes.step host p turn) := by
  cases turn with
  | create params => exact ⟨owner, .refl owner, apart.arrive fun _ _ same => nomatch same⟩
  | remove sessionId => exact ⟨owner, .refl owner, apart.arrive fun _ _ same => nomatch same⟩
  | connect playerId =>
    refine ⟨owner, .refl owner, (apart.play (.connect playerId)).arrive fun socket other same => ?_⟩
    cases same
    change ((p.server.sockets ++ _)[p.server.sockets.length]?).map _ = _
    simp
  | advance index fails =>
    change Titled title (Processes.advance host p index fails).server at titled'
    change ∃ owner', Wider owner owner' ∧ Apart title owner' (Processes.advance host p index fails)
    unfold Processes.advance at titled' ⊢
    split at titled'
    next asked stage op next found =>
      have acting := apart.threads _ (List.mem_of_getElem? found)
      obtain ⟨owner', wider, after, own⟩ := apart.perform titled titled' acting
      refine ⟨owner', wider, after.isolated, after.placed, after.sockets, fun thread member => ?_⟩
      rcases List.mem_or_eq_of_mem_set member with old | rfl
      · exact after.threads thread old
      · exact own
    next => exact ⟨owner, .refl owner, apart⟩
  | _ => exact ⟨owner, .refl owner, apart.play _⟩

/-- A life, in which the sessions are being initialised or have been. -/
structure Separate (title : Nat → Option Session) (owner : String → Option Nat) (life : Life) : Prop where
  apart : Apart title owner life.process
  boot : Acting title owner life.process.server.sockets none life.boot

theorem acting_initSessions {sockets : List Socket} : Acting title owner sockets none initSessions :=
  ⟨(fun _ _ same => nomatch same), {}, sound_nothing, follows_initSessions⟩

theorem separate_born {uuids : Nat → String} (injective : Function.Injective uuids) (clock : Nat → Nat → Nat) :
    Separate title (fun _ => none) (born uuids clock) where
  apart := {
    isolated := {
      rows := fun _ member => nomatch member
      attacks := fun _ member => nomatch member
      games := fun _ member => nomatch member
      tasks := fun _ member => nomatch member
      fresh := fun _ => rfl
      injective := injective }
    placed := fun _ member => nomatch member
    sockets := fun _ member => nomatch member
    threads := fun _ member => nomatch member }
  boot := acting_initSessions

theorem Separate.step {life : Life} {event : Lifetimes.Event} (separate : Separate title owner life)
    (titled : Titled title life.process.server) (titled' : Titled title (Lifetimes.step host life event).process.server) :
    ∃ owner', Wider owner owner' ∧ Separate title owner' (Lifetimes.step host life event) := by
  obtain ⟨apart, boot⟩ := separate
  cases event with
  | restart clock =>
    refine ⟨owner, .refl owner, ⟨?_, ?_, ?_, ?_⟩, acting_initSessions⟩
    · exact { apart.isolated with
        games := fun _ member => nomatch member
        tasks := fun _ member => nomatch member }
    · exact fun _ member => nomatch member
    · exact fun _ member => nomatch member
    · exact fun _ member => nomatch member
  | boot fails =>
    change Titled title (bootStep host life fails).process.server at titled'
    change ∃ owner', Wider owner owner' ∧ Separate title owner' (bootStep host life fails)
    unfold bootStep at titled' ⊢
    split at titled'
    next op next pending =>
      rw [pending] at boot
      obtain ⟨owner', wider, after, rest⟩ := apart.perform titled titled' boot
      exact ⟨owner', wider, after, rest⟩
    next => exact ⟨owner, .refl owner, apart, boot⟩
  | turn turn =>
    change Titled title (turnStep host life turn).process.server at titled'
    change ∃ owner', Wider owner owner' ∧ Separate title owner' (turnStep host life turn)
    unfold turnStep at titled' ⊢
    by_cases goes : (life.listens || !Lifetimes.arrives turn) = true
    · rw [if_pos goes] at titled' ⊢
      obtain ⟨owner', wider, after⟩ := apart.step turn titled titled'
      exact ⟨owner', wider, after, fun _ _ same => (nomatch same), (boot.wider wider).2⟩
    · rw [if_neg goes]
      exact ⟨owner, .refl owner, apart, boot⟩

end

/-! Over all lives. -/

section
variable (host : Host) (uuids : Nat → String) (clock : Nat → Nat → Nat) (events : List Lifetimes.Event)

/-- The session has been in the table. -/
def Been (session : Session) : Prop :=
  ∃ count, session ∈ (reached host uuids clock (events.take count)).process.server.db.sessions

/-- No session is given an id that another one has had. -/
def Once : Prop := ∀ session other, Been host uuids clock events session → Been host uuids clock events other →
  session.sessionId = other.sessionId → session = other

end

/-- The games, by the sessions they are made for. -/
structure Parted (sessionOf : String → Option Session) (s : Server) : Prop where
  players : ∀ game ∈ s.heap, ∃ session, sessionOf game.game.gameId = some session ∧
    (playerIds game.game.players).Perm (participants session)
  commands : ∀ game ∈ s.heap, ∀ command next, .exec command next ∈ game.effects →
    ∃ session, sessionOf game.game.gameId = some session ∧ Concerns session command
  sockets : ∀ socket ∈ s.sockets, ∀ gameId, socket.gameId = some gameId →
    ∃ session, sessionOf gameId = some session ∧ socket.playerId ∈ participants session
  rows : ∀ row ∈ s.db.games, ∃ session, sessionOf row.gameId = some session ∧ session.sessionId = row.sessionId ∧
    (playerIds row.gameData.players).Perm (participants session)

section
variable {host : Host} {uuids : Nat → String} {clock : Nat → Nat → Nat} {events : List Lifetimes.Event}

theorem Apart.parted {title : Nat → Option Session} {owner : String → Option Nat} {p : Process}
    (apart : Apart title owner p) : Parted (fun gameId => (owner gameId).bind title) p.server := by
  have named : ∀ {gameId : String} {session : Session}, Of title owner gameId session →
      (owner gameId).bind title = some session := by
    intro gameId session of
    rw [of.1]
    exact of.2
  refine ⟨fun game member => ?_, fun game member command next ran => ?_, fun socket member gameId joined => ?_,
    fun row member => ?_⟩
  · obtain ⟨session, of, perm, _⟩ := apart.isolated.games game member
    exact ⟨session, named of, perm⟩
  · obtain ⟨session, of, _, manned⟩ := apart.isolated.games game member
    exact ⟨session, named of, manned.effects _ ran⟩
  · obtain ⟨session, of, takes⟩ := apart.sockets socket member gameId joined
    exact ⟨session, named of, takes⟩
  · obtain ⟨_, session, of, own, perm⟩ := apart.isolated.rows row member
    exact ⟨session, named of, own.symm, perm⟩

/-- Which session each id has been given to. -/
theorem Once.title (once : Once host uuids clock events) : ∃ title : Nat → Option Session,
    (∀ session, Been host uuids clock events session → title session.sessionId = some session) ∧
      ∀ sessionId session, title sessionId = some session → Been host uuids clock events session := by
  classical
  let given (sessionId : Nat) : Prop := ∃ session, Been host uuids clock events session ∧ session.sessionId = sessionId
  refine ⟨fun sessionId => if known : given sessionId then some known.choose else none, fun session been => ?_,
    fun sessionId session same => ?_⟩
  · have known : given session.sessionId := ⟨session, been, rfl⟩
    dsimp only
    rw [dif_pos known, once known.choose session known.choose_spec.1 been known.choose_spec.2]
  · dsimp only at same
    split at same
    next known =>
      rw [← Option.some.inj same]
      exact known.choose_spec.1
    next => cases same

theorem sessions_isolated (injective : Function.Injective uuids) (once : Once host uuids clock events) :
    ∃ sessionOf : String → Option Session,
      (∀ gameId session, sessionOf gameId = some session → Been host uuids clock events session) ∧
      Parted sessionOf (reached host uuids clock events).process.server := by
  obtain ⟨title, titles, been⟩ := once.title
  have titled : ∀ count, Titled title (reached host uuids clock (events.take count)).process.server :=
    fun count session member => titles session ⟨count, member⟩
  have permitted : Permitted (Lifetimes.step host) (fun life event => Titled title life.process.server ∧
      Titled title (Lifetimes.step host life event).process.server) (born uuids clock) events :=
    permitted_of_prefixes titled
  have separate : ∃ owner, Separate title owner (reached host uuids clock events) := by
    refine run_invariant_of_permitted (fun life => ∃ owner, Separate title owner life) ?_ permitted
      ⟨_, separate_born injective clock⟩
    rintro life event ⟨before, after⟩ ⟨owner, separate⟩
    obtain ⟨owner', _, separate⟩ := separate.step before after
    exact ⟨owner', separate⟩
  obtain ⟨owner, separate⟩ := separate
  refine ⟨_, fun gameId session same => ?_, separate.apart.parted⟩
  obtain ⟨sessionId, _, named⟩ := Option.bind_eq_some_iff.mp same
  exact been sessionId session named

end

/-! Two sessions at once, and two that follow each other. -/

/-- pete plays with kate, and anna with otto. -/
def sideBySide : List Lifetimes.Event :=
  sampleCreated ++ .turn (.create otherParams) :: advances 1 40 ++ sampleJoined 2 "pete" ++ sampleJoined 3 "anna"

def sampleReached (events : List Lifetimes.Event) : Life := reached sampleHost sampleStart.server.uuids sampleClock events

/-- Whom a socket is for, and the players of the game in memory that it has joined. -/
def table (s : Server) (socket : Socket) : String × List String :=
  (socket.playerId, (s.heap.filter fun game => some game.game.gameId = socket.gameId).flatMap fun game =>
    playerIds game.game.players)

theorem sessions_isolated_sample : ∃ sessionOf : String → Option Session,
    (∀ gameId session, sessionOf gameId = some session →
      Been sampleHost sampleStart.server.uuids sampleClock sideBySide session) ∧
    Parted sessionOf (sampleReached sideBySide).process.server ∧
    (sampleReached sideBySide).process.server.sockets.map (table (sampleReached sideBySide).process.server) =
      [("pete", ["pete", "kate"]), ("anna", ["anna", "otto"])] := by
  have only := @prefixes_of_permitted _ _ (Lifetimes.step sampleHost)
    (fun life => life.process.server.db.sessions ⊆
      [{ sampleParams with sessionId := 1 }, { otherParams with sessionId := 2 }])
    (born sampleStart.server.uuids sampleClock) sideBySide (by decide +kernel) (List.nil_subset _)
  have once : Once sampleHost sampleStart.server.uuids sampleClock sideBySide := by
    rintro session other ⟨first, member⟩ ⟨second, member'⟩ same
    have one := only first member
    have two := only second member'
    simp only [List.mem_cons, List.not_mem_nil, or_false] at one two
    rcases one with rfl | rfl <;> rcases two with rfl | rfl
    · rfl
    · cases same
    · cases same
    · rfl
  obtain ⟨sessionOf, been, parted⟩ := sessions_isolated sample_booted.injective once
  unfold sampleReached
  exact ⟨sessionOf, been, parted, by decide +kernel⟩

/-- pete's request has looked his session up. It is removed, and the next session is given its id. -/
def idReused : List Lifetimes.Event :=
  sampleCreated ++ .turn (.connect "pete") :: advances 1 1 ++ .turn (.remove 1) :: advances 2 20 ++
    .turn (.create otherParams) :: advances 3 40 ++ advances 1 3

/-- pete is in the game of anna and otto. -/
example : (sampleReached idReused).process.server.sockets.map
    (table (sampleReached idReused).process.server) = [("pete", ["anna", "otto"])] := by decide +kernel

end DfStudy.Isolation
