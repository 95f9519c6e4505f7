import DfStudy.GamePublication
import DfStudy.Quiescence

/-! The games an admin client shows: those that were in memory when it connected, each as its game has last told. -/

namespace DfStudy.AdminMirror
open Games GameFrames GameControl GamePublication LoadedGame Tables Servers MemGames ServerFrames Sessions Processes
open Presence Quiescence Support.Futures Support.Machine

/-! The admin client. -/

/-- The handler of 'init'. -/
def init (_ newGames : List GameData) : List GameData := newGames

/-- The handler of 'state'. -/
def onState (games : List GameData) (state : GameData) : List GameData :=
  let index := findIndex (·.gameId = state.gameId) games
  if index ≠ -1 then games.set index.toNat state else games ++ [state]

/-! What the server sends to it. -/

/-- `games.map(game => game.state())`. -/
def states (s : Server) : List GameData := s.memGames.filterMap fun ref => s.heap[ref.address]?.map (·.game.state)

/-- What the game at an address has sent a socket in a turn of the server. -/
def heardAt (socket : Nat) (s s' : Server) (address : Nat) : List GameData :=
  match s.heap[address]?, s'.heap[address]? with
  | some game, some game' => heard socket game game'
  | none, some game' => game'.effects.filterMap (emitted socket)
  | _, none => []

def sent (socket : Nat) (s s' : Server) : List GameData := (List.range s'.heap.length).flatMap (heardAt socket s s')

/-! The turns of the server that are turns of a game. -/

/-- The player of a connected socket, and the game it has joined. -/
def joined (s : Server) (socket : Nat) : Option (String × GameRef) :=
  match s.sockets[socket]? with
  | some { playerId, gameId := some gameId, connected := true } =>
    (getGame s.memGames gameId).toOption.map fun game => (playerId, game)
  | _ => none

def acting (s : Server) : Turn → Option (Nat × Action)
  | .playerReady socket readyFlag =>
    (joined s socket).map fun (playerId, game) => (game.address, .playerReady playerId readyFlag)
  | .answer socket answer => (joined s socket).map fun (_, game) => (game.address, .answer answer)
  | .disconnect socket => (joined s socket).map fun (playerId, game) => (game.address, .playerReady playerId false)
  | .fire address handle => some (address, .fire handle)
  | .finish address pid ok => some (address, .finish pid ok)
  | _ => none

/-- The server, and an admin client that has been delivered everything. -/
structure View where
  process : Process
  games : List GameData
  /-- The games that have changed since they last triggered 'state'. Nobody keeps them. -/
  untold : List Nat := []

def untoldAfter (s : Server) (turn : Turn) (untold : List Nat) : List Nat :=
  match acting s turn with
  | none => untold
  | some (address, action) =>
    match s.heap[address]? with
    | none => untold
    | some game =>
      if lags game action then address :: untold
      else if speaks game (Games.step game action) then untold.filter (· ≠ address)
      else untold

/-- The admin connects. -/
def connected (host : Host) (admin : Nat) (process : Process) : View where
  process := Processes.step host process (.watch admin)
  games := init [] (states process.server)

def receive (host : Host) (admin : Nat) (view : View) (turn : Turn) : View where
  process := Processes.step host view.process turn
  games := (sent admin view.process.server (Processes.step host view.process turn).server).foldl onState view.games
  untold := untoldAfter view.process.server turn view.untold

/-- The operation a request has come to loads games, or takes one out of memory. -/
def reshaping {α : Type} (s : Server) : Request α → Bool
  | .step (.initGameRows rows) _ => !rows.isEmpty
  | .step (.removeMemGame _) _ => !s.memGames.isEmpty
  | _ => false

def reshapes (process : Process) : Turn → Bool
  | .advance index _ => process.threads[index]?.any fun thread => reshaping process.server thread.request
  | _ => false

/-! What is to hold. -/

structure Shows (data : GameData) (game : Game) : Prop where
  players : data.players = game.players
  rounds : data.rounds = game.state.rounds
  currentRound : data.currentRound = game.currentRound
  startTime : data.startTime = game.startTime
  endTime : data.endTime = game.endTime

/-- One entry for each game in memory, as the game is, and no other. -/
structure Mirrors (s : Server) (games : List GameData) : Prop where
  entries : (games.map (·.gameId)).Perm (s.memGames.map (·.gameId))
  single : (games.map (·.gameId)).Nodup
  shows : ∀ ref ∈ s.memGames, ∃ game data, s.heap[ref.address]? = some game ∧ data ∈ games ∧ data.gameId = ref.gameId ∧
    Shows data game.game

/-! The client. -/

theorem onState_known {games : List GameData} {state : GameData} (known : state.gameId ∈ games.map (·.gameId)) :
    (onState games state).map (·.gameId) = games.map (·.gameId) ∧ state ∈ onState games state ∧
      ∀ data ∈ games, data.gameId ≠ state.gameId → data ∈ onState games state := by
  obtain ⟨old, member, equal⟩ := List.mem_map.mp known
  unfold onState findIndex
  cases search : games.findIdx? (·.gameId = state.gameId) with
  | none =>
    have missed := List.findIdx?_eq_none_iff.mp search old member
    simp [equal] at missed
  | some index =>
    obtain ⟨bound, found, -⟩ := List.findIdx?_eq_some_iff_getElem.mp search
    have here : games[index].gameId = state.gameId := by simpa using found
    have place : (index : Int) ≠ -1 := by omega
    dsimp only
    rw [if_pos place, Int.toNat_natCast]
    refine ⟨?_, List.mem_set bound state, fun data present apart => ?_⟩
    · apply List.ext_getElem?
      intro position
      rw [List.map_set, List.getElem?_set]
      by_cases equal : index = position
      · subst equal
        simp [bound, here]
      · rw [if_neg equal]
    · obtain ⟨position, there⟩ := List.mem_iff_getElem?.mp present
      refine List.mem_iff_getElem?.mpr ⟨position, ?_⟩
      rw [List.getElem?_set]
      split
      next same =>
        subst same
        rw [List.getElem?_eq_getElem bound] at there
        cases there
        exact absurd here apart
      next => exact there

/-- What one game tells leaves the entries of the others, and of its own the last. -/
theorem foldl_onState {games updates : List GameData} {gameId : String} (known : gameId ∈ games.map (·.gameId))
    (own : ∀ state ∈ updates, state.gameId = gameId) :
    (updates.foldl onState games).map (·.gameId) = games.map (·.gameId) ∧
      (∀ last, updates.getLast? = some last → last ∈ updates.foldl onState games) ∧
        ∀ data ∈ games, data.gameId ≠ gameId → data ∈ updates.foldl onState games := by
  induction updates using List.reverseRecOn with
  | nil => exact ⟨rfl, (fun last none => nomatch none), fun data member _ => member⟩
  | append_singleton updates state ih =>
    have mine : state.gameId = gameId := own state (List.mem_append_right _ (List.mem_singleton_self _))
    obtain ⟨ids, -, others⟩ := ih fun state member => own state (List.mem_append_left _ member)
    obtain ⟨ids', last, kept⟩ := @onState_known (updates.foldl onState games) state (by rw [ids, mine]; exact known)
    rw [List.foldl_append]
    refine ⟨ids'.trans ids, fun state' latest => ?_, fun data member apart => ?_⟩
    · rw [List.getLast?_concat] at latest
      cases latest
      exact last
    · exact kept data (others data member apart) (mine ▸ apart)

/-! Listeners that come and go around it. -/

/-- A game that has been given listeners, none of them for this socket. -/
structure Tuned (socket : Nat) (game game' : LiveGame) : Prop where
  same : bare game' = bare game
  wired : Wired game → Wired game'
  sockets : socket ∈ sockets game'.game ↔ socket ∈ sockets game.game

def Retuned (socket : Nat) (s s' : Server) : Prop :=
  ∀ address : Nat, Option.Rel (Tuned socket) s.heap[address]? s'.heap[address]?

section
variable {socket : Nat} {s s' s'' : Server}

theorem Tuned.refl (game : LiveGame) : Tuned socket game game := ⟨rfl, id, Iff.rfl⟩

theorem Tuned.trans {game game' game'' : LiveGame} (before : Tuned socket game game') (after : Tuned socket game' game'') :
    Tuned socket game game'' where
  same := after.same.trans before.same
  wired wired := after.wired (before.wired wired)
  sockets := after.sockets.trans before.sockets

theorem retuned_of_heap (same : s'.heap = s.heap) : Retuned socket s s' := by
  intro address
  rw [same]
  cases s.heap[address]? with
  | none => exact .none
  | some game => exact .some (Tuned.refl game)

theorem Retuned.trans (before : Retuned socket s s') (after : Retuned socket s' s'') : Retuned socket s s'' := by
  intro address
  have first := before address
  have second := after address
  generalize s.heap[address]? = one at first ⊢
  generalize s'.heap[address]? = two at first second
  generalize s''.heap[address]? = three at second ⊢
  cases first with
  | none => exact second
  | some tuned =>
    cases second with
    | some tuned' => exact .some (tuned.trans tuned')

theorem retuned_modify {address : Nat} {change : LiveGame → LiveGame} (each : ∀ game, Tuned socket game (change game)) :
    Retuned socket s (modifyGame s address change) := by
  intro place
  change Option.Rel _ _ (s.heap.modify address change)[place]?
  rw [List.getElem?_modify]
  cases s.heap[place]? with
  | none => exact .none
  | some game =>
    refine .some ?_
    split
    next => exact each game
    next => exact Tuned.refl game

theorem tuned_onState {other : Nat} (apart : other ≠ socket) (game : LiveGame) : Tuned socket game (game.onState other) where
  same := rfl
  wired wired := wired.onState other
  sockets := by
    unfold GamePublication.sockets LiveGame.onState LiveGame.on
    dsimp only
    rw [List.filterMap_append, List.mem_append]
    exact or_iff_left fun member => apart (List.mem_singleton.mp member).symm

theorem tuned_listen (listener : Listener) (game : LiveGame) : Tuned socket game (listen game listener) where
  same := by cases listener <;> rfl
  wired wired := wired_listen wired listener
  sockets := by cases listener <;> exact Iff.rfl

theorem retuned_watch {other : Nat} (apart : other ≠ socket) (s : Server) : Retuned socket s (watch s other) := by
  have folds : ∀ (games : List GameRef) (s : Server),
      Retuned socket s (games.foldl (fun s game => modifyGame s game.address (·.onState other)) s) := by
    intro games
    induction games with
    | nil => exact fun s => retuned_of_heap rfl
    | cons game games ih => exact fun s => (retuned_modify (tuned_onState apart)).trans (ih _)
  exact folds s.memGames s

theorem retuned_chainGames (s : Server) (sessionId : Nat) (games : List GameRef) :
    Retuned socket s (chainGames s sessionId games) := by
  induction games with
  | nil => exact retuned_of_heap rfl
  | cons curr games ih =>
    cases games with
    | nil => exact retuned_of_heap rfl
    | cons acc games =>
      exact ih.trans (retuned_modify fun game => tuned_listen (.chained sessionId acc.gameId) game)

/-- An operation that neither loads games nor makes the socket join one. -/
theorem perform_retunes {host : Host} {fails : Bool} {op : Op} (unloaded : ∀ rows, op ≠ .initGameRows rows)
    (unjoined : ∀ game, op ≠ .joinGame socket game) : Retuned socket s (perform host fails op s).2 := by
  cases op with
  | initGameRows rows => exact absurd rfl (unloaded rows)
  | chainGames sessionId games => exact retuned_chainGames s sessionId games
  | onRound attack grpcPort =>
    change Retuned socket s (onRound s attack grpcPort)
    unfold onRound
    split
    next => exact retuned_of_heap rfl
    next => exact retuned_modify fun game => tuned_listen (.scheduled grpcPort attack) game
  | joinGame other game =>
    have apart : other ≠ socket := by
      rintro rfl
      exact unjoined game rfl
    exact retuned_modify (tuned_onState apart)
  | randomUUID => exact retuned_of_heap rfl
  | removeMemGame game => exact retuned_of_heap rfl
  | _ => exact retuned_of_heap (by rw [perform_frame host fails _ s rfl])

/-! Which games have all the listeners of their constructor, in every life of the server. -/

theorem Retuned.wired (retuned : Retuned socket s s') (wired : ∀ game ∈ s.heap, Wired game) :
    ∀ game ∈ s'.heap, Wired game := by
  intro game' member
  obtain ⟨address, found⟩ := List.mem_iff_getElem?.mp member
  have there := retuned address
  rw [found] at there
  cases here : s.heap[address]? with
  | none =>
    rw [here] at there
    cases there
  | some game =>
    rw [here] at there
    cases there with
    | some tuned => exact tuned.wired (wired game (List.mem_of_getElem? here))

theorem wired_act (wired : ∀ game ∈ s.heap, Wired game) (address : Nat) (action : Action) :
    ∀ game ∈ (act s address action).heap, Wired game := by
  intro game' member
  obtain ⟨place, found⟩ := List.mem_iff_getElem?.mp member
  rw [act_heap] at found
  split at found
  next =>
    obtain ⟨game, there, rfl⟩ := Option.map_eq_some_iff.mp found
    exact wired_step (wired game (List.mem_of_getElem? there)) action
  next => exact wired game' (List.mem_of_getElem? found)

theorem wired_moved (moved : Lifetimes.Moved s s') (wired : ∀ game ∈ s.heap, Wired game) : ∀ game ∈ s'.heap, Wired game := by
  cases moved with
  | nothing => exact wired
  | crash => exact fun _ member => nomatch member
  | operation host fails op =>
    by_cases loads : ∃ rows, op = .initGameRows rows
    · obtain ⟨rows, rfl⟩ := loads
      change ∀ game ∈ (initGameRows host rows s).2.heap, Wired game
      unfold initGameRows
      refine initGames_keeps host (fun s => ∀ game ∈ s.heap, Wired game) ?_ wired
      intro s data loaded _ wired created game member
      rcases List.mem_append.mp member with old | new
      · exact wired game old
      · rw [List.mem_singleton.mp new]
        exact wired_loaded created
    · have unloaded : ∀ rows, op ≠ .initGameRows rows := fun rows same => loads ⟨rows, same⟩
      by_cases joins : ∃ other game, op = .joinGame other game
      · obtain ⟨other, game, rfl⟩ := joins
        have retuned := @perform_retunes (other + 1) s host fails (.joinGame other game) unloaded (by
          intro game' same
          cases same)
        exact retuned.wired wired
      · have retuned := @perform_retunes 0 s host fails op unloaded fun game same => joins ⟨0, game, same⟩
        exact retuned.wired wired
  | play played =>
    cases played with
    | nothing => exact wired
    | acted address action => exact wired_act wired address action
    | sockets sockets => exact wired
    | hung address action sockets => exact wired_act wired address action
    | watched admin => exact (retuned_watch (Nat.succ_ne_self admin).symm s).wired wired
    | committed index fails =>
      unfold commit
      split
      next => exact wired
      next => exact wired

theorem placed_moved (moved : Lifetimes.Moved s s') (placed : Placed s) : Placed s' := by
  cases moved with
  | nothing => exact placed
  | crash => exact fun _ member => nomatch member
  | operation host fails op => exact perform_placed placed
  | play played => exact placed_played placed played

end

/-- The requests of a life join sockets of their own. -/
theorem joining_reached (host : Host) (uuids : Nat → String) (clock : Nat → Nat → Nat) (events : List Lifetimes.Event) :
    Joining (Lifetimes.reached host uuids clock events).process := by
  have none : ∀ server : Server, Joining { server } := fun server =>
    ⟨(fun _ member => nomatch member), fun _ _ _ _ found => nomatch found⟩
  have each : ∀ life event, Unjoined life.boot ∧ Joining life.process →
      Unjoined (Lifetimes.step host life event).boot ∧ Joining (Lifetimes.step host life event).process := by
    intro life event ⟨unjoined, joining⟩
    cases event with
    | restart clock => exact ⟨unjoined_initSessions, none _⟩
    | turn turn =>
      change Unjoined (Lifetimes.turnStep host life turn).boot ∧ Joining (Lifetimes.turnStep host life turn).process
      unfold Lifetimes.turnStep
      split
      next => exact ⟨unjoined, joining.step turn⟩
      next => exact ⟨unjoined, joining⟩
    | boot fails =>
      change Unjoined (Lifetimes.bootStep host life fails).boot ∧ Joining (Lifetimes.bootStep host life fails).process
      unfold Lifetimes.bootStep
      split
      next op next pending =>
        rw [pending] at unjoined
        refine ⟨unjoined.2 _, joining.play fun socket => ?_⟩
        rw [unjoined_sockets unjoined.1]
      next => exact ⟨unjoined, joining⟩
  have start : Unjoined (Lifetimes.born uuids clock).boot ∧ Joining (Lifetimes.born uuids clock).process :=
    ⟨unjoined_initSessions, none _⟩
  exact (run_invariant (fun life : Lifetimes.Life => Unjoined life.boot ∧ Joining life.process) each events start).2

/-! One turn. -/

theorem actFrom_joined (s : Server) (socket : Nat) (action : String → Action) : actFrom s socket action =
    match joined s socket with
    | none => s
    | some (playerId, game) => act s game.address (action playerId) := by
  unfold actFrom joined
  cases s.sockets[socket]? with
  | none => rfl
  | some entry =>
    obtain ⟨playerId, gameId, connected⟩ := entry
    cases gameId with
    | none => rfl
    | some gameId =>
      cases connected with
      | false => rfl
      | true =>
        dsimp only
        cases getGame s.memGames gameId <;> rfl

/-- A turn of the server is one of a game, or leaves the games to themselves. -/
theorem play_acting {s : Server} {turn : Turn} {admin : Nat} (other : turn ≠ .watch admin) :
    (∃ address action, acting s turn = some (address, action) ∧ (∀ socket, action ≠ .onState socket) ∧
        (play s turn).heap = (act s address action).heap) ∨
      acting s turn = none ∧ Retuned admin s (play s turn) := by
  have joins : ∀ (socket : Nat) (action : String → Action), (∀ playerId socket, action playerId ≠ .onState socket) →
      (∃ address acted, (joined s socket).map (fun (playerId, game) => (game.address, action playerId)) = some (address, acted) ∧
          (∀ socket, acted ≠ .onState socket) ∧ (actFrom s socket action).heap = (act s address acted).heap) ∨
        (joined s socket).map (fun (playerId, game) => (game.address, action playerId)) = none ∧
          (actFrom s socket action).heap = s.heap := by
    intro socket action kind
    rw [actFrom_joined]
    cases joined s socket with
    | none => exact .inr ⟨rfl, rfl⟩
    | some entry => exact .inl ⟨_, _, rfl, kind entry.1, rfl⟩
  cases turn with
  | playerReady socket readyFlag =>
    exact (joins socket (fun playerId => .playerReady playerId readyFlag) fun _ _ => nofun).imp_right fun ⟨absent, same⟩ =>
      ⟨absent, retuned_of_heap same⟩
  | answer socket answer =>
    exact (joins socket (fun _ => .answer answer) fun _ _ => nofun).imp_right fun ⟨absent, same⟩ =>
      ⟨absent, retuned_of_heap same⟩
  | disconnect socket =>
    exact (joins socket (fun playerId => .playerReady playerId false) fun _ _ => nofun).imp_right fun ⟨absent, same⟩ =>
      ⟨absent, retuned_of_heap same⟩
  | fire address handle => exact .inl ⟨address, .fire handle, rfl, fun _ => nofun, rfl⟩
  | finish address pid ok => exact .inl ⟨address, .finish pid ok, rfl, fun _ => nofun, rfl⟩
  | watch socket =>
    have apart : socket ≠ admin := by
      rintro rfl
      exact other rfl
    exact .inr ⟨rfl, retuned_watch apart s⟩
  | commit task fails =>
    refine .inr ⟨rfl, retuned_of_heap ?_⟩
    change (commit s task fails).heap = _
    unfold commit
    split <;> rfl
  | connect playerId => exact .inr ⟨rfl, retuned_of_heap rfl⟩
  | create params => exact .inr ⟨rfl, retuned_of_heap rfl⟩
  | remove sessionId => exact .inr ⟨rfl, retuned_of_heap rfl⟩
  | advance index fails => exact .inr ⟨rfl, retuned_of_heap rfl⟩

section
variable {host : Host} {admin : Nat} {p : Process} {turn : Turn}

theorem removeMemGame_none (game : GameRef) : removeMemGame [] game = [] :=
  List.sublist_nil.mp removeMemGame_sublist

theorem advance_retunes {index : Nat} {fails : Bool} (joining : Joining p) (steady : reshapes p (.advance index fails) = false)
    (apart : p.server.sockets.length ≤ admin) :
    (Processes.advance host p index fails).server.memGames = p.server.memGames ∧
      Retuned admin p.server (Processes.advance host p index fails).server := by
  unfold Processes.advance
  split
  next asked stage op next found =>
    have still : reshaping p.server (.step op next) = false := by
      change (p.threads[index]?.any fun thread => reshaping p.server thread.request) = false at steady
      rw [found] at steady
      exact steady
    have unjoined : ∀ game, op ≠ .joinGame admin game := by
      intro game same
      obtain ⟨-, there⟩ := joining.free found rfl same
      obtain ⟨entry, present, -⟩ := Option.map_eq_some_iff.mp there
      have bound := (List.getElem?_eq_some_iff.mp present).1
      omega
    by_cases loads : ∃ rows, op = .initGameRows rows
    · obtain ⟨rows, rfl⟩ := loads
      have none : rows = [] := by
        unfold reshaping at still
        simpa using still
      subst none
      exact ⟨rfl, retuned_of_heap rfl⟩
    · have unloaded : ∀ rows, op ≠ .initGameRows rows := fun rows same => loads ⟨rows, same⟩
      refine ⟨?_, perform_retunes unloaded unjoined⟩
      rcases @perform_memGames host fails op p.server with same | loading | ⟨game, rfl, same⟩
      · exact same
      · exact absurd loading loads
      · have empty : p.server.memGames = [] := by
          unfold reshaping at still
          simpa using still
        change (Servers.perform host fails (.removeMemGame game) p.server).2.memGames = _
        rw [same, empty, removeMemGame_none]
  next => exact ⟨rfl, retuned_of_heap rfl⟩

theorem step_acting (joining : Joining p) (other : turn ≠ .watch admin) (steady : reshapes p turn = false)
    (apart : p.server.sockets.length ≤ admin) :
    (Processes.step host p turn).server.memGames = p.server.memGames ∧
      ((∃ address action, acting p.server turn = some (address, action) ∧ (∀ socket, action ≠ .onState socket) ∧
          (Processes.step host p turn).server.heap = (act p.server address action).heap) ∨
        acting p.server turn = none ∧ Retuned admin p.server (Processes.step host p turn).server) := by
  have plays := @play_acting p.server turn admin other
  have frame := (played p.server turn).frame.1
  cases turn with
  | advance index fails =>
    obtain ⟨memGames, retuned⟩ := @advance_retunes host admin p index fails joining steady apart
    exact ⟨memGames, .inr ⟨rfl, retuned⟩⟩
  | _ => exact ⟨frame, plays⟩

end

/-! What is sent in one turn. -/

theorem flatMap_range_single {β : Type} {f : Nat → List β} {address : Nat} (only : ∀ other, other ≠ address → f other = [])
    (length : Nat) : (List.range length).flatMap f = if address < length then f address else [] := by
  induction length with
  | zero => rfl
  | succ length ih =>
    rw [List.range_succ, List.flatMap_append, ih, List.flatMap_singleton]
    rcases Nat.lt_trichotomy address length with below | rfl | above
    · rw [if_pos below, if_pos (Nat.lt_succ_of_lt below), only length (Nat.ne_of_gt below), List.append_nil]
    · rw [if_neg (Nat.lt_irrefl _), if_pos (Nat.lt_succ_self _), List.nil_append]
    · rw [if_neg (by omega), if_neg (by omega), only length (Nat.ne_of_lt above)]
      rfl

theorem heard_quiet {socket : Nat} {game game' : LiveGame} (same : game'.effects = game.effects) :
    heard socket game game' = [] := by
  unfold heard news
  rw [same, List.drop_length]
  rfl

section
variable {socket : Nat} {s s' : Server}

theorem sent_retuned (retuned : Retuned socket s s') : sent socket s s' = [] := by
  refine List.flatMap_eq_nil_iff.mpr fun address _ => ?_
  have there := retuned address
  unfold heardAt
  generalize s.heap[address]? = before at there
  generalize s'.heap[address]? = after at there
  cases there with
  | none => rfl
  | some tuned => exact heard_quiet (congrArg (·.effects) tuned.same)

theorem sent_act {address : Nat} {action : Action} (heap : s'.heap = (act s address action).heap) : sent socket s s' =
    match s.heap[address]? with
    | none => []
    | some game => heard socket game (Games.step game action) := by
  have each : ∀ other : Nat, s'.heap[other]? =
      if address = other then s.heap[other]?.map (Games.step · action) else s.heap[other]? := by
    intro other
    rw [heap, act_heap]
  have only : ∀ other, other ≠ address → heardAt socket s s' other = [] := by
    intro other apart
    unfold heardAt
    rw [each, if_neg fun same => apart same.symm]
    cases s.heap[other]? with
    | none => rfl
    | some game => exact heard_quiet rfl
  unfold sent
  rw [flatMap_range_single only]
  have here := each address
  rw [if_pos rfl] at here
  cases found : s.heap[address]? with
  | none =>
    rw [found] at here
    have beyond : ¬address < s'.heap.length := fun bound => by
      rw [List.getElem?_eq_getElem bound] at here
      cases here
    exact if_neg beyond
  | some game =>
    rw [found] at here
    rw [if_pos (List.getElem?_eq_some_iff.mp here).1]
    unfold heardAt
    rw [found, here]
    rfl

end

/-! The invariant. -/

structure Follows (admin : Nat) (view : View) : Prop where
  joining : Joining view.process
  placed : Placed view.process.server
  distinct : Distinct view.process.server.memGames
  wired : ∀ game ∈ view.process.server.heap, Wired game
  /-- The admin listens to the games in memory, and to no others. -/
  listening : ∀ (address : Nat) (game : LiveGame), view.process.server.heap[address]? = some game →
    (admin ∈ sockets game.game ↔ ∃ ref ∈ view.process.server.memGames, ref.address = address)
  entries : view.games.map (·.gameId) = view.process.server.memGames.map (·.gameId)
  shows : ∀ ref ∈ view.process.server.memGames, ∀ game, view.process.server.heap[ref.address]? = some game →
    ref.address ∈ view.untold ∨ ∃ data ∈ view.games, data.gameId = ref.gameId ∧ Shows data game.game

theorem shows_state (game : Game) : Shows game.state game := ⟨rfl, rfl, rfl, rfl, rfl⟩

theorem Shows.bare {data : GameData} {game game' : LiveGame} (shows : Shows data game.game) (same : bare game' = bare game) :
    Shows data game'.game where
  players := shows.players.trans (congrArg (·.game.players) same).symm
  rounds := shows.rounds.trans (congrArg (·.game.rounds.map Rounds.Round.json) same).symm
  currentRound := shows.currentRound.trans (congrArg (·.game.currentRound) same).symm
  startTime := shows.startTime.trans (congrArg (·.game.startTime) same).symm
  endTime := shows.endTime.trans (congrArg (·.game.endTime) same).symm

/-- Two games in memory are at two addresses. -/
theorem address_inj {s : Server} (placed : Placed s) (distinct : Distinct s.memGames) {ref other : GameRef}
    (member : ref ∈ s.memGames) (member' : other ∈ s.memGames) (same : ref.address = other.address) : ref = other := by
  obtain ⟨game, found, own⟩ := placed ref member
  obtain ⟨game', found', own'⟩ := placed other member'
  rw [same, found'] at found
  cases found
  exact distinct.eq member member' (own.symm.trans own')

theorem sockets_step {game : LiveGame} {action : Action} (kind : ∀ socket, action ≠ .onState socket) :
    sockets (Games.step game action).game = sockets game.game := by
  unfold sockets
  rw [step_cbMap]
  cases action with
  | onState socket => exact absurd rfl (kind socket)
  | _ => rfl

theorem untold_kept {s : Server} {turn : Turn} {untold : List Nat} {address other : Nat} {action : Action}
    (acts : acting s turn = some (address, action)) (apart : other ≠ address) (member : other ∈ untold) :
    other ∈ untoldAfter s turn untold := by
  unfold untoldAfter
  rw [acts]
  dsimp only
  split
  next => exact member
  next =>
    split
    next => exact List.mem_cons_of_mem _ member
    next =>
      split
      next => exact List.mem_filter.mpr ⟨member, decide_eq_true apart⟩
      next => exact member

theorem received {host : Host} (admin : Nat) {view : View} {turn : Turn} {address : Nat} {action : Action} {game : LiveGame}
    (heap : (Processes.step host view.process turn).server.heap = (act view.process.server address action).heap)
    (found : view.process.server.heap[address]? = some game) : (receive host admin view turn).games =
      (heard admin game (Games.step game action)).foldl onState view.games := by
  unfold receive
  dsimp only
  rw [sent_act heap, found]

section
variable {host : Host} {admin : Nat} {view : View} {turn : Turn} (follows : Follows admin view)
  (memGames : (Processes.step host view.process turn).server.memGames = view.process.server.memGames)
include follows memGames

/-- The games are left to themselves. -/
theorem Follows.quiet (retuned : Retuned admin view.process.server (Processes.step host view.process turn).server)
    (untold : untoldAfter view.process.server turn view.untold = view.untold) :
    Follows admin (receive host admin view turn) := by
  have games : (receive host admin view turn).games = view.games := by
    unfold receive
    dsimp only
    rw [sent_retuned retuned]
    rfl
  have before : ∀ (address : Nat) (game' : LiveGame),
      (Processes.step host view.process turn).server.heap[address]? = some game' →
        ∃ game, view.process.server.heap[address]? = some game ∧ Tuned admin game game' := by
    intro address game' found
    have there := retuned address
    rw [found] at there
    cases here : view.process.server.heap[address]? with
    | none =>
      rw [here] at there
      cases there
    | some game =>
      rw [here] at there
      cases there with
      | some tuned => exact ⟨game, rfl, tuned⟩
  constructor
  · exact follows.joining.step turn
  · exact placed_step follows.placed host turn
  · change Distinct (Processes.step host view.process turn).server.memGames
    rw [memGames]
    exact follows.distinct
  · exact retuned.wired follows.wired
  · intro address game' found
    obtain ⟨game, there, tuned⟩ := before address game' found
    change _ ↔ ∃ ref ∈ (Processes.step host view.process turn).server.memGames, _
    rw [memGames, tuned.sockets]
    exact follows.listening address game there
  · change (receive host admin view turn).games.map _ = (Processes.step host view.process turn).server.memGames.map _
    rw [games, memGames]
    exact follows.entries
  · intro ref member game' found
    change ref ∈ (Processes.step host view.process turn).server.memGames at member
    rw [memGames] at member
    obtain ⟨game, there, tuned⟩ := before ref.address game' found
    change ref.address ∈ untoldAfter view.process.server turn view.untold ∨ _
    rw [untold, games]
    exact (follows.shows ref member game there).imp_right fun ⟨data, listed, own, shows⟩ =>
      ⟨data, listed, own, shows.bare tuned.same⟩

section
variable {address : Nat} {action : Action} {game : LiveGame} (acts : acting view.process.server turn = some (address, action))
  (kind : ∀ socket, action ≠ .onState socket)
  (heap : (Processes.step host view.process turn).server.heap = (act view.process.server address action).heap)
  (found : view.process.server.heap[address]? = some game)
include acts kind heap found

omit memGames in
/-- A game in memory acts, and the admin hears of it. -/
theorem Follows.hears {ref : GameRef} (member : ref ∈ view.process.server.memGames) (place : ref.address = address) :
    (receive host admin view turn).games.map (·.gameId) = view.games.map (·.gameId) ∧
      (∀ data ∈ view.games, data.gameId ≠ ref.gameId → data ∈ (receive host admin view turn).games) ∧
        (address ∈ (receive host admin view turn).untold ∨ ∃ data ∈ (receive host admin view turn).games,
          data.gameId = ref.gameId ∧ Shows data (Games.step game action).game) := by
  subst place
  have wired := follows.wired game (List.mem_of_getElem? found)
  have listens := (follows.listening ref.address game found).mpr ⟨ref, member, rfl⟩
  have own : game.game.gameId = ref.gameId := by
    obtain ⟨game', found', own⟩ := follows.placed ref member
    rw [found] at found'
    cases found'
    exact own
  have known : ref.gameId ∈ view.games.map (·.gameId) := by
    rw [follows.entries]
    exact List.mem_map_of_mem member
  have mine : ∀ data ∈ heard admin game (Games.step game action), data.gameId = ref.gameId := fun data listed =>
    (heard_own wired kind admin data listed).1.trans own
  obtain ⟨ids, last, others⟩ := foldl_onState known mine
  have games := received admin heap found
  rw [games]
  refine ⟨ids, others, ?_⟩
  have untold : (receive host admin view turn).untold = untoldAfter view.process.server turn view.untold := rfl
  rw [untold]
  unfold untoldAfter
  rw [acts]
  dsimp only
  rw [found]
  dsimp only
  cases lagging : lags game action with
  | true => exact .inl List.mem_cons_self
  | false =>
    rw [if_neg Bool.false_ne_true]
    rcases heard_last wired kind listens lagging with told | ⟨same, silent, mute⟩
    · have id : (Games.step game action).game.state.gameId = ref.gameId := mine _ (List.mem_of_getLast? told)
      exact .inr ⟨_, last _ told, id, shows_state _⟩
    · rw [mute, if_neg Bool.false_ne_true, silent, same]
      exact follows.shows ref member game found

omit memGames acts in
/-- A game acts that is not in memory. -/
theorem Follows.ignores (unlisted : ∀ ref ∈ view.process.server.memGames, ref.address ≠ address) :
    (receive host admin view turn).games = view.games := by
  have wired := follows.wired game (List.mem_of_getElem? found)
  have silent : heard admin game (Games.step game action) = [] := by
    refine List.eq_nil_iff_forall_not_mem.mpr fun data listed => ?_
    obtain ⟨ref, member, place⟩ := (follows.listening address game found).mp (heard_own wired kind admin data listed).2
    exact unlisted ref member place
  rw [received admin heap found, silent]
  rfl

theorem Follows.acted : Follows admin (receive host admin view turn) := by
  have each : ∀ (other : Nat), (Processes.step host view.process turn).server.heap[other]? =
      if address = other then view.process.server.heap[other]?.map (Games.step · action)
      else view.process.server.heap[other]? := by
    intro other
    rw [heap, act_heap]
  -- of the games in memory only the one that has acted is to be told anew
  have told : (receive host admin view turn).games.map (·.gameId) = view.games.map (·.gameId) ∧
      ∀ ref ∈ view.process.server.memGames, ∀ game', (Processes.step host view.process turn).server.heap[ref.address]? = some game' →
        ref.address ∈ (receive host admin view turn).untold ∨ ∃ data ∈ (receive host admin view turn).games,
          data.gameId = ref.gameId ∧ Shows data game'.game := by
    by_cases listed : ∃ ref ∈ view.process.server.memGames, ref.address = address
    · obtain ⟨own, member, place⟩ := listed
      obtain ⟨ids, others, mine⟩ := follows.hears acts kind heap found member place
      refine ⟨ids, fun ref listed game' there => ?_⟩
      rw [each] at there
      split at there
      next same =>
        have ref_own : ref = own := address_inj follows.placed follows.distinct listed member (same.symm.trans place.symm)
        subst ref_own
        rw [place, found] at there
        cases there
        rw [place]
        exact mine
      next apart =>
        rcases follows.shows ref listed game' there with waiting | ⟨data, present, id, shows⟩
        · exact .inl (untold_kept acts (fun same => apart same.symm) waiting)
        · have different : ref.gameId ≠ own.gameId := by
            intro same
            have ref_own := follows.distinct.eq listed member same
            exact apart (by rw [ref_own, place])
          exact .inr ⟨data, others data present (id ▸ different), id, shows⟩
    · have unlisted : ∀ ref ∈ view.process.server.memGames, ref.address ≠ address :=
        fun ref member same => listed ⟨ref, member, same⟩
      have games := follows.ignores kind heap found unlisted
      rw [games]
      refine ⟨rfl, fun ref member game' there => ?_⟩
      have apart := unlisted ref member
      rw [each, if_neg fun same => apart same.symm] at there
      exact (follows.shows ref member game' there).imp_left fun waiting => untold_kept acts apart waiting
  constructor
  · exact follows.joining.step turn
  · exact placed_step follows.placed host turn
  · change Distinct (Processes.step host view.process turn).server.memGames
    rw [memGames]
    exact follows.distinct
  · change ∀ game ∈ (Processes.step host view.process turn).server.heap, Wired game
    rw [heap]
    exact wired_act follows.wired address action
  · intro other game' there
    change _ ↔ ∃ ref ∈ (Processes.step host view.process turn).server.memGames, _
    change (Processes.step host view.process turn).server.heap[other]? = some game' at there
    rw [each] at there
    rw [memGames]
    split at there
    next same =>
      subst same
      rw [found] at there
      cases there
      rw [sockets_step kind]
      exact follows.listening address game found
    next => exact follows.listening other game' there
  · change _ = (Processes.step host view.process turn).server.memGames.map _
    rw [memGames, told.1]
    exact follows.entries
  · intro ref member
    change ref ∈ (Processes.step host view.process turn).server.memGames at member
    rw [memGames] at member
    exact told.2 ref member

end

end

/-! From the connection on. -/

theorem Follows.receive {host : Host} {admin : Nat} {view : View} {turn : Turn} (follows : Follows admin view)
    (other : turn ≠ .watch admin) (steady : reshapes view.process turn = false)
    (apart : view.process.server.sockets.length ≤ admin) : Follows admin (receive host admin view turn) := by
  obtain ⟨memGames, ⟨address, action, acts, kind, heap⟩ | ⟨still, retuned⟩⟩ :=
    @step_acting host admin view.process turn follows.joining other steady apart
  · cases found : view.process.server.heap[address]? with
    | none =>
      have nobody : act view.process.server address action = view.process.server := by
        unfold act
        rw [found]
      refine follows.quiet memGames (retuned_of_heap (by rw [heap, nobody])) ?_
      unfold untoldAfter
      rw [acts]
      dsimp only
      rw [found]
    | some game => exact follows.acted memGames acts kind heap found
  · refine follows.quiet memGames retuned ?_
    unfold untoldAfter
    rw [still]

theorem sockets_step_le (host : Host) (p : Process) (turn : Turn) :
    p.server.sockets.length ≤ (Processes.step host p turn).server.sockets.length := by
  have plays : p.server.sockets.length ≤ (play p.server turn).sockets.length := by
    rw [play_socketsAfter]
    cases turn with
    | connect playerId =>
      change _ ≤ (p.server.sockets ++ [_]).length
      rw [List.length_append]
      exact Nat.le_add_right _ _
    | disconnect socket =>
      change _ ≤ (p.server.sockets.modify socket _).length
      rw [List.length_modify]
    | _ => exact le_rfl
  cases turn with
  | advance index fails =>
    change _ ≤ (Processes.advance host p index fails).server.sockets.length
    unfold Processes.advance
    split
    next asked stage op next found =>
      dsimp only
      by_cases joins : ∃ socket game, op = .joinGame socket game
      · obtain ⟨socket, game, rfl⟩ := joins
        change _ ≤ (p.server.sockets.modify socket _).length
        rw [List.length_modify]
      · rw [perform_sockets fun socket game same => joins ⟨socket, game, same⟩]
    next => exact le_rfl
  | _ => exact plays

theorem sockets_run_le (host : Host) (admin : Nat) (view : View) (later : List Turn) :
    view.process.server.sockets.length ≤ (run (receive host admin) view later).process.server.sockets.length := by
  induction later generalizing view with
  | nil => exact le_rfl
  | cons turn later ih => exact (sockets_step_le host view.process turn).trans (ih (receive host admin view turn))

theorem follows_run {host : Host} {admin : Nat} {view : View} {later : List Turn} (follows : Follows admin view)
    (own : ∀ turn ∈ later, turn ≠ .watch admin)
    (apart : (run (receive host admin) view later).process.server.sockets.length ≤ admin)
    (steady : Permitted (receive host admin) (fun view turn => reshapes view.process turn = false) view later) :
    Follows admin (run (receive host admin) view later) := by
  induction later generalizing view with
  | nil => exact follows
  | cons turn later ih =>
    have here := (sockets_run_le host admin view (turn :: later)).trans apart
    have next : Follows admin (receive host admin view turn) :=
      follows.receive (own turn List.mem_cons_self) steady.1 here
    exact ih next (fun turn member => own turn (List.mem_cons_of_mem _ member)) apart steady.2

theorem mem_sockets_onState (game : LiveGame) (admin : Nat) : admin ∈ sockets (game.onState admin).game := by
  unfold sockets LiveGame.onState LiveGame.on
  dsimp only
  rw [List.filterMap_append, List.mem_append]
  exact .inr (List.mem_singleton_self _)

/-- After the connection the admin listens to the games in memory, which are as they were. -/
theorem watch_heap (s : Server) (admin : Nat) {address : Nat} {game' : LiveGame}
    (found : (watch s admin).heap[address]? = some game') : ∃ game, s.heap[address]? = some game ∧ bare game' = bare game ∧
      (admin ∈ sockets game'.game ↔ admin ∈ sockets game.game ∨ ∃ ref ∈ s.memGames, ref.address = address) := by
  have folds : ∀ (games : List GameRef) (s : Server),
      (games.foldl (fun s game => modifyGame s game.address (·.onState admin)) s).heap[address]? = some game' →
        ∃ game, s.heap[address]? = some game ∧ bare game' = bare game ∧
          (admin ∈ sockets game'.game ↔ admin ∈ sockets game.game ∨ ∃ ref ∈ games, ref.address = address) := by
    intro games
    induction games with
    | nil => exact fun s found => ⟨game', found, rfl, by simp⟩
    | cons first games ih =>
      intro s found
      obtain ⟨game, there, same, listening⟩ := ih _ found
      change (s.heap.modify first.address (·.onState admin))[address]? = some game at there
      rw [List.getElem?_modify] at there
      obtain ⟨old, before, now⟩ := Option.map_eq_some_iff.mp there
      refine ⟨old, before, ?_, ?_⟩
      · rw [same, ← now]
        split <;> rfl
      · rw [listening]
        split at now
        next here =>
          have hears : admin ∈ sockets game.game := now ▸ mem_sockets_onState old admin
          exact iff_of_true (.inl hears) (.inr ⟨first, List.mem_cons_self, here⟩)
        next elsewhere =>
          have unchanged : old = game := now
          rw [unchanged]
          refine or_congr_right ⟨fun ⟨ref, member, place⟩ => ⟨ref, List.mem_cons_of_mem _ member, place⟩, ?_⟩
          rintro ⟨ref, member, place⟩
          rcases List.mem_cons.mp member with rfl | later
          · exact absurd place elsewhere
          · exact ⟨ref, later, place⟩
  exact folds s.memGames s found

theorem states_ids {s : Server} (placed : Placed s) : (states s).map (·.gameId) = s.memGames.map (·.gameId) := by
  unfold states
  have each : ∀ games : List GameRef, (∀ ref ∈ games, ref ∈ s.memGames) →
      (games.filterMap fun ref => s.heap[ref.address]?.map (·.game.state)).map (·.gameId) = games.map (·.gameId) := by
    intro games
    induction games with
    | nil => exact fun _ => rfl
    | cons ref games ih =>
      intro members
      obtain ⟨game, found, own⟩ := placed ref (members ref List.mem_cons_self)
      rw [List.filterMap_cons, found, List.map_cons]
      have rest := ih fun other member => members other (List.mem_cons_of_mem _ member)
      exact congrArg₂ List.cons own rest
  exact each s.memGames fun _ member => member

theorem follows_connected {host : Host} {admin : Nat} {p : Process} (joining : Joining p) (placed : Placed p.server)
    (distinct : Distinct p.server.memGames) (wired : ∀ game ∈ p.server.heap, Wired game)
    (new : ∀ game ∈ p.server.heap, admin ∉ sockets game.game) : Follows admin (connected host admin p) := by
  have memGames : (watch p.server admin).memGames = p.server.memGames := by rw [watch_frame]
  constructor
  · exact @Joining.step host p joining (.watch admin)
  · exact placed_step placed host (.watch admin)
  · change Distinct (watch p.server admin).memGames
    rw [memGames]
    exact distinct
  · exact wired_moved (.play (.watched admin)) wired
  · intro address game' found
    obtain ⟨game, there, -, listening⟩ := watch_heap p.server admin found
    change _ ↔ ∃ ref ∈ (watch p.server admin).memGames, _
    rw [memGames, listening]
    exact or_iff_right (new game (List.mem_of_getElem? there))
  · change (states p.server).map _ = (watch p.server admin).memGames.map _
    rw [memGames]
    exact states_ids placed
  · intro ref member game' found
    change ref ∈ (watch p.server admin).memGames at member
    rw [memGames] at member
    obtain ⟨game, there, same, -⟩ := watch_heap p.server admin found
    obtain ⟨game₀, there₀, own⟩ := placed ref member
    rw [there] at there₀
    cases there₀
    refine .inr ⟨game.game.state, ?_, own, (shows_state game.game).bare same⟩
    refine List.mem_filterMap.mpr ⟨ref, member, ?_⟩
    rw [there]
    rfl

theorem Follows.mirrors {admin : Nat} {view : View} (follows : Follows admin view)
    (told : ∀ ref ∈ view.process.server.memGames, ref.address ∉ view.untold) : Mirrors view.process.server view.games where
  entries := by rw [follows.entries]
  single := by
    rw [follows.entries]
    exact follows.distinct
  shows ref member := by
    obtain ⟨game, found, -⟩ := follows.placed ref member
    obtain ⟨data, listed, own, shows⟩ := (follows.shows ref member game found).resolve_left (told ref member)
    exact ⟨game, data, found, listed, own, shows⟩

/-! An admin that connects to the server in any of its lives. -/

/-- What it sees after these turns. -/
def seen (host : Host) (life : Lifetimes.Life) (admin : Nat) (later : List Turn) : View :=
  run (receive (life.host host) admin) (connected (life.host host) admin life.process) later

/-- Its socket has listened to no game before, connects once, and is no player's. -/
structure Sole (host : Host) (life : Lifetimes.Life) (admin : Nat) (later : List Turn) : Prop where
  new : ∀ game ∈ life.process.server.heap, admin ∉ sockets game.game
  once : ∀ turn ∈ later, turn ≠ .watch admin
  apart : (seen host life admin later).process.server.sockets.length ≤ admin

/-- No game has been loaded since, and none has been taken out of memory. -/
def Steady (host : Host) (life : Lifetimes.Life) (admin : Nat) (later : List Turn) : Prop :=
  Permitted (receive (life.host host) admin) (fun view turn => reshapes view.process turn = false)
    (connected (life.host host) admin life.process) later

/-- It shows the games in memory as they are, if these are still the same, and each has triggered 'state' since it has
last changed. -/
theorem admin_mirrors {host : Host} {uuids : Nat → String} {clock : Nat → Nat → Nat} {events : List Lifetimes.Event}
    {admin : Nat} {later : List Turn} (sole : Sole host (Lifetimes.reached host uuids clock events) admin later)
    (steady : Steady host (Lifetimes.reached host uuids clock events) admin later)
    (told : ∀ ref ∈ (seen host (Lifetimes.reached host uuids clock events) admin later).process.server.memGames,
      ref.address ∉ (seen host (Lifetimes.reached host uuids clock events) admin later).untold) :
    Mirrors (seen host (Lifetimes.reached host uuids clock events) admin later).process.server
      (seen host (Lifetimes.reached host uuids clock events) admin later).games := by
  have none : ∀ game ∈ ({ uuids } : Server).heap, Wired game := fun _ member => nomatch member
  have empty : Placed { uuids } := fun _ member => nomatch member
  have wired := @Lifetimes.reached_keeps _ (fun _ _ => wired_moved) host uuids clock none events
  have placed := @Lifetimes.reached_keeps _ (fun _ _ => placed_moved) host uuids clock empty events
  have distinct := (Lifetimes.formed_reached host uuids clock events).memGames
  have start := fun host => @follows_connected host admin _ (joining_reached _ uuids clock events) placed distinct wired sole.new
  exact (follows_run (start _) sole.once sole.apart steady).mirrors told

/-! A session that is there when the admin connects, and is played; and one that is created after that. -/

abbrev sampleLife (events : List Lifetimes.Event) : Lifetimes.Life :=
  Lifetimes.reached sampleHost sampleStart.server.uuids sampleClock events

def isWatch : Turn → Bool
  | .watch _ => true
  | _ => false

/-- Both players join and get ready, and the first round is answered and left. -/
def firstRound : List Turn :=
  .connect "pete" :: List.replicate 4 (.advance 1 false) ++ .connect "kate" :: List.replicate 4 (.advance 2 false) ++
    [.playerReady 0 true, .playerReady 1 true, .answer 0 { round := .ofNat 0 }, .fire 0 1]

abbrev sampleSeen : View := seen sampleHost (sampleLife sampleCreated) 7 firstRound

theorem admin_mirrors_sample : Mirrors sampleSeen.process.server sampleSeen.games := by
  have deaf : (sampleLife sampleCreated).process.server.heap.all (fun game => !(sockets game.game).contains 7) = true := by
    decide +kernel
  have told : sampleSeen.untold = [] := by decide +kernel
  have apart : sampleSeen.process.server.sockets.length ≤ 7 := by decide +kernel
  have new : ∀ game ∈ (sampleLife sampleCreated).process.server.heap, 7 ∉ sockets game.game := by
    intro game member listens
    have off := List.all_eq_true.mp deaf game member
    rw [List.contains_iff_mem.mpr listens] at off
    cases off
  have once : ∀ turn ∈ firstRound, turn ≠ .watch 7 := by
    have others : firstRound.all (fun turn => !isWatch turn) = true := by decide
    intro turn member same
    have off := List.all_eq_true.mp others turn member
    rw [same] at off
    cases off
  have steady : Steady sampleHost (sampleLife sampleCreated) 7 firstRound := by
    unfold Steady
    decide +kernel
  have all : ∀ ref ∈ sampleSeen.process.server.memGames, ref.address ∉ sampleSeen.untold := by
    intro ref _ member
    rw [told] at member
    cases member
  have sole : Sole sampleHost (sampleLife sampleCreated) 7 firstRound := by
    constructor
    · exact new
    · exact once
    · exact apart
  exact @admin_mirrors sampleHost sampleStart.server.uuids sampleClock sampleCreated 7 firstRound sole steady all

/-- An admin that is there before the session. -/
abbrev earlySeen : View := seen sampleHost (sampleLife [.boot false]) 7 createdSession

def isSettled {α : Type} : Request α → Bool
  | .step _ _ => false
  | _ => true

/-- The session is there with its four games, nothing is left to be done or delivered, and the admin shows no game. -/
theorem admin_misses_sample : earlySeen.process.threads.all (fun thread => isSettled thread.request) = true ∧
    earlySeen.process.server.tasks.isEmpty = true ∧ earlySeen.process.server.memGames.length = 4 ∧
      ¬Mirrors earlySeen.process.server earlySeen.games := by
  have empty : earlySeen.games.isEmpty = true := by decide +kernel
  have four : earlySeen.process.server.memGames.length = 4 := by decide +kernel
  refine ⟨by decide +kernel, by decide +kernel, four, fun mirrors => ?_⟩
  have lengths := mirrors.entries.length_eq
  rw [List.length_map, List.length_map, four, List.isEmpty_iff.mp empty] at lengths
  cases lengths

end DfStudy.AdminMirror
