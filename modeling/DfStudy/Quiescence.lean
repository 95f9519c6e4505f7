import DfStudy.GameControl
import DfStudy.Registry

/-! What is left running of a session that has been removed. Dropping a game from memory stops none of its timeouts
and none of its processes. Once nothing is left to fire and nothing leads to its games, the session is silent. -/

namespace DfStudy.Quiescence
open Rounds Games GameFrames GameControl Tables Servers MemGames GameEffects ServerFrames Requests Processes Ownership Registry
open Support.Machine Support.Futures Future

/-- A command, or a write. -/
def outward : Effect → Bool
  | .exec _ _ | .saveGame _ | .setCurrentGame _ _ => true
  | .trigger _ | .emitState _ _ | .exit _ _ => false

def outputs (game : LiveGame) : List Effect := game.effects.filter outward

/-- Nothing is left to fire: no timeout, and no command that waits for the process before it. -/
structure AtRest (game : LiveGame) : Prop where
  timeouts : game.timeouts = []
  children : ∀ child ∈ game.children, child.next = none

/-- What the event loop does by itself. -/
def spontaneous : Action → Bool
  | .fire _ | .finish _ _ => true
  | .playerReady _ _ | .answer _ | .onState _ => false

/-! One turn of a game at rest. -/

theorem AtRest.finish {game : LiveGame} (rest : AtRest game) (pid : Nat) (ok : Bool) :
    AtRest (game.finish pid ok) ∧ outputs (game.finish pid ok) = outputs game := by
  unfold LiveGame.finish
  split
  next => exact ⟨rest, rfl⟩
  next child found =>
    have last : child.next = none := rest.children child (List.mem_of_find?_eq_some found)
    have fewer : ∀ other ∈ game.children.filter (·.pid ≠ pid), other.next = none :=
      fun other member => rest.children other (List.mem_filter.mp member).1
    rw [last]
    have outputs_exit : outputs ({ game with children := game.children.filter (·.pid ≠ pid) }.emit (.exit child ok)) =
        outputs game := by
      simp [outputs, LiveGame.emit, List.filter_append, outward]
    cases ok <;> exact ⟨⟨rest.timeouts, fewer⟩, outputs_exit⟩

theorem AtRest.fire {game : LiveGame} (rest : AtRest game) (handle : Nat) : game.fire handle = game := by
  unfold LiveGame.fire
  rw [rest.timeouts]
  rfl

theorem AtRest.step {game : LiveGame} (rest : AtRest game) {action : Action} (own : spontaneous action) :
    AtRest (Games.step game action) ∧ outputs (Games.step game action) = outputs game := by
  cases action with
  | fire handle =>
    have same : Games.step game (.fire handle) = game := rest.fire handle
    rw [same]
    exact ⟨rest, rfl⟩
  | finish pid ok => exact rest.finish pid ok
  | _ => cases own

/-! The games with certain ids. -/

section
variable {gone : String → Prop}

def Resting (gone : String → Prop) (s : Server) : Prop := ∀ game ∈ s.heap, gone game.game.gameId → AtRest game

/-- None of the games has issued a command or a write between the two states. -/
def Silent (gone : String → Prop) (s s' : Server) : Prop :=
  ∀ (address : Nat) (game' : LiveGame), s'.heap[address]? = some game' → gone game'.game.gameId →
    ∃ game, s.heap[address]? = some game ∧ outputs game' = outputs game

/-- Every reference in memory is to a game with its id. -/
def Placed (s : Server) : Prop :=
  ∀ ref ∈ s.memGames, ∃ game, s.heap[ref.address]? = some game ∧ game.game.gameId = ref.gameId

theorem bares_get {s s' : Server} (same : bares s' = bares s) {address : Nat} {game' : LiveGame}
    (found : s'.heap[address]? = some game') : ∃ game, s.heap[address]? = some game ∧ bare game = bare game' := by
  have there : (bares s')[address]? = some (bare game') := by
    unfold bares
    rw [List.getElem?_map, found]
    rfl
  rw [same] at there
  unfold bares at there
  rw [List.getElem?_map] at there
  exact Option.map_eq_some_iff.mp there

/-- Listeners alone neither wake a game nor move it. -/
theorem bares_rest {s s' : Server} (same : bares s' = bares s) (resting : Resting gone s) :
    Resting gone s' ∧ Silent gone s s' := by
  constructor
  · intro game' member own
    obtain ⟨address, found⟩ := List.mem_iff_getElem?.mp member
    obtain ⟨game, there, equal⟩ := bares_get same found
    have id : game.game.gameId = game'.game.gameId := congrArg (·.game.gameId) equal
    have rest := resting game (List.mem_of_getElem? there) (id ▸ own)
    have timeouts : game.timeouts = game'.timeouts := congrArg (·.timeouts) equal
    have children : game.children = game'.children := congrArg (·.children) equal
    exact ⟨timeouts ▸ rest.timeouts, children ▸ rest.children⟩
  · intro address game' found _
    obtain ⟨game, there, equal⟩ := bares_get same found
    have effects : game.effects = game'.effects := congrArg (·.effects) equal
    exact ⟨game, there, by unfold outputs; rw [effects]⟩

theorem placed_bares {s s' : Server} (same : bares s' = bares s) (placed : Placed s)
    (games : ∀ ref ∈ s'.memGames, ref ∈ s.memGames) : Placed s' := by
  intro ref member
  obtain ⟨game, there, own⟩ := placed ref (games ref member)
  obtain ⟨game', found, equal⟩ := bares_get same.symm there
  have id : game'.game.gameId = game.game.gameId := congrArg (·.game.gameId) equal
  exact ⟨game', found, id.trans own⟩

theorem act_heap (s : Server) (address : Nat) (action : Action) (place : Nat) :
    (act s address action).heap[place]? =
      if address = place then s.heap[place]?.map (Games.step · action) else s.heap[place]? := by
  unfold act
  split
  next missing =>
    split
    next same => rw [← same, missing]; rfl
    next => rfl
  next game found =>
    change (s.heap.set address _)[place]? = _
    rw [List.getElem?_set]
    split
    next same =>
      subst same
      rw [if_pos (List.getElem?_eq_some_iff.mp found).1, found]
      rfl
    next => rfl

theorem act_rest {s : Server} {address : Nat} {action : Action} (resting : Resting gone s)
    (own : ∀ game, s.heap[address]? = some game → gone game.game.gameId → spontaneous action) :
    Resting gone (act s address action) ∧ Silent gone s (act s address action) := by
  have each : ∀ (place : Nat) (game' : LiveGame), (act s address action).heap[place]? = some game' →
      gone game'.game.gameId → AtRest game' ∧ ∃ game, s.heap[place]? = some game ∧ outputs game' = outputs game := by
    intro place game' found id
    rw [act_heap] at found
    split at found
    next same =>
      subst same
      obtain ⟨game, there, rfl⟩ := Option.map_eq_some_iff.mp found
      rw [(extends_step game action).alike.gameId] at id
      obtain ⟨rest, quiet⟩ := (resting game (List.mem_of_getElem? there) id).step (own game there id)
      exact ⟨rest, game, there, quiet⟩
    next => exact ⟨resting game' (List.mem_of_getElem? found) id, game', found, rfl⟩
  constructor
  · intro game' member id
    obtain ⟨place, found⟩ := List.mem_iff_getElem?.mp member
    exact (each place game' found id).1
  · exact fun place game' found id => (each place game' found id).2

theorem placed_act {s : Server} (placed : Placed s) (address : Nat) (action : Action) : Placed (act s address action) := by
  intro ref member
  rw [act_frame] at member
  obtain ⟨game, there, own⟩ := placed ref member
  rw [act_heap, there]
  split
  · exact ⟨_, rfl, (extends_step game action).alike.gameId.trans own⟩
  · exact ⟨game, rfl, own⟩

theorem placed_played {s s' : Server} (placed : Placed s) (played : Played s s') : Placed s' := by
  cases played with
  | acted address action => exact placed_act placed address action
  | hung address action sockets => exact placed_act placed address action
  | watched admin =>
    apply placed_bares (watch_bares s admin) placed
    intro ref member
    rw [watch_frame] at member
    exact member
  | committed index fails =>
    unfold commit
    split
    · exact placed
    · exact placed
  | _ => exact placed

theorem placed_loads {host : Host} {rows : List GameRow} {s : Server} (placed : Placed s) :
    Placed (initGameRows host rows s).2 := by
  unfold initGameRows
  apply initGames_keeps host Placed _ placed
  intro s data game _ placed _ ref present
  rcases (setMemGame_registered s.memGames { address := s.heap.length, gameId := game.game.gameId }).2.2.1 ref present with
    old | rfl
  · obtain ⟨known, there, own⟩ := placed ref old
    exact ⟨known, (List.getElem?_append_left (List.getElem?_eq_some_iff.mp there).1).trans there, own⟩
  · exact ⟨game, List.getElem?_concat_length, rfl⟩

/-! Nothing leads to the games. -/

/-- The ids of games a request may still put into memory. -/
def loadable : Stage → List String
  | .creating _ gameIds | .reading _ gameIds => gameIds
  | _ => []

/-- No player reaches the game: it is not in memory, or nobody is connected to it or about to join it. -/
def Unreachable (p : Process) (gameId : String) : Prop :=
  (∀ ref ∈ p.server.memGames, ref.gameId ≠ gameId) ∨
    (∀ entry ∈ p.server.sockets, entry.connected = true → entry.gameId ≠ some gameId) ∧
      ∀ thread ∈ p.threads, thread.stage ≠ .connecting (some gameId)

structure Quiet (gone : String → Prop) (p : Process) : Prop where
  resting : Resting gone p.server
  placed : Placed p.server
  rows : ∀ row ∈ p.server.db.games, ¬gone row.gameId
  loadable : ∀ thread ∈ p.threads, ∀ gameId ∈ loadable thread.stage, ¬gone gameId
  unreachable : ∀ gameId, gone gameId → Unreachable p gameId
  uuids : ∀ index, ¬gone (p.server.uuids index)

section
variable {host : Host} {fails : Bool} {op : Op} {s : Server} {stage : Stage}

theorem perform_rest (resting : Resting gone s) (fresh : ∀ gameId ∈ loadable stage, ¬gone gameId)
    (permitted : stage.permits op) :
    Resting gone (perform host fails op s).2 ∧ Silent gone s (perform host fails op s).2 := by
  by_cases loading : ∃ rows, op = .initGameRows rows
  · obtain ⟨rows, rfl⟩ := loading
    obtain ⟨sessionId, rfl, own⟩ := permitted
    obtain ⟨born, heap, ids⟩ := (initGameRows_loads host rows s).heap
    have others : ∀ game ∈ born, ¬gone game.game.gameId := by
      intro game member
      have known := mem_sorted.mp (ids game member)
      rw [List.map_congr_left own] at known
      exact fresh _ known
    change Resting gone (initGameRows host rows s).2 ∧ Silent gone s (initGameRows host rows s).2
    constructor
    · intro game member id
      rw [heap] at member
      rcases List.mem_append.mp member with old | new
      · exact resting game old id
      · exact absurd id (others game new)
    · intro address game found id
      rw [heap] at found
      by_cases old : address < s.heap.length
      · rw [List.getElem?_append_left old] at found
        exact ⟨game, found, rfl⟩
      · rw [List.getElem?_append_right (by omega)] at found
        exact absurd id (others game (List.mem_of_getElem? found))
  · exact bares_rest (perform_bares fun rows same => loading ⟨rows, same⟩) resting

/-- Games come into memory by being loaded. -/
theorem perform_refs {ref : GameRef} (member : ref ∈ (perform host fails op s).2.memGames) :
    ref ∈ s.memGames ∨ ∃ rows, op = .initGameRows rows ∧ ref.gameId ∈ rows.map (·.gameData.gameId) := by
  rcases perform_memGames host fails op s with same | ⟨rows, rfl⟩ | ⟨game, rfl, same⟩
  · rw [same] at member
    exact .inl member
  · rcases (initGameRows_loads host rows s).only ref member with old | ⟨new, _⟩
    · exact .inl old
    · exact .inr ⟨rows, rfl, mem_sorted.mp new⟩
  · rw [same] at member
    exact .inl (removeMemGame_sublist.mem member)

theorem perform_placed (placed : Placed s) : Placed (perform host fails op s).2 := by
  by_cases loading : ∃ rows, op = .initGameRows rows
  · obtain ⟨rows, rfl⟩ := loading
    exact placed_loads placed
  · refine placed_bares (perform_bares fun rows same => loading ⟨rows, same⟩) placed fun ref member => ?_
    rcases perform_refs member with old | ⟨rows, same, _⟩
    · exact old
    · exact absurd ⟨rows, same⟩ loading

/-- A request does not come by the ids of games that are gone. -/
theorem stage_fresh (rows : ∀ row ∈ s.db.games, ¬gone row.gameId) (uuids : ¬gone (s.uuids 0))
    (fresh : ∀ gameId ∈ loadable stage, ¬gone gameId) (permitted : stage.permits op) :
    (∀ gameId ∈ loadable (stage.after op (perform host fails op s).1), ¬gone gameId) ∧
      ∀ gameId, gone gameId → stage.after op (perform host fails op s).1 = .connecting (some gameId) →
        stage = .connecting (some gameId) := by
  have progress := Stage.progress permitted (perform host fails op s).1
  generalize stage.after op (perform host fails op s).1 = stage' at progress
  generalize answered : (perform host fails op s).1 = answer at progress
  cases progress with
  | same => exact ⟨fresh, fun _ _ => id⟩
  | inserted params sessionId => exact ⟨fun _ member => (nomatch member), fun _ _ same => nomatch same⟩
  | drew sessionId drawn gameId =>
    cases answered
    refine ⟨fun gameId member => ?_, fun _ _ same => nomatch same⟩
    rcases List.mem_cons.mp member with rfl | old
    · exact uuids
    · exact fresh gameId old
  | read _ sessionId selected known =>
    have listed : ∀ row ∈ selected, ¬gone row.gameId := fun row member =>
      rows row (List.mem_filter.mp ((selectGames_ok answered).mem_iff.mp member)).1
    cases stage with
    | creating | reading =>
      refine ⟨fun gameId member => ?_, fun _ _ same => nomatch same⟩
      obtain ⟨row, present, rfl⟩ := List.mem_map.mp member
      exact listed row present
    | loaded | removing => exact ⟨fun _ member => (nomatch member), fun _ _ same => nomatch same⟩
    | asking | finished => exact ⟨fun _ member => (nomatch member), fun _ _ same => nomatch same⟩
    | connecting current =>
      refine ⟨fun _ member => (nomatch member), fun gameId id same => ?_⟩
      obtain ⟨row, found, rfl⟩ := Option.map_eq_some_iff.mp (Stage.connecting.inj same)
      exact absurd id (listed row (List.mem_of_find?_eq_some found))
  | loads sessionId selected games => exact ⟨fun _ member => (nomatch member), fun _ _ same => nomatch same⟩
  | ended _ sessionId _ about => exact ⟨fun _ member => (nomatch member), fun _ _ same => nomatch same⟩

end

/-! One turn of the server. -/

section
variable {p : Process}

theorem Quiet.unreachable_perform (quiet : Quiet gone p) {host : Host} {fails : Bool} {index : Nat} {thread : Thread}
    {op : Op} {next : Except Failure (Res op) → Request (Option Session)} (found : p.threads[index]? = some thread)
    (permitted : thread.stage.permits op) {gameId : String} (id : gone gameId) :
    Unreachable (performed host fails p index thread op next) gameId := by
  have present := List.mem_of_getElem? found
  rcases quiet.unreachable gameId id with unknown | ⟨nobody, unjoined⟩
  · left
    intro ref member same
    rcases perform_refs member with old | ⟨rows, rfl, listed⟩
    · exact unknown ref old same
    · obtain ⟨sessionId, stage, own⟩ := permitted
      rw [List.map_congr_left own] at listed
      have fresh := quiet.loadable thread present ref.gameId (by rw [stage]; exact listed)
      exact fresh (same ▸ id)
  · refine .inr ⟨?_, ?_⟩
    · by_cases joining : ∃ socket game, op = .joinGame socket game
      · obtain ⟨socket, game, rfl⟩ := joining
        have own : thread.stage = .connecting (some game.gameId) := permitted
        have apart : game.gameId ≠ gameId := fun same => unjoined thread present (same ▸ own)
        intro entry member connected
        change entry ∈ p.server.sockets.modify socket _ at member
        obtain ⟨place, here⟩ := List.mem_iff_getElem?.mp member
        rw [List.getElem?_modify] at here
        obtain ⟨old, there, rfl⟩ := Option.map_eq_some_iff.mp here
        by_cases same : socket = place
        · simpa [same] using apart
        · simp only [if_neg same] at connected ⊢
          exact nobody old (List.mem_of_getElem? there) connected
      · intro entry member
        change entry ∈ (perform host fails op p.server).2.sockets at member
        rw [perform_sockets fun socket game same => joining ⟨socket, game, same⟩] at member
        exact nobody entry member
    · intro other member
      rcases List.mem_or_eq_of_mem_set member with old | rfl
      · exact unjoined other old
      · have joins := (@stage_fresh gone host fails op p.server thread.stage quiet.rows (quiet.uuids 0)
          (quiet.loadable thread present) permitted).2
        exact fun same => unjoined thread present (joins gameId id same)

theorem Quiet.perform (quiet : Quiet gone p) (host : Host) (fails : Bool) {index : Nat} {thread : Thread} {op : Op}
    {next : Except Failure (Res op) → Request (Option Session)} (found : p.threads[index]? = some thread)
    (permitted : thread.stage.permits op) :
    Quiet gone (performed host fails p index thread op next) ∧
      Silent gone p.server (performed host fails p index thread op next).server := by
  have present := List.mem_of_getElem? found
  have listed := quiet.loadable thread present
  obtain ⟨resting, silent⟩ := @perform_rest gone host fails op p.server thread.stage quiet.resting listed permitted
  have fresh := (@stage_fresh gone host fails op p.server thread.stage quiet.rows (quiet.uuids 0) listed permitted).1
  refine ⟨⟨resting, perform_placed quiet.placed, ?_, ?_, ?_, ?_⟩, silent⟩
  · intro row member
    change row ∈ (Servers.perform host fails op p.server).2.db.games at member
    rcases perform_games host fails op p.server with same | ⟨new, rfl, same⟩ | ⟨gameId, rfl, same⟩
    · rw [same] at member
      exact quiet.rows row member
    · rw [same] at member
      rcases List.mem_append.mp member with old | added
      · exact quiet.rows row old
      · obtain ⟨drawn, stage, among, _⟩ := permitted
        rw [List.mem_singleton.mp added]
        exact listed new.gameId (by rw [stage]; exact among)
    · rw [same] at member
      exact quiet.rows row (List.mem_filter.mp member).1
  · intro other member
    rcases List.mem_or_eq_of_mem_set member with old | rfl
    · exact quiet.loadable other old
    · exact fresh
  · exact fun gameId id => quiet.unreachable_perform found permitted id
  · intro drawn
    change ¬gone ((Servers.perform host fails op p.server).2.uuids drawn)
    rcases perform_uuids host fails op p.server with same | ⟨_, shifted⟩
    · rw [same]
      exact quiet.uuids drawn
    · rw [shifted]
      exact quiet.uuids (drawn + 1)

theorem Quiet.arrive (quiet : Quiet gone p) (host : Host) (asked : Asked) : Quiet gone (arrive host p asked) := by
  have each : ∀ thread ∈ (Processes.arrive host p asked).threads, thread ∈ p.threads ∨ thread.stage = asked.stage := by
    intro thread member
    rcases List.mem_append.mp member with old | new
    · exact .inl old
    · rw [List.mem_singleton.mp new]
      exact .inr rfl
  refine ⟨quiet.resting, quiet.placed, quiet.rows, ?_, ?_, quiet.uuids⟩
  · intro thread member gameId listed
    rcases each thread member with old | new
    · exact quiet.loadable thread old gameId listed
    · rw [new] at listed
      cases asked <;> cases listed
  · intro gameId id
    rcases quiet.unreachable gameId id with unknown | ⟨nobody, unjoined⟩
    · exact .inl unknown
    · refine .inr ⟨nobody, fun thread member same => ?_⟩
      rcases each thread member with old | new
      · exact unjoined thread old same
      · rw [new] at same
        cases asked <;> cases same

/-- Who is connected to a game has been so before the turn. -/
theorem play_connected {s : Server} {turn : Turn} {entry : Socket} (member : entry ∈ (play s turn).sockets)
    (connected : entry.connected = true) {gameId : String} (joined : entry.gameId = some gameId) : entry ∈ s.sockets := by
  rw [play_socketsAfter] at member
  cases turn with
  | connect playerId =>
    rcases List.mem_append.mp member with old | new
    · exact old
    · rw [List.mem_singleton.mp new] at joined
      cases joined
  | disconnect socket =>
    change entry ∈ s.sockets.modify socket _ at member
    obtain ⟨place, here⟩ := List.mem_iff_getElem?.mp member
    rw [List.getElem?_modify] at here
    obtain ⟨old, there, rfl⟩ := Option.map_eq_some_iff.mp here
    by_cases same : socket = place
    · simp [same] at connected
    · simp only [if_neg same]
      exact List.mem_of_getElem? there
  | _ => exact member

theorem Quiet.acts (quiet : Quiet gone p) (socket : Nat) (action : String → Action) :
    Resting gone (actFrom p.server socket action) ∧ Silent gone p.server (actFrom p.server socket action) := by
  have still := @bares_rest gone p.server p.server rfl quiet.resting
  rcases actFrom_ways p.server socket action with ⟨_, same⟩ | ⟨playerId, gameId, joined, ⟨_, same⟩ | ⟨ref, looked, same⟩⟩
  · rw [same]
    exact still
  · rw [same]
    exact still
  · obtain ⟨member, own⟩ := getGame_ok looked
    have reached : ¬gone gameId := by
      intro id
      rcases quiet.unreachable gameId id with unknown | ⟨nobody, _⟩
      · exact unknown ref member own
      · exact nobody _ (List.mem_of_getElem? joined) rfl rfl
    obtain ⟨known, there, called⟩ := quiet.placed ref member
    rw [same]
    apply act_rest quiet.resting
    intro game found id
    rw [there] at found
    cases found
    exact absurd (called.trans own ▸ id) reached

theorem Quiet.play (quiet : Quiet gone p) (turn : Turn) :
    Quiet gone { p with server := play p.server turn } ∧ Silent gone p.server (play p.server turn) := by
  have played := played p.server turn
  have frame := played.frame
  have still := @bares_rest gone p.server p.server rfl quiet.resting
  have heap : Resting gone (Processes.play p.server turn) ∧ Silent gone p.server (Processes.play p.server turn) := by
    cases turn with
    | commit task fails =>
      change Resting gone (commit p.server task fails) ∧ Silent gone p.server (commit p.server task fails)
      unfold commit
      split
      · exact still
      · exact still
    | playerReady socket readyFlag => exact quiet.acts socket _
    | answer socket answer => exact quiet.acts socket _
    | disconnect socket => exact quiet.acts socket _
    | watch admin => exact bares_rest (watch_bares p.server admin) quiet.resting
    | fire address handle => exact act_rest quiet.resting fun _ _ _ => rfl
    | finish address pid ok => exact act_rest quiet.resting fun _ _ _ => rfl
    | _ => exact still
  refine ⟨⟨heap.1, placed_played quiet.placed played, ?_, quiet.loadable, ?_, ?_⟩, heap.2⟩
  · intro row member
    obtain ⟨old, present, same, _⟩ := played_rows played member
    rw [← same]
    exact quiet.rows old present
  · intro gameId id
    rcases quiet.unreachable gameId id with unknown | ⟨nobody, unjoined⟩
    · refine .inl fun ref member => unknown ref ?_
      rw [frame.1] at member
      exact member
    · refine .inr ⟨fun entry member connected joined => ?_, unjoined⟩
      exact nobody entry (play_connected member connected joined) connected joined
  · intro index
    change ¬gone ((Processes.play p.server turn).uuids index)
    rw [frame.2.1]
    exact quiet.uuids index

/-- Whatever turn it is, the games stay quiet and have issued nothing in it. -/
theorem Quiet.step {owner : String → Option Nat} (quiet : Quiet gone p) (owned : Owned owner p) (host : Host)
    (turn : Turn) : Quiet gone (step host p turn) ∧ Silent gone p.server (step host p turn).server := by
  rcases step_cases host p turn with same | ⟨index, fails, thread, op, next, _, found, pending, same⟩ |
    ⟨asked, same⟩ | same
  · rw [same]
    exact ⟨quiet, (bares_rest rfl quiet.resting).2⟩
  · have follows := owned.follows thread (List.mem_of_getElem? found)
    rw [pending] at follows
    rw [same]
    exact quiet.perform host fails found follows.1
  · rw [same]
    exact ⟨(quiet.play turn).1.arrive host asked, (quiet.play turn).2⟩
  · rw [same]
    exact quiet.play turn

end

end

theorem placed_step {p : Process} (placed : Placed p.server) (host : Host) (turn : Turn) :
    Placed (step host p turn).server := by
  rcases step_cases host p turn with same | ⟨_, fails, _, op, _, _, _, _, same⟩ | ⟨asked, same⟩ | same
  · rw [same]
    exact placed
  · rw [same]
    exact perform_placed placed
  · rw [same]
    exact placed_played placed (played p.server turn)
  · rw [same]
    exact placed_played placed (played p.server turn)

/-! The removal. -/

/-- The request at this place is about to delete the row of the session. A removal does so last, also when it takes
back a session that could not be created. -/
def Removing (p : Process) (index sessionId : Nat) : Prop :=
  ∃ thread next, p.threads[index]? = some thread ∧ thread.request = .step (.deleteSession sessionId) next

/-- What the turns so far have left of the session, beside the request at this place. -/
structure Retired (host : Host) (start : Process) (turns : List Turn) (index sessionId : Nat) : Prop where
  rest : Resting (Belonged host start turns · sessionId) (run (step host) start turns).server
  rows : ∀ row ∈ (run (step host) start turns).server.db.games, row.sessionId ≠ sessionId
  unreachable : ∀ gameId, Belonged host start turns gameId sessionId → Unreachable (run (step host) start turns) gameId
  alone : ∀ (other : Nat) (thread : Thread), (run (step host) start turns).threads[other]? = some thread →
    other ≠ index → ∀ gameIds, thread.stage ≠ .creating sessionId gameIds ∧ thread.stage ≠ .reading sessionId gameIds

section
variable {host : Host} {start : Process} {turns : List Turn} {index sessionId : Nat}

/-- From the removal on, the games of the session are quiet. -/
theorem quiet_removed (booted : Booted start) (placed : Placed start.server)
    (removing : Removing (run (step host) start turns) index sessionId)
    (retired : Retired host start turns index sessionId) :
    Quiet (Belonged host start turns · sessionId) (step host (run (step host) start turns) (.advance index false)) := by
  obtain ⟨owner, owned, belonged⟩ := owned_run booted host turns
  have there : Placed (run (step host) start turns).server :=
    run_invariant (fun p : Process => Placed p.server) (fun _ turn placed => placed_step placed host turn) turns placed
  obtain ⟨thread, next, found, pending⟩ := removing
  have follows := owned.follows thread (List.mem_of_getElem? found)
  rw [pending] at follows
  have about : thread.stage.about = some sessionId := follows.1
  -- The request loads nothing any more, so it is taken for one that only removes.
  let p := run (step host) start turns
  let remover : Thread := { thread with stage := .removing sessionId [] }
  let beside : Process := { p with threads := p.threads.set index remover }
  have bound := (List.getElem?_eq_some_iff.mp found).1
  have here : beside.threads[index]? = some remover := List.getElem?_set_self bound
  have each : ∀ other ∈ beside.threads, other = remover ∨ other ∈ p.threads ∧
      ∀ gameIds, other.stage ≠ .creating sessionId gameIds ∧ other.stage ≠ .reading sessionId gameIds := by
    intro other member
    obtain ⟨place, there⟩ := List.mem_iff_getElem?.mp member
    by_cases same : index = place
    · subst same
      rw [here] at there
      exact .inl (Option.some.inj there).symm
    · have old : p.threads[place]? = some other := (List.getElem?_set_ne same).symm.trans there
      exact .inr ⟨List.mem_of_getElem? old, retired.alone place other old (Ne.symm same)⟩
  have quiet : Quiet (Belonged host start turns · sessionId) beside := by
    refine ⟨retired.rest, there, ?_, ?_, ?_, ?_⟩
    · intro row member id
      have known := (owned.rows row member).1
      rw [(belonged row.gameId sessionId).mpr id] at known
      exact retired.rows row member (Option.some.inj known).symm
    · intro other member gameId listed id
      rcases each other member with rfl | ⟨old, apart⟩
      · cases listed
      · have known := owned.stages other old
        have mine := (belonged gameId sessionId).mpr id
        cases at_stage : other.stage with
        | creating session gameIds | reading session gameIds =>
          rw [at_stage] at known listed
          have theirs := known session rfl gameId listed
          rw [mine] at theirs
          cases theirs
          first | exact (apart gameIds).1 at_stage | exact (apart gameIds).2 at_stage
        | _ =>
          rw [at_stage] at listed
          cases listed
    · intro gameId id
      rcases retired.unreachable gameId id with unknown | ⟨nobody, unjoined⟩
      · exact .inl unknown
      · refine .inr ⟨nobody, fun other member => ?_⟩
        rcases each other member with rfl | ⟨old, _⟩
        · exact fun same => nomatch same
        · exact unjoined other old
    · intro drawn id
      have known := owned.fresh drawn
      rw [(belonged _ sessionId).mpr id] at known
      cases known
  have after : step host p (.advance index false) =
      performed host false beside index remover (.deleteSession sessionId) next := by
    obtain ⟨asked, stage, request⟩ := thread
    have request_eq : request = .step (.deleteSession sessionId) next := pending
    subst request_eq
    change Processes.advance host p index false = _
    unfold Processes.advance performed
    rw [found]
    simp only [beside, List.set_set]
    rfl
  have permitted : remover.stage.permits (.deleteSession sessionId) := rfl
  change Quiet _ (step host p (.advance index false))
  rw [after]
  exact (quiet.perform host false here permitted).1

/-- Once the session has been removed, none of its games ever issues a command or a write again. -/
theorem removed_silent (booted : Booted start) (placed : Placed start.server)
    (removing : Removing (run (step host) start turns) index sessionId)
    (retired : Retired host start turns index sessionId) (later : List Turn) (turn : Turn) :
    Silent (Belonged host start turns · sessionId)
      (run (step host) start (turns ++ .advance index false :: later)).server
      (run (step host) start (turns ++ .advance index false :: (later ++ [turn]))).server := by
  obtain ⟨owner, owned, _⟩ := owned_run booted host turns
  obtain ⟨owner', _, owned', _⟩ := owned_step owned host (.advance index false)
  have start_quiet := quiet_removed booted placed removing retired
  obtain ⟨quiet, owner'', owned''⟩ := run_invariant
    (fun p => Quiet (Belonged host start turns · sessionId) p ∧ ∃ owner, Owned owner p)
    (fun p turn held => by
      obtain ⟨quiet, owner, owned⟩ := held
      obtain ⟨owner', _, owned', _⟩ := owned_step owned host turn
      exact ⟨(quiet.step owned host turn).1, owner', owned'⟩)
    later ⟨start_quiet, owner', owned'⟩
  rw [run_append, run_append, run_cons, run_cons, run_append]
  exact (quiet.step owned'' host turn).2

/-! A removal resolves when it has deleted the row. -/

/-- Remembers whether the last operation has deleted the session's row. -/
def deletion (sessionId : Nat) : Protocol Op Res Failure Bool where
  permits _ _ := True
  expects _ _ _ := True
  after _ op answer :=
    match op, answer with
    | .deleteSession other, .ok _ => other = sessionId
    | _, _ => false

def Deleted {α : Type} (deleted : Bool) (result : Except Failure α) : Prop :=
  ∀ value, result = .ok value → deleted = true

theorem follows_any {α : Type} (deleted : Bool) (request : Request α) :
    Follows (deletion sessionId) (fun _ _ => True) deleted request := by
  induction request generalizing deleted with
  | resolve value => trivial
  | reject error => trivial
  | step op next ih => exact ⟨trivial, fun answer _ => ih answer _⟩

theorem follows_removal (deleted : Bool) (sessionId : Nat) :
    Follows (deletion sessionId) Deleted deleted (Sessions.removeSession sessionId) := by
  have looked : Follows (deletion sessionId)
      (fun _ result => ∀ session, result = .ok session → session.sessionId = sessionId) deleted (Sessions.getSessionById sessionId) := by
    apply (follows_any deleted Request.selectSessions).chain
    · intro _ sessions _
      cases found : sessions.find? (·.sessionId = sessionId) with
      | none => exact fun _ same => nomatch same
      | some session =>
        intro other same
        cases same
        simpa using List.find?_some found
    · exact fun _ _ _ _ same => nomatch same
  apply looked.chain
  · intro _ session own
    have same : session.sessionId = sessionId := own session rfl
    apply (follows_any _ _).chain
    · intro record _ _
      have called : Follows (deletion sessionId) Deleted record (Request.deleteSession session.sessionId) :=
        Follows.call trivial fun answer _ => by
          cases answer with
          | ok value => exact fun _ _ => by simp [deletion, same]
          | error error => exact fun _ same => nomatch same
      apply called.map
      intro deleted result held value same
      cases result with
      | ok value => exact held value rfl
      | error error => cases same
    · exact fun _ _ _ _ same => nomatch same
  · exact fun _ _ _ _ same => nomatch same

/-- The removals that are under way. -/
def Deleting (p : Process) : Prop := ∀ thread ∈ p.threads, ∀ sessionId, thread.asked = .remove sessionId →
  ∃ deleted, Follows (deletion sessionId) Deleted deleted thread.request

theorem deleting_step {p : Process} (deleting : Deleting p) (host : Host) (turn : Turn) : Deleting (step host p turn) := by
  rcases step_cases host p turn with same | ⟨_, fails, thread, op, next, _, found, pending, same⟩ | ⟨asked, same⟩ | same
  · rw [same]
    exact deleting
  · rw [same]
    intro other member sessionId asked
    rcases List.mem_or_eq_of_mem_set member with old | rfl
    · exact deleting other old sessionId asked
    · obtain ⟨deleted, follows⟩ := deleting thread (List.mem_of_getElem? found) sessionId asked
      rw [pending] at follows
      exact ⟨_, follows.2 _ trivial⟩
  · rw [same]
    intro other member sessionId removes
    rcases List.mem_append.mp member with old | new
    · exact deleting other old sessionId removes
    · rw [List.mem_singleton.mp new] at removes ⊢
      change asked = .remove sessionId at removes
      subst removes
      refine ⟨false, (follows_removal false sessionId).map fun _ result held value same => ?_⟩
      cases result with
      | ok session => exact held session rfl
      | error error => cases same
  · rw [same]
    exact deleting

/-- The turn with which a request to remove a session resolves is the one that deletes its row. -/
theorem resolves_removing (booted : Booted start) {fails : Bool} {thread thread' : Thread} {value : Option Session}
    (found : (run (step host) start turns).threads[index]? = some thread) (asked : thread.asked = .remove sessionId)
    (unresolved : ∀ value, thread.request ≠ .resolve value)
    (found' : (step host (run (step host) start turns) (.advance index fails)).threads[index]? = some thread')
    (resolved : thread'.request = .resolve value) :
    fails = false ∧ Removing (run (step host) start turns) index sessionId := by
  have none : Deleting start := by
    intro thread member
    rw [booted.threads] at member
    cases member
  have deleting : Deleting (run (step host) start turns) :=
    run_invariant Deleting (fun _ turn deleting => deleting_step deleting host turn) turns none
  obtain ⟨deleted, follows⟩ := deleting thread (List.mem_of_getElem? found) sessionId asked
  have bound := (List.getElem?_eq_some_iff.mp found).1
  obtain ⟨asked', stage, request⟩ := thread
  change (Processes.advance host (run (step host) start turns) index fails).threads[index]? = _ at found'
  unfold Processes.advance at found'
  rw [found] at found'
  cases request with
  | resolve settled => exact absurd rfl (unresolved settled)
  | reject error =>
    rw [found] at found'
    cases found'
    cases resolved
  | step op next =>
    dsimp only at found'
    rw [List.getElem?_set_self bound] at found'
    cases found'
    have held := follows.2 (perform host fails op (run (step host) start turns).server).1 trivial
    have result : next (perform host fails op (run (step host) start turns).server).1 = .resolve value := resolved
    rw [result] at held
    have last := held value rfl
    generalize answered : (perform host fails op (run (step host) start turns).server).1 = answer at last
    cases op with
    | deleteSession other =>
      cases answer with
      | error error => cases last
      | ok value =>
        have same : other = sessionId := by simpa [deletion] using last
        subst same
        cases fails with
        | true => cases answered
        | false => exact ⟨rfl, _, next, found, rfl⟩
    | _ => cases last

end

/-! The condition is exact for timeouts: those of a game in play always issue something. -/

/-- Nothing is to fire before a game starts and after it has stopped. -/
theorem idle_iff {game : LiveGame} (phase : Phase game) :
    game.timeouts = [] ↔ game.game.startTime = none ∨ game.game.endTime.isSome := by
  cases phase with
  | unstarted phase => exact iff_of_true phase.timeouts (.inl phase.startTime)
  | stopped phase => exact iff_of_true phase.timeouts (.inr phase.endTime)
  | roundOpen phase =>
    obtain ⟨handle, ms, _, only⟩ := phase.timer
    exact iff_of_false (by simp [only]) (by simp [phase.endTime, Option.isSome_iff_ne_none.mp phase.startTime])
  | roundOver phase =>
    obtain ⟨handle, ms, only⟩ := phase.transition
    exact iff_of_false (by simp [only]) (by simp [phase.endTime, Option.isSome_iff_ne_none.mp phase.startTime])

section
variable {game : Game} (constructed : Constructed game.cbMap)
include constructed

theorem saves_stateBlock : .saveGame game.state ∈ stateBlock game := by
  obtain ⟨more, state⟩ := constructed.state
  simp [stateBlock, state, stateEffect]

theorem saves_stopBlock : .saveGame game.state ∈ stopBlock game := by
  obtain ⟨more, stop⟩ := constructed.stop
  refine List.mem_cons_of_mem _ (List.mem_flatMap.mpr ⟨.triggerState, ?_, saves_stateBlock constructed⟩)
  rw [stop]
  exact List.mem_cons_self

theorem saves_roundBlock (round : Nat) : .saveGame game.state ∈ roundBlock game round := by
  obtain ⟨more, listeners⟩ := constructed.round
  refine List.mem_cons_of_mem _ (List.mem_flatMap.mpr ⟨.triggerState, ?_, saves_stateBlock constructed⟩)
  rw [listeners]
  exact List.mem_cons_self

theorem saves_answerBlock (answer : Answer) : .saveGame game.state ∈ answerBlock game answer := by
  refine List.mem_cons_of_mem _ (List.mem_flatMap.mpr ⟨.triggerState, ?_, saves_stateBlock constructed⟩)
  rw [constructed.answer]
  exact List.mem_cons_self

end

theorem issued_by {game game' : LiveGame} {block : List Effect} {data : GameData} (saves : .saveGame data ∈ block)
    (effects : game'.effects = game.effects ++ block) : outputs game' ≠ outputs game := by
  intro same
  have kept : Effect.saveGame data ∈ block.filter outward := List.mem_filter.mpr ⟨saves, rfl⟩
  have more : outputs game' = outputs game ++ block.filter outward := by
    unfold outputs
    rw [effects, List.filter_append]
  rw [same, List.self_eq_append_right] at more
  rw [more] at kept
  cases kept

theorem gotoRound_issues {game : LiveGame} (wired : Wired game) (round : Nat) :
    outputs (game.gotoRound round).1 ≠ outputs game := by
  cases found : game.game.rounds[round]? with
  | none =>
    have saves := @saves_stopBlock (ended (game.setCurrentRound round)) wired
    rw [gotoRound_past game round found, stop_eq]
    exact issued_by saves rfl
  | some roundObj =>
    have saves := @saves_roundBlock (entered game round roundObj) wired round
    rw [gotoRound_enters game round roundObj found]
    exact issued_by saves rfl

theorem answer_issues {game : LiveGame} (wired : Wired game) {answer : Answer} {round : Nat} {roundObj : Round}
    (found : game.roundAt answer.round = some (round, roundObj)) (running : roundObj.endTime = none)
    (started : roundObj.startTime.isSome) : outputs (game.answer answer).1 ≠ outputs game := by
  rw [answer_accepted game answer round roundObj found running started]
  exact issued_by (saves_answerBlock wired answer) rfl

/-- A timeout that is pending for a game in play issues something when it fires. -/
theorem timeout_issues {game : LiveGame} (phase : Phase game) (wired : Wired game) (pending : game.timeouts ≠ []) :
    ∃ handle, outputs (game.fire handle) ≠ outputs game := by
  let cleared : LiveGame := { game with timeouts := [] }
  cases phase with
  | unstarted phase => exact absurd phase.timeouts pending
  | stopped phase => exact absurd phase.timeouts pending
  | roundOpen phase =>
    obtain ⟨handle, ms, _, only⟩ := phase.timer
    obtain ⟨roundObj, present, started, running, _⟩ := phase.current
    have found : cleared.roundAt (.ofNat game.game.currentRound) = some (game.game.currentRound, roundObj) := by
      rw [roundAt_ofNat]
      simp [cleared, present]
    refine ⟨handle, ?_⟩
    rw [fire_single game _ only]
    exact @answer_issues cleared wired _ _ _ found running started
  | roundOver phase =>
    obtain ⟨handle, ms, only⟩ := phase.transition
    refine ⟨handle, ?_⟩
    rw [fire_single game _ only]
    exact @gotoRound_issues cleared wired _

/-- So a game that is removed in play speaks again, whatever has been removed around it. -/
theorem pending_speaks {gone : String → Prop} {p : Process} {address : Nat} {game : LiveGame}
    (found : p.server.heap[address]? = some game) (own : gone game.game.gameId) (phase : Phase game) (wired : Wired game)
    (pending : game.timeouts ≠ []) (host : Host) :
    ∃ handle, ¬Silent gone p.server (step host p (.fire address handle)).server := by
  obtain ⟨handle, issues⟩ := timeout_issues phase wired pending
  refine ⟨handle, fun silent => ?_⟩
  have fired : (step host p (.fire address handle)).server.heap[address]? = some (game.fire handle) := by
    change (act p.server address (.fire handle)).heap[address]? = _
    rw [act_heap, if_pos rfl, found]
    rfl
  have id : (game.fire handle).game.gameId = game.game.gameId := (extends_step game (.fire handle)).alike.gameId
  obtain ⟨before, there, same⟩ := silent address _ fired (id.symm ▸ own)
  rw [found] at there
  cases there
  exact issues same

/-! A session that is removed before it is played, and one that is removed in its first round. -/

def createdSession : List Turn := .create sampleParams :: List.replicate 40 (.advance 0 false)

/-- Both players join the first game, and get ready. -/
def bothReady : List Turn :=
  .connect "pete" :: List.replicate 4 (.advance 1 false) ++ .connect "kate" :: List.replicate 4 (.advance 2 false) ++
    [.playerReady 0 true, .playerReady 1 true]

/-- So many operations of the removal, which is done after eighteen. -/
def removal (thread operations : Nat) : List Turn := .remove 1 :: List.replicate operations (.advance thread false)

def deletes (sessionId : Nat) : Request (Option Session) → Bool
  | .step (.deleteSession other) _ => other = sessionId
  | _ => false

theorem removing_of_deletes {p : Process} {index sessionId : Nat}
    (pending : p.threads[index]?.any (deletes sessionId ·.request) = true) : Removing p index sessionId := by
  cases found : p.threads[index]? with
  | none =>
    rw [found] at pending
    cases pending
  | some thread =>
    rw [found] at pending
    have deleting : deletes sessionId thread.request = true := pending
    unfold deletes at deleting
    split at deleting
    next other next request =>
      have same : other = sessionId := by simpa using deleting
      subst same
      exact ⟨thread, next, found, request⟩
    next => cases deleting

def loads (sessionId : Nat) : Stage → Bool
  | .creating other _ | .reading other _ => other = sessionId
  | _ => false

def isAtRest (game : LiveGame) : Bool := game.timeouts.isEmpty && game.children.all (·.next.isNone)

theorem atRest_iff {game : LiveGame} : isAtRest game = true ↔ AtRest game := by
  unfold isAtRest
  rw [Bool.and_eq_true, List.isEmpty_iff, List.all_eq_true]
  constructor
  · exact fun ⟨timeouts, children⟩ => ⟨timeouts, fun child member => by simpa using children child member⟩
  · exact fun rest => ⟨rest.timeouts, fun child member => by simpa using rest.children child member⟩

/-- Removed before it is played, the session stays silent. -/
theorem removed_silent_sample :
    Silent (Belonged sampleHost sampleStart (createdSession ++ removal 1 17) · 1)
      (run (step sampleHost) sampleStart (createdSession ++ removal 1 17 ++ [.advance 1 false])).server
      (run (step sampleHost) sampleStart (createdSession ++ removal 1 17 ++ [.advance 1 false, .fire 0 0])).server := by
  have resting : (run (step sampleHost) sampleStart (createdSession ++ removal 1 17)).server.heap.all isAtRest = true := by
    decide +kernel
  have unloaded : (run (step sampleHost) sampleStart (createdSession ++ removal 1 17)).server.memGames = [] := by
    decide +kernel
  have others : (run (step sampleHost) sampleStart (createdSession ++ removal 1 17)).threads.all
      (fun thread => !loads 1 thread.stage) = true := by decide +kernel
  refine removed_silent sample_booted (fun _ member => nomatch member) (removing_of_deletes (by decide +kernel)) ?_ [] _
  constructor
  · exact fun game member _ => atRest_iff.mp (List.all_eq_true.mp resting game member)
  · decide +kernel
  · intro gameId _
    left
    rw [unloaded]
    exact fun ref member => nomatch member
  · intro other thread found _ gameIds
    have free := List.all_eq_true.mp others thread (List.mem_of_getElem? found)
    constructor
    · intro stage
      rw [stage] at free
      simp [loads] at free
    · intro stage
      rw [stage] at free
      simp [loads] at free

/-- A request to remove the session that has resolved. -/
def removed (sessionId : Nat) (thread : Thread) : Bool :=
  match thread.asked, thread.request with
  | .remove other, .resolve (some _) => other = sessionId
  | _, _ => false

/-- Removed in its first round, the session's game is saved when the round's time is up. -/
theorem removedGame_saves :
    (run (step sampleHost) sampleStart (createdSession ++ (bothReady ++ removal 3 18))).threads[3]?.any (removed 1) = true ∧
      ¬Silent (Belonged sampleHost sampleStart (createdSession ++ (bothReady ++ removal 3 17)) · 1)
        (run (step sampleHost) sampleStart (createdSession ++ (bothReady ++ removal 3 18))).server
        (run (step sampleHost) sampleStart (createdSession ++ (bothReady ++ removal 3 18) ++ [.fire 0 0])).server := by
  refine ⟨by decide +kernel, fun silent => ?_⟩
  have before : (run (step sampleHost) sampleStart (createdSession ++ (bothReady ++ removal 3 18))).server.heap[0]?.map
      (fun game => (outputs game).length) = some 4 := by decide +kernel
  have after : (run (step sampleHost) sampleStart
      (createdSession ++ (bothReady ++ removal 3 18) ++ [.fire 0 0])).server.heap[0]?.map
      (fun game => (game.game.gameId, (outputs game).length)) = some ("", 5) := by decide +kernel
  have stored : (run (step sampleHost) sampleStart createdSession).server.db.games.any
      (fun row => row.gameId = "" && row.sessionId = 1) = true := by decide +kernel
  obtain ⟨row, member, own⟩ := List.any_eq_true.mp stored
  rw [Bool.and_eq_true] at own
  have belongs : Belongs (run (step sampleHost) sampleStart createdSession) "" 1 :=
    .inl ⟨row, member, by simpa using own.1, by simpa using own.2⟩
  obtain ⟨game', found', same⟩ := Option.map_eq_some_iff.mp after
  have mine : game'.game.gameId = "" := congrArg Prod.fst same
  have more : (outputs game').length = 5 := congrArg Prod.snd same
  obtain ⟨game, found, equal⟩ := silent 0 game' found' (by
    rw [mine]
    exact ⟨createdSession, bothReady ++ removal 3 17, rfl, belongs⟩)
  rw [found] at before
  have fewer : (outputs game).length = 4 := Option.some.inj before
  rw [equal, fewer] at more
  cases more

end DfStudy.Quiescence
