import DfStudy.CreationOrder
import DfStudy.Mentions
import DfStudy.Quiescence

/-! The games of one session, played one after the other. One of them is the current one, in the table and for whoever
joins. Those before it have stopped, and those after it have not started. -/

namespace DfStudy.GameSequence
open Rounds Games GameFrames GameControl GameInvariant GameEffects Tables Servers MemGames ServerFrames Requests Processes Ownership
open Registry Mentions SessionSetup LiveGame
open Quiescence (spontaneous Placed act_heap)

/-! Moves of the current game that a game asks for when it stops. -/

def moveOf : Effect → Option (Nat × String)
  | .setCurrentGame sessionId gameId => some (sessionId, gameId)
  | _ => none

def hooks (game : LiveGame) : List (Nat × String) := game.game.cbMap.stop.flatMap forked

theorem moveOf_ignores (effect : Effect) (quiet : routine effect) : moveOf effect = none := by
  cases effect with
  | setCurrentGame sessionId gameId => cases quiet
  | _ => rfl

theorem mem_hooks {game : LiveGame} {sessionId : Nat} {gameId : String} :
    (sessionId, gameId) ∈ hooks game ↔ .setCurrentGame sessionId gameId ∈ game.game.cbMap.stop := by
  unfold hooks
  rw [List.mem_flatMap]
  constructor
  · rintro ⟨callback, member, listed⟩
    cases callback with
    | triggerState => cases listed
    | setCurrentGame session next =>
      cases List.mem_singleton.mp listed
      exact member
  · exact fun member => ⟨_, member, List.mem_singleton_self _⟩

def moves (s : LiveGame) : List (Nat × String) := s.effects.filterMap moveOf

theorem moves_append {s s' : LiveGame} (block : List Effect) (effects : s'.effects = s.effects ++ block) :
    moves s' = moves s ++ block.filterMap moveOf := by
  unfold moves
  rw [effects, List.filterMap_append]

theorem moves_begin (s : LiveGame) (players : List Player) (player : Player) : moves (begin s players player) = moves s := by
  rw [moves_append (s := s) [.trigger (.playerReady player)] rfl]
  exact List.append_nil _

theorem moves_enter (s : LiveGame) (round : Nat) (roundObj : Round) : moves (enter s round roundObj) = moves s := by
  have ignored : (roundBlock (entered s round roundObj) round).filterMap moveOf = [] := by
    rw [observe_roundBlock moveOf_ignores]
    simp [moveOf]
  rw [moves_append (s := s) (roundBlock (entered s round roundObj) round) rfl, ignored, List.append_nil]

theorem moves_close (s : LiveGame) (round : Nat) : moves (close s round) = moves s ++ hooks s := by
  rw [moves_append (s := s) (stopBlock (ended (s.setCurrentRound round))) rfl, observe_stopBlock moveOf_ignores]
  exact congrArg (moves s ++ ·) List.filterMap_some

theorem moves_started (s : LiveGame) : moves (adding s (startBlock s.game ++ stateBlock s.game)) = moves s := by
  rw [moves_append (s := s) _ rfl, List.filterMap_append, observe_startBlock moveOf_ignores,
    observe_stateBlock moveOf_ignores]
  exact List.append_nil _

/-- A game asks for its moves once, when it stops. -/
structure Stops (s s' : LiveGame) : Prop where
  running : s.game.endTime = none
  stopped : s'.game.endTime.isSome
  moves : moves s' = moves s ++ hooks s

theorem move_once {s s' : LiveGame} {action : Action} (move : Move s action s') :
    s'.game.endTime = s.game.endTime ∧ moves s' = moves s ∨ Stops s s' := by
  cases move with
  | still action refused => exact .inl ⟨rfl, rfl⟩
  | readied players player block published ids =>
    refine .inl ⟨rfl, ?_⟩
    rw [moves_append (s := s) _ rfl, filterMap_cons_toList]
    rcases published with rfl | ⟨rfl, _⟩
    · rw [observe_stateBlock moveOf_ignores]
      exact List.append_nil _
    · exact List.append_nil _
  | exited child ok pid found =>
    rw [finish_eq found]
    refine .inl ⟨rfl, ?_⟩
    rw [moves_append (s := s) _ rfl, filterMap_cons_toList, List.filterMap_map]
    simp [moveOf]
  | joined socket => exact .inl ⟨rfl, rfl⟩
  | begun players player roundObj phase first ids s' result =>
    subst result
    refine .inl ⟨rfl, ?_⟩
    rw [moves_started, moves_enter, moves_begin]
  | begunEmpty players player phase empty ids s' result =>
    subst result
    refine .inr ⟨phase.endTime, rfl, ?_⟩
    rw [moves_started, moves_close, moves_begin]
    rfl
  | answered action answer roundObj phase current accepted =>
    refine .inl ⟨rfl, ?_⟩
    rw [moves_append (s := s) (answerBlock s.game answer) rfl, observe_answerBlock moveOf_ignores]
    exact List.append_nil _
  | advanced handle roundObj phase next pending => exact .inl ⟨rfl, moves_enter _ _ _⟩
  | finished handle phase last pending => exact .inr ⟨phase.endTime, rfl, moves_close s _⟩

/-- What the event loop does to a game that has not been started: nothing is saved, and nothing moves. -/
theorem unstarted_spontaneous {game : LiveGame} (phase : Unstarted game) {action : Action} (own : spontaneous action) :
    (Games.step game action).game = game.game ∧ forks (Games.step game action) game.effects.length = [] := by
  have still : forks game game.effects.length = [] := by simp [forks]
  cases action with
  | fire handle =>
    have same : game.fire handle = game := fire_unknown game handle (by simp [phase.timeouts])
    change (game.fire handle).game = _ ∧ forks (game.fire handle) _ = []
    rw [same]
    exact ⟨rfl, still⟩
  | finish pid ok =>
    change (game.finish pid ok).game = _ ∧ forks (game.finish pid ok) _ = []
    cases found : game.children.find? (·.pid = pid) with
    | none =>
      have same : game.finish pid ok = game := by
        unfold LiveGame.finish
        rw [found]
      rw [same]
      exact ⟨rfl, still⟩
    | some child =>
      rw [finish_eq found]
      refine ⟨rfl, ?_⟩
      change ((game.effects ++ Effect.exit child ok :: _).drop game.effects.length).filterMap (forkOf game.game.gameId) = []
      rw [List.drop_left, List.filterMap_eq_nil_iff]
      intro effect member
      rcases List.mem_cons.mp member with rfl | executed
      · rfl
      · obtain ⟨_, _, rfl⟩ := List.mem_map.mp executed
        rfl
  | _ => cases own

/-! The rows. -/

/-- The rows of the session in a table of games: one for each of the ids, in this order, and one of them current. -/
structure Sheet (sessionId : Nat) (gameIds : List String) (current : Nat) (table : List GameRow) : Prop where
  distinct : gameIds.Nodup
  rows : (table.filter (·.sessionId = sessionId)).map (fun row => (row.gameId, row.gameOrder)) = gameIds.zipIdx
  own : ∀ row ∈ table, row.gameId ∈ gameIds → row.sessionId = sessionId
  flags : ∀ row ∈ table, row.sessionId = sessionId → (row.isCurrent = true ↔ gameIds[current]? = some row.gameId)
  waiting : ∀ row ∈ table, row.sessionId = sessionId → ∀ place, current < place → gameIds[place]? = some row.gameId →
    row.gameData.startTime = none

section
variable {sessionId : Nat} {gameIds : List String} {current : Nat} {table : List GameRow}

theorem Sheet.ids (sheet : Sheet sessionId gameIds current table) :
    (table.filter (·.sessionId = sessionId)).map (·.gameId) = gameIds := by
  have keys := congrArg (List.map Prod.fst) sheet.rows
  rw [List.map_map, List.zipIdx_map_fst] at keys
  exact keys

theorem Sheet.listed (sheet : Sheet sessionId gameIds current table) {row : GameRow} (member : row ∈ table)
    (own : row.sessionId = sessionId) : row.gameId ∈ gameIds := by
  rw [← sheet.ids]
  exact List.mem_map_of_mem (List.mem_filter.mpr ⟨member, by simpa using own⟩)

theorem Sheet.stored (sheet : Sheet sessionId gameIds current table) {gameId : String} (listed : gameId ∈ gameIds) :
    ∃ row ∈ table, row.gameId = gameId ∧ row.sessionId = sessionId := by
  rw [← sheet.ids] at listed
  obtain ⟨row, member, same⟩ := List.mem_map.mp listed
  rw [List.mem_filter] at member
  exact ⟨row, member.1, same, by simpa using member.2⟩

/-- Rows of other sessions come. -/
theorem Sheet.append (sheet : Sheet sessionId gameIds current table) {row : GameRow} (other : row.sessionId ≠ sessionId)
    (unlisted : row.gameId ∉ gameIds) : Sheet sessionId gameIds current (table ++ [row]) := by
  have each : ∀ {old : GameRow}, old ∈ table ++ [row] → old ∈ table ∨ old = row := by
    intro old member
    rcases List.mem_append.mp member with before | new
    · exact .inl before
    · exact .inr (List.mem_singleton.mp new)
  refine ⟨sheet.distinct, ?_, ?_, ?_, ?_⟩
  · rw [List.filter_append, List.filter_singleton]
    simpa [other] using sheet.rows
  · intro old member listed
    rcases each member with before | rfl
    · exact sheet.own old before listed
    · exact absurd listed unlisted
  · intro old member own
    rcases each member with before | rfl
    · exact sheet.flags old before own
    · exact absurd own other
  · intro old member own
    rcases each member with before | rfl
    · exact sheet.waiting old before own
    · exact absurd own other

/-- Rows of other sessions go. -/
theorem Sheet.filter (sheet : Sheet sessionId gameIds current table) {gameId : String} (unlisted : gameId ∉ gameIds) :
    Sheet sessionId gameIds current (table.filter (·.gameId ≠ gameId)) := by
  have kept : (table.filter (·.gameId ≠ gameId)).filter (·.sessionId = sessionId) = table.filter (·.sessionId = sessionId) := by
    rw [List.filter_comm, List.filter_eq_self]
    intro row member
    rw [List.mem_filter] at member
    have listed := sheet.listed member.1 (by simpa using member.2)
    have apart : row.gameId ≠ gameId := fun same => unlisted (same ▸ listed)
    simpa using apart
  have each : ∀ {row : GameRow}, row ∈ table.filter (·.gameId ≠ gameId) → row ∈ table := fun member =>
    (List.mem_filter.mp member).1
  refine ⟨sheet.distinct, by rw [kept]; exact sheet.rows, ?_, ?_, ?_⟩
  · exact fun row member => sheet.own row (each member)
  · exact fun row member => sheet.flags row (each member)
  · exact fun row member => sheet.waiting row (each member)

/-- Rows are rewritten in their places. -/
theorem Sheet.map (sheet : Sheet sessionId gameIds current table) {change : GameRow → GameRow} {next : Nat}
    (keeps : ∀ row, (change row).gameId = row.gameId ∧ (change row).sessionId = row.sessionId ∧
      (change row).gameOrder = row.gameOrder)
    (moved : ∀ row ∈ table, row.sessionId = sessionId →
      ((change row).isCurrent = true ↔ gameIds[next]? = some row.gameId))
    (waiting : ∀ row ∈ table, row.sessionId = sessionId → ∀ place, next < place → gameIds[place]? = some row.gameId →
      (change row).gameData.startTime = none) : Sheet sessionId gameIds next (table.map change) := by
  refine ⟨sheet.distinct, ?_, ?_, ?_, ?_⟩
  · rw [List.filter_map, List.map_map, ← sheet.rows]
    have same : ((fun row : GameRow => decide (row.sessionId = sessionId)) ∘ change) =
        fun row => decide (row.sessionId = sessionId) := by
      funext row
      simp [(keeps row).2.1]
    rw [same]
    apply List.map_congr_left
    intro row _
    simp [(keeps row).1, (keeps row).2.2]
  · intro row member listed
    obtain ⟨old, present, rfl⟩ := List.mem_map.mp member
    rw [(keeps old).1] at listed
    rw [(keeps old).2.1]
    exact sheet.own old present listed
  · intro row member own
    obtain ⟨old, present, rfl⟩ := List.mem_map.mp member
    rw [(keeps old).2.1] at own
    rw [(keeps old).1]
    exact moved old present own
  · intro row member own place later found
    obtain ⟨old, present, rfl⟩ := List.mem_map.mp member
    rw [(keeps old).2.1] at own
    rw [(keeps old).1] at found
    exact waiting old present own place later found

theorem Sheet.place (sheet : Sheet sessionId gameIds current table) {first second : Nat} {gameId : String}
    (found : gameIds[first]? = some gameId) (found' : gameIds[second]? = some gameId) : first = second :=
  (List.getElem?_inj (List.getElem?_eq_some_iff.mp found).1 sheet.distinct).mp (found.trans found'.symm)

theorem Sheet.updateGame {db : Database} (sheet : Sheet sessionId gameIds current db.games) {gameId : String} {data : GameData}
    (unstarted : ∀ place, current < place → gameIds[place]? = some gameId → data.startTime = none) :
    Sheet sessionId gameIds current (db.updateGame gameId data).games := by
  refine sheet.map (fun row => ?_) (fun row member own => ?_) fun row member own place later found => ?_
  · split <;> exact ⟨rfl, rfl, rfl⟩
  · rw [← sheet.flags row member own]
    split <;> exact Iff.rfl
  · split
    next same => exact unstarted place later (same ▸ found)
    next => exact sheet.waiting row member own place later found

/-- The current game of another session changes. -/
theorem Sheet.elsewhere {db : Database} (sheet : Sheet sessionId gameIds current db.games) {other : Nat} {gameId : String}
    (apart : other ≠ sessionId) (unlisted : gameId ∉ gameIds) :
    Sheet sessionId gameIds current (db.setCurrentGame other gameId).games := by
  unfold Database.setCurrentGame
  dsimp only
  rw [List.map_map]
  refine sheet.map (fun row => ?_) (fun row member own => ?_) fun row member own place later found => ?_
  · dsimp only [Function.comp_apply]
    split <;> split <;> exact ⟨rfl, rfl, rfl⟩
  · have away : row.sessionId ≠ other := fun same => apart (same.symm.trans own)
    have different : row.gameId ≠ gameId := fun same => unlisted (same ▸ sheet.listed member own)
    rw [← sheet.flags row member own]
    simp [away, different]
  · rw [← sheet.waiting row member own place later found]
    dsimp only [Function.comp_apply]
    split <;> split <;> rfl

/-- The next game becomes the current one. -/
theorem Sheet.advance {db : Database} (sheet : Sheet sessionId gameIds current db.games) {gameId : String}
    (next : gameIds[current + 1]? = some gameId) :
    Sheet sessionId gameIds (current + 1) (db.setCurrentGame sessionId gameId).games := by
  unfold Database.setCurrentGame
  dsimp only
  rw [List.map_map]
  refine sheet.map (fun row => ?_) (fun row member own => ?_) fun row member own place later found => ?_
  · dsimp only [Function.comp_apply]
    split <;> split <;> exact ⟨rfl, rfl, rfl⟩
  · rw [next, Option.some_inj]
    by_cases same : row.gameId = gameId
    · simp [own, same]
    · simp [own, same, Ne.symm same]
  · rw [← sheet.waiting row member own place (by omega) found]
    dsimp only [Function.comp_apply]
    split <;> split <;> rfl

end

/-! The games. -/

/-- A game of the session, by its place and that of the current one. -/
structure InTurn (current place : Nat) (game : LiveGame) : Prop where
  phase : Phase game
  wired : Wired game
  ended : place < current → game.game.endTime.isSome
  waiting : current < place → game.game.startTime = none

def among (gameIds : List String) (moves : List (Nat × String)) : List (Nat × String) := moves.filter (·.2 ∈ gameIds)

/-- The games of the session in memory. Each of them asks for the move to the one after it, if for any. -/
structure Cast (sessionId : Nat) (gameIds : List String) (current : Nat) (heap : List LiveGame) : Prop where
  games : ∀ game ∈ heap, ∀ place, gameIds[place]? = some (idOf game) → InTurn current place game
  single : ∀ (first second : Nat) (gameId : String), (heap.map idOf)[first]? = some gameId →
    (heap.map idOf)[second]? = some gameId → gameId ∈ gameIds → first = second
  hooks : ∀ game ∈ heap, among gameIds (hooks game) = [] ∨ ∃ place next, gameIds[place]? = some (idOf game) ∧
    gameIds[place + 1]? = some next ∧ among gameIds (hooks game) = [(sessionId, next)]

def taskMove : Task → Option (Nat × String)
  | .setCurrentGame sessionId gameId => some (sessionId, gameId)
  | .saveGame _ _ => none

/-- The moves to games of the session that are to be committed. -/
def requested (gameIds : List String) (tasks : List Task) : List (Nat × String) := among gameIds (tasks.filterMap taskMove)

/-- The current game has asked for the move to the next one. -/
def Asked (sessionId : Nat) (gameIds : List String) (current : Nat) (heap : List LiveGame) : Prop :=
  ∃ game ∈ heap, gameIds[current]? = some (idOf game) ∧
    ∀ gameId, gameIds[current + 1]? = some gameId → (sessionId, gameId) ∈ moves game

/-- The current game has stopped, and the move to the next one is under way. -/
structure Moving (sessionId : Nat) (gameIds : List String) (current : Nat) (s : Server) : Prop where
  next : ∃ gameId, gameIds[current + 1]? = some gameId ∧ requested gameIds s.tasks = [(sessionId, gameId)]
  stopped : ∀ game ∈ s.heap, gameIds[current]? = some (idOf game) → game.game.endTime.isSome
  asked : Asked sessionId gameIds current s.heap

structure InProgress (sessionId : Nat) (gameIds : List String) (current : Nat) (s : Server) : Prop where
  sheet : Sheet sessionId gameIds current s.db.games
  cast : Cast sessionId gameIds current s.heap
  moves : requested gameIds s.tasks = [] ∨ Moving sessionId gameIds current s
  saves : ∀ gameId data, .saveGame gameId data ∈ s.tasks → ∀ place, current < place → gameIds[place]? = some gameId →
    data.startTime = none

section
variable {sessionId : Nat} {gameIds : List String} {current : Nat}

theorem requested_append (first second : List Task) :
    requested gameIds (first ++ second) = requested gameIds first ++ requested gameIds second := by
  unfold requested among
  rw [List.filterMap_append, List.filter_append]

/-- The games are still there, and take back no move they have asked for. -/
def Stay (heap heap' : List LiveGame) : Prop :=
  ∀ game ∈ heap, ∃ game' ∈ heap', idOf game' = idOf game ∧ moves game ⊆ moves game'

theorem Asked.stay {heap heap' : List LiveGame} (asked : Asked sessionId gameIds current heap) (stay : Stay heap heap') :
    Asked sessionId gameIds current heap' := by
  obtain ⟨game, member, here, wanted⟩ := asked
  obtain ⟨game', member', same, more⟩ := stay game member
  exact ⟨game', member', same ▸ here, fun gameId next => more (wanted gameId next)⟩

theorem stay_append (heap more : List LiveGame) : Stay heap (heap ++ more) :=
  fun game member => ⟨game, List.mem_append_left _ member, rfl, List.Subset.refl _⟩

/-! One turn of one game. -/

theorem moves_forks (game : LiveGame) (action : Action) : moves (Games.step game action) =
    moves game ++ (forks (Games.step game action) game.effects.length).filterMap taskMove := by
  obtain ⟨_, block, effects, _⟩ := extends_step game action
  rw [moves_append block effects]
  unfold forks
  rw [effects, List.drop_left, List.filterMap_filterMap]
  congr 2
  funext effect
  cases effect <;> rfl

theorem forks_hooks {game : LiveGame} {action : Action} (unhooked : among gameIds (hooks game) = []) :
    requested gameIds (forks (Games.step game action) game.effects.length) = [] := by
  unfold requested among at *
  rw [List.filter_eq_nil_iff] at unhooked ⊢
  intro move member
  obtain ⟨task, forked, moved⟩ := List.mem_filterMap.mp member
  rcases forks_step game action task forked with ⟨saved, rfl, _⟩ | ⟨session, next, rfl, listens⟩
  · cases moved
  · cases moved
    exact unhooked _ (mem_hooks.mpr listens)

variable {place : Nat} {game : LiveGame} {action : Action}

theorem InTurn.move (turn : InTurn current place game) (action : Action) : Move game action (Games.step game action) :=
  move_step turn.phase turn.wired action

theorem InTurn.step (turn : InTurn current place game) (allowed : current < place → spontaneous action) :
    InTurn current place (Games.step game action) where
  phase := phase_move turn.phase (turn.move action)
  wired := wired_move (turn.move action) turn.wired
  ended := by
    intro before
    rcases move_once (turn.move action) with ⟨same, _⟩ | stops
    · rw [same]
      exact turn.ended before
    · exact stops.stopped
  waiting := by
    intro later
    have unstarted := unstarted_of_none turn.phase (turn.waiting later)
    rw [(unstarted_spontaneous unstarted (allowed later)).1]
    exact turn.waiting later

/-- Only the current game asks for a move, in the turn in which it stops. -/
theorem InTurn.forks (turn : InTurn current place game) (allowed : current < place → spontaneous action) :
    requested gameIds (Servers.forks (Games.step game action) game.effects.length) = [] ∧
        (Games.step game action).game.endTime = game.game.endTime ∨
      place = current ∧ Stops game (Games.step game action) ∧
        requested gameIds (Servers.forks (Games.step game action) game.effects.length) = among gameIds (GameSequence.hooks game) := by
  have forked := moves_forks game action
  rcases Nat.lt_trichotomy place current with before | rfl | later
  · rcases move_once (turn.move action) with ⟨same, none⟩ | stops
    · rw [none, List.self_eq_append_right] at forked
      refine .inl ⟨?_, same⟩
      unfold requested
      rw [forked]
      rfl
    · have ended := turn.ended before
      rw [stops.running] at ended
      cases ended
  · rcases move_once (turn.move action) with ⟨same, none⟩ | stops
    · rw [none, List.self_eq_append_right] at forked
      refine .inl ⟨?_, same⟩
      unfold requested
      rw [forked]
      rfl
    · refine .inr ⟨rfl, stops, ?_⟩
      unfold requested
      rw [stops.moves, List.append_cancel_left_eq] at forked
      rw [← forked]
  · obtain ⟨same, none⟩ := unstarted_spontaneous (unstarted_of_none turn.phase (turn.waiting later)) (allowed later)
    rw [none, same]
    exact .inl ⟨rfl, rfl⟩

theorem stay_set {heap : List LiveGame} {address : Nat} (found : heap[address]? = some game) (action : Action) :
    Stay heap (heap.set address (Games.step game action)) := by
  intro old member
  obtain ⟨position, here⟩ := List.mem_iff_getElem?.mp member
  by_cases turned : address = position
  · subst turned
    cases here.symm.trans found
    refine ⟨_, List.mem_set (List.getElem?_eq_some_iff.mp found).1 _, (extends_step game action).alike.gameId, ?_⟩
    rw [moves_forks]
    exact List.subset_append_left _ _
  · have kept := (List.getElem?_set_ne (l := heap) (a := Games.step game action) turned).trans here
    exact ⟨old, List.mem_of_getElem? kept, rfl, List.Subset.refl _⟩

theorem act_ids (s : Server) (address : Nat) (action : Action) : (act s address action).heap.map idOf = s.heap.map idOf := by
  apply List.ext_getElem?
  intro position
  rw [List.getElem?_map, List.getElem?_map, act_heap]
  split
  next =>
    rw [Option.map_map]
    congr 1
    funext game
    exact (extends_step game action).alike.gameId
  next => rfl

/-- As long as the current game runs, no move to another one is to be committed. -/
theorem InProgress.idle {s : Server} (progress : InProgress sessionId gameIds current s) (member : game ∈ s.heap)
    (here : gameIds[current]? = some (idOf game)) (running : game.game.endTime = none) : requested gameIds s.tasks = [] := by
  rcases progress.moves with none | moving
  · exact none
  · have ended := moving.stopped game member here
    rw [running] at ended
    cases ended

/-- The current game stops, and asks for the move to the next one. -/
theorem InProgress.stops {s : Server} {address : Nat} (progress : InProgress sessionId gameIds current s)
    (found : s.heap[address]? = some game) (here : gameIds[current]? = some (idOf game))
    (stops : Stops game (Games.step game action))
    (asked : requested gameIds (forks (Games.step game action) game.effects.length) = among gameIds (hooks game))
    {next : String} (follows : gameIds[current + 1]? = some next)
    (hooked : among gameIds (hooks game) = [(sessionId, next)]) :
    Moving sessionId gameIds current { s with
      heap := s.heap.set address (Games.step game action)
      tasks := s.tasks ++ forks (Games.step game action) game.effects.length } := by
  have bound := (List.getElem?_eq_some_iff.mp found).1
  have idle := progress.idle (List.mem_of_getElem? found) here stops.running
  have sameId : idOf (Games.step game action) = idOf game := (extends_step game action).alike.gameId
  have ids : (s.heap.set address (Games.step game action)).map idOf = s.heap.map idOf := by
    have acted := act_ids s address action
    unfold Processes.act at acted
    rw [found] at acted
    exact acted
  refine ⟨⟨next, follows, ?_⟩, fun game' member listed => ?_, Games.step game action, List.mem_set bound _,
    here.trans (congrArg _ sameId.symm), fun gameId following => ?_⟩
  · dsimp only
    rw [requested_append, idle, List.nil_append, asked, hooked]
  · obtain ⟨position, there⟩ := List.mem_iff_getElem?.mp member
    have mine : ((s.heap.set address (Games.step game action)).map idOf)[position]? = some (idOf game) := by
      rw [List.getElem?_map, there, ← Option.some.inj (listed.symm.trans here)]
      rfl
    have first : (s.heap.map idOf)[address]? = some (idOf game) := by
      rw [List.getElem?_map, found]
      rfl
    rw [ids] at mine
    have equal := progress.cast.single address position (idOf game) first mine (List.mem_of_getElem? here)
    subst equal
    rw [List.getElem?_set_self bound] at there
    cases there
    exact stops.stopped
  · have hooked' : (sessionId, gameId) ∈ among gameIds (hooks game) := by
      rw [hooked, ← Option.some.inj (follows.symm.trans following)]
      exact List.mem_singleton_self _
    rw [stops.moves]
    exact List.mem_append_right _ (List.mem_of_mem_filter hooked')

theorem InProgress.act {s : Server} {address : Nat} (progress : InProgress sessionId gameIds current s)
    (allowed : ∀ game, s.heap[address]? = some game → ∀ place, gameIds[place]? = some (idOf game) → current < place →
      spontaneous action) : InProgress sessionId gameIds current (act s address action) := by
  have ids := act_ids s address action
  unfold Processes.act at ids ⊢
  split
  next => exact progress
  next game found =>
    rw [found] at ids
    have there := List.mem_of_getElem? found
    have alike := (extends_step game action).alike
    have each : ∀ game' ∈ s.heap.set address (Games.step game action), game' ∈ s.heap ∨ game' = Games.step game action :=
      fun game' member => List.mem_or_eq_of_mem_set member
    have sameId : idOf (Games.step game action) = idOf game := alike.gameId
    have sameHooks : hooks (Games.step game action) = hooks game := congrArg (·.flatMap forked) alike.stop
    refine ⟨progress.sheet, ⟨?_, ?_, ?_⟩, ?_, ?_⟩
    · intro game' member place listed
      rcases each game' member with old | rfl
      · exact progress.cast.games game' old place listed
      · rw [sameId] at listed
        exact (progress.cast.games game there place listed).step (allowed game found place listed)
    · rw [ids]
      exact progress.cast.single
    · intro game' member
      rcases each game' member with old | rfl
      · exact progress.cast.hooks game' old
      · rw [sameHooks, sameId]
        exact progress.cast.hooks game there
    · dsimp only
      rw [requested_append]
      have stillMoving : requested gameIds (forks (Games.step game action) game.effects.length) = [] →
          (gameIds[current]? = some (idOf game) → (Games.step game action).game.endTime = game.game.endTime) →
          requested gameIds s.tasks = [] ∨ Moving sessionId gameIds current s →
          requested gameIds s.tasks ++ requested gameIds (forks (Games.step game action) game.effects.length) = [] ∨
            Moving sessionId gameIds current { s with
              heap := s.heap.set address (Games.step game action)
              tasks := s.tasks ++ forks (Games.step game action) game.effects.length } := by
        intro none sameEnd moves
        rw [none, List.append_nil]
        refine moves.imp_right fun moving => ⟨?_, fun game' member listed => ?_, moving.asked.stay (stay_set found action)⟩
        · dsimp only
          rw [requested_append, none, List.append_nil]
          exact moving.next
        · rcases each game' member with old | rfl
          · exact moving.stopped game' old listed
          · rw [sameId] at listed
            rw [sameEnd listed]
            exact moving.stopped game there listed
      by_cases own : ∃ place : Nat, gameIds[place]? = some (idOf game)
      · obtain ⟨place, listed⟩ := own
        have turn := progress.cast.games game there place listed
        rcases @InTurn.forks gameIds _ _ _ _ turn (allowed game found place listed) with ⟨none, same⟩ | ⟨rfl, stops, asked⟩
        · exact stillMoving none (fun _ => same) progress.moves
        · have idle := progress.idle there listed stops.running
          rw [idle, List.nil_append, asked]
          rcases progress.cast.hooks game there with none | ⟨place', next, listed', follows, hooked⟩
          · exact .inl none
          · have same := progress.sheet.place listed' listed
            subst same
            exact .inr (progress.stops found listed stops asked follows hooked)
      · have none : among gameIds (hooks game) = [] := by
          rcases progress.cast.hooks game there with none | ⟨place, _, listed, _⟩
          · exact none
          · exact (own ⟨place, listed⟩).elim
        exact stillMoving (forks_hooks none) (fun listed => (own ⟨current, listed⟩).elim) progress.moves
    · intro gameId data member place later listed
      rcases List.mem_append.mp member with old | new
      · exact progress.saves gameId data old place later listed
      · rcases forks_step game action _ new with ⟨saved, same, _⟩ | ⟨_, _, same, _⟩
        · cases same
          have turn := progress.cast.games game there place listed
          have unstarted := unstarted_of_none turn.phase (turn.waiting later)
          rw [(unstarted_spontaneous unstarted (allowed game found place listed later)).2] at new
          cases new
        · cases same

/-! Operations of other requests. -/

theorem InTurn.bare {game' : LiveGame} (turn : InTurn current place game) (same : bare game' = bare game)
    (wired : Wired game → Wired game') : InTurn current place game' := by
  have startTime : game'.game.startTime = game.game.startTime := congrArg (·.game.startTime) same
  have endTime : game'.game.endTime = game.game.endTime := congrArg (·.game.endTime) same
  refine ⟨?_, wired turn.wired, endTime ▸ turn.ended, startTime ▸ turn.waiting⟩
  obtain ⟨⟨_, _, _, _, _, _, _⟩, _, _, _, _, _, _, _⟩ := game'
  obtain ⟨⟨_, _, _, _, _, _, _⟩, _, _, _, _, _, _, _⟩ := game
  simp only [ServerFrames.bare, LiveGame.mk.injEq, Game.mk.injEq] at same
  obtain ⟨⟨rfl, rfl, rfl, rfl, rfl, rfl, -⟩, rfl, rfl, rfl, rfl, rfl, rfl, rfl⟩ := same
  refine Phase.congr ?_ ?_ ?_ ?_ turn.phase <;> rfl

theorem stay_modify {heap : List LiveGame} {change : LiveGame → LiveGame} (bares : ∀ game, bare (change game) = bare game)
    (address : Nat) : Stay heap (heap.modify address change) := by
  intro game member
  obtain ⟨position, here⟩ := List.mem_iff_getElem?.mp member
  have there : (heap.modify address change)[position]? = some (if address = position then change game else game) := by
    rw [List.getElem?_modify, here]
    rfl
  refine ⟨_, List.mem_of_getElem? there, ?_⟩
  split
  next =>
    have same : moves (change game) = moves game := congrArg (·.effects.filterMap moveOf) (bares game)
    exact ⟨congrArg (·.game.gameId) (bares game), same ▸ List.Subset.refl _⟩
  next => exact ⟨rfl, List.Subset.refl _⟩

/-- A listener is registered that asks for no move in the session. -/
theorem InProgress.modify {s : Server} (progress : InProgress sessionId gameIds current s) (address : Nat)
    {change : LiveGame → LiveGame} (bares : ∀ game, bare (change game) = bare game)
    (wired : ∀ game, Wired game → Wired (change game))
    (unhooked : ∀ game, among gameIds (hooks (change game)) = among gameIds (hooks game)) :
    InProgress sessionId gameIds current (modifyGame s address change) := by
  have each : ∀ game' ∈ s.heap.modify address change, ∃ game ∈ s.heap, game' = game ∨ game' = change game := by
    intro game' member
    obtain ⟨position, found⟩ := List.mem_iff_getElem?.mp member
    rw [List.getElem?_modify] at found
    obtain ⟨game, there, rfl⟩ := Option.map_eq_some_iff.mp found
    refine ⟨game, List.mem_of_getElem? there, ?_⟩
    split
    next => exact .inr rfl
    next => exact .inl rfl
  have sameId : ∀ game, idOf (change game) = idOf game := fun game => congrArg (·.game.gameId) (bares game)
  have ids : (s.heap.modify address change).map idOf = s.heap.map idOf := by
    apply List.ext_getElem?
    intro position
    rw [List.getElem?_map, List.getElem?_map, List.getElem?_modify, Option.map_eq_map, Option.map_map]
    congr 1
    funext game
    dsimp only [Function.comp_apply]
    split
    next => exact sameId game
    next => rfl
  refine ⟨progress.sheet, ⟨?_, ?_, ?_⟩,
    progress.moves.imp_right fun moving => ⟨moving.next, ?_, moving.asked.stay (stay_modify bares address)⟩, progress.saves⟩
  · intro game' member place listed
    obtain ⟨game, there, rfl | rfl⟩ := each game' member
    · exact progress.cast.games _ there place listed
    · rw [sameId] at listed
      exact (progress.cast.games game there place listed).bare (bares game) (wired game)
  · change (modifyGame s address change).heap.map idOf = _ at ids
    rw [ids]
    exact progress.cast.single
  · intro game' member
    obtain ⟨game, there, rfl | rfl⟩ := each game' member
    · exact progress.cast.hooks _ there
    · rw [unhooked, sameId]
      exact progress.cast.hooks game there
  · intro game' member listed
    obtain ⟨game, there, rfl | rfl⟩ := each game' member
    · exact moving.stopped _ there listed
    · rw [sameId] at listed
      have same : (change game).game.endTime = game.game.endTime := congrArg (·.game.endTime) (bares game)
      rw [same]
      exact moving.stopped game there listed

theorem single_append {heap : List LiveGame} (single : ∀ (first second : Nat) (gameId : String),
      (heap.map idOf)[first]? = some gameId → (heap.map idOf)[second]? = some gameId → gameId ∈ gameIds → first = second)
    (unlisted : idOf game ∉ gameIds) (first second : Nat) (gameId : String)
    (found : ((heap ++ [game]).map idOf)[first]? = some gameId)
    (found' : ((heap ++ [game]).map idOf)[second]? = some gameId) (listed : gameId ∈ gameIds) : first = second := by
  have before : ∀ position : Nat, ((heap ++ [game]).map idOf)[position]? = some gameId →
      (heap.map idOf)[position]? = some gameId := by
    intro position here
    rw [List.map_append, List.getElem?_append] at here
    split at here
    next => exact here
    next =>
      have last := List.mem_singleton.mp (List.mem_of_getElem? here)
      exact absurd (last ▸ listed) unlisted
  exact single first second gameId (before first found) (before second found') listed

theorem requested_saves {tasks : List Task} (saves : ∀ task ∈ tasks, ∃ gameId data, task = .saveGame gameId data) :
    requested gameIds tasks = [] := by
  have none : tasks.filterMap taskMove = [] := by
    rw [List.filterMap_eq_nil_iff]
    intro task member
    obtain ⟨gameId, data, rfl⟩ := saves task member
    rfl
  unfold requested
  rw [none]
  rfl

/-- A game of another session is loaded. -/
theorem InProgress.load {s : Server} (progress : InProgress sessionId gameIds current s) {clock : Nat → Nat} {data : GameData}
    (loaded : deserializeGame clock data = .ok game) (unlisted : data.gameId ∉ gameIds) (memGames : List GameRef) :
    InProgress sessionId gameIds current { s with
      heap := s.heap ++ [game], memGames, tasks := s.tasks ++ forks game 0 } := by
  obtain ⟨own, saves⟩ := loaded_game loaded
  have unknown : idOf game ∉ gameIds := fun listed => unlisted (own ▸ listed)
  have unhooked : among gameIds (hooks game) = [] := by
    unfold hooks
    rw [loaded_stop loaded]
    rfl
  have each : ∀ game' ∈ s.heap ++ [game], game' ∈ s.heap ∨ game' = game := by
    intro game' member
    rcases List.mem_append.mp member with old | new
    · exact .inl old
    · exact .inr (List.mem_singleton.mp new)
  have asked : requested gameIds (s.tasks ++ forks game 0) = requested gameIds s.tasks := by
    have none : requested gameIds (forks game 0) = [] := requested_saves fun task member => by
      obtain ⟨saved, same, _⟩ := saves task member
      exact ⟨_, saved, same⟩
    rw [requested_append, none, List.append_nil]
  refine ⟨progress.sheet, ⟨?_, single_append progress.cast.single unknown, ?_⟩, ?_, ?_⟩
  · intro game' member place listed
    rcases each game' member with old | rfl
    · exact progress.cast.games game' old place listed
    · exact absurd (List.mem_of_getElem? listed) unknown
  · intro game' member
    rcases each game' member with old | rfl
    · exact progress.cast.hooks game' old
    · exact .inl unhooked
  · refine progress.moves.imp asked.trans fun moving => ⟨?_, fun game' member listed => ?_, moving.asked.stay (stay_append _ _)⟩
    · rw [asked]
      exact moving.next
    · rcases each game' member with old | rfl
      · exact moving.stopped game' old listed
      · exact absurd (List.mem_of_getElem? listed) unknown
  · intro gameId saved member place later listed
    rcases List.mem_append.mp member with old | new
    · exact progress.saves gameId saved old place later listed
    · obtain ⟨_, same, _⟩ := saves _ new
      cases same
      exact absurd (List.mem_of_getElem? listed) unlisted

/-- What other requests do while the session is there. -/
def Harmless (sessionId : Nat) (gameIds : List String) : Op → Prop
  | .insertGame row => row.sessionId ≠ sessionId ∧ row.gameId ∉ gameIds
  | .deleteGame gameId => gameId ∉ gameIds
  | .initGameRows rows => ∀ row ∈ rows, row.gameData.gameId ∉ gameIds
  | .chainGames _ games => ∀ game ∈ games, game.gameId ∉ gameIds
  | _ => True

theorem InProgress.chain {s : Server} (progress : InProgress sessionId gameIds current s) {other : Nat} {games : List GameRef}
    (unlisted : ∀ game ∈ games, game.gameId ∉ gameIds) :
    InProgress sessionId gameIds current (chainGames s other games) := by
  induction games with
  | nil => exact progress
  | cons curr games ih =>
    cases games with
    | nil => exact progress
    | cons acc games =>
      have rest := ih fun game member => unlisted game (List.mem_cons_of_mem _ member)
      refine rest.modify curr.address (fun _ => rfl) (fun game wired => ?_) fun game => ?_
      · obtain ⟨more, stop⟩ := wired.stop
        refine { wired with stop := ⟨more ++ [.setCurrentGame other acc.gameId], ?_⟩ }
        change game.game.cbMap.stop ++ _ = _
        rw [stop]
        rfl
      · have unknown : acc.gameId ∉ gameIds := unlisted acc (List.mem_cons_of_mem _ List.mem_cons_self)
        change among gameIds ((game.game.cbMap.stop ++ [_]).flatMap forked) = _
        rw [List.flatMap_append]
        simp [among, hooks, forked, unknown]

theorem InProgress.frame {s s' : Server} (progress : InProgress sessionId gameIds current s)
    (sheet : Sheet sessionId gameIds current s'.db.games) (heap : s'.heap = s.heap) (tasks : s'.tasks = s.tasks) :
    InProgress sessionId gameIds current s' where
  sheet := sheet
  cast := heap ▸ progress.cast
  moves := by
    rw [tasks]
    refine progress.moves.imp_right fun moving => ⟨?_, ?_, ?_⟩
    · rw [tasks]
      exact moving.next
    · rw [heap]
      exact moving.stopped
    · rw [heap]
      exact moving.asked
  saves := by
    rw [tasks]
    exact progress.saves

theorem InProgress.perform {s : Server} (progress : InProgress sessionId gameIds current s) {op : Op}
    (harmless : Harmless sessionId gameIds op) (host : Host) (fails : Bool) :
    InProgress sessionId gameIds current (perform host fails op s).2 := by
  have sheet : Sheet sessionId gameIds current (Servers.perform host fails op s).2.db.games := by
    rcases perform_games host fails op s with same | ⟨row, rfl, same⟩ | ⟨gameId, rfl, same⟩
    · rw [same]
      exact progress.sheet
    · rw [same]
      exact progress.sheet.append harmless.1 harmless.2
    · rw [same]
      exact progress.sheet.filter harmless
  cases op with
  | initGameRows rows =>
    change InProgress sessionId gameIds current (initGameRows host rows s).2
    unfold initGameRows
    refine initGames_keeps host (InProgress sessionId gameIds current) (fun s data game member progress loaded => ?_) progress
    obtain ⟨row, present, rfl⟩ := List.mem_map.mp member
    exact progress.load loaded (harmless row ((List.perm_insertionSort _ rows).mem_iff.mp present)) _
  | chainGames other games => exact progress.chain harmless
  | onRound attack grpcPort =>
    change InProgress sessionId gameIds current (Servers.onRound s attack grpcPort)
    unfold Servers.onRound
    split
    next => exact progress
    next ref _ =>
      refine progress.modify ref.address (fun _ => rfl) (fun game wired => ?_) fun _ => rfl
      obtain ⟨more, round⟩ := wired.round
      refine { wired with round := ⟨more ++ [.scheduledAttack grpcPort attack], ?_⟩ }
      change game.game.cbMap.round ++ _ = _
      rw [round]
      rfl
  | joinGame socket ref =>
    have joined : InProgress sessionId gameIds current (modifyGame s ref.address (·.onState socket)) :=
      progress.modify ref.address (fun _ => rfl) (fun game wired => wired.onState socket) fun _ => rfl
    exact joined.frame progress.sheet rfl rfl
  | removeMemGame ref => exact progress.frame sheet rfl rfl
  | randomUUID => exact progress.frame sheet rfl rfl
  | _ =>
    exact progress.frame sheet (by rw [perform_frame host fails _ s rfl]) (by rw [perform_frame host fails _ s rfl])

/-! Committed writes. -/

theorem requested_eraseIdx (tasks : List Task) (index : Nat) :
    (requested gameIds (tasks.eraseIdx index)).Sublist (requested gameIds tasks) :=
  ((List.eraseIdx_sublist tasks index).filterMap taskMove).filter _

/-- A write that is a move to a game of the session is the only one. -/
theorem requested_once {tasks : List Task} {index other : Nat} {gameId : String} {move : Nat × String}
    (found : tasks[index]? = some (.setCurrentGame other gameId)) (listed : gameId ∈ gameIds)
    (once : requested gameIds tasks = [move]) : move = (other, gameId) ∧ requested gameIds (tasks.eraseIdx index) = [] := by
  obtain ⟨bound, here⟩ := List.getElem?_eq_some_iff.mp found
  have parts : tasks = tasks.take index ++ [.setCurrentGame other gameId] ++ tasks.drop (index + 1) := by
    rw [← here, List.append_assoc, List.singleton_append, ← List.drop_eq_getElem_cons bound, List.take_append_drop]
  have asked : requested gameIds [.setCurrentGame other gameId] = [(other, gameId)] := by
    simp [requested, among, taskMove, listed]
  rw [parts, requested_append, requested_append, asked] at once
  have count := congrArg List.length once
  simp only [List.length_append, List.length_singleton] at count
  have before : requested gameIds (tasks.take index) = [] := List.length_eq_zero_iff.mp (by omega)
  have after : requested gameIds (tasks.drop (index + 1)) = [] := List.length_eq_zero_iff.mp (by omega)
  rw [before, after] at once
  refine ⟨(List.cons.inj once).1.symm, ?_⟩
  rw [List.eraseIdx_eq_take_drop_succ, requested_append, before, after]
  rfl

/-- The move that the current game has asked for is committed. -/
structure Passes (sessionId : Nat) (gameIds : List String) (current : Nat) (s : Server) (index : Nat) : Prop where
  stopped : ∀ game ∈ s.heap, gameIds[current]? = some (idOf game) → game.game.endTime.isSome
  found : ∃ gameId, gameIds[current + 1]? = some gameId ∧ s.tasks[index]? = some (.setCurrentGame sessionId gameId)
  asked : Asked sessionId gameIds current s.heap

theorem InProgress.erased {s : Server} (progress : InProgress sessionId gameIds current s) {db : Database}
    (sheet : Sheet sessionId gameIds current db.games) (index : Nat) :
    InProgress sessionId gameIds current { s with db, tasks := s.tasks.eraseIdx index } where
  sheet := sheet
  cast := progress.cast
  moves := by
    have fewer := @requested_eraseIdx gameIds s.tasks index
    rcases progress.moves with none | moving
    · rw [none] at fewer
      exact .inl (List.sublist_nil.mp fewer)
    · obtain ⟨next, follows, asked⟩ := moving.next
      rw [asked] at fewer
      rcases List.sublist_singleton.mp fewer with none | same
      · exact .inl none
      · exact .inr ⟨⟨next, follows, same⟩, moving.stopped, moving.asked⟩
  saves := fun gameId data member => progress.saves gameId data (List.mem_of_mem_eraseIdx member)

theorem Cast.advance {heap : List LiveGame} (cast : Cast sessionId gameIds current heap)
    (stopped : ∀ game ∈ heap, gameIds[current]? = some (idOf game) → game.game.endTime.isSome) :
    Cast sessionId gameIds (current + 1) heap where
  games := by
    intro game member place listed
    have turn := cast.games game member place listed
    refine ⟨turn.phase, turn.wired, fun before => ?_, fun later => turn.waiting (by omega)⟩
    rcases Nat.lt_succ_iff_lt_or_eq.mp before with earlier | rfl
    · exact turn.ended earlier
    · exact stopped game member listed
  single := cast.single
  hooks := cast.hooks

theorem InProgress.saved {s : Server} (progress : InProgress sessionId gameIds current s) {index : Nat} {gameId : String}
    {data : GameData} (found : s.tasks[index]? = some (.saveGame gameId data)) :
    InProgress sessionId gameIds current { s with db := s.db.updateGame gameId data, tasks := s.tasks.eraseIdx index } :=
  progress.erased (progress.sheet.updateGame (progress.saves gameId data (List.mem_of_getElem? found))) index

/-- A move to a game of the session is the one that its current game has asked for. -/
theorem InProgress.movedOn {s : Server} (progress : InProgress sessionId gameIds current s) {index other : Nat}
    {gameId : String} (found : s.tasks[index]? = some (.setCurrentGame other gameId)) (listed : gameId ∈ gameIds) :
    Passes sessionId gameIds current s index ∧ other = sessionId ∧ requested gameIds (s.tasks.eraseIdx index) = [] ∧
      InProgress sessionId gameIds (current + 1)
        { s with db := s.db.setCurrentGame other gameId, tasks := s.tasks.eraseIdx index } := by
  have asked : (other, gameId) ∈ requested gameIds s.tasks :=
    List.mem_filter.mpr ⟨List.mem_filterMap.mpr ⟨_, List.mem_of_getElem? found, rfl⟩, by simpa using listed⟩
  rcases progress.moves with none | ⟨⟨next, follows, once⟩, stopped, wanted⟩
  · rw [none] at asked
    cases asked
  · obtain ⟨same, rest⟩ := requested_once found listed once
    cases same
    refine ⟨⟨stopped, ⟨gameId, follows, found⟩, wanted⟩, rfl, rest, progress.sheet.advance follows, progress.cast.advance stopped,
      .inl rest, ?_⟩
    intro gameId data member place later
    exact progress.saves gameId data (List.mem_of_mem_eraseIdx member) place (by omega)

theorem InProgress.movedElsewhere {s : Server} (progress : InProgress sessionId gameIds current s) {other : Nat}
    {gameId : String} (apart : other ≠ sessionId) (unlisted : gameId ∉ gameIds) (index : Nat) :
    InProgress sessionId gameIds current
      { s with db := s.db.setCurrentGame other gameId, tasks := s.tasks.eraseIdx index } :=
  progress.erased (progress.sheet.elsewhere apart unlisted) index

/-! Play. -/

/-- The game comes after the current one. -/
def Closed (gameIds : List String) (current : Nat) (gameId : String) : Prop :=
  ∃ place, current < place ∧ gameIds[place]? = some gameId

theorem InProgress.actFrom {s : Server} (progress : InProgress sessionId gameIds current s) (placed : Placed s)
    (barred : ∀ entry ∈ s.sockets, ∀ gameId, entry.gameId = some gameId → ¬Closed gameIds current gameId) (socket : Nat)
    (action : String → Action) : InProgress sessionId gameIds current (actFrom s socket action) := by
  rcases actFrom_ways s socket action with ⟨_, same⟩ | ⟨playerId, gameId, joined, ⟨_, same⟩ | ⟨ref, looked, same⟩⟩
  · rw [same]
    exact progress
  · rw [same]
    exact progress
  · obtain ⟨member, own⟩ := getGame_ok looked
    obtain ⟨known, there, called⟩ := placed ref member
    rw [same]
    refine progress.act fun game found place listed later => ?_
    rw [there] at found
    cases found
    have mine : idOf known = gameId := called.trans own
    rw [mine] at listed
    exact absurd ⟨place, later, listed⟩ (barred _ (List.mem_of_getElem? joined) gameId rfl)

theorem InProgress.watch {s : Server} (progress : InProgress sessionId gameIds current s) (admin : Nat) :
    InProgress sessionId gameIds current (watch s admin) := by
  unfold Processes.watch
  generalize s.memGames = games
  induction games generalizing s with
  | nil => exact progress
  | cons ref games ih =>
    exact ih (progress.modify ref.address (fun _ => rfl) (fun game wired => wired.onState admin) fun _ => rfl)

end

end DfStudy.GameSequence
