import DfStudy.GameEffects
import DfStudy.MemGames

/-! What one operation does to each part of the server, and what it leaves alone. -/

namespace DfStudy.ServerFrames
open Attacks Rounds Games Tables Servers MemGames GameEffects

section
variable (host : Host) (fails : Bool) (op : Op) (s : Server)

theorem statement_cases {α : Type} (result : Except String (α × Database)) :
    (∃ message, statement fails s result = (.error (.error message), s)) ∨
      ∃ value db, result = .ok (value, db) ∧ statement fails s result = (.ok value, { s with db }) := by
  unfold statement
  cases fails with
  | true => exact .inl ⟨_, rfl⟩
  | false =>
    cases result with
    | error message => exact .inl ⟨message, rfl⟩
    | ok answer => exact .inr ⟨answer.1, answer.2, rfl, rfl⟩

/-- Statements touch the tables only. -/
theorem statement_frame {α : Type} (result : Except String (α × Database)) :
    (statement fails s result).2 = { s with db := (statement fails s result).2.db } := by
  rcases statement_cases fails s result with ⟨message, same⟩ | ⟨value, db, _, same⟩ <;> rw [same]

/-- The operations on the games in memory. -/
def inMemory : Op → Bool
  | .initGameRows _ | .chainGames _ _ | .removeMemGame _ | .onRound _ _ | .joinGame _ _ | .randomUUID => true
  | _ => false

theorem perform_frame (outside : inMemory op = false) :
    (perform host fails op s).2 = { s with db := (perform host fails op s).2.db } := by
  cases op <;> first | exact statement_frame fails s _ | rfl | cases outside

theorem chainGames_frame (sessionId : Nat) (games : List GameRef) :
    chainGames s sessionId games = { s with heap := (chainGames s sessionId games).heap } := by
  induction games with
  | nil => rfl
  | cons curr games ih =>
    cases games with
    | nil => rfl
    | cons acc games =>
      rw [chainGames, onStop, modifyGame, ih]

theorem onRound_frame (attack : Attack) (grpcPort : Nat) :
    onRound s attack grpcPort = { s with heap := (onRound s attack grpcPort).heap } := by
  unfold onRound
  split <;> rfl

end

/-! Statements. -/

theorem insertSession_ok {db db' : Database} {params : CreateSessionParams} {sessionId : Nat}
    (inserted : db.insertSession params = .ok (sessionId, db')) :
    sessionId = nextRowId (db.sessions.map (·.sessionId)) ∧
      db' = { db with sessions := db.sessions ++ [{ params with sessionId }] } := by
  unfold Database.insertSession at inserted
  split at inserted
  · cases inserted
  · cases inserted
    exact ⟨rfl, rfl⟩

theorem insertMurmur_ok {db db' : Database} {murmur : Murmur} (inserted : db.insertMurmur murmur = .ok ((), db')) :
    db' = { db with murmurs := db.murmurs ++ [murmur] } := by
  unfold Database.insertMurmur at inserted
  split at inserted
  · cases inserted
  · cases inserted
    rfl

theorem insertGame_ok {db db' : Database} {row : GameRow} (inserted : db.insertGame row = .ok ((), db')) :
    (∀ old ∈ db.games, old.gameId ≠ row.gameId) ∧
      db' = { db with games := db.games ++ [{ row with gameData := row.gameData.json }] } := by
  unfold Database.insertGame at inserted
  split at inserted
  · cases inserted
  · rename_i unused
    cases inserted
    refine ⟨?_, rfl⟩
    intro old member same
    exact unused (List.any_eq_true.mpr ⟨old, member, by simpa using same⟩)

/-! Loading games. -/

/-- A game as it is constructed from stored data, before it is resumed. -/
def reread (clock : Nat → Nat) (data : GameData) (rounds : List Round) : LiveGame where
  game := newGame {
    gameId := data.gameId
    players := data.players
    rounds
    currentRound := some data.currentRound
    startTime := data.startTime
    endTime := data.endTime }
  clock := clock

theorem deserializeGame_ok {clock : Nat → Nat} {data : GameData} {game : LiveGame}
    (loaded : deserializeGame clock data = .ok game) : ∃ rounds, data.rounds.mapM createRound = .ok rounds ∧
      game = resumeGame (reread clock data rounds) := by
  unfold deserializeGame at loaded
  cases created : data.rounds.mapM createRound with
  | error message => simp [created, bind, Except.bind] at loaded
  | ok rounds =>
    simp only [created, bind, Except.bind, pure, Except.pure, Except.ok.injEq] at loaded
    exact ⟨rounds, rfl, loaded.symm⟩

/-- A game that is read back keeps its id, and asks for nothing but to be saved. -/
theorem loaded_game {clock : Nat → Nat} {data : GameData} {game : LiveGame}
    (loaded : deserializeGame clock data = .ok game) : game.game.gameId = data.gameId ∧
      ∀ task ∈ forks game 0, ∃ saved, task = .saveGame data.gameId saved ∧ saved.gameId = data.gameId := by
  obtain ⟨rounds, _, rfl⟩ := deserializeGame_ok loaded
  obtain ⟨alike, block, effects, issued⟩ := extends_resumeGame (reread clock data rounds)
  refine ⟨alike.gameId, fun task member => ?_⟩
  unfold forks at member
  rw [effects, alike.gameId] at member
  obtain ⟨effect, present, forked⟩ := List.mem_filterMap.mp member
  have cause := issued effect present
  cases effect with
  | saveGame saved =>
    cases forked
    obtain ⟨state, rfl, own, _⟩ := cause
    exact ⟨state.state, rfl, own⟩
  | setCurrentGame sessionId gameId =>
    have listener : StopCallback.setCurrentGame sessionId gameId ∈ [StopCallback.triggerState] := cause
    simp at listener
  | _ => cases forked

/-- Its listeners are those of the constructor. -/
theorem loaded_stop {clock : Nat → Nat} {data : GameData} {game : LiveGame}
    (loaded : deserializeGame clock data = .ok game) : game.game.cbMap.stop = [.triggerState] := by
  obtain ⟨rounds, _, rfl⟩ := deserializeGame_ok loaded
  exact (extends_resumeGame (reread clock data rounds)).alike.stop

/-- What loading a list of games does. -/
structure Loads (datas : List GameData) (s : Server) (result : Except String (List GameRef)) (s' : Server) : Prop where
  frame : s' = { s with heap := s'.heap, memGames := s'.memGames, tasks := s'.tasks }
  distinct : Distinct s.memGames → Distinct s'.memGames
  keeps : ∀ gameId, Registered s.memGames gameId → Registered s'.memGames gameId
  only : ∀ ref ∈ s'.memGames, ref ∈ s.memGames ∨ ref.gameId ∈ datas.map (·.gameId) ∧ s.heap.length ≤ ref.address
  heap : ∃ born, s'.heap = s.heap ++ born ∧ ∀ game ∈ born, game.game.gameId ∈ datas.map (·.gameId)
  tasks : ∃ forked, s'.tasks = s.tasks ++ forked ∧
    ∀ task ∈ forked, ∃ data saved, data ∈ datas ∧ task = .saveGame data.gameId saved ∧ saved.gameId = data.gameId
  all : ∀ refs, result = .ok refs →
    refs.map (·.gameId) = datas.map (·.gameId) ∧ ∀ gameId ∈ datas.map (·.gameId), Registered s'.memGames gameId

theorem setMemGame_registered (memGames : List GameRef) (game : GameRef) :
    (∀ gameId, Registered memGames gameId → Registered (setMemGame memGames game) gameId) ∧
      Registered (setMemGame memGames game) game.gameId ∧
      (∀ ref ∈ setMemGame memGames game, ref ∈ memGames ∨ ref = game) ∧
      (Distinct memGames → Distinct (setMemGame memGames game)) := by
  by_cases known : Registered memGames game.gameId
  · have ids := setMemGame_known known
    have same : ∀ gameId, Registered (setMemGame memGames game) gameId ↔ Registered memGames gameId := by
      intro gameId
      rw [registered_iff, registered_iff, ids]
    refine ⟨fun gameId => (same gameId).mpr, (same _).mpr known, ?_, ?_⟩
    · intro ref member
      unfold setMemGame at member
      dsimp only at member
      split at member
      · exact List.mem_or_eq_of_mem_set member
      · rcases List.mem_append.mp member with old | new
        · exact .inl old
        · exact .inr (List.mem_singleton.mp new)
    · intro distinct
      unfold Distinct
      rw [ids]
      exact distinct
  · have pushed : setMemGame memGames game = memGames ++ [game] :=
      setMemGame_new fun other member same => known ⟨other, member, same⟩
    rw [pushed]
    refine ⟨?_, ⟨game, by simp, rfl⟩, by simp, ?_⟩
    · rintro gameId ⟨ref, member, same⟩
      exact ⟨ref, List.mem_append_left _ member, same⟩
    · intro distinct
      unfold Distinct
      rw [List.map_append, List.nodup_append]
      refine ⟨distinct, by simp, ?_⟩
      intro gameId old gameId' new same
      obtain ⟨ref, member, rfl⟩ := List.mem_map.mp old
      have own : gameId' = game.gameId := by simpa using new
      exact known ⟨ref, member, same.trans own⟩

theorem initGames_loads (host : Host) (datas : List GameData) (s : Server) :
    Loads datas s (initGames host datas s).1 (initGames host datas s).2 := by
  induction datas generalizing s with
  | nil =>
    constructor
    · rfl
    · exact id
    · exact fun _ => id
    · exact fun ref member => .inl member
    · exact ⟨[], by simp [initGames], by simp⟩
    · exact ⟨[], by simp [initGames], by simp⟩
    · intro refs same
      cases same
      simp
  | cons gameData rest ih =>
    unfold initGames
    dsimp only
    have later := ih (initGame host s gameData).2
    cases loaded : deserializeGame (host.clock s.heap.length) gameData with
    | error message =>
      have first : initGame host s gameData = (.error message, s) := by
        unfold initGame
        rw [loaded]
      rw [first] at later ⊢
      constructor
      · exact later.frame
      · exact later.distinct
      · exact later.keeps
      · intro ref member
        rcases later.only ref member with old | ⟨new, address⟩
        · exact .inl old
        · exact .inr ⟨List.mem_cons_of_mem _ new, address⟩
      · obtain ⟨born, heap, ids⟩ := later.heap
        exact ⟨born, heap, fun game member => List.mem_cons_of_mem _ (ids game member)⟩
      · obtain ⟨forked, tasks, saves⟩ := later.tasks
        refine ⟨forked, tasks, fun task member => ?_⟩
        obtain ⟨data, saved, present, same⟩ := saves task member
        exact ⟨data, saved, List.mem_cons_of_mem _ present, same⟩
      · exact fun refs same => nomatch same
    | ok game =>
      let ref : GameRef := { address := s.heap.length, gameId := game.game.gameId }
      let after : Server := { s with
        heap := s.heap ++ [game]
        memGames := setMemGame s.memGames ref
        tasks := s.tasks ++ forks game 0 }
      have first : initGame host s gameData = (.ok ref, after) := by
        unfold initGame
        rw [loaded]
      obtain ⟨own, saves⟩ := loaded_game loaded
      obtain ⟨keeps, registered, only, distinct⟩ := setMemGame_registered s.memGames ref
      rw [first] at later ⊢
      constructor
      · exact later.frame
      · exact fun unique => later.distinct (distinct unique)
      · exact fun gameId known => later.keeps gameId (keeps gameId known)
      · intro other member
        rcases later.only other member with old | ⟨new, address⟩
        · rcases only other old with older | rfl
          · exact .inl older
          · refine .inr ⟨?_, Nat.le_refl _⟩
            change game.game.gameId ∈ _
            rw [own]
            exact List.mem_cons_self ..
        · refine .inr ⟨List.mem_cons_of_mem _ new, ?_⟩
          change after.heap.length ≤ other.address at address
          have length : after.heap.length = s.heap.length + 1 := by simp [after]
          omega
      · obtain ⟨born, heap, ids⟩ := later.heap
        refine ⟨game :: born, by rw [heap]; simp [after], ?_⟩
        intro other member
        rcases List.mem_cons.mp member with rfl | rest
        · rw [own]
          exact List.mem_cons_self ..
        · exact List.mem_cons_of_mem _ (ids other rest)
      · obtain ⟨forked, tasks, saves'⟩ := later.tasks
        refine ⟨forks game 0 ++ forked, by rw [tasks]; simp [after], ?_⟩
        intro task member
        rcases List.mem_append.mp member with mine | others
        · obtain ⟨saved, same⟩ := saves task mine
          exact ⟨gameData, saved, List.mem_cons_self .., same⟩
        · obtain ⟨data, saved, present, same⟩ := saves' task others
          exact ⟨data, saved, List.mem_cons_of_mem _ present, same⟩
      · intro refs same
        cases others : (initGames host rest after).1 with
        | error message =>
          rw [others] at same
          cases same
        | ok found =>
          rw [others] at same later
          cases same
          obtain ⟨ids, all⟩ := later.all found rfl
          constructor
          · rw [List.map_cons, List.map_cons, ids]
            exact congrArg (· :: _) own
          · intro gameId member
            rcases List.mem_cons.mp member with same | rest
            · have known := later.keeps _ registered
              rw [show ref.gameId = gameId from own.trans same.symm] at known
              exact known
            · exact all gameId rest

/-- What the loading of one game keeps, the loading of all keeps. -/
theorem initGames_keeps (host : Host) (invariant : Server → Prop) {datas : List GameData} {s : Server}
    (loads : ∀ s data game, data ∈ datas → invariant s → deserializeGame (host.clock s.heap.length) data = .ok game →
      invariant { s with
        heap := s.heap ++ [game]
        memGames := setMemGame s.memGames { address := s.heap.length, gameId := game.game.gameId }
        tasks := s.tasks ++ forks game 0 })
    (initial : invariant s) : invariant (initGames host datas s).2 := by
  induction datas generalizing s with
  | nil => exact initial
  | cons data rest ih =>
    unfold initGames
    apply ih fun s other game member => loads s other game (List.mem_cons_of_mem _ member)
    unfold initGame
    split
    next => exact initial
    next game loaded => exact loads s data game List.mem_cons_self initial loaded

theorem initGameRows_loads (host : Host) (rows : List GameRow) (s : Server) :
    Loads ((rows.insertionSort fun a b => a.gameOrder ≤ b.gameOrder).map (·.gameData)) s
      (initGameRows host rows s).1 (initGameRows host rows s).2 := initGames_loads host _ s

theorem mem_sorted {rows : List GameRow} {gameId : String} :
    gameId ∈ ((rows.insertionSort fun a b => a.gameOrder ≤ b.gameOrder).map (·.gameData)).map (·.gameId) ↔
      gameId ∈ rows.map (·.gameData.gameId) := by
  rw [List.map_map]
  exact ((List.perm_insertionSort _ rows).map _).mem_iff

/-! Operations. -/

section
variable (host : Host) (fails : Bool) (op : Op) (s : Server)

theorem perform_games :
    (perform host fails op s).2.db.games = s.db.games ∨
      (∃ row, op = .insertGame row ∧
        (perform host fails op s).2.db.games = s.db.games ++ [{ row with gameData := row.gameData.json }]) ∨
      ∃ gameId, op = .deleteGame gameId ∧ (perform host fails op s).2.db.games = s.db.games.filter (·.gameId ≠ gameId) := by
  cases op with
  | insertGame row =>
    change (statement fails s (s.db.insertGame row)).2.db.games = _ ∨ _
    rcases statement_cases fails s (s.db.insertGame row) with ⟨message, same⟩ | ⟨value, db, inserted, same⟩
    · rw [same]
      exact .inl rfl
    · refine .inr (.inl ⟨row, rfl, ?_⟩)
      change (statement fails s (s.db.insertGame row)).2.db.games = _
      rw [same, (insertGame_ok inserted).2]
  | deleteGame gameId =>
    cases fails with
    | true => exact .inl rfl
    | false => exact .inr (.inr ⟨gameId, rfl, rfl⟩)
  | insertSession params =>
    left
    change (statement fails s (s.db.insertSession params)).2.db.games = _
    rcases statement_cases fails s (s.db.insertSession params) with ⟨message, same⟩ | ⟨value, db, inserted, same⟩
    · rw [same]
    · rw [same, (insertSession_ok inserted).2]
  | insertMurmur murmur =>
    left
    change (statement fails s (s.db.insertMurmur murmur)).2.db.games = _
    rcases statement_cases fails s (s.db.insertMurmur murmur) with ⟨message, same⟩ | ⟨value, db, inserted, same⟩
    · rw [same]
    · rw [same, insertMurmur_ok inserted]
  | initGameRows rows =>
    left
    change (initGameRows host rows s).2.db.games = _
    rw [(initGameRows_loads host rows s).frame]
  | chainGames sessionId games =>
    left
    change (chainGames s sessionId games).db.games = _
    rw [chainGames_frame]
  | onRound attack grpcPort =>
    left
    change (onRound s attack grpcPort).db.games = _
    rw [onRound_frame]
  | _ => exact .inl (by cases fails <;> rfl)

theorem perform_sessions :
    (perform host fails op s).2.db.sessions = s.db.sessions ∨
      (∃ params sessionId, op = .insertSession params ∧ sessionId = nextRowId (s.db.sessions.map (·.sessionId)) ∧
        (perform host fails op s).2.db.sessions = s.db.sessions ++ [{ params with sessionId }]) ∨
      ∃ sessionId, op = .deleteSession sessionId ∧
        (perform host fails op s).2.db.sessions = s.db.sessions.filter (·.sessionId ≠ sessionId) := by
  cases op with
  | insertSession params =>
    change (statement fails s (s.db.insertSession params)).2.db.sessions = _ ∨ _
    rcases statement_cases fails s (s.db.insertSession params) with ⟨message, same⟩ | ⟨sessionId, db, inserted, same⟩
    · rw [same]
      exact .inl rfl
    · refine .inr (.inl ⟨params, sessionId, rfl, (insertSession_ok inserted).1, ?_⟩)
      change (statement fails s (s.db.insertSession params)).2.db.sessions = _
      rw [same, (insertSession_ok inserted).2]
  | deleteSession sessionId =>
    cases fails with
    | true => exact .inl rfl
    | false => exact .inr (.inr ⟨sessionId, rfl, rfl⟩)
  | insertGame row =>
    left
    change (statement fails s (s.db.insertGame row)).2.db.sessions = _
    rcases statement_cases fails s (s.db.insertGame row) with ⟨message, same⟩ | ⟨value, db, inserted, same⟩
    · rw [same]
    · rw [same, (insertGame_ok inserted).2]
  | insertMurmur murmur =>
    left
    change (statement fails s (s.db.insertMurmur murmur)).2.db.sessions = _
    rcases statement_cases fails s (s.db.insertMurmur murmur) with ⟨message, same⟩ | ⟨value, db, inserted, same⟩
    · rw [same]
    · rw [same, insertMurmur_ok inserted]
  | initGameRows rows =>
    left
    change (initGameRows host rows s).2.db.sessions = _
    rw [(initGameRows_loads host rows s).frame]
  | chainGames sessionId games =>
    left
    change (chainGames s sessionId games).db.sessions = _
    rw [chainGames_frame]
  | onRound attack grpcPort =>
    left
    change (onRound s attack grpcPort).db.sessions = _
    rw [onRound_frame]
  | _ => exact .inl (by cases fails <;> rfl)

theorem perform_memGames :
    (perform host fails op s).2.memGames = s.memGames ∨ (∃ rows, op = .initGameRows rows) ∨
      ∃ game, op = .removeMemGame game ∧ (perform host fails op s).2.memGames = removeMemGame s.memGames game := by
  cases op with
  | initGameRows rows => exact .inr (.inl ⟨rows, rfl⟩)
  | removeMemGame game => exact .inr (.inr ⟨game, rfl, rfl⟩)
  | chainGames sessionId games =>
    left
    change (chainGames s sessionId games).memGames = _
    rw [chainGames_frame]
  | onRound attack grpcPort =>
    left
    change (onRound s attack grpcPort).memGames = _
    rw [onRound_frame]
  | randomUUID => exact .inl rfl
  | joinGame socket game => exact .inl rfl
  | _ => exact .inl (by rw [perform_frame host fails _ s rfl])

theorem perform_distinct {host : Host} {fails : Bool} {op : Op} {s : Server} (distinct : Distinct s.memGames) :
    Distinct (perform host fails op s).2.memGames := by
  rcases perform_memGames host fails op s with same | ⟨rows, rfl⟩ | ⟨game, rfl, same⟩
  · rw [same]
    exact distinct
  · exact (initGameRows_loads host rows s).distinct distinct
  · unfold Distinct
    rw [same]
    exact distinct.sublist (removeMemGame_sublist.map _)

theorem perform_tasks :
    (perform host fails op s).2.tasks = s.tasks ∨ ∃ rows, op = .initGameRows rows := by
  cases op with
  | initGameRows rows => exact .inr ⟨rows, rfl⟩
  | chainGames sessionId games =>
    left
    change (chainGames s sessionId games).tasks = _
    rw [chainGames_frame]
  | onRound attack grpcPort =>
    left
    change (onRound s attack grpcPort).tasks = _
    rw [onRound_frame]
  | randomUUID => exact .inl rfl
  | joinGame socket game => exact .inl rfl
  | removeMemGame game => exact .inl rfl
  | _ => exact .inl (by rw [perform_frame host fails _ s rfl])

theorem perform_uuids :
    (perform host fails op s).2.uuids = s.uuids ∨
      op = .randomUUID ∧ (perform host fails op s).2.uuids = fun drawn => s.uuids (drawn + 1) := by
  cases op with
  | randomUUID => exact .inr ⟨rfl, rfl⟩
  | initGameRows rows =>
    left
    change (initGameRows host rows s).2.uuids = _
    rw [(initGameRows_loads host rows s).frame]
  | chainGames sessionId games =>
    left
    change (chainGames s sessionId games).uuids = _
    rw [chainGames_frame]
  | onRound attack grpcPort =>
    left
    change (onRound s attack grpcPort).uuids = _
    rw [onRound_frame]
  | joinGame socket game => exact .inl rfl
  | removeMemGame game => exact .inl rfl
  | _ => exact .inl (by rw [perform_frame host fails _ s rfl])

end

theorem perform_sockets {host : Host} {fails : Bool} {op : Op} {s : Server} (other : ∀ socket game, op ≠ .joinGame socket game) :
    (perform host fails op s).2.sockets = s.sockets := by
  cases op with
  | joinGame socket game => exact absurd rfl (other socket game)
  | initGameRows rows =>
    change (initGameRows host rows s).2.sockets = _
    rw [(initGameRows_loads host rows s).frame]
  | chainGames sessionId games =>
    change (chainGames s sessionId games).sockets = _
    rw [chainGames_frame]
  | onRound attack grpcPort =>
    change (onRound s attack grpcPort).sockets = _
    rw [onRound_frame]
  | randomUUID => rfl
  | removeMemGame game => rfl
  | _ => rw [perform_frame host fails _ s rfl]

/-! Between the turns of games, operations only register listeners. -/

/-- A game without its listeners. -/
def bare (game : LiveGame) : LiveGame := { game with game := { game.game with cbMap := {} } }

def bares (s : Server) : List LiveGame := s.heap.map bare

theorem modifyGame_bares {s : Server} {address : Nat} {change : LiveGame → LiveGame}
    (keeps : ∀ game, bare (change game) = bare game) : bares (modifyGame s address change) = bares s := by
  apply List.ext_getElem?
  intro position
  unfold bares modifyGame
  dsimp only
  rw [List.getElem?_map, List.getElem?_map, List.getElem?_modify]
  cases s.heap[position]? with
  | none => simp
  | some game =>
    by_cases here : address = position
    · simp [here, keeps]
    · simp [here]

theorem chainGames_bares (s : Server) (sessionId : Nat) (games : List GameRef) :
    bares (chainGames s sessionId games) = bares s := by
  induction games with
  | nil => rfl
  | cons curr games ih =>
    cases games with
    | nil => rfl
    | cons acc games =>
      rw [chainGames]
      unfold onStop
      rw [modifyGame_bares]
      · exact ih
      · exact fun _ => rfl

theorem perform_bares {host : Host} {fails : Bool} {op : Op} {s : Server} (other : ∀ rows, op ≠ .initGameRows rows) :
    bares (perform host fails op s).2 = bares s := by
  cases op with
  | initGameRows rows => exact absurd rfl (other rows)
  | chainGames sessionId games => exact chainGames_bares s sessionId games
  | onRound attack grpcPort =>
    change bares (onRound s attack grpcPort) = _
    unfold onRound
    split
    next => rfl
    next => exact modifyGame_bares fun _ => rfl
  | joinGame socket game =>
    exact @modifyGame_bares s game.address (·.onState socket) fun _ => rfl
  | randomUUID => rfl
  | removeMemGame game => rfl
  | _ =>
    unfold bares
    rw [perform_frame host fails _ s rfl]

end DfStudy.ServerFrames
