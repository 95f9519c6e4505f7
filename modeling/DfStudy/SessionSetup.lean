import DfStudy.ServerFrames
import DfStudy.SessionCreation

/-! What `initSession` makes of a session's rows: the games in memory, each with the 'stop' listener that
makes the next game current and the 'round' listeners of its attacks. -/

namespace DfStudy.SessionSetup
open Attacks Rounds Games Tables Servers MemGames ServerFrames Sessions Undisturbed Support.Futures Future

/-! Loading. -/

def idOf (s : LiveGame) : String := s.game.gameId

/-- References to games at consecutive addresses. -/
def refsOf : Nat → List String → List GameRef
  | _, [] => []
  | address, gameId :: gameIds => { address, gameId } :: refsOf (address + 1) gameIds

/-- Games read back from rows, into consecutive addresses. -/
def loadGames (host : Host) : Nat → List GameData → Except String (List LiveGame)
  | _, [] => .ok []
  | address, gameData :: rest => do
    let game ← deserializeGame (host.clock address) gameData
    let games ← loadGames host (address + 1) rest
    return game :: games

def loaded (s : Server) (games : List LiveGame) : Server :=
  { s with
    heap := s.heap ++ games
    memGames := s.memGames ++ refsOf s.heap.length (games.map idOf)
    tasks := s.tasks ++ games.flatMap (forks · 0) }

theorem refsOf_gameIds (address : Nat) (gameIds : List String) : (refsOf address gameIds).map (·.gameId) = gameIds := by
  induction gameIds generalizing address with
  | nil => rfl
  | cons gameId gameIds ih => rw [refsOf, List.map_cons, ih]

theorem refsOf_get (address : Nat) (gameIds : List String) (index : Nat) :
    (refsOf address gameIds)[index]? =
      gameIds[index]?.map fun gameId => { address := address + index, gameId := gameId } := by
  induction gameIds generalizing address index with
  | nil => simp [refsOf]
  | cons gameId gameIds ih =>
    cases index with
    | zero => simp [refsOf]
    | succ index =>
      rw [refsOf, List.getElem?_cons_succ, ih, List.getElem?_cons_succ, Nat.add_right_comm]
      rfl

theorem mem_refsOf {address : Nat} {gameIds : List String} {ref : GameRef} :
    ref ∈ refsOf address gameIds ↔ ∃ index, gameIds[index]? = some ref.gameId ∧ ref.address = address + index := by
  rw [List.mem_iff_getElem?]
  constructor
  · rintro ⟨index, found⟩
    rw [refsOf_get, Option.map_eq_some_iff] at found
    obtain ⟨gameId, at_index, rfl⟩ := found
    exact ⟨index, at_index, rfl⟩
  · rintro ⟨index, at_index, place⟩
    refine ⟨index, ?_⟩
    rw [refsOf_get, at_index, Option.map_some, ← place]

theorem loadGames_cons {host : Host} {address : Nat} {gameData : GameData} {rest : List GameData}
    {games : List LiveGame} (load : loadGames host address (gameData :: rest) = .ok games) :
    ∃ game others, deserializeGame (host.clock address) gameData = .ok game ∧
      loadGames host (address + 1) rest = .ok others ∧ games = game :: others := by
  unfold loadGames at load
  cases first : deserializeGame (host.clock address) gameData with
  | error message => simp [first, bind, Except.bind] at load
  | ok game =>
    cases later : loadGames host (address + 1) rest with
    | error message => simp [first, later, bind, Except.bind] at load
    | ok others =>
      simp only [first, later, bind, Except.bind, pure, Except.pure, Except.ok.injEq] at load
      exact ⟨game, others, rfl, rfl, load.symm⟩

theorem loadGames_get {host : Host} {address : Nat} {datas : List GameData} {games : List LiveGame}
    (load : loadGames host address datas = .ok games) {index : Nat} {data : GameData} (stored : datas[index]? = some data) :
    ∃ game, games[index]? = some game ∧ deserializeGame (host.clock (address + index)) data = .ok game := by
  induction datas generalizing address games index with
  | nil => cases stored
  | cons first rest ih =>
    obtain ⟨game, others, here, later, rfl⟩ := loadGames_cons load
    cases index with
    | zero =>
      cases stored
      exact ⟨game, rfl, here⟩
    | succ index =>
      obtain ⟨found, at_index, loaded⟩ := ih later stored
      exact ⟨found, at_index, by rw [← loaded, Nat.add_right_comm]; rfl⟩

/-- Loading games none of which is known. -/
theorem initGames_loaded {host : Host} {datas : List GameData} {games : List LiveGame} {s : Server}
    (load : loadGames host s.heap.length datas = .ok games) (distinct : (games.map idOf).Nodup)
    (unknown : ∀ game ∈ games, ∀ ref ∈ s.memGames, ref.gameId ≠ idOf game) :
    initGames host datas s = (.ok (refsOf s.heap.length (games.map idOf)), loaded s games) := by
  induction datas generalizing games s with
  | nil =>
    cases load
    simp [initGames, refsOf, loaded]
  | cons gameData rest ih =>
    obtain ⟨game, others, first, later, rfl⟩ := loadGames_cons load
    rw [List.map_cons, List.nodup_cons] at distinct
    let ref : GameRef := { address := s.heap.length, gameId := idOf game }
    let after : Server := { s with
      heap := s.heap ++ [game]
      memGames := s.memGames ++ [ref]
      tasks := s.tasks ++ forks game 0 }
    have start : initGame host s gameData = (.ok ref, after) := by
      have pushed : setMemGame s.memGames ref = s.memGames ++ [ref] :=
        setMemGame_new (unknown game (List.mem_cons_self ..))
      unfold initGame
      rw [first]
      dsimp only
      change (_, { s with heap := _, memGames := setMemGame s.memGames ref, tasks := _ }) = _
      rw [pushed]
      rfl
    have later : loadGames host after.heap.length rest = .ok others := by
      simpa [after] using later
    have still : ∀ other ∈ others, ∀ known ∈ after.memGames, known.gameId ≠ idOf other := by
      intro other member known present
      rcases List.mem_append.mp present with old | new
      · exact unknown other (List.mem_cons_of_mem _ member) known old
      · rw [List.mem_singleton.mp new]
        intro clash
        exact distinct.1 (List.mem_map.mpr ⟨other, member, clash.symm⟩)
    rw [initGames, start]
    dsimp only
    rw [ih later distinct.2 still]
    simp [after, ref, refsOf, loaded, Except.bind, Except.map]

theorem loaded_get {s : Server} {games : List LiveGame} (index : Nat) :
    (loaded s games).heap[s.heap.length + index]? = games[index]? := by
  rw [loaded, List.getElem?_append_right (Nat.le_add_right _ _), Nat.add_sub_cancel_left]

/-! Chaining. -/

/-- The listener that makes the next game current, if there is one. -/
def chainedTo (sessionId : Nat) (next : Option String) (s : LiveGame) : LiveGame :=
  s.on fun cbMap => { cbMap with stop := cbMap.stop ++ next.toList.map (.setCurrentGame sessionId) }

def nextOf (address : Nat) (gameIds : List String) (place : Nat) : Option String :=
  if address ≤ place then gameIds[place - address + 1]? else none

@[simp] theorem chainedTo_none (sessionId : Nat) (s : LiveGame) : chainedTo sessionId none s = s := by
  simp [chainedTo, LiveGame.on]

theorem getElem_modifyGame (s : Server) (address place : Nat) (change : LiveGame → LiveGame) :
    (modifyGame s address change).heap[place]? =
      if address = place then s.heap[place]?.map change else s.heap[place]? := by
  rw [modifyGame, List.getElem?_modify]
  split <;> simp

theorem chainGames_heap (s : Server) (sessionId address : Nat) (gameIds : List String) (place : Nat) :
    (chainGames s sessionId (refsOf address gameIds)).heap[place]? =
      s.heap[place]?.map (chainedTo sessionId (nextOf address gameIds place)) := by
  have unchained : s.heap[place]? = s.heap[place]?.map (chainedTo sessionId none) := by
    cases s.heap[place]? <;> simp
  induction gameIds generalizing address with
  | nil =>
    have last : nextOf address [] place = none := by simp [nextOf]
    rw [last]
    exact unchained
  | cons gameId gameIds ih =>
    cases gameIds with
    | nil =>
      have last : nextOf address [gameId] place = none := by simp [nextOf]
      rw [last]
      exact unchained
    | cons nextId gameIds =>
      have rest := ih (address + 1)
      rw [refsOf] at rest
      rw [refsOf, refsOf, chainGames, onStop, getElem_modifyGame, rest]
      by_cases here : address = place
      · subst here
        have last : nextOf (address + 1) (nextId :: gameIds) address = none := by simp [nextOf]
        have next : nextOf address (gameId :: nextId :: gameIds) address = some nextId := by simp [nextOf]
        rw [if_pos rfl, last, next, ← unchained]
        rfl
      · rw [if_neg here]
        have same : nextOf (address + 1) (nextId :: gameIds) place =
            nextOf address (gameId :: nextId :: gameIds) place := by
          unfold nextOf
          by_cases later : address + 1 ≤ place
          · rw [if_pos later, if_pos (by omega)]
            have shift : place - address = place - (address + 1) + 1 := by omega
            rw [shift]
            rfl
          · rw [if_neg later, if_neg (by omega)]
        rw [same]

/-! Scheduling attacks. -/

def attackedBy (grpcPort : Nat) (attacks : List Attack) (s : LiveGame) : LiveGame :=
  s.on fun cbMap => { cbMap with round := cbMap.round ++ attacks.map (.scheduledAttack grpcPort) }

def onRounds (s : Server) (attacks : List Attack) (grpcPort : Nat) : Server :=
  attacks.foldl (fun s attack => onRound s attack grpcPort) s

theorem onRounds_frame (s : Server) (attacks : List Attack) (grpcPort : Nat) :
    onRounds s attacks grpcPort = { s with heap := (onRounds s attacks grpcPort).heap } := by
  induction attacks generalizing s with
  | nil => rfl
  | cons attack attacks ih =>
    change onRounds (onRound s attack grpcPort) attacks grpcPort =
      { s with heap := (onRounds (onRound s attack grpcPort) attacks grpcPort).heap }
    rw [ih, onRound_frame]

/-- The listeners a game gets, when its id is registered for its address alone. -/
theorem onRounds_heap {s : Server} {ref : GameRef} (found : getGame s.memGames ref.gameId = .ok ref)
    (alone : ∀ other ∈ s.memGames, other.address = ref.address → other.gameId = ref.gameId)
    (attacks : List Attack) (grpcPort : Nat) :
    (onRounds s attacks grpcPort).heap[ref.address]? =
      s.heap[ref.address]?.map (attackedBy grpcPort (attacks.filter (·.gameId = ref.gameId))) := by
  induction attacks generalizing s with
  | nil =>
    have nothing : ∀ game, attackedBy grpcPort [] game = game := fun game => by simp [attackedBy, LiveGame.on]
    cases here : s.heap[ref.address]? <;> simp [onRounds, here, nothing]
  | cons attack attacks ih =>
    have frame := onRound_frame s attack grpcPort
    have memGames : (onRound s attack grpcPort).memGames = s.memGames := by rw [frame]
    have rest := ih (s := onRound s attack grpcPort) (by rw [memGames]; exact found) (by rw [memGames]; exact alone)
    change (onRounds (onRound s attack grpcPort) attacks grpcPort).heap[ref.address]? = _
    rw [rest]
    by_cases mine : attack.gameId = ref.gameId
    · have first : (onRound s attack grpcPort).heap[ref.address]? =
          s.heap[ref.address]?.map (attackedBy grpcPort [attack]) := by
        unfold onRound
        rw [mine, found]
        dsimp only
        rw [getElem_modifyGame, if_pos rfl]
        rfl
      rw [first, List.filter_cons_of_pos (by simpa using mine), Option.map_map]
      congr 1
      funext game
      simp [attackedBy, LiveGame.on]
    · have first : (onRound s attack grpcPort).heap[ref.address]? = s.heap[ref.address]? := by
        unfold onRound
        cases other : getGame s.memGames attack.gameId with
        | error message => rfl
        | ok game =>
          dsimp only
          have known := getGame_ok other
          rw [getElem_modifyGame, if_neg]
          intro same
          exact mine (known.2.symm.trans (alone game known.1 same))
      rw [first, List.filter_cons_of_neg (by simpa using mine)]

/-! The whole of `initSession`. -/

def sortedRows (host : Host) (s : Server) (sessionId : Nat) : List GameRow :=
  (host.gameRows (s.db.selectGames sessionId)).insertionSort fun a b => a.gameOrder ≤ b.gameOrder

def sessionAttacks (host : Host) (s : Server) (sessionId : Nat) : List Attack :=
  (host.attackRows s.db.attacks).filter (·.sessionId = sessionId)

/-- The server after a session's games have been loaded, chained and given their attacks. -/
def setUp (s : Server) (session : Session) (games : List LiveGame) (attacks : List Attack) : Server :=
  onRounds (chainGames (loaded s games) session.sessionId (refsOf s.heap.length (games.map idOf))) attacks
    session.grpcPort

/-- The rows of a session that can be set up, with the games they are read back as. -/
structure Loadable (host : Host) (s : Server) (session : Session) (games : List LiveGame) : Prop where
  listed : s.db.sessions.find? (·.sessionId = session.sessionId) = some session
  load : loadGames host s.heap.length ((sortedRows host s session.sessionId).map (·.gameData)) = .ok games
  distinct : (games.map idOf).Nodup
  unknown : ∀ game ∈ games, ∀ ref ∈ s.memGames, ref.gameId ≠ idOf game
  murmur : s.db.selectMurmurs session.sessionId ≠ []

theorem setUp_frame (s : Server) (session : Session) (games : List LiveGame) (attacks : List Attack) :
    setUp s session games attacks = { loaded s games with heap := (setUp s session games attacks).heap } := by
  unfold setUp
  rw [onRounds_frame, chainGames_frame]

/-- Each game is registered under its id. -/
theorem setUp_registered {s : Server} {games : List LiveGame} (session : Session) (attacks : List Attack)
    (distinct : (games.map idOf).Nodup) (unknown : ∀ game ∈ games, ∀ ref ∈ s.memGames, ref.gameId ≠ idOf game)
    {index : Nat} {game : LiveGame} (found : games[index]? = some game) :
    getGame (setUp s session games attacks).memGames (idOf game) =
      .ok { address := s.heap.length + index, gameId := idOf game } := by
  let ref : GameRef := { address := s.heap.length + index, gameId := idOf game }
  have here : (games.map idOf)[index]? = some (idOf game) := by
    rw [List.getElem?_map, found]
    rfl
  have registry : (setUp s session games attacks).memGames = s.memGames ++ refsOf s.heap.length (games.map idOf) := by
    rw [setUp_frame, loaded]
  rw [registry]
  have member : ref ∈ s.memGames ++ refsOf s.heap.length (games.map idOf) :=
    List.mem_append_right _ (mem_refsOf.mpr ⟨index, here, rfl⟩)
  apply getGame_unique member
  intro other present same
  rcases List.mem_append.mp present with old | new
  · exact absurd same (unknown game (List.mem_of_getElem? found) other old)
  · obtain ⟨place, found', address⟩ := mem_refsOf.mp new
    rw [same] at found'
    have equal : place = index :=
      (List.getElem?_inj (List.getElem?_eq_some_iff.mp found').1 distinct).mp (found'.trans here.symm)
    apply GameRef.ext
    · rw [address, equal]
    · exact same

/-- A game after set-up: what was read back, chained to the next game and with its attacks. -/
theorem setUp_heap {s : Server} {games : List LiveGame} (session : Session) (attacks : List Attack)
    (distinct : (games.map idOf).Nodup) (unknown : ∀ game ∈ games, ∀ ref ∈ s.memGames, ref.gameId ≠ idOf game)
    (registered : ∀ ref ∈ s.memGames, ref.address < s.heap.length) {index : Nat} {game : LiveGame}
    (found : games[index]? = some game) :
    (setUp s session games attacks).heap[s.heap.length + index]? =
      some (attackedBy session.grpcPort (attacks.filter (·.gameId = idOf game))
        (chainedTo session.sessionId ((games.map idOf)[index + 1]?) game)) := by
  let ref : GameRef := { address := s.heap.length + index, gameId := idOf game }
  let chained := chainGames (loaded s games) session.sessionId (refsOf s.heap.length (games.map idOf))
  have member : ref ∈ refsOf s.heap.length (games.map idOf) := by
    rw [mem_refsOf]
    exact ⟨index, by rw [List.getElem?_map, found]; rfl, rfl⟩
  have memGames : chained.memGames = s.memGames ++ refsOf s.heap.length (games.map idOf) := by
    have frame := chainGames_frame (loaded s games) session.sessionId (refsOf s.heap.length (games.map idOf))
    change (chainGames _ _ _).memGames = _
    rw [frame, loaded]
  have only : ∀ other ∈ chained.memGames, other.gameId = ref.gameId → other = ref := by
    intro other present same
    rw [memGames] at present
    rcases List.mem_append.mp present with old | new
    · exact absurd same (unknown game (List.mem_of_getElem? found) other old)
    · obtain ⟨place, at_place, address⟩ := mem_refsOf.mp new
      obtain ⟨place', at_place', address'⟩ := mem_refsOf.mp member
      have equal : place = place' := by
        rw [same] at at_place
        exact (List.getElem?_inj (List.getElem?_eq_some_iff.mp at_place).1 distinct).mp (at_place.trans at_place'.symm)
      have sameAddress : other.address = ref.address := by rw [address, equal, address']
      exact GameRef.ext sameAddress same
  have apart : ∀ other ∈ chained.memGames, other.address = ref.address → other.gameId = ref.gameId := by
    intro other present same
    rw [memGames] at present
    rcases List.mem_append.mp present with old | new
    · have below := registered other old
      have above : other.address = s.heap.length + index := same
      omega
    · obtain ⟨place, at_place, address⟩ := mem_refsOf.mp new
      have here : other.address = s.heap.length + index := same
      have equal : place = index := by omega
      rw [equal, List.getElem?_map, found] at at_place
      exact (Option.some.inj at_place).symm
  have present : ref ∈ chained.memGames := by
    rw [memGames]
    exact List.mem_append_right _ member
  have registers : getGame chained.memGames ref.gameId = .ok ref := getGame_unique present only
  have listeners := onRounds_heap registers apart attacks session.grpcPort
  have next : nextOf s.heap.length (games.map idOf) (s.heap.length + index) = (games.map idOf)[index + 1]? := by
    simp [nextOf]
  have chainedHere : chained.heap[ref.address]? =
      some (chainedTo session.sessionId ((games.map idOf)[index + 1]?) game) := by
    change (chainGames _ _ _).heap[s.heap.length + index]? = _
    rw [chainGames_heap, loaded_get, found, next]
    rfl
  rw [chainedHere] at listeners
  exact listeners

section
variable {host : Host} {fails : Nat → Bool}

theorem ends_doGames {session : Session} {games : List LiveGame} {a : Alone} (clean : Clean fails a.step)
    (loadable : Loadable host a.server session games) :
    Ends host fails (doGames session) a
      (fun _ a' => a' = {
          server := chainGames (loaded a.server games) session.sessionId
            (refsOf a.server.heap.length (games.map idOf))
          step := a.step + 1 } ∧ Clean fails a'.step)
      fun _ a' => a' = { a with step := a.step + 1 } ∧ FailedLast fails a'.step := by
  let refs := refsOf a.server.heap.length (games.map idOf)
  let read : Alone := { a with step := a.step + 1 }
  let afterLoad : Alone := { server := loaded a.server games, step := a.step + 1 }
  apply ends_chain (M := fun rows a' =>
    rows = host.gameRows (a.server.db.selectGames session.sessionId) ∧ a' = read ∧ Clean fails read.step)
  · apply ends_step_ok rfl (S := a.server) rfl
    · intro failed message
      exact ⟨rfl, failedLast_of_clean clean failed⟩
    · intro works
      exact ⟨rfl, rfl, clean.succ works⟩
  · rintro _ _ ⟨rfl, rfl, cleaner⟩
    apply ends_chain (M := fun games' a' => games' = refs ∧ a' = afterLoad)
    · have ran : initGameRows host (host.gameRows (a.server.db.selectGames session.sessionId)) a.server =
          (.ok refs, loaded a.server games) := initGames_loaded loadable.load loadable.distinct loadable.unknown
      apply ends_sync_ok rfl (v := refs) (S := loaded a.server games)
      · change ((initGameRows host _ a.server).1.mapError _, (initGameRows host _ a.server).2) = _
        rw [ran]
        rfl
      · exact ⟨rfl, rfl⟩
    · rintro _ _ ⟨rfl, rfl⟩
      exact ends_sync_ok rfl rfl ⟨rfl, cleaner⟩

theorem ends_scheduleAttacks {session : Session} (attacks : List Attack)
    (own : ∀ attack ∈ attacks, attack.sessionId = session.sessionId) {a : Alone} (clean : Clean fails a.step)
    (listed : a.server.db.sessions.find? (·.sessionId = session.sessionId) = some session) :
    Ends host fails (parallel (attacks.map scheduleAttack)) a
      (fun _ a' => a'.server = onRounds a.server attacks session.grpcPort ∧ a.step ≤ a'.step ∧ Clean fails a'.step)
      fun _ a' => a'.server.db = a.server.db ∧ a'.server.memGames = a.server.memGames ∧ a.step < a'.step ∧
        FailedLast fails a'.step := by
  induction attacks generalizing a with
  | nil => exact ends_nil ⟨rfl, Nat.le_refl _, clean⟩
  | cons attack attacks ih =>
    have frame := onRound_frame a.server attack session.grpcPort
    let after : Alone := { server := onRound a.server attack session.grpcPort, step := a.step + 1 }
    have db : after.server.db = a.server.db := by
      change (onRound a.server attack session.grpcPort).db = _
      rw [frame]
    have memGames : after.server.memGames = a.server.memGames := by
      change (onRound a.server attack session.grpcPort).memGames = _
      rw [frame]
    apply ends_cons (M := fun _ a' => a' = after ∧ Clean fails after.step)
    · apply ends_chain (M := fun sessions a' => sessions = a.server.db.sessions ∧
        a' = { a with step := a.step + 1 } ∧ Clean fails a'.step)
      · apply ends_step_ok rfl (S := a.server) rfl
        · intro failed message
          exact ⟨rfl, rfl, Nat.lt_succ_self _, failedLast_of_clean clean failed⟩
        · intro works
          exact ⟨rfl, rfl, clean.succ works⟩
      · rintro _ _ ⟨rfl, rfl, cleaner⟩
        rw [own attack (List.mem_cons_self ..), listed]
        exact ends_map (ends_sync_ok rfl rfl ⟨rfl, cleaner⟩)
    · rintro _ _ ⟨rfl, cleaner⟩
      have rest := ih (fun other member => own other (List.mem_cons_of_mem _ member)) cleaner (by rw [db]; exact listed)
      refine ends_weaken rest ?_ ?_
      · rintro _ a' ⟨server, later, clean'⟩
        exact ⟨server, by change a.step + 1 ≤ a'.step at later; omega, clean'⟩
      · rintro _ a' ⟨sameDb, sameGames, later, failed⟩
        exact ⟨sameDb.trans db, sameGames.trans memGames, by change a.step + 1 < a'.step at later; omega, failed⟩

theorem ends_doAttacks {session : Session} {a : Alone} (clean : Clean fails a.step)
    (listed : a.server.db.sessions.find? (·.sessionId = session.sessionId) = some session) :
    Ends host fails (doAttacks session) a
      (fun _ a' => a'.server = onRounds a.server (sessionAttacks host a.server session.sessionId) session.grpcPort ∧
        a.step ≤ a'.step ∧ Clean fails a'.step)
      fun _ a' => a'.server.db = a.server.db ∧ a'.server.memGames = a.server.memGames ∧ a.step < a'.step ∧
        FailedLast fails a'.step := by
  apply ends_chain (M := fun attacks a' => attacks = host.attackRows a.server.db.attacks ∧
    a' = { a with step := a.step + 1 } ∧ Clean fails a'.step)
  · apply ends_step_ok rfl (S := a.server) rfl
    · intro failed message
      exact ⟨rfl, rfl, Nat.lt_succ_self _, failedLast_of_clean clean failed⟩
    · intro works
      exact ⟨rfl, rfl, clean.succ works⟩
  · rintro _ _ ⟨rfl, rfl, cleaner⟩
    refine ends_weaken (ends_scheduleAttacks _ ?_ cleaner listed) ?_ ?_
    · intro attack member
      simpa using (List.mem_filter.mp member).2
    · rintro _ a' ⟨server, later, clean'⟩
      exact ⟨server, by dsimp only at later; omega, clean'⟩
    · rintro _ a' ⟨sameDb, sameGames, later, failed⟩
      exact ⟨sameDb, sameGames, by dsimp only at later; omega, failed⟩

theorem ends_initMurmur {murmur : Murmur} {a : Alone} (clean : Clean fails a.step) :
    Ends host fails (initMurmur murmur) a (fun _ a' => a'.server = a.server ∧ Clean fails a'.step)
      fun _ a' => a'.server = a.server ∧ a.step < a'.step ∧ FailedLast fails a'.step := by
  apply ends_chain (M := fun _ a' => a' = { a with step := a.step + 1 } ∧ Clean fails a'.step)
  · apply ends_step_ok rfl (S := a.server) rfl
    · intro failed message
      exact ⟨rfl, Nat.lt_succ_self _, failedLast_of_clean clean failed⟩
    · intro works
      exact ⟨rfl, clean.succ works⟩
  · rintro _ _ ⟨rfl, cleaner⟩
    apply ends_map
    apply ends_step_ok rfl (S := a.server) rfl
    · intro failed message
      exact ⟨rfl, by dsimp only; omega, failedLast_of_clean cleaner failed⟩
    · intro works
      exact ⟨rfl, cleaner.succ works⟩

theorem ends_doMurmur {session : Session} {a : Alone} (clean : Clean fails a.step)
    (murmur : a.server.db.selectMurmurs session.sessionId ≠ []) :
    Ends host fails (doMurmur session) a (fun _ a' => a'.server = a.server ∧ Clean fails a'.step)
      fun _ a' => a'.server = a.server ∧ a.step < a'.step ∧ FailedLast fails a'.step := by
  unfold doMurmur getMurmurBySessionId
  apply ends_chain (M := fun _ a' => a' = { a with step := a.step + 1 } ∧ Clean fails a'.step)
  · apply ends_chain (M := fun murmurs a' => murmurs = a.server.db.selectMurmurs session.sessionId ∧
      a' = { a with step := a.step + 1 } ∧ Clean fails a'.step)
    · apply ends_step_ok rfl (S := a.server) rfl
      · intro failed message
        exact ⟨rfl, Nat.lt_succ_self _, failedLast_of_clean clean failed⟩
      · intro works
        exact ⟨rfl, rfl, clean.succ works⟩
    · rintro _ _ ⟨rfl, rfl, cleaner⟩
      split
      · rename_i none
        exact absurd none murmur
      · exact ⟨rfl, cleaner⟩
  · rintro murmur _ ⟨rfl, cleaner⟩
    refine ends_weaken (ends_initMurmur cleaner) (fun _ _ held => held) ?_
    rintro _ a' ⟨server, later, failed⟩
    exact ⟨server, by dsimp only at later; omega, failed⟩

/-- How `initSession` ends. Its first step reads the rows. What fails later leaves the games in memory. -/
theorem ends_initSession {session : Session} {games : List LiveGame} {a : Alone} (clean : Clean fails a.step)
    (loadable : Loadable host a.server session games) :
    Ends host fails (initSession session) a
      (fun value a' => value = session ∧
        a'.server = setUp a.server session games (sessionAttacks host a.server session.sessionId) ∧ Clean fails a'.step)
      fun error a' => (∃ message, error = .sessionError session message) ∧ FailedLast fails a'.step ∧
        a.step < a'.step ∧ a'.server.db = a.server.db ∧
        (a'.step = a.step + 1 ∧ a'.server.memGames = a.server.memGames ∨
          a.step + 1 < a'.step ∧ a'.server.memGames = (loaded a.server games).memGames) := by
  let chained := chainGames (loaded a.server games) session.sessionId (refsOf a.server.heap.length (games.map idOf))
  have frame : chained = { loaded a.server games with heap := chained.heap } := chainGames_frame ..
  have db : chained.db = a.server.db := by
    rw [frame]
    rfl
  have memGames : chained.memGames = (loaded a.server games).memGames := by rw [frame]
  unfold initSession
  apply ends_map
  apply ends_mapRej
  apply ends_chain (M := fun _ a' => a' = { server := chained, step := a.step + 1 } ∧ Clean fails a'.step)
  · refine ends_weaken (ends_doGames clean loadable) (fun _ _ held => held) ?_
    rintro error _ ⟨rfl, failed⟩
    exact ⟨⟨_, rfl⟩, failed, Nat.lt_succ_self _, rfl, .inl ⟨rfl, rfl⟩⟩
  · rintro _ _ ⟨rfl, cleaner⟩
    have listed : chained.db.sessions.find? (·.sessionId = session.sessionId) = some session := by
      rw [db]
      exact loadable.listed
    have attacks : sessionAttacks host chained session.sessionId = sessionAttacks host a.server session.sessionId := by
      unfold sessionAttacks
      rw [db]
    apply ends_chain (M := fun _ a' =>
      a'.server = setUp a.server session games (sessionAttacks host a.server session.sessionId) ∧
        a.step + 1 ≤ a'.step ∧ Clean fails a'.step)
    · refine ends_weaken (ends_doAttacks cleaner listed) ?_ ?_
      · rintro _ a' ⟨server, later, clean'⟩
        rw [attacks] at server
        exact ⟨server, later, clean'⟩
      · rintro error a' ⟨sameDb, sameGames, later, failed⟩
        dsimp only at later
        exact ⟨⟨_, rfl⟩, failed, by omega, sameDb.trans db, .inr ⟨later, sameGames.trans memGames⟩⟩
    · rintro _ a' ⟨server, later, clean'⟩
      have frame' := setUp_frame a.server session games (sessionAttacks host a.server session.sessionId)
      have db' : a'.server.db = a.server.db := by
        rw [server, frame']
        rfl
      have murmur : a'.server.db.selectMurmurs session.sessionId ≠ [] := by
        rw [db']
        exact loadable.murmur
      refine ends_weaken (ends_doMurmur clean' murmur) ?_ ?_
      · rintro _ a'' ⟨same, clean''⟩
        exact ⟨rfl, same.trans server, clean''⟩
      · rintro error a'' ⟨same, later', failed⟩
        refine ⟨⟨_, rfl⟩, failed, by omega, by rw [same, db'], .inr ⟨by omega, ?_⟩⟩
        rw [same, server, frame']

end

end DfStudy.SessionSetup
