import DfStudy.Mentions

/-! Who can reach the games of a session, and who can move it on. A player reaches a game that was the current one when
his connection read the table. A session is moved by the listeners its own games have, and by what these have forked. -/

namespace DfStudy.SessionGates
open Games GameEffects Tables Servers MemGames ServerFrames Requests Processes Ownership Registry Mentions
open Support.Futures Support.Machine Future

/-! Gates. -/

/-- No connection is in a game that is shut, or on its way into one. -/
structure Gated (shut : String → Prop) (p : Process) : Prop where
  sockets : ∀ entry ∈ p.server.sockets, ∀ gameId, entry.gameId = some gameId → ¬shut gameId
  threads : ∀ thread ∈ p.threads, ∀ gameId, thread.stage = .connecting (some gameId) → ¬shut gameId

section
variable {shut : String → Prop} {p : Process}

theorem Gated.mono (gated : Gated shut p) {shut' : String → Prop} (fewer : ∀ gameId, shut' gameId → shut gameId) :
    Gated shut' p where
  sockets := fun entry member gameId joined now => gated.sockets entry member gameId joined (fewer gameId now)
  threads := fun thread member gameId stage now => gated.threads thread member gameId stage (fewer gameId now)

theorem Gated.play (gated : Gated shut p) (turn : Turn) : Gated shut { p with server := play p.server turn } where
  sockets := by
    intro entry member
    change entry ∈ (Processes.play p.server turn).sockets at member
    rw [play_socketsAfter] at member
    cases turn with
    | connect playerId =>
      rcases List.mem_append.mp member with old | new
      · exact gated.sockets entry old
      · rw [List.mem_singleton.mp new]
        exact fun _ same => nomatch same
    | disconnect socket =>
      obtain ⟨place, here⟩ := List.mem_iff_getElem?.mp member
      change (p.server.sockets.modify socket _)[place]? = _ at here
      rw [List.getElem?_modify] at here
      obtain ⟨old, there, rfl⟩ := Option.map_eq_some_iff.mp here
      have before := gated.sockets old (List.mem_of_getElem? there)
      split <;> exact before
    | _ => exact gated.sockets entry member
  threads := gated.threads

theorem Gated.arrive (gated : Gated shut p) (host : Host) (asked : Asked) : Gated shut (arrive host p asked) where
  sockets := gated.sockets
  threads := by
    intro thread member gameId stage
    rcases List.mem_append.mp member with old | new
    · exact gated.threads thread old gameId stage
    · rw [List.mem_singleton.mp new] at stage
      cases asked <;> cases stage

/-- The current game of a connection is one that is marked as such in the table. -/
theorem connecting_after {stage : Stage} {op : Op} (permitted : stage.permits op) {host : Host} {fails : Bool} {s : Server}
    {gameId : String} (now : stage.after op (perform host fails op s).1 = .connecting (some gameId)) :
    stage = .connecting (some gameId) ∨ ∃ row ∈ s.db.games, row.gameId = gameId ∧ row.isCurrent = true := by
  have progress := Stage.progress permitted (perform host fails op s).1
  generalize stage.after op (perform host fails op s).1 = stage' at progress now
  generalize answered : (perform host fails op s).1 = answer at progress
  cases progress with
  | same => exact .inl now
  | inserted | drew | loads | ended => cases now
  | read _ sessionId rows _ =>
    have listed : ∀ row ∈ rows, row ∈ s.db.games := fun row member =>
      (List.mem_filter.mp ((selectGames_ok answered).mem_iff.mp member)).1
    cases stage with
    | connecting current =>
      obtain ⟨row, found, same⟩ := Option.map_eq_some_iff.mp (Stage.connecting.inj now)
      exact .inr ⟨row, listed row (List.mem_of_find?_eq_some found), same, List.find?_some found⟩
    | _ => cases now

theorem Gated.perform (gated : Gated shut p) (host : Host) (fails : Bool) {index : Nat} {thread : Thread} {op : Op}
    {next : Except Failure (Res op) → Request (Option Session)} (found : p.threads[index]? = some thread)
    (permitted : thread.stage.permits op)
    (flagged : ∀ row ∈ p.server.db.games, row.isCurrent = true → ¬shut row.gameId) :
    Gated shut (performed host fails p index thread op next) where
  sockets := by
    intro entry member
    change entry ∈ (Servers.perform host fails op p.server).2.sockets at member
    by_cases joining : ∃ socket game, op = .joinGame socket game
    · obtain ⟨socket, game, rfl⟩ := joining
      have stage : thread.stage = .connecting (some game.gameId) := permitted
      change entry ∈ p.server.sockets.modify socket _ at member
      obtain ⟨place, here⟩ := List.mem_iff_getElem?.mp member
      rw [List.getElem?_modify] at here
      obtain ⟨old, there, rfl⟩ := Option.map_eq_some_iff.mp here
      split
      next =>
        intro gameId same
        cases same
        exact gated.threads thread (List.mem_of_getElem? found) _ stage
      next => exact gated.sockets old (List.mem_of_getElem? there)
    · rw [perform_sockets fun socket game same => joining ⟨socket, game, same⟩] at member
      exact gated.sockets entry member
  threads := by
    intro other member gameId stage
    rcases List.mem_or_eq_of_mem_set member with old | rfl
    · exact gated.threads other old gameId stage
    · rcases connecting_after permitted stage with before | ⟨row, present, rfl, current⟩
      · exact gated.threads thread (List.mem_of_getElem? found) gameId before
      · exact flagged row present current

end

/-! Moves of a session. -/

/-- The session is to be moved to the game, by a write or by a listener. -/
inductive Moves (s : Server) (sessionId : Nat) (gameId : String) : Prop where
  | task (member : .setCurrentGame sessionId gameId ∈ s.tasks)
  | listener (game : LiveGame) (member : game ∈ s.heap) (listens : .setCurrentGame sessionId gameId ∈ game.game.cbMap.stop)

section
variable {s : Server} {sessionId : Nat} {gameId : String}

theorem moves_heap {s' : Server} (moves : Moves s' sessionId gameId)
    (heap : ∀ game' ∈ s'.heap, .setCurrentGame sessionId gameId ∈ game'.game.cbMap.stop →
      ∃ game ∈ s.heap, .setCurrentGame sessionId gameId ∈ game.game.cbMap.stop)
    (tasks : .setCurrentGame sessionId gameId ∈ s'.tasks → .setCurrentGame sessionId gameId ∈ s.tasks) :
    Moves s sessionId gameId := by
  cases moves with
  | task member => exact .task (tasks member)
  | listener game' member listens =>
    obtain ⟨game, there, stop⟩ := heap game' member listens
    exact .listener game there stop

theorem moves_modifyGame {address : Nat} {change : LiveGame → LiveGame}
    (moves : Moves (modifyGame s address change) sessionId gameId)
    (stop : ∀ game, .setCurrentGame sessionId gameId ∈ (change game).game.cbMap.stop →
      .setCurrentGame sessionId gameId ∈ game.game.cbMap.stop) : Moves s sessionId gameId := by
  refine moves_heap moves (fun game' member listens => ?_) id
  obtain ⟨place, found⟩ := List.mem_iff_getElem?.mp member
  change (s.heap.modify address change)[place]? = _ at found
  rw [List.getElem?_modify] at found
  obtain ⟨game, there, rfl⟩ := Option.map_eq_some_iff.mp found
  refine ⟨game, List.mem_of_getElem? there, ?_⟩
  split at listens
  next => exact stop game listens
  next => exact listens

theorem moves_act {address : Nat} {action : Action} (moves : Moves (act s address action) sessionId gameId) :
    Moves s sessionId gameId := by
  unfold act at moves
  split at moves
  next => exact moves
  next game found =>
    have there := List.mem_of_getElem? found
    cases moves with
    | task member =>
      rcases List.mem_append.mp member with old | new
      · exact .task old
      · rcases forks_step game action _ new with ⟨_, same, _⟩ | ⟨session, nextId, same, listens⟩
        · cases same
        · cases same
          exact .listener game there listens
    | listener game' member listens =>
      rcases List.mem_or_eq_of_mem_set member with old | rfl
      · exact .listener game' old listens
      · rw [(extends_step game action).alike.stop] at listens
        exact .listener game there listens

theorem moves_watch {admin : Nat} (moves : Moves (watch s admin) sessionId gameId) : Moves s sessionId gameId := by
  have folds : ∀ (games : List GameRef) (s : Server),
      Moves (games.foldl (fun s game => modifyGame s game.address (·.onState admin)) s) sessionId gameId →
        Moves s sessionId gameId := by
    intro games
    induction games with
    | nil => exact fun _ => id
    | cons game games ih => exact fun s moves => moves_modifyGame (ih _ moves) fun _ => id
  exact folds s.memGames s moves

theorem moves_played {s' : Server} (played : Played s s') (moves : Moves s' sessionId gameId) : Moves s sessionId gameId := by
  cases played with
  | nothing => exact moves
  | acted address action => exact moves_act moves
  | sockets sockets => exact moves_heap moves (fun game member listens => ⟨game, member, listens⟩) id
  | hung address action sockets =>
    have acted : Moves (act s address action) sessionId gameId :=
      moves_heap moves (fun game member listens => ⟨game, member, listens⟩) id
    exact moves_act acted
  | watched admin => exact moves_watch moves
  | committed index fails =>
    unfold commit at moves
    split at moves
    next => exact moves
    next => exact moves_heap moves (fun game member listens => ⟨game, member, listens⟩) List.mem_of_mem_eraseIdx

theorem moves_chainGames {other : Nat} {games : List GameRef} (moves : Moves (chainGames s other games) sessionId gameId) :
    Moves s sessionId gameId ∨ sessionId = other ∧ gameId ∈ games.map (·.gameId) := by
  induction games with
  | nil => exact .inl moves
  | cons curr games ih =>
    cases games with
    | nil => exact .inl moves
    | cons acc games =>
      by_cases new : sessionId = other ∧ gameId = acc.gameId
      · exact .inr ⟨new.1, List.mem_cons_of_mem _ (List.mem_cons.mpr (.inl new.2))⟩
      · refine (ih (moves_modifyGame moves fun game listens => ?_)).imp_right (And.imp_right (List.mem_cons_of_mem _))
        rcases List.mem_append.mp listens with old | added
        · exact old
        · cases List.mem_singleton.mp added
          exact absurd ⟨rfl, rfl⟩ new

/-- A session is moved by the games that have been chained for it. -/
theorem moves_perform {host : Host} {fails : Bool} {op : Op} (moves : Moves (perform host fails op s).2 sessionId gameId) :
    Moves s sessionId gameId ∨ ∃ games, op = .chainGames sessionId games ∧ gameId ∈ games.map (·.gameId) := by
  have same : ∀ {s' : Server}, Moves s' sessionId gameId → s'.heap = s.heap → s'.tasks = s.tasks →
      Moves s sessionId gameId := by
    intro s' moves heap tasks
    exact moves_heap moves (fun game member listens => ⟨game, heap ▸ member, listens⟩) (tasks ▸ id)
  cases op with
  | chainGames other games =>
    refine (moves_chainGames moves).imp_right ?_
    rintro ⟨rfl, listed⟩
    exact ⟨games, rfl, listed⟩
  | initGameRows rows =>
    left
    have keeps : Moves (initGameRows host rows s).2 sessionId gameId → Moves s sessionId gameId := by
      unfold initGameRows
      apply initGames_keeps host (fun s' => Moves s' sessionId gameId → Moves s sessionId gameId) _ id
      intro s' data game _ kept loaded moves
      obtain ⟨_, saves⟩ := loaded_game loaded
      apply kept
      cases moves with
      | task member =>
        rcases List.mem_append.mp member with old | new
        · exact .task old
        · obtain ⟨_, same, _⟩ := saves _ new
          cases same
      | listener game' member listens =>
        rcases List.mem_append.mp member with old | new
        · exact .listener game' old listens
        · rw [List.mem_singleton.mp new, loaded_stop loaded] at listens
          cases List.mem_singleton.mp listens
    exact keeps moves
  | onRound attack grpcPort =>
    left
    change Moves (onRound s attack grpcPort) sessionId gameId at moves
    unfold onRound at moves
    split at moves
    next => exact moves
    next => exact moves_modifyGame moves fun _ => id
  | joinGame socket game =>
    left
    have joined : Moves (modifyGame s game.address (·.onState socket)) sessionId gameId :=
      moves_heap moves (fun game member listens => ⟨game, member, listens⟩) id
    exact moves_modifyGame joined fun _ => id
  | removeMemGame game => exact .inl (same moves rfl rfl)
  | randomUUID => exact .inl (same moves rfl rfl)
  | _ =>
    rw [perform_frame host fails _ s rfl] at moves
    exact .inl (same moves rfl rfl)

end

end DfStudy.SessionGates
