import DfStudy.Registry

/-! Where the ids of games occur. From where it is drawn, an id spreads to rows, games, listeners, writes, sockets and
requests. An id that is still to be drawn occurs nowhere. -/

namespace DfStudy.Mentions
open Games Tables Servers MemGames GameEffects ServerFrames Sessions Requests Processes Ownership Registry
open Support.Futures Support.Machine Future

/-- The game a write is about. -/
def subject : Task → String
  | .saveGame gameId _ => gameId
  | .setCurrentGame _ gameId => gameId

/-- The id occurs in a game, in its listeners, in the list of games, or in a forked write. -/
inductive InMemory (s : Server) (gameId : String) : Prop where
  | game (game : LiveGame) (member : game ∈ s.heap) (own : game.game.gameId = gameId)
  | listener (game : LiveGame) (sessionId : Nat) (member : game ∈ s.heap)
      (listens : .setCurrentGame sessionId gameId ∈ game.game.cbMap.stop)
  | task (task : Task) (member : task ∈ s.tasks) (own : subject task = gameId)
  | ref (ref : GameRef) (member : ref ∈ s.memGames) (own : ref.gameId = gameId)

/-- The ids a request has drawn, or read. -/
def names : Stage → List String
  | .connecting current => current.toList
  | stage => stage.gameIds

structure Unmentioned (p : Process) (gameId : String) : Prop where
  rows : ∀ row ∈ p.server.db.games, row.gameId ≠ gameId
  memory : ¬InMemory p.server gameId
  sockets : ∀ entry ∈ p.server.sockets, entry.gameId ≠ some gameId
  threads : ∀ thread ∈ p.threads, gameId ∉ names thread.stage

/-- What is still to be drawn occurs nowhere. -/
def Fresh (p : Process) : Prop := ∀ index, Unmentioned p (p.server.uuids index)

/-! Games. -/

section
variable {s : Server} {gameId : String}

/-- The games keep their ids, and nothing new is forked. -/
theorem inMemory_heap {s' : Server} (mentioned : InMemory s' gameId)
    (heap : ∀ (game' : LiveGame), game' ∈ s'.heap → ∃ game ∈ s.heap,
      game'.game.gameId = game.game.gameId ∧ ∀ sessionId, .setCurrentGame sessionId gameId ∈ game'.game.cbMap.stop →
        .setCurrentGame sessionId gameId ∈ game.game.cbMap.stop)
    (tasks : s'.tasks = s.tasks) (memGames : s'.memGames = s.memGames) : InMemory s gameId := by
  cases mentioned with
  | game game' member own =>
    obtain ⟨game, there, id, _⟩ := heap game' member
    exact .game game there (id.symm.trans own)
  | listener game' sessionId member listens =>
    obtain ⟨game, there, _, stop⟩ := heap game' member
    exact .listener game sessionId there (stop sessionId listens)
  | task task member own => exact .task task (tasks ▸ member) own
  | ref ref member own => exact .ref ref (memGames ▸ member) own

theorem inMemory_modifyGame {address : Nat} {change : LiveGame → LiveGame}
    (mentioned : InMemory (modifyGame s address change) gameId)
    (named : ∀ game, (change game).game.gameId = game.game.gameId)
    (stop : ∀ game sessionId, .setCurrentGame sessionId gameId ∈ (change game).game.cbMap.stop →
      .setCurrentGame sessionId gameId ∈ game.game.cbMap.stop) : InMemory s gameId := by
  refine inMemory_heap mentioned (fun game' member => ?_) rfl rfl
  obtain ⟨place, found⟩ := List.mem_iff_getElem?.mp member
  change (s.heap.modify address change)[place]? = _ at found
  rw [List.getElem?_modify] at found
  obtain ⟨game, there, rfl⟩ := Option.map_eq_some_iff.mp found
  refine ⟨game, List.mem_of_getElem? there, ?_⟩
  split
  next => exact ⟨named game, stop game⟩
  next => exact ⟨rfl, fun _ => id⟩

theorem inMemory_act {address : Nat} {action : Action} (mentioned : InMemory (act s address action) gameId) :
    InMemory s gameId := by
  unfold act at mentioned
  split at mentioned
  next => exact mentioned
  next game found =>
    have there := List.mem_of_getElem? found
    have alike := (extends_step game action).alike
    cases mentioned with
    | game game' member own =>
      rcases List.mem_or_eq_of_mem_set member with old | rfl
      · exact .game game' old own
      · exact .game game there (alike.gameId.symm.trans own)
    | listener game' sessionId member listens =>
      rcases List.mem_or_eq_of_mem_set member with old | rfl
      · exact .listener game' sessionId old listens
      · rw [alike.stop] at listens
        exact .listener game sessionId there listens
    | task task member own =>
      rcases List.mem_append.mp member with old | new
      · exact .task task old own
      · rcases forks_step game action task new with ⟨saved, rfl, _, _⟩ | ⟨sessionId, nextId, rfl, listens⟩
        · exact .game game there own
        · have same : nextId = gameId := own
          subst same
          exact .listener game sessionId there listens
    | ref ref member own => exact .ref ref member own

theorem inMemory_watch {admin : Nat} (mentioned : InMemory (watch s admin) gameId) : InMemory s gameId := by
  have folds : ∀ (games : List GameRef) (s : Server),
      InMemory (games.foldl (fun s game => modifyGame s game.address (·.onState admin)) s) gameId → InMemory s gameId := by
    intro games
    induction games with
    | nil => exact fun _ => id
    | cons game games ih =>
      intro s mentioned
      exact inMemory_modifyGame (ih _ mentioned) (fun _ => rfl) fun _ _ => id
  exact folds s.memGames s mentioned

theorem inMemory_played {s' : Server} (played : Played s s') (mentioned : InMemory s' gameId) : InMemory s gameId := by
  cases played with
  | nothing => exact mentioned
  | acted address action => exact inMemory_act mentioned
  | sockets sockets =>
    exact inMemory_heap mentioned (fun game member => ⟨game, member, rfl, fun _ => id⟩) rfl rfl
  | hung address action sockets =>
    have acted : InMemory (act s address action) gameId :=
      inMemory_heap mentioned (fun game member => ⟨game, member, rfl, fun _ => id⟩) rfl rfl
    exact inMemory_act acted
  | watched admin => exact inMemory_watch mentioned
  | committed index fails =>
    unfold commit at mentioned
    split at mentioned
    next => exact mentioned
    next =>
      cases mentioned with
      | game game member own => exact .game game member own
      | listener game sessionId member listens => exact .listener game sessionId member listens
      | task task member own => exact .task task (List.mem_of_mem_eraseIdx member) own
      | ref ref member own => exact .ref ref member own

/-! Operations. -/

theorem inMemory_chainGames {sessionId : Nat} {games : List GameRef} (other : ∀ game ∈ games, game.gameId ≠ gameId)
    (mentioned : InMemory (chainGames s sessionId games) gameId) : InMemory s gameId := by
  induction games with
  | nil => exact mentioned
  | cons curr games ih =>
    cases games with
    | nil => exact mentioned
    | cons acc games =>
      apply ih (fun game member => other game (List.mem_cons_of_mem _ member))
      refine inMemory_modifyGame mentioned (fun _ => rfl) fun game session listens => ?_
      rcases List.mem_append.mp listens with old | new
      · exact old
      · have same := List.mem_singleton.mp new
        cases same
        exact absurd rfl (other acc (List.mem_cons_of_mem _ List.mem_cons_self))

theorem inMemory_initGames {host : Host} {datas : List GameData} (other : ∀ data ∈ datas, data.gameId ≠ gameId)
    (mentioned : InMemory (initGames host datas s).2 gameId) : InMemory s gameId := by
  have keeps : InMemory (initGames host datas s).2 gameId → InMemory s gameId := by
    apply initGames_keeps host (fun s' => InMemory s' gameId → InMemory s gameId) _ id
    intro s' data game among kept loaded mentioned
    obtain ⟨own, saves⟩ := loaded_game loaded
    have apart : game.game.gameId ≠ gameId := own ▸ other data among
    apply kept
    cases mentioned with
    | game game' member own =>
      rcases List.mem_append.mp member with old | new
      · exact .game game' old own
      · rw [List.mem_singleton.mp new] at own
        exact absurd own apart
    | listener game' sessionId member listens =>
      rcases List.mem_append.mp member with old | new
      · exact .listener game' sessionId old listens
      · rw [List.mem_singleton.mp new, loaded_stop loaded] at listens
        cases List.mem_singleton.mp listens
    | task task member named =>
      rcases List.mem_append.mp member with old | new
      · exact .task task old named
      · obtain ⟨saved, rfl, _⟩ := saves task new
        exact absurd named (other data among)
    | ref ref member named =>
      rcases (setMemGame_registered s'.memGames { address := s'.heap.length, gameId := game.game.gameId }).2.2.1 ref
        member with old | rfl
      · exact .ref ref old named
      · exact absurd named apart
  exact keeps mentioned

variable {host : Host} {fails : Bool} {op : Op} {stage : Stage}

/-- A request brings into memory only ids it has read. -/
theorem inMemory_perform (permitted : stage.permits op) (unread : gameId ∉ stage.gameIds)
    (mentioned : InMemory (perform host fails op s).2 gameId) : InMemory s gameId := by
  cases op with
  | initGameRows rows =>
    obtain ⟨sessionId, rfl, own⟩ := permitted
    refine inMemory_initGames (fun data member same => ?_) mentioned
    obtain ⟨row, present, rfl⟩ := List.mem_map.mp member
    have listed : row ∈ rows := (List.perm_insertionSort _ rows).mem_iff.mp present
    apply unread
    rw [← same, own row listed]
    exact List.mem_map_of_mem listed
  | chainGames sessionId games =>
    obtain ⟨listed, rfl, among⟩ := permitted
    exact inMemory_chainGames (fun game member same => unread (same ▸ among game member)) mentioned
  | onRound attack grpcPort =>
    change InMemory (onRound s attack grpcPort) gameId at mentioned
    unfold onRound at mentioned
    split at mentioned
    next => exact mentioned
    next => exact inMemory_modifyGame mentioned (fun _ => rfl) fun _ _ => id
  | joinGame socket game =>
    have registered : InMemory (modifyGame s game.address (·.onState socket)) gameId :=
      inMemory_heap mentioned (fun game member => ⟨game, member, rfl, fun _ => id⟩) rfl rfl
    exact inMemory_modifyGame registered (fun _ => rfl) fun _ _ => id
  | removeMemGame game =>
    cases mentioned with
    | game game member own => exact .game game member own
    | listener game sessionId member listens => exact .listener game sessionId member listens
    | task task member own => exact .task task member own
    | ref ref member own => exact .ref ref (removeMemGame_sublist.mem member) own
  | randomUUID =>
    exact inMemory_heap mentioned (fun game member => ⟨game, member, rfl, fun _ => id⟩) rfl rfl
  | _ =>
    rw [perform_frame host fails _ s rfl] at mentioned
    exact inMemory_heap mentioned (fun game member => ⟨game, member, rfl, fun _ => id⟩) rfl rfl

/-- Where the ids come from that a request has got to know in an operation. -/
theorem names_after (permitted : stage.permits op) (known : gameId ∈ names (stage.after op (perform host fails op s).1)) :
    gameId ∈ names stage ∨ op = .randomUUID ∧ gameId = s.uuids 0 ∨ ∃ row ∈ s.db.games, row.gameId = gameId := by
  have progress := Stage.progress permitted (perform host fails op s).1
  generalize stage.after op (perform host fails op s).1 = stage' at progress known
  generalize answered : (perform host fails op s).1 = answer at progress
  cases progress with
  | same => exact .inl known
  | inserted params sessionId => cases known
  | drew sessionId drawn new =>
    cases answered
    rcases List.mem_cons.mp known with rfl | old
    · exact .inr (.inl ⟨rfl, rfl⟩)
    · exact .inl old
  | read _ sessionId rows _ =>
    have listed : ∀ row ∈ rows, row ∈ s.db.games := fun row member =>
      (List.mem_filter.mp ((selectGames_ok answered).mem_iff.mp member)).1
    cases stage with
    | creating | reading | loaded | removing =>
      obtain ⟨row, member, same⟩ := List.mem_map.mp known
      exact .inr (.inr ⟨row, listed row member, same⟩)
    | asking | finished => exact .inl known
    | connecting current =>
      obtain ⟨row, found, same⟩ := Option.map_eq_some_iff.mp (Option.mem_toList.mp known)
      exact .inr (.inr ⟨row, listed row (List.mem_of_find?_eq_some found), same⟩)
  | loads sessionId rows games => exact .inl known
  | ended _ sessionId _ about => cases known

end

/-! Runs. -/

section
variable {p : Process} {gameId : String}

theorem Unmentioned.play (unmentioned : Unmentioned p gameId) (turn : Turn) :
    Unmentioned { p with server := play p.server turn } gameId where
  rows := by
    intro row member
    obtain ⟨old, present, same, _⟩ := played_rows (played p.server turn) member
    rw [← same]
    exact unmentioned.rows old present
  memory := fun mentioned => unmentioned.memory (inMemory_played (played p.server turn) mentioned)
  sockets := by
    intro entry member
    change entry ∈ (Processes.play p.server turn).sockets at member
    rw [play_socketsAfter] at member
    cases turn with
    | connect playerId =>
      rcases List.mem_append.mp member with old | new
      · exact unmentioned.sockets entry old
      · rw [List.mem_singleton.mp new]
        exact fun same => nomatch same
    | disconnect socket =>
      obtain ⟨place, here⟩ := List.mem_iff_getElem?.mp member
      change (p.server.sockets.modify socket _)[place]? = _ at here
      rw [List.getElem?_modify] at here
      obtain ⟨old, there, rfl⟩ := Option.map_eq_some_iff.mp here
      have unjoined := unmentioned.sockets old (List.mem_of_getElem? there)
      split <;> exact unjoined
    | _ => exact unmentioned.sockets entry member
  threads := unmentioned.threads

theorem Unmentioned.arrive (unmentioned : Unmentioned p gameId) (host : Host) (asked : Asked) :
    Unmentioned (arrive host p asked) gameId where
  rows := unmentioned.rows
  memory := unmentioned.memory
  sockets := unmentioned.sockets
  threads := by
    intro thread member
    rcases List.mem_append.mp member with old | new
    · exact unmentioned.threads thread old
    · rw [List.mem_singleton.mp new]
      cases asked <;> exact List.not_mem_nil

theorem gameIds_names {stage : Stage} (known : gameId ∈ stage.gameIds) : gameId ∈ names stage := by
  cases stage with
  | connecting current => cases known
  | _ => exact known

theorem Unmentioned.perform (unmentioned : Unmentioned p gameId) (host : Host) (fails : Bool) {index : Nat}
    {thread : Thread} {op : Op} {next : Except Failure (Res op) → Request (Option Session)}
    (found : p.threads[index]? = some thread) (permitted : thread.stage.permits op)
    (undrawn : op = .randomUUID → gameId ≠ p.server.uuids 0) :
    Unmentioned (performed host fails p index thread op next) gameId := by
  have unknown := unmentioned.threads thread (List.mem_of_getElem? found)
  refine ⟨?_, ?_, ?_, ?_⟩
  · intro row member
    change row ∈ (Servers.perform host fails op p.server).2.db.games at member
    rcases perform_games host fails op p.server with same | ⟨new, rfl, same⟩ | ⟨gone, rfl, same⟩
    · rw [same] at member
      exact unmentioned.rows row member
    · rw [same] at member
      rcases List.mem_append.mp member with old | added
      · exact unmentioned.rows row old
      · obtain ⟨drawn, stage, listed, _⟩ := permitted
        rw [List.mem_singleton.mp added]
        intro same
        exact unknown (by rw [stage, ← same]; exact listed)
    · rw [same] at member
      exact unmentioned.rows row (List.mem_filter.mp member).1
  · intro mentioned
    exact unmentioned.memory (inMemory_perform permitted (fun known => unknown (gameIds_names known)) mentioned)
  · intro entry member
    change entry ∈ (Servers.perform host fails op p.server).2.sockets at member
    by_cases joining : ∃ socket game, op = .joinGame socket game
    · obtain ⟨socket, game, rfl⟩ := joining
      have stage : thread.stage = .connecting (some game.gameId) := permitted
      change entry ∈ p.server.sockets.modify socket _ at member
      obtain ⟨place, here⟩ := List.mem_iff_getElem?.mp member
      rw [List.getElem?_modify] at here
      obtain ⟨old, there, rfl⟩ := Option.map_eq_some_iff.mp here
      split
      next =>
        intro same
        exact unknown (by rw [stage, Option.some.inj same]; exact List.mem_singleton_self _)
      next => exact unmentioned.sockets old (List.mem_of_getElem? there)
    · rw [perform_sockets fun socket game same => joining ⟨socket, game, same⟩] at member
      exact unmentioned.sockets entry member
  · intro other member
    rcases List.mem_or_eq_of_mem_set member with old | rfl
    · exact unmentioned.threads other old
    · intro known
      rcases names_after permitted known with before | ⟨drawing, same⟩ | ⟨row, present, same⟩
      · exact unknown before
      · exact undrawn drawing same
      · exact unmentioned.rows row present same

theorem fresh_step {owner : String → Option Nat} (owned : Owned owner p) (fresh : Fresh p) (host : Host) (turn : Turn) :
    Fresh (step host p turn) := by
  rcases step_cases host p turn with same | ⟨index, fails, thread, op, next, _, found, pending, same⟩ |
    ⟨asked, same⟩ | same
  · rw [same]
    exact fresh
  · have follows := owned.follows thread (List.mem_of_getElem? found)
    rw [pending] at follows
    rw [same]
    intro place
    change Unmentioned (performed host fails p index thread op next) ((perform host fails op p.server).2.uuids place)
    rcases perform_uuids host fails op p.server with still | ⟨rfl, shifted⟩
    · rw [still]
      refine (fresh place).perform host fails found follows.1 fun drawing => ?_
      subst drawing
      have first : p.server.uuids (0 + 1) = p.server.uuids 0 := congrFun still 0
      exact absurd (owned.injective _ _ first) (by decide)
    · rw [shifted]
      refine (fresh (place + 1)).perform host fails found follows.1 fun _ same => ?_
      have impossible := owned.injective _ _ same
      omega
  · rw [same]
    intro place
    change Unmentioned (arrive host { p with server := play p.server turn } asked) ((play p.server turn).uuids place)
    rw [(played p.server turn).frame.2.1]
    exact ((fresh place).play turn).arrive host asked
  · rw [same]
    intro place
    change Unmentioned { p with server := play p.server turn } ((play p.server turn).uuids place)
    rw [(played p.server turn).frame.2.1]
    exact (fresh place).play turn

end

end DfStudy.Mentions
