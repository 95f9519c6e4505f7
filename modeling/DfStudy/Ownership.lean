import DfStudy.Processes
import Mathlib.Data.List.Induction

/-! Which session a game belongs to. Ids are drawn once, for one session. Every row, and every id that a
request has drawn or read, belongs to the session it is about, in every run. -/

namespace DfStudy.Ownership
open Games Tables Servers MemGames GameEffects ServerFrames Sessions Requests Processes
open Support.Futures Support.Machine Future

/-- What holds when a request has been settled. -/
def Settles : Asked → Stage → Except Failure (Option Session) → Prop
  | .create _, stage, result =>
    ∀ session, result = .ok (some session) → ∃ listed, stage = .loaded session.sessionId listed
  | _, _, _ => True

structure Owned (owner : String → Option Nat) (p : Process) : Prop where
  rows : ∀ row ∈ p.server.db.games, owner row.gameId = some row.sessionId ∧ row.gameData.gameId = row.gameId
  stages : ∀ thread ∈ p.threads, ∀ sessionId, thread.stage.about = some sessionId →
    ∀ gameId ∈ thread.stage.gameIds, owner gameId = some sessionId
  asked : ∀ thread ∈ p.threads, ∀ sessionId, thread.asked = .remove sessionId →
    ∀ other, thread.stage.about = some other → other = sessionId
  started : ∀ thread ∈ p.threads, thread.stage = .asking ∨ (∃ current, thread.stage = .connecting current) →
    ∀ sessionId, thread.asked ≠ .remove sessionId
  follows : ∀ thread ∈ p.threads, Follows protocol (Settles thread.asked) thread.stage thread.request
  fresh : ∀ index, owner (p.server.uuids index) = none
  injective : ∀ first second, p.server.uuids first = p.server.uuids second → first = second
  saves : ∀ gameId data, .saveGame gameId data ∈ p.server.tasks → data.gameId = gameId

/-- A row of the session has the id, or a request about the session has drawn or read it. -/
def Belongs (p : Process) (gameId : String) (sessionId : Nat) : Prop :=
  (∃ row ∈ p.server.db.games, row.gameId = gameId ∧ row.sessionId = sessionId) ∨
    ∃ thread ∈ p.threads, thread.stage.about = some sessionId ∧ gameId ∈ thread.stage.gameIds

theorem Owned.belongs {owner : String → Option Nat} {p : Process} (owned : Owned owner p) {gameId : String}
    {sessionId : Nat} (belongs : Belongs p gameId sessionId) : owner gameId = some sessionId := by
  rcases belongs with ⟨row, member, rfl, rfl⟩ | ⟨thread, member, about, listed⟩
  · exact (owned.rows row member).1
  · exact owned.stages thread member sessionId about gameId listed

/-- More is known, and nothing is forgotten. -/
def Wider (owner owner' : String → Option Nat) : Prop :=
  ∀ gameId sessionId, owner gameId = some sessionId → owner' gameId = some sessionId

theorem Wider.refl (owner : String → Option Nat) : Wider owner owner := fun _ _ known => known

theorem Wider.trans {first second third : String → Option Nat} (before : Wider first second)
    (after : Wider second third) : Wider first third :=
  fun gameId sessionId known => after gameId sessionId (before gameId sessionId known)

theorem follows_asked (host : Host) (asked : Asked) :
    Follows protocol (Settles asked) asked.stage (asked.request host) := by
  cases asked with
  | create params =>
    apply (follows_createSession host params).map
    intro stage result created session same
    cases result with
    | error error => cases same
    | ok value =>
      cases same
      exact created _ rfl
  | remove sessionId => exact (follows_removeSession rfl).map fun _ _ _ => trivial
  | connect socket playerId => exact (follows_onConnect socket playerId).map fun _ _ _ => trivial

/-- Rows that are selected are rows of the table. -/
theorem selectGames_ok {host : Host} {fails : Bool} {s : Server} {sessionId : Nat} {rows : List GameRow}
    (answer : (perform host fails (.selectGames sessionId) s).1 = .ok rows) :
    rows.Perm (s.db.games.filter (·.sessionId = sessionId)) := by
  cases fails with
  | true => cases answer
  | false =>
    cases answer
    exact host.gameRows_perm _

theorem perform_expects (host : Host) (fails : Bool) {s : Server}
    (rows : ∀ row ∈ s.db.games, row.gameData.gameId = row.gameId) (stage : Stage) (op : Op) :
    stage.expects op (perform host fails op s).1 := by
  have statements : ∀ {α : Type} (result : Except String (α × Database)) (error : Failure),
      (statement fails s result).1 = .error error → ∃ message, error = .error message := by
    intro α result error same
    rcases statement_cases fails s result with ⟨message, failed⟩ | ⟨value, db, _, worked⟩
    · rw [failed] at same
      cases same
      exact ⟨message, rfl⟩
    · rw [worked] at same
      cases same
  cases answer : (perform host fails op s).1 with
  | error error =>
    have told : ∃ message, error = .error message := by
      cases op with
      | initGameRows rows =>
        change (initGameRows host rows s).1.mapError _ = _ at answer
        cases result : (initGameRows host rows s).1 with
        | error message =>
          rw [result] at answer
          cases answer
          exact ⟨message, rfl⟩
        | ok games =>
          rw [result] at answer
          cases answer
      | getGames gameIds =>
        change (gameIds.mapM (getGame s.memGames)).mapError _ = _ at answer
        cases result : gameIds.mapM (getGame s.memGames) with
        | error message =>
          rw [result] at answer
          cases answer
          exact ⟨message, rfl⟩
        | ok games =>
          rw [result] at answer
          cases answer
      | docker request => cases fails <;> cases answer; exact ⟨_, rfl⟩
      | mkdirSync recDir => cases fails <;> cases answer; exact ⟨_, rfl⟩
      | rmdirSync recDir => cases fails <;> cases answer; exact ⟨_, rfl⟩
      | randomUUID => cases answer
      | chainGames sessionId games => cases answer
      | removeMemGame game => cases answer
      | onRound attack grpcPort => cases answer
      | joinGame socket game => cases answer
      | _ => exact statements _ _ answer
    cases op <;> exact told
  | ok value =>
    cases op with
    | selectGames sessionId =>
      intro row member
      have listed := (selectGames_ok answer).mem_iff.mp member
      rw [List.mem_filter] at listed
      exact ⟨by simpa using listed.2, rows row listed.1⟩
    | initGameRows gameRows =>
      change (initGameRows host gameRows s).1.mapError _ = _ at answer
      cases result : (initGameRows host gameRows s).1 with
      | error message =>
        rw [result] at answer
        cases answer
      | ok games =>
        rw [result] at answer
        cases answer
        intro game member
        have ids := ((initGameRows_loads host gameRows s).all _ result).1
        have known := List.mem_map_of_mem (f := fun ref : GameRef => ref.gameId) member
        rw [ids, mem_sorted] at known
        exact known
    | getGames gameIds =>
      change (gameIds.mapM (getGame s.memGames)).mapError _ = _ at answer
      cases result : gameIds.mapM (getGame s.memGames) with
      | error message =>
        rw [result] at answer
        cases answer
      | ok games =>
        rw [result] at answer
        cases answer
        exact (getGames_ok result).1
    | _ => trivial

/-! Play. -/

theorem forks_step (game : LiveGame) (action : Action) :
    ∀ task ∈ forks (Games.step game action) game.effects.length,
      (∃ saved : Game, task = .saveGame game.game.gameId saved.state ∧ saved.gameId = game.game.gameId ∧
        saved.rounds.map (·.name) = game.game.rounds.map (·.name)) ∨
      ∃ sessionId gameId, task = .setCurrentGame sessionId gameId ∧
        .setCurrentGame sessionId gameId ∈ game.game.cbMap.stop := by
  intro task member
  obtain ⟨alike, block, effects, issued⟩ := extends_step game action
  unfold forks at member
  rw [effects, List.drop_left, alike.gameId] at member
  obtain ⟨effect, present, forked⟩ := List.mem_filterMap.mp member
  have cause := issued effect present
  cases effect with
  | saveGame data =>
    cases forked
    obtain ⟨saved, rfl, own, names⟩ := cause
    exact .inl ⟨saved, rfl, own, names⟩
  | setCurrentGame sessionId gameId =>
    cases forked
    exact .inr ⟨sessionId, gameId, rfl, cause⟩
  | _ => cases forked

theorem act_saves {s : Server} {address : Nat} {action : Action}
    (saves : ∀ gameId data, .saveGame gameId data ∈ s.tasks → data.gameId = gameId) :
    ∀ gameId data, .saveGame gameId data ∈ (act s address action).tasks → data.gameId = gameId := by
  intro gameId data member
  unfold act at member
  split at member
  · exact saves gameId data member
  · rename_i game _
    rcases List.mem_append.mp member with old | new
    · exact saves gameId data old
    · rcases forks_step game action _ new with ⟨saved, same, own, _⟩ | ⟨_, _, same, _⟩
      · cases same
        exact own
      · cases same

/-- A committed write keeps the rows, but for the data and the flags. -/
theorem commitTask_rows {db : Database} {task : Task} {row : GameRow} (member : row ∈ (commitTask db task).games) :
    ∃ old ∈ db.games, row.gameId = old.gameId ∧ row.sessionId = old.sessionId ∧ row.gameOrder = old.gameOrder ∧
      (row.gameData = old.gameData ∨ ∃ data, task = .saveGame old.gameId data ∧ row.gameData = data.json) := by
  cases task with
  | saveGame gameId data =>
    obtain ⟨old, present, rfl⟩ := List.mem_map.mp member
    refine ⟨old, present, ?_⟩
    by_cases same : old.gameId = gameId
    · subst same
      rw [if_pos rfl]
      exact ⟨rfl, rfl, rfl, .inr ⟨data, rfl, rfl⟩⟩
    · rw [if_neg same]
      exact ⟨rfl, rfl, rfl, .inl rfl⟩
  | setCurrentGame sessionId gameId =>
    obtain ⟨cleared, present, rfl⟩ := List.mem_map.mp member
    obtain ⟨old, present', rfl⟩ := List.mem_map.mp present
    refine ⟨old, present', ?_⟩
    by_cases own : old.sessionId = sessionId
    · simp only [if_pos own]
      split <;> exact ⟨rfl, rfl, rfl, .inl rfl⟩
    · simp only [if_neg own]
      split <;> exact ⟨rfl, rfl, rfl, .inl rfl⟩

theorem Owned.play {owner : String → Option Nat} {p : Process} (owned : Owned owner p) {server : Server}
    (played : Played p.server server) : Owned owner { p with server } := by
  have frame := played.frame
  have rows : (∀ row ∈ server.db.games, owner row.gameId = some row.sessionId ∧ row.gameData.gameId = row.gameId) ∧
      ∀ gameId data, .saveGame gameId data ∈ server.tasks → data.gameId = gameId := by
    cases played with
    | nothing => exact ⟨owned.rows, owned.saves⟩
    | acted address action =>
      refine ⟨?_, act_saves owned.saves⟩
      rw [act_frame]
      exact owned.rows
    | sockets sockets => exact ⟨owned.rows, owned.saves⟩
    | hung address action sockets =>
      refine ⟨?_, act_saves owned.saves⟩
      rw [act_frame]
      exact owned.rows
    | watched admin =>
      rw [watch_frame]
      exact ⟨owned.rows, owned.saves⟩
    | committed index fails =>
      unfold commit
      split
      · exact ⟨owned.rows, owned.saves⟩
      · rename_i task found
        have pending := List.mem_of_getElem? found
        constructor
        · cases fails with
          | true => exact owned.rows
          | false =>
            intro row member
            obtain ⟨old, present, gameId, sessionId, _, data⟩ := commitTask_rows member
            have known := owned.rows old present
            rw [gameId, sessionId]
            refine ⟨known.1, ?_⟩
            rcases data with same | ⟨data, rfl, same⟩
            · rw [same]
              exact known.2
            · rw [same]
              exact owned.saves old.gameId data pending
        · exact fun gameId data member => owned.saves gameId data (List.mem_of_mem_eraseIdx member)
  exact {
    rows := rows.1
    stages := owned.stages
    asked := owned.asked
    started := owned.started
    follows := owned.follows
    fresh := by
      change ∀ index, owner (server.uuids index) = none
      rw [frame.2.1]
      exact owned.fresh
    injective := by
      change ∀ first second, server.uuids first = server.uuids second → first = second
      rw [frame.2.1]
      exact owned.injective
    saves := rows.2 }

theorem Owned.arrive {owner : String → Option Nat} {p : Process} (owned : Owned owner p) (host : Host)
    (asked : Asked) : Owned owner (arrive host p asked) := by
  have each : ∀ thread ∈ (Processes.arrive host p asked).threads, thread ∈ p.threads ∨
      thread = { asked, stage := asked.stage, request := asked.request host } := by
    intro thread member
    rcases List.mem_append.mp member with old | new
    · exact .inl old
    · exact .inr (List.mem_singleton.mp new)
  constructor
  · exact owned.rows
  · intro thread member sessionId about gameId listed
    rcases each thread member with old | rfl
    · exact owned.stages thread old sessionId about gameId listed
    · cases asked <;> cases listed
  · intro thread member sessionId same other about
    rcases each thread member with old | rfl
    · exact owned.asked thread old sessionId same other about
    · cases same
      cases about
      rfl
  · intro thread member start sessionId same
    rcases each thread member with old | rfl
    · exact owned.started thread old start sessionId same
    · cases same
      rcases start with start | ⟨current, start⟩ <;> cases start
  · intro thread member
    rcases each thread member with old | rfl
    · exact owned.follows thread old
    · exact follows_asked host asked
  · exact owned.fresh
  · exact owned.injective
  · exact owned.saves

/-! Operations of requests. -/

/-- The session of an id that has just been drawn. -/
def claim (owner : String → Option Nat) (gameId : String) (sessionId : Nat) (other : String) : Option Nat :=
  if other = gameId then some sessionId else owner other

theorem wider_claim {owner : String → Option Nat} {gameId : String} (unknown : owner gameId = none) (sessionId : Nat) :
    Wider owner (claim owner gameId sessionId) := by
  intro other known owned
  have apart : other ≠ gameId := by
    rintro rfl
    rw [unknown] at owned
    cases owned
  unfold claim
  rw [if_neg apart]
  exact owned

/-- The rows after an operation that the protocol permits. -/
theorem perform_rows {owner : String → Option Nat} {host : Host} {fails : Bool} {s : Server} {stage : Stage} {op : Op}
    (rows : ∀ row ∈ s.db.games, owner row.gameId = some row.sessionId ∧ row.gameData.gameId = row.gameId)
    (ids : ∀ sessionId, stage.about = some sessionId → ∀ gameId ∈ stage.gameIds, owner gameId = some sessionId)
    (permitted : stage.permits op) :
    ∀ row ∈ (perform host fails op s).2.db.games,
      owner row.gameId = some row.sessionId ∧ row.gameData.gameId = row.gameId := by
  intro row member
  rcases perform_games host fails op s with same | ⟨new, rfl, same⟩ | ⟨gameId, rfl, same⟩
  · rw [same] at member
    exact rows row member
  · rw [same] at member
    rcases List.mem_append.mp member with old | added
    · exact rows row old
    · obtain ⟨drawn, rfl, listed, data⟩ := permitted
      rw [List.mem_singleton.mp added]
      exact ⟨ids _ rfl _ listed, data⟩
  · rw [same] at member
    exact rows row (List.mem_filter.mp member).1

theorem perform_saves {host : Host} {fails : Bool} {s : Server} {op : Op}
    (saves : ∀ gameId data, .saveGame gameId data ∈ s.tasks → data.gameId = gameId) :
    ∀ gameId data, .saveGame gameId data ∈ (perform host fails op s).2.tasks → data.gameId = gameId := by
  intro gameId data member
  rcases perform_tasks host fails op s with same | ⟨rows, rfl⟩
  · rw [same] at member
    exact saves gameId data member
  · obtain ⟨forked, tasks, own⟩ := (initGameRows_loads host rows s).tasks
    change _ ∈ (initGameRows host rows s).2.tasks at member
    rw [tasks] at member
    rcases List.mem_append.mp member with old | new
    · exact saves gameId data old
    · obtain ⟨source, saved, _, same, kept⟩ := own _ new
      cases same
      exact kept

/-- The stage of a request after an operation: what it is about, and where its ids come from. -/
structure After (s : Server) (op : Op) (stage stage' : Stage) : Prop where
  about : ∀ sessionId, stage'.about = some sessionId → stage.about = some sessionId ∨ stage = .asking
  gameIds : ∀ sessionId, stage'.about = some sessionId → ∀ gameId ∈ stage'.gameIds,
    stage.about = some sessionId ∧ gameId ∈ stage.gameIds ∨
    stage.about = some sessionId ∧ op = .randomUUID ∧ gameId = s.uuids 0 ∨
    ∃ row ∈ s.db.games, row.gameId = gameId ∧ row.sessionId = sessionId
  started : (stage' = .asking ∨ ∃ current, stage' = .connecting current) →
    stage = .asking ∨ ∃ current, stage = .connecting current

theorem stage_after {stage : Stage} {op : Op} (permitted : stage.permits op) (host : Host) (fails : Bool) (s : Server) :
    After s op stage (stage.after op (perform host fails op s).1) := by
  have progress := Stage.progress permitted (perform host fails op s).1
  generalize outcome : stage.after op (perform host fails op s).1 = stage' at progress
  generalize answered : (perform host fails op s).1 = answer at progress
  cases progress with
  | same => exact ⟨fun _ => .inl, fun _ about _ member => .inl ⟨about, member⟩, id⟩
  | inserted params sessionId => exact ⟨fun _ _ => .inr rfl, fun _ _ _ member => (nomatch member), fun _ => .inl rfl⟩
  | drew sessionId drawn gameId =>
    cases answered
    refine ⟨fun _ => .inl, ?_, fun start => by rcases start with start | ⟨_, start⟩ <;> cases start⟩
    intro other about gameId' member
    rcases List.mem_cons.mp member with rfl | old
    · exact .inr (.inl ⟨about, rfl, rfl⟩)
    · exact .inl ⟨about, old⟩
  | read _ sessionId rows known =>
    have listed : ∀ gameId ∈ rows.map (·.gameId), ∃ row ∈ s.db.games, row.gameId = gameId ∧
        row.sessionId = sessionId := by
      intro gameId member
      obtain ⟨row, present, rfl⟩ := List.mem_map.mp member
      have selected := (selectGames_ok answered).mem_iff.mp present
      rw [List.mem_filter] at selected
      exact ⟨row, selected.1, rfl, by simpa using selected.2⟩
    cases stage with
    | creating | reading | loaded | removing =>
      rcases known with known | ⟨current, known⟩
      · refine ⟨fun _ => .inl, ?_, fun start => by rcases start with start | ⟨_, start⟩ <;> cases start⟩
        intro other about gameId member
        have own : other = sessionId := Option.some.inj (about.symm.trans known)
        subst own
        exact .inr (.inr (listed gameId member))
      · cases known
    | asking => exact ⟨fun _ about => (nomatch about), fun _ about => (nomatch about), id⟩
    | finished => exact ⟨fun _ about => (nomatch about), fun _ about => (nomatch about), id⟩
    | connecting current =>
      exact ⟨fun _ about => (nomatch about), fun _ about => (nomatch about), fun _ => .inr ⟨current, rfl⟩⟩
  | loads sessionId rows games =>
    exact ⟨fun _ => .inl, fun _ about _ member => .inl ⟨about, member⟩,
      fun start => by rcases start with start | ⟨_, start⟩ <;> cases start⟩
  | ended _ sessionId _ about =>
    exact ⟨fun _ about => (nomatch about), fun _ about => (nomatch about),
      fun start => by rcases start with start | ⟨_, start⟩ <;> cases start⟩

/-- Only a drawn id makes anything new known: it belongs to the session it is drawn for. -/
theorem Owned.draw {owner : String → Option Nat} {p : Process} (owned : Owned owner p) {stage : Stage} {op : Op}
    (permitted : stage.permits op) (host : Host) (fails : Bool) :
    ∃ owner', Wider owner owner' ∧ (∀ index, owner' ((perform host fails op p.server).2.uuids index) = none) ∧
      (∀ sessionId, stage.about = some sessionId → op = .randomUUID → owner' (p.server.uuids 0) = some sessionId) ∧
      ∀ gameId sessionId, owner' gameId = some sessionId → owner gameId = some sessionId ∨
        (stage.after op (perform host fails op p.server).1).about = some sessionId ∧
          gameId ∈ (stage.after op (perform host fails op p.server).1).gameIds := by
  rcases perform_uuids host fails op p.server with same | ⟨rfl, shifted⟩
  · refine ⟨owner, .refl owner, ?_, ?_, fun _ _ => .inl⟩
    · rw [same]
      exact owned.fresh
    · rintro _ _ rfl
      have first : p.server.uuids (0 + 1) = p.server.uuids 0 := congrFun same 0
      exact absurd (owned.injective _ _ first) (by decide)
  · obtain ⟨sessionId, drawn, rfl⟩ := permitted
    refine ⟨claim owner (p.server.uuids 0) sessionId, wider_claim (owned.fresh 0) sessionId, ?_, ?_, ?_⟩
    · intro index
      rw [shifted]
      have apart : p.server.uuids (index + 1) ≠ p.server.uuids 0 := by
        intro same
        have impossible := owned.injective _ _ same
        omega
      unfold claim
      rw [if_neg apart]
      exact owned.fresh (index + 1)
    · intro other about _
      cases about
      exact if_pos rfl
    · intro gameId other known
      unfold claim at known
      split at known
      · rename_i same
        exact .inr ⟨known, List.mem_cons.mpr (Or.inl same)⟩
      · exact .inl known

theorem Owned.perform {owner : String → Option Nat} {p : Process} (owned : Owned owner p) {host : Host} {fails : Bool}
    {index : Nat} {thread : Thread} {op : Op} {next : Except Failure (Res op) → Request (Option Session)}
    {p' : Process} (found : p.threads[index]? = some thread) (pending : thread.request = .step op next)
    (after : p' = {
      server := (perform host fails op p.server).2
      threads := p.threads.set index { thread with
        stage := thread.stage.after op (Servers.perform host fails op p.server).1
        request := next (Servers.perform host fails op p.server).1 } }) :
    ∃ owner', Wider owner owner' ∧ Owned owner' p' ∧
      ∀ gameId sessionId, owner' gameId = some sessionId → owner gameId = some sessionId ∨
        Belongs p' gameId sessionId := by
  subst after
  have present := List.mem_of_getElem? found
  have follows := owned.follows thread present
  rw [pending] at follows
  have permitted : thread.stage.permits op := follows.1
  have expected := perform_expects host fails (fun row member => (owned.rows row member).2)
    thread.stage op
  obtain ⟨about, gameIds, started⟩ := stage_after permitted host fails p.server
  obtain ⟨owner', wider, fresh, drawn, claimed⟩ := owned.draw permitted host fails
  have rows : ∀ row ∈ (Servers.perform host fails op p.server).2.db.games,
      owner' row.gameId = some row.sessionId ∧ row.gameData.gameId = row.gameId := by
    intro row member
    obtain ⟨own, data⟩ := perform_rows owned.rows (owned.stages thread present) permitted row member
    exact ⟨wider _ _ own, data⟩
  refine ⟨owner', wider, ⟨rows, ?_, ?_, ?_, ?_, fresh, ?_, perform_saves owned.saves⟩, ?_⟩
  · intro other member sessionId same gameId listed
    rcases List.mem_or_eq_of_mem_set member with old | rfl
    · exact wider _ _ (owned.stages other old sessionId same gameId listed)
    · rcases gameIds sessionId same gameId listed with ⟨was, known⟩ | ⟨was, rfl, rfl⟩ | ⟨row, among, rfl, rfl⟩
      · exact wider _ _ (owned.stages thread present sessionId was gameId known)
      · exact drawn sessionId was rfl
      · exact wider _ _ (owned.rows row among).1
  · intro other member sessionId same
    rcases List.mem_or_eq_of_mem_set member with old | rfl
    · exact owned.asked other old sessionId same
    · intro subject now
      rcases about subject now with was | start
      · exact owned.asked thread present sessionId same subject was
      · exact absurd same (owned.started thread present (.inl start) sessionId)
  · intro other member start
    rcases List.mem_or_eq_of_mem_set member with old | rfl
    · exact owned.started other old start
    · exact owned.started thread present (started start)
  · intro other member
    rcases List.mem_or_eq_of_mem_set member with old | rfl
    · exact owned.follows other old
    · exact follows.advance expected
  · change ∀ first second, (Servers.perform host fails op p.server).2.uuids first = _ → first = second
    rcases perform_uuids host fails op p.server with same | ⟨_, shifted⟩
    · rw [same]
      exact owned.injective
    · rw [shifted]
      intro first second same
      have equal := owned.injective _ _ same
      omega
  · intro gameId sessionId known
    rcases claimed gameId sessionId known with old | ⟨subject, new⟩
    · exact .inl old
    · have bound := (List.getElem?_eq_some_iff.mp found).1
      exact .inr (.inr ⟨_, List.mem_set bound _, subject, new⟩)

theorem owned_step {owner : String → Option Nat} {p : Process} (owned : Owned owner p) (host : Host) (turn : Turn) :
    ∃ owner', Wider owner owner' ∧ Owned owner' (step host p turn) ∧
      ∀ gameId sessionId, owner' gameId = some sessionId → owner gameId = some sessionId ∨
        Belongs (step host p turn) gameId sessionId := by
  rcases step_cases host p turn with same | ⟨index, fails, thread, op, next, _, found, pending, same⟩ |
    ⟨asked, same⟩ | same
  · rw [same]
    exact ⟨owner, .refl owner, owned, fun _ _ => .inl⟩
  · exact owned.perform found pending same
  · rw [same]
    exact ⟨owner, .refl owner, (owned.play (played p.server turn)).arrive host asked, fun _ _ => .inl⟩
  · rw [same]
    exact ⟨owner, .refl owner, owned.play (played p.server turn), fun _ _ => .inl⟩

/-! Runs. -/

/-- A server on which no request is pending, with tables as it writes them and `randomUUID` returning new ids. -/
structure Booted (p : Process) : Prop where
  threads : p.threads = []
  distinct : (p.server.db.games.map (·.gameId)).Nodup
  data : ∀ row ∈ p.server.db.games, row.gameData.gameId = row.gameId
  saves : ∀ gameId data, .saveGame gameId data ∈ p.server.tasks → data.gameId = gameId
  fresh : ∀ index, ∀ row ∈ p.server.db.games, row.gameId ≠ p.server.uuids index
  injective : ∀ first second, p.server.uuids first = p.server.uuids second → first = second

/-- The id has belonged to the session in some state of the run. -/
def Belonged (host : Host) (start : Process) (turns : List Turn) (gameId : String) (sessionId : Nat) : Prop :=
  ∃ before after, turns = before ++ after ∧ Belongs (run (step host) start before) gameId sessionId

theorem Booted.owned {p : Process} (booted : Booted p) :
    ∃ owner, Owned owner p ∧ ∀ gameId sessionId, owner gameId = some sessionId → Belongs p gameId sessionId := by
  refine ⟨fun gameId => (p.server.db.games.find? (·.gameId = gameId)).map (·.sessionId), ?_, ?_⟩
  · constructor
    · intro row member
      refine ⟨?_, booted.data row member⟩
      cases found : p.server.db.games.find? (·.gameId = row.gameId) with
      | none =>
        have missed := List.find?_eq_none.mp found row member
        simp at missed
      | some other =>
        have same : other.gameId = row.gameId := by simpa using List.find?_some found
        have equal := List.inj_on_of_nodup_map booted.distinct (List.mem_of_find?_eq_some found) member same
        rw [equal]
        rfl
    · rw [booted.threads]
      exact fun _ member => nomatch member
    · rw [booted.threads]
      exact fun _ member => nomatch member
    · rw [booted.threads]
      exact fun _ member => nomatch member
    · rw [booted.threads]
      exact fun _ member => nomatch member
    · intro index
      have unknown : p.server.db.games.find? (·.gameId = p.server.uuids index) = none := by
        rw [List.find?_eq_none]
        intro row member
        simpa using booted.fresh index row member
      rw [unknown]
      rfl
    · exact booted.injective
    · exact booted.saves
  · intro gameId sessionId known
    obtain ⟨row, found, own⟩ := Option.map_eq_some_iff.mp known
    exact .inl ⟨row, List.mem_of_find?_eq_some found, by simpa using List.find?_some found, own⟩

/-- In every run each id belongs to one session at most, once and for all. -/
theorem owned_run {start : Process} (booted : Booted start) (host : Host) (turns : List Turn) :
    ∃ owner, Owned owner (run (step host) start turns) ∧
      ∀ gameId sessionId, owner gameId = some sessionId ↔ Belonged host start turns gameId sessionId := by
  induction turns using List.reverseRecOn with
  | nil =>
    obtain ⟨owner, owned, belongs⟩ := booted.owned
    refine ⟨owner, owned, fun gameId sessionId => ⟨fun known => ⟨[], [], rfl, belongs _ _ known⟩, ?_⟩⟩
    rintro ⟨before, after, split, belongs⟩
    have empty : before = [] := (List.append_eq_nil_iff.mp split.symm).1
    subst empty
    exact owned.belongs belongs
  | append_singleton turns turn ih =>
    obtain ⟨owner, owned, belonged⟩ := ih
    obtain ⟨owner', wider, owned', claimed⟩ := owned_step owned host turn
    have last : run (step host) start (turns ++ [turn]) = step host (run (step host) start turns) turn := by
      rw [run_append]
      rfl
    refine ⟨owner', ?_, fun gameId sessionId => ⟨fun known => ?_, ?_⟩⟩
    · rw [last]
      exact owned'
    · rcases claimed gameId sessionId known with old | new
      · obtain ⟨before, after, split, belongs⟩ := (belonged gameId sessionId).mp old
        exact ⟨before, after ++ [turn], by rw [split, List.append_assoc], belongs⟩
      · refine ⟨turns ++ [turn], [], by simp, ?_⟩
        rw [last]
        exact new
    · rintro ⟨before, after, split, belongs⟩
      rcases List.eq_nil_or_concat after with rfl | ⟨front, final, rfl⟩
      · have whole : turns ++ [turn] = before := by simpa using split
        rw [← whole, last] at belongs
        exact owned'.belongs belongs
      · have shorter : turns ++ [turn] = (before ++ front) ++ [final] := by simpa using split
        obtain ⟨same, _⟩ := List.append_inj' shorter rfl
        exact wider _ _ ((belonged gameId sessionId).mpr ⟨before, front, same, belongs⟩)

end DfStudy.Ownership
