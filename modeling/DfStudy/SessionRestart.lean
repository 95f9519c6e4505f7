import DfStudy.AttackRestart

/-! Which game a session is left with when the server restarts. `resumeGame` stops a game that has already ended for a
second time, before `chainGames` gives it the listener that makes the next game current. -/

namespace DfStudy.SessionRestart
open Rounds Games GameFrames GameInvariant Tables Servers ServerFrames Sessions Undisturbed SessionSetup Processes
open Support.Machine

/-- The current game of a session has not ended, unless it is the last one. -/
def Unstuck (db : Database) (sessionId : Nat) : Prop :=
  ∀ row ∈ db.games, row.sessionId = sessionId → row.isCurrent = true → row.gameData.endTime.isSome →
    ∀ other ∈ db.games, other.sessionId = sessionId → other.gameOrder ≤ row.gameOrder

/-- What a row says about a game that will have ended once the game has been resumed. -/
def Over (data : GameData) : Prop :=
  if data.startTime.isSome then data.rounds.length ≤ data.currentRound else data.endTime.isSome

instance (db : Database) (sessionId : Nat) : Decidable (Unstuck db sessionId) :=
  inferInstanceAs (Decidable (∀ row ∈ db.games, row.sessionId = sessionId → row.isCurrent = true →
    row.gameData.endTime.isSome → ∀ other ∈ db.games, other.sessionId = sessionId → other.gameOrder ≤ row.gameOrder))

/-- The current game is not over, unless it is the last one. -/
def InPlay (db : Database) (sessionId : Nat) : Prop :=
  ∀ row ∈ db.games, row.sessionId = sessionId → row.isCurrent = true → Over row.gameData →
    ∀ other ∈ db.games, other.sessionId = sessionId → other.gameOrder ≤ row.gameOrder

/-- Games have keys of their own, which their data repeats. -/
structure Keyed (db : Database) : Prop where
  keys : (db.games.map (·.gameId)).Nodup
  named : ∀ row ∈ db.games, row.gameData.gameId = row.gameId

/-- Forked writes are committed in this order. -/
def commits (s : Server) (order : List Nat) : Server := run (fun s task => commit s task false) s order

/-! Committing. -/

/-- The tables while writes are being committed: every row has the data it had, and all its writes are pending, or it has
what one of its writes has brought. -/
structure Draining (tasks : List Task) (rows : List GameRow) (s : Server) : Prop where
  rows : ∃ dataOf : GameRow → GameData, s.db.games = rows.map (fun row => { row with gameData := dataOf row }) ∧
    ∀ row ∈ rows, (dataOf row = row.gameData ∧
        ∀ data, Task.saveGame row.gameId data ∈ tasks → Task.saveGame row.gameId data ∈ s.tasks) ∨
      ∃ data, Task.saveGame row.gameId data ∈ tasks ∧ dataOf row = data.json
  tasks : ∀ task ∈ s.tasks, task ∈ tasks

theorem draining_begins (s : Server) : Draining s.tasks s.db.games s where
  rows := ⟨GameRow.gameData, (List.map_id _).symm, fun _ _ => .inl ⟨rfl, fun _ member => member⟩⟩
  tasks _ member := member

theorem draining_commit {tasks : List Task} {rows : List GameRow} {s : Server}
    (saves : ∀ task ∈ tasks, ∃ gameId data, task = .saveGame gameId data) (draining : Draining tasks rows s)
    (index : Nat) : Draining tasks rows (commit s index false) := by
  unfold commit
  cases found : s.tasks[index]? with
  | none => exact draining
  | some task =>
    have known := draining.tasks task (List.mem_of_getElem? found)
    obtain ⟨gameId, data, rfl⟩ := saves task known
    obtain ⟨dataOf, games, each⟩ := draining.rows
    refine ⟨⟨fun row => if row.gameId = gameId then data.json else dataOf row, ?_, ?_⟩, ?_⟩
    · show (s.db.updateGame gameId data).games = _
      unfold Database.updateGame
      rw [games, List.map_map]
      apply List.map_congr_left
      intro row _
      by_cases here : row.gameId = gameId
      · simp [here]
      · simp [here]
    · intro row member
      dsimp only
      by_cases here : row.gameId = gameId
      · right
        rw [if_pos here]
        exact ⟨data, here ▸ known, rfl⟩
      · rw [if_neg here]
        refine (each row member).imp_left fun ⟨same, pending⟩ => ⟨same, fun other written => ?_⟩
        obtain ⟨place, at_place⟩ := List.mem_iff_getElem?.mp (pending other written)
        refine List.mem_eraseIdx_iff_getElem?.mpr ⟨place, ?_, at_place⟩
        rintro rfl
        rw [found] at at_place
        cases at_place
        exact here rfl
    · exact fun task member => draining.tasks task (List.mem_of_mem_eraseIdx member)

theorem draining_commits {s : Server} (saves : ∀ task ∈ s.tasks, ∃ gameId data, task = .saveGame gameId data)
    (order : List Nat) : Draining s.tasks s.db.games (commits s order) := by
  have step : ∀ (later : Server) (index : Nat), Draining s.tasks s.db.games later →
      Draining s.tasks s.db.games (commit later index false) := fun _ index draining => draining_commit saves draining index
  exact run_invariant (Draining s.tasks s.db.games) step order (draining_begins s)

/-- Committing the first pending write until none is left. -/
theorem commits_all (s : Server) : ∃ order, (commits s order).tasks = [] := by
  obtain ⟨count, length⟩ : ∃ count, s.tasks.length = count := ⟨_, rfl⟩
  induction count generalizing s with
  | zero => exact ⟨[], List.length_eq_zero_iff.mp length⟩
  | succ count ih =>
    obtain ⟨task, found⟩ : ∃ task, s.tasks[0]? = some task := ⟨_, List.getElem?_eq_getElem (by omega)⟩
    have shorter : (commit s 0 false).tasks.length = count := by
      unfold commit
      rw [found]
      dsimp only
      rw [List.length_eraseIdx_of_lt (by omega), length]
      rfl
    obtain ⟨order, empty⟩ := ih (commit s 0 false) shorter
    exact ⟨0 :: order, empty⟩

/-! What a restart writes. -/

/-- A game that is resumed is saved once. It has ended if it was past its last round. -/
theorem resumed_forks {clock : Nat → Nat} {data : GameData} {game : LiveGame}
    (loaded : deserializeGame clock data = .ok game) :
    (data.startTime = none → forks game 0 = []) ∧
      (data.startTime.isSome → ∃ saved, forks game 0 = [.saveGame data.gameId saved] ∧
        (saved.endTime.isSome ↔ data.rounds.length ≤ data.currentRound)) := by
  obtain ⟨rounds, created, rfl⟩ := deserializeGame_ok loaded
  have length := rounds_length created
  unfold resumeGame
  constructor
  · intro never
    have waiting : ¬(reread clock data rounds).game.startTime.isSome := by
      show ¬data.startTime.isSome
      simp [never]
    rw [if_neg waiting]
    rfl
  · intro started
    have running : (reread clock data rounds).game.startTime.isSome := started
    rw [if_pos running]
    show ∃ saved, forks ((reread clock data rounds).gotoRound data.currentRound).1 0 = _ ∧ _
    cases found : (reread clock data rounds).game.rounds[data.currentRound]? with
    | none =>
      have past : data.rounds.length ≤ data.currentRound := length.symm.trans_le (List.getElem?_eq_none_iff.mp found)
      rw [gotoRound_past _ _ found, stop_eq]
      exact ⟨_, rfl, iff_of_true rfl past⟩
    | some roundObj =>
      have inside : ¬data.rounds.length ≤ data.currentRound := by
        rw [← length, not_le]
        exact (List.getElem?_eq_some_iff.mp found).1
      rw [gotoRound_enters _ _ _ found]
      exact ⟨_, rfl, iff_of_false Bool.false_ne_true inside⟩

theorem loaded_saves {host : Host} {address : Nat} {datas : List GameData} {games : List LiveGame}
    (load : loadGames host address datas = .ok games) :
    (∀ task ∈ games.flatMap (forks · 0), ∃ data ∈ datas, data.startTime.isSome ∧ ∃ saved,
        task = .saveGame data.gameId saved ∧ (saved.endTime.isSome ↔ data.rounds.length ≤ data.currentRound)) ∧
      ∀ data ∈ datas, data.startTime.isSome → ∃ saved, Task.saveGame data.gameId saved ∈ games.flatMap (forks · 0) := by
  induction datas generalizing address games with
  | nil =>
    cases load
    exact ⟨(fun _ member => nomatch member), (fun _ member => nomatch member)⟩
  | cons first rest ih =>
    obtain ⟨game, others, here, later, rfl⟩ := loadGames_cons load
    obtain ⟨written, writes⟩ := ih later
    obtain ⟨quiet, saves⟩ := resumed_forks here
    rw [List.flatMap_cons]
    constructor
    · intro task member
      rcases List.mem_append.mp member with own | other
      · cases started : first.startTime with
        | none =>
          rw [quiet started] at own
          cases own
        | some time =>
          obtain ⟨saved, forked, ended⟩ := saves (by rw [started]; rfl)
          rw [forked] at own
          exact ⟨first, List.mem_cons_self .., by rw [started]; rfl, saved, List.mem_singleton.mp own, ended⟩
      · obtain ⟨data, among, known⟩ := written task other
        exact ⟨data, List.mem_cons_of_mem _ among, known⟩
    · intro data member started
      rcases List.mem_cons.mp member with rfl | other
      · obtain ⟨saved, forked, -⟩ := saves started
        exact ⟨saved, List.mem_append_left _ (by rw [forked]; exact List.mem_cons_self ..)⟩
      · obtain ⟨saved, among⟩ := writes data other started
        exact ⟨saved, List.mem_append_right _ among⟩

section
variable {host : Host} {s : Server} {session : Session} {games : List LiveGame}

/-- What is being written already is about other sessions. -/
def Elsewhere (s : Server) (sessionId : Nat) : Prop :=
  ∀ task ∈ s.tasks, ∃ gameId data, task = .saveGame gameId data ∧
    ∀ row ∈ s.db.games, row.sessionId = sessionId → row.gameId ≠ gameId

theorem mem_sortedRows {row : GameRow} : row ∈ sortedRows host s session.sessionId ↔
    row ∈ s.db.games ∧ row.sessionId = session.sessionId := by
  rw [(SessionBirth.perm_rows host s session.sessionId).mem_iff]
  show row ∈ s.db.games.filter (·.sessionId = session.sessionId) ↔ _
  rw [List.mem_filter, decide_eq_true_iff]

/-- Once everything has been written, a row of the session says that its game has ended just when it was over. -/
theorem settled_row (keyed : Keyed s.db) (elsewhere : Elsewhere s session.sessionId)
    (load : loadGames host s.heap.length ((sortedRows host s session.sessionId).map (·.gameData)) = .ok games)
    {tasks : List Task} (forked : tasks = s.tasks ++ games.flatMap (forks · 0)) {row : GameRow} (member : row ∈ s.db.games)
    (own : row.sessionId = session.sessionId) {data : GameData}
    (written : (data = row.gameData ∧ ∀ saved, Task.saveGame row.gameId saved ∉ tasks) ∨
      ∃ saved, Task.saveGame row.gameId saved ∈ tasks ∧ data = saved.json) :
    data.endTime.isSome ↔ Over row.gameData := by
  obtain ⟨known, writes⟩ := loaded_saves load
  have listed : row.gameData ∈ (sortedRows host s session.sessionId).map (·.gameData) :=
    List.mem_map_of_mem (mem_sortedRows.mpr ⟨member, own⟩)
  unfold Over
  rcases written with ⟨rfl, silent⟩ | ⟨saved, among, rfl⟩
  · have never : ¬row.gameData.startTime.isSome := by
      intro started
      obtain ⟨saved, writing⟩ := writes row.gameData listed started
      rw [keyed.named row member] at writing
      exact silent saved (forked ▸ List.mem_append_right _ writing)
    rw [if_neg never]
  · rw [forked] at among
    rcases List.mem_append.mp among with before | now
    · obtain ⟨gameId, data, same, apart⟩ := elsewhere _ before
      cases same
      exact absurd rfl (apart row member own)
    · obtain ⟨data, stored, started, saved', same, ended⟩ := known _ now
      obtain ⟨other, listed', rfl⟩ := List.mem_map.mp stored
      have there := (mem_sortedRows.mp listed').1
      injection same with ids datas
      have alike : other.gameId = row.gameId := (keyed.named other there).symm.trans ids.symm
      rw [datas]
      obtain rfl : other = row := List.inj_on_of_nodup_map keyed.keys there member alike
      rw [if_pos started]
      exact ended

/-- A restart leaves a session with a game that has ended for its current game, and with games behind it, just when the
tables say so at the crash. -/
theorem unstuck_iff {fails : Nat → Bool} (loadable : Loadable host s session games) (keyed : Keyed s.db)
    (elsewhere : Elsewhere s session.sessionId) {value : Session} {a : Alone}
    (resolved : alone host fails (initSession session) { server := s } = (.ok value, a)) :
    (∀ order, (commits a.server order).tasks = [] → Unstuck (commits a.server order).db session.sessionId) ↔
      InPlay s.db session.sessionId := by
  have clean : Clean fails 0 := fun earlier below => absurd below (Nat.not_lt_zero _)
  obtain ⟨-, settled, -⟩ := ends_resolved (ends_initSession clean loadable) resolved
  have frame := setUp_frame s session games (sessionAttacks host s session.sessionId)
  have result : a.server = setUp s session games (sessionAttacks host s session.sessionId) := settled
  have db : a.server.db = s.db := by
    rw [result, frame]
    rfl
  have forked : a.server.tasks = s.tasks ++ games.flatMap (forks · 0) := by
    rw [result, frame]
    rfl
  have saves : ∀ task ∈ a.server.tasks, ∃ gameId data, task = .saveGame gameId data := by
    intro task member
    rw [forked] at member
    rcases List.mem_append.mp member with before | now
    · obtain ⟨gameId, data, same, -⟩ := elsewhere task before
      exact ⟨gameId, data, same⟩
    · obtain ⟨data, -, -, saved, same, -⟩ := (loaded_saves loadable.load).1 task now
      exact ⟨data.gameId, saved, same⟩
  have drained : ∀ order, (commits a.server order).tasks = [] →
      (Unstuck (commits a.server order).db session.sessionId ↔ InPlay s.db session.sessionId) := by
    intro order empty
    obtain ⟨dataOf, games', each⟩ := (draining_commits saves order).rows
    rw [db] at games' each
    have ended : ∀ row ∈ s.db.games, row.sessionId = session.sessionId →
        ((dataOf row).endTime.isSome ↔ Over row.gameData) := by
      intro row member own
      refine settled_row keyed elsewhere loadable.load forked member own ((each row member).imp_left ?_)
      intro ⟨same, pending⟩
      refine ⟨same, fun saved among => ?_⟩
      have left := pending saved among
      rw [empty] at left
      cases left
    unfold Unstuck InPlay
    rw [games', List.forall_mem_map]
    refine forall₂_congr fun row member => forall₂_congr fun own _ => ?_
    rw [List.forall_mem_map]
    exact imp_congr_left (ended row member own)
  constructor
  · intro unstuck
    obtain ⟨order, empty⟩ := commits_all a.server
    exact (drained order empty).mp (unstuck order empty)
  · exact fun inPlay order empty => (drained order empty).mpr inPlay

end

/-- The only game of a session is the last one. -/
theorem unstuck_iff_sample : InPlay (AttackRestart.restartedIn 1).db 1 ∧
    ∀ order, (commits (AttackRestart.restarted 1).server order).tasks = [] →
      Unstuck (commits (AttackRestart.restarted 1).server order).db 1 := by
  obtain ⟨game, loadable⟩ := AttackRestart.restarted_loadable 1
  have keyed : Keyed (AttackRestart.restartedIn 1).db := by
    refine ⟨List.nodup_singleton _, fun row member => ?_⟩
    rw [List.mem_singleton.mp member]
    rfl
  have elsewhere : Elsewhere (AttackRestart.restartedIn 1) 1 := fun _ member => nomatch member
  have resolved : alone AttackLaunch.sampleHost (fun _ => false) (initSession AttackLaunch.sampleSession)
      { server := AttackRestart.restartedIn 1 } = (.ok AttackLaunch.sampleSession, AttackRestart.restarted 1) :=
    Prod.ext rfl rfl
  have inPlay : InPlay (AttackRestart.restartedIn 1).db 1 := by
    intro row member _ _ _ other among _
    rw [List.mem_singleton.mp member, List.mem_singleton.mp among]
  exact ⟨inPlay, (unstuck_iff loadable keyed elsewhere resolved).mpr inPlay⟩

/-! pete and kate play the first game to its end, and the server crashes before the second one is made current. -/

/-- Every round of the first game times out. Everything is written but the move to the next game. -/
def playedOut : List Lifetimes.Event :=
  Presence.oneReady ++ [.turn (.playerReady 1 true)] ++ (List.range 6).map (fun handle => .turn (.fire 0 handle)) ++
    List.replicate 10 (.turn (.commit 0 false))

/-- The server starts again and writes what it has to. -/
def startedAgain : List Lifetimes.Event :=
  .restart Presence.sampleClock :: List.replicate 40 (.boot false) ++ [.turn (.commit 0 false)]

theorem endedGame_stays :
    (Presence.sampleLived playedOut).life.process.server.tasks.length = 1 ∧
      (Presence.sampleLived (playedOut ++ startedAgain)).life.listens = true ∧
      (Presence.sampleLived (playedOut ++ startedAgain)).life.process.server.tasks.length = 0 ∧
      ¬Unstuck (Presence.sampleLived (playedOut ++ startedAgain)).life.process.server.db 1 := by
  decide +kernel

end DfStudy.SessionRestart
