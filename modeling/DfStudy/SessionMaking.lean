import DfStudy.SessionUnderway

/-! A session while its games are being made. Only the request that makes them knows their ids, but for that of the first
game, which is the current one as soon as it has a row. -/

namespace DfStudy.SessionMaking
open Rounds Games GameFrames GameControl Tables Servers MemGames ServerFrames Requests Processes Ownership Registry Sessions
open Mentions SessionCreation SessionGates SessionLoading GameSequence SessionUnderway LiveGame
open Support.Machine Support.Futures Future

def Hidden (stage : Stage) (entries : List Entry) (gameId : String) : Prop :=
  gameId ∈ stage.gameIds ∧ (idsOf entries)[0]? ≠ some gameId

theorem hidden_append {stage : Stage} {entries : List Entry} {entry : Entry} {gameId : String}
    (hidden : Hidden stage (entries ++ [entry]) gameId) : Hidden stage entries gameId := by
  refine ⟨hidden.1, fun first => hidden.2 ?_⟩
  unfold idsOf at first ⊢
  rw [List.map_append, List.getElem?_append_left (List.getElem?_eq_some_iff.mp first).1]
  exact first

structure Making (clean : Prop) (p : Process) (index sessionId : Nat) (stage : Stage) (entries : List Entry) : Prop extends
    Listing p.server.db.games sessionId entries where
  about : stage.about = some sessionId
  known : ∀ gameId ∈ idsOf entries, gameId ∈ stage.gameIds
  silent : ∀ gameId ∈ stage.gameIds, ¬InMemory p.server gameId
  gated : Gated (Hidden stage entries) p
  unmoved : clean → ∀ gameId, ¬Moves p.server sessionId gameId
  sole : Sole p index sessionId

section
variable {table : List GameRow} {sessionId : Nat}

/-- Rows are rewritten, but none of the session. -/
theorem filter_rewritten {change : GameRow → GameRow} (keeps : ∀ row, (change row).sessionId = row.sessionId)
    (spares : ∀ row ∈ table, row.sessionId = sessionId → change row = row) :
    (table.map change).filter (·.sessionId = sessionId) = table.filter (·.sessionId = sessionId) := by
  have same : ((fun row : GameRow => decide (row.sessionId = sessionId)) ∘ change) =
      fun row => decide (row.sessionId = sessionId) := by
    funext row
    simp [keeps row]
  rw [List.filter_map, same]
  refine (List.map_congr_left fun row member => ?_).trans (List.map_id _)
  rw [List.mem_filter] at member
  exact spares row member.1 (by simpa using member.2)

theorem play_db {s : Server} {turn : Turn} (uncommitted : ∀ place fails, turn ≠ .commit place fails) :
    (play s turn).db = s.db := by
  have acted : ∀ (address : Nat) (action : Action), (act s address action).db = s.db := by
    intro address action
    rw [act_frame]
  have sent : ∀ (socket : Nat) (action : String → Action), (actFrom s socket action).db = s.db := by
    intro socket action
    rcases actFrom_cases s socket action with same | ⟨_, _, same⟩
    · rw [same]
    · rw [same, acted]
  cases turn with
  | commit place fails => exact absurd rfl (uncommitted place fails)
  | playerReady socket readyFlag => exact sent socket _
  | answer socket answer => exact sent socket _
  | disconnect socket => exact sent socket _
  | fire address handle => exact acted address _
  | finish address pid ok => exact acted address _
  | watch admin =>
    change (watch s admin).db = s.db
    rw [watch_frame]
  | _ => rfl

theorem filter_commitTask {db : Database} {task : Task} (unmoved : ∀ gameId, task ≠ .setCurrentGame sessionId gameId)
    (spares : ∀ row ∈ db.games, row.sessionId = sessionId → row.gameId ≠ subject task) :
    (commitTask db task).games.filter (·.sessionId = sessionId) = db.games.filter (·.sessionId = sessionId) := by
  cases task with
  | saveGame gameId data =>
    refine filter_rewritten (fun row => ?_) fun row member own => if_neg (spares row member own)
    split <;> rfl
  | setCurrentGame other gameId =>
    have apart : sessionId ≠ other := by
      rintro rfl
      exact unmoved gameId rfl
    change ((db.games.map _).map _).filter _ = _
    rw [List.map_map]
    refine filter_rewritten (fun row => ?_) fun row member own => ?_
    · dsimp only [Function.comp_apply]
      split <;> split <;> rfl
    · have away : row.gameId ≠ gameId := spares row member own
      simp [own, apart, away]

end

section
variable {clean : Prop} {p : Process} {index sessionId : Nat} {stage : Stage} {entries : List Entry}

theorem Making.listed (making : Making clean p index sessionId stage entries) {row : GameRow}
    (member : row ∈ p.server.db.games) (own : row.sessionId = sessionId) : row.gameId ∈ stage.gameIds := by
  have among : row ∈ entries.map (rowOf sessionId) := by
    rw [← making.rows]
    exact List.mem_filter.mpr ⟨member, by simpa using own⟩
  obtain ⟨entry, present, rfl⟩ := List.mem_map.mp among
  exact making.known _ (List.mem_map_of_mem present)

theorem Making.loyalty (making : Making clean p index sessionId stage entries) (unused : clean) (turn : Turn) :
    Loyal sessionId p.server turn := fun _ gameId _ found =>
  absurd (.task (List.mem_of_getElem? found)) (making.unmoved unused gameId)

theorem Making.play (making : Making clean p index sessionId stage entries) (turn : Turn)
    (foreign : clean ∨ Loyal sessionId p.server turn) :
    Making clean { p with server := Processes.play p.server turn } index sessionId stage entries := by
  have loyal := foreign.elim (making.loyalty · turn) id
  have rows : (Processes.play p.server turn).db.games.filter (·.sessionId = sessionId) =
      p.server.db.games.filter (·.sessionId = sessionId) := by
    by_cases commits : ∃ place fails, turn = .commit place fails
    · obtain ⟨place, fails, rfl⟩ := commits
      change (commit p.server place fails).db.games.filter _ = _
      unfold commit
      split
      next => rfl
      next task pending =>
        cases fails with
        | true => rfl
        | false =>
          have there := List.mem_of_getElem? pending
          refine filter_commitTask (fun gameId same => ?_) fun row member own same => ?_
          · subst same
            obtain ⟨row, member, same, own⟩ := loyal place gameId rfl pending
            exact making.silent row.gameId (making.listed member own) (.task _ there same.symm)
          · exact making.silent row.gameId (making.listed member own) (.task task there same.symm)
    · rw [play_db fun place fails same => commits ⟨place, fails, same⟩]
  have played := played p.server turn
  exact ⟨making.toListing.kept rows, making.about, making.known,
    fun gameId known mentioned => making.silent gameId known (inMemory_played played mentioned), making.gated.play turn,
    fun unused gameId moves => making.unmoved unused gameId (moves_played played moves), making.sole.play turn⟩

theorem Making.arrive (making : Making clean p index sessionId stage entries) (host : Host) {asked : Asked}
    (other : asked ≠ .remove sessionId) : Making clean (arrive host p asked) index sessionId stage entries :=
  { making with gated := making.gated.arrive host asked, sole := making.sole.arrive host other }

end

section
variable {clean : Prop} {owner : String → Option Nat} {p : Process} {index sessionId : Nat} {thread : Thread} {entries : List Entry}
  (owned : Owned owner p) (found : p.threads[index]? = some thread)
include owned found

theorem Making.owns (making : Making clean p index sessionId thread.stage entries) {gameId : String}
    (known : gameId ∈ thread.stage.gameIds) : owner gameId = some sessionId :=
  owned.stages thread (List.mem_of_getElem? found) sessionId making.about gameId known

theorem Making.own (making : Making clean p index sessionId thread.stage entries) {row : GameRow}
    (member : row ∈ p.server.db.games) (known : row.gameId ∈ thread.stage.gameIds) : row.sessionId = sessionId := by
  have belongs := (owned.rows row member).1
  rw [making.owns owned found known] at belongs
  exact (Option.some.inj belongs).symm

theorem Making.flagged (making : Making clean p index sessionId thread.stage entries) :
    ∀ row ∈ p.server.db.games, row.isCurrent = true → ¬Hidden thread.stage entries row.gameId := by
  rintro row member flag ⟨known, hidden⟩
  exact hidden (making.toListing.flagged member (making.own owned found member known) flag)

/-- An operation of another request. -/
theorem Making.aside (making : Making clean p index sessionId thread.stage entries) (host : Host) (fails : Bool) {place : Nat}
    {other : Thread} {op : Op} {next : Except Failure (Res op) → Request (Option Session)} (apart : place ≠ index)
    (there : p.threads[place]? = some other) (working : busy other = true) (permitted : other.stage.permits op) :
    Making clean (performed host fails p place other op next) index sessionId thread.stage entries := by
  have away := making.sole.others place other apart there working
  have unread : ∀ gameId ∈ thread.stage.gameIds, gameId ∉ other.stage.gameIds := fun gameId known =>
    unread_other owned there away (making.owns owned found known)
  have harmless := harmless_other owned there permitted away fun gameId => making.owns owned found
  refine ⟨making.toListing.kept ?_, making.about, making.known, ?_,
    making.gated.perform host fails there permitted (making.flagged owned found), ?_,
    making.sole.perform there working permitted ?_⟩
  · change (Servers.perform host fails op p.server).2.db.games.filter _ = _
    rcases perform_games host fails op p.server with same | ⟨row, rfl, same⟩ | ⟨gameId, rfl, same⟩
    · rw [same]
    · rw [same, List.filter_append]
      have elsewhere : row.sessionId ≠ sessionId := harmless.1
      simp [elsewhere]
    · rw [same, List.filter_filter, List.filter_congr]
      intro row member
      by_cases own : row.sessionId = sessionId
      · have kept : row.gameId ≠ gameId := fun same => harmless (same ▸ making.listed member own)
        simp [own, kept]
      · simp [own]
  · exact fun gameId known mentioned => making.silent gameId known (inMemory_perform permitted (unread gameId known) mentioned)
  · intro unused gameId moves
    rcases moves_perform moves with before | ⟨games, rfl, _⟩
    · exact making.unmoved unused gameId before
    · obtain ⟨listed, stage, _⟩ := permitted
      exact away (congrArg Stage.about stage)
  · rintro rfl
    exact away permitted

/-! Operations of the request itself. -/

variable (working : busy thread = true)
include working

/-- One that reads, or that is about something else. -/
theorem Making.stay (making : Making clean p index sessionId thread.stage entries) (host : Host) (fails : Bool) {op : Op}
    {next : Except Failure (Res op) → Request (Option Session)} (permitted : thread.stage.permits op)
    (harmless : Stage.finished.permits op) (kept : op ≠ .deleteSession sessionId) :
    Making clean (performed host fails p index thread op next) index sessionId thread.stage entries := by
  refine ⟨making.toListing.kept ?_, making.about, making.known, ?_,
    making.gated.perform host fails found permitted (making.flagged owned found), ?_,
    making.sole.perform found working permitted kept⟩
  · change (Servers.perform host fails op p.server).2.db.games.filter _ = _
    rcases perform_games host fails op p.server with same | ⟨row, rfl, _⟩ | ⟨gameId, rfl, _⟩
    · rw [same]
    · obtain ⟨_, impossible, _⟩ := harmless
      cases impossible
    · cases harmless
  · exact fun gameId known mentioned =>
      making.silent gameId known (inMemory_perform harmless List.not_mem_nil mentioned)
  · intro unused gameId moves
    rcases moves_perform moves with before | ⟨games, rfl, _⟩
    · exact making.unmoved unused gameId before
    · obtain ⟨_, impossible, _⟩ := harmless
      cases impossible

theorem Making.draw (making : Making clean p index sessionId thread.stage entries)
    (unmentioned : Unmentioned p (p.server.uuids 0)) (host : Host) (fails : Bool)
    {next : Except Failure String → Request (Option Session)} (permitted : thread.stage.permits .randomUUID) :
    Making clean (performed host fails p index thread .randomUUID next) index sessionId
      (thread.stage.draw (p.server.uuids 0)) entries := by
  have gameIds : ∀ gameId ∈ (thread.stage.draw (p.server.uuids 0)).gameIds,
      gameId = p.server.uuids 0 ∨ gameId ∈ thread.stage.gameIds := by
    obtain ⟨session, drawn, stage⟩ := permitted
    rw [stage]
    exact fun gameId => List.mem_cons.mp
  have more : ∀ gameId ∈ thread.stage.gameIds, gameId ∈ (thread.stage.draw (p.server.uuids 0)).gameIds := by
    obtain ⟨session, drawn, stage⟩ := permitted
    rw [stage]
    exact fun gameId => List.mem_cons_of_mem _
  have about : (thread.stage.draw (p.server.uuids 0)).about = some sessionId := by
    obtain ⟨session, drawn, stage⟩ := permitted
    have before := making.about
    rw [stage] at before ⊢
    exact before
  have gated : Gated (Hidden (thread.stage.draw (p.server.uuids 0)) entries) p := by
    constructor
    · intro entry member gameId joined hidden
      rcases gameIds gameId hidden.1 with rfl | old
      · exact unmentioned.sockets entry member joined
      · exact making.gated.sockets entry member gameId joined ⟨old, hidden.2⟩
    · intro other member gameId stage hidden
      rcases gameIds gameId hidden.1 with rfl | old
      · exact unmentioned.threads other member (by rw [stage]; exact List.mem_singleton_self _)
      · exact making.gated.threads other member gameId stage ⟨old, hidden.2⟩
  refine ⟨making.toListing, about, fun gameId listed => more gameId (making.known gameId listed), ?_, ?_, ?_,
    making.sole.perform found working permitted (fun same => nomatch same)⟩
  · intro gameId drawn mentioned
    have before : InMemory p.server gameId :=
      inMemory_heap mentioned (fun game member => ⟨game, member, rfl, fun _ => id⟩) rfl rfl
    rcases gameIds gameId drawn with rfl | old
    · exact unmentioned.memory before
    · exact making.silent gameId old before
  · refine gated.perform host fails found permitted fun row member flag hidden => ?_
    rcases gameIds row.gameId hidden.1 with new | old
    · exact unmentioned.rows row member new
    · exact making.flagged owned found row member flag ⟨old, hidden.2⟩
  · intro unused gameId moves
    rcases moves_perform moves with before | ⟨games, impossible, _⟩
    · exact making.unmoved unused gameId before
    · cases impossible

/-- One that leaves the server as it is. -/
theorem Making.unchanged (making : Making clean p index sessionId thread.stage entries) (host : Host) (fails : Bool) {op : Op}
    {next : Except Failure (Res op) → Request (Option Session)} (permitted : thread.stage.permits op)
    (kept : op ≠ .deleteSession sessionId) (same : (perform host fails op p.server).2 = p.server) :
    Making clean (performed host fails p index thread op next) index sessionId thread.stage entries := by
  have gated : Gated (Hidden thread.stage entries) (performed host fails p index thread op next) :=
    making.gated.perform host fails found permitted (making.flagged owned found)
  have sole : Sole (performed host fails p index thread op next) index sessionId :=
    making.sole.perform found working permitted kept
  unfold performed at gated sole ⊢
  rw [same] at gated sole ⊢
  exact ⟨making.toListing, making.about, making.known, making.silent, gated, making.unmoved, sole⟩

omit owned found working in
/-- The ids are read again. -/
theorem Making.narrow {stage stage' : Stage} (making : Making clean p index sessionId stage entries)
    (about : stage'.about = some sessionId) (fewer : ∀ gameId ∈ stage'.gameIds, gameId ∈ stage.gameIds)
    (known : ∀ gameId ∈ idsOf entries, gameId ∈ stage'.gameIds) : Making clean p index sessionId stage' entries :=
  { making with
    about, known
    silent := fun gameId listed => making.silent gameId (fewer gameId listed)
    gated := making.gated.mono fun gameId hidden => ⟨fewer gameId hidden.1, hidden.2⟩ }

theorem Making.insert (making : Making clean p index sessionId thread.stage entries) (host : Host) (fails : Bool) {entry : Entry}
    {next : Except Failure Unit → Request (Option Session)}
    (permitted : thread.stage.permits (.insertGame (rowOf sessionId entry))) (playable : Playable entry.1.1)
    (place : entry.2 = entries.length) (flag : entry.1.1.isCurrent = true ↔ entries = [])
    (inserted : (perform host fails (.insertGame (rowOf sessionId entry)) p.server).1 = .ok ()) :
    Making clean (performed host fails p index thread (.insertGame (rowOf sessionId entry)) next) index sessionId thread.stage
      (entries ++ [entry]) := by
  have listed : entry.1.2 ∈ thread.stage.gameIds := by
    obtain ⟨drawn, stage, listed, _⟩ := permitted
    rw [stage]
    exact listed
  have result := inserted
  change (statement fails p.server (p.server.db.insertGame (rowOf sessionId entry))).1 = _ at result
  rcases statement_cases fails p.server (p.server.db.insertGame (rowOf sessionId entry)) with
    ⟨message, failed⟩ | ⟨value, db, ok, worked⟩
  · rw [failed] at result
    cases result
  · obtain ⟨unused, same⟩ := insertGame_ok ok
    rw [rowOf_json] at same
    have server : (perform host fails (.insertGame (rowOf sessionId entry)) p.server).2 =
        { p.server with db := { p.server.db with games := p.server.db.games ++ [rowOf sessionId entry] } } := by
      change (statement fails p.server (p.server.db.insertGame (rowOf sessionId entry))).2 = _
      rw [worked, same]
    have gated : Gated (Hidden thread.stage entries) (performed host fails p index thread (.insertGame (rowOf sessionId entry))
        next) := making.gated.perform host fails found permitted (making.flagged owned found)
    have sole : Sole (performed host fails p index thread (.insertGame (rowOf sessionId entry)) next) index sessionId :=
      making.sole.perform found working permitted fun impossible => nomatch impossible
    unfold performed at gated sole ⊢
    rw [server] at gated sole ⊢
    refine ⟨⟨?_, ?_, ?_, ?_, ?_⟩, making.about, ?_, ?_, gated.mono fun gameId => hidden_append, ?_, sole⟩
    · have own : (rowOf sessionId entry).sessionId = sessionId := rfl
      change (p.server.db.games ++ [rowOf sessionId entry]).filter _ = _
      rw [List.filter_append, making.rows, List.map_append]
      simp [own]
    · intro other member
      rcases List.mem_append.mp member with old | new
      · exact making.playable other old
      · rw [List.mem_singleton.mp new]
        exact playable
    · unfold idsOf
      rw [List.map_append, List.nodup_append]
      refine ⟨making.distinct, List.nodup_singleton _, fun gameId old gameId' new same => ?_⟩
      obtain ⟨other, present, rfl⟩ := List.mem_map.mp old
      have among : rowOf sessionId other ∈ p.server.db.games := by
        have row : rowOf sessionId other ∈ entries.map (rowOf sessionId) := List.mem_map_of_mem present
        rw [← making.rows] at row
        exact (List.mem_filter.mp row).1
      refine unused _ among ?_
      rw [List.mem_singleton.mp new] at same
      exact same
    · rw [List.map_append, making.places, List.length_append, List.length_singleton, List.range_succ, ← place]
      rfl
    · intro other member
      rcases List.mem_append.mp member with old | new
      · exact making.flags other old
      · rw [List.mem_singleton.mp new, flag, place, List.length_eq_zero_iff]
    · intro gameId member
      unfold idsOf at member
      rw [List.map_append, List.mem_append] at member
      rcases member with old | new
      · exact making.known gameId old
      · rw [List.mem_singleton.mp new]
        exact listed
    · exact fun gameId known mentioned => making.silent gameId known
        (inMemory_heap mentioned (fun game member => ⟨game, member, rfl, fun _ => id⟩) rfl rfl)
    · exact fun unused gameId moves => making.unmoved unused gameId
        (moves_heap moves (fun game member listens => ⟨game, member, listens⟩) id)

end

end DfStudy.SessionMaking
