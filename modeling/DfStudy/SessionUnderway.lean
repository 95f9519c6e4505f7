import DfStudy.GameHandover
import DfStudy.SessionGates
import DfStudy.SessionLoading

/-! A session under way. Its games are played one after the other, whatever else the server is asked, as long as no other
request is about the session. -/

namespace DfStudy.SessionUnderway
open Rounds Games GameFrames GameControl Tables Servers MemGames ServerFrames Requests Processes Ownership Registry
open Mentions SessionGates SessionLoading GameSequence GameHandover LiveGame
open Support.Machine Support.Futures Future
open Quiescence (Placed spontaneous)

/-! Other requests. -/

def busy (thread : Thread) : Bool :=
  match thread.request with
  | .step _ _ => true
  | _ => false

theorem busy_step {thread : Thread} {op : Op} {next : Except Failure (Res op) → Request (Option Session)}
    (working : thread.request = .step op next) : busy thread = true := by
  unfold busy
  rw [working]

/-- No other request has anything left to do about the session, which is in the table. -/
structure Sole (p : Process) (index sessionId : Nat) : Prop where
  others : ∀ place thread, place ≠ index → p.threads[place]? = some thread → busy thread = true →
    thread.stage.about ≠ some sessionId
  listed : ∃ row ∈ p.server.db.sessions, row.sessionId = sessionId

section
variable {p : Process} {index sessionId : Nat} {host : Host} {fails : Bool} {place : Nat} {thread : Thread} {op : Op}
  {next : Except Failure (Res op) → Request (Option Session)}

theorem Sole.play (sole : Sole p index sessionId) (turn : Turn) : Sole { p with server := play p.server turn } index sessionId where
  others := sole.others
  listed := by
    rw [(played p.server turn).frame.2.2]
    exact sole.listed

theorem Sole.arrive (sole : Sole p index sessionId) (host : Host) {asked : Asked} (other : asked ≠ .remove sessionId) :
    Sole (arrive host p asked) index sessionId where
  others := by
    intro place thread apart found working
    change (p.threads ++ [_])[place]? = _ at found
    rw [List.getElem?_append] at found
    split at found
    next => exact sole.others place thread apart found working
    next =>
      have new := List.mem_singleton.mp (List.mem_of_getElem? found)
      subst new
      cases asked with
      | remove session =>
        intro same
        cases same
        exact other rfl
      | create params => exact fun same => nomatch same
      | connect socket playerId => exact fun same => nomatch same
  listed := sole.listed

theorem Sole.perform (sole : Sole p index sessionId) (found : p.threads[place]? = some thread)
    (working : busy thread = true) (permitted : thread.stage.permits op) (kept : op ≠ .deleteSession sessionId) :
    Sole (performed host fails p place thread op next) index sessionId where
  others := by
    intro place' thread' apart found' working'
    change (p.threads.set place _)[place']? = _ at found'
    rw [List.getElem?_set] at found'
    split at found'
    next same =>
      split at found'
      next =>
        cases found'
        subst same
        have before := sole.others place thread apart found working
        have progress := Stage.progress permitted (Servers.perform host fails op p.server).1
        dsimp only
        generalize thread.stage.after op (Servers.perform host fails op p.server).1 = stage' at progress
        generalize thread.stage = stage at progress before
        generalize answered : (Servers.perform host fails op p.server).1 = answer at progress
        cases progress with
        | same => exact before
        | inserted params inserted =>
          intro same
          cases same
          change (statement fails p.server (p.server.db.insertSession params)).1 = _ at answered
          rcases statement_cases fails p.server (p.server.db.insertSession params) with ⟨_, failed⟩ | ⟨_, _, ok, worked⟩
          · rw [failed] at answered
            cases answered
          · rw [worked] at answered
            cases answered
            obtain ⟨row, member, own⟩ := sole.listed
            have below := lt_nextRowId (List.mem_map_of_mem (f := fun row : Session => row.sessionId) member)
            have new := (insertSession_ok ok).1
            omega
        | drew => exact before
        | read _ session rows known =>
          cases stage with
          | asking | finished | connecting => exact fun same => nomatch same
          | creating | reading | loaded | removing => exact before
        | loads => exact before
        | ended => exact fun same => nomatch same
      next => cases found'
    next => exact sole.others place' thread' apart found' working'
  listed := by
    obtain ⟨row, member, own⟩ := sole.listed
    refine ⟨row, ?_, own⟩
    change row ∈ (Servers.perform host fails op p.server).2.db.sessions
    rcases perform_sessions host fails op p.server with same | ⟨params, _, rfl, _, same⟩ | ⟨gone, rfl, same⟩
    · rw [same]
      exact member
    · rw [same]
      exact List.mem_append_left _ member
    · rw [same]
      have apart : row.sessionId ≠ gone := fun equal => kept (by rw [← equal, own])
      exact List.mem_filter.mpr ⟨member, by simpa using apart⟩

/-- A request about another session has not read the ids of this one. -/
theorem unread_other {owner : String → Option Nat} (owned : Owned owner p) (found : p.threads[place]? = some thread)
    (apart : thread.stage.about ≠ some sessionId) {gameId : String} (own : owner gameId = some sessionId) :
    gameId ∉ thread.stage.gameIds := by
  intro known
  have stages := owned.stages thread (List.mem_of_getElem? found)
  generalize thread.stage = stage at apart known stages
  cases stage with
  | asking | finished | connecting => cases known
  | creating other | reading other | loaded other | removing other =>
    have belongs := stages other rfl gameId known
    rw [own] at belongs
    exact apart belongs.symm

/-- It spares their games. -/
theorem harmless_other {owner : String → Option Nat} (owned : Owned owner p) (found : p.threads[place]? = some thread)
    (permitted : thread.stage.permits op) (apart : thread.stage.about ≠ some sessionId) {gameIds : List String}
    (own : ∀ gameId ∈ gameIds, owner gameId = some sessionId) : Harmless sessionId gameIds op := by
  have unlisted : ∀ gameId ∈ thread.stage.gameIds, gameId ∉ gameIds := fun gameId known listed =>
    unread_other owned found apart (own gameId listed) known
  cases op with
  | insertGame row =>
    obtain ⟨drawn, stage, listed, _⟩ := permitted
    rw [stage] at apart unlisted
    exact ⟨fun same => apart (congrArg some same), unlisted _ listed⟩
  | deleteGame gameId =>
    have removable : gameId ∈ thread.stage.removable := permitted
    generalize thread.stage = stage at removable unlisted
    cases stage with
    | reading | removing => exact unlisted gameId removable
    | _ => cases removable
  | initGameRows rows =>
    obtain ⟨other, stage, data⟩ := permitted
    rw [stage] at unlisted
    intro row member
    rw [data row member]
    exact unlisted _ (List.mem_map_of_mem member)
  | chainGames other games =>
    obtain ⟨listed, stage, among⟩ := permitted
    rw [stage] at unlisted
    exact fun game member => unlisted _ (among game member)
  | _ => trivial

end

/-! A session under way. -/

/-- The turn commits no move of the session to a game that it does not have. -/
def Loyal (sessionId : Nat) (s : Server) (turn : Turn) : Prop :=
  ∀ index gameId, turn = .commit index false → s.tasks[index]? = some (.setCurrentGame sessionId gameId) →
    Concerns s.db sessionId (.setCurrentGame sessionId gameId)

/-- `Loyal` as a test. -/
def loyally (sessionId : Nat) (s : Server) : Turn → Bool
  | .commit index false => ((s.tasks[index]?).bind taskMove).all fun move =>
    move.1 ≠ sessionId || decide (Concerns s.db sessionId (.setCurrentGame sessionId move.2))
  | _ => true

theorem taskMove_some {task : Task} {sessionId : Nat} {gameId : String} :
    taskMove task = some (sessionId, gameId) ↔ task = .setCurrentGame sessionId gameId := by
  cases task <;> simp [taskMove]

theorem loyally_iff (sessionId : Nat) (s : Server) (turn : Turn) : loyally sessionId s turn = true ↔ Loyal sessionId s turn := by
  unfold loyally
  split
  next index =>
    rw [Option.all_eq_true]
    constructor
    · rintro tested _ gameId ⟨⟩ found
      simpa using tested (sessionId, gameId) (by rw [found]; rfl)
    · rintro loyal ⟨other, gameId⟩ moved
      obtain ⟨task, found, moves⟩ := Option.bind_eq_some_iff.mp moved
      rw [taskMove_some] at moves
      subst moves
      by_cases same : other = sessionId
      · subst same
        simpa using loyal index gameId rfl found
      · simp [same]
  next other =>
    exact iff_of_true rfl fun index _ same => absurd same (other index)

instance (sessionId : Nat) (s : Server) (turn : Turn) : Decidable (Loyal sessionId s turn) :=
  decidable_of_iff _ (loyally_iff sessionId s turn)

/-- Where the id was not in use when it was given, the session is moved by nobody else. Where its writes are in time, the
ends of its games are recorded. -/
structure Underway (clean timely : Prop) (p : Process) (index sessionId : Nat) (gameIds : List String) (current : Nat) :
    Prop where
  progress : InProgress sessionId gameIds current p.server
  recorded : timely → Recorded gameIds current p.server
  within : current < gameIds.length
  loyal : clean → ∀ gameId, Moves p.server sessionId gameId → gameId ∈ gameIds
  gated : Gated (Closed gameIds current) p
  sole : Sole p index sessionId

/-- The session stays where it is, or the turn commits the move that its current game has asked for. -/
def Advances (sessionId : Nat) (gameIds : List String) (p : Process) (turn : Turn) (current next : Nat) : Prop :=
  next = current ∨ next = current + 1 ∧ ∃ task, turn = .commit task false ∧ Passes sessionId gameIds current p.server task

section
variable {clean timely : Prop} {p : Process} {index sessionId : Nat} {gameIds : List String} {current : Nat}

theorem sheet_flagged {table : List GameRow} (sheet : Sheet sessionId gameIds current table) :
    ∀ row ∈ table, row.isCurrent = true → ¬Closed gameIds current row.gameId := by
  rintro row member flag ⟨place, later, listed⟩
  have own := sheet.own row member (List.mem_of_getElem? listed)
  have same := sheet.place ((sheet.flags row member own).mp flag) listed
  omega

theorem Underway.perform (underway : Underway clean timely p index sessionId gameIds current) (host : Host) (fails : Bool)
    {place : Nat} {thread : Thread} {op : Op} {next : Except Failure (Res op) → Request (Option Session)}
    (found : p.threads[place]? = some thread) (working : busy thread = true) (permitted : thread.stage.permits op)
    (harmless : Harmless sessionId gameIds op) (kept : op ≠ .deleteSession sessionId)
    (unchained : ∀ games, op ≠ .chainGames sessionId games) :
    Underway clean timely (performed host fails p place thread op next) index sessionId gameIds current where
  progress := underway.progress.perform harmless host fails
  recorded := fun prompt => (underway.recorded prompt).perform harmless host fails
  within := underway.within
  loyal := by
    intro unused gameId moves
    rcases moves_perform moves with before | ⟨games, same, _⟩
    · exact underway.loyal unused gameId before
    · exact absurd same (unchained games)
  gated := underway.gated.perform host fails found permitted (sheet_flagged underway.progress.sheet)
  sole := underway.sole.perform found working permitted kept

/-- An operation of another request. -/
theorem Underway.aside (underway : Underway clean timely p index sessionId gameIds current) {owner : String → Option Nat}
    (owned : Owned owner p) {place : Nat} {thread : Thread} {op : Op}
    {next : Except Failure (Res op) → Request (Option Session)} (apart : place ≠ index)
    (found : p.threads[place]? = some thread) (working : busy thread = true) (permitted : thread.stage.permits op)
    (host : Host) (fails : Bool) :
    Underway clean timely (performed host fails p place thread op next) index sessionId gameIds current := by
  have away := underway.sole.others place thread apart found working
  have own : ∀ gameId ∈ gameIds, owner gameId = some sessionId := by
    intro gameId listed
    obtain ⟨row, member, rfl, rfl⟩ := underway.progress.sheet.stored listed
    exact (owned.rows row member).1
  refine underway.perform host fails found working permitted (harmless_other owned found permitted away own) ?_ ?_
  · rintro rfl
    exact away permitted
  · rintro games rfl
    obtain ⟨listed, stage, _⟩ := permitted
    exact away (congrArg Stage.about stage)

theorem Underway.arrive (underway : Underway clean timely p index sessionId gameIds current) (host : Host) {asked : Asked}
    (other : asked ≠ .remove sessionId) : Underway clean timely (arrive host p asked) index sessionId gameIds current where
  progress := underway.progress
  recorded := underway.recorded
  within := underway.within
  loyal := underway.loyal
  gated := underway.gated.arrive host asked
  sole := underway.sole.arrive host other

/-- A write that fails, or that is about no game of the session, leaves the session where it is. -/
theorem InProgress.commit {s : Server} (progress : InProgress sessionId gameIds current s)
    (index : Nat) (fails : Bool) (loyal : Loyal sessionId s (.commit index fails)) :
    ∃ next, InProgress sessionId gameIds next (commit s index fails) ∧
      (next = current ∨ next = current + 1 ∧ fails = false ∧ Passes sessionId gameIds current s index) ∧
      (Prompt sessionId s (.commit index fails) → Recorded gameIds current s →
        Recorded gameIds next (commit s index fails)) := by
  cases found : s.tasks[index]? with
  | none =>
    have same : Processes.commit s index fails = s := by
      unfold Processes.commit
      rw [found]
    rw [same]
    exact ⟨current, progress, .inl rfl, fun _ => id⟩
  | some task =>
    have same : Processes.commit s index fails =
        { s with db := if fails then s.db else commitTask s.db task, tasks := s.tasks.eraseIdx index } := by
      unfold Processes.commit
      rw [found]
    have stays : (fails = false → subject task ∈ gameIds → ∃ gameId data, task = .saveGame gameId data) →
        InProgress sessionId gameIds current (Processes.commit s index fails) →
        ∃ next, InProgress sessionId gameIds next (Processes.commit s index fails) ∧
          (next = current ∨ next = current + 1 ∧ fails = false ∧ Passes sessionId gameIds current s index) ∧
          (Prompt sessionId s (.commit index fails) → Recorded gameIds current s →
            Recorded gameIds next (Processes.commit s index fails)) := fun unmoved progress' =>
      ⟨current, progress', .inl rfl, fun prompt recorded => recorded.commit prompt progress.sheet found unmoved⟩
    cases fails with
    | true =>
      refine stays (fun impossible => nomatch impossible) ?_
      rw [same]
      exact progress.erased progress.sheet index
    | false =>
      cases task with
      | saveGame gameId data =>
        refine stays (fun _ _ => ⟨gameId, data, rfl⟩) ?_
        rw [same]
        exact progress.saved found
      | setCurrentGame other gameId =>
        by_cases listed : gameId ∈ gameIds
        · obtain ⟨passes, rfl, last, moved⟩ := progress.movedOn found listed
          refine ⟨current + 1, ?_, .inr ⟨rfl, rfl, passes⟩, fun prompt recorded => ?_⟩
          · rw [same]
            exact moved
          · rw [same]
            exact Relay.move recorded found (prompt.ordered progress.sheet) listed last
        · have apart : other ≠ sessionId := by
            rintro rfl
            exact listed ((concerns_iff progress.sheet).mp (loyal index gameId rfl found))
          refine stays (fun _ concerned => absurd concerned listed) ?_
          rw [same]
          exact progress.movedElsewhere apart listed index

theorem Underway.loyalty (underway : Underway clean timely p index sessionId gameIds current) (unused : clean) (turn : Turn) :
    Loyal sessionId p.server turn := fun _ gameId _ found =>
  (concerns_iff underway.progress.sheet).mpr (underway.loyal unused gameId (.task (List.mem_of_getElem? found)))

theorem Underway.play (underway : Underway clean timely p index sessionId gameIds current) (placed : Placed p.server) (turn : Turn)
    (foreign : clean ∨ Loyal sessionId p.server turn) (prompt : timely → Prompt sessionId p.server turn) :
    ∃ next, Underway clean timely { p with server := Processes.play p.server turn } index sessionId gameIds next ∧
      Advances sessionId gameIds p turn current next := by
  have progress := underway.progress
  have recorded := underway.recorded
  have loyal := foreign.elim (underway.loyalty · turn) id
  have barred : ∀ entry ∈ p.server.sockets, ∀ gameId, entry.gameId = some gameId → ¬Closed gameIds current gameId :=
    underway.gated.sockets
  have played : ∃ next, InProgress sessionId gameIds next (Processes.play p.server turn) ∧
      Advances sessionId gameIds p turn current next ∧
      (timely → Recorded gameIds next (Processes.play p.server turn)) := by
    cases turn with
    | create params => exact ⟨current, progress, .inl rfl, recorded⟩
    | remove session => exact ⟨current, progress, .inl rfl, recorded⟩
    | advance thread fails => exact ⟨current, progress, .inl rfl, recorded⟩
    | connect playerId => exact ⟨current, progress.frame progress.sheet rfl rfl, .inl rfl, recorded⟩
    | commit task fails =>
      obtain ⟨next, moved, way, keeps⟩ := InProgress.commit progress task fails loyal
      refine ⟨next, moved, way.imp_right ?_, fun timely => keeps (prompt timely) (recorded timely)⟩
      rintro ⟨rfl, rfl, passes⟩
      exact ⟨rfl, task, rfl, passes⟩
    | playerReady socket readyFlag =>
      exact ⟨current, progress.actFrom placed barred socket _, .inl rfl,
        fun timely => (recorded timely).actFrom progress placed barred socket _⟩
    | answer socket answer =>
      exact ⟨current, progress.actFrom placed barred socket _, .inl rfl,
        fun timely => (recorded timely).actFrom progress placed barred socket _⟩
    | disconnect socket =>
      have acted := progress.actFrom placed barred socket fun playerId => .playerReady playerId false
      exact ⟨current, acted.frame acted.sheet rfl rfl, .inl rfl,
        fun timely => (recorded timely).actFrom progress placed barred socket _⟩
    | watch admin => exact ⟨current, progress.watch admin, .inl rfl, fun timely => (recorded timely).watch admin⟩
    | fire address handle =>
      have acted : InProgress sessionId gameIds current (act p.server address (.fire handle)) :=
        progress.act fun _ _ _ _ _ => rfl
      exact ⟨current, acted, .inl rfl, fun timely => (recorded timely).act progress fun _ _ _ _ _ => rfl⟩
    | finish address pid ok =>
      have acted : InProgress sessionId gameIds current (act p.server address (.finish pid ok)) :=
        progress.act fun _ _ _ _ _ => rfl
      exact ⟨current, acted, .inl rfl, fun timely => (recorded timely).act progress fun _ _ _ _ _ => rfl⟩
  obtain ⟨next, progress', advances, recorded'⟩ := played
  refine ⟨next, ⟨progress', recorded', ?_, ?_, ?_, underway.sole.play turn⟩, advances⟩
  · rcases advances with rfl | ⟨rfl, _, _, passes⟩
    · exact underway.within
    · obtain ⟨gameId, listed, _⟩ := passes.found
      exact (List.getElem?_eq_some_iff.mp listed).1
  · exact fun unused gameId moves => underway.loyal unused gameId (moves_played (Processes.played p.server turn) moves)
  · refine (underway.gated.play turn).mono ?_
    rintro gameId ⟨place, later, listed⟩
    refine ⟨place, ?_, listed⟩
    rcases advances with rfl | ⟨rfl, _⟩
    · exact later
    · omega

end

end DfStudy.SessionUnderway
