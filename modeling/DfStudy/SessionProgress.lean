import DfStudy.CreationOrder
import DfStudy.SessionMaking

/-! A session from its creation on. In every run in which no other request is about the session, one of its games is the
current one. No game after it has started, and the session moves on to the next one when it has stopped. -/

namespace DfStudy.SessionProgress
open Rounds Games GameFrames GameControl Tables Servers MemGames ServerFrames Requests Processes Ownership Registry Sessions
open Mentions SessionCreation CreationOrder SessionGates SessionSetup SessionLoading GameSequence GameHandover SessionUnderway
open SessionMaking LiveGame Support.Machine Support.Futures Future
open Quiescence (Placed placed_step createdSession bothReady)

/-! Loading and chaining. -/

/-- The games of a session that have been loaded, and are to be chained. -/
structure Loading (clean : Prop) (p : Process) (index sessionId : Nat) (games : List GameRef) (gameIds : List String) :
    Prop where
  progress : InProgress sessionId gameIds 0 (chainGames p.server sessionId games)
  ids : games.map (·.gameId) = gameIds
  nonempty : 0 < gameIds.length
  idle : requested gameIds p.server.tasks = []
  unmoved : clean → ∀ gameId, ¬Moves p.server sessionId gameId
  gated : Gated (Closed gameIds 0) p
  sole : Sole p index sessionId

section
variable {clean timely : Prop} {owner : String → Option Nat} {p : Process} {index sessionId : Nat} {thread : Thread}
  {entries : List Entry}

theorem making_loads (owned : Owned owner p) (found : p.threads[index]? = some thread) (working : busy thread = true)
    (making : Making clean p index sessionId thread.stage entries) (host : Host) (fails : Bool) {rows : List GameRow}
    {next : Except Failure (List GameRef) → Request (Option Session)} (permitted : thread.stage.permits (.initGameRows rows))
    (perm : rows.Perm (entries.map (rowOf sessionId))) (nonempty : entries ≠ []) :
    ∃ games, (perform host fails (.initGameRows rows) p.server).1 = .ok games ∧
      Loading clean (performed host fails p index thread (.initGameRows rows) next) index sessionId games (idsOf entries) := by
  have prepared : Prepared p.server sessionId entries :=
    { making.toListing with
      own := fun row member known => making.own owned found member (making.known _ known)
      silent := fun gameId known => making.silent gameId (making.known gameId known) }
  have loads := prepared.loads host perm
  have gated : Gated (Closed (idsOf entries) 0) p := by
    refine making.gated.mono ?_
    rintro gameId ⟨place, later, listed⟩
    refine ⟨making.known gameId (List.mem_of_getElem? listed), fun first => ?_⟩
    have same := (List.getElem?_inj (List.getElem?_eq_some_iff.mp first).1 making.distinct).mp (first.trans listed.symm)
    omega
  refine ⟨refsOf p.server.heap.length (idsOf entries), ?_, ?_, refsOf_gameIds _ _, ?_, ?_, ?_, ?_,
    making.sole.perform found working permitted fun impossible => nomatch impossible⟩
  · change (initGameRows host rows p.server).1.mapError _ = _
    rw [loads]
    rfl
  · have progress := prepared.progress host
    change InProgress sessionId (idsOf entries) 0 (chainGames (initGameRows host rows p.server).2 sessionId _)
    rw [loads]
    exact progress
  · unfold idsOf
    rw [List.length_map]
    exact List.length_pos_iff.mpr nonempty
  · change requested (idsOf entries) (initGameRows host rows p.server).2.tasks = []
    rw [loads, loadedOf_tasks]
    exact prepared.idle
  · intro unused gameId moves
    rcases moves_perform moves with before | ⟨games, impossible, _⟩
    · exact making.unmoved unused gameId before
    · cases impossible
  · exact gated.perform host fails found permitted (sheet_flagged prepared.sheet)

theorem Loading.chain {games : List GameRef} {gameIds : List String} (loading : Loading clean p index sessionId games gameIds)
    (host : Host) (fails : Bool) {next : Except Failure Unit → Request (Option Session)}
    (found : p.threads[index]? = some thread) (working : busy thread = true)
    (permitted : thread.stage.permits (.chainGames sessionId games)) :
    Underway clean timely (performed host fails p index thread (.chainGames sessionId games) next) index sessionId gameIds 0
    where
  progress := loading.progress
  recorded := by
    intro _
    have idle : requested gameIds (chainGames p.server sessionId games).tasks = [] := by
      rw [chainGames_frame]
      exact loading.idle
    exact relay_first idle
  within := loading.nonempty
  loyal := by
    intro unused gameId moves
    rcases moves_chainGames moves with before | ⟨_, listed⟩
    · exact absurd before (loading.unmoved unused gameId)
    · rw [← loading.ids]
      exact listed
  gated := by
    have sheet := loading.progress.sheet
    rw [chainGames_frame] at sheet
    exact loading.gated.perform host fails found permitted (sheet_flagged sheet)
  sole := loading.sole.perform found working permitted fun impossible => nomatch impossible

end

/-! Where the create of a session stands. -/

def Standing (clean timely : Prop) (p : Process) (index : Nat) (stage : Stage) : Birth → Prop
  | .asking => stage = .asking
  | .making sessionId made => ∃ entries, made = entries.map (rowOf sessionId) ∧ Making clean p index sessionId stage entries
  | .loaded sessionId _ games => stage.about = some sessionId ∧ ∃ gameIds, Loading clean p index sessionId games gameIds
  | .chained sessionId _ => stage.about = some sessionId ∧ ∃ gameIds current,
      Underway clean timely p index sessionId gameIds current
  | .failed => True

/-- What a create has done when it resolves. -/
def Made (value : Option Session) (birth : Birth) : Prop :=
  ∃ session made, value = some session ∧ birth = .chained session.sessionId made

def Traced (clean timely : Prop) (p : Process) (index : Nat) : Prop :=
  ∀ thread params, p.threads[index]? = some thread → thread.asked = .create params →
    ∃ birth, Follows creation (Gives Made) birth thread.request ∧ Standing clean timely p index thread.stage birth

/-- No row is left of an earlier session with the id, and no request has anything left to do about it. -/
structure Vacant (p : Process) (sessionId : Nat) : Prop where
  rows : ∀ row ∈ p.server.db.games, row.sessionId ≠ sessionId
  threads : ∀ thread ∈ p.threads, busy thread = true → thread.stage.about ≠ some sessionId

/-- Nothing is left of an earlier session with the id. -/
structure Unused (p : Process) (sessionId : Nat) : Prop extends Vacant p sessionId where
  tasks : ∀ task ∈ p.server.tasks, (taskMove task).all fun move => decide (move.1 ≠ sessionId)
  heap : ∀ game ∈ p.server.heap, ∀ move ∈ hooks game, move.1 ≠ sessionId

def advances (index : Nat) : Turn → Bool
  | .advance thread _ => thread = index
  | _ => false

/-- No other request is about the session that the request of this thread creates. Its games are chained as soon as they are
loaded, and its id is free when it is given. -/
def Secluded (free : Process → Nat → Prop) (index : Nat) (p : Process) (turn : Turn) : Prop :=
  ∀ thread, p.threads[index]? = some thread →
    (∀ sessionId, turn = .remove sessionId → thread.stage.about ≠ some sessionId) ∧
      match thread.request with
      | .step (.chainGames _ _) _ => advances index turn
      | .step (.insertSession _) _ => advances index turn → free p (nextRowId (p.server.db.sessions.map (·.sessionId)))
      | _ => True

/-- No other request is about the session that the request of this thread creates. Its games are chained as soon as they are
loaded, and its id is not in use when it is given. -/
def Orderly (index : Nat) (p : Process) (turn : Turn) : Prop := Secluded Unused index p turn

/-- No write moves the session that the request creates to a game that the session does not have. -/
def Undiverted (index : Nat) (p : Process) (turn : Turn) : Prop :=
  ∀ thread, p.threads[index]? = some thread → ∀ sessionId, thread.stage.about = some sessionId →
    Loyal sessionId p.server turn

/-- The writes of the session that the request creates are committed in order, and none of them fails. -/
def InTime (index : Nat) (p : Process) (turn : Turn) : Prop :=
  ∀ thread, p.threads[index]? = some thread → ∀ sessionId, thread.stage.about = some sessionId →
    Prompt sessionId p.server turn

instance (index : Nat) (p : Process) (turn : Turn) : Decidable (InTime index p turn) :=
  decidable_of_iff
    (p.threads[index]?.all fun thread => thread.stage.about.all fun sessionId => Prompt sessionId p.server turn) <| by
    simp [InTime, Option.all_eq_true]

instance (index : Nat) (p : Process) (turn : Turn) : Decidable (Undiverted index p turn) :=
  decidable_of_iff
    (p.threads[index]?.all fun thread => thread.stage.about.all fun sessionId => Loyal sessionId p.server turn) <| by
    simp [Undiverted, Option.all_eq_true]

/-- The turn is orderly, and in time where that is asked for. Where the id may have been in use, nothing that is left of it
moves the session. -/
structure Regular (clean timely : Prop) (index : Nat) (p : Process) (turn : Turn) : Prop where
  secluded : Secluded Vacant index p turn
  orderly : clean → Orderly index p turn
  undiverted : clean ∨ Undiverted index p turn
  inTime : timely → InTime index p turn

theorem Secluded.mono {free free' : Process → Nat → Prop} {index : Nat} {p : Process} {turn : Turn}
    (secluded : Secluded free index p turn) (weaker : ∀ sessionId, free p sessionId → free' p sessionId) :
    Secluded free' index p turn := by
  intro thread found
  obtain ⟨kept, next⟩ := secluded thread found
  refine ⟨kept, ?_⟩
  split at next
  next => exact next
  next => exact fun here => weaker _ (next here)
  next => trivial

theorem Orderly.regular {timely : Prop} {index : Nat} {p : Process} {turn : Turn} (orderly : Orderly index p turn)
    (inTime : timely → InTime index p turn) : Regular True timely index p turn where
  secluded := orderly.mono fun _ unused => unused.toVacant
  orderly := fun _ => orderly
  undiverted := .inl trivial
  inTime := inTime

theorem Unused.unmoved {p : Process} {sessionId : Nat} (unused : Unused p sessionId) (gameId : String) :
    ¬Moves p.server sessionId gameId := by
  intro moves
  cases moves with
  | task member =>
    have apart := unused.tasks _ member
    simp [taskMove] at apart
  | listener game member listens => exact unused.heap game member _ (mem_hooks.mpr listens) rfl

instance (p : Process) (sessionId : Nat) : Decidable (Vacant p sessionId) :=
  decidable_of_iff
    ((p.server.db.games.all fun row => row.sessionId ≠ sessionId) ∧
      p.threads.all fun thread => !busy thread || decide (thread.stage.about ≠ some sessionId)) <| by
    simp only [List.all_eq_true, decide_eq_true_eq, Bool.or_eq_true, Bool.not_eq_true']
    constructor
    · rintro ⟨rows, threads⟩
      refine ⟨rows, fun thread member working => (threads thread member).resolve_left fun idle => ?_⟩
      rw [idle] at working
      cases working
    · rintro ⟨rows, threads⟩
      refine ⟨rows, fun thread member => ?_⟩
      by_cases working : busy thread = true
      · exact .inr (threads thread member working)
      · exact .inl (Bool.eq_false_iff.mpr working)

instance (p : Process) (sessionId : Nat) : Decidable (Unused p sessionId) :=
  decidable_of_iff
    (Vacant p sessionId ∧
      (p.server.tasks.all fun task => (taskMove task).all fun move => move.1 ≠ sessionId) ∧
      p.server.heap.all fun game => (hooks game).all fun move => move.1 ≠ sessionId) <| by
    simp only [List.all_eq_true, decide_eq_true_eq]
    constructor
    · rintro ⟨vacant, tasks, heap⟩
      exact ⟨vacant, tasks, heap⟩
    · exact fun unused => ⟨unused.toVacant, unused.tasks, unused.heap⟩

/-- `Secluded` as a test. -/
def secludedFor (free : Process → Nat → Prop) [∀ p sessionId, Decidable (free p sessionId)] (index : Nat) (p : Process)
    (turn : Turn) (thread : Thread) : Bool :=
  (match turn with
    | .remove sessionId => thread.stage.about ≠ some sessionId
    | _ => true) &&
  match thread.request with
  | .step (.chainGames _ _) _ => advances index turn
  | .step (.insertSession _) _ =>
    !advances index turn || decide (free p (nextRowId (p.server.db.sessions.map (·.sessionId))))
  | _ => true

theorem secluded_iff (free : Process → Nat → Prop) [∀ p sessionId, Decidable (free p sessionId)] (index : Nat) (p : Process)
    (turn : Turn) : (p.threads[index]?.all (secludedFor free index p turn)) = true ↔ Secluded free index p turn := by
  unfold Secluded
  cases found : p.threads[index]? with
  | none => simp
  | some thread =>
    simp only [Option.all_some, Option.some.injEq, forall_eq']
    unfold secludedFor
    rw [Bool.and_eq_true]
    refine and_congr ?_ ?_
    · cases turn <;> simp
    · split <;> simp [imp_iff_not_or]

instance (free : Process → Nat → Prop) [∀ p sessionId, Decidable (free p sessionId)] (index : Nat) (p : Process) (turn : Turn) :
    Decidable (Secluded free index p turn) :=
  decidable_of_iff _ (secluded_iff free index p turn)

instance (index : Nat) (p : Process) (turn : Turn) : Decidable (Orderly index p turn) :=
  inferInstanceAs (Decidable (Secluded Unused index p turn))

/-! One operation of the request. -/

/-- A request stays with its session until it deletes it. -/
theorem about_after {stage : Stage} {op : Op} (permitted : stage.permits op) (answer : Except Failure (Res op)) {sessionId : Nat}
    (about : stage.about = some sessionId) (kept : ∀ other, op ≠ .deleteSession other) :
    (stage.after op answer).about = some sessionId := by
  have progress := Stage.progress permitted answer
  generalize stage.after op answer = stage' at progress
  cases progress with
  | same => exact about
  | inserted => cases about
  | drew => exact about
  | read _ _ rows _ => exact (Stage.read_about about rows).1
  | loads => exact about
  | ended => exact absurd rfl (kept _)

section
variable {clean timely : Prop} {owner : String → Option Nat} {p : Process} {index : Nat} {thread : Thread} {op : Op}
  {host : Host} {fails : Bool}
  {next : Except Failure (Res op) → Request (Option Session)} (owned : Owned owner p)
  (found : p.threads[index]? = some thread) (working : busy thread = true) (permitted : thread.stage.permits op)
include owned found working permitted

omit owned found working in
/-- The request has begun, and has given the session no id so far. -/
theorem standing_asking (stage : thread.stage = .asking) (own : creation.permits .asking op)
    (vacant : ∀ params, op = .insertSession params → Vacant p (nextRowId (p.server.db.sessions.map (·.sessionId))))
    (unused : clean → ∀ params, op = .insertSession params →
      Unused p (nextRowId (p.server.db.sessions.map (·.sessionId)))) :
    Standing clean timely (performed host fails p index thread op next) index
      (thread.stage.after op (perform host fails op p.server).1)
      (creation.after .asking op (perform host fails op p.server).1) := by
  rw [stage] at permitted ⊢
  cases op with
  | insertSession params =>
    have free := vacant params rfl
    cases answered : (perform host fails (.insertSession params) p.server).1 with
    | error error => rfl
    | ok sessionId =>
      have result := answered
      change (statement fails p.server (p.server.db.insertSession params)).1 = _ at result
      rcases statement_cases fails p.server (p.server.db.insertSession params) with
        ⟨_, failed⟩ | ⟨inserted, db, ok, worked⟩
      · rw [failed] at result
        cases result
      · rw [worked] at result
        cases result
        obtain ⟨new, same⟩ := insertSession_ok ok
        have server : (perform host fails (.insertSession params) p.server).2 = { p.server with db } := by
          change (statement fails p.server (p.server.db.insertSession params)).2 = _
          rw [worked]
        rw [← new] at free
        refine ⟨[], rfl, ⟨?_, nofun, List.nodup_nil, rfl, nofun⟩, rfl, nofun, nofun,
          ⟨fun _ _ _ _ hidden => (nomatch hidden.1), fun _ _ _ _ hidden => (nomatch hidden.1)⟩, ?_, ?_, ?_⟩
        · change (perform host fails (.insertSession params) p.server).2.db.games.filter _ = []
          rw [server, same, List.filter_eq_nil_iff]
          intro row member own
          exact free.rows row member (by simpa using own)
        · intro unusedId gameId moves
          change Moves (perform host fails (.insertSession params) p.server).2 _ _ at moves
          rw [server] at moves
          have clear := unused unusedId params rfl
          rw [← new] at clear
          exact clear.unmoved gameId (moves_heap moves (fun game member listens => ⟨game, member, listens⟩) id)
        · intro place other apart there working
          change (p.threads.set index _)[place]? = _ at there
          rw [List.getElem?_set_ne (Ne.symm apart)] at there
          exact free.threads other (List.mem_of_getElem? there) working
        · refine ⟨{ params with sessionId }, ?_, rfl⟩
          change _ ∈ (perform host fails (.insertSession params) p.server).2.db.sessions
          rw [server, same]
          exact List.mem_append_right _ (List.mem_singleton_self _)
  | insertGame row => obtain ⟨_, _, impossible, _⟩ := own; cases impossible
  | initGameRows rows => obtain ⟨_, _, impossible, _⟩ := own; cases impossible
  | chainGames session games => obtain ⟨_, impossible⟩ := own; cases impossible
  | joinGame socket game => cases own
  | deleteGame _ | removeMemGame _ | deleteSession _ => trivial
  | randomUUID => obtain ⟨_, _, impossible⟩ := permitted; cases impossible
  | selectGames session => rcases permitted with impossible | ⟨_, impossible⟩ <;> cases impossible
  | _ => cases (perform host fails _ p.server).1 <;> rfl

theorem standing_making {sessionId : Nat} {made : List GameRow} {entries : List Entry} (fresh : Fresh p)
    (rows : made = entries.map (rowOf sessionId)) (making : Making clean p index sessionId thread.stage entries)
    (own : creation.permits (.making sessionId made) op) :
    Standing clean timely (performed host fails p index thread op next) index
      (thread.stage.after op (perform host fails op p.server).1)
      (creation.after (.making sessionId made) op (perform host fails op p.server).1) := by
  cases op with
  | insertSession params => cases own
  | chainGames session games => obtain ⟨_, impossible⟩ := own; cases impossible
  | joinGame socket game => cases own
  | deleteGame _ | removeMemGame _ | deleteSession _ => trivial
  | insertGame row =>
    obtain ⟨_, _, same, entry, playable, rfl, place, flag⟩ := own
    cases same
    rw [rows, List.length_map] at place
    rw [rows, List.map_eq_nil_iff] at flag
    cases answered : (perform host fails (.insertGame (rowOf sessionId entry)) p.server).1 with
    | error error =>
      have unchanged : (perform host fails (.insertGame (rowOf sessionId entry)) p.server).2 = p.server := by
        change (statement fails p.server (p.server.db.insertGame (rowOf sessionId entry))).1 = _ at answered
        change (statement fails p.server (p.server.db.insertGame (rowOf sessionId entry))).2 = _
        rcases statement_cases fails p.server (p.server.db.insertGame (rowOf sessionId entry)) with
          ⟨_, failed⟩ | ⟨_, _, _, worked⟩
        · rw [failed]
        · rw [worked] at answered
          cases answered
      exact ⟨entries, rows,
        making.unchanged owned found working host fails permitted (fun impossible => nomatch impossible) unchanged⟩
    | ok inserted =>
      refine ⟨entries ++ [entry], ?_, making.insert owned found working host fails permitted playable place flag answered⟩
      rw [rows, List.map_append]
      rfl
  | selectGames session =>
    have unchanged : (perform host fails (.selectGames session) p.server).2 = p.server := by cases fails <;> rfl
    have still : Making clean (performed host fails p index thread (.selectGames session) next) index sessionId thread.stage
        entries :=
      making.unchanged owned found working host fails permitted (fun impossible => nomatch impossible) unchanged
    cases answered : (perform host fails (.selectGames session) p.server).1 with
    | error error => exact ⟨entries, rows, still⟩
    | ok selected =>
      have mine : session = sessionId := by
        rcases permitted with about | ⟨current, connecting⟩
        · exact Option.some.inj (about.symm.trans making.about)
        · have about := making.about
          rw [connecting] at about
          cases about
      subst mine
      have perm : selected.Perm (entries.map (rowOf session)) := by
        rw [← making.rows]
        exact selectGames_ok answered
      have ids : (thread.stage.read selected).gameIds = selected.map (·.gameId) := by
        have about := making.about
        cases stage : thread.stage <;> rw [stage] at about <;> first | rfl | cases about
      have listed : ∀ gameId, gameId ∈ (thread.stage.read selected).gameIds ↔ gameId ∈ idsOf entries := by
        intro gameId
        have same : idsOf entries = (entries.map (rowOf session)).map (·.gameId) := by
          rw [List.map_map]
          rfl
        rw [ids, same]
        exact (perm.map _).mem_iff
      refine ⟨entries, rows, still.narrow (Stage.read_about making.about selected).1 ?_ ?_⟩
      · exact fun gameId read => making.known gameId ((listed gameId).mp read)
      · exact fun gameId => (listed gameId).mpr
  | initGameRows selected =>
    obtain ⟨_, _, same, perm, nonempty⟩ := own
    cases same
    rw [rows] at perm
    have some : entries ≠ [] := by
      rintro rfl
      exact nonempty rows
    obtain ⟨games, answered, loading⟩ : ∃ games, (perform host fails (.initGameRows selected) p.server).1 = .ok games ∧
        Loading clean (performed host fails p index thread (.initGameRows selected) next) index sessionId games (idsOf entries) :=
      making_loads owned found working making host fails permitted perm some
    rw [answered]
    obtain ⟨session, stage, data⟩ := permitted
    have about := making.about
    rw [stage] at about ⊢
    exact ⟨about, _, loading⟩
  | randomUUID =>
    exact ⟨entries, rows, making.draw owned found working (fresh 0) host fails permitted⟩
  | _ =>
    refine ⟨entries, rows, ?_⟩
    have stays : Making clean (performed host fails p index thread _ next) index sessionId thread.stage entries :=
      making.stay owned found working host fails permitted trivial fun impossible => nomatch impossible
    cases answered : (perform host fails _ p.server).1 <;> exact stays

omit owned in
theorem standing_loaded {sessionId : Nat} {made : List GameRow} {games : List GameRef} {gameIds : List String}
    (about : thread.stage.about = some sessionId) (loading : Loading clean p index sessionId games gameIds)
    (own : creation.permits (.loaded sessionId made games) op) :
    Standing clean timely (performed host fails p index thread op next) index
      (thread.stage.after op (perform host fails op p.server).1)
      (creation.after (.loaded sessionId made games) op (perform host fails op p.server).1) := by
  cases op with
  | chainGames session listed =>
    obtain ⟨_, same⟩ := own
    cases same
    exact ⟨about, gameIds, 0, loading.chain host fails found working permitted⟩
  | insertSession params => cases own
  | insertGame row => obtain ⟨_, _, impossible, _⟩ := own; cases impossible
  | initGameRows rows => obtain ⟨_, _, impossible, _⟩ := own; cases impossible
  | joinGame socket game => cases own
  | _ => exact absurd rfl (own sessionId made games)

omit owned in
theorem standing_chained {sessionId : Nat} {made : List GameRow} {gameIds : List String} {current : Nat}
    (about : thread.stage.about = some sessionId) (underway : Underway clean timely p index sessionId gameIds current)
    (own : creation.permits (.chained sessionId made) op) :
    Standing clean timely (performed host fails p index thread op next) index
      (thread.stage.after op (perform host fails op p.server).1)
      (creation.after (.chained sessionId made) op (perform host fails op p.server).1) := by
  cases op with
  | insertSession params => cases own
  | insertGame row => obtain ⟨_, _, impossible, _⟩ := own; cases impossible
  | initGameRows rows => obtain ⟨_, _, impossible, _⟩ := own; cases impossible
  | chainGames session games => obtain ⟨_, impossible⟩ := own; cases impossible
  | joinGame socket game => cases own
  | deleteGame _ | removeMemGame _ | deleteSession _ => trivial
  | _ =>
    have still := about_after permitted (perform host fails _ p.server).1 about fun _ impossible => nomatch impossible
    have stays : Underway clean timely (performed host fails p index thread _ next) index sessionId gameIds current :=
      underway.perform host fails found working permitted trivial (fun impossible => nomatch impossible)
        fun _ impossible => nomatch impossible
    refine ⟨still, gameIds, current, stays⟩

theorem standing_step {birth : Birth} (fresh : Fresh p) (standing : Standing clean timely p index thread.stage birth)
    (own : creation.permits birth op)
    (vacant : ∀ params, op = .insertSession params → Vacant p (nextRowId (p.server.db.sessions.map (·.sessionId))))
    (unused : clean → ∀ params, op = .insertSession params →
      Unused p (nextRowId (p.server.db.sessions.map (·.sessionId)))) :
    Standing clean timely (performed host fails p index thread op next) index
      (thread.stage.after op (perform host fails op p.server).1)
      (creation.after birth op (perform host fails op p.server).1) := by
  cases birth with
  | asking => exact standing_asking permitted standing own vacant unused
  | making sessionId made =>
    obtain ⟨entries, rows, making⟩ := standing
    exact standing_making owned found working permitted fresh rows making own
  | loaded sessionId made games =>
    obtain ⟨about, gameIds, loading⟩ := standing
    exact standing_loaded found working permitted about loading own
  | chained sessionId made =>
    obtain ⟨about, gameIds, current, underway⟩ := standing
    exact standing_chained found working permitted about underway own
  | failed =>
    have failed : creation.after .failed op (perform host fails op p.server).1 = .failed := by
      cases op <;> cases (perform host fails _ p.server).1 <;> rfl
    rw [failed]
    trivial

omit owned found working permitted in
/-- The server answers as the request expects. -/
theorem standing_expects {stage : Stage} {birth : Birth} (standing : Standing clean timely p index stage birth) :
    creation.expects birth op (perform host fails op p.server).1 := by
  cases birth with
  | making sessionId made =>
    obtain ⟨entries, rows, making⟩ := standing
    cases op with
    | selectGames other =>
      cases answered : (perform host fails (.selectGames other) p.server).1 with
      | error error => trivial
      | ok selected =>
        rintro rfl
        rw [rows, ← making.rows]
        exact selectGames_ok answered
    | _ => trivial
  | _ => trivial

end

/-! Turns of everybody else. -/

section
variable {clean timely : Prop} {owner : String → Option Nat} {p : Process} {index : Nat} {thread : Thread} {birth : Birth}

/-- Games that have been loaded wait for nobody else. -/
theorem idle_aside {turn : Turn} (follows : Follows creation (Gives Made) birth thread.request)
    (secluded : Secluded Vacant index p turn) (found : p.threads[index]? = some thread) (aside : advances index turn = false) :
    birth.Idle := by
  rintro sessionId made games rfl
  have next := (secluded thread found).2
  cases pending : thread.request with
  | resolve value =>
    rw [pending] at follows
    obtain ⟨_, _, _, impossible⟩ := follows
    cases impossible
  | reject error =>
    rw [pending] at follows
    exact follows sessionId made games rfl
  | step op rest =>
    rw [pending] at follows next
    have own : creation.permits (.loaded sessionId made games) op := follows.1
    cases op with
    | chainGames session listed =>
      have here : advances index turn = true := next
      rw [aside] at here
      cases here
    | insertSession params => cases own
    | insertGame row => obtain ⟨_, _, impossible, _⟩ := own; cases impossible
    | initGameRows rows => obtain ⟨_, _, impossible, _⟩ := own; cases impossible
    | joinGame socket game => cases own
    | _ => exact own sessionId made games rfl

variable {stage : Stage} (idle : birth.Idle)
include idle

theorem standing_play (placed : Placed p.server) (turn : Turn)
    (foreign : clean ∨ ∀ sessionId, stage.about = some sessionId → Loyal sessionId p.server turn)
    (prompt : timely → ∀ sessionId, stage.about = some sessionId → Prompt sessionId p.server turn)
    (standing : Standing clean timely p index stage birth) :
    Standing clean timely { p with server := play p.server turn } index stage birth := by
  cases birth with
  | asking => exact standing
  | making sessionId made =>
    obtain ⟨entries, rows, making⟩ := standing
    exact ⟨entries, rows, making.play turn (foreign.imp_right fun loyal => loyal sessionId making.about)⟩
  | loaded sessionId made games => exact absurd rfl (idle sessionId made games)
  | chained sessionId made =>
    obtain ⟨about, gameIds, current, underway⟩ := standing
    obtain ⟨next, played, _⟩ := underway.play placed turn (foreign.imp_right fun loyal => loyal sessionId about)
      fun timely => prompt timely sessionId about
    exact ⟨about, gameIds, next, played⟩
  | failed => trivial

theorem standing_arrive (host : Host) {asked : Asked}
    (other : ∀ sessionId, asked = .remove sessionId → stage.about ≠ some sessionId)
    (standing : Standing clean timely p index stage birth) : Standing clean timely (arrive host p asked) index stage birth := by
  cases birth with
  | asking => exact standing
  | making sessionId made =>
    obtain ⟨entries, rows, making⟩ := standing
    exact ⟨entries, rows, making.arrive host fun same => other sessionId same making.about⟩
  | loaded sessionId made games => exact absurd rfl (idle sessionId made games)
  | chained sessionId made =>
    obtain ⟨about, gameIds, current, underway⟩ := standing
    exact ⟨about, gameIds, current, underway.arrive host fun same => other sessionId same about⟩
  | failed => trivial

theorem standing_aside (owned : Owned owner p) (found : p.threads[index]? = some thread) (host : Host) (fails : Bool)
    {place : Nat} {other : Thread} {op : Op} {next : Except Failure (Res op) → Request (Option Session)}
    (apart : place ≠ index) (there : p.threads[place]? = some other) (working : busy other = true)
    (permitted : other.stage.permits op) (standing : Standing clean timely p index thread.stage birth) :
    Standing clean timely (performed host fails p place other op next) index thread.stage birth := by
  cases birth with
  | asking => exact standing
  | making sessionId made =>
    obtain ⟨entries, rows, making⟩ := standing
    exact ⟨entries, rows, making.aside owned found host fails apart there working permitted⟩
  | loaded sessionId made games => exact absurd rfl (idle sessionId made games)
  | chained sessionId made =>
    obtain ⟨about, gameIds, current, underway⟩ := standing
    exact ⟨about, gameIds, current, underway.aside owned apart there working permitted host fails⟩
  | failed => trivial

end

/-! Runs. -/

theorem advance_cases (host : Host) (p : Process) (place : Nat) (fails : Bool) : advance host p place fails = p ∨
    ∃ thread op next, p.threads[place]? = some thread ∧ thread.request = .step op next ∧
      advance host p place fails = performed host fails p place thread op next := by
  unfold Processes.advance
  split
  next asked stage op next found => exact .inr ⟨_, op, next, found, rfl, rfl⟩
  next => exact .inl rfl

section
variable {clean timely : Prop} {owner : String → Option Nat} {p : Process} {index : Nat}
  (traced : Traced clean timely p index) {turn : Turn} (regular : Regular clean timely index p turn) (placed : Placed p.server)
include traced regular placed

theorem traced_play (aside : advances index turn = false) : Traced clean timely { p with server := play p.server turn } index := by
  intro thread params found asked
  obtain ⟨birth, follows, standing⟩ := traced thread params found asked
  have idle : birth.Idle := idle_aside follows regular.secluded found aside
  have foreign : clean ∨ ∀ sessionId, thread.stage.about = some sessionId → Loyal sessionId p.server turn :=
    regular.undiverted.imp_right fun undiverted => undiverted thread found
  have prompt : timely → ∀ sessionId, thread.stage.about = some sessionId → Prompt sessionId p.server turn := fun timely =>
    regular.inTime timely thread found
  exact ⟨birth, follows, standing_play idle placed turn foreign prompt standing⟩

theorem traced_arrive (host : Host) (aside : advances index turn = false) {asked : Asked}
    (removes : ∀ sessionId, asked = .remove sessionId → turn = .remove sessionId) :
    Traced clean timely (arrive host { p with server := play p.server turn } asked) index := by
  intro thread params found created
  change (p.threads ++ [_])[index]? = some thread at found
  rw [List.getElem?_append] at found
  split at found
  next =>
    obtain ⟨birth, follows, standing⟩ := traced_play traced regular placed aside thread params found created
    have idle : birth.Idle := idle_aside follows regular.secluded found aside
    have other : ∀ sessionId, asked = .remove sessionId → thread.stage.about ≠ some sessionId := fun sessionId asks =>
      (regular.secluded thread found).1 sessionId (removes sessionId asks)
    exact ⟨birth, follows, standing_arrive idle host other standing⟩
  next =>
    have new := List.mem_singleton.mp (List.mem_of_getElem? found)
    subst new
    have creates : asked = .create params := created
    subst creates
    refine ⟨.asking, ?_, rfl⟩
    exact gives_map (follows_createSession params) fun session birth ⟨made, same⟩ => ⟨session, made, rfl, same⟩

omit placed in
theorem traced_advance (owned : Owned owner p) (fresh : Fresh p) (host : Host) {place : Nat} {fails : Bool}
    (turned : turn = .advance place fails) : Traced clean timely (advance host p place fails) index := by
  rcases advance_cases host p place fails with same | ⟨other, op, next, there, pending, same⟩
  · rw [same]
    exact traced
  · rw [same]
    have permitted : other.stage.permits op := by
      have follows := owned.follows other (List.mem_of_getElem? there)
      rw [pending] at follows
      exact follows.1
    intro thread params found asked
    by_cases here : place = index
    · subst here
      have changed : (p.threads.set place _)[place]? = some thread := found
      rw [List.getElem?_set_self (List.getElem?_eq_some_iff.mp there).1] at changed
      cases changed
      obtain ⟨birth, follows, standing⟩ := traced other params there asked
      rw [pending] at follows
      have here : advances place turn = true := by simp [turned, advances]
      have free : ∀ {free : Process → Nat → Prop}, Secluded free place p turn → ∀ params, op = .insertSession params →
          free p (nextRowId (p.server.db.sessions.map (·.sessionId))) := by
        rintro free secluded params rfl
        have next := (secluded other there).2
        rw [pending] at next
        exact next here
      exact ⟨_, follows.advance (standing_expects standing),
        standing_step owned there (busy_step pending) permitted fresh standing follows.1 (free regular.secluded)
          fun unused => free (regular.orderly unused)⟩
    · have kept : p.threads[index]? = some thread := (List.getElem?_set_ne here).symm.trans found
      obtain ⟨birth, follows, standing⟩ := traced thread params kept asked
      have aside : advances index turn = false := by simp [turned, advances, here]
      have idle : birth.Idle := idle_aside follows regular.secluded kept aside
      exact ⟨birth, follows, standing_aside idle owned kept host fails here there (busy_step pending) permitted standing⟩

theorem traced_step (owned : Owned owner p) (fresh : Fresh p) (host : Host) : Traced clean timely (step host p turn) index := by
  cases turn with
  | advance place fails => exact traced_advance traced regular owned fresh host rfl
  | create params => exact traced_arrive traced regular placed host rfl fun _ impossible => nomatch impossible
  | remove sessionId =>
    exact traced_arrive traced regular placed host rfl fun _ same => congrArg Turn.remove (Asked.remove.inj same)
  | connect playerId => exact traced_arrive traced regular placed host rfl fun _ impossible => nomatch impossible
  | _ => exact traced_play traced regular placed rfl

end

/-- What holds of the server while the request is observed. -/
structure Observed (clean timely : Prop) (index : Nat) (p : Process) : Prop where
  owned : ∃ owner, Owned owner p
  fresh : Fresh p
  placed : Placed p.server
  traced : Traced clean timely p index

section
variable {clean timely : Prop} {host : Host} {index : Nat} {start : Process}

theorem Booted.observed (booted : Booted start) (fresh : Fresh start) (placed : Placed start.server) :
    Observed clean timely index start where
  owned := by
    obtain ⟨owner, owned, _⟩ := booted.owned
    exact ⟨owner, owned⟩
  fresh := fresh
  placed := placed
  traced := by
    intro thread _ found
    rw [booted.threads] at found
    cases found

theorem Observed.step {p : Process} {turn : Turn} (observed : Observed clean timely index p) (host : Host)
    (regular : Regular clean timely index p turn) : Observed clean timely index (step host p turn) := by
  obtain ⟨owner, owned⟩ := observed.owned
  obtain ⟨owner', _, owned', _⟩ := owned_step owned host turn
  exact ⟨⟨owner', owned'⟩, fresh_step owned observed.fresh host turn, placed_step observed.placed host turn,
    traced_step observed.traced regular observed.placed owned observed.fresh host⟩

theorem observed_run {turns : List Turn} (observed : Observed clean timely index start)
    (regular : Permitted (step host) (Regular clean timely index) start turns) :
    Observed clean timely index (run (step host) start turns) :=
  run_invariant_of_permitted (Observed clean timely index) (fun _ _ regular observed => observed.step host regular) regular observed

end

/-! From the creation on. -/

/-- The request has created the session, and has nothing left to do. -/
def Created (p : Process) (index : Nat) (session : Session) : Prop :=
  ∃ thread params, p.threads[index]? = some thread ∧ thread.asked = .create params ∧
    thread.request = .resolve (some session)

/-- The session is under way, and its request is still about it. -/
def Kept (clean timely : Prop) (index sessionId : Nat) (gameIds : List String) (p : Process) (current : Nat) : Prop :=
  Underway clean timely p index sessionId gameIds current ∧ ∃ thread value, p.threads[index]? = some thread ∧
    thread.request = .resolve value ∧ thread.stage.about = some sessionId

section
variable {clean timely : Prop} {host : Host} {index : Nat} {p : Process}

theorem created_kept {session : Session} (observed : Observed clean timely index p) (created : Created p index session) :
    ∃ gameIds current, Kept clean timely index session.sessionId gameIds p current := by
  obtain ⟨thread, params, found, asked, resolved⟩ := created
  obtain ⟨birth, follows, standing⟩ := observed.traced thread params found asked
  rw [resolved] at follows
  obtain ⟨_, made, same, rfl⟩ := follows
  cases same
  obtain ⟨about, gameIds, current, underway⟩ := standing
  exact ⟨gameIds, current, underway, thread, _, found, resolved, about⟩

theorem kept_step {sessionId : Nat} {gameIds : List String} {current : Nat} {turn : Turn} (observed : Observed clean timely index p)
    (regular : Regular clean timely index p turn) (kept : Kept clean timely index sessionId gameIds p current) :
    ∃ next, Advances sessionId gameIds p turn current next ∧
      Kept clean timely index sessionId gameIds (step host p turn) next := by
  obtain ⟨owner, owned⟩ := observed.owned
  obtain ⟨underway, thread, value, found, resolved, about⟩ := kept
  have played : ∃ next, Advances sessionId gameIds p turn current next ∧
      Underway clean timely { p with server := play p.server turn } index sessionId gameIds next := by
    have foreign : clean ∨ Loyal sessionId p.server turn :=
      regular.undiverted.imp_right fun undiverted => undiverted thread found sessionId about
    obtain ⟨next, underway', advances⟩ := underway.play observed.placed turn foreign fun timely =>
      regular.inTime timely thread found sessionId about
    exact ⟨next, advances, underway'⟩
  have arrived : ∀ asked, (∀ session, asked = .remove session → turn = .remove session) →
      ∃ next, Advances sessionId gameIds p turn current next ∧
        Kept clean timely index sessionId gameIds (arrive host { p with server := play p.server turn } asked) next := by
    intro asked removes
    obtain ⟨next, advances, underway'⟩ := played
    have other : asked ≠ .remove sessionId := fun same =>
      (regular.secluded thread found).1 sessionId (removes _ same) about
    have still : (p.threads ++ [{ asked, stage := asked.stage, request := asked.request host }])[index]? = some thread := by
      rw [List.getElem?_append_left (List.getElem?_eq_some_iff.mp found).1]
      exact found
    exact ⟨next, advances, underway'.arrive host other, thread, value, still, resolved, about⟩
  cases turn with
  | advance place fails =>
    refine ⟨current, .inl rfl, ?_⟩
    change Kept clean timely index sessionId gameIds (advance host p place fails) current
    rcases advance_cases host p place fails with same | ⟨other, op, next, there, pending, same⟩
    · rw [same]
      exact ⟨underway, thread, value, found, resolved, about⟩
    · have apart : place ≠ index := by
        rintro rfl
        cases found.symm.trans there
        rw [resolved] at pending
        cases pending
      have permitted : other.stage.permits op := by
        have follows := owned.follows other (List.mem_of_getElem? there)
        rw [pending] at follows
        exact follows.1
      have still : (p.threads.set place
          { other with
            stage := other.stage.after op (perform host fails op p.server).1
            request := next (perform host fails op p.server).1 })[index]? = some thread :=
        (List.getElem?_set_ne apart).trans found
      rw [same]
      exact ⟨underway.aside owned apart there (busy_step pending) permitted host fails, thread, value, still, resolved, about⟩
  | create params => exact arrived _ fun _ impossible => nomatch impossible
  | remove session => exact arrived _ fun _ same => congrArg Turn.remove (Asked.remove.inj same)
  | connect playerId => exact arrived _ fun _ impossible => nomatch impossible
  | _ =>
    obtain ⟨next, advances, underway'⟩ := played
    exact ⟨next, advances, underway', thread, value, found, resolved, about⟩

end

/-- From the creation on the session is under way. -/
theorem kept_run {clean timely : Prop} {host : Host} {index : Nat} {start : Process} {before turns : List Turn}
    {session : Session} (booted : Booted start) (fresh : Fresh start) (placed : Placed start.server)
    (regular : Permitted (step host) (Regular clean timely index) start (before ++ turns))
    (created : Created (run (step host) start before) index session) :
    ∃ gameIds current, Shadowed (step host)
      (fun p current => Observed clean timely index p ∧ Kept clean timely index session.sessionId gameIds p current)
      (Advances session.sessionId gameIds) (run (step host) start before) current turns := by
  have parts := permitted_parts regular
  have observed := observed_run (Booted.observed booted fresh placed) parts.1
  obtain ⟨gameIds, current, kept⟩ := created_kept observed created
  refine ⟨gameIds, current, shadowed_of_permitted ?_ parts.2 ⟨observed, kept⟩⟩
  intro p turn current regular held
  obtain ⟨next, advances, kept⟩ := kept_step held.1 regular held.2
  exact ⟨next, advances, held.1.step host regular, kept⟩

/-- Once a session has been created, one of its games is the current one, and no game after it has started. Turn by turn
the session stays with its game or moves on to the next, when the game has stopped and the write it has asked for is
committed. -/
theorem session_proceeds {host : Host} {index : Nat} {start : Process} {before turns : List Turn} {session : Session}
    (booted : Booted start) (fresh : Fresh start) (placed : Placed start.server)
    (orderly : Permitted (step host) (Orderly index) start (before ++ turns))
    (created : Created (run (step host) start before) index session) :
    ∃ gameIds current, Shadowed (step host)
      (fun p current => InProgress session.sessionId gameIds current p.server ∧ current < gameIds.length)
      (Advances session.sessionId gameIds) (run (step host) start before) current turns := by
  have regular : Permitted (step host) (Regular True False index) start (before ++ turns) :=
    orderly.mono fun _ _ orderly => orderly.regular False.elim
  obtain ⟨gameIds, current, shadowed⟩ := kept_run booted fresh placed regular created
  exact ⟨gameIds, current, shadowed.mono (fun p current held => ⟨held.2.1.progress, held.2.1.within⟩)
    fun _ _ _ _ _ advances => advances⟩

section
variable {sessionId : Nat} {gameIds : List String} {current : Nat} {table : List GameRow}
  (sheet : Sheet sessionId gameIds current table)
include sheet

/-- The places of the rows in the order of the games. -/
theorem sheet_order {row : GameRow} (member : row ∈ table) (own : row.sessionId = sessionId) :
    gameIds[row.gameOrder]? = some row.gameId := by
  have listed : (row.gameId, row.gameOrder) ∈ gameIds.zipIdx := by
    rw [← sheet.rows]
    exact List.mem_map_of_mem (List.mem_filter.mpr ⟨member, by simpa using own⟩)
  exact List.mem_zipIdx_iff_getElem?.mp listed

theorem sheet_current (within : current < gameIds.length) : ∃ row ∈ table, row.sessionId = sessionId ∧ row.gameOrder = current ∧
    ∀ other ∈ table, other.sessionId = sessionId → (other.isCurrent = true ↔ other = row) := by
  have found : gameIds[current]? = some (gameIds.get ⟨current, within⟩) := List.getElem?_eq_getElem within
  obtain ⟨row, stored, same, own⟩ := sheet.stored (List.mem_of_getElem? found)
  rw [← same] at found
  refine ⟨row, stored, own, sheet.place (sheet_order sheet stored own) found, fun other member mine => ?_⟩
  rw [sheet.flags other member mine, found, Option.some_inj]
  constructor
  · intro named
    have distinct := sheet.distinct
    rw [← sheet.ids] at distinct
    have among : ∀ other ∈ table, other.sessionId = sessionId → other ∈ table.filter (·.sessionId = sessionId) :=
      fun other present own => List.mem_filter.mpr ⟨present, by simpa using own⟩
    exact (List.inj_on_of_nodup_map distinct (among row stored own) (among other member mine) named).symm
  · rintro rfl
    rfl

theorem sheet_waiting {row : GameRow} (member : row ∈ table) (own : row.sessionId = sessionId) (later : current < row.gameOrder) :
    row.gameData.startTime = none :=
  sheet.waiting row member own row.gameOrder later (sheet_order sheet member own)

theorem sheet_ended {tasks : List Task} (relay : Relay gameIds current table tasks) {row : GameRow} (member : row ∈ table)
    (own : row.sessionId = sessionId) (earlier : row.gameOrder < current) : row.gameData.endTime.isSome :=
  relay.rows row.gameOrder row.gameId earlier (sheet_order sheet member own) row member rfl

end

/-- As long as the writes of the session are committed in order, the table tells how far the session has come: the games
before the current one have their ends in it, and those after it have not started. -/
theorem session_recorded {host : Host} {index : Nat} {start : Process} {turns : List Turn} {session : Session}
    (booted : Booted start) (fresh : Fresh start) (placed : Placed start.server)
    (orderly : Permitted (step host) (Orderly index) start turns)
    (timely : Permitted (step host) (InTime index) start turns)
    (created : Created (run (step host) start turns) index session) :
    ∃ current ∈ (run (step host) start turns).server.db.games, current.sessionId = session.sessionId ∧
      ∀ row ∈ (run (step host) start turns).server.db.games, row.sessionId = session.sessionId →
        (row.isCurrent = true ↔ row = current) ∧
        (row.gameOrder < current.gameOrder → row.gameData.endTime.isSome) ∧
        (current.gameOrder < row.gameOrder → row.gameData.startTime = none) := by
  have regular : Permitted (step host) (Regular True True index) start turns :=
    (orderly.and timely).mono fun _ _ both => both.1.regular fun _ => both.2
  have observed := observed_run (Booted.observed booted fresh placed) regular
  obtain ⟨gameIds, place, underway, _⟩ := created_kept observed created
  have sheet := underway.progress.sheet
  obtain ⟨current, stored, own, here, alone⟩ := sheet_current sheet underway.within
  refine ⟨current, stored, own, fun row member mine => ⟨alone row member mine, fun earlier => ?_, fun later => ?_⟩⟩
  · exact sheet_ended sheet (underway.recorded trivial) member mine (here ▸ earlier)
  · exact sheet_waiting sheet member mine (here ▸ later)

theorem created_of_createdBy {p : Process} {index sessionId : Nat}
    (created : p.threads[index]?.any (createdBy sessionId) = true) :
    ∃ session, session.sessionId = sessionId ∧ Created p index session := by
  cases found : p.threads[index]? with
  | none =>
    rw [found] at created
    cases created
  | some thread =>
    rw [found] at created
    have resolves : createdBy sessionId thread = true := created
    unfold createdBy at resolves
    split at resolves
    next params session asked resolved => exact ⟨session, by simpa using resolves, thread, params, found, asked, resolved⟩
    next => cases resolves

theorem sample_fresh : Fresh sampleStart := by
  refine fun index => ⟨nofun, fun mentioned => ?_, nofun, nofun⟩
  rcases mentioned with ⟨_, member, _⟩ | ⟨_, _, member, _⟩ | ⟨_, member, _⟩ | ⟨_, member, _⟩ <;> cases member

/-- Both players of the first session get ready while another session is created. -/
def besides : List Turn := bothReady ++ .create otherParams :: List.replicate 20 (.advance 3 false)

theorem session_proceeds_sample : ∃ session : Session, session.sessionId = 1 ∧ ∃ gameIds current, Shadowed (step sampleHost)
    (fun p current => InProgress session.sessionId gameIds current p.server ∧ current < gameIds.length)
    (Advances session.sessionId gameIds) (run (step sampleHost) sampleStart createdSession) current besides := by
  have orderly : Permitted (step sampleHost) (Orderly 0) sampleStart (createdSession ++ besides) := by decide +kernel
  have resolved : (run (step sampleHost) sampleStart createdSession).threads[0]?.any (createdBy 1) = true := by
    decide +kernel
  obtain ⟨session, same, created⟩ := created_of_createdBy resolved
  have placed : Placed sampleStart.server := fun _ member => nomatch member
  exact ⟨session, same, session_proceeds sample_booted sample_fresh placed orderly created⟩

/-- They start the first game of the session, and its writes are committed one after the other. -/
def played : List Turn := createdSession ++ bothReady ++ List.replicate 4 (.commit 0 false)

theorem session_recorded_sample : ∃ session : Session, session.sessionId = 1 ∧
    ∃ current ∈ (run (step sampleHost) sampleStart played).server.db.games, current.sessionId = session.sessionId ∧
      ∀ row ∈ (run (step sampleHost) sampleStart played).server.db.games, row.sessionId = session.sessionId →
        (row.isCurrent = true ↔ row = current) ∧
        (row.gameOrder < current.gameOrder → row.gameData.endTime.isSome) ∧
        (current.gameOrder < row.gameOrder → row.gameData.startTime = none) := by
  have orderly : Permitted (step sampleHost) (Orderly 0) sampleStart played := by decide +kernel
  have timely : Permitted (step sampleHost) (InTime 0) sampleStart played := by decide +kernel
  have resolved : (run (step sampleHost) sampleStart played).threads[0]?.any (createdBy 1) = true := by decide +kernel
  obtain ⟨session, same, created⟩ := created_of_createdBy resolved
  exact ⟨session, same, session_recorded sample_booted sample_fresh (fun _ member => nomatch member) orderly timely created⟩

end DfStudy.SessionProgress
