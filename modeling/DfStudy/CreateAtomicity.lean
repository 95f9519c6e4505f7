import DfStudy.SessionBirth
import DfStudy.SessionRemoval

/-! Which creates that are rejected leave nothing behind. -/

namespace DfStudy.CreateAtomicity
open Attacks Rounds Games Tables Servers MemGames ServerFrames Sessions Undisturbed SessionCreation SessionSetup SessionBirth
open Support.Futures Future
open Lifetimes (Formed formed_moved formed_reached reached)
open SessionRemoval (Known Cleaned ownIds mem_ownIds removal_cleaned)

/-- The tables and the list of games are what they were. -/
def Unchanged (s after : Server) : Prop := after.db = s.db ∧ after.memGames = s.memGames

/-- The session that gets the next rowid. -/
def newSession (s : Server) (params : CreateSessionParams) : Session :=
  { params with sessionId := nextRowId (s.db.sessions.map (·.sessionId)) }

/-- The session passes the UNIQUE constraints of its table. -/
def Free (s : Server) (params : CreateSessionParams) : Prop :=
  ∀ row ∈ s.db.sessions, row.blueParticipant ≠ params.blueParticipant ∧ row.redParticipant ≠ params.redParticipant ∧
    row.grpcPort ≠ params.grpcPort ∧ row.murmurPort ≠ params.murmurPort

/-- The session and its murmur pass the UNIQUE constraints, apart from the one on the session's id. -/
structure Unused (host : Host) (s : Server) (params : CreateSessionParams) : Prop where
  session : Free s params
  murmur : ∀ row ∈ s.db.murmurs,
    row.murmurId ≠ (resolveMurmur host (newSession s params).sessionId params.grpcPort params.murmurPort).murmurId ∧
    row.recDir ≠ (resolveMurmur host (newSession s params).sessionId params.grpcPort params.murmurPort).recDir ∧
    row.grpcPort ≠ params.grpcPort ∧ row.murmurPort ≠ params.murmurPort

/-- The row of the session gets into its table. -/
def Inserted (fails : Nat → Bool) (s : Server) (params : CreateSessionParams) : Prop := fails 0 = false ∧ Free s params

/-- The row of the first game gets into its table: nothing has failed before, and no murmur has the session's id. -/
structure Begun (host : Host) (fails : Nat → Bool) (s : Server) (params : CreateSessionParams) : Prop where
  unused : Unused host s params
  murmurs : ∀ row ∈ s.db.murmurs, row.sessionId ≠ (newSession s params).sessionId
  clean : Clean fails 5

/-- The steps of a create from the first after a game's row was inserted to the one that reads the rows
of the games to load them. Before them come the rows of the session and the murmur, the directory, the
container and the first game. -/
def BetweenRowsAndMemory (step : Nat) : Prop := 5 ≤ step ∧ step ≤ 14

/-- The step that fails first is one at which games have rows and are not in memory. -/
def HalfDone (host : Host) (fails : Nat → Bool) (s : Server) (params : CreateSessionParams) : Prop :=
  Unused host s params ∧ ∃ step, BetweenRowsAndMemory step ∧ fails step = true ∧ Clean fails step

/-- The removal of the session takes back what the create has done, and nothing else. No attack and no murmur that was left
over carries the id the session gets. Neither does a game, and the create has not stopped half-way; or a game does that is not
in memory, so that the removal finds no games, and the create has added none. -/
def TakenBack (host : Host) (fails : Nat → Bool) (s : Server) (params : CreateSessionParams) : Prop :=
  ¬Inserted fails s params ∨
    (∀ row ∈ s.db.attacks, row.sessionId ≠ (newSession s params).sessionId) ∧
      (∀ row ∈ s.db.murmurs, row.sessionId ≠ (newSession s params).sessionId) ∧
        ((∀ row ∈ s.db.games, row.sessionId ≠ (newSession s params).sessionId) ∧ ¬HalfDone host fails s params ∨
          (∃ row ∈ s.db.games, row.sessionId = (newSession s params).sessionId ∧ ¬Registered s.memGames row.gameId) ∧
            ¬Begun host fails s params)

/-- `createSession` up to its `chainRej`. -/
def attempt (host : Host) (params : CreateSessionParams) : Request Session :=
  (insertSession params).chain fun session =>
    (createSessionMurmur host session).chain fun session => (createSessionGames host session).chain initSession

theorem createSession_eq (host : Host) (params : CreateSessionParams) :
    createSession host params = (attempt host params).chainRej rollback := rfl

/-- No row of a session is left over that has the id of the new one. -/
structure Unreferenced (s : Server) (params : CreateSessionParams) : Prop where
  games : ∀ row ∈ s.db.games, row.sessionId ≠ (newSession s params).sessionId
  attacks : ∀ row ∈ s.db.attacks, row.sessionId ≠ (newSession s params).sessionId
  murmurs : ∀ row ∈ s.db.murmurs, row.sessionId ≠ (newSession s params).sessionId

theorem newSession_fresh (s : Server) (params : CreateSessionParams) :
    ∀ row ∈ s.db.sessions, row.sessionId ≠ (newSession s params).sessionId := by
  intro row member same
  have below : row.sessionId < (newSession s params).sessionId :=
    lt_nextRowId (List.mem_map_of_mem (f := fun row : Session => row.sessionId) member)
  omega

theorem find_newSession {s : Server} {params : CreateSessionParams} {sessions : List Session}
    (last : sessions = s.db.sessions ++ [newSession s params]) :
    sessions.find? (·.sessionId = (newSession s params).sessionId) = some (newSession s params) := by
  have others : s.db.sessions.find? (·.sessionId = (newSession s params).sessionId) = none := by
    rw [List.find?_eq_none]
    intro row member
    simpa using newSession_fresh s params row member
  rw [last, List.find?_append, others]
  simp

theorem sessionPlan_steps (session : Session) (uuids : Nat → String) :
    stepsOf (planEntries (sessionPlan session) uuids) = 10 := rfl

theorem halfDone_iff {host : Host} {fails : Nat → Bool} {s : Server} {params : CreateSessionParams} {step : Nat}
    (unused : Unused host s params) (failed : FailedLast fails step) :
    HalfDone host fails s params ↔ 6 ≤ step ∧ step ≤ 15 := by
  obtain ⟨last, rfl, failing, clean⟩ := failed
  constructor
  · rintro ⟨_, first, between, failing', clean'⟩
    have equal : first = last := by
      by_contra differs
      rcases Nat.lt_or_gt_of_ne differs with before | after
      · rw [clean first before] at failing'
        cases failing'
      · rw [clean' last after] at failing
        cases failing
    have bounds := between
    unfold BetweenRowsAndMemory at bounds
    omega
  · intro bounds
    refine ⟨unused, last, ?_, failing, clean⟩
    unfold BetweenRowsAndMemory
    omega

theorem begun_of_halfDone {host : Host} {fails : Nat → Bool} {s : Server} {params : CreateSessionParams}
    (murmurs : ∀ row ∈ s.db.murmurs, row.sessionId ≠ (newSession s params).sessionId)
    (half : HalfDone host fails s params) : Begun host fails s params := by
  obtain ⟨unused, step, between, -, clean⟩ := half
  exact ⟨unused, murmurs, clean.mono between.1⟩

section
variable {host : Host} {fails : Nat → Bool} {s : Server} {params : CreateSessionParams}

def withSession (s : Server) (params : CreateSessionParams) : Server :=
  { s with db := { s.db with sessions := s.db.sessions ++ [newSession s params] } }

def newMurmur (host : Host) (s : Server) (params : CreateSessionParams) : Murmur :=
  resolveMurmur host (newSession s params).sessionId params.grpcPort params.murmurPort

def withMurmur (host : Host) (s : Server) (params : CreateSessionParams) : Server :=
  { withSession s params with db := { (withSession s params).db with
      murmurs := s.db.murmurs ++ [newMurmur host s params] } }

theorem ends_insertSession :
    Ends host fails (Sessions.insertSession params) { server := s }
      (fun value a' => value = newSession s params ∧ a' = { server := withSession s params, step := 1 } ∧
        Clean fails a'.step ∧ Inserted fails s params)
      fun error a' => a'.server = s ∧ (∀ session message, error ≠ .sessionError session message) ∧
        ¬Inserted fails s params := by
  have clean : Clean fails 0 := fun earlier below => absurd below (Nat.not_lt_zero _)
  apply ends_map
  apply ends_step rfl
  · intro failed message
    refine ⟨rfl, by simp, fun inserted => ?_⟩
    rw [inserted.1] at failed
    cases failed
  · intro works
    by_cases conflict : (s.db.sessions.any fun row => row.blueParticipant = params.blueParticipant ∨
        row.redParticipant = params.redParticipant ∨ row.grpcPort = params.grpcPort ∨
        row.murmurPort = params.murmurPort) = true
    · have result : perform host false (.insertSession params) s =
          (.error (.error "SQLITE_CONSTRAINT: UNIQUE constraint failed"), s) := by
        change statement false s (s.db.insertSession params) = _
        unfold Database.insertSession
        rw [if_pos conflict]
        rfl
      rw [result]
      refine ⟨rfl, by simp, fun inserted => ?_⟩
      obtain ⟨row, member, clash⟩ := List.any_eq_true.mp conflict
      have apart := inserted.2 row member
      simp [apart] at clash
    · have result : perform host false (.insertSession params) s =
          (.ok (newSession s params).sessionId, withSession s params) := by
        change statement false s (s.db.insertSession params) = _
        unfold Database.insertSession
        rw [if_neg conflict]
        rfl
      rw [result]
      refine ⟨rfl, rfl, clean.succ works, works, ?_⟩
      intro row member
      have apart := List.any_eq_false.mp (Bool.not_eq_true _ ▸ conflict) row member
      simpa using apart

/-- The games are in memory beside those that were, or not. -/
def Loads (host : Host) (fails : Nat → Bool) (s : Server) (params : CreateSessionParams) (rows : List GameRow)
    (memGames : List GameRef) : Prop :=
  memGames = s.memGames ∧ (rows = [] ∨ HalfDone host fails s params) ∨
    ¬HalfDone host fails s params ∧ ∃ refs, memGames = s.memGames ++ refs ∧ refs.map (·.gameId) = rows.map (·.gameId)

/-- What an attempt has left: the row of the session, maybe one of a murmur, and rows of games and attacks. Which games are
in memory is clear where no rows were left over. -/
structure Abandoned (host : Host) (fails : Nat → Bool) (s : Server) (params : CreateSessionParams) (rows : List GameRow)
    (planned : List Attack) (server : Server) : Prop where
  sessions : server.db.sessions = s.db.sessions ++ [newSession s params]
  games : server.db.games = s.db.games ++ rows
  attacks : server.db.attacks = s.db.attacks ++ planned
  murmurs : server.db.murmurs = s.db.murmurs ∨ server.db.murmurs = s.db.murmurs ++ [newMurmur host s params]
  ownRows : ∀ row ∈ rows, row.sessionId = (newSession s params).sessionId ∧ ∃ index < 4, row.gameId = s.uuids index
  ownAttacks : ∀ attack ∈ planned, attack.sessionId = (newSession s params).sessionId
  begun : rows = [] ↔ ¬Begun host fails s params
  early : rows = [] → server.memGames = s.memGames
  loads : Unreferenced s params → Loads host fails s params rows server.memGames

/-- How an attempt is rejected after the session has got its row. -/
def Rejected (host : Host) (fails : Nat → Bool) (s : Server) (params : CreateSessionParams) (error : Failure)
    (a : Alone) : Prop :=
  ∃ message rows attacks, error = .sessionError (newSession s params) message ∧
    Abandoned host fails s params rows attacks a.server

/-- No game has been created yet. -/
theorem rejected_early {a : Alone} (message : String) (none : ¬Begun host fails s params)
    (kept : a.server = withSession s params ∨ a.server = withMurmur host s params) :
    Rejected host fails s params (.sessionError (newSession s params) message) a := by
  refine ⟨message, [], [], rfl, ?_⟩
  have murmurs : a.server.db.murmurs = s.db.murmurs ∨
      a.server.db.murmurs = s.db.murmurs ++ [newMurmur host s params] := by
    rcases kept with same | same
    · exact .inl (by rw [same]; rfl)
    · exact .inr (by rw [same]; rfl)
  have rest : a.server.db.sessions = s.db.sessions ++ [newSession s params] ∧ a.server.db.games = s.db.games ∧
      a.server.db.attacks = s.db.attacks ∧ a.server.memGames = s.memGames := by
    rcases kept with same | same <;> rw [same] <;> exact ⟨rfl, rfl, rfl, rfl⟩
  exact {
    sessions := rest.1
    games := by rw [rest.2.1, List.append_nil]
    attacks := by rw [rest.2.2.1, List.append_nil]
    murmurs := murmurs
    ownRows := fun _ member => nomatch member
    ownAttacks := fun _ member => nomatch member
    begun := iff_of_true rfl none
    early := fun _ => rest.2.2.2
    loads := fun _ => .inl ⟨rest.2.2.2, .inl rfl⟩ }

theorem not_begun {step : Nat} (failed : FailedLast fails step) (early : step ≤ 5) : ¬Begun host fails s params := by
  obtain ⟨last, rfl, failing, -⟩ := failed
  intro begun
  rw [begun.clean last (by omega)] at failing
  cases failing

theorem ends_createSessionMurmur (clean : Clean fails 1) (session : Free s params) :
    Ends host fails (createSessionMurmur host (newSession s params)) { server := withSession s params, step := 1 }
      (fun value a' => value = newSession s params ∧ a' = { server := withMurmur host s params, step := 4 } ∧
        Clean fails a'.step ∧ Unused host s params ∧
          ∀ row ∈ s.db.murmurs, row.sessionId ≠ (newSession s params).sessionId)
      (Rejected host fails s params) := by
  let murmur := newMurmur host s params
  let stored : Alone := { server := withMurmur host s params, step := 2 }
  apply ends_mapRej
  apply ends_map
  apply ends_mapRej
  apply ends_chain (M := fun _ a' => a' = stored ∧ Clean fails 2 ∧ Unused host s params ∧
    ∀ row ∈ s.db.murmurs, row.sessionId ≠ (newSession s params).sessionId)
  · apply ends_step rfl
    · intro failed message
      exact rejected_early _ (not_begun (failedLast_of_clean clean failed) (by omega)) (.inl rfl)
    · intro works
      by_cases conflict : ((withSession s params).db.murmurs.any fun row => row.murmurId = murmur.murmurId ∨
          row.sessionId = murmur.sessionId ∨ row.recDir = murmur.recDir ∨ row.grpcPort = murmur.grpcPort ∨
          row.murmurPort = murmur.murmurPort) = true
      · have result : perform host false (.insertMurmur (resolveMurmur host (newSession s params).sessionId
            (newSession s params).grpcPort (newSession s params).murmurPort)) (withSession s params) =
            (.error (.error "SQLITE_CONSTRAINT: UNIQUE constraint failed"), withSession s params) := by
          change statement false _ ((withSession s params).db.insertMurmur murmur) = _
          unfold Database.insertMurmur
          rw [if_pos conflict]
          rfl
        rw [result]
        refine rejected_early _ (fun begun => ?_) (.inl rfl)
        obtain ⟨row, member, clash⟩ := List.any_eq_true.mp conflict
        have apart := begun.unused.murmur row member
        simp only [decide_eq_true_eq] at clash
        rcases clash with same | same | same | same | same
        · exact apart.1 same
        · exact begun.murmurs row member same
        · exact apart.2.1 same
        · exact apart.2.2.1 same
        · exact apart.2.2.2 same
      · have result : perform host false (.insertMurmur (resolveMurmur host (newSession s params).sessionId
            (newSession s params).grpcPort (newSession s params).murmurPort)) (withSession s params) =
            (.ok (), withMurmur host s params) := by
          change statement false _ ((withSession s params).db.insertMurmur murmur) = _
          unfold Database.insertMurmur
          rw [if_neg conflict]
          rfl
        rw [result]
        have apart : ∀ row ∈ s.db.murmurs, row.murmurId ≠ murmur.murmurId ∧ row.sessionId ≠ murmur.sessionId ∧
            row.recDir ≠ murmur.recDir ∧ row.grpcPort ≠ murmur.grpcPort ∧ row.murmurPort ≠ murmur.murmurPort := by
          intro row member
          have others := List.any_eq_false.mp (Bool.not_eq_true _ ▸ conflict) row member
          simpa only [decide_eq_true_eq, not_or] using others
        refine ⟨rfl, clean.succ works, ⟨session, fun row member => ?_⟩, fun row member => (apart row member).2.1⟩
        obtain ⟨id, -, rest⟩ := apart row member
        exact ⟨id, rest⟩
  · rintro _ _ ⟨rfl, clean', unused⟩
    apply ends_chain (M := fun _ a' => a' = { stored with step := 3 } ∧ Clean fails 3)
    · apply ends_step_ok rfl (S := stored.server) rfl
      · intro failed message
        exact rejected_early _ (not_begun (failedLast_of_clean clean' failed) (by decide)) (.inr rfl)
      · intro works
        exact ⟨rfl, clean'.succ works⟩
    · rintro _ _ ⟨rfl, clean''⟩
      apply ends_map
      apply ends_step_ok rfl (S := stored.server) rfl
      · intro failed message
        exact rejected_early _ (not_begun (failedLast_of_clean clean'' failed) (by decide)) (.inr rfl)
      · intro works
        exact ⟨rfl, rfl, clean''.succ works, unused⟩

/-! Games with rows. -/

/-- Setting a session up reads the tables only. -/
def reads : Op → Bool
  | .selectSessions | .selectMurmurs _ | .selectGames _ | .selectAttacks | .docker _ | .mkdirSync _ => true
  | .initGameRows _ | .chainGames _ _ | .onRound _ _ => true
  | _ => false

theorem reads_db {op : Op} (reading : reads op = true) (failing : Bool) (server : Server) :
    (perform host failing op server).2.db = server.db := by
  cases op with
  | initGameRows rows =>
    change (initGameRows host rows server).2.db = server.db
    rw [(initGameRows_loads host rows server).frame]
  | chainGames sessionId games =>
    change (chainGames server sessionId games).db = server.db
    rw [chainGames_frame]
  | onRound attack grpcPort =>
    change (onRound server attack grpcPort).db = server.db
    rw [onRound_frame]
  | selectSessions | selectMurmurs _ | selectGames _ | selectAttacks | docker _ | mkdirSync _ => cases failing <;> rfl
  | _ => cases reading

theorem reads_setUp (session : Session) : Within (fun op => reads op = true)
    ((doGames session).chain fun _ => (doAttacks session).chain fun _ => doMurmur session) := by
  have games : Within (fun op => reads op = true) (doGames session) := by
    refine Within.chain (Within.call rfl) fun rows => Within.chain (Within.call rfl) fun games => Within.call rfl
  have attack : ∀ attack, Within (fun op => reads op = true) (scheduleAttack attack) := by
    intro attack
    refine Within.chain (Within.call rfl) fun sessions => ?_
    split
    · trivial
    · exact Within.map _ (Within.call rfl)
  have attacks : Within (fun op => reads op = true) (doAttacks session) := by
    refine Within.chain (Within.call rfl) fun attacks => Within.parallel fun future member => ?_
    obtain ⟨scheduled, -, rfl⟩ := List.mem_map.mp member
    exact attack scheduled
  have found : Within (fun op => reads op = true) (getMurmurBySessionId session.sessionId) := by
    refine Within.chain (Within.call rfl) fun murmurs => ?_
    split <;> trivial
  have murmur : Within (fun op => reads op = true) (doMurmur session) :=
    found.chain fun _ => Within.chain (Within.call rfl) fun _ => Within.map _ (Within.call rfl)
  exact games.chain fun _ => attacks.chain fun _ => murmur

/-- Whatever rows were left over, a session that cannot be set up leaves the tables alone. -/
theorem ends_setUp (session : Session) (a : Alone) :
    Ends host fails (initSession session) a (fun _ _ => True) fun error a' =>
      (∃ message, error = .sessionError session message) ∧ a'.server.db = a.server.db := by
  let same (server : Server) : Prop := server.db = a.server.db
  have kept : Ends host fails _ a (fun _ a' => same a'.server) fun _ a' => same a'.server :=
    ends_within (fun failing op server reading held => (reads_db reading failing server).trans held) (reads_setUp session) rfl
  apply ends_map
  apply ends_mapRej
  exact ends_weaken kept (fun _ _ _ => trivial) fun error _ held => ⟨⟨error.message, rfl⟩, held⟩

section
variable (newIds : NewIds s 4) (unused : Unused host s params)
variable (murmurs : ∀ row ∈ s.db.murmurs, row.sessionId ≠ (newSession s params).sessionId)

/-- The games of the new session, with the ids that are drawn for them. -/
def newEntries (s : Server) (params : CreateSessionParams) : List Entry :=
  planEntries (sessionPlan (newSession s params)) s.uuids

def newRows (s : Server) (params : CreateSessionParams) : List GameRow :=
  (newEntries s params).map (rowOf (newSession s params).sessionId)

def withGames (host : Host) (s : Server) (params : CreateSessionParams) (planned : List Attack) : Server :=
  inserting (drawn (withMurmur host s params) 4) (newRows s params) planned

theorem newEntries_ids {entry : Entry} (member : entry ∈ newEntries s params) :
    ∃ index < 4, entry.1.2 = s.uuids index := planEntries_uuids member

theorem newRows_full : newRows s params ≠ [] := by
  intro empty
  have length := congrArg List.length empty
  simp [newRows, newEntries, planEntries, sessionPlan] at length

include unused murmurs

/-- A step has failed while rows were inserted. -/
theorem abandoned_torn {a : Alone} {rows : List GameRow} {planned : List Attack}
    (torn : Torn fails (drawn (withMurmur host s params) 4) (newSession s params).sessionId (newEntries s params) 4 a rows
      planned) : Abandoned host fails s params rows planned a.server := by
  have within := torn.within
  rw [show stepsOf (newEntries s params) = 10 from sessionPlan_steps (newSession s params) s.uuids] at within
  have first : rows = [] ↔ a.step = 5 := torn.first
  have later : 4 < a.step := torn.later
  have begun : rows = [] ↔ ¬Begun host fails s params := by
    obtain ⟨last, step, -, clean⟩ := torn.failed
    rw [first]
    constructor
    · exact fun early => not_begun torn.failed (by omega)
    · intro none
      by_contra late
      exact none ⟨unused, murmurs, clean.mono (by omega)⟩
  have half : rows = [] ∨ HalfDone host fails s params := by
    by_cases empty : rows = []
    · exact .inl empty
    · rw [first] at empty
      exact .inr ((halfDone_iff unused torn.failed).mpr ⟨by omega, by omega⟩)
  have memGames : a.server.memGames = s.memGames := by rw [torn.server]; rfl
  exact {
    sessions := by rw [torn.server]; rfl
    games := by rw [torn.server]; rfl
    attacks := by rw [torn.server]; rfl
    murmurs := .inr (by rw [torn.server]; rfl)
    ownRows := by
      intro row member
      obtain ⟨own, among⟩ := torn.games row member
      obtain ⟨entry, present, same⟩ := List.mem_map.mp among
      obtain ⟨index, below, drawn⟩ := newEntries_ids present
      exact ⟨own, index, below, same.symm.trans drawn⟩
    ownAttacks := torn.attacks
    begun := begun
    early := fun _ => memGames
    loads := fun _ => .inl ⟨memGames, half⟩ }

/-- All rows are there. -/
theorem abandoned_whole {server : Server} {planned : List Attack} (clean : Clean fails 5)
    (own : ∀ attack ∈ planned, attack.sessionId = (newSession s params).sessionId)
    (db : server.db = (withGames host s params planned).db)
    (loads : Unreferenced s params → Loads host fails s params (newRows s params) server.memGames) :
    Abandoned host fails s params (newRows s params) planned server where
  sessions := by rw [db]; rfl
  games := by rw [db]; rfl
  attacks := by rw [db]; rfl
  murmurs := .inr (by rw [db]; rfl)
  ownRows := by
    intro row member
    obtain ⟨entry, present, rfl⟩ := List.mem_map.mp member
    obtain ⟨index, below, drawn⟩ := newEntries_ids present
    exact ⟨rfl, index, below, drawn⟩
  ownAttacks := own
  begun := iff_of_false newRows_full (not_not_intro ⟨unused, murmurs, clean⟩)
  early := fun empty => absurd empty newRows_full
  loads := loads

omit unused murmurs
include newIds

/-- Where no rows were left over, the new ones are all that is loaded. -/
theorem loadable_new (unreferenced : Unreferenced s params) (planned : List Attack) :
    Loadable host (withGames host s params planned) (newSession s params)
      (bornGames host (withGames host s params planned).heap.length (newEntries s params)) := by
  have none : (withMurmur host s params).db.selectGames (newSession s params).sessionId = [] := by
    unfold Database.selectGames
    rw [List.filter_eq_nil_iff]
    intro row member
    simpa using unreferenced.games row member
  have before : Unplayed (withMurmur host s params) (newSession s params).sessionId [] := {
    rows := none
    playable := by simp
    distinct := List.nodup_nil
    unknown := by simp }
  have distinct : ((newEntries s params).map (·.1.2)).Nodup := by
    unfold newEntries
    rw [planEntries_ids]
    exact newIds.distinct
  have unplayed : Unplayed (withGames host s params planned) (newSession s params).sessionId (newEntries s params) := by
    apply before.inserting (planEntries_playable (sessionPlan_playable _) _) distinct
    · intro entry member
      obtain ⟨index, below, drawn⟩ := newEntries_ids member
      rw [drawn]
      exact newIds.games index below
    · intro entry member
      obtain ⟨index, below, drawn⟩ := newEntries_ids member
      rw [drawn]
      exact newIds.memGames index below
  have listed : (withGames host s params planned).db.sessions.find? (·.sessionId = (newSession s params).sessionId) =
      some (newSession s params) := find_newSession rfl
  have murmur : (withGames host s params planned).db.selectMurmurs (newSession s params).sessionId ≠ [] := by
    apply List.ne_nil_of_mem (a := newMurmur host s params)
    apply List.mem_filter.mpr
    refine ⟨List.mem_append_right _ (List.mem_singleton_self _), ?_⟩
    simp [newMurmur, resolveMurmur]
  exact unplayed.loadable host (List.Perm.refl _)
    (sorted_unique (List.Perm.of_eq unplayed.rows) (planEntries_ordered _ _)) listed murmur

include unused murmurs

theorem ends_initGames {a : Alone} {planned : List Attack} (clean : Clean fails a.step) (step : a.step = 14)
    (server : a.server = withGames host s params planned)
    (own : ∀ attack ∈ planned, attack.sessionId = (newSession s params).sessionId) :
    Ends host fails (initSession (newSession s params)) a (fun _ _ => True) (Rejected host fails s params) := by
  have early : Clean fails 5 := clean.mono (by omega)
  by_cases unreferenced : Unreferenced s params
  · have loadable := @loadable_new host s params newIds unreferenced planned
    rw [← server] at loadable
    refine ends_weaken (ends_initSession clean loadable) (fun _ _ _ => trivial) ?_
    rintro error a' ⟨⟨message, rfl⟩, failed, later, db, memGames⟩
    rw [server] at db
    refine ⟨message, _, planned, rfl, abandoned_whole unused murmurs early own db fun _ => ?_⟩
    have known : a.server.memGames = s.memGames := by rw [server]; rfl
    rcases memGames with ⟨first, kept⟩ | ⟨after, games⟩
    · exact .inl ⟨kept.trans known, .inr ((halfDone_iff unused failed).mpr ⟨by omega, by omega⟩)⟩
    · rw [loaded, bornGames_ids, known] at games
      refine .inr ⟨fun half => ?_, refsOf a.server.heap.length ((newEntries s params).map (·.1.2)), games, ?_⟩
      · have bounds := (halfDone_iff unused failed).mp half
        omega
      · rw [refsOf_gameIds, newRows, List.map_map]
        rfl
  · refine ends_weaken (ends_setUp (newSession s params) a) (fun _ _ _ => trivial) ?_
    rintro error a' ⟨⟨message, rfl⟩, db⟩
    rw [server] at db
    exact ⟨message, _, planned, rfl,
      abandoned_whole unused murmurs early own db fun nothing => absurd nothing unreferenced⟩

theorem ends_gamesAndInit (clean : Clean fails 4) :
    Ends host fails ((createSessionGames host (newSession s params)).chain initSession)
      { server := withMurmur host s params, step := 4 } (fun _ _ => True) (Rejected host fails s params) := by
  have newIds' : NewIds (withMurmur host s params) 4 :=
    ⟨newIds.distinct, newIds.games, newIds.attacks, newIds.memGames⟩
  rw [createSessionGames_eq]
  apply ends_chain (M := fun value a' => value = newSession s params ∧ ∃ planned,
    planned.map forgetId = (newEntries s params).flatMap (attacksOf host (newSession s params).sessionId) ∧
    a'.server = withGames host s params planned ∧ a'.step = 14 ∧ Clean fails a'.step)
  · apply ends_mapRej
    refine ends_weaken (ends_createPlan clean (sessionPlan_playable (newSession s params)) newIds') ?_ ?_
    · rintro value a' ⟨same, planned, forgotten, server, step, clean'⟩
      refine ⟨same, planned, forgotten, server, ?_, clean'⟩
      rw [step]
      exact congrArg (4 + ·) (sessionPlan_steps (newSession s params) s.uuids)
    · rintro error a' ⟨rows, planned, torn⟩
      exact ⟨error.message, rows, planned, rfl, abandoned_torn unused murmurs torn⟩
  · rintro _ a' ⟨rfl, planned, forgotten, server, step, clean'⟩
    refine ends_initGames newIds unused murmurs clean' step server fun attack member => ?_
    have known := List.mem_map_of_mem (f := forgetId) member
    rw [forgotten, List.mem_flatMap] at known
    obtain ⟨entry, _, listed⟩ := known
    obtain ⟨solved, _, same⟩ := List.mem_map.mp listed
    exact (congrArg NewAttack.sessionId same).symm

end

theorem ends_attempt (newIds : NewIds s 4) :
    Ends host fails (attempt host params) { server := s } (fun _ _ => True) fun error a' =>
      a'.server = s ∧ (∀ session message, error ≠ .sessionError session message) ∧ ¬Inserted fails s params ∨
        Inserted fails s params ∧ Rejected host fails s params error a' := by
  apply ends_chain (ends_weaken ends_insertSession (fun _ _ held => held) fun _ _ => .inl)
  rintro _ _ ⟨rfl, rfl, clean, inserted⟩
  apply ends_chain (ends_weaken (ends_createSessionMurmur clean inserted.2) (fun _ _ held => held) fun _ _ held =>
    .inr ⟨inserted, held⟩)
  rintro _ _ ⟨rfl, rfl, clean', unused, murmurs⟩
  exact ends_weaken (ends_gamesAndInit newIds unused murmurs clean') (fun _ _ held => held) fun _ _ held =>
    .inr ⟨inserted, held⟩

/-! The removal of what is left. -/

theorem rollback_cleaned {a : Alone} {session : Session} (formed : Formed a.server) (steady : Steady fails a.step)
    (found : a.server.db.sessions.find? (·.sessionId = session.sessionId) = some session) (message : String) :
    ∃ after, alone host fails (rollback (.sessionError session message)) a =
      (.error (.sessionError session message), after) ∧ Cleaned a.server session.sessionId after.server := by
  obtain ⟨server, removed, cleaned⟩ := @removal_cleaned host _ formed _ _ found
  have same := @alone_steady host fails _ a steady (removeSession session.sessionId)
  obtain ⟨resolved, leaves⟩ := Prod.mk.inj (same.symm.trans removed)
  refine ⟨(alone host fails (removeSession session.sessionId) a).2, ?_, by rw [leaves]; exact cleaned⟩
  have pair : alone host fails (removeSession session.sessionId) a =
      (.ok session, (alone host fails (removeSession session.sessionId) a).2) := Prod.ext resolved rfl
  unfold alone at pair
  exact run_chain_ok _ pair

theorem filter_own {α : Type} {key : α → Nat} {id : Nat} (old : List α) {new : List α}
    (own : ∀ row ∈ new, key row = id) :
    (old ++ new).filter (fun row => decide (key row ≠ id)) = old.filter fun row => decide (key row ≠ id) := by
  have none : new.filter (fun row => decide (key row ≠ id)) = [] := by
    rw [List.filter_eq_nil_iff]
    intro row member
    simpa using own row member
  rw [List.filter_append, none, List.append_nil]

theorem filter_back_iff {α : Type} {key : α → Nat} {id : Nat} (items : List α) :
    items.filter (fun row => decide (key row ≠ id)) = items ↔ ∀ row ∈ items, key row ≠ id := by
  rw [List.filter_eq_self]
  simp

section
variable {rows : List GameRow} {planned : List Attack} {server after : Server}
variable (abandoned : Abandoned host fails s params rows planned server) (newIds : NewIds s 4)
variable (cleaned : Cleaned server (newSession s params).sessionId after)

include abandoned

theorem mem_ownIds_abandoned {gameId : String} : gameId ∈ ownIds server.db (newSession s params).sessionId ↔
    (∃ row ∈ s.db.games, row.sessionId = (newSession s params).sessionId ∧ row.gameId = gameId) ∨
      gameId ∈ rows.map (·.gameId) := by
  rw [mem_ownIds, abandoned.games, List.mem_map]
  constructor
  · rintro ⟨row, member, own, same⟩
    rcases List.mem_append.mp member with old | new
    · exact .inl ⟨row, old, own, same⟩
    · exact .inr ⟨row, new, same⟩
  · rintro (⟨row, old, own, same⟩ | ⟨row, new, same⟩)
    · exact ⟨row, List.mem_append_left _ old, own, same⟩
    · exact ⟨row, List.mem_append_right _ new, (abandoned.ownRows row new).1, same⟩

/-- Without leftover rows the ids are those of the new rows. -/
theorem mem_ownIds_new (unreferenced : Unreferenced s params) {gameId : String} :
    gameId ∈ ownIds server.db (newSession s params).sessionId ↔ gameId ∈ rows.map (·.gameId) := by
  rw [mem_ownIds_abandoned abandoned]
  exact or_iff_right fun ⟨row, old, own, _⟩ => unreferenced.games row old own

include newIds

/-- The removal finds the games unless they have rows and are not in memory. -/
theorem known_iff (unreferenced : Unreferenced s params) :
    Known server (newSession s params).sessionId ↔ ¬HalfDone host fails s params := by
  rcases abandoned.loads unreferenced with ⟨same, early⟩ | ⟨whole, refs, same, ids⟩
  · by_cases empty : rows = []
    · refine iff_of_true (fun gameId own => ?_) fun half =>
        abandoned.begun.mp empty (begun_of_halfDone unreferenced.murmurs half)
      rw [mem_ownIds_new abandoned unreferenced, empty] at own
      cases own
    · refine iff_of_false (fun known => ?_) (not_not_intro (early.resolve_left empty))
      obtain ⟨row, member⟩ := List.exists_mem_of_ne_nil rows empty
      obtain ⟨ref, present, equal⟩ := known row.gameId
        ((mem_ownIds_new abandoned unreferenced).mpr (List.mem_map_of_mem member))
      obtain ⟨_, index, below, drawn⟩ := abandoned.ownRows row member
      rw [same] at present
      exact newIds.memGames index below ref present (equal.trans drawn)
  · refine iff_of_true (fun gameId own => ?_) whole
    rw [mem_ownIds_new abandoned unreferenced, ← ids] at own
    obtain ⟨ref, member, equal⟩ := List.mem_map.mp own
    refine ⟨ref, ?_, equal⟩
    rw [same]
    exact List.mem_append_right _ member

/-- The games that are removed are the new ones. -/
theorem memGames_back (unreferenced : Unreferenced s params) :
    server.memGames.filter (fun ref => decide (ref.gameId ∉ ownIds server.db (newSession s params).sessionId)) =
      s.memGames := by
  simp only [mem_ownIds_new abandoned unreferenced]
  have old : s.memGames.filter (fun ref => decide (ref.gameId ∉ rows.map (·.gameId))) = s.memGames := by
    rw [List.filter_eq_self]
    intro ref member
    have absent : ref.gameId ∉ rows.map (·.gameId) := by
      intro listed
      obtain ⟨row, new, same⟩ := List.mem_map.mp listed
      obtain ⟨_, index, below, drawn⟩ := abandoned.ownRows row new
      exact newIds.memGames index below ref member (same.symm.trans drawn)
    simpa using absent
  rcases abandoned.loads unreferenced with ⟨same, _⟩ | ⟨_, refs, same, ids⟩
  · rw [same, old]
  · have new : refs.filter (fun ref => decide (ref.gameId ∉ rows.map (·.gameId))) = [] := by
      rw [List.filter_eq_nil_iff]
      intro ref member
      have listed : ref.gameId ∈ rows.map (·.gameId) := by
        rw [← ids]
        exact List.mem_map_of_mem member
      simpa using listed
    rw [same, List.filter_append, old, new, List.append_nil]

include cleaned

theorem unreferenced_back (unreferenced : Unreferenced s params) :
    (after.db.games = s.db.games ∧ after.memGames = s.memGames) ↔ ¬HalfDone host fails s params := by
  have finds := known_iff abandoned newIds unreferenced
  rcases cleaned.games with ⟨known, games, memGames⟩ | ⟨unknown, games, memGames⟩
  · have whole := finds.mp known
    refine iff_of_true ⟨?_, ?_⟩ whole
    · rw [games, abandoned.games, filter_own _ fun row member => (abandoned.ownRows row member).1]
      exact (filter_back_iff _).mpr unreferenced.games
    · rw [memGames]
      exact memGames_back abandoned newIds unreferenced
  · refine iff_of_false (fun ⟨same, _⟩ => unknown fun gameId own => ?_) fun whole => unknown (finds.mpr whole)
    rw [games, abandoned.games] at same
    rw [mem_ownIds_new abandoned unreferenced, List.append_right_eq_self.mp same] at own
    cases own

omit newIds

theorem leftover_back (leftover : ∃ row ∈ s.db.games, row.sessionId = (newSession s params).sessionId) :
    (after.db.games = s.db.games ∧ after.memGames = s.memGames) ↔
      (∃ row ∈ s.db.games, row.sessionId = (newSession s params).sessionId ∧ ¬Registered s.memGames row.gameId) ∧
        ¬Begun host fails s params := by
  rcases cleaned.games with ⟨known, games, memGames⟩ | ⟨unknown, games, memGames⟩
  · refine iff_of_false (fun ⟨same, _⟩ => ?_) fun ⟨⟨row, member, own, missing⟩, unbegun⟩ => ?_
    · obtain ⟨row, member, own⟩ := leftover
      rw [games, abandoned.games, filter_own _ fun row member => (abandoned.ownRows row member).1] at same
      exact (filter_back_iff _).mp same row member own
    · have found := known row.gameId ((mem_ownIds_abandoned abandoned).mpr (.inl ⟨row, member, own, rfl⟩))
      rw [abandoned.early (abandoned.begun.mpr unbegun)] at found
      exact missing found
  · have back : (after.db.games = s.db.games ∧ after.memGames = s.memGames) ↔ rows = [] := by
      rw [games, memGames, abandoned.games]
      exact ⟨fun same => List.append_right_eq_self.mp same.1, fun empty =>
        ⟨by rw [empty, List.append_nil], abandoned.early empty⟩⟩
    rw [back, abandoned.begun]
    refine ⟨fun unbegun => ⟨?_, unbegun⟩, And.right⟩
    have empty := abandoned.begun.mpr unbegun
    by_contra all
    refine unknown fun gameId own => ?_
    rw [mem_ownIds_abandoned abandoned, empty] at own
    rcases own with ⟨row, member, own, rfl⟩ | new
    · rw [abandoned.early empty]
      by_contra missing
      exact all ⟨row, member, own, missing⟩
    · cases new

include newIds

/-- What the rollback has left is what was there exactly when nothing else was taken, and all that was added. -/
theorem unchanged_cleaned (inserted : Inserted fails s params) :
    Unchanged s after ↔ TakenBack host fails s params := by
  have sessions : after.db.sessions = s.db.sessions := by
    rw [cleaned.sessions, abandoned.sessions, filter_own _ (by simp)]
    exact (filter_back_iff _).mpr (newSession_fresh s params)
  have attacks : after.db.attacks = s.db.attacks ↔
      ∀ row ∈ s.db.attacks, row.sessionId ≠ (newSession s params).sessionId := by
    rw [cleaned.attacks, abandoned.attacks, filter_own _ abandoned.ownAttacks]
    exact filter_back_iff _
  have murmurs : after.db.murmurs = s.db.murmurs ↔
      ∀ row ∈ s.db.murmurs, row.sessionId ≠ (newSession s params).sessionId := by
    rw [cleaned.murmurs]
    rcases abandoned.murmurs with same | same
    · rw [same]
      exact filter_back_iff _
    · rw [same, filter_own _ (by simp [newMurmur, resolveMurmur])]
      exact filter_back_iff _
  have parts : Unchanged s after ↔ after.db.attacks = s.db.attacks ∧ after.db.murmurs = s.db.murmurs ∧
      after.db.games = s.db.games ∧ after.memGames = s.memGames := by
    constructor
    · rintro ⟨db, memGames⟩
      exact ⟨by rw [db], by rw [db], by rw [db], memGames⟩
    · rintro ⟨attacks, murmurs, games, memGames⟩
      exact ⟨Database.ext sessions games attacks murmurs, memGames⟩
  rw [parts, attacks, murmurs]
  unfold TakenBack
  rw [or_iff_right (not_not_intro inserted)]
  refine and_congr_right fun noAttacks => and_congr_right fun noMurmurs => ?_
  by_cases leftover : ∃ row ∈ s.db.games, row.sessionId = (newSession s params).sessionId
  · rw [leftover_back abandoned cleaned leftover, or_iff_right]
    rintro ⟨none, _⟩
    obtain ⟨row, member, own⟩ := leftover
    exact none row member own
  · have none : ∀ row ∈ s.db.games, row.sessionId ≠ (newSession s params).sessionId := fun row member own =>
      leftover ⟨row, member, own⟩
    rw [unreferenced_back abandoned newIds cleaned ⟨none, noAttacks, noMurmurs⟩, or_iff_left, and_iff_right none]
    rintro ⟨⟨row, member, own, _⟩, _⟩
    exact none row member own

end

theorem unchanged_of_formed (formed : Formed s) (newIds : NewIds s 4) {error : Failure} {after : Alone}
    (rejected : alone host fails (createSession host params) { server := s } = (.error error, after))
    (compensated : Steady fails (alone host fails (attempt host params) { server := s }).2.step) :
    Unchanged s after.server ↔ TakenBack host fails s params := by
  have every : Within (fun _ => True) (attempt host params) := Within.of_all (fun _ => trivial) _
  have kept : Ends host fails (attempt host params) { server := s } (fun _ a' => Formed a'.server) fun _ a' =>
      Formed a'.server :=
    ends_within (fun failing op server _ formed => formed_moved (.operation host failing op) formed) every formed
  cases result : alone host fails (attempt host params) { server := s } with
  | mk outcome a =>
    rw [result] at compensated
    rw [createSession_eq] at rejected
    cases outcome with
    | ok value =>
      rw [alone_chainRej_ok result] at rejected
      cases rejected
    | error cause =>
      rw [alone_chainRej_error result] at rejected
      rcases ends_rejected (ends_attempt newIds) result with
        ⟨server, other, missing⟩ | ⟨inserted, message, rows, planned, rfl, abandoned⟩
      · have passed : alone host fails (rollback cause) a = (.error cause, a) := by
          cases cause with
          | sessionError session message => exact absurd rfl (other session message)
          | error message => rfl
          | createMurmurError message => rfl
        rw [passed] at rejected
        cases rejected
        rw [server]
        exact iff_of_true ⟨rfl, rfl⟩ (.inl missing)
      · have listed : a.server.db.sessions.find? (·.sessionId = (newSession s params).sessionId) =
            some (newSession s params) := find_newSession abandoned.sessions
        obtain ⟨left, rolledBack, cleaned⟩ :=
          @rollback_cleaned host fails a _ (ends_rejected kept result) compensated listed message
        rw [rolledBack] at rejected
        cases rejected
        exact unchanged_cleaned abandoned newIds cleaned inserted

end

/-- From every state the server can reach: a rejected create, whose compensation works, has changed nothing exactly when
the removal takes back what it has done. -/
theorem unchanged_iff {host : Host} {uuids : Nat → String} {clock : Nat → Nat → Nat} {events : List Lifetimes.Event}
    {fails : Nat → Bool} {params : CreateSessionParams} {error : Failure} {after : Alone}
    (newIds : NewIds (reached host uuids clock events).process.server 4)
    (rejected : alone host fails (createSession host params) { server := (reached host uuids clock events).process.server } =
      (.error error, after))
    (compensated : Steady fails
      (alone host fails (attempt host params) { server := (reached host uuids clock events).process.server }).2.step) :
    Unchanged (reached host uuids clock events).process.server after.server ↔
      TakenBack host fails (reached host uuids clock events).process.server params :=
  unchanged_of_formed (formed_reached host uuids clock events) newIds rejected compensated

/-! A first session on an empty server. -/

def sampleParams : CreateSessionParams where
  blueParticipant := "pete"
  redParticipant := "kate"
  grpcPort := 50051
  murmurPort := 64738

def sampleHost : Host where
  cwd := "/srv/dfs"
  dirname := "/srv/dfs/lib"
  DFS_REC_DIR := "rec"
  numberToString value := toString value.num
  clock _ reading := reading
  gameRows rows := rows
  gameRows_perm rows := List.Perm.refl rows
  attackRows rows := rows
  attackRows_perm rows := List.Perm.refl rows

def sampleServer : Server where
  uuids index := ["a", "b", "c", "d"].getD index ""

theorem sample_newIds : NewIds sampleServer 4 where
  distinct := by decide
  games _ _ _ member := nomatch member
  attacks _ _ _ member := nomatch member
  memGames _ _ _ member := nomatch member

/-- The first step after the games have been loaded fails, and the session is removed in full. -/
theorem unchanged_iff_sample :
    Unchanged sampleServer
      (alone sampleHost (· == 15) (createSession sampleHost sampleParams) { server := sampleServer }).2.server := by
  have rejected : ∃ error, alone sampleHost (· == 15) (createSession sampleHost sampleParams) { server := sampleServer } =
      (.error error,
        (alone sampleHost (· == 15) (createSession sampleHost sampleParams) { server := sampleServer }).2) :=
    ⟨_, Prod.ext rfl rfl⟩
  obtain ⟨error, rejected⟩ := rejected
  have compensated : Steady (· == 15)
      (alone sampleHost (· == 15) (attempt sampleHost sampleParams) { server := sampleServer }).2.step := by
    have step : (alone sampleHost (· == 15) (attempt sampleHost sampleParams) { server := sampleServer }).2.step = 16 :=
      rfl
    rw [step]
    intro later above
    simp only [beq_eq_false_iff_ne]
    omega
  have whole : ¬HalfDone sampleHost (· == 15) sampleServer sampleParams := by
    rintro ⟨_, step, between, failing, _⟩
    have place : step = 15 := by simpa using failing
    unfold BetweenRowsAndMemory at between
    omega
  have first := @unchanged_iff sampleHost sampleServer.uuids (fun _ reading => reading) [] (· == 15) sampleParams error _
    sample_newIds rejected compensated
  exact first.mpr (.inr ⟨fun _ member => (nomatch member), fun _ member => (nomatch member),
    .inl ⟨fun _ member => (nomatch member), whole⟩⟩)

/-- The row of the second game cannot be inserted, and the row of the first one stays. -/
theorem firstGame_left :
    Steady (· == 5) (alone sampleHost (· == 5) (attempt sampleHost sampleParams) { server := sampleServer }).2.step ∧
      (∃ error after,
        alone sampleHost (· == 5) (createSession sampleHost sampleParams) { server := sampleServer } =
          (.error error, after) ∧ ¬Unchanged sampleServer after.server) := by
  have step : (alone sampleHost (· == 5) (attempt sampleHost sampleParams) { server := sampleServer }).2.step = 6 := rfl
  constructor
  · rw [step]
    intro later above
    simp only [beq_eq_false_iff_ne]
    omega
  · refine ⟨_, (alone sampleHost (· == 5) (createSession sampleHost sampleParams) { server := sampleServer }).2,
      Prod.ext rfl rfl, ?_⟩
    intro unchanged
    have left : ((alone sampleHost (· == 5) (createSession sampleHost sampleParams)
        { server := sampleServer }).2.server.db.games.map (·.gameId)) = ["a"] := rfl
    rw [unchanged.1] at left
    cases left

end DfStudy.CreateAtomicity
