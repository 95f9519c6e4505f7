import DfStudy.GameRestart
import DfStudy.Undisturbed
import Mathlib.Algebra.Ring.Nat

/-! How the rows of a session's games and attacks come into the tables, and which of them are there when
a step in between fails. -/

namespace DfStudy.SessionCreation
open Attacks Rounds Games Tables Servers Sessions Undisturbed GameRestart Support.Futures Future

/-- A game of a plan with its id and its place. -/
abbrev Entry := (GamePlan × String) × Nat

def roundsOf (schedule : List RoundData) : List Round :=
  match schedule.mapM createRound with
  | .ok rounds => rounds
  | .error _ => []

/-- The schedule consists of valid button rounds. -/
def Playable (game : GamePlan) : Prop := game.schedule.mapM createRound = .ok (roundsOf game.schedule)

def rowOf (sessionId : Nat) (entry : Entry) : GameRow :=
  newGameRow entry.1.2 entry.1.1.blue entry.1.1.red sessionId entry.2 (roundsOf entry.1.1.schedule) entry.1.1.isCurrent

def forgetId (attack : Attack) : NewAttack where
  sessionId := attack.sessionId
  gameId := attack.gameId
  round := attack.round
  sourceUser := attack.sourceUser
  targetUser := attack.targetUser
  audioPath := attack.audioPath

def newAttack (host : Host) (sessionId : Nat) (entry : Entry) (attackSolution : ℚ) (roundIndex : Nat) : NewAttack where
  sessionId := sessionId
  gameId := entry.1.2
  round := roundIndex
  sourceUser := entry.1.1.blue
  targetUser := entry.1.1.red
  audioPath := audioPath host entry.1.1.blue attackSolution

/-- The attacks inserted for one game, in the order of their rounds. -/
def attacksOf (host : Host) (sessionId : Nat) (entry : Entry) : List NewAttack :=
  (attackRounds entry.1.1.schedule).map fun (attackSolution, roundIndex) =>
    newAttack host sessionId entry attackSolution roundIndex

def inserting (s : Server) (rows : List GameRow) (attacks : List Attack) : Server :=
  { s with db := { s.db with games := s.db.games ++ rows, attacks := s.db.attacks ++ attacks } }

theorem inserting_inserting (s : Server) (rows rows' : List GameRow) (attacks attacks' : List Attack) :
    inserting (inserting s rows attacks) rows' attacks' = inserting s (rows ++ rows') (attacks ++ attacks') := by
  simp [inserting]

@[simp] theorem forgetId_row (attack : NewAttack) (attackId : Nat) : forgetId (attack.row attackId) = attack := rfl

/-- How many steps the games of a plan take. -/
def stepsOf (entries : List Entry) : Nat :=
  (entries.map fun entry => 1 + (attackRounds entry.1.1.schedule).length).sum

/-- What a failing step leaves of the games of a session. -/
structure Torn (fails : Nat → Bool) (s : Server) (sessionId : Nat) (entries : List Entry) (start : Nat)
    (a : Alone) (rows : List GameRow) (attacks : List Attack) : Prop where
  server : a.server = inserting s rows attacks
  games : ∀ row ∈ rows, row.sessionId = sessionId ∧ row.gameId ∈ entries.map (·.1.2)
  attacks : ∀ attack ∈ attacks, attack.sessionId = sessionId
  failed : FailedLast fails a.step
  first : rows = [] ↔ a.step = start + 1
  later : start < a.step
  within : a.step ≤ start + stepsOf entries

section
variable {host : Host} {fails : Nat → Bool} {sessionId : Nat}

/-- Attack rows are inserted one after the other. -/
theorem ends_insertAttacks (news : List NewAttack) (a : Alone) (clean : Clean fails a.step) :
    Ends host fails (parallel (news.map Request.insertAttack)) a
      (fun _ a' => ∃ attacks, attacks.map forgetId = news ∧
        a' = { server := inserting a.server [] attacks, step := a.step + news.length } ∧ Clean fails a'.step)
      fun _ a' => ∃ attacks, (∀ attack ∈ attacks, forgetId attack ∈ news) ∧
        a'.server = inserting a.server [] attacks ∧ FailedLast fails a'.step ∧ a.step < a'.step ∧
          a'.step ≤ a.step + news.length := by
  induction news generalizing a with
  | nil => exact ends_nil ⟨[], rfl, by simp [inserting], clean⟩
  | cons attack news ih =>
    let row := attack.row (nextRowId (a.server.db.attacks.map (·.attackId)))
    let after : Alone := { server := inserting a.server [] [row], step := a.step + 1 }
    rw [List.map_cons]
    apply ends_cons (M := fun _ a' => a' = after ∧ Clean fails after.step)
    · have result : perform host false (.insertAttack attack) a.server = (.ok row.attackId, after.server) := by
        simp [perform, statement, Database.insertAttack, after, inserting, row, NewAttack.row]
      apply ends_step_ok rfl result
      · intro failed message
        exact ⟨[], by simp, by simp [inserting], failedLast_of_clean clean failed, Nat.lt_succ_self _, by simp⟩
      · intro works
        exact ⟨rfl, clean.succ works⟩
    · rintro _ _ ⟨rfl, cleaner⟩
      refine ends_weaken (ih after cleaner) ?_ ?_
      · rintro _ _ ⟨attacks, same, rfl, clean'⟩
        refine ⟨row :: attacks, by simp [same, row], ?_, clean'⟩
        simp [after, inserting_inserting, Nat.add_assoc, Nat.add_comm 1]
      · rintro _ a' ⟨attacks, among, server, failed, later, within⟩
        refine ⟨row :: attacks, ?_, ?_, failed, ?_, ?_⟩
        · intro other member
          rcases List.mem_cons.mp member with rfl | rest
          · exact List.mem_cons_self ..
          · exact List.mem_cons_of_mem _ (among other rest)
        · rw [server, inserting_inserting]
          rfl
        · change a.step + 1 < a'.step at later
          omega
        · change a'.step ≤ a.step + 1 + news.length at within
          rw [List.length_cons]
          omega

theorem createGameAttacks_eq (host : Host) (sessionId : Nat) (entry : Entry) :
    (attackRounds entry.1.1.schedule).map (fun (attackSolution, roundIndex) =>
        createAttack host (rowOf sessionId entry) attackSolution roundIndex) =
      (attacksOf host sessionId entry).map Request.insertAttack := by
  rw [attacksOf, List.map_map]
  rfl

/-- A row as it is read back. -/
theorem rowOf_json (sessionId : Nat) (entry : Entry) :
    { rowOf sessionId entry with gameData := (rowOf sessionId entry).gameData.json } = rowOf sessionId entry := by
  have same := state_json (newGame {
    gameId := entry.1.2
    players := [entry.1.1.blue, entry.1.1.red].map createPlayer
    rounds := roundsOf entry.1.1.schedule })
  unfold rowOf newGameRow
  dsimp only
  rw [same]

/-- `createGame` for one entry of a plan. -/
def createEntry (host : Host) (sessionId : Nat) (entry : Entry) : Request GameRow :=
  createGame host entry.1.2 entry.1.1.blue entry.1.1.red sessionId entry.2 entry.1.1.schedule entry.1.1.isCurrent

theorem ends_createEntry (entry : Entry) (playable : Playable entry.1.1) (a : Alone) (clean : Clean fails a.step)
    (unused : ∀ row ∈ a.server.db.games, row.gameId ≠ entry.1.2) :
    Ends host fails (createEntry host sessionId entry) a
      (fun row a' => row = rowOf sessionId entry ∧ ∃ attacks,
        attacks.map forgetId = attacksOf host sessionId entry ∧
        a' = { server := inserting a.server [rowOf sessionId entry] attacks
               step := a.step + 1 + (attacksOf host sessionId entry).length } ∧ Clean fails a'.step)
      fun _ a' => ∃ rows attacks, Torn fails a.server sessionId [entry] a.step a' rows attacks := by
  let row := rowOf sessionId entry
  let after : Alone := { server := inserting a.server [row] [], step := a.step + 1 }
  unfold createEntry createGame
  rw [playable]
  change Ends host fails ((Request.insertGame row).chain fun _ => createGameAttacks host entry.1.1.schedule row) _ _ _
  apply ends_chain (M := fun _ a' => a' = after ∧ Clean fails after.step)
  · have free : (a.server.db.games.any (·.gameId = row.gameId)) = false := by
      rw [List.any_eq_false]
      intro other member
      have apart : ¬other.gameId = row.gameId := unused other member
      simpa using apart
    have inserted : a.server.db.insertGame row = .ok ((), { a.server.db with games := a.server.db.games ++ [row] }) := by
      rw [Database.insertGame, free, rowOf_json]
      rfl
    have result : perform host false (.insertGame row) a.server = (.ok (), after.server) := by
      change statement false a.server (a.server.db.insertGame row) = _
      rw [inserted]
      simp [statement, after, inserting]
    apply ends_step_ok rfl result
    · intro failed message
      exact ⟨[], [], by simp [inserting], by simp, by simp, failedLast_of_clean clean failed, by simp, Nat.lt_succ_self _,
        by simp [stepsOf]⟩
    · intro works
      exact ⟨rfl, clean.succ works⟩
  · rintro _ _ ⟨rfl, cleaner⟩
    unfold createGameAttacks
    change Ends host fails ((parallel ((attackRounds entry.1.1.schedule).map fun (attackSolution, roundIndex) =>
      createAttack host (rowOf sessionId entry) attackSolution roundIndex)).map fun _ => rowOf sessionId entry) _ _ _
    rw [createGameAttacks_eq]
    apply ends_map
    refine ends_weaken (ends_insertAttacks _ after cleaner) ?_ ?_
    · rintro _ _ ⟨attacks, same, rfl, clean'⟩
      refine ⟨rfl, attacks, same, ?_, clean'⟩
      simp [after, inserting_inserting, row]
    · rintro _ a' ⟨attacks, among, server, failed, later, within⟩
      refine ⟨[row], attacks, ?_, ?_, ?_, failed, ?_, ?_, ?_⟩
      · rw [server, inserting_inserting]
        rfl
      · simp [row, rowOf, newGameRow]
      · intro attack member
        obtain ⟨solved, _, same⟩ := List.mem_map.mp (among attack member)
        change (forgetId attack).sessionId = sessionId
        rw [← same]
        rfl
      · change a.step + 1 < a'.step at later
        simp only [List.cons_ne_nil, false_iff]
        omega
      · change a.step + 1 < a'.step at later
        omega
      · change a'.step ≤ a.step + 1 + (attacksOf host sessionId entry).length at within
        rw [attacksOf, List.length_map] at within
        simp only [stepsOf, List.map_cons, List.map_nil, List.sum_cons, List.sum_nil]
        omega

theorem Torn.extend {s : Server} {entry : Entry} {entries : List Entry} {start : Nat} {a : Alone}
    {first rows : List GameRow} {before attacks : List Attack} {between : Nat}
    (torn : Torn fails (inserting s first before) sessionId entries between a rows attacks)
    (games : ∀ row ∈ first, row.sessionId = sessionId ∧ row.gameId = entry.1.2) (some : first ≠ [])
    (early : ∀ attack ∈ before, attack.sessionId = sessionId)
    (steps : between = start + (1 + (attackRounds entry.1.1.schedule).length)) :
    Torn fails s sessionId (entry :: entries) start a (first ++ rows) (before ++ attacks) where
  server := by rw [torn.server, inserting_inserting]
  games := by
    intro row member
    rcases List.mem_append.mp member with old | new
    · exact ⟨(games row old).1, List.mem_cons.mpr (.inl (games row old).2)⟩
    · exact ⟨(torn.games row new).1, List.mem_cons_of_mem _ (torn.games row new).2⟩
  attacks := by
    intro attack member
    rcases List.mem_append.mp member with old | new
    · exact early attack old
    · exact torn.attacks attack new
  failed := torn.failed
  first := by
    have later := torn.later
    simp only [List.append_eq_nil_iff, some, false_and, false_iff]
    omega
  later := by
    have later := torn.later
    omega
  within := by
    have within := torn.within
    unfold stepsOf at within ⊢
    rw [List.map_cons, List.sum_cons]
    omega

/-- `createGame` for every entry, with unused and distinct ids. -/
theorem ends_createEntries (sessionId : Nat) (entries : List Entry) (playable : ∀ entry ∈ entries, Playable entry.1.1) (a : Alone)
    (clean : Clean fails a.step) (distinct : (entries.map (·.1.2)).Nodup)
    (unused : ∀ entry ∈ entries, ∀ row ∈ a.server.db.games, row.gameId ≠ entry.1.2) :
    Ends host fails (parallel (entries.map (createEntry host sessionId))) a
      (fun _ a' => ∃ attacks, attacks.map forgetId = entries.flatMap (attacksOf host sessionId) ∧
        a' = { server := inserting a.server (entries.map (rowOf sessionId)) attacks
               step := a.step + stepsOf entries } ∧ Clean fails a'.step)
      fun _ a' => ∃ rows attacks, Torn fails a.server sessionId entries a.step a' rows attacks := by
  induction entries generalizing a with
  | nil => exact ends_nil ⟨[], rfl, by simp [inserting, stepsOf], clean⟩
  | cons entry entries ih =>
    rw [List.map_cons, List.nodup_cons] at distinct
    rw [List.map_cons]
    refine ends_cons (ends_weaken (ends_createEntry entry (playable entry (List.mem_cons_self ..)) a clean
      (unused entry (List.mem_cons_self ..))) (fun _ _ held => held) ?_) ?_
    · rintro _ a' ⟨rows, attacks, torn⟩
      refine ⟨rows, attacks, torn.server, fun row member => ?_, torn.attacks, torn.failed, torn.first, torn.later, ?_⟩
      · obtain ⟨session, among⟩ := torn.games row member
        exact ⟨session, List.mem_cons.mpr (.inl (List.mem_singleton.mp among))⟩
      · have within := torn.within
        simp only [stepsOf, List.map_cons, List.map_nil, List.sum_cons, List.sum_nil] at within ⊢
        omega
    · rintro _ _ ⟨rfl, before, same, rfl, cleaner⟩
      have early : ∀ attack ∈ before, attack.sessionId = sessionId := by
        intro attack member
        have known := List.mem_map_of_mem (f := forgetId) member
        rw [same] at known
        obtain ⟨solved, _, same⟩ := List.mem_map.mp known
        exact (congrArg NewAttack.sessionId same).symm
      have still : ∀ other ∈ entries, ∀ row ∈ a.server.db.games ++ [rowOf sessionId entry], row.gameId ≠ other.1.2 := by
        intro other member row present
        rcases List.mem_append.mp present with old | new
        · exact unused other (List.mem_cons_of_mem _ member) row old
        · rw [List.mem_singleton.mp new]
          intro clash
          exact distinct.1 (List.mem_map.mpr ⟨other, member, clash.symm⟩)
      refine ends_weaken (ih (fun other member => playable other (List.mem_cons_of_mem _ member)) _ cleaner distinct.2
        still) ?_ ?_
      · rintro _ _ ⟨attacks, same', rfl, clean'⟩
        refine ⟨before ++ attacks, by rw [List.map_append, same, same', List.flatMap_cons], ?_, clean'⟩
        rw [inserting_inserting]
        simp [stepsOf, attacksOf, Nat.add_assoc]
      · rintro _ a' ⟨rows, attacks, torn⟩
        refine ⟨_, _, torn.extend ?_ (by simp) early ?_⟩
        · simp [rowOf, newGameRow]
        · simp [attacksOf, Nat.add_assoc]

theorem ends_drawIds {bad : Failure → Alone → Prop} (count : Nat) (a : Alone) :
    Ends host fails (drawIds count) a
      (fun gameIds a' => gameIds = (List.range count).map a.server.uuids ∧
        a' = { a with server := { a.server with uuids := fun drawn => a.server.uuids (drawn + count) } }) bad := by
  induction count generalizing a with
  | zero => exact ⟨rfl, rfl⟩
  | succ count ih =>
    let after : Alone := { a with server := { a.server with uuids := fun drawn => a.server.uuids (drawn + 1) } }
    apply ends_chain (M := fun gameId a' => gameId = a.server.uuids 0 ∧ a' = after)
    · exact ends_sync_ok rfl rfl ⟨rfl, rfl⟩
    · rintro _ _ ⟨rfl, rfl⟩
      apply ends_map
      refine ends_weaken (ih after) ?_ fun _ _ held => held
      rintro _ _ ⟨rfl, rfl⟩
      refine ⟨?_, ?_⟩
      · rw [List.range_succ_eq_map, List.map_cons, List.map_map]
        rfl
      · simp [after, Nat.add_assoc]

end

end DfStudy.SessionCreation
