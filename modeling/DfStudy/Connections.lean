import DfStudy.Tables
import DfStudy.Support.Futures

/-! The connections of `withDb`, and the transaction `setCurrentGame` runs on one of them. -/

namespace DfStudy.Connections
open Tables Support.Futures

/-! SQLite, as far as its connections go. -/

/-- In a transaction, a connection sees tables of its own until it commits. Once it has written to them, others have
to wait. -/
structure Connection where
  opened : Bool := true
  transaction : Option Database := none
  writing : Bool := false

structure Sqlite where
  db : Database
  /-- All that have ever been opened. -/
  connections : List Connection := []

/-- The statements of `setCurrentGame`. -/
inductive Statement where
  | begin
  | clear (sessionId : Nat)
  | set (gameId : String)
  | commit
  deriving DecidableEq

/-- A statement that fails has no effect. With some errors, SQLite ends the transaction as well. -/
inductive Outcome where
  | succeeds
  | fails (rollsBack : Bool)
  deriving DecidableEq

inductive Op where
  | open
  | run (connection : Nat) (statement : Statement)
  | close (connection : Nat)

abbrev Res : Op → Type
  | .open => Nat
  | .run _ _ => Unit
  | .close _ => Unit

def clearCurrent (db : Database) (sessionId : Nat) : Database :=
  { db with games := db.games.map fun row => if row.sessionId = sessionId then { row with isCurrent := false } else row }

def setCurrent (db : Database) (gameId : String) : Database :=
  { db with games := db.games.map fun row => if row.gameId = gameId then { row with isCurrent := true } else row }

namespace Sqlite

def modify (s : Sqlite) (connection : Nat) (change : Connection → Connection) : Sqlite :=
  { s with connections := s.connections.modify connection change }

/-- Outside a transaction, an update takes effect at once. -/
def update (s : Sqlite) (connection : Nat) (change : Database → Database) : Sqlite :=
  match (s.connections[connection]?).bind (·.transaction) with
  | some pending => s.modify connection fun c => { c with transaction := some (change pending), writing := true }
  | none => { s with db := change s.db }

def execute (s : Sqlite) (connection : Nat) : Statement → Sqlite
  | .begin => s.modify connection fun c => { c with transaction := some s.db }
  | .clear sessionId => s.update connection (clearCurrent · sessionId)
  | .set gameId => s.update connection (setCurrent · gameId)
  | .commit =>
    let db := ((s.connections[connection]?).bind (·.transaction)).getD s.db
    { s.modify connection fun c => { c with transaction := none, writing := false } with db }

/-- A write through another connection has to wait. -/
def Blocks (s : Sqlite) (connection : Nat) : Prop :=
  ∃ c, s.connections[connection]? = some c ∧ c.opened = true ∧ c.writing = true

end Sqlite

def perform (outcomes : Statement → Outcome) (op : Op) (s : Sqlite) : Except String (Res op) × Sqlite :=
  match op with
  | .open => (.ok s.connections.length, { s with connections := s.connections ++ [{}] })
  | .run connection statement =>
    match outcomes statement with
    | .succeeds => (.ok (), s.execute connection statement)
    | .fails rollsBack =>
      (.error "SQLITE_ERROR",
        if rollsBack then s.modify connection fun c => { c with transaction := none, writing := false } else s)
  -- what has not been committed is lost
  | .close connection => (.ok (), s.modify connection fun _ => { opened := false })

/-! `db.ts` and `session.ts`. -/

abbrev Query (α : Type) := Future Op Res String α

def run (connection : Nat) (query : Statement) : Query Unit := Future.call (Op.run connection query)

/-- `parallel(1)`. -/
def serialize {α : Type} (dbRuns : List (Query α)) : Query (List α) := Future.parallel dbRuns

def closeDb {α : Type} (connection : Nat) (x : α) : Query α :=
  (Future.call (Op.close connection)).map fun _ => x

def withDb {α : Type} (fn : Nat → Query α) : Query α :=
  Future.chain (Future.call Op.open) fun db => (fn db).chain (closeDb db)

def setCurrentGame (sessionId : Nat) (gameId : String) : Query (List Unit) :=
  withDb fun db => serialize [run db .begin, run db (.clear sessionId), run db (.set gameId), run db .commit]

/-! A call beside the connections there were before. -/

/-- The connection of the call is the last one. -/
def held (before : Sqlite) (db : Database) (c : Connection) : Sqlite :=
  { db, connections := before.connections ++ [c] }

theorem modify_last (connections : List Connection) (c : Connection) (change : Connection → Connection) :
    (connections ++ [c]).modify connections.length change = connections ++ [change c] := by
  induction connections with
  | nil => rfl
  | cons first rest ih => exact congrArg (first :: ·) ih

section
variable {before : Sqlite} {db : Database} {c : Connection}

theorem held_get : (held before db c).connections[before.connections.length]? = some c := by
  unfold held
  rw [List.getElem?_append_right (Nat.le_refl _), Nat.sub_self]
  rfl

theorem held_modify (change : Connection → Connection) :
    (held before db c).modify before.connections.length change = held before db (change c) :=
  congrArg (Sqlite.mk db) (modify_last before.connections c change)

theorem held_update {pending : Database} (within : c.transaction = some pending) (change : Database → Database) :
    (held before db c).update before.connections.length change =
      held before db { c with transaction := some (change pending), writing := true } := by
  unfold Sqlite.update
  rw [held_get]
  dsimp only [Option.bind_some]
  rw [within]
  exact held_modify _

theorem held_commit {pending : Database} (within : c.transaction = some pending) :
    (held before db c).execute before.connections.length .commit =
      held before pending { c with transaction := none, writing := false } := by
  unfold Sqlite.execute
  dsimp only
  rw [held_get, held_modify]
  dsimp only [Option.bind_some]
  rw [within]
  rfl

end

/-- What a statement that fails leaves of the connection. -/
def Connection.failed (c : Connection) (rollsBack : Bool) : Connection :=
  if rollsBack then { c with transaction := none, writing := false } else c

section
variable {outcomes : Statement → Outcome} {before : Sqlite} {db : Database} {c : Connection} {statement : Statement}

theorem perform_fails {rollsBack : Bool} (fails : outcomes statement = .fails rollsBack) :
    perform outcomes (.run before.connections.length statement) (held before db c) =
      (.error "SQLITE_ERROR", held before db (c.failed rollsBack)) := by
  unfold perform Connection.failed
  dsimp only
  rw [fails, held_modify]
  cases rollsBack <;> rfl

theorem perform_succeeds (succeeds : outcomes statement = .succeeds) :
    perform outcomes (.run before.connections.length statement) (held before db c) =
      (.ok (), (held before db c).execute before.connections.length statement) := by
  unfold perform
  dsimp only
  rw [succeeds]

/-- Queries that all succeed lead to a state, or one of them fails, with the tables as they were and the connection
open. -/
def Settles (outcomes : Statement → Outcome) (before : Sqlite) (queries : List Statement) (s final : Sqlite) : Prop :=
  (∀ query ∈ queries, outcomes query = .succeeds) ∧
    (∃ results, (serialize (queries.map (run before.connections.length))).run (perform outcomes) s =
      (.ok results, final)) ∨
  (¬ ∀ query ∈ queries, outcomes query = .succeeds) ∧
    ∃ error c, (serialize (queries.map (run before.connections.length))).run (perform outcomes) s =
      (.error error, held before before.db c) ∧ c.opened = true

theorem settles_nil (s : Sqlite) : Settles outcomes before [] s s :=
  Or.inl ⟨(fun _ none => nomatch none), [], rfl⟩

theorem settles_cons {queries : List Statement} {final : Sqlite} (opened : c.opened = true)
    (later : Settles outcomes before queries
      ((held before before.db c).execute before.connections.length statement) final) :
    Settles outcomes before (statement :: queries) (held before before.db c) final := by
  unfold Settles at later ⊢
  rw [List.map_cons]
  unfold serialize run at later ⊢
  rw [Future.run_parallel_cons, Future.run_call]
  cases outcome : outcomes statement with
  | fails rollsBack =>
    rw [perform_fails outcome]
    refine Or.inr ⟨?_, _, _, rfl, ?_⟩
    · intro succeed
      rw [succeed statement (List.mem_cons_self ..)] at outcome
      cases outcome
    · unfold Connection.failed
      split <;> exact opened
  | succeeds =>
    rw [perform_succeeds outcome]
    dsimp only
    rcases later with ⟨succeed, results, ran⟩ | ⟨some, error, c', ran, stays⟩
    · refine Or.inl ⟨?_, () :: results, ?_⟩
      · intro query member
        rcases List.mem_cons.mp member with rfl | member
        · exact outcome
        · exact succeed query member
      · rw [ran]
        rfl
    · refine Or.inr ⟨fun succeed => some fun query member => succeed query (List.mem_cons_of_mem _ member), error, c',
        ?_, stays⟩
      rw [ran]
      rfl

end

/-! The runs of `setCurrentGame`. -/

/-- The statements of the call. -/
def statements (sessionId : Nat) (gameId : String) : List Statement :=
  [.begin, .clear sessionId, .set gameId, .commit]

section
variable {outcomes : Statement → Outcome} {before : Sqlite} {sessionId : Nat} {gameId : String}

/-- What the transaction comes to. -/
theorem settles_statements : Settles outcomes before (statements sessionId gameId) (held before before.db {})
    (held before (before.db.setCurrentGame sessionId gameId) {}) := by
  unfold statements
  apply settles_cons rfl
  rw [Sqlite.execute, held_modify]
  apply settles_cons rfl
  rw [Sqlite.execute, held_update rfl]
  apply settles_cons rfl
  rw [Sqlite.execute, held_update rfl]
  apply settles_cons rfl
  rw [held_commit rfl]
  exact settles_nil _

theorem setCurrentGame_run (outcomes : Statement → Outcome) (before : Sqlite) (sessionId : Nat) (gameId : String) :
    (setCurrentGame sessionId gameId).run (perform outcomes) before =
      match (serialize ((statements sessionId gameId).map (run before.connections.length))).run (perform outcomes)
        (held before before.db {}) with
      | (.ok results, s) => (.ok results, s.modify before.connections.length fun _ => { opened := false })
      | (.error error, s) => (.error error, s) := by
  have opens : (Future.call Op.open : Query Nat).run (perform outcomes) before =
      (.ok before.connections.length, held before before.db {}) := Future.run_call ..
  have queries : [run before.connections.length .begin, run before.connections.length (.clear sessionId),
      run before.connections.length (.set gameId), run before.connections.length .commit] =
      (statements sessionId gameId).map (run before.connections.length) := rfl
  unfold setCurrentGame withDb
  rw [Future.run_chain_ok _ opens]
  dsimp only
  rw [Future.run_chain, queries]
  cases (serialize ((statements sessionId gameId).map (run before.connections.length))).run (perform outcomes)
    (held before before.db {}) with
  | mk result after =>
    cases result with
    | error error => rfl
    | ok results =>
      unfold closeDb
      dsimp only
      rw [Future.run_map, Future.run_call]
      rfl

/-- The call does what one atomic update of the tables does. -/
theorem setCurrentGame_succeeds (succeed : ∀ query ∈ statements sessionId gameId, outcomes query = .succeeds) :
    ∃ results, (setCurrentGame sessionId gameId).run (perform outcomes) before =
      (.ok results, held before (before.db.setCurrentGame sessionId gameId) { opened := false }) := by
  rw [setCurrentGame_run]
  rcases @settles_statements outcomes before sessionId gameId with ⟨_, results, ran⟩ | ⟨some, _⟩
  · rw [ran]
    dsimp only
    rw [held_modify]
    exact ⟨results, rfl⟩
  · exact absurd succeed some

/-- If a statement fails, the connection stays open. -/
theorem setCurrentGame_fails (some : ¬ ∀ query ∈ statements sessionId gameId, outcomes query = .succeeds) :
    ∃ error c, (setCurrentGame sessionId gameId).run (perform outcomes) before = (.error error, held before before.db c) ∧
      c.opened = true := by
  rw [setCurrentGame_run]
  rcases @settles_statements outcomes before sessionId gameId with ⟨succeed, _⟩ | ⟨_, error, c, ran, opened⟩
  · exact absurd succeed some
  · rw [ran]
    exact ⟨error, c, rfl, opened⟩

end

/-- The tables are those from before the call, and the call has left no connection behind: none is open or within a
transaction, or keeps others from writing. -/
structure Restored (before after : Sqlite) : Prop where
  games : after.db.games = before.db.games
  closed : ∀ i c, before.connections.length ≤ i → after.connections[i]? = some c → c.opened = false ∧ c.transaction = none
  free : ∀ i, before.connections.length ≤ i → ¬ after.Blocks i

/-- If the future rejects, the tables are unchanged. That the call leaves nothing behind when it rejects is the case
exactly if no statement fails, so that it does not reject. -/
theorem setCurrentGame_restored (outcomes : Statement → Outcome) (before : Sqlite) (sessionId : Nat) (gameId : String) :
    (∀ error after, (setCurrentGame sessionId gameId).run (perform outcomes) before = (.error error, after) →
      after.db = before.db) ∧
    ((∀ error after, (setCurrentGame sessionId gameId).run (perform outcomes) before = (.error error, after) →
      Restored before after) ↔
      ∀ query ∈ statements sessionId gameId, outcomes query = .succeeds) := by
  by_cases succeed : ∀ query ∈ statements sessionId gameId, outcomes query = .succeeds
  · obtain ⟨results, ran⟩ := @setCurrentGame_succeeds outcomes before sessionId gameId succeed
    rw [ran]
    exact ⟨(fun _ _ rejected => nomatch rejected), (fun _ => succeed), (fun _ _ _ rejected => nomatch rejected)⟩
  · obtain ⟨error, c, ran, opened⟩ := @setCurrentGame_fails outcomes before sessionId gameId succeed
    rw [ran]
    constructor
    · intro other after rejected
      rw [← (Prod.mk.inj rejected).2]
      rfl
    · refine ⟨fun restored => ?_, fun all => absurd all succeed⟩
      have closed := ((restored error _ rfl).closed before.connections.length c (Nat.le_refl _) held_get).1
      rw [opened] at closed
      cases closed

/-- A disk that is full when the transaction is committed. -/
def fullDisk : Statement → Outcome
  | .commit => .fails false
  | _ => .succeeds

/-- The connection is left within the transaction, and every later write has to wait for it. -/
theorem fullDisk_blocks :
    (∃ error after, (setCurrentGame 1 "game").run (perform fullDisk) { db := {} } = (.error error, after) ∧
      after.Blocks 0) ∧
    ¬ ∀ (outcomes : Statement → Outcome) (before : Sqlite) (sessionId : Nat) (gameId : String) (error : String)
      (after : Sqlite), (setCurrentGame sessionId gameId).run (perform outcomes) before = (.error error, after) →
        Restored before after := by
  have blocks : ((setCurrentGame 1 "game").run (perform fullDisk) { db := {} }).2.Blocks 0 := ⟨_, rfl, rfl, rfl⟩
  have rejects : ((setCurrentGame 1 "game").run (perform fullDisk) { db := {} }).1 = .error "SQLITE_ERROR" := rfl
  constructor
  · exact ⟨_, _, Prod.ext rejects rfl, blocks⟩
  · intro always
    exact (always fullDisk { db := {} } 1 "game" _ _ (Prod.ext rejects rfl)).free 0 (Nat.le_refl _) blocks

end DfStudy.Connections
