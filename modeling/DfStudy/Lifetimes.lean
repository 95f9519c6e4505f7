import DfStudy.Processes
import DfStudy.Support.Machine

/-! The server over the lives of its process. The tables outlive a crash, and nothing else does. A life begins
with `initSessions`, beside which timers fire and forked writes are committed. Only then the server listens. -/

namespace DfStudy.Lifetimes
open Tables Servers MemGames ServerFrames Sessions Processes Support.Futures Support.Machine Future

def initSessions : Request (List (Except Failure Session)) :=
  Request.selectSessions.chain fun sessions => parallel (sessions.map fun session => (initSession session).coalesce)

structure Life where
  process : Process
  /-- What `initSessions` still has to do. -/
  boot : Request (List (Except Failure Session))
  clock : Nat → Nat → Nat

inductive Event where
  /-- The process crashes at whatever point it has reached, and is started again. -/
  | restart (clock : Nat → Nat → Nat)
  /-- One operation of `initSessions`. -/
  | boot (fails : Bool)
  | turn (turn : Turn)

/-- `main` listens when `initSessions` has resolved. -/
def Life.listens (life : Life) : Bool :=
  match life.boot with
  | .resolve _ => true
  | _ => false

/-- Turns that come in over the network. -/
def arrives : Turn → Bool
  | .create _ | .remove _ | .connect _ | .watch _ => true
  | _ => false

def Life.host (life : Life) (host : Host) : Host := { host with clock := life.clock }

def crashed (s : Server) : Server := { db := s.db, uuids := s.uuids }

def launch (server : Server) (clock : Nat → Nat → Nat) : Life where
  process := { server }
  boot := initSessions
  clock := clock

def bootStep (host : Host) (life : Life) (fails : Bool) : Life :=
  match life.boot with
  | .step op next =>
    let answer := (perform (life.host host) fails op life.process.server).1
    { life with
      process := { life.process with server := (perform (life.host host) fails op life.process.server).2 }
      boot := next answer }
  | _ => life

def turnStep (host : Host) (life : Life) (turn : Turn) : Life :=
  if life.listens || !arrives turn then { life with process := Processes.step (life.host host) life.process turn }
  else life

def step (host : Host) (life : Life) : Event → Life
  | .restart clock => launch (crashed life.process.server) clock
  | .boot fails => bootStep host life fails
  | .turn turn => turnStep host life turn

/-- The first life, over empty tables. -/
def born (uuids : Nat → String) (clock : Nat → Nat → Nat) : Life := launch { uuids } clock

def reached (host : Host) (uuids : Nat → String) (clock : Nat → Nat → Nat) (events : List Event) : Life :=
  run (step host) (born uuids clock) events

/-- Everything that can happen to the server itself: a crash, an operation, or play. -/
inductive Moved (s : Server) : Server → Prop where
  | nothing : Moved s s
  | crash : Moved s (crashed s)
  | operation (host : Host) (fails : Bool) (op : Op) : Moved s (perform host fails op s).2
  | play {s' : Server} (played : Played s s') : Moved s s'

theorem moved (host : Host) (life : Life) (event : Event) :
    Moved life.process.server (step host life event).process.server := by
  cases event with
  | restart clock => exact .crash
  | boot fails =>
    change Moved _ (bootStep host life fails).process.server
    unfold bootStep
    split
    · exact .operation _ fails _
    · exact .nothing
  | turn turn =>
    change Moved _ (turnStep host life turn).process.server
    unfold turnStep
    split
    · rcases step_cases (life.host host) life.process turn with
        same | ⟨index, fails, thread, op, next, _, _, _, same⟩ | ⟨asked, same⟩ | same
      · rw [same]
        exact .nothing
      · rw [same]
        exact .operation _ fails op
      · rw [same]
        exact .play (played _ turn)
      · rw [same]
        exact .play (played _ turn)
    · exact .nothing

/-- What a crash, an operation and play each keep, the server keeps over all its lives. -/
theorem reached_keeps (invariant : Server → Prop) (keeps : ∀ s s', Moved s s' → invariant s → invariant s')
    {host : Host} {uuids : Nat → String} {clock : Nat → Nat → Nat} (empty : invariant { uuids }) (events : List Event) :
    invariant (reached host uuids clock events).process.server :=
  run_invariant (fun life => invariant life.process.server) (fun life event holds => keeps _ _ (moved host life event) holds)
    events empty

/-! The keys of the tables, in every life. -/

/-- What the tables' keys and the server keep: no two games of one id, and one murmur for a session. -/
structure Formed (s : Server) : Prop where
  games : (s.db.games.map (·.gameId)).Nodup
  memGames : Distinct s.memGames
  murmurIds : (s.db.murmurs.map (·.murmurId)).Nodup
  murmurs : (s.db.murmurs.map (·.sessionId)).Nodup

theorem insertMurmur_new {db db' : Database} {murmur : Murmur} (inserted : db.insertMurmur murmur = .ok ((), db')) :
    ∀ old ∈ db.murmurs, old.murmurId ≠ murmur.murmurId ∧ old.sessionId ≠ murmur.sessionId := by
  unfold Database.insertMurmur at inserted
  split at inserted
  next => cases inserted
  next unused =>
    intro old member
    have apart := List.any_eq_false.mp (Bool.not_eq_true _ ▸ unused) old member
    simp only [decide_eq_true_eq, not_or] at apart
    exact ⟨apart.1, apart.2.1⟩

theorem perform_murmurs (host : Host) (fails : Bool) (op : Op) (s : Server) :
    (perform host fails op s).2.db.murmurs.Sublist s.db.murmurs ∨
      ∃ murmur, (∀ old ∈ s.db.murmurs, old.murmurId ≠ murmur.murmurId ∧ old.sessionId ≠ murmur.sessionId) ∧
        (perform host fails op s).2.db.murmurs = s.db.murmurs ++ [murmur] := by
  cases op with
  | insertMurmur murmur =>
    rcases statement_cases fails s (s.db.insertMurmur murmur) with ⟨message, same⟩ | ⟨value, db, inserted, same⟩
    · left
      change (statement fails s (s.db.insertMurmur murmur)).2.db.murmurs.Sublist _
      rw [same]
    · refine .inr ⟨murmur, insertMurmur_new inserted, ?_⟩
      change (statement fails s (s.db.insertMurmur murmur)).2.db.murmurs = _
      rw [same, insertMurmur_ok inserted]
  | deleteMurmur murmurId =>
    left
    cases fails with
    | true => exact List.Sublist.refl _
    | false => exact List.filter_sublist
  | insertSession params =>
    left
    change (statement fails s (s.db.insertSession params)).2.db.murmurs.Sublist _
    rcases statement_cases fails s (s.db.insertSession params) with ⟨message, same⟩ | ⟨value, db, inserted, same⟩
    · rw [same]
    · rw [same, (insertSession_ok inserted).2]
  | insertGame row =>
    left
    change (statement fails s (s.db.insertGame row)).2.db.murmurs.Sublist _
    rcases statement_cases fails s (s.db.insertGame row) with ⟨message, same⟩ | ⟨value, db, inserted, same⟩
    · rw [same]
    · rw [same, (insertGame_ok inserted).2]
  | initGameRows rows =>
    left
    change (initGameRows host rows s).2.db.murmurs.Sublist _
    rw [(initGameRows_loads host rows s).frame]
  | chainGames sessionId games =>
    left
    change (chainGames s sessionId games).db.murmurs.Sublist _
    rw [chainGames_frame]
  | onRound attack grpcPort =>
    left
    change (onRound s attack grpcPort).db.murmurs.Sublist _
    rw [onRound_frame]
  | _ => exact .inl (by cases fails <;> exact List.Sublist.refl _)

theorem perform_gameIds (host : Host) (fails : Bool) (op : Op) (s : Server) (distinct : (s.db.games.map (·.gameId)).Nodup) :
    ((perform host fails op s).2.db.games.map (·.gameId)).Nodup := by
  rcases perform_games host fails op s with same | ⟨row, rfl, added⟩ | ⟨gameId, rfl, removed⟩
  · rw [same]
    exact distinct
  · rcases statement_cases fails s (s.db.insertGame row) with ⟨message, same⟩ | ⟨value, db, inserted, same⟩
    · change (((statement fails s (s.db.insertGame row)).2.db.games).map _).Nodup
      rw [same]
      exact distinct
    · rw [added, List.map_append, List.nodup_append]
      refine ⟨distinct, List.nodup_singleton _, ?_⟩
      rintro gameId old other new rfl
      obtain ⟨known, member, rfl⟩ := List.mem_map.mp old
      exact (insertGame_ok inserted).1 known member (List.mem_singleton.mp new)
  · rw [removed]
    exact distinct.sublist (List.filter_sublist.map _)

theorem commitTask_keys (db : Database) (task : Task) :
    (commitTask db task).games.map (·.gameId) = db.games.map (·.gameId) ∧ (commitTask db task).murmurs = db.murmurs := by
  cases task with
  | saveGame gameId data =>
    refine ⟨?_, rfl⟩
    change (db.games.map _).map _ = _
    rw [List.map_map]
    refine List.map_congr_left fun row _ => ?_
    dsimp only [Function.comp]
    split <;> rfl
  | setCurrentGame sessionId gameId =>
    refine ⟨?_, rfl⟩
    change ((db.games.map _).map _).map _ = _
    rw [List.map_map, List.map_map]
    refine List.map_congr_left fun row _ => ?_
    dsimp only [Function.comp]
    split <;> split <;> rfl

theorem played_keys {s s' : Server} (played : Played s s') :
    s'.db.games.map (·.gameId) = s.db.games.map (·.gameId) ∧ s'.db.murmurs = s.db.murmurs := by
  cases played with
  | nothing => exact ⟨rfl, rfl⟩
  | acted address action =>
    rw [act_frame]
    exact ⟨rfl, rfl⟩
  | sockets sockets => exact ⟨rfl, rfl⟩
  | hung address action sockets =>
    rw [act_frame]
    exact ⟨rfl, rfl⟩
  | watched admin =>
    rw [watch_frame]
    exact ⟨rfl, rfl⟩
  | committed index fails =>
    unfold commit
    split
    next => exact ⟨rfl, rfl⟩
    next task _ =>
      cases fails with
      | true => exact ⟨rfl, rfl⟩
      | false => exact commitTask_keys s.db task

theorem formed_moved {s s' : Server} (moved : Moved s s') (formed : Formed s) : Formed s' := by
  cases moved with
  | nothing => exact formed
  | crash => exact { games := formed.games, memGames := List.nodup_nil, murmurIds := formed.murmurIds, murmurs := formed.murmurs }
  | operation host fails op =>
    have games := perform_gameIds host fails op s formed.games
    have memGames := @perform_distinct host fails op s formed.memGames
    rcases perform_murmurs host fails op s with fewer | ⟨murmur, new, same⟩
    · exact ⟨games, memGames, formed.murmurIds.sublist (fewer.map _), formed.murmurs.sublist (fewer.map _)⟩
    · refine ⟨games, memGames, ?_, ?_⟩
      · rw [same, List.map_append, List.nodup_append]
        refine ⟨formed.murmurIds, List.nodup_singleton _, ?_⟩
        rintro murmurId old other added rfl
        obtain ⟨known, member, rfl⟩ := List.mem_map.mp old
        exact (new known member).1 (List.mem_singleton.mp added)
      · rw [same, List.map_append, List.nodup_append]
        refine ⟨formed.murmurs, List.nodup_singleton _, ?_⟩
        rintro sessionId old other added rfl
        obtain ⟨known, member, rfl⟩ := List.mem_map.mp old
        exact (new known member).2 (List.mem_singleton.mp added)
  | play played =>
    have keys := played_keys played
    constructor
    · rw [keys.1]
      exact formed.games
    · rw [played.frame.1]
      exact formed.memGames
    · rw [keys.2]
      exact formed.murmurIds
    · rw [keys.2]
      exact formed.murmurs

theorem formed_reached (host : Host) (uuids : Nat → String) (clock : Nat → Nat → Nat) (events : List Event) :
    Formed (reached host uuids clock events).process.server :=
  reached_keeps Formed (fun _ _ => formed_moved) ⟨List.nodup_nil, List.nodup_nil, List.nodup_nil, List.nodup_nil⟩ events

end DfStudy.Lifetimes
