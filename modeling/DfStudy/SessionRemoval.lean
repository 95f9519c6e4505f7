import DfStudy.Lifetimes

/-! The removal of a session, from any state of the tables and the memory, with any of its statements failing. What
fails on the way is folded into values nobody looks at, and the session's row is deleted all the same. -/

namespace DfStudy.SessionRemoval
open Tables Servers MemGames Sessions Processes Lifetimes Support.Futures Future

/-- Which operations of a removal fail. It does none of them twice. -/
def attempt (host : Host) (fails : Op → Bool) (op : Op) (s : Server) : Except Failure (Res op) × Server :=
  perform host (fails op) op s

section
variable {host : Host} {fails : Op → Bool} {s : Server}

/-- A statement of the removal fails and changes nothing, or it is answered. -/
theorem statement_run (op : Op) {result : Res op × Database}
    (asks : ∀ failing, perform host failing op s = statement failing s (.ok result)) :
    (fails op = true ∧
        (call op : Request (Res op)).run (attempt host fails) s = (.error (.error "SQLITE_ERROR"), s)) ∨
      fails op = false ∧
        (call op : Request (Res op)).run (attempt host fails) s = (.ok result.1, { s with db := result.2 }) := by
  rw [run_call]
  unfold attempt
  rw [asks]
  cases fails op with
  | true => exact .inl ⟨rfl, rfl⟩
  | false => exact .inr ⟨rfl, rfl⟩

/-! The games. -/

def withoutGames (server : Server) (gameIds : List String) : Server :=
  { server with
    db := { server.db with games := server.db.games.filter fun row => decide (row.gameId ∉ gameIds) }
    memGames := server.memGames.filter fun ref => decide (ref.gameId ∉ gameIds) }

theorem withoutGames_nil (server : Server) : withoutGames server [] = server := by simp [withoutGames]

theorem withoutGames_cons (server : Server) (gameId : String) (gameIds : List String) :
    withoutGames (withoutGames server [gameId]) gameIds = withoutGames server (gameId :: gameIds) := by
  simp [withoutGames, List.filter_filter, Bool.and_comm]

theorem formed_withoutGames (formed : Formed s) (gameIds : List String) : Formed (withoutGames s gameIds) where
  games := formed.games.sublist (List.filter_sublist.map _)
  memGames := formed.memGames.sublist (List.filter_sublist.map _)
  murmurIds := formed.murmurIds
  murmurs := formed.murmurs

theorem removeGame_run {game : GameRef} (distinct : Distinct s.memGames) (member : game ∈ s.memGames) :
    (fails (.deleteGame game.gameId) = true ∧
        ∃ error, (removeGame game).run (attempt host fails) s = (.error error, s)) ∨
      fails (.deleteGame game.gameId) = false ∧
        (removeGame game).run (attempt host fails) s = (.ok game, withoutGames s [game.gameId]) := by
  unfold removeGame Request.deleteGame
  rw [run_chain]
  rcases @statement_run host fails s (.deleteGame game.gameId)
      ((), s.db.deleteGame game.gameId) fun _ => rfl with ⟨failing, ran⟩ | ⟨clear, ran⟩
  · rw [ran]
    exact .inl ⟨failing, _, rfl⟩
  · refine .inr ⟨clear, ?_⟩
    rw [ran]
    dsimp only
    rw [run_map, Request.removeMemGame, run_call]
    have removed : removeMemGame s.memGames game = _ := removeMemGame_known distinct ⟨game, member, rfl⟩
    simp [attempt, perform, Except.map, removed, withoutGames, Database.deleteGame]

/-- The games are removed one after the other, up to the first statement that fails. -/
theorem removeGames_run (games : List GameRef) (distinct : Distinct s.memGames) (apart : (games.map (·.gameId)).Nodup)
    (member : ∀ game ∈ games, game ∈ s.memGames) : ∃ gone,
    ((parallel (games.map removeGame)).run (attempt host fails) s).2 = withoutGames s gone ∧
      (∀ gameId ∈ gone, gameId ∈ games.map (·.gameId)) ∧
      ((∀ game ∈ games, game.gameId ∈ gone) ↔ ∀ game ∈ games, fails (.deleteGame game.gameId) = false) := by
  induction games generalizing s with
  | nil => exact ⟨[], (withoutGames_nil s).symm, by simp, by simp⟩
  | cons game games ih =>
    rw [List.map_cons, List.nodup_cons] at apart
    rw [List.map_cons, run_parallel_cons]
    rcases @removeGame_run host fails s game distinct (member game List.mem_cons_self) with
      ⟨failing, error, stopped⟩ | ⟨clear, removed⟩
    · rw [stopped]
      refine ⟨[], (withoutGames_nil s).symm, by simp, ⟨fun all => ?_, fun all => ?_⟩⟩
      · cases all game List.mem_cons_self
      · rw [all game List.mem_cons_self] at failing
        cases failing
    · rw [removed]
      dsimp only
      have still : Distinct (withoutGames s [game.gameId]).memGames := distinct.sublist (List.filter_sublist.map _)
      have others : ∀ other ∈ games, other ∈ (withoutGames s [game.gameId]).memGames := by
        intro other present
        have differs : other.gameId ≠ game.gameId := fun same => apart.1 (List.mem_map.mpr ⟨other, present, same⟩)
        exact List.mem_filter.mpr ⟨member other (List.mem_cons_of_mem _ present), by simpa using differs⟩
      obtain ⟨gone, after, among, all⟩ := ih still apart.2 others
      refine ⟨game.gameId :: gone, by rw [after, withoutGames_cons], ?_, ?_⟩
      · intro gameId present
        rcases List.mem_cons.mp present with rfl | later
        · exact List.mem_cons_self
        · exact List.mem_cons_of_mem _ (among gameId later)
      · have first : game.gameId ∉ games.map (·.gameId) := apart.1
        constructor
        · intro every other present
          rcases List.mem_cons.mp present with rfl | later
          · exact clear
          · refine all.mp (fun last inside => ?_) other later
            rcases List.mem_cons.mp (every last (List.mem_cons_of_mem _ inside)) with same | gone
            · exact absurd (same ▸ List.mem_map_of_mem inside) first
            · exact gone
        · intro every other present
          rcases List.mem_cons.mp present with rfl | later
          · exact List.mem_cons_self
          · exact List.mem_cons_of_mem _ (all.mpr (fun last inside => every last (List.mem_cons_of_mem _ inside)) other later)

/-- The games that can be removed: all of them are in memory, and no statement about them fails. -/
def GamesRemovable (fails : Op → Bool) (s : Server) (sessionId : Nat) : Prop :=
  (∃ row ∈ s.db.games, row.sessionId = sessionId) → fails (.selectGames sessionId) = false ∧
    ∀ row ∈ s.db.games, row.sessionId = sessionId →
      Registered s.memGames row.gameId ∧ fails (.deleteGame row.gameId) = false

def ownIds (db : Database) (sessionId : Nat) : List String := (db.selectGames sessionId).map (·.gameId)

theorem mem_ownIds {db : Database} {sessionId : Nat} {gameId : String} :
    gameId ∈ ownIds db sessionId ↔ ∃ row ∈ db.games, row.sessionId = sessionId ∧ row.gameId = gameId := by
  simp [ownIds, Database.selectGames, and_assoc]

/-- How the removal of the games can leave the server: `gone` are the games that have been removed. -/
def Removed (fails : Op → Bool) (s : Server) (sessionId : Nat) (after : Server) : Prop :=
  ∃ gone, after = withoutGames s gone ∧ (∀ gameId ∈ gone, gameId ∈ ownIds s.db sessionId) ∧
    ((∀ gameId ∈ ownIds s.db sessionId, gameId ∈ gone) ↔ GamesRemovable fails s sessionId)

theorem removed_nothing {sessionId : Nat}
    (stuck : (∃ row ∈ s.db.games, row.sessionId = sessionId) → ¬GamesRemovable fails s sessionId) :
    Removed fails s sessionId s := by
  refine ⟨[], (withoutGames_nil s).symm, by simp, fun all => ?_, fun removable => ?_⟩
  · exact fun ⟨row, member, own⟩ => absurd (all row.gameId (mem_ownIds.mpr ⟨row, member, own, rfl⟩)) (by simp)
  · intro gameId own
    obtain ⟨row, member, of, -⟩ := mem_ownIds.mp own
    exact absurd removable (stuck ⟨row, member, of⟩)

theorem removeSessionGames_run (formed : Formed s) (session : Session) :
    Removed fails s session.sessionId ((removeSessionGames session).run (attempt host fails) s).2 := by
  unfold removeSessionGames getSessionGames Request.selectGames
  rw [run_chain]
  rcases @statement_run host fails s (.selectGames session.sessionId)
      (host.gameRows (s.db.selectGames session.sessionId), s.db) fun _ => rfl with ⟨failing, ran⟩ | ⟨clear, ran⟩
  · rw [ran]
    refine removed_nothing fun exists_ removable => ?_
    rw [(removable exists_).1] at failing
    cases failing
  · let selected := host.gameRows (s.db.selectGames session.sessionId)
    have ids : (selected.map (·.gameId)).Perm (ownIds s.db session.sessionId) := (host.gameRows_perm _).map _
    rw [ran]
    dsimp only
    rw [run_chain]
    have looks : (Request.getGames (selected.map (·.gameId))).run (attempt host fails) s =
        ((selected.map (·.gameId)).mapM (getGame s.memGames) |>.mapError .error, s) := run_call _ _ _
    rw [looks]
    cases lookup : (selected.map (·.gameId)).mapM (getGame s.memGames) with
    | error message =>
      refine removed_nothing fun exists_ removable => ?_
      have registered : ∀ gameId ∈ selected.map (·.gameId), Registered s.memGames gameId := by
        intro gameId listed
        obtain ⟨row, member, own, rfl⟩ := mem_ownIds.mp (ids.mem_iff.mp listed)
        exact ((removable exists_).2 row member own).1
      obtain ⟨games, found⟩ := getGames_registered.mpr registered
      rw [lookup] at found
      cases found
    | ok games =>
      obtain ⟨named, present⟩ := getGames_ok lookup
      change Removed fails s session.sessionId
        (((parallel (games.map removeGame)).map fun _ => session).run (attempt host fails) s).2
      rw [run_map]
      have apart : (games.map (·.gameId)).Nodup := by
        rw [named, ids.nodup_iff]
        exact formed.games.sublist (List.filter_sublist.map _)
      obtain ⟨gone, after, among, all⟩ := @removeGames_run host fails s games formed.memGames apart present
      refine ⟨gone, after, fun gameId removed => ?_, ?_⟩
      · rw [← ids.mem_iff, ← named]
        exact among gameId removed
      · have registered := getGames_registered.mp ⟨games, lookup⟩
        constructor
        · intro every _
          refine ⟨clear, fun row member own => ?_⟩
          have listed : row.gameId ∈ selected.map (·.gameId) := ids.mem_iff.mpr (mem_ownIds.mpr ⟨row, member, own, rfl⟩)
          refine ⟨registered row.gameId listed, ?_⟩
          rw [← named] at listed
          obtain ⟨game, inside, same⟩ := List.mem_map.mp listed
          rw [← same]
          refine all.mp (fun game inside => every game.gameId ?_) game inside
          rw [← ids.mem_iff, ← named]
          exact List.mem_map_of_mem inside
        · intro removable gameId own
          obtain ⟨row, member, of, -⟩ := mem_ownIds.mp own
          rw [← ids.mem_iff, ← named] at own
          obtain ⟨game, inside, rfl⟩ := List.mem_map.mp own
          refine all.mpr (fun game inside => ?_) game inside
          have listed : game.gameId ∈ ownIds s.db session.sessionId := by
            rw [← ids.mem_iff, ← named]
            exact List.mem_map_of_mem inside
          obtain ⟨other, known, theirs, same⟩ := mem_ownIds.mp listed
          rw [← same]
          exact ((removable ⟨row, member, of⟩).2 other known theirs).2

/-! The attacks, the murmur and the session itself. -/

/-- What the removal of the attacks leaves. -/
def withoutAttacks (fails : Op → Bool) (s : Server) (sessionId : Nat) : Server :=
  if fails (.deleteAttacks sessionId) then s else { s with db := s.db.deleteAttacks sessionId }

theorem deleteSessionAttacks_run (session : Session) :
    ((deleteSessionAttacks session).run (attempt host fails) s).2 = withoutAttacks fails s session.sessionId := by
  unfold deleteSessionAttacks Request.deleteAttacks withoutAttacks
  rw [run_map]
  rcases @statement_run host fails s (.deleteAttacks session.sessionId)
      ((), s.db.deleteAttacks session.sessionId) fun _ => rfl with ⟨failing, ran⟩ | ⟨clear, ran⟩
  · rw [ran, if_pos failing]
  · rw [ran, clear]
    rfl

theorem removeContainer_run (murmur : Murmur) : ((removeContainer murmur).run (attempt host fails) s).2 = s := by
  unfold removeContainer Request.docker
  rw [run_chain, run_call]
  unfold attempt
  cases fails (.docker (.stop murmur.murmurId)) with
  | true => rfl
  | false =>
    change ((call (Op.docker (.rm murmur.murmurId)) : Request Unit).run _ s).2 = s
    rw [run_call]
    rfl

def withoutMurmur (fails : Op → Bool) (s : Server) (murmur : Murmur) : Server :=
  if fails (.deleteMurmur murmur.murmurId) then s else { s with db := s.db.deleteMurmur murmur.murmurId }

/-- Whatever happens to the directory and the container. -/
theorem removeMurmur_run (murmur : Murmur) :
    ((removeMurmur murmur).run (attempt host fails) s).2 = withoutMurmur fails s murmur := by
  unfold removeMurmur Request.rmdirSync Request.deleteMurmur withoutMurmur
  rw [run_chain, run_coalesce, run_call]
  have outside : (attempt host fails (.rmdirSync murmur.recDir) s).2 = s := rfl
  dsimp only
  rw [outside]
  set removed := (attempt host fails (.rmdirSync murmur.recDir) s).1
  have kept : [removeContainer murmur, (ofExcept removed : Request Unit)].foldl
      (fun s future => (future.run (attempt host fails) s).2) s = s := by
    rw [List.foldl_cons, removeContainer_run]
    cases removed <;> rfl
  obtain ⟨results, ran⟩ : ∃ results, (parallel [(removeContainer murmur).coalesce,
      (ofExcept removed : Request Unit).coalesce]).run (attempt host fails) s = (.ok results, s) := by
    obtain ⟨results, ran⟩ := run_parallel_coalesce (attempt host fails)
      [removeContainer murmur, (ofExcept removed : Request Unit)] s
    rw [kept] at ran
    exact ⟨results, ran⟩
  rw [run_chain_ok (attempt host fails) ran, run_map]
  rcases @statement_run host fails s (.deleteMurmur murmur.murmurId)
      ((), s.db.deleteMurmur murmur.murmurId) fun _ => rfl with ⟨failing, ran⟩ | ⟨clear, ran⟩
  · rw [ran, if_pos failing]
  · rw [ran, clear]
    rfl

def withoutMurmurs (fails : Op → Bool) (s : Server) (sessionId : Nat) : Server :=
  if fails (.selectMurmurs sessionId) then s else
    match s.db.selectMurmurs sessionId with
    | [] => s
    | murmur :: _ => withoutMurmur fails s murmur

theorem removeSessionMurmur_run (session : Session) :
    ((removeSessionMurmur session).run (attempt host fails) s).2 = withoutMurmurs fails s session.sessionId := by
  unfold removeSessionMurmur getMurmurBySessionId Request.selectMurmurs withoutMurmurs
  rw [run_chain, run_chain]
  rcases @statement_run host fails s (.selectMurmurs session.sessionId)
      (s.db.selectMurmurs session.sessionId, s.db) fun _ => rfl with ⟨failing, ran⟩ | ⟨clear, ran⟩
  · rw [ran, if_pos failing]
  · rw [ran, clear]
    dsimp only
    cases s.db.selectMurmurs session.sessionId with
    | nil => rfl
    | cons murmur others =>
      change (((removeMurmur murmur).map fun _ => session).run (attempt host fails) s).2 = _
      rw [run_map]
      exact removeMurmur_run murmur

/-- How a removal ends that resolves. -/
theorem removeSession_run {sessionId : Nat} {session : Session} {after : Server}
    (resolved : (removeSession sessionId).run (attempt host fails) s = (.ok session, after)) :
    session.sessionId = sessionId ∧ ∃ withoutAll : Server, after = { withoutAll with db := withoutAll.db.deleteSession sessionId } ∧
      withoutAll = [removeSessionGames session, deleteSessionAttacks session, removeSessionMurmur session].foldl
        (fun s future => (future.run (attempt host fails) s).2) s := by
  unfold removeSession getSessionById Request.selectSessions at resolved
  rw [run_chain, run_chain] at resolved
  rcases @statement_run host fails s .selectSessions
      (s.db.sessions, s.db) fun _ => rfl with ⟨failing, ran⟩ | ⟨clear, ran⟩
  · rw [ran] at resolved
    cases resolved
  rw [ran] at resolved
  dsimp only at resolved
  cases found : s.db.sessions.find? (·.sessionId = sessionId) with
  | none =>
    rw [found] at resolved
    cases resolved
  | some listed =>
    rw [found] at resolved
    have own : listed.sessionId = sessionId := by simpa using List.find?_some found
    set withoutAll := [removeSessionGames listed, deleteSessionAttacks listed, removeSessionMurmur listed].foldl
      (fun s future => (future.run (attempt host fails) s).2) s with all
    obtain ⟨results, ran⟩ : ∃ results, (parallel [(removeSessionGames listed).coalesce,
        (deleteSessionAttacks listed).coalesce, (removeSessionMurmur listed).coalesce]).run (attempt host fails) s =
          (.ok results, withoutAll) :=
      run_parallel_coalesce (attempt host fails)
        [removeSessionGames listed, deleteSessionAttacks listed, removeSessionMurmur listed] s
    have taken : ((parallel [(removeSessionGames listed).coalesce, (deleteSessionAttacks listed).coalesce,
        (removeSessionMurmur listed).coalesce]).chain fun _ => deleteSession listed).run (attempt host fails) s =
          (.ok session, after) := resolved
    rw [run_chain_ok (attempt host fails) ran] at taken
    unfold deleteSession Request.deleteSession at taken
    rw [run_map, own] at taken
    rcases @statement_run host fails withoutAll (.deleteSession sessionId)
      ((), withoutAll.db.deleteSession sessionId) fun _ => rfl with
      ⟨failing, ran⟩ | ⟨clear, ran⟩
    · rw [ran] at taken
      cases taken
    · rw [ran] at taken
      cases taken
      exact ⟨own, withoutAll, rfl, all⟩

/-! What a removal that resolves has left. -/

/-- Nothing is left of the session, whose games are the `own` ones, and everything else is as it was. -/
structure Gone (own : String → Prop) (s : Server) (sessionId : Nat) (after : Server) : Prop where
  sessions : after.db.sessions = s.db.sessions.filter (·.sessionId ≠ sessionId)
  games : after.db.games = s.db.games.filter (·.sessionId ≠ sessionId)
  attacks : after.db.attacks = s.db.attacks.filter (·.sessionId ≠ sessionId)
  murmurs : after.db.murmurs = s.db.murmurs.filter (·.sessionId ≠ sessionId)
  memGames : ∀ ref, ref ∈ after.memGames ↔ ref ∈ s.memGames ∧ ¬own ref.gameId
  heap : after.heap = s.heap

structure Removable (own : String → Prop) (fails : Op → Bool) (s : Server) (sessionId : Nat) : Prop where
  /-- No game of the session has lost its row and is still in memory. -/
  rows : ∀ ref ∈ s.memGames, own ref.gameId → ref.gameId ∈ ownIds s.db sessionId
  games : GamesRemovable fails s sessionId
  attacks : (∃ attack ∈ s.db.attacks, attack.sessionId = sessionId) → fails (.deleteAttacks sessionId) = false
  murmurs : ∀ murmur ∈ s.db.murmurs, murmur.sessionId = sessionId →
    fails (.selectMurmurs sessionId) = false ∧ fails (.deleteMurmur murmur.murmurId) = false

theorem games_gone_iff (formed : Formed s) {own : String → Prop} {sessionId : Nat} {gone : List String}
    (among : ∀ gameId ∈ gone, gameId ∈ ownIds s.db sessionId) (owned : ∀ gameId ∈ ownIds s.db sessionId, own gameId) :
    ((withoutGames s gone).db.games = s.db.games.filter (·.sessionId ≠ sessionId) ∧
        ∀ ref, ref ∈ (withoutGames s gone).memGames ↔ ref ∈ s.memGames ∧ ¬own ref.gameId) ↔
      (∀ ref ∈ s.memGames, own ref.gameId → ref.gameId ∈ ownIds s.db sessionId) ∧
        ∀ gameId ∈ ownIds s.db sessionId, gameId ∈ gone := by
  constructor
  · rintro ⟨games, memGames⟩
    constructor
    · intro ref member mine
      by_contra unlisted
      have left : ref ∈ (withoutGames s gone).memGames :=
        List.mem_filter.mpr ⟨member, by simpa using fun removed => unlisted (among ref.gameId removed)⟩
      exact ((memGames ref).mp left).2 mine
    · intro gameId listed
      obtain ⟨row, member, of, rfl⟩ := mem_ownIds.mp listed
      by_contra left
      have kept : row ∈ (withoutGames s gone).db.games := List.mem_filter.mpr ⟨member, by simpa using left⟩
      rw [games] at kept
      simp [of] at kept
  · rintro ⟨rows, all⟩
    constructor
    · refine List.filter_congr fun row member => ?_
      have same : row.gameId ∈ gone ↔ row.sessionId = sessionId := by
        constructor
        · intro removed
          obtain ⟨other, known, of, equal⟩ := mem_ownIds.mp (among row.gameId removed)
          rw [← List.inj_on_of_nodup_map formed.games known member equal]
          exact of
        · exact fun of => all row.gameId (mem_ownIds.mpr ⟨row, member, of, rfl⟩)
      simp [same]
    · intro ref
      have kept : ref ∈ (withoutGames s gone).memGames ↔ ref ∈ s.memGames ∧ ref.gameId ∉ gone := by simp [withoutGames]
      rw [kept]
      refine and_congr_right fun member => not_congr ?_
      exact ⟨fun removed => owned ref.gameId (among ref.gameId removed), fun mine => all ref.gameId (rows ref member mine)⟩

theorem filter_same_iff {α : Type} {items : List α} {test : α → Bool} :
    items = items.filter test ↔ ∀ item ∈ items, test item = true :=
  ⟨fun same => List.filter_eq_self.mp same.symm, fun all => (List.filter_eq_self.mpr all).symm⟩

theorem withoutAttacks_frame (sessionId : Nat) : withoutAttacks fails s sessionId =
    { s with db := { s.db with attacks := (withoutAttacks fails s sessionId).db.attacks } } := by
  unfold withoutAttacks
  split <;> rfl

theorem withoutAttacks_iff {sessionId : Nat} :
    (withoutAttacks fails s sessionId).db.attacks = s.db.attacks.filter (·.sessionId ≠ sessionId) ↔
      ((∃ attack ∈ s.db.attacks, attack.sessionId = sessionId) → fails (.deleteAttacks sessionId) = false) := by
  unfold withoutAttacks
  cases fails (.deleteAttacks sessionId) with
  | false => exact ⟨fun _ _ => rfl, fun _ => rfl⟩
  | true =>
    rw [if_pos rfl, filter_same_iff]
    simp

theorem withoutMurmurs_frame (sessionId : Nat) : withoutMurmurs fails s sessionId =
    { s with db := { s.db with murmurs := (withoutMurmurs fails s sessionId).db.murmurs } } := by
  unfold withoutMurmurs withoutMurmur
  split
  · rfl
  · split
    · rfl
    · split <;> rfl

/-- The first murmur of a session is its only one, and deleting it by its id deletes it for its session. -/
theorem deleteMurmur_own (formed : Formed s) {murmur : Murmur} (member : murmur ∈ s.db.murmurs) :
    s.db.murmurs.filter (·.murmurId ≠ murmur.murmurId) = s.db.murmurs.filter (·.sessionId ≠ murmur.sessionId) := by
  refine List.filter_congr fun other known => ?_
  have same : other.murmurId = murmur.murmurId ↔ other.sessionId = murmur.sessionId := by
    constructor
    · intro equal
      rw [List.inj_on_of_nodup_map formed.murmurIds known member equal]
    · intro equal
      rw [List.inj_on_of_nodup_map formed.murmurs known member equal]
  simp [same]

theorem withoutMurmurs_iff (formed : Formed s) {sessionId : Nat} :
    (withoutMurmurs fails s sessionId).db.murmurs = s.db.murmurs.filter (·.sessionId ≠ sessionId) ↔
      ∀ murmur ∈ s.db.murmurs, murmur.sessionId = sessionId →
        fails (.selectMurmurs sessionId) = false ∧ fails (.deleteMurmur murmur.murmurId) = false := by
  have untouched : s.db.murmurs = s.db.murmurs.filter (·.sessionId ≠ sessionId) ↔
      ∀ murmur ∈ s.db.murmurs, murmur.sessionId ≠ sessionId := by
    rw [filter_same_iff]
    simp
  unfold withoutMurmurs
  cases fails (.selectMurmurs sessionId) with
  | true =>
    rw [if_pos rfl, untouched]
    simp
  | false =>
    rw [if_neg (by simp)]
    cases selected : s.db.selectMurmurs sessionId with
    | nil =>
      have nothing : ∀ murmur ∈ s.db.murmurs, murmur.sessionId ≠ sessionId := by
        intro murmur member own
        have listed : murmur ∈ s.db.selectMurmurs sessionId := List.mem_filter.mpr ⟨member, by simpa using own⟩
        rw [selected] at listed
        cases listed
      exact ⟨fun _ murmur member own => absurd own (nothing murmur member), fun _ => untouched.mpr nothing⟩
    | cons murmur others =>
      have listed : murmur ∈ s.db.selectMurmurs sessionId := by
        rw [selected]
        exact List.mem_cons_self
      obtain ⟨member, own⟩ : murmur ∈ s.db.murmurs ∧ murmur.sessionId = sessionId := by
        simpa [Database.selectMurmurs] using listed
      have alone : ∀ other ∈ s.db.murmurs, other.sessionId = sessionId → other = murmur := fun other known theirs =>
        List.inj_on_of_nodup_map formed.murmurs known member (theirs.trans own.symm)
      dsimp only
      unfold withoutMurmur
      cases failing : fails (.deleteMurmur murmur.murmurId) with
      | true =>
        rw [if_pos rfl, untouched]
        constructor
        · exact fun nothing => absurd own (nothing murmur member)
        · intro clear
          rw [(clear murmur member own).2] at failing
          cases failing
      | false =>
        refine ⟨fun _ other known theirs => ?_, fun _ => ?_⟩
        · rw [alone other known theirs]
          exact ⟨rfl, failing⟩
        · rw [← own]
          exact deleteMurmur_own formed member

/-- A removal that resolves has left nothing of the session, and all else, exactly when it could. -/
theorem removal_gone_iff {own : String → Prop} {sessionId : Nat} {session : Session} {after : Server} (formed : Formed s)
    (owned : ∀ gameId ∈ ownIds s.db sessionId, own gameId)
    (resolved : (removeSession sessionId).run (attempt host fails) s = (.ok session, after)) :
    Gone own s sessionId after ↔ Removable own fails s sessionId := by
  obtain ⟨rfl, withoutAll, rfl, all⟩ := removeSession_run resolved
  obtain ⟨gone, games, among, complete⟩ := @removeSessionGames_run host fails s formed session
  rw [List.foldl_cons, List.foldl_cons, List.foldl_cons, List.foldl_nil, games, deleteSessionAttacks_run,
    removeSessionMurmur_run] at all
  subst all
  have still : Formed (withoutAttacks fails (withoutGames s gone) session.sessionId) := by
    rw [withoutAttacks_frame]
    have rest := formed_withoutGames formed gone
    exact ⟨rest.games, rest.memGames, rest.murmurIds, rest.murmurs⟩
  have removed := games_gone_iff formed among owned
  rw [complete] at removed
  have attacks := @withoutAttacks_iff fails (withoutGames s gone) session.sessionId
  have murmurs := @withoutMurmurs_iff fails _ still session.sessionId
  have first := @withoutAttacks_frame fails (withoutGames s gone) session.sessionId
  have second := @withoutMurmurs_frame fails (withoutAttacks fails (withoutGames s gone) session.sessionId) session.sessionId
  set unattacked := withoutAttacks fails (withoutGames s gone) session.sessionId
  set left := withoutMurmurs fails unattacked session.sessionId
  have sameMurmurs : unattacked.db.murmurs = s.db.murmurs := by
    rw [first]
    rfl
  have sameAttacks : left.db.attacks = unattacked.db.attacks := by rw [second]
  have sameGames : left.db.games = (withoutGames s gone).db.games ∧ left.memGames = (withoutGames s gone).memGames := by
    rw [second, first]
    exact ⟨rfl, rfl⟩
  have sameOthers : left.db.sessions = s.db.sessions ∧ left.heap = s.heap := by
    rw [second, first]
    exact ⟨rfl, rfl⟩
  rw [sameMurmurs] at murmurs
  rw [← sameAttacks] at attacks
  rw [← sameGames.1, ← sameGames.2] at removed
  constructor
  · intro all
    obtain ⟨rows, removable⟩ := removed.mp ⟨all.games, all.memGames⟩
    exact ⟨rows, removable, attacks.mp all.attacks, murmurs.mp all.murmurs⟩
  · intro removable
    obtain ⟨games, memGames⟩ := removed.mpr ⟨removable.rows, removable.games⟩
    refine ⟨?_, games, attacks.mpr removable.attacks, murmurs.mpr removable.murmurs, memGames, sameOthers.2⟩
    change left.db.sessions.filter _ = _
    rw [sameOthers.1]

/-! A removal in which nothing fails. -/

/-- Every game that has a row of the session is in memory. -/
def Known (s : Server) (sessionId : Nat) : Prop := ∀ gameId ∈ ownIds s.db sessionId, Registered s.memGames gameId

/-- The games are removed when they are all known, and left when they are not. -/
theorem removeSessionGames_steady (formed : Formed s) (session : Session) : ∃ gone,
    ((removeSessionGames session).run (attempt host fun _ => false) s).2 = withoutGames s gone ∧
      (Known s session.sessionId ∧ gone = ownIds s.db session.sessionId ∨ ¬Known s session.sessionId ∧ gone = []) := by
  by_cases known : Known s session.sessionId
  · obtain ⟨gone, after, among, complete⟩ := @removeSessionGames_run host (fun _ => false) s formed session
    have all : ∀ gameId ∈ ownIds s.db session.sessionId, gameId ∈ gone :=
      complete.mpr fun _ => ⟨rfl, fun row member own => ⟨known row.gameId (mem_ownIds.mpr ⟨row, member, own, rfl⟩), rfl⟩⟩
    have same : ∀ gameId, gameId ∈ gone ↔ gameId ∈ ownIds s.db session.sessionId := fun gameId =>
      ⟨among gameId, all gameId⟩
    refine ⟨_, after.trans ?_, .inl ⟨known, rfl⟩⟩
    simp only [withoutGames, same]
  · refine ⟨[], ?_, .inr ⟨known, rfl⟩⟩
    let selected := host.gameRows (s.db.selectGames session.sessionId)
    have ids : (selected.map (·.gameId)).Perm (ownIds s.db session.sessionId) := (host.gameRows_perm _).map _
    have listed : (Request.selectGames session.sessionId).run (attempt host fun _ => false) s = (.ok selected, s) :=
      run_call _ _ _
    have looks : (Request.getGames (selected.map (·.gameId))).run (attempt host fun _ => false) s =
        ((selected.map (·.gameId)).mapM (getGame s.memGames) |>.mapError .error, s) := run_call _ _ _
    unfold removeSessionGames getSessionGames
    rw [withoutGames_nil, run_chain_ok _ listed, run_chain, looks]
    cases lookup : (selected.map (·.gameId)).mapM (getGame s.memGames) with
    | error message => rfl
    | ok games =>
      have registered := getGames_registered.mp ⟨games, lookup⟩
      exact absurd (fun gameId own => registered gameId (ids.mem_iff.mpr own)) known

/-- What a removal leaves when nothing fails in it. -/
structure Cleaned (s : Server) (sessionId : Nat) (after : Server) : Prop where
  sessions : after.db.sessions = s.db.sessions.filter (·.sessionId ≠ sessionId)
  attacks : after.db.attacks = s.db.attacks.filter (·.sessionId ≠ sessionId)
  murmurs : after.db.murmurs = s.db.murmurs.filter (·.sessionId ≠ sessionId)
  games : Known s sessionId ∧ after.db.games = s.db.games.filter (·.sessionId ≠ sessionId) ∧
      after.memGames = s.memGames.filter (fun ref => decide (ref.gameId ∉ ownIds s.db sessionId)) ∨
    ¬Known s sessionId ∧ after.db.games = s.db.games ∧ after.memGames = s.memGames

/-- A removal of a session that has a row resolves, if nothing fails in it. -/
theorem removal_resolves {sessionId : Nat} {session : Session}
    (found : s.db.sessions.find? (·.sessionId = sessionId) = some session) :
    ∃ after, (removeSession sessionId).run (attempt host fun _ => false) s = (.ok session, after) := by
  have listed : (getSessionById sessionId).run (attempt host fun _ => false) s = (.ok session, s) := by
    have rows : Request.selectSessions.run (attempt host fun _ => false) s = (.ok s.db.sessions, s) := run_call _ _ _
    unfold getSessionById
    rw [run_chain_ok _ rows, found]
    rfl
  obtain ⟨results, ran⟩ := run_parallel_coalesce (attempt host fun _ => false)
    [removeSessionGames session, deleteSessionAttacks session, removeSessionMurmur session] s
  have resolves : ((removeSession sessionId).run (attempt host fun _ => false) s).1 = .ok session := by
    unfold removeSession
    rw [run_chain_ok _ listed]
    refine (congrArg Prod.fst (run_chain_ok _ ran)).trans ?_
    unfold deleteSession Request.deleteSession
    rw [run_map, run_call]
    rfl
  exact ⟨_, Prod.ext resolves rfl⟩

theorem removal_cleaned (formed : Formed s) {sessionId : Nat} {session : Session}
    (found : s.db.sessions.find? (·.sessionId = sessionId) = some session) :
    ∃ after, (removeSession sessionId).run (attempt host fun _ => false) s = (.ok session, after) ∧
      Cleaned s sessionId after := by
  obtain ⟨after, resolved⟩ := @removal_resolves host s sessionId session found
  refine ⟨after, resolved, ?_⟩
  obtain ⟨rfl, withoutAll, rfl, all⟩ := removeSession_run resolved
  obtain ⟨gone, games, removed⟩ := @removeSessionGames_steady host s formed session
  rw [List.foldl_cons, List.foldl_cons, List.foldl_cons, List.foldl_nil, games, deleteSessionAttacks_run,
    removeSessionMurmur_run] at all
  have still : Formed (withoutAttacks (fun _ => false) (withoutGames s gone) session.sessionId) := by
    have rest := formed_withoutGames formed gone
    exact ⟨rest.games, rest.memGames, rest.murmurIds, rest.murmurs⟩
  have murmurs := (@withoutMurmurs_iff (fun _ => false) _ still session.sessionId).mpr fun _ _ _ => ⟨rfl, rfl⟩
  rw [withoutMurmurs_frame] at all
  rw [murmurs] at all
  subst all
  refine ⟨rfl, rfl, rfl, ?_⟩
  rcases removed with ⟨known, rfl⟩ | ⟨unknown, rfl⟩
  · let own (gameId : String) : Prop := gameId ∈ ownIds s.db session.sessionId
    have rows := (@games_gone_iff s formed own session.sessionId _ (fun _ mine => mine) fun _ mine => mine).mpr
      ⟨fun _ _ mine => mine, fun _ mine => mine⟩
    exact .inl ⟨known, rows.1, rfl⟩
  · have same : (withoutGames s []).db.games = s.db.games ∧ (withoutGames s []).memGames = s.memGames := by
      rw [withoutGames_nil]
      exact ⟨rfl, rfl⟩
    exact .inr ⟨unknown, same.1, same.2⟩

end

/-- The id has been in a row of the session, in some state of the run. -/
def BelongedTo (host : Host) (uuids : Nat → String) (clock : Nat → Nat → Nat) (events : List Event) (sessionId : Nat)
    (gameId : String) : Prop :=
  ∃ before after, events = before ++ after ∧
    gameId ∈ ownIds (reached host uuids clock before).process.server.db sessionId

/-- From every state the server can reach, with any statements of the removal failing. -/
theorem resolved_gone_iff {host : Host} {uuids : Nat → String} {clock : Nat → Nat → Nat} {events : List Event}
    {fails : Op → Bool} {sessionId : Nat} {session : Session} {after : Server}
    (resolved : (removeSession sessionId).run (attempt host fails) (reached host uuids clock events).process.server =
      (.ok session, after)) :
    Gone (BelongedTo host uuids clock events sessionId) (reached host uuids clock events).process.server sessionId after ↔
      Removable (BelongedTo host uuids clock events sessionId) fails (reached host uuids clock events).process.server
        sessionId :=
  removal_gone_iff (formed_reached host uuids clock events)
    (fun _ listed => ⟨events, [], (List.append_nil events).symm, listed⟩) resolved

/-! A session, and its removal when the create has taken so many operations. -/

def sampleEvents (operations : Nat) : List Event :=
  .boot false :: .turn (.create sampleParams) :: List.replicate operations (.turn (.advance 0 false))

def sampleClock (_ reading : Nat) : Nat := reading

def sampleReached (operations : Nat) : Server :=
  (reached sampleHost sampleStart.server.uuids sampleClock (sampleEvents operations)).process.server

def sampleRemoval (operations : Nat) : Except Failure Session × Server :=
  (removeSession 1).run (attempt sampleHost fun _ => false) (sampleReached operations)

theorem pair_of_fst {α β : Type} {pair : α × β} {first : α} (same : pair.1 = first) : pair = (first, pair.2) := by
  rw [← same]

/-- Removed when it has been created in full, the session is gone. -/
theorem resolved_gone_iff_sample :
    Gone (BelongedTo sampleHost sampleStart.server.uuids sampleClock (sampleEvents 40) 1) (sampleReached 40) 1
      (sampleRemoval 40).2 := by
  have result : (sampleRemoval 40).1 = .ok { sampleParams with sessionId := 1 } := by decide +kernel
  have resolved : sampleRemoval 40 = (.ok { sampleParams with sessionId := 1 }, (sampleRemoval 40).2) :=
    pair_of_fst result
  have rows : ∀ ref ∈ (sampleReached 40).memGames, ref.gameId ∈ ownIds (sampleReached 40).db 1 := by decide +kernel
  have held : (sampleReached 40).db.games.all (fun row => (sampleReached 40).memGames.any (·.gameId = row.gameId)) = true := by
    decide +kernel
  unfold sampleReached at rows held
  unfold sampleRemoval sampleReached at resolved ⊢
  apply (resolved_gone_iff resolved).mpr
  constructor
  · exact fun ref member _ => rows ref member
  · refine fun _ => ⟨rfl, fun row member _ => ⟨?_, rfl⟩⟩
    obtain ⟨ref, present, same⟩ := List.any_eq_true.mp (List.all_eq_true.mp held row member)
    exact ⟨ref, present, by simpa using same⟩
  · exact fun _ => rfl
  · exact fun _ _ _ => ⟨rfl, rfl⟩

/-- The removal of a session whose create has inserted one game resolves, and leaves the game's row. -/
theorem rowLeft_behind : ∃ session after, sampleRemoval 9 = (.ok session, after) ∧
    (∀ row ∈ after.db.sessions, row.sessionId ≠ 1) ∧ ∃ row ∈ after.db.games, row.sessionId = 1 := by
  have result : (sampleRemoval 9).1 = .ok { sampleParams with sessionId := 1 } := by decide +kernel
  have left : (sampleRemoval 9).2.db.games.any (·.sessionId = 1) = true := by decide +kernel
  obtain ⟨row, member, own⟩ := List.any_eq_true.mp left
  exact ⟨{ sampleParams with sessionId := 1 }, (sampleRemoval 9).2, pair_of_fst result, by decide +kernel, row, member,
    by simpa using own⟩

end DfStudy.SessionRemoval
