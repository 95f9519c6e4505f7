import DfStudy.Ownership

/-! The registry of games while requests run beside each other. Looking a game up, deleting its row and
taking it out of memory are separate steps, so two removals of one session may both find its games. -/

namespace DfStudy.Registry
open Games Tables Servers MemGames ServerFrames Sessions Requests Processes Ownership
open Support.Futures Support.Machine Future

/-- The turn is the last step of `removeGame` for this game. -/
def Removes (p : Process) (turn : Turn) (gameId : String) : Prop :=
  ∃ index fails thread game next, turn = .advance index fails ∧ p.threads[index]? = some thread ∧
    thread.request = .step (.removeMemGame game) next ∧ game.gameId = gameId

/-- A game that is to be removed is still in memory, or nothing is. -/
def Finds (p : Process) (turn : Turn) : Prop :=
  ∀ gameId, Removes p turn gameId → Registered p.server.memGames gameId ∨ p.server.memGames = []

def finds (p : Process) : Turn → Bool
  | .advance index _ =>
    match p.threads[index]? with
    | some { request := .step (.removeMemGame game) _, .. } =>
      p.server.memGames.any (·.gameId = game.gameId) || p.server.memGames.isEmpty
    | _ => true
  | _ => true

theorem finds_iff {p : Process} {turn : Turn} : finds p turn = true ↔ Finds p turn := by
  constructor
  · rintro found _ ⟨index, fails, ⟨asked, stage, request⟩, game, next, rfl, place, pending, rfl⟩
    have request_eq : request = .step (.removeMemGame game) next := pending
    subst request_eq
    simp only [finds, place] at found
    rcases Bool.or_eq_true_iff.mp found with known | empty
    · obtain ⟨ref, member, same⟩ := List.any_eq_true.mp known
      exact .inl ⟨ref, member, by simpa using same⟩
    · exact .inr (List.isEmpty_iff.mp empty)
  · intro holds
    unfold finds
    split
    · rename_i index fails
      split
      · rename_i asked stage game next place
        rcases holds game.gameId ⟨index, fails, _, game, next, rfl, place, rfl, rfl⟩ with ⟨ref, member, same⟩ | empty
        · rw [Bool.or_eq_true_iff]
          exact .inl (List.any_eq_true.mpr ⟨ref, member, by simpa using same⟩)
        · rw [empty]
          simp
      · rfl
    · rfl

instance (p : Process) (turn : Turn) : Decidable (Finds p turn) := decidable_of_iff _ finds_iff

def Leaves (host : Host) (p : Process) (turn : Turn) (gameId : String) : Prop :=
  Registered p.server.memGames gameId ∧ ¬Registered (step host p turn).server.memGames gameId

def Unasked (p : Process) (sessionId : Nat) : Prop := ∀ thread ∈ p.threads, thread.asked ≠ .remove sessionId

def Stored (s : Server) (sessionId : Nat) : Prop := ∃ session ∈ s.db.sessions, session.sessionId = sessionId

/-- Every game of the session is in memory. -/
def Held (s : Server) (sessionId : Nat) : Prop :=
  ∀ row ∈ s.db.games, row.sessionId = sessionId → Registered s.memGames row.gameId

/-! One operation. -/

theorem removeMemGame_registered {memGames : List GameRef} {game : GameRef} (distinct : Distinct memGames)
    (found : Registered memGames game.gameId ∨ memGames = []) {gameId : String} (known : Registered memGames gameId)
    (apart : gameId ≠ game.gameId) : Registered (removeMemGame memGames game) gameId := by
  obtain ⟨ref, member, rfl⟩ := known
  rcases found with present | rfl
  · rw [removeMemGame_known distinct present]
    exact ⟨ref, List.mem_filter.mpr ⟨member, by simpa using apart⟩, rfl⟩
  · cases member

section
variable {host : Host} {fails : Bool} {s : Server} {op : Op}

theorem perform_registered (distinct : Distinct s.memGames)
    (finds : ∀ game, op = .removeMemGame game → Registered s.memGames game.gameId ∨ s.memGames = []) {gameId : String}
    (known : Registered s.memGames gameId) :
    Registered (perform host fails op s).2.memGames gameId ∨ ∃ game, op = .removeMemGame game ∧ game.gameId = gameId := by
  rcases perform_memGames host fails op s with same | ⟨rows, rfl⟩ | ⟨game, rfl, same⟩
  · rw [same]
    exact .inl known
  · exact .inl ((initGameRows_loads host rows s).keeps gameId known)
  · by_cases own : game.gameId = gameId
    · exact .inr ⟨game, rfl, own⟩
    · rw [same]
      exact .inl (removeMemGame_registered distinct (finds game rfl) known (Ne.symm own))

theorem perform_stored {sessionId : Nat} (stored : Stored s sessionId) (apart : op ≠ .deleteSession sessionId) :
    Stored (perform host fails op s).2 sessionId := by
  obtain ⟨session, member, rfl⟩ := stored
  rcases perform_sessions host fails op s with same | ⟨params, _, _, _, same⟩ | ⟨other, rfl, same⟩
  · exact ⟨session, by rw [same]; exact member, rfl⟩
  · exact ⟨session, by rw [same]; exact List.mem_append_left _ member, rfl⟩
  · have different : session.sessionId ≠ other := fun equal => apart (by rw [equal])
    exact ⟨session, by rw [same]; exact List.mem_filter.mpr ⟨member, by simpa using different⟩, rfl⟩

theorem perform_oldRow {sessionId : Nat} (apart : ∀ row, op = .insertGame row → row.sessionId ≠ sessionId)
    {row : GameRow} (member : row ∈ (perform host fails op s).2.db.games) (own : row.sessionId = sessionId) :
    row ∈ s.db.games := by
  rcases perform_games host fails op s with same | ⟨new, rfl, same⟩ | ⟨gameId, rfl, same⟩
  · rw [same] at member
    exact member
  · rw [same] at member
    rcases List.mem_append.mp member with old | added
    · exact old
    · rw [List.mem_singleton.mp added] at own
      exact absurd own (apart new rfl)
  · rw [same] at member
    exact (List.mem_filter.mp member).1

theorem perform_held {sessionId : Nat} (distinct : Distinct s.memGames)
    (finds : ∀ game, op = .removeMemGame game → Registered s.memGames game.gameId ∨ s.memGames = [])
    (rows : ∀ row, op = .insertGame row → row.sessionId ≠ sessionId)
    (others : ∀ game, op = .removeMemGame game → ∀ row ∈ s.db.games, row.sessionId = sessionId →
      game.gameId ≠ row.gameId)
    (held : Held s sessionId) : Held (perform host fails op s).2 sessionId := by
  intro row member own
  have old := perform_oldRow rows member own
  rcases perform_registered distinct finds (held row old own) with kept | ⟨game, same, removed⟩
  · exact kept
  · exact absurd removed (others game same row old own)

end

/-! Requests beside each other. -/

/-- What the requests about a session nobody has asked to remove keep to. -/
structure Calm (p : Process) (sessionId : Nat) : Prop where
  stored : ∀ thread ∈ p.threads, thread.stage.about = some sessionId → Stored p.server sessionId
  alone : ∀ (index other : Nat) (first second : Thread), p.threads[index]? = some first → p.threads[other]? = some second →
    first.stage.about = some sessionId → second.stage.about = some sessionId → index = other
  reading : ∀ thread ∈ p.threads, ∀ listed, thread.stage = .reading sessionId listed →
    ∀ row ∈ p.server.db.games, row.sessionId = sessionId → row.gameId ∈ listed
  loaded : ∀ thread ∈ p.threads, ∀ listed, thread.stage = .loaded sessionId listed → Held p.server sessionId

/-- A session that has been there from the start. -/
structure Kept (p : Process) (sessionId : Nat) : Prop where
  stored : Stored p.server sessionId
  nobody : ∀ thread ∈ p.threads, thread.stage.about ≠ some sessionId
  held : Held p.server sessionId

theorem played_rows {s s' : Server} (played : Played s s') {row : GameRow} (member : row ∈ s'.db.games) :
    ∃ old ∈ s.db.games, old.gameId = row.gameId ∧ old.sessionId = row.sessionId := by
  cases played with
  | nothing => exact ⟨row, member, rfl, rfl⟩
  | acted address action =>
    rw [act_frame] at member
    exact ⟨row, member, rfl, rfl⟩
  | sockets sockets => exact ⟨row, member, rfl, rfl⟩
  | hung address action sockets =>
    rw [act_frame] at member
    exact ⟨row, member, rfl, rfl⟩
  | watched admin =>
    rw [watch_frame] at member
    exact ⟨row, member, rfl, rfl⟩
  | committed index fails =>
    unfold commit at member
    split at member
    · exact ⟨row, member, rfl, rfl⟩
    · rename_i task _
      cases fails with
      | true => exact ⟨row, member, rfl, rfl⟩
      | false =>
        obtain ⟨old, present, gameId, sessionId, _⟩ := commitTask_rows member
        exact ⟨old, present, gameId.symm, sessionId.symm⟩

theorem played_held {s s' : Server} (played : Played s s') {sessionId : Nat} (held : Held s sessionId) :
    Held s' sessionId := by
  intro row member own
  obtain ⟨old, present, gameId, same⟩ := played_rows played member
  rw [played.frame.1, ← gameId]
  exact held old present (same.trans own)

theorem played_stored {s s' : Server} (played : Played s s') {sessionId : Nat} (stored : Stored s sessionId) :
    Stored s' sessionId := by
  obtain ⟨session, member, same⟩ := stored
  exact ⟨session, by rw [played.frame.2.2]; exact member, same⟩

theorem Calm.play {p : Process} {sessionId : Nat} (calm : Calm p sessionId) {server : Server}
    (played : Played p.server server) : Calm { p with server } sessionId where
  stored thread member about := played_stored played (calm.stored thread member about)
  alone := calm.alone
  reading := by
    intro thread member listed stage row present own
    obtain ⟨old, present', gameId, same⟩ := played_rows played present
    rw [← gameId]
    exact calm.reading thread member listed stage old present' (same.trans own)
  loaded thread member listed stage := played_held played (calm.loaded thread member listed stage)

theorem Kept.play {p : Process} {sessionId : Nat} (kept : Kept p sessionId) {server : Server}
    (played : Played p.server server) : Kept { p with server } sessionId where
  stored := played_stored played kept.stored
  nobody := kept.nobody
  held := played_held played kept.held

/-- A request that has just come in is about no session, unless it asks to remove it. -/
theorem arrived {host : Host} {p : Process} {asked : Asked} {sessionId : Nat}
    (unasked : Unasked (arrive host p asked) sessionId) : asked.stage.about ≠ some sessionId := by
  have new : asked ≠ .remove sessionId := unasked _ (List.mem_append_right _ (List.mem_singleton.mpr rfl))
  cases asked with
  | create params => exact fun same => nomatch same
  | remove other =>
    intro same
    cases same
    exact new rfl
  | connect socket playerId => exact fun same => nomatch same

theorem Calm.arrive {host : Host} {p : Process} {asked : Asked} {sessionId : Nat} (calm : Calm p sessionId)
    (unasked : Unasked (arrive host p asked) sessionId) : Calm (arrive host p asked) sessionId := by
  have fresh := arrived unasked
  have earlier : ∀ thread ∈ (Processes.arrive host p asked).threads, thread.stage.about = some sessionId →
      thread ∈ p.threads := by
    intro thread member about
    rcases List.mem_append.mp member with old | new
    · exact old
    · rw [List.mem_singleton.mp new] at about
      exact absurd about fresh
  have place : ∀ (index : Nat) (thread : Thread), (Processes.arrive host p asked).threads[index]? = some thread →
      thread.stage.about = some sessionId → p.threads[index]? = some thread := by
    intro index thread found about
    change (p.threads ++ _)[index]? = _ at found
    rw [List.getElem?_append] at found
    split at found
    · exact found
    · have new := List.mem_of_getElem? found
      rw [List.mem_singleton.mp new] at about
      exact absurd about fresh
  constructor
  · exact fun thread member about => calm.stored thread (earlier thread member about) about
  · intro index other first second found found' about about'
    exact calm.alone index other first second (place index first found about) (place other second found' about') about about'
  · intro thread member listed stage
    exact calm.reading thread (earlier thread member (by rw [stage]; rfl)) listed stage
  · intro thread member listed stage
    exact calm.loaded thread (earlier thread member (by rw [stage]; rfl)) listed stage

theorem Kept.arrive {host : Host} {p : Process} {asked : Asked} {sessionId : Nat} (kept : Kept p sessionId)
    (unasked : Unasked (arrive host p asked) sessionId) : Kept (arrive host p asked) sessionId where
  stored := kept.stored
  nobody := by
    intro thread member
    rcases List.mem_append.mp member with old | new
    · exact kept.nobody thread old
    · rw [List.mem_singleton.mp new]
      exact arrived unasked
  held := kept.held

/-! One operation of a request. -/

/-- The state after one operation of the request at a place. -/
def performed (host : Host) (fails : Bool) (p : Process) (index : Nat) (thread : Thread) (op : Op)
    (next : Except Failure (Res op) → Request (Option Session)) : Process where
  server := (perform host fails op p.server).2
  threads := p.threads.set index { thread with
    stage := thread.stage.after op (perform host fails op p.server).1
    request := next (perform host fails op p.server).1 }

section
variable {host : Host} {fails : Bool} {p : Process} {owner : String → Option Nat} {index sessionId : Nat}
  {thread : Thread} {op : Op} {next : Except Failure (Res op) → Request (Option Session)}

theorem mem_removable {stage : Stage} {gameId : String} (removable : gameId ∈ stage.removable) :
    ∃ sessionId, stage.about = some sessionId ∧ gameId ∈ stage.gameIds ∧
      ∀ listed, stage ≠ .loaded sessionId listed := by
  cases stage with
  | reading sessionId listed => exact ⟨sessionId, rfl, removable, fun _ same => nomatch same⟩
  | removing sessionId listed => exact ⟨sessionId, rfl, removable, fun _ same => nomatch same⟩
  | _ => cases removable

/-- Requests about other sessions leave the games of a session in memory. -/
theorem apart_held (owned : Owned owner p) (present : thread ∈ p.threads) (permitted : thread.stage.permits op)
    (distinct : Distinct p.server.memGames)
    (finds : ∀ game, op = .removeMemGame game → Registered p.server.memGames game.gameId ∨ p.server.memGames = [])
    (apart : thread.stage.about ≠ some sessionId) (held : Held p.server sessionId) :
    Held (perform host fails op p.server).2 sessionId := by
  refine perform_held distinct finds ?_ ?_ held
  · rintro row rfl same
    obtain ⟨drawn, stage, _⟩ := permitted
    rw [stage, same] at apart
    exact apart rfl
  · rintro game rfl row member own same
    obtain ⟨other, about, listed, _⟩ := mem_removable permitted
    have mine := owned.stages thread present other about game.gameId listed
    rw [same, (owned.rows row member).1, own] at mine
    exact apart (about.trans mine.symm)

theorem apart_deletes (permitted : thread.stage.permits op) (apart : thread.stage.about ≠ some sessionId) :
    op ≠ .deleteSession sessionId := by
  rintro rfl
  exact apart permitted

/-- A request becomes one about a session by creating it. -/
theorem becomes (permitted : thread.stage.permits op) (apart : thread.stage.about ≠ some sessionId)
    (about : (thread.stage.after op (perform host fails op p.server).1).about = some sessionId) :
    thread.stage.after op (perform host fails op p.server).1 = .creating sessionId [] ∧
      ¬Stored p.server sessionId ∧ Stored (perform host fails op p.server).2 sessionId := by
  have progress := Stage.progress permitted (perform host fails op p.server).1
  generalize outcome : thread.stage.after op (perform host fails op p.server).1 = stage' at progress about
  generalize start : thread.stage = stage at progress apart
  generalize answered : (perform host fails op p.server).1 = answer at progress
  cases progress with
  | same => exact absurd about apart
  | drew => exact absurd about apart
  | loads => exact absurd about apart
  | ended => cases about
  | read _ other rows known =>
    rcases known with known | ⟨current, known⟩
    · have kept := (Stage.read_about known rows).1
      rw [about] at kept
      exact absurd (known.trans kept.symm) apart
    · rw [known] at about
      cases about
  | inserted params inserted =>
    cases about
    change (statement fails p.server (p.server.db.insertSession params)).1 = _ at answered
    rcases statement_cases fails p.server (p.server.db.insertSession params) with
      ⟨message, same⟩ | ⟨value, db, worked, same⟩
    · rw [same] at answered
      cases answered
    · rw [same] at answered
      cases answered
      obtain ⟨fresh, after⟩ := insertSession_ok worked
      refine ⟨rfl, ?_, ?_⟩
      · rintro ⟨session, member, equal⟩
        have below := lt_nextRowId (List.mem_map_of_mem (f := fun row : Session => row.sessionId) member)
        omega
      · refine ⟨{ params with sessionId }, ?_, rfl⟩
        change _ ∈ (statement fails p.server (p.server.db.insertSession params)).2.db.sessions
        rw [same]
        simp [after]

theorem Kept.perform (kept : Kept p sessionId) (owned : Owned owner p) (found : p.threads[index]? = some thread)
    (permitted : thread.stage.permits op) (distinct : Distinct p.server.memGames)
    (finds : ∀ game, op = .removeMemGame game → Registered p.server.memGames game.gameId ∨ p.server.memGames = []) :
    Kept (performed host fails p index thread op next) sessionId := by
  have present := List.mem_of_getElem? found
  have apart := kept.nobody thread present
  constructor
  · exact perform_stored kept.stored (apart_deletes permitted apart)
  · intro other member
    rcases List.mem_or_eq_of_mem_set member with old | rfl
    · exact kept.nobody other old
    · exact fun about => (becomes permitted apart about).2.1 kept.stored
  · exact apart_held owned present permitted distinct finds apart kept.held

/-- What a request that is about the session teaches by one operation. -/
theorem mine_advances (host : Host) (fails : Bool) (permitted : thread.stage.permits op)
    (distinct : Distinct p.server.memGames)
    (finds : ∀ game, op = .removeMemGame game → Registered p.server.memGames game.gameId ∨ p.server.memGames = [])
    (reading : ∀ listed, thread.stage = .reading sessionId listed →
      ∀ row ∈ p.server.db.games, row.sessionId = sessionId → row.gameId ∈ listed)
    (loaded : ∀ listed, thread.stage = .loaded sessionId listed → Held p.server sessionId) :
    (∀ listed, thread.stage.after op (perform host fails op p.server).1 = .reading sessionId listed →
      ∀ row ∈ (perform host fails op p.server).2.db.games, row.sessionId = sessionId → row.gameId ∈ listed) ∧
    ∀ listed, thread.stage.after op (perform host fails op p.server).1 = .loaded sessionId listed →
      Held (perform host fails op p.server).2 sessionId := by
  have progress := Stage.progress permitted (perform host fails op p.server).1
  generalize outcome : thread.stage.after op (perform host fails op p.server).1 = stage' at progress
  generalize start : thread.stage = stage at progress permitted reading loaded
  generalize answered : (perform host fails op p.server).1 = answer at progress
  cases progress with
  | same =>
    constructor
    · rintro listed rfl row member own
      refine reading listed rfl row (perform_oldRow ?_ member own) own
      rintro new rfl
      obtain ⟨drawn, creating, _⟩ := permitted
      cases creating
    · rintro listed rfl
      refine perform_held distinct finds ?_ ?_ (loaded listed rfl)
      · rintro new rfl
        obtain ⟨drawn, creating, _⟩ := permitted
        cases creating
      · rintro game rfl
        cases permitted
  | inserted => exact ⟨fun _ same => (nomatch same), fun _ same => (nomatch same)⟩
  | drew => exact ⟨fun _ same => (nomatch same), fun _ same => (nomatch same)⟩
  | ended => exact ⟨fun _ same => (nomatch same), fun _ same => (nomatch same)⟩
  | read _ other rows known =>
    have read : ∀ listed, stage.read rows = .reading sessionId listed → listed = rows.map (·.gameId) ∧
        stage.about = some sessionId := by
      intro listed same
      cases stage <;> cases same <;> exact ⟨rfl, rfl⟩
    constructor
    · intro listed same row member own
      obtain ⟨rfl, about⟩ := read listed same
      have subject : other = sessionId := by
        rcases known with known | ⟨current, rfl⟩
        · exact Option.some.inj (known.symm.trans about)
        · cases about
      have old : row ∈ p.server.db.games := by
        refine perform_oldRow ?_ member own
        intro new same
        cases same
      have selected := (selectGames_ok answered).mem_iff.mpr (List.mem_filter.mpr ⟨old, by simpa [subject] using own⟩)
      exact List.mem_map_of_mem selected
    · intro listed same
      cases stage <;> cases same
  | loads other rows games =>
    refine ⟨fun _ same => (nomatch same), ?_⟩
    intro listed same row member own
    cases same
    obtain ⟨_, stage, data⟩ := permitted
    have old : row ∈ p.server.db.games := by
      refine perform_oldRow ?_ member own
      intro new same
      cases same
    have listed := reading _ rfl row old own
    have all := (initGameRows_loads host rows p.server).all
    change (initGameRows host rows p.server).1.mapError _ = _ at answered
    cases result : (initGameRows host rows p.server).1 with
    | error message =>
      rw [result] at answered
      cases answered
    | ok refs =>
      refine (all refs result).2 row.gameId (mem_sorted.mpr ?_)
      rw [List.map_congr_left data]
      exact listed

theorem Calm.perform (calm : Calm p sessionId) (owned : Owned owner p) (found : p.threads[index]? = some thread)
    (permitted : thread.stage.permits op) (distinct : Distinct p.server.memGames)
    (finds : ∀ game, op = .removeMemGame game → Registered p.server.memGames game.gameId ∨ p.server.memGames = []) :
    Calm (performed host fails p index thread op next) sessionId := by
  have present := List.mem_of_getElem? found
  have bound := (List.getElem?_eq_some_iff.mp found).1
  have place : ∀ (other : Nat) (later : Thread), (performed host fails p index thread op next).threads[other]? = some later →
      other = index ∧ later.stage = thread.stage.after op (Servers.perform host fails op p.server).1 ∨
        other ≠ index ∧ p.threads[other]? = some later := by
    intro other later found'
    change (p.threads.set index _)[other]? = _ at found'
    rw [List.getElem?_set] at found'
    by_cases same : index = other
    · rw [if_pos same, if_pos bound] at found'
      cases found'
      exact .inl ⟨same.symm, rfl⟩
    · rw [if_neg same] at found'
      exact .inr ⟨Ne.symm same, found'⟩
  by_cases mine : thread.stage.about = some sessionId
  · have only : ∀ (other : Nat) (later : Thread),
        (performed host fails p index thread op next).threads[other]? = some later →
        later.stage.about = some sessionId →
        other = index ∧ later.stage = thread.stage.after op (Servers.perform host fails op p.server).1 := by
      intro other later found' about
      rcases place other later found' with here | ⟨apart, old⟩
      · exact here
      · exact absurd (calm.alone other index later thread old found about mine) apart
    obtain ⟨reading, loaded⟩ := mine_advances host fails permitted distinct finds
      (calm.reading thread present) (calm.loaded thread present)
    constructor
    · intro later member about
      obtain ⟨other, found'⟩ := List.getElem?_of_mem member
      have stage := (only other later found' about).2
      rw [stage] at about
      refine perform_stored (calm.stored thread present mine) ?_
      rintro rfl
      cases answer : (Servers.perform host fails (.deleteSession sessionId) p.server).1 <;> rw [answer] at about <;>
        cases about
    · intro first second before after found' found'' about about'
      rw [(only first before found' about).1, (only second after found'' about').1]
    · intro later member listed stage
      obtain ⟨other, found'⟩ := List.getElem?_of_mem member
      have same := (only other later found' (by rw [stage]; rfl)).2
      exact reading listed (same.symm.trans stage)
    · intro later member listed stage
      obtain ⟨other, found'⟩ := List.getElem?_of_mem member
      have same := (only other later found' (by rw [stage]; rfl)).2
      exact loaded listed (same.symm.trans stage)
  · by_cases stored : Stored p.server sessionId
    · have older : ∀ (other : Nat) (later : Thread),
          (performed host fails p index thread op next).threads[other]? = some later →
          later.stage.about = some sessionId → p.threads[other]? = some later := by
        intro other later found' about
        rcases place other later found' with ⟨_, stage⟩ | ⟨_, old⟩
        · rw [stage] at about
          exact absurd stored (becomes permitted mine about).2.1
        · exact old
      constructor
      · exact fun _ _ _ => perform_stored stored (apart_deletes permitted mine)
      · intro first second before after found' found'' about about'
        exact calm.alone first second before after (older first before found' about) (older second after found'' about')
          about about'
      · intro later member listed stage row present' own
        obtain ⟨other, found'⟩ := List.getElem?_of_mem member
        have old := older other later found' (by rw [stage]; rfl)
        refine calm.reading later (List.mem_of_getElem? old) listed stage row (perform_oldRow ?_ present' own) own
        rintro new rfl same
        obtain ⟨drawn, creating, _⟩ := permitted
        rw [creating, same] at mine
        exact mine rfl
      · intro later member listed stage
        obtain ⟨other, found'⟩ := List.getElem?_of_mem member
        have old := older other later found' (by rw [stage]; rfl)
        exact apart_held owned present permitted distinct finds mine
          (calm.loaded later (List.mem_of_getElem? old) listed stage)
    · have only : ∀ (other : Nat) (later : Thread),
          (performed host fails p index thread op next).threads[other]? = some later →
          later.stage.about = some sessionId → other = index ∧ later.stage = .creating sessionId [] ∧
            Stored (Servers.perform host fails op p.server).2 sessionId := by
        intro other later found' about
        rcases place other later found' with ⟨same, stage⟩ | ⟨_, old⟩
        · rw [stage] at about
          obtain ⟨creating, _, stored'⟩ := becomes permitted mine about
          exact ⟨same, stage.trans creating, stored'⟩
        · exact absurd (calm.stored later (List.mem_of_getElem? old) about) stored
      constructor
      · intro later member about
        obtain ⟨other, found'⟩ := List.getElem?_of_mem member
        exact (only other later found' about).2.2
      · intro first second before after found' found'' about about'
        rw [(only first before found' about).1, (only second after found'' about').1]
      · intro later member listed stage
        obtain ⟨other, found'⟩ := List.getElem?_of_mem member
        have creating := (only other later found' (by rw [stage]; rfl)).2.1
        rw [stage] at creating
        cases creating
      · intro later member listed stage
        obtain ⟨other, found'⟩ := List.getElem?_of_mem member
        have creating := (only other later found' (by rw [stage]; rfl)).2.1
        rw [stage] at creating
        cases creating

end

/-! Runs. -/

/-- The sessions that are complete when the run begins. -/
def Complete (p : Process) (sessionId : Nat) : Prop := Stored p.server sessionId ∧ Held p.server sessionId

structure Safe (complete : Nat → Prop) (p : Process) : Prop where
  owned : ∃ owner, Owned owner p
  distinct : Distinct p.server.memGames
  calm : ∀ sessionId, Unasked p sessionId → Calm p sessionId
  kept : ∀ sessionId, complete sessionId → Unasked p sessionId → Kept p sessionId

theorem unasked_before {host : Host} {p : Process} {turn : Turn} {sessionId : Nat}
    (unasked : Unasked (step host p turn) sessionId) : Unasked p sessionId := by
  intro thread member
  rcases step_cases host p turn with same | ⟨index, fails, acting, op, next, _, found, _, same⟩ | ⟨asked, same⟩ | same
  · rw [same] at unasked
    exact unasked thread member
  · rw [same] at unasked
    obtain ⟨place, found'⟩ := List.getElem?_of_mem member
    by_cases here : index = place
    · subst here
      rw [found] at found'
      cases found'
      have kept := unasked _ (List.mem_set (List.getElem?_eq_some_iff.mp found).1 _)
      exact kept
    · refine unasked thread (List.mem_of_getElem? (i := place) ?_)
      change (p.threads.set index _)[place]? = _
      rw [List.getElem?_set, if_neg here]
      exact found'
  · rw [same] at unasked
    exact unasked thread (List.mem_append_left _ member)
  · rw [same] at unasked
    exact unasked thread member

theorem safe_step {complete : Nat → Prop} {host : Host} {p : Process} {turn : Turn} (safe : Safe complete p)
    (finds : Finds p turn) : Safe complete (step host p turn) := by
  obtain ⟨owner, owned⟩ := safe.owned
  obtain ⟨owner', _, owned', _⟩ := owned_step owned host turn
  have earlier : ∀ sessionId, Unasked (step host p turn) sessionId → Unasked p sessionId := fun _ => unasked_before
  suffices rest : Distinct (step host p turn).server.memGames ∧
      (∀ sessionId, Unasked (step host p turn) sessionId → Calm (step host p turn) sessionId) ∧
      ∀ sessionId, complete sessionId → Unasked (step host p turn) sessionId → Kept (step host p turn) sessionId from
    ⟨⟨owner', owned'⟩, rest.1, rest.2.1, rest.2.2⟩
  rcases step_cases host p turn with same | ⟨index, fails, thread, op, next, rfl, found, pending, same⟩ |
    ⟨asked, same⟩ | same
  · rw [same]
    exact ⟨safe.distinct, safe.calm, safe.kept⟩
  · have follows := owned.follows thread (List.mem_of_getElem? found)
    rw [pending] at follows
    have permitted : thread.stage.permits op := follows.1
    have present : ∀ game, op = .removeMemGame game →
        Registered p.server.memGames game.gameId ∨ p.server.memGames = [] := by
      rintro game rfl
      exact finds game.gameId ⟨index, fails, thread, game, next, rfl, found, pending, rfl⟩
    have after : step host p (.advance index fails) = performed host fails p index thread op next := same
    rw [after] at earlier ⊢
    refine ⟨?_, ?_, ?_⟩
    · exact perform_distinct safe.distinct
    · exact fun sessionId unasked =>
        (safe.calm sessionId (earlier sessionId unasked)).perform owned found permitted safe.distinct present
    · exact fun sessionId known unasked =>
        (safe.kept sessionId known (earlier sessionId unasked)).perform owned found permitted safe.distinct present
  · have played := played p.server turn
    rw [same] at earlier ⊢
    refine ⟨?_, ?_, ?_⟩
    · change Distinct (play p.server turn).memGames
      rw [played.frame.1]
      exact safe.distinct
    · exact fun sessionId unasked => ((safe.calm sessionId (earlier sessionId unasked)).play played).arrive unasked
    · exact fun sessionId known unasked =>
        ((safe.kept sessionId known (earlier sessionId unasked)).play played).arrive unasked
  · have played := played p.server turn
    rw [same] at earlier ⊢
    refine ⟨?_, ?_, ?_⟩
    · change Distinct (play p.server turn).memGames
      rw [played.frame.1]
      exact safe.distinct
    · exact fun sessionId unasked => (safe.calm sessionId (earlier sessionId unasked)).play played
    · exact fun sessionId known unasked => (safe.kept sessionId known (earlier sessionId unasked)).play played

theorem safe_start {start : Process} (booted : Booted start) (distinct : Distinct start.server.memGames) :
    Safe (Complete start) start := by
  obtain ⟨owner, owned, _⟩ := booted.owned
  have nobody : ∀ thread, thread ∉ start.threads := by
    rw [booted.threads]
    exact fun _ member => nomatch member
  refine ⟨⟨owner, owned⟩, distinct, fun sessionId _ => ?_, fun sessionId complete _ => ?_⟩
  · constructor
    · exact fun thread member => absurd member (nobody thread)
    · exact fun _ _ first _ found => absurd (List.mem_of_getElem? found) (nobody first)
    · exact fun thread member => absurd member (nobody thread)
    · exact fun thread member => absurd member (nobody thread)
  · exact ⟨complete.1, fun thread member => absurd member (nobody thread), complete.2⟩

/-- A turn that finds the games it removes takes no other game out of memory. -/
theorem leaves_removed {host : Host} {p : Process} {turn : Turn} {gameId : String} (distinct : Distinct p.server.memGames)
    (finds : Finds p turn) (leaves : Leaves host p turn gameId) : Removes p turn gameId := by
  obtain ⟨known, gone⟩ := leaves
  rcases step_cases host p turn with same | ⟨index, fails, thread, op, next, rfl, found, pending, same⟩ |
    ⟨asked, same⟩ | same
  · rw [same] at gone
    exact absurd known gone
  · rw [same] at gone
    have present : ∀ game, op = .removeMemGame game →
        Registered p.server.memGames game.gameId ∨ p.server.memGames = [] := by
      rintro game rfl
      exact finds game.gameId ⟨index, fails, thread, game, next, rfl, found, pending, rfl⟩
    have kept : Registered (perform host fails op p.server).2.memGames gameId ∨ _ :=
      perform_registered distinct present known
    rcases kept with kept | ⟨game, rfl, removed⟩
    · exact absurd kept gone
    · exact ⟨index, fails, thread, game, next, rfl, found, pending, removed⟩
  · rw [same] at gone
    change ¬Registered (play p.server turn).memGames gameId at gone
    rw [(played p.server turn).frame.1] at gone
    exact absurd known gone
  · rw [same] at gone
    change ¬Registered (play p.server turn).memGames gameId at gone
    rw [(played p.server turn).frame.1] at gone
    exact absurd known gone

/-- The condition is exact: a game that is no longer there takes another one with it. -/
theorem leaves_wrongly {host : Host} {p : Process} {turn : Turn} (distinct : Distinct p.server.memGames)
    (misses : ¬Finds p turn) : ∃ gameId, Leaves host p turn gameId ∧ ¬Removes p turn gameId := by
  unfold Finds at misses
  push Not at misses
  obtain ⟨gameId, ⟨index, fails, thread, game, next, rfl, found, pending, rfl⟩, unknown, some⟩ := misses
  obtain ⟨last, member⟩ : ∃ last, last ∈ p.server.memGames.getLast? := by
    cases last : p.server.memGames.getLast? with
    | none => exact absurd (List.getLast?_eq_none_iff.mp last) some
    | some ref => exact ⟨ref, rfl⟩
  have split : p.server.memGames.dropLast ++ [last] = p.server.memGames := List.dropLast_append_getLast? last member
  have after : (step host p (.advance index fails)).server.memGames = p.server.memGames.dropLast := by
    change (Processes.advance host p index fails).server.memGames = _
    unfold Processes.advance
    rw [found]
    obtain ⟨asked, stage, request⟩ := thread
    have request_eq : request = .step (.removeMemGame game) next := pending
    subst request_eq
    exact removeMemGame_unknown unknown
  have present : last ∈ p.server.memGames := List.mem_of_getLast? member
  refine ⟨last.gameId, ⟨⟨last, present, rfl⟩, ?_⟩, ?_⟩
  · rw [after]
    rintro ⟨ref, before, same⟩
    unfold Distinct at distinct
    rw [← split, List.map_append, List.nodup_append] at distinct
    exact distinct.2.2 _ (List.mem_map_of_mem before) _ (by simp) same
  · rintro ⟨_, _, _, other, _, same, found', pending', equal⟩
    cases same
    rw [found] at found'
    cases found'
    rw [pending] at pending'
    cases pending'
    exact unknown ⟨last, present, equal.symm⟩

/-- The session was complete when the run began, or a request has created it. -/
def Present (start p : Process) (sessionId : Nat) : Prop :=
  Complete start sessionId ∨ ∃ thread ∈ p.threads, ∃ params session, thread.asked = .create params ∧
    thread.request = .resolve (some session) ∧ session.sessionId = sessionId

theorem safe_run {host : Host} {start : Process} {turns : List Turn} (booted : Booted start)
    (distinct : Distinct start.server.memGames) (finds : Permitted (step host) Finds start turns) :
    Safe (Complete start) (run (step host) start turns) :=
  run_invariant_of_permitted (Safe (Complete start)) (fun _ _ found safe => safe_step safe found) finds
    (safe_start booted distinct)

/-- A session that nobody has asked to remove has all its games in memory. -/
theorem present_held {start p : Process} (safe : Safe (Complete start) p) {sessionId : Nat}
    (present : Present start p sessionId) (unasked : Unasked p sessionId) : Held p.server sessionId := by
  rcases present with complete | ⟨thread, member, params, session, asked, resolved, rfl⟩
  · exact (safe.kept sessionId complete unasked).held
  · obtain ⟨owner, owned⟩ := safe.owned
    have settled := owned.follows thread member
    rw [resolved, asked] at settled
    obtain ⟨listed, stage⟩ := settled session rfl
    exact (safe.calm session.sessionId unasked).loaded thread member listed stage

/-- What the registry promises in every run: one game for each id, no game taken out in another's place, and all
games of the sessions that nobody has asked to remove. -/
theorem registry_safe {host : Host} {start : Process} {turns : List Turn} (booted : Booted start)
    (distinct : Distinct start.server.memGames) (finds : Permitted (step host) Finds start turns) :
    Distinct (run (step host) start turns).server.memGames ∧
    (∀ before turn after gameId, turns = before ++ turn :: after →
      Leaves host (run (step host) start before) turn gameId → Removes (run (step host) start before) turn gameId) ∧
    ∀ sessionId, Present start (run (step host) start turns) sessionId →
      Unasked (run (step host) start turns) sessionId →
      ∀ row ∈ (run (step host) start turns).server.db.games, row.sessionId = sessionId →
        ∃ game, getGame (run (step host) start turns).server.memGames row.gameId = .ok game := by
  have safe := safe_run booted distinct finds
  refine ⟨safe.distinct, ?_, ?_⟩
  · rintro before turn after gameId rfl leaves
    have parts := permitted_split finds
    exact leaves_removed (safe_run booted distinct parts.1).distinct parts.2.1 leaves
  · intro sessionId present unasked row member own
    exact getGame_isOk.mpr (present_held safe present unasked row member own)

/-! Two sessions, and two requests to remove the first one. -/

theorem sample_booted : Booted sampleStart where
  threads := rfl
  distinct := List.nodup_nil
  data _ member := nomatch member
  saves _ _ member := nomatch member
  fresh _ _ member := nomatch member
  injective first second same := by
    have lists : List.replicate first 'g' = List.replicate second 'g' := String.ofList_injective same
    simpa using congrArg List.length lists

def otherParams : CreateSessionParams where
  blueParticipant := "anna"
  redParticipant := "otto"
  grpcPort := 50052
  murmurPort := 64739

/-- Both sessions are created, one after the other. -/
def createBoth : List Turn :=
  .create sampleParams :: List.replicate 40 (.advance 0 false) ++
    .create otherParams :: List.replicate 40 (.advance 1 false)

/-- One request removes the first session in full. -/
def removeFirst : List Turn := createBoth ++ .remove 1 :: List.replicate 20 (.advance 2 false)

/-- A second request has looked the games up before the first one has removed them. -/
def removeTwice : List Turn :=
  createBoth ++ [.remove 1, .remove 1] ++ List.replicate 3 (.advance 2 false) ++ List.replicate 3 (.advance 3 false) ++
    List.replicate 8 (.advance 2 false) ++ List.replicate 2 (.advance 3 false)

/-- A create has resolved with this session. -/
def createdBy (sessionId : Nat) (thread : Thread) : Bool :=
  match thread.asked, thread.request with
  | .create _, .resolve (some session) => session.sessionId = sessionId
  | _, _ => false

theorem present_of_createdBy {start p : Process} {sessionId : Nat} (created : p.threads.any (createdBy sessionId) = true) :
    Present start p sessionId := by
  obtain ⟨thread, member, found⟩ := List.any_eq_true.mp created
  unfold createdBy at found
  split at found
  · rename_i params session asked resolved
    exact .inr ⟨thread, member, params, session, asked, resolved, by simpa using found⟩
  · cases found

def asksToRemove (sessionId : Nat) (thread : Thread) : Bool :=
  match thread.asked with
  | .remove other => other = sessionId
  | _ => false

theorem unasked_of_asksToRemove {p : Process} {sessionId : Nat} (nobody : p.threads.any (asksToRemove sessionId) = false) :
    Unasked p sessionId := by
  intro thread member asked
  have other := List.any_eq_false.mp nobody thread member
  unfold asksToRemove at other
  rw [asked] at other
  simp at other

/-- Removed by one request, the first session takes nothing of the second with it. -/
theorem registry_safe_sample : ∃ row ∈ (run (step sampleHost) sampleStart removeFirst).server.db.games,
    row.sessionId = 2 ∧
      ∃ game, getGame (run (step sampleHost) sampleStart removeFirst).server.memGames row.gameId = .ok game := by
  have finds : Permitted (step sampleHost) Finds sampleStart removeFirst := by decide +kernel
  have safe := registry_safe sample_booted List.nodup_nil finds
  have stored : (run (step sampleHost) sampleStart removeFirst).server.db.games.any (·.sessionId = 2) = true := by
    decide +kernel
  obtain ⟨row, member, own⟩ := List.any_eq_true.mp stored
  have second : row.sessionId = 2 := by simpa using own
  exact ⟨row, member, second, safe.2.2 2 (present_of_createdBy (by decide +kernel))
    (unasked_of_asksToRemove (by decide +kernel)) row member second⟩

/-- The last game of the second session has left the registry, and its session has not been touched. -/
theorem secondRemoval_takes :
    Present sampleStart (run (step sampleHost) sampleStart removeTwice) 2 ∧
      Unasked (run (step sampleHost) sampleStart removeTwice) 2 ∧
      ∃ row ∈ (run (step sampleHost) sampleStart removeTwice).server.db.games, row.sessionId = 2 ∧
        getGame (run (step sampleHost) sampleStart removeTwice).server.memGames row.gameId = .error "Game not found." := by
  have missing : (run (step sampleHost) sampleStart removeTwice).server.db.games.any (fun row =>
      row.sessionId = 2 && !((run (step sampleHost) sampleStart removeTwice).server.memGames.any
        (·.gameId = row.gameId))) = true := by decide +kernel
  refine ⟨present_of_createdBy (by decide +kernel), unasked_of_asksToRemove (by decide +kernel), ?_⟩
  obtain ⟨row, member, found⟩ := List.any_eq_true.mp missing
  rw [Bool.and_eq_true, Bool.not_eq_true'] at found
  refine ⟨row, member, by simpa using found.1, ?_⟩
  have none : (run (step sampleHost) sampleStart removeTwice).server.memGames.find? (·.gameId = row.gameId) = none := by
    rw [List.find?_eq_none]
    intro ref present
    have other := List.any_eq_false.mp found.2 ref present
    simpa using other
  unfold getGame
  rw [none]

end DfStudy.Registry
