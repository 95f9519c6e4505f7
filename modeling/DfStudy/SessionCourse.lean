import DfStudy.SessionProgress

/-! The course of a session, in the table. One of its rows is marked as current. The games before it have their ends, and
those after it have not started. An id may have been given to an earlier session that has been removed, whose games are
still there: they keep their timeouts, and the listeners that move a session with this id. -/

namespace DfStudy.SessionCourse
open Games GameControl Tables Servers MemGames Processes Ownership Registry Mentions Sessions GameSequence GameHandover
open SessionSetup SessionUnderway SessionProgress LiveGame Support.Machine Support.Futures
open Quiescence (Placed createdSession bothReady removal)

/-- A game of the session in memory, by its place and that of the current one. -/
structure InOrder (current place : Nat) (game : LiveGame) : Prop where
  once : stops game ≤ 1
  passed : place < current → game.game.endTime.isSome ∧ stops game = 1
  waiting : current < place → game.game.startTime = none ∧ stops game = 0

/-- The rows of the session and its games in memory, by the place of the current one. -/
structure OnCourse (sessionId : Nat) (gameIds : List String) (current : Nat) (s : Server) : Prop where
  rows : (s.db.games.filter (·.sessionId = sessionId)).map (fun row => (row.gameId, row.gameOrder)) = gameIds.zipIdx
  flag : ∃ row, s.db.games.filter (fun row => row.sessionId = sessionId ∧ row.isCurrent = true) = [row] ∧
    row.gameOrder = current
  ended : ∀ row ∈ s.db.games, row.sessionId = sessionId → row.gameOrder < current → row.gameData.endTime.isSome
  waiting : ∀ row ∈ s.db.games, row.sessionId = sessionId → current < row.gameOrder → row.gameData.startTime = none
  games : ∀ game ∈ s.heap, ∀ place, gameIds[place]? = some (idOf game) → InOrder current place game

/-- The flag stays where it is, or goes to the next game: the current one has stopped, once, and the write that its 'stop'
has forked is committed. -/
def FlagMoves (sessionId : Nat) (gameIds : List String) (p : Process) (turn : Turn) (current next : Nat) : Prop :=
  next = current ∨ next = current + 1 ∧ ∃ task gameId, turn = .commit task false ∧ gameIds[next]? = some gameId ∧
    p.server.tasks[task]? = some (.setCurrentGame sessionId gameId) ∧
    ∃ game ∈ p.server.heap, gameIds[current]? = some (idOf game) ∧ stops game = 1 ∧ (sessionId, gameId) ∈ moves game

theorem phase_stops {game : LiveGame} (phase : Phase game) :
    game.game.endTime = none ∧ stops game = 0 ∨ game.game.endTime.isSome ∧ stops game = 1 := by
  cases phase with
  | unstarted phase => exact .inl ⟨phase.endTime, phase.stops⟩
  | roundOpen phase => exact .inl ⟨phase.endTime, phase.stops⟩
  | roundOver phase => exact .inl ⟨phase.endTime, phase.stops⟩
  | stopped phase => exact .inr ⟨phase.endTime, phase.stops⟩

theorem phase_ended {game : LiveGame} (phase : Phase game) (ended : game.game.endTime.isSome) : stops game = 1 := by
  rcases phase_stops phase with ⟨running, _⟩ | ⟨_, once⟩
  · rw [running] at ended
    cases ended
  · exact once

section
variable {sessionId : Nat} {gameIds : List String} {current : Nat}

theorem inOrder_inTurn {place : Nat} {game : LiveGame} (turn : InTurn current place game) : InOrder current place game where
  once := by
    rcases phase_stops turn.phase with ⟨_, same⟩ | ⟨_, same⟩ <;> omega
  passed := fun before => ⟨turn.ended before, phase_ended turn.phase (turn.ended before)⟩
  waiting := fun later => ⟨turn.waiting later, (unstarted_of_none turn.phase (turn.waiting later)).stops⟩

/-- One row of the session alone is marked. -/
theorem sheet_flag {table : List GameRow} (sheet : Sheet sessionId gameIds current table) (within : current < gameIds.length) :
    ∃ row, table.filter (fun row => row.sessionId = sessionId ∧ row.isCurrent = true) = [row] ∧ row.gameOrder = current := by
  obtain ⟨row, stored, own, here, alone⟩ := sheet_current sheet within
  refine ⟨row, ?_, here⟩
  have distinct : (table.filter fun row => row.sessionId = sessionId ∧ row.isCurrent = true).Nodup := by
    have listed := sheet.distinct
    rw [← sheet.ids] at listed
    have nodup := listed.of_map.filter (·.isCurrent)
    rw [List.filter_filter] at nodup
    simpa [and_comm] using nodup
  rw [← List.perm_singleton, List.perm_ext_iff_of_nodup distinct (List.nodup_singleton row)]
  intro other
  rw [List.mem_filter, List.mem_singleton]
  constructor
  · rintro ⟨member, marked⟩
    have both := of_decide_eq_true marked
    exact (alone other member both.1).mp both.2
  · rintro rfl
    exact ⟨stored, decide_eq_true ⟨own, (alone _ stored own).mpr rfl⟩⟩

theorem onCourse_underway {p : Process} {clean : Prop} {index : Nat}
    (underway : Underway clean True p index sessionId gameIds current) : OnCourse sessionId gameIds current p.server where
  rows := underway.progress.sheet.rows
  flag := sheet_flag underway.progress.sheet underway.within
  ended := fun _ member own earlier =>
    sheet_ended underway.progress.sheet (underway.recorded trivial) member own earlier
  waiting := fun _ member own later => sheet_waiting underway.progress.sheet member own later
  games := fun game member place listed => inOrder_inTurn (underway.progress.cast.games game member place listed)

theorem flagMoves_advances {p : Process} {turn : Turn} {next : Nat} (progress : InProgress sessionId gameIds current p.server)
    (advances : Advances sessionId gameIds p turn current next) : FlagMoves sessionId gameIds p turn current next := by
  rcases advances with same | ⟨rfl, task, commits, passes⟩
  · exact .inl same
  · obtain ⟨gameId, follows, found⟩ := passes.found
    obtain ⟨game, member, here, asked⟩ := passes.asked
    have turn := progress.cast.games game member current here
    exact .inr ⟨rfl, task, gameId, commits, follows, found, game, member, here,
      phase_ended turn.phase (passes.stopped game member here), asked gameId follows⟩

end

/-- From its creation on a session stays on course, as long as no write of an earlier session with its id moves it, and the
writes about its games are committed in the order in which they have been forked. -/
theorem session_on_course {host : Host} {index : Nat} {start : Process} {before turns : List Turn} {session : Session}
    (booted : Booted start) (fresh : Fresh start) (placed : Placed start.server)
    (secluded : Permitted (step host) (Secluded Vacant index) start (before ++ turns))
    (undiverted : Permitted (step host) (Undiverted index) start (before ++ turns))
    (timely : Permitted (step host) (InTime index) start (before ++ turns))
    (created : Created (run (step host) start before) index session) :
    ∃ gameIds current, Shadowed (step host) (fun p current => OnCourse session.sessionId gameIds current p.server)
      (FlagMoves session.sessionId gameIds) (run (step host) start before) current turns := by
  have regular : Permitted (step host) (Regular False True index) start (before ++ turns) :=
    ((secluded.and undiverted).and timely).mono fun _ _ both =>
      ⟨both.1.1, False.elim, .inr both.1.2, fun _ => both.2⟩
  obtain ⟨gameIds, current, shadowed⟩ := kept_run booted fresh placed regular created
  exact ⟨gameIds, current, shadowed.mono (fun _ _ held => onCourse_underway held.2.1)
    fun _ _ _ _ held advances => flagMoves_advances held.2.1.progress advances⟩

/-- Another session is created with the ports and the participants of the first one. -/
def createdAgain (thread : Nat) : List Turn := .create sampleParams :: List.replicate 40 (.advance thread false)

/-- The first session is removed before anybody has joined it, and the next one gets its id. -/
def replaced : List Turn := createdSession ++ removal 1 18 ++ createdAgain 2

/-- Both players join the new session, start its first game, and its writes are committed. -/
def joined : List Turn :=
  .connect "pete" :: List.replicate 4 (.advance 3 false) ++ .connect "kate" :: List.replicate 4 (.advance 4 false) ++
    [.playerReady 0 true, .playerReady 1 true] ++ List.replicate 4 (.commit 0 false)

theorem session_on_course_sample : ∃ session : Session, session.sessionId = 1 ∧ ∃ gameIds current, Shadowed (step sampleHost)
    (fun p current => OnCourse session.sessionId gameIds current p.server) (FlagMoves session.sessionId gameIds)
    (run (step sampleHost) sampleStart replaced) current joined := by
  have secluded : Permitted (step sampleHost) (Secluded Vacant 2) sampleStart (replaced ++ joined) := by decide +kernel
  have undiverted : Permitted (step sampleHost) (Undiverted 2) sampleStart (replaced ++ joined) := by decide +kernel
  have timely : Permitted (step sampleHost) (InTime 2) sampleStart (replaced ++ joined) := by decide +kernel
  have resolved : (run (step sampleHost) sampleStart replaced).threads[2]?.any (createdBy 1) = true := by decide +kernel
  obtain ⟨session, same, created⟩ := created_of_createdBy resolved
  have placed : Placed sampleStart.server := fun _ member => nomatch member
  exact ⟨session, same, session_on_course sample_booted sample_fresh placed secluded undiverted timely created⟩

/-! Why the two conditions are there. -/

/-- The first session is removed while its first game is played, and the next one gets its id. -/
def removedInPlay : List Turn :=
  createdSession ++ (bothReady ++ List.replicate 4 (.commit 0 false) ++ removal 3 18) ++ createdAgain 4

/-- The timeouts of the first game go off one after the other. -/
def rounds : List Turn := (List.range 6).map (.fire 0 ·)

def flags (p : Process) : List (String × Nat × Bool) := p.server.db.games.map fun row => (row.gameId, row.sessionId, row.isCurrent)

/-- The 'stop' of the old game takes the flag from the first game of the new session, and gives it to no other. -/
theorem oldGame_unflags :
    (run (step sampleHost) sampleStart removedInPlay).threads[4]?.any (createdBy 1) = true ∧
      flags (run (step sampleHost) sampleStart removedInPlay) =
        [("gggg", 1, true), ("ggggg", 1, false), ("gggggg", 1, false), ("ggggggg", 1, false)] ∧
      flags (run (step sampleHost) sampleStart (removedInPlay ++ (rounds ++ List.replicate 7 (.commit 0 false)))) =
        [("gggg", 1, false), ("ggggg", 1, false), ("gggggg", 1, false), ("ggggggg", 1, false)] := by
  refine ⟨?_, ?_, ?_⟩ <;> decide +kernel

-- Without an earlier session, but with the flag's write committed before the ten saves it overtakes.
example : (run (step sampleHost) sampleStart (createdSession ++ bothReady ++ (rounds ++ [.commit 10 false]))).server.db.games.map
    (fun row => (row.gameId, row.isCurrent, row.gameData.endTime)) =
      [("", false, none), ("g", true, none), ("gg", false, none), ("ggg", false, none)] := by
  decide +kernel

end DfStudy.SessionCourse
