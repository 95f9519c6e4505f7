import DfStudy.GameSequence

/-! What a game hands over when it stops: the state it has stopped in, and after it the move to the next game. As long as
the writes of a session are committed in this order, a game that is no longer the current one has its end in the table. -/

namespace DfStudy.GameHandover
open Rounds Games GameFrames GameControl GameEffects Tables Servers MemGames ServerFrames Requests Processes Ownership
open Registry Mentions SessionSetup GameSequence LiveGame
open Quiescence (spontaneous Placed act_heap)

/-- An item of two lists is in the first or in the second. -/
theorem append_split {α : Type} {first second before after : List α} {item : α}
    (split : first ++ second = before ++ item :: after) :
    (∃ middle, first = before ++ item :: middle ∧ after = middle ++ second) ∨
      ∃ middle, before = first ++ middle ∧ second = middle ++ item :: after := by
  rcases List.append_eq_append_iff.mp split with ⟨middle, same, rest⟩ | ⟨middle, same, rest⟩
  · exact .inr ⟨middle, same, rest⟩
  · rcases List.cons_eq_append_iff.mp rest with ⟨rfl, behind⟩ | ⟨behind, rfl, last⟩
    · rw [List.append_nil] at same
      exact .inr ⟨[], by rw [List.append_nil, same], behind⟩
    · exact .inl ⟨behind, same, last⟩

/-! The effects of one turn. -/

/-- The states in the block have this end, and no move comes before the first of them. -/
structure Closing (endTime : Option Nat) (block : List Effect) : Prop where
  saves : ∀ data, .saveGame data ∈ block → data.endTime = endTime
  first : ∀ before sessionId gameId after, block = before ++ .setCurrentGame sessionId gameId :: after →
    ∃ data, .saveGame data ∈ before

section
variable {endTime : Option Nat} {front back : List Effect}

theorem closing_append (closing : Closing endTime front) (closing' : Closing endTime back) :
    Closing endTime (front ++ back) where
  saves := by
    intro data member
    rcases List.mem_append.mp member with before | after
    · exact closing.saves data before
    · exact closing'.saves data after
  first := by
    intro before sessionId gameId after split
    rcases append_split split with ⟨middle, same, _⟩ | ⟨middle, rfl, same⟩
    · exact closing.first before sessionId gameId middle same
    · obtain ⟨data, member⟩ := closing'.first middle sessionId gameId after same
      exact ⟨data, List.mem_append_right _ member⟩

/-- Once a state is in the block, any moves may follow. -/
theorem closing_after (closing : Closing endTime front) {data : GameData} (saved : .saveGame data ∈ front)
    (saves : ∀ data, .saveGame data ∈ back → data.endTime = endTime) : Closing endTime (front ++ back) where
  saves := by
    intro data member
    rcases List.mem_append.mp member with before | after
    · exact closing.saves data before
    · exact saves data after
  first := by
    intro before sessionId gameId after split
    rcases append_split split with ⟨middle, same, _⟩ | ⟨middle, rfl, _⟩
    · exact closing.first before sessionId gameId middle same
    · exact ⟨data, List.mem_append_left _ saved⟩

theorem closing_moveless (saves : ∀ data, .saveGame data ∈ front → data.endTime = endTime)
    (moveless : ∀ sessionId gameId, .setCurrentGame sessionId gameId ∉ front) : Closing endTime front where
  saves := saves
  first := by
    rintro before sessionId gameId after rfl
    exact absurd (List.mem_append_right before List.mem_cons_self) (moveless sessionId gameId)

theorem closing_nil : Closing endTime [] :=
  closing_moveless (fun _ member => nomatch member) fun _ _ member => nomatch member

theorem closing_flatMap {Callback : Type} {callbacks : List Callback} {block : Callback → List Effect}
    (each : ∀ callback, Closing endTime (block callback)) : Closing endTime (callbacks.flatMap block) := by
  induction callbacks with
  | nil => exact closing_nil
  | cons callback callbacks ih => exact closing_append (each callback) ih

theorem closing_trigger (event : Event) : Closing endTime [.trigger event] :=
  closing_moveless (fun _ member => nomatch List.mem_singleton.mp member) fun _ _ member => nomatch List.mem_singleton.mp member

end

section
variable (game : Game)

theorem mem_stateBlock {effect : Effect} (member : effect ∈ stateBlock game) :
    effect = .trigger .state ∨ effect = .saveGame game.state ∨ ∃ socket, effect = .emitState socket game.state := by
  rcases List.mem_cons.mp member with rfl | handed
  · exact .inl rfl
  · obtain ⟨callback, -, rfl⟩ := List.mem_map.mp handed
    cases callback with
    | saveGame => exact .inr (.inl rfl)
    | emitState socket => exact .inr (.inr ⟨socket, rfl⟩)

theorem closing_stateBlock : Closing game.endTime (stateBlock game) := by
  refine closing_moveless (fun data member => ?_) fun sessionId gameId member => ?_
  · rcases mem_stateBlock game member with same | same | ⟨_, same⟩
    · cases same
    · cases same
      rfl
    · cases same
  · rcases mem_stateBlock game member with same | same | ⟨_, same⟩ <;> cases same

theorem closing_answerBlock (answer : Answer) : Closing game.endTime (answerBlock game answer) :=
  closing_append (closing_trigger _) (closing_flatMap fun _ => closing_stateBlock game)

theorem closing_startBlock : Closing game.endTime (startBlock game) :=
  closing_append (closing_trigger _) (closing_flatMap fun _ => closing_stateBlock game)

theorem closing_roundBlock (round : Nat) : Closing game.endTime (roundBlock game round) := by
  refine closing_append (closing_trigger _) (closing_flatMap fun callback => ?_)
  cases callback with
  | triggerState => exact closing_stateBlock game
  | scheduledAttack grpcPort attack =>
    refine closing_moveless (fun data member => ?_) fun sessionId gameId member => ?_
    · obtain ⟨job, -, same⟩ := List.mem_map.mp member
      cases same
    · obtain ⟨job, -, same⟩ := List.mem_map.mp member
      cases same

theorem saves_stopBlock (data : GameData) (member : .saveGame data ∈ stopBlock game) : data.endTime = game.endTime := by
  rcases List.mem_cons.mp member with same | called
  · cases same
  · obtain ⟨callback, -, within⟩ := List.mem_flatMap.mp called
    cases callback with
    | triggerState => exact (closing_stateBlock game).saves data within
    | setCurrentGame sessionId gameId => cases List.mem_singleton.mp within

/-- The constructor's listener comes first. -/
theorem closing_stopBlock {game : Game} (constructed : Constructed game.cbMap) : Closing game.endTime (stopBlock game) := by
  obtain ⟨more, stop⟩ := constructed.stop
  obtain ⟨others, state⟩ := constructed.state
  have saved : .saveGame game.state ∈ [.trigger .stop] ++ stateBlock game := by
    refine List.mem_append_right _ (List.mem_cons_of_mem _ ?_)
    rw [state]
    exact List.mem_cons_self
  have block : stopBlock game = ([.trigger .stop] ++ stateBlock game) ++ more.flatMap (stopEffects game) := by
    unfold stopBlock
    rw [stop, List.flatMap_cons]
    rfl
  have saves := saves_stopBlock game
  rw [block] at saves ⊢
  exact closing_after (closing_append (closing_trigger _) (closing_stateBlock game)) saved
    fun data member => saves data (List.mem_append_right _ member)

end

/-- Every state a turn hands out has the end the game has then, and is handed out before a move. -/
theorem closes {s s' : LiveGame} {action : Action} (move : Move s action s') (wired : Wired s) :
    ∃ block, s'.effects = s.effects ++ block ∧ Closing s'.game.endTime block := by
  cases move with
  | still action refused => exact ⟨[], (List.append_nil _).symm, closing_nil⟩
  | readied players player block published ids =>
    refine ⟨_, rfl, @closing_append _ [.trigger _] _ (closing_trigger _) ?_⟩
    rcases published with rfl | ⟨rfl, _⟩
    · exact closing_stateBlock (withPlayers s players).game
    · exact closing_nil
  | exited child ok pid found =>
    rw [finish_eq found]
    refine ⟨_, rfl, closing_moveless (fun data member => ?_) fun sessionId gameId member => ?_⟩
    · rcases List.mem_cons.mp member with same | executed
      · cases same
      · obtain ⟨job, -, same⟩ := List.mem_map.mp executed
        cases same
    · rcases List.mem_cons.mp member with same | executed
      · cases same
      · obtain ⟨job, -, same⟩ := List.mem_map.mp executed
        cases same
  | joined socket => exact ⟨[], (List.append_nil _).symm, closing_nil⟩
  | begun players player roundObj phase first ids s' result =>
    subst result
    let game := entered (begin s players player) 0 roundObj
    refine ⟨[.trigger (.playerReady player)] ++ (roundBlock game 0 ++ (startBlock game ++ stateBlock game)), ?_, ?_⟩
    · change (((s.effects ++ _) ++ _) ++ _) = _
      simp only [List.append_assoc]
      rfl
    · exact closing_append (closing_trigger _) (closing_append (closing_roundBlock game 0)
        (closing_append (closing_startBlock game) (closing_stateBlock game)))
  | begunEmpty players player phase empty ids s' result =>
    subst result
    let game := ended ((begin s players player).setCurrentRound 0)
    refine ⟨[.trigger (.playerReady player)] ++ (stopBlock game ++ (startBlock game ++ stateBlock game)), ?_, ?_⟩
    · change (((s.effects ++ _) ++ _) ++ _) = _
      simp only [List.append_assoc]
      rfl
    · exact closing_append (closing_trigger _) (closing_append (@closing_stopBlock game wired)
        (closing_append (closing_startBlock game) (closing_stateBlock game)))
  | answered action answer roundObj phase current accepted => exact ⟨_, rfl, closing_answerBlock s.game answer⟩
  | advanced handle roundObj phase next pending =>
    exact ⟨_, rfl, closing_roundBlock (entered { s with timeouts := [] } (s.game.currentRound + 1) roundObj) _⟩
  | finished handle phase last pending =>
    exact ⟨_, rfl, @closing_stopBlock (ended (s.setCurrentRound (s.game.currentRound + 1))) wired⟩

/-! The writes a turn forks. -/

structure Handed (game game' : LiveGame) (tasks : List Task) : Prop where
  saves : ∀ gameId data, .saveGame gameId data ∈ tasks → gameId = idOf game ∧ data.endTime = game'.game.endTime
  first : ∀ before sessionId gameId after, tasks = before ++ .setCurrentGame sessionId gameId :: after →
    ∃ data, .saveGame (idOf game) data ∈ before

theorem handed_forks {game : LiveGame} (phase : Phase game) (wired : Wired game) (action : Action) :
    Handed game (Games.step game action) (forks (Games.step game action) game.effects.length) := by
  obtain ⟨block, effects, closing⟩ := closes (move_step phase wired action) wired
  have named : (Games.step game action).game.gameId = idOf game := (extends_step game action).alike.gameId
  have forked : forks (Games.step game action) game.effects.length = block.filterMap (forkOf (idOf game)) := by
    unfold forks
    rw [effects, List.drop_left, named]
  rw [forked]
  constructor
  · intro gameId data member
    obtain ⟨effect, present, made⟩ := List.mem_filterMap.mp member
    cases effect with
    | saveGame saved =>
      cases made
      exact ⟨rfl, closing.saves _ present⟩
    | _ => cases made
  · intro before sessionId gameId after split
    obtain ⟨front, back, rfl, rfl, rest⟩ := List.filterMap_eq_append_iff.mp split
    obtain ⟨skipped, effect, later, rfl, silent, made, -⟩ := List.filterMap_eq_cons_iff.mp rest
    cases effect with
    | setCurrentGame session next =>
      rw [← List.append_assoc] at closing
      obtain ⟨data, member⟩ := closing.first (front ++ skipped) session next later rfl
      rcases List.mem_append.mp member with there | passed
      · exact ⟨data, List.mem_filterMap.mpr ⟨_, there, rfl⟩⟩
      · have impossible := silent _ passed
        cases impossible
    | _ => cases made

/-! Writes that concern the games of a session, and what becomes of an end they bring. -/

def concerns (gameIds : List String) (task : Task) : Bool := subject task ∈ gameIds

def pending (gameIds : List String) (tasks : List Task) : List Task := tasks.filter (concerns gameIds)

/-- Whether the row of the game has an end after these writes, by whether it has one before. -/
def endsAfter (gameId : String) (ended : Bool) : List Task → Bool
  | [] => ended
  | .saveGame other data :: tasks => endsAfter gameId (if other = gameId then data.endTime.isSome else ended) tasks
  | .setCurrentGame _ _ :: tasks => endsAfter gameId ended tasks

theorem endsAfter_append (gameId : String) (ended : Bool) (first second : List Task) :
    endsAfter gameId ended (first ++ second) = endsAfter gameId (endsAfter gameId ended first) second := by
  induction first generalizing ended with
  | nil => rfl
  | cons task first ih => cases task <;> exact ih _

theorem endsAfter_true {gameId : String} {tasks : List Task} {ended : Bool}
    (all : ∀ data, .saveGame gameId data ∈ tasks → data.endTime.isSome)
    (some : ended = true ∨ ∃ data, .saveGame gameId data ∈ tasks) : endsAfter gameId ended tasks = true := by
  induction tasks generalizing ended with
  | nil =>
    rcases some with same | ⟨_, member⟩
    · exact same
    · cases member
  | cons task tasks ih =>
    have rest : ∀ data, .saveGame gameId data ∈ tasks → data.endTime.isSome := fun data member =>
      all data (List.mem_cons_of_mem _ member)
    cases task with
    | saveGame other data =>
      apply ih rest
      by_cases same : other = gameId
      · subst same
        exact .inl ((if_pos rfl).trans (all data List.mem_cons_self))
      · rw [if_neg same]
        refine some.imp_right fun ⟨saved, member⟩ => ?_
        rcases List.mem_cons.mp member with first | later
        · cases first
          exact absurd rfl same
        · exact ⟨saved, later⟩
    | setCurrentGame sessionId next =>
      apply ih rest
      refine some.imp_right fun ⟨saved, member⟩ => ?_
      rcases List.mem_cons.mp member with first | later
      · cases first
      · exact ⟨saved, later⟩

theorem pending_append (gameIds : List String) (first second : List Task) :
    pending gameIds (first ++ second) = pending gameIds first ++ pending gameIds second :=
  List.filter_append _ _

theorem mem_pending {gameIds : List String} {task : Task} {tasks : List Task} :
    task ∈ pending gameIds tasks ↔ task ∈ tasks ∧ subject task ∈ gameIds := by
  simp [pending, concerns]

/-- The writes of the session are committed in the order in which they have been forked. -/
def InOrder (gameIds : List String) (tasks : List Task) (index : Nat) : Prop :=
  ∀ task, tasks[index]? = some task → subject task ∈ gameIds → pending gameIds (tasks.take index) = []

theorem pending_erase {gameIds : List String} {tasks : List Task} {index : Nat} {task : Task}
    (found : tasks[index]? = some task) (ordered : InOrder gameIds tasks index) :
    subject task ∉ gameIds ∧ pending gameIds (tasks.eraseIdx index) = pending gameIds tasks ∨
      subject task ∈ gameIds ∧ pending gameIds tasks = task :: pending gameIds (tasks.eraseIdx index) := by
  obtain ⟨bound, here⟩ := List.getElem?_eq_some_iff.mp found
  have parts : tasks = tasks.take index ++ [task] ++ tasks.drop (index + 1) := by
    rw [← here, List.append_assoc, List.singleton_append, ← List.drop_eq_getElem_cons bound, List.take_append_drop]
  rw [List.eraseIdx_eq_take_drop_succ, pending_append]
  have whole := congrArg (pending gameIds) parts
  rw [pending_append, pending_append] at whole
  by_cases listed : subject task ∈ gameIds
  · have none := ordered task found listed
    have one : pending gameIds [task] = [task] := by simp [pending, concerns, listed]
    rw [none, one] at whole
    rw [none]
    exact .inr ⟨listed, whole⟩
  · have one : pending gameIds [task] = [] := by simp [pending, concerns, listed]
    rw [one, List.append_nil] at whole
    exact .inl ⟨listed, whole.symm⟩

/-! The ends of the games in the table. -/

/-- The games before the current one have their ends in the table, and keep them. The current one has its end there by the
time the move to the next game is committed. -/
structure Relay (gameIds : List String) (current : Nat) (table : List GameRow) (tasks : List Task) : Prop where
  rows : ∀ place gameId, place < current → gameIds[place]? = some gameId → ∀ row ∈ table, row.gameId = gameId →
    row.gameData.endTime.isSome
  saves : ∀ place gameId, place < current → gameIds[place]? = some gameId → ∀ data, .saveGame gameId data ∈ tasks →
    data.endTime.isSome
  handing : ∀ gameId before sessionId next after, gameIds[current]? = some gameId →
    pending gameIds tasks = before ++ .setCurrentGame sessionId next :: after →
      (∀ row ∈ table, row.gameId = gameId → endsAfter gameId row.gameData.endTime.isSome before = true) ∧
        ∀ data, .saveGame gameId data ∈ after → data.endTime.isSome

section
variable {gameIds : List String} {current : Nat} {table : List GameRow} {tasks : List Task}

theorem pending_moveless (none : requested gameIds tasks = []) (sessionId : Nat) (next : String) :
    .setCurrentGame sessionId next ∉ pending gameIds tasks := by
  intro member
  obtain ⟨forked, listed⟩ := mem_pending.mp member
  have asked : (sessionId, next) ∈ requested gameIds tasks :=
    List.mem_filter.mpr ⟨List.mem_filterMap.mpr ⟨_, forked, rfl⟩, decide_eq_true listed⟩
  rw [none] at asked
  cases asked

theorem relay_first (none : requested gameIds tasks = []) : Relay gameIds 0 table tasks where
  rows := fun _ _ before => absurd before (Nat.not_lt_zero _)
  saves := fun _ _ before => absurd before (Nat.not_lt_zero _)
  handing := fun _ before _ _ _ _ split =>
    absurd (split ▸ List.mem_append_right before List.mem_cons_self) (pending_moveless none _ _)

/-- Rows of other sessions come and go. -/
theorem Relay.rewrite (relay : Relay gameIds current table tasks) {table' : List GameRow}
    (kept : ∀ row' ∈ table', row'.gameId ∈ gameIds → ∃ row ∈ table, row.gameId = row'.gameId ∧ row.gameData = row'.gameData) :
    Relay gameIds current table' tasks where
  rows := by
    rintro place gameId before found row' member rfl
    obtain ⟨row, present, same, data⟩ := kept row' member (List.mem_of_getElem? found)
    rw [← data]
    exact relay.rows place _ before found row present same
  saves := relay.saves
  handing := by
    intro gameId before sessionId next after found split
    obtain ⟨ends, saves⟩ := relay.handing gameId before sessionId next after found split
    refine ⟨?_, saves⟩
    rintro row' member rfl
    obtain ⟨row, present, same, data⟩ := kept row' member (List.mem_of_getElem? found)
    rw [← data]
    exact ends row present same

/-- Writes are forked that move the session nowhere. Those of a game that has been left, or is being left, bring its end. -/
theorem Relay.issue (relay : Relay gameIds current table tasks) {new : List Task} (none : requested gameIds new = [])
    (left : ∀ place gameId, place < current ∨ place = current ∧ requested gameIds tasks ≠ [] →
      gameIds[place]? = some gameId → ∀ data, .saveGame gameId data ∈ new → data.endTime.isSome) :
    Relay gameIds current table (tasks ++ new) where
  rows := relay.rows
  saves := by
    intro place gameId before found data member
    rcases List.mem_append.mp member with old | new
    · exact relay.saves place gameId before found data old
    · exact left place gameId (.inl before) found data new
  handing := by
    intro gameId before sessionId next after found split
    rw [pending_append] at split
    rcases append_split split with ⟨middle, old, rfl⟩ | ⟨middle, rfl, last⟩
    · obtain ⟨ends, saves⟩ := relay.handing gameId before sessionId next middle found old
      refine ⟨ends, fun data member => ?_⟩
      rcases List.mem_append.mp member with early | late
      · exact saves data early
      · refine left current gameId (.inr ⟨rfl, fun idle => ?_⟩) found data (mem_pending.mp late).1
        exact pending_moveless idle sessionId next (old ▸ List.mem_append_right before List.mem_cons_self)
    · exact absurd (last ▸ List.mem_append_right middle List.mem_cons_self) (pending_moveless none _ _)

/-- The current game stops, and hands over. -/
theorem Relay.close (relay : Relay gameIds current table tasks) {new : List Task} {game game' : LiveGame}
    (idle : requested gameIds tasks = []) (found : gameIds[current]? = some (idOf game))
    (handed : Handed game game' new) (stopped : game'.game.endTime.isSome) :
    Relay gameIds current table (tasks ++ new) where
  rows := relay.rows
  saves := by
    intro place gameId before listed data member
    rcases List.mem_append.mp member with old | new
    · exact relay.saves place gameId before listed data old
    · rw [(handed.saves gameId data new).2]
      exact stopped
  handing := by
    intro gameId before sessionId next after listed split
    have own : idOf game = gameId := Option.some.inj (found.symm.trans listed)
    rw [pending_append] at split
    rcases append_split split with ⟨middle, old, _⟩ | ⟨middle, rfl, last⟩
    · exact absurd (old ▸ List.mem_append_right before List.mem_cons_self) (pending_moveless idle _ _)
    · obtain ⟨front, back, rfl, rfl, rest⟩ := List.filter_eq_append_iff.mp last
      obtain ⟨skipped, later, rfl, unlisted, -, rfl⟩ := List.filter_eq_cons_iff.mp rest
      have all : ∀ data, .saveGame gameId data ∈ front ++ (skipped ++ .setCurrentGame sessionId next :: later) →
          data.endTime.isSome := by
        intro data member
        rw [(handed.saves gameId data member).2]
        exact stopped
      refine ⟨fun row _ _ => ?_, fun data member => ?_⟩
      · rw [endsAfter_append]
        refine endsAfter_true (fun data member => ?_) (.inr ?_)
        · exact all data (List.mem_append_left _ (mem_pending.mp member).1)
        · obtain ⟨data, saved⟩ := handed.first (front ++ skipped) sessionId next later (by simp)
          have concerned : idOf game ∈ gameIds := List.mem_of_getElem? found
          rw [own] at saved concerned
          rcases List.mem_append.mp saved with there | passed
          · exact ⟨data, mem_pending.mpr ⟨there, concerned⟩⟩
          · exact absurd (decide_eq_true concerned) (unlisted _ passed)
      · have there := (mem_pending.mp member).1
        exact all data (List.mem_append_right _ (List.mem_append_right _ (List.mem_cons_of_mem _ there)))

/-! Committed writes. -/

theorem mem_updateGame {db : Database} {gameId : String} {data : GameData} {row' : GameRow}
    (member : row' ∈ (db.updateGame gameId data).games) : ∃ row ∈ db.games, row.gameId = row'.gameId ∧
      row'.gameData.endTime = if gameId = row.gameId then data.endTime else row.gameData.endTime := by
  obtain ⟨row, present, rfl⟩ := List.mem_map.mp member
  refine ⟨row, present, ?_⟩
  by_cases same : row.gameId = gameId
  · rw [if_pos same, if_pos same.symm]
    exact ⟨rfl, rfl⟩
  · rw [if_neg same, if_neg (Ne.symm same)]
    exact ⟨rfl, rfl⟩

theorem mem_setCurrentGame {db : Database} {sessionId : Nat} {gameId : String} {row' : GameRow}
    (member : row' ∈ (db.setCurrentGame sessionId gameId).games) : ∃ row ∈ db.games, row.gameId = row'.gameId ∧
      row.gameData = row'.gameData := by
  obtain ⟨cleared, among, rfl⟩ := List.mem_map.mp member
  obtain ⟨row, present, rfl⟩ := List.mem_map.mp among
  refine ⟨row, present, ?_⟩
  split <;> split <;> exact ⟨rfl, rfl⟩

variable {db : Database} {index : Nat}

/-- A write that is about no game of the session. -/
theorem Relay.erase (relay : Relay gameIds current db.games tasks) {task : Task} (found : tasks[index]? = some task)
    (ordered : InOrder gameIds tasks index) (unlisted : subject task ∉ gameIds) :
    Relay gameIds current db.games (tasks.eraseIdx index) := by
  have same : pending gameIds (tasks.eraseIdx index) = pending gameIds tasks := by
    rcases pending_erase found ordered with ⟨_, same⟩ | ⟨listed, _⟩
    · exact same
    · exact absurd listed unlisted
  refine ⟨relay.rows, fun place gameId before listed data member => ?_, ?_⟩
  · exact relay.saves place gameId before listed data (List.mem_of_mem_eraseIdx member)
  · rw [same]
    exact relay.handing

theorem Relay.pass (relay : Relay gameIds current db.games tasks) {task : Task} (found : tasks[index]? = some task)
    (ordered : InOrder gameIds tasks index) (unlisted : subject task ∉ gameIds) :
    Relay gameIds current (commitTask db task).games (tasks.eraseIdx index) := by
  refine (relay.erase found ordered unlisted).rewrite fun row' member listed => ?_
  cases task with
  | saveGame gameId data =>
    obtain ⟨row, present, rfl⟩ := List.mem_map.mp member
    have apart : row.gameId ≠ gameId := by
      rintro rfl
      rw [if_pos rfl] at listed
      exact unlisted listed
    rw [if_neg apart]
    exact ⟨row, present, rfl, rfl⟩
  | setCurrentGame sessionId gameId => exact mem_setCurrentGame member

theorem Relay.save (relay : Relay gameIds current db.games tasks) {gameId : String} {data : GameData}
    (found : tasks[index]? = some (.saveGame gameId data)) (ordered : InOrder gameIds tasks index)
    (listed : gameId ∈ gameIds) :
    Relay gameIds current (db.updateGame gameId data).games (tasks.eraseIdx index) := by
  have first : pending gameIds tasks = .saveGame gameId data :: pending gameIds (tasks.eraseIdx index) := by
    rcases pending_erase found ordered with ⟨unlisted, _⟩ | ⟨_, first⟩
    · exact absurd listed unlisted
    · exact first
  constructor
  · rintro place _ before there row' member rfl
    obtain ⟨row, present, same, ends⟩ := mem_updateGame member
    rw [ends]
    split
    next own => exact relay.saves place gameId before (by rw [there, own, same]) data (List.mem_of_getElem? found)
    next => exact relay.rows place _ before there row present same
  · exact fun place gameId before there data member =>
      relay.saves place gameId before there data (List.mem_of_mem_eraseIdx member)
  · intro other before sessionId next after there split
    rw [split] at first
    obtain ⟨ends, saves⟩ := relay.handing other (.saveGame gameId data :: before) sessionId next after there first
    refine ⟨?_, saves⟩
    rintro row' member rfl
    obtain ⟨row, present, same, written⟩ := mem_updateGame member
    have ended := ends row present same
    unfold endsAfter at ended
    rw [written, ← same, apply_ite Option.isSome]
    rw [← same] at ended
    exact ended

/-- The move to the next game. -/
theorem Relay.move (relay : Relay gameIds current db.games tasks) {sessionId : Nat} {gameId : String}
    (found : tasks[index]? = some (.setCurrentGame sessionId gameId)) (ordered : InOrder gameIds tasks index)
    (listed : gameId ∈ gameIds) (last : requested gameIds (tasks.eraseIdx index) = []) :
    Relay gameIds (current + 1) (db.setCurrentGame sessionId gameId).games (tasks.eraseIdx index) := by
  have first : pending gameIds tasks = [] ++ .setCurrentGame sessionId gameId :: pending gameIds (tasks.eraseIdx index) := by
    rcases pending_erase found ordered with ⟨unlisted, _⟩ | ⟨_, first⟩
    · exact absurd listed unlisted
    · exact first
  constructor
  · rintro place _ before there row' member rfl
    obtain ⟨row, present, same, data⟩ := mem_setCurrentGame member
    rw [← data]
    rcases Nat.lt_succ_iff_lt_or_eq.mp before with earlier | rfl
    · exact relay.rows place _ earlier there row present same
    · exact (relay.handing _ [] sessionId gameId _ there first).1 row present same
  · intro place other before there data member
    rcases Nat.lt_succ_iff_lt_or_eq.mp before with earlier | rfl
    · exact relay.saves place other earlier there data (List.mem_of_mem_eraseIdx member)
    · have still := mem_pending.mpr ⟨member, List.mem_of_getElem? there⟩
      exact (relay.handing other [] sessionId gameId _ there first).2 data still
  · exact fun other before session next after _ split =>
      absurd (split ▸ List.mem_append_right before List.mem_cons_self) (pending_moveless last _ _)

end

/-! The server. -/

/-- A server whose table and writes are those of a session in progress. -/
def Recorded (gameIds : List String) (current : Nat) (s : Server) : Prop := Relay gameIds current s.db.games s.tasks

section
variable {sessionId : Nat} {gameIds : List String} {current : Nat} {s : Server}

theorem Recorded.act (recorded : Recorded gameIds current s) (progress : InProgress sessionId gameIds current s)
    {address : Nat} {action : Action}
    (allowed : ∀ game, s.heap[address]? = some game → ∀ place, gameIds[place]? = some (idOf game) → current < place →
      spontaneous action) : Recorded gameIds current (act s address action) := by
  unfold Processes.act
  split
  next => exact recorded
  next game found =>
    have there := List.mem_of_getElem? found
    by_cases own : ∃ place : Nat, gameIds[place]? = some (idOf game)
    · obtain ⟨place, listed⟩ := own
      have turn := progress.cast.games game there place listed
      have handed := handed_forks turn.phase turn.wired action
      rcases @InTurn.forks gameIds _ _ _ _ turn (allowed game found place listed) with ⟨none, same⟩ | ⟨rfl, stops, _⟩
      · refine recorded.issue none fun place' gameId left listed' data member => ?_
        obtain ⟨rfl, ends⟩ := handed.saves gameId data member
        have here := progress.sheet.place listed' listed
        subst here
        rw [ends, same]
        rcases left with before | ⟨rfl, moving⟩
        · exact turn.ended before
        · exact (progress.moves.resolve_left moving).stopped game there listed
      · exact recorded.close (progress.idle there listed stops.running) listed handed stops.stopped
    · have none : among gameIds (hooks game) = [] := by
        rcases progress.cast.hooks game there with none | ⟨place, _, listed, _⟩
        · exact none
        · exact (own ⟨place, listed⟩).elim
      refine recorded.issue (forks_hooks none) fun place gameId _ listed data member => ?_
      rcases forks_step game action _ member with ⟨_, same, _⟩ | ⟨_, _, same, _⟩
      · cases same
        exact (own ⟨place, listed⟩).elim
      · cases same

theorem Recorded.actFrom (recorded : Recorded gameIds current s) (progress : InProgress sessionId gameIds current s)
    (placed : Placed s)
    (barred : ∀ entry ∈ s.sockets, ∀ gameId, entry.gameId = some gameId → ¬Closed gameIds current gameId) (socket : Nat)
    (action : String → Action) : Recorded gameIds current (actFrom s socket action) := by
  rcases actFrom_ways s socket action with ⟨_, same⟩ | ⟨playerId, gameId, joined, ⟨_, same⟩ | ⟨ref, looked, same⟩⟩
  · rw [same]
    exact recorded
  · rw [same]
    exact recorded
  · obtain ⟨member, own⟩ := getGame_ok looked
    obtain ⟨known, there, called⟩ := placed ref member
    rw [same]
    refine recorded.act progress fun game found place listed later => ?_
    rw [there] at found
    cases found
    have mine : idOf known = gameId := called.trans own
    rw [mine] at listed
    exact absurd ⟨place, later, listed⟩ (barred _ (List.mem_of_getElem? joined) gameId rfl)

theorem Recorded.watch (recorded : Recorded gameIds current s) (admin : Nat) :
    Recorded gameIds current (watch s admin) := by
  rw [watch_frame]
  exact recorded

/-- What other requests do. -/
theorem Recorded.perform (recorded : Recorded gameIds current s) {op : Op} (harmless : Harmless sessionId gameIds op)
    (host : Host) (fails : Bool) : Recorded gameIds current (perform host fails op s).2 := by
  have rewritten : Relay gameIds current (Servers.perform host fails op s).2.db.games s.tasks := by
    refine recorded.rewrite fun row' member listed => ?_
    rcases perform_games host fails op s with same | ⟨row, rfl, same⟩ | ⟨gameId, rfl, same⟩
    · rw [same] at member
      exact ⟨row', member, rfl, rfl⟩
    · rw [same] at member
      rcases List.mem_append.mp member with old | new
      · exact ⟨row', old, rfl, rfl⟩
      · rw [List.mem_singleton.mp new] at listed
        exact absurd listed harmless.2
    · rw [same] at member
      exact ⟨row', (List.mem_filter.mp member).1, rfl, rfl⟩
  unfold Recorded
  rcases perform_tasks host fails op s with same | ⟨rows, rfl⟩
  · rw [same]
    exact rewritten
  · obtain ⟨forked, tasks, saves⟩ := (initGameRows_loads host rows s).tasks
    have unlisted : ∀ task ∈ forked, ∃ gameId data, task = .saveGame gameId data ∧ gameId ∉ gameIds := by
      intro task member
      obtain ⟨data, saved, present, rfl, _⟩ := saves task member
      obtain ⟨row, among, rfl⟩ := List.mem_map.mp present
      exact ⟨_, saved, rfl, harmless row ((List.perm_insertionSort _ rows).mem_iff.mp among)⟩
    have none : requested gameIds forked = [] := requested_saves fun task member => by
      obtain ⟨gameId, data, same, _⟩ := unlisted task member
      exact ⟨gameId, data, same⟩
    change Relay gameIds current _ (initGameRows host rows s).2.tasks
    rw [tasks]
    refine rewritten.issue none fun place gameId _ listed data member => ?_
    obtain ⟨_, _, same, away⟩ := unlisted _ member
    cases same
    exact absurd (List.mem_of_getElem? listed) away

end

/-! Writes in time. -/

/-- The write is about a game of the session. -/
def Concerns (db : Database) (sessionId : Nat) (task : Task) : Prop :=
  ∃ row ∈ db.games, row.gameId = subject task ∧ row.sessionId = sessionId

/-- The writes about games of the session are committed in the order in which they have been forked, and none fails. -/
def Prompt (sessionId : Nat) (s : Server) (turn : Turn) : Prop :=
  ∀ index fails task, turn = .commit index fails → s.tasks[index]? = some task → Concerns s.db sessionId task →
    fails = false ∧ ∀ earlier ∈ s.tasks.take index, ¬Concerns s.db sessionId earlier

instance (db : Database) (sessionId : Nat) (task : Task) : Decidable (Concerns db sessionId task) :=
  decidable_of_iff (db.games.any fun row => row.gameId = subject task ∧ row.sessionId = sessionId) <| by
    simp [Concerns]

/-- `Prompt` as a test. -/
def promptly (sessionId : Nat) (s : Server) : Turn → Bool
  | .commit index fails => s.tasks[index]?.all fun task => !decide (Concerns s.db sessionId task) ||
      !fails && (s.tasks.take index).all fun earlier => !decide (Concerns s.db sessionId earlier)
  | _ => true

theorem promptly_iff (sessionId : Nat) (s : Server) (turn : Turn) : promptly sessionId s turn = true ↔ Prompt sessionId s turn := by
  cases turn with
  | commit index fails =>
    unfold promptly
    rw [Option.all_eq_true]
    constructor
    · rintro tested _ _ task ⟨⟩ found concerned
      simpa [concerned] using tested task found
    · intro prompt task found
      by_cases concerned : Concerns s.db sessionId task
      · simpa [concerned] using prompt index fails task rfl found concerned
      · simp [concerned]
  | _ => exact iff_of_true rfl fun _ _ _ impossible => nomatch impossible

instance (sessionId : Nat) (s : Server) (turn : Turn) : Decidable (Prompt sessionId s turn) :=
  decidable_of_iff _ (promptly_iff sessionId s turn)

section
variable {sessionId : Nat} {gameIds : List String} {current : Nat} {s : Server}

theorem concerns_iff (sheet : Sheet sessionId gameIds current s.db.games) {task : Task} :
    Concerns s.db sessionId task ↔ subject task ∈ gameIds := by
  constructor
  · rintro ⟨row, member, same, own⟩
    rw [← same]
    exact sheet.listed member own
  · exact sheet.stored

theorem Prompt.ordered {index : Nat} {fails : Bool} (prompt : Prompt sessionId s (.commit index fails))
    (sheet : Sheet sessionId gameIds current s.db.games) : InOrder gameIds s.tasks index := by
  intro task found listed
  have none := (prompt index fails task rfl found ((concerns_iff sheet).mpr listed)).2
  refine List.filter_eq_nil_iff.mpr fun earlier member concerned => ?_
  exact none earlier member ((concerns_iff sheet).mpr (of_decide_eq_true concerned))

theorem Recorded.commit (recorded : Recorded gameIds current s) {index : Nat} {fails : Bool} {task : Task}
    (prompt : Prompt sessionId s (.commit index fails)) (sheet : Sheet sessionId gameIds current s.db.games)
    (found : s.tasks[index]? = some task)
    (unmoved : fails = false → subject task ∈ gameIds → ∃ gameId data, task = .saveGame gameId data) :
    Recorded gameIds current (commit s index fails) := by
  have ordered := prompt.ordered sheet
  unfold Processes.commit
  rw [found]
  by_cases listed : subject task ∈ gameIds
  · obtain ⟨rfl, _⟩ := prompt index fails task rfl found ((concerns_iff sheet).mpr listed)
    obtain ⟨gameId, data, rfl⟩ := unmoved rfl listed
    exact Relay.save recorded found ordered listed
  · cases fails with
    | true => exact Relay.erase recorded found ordered listed
    | false => exact Relay.pass recorded found ordered listed

end

end DfStudy.GameHandover
