import DfStudy.GameRestart
import DfStudy.LoadedGame
import DfStudy.Processes

/-! The saves of a game. Every 'state' event takes a snapshot and forks an UPDATE on a connection of its own. The
updates of one game wait for nothing, so they take effect in any order. -/

namespace DfStudy.SaveOrder
open Games GameEffects LoadedGame GameRestart Tables Servers Support.Machine

def saved : Effect → Option GameData
  | .saveGame data => some data
  | _ => none

/-- The snapshots taken at the 'state' events of a process, in their order. -/
def snapshots (game : LiveGame) : List GameData := game.effects.filterMap saved

/-- One game, and the updates of its row, each known by the number of its event. -/
structure Saving where
  game : LiveGame
  db : Database
  pending : List Nat
  /-- The updates that have taken effect, in that order. -/
  served : List Nat := []

def loadedWith (game : LiveGame) (db : Database) : Saving where
  game := game
  db := db
  pending := List.range (snapshots game).length

inductive Turn where
  | act (action : Action)
  | listen (listener : Listener)
  /-- The UPDATE of this event takes effect. -/
  | serve (number : Nat)
  /-- So does a write of another game, or of the session's pointer. -/
  | write (task : Task)

def saveOf (gameId : String) : Task → Bool
  | .saveGame other _ => other = gameId
  | .setCurrentGame _ _ => false

def serve (p : Saving) (number : Nat) : Saving :=
  match (snapshots p.game)[number]? with
  | none => p
  | some data =>
    if number ∈ p.pending then
      { p with
        db := p.db.updateGame p.game.game.gameId data
        pending := p.pending.erase number
        served := p.served ++ [number] }
    else p

def write (p : Saving) (task : Task) : Saving :=
  if saveOf p.game.game.gameId task then p else { p with db := Processes.commitTask p.db task }

def step (p : Saving) : Turn → Saving
  | .act action =>
    let game := Games.step p.game action
    let known := (snapshots p.game).length
    { p with game, pending := p.pending ++ List.range' known ((snapshots game).length - known) }
  | .listen listener => { p with game := listen p.game listener }
  | .serve number => serve p number
  | .write task => write p task

/-! What every turn keeps. -/

/-- The row holds what the last update to take effect has written. -/
structure Sound (gameId : String) (p : Saving) : Prop where
  same : p.game.game.gameId = gameId
  known : ∃ row ∈ p.db.games, row.gameId = gameId
  texts : ∀ data ∈ snapshots p.game, data.json = data
  events : (p.pending ++ p.served).Perm (List.range (snapshots p.game).length)
  stored : ∀ number, p.served.getLast? = some number → ∀ row ∈ p.db.games, row.gameId = gameId →
    (snapshots p.game)[number]? = some row.gameData

theorem texts_of_issued {game : Game} {block : List Effect} (issued : ∀ effect ∈ block, Issued game effect) :
    ∀ data ∈ block.filterMap saved, data.json = data := by
  intro data member
  obtain ⟨effect, present, taken⟩ := List.mem_filterMap.mp member
  have cause := issued effect present
  cases effect with
  | saveGame snapshot =>
    cases taken
    obtain ⟨saved, rfl, -, -⟩ := cause
    exact state_json saved
  | _ => cases taken

/-- A turn of the game adds snapshots. -/
theorem snapshots_step (game : LiveGame) (action : Action) : ∃ more,
    snapshots (Games.step game action) = snapshots game ++ more ∧ ∀ data ∈ more, data.json = data := by
  obtain ⟨-, block, effects, issued⟩ := extends_step game action
  exact ⟨block.filterMap saved, by unfold snapshots; rw [effects, List.filterMap_append], texts_of_issued issued⟩

/-- The rows an update does not concern keep their data. -/
theorem updateGame_rows {db : Database} {gameId : String} {data : GameData} {row : GameRow}
    (member : row ∈ (db.updateGame gameId data).games) : row.gameId = gameId ∧ row.gameData = data.json ∨
      row.gameId ≠ gameId ∧ row ∈ db.games := by
  obtain ⟨old, present, rfl⟩ := List.mem_map.mp member
  by_cases own : old.gameId = gameId
  · rw [if_pos own]
    exact .inl ⟨own, rfl⟩
  · rw [if_neg own]
    exact .inr ⟨own, present⟩

theorem updateGame_known {db : Database} {gameId other : String} {data : GameData}
    (known : ∃ row ∈ db.games, row.gameId = gameId) : ∃ row ∈ (db.updateGame other data).games, row.gameId = gameId := by
  obtain ⟨row, member, own⟩ := known
  refine ⟨_, List.mem_map_of_mem member, ?_⟩
  split <;> exact own

/-- Other writes leave the data of the game's row alone. -/
theorem commitTask_rows {db : Database} {gameId : String} {task : Task} (other : saveOf gameId task = false) :
    (∀ row ∈ (Processes.commitTask db task).games, row.gameId = gameId →
      ∃ old ∈ db.games, old.gameId = gameId ∧ old.gameData = row.gameData) ∧
    ((∃ row ∈ db.games, row.gameId = gameId) → ∃ row ∈ (Processes.commitTask db task).games, row.gameId = gameId) := by
  cases task with
  | saveGame id data =>
    have apart : id ≠ gameId := by simpa [saveOf] using other
    refine ⟨fun row member own => ?_, fun known => updateGame_known known⟩
    rcases updateGame_rows member with ⟨same, -⟩ | ⟨-, present⟩
    · exact absurd (same.symm.trans own) apart
    · exact ⟨row, present, own, rfl⟩
  | setCurrentGame sessionId next =>
    refine ⟨fun row member own => ?_, fun ⟨row, member, own⟩ => ?_⟩
    · obtain ⟨cleared, inner, rfl⟩ := List.mem_map.mp member
      obtain ⟨old, present, rfl⟩ := List.mem_map.mp inner
      refine ⟨old, present, ?_, ?_⟩
      · split at own <;> split at own <;> exact own
      · split <;> split <;> rfl
    · refine ⟨_, List.mem_map_of_mem (List.mem_map_of_mem member), ?_⟩
      split <;> split <;> exact own

theorem events_added {pending served : List Nat} {count : Nat} (events : (pending ++ served).Perm (List.range count))
    (more : Nat) : (pending ++ List.range' count more ++ served).Perm (List.range (count + more)) := by
  rw [List.range_add, ← List.range'_eq_map_range]
  calc pending ++ List.range' count more ++ served
    _ = pending ++ (List.range' count more ++ served) := List.append_assoc ..
    _ |>.Perm (pending ++ (served ++ List.range' count more)) := (List.perm_append_comm).append_left pending
    _ = pending ++ served ++ List.range' count more := (List.append_assoc ..).symm
    _ |>.Perm (List.range count ++ List.range' count more) := events.append_right _

theorem events_served {pending served : List Nat} {count number : Nat}
    (events : (pending ++ served).Perm (List.range count)) (waiting : number ∈ pending) :
    (pending.erase number ++ (served ++ [number])).Perm (List.range count) := by
  have moved : (pending.erase number ++ (served ++ [number])).Perm (number :: pending.erase number ++ served) := by
    rw [← List.append_assoc]
    exact List.perm_append_singleton number _
  exact moved.trans (((List.perm_cons_erase waiting).symm.append_right served).trans events)

theorem sound_step {gameId : String} {p : Saving} (sound : Sound gameId p) (turn : Turn) : Sound gameId (step p turn) := by
  cases turn with
  | act action =>
    obtain ⟨more, taken, texts⟩ := snapshots_step p.game action
    have alike := (extends_step p.game action).alike
    refine ⟨alike.gameId.trans sound.same, sound.known, ?_, ?_, ?_⟩
    · intro data member
      change data ∈ snapshots (Games.step p.game action) at member
      rw [taken] at member
      rcases List.mem_append.mp member with old | new
      · exact sound.texts data old
      · exact texts data new
    · change (p.pending ++ List.range' (snapshots p.game).length
        ((snapshots (Games.step p.game action)).length - (snapshots p.game).length) ++ p.served).Perm
          (List.range (snapshots (Games.step p.game action)).length)
      rw [taken, List.length_append, Nat.add_sub_cancel_left]
      exact events_added sound.events more.length
    · intro number last row member own
      have before := sound.stored number last row member own
      change (snapshots (Games.step p.game action))[number]? = _
      rw [taken, List.getElem?_append_left (List.getElem?_eq_some_iff.mp before).1]
      exact before
  | listen listener =>
    have same : snapshots (listen p.game listener) = snapshots p.game := by cases listener <;> rfl
    have own : (listen p.game listener).game.gameId = p.game.game.gameId := by cases listener <;> rfl
    refine ⟨own.trans sound.same, sound.known, ?_, ?_, ?_⟩
    · change ∀ data ∈ snapshots (listen p.game listener), _
      rw [same]
      exact sound.texts
    · change (p.pending ++ p.served).Perm (List.range (snapshots (listen p.game listener)).length)
      rw [same]
      exact sound.events
    · intro number last row member known
      change (snapshots (listen p.game listener))[number]? = _
      rw [same]
      exact sound.stored number last row member known
  | serve number =>
    change Sound gameId (serve p number)
    unfold serve
    split
    next => exact sound
    next data found =>
      split
      next waiting =>
        refine ⟨sound.same, updateGame_known sound.known, sound.texts, ?_, ?_⟩
        · exact events_served sound.events waiting
        · intro last served row member own
          have latest : number = last := by simpa using served
          subst latest
          change (snapshots p.game)[number]? = _
          rw [found]
          rcases updateGame_rows member with ⟨-, written⟩ | ⟨other, -⟩
          · rw [written, sound.texts data (List.mem_of_getElem? found)]
          · exact absurd (own.trans sound.same.symm) other
      next => exact sound
  | write task =>
    change Sound gameId (write p task)
    unfold write
    split
    next => exact sound
    next other =>
      rw [sound.same] at other
      obtain ⟨rows, known⟩ := @commitTask_rows p.db gameId task (by simpa using other)
      refine ⟨sound.same, known sound.known, sound.texts, sound.events, ?_⟩
      intro number last row member own
      obtain ⟨old, present, same, data⟩ := rows row member own
      rw [← data]
      exact sound.stored number last old present same

theorem sound_loaded {clock : Nat → Nat} {data : GameData} {game : LiveGame} {db : Database}
    (loaded : deserializeGame clock data = .ok game) (known : ∃ row ∈ db.games, row.gameId = data.gameId) :
    Sound data.gameId (loadedWith game db) := by
  refine ⟨(ServerFrames.loaded_game loaded).1, known, ?_, ?_, nofun⟩
  · obtain ⟨rounds, -, rfl⟩ := ServerFrames.deserializeGame_ok loaded
    obtain ⟨-, block, effects, issued⟩ := extends_resumeGame (ServerFrames.reread clock data rounds)
    change ∀ snapshot ∈ (resumeGame (ServerFrames.reread clock data rounds)).effects.filterMap saved, _
    rw [effects]
    exact texts_of_issued issued
  · exact List.Perm.of_eq (List.append_nil _)

/-- Once every UPDATE has taken effect, the row holds what the last one of them has written. -/
theorem last_save_kept {clock : Nat → Nat} {data : GameData} {game : LiveGame} {db : Database} {turns : List Turn}
    (loaded : deserializeGame clock data = .ok game) (known : ∃ row ∈ db.games, row.gameId = data.gameId)
    (complete : (run step (loadedWith game db) turns).pending = [])
    (events : snapshots (run step (loadedWith game db) turns).game ≠ []) :
    (∀ row ∈ (run step (loadedWith game db) turns).db.games, row.gameId = data.gameId →
        some row.gameData = (snapshots (run step (loadedWith game db) turns).game).getLast?) ↔
      ∃ number, (run step (loadedWith game db) turns).served.getLast? = some number ∧
        (snapshots (run step (loadedWith game db) turns).game)[number]? =
          (snapshots (run step (loadedWith game db) turns).game).getLast? := by
  have sound : Sound data.gameId (run step (loadedWith game db) turns) :=
    run_invariant (Sound data.gameId) (fun _ turn sound => sound_step sound turn) turns (sound_loaded loaded known)
  set p := run step (loadedWith game db) turns
  have all := sound.events
  rw [complete, List.nil_append] at all
  have served : p.served ≠ [] := by
    intro none_
    have count := all.length_eq
    rw [none_, List.length_nil, List.length_range] at count
    exact events (List.length_eq_zero_iff.mp count.symm)
  obtain ⟨number, last⟩ : ∃ number, p.served.getLast? = some number :=
    Option.isSome_iff_exists.mp (by simpa using served)
  constructor
  · intro holds
    obtain ⟨row, member, own⟩ := sound.known
    exact ⟨number, last, (sound.stored number last row member own).trans (holds row member own)⟩
  · rintro ⟨other, same, latest⟩ row member own
    rw [last] at same
    cases same
    exact (sound.stored number last row member own).symm.trans latest

/-! Pete gets ready, and then Kate, which starts the game. -/

def sampleDb : Database where
  games := [{
    gameId := "foobar"
    sessionId := 1
    gameData := GameInvariant.sample.game.state
    isCurrent := true
    gameOrder := 0 }]

def bothReady : List Turn := [.act (.playerReady "pete" true), .act (.playerReady "kate" true)]

def inOrder : List Turn := bothReady ++ [.serve 0, .serve 1, .serve 2, .serve 3]

theorem sample_known : ∃ row ∈ sampleDb.games, row.gameId = "foobar" := ⟨_, List.mem_cons_self, rfl⟩

theorem last_save_kept_sample : (run step (loadedWith GameInvariant.sample sampleDb) inOrder).pending = [] ∧
    ∀ row ∈ (run step (loadedWith GameInvariant.sample sampleDb) inOrder).db.games,
      row.gameId = "foobar" → some row.gameData =
        (snapshots (run step (loadedWith GameInvariant.sample sampleDb) inOrder).game).getLast? := by
  have loaded : deserializeGame (fun _ => 0) GameInvariant.sample.game.state = .ok GameInvariant.sample := rfl
  have complete : (run step (loadedWith GameInvariant.sample sampleDb) inOrder).pending = [] := by decide
  have events : snapshots (run step (loadedWith GameInvariant.sample sampleDb) inOrder).game ≠ [] := by
    intro none_
    have count : (snapshots (run step (loadedWith GameInvariant.sample sampleDb) inOrder).game).length = 4 := by decide
    rw [none_] at count
    cases count
  exact ⟨complete, (last_save_kept loaded sample_known complete events).mpr ⟨3, by decide, rfl⟩⟩

/-- The save of Pete's getting ready comes last, and with it a row of a game that has not been started. -/
theorem firstSave_last :
    let p := run step (loadedWith GameInvariant.sample sampleDb) (bothReady ++ [.serve 3, .serve 2, .serve 1, .serve 0])
    p.pending = [] ∧ (snapshots p.game).length = 4 ∧
      (snapshots p.game).getLast?.map (·.startTime) = some (some 0) ∧ p.db.games.map (·.gameData.startTime) = [none] := by
  decide

end DfStudy.SaveOrder
