import DfStudy.GameSequence

/-! The rows of a new session, loaded for the first time. Once the games are chained, the first of them is the current one
and none has started. -/

namespace DfStudy.SessionLoading
open Rounds Games GameFrames GameControl GameInvariant Tables Servers MemGames ServerFrames Requests Processes Ownership Registry
open Sessions Mentions CreationOrder SessionCreation SessionSetup SessionBirth GameSequence LiveGame
open Support.Machine Support.Futures Future
open Quiescence (Placed spontaneous)

def idsOf (entries : List Entry) : List String := entries.map (·.1.2)

/-- The rows of the session are those of its first games, in their order. -/
structure Listing (table : List GameRow) (sessionId : Nat) (entries : List Entry) : Prop where
  rows : table.filter (·.sessionId = sessionId) = entries.map (rowOf sessionId)
  playable : ∀ entry ∈ entries, Playable entry.1.1
  distinct : (idsOf entries).Nodup
  places : entries.map (·.2) = List.range entries.length
  flags : ∀ entry ∈ entries, entry.1.1.isCurrent = true ↔ entry.2 = 0

/-- Nothing in memory refers to them. -/
structure Prepared (s : Server) (sessionId : Nat) (entries : List Entry) : Prop extends
    Listing s.db.games sessionId entries where
  own : ∀ row ∈ s.db.games, row.gameId ∈ idsOf entries → row.sessionId = sessionId
  silent : ∀ gameId ∈ idsOf entries, ¬InMemory s gameId

section
variable {s : Server} {table table' : List GameRow} {sessionId : Nat} {entries : List Entry}

theorem fresh_chained (clock : Nat → Nat) (sessionId : Nat) (next : Option String) {entry : Entry}
    (playable : Playable entry.1.1) : Fresh (chainedTo sessionId next (bornOf clock entry)) where
  startTime := rfl
  endTime := rfl
  currentRound := rfl
  rounds := ⟨entry.1.1.schedule, playable⟩
  timeouts := rfl
  effects := rfl
  wired := ⟨rfl, rfl, rfl, ⟨[], rfl⟩, ⟨_, rfl⟩, ⟨_, rfl⟩⟩

theorem Listing.place (listing : Listing table sessionId entries) {place : Nat} {entry : Entry}
    (found : entries[place]? = some entry) : entry.2 = place := by
  have bound := (List.getElem?_eq_some_iff.mp found).1
  have there : (entries.map (·.2))[place]? = some entry.2 := by
    rw [List.getElem?_map, found]
    rfl
  rw [listing.places, List.getElem?_range bound] at there
  exact (Option.some.inj there).symm

theorem Listing.kept (listing : Listing table sessionId entries)
    (same : table'.filter (·.sessionId = sessionId) = table.filter (·.sessionId = sessionId)) :
    Listing table' sessionId entries :=
  { listing with rows := same.trans listing.rows }

/-- The rows of the session that are marked as current are the first one, if there is one. -/
theorem Listing.flagged (listing : Listing table sessionId entries) {row : GameRow} (member : row ∈ table)
    (own : row.sessionId = sessionId) (flag : row.isCurrent = true) : (idsOf entries)[0]? = some row.gameId := by
  have among : row ∈ entries.map (rowOf sessionId) := by
    rw [← listing.rows]
    exact List.mem_filter.mpr ⟨member, by simpa using own⟩
  obtain ⟨entry, present, rfl⟩ := List.mem_map.mp among
  obtain ⟨place, found⟩ := List.mem_iff_getElem?.mp present
  have first := (listing.flags entry present).mp flag
  rw [listing.place found] at first
  subst first
  unfold idsOf
  rw [List.getElem?_map, found]
  rfl

theorem Prepared.sheet (prepared : Prepared s sessionId entries) : Sheet sessionId (idsOf entries) 0 s.db.games := by
  have each : ∀ row ∈ s.db.games, row.sessionId = sessionId →
      ∃ place : Nat, ∃ entry, entries[place]? = some entry ∧ row = rowOf sessionId entry := by
    intro row member own
    have among : row ∈ entries.map (rowOf sessionId) := by
      rw [← prepared.rows]
      exact List.mem_filter.mpr ⟨member, by simpa using own⟩
    obtain ⟨entry, present, rfl⟩ := List.mem_map.mp among
    obtain ⟨place, found⟩ := List.mem_iff_getElem?.mp present
    exact ⟨place, entry, found, rfl⟩
  refine ⟨prepared.distinct, ?_, prepared.own, fun row member own => ?_, fun row member own _ _ _ => ?_⟩
  · rw [prepared.rows, List.map_map]
    apply List.ext_getElem?
    intro place
    rw [List.getElem?_map, List.getElem?_zipIdx, idsOf, List.getElem?_map]
    cases found : entries[place]? with
    | none => rfl
    | some entry =>
      have here := prepared.toListing.place found
      simp [rowOf, newGameRow, here]
  · obtain ⟨place, entry, found, rfl⟩ := each row member own
    have flag := prepared.flags entry (List.mem_of_getElem? found)
    rw [prepared.toListing.place found] at flag
    change entry.1.1.isCurrent = true ↔ (entries.map _)[0]? = some entry.1.2
    rw [flag]
    have here : (entries.map (·.1.2))[place]? = some entry.1.2 := by
      rw [List.getElem?_map, found]
      rfl
    constructor
    · rintro rfl
      exact here
    · intro first
      exact (List.getElem?_inj (List.getElem?_eq_some_iff.mp here).1 prepared.distinct).mp (here.trans first.symm)
  · obtain ⟨place, entry, found, rfl⟩ := each row member own
    rfl

/-! Loading the rows and chaining their games. -/

theorem hooks_chained (sessionId : Nat) (next : Option String) (game : LiveGame) :
    hooks (chainedTo sessionId next game) = hooks game ++ next.toList.map (sessionId, ·) := by
  change (game.game.cbMap.stop ++ next.toList.map (StopCallback.setCurrentGame sessionId)).flatMap forked = _
  rw [List.flatMap_append]
  cases next <;> rfl

/-- A game in memory after the games of the session have been loaded and chained. -/
inductive Chained (host : Host) (s : Server) (sessionId : Nat) (entries : List Entry) (position : Nat) : LiveGame → Prop where
  | old (game : LiveGame) (found : s.heap[position]? = some game) : Chained host s sessionId entries position game
  | born (place : Nat) (entry : Entry) (here : position = s.heap.length + place) (found : entries[place]? = some entry) :
      Chained host s sessionId entries position
        (chainedTo sessionId ((idsOf entries)[place + 1]?) (bornOf (host.clock position) entry))

/-- The server once the games of the session have been loaded, and once they have been chained. -/
def loadedOf (host : Host) (s : Server) (entries : List Entry) : Server := loaded s (bornGames host s.heap.length entries)

def chainedOf (host : Host) (s : Server) (sessionId : Nat) (entries : List Entry) : Server :=
  chainGames (loadedOf host s entries) sessionId (refsOf s.heap.length (idsOf entries))

theorem chained_heap (host : Host) {position : Nat} {game : LiveGame}
    (found : (chainedOf host s sessionId entries).heap[position]? = some game) :
    Chained host s sessionId entries position game := by
  unfold chainedOf at found
  rw [chainGames_heap] at found
  obtain ⟨before, there, rfl⟩ := Option.map_eq_some_iff.mp found
  change (s.heap ++ bornGames host s.heap.length entries)[position]? = some before at there
  rw [List.getElem?_append] at there
  split at there
  next inside =>
    have unchained : nextOf s.heap.length (idsOf entries) position = none := if_neg (by omega)
    rw [unchained, chainedTo_none]
    exact .old before there
  next outside =>
    rw [bornGames_get] at there
    obtain ⟨entry, present, rfl⟩ := Option.map_eq_some_iff.mp there
    have here : position = s.heap.length + (position - s.heap.length) := by omega
    have next : nextOf s.heap.length (idsOf entries) position = (idsOf entries)[position - s.heap.length + 1]? :=
      if_pos (by omega)
    rw [next, ← here]
    exact .born _ entry here present

/-- The order of the games is that of their rows, whatever order they are read in. -/
theorem Prepared.sorted (prepared : Prepared s sessionId entries) {rows : List GameRow}
    (perm : rows.Perm (entries.map (rowOf sessionId))) :
    rows.insertionSort (fun a b => a.gameOrder ≤ b.gameOrder) = entries.map (rowOf sessionId) := by
  have total : Std.Total fun a b : GameRow => a.gameOrder ≤ b.gameOrder := ⟨fun a b => Nat.le_total _ _⟩
  have trans : IsTrans GameRow fun a b => a.gameOrder ≤ b.gameOrder := ⟨fun a b c => Nat.le_trans⟩
  have left := List.pairwise_insertionSort (fun a b : GameRow => a.gameOrder ≤ b.gameOrder) rows
  have ordered : entries.Pairwise fun a b => a.2 ≤ b.2 := by
    rw [← List.pairwise_map, prepared.places]
    exact List.pairwise_le_range
  have right : (entries.map (rowOf sessionId)).Pairwise fun a b => a.gameOrder ≤ b.gameOrder :=
    List.pairwise_map.mpr ordered
  have whole := (List.perm_insertionSort (fun a b : GameRow => a.gameOrder ≤ b.gameOrder) rows).trans perm
  refine List.Perm.eq_of_pairwise ?_ left right whole
  intro a b memberA memberB le ge
  obtain ⟨entry, present, rfl⟩ := List.mem_map.mp (whole.mem_iff.mp memberA)
  obtain ⟨entry', present', rfl⟩ := List.mem_map.mp memberB
  obtain ⟨place, found⟩ := List.mem_iff_getElem?.mp present
  obtain ⟨place', found'⟩ := List.mem_iff_getElem?.mp present'
  have same : place = place' := by
    rw [← prepared.toListing.place found, ← prepared.toListing.place found']
    exact Nat.le_antisymm le ge
  subst same
  rw [Option.some.inj (found.symm.trans found')]

theorem Prepared.loads (prepared : Prepared s sessionId entries) (host : Host) {rows : List GameRow}
    (perm : rows.Perm (entries.map (rowOf sessionId))) :
    initGameRows host rows s = (.ok (refsOf s.heap.length (idsOf entries)), loadedOf host s entries) := by
  have ids := bornGames_ids host s.heap.length entries
  have sorted := prepared.sorted perm
  have load := loadGames_rows host sessionId s.heap.length prepared.playable
  have unknown := @bornGames_known host s.heap.length entries s.memGames fun entry member ref known same =>
    prepared.silent _ (List.mem_map_of_mem member) (.ref ref known same)
  unfold initGameRows
  rw [sorted, initGames_loaded load (ids ▸ prepared.distinct) unknown, ids]
  rfl

/-- Nothing has been forked that moves the session to one of them. -/
theorem Prepared.idle (prepared : Prepared s sessionId entries) : requested (idsOf entries) s.tasks = [] := by
  unfold requested among
  rw [List.filter_eq_nil_iff]
  intro move member listed
  obtain ⟨task, forked, moved⟩ := List.mem_filterMap.mp member
  cases task with
  | saveGame gameId data => cases moved
  | setCurrentGame other gameId =>
    cases moved
    exact prepared.silent gameId (by simpa using listed) (.task _ forked rfl)

theorem loadedOf_tasks (host : Host) (s : Server) (entries : List Entry) : (loadedOf host s entries).tasks = s.tasks := by
  change s.tasks ++ (bornGames host s.heap.length entries).flatMap (forks · 0) = _
  rw [bornGames_forks, List.append_nil]

theorem Prepared.progress (prepared : Prepared s sessionId entries) (host : Host) :
    InProgress sessionId (idsOf entries) 0 (chainedOf host s sessionId entries) := by
  have frame := chainGames_frame (loadedOf host s entries) sessionId (refsOf s.heap.length (idsOf entries))
  have db : (chainedOf host s sessionId entries).db = s.db := by
    unfold chainedOf
    rw [frame]
    rfl
  have tasks : (chainedOf host s sessionId entries).tasks = s.tasks := by
    unfold chainedOf
    rw [frame]
    exact loadedOf_tasks host s entries
  have silent : ∀ {gameId : String} {place : Nat}, (idsOf entries)[place]? = some gameId → ¬InMemory s gameId :=
    fun listed => prepared.silent _ (List.mem_of_getElem? listed)
  refine ⟨?_, ⟨?_, ?_, ?_⟩, .inl (by rw [tasks]; exact prepared.idle), ?_⟩
  · rw [db]
    exact prepared.sheet
  · intro game member place listed
    obtain ⟨position, found⟩ := List.mem_iff_getElem?.mp member
    cases chained_heap host found with
    | old _ there => exact absurd (.game game (List.mem_of_getElem? there) rfl) (silent listed)
    | born place entry here present =>
      have fresh := fresh_chained (host.clock position) sessionId ((idsOf entries)[place + 1]?)
        (prepared.playable entry (List.mem_of_getElem? present))
      exact ⟨.unstarted (unstarted_of_fresh fresh), fresh.wired, fun before => (nomatch before), fun _ => rfl⟩
  · have position : ∀ {position : Nat} {gameId : String}, ((chainedOf host s sessionId entries).heap.map idOf)[position]? =
        some gameId → gameId ∈ idsOf entries → ∃ place : Nat, position = s.heap.length + place ∧
          (idsOf entries)[place]? = some gameId := by
      intro position gameId found listed
      rw [List.getElem?_map] at found
      obtain ⟨game, there, rfl⟩ := Option.map_eq_some_iff.mp found
      cases chained_heap host there with
      | old _ before => exact absurd (.game game (List.mem_of_getElem? before) rfl) (prepared.silent _ listed)
      | born place entry here present =>
        refine ⟨place, here, ?_⟩
        unfold idsOf
        rw [List.getElem?_map, present]
        rfl
    intro first second gameId found found' listed
    obtain ⟨place, rfl, here⟩ := position found listed
    obtain ⟨place', rfl, here'⟩ := position found' listed
    have same := (List.getElem?_inj (List.getElem?_eq_some_iff.mp here).1 prepared.distinct).mp (here.trans here'.symm)
    rw [same]
  · intro game member
    obtain ⟨position, found⟩ := List.mem_iff_getElem?.mp member
    cases chained_heap host found with
    | old _ there =>
      left
      unfold among
      rw [List.filter_eq_nil_iff]
      rintro ⟨other, gameId⟩ hooked listed
      have known : gameId ∈ idsOf entries := by simpa using listed
      exact prepared.silent gameId known (.listener game other (List.mem_of_getElem? there) (mem_hooks.mp hooked))
    | born place entry here present =>
      have none : hooks (bornOf (host.clock position) entry) = [] := rfl
      rw [hooks_chained, none, List.nil_append]
      cases next : (idsOf entries)[place + 1]? with
      | none => exact .inl rfl
      | some gameId =>
        refine .inr ⟨place, gameId, ?_, next, ?_⟩
        · unfold idsOf
          rw [List.getElem?_map, present]
          rfl
        · simp [among, List.mem_of_getElem? next]
  · rw [tasks]
    intro gameId data member place _ listed
    exact absurd (.task _ member rfl) (silent listed)

end

end DfStudy.SessionLoading
