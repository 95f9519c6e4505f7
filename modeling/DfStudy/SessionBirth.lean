import DfStudy.SessionSetup
import Mathlib.Data.List.Pairwise
import Mathlib.Data.List.Perm.Basic

/-! Rows that `createGame` made, read back for the first time. -/

namespace DfStudy.SessionBirth
open Attacks Rounds Games Tables Servers Sessions Undisturbed GameControl GameInvariant GameRestart SessionCreation
open MemGames SessionSetup Support.Futures Future

/-- The game of an entry as it is loaded. -/
def bornOf (clock : Nat → Nat) (entry : Entry) : LiveGame where
  game := newGame {
    gameId := entry.1.2
    players := [entry.1.1.blue, entry.1.1.red].map createPlayer
    rounds := roundsOf entry.1.1.schedule }
  clock := clock

def bornGames (host : Host) : Nat → List Entry → List LiveGame
  | _, [] => []
  | address, entry :: entries => bornOf (host.clock address) entry :: bornGames host (address + 1) entries

theorem deserialize_rowOf (clock : Nat → Nat) (sessionId : Nat) {entry : Entry} (playable : Playable entry.1.1) :
    deserializeGame clock (rowOf sessionId entry).gameData = .ok (bornOf clock entry) := by
  have created := fresh_rounds playable
  have same : (bornOf clock entry).game.state.json = (rowOf sessionId entry).gameData := state_json _
  rw [← same, deserializeGame_state clock fun round member => (created round member).2]
  have rounds : (roundsOf entry.1.1.schedule).map forgotten = roundsOf entry.1.1.schedule := by
    have each : ∀ round ∈ roundsOf entry.1.1.schedule, forgotten round = round := fun round member =>
      forgotten_fresh (created round member).1
    exact (List.map_congr_left each).trans (List.map_id _)
  have reads : reloaded clock (bornOf clock entry).game = bornOf clock entry := by
    unfold reloaded bornOf newGame
    dsimp only
    rw [rounds]
  rw [reads]
  rfl

theorem loadGames_rows (host : Host) (sessionId address : Nat) {entries : List Entry}
    (playable : ∀ entry ∈ entries, Playable entry.1.1) :
    loadGames host address ((entries.map (rowOf sessionId)).map (·.gameData)) = .ok (bornGames host address entries) := by
  induction entries generalizing address with
  | nil => rfl
  | cons entry entries ih =>
    have rest := ih (address + 1) fun other member => playable other (List.mem_cons_of_mem _ member)
    rw [List.map_cons, List.map_cons, loadGames, deserialize_rowOf _ _ (playable entry (List.mem_cons_self ..)), rest]
    rfl

theorem bornGames_ids (host : Host) (address : Nat) (entries : List Entry) :
    (bornGames host address entries).map idOf = entries.map (·.1.2) := by
  induction entries generalizing address with
  | nil => rfl
  | cons entry entries ih =>
    rw [bornGames, List.map_cons, ih, List.map_cons]
    rfl

theorem bornGames_get (host : Host) (address : Nat) (entries : List Entry) (index : Nat) :
    (bornGames host address entries)[index]? =
      entries[index]?.map fun entry => bornOf (host.clock (address + index)) entry := by
  induction entries generalizing address index with
  | nil => simp [bornGames]
  | cons entry entries ih =>
    cases index with
    | zero => simp [bornGames]
    | succ index =>
      rw [bornGames, List.getElem?_cons_succ, ih, List.getElem?_cons_succ, Nat.add_right_comm]
      rfl

theorem bornGames_known {host : Host} {address : Nat} {entries : List Entry} {memGames : List GameRef}
    (unknown : ∀ entry ∈ entries, ∀ ref ∈ memGames, ref.gameId ≠ entry.1.2) :
    ∀ game ∈ bornGames host address entries, ∀ ref ∈ memGames, ref.gameId ≠ idOf game := by
  intro game member ref known
  have listed : idOf game ∈ entries.map (·.1.2) := by
    rw [← bornGames_ids host address entries]
    exact List.mem_map_of_mem member
  obtain ⟨entry, present, same⟩ := List.mem_map.mp listed
  rw [← same]
  exact unknown entry present ref known

/-- Games loaded from rows that nobody has played fork nothing. -/
theorem bornGames_forks (host : Host) (address : Nat) (entries : List Entry) :
    (bornGames host address entries).flatMap (forks · 0) = [] := by
  induction entries generalizing address with
  | nil => rfl
  | cons entry entries ih =>
    rw [bornGames, List.flatMap_cons, ih]
    rfl

/-- A permutation of images is the image of a permutation. -/
theorem perm_map {α β : Type} {f : α → β} {images : List β} {items : List α} (perm : images.Perm (items.map f)) :
    ∃ permuted : List α, permuted.Perm items ∧ images = permuted.map f := by
  have related : List.Forall₂ (fun image item => image = f item) (items.map f) items :=
    List.forall₂_map_left_iff.mpr (List.forall₂_same.mpr fun item _ => rfl)
  obtain ⟨permuted, images', perm'⟩ := List.perm_comp_forall₂ perm related
  refine ⟨permuted, perm', ?_⟩
  have equal : List.Forall₂ Eq images (permuted.map f) := List.forall₂_map_right_iff.mpr images'
  exact List.forall₂_eq_eq_eq ▸ equal

theorem perm_rows (host : Host) (s : Server) (sessionId : Nat) :
    (sortedRows host s sessionId).Perm (s.db.selectGames sessionId) :=
  (List.perm_insertionSort _ _).trans (host.gameRows_perm _)

/-- The rows in the order of the games. -/
theorem sorted_entries (host : Host) {s : Server} {sessionId : Nat} {entries : List Entry}
    (rows : (s.db.selectGames sessionId).Perm (entries.map (rowOf sessionId))) :
    ∃ sorted : List Entry, sorted.Perm entries ∧ sortedRows host s sessionId = sorted.map (rowOf sessionId) :=
  perm_map ((perm_rows host s sessionId).trans rows)

theorem sorted_unique {host : Host} {s : Server} {sessionId : Nat} {entries : List Entry}
    (rows : (s.db.selectGames sessionId).Perm (entries.map (rowOf sessionId)))
    (ordered : entries.Pairwise (·.2 < ·.2)) :
    sortedRows host s sessionId = entries.map (rowOf sessionId) := by
  have total : Std.Total fun a b : GameRow => a.gameOrder ≤ b.gameOrder := ⟨fun a b => Nat.le_total _ _⟩
  have trans : IsTrans GameRow fun a b => a.gameOrder ≤ b.gameOrder := ⟨fun a b c => Nat.le_trans⟩
  have left := List.pairwise_insertionSort (fun a b : GameRow => a.gameOrder ≤ b.gameOrder)
    (host.gameRows (s.db.selectGames sessionId))
  have strict : (entries.map (rowOf sessionId)).Pairwise fun a b => a.gameOrder < b.gameOrder := by
    rw [List.pairwise_map]
    exact ordered
  have right : (entries.map (rowOf sessionId)).Pairwise fun a b => a.gameOrder ≤ b.gameOrder :=
    strict.imp Nat.le_of_lt
  have perm := (perm_rows host s sessionId).trans rows
  have apart : ∀ a ∈ entries.map (rowOf sessionId), ∀ b ∈ entries.map (rowOf sessionId),
      a.gameOrder = b.gameOrder → a = b := by
    have symm : Std.Symm fun a b : GameRow => a.gameOrder ≠ b.gameOrder := ⟨fun _ _ => Ne.symm⟩
    have ne : (entries.map (rowOf sessionId)).Pairwise fun a b => a.gameOrder ≠ b.gameOrder := strict.imp Nat.ne_of_lt
    intro a memberA b memberB same
    by_contra differs
    exact ne.forall memberA memberB differs same
  refine List.Perm.eq_of_pairwise ?_ left right perm
  intro a b memberA memberB le ge
  exact apart a (perm.mem_iff.mp memberA) b memberB (Nat.le_antisymm le ge)

/-! The games of a plan. -/

/-- The entries of a plan, with the ids that are drawn for them. -/
def planEntries (plan : List GamePlan) (uuids : Nat → String) : List Entry :=
  (plan.zip ((List.range plan.length).map uuids)).zipIdx

theorem planEntries_get (plan : List GamePlan) (uuids : Nat → String) (index : Nat) :
    (planEntries plan uuids)[index]? = plan[index]?.map fun game => ((game, uuids index), index) := by
  unfold planEntries
  rw [List.getElem?_zipIdx, Nat.zero_add, List.zip, List.getElem?_zipWith]
  cases found : plan[index]? with
  | none => rfl
  | some game =>
    have below : index < plan.length := (List.getElem?_eq_some_iff.mp found).1
    have drawn : ((List.range plan.length).map uuids)[index]? = some (uuids index) := by
      rw [List.getElem?_map, List.getElem?_range below]
      rfl
    rw [drawn]
    rfl

theorem planEntries_uuids {plan : List GamePlan} {uuids : Nat → String} {entry : Entry}
    (member : entry ∈ planEntries plan uuids) : ∃ index < plan.length, entry.1.2 = uuids index := by
  obtain ⟨index, found⟩ := List.mem_iff_getElem?.mp member
  rw [planEntries_get, Option.map_eq_some_iff] at found
  obtain ⟨game, at_index, rfl⟩ := found
  exact ⟨index, (List.getElem?_eq_some_iff.mp at_index).1, rfl⟩

theorem planEntries_ids (plan : List GamePlan) (uuids : Nat → String) :
    (planEntries plan uuids).map (·.1.2) = (List.range plan.length).map uuids := by
  have fst : (planEntries plan uuids).map (·.1) = plan.zip ((List.range plan.length).map uuids) :=
    List.zipIdx_map_fst ..
  have snd : (plan.zip ((List.range plan.length).map uuids)).map (·.2) = (List.range plan.length).map uuids :=
    List.map_snd_zip (by simp)
  rw [← snd, ← fst, List.map_map]
  rfl

theorem planEntries_ordered (plan : List GamePlan) (uuids : Nat → String) :
    (planEntries plan uuids).Pairwise (·.2 < ·.2) := by
  have places : (planEntries plan uuids).map (·.2) = List.range' 0 _ := List.zipIdx_map_snd ..
  rw [← List.pairwise_map (f := fun entry : Entry => entry.2), places]
  exact List.pairwise_lt_range'

theorem planEntries_playable {plan : List GamePlan} (playable : ∀ game ∈ plan, Playable game) (uuids : Nat → String) :
    ∀ entry ∈ planEntries plan uuids, Playable entry.1.1 := by
  intro entry member
  obtain ⟨index, found⟩ := List.mem_iff_getElem?.mp member
  rw [planEntries_get, Option.map_eq_some_iff] at found
  obtain ⟨game, at_index, rfl⟩ := found
  exact playable game (List.mem_of_getElem? at_index)

/-- `createSessionGames` for any plan. -/
def createPlan (host : Host) (session : Session) (plan : List GamePlan) : Request Session :=
  (drawIds plan.length).chain fun gameIds =>
    (parallel (createGames host session.sessionId plan gameIds)).map fun _ => session

theorem createSessionGames_eq (host : Host) (session : Session) :
    createSessionGames host session = (createPlan host session (sessionPlan session)).mapRej (sessionError session) :=
  rfl

theorem sessionPlan_playable (session : Session) : ∀ game ∈ sessionPlan session, Playable game := by
  have each : (sessionPlan session).map (fun game => game.schedule.mapM createRound) =
      (sessionPlan session).map fun game => .ok (roundsOf game.schedule) := by rfl
  exact List.map_inj_left.mp each

def drawn (s : Server) (count : Nat) : Server := { s with uuids := fun index => s.uuids (index + count) }

/-- The ids the coming games draw are new. -/
structure NewIds (s : Server) (count : Nat) : Prop where
  distinct : ((List.range count).map s.uuids).Nodup
  games : ∀ index < count, ∀ row ∈ s.db.games, row.gameId ≠ s.uuids index
  attacks : ∀ index < count, ∀ attack ∈ s.db.attacks, attack.gameId ≠ s.uuids index
  memGames : ∀ index < count, ∀ ref ∈ s.memGames, ref.gameId ≠ s.uuids index

theorem ends_createPlan {host : Host} {fails : Nat → Bool} {session : Session} {plan : List GamePlan} {a : Alone}
    (clean : Clean fails a.step) (playable : ∀ game ∈ plan, Playable game) (newIds : NewIds a.server plan.length) :
    Ends host fails (createPlan host session plan) a
      (fun value a' => value = session ∧ ∃ attacks,
        attacks.map forgetId = (planEntries plan a.server.uuids).flatMap (attacksOf host session.sessionId) ∧
        a'.server = inserting (drawn a.server plan.length)
          ((planEntries plan a.server.uuids).map (rowOf session.sessionId)) attacks ∧
        a'.step = a.step + stepsOf (planEntries plan a.server.uuids) ∧ Clean fails a'.step)
      fun _ a' => ∃ rows attacks, Torn fails (drawn a.server plan.length) session.sessionId
        (planEntries plan a.server.uuids) a.step a' rows attacks := by
  apply ends_chain (ends_drawIds plan.length a)
  rintro _ _ ⟨rfl, rfl⟩
  apply ends_map
  have unused : ∀ entry ∈ planEntries plan a.server.uuids, ∀ row ∈ a.server.db.games, row.gameId ≠ entry.1.2 := by
    intro entry member
    obtain ⟨index, below, same⟩ := planEntries_uuids member
    rw [same]
    exact newIds.games index below
  have distinct : ((planEntries plan a.server.uuids).map (·.1.2)).Nodup := by
    rw [planEntries_ids]
    exact newIds.distinct
  refine ends_weaken (ends_createEntries session.sessionId (planEntries plan a.server.uuids)
    (planEntries_playable playable _) { a with server := drawn a.server plan.length } clean distinct unused) ?_ ?_
  · rintro _ _ ⟨attacks, same, rfl, clean'⟩
    exact ⟨rfl, attacks, same, rfl, rfl, clean'⟩
  · rintro _ a' torn
    exact torn

/-- Rows of a session that were made by `createGame`, and that nobody has loaded. -/
structure Unplayed (s : Server) (sessionId : Nat) (entries : List Entry) : Prop where
  rows : s.db.selectGames sessionId = entries.map (rowOf sessionId)
  playable : ∀ entry ∈ entries, Playable entry.1.1
  distinct : (entries.map (·.1.2)).Nodup
  unknown : ∀ entry ∈ entries, ∀ ref ∈ s.memGames, ref.gameId ≠ entry.1.2

/-- Leftover rows beside the rows of a plan. -/
theorem Unplayed.inserting {s : Server} {sessionId : Nat} {leftover entries : List Entry}
    (unplayed : Unplayed s sessionId leftover) (playable : ∀ entry ∈ entries, Playable entry.1.1)
    (distinct : (entries.map (·.1.2)).Nodup)
    (games : ∀ entry ∈ entries, ∀ row ∈ s.db.games, row.gameId ≠ entry.1.2)
    (memGames : ∀ entry ∈ entries, ∀ ref ∈ s.memGames, ref.gameId ≠ entry.1.2) (attacks : List Attack) (count : Nat) :
    Unplayed (inserting (drawn s count) (entries.map (rowOf sessionId)) attacks) sessionId (leftover ++ entries) where
  rows := by
    have own : (entries.map (rowOf sessionId)).filter (fun row => decide (row.sessionId = sessionId)) =
        entries.map (rowOf sessionId) := by
      rw [List.filter_eq_self]
      intro row member
      obtain ⟨entry, _, rfl⟩ := List.mem_map.mp member
      simp [rowOf, newGameRow]
    have old := unplayed.rows
    unfold Database.selectGames at old
    change (s.db.games ++ entries.map (rowOf sessionId)).filter (fun row => decide (row.sessionId = sessionId)) = _
    rw [List.filter_append, old, own, List.map_append]
  playable := by
    intro entry member
    rcases List.mem_append.mp member with old | new
    · exact unplayed.playable entry old
    · exact playable entry new
  distinct := by
    rw [List.map_append, List.nodup_append]
    refine ⟨unplayed.distinct, distinct, ?_⟩
    intro gameId old gameId' new same
    obtain ⟨entry, member, rfl⟩ := List.mem_map.mp old
    obtain ⟨entry', member', rfl⟩ := List.mem_map.mp new
    have row : rowOf sessionId entry ∈ s.db.selectGames sessionId := by
      rw [unplayed.rows]
      exact List.mem_map_of_mem member
    exact games entry' member' _ (List.mem_filter.mp row).1 same
  unknown := by
    intro entry member
    rcases List.mem_append.mp member with old | new
    · exact unplayed.unknown entry old
    · exact memGames entry new

theorem Unplayed.loadable (host : Host) {s : Server} {session : Session} {entries sorted : List Entry}
    (unplayed : Unplayed s session.sessionId entries) (perm : sorted.Perm entries)
    (rows : sortedRows host s session.sessionId = sorted.map (rowOf session.sessionId))
    (listed : s.db.sessions.find? (·.sessionId = session.sessionId) = some session)
    (murmur : s.db.selectMurmurs session.sessionId ≠ []) :
    Loadable host s session (bornGames host s.heap.length sorted) where
  listed := listed
  load := by
    rw [rows]
    exact loadGames_rows host _ _ fun entry member => unplayed.playable entry (perm.mem_iff.mp member)
  distinct := by
    rw [bornGames_ids]
    exact (perm.map _).nodup_iff.mpr unplayed.distinct
  unknown := bornGames_known fun entry member => unplayed.unknown entry (perm.mem_iff.mp member)
  murmur := murmur

/-- Each game of a session that is set up for the first time is registered under its id. -/
theorem Unplayed.setUp (host : Host) {s : Server} {session : Session} {entries sorted : List Entry}
    (unplayed : Unplayed s session.sessionId entries) (perm : sorted.Perm entries)
    (registered : ∀ ref ∈ s.memGames, ref.address < s.heap.length) (attacks : List Attack) {place : Nat} {entry : Entry}
    (found : sorted[place]? = some entry) :
    getGame (SessionSetup.setUp s session (bornGames host s.heap.length sorted) attacks).memGames entry.1.2 =
        .ok { address := s.heap.length + place, gameId := entry.1.2 } ∧
      (SessionSetup.setUp s session (bornGames host s.heap.length sorted) attacks).heap[s.heap.length + place]? =
        some (attackedBy session.grpcPort (attacks.filter (·.gameId = entry.1.2))
          (chainedTo session.sessionId ((sorted.map (·.1.2))[place + 1]?)
            (bornOf (host.clock (s.heap.length + place)) entry))) := by
  have unknown : ∀ entry ∈ sorted, ∀ ref ∈ s.memGames, ref.gameId ≠ entry.1.2 := fun entry member =>
    unplayed.unknown entry (perm.mem_iff.mp member)
  have distinct : ((bornGames host s.heap.length sorted).map idOf).Nodup := by
    rw [bornGames_ids]
    exact (perm.map _).nodup_iff.mpr unplayed.distinct
  have born : (bornGames host s.heap.length sorted)[place]? =
      some (bornOf (host.clock (s.heap.length + place)) entry) := by
    rw [bornGames_get, found]
    rfl
  have live := setUp_heap session attacks distinct (bornGames_known unknown) registered born
  rw [bornGames_ids] at live
  exact ⟨setUp_registered session attacks distinct (bornGames_known unknown) born, live⟩

end DfStudy.SessionBirth
