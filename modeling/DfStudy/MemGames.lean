import DfStudy.Servers

/-! The list of games in memory as a registry: what finding, setting and removing a game do to it. -/

namespace DfStudy.MemGames
open Servers

def Registered (memGames : List GameRef) (gameId : String) : Prop := ∃ ref ∈ memGames, ref.gameId = gameId

/-- No two games in memory have the same id. -/
def Distinct (memGames : List GameRef) : Prop := (memGames.map (·.gameId)).Nodup

variable {memGames : List GameRef} {game : GameRef}

theorem registered_iff {gameId : String} : Registered memGames gameId ↔ gameId ∈ memGames.map (·.gameId) := by
  rw [List.mem_map]
  exact Iff.rfl

theorem Distinct.eq (distinct : Distinct memGames) {other : GameRef} (member : game ∈ memGames)
    (member' : other ∈ memGames) (same : game.gameId = other.gameId) : game = other :=
  List.inj_on_of_nodup_map distinct member member' same

theorem getGame_ok {gameId : String} (found : getGame memGames gameId = .ok game) :
    game ∈ memGames ∧ game.gameId = gameId := by
  unfold getGame at found
  split at found
  · cases found
  · rename_i other search
    cases found
    exact ⟨List.mem_of_find?_eq_some search, by simpa using List.find?_some search⟩

theorem getGame_unique (member : game ∈ memGames) (only : ∀ other ∈ memGames, other.gameId = game.gameId → other = game) :
    getGame memGames game.gameId = .ok game := by
  unfold getGame
  cases search : memGames.find? (·.gameId = game.gameId) with
  | none =>
    have missed := List.find?_eq_none.mp search game member
    simp at missed
  | some other =>
    have same : other = game := only other (List.mem_of_find?_eq_some search) (by simpa using List.find?_some search)
    rw [same]

theorem getGame_isOk {gameId : String} : (∃ ref, getGame memGames gameId = .ok ref) ↔ Registered memGames gameId := by
  constructor
  · rintro ⟨ref, found⟩
    exact ⟨ref, getGame_ok found⟩
  · rintro ⟨ref, member, same⟩
    unfold getGame
    cases search : memGames.find? (·.gameId = gameId) with
    | none =>
      have missed := List.find?_eq_none.mp search ref member
      simp [same] at missed
    | some other => exact ⟨other, rfl⟩

theorem setMemGame_new (unknown : ∀ other ∈ memGames, other.gameId ≠ game.gameId) :
    setMemGame memGames game = memGames ++ [game] := by
  have absent : memGames.findIdx? (·.gameId = game.gameId) = none := by
    rw [List.findIdx?_eq_none_iff]
    intro other member
    simpa using unknown other member
  unfold setMemGame findIndex
  rw [absent]
  rfl

/-- The reference registered under an id is replaced, all others stay as they are. -/
theorem setMemGame_known (known : Registered memGames game.gameId) :
    (setMemGame memGames game).map (·.gameId) = memGames.map (·.gameId) := by
  obtain ⟨ref, member, equal⟩ := known
  unfold setMemGame findIndex
  cases search : memGames.findIdx? (·.gameId = game.gameId) with
  | none =>
    have missed := List.findIdx?_eq_none_iff.mp search ref member
    simp [equal] at missed
  | some index =>
    obtain ⟨bound, found, _⟩ := List.findIdx?_eq_some_iff_getElem.mp search
    have place : (index : Int) ≠ -1 := by omega
    have here : memGames[index].gameId = game.gameId := by simpa using found
    dsimp only
    rw [if_pos place, Int.toNat_natCast, List.map_set, ← here]
    apply List.ext_getElem?
    intro position
    rw [List.getElem?_set]
    by_cases equal : index = position
    · subst equal
      simp [bound]
    · rw [if_neg equal]

theorem eraseP_distinct {gameId : String} (distinct : Distinct memGames) :
    memGames.eraseP (·.gameId = gameId) = memGames.filter (·.gameId ≠ gameId) := by
  induction memGames with
  | nil => rfl
  | cons first rest ih =>
    unfold Distinct at distinct
    rw [List.map_cons, List.nodup_cons] at distinct
    by_cases here : first.gameId = gameId
    · have others : rest.filter (·.gameId ≠ gameId) = rest := by
        rw [List.filter_eq_self]
        intro other member
        have apart : other.gameId ≠ gameId := fun same => distinct.1 (List.mem_map.mpr ⟨other, member, same.trans here.symm⟩)
        simpa using apart
      rw [List.eraseP_cons_of_pos (by simpa using here), List.filter_cons_of_neg (by simpa using here), others]
    · rw [List.eraseP_cons_of_neg (by simpa using here), List.filter_cons_of_pos (by simpa using here), ih distinct.2]

theorem removeMemGame_known (distinct : Distinct memGames) (known : Registered memGames game.gameId) :
    removeMemGame memGames game = memGames.filter (·.gameId ≠ game.gameId) := by
  obtain ⟨ref, member, same⟩ := known
  rw [← eraseP_distinct distinct, List.eraseP_eq_eraseIdx]
  unfold removeMemGame findIndex spliceOne
  cases search : memGames.findIdx? (·.gameId = game.gameId) with
  | none =>
    have missed := List.findIdx?_eq_none_iff.mp search ref member
    simp [same] at missed
  | some index =>
    have place : ¬((index : Int) < 0) := by omega
    dsimp only
    rw [if_neg place, Int.toNat_natCast]

/-- Removing a game that is not there removes the last game. -/
theorem removeMemGame_unknown (unknown : ¬Registered memGames game.gameId) :
    removeMemGame memGames game = memGames.dropLast := by
  have absent : memGames.findIdx? (·.gameId = game.gameId) = none := by
    rw [List.findIdx?_eq_none_iff]
    intro other member
    have apart : other.gameId ≠ game.gameId := fun same => unknown ⟨other, member, same⟩
    simpa using apart
  have place : ((memGames.length : Int) + -1).toNat = memGames.length - 1 := by omega
  unfold removeMemGame findIndex spliceOne
  rw [absent]
  dsimp only
  rw [if_pos (by decide), place, List.eraseIdx_eq_take_drop_succ, List.dropLast_eq_take]
  cases memGames with
  | nil => rfl
  | cons first rest => simp

theorem removeMemGame_sublist : (removeMemGame memGames game).Sublist memGames := List.eraseIdx_sublist ..

/-! Looking up several games. -/

theorem getGames_ok {gameIds : List String} {games : List GameRef} (found : gameIds.mapM (getGame memGames) = .ok games) :
    games.map (·.gameId) = gameIds ∧ ∀ game ∈ games, game ∈ memGames := by
  induction gameIds generalizing games with
  | nil =>
    cases found
    simp
  | cons gameId gameIds ih =>
    rw [List.mapM_cons] at found
    cases first : getGame memGames gameId with
    | error message => simp [first, bind, Except.bind] at found
    | ok game =>
      cases later : gameIds.mapM (getGame memGames) with
      | error message => simp [first, later, bind, Except.bind] at found
      | ok others =>
        simp only [first, later, bind, Except.bind, pure, Except.pure, Except.ok.injEq] at found
        subst found
        have known := getGame_ok first
        have rest := ih later
        constructor
        · rw [List.map_cons, known.2, rest.1]
        · intro other member
          rcases List.mem_cons.mp member with rfl | after
          · exact known.1
          · exact rest.2 other after

theorem getGames_registered {gameIds : List String} :
    (∃ games, gameIds.mapM (getGame memGames) = .ok games) ↔ ∀ gameId ∈ gameIds, Registered memGames gameId := by
  constructor
  · rintro ⟨games, found⟩ gameId member
    obtain ⟨ids, among⟩ := getGames_ok found
    rw [← ids] at member
    obtain ⟨game, present, same⟩ := List.mem_map.mp member
    exact ⟨game, among game present, same⟩
  · intro registered
    induction gameIds with
    | nil => exact ⟨[], rfl⟩
    | cons gameId gameIds ih =>
      obtain ⟨game, first⟩ := getGame_isOk.mpr (registered gameId (List.mem_cons_self ..))
      obtain ⟨games, later⟩ := ih fun other member => registered other (List.mem_cons_of_mem _ member)
      refine ⟨game :: games, ?_⟩
      rw [List.mapM_cons, first, later]
      rfl

end DfStudy.MemGames
