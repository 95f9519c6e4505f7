import DfStudy.Requests
import DfStudy.SessionBirth

/-! The order in which a session is created. Its rows are inserted in the order of its games, the first of them as the
current one. They are read back and loaded once, and then the games are chained. -/

namespace DfStudy.CreationOrder
open Rounds Games Tables Servers Sessions Requests SessionCreation SessionBirth Support.Futures Future

inductive Birth where
  | asking
  | making (sessionId : Nat) (made : List GameRow)
  | loaded (sessionId : Nat) (made : List GameRow) (games : List GameRef)
  | chained (sessionId : Nat) (made : List GameRow)
  /-- The games could not be loaded, or the session is removed again. -/
  | failed

namespace Birth

def after (birth : Birth) (op : Op) (answer : Except Failure (Res op)) : Birth :=
  match birth, op, answer with
  | .asking, .insertSession _, .ok sessionId => .making sessionId []
  | .making sessionId made, .insertGame row, .ok _ => .making sessionId (made ++ [row])
  | .making sessionId made, .initGameRows _, .ok games => .loaded sessionId made games
  | .making _ _, .initGameRows _, .error _ => .failed
  | .loaded sessionId made _, .chainGames _ _, _ => .chained sessionId made
  | _, .deleteGame _, _ | _, .removeMemGame _, _ | _, .deleteSession _, _ => .failed
  | birth, _, _ => birth

/-- The row is the one that comes next. -/
def Next (sessionId : Nat) (made : List GameRow) (row : GameRow) : Prop :=
  ∃ entry : Entry, Playable entry.1.1 ∧ row = rowOf sessionId entry ∧ entry.2 = made.length ∧
    (entry.1.1.isCurrent = true ↔ made = [])

/-- No games are waiting to be chained. -/
def Idle (birth : Birth) : Prop := ∀ sessionId made games, birth ≠ .loaded sessionId made games

/-- Games that have been loaded are chained next. -/
def permits (birth : Birth) : Op → Prop
  | .insertSession _ => birth = .asking
  | .insertGame row => ∃ sessionId made, birth = .making sessionId made ∧ Next sessionId made row
  | .initGameRows rows => ∃ sessionId made, birth = .making sessionId made ∧ rows.Perm made ∧ made ≠ []
  | .chainGames sessionId games => ∃ made, birth = .loaded sessionId made games
  | .joinGame _ _ => False
  | _ => birth.Idle

def expects (birth : Birth) (op : Op) (answer : Except Failure (Res op)) : Prop :=
  match birth, op, answer with
  | .making sessionId made, .selectGames other, .ok rows => other = sessionId → rows.Perm made
  | _, _, _ => True

end Birth

def creation : Protocol Op Res Failure Birth where
  permits := Birth.permits
  expects := Birth.expects
  after := Birth.after

/-- What holds if the request resolves. -/
def Gives {α : Type} (holds : α → Birth → Prop) (birth : Birth) : Except Failure α → Prop
  | .ok value => holds value birth
  | .error _ => birth.Idle

section
variable {α β : Type} {birth : Birth}

theorem gives_chain {first : α → Birth → Prop} {holds : β → Birth → Prop} {request : Request α} {f : α → Request β}
    (follows : Follows creation (Gives first) birth request)
    (rest : ∀ value birth, first value birth → Follows creation (Gives holds) birth (f value)) :
    Follows creation (Gives holds) birth (request.chain f) :=
  follows.chain (fun birth value held => rest value birth held) fun _ _ idle => idle

theorem gives_map {first : α → Birth → Prop} {holds : β → Birth → Prop} {request : Request α} {f : α → β}
    (follows : Follows creation (Gives first) birth request)
    (implies : ∀ value birth, first value birth → holds (f value) birth) :
    Follows creation (Gives holds) birth (request.map f) :=
  gives_chain follows implies

theorem gives_mapRej {holds : α → Birth → Prop} {request : Request α} {f : Failure → Failure}
    (follows : Follows creation (Gives holds) birth request) :
    Follows creation (Gives holds) birth (request.mapRej f) :=
  follows.mapRej fun birth result held => by
    cases result <;> exact held

theorem gives_quietly {request : Request α} (idle : birth.Idle) (quietly : Quietly request) :
    Follows creation (Gives fun _ after => after = birth) birth request := by
  have silent : Follows creation (fun after _ => after = birth) birth request := by
    refine Follows.of_silent (fun op silent => ?_) quietly
    cases op with
    | insertSession _ | deleteSession _ | insertGame _ | selectGames _ | deleteGame _ | randomUUID | initGameRows _
    | chainGames _ _ | removeMemGame _ | joinGame _ _ => cases silent
    | _ => exact ⟨idle, fun answer => by cases birth <;> cases answer <;> rfl⟩
  refine silent.weaken fun after result same => ?_
  subst same
  cases result with
  | ok value => rfl
  | error error => exact idle

end

/-! A removal is permitted while no games are waiting to be chained, and never resolves a create. -/

theorem removal_kept (birth : Birth) (op : Op) (idle : birth.Idle) (own : ofRemoval op = true) :
    creation.permits birth op ∧ ∀ answer, (creation.after birth op answer).Idle := by
  have stays : ∀ answer, creation.after birth op answer = birth ∨ creation.after birth op answer = .failed := by
    intro answer
    cases op with
    | insertSession _ | insertGame _ | randomUUID | initGameRows _ | chainGames _ _ | joinGame _ _ => cases own
    | deleteGame _ | removeMemGame _ | deleteSession _ => exact .inr (by cases birth <;> cases answer <;> rfl)
    | _ => exact .inl (by cases birth <;> cases answer <;> rfl)
  have permitted : creation.permits birth op := by
    cases op with
    | insertSession _ | insertGame _ | randomUUID | initGameRows _ | chainGames _ _ | joinGame _ _ => cases own
    | _ => exact idle
  refine ⟨permitted, fun answer => ?_⟩
  rcases stays answer with same | same
  · rw [same]
    exact idle
  · rw [same]
    exact fun _ _ _ failed => nomatch failed

theorem follows_rollback {holds : Session → Birth → Prop} {birth : Birth} (idle : birth.Idle) (error : Failure) :
    Follows creation (Gives holds) birth (rollback error) := by
  cases error with
  | sessionError session message =>
    apply (Follows.of_kept removal_kept (within_removeSession session.sessionId) idle).chain
    · exact fun _ _ idle => idle
    · exact fun _ _ idle => idle
  | error message => exact idle
  | createMurmurError message => exact idle

/-! The states a create goes through before it has loaded its games, and after it has chained them. -/

theorem asking_idle : Birth.Idle .asking := fun _ _ _ same => nomatch same

theorem making_idle (sessionId : Nat) (made : List GameRow) : (Birth.making sessionId made).Idle :=
  fun _ _ _ same => nomatch same

theorem chained_idle (sessionId : Nat) (made : List GameRow) : (Birth.chained sessionId made).Idle :=
  fun _ _ _ same => nomatch same

section
variable {host : Host}

theorem follows_drawIds (sessionId count : Nat) (made : List GameRow) :
    Follows creation (Gives fun gameIds birth => birth = .making sessionId made ∧ gameIds.length = count)
      (.making sessionId made) (drawIds count) := by
  induction count with
  | zero => exact ⟨rfl, rfl⟩
  | succ count ih =>
    have first : Follows creation (Gives fun _ birth => birth = .making sessionId made) (.making sessionId made)
        Request.randomUUID := by
      refine Follows.call (making_idle sessionId made) fun answer _ => ?_
      cases answer with
      | ok gameId => rfl
      | error error => exact making_idle sessionId made
    apply gives_chain first
    rintro gameId _ rfl
    exact gives_map ih fun gameIds _ ⟨same, length⟩ => ⟨same, congrArg (· + 1) length⟩

theorem follows_createEntry {sessionId : Nat} {made : List GameRow} {entry : Entry} (playable : Playable entry.1.1)
    (place : entry.2 = made.length) (current : entry.1.1.isCurrent = true ↔ made = []) :
    Follows creation (Gives fun _ birth => birth = .making sessionId (made ++ [rowOf sessionId entry]))
      (.making sessionId made) (createEntry host sessionId entry) := by
  unfold createEntry createGame
  rw [playable]
  change Follows creation _ _ ((Request.insertGame (rowOf sessionId entry)).chain fun _ =>
    createGameAttacks host entry.1.1.schedule (rowOf sessionId entry))
  have inserted : Follows creation (Gives fun _ birth => birth = .making sessionId (made ++ [rowOf sessionId entry]))
      (.making sessionId made) (Request.insertGame (rowOf sessionId entry)) := by
    refine Follows.call ⟨sessionId, made, rfl, entry, playable, rfl, place, current⟩ fun answer _ => ?_
    cases answer with
    | ok inserted => rfl
    | error error => exact making_idle sessionId made
  apply gives_chain inserted
  rintro _ _ rfl
  exact gives_quietly (making_idle _ _) (quietly_createGameAttacks host entry.1.1.schedule (rowOf sessionId entry))

/-- The rows are made in the order of the entries. -/
theorem follows_createEntries (sessionId : Nat) {entries : List Entry} (playable : ∀ entry ∈ entries, Playable entry.1.1)
    {made : List GameRow} (places : entries.map (·.2) = List.range' made.length entries.length)
    (current : ∀ entry ∈ entries, entry.1.1.isCurrent = true ↔ entry.2 = 0) :
    Follows creation (Gives fun _ birth => birth = .making sessionId (made ++ entries.map (rowOf sessionId)))
      (.making sessionId made) (parallel (entries.map (createEntry host sessionId))) := by
  induction entries generalizing made with
  | nil =>
    change Birth.making sessionId made = .making sessionId (made ++ [])
    rw [List.append_nil]
  | cons entry entries ih =>
    rw [List.map_cons, List.length_cons, List.range'_succ] at places
    obtain ⟨place, later⟩ := List.cons.inj places
    have first : entry.1.1.isCurrent = true ↔ made = [] := by
      rw [current entry List.mem_cons_self, place, List.length_eq_zero_iff]
    apply gives_chain (follows_createEntry (playable entry List.mem_cons_self) place first)
    rintro _ _ rfl
    have rest := @ih (fun other member => playable other (List.mem_cons_of_mem _ member))
      (made ++ [rowOf sessionId entry]) (by simpa using later)
      fun other member => current other (List.mem_cons_of_mem _ member)
    apply gives_map rest
    rintro _ _ rfl
    simp

/-- The first game of a session is the current one. -/
theorem sessionPlan_current {session : Session} {place : Nat} {game : GamePlan}
    (found : (sessionPlan session)[place]? = some game) : game.isCurrent = true ↔ place = 0 := by
  match place with
  | 0 | 1 | 2 | 3 =>
    cases found
    simp
  | later + 4 => cases found

theorem follows_createSessionGames (session : Session) :
    Follows creation (Gives fun value birth => value = session ∧ ∃ made, made ≠ [] ∧
      birth = .making session.sessionId made) (.making session.sessionId []) (createSessionGames host session) := by
  rw [createSessionGames_eq]
  apply gives_mapRej
  apply gives_chain (follows_drawIds session.sessionId (sessionPlan session).length [])
  rintro gameIds _ ⟨rfl, length⟩
  let entries : List Entry := ((sessionPlan session).zip gameIds).zipIdx
  have planned : ∀ entry ∈ entries, (sessionPlan session)[entry.2]? = some entry.1.1 := by
    intro entry member
    have zipped := List.mem_zipIdx_iff_getElem?.mp member
    exact (List.getElem?_zip_eq_some.mp zipped).1
  have count : entries.length = 4 := by
    simp [entries, length]
    rfl
  have places : entries.map (·.2) = List.range' 0 entries.length := by
    rw [List.length_zipIdx]
    exact List.zipIdx_map_snd 0 _
  have rows := @follows_createEntries host session.sessionId entries
    (fun entry member => sessionPlan_playable session _ (List.mem_of_getElem? (planned entry member)))
    [] places fun entry member => sessionPlan_current (planned entry member)
  refine gives_map rows fun _ birth same => ⟨rfl, _, ?_, same⟩
  intro empty
  have none : entries.length = 0 := by simpa using empty
  omega

theorem follows_initSession {session : Session} {made : List GameRow} (some : made ≠ []) :
    Follows creation (Gives fun value birth => value = session ∧ birth = .chained session.sessionId made)
      (.making session.sessionId made) (initSession session) := by
  have games : Follows creation (Gives fun _ birth => birth = .chained session.sessionId made)
      (.making session.sessionId made) (doGames session) := by
    have selected : Follows creation (Gives fun rows birth => birth = .making session.sessionId made ∧ rows.Perm made)
        (.making session.sessionId made) (getSessionGames session.sessionId) := by
      refine Follows.call (making_idle _ _) fun answer expected => ?_
      cases answer with
      | ok rows => exact ⟨rfl, expected rfl⟩
      | error error => exact making_idle _ _
    apply gives_chain selected
    rintro rows _ ⟨rfl, perm⟩
    have loaded : Follows creation (Gives fun games birth => birth = .loaded session.sessionId made games)
        (.making session.sessionId made) (Request.initGameRows rows) := by
      refine Follows.call ⟨session.sessionId, made, rfl, perm, some⟩ fun answer _ => ?_
      cases answer with
      | ok games => rfl
      | error error => exact fun _ _ _ failed => nomatch failed
    apply gives_chain loaded
    rintro games _ rfl
    refine Follows.call ⟨made, rfl⟩ fun answer _ => ?_
    cases answer with
    | ok chained => rfl
    | error error => exact chained_idle _ _
  have done : Follows creation (Gives fun _ birth => birth = .chained session.sessionId made)
      (.making session.sessionId made) ((doGames session).chain fun _ => (doAttacks session).chain fun _ => doMurmur session) := by
    apply gives_chain games
    rintro _ _ rfl
    exact gives_quietly (chained_idle _ _) ((quietly_doAttacks session).chain fun _ => quietly_doMurmur session)
  exact gives_map (gives_mapRej done) fun _ _ same => ⟨rfl, same⟩

/-- A create that resolves has chained the games of all rows it has made. -/
theorem follows_createSession (params : CreateSessionParams) :
    Follows creation (Gives fun session birth => ∃ made, birth = .chained session.sessionId made) .asking
      (createSession host params) := by
  have created : Follows creation (Gives fun session birth => ∃ made, birth = .chained session.sessionId made) .asking
      ((insertSession params).chain fun session =>
        (createSessionMurmur host session).chain fun session => (createSessionGames host session).chain initSession) := by
    have inserted : Follows creation (Gives fun session birth => birth = .making session.sessionId []) .asking
        (insertSession params) := by
      have called : Follows creation (Gives fun sessionId birth => birth = .making sessionId []) .asking
          (Request.insertSession params) := by
        refine Follows.call rfl fun answer _ => ?_
        cases answer with
        | ok sessionId => rfl
        | error error => exact asking_idle
      exact gives_map called fun _ _ same => same
    apply gives_chain inserted
    rintro session _ rfl
    have murmured : Follows creation (Gives fun value birth => value = session ∧ birth = .making session.sessionId [])
        (.making session.sessionId []) (createSessionMurmur host session) :=
      gives_mapRej (gives_map (gives_quietly (making_idle _ _) (quietly_createMurmur host _ _ _)) fun _ _ same => ⟨rfl, same⟩)
    apply gives_chain murmured
    rintro _ _ ⟨rfl, rfl⟩
    apply gives_chain (follows_createSessionGames _)
    rintro _ _ ⟨rfl, made, some, rfl⟩
    refine (follows_initSession some).weaken fun birth result held => ?_
    cases result with
    | ok value => exact ⟨made, held.1 ▸ held.2⟩
    | error error => exact held
  apply created.chainRej
  · exact fun _ _ held => held
  · exact fun birth error idle => follows_rollback idle error

end

end DfStudy.CreationOrder
