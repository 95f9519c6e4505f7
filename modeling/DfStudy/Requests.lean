import DfStudy.Sessions

/-! What a request may do next, by what it has done so far: the session it is about and the ids it has
drawn or read. Every request of the server follows this protocol, whatever it is answered. -/

namespace DfStudy.Requests
open Attacks Rounds Games Tables Servers Sessions Support.Futures Future

inductive Stage where
  /-- A create that has no session yet. -/
  | asking
  | creating (sessionId : Nat) (drawn : List String)
  /-- The rows of the session's games have been read. -/
  | reading (sessionId : Nat) (listed : List String)
  /-- The games of the session are in memory. -/
  | loaded (sessionId : Nat) (listed : List String)
  | removing (sessionId : Nat) (listed : List String)
  /-- The session's row has been deleted, or that has failed. -/
  | finished
  | connecting (current : Option String)

namespace Stage

/-- The session a request is about. -/
def about : Stage → Option Nat
  | .creating sessionId _ | .reading sessionId _ | .loaded sessionId _ | .removing sessionId _ => some sessionId
  | .asking | .finished | .connecting _ => none

/-- The ids of games the request has drawn or read. -/
def gameIds : Stage → List String
  | .creating _ gameIds | .reading _ gameIds | .loaded _ gameIds | .removing _ gameIds => gameIds
  | .asking | .finished | .connecting _ => []

/-- The ids of games the request may remove. -/
def removable : Stage → List String
  | .reading _ listed | .removing _ listed => listed
  | _ => []

def draw (gameId : String) : Stage → Stage
  | .creating sessionId drawn => .creating sessionId (gameId :: drawn)
  | stage => stage

def read (rows : List GameRow) : Stage → Stage
  | .creating sessionId _ | .reading sessionId _ => .reading sessionId (rows.map (·.gameId))
  | .loaded sessionId _ | .removing sessionId _ => .removing sessionId (rows.map (·.gameId))
  | .connecting _ => .connecting ((rows.find? (·.isCurrent)).map (·.gameId))
  | stage => stage

def load : Stage → Stage
  | .reading sessionId listed => .loaded sessionId listed
  | stage => stage

def after (stage : Stage) (op : Op) (answer : Except Failure (Res op)) : Stage :=
  match op, answer with
  | .insertSession _, .ok sessionId => .creating sessionId []
  | .randomUUID, .ok gameId => stage.draw gameId
  | .selectGames _, .ok rows => stage.read rows
  | .initGameRows _, .ok _ => stage.load
  | .deleteSession _, _ => .finished
  | _, _ => stage

def permits (stage : Stage) : Op → Prop
  | .insertSession _ => stage = .asking
  | .deleteSession sessionId => stage.about = some sessionId
  | .randomUUID => ∃ sessionId drawn, stage = .creating sessionId drawn
  | .insertGame row => ∃ drawn, stage = .creating row.sessionId drawn ∧ row.gameId ∈ drawn ∧
      row.gameData.gameId = row.gameId
  | .selectGames sessionId => stage.about = some sessionId ∨ ∃ current, stage = .connecting current
  | .initGameRows rows => ∃ sessionId, stage = .reading sessionId (rows.map (·.gameId)) ∧
      ∀ row ∈ rows, row.gameData.gameId = row.gameId
  | .chainGames sessionId games => ∃ listed, stage = .loaded sessionId listed ∧ ∀ game ∈ games, game.gameId ∈ listed
  | .deleteGame gameId => gameId ∈ stage.removable
  | .removeMemGame game => game.gameId ∈ stage.removable
  | .joinGame _ game => stage = .connecting (some game.gameId)
  | _ => True

/-- What the server is known to answer. -/
def expects (_ : Stage) (op : Op) (answer : Except Failure (Res op)) : Prop :=
  match op, answer with
  | _, .error failure => ∃ message, failure = .error message
  | .selectGames sessionId, .ok rows => ∀ row ∈ rows, row.sessionId = sessionId ∧ row.gameData.gameId = row.gameId
  | .initGameRows rows, .ok games => ∀ game ∈ games, game.gameId ∈ rows.map (·.gameData.gameId)
  | .getGames gameIds, .ok games => games.map (·.gameId) = gameIds
  | _, _ => True

theorem read_about {stage : Stage} {sessionId : Nat} (about : stage.about = some sessionId) (rows : List GameRow) :
    (stage.read rows).about = some sessionId ∧ (stage.read rows).removable = rows.map (·.gameId) := by
  cases stage <;> first | exact ⟨about, rfl⟩ | cases about

end Stage

/-- The ways a permitted operation changes the stage. -/
inductive Progress : Stage → (op : Op) → Except Failure (Res op) → Stage → Prop
  | same (stage : Stage) (op : Op) (answer : Except Failure (Res op)) : Progress stage op answer stage
  | inserted (params : CreateSessionParams) (sessionId : Nat) :
      Progress .asking (.insertSession params) (.ok sessionId) (.creating sessionId [])
  | drew (sessionId : Nat) (drawn : List String) (gameId : String) :
      Progress (.creating sessionId drawn) .randomUUID (.ok gameId) (.creating sessionId (gameId :: drawn))
  | read (stage : Stage) (sessionId : Nat) (rows : List GameRow)
      (known : stage.about = some sessionId ∨ ∃ current, stage = .connecting current) :
      Progress stage (.selectGames sessionId) (.ok rows) (stage.read rows)
  | loads (sessionId : Nat) (rows : List GameRow) (games : List GameRef) :
      Progress (.reading sessionId (rows.map (·.gameId))) (.initGameRows rows) (.ok games)
        (.loaded sessionId (rows.map (·.gameId)))
  | ended (stage : Stage) (sessionId : Nat) (answer : Except Failure Unit) (about : stage.about = some sessionId) :
      Progress stage (.deleteSession sessionId) answer .finished

theorem Stage.progress {stage : Stage} {op : Op} (permitted : stage.permits op) (answer : Except Failure (Res op)) :
    Progress stage op answer (stage.after op answer) := by
  cases op with
  | insertSession params =>
    cases answer with
    | error failure => exact .same _ _ _
    | ok sessionId =>
      have start : stage = .asking := permitted
      rw [start]
      exact .inserted params sessionId
  | randomUUID =>
    obtain ⟨sessionId, drawn, rfl⟩ := permitted
    cases answer with
    | error failure => exact .same _ _ _
    | ok gameId => exact .drew sessionId drawn gameId
  | selectGames sessionId =>
    cases answer with
    | error failure => exact .same _ _ _
    | ok rows => exact .read stage sessionId rows permitted
  | initGameRows rows =>
    obtain ⟨sessionId, rfl, _⟩ := permitted
    cases answer with
    | error failure => exact .same _ _ _
    | ok games => exact .loads sessionId rows games
  | deleteSession sessionId => exact .ended stage sessionId answer permitted
  | _ => cases answer <;> exact .same _ _ _

def protocol : Protocol Op Res Failure Stage where
  permits := Stage.permits
  expects := Stage.expects
  after := Stage.after

/-- A request that keeps an assertion about its stage to its end. -/
abbrev Keeps {α : Type} (holds : Stage → Prop) (request : Request α) : Prop :=
  ∀ stage, holds stage → Follows protocol (fun after _ => holds after) stage request

/-- Operations that are always permitted and teach nothing. -/
def quiet : Op → Bool
  | .selectSessions | .insertMurmur _ | .selectMurmurs _ | .deleteMurmur _ | .insertAttack _ => true
  | .selectAttacks | .deleteAttacks _ | .docker _ | .mkdirSync _ | .rmdirSync _ => true
  | .getGames _ | .onRound _ _ => true
  | _ => false

section
variable {α β : Type} {holds : Stage → Prop}

theorem keeps_resolve (value : α) : Keeps holds (.resolve value : Request α) := fun _ held => held

theorem keeps_reject (error : Failure) : Keeps holds (.reject error : Request α) := fun _ held => held

theorem keeps_chain {request : Request α} {f : α → Request β} (first : Keeps holds request)
    (rest : ∀ value, Keeps holds (f value)) : Keeps holds (request.chain f) := fun stage held =>
  (first stage held).chain (fun after value held => rest value after held) fun _ _ held => held

theorem keeps_map {request : Request α} (f : α → β) (keeps : Keeps holds request) : Keeps holds (request.map f) :=
  fun stage held => (keeps stage held).map fun _ _ held => held

theorem keeps_coalesce {request : Request α} (keeps : Keeps holds request) : Keeps holds request.coalesce :=
  fun stage held => (keeps stage held).coalesce fun _ _ held => held

theorem keeps_parallel {requests : List (Request α)} (each : ∀ request ∈ requests, Keeps holds request) :
    Keeps holds (parallel requests) := fun _ held => Follows.parallel each held

theorem keeps_ofExcept (result : Except Failure α) : Keeps holds (ofExcept result) := by
  cases result with
  | ok value => exact keeps_resolve value
  | error error => exact keeps_reject error

theorem quiet_permitted {op : Op} (silent : quiet op) (stage : Stage) :
    stage.permits op ∧ ∀ answer, stage.after op answer = stage := by
  cases op <;> first | exact ⟨trivial, fun answer => by cases answer <;> rfl⟩ | cases silent

/-- A request of such operations only. -/
abbrev Quietly {α : Type} (request : Request α) : Prop := Within (fun op => quiet op = true) request

theorem quietly_call {op : Op} (silent : quiet op) : Quietly (call op) := Within.call silent

theorem keeps_quietly {request : Request α} (quietly : Quietly request) : Keeps holds request := fun stage held =>
  (Follows.of_silent (fun _ silent => quiet_permitted silent stage) quietly).weaken fun _ _ same => same ▸ held

theorem keeps_quiet {op : Op} (silent : quiet op) : Keeps holds (call op) := keeps_quietly (quietly_call silent)

/-! Requests that neither touch games nor delete a session. -/

variable (host : Host)

theorem quietly_createMurmur (sessionId grpcPort murmurPort : Nat) :
    Quietly (createMurmur host sessionId grpcPort murmurPort) :=
  Within.mapRej _ (Within.chain (quietly_call rfl) fun _ => Within.chain (quietly_call rfl) fun _ =>
    Within.map _ (quietly_call rfl))

theorem quietly_getMurmurBySessionId (sessionId : Nat) : Quietly (getMurmurBySessionId sessionId) := by
  apply Within.chain (quietly_call rfl)
  intro murmurs
  cases murmurs with
  | nil => trivial
  | cons murmur _ => trivial

theorem quietly_removeMurmur (murmur : Murmur) : Quietly (removeMurmur murmur) := by
  apply Within.chain (Within.coalesce (quietly_call rfl))
  intro removed
  have container : Quietly (removeContainer murmur) := Within.chain (quietly_call rfl) fun _ => quietly_call rfl
  have both : Quietly (parallel [(removeContainer murmur).coalesce, (ofExcept removed).coalesce]) := by
    apply Within.parallel
    intro request member
    rcases List.mem_cons.mp member with rfl | member
    · exact container.coalesce
    · rw [List.mem_singleton.mp member]
      exact (Within.ofExcept removed).coalesce
  exact both.chain fun _ => Within.map _ (quietly_call rfl)

theorem quietly_removeSessionMurmur (session : Session) : Quietly (removeSessionMurmur session) :=
  (quietly_getMurmurBySessionId _).chain fun murmur => (quietly_removeMurmur murmur).map _

theorem quietly_deleteSessionAttacks (session : Session) : Quietly (deleteSessionAttacks session) :=
  Within.map _ (quietly_call rfl)

theorem quietly_doMurmur (session : Session) : Quietly (doMurmur session) :=
  (quietly_getMurmurBySessionId _).chain fun _ => Within.chain (quietly_call rfl) fun _ =>
    Within.map _ (quietly_call rfl)

theorem quietly_doAttacks (session : Session) : Quietly (doAttacks session) := by
  apply Within.chain (quietly_call rfl)
  intro attacks
  apply Within.parallel
  intro request member
  obtain ⟨attack, _, rfl⟩ := List.mem_map.mp member
  apply Within.chain (quietly_call rfl)
  intro sessions
  split
  · trivial
  · exact Within.map _ (quietly_call rfl)

theorem quietly_createGameAttacks (schedule : List RoundData) (gameRow : GameRow) :
    Quietly (createGameAttacks host schedule gameRow) := by
  apply Within.map
  apply Within.parallel
  intro request member
  obtain ⟨_, _, rfl⟩ := List.mem_map.mp member
  exact quietly_call rfl

end

/-! Removing a session. -/

/-- The operations of a removal. -/
def ofRemoval : Op → Bool
  | .selectGames _ | .deleteGame _ | .removeMemGame _ | .deleteSession _ => true
  | op => quiet op

theorem ofRemoval_of_quiet {op : Op} (silent : quiet op) : ofRemoval op := by
  cases op <;> first | rfl | exact silent

theorem within_call {op : Op} (own : ofRemoval op) :
    Within (fun op => ofRemoval op = true) (call op : Request (Res op)) := Within.call own

theorem within_removeSession (sessionId : Nat) :
    Within (fun op => ofRemoval op = true) (removeSession sessionId) := by
  have found : Within (fun op => ofRemoval op = true) (getSessionById sessionId) := by
    apply Within.chain (within_call rfl)
    intro sessions
    split <;> trivial
  have games : ∀ session, Within (fun op => ofRemoval op = true) (removeSessionGames session) := by
    intro session
    apply Within.chain (within_call rfl)
    intro rows
    apply Within.chain (within_call rfl)
    intro games
    apply Within.map
    apply Within.parallel
    intro request member
    obtain ⟨game, _, rfl⟩ := List.mem_map.mp member
    exact Within.chain (within_call rfl) fun _ => Within.map _ (within_call rfl)
  apply found.chain
  intro session
  have parts : Within (fun op => ofRemoval op = true) (parallel [(removeSessionGames session).coalesce,
      (deleteSessionAttacks session).coalesce, (removeSessionMurmur session).coalesce]) := by
    apply Within.parallel
    intro request member
    simp only [List.mem_cons, List.not_mem_nil, or_false] at member
    rcases member with rfl | rfl | rfl
    · exact (games session).coalesce
    · exact ((quietly_deleteSessionAttacks session).mono fun _ => ofRemoval_of_quiet).coalesce
    · exact ((quietly_removeSessionMurmur session).mono fun _ => ofRemoval_of_quiet).coalesce
  exact parts.chain fun _ => Within.map _ (within_call rfl)

theorem follows_getSessionById {stage : Stage} (sessionId : Nat) :
    Follows protocol (fun after result => after = stage ∧ ∀ session, result = .ok session → session.sessionId = sessionId)
      stage (getSessionById sessionId) := by
  have kept : Follows protocol (fun after _ => after = stage) stage Request.selectSessions := keeps_quiet rfl stage rfl
  apply kept.chain
  · rintro after sessions rfl
    cases found : sessions.find? (·.sessionId = sessionId) with
    | none => exact ⟨rfl, fun session same => nomatch same⟩
    | some session =>
      refine ⟨rfl, fun other same => ?_⟩
      cases same
      simpa using List.find?_some found
  · rintro after error rfl
    exact ⟨rfl, fun session same => nomatch same⟩

theorem keeps_removeGame {stage : Stage} {game : GameRef} (removable : game.gameId ∈ stage.removable) :
    Keeps (· = stage) (removeGame game) := by
  apply keeps_chain
  · rintro _ rfl
    exact Follows.call removable fun answer _ => by cases answer <;> rfl
  · intro _
    apply keeps_map
    rintro _ rfl
    exact Follows.call removable fun answer _ => by cases answer <;> rfl

theorem keeps_removeSessionGames {session : Session} :
    Keeps (fun stage => stage.about = some session.sessionId) (removeSessionGames session) := by
  intro stage about
  have selected : Follows protocol (fun after result => after.about = some session.sessionId ∧
      ∀ rows, result = .ok rows → after.removable = rows.map (·.gameId)) stage (getSessionGames session.sessionId) := by
    apply Follows.call (Or.inl about)
    intro answer _
    cases answer with
    | error failure => exact ⟨about, fun rows same => nomatch same⟩
    | ok rows =>
      have read := Stage.read_about about rows
      refine ⟨read.1, fun others same => ?_⟩
      cases same
      exact read.2
  apply selected.chain
  · rintro after rows ⟨about', removable⟩
    have found : Follows protocol (fun after' result => after' = after ∧
        ∀ games, result = .ok games → games.map (·.gameId) = rows.map (·.gameId)) after
        (Request.getGames (rows.map (·.gameId))) := by
      apply Follows.call trivial
      intro answer expected
      cases answer with
      | error failure => exact ⟨rfl, fun games same => nomatch same⟩
      | ok games =>
        refine ⟨rfl, fun others same => ?_⟩
        cases same
        exact expected
    apply found.chain
    · rintro after' games ⟨rfl, same⟩
      have removed : Keeps (· = after') (parallel (games.map removeGame)) := by
        apply keeps_parallel
        intro request member
        obtain ⟨game, present, rfl⟩ := List.mem_map.mp member
        apply keeps_removeGame
        rw [removable rows rfl, ← same games rfl]
        exact List.mem_map_of_mem present
      apply (removed after' rfl).map
      rintro after'' _ rfl
      exact about'
    · rintro after' _ ⟨rfl, _⟩
      exact about'
  · rintro after _ ⟨about', _⟩
    exact about'

theorem follows_removeSession {stage : Stage} {sessionId : Nat} (about : stage.about = some sessionId) :
    Follows protocol (fun _ _ => True) stage (removeSession sessionId) := by
  apply (follows_getSessionById sessionId).chain
  · rintro after session ⟨rfl, same⟩
    have own : session.sessionId = sessionId := same session rfl
    rw [← own] at about
    have taken : Keeps (fun stage => stage.about = some session.sessionId)
        (parallel [(removeSessionGames session).coalesce, (deleteSessionAttacks session).coalesce,
          (removeSessionMurmur session).coalesce]) := by
      apply keeps_parallel
      intro request member
      simp only [List.mem_cons, List.not_mem_nil, or_false] at member
      rcases member with rfl | rfl | rfl
      · exact keeps_coalesce keeps_removeSessionGames
      · exact keeps_coalesce (keeps_quietly (quietly_deleteSessionAttacks session))
      · exact keeps_coalesce (keeps_quietly (quietly_removeSessionMurmur session))
    apply (taken after about).chain
    · intro after' _ about'
      have deleted : Follows protocol (fun _ _ => True) after' (Request.deleteSession session.sessionId) :=
        Follows.call about' fun _ _ => trivial
      exact deleted.map fun _ _ _ => trivial
    · exact fun _ _ _ => trivial
  · exact fun _ _ _ => trivial

/-! Creating a session. -/

/-- The rollback knows which session to remove. -/
def Traceable (stage : Stage) (error : Failure) : Prop :=
  (∀ session message, error = .sessionError session message → stage.about = some session.sessionId)

/-- The games of the session that is returned have been loaded. -/
def Created (stage : Stage) (result : Except Failure Session) : Prop :=
  ∀ session, result = .ok session → ∃ listed, stage = .loaded session.sessionId listed

/-- A step of a create: on success an assertion holds, and an error can be traced to the session. -/
def Stepped {α : Type} (holds : α → Stage → Prop) (stage : Stage) : Except Failure α → Prop
  | .ok value => holds value stage
  | .error error => Traceable stage error

theorem traceable_sessionError {stage : Stage} {session : Session} (about : stage.about = some session.sessionId)
    (error : Failure) : Traceable stage (sessionError session error) := by
  intro other message same
  cases same
  exact about

section
variable (host : Host) {session : Session} {drawn : List String}

theorem follows_createSessionMurmur :
    Follows protocol (Stepped fun value stage => value = session ∧ stage = .creating session.sessionId drawn)
      (.creating session.sessionId drawn) (createSessionMurmur host session) := by
  have kept : Follows protocol (fun stage _ => stage = .creating session.sessionId drawn) _
      (createMurmur host session.sessionId session.grpcPort session.murmurPort) := 
      keeps_quietly (quietly_createMurmur host _ _ _) _ rfl
  have named : Follows protocol (fun stage result => stage = .creating session.sessionId drawn ∧
      ∀ value, result = .ok value → value = session) (.creating session.sessionId drawn)
      ((createMurmur host session.sessionId session.grpcPort session.murmurPort).map fun _ => session) := by
    apply kept.map
    rintro stage result same
    refine ⟨same, fun value equal => ?_⟩
    cases result <;> cases equal
    rfl
  apply named.mapRej
  rintro stage result ⟨rfl, same⟩
  cases result with
  | ok value => exact ⟨same value rfl, rfl⟩
  | error error => exact traceable_sessionError rfl error

theorem follows_drawIds (sessionId count : Nat) (drawn : List String) :
    Follows protocol (fun stage result => ∃ drawn', stage = .creating sessionId drawn' ∧
      (∀ gameId ∈ drawn, gameId ∈ drawn') ∧ ∀ gameIds, result = .ok gameIds → ∀ gameId ∈ gameIds, gameId ∈ drawn')
      (.creating sessionId drawn) (drawIds count) := by
  induction count generalizing drawn with
  | zero =>
    refine ⟨drawn, rfl, fun _ member => member, fun gameIds same => ?_⟩
    cases same
    simp
  | succ count ih =>
    have first : Follows protocol (fun stage result => (∃ failure, result = .error failure ∧
        stage = .creating sessionId drawn) ∨ ∃ gameId, result = .ok gameId ∧
          stage = .creating sessionId (gameId :: drawn)) (.creating sessionId drawn) Request.randomUUID := by
      have permitted : protocol.permits (.creating sessionId drawn) .randomUUID := ⟨sessionId, drawn, rfl⟩
      apply Follows.call permitted
      intro answer _
      cases answer with
      | error failure => exact .inl ⟨failure, rfl, rfl⟩
      | ok gameId => exact .inr ⟨gameId, rfl, rfl⟩
    apply first.chain
    · rintro stage value (⟨failure, same, _⟩ | ⟨gameId, same, rfl⟩)
      · cases same
      · cases same
        apply (ih (value :: drawn)).map
        rintro stage result ⟨drawn', rfl, older, among⟩
        refine ⟨drawn', rfl, fun gameId member => older gameId (List.mem_cons_of_mem _ member), ?_⟩
        intro gameIds equal
        cases result with
        | error failure => cases equal
        | ok rest =>
          cases equal
          intro gameId member
          rcases List.mem_cons.mp member with rfl | later
          · exact older gameId (List.mem_cons_self ..)
          · exact among rest rfl gameId later
    · rintro stage error (⟨failure, same, rfl⟩ | ⟨gameId, same, _⟩)
      · exact ⟨drawn, rfl, fun _ member => member, fun _ equal => nomatch equal⟩
      · cases same

theorem keeps_createGame {sessionId : Nat} (gameId blue red : String) (gameOrder : Nat) (schedule : List RoundData)
    (isCurrent : Bool) (member : gameId ∈ drawn) :
    Keeps (· = .creating sessionId drawn) (createGame host gameId blue red sessionId gameOrder schedule isCurrent) := by
  apply keeps_chain (keeps_ofExcept _)
  intro rounds
  apply keeps_chain
  · rintro _ rfl
    exact Follows.call ⟨drawn, rfl, member, rfl⟩ fun answer _ => by cases answer <;> rfl
  · exact fun _ => keeps_quietly (quietly_createGameAttacks host schedule _)

theorem follows_createSessionGames :
    Follows protocol (Stepped fun value stage => value = session ∧ ∃ drawn', stage = .creating session.sessionId drawn')
      (.creating session.sessionId drawn) (createSessionGames host session) := by
  have made : Follows protocol (fun stage result => (∃ drawn', stage = .creating session.sessionId drawn') ∧
      ∀ value, result = .ok value → value = session) (.creating session.sessionId drawn)
      ((drawIds (sessionPlan session).length).chain fun gameIds =>
        (parallel (createGames host session.sessionId (sessionPlan session) gameIds)).map fun _ => session) := by
    apply (follows_drawIds session.sessionId (sessionPlan session).length drawn).chain
    · rintro stage gameIds ⟨drawn', rfl, _, among⟩
      have games : Keeps (· = .creating session.sessionId drawn')
          (parallel (createGames host session.sessionId (sessionPlan session) gameIds)) := by
        apply keeps_parallel
        intro request member
        unfold createGames at member
        obtain ⟨⟨⟨game, gameId⟩, gameOrder⟩, present, rfl⟩ := List.mem_map.mp member
        apply keeps_createGame
        have zipped : (game, gameId) ∈ (sessionPlan session).zip gameIds :=
          List.mem_of_getElem? (List.mk_mem_zipIdx_iff_getElem?.mp present)
        exact among gameIds rfl gameId (List.of_mem_zip zipped).2
      apply (games _ rfl).map
      rintro stage result same
      refine ⟨⟨drawn', same⟩, fun value equal => ?_⟩
      cases result <;> cases equal
      rfl
    · rintro stage error ⟨drawn', same, _⟩
      exact ⟨⟨drawn', same⟩, fun _ equal => nomatch equal⟩
  apply made.mapRej
  rintro stage result ⟨⟨drawn', rfl⟩, same⟩
  cases result with
  | ok value => exact ⟨same value rfl, drawn', rfl⟩
  | error error => exact traceable_sessionError rfl error

theorem follows_doGames :
    Follows protocol (fun stage result => stage.about = some session.sessionId ∧
      ∀ value, result = .ok value → ∃ listed, stage = .loaded session.sessionId listed)
      (.creating session.sessionId drawn) (doGames session) := by
  have selected : Follows protocol (fun stage result => stage.about = some session.sessionId ∧
      ∀ rows, result = .ok rows → stage = .reading session.sessionId (rows.map (·.gameId)) ∧
        ∀ row ∈ rows, row.gameData.gameId = row.gameId) (.creating session.sessionId drawn)
      (getSessionGames session.sessionId) := by
    apply Follows.call (Or.inl rfl)
    intro answer expected
    cases answer with
    | error failure => exact ⟨rfl, fun _ equal => nomatch equal⟩
    | ok rows =>
      refine ⟨rfl, fun others equal => ?_⟩
      cases equal
      exact ⟨rfl, fun row member => (expected row member).2⟩
  apply selected.chain
  · rintro stage rows ⟨_, read⟩
    obtain ⟨rfl, own⟩ := read rows rfl
    have initialised : Follows protocol (fun stage result => stage.about = some session.sessionId ∧
        ∀ games, result = .ok games → stage = .loaded session.sessionId (rows.map (·.gameId)) ∧
          ∀ game ∈ games, game.gameId ∈ rows.map (·.gameId))
        (.reading session.sessionId (rows.map (·.gameId))) (Request.initGameRows rows) := by
      have permitted : protocol.permits (.reading session.sessionId (rows.map (·.gameId))) (.initGameRows rows) :=
        ⟨session.sessionId, rfl, own⟩
      apply Follows.call permitted
      intro answer expected
      cases answer with
      | error failure => exact ⟨rfl, fun _ equal => nomatch equal⟩
      | ok games =>
        refine ⟨rfl, fun others equal => ?_⟩
        cases equal
        refine ⟨rfl, fun game member => ?_⟩
        have known : game.gameId ∈ rows.map (·.gameData.gameId) := expected game member
        rw [List.map_congr_left own] at known
        exact known
    apply initialised.chain
    · rintro stage games ⟨_, load⟩
      obtain ⟨rfl, among⟩ := load games rfl
      have permitted : protocol.permits (.loaded session.sessionId (rows.map (·.gameId)))
          (.chainGames session.sessionId games) := ⟨_, rfl, among⟩
      apply Follows.call permitted
      intro answer _
      cases answer <;> exact ⟨rfl, fun _ _ => ⟨_, rfl⟩⟩
    · rintro stage error ⟨about, _⟩
      exact ⟨about, fun _ equal => nomatch equal⟩
  · rintro stage error ⟨about, _⟩
    exact ⟨about, fun _ equal => nomatch equal⟩

theorem follows_initSession :
    Follows protocol (Stepped fun value stage => ∃ listed, stage = .loaded value.sessionId listed)
      (.creating session.sessionId drawn) (initSession session) := by
  have done : Follows protocol (fun stage result => stage.about = some session.sessionId ∧
      ∀ value, result = .ok value → ∃ listed, stage = .loaded session.sessionId listed)
      (.creating session.sessionId drawn)
      ((doGames session).chain fun _ => (doAttacks session).chain fun _ => doMurmur session) := by
    apply follows_doGames.chain
    · rintro stage value ⟨_, load⟩
      obtain ⟨listed, rfl⟩ := load value rfl
      have kept : Keeps (· = .loaded session.sessionId listed)
          ((doAttacks session).chain fun _ => doMurmur session) :=
        keeps_quietly ((quietly_doAttacks session).chain fun _ => quietly_doMurmur session)
      apply (kept _ rfl).weaken
      rintro stage result rfl
      exact ⟨rfl, fun _ _ => ⟨listed, rfl⟩⟩
    · rintro stage error ⟨about, _⟩
      exact ⟨about, fun _ equal => nomatch equal⟩
  have traced : Follows protocol (fun stage result => match result with
      | .ok _ => ∃ listed, stage = .loaded session.sessionId listed
      | .error error => Traceable stage error) (.creating session.sessionId drawn)
      (((doGames session).chain fun _ => (doAttacks session).chain fun _ => doMurmur session).mapRej
        (sessionError session)) := by
    apply done.mapRej
    rintro stage result ⟨about, load⟩
    cases result with
    | ok value => exact load value rfl
    | error error => exact traceable_sessionError about error
  apply traced.map
  intro stage result held
  cases result with
  | ok value => exact held
  | error error => exact held

theorem follows_rollback {stage : Stage} {error : Failure} (traceable : Traceable stage error) :
    Follows protocol Created stage (rollback error) := by
  cases error with
  | sessionError session message =>
    apply (follows_removeSession (traceable session message rfl)).chain
    · exact fun _ _ _ _ equal => nomatch equal
    · exact fun _ _ _ _ equal => nomatch equal
  | error message => exact fun _ equal => nomatch equal
  | createMurmurError message => exact fun _ equal => nomatch equal

theorem follows_createSession (params : CreateSessionParams) :
    Follows protocol Created .asking (createSession host params) := by
  have inserted : Follows protocol (Stepped fun session stage => stage = .creating session.sessionId []) .asking
      (Sessions.insertSession params) := by
    have called : Follows protocol (fun stage result => match result with
        | .ok sessionId => stage = .creating sessionId []
        | .error error => Traceable stage error) .asking (Request.insertSession params) := by
      apply Follows.call rfl
      intro answer expected
      cases answer with
      | ok sessionId => rfl
      | error error =>
        obtain ⟨message, rfl⟩ := expected
        exact fun session message equal => nomatch equal
    apply called.map
    intro stage result held
    cases result with
    | ok sessionId => exact held
    | error error => exact held
  have attempted : Follows protocol (Stepped fun value stage => ∃ listed, stage = .loaded value.sessionId listed) .asking
      ((Sessions.insertSession params).chain fun session =>
        (createSessionMurmur host session).chain fun session =>
          (createSessionGames host session).chain initSession) := by
    apply inserted.chain
    · rintro stage session rfl
      apply (follows_createSessionMurmur host).chain
      · rintro stage value ⟨rfl, rfl⟩
        apply (follows_createSessionGames host).chain
        · rintro stage value' ⟨rfl, drawn', rfl⟩
          exact follows_initSession
        · exact fun _ _ held => held
      · exact fun _ _ held => held
    · exact fun _ _ held => held
  apply attempted.chainRej
  · rintro stage session ⟨listed, rfl⟩ other equal
    cases equal
    exact ⟨listed, rfl⟩
  · exact fun _ _ traceable => follows_rollback traceable

/-! Connecting. -/

theorem follows_onConnect (socket : Nat) (playerId : String) :
    Follows protocol (fun _ _ => True) (.connecting none) (onConnect socket playerId) := by
  have found : Keeps (· = .connecting none) (getPlayerSession playerId) := by
    apply keeps_chain (keeps_quiet rfl)
    intro sessions
    split
    · exact keeps_reject _
    · exact keeps_resolve _
  apply (found _ rfl).chain
  · rintro stage session rfl
    have current : Follows protocol (fun stage result => ∀ game, result = .ok game →
        stage = .connecting (some game.gameId)) (.connecting none) (getCurrentGame session.sessionId) := by
      have selected : Follows protocol (fun stage result => ∀ rows, result = .ok rows →
          stage = .connecting ((rows.find? (·.isCurrent)).map (·.gameId))) (.connecting none)
          (getSessionGames session.sessionId) := by
        apply Follows.call (Or.inr ⟨none, rfl⟩)
        intro answer _ rows equal
        cases equal
        rfl
      apply selected.chain
      · intro stage rows read
        rw [read rows rfl]
        cases flagged : rows.find? (·.isCurrent) with
        | none => exact fun _ equal => nomatch equal
        | some row =>
          have looked : Follows protocol (fun stage result => stage = .connecting (some row.gameId) ∧
              ∀ games, result = .ok games → games.map (·.gameId) = [row.gameId]) (.connecting (some row.gameId))
              (Request.getGames [row.gameId]) := by
            apply Follows.call trivial
            intro answer expected
            cases answer with
            | error failure => exact ⟨rfl, fun _ equal => nomatch equal⟩
            | ok games =>
              refine ⟨rfl, fun others equal => ?_⟩
              cases equal
              exact expected
          apply looked.chain
          · rintro stage games ⟨rfl, ids⟩
            have same := ids games rfl
            cases games with
            | nil => exact fun _ equal => nomatch equal
            | cons game others =>
              rintro other equal
              cases equal
              have own : game.gameId = row.gameId := (List.cons.inj same).1
              rw [own]
          · exact fun _ _ _ _ equal => nomatch equal
      · exact fun _ _ _ _ equal => nomatch equal
    apply current.chain
    · intro stage game known
      rw [known game rfl]
      exact Follows.call rfl fun _ _ => trivial
    · exact fun _ _ _ => trivial
  · exact fun _ _ _ => trivial

end

end DfStudy.Requests
