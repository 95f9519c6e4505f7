import DfStudy.GameControl
import DfStudy.Lifetimes

/-! What the requests of the server have been told. A request acts for the session it has inserted, and otherwise on what it
has read: games are loaded from rows, attacks are scheduled on the port of their session, and a player joins a game of a
session that he takes part in. -/

namespace DfStudy.Acquaintance
open Attacks Rounds Games GameControl Tables Servers Sessions Lifetimes Processes Support.Futures Future

def participants (session : Session) : List String := [session.blueParticipant, session.redParticipant]

structure Known where
  /-- The session the request has inserted. -/
  session : Option Session := none
  drawn : List String := []
  sessions : List Session := []
  rows : List GameRow := []
  attacks : List Attack := []

namespace Known

def after (known : Known) (op : Op) (answer : Except Failure (Res op)) : Known :=
  match op, answer with
  | .insertSession params, .ok sessionId => { known with session := some { params with sessionId } }
  | .randomUUID, .ok gameId => { known with drawn := gameId :: known.drawn }
  | .selectSessions, .ok sessions => { known with sessions }
  | .selectGames _, .ok rows => { known with rows }
  | .selectAttacks, .ok attacks => { known with attacks }
  | _, _ => known

/-- The id has been drawn for a game of the session. -/
def Draws (known : Known) (session : Session) (gameId : String) : Prop := known.session = some session ∧ gameId ∈ known.drawn

/-- A visitor is a player behind a socket. -/
def permits (visitor : Option (Nat × String)) (known : Known) : Op → Prop
  | .insertSession _ => known.session = none
  | .randomUUID => known.session.isSome
  | .insertGame row => ∃ session, known.Draws session row.gameId ∧ row.sessionId = session.sessionId ∧
      row.gameData.gameId = row.gameId ∧ (playerIds row.gameData.players).Perm (participants session)
  | .insertAttack attack => ∃ session, known.Draws session attack.gameId ∧ attack.sessionId = session.sessionId ∧
      [attack.sourceUser, attack.targetUser].Perm (participants session)
  | .initGameRows rows => ∀ row ∈ rows, row ∈ known.rows
  | .onRound attack grpcPort => attack ∈ known.attacks ∧
      ∃ session ∈ known.sessions, session.sessionId = attack.sessionId ∧ session.grpcPort = grpcPort
  | .joinGame socket game => ∃ playerId, visitor = some (socket, playerId) ∧
      ∃ row ∈ known.rows, row.gameId = game.gameId ∧
        ∃ session ∈ known.sessions, session.sessionId = row.sessionId ∧ playerId ∈ participants session
  | _ => True

def expects (_ : Known) (op : Op) (answer : Except Failure (Res op)) : Prop :=
  match op, answer with
  | .selectGames sessionId, .ok rows => ∀ row ∈ rows, row.sessionId = sessionId
  | .getGames gameIds, .ok games => games.map (·.gameId) = gameIds
  | _, _ => True

end Known

def acquaintance (visitor : Option (Nat × String)) : Protocol Op Res Failure Known where
  permits := Known.permits visitor
  expects := Known.expects
  after := Known.after

/-- What is known when the request resolves. -/
def Told {α : Type} (holds : α → Known → Prop) (known : Known) (result : Except Failure α) : Prop :=
  ∀ value, result = .ok value → holds value known

section
variable {visitor : Option (Nat × String)} {α β : Type} {known : Known}

theorem told_chain {first : α → Known → Prop} {holds : β → Known → Prop} {request : Request α} {f : α → Request β}
    (follows : Follows (acquaintance visitor) (Told first) known request)
    (rest : ∀ value known, first value known → Follows (acquaintance visitor) (Told holds) known (f value)) :
    Follows (acquaintance visitor) (Told holds) known (request.chain f) :=
  follows.chain (fun known value held => rest value known (held value rfl)) fun _ _ _ => nofun

theorem told_map {first : α → Known → Prop} {holds : β → Known → Prop} {request : Request α} {f : α → β}
    (follows : Follows (acquaintance visitor) (Told first) known request)
    (implies : ∀ value known, first value known → holds (f value) known) :
    Follows (acquaintance visitor) (Told holds) known (request.map f) :=
  told_chain follows fun value known held other same => by
    cases same
    exact implies value known held

theorem told_mapRej {holds : α → Known → Prop} {request : Request α} {f : Failure → Failure}
    (follows : Follows (acquaintance visitor) (Told holds) known request) :
    Follows (acquaintance visitor) (Told holds) known (request.mapRej f) :=
  follows.mapRej fun known result held value same => by
    cases result with
    | ok found => exact held value same
    | error error => cases same

/-! Operations that are permitted whatever is known. -/

def plain : Op → Bool
  | .insertSession _ | .randomUUID | .insertGame _ | .insertAttack _ | .initGameRows _ | .onRound _ _ | .joinGame _ _ => false
  | _ => true

/-- The session the request acts for stays the same. -/
def Same (known after : Known) : Prop := after.session = known.session ∧ after.drawn = known.drawn

theorem plain_kept {op : Op} (easy : plain op = true) {after : Known} (same : Same known after) :
    (acquaintance visitor).permits after op ∧ ∀ answer, Same known ((acquaintance visitor).after after op answer) := by
  cases op with
  | insertSession _ | randomUUID | insertGame _ | insertAttack _ | initGameRows _ | onRound _ _ | joinGame _ _ => cases easy
  | _ => exact ⟨trivial, fun answer => by cases answer <;> exact same⟩

abbrev Plainly {α : Type} (request : Request α) : Prop := Within (fun op => plain op = true) request

theorem plainly_call {op : Op} (easy : plain op = true) : Plainly (call op) := Within.call easy

theorem told_plainly {request : Request α} (plainly : Plainly request) :
    Follows (acquaintance visitor) (fun after _ => Same known after) known request :=
  Follows.of_kept (fun _ _ same easy => plain_kept easy same) plainly ⟨rfl, rfl⟩

theorem told_same {request : Request α} (plainly : Plainly request) :
    Follows (acquaintance visitor) (Told fun _ after => Same known after) known request :=
  (told_plainly plainly).weaken fun _ _ same _ _ => same

/-! Murmurs, and removing a session. -/

variable (host : Host)

theorem plainly_createMurmur (sessionId grpcPort murmurPort : Nat) : Plainly (createMurmur host sessionId grpcPort murmurPort) :=
  Within.mapRej _ (Within.chain (plainly_call rfl) fun _ => Within.chain (plainly_call rfl) fun _ => Within.map _ (plainly_call rfl))

theorem plainly_getMurmurBySessionId (sessionId : Nat) : Plainly (getMurmurBySessionId sessionId) := by
  apply Within.chain (plainly_call rfl)
  intro murmurs
  cases murmurs <;> trivial

theorem plainly_doMurmur (session : Session) : Plainly (doMurmur session) :=
  (plainly_getMurmurBySessionId _).chain fun _ => Within.chain (plainly_call rfl) fun _ => Within.map _ (plainly_call rfl)

theorem plainly_removeMurmur (murmur : Murmur) : Plainly (removeMurmur murmur) := by
  apply Within.chain (Within.coalesce (plainly_call rfl))
  intro removed
  have container : Plainly (removeContainer murmur) := Within.chain (plainly_call rfl) fun _ => plainly_call rfl
  have both : Plainly (parallel [(removeContainer murmur).coalesce, (ofExcept removed).coalesce]) := by
    apply Within.parallel
    simpa using ⟨container.coalesce, (Within.ofExcept removed).coalesce⟩
  exact both.chain fun _ => Within.map _ (plainly_call rfl)

theorem plainly_removeSessionGames (session : Session) : Plainly (removeSessionGames session) := by
  apply Within.chain (plainly_call rfl)
  intro rows
  apply Within.chain (plainly_call rfl)
  intro games
  apply Within.map
  apply Within.parallel
  intro request member
  obtain ⟨game, _, rfl⟩ := List.mem_map.mp member
  exact Within.chain (plainly_call rfl) fun _ => Within.map _ (plainly_call rfl)

theorem plainly_removeSession (sessionId : Nat) : Plainly (removeSession sessionId) := by
  have found : Plainly (getSessionById sessionId) := by
    apply Within.chain (plainly_call rfl)
    intro sessions
    split <;> trivial
  apply found.chain
  intro session
  have murmur : Plainly (removeSessionMurmur session) :=
    (plainly_getMurmurBySessionId _).chain fun murmur => (plainly_removeMurmur murmur).map _
  have attacks : Plainly (deleteSessionAttacks session) := Within.map _ (plainly_call rfl)
  have parts : Plainly (parallel [(removeSessionGames session).coalesce, (deleteSessionAttacks session).coalesce,
      (removeSessionMurmur session).coalesce]) := by
    apply Within.parallel
    simpa using ⟨(plainly_removeSessionGames session).coalesce, attacks.coalesce, murmur.coalesce⟩
  exact parts.chain fun _ => Within.map _ (plainly_call rfl)

/-! Initialising a session. -/

theorem told_selectSessions :
    Follows (acquaintance visitor) (Told fun sessions after => after = { known with sessions }) known Request.selectSessions :=
  Follows.call trivial fun answer _ sessions same => by
    subst same
    rfl

theorem told_getSessionGames (sessionId : Nat) :
    Follows (acquaintance visitor)
      (Told fun rows after => after = { known with rows } ∧ ∀ row ∈ rows, row.sessionId = sessionId) known
      (getSessionGames sessionId) :=
  Follows.call trivial fun answer expected rows same => by
    subst same
    exact ⟨rfl, expected⟩

theorem follows_doGames (session : Session) :
    Follows (acquaintance visitor) (fun _ _ => True) known (doGames session) := by
  apply (told_getSessionGames session.sessionId).chain
  · intro after rows told
    obtain ⟨rfl, _⟩ := told rows rfl
    have loads : Follows (acquaintance visitor) (fun _ _ => True) { known with rows } (Request.initGameRows rows) :=
      Follows.call (fun row member => member) fun _ _ => trivial
    apply loads.chain
    · exact fun _ games _ => Follows.call trivial fun _ _ => trivial
    · exact fun _ _ _ => trivial
  · exact fun _ _ _ => trivial

/-- An attack is scheduled on the port of the session that has its id. -/
theorem follows_scheduleAttack {attacks : List Attack} {attack : Attack} (member : attack ∈ attacks)
    (told : known.attacks = attacks) :
    Follows (acquaintance visitor) (fun known _ => known.attacks = attacks) known (scheduleAttack attack) := by
  have read : Follows (acquaintance visitor) (fun after result => after.attacks = attacks ∧
      ∀ sessions, result = .ok sessions → after.sessions = sessions) known Request.selectSessions := by
    refine Follows.call trivial fun answer _ => ?_
    cases answer with
    | error error => exact ⟨told, nofun⟩
    | ok sessions => exact ⟨told, fun _ same => Except.ok.inj same⟩
  apply read.chain
  · intro after sessions ⟨kept, found⟩
    split
    next => exact kept
    next session here =>
      have listed : session ∈ after.sessions := by
        rw [found sessions rfl]
        exact List.mem_of_find?_eq_some here
      have own : session.sessionId = attack.sessionId := by simpa using List.find?_some here
      have scheduled : Follows (acquaintance visitor) (fun known _ => known.attacks = attacks) after
          (Request.onRound attack session.grpcPort) := by
        refine Follows.call ⟨kept ▸ member, session, listed, own, rfl⟩ fun answer _ => ?_
        cases answer <;> exact kept
      exact scheduled.map fun _ _ kept => kept
  · exact fun _ _ held => held.1

theorem follows_doAttacks (session : Session) :
    Follows (acquaintance visitor) (fun _ _ => True) known (doAttacks session) := by
  have read : Follows (acquaintance visitor) (Told fun attacks after => after.attacks = attacks) known Request.selectAttacks :=
    Follows.call trivial fun answer _ attacks same => by
      subst same
      rfl
  apply read.chain
  · intro after attacks told
    have all : Follows (acquaintance visitor) (fun known _ => known.attacks = attacks) after
        (parallel ((attacks.filter (·.sessionId = session.sessionId)).map scheduleAttack)) := by
      refine Follows.parallel (fun request member known kept => ?_) (told attacks rfl)
      obtain ⟨attack, listed, rfl⟩ := List.mem_map.mp member
      exact follows_scheduleAttack (List.mem_filter.mp listed).1 kept
    exact all.weaken fun _ _ _ => trivial
  · exact fun _ _ _ => trivial

theorem follows_initSession (session : Session) :
    Follows (acquaintance visitor) (fun _ _ => True) known (initSession session) := by
  have murmur : ∀ known, Follows (acquaintance visitor) (fun _ _ => True) known (doMurmur session) := fun known =>
    (told_plainly (plainly_doMurmur session)).weaken fun _ _ _ => trivial
  have attacks : ∀ known, Follows (acquaintance visitor) (fun _ _ => True) known
      ((doAttacks session).chain fun _ => doMurmur session) := fun known =>
    (follows_doAttacks session).chain (fun after _ _ => murmur after) fun _ _ _ => trivial
  have done : Follows (acquaintance visitor) (fun _ _ => True) known
      ((doGames session).chain fun _ => (doAttacks session).chain fun _ => doMurmur session) :=
    (follows_doGames session).chain (fun after _ _ => attacks after) fun _ _ _ => trivial
  have named : Follows (acquaintance visitor) (fun _ _ => True) known
      (((doGames session).chain fun _ => (doAttacks session).chain fun _ => doMurmur session).mapRej (sessionError session)) :=
    done.mapRej fun _ _ _ => trivial
  exact named.map fun _ _ _ => trivial

theorem follows_initSessions : Follows (acquaintance visitor) (fun _ _ => True) known initSessions := by
  apply told_selectSessions.chain
  · intro after sessions _
    refine @Follows.parallel _ _ _ _ _ (acquaintance visitor) _ _ (fun _ => True) (fun request member known _ => ?_) trivial
    obtain ⟨session, _, rfl⟩ := List.mem_map.mp member
    exact (follows_initSession session).coalesce fun _ _ _ => trivial
  · exact fun _ _ _ => trivial

/-! Creating a session. -/

/-- The games of the session are made under these ids. -/
def Makes (session : Session) (gameIds : List String) (known : Known) : Prop :=
  known.session = some session ∧ ∀ gameId ∈ gameIds, gameId ∈ known.drawn

theorem Makes.same {session : Session} {gameIds : List String} {known after : Known} (makes : Makes session gameIds known)
    (same : Same known after) : Makes session gameIds after :=
  ⟨same.1.trans makes.1, fun gameId listed => same.2 ▸ makes.2 gameId listed⟩

theorem told_drawIds {session : Session} {earlier : List String} (count : Nat) (makes : Makes session earlier known) :
    Follows (acquaintance visitor) (Told fun gameIds => Makes session (earlier ++ gameIds)) known (drawIds count) := by
  induction count generalizing earlier known with
  | zero =>
    intro gameIds same
    cases same
    exact (List.append_nil earlier).symm ▸ makes
  | succ count ih =>
    have first : Follows (acquaintance visitor) (Told fun gameId => Makes session (earlier ++ [gameId])) known
        Request.randomUUID := by
      refine Follows.call (by simp [acquaintance, Known.permits, makes.1]) fun answer _ gameId same => ?_
      subst same
      refine ⟨makes.1, List.forall_mem_append.mpr ⟨fun old listed => List.mem_cons_of_mem _ (makes.2 old listed), ?_⟩⟩
      exact List.forall_mem_singleton.mpr List.mem_cons_self
    apply told_chain first
    intro gameId after made
    apply told_map (ih made)
    intro gameIds after made
    simpa using made

theorem follows_createGameAttacks {session : Session} {gameIds : List String} {row : GameRow} {schedule : List RoundData}
    (sources : row.gameData.gameId ∈ gameIds) (own : row.sessionId = session.sessionId)
    (users : [attackUser row 0, attackUser row 1].Perm (participants session)) (makes : Makes session gameIds known) :
    Follows (acquaintance visitor) (fun known _ => Makes session gameIds known) known
      (createGameAttacks host schedule row) := by
  refine Follows.map (Follows.parallel (fun request member known makes => ?_) makes) fun _ _ makes => makes
  obtain ⟨⟨attackSolution, roundIndex⟩, _, rfl⟩ := List.mem_map.mp member
  refine Follows.call ⟨session, ⟨makes.1, makes.2 _ sources⟩, own, users⟩ fun answer _ => ?_
  exact makes.same (by cases answer <;> exact ⟨rfl, rfl⟩)

theorem follows_createGame {session : Session} {gameIds : List String} {gameId blue red : String} {gameOrder : Nat}
    {schedule : List RoundData} {isCurrent : Bool} (drawn : gameId ∈ gameIds)
    (pair : [blue, red].Perm (participants session)) (makes : Makes session gameIds known) :
    Follows (acquaintance visitor) (fun known _ => Makes session gameIds known) known
      (createGame host gameId blue red session.sessionId gameOrder schedule isCurrent) := by
  have rounds : Follows (acquaintance visitor) (fun known _ => Makes session gameIds known) known
      (ofExcept ((schedule.mapM createRound).mapError Failure.error) : Request (List Round)) := by
    cases (schedule.mapM createRound).mapError Failure.error <;> exact makes
  apply rounds.chain
  · intro known rounds makes
    have inserted : Follows (acquaintance visitor) (fun known _ => Makes session gameIds known) known
        (Request.insertGame (newGameRow gameId blue red session.sessionId gameOrder rounds isCurrent)) := by
      refine Follows.call ⟨session, ⟨makes.1, makes.2 gameId drawn⟩, rfl, rfl, pair⟩ fun answer _ => ?_
      exact makes.same (by cases answer <;> exact ⟨rfl, rfl⟩)
    apply inserted.chain
    · exact fun known _ makes => follows_createGameAttacks host drawn rfl pair makes
    · exact fun _ _ makes => makes
  · exact fun _ _ makes => makes

/-- The players of every game of a session are its participants. -/
theorem sessionPlan_pair {session : Session} {game : GamePlan} (planned : game ∈ sessionPlan session) :
    [game.blue, game.red].Perm (participants session) := by
  simp only [sessionPlan, List.mem_cons, List.not_mem_nil, or_false] at planned
  rcases planned with rfl | rfl | rfl | rfl
  · exact List.Perm.refl _
  · exact List.Perm.swap _ _ _
  · exact List.Perm.refl _
  · exact List.Perm.swap _ _ _

theorem follows_createSessionGames {session : Session} (acts : known.session = some session) :
    Follows (acquaintance visitor) (fun _ _ => True) known (createSessionGames host session) := by
  have games : Follows (acquaintance visitor) (fun _ _ => True) known
      ((drawIds (sessionPlan session).length).chain fun gameIds =>
        (parallel (createGames host session.sessionId (sessionPlan session) gameIds)).map fun _ => session) := by
    have ids := @told_drawIds visitor known session [] (sessionPlan session).length ⟨acts, nofun⟩
    refine ids.chain (fun after gameIds told => ?_) fun _ _ _ => trivial
    have all : Follows (acquaintance visitor) (fun known _ => Makes session gameIds known) after
        (parallel (createGames host session.sessionId (sessionPlan session) gameIds)) := by
      refine Follows.parallel (fun request member known makes => ?_) (told gameIds rfl)
      obtain ⟨⟨⟨game, gameId⟩, gameOrder⟩, listed, rfl⟩ := List.mem_map.mp member
      have zipped := List.of_mem_zip (List.fst_mem_of_mem_zipIdx listed)
      exact follows_createGame host zipped.2 (sessionPlan_pair zipped.1) makes
    exact all.map fun _ _ _ => trivial
  exact games.mapRej fun _ _ _ => trivial

theorem follows_rollback (error : Failure) : Follows (acquaintance visitor) (fun _ _ => True) known (rollback error) := by
  cases error with
  | sessionError session message =>
    have removed : Follows (acquaintance visitor) (fun _ _ => True) known (removeSession session.sessionId) :=
      (told_plainly (plainly_removeSession session.sessionId)).weaken fun _ _ _ => trivial
    exact removed.chain (fun _ _ _ => trivial) fun _ _ _ => trivial
  | error message => trivial
  | createMurmurError message => trivial

theorem follows_createSession (params : CreateSessionParams) (begins : known.session = none) :
    Follows (acquaintance visitor) (fun _ _ => True) known (createSession host params) := by
  have created : Follows (acquaintance visitor) (fun _ _ => True) known
      ((insertSession params).chain fun session =>
        (createSessionMurmur host session).chain fun session => (createSessionGames host session).chain initSession) := by
    have inserted : Follows (acquaintance visitor) (Told fun session after => after.session = some session) known
        (insertSession params) := by
      have called : Follows (acquaintance visitor)
          (Told fun sessionId after => after.session = some { params with sessionId }) known (Request.insertSession params) := by
        refine Follows.call begins fun answer _ sessionId same => ?_
        subst same
        rfl
      exact told_map called fun _ _ acts => acts
    refine inserted.chain (fun after session told => ?_) fun _ _ _ => trivial
    have acts : after.session = some session := told session rfl
    have murmured : Follows (acquaintance visitor)
        (Told fun value after => value = session ∧ after.session = some session) after (createSessionMurmur host session) :=
      told_mapRej (told_map (told_same (plainly_createMurmur host _ _ _)) fun _ _ same => ⟨rfl, same.1.trans acts⟩)
    refine murmured.chain (fun after value told => ?_) fun _ _ _ => trivial
    obtain ⟨rfl, acts⟩ := told value rfl
    exact (follows_createSessionGames host acts).chain (fun _ _ _ => follows_initSession _) fun _ _ _ => trivial
  exact created.chainRej (fun _ _ _ => trivial) fun _ error _ => follows_rollback error

/-! Sockets. -/

theorem follows_onConnect {socket : Nat} {playerId : String} (behind : visitor = some (socket, playerId)) :
    Follows (acquaintance visitor) (fun _ _ => True) known (onConnect socket playerId) := by
  have found : Follows (acquaintance visitor)
      (Told fun session after => session ∈ after.sessions ∧ playerId ∈ participants session) known (getPlayerSession playerId) := by
    apply told_chain told_selectSessions
    rintro sessions _ rfl
    split
    next => exact fun _ => nofun
    next session here =>
      intro value same
      cases same
      refine ⟨List.mem_of_find?_eq_some here, ?_⟩
      have either := List.find?_some here
      simp only [decide_eq_true_eq] at either
      simpa [participants, eq_comm] using either
  refine found.chain (fun after session told => ?_) fun _ _ _ => trivial
  obtain ⟨listed, takes⟩ := told session rfl
  have current : Follows (acquaintance visitor) (Told fun game after => session ∈ after.sessions ∧
      ∃ row ∈ after.rows, row.gameId = game.gameId ∧ row.sessionId = session.sessionId) after
      (getCurrentGame session.sessionId) := by
    apply told_chain (told_getSessionGames session.sessionId)
    rintro rows _ ⟨rfl, own⟩
    split
    next => exact fun _ => nofun
    next row here =>
      have member := List.mem_of_find?_eq_some here
      have games : Follows (acquaintance visitor)
          (Told fun games known => known = { after with rows } ∧ games.map (·.gameId) = [row.gameId]) { after with rows }
          (Request.getGames [row.gameId]) := by
        refine Follows.call trivial fun answer expected games same => ?_
        subst same
        exact ⟨rfl, expected⟩
      apply told_chain games
      rintro games _ ⟨rfl, ids⟩
      cases games with
      | nil => cases ids
      | cons game games =>
        intro value same
        cases same
        exact ⟨listed, row, member, (List.cons.inj ids).1.symm, own row member⟩
  refine current.chain (fun after game told => ?_) fun _ _ _ => trivial
  obtain ⟨listed, row, member, same, own⟩ := told game rfl
  exact Follows.call ⟨playerId, behind, row, member, same, session, listed, own.symm, takes⟩ fun _ _ => trivial

/-! Whatever is asked of the server. -/

def visitorOf : Asked → Option (Nat × String)
  | .connect socket playerId => some (socket, playerId)
  | _ => none

theorem follows_asked (asked : Asked) :
    Follows (acquaintance (visitorOf asked)) (fun _ _ => True) {} (asked.request host) := by
  cases asked with
  | create params => exact (follows_createSession host params rfl).map fun _ _ _ => trivial
  | remove sessionId =>
    have removed : Follows (acquaintance none) (fun _ _ => True) {} (removeSession sessionId) :=
      (told_plainly (plainly_removeSession sessionId)).weaken fun _ _ _ => trivial
    exact removed.map fun _ _ _ => trivial
  | connect socket playerId => exact (follows_onConnect rfl).map fun _ _ _ => trivial

end

end DfStudy.Acquaintance
