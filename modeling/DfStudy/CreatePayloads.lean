import DfStudy.AnswerPayloads
import DfStudy.SessionPaths
import DfStudy.Support.Traces

/-! 'create_session' as it comes in from a socket. The parameters are any value JSON can hold: the validator looks for
entries that are undefined, and what it lets through flows on into statements, templates and method calls. -/

namespace DfStudy.CreatePayloads
open Js Rounds Servers Schedules Support.Futures Support.PosixPath Future AnswerPayloads
open Sessions (recDirRoot audioPath attackRounds drawIds getSessionGames scheduleAttack getMurmurBySessionId initMurmur)

/-- The parameters, as the code reads them. -/
structure Params where
  blueParticipant : Value
  redParticipant : Value
  grpcPort : Value
  murmurPort : Value

structure Session extends Params where
  sessionId : Nat

structure Murmur where
  murmurId : String
  sessionId : Nat
  grpcPort : Value
  murmurPort : Value
  recDir : String

/-- The players are what the JSON of the new game has there. -/
structure GameRow where
  gameId : String
  sessionId : Nat
  players : List Value
  rounds : List Round
  isCurrent : Bool
  gameOrder : Nat

structure NewAttack where
  sessionId : Nat
  gameId : String
  round : Nat
  sourceUser : String
  targetUser : Value
  audioPath : String

inductive Failure where
  | error (message : String)
  | createMurmurError (message : String)
  | sessionError (session : Session) (message : String)

def Failure.message : Failure → String
  | .error message => message
  | .createMurmurError message => message
  | .sessionError _ message => message

/-- What the handler does. An exception is the last of it: a future that crashes tells nothing to what is above it. -/
inductive Call where
  | server (op : Op)
  | insertSession (params : Params)
  | insertMurmur (murmur : Murmur)
  | createContainer (murmur : Murmur)
  | insertGame (row : GameRow)
  | insertAttack (attack : NewAttack)
  | cb (answer : Except Failure Session)
  | throws (message : String)

@[reducible] def Res : Call → Type
  | .server op => Servers.Res op
  | .insertSession _ => Nat
  | .insertAttack _ => Nat
  | .throws _ => Empty
  | _ => Unit

abbrev Flow (α : Type) := Future Call Res Failure α

/-- `INVALID_PATH_REGEX` of node's http has no match in a path of such characters. -/
def requestable (c : Char) : Bool := 0x21 ≤ c.toNat && c.toNat ≤ 0xff

/-- What the server runs on. The binding of sqlite3 takes every string and every number. -/
structure Platform where
  host : Host
  /-- What `run` throws, if it does, when it is to bind a value. -/
  bindError : Value → Option String
  bind_string : ∀ text, bindError (.string text) = none
  bind_number : ∀ value, bindError (.number value) = none
  printed : ∀ value, (host.numberToString value).toList.all requestable

/-! What JavaScript makes of a value. -/

/-- `Object.entries`. The key of an item is its index. -/
def entries : Value → Except String (List (String × Value))
  | .undefined => .error "Cannot convert undefined or null to object"
  | .null => .error "Cannot convert undefined or null to object"
  | .object fields => .ok fields
  | .array items => .ok (items.zipIdx.map fun (item, index) => (toString index, item))
  | .string text => .ok (text.toList.zipIdx.map fun (c, index) => (toString index, .string c.toString))
  | .bool _ => .ok []
  | .number _ => .ok []

section
variable (platform : Platform)

def numberToString : Number → String
  | .finite value => platform.host.numberToString value
  | .infinity negative => if negative then "-Infinity" else "Infinity"
  | .nan => "NaN"

/-- `value.toString()`. -/
def toStringError : Value → Option String
  | .undefined => some "Cannot read properties of undefined (reading 'toString')"
  | .null => some "Cannot read properties of null (reading 'toString')"
  | value =>
    match toPropertyKey (numberToString platform) value with
    | .ok _ => none
    | .error message => some message

/-- `stringifyArgs`, of one argument. -/
def logError : Value → Option String
  | .undefined => none
  | .null => none
  | value => toStringError platform value

def pathError (murmurId : String) : Option String :=
  if murmurId.toList.all requestable then none else some "Request path contains unescaped characters"

/-- The exception an operation throws. -/
def thrownBy : Call → Option String
  | .throws message => some message
  | .insertSession params =>
    [params.blueParticipant, params.redParticipant, params.murmurPort, params.grpcPort].findSome? platform.bindError
  | .insertMurmur murmur => [murmur.grpcPort, murmur.murmurPort].findSome? platform.bindError
  | .createContainer murmur =>
    ([murmur.murmurPort, murmur.grpcPort].findSome? (toStringError platform)).or (pathError murmur.murmurId)
  | .insertAttack attack => platform.bindError attack.targetUser
  | _ => none

def halts (call : Call) : Bool := (thrownBy platform call).isSome

/-! Futures. -/

def thrown {α : Type} (message : String) : Flow α :=
  (Future.call (Call.throws message)).chain fun nothing : Empty => nothing.elim

def guarded {α : Type} : Except String α → Flow α
  | .ok value => .resolve value
  | .error message => thrown message

/-- `log` of some values. -/
def logged (values : List Value) : Flow Unit :=
  match values.findSome? (logError platform) with
  | none => .resolve ()
  | some message => thrown message

/-- A request of the server that the parameters do not flow into. -/
def lift {α : Type} : Request α → Flow α
  | .resolve value => .resolve value
  | .reject error => .reject (.error error.message)
  | .step op next => .step (.server op) fun answer => lift (next (answer.mapError fun error => .error error.message))

def sessionError (session : Session) (error : Failure) : Failure := .sessionError session error.message

/-! Creating a session, as `Sessions` has it. -/

def insertSession (params : Params) : Flow Session :=
  (Future.call (Call.insertSession params)).map fun sessionId : Nat => { params with sessionId }

def resolveMurmur (session : Session) : Except String Murmur := do
  let grpcPort ← toPropertyKey (numberToString platform) session.grpcPort
  let murmurPort ← toPropertyKey (numberToString platform) session.murmurPort
  let murmurId := "g" ++ grpcPort ++ "_m" ++ murmurPort
  return {
    murmurId
    sessionId := session.sessionId
    grpcPort := session.grpcPort
    murmurPort := session.murmurPort
    recDir := resolve platform.host.cwd [recDirRoot platform.host, murmurId] }

def createMurmur (session : Session) : Flow Unit :=
  (guarded (resolveMurmur platform session)).chain fun murmur =>
    ((Future.call (Call.insertMurmur murmur)).chain fun _ =>
      (Future.call (Call.server (.mkdirSync murmur.recDir))).chain fun _ =>
        Future.call (Call.createContainer murmur)).mapRej fun error => .createMurmurError error.message

def createSessionMurmur (session : Session) : Flow Session :=
  ((createMurmur platform session).map fun _ => session).mapRej (sessionError session)

/-- Only a string is made a player. Anything else is taken for one. -/
def createPlayer : Value → Value
  | .string name => .object [("playerId", .string name), ("ready", .bool false)]
  | data => data

def playerId : Value → Except String Value
  | .undefined => .error "Cannot read properties of undefined (reading 'playerId')"
  | .null => .error "Cannot read properties of null (reading 'playerId')"
  | player => .ok (get player "playerId")

def createAttack (gameRow : GameRow) (attackSolution : ℚ) (roundIndex : Nat) : Flow Nat :=
  (guarded (gameRow.players.mapM playerId)).chain fun users =>
    match users.getD 0 .undefined with
    | .string sourceUser => Future.call (Call.insertAttack {
        gameId := gameRow.gameId
        sessionId := gameRow.sessionId
        audioPath := audioPath platform.host sourceUser attackSolution
        targetUser := users.getD 1 .undefined
        sourceUser
        round := roundIndex })
    | _ => thrown "The \"paths[1]\" argument must be of type string."

/-- The attacks are made while the array of futures is being built. They all have the same source user, so that
the first of them is the one that throws. -/
def createGameAttacks (schedule : List RoundData) (gameRow : GameRow) : Flow Unit :=
  (parallel ((attackRounds schedule).map fun (attackSolution, roundIndex) =>
    createAttack platform gameRow attackSolution roundIndex)).map fun _ => ()

/-- One game of a session that is to be created. -/
structure GamePlan where
  blue : Value
  red : Value
  schedule : List RoundData
  isCurrent : Bool

def sessionPlan (session : Session) : List GamePlan :=
  let blue := session.blueParticipant
  let red := session.redParticipant
  [{ blue := blue, red := red, schedule := tutorialSchedules.getD 0 [], isCurrent := true },
    { blue := red, red := blue, schedule := tutorialSchedules.getD 1 [], isCurrent := false },
    { blue := blue, red := red, schedule := gameSchedules.getD 0 [], isCurrent := false },
    { blue := red, red := blue, schedule := gameSchedules.getD 1 [], isCurrent := false }]

/-- `createGame`, after it has logged the names and drawn the id of the game. -/
def createGame (sessionId : Nat) (game : GamePlan) (gameId : String) (gameOrder : Nat) : Flow Unit :=
  (ofExcept ((game.schedule.mapM createRound).mapError Failure.error)).chain fun rounds =>
    let gameRow : GameRow := {
      gameId
      sessionId
      players := jsonItems ([game.blue, game.red].map createPlayer)
      rounds
      isCurrent := game.isCurrent
      gameOrder }
    (Future.call (Call.insertGame gameRow)).chain fun _ => createGameAttacks platform game.schedule gameRow

def createGames (session : Session) (gameIds : List String) : List (Flow Unit) :=
  ((sessionPlan session).zip gameIds).zipIdx.map fun ((game, gameId), gameOrder) =>
    createGame platform session.sessionId game gameId gameOrder

def createSessionGames (session : Session) : Flow Session :=
  (((logged platform [session.blueParticipant, session.redParticipant]).chain fun _ =>
    (lift (drawIds (sessionPlan session).length)).chain fun gameIds =>
      parallel (createGames platform session gameIds)).map fun _ => session).mapRej (sessionError session)

def doGames (sessionId : Nat) : Request Unit :=
  (getSessionGames sessionId).chain fun gameRows =>
    (Request.initGameRows gameRows).chain fun games => Request.chainGames sessionId games

def doAttacks (sessionId : Nat) : Request (List Attacks.Attack) :=
  Request.selectAttacks.chain fun attacks =>
    parallel ((attacks.filter (·.sessionId = sessionId)).map scheduleAttack)

def doMurmur (sessionId : Nat) : Request Tables.Murmur := (getMurmurBySessionId sessionId).chain initMurmur

def initSession (session : Session) : Flow Session :=
  ((lift ((doGames session.sessionId).chain fun _ => (doAttacks session.sessionId).chain fun _ =>
    doMurmur session.sessionId)).mapRej (sessionError session)).map fun _ => session

def rollback : Failure → Flow Session
  | .sessionError session message =>
    (lift (Sessions.removeSession session.sessionId)).chain fun _ => .reject (.sessionError session message)
  | error => .reject error

def createSession (params : Params) : Flow Session :=
  ((insertSession params).chain fun session =>
    (createSessionMurmur platform session).chain fun session =>
      (createSessionGames platform session).chain initSession).chainRej rollback

/-! The handler. -/

def validateCheckUndefined (entries : List (String × Value)) : List String :=
  (entries.filter fun entry => entry.2.isUndefined).map fun entry => entry.1 ++ " undefined"

def joinErrors (errors : List String) : String := String.intercalate "\n" errors

/-- It throws, or it returns a `Left` or a `Right`. -/
def validateCreateSessionParams (params : Value) : Except String (Except String Value) :=
  (entries params).map fun entries =>
    let errors := validateCheckUndefined entries
    if errors.length > 0 then .error (joinErrors errors) else .ok params

def paramsOf (payload : Value) : Params where
  blueParticipant := get payload "blueParticipant"
  redParticipant := get payload "redParticipant"
  grpcPort := get payload "grpcPort"
  murmurPort := get payload "murmurPort"

/-- `socket.on("create_session", ...)`. Every failure is an instance of `Error`. -/
def create_session (payload : Value) : Flow Unit :=
  (guarded (validateCreateSessionParams payload)).chain fun checked =>
    ((ofExcept (checked.mapError Failure.error)).chain fun params =>
      (logged platform [get params "blueParticipant", get params "redParticipant"]).chain fun _ =>
        createSession platform (paramsOf params)).fork
      (fun error => Future.call (Call.cb (.error error))) fun session => Future.call (Call.cb (.ok session))

end

/-! What is asked of the handler. -/

def Call.answer : Call → Option (Except Failure Session)
  | .cb answer => some answer
  | _ => none

def isDefined : Value → Bool
  | .undefined => false
  | .null => false
  | _ => true

/-- The names and ports it is given are there. -/
def Call.Defined : Call → Prop
  | .insertSession params =>
    ∀ value ∈ [params.blueParticipant, params.redParticipant, params.murmurPort, params.grpcPort], isDefined value
  | .insertMurmur murmur => ∀ value ∈ [murmur.murmurPort, murmur.grpcPort], isDefined value
  | .createContainer murmur => ∀ value ∈ [murmur.murmurPort, murmur.grpcPort], isDefined value
  | _ => True

/-- The types of `CreateSessionParams`. -/
structure Params.Typed (params : Params) : Prop where
  blueParticipant : ∃ name, params.blueParticipant = .string name
  redParticipant : ∃ name, params.redParticipant = .string name
  grpcPort : ∃ port, params.grpcPort = .number port
  murmurPort : ∃ port, params.murmurPort = .number port

/-- What answers the operations of the handler, each by all that has come before it. -/
abbrev World := List Call → (call : Call) → Except Failure (Res call)

/-- All the handler does with a payload. -/
def handling (platform : Platform) (world : World) (payload : Value) : List Call :=
  trace (halts platform) world (create_session platform payload) []

structure Handled (platform : Platform) (payload : Value) : Prop where
  quiet : ∀ world, ∀ call ∈ handling platform world payload, thrownBy platform call = none
  called : ∀ world, ∃ answer, (handling platform world payload).filterMap Call.answer = [answer]
  accepted : ∀ params, validateCreateSessionParams payload = .ok (.ok params) → (paramsOf params).Typed
  reached : ∀ world, ∀ call ∈ handling platform world payload, call.Defined

/-! Operations that throw nothing, know their names and ports, and leave the callback alone. -/

section
variable {platform : Platform}

structure Plain (platform : Platform) (call : Call) : Prop where
  quiet : thrownBy platform call = none
  defined : call.Defined
  silent : call.answer = none

abbrev Plainly (platform : Platform) {α : Type} (flow : Flow α) : Prop := Within (Plain platform) flow

theorem plainly_lift {α : Type} (request : Request α) : Plainly platform (lift request) := by
  induction request with
  | resolve value => trivial
  | reject error => trivial
  | step op next ih => exact ⟨⟨rfl, trivial, rfl⟩, fun answer => ih _⟩

theorem plainly_mkdirSync (recDir : String) :
    Plainly platform (Future.call (Call.server (.mkdirSync recDir))) :=
  Within.call ⟨rfl, trivial, rfl⟩

theorem plainly_logged {blue red : String} : Plainly platform (logged platform [.string blue, .string red]) := trivial

theorem number_requestable (value : Number) : (numberToString platform value).toList.all requestable := by
  cases value with
  | finite value => exact platform.printed value
  | infinity negative => cases negative <;> simp [numberToString, requestable]
  | nan => simp [numberToString, requestable]

/-- Ports that are numbers make a path docker can be asked for. -/
theorem path_requestable (grpcPort murmurPort : Number) : pathError
    ("g" ++ numberToString platform grpcPort ++ "_m" ++ numberToString platform murmurPort) = none := by
  unfold pathError
  have letters : "g".toList.all requestable ∧ "_m".toList.all requestable := by decide
  have all : ("g" ++ numberToString platform grpcPort ++ "_m" ++ numberToString platform murmurPort).toList.all
      requestable := by
    simp only [String.toList_append, List.all_append, number_requestable, letters, Bool.and_self]
  rw [if_pos all]

theorem plainly_createMurmur {session : Session} (typed : session.toParams.Typed) :
    Plainly platform (createMurmur platform session) := by
  obtain ⟨grpcPort, grpc⟩ := typed.grpcPort
  obtain ⟨murmurPort, murmur⟩ := typed.murmurPort
  obtain ⟨resolved, found, murmurId, grpcSame, murmurSame⟩ : ∃ resolved, resolveMurmur platform session = .ok resolved ∧
      pathError resolved.murmurId = none ∧ resolved.grpcPort = .number grpcPort ∧
        resolved.murmurPort = .number murmurPort := by
    unfold resolveMurmur
    rw [grpc, murmur]
    exact ⟨_, rfl, path_requestable grpcPort murmurPort, rfl, rfl⟩
  have defined : ∀ value ∈ [resolved.murmurPort, resolved.grpcPort], isDefined value := by
    simp [grpcSame, murmurSame, isDefined]
  unfold createMurmur
  rw [found]
  apply Within.mapRej
  apply Within.chain
  · refine Within.call ⟨?_, defined, rfl⟩
    simp [thrownBy, grpcSame, murmurSame, platform.bind_number]
  intro _
  apply (plainly_mkdirSync _).chain
  intro _
  refine Within.call ⟨?_, defined, rfl⟩
  simp [thrownBy, grpcSame, murmurSame, murmurId, toStringError, toPropertyKey]

theorem plainly_createSessionMurmur {session : Session} (typed : session.toParams.Typed) :
    Plainly platform (createSessionMurmur platform session) :=
  Within.mapRej _ (Within.map _ (plainly_createMurmur typed))

/-- A player with a name is the source or the target of an attack by that name. -/
theorem players_named (blue red : String) :
    (jsonItems ([Value.string blue, .string red].map createPlayer)).mapM playerId =
      .ok [.string blue, .string red] := by
  simp [createPlayer, jsonItems, jsonFields, Value.json, playerId, AnswerPayloads.get]
  rfl

theorem plainly_createGameAttacks (schedule : List RoundData) {gameRow : GameRow} {blue red : String}
    (players : gameRow.players.mapM playerId = .ok [.string blue, .string red]) :
    Plainly platform (createGameAttacks platform schedule gameRow) := by
  apply Within.map
  apply Within.parallel
  intro attack member
  obtain ⟨round, _, made⟩ := List.mem_map.mp member
  rw [← made]
  unfold createAttack
  rw [players]
  refine Within.call ⟨?_, trivial, rfl⟩
  exact platform.bind_string red

theorem plainly_createGame (sessionId : Nat) {game : GamePlan} (blue : ∃ name, game.blue = .string name)
    (red : ∃ name, game.red = .string name) (gameId : String) (gameOrder : Nat) :
    Plainly platform (createGame platform sessionId game gameId gameOrder) := by
  obtain ⟨blue, blueSame⟩ := blue
  obtain ⟨red, redSame⟩ := red
  apply (Within.ofExcept _).chain
  intro rounds
  apply Within.chain (Within.call ⟨rfl, trivial, rfl⟩)
  intro _
  apply plainly_createGameAttacks
  rw [blueSame, redSame]
  exact players_named blue red

theorem plainly_createSessionGames {session : Session} (typed : session.toParams.Typed) :
    Plainly platform (createSessionGames platform session) := by
  obtain ⟨blue, blueSame⟩ := typed.blueParticipant
  obtain ⟨red, redSame⟩ := typed.redParticipant
  have named : ∀ game ∈ sessionPlan session, (∃ name, game.blue = .string name) ∧ ∃ name, game.red = .string name := by
    simp [sessionPlan, blueSame, redSame]
  apply Within.mapRej
  apply Within.map
  apply Within.chain
  · rw [blueSame, redSame]
    exact plainly_logged
  intro _
  apply (plainly_lift _).chain
  intro gameIds
  apply Within.parallel
  intro flow member
  obtain ⟨entry, planned, made⟩ := List.mem_map.mp member
  have pair := List.fst_mem_of_mem_zipIdx planned
  have game := named entry.1.1 (List.of_mem_zip pair).1
  rw [← made]
  exact plainly_createGame _ game.1 game.2 _ _

theorem plainly_createSession {params : Params} (typed : params.Typed) :
    Plainly platform (createSession platform params) := by
  have inserted : Plain platform (.insertSession params) := by
    obtain ⟨blue, blueSame⟩ := typed.blueParticipant
    obtain ⟨red, redSame⟩ := typed.redParticipant
    obtain ⟨grpc, grpcSame⟩ := typed.grpcPort
    obtain ⟨murmur, murmurSame⟩ := typed.murmurPort
    refine ⟨?_, ?_, rfl⟩
    · simp [thrownBy, blueSame, redSame, grpcSame, murmurSame, platform.bind_string, platform.bind_number]
    · simp [Call.Defined, blueSame, redSame, grpcSame, murmurSame, isDefined]
  have same : Yields (·.toParams = params) (insertSession params) := by
    apply Yields.map
    intro sessionId
    rfl
  have kept : ∀ session, Yields (· = session) (createSessionMurmur platform session) := by
    intro session
    apply Yields.mapRej
    apply Yields.map
    intro murmur
    rfl
  apply Within.chainRej
  · apply Within.chain_yields (Within.map _ (Within.call inserted)) same
    intro session parameters
    have sessionTyped : session.toParams.Typed := by
      rw [parameters]
      exact typed
    apply (plainly_createSessionMurmur sessionTyped).chain_yields (kept session)
    intro after unchanged
    rw [unchanged]
    apply (plainly_createSessionGames sessionTyped).chain
    intro created
    exact Within.map _ (Within.mapRej _ (plainly_lift _))
  · intro error
    cases error with
    | error message => trivial
    | createMurmurError message => trivial
    | sessionError session message => exact (plainly_lift _).chain fun _ => trivial

theorem halts_of_plain {call : Call} (plain : Plain platform call) : halts platform call = false := by
  unfold halts
  rw [plain.quiet]
  rfl

/-! The handler. -/

/-- There is no undefined entry in what JSON can hold, so that the validator passes all of it but null. -/
theorem validate_json (payload : Json) (present : payload.value ≠ .null) :
    validateCreateSessionParams payload.value = .ok (.ok payload.value) := by
  obtain ⟨value, parsed⟩ := payload
  have passes : ∀ fields, entries value = .ok fields → (∀ field ∈ fields, field.2.isUndefined = false) →
      validateCreateSessionParams value = .ok (.ok value) := by
    intro fields listed defined
    have none : validateCheckUndefined fields = [] := by
      unfold validateCheckUndefined
      rw [List.map_eq_nil_iff, List.filter_eq_nil_iff]
      intro field member
      rw [defined field member]
      decide
    unfold validateCreateSessionParams
    rw [listed, Except.map, none]
    rfl
  have of_parsed : ∀ value : Value, value.Parsed → value.isUndefined = false := by
    intro value parsed
    cases value with
    | undefined => exact parsed.elim
    | _ => rfl
  cases value with
  | undefined => exact parsed.elim
  | null => exact absurd rfl present
  | bool value => exact passes [] rfl (by simp)
  | number value => exact passes [] rfl (by simp)
  | string text =>
    apply passes _ rfl
    intro field member
    obtain ⟨_, _, made⟩ := List.mem_map.mp member
    rw [← made]
    rfl
  | array items =>
    apply passes _ rfl
    intro field member
    obtain ⟨entry, listed, made⟩ := List.mem_map.mp member
    rw [← made]
    exact of_parsed _ (ParsedItems.mem parsed (List.fst_mem_of_mem_zipIdx listed))
  | object fields =>
    apply passes _ rfl
    intro field member
    exact of_parsed _ (ParsedFields.mem parsed.2 member)

/-- What the handler has forked, for a payload the validator has passed. -/
def pipeline (platform : Platform) (payload : Value) : Flow Session :=
  (logged platform [AnswerPayloads.get payload "blueParticipant", AnswerPayloads.get payload "redParticipant"]).chain
    fun _ => createSession platform (paramsOf payload)

theorem create_session_passed {payload : Value} (passed : validateCreateSessionParams payload = .ok (.ok payload)) :
    create_session platform payload = (pipeline platform payload).fork
      (fun error => Future.call (Call.cb (.error error))) fun session => Future.call (Call.cb (.ok session)) := by
  unfold create_session
  rw [passed]
  rfl

theorem plainly_pipeline {payload : Value} (typed : (paramsOf payload).Typed) :
    Plainly platform (pipeline platform payload) := by
  obtain ⟨blue, blueSame⟩ := typed.blueParticipant
  obtain ⟨red, redSame⟩ := typed.redParticipant
  have logs : Plainly platform (logged platform
      [AnswerPayloads.get payload "blueParticipant", AnswerPayloads.get payload "redParticipant"]) := by
    rw [show AnswerPayloads.get payload "blueParticipant" = .string blue from blueSame,
      show AnswerPayloads.get payload "redParticipant" = .string red from redSame]
    exact plainly_logged
  exact logs.chain fun _ => plainly_createSession typed

/-- The callback is called with what the pipeline has come to, after all else. -/
theorem handling_passed {payload : Value} (passed : validateCreateSessionParams payload = .ok (.ok payload))
    (plain : Plainly platform (pipeline platform payload)) (world : World) : ∃ answer,
    handling platform world payload =
      trace (halts platform) world (pipeline platform payload) [] ++ [Call.cb answer] := by
  have goes : Within (fun call => halts platform call = false) (pipeline platform payload) :=
    plain.mono fun call => halts_of_plain
  unfold handling
  rw [create_session_passed passed, trace_fork goes]
  split
  next session _ => exact ⟨.ok session, trace_call _ _⟩
  next error _ => exact ⟨.error error, trace_call _ _⟩

theorem handled_of_typed (payload : Json) (typed : (paramsOf payload.value).Typed) : Handled platform payload.value := by
  have present : payload.value ≠ .null := by
    obtain ⟨blue, same⟩ := typed.blueParticipant
    intro null
    rw [null] at same
    cases same
  have passed := validate_json payload present
  have plain : Plainly platform (pipeline platform payload.value) := plainly_pipeline typed
  have each : ∀ world, ∀ call ∈ handling platform world payload.value,
      thrownBy platform call = none ∧ call.Defined := by
    intro world call member
    obtain ⟨answer, all⟩ := handling_passed passed plain world
    rw [all, List.mem_append] at member
    rcases member with before | last
    · rcases mem_trace plain before with none | performed
      · cases none
      · exact ⟨performed.quiet, performed.defined⟩
    · rw [List.mem_singleton.mp last]
      exact ⟨rfl, trivial⟩
  refine ⟨fun world call member => (each world call member).1, fun world => ?_, fun params accepted => ?_,
    fun world call member => (each world call member).2⟩
  · obtain ⟨answer, all⟩ := handling_passed passed plain world
    have silent : (trace (halts platform) world (pipeline platform payload.value) []).filterMap Call.answer = [] := by
      rw [List.filterMap_eq_nil_iff]
      intro call member
      rcases mem_trace plain member with none | performed
      · cases none
      · exact performed.silent
    refine ⟨answer, ?_⟩
    rw [all, List.filterMap_append, silent]
    rfl
  · rw [passed] at accepted
    cases accepted
    exact typed

/-- The entries of null throw, before there is a future. -/
theorem present_of_handled {payload : Value} (handled : Handled platform payload) : payload ≠ .null := by
  intro null
  let world : World := fun _ _ => .error (.error "")
  have quiet := handled.quiet world (.throws "Cannot convert undefined or null to object")
  rw [null] at quiet
  have thrown := quiet List.mem_cons_self
  cases thrown

end

/-- A payload is handled exactly when it is of the type the handler declares: the validator refuses nothing. -/
theorem handled_iff (platform : Platform) (payload : Json) :
    Handled platform payload.value ↔ (paramsOf payload.value).Typed := by
  constructor
  · intro handled
    exact handled.accepted _ (validate_json payload (present_of_handled handled))
  · exact handled_of_typed payload

/-! A form that has been sent with its ports left empty. -/

theorem digit_requestable {c : Char} (digit : c.isDigit = true) : requestable c = true := by
  unfold Char.isDigit at digit
  simp only [Bool.and_eq_true, decide_eq_true_eq, ge_iff_le, UInt32.le_iff_toNat_le] at digit
  have low : 48 ≤ c.toNat := digit.1
  have high : c.toNat ≤ 57 := digit.2
  unfold requestable
  rw [Bool.and_eq_true, decide_eq_true_iff, decide_eq_true_iff]
  omega

theorem integer_requestable (value : ℚ) : (SessionPaths.integer value).toList.all requestable := by
  have digits : value.num.natAbs.repr.toList.all requestable := by
    rw [Nat.toList_repr, List.all_eq_true]
    intro c digit
    exact digit_requestable (Nat.isDigit_of_mem_toDigits (by decide) (by decide) digit)
  unfold SessionPaths.integer
  split
  next =>
    rw [String.toList_append, List.all_append, digits]
    decide
  next => exact digits

def plainPlatform : Platform where
  host := SessionPaths.plainHost
  bindError value :=
    match toPropertyKey (fun _ => "0") value with
    | .ok _ => none
    | .error message => some message
  bind_string _ := rfl
  bind_number _ := rfl
  printed := integer_requestable

def unfilled : Json where
  value := .object [("blueParticipant", .string "pete"), ("redParticipant", .string "mike")]
  parsed := by simp [Value.Parsed, ParsedFields]

/-- Nothing fails until the games are made. -/
def answering : World := fun _ call =>
  match call with
  | .insertSession _ => .ok (1 : Nat)
  | .insertMurmur _ => .ok ()
  | .server (.mkdirSync _) => .ok ()
  | _ => .error (.error "SQLITE_ERROR")

/-- The form passes the validator, a session without ports is inserted, its container throws, and the callback is
never called. -/
theorem ports_lost :
    validateCreateSessionParams unfilled.value = .ok (.ok unfilled.value) ∧
      (handling plainPlatform answering unfilled.value).filterMap (thrownBy plainPlatform) =
          ["Cannot read properties of undefined (reading 'toString')"] ∧
        (handling plainPlatform answering unfilled.value).filterMap Call.answer = [] ∧
          ¬Handled plainPlatform unfilled.value ∧ ¬Handled plainPlatform .null := by
  have untyped : ¬(paramsOf unfilled.value).Typed := fun typed => by
    obtain ⟨port, same⟩ := typed.grpcPort
    cases same
  refine ⟨rfl, rfl, rfl, fun handled => untyped ?_, fun handled => present_of_handled handled rfl⟩
  exact handled.accepted _ rfl

end DfStudy.CreatePayloads
