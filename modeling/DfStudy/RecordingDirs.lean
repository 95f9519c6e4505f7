import DfStudy.Presence
import DfStudy.Registry
import DfStudy.Support.Labels

/-! The directories that murmurs record into. `createRecDir` fails on a directory that exists, unless it is told to ignore
that, and `removeRecDir` on one that is not empty. Without the directories and that flag this is the server of `Lifetimes`. -/

namespace DfStudy.RecordingDirs
open Tables Servers Sessions Requests Processes Support.Futures Support.Labels Support.Machine Support.PosixPath Future
open Lifetimes (Life arrives crashed)

/-! Requests. The label of `mkdirSync` is `ignoreExists`. -/

abbrev Call := Op × Bool

abbrev FineRequest (α : Type) := Labelled Res Failure Bool α

/-- By default `ignoreExists` is false. -/
def plainly {α : Type} (request : Request α) : FineRequest α := label false request

section
variable (host : Host)

def initMurmur (murmur : Murmur) : FineRequest Murmur :=
  (call (Op.mkdirSync murmur.recDir, true) : FineRequest Unit).chain fun _ =>
    (plainly (Request.docker (.start murmur.murmurId))).map fun _ => murmur

def doMurmur (session : Session) : FineRequest Murmur :=
  (plainly (getMurmurBySessionId session.sessionId)).chain initMurmur

def initSession (session : Session) : FineRequest Session :=
  (((plainly (doGames session)).chain fun _ => (plainly (doAttacks session)).chain fun _ => doMurmur session).mapRej
    (sessionError session)).map fun _ => session

def createSession (params : CreateSessionParams) : FineRequest Session :=
  ((plainly (insertSession params)).chain fun session =>
    (plainly (createSessionMurmur host session)).chain fun session =>
      (plainly (createSessionGames host session)).chain initSession).chainRej fun error => plainly (rollback error)

def initSessions : FineRequest (List (Except Failure Session)) :=
  (plainly Request.selectSessions).chain fun sessions => parallel (sessions.map fun session => (initSession session).coalesce)

def request : Asked → FineRequest (Option Session)
  | .create params => (createSession host params).map some
  | asked => plainly (asked.request host)

end

/-! The server with its directories. -/

structure Worker where
  asked : Asked
  stage : Stage
  request : FineRequest (Option Session)

/-- The directories that exist, with the names of their files. -/
abbrev Dirs := String → Option (List String)

structure World where
  server : Server
  dirs : Dirs
  workers : List Worker := []
  boot : FineRequest (List (Except Failure Session))
  clock : Nat → Nat → Nat

inductive Fault where
  | none
  | failed
  /-- `chmodSync` fails on the directory that `mkdirSync` has made. -/
  | chmodFailed
  deriving DecidableEq

inductive Event where
  | restart (clock : Nat → Nat → Nat)
  | boot (fault : Fault)
  /-- One operation of a request. -/
  | advance (worker : Nat) (fault : Fault)
  /-- Any turn of the server but `advance`. -/
  | turn (turn : Turn)
  /-- A murmur writes to a file of its directory. -/
  | record (recDir name : String)

/-- Whether an operation fails, and the directories after it. -/
def outcome (dirs : Dirs) (call : Call) (fault : Fault) : Bool × Dirs :=
  match call with
  | (.mkdirSync recDir, ignoreExists) =>
    match dirs recDir, fault with
    | some _, _ => (!ignoreExists || fault ≠ .none, dirs)
    | none, .none => (false, Function.update dirs recDir (some []))
    | none, .failed => (true, dirs)
    | none, .chmodFailed => (true, Function.update dirs recDir (some []))
  | (.rmdirSync recDir, _) =>
    match dirs recDir, fault with
    | some [], .none => (false, Function.update dirs recDir none)
    | _, _ => (true, dirs)
  | _ => (fault ≠ .none, dirs)

def record (dirs : Dirs) (recDir name : String) : Dirs :=
  match dirs recDir with
  | none => dirs
  | some names => if name ∈ names then dirs else Function.update dirs recDir (some (names ++ [name]))

def World.listens (w : World) : Bool :=
  match w.boot with
  | .resolve _ => true
  | _ => false

def World.host (w : World) (host : Host) : Host := { host with clock := w.clock }

def arrive (host : Host) (w : World) (asked : Asked) : World :=
  { w with workers := w.workers ++ [{ asked, stage := asked.stage, request := request host asked }] }

def bootStep (host : Host) (w : World) (fault : Fault) : World :=
  match w.boot with
  | .step call next =>
    let result := outcome w.dirs call fault
    let answer := (perform (w.host host) result.1 call.1 w.server).1
    { w with
      server := (perform (w.host host) result.1 call.1 w.server).2
      dirs := result.2
      boot := next answer }
  | _ => w

def advance (host : Host) (w : World) (index : Nat) (fault : Fault) : World :=
  match w.workers[index]? with
  | some { asked, stage, request := .step call next } =>
    let result := outcome w.dirs call fault
    let answer := (perform (w.host host) result.1 call.1 w.server).1
    { w with
      server := (perform (w.host host) result.1 call.1 w.server).2
      dirs := result.2
      workers := w.workers.set index { asked, stage := stage.after call.1 answer, request := next answer } }
  | _ => w

def turnStep (host : Host) (w : World) (turn : Turn) : World :=
  if w.listens || !arrives turn then
    match turn with
    | .advance _ _ => w
    | .create params => arrive (w.host host) w (.create params)
    | .remove sessionId => arrive (w.host host) w (.remove sessionId)
    | .connect playerId =>
      arrive (w.host host) { w with server := play w.server turn } (.connect w.server.sockets.length playerId)
    | _ => { w with server := play w.server turn }
  else w

def step (host : Host) (w : World) : Event → World
  | .restart clock => { server := crashed w.server, dirs := w.dirs, boot := initSessions, clock }
  | .boot fault => bootStep host w fault
  | .advance worker fault => advance host w worker fault
  | .turn turn => turnStep host w turn
  | .record recDir name => { w with dirs := record w.dirs recDir name }

/-- The first life, with nothing but `recDirRoot`. -/
def begin (uuids : Nat → String) (clock : Nat → Nat → Nat) : World where
  server := { uuids }
  dirs _ := none
  boot := initSessions
  clock := clock

/-! Without directories. -/

def Worker.thread (worker : Worker) : Thread where
  asked := worker.asked
  stage := worker.stage
  request := unlabel worker.request

def World.life (w : World) : Life where
  process := { server := w.server, threads := w.workers.map Worker.thread }
  boot := unlabel w.boot
  clock := w.clock

@[simp] theorem unlabel_plainly {α : Type} (request : Request α) : unlabel (plainly request) = request :=
  unlabel_label false request

@[simp] theorem unlabel_initMurmur (murmur : Murmur) : unlabel (initMurmur murmur) = Sessions.initMurmur murmur := by
  simp [initMurmur, Sessions.initMurmur, Request.mkdirSync]

@[simp] theorem unlabel_doMurmur (session : Session) : unlabel (doMurmur session) = Sessions.doMurmur session := by
  have same : (fun murmur => unlabel (initMurmur murmur)) = Sessions.initMurmur := by
    funext murmur
    exact unlabel_initMurmur murmur
  rw [doMurmur, unlabel_chain, unlabel_plainly, same, Sessions.doMurmur]

@[simp] theorem unlabel_initSession (session : Session) : unlabel (initSession session) = Sessions.initSession session := by
  simp [initSession, Sessions.initSession]

theorem unlabel_initSessions : unlabel initSessions = Lifetimes.initSessions := by
  simp [initSessions, Lifetimes.initSessions, Function.comp_def]

theorem unlabel_createSession (host : Host) (params : CreateSessionParams) :
    unlabel (createSession host params) = Sessions.createSession host params := by
  simp [createSession, Sessions.createSession]

theorem unlabel_request (host : Host) (asked : Asked) : unlabel (request host asked) = asked.request host := by
  cases asked with
  | create params => simp [request, Asked.request, unlabel_createSession]
  | remove sessionId => exact unlabel_plainly _
  | connect socket playerId => exact unlabel_plainly _

theorem listens_life (w : World) : w.life.listens = w.listens := by
  unfold World.listens Life.listens World.life
  cases w.boot <;> rfl

theorem life_arrive (host : Host) (w : World) (asked : Asked) :
    (arrive host w asked).life = { w.life with process := Processes.arrive host w.life.process asked } := by
  simp [arrive, World.life, Processes.arrive, Worker.thread, unlabel_request]

/-- Without its directories, the world takes the steps of the server. -/
theorem life_step (host : Host) (w : World) (event : Event) :
    (step host w event).life = w.life ∨ ∃ plain, (step host w event).life = Lifetimes.step host w.life plain := by
  cases event with
  | restart clock =>
    refine .inr ⟨.restart clock, ?_⟩
    simp [step, World.life, Lifetimes.step, Lifetimes.launch, unlabel_initSessions]
  | record recDir name => exact .inl rfl
  | boot fault =>
    cases pending : w.boot with
    | step call next =>
      refine .inr ⟨.boot (outcome w.dirs call fault).1, ?_⟩
      change (bootStep host w fault).life = Lifetimes.bootStep host w.life (outcome w.dirs call fault).1
      unfold bootStep Lifetimes.bootStep World.life
      rw [pending]
      rfl
    | resolve value =>
      left
      change (bootStep host w fault).life = w.life
      unfold bootStep
      rw [pending]
    | reject error =>
      left
      change (bootStep host w fault).life = w.life
      unfold bootStep
      rw [pending]
  | advance index fault =>
    have moves : (advance host w index fault).life = w.life ∨ ∃ fails,
        (advance host w index fault).life =
          { w.life with process := Processes.advance (w.host host) w.life.process index fails } := by
      unfold advance
      split
      next asked stage call next found =>
        refine .inr ⟨(outcome w.dirs call fault).1, ?_⟩
        have there : (w.workers.map Worker.thread)[index]? =
            some { asked, stage, request := unlabel (.step call next) } := by
          rw [List.getElem?_map, found]
          rfl
        unfold Processes.advance World.life
        dsimp only
        rw [there]
        simp [unlabel, List.map_set, Worker.thread]
      next => exact .inl rfl
    rcases moves with same | ⟨fails, moved⟩
    · exact .inl same
    · refine .inr ⟨.turn (.advance index fails), ?_⟩
      change _ = Lifetimes.turnStep host w.life (.advance index fails)
      unfold Lifetimes.turnStep
      rw [if_pos (by simp [arrives])]
      exact moved
  | turn turn =>
    by_cases goes : (w.listens || !arrives turn) = true
    · have moves : (step host w (.turn turn)).life = w.life ∨
          (step host w (.turn turn)).life = { w.life with process := Processes.step (w.host host) w.life.process turn } := by
        change (turnStep host w turn).life = w.life ∨ (turnStep host w turn).life = _
        unfold turnStep
        rw [if_pos goes]
        cases turn with
        | advance index fails => exact .inl rfl
        | create params => exact .inr (life_arrive (w.host host) w (.create params))
        | remove sessionId => exact .inr (life_arrive (w.host host) w (.remove sessionId))
        | connect playerId => exact .inr (life_arrive (w.host host) _ (.connect w.server.sockets.length playerId))
        | _ => exact .inr rfl
      rcases moves with same | moved
      · exact .inl same
      · refine .inr ⟨.turn turn, ?_⟩
        change _ = Lifetimes.turnStep host w.life turn
        unfold Lifetimes.turnStep
        rw [listens_life, if_pos goes]
        exact moved
    · left
      change (turnStep host w turn).life = w.life
      unfold turnStep
      rw [if_neg goes]

/-- So whatever holds in all lives of the server holds with its directories. -/
theorem life_run (host : Host) (w : World) (events : List Event) :
    ∃ plain, (run (step host) w events).life = run (Lifetimes.step host) w.life plain := by
  induction events generalizing w with
  | nil => exact ⟨[], rfl⟩
  | cons event events ih =>
    obtain ⟨plain, same⟩ := ih (step host w event)
    rcases life_step host w event with still | ⟨first, moved⟩
    · exact ⟨plain, by rw [run_cons, same, still]⟩
    · exact ⟨first :: plain, by rw [run_cons, same, moved, run_cons]⟩

/-- The tables keep their keys, as they do without the directories. -/
theorem formed_run (host : Host) (uuids : Nat → String) (clock : Nat → Nat → Nat) (events : List Event) :
    Lifetimes.Formed (run (step host) (begin uuids clock) events).server := by
  obtain ⟨plain, same⟩ := life_run host (begin uuids clock) events
  have born : (begin uuids clock).life = Lifetimes.born uuids clock := by
    simp [begin, World.life, Lifetimes.born, Lifetimes.launch, unlabel_initSessions]
  have formed := Lifetimes.formed_reached host uuids clock plain
  unfold Lifetimes.reached at formed
  rw [← born, ← same] at formed
  exact formed

/-! Recordings are never lost, and their ports never used again. -/

/-- The directory of every session on these ports. -/
def recDirOf (host : Host) (grpcPort murmurPort : Nat) : String := (resolveMurmur host 0 grpcPort murmurPort).recDir

/-- A session is created only if `mkdirSync` has made its directory. -/
theorem createSession_requires (host : Host) (params : CreateSessionParams) :
    Requires (Op.mkdirSync (recDirOf host params.grpcPort params.murmurPort), false) (createSession host params) := by
  have murmur (session : Session) : Requires (Op.mkdirSync (recDirOf host session.grpcPort session.murmurPort))
      (createSessionMurmur host session) := by
    have made : Requires (Op.mkdirSync (recDirOf host session.grpcPort session.murmurPort))
        (Request.mkdirSync (recDirOf host session.grpcPort session.murmurPort)) := Requires.call
    have contained := made.chain fun _ =>
      (Request.docker (.create (resolveMurmur host session.sessionId session.grpcPort session.murmurPort))).map fun _ =>
        resolveMurmur host session.sessionId session.grpcPort session.murmurPort
    have inserted := Requires.chain_rest
      (Request.insertMurmur (resolveMurmur host session.sessionId session.grpcPort session.murmurPort)) fun _ => contained
    exact ((inserted.mapRej _).map _).mapRej _
  have created : Requires (Op.mkdirSync (recDirOf host params.grpcPort params.murmurPort), false)
      ((plainly (insertSession params)).chain fun session =>
        (plainly (createSessionMurmur host session)).chain fun session =>
          (plainly (createSessionGames host session)).chain initSession) := by
    refine .inr fun answer => ?_
    cases answer with
    | error error => trivial
    | ok sessionId => exact (requires_label false (murmur { params with sessionId })).chain _
  refine created.chainRej fun error => ?_
  cases error with
  | sessionError session message => exact requires_label false (Requires.chain_rest _ fun _ => trivial)
  | _ => trivial

section
variable (grpcPort murmurPort : Nat)

def Worker.creates (worker : Worker) : Bool :=
  match worker.asked with
  | .create params => params.grpcPort = grpcPort && params.murmurPort = murmurPort
  | _ => false

/-- The answer to a request for a session on these ports, if there is one already. -/
def Worker.granted (worker : Worker) : Option (Option Session) :=
  match worker.request with
  | .resolve session => if worker.creates grpcPort murmurPort then some session else none
  | _ => none

/-- The sessions that this life has created on these ports. -/
def World.granted (w : World) : List (Option Session) := w.workers.filterMap (Worker.granted grpcPort murmurPort)

end

/-- After the event someone has been granted a session on these ports who had not been before. -/
def Grants (host : Host) (grpcPort murmurPort : Nat) (w : World) (event : Event) : Prop :=
  ∃ (index : Nat) (worker : Worker), (step host w event).workers[index]? = some worker ∧
    (worker.granted grpcPort murmurPort).isSome ∧ w.workers[index]? ≠ some worker

/-- The directory keeps its files, and whoever still waits for a session on its ports needs to make it. -/
structure Burned (recDir : String) (grpcPort murmurPort : Nat) (names : List String) (w : World) : Prop where
  kept : ∃ more, w.dirs recDir = some (names ++ more)
  refused : ∀ worker ∈ w.workers, worker.creates grpcPort murmurPort →
    Settled worker.request ∨ Requires (Op.mkdirSync recDir, false) worker.request

/-- No operation takes a file away. -/
theorem outcome_kept {dirs : Dirs} {recDir : String} {names : List String} (there : dirs recDir = some names)
    (full : names ≠ []) (call : Call) (fault : Fault) : (outcome dirs call fault).2 recDir = some names := by
  have untouched (other : String) (entry : Option (List String)) (apart : dirs other ≠ some names) :
      Function.update dirs other entry recDir = some names := by
    have others : recDir ≠ other := by
      intro same
      exact apart (same ▸ there)
    rw [Function.update_of_ne others, there]
  unfold outcome
  split
  next other ignoreExists =>
    split
    next => exact there
    next absent => exact untouched other _ (by simp [absent])
    next => exact there
    next absent => exact untouched other _ (by simp [absent])
  next other ignored =>
    split
    next empty => exact untouched other _ (by simpa [empty] using Ne.symm full)
    next => exact there
  next => exact there

theorem outcome_exists {dirs : Dirs} {recDir : String} {names : List String} (there : dirs recDir = some names)
    (fault : Fault) : (outcome dirs (.mkdirSync recDir, false) fault).1 = true := by
  simp [outcome, there]

/-- Murmurs only add files. -/
theorem record_kept {dirs : Dirs} {recDir : String} {names : List String} (there : dirs recDir = some names)
    (other name : String) : ∃ more, record dirs other name recDir = some (names ++ more) := by
  have still : ∃ more, some names = some (names ++ more) := ⟨[], by simp⟩
  unfold record
  cases found : dirs other with
  | none =>
    dsimp only
    rwa [there]
  | some listed =>
    dsimp only
    by_cases same : recDir = other
    · subst same
      obtain rfl : names = listed := Option.some.inj (there.symm.trans found)
      split
      next => rwa [there]
      next => exact ⟨[name], by rw [Function.update_self]⟩
    · split
      next => rwa [there]
      next =>
        rw [Function.update_of_ne same, there]
        exact still

section
variable {host : Host} {grpcPort murmurPort : Nat} {names : List String}

theorem granted_unsettled {worker : Worker} (unsettled : ¬∃ session, worker.request = .resolve session) :
    worker.granted grpcPort murmurPort = none := by
  unfold Worker.granted
  split
  next session resolved => exact (unsettled ⟨session, resolved⟩).elim
  next => rfl

theorem granted_other {worker : Worker} (other : worker.creates grpcPort murmurPort = false) :
    worker.granted grpcPort murmurPort = none := by
  unfold Worker.granted
  split
  next => simp [other]
  next => rfl

theorem granted_requires {worker : Worker} {call : Call} (requires : Requires call worker.request) :
    worker.granted grpcPort murmurPort = none := by
  refine granted_unsettled fun resolved => ?_
  obtain ⟨session, same⟩ := resolved
  rw [same] at requires
  exact requires

/-- A request that has just arrived. -/
theorem arrived_requires (asked : Asked) (stage : Stage)
    (creates : Worker.creates grpcPort murmurPort { asked, stage, request := request host asked } = true) :
    Requires (Op.mkdirSync (recDirOf host grpcPort murmurPort), false) (request host asked) := by
  cases asked with
  | create params =>
    simp only [Worker.creates, Bool.and_eq_true, decide_eq_true_eq] at creates
    have requires := createSession_requires host params
    rw [creates.1, creates.2] at requires
    exact requires.map some
  | _ => cases creates

theorem burned_arrive {w : World} (burned : Burned (recDirOf host grpcPort murmurPort) grpcPort murmurPort names w)
    (asked : Asked) :
    Burned (recDirOf host grpcPort murmurPort) grpcPort murmurPort names (arrive host w asked) := by
  refine ⟨burned.kept, fun worker member creates => ?_⟩
  rcases List.mem_append.mp member with old | new
  · exact burned.refused worker old creates
  · obtain rfl := List.mem_singleton.mp new
    exact .inr (arrived_requires asked asked.stage creates)

theorem arrived_waits (asked : Asked) (stage : Stage) :
    Worker.granted grpcPort murmurPort { asked, stage, request := request host asked } = none := by
  cases creates : Worker.creates grpcPort murmurPort { asked, stage, request := request host asked } with
  | false => exact granted_other creates
  | true => exact granted_requires (arrived_requires asked stage creates)

theorem granted_arrive (w : World) (asked : Asked) :
    (arrive host w asked).granted grpcPort murmurPort = w.granted grpcPort murmurPort := by
  have waits : Worker.granted grpcPort murmurPort { asked, stage := asked.stage, request := request host asked } = none :=
    arrived_waits asked asked.stage
  simp [arrive, World.granted, waits]

theorem filterMap_set {α β : Type} {f : α → Option β} {items : List α} {index : Nat} {before after : α}
    (found : items[index]? = some before) (same : f after = f before) :
    (items.set index after).filterMap f = items.filterMap f := by
  induction items generalizing index with
  | nil => rfl
  | cons item items ih =>
    cases index with
    | zero =>
      obtain rfl : item = before := by simpa using found
      rw [List.set_cons_zero, List.filterMap_cons, List.filterMap_cons, same]
    | succ index =>
      rw [List.getElem?_cons_succ] at found
      rw [List.set_cons_succ, List.filterMap_cons, List.filterMap_cons, ih found]

/-- One operation of a worker, against a directory with files. -/
theorem requires_next {dirs : Dirs} {recDir : String} (there : dirs recDir = some names) {call : Call}
    {next : Except Failure (Res call.1) → FineRequest (Option Session)}
    (requires : Requires (Op.mkdirSync recDir, false) (.step call next : FineRequest (Option Session)))
    (fault : Fault) (s : Server) :
    Requires (Op.mkdirSync recDir, false) (next (perform host (outcome dirs call fault).1 call.1 s).1) := by
  rcases requires with ⟨rfl, failing⟩ | always
  · rw [outcome_exists there]
    exact failing _
  · exact always _

/-- Whoever has taken an operation still has no session. -/
theorem advanced_waits {w : World} {recDir : String} (burned : Burned recDir grpcPort murmurPort names w) {index : Nat}
    {asked : Asked} {stage later : Stage} {call : Call} {next : Except Failure (Res call.1) → FineRequest (Option Session)}
    (found : w.workers[index]? = some { asked, stage, request := .step call next }) (fault : Fault) (after : Worker)
    (taken : after = ⟨asked, later, next (perform (w.host host) (outcome w.dirs call fault).1 call.1 w.server).1⟩) :
    (after.creates grpcPort murmurPort → Requires (Op.mkdirSync recDir, false) after.request) ∧
      after.granted grpcPort murmurPort = none := by
  subst taken
  let before : Worker := { asked, stage, request := .step call next }
  have member : before ∈ w.workers := List.mem_of_getElem? found
  obtain ⟨more, there⟩ := burned.kept
  have requires (creates : before.creates grpcPort murmurPort = true) : Requires (Op.mkdirSync recDir, false)
      (next (perform (w.host host) (outcome w.dirs call fault).1 call.1 w.server).1) := by
    rcases burned.refused before member creates with settled | requires
    · exact settled.elim
    · exact requires_next there requires fault w.server
  refine ⟨requires, ?_⟩
  cases creates : before.creates grpcPort murmurPort with
  | false => exact granted_other creates
  | true => exact granted_requires (requires creates)

theorem burned_advance {w : World} {recDir : String} (burned : Burned recDir grpcPort murmurPort names w)
    (full : names ≠ []) (index : Nat) (fault : Fault) :
    Burned recDir grpcPort murmurPort names (advance host w index fault) ∧
      (advance host w index fault).granted grpcPort murmurPort = w.granted grpcPort murmurPort := by
  unfold advance
  split
  next asked stage call next found =>
    obtain ⟨more, there⟩ := burned.kept
    let before : Worker := { asked, stage, request := .step call next }
    let answer := (perform (w.host host) (outcome w.dirs call fault).1 call.1 w.server).1
    let after : Worker := { asked, stage := stage.after call.1 answer, request := next answer }
    obtain ⟨requires, waits⟩ := advanced_waits burned found fault after rfl
    constructor
    · refine ⟨⟨more, outcome_kept there (by simp [full]) call fault⟩, fun worker set creates => ?_⟩
      rcases List.mem_or_eq_of_mem_set set with old | rfl
      · exact burned.refused worker old creates
      · exact .inr (requires creates)
    · have waited : before.granted grpcPort murmurPort = none := by
        apply granted_unsettled
        simp [before]
      exact filterMap_set found (by rw [waits, waited])
  next => exact ⟨burned, rfl⟩

theorem burned_turn {w : World} (burned : Burned (recDirOf host grpcPort murmurPort) grpcPort murmurPort names w)
    (turn : Turn) :
    Burned (recDirOf host grpcPort murmurPort) grpcPort murmurPort names (turnStep host w turn) ∧
      (turnStep host w turn).granted grpcPort murmurPort = w.granted grpcPort murmurPort := by
  have served : Burned (recDirOf (w.host host) grpcPort murmurPort) grpcPort murmurPort names w := burned
  unfold turnStep
  split
  next =>
    cases turn with
    | advance index fails => exact ⟨burned, rfl⟩
    | create params =>
      exact ⟨burned_arrive served (.create params), granted_arrive w (.create params)⟩
    | remove sessionId =>
      exact ⟨burned_arrive served (.remove sessionId), granted_arrive w (.remove sessionId)⟩
    | connect playerId =>
      let joined : World := { w with server := play w.server (.connect playerId) }
      have same : Burned (recDirOf (w.host host) grpcPort murmurPort) grpcPort murmurPort names joined :=
        ⟨burned.kept, burned.refused⟩
      exact ⟨burned_arrive same (.connect w.server.sockets.length playerId),
        granted_arrive joined (.connect w.server.sockets.length playerId)⟩
    | _ => exact ⟨⟨burned.kept, burned.refused⟩, rfl⟩
  next => exact ⟨burned, rfl⟩

theorem burned_step {w : World} (burned : Burned (recDirOf host grpcPort murmurPort) grpcPort murmurPort names w)
    (full : names ≠ []) (event : Event) :
    Burned (recDirOf host grpcPort murmurPort) grpcPort murmurPort names (step host w event) ∧
      ((step host w event).granted grpcPort murmurPort = w.granted grpcPort murmurPort ∨
        (step host w event).granted grpcPort murmurPort = []) := by
  obtain ⟨more, there⟩ := burned.kept
  cases event with
  | restart clock => exact ⟨⟨burned.kept, by simp [step]⟩, .inr rfl⟩
  | boot fault =>
    change Burned _ _ _ _ (bootStep host w fault) ∧ ((bootStep host w fault).granted grpcPort murmurPort = _ ∨ _)
    unfold bootStep
    split
    next call next _ =>
      have kept := outcome_kept there (by simp [full]) call fault
      exact ⟨⟨⟨more, kept⟩, burned.refused⟩, .inl rfl⟩
    next => exact ⟨burned, .inl rfl⟩
  | advance index fault =>
    obtain ⟨after, same⟩ := burned_advance burned full index fault
    exact ⟨after, .inl same⟩
  | turn turn =>
    obtain ⟨after, same⟩ := burned_turn burned turn
    exact ⟨after, .inl same⟩
  | record recDir name =>
    obtain ⟨added, kept⟩ := record_kept there recDir name
    rw [List.append_assoc] at kept
    exact ⟨⟨⟨more ++ added, kept⟩, burned.refused⟩, .inl rfl⟩

theorem burned_run {w : World} (burned : Burned (recDirOf host grpcPort murmurPort) grpcPort murmurPort names w)
    (full : names ≠ []) (events : List Event) :
    Burned (recDirOf host grpcPort murmurPort) grpcPort murmurPort names (run (step host) w events) :=
  run_invariant (Burned (recDirOf host grpcPort murmurPort) grpcPort murmurPort names)
    (fun _ event burned => (burned_step burned full event).1) events burned

/-- A worker that has arrived has not been granted a session. -/
theorem arrive_before {w : World} {asked : Asked} {index : Nat} {worker : Worker}
    (later : (arrive host w asked).workers[index]? = some worker) (granted : (worker.granted grpcPort murmurPort).isSome) :
    w.workers[index]? = some worker := by
  change (w.workers ++ [_])[index]? = some worker at later
  rcases Nat.lt_or_ge index w.workers.length with old | new
  · rwa [List.getElem?_append_left old] at later
  · rw [List.getElem?_append_right new, List.getElem?_singleton] at later
    split at later
    next =>
      cases later
      rw [arrived_waits] at granted
      cases granted
    next => cases later

/-- Who has been granted a session on these ports had it before the event. -/
theorem granted_before {w : World} (burned : Burned (recDirOf host grpcPort murmurPort) grpcPort murmurPort names w)
    (event : Event) {index : Nat} {worker : Worker} (later : (step host w event).workers[index]? = some worker)
    (granted : (worker.granted grpcPort murmurPort).isSome) : w.workers[index]? = some worker := by
  cases event with
  | restart clock => cases later
  | boot fault =>
    change (bootStep host w fault).workers[index]? = some worker at later
    unfold bootStep at later
    split at later <;> exact later
  | record recDir name => exact later
  | advance place fault =>
    change (advance host w place fault).workers[index]? = some worker at later
    unfold advance at later
    split at later
    next asked stage call next found =>
      rw [List.getElem?_set] at later
      split at later
      next =>
        split at later
        next =>
          have waits := (advanced_waits burned found fault worker (Option.some.inj later).symm).2
          rw [waits] at granted
          cases granted
        next => cases later
      next => exact later
    next => exact later
  | turn turn =>
    change (turnStep host w turn).workers[index]? = some worker at later
    unfold turnStep at later
    split at later
    next =>
      cases turn with
      | create params => exact arrive_before later granted
      | remove sessionId => exact arrive_before later granted
      | connect playerId => exact arrive_before later granted
      | _ => exact later
    next => exact later

/-- Once a directory holds a recording and no session is being created on its ports, it holds that recording for good, and
no event grants a session on these ports again, through any crashes and whatever fails. -/
theorem recorded_ports_refused {w : World} (recorded : w.dirs (recDirOf host grpcPort murmurPort) = some names)
    (full : names ≠ []) (idle : ∀ worker ∈ w.workers, worker.creates grpcPort murmurPort → Settled worker.request)
    (events : List Event) :
    (∃ more, (run (step host) w events).dirs (recDirOf host grpcPort murmurPort) = some (names ++ more)) ∧
      (run (step host) w events).granted grpcPort murmurPort <+: w.granted grpcPort murmurPort ∧
      ∀ before event rest, events = before ++ event :: rest →
        ¬Grants host grpcPort murmurPort (run (step host) w before) event := by
  have initially : Burned (recDirOf host grpcPort murmurPort) grpcPort murmurPort names w :=
    ⟨⟨[], by simpa using recorded⟩, fun worker member creates => .inl (idle worker member creates)⟩
  let invariant (later : World) : Prop :=
    Burned (recDirOf host grpcPort murmurPort) grpcPort murmurPort names later ∧
      later.granted grpcPort murmurPort <+: w.granted grpcPort murmurPort
  have preserved (later : World) (event : Event) (holds : invariant later) : invariant (step host later event) := by
    obtain ⟨burned, before⟩ := holds
    obtain ⟨after, same | none⟩ := burned_step burned full event
    · exact ⟨after, by rwa [same]⟩
    · exact ⟨after, by simp [none]⟩
  obtain ⟨burned, prefixed⟩ := run_invariant invariant preserved events ⟨initially, List.prefix_refl _⟩
  refine ⟨burned.kept, prefixed, ?_⟩
  rintro before event rest rfl ⟨index, worker, later, granted, new⟩
  exact new (granted_before (burned_run initially full before) event later granted)

end

/-! A session of pete and kate is created and recorded. -/

def sampleRecorded : World :=
  run (step sampleHost) (begin sampleStart.server.uuids Presence.sampleClock) ([.boot .none, .turn (.create sampleParams)] ++
    List.replicate 40 (.advance 0 .none) ++
      [.record (recDirOf sampleHost sampleParams.grpcPort sampleParams.murmurPort) "kate.wav"])

/-- The session is removed, and asked for once more. -/
def sampleAgain : List Event :=
  .turn (.remove 1) :: List.replicate 40 (.advance 1 .none) ++
    .turn (.create sampleParams) :: List.replicate 40 (.advance 2 .none)

def Worker.resolved (worker : Worker) : Bool :=
  match worker.request with
  | .resolve _ => true
  | _ => false

theorem settled_of_resolved {worker : Worker} (resolved : worker.resolved = true) : Settled worker.request := by
  unfold Worker.resolved at resolved
  split at resolved
  next same =>
    rw [same]
    trivial
  next => cases resolved

theorem recorded_ports_refused_sample :
    sampleRecorded.granted sampleParams.grpcPort sampleParams.murmurPort =
        [some { sampleParams with sessionId := 1 }] ∧
      (∃ more, (run (step sampleHost) sampleRecorded sampleAgain).dirs
        (recDirOf sampleHost sampleParams.grpcPort sampleParams.murmurPort) = some (["kate.wav"] ++ more)) ∧
      (run (step sampleHost) sampleRecorded sampleAgain).granted sampleParams.grpcPort sampleParams.murmurPort <+:
        sampleRecorded.granted sampleParams.grpcPort sampleParams.murmurPort ∧
      ∀ before event rest, sampleAgain = before ++ event :: rest →
        ¬Grants sampleHost sampleParams.grpcPort sampleParams.murmurPort (run (step sampleHost) sampleRecorded before)
          event := by
  have recorded : sampleRecorded.dirs (recDirOf sampleHost sampleParams.grpcPort sampleParams.murmurPort) =
      some ["kate.wav"] := by decide +kernel
  have granted : sampleRecorded.granted sampleParams.grpcPort sampleParams.murmurPort =
      [some { sampleParams with sessionId := 1 }] := by decide +kernel
  have settled : sampleRecorded.workers.all Worker.resolved = true := by decide +kernel
  have idle (worker : Worker) (member : worker ∈ sampleRecorded.workers)
      (_ : worker.creates sampleParams.grpcPort sampleParams.murmurPort) : Settled worker.request :=
    settled_of_resolved (List.all_eq_true.mp settled worker member)
  have full : ["kate.wav"] ≠ [] := List.cons_ne_nil _ _
  exact ⟨granted, recorded_ports_refused recorded full idle sampleAgain⟩

end DfStudy.RecordingDirs
