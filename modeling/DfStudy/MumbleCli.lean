import Mathlib.Data.List.Basic

/-! `mumble-cli`: how the outcomes of its calls to murmur become the outcome of its process, and that of the chain of
processes an attack is launched with. -/

namespace DfStudy.MumbleCli

/-! What murmur is asked, and answers. A call fails with an error status or when its deadline is exceeded. -/

structure Server where
  Id : Option Nat
  deriving DecidableEq

def Server.GetId (x : Server) : Nat := x.Id.getD 0

structure User where
  Session : Option Nat
  Name : Option String
  deriving DecidableEq

def User.GetName (x : User) : String := x.Name.getD ""

structure ShadowmuteMessage where
  Server : Option Server
  Target : Option User
  MuteStatus : Bool

/-- Without the settings of the encoder. -/
structure SpoofAudioMessage where
  User : Option User
  Server : Option Server
  Data : List UInt8

/-- The outcomes of all that one run of `mumble-cli` may ask of its surroundings. -/
structure Calls where
  Dial : Except String Unit
  ServerQuery : Except String (List Server)
  UserQuery : Option Server → Except String (List User)
  Shadowmute : ShadowmuteMessage → Except String Unit
  SpoofAudio : SpoofAudioMessage → Except String Unit
  /-- The bytes of the file, or those the arguments encode. -/
  input : Except String (List UInt8)

/-! The commands. An error is a value, and only a panic ends a command where it stands. -/

/-- The message of a panic, or what is computed. -/
abbrev Go := Except String

/-- On an error, `serverList` is nil, and its field is read all the same. -/
def getServerList (calls : Calls) : Go (Option String × List Server) :=
  match calls.ServerQuery with
  | .error _ => .error "panic: runtime error: invalid memory address or nil pointer dereference"
  | .ok serverList => .ok (none, serverList)

def getServerById (calls : Calls) (serverId : Nat) : Go (Option String × Option Server) := do
  let (err, serverList) ← getServerList calls
  if err.isSome then return (err, none)
  match serverList.find? (·.GetId = serverId) with
  | some srv => return (none, some srv)
  | none => return (some "server not found", none)

def getUsers (calls : Calls) (server : Option Server) : Option String × List User :=
  match calls.UserQuery server with
  | .error err => (some err, [])
  | .ok users => (none, users)

def getUserByName (calls : Calls) (username : String) (server : Option Server) : Option String × Option User :=
  let (err, users) := getUsers calls server
  if err.isSome then (err, none) else
    match users.find? (·.GetName = username) with
    | some u => (none, some u)
    | none => (some "user not found", none)

structure ShadowmuteArgs where
  serverId : Nat
  targetName : String
  unmute : Bool

def shadowmuteCmd (calls : Calls) (args : ShadowmuteArgs) : Go (Option String × String) := do
  let (err, server) ← getServerById calls args.serverId
  if err.isSome then return (err, "")
  let (_err, target) := getUserByName calls args.targetName server
  let _outcome := calls.Shadowmute { Server := server, Target := target, MuteStatus := !args.unmute }
  return (none, "")

structure SpoofArgs where
  serverId : Nat
  userName : String

def spoofCmd (calls : Calls) (args : SpoofArgs) : Go (Option String × String) := do
  let (_err, server) ← getServerById calls args.serverId
  let (_err, user) := getUserByName calls args.userName server
  match calls.input with
  | .error err => throw ("panic: " ++ err)
  | .ok dat =>
    let _outcome := calls.SpoofAudio { User := user, Server := server, Data := dat }
    return (none, "")

/-! The process, and who waits for it. -/

structure Process where
  code : Nat
  stdout : String
  stderr : String

/-- With the command `cmdFn`, its arguments parsed. -/
def main (calls : Calls) (cmdFn : Go (Option String × String)) : Process :=
  match calls.Dial with
  | .error err => { code := 2, stdout := "", stderr := "panic: " ++ err }
  | .ok () =>
    match cmdFn with
    | .error panics => { code := 2, stdout := "", stderr := panics }
    | .ok (some err, _) => { code := 0, stdout := "", stderr := err ++ "\n" }
    | .ok (none, res) => { code := 0, stdout := res ++ "\n", stderr := "" }

def execF (process : Process) : Except String String :=
  if process.code ≠ 0 then .error "Command failed"
  else if process.stderr.length > 0 then .error process.stderr
  else .ok process.stdout

/-- What an attack is logged with when it is launched: the mute, and then the spoofed audio. -/
def launch (muteCalls spoofCalls : Calls) (mute : ShadowmuteArgs) (spoof : SpoofArgs) : Except String String := do
  let _muteRes ← execF (main muteCalls (shadowmuteCmd muteCalls mute))
  execF (main spoofCalls (spoofCmd spoofCalls spoof))

/-! What the calls should have come to. -/

/-- The server with an id, if murmur lists it. -/
def listed (calls : Calls) (serverId : Nat) : Option Server :=
  calls.ServerQuery.toOption.bind fun servers => servers.find? (·.GetId = serverId)

/-- The user with a name, if murmur lists one on the server. -/
def named (calls : Calls) (server : Server) (username : String) : Option User :=
  (calls.UserQuery (some server)).toOption.bind fun users => users.find? (·.GetName = username)

/-- Server and user are found, and every call is completed successfully. -/
def Muted (calls : Calls) (args : ShadowmuteArgs) : Prop :=
  ∃ server target, listed calls args.serverId = some server ∧ named calls server args.targetName = some target ∧
    calls.Shadowmute { Server := server, Target := target, MuteStatus := !args.unmute } = .ok ()

def Spoofed (calls : Calls) (args : SpoofArgs) : Prop :=
  ∃ server user dat, listed calls args.serverId = some server ∧ named calls server args.userName = some user ∧
    calls.input = .ok dat ∧ calls.SpoofAudio { User := user, Server := server, Data := dat } = .ok ()

/-! When a command reports success. -/

/-- The command returns a nil error. -/
def Nil (cmdFn : Go (Option String × String)) : Prop := ∃ res, cmdFn = .ok (none, res)

theorem getServerById_eq (calls : Calls) (serverId : Nat) :
    getServerById calls serverId =
      match calls.ServerQuery with
      | .error _ => .error "panic: runtime error: invalid memory address or nil pointer dereference"
      | .ok _ =>
        match listed calls serverId with
        | some srv => .ok (none, some srv)
        | none => .ok (some "server not found", none) := by
  unfold getServerById getServerList listed
  cases calls.ServerQuery with
  | error err => rfl
  | ok servers =>
    change (match servers.find? _ with | some srv => _ | none => _ : Go _) = match servers.find? _ with | some _ => _ | none => _
    cases servers.find? (·.GetId = serverId) <;> rfl

theorem shadowmuteCmd_nil (calls : Calls) (args : ShadowmuteArgs) :
    Nil (shadowmuteCmd calls args) ↔ ∃ server, listed calls args.serverId = some server := by
  unfold Nil shadowmuteCmd
  rw [getServerById_eq]
  cases queried : calls.ServerQuery with
  | error err =>
    have missing : listed calls args.serverId = none := by
      unfold listed
      rw [queried]
      rfl
    rw [missing]
    exact iff_of_false (fun ⟨_, returned⟩ => nomatch returned) fun ⟨_, found⟩ => nomatch found
  | ok servers =>
    cases found : listed calls args.serverId with
    | none => exact iff_of_false (fun ⟨_, returned⟩ => nomatch returned) fun ⟨_, found⟩ => nomatch found
    | some server => exact iff_of_true ⟨"", rfl⟩ ⟨server, rfl⟩

theorem spoofCmd_nil (calls : Calls) (args : SpoofArgs) :
    Nil (spoofCmd calls args) ↔ (∃ servers, calls.ServerQuery = .ok servers) ∧ ∃ dat, calls.input = .ok dat := by
  unfold Nil spoofCmd
  rw [getServerById_eq]
  cases calls.ServerQuery with
  | error err => exact iff_of_false (fun ⟨_, returned⟩ => nomatch returned) fun ⟨⟨_, answered⟩, _⟩ => nomatch answered
  | ok servers =>
    have known : ∃ found, (match listed calls args.serverId with
        | some srv => .ok (none, some srv)
        | none => .ok (some "server not found", none) : Go (Option String × Option Server)) = .ok found := by
      cases listed calls args.serverId with
      | none => exact ⟨_, rfl⟩
      | some server => exact ⟨_, rfl⟩
    obtain ⟨found, same⟩ := known
    dsimp only
    rw [same]
    cases calls.input with
    | error err => exact iff_of_false (fun ⟨_, returned⟩ => nomatch returned) fun ⟨_, _, read⟩ => nomatch read
    | ok dat => exact iff_of_true ⟨"", rfl⟩ ⟨⟨servers, rfl⟩, ⟨dat, rfl⟩⟩

/-- What is printed as an error reaches the waiting process. -/
theorem execF_main (calls : Calls) (cmdFn : Go (Option String × String)) :
    (∃ out, execF (main calls cmdFn) = .ok out) ↔ calls.Dial = .ok () ∧ Nil cmdFn := by
  unfold execF main Nil
  cases calls.Dial with
  | error err => exact iff_of_false (fun ⟨_, resolved⟩ => nomatch resolved) fun both => nomatch both.1
  | ok connected =>
    cases cmdFn with
    | error panics => exact iff_of_false (fun ⟨_, resolved⟩ => nomatch resolved) fun ⟨_, _, returned⟩ => nomatch returned
    | ok returned =>
      obtain ⟨err, res⟩ := returned
      cases err with
      | none => exact iff_of_true ⟨res ++ "\n", rfl⟩ ⟨rfl, res, rfl⟩
      | some err =>
        have printed : (err ++ "\n").length > 0 := by
          rw [String.length_append]
          exact Nat.succ_pos _
        refine iff_of_false ?_ fun ⟨_, _, returned⟩ => nomatch returned
        intro ⟨out, resolved⟩
        change (if (0 : Nat) ≠ 0 then _ else if (err ++ "\n").length > 0 then Except.error (err ++ "\n") else _) = _
          at resolved
        rw [if_neg (by decide), if_pos printed] at resolved
        cases resolved

theorem launch_ok (muteCalls spoofCalls : Calls) (mute : ShadowmuteArgs) (spoof : SpoofArgs) :
    (∃ out, launch muteCalls spoofCalls mute spoof = .ok out) ↔
      (muteCalls.Dial = .ok () ∧ Nil (shadowmuteCmd muteCalls mute)) ∧
        spoofCalls.Dial = .ok () ∧ Nil (spoofCmd spoofCalls spoof) := by
  rw [← execF_main, ← execF_main]
  unfold launch
  cases execF (main muteCalls (shadowmuteCmd muteCalls mute)) with
  | error err => exact iff_of_false (fun ⟨_, resolved⟩ => nomatch resolved) fun ⟨⟨_, muted⟩, _⟩ => nomatch muted
  | ok out => exact ⟨fun resolved => ⟨⟨out, rfl⟩, resolved⟩, fun both => both.2⟩

/-- What has to come true behind the list of servers for a mute to be accepted. -/
def AcceptsMute (calls : Calls) (args : ShadowmuteArgs) (server : Server) : Prop :=
  ∃ target, named calls server args.targetName = some target ∧
    calls.Shadowmute { Server := server, Target := target, MuteStatus := !args.unmute } = .ok ()

/-- What has to come true, once there is audio, for it to be accepted. -/
def AcceptsSpoof (calls : Calls) (args : SpoofArgs) (dat : List UInt8) : Prop :=
  ∃ server user, listed calls args.serverId = some server ∧ named calls server args.userName = some user ∧
    calls.SpoofAudio { User := user, Server := server, Data := dat } = .ok ()

theorem muted_iff {calls : Calls} {args : ShadowmuteArgs} {server : Server}
    (found : listed calls args.serverId = some server) : Muted calls args ↔ AcceptsMute calls args server := by
  constructor
  · intro ⟨other, target, known, user, muted⟩
    obtain rfl : server = other := Option.some.inj (found.symm.trans known)
    exact ⟨target, user, muted⟩
  · intro ⟨target, user, muted⟩
    exact ⟨server, target, found, user, muted⟩

theorem spoofed_iff {calls : Calls} {args : SpoofArgs} {dat : List UInt8} (read : calls.input = .ok dat) :
    Spoofed calls args ↔ AcceptsSpoof calls args dat := by
  constructor
  · intro ⟨server, user, other, found, known, input, spoofed⟩
    obtain rfl : dat = other := Except.ok.inj (read.symm.trans input)
    exact ⟨server, user, found, known, spoofed⟩
  · intro ⟨server, user, found, known, spoofed⟩
    exact ⟨server, user, dat, found, known, read, spoofed⟩

/-- Success means what it says exactly if nothing fails behind the last outcome that is looked at: with a mute, the
list of servers, and with spoofed audio, whether servers could be listed and the audio be read. -/
theorem nil_iff (muteCalls spoofCalls : Calls) (mute : ShadowmuteArgs) (spoof : SpoofArgs) :
    ((Nil (shadowmuteCmd muteCalls mute) → Muted muteCalls mute) ↔
      ∀ server, listed muteCalls mute.serverId = some server → AcceptsMute muteCalls mute server) ∧
    ((Nil (spoofCmd spoofCalls spoof) → Spoofed spoofCalls spoof) ↔
      ∀ servers dat, spoofCalls.ServerQuery = .ok servers → spoofCalls.input = .ok dat →
        AcceptsSpoof spoofCalls spoof dat) ∧
    (((∃ out, launch muteCalls spoofCalls mute spoof = .ok out) →
        Muted muteCalls mute ∧ Spoofed spoofCalls spoof) ↔
      ∀ server servers dat, muteCalls.Dial = .ok () → listed muteCalls mute.serverId = some server →
        spoofCalls.Dial = .ok () → spoofCalls.ServerQuery = .ok servers → spoofCalls.input = .ok dat →
          AcceptsMute muteCalls mute server ∧ AcceptsSpoof spoofCalls spoof dat) := by
  rw [launch_ok, shadowmuteCmd_nil, spoofCmd_nil]
  refine ⟨?_, ?_, ?_⟩
  · constructor
    · intro faithful server found
      exact (muted_iff found).mp (faithful ⟨server, found⟩)
    · intro accepted ⟨server, found⟩
      exact (muted_iff found).mpr (accepted server found)
  · constructor
    · intro faithful servers dat answered read
      exact (spoofed_iff read).mp (faithful ⟨⟨servers, answered⟩, ⟨dat, read⟩⟩)
    · intro accepted ⟨⟨servers, answered⟩, ⟨dat, read⟩⟩
      exact (spoofed_iff read).mpr (accepted servers dat answered read)
  · constructor
    · intro faithful server servers dat dialled found redialled answered read
      have both := faithful ⟨⟨dialled, server, found⟩, redialled, ⟨servers, answered⟩, ⟨dat, read⟩⟩
      exact ⟨(muted_iff found).mp both.1, (spoofed_iff read).mp both.2⟩
    · intro accepted ⟨⟨dialled, server, found⟩, redialled, ⟨servers, answered⟩, ⟨dat, read⟩⟩
      have both := accepted server servers dat dialled found redialled answered read
      exact ⟨(muted_iff found).mpr both.1, (spoofed_iff read).mpr both.2⟩

/-- A murmur with one server and nobody on it. -/
def nobodyThere : Calls where
  Dial := .ok ()
  ServerQuery := .ok [{ Id := some 1 }]
  UserQuery := fun _ => .ok []
  Shadowmute := fun _ => .error "missing target user id"
  SpoofAudio := fun _ => .error "missing user"
  input := .ok [0, 0]

/-- Both commands report success to an attack on a user who is not there. -/
theorem nobodyThere_ok :
    ¬ ∀ (muteCalls spoofCalls : Calls) (mute : ShadowmuteArgs) (spoof : SpoofArgs),
      (Nil (shadowmuteCmd muteCalls mute) → Muted muteCalls mute) ∧
      (Nil (spoofCmd spoofCalls spoof) → Spoofed spoofCalls spoof) ∧
      ((∃ out, launch muteCalls spoofCalls mute spoof = .ok out) →
        Muted muteCalls mute ∧ Spoofed spoofCalls spoof) := by
  intro faithful
  obtain ⟨mute, -, -⟩ := faithful nobodyThere nobodyThere { serverId := 1, targetName := "kate", unmute := false }
    { serverId := 1, userName := "kate" }
  obtain ⟨server, target, found, known, -⟩ := mute ⟨"", rfl⟩
  cases known

/-! Murmur's side of the calls. -/

/-- The ids of the servers, and the sessions of the authenticated users of each. -/
structure Murmur where
  qhServers : List Nat
  qhUsers : Nat → List Nat

def MustServer (meta_ : Murmur) : Option Server → Except String Nat
  | none => .error "missing server"
  | some { Id := none } => .error "missing server id"
  | some { Id := some id } => if id ∈ meta_.qhServers then .ok id else .error "invalid server"

def MustUser (meta_ : Murmur) (server : Nat) (missing : String) : Option User → Except String Nat
  | none => .error missing
  | some user =>
    let session := user.Session.getD 0
    if session ∈ meta_.qhUsers server then .ok session else .error "invalid user"

/-- Whether a call is ended, once its implementation has returned. One that is not is given up after a second. -/
def outcome (impl : Except String Bool) : Except String Unit :=
  match impl with
  | .error status => .error status
  | .ok true => .ok ()
  | .ok false => .error "context deadline exceeded"

def V1_SpoofAudio (meta_ : Murmur) (request : SpoofAudioMessage) : Except String Bool := do
  let server ← MustServer meta_ request.Server
  let _user ← MustUser meta_ server "missing user" request.User
  return true

/-- It mutes the target, and does not end the call. -/
def V1_Shadowmute (meta_ : Murmur) (request : ShadowmuteMessage) : Except String Bool := do
  let server ← MustServer meta_ request.Server
  let _target ← MustUser meta_ server "missing target user id" request.Target
  return false

theorem outcome_ok {impl : Except String Bool} (completed : outcome impl = .ok ()) : impl = .ok true := by
  match impl with
  | .error _ => cases completed
  | .ok true => rfl
  | .ok false => cases completed

theorem V1_Shadowmute_open (meta_ : Murmur) (request : ShadowmuteMessage) : V1_Shadowmute meta_ request ≠ .ok true := by
  unfold V1_Shadowmute
  cases MustServer meta_ request.Server with
  | error status => exact nofun
  | ok server =>
    change ((MustUser meta_ server _ request.Target).bind fun _ => .ok false) ≠ _
    cases MustUser meta_ server "missing target user id" request.Target with
    | error status => exact nofun
    | ok target => exact nofun

/-- No mute is ever completed, whoever is there. -/
theorem shadowmute_never (meta_ : Murmur) {calls : Calls}
    (own : calls.Shadowmute = fun request => outcome (V1_Shadowmute meta_ request)) (args : ShadowmuteArgs) :
    ¬ Muted calls args := by
  intro ⟨server, target, _, _, muted⟩
  rw [own] at muted
  exact V1_Shadowmute_open meta_ _ (outcome_ok muted)

end DfStudy.MumbleCli
