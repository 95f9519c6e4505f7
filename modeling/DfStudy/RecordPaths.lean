import DfStudy.Recordings
import DfStudy.Support.Machine
import DfStudy.Voice
import Mathlib.Data.List.TakeWhile

/-! Which files the recording thread of a voice server opens, while clients log in and send packets in any order. -/

namespace DfStudy.RecordPaths
open Recordings Support.Machine Voice

/-! Names. -/

/-- What the server is configured with, and what Qt does with a name. -/
structure Settings where
  /-- `exactMatch` of the pattern for user names. -/
  qrUserName : String → Bool
  trimmed : String → String
  config : Config

/-- The length of a `QString`. -/
def length (name : String) : Nat := (name.toList.map fun c => if c.toNat < 0x10000 then 1 else 2).sum

def validateUserName (settings : Settings) (name : String) : Bool :=
  length (settings.trimmed name) = length name && settings.qrUserName name && length name ≤ 512

/-- The default pattern. Its first range goes from the blank to `=`. -/
def defaultUserName (word : Char → Bool) (name : String) : Bool :=
  name ≠ "" && name.toList.all fun c => (' ' ≤ c && c ≤ '=') || word c || "[]{}()@|.".toList.contains c

/-! Users, and the queue of the recording thread. -/

inductive State where
  | Connected
  | Authenticated
  deriving DecidableEq

structure User where
  qsName : String := ""
  sState : State := .Connected
  deriving DecidableEq

/-- A queue entry, with the user who sent the packet as they were when it arrived. The server itself keeps the name
only. -/
structure AudioMsg where
  data : List UInt8
  speaker : User

def AudioMsg.user (msg : AudioMsg) : String := msg.speaker.qsName

/-- A file that has been opened, for the packet of a user. -/
structure Opened where
  path : String
  speaker : User

structure Server where
  /-- By connection. Those that are gone are not there any more. -/
  users : List (Option User) := []
  /-- The names `msgAuthenticate` has accepted, which the server itself does not keep. -/
  accepted : List String := []
  recordingQueue : List AudioMsg := []
  fileMap : List String := []
  opened : List Opened := []

/-- What `authenticate` and the checks behind it come to. -/
structure Reply where
  id : Int
  /-- The name it puts in the place of the one it was given. -/
  stored : Option String
  wrongServerPassword : Bool
  /-- The name is in use, the server or its channels are full, or a certificate is missing. -/
  refused : Bool

inductive Turn where
  | connect
  | disconnect (u : Nat)
  | authenticate (u : Nat) (username : String) (reply : Reply)
  | tunnel (u : Nat) (data : List UInt8)
  | udp (u : Nat) (data : List UInt8)
  /-- The recording thread is started. -/
  | startRecording
  /-- One pass of its loop. -/
  | recordLoop

section
variable (settings : Settings)

/-- The name is stored before it is checked, and stays when it is rejected. -/
def msgAuthenticate (s : Server) (u : Nat) (username : String) (reply : Reply) : Server :=
  match s.users[u]? with
  | some (some user) =>
    if user.sState ≠ .Connected then s else
      let qsName := settings.trimmed username
      let nameok := validateUserName settings qsName
      let qsName := if reply.id = -2 then qsName else reply.stored.getD qsName
      let ok := !(reply.id = -2 && !nameok) && reply.id ≠ -1 && !(reply.id = -2 && reply.wrongServerPassword) &&
        reply.id ≠ -3 && !reply.refused
      { s with
        users := s.users.set u (some { qsName, sState := if ok then .Authenticated else .Connected })
        accepted := if ok then qsName :: s.accepted else s.accepted }
  | _ => s

/-- The first thing `processMsg` does, before it looks at the user's state. -/
def processMsg (s : Server) (user : User) (data : List UInt8) : Server :=
  { s with recordingQueue := s.recordingQueue ++ [{ data, speaker := user }] }

/-- The user whose packet is handed to `processMsg`. -/
def recorded (s : Server) : Turn → Option User
  | .tunnel u data =>
    if data.length < 2 ∨ UDP_PACKET_SIZE < data.length ∨ voice settings.config data = false then none
    else (s.users[u]?).join
  | .udp u data => if voice settings.config data then (s.users[u]?).join else none
  | _ => none

def recordLoop (s : Server) : Server :=
  match s.recordingQueue with
  | [] => s
  | msg :: rest =>
    if msg.user ∈ s.fileMap then { s with recordingQueue := rest } else
      { s with
        recordingQueue := rest
        fileMap := msg.user :: s.fileMap
        opened := s.opened ++ [{ path := fileName msg.user, speaker := msg.speaker }] }

def hear (s : Server) (turn : Turn) (data : List UInt8) : Server :=
  match recorded settings s turn with
  | none => s
  | some user => processMsg s user data

def step (s : Server) (turn : Turn) : Server :=
  match turn with
  | .connect => { s with users := s.users ++ [some {}] }
  | .disconnect u => { s with users := s.users.set u none }
  | .authenticate u username reply => msgAuthenticate settings s u username reply
  | .tunnel _ data => hear settings s turn data
  | .udp _ data => hear settings s turn data
  | .startRecording => { s with fileMap := [] }
  | .recordLoop => recordLoop s

end

/-! Where files belong. -/

def directory : String := "/var/hcc/rec/"

/-- The file lies directly in the directory and is named after the user, whose name has been accepted and who was
authenticated. The path fits into its array, with the NUL behind it. -/
structure Proper (accepted : List String) (file : Opened) : Prop where
  inside : ∃ base, file.path = directory ++ base ∧ '/' ∉ base.toList ∧ base ≠ "." ∧ base ≠ ".."
  named : file.path = directory ++ file.speaker.qsName ++ ".mams"
  authenticated : file.speaker.sState = .Authenticated
  accepted : file.speaker.qsName ∈ accepted
  fits : file.path.utf8ByteSize + 1 ≤ fileNameSize

/-- A name that makes a path of a file in the directory: no slash, no NUL, and at most 31 bytes. -/
def Plain (name : String) : Prop := '/' ∉ name.toList ∧ '\x00' ∉ name.toList ∧ name.utf8ByteSize ≤ 31

/-- Packets that are recorded come from authenticated users with plain names. -/
def Meets (settings : Settings) (s : Server) (turn : Turn) : Prop :=
  ∀ user, recorded settings s turn = some user → user.sState = .Authenticated ∧ Plain user.qsName

/-! Plain names make proper files. -/

theorem cString_plain {name : String} (plain : '\x00' ∉ name.toList) : cString name = name := by
  have whole : name.toList.takeWhile (· ≠ '\x00') = name.toList := by
    rw [List.takeWhile_eq_self_iff]
    intro c member
    exact decide_eq_true fun zero => plain (zero ▸ member)
  unfold cString
  rw [whole, String.ofList_toList]

theorem fileName_plain {name : String} (plain : '\x00' ∉ name.toList) : fileName name = directory ++ name ++ ".mams" := by
  unfold fileName directory
  rw [cString_plain plain]

/-- A user whose packets may be recorded. -/
structure Good (accepted : List String) (user : User) : Prop where
  authenticated : user.sState = .Authenticated
  accepted : user.qsName ∈ accepted
  plain : Plain user.qsName

theorem proper_of_good {accepted : List String} {user : User} (good : Good accepted user) :
    Proper accepted { path := fileName user.qsName, speaker := user } := by
  obtain ⟨noSlash, noNul, short⟩ := good.plain
  have name := fileName_plain noNul
  have long : ∀ text : String, user.qsName ++ ".mams" = text → 5 ≤ text.length := by
    intro text same
    rw [← same, String.length_append]
    exact Nat.le_add_left ..
  refine ⟨⟨user.qsName ++ ".mams", ?_, ?_, ?_, ?_⟩, name, good.authenticated, good.accepted, ?_⟩
  · rw [← String.append_assoc]
    exact name
  · rw [String.toList_append, List.mem_append]
    exact fun slash => slash.elim noSlash (by decide)
  · exact fun dot => absurd (long _ dot) (by decide)
  · exact fun dots => absurd (long _ dots) (by decide)
  · apply (fits_iff user.qsName).mpr
    rw [cString_plain noNul]
    exact short

/-! What a step keeps. -/

structure Kept (s : Server) : Prop where
  users : ∀ (u : Nat) (user : User), s.users[u]? = some (some user) → user.sState = .Authenticated → user.qsName ∈ s.accepted
  queue : ∀ msg ∈ s.recordingQueue, Good s.accepted msg.speaker
  opened : ∀ file ∈ s.opened, Proper s.accepted file

section
variable {settings : Settings} {s : Server}

theorem kept_connect (kept : Kept s) : Kept { s with users := s.users ++ [some {}] } := by
  refine ⟨?_, kept.queue, kept.opened⟩
  intro u user found authenticated
  rcases Nat.lt_or_ge u s.users.length with before | behind
  · rw [List.getElem?_append_left before] at found
    exact kept.users u user found authenticated
  · rw [List.getElem?_append_right behind, List.getElem?_singleton] at found
    split at found
    · cases found
      cases authenticated
    · cases found

theorem kept_disconnect (kept : Kept s) (u : Nat) : Kept { s with users := s.users.set u none } := by
  refine ⟨?_, kept.queue, kept.opened⟩
  intro other user found authenticated
  rw [List.getElem?_set] at found
  split at found
  · split at found <;> cases found
  · exact kept.users other user found authenticated

theorem Good.mono {accepted more : List String} {user : User} (good : Good accepted user) (grows : accepted ⊆ more) :
    Good more user := ⟨good.authenticated, grows good.accepted, good.plain⟩

theorem Proper.mono {accepted more : List String} {file : Opened} (proper : Proper accepted file)
    (grows : accepted ⊆ more) : Proper more file :=
  ⟨proper.inside, proper.named, proper.authenticated, grows proper.accepted, proper.fits⟩

/-- A user logs in, or is rejected. -/
theorem kept_login (kept : Kept s) (u : Nat) (qsName : String) (ok : Bool) :
    Kept { s with
      users := s.users.set u (some { qsName, sState := if ok then .Authenticated else .Connected })
      accepted := if ok then qsName :: s.accepted else s.accepted } := by
  have grows : s.accepted ⊆ if ok then qsName :: s.accepted else s.accepted := by
    cases ok
    · exact fun _ member => member
    · exact fun _ member => List.mem_cons_of_mem _ member
  refine ⟨?_, fun msg member => (kept.queue msg member).mono grows, fun file member => (kept.opened file member).mono grows⟩
  intro other user found authenticated
  rw [List.getElem?_set] at found
  split at found
  · split at found
    · cases found
      cases ok
      · cases authenticated
      · exact List.mem_cons_self ..
    · cases found
  · exact grows (kept.users other user found authenticated)

theorem kept_authenticate (kept : Kept s) (u : Nat) (username : String) (reply : Reply) :
    Kept (msgAuthenticate settings s u username reply) := by
  unfold msgAuthenticate
  split
  next user found =>
    split
    next => exact kept
    next => exact kept_login kept u _ _
  next => exact kept

/-- The speaker of a recorded packet is one of the users. -/
theorem recorded_user {turn : Turn} {user : User} (hears : recorded settings s turn = some user) :
    ∃ u : Nat, s.users[u]? = some (some user) := by
  unfold recorded at hears
  split at hears
  next u data =>
    split at hears
    · cases hears
    · exact ⟨u, Option.join_eq_some_iff.mp hears⟩
  next u data =>
    split at hears
    · exact ⟨u, Option.join_eq_some_iff.mp hears⟩
    · cases hears
  next => cases hears

theorem kept_hear (kept : Kept s) {turn : Turn} (meets : Meets settings s turn) (data : List UInt8) :
    Kept (hear settings s turn data) := by
  unfold hear
  cases hears : recorded settings s turn with
  | none => exact kept
  | some user =>
    obtain ⟨authenticated, plain⟩ := meets user hears
    obtain ⟨u, found⟩ := recorded_user hears
    refine ⟨kept.users, ?_, kept.opened⟩
    intro msg member
    rcases List.mem_append.mp member with before | last
    · exact kept.queue msg before
    · rw [List.mem_singleton.mp last]
      exact ⟨authenticated, kept.users u user found authenticated, plain⟩

theorem kept_recordLoop (kept : Kept s) : Kept (recordLoop s) := by
  unfold recordLoop
  split
  next => exact kept
  next msg rest queue =>
    have first : Good s.accepted msg.speaker := kept.queue msg (by rw [queue]; exact List.mem_cons_self ..)
    have later : ∀ other ∈ rest, Good s.accepted other.speaker := fun other member =>
      kept.queue other (by rw [queue]; exact List.mem_cons_of_mem _ member)
    split
    next => exact ⟨kept.users, later, kept.opened⟩
    next =>
      refine ⟨kept.users, later, ?_⟩
      intro file member
      rcases List.mem_append.mp member with before | last
      · exact kept.opened file before
      · rw [List.mem_singleton.mp last]
        exact proper_of_good first

theorem kept_step (kept : Kept s) {turn : Turn} (meets : Meets settings s turn) : Kept (step settings s turn) := by
  cases turn with
  | connect => exact kept_connect kept
  | disconnect u => exact kept_disconnect kept u
  | authenticate u username reply => exact kept_authenticate kept u username reply
  | tunnel u data => exact kept_hear kept meets data
  | udp u data => exact kept_hear kept meets data
  | startRecording => exact ⟨kept.users, kept.queue, kept.opened⟩
  | recordLoop => exact kept_recordLoop kept

end

/-- As long as what is recorded comes from authenticated users with plain names, every file that is opened is where it
belongs. -/
theorem opened_proper {settings : Settings} {turns : List Turn}
    (meets : Permitted (step settings) (Meets settings) {} turns) :
    ∀ file ∈ (run (step settings) {} turns).opened, Proper (run (step settings) {} turns).accepted file := by
  have initial : Kept {} := ⟨(fun _ _ found => nomatch found), (fun _ member => nomatch member), (fun _ member => nomatch member)⟩
  have kept : Kept (run (step settings) {} turns) :=
    run_invariant_of_permitted Kept (fun _ _ meets kept => kept_step kept meets) meets initial
  exact kept.opened

/-! A server with one client who logs in and sends one packet. -/

def soundsOnly : Config where
  users := fun _ => none
  channels := fun _ => none
  allLinks := fun id => [id]
  allChildren := fun id => [id]
  hasPermission := fun _ _ _ => true
  isMember := fun _ _ _ => true
  bOpus := true
  iMaxBandwidth := 558000

def byDefault : Settings where
  qrUserName := defaultUserName fun c => c.isAlphanum || c = '_'
  trimmed := id
  config := soundsOnly

/-- The server gives no id, so that the name goes through the pattern. -/
def anyone : Reply := { id := -2, stored := none, wrongServerPassword := false, refused := false }

def logsIn (name : String) : List Turn :=
  [.connect, .authenticate 0 name anyone, .startRecording, .tunnel 0 [0x80, 0], .recordLoop]

theorem plain_kate : Plain "kate" := ⟨by decide, by decide, by decide⟩

theorem permitted_kate : Permitted (step byDefault) (Meets byDefault) {} (logsIn "kate") := by
  have silent : ∀ (s : Server) (turn : Turn), recorded byDefault s turn = none → Meets byDefault s turn :=
    fun s turn none user hears => nomatch none.symm.trans hears
  refine ⟨silent _ _ rfl, silent _ _ rfl, silent _ _ rfl, ?_, silent _ _ rfl, trivial⟩
  intro user hears
  have found : recorded byDefault (run (step byDefault) {} ((logsIn "kate").take 3)) (.tunnel 0 [0x80, 0]) =
      some { qsName := "kate", sState := .Authenticated } := by decide +kernel
  cases found.symm.trans hears
  exact ⟨rfl, plain_kate⟩

theorem opened_proper_sample :
    ((run (step byDefault) {} (logsIn "kate")).opened.map fun file => file.path) = ["/var/hcc/rec/kate.mams"] ∧
      ∀ file ∈ (run (step byDefault) {} (logsIn "kate")).opened,
        Proper (run (step byDefault) {} (logsIn "kate")).accepted file :=
  ⟨by decide +kernel, opened_proper permitted_kate⟩

/-- The default pattern takes a name that leads out of the directory. -/
theorem climber_escapes :
    validateUserName byDefault "../x" = true ∧
      ((run (step byDefault) {} (logsIn "../x")).opened.map fun file => file.path) = ["/var/hcc/rec/../x.mams"] ∧
      ¬ ∀ (settings : Settings) (turns : List Turn),
        ∀ file ∈ (run (step settings) {} turns).opened, Proper (run (step settings) {} turns).accepted file := by
  have path : ((run (step byDefault) {} (logsIn "../x")).opened.map fun file => file.path) =
      ["/var/hcc/rec/../x.mams"] := by decide +kernel
  refine ⟨by decide +kernel, path, fun always => ?_⟩
  have member : "/var/hcc/rec/../x.mams" ∈
      (run (step byDefault) {} (logsIn "../x")).opened.map fun file => file.path := by
    rw [path]
    exact List.mem_cons_self ..
  obtain ⟨file, opened, same⟩ := List.mem_map.mp member
  obtain ⟨base, here, noSlash, -, -⟩ := (always byDefault (logsIn "../x") file opened).inside
  have tail : base.toList = "../x.mams".toList := by
    have whole : (directory ++ base).toList = (directory ++ "../x.mams").toList := by
      rw [← here, same]
      rfl
    rw [String.toList_append, String.toList_append] at whole
    exact List.append_cancel_left whole
  exact noSlash (by rw [tail]; decide)

end DfStudy.RecordPaths
