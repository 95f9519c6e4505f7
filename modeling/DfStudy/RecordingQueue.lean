import DfStudy.Recordings
import DfStudy.Support.Machine

/-! Recording beside the voice thread. A queue entry holds the address of the packet, and the buffer there is
used again for the next one. The recording thread reads the bytes when it gets to the entry. -/

namespace DfStudy.RecordingQueue
open Recordings Support.Machine

structure AudioMsg where
  len : BitVec 32
  /-- The address of the packet. -/
  data : Nat
  user : String
  deriving DecidableEq

/-- Where the recording thread is in the body of `recordLoop`. -/
inductive Phase where
  | checking
  | polling
  | holding (msg : AudioMsg)
  | written
  | exited
  /-- The path did not fit into its array. -/
  | overrun
  deriving DecidableEq

structure Packet where
  user : String
  bytes : List UInt8
  deriving DecidableEq

structure Server (File : Type) where
  memory : Nat → List UInt8
  recordingQueue : List AudioMsg := []
  bRecording : Bool := true
  phase : Phase := .checking
  recorder : Recorder File
  /-- The packets `processMsg` has been called with, as they were then. The server itself does not keep them. -/
  passed : List Packet := []

inductive Turn where
  /-- Bytes arrive in a buffer: a packet, or whatever a freed message makes room for. -/
  | receive (address : Nat) (bytes : List UInt8)
  | processMsg (user : String) (address : Nat) (len : BitVec 32)
  | stopRecording
  /-- One step of the recording thread. -/
  | recordLoop (now : BitVec 64)

section
variable {File : Type} [DecidableEq File]

/-- The bytes a queue entry refers to now. -/
def Server.read (s : Server File) (msg : AudioMsg) : List UInt8 := (s.memory msg.data).take msg.len.toNat

def overwrite (old bytes : List UInt8) : List UInt8 := bytes ++ old.drop bytes.length

def receive (s : Server File) (address : Nat) (bytes : List UInt8) : Server File :=
  { s with memory := fun other => if other = address then overwrite (s.memory address) bytes else s.memory other }

/-- The first thing `processMsg` does. -/
def recordAudio (s : Server File) (user : String) (address : Nat) (len : BitVec 32) : Server File :=
  let msg : AudioMsg := { len, data := address, user }
  { s with
    recordingQueue := s.recordingQueue ++ [msg]
    passed := s.passed ++ [{ user, bytes := s.read msg }] }

variable (resolve : String → Option File)

def entryOf (s : Server File) (now : BitVec 64) (msg : AudioMsg) : Entry where
  user := msg.user
  timestamp := now
  len := msg.len
  payload := s.read msg

def recordLoop (s : Server File) (now : BitVec 64) : Server File :=
  match s.phase with
  | .checking => { s with phase := if s.bRecording then .polling else .exited }
  | .polling =>
    match s.recordingQueue with
    | [] => { s with phase := .checking }
    | msg :: _ => { s with phase := .holding msg }
  | .holding msg =>
    match recordEntry resolve s.recorder (entryOf s now msg) with
    | some recorder => { s with phase := .written, recorder }
    | none => { s with phase := .overrun }
  | .written => { s with phase := .checking, recordingQueue := s.recordingQueue.tail }
  | .exited => s
  | .overrun => s

def step (s : Server File) : Turn → Server File
  | .receive address bytes => receive s address bytes
  | .processMsg user address len => recordAudio s user address len
  | .stopRecording => { s with bRecording := false }
  | .recordLoop now => recordLoop resolve s now

/-- The server after `startRecording`, with the files of earlier runs. -/
def started (memory : Nat → List UInt8) (files : File → Option (List UInt8)) : Server File where
  memory := memory
  recorder := { fileMap := [], files }

/-- The entries whose packet has not been written. -/
def pending (s : Server File) : List AudioMsg :=
  match s.phase with
  | .written => s.recordingQueue.tail
  | _ => s.recordingQueue

/-- The user's path fits into its array and can be opened, and leads to no file of another user. -/
def OwnFile (s : Server File) (user : String) : Prop :=
  (cString user).utf8ByteSize ≤ 31 ∧ (resolve (fileName user)).isSome ∧
    ∀ packet ∈ s.passed, resolve (fileName packet.user) = resolve (fileName user) → packet.user = user

instance (s : Server File) (user : String) : Decidable (OwnFile resolve s user) :=
  inferInstanceAs (Decidable (_ ∧ _ ∧ _))

/-- No buffer changes under a packet that waits to be written, the loop ends on an empty queue, when no more packets
come in, and everyone whose packet is passed has a file. -/
def Keeps (s : Server File) : Turn → Prop
  | .receive address bytes => ∀ msg ∈ pending s, msg.data = address →
      (overwrite (s.memory address) bytes).take msg.len.toNat = s.read msg
  | .processMsg user _ _ => s.phase ≠ .exited ∧ OwnFile resolve s user
  | .stopRecording => True
  | .recordLoop _ => s.phase = .checking → s.bRecording = false → s.recordingQueue = []

instance (s : Server File) : ∀ turn, Decidable (Keeps resolve s turn)
  | .receive address bytes => inferInstanceAs (Decidable (∀ msg ∈ pending s, msg.data = address →
      (overwrite (s.memory address) bytes).take msg.len.toNat = s.read msg))
  | .processMsg user _ _ => inferInstanceAs (Decidable (s.phase ≠ .exited ∧ OwnFile resolve s user))
  | .stopRecording => .isTrue trivial
  | .recordLoop _ =>
    inferInstanceAs (Decidable (s.phase = .checking → s.bRecording = false → s.recordingQueue = []))

variable {resolve}

/-- Everyone whose packet was passed has a file of their own. -/
structure Separate (resolve : String → Option File) (passed : List Packet) : Prop where
  fits : ∀ packet ∈ passed, Fits packet.user
  opens : ∀ packet ∈ passed, (resolve (fileName packet.user)).isSome
  own : ∀ packet ∈ passed, ∀ other ∈ passed,
    resolve (fileName packet.user) = resolve (fileName other.user) → packet.user = other.user

omit [DecidableEq File] in
theorem separate_append {s : Server File} {user : String} (separate : Separate resolve s.passed)
    (ownFile : OwnFile resolve s user) (bytes : List UInt8) :
    Separate resolve (s.passed ++ [({ user, bytes } : Packet)]) := by
  obtain ⟨short, opens, own⟩ := ownFile
  constructor
  · intro packet member
    rcases List.mem_append.mp member with before | last
    · exact separate.fits packet before
    · rw [List.mem_singleton.mp last]
      exact (fits_iff user).mpr short
  · intro packet member
    rcases List.mem_append.mp member with before | last
    · exact separate.opens packet before
    · rw [List.mem_singleton.mp last]
      exact opens
  · intro packet member other among same
    rcases List.mem_append.mp member with before | last <;> rcases List.mem_append.mp among with before' | last'
    · exact separate.own packet before other before' same
    · rw [List.mem_singleton.mp last'] at same ⊢
      exact own packet before same
    · rw [List.mem_singleton.mp last] at same ⊢
      exact (own other before' same.symm).symm
    · rw [List.mem_singleton.mp last, List.mem_singleton.mp last']

/-- What has been written and what is waiting are together what was passed. -/
structure Faithful (resolve : String → Option File) (files : File → Option (List UInt8)) (s : Server File) : Prop where
  holding : ∀ msg, s.phase = .holding msg → s.recordingQueue.head? = some msg
  written : s.phase = .written → s.recordingQueue ≠ []
  exited : s.phase = .exited → s.recordingQueue = []
  runs : s.phase ≠ .overrun
  separate : Separate resolve s.passed
  complete : ∃ entries : List Entry,
    entries.foldlM (recordEntry resolve) { fileMap := [], files } = some s.recorder ∧
    entries.map (fun entry => { user := entry.user, bytes := entry.payload : Packet }) ++
      (pending s).map (fun msg => { user := msg.user, bytes := s.read msg }) = s.passed

theorem faithful_receive {files : File → Option (List UInt8)} {s : Server File} {address : Nat} {bytes : List UInt8}
    (faithful : Faithful resolve files s) (keeps : Keeps resolve s (.receive address bytes)) :
    Faithful resolve files (receive s address bytes) := by
  obtain ⟨entries, recorder, whole⟩ := faithful.complete
  have same : ∀ msg ∈ pending s, (receive s address bytes).read msg = s.read msg := by
    intro msg member
    by_cases here : msg.data = address
    · change (if msg.data = address then overwrite (s.memory address) bytes else s.memory msg.data).take _ = _
      rw [if_pos here]
      exact keeps msg member here
    · change (if msg.data = address then overwrite (s.memory address) bytes else s.memory msg.data).take _ = _
      rw [if_neg here]
      rfl
  refine ⟨faithful.holding, faithful.written, faithful.exited, faithful.runs, faithful.separate, entries, recorder, ?_⟩
  have reads : (pending s).map (fun msg => ({ user := msg.user, bytes := (receive s address bytes).read msg } : Packet)) =
      (pending s).map fun msg => { user := msg.user, bytes := s.read msg } :=
    List.map_congr_left fun msg member => by rw [same msg member]
  change _ ++ (pending s).map (fun msg => ({ user := msg.user, bytes := (receive s address bytes).read msg } : Packet)) = _
  rw [reads]
  exact whole

theorem faithful_recordAudio {files : File → Option (List UInt8)} {s : Server File} {user : String} {address : Nat}
    {len : BitVec 32} (faithful : Faithful resolve files s) (listens : s.phase ≠ .exited) (ownFile : OwnFile resolve s user) :
    Faithful resolve files (recordAudio s user address len) := by
  obtain ⟨entries, recorder, whole⟩ := faithful.complete
  let msg : AudioMsg := { len, data := address, user }
  constructor
  · intro held same
    have head := faithful.holding held same
    change (s.recordingQueue ++ [msg]).head? = some held
    cases queue : s.recordingQueue with
    | nil =>
      rw [queue] at head
      cases head
    | cons first rest =>
      rw [queue] at head
      exact head
  · exact fun _ empty => absurd (List.append_eq_nil_iff.mp empty).2 (List.cons_ne_nil _ _)
  · exact fun same => absurd same listens
  · exact faithful.runs
  · exact separate_append faithful.separate ownFile _
  · refine ⟨entries, recorder, ?_⟩
    have later : pending (recordAudio s user address len) = pending s ++ [msg] := by
      cases phase : s.phase with
      | written =>
        have behind : (s.recordingQueue ++ [msg]).tail = s.recordingQueue.tail ++ [msg] :=
          List.tail_append_of_ne_nil (faithful.written phase)
        simp only [pending, recordAudio, phase]
        exact behind
      | _ => simp only [pending, recordAudio, phase, msg]
    rw [later, List.map_append, ← List.append_assoc]
    change _ ++ (pending s).map (fun msg => ({ user := msg.user, bytes := s.read msg } : Packet)) ++ _ = _
    rw [whole]
    rfl

/-- What has been written was passed, so the next entry has a defined outcome too. -/
theorem recordEntry_next {files : File → Option (List UInt8)} {s : Server File} (separate : Separate resolve s.passed)
    {entries : List Entry} (recorder : entries.foldlM (recordEntry resolve) { fileMap := [], files } = some s.recorder)
    (written : ∀ entry ∈ entries, ∃ packet ∈ s.passed, packet.user = entry.user) {entry : Entry}
    (next : ∃ packet ∈ s.passed, packet.user = entry.user) :
    ∃ after, recordEntry resolve s.recorder entry = some after ∧
      (entries ++ [entry]).foldlM (recordEntry resolve) { fileMap := [], files } = some after := by
  have fits : ∀ other ∈ entries ++ [entry], Fits other.user := by
    intro other member
    have known : ∃ packet ∈ s.passed, packet.user = other.user := by
      rcases List.mem_append.mp member with before | last
      · exact written other before
      · rw [List.mem_singleton.mp last]
        exact next
    obtain ⟨packet, passed, same⟩ := known
    rw [← same]
    exact separate.fits packet passed
  have named : Named ({ fileMap := [], files } : Recorder File) := fun _ listed => nomatch listed
  have defined : ((entries ++ [entry]).foldlM (recordEntry resolve) { fileMap := [], files }).isSome :=
    (entries_isSome_iff named _).mpr fits
  obtain ⟨after, handled⟩ := Option.isSome_iff_exists.mp defined
  refine ⟨after, ?_, handled⟩
  rw [List.foldlM_append, recorder] at handled
  simpa using handled

theorem faithful_recordLoop {files : File → Option (List UInt8)} {s : Server File} {now : BitVec 64}
    (faithful : Faithful resolve files s) (keeps : s.phase = .checking → s.bRecording = false → s.recordingQueue = []) :
    Faithful resolve files (recordLoop resolve s now) := by
  have separate := faithful.separate
  obtain ⟨entries, recorder, whole⟩ := faithful.complete
  unfold pending at whole
  unfold recordLoop
  cases phase : s.phase with
  | checking =>
    rw [phase] at whole
    cases recording : s.bRecording with
    | true =>
      exact ⟨fun _ same => (nomatch same), fun same => (nomatch same), fun same => (nomatch same),
        fun same => (nomatch same), separate, entries, recorder, whole⟩
    | false =>
      exact ⟨fun _ same => (nomatch same), fun same => (nomatch same), fun _ => keeps phase recording,
        fun same => (nomatch same), separate, entries, recorder, whole⟩
  | polling =>
    rw [phase] at whole
    cases queue : s.recordingQueue with
    | nil =>
      rw [queue] at whole
      exact ⟨fun _ same => (nomatch same), fun same => (nomatch same), fun same => (nomatch same),
        fun same => (nomatch same), separate, entries, recorder, whole⟩
    | cons msg rest =>
      rw [queue] at whole
      refine ⟨fun held same => ?_, fun same => (nomatch same), fun same => (nomatch same), fun same => (nomatch same),
        separate, entries, recorder, whole⟩
      cases same
      rfl
  | holding msg =>
    rw [phase] at whole
    have head := faithful.holding msg phase
    obtain ⟨rest, queue⟩ : ∃ rest, s.recordingQueue = msg :: rest := by
      cases queue : s.recordingQueue with
      | nil =>
        rw [queue] at head
        cases head
      | cons first rest =>
        rw [queue] at head
        cases head
        exact ⟨rest, rfl⟩
    have written : ∀ entry ∈ entries, ∃ packet ∈ s.passed, packet.user = entry.user := by
      intro entry member
      refine ⟨{ user := entry.user, bytes := entry.payload }, ?_, rfl⟩
      rw [← whole]
      exact List.mem_append_left _ (List.mem_map_of_mem member)
    have next : ∃ packet ∈ s.passed, packet.user = (entryOf s now msg).user := by
      refine ⟨{ user := msg.user, bytes := s.read msg }, ?_, rfl⟩
      rw [← whole]
      refine List.mem_append_right _ (List.mem_map.mpr ⟨msg, ?_, rfl⟩)
      change msg ∈ s.recordingQueue
      rw [queue]
      exact List.mem_cons_self ..
    obtain ⟨after, handled, folded⟩ := recordEntry_next separate recorder written next
    dsimp only
    rw [handled]
    refine ⟨fun _ same => (nomatch same), fun _ => ?_, fun same => (nomatch same), fun same => (nomatch same), separate,
      entries ++ [entryOf s now msg], folded, ?_⟩
    · change s.recordingQueue ≠ []
      rw [queue]
      exact List.cons_ne_nil _ _
    · change _ ++ s.recordingQueue.tail.map (fun msg => ({ user := msg.user, bytes := s.read msg } : Packet)) = s.passed
      rw [← whole]
      change _ = _ ++ s.recordingQueue.map (fun msg => ({ user := msg.user, bytes := s.read msg } : Packet))
      rw [queue, List.map_append, List.append_assoc]
      rfl
  | written =>
    rw [phase] at whole
    exact ⟨fun _ same => (nomatch same), fun same => (nomatch same), fun same => (nomatch same),
      fun same => (nomatch same), separate, entries, recorder, whole⟩
  | exited => exact faithful
  | overrun => exact absurd phase faithful.runs

theorem faithful_step {files : File → Option (List UInt8)} {s : Server File} {turn : Turn}
    (faithful : Faithful resolve files s) (keeps : Keeps resolve s turn) :
    Faithful resolve files (step resolve s turn) := by
  cases turn with
  | receive address bytes => exact faithful_receive faithful keeps
  | processMsg user address len => exact faithful_recordAudio faithful keeps.1 keeps.2
  | stopRecording =>
    exact ⟨faithful.holding, faithful.written, faithful.exited, faithful.runs, faithful.separate, faithful.complete⟩
  | recordLoop now => exact faithful_recordLoop faithful keeps

theorem faithful_run (memory : Nat → List UInt8) (files : File → Option (List UInt8)) {turns : List Turn}
    (keeps : Permitted (step resolve) (Keeps resolve) (started memory files) turns) :
    Faithful resolve files (run (step resolve) (started memory files) turns) := by
  have nobody : Separate resolve [] :=
    ⟨fun _ member => (nomatch member), fun _ member => (nomatch member), fun _ member => (nomatch member)⟩
  have initial : Faithful resolve files (started memory files) :=
    ⟨fun _ same => (nomatch same), fun same => (nomatch same), fun same => (nomatch same), fun same => (nomatch same),
      nobody, [], rfl, rfl⟩
  exact run_invariant_of_permitted (Faithful resolve files) (fun _ _ kept faithful => faithful_step faithful kept) keeps
    initial

/-- The user's file holds, behind what was in it, entries whose payloads are together with what still waits the
packets that were passed for the user. -/
def Holds (files : File → Option (List UInt8)) (s : Server File) (user : String) (file : File) : Prop :=
  ∃ entries : List Entry, s.recorder.files file = appended (files file) entries ∧
    (∀ entry ∈ entries, entry.user = user) ∧
    entries.map (·.payload) ++ ((pending s).filter (·.user = user)).map s.read =
      (s.passed.filter (·.user = user)).map (·.bytes)

theorem holds_of_faithful {files : File → Option (List UInt8)} {s : Server File} (faithful : Faithful resolve files s)
    {packet : Packet} (passed : packet ∈ s.passed) :
    ∃ file, resolve (fileName packet.user) = some file ∧ Holds files s packet.user file := by
  obtain ⟨entries, recorder, whole⟩ := faithful.complete
  obtain ⟨file, opens⟩ := Option.isSome_iff_exists.mp (faithful.separate.opens packet passed)
  have among : ∀ entry ∈ entries, resolve (fileName entry.user) = some file → entry.user = packet.user := by
    intro entry member same
    have written : ({ user := entry.user, bytes := entry.payload } : Packet) ∈ s.passed := by
      rw [← whole]
      exact List.mem_append_left _ (List.mem_map_of_mem member)
    exact faithful.separate.own _ written packet passed (same.trans opens.symm)
  have opened : Opened packet.user file { fileMap := [], files } := fun listed => nomatch listed
  refine ⟨file, opens, entries.filter (·.user = packet.user), entries_own opens among opened recorder, ?_, ?_⟩
  · intro entry member
    simpa using (List.mem_filter.mp member).2
  · rw [← whole, List.filter_append, List.map_append, List.filter_map, List.filter_map, List.map_map, List.map_map]
    rfl

theorem foreign_of_faithful {files : File → Option (List UInt8)} {s : Server File} (faithful : Faithful resolve files s)
    {file : File} (foreign : ∀ packet ∈ s.passed, resolve (fileName packet.user) ≠ some file) :
    s.recorder.files file = files file := by
  obtain ⟨entries, recorder, whole⟩ := faithful.complete
  refine entries_foreign (fun entry member => ?_) recorder
  apply foreign { user := entry.user, bytes := entry.payload }
  rw [← whole]
  exact List.mem_append_left _ (List.mem_map_of_mem member)

/-- In every state no path has overrun its array, everyone whose packet was passed has a file that holds what was
passed, and no other file has been touched. Nothing waits when the loop has ended. -/
theorem recording_faithful (memory : Nat → List UInt8) (files : File → Option (List UInt8)) {turns : List Turn}
    (keeps : Permitted (step resolve) (Keeps resolve) (started memory files) turns) :
    (run (step resolve) (started memory files) turns).phase ≠ .overrun ∧
      (∀ packet ∈ (run (step resolve) (started memory files) turns).passed,
        ∃ file, resolve (fileName packet.user) = some file ∧
          Holds files (run (step resolve) (started memory files) turns) packet.user file) ∧
      (∀ file, (∀ packet ∈ (run (step resolve) (started memory files) turns).passed,
          resolve (fileName packet.user) ≠ some file) →
        (run (step resolve) (started memory files) turns).recorder.files file = files file) ∧
      ((run (step resolve) (started memory files) turns).phase = .exited →
        pending (run (step resolve) (started memory files) turns) = []) := by
  have faithful := faithful_run memory files keeps
  refine ⟨faithful.runs, fun packet passed => holds_of_faithful faithful passed,
    fun file foreign => foreign_of_faithful faithful foreign, fun exited => ?_⟩
  unfold pending
  rw [exited]
  exact faithful.exited exited

end

/-! Two packets in the receive buffer. -/

def sampleStart : Server String := started (fun _ => []) fun _ => none

/-- Each packet is written before the next one arrives. -/
def writtenAtOnce : List Turn :=
  [.receive 0 [128, 7], .processMsg "pete" 0 2, .recordLoop 1, .recordLoop 1, .recordLoop 1, .recordLoop 1,
    .receive 0 [129, 9], .processMsg "kate" 0 2, .recordLoop 2, .recordLoop 2, .recordLoop 2, .recordLoop 2,
    .stopRecording, .recordLoop 3]

/-- The second packet arrives before the first one is written. -/
def writtenLate : List Turn :=
  [.receive 0 [128, 7], .processMsg "pete" 0 2, .receive 0 [129, 9], .recordLoop 1, .recordLoop 1, .recordLoop 1,
    .recordLoop 1, .stopRecording, .recordLoop 2]

/-- The loop is told to stop before it gets to the packet. -/
def stoppedEarly : List Turn := [.receive 0 [128, 7], .processMsg "pete" 0 2, .stopRecording, .recordLoop 1]

def petesFile : String := "/var/hcc/rec/pete.mams"

theorem recording_faithful_sample : ∃ entries : List Entry,
    (run (step some) sampleStart writtenAtOnce).recorder.files petesFile = appended none entries ∧
      entries.map (·.payload) = [[128, 7]] := by
  have keeps : Permitted (step some) (Keeps some) sampleStart writtenAtOnce := by decide
  obtain ⟨_, held, _, nothing⟩ := recording_faithful (fun _ => []) (fun _ => none) keeps
  have exited : (run (step some) sampleStart writtenAtOnce).phase = .exited := by decide
  have empty : pending (run (step some) sampleStart writtenAtOnce) = [] := nothing exited
  have first : ({ user := "pete", bytes := [128, 7] } : Packet) ∈ (run (step some) sampleStart writtenAtOnce).passed := by
    decide
  obtain ⟨file, opens, entries, content, _, payloads⟩ := held _ first
  have same : petesFile = file := Option.some.inj opens
  have passed : ((run (step some) sampleStart writtenAtOnce).passed.filter (·.user = "pete")).map (·.bytes) =
      [[128, 7]] := by decide
  subst same
  refine ⟨entries, content, ?_⟩
  change entries.map (·.payload) ++ ((pending (run (step some) sampleStart writtenAtOnce)).filter _).map _ = _ at payloads
  rw [empty, List.filter_nil, List.map_nil, List.append_nil] at payloads
  exact payloads.trans passed

/-- Pete's file holds what Kate said, or nothing. -/
theorem packet_lost :
    ((run (step some) sampleStart writtenLate).phase = .exited ∧
      (run (step some) sampleStart writtenLate).passed = [{ user := "pete", bytes := [128, 7] }] ∧
      ∃ content, (run (step some) sampleStart writtenLate).recorder.files petesFile = some content ∧
        mainLoop content = .ok [{ timestamp := 1, len := 2, chunk := [129, 9] }]) ∧
    (run (step some) sampleStart stoppedEarly).phase = .exited ∧
      (run (step some) sampleStart stoppedEarly).passed = [{ user := "pete", bytes := [128, 7] }] ∧
      (run (step some) sampleStart stoppedEarly).recorder.files petesFile = none := by
  let entry : Entry := { user := "pete", timestamp := 1, len := 2, payload := [129, 9] }
  have frames : mainLoop ([entry].flatMap Entry.bytes) = .ok ([entry].map Entry.frame) := by
    apply mainLoop_entries
    intro other member
    rw [List.mem_singleton.mp member]
    unfold Entry.Sized
    decide
  have written : (run (step some) sampleStart writtenLate).recorder.files petesFile =
      some ([entry].flatMap Entry.bytes) := by decide
  exact ⟨⟨by decide, by decide, _, written, frames⟩, by decide, by decide, by decide⟩

end DfStudy.RecordingQueue
