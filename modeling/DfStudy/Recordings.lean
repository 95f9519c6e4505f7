import DfStudy.Support.LittleEndian

/-! The recordings of a voice server: the loop that appends frames to a file for each user, and the
parser that reads such a file back frame by frame. -/

namespace DfStudy.Recordings
open Support.LittleEndian

/-- A packet as the recording thread finds it: its length and its bytes are those of the queue entry, the
time is that of the write. -/
structure Entry where
  user : String
  timestamp : BitVec 64
  len : BitVec 32
  payload : List UInt8
  deriving DecidableEq

/-! `Server::recordLoop`. -/

/-- `c_str`, as `sprintf` reads it. -/
def cString (text : String) : String := String.ofList (text.toList.takeWhile (· ≠ '\x00'))

/-- What `sprintf` writes into the array `fileName`. -/
def fileName (user : String) : String := "/var/hcc/rec/" ++ cString user ++ ".mams"

/-- The size of the array. -/
def fileNameSize : Nat := 50

/-- The path fits into the array, with the NUL behind it. -/
def Fits (user : String) : Prop := (fileName user).utf8ByteSize + 1 ≤ fileNameSize

instance (user : String) : Decidable (Fits user) := inferInstanceAs (Decidable (_ ≤ _))

/-- The streams one run of the loop has open, by user, and what the files hold. -/
structure Recorder (File : Type) where
  fileMap : List String
  files : File → Option (List UInt8)

section
variable {File : Type} [DecidableEq File]

/-! A path leads to a file, or cannot be opened. Then what is written to the stream is lost. -/

variable (resolve : String → Option File)

def openStream (r : Recorder File) (user : String) : Recorder File where
  fileMap := user :: r.fileMap
  files := fun file => if resolve (fileName user) = some file then some ((r.files file).getD []) else r.files file

def write (r : Recorder File) (user : String) (bytes : List UInt8) : Recorder File :=
  { r with files := fun file =>
      if resolve (fileName user) = some file then (r.files file).map (· ++ bytes) else r.files file }

/-- The stream of a user is in the map, or it is opened. A write past the end of the array has no defined outcome: a
release build ends the process there. -/
def findStream (r : Recorder File) (user : String) : Option (Recorder File) :=
  if user ∈ r.fileMap then some r
  else if Fits user then some (openStream resolve r user)
  else none

def writeEntry (r : Recorder File) (entry : Entry) : Recorder File :=
  let r := write resolve r entry.user (bytesLE 8 entry.timestamp.toNat)
  let r := write resolve r entry.user (bytesLE 4 entry.len.toNat)
  write resolve r entry.user entry.payload

def recordEntry (r : Recorder File) (entry : Entry) : Option (Recorder File) :=
  (findStream resolve r entry.user).map fun r => writeEntry resolve r entry

/-- One run of the server, with the entries its loop handles. -/
def recordRun (files : File → Option (List UInt8)) (entries : List Entry) : Option (File → Option (List UInt8)) :=
  (entries.foldlM (recordEntry resolve) { fileMap := [], files }).map (·.files)

def recordRuns (runs : List (List Entry)) : Option (File → Option (List UInt8)) :=
  runs.foldlM (recordRun resolve) fun _ => none

end

/-! The main loop of mams-parser. -/

structure Frame where
  timestamp : Int
  len : Int
  chunk : List UInt8
  deriving DecidableEq

/-- A buffer of zeros into which bytes have been read. -/
def readInto (length : Nat) (bytes : List UInt8) : List UInt8 :=
  bytes.take length ++ List.replicate (length - bytes.length) 0

def readBigInt64LE (buffer : List UInt8) : Int := (BitVec.ofNat 64 (natLE (buffer.take 8))).toInt

def readInt32LE (buffer : List UInt8) (offset : Nat) : Int :=
  (BitVec.ofNat 32 (natLE ((buffer.drop offset).take 4))).toInt

/-- What the loop reads from the rest of a file. A negative length makes `Buffer.alloc` throw. -/
def mainLoop (rest : List UInt8) : Except String (List Frame) :=
  if rest = [] then .ok [] else
    let header := readInto 12 rest
    let timestamp := readBigInt64LE header
    let len := readInt32LE header 8
    if len < 0 then .error "ERR_OUT_OF_RANGE" else
      let body := rest.drop 12
      (mainLoop (body.drop len.toNat)).map ({ timestamp, len, chunk := readInto len.toNat body } :: ·)
termination_by rest.length
decreasing_by
  have some : 0 < rest.length := List.length_pos_iff.mpr (by assumption)
  simp only [List.length_drop]
  omega

/-! What is read is what was written. -/

def Entry.bytes (entry : Entry) : List UInt8 :=
  bytesLE 8 entry.timestamp.toNat ++ bytesLE 4 entry.len.toNat ++ entry.payload

def Entry.frame (entry : Entry) : Frame where
  timestamp := entry.timestamp.toInt
  len := entry.len.toInt
  chunk := entry.payload

/-- The payload is as long as the entry says. -/
def Entry.Sized (entry : Entry) : Prop := (entry.payload.length : Int) = entry.len.toInt

theorem readInto_exact {length : Nat} {bytes : List UInt8} (fits : length ≤ bytes.length) :
    readInto length bytes = bytes.take length := by
  unfold readInto
  rw [Nat.sub_eq_zero_of_le fits]
  simp

/-- The header of a frame, as it is read when at least so much of the frame is there. -/
theorem readHeader (entry : Entry) (rest : List UInt8) :
    readInto 12 (bytesLE 8 entry.timestamp.toNat ++ bytesLE 4 entry.len.toNat ++ rest) =
      bytesLE 8 entry.timestamp.toNat ++ bytesLE 4 entry.len.toNat := by
  rw [readInto_exact (by simp; omega), List.take_left' (by simp)]

theorem readHeader_timestamp (entry : Entry) :
    readBigInt64LE (bytesLE 8 entry.timestamp.toNat ++ bytesLE 4 entry.len.toNat) = entry.timestamp.toInt := by
  unfold readBigInt64LE
  rw [List.take_left' (by simp), natLE_bitVec entry.timestamp rfl, BitVec.ofNat_toNat, BitVec.setWidth_eq]

theorem readHeader_len (entry : Entry) :
    readInt32LE (bytesLE 8 entry.timestamp.toNat ++ bytesLE 4 entry.len.toNat) 8 = entry.len.toInt := by
  unfold readInt32LE
  rw [List.drop_left' (by simp), List.take_of_length_le (by simp), natLE_bitVec entry.len rfl, BitVec.ofNat_toNat,
    BitVec.setWidth_eq]

theorem Entry.bytes_ne_nil (entry : Entry) (rest : List UInt8) : entry.bytes ++ rest ≠ [] := by
  intro empty
  have short := congrArg List.length empty
  simp [Entry.bytes] at short

theorem Entry.bytes_drop (entry : Entry) (rest : List UInt8) :
    (entry.bytes ++ rest).drop 12 = entry.payload ++ rest := by
  unfold Entry.bytes
  rw [List.append_assoc, List.drop_left' (by simp)]

theorem mainLoop_bytes {entry : Entry} (sized : entry.Sized) (rest : List UInt8) :
    mainLoop (entry.bytes ++ rest) = (mainLoop rest).map (entry.frame :: ·) := by
  have header : readInto 12 (entry.bytes ++ rest) = bytesLE 8 entry.timestamp.toNat ++ bytesLE 4 entry.len.toNat := by
    unfold Entry.bytes
    rw [List.append_assoc, readHeader]
  have size : entry.len.toInt.toNat = entry.payload.length := by
    unfold Entry.Sized at sized
    omega
  rw [mainLoop, if_neg (entry.bytes_ne_nil rest)]
  dsimp only
  rw [header, entry.bytes_drop, readHeader_timestamp, readHeader_len, if_neg (by unfold Entry.Sized at sized; omega),
    size, List.drop_left' rfl, readInto_exact (by simp), List.take_left' rfl]
  rfl

theorem mainLoop_entries {entries : List Entry} (sized : ∀ entry ∈ entries, entry.Sized) :
    mainLoop (entries.flatMap Entry.bytes) = .ok (entries.map Entry.frame) := by
  induction entries with
  | nil =>
    rw [List.flatMap_nil, mainLoop]
    rfl
  | cons entry entries ih =>
    have later := ih fun other member => sized other (List.mem_cons_of_mem _ member)
    rw [List.flatMap_cons, mainLoop_bytes (sized entry (List.mem_cons_self ..)), later]
    rfl

/-! What the loop writes. -/

section
variable {File : Type} [DecidableEq File] {resolve : String → Option File}

/-- The content of a file after entries have been appended to it. -/
def appended (content : Option (List UInt8)) (entries : List Entry) : Option (List UInt8) :=
  entries.foldl (fun content entry => some (content.getD [] ++ entry.bytes)) content

theorem appended_append (content : Option (List UInt8)) (first second : List Entry) :
    appended content (first ++ second) = appended (appended content first) second := List.foldl_append ..

theorem appended_none (entries : List Entry) :
    appended none entries = if entries = [] then none else some (entries.flatMap Entry.bytes) := by
  have grows : ∀ (entries : List Entry) (bytes : List UInt8),
      appended (some bytes) entries = some (bytes ++ entries.flatMap Entry.bytes) := by
    intro entries
    induction entries with
    | nil => intro bytes; simp [appended]
    | cons entry entries ih =>
      intro bytes
      change appended (some (bytes ++ entry.bytes)) entries = _
      rw [ih, List.flatMap_cons, List.append_assoc]
  cases entries with
  | nil => rfl
  | cons entry entries =>
    change appended (some ([] ++ entry.bytes)) entries = _
    rw [grows, if_neg (by simp), List.flatMap_cons, List.nil_append]

theorem write_same {user : String} {file : File} (opens : resolve (fileName user) = some file) (r : Recorder File)
    (bytes : List UInt8) : (write resolve r user bytes).files file = (r.files file).map (· ++ bytes) :=
  if_pos opens

theorem write_other {user : String} {file : File} (apart : resolve (fileName user) ≠ some file) (r : Recorder File)
    (bytes : List UInt8) : (write resolve r user bytes).files file = r.files file :=
  if_neg apart

/-! Which names fit. -/

theorem fileName_size (user : String) : (fileName user).utf8ByteSize = (cString user).utf8ByteSize + 18 := by
  have front : "/var/hcc/rec/".utf8ByteSize = 13 := rfl
  have back : ".mams".utf8ByteSize = 5 := rfl
  unfold fileName
  rw [String.utf8ByteSize_append, String.utf8ByteSize_append, front, back]
  omega

theorem fits_iff (user : String) : Fits user ↔ (cString user).utf8ByteSize ≤ 31 := by
  unfold Fits fileNameSize
  rw [fileName_size]
  omega

/-- Every stream in the map has been opened under a path that fits. -/
def Named (r : Recorder File) : Prop := ∀ user ∈ r.fileMap, Fits user

theorem findStream_isSome_iff {r : Recorder File} (named : Named r) (user : String) :
    (findStream resolve r user).isSome ↔ Fits user := by
  unfold findStream
  by_cases known : user ∈ r.fileMap
  · rw [if_pos known]
    exact iff_of_true rfl (named user known)
  · rw [if_neg known]
    by_cases fits : Fits user
    · rw [if_pos fits]
      exact iff_of_true rfl fits
    · rw [if_neg fits]
      exact iff_of_false Bool.false_ne_true fits

theorem named_findStream {r ready : Recorder File} (named : Named r) {user : String}
    (found : findStream resolve r user = some ready) : Named ready := by
  unfold findStream at found
  by_cases known : user ∈ r.fileMap
  · rw [if_pos known] at found
    cases found
    exact named
  · rw [if_neg known] at found
    by_cases fits : Fits user
    · rw [if_pos fits] at found
      cases found
      intro other listed
      rcases List.mem_cons.mp listed with same | old
      · rw [same]
        exact fits
      · exact named other old
    · rw [if_neg fits] at found
      cases found

/-- One entry has a defined outcome exactly if its name fits. -/
theorem recordEntry_isSome_iff {r : Recorder File} (named : Named r) (entry : Entry) :
    (recordEntry resolve r entry).isSome ↔ Fits entry.user := by
  unfold recordEntry
  rw [Option.isSome_map]
  exact findStream_isSome_iff named entry.user

theorem named_recordEntry {r after : Recorder File} (named : Named r) {entry : Entry}
    (handled : recordEntry resolve r entry = some after) : Named after := by
  obtain ⟨ready, found, rfl⟩ := Option.map_eq_some_iff.mp handled
  have kept : Named ready := named_findStream named found
  exact kept

theorem entries_isSome_iff {r : Recorder File} (named : Named r) (entries : List Entry) :
    (entries.foldlM (recordEntry resolve) r).isSome ↔ ∀ entry ∈ entries, Fits entry.user := by
  induction entries generalizing r with
  | nil => simp
  | cons entry entries ih =>
    have first : (recordEntry resolve r entry).isSome ↔ Fits entry.user := recordEntry_isSome_iff named entry
    rw [List.foldlM_cons, List.forall_mem_cons, ← first]
    cases handled : recordEntry resolve r entry with
    | none => simp
    | some after => simpa using ih (named_recordEntry named handled)

theorem recordRun_isSome_iff (files : File → Option (List UInt8)) (entries : List Entry) :
    (recordRun resolve files entries).isSome ↔ ∀ entry ∈ entries, Fits entry.user := by
  unfold recordRun
  rw [Option.isSome_map]
  have named : Named ({ fileMap := [], files } : Recorder File) := fun _ listed => nomatch listed
  exact entries_isSome_iff named entries

theorem runs_isSome_iff (files : File → Option (List UInt8)) (runs : List (List Entry)) :
    (runs.foldlM (recordRun resolve) files).isSome ↔ ∀ run ∈ runs, ∀ entry ∈ run, Fits entry.user := by
  induction runs generalizing files with
  | nil => simp
  | cons run runs ih =>
    have first : (recordRun resolve files run).isSome ↔ ∀ entry ∈ run, Fits entry.user := recordRun_isSome_iff files run
    rw [List.foldlM_cons, List.forall_mem_cons, ← first]
    cases recordRun resolve files run with
    | none => simp
    | some after => simpa using ih after

/-! What one entry does to a file. -/

/-- The loop has a stream on a file only if there is such a file. -/
def Opened (user : String) (file : File) (r : Recorder File) : Prop := user ∈ r.fileMap → (r.files file).isSome

theorem findStream_cases {r ready : Recorder File} {user : String} (found : findStream resolve r user = some ready) :
    (user ∈ r.fileMap ∧ ready = r) ∨ ready = openStream resolve r user := by
  unfold findStream at found
  split at found
  next known => exact .inl ⟨known, (Option.some.inj found).symm⟩
  next =>
    split at found
    next => exact .inr (Option.some.inj found).symm
    next => cases found

theorem recordEntry_same {user : String} {file : File} (opens : resolve (fileName user) = some file)
    {r after : Recorder File} (opened : Opened user file r) {entry : Entry} (own : entry.user = user)
    (handled : recordEntry resolve r entry = some after) :
    after.files file = some ((r.files file).getD [] ++ entry.bytes) := by
  subst own
  obtain ⟨ready, found, rfl⟩ := Option.map_eq_some_iff.mp handled
  have there : ready.files file = some ((r.files file).getD []) := by
    rcases findStream_cases found with ⟨known, rfl⟩ | rfl
    · obtain ⟨content, there⟩ := Option.isSome_iff_exists.mp (opened known)
      rw [there]
      rfl
    · exact if_pos opens
  unfold writeEntry
  dsimp only
  rw [write_same opens, write_same opens, write_same opens, there]
  simp [Entry.bytes]

theorem recordEntry_other {file : File} {r after : Recorder File} {entry : Entry}
    (apart : resolve (fileName entry.user) ≠ some file) (handled : recordEntry resolve r entry = some after) :
    after.files file = r.files file := by
  obtain ⟨ready, found, rfl⟩ := Option.map_eq_some_iff.mp handled
  unfold writeEntry
  dsimp only
  rw [write_other apart, write_other apart, write_other apart]
  rcases findStream_cases found with ⟨-, rfl⟩ | rfl
  · rfl
  · exact if_neg apart

theorem recordEntry_opened {user : String} {file : File} (opens : resolve (fileName user) = some file)
    {r after : Recorder File} (opened : Opened user file r) {entry : Entry}
    (handled : recordEntry resolve r entry = some after) : Opened user file after := by
  intro listed
  by_cases own : entry.user = user
  · rw [recordEntry_same opens opened own handled]
    rfl
  · obtain ⟨ready, found, rfl⟩ := Option.map_eq_some_iff.mp handled
    have before : user ∈ r.fileMap := by
      change user ∈ ready.fileMap at listed
      rcases findStream_cases found with ⟨-, rfl⟩ | rfl
      · exact listed
      · rcases List.mem_cons.mp listed with same | old
        · exact absurd same.symm own
        · exact old
    obtain ⟨content, there⟩ := Option.isSome_iff_exists.mp (opened before)
    by_cases shared : resolve (fileName entry.user) = some file
    · unfold writeEntry
      dsimp only
      rw [write_same shared, write_same shared, write_same shared]
      rcases findStream_cases found with ⟨-, rfl⟩ | rfl
      · simp [there]
      · simp [openStream, shared]
    · rw [recordEntry_other shared handled, there]
      rfl

/-- A user whose file is no other user's finds his own entries in it. -/
theorem entries_own {user : String} {file : File} (opens : resolve (fileName user) = some file)
    {entries : List Entry} (own : ∀ entry ∈ entries, resolve (fileName entry.user) = some file → entry.user = user)
    {r after : Recorder File} (opened : Opened user file r)
    (handled : entries.foldlM (recordEntry resolve) r = some after) :
    after.files file = appended (r.files file) (entries.filter (·.user = user)) := by
  induction entries generalizing r with
  | nil =>
    cases handled
    rfl
  | cons entry entries ih =>
    rw [List.foldlM_cons] at handled
    obtain ⟨next, first, later⟩ := Option.bind_eq_some_iff.mp handled
    rw [ih (fun other member => own other (List.mem_cons_of_mem _ member)) (recordEntry_opened opens opened first) later]
    by_cases mine : entry.user = user
    · rw [recordEntry_same opens opened mine first, List.filter_cons_of_pos (by simpa using mine)]
      rfl
    · have apart : resolve (fileName entry.user) ≠ some file := fun same =>
        mine (own entry (List.mem_cons_self ..) same)
      rw [recordEntry_other apart first, List.filter_cons_of_neg (by simpa using mine)]

/-- A file that is nobody's stays as it is. -/
theorem entries_foreign {file : File} {entries : List Entry}
    (apart : ∀ entry ∈ entries, resolve (fileName entry.user) ≠ some file) {r after : Recorder File}
    (handled : entries.foldlM (recordEntry resolve) r = some after) : after.files file = r.files file := by
  induction entries generalizing r with
  | nil =>
    cases handled
    rfl
  | cons entry entries ih =>
    rw [List.foldlM_cons] at handled
    obtain ⟨next, first, later⟩ := Option.bind_eq_some_iff.mp handled
    rw [ih (fun other member => apart other (List.mem_cons_of_mem _ member)) later,
      recordEntry_other (apart entry (List.mem_cons_self ..)) first]

theorem runs_own {user : String} {file : File} (opens : resolve (fileName user) = some file)
    {runs : List (List Entry)}
    (own : ∀ run ∈ runs, ∀ entry ∈ run, resolve (fileName entry.user) = some file → entry.user = user)
    {files after : File → Option (List UInt8)} (handled : runs.foldlM (recordRun resolve) files = some after) :
    after file = appended (files file) (runs.flatten.filter (·.user = user)) := by
  induction runs generalizing files with
  | nil =>
    cases handled
    rfl
  | cons run runs ih =>
    rw [List.foldlM_cons] at handled
    obtain ⟨middle, first, later⟩ := Option.bind_eq_some_iff.mp handled
    obtain ⟨recorder, entries, rfl⟩ := Option.map_eq_some_iff.mp first
    have opened : Opened user file { fileMap := [], files } := fun listed => nomatch listed
    rw [ih (fun other member => own other (List.mem_cons_of_mem _ member)) later,
      entries_own opens (own run (List.mem_cons_self ..)) opened entries, List.flatten_cons, List.filter_append,
      appended_append]

/-! The two programs together. -/

/-- All runs have a defined outcome, and the parser reads from a user's own file the entries of that user, in order,
and ends where the file ends. -/
structure ReadBack (resolve : String → Option File) (runs : List (List Entry)) : Prop where
  handled : (recordRuns resolve runs).isSome
  reads : ∀ files, recordRuns resolve runs = some files → ∀ (user : String) (file : File),
    resolve (fileName user) = some file →
    (∀ run ∈ runs, ∀ entry ∈ run, resolve (fileName entry.user) = some file → entry.user = user) →
    ((∃ run ∈ runs, ∃ entry ∈ run, entry.user = user) → (files file).isSome) ∧
      ∀ content, files file = some content →
        mainLoop content = .ok ((runs.flatten.filter (·.user = user)).map Entry.frame)

/-- The file of a user with an entry is there, and is read back. -/
theorem own_reads {runs : List (List Entry)} (sized : ∀ run ∈ runs, ∀ entry ∈ run, entry.Sized)
    {files : File → Option (List UInt8)} (handled : recordRuns resolve runs = some files) {user : String} {file : File}
    (opens : resolve (fileName user) = some file)
    (own : ∀ run ∈ runs, ∀ entry ∈ run, resolve (fileName entry.user) = some file → entry.user = user) :
    ((∃ run ∈ runs, ∃ entry ∈ run, entry.user = user) → (files file).isSome) ∧
      ∀ content, files file = some content →
        mainLoop content = .ok ((runs.flatten.filter (·.user = user)).map Entry.frame) := by
  have written := runs_own opens own handled
  rw [appended_none] at written
  constructor
  · rintro ⟨run, among, entry, member, same⟩
    have some : runs.flatten.filter (·.user = user) ≠ [] := by
      intro empty
      have gone := List.filter_eq_nil_iff.mp empty entry (List.mem_flatten.mpr ⟨run, among, member⟩)
      simp [same] at gone
    rw [written, if_neg some]
    rfl
  · intro content there
    rw [written] at there
    split at there
    · cases there
    · cases there
      apply mainLoop_entries
      intro entry member
      obtain ⟨run, among, present⟩ := List.mem_flatten.mp (List.mem_filter.mp member).1
      exact sized run among entry present

/-- The recordings are read back exactly if every name, up to its first NUL, takes at most 31 bytes. -/
theorem recordings_readBack_iff {runs : List (List Entry)} (sized : ∀ run ∈ runs, ∀ entry ∈ run, entry.Sized) :
    ReadBack resolve runs ↔ ∀ run ∈ runs, ∀ entry ∈ run, (cString entry.user).utf8ByteSize ≤ 31 := by
  have outcome : (recordRuns resolve runs).isSome ↔ ∀ run ∈ runs, ∀ entry ∈ run, Fits entry.user :=
    runs_isSome_iff _ runs
  constructor
  · intro back run among entry member
    exact (fits_iff entry.user).mp (outcome.mp back.handled run among entry member)
  · intro short
    exact ⟨outcome.mpr fun run among entry member => (fits_iff entry.user).mpr (short run among entry member),
      fun _ handled _ _ opens own => own_reads sized handled opens own⟩

end

/-- Two users and two runs. -/
def sampleRuns : List (List Entry) :=
  [[{ user := "pete", timestamp := 1, len := 2, payload := [128, 7] },
      { user := "kate", timestamp := 2, len := 1, payload := [129] }],
    [{ user := "pete", timestamp := 3, len := 1, payload := [130] }]]

/-- The second name takes 32 bytes. -/
def longName : List (List Entry) :=
  [[{ user := "pete", timestamp := 1, len := 2, payload := [128, 7] },
    { user := "kate of the second shift, desk 7", timestamp := 2, len := 1, payload := [129] }]]

theorem recordings_readBack_sample : ReadBack some sampleRuns ∧
    ∃ files, recordRuns some sampleRuns = some files ∧ (files "/var/hcc/rec/pete.mams").isSome := by
  have sized : ∀ run ∈ sampleRuns, ∀ entry ∈ run, entry.Sized := by
    unfold Entry.Sized
    decide
  have back : ReadBack some sampleRuns := (recordings_readBack_iff sized).mpr (by decide)
  obtain ⟨files, handled⟩ := Option.isSome_iff_exists.mp back.handled
  exact ⟨back, files, handled, (back.reads files handled "pete" _ rfl (by decide)).1 (by decide)⟩

/-- The path of the second user overruns the array, and nothing can be said of what Pete's file holds. -/
theorem longName_overruns : (∀ run ∈ longName, ∀ entry ∈ run, entry.Sized) ∧ ¬ReadBack some longName := by
  constructor
  · unfold Entry.Sized
    decide
  · intro back
    exact absurd back.handled (by decide)

end DfStudy.Recordings
