import DfStudy.Processes
import DfStudy.Support.Machine

/-! Who takes part in which session, and which session has which port. The table `study_session` keeps the values of
a column apart, and not those of two columns. -/

namespace DfStudy.SessionUniqueness
open Support.Machine

/-! The table. A value that a request leaves out is NULL, and a NULL is distinct from every other one. -/

section
variable {Participant Port : Type}

structure Params (Participant Port : Type) where
  blueParticipant : Option Participant
  redParticipant : Option Participant
  grpcPort : Option Port
  murmurPort : Option Port
  deriving DecidableEq

structure Row (Participant Port : Type) extends Params Participant Port where
  sessionId : Nat
  deriving DecidableEq

inductive Colour where
  | blue
  | red
  deriving DecidableEq

def Params.participant (params : Params Participant Port) : Colour → Option Participant
  | .blue => params.blueParticipant
  | .red => params.redParticipant

inductive Use where
  | grpc
  | murmur
  deriving DecidableEq

def Params.port (params : Params Participant Port) : Use → Option Port
  | .grpc => params.grpcPort
  | .murmur => params.murmurPort

variable [DecidableEq Participant] [DecidableEq Port]

/-- What a UNIQUE column refuses to hold twice. -/
def same {Value : Type} [DecidableEq Value] (stored new : Option Value) : Bool := stored.isSome && stored = new

def conflicts (row : Row Participant Port) (params : Params Participant Port) : Bool :=
  same row.blueParticipant params.blueParticipant || same row.redParticipant params.redParticipant ||
    same row.grpcPort params.grpcPort || same row.murmurPort params.murmurPort

/-- The statements on the table: of `createSession`, and of `removeSession`, which also takes back a session that
could not be created in full. -/
inductive Statement (Participant Port : Type) where
  | insert (params : Params Participant Port)
  | delete (sessionId : Nat)

def nextRow (table : List (Row Participant Port)) (params : Params Participant Port) : Row Participant Port :=
  { params with sessionId := Tables.nextRowId (table.map (·.sessionId)) }

def accepts (table : List (Row Participant Port)) (params : Params Participant Port) : Bool :=
  !table.any (conflicts · params)

def step (table : List (Row Participant Port)) : Statement Participant Port → List (Row Participant Port)
  | .insert params => if accepts table params then table ++ [nextRow table params] else table
  | .delete sessionId => table.filter (·.sessionId ≠ sessionId)

def getPlayerSession (table : List (Row Participant Port)) (playerId : Participant) : Option (Row Participant Port) :=
  table.find? fun row => row.blueParticipant = some playerId ∨ row.redParticipant = some playerId

end

/-! Values over several columns of one kind. -/

section
variable {Entry Slot Value : Type} (column : Entry → Slot → Option Value)

/-- A value is in one slot of one entry at most. -/
def OneSlot (table : List Entry) : Prop :=
  ∀ row ∈ table, ∀ other ∈ table, ∀ slot slot' value, column row slot = some value → column other slot' = some value →
    row = other ∧ slot = slot'

/-- A value of the new entry is in another slot of this entry, or in another slot of one in the table. -/
def Crossed (table : List Entry) (new : Entry) : Prop :=
  ∃ slot slot' value, slot ≠ slot' ∧ column new slot = some value ∧
    (column new slot' = some value ∨ ∃ row ∈ table, column row slot' = some value)

variable {column}

theorem oneSlot_sublist {table smaller : List Entry} (unique : OneSlot column table) (part : smaller.Sublist table) :
    OneSlot column smaller :=
  fun row member other member' => unique row (part.mem member) other (part.mem member')

/-- The new entry repeats no value within a column. -/
theorem oneSlot_append {table : List Entry} {new : Entry} (unique : OneSlot column table) (fresh : new ∉ table)
    (apart : ∀ row ∈ table, ∀ slot value, column row slot = some value → column new slot ≠ some value) :
    OneSlot column (table ++ [new]) ↔ ¬Crossed column table new := by
  constructor
  · rintro one ⟨slot, slot', value, differ, here, there | ⟨row, member, there⟩⟩
    · have last : new ∈ table ++ [new] := List.mem_append_right _ List.mem_cons_self
      exact differ (one new last new last slot slot' value here there).2
    · have last : new ∈ table ++ [new] := List.mem_append_right _ List.mem_cons_self
      have known := (one new last row (List.mem_append_left _ member) slot slot' value here there).1
      exact fresh (known ▸ member)
  · intro straight row member other member' slot slot' value here there
    have once : ∀ row ∈ table, column row slot = some value → column new slot' = some value → False := by
      intro row member here there
      by_cases equal : slot = slot'
      · exact apart row member slot value here (equal ▸ there)
      · exact straight ⟨slot', slot, value, Ne.symm equal, there, .inr ⟨row, member, here⟩⟩
    have once' : ∀ row ∈ table, column row slot' = some value → column new slot = some value → False := by
      intro row member here there
      by_cases equal : slot = slot'
      · exact apart row member slot' value here (equal ▸ there)
      · exact straight ⟨slot, slot', value, equal, there, .inr ⟨row, member, here⟩⟩
    rcases List.mem_append.mp member with old | last <;> rcases List.mem_append.mp member' with old' | last'
    · exact unique row old other old' slot slot' value here there
    · rw [List.mem_singleton.mp last'] at there
      exact (once row old here there).elim
    · rw [List.mem_singleton.mp last] at here
      exact (once' other old' there here).elim
    · rw [List.mem_singleton.mp last] at here
      rw [List.mem_singleton.mp last'] at there
      refine ⟨(List.mem_singleton.mp last).trans (List.mem_singleton.mp last').symm, ?_⟩
      by_contra differ
      exact straight ⟨slot, slot', value, differ, here, .inl there⟩

end

/-! What is asked of the table. -/

section
variable {Participant Port : Type} [DecidableEq Participant] [DecidableEq Port]

/-- What the table is expected to keep. Each row is a session with a container, which publishes both of its ports. -/
structure GloballyUnique (table : List (Row Participant Port)) : Prop where
  participants : OneSlot (fun row : Row Participant Port => row.participant) table
  ports : OneSlot (fun row : Row Participant Port => row.port) table
  playerSession : ∀ row ∈ table, ∀ colour playerId, row.participant colour = some playerId →
    getPlayerSession table playerId = some row
  opponents : ∀ row ∈ table, ∀ playerId, row.blueParticipant = some playerId → row.redParticipant ≠ some playerId

omit [DecidableEq Port] in
/-- The slots alone imply the rest. -/
theorem globallyUnique_iff {table : List (Row Participant Port)} : GloballyUnique table ↔
    OneSlot (fun row : Row Participant Port => row.participant) table ∧
      OneSlot (fun row : Row Participant Port => row.port) table := by
  refine ⟨fun unique => ⟨unique.participants, unique.ports⟩, fun ⟨participants, ports⟩ => ⟨participants, ports, ?_, ?_⟩⟩
  · intro row member colour playerId plays
    have listed : (getPlayerSession table playerId).isSome := by
      refine List.find?_isSome.mpr ⟨row, member, ?_⟩
      cases colour with
      | blue => simpa using .inl plays
      | red => simpa using .inr plays
    obtain ⟨found, got⟩ := Option.isSome_iff_exists.mp listed
    have found_plays : found.blueParticipant = some playerId ∨ found.redParticipant = some playerId := by
      simpa using List.find?_some got
    have here := List.mem_of_find?_eq_some got
    rw [got]
    rcases found_plays with blue | red
    · rw [(participants found here row member .blue colour playerId blue plays).1]
    · rw [(participants found here row member .red colour playerId red plays).1]
  · intro row member playerId blue red
    cases (participants row member row member .blue .red playerId blue red).2

/-- A value of an accepted insert is not in the other column of its kind as well. -/
def Straight (table : List (Row Participant Port)) : Statement Participant Port → Prop
  | .insert params => accepts table params = true →
      ¬Crossed (fun row : Row Participant Port => row.participant) table (nextRow table params) ∧
      ¬Crossed (fun row : Row Participant Port => row.port) table (nextRow table params)
  | .delete _ => True

omit [DecidableEq Participant] [DecidableEq Port] in
theorem nextRow_fresh (table : List (Row Participant Port)) (params : Params Participant Port) :
    nextRow table params ∉ table := by
  intro member
  have below := Tables.lt_nextRowId (List.mem_map_of_mem (f := fun row : Row Participant Port => row.sessionId) member)
  exact Nat.lt_irrefl _ below

theorem not_same {Value : Type} [DecidableEq Value] {stored new : Option Value} (apart : same stored new = false)
    {value : Value} (holds : stored = some value) : new ≠ some value := by
  rintro rfl
  rw [holds] at apart
  simp [same] at apart

/-- The UNIQUE columns. -/
theorem accepts_apart {table : List (Row Participant Port)} {params : Params Participant Port}
    (accepted : accepts table params = true) {row : Row Participant Port} (member : row ∈ table) :
    (∀ slot value, row.participant slot = some value → params.participant slot ≠ some value) ∧
      ∀ slot value, row.port slot = some value → params.port slot ≠ some value := by
  have none_ : table.any (conflicts · params) = false := by simpa [accepts] using accepted
  have clear : conflicts row params = false := by
    simpa using List.any_eq_false.mp none_ row member
  unfold conflicts at clear
  simp only [Bool.or_eq_false_iff] at clear
  obtain ⟨⟨⟨blue, red⟩, grpc⟩, murmur⟩ := clear
  constructor
  · intro slot value holds
    cases slot with
    | blue => exact not_same blue holds
    | red => exact not_same red holds
  · intro slot value holds
    cases slot with
    | grpc => exact not_same grpc holds
    | murmur => exact not_same murmur holds

theorem step_unique_iff {table : List (Row Participant Port)} (unique : GloballyUnique table)
    (statement : Statement Participant Port) : GloballyUnique (step table statement) ↔ Straight table statement := by
  have slots := globallyUnique_iff.mp unique
  cases statement with
  | insert params =>
    by_cases accepted : accepts table params = true
    · have appended : step table (.insert params) = table ++ [nextRow table params] := if_pos accepted
      have fresh := nextRow_fresh table params
      rw [appended, globallyUnique_iff,
        oneSlot_append slots.1 fresh fun row member => (accepts_apart accepted member).1,
        oneSlot_append slots.2 fresh fun row member => (accepts_apart accepted member).2]
      exact ⟨fun straight _ => straight, fun straight => straight accepted⟩
    · have kept : step table (.insert params) = table := if_neg accepted
      rw [kept]
      exact ⟨fun _ accepts => absurd accepts accepted, fun _ => unique⟩
  | delete sessionId =>
    refine ⟨fun _ => trivial, fun _ => globallyUnique_iff.mpr ?_⟩
    have part : (step table (.delete sessionId)).Sublist table := List.filter_sublist
    exact ⟨oneSlot_sublist slots.1 part, oneSlot_sublist slots.2 part⟩

/-- Every state a run goes through, from a table that is as expected. -/
theorem run_unique_iff {table : List (Row Participant Port)} (unique : GloballyUnique table)
    (statements : List (Statement Participant Port)) :
    (∀ taken, taken <+: statements → GloballyUnique (run step table taken)) ↔ Permitted step Straight table statements := by
  induction statements generalizing table with
  | nil =>
    refine ⟨fun _ => trivial, fun _ taken ends => ?_⟩
    rw [List.prefix_nil.mp ends]
    exact unique
  | cons statement rest ih =>
    have once := step_unique_iff unique statement
    constructor
    · intro always
      have after := always [statement] ⟨rest, rfl⟩
      refine ⟨once.mp after, (ih after).mp fun taken ends => ?_⟩
      exact always (statement :: taken) (List.prefix_cons_inj statement |>.mpr ends)
    · rintro ⟨here, later⟩ taken ends
      cases taken with
      | nil => exact unique
      | cons first taken =>
        obtain ⟨rfl, later_ends⟩ := List.cons_prefix_cons.mp ends
        exact (ih (once.mpr here)).mpr later taken later_ends

/-- From the table as it is created. -/
theorem globally_unique_iff (statements : List (Statement Participant Port)) :
    (∀ taken, taken <+: statements → GloballyUnique (run step [] taken)) ↔ Permitted step Straight [] statements := by
  have empty : GloballyUnique ([] : List (Row Participant Port)) :=
    globallyUnique_iff.mpr ⟨nofun, nofun⟩
  exact run_unique_iff empty statements

end

/-! The statements are all that the server does to the table. -/

def paramsOf (params : Tables.CreateSessionParams) : Params String Nat where
  blueParticipant := some params.blueParticipant
  redParticipant := some params.redParticipant
  grpcPort := some params.grpcPort
  murmurPort := some params.murmurPort

def rowOf (session : Tables.Session) : Row String Nat :=
  { paramsOf session.toCreateSessionParams with sessionId := session.sessionId }

def tableOf (db : Tables.Database) : List (Row String Nat) := db.sessions.map rowOf

theorem same_some {Value : Type} [DecidableEq Value] (stored new : Value) :
    same (some stored) (some new) = decide (stored = new) := by
  simp [same]

theorem insertSession_step (db : Tables.Database) (params : Tables.CreateSessionParams) :
    match db.insertSession params with
    | .error _ => step (tableOf db) (.insert (paramsOf params)) = tableOf db
    | .ok (_, after) => step (tableOf db) (.insert (paramsOf params)) = tableOf after := by
  have asked : (db.sessions.any fun row => row.blueParticipant = params.blueParticipant ∨
      row.redParticipant = params.redParticipant ∨ row.grpcPort = params.grpcPort ∨
      row.murmurPort = params.murmurPort) = !accepts (tableOf db) (paramsOf params) := by
    unfold accepts tableOf
    rw [Bool.not_not, List.any_map]
    congr 1
    funext row
    simp [conflicts, rowOf, paramsOf, same_some, Bool.or_assoc]
  unfold Tables.Database.insertSession
  rw [asked]
  by_cases accepted : accepts (tableOf db) (paramsOf params) = true
  · have appended : step (tableOf db) (.insert (paramsOf params)) =
        tableOf db ++ [nextRow (tableOf db) (paramsOf params)] := if_pos accepted
    rw [if_neg (by simp [accepted])]
    dsimp only
    rw [appended]
    simp [tableOf, nextRow, rowOf, Function.comp_def]
  · rw [if_pos (by simp [accepted])]
    exact if_neg accepted

theorem perform_statement (host : Servers.Host) (fails : Bool) (op : Servers.Op) (s : Servers.Server) :
    tableOf (Servers.perform host fails op s).2.db = tableOf s.db ∨
      ∃ statement, tableOf (Servers.perform host fails op s).2.db = step (tableOf s.db) statement := by
  rcases ServerFrames.perform_sessions host fails op s with kept | ⟨params, _, rfl, -⟩ | ⟨sessionId, -, filtered⟩
  · left
    unfold tableOf
    rw [kept]
  · change tableOf (Servers.statement fails s (s.db.insertSession params)).2.db = _ ∨ _
    rcases ServerFrames.statement_cases fails s (s.db.insertSession params) with
      ⟨message, failed⟩ | ⟨value, db, inserted, done⟩
    · left
      rw [failed]
    · right
      refine ⟨.insert (paramsOf params), ?_⟩
      have stored := insertSession_step s.db params
      rw [inserted] at stored
      change tableOf (Servers.statement fails s (s.db.insertSession params)).2.db = _
      rw [done]
      exact stored.symm
  · right
    refine ⟨.delete sessionId, ?_⟩
    unfold tableOf
    rw [filtered]
    change _ = (s.db.sessions.map rowOf).filter (·.sessionId ≠ sessionId)
    rw [List.filter_map]
    rfl

theorem step_statement (host : Servers.Host) (p : Processes.Process) (turn : Processes.Turn) :
    ∃ statements, tableOf (Processes.step host p turn).server.db = run step (tableOf p.server.db) statements := by
  have played : tableOf (Processes.play p.server turn).db = tableOf p.server.db := by
    unfold tableOf
    rw [(Processes.played p.server turn).frame.2.2]
  rcases Processes.step_cases host p turn with same | ⟨_, fails, _, op, _, _, _, _, same⟩ | ⟨_, same⟩ | same
  · exact ⟨[], by rw [same]; rfl⟩
  · rw [same]
    rcases perform_statement host fails op p.server with kept | ⟨statement, stepped⟩
    · exact ⟨[], kept⟩
    · exact ⟨[statement], stepped⟩
  · exact ⟨[], by rw [same]; exact played⟩
  · exact ⟨[], by rw [same]; exact played⟩

/-- Whatever is asked of the server, and however the requests interleave. -/
theorem run_statements (host : Servers.Host) (p : Processes.Process) (turns : List Processes.Turn) :
    ∃ statements, tableOf (run (Processes.step host) p turns).server.db = run step (tableOf p.server.db) statements := by
  induction turns generalizing p with
  | nil => exact ⟨[], rfl⟩
  | cons turn turns ih =>
    obtain ⟨first, stepped⟩ := step_statement host p turn
    obtain ⟨rest, ran⟩ := ih (Processes.step host p turn)
    exact ⟨first ++ rest, by rw [run_cons, ran, stepped, run_append]⟩

/-- A session in which Pete plays against himself. -/
def ownOpponent : Tables.CreateSessionParams where
  blueParticipant := "pete"
  redParticipant := "pete"
  grpcPort := 50051
  murmurPort := 64738

theorem ownOpponent_stored :
    (run (Processes.step Processes.sampleHost) Processes.sampleStart
      [.create ownOpponent, .advance 0 false]).server.db.sessions = [{ ownOpponent with sessionId := 1 }] ∧
    ¬GloballyUnique (run step [] [.insert (paramsOf ownOpponent)]) := by
  have stored : run step [] [.insert (paramsOf ownOpponent)] = [{ paramsOf ownOpponent with sessionId := 1 }] := by
    decide
  refine ⟨by decide +kernel, fun unique => ?_⟩
  rw [stored] at unique
  exact unique.opponents _ List.mem_cons_self "pete" rfl rfl

end DfStudy.SessionUniqueness
