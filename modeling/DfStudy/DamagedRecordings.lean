import DfStudy.Playback

/-! Recordings of arbitrary client packets that may end within a frame, and what is played of them. -/

namespace DfStudy.DamagedRecordings
open Support.LittleEndian Support.Machine Recordings MamsParser Playback

/-! The file. -/

/-- What is on disk when the recorder is killed: whole frames, and so many bytes of the next one. -/
structure Recording where
  complete : List Entry
  next : Entry
  count : Nat
  complete_sized : ∀ entry ∈ complete, entry.Sized
  next_sized : next.Sized
  count_lt : count < next.bytes.length

namespace Recording

def cut (recording : Recording) : List UInt8 := recording.next.bytes.take recording.count

def file (recording : Recording) : List UInt8 := recording.complete.flatMap Entry.bytes ++ recording.cut

end Recording

theorem bytes_length (entry : Entry) : entry.bytes.length = 12 + entry.payload.length := by
  simp [Entry.bytes]
  omega

/-- A frame without payload. -/
def emptyEntry : Entry where
  user := ""
  timestamp := 0
  len := 0
  payload := []

/-- Every beginning of what is written is such a file. -/
theorem recording_of_prefix {entries : List Entry} (sized : ∀ entry ∈ entries, entry.Sized) {file : List UInt8}
    (begins : file <+: entries.flatMap Entry.bytes) :
    ∃ recording : Recording, recording.file = file ∧ recording.complete <+: entries := by
  induction entries generalizing file with
  | nil =>
    have empty : file = [] := List.prefix_nil.mp begins
    exact ⟨⟨[], emptyEntry, 0, by simp, rfl, by decide⟩, empty.symm, List.nil_prefix⟩
  | cons entry entries ih =>
    have here := sized entry (List.mem_cons_self ..)
    rw [List.flatMap_cons] at begins
    by_cases whole : entry.bytes.length ≤ file.length
    · obtain ⟨rest, same⟩ : entry.bytes <+: file :=
        List.prefix_of_prefix_length_le (List.prefix_append ..) begins whole
      rw [← same, List.prefix_append_right_inj] at begins
      obtain ⟨recording, behind, first⟩ := ih (fun other member => sized other (List.mem_cons_of_mem _ member)) begins
      have complete_sized : ∀ other ∈ entry :: recording.complete, other.Sized := by
        intro other member
        rcases List.mem_cons.mp member with head | later
        · exact head ▸ here
        · exact recording.complete_sized other later
      refine ⟨{ recording with complete := entry :: recording.complete, complete_sized }, ?_, ?_⟩
      · rw [← same, ← behind]
        exact List.append_assoc ..
      · exact List.cons_prefix_cons.mpr ⟨rfl, first⟩
    · have inside : file <+: entry.bytes :=
        List.prefix_of_prefix_length_le begins (List.prefix_append ..) (by omega)
      exact ⟨⟨[], entry, file.length, by simp, here, by omega⟩, (List.prefix_iff_eq_take.mp inside).symm,
        List.nil_prefix⟩

/-! What the loop reads of it. -/

theorem nextLen_entry {entry : Entry} (rest : List UInt8) : nextLen (entry.bytes ++ rest) = entry.len.toInt := by
  unfold nextLen Entry.bytes
  rw [List.append_assoc, readHeader, readHeader_len]

theorem sized_toNat {entry : Entry} (sized : entry.Sized) : entry.len.toInt.toNat = entry.payload.length := by
  unfold Entry.Sized at sized
  omega

theorem nextChunk_entry {entry : Entry} (sized : entry.Sized) (rest : List UInt8) :
    nextChunk (entry.bytes ++ rest) = entry.payload := by
  unfold nextChunk
  rw [nextLen_entry, sized_toNat sized, entry.bytes_drop, readInto_exact (by simp), List.take_left' rfl]

theorem behindFrame_entry {entry : Entry} (sized : entry.Sized) (rest : List UInt8) :
    behindFrame (entry.bytes ++ rest) = rest := by
  unfold behindFrame
  rw [nextLen_entry, sized_toNat sized, entry.bytes_drop, List.drop_left' rfl]

theorem nextLen_entry_pos {entry : Entry} (sized : entry.Sized) (rest : List UInt8) :
    ¬ nextLen (entry.bytes ++ rest) < 0 := by
  rw [nextLen_entry]
  unfold Entry.Sized at sized
  omega

/-- What is missing of a header is read as zeros, so the length does not become negative. -/
theorem nextLen_short {rest : List UInt8} (short : rest.length < 12) : ¬ nextLen rest < 0 := by
  have low : natLE (((readInto 12 rest).drop 8).take 4) < 2 ^ 24 := by
    have tail : ((readInto 12 rest).drop 8).take 4 = rest.drop 8 ++ List.replicate (4 - (rest.length - 8)) 0 := by
      have whole : rest.take 12 = rest := List.take_of_length_le (by omega)
      have zeros : 12 - rest.length - (8 - rest.length) = 4 - (rest.length - 8) := by omega
      unfold readInto
      rw [whole, List.drop_append, List.drop_replicate, zeros]
      exact List.take_of_length_le (by simp; omega)
    have bound := natLE_lt (rest.drop 8)
    rw [tail, natLE_zeros]
    calc
      _ < 256 ^ (rest.drop 8).length := bound
      _ ≤ 256 ^ 3 := Nat.pow_le_pow_right (by decide) (by rw [List.length_drop]; omega)
  unfold nextLen readInt32LE
  rw [toInt_ofNat (by omega)]
  omega

namespace Recording

theorem cut_length (recording : Recording) : recording.cut.length = recording.count :=
  List.length_take_of_le (Nat.le_of_lt recording.count_lt)

/-- A cut behind the header leaves the length as it is. -/
theorem nextLen_cut (recording : Recording) (header : 12 ≤ recording.count) :
    nextLen recording.cut = recording.next.len.toInt := by
  have split : recording.cut = bytesLE 8 recording.next.timestamp.toNat ++ bytesLE 4 recording.next.len.toNat ++
      recording.next.payload.take (recording.count - 12) := by
    unfold cut Entry.bytes
    rw [List.take_append, List.take_of_length_le (by simp; omega)]
    congr 2
  unfold nextLen
  rw [split, readHeader, readHeader_len]

theorem nextLen_cut_pos (recording : Recording) : ¬ nextLen recording.cut < 0 := by
  have sized := recording.next_sized
  unfold Entry.Sized at sized
  by_cases header : 12 ≤ recording.count
  · rw [recording.nextLen_cut header]
    omega
  · exact nextLen_short (by rw [recording.cut_length]; omega)

/-- The frame that has been cut off is the last one. -/
theorem behindFrame_cut (recording : Recording) : behindFrame recording.cut = [] := by
  have size := recording.cut_length
  have short := recording.count_lt
  rw [bytes_length] at short
  unfold behindFrame
  apply List.drop_of_length_le
  rw [List.length_drop]
  by_cases header : 12 ≤ recording.count
  · rw [recording.nextLen_cut header, sized_toNat recording.next_sized]
    omega
  · omega

end Recording

/-! One frame. -/

/-- What `extractData` yields for a frame lies within the bytes of it that are there. -/
def Inside (checksEmpty : Bool) (chunk available : List UInt8) : Prop :=
  match extractData checksEmpty chunk with
  | .error _ => False
  | .ok none => True
  | .ok (some data) => data = [] ∨ (opusHeader chunk).1 + data.length ≤ available.length

/-- The two numbers in front of the Opus data end within the frame, and announce no more than there is behind them, or
more than the whole frame. -/
def Enclosed (checksEmpty : Bool) (chunk : List UInt8) : Prop :=
  isOpus chunk = true →
    (opusHeader chunk).1 ≤ chunk.length ∧ (chunk.length < (opusHeader chunk).2 ∨
      0 ≤ (opusHeader chunk).2 ∧ (opusHeader chunk).1 + (opusHeader chunk).2 ≤ chunk.length) ∨
    checksEmpty = false ∧ chunk.length < (opusHeader chunk).1 ∧ (opusHeader chunk).2 = 0

/-- The bytes a frame announces, unless they are more than the frame has. -/
def announced (chunk : List UInt8) : Option (List UInt8) :=
  if isOpus chunk = true ∧ (opusHeader chunk).2 ≤ chunk.length then
    some ((chunk.drop (opusHeader chunk).1).take (opusHeader chunk).2.toNat)
  else none

/-- A frame nothing is played of. -/
def Silent (chunk : List UInt8) : Prop :=
  isOpus chunk = true → (opusHeader chunk).1 ≤ chunk.length ∧ chunk.length < (opusHeader chunk).2

section
variable {checksEmpty : Bool} {chunk : List UInt8}

theorem readInto_length (length : Nat) (bytes : List UInt8) : (readInto length bytes).length = length := by
  unfold readInto
  rw [List.length_append, List.length_take, List.length_replicate]
  omega

/-- The ways `extractData` ends. -/
theorem extractData_cases (opus : isOpus chunk = true) :
    extractData checksEmpty chunk =
      if (opusHeader chunk).2 < 0 then .error .outOfRange
      else if chunk.length < (opusHeader chunk).1 ∧ (0 < (opusHeader chunk).2 ∨ checksEmpty) then .error .outOfRange
      else if chunk.length < (opusHeader chunk).2 then .ok none
      else .ok (some (readInto (opusHeader chunk).2.toNat (chunk.drop (opusHeader chunk).1))) := by
  unfold extractData extractOpusData allocCopy
  rw [if_pos opus]
  dsimp only
  split_ifs <;> rfl

theorem extractData_other (other : ¬ isOpus chunk = true) : extractData checksEmpty chunk = .ok none := if_neg other

theorem readInto_zero (bytes : List UInt8) : readInto 0 bytes = [] :=
  List.eq_nil_of_length_eq_zero (readInto_length 0 bytes)

theorem inside_iff : Inside checksEmpty chunk chunk ↔ Enclosed checksEmpty chunk := by
  unfold Inside Enclosed
  by_cases opus : isOpus chunk = true
  · rw [extractData_cases opus]
    generalize (opusHeader chunk).1 = start
    generalize (opusHeader chunk).2 = length
    split_ifs with negative behind more
    · refine iff_of_false id fun enclosed => ?_
      rcases enclosed opus with ⟨_, _ | _⟩ | ⟨_, _, _⟩ <;> omega
    · refine iff_of_false id fun enclosed => ?_
      rcases enclosed opus with ⟨before, _⟩ | ⟨unchecked, _, zero⟩
      · omega
      · rcases behind.2 with positive | checked
        · omega
        · rw [unchecked] at checked
          cases checked
    · refine iff_of_true trivial fun _ => Or.inl ⟨?_, Or.inl more⟩
      by_contra later
      exact behind ⟨by omega, Or.inl (by omega)⟩
    · dsimp only
      rw [readInto_length]
      constructor
      · intro inside _
        by_cases before : start ≤ chunk.length
        · refine Or.inl ⟨before, Or.inr ⟨by omega, ?_⟩⟩
          rcases inside with empty | within
          · have none := congrArg List.length empty
            rw [readInto_length, List.length_nil] at none
            omega
          · omega
        · have unchecked : checksEmpty = false := by
            by_contra checked
            exact behind ⟨by omega, Or.inr (eq_true_of_ne_false checked)⟩
          have zero : length = 0 := by
            by_contra some
            exact behind ⟨by omega, Or.inl (by omega)⟩
          exact Or.inr ⟨unchecked, by omega, zero⟩
      · intro enclosed
        rcases enclosed opus with ⟨_, _ | _⟩ | ⟨_, _, zero⟩
        · omega
        · exact Or.inr (by omega)
        · refine Or.inl ?_
          rw [zero]
          exact readInto_zero _
  · rw [extractData_other opus]
    exact iff_of_true trivial fun opus' => absurd opus' opus

/-- A frame of this kind is played as it announces. -/
theorem extractData_enclosed (enclosed : Enclosed checksEmpty chunk) :
    extractData checksEmpty chunk = .ok (announced chunk) := by
  unfold announced
  by_cases opus : isOpus chunk = true
  · have which := enclosed opus
    rw [extractData_cases opus]
    rcases which with ⟨before, more | ⟨positive, within⟩⟩ | ⟨unchecked, behind, zero⟩
    · rw [if_neg (by omega), if_neg (by omega), if_pos more, if_neg (by omega)]
    · rw [if_neg (by omega), if_neg (by omega), if_neg (by omega), if_pos ⟨opus, by omega⟩,
        readInto_exact (by rw [List.length_drop]; omega)]
    · have unblocked : ¬ (chunk.length < (opusHeader chunk).1 ∧ (0 < (opusHeader chunk).2 ∨ checksEmpty = true)) := by
        rw [zero, unchecked]
        simp
      rw [if_neg (by omega), if_neg unblocked, if_neg (by omega), if_pos ⟨opus, by omega⟩, zero]
      exact congrArg (fun data => Except.ok (some data)) (readInto_zero _)
  · rw [extractData_other opus, if_neg fun both => opus both.1]

theorem extractData_silent : extractData checksEmpty chunk = .ok none ↔ Silent chunk := by
  unfold Silent
  by_cases opus : isOpus chunk = true
  · rw [extractData_cases opus]
    constructor
    · intro silent _
      split_ifs at silent with negative behind more
      · refine ⟨?_, more⟩
        by_contra later
        exact behind ⟨by omega, Or.inl (by omega)⟩
      · cases silent
    · intro silent
      obtain ⟨before, more⟩ := silent opus
      rw [if_neg (by omega), if_neg (by omega), if_pos more]
  · exact iff_of_true (extractData_other opus) fun opus' => absurd opus' opus

end

/-! The frames of a file. -/

/-- What the decoder should be handed for some frames. -/
def pieces (entries : List Entry) : List (List UInt8) := entries.filterMap fun entry => announced entry.payload

theorem pieces_cons (entry : Entry) (entries : List Entry) :
    pieces (entry :: entries) = (announced entry.payload).toList ++ pieces entries := by
  unfold pieces
  rw [List.filterMap_cons]
  cases announced entry.payload <;> rfl

section
variable {checksEmpty : Bool} {decode : List (List UInt8) → List UInt8 → Option (List UInt8)}

/-- The decoder accepts what each frame announces, after what the frames before it have announced. -/
def Decodable (decode : List (List UInt8) → List UInt8 → Option (List UInt8)) (handed : List (List UInt8))
    (entries : List Entry) : Prop :=
  ∀ before entry after data, entries = before ++ entry :: after → announced entry.payload = some data →
    (decode (handed ++ pieces before) data).isSome = true

theorem decodable_nil (handed : List (List UInt8)) : Decodable decode handed [] := by
  intro before entry after data split _
  simp at split

theorem decodable_cons {handed : List (List UInt8)} {entry : Entry} {entries : List Entry} :
    Decodable decode handed (entry :: entries) ↔
      (∀ data, announced entry.payload = some data → (decode handed data).isSome = true) ∧
        Decodable decode (handed ++ (announced entry.payload).toList) entries := by
  constructor
  · intro decodable
    constructor
    · intro data found
      have first := decodable [] entry entries data rfl found
      rwa [pieces, List.filterMap_nil, List.append_nil] at first
    · intro before other after data split found
      have later := decodable (entry :: before) other after data (by rw [split]; rfl) found
      rwa [pieces_cons, ← List.append_assoc] at later
  · intro ⟨first, later⟩ before other after data split found
    cases before with
    | nil =>
      obtain ⟨same, -⟩ := List.cons.inj split
      rw [pieces, List.filterMap_nil, List.append_nil]
      exact first data (same ▸ found)
    | cons head before =>
      obtain ⟨same, rest⟩ := List.cons.inj split
      rw [pieces_cons, ← List.append_assoc, ← same]
      exact later before other after data rest found

theorem playback_nil (handed written : List (List UInt8)) :
    playback checksEmpty decode handed written [] = { handed, written, thrown := none } := by
  rw [playback, if_pos rfl]

/-- One frame of the file. -/
theorem playback_entry {entry : Entry} (sized : entry.Sized) (enclosed : Enclosed checksEmpty entry.payload)
    (handed written : List (List UInt8)) (rest : List UInt8) :
    playback checksEmpty decode handed written (entry.bytes ++ rest) =
      match announced entry.payload with
      | none => playback checksEmpty decode handed written rest
      | some data =>
        match decode handed data with
        | none => { handed := handed ++ [data], written, thrown := some .decoder }
        | some decoded => playback checksEmpty decode (handed ++ [data]) (written ++ [decoded]) rest := by
  rw [playback, if_neg (entry.bytes_ne_nil rest), if_neg (nextLen_entry_pos sized rest), nextChunk_entry sized,
    behindFrame_entry sized, extractData_enclosed enclosed]
  cases announced entry.payload <;> rfl

/-- Frames the decoder accepts are all played. -/
theorem playback_decodable {entries : List Entry} (sized : ∀ entry ∈ entries, entry.Sized)
    (enclosed : ∀ entry ∈ entries, Enclosed checksEmpty entry.payload) {handed : List (List UInt8)}
    (decodable : Decodable decode handed entries) (written : List (List UInt8)) (rest : List UInt8) :
    ∃ written', playback checksEmpty decode handed written (entries.flatMap Entry.bytes ++ rest) =
      playback checksEmpty decode (handed ++ pieces entries) written' rest := by
  induction entries generalizing handed written with
  | nil => exact ⟨written, by simp [pieces]⟩
  | cons entry entries ih =>
    obtain ⟨first, later⟩ := decodable_cons.mp decodable
    have rest_sized := fun other member => sized other (List.mem_cons_of_mem entry member)
    have rest_enclosed := fun other member => enclosed other (List.mem_cons_of_mem entry member)
    rw [List.flatMap_cons, List.append_assoc, pieces_cons,
      playback_entry (sized entry (List.mem_cons_self ..)) (enclosed entry (List.mem_cons_self ..))]
    cases found : announced entry.payload with
    | none =>
      rw [found] at later
      simpa using ih rest_sized rest_enclosed later written
    | some data =>
      rw [found] at later
      obtain ⟨decoded, plays⟩ := Option.isSome_iff_exists.mp (first data found)
      dsimp only
      rw [plays]
      obtain ⟨written', same⟩ := ih rest_sized rest_enclosed later (written ++ [decoded])
      exact ⟨written', by rw [← List.append_assoc]; exact same⟩

/-- If nothing is thrown, the decoder has accepted all of them. -/
theorem decodable_of_playback {entries : List Entry} (sized : ∀ entry ∈ entries, entry.Sized)
    (enclosed : ∀ entry ∈ entries, Enclosed checksEmpty entry.payload) {handed written : List (List UInt8)}
    {rest : List UInt8}
    (quiet : (playback checksEmpty decode handed written (entries.flatMap Entry.bytes ++ rest)).thrown = none) :
    Decodable decode handed entries := by
  induction entries generalizing handed written with
  | nil => exact decodable_nil handed
  | cons entry entries ih =>
    have rest_sized := fun other member => sized other (List.mem_cons_of_mem entry member)
    have rest_enclosed := fun other member => enclosed other (List.mem_cons_of_mem entry member)
    rw [List.flatMap_cons, List.append_assoc,
      playback_entry (sized entry (List.mem_cons_self ..)) (enclosed entry (List.mem_cons_self ..))] at quiet
    rw [decodable_cons]
    cases found : announced entry.payload with
    | none =>
      rw [found] at quiet
      refine ⟨(fun data some => nomatch some), ?_⟩
      simpa using ih rest_sized rest_enclosed quiet
    | some data =>
      rw [found] at quiet
      dsimp only at quiet
      cases plays : decode handed data with
      | none =>
        rw [plays] at quiet
        cases quiet
      | some decoded =>
        rw [plays] at quiet
        refine ⟨?_, ih rest_sized rest_enclosed quiet⟩
        intro other same
        rw [← Option.some.inj same, plays]
        rfl

/-! The file as a whole. -/

variable (checksEmpty) (decode) in
/-- The loop throws on no frame, takes no frame for longer than it is, and hands the decoder what it would hand it for
each whole frame alone, and nothing else. -/
structure Unspoilt (recording : Recording) : Prop where
  quiet : (play checksEmpty decode recording.file).thrown = none
  inside : ∀ before entry after, recording.complete = before ++ entry :: after →
    Inside checksEmpty (nextChunk (entry.bytes ++ (after.flatMap Entry.bytes ++ recording.cut))) entry.payload
  cut_inside : Inside checksEmpty (nextChunk recording.cut) (recording.cut.drop 12)
  handed : (play checksEmpty decode recording.file).handed =
    recording.complete.flatMap fun entry => (play checksEmpty decode entry.bytes).handed

variable (checksEmpty) (decode) in
/-- Whole frames announce what they hold, and the decoder accepts it. Of the frame that is cut off, filled up with
zeros, nothing is played. -/
structure Harmless (recording : Recording) : Prop where
  enclosed : ∀ entry ∈ recording.complete, Enclosed checksEmpty entry.payload
  decodable : Decodable decode [] recording.complete
  silent : Silent (nextChunk recording.cut)

/-- The frame at the end of the file. -/
theorem playback_cut (recording : Recording) (handed written : List (List UInt8)) :
    playback checksEmpty decode handed written recording.cut =
      match extractData checksEmpty (nextChunk recording.cut) with
      | .error why => { handed, written, thrown := some why }
      | .ok none => { handed, written, thrown := none }
      | .ok (some data) =>
        match decode handed data with
        | none => { handed := handed ++ [data], written, thrown := some .decoder }
        | some decoded => { handed := handed ++ [data], written := written ++ [decoded], thrown := none } := by
  by_cases empty : recording.cut = []
  · have other : ¬ isOpus (nextChunk []) = true := by decide
    rw [empty, playback_nil, extractData_other other]
  · rw [playback, if_neg empty, if_neg recording.nextLen_cut_pos, recording.behindFrame_cut]
    cases extractData checksEmpty (nextChunk recording.cut) with
    | error why => rfl
    | ok found =>
      cases found with
      | none => exact playback_nil ..
      | some data =>
        dsimp only
        cases decode handed data with
        | none => rfl
        | some decoded => exact playback_nil ..

/-- What is handed for a whole frame alone. -/
theorem play_alone {entry : Entry} (sized : entry.Sized) (enclosed : Enclosed checksEmpty entry.payload) :
    (play checksEmpty decode entry.bytes).handed = (announced entry.payload).toList := by
  have alone : playback checksEmpty decode [] [] (entry.bytes ++ []) = _ := playback_entry sized enclosed [] [] []
  rw [List.append_nil] at alone
  unfold play
  rw [alone]
  cases announced entry.payload with
  | none => exact congrArg Played.handed (playback_nil [] [])
  | some data =>
    dsimp only
    cases decode [] data with
    | none => rfl
    | some decoded => exact congrArg Played.handed (playback_nil [data] [decoded])

theorem pieces_alone {entries : List Entry} (sized : ∀ entry ∈ entries, entry.Sized)
    (enclosed : ∀ entry ∈ entries, Enclosed checksEmpty entry.payload) :
    (entries.flatMap fun entry => (play checksEmpty decode entry.bytes).handed) = pieces entries := by
  induction entries with
  | nil => rfl
  | cons entry entries ih =>
    rw [List.flatMap_cons, play_alone (sized entry (List.mem_cons_self ..)) (enclosed entry (List.mem_cons_self ..)),
      ih (fun other member => sized other (List.mem_cons_of_mem entry member))
        (fun other member => enclosed other (List.mem_cons_of_mem entry member)), pieces_cons]

end

/-- A run of the loop on a file whose writes are all accepted plays the frames of the file. -/
theorem run_plays (checksEmpty : Bool) (decode : List (List UInt8) → List UInt8 → Option (List UInt8))
    (file : List UInt8) (drains : Nat → Bool) :
    ∃ n, Ends (play checksEmpty decode file) (run checksEmpty decode (fun _ => true) file drains n) := by
  obtain ⟨n, ⟨_, ends⟩ | ⟨held, _⟩⟩ := @run_goes checksEmpty decode (fun _ => true) file drains
  · exact ⟨n, ends⟩
  · exact absurd (fun _ _ _ => rfl) held

theorem unspoilt_of_harmless {checksEmpty : Bool} {decode : List (List UInt8) → List UInt8 → Option (List UInt8)}
    {recording : Recording} (harmless : Harmless checksEmpty decode recording) :
    Unspoilt checksEmpty decode recording := by
  obtain ⟨enclosed, decodable, silent⟩ := harmless
  have nothing : extractData checksEmpty (nextChunk recording.cut) = .ok none := extractData_silent.mpr silent
  have played : ∃ written, play checksEmpty decode recording.file =
      { handed := pieces recording.complete, written, thrown := none } := by
    obtain ⟨written, same⟩ :=
      playback_decodable recording.complete_sized enclosed decodable [] recording.cut
    refine ⟨written, same.trans ?_⟩
    rw [playback_cut, nothing]
    rfl
  obtain ⟨written, same⟩ := played
  constructor
  · rw [same]
  · intro before entry after split
    have member : entry ∈ recording.complete := by
      rw [split]
      simp
    rw [nextChunk_entry (recording.complete_sized entry member)]
    exact inside_iff.mpr (enclosed entry member)
  · unfold Inside
    rw [nothing]
    trivial
  · rw [same, pieces_alone recording.complete_sized enclosed]

theorem harmless_of_unspoilt {checksEmpty : Bool} {decode : List (List UInt8) → List UInt8 → Option (List UInt8)}
    {recording : Recording} (unspoilt : Unspoilt checksEmpty decode recording) :
    Harmless checksEmpty decode recording := by
  obtain ⟨quiet, inside, cut_inside, handed⟩ := unspoilt
  have enclosed : ∀ entry ∈ recording.complete, Enclosed checksEmpty entry.payload := by
    intro entry member
    obtain ⟨before, after, split⟩ := List.append_of_mem member
    have here := inside before entry after split
    rw [nextChunk_entry (recording.complete_sized entry member)] at here
    exact inside_iff.mp here
  have decodable : Decodable decode [] recording.complete :=
    decodable_of_playback recording.complete_sized enclosed quiet
  have silent : extractData checksEmpty (nextChunk recording.cut) = .ok none := by
    obtain ⟨written, same⟩ := playback_decodable recording.complete_sized enclosed decodable [] recording.cut
    have whole : play checksEmpty decode recording.file = _ := same.trans (playback_cut recording _ written)
    rw [pieces_alone recording.complete_sized enclosed, whole] at handed
    unfold Inside at cut_inside
    cases cut : extractData checksEmpty (nextChunk recording.cut) with
    | error why =>
      rw [cut] at cut_inside
      exact cut_inside.elim
    | ok found =>
      cases found with
      | none => rfl
      | some data =>
        -- One piece more than the whole frames announce.
        rw [cut] at handed
        have longer := congrArg List.length handed
        dsimp only at longer
        split at longer <;> simp at longer
  exact ⟨enclosed, decodable, extractData_silent.mp silent⟩

/-- Every beginning of what the recorder writes is such a recording, what the loop plays of it is what its frames say,
and it is played without damage exactly if its frames are harmless. -/
theorem unspoilt_iff (checksEmpty : Bool) (decode : List (List UInt8) → List UInt8 → Option (List UInt8)) :
    (∀ entries : List Entry, (∀ entry ∈ entries, entry.Sized) → ∀ file, file <+: entries.flatMap Entry.bytes →
      ∃ recording : Recording, recording.file = file ∧ recording.complete <+: entries) ∧
    ∀ recording : Recording,
      (∀ drains, ∃ n, Ends (play checksEmpty decode recording.file)
        (run checksEmpty decode (fun _ => true) recording.file drains n)) ∧
      (Unspoilt checksEmpty decode recording ↔ Harmless checksEmpty decode recording) := by
  constructor
  · intro entries sized file begins
    exact recording_of_prefix sized begins
  · intro recording
    exact ⟨run_plays checksEmpty decode recording.file, harmless_of_unspoilt, unspoilt_of_harmless⟩

/-- A packet of three bytes that announces -1 bytes of Opus data. -/
def negativePacket : Entry where
  user := "mallory"
  timestamp := 0
  len := 3
  payload := [0x80, 0, 0xFC]

def negativeRecording : Recording where
  complete := [negativePacket]
  next := emptyEntry
  count := 0
  complete_sized := by
    intro entry member
    rw [List.mem_singleton.mp member]
    exact rfl
  next_sized := rfl
  count_lt := by decide

theorem negativeRecording_spoilt :
    ¬ ∀ (checksEmpty : Bool) (decode : List (List UInt8) → List UInt8 → Option (List UInt8)) (recording : Recording),
      Unspoilt checksEmpty decode recording := by
  intro always
  have inside := (always true (fun _ _ => some []) negativeRecording).inside [] negativePacket [] rfl
  have chunk : nextChunk (negativePacket.bytes ++ ([] ++ negativeRecording.cut)) = [0x80, 0, 0xFC] := by decide +kernel
  have thrown : extractData true [0x80, 0, 0xFC] = .error .outOfRange := by decide +kernel
  rw [List.flatMap_nil, chunk] at inside
  unfold Inside at inside
  rw [thrown] at inside
  exact inside

end DfStudy.DamagedRecordings
