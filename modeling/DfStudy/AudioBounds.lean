import DfStudy.SpoofedAudio

/-! The arrays of `spoofAudioPackets`, `doSpoofAudio` and `doInjectAudio`, and the elements these read and write. -/

namespace DfStudy.AudioBounds
open PacketData SpoofedAudio

/-- The arrays. Each pass of a loop has its own `dataIn`, and its own packet to send. -/
inductive Buffer where
  | data
  | dataIn (i : Nat)
  | encodedData
  | voice_packet
  | finalOutput
  | offsets
  | sentPacket (i : Nat)
  deriving DecidableEq

/-- `count` elements from `first` on. -/
structure Access where
  buffer : Buffer
  first : Nat
  count : Nat
  deriving DecidableEq

section
variable (request : Request) (opus_encode : OpusEncoder) (speakerSession : Nat) (outgoing : Bool)

def this_frame_size (i : Nat) : Nat :=
  if i = packetsN request then request.len - i * request.framesize else request.framesize

def encodedBytes (i : Nat) : Nat := (encodedData request opus_encode i).length

def packetSize (i : Nat) : Nat := (voicePacket request opus_encode speakerSession outgoing i).bytes.length

def packetOffset (i : Nat) : Nat := (spoofAudioPackets request opus_encode speakerSession outgoing).offsets.getD i 0

def size : Buffer → Nat
  | .data => request.len
  | .dataIn i => this_frame_size request i / 2
  | .encodedData => request.framesize
  | .voice_packet => request.framesize + 10
  | .finalOutput => 2 * request.len
  | .offsets => packetsN request + 1
  | .sentPacket i => packetSize request opus_encode speakerSession outgoing i + 10

/-- Samples are put together from two bytes, or all bytes are copied. The last byte of an odd number falls into a
sample of its own. -/
def loadFrame (i : Nat) : List Access :=
  let data_offset := i * request.framesize
  let this_frame_size := this_frame_size request i
  if request.bigEndian then
    (List.range (this_frame_size / 2)).flatMap fun j =>
      [⟨.data, data_offset + 2 * j + 1, 1⟩, ⟨.data, data_offset + 2 * j, 1⟩, ⟨.dataIn i, j, 1⟩]
  else [⟨.data, data_offset, this_frame_size⟩, ⟨.dataIn i, 0, (this_frame_size + 1) / 2⟩]

/-- `opus_encode` is told that there are as many samples in every frame. -/
def encodeFrame (i : Nat) : List Access :=
  [⟨.dataIn i, 0, request.framesize / 2⟩, ⟨.encodedData, 0, encodedBytes request opus_encode i⟩]

def writePacket (i : Nat) : List Access :=
  [⟨.encodedData, 0, encodedBytes request opus_encode i⟩,
    ⟨.voice_packet, 0, packetSize request opus_encode speakerSession outgoing i⟩]

def storePacket (i : Nat) : List Access :=
  let packetSize := packetSize request opus_encode speakerSession outgoing i
  [⟨.offsets, i, 1⟩, ⟨.voice_packet, 0, packetSize⟩,
    ⟨.finalOutput, packetOffset request opus_encode speakerSession outgoing i, packetSize⟩, ⟨.offsets, i + 1, 1⟩]

/-- One pass of the loop in `doSpoofAudio` or `doInjectAudio`. -/
def sendPacket (i : Nat) : List Access :=
  let packetSize := packetSize request opus_encode speakerSession outgoing i
  [⟨.offsets, i, 1⟩, ⟨.offsets, i + 1, 1⟩,
    ⟨.finalOutput, packetOffset request opus_encode speakerSession outgoing i, packetSize⟩,
    ⟨.sentPacket i, 0, packetSize⟩]

/-- All there are, with `outgoing` those of `doSpoofAudio`, without those of `doInjectAudio`. -/
def accesses : List Access :=
  ⟨.offsets, 0, 1⟩ ::
    ((List.range (packetsN request + 1)).flatMap fun i =>
      loadFrame request i ++ encodeFrame request opus_encode i ++
        writePacket request opus_encode speakerSession outgoing i ++
        storePacket request opus_encode speakerSession outgoing i) ++
    (List.range (packetsN request + 1)).flatMap (sendPacket request opus_encode speakerSession outgoing)

def Fits (access : Access) : Prop :=
  0 < access.count → access.first + access.count ≤ size request opus_encode speakerSession outgoing access.buffer

/-- Every element that is read or written lies inside its array. -/
def Bounded : Prop :=
  ∀ access ∈ accesses request opus_encode speakerSession outgoing,
    Fits request opus_encode speakerSession outgoing access

end

section
variable {request : Request} {opus_encode : OpusEncoder} {speakerSession : Nat} {outgoing : Bool}

/-- The last pass of the loop stores an offset behind those there is room for. -/
theorem lastOffset_mem :
    ⟨.offsets, packetsN request + 1, 1⟩ ∈ accesses request opus_encode speakerSession outgoing := by
  have last : packetsN request ∈ List.range (packetsN request + 1) := List.mem_range.mpr (Nat.lt_succ_self _)
  unfold accesses
  apply List.mem_cons_of_mem
  apply List.mem_append_left
  refine List.mem_flatMap.mpr ⟨packetsN request, last, List.mem_append_right _ ?_⟩
  simp [storePacket]

/-! Which arrays are large enough. -/

theorem data_end {i : Nat} (pass : i ≤ packetsN request) :
    i * request.framesize + this_frame_size request i ≤ request.len := by
  have before : i * request.framesize ≤ request.len :=
    (Nat.mul_le_mul_right _ pass).trans (Nat.div_mul_le_self ..)
  unfold this_frame_size
  split
  next => omega
  next other =>
    have below : i + 1 ≤ packetsN request := by omega
    calc
      _ = (i + 1) * request.framesize := by rw [Nat.add_mul, Nat.one_mul]
      _ ≤ packetsN request * request.framesize := Nat.mul_le_mul_right _ below
      _ ≤ _ := Nat.div_mul_le_self ..

/-- The arrays that are large enough for what is done with them. -/
def Buffer.Ample : Buffer → Prop
  | .data | .encodedData | .voice_packet | .sentPacket _ => True
  | .dataIn _ | .finalOutput | .offsets => False

theorem loadFrame_fits {i : Nat} (pass : i ≤ packetsN request) {access : Access}
    (member : access ∈ loadFrame request i) (ample : access.buffer.Ample) :
    Fits request opus_encode speakerSession outgoing access := by
  have last := data_end pass
  intro _
  unfold loadFrame at member
  dsimp only at member
  split at member
  · obtain ⟨j, inside, read⟩ := List.mem_flatMap.mp member
    rw [List.mem_range] at inside
    rcases List.mem_cons.mp read with rfl | read
    · change i * request.framesize + 2 * j + 1 + 1 ≤ request.len
      omega
    rcases List.mem_cons.mp read with rfl | read
    · change i * request.framesize + 2 * j + 1 ≤ request.len
      omega
    rw [List.mem_singleton.mp read] at ample
    exact ample.elim
  · rcases List.mem_cons.mp member with rfl | write
    · exact last
    · rw [List.mem_singleton.mp write] at ample
      exact ample.elim

theorem pass_fits (bounded : ∀ i, encodedBytes request opus_encode i ≤ request.framesize) {i : Nat} {access : Access}
    (member : access ∈ encodeFrame request opus_encode i ++
      writePacket request opus_encode speakerSession outgoing i ++
        (storePacket request opus_encode speakerSession outgoing i ++
          sendPacket request opus_encode speakerSession outgoing i))
    (ample : access.buffer.Ample) : Fits request opus_encode speakerSession outgoing access := by
  have encoded := bounded i
  have packet : packetSize request opus_encode speakerSession outgoing i ≤ request.framesize + 10 :=
    voicePacket_within speakerSession outgoing
  intro _
  simp only [encodeFrame, writePacket, storePacket, sendPacket, List.cons_append, List.nil_append, List.mem_cons,
    List.not_mem_nil, or_false] at member
  rcases member with rfl | rfl | rfl | rfl | rfl | rfl | rfl | rfl | rfl | rfl | rfl | rfl
  all_goals
    first
    | exact ample.elim
    | (simp only [size]; omega)

/-- Audio data, encoded data and packets stay where they belong. -/
theorem ample_fits (bounded : ∀ i, encodedBytes request opus_encode i ≤ request.framesize) {access : Access}
    (member : access ∈ accesses request opus_encode speakerSession outgoing) (ample : access.buffer.Ample) :
    Fits request opus_encode speakerSession outgoing access := by
  unfold accesses at member
  rcases List.mem_append.mp member with before | sends
  · rcases List.mem_cons.mp before with rfl | passes
    · exact ample.elim
    · obtain ⟨i, pass, here⟩ := List.mem_flatMap.mp passes
      rw [List.mem_range] at pass
      rcases List.mem_append.mp here with here | stores
      · rcases List.mem_append.mp here with here | writes
        · rcases List.mem_append.mp here with loads | encodes
          · exact loadFrame_fits (by omega) loads ample
          · exact pass_fits bounded (List.mem_append_left _ (List.mem_append_left _ encodes)) ample
        · exact pass_fits bounded (List.mem_append_left _ (List.mem_append_right _ writes)) ample
      · exact pass_fits bounded (List.mem_append_right _ (List.mem_append_left _ stores)) ample
  · obtain ⟨i, -, here⟩ := List.mem_flatMap.mp sends
    exact pass_fits bounded (List.mem_append_right _ (List.mem_append_right _ here)) ample

/-- The encoder reads beyond the last frame, unless just the one byte is missing that makes no sample. -/
theorem lastFrame_fits (some : 1 < request.framesize) :
    Fits request opus_encode speakerSession outgoing ⟨.dataIn (packetsN request), 0, request.framesize / 2⟩ ↔
      request.framesize % 2 = 1 ∧ request.len % request.framesize = request.framesize - 1 := by
  have rest : this_frame_size request (packetsN request) = request.len % request.framesize := by
    unfold this_frame_size packetsN
    rw [if_pos rfl, Nat.mul_comm, Nat.mod_eq_sub]
  have below := Nat.mod_lt request.len (Nat.lt_of_succ_lt some)
  unfold Fits
  simp only [size, rest]
  omega

end

/-- There is no request for which the requests stay inside their arrays. -/
theorem never_bounded (request : Request) (opus_encode : OpusEncoder) (speakerSession : Nat) (outgoing : Bool) :
    ¬ Bounded request opus_encode speakerSession outgoing := by
  intro bounded
  have last := bounded _ lastOffset_mem Nat.one_pos
  simp only [size] at last
  omega

/-- Nothing at all is to be said: even then, an offset is stored behind the only one. -/
theorem emptyRequest_escapes :
    ¬ ∀ (request : Request) (opus_encode : OpusEncoder) (speakerSession : Nat) (outgoing : Bool),
      0 < request.framesize → request.len ≤ request.data.length →
      (∀ i, encodedBytes request opus_encode i ≤ request.framesize) →
      Bounded request opus_encode speakerSession outgoing := by
  intro always
  have bounded := always { data := [], len := 0, bigEndian := false, framesize := 1920 } (fun _ => []) 2 true
    (by decide) (by decide) (fun _ => Nat.zero_le _)
  have outside := bounded ⟨.offsets, 1, 1⟩ (by decide +kernel) (by decide)
  exact absurd outside (by decide)

end DfStudy.AudioBounds
