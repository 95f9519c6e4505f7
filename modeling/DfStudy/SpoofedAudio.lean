import DfStudy.Voice
import Mathlib.Data.List.GetD

/-! Audio that does not come from a client: it is encoded by the server itself, and sent either through the voice
path of a speaker (`doSpoofAudio`) or straight to one user (`doInjectAudio`). -/

namespace DfStudy.SpoofedAudio
open PacketData Voice

/-- The fields of `SpoofAudioMessage` and `AudioInjection` the audio depends on, but for the encoder's settings. -/
structure Request where
  data : List UInt8
  len : Nat
  bigEndian : Bool
  framesize : Nat

/-- The samples of a frame, as the encoder is given them. -/
def dataIn (request : Request) (data_offset this_frame_size : Nat) : List (BitVec 16) :=
  (List.range (this_frame_size / 2)).map fun j =>
    let first := ((request.data.getD (data_offset + 2 * j) 0).toNat : BitVec 8)
    let second := ((request.data.getD (data_offset + 2 * j + 1) 0).toNat : BitVec 8)
    -- a `char` has a sign, and is widened with it
    if request.bigEndian then (second.signExtend 32 <<< 8 ||| first.signExtend 32).setWidth 16 else second ++ first

/-- An encoder of one channel, set up for a request. It is given the frames so far, and encodes the last one. -/
abbrev OpusEncoder := List (List (BitVec 16)) → List UInt8

/-- The `quint64` an `int` is written as. -/
def ofInt (value : Nat) : Nat :=
  let low := value % 2 ^ 32
  if low < 2 ^ 31 then low else low + (2 ^ 64 - 2 ^ 32)

def packetsN (request : Request) : Nat := request.len / request.framesize

def frame (request : Request) (i : Nat) : List (BitVec 16) :=
  let data_offset := i * request.framesize
  dataIn request data_offset (if i = packetsN request then request.len - data_offset else request.framesize)

def encodedData (request : Request) (opus_encode : OpusEncoder) (i : Nat) : List UInt8 :=
  opus_encode ((List.range (i + 1)).map (frame request))

def opusHeader (request : Request) (opus_encode : OpusEncoder) (i : Nat) : Nat :=
  let encodedBytes := (encodedData request opus_encode i).length
  if i = packetsN request then encodedBytes ||| 0x2000 else encodedBytes

/-- One iteration of the loop, up to the copy to the output array. -/
def voicePacket (request : Request) (opus_encode : OpusEncoder) (speakerSession : Nat) (outgoing : Bool) (i : Nat) :
    Writer :=
  let pds : Writer := Writer.append { maxsize := request.framesize + 10 } 0x80
  let pds := if outgoing then pds else pds.put speakerSession
  let pds := pds.put (ofInt (i * 2))
  let pds := pds.put (ofInt (opusHeader request opus_encode i))
  pds.appendBytes (encodedData request opus_encode i)

structure Output where
  finalOutput : List UInt8 := []
  offsets : List Nat := [0]

def Output.add (output : Output) (i : Nat) (packet : List UInt8) : Output :=
  let packetOffset := output.offsets.getD i 0
  { finalOutput := output.finalOutput.take packetOffset ++ packet
    offsets := output.offsets ++ [packetOffset + packet.length] }

/-- `voice_packet`, cut out of the output array again. -/
def Output.slice (output : Output) (i : Nat) : List UInt8 :=
  let left := output.offsets.getD i 0
  let right := output.offsets.getD (i + 1) 0
  (output.finalOutput.drop left).take (right - left)

def spoofAudioPackets (request : Request) (opus_encode : OpusEncoder) (speakerSession : Nat) (outgoing : Bool) : Output :=
  (List.range (packetsN request + 1)).foldl (fun output i =>
    output.add i (voicePacket request opus_encode speakerSession outgoing i).bytes) {}

/-- The packets `Server::message` is called with. -/
def doSpoofAudio (request : Request) (opus_encode : OpusEncoder) (speakerSession : Nat) : List (List UInt8) :=
  let output := spoofAudioPackets request opus_encode speakerSession true
  (List.range (packetsN request + 1)).map output.slice

/-- The packets sent to the target. -/
def doInjectAudio (request : Request) (opus_encode : OpusEncoder) (speakerSession : Nat) : List (List UInt8) :=
  let output := spoofAudioPackets request opus_encode speakerSession false
  (List.range (packetsN request + 1)).map output.slice

/-! Each packet is cut out of the output as it was put in. -/

def filled (packet : Nat → List UInt8) (count : Nat) : Output :=
  (List.range count).foldl (fun output i => output.add i (packet i)) {}

theorem filled_succ (packet : Nat → List UInt8) (count : Nat) :
    filled packet (count + 1) = (filled packet count).add count (packet count) := by
  unfold filled
  rw [List.range_succ, List.foldl_append]
  rfl

/-- There are as many packets as `count` says, and the last offset is the end of the output. -/
theorem filled_ends (packet : Nat → List UInt8) (count : Nat) :
    (filled packet count).offsets.length = count + 1 ∧
      (filled packet count).offsets.getD count 0 = (filled packet count).finalOutput.length := by
  induction count with
  | zero => exact ⟨rfl, rfl⟩
  | succ count ih =>
    obtain ⟨size, last⟩ := ih
    rw [filled_succ]
    unfold Output.add
    refine ⟨by simp [size], ?_⟩
    dsimp only
    rw [List.getD_append_right _ _ _ _ (by omega), size, last]
    simp

theorem slice_add {output : Output} {i count : Nat} (below : i < count) (size : output.offsets.length = count + 1)
    (last : output.offsets.getD count 0 = output.finalOutput.length) (packet : List UInt8)
    (inside : output.offsets.getD (i + 1) 0 ≤ output.finalOutput.length) :
    (output.add count packet).slice i = output.slice i := by
  unfold Output.slice Output.add
  dsimp only
  rw [List.getD_append _ _ _ _ (by omega), List.getD_append _ _ _ _ (by omega), last, List.take_length]
  by_cases ordered : output.offsets.getD i 0 ≤ output.offsets.getD (i + 1) 0
  · rw [List.drop_append_of_le_length (by omega), List.take_append_of_le_length (by rw [List.length_drop]; omega)]
  · rw [Nat.sub_eq_zero_of_le (by omega), List.take_zero, List.take_zero]

theorem filled_slice (packet : Nat → List UInt8) {i count : Nat} (below : i < count) :
    (filled packet count).slice i = packet i ∧
      (filled packet count).offsets.getD (i + 1) 0 ≤ (filled packet count).finalOutput.length := by
  induction count with
  | zero => omega
  | succ count ih =>
    obtain ⟨size, last⟩ := filled_ends packet count
    have ends := filled_ends packet (count + 1)
    rcases Nat.lt_succ_iff_lt_or_eq.mp below with earlier | rfl
    · obtain ⟨kept, inside⟩ := ih earlier
      rw [filled_succ]
      refine ⟨(slice_add earlier size last _ inside).trans kept, ?_⟩
      unfold Output.add
      dsimp only
      rw [List.getD_append _ _ _ _ (by omega), last, List.take_length, List.length_append]
      omega
    · refine ⟨?_, ends.2.le⟩
      rw [filled_succ]
      unfold Output.slice Output.add
      dsimp only
      rw [List.getD_append (filled packet i).offsets _ 0 i (by omega),
        List.getD_append_right (filled packet i).offsets _ 0 (i + 1) (by omega), size, last]
      simp

/-- What both requests send as packet `i`. -/
theorem sent_get {request : Request} {opus_encode : OpusEncoder} {speakerSession i : Nat} {outgoing : Bool}
    {packet : List UInt8}
    (sends : ((List.range (packetsN request + 1)).map
      (spoofAudioPackets request opus_encode speakerSession outgoing).slice)[i]? = some packet) :
    packet = (voicePacket request opus_encode speakerSession outgoing i).bytes := by
  obtain ⟨index, listed, rfl⟩ : ∃ index, (List.range (packetsN request + 1))[i]? = some index ∧
      (spoofAudioPackets request opus_encode speakerSession outgoing).slice index = packet := by
    simpa using sends
  obtain ⟨inside, rfl⟩ := List.getElem?_eq_some_iff.mp listed
  rw [List.getElem_range]
  rw [List.length_range] at inside
  exact (filled_slice (fun i => (voicePacket request opus_encode speakerSession outgoing i).bytes) inside).1

/-! What is written of a packet. -/

/-- The packet a listener is meant to be sent. -/
def voiceTo (request : Request) (opus_encode : OpusEncoder) (speakerSession i : Nat) : List UInt8 :=
  0x80 :: (varint speakerSession ++ varint (ofInt (i * 2)) ++ varint (opusHeader request opus_encode i) ++
    encodedData request opus_encode i)

theorem ofInt_word (value : Nat) :
    ofInt value < 0x100000000 ∨ 2 ^ 63 ≤ ofInt value ∧ complement (ofInt value) < 0x100000000 := by
  unfold ofInt complement
  dsimp only
  split <;> omega

theorem ofInt_below (value : Nat) : ofInt value < 2 ^ 64 := by
  unfold ofInt
  dsimp only
  split <;> omega

theorem ofInt_small {value : Nat} (small : value < 2 ^ 31) : ofInt value = value := by
  unfold ofInt
  dsimp only
  rw [Nat.mod_eq_of_lt (by omega), if_pos small]

/-- The length of the payload and the terminator bit do not overlap. -/
theorem opusHeader_small {request : Request} {opus_encode : OpusEncoder} {i : Nat}
    (small : (encodedData request opus_encode i).length < 0x2000) :
    opusHeader request opus_encode i < 0x4000 ∧
      opusHeader request opus_encode i % 0x2000 = (encodedData request opus_encode i).length := by
  unfold opusHeader
  dsimp only
  split
  next =>
    have apart : (encodedData request opus_encode i).length ||| 0x2000 =
        0x2000 + (encodedData request opus_encode i).length := by
      rw [Nat.or_comm]
      exact (Nat.two_pow_add_eq_or_of_lt (i := 13) small 1).symm
    rw [apart]
    omega
  next => omega

section
variable {request : Request} {opus_encode : OpusEncoder} {i : Nat}

theorem opened_within (framesize : Nat) :
    ({ maxsize := framesize + 10, bytes := [0x80] } : Writer).bytes.length ≤
      ({ maxsize := framesize + 10, bytes := [0x80] } : Writer).maxsize := by
  simp

/-- The numbers of a packet are written behind its first byte, and the payload behind them. -/
theorem voicePacket_puts (session : Nat) (outgoing : Bool) :
    voicePacket request opus_encode session outgoing i =
      (((if outgoing then [] else [session]) ++ [ofInt (i * 2), ofInt (opusHeader request opus_encode i)]).foldl
        Writer.put { maxsize := request.framesize + 10, bytes := [0x80] }).appendBytes
          (encodedData request opus_encode i) := by
  have opened : Writer.append { maxsize := request.framesize + 10 } 0x80 =
      { maxsize := request.framesize + 10, bytes := [0x80] } := Writer.append_fits (by simp) 0x80
  unfold voicePacket
  rw [opened]
  cases outgoing <;> rfl

theorem voicePacket_within (session : Nat) (outgoing : Bool) :
    (voicePacket request opus_encode session outgoing i).bytes.length ≤ request.framesize + 10 := by
  rw [voicePacket_puts]
  obtain ⟨size, room⟩ := Writer.puts_within (opened_within request.framesize)
    ((if outgoing then [] else [session]) ++ [ofInt (i * 2), ofInt (opusHeader request opus_encode i)])
  exact (Writer.appendBytes_within (size ▸ room) _).trans size.le

/-- A packet a client could have sent holds few bytes, whether or not it has been cut off. -/
theorem encoded_of_accepted (bounded : (encodedData request opus_encode i).length ≤ request.framesize) {session : Nat}
    (accepted : (voicePacket request opus_encode session true i).bytes.length ≤ UDP_PACKET_SIZE) :
    (encodedData request opus_encode i).length ≤ UDP_PACKET_SIZE := by
  rw [voicePacket_puts] at accepted
  obtain ⟨size, room⟩ := Writer.puts_within (opened_within request.framesize)
    ((if true then [] else [session]) ++ [ofInt (i * 2), ofInt (opusHeader request opus_encode i)])
  rw [← size] at room
  rcases Nat.lt_or_ge _ _ with full | fits
  · rw [Writer.appendBytes_overflow full room, size] at accepted
    dsimp only at accepted
    omega
  · rw [Writer.appendBytes_fits fits, List.length_append] at accepted
    omega

/-- What is put into the packet before the payload. -/
theorem head_fits (small : (encodedData request opus_encode i).length ≤ UDP_PACKET_SIZE) :
    ofInt (opusHeader request opus_encode i) = opusHeader request opus_encode i ∧
      (varint (opusHeader request opus_encode i)).length ≤ 2 ∧ (varint (ofInt (i * 2))).length ≤ 6 := by
  have bound : (encodedData request opus_encode i).length < 0x2000 := by
    simp only [UDP_PACKET_SIZE] at small
    omega
  have header := (opusHeader_small bound).1
  refine ⟨ofInt_small (by omega), ?_, varint_six (ofInt_word _)⟩
  rw [varint_unsigned (by omega)]
  exact unsignedVarint_two header

/-- The packet for the voice path is never cut off. -/
theorem spoofed_bytes (bounded : (encodedData request opus_encode i).length ≤ request.framesize)
    (small : (encodedData request opus_encode i).length ≤ UDP_PACKET_SIZE) (session : Nat) :
    (voicePacket request opus_encode session true i).bytes =
      0x80 :: (varint (ofInt (i * 2)) ++ varint (opusHeader request opus_encode i) ++
        encodedData request opus_encode i) := by
  obtain ⟨same, two, six⟩ := head_fits small
  rw [voicePacket_puts, same, Writer.puts_fits (by simp; omega)]
  simp

/-- The packet for the target is cut off where it does not fit into `voice_packet`. -/
theorem injected_bytes (small : (encodedData request opus_encode i).length ≤ UDP_PACKET_SIZE) (session : Nat) :
    (voicePacket request opus_encode session false i).bytes = voiceTo request opus_encode session i ↔
      (voiceTo request opus_encode session i).length ≤ request.framesize + 10 := by
  obtain ⟨same, two, six⟩ := head_fits small
  have size : (voiceTo request opus_encode session i).length = 1 + (varint session).length +
      (varint (ofInt (i * 2))).length + (varint (opusHeader request opus_encode i)).length +
        (encodedData request opus_encode i).length := by
    simp [voiceTo]
    omega
  constructor
  · intro equal
    rw [← equal]
    exact voicePacket_within session false
  · intro room
    rw [voicePacket_puts, same, Writer.puts_fits (by simp; omega)]
    simp [voiceTo]

end

/-! What the voice path makes of a packet. -/

/-- The packet is read to its end, and the session is put behind its first byte if there is room for it. -/
theorem rebuild_spec (session : Nat) {sequence size : Nat} {payload : List UInt8} (sequenceBound : sequence < 2 ^ 64)
    (sizeBound : size < 2 ^ 64) (whole : size % 0x2000 = payload.length) :
    let data := varint sequence ++ varint size ++ payload
    (rebuild session (0x80 :: data)).type = 0x80 ∧ (rebuild session (0x80 :: data)).poslen = 0 ∧
      (rebuild session (0x80 :: data)).bytes =
        ((Writer.put { maxsize := UDP_PACKET_SIZE - 1 } session).appendBytes data).bytes := by
  have sequenceRead : (Reader.get { rest := varint sequence ++ varint size ++ payload }).2 =
      { rest := varint size ++ payload } := by
    rw [List.append_assoc, get_varint sequenceBound]
  have sizeRead : Reader.get { rest := varint size ++ payload } = (size, { rest := payload }) := get_varint sizeBound _ _
  have end_ : (Reader.skip { rest := payload } (size % 0x2000)).left = 0 := by
    rw [whole]
    simp [Reader.skip, Reader.left]
  intro data
  have kind : header (0x80 :: data) = 0x80 := rfl
  have opus : ¬0x80 / 0x20 * 0x20 / 0x20 ≠ UDPVoiceOpus := by decide
  refine ⟨by unfold rebuild; rw [kind], ?_, rfl⟩
  unfold rebuild
  dsimp only
  rw [kind, if_neg opus, List.tail_cons, sequenceRead, sizeRead]
  dsimp only
  rw [end_, if_neg (Nat.not_lt_zero _)]

/-! Whom it reaches. -/

section
variable {s : Server} {u : Nat} {packet : Outgoing} {flag : SpeechFlags}

theorem withoutPosition_eq (plain : packet.poslen = 0) (flag : SpeechFlags) :
    packet.withoutPosition flag = packet.whole flag := by
  unfold Outgoing.withoutPosition
  rw [plain]
  exact List.take_of_length_le (Nat.le_refl _)

/-- The byte array for the tunnel has not been made yet, or holds this packet. -/
def Caches.holds (caches : Caches) (bytes : List UInt8) : Prop := caches.qba_npos = [] ∨ caches.qba_npos = bytes

theorem sendMessage_bytes (state : UserState) (session : Nat) {data cache : List UInt8}
    (fresh : cache = [] ∨ cache = data) :
    (sendMessage state session data cache).1.recipient = session ∧ (sendMessage state session data cache).1.bytes = data ∧
      ((sendMessage state session data cache).2 = [] ∨ (sendMessage state session data cache).2 = data) := by
  unfold sendMessage
  split
  · exact ⟨rfl, rfl, fresh⟩
  · rcases fresh with rfl | rfl
    · exact ⟨rfl, rfl, .inr rfl⟩
    · simp

/-- The user has a client to be sent packets, and is not the speaker. -/
def hears (s : Server) (u pDst : Nat) : Bool :=
  match s.config.users pDst with
  | none => false
  | some user => !(user.bDeaf || user.bSelfDeaf || pDst = u)

theorem sendTo_recipient {caches : Caches} {pDst : Nat} {delivery : Delivery}
    (sent : delivery ∈ (sendTo s u packet flag caches pDst).1) : delivery.recipient = pDst := by
  have recipient : ∀ state data cache, (sendMessage state pDst data cache).1.recipient = pDst := by
    intro state data cache
    unfold sendMessage
    split <;> rfl
  unfold sendTo at sent
  split at sent
  · cases sent
  · split at sent
    · cases sent
    · split at sent
      · rw [List.mem_singleton.mp sent]
        exact recipient _ _ _
      · rw [List.mem_singleton.mp sent]
        exact recipient _ _ _

/-- A packet without position is the same for all recipients under one flag. -/
theorem sendTo_spec (plain : packet.poslen = 0) {caches : Caches} (fresh : Caches.holds caches (packet.whole flag))
    (pDst : Nat) :
    (∀ delivery ∈ (sendTo s u packet flag caches pDst).1, delivery.bytes = packet.whole flag) ∧
      (hears s u pDst = true → (sendTo s u packet flag caches pDst).1 ≠ []) ∧
      Caches.holds (sendTo s u packet flag caches pDst).2 (packet.whole flag) := by
  unfold sendTo hears
  cases s.config.users pDst with
  | none => exact ⟨by simp, by simp, fresh⟩
  | some user =>
    dsimp only
    split
    next deaf => exact ⟨by simp, by simp [deaf], fresh⟩
    next =>
      rw [if_neg (by omega), withoutPosition_eq plain]
      obtain ⟨-, bytes, kept⟩ := sendMessage_bytes (s.states pDst) pDst fresh
      exact ⟨by simpa using bytes, by simp, kept⟩

theorem sendEach_recipient {caches : Caches} {recipients : List Nat} {delivery : Delivery}
    (sent : delivery ∈ (sendEach s u packet flag caches recipients).1) : delivery.recipient ∈ recipients := by
  induction recipients generalizing caches with
  | nil => cases sent
  | cons pDst rest ih =>
    rcases List.mem_append.mp sent with here | later
    · rw [sendTo_recipient here]
      exact List.mem_cons_self
    · exact List.mem_cons_of_mem _ (ih later)

theorem sendEach_bytes (plain : packet.poslen = 0) {caches : Caches} (fresh : Caches.holds caches (packet.whole flag))
    {recipients : List Nat} {delivery : Delivery}
    (sent : delivery ∈ (sendEach s u packet flag caches recipients).1) : delivery.bytes = packet.whole flag := by
  induction recipients generalizing caches with
  | nil => cases sent
  | cons pDst rest ih =>
    obtain ⟨bytes, -, kept⟩ := sendTo_spec (s := s) (u := u) plain fresh pDst
    rcases List.mem_append.mp sent with here | later
    · exact bytes delivery here
    · exact ih kept later

theorem sendEach_reaches (plain : packet.poslen = 0) {caches : Caches} (fresh : Caches.holds caches (packet.whole flag))
    {recipients : List Nat} {v : Nat} (listed : v ∈ recipients) (hearing : hears s u v = true) :
    ∃ delivery ∈ (sendEach s u packet flag caches recipients).1, delivery.recipient = v := by
  induction recipients generalizing caches with
  | nil => cases listed
  | cons pDst rest ih =>
    obtain ⟨-, reaches, kept⟩ := sendTo_spec (s := s) (u := u) plain fresh pDst
    rcases List.mem_cons.mp listed with rfl | later
    · obtain ⟨delivery, sent⟩ := List.exists_mem_of_ne_nil _ (reaches hearing)
      exact ⟨delivery, List.mem_append_left _ sent, sendTo_recipient sent⟩
    · obtain ⟨delivery, sent, recipient⟩ := ih kept later
      exact ⟨delivery, List.mem_append_right _ sent, recipient⟩

end

/-- A user in the speaker's channel is sent packets as such, and not as one who listens to it. -/
theorem normalPhases_member {config : Config} {u v : Nat} {user listener : ServerUser}
    (found : config.users v = some listener) (here : listener.cChannel = user.cChannel)
    (member : v ∈ (config.channel user.cChannel).qlUsers) : ∃ normal listening,
    normalPhases config u user =
        [{ flag := .normal, recipients := normal }, { flag := .listen, recipients := listening }] ∧
      v ∈ normal ∧ v ∉ listening := by
  let Apart (phases : List Nat × List Nat) : Prop := v ∈ phases.1 ∧ v ∉ phases.2
  refine ⟨_, _, rfl, ?_⟩
  refine List.foldlRecOn (motive := Apart) _ _ ⟨member, by simp [member]⟩ ?_
  intro phases apart l _
  obtain ⟨normal, listening⟩ := phases
  refine ⟨List.mem_append_left _ apart.1, ?_⟩
  simp [apart.2, found, here]

/-! The two paths of a packet. -/

/-- What a user has been sent in between. -/
def heardBy (v : Nat) (before after : Server) : List (List UInt8) :=
  ((after.sent.drop before.sent.length).filter (·.recipient = v)).map (·.bytes)

theorem message_sent {s : Server} {u : Nat} {user : ServerUser} {data : List UInt8} {clock : Clock}
    (accepted : 2 ≤ data.length ∧ data.length ≤ UDP_PACKET_SIZE) (opus : header data = 0x80)
    (found : s.config.users u = some user) (speaks : user.silent = false) (charged : (charge s u data clock).isSome) :
    ∃ t : Server, t.config = s.config ∧ (message s u data true clock).sent =
      s.sent ++ sendPhases t u (rebuild u data) {} (normalPhases s.config u user) := by
  obtain ⟨bwr, within⟩ := Option.isSome_iff_exists.mp charged
  let tunnelled := s.setState u { s.states u with aiUdpFlag := false }
  let recorded := recordAudio tunnelled data user.qsName
  refine ⟨recorded.setState u { recorded.states u with bwr }, rfl, ?_⟩
  have heard : voice s.config data = true := by
    unfold voice
    rw [opus]
    simp [UDPVoiceOpus]
  have same : charge recorded u data clock = some bwr := by
    rw [← within]
    have state : recorded.states u = { s.states u with aiUdpFlag := false } := if_pos rfl
    unfold charge
    rw [state]
    rfl
  have target : header data % 0x20 = 0 := by rw [opus]
  have spoken : processMsg tunnelled u data true clock =
      relay (recorded.setState u { recorded.states u with bwr }) u user data := by
    have known : tunnelled.config.users u = some user := found
    unfold processMsg
    rw [known]
    dsimp only
    rw [if_neg (by simp), if_neg (by simp [speaks]), same]
    rfl
  have passes : message s u data true clock = processMsg tunnelled u data true clock := by
    unfold message
    rw [if_neg (by omega)]
    exact if_pos heard
  rw [passes, spoken]
  unfold relay
  dsimp only
  rw [target, if_neg (by decide)]
  rfl

/-- All that a user in the speaker's channel hears of a packet. -/
theorem heardBy_member {s : Server} {u v : Nat} {user listener : ServerUser} {data : List UInt8} {clock : Clock}
    (accepted : 2 ≤ data.length ∧ data.length ≤ UDP_PACKET_SIZE) (opus : header data = 0x80)
    (plain : (rebuild u data).poslen = 0) (found : s.config.users u = some user) (speaks : user.silent = false)
    (charged : (charge s u data clock).isSome) (known : s.config.users v = some listener)
    (here : listener.cChannel = user.cChannel) (member : v ∈ (s.config.channel user.cChannel).qlUsers)
    (hearing : hears s u v = true) :
    heardBy v s (message s u data true clock) ≠ [] ∧
      ∀ bytes ∈ heardBy v s (message s u data true clock), bytes = (rebuild u data).whole .normal := by
  obtain ⟨t, config, sent⟩ := message_sent accepted opus found speaks charged
  obtain ⟨normal, listening, phases, reached, apart⟩ := normalPhases_member (u := u) known here member
  have hearing : hears t u v = true := by
    unfold hears
    rw [config]
    exact hearing
  have fresh : Caches.holds {} ((rebuild u data).whole .normal) := .inl rfl
  let first := sendEach t u (rebuild u data) .normal {} normal
  let others := sendEach t u (rebuild u data) .listen first.2 listening
  have after : (message s u data true clock).sent.drop s.sent.length = first.1 ++ (others.1 ++ []) := by
    rw [sent, phases, List.drop_left]
    rfl
  unfold heardBy
  rw [after]
  constructor
  · obtain ⟨delivery, delivered, recipient⟩ := sendEach_reaches (s := t) (u := u) plain fresh reached hearing
    refine List.ne_nil_of_mem (a := delivery.bytes) (List.mem_map_of_mem (List.mem_filter.mpr ⟨?_, ?_⟩))
    · exact List.mem_append_left _ delivered
    · exact decide_eq_true recipient
  · intro bytes heard
    obtain ⟨delivery, delivered, rfl⟩ := List.mem_map.mp heard
    obtain ⟨delivered, recipient⟩ := List.mem_filter.mp delivered
    rcases List.mem_append.mp delivered with own | listened
    · exact sendEach_bytes plain fresh own
    · rw [List.append_nil] at listened
      have elsewhere := sendEach_recipient listened
      rw [of_decide_eq_true recipient] at elsewhere
      exact absurd elsewhere apart

/-- Packet `i` of a request, on its way to a user in the speaker's channel and to the target of an injection. -/
theorem spoofed_asInjected {request : Request} {opus_encode : OpusEncoder} {i : Nat} {s : Server} {u v : Nat}
    {user listener : ServerUser} {spoofed injected : List UInt8} {clock : Clock}
    (encodes : ∀ frames, (opus_encode frames).length ≤ request.framesize)
    (spoofs : (doSpoofAudio request opus_encode u)[i]? = some spoofed)
    (injects : (doInjectAudio request opus_encode u)[i]? = some injected)
    (accepted : 2 ≤ spoofed.length ∧ spoofed.length ≤ UDP_PACKET_SIZE)
    (found : s.config.users u = some user) (speaks : user.silent = false)
    (charged : (charge s u spoofed clock).isSome) (known : s.config.users v = some listener)
    (here : listener.cChannel = user.cChannel) (member : v ∈ (s.config.channel user.cChannel).qlUsers)
    (hearing : hears s u v = true) :
    ((rebuild u spoofed).poslen = 0 ∧ heardBy v s (message s u spoofed true clock) ≠ [] ∧
        ∀ bytes ∈ heardBy v s (message s u spoofed true clock),
          bytes = injected ∧ injected = voiceTo request opus_encode u i) ↔
      (voiceTo request opus_encode u i).length ≤ UDP_PACKET_SIZE ∧
        (voiceTo request opus_encode u i).length ≤ request.framesize + 10 := by
  have bounded : (encodedData request opus_encode i).length ≤ request.framesize := encodes _
  have cut := sent_get spoofs
  have small := encoded_of_accepted bounded (cut ▸ accepted.2)
  obtain ⟨-, two, -⟩ := head_fits small
  have payload : (encodedData request opus_encode i).length < 0x2000 := Nat.lt_of_le_of_lt small (by decide)
  have exact_ := opusHeader_small payload
  have spoken := cut.trans (spoofed_bytes bounded small u)
  have inside := injected_bytes small u
  rw [← sent_get injects] at inside
  obtain ⟨kind, plain, rebuilt⟩ := rebuild_spec u (ofInt_below (i * 2))
    (Nat.lt_trans exact_.1 (by decide)) exact_.2
  rw [← spoken] at kind plain rebuilt
  have opus : header spoofed = 0x80 := by
    rw [spoken]
    rfl
  obtain ⟨reached, heard⟩ := heardBy_member accepted opus plain found speaks charged
    known here member hearing
  have whole : (rebuild u spoofed).whole .normal = 0x80 :: (rebuild u spoofed).bytes := by
    unfold Outgoing.whole
    rw [kind]
    rfl
  constructor
  · rintro ⟨-, -, same⟩
    obtain ⟨bytes, listed⟩ := List.exists_mem_of_ne_nil _ reached
    obtain ⟨asInjected, asMeant⟩ := same bytes listed
    refine ⟨?_, inside.mp asMeant⟩
    rw [← asMeant, ← asInjected, heard bytes listed, whole, rebuilt]
    have empty : ({ maxsize := UDP_PACKET_SIZE - 1 } : Writer).bytes.length ≤
        ({ maxsize := UDP_PACKET_SIZE - 1 } : Writer).maxsize := Nat.zero_le _
    obtain ⟨size, room⟩ := Writer.put_within empty u
    have filled := Writer.appendBytes_within (size ▸ room) (varint (ofInt (i * 2)) ++
      varint (opusHeader request opus_encode i) ++ encodedData request opus_encode i)
    rw [size] at filled
    exact Nat.succ_le_succ filled
  · rintro ⟨datagram, buffer⟩
    have asMeant := inside.mpr buffer
    refine ⟨plain, reached, fun bytes listed => ⟨?_, asMeant⟩⟩
    have room : ({ maxsize := UDP_PACKET_SIZE - 1 } : Writer).bytes.length + ([u].flatMap varint).length +
        (varint (ofInt (i * 2)) ++ varint (opusHeader request opus_encode i) ++
          encodedData request opus_encode i).length ≤ UDP_PACKET_SIZE - 1 := by
      simp only [voiceTo, List.length_cons, List.length_append] at datagram
      simp only [List.flatMap_cons, List.flatMap_nil, List.length_append, List.length_nil]
      omega
    have rebuilds := Writer.puts_fits room
    rw [List.foldl_cons, List.foldl_nil] at rebuilds
    rw [heard bytes listed, whole, rebuilt, asMeant, rebuilds]
    simp [voiceTo]

/-! Kate's voice is spoofed, and Pete is in her channel. -/

def twoUsers : Config := {
  users := fun session =>
    if session = 1 then some { qsName := "pete", cChannel := 0 }
    else if session = 2 then some { qsName := "kate", cChannel := 0 } else none
  channels := fun id => if id = 0 then some { qlUsers := [1, 2] } else none
  allLinks := fun id => [id]
  allChildren := fun id => [id]
  hasPermission := fun _ _ _ => true
  isMember := fun _ _ _ => true
  bOpus := true
  iMaxBandwidth := 558000 }

def spoofClock : Clock := { elapsed := 1000000, restart := 1000000 }

/-- Two frames of 20 milliseconds at 48 kHz. -/
def twoFrames : Request := { data := List.replicate 3840 0, len := 3840, bigEndian := false, framesize := 1920 }

def encodesTo (count : Nat) : OpusEncoder := fun _ => List.replicate count 0x55

def spoofedPacket (count : Nat) : List UInt8 := 0x80 :: (varint 0 ++ varint count ++ List.replicate count 0x55)

def twoServer : Server := { config := twoUsers }

theorem encodesTo_bounded {count : Nat} (fits : count ≤ 1920) (frames : List (List (BitVec 16))) :
    (encodesTo count frames).length ≤ twoFrames.framesize := by
  unfold encodesTo
  rw [List.length_replicate]
  exact fits

theorem spoofed_asInjected_sample :
    (rebuild 2 (spoofedPacket 60)).poslen = 0 ∧
      heardBy 1 twoServer (message twoServer 2 (spoofedPacket 60) true spoofClock) ≠ [] ∧
      ∀ bytes ∈ heardBy 1 twoServer (message twoServer 2 (spoofedPacket 60) true spoofClock),
        bytes = voiceTo twoFrames (encodesTo 60) 2 0 := by
  have spoofs : (doSpoofAudio twoFrames (encodesTo 60) 2)[0]? = some (spoofedPacket 60) := by decide +kernel
  have injects : (doInjectAudio twoFrames (encodesTo 60) 2)[0]? = some (voiceTo twoFrames (encodesTo 60) 2 0) := by
    decide +kernel
  have accepted : 2 ≤ (spoofedPacket 60).length ∧ (spoofedPacket 60).length ≤ UDP_PACKET_SIZE := by decide +kernel
  have charged : (charge twoServer 2 (spoofedPacket 60) spoofClock).isSome := by decide +kernel
  have hearing : hears twoServer 2 1 = true := by decide +kernel
  have kate : twoServer.config.users 2 = some { qsName := "kate", cChannel := 0 } := rfl
  have pete : twoServer.config.users 1 = some { qsName := "pete", cChannel := 0 } := rfl
  have meets := spoofed_asInjected (encodesTo_bounded (by decide)) spoofs injects accepted kate rfl charged pete rfl
    (by decide +kernel) hearing
  obtain ⟨plain, reached, heard⟩ := meets.mpr (by decide +kernel)
  exact ⟨plain, reached, fun bytes listed => (heard bytes listed).1⟩

/-- A payload of 1020 bytes makes a packet `Server::message` accepts. With the session in it, it does not fit into
the buffer of `processMsg`, and Pete is sent zeros. -/
theorem largePacket_zeroed :
    (doSpoofAudio twoFrames (encodesTo 1020) 2)[0]? = some (spoofedPacket 1020) ∧
      (spoofedPacket 1020).length = UDP_PACKET_SIZE ∧
      heardBy 1 twoServer (message twoServer 2 (spoofedPacket 1020) true spoofClock) =
        [0x80 :: 2 :: List.replicate 1022 0] ∧
      (doInjectAudio twoFrames (encodesTo 1020) 2)[0]? =
        some ([0x80, 2, 0, 0x83, 0xFC] ++ List.replicate 1020 0x55) := by
  decide +kernel

end DfStudy.SpoofedAudio
