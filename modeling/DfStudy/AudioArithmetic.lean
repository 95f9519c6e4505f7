import DfStudy.SpoofedAudio
import DfStudy.Support.CheckedInt

/-! The arithmetic of an audio request. Its fields are taken for `int`s, and everything the two threads compute from
them is computed with `int`s, which neither wrap around nor can be divided by zero. -/

namespace DfStudy.AudioArithmetic
open PacketData Support.CheckedInt

/-- The numbers of `SpoofAudioMessage` and `AudioInjection`. A field that is absent is 0. -/
structure Message where
  len : UInt32 := 0
  sleep : UInt32 := 0
  bigEndian : Bool := false
  bitrate : UInt32 := 0
  framesize : UInt32 := 0

/-- A `uint32` field as an `int`. -/
def int (field : UInt32) : Int := field.toBitVec.toInt

inductive Fault where
  /-- A division by zero, or a result that is no `int`. -/
  | arithmetic
  /-- An array of a negative length. -/
  | array
  deriving DecidableEq

abbrev Run := Except Fault

def add : Int → Int → Run Int := Support.CheckedInt.add 32 .arithmetic
def sub : Int → Int → Run Int := Support.CheckedInt.sub 32 .arithmetic
def mul : Int → Int → Run Int := Support.CheckedInt.mul 32 .arithmetic
def div : Int → Int → Run Int := Support.CheckedInt.div 32 .arithmetic

def array (length : Int) : Run Unit := if length < 0 then .error .array else .ok ()

/-- The passes of `for (int i = 0; i <= last; i++)`. -/
def passes (last : Int) : Nat := (last + 1).toNat

/-- What the calls of `opus_encode` return: how many bytes have been written, or a negative number. -/
abbrev Encoded := Nat → Int

section
variable (message : Message) (encoded : Encoded) (speakerSession : Nat) (outgoing : Bool)

def quint64 (value : BitVec 32) : Nat := (value.signExtend 64).toNat

def opusHeader (packetsN : Int) (i : Nat) : BitVec 32 :=
  let encodedBytes := BitVec.ofInt 32 (encoded i)
  if i = packetsN then encodedBytes ||| 0x2000 else encodedBytes

/-- `pds.size()`. A negative number of bytes is a very large one for `append`. -/
def packetSize (packetsN : Int) (i : Nat) : Nat :=
  let pds : Writer := Writer.append { maxsize := (int message.framesize + 10).toNat } 0x80
  let pds := if outgoing then pds else pds.put speakerSession
  let pds := pds.put (quint64 (BitVec.ofInt 32 (i * 2)))
  let pds := pds.put (quint64 (opusHeader encoded packetsN i))
  (pds.appendBytes (List.replicate (BitVec.ofInt 32 (encoded i)).toNat 0)).bytes.length

def frameSize (packetsN data_offset : Int) (i : Nat) : Run Int :=
  if i = packetsN then sub (int message.len) data_offset else .ok (int message.framesize)

/-- The indices of the bytes that samples are put together from. They are not computed for bytes that are copied. -/
def sampleOffsets (data_offset this_frame_size : Int) : Run Unit :=
  if message.bigEndian then
    (List.range (this_frame_size.tdiv 2).toNat).forM fun (j : Nat) => do
      let low ← add data_offset (← mul 2 j)
      let _ ← add low 1
  else .ok ()

/-- One pass of the loop, from the offsets so far. -/
def encodeFrame (packetsN : Int) (offsets : List Int) (i : Nat) : Run (List Int) := do
  let frame_size := int message.framesize
  let data_offset ← mul i frame_size
  let this_frame_size ← frameSize message packetsN data_offset i
  array (← div this_frame_size 2)
  sampleOffsets message data_offset this_frame_size
  array frame_size
  array (← add frame_size 10)
  let _ ← mul i 2
  let packetOffset := offsets.getD i 0
  let nextOffset ← add packetOffset (packetSize message encoded speakerSession outgoing packetsN i)
  let _ ← add i 1
  return offsets ++ [nextOffset]

/-- The offsets of the packets in the output. -/
def spoofAudioPackets : Run (List Int) := do
  let packetsN ← div (int message.len) (int message.framesize)
  (List.range (passes packetsN)).foldlM (encodeFrame message encoded speakerSession outgoing packetsN) [0]

/-- One pass of the loop that sends the packets. What is left behind is the argument of `sleep_for`. -/
def sendPacket (offsets : List Int) (sleepTimes : List Int) (i : Nat) : Run (List Int) := do
  let packetSize ← sub (offsets.getD (i + 1) 0) (offsets.getD i 0)
  array (← add packetSize 10)
  let impliedSleepTime ← div (← mul (← mul packetSize 8) 1000000) (int message.bitrate)
  let sleepTime := if 0 < int message.sleep then int message.sleep else impliedSleepTime
  let _ ← add i 1
  return sleepTimes ++ [sleepTime]

/-- Both threads, but for the unit they sleep in. -/
def sendAudio : Run (List Int) := do
  let packetsN ← div (int message.len) (int message.framesize)
  array (← mul (int message.len) 2)
  array (← add packetsN 1)
  let offsets ← spoofAudioPackets message encoded speakerSession outgoing
  (List.range (passes packetsN)).foldlM (sendPacket message offsets) []

end

/-- The pauses of a thread, in microseconds. -/
def doSpoofAudio (message : Message) (encoded : Encoded) (speakerSession : Nat) : Run (List Int) :=
  sendAudio message encoded speakerSession true

def doInjectAudio (message : Message) (encoded : Encoded) (speakerSession : Nat) : Run (List Int) :=
  (sendAudio message encoded speakerSession false).map (List.map (1000 * ·))

/-! The numbers that are possible. -/

theorem inRange_iff {value : Int} : InRange 32 value ↔ -2147483648 ≤ value ∧ value < 2147483648 := Iff.rfl

theorem int_inRange (field : UInt32) : -2147483648 ≤ int field ∧ int field < 2147483648 :=
  ⟨BitVec.le_toInt field.toBitVec, BitVec.toInt_lt⟩

section
variable {a b : Int}

theorem add_ok (lower : -2147483648 ≤ a + b) (upper : a + b < 2147483648) : add a b = .ok (a + b) :=
  checked_ok ⟨lower, upper⟩

theorem sub_ok (lower : -2147483648 ≤ a - b) (upper : a - b < 2147483648) : sub a b = .ok (a - b) :=
  checked_ok ⟨lower, upper⟩

theorem mul_ok (lower : -2147483648 ≤ a * b) (upper : a * b < 2147483648) : mul a b = .ok (a * b) :=
  checked_ok ⟨lower, upper⟩

theorem add_fault (large : 2147483648 ≤ a + b) : add a b = .error .arithmetic :=
  checked_error fun inside => large.not_gt inside.2

theorem mul_fault (large : 2147483648 ≤ a * b) : mul a b = .error .arithmetic :=
  checked_error fun inside => large.not_gt inside.2

theorem array_ok (length : 0 ≤ a) : array a = .ok () := if_neg (by omega)

theorem array_fault (length : a < 0) : array a = .error .array := if_pos length

/-- Only the least of all numbers has no negation. -/
theorem quotient_ok (some : b ≠ 0) (inside : -2147483647 ≤ a ∧ a < 2147483648) : div a b = .ok (a.tdiv b) :=
  div_ok some (tdiv_inRange (inRange_iff.mpr (by omega)) (inRange_iff.mpr (by omega)))

end

section
variable {message : Message} {encoded : Encoded} {speakerSession : Nat} {outgoing : Bool}

/-- The bytes of a packet, as far as there is room for them. -/
def packetLength (message : Message) (encoded : Encoded) (speakerSession : Nat) (outgoing : Bool) (packetsN : Int)
    (i : Nat) : Nat :=
  min (int message.framesize + 10).toNat (1 + (if outgoing then 0 else (varint speakerSession).length) +
    (varint (quint64 (BitVec.ofInt 32 (i * 2)))).length + (varint (quint64 (opusHeader encoded packetsN i))).length +
      (BitVec.ofInt 32 (encoded i)).toNat)

theorem packetSize_eq (positive : 0 < int message.framesize) (packetsN : Int) (i : Nat) :
    packetSize message encoded speakerSession outgoing packetsN i =
      packetLength message encoded speakerSession outgoing packetsN i := by
  have room : 1 ≤ (int message.framesize + 10).toNat := by omega
  let opened : Writer := { maxsize := (int message.framesize + 10).toNat, bytes := [0x80] }
  let numbers : List Nat := (if outgoing then [] else [speakerSession]) ++
    [quint64 (BitVec.ofInt 32 (i * 2)), quint64 (opusHeader encoded packetsN i)]
  have first : Writer.append { maxsize := (int message.framesize + 10).toNat } 0x80 = opened :=
    if_pos room
  have puts : packetSize message encoded speakerSession outgoing packetsN i =
      ((numbers.foldl Writer.put opened).appendBytes
        (List.replicate (BitVec.ofInt 32 (encoded i)).toNat 0)).bytes.length := by
    unfold packetSize
    rw [first]
    cases outgoing <;> rfl
  obtain ⟨size, within⟩ := @Writer.puts_within opened room numbers
  rw [puts, Writer.appendBytes_length (by rw [size]; exact within), @Writer.puts_length opened room, size,
    List.length_replicate]
  unfold packetLength
  have head : opened.bytes.length = 1 := rfl
  have whole : (numbers.flatMap varint).length = (if outgoing then 0 else (varint speakerSession).length) +
      (varint (quint64 (BitVec.ofInt 32 (i * 2)))).length + (varint (quint64 (opusHeader encoded packetsN i))).length := by
    cases outgoing <;> simp [numbers]
    omega
  change min opened.maxsize _ = min opened.maxsize _
  omega

/-! The packets of a request with frames of a positive size. -/

variable (message encoded speakerSession outgoing)

def quotient : Int := (int message.len).tdiv (int message.framesize)

def size (i : Nat) : Nat := packetLength message encoded speakerSession outgoing (quotient message) i

/-- Where packet `i` begins in the output. -/
def startOf (i : Nat) : Nat := ((List.range i).map (size message encoded speakerSession outgoing)).sum

def offsetsTo (i : Nat) : List Int :=
  (List.range (i + 1)).map fun k => (startOf message encoded speakerSession outgoing k : Int)

def sleepTime (i : Nat) : Int :=
  if 0 < int message.sleep then int message.sleep
  else (size message encoded speakerSession outgoing i * 8 * 1000000 : Int).tdiv (int message.bitrate)

variable {message encoded speakerSession outgoing}

theorem startOf_succ (i : Nat) : startOf message encoded speakerSession outgoing (i + 1) =
    startOf message encoded speakerSession outgoing i + size message encoded speakerSession outgoing i := by
  unfold startOf
  rw [List.range_succ, List.map_append, List.sum_append]
  simp

theorem startOf_mono {i k : Nat} (le : i ≤ k) :
    startOf message encoded speakerSession outgoing i ≤ startOf message encoded speakerSession outgoing k := by
  induction k with
  | zero =>
    rw [Nat.le_zero.mp le]
  | succ k ih =>
    rcases Nat.le_succ_iff.mp le with earlier | rfl
    · rw [startOf_succ]
      exact (ih earlier).trans (Nat.le_add_right _ _)
    · exact Nat.le_refl _

theorem offsetsTo_get {i k : Nat} (le : k ≤ i) :
    (offsetsTo message encoded speakerSession outgoing i).getD k 0 = startOf message encoded speakerSession outgoing k := by
  have inside : k < i + 1 := by omega
  simp [offsetsTo, List.getD_eq_getElem?_getD, inside]

theorem offsetsTo_succ (i : Nat) : offsetsTo message encoded speakerSession outgoing (i + 1) =
    offsetsTo message encoded speakerSession outgoing i ++ [(startOf message encoded speakerSession outgoing (i + 1) : Int)] := by
  unfold offsetsTo
  rw [List.range_succ, List.map_append]
  rfl

/-- The numbers of a request whose audio has a length and whose frames have one. -/
structure Sized (message : Message) : Prop where
  len : 0 ≤ int message.len
  doubles : int message.len < 1073741824
  framesize : 0 < int message.framesize

theorem Sized.quotient_spec (sized : Sized message) : 0 ≤ quotient message ∧
    quotient message * int message.framesize ≤ int message.len ∧ quotient message ≤ int message.len := by
  have natural : quotient message = int message.len / int message.framesize := Int.tdiv_eq_ediv_of_nonneg sized.len
  rw [natural]
  refine ⟨Int.ediv_nonneg sized.len sized.framesize.le, Int.ediv_mul_le _ sized.framesize.ne', ?_⟩
  exact Int.ediv_le_self _ sized.len

/-- Pass `i` of the loops. -/
theorem Sized.frame_end (sized : Sized message) {i : Nat} (pass : (i : Int) ≤ quotient message) :
    0 ≤ i * int message.framesize ∧ i * int message.framesize ≤ int message.len ∧
      (i ≠ quotient message → i * int message.framesize + int message.framesize ≤ int message.len) := by
  obtain ⟨_, whole, _⟩ := sized.quotient_spec
  have positive := sized.framesize
  refine ⟨Int.mul_nonneg (by omega) positive.le, ?_, fun other => ?_⟩
  · calc
      _ ≤ quotient message * int message.framesize := Int.mul_le_mul_of_nonneg_right pass positive.le
      _ ≤ _ := whole
  · calc
      _ = (i + 1) * int message.framesize := by rw [Int.add_mul, Int.one_mul]
      _ ≤ quotient message * int message.framesize := Int.mul_le_mul_of_nonneg_right (by omega) positive.le
      _ ≤ _ := whole

theorem sampleOffsets_ok {data_offset this_frame_size : Int} (start : 0 ≤ data_offset) (some : 0 ≤ this_frame_size)
    (inside : data_offset + this_frame_size < 2147483648) : sampleOffsets message data_offset this_frame_size = .ok () := by
  unfold sampleOffsets
  split
  next =>
    apply forM_ok
    intro j member
    rw [List.mem_range, Int.tdiv_eq_ediv_of_nonneg some] at member
    have twice : mul 2 j = .ok (2 * j) := mul_ok (by omega) (by omega)
    have low : add data_offset (2 * j) = .ok (data_offset + 2 * j) := add_ok (by omega) (by omega)
    have high : add (data_offset + 2 * j) 1 = .ok (data_offset + 2 * j + 1) := add_ok (by omega) (by omega)
    rw [bind_ok twice, bind_ok low, bind_ok high]
    rfl
  next => rfl

/-- The frame of a pass is inside of the data. -/
theorem Sized.frameSize_ok (sized : Sized message) {i : Nat} (pass : (i : Int) ≤ quotient message) :
    ∃ this_frame_size : Int, frameSize message (quotient message) (i * int message.framesize) i = .ok this_frame_size ∧
      0 ≤ this_frame_size ∧ i * int message.framesize + this_frame_size ≤ int message.len := by
  obtain ⟨start, inside, whole⟩ := sized.frame_end pass
  have doubles := sized.doubles
  unfold frameSize
  split
  next => exact ⟨_, sub_ok (by omega) (by omega), by omega, by omega⟩
  next other => exact ⟨_, rfl, sized.framesize.le, whole other⟩

/-- What a pass computes of its frame is an `int`. -/
theorem Sized.frame_ok (sized : Sized message) {i : Nat} (pass : (i : Int) ≤ quotient message)
    (rest : Run (List Int)) :
    (do
      let data_offset ← mul i (int message.framesize)
      let this_frame_size ← frameSize message (quotient message) data_offset i
      array (← div this_frame_size 2)
      sampleOffsets message data_offset this_frame_size
      array (int message.framesize)
      rest) = rest := by
  obtain ⟨start, inside, _⟩ := sized.frame_end pass
  obtain ⟨this_frame_size, left, length, within⟩ := sized.frameSize_ok pass
  have doubles := sized.doubles
  have halves : 0 ≤ this_frame_size.tdiv 2 := Int.tdiv_nonneg length (by decide)
  have offset : mul i (int message.framesize) = .ok (i * int message.framesize) := mul_ok (by omega) (by omega)
  have half : div this_frame_size 2 = .ok (this_frame_size.tdiv 2) := quotient_ok (by decide) (by omega)
  have samples : sampleOffsets message (i * int message.framesize) this_frame_size = .ok () :=
    sampleOffsets_ok start length (by omega)
  rw [bind_ok offset, bind_ok left, bind_ok half, bind_ok (array_ok halves), bind_ok samples,
    bind_ok (array_ok sized.framesize.le)]

/-- One pass of the encoding loop fails only where a packet does not fit, or ends too far behind. -/
theorem Sized.encodeFrame_eq (sized : Sized message) {i : Nat} (pass : (i : Int) ≤ quotient message) :
    encodeFrame message encoded speakerSession outgoing (quotient message) (offsetsTo message encoded speakerSession outgoing i) i =
      if int message.framesize + 10 < 2147483648 ∧ startOf message encoded speakerSession outgoing (i + 1) < 2147483648 then
        .ok (offsetsTo message encoded speakerSession outgoing (i + 1))
      else .error .arithmetic := by
  obtain ⟨natural, _, small⟩ := sized.quotient_spec
  have doubles := sized.doubles
  have positive := sized.framesize
  have bound := int_inRange message.framesize
  have sequence : mul i 2 = .ok (i * 2) := mul_ok (by omega) (by omega)
  have next : add i 1 = .ok (i + 1) := add_ok (by omega) (by omega)
  have packetSized : (packetSize message encoded speakerSession outgoing (quotient message) i : Int) =
      size message encoded speakerSession outgoing i := congrArg Nat.cast (packetSize_eq positive _ i)
  have ends := @startOf_succ message encoded speakerSession outgoing i
  unfold encodeFrame
  dsimp only
  rw [sized.frame_ok pass]
  by_cases room : int message.framesize + 10 < 2147483648
  · have packet : add (int message.framesize) 10 = .ok (int message.framesize + 10) := add_ok (by omega) (by omega)
    have buffer : array (int message.framesize + 10) = .ok () := array_ok (by omega)
    rw [bind_ok packet, bind_ok buffer, bind_ok sequence, offsetsTo_get (Nat.le_refl i), packetSized]
    by_cases fits : startOf message encoded speakerSession outgoing (i + 1) < 2147483648
    · have last : add (startOf message encoded speakerSession outgoing i) (size message encoded speakerSession outgoing i) =
          .ok (startOf message encoded speakerSession outgoing (i + 1)) := by
        rw [ends, Nat.cast_add]
        exact add_ok (by omega) (by omega)
      rw [if_pos ⟨room, fits⟩, bind_ok last, bind_ok next, offsetsTo_succ]
      rfl
    · have last : add (startOf message encoded speakerSession outgoing i) (size message encoded speakerSession outgoing i) =
          .error .arithmetic := add_fault (by omega)
      rw [if_neg fun both => fits both.2, bind_error last]
  · have packet : add (int message.framesize) 10 = .error .arithmetic := add_fault (by omega)
    rw [if_neg fun both => room both.1, bind_error packet]

/-- The airtime of a packet is computed up to a size of 268, if there is a rate. -/
theorem airtime_eq (size : Nat) (bitrate : Int) (rest : Int → Run (List Int)) :
    (do
      array (← add size 10)
      rest (← div (← mul (← mul size 8) 1000000) bitrate)) =
      if bitrate ≠ 0 ∧ size ≤ 268 then rest ((size * 8 * 1000000 : Int).tdiv bitrate) else .error .arithmetic := by
  by_cases buffered : size + 10 < 2147483648
  · have buffer : add size 10 = .ok (size + 10 : Int) := add_ok (by omega) (by omega)
    have allocated : array (size + 10 : Int) = .ok () := array_ok (by omega)
    rw [bind_ok buffer, bind_ok allocated]
    by_cases bits : size * 8 < 2147483648
    · have eightfold : mul size 8 = .ok (size * 8 : Int) := mul_ok (by omega) (by omega)
      rw [bind_ok eightfold]
      by_cases small : size ≤ 268
      · have scaled : mul (size * 8 : Int) 1000000 = .ok (size * 8 * 1000000 : Int) := mul_ok (by omega) (by omega)
        rw [bind_ok scaled]
        by_cases zero : bitrate = 0
        · have undefined : div (size * 8 * 1000000 : Int) bitrate = .error .arithmetic := by
            rw [zero]
            exact div_zero _
          rw [if_neg fun both => both.1 zero, bind_error undefined]
        · have implied := @quotient_ok (size * 8 * 1000000 : Int) _ zero (by omega)
          rw [if_pos ⟨zero, small⟩, bind_ok implied]
      · have scaled : mul (size * 8 : Int) 1000000 = .error .arithmetic := mul_fault (by omega)
        rw [if_neg fun both => small both.2, bind_error scaled]
    · have eightfold : mul size 8 = .error .arithmetic := mul_fault (by omega)
      rw [if_neg fun both => bits (by omega), bind_error eightfold]
  · have buffer : add size 10 = .error .arithmetic := add_fault (by omega)
    rw [if_neg fun both => buffered (by omega), bind_error buffer]

/-- One pass of the sending loop fails only where the packet is too large for its airtime to be computed. -/
theorem Sized.sendPacket_eq (sized : Sized message) {i : Nat} (pass : (i : Int) ≤ quotient message)
    {count : Nat} (listed : i < count) (fits : startOf message encoded speakerSession outgoing count < 2147483648) :
    sendPacket message (offsetsTo message encoded speakerSession outgoing count)
        ((List.range i).map (sleepTime message encoded speakerSession outgoing)) i =
      if int message.bitrate ≠ 0 ∧ size message encoded speakerSession outgoing i ≤ 268 then
        .ok ((List.range (i + 1)).map (sleepTime message encoded speakerSession outgoing))
      else .error .arithmetic := by
  obtain ⟨_, _, small⟩ := sized.quotient_spec
  have doubles := sized.doubles
  have ends := @startOf_succ message encoded speakerSession outgoing i
  have below := @startOf_mono message encoded speakerSession outgoing (i + 1) count listed
  have next : add i 1 = .ok (i + 1) := add_ok (by omega) (by omega)
  have difference : sub (startOf message encoded speakerSession outgoing (i + 1)) (startOf message encoded speakerSession outgoing i) =
      .ok (size message encoded speakerSession outgoing i) := by
    have equal : (startOf message encoded speakerSession outgoing (i + 1) : Int) - startOf message encoded speakerSession outgoing i =
        size message encoded speakerSession outgoing i := by omega
    rw [← equal]
    exact sub_ok (by omega) (by omega)
  unfold sendPacket
  rw [offsetsTo_get (show i + 1 ≤ count from listed), offsetsTo_get (Nat.le_of_lt listed), bind_ok difference, airtime_eq,
    bind_ok next, List.range_succ, List.map_append]
  rfl

/-- Every number the two threads compute is an `int`: packets have room, do not end too far behind, have a rate, and
are small enough for their airtime to be computed. -/
def Fits (message : Message) (encoded : Encoded) (speakerSession : Nat) (outgoing : Bool) : Prop :=
  int message.framesize + 10 < 2147483648 ∧
    startOf message encoded speakerSession outgoing (passes (quotient message)) < 2147483648 ∧
      int message.bitrate ≠ 0 ∧
        ∀ i < passes (quotient message), size message encoded speakerSession outgoing i ≤ 268

instance : Decidable (Fits message encoded speakerSession outgoing) := by
  unfold Fits
  infer_instance

theorem Sized.pass_iff (sized : Sized message) {i : Nat} :
    i < passes (quotient message) ↔ (i : Int) ≤ quotient message := by
  have natural := sized.quotient_spec.1
  unfold passes
  omega

theorem Sized.spoofAudioPackets_eq (sized : Sized message) : spoofAudioPackets message encoded speakerSession outgoing =
    if int message.framesize + 10 < 2147483648 ∧
        startOf message encoded speakerSession outgoing (passes (quotient message)) < 2147483648 then
      .ok (offsetsTo message encoded speakerSession outgoing (passes (quotient message)))
    else .error .arithmetic := by
  have bound := int_inRange message.len
  have divided : div (int message.len) (int message.framesize) = .ok (quotient message) :=
    quotient_ok sized.framesize.ne' ⟨by have := sized.len; omega, bound.2⟩
  have first : 0 < passes (quotient message) := sized.pass_iff.mpr sized.quotient_spec.1
  have whole := @foldlM_guarded _ _ (encodeFrame message encoded speakerSession outgoing (quotient message))
    (offsetsTo message encoded speakerSession outgoing) _ _ Fault.arithmetic (passes (quotient message))
    fun i pass => sized.encodeFrame_eq (sized.pass_iff.mp pass)
  have guards : (∀ i < passes (quotient message), int message.framesize + 10 < 2147483648 ∧
        startOf message encoded speakerSession outgoing (i + 1) < 2147483648) ↔
      int message.framesize + 10 < 2147483648 ∧
        startOf message encoded speakerSession outgoing (passes (quotient message)) < 2147483648 := by
    constructor
    · intro each
      have last := each (passes (quotient message) - 1) (by omega)
      rwa [Nat.sub_add_cancel first] at last
    · intro both i pass
      exact ⟨both.1, Nat.lt_of_le_of_lt (startOf_mono pass) both.2⟩
  unfold spoofAudioPackets
  rw [bind_ok divided]
  calc
    _ = _ := whole
    _ = _ := if_congr guards rfl rfl

/-- The pauses of a request whose audio and frames have a length. -/
theorem Sized.sendAudio_eq (sized : Sized message) :
    sendAudio message encoded speakerSession outgoing =
      if Fits message encoded speakerSession outgoing then
        .ok ((List.range (passes (quotient message))).map (sleepTime message encoded speakerSession outgoing))
      else .error .arithmetic := by
  obtain ⟨natural, _, small⟩ := sized.quotient_spec
  have len := sized.len
  have doubles := sized.doubles
  have divided : div (int message.len) (int message.framesize) = .ok (quotient message) :=
    quotient_ok sized.framesize.ne' (by omega)
  have output : mul (int message.len) 2 = .ok (int message.len * 2) := mul_ok (by omega) (by omega)
  have allocated : array (int message.len * 2) = .ok () := array_ok (by omega)
  have count : add (quotient message) 1 = .ok (quotient message + 1) := add_ok (by omega) (by omega)
  have listed : array (quotient message + 1) = .ok () := array_ok (by omega)
  unfold sendAudio
  rw [bind_ok divided, bind_ok output, bind_ok allocated, bind_ok count, bind_ok listed, sized.spoofAudioPackets_eq]
  by_cases room : int message.framesize + 10 < 2147483648 ∧
      startOf message encoded speakerSession outgoing (passes (quotient message)) < 2147483648
  · have sent := @foldlM_guarded _ _ (sendPacket message
        (offsetsTo message encoded speakerSession outgoing (passes (quotient message))))
      (fun i => (List.range i).map (sleepTime message encoded speakerSession outgoing)) _ _ Fault.arithmetic
      (passes (quotient message)) fun i pass => sized.sendPacket_eq (sized.pass_iff.mp pass) pass room.2
    have first : 0 < passes (quotient message) := sized.pass_iff.mpr natural
    have guards : (∀ i < passes (quotient message), int message.bitrate ≠ 0 ∧
          size message encoded speakerSession outgoing i ≤ 268) ↔ Fits message encoded speakerSession outgoing := by
      constructor
      · intro each
        exact ⟨room.1, room.2, (each 0 first).1, fun i pass => (each i pass).2⟩
      · intro fits i pass
        exact ⟨fits.2.2.1, fits.2.2.2 i pass⟩
    rw [if_pos room]
    calc
      _ = _ := sent
      _ = _ := if_congr guards rfl rfl
  · rw [if_neg room, if_neg fun fits => room ⟨fits.1, fits.2.1⟩]
    rfl

/-! Requests of other sizes. -/

theorem sendAudio_framesize_zero (none : int message.framesize = 0) :
    sendAudio message encoded speakerSession outgoing = .error .arithmetic := by
  have divided : div (int message.len) (int message.framesize) = .error .arithmetic := by
    rw [none]
    exact div_zero _
  exact bind_error divided _

theorem sendAudio_len_large (large : int message.len < -1073741824 ∨ 1073741824 ≤ int message.len) :
    sendAudio message encoded speakerSession outgoing = .error .arithmetic := by
  have doubled : mul (int message.len) 2 = .error .arithmetic :=
    checked_error fun inside => by
      have bounds := inRange_iff.mp inside
      omega
  have quotients : (∃ q, div (int message.len) (int message.framesize) = .ok q) ∨
      div (int message.len) (int message.framesize) = .error .arithmetic := by
    unfold div Support.CheckedInt.div checked
    split
    next => exact .inr rfl
    next =>
      split
      next => exact .inl ⟨_, rfl⟩
      next => exact .inr rfl
  unfold sendAudio
  cases quotients with
  | inl divided =>
    obtain ⟨q, divided⟩ := divided
    rw [bind_ok divided, bind_error doubled]
  | inr failed => exact bind_error failed _

/-- The output of audio of a negative length is an array of a negative length. -/
theorem sendAudio_len_negative (negative : int message.len < 0) (doubles : -1073741824 ≤ int message.len)
    (some : int message.framesize ≠ 0) : sendAudio message encoded speakerSession outgoing = .error .array := by
  have divided : div (int message.len) (int message.framesize) = .ok (quotient message) :=
    quotient_ok some (by omega)
  have output : mul (int message.len) 2 = .ok (int message.len * 2) := mul_ok (by omega) (by omega)
  unfold sendAudio
  rw [bind_ok divided, bind_ok output, bind_error (array_fault (by omega))]

/-- With frames of a negative length there is one packet at most, whose frame is an array of this length. -/
theorem sendAudio_framesize_negative (len : 0 ≤ int message.len) (doubles : int message.len < 1073741824)
    (negative : int message.framesize < 0) :
    sendAudio message encoded speakerSession outgoing = .error .array ∨
      passes (quotient message) = 0 ∧ sendAudio message encoded speakerSession outgoing = .ok [] := by
  have bound := int_inRange message.framesize
  have nonpos : quotient message ≤ 0 := Int.tdiv_nonpos_of_nonneg_of_nonpos len negative.le
  have quotients : InRange 32 (quotient message) :=
    tdiv_inRange (inRange_iff.mpr (by omega)) (inRange_iff.mpr (by omega))
  have least := (inRange_iff.mp quotients).1
  have divided : div (int message.len) (int message.framesize) = .ok (quotient message) :=
    quotient_ok negative.ne (by omega)
  have output : mul (int message.len) 2 = .ok (int message.len * 2) := mul_ok (by omega) (by omega)
  have count : add (quotient message) 1 = .ok (quotient message + 1) :=
    add_ok (by omega) (by omega)
  unfold sendAudio
  rw [bind_ok divided, bind_ok output, bind_ok (array_ok (by omega)), bind_ok count]
  by_cases fewer : quotient message + 1 < 0
  · exact .inl (bind_error (array_fault fewer) _)
  · rw [bind_ok (array_ok (by omega))]
    unfold spoofAudioPackets
    rw [bind_ok divided]
    by_cases zero : quotient message = 0
    · -- The only packet is the last one, so its frame is all of the audio.
      have offset : mul (0 : Nat) (int message.framesize) = .ok 0 := by
        rw [mul_ok (by omega) (by omega), Int.natCast_zero, Int.zero_mul]
      have rest : frameSize message 0 0 0 = .ok (int message.len) := by
        have whole : sub (int message.len) 0 = .ok (int message.len - 0) := sub_ok (by omega) (by omega)
        rwa [Int.sub_zero] at whole
      have half : div (int message.len) 2 = .ok ((int message.len).tdiv 2) := quotient_ok (by decide) (by omega)
      have halves : 0 ≤ (int message.len).tdiv 2 := Int.tdiv_nonneg len (by decide)
      have samples : sampleOffsets message 0 (int message.len) = .ok () := sampleOffsets_ok (by omega) len (by omega)
      have first : encodeFrame message encoded speakerSession outgoing 0 [0] 0 = .error .array := by
        unfold encodeFrame
        rw [bind_ok offset, bind_ok rest, bind_ok half, bind_ok (array_ok halves), bind_ok samples,
          bind_error (array_fault negative)]
      rw [zero]
      have stops : (List.range (passes 0)).foldlM (encodeFrame message encoded speakerSession outgoing 0) [0] =
          .error .array := bind_error first _
      exact .inl (bind_error stops _)
    · have none : passes (quotient message) = 0 := by
        unfold passes
        omega
      rw [none]
      exact .inr ⟨rfl, rfl⟩

/-- The requests whose numbers are `int`s all the way. With a negative length of the audio or the frames, the threads
do not come as far as the packets. -/
def Total (message : Message) (encoded : Encoded) (speakerSession : Nat) (outgoing : Bool) : Prop :=
  int message.framesize ≠ 0 ∧ -1073741824 ≤ int message.len ∧ int message.len < 1073741824 ∧
    (0 ≤ int message.len → 0 < int message.framesize → Fits message encoded speakerSession outgoing)

theorem sendAudio_total : sendAudio message encoded speakerSession outgoing ≠ .error .arithmetic ↔
    Total message encoded speakerSession outgoing := by
  by_cases some : int message.framesize = 0
  · exact iff_of_false (fun total => total (sendAudio_framesize_zero some)) fun total => total.1 some
  by_cases doubles : -1073741824 ≤ int message.len ∧ int message.len < 1073741824
  · by_cases len : 0 ≤ int message.len
    · by_cases positive : 0 < int message.framesize
      · rw [Sized.sendAudio_eq ⟨len, doubles.2, positive⟩]
        constructor
        · intro total
          refine ⟨some, doubles.1, doubles.2, fun _ _ => ?_⟩
          by_contra large
          exact total (if_neg large)
        · intro total
          rw [if_pos (total.2.2.2 len positive)]
          exact ok_ne_error
      · have stops := @sendAudio_framesize_negative _ encoded speakerSession outgoing len doubles.2 (by omega)
        refine iff_of_true ?_ ⟨some, doubles.1, doubles.2, fun _ frames => absurd frames positive⟩
        rcases stops with failed | ⟨_, done⟩
        · rw [failed]
          decide
        · rw [done]
          decide
    · rw [sendAudio_len_negative (by omega) doubles.1 some]
      exact iff_of_true (by decide) ⟨some, doubles.1, doubles.2, fun audio => absurd audio len⟩
  · have large : int message.len < -1073741824 ∨ 1073741824 ≤ int message.len := by omega
    exact iff_of_false (fun total => total (sendAudio_len_large large)) fun total => doubles ⟨total.2.1, total.2.2.1⟩

end

/-- Nothing a thread computes is out of range exactly for the requests that `Total` describes. -/
theorem arithmetic_total_iff (message : Message) (encoded : Encoded) (speakerSession : Nat) :
    (doSpoofAudio message encoded speakerSession ≠ .error .arithmetic ↔ Total message encoded speakerSession true) ∧
      (doInjectAudio message encoded speakerSession ≠ .error .arithmetic ↔
        Total message encoded speakerSession false) := by
  refine ⟨sendAudio_total, ?_⟩
  rw [← sendAudio_total]
  unfold doInjectAudio
  cases sendAudio message encoded speakerSession false with
  | error fault => rfl
  | ok pauses => exact iff_of_true ok_ne_error ok_ne_error

/-- A frame of 20 ms at 48 kHz. No frame size, no bitrate, and a packet of 320 bytes. -/
theorem request_overflows :
    doSpoofAudio { len := 1920, bitrate := 40000 } (fun _ => 100) 7 = .error .arithmetic ∧
      doSpoofAudio { len := 1920, framesize := 1920 } (fun _ => 100) 7 = .error .arithmetic ∧
        doInjectAudio { len := 1920, framesize := 1920, bitrate := 128000 } (fun _ => 320) 7 = .error .arithmetic := by
  refine ⟨sendAudio_framesize_zero rfl, ?_, ?_⟩
  · have sized : Sized { len := 1920, framesize := 1920 } := ⟨by decide, by decide, by decide⟩
    exact sized.sendAudio_eq.trans (if_neg fun fits => fits.2.2.1 rfl)
  · have sized : Sized { len := 1920, framesize := 1920, bitrate := 128000 } := ⟨by decide, by decide, by decide⟩
    have large : ¬size { len := 1920, framesize := 1920, bitrate := 128000 } (fun _ => 320) 7 false 0 ≤ 268 := by decide
    have overflows := (@Sized.sendAudio_eq _ (fun _ => 320) 7 false sized).trans
      (if_neg fun fits => large (fits.2.2.2 0 (by decide)))
    unfold doInjectAudio
    rw [overflows]
    rfl

end DfStudy.AudioArithmetic
