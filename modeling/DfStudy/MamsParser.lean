import DfStudy.Recordings
import DfStudy.Voice

/-! The parser of recordings: its numbers of variable length, and the Opus payload of a packet. -/

namespace DfStudy.MamsParser
open PacketData Recordings

/-! Bitwise operators on 32-bit numbers. -/

def byteAt (buffer : List UInt8) (position : Nat) : Nat := (buffer[position]?.getD 0).toNat

/-- An element of a buffer as an operand. Behind the end there is `undefined`, which counts as zero. -/
def operand (buffer : List UInt8) (position : Nat) : BitVec 32 := BitVec.ofNat 32 (byteAt buffer position)

/-- `<<` uses the low five bits of its right operand. -/
def shl (value : BitVec 32) (count : Nat) : BitVec 32 := value <<< (count % 32)

/-- The number, and the bytes it takes. Shifts bind tighter than `&`, and `&` tighter than `|`. -/
def readVarInt (buffer : List UInt8) (position : Nat) : Int × Nat :=
  let varintHead := operand buffer position
  let at_ := fun offset => operand buffer (position + offset)
  if varintHead &&& 0x80 = 0x00 then ((varintHead &&& 0x7f).toInt, 1)
  else if varintHead &&& 0xC0 = 0x80 then ((shl (varintHead &&& 0x3F) 8 ||| at_ 1).toInt, 2)
  else if varintHead &&& 0xF0 = 0xF0 ∧ varintHead &&& 0xFC = 0xF0 then
    ((shl (at_ 1) 24 ||| shl (at_ 2) 16 ||| shl (at_ 3) 8 ||| at_ 4).toInt, 5)
  else if varintHead &&& 0xF0 = 0xF0 ∧ varintHead &&& 0xFC = 0xF4 then
    ((shl (at_ 1) 56 ||| shl (at_ 2) 48 ||| shl (at_ 3) 40 ||| shl (at_ 4) 32 ||| shl (at_ 5) 24 |||
      shl (at_ 6) 16 ||| shl (at_ 7) 8 ||| at_ 8).toInt, 9)
  else if varintHead &&& 0xF0 = 0xF0 ∧ varintHead &&& 0xFC = 0xFC then ((~~~(varintHead &&& 0x03)).toInt, 1)
  else if varintHead &&& 0xF0 = 0xE0 then
    ((varintHead &&& shl 0x0F 24 ||| shl (at_ 1) 16 ||| shl (at_ 2) 8 ||| at_ 3).toInt, 4)
  else if varintHead &&& 0xE0 = 0xC0 then ((varintHead &&& shl 0x1F 16 ||| shl (at_ 1) 8 ||| at_ 2).toInt, 3)
  else (0, 0)

/-! The bit tests are comparisons, and disjoint bits are summed. -/

/-- The tests `readVarInt` makes on a head byte. -/
theorem head_tests : ∀ head : Fin 256,
    (BitVec.ofNat 32 head &&& 0x80 = 0x00 ↔ head.val < 0x80) ∧
    (BitVec.ofNat 32 head &&& 0xC0 = 0x80 ↔ 0x80 ≤ head.val ∧ head.val < 0xC0) ∧
    (BitVec.ofNat 32 head &&& 0xF0 = 0xF0 ↔ 0xF0 ≤ head.val) ∧
    (BitVec.ofNat 32 head &&& 0xFC = 0xF0 ↔ 0xF0 ≤ head.val ∧ head.val < 0xF4) ∧
    (BitVec.ofNat 32 head &&& 0xFC = 0xF4 ↔ 0xF4 ≤ head.val ∧ head.val < 0xF8) ∧
    (BitVec.ofNat 32 head &&& 0xFC = 0xFC ↔ 0xFC ≤ head.val) ∧
    (BitVec.ofNat 32 head &&& 0xF0 = 0xE0 ↔ 0xE0 ≤ head.val ∧ head.val < 0xF0) ∧
    (BitVec.ofNat 32 head &&& 0xE0 = 0xC0 ↔ 0xC0 ≤ head.val ∧ head.val < 0xE0) := by
  decide +kernel

/-- What is left of a head byte in each class. -/
theorem head_masks : ∀ head : Fin 256,
    BitVec.ofNat 32 head &&& 0x7f = BitVec.ofNat 32 (head.val % 0x80) ∧
    BitVec.ofNat 32 head &&& 0x3F = BitVec.ofNat 32 (head.val % 0x40) ∧
    BitVec.ofNat 32 head &&& shl 0x0F 24 = 0#32 ∧
    BitVec.ofNat 32 head &&& shl 0x1F 16 = 0#32 ∧
    (~~~(BitVec.ofNat 32 head &&& 0x03)).toInt = -1 - (head.val % 4 : Nat) := by
  decide +kernel

theorem shl_or {count low : Nat} (high : Nat) (short : count < 32) (below : low < 2 ^ count) :
    shl (BitVec.ofNat 32 high) count ||| BitVec.ofNat 32 low = BitVec.ofNat 32 (high * 2 ^ count + low) := by
  have shifted : shl (BitVec.ofNat 32 high) count = BitVec.ofNat 32 (high <<< count) := by
    unfold shl
    apply BitVec.eq_of_toNat_eq
    rw [Nat.mod_eq_of_lt short]
    simp [BitVec.toNat_shiftLeft, Nat.shiftLeft_eq]
  calc
    _ = BitVec.ofNat 32 (high <<< count ||| low) := by rw [shifted, BitVec.ofNat_or]
    _ = _ := by rw [← Nat.shiftLeft_add_eq_or_of_lt below, Nat.shiftLeft_eq]

theorem byteAt_lt (buffer : List UInt8) (position : Nat) : byteAt buffer position < 256 := UInt8.toNat_lt _

/-- The bytes from a position on as one number, the highest first. -/
def number (buffer : List UInt8) (position : Nat) : Nat → Nat
  | 0 => 0
  | count + 1 => byteAt buffer position * 256 ^ count + number buffer (position + 1) count

theorem number_lt (buffer : List UInt8) (position count : Nat) : number buffer position count < 256 ^ count := by
  induction count generalizing position with
  | zero => exact Nat.one_pos
  | succ count ih =>
    have head := byteAt_lt buffer position
    have rest := ih (position + 1)
    calc
      _ < byteAt buffer position * 256 ^ count + 256 ^ count := Nat.add_lt_add_left rest _
      _ = (byteAt buffer position + 1) * 256 ^ count := by ring
      _ ≤ 256 * 256 ^ count := Nat.mul_le_mul_right _ head
      _ = 256 ^ (count + 1) := by ring

theorem toInt_ofNat {value : Nat} (small : value < 2 ^ 31) : (BitVec.ofNat 32 value).toInt = value := by
  have same : (BitVec.ofNat 32 value).toNat = value := by
    rw [BitVec.toNat_ofNat]
    omega
  rw [BitVec.toInt_eq_toNat_of_lt (by omega), same]

/-- The number `readVarInt` reads behind a head for 64 bits: the upper half is shifted as if it was the lower one. -/
def folded (buffer : List UInt8) (position : Nat) : Int :=
  (BitVec.ofNat 32 (number buffer position 4) ||| BitVec.ofNat 32 (number buffer (position + 4) 4)).toInt

theorem word_two (buffer : List UInt8) (position : Nat) :
    shl (operand buffer position) 8 ||| operand buffer (position + 1) = BitVec.ofNat 32 (number buffer position 2) := by
  have low := byteAt_lt buffer (position + 1)
  unfold operand
  rw [shl_or _ (by decide) (by omega)]
  simp [number]

theorem word_three (buffer : List UInt8) (position : Nat) :
    shl (operand buffer position) 16 ||| shl (operand buffer (position + 1)) 8 ||| operand buffer (position + 2) =
      BitVec.ofNat 32 (number buffer position 3) := by
  have low := number_lt buffer (position + 1) 2
  rw [BitVec.or_assoc, word_two]
  unfold operand
  rw [shl_or _ (by decide) (by omega)]
  rfl

theorem word_four (buffer : List UInt8) (position : Nat) :
    shl (operand buffer position) 24 ||| shl (operand buffer (position + 1)) 16 |||
      shl (operand buffer (position + 2)) 8 ||| operand buffer (position + 3) =
      BitVec.ofNat 32 (number buffer position 4) := by
  have low := number_lt buffer (position + 1) 3
  rw [BitVec.or_assoc, BitVec.or_assoc, ← BitVec.or_assoc (shl _ 16), word_three]
  unfold operand
  rw [shl_or _ (by decide) (by omega)]
  rfl

/-- A count of 32 or more is taken modulo 32. -/
theorem shl_wraps (value : BitVec 32) :
    shl value 56 = shl value 24 ∧ shl value 48 = shl value 16 ∧ shl value 40 = shl value 8 ∧ shl value 32 = value :=
  ⟨rfl, rfl, rfl, BitVec.shiftLeft_zero value⟩

theorem word_eight (buffer : List UInt8) (position : Nat) :
    (shl (operand buffer position) 56 ||| shl (operand buffer (position + 1)) 48 |||
      shl (operand buffer (position + 2)) 40 ||| shl (operand buffer (position + 3)) 32 |||
      shl (operand buffer (position + 4)) 24 ||| shl (operand buffer (position + 5)) 16 |||
      shl (operand buffer (position + 6)) 8 ||| operand buffer (position + 7)).toInt = folded buffer position := by
  unfold folded
  rw [← word_four buffer position, ← word_four buffer (position + 4), (shl_wraps _).1, (shl_wraps _).2.1,
    (shl_wraps _).2.2.1, (shl_wraps _).2.2.2]
  simp only [BitVec.or_assoc]

/-- `readVarInt` in arithmetic, by the head byte. -/
theorem readVarInt_eq (buffer : List UInt8) (position : Nat) :
    readVarInt buffer position =
      (let head := byteAt buffer position
      if head < 0x80 then ((head : Int), 1)
      else if head < 0xC0 then (((head % 0x40 * 256 + byteAt buffer (position + 1) : Nat) : Int), 2)
      else if head < 0xE0 then ((number buffer (position + 1) 2 : Int), 3)
      else if head < 0xF0 then ((number buffer (position + 1) 3 : Int), 4)
      else if head < 0xF4 then ((BitVec.ofNat 32 (number buffer (position + 1) 4)).toInt, 5)
      else if head < 0xF8 then (folded buffer (position + 1), 9)
      else if head < 0xFC then (0, 0)
      else (-1 - (head % 4 : Nat), 1)) := by
  have bound := byteAt_lt buffer position
  obtain ⟨seven, fourteen, long, word, double, short, twentyEight, twentyOne⟩ := head_tests ⟨_, bound⟩
  obtain ⟨low, middle, none28, none21, inverted⟩ := head_masks ⟨_, bound⟩
  dsimp only at seven fourteen long word double short twentyEight twentyOne low middle none28 none21 inverted
  unfold readVarInt
  have head : operand buffer position = BitVec.ofNat 32 (byteAt buffer position) := rfl
  dsimp only
  rw [head]
  simp only [seven, fourteen, long, word, double, short, twentyEight, twentyOne]
  -- The two chains of tests differ in their order only.
  split_ifs <;> try omega
  · next small => rw [low, Nat.mod_eq_of_lt small, toInt_ofNat (by omega)]
  · have next := byteAt_lt buffer (position + 1)
    unfold operand
    rw [middle, shl_or _ (by decide) (by omega), toInt_ofNat (by omega)]
    rfl
  · rw [word_four]
  · rw [word_eight]
  · rw [inverted]
  · have bounded := number_lt buffer (position + 1) 3
    rw [none28, BitVec.zero_or, word_three, toInt_ofNat (by omega)]
  · have bounded := number_lt buffer (position + 1) 2
    rw [none21, BitVec.zero_or, word_two, toInt_ofNat (by omega)]
  · rfl

/-! Numbers the encoder has written. -/

theorem byteAt_behind (before rest : List UInt8) (offset : Nat) :
    byteAt (before ++ rest) (before.length + offset) = byteAt rest offset := by
  unfold byteAt
  rw [List.getElem?_append_right (Nat.le_add_right ..), Nat.add_sub_cancel_left]

theorem number_behind (before rest : List UInt8) (offset count : Nat) :
    number (before ++ rest) (before.length + offset) count = number rest offset count := by
  induction count generalizing offset with
  | zero => rfl
  | succ count ih =>
    have next := ih (offset + 1)
    rw [← Nat.add_assoc] at next
    rw [number, number, byteAt_behind, next]

theorem number_tail (head : UInt8) (bytes : List UInt8) (offset count : Nat) :
    number (head :: bytes) (offset + 1) count = number bytes offset count := by
  have behind := number_behind [head] bytes offset count
  rwa [List.length_singleton, Nat.add_comm] at behind

theorem number_bytesBE (count value : Nat) (after : List UInt8) :
    number (bytesBE count value ++ after) 0 count = value % 256 ^ count := by
  induction count with
  | zero => rw [number, Nat.pow_zero, Nat.mod_one]
  | succ count ih =>
    have digit : (UInt8.ofNat (value / 256 ^ count)).toNat = value / 256 ^ count % 256 := by simp
    calc
      _ = (UInt8.ofNat (value / 256 ^ count)).toNat * 256 ^ count + value % 256 ^ count := by
        rw [bytesBE, List.cons_append, number, number_tail, ih]
        rfl
      _ = _ := by
        rw [digit, Nat.pow_succ, Nat.mod_mul]
        ring

theorem folded_behind (before rest : List UInt8) (offset : Nat) :
    folded (before ++ rest) (before.length + offset) = folded rest offset := by
  unfold folded
  rw [number_behind, Nat.add_assoc, number_behind]

/-- Only what lies behind the position counts. -/
theorem readVarInt_behind (before rest : List UInt8) :
    readVarInt (before ++ rest) before.length = readVarInt rest 0 := by
  have head : byteAt (before ++ rest) before.length = byteAt rest 0 := byteAt_behind before rest 0
  rw [readVarInt_eq, readVarInt_eq, head, byteAt_behind, number_behind, number_behind, number_behind, folded_behind,
    Nat.zero_add]

/-- `readVarInt` at the start of a buffer. -/
theorem readVarInt_cons {head : Nat} (byte : head < 256) (bytes : List UInt8) :
    readVarInt (UInt8.ofNat head :: bytes) 0 =
      if head < 0x80 then ((head : Int), 1)
      else if head < 0xC0 then (((head % 0x40 * 256 + number bytes 0 1 : Nat) : Int), 2)
      else if head < 0xE0 then ((number bytes 0 2 : Int), 3)
      else if head < 0xF0 then ((number bytes 0 3 : Int), 4)
      else if head < 0xF4 then ((BitVec.ofNat 32 (number bytes 0 4)).toInt, 5)
      else if head < 0xF8 then (folded bytes 0, 9)
      else if head < 0xFC then (0, 0)
      else (-1 - (head % 4 : Nat), 1) := by
  have first : byteAt (UInt8.ofNat head :: bytes) 0 = head := ofNat_toNat byte
  have second : byteAt (UInt8.ofNat head :: bytes) (0 + 1) = number bytes 0 1 := by
    unfold number
    simp [byteAt, number]
  have fold : folded (UInt8.ofNat head :: bytes) (0 + 1) = folded bytes 0 := folded_behind [UInt8.ofNat head] bytes 0
  rw [readVarInt_eq, first, second, number_tail, number_tail, number_tail, fold]

theorem folded_lt (buffer : List UInt8) (position : Nat) : folded buffer position < 2 ^ 31 := BitVec.toInt_lt

/-- A number below 2^32 comes out as the signed number with the same bits. -/
theorem toInt_ofNat_iff {value : Nat} (word : value < 2 ^ 32) :
    (BitVec.ofNat 32 value).toInt = value ↔ value < 2 ^ 31 := by
  constructor
  · intro same
    have below : (BitVec.ofNat 32 value).toInt < 2 ^ 31 := BitVec.toInt_lt
    omega
  · exact toInt_ofNat

/-- What `readVarInt` makes of a number without a sign. It always takes the bytes that were written. -/
theorem readVarInt_unsigned (i : Nat) (after : List UInt8) :
    ∃ x : Int, readVarInt (unsignedVarint i ++ after) 0 = (x, (unsignedVarint i).length) ∧
      (x = i ↔ i < 2 ^ 16 ∨ 2 ^ 21 ≤ i ∧ i < 2 ^ 24 ∨ 2 ^ 28 ≤ i ∧ i < 2 ^ 31) := by
  unfold unsignedVarint
  split
  next seven =>
    rw [List.singleton_append, readVarInt_cons (by omega), if_pos seven]
    exact ⟨i, rfl, by omega⟩
  next =>
  split
  next fourteen =>
    rw [List.cons_append, readVarInt_cons (by omega), if_neg (by omega), if_pos (by omega), number_bytesBE]
    exact ⟨_, rfl, by omega⟩
  next =>
  split
  next twentyOne =>
    rw [List.cons_append, readVarInt_cons (by omega), if_neg (by omega), if_neg (by omega), if_pos (by omega),
      number_bytesBE]
    exact ⟨_, rfl, by omega⟩
  next =>
  split
  next twentyEight =>
    rw [List.cons_append, readVarInt_cons (by omega), if_neg (by omega), if_neg (by omega), if_neg (by omega),
      if_pos (by omega), number_bytesBE]
    exact ⟨_, rfl, by omega⟩
  next =>
  split
  next word =>
    have head : (0xF0 : UInt8) = UInt8.ofNat 0xF0 := rfl
    rw [List.cons_append, head, readVarInt_cons (by decide)]
    norm_num only [if_true, if_false]
    rw [number_bytesBE, Nat.mod_eq_of_lt (by omega)]
    have signed := toInt_ofNat_iff word
    exact ⟨_, rfl, by omega⟩
  next =>
    have head : (0xF4 : UInt8) = UInt8.ofNat 0xF4 := rfl
    have below := folded_lt (bytesBE 8 i ++ after) 0
    rw [List.cons_append, head, readVarInt_cons (by decide)]
    norm_num only [if_true, if_false]
    exact ⟨_, rfl, by omega⟩

/-- At the place of a number below 2^53, `readVarInt` reads that number, and the bytes it takes, exactly if it is
below 2^16, or among the upper ones of its 21-bit, 28-bit or 32-bit class that lose nothing. -/
theorem readVarInt_written {v : Nat} (safe : v < 2 ^ 53) (before after : List UInt8) :
    readVarInt (before ++ (varint v ++ after)) before.length = ((v : Int), (varint v).length) ↔
      v < 2 ^ 16 ∨ 2 ^ 21 ≤ v ∧ v < 2 ^ 24 ∨ 2 ^ 28 ≤ v ∧ v < 2 ^ 31 := by
  obtain ⟨x, reads, same⟩ := readVarInt_unsigned v after
  rw [readVarInt_behind, varint_unsigned (by omega), reads, Prod.mk.injEq]
  exact ⟨fun equal => same.mp equal.1, fun small => ⟨same.mpr small, rfl⟩⟩

theorem readVarInt_written_sample : 300 < 2 ^ 53 ∧
    (readVarInt ([0x80] ++ (varint 300 ++ [7])) [0x80].length = (300, (varint 300).length) ↔
      300 < 2 ^ 16 ∨ 2 ^ 21 ≤ 300 ∧ 300 < 2 ^ 24 ∨ 2 ^ 28 ≤ 300 ∧ 300 < 2 ^ 31) :=
  ⟨by decide, readVarInt_written (by decide) [0x80] [7]⟩

/-- 65536 is read back as 0. -/
theorem readVarInt_lossy : ¬ ∀ v < 2 ^ 53, ∀ before after : List UInt8,
    readVarInt (before ++ (varint v ++ after)) before.length = ((v : Int), (varint v).length) := by
  intro inverse
  have read := inverse 65536 (by decide) [] []
  have zero : readVarInt ([] ++ (varint 65536 ++ [])) ([] : List UInt8).length = (0, 3) := by decide
  rw [zero] at read
  exact absurd (congrArg Prod.fst read) (by decide)

/-! `extractData`. -/

/-- What ends the parser: a size or an offset out of range, or data the decoder refuses. -/
inductive Thrown where
  | outOfRange
  | decoder
  deriving DecidableEq

/-- `Buffer.alloc(length)`, and `buffer.copy` of as many bytes from `start` on. Releases of Node.js differ in whether
the start is checked when no byte is to be copied. -/
def allocCopy (checksEmpty : Bool) (buffer : List UInt8) (start : Nat) (length : Int) : Except Thrown (List UInt8) :=
  if length < 0 then .error .outOfRange
  else if buffer.length < start ∧ (0 < length ∨ checksEmpty) then .error .outOfRange
  else .ok (readInto length.toNat (buffer.drop start))

/-- Where the Opus header of a packet ends, and the length it holds. -/
def opusHeader (buffer : List UInt8) : Nat × Int :=
  let bufferPointer := 1
  let (_, seqBytes) := readVarInt buffer bufferPointer
  let bufferPointer := bufferPointer + seqBytes
  let (length, lenBytes) := readVarInt buffer bufferPointer
  (bufferPointer + lenBytes, length)

def extractOpusData (checksEmpty : Bool) (buffer : List UInt8) : Except Thrown (Option (List UInt8)) :=
  let (bufferPointer, length) := opusHeader buffer
  match allocCopy checksEmpty buffer bufferPointer length with
  | .error thrown => .error thrown
  | .ok dataBuffer => if length > buffer.length then .ok none else .ok (some dataBuffer)

/-- The type Opus is the only one with the top bit set that packets are sent with. -/
def isOpus (buffer : List UInt8) : Bool := 0b10000000 &&& operand buffer 0 = 0b10000000

def extractData (checksEmpty : Bool) (buffer : List UInt8) : Except Thrown (Option (List UInt8)) :=
  if isOpus buffer then extractOpusData checksEmpty buffer else .ok none

theorem isOpus_iff (buffer : List UInt8) : isOpus buffer = true ↔ 0x80 ≤ byteAt buffer 0 := by
  have table : ∀ head : Fin 256, (0b10000000 &&& BitVec.ofNat 32 head = 0b10000000 ↔ 0x80 ≤ head.val) := by
    decide +kernel
  unfold isOpus
  rw [decide_eq_true_iff]
  exact table ⟨_, byteAt_lt buffer 0⟩

/-! Packets as clients send them. -/

/-- A voice packet with Opus data. `terminator` marks the end of an utterance. -/
structure OpusPacket where
  target : Fin 0x20
  sequence : Fin (2 ^ 64)
  terminator : Bool
  payload : List UInt8
  positional : List UInt8
  payload_pos : 0 < payload.length
  payload_le : payload.length ≤ 0x1fff

namespace OpusPacket

/-- `s`, or `s | 0x2000`. -/
def size (packet : OpusPacket) : Nat := packet.payload.length + if packet.terminator then 0x2000 else 0

def start (packet : OpusPacket) : List UInt8 :=
  UInt8.ofNat (0x80 + packet.target) :: varint packet.sequence

def bytes (packet : OpusPacket) : List UInt8 :=
  packet.start ++ (varint packet.size ++ (packet.payload ++ packet.positional))

theorem size_lt (packet : OpusPacket) : packet.size < 0x4000 := by
  have short := packet.payload_le
  unfold size
  split <;> omega

theorem bytes_isOpus (packet : OpusPacket) : isOpus packet.bytes = true := by
  have small := packet.target.isLt
  have head : byteAt packet.bytes 0 = 0x80 + packet.target := ofNat_toNat (by omega)
  rw [isOpus_iff, head]
  omega

end OpusPacket

/-- The numbers that are written as a prefix and their complement. -/
def Prefixed (value : Nat) : Prop := 2 ^ 63 ≤ value ∧ 0x3 < complement value ∧ complement value < 0x100000000

instance (value : Nat) : Decidable (Prefixed value) := inferInstanceAs (Decidable (_ ∧ _ ∧ _))

theorem readVarInt_prefixed {value : Nat} (prefixed : Prefixed value) (after : List UInt8) :
    readVarInt (varint value ++ after) 0 = (0, 0) := by
  have head : (0xF8 : UInt8) = UInt8.ofNat 0xF8 := rfl
  unfold varint
  rw [if_pos ⟨prefixed.1, prefixed.2.2⟩, if_neg (by have large := prefixed.2.1; omega), List.cons_append, head,
    readVarInt_cons (by decide)]
  rfl

theorem readVarInt_bytes {value : Nat} (plain : ¬ Prefixed value) (after : List UInt8) :
    (readVarInt (varint value ++ after) 0).2 = (varint value).length := by
  unfold varint
  split
  next negative =>
    have short : complement value ≤ 0x3 := by
      by_contra large
      exact plain ⟨negative.1, by omega, negative.2⟩
    rw [if_pos short, List.singleton_append, readVarInt_cons (by omega), if_neg (by omega), if_neg (by omega),
      if_neg (by omega), if_neg (by omega), if_neg (by omega), if_neg (by omega), if_neg (by omega)]
    rfl
  next =>
    obtain ⟨x, reads, -⟩ := readVarInt_unsigned value after
    rw [reads]

theorem readVarInt_small {value : Nat} (small : value < 2 ^ 16) (after : List UInt8) :
    readVarInt (varint value ++ after) 0 = ((value : Int), (varint value).length) := by
  obtain ⟨x, reads, same⟩ := readVarInt_unsigned value after
  rw [varint_unsigned (by omega), reads, same.mpr (Or.inl small)]

/-- The header is found behind sequence numbers of every other kind. -/
theorem opusHeader_plain (packet : OpusPacket) (plain : ¬ Prefixed packet.sequence) :
    opusHeader packet.bytes = (packet.start.length + (varint packet.size).length, (packet.size : Int)) := by
  have small := packet.size_lt
  have skipped : (readVarInt packet.bytes 1).2 = (varint packet.sequence).length := by
    have behind := readVarInt_behind [UInt8.ofNat (0x80 + packet.target)]
      (varint packet.sequence ++ (varint packet.size ++ (packet.payload ++ packet.positional)))
    exact (congrArg Prod.snd behind).trans (readVarInt_bytes plain _)
  have place : 1 + (varint packet.sequence).length = packet.start.length := Nat.add_comm ..
  have header : readVarInt packet.bytes packet.start.length = ((packet.size : Int), (varint packet.size).length) :=
    (readVarInt_behind packet.start _).trans (readVarInt_small (by omega) _)
  unfold opusHeader
  dsimp only
  rw [skipped, place, header]

/-- Behind a prefix nothing is read, twice. -/
theorem opusHeader_prefixed (packet : OpusPacket) (prefixed : Prefixed packet.sequence) :
    opusHeader packet.bytes = (1, 0) := by
  have nothing : readVarInt packet.bytes 1 = (0, 0) := by
    have behind := readVarInt_behind [UInt8.ofNat (0x80 + packet.target)]
      (varint packet.sequence ++ (varint packet.size ++ (packet.payload ++ packet.positional)))
    exact behind.trans (readVarInt_prefixed prefixed _)
  unfold opusHeader
  simp only [nothing, Nat.add_zero]

theorem extractData_opus (checksEmpty : Bool) (packet : OpusPacket) :
    extractData checksEmpty packet.bytes = extractOpusData checksEmpty packet.bytes := if_pos packet.bytes_isOpus

/-- Without the terminator, exactly the payload is copied. -/
theorem extractData_plain (checksEmpty : Bool) {packet : OpusPacket} (plain : ¬ Prefixed packet.sequence)
    (running : packet.terminator = false) : extractData checksEmpty packet.bytes = .ok (some packet.payload) := by
  have size : packet.size = packet.payload.length := by
    unfold OpusPacket.size
    rw [running]
    rfl
  have rest : packet.bytes.drop (packet.start.length + (varint packet.size).length) =
      packet.payload ++ packet.positional := by
    unfold OpusPacket.bytes
    rw [← List.drop_drop, List.drop_left' rfl, List.drop_left' rfl]
  have room : packet.start.length + (varint packet.size).length + packet.payload.length ≤ packet.bytes.length := by
    unfold OpusPacket.bytes
    simp only [List.length_append]
    omega
  have copied : allocCopy checksEmpty packet.bytes (packet.start.length + (varint packet.size).length)
      packet.size = .ok packet.payload := by
    unfold allocCopy
    rw [if_neg (by omega), if_neg (by omega), rest, size, Int.toNat_natCast, readInto_exact (by simp),
      List.take_left' rfl]
  rw [extractData_opus]
  unfold extractOpusData
  rw [opusHeader_plain packet plain]
  dsimp only
  rw [copied]
  exact if_neg (by omega)

/-- With the terminator, more bytes are copied than there are in the payload, or none. -/
theorem extractData_terminator (checksEmpty : Bool) {packet : OpusPacket} (plain : ¬ Prefixed packet.sequence)
    (last : packet.terminator = true) : extractData checksEmpty packet.bytes ≠ .ok (some packet.payload) := by
  have size : packet.size = packet.payload.length + 0x2000 := by
    unfold OpusPacket.size
    rw [last]
    rfl
  intro found
  rw [extractData_opus] at found
  unfold extractOpusData at found
  rw [opusHeader_plain packet plain] at found
  dsimp only at found
  unfold allocCopy at found
  split at found
  next => cases found
  next copied allocated =>
    split at allocated
    · cases allocated
    split at allocated
    · cases allocated
    cases allocated
    split at found
    · cases found
    have long : (readInto (packet.size : Int).toNat (packet.bytes.drop (packet.start.length +
        (varint packet.size).length))).length = packet.size := by
      simp only [readInto, List.length_append, List.length_take, List.length_replicate, Int.toNat_natCast]
      omega
    rw [Except.ok.injEq, Option.some.injEq] at found
    rw [found] at long
    omega

/-- Behind a prefixed sequence number, the length is taken to be zero. -/
theorem extractData_prefixed (checksEmpty : Bool) {packet : OpusPacket} (prefixed : Prefixed packet.sequence) :
    extractData checksEmpty packet.bytes ≠ .ok (some packet.payload) := by
  have some : 1 ≤ packet.bytes.length := Nat.succ_le_succ (Nat.zero_le _)
  have empty : allocCopy checksEmpty packet.bytes 1 0 = .ok [] := by
    unfold allocCopy
    rw [if_neg (by decide), if_neg (by omega)]
    simp [readInto]
  have there := packet.payload_pos
  intro found
  rw [extractData_opus] at found
  unfold extractOpusData at found
  rw [opusHeader_prefixed packet prefixed] at found
  dsimp only at found
  rw [empty] at found
  dsimp only at found
  rw [if_neg (by omega), Except.ok.injEq, Option.some.injEq] at found
  rw [← found] at there
  exact absurd there (by decide)

/-! What the voice server takes for the voice data. -/

/-- The bytes `Server::processMsg` skips. -/
def skipped (data : List UInt8) : List UInt8 :=
  let pdi : Reader := (Reader.get { rest := data.tail }).2
  let (size, pdi) := pdi.get
  pdi.rest.take (size % 0x2000)

theorem reader_header (packet : OpusPacket) :
    (Reader.get { rest := packet.bytes.tail }).2.get =
      (packet.size, { rest := packet.payload ++ packet.positional }) := by
  have small := packet.size_lt
  have tail : packet.bytes.tail = varint packet.sequence ++
      (varint packet.size ++ (packet.payload ++ packet.positional)) := rfl
  rw [tail, get_varint packet.sequence.isLt]
  exact get_varint (by omega) _ _

theorem size_payload (packet : OpusPacket) : packet.size % 0x2000 = packet.payload.length := by
  have short := packet.payload_le
  unfold OpusPacket.size
  split <;> omega

theorem skipped_payload (packet : OpusPacket) : skipped packet.bytes = packet.payload := by
  unfold skipped
  dsimp only
  rw [reader_header]
  dsimp only
  rw [size_payload, List.take_left' rfl]

/-- What is left to the voice server is the positional data, unless there would be more of it than there is to send. -/
theorem rebuild_poslen (session : Nat) (packet : OpusPacket) :
    (Voice.rebuild session packet.bytes).poslen =
      if (Voice.rebuild session packet.bytes).bytes.length + 1 < packet.positional.length then 0
      else packet.positional.length := by
  have small := packet.target.isLt
  have head : Voice.header packet.bytes = 0x80 + packet.target := ofNat_toNat (by omega)
  have opus : Voice.header packet.bytes / 0x20 * 0x20 / 0x20 = Voice.UDPVoiceOpus := by
    rw [head]
    change _ = 4
    omega
  have rest : (Reader.skip { rest := packet.payload ++ packet.positional } packet.payload.length).left =
      packet.positional.length := by
    unfold Reader.skip
    rw [if_pos (by simp [Reader.left])]
    simp [Reader.left]
  unfold Voice.rebuild
  simp only [opus, ne_eq, not_true_eq_false, if_false, reader_header, size_payload, rest]

/-- The parser finds the bytes the voice server skips exactly if the packet does not end an utterance, and its sequence
number is not written behind a prefix. -/
theorem extractData_skipped (checksEmpty : Bool) (packet : OpusPacket) :
    skipped packet.bytes = packet.payload ∧
      (extractData checksEmpty packet.bytes = .ok (some (skipped packet.bytes)) ↔
        packet.terminator = false ∧ ¬ Prefixed packet.sequence) := by
  refine ⟨skipped_payload packet, ?_⟩
  rw [skipped_payload]
  constructor
  · intro found
    have plain : ¬ Prefixed packet.sequence := fun prefixed => extractData_prefixed checksEmpty prefixed found
    refine ⟨?_, plain⟩
    by_contra last
    exact extractData_terminator checksEmpty plain (eq_true_of_ne_false last) found
  · intro ⟨running, plain⟩
    exact extractData_plain checksEmpty plain running

/-- The end of an utterance, one byte long. -/
def lastPacket : OpusPacket where
  target := 0
  sequence := 0
  terminator := true
  payload := [1]
  positional := []
  payload_pos := by decide
  payload_le := by decide

theorem lastPacket_dropped : ¬ ∀ (checksEmpty : Bool) (packet : OpusPacket),
    extractData checksEmpty packet.bytes = .ok (some (skipped packet.bytes)) := by
  intro agree
  have found := agree true lastPacket
  have dropped : extractData true lastPacket.bytes = .ok none := by decide +kernel
  rw [dropped] at found
  cases found

end DfStudy.MamsParser
