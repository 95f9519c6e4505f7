import DfStudy.AudioBounds
import DfStudy.Support.LittleEndian

/-! The samples that are made of the bytes of a request, by the byte order the request says they are in. -/

namespace DfStudy.SampleOrder
open SpoofedAudio AudioBounds Support.LittleEndian

/-- The two bytes of each pair, the other way round. -/
def swapPairs : List UInt8 → List UInt8
  | first :: second :: rest => second :: first :: swapPairs rest
  | rest => rest

def byteAt (data : List UInt8) (offset : Nat) : UInt8 := data.getD offset 0

/-- The position a byte comes to by the swap. -/
def partner (offset : Nat) : Nat := if offset % 2 = 0 then offset + 1 else offset - 1

/-- The little-endian samples of a frame. -/
def samples (data : List UInt8) (data_offset this_frame_size : Nat) : List (BitVec 16) :=
  (List.range (this_frame_size / 2)).map fun j =>
    BitVec.ofNat 16 (natLE [byteAt data (data_offset + 2 * j), byteAt data (data_offset + 2 * j + 1)])

/-- The audio as it is, and as it is announced in the other order. -/
def plain (data : List UInt8) (len framesize : Nat) : Request := { data, len, bigEndian := false, framesize }

def swapped (data : List UInt8) (len framesize : Nat) : Request :=
  { data := swapPairs data, len, bigEndian := true, framesize }

/-- In every frame both requests give the encoder the little-endian samples of the data. -/
def Honoured (data : List UInt8) (len framesize : Nat) : Prop :=
  ∀ i ≤ packetsN (plain data len framesize),
    let frame_samples := samples data (i * framesize) (this_frame_size (plain data len framesize) i)
    frame (plain data len framesize) i = frame_samples ∧ frame (swapped data len framesize) i = frame_samples

/-- Swapping does not touch the bytes of the sample, as far as the sign of its first one leaves them alone. -/
def Unharmed (data : List UInt8) (offset : Nat) : Prop :=
  byteAt data (partner offset) = byteAt data offset ∧
    if byteAt data offset < 0x80 then byteAt data (partner (offset + 1)) = byteAt data (offset + 1)
    else byteAt data (offset + 1) = 0xFF

instance (data : List UInt8) (offset : Nat) : Decidable (Unharmed data offset) := by
  unfold Unharmed
  infer_instance

/-! Two bytes. -/

theorem append_inj {first second first' second' : BitVec 8} :
    second ++ first = second' ++ first' ↔ second = second' ∧ first = first' := by
  constructor
  · intro same
    have high := congrArg (BitVec.extractLsb' 8 8) same
    have low := congrArg (BitVec.extractLsb' 0 8) same
    simp only [BitVec.extractLsb'_append_eq_left, BitVec.extractLsb'_append_eq_right] at high low
    exact ⟨high, low⟩
  · rintro ⟨rfl, rfl⟩
    rfl

/-- The sign of the first byte is written over the second one. -/
theorem shiftAndOr (first second : BitVec 8) :
    (second.signExtend 32 <<< 8 ||| first.signExtend 32).setWidth 16 =
      (if first.msb then 0xFF#8 else second) ++ first := by
  apply BitVec.eq_of_getLsbD_eq
  intro i inside
  have word : i < 32 := by omega
  simp only [BitVec.getLsbD_setWidth, BitVec.getLsbD_or, BitVec.getLsbD_shiftLeft, BitVec.getLsbD_signExtend,
    BitVec.getLsbD_append]
  by_cases low : i < 8
  · simp [low, inside, word]
  · have second : i - 8 < 8 := by omega
    have ones : (0xFF#8).getLsbD (i - 8) = true := by
      have all : ∀ bit < 8, (0xFF#8).getLsbD bit = true := by decide
      exact all _ second
    have shifted : i - 8 < 32 := by omega
    cases sign : first.msb with
    | false => simp [low, inside, second, word, shifted]
    | true => simp [low, inside, word, ones]

theorem msb_iff (byte : UInt8) : (byte.toNat : BitVec 8).msb = true ↔ ¬byte < 0x80 := by
  have low := byte.toNat_lt
  rw [UInt8.lt_iff_toNat_lt, BitVec.msb_eq_decide]
  simp

theorem cast_inj {byte byte' : UInt8} : (byte.toNat : BitVec 8) = (byte'.toNat : BitVec 8) ↔ byte = byte' := by
  have low := byte.toNat_lt
  have low' := byte'.toNat_lt
  rw [← UInt8.toNat_inj, ← BitVec.toNat_inj]
  simp

/-- The bytes that are copied are those of the little-endian number. -/
theorem copied (first second : UInt8) :
    (second.toNat : BitVec 8) ++ (first.toNat : BitVec 8) = BitVec.ofNat 16 (natLE [first, second]) := by
  have low := first.toNat_lt
  have high := second.toNat_lt
  have sum : 256 * second.toNat ||| first.toNat = 256 * second.toNat + first.toNat :=
    (Nat.two_pow_add_eq_or_of_lt (i := 8) low second.toNat).symm
  apply BitVec.eq_of_toNat_eq
  rw [BitVec.toNat_append]
  simp only [BitVec.natCast_eq_ofNat, BitVec.toNat_ofNat, Nat.mod_eq_of_lt low, Nat.mod_eq_of_lt high, Nat.shiftLeft_eq, natLE]
  rw [Nat.mul_comm, sum, Nat.mod_eq_of_lt (by omega)]
  omega

/-! The swap. -/

/-- Where every byte has a partner, it is found in the partner's place. -/
theorem byteAt_swapPairs (data : List UInt8) (even : data.length % 2 = 0) {offset : Nat} (inside : offset < data.length) :
    byteAt (swapPairs data) offset = byteAt data (partner offset) := by
  fun_induction swapPairs data generalizing offset with
  | case1 first second rest ih =>
    simp only [List.length_cons] at even inside
    match offset with
    | 0 => rfl
    | 1 => rfl
    | offset + 2 =>
      have later : byteAt (swapPairs rest) offset = byteAt rest (partner offset) := ih (by omega) (by omega)
      have moved : partner (offset + 2) = partner offset + 2 := by
        unfold partner
        split <;> split <;> omega
      rw [moved]
      exact later
  | case2 rest single =>
    match rest, even, inside with
    | [_], odd, _ => cases odd
    | first :: second :: rest, _, _ => exact absurd rfl (single first second rest)

/-! A sample. -/

theorem plain_sample (data : List UInt8) (len framesize data_offset this_frame_size : Nat) :
    dataIn (plain data len framesize) data_offset this_frame_size = samples data data_offset this_frame_size := by
  apply List.map_congr_left
  intro j _
  exact copied _ _

/-- The sample that is put together from the swapped bytes is the one meant just where the swap does no harm. -/
theorem swapped_sample (data : List UInt8) (even : data.length % 2 = 0) {offset : Nat} (inside : offset + 1 < data.length) :
    let first := byteAt (swapPairs data) offset
    let second := byteAt (swapPairs data) (offset + 1)
    (((second.toNat : BitVec 8).signExtend 32 <<< 8 ||| (first.toNat : BitVec 8).signExtend 32).setWidth 16 =
        BitVec.ofNat 16 (natLE [byteAt data offset, byteAt data (offset + 1)])) ↔ Unharmed data offset := by
  intro first second
  have low : first = byteAt data (partner offset) := byteAt_swapPairs data even (by omega)
  have high : second = byteAt data (partner (offset + 1)) := byteAt_swapPairs data even inside
  rw [shiftAndOr, ← copied, append_inj, cast_inj, low, and_comm]
  unfold Unharmed
  refine and_congr_right fun same => ?_
  rw [same]
  by_cases negative : byteAt data offset < 0x80
  · have sign : ¬((byteAt data offset).toNat : BitVec 8).msb = true := fun set => (msb_iff _).mp set negative
    rw [if_neg sign, if_pos negative, cast_inj, high]
  · have full : (0xFF#8 : BitVec 8) = ((0xFF : UInt8).toNat : BitVec 8) := rfl
    rw [if_pos ((msb_iff _).mpr negative), if_neg negative, full, cast_inj, eq_comm]

/-- With the other byte order the encoder is given the same samples as long as the swap does no harm to any of them. -/
theorem honoured_iff (data : List UInt8) (even : data.length % 2 = 0) (len framesize : Nat) (within : len ≤ data.length) :
    Honoured data len framesize ↔ ∀ i ≤ packetsN (plain data len framesize),
      ∀ j < this_frame_size (plain data len framesize) i / 2, Unharmed data (i * framesize + 2 * j) := by
  unfold Honoured
  refine forall_congr' fun i => forall_congr' fun pass => ?_
  have last : i * framesize + this_frame_size (plain data len framesize) i ≤ len := data_end pass
  have copies : frame (plain data len framesize) i =
      samples data (i * framesize) (this_frame_size (plain data len framesize) i) := plain_sample data len framesize _ _
  dsimp only
  rw [copies, eq_self_iff_true, true_and]
  have other : frame (swapped data len framesize) i =
      dataIn (swapped data len framesize) (i * framesize) (this_frame_size (plain data len framesize) i) := rfl
  rw [other]
  unfold dataIn samples
  rw [List.map_inj_left]
  refine forall_congr' fun j => ?_
  rw [List.mem_range]
  refine forall_congr' fun inside => ?_
  exact swapped_sample data even (by omega)

/-- In frames of an even size every sample is a pair of the data: both of its bytes have to be the same, and a negative
one has to be -1. -/
theorem unharmed_pair (data : List UInt8) (pair : Nat) : Unharmed data (2 * pair) ↔
    byteAt data (2 * pair) = byteAt data (2 * pair + 1) ∧
      (byteAt data (2 * pair) < 0x80 ∨ byteAt data (2 * pair) = 0xFF) := by
  have next : partner (2 * pair) = 2 * pair + 1 := if_pos (by omega)
  have back : partner (2 * pair + 1) = 2 * pair := if_neg (by omega)
  unfold Unharmed
  rw [next, back, eq_comm]
  refine and_congr_right fun same => ?_
  rw [← same]
  by_cases positive : byteAt data (2 * pair) < 0x80
  · simp [positive]
  · simp [positive]

theorem honoured_iff_sample : Honoured [7, 7, 0xFF, 0xFF] 4 2 :=
  (honoured_iff [7, 7, 0xFF, 0xFF] rfl 4 2 (Nat.le_refl 4)).mpr (by decide)

/-- The sample 1 comes out as 256. -/
theorem one_misread : frame (plain [1, 0] 2 2) 0 = [1] ∧ frame (swapped [1, 0] 2 2) 0 = [256] ∧
    ¬ ∀ (data : List UInt8) (framesize : Nat), data.length % 2 = 0 → Honoured data data.length framesize := by
  refine ⟨rfl, rfl, fun always => ?_⟩
  have honoured := (always [1, 0] 2 rfl 0 (Nat.zero_le _)).2
  exact absurd honoured (by decide)

end DfStudy.SampleOrder
