import Mathlib.Data.List.Basic
import Mathlib.Tactic.Ring
import Mathlib.Tactic.SplitIfs

/-! `PacketDataStream`: bytes and numbers of variable length in a buffer of fixed size. A `quint64` is a
number below 2^64. Masks of low bits are remainders, and shifted bytes that do not overlap are summed. -/

namespace DfStudy.PacketData

/-! Writing. -/

/-- A stream over a buffer. `bytes` is what has been written to it, up to `offset`. -/
structure Writer where
  maxsize : Nat
  bytes : List UInt8 := []
  overshoot : Nat := 0
  ok : Bool := true
  deriving DecidableEq

namespace Writer

def left (pds : Writer) : Nat := pds.maxsize - pds.bytes.length

def append (pds : Writer) (byte : UInt8) : Writer :=
  if pds.bytes.length < pds.maxsize then { pds with bytes := pds.bytes ++ [byte] }
  else { pds with ok := false, overshoot := pds.overshoot + 1 }

/-- What does not fit is not cut off: zeros are written in its place, up to the end of the buffer. -/
def appendBytes (pds : Writer) (data : List UInt8) : Writer :=
  if data.length ≤ pds.left then { pds with bytes := pds.bytes ++ data }
  else { pds with
    bytes := pds.bytes ++ List.replicate pds.left 0
    overshoot := pds.overshoot + (data.length - pds.left)
    ok := false }

end Writer

/-- The lowest `count` bytes of a number, the highest first. -/
def bytesBE : Nat → Nat → List UInt8
  | 0, _ => []
  | count + 1, value => UInt8.ofNat (value / 256 ^ count) :: bytesBE count value

/-- The bytes of a number without a sign. -/
def unsignedVarint (i : Nat) : List UInt8 :=
  if i < 0x80 then [UInt8.ofNat i]
  else if i < 0x4000 then UInt8.ofNat (0x80 + i / 2 ^ 8) :: bytesBE 1 i
  else if i < 0x200000 then UInt8.ofNat (0xC0 + i / 2 ^ 16) :: bytesBE 2 i
  else if i < 0x10000000 then UInt8.ofNat (0xE0 + i / 2 ^ 24) :: bytesBE 3 i
  else if i < 0x100000000 then 0xF0 :: bytesBE 4 i
  else 0xF4 :: bytesBE 8 i

/-- `~i`. -/
def complement (i : Nat) : Nat := 2 ^ 64 - 1 - i

/-- The bytes `operator<<` writes. Numbers that are small and negative as signed ones are written as such. -/
def varint (value : Nat) : List UInt8 :=
  if 2 ^ 63 ≤ value ∧ complement value < 0x100000000 then
    if complement value ≤ 0x3 then [UInt8.ofNat (0xFC + complement value)]
    else 0xF8 :: unsignedVarint (complement value)
  else unsignedVarint value

def Writer.put (pds : Writer) (value : Nat) : Writer := (varint value).foldl Writer.append pds

/-! Reading. -/

/-- A stream over a packet. `rest` is what lies behind `offset`. -/
structure Reader where
  rest : List UInt8
  ok : Bool := true
  deriving DecidableEq

namespace Reader

def left (pdi : Reader) : Nat := pdi.rest.length

def skip (pdi : Reader) (len : Nat) : Reader :=
  if len ≤ pdi.left then { pdi with rest := pdi.rest.drop len } else { pdi with ok := false }

def next (pdi : Reader) : Nat × Reader :=
  match pdi.rest with
  | [] => (0, { pdi with ok := false })
  | byte :: rest => (byte.toNat, { pdi with rest })

/-- `next() << 8 | next()` and so on, from left to right, behind the bits already read. -/
def nexts : Nat → Nat → Reader → Nat × Reader
  | 0, high, pdi => (high, pdi)
  | count + 1, high, pdi => nexts count (high * 256 + pdi.next.1) pdi.next.2

end Reader

/-- `operator>>`. The number behind 0xF8 is read in the same way, so the bytes left bound the recursion. -/
def getVarint : Nat → Reader → Nat × Reader
  | 0, pdi => (0, { pdi with ok := false })
  | fuel + 1, pdi =>
    let (v, pdi) := pdi.next
    if v < 0x80 then (v, pdi)
    else if v < 0xC0 then pdi.nexts 1 (v % 0x40)
    else if v < 0xE0 then pdi.nexts 2 (v % 0x20)
    else if v < 0xF0 then pdi.nexts 3 (v % 0x10)
    else if v < 0xF4 then pdi.nexts 4 0
    else if v < 0xF8 then pdi.nexts 8 0
    else if v < 0xFC then
      let (i, pdi) := getVarint fuel pdi
      (complement i, pdi)
    else (complement (v % 4), pdi)

def Reader.get (pdi : Reader) : Nat × Reader := getVarint (pdi.left + 1) pdi

/-! Sizes. -/

theorem bytesBE_length (count value : Nat) : (bytesBE count value).length = count := by
  induction count with
  | zero => rfl
  | succ count ih => rw [bytesBE, List.length_cons, ih]

theorem unsignedVarint_pos (i : Nat) : 1 ≤ (unsignedVarint i).length := by
  unfold unsignedVarint
  split_ifs <;> simp

theorem unsignedVarint_two {i : Nat} (small : i < 0x4000) : (unsignedVarint i).length ≤ 2 := by
  unfold unsignedVarint
  split_ifs <;> simp [bytesBE_length]

theorem unsignedVarint_five {i : Nat} (word : i < 0x100000000) : (unsignedVarint i).length ≤ 5 := by
  unfold unsignedVarint
  split_ifs <;> simp [bytesBE_length]

/-- The bytes of a 32-bit number, with or without a sign. -/
theorem varint_six {value : Nat} (word : value < 0x100000000 ∨ 2 ^ 63 ≤ value ∧ complement value < 0x100000000) :
    (varint value).length ≤ 6 := by
  unfold varint
  split
  · rename_i negative
    split
    · simp
    · have size := unsignedVarint_five negative.2
      rw [List.length_cons]
      omega
  · rename_i unsigned
    have size := unsignedVarint_five (word.resolve_right unsigned)
    omega

theorem varint_unsigned {value : Nat} (small : value < 2 ^ 63) : varint value = unsignedVarint value := by
  unfold varint
  rw [if_neg (by omega)]

/-! What has been written is read back. -/

theorem nexts_bytesBE (count high value : Nat) (tail : List UInt8) (ok : Bool) :
    Reader.nexts count high { rest := bytesBE count value ++ tail, ok } =
      (high * 256 ^ count + value % 256 ^ count, { rest := tail, ok }) := by
  induction count generalizing high with
  | zero => simp [Reader.nexts, bytesBE, Nat.mod_one]
  | succ count ih =>
    have digit : (UInt8.ofNat (value / 256 ^ count)).toNat = value / 256 ^ count % 256 := by simp
    have whole : value % 256 ^ (count + 1) = value % 256 ^ count + 256 ^ count * (value / 256 ^ count % 256) := by
      rw [Nat.pow_succ, Nat.mod_mul]
    rw [bytesBE, List.cons_append, Reader.nexts]
    change Reader.nexts count (high * 256 + (UInt8.ofNat (value / 256 ^ count)).toNat) { rest := _, ok } = _
    rw [ih, digit, whole, Nat.pow_succ]
    congr 1
    ring

theorem ofNat_toNat {value : Nat} (byte : value < 256) : (UInt8.ofNat value).toNat = value := by
  have wrapped : (UInt8.ofNat value).toNat = value % 256 := by simp
  omega

theorem getVarint_unsigned (fuel : Nat) {i : Nat} (bound : i < 2 ^ 64) (tail : List UInt8) (ok : Bool) :
    getVarint (fuel + 1) { rest := unsignedVarint i ++ tail, ok } = (i, { rest := tail, ok }) := by
  unfold unsignedVarint
  split
  · rename_i small
    have head : (UInt8.ofNat i).toNat = i := ofNat_toNat (by omega)
    simp [getVarint, Reader.next, head, small]
  · split
    · have head : (UInt8.ofNat (0x80 + i / 2 ^ 8)).toNat = 0x80 + i / 2 ^ 8 := ofNat_toNat (by omega)
      have low : (0x80 + i / 2 ^ 8) % 0x40 = i / 2 ^ 8 := by omega
      rw [List.cons_append, getVarint]
      simp only [Reader.next, head]
      rw [if_neg (by omega), if_pos (by omega), nexts_bytesBE, low]
      congr 1
      omega
    · split
      · have head : (UInt8.ofNat (0xC0 + i / 2 ^ 16)).toNat = 0xC0 + i / 2 ^ 16 := ofNat_toNat (by omega)
        have low : (0xC0 + i / 2 ^ 16) % 0x20 = i / 2 ^ 16 := by omega
        rw [List.cons_append, getVarint]
        simp only [Reader.next, head]
        rw [if_neg (by omega), if_neg (by omega), if_pos (by omega), nexts_bytesBE, low]
        congr 1
        omega
      · split
        · have head : (UInt8.ofNat (0xE0 + i / 2 ^ 24)).toNat = 0xE0 + i / 2 ^ 24 := ofNat_toNat (by omega)
          have low : (0xE0 + i / 2 ^ 24) % 0x10 = i / 2 ^ 24 := by omega
          rw [List.cons_append, getVarint]
          simp only [Reader.next, head]
          rw [if_neg (by omega), if_neg (by omega), if_neg (by omega), if_pos (by omega), nexts_bytesBE, low]
          congr 1
          omega
        · split
          · have head : (0xF0 : UInt8).toNat = 0xF0 := rfl
            rw [List.cons_append, getVarint]
            simp only [Reader.next, head]
            rw [if_neg (by decide), if_neg (by decide), if_neg (by decide), if_neg (by decide), if_pos (by decide),
              nexts_bytesBE]
            congr 1
            omega
          · have head : (0xF4 : UInt8).toNat = 0xF4 := rfl
            rw [List.cons_append, getVarint]
            simp only [Reader.next, head]
            rw [if_neg (by decide), if_neg (by decide), if_neg (by decide), if_neg (by decide), if_neg (by decide),
              if_pos (by decide), nexts_bytesBE]
            congr 1
            omega

theorem get_varint {value : Nat} (bound : value < 2 ^ 64) (tail : List UInt8) (ok : Bool) :
    Reader.get { rest := varint value ++ tail, ok } = (value, { rest := tail, ok }) := by
  have some : ∀ i, ∃ fuel, (unsignedVarint i ++ tail).length = fuel + 1 := by
    intro i
    refine ⟨(unsignedVarint i ++ tail).length - 1, ?_⟩
    have short := unsignedVarint_pos i
    rw [List.length_append]
    omega
  unfold Reader.get Reader.left varint
  split
  · rename_i negative
    have below : complement value < 2 ^ 64 := by omega
    have twice : complement (complement value) = value := by
      unfold complement
      omega
    split
    · rename_i shortcase
      have head : (UInt8.ofNat (0xFC + complement value)).toNat = 0xFC + complement value := ofNat_toNat (by omega)
      have low : (0xFC + complement value) % 4 = complement value := by omega
      rw [List.singleton_append, List.length_cons, getVarint]
      simp only [Reader.next, head]
      rw [if_neg (by omega), if_neg (by omega), if_neg (by omega), if_neg (by omega), if_neg (by omega),
        if_neg (by omega), if_neg (by omega), low, twice]
    · have head : (0xF8 : UInt8).toNat = 0xF8 := rfl
      obtain ⟨fuel, size⟩ := some (complement value)
      rw [List.cons_append, List.length_cons, size, getVarint]
      simp only [Reader.next, head]
      rw [if_neg (by decide), if_neg (by decide), if_neg (by decide), if_neg (by decide), if_neg (by decide),
        if_neg (by decide), if_pos (by decide), getVarint_unsigned _ below, twice]
  · exact getVarint_unsigned _ bound tail ok

/-! What is written where there is room. -/

namespace Writer

theorem append_fits {pds : Writer} (room : pds.bytes.length < pds.maxsize) (byte : UInt8) :
    pds.append byte = { pds with bytes := pds.bytes ++ [byte] } := if_pos room

theorem appendEach_fits {pds : Writer} {data : List UInt8} (room : pds.bytes.length + data.length ≤ pds.maxsize) :
    data.foldl append pds = { pds with bytes := pds.bytes ++ data } := by
  induction data generalizing pds with
  | nil => simp
  | cons byte data ih =>
    rw [List.length_cons] at room
    rw [List.foldl_cons, append_fits (by omega), ih (by simp; omega)]
    simp

theorem put_fits {pds : Writer} {value : Nat} (room : pds.bytes.length + (varint value).length ≤ pds.maxsize) :
    pds.put value = { pds with bytes := pds.bytes ++ varint value } := appendEach_fits room

theorem appendBytes_fits {pds : Writer} {data : List UInt8} (room : pds.bytes.length + data.length ≤ pds.maxsize) :
    pds.appendBytes data = { pds with bytes := pds.bytes ++ data } := if_pos (by unfold left; omega)

theorem append_within {pds : Writer} (within : pds.bytes.length ≤ pds.maxsize) (byte : UInt8) :
    (pds.append byte).maxsize = pds.maxsize ∧ (pds.append byte).bytes.length ≤ pds.maxsize := by
  unfold append
  split
  next room => exact ⟨rfl, by rw [List.length_append]; exact room⟩
  next => exact ⟨rfl, within⟩

theorem appendEach_within {pds : Writer} (within : pds.bytes.length ≤ pds.maxsize) (data : List UInt8) :
    (data.foldl append pds).maxsize = pds.maxsize ∧ (data.foldl append pds).bytes.length ≤ pds.maxsize := by
  induction data generalizing pds with
  | nil => exact ⟨rfl, within⟩
  | cons byte data ih =>
    obtain ⟨size, room⟩ := append_within within byte
    obtain ⟨sizes, rooms⟩ := @ih (pds.append byte) (by rw [size]; exact room)
    exact ⟨sizes.trans size, size ▸ rooms⟩

theorem put_within {pds : Writer} (within : pds.bytes.length ≤ pds.maxsize) (value : Nat) :
    (pds.put value).maxsize = pds.maxsize ∧ (pds.put value).bytes.length ≤ pds.maxsize :=
  appendEach_within within (varint value)

theorem appendBytes_within {pds : Writer} (within : pds.bytes.length ≤ pds.maxsize) (data : List UInt8) :
    (pds.appendBytes data).bytes.length ≤ pds.maxsize := by
  unfold appendBytes left
  split
  next fits => rw [List.length_append]; omega
  next => rw [List.length_append, List.length_replicate]; omega

theorem puts_within {pds : Writer} (within : pds.bytes.length ≤ pds.maxsize) (values : List Nat) :
    (values.foldl put pds).maxsize = pds.maxsize ∧ (values.foldl put pds).bytes.length ≤ pds.maxsize := by
  induction values generalizing pds with
  | nil => exact ⟨rfl, within⟩
  | cons value values ih =>
    obtain ⟨size, room⟩ := put_within within value
    obtain ⟨sizes, rooms⟩ := @ih (pds.put value) (by rw [size]; exact room)
    exact ⟨sizes.trans size, size ▸ rooms⟩

/-- Numbers, and then bytes. -/
theorem puts_fits {pds : Writer} {values : List Nat} {data : List UInt8}
    (room : pds.bytes.length + (values.flatMap varint).length + data.length ≤ pds.maxsize) :
    (values.foldl put pds).appendBytes data =
      { pds with bytes := pds.bytes ++ values.flatMap varint ++ data } := by
  induction values generalizing pds with
  | nil =>
    rw [List.foldl_nil, appendBytes_fits (by simpa using room)]
    simp
  | cons value values ih =>
    rw [List.flatMap_cons, List.length_append] at room
    rw [List.foldl_cons, put_fits (by omega), ih (by rw [List.length_append]; dsimp only; omega)]
    simp

/-- Data that does not fit fills the buffer with zeros. -/
theorem appendEach_length {pds : Writer} (within : pds.bytes.length ≤ pds.maxsize) (data : List UInt8) :
    (data.foldl append pds).bytes.length = min pds.maxsize (pds.bytes.length + data.length) := by
  induction data generalizing pds with
  | nil =>
    rw [List.foldl_nil, List.length_nil]
    omega
  | cons byte data ih =>
    obtain ⟨size, room⟩ := append_within within byte
    have one : (pds.append byte).bytes.length = min pds.maxsize (pds.bytes.length + 1) := by
      unfold append
      split
      next => rw [List.length_append, List.length_singleton]; omega
      next => dsimp only; omega
    rw [List.foldl_cons, @ih (pds.append byte) (by rw [size]; exact room), one, size, List.length_cons]
    omega

theorem puts_length {pds : Writer} (within : pds.bytes.length ≤ pds.maxsize) (values : List Nat) :
    (values.foldl put pds).bytes.length = min pds.maxsize (pds.bytes.length + (values.flatMap varint).length) := by
  induction values generalizing pds with
  | nil =>
    rw [List.foldl_nil, List.flatMap_nil, List.length_nil]
    omega
  | cons value values ih =>
    obtain ⟨size, room⟩ := put_within within value
    rw [List.foldl_cons, @ih (pds.put value) (by rw [size]; exact room), size, List.flatMap_cons, List.length_append]
    have first : (pds.put value).bytes.length = min pds.maxsize (pds.bytes.length + (varint value).length) :=
      appendEach_length within (varint value)
    omega

theorem appendBytes_length {pds : Writer} (within : pds.bytes.length ≤ pds.maxsize) (data : List UInt8) :
    (pds.appendBytes data).bytes.length = min pds.maxsize (pds.bytes.length + data.length) := by
  unfold appendBytes left
  split
  next => rw [List.length_append]; omega
  next => rw [List.length_append, List.length_replicate]; omega

theorem appendBytes_overflow {pds : Writer} {data : List UInt8} (full : pds.maxsize < pds.bytes.length + data.length)
    (within : pds.bytes.length ≤ pds.maxsize) : (pds.appendBytes data).bytes.length = pds.maxsize := by
  unfold appendBytes left
  rw [if_neg (by omega), List.length_append, List.length_replicate]
  omega

end Writer

end DfStudy.PacketData
