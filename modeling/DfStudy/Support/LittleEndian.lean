import Mathlib.Data.List.Basic
import Mathlib.Tactic.Ring

/-! Numbers of a fixed width in little-endian bytes. -/

namespace DfStudy.Support.LittleEndian

/-- The low `width` bytes of a number. -/
def bytesLE : Nat → Nat → List UInt8
  | 0, _ => []
  | width + 1, value => UInt8.ofNat value :: bytesLE width (value / 256)

def natLE : List UInt8 → Nat
  | [] => 0
  | byte :: bytes => byte.toNat + 256 * natLE bytes

@[simp] theorem bytesLE_length (width value : Nat) : (bytesLE width value).length = width := by
  induction width generalizing value with
  | zero => rfl
  | succ width ih => rw [bytesLE, List.length_cons, ih]

theorem natLE_bytesLE (width value : Nat) : natLE (bytesLE width value) = value % 256 ^ width := by
  induction width generalizing value with
  | zero => simp [bytesLE, natLE, Nat.mod_one]
  | succ width ih =>
    have low : (UInt8.ofNat value).toNat = value % 256 := by simp
    rw [bytesLE, natLE, ih, low, Nat.pow_succ, Nat.mul_comm (256 ^ width) 256, Nat.mod_mul]

theorem natLE_bitVec {width count : Nat} (value : BitVec width) (fits : width = 8 * count) :
    natLE (bytesLE count value.toNat) = value.toNat := by
  have power : 256 ^ count = 2 ^ width := by
    rw [fits, Nat.pow_mul]
  rw [natLE_bytesLE, power]
  exact Nat.mod_eq_of_lt value.isLt

theorem natLE_lt (bytes : List UInt8) : natLE bytes < 256 ^ bytes.length := by
  induction bytes with
  | nil => exact Nat.one_pos
  | cons byte bytes ih =>
    have low := byte.toNat_lt
    rw [natLE, List.length_cons, Nat.pow_succ]
    omega

theorem natLE_zeros (bytes : List UInt8) (count : Nat) :
    natLE (bytes ++ List.replicate count 0) = natLE bytes := by
  induction bytes with
  | nil =>
    induction count with
    | zero => rfl
    | succ count ih =>
      rw [List.nil_append] at ih ⊢
      rw [List.replicate_succ]
      calc
        _ = 0 + 256 * natLE (List.replicate count 0) := rfl
        _ = _ := by rw [ih]; rfl
  | cons byte bytes ih => rw [List.cons_append, natLE, natLE, ih]

end DfStudy.Support.LittleEndian
