import Mathlib.Data.List.Basic

/-! Characters as they are written in other units: the bytes of UTF-8, the code units of UTF-16, hexadecimal digits. -/

namespace DfStudy.Support.Unicode

/-! Hexadecimal digits. -/

def lowerHex (digit : Nat) : Char := if digit < 10 then Char.ofNat (0x30 + digit) else Char.ofNat (0x57 + digit)

def upperHex (digit : Nat) : Char := if digit < 10 then Char.ofNat (0x30 + digit) else Char.ofNat (0x37 + digit)

/-- The value of a hexadecimal digit, given by its code. -/
def hexValue (code : Nat) : Option Nat :=
  if 0x30 ≤ code ∧ code ≤ 0x39 then some (code - 0x30)
  else if 0x41 ≤ code ∧ code ≤ 0x46 then some (code - 0x37)
  else if 0x61 ≤ code ∧ code ≤ 0x66 then some (code - 0x57)
  else none

theorem hexValue_lowerHex {digit : Nat} (below : digit < 16) : hexValue (lowerHex digit).toNat = some digit := by
  have all : ∀ digit : Fin 16, hexValue (lowerHex digit).toNat = some digit.val := by decide
  exact all ⟨digit, below⟩

theorem hexValue_upperHex {digit : Nat} (below : digit < 16) : hexValue (upperHex digit).toNat = some digit := by
  have all : ∀ digit : Fin 16, hexValue (upperHex digit).toNat = some digit.val := by decide
  exact all ⟨digit, below⟩

theorem hexValue_lt {code digit : Nat} (valued : hexValue code = some digit) : digit < 16 := by
  unfold hexValue at valued
  split at valued
  next => cases valued; omega
  next =>
    split at valued
    next => cases valued; omega
    next =>
      split at valued
      next => cases valued; omega
      next => cases valued

/-- A digit is a letter or a figure. -/
theorem hexValue_code {code digit : Nat} (valued : hexValue code = some digit) :
    0x30 ≤ code ∧ code ≤ 0x39 ∨ 0x41 ≤ code ∧ code ≤ 0x46 ∨ 0x61 ≤ code ∧ code ≤ 0x66 := by
  unfold hexValue at valued
  split at valued
  next figure => exact .inl figure
  next =>
    split at valued
    next upper => exact .inr (.inl upper)
    next =>
      split at valued
      next lower => exact .inr (.inr lower)
      next => cases valued

/-! UTF-8. -/

def utf8 (c : Char) : List Nat :=
  let code := c.toNat
  if code < 0x80 then [code]
  else if code < 0x800 then [0xC0 + code / 0x40, 0x80 + code % 0x40]
  else if code < 0x10000 then [0xE0 + code / 0x1000, 0x80 + code / 0x40 % 0x40, 0x80 + code % 0x40]
  else [0xF0 + code / 0x40000, 0x80 + code / 0x1000 % 0x40, 0x80 + code / 0x40 % 0x40, 0x80 + code % 0x40]

/-- The code that the bytes of one character spell. -/
def spelled : List Nat → Nat
  | [a] => a
  | [a, b] => a % 0x20 * 0x40 + b % 0x40
  | [a, b, c] => a % 0x10 * 0x1000 + b % 0x40 * 0x40 + c % 0x40
  | [a, b, c, d] => a % 0x08 * 0x40000 + b % 0x40 * 0x1000 + c % 0x40 * 0x40 + d % 0x40
  | _ => 0

/-- The character with these bytes, if there is one. -/
def fromUtf8 (bytes : List Nat) : Option Char :=
  let c := Char.ofNat (spelled bytes)
  if utf8 c = bytes then some c else none

theorem toNat_lt (c : Char) : c.toNat < 0x110000 := by
  rcases c.valid with low | ⟨_, high⟩
  · exact Nat.lt_trans low (by decide)
  · exact high

theorem spelled_utf8 (c : Char) : spelled (utf8 c) = c.toNat := by
  have bound := toNat_lt c
  unfold utf8
  dsimp only
  split
  next => rfl
  next =>
    split
    next => simp only [spelled]; omega
    next =>
      split
      next => simp only [spelled]; omega
      next => simp only [spelled]; omega

theorem fromUtf8_utf8 (c : Char) : fromUtf8 (utf8 c) = some c := by
  unfold fromUtf8
  dsimp only
  rw [spelled_utf8, Char.ofNat_toNat, if_pos rfl]

theorem utf8_fromUtf8 {bytes : List Nat} {c : Char} (decoded : fromUtf8 bytes = some c) : utf8 c = bytes := by
  unfold fromUtf8 at decoded
  dsimp only at decoded
  split at decoded
  next same =>
    cases decoded
    exact same
  next => cases decoded

/-! UTF-16. -/

abbrev CodeUnits := List UInt16

def isHigh (unit : UInt16) : Bool := 0xD800 ≤ unit.toNat && unit.toNat < 0xDC00

def isLow (unit : UInt16) : Bool := 0xDC00 ≤ unit.toNat && unit.toNat < 0xE000

/-- The character of a surrogate pair. -/
def paired (high low : UInt16) : Char := Char.ofNat (0x10000 + (high.toNat - 0xD800) * 0x400 + (low.toNat - 0xDC00))

def utf16 (c : Char) : CodeUnits :=
  let code := c.toNat
  if code < 0x10000 then [.ofNat code]
  else [.ofNat (0xD800 + (code - 0x10000) / 0x400), .ofNat (0xDC00 + (code - 0x10000) % 0x400)]

def codeUnits (text : List Char) : CodeUnits := text.flatMap utf16

theorem toNat_ofNat {code : Nat} (valid : code.isValidChar) : (Char.ofNat code).toNat = code := by
  unfold Char.ofNat
  rw [dif_pos valid]
  rfl

theorem paired_valid {high low : UInt16} (first : isHigh high) (second : isLow low) :
    (0x10000 + (high.toNat - 0xD800) * 0x400 + (low.toNat - 0xDC00)).isValidChar := by
  unfold isHigh at first
  unfold isLow at second
  simp only [Bool.and_eq_true, decide_eq_true_eq] at first second
  exact .inr ⟨by omega, by omega⟩

theorem paired_toNat {high low : UInt16} (first : isHigh high) (second : isLow low) :
    (paired high low).toNat = 0x10000 + (high.toNat - 0xD800) * 0x400 + (low.toNat - 0xDC00) :=
  toNat_ofNat (paired_valid first second)

theorem utf16_paired {high low : UInt16} (first : isHigh high) (second : isLow low) :
    utf16 (paired high low) = [high, low] := by
  have code := paired_toNat first second
  unfold isHigh at first
  unfold isLow at second
  simp only [Bool.and_eq_true, decide_eq_true_eq] at first second
  unfold utf16
  dsimp only
  rw [if_neg (by omega), code]
  have one : 0xD800 + (0x10000 + (high.toNat - 0xD800) * 0x400 + (low.toNat - 0xDC00) - 0x10000) / 0x400 = high.toNat := by
    omega
  have other : 0xDC00 + (0x10000 + (high.toNat - 0xD800) * 0x400 + (low.toNat - 0xDC00) - 0x10000) % 0x400 = low.toNat := by
    omega
  rw [one, other, UInt16.ofNat_toNat, UInt16.ofNat_toNat]

/-- A code unit that is no surrogate is a character of its own. -/
theorem utf16_single {unit : UInt16} (high : isHigh unit = false) (low : isLow unit = false) :
    utf16 (Char.ofNat unit.toNat) = [unit] ∧ (Char.ofNat unit.toNat).toNat = unit.toNat := by
  have bound : unit.toNat < 0x10000 := unit.toNat_lt
  unfold isHigh at high
  unfold isLow at low
  simp only [Bool.and_eq_false_iff, decide_eq_false_iff_not] at high low
  have valid : unit.toNat.isValidChar := by
    by_cases below : unit.toNat < 0xD800
    · exact .inl below
    · exact .inr ⟨by omega, by omega⟩
  have code := toNat_ofNat valid
  unfold utf16
  dsimp only
  rw [code, if_pos bound, UInt16.ofNat_toNat]
  exact ⟨rfl, rfl⟩

end DfStudy.Support.Unicode
