import DfStudy.Support.Unicode
import Mathlib.Order.Basic

/-! The strings of JSON: how `JSON.stringify` writes one, given by its code units, and how `JSON.parse` reads one. -/

namespace DfStudy.Support.JsonStrings
open Unicode

/-- The code units with an escape of two characters. -/
def shortEscapes : List (Nat × Char) :=
  [(0x22, '"'), (0x5C, '\\'), (0x08, 'b'), (0x09, 't'), (0x0A, 'n'), (0x0C, 'f'), (0x0D, 'r')]

def unicodeEscape (code : Nat) : List Char :=
  ['\\', 'u', lowerHex (code / 0x1000), lowerHex (code / 0x100 % 0x10), lowerHex (code / 0x10 % 0x10), lowerHex (code % 0x10)]

/-- A code unit that is not part of a pair. -/
def quoteUnit (unit : UInt16) : List Char :=
  match shortEscapes.find? (·.1 = unit.toNat) with
  | some (_, letter) => ['\\', letter]
  | none =>
    if unit.toNat < 0x20 || isHigh unit || isLow unit then unicodeEscape unit.toNat
    else [Char.ofNat unit.toNat]

/-- What `JSON.stringify` writes between the quotes of a string. -/
def quoteBody : CodeUnits → List Char
  | [] => []
  | [unit] => quoteUnit unit
  | unit :: next :: rest =>
    if isHigh unit && isLow next then paired unit next :: quoteBody rest
    else quoteUnit unit ++ quoteBody (next :: rest)

def quote (units : CodeUnits) : List Char := '"' :: quoteBody units ++ ['"']

/-! Reading. -/

def unescape (letter : Char) : Option UInt16 :=
  (((0x2F, '/') :: shortEscapes).find? (·.2 = letter)).map fun (code, _) => .ofNat code

def hexUnit (a b c d : Char) : Option UInt16 :=
  match hexValue a.toNat, hexValue b.toNat, hexValue c.toNat, hexValue d.toNat with
  | some a, some b, some c, some d => some (.ofNat (0x1000 * a + 0x100 * b + 0x10 * c + d))
  | _, _, _, _ => none

def prepend (units : CodeUnits) (read : CodeUnits × List Char) : CodeUnits × List Char := (units ++ read.1, read.2)

/-- The rest of a string, behind its first quote. -/
def readString : List Char → Option (CodeUnits × List Char)
  | [] => none
  | c :: rest =>
    if c = '"' then some ([], rest)
    else if c = '\\' then
      match rest with
      | [] => none
      | letter :: rest =>
        if letter = 'u' then
          match rest with
          | a :: b :: c :: d :: rest => (hexUnit a b c d).bind fun unit => (readString rest).map (prepend [unit])
          | _ => none
        else (unescape letter).bind fun unit => (readString rest).map (prepend [unit])
    else if c.toNat < 0x20 then none
    else (readString rest).map (prepend (utf16 c))

/-! The pieces of a string: characters and escapes, each with the code units it stands for. -/

inductive Piece : List Char → CodeUnits → Prop where
  | char {c : Char} (quote : c ≠ '"') (escape : c ≠ '\\') (control : ¬c.toNat < 0x20) : Piece [c] (utf16 c)
  | short {letter : Char} {unit : UInt16} (other : letter ≠ 'u') (found : unescape letter = some unit) :
      Piece ['\\', letter] [unit]
  | unicode {a b c d : Char} {unit : UInt16} (digits : hexUnit a b c d = some unit) : Piece ['\\', 'u', a, b, c, d] [unit]

theorem readString_quote (rest : List Char) : readString ('"' :: rest) = some ([], rest) := by
  conv => lhs; unfold readString
  rw [if_pos rfl]

theorem readString_short {letter : Char} (other : letter ≠ 'u') (rest : List Char) : readString ('\\' :: letter :: rest) =
    (unescape letter).bind fun unit => (readString rest).map (prepend [unit]) := by
  conv => lhs; unfold readString
  rw [if_neg (by decide), if_pos rfl]
  dsimp only
  rw [if_neg other]

theorem readString_unicode (a b c d : Char) (rest : List Char) : readString ('\\' :: 'u' :: a :: b :: c :: d :: rest) =
    (hexUnit a b c d).bind fun unit => (readString rest).map (prepend [unit]) := by
  conv => lhs; unfold readString
  rw [if_neg (by decide), if_pos rfl]
  dsimp only
  rw [if_pos rfl]

theorem readString_piece {piece : List Char} {units : CodeUnits} (whole : Piece piece units) (later : List Char) :
    readString (piece ++ later) = (readString later).map (prepend units) := by
  cases whole with
  | @char c quote escape control =>
    rw [List.singleton_append]
    conv => lhs; unfold readString
    rw [if_neg quote, if_neg escape, if_neg control]
  | @short letter unit other found =>
    exact (readString_short other later).trans (by rw [found, Option.bind_some])
  | @unicode a b c d unit digits =>
    exact (readString_unicode a b c d later).trans (by rw [digits, Option.bind_some])

/-- A string that is read is closed at once, or begins with a piece. -/
theorem readString_some {text rest : List Char} {units : CodeUnits} (read : readString text = some (units, rest)) :
    text = '"' :: rest ∧ units = [] ∨
      ∃ piece first later more, Piece piece first ∧ text = piece ++ later ∧ units = first ++ more ∧
        readString later = some (more, rest) := by
  have behind {piece later : List Char} {first : CodeUnits} (whole : Piece piece first) (same : text = piece ++ later) :
      ∃ piece first later more, Piece piece first ∧ text = piece ++ later ∧ units = first ++ more ∧
        readString later = some (more, rest) := by
    rw [same, readString_piece whole] at read
    obtain ⟨⟨more, behind⟩, found, joined⟩ := Option.map_eq_some_iff.mp read
    cases joined
    exact ⟨piece, first, later, more, whole, same, rfl, found⟩
  cases text with
  | nil => cases read
  | cons c text =>
    by_cases quote : c = '"'
    · subst quote
      rw [readString_quote] at read
      cases read
      exact .inl ⟨rfl, rfl⟩
    · refine .inr ?_
      by_cases escape : c = '\\'
      · subst escape
        cases text with
        | nil => cases read
        | cons letter text =>
          by_cases unicode : letter = 'u'
          · subst unicode
            match text with
            | [] | [_] | [_, _] | [_, _, _] => cases read
            | a :: b :: c :: d :: text =>
              cases digits : hexUnit a b c d with
              | some unit => exact behind (.unicode digits) rfl
              | none =>
                rw [readString_unicode, digits] at read
                cases read
          · cases found : unescape letter with
            | some unit => exact behind (.short unicode found) rfl
            | none =>
              rw [readString_short unicode, found] at read
              cases read
      · by_cases control : c.toNat < 0x20
        · conv at read => lhs; unfold readString
          rw [if_neg quote, if_neg escape, if_pos control] at read
          cases read
        · exact behind (.char quote escape control) rfl

theorem Piece.length_pos {piece : List Char} {units : CodeUnits} (whole : Piece piece units) : 0 < piece.length := by
  cases whole <;> exact Nat.succ_pos _

/-- Induction on the pieces of a string. -/
theorem readString_induction {motive : List Char → CodeUnits → Prop} {rest : List Char} (closed : motive ('"' :: rest) [])
    (next : ∀ piece first later more, Piece piece first → readString later = some (more, rest) → motive later more →
      motive (piece ++ later) (first ++ more))
    {text : List Char} {units : CodeUnits} (read : readString text = some (units, rest)) : motive text units := by
  induction bound : text.length using Nat.strongRecOn generalizing text units with
  | ind length ih =>
    rcases readString_some read with ⟨rfl, rfl⟩ | ⟨piece, first, later, more, whole, rfl, rfl, found⟩
    · exact closed
    · have shorter : later.length < length := by
        have := whole.length_pos
        rw [List.length_append] at bound
        omega
      exact next piece first later more whole found (ih later.length shorter found rfl)

/-! What is written is read again. -/

theorem piece_quoteUnit (unit : UInt16) : Piece (quoteUnit unit) [unit] := by
  have bound : unit.toNat < 0x10000 := unit.toNat_lt
  unfold quoteUnit
  split
  next code letter found =>
    have known : shortEscapes.all fun entry => entry.2 ≠ 'u' && unescape entry.2 = some (.ofNat entry.1) := by decide
    have entry := List.all_eq_true.mp known _ (List.mem_of_find?_eq_some found)
    rw [Bool.and_eq_true, decide_eq_true_eq, decide_eq_true_eq] at entry
    have same := List.find?_some found
    rw [decide_eq_true_eq] at same
    refine .short entry.1 ?_
    rw [entry.2]
    dsimp only at same
    rw [same, UInt16.ofNat_toNat]
  next unescaped =>
    split
    next =>
      refine .unicode ?_
      unfold hexUnit
      rw [hexValue_lowerHex (by omega), hexValue_lowerHex (by omega), hexValue_lowerHex (by omega),
        hexValue_lowerHex (by omega)]
      have joined : 0x1000 * (unit.toNat / 0x1000) + 0x100 * (unit.toNat / 0x100 % 0x10) + 0x10 * (unit.toNat / 0x10 % 0x10) +
          unit.toNat % 0x10 = unit.toNat := by
        omega
      dsimp only
      rw [joined, UInt16.ofNat_toNat]
    next plain =>
      rw [Bool.or_eq_true, Bool.or_eq_true, decide_eq_true_eq, not_or, not_or, Bool.not_eq_true, Bool.not_eq_true] at plain
      obtain ⟨single, code⟩ := utf16_single plain.1.2 plain.2
      have other : ∀ entry ∈ shortEscapes, entry.1 ≠ unit.toNat := by
        intro entry member
        exact of_decide_eq_false (Bool.eq_false_iff.mpr (List.find?_eq_none.mp unescaped entry member))
      have quote : unit.toNat ≠ 0x22 := (other (0x22, '"') (by decide)).symm
      have escape : unit.toNat ≠ 0x5C := (other (0x5C, '\\') (by decide)).symm
      rw [← single]
      refine .char (fun same => quote ?_) (fun same => escape ?_) (by rw [code]; exact plain.1.1)
      · rw [← code, same]
        rfl
      · rw [← code, same]
        rfl

theorem piece_paired {high low : UInt16} (first : isHigh high) (second : isLow low) :
    Piece [paired high low] [high, low] := by
  have code := paired_toNat first second
  rw [← utf16_paired first second]
  refine .char (fun same => ?_) (fun same => ?_) (by omega)
  · rw [same] at code
    have : ('"' : Char).toNat = 0x22 := rfl
    omega
  · rw [same] at code
    have : ('\\' : Char).toNat = 0x5C := rfl
    omega

theorem readString_quoteBody (units : CodeUnits) (rest : List Char) :
    readString (quoteBody units ++ '"' :: rest) = some (units, rest) := by
  induction units using quoteBody.induct with
  | case1 => exact readString_quote rest
  | case2 unit =>
    rw [quoteBody, readString_piece (piece_quoteUnit unit), readString_quote]
    rfl
  | case3 unit next units pair ih =>
    rw [Bool.and_eq_true] at pair
    rw [quoteBody, if_pos (by rw [pair.1, pair.2]; rfl), List.cons_append, ← List.singleton_append,
      readString_piece (piece_paired pair.1 pair.2), ih]
    rfl
  | case4 unit next units alone ih =>
    rw [quoteBody, if_neg alone, List.append_assoc, readString_piece (piece_quoteUnit unit), ih]
    rfl

/-! What needs no escape. -/

theorem isHigh_of_low {unit : UInt16} (low : isLow unit) : isHigh unit = false := by
  unfold isLow at low
  unfold isHigh
  simp only [Bool.and_eq_true, decide_eq_true_eq] at low
  rw [Bool.and_eq_false_iff, decide_eq_false_iff_not, decide_eq_false_iff_not]
  omega

theorem quoteBody_alone {unit : UInt16} (alone : isHigh unit = false) (more : CodeUnits) :
    quoteBody (unit :: more) = quoteUnit unit ++ quoteBody more := by
  cases more with
  | nil => exact (List.append_nil _).symm
  | cons next more => rw [quoteBody, alone, if_neg (by simp)]

/-- A written string begins with a pair, or with the text of its first code unit. -/
theorem quoteBody_cons (unit : UInt16) (more : CodeUnits) :
    (∃ next later, more = next :: later ∧ isHigh unit ∧ isLow next ∧
        quoteBody (unit :: more) = paired unit next :: quoteBody later) ∨
      quoteBody (unit :: more) = quoteUnit unit ++ quoteBody more := by
  cases more with
  | nil => exact .inr (List.append_nil _).symm
  | cons next later =>
    rw [quoteBody]
    split
    next pair =>
      rw [Bool.and_eq_true] at pair
      exact .inl ⟨next, later, rfl, pair.1, pair.2, rfl⟩
    next => exact .inr rfl

theorem quoteUnit_plain (unit : UInt16) (quote : unit.toNat ≠ 0x22) (escape : unit.toNat ≠ 0x5C) (control : ¬unit.toNat < 0x20)
    (high : isHigh unit = false) (low : isLow unit = false) : quoteUnit unit = [Char.ofNat unit.toNat] := by
  have unescaped : shortEscapes.find? (·.1 = unit.toNat) = none := by
    have others : shortEscapes.all fun entry => entry.1 = 0x22 || entry.1 = 0x5C || entry.1 < 0x20 := by decide
    refine List.find?_eq_none.mpr fun entry member => ?_
    have known := List.all_eq_true.mp others entry member
    simp only [Bool.or_eq_true, decide_eq_true_eq] at known ⊢
    omega
  unfold quoteUnit
  rw [unescaped, high, low]
  simp [control]

/-- A character that needs no escape is written as it is. -/
theorem quoteBody_utf16 {c : Char} (quote : c ≠ '"') (escape : c ≠ '\\') (control : ¬c.toNat < 0x20) (more : CodeUnits) :
    quoteBody (utf16 c ++ more) = c :: quoteBody more := by
  have notQuote : c.toNat ≠ 0x22 := fun same => quote (by rw [← Char.ofNat_toNat c, same])
  have notEscape : c.toNat ≠ 0x5C := fun same => escape (by rw [← Char.ofNat_toNat c, same])
  have bound := toNat_lt c
  unfold utf16
  dsimp only
  split
  next below =>
    have code : (UInt16.ofNat c.toNat).toNat = c.toNat := UInt16.toNat_ofNat_of_lt' below
    have valid : c.toNat < 0xD800 ∨ 0xDFFF < c.toNat := c.valid.imp id (·.1)
    have high : isHigh (.ofNat c.toNat) = false := by
      unfold isHigh
      rw [code, Bool.and_eq_false_iff, decide_eq_false_iff_not, decide_eq_false_iff_not]
      omega
    have low : isLow (.ofNat c.toNat) = false := by
      unfold isLow
      rw [code, Bool.and_eq_false_iff, decide_eq_false_iff_not, decide_eq_false_iff_not]
      omega
    have written := quoteUnit_plain (.ofNat c.toNat) (by rwa [code]) (by rwa [code]) (by rwa [code]) high low
    rw [code, Char.ofNat_toNat] at written
    rw [List.singleton_append, quoteBody_alone high, written]
    rfl
  next above =>
    have first : (UInt16.ofNat (0xD800 + (c.toNat - 0x10000) / 0x400)).toNat = 0xD800 + (c.toNat - 0x10000) / 0x400 :=
      UInt16.toNat_ofNat_of_lt' (by simp only [UInt16.size]; omega)
    have second : (UInt16.ofNat (0xDC00 + (c.toNat - 0x10000) % 0x400)).toNat = 0xDC00 + (c.toNat - 0x10000) % 0x400 :=
      UInt16.toNat_ofNat_of_lt' (by simp only [UInt16.size]; omega)
    have pair : isHigh (.ofNat (0xD800 + (c.toNat - 0x10000) / 0x400)) && isLow (.ofNat (0xDC00 + (c.toNat - 0x10000) % 0x400)) := by
      unfold isHigh isLow
      rw [first, second]
      simp only [Bool.and_eq_true, decide_eq_true_eq]
      omega
    have same : paired (.ofNat (0xD800 + (c.toNat - 0x10000) / 0x400)) (.ofNat (0xDC00 + (c.toNat - 0x10000) % 0x400)) = c := by
      unfold paired
      rw [first, second]
      have code : 0x10000 + (0xD800 + (c.toNat - 0x10000) / 0x400 - 0xD800) * 0x400 +
          (0xDC00 + (c.toNat - 0x10000) % 0x400 - 0xDC00) = c.toNat := by
        omega
      rw [code, Char.ofNat_toNat]
    rw [List.cons_append, List.singleton_append, quoteBody, if_pos pair, same]

/-- A code unit is escaped, or is a character of its own. -/
theorem quoteUnit_cases (unit : UInt16) :
    (∃ more, quoteUnit unit = '\\' :: more ∧ ∀ c ∈ more, c ≠ '%' ∧ c ≠ '?') ∨
      quoteUnit unit = [Char.ofNat unit.toNat] ∧ (Char.ofNat unit.toNat).toNat = unit.toNat := by
  have bound : unit.toNat < 0x10000 := unit.toNat_lt
  unfold quoteUnit
  split
  next code letter found =>
    have letters : shortEscapes.all fun entry => entry.2 ≠ '%' && entry.2 ≠ '?' := by decide
    have entry := List.all_eq_true.mp letters _ (List.mem_of_find?_eq_some found)
    rw [Bool.and_eq_true, decide_eq_true_eq, decide_eq_true_eq] at entry
    refine .inl ⟨[letter], rfl, fun c member => ?_⟩
    rw [List.mem_singleton.mp member]
    exact entry
  next unescaped =>
    split
    next =>
      have digits : ∀ digit : Fin 16, lowerHex digit ≠ '%' ∧ lowerHex digit ≠ '?' := by decide
      refine .inl ⟨_, rfl, fun c member => ?_⟩
      simp only [List.mem_cons, List.not_mem_nil, or_false] at member
      rcases member with rfl | rfl | rfl | rfl | rfl
      · decide
      · exact digits ⟨unit.toNat / 0x1000, by omega⟩
      · exact digits ⟨unit.toNat / 0x100 % 0x10, by omega⟩
      · exact digits ⟨unit.toNat / 0x10 % 0x10, by omega⟩
      · exact digits ⟨unit.toNat % 0x10, by omega⟩
    next plain =>
      rw [Bool.or_eq_true, Bool.or_eq_true, not_or, not_or] at plain
      exact .inr ⟨rfl, (utf16_single (Bool.eq_false_iff.mpr plain.1.2) (Bool.eq_false_iff.mpr plain.2)).2⟩

end DfStudy.Support.JsonStrings
