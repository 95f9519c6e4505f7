import DfStudy.Support.Unicode

/-! Percent-encoding: what a browser does to a part of a URL, and `decodeURI`. -/

namespace DfStudy.Support.UriText
open Unicode

def percentByte (byte : Nat) : List Char := ['%', upperHex (byte / 16), upperHex (byte % 16)]

/-- UTF-8 percent-encoding with a percent-encode set. -/
def percentEncode (encoded : Char → Bool) (text : List Char) : List Char :=
  text.flatMap fun c => if encoded c then (utf8 c).flatMap percentByte else [c]

/-- The fragment percent-encode set. -/
def fragmentSet (c : Char) : Bool :=
  c.toNat < 0x20 || 0x7E < c.toNat || c = ' ' || c = '"' || c = '<' || c = '>' || c = '\x60'

/-! `decodeURI`. -/

inductive Token where
  | char (c : Char)
  | escape (high low : Char) (byte : Nat)

def Token.text : Token → List Char
  | .char c => [c]
  | .escape high low _ => ['%', high, low]

/-- The byte two hexadecimal digits stand for. -/
def escapedByte (high low : Char) : Option Nat :=
  match hexValue high.toNat, hexValue low.toNat with
  | some h, some l => some (16 * h + l)
  | _, _ => none

/-- A `%` without two hexadecimal digits behind it is an error. -/
def tokens : List Char → Option (List Token)
  | [] => some []
  | c :: rest =>
    if c = '%' then
      match rest with
      | high :: low :: rest => (escapedByte high low).bind fun byte => (tokens rest).map (.escape high low byte :: ·)
      | _ => none
    else (tokens rest).map (.char c :: ·)

def reservedSet : List Char := [';', '/', '?', ':', '@', '&', '=', '+', '$', ',', '#']

/-- The characters whose escapes `decodeURI` leaves as they are. -/
def reserved (code : Nat) : Bool := reservedSet.any fun c => c.toNat = code

/-- How many bytes follow the first byte of a character that takes more than one. -/
def following (byte : Nat) : Option Nat :=
  if byte < 0xC0 then none
  else if byte < 0xE0 then some 1
  else if byte < 0xF0 then some 2
  else if byte < 0xF8 then some 3
  else none

def isContinuation (byte : Nat) : Bool := 0x80 ≤ byte && byte < 0xC0

/-- `pending` are the bytes of a character of which `missing` are still to come. -/
def decodeFrom (pending : List Nat) : Nat → List Token → Option (List Char)
  | 0, [] => some []
  | 0, .char c :: rest => (decodeFrom [] 0 rest).map (c :: ·)
  | 0, .escape high low byte :: rest =>
    if byte < 0x80 then
      (decodeFrom [] 0 rest).map ((if reserved byte then ['%', high, low] else [Char.ofNat byte]) ++ ·)
    else (following byte).bind fun missing => decodeFrom [byte] missing rest
  | missing + 1, .escape _ _ byte :: rest =>
    if isContinuation byte then
      if missing = 0 then (fromUtf8 (pending ++ [byte])).bind fun c => (decodeFrom [] 0 rest).map (c :: ·)
      else decodeFrom (pending ++ [byte]) missing rest
    else none
  | _ + 1, _ => none

/-- Nothing where it throws a `URIError`. -/
def decodeURI (text : List Char) : Option (List Char) := (tokens text).bind (decodeFrom [] 0)

/-! Tokens. -/

theorem tokens_char {c : Char} (plain : c ≠ '%') (rest : List Char) :
    tokens (c :: rest) = (tokens rest).map (.char c :: ·) := by
  conv => lhs; unfold tokens
  rw [if_neg plain]

theorem tokens_percent (high low : Char) (rest : List Char) : tokens ('%' :: high :: low :: rest) =
    (escapedByte high low).bind fun byte => (tokens rest).map (.escape high low byte :: ·) := rfl

theorem tokens_escape {high low : Char} {byte : Nat} (digits : escapedByte high low = some byte) (rest : List Char) :
    tokens ('%' :: high :: low :: rest) = (tokens rest).map (.escape high low byte :: ·) := by
  rw [tokens_percent, digits, Option.bind_some]

theorem tokens_high {high : Char} (bad : hexValue high.toNat = none) (rest : List Char) :
    tokens ('%' :: high :: rest) = none := by
  cases rest with
  | nil => rfl
  | cons low rest =>
    rw [tokens_percent]
    unfold escapedByte
    rw [bad]
    rfl

theorem tokens_low (high : Char) {low : Char} (bad : hexValue low.toNat = none) (rest : List Char) :
    tokens ('%' :: high :: low :: rest) = none := by
  rw [tokens_percent]
  unfold escapedByte
  rw [bad]
  cases hexValue high.toNat <;> rfl

theorem escapedByte_lt {high low : Char} {byte : Nat} (digits : escapedByte high low = some byte) : byte < 0x100 := by
  unfold escapedByte at digits
  split at digits
  next h l first second =>
    cases digits
    have := hexValue_lt first
    have := hexValue_lt second
    omega
  next => cases digits

/-- The text of the tokens is the text they were read from. -/
theorem tokens_text {text : List Char} {parts : List Token} (read : tokens text = some parts) :
    parts.flatMap Token.text = text := by
  induction text using tokens.induct generalizing parts with
  | case1 =>
    cases read
    rfl
  | case2 high low rest ih =>
    cases digits : escapedByte high low with
    | none =>
      rw [tokens_percent, digits] at read
      cases read
    | some byte =>
      rw [tokens_escape digits] at read
      obtain ⟨later, behind, rfl⟩ := Option.map_eq_some_iff.mp read
      exact congrArg ('%' :: high :: low :: ·) (ih behind)
  | case3 rest short =>
    match rest with
    | [] | [_] => cases read
    | high :: low :: rest => exact (short high low rest rfl).elim
  | case4 c rest plain ih =>
    rw [tokens_char plain] at read
    obtain ⟨later, behind, rfl⟩ := Option.map_eq_some_iff.mp read
    exact congrArg (c :: ·) (ih behind)

/-! What is percent-encoded is decoded again. -/

def byteToken (byte : Nat) : Token := .escape (upperHex (byte / 16)) (upperHex (byte % 16)) byte

theorem utf8_lt {c : Char} {byte : Nat} (member : byte ∈ utf8 c) : byte < 0x100 := by
  have bound := toNat_lt c
  unfold utf8 at member
  dsimp only at member
  split at member
  next => simp only [List.mem_cons, List.not_mem_nil, or_false] at member; omega
  next =>
    split at member
    next => simp only [List.mem_cons, List.not_mem_nil, or_false] at member; omega
    next =>
      split at member
      next => simp only [List.mem_cons, List.not_mem_nil, or_false] at member; omega
      next => simp only [List.mem_cons, List.not_mem_nil, or_false] at member; omega

theorem tokens_percentByte {byte : Nat} (bound : byte < 0x100) (rest : List Char) :
    tokens (percentByte byte ++ rest) = (tokens rest).map (byteToken byte :: ·) := by
  have digits : escapedByte (upperHex (byte / 16)) (upperHex (byte % 16)) = some byte := by
    unfold escapedByte
    rw [hexValue_upperHex (by omega), hexValue_upperHex (by omega)]
    exact congrArg some (by omega)
  exact tokens_escape digits rest

theorem tokens_bytes {bytes : List Nat} (bound : ∀ byte ∈ bytes, byte < 0x100) (rest : List Char) :
    tokens (bytes.flatMap percentByte ++ rest) = (tokens rest).map (bytes.map byteToken ++ ·) := by
  induction bytes with
  | nil => simp
  | cons byte bytes ih =>
    rw [List.flatMap_cons, List.append_assoc, tokens_percentByte (bound byte List.mem_cons_self),
      ih fun later member => bound later (List.mem_cons_of_mem _ member), Option.map_map]
    rfl

section
variable {encoded : Char → Bool}

/-- What the tokens of a text become when the text is percent-encoded. -/
def encodeToken (encoded : Char → Bool) : Token → List Token
  | .char c => if encoded c then (utf8 c).map byteToken else [.char c]
  | token => [token]

theorem percentEncode_cons (c : Char) (rest : List Char) : percentEncode encoded (c :: rest) =
    (if encoded c then (utf8 c).flatMap percentByte else [c]) ++ percentEncode encoded rest := rfl

theorem percentEncode_plain {c : Char} (plain : encoded c = false) (rest : List Char) :
    percentEncode encoded (c :: rest) = c :: percentEncode encoded rest := by
  rw [percentEncode_cons, plain]
  rfl

theorem utf8_ne_nil (c : Char) : utf8 c ≠ [] := by
  unfold utf8
  dsimp only
  split
  next => exact List.cons_ne_nil _ _
  next =>
    split
    next => exact List.cons_ne_nil _ _
    next => split <;> exact List.cons_ne_nil _ _

/-- An encoded character begins with a percent sign. -/
theorem percentEncode_encoded {c : Char} (set : encoded c) (rest : List Char) :
    ∃ later, percentEncode encoded (c :: rest) = '%' :: later := by
  rw [percentEncode_cons, if_pos set]
  cases bytes : utf8 c with
  | nil => exact absurd bytes (utf8_ne_nil c)
  | cons byte bytes => exact ⟨_, rfl⟩

/-- No digit and no percent sign is encoded. -/
def Sparing (encoded : Char → Bool) : Prop :=
  ∀ c, encoded c → c ≠ '%' ∧ hexValue c.toNat = none ∧ reserved c.toNat = false

theorem Sparing.percent (sparing : Sparing encoded) : encoded '%' = false := by
  cases set : encoded '%' with
  | false => rfl
  | true => exact absurd rfl (sparing '%' set).1

theorem Sparing.digit (sparing : Sparing encoded) {c : Char} {digit : Nat} (valued : hexValue c.toNat = some digit) :
    encoded c = false := by
  cases set : encoded c with
  | false => rfl
  | true =>
    rw [(sparing c set).2.1] at valued
    cases valued

/-- A percent sign before something else than two digits is an error, whether that is encoded or not. -/
theorem tokens_encoded_high {high : Char} (bad : hexValue high.toNat = none) (rest : List Char) :
    tokens ('%' :: percentEncode encoded (high :: rest)) = none := by
  cases set : encoded high with
  | false =>
    rw [percentEncode_plain set]
    exact tokens_high bad _
  | true =>
    obtain ⟨later, same⟩ := percentEncode_encoded set rest
    rw [same]
    exact tokens_high (by decide) _

theorem tokens_encoded_low (high : Char) {low : Char} (bad : hexValue low.toNat = none) (rest : List Char) :
    tokens ('%' :: high :: percentEncode encoded (low :: rest)) = none := by
  cases set : encoded low with
  | false =>
    rw [percentEncode_plain set]
    exact tokens_low high bad _
  | true =>
    obtain ⟨later, same⟩ := percentEncode_encoded set rest
    rw [same]
    exact tokens_low high (by decide) _

theorem tokens_percentEncode (sparing : Sparing encoded) (text : List Char) :
    tokens (percentEncode encoded text) = (tokens text).map (·.flatMap (encodeToken encoded)) := by
  induction text using tokens.induct with
  | case1 => rfl
  | case2 high low rest ih =>
    rw [percentEncode_plain sparing.percent]
    cases first : hexValue high.toNat with
    | none => rw [tokens_encoded_high first, tokens_high first, Option.map_none]
    | some h =>
      rw [percentEncode_plain (sparing.digit first)]
      cases second : hexValue low.toNat with
      | none => rw [tokens_encoded_low high second, tokens_low high second, Option.map_none]
      | some l =>
        have digits : escapedByte high low = some (16 * h + l) := by
          unfold escapedByte
          rw [first, second]
        rw [percentEncode_plain (sparing.digit second), tokens_escape digits, tokens_escape digits, ih]
        cases tokens rest <;> rfl
  | case3 rest short =>
    rw [percentEncode_plain sparing.percent]
    match rest with
    | [] => rfl
    | [high] =>
      cases set : encoded high with
      | false =>
        rw [percentEncode_plain set]
        rfl
      | true =>
        obtain ⟨later, same⟩ := percentEncode_encoded set []
        rw [same]
        exact tokens_high (by decide) _
    | high :: low :: rest => exact (short high low rest rfl).elim
  | case4 c rest plain ih =>
    rw [tokens_char plain, percentEncode_cons]
    cases set : encoded c with
    | true =>
      rw [if_pos rfl, tokens_bytes fun byte => utf8_lt, ih]
      cases tokens rest with
      | none => rfl
      | some parts => simp [encodeToken, set]
    | false =>
      rw [if_neg Bool.false_ne_true, List.singleton_append, tokens_char plain, ih]
      cases tokens rest with
      | none => rfl
      | some parts => simp [encodeToken, set]

/-! Decoding the bytes of a character gives the character. -/

theorem decodeFrom_ascii (pending : List Nat) {byte : Nat} (ascii : byte < 0x80) (free : reserved byte = false)
    (rest : List Token) :
    decodeFrom pending 0 (byteToken byte :: rest) = (decodeFrom [] 0 rest).map (Char.ofNat byte :: ·) := by
  unfold byteToken
  rw [decodeFrom, if_pos ascii, free]
  rfl

theorem decodeFrom_first (pending : List Nat) {byte missing : Nat} (follow : following byte = some missing)
    (rest : List Token) : decodeFrom pending 0 (byteToken byte :: rest) = decodeFrom [byte] missing rest := by
  have large : ¬byte < 0x80 := by
    unfold following at follow
    split at follow
    next => cases follow
    next => omega
  unfold byteToken
  rw [decodeFrom, if_neg large, follow, Option.bind_some]

theorem decodeFrom_more (pending : List Nat) (missing : Nat) {byte : Nat} (continues : isContinuation byte)
    (rest : List Token) :
    decodeFrom pending (missing + 2) (byteToken byte :: rest) = decodeFrom (pending ++ [byte]) (missing + 1) rest := by
  unfold byteToken
  rw [decodeFrom, if_pos continues, if_neg (Nat.succ_ne_zero missing)]

theorem decodeFrom_last {pending bytes : List Nat} {byte : Nat} {c : Char} (continues : isContinuation byte)
    (decoded : fromUtf8 bytes = some c) (all : pending ++ [byte] = bytes) (rest : List Token) :
    decodeFrom pending 1 (byteToken byte :: rest) = (decodeFrom [] 0 rest).map (c :: ·) := by
  unfold byteToken
  rw [decodeFrom, if_pos continues, if_pos rfl, all, decoded, Option.bind_some]

theorem continues (code : Nat) : isContinuation (0x80 + code % 0x40) := by
  unfold isContinuation
  rw [Bool.and_eq_true, decide_eq_true_eq, decide_eq_true_eq]
  omega

theorem decodeFrom_utf8 {c : Char} (free : reserved c.toNat = false) (pending : List Nat) (rest : List Token) :
    decodeFrom pending 0 ((utf8 c).map byteToken ++ rest) = (decodeFrom [] 0 rest).map (c :: ·) := by
  have whole := fromUtf8_utf8 c
  have bound := toNat_lt c
  unfold utf8 at whole ⊢
  dsimp only at whole ⊢
  split at whole
  next one =>
    rw [if_pos one, List.map_singleton, List.singleton_append, decodeFrom_ascii pending one free, Char.ofNat_toNat]
  next one =>
    rw [if_neg one]
    split at whole
    next two =>
      have follow : following (0xC0 + c.toNat / 0x40) = some 1 := by
        unfold following
        rw [if_neg (by omega), if_pos (by omega)]
      rw [if_pos two]
      simp only [List.map_cons, List.map_nil, List.cons_append, List.nil_append]
      rw [decodeFrom_first pending follow, decodeFrom_last (continues _) whole (by simp only [List.cons_append, List.nil_append])]
    next two =>
      rw [if_neg two]
      split at whole
      next three =>
        have follow : following (0xE0 + c.toNat / 0x1000) = some 2 := by
          unfold following
          rw [if_neg (by omega), if_neg (by omega), if_pos (by omega)]
        rw [if_pos three]
        simp only [List.map_cons, List.map_nil, List.cons_append, List.nil_append]
        rw [decodeFrom_first pending follow, decodeFrom_more _ 0 (continues _),
          decodeFrom_last (continues _) whole (by simp only [List.cons_append, List.nil_append])]
      next three =>
        have follow : following (0xF0 + c.toNat / 0x40000) = some 3 := by
          unfold following
          rw [if_neg (by omega), if_neg (by omega), if_neg (by omega), if_pos (by omega)]
        rw [if_neg three]
        simp only [List.map_cons, List.map_nil, List.cons_append, List.nil_append]
        rw [decodeFrom_first pending follow, decodeFrom_more _ 1 (continues _), decodeFrom_more _ 0 (continues _),
          decodeFrom_last (continues _) whole (by simp only [List.cons_append, List.nil_append])]

/-- A character does not begin with a byte that continues another one. -/
theorem utf8_first (c : Char) : ∃ byte later, utf8 c = byte :: later ∧ isContinuation byte = false := by
  have bound := toNat_lt c
  have starts {byte : Nat} (outside : byte < 0x80 ∨ 0xC0 ≤ byte) : isContinuation byte = false := by
    unfold isContinuation
    rw [Bool.and_eq_false_iff, decide_eq_false_iff_not, decide_eq_false_iff_not]
    omega
  unfold utf8
  dsimp only
  split
  next ascii => exact ⟨_, _, rfl, starts (.inl ascii)⟩
  next =>
    split
    next => exact ⟨_, _, rfl, starts (.inr (Nat.le_add_right _ _))⟩
    next =>
      split
      next => exact ⟨_, _, rfl, starts (.inr (by omega))⟩
      next => exact ⟨_, _, rfl, starts (.inr (by omega))⟩

theorem decodeFrom_encoded (sparing : Sparing encoded) (parts : List Token) (pending : List Nat) (missing : Nat) :
    decodeFrom pending missing (parts.flatMap (encodeToken encoded)) = decodeFrom pending missing parts := by
  induction parts generalizing pending missing with
  | nil => rfl
  | cons token parts ih =>
    rw [List.flatMap_cons]
    cases token with
    | escape high low byte =>
      cases missing with
      | zero => simp only [encodeToken, List.singleton_append, decodeFrom, ih]
      | succ missing => simp only [encodeToken, List.singleton_append, decodeFrom, ih]
    | char c =>
      cases set : encoded c with
      | false =>
        have plain : encodeToken encoded (.char c) = [.char c] := by simp [encodeToken, set]
        rw [plain, List.singleton_append]
        cases missing with
        | zero => rw [decodeFrom, decodeFrom, ih]
        | succ missing => rfl
      | true =>
        have bytes : encodeToken encoded (.char c) = (utf8 c).map byteToken := by simp [encodeToken, set]
        rw [bytes]
        cases missing with
        | zero => rw [decodeFrom_utf8 (sparing c set).2.2, ih, decodeFrom]
        | succ missing =>
          obtain ⟨byte, later, same, starts⟩ := utf8_first c
          rw [same, List.map_cons, List.cons_append]
          unfold byteToken
          rw [decodeFrom, starts]
          rfl

/-- What the browser encodes and decodes again does not matter. -/
theorem decodeURI_percentEncode (sparing : Sparing encoded) (text : List Char) :
    decodeURI (percentEncode encoded text) = decodeURI text := by
  unfold decodeURI
  rw [tokens_percentEncode sparing]
  cases tokens text with
  | none => rfl
  | some parts => exact decodeFrom_encoded sparing parts [] 0

end

theorem reserved_lt {code : Nat} (kept : reserved code) : code < 0x80 := by
  have ascii : reservedSet.all (·.toNat < 0x80) := by decide
  obtain ⟨c, member, same⟩ := List.any_eq_true.mp kept
  rw [← of_decide_eq_true same]
  exact of_decide_eq_true (List.all_eq_true.mp ascii c member)

theorem fragmentSet_sparing : Sparing fragmentSet := by
  have small : ∀ code : Fin 128, fragmentSet (Char.ofNat code) →
      Char.ofNat code ≠ '%' ∧ hexValue code = none ∧ reserved code = false := by
    decide
  intro c set
  by_cases ascii : c.toNat < 128
  · have known := small ⟨c.toNat, ascii⟩
    rw [Char.ofNat_toNat] at known
    exact known set
  · refine ⟨?_, ?_, ?_⟩
    · rintro rfl
      exact ascii (by decide)
    · cases valued : hexValue c.toNat with
      | none => rfl
      | some digit =>
        have code := hexValue_code valued
        omega
    · rw [Bool.eq_false_iff]
      exact fun kept => ascii (reserved_lt kept)

/-! Escapes that stay. -/

/-- The token is left as it is. -/
def Token.Kept : Token → Prop
  | .char _ => True
  | .escape _ _ byte => reserved byte

theorem decodeFrom_kept {parts : List Token} (kept : ∀ token ∈ parts, token.Kept) :
    decodeFrom [] 0 parts = some (parts.flatMap Token.text) := by
  induction parts with
  | nil => rfl
  | cons token parts ih =>
    have rest := ih fun later member => kept later (List.mem_cons_of_mem _ member)
    have first := kept token List.mem_cons_self
    cases token with
    | char c =>
      rw [decodeFrom, rest]
      rfl
    | escape high low byte =>
      have same : reserved byte = true := first
      rw [decodeFrom, if_pos (reserved_lt first), same, rest]
      rfl

end DfStudy.Support.UriText
