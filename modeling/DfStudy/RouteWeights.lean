import DfStudy.HashRoutes

/-! A count of some characters of a text, chosen so that no way of writing a value has fewer of them than the one of
`JSON.stringify`, and that decoding an escape never adds any. -/

namespace DfStudy.RouteWeights
open Support.Unicode Support.JsonStrings Support.JsonText Support.UriText HashRoutes

def heavy (c : Char) : Bool := c = '%' || c = '\\' || c = 'c' || c = 'C' || c = '?'

def weight (text : List Char) : Nat := text.countP heavy

theorem weight_append (first second : List Char) : weight (first ++ second) = weight first + weight second :=
  List.countP_append

theorem weight_cons (c : Char) (text : List Char) : weight (c :: text) = weight text + if heavy c then 1 else 0 :=
  List.countP_cons

theorem weight_light {c : Char} (light : heavy c = false) (text : List Char) : weight (c :: text) = weight text :=
  List.countP_cons_of_neg (by rw [light]; exact Bool.false_ne_true)

theorem weight_heavy {c : Char} (weighs : heavy c) (text : List Char) : weight (c :: text) = weight text + 1 :=
  List.countP_cons_of_pos weighs

theorem weight_le_cons (c : Char) (text : List Char) : weight text ≤ weight (c :: text) := by
  rw [weight_cons]
  exact Nat.le_add_right _ _

theorem heavy_code {c : Char} (weighs : heavy c) :
    c.toNat = 0x25 ∨ c.toNat = 0x5C ∨ c.toNat = 0x63 ∨ c.toNat = 0x43 ∨ c.toNat = 0x3F := by
  unfold heavy at weighs
  simp only [Bool.or_eq_true, decide_eq_true_eq] at weighs
  rcases weighs with (((rfl | rfl) | rfl) | rfl) | rfl <;> decide

/-! Hexadecimal digits: only a twelve is heavy. -/

theorem char_of_code {c : Char} {code : Nat} (same : c.toNat = code) : c = Char.ofNat code := by
  rw [← same, Char.ofNat_toNat]

theorem heavy_digit {c : Char} {digit : Nat} (valued : hexValue c.toNat = some digit) : heavy c = decide (digit = 12) := by
  have all : ∀ code : Fin 0x67, (hexValue code).all fun digit => heavy (Char.ofNat code) = decide (digit = 12) := by decide
  have code := hexValue_code valued
  have known := all ⟨c.toNat, by omega⟩
  rw [valued, Char.ofNat_toNat] at known
  exact of_decide_eq_true known

theorem heavy_lowerHex {digit : Nat} (below : digit < 16) : heavy (lowerHex digit) = decide (digit = 12) :=
  heavy_digit (hexValue_lowerHex below)

theorem hexUnit_some {a b c d : Char} {unit : UInt16} (digits : hexUnit a b c d = some unit) :
    ∃ h i j k, hexValue a.toNat = some h ∧ hexValue b.toNat = some i ∧ hexValue c.toNat = some j ∧
      hexValue d.toNat = some k ∧ unit.toNat = 0x1000 * h + 0x100 * i + 0x10 * j + k := by
  unfold hexUnit at digits
  split at digits
  next h i j k first second third fourth =>
    have := hexValue_lt first
    have := hexValue_lt second
    have := hexValue_lt third
    have := hexValue_lt fourth
    cases digits
    refine ⟨h, i, j, k, first, second, third, fourth, ?_⟩
    rw [UInt16.toNat_ofNat_of_lt' (by simp only [UInt16.size]; omega)]
  next => cases digits

/-! Pieces of strings. -/

/-- An escape of four digits weighs no less than what `JSON.stringify` writes for its code unit. -/
theorem weight_quoteUnit_le {unit : UInt16} {a b c d : Char} (digits : hexUnit a b c d = some unit) :
    weight (quoteUnit unit) ≤ weight ['\\', 'u', a, b, c, d] := by
  obtain ⟨h, i, j, k, first, second, third, fourth, code⟩ := hexUnit_some digits
  have := hexValue_lt first
  have := hexValue_lt second
  have := hexValue_lt third
  have := hexValue_lt fourth
  have slash : 1 ≤ weight ['\\', 'u', a, b, c, d] := by
    rw [weight_heavy (by decide)]
    exact Nat.le_add_left _ _
  unfold quoteUnit
  split
  next known letter found =>
    have table : shortEscapes.all fun entry => !heavy entry.2 || entry.1 = 0x5C := by decide
    have entry := List.all_eq_true.mp table _ (List.mem_of_find?_eq_some found)
    rw [Bool.or_eq_true, Bool.not_eq_true', decide_eq_true_eq] at entry
    have same := List.find?_some found
    rw [decide_eq_true_eq] at same
    dsimp only at same
    rw [weight_heavy (by decide)]
    cases entry with
    | inl light =>
      rw [weight_light light]
      exact slash
    | inr slashed =>
      have twelve : heavy d := by
        rw [heavy_digit fourth, decide_eq_true_eq]
        omega
      simp only [weight_cons, twelve, if_true]
      have : weight [] = 0 := rfl
      have : (if heavy letter = true then 1 else 0) ≤ 1 := by split <;> omega
      have : (if heavy '\\' = true then 1 else 0) = 1 := rfl
      omega
  next =>
    split
    next =>
      have one : unit.toNat / 0x1000 = h := by omega
      have two : unit.toNat / 0x100 % 0x10 = i := by omega
      have three : unit.toNat / 0x10 % 0x10 = j := by omega
      have four : unit.toNat % 0x10 = k := by omega
      unfold unicodeEscape
      rw [one, two, three, four]
      simp only [weight_cons, heavy_lowerHex (hexValue_lt first), heavy_lowerHex (hexValue_lt second),
        heavy_lowerHex (hexValue_lt third), heavy_lowerHex (hexValue_lt fourth), heavy_digit first, heavy_digit second,
        heavy_digit third, heavy_digit fourth, le_refl]
    next =>
      refine le_trans ?_ slash
      rw [weight_cons]
      have : weight [] = 0 := rfl
      split <;> omega

theorem heavy_paired {high low : UInt16} (first : isHigh high) (second : isLow low) : heavy (paired high low) = false := by
  rw [Bool.eq_false_iff]
  intro weighs
  have code := heavy_code weighs
  have := paired_toNat first second
  omega

theorem weight_quoteBody_cons (unit : UInt16) (more : CodeUnits) :
    weight (quoteBody (unit :: more)) ≤ weight (quoteUnit unit) + weight (quoteBody more) := by
  cases more with
  | nil => exact Nat.le_add_right _ _
  | cons next more =>
    rw [quoteBody]
    split
    next pair =>
      rw [Bool.and_eq_true] at pair
      rw [weight_light (heavy_paired pair.1 pair.2), quoteBody_alone (isHigh_of_low pair.2), weight_append]
      omega
    next => rw [weight_append]

/-- A piece of a string weighs no less than what `JSON.stringify` writes for its code units. -/
theorem weight_piece {piece : List Char} {first : CodeUnits} (whole : Piece piece first) (more : CodeUnits) :
    weight (quoteBody (first ++ more)) ≤ weight piece + weight (quoteBody more) := by
  cases whole with
  | @char c quote escape control =>
    rw [quoteBody_utf16 quote escape control]
    exact (weight_append [c] _).le
  | @short letter unit other found =>
    have table : ((0x2F, '/') :: shortEscapes).all fun entry =>
        weight (quoteUnit (.ofNat entry.1)) ≤ weight ['\\', entry.2] := by
      decide
    obtain ⟨entry, listed, rfl⟩ := Option.map_eq_some_iff.mp found
    have fits := of_decide_eq_true (List.all_eq_true.mp table entry (List.mem_of_find?_eq_some listed))
    have same := List.find?_some listed
    rw [decide_eq_true_eq] at same
    rw [← same]
    exact (weight_quoteBody_cons _ more).trans (Nat.add_le_add_right fits _)
  | @unicode a b c d unit digits =>
    exact (weight_quoteBody_cons unit more).trans (Nat.add_le_add_right (weight_quoteUnit_le digits) _)

/-- No text of a string weighs less than the one of `JSON.stringify`. -/
theorem weight_readString {text rest : List Char} {units : CodeUnits} (read : readString text = some (units, rest)) :
    weight (quoteBody units) + weight rest ≤ weight text := by
  refine readString_induction (motive := fun text units => weight (quoteBody units) + weight rest ≤ weight text) ?_ ?_ read
  · rw [weight_light (by decide)]
    exact (Nat.zero_add _).le
  · intro piece first later more whole _ ih
    have heavier := weight_piece whole more
    rw [weight_append]
    omega

/-! Values. -/

section
variable {Number : Type}

mutual

/-- What the strings of a value weigh when they are written by `JSON.stringify`. -/
def jsonWeight : Json Number → Nat
  | .string units => weight (quoteBody units)
  | .array items => itemsWeight items
  | .object fields => fieldsWeight fields
  | .null | .bool _ | .number _ => 0

def itemsWeight : List (Json Number) → Nat
  | [] => 0
  | item :: items => jsonWeight item + itemsWeight items

def fieldsWeight : List (CodeUnits × Json Number) → Nat
  | [] => 0
  | (key, value) :: fields => weight (quoteBody key) + jsonWeight value + fieldsWeight fields

end

def partWeight : Support.JsonText.Part Number → Nat
  | .value value => jsonWeight value
  | .items items => itemsWeight items
  | .fields fields => fieldsWeight fields

def fieldWeight (field : CodeUnits × Json Number) : Nat := weight (quoteBody field.1) + jsonWeight field.2

theorem fieldsWeight_sum (fields : List (CodeUnits × Json Number)) : fieldsWeight fields = (fields.map fieldWeight).sum := by
  induction fields with
  | nil => rfl
  | cons field fields ih =>
    obtain ⟨key, value⟩ := field
    rw [fieldsWeight, ih]
    rfl

theorem fieldsWeight_assemble (fields : List (CodeUnits × Json Number)) :
    fieldsWeight (assemble fields) ≤ fieldsWeight fields := by
  rw [fieldsWeight_sum, fieldsWeight_sum]
  exact sum_assemble fieldWeight fields

theorem weight_skip (text : List Char) : weight (skip text) ≤ weight text :=
  (List.dropWhile_sublist _).countP_le

theorem weight_found {text rest : List Char} {c : Char} (found : skip text = c :: rest) : weight rest ≤ weight text := by
  have whole := weight_skip text
  rw [found] at whole
  exact (weight_le_cons c rest).trans whole

theorem weight_expect {c : Char} {text rest : List Char} (found : expect c text = some rest) : weight rest ≤ weight text :=
  weight_found (expect_some found)

/-- No text of a value weighs less than its strings do when they are written by `JSON.stringify`. -/
theorem weight_reads {toNumber : List Char → Option Number} {part : Support.JsonText.Part Number} {text rest : List Char}
    (reads : Reads toNumber part text rest) : partWeight part + weight rest ≤ weight text := by
  induction reads with
  | string found read =>
    have body := weight_readString read
    have front := weight_found found
    simp only [partWeight, jsonWeight]
    omega
  | @simple value text c rest later found _ _ _ read =>
    have front := weight_skip text
    rw [found] at front
    have light : jsonWeight value = 0 := by
      rcases readSimple_some toNumber read with ⟨word, listed, -⟩ | ⟨literal, number, -, -, -, rfl, -⟩
      · unfold words at listed
        simp only [List.mem_cons, Prod.mk.injEq, List.not_mem_nil, or_false] at listed
        rcases listed with ⟨-, rfl⟩ | ⟨-, rfl⟩ | ⟨-, rfl⟩ <;> rfl
      · rfl
    have behind : weight later ≤ weight (c :: rest) := by
      rcases readSimple_some toNumber read with ⟨word, -, whole⟩ | ⟨literal, number, -, -, -, -, whole⟩ <;>
        rw [whole, weight_append] <;> exact Nat.le_add_left _ _
    simp only [partWeight]
    omega
  | noItems found closed =>
    have front := weight_found found
    have behind := weight_expect closed
    simp only [partWeight, jsonWeight, itemsWeight]
    omega
  | someItems found _ _ ih =>
    have front := weight_found found
    simp only [partWeight, jsonWeight] at ih ⊢
    omega
  | noFields found closed =>
    have front := weight_found found
    have behind := weight_expect closed
    simp only [partWeight, jsonWeight, fieldsWeight]
    omega
  | @someFields fields text rest later found _ _ ih =>
    have front := weight_found found
    have less := fieldsWeight_assemble fields
    simp only [partWeight, jsonWeight] at ih ⊢
    omega
  | lastItem _ _ closed ih =>
    have behind := weight_expect closed
    simp only [partWeight, itemsWeight] at ih ⊢
    omega
  | nextItem _ more _ ih later =>
    have between := weight_expect more
    simp only [partWeight, itemsWeight] at ih later ⊢
    omega
  | lastField quote name separated _ _ closed ih =>
    have front := weight_expect quote
    have body := weight_readString name
    have between := weight_expect separated
    have behind := weight_expect closed
    simp only [partWeight, fieldsWeight] at ih ⊢
    omega
  | nextField quote name separated _ more _ ih later =>
    have front := weight_expect quote
    have body := weight_readString name
    have between := weight_expect separated
    have behind := weight_expect more
    simp only [partWeight, fieldsWeight] at ih later ⊢
    omega

theorem weight_parse {toNumber : List Char → Option Number} {text : List Char} {value : Json Number}
    (parsed : parse toNumber text = some value) : jsonWeight value ≤ weight text := by
  obtain ⟨rest, reads, -⟩ := (parse_some toNumber).mp parsed
  exact (Nat.le_add_right _ _).trans (weight_reads reads)

end

/-! Escapes. -/

/-- The escape of a character that is as heavy as the escape itself. -/
def isLight (byte : Nat) : Bool := byte = 0x25 || byte = 0x43 || byte = 0x63

def lightText : Token → List Char
  | .char c => [c]
  | .escape high low byte => if isLight byte then [Char.ofNat byte] else ['%', high, low]

/-- A percent sign begins an escape, whose digits say what its byte is. -/
def Faithful : Token → Prop
  | .char c => c ≠ '%'
  | .escape high low byte => escapedByte high low = some byte

def Unchanged : Token → Prop
  | .char _ => True
  | .escape _ _ byte => reserved byte ∨ isLight byte

theorem faithful_tokens {text : List Char} {parts : List Token} (read : tokens text = some parts) :
    ∀ token ∈ parts, Faithful token := by
  induction text using tokens.induct generalizing parts with
  | case1 =>
    cases read
    exact fun token member => absurd member List.not_mem_nil
  | case2 high low rest ih =>
    cases digits : escapedByte high low with
    | none =>
      rw [tokens_percent, digits] at read
      cases read
    | some byte =>
      rw [tokens_escape digits] at read
      obtain ⟨later, behind, rfl⟩ := Option.map_eq_some_iff.mp read
      exact List.forall_mem_cons.mpr ⟨digits, ih behind⟩
  | case3 rest short =>
    cases rest with
    | nil => cases read
    | cons high rest =>
      cases rest with
      | nil => cases read
      | cons low rest => exact (short high low rest rfl).elim
  | case4 c rest plain ih =>
    rw [tokens_char plain] at read
    obtain ⟨later, behind, rfl⟩ := Option.map_eq_some_iff.mp read
    exact List.forall_mem_cons.mpr ⟨plain, ih behind⟩

theorem escape_pos (high low : Char) : 0 < weight ['%', high, low] := by
  rw [weight_heavy (by decide)]
  exact Nat.succ_pos _

theorem weight_single (c : Char) : weight [c] ≤ 1 := by
  rw [weight_cons]
  have : weight [] = 0 := rfl
  split <;> omega

/-- Any other escape weighs more than its character. -/
theorem weight_escape {high low : Char} {byte : Nat} (digits : escapedByte high low = some byte) (free : reserved byte = false)
    (changed : isLight byte = false) : weight [Char.ofNat byte] < weight ['%', high, low] := by
  cases weighs : heavy (Char.ofNat byte) with
  | false =>
    rw [weight_light weighs]
    exact escape_pos high low
  | true =>
    have code := heavy_code weighs
    rw [toNat_ofNat (.inl (by have := escapedByte_lt digits; omega))] at code
    rcases code with rfl | rfl | rfl | rfl | rfl
    · cases changed
    · have twelve : heavy low := by
        unfold escapedByte at digits
        split at digits
        next h l _ second =>
          have joined := Option.some.inj digits
          have := hexValue_lt second
          rw [heavy_digit second, decide_eq_true_eq]
          omega
        next => cases digits
      have two : 2 ≤ weight ['%', high, low] := by
        rw [weight_heavy (by decide), weight_cons, weight_heavy twelve]
        omega
      exact (weight_single _).trans_lt two
    · cases changed
    · cases changed
    · cases free

theorem isLight_reserved {byte : Nat} (kept : reserved byte) : isLight byte = false := by
  rw [Bool.eq_false_iff]
  intro light
  unfold isLight at light
  simp only [Bool.or_eq_true, decide_eq_true_eq] at light
  rcases light with (rfl | rfl) | rfl <;> cases kept

theorem heavy_multibyte {c : Char} {pending : List Nat} {byte : Nat} (begun : pending ≠ [])
    (decoded : fromUtf8 (pending ++ [byte]) = some c) : heavy c = false := by
  rw [Bool.eq_false_iff]
  intro weighs
  have code := heavy_code weighs
  have bytes := utf8_fromUtf8 decoded
  have length := congrArg List.length bytes
  have some_ := List.length_pos_iff.mpr begun
  unfold utf8 at length
  dsimp only at length
  rw [if_pos (by omega), List.length_append, List.length_singleton, List.length_singleton] at length
  omega

theorem decoded_escape (high low : Char) (byte : Nat) :
    weight (if reserved byte then ['%', high, low] else [Char.ofNat byte]) ≤ weight ['%', high, low] := by
  split
  next => exact le_rfl
  next => exact (weight_single _).trans (escape_pos high low)

theorem following_pos {byte missing : Nat} (follow : following byte = some missing) : missing ≠ 0 := by
  unfold following at follow
  rintro rfl
  split at follow
  next => cases follow
  next =>
    split at follow
    next => cases follow
    next =>
      split at follow
      next => cases follow
      next => split at follow <;> cases follow

/-- What is decoded weighs no more than the text, and less where the bytes of a character are being read. -/
theorem weight_decodeFrom {parts : List Token} (faithful : ∀ token ∈ parts, Faithful token) {pending : List Nat}
    {missing : Nat} (begun : missing ≠ 0 → pending ≠ []) {out : List Char} (decoded : decodeFrom pending missing parts = some out) :
    weight out + (if missing = 0 then 0 else 1) ≤ weight (parts.flatMap Token.text) := by
  induction parts generalizing pending missing out with
  | nil =>
    cases missing with
    | zero =>
      cases decoded
      exact le_rfl
    | succ missing => cases decoded
  | cons token parts ih =>
    have first := faithful token List.mem_cons_self
    have rest : ∀ later ∈ parts, Faithful later := fun later member => faithful later (List.mem_cons_of_mem _ member)
    rw [List.flatMap_cons, weight_append]
    cases token with
    | char c =>
      cases missing with
      | succ missing => cases decoded
      | zero =>
        rw [decodeFrom] at decoded
        obtain ⟨later, behind, rfl⟩ := Option.map_eq_some_iff.mp decoded
        have less := ih rest (fun impossible => absurd rfl impossible) behind
        change weight ([c] ++ later) + _ ≤ weight [c] + _
        rw [weight_append]
        omega
    | escape high low byte =>
      have positive := escape_pos high low
      change _ ≤ weight ['%', high, low] + _
      cases missing with
      | zero =>
        rw [decodeFrom] at decoded
        split at decoded
        next ascii =>
          obtain ⟨later, behind, rfl⟩ := Option.map_eq_some_iff.mp decoded
          have less := ih rest (fun impossible => absurd rfl impossible) behind
          have lighter := decoded_escape high low byte
          rw [weight_append]
          simp only [if_true] at less ⊢
          omega
        next large =>
          obtain ⟨missing, follow, behind⟩ := Option.bind_eq_some_iff.mp decoded
          have less := ih rest (fun _ => List.cons_ne_nil _ _) behind
          rw [if_neg (following_pos follow)] at less
          simp only [if_true]
          omega
      | succ missing =>
        rw [decodeFrom] at decoded
        split at decoded
        next continues =>
          split at decoded
          next last =>
            obtain ⟨c, spelled, read⟩ := Option.bind_eq_some_iff.mp decoded
            obtain ⟨later, behind, rfl⟩ := Option.map_eq_some_iff.mp read
            have less := ih rest (fun impossible => absurd rfl impossible) behind
            have light := heavy_multibyte (begun (Nat.succ_ne_zero _)) spelled
            rw [weight_light light, if_neg (Nat.succ_ne_zero _)]
            simp only [if_true] at less
            omega
          next more =>
            have less := ih rest (fun _ => List.append_ne_nil_of_right_ne_nil _ (List.cons_ne_nil _ _)) decoded
            rw [if_neg more] at less
            rw [if_neg (Nat.succ_ne_zero _)]
            omega
        next => cases decoded

/-- It weighs as much only where every escape stays or its character is as heavy as the escape. -/
theorem unchanged_decodeFrom {parts : List Token} (faithful : ∀ token ∈ parts, Faithful token) {out : List Char}
    (decoded : decodeFrom [] 0 parts = some out) (same : weight (parts.flatMap Token.text) ≤ weight out) :
    (∀ token ∈ parts, Unchanged token) ∧ out = parts.flatMap lightText := by
  induction parts generalizing out with
  | nil =>
    cases decoded
    exact ⟨fun token member => absurd member List.not_mem_nil, rfl⟩
  | cons token parts ih =>
    have first := faithful token List.mem_cons_self
    have rest : ∀ later ∈ parts, Faithful later := fun later member => faithful later (List.mem_cons_of_mem _ member)
    have lighter {later : List Char} (behind : decodeFrom [] 0 parts = some later) :
        weight later ≤ weight (parts.flatMap Token.text) :=
      weight_decodeFrom rest (fun impossible => absurd rfl impossible) behind
    rw [List.flatMap_cons, weight_append] at same
    cases token with
    | char c =>
      rw [decodeFrom] at decoded
      obtain ⟨later, behind, rfl⟩ := Option.map_eq_some_iff.mp decoded
      have equal : weight (parts.flatMap Token.text) ≤ weight later := by
        change weight [c] + _ ≤ weight ([c] ++ later) at same
        rw [weight_append] at same
        omega
      obtain ⟨unchanged, out⟩ := ih rest behind equal
      exact ⟨List.forall_mem_cons.mpr ⟨trivial, unchanged⟩, congrArg (c :: ·) out⟩
    | escape high low byte =>
      change weight ['%', high, low] + _ ≤ _ at same
      have positive := escape_pos high low
      rw [decodeFrom] at decoded
      split at decoded
      next ascii =>
        obtain ⟨later, behind, rfl⟩ := Option.map_eq_some_iff.mp decoded
        have less := lighter behind
        rw [weight_append] at same
        cases kept : reserved byte with
        | true =>
          rw [kept] at same
          simp only [if_true] at same
          obtain ⟨unchanged, out⟩ := ih rest behind (by omega)
          refine ⟨List.forall_mem_cons.mpr ⟨.inl kept, unchanged⟩, ?_⟩
          rw [List.flatMap_cons, out]
          simp [lightText, isLight_reserved kept]
        | false =>
          rw [kept] at same
          simp only [Bool.false_eq_true, if_false] at same
          cases light : isLight byte with
          | false =>
            have lost := weight_escape first kept light
            omega
          | true =>
            have one := weight_single (Char.ofNat byte)
            obtain ⟨unchanged, out⟩ := ih rest behind (by omega)
            refine ⟨List.forall_mem_cons.mpr ⟨.inr light, unchanged⟩, ?_⟩
            rw [List.flatMap_cons, out]
            simp [lightText, light]
      next large =>
        obtain ⟨missing, follow, behind⟩ := Option.bind_eq_some_iff.mp decoded
        have less := weight_decodeFrom rest (fun _ => List.cons_ne_nil _ _) behind
        rw [if_neg (following_pos follow)] at less
        omega

end DfStudy.RouteWeights
