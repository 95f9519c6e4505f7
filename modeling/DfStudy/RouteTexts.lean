import DfStudy.RouteWeights

/-! Texts that decoding leaves alone, and texts in which it decodes light escapes only: the text of an object stays one of
an object then. -/

namespace DfStudy.RouteTexts
open Support.Unicode Support.JsonStrings Support.JsonText Support.UriText HashRoutes RouteWeights

/-! Texts in which only light escapes are decoded. -/

def light (high low : Char) : Option Char :=
  (escapedByte high low).bind fun byte => if isLight byte then some (Char.ofNat byte) else none

/-- The light escapes are decoded, and nothing else is. -/
def lighten : List Char → List Char
  | c :: high :: low :: rest =>
    match if c = '%' then light high low else none with
    | some decoded => decoded :: lighten rest
    | none => c :: lighten (high :: low :: rest)
  | short => short

theorem lighten_plain {c : Char} (plain : c ≠ '%') (rest : List Char) : lighten (c :: rest) = c :: lighten rest := by
  match rest with
  | [] | [_] => rfl
  | high :: low :: rest =>
    rw [lighten, if_neg plain]

theorem lighten_light {high low decoded : Char} (found : light high low = some decoded) (rest : List Char) :
    lighten ('%' :: high :: low :: rest) = decoded :: lighten rest := by
  rw [lighten, if_pos rfl, found]

theorem lighten_other {high low : Char} (other : light high low = none) (rest : List Char) :
    lighten ('%' :: high :: low :: rest) = '%' :: lighten (high :: low :: rest) := by
  rw [lighten, if_pos rfl, other]

theorem light_high {high : Char} (bad : hexValue high.toNat = none) (low : Char) : light high low = none := by
  unfold light escapedByte
  rw [bad]
  rfl

theorem light_low (high : Char) {low : Char} (bad : hexValue low.toNat = none) : light high low = none := by
  unfold light escapedByte
  rw [bad]
  cases hexValue high.toNat <;> rfl

/-- A percent sign before something else than two digits stays. -/
theorem lighten_percent_stop {c : Char} (bad : hexValue c.toNat = none) (rest : List Char) :
    lighten ('%' :: c :: rest) = '%' :: lighten (c :: rest) := by
  cases rest with
  | nil => rfl
  | cons low rest => exact lighten_other (light_high bad low) rest

/-- Nothing is decoded across a separator. -/
theorem lighten_append {c : Char} (bad : hexValue c.toNat = none) (plain : c ≠ '%') (text rest : List Char) :
    lighten (text ++ c :: rest) = lighten text ++ c :: lighten rest := by
  induction text using lighten.induct with
  | case1 first high low later decoded found ih =>
    by_cases percent : first = '%'
    · subst percent
      rw [if_pos rfl] at found
      rw [List.cons_append, List.cons_append, List.cons_append, lighten_light found, lighten_light found, ih]
      rfl
    · rw [if_neg percent] at found
      cases found
  | case2 first high low later other ih =>
    by_cases percent : first = '%'
    · subst percent
      rw [if_pos rfl] at other
      rw [List.cons_append, List.cons_append, List.cons_append, lighten_other other, lighten_other other]
      exact congrArg ('%' :: ·) ih
    · rw [List.cons_append, lighten_plain percent, lighten_plain percent, ih]
      rfl
  | case3 short few =>
    match short with
    | [] => exact lighten_plain plain rest
    | [first] =>
      by_cases percent : first = '%'
      · subst percent
        rw [List.singleton_append, lighten_percent_stop bad, lighten_plain plain]
        rfl
      · rw [List.singleton_append, lighten_plain percent, lighten_plain plain]
        rfl
    | [first, second] =>
      have behind : lighten (second :: c :: rest) = second :: c :: lighten rest := by
        by_cases percent : second = '%'
        · subst percent
          rw [lighten_percent_stop bad, lighten_plain plain]
        · rw [lighten_plain percent, lighten_plain plain]
      by_cases percent : first = '%'
      · subst percent
        exact (lighten_other (light_low second bad) rest).trans (congrArg ('%' :: ·) behind)
      · exact (lighten_plain percent _).trans (congrArg (first :: ·) behind)
    | first :: second :: third :: later => exact (few first second third later rfl).elim

theorem lighten_free {text : List Char} (free : ∀ c ∈ text, c ≠ '%') (rest : List Char) :
    lighten (text ++ rest) = text ++ lighten rest := by
  induction text with
  | nil => rfl
  | cons c text ih =>
    rw [List.cons_append, lighten_plain (free c List.mem_cons_self), ih fun later member => free later (List.mem_cons_of_mem _ member)]
    rfl

theorem light_none {high low : Char} {byte : Nat} (digits : escapedByte high low = some byte) (heavy : isLight byte = false) :
    light high low = none := by
  unfold light
  rw [digits, Option.bind_some, heavy]
  rfl

theorem light_some {high low : Char} {byte : Nat} (digits : escapedByte high low = some byte) (decoded : isLight byte) :
    light high low = some (Char.ofNat byte) := by
  unfold light
  rw [digits, Option.bind_some, if_pos decoded]

theorem digits_plain {high low : Char} {byte : Nat} (digits : escapedByte high low = some byte) :
    high ≠ '%' ∧ low ≠ '%' := by
  unfold escapedByte at digits
  split at digits
  next h l first second =>
    refine ⟨?_, ?_⟩
    · rintro rfl
      cases first
    · rintro rfl
      cases second
  next => cases digits

theorem lighten_tokens {parts : List Token} (faithful : ∀ token ∈ parts, Faithful token) :
    lighten (parts.flatMap Token.text) = parts.flatMap lightText := by
  induction parts with
  | nil => rfl
  | cons token parts ih =>
    have first := faithful token List.mem_cons_self
    have rest := ih fun later member => faithful later (List.mem_cons_of_mem _ member)
    rw [List.flatMap_cons, List.flatMap_cons, ← rest]
    cases token with
    | char c => exact lighten_plain first _
    | escape high low byte =>
      change lighten ('%' :: high :: low :: parts.flatMap Token.text) = _
      cases decoded : isLight byte with
      | true =>
        have written : lightText (.escape high low byte) = [Char.ofNat byte] := if_pos decoded
        rw [lighten_light (light_some first decoded), written]
        rfl
      | false =>
        have written : lightText (.escape high low byte) = ['%', high, low] := if_neg (by simp [decoded])
        obtain ⟨plain, plain'⟩ := digits_plain first
        rw [lighten_other (light_none first decoded), lighten_plain plain, lighten_plain plain', written]
        rfl

/-! Objects. -/

theorem lighten_members (members : List (List Char × List Char)) (filled : members ≠ []) (rest : List Char) :
    lighten (membersText members ++ '}' :: rest) = membersText (members.map (Prod.map lighten lighten)) ++ '}' :: lighten rest := by
  induction members with
  | nil => exact absurd rfl filled
  | cons member members ih =>
    obtain ⟨key, value⟩ := member
    cases members with
    | nil =>
      rw [membersText_last, lighten_plain (by decide), lighten_append (by decide) (by decide), lighten_plain (by decide),
        lighten_append (by decide) (by decide)]
      exact (membersText_last (lighten key) (lighten value) (lighten rest)).symm
    | cons second members =>
      rw [membersText_next, lighten_plain (by decide), lighten_append (by decide) (by decide), lighten_plain (by decide),
        lighten_append (by decide) (by decide), ih (List.cons_ne_nil _ _)]
      exact (membersText_next (lighten key) (lighten value) (Prod.map lighten lighten second)
        (members.map (Prod.map lighten lighten)) (lighten rest)).symm

theorem lighten_objectText (members : List (List Char × List Char)) :
    lighten (objectText members) = objectText (members.map (Prod.map lighten lighten)) := by
  cases members with
  | nil => rfl
  | cons first members =>
    unfold objectText
    rw [List.cons_append, lighten_plain (by decide), lighten_members _ (List.cons_ne_nil _ _)]
    rfl

/-! Strings whose text is lightened. -/

/-- A digit at the front of a written string is the first code unit of the string. -/
theorem quoteBody_digit {units : CodeUnits} {c : Char} {rest : List Char} {digit : Nat} (written : quoteBody units = c :: rest)
    (valued : hexValue c.toNat = some digit) :
    ∃ unit more, units = unit :: more ∧ rest = quoteBody more ∧ unit.toNat = c.toNat := by
  cases units with
  | nil => cases written
  | cons unit more =>
    refine ⟨unit, more, rfl, ?_⟩
    rcases quoteBody_cons unit more with ⟨next, later, -, high, low, same⟩ | same
    · have code := hexValue_code valued
      have large := paired_toNat high low
      rw [same] at written
      rw [(List.cons.inj written).1] at large
      omega
    · rw [same] at written
      rcases quoteUnit_cases unit with ⟨escape, escaped, -⟩ | ⟨single, code⟩
      · rw [escaped] at written
        rw [← (List.cons.inj written).1] at valued
        cases valued
      · rw [single] at written
        rw [← (List.cons.inj written).1]
        exact ⟨(List.cons.inj written).2.symm, code.symm⟩

/-- The lightened text of a string is the text of a string, of a shorter one if anything is decoded. -/
def Lightened (units : CodeUnits) : Prop :=
  ∃ shorter : CodeUnits, (∀ rest, readString (lighten (quoteBody units) ++ '"' :: rest) = some (shorter, rest)) ∧
    shorter.length ≤ units.length ∧ (units.length ≤ shorter.length → lighten (quoteBody units) = quoteBody units)

theorem lightened_piece {piece : List Char} {first more units : CodeUnits} (whole : Piece piece first) (behind : Lightened more)
    (length : units.length = first.length + more.length) (written : quoteBody units = piece ++ quoteBody more)
    (kept : lighten (quoteBody units) = piece ++ lighten (quoteBody more)) : Lightened units := by
  obtain ⟨shorter, read, less, same⟩ := behind
  refine ⟨first ++ shorter, fun rest => ?_, ?_, fun equal => ?_⟩
  · rw [kept, List.append_assoc, readString_piece whole, read]
    rfl
  · rw [List.length_append, length]
    omega
  · rw [List.length_append] at equal
    rw [kept, written, same (by omega)]

theorem lighten_percent {rest : List Char} (other : ∀ high low later, rest = high :: low :: later → light high low = none) :
    lighten ('%' :: rest) = '%' :: lighten rest := by
  match rest with
  | [] | [_] => rfl
  | high :: low :: later => exact lighten_other (other high low later rfl) later

theorem light_cases {high low decoded : Char} (found : light high low = some decoded) :
    (∃ h l, hexValue high.toNat = some h ∧ hexValue low.toNat = some l) ∧ (utf16 decoded).length = 1 ∧
      Piece [decoded] (utf16 decoded) := by
  unfold light at found
  obtain ⟨byte, digits, kept⟩ := Option.bind_eq_some_iff.mp found
  refine ⟨?_, ?_⟩
  · unfold escapedByte at digits
    split at digits
    next h l first second => exact ⟨h, l, first, second⟩
    next => cases digits
  · split at kept
    next lighter =>
      cases kept
      unfold isLight at lighter
      simp only [Bool.or_eq_true, decide_eq_true_eq] at lighter
      rcases lighter with (rfl | rfl) | rfl <;>
        exact ⟨by decide, .char (by decide) (by decide) (by decide)⟩
    next => cases kept

theorem lightened_percent {unit : UInt16} {more : CodeUnits} (percent : quoteUnit unit = ['%'])
    (written : quoteBody (unit :: more) = quoteUnit unit ++ quoteBody more)
    (shorter : ∀ later : CodeUnits, later.length ≤ more.length → Lightened later) : Lightened (unit :: more) := by
  have whole := piece_quoteUnit unit
  rw [percent] at whole written
  by_cases decodes : ∃ high low later decoded, quoteBody more = high :: low :: later ∧ light high low = some decoded
  · obtain ⟨high, low, later, decoded, front, found⟩ := decodes
    obtain ⟨⟨h, l, first, second⟩, single, piece⟩ := light_cases found
    obtain ⟨one, others, rfl, behind, -⟩ := quoteBody_digit front first
    obtain ⟨two, others, rfl, rfl, -⟩ := quoteBody_digit behind.symm second
    obtain ⟨fewer, read, less, -⟩ := shorter others (by simp only [List.length_cons]; omega)
    have text : lighten (quoteBody (unit :: one :: two :: others)) = decoded :: lighten (quoteBody others) := by
      rw [written, front]
      exact lighten_light found _
    refine ⟨utf16 decoded ++ fewer, fun rest => ?_, ?_, fun equal => ?_⟩
    · rw [text, List.cons_append, ← List.singleton_append, readString_piece piece, read]
      rfl
    · rw [List.length_append, single]
      simp only [List.length_cons]
      omega
    · rw [List.length_append, single] at equal
      simp only [List.length_cons] at equal
      omega
  · have other : ∀ high low later, quoteBody more = high :: low :: later → light high low = none := by
      intro high low later front
      cases found : light high low with
      | none => rfl
      | some decoded => exact absurd ⟨high, low, later, decoded, front, found⟩ decodes
    refine lightened_piece whole (shorter more le_rfl) (Nat.add_comm _ _) written ?_
    rw [written]
    exact lighten_percent other

theorem lightened (units : CodeUnits) : Lightened units := by
  induction bound : units.length using Nat.strongRecOn generalizing units with
  | ind length ih =>
    cases units with
    | nil => exact ⟨[], readString_quote, le_rfl, fun _ => rfl⟩
    | cons unit more =>
      have shorter : ∀ later : CodeUnits, later.length ≤ more.length → Lightened later := by
        intro later less
        exact ih later.length (by rw [← bound, List.length_cons]; omega) later rfl
      rcases quoteBody_cons unit more with ⟨next, later, rfl, high, low, written⟩ | written
      · have plain : paired unit next ≠ '%' := by
          intro same
          have large := paired_toNat high low
          rw [same] at large
          have : ('%' : Char).toNat = 0x25 := rfl
          omega
        refine lightened_piece (piece_paired high low) (shorter later (Nat.le_succ _)) ?_ written ?_
        · simp only [List.length_cons, List.length_nil]
          omega
        · rw [written, lighten_plain plain]
          rfl
      · by_cases percent : quoteUnit unit = ['%']
        · exact lightened_percent percent written shorter
        · have free : ∀ c ∈ quoteUnit unit, c ≠ '%' := by
            intro c member
            rcases quoteUnit_cases unit with ⟨escape, escaped, others⟩ | ⟨single, -⟩
            · rw [escaped] at member
              rcases List.mem_cons.mp member with rfl | rest
              · decide
              · exact (others c rest).1
            · rw [single] at member percent
              rw [List.mem_singleton.mp member]
              exact fun same => percent (by rw [same])
          refine lightened_piece (piece_quoteUnit unit) (shorter more le_rfl) (Nat.add_comm _ _) written ?_
          rw [written, lighten_free free]

/-! Texts that survive. -/

def codes (text : List Char) : List Nat := text.map Char.toNat

theorem opensReserved_digits {high low h l : Nat} (first : hexValue high = some h) (second : hexValue low = some l)
    (rest : List Nat) : opensReserved (high :: low :: rest) = reserved (16 * h + l) := by
  unfold opensReserved
  dsimp only
  rw [first, second]

theorem opensReserved_true {text : List Nat} (opens : opensReserved text) :
    ∃ high low rest h l, text = high :: low :: rest ∧ hexValue high = some h ∧ hexValue low = some l ∧
      reserved (16 * h + l) := by
  unfold opensReserved at opens
  split at opens
  next high low rest =>
    split at opens
    next h l first second => exact ⟨high, low, rest, h, l, rfl, first, second, opens⟩
    next => cases opens
  next => cases opens

theorem opensReserved_stop {code : Nat} (bad : hexValue code = none) (text rest : List Nat) :
    opensReserved (text ++ code :: rest) = opensReserved text := by
  cases text with
  | nil =>
    rw [show opensReserved [] = false from rfl, Bool.eq_false_iff]
    intro opens
    obtain ⟨high, low, later, h, l, same, first, -, -⟩ := opensReserved_true opens
    rw [← (List.cons.inj same).1, bad] at first
    cases first
  | cons single text =>
    cases text with
    | nil =>
      rw [show opensReserved [single] = false from rfl, Bool.eq_false_iff]
      intro opens
      obtain ⟨high, low, later, h, l, same, -, second, -⟩ := opensReserved_true opens
      rw [← (List.cons.inj (List.cons.inj same).2).1, bad] at second
      cases second
    | cons low text => rfl

theorem survives_cons (code : Nat) (rest : List Nat) :
    survives (code :: rest) = (code ≠ 0x3F && (code ≠ 0x25 || opensReserved rest) && survives rest) := rfl

theorem survives_plain {code : Nat} (percent : code ≠ 0x25) (question : code ≠ 0x3F) (rest : List Nat) :
    survives (code :: rest) = survives rest := by
  rw [survives_cons, decide_eq_true percent, decide_eq_true question, Bool.true_or, Bool.true_and, Bool.true_and]

theorem survives_append {code : Nat} (bad : hexValue code = none) (percent : code ≠ 0x25) (question : code ≠ 0x3F)
    (text rest : List Nat) : survives (text ++ code :: rest) = (survives text && survives rest) := by
  induction text with
  | nil => exact survives_plain percent question rest
  | cons first text ih =>
    rw [List.cons_append, survives_cons, survives_cons, opensReserved_stop bad, ih, Bool.and_assoc (_ && _)]

theorem survives_free {text : List Nat} (free : ∀ code ∈ text, code ≠ 0x25 ∧ code ≠ 0x3F) (rest : List Nat) :
    survives (text ++ rest) = survives rest := by
  induction text with
  | nil => rfl
  | cons code text ih =>
    obtain ⟨percent, question⟩ := free code List.mem_cons_self
    rw [List.cons_append, survives_plain percent question, ih fun later member => free later (List.mem_cons_of_mem _ member)]

/-- A code unit that is a digit is written as it is. -/
theorem quoteBody_hex {unit : UInt16} {digit : Nat} (valued : hexValue unit.toNat = some digit) (more : CodeUnits) :
    ∃ c, quoteBody (unit :: more) = c :: quoteBody more ∧ c.toNat = unit.toNat := by
  have code := hexValue_code valued
  have high : isHigh unit = false := by
    unfold isHigh
    rw [Bool.and_eq_false_iff, decide_eq_false_iff_not]
    omega
  have low : isLow unit = false := by
    unfold isLow
    rw [Bool.and_eq_false_iff, decide_eq_false_iff_not]
    omega
  refine ⟨Char.ofNat unit.toNat, ?_, (utf16_single high low).2⟩
  rw [quoteBody_alone high, quoteUnit_plain unit (by omega) (by omega) (by omega) high low]
  rfl

theorem opensReserved_quoteBody (units : CodeUnits) :
    opensReserved (codes (quoteBody units)) = opensReserved (units.map UInt16.toNat) := by
  rw [Bool.eq_iff_iff]
  constructor
  · intro opens
    obtain ⟨_, _, _, h, l, same, first, second, kept⟩ := opensReserved_true opens
    obtain ⟨high, _, written, rfl, tail⟩ := List.map_eq_cons_iff.mp same
    obtain ⟨low, _, rfl, rfl, -⟩ := List.map_eq_cons_iff.mp tail
    obtain ⟨one, others, rfl, behind, code⟩ := quoteBody_digit written first
    obtain ⟨two, others, rfl, -, code'⟩ := quoteBody_digit behind.symm second
    rw [← code] at first
    rw [← code'] at second
    exact (opensReserved_digits first second _).trans kept
  · intro opens
    obtain ⟨_, _, _, h, l, same, first, second, kept⟩ := opensReserved_true opens
    obtain ⟨one, _, rfl, rfl, tail⟩ := List.map_eq_cons_iff.mp same
    obtain ⟨two, others, rfl, rfl, -⟩ := List.map_eq_cons_iff.mp tail
    obtain ⟨high, written, code⟩ := quoteBody_hex first (two :: others)
    obtain ⟨low, written', code'⟩ := quoteBody_hex second others
    rw [← code] at first
    rw [← code'] at second
    rw [written, written']
    exact (opensReserved_digits first second _).trans kept

theorem survives_quoteBody (units : CodeUnits) : survives (codes (quoteBody units)) = survives (units.map UInt16.toNat) := by
  induction bound : units.length using Nat.strongRecOn generalizing units with
  | ind length ih =>
    cases units with
    | nil => rfl
    | cons unit more =>
      have shorter : ∀ later : CodeUnits, later.length ≤ more.length →
          survives (codes (quoteBody later)) = survives (later.map UInt16.toNat) := by
        intro later less
        exact ih later.length (by rw [← bound, List.length_cons]; omega) later rfl
      rcases quoteBody_cons unit more with ⟨next, later, rfl, high, low, written⟩ | written
      · have large := paired_toNat high low
        unfold isHigh at high
        unfold isLow at low
        simp only [Bool.and_eq_true, decide_eq_true_eq] at high low
        rw [written, codes, List.map_cons, survives_plain (by omega) (by omega), List.map_cons, List.map_cons,
          survives_plain (by omega) (by omega), survives_plain (by omega) (by omega)]
        exact shorter later (Nat.le_succ _)
      · rw [written, codes, List.map_append, List.map_cons]
        rcases quoteUnit_cases unit with ⟨escape, escaped, others⟩ | ⟨single, code⟩
        · have plain : unit.toNat ≠ 0x25 ∧ unit.toNat ≠ 0x3F := by
            have alone (same : unit.toNat = 0x25 ∨ unit.toNat = 0x3F) : False := by
              have high : isHigh unit = false := by
                unfold isHigh
                rw [Bool.and_eq_false_iff, decide_eq_false_iff_not]
                omega
              have low : isLow unit = false := by
                unfold isLow
                rw [Bool.and_eq_false_iff, decide_eq_false_iff_not]
                omega
              rw [quoteUnit_plain unit (by omega) (by omega) (by omega) high low] at escaped
              have slash := congrArg Char.toNat (List.cons.inj escaped).1
              rw [(utf16_single high low).2] at slash
              have : ('\\' : Char).toNat = 0x5C := rfl
              omega
            exact ⟨fun same => alone (.inl same), fun same => alone (.inr same)⟩
          have free : ∀ code ∈ (quoteUnit unit).map Char.toNat, code ≠ 0x25 ∧ code ≠ 0x3F := by
            rw [escaped]
            intro code member
            obtain ⟨c, listed, rfl⟩ := List.mem_map.mp member
            have different : c ≠ '%' ∧ c ≠ '?' := by
              rcases List.mem_cons.mp listed with rfl | rest
              · decide
              · exact others c rest
            exact ⟨fun same => different.1 (char_of_code same), fun same => different.2 (char_of_code same)⟩
          rw [survives_free free, survives_plain plain.1 plain.2]
          exact shorter more le_rfl
        · rw [single, List.map_singleton, code, List.singleton_append, survives_cons, survives_cons]
          have opens := opensReserved_quoteBody more
          have rest := shorter more le_rfl
          unfold codes at opens rest
          rw [opens, rest]

/-! Texts of objects. -/

theorem survives_members (members : List (List Char × List Char)) (filled : members ≠ []) (rest : List Char) :
    survives (codes (membersText members ++ '}' :: rest)) =
      ((members.all fun member => survives (codes member.1) && survives (codes member.2)) && survives (codes rest)) := by
  have step (key value : List Char) {next : Char} (bad : hexValue next.toNat = none) (percent : next.toNat ≠ 0x25)
      (question : next.toNat ≠ 0x3F) (rest : List Char) :
      survives (codes ('"' :: (key ++ '"' :: ':' :: (value ++ next :: rest)))) =
        (survives (codes key) && survives (codes value) && survives (codes rest)) := by
    unfold codes
    rw [List.map_cons, survives_plain (by decide) (by decide), List.map_append, List.map_cons,
      survives_append (by decide) (by decide) (by decide), List.map_cons, survives_plain (by decide) (by decide),
      List.map_append, List.map_cons, survives_append bad percent question, Bool.and_assoc]
  induction members with
  | nil => exact absurd rfl filled
  | cons member members ih =>
    obtain ⟨key, value⟩ := member
    cases members with
    | nil =>
      rw [membersText_last, step key value (by decide) (by decide) (by decide), List.all_cons, List.all_nil, Bool.and_true]
    | cons second members =>
      rw [membersText_next, step key value (by decide) (by decide) (by decide), ih (List.cons_ne_nil _ _)]
      exact (Bool.and_assoc _ _ _).symm

theorem survives_objectText (members : List (List Char × List Char)) :
    survives (codes (objectText members)) =
      members.all fun member => survives (codes member.1) && survives (codes member.2) := by
  cases members with
  | nil => rfl
  | cons first members =>
    have inner := survives_members (first :: members) (List.cons_ne_nil _ _) []
    rw [show survives (codes []) = true from rfl, Bool.and_true] at inner
    rw [← inner]
    exact survives_plain (by decide) (by decide) _

theorem weight_members (members : List (List Char × List Char)) (filled : members ≠ []) (rest : List Char) :
    weight (membersText members ++ '}' :: rest) =
      (members.map fun member => weight member.1 + weight member.2).sum + weight rest := by
  have step (key value : List Char) {next : Char} (free : heavy next = false) (rest : List Char) :
      weight ('"' :: (key ++ '"' :: ':' :: (value ++ next :: rest))) = weight key + weight value + weight rest := by
    rw [weight_light (by decide), weight_append, weight_light (by decide), weight_light (by decide), weight_append,
      weight_light free, Nat.add_assoc]
  induction members with
  | nil => exact absurd rfl filled
  | cons member members ih =>
    obtain ⟨key, value⟩ := member
    cases members with
    | nil =>
      rw [membersText_last, step key value (by decide)]
      rfl
    | cons second members =>
      rw [membersText_next, step key value (by decide), ih (List.cons_ne_nil _ _)]
      exact (Nat.add_assoc _ _ _).symm

theorem weight_objectText (members : List (List Char × List Char)) :
    weight (objectText members) = (members.map fun member => weight member.1 + weight member.2).sum := by
  cases members with
  | nil => rfl
  | cons first members =>
    have inner := weight_members (first :: members) (List.cons_ne_nil _ _) []
    rw [show weight [] = 0 from rfl, Nat.add_zero] at inner
    rw [← inner]
    exact weight_light (by decide) _

/-! Decoding. -/

/-- A text that survives is decoded to itself. -/
theorem tokens_of_survives {text : List Char} (kept : survives (codes text)) :
    '?' ∉ text ∧ ∃ parts, tokens text = some parts ∧ ∀ token ∈ parts, token.Kept := by
  induction text using tokens.induct with
  | case1 => exact ⟨List.not_mem_nil, [], rfl, fun token member => absurd member List.not_mem_nil⟩
  | case2 high low rest ih =>
    change survives (0x25 :: high.toNat :: low.toNat :: codes rest) = true at kept
    rw [survives_cons] at kept
    simp only [Bool.and_eq_true, Bool.or_eq_true, decide_eq_true_eq] at kept
    have opens : opensReserved (high.toNat :: low.toNat :: codes rest) = true := kept.1.2.resolve_left fun other => other rfl
    obtain ⟨_, _, _, h, l, same, first, second, stays⟩ := opensReserved_true opens
    cases same
    have firstCode := hexValue_code first
    have secondCode := hexValue_code second
    have behind := kept.2
    rw [survives_plain (by omega) (by omega), survives_plain (by omega) (by omega)] at behind
    obtain ⟨free, parts, read, all⟩ := ih behind
    have digits : escapedByte high low = some (16 * h + l) := by
      unfold escapedByte
      rw [first, second]
    refine ⟨?_, .escape high low (16 * h + l) :: parts, by rw [tokens_escape digits, read]; rfl,
      List.forall_mem_cons.mpr ⟨stays, all⟩⟩
    intro member
    have question : ('?' : Char).toNat = 0x3F := rfl
    simp only [List.mem_cons] at member
    rcases member with percent | rfl | rfl | later
    · cases percent
    · omega
    · omega
    · exact free later
  | case3 rest short =>
    change survives (0x25 :: codes rest) = true at kept
    rw [survives_cons] at kept
    simp only [Bool.and_eq_true, Bool.or_eq_true, decide_eq_true_eq] at kept
    have opens : opensReserved (codes rest) = true := kept.1.2.resolve_left fun other => other rfl
    cases rest with
    | nil => cases opens
    | cons high rest =>
      cases rest with
      | nil => cases opens
      | cons low rest => exact (short high low rest rfl).elim
  | case4 c rest plain ih =>
    change survives (c.toNat :: codes rest) = true at kept
    rw [survives_cons] at kept
    simp only [Bool.and_eq_true, decide_eq_true_eq] at kept
    obtain ⟨free, parts, read, all⟩ := ih kept.2
    refine ⟨?_, .char c :: parts, by rw [tokens_char plain, read]; rfl, List.forall_mem_cons.mpr ⟨trivial, all⟩⟩
    intro member
    rcases List.mem_cons.mp member with rfl | later
    · exact kept.1.1 rfl
    · exact free later

theorem survives_of_tokens {parts : List Token} (faithful : ∀ token ∈ parts, Faithful token)
    (kept : ∀ token ∈ parts, token.Kept) (free : '?' ∉ parts.flatMap Token.text) :
    survives (codes (parts.flatMap Token.text)) := by
  induction parts with
  | nil => rfl
  | cons token parts ih =>
    rw [List.flatMap_cons, List.mem_append, not_or] at free
    have rest := ih (fun later member => faithful later (List.mem_cons_of_mem _ member))
      (fun later member => kept later (List.mem_cons_of_mem _ member)) free.2
    have first := faithful token List.mem_cons_self
    have stays := kept token List.mem_cons_self
    cases token with
    | char c =>
      have percent : c.toNat ≠ 0x25 := fun same => first (char_of_code same)
      have question : c.toNat ≠ 0x3F := fun same => free.1 (List.mem_singleton.mpr (char_of_code same).symm)
      exact (survives_plain percent question _).trans rest
    | escape high low byte =>
      change survives (0x25 :: high.toNat :: low.toNat :: codes (parts.flatMap Token.text)) = true
      have digits : escapedByte high low = some byte := first
      unfold escapedByte at digits
      split at digits
      next h l one two =>
        cases digits
        have oneCode := hexValue_code one
        have twoCode := hexValue_code two
        have opens := opensReserved_digits one two (codes (parts.flatMap Token.text))
        have same : reserved (16 * h + l) = true := stays
        rw [survives_cons, opens, same, survives_plain (by omega) (by omega), survives_plain (by omega) (by omega), rest]
        rfl
      next => cases digits

end DfStudy.RouteTexts
