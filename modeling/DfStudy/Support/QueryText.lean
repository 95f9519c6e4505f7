import DfStudy.Support.Unicode
import Mathlib.Algebra.Order.BigOperators.Group.List
import Mathlib.Algebra.Order.Group.Nat
import Mathlib.Algebra.Ring.Nat
import Mathlib.Data.List.Forall2
import Mathlib.Data.List.TakeWhile

/-! Queries of the form `key=value&key=value`, and what may stand in a text that is not encoded and still is read as it
is. -/

namespace DfStudy.Support.QueryText
open Unicode

def percent : UInt16 := 0x25

def ampersand : UInt16 := 0x26

def equals : UInt16 := 0x3D

/-- What the decoders in use differ in. -/
structure Decoder where
  /-- Whether a `+` stands for a space. -/
  plus : Bool
  /-- Whether a `%` without two hexadecimal digits is left as it is, or refused. -/
  lenient : Bool
  /-- The text that escaped octets are taken for, if they can be taken for one. -/
  text : List Nat → Option CodeUnits
  empty : text [] = some []
  short : ∀ octets units, text octets = some units → units.length ≤ octets.length

/-- A unit of the text, or an escape. -/
inductive Piece where
  | single (unit : UInt16)
  | escape (high low : UInt16) (value : Nat)
  deriving DecidableEq

def Piece.units : Piece → CodeUnits
  | .single unit => [unit]
  | .escape high low _ => [percent, high, low]

/-- The octet of two hexadecimal digits. -/
def octetOf (high low : UInt16) : Option Nat :=
  match hexValue high.toNat, hexValue low.toNat with
  | some h, some l => some (16 * h + l)
  | _, _ => none

def pieces : CodeUnits → List Piece
  | [] => []
  | unit :: rest =>
    if unit = percent then
      match rest with
      | high :: low :: rest =>
        match octetOf high low with
        | some value => .escape high low value :: pieces rest
        | none => .single unit :: pieces (high :: low :: rest)
      | rest => .single unit :: pieces rest
    else .single unit :: pieces rest

namespace Decoder
variable (d : Decoder)

/-- A unit on its own. -/
def unit (unit : UInt16) : Option UInt16 :=
  if unit = percent && !d.lenient then none
  else if unit = 0x2B && d.plus then some 0x20
  else some unit

/-- `octets` are those of the escapes just read. -/
def decodePieces (octets : List Nat) : List Piece → Option CodeUnits
  | [] => d.text octets
  | .escape _ _ value :: rest => decodePieces (octets ++ [value]) rest
  | .single unit :: rest =>
    (d.text octets).bind fun before =>
      (d.unit unit).bind fun read => (decodePieces [] rest).map fun later => before ++ read :: later

def decode (units : CodeUnits) : Option CodeUnits := d.decodePieces [] (pieces units)

/-- Splits at the first `=`. -/
def entry (piece : CodeUnits) : Option (CodeUnits × CodeUnits) :=
  (d.decode (piece.takeWhile fun unit => unit ≠ equals)).bind fun key =>
    (d.decode (piece.dropWhile fun unit => unit ≠ equals).tail).map fun value => (key, value)

def parse (query : CodeUnits) : Option (List (CodeUnits × CodeUnits)) :=
  ((query.splitOn ampersand).filter fun piece => piece ≠ []).mapM d.entry

/-! What is read as it is. -/

def keeps (unit : UInt16) : Bool := (unit ≠ 0x2B || !d.plus) && (unit ≠ percent || d.lenient)

end Decoder

def opensEscape : CodeUnits → Bool
  | high :: low :: _ => (octetOf high low).isSome
  | _ => false

def hasEscape : CodeUnits → Bool
  | [] => false
  | unit :: rest => unit = percent && opensEscape rest || hasEscape rest

/-- No escape, and no unit that stands for another or is refused. -/
def Decoder.Plain (d : Decoder) (units : CodeUnits) : Prop := hasEscape units = false ∧ ∀ unit ∈ units, d.keeps unit

/-! Sizes. -/

/-- The units that decoding makes fewer, or leaves. -/
def mark (unit : UInt16) : Bool := unit = percent || unit = ampersand

def marks (units : CodeUnits) : Nat := units.countP mark

theorem marks_append (first second : CodeUnits) : marks (first ++ second) = marks first + marks second :=
  List.countP_append

theorem marks_cons (unit : UInt16) (rest : CodeUnits) : marks (unit :: rest) = marks [unit] + marks rest :=
  marks_append [unit] rest

theorem marks_le (units : CodeUnits) : marks units ≤ units.length := List.countP_le_length

def escapes (parts : List Piece) : Nat :=
  parts.countP fun part =>
    match part with
    | .single _ => false
    | .escape _ _ _ => true

theorem escapes_single (unit : UInt16) (parts : List Piece) : escapes (.single unit :: parts) = escapes parts := rfl

theorem escapes_escape (high low : UInt16) (value : Nat) (parts : List Piece) :
    escapes (.escape high low value :: parts) = escapes parts + 1 := List.countP_cons_of_pos rfl

theorem pieces_plain {unit : UInt16} (plain : unit ≠ percent) (rest : CodeUnits) :
    pieces (unit :: rest) = .single unit :: pieces rest := by
  conv => lhs; unfold pieces
  rw [if_neg plain]

theorem pieces_escape {high low : UInt16} {value : Nat} (digits : octetOf high low = some value) (rest : CodeUnits) :
    pieces (percent :: high :: low :: rest) = .escape high low value :: pieces rest := by
  conv => lhs; unfold pieces
  rw [if_pos rfl]
  dsimp only
  rw [digits]

/-- A `%` without two digits stands alone. -/
theorem pieces_bare {rest : CodeUnits} (bare : opensEscape rest = false) :
    pieces (percent :: rest) = .single percent :: pieces rest := by
  conv => lhs; unfold pieces
  rw [if_pos rfl]
  split
  next high low rest =>
    have none : octetOf high low = none := Option.not_isSome_iff_eq_none.mp (by
      rw [show (octetOf high low).isSome = false from bare]
      exact Bool.false_ne_true)
    rw [none]
  next => rfl

/-- Along the pieces of a text. -/
theorem pieces_induction {motive : CodeUnits → List Piece → Prop} (nil : motive [] [])
    (single : ∀ unit rest, (unit = percent → opensEscape rest = false) → motive rest (pieces rest) →
      motive (unit :: rest) (.single unit :: pieces rest))
    (escape : ∀ high low value rest, octetOf high low = some value → motive rest (pieces rest) →
      motive (percent :: high :: low :: rest) (.escape high low value :: pieces rest)) (units : CodeUnits) :
    motive units (pieces units) := by
  induction length : units.length using Nat.strongRecOn generalizing units with
  | ind length ih =>
    subst length
    cases units with
    | nil => exact nil
    | cons unit rest =>
      have later := ih rest.length (Nat.lt_succ_self _) rest rfl
      by_cases sign : unit = percent
      · subst sign
        cases opens : opensEscape rest with
        | false =>
          rw [pieces_bare opens]
          exact single _ rest (fun _ => opens) later
        | true =>
          unfold opensEscape at opens
          split at opens
          next high low rest =>
            obtain ⟨value, digits⟩ := Option.isSome_iff_exists.mp opens
            rw [pieces_escape digits]
            refine escape high low value rest digits (ih rest.length ?_ rest rfl)
            simp only [List.length_cons]
            omega
          next => cases opens
      · rw [pieces_plain sign]
        exact single unit rest (fun same => absurd same sign) later

theorem pieces_units (units : CodeUnits) : (pieces units).flatMap Piece.units = units := by
  refine pieces_induction (motive := fun units parts => parts.flatMap Piece.units = units) rfl ?_ ?_ units
  · intro unit rest _ ih
    rw [List.flatMap_cons, ih]
    rfl
  · intro high low value rest _ ih
    rw [List.flatMap_cons, ih]
    rfl

theorem escapes_pieces (units : CodeUnits) : escapes (pieces units) = 0 ↔ hasEscape units = false := by
  refine pieces_induction (motive := fun units parts => escapes parts = 0 ↔ hasEscape units = false) (iff_of_true rfl rfl)
    ?_ ?_ units
  · intro unit rest bare ih
    have none : (decide (unit = percent) && opensEscape rest) = false := by
      by_cases sign : unit = percent
      · rw [bare sign, Bool.and_false]
      · rw [decide_eq_false sign, Bool.false_and]
    unfold hasEscape
    rw [none, Bool.false_or, escapes_single, ih]
  · intro high low value rest digits _
    rw [escapes_escape]
    refine iff_of_false (Nat.succ_ne_zero _) fun free => ?_
    have opens : opensEscape (high :: low :: rest) = true := Option.isSome_iff_exists.mpr ⟨value, digits⟩
    unfold hasEscape at free
    rw [opens] at free
    cases free

theorem mapM_some {α β : Type} {f : α → Option β} {items : List α} {results : List β} :
    items.mapM f = some results ↔ List.Forall₂ (fun item result => f item = some result) items results := by
  induction items generalizing results with
  | nil =>
    rw [List.mapM_nil, List.forall₂_nil_left_iff]
    exact ⟨fun same => (Option.some.inj same).symm, fun none => congrArg some none.symm⟩
  | cons item items ih =>
    rw [List.mapM_cons, List.forall₂_cons_left_iff]
    constructor
    · intro built
      obtain ⟨result, first, built⟩ := Option.bind_eq_some_iff.mp built
      obtain ⟨later, others, same⟩ := Option.bind_eq_some_iff.mp built
      exact ⟨result, later, first, ih.mp others, (Option.some.inj same).symm⟩
    · rintro ⟨result, later, first, others, rfl⟩
      rw [first, ih.mpr others]
      rfl

/-! What decoding leaves. -/

namespace Decoder
variable {d : Decoder}

theorem unit_mark {unit read : UInt16} (decoded : d.unit unit = some read) : marks [read] ≤ marks [unit] := by
  unfold Decoder.unit at decoded
  split at decoded
  next => cases decoded
  next =>
    split at decoded
    next =>
      cases decoded
      exact Nat.zero_le _
    next =>
      cases decoded
      exact Nat.le_refl _

theorem unit_same {unit : UInt16} : d.unit unit = some unit ↔ d.keeps unit := by
  unfold Decoder.unit keeps
  by_cases sign : unit = percent
  · subst sign
    cases d.lenient <;> simp [percent]
  · by_cases plus : unit = 0x2B
    · subst plus
      cases d.plus <;> simp [percent]
    · simp [sign, plus]

/-- An escape is decoded to one unit at most. -/
theorem decodePieces_le {parts : List Piece} {octets : List Nat} {read : CodeUnits}
    (decoded : d.decodePieces octets parts = some read) :
    read.length + 2 * escapes parts ≤ octets.length + (parts.flatMap Piece.units).length ∧
      marks read ≤ octets.length + marks (parts.flatMap Piece.units) := by
  induction parts generalizing octets read with
  | nil =>
    have short := d.short octets read decoded
    have fewer := marks_le read
    constructor
    · exact short
    · exact Nat.le_trans fewer short
  | cons part parts ih =>
    cases part with
    | escape high low value =>
      have rest := ih decoded
      have units : (Piece.escape high low value :: parts).flatMap Piece.units = [percent, high, low] ++ parts.flatMap Piece.units := rfl
      have sign : 1 ≤ marks [percent, high, low] := by
        rw [marks_cons]
        exact Nat.le_add_right _ _
      rw [escapes_escape, units, List.length_append, marks_append]
      rw [List.length_append] at rest
      simp only [List.length_cons, List.length_nil] at rest ⊢
      omega
    | single unit =>
      obtain ⟨before, text, decoded⟩ := Option.bind_eq_some_iff.mp decoded
      obtain ⟨one, kept, decoded⟩ := Option.bind_eq_some_iff.mp decoded
      obtain ⟨later, behind, rfl⟩ := Option.map_eq_some_iff.mp decoded
      have short := d.short octets before text
      have fewer := marks_le before
      have mark := unit_mark kept
      have rest := ih behind
      have units : (Piece.single unit :: parts).flatMap Piece.units = [unit] ++ parts.flatMap Piece.units := rfl
      rw [escapes_single, units, List.length_append, List.length_append, marks_append, marks_append, marks_cons]
      simp only [List.length_cons, List.length_nil] at rest ⊢
      omega

theorem decode_le {units read : CodeUnits} (decoded : d.decode units = some read) :
    read.length + 2 * escapes (pieces units) ≤ units.length ∧ marks read ≤ marks units := by
  have bounds := decodePieces_le decoded
  rw [pieces_units] at bounds
  simpa using bounds

theorem pieces_single {units : CodeUnits} (free : hasEscape units = false) : pieces units = units.map .single := by
  induction units with
  | nil => rfl
  | cons unit rest ih =>
    unfold hasEscape at free
    rw [Bool.or_eq_false_iff] at free
    by_cases sign : unit = percent
    · subst sign
      have bare : opensEscape rest = false := by simpa using free.1
      rw [pieces_bare bare, ih free.2]
      rfl
    · rw [pieces_plain sign, ih free.2]
      rfl

theorem decodePieces_single (units : CodeUnits) : d.decodePieces [] (units.map .single) = units.mapM d.unit := by
  induction units with
  | nil => exact d.empty
  | cons unit rest ih =>
    change (d.text []).bind _ = _
    rw [d.empty, Option.bind_some, ih, List.mapM_cons]
    cases d.unit unit with
    | none => rfl
    | some read => cases rest.mapM d.unit <;> rfl

/-- A text is read as it is just when it is plain. -/
theorem decode_same {units : CodeUnits} : d.decode units = some units ↔ d.Plain units := by
  have each : d.decodePieces [] (units.map .single) = some units ↔ ∀ unit ∈ units, d.keeps unit := by
    rw [decodePieces_single, mapM_some, List.forall₂_same]
    exact forall₂_congr fun _ _ => unit_same
  constructor
  · intro decoded
    have bounds := (decode_le decoded).1
    have free : hasEscape units = false := (escapes_pieces units).mp (by omega)
    unfold decode at decoded
    rw [pieces_single free] at decoded
    exact ⟨free, each.mp decoded⟩
  · intro ⟨free, kept⟩
    unfold decode
    rw [pieces_single free]
    exact each.mpr kept

/-! Entries. -/

theorem entry_eq {piece key value : CodeUnits} : d.entry piece = some (key, value) ↔
    d.decode (piece.takeWhile fun unit => unit ≠ equals) = some key ∧
      d.decode (piece.dropWhile fun unit => unit ≠ equals).tail = some value := by
  unfold entry
  cases d.decode (piece.takeWhile fun unit => unit ≠ equals) with
  | none => simp
  | some first => cases d.decode (piece.dropWhile fun unit => unit ≠ equals).tail <;> simp

theorem entry_marks {piece : CodeUnits} {entry : CodeUnits × CodeUnits} (read : d.entry piece = some entry) :
    marks entry.1 + marks entry.2 ≤ marks piece := by
  obtain ⟨key, value⟩ := entry
  obtain ⟨first, second⟩ := entry_eq.mp read
  have front := (decode_le first).2
  have back := (decode_le second).2
  have tail : marks (piece.dropWhile fun unit => unit ≠ equals).tail ≤ marks (piece.dropWhile fun unit => unit ≠ equals) :=
    (List.tail_sublist _).countP_le
  have whole := congrArg marks (List.takeWhile_append_dropWhile (p := fun unit => decide (unit ≠ equals)) (l := piece))
  rw [marks_append] at whole
  dsimp only
  omega

/-- An entry that has not been encoded is read as it is just when its key holds no `=` and both parts are plain. -/
theorem entry_same {key value : CodeUnits} : d.entry (key ++ equals :: value) = some (key, value) ↔
    equals ∉ key ∧ d.Plain key ∧ d.Plain value := by
  have before : (key ++ equals :: value).takeWhile (fun unit => decide (unit ≠ equals)) =
      key.takeWhile fun unit => decide (unit ≠ equals) := by
    rw [List.takeWhile_append]
    split
    next whole =>
      rw [List.takeWhile_cons_of_neg (by simp), List.append_nil]
      exact (List.takeWhile_prefix _).eq_of_length whole |>.symm
    next => rfl
  rw [entry_eq, before]
  by_cases single : equals ∈ key
  · refine iff_of_false (fun ⟨first, _⟩ => ?_) fun ⟨free, _⟩ => free single
    have shorter := (decode_le first).1
    have whole : key.takeWhile (fun unit => decide (unit ≠ equals)) = key :=
      (List.takeWhile_prefix _).eq_of_length_le (by omega)
    simpa using List.takeWhile_eq_self_iff.mp whole equals single
  · have free : ∀ unit ∈ key, decide (unit ≠ equals) = true := fun unit member =>
      decide_eq_true fun same => single (same ▸ member)
    rw [List.takeWhile_eq_self_iff.mpr free, List.dropWhile_append_of_pos free, List.dropWhile_cons_of_neg (by simp),
      List.tail_cons, decode_same, decode_same]
    exact (and_iff_right single).symm

/-- Every decoder leaves a text alone that has neither of the two units with a meaning. -/
theorem plain_of_free {units : CodeUnits} (free : percent ∉ units) (solid : (0x2B : UInt16) ∉ units) : d.Plain units := by
  have none : hasEscape units = false := by
    induction units with
    | nil => rfl
    | cons unit rest ih =>
      rw [List.mem_cons, not_or] at free solid
      unfold hasEscape
      rw [decide_eq_false (Ne.symm free.1), Bool.false_and, Bool.false_or, ih free.2 solid.2]
  refine ⟨none, fun unit member => ?_⟩
  have other : unit ≠ percent := fun same => free (same ▸ member)
  have still : unit ≠ 0x2B := fun same => solid (same ▸ member)
  simp [keeps, other, still]

end Decoder

/-! Queries. -/

/-- Each separator is a mark. -/
theorem marks_splitOn (query : CodeUnits) :
    ((query.splitOn ampersand).map marks).sum + (query.splitOn ampersand).length = marks query + 1 := by
  induction query with
  | nil => rfl
  | cons unit rest ih =>
    rw [List.splitOn_cons_eq_if_modifyHead, marks_cons]
    split
    next separates =>
      have sign : marks [unit] = 1 := by
        rw [beq_iff_eq.mp separates]
        rfl
      simp only [List.map_cons, List.sum_cons, List.length_cons, sign]
      have none : marks [] = 0 := rfl
      omega
    next =>
      cases pieces : rest.splitOn ampersand with
      | nil => exact absurd pieces (List.splitOn_ne_nil _ _)
      | cons piece later =>
        rw [pieces] at ih
        simp only [List.modifyHead_cons, List.map_cons, List.sum_cons, List.length_cons] at ih ⊢
        rw [marks_cons]
        omega

namespace Decoder
variable {d : Decoder}

theorem parse_nil : d.parse [] = some [] := rfl

theorem parse_single {query : CodeUnits} (single : ampersand ∉ query) (written : query ≠ []) :
    d.parse query = (d.entry query).map fun entry => [entry] := by
  have kept : [query].filter (fun piece => decide (piece ≠ [])) = [query] :=
    List.filter_eq_self.mpr fun piece member => decide_eq_true (List.mem_singleton.mp member ▸ written)
  unfold parse
  rw [List.splitOn_eq_singleton single, kept]
  cases read : d.entry query <;> simp [read]

theorem entries_marks {pieces : List CodeUnits} {entries : List (CodeUnits × CodeUnits)}
    (read : List.Forall₂ (fun piece entry => d.entry piece = some entry) pieces entries) :
    (entries.map fun entry => marks entry.1 + marks entry.2).sum ≤ (pieces.map marks).sum := by
  induction read with
  | nil => exact Nat.le_refl _
  | cons first _ ih => exact Nat.add_le_add (entry_marks first) ih

/-- Every separator is lost. -/
theorem parse_marks {query : CodeUnits} {entries : List (CodeUnits × CodeUnits)} (read : d.parse query = some entries) :
    (entries.map fun entry => marks entry.1 + marks entry.2).sum + (query.splitOn ampersand).length ≤ marks query + 1 := by
  have fewer := entries_marks (mapM_some.mp read)
  have kept : (((query.splitOn ampersand).filter fun piece => decide (piece ≠ [])).map marks).sum ≤
      ((query.splitOn ampersand).map marks).sum := (List.filter_sublist.map marks).sum_le_sum fun _ _ => Nat.zero_le _
  have whole := marks_splitOn query
  omega

end Decoder

/-! Queries written without encoding. -/

/-- Any separator may stand between the entries. -/
def written (separator : UInt16) (entries : List (CodeUnits × CodeUnits)) : CodeUnits :=
  List.intercalate [separator] (entries.map fun entry => entry.1 ++ equals :: entry.2)

theorem written_next (separator : UInt16) (entry next : CodeUnits × CodeUnits) (rest : List (CodeUnits × CodeUnits)) :
    written separator (entry :: next :: rest) =
      (entry.1 ++ equals :: entry.2) ++ [separator] ++ written separator (next :: rest) := by
  simp [written, List.intercalate]

theorem marks_written {separator : UInt16} (plain : mark separator = false) (entries : List (CodeUnits × CodeUnits)) :
    marks (written separator entries) = (entries.map fun entry => marks entry.1 + marks entry.2).sum := by
  have one : ∀ entry : CodeUnits × CodeUnits, marks (entry.1 ++ equals :: entry.2) = marks entry.1 + marks entry.2 := by
    intro entry
    rw [marks_append, marks_cons, show marks [equals] = 0 from rfl, Nat.zero_add]
  have none : marks [separator] = 0 := List.countP_eq_zero.mpr (by simp [plain])
  induction entries with
  | nil => rfl
  | cons entry rest ih =>
    cases rest with
    | nil => simp [written, one]
    | cons next rest =>
      rw [written_next, marks_append, marks_append, one, none, ih]
      rfl

theorem written_all {p : UInt16 → Bool} {separator : UInt16} (between : p separator) (equal : p equals)
    (entries : List (CodeUnits × CodeUnits)) :
    (written separator entries).all p = entries.all fun entry => entry.1.all p && entry.2.all p := by
  induction entries with
  | nil => rfl
  | cons entry rest ih =>
    cases rest with
    | nil => simp [written, equal]
    | cons next rest =>
      rw [written_next, List.all_append, List.all_append, List.all_append, List.all_cons, ih, equal]
      simp [between]

theorem separator_pieces {query : CodeUnits} (member : ampersand ∈ query) : 2 ≤ (query.splitOn ampersand).length := by
  obtain ⟨before, behind, rfl⟩ := List.append_of_mem member
  have first := List.length_pos_iff.mpr (List.splitOn_ne_nil ampersand before)
  have second := List.length_pos_iff.mpr (List.splitOn_ne_nil ampersand behind)
  rw [List.splitOn_append_cons_self, List.length_append]
  omega

/-- At most one entry, with no unit in it that the decoder takes for something else. -/
def Decoder.Clear (d : Decoder) : List (CodeUnits × CodeUnits) → Prop
  | [] => True
  | [(key, value)] => ampersand ∉ key ∧ ampersand ∉ value ∧ equals ∉ key ∧ d.Plain key ∧ d.Plain value
  | _ :: _ :: _ => False

/-- Entries that have been written without encoding, and with another separator than the one that is looked for, are read
as they are just when they are clear. -/
theorem Decoder.parse_written {d : Decoder} {separator : UInt16} (plain : mark separator = false)
    (entries : List (CodeUnits × CodeUnits)) :
    d.parse (written separator entries) = some entries ↔ d.Clear entries := by
  have single : d.parse (written separator entries) = some entries → ampersand ∉ written separator entries := by
    intro read member
    have lost := parse_marks read
    have two := separator_pieces member
    rw [marks_written plain] at lost
    omega
  match entries, single with
  | [], _ => exact iff_of_true parse_nil trivial
  | [(key, value)], single =>
    have text : written separator [(key, value)] = key ++ equals :: value := by simp [written]
    rw [text] at single ⊢
    have separate : ampersand ∉ key ++ equals :: value ↔ ampersand ∉ key ∧ ampersand ∉ value := by
      rw [List.mem_append, List.mem_cons, not_or, not_or]
      exact and_congr_right fun _ => and_iff_right (by decide)
    have one (free : ampersand ∉ key ++ equals :: value) :
        d.parse (key ++ equals :: value) = some [(key, value)] ↔ equals ∉ key ∧ d.Plain key ∧ d.Plain value := by
      rw [parse_single free (by simp), ← entry_same]
      cases d.entry (key ++ equals :: value) <;> simp
    constructor
    · intro read
      have free := single read
      exact ⟨(separate.mp free).1, (separate.mp free).2, (one free).mp read⟩
    · intro ⟨first, second, rest⟩
      exact (one (separate.mpr ⟨first, second⟩)).mpr rest
  | entry :: next :: rest, single =>
    refine iff_of_false (fun read => ?_) id
    have full : written separator (entry :: next :: rest) ≠ [] := by simp [written_next]
    rw [parse_single (single read) full] at read
    cases found : d.entry (written separator (entry :: next :: rest)) <;> simp [found] at read

end DfStudy.Support.QueryText
