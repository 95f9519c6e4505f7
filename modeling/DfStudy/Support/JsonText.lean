import DfStudy.Support.JsonStrings
import Mathlib.Algebra.Ring.Nat
import Mathlib.Data.List.TakeWhile

/-! The text of JSON: how `JSON.stringify` writes an object of scalars, and what `JSON.parse` reads. How numbers are
written and read is left open. -/

namespace DfStudy.Support.JsonText
open Unicode JsonStrings

inductive Json (Number : Type) where
  | null
  | bool (value : Bool)
  | number (value : Number)
  | string (units : CodeUnits)
  | array (items : List (Json Number))
  | object (fields : List (CodeUnits × Json Number))

/-- The texts of the properties of an object, each from what is between the quotes of its key and the text of its value. -/
def membersText (members : List (List Char × List Char)) : List Char :=
  [','].intercalate (members.map fun (key, value) => '"' :: key ++ '"' :: ':' :: value)

def objectText (members : List (List Char × List Char)) : List Char := '{' :: membersText members ++ ['}']

theorem membersText_last (key value rest : List Char) :
    membersText [(key, value)] ++ '}' :: rest = '"' :: (key ++ '"' :: ':' :: (value ++ '}' :: rest)) := by
  simp [membersText, List.intercalate]

theorem membersText_next (key value : List Char) (second : List Char × List Char) (members : List (List Char × List Char))
    (rest : List Char) : membersText ((key, value) :: second :: members) ++ '}' :: rest =
      '"' :: (key ++ '"' :: ':' :: (value ++ ',' :: (membersText (second :: members) ++ '}' :: rest))) := by
  simp [membersText, List.intercalate]

/-! Reading. -/

def isSpace (c : Char) : Bool := c = ' ' || c = '\t' || c = '\n' || c = '\r'

def skip (text : List Char) : List Char := text.dropWhile isSpace

/-- The text behind the next character that is no space, where that is `c`. -/
def expect (c : Char) (text : List Char) : Option (List Char) :=
  match skip text with
  | [] => none
  | next :: rest => if next = c then some rest else none

def isNumeric (c : Char) : Bool :=
  0x30 ≤ c.toNat && c.toNat ≤ 0x39 || c = '-' || c = '+' || c = '.' || c = 'e' || c = 'E'

section
variable {Number : Type}

/-- A property that is there already keeps its place and gets the new value. -/
def assign : List (CodeUnits × Json Number) → CodeUnits × Json Number → List (CodeUnits × Json Number)
  | [], field => [field]
  | old :: fields, field => if old.1 = field.1 then field :: fields else old :: assign fields field

def assemble (fields : List (CodeUnits × Json Number)) : List (CodeUnits × Json Number) := fields.foldl assign []

def words : List (List Char × Json Number) :=
  [(['n', 'u', 'l', 'l'], .null), (['t', 'r', 'u', 'e'], .bool true), (['f', 'a', 'l', 's', 'e'], .bool false)]

variable (toNumber : List Char → Option Number)

/-- A word, or a number: `toNumber` tells the literals of JSON from other texts. -/
def readSimple (text : List Char) : Option (Json Number × List Char) :=
  match words.find? fun (word, _) => word.isPrefixOf text with
  | some (word, value) => some (value, text.drop word.length)
  | none =>
    if text.takeWhile isNumeric = [] then none
    else (toNumber (text.takeWhile isNumeric)).map fun value => (.number value, text.dropWhile isNumeric)

mutual

def readValue : Nat → List Char → Option (Json Number × List Char)
  | 0, _ => none
  | fuel + 1, text =>
    match skip text with
    | [] => none
    | c :: rest =>
      if c = '"' then (readString rest).map fun (units, rest) => (.string units, rest)
      else if c = '[' then
        match expect ']' rest with
        | some rest => some (.array [], rest)
        | none => (readItems fuel rest).map fun (items, rest) => (.array items, rest)
      else if c = '{' then
        match expect '}' rest with
        | some rest => some (.object [], rest)
        | none => (readFields fuel rest).map fun (fields, rest) => (.object (assemble fields), rest)
      else readSimple toNumber (c :: rest)

def readItems : Nat → List Char → Option (List (Json Number) × List Char)
  | 0, _ => none
  | fuel + 1, text => do
    let (item, rest) ← readValue fuel text
    match expect ',' rest with
    | some rest =>
      let (items, rest) ← readItems fuel rest
      return (item :: items, rest)
    | none =>
      let rest ← expect ']' rest
      return ([item], rest)

def readFields : Nat → List Char → Option (List (CodeUnits × Json Number) × List Char)
  | 0, _ => none
  | fuel + 1, text => do
    let rest ← expect '"' text
    let (key, rest) ← readString rest
    let rest ← expect ':' rest
    let (value, rest) ← readValue fuel rest
    match expect ',' rest with
    | some rest =>
      let (fields, rest) ← readFields fuel rest
      return ((key, value) :: fields, rest)
    | none =>
      let rest ← expect '}' rest
      return ([(key, value)], rest)

end

/-- Nothing where `JSON.parse` throws a `SyntaxError`. -/
def parse (text : List Char) : Option (Json Number) :=
  match readValue toNumber (2 * text.length + 1) text with
  | some (value, rest) => if skip rest = [] then some value else none
  | none => none

/-! The grammar the reader decides. -/

inductive Part (Number : Type) where
  | value (value : Json Number)
  | items (items : List (Json Number))
  | fields (fields : List (CodeUnits × Json Number))

/-- The part stands at the front of the first text, and the second text is what is behind it. -/
inductive Reads : Part Number → List Char → List Char → Prop where
  | string {units text rest later} (found : skip text = '"' :: rest) (read : readString rest = some (units, later)) :
      Reads (.value (.string units)) text later
  | simple {value text c rest later} (found : skip text = c :: rest) (quote : c ≠ '"') (array : c ≠ '[') (object : c ≠ '{')
      (read : readSimple toNumber (c :: rest) = some (value, later)) : Reads (.value value) text later
  | noItems {text rest later} (found : skip text = '[' :: rest) (closed : expect ']' rest = some later) :
      Reads (.value (.array [])) text later
  | someItems {items text rest later} (found : skip text = '[' :: rest) (filled : expect ']' rest = none)
      (read : Reads (.items items) rest later) : Reads (.value (.array items)) text later
  | noFields {text rest later} (found : skip text = '{' :: rest) (closed : expect '}' rest = some later) :
      Reads (.value (.object [])) text later
  | someFields {fields text rest later} (found : skip text = '{' :: rest) (filled : expect '}' rest = none)
      (read : Reads (.fields fields) rest later) : Reads (.value (.object (assemble fields))) text later
  | lastItem {item text rest later} (read : Reads (.value item) text rest) (last : expect ',' rest = none)
      (closed : expect ']' rest = some later) : Reads (.items [item]) text later
  | nextItem {item items text rest next later} (read : Reads (.value item) text rest) (more : expect ',' rest = some next)
      (others : Reads (.items items) next later) : Reads (.items (item :: items)) text later
  | lastField {key value text opened named colon rest later} (quote : expect '"' text = some opened)
      (name : readString opened = some (key, named)) (separated : expect ':' named = some colon)
      (read : Reads (.value value) colon rest) (last : expect ',' rest = none) (closed : expect '}' rest = some later) :
      Reads (.fields [(key, value)]) text later
  | nextField {key value fields text opened named colon rest next later} (quote : expect '"' text = some opened)
      (name : readString opened = some (key, named)) (separated : expect ':' named = some colon)
      (read : Reads (.value value) colon rest) (more : expect ',' rest = some next)
      (others : Reads (.fields fields) next later) : Reads (.fields ((key, value) :: fields)) text later

/-! What is read is shorter than the text. -/

theorem skip_length (text : List Char) : (skip text).length ≤ text.length := (List.dropWhile_sublist _).length_le

theorem expect_some {c : Char} {text rest : List Char} (found : expect c text = some rest) : skip text = c :: rest := by
  unfold expect at found
  split at found
  next => cases found
  next next later skipped =>
    split at found
    next same =>
      cases found
      rw [skipped, same]
    next => cases found

theorem expect_length {c : Char} {text rest : List Char} (found : expect c text = some rest) :
    rest.length < text.length := by
  have whole := skip_length text
  rw [expect_some found] at whole
  exact whole

theorem readString_length {text rest : List Char} {units : CodeUnits} (read : readString text = some (units, rest)) :
    rest.length < text.length := by
  refine readString_induction (motive := fun text _ => rest.length < text.length) ?_ ?_ read
  · exact Nat.lt_succ_self _
  · intro piece first later more _ _ ih
    rw [List.length_append]
    omega

/-- A word, or a literal of a number. -/
theorem readSimple_some {text rest : List Char} {value : Json Number}
    (read : readSimple toNumber text = some (value, rest)) :
    (∃ word, (word, value) ∈ words ∧ text = word ++ rest) ∨
      ∃ literal number, literal ≠ [] ∧ (∀ c ∈ literal, isNumeric c) ∧ toNumber literal = some number ∧
        value = .number number ∧ text = literal ++ rest := by
  unfold readSimple at read
  split at read
  next word value' found =>
    cases read
    have leads := List.find?_some found
    dsimp only at leads
    obtain ⟨behind, rfl⟩ := List.isPrefixOf_iff_prefix.mp leads
    rw [List.drop_left]
    exact .inl ⟨word, List.mem_of_find?_eq_some found, rfl⟩
  next =>
    split at read
    next => cases read
    next filled =>
      obtain ⟨number, known, same⟩ := Option.map_eq_some_iff.mp read
      cases same
      exact .inr ⟨_, number, filled, fun c member => List.mem_takeWhile_imp member, known, rfl,
        List.takeWhile_append_dropWhile.symm⟩

theorem readSimple_length {text rest : List Char} {value : Json Number}
    (read : readSimple toNumber text = some (value, rest)) : rest.length < text.length := by
  rcases readSimple_some toNumber read with ⟨word, listed, rfl⟩ | ⟨literal, number, filled, -, -, -, rfl⟩
  · have lengths : ∀ entry ∈ (words : List (List Char × Json Number)), 0 < entry.1.length := by simp [words]
    have filled := lengths (word, value) listed
    dsimp only at filled
    rw [List.length_append]
    omega
  · have := List.length_pos_iff.mpr filled
    rw [List.length_append]
    omega

theorem Reads.length {part : Part Number} {text rest : List Char} (reads : Reads toNumber part text rest) :
    rest.length < text.length := by
  have skipped {text rest : List Char} {c : Char} (found : skip text = c :: rest) : rest.length < text.length := by
    have whole := skip_length text
    rw [found] at whole
    exact whole
  induction reads with
  | string found read => exact (readString_length read).trans (skipped found)
  | simple found _ _ _ read =>
    have whole := skip_length
    have inner := readSimple_length toNumber read
    rw [← found] at inner
    exact inner.trans_le (whole _)
  | noItems found closed => exact (expect_length closed).trans (skipped found)
  | someItems found _ _ ih => exact ih.trans (skipped found)
  | noFields found closed => exact (expect_length closed).trans (skipped found)
  | someFields found _ _ ih => exact ih.trans (skipped found)
  | lastItem _ _ closed ih => exact (expect_length closed).trans ih
  | nextItem _ more _ ih later => exact later.trans ((expect_length more).trans ih)
  | lastField quote name separated _ _ closed ih =>
    have front := ((expect_length separated).trans (readString_length name)).trans (expect_length quote)
    exact (expect_length closed).trans (ih.trans front)
  | nextField quote name separated _ more _ ih later =>
    have front := ((expect_length separated).trans (readString_length name)).trans (expect_length quote)
    exact later.trans ((expect_length more).trans (ih.trans front))

/-! The reader decides the grammar. -/

theorem reads_of_read (fuel : Nat) :
    (∀ text value rest, readValue toNumber fuel text = some (value, rest) → Reads toNumber (.value value) text rest) ∧
      (∀ text items rest, readItems toNumber fuel text = some (items, rest) → Reads toNumber (.items items) text rest) ∧
      ∀ text fields rest, readFields toNumber fuel text = some (fields, rest) → Reads toNumber (.fields fields) text rest := by
  induction fuel with
  | zero => exact ⟨nofun, nofun, nofun⟩
  | succ fuel ih =>
    obtain ⟨value, items, fields⟩ := ih
    refine ⟨?_, ?_, ?_⟩
    · intro text parsed rest read
      unfold readValue at read
      split at read
      next => cases read
      next c behind found =>
        split at read
        next quote =>
          subst quote
          obtain ⟨⟨units, later⟩, string, same⟩ := Option.map_eq_some_iff.mp read
          cases same
          exact .string found string
        next quote =>
          split at read
          next array =>
            subst array
            split at read
            next later closed =>
              cases read
              exact .noItems found closed
            next filled =>
              obtain ⟨⟨inner, later⟩, listed, same⟩ := Option.map_eq_some_iff.mp read
              cases same
              exact .someItems found filled (items _ _ _ listed)
          next array =>
            split at read
            next object =>
              subst object
              split at read
              next later closed =>
                cases read
                exact .noFields found closed
              next filled =>
                obtain ⟨⟨inner, later⟩, listed, same⟩ := Option.map_eq_some_iff.mp read
                cases same
                exact .someFields found filled (fields _ _ _ listed)
            next object => exact .simple found quote array object read
    · intro text parsed rest read
      unfold readItems at read
      obtain ⟨⟨item, behind⟩, first, read⟩ := Option.bind_eq_some_iff.mp read
      dsimp only at read
      split at read
      next next more =>
        obtain ⟨⟨others, later⟩, second, same⟩ := Option.bind_eq_some_iff.mp read
        cases same
        exact .nextItem (value _ _ _ first) more (items _ _ _ second)
      next last =>
        obtain ⟨later, closed, same⟩ := Option.bind_eq_some_iff.mp read
        cases same
        exact .lastItem (value _ _ _ first) last closed
    · intro text parsed rest read
      unfold readFields at read
      obtain ⟨opened, quote, read⟩ := Option.bind_eq_some_iff.mp read
      obtain ⟨⟨key, named⟩, name, read⟩ := Option.bind_eq_some_iff.mp read
      obtain ⟨colon, separated, read⟩ := Option.bind_eq_some_iff.mp read
      obtain ⟨⟨item, behind⟩, first, read⟩ := Option.bind_eq_some_iff.mp read
      dsimp only at read
      split at read
      next next more =>
        obtain ⟨⟨others, later⟩, second, same⟩ := Option.bind_eq_some_iff.mp read
        cases same
        exact .nextField quote name separated (value _ _ _ first) more (fields _ _ _ second)
      next last =>
        obtain ⟨later, closed, same⟩ := Option.bind_eq_some_iff.mp read
        cases same
        exact .lastField quote name separated (value _ _ _ first) last closed

/-- How much fuel is enough for a part of a text of this length. -/
def Part.fuel (length : Nat) : Part Number → Nat
  | .value _ => 2 * length + 1
  | _ => 2 * length + 2

def ReadBy (fuel : Nat) (text rest : List Char) : Part Number → Prop
  | .value value => readValue toNumber fuel text = some (value, rest)
  | .items items => readItems toNumber fuel text = some (items, rest)
  | .fields fields => readFields toNumber fuel text = some (fields, rest)

theorem read_of_reads {part : Part Number} {text rest : List Char} (reads : Reads toNumber part text rest) (fuel : Nat)
    (enough : part.fuel text.length ≤ fuel) : ReadBy toNumber fuel text rest part := by
  have skipped {text rest : List Char} {c : Char} (found : skip text = c :: rest) : rest.length < text.length := by
    have whole := skip_length text
    rw [found] at whole
    exact whole
  induction reads generalizing fuel with
  | string found read =>
    obtain ⟨fuel, rfl⟩ : ∃ less, fuel = less + 1 := ⟨fuel - 1, by simp only [Part.fuel] at enough; omega⟩
    simp only [ReadBy, readValue, found, if_true, read, Option.map_some]
  | simple found quote array object read =>
    obtain ⟨fuel, rfl⟩ : ∃ less, fuel = less + 1 := ⟨fuel - 1, by simp only [Part.fuel] at enough; omega⟩
    simp only [ReadBy, readValue, found, if_neg quote, if_neg array, if_neg object, read]
  | noItems found closed =>
    obtain ⟨fuel, rfl⟩ : ∃ less, fuel = less + 1 := ⟨fuel - 1, by simp only [Part.fuel] at enough; omega⟩
    simp [ReadBy, readValue, found, closed]
  | someItems found filled _ ih =>
    have shorter := skipped found
    obtain ⟨fuel, rfl⟩ : ∃ less, fuel = less + 1 := ⟨fuel - 1, by simp only [Part.fuel] at enough; omega⟩
    have inner := ih fuel (by simp only [Part.fuel] at enough ⊢; omega)
    simp only [ReadBy] at inner
    simp [ReadBy, readValue, found, filled, inner]
  | noFields found closed =>
    obtain ⟨fuel, rfl⟩ : ∃ less, fuel = less + 1 := ⟨fuel - 1, by simp only [Part.fuel] at enough; omega⟩
    simp [ReadBy, readValue, found, closed]
  | someFields found filled _ ih =>
    have shorter := skipped found
    obtain ⟨fuel, rfl⟩ : ∃ less, fuel = less + 1 := ⟨fuel - 1, by simp only [Part.fuel] at enough; omega⟩
    have inner := ih fuel (by simp only [Part.fuel] at enough ⊢; omega)
    simp only [ReadBy] at inner
    simp [ReadBy, readValue, found, filled, inner]
  | lastItem _ last closed ih =>
    obtain ⟨fuel, rfl⟩ : ∃ less, fuel = less + 1 := ⟨fuel - 1, by simp only [Part.fuel] at enough; omega⟩
    have first := ih fuel (by simp only [Part.fuel] at enough ⊢; omega)
    simp only [ReadBy] at first
    simp [ReadBy, readItems, first, last, closed]
  | nextItem read more _ ih later =>
    have behind := (expect_length more).trans (read.length toNumber)
    obtain ⟨fuel, rfl⟩ : ∃ less, fuel = less + 1 := ⟨fuel - 1, by simp only [Part.fuel] at enough; omega⟩
    have first := ih fuel (by simp only [Part.fuel] at enough ⊢; omega)
    have others := later fuel (by simp only [Part.fuel] at enough ⊢; omega)
    simp only [ReadBy] at first others
    simp [ReadBy, readItems, first, more, others]
  | lastField quote name separated _ last closed ih =>
    have front := ((expect_length separated).trans (readString_length name)).trans (expect_length quote)
    obtain ⟨fuel, rfl⟩ : ∃ less, fuel = less + 1 := ⟨fuel - 1, by simp only [Part.fuel] at enough; omega⟩
    have first := ih fuel (by simp only [Part.fuel] at enough ⊢; omega)
    simp only [ReadBy] at first
    simp [ReadBy, readFields, quote, name, separated, first, last, closed]
  | nextField quote name separated read more _ ih later =>
    have front := ((expect_length separated).trans (readString_length name)).trans (expect_length quote)
    have behind := (expect_length more).trans (read.length toNumber)
    obtain ⟨fuel, rfl⟩ : ∃ less, fuel = less + 1 := ⟨fuel - 1, by simp only [Part.fuel] at enough; omega⟩
    have first := ih fuel (by simp only [Part.fuel] at enough ⊢; omega)
    have others := later fuel (by simp only [Part.fuel] at enough ⊢; omega)
    simp only [ReadBy] at first others
    simp [ReadBy, readFields, quote, name, separated, first, more, others]

/-- `JSON.parse` returns the value whose text this is, if there is one. -/
theorem parse_some {text : List Char} {value : Json Number} :
    parse toNumber text = some value ↔ ∃ rest, Reads toNumber (.value value) text rest ∧ skip rest = [] := by
  unfold parse
  constructor
  · intro parsed
    split at parsed
    next found rest read =>
      split at parsed
      next finished =>
        cases parsed
        exact ⟨rest, (reads_of_read toNumber _).1 _ _ _ read, finished⟩
      next => cases parsed
    next => cases parsed
  · rintro ⟨rest, reads, finished⟩
    have read := read_of_reads toNumber reads _ le_rfl
    simp only [ReadBy, Part.fuel] at read
    rw [read]
    exact if_pos finished

/-! Objects. -/

theorem skip_self {c : Char} (solid : isSpace c = false) (rest : List Char) : skip (c :: rest) = c :: rest :=
  List.dropWhile_cons_of_neg (by rw [solid]; exact Bool.false_ne_true)

theorem expect_self {c : Char} (solid : isSpace c = false) (rest : List Char) : expect c (c :: rest) = some rest := by
  unfold expect
  rw [skip_self solid]
  exact if_pos rfl

theorem expect_other {c d : Char} (solid : isSpace d = false) (other : d ≠ c) (rest : List Char) :
    expect c (d :: rest) = none := by
  unfold expect
  rw [skip_self solid]
  exact if_neg other

/-- A string whose body is read as these code units. -/
theorem reads_string {body rest : List Char} {units : CodeUnits} (read : readString (body ++ '"' :: rest) = some (units, rest)) :
    Reads toNumber (.value (.string units)) ('"' :: body ++ ['"'] ++ rest) rest := by
  have whole : readString ((body ++ ['"']) ++ rest) = some (units, rest) := by rwa [List.append_assoc]
  exact .string (skip_self rfl _) whole

theorem reads_null (rest : List Char) : Reads toNumber (.value .null) (['n', 'u', 'l', 'l'] ++ rest) rest := by
  refine .simple (skip_self rfl _) (by decide) (by decide) (by decide) ?_
  unfold readSimple
  rfl

/-- What may follow a value of an object. -/
def Delimited (rest : List Char) : Prop := ∃ c later, rest = c :: later ∧ (c = ',' ∨ c = '}')

theorem reads_number {literal rest : List Char} {number : Number} (filled : literal ≠ [])
    (numeric : ∀ c ∈ literal, isNumeric c) (known : toNumber literal = some number) (delimited : Delimited rest) :
    Reads toNumber (.value (.number number)) (literal ++ rest) rest := by
  obtain ⟨next, later, rfl, separator⟩ := delimited
  have behind : isNumeric next = false := by rcases separator with rfl | rfl <;> decide
  obtain ⟨c, digits, rfl⟩ := List.exists_cons_of_ne_nil filled
  have first := numeric c List.mem_cons_self
  have besides (other : Char) (text : isNumeric other = false) : c ≠ other := by
    rintro rfl
    rw [text] at first
    cases first
  have solid : isSpace c = false := by
    unfold isSpace
    simp [besides ' ' (by decide), besides '\t' (by decide), besides '\n' (by decide),
      besides '\r' (by decide)]
  have taken : ((c :: digits) ++ next :: later).takeWhile isNumeric = c :: digits := by
    rw [List.takeWhile_append_of_pos numeric, List.takeWhile_cons_of_neg (by rw [behind]; exact Bool.false_ne_true),
      List.append_nil]
  have left : ((c :: digits) ++ next :: later).dropWhile isNumeric = next :: later := by
    rw [List.dropWhile_append_of_pos numeric, List.dropWhile_cons_of_neg (by rw [behind]; exact Bool.false_ne_true)]
  have wordless : (words : List (List Char × Json Number)).find? (fun (word, _) => word.isPrefixOf (c :: (digits ++ next :: later))) =
      none := by
    have n := (besides 'n' (by decide)).symm
    have t := (besides 't' (by decide)).symm
    have f := (besides 'f' (by decide)).symm
    simp [words, List.isPrefixOf, n, t, f]
  have simple : readSimple toNumber (c :: (digits ++ next :: later)) = some (.number number, next :: later) := by
    unfold readSimple
    rw [wordless]
    dsimp only
    rw [← List.cons_append, taken, left, if_neg (List.cons_ne_nil _ _), known]
    rfl
  exact .simple (skip_self solid _) (besides _ (by decide)) (besides _ (by decide)) (besides _ (by decide)) simple

/-- One property, with the text its key and its value are read from. -/
structure Member where
  keyText : List Char
  valueText : List Char
  key : CodeUnits
  value : Json Number
  named : ∀ rest, readString (keyText ++ '"' :: rest) = some (key, rest)
  valued : ∀ rest, Delimited rest → Reads toNumber (.value value) (valueText ++ rest) rest

variable {toNumber}

def Member.text (member : Member toNumber) : List Char × List Char := (member.keyText, member.valueText)

def Member.field (member : Member toNumber) : CodeUnits × Json Number := (member.key, member.value)

theorem reads_fields (first : Member toNumber) (members : List (Member toNumber)) (rest : List Char) :
    Reads toNumber (.fields ((first :: members).map Member.field))
      (membersText ((first :: members).map Member.text) ++ '}' :: rest) rest := by
  induction members generalizing first with
  | nil =>
    rw [List.map_singleton (f := Member.text), Member.text, membersText_last]
    exact .lastField (expect_self rfl _) (first.named _) (expect_self rfl _) (first.valued _ ⟨_, _, rfl, .inr rfl⟩)
      (expect_other rfl (by decide) _) (expect_self rfl _)
  | cons second members ih =>
    have behind := ih second
    rw [List.map_cons (f := Member.text)] at behind
    rw [List.map_cons (f := Member.text), List.map_cons (f := Member.text), Member.text, membersText_next]
    exact .nextField (expect_self rfl _) (first.named _) (expect_self rfl _) (first.valued _ ⟨_, _, rfl, .inl rfl⟩)
      (expect_self rfl _) behind

/-- An object is read from its text. -/
theorem parse_objectText (members : List (Member toNumber)) :
    parse toNumber (objectText (members.map Member.text)) = some (.object (assemble (members.map Member.field))) := by
  rw [parse_some]
  refine ⟨[], ?_, rfl⟩
  cases members with
  | nil => exact .noFields (skip_self rfl _) (expect_self rfl _)
  | cons first members =>
    have filled : expect '}' (membersText ((first :: members).map Member.text) ++ ['}']) = none := by
      cases members with
      | nil =>
        rw [List.map_singleton, Member.text, membersText_last]
        exact expect_other rfl (by decide) _
      | cons second members =>
        rw [List.map_cons, List.map_cons, Member.text, membersText_next]
        exact expect_other rfl (by decide) _
    exact .someFields (skip_self rfl _) filled (reads_fields first members [])

/-- A property that is given twice counts once. -/
theorem sum_assign (size : CodeUnits × Json Number → Nat) (fields : List (CodeUnits × Json Number))
    (field : CodeUnits × Json Number) : ((assign fields field).map size).sum ≤ (fields.map size).sum + size field := by
  induction fields with
  | nil => exact (Nat.add_comm _ _).le
  | cons old fields ih =>
    unfold assign
    split
    next =>
      simp only [List.map_cons, List.sum_cons]
      omega
    next =>
      simp only [List.map_cons, List.sum_cons]
      omega

theorem sum_foldl (size : CodeUnits × Json Number → Nat) (fields known : List (CodeUnits × Json Number)) :
    ((fields.foldl assign known).map size).sum ≤ (known.map size).sum + (fields.map size).sum := by
  induction fields generalizing known with
  | nil => exact Nat.le_add_right _ _
  | cons field fields ih =>
    have first := sum_assign size known field
    have rest := ih (assign known field)
    rw [List.foldl_cons, List.map_cons, List.sum_cons]
    omega

theorem sum_assemble (size : CodeUnits × Json Number → Nat) (fields : List (CodeUnits × Json Number)) :
    ((assemble fields).map size).sum ≤ (fields.map size).sum :=
  (sum_foldl size fields []).trans (Nat.zero_add _).le

theorem assign_new {fields : List (CodeUnits × Json Number)} {field : CodeUnits × Json Number}
    (new : ∀ old ∈ fields, old.1 ≠ field.1) : assign fields field = fields ++ [field] := by
  induction fields with
  | nil => rfl
  | cons old fields ih =>
    rw [assign, if_neg (new old List.mem_cons_self), ih fun later member => new later (List.mem_cons_of_mem _ member)]
    rfl

theorem foldl_assign {fields known : List (CodeUnits × Json Number)} (distinct : ((known ++ fields).map (·.1)).Nodup) :
    fields.foldl assign known = known ++ fields := by
  induction fields generalizing known with
  | nil => exact (List.append_nil known).symm
  | cons field fields ih =>
    have split : known ++ field :: fields = (known ++ [field]) ++ fields := by rw [List.append_assoc]; rfl
    have new : ∀ old ∈ known, old.1 ≠ field.1 := by
      intro old member same
      rw [List.map_append, List.nodup_append] at distinct
      exact distinct.2.2 old.1 (List.mem_map_of_mem member) field.1 List.mem_cons_self same
    rw [List.foldl_cons, assign_new new, ih (split ▸ distinct), split]

/-- Distinct properties are kept as they are. -/
theorem assemble_distinct {fields : List (CodeUnits × Json Number)} (distinct : (fields.map (·.1)).Nodup) :
    assemble fields = fields := foldl_assign distinct

end

end DfStudy.Support.JsonText
