import Mathlib.Data.Rat.Defs
import Mathlib.Data.List.Basic

/-! The JavaScript values that cross the sockets and the JSON columns of the study server. -/

namespace DfStudy.Js

/-- A JavaScript number. The finite doubles are rationals, and nothing below tells `-0` from `0`. -/
inductive Number where
  | finite (value : ℚ)
  | infinity (negative : Bool)
  | nan
  deriving DecidableEq, Repr

def Number.ofNat (n : Nat) : Number := .finite n

/-- The array slot a number names when it is used as a property key, if it names one. -/
def Number.index : Number → Option Nat
  | .finite value => if value.den = 1 ∧ 0 ≤ value.num then some value.num.toNat else none
  | .infinity _ => none
  | .nan => none

@[simp] theorem Number.index_ofNat (n : Nat) : (Number.ofNat n).index = some n := by
  simp [Number.ofNat, Number.index]

theorem Number.of_index {value : Number} {index : Nat} (found : value.index = some index) : value = .ofNat index := by
  cases value with
  | infinity negative => cases found
  | nan => cases found
  | finite value =>
    unfold Number.index at found
    dsimp only at found
    split at found
    next whole =>
      have number : value.num = index := by
        have same := Option.some.inj found
        omega
      have equal : value = (index : ℚ) := Rat.ext number whole.1
      rw [equal]
      rfl
    next => cases found

inductive Value where
  | undefined
  | null
  | bool (value : Bool)
  | number (value : Number)
  | string (value : String)
  | array (items : List Value)
  | object (fields : List (String × Value))

def Value.isUndefined : Value → Bool
  | .undefined => true
  | _ => false

/-- `value === number` for a finite number on the right. -/
def Value.equalsNumber : Value → ℚ → Bool
  | .number (.finite value), target => value = target
  | _, _ => false

mutual

/-- `JSON.parse(JSON.stringify(value))`, or nothing where `JSON.stringify` gives `undefined`. -/
def Value.json : Value → Option Value
  | .undefined => none
  | .null => some .null
  | .bool value => some (.bool value)
  | .number (.finite value) => some (.number (.finite value))
  | .number (.infinity _) => some .null
  | .number .nan => some .null
  | .string value => some (.string value)
  | .array items => some (.array (jsonItems items))
  | .object fields => some (.object (jsonFields fields))

def jsonItems : List Value → List Value
  | [] => []
  | item :: items => item.json.getD .null :: jsonItems items

def jsonFields : List (String × Value) → List (String × Value)
  | [] => []
  | (key, value) :: fields =>
    match value.json with
    | none => jsonFields fields
    | some value => (key, value) :: jsonFields fields

end

mutual

/-- What `JSON.parse` returns survives another trip through text unchanged. -/
theorem Value.json_json (value result : Value) (parsed : value.json = some result) :
    result.json = some result := by
  match value with
  | .undefined => simp [Value.json] at parsed
  | .null | .bool _ | .string _ => simp only [Value.json, Option.some.injEq] at parsed; subst parsed; simp [Value.json]
  | .number (.finite _) | .number (.infinity _) | .number .nan =>
    simp only [Value.json, Option.some.injEq] at parsed; subst parsed; simp [Value.json]
  | .array items =>
    simp only [Value.json, Option.some.injEq] at parsed
    subst parsed
    simp only [Value.json, jsonItems_jsonItems items]
  | .object fields =>
    simp only [Value.json, Option.some.injEq] at parsed
    subst parsed
    simp only [Value.json, jsonFields_jsonFields fields]

theorem jsonItems_jsonItems (items : List Value) : jsonItems (jsonItems items) = jsonItems items := by
  match items with
  | [] => rfl
  | item :: items =>
    simp only [jsonItems, jsonItems_jsonItems items]
    cases parsed : item.json with
    | none => simp [Value.json]
    | some value => simp [Value.json_json item value parsed]

theorem jsonFields_jsonFields (fields : List (String × Value)) :
    jsonFields (jsonFields fields) = jsonFields fields := by
  match fields with
  | [] => rfl
  | (key, value) :: fields =>
    cases parsed : value.json with
    | none => simp only [jsonFields, parsed, jsonFields_jsonFields fields]
    | some result =>
      simp only [jsonFields, parsed, Value.json_json value result parsed, jsonFields_jsonFields fields]

end

/-! The values `JSON.parse` returns. -/

mutual

/-- Nothing in it is undefined or not a number (a literal that is too large is infinite), and an object has each of its
keys once. -/
def Value.Parsed : Value → Prop
  | .undefined => False
  | .number value => value ≠ .nan
  | .array items => ParsedItems items
  | .object fields => (fields.map (·.1)).Nodup ∧ ParsedFields fields
  | .null | .bool _ | .string _ => True

def ParsedItems : List Value → Prop
  | [] => True
  | item :: items => item.Parsed ∧ ParsedItems items

def ParsedFields : List (String × Value) → Prop
  | [] => True
  | (_, value) :: fields => value.Parsed ∧ ParsedFields fields

end

structure Json where
  value : Value
  parsed : value.Parsed

theorem ParsedItems.mem {items : List Value} (parsed : ParsedItems items) {item : Value} (member : item ∈ items) :
    item.Parsed := by
  induction items with
  | nil => cases member
  | cons first items ih =>
    rcases List.mem_cons.mp member with rfl | later
    · exact parsed.1
    · exact ih parsed.2 later

theorem ParsedFields.mem {fields : List (String × Value)} (parsed : ParsedFields fields) {field : String × Value}
    (member : field ∈ fields) : field.2.Parsed := by
  induction fields with
  | nil => cases member
  | cons first fields ih =>
    rcases List.mem_cons.mp member with rfl | later
    · exact parsed.1
    · exact ih parsed.2 later

end DfStudy.Js
