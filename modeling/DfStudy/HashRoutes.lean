import DfStudy.Js
import DfStudy.Support.JsonText
import DfStudy.Support.UriText

/-! The routes of the two clients. A route and its parameters are put into the address bar, and read from there again
when it changes. -/

namespace DfStudy.HashRoutes
open Support.Unicode Support.JsonStrings Support.JsonText Support.UriText

/-- Of both clients. -/
def routeNames : List String := ["#test", "#game", "#create_pair", "#home", "#session"]

inductive Param where
  | string (units : CodeUnits)
  | number (value : Js.Number)

/-- An object of parameters, as its properties. -/
abbrev Params := List (CodeUnits × Param)

def Param.json : Param → Json Js.Number
  | .string units => .string units
  | .number value => .number value

section
variable (numberText : ℚ → List Char) (toNumber : List Char → Option Js.Number)

/-- What `JSON.stringify` writes for a parameter. -/
def paramText : Param → List Char
  | .string units => quote units
  | .number (.finite value) => numberText value
  | .number _ => ['n', 'u', 'l', 'l']

def stringify (params : Params) : List Char :=
  objectText (params.map fun (key, value) => (quoteBody key, paramText numberText value))

/-- `window.location.hash` after it has been set. -/
def setHash (value : List Char) : List Char :=
  let fragment := if value.head? = some '#' then value.tail else value
  if fragment = [] then [] else '#' :: percentEncode fragmentSet fragment

/-- Leaves the new hash in the address bar. -/
def gotoRoute (routeName : String) (params : Params) : List Char :=
  let paramString := stringify numberText params
  let hashString := ['?'].intercalate [routeName.toList, paramString]
  setHash hashString

/-- Of the admin client, where the parameters may be left out. -/
def goto (routeName : String) (params : Option Params) : List Char :=
  let paramString := stringify numberText (params.getD [])
  let hashString := ['?'].intercalate [routeName.toList, paramString]
  setHash hashString

def parseParamString (paramString : Option (List Char)) : Except String (Json Js.Number) :=
  match paramString with
  | none => .ok (.object [])
  | some paramString =>
    match decodeURI paramString with
    | none => .error "URI malformed"
    | some decoded =>
      match parse toNumber decoded with
      | none => .error "JSON.parse: SyntaxError"
      | some params => .ok params

/-- The route and the parameters that both clients go to. -/
def onHashChange (hash : List Char) : Except String (List Char × Json Js.Number) :=
  let pieces := hash.splitOn '?'
  (parseParamString toNumber pieces[1]?).map fun hashParams => (pieces.headD [], hashParams)

end

/-! The condition. -/

/-- Two digits that stand for a reserved character. -/
def opensReserved : List Nat → Bool
  | high :: low :: _ =>
    match hexValue high, hexValue low with
    | some h, some l => reserved (16 * h + l)
    | _, _ => false
  | _ => false

/-- In a text of these codes there is no `?`, and every `%` begins the escape of a reserved character. -/
def survives : List Nat → Bool
  | [] => true
  | code :: rest => code ≠ 0x3F && (code ≠ 0x25 || opensReserved rest) && survives rest

def Param.Survives : Param → Prop
  | .string units => survives (units.map UInt16.toNat)
  | .number (.finite _) => True
  | .number _ => False

/-! What the hash consists of. -/

/-- A name of a route holds no separator, and the browser leaves it alone. -/
structure Named (routeName : String) : Prop where
  hash : routeName.toList.head? = some '#'
  single : '?' ∉ routeName.toList
  plain : routeName.toList.all fun c => !fragmentSet c

theorem named_route {routeName : String} (known : routeName ∈ routeNames) : Named routeName := by
  unfold routeNames at known
  simp only [List.mem_cons, List.not_mem_nil, or_false] at known
  rcases known with rfl | rfl | rfl | rfl | rfl <;>
    exact ⟨by decide, by decide, by decide⟩

theorem percentEncode_all {text : List Char} (plain : text.all fun c => !fragmentSet c) :
    percentEncode fragmentSet text = text := by
  induction text with
  | nil => rfl
  | cons c text ih =>
    rw [List.all_cons, Bool.and_eq_true, Bool.not_eq_true'] at plain
    rw [percentEncode_plain plain.1, ih plain.2]

theorem setHash_hash {fragment : List Char} (filled : fragment ≠ []) :
    setHash ('#' :: fragment) = '#' :: percentEncode fragmentSet fragment := by
  unfold setHash
  simp [filled]

theorem gotoRoute_eq (numberText : ℚ → List Char) {routeName : String} (named : Named routeName) (params : Params) :
    gotoRoute numberText routeName params =
      routeName.toList ++ '?' :: percentEncode fragmentSet (stringify numberText params) := by
  obtain ⟨hash, -, plain⟩ := named
  cases whole : routeName.toList with
  | nil =>
    rw [whole] at hash
    cases hash
  | cons first name =>
    rw [whole] at hash plain
    cases hash
    rw [List.all_cons, Bool.and_eq_true] at plain
    have joined : ['?'].intercalate [routeName.toList, stringify numberText params] =
        '#' :: (name ++ '?' :: stringify numberText params) := by
      rw [whole]
      simp [List.intercalate]
    have encoded : percentEncode fragmentSet (name ++ '?' :: stringify numberText params) =
        name ++ '?' :: percentEncode fragmentSet (stringify numberText params) := by
      unfold percentEncode
      rw [List.flatMap_append]
      exact congrArg₂ (· ++ ·) (percentEncode_all plain.2) (percentEncode_plain (by decide) _)
    unfold gotoRoute
    dsimp only
    rw [joined, setHash_hash (by simp), encoded]
    rfl

theorem head_splitOn (separator : Char) (text : List Char) :
    (text.splitOn separator)[0]? = some (text.takeWhile fun c => c ≠ separator) := by
  induction text with
  | nil => rfl
  | cons c text ih =>
    rw [List.splitOn_cons_eq_if_modifyHead]
    by_cases same : c = separator
    · subst same
      simp
    · rw [if_neg (by simpa using same), List.takeWhile_cons_of_pos (by simpa using same)]
      cases pieces : text.splitOn separator with
      | nil => exact absurd pieces (List.splitOn_ne_nil _ _)
      | cons first rest =>
        rw [pieces] at ih
        exact congrArg (Option.map (c :: ·)) ih

theorem separator_encoded {c : Char} : '?' ∉ (utf8 c).flatMap percentByte := by
  have digits : ∀ digit : Fin 16, upperHex digit ≠ '?' := by decide
  intro member
  obtain ⟨byte, listed, here⟩ := List.mem_flatMap.mp member
  have bound := utf8_lt listed
  unfold percentByte at here
  simp only [List.mem_cons, List.not_mem_nil, or_false] at here
  rcases here with percent | high | low
  · cases percent
  · exact digits ⟨byte / 16, by omega⟩ high.symm
  · exact digits ⟨byte % 16, by omega⟩ low.symm

/-- The separator is not encoded, so what is read of the parameters is cut there. -/
theorem takeWhile_percentEncode (text : List Char) :
    (percentEncode fragmentSet text).takeWhile (fun c => c ≠ '?') =
      percentEncode fragmentSet (text.takeWhile fun c => c ≠ '?') := by
  induction text with
  | nil => rfl
  | cons c text ih =>
    by_cases cut : c = '?'
    · subst cut
      rw [percentEncode_plain (by decide), List.takeWhile_cons_of_neg (by simp), List.takeWhile_cons_of_neg (by simp)]
      rfl
    · rw [List.takeWhile_cons_of_pos (by simpa using cut), percentEncode_cons, percentEncode_cons]
      have kept : ∀ d ∈ (if fragmentSet c then (utf8 c).flatMap percentByte else [c]), decide (d ≠ '?') = true := by
        intro d member
        rw [decide_eq_true_eq]
        rintro rfl
        split at member
        next => exact separator_encoded member
        next => exact cut (List.mem_singleton.mp member).symm
      rw [List.takeWhile_append_of_pos kept, ih]

/-- What is read back of a route. -/
theorem onHashChange_gotoRoute (numberText : ℚ → List Char) (toNumber : List Char → Option Js.Number) {routeName : String}
    (named : Named routeName) (params : Params) :
    onHashChange toNumber (gotoRoute numberText routeName params) =
      match decodeURI ((stringify numberText params).takeWhile fun c => c ≠ '?') with
      | none => .error "URI malformed"
      | some decoded =>
        match parse toNumber decoded with
        | none => .error "JSON.parse: SyntaxError"
        | some hashParams => .ok (routeName.toList, hashParams) := by
  have pieces := head_splitOn '?' (percentEncode fragmentSet (stringify numberText params))
  rw [takeWhile_percentEncode] at pieces
  unfold onHashChange
  dsimp only
  rw [gotoRoute_eq numberText named, List.splitOn_append_cons_self_of_not_mem named.single, List.getElem?_cons_succ, pieces]
  unfold parseParamString
  dsimp only
  rw [decodeURI_percentEncode fragmentSet_sparing]
  cases decodeURI ((stringify numberText params).takeWhile fun c => c ≠ '?') with
  | none => rfl
  | some decoded =>
    dsimp only
    cases parse toNumber decoded <;> rfl

end DfStudy.HashRoutes
