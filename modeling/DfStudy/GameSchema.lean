import DfStudy.AnswerPayloads
import DfStudy.Support.Guards

/-! A stored game, as any JSON value: the interfaces that describe it, the guards of the common package, and the loader of
the server. -/

namespace DfStudy.GameSchema
open Js Support.Guards
open AnswerPayloads (get toPropertyKey)

/-! The interfaces. -/

def Number (x : Value) : Prop := ∃ value, x = .number value

/-- A property that may be absent. -/
def Optional (type : Value → Prop) (x : Value) : Prop := x = .undefined ∨ type x

/-- An array, with items of one type. -/
def Items (type : Value → Prop) (x : Value) : Prop := ∃ items, x = .array items ∧ ∀ item ∈ items, type item

structure Player (x : Value) : Prop where
  playerId : ∃ name, get x "playerId" = .string name
  ready : ∃ flag, get x "ready" = .bool flag

def RoundName (x : Value) : Prop := x = .string "button" ∨ x = .string "wire" ∨ x = .string "keypad" ∨ x = .string "tutorial-button"

def Solution (x : Value) : Prop := Number x ∨ Items Number x

structure RoundData (x : Value) : Prop where
  name : RoundName (get x "name")
  msLength : Number (get x "msLength")
  solution : Solution (get x "solution")
  answer : Optional Solution (get x "answer")
  startTime : Optional Number (get x "startTime")
  endTime : Optional Number (get x "endTime")
  attack : Optional Number (get x "attack")

/-- `ButtonRoundData | TutorialRoundData`. -/
structure ConcreteRoundData (x : Value) : Prop where
  name : get x "name" = .string "button" ∨ get x "name" = .string "tutorial-button"
  msLength : Number (get x "msLength")
  solution : Number (get x "solution")
  options : Items Number (get x "options")

structure GameData (x : Value) : Prop where
  players : Items Player (get x "players")
  gameId : ∃ gameId, get x "gameId" = .string gameId
  rounds : Items RoundData (get x "rounds")
  currentRound : Number (get x "currentRound")
  startTime : Optional Number (get x "startTime")
  endTime : Optional Number (get x "endTime")

/-! The guards. -/

def isNumber : Value → Bool
  | .number _ => true
  | _ => false

def isString : Value → Bool
  | .string _ => true
  | _ => false

def isBoolean : Value → Bool
  | .bool _ => true
  | _ => false

def isArray : Value → Bool
  | .array _ => true
  | _ => false

/-- `x.name`, for the first property that is read. -/
def property (x : Value) (name : String) : Except String Value :=
  match x with
  | .undefined => .error ("Cannot read properties of undefined (reading '" ++ name ++ "')")
  | .null => .error ("Cannot read properties of null (reading '" ++ name ++ "')")
  | x => .ok (get x name)

/-- The method `method` of what should be an array. -/
def itemsOf (x : Value) (method : String) : Except String (List Value) :=
  match x with
  | .undefined => .error ("Cannot read properties of undefined (reading '" ++ method ++ "')")
  | .null => .error ("Cannot read properties of null (reading '" ++ method ++ "')")
  | .array items => .ok items
  | _ => .error (method ++ " is not a function")

def isPlayer (x : Value) : Except String Bool :=
  conj [(property x "playerId").map isString, .ok (isBoolean (get x "ready"))]

def isRoundName : Value → Bool
  | .string name => name = "button" || name = "wire" || name = "keypad" || name = "tutorial-button"
  | _ => false

def isSolution : Value → Bool
  | .number _ => true
  | .array items => items.all isNumber
  | _ => false

/-- `x === undefined || test(x)`. -/
def isOptional (test : Value → Bool) (x : Value) : Bool := x.isUndefined || test x

def isRoundData (x : Value) : Except String Bool :=
  conj [
    (property x "name").map isRoundName,
    .ok (isNumber (get x "msLength")),
    .ok (isSolution (get x "solution")),
    .ok (isOptional isSolution (get x "answer")),
    .ok (isOptional isNumber (get x "startTime")),
    .ok (isOptional isNumber (get x "endTime"))]

/-- The property `endTine` is the one the last guard looks for. -/
def isGameData (x : Value) : Except String Bool :=
  conj [
    (property x "players").map fun players => !players.isUndefined,
    .ok (isArray (get x "players")),
    (itemsOf (get x "players") "every").bind (every isPlayer),
    .ok (isString (get x "gameId")),
    (itemsOf (get x "rounds") "every").bind (every isRoundData),
    .ok (isNumber (get x "currentRound")),
    .ok (isOptional isNumber (get x "startTime")),
    .ok ((get x "endTine").isUndefined || isNumber (get x "endTime"))]

/-! The loader. A result is a `Left` or a `Right`, unless an exception is thrown. -/

structure Round where
  solution : Value
  options : Value
  msLength : Value
  startTime : Option Nat := none

def isSingleRoundData (x : Value) : Bool :=
  !x.isUndefined && isNumber (get x "solution") &&
    match get x "options" with
    | .array options => options.all isNumber
    | _ => false

/-- `msLength` has a default. -/
def buttonRound (solution options msLength : Value) : Round :=
  { solution, options, msLength := if msLength.isUndefined then .number (.ofNat 5000) else msLength }

def createButtonRound (data : Value) : Except String Round :=
  if isSingleRoundData data then .ok (buttonRound (get data "solution") (get data "options") (get data "msLength"))
  else .error "Invalid round data."

def createRound (data : Value) : Except String (Except String Round) :=
  (property data "name").map fun name =>
    match name with
    | .string "button" => createButtonRound data
    | _ => .error "Unknown round name."

/-- What a new game is made of, and what it is resumed with. -/
structure Game where
  players : Value
  gameId : Value
  rounds : List Round
  currentRound : Value
  startTime : Value
  endTime : Option Nat := none
  /-- The delay of the timer that has been set. -/
  timer : Option Value := none

/-- `currentRound || 0`. -/
def orZero : Value → Value
  | .undefined | .null | .bool false | .string "" | .number .nan => .number (.ofNat 0)
  | value => value

def newGame (gameData : Value) (rounds : List Round) : Game where
  players := get gameData "players"
  gameId := get gameData "gameId"
  rounds := rounds
  currentRound := orZero (get gameData "currentRound")
  startTime := get gameData "startTime"

/-! `this.rounds[round]`. -/

inductive Member where
  | missing
  /-- A number, which no property can be given to. -/
  | length
  /-- A function, or a prototype. -/
  | inherited
  | slot (index : Nat) (roundObj : Round)

section
variable (numberToString : Js.Number → String) (inherited : String → Bool) (now : Nat)

def named (rounds : List Round) (key : String) : Member :=
  match (List.range rounds.length).find? fun index => toString index = key with
  | some index =>
    match rounds[index]? with
    | none => .missing
    | some roundObj => .slot index roundObj
  | none => if key = "length" then .length else if inherited key then .inherited else .missing

/-- For the value `round`, and the key it is turned into. -/
def member (rounds : List Round) (round : Value) (key : String) : Member :=
  match round with
  | .number value =>
    match value.index.bind fun index => rounds[index]?.map (index, ·) with
    | none => .missing
    | some (index, roundObj) => .slot index roundObj
  | _ => named inherited rounds key

/-- `trigger("state")`: the write it forks is not waited for, but the id of the game is logged at once. -/
def triggerState (game : Game) : Except String Game := (toPropertyKey numberToString game.gameId).map fun _ => game

def stop (game : Game) : Except String Game := triggerState numberToString { game with endTime := some now }

/-- The delay is made a number. -/
def scheduleTimer (game : Game) (ms : Value) : Except String Game :=
  (toPropertyKey numberToString ms).map fun _ => { game with timer := some ms }

def gotoRound (game : Game) (round : Value) : Except String Game := do
  let key ← toPropertyKey numberToString round
  let game := { game with currentRound := round }
  match member inherited game.rounds round key with
  | .missing => stop numberToString now game
  | .length => .error "Cannot create property 'startTime' on number"
  | .inherited =>
    let game ← triggerState numberToString game
    scheduleTimer numberToString game .undefined
  | .slot index roundObj =>
    let rounds := game.rounds.set index { roundObj with startTime := some now }
    let game ← triggerState numberToString { game with rounds }
    scheduleTimer numberToString game roundObj.msLength

def resumeGame (game : Game) : Except String Game :=
  if game.startTime.isUndefined then .ok game else gotoRound numberToString inherited now game game.currentRound

/-- All rounds are made before it is seen whether one is a `Left`. -/
def deserializeGame (gameData : Value) : Except String (Except String Game) := do
  let rounds ← property gameData "rounds"
  let items ← itemsOf rounds "map"
  let roundsE ← items.mapM createRound
  match roundsE.mapM id with
  | .error message => return .error message
  | .ok rounds => return .ok (← resumeGame numberToString inherited now (newGame gameData rounds))

/-! What is asked of the guards and the loader. -/

/-- Every round conforms to `ConcreteRoundData`. -/
def Concrete (x : Value) : Prop := Items ConcreteRoundData (get x "rounds")

structure Agrees (x : Value) : Prop where
  guarded : ∃ answer, isGameData x = .ok answer
  loaded : ∃ result, deserializeGame numberToString inherited now x = .ok result
  schema : isGameData x = .ok true ↔ GameData x
  loader : (∃ game, deserializeGame numberToString inherited now x = .ok (.ok game)) ↔ isGameData x = .ok true ∧ Concrete x

end

/-- A round the server can build. -/
structure ButtonRound (x : Value) : Prop where
  name : get x "name" = .string "button"
  solution : Number (get x "solution")
  options : Items Number (get x "options")

def Built (x : Value) : Prop := Items ButtonRound (get x "rounds")

/-- What the guards of a game look at, but for the last of them. -/
structure Checked (x : Value) : Prop where
  players : Items Player (get x "players")
  gameId : ∃ gameId, get x "gameId" = .string gameId
  rounds : Items (fun round => isRoundData round = .ok true) (get x "rounds")
  currentRound : Number (get x "currentRound")
  startTime : Optional Number (get x "startTime")

/-- The last guard. -/
def Spelled (x : Value) : Prop := get x "endTine" = .undefined ∨ Number (get x "endTime")

/-- What the interfaces ask for beside. -/
structure Unguarded (x : Value) : Prop where
  attacks : Items (fun round => Optional Number (get round "attack")) (get x "rounds")
  endTime : Optional Number (get x "endTime")

/-- The rounds are an array without null, and the first of the players that is none is not null. If the server can build
every round, the game conforms to its interface, and the slip in the last guard does not refuse it. If it cannot, then of
a game that passes the other guards the last one takes exactly what the interfaces take, and not with concrete rounds. -/
structure Regular (x : Value) : Prop where
  rounds : ∃ items, get x "rounds" = .array items ∧ .null ∉ items
  players : ∀ before after, get x "players" = .array (before ++ .null :: after) → ¬∀ player ∈ before, Player player
  built : Built x → GameData x ∧ Spelled x
  unbuilt : ¬Built x → Checked x → (Spelled x ↔ Unguarded x) ∧ ¬(Spelled x ∧ Concrete x)

/-! The guards decide the types. -/

theorem isUndefined_iff {x : Value} : x.isUndefined = true ↔ x = .undefined := by
  cases x <;> simp [Value.isUndefined]

theorem isNumber_iff {x : Value} : isNumber x = true ↔ Number x := by
  cases x <;> simp [isNumber, Number]

theorem isString_iff {x : Value} : isString x = true ↔ ∃ text, x = .string text := by
  cases x <;> simp [isString]

theorem isBoolean_iff {x : Value} : isBoolean x = true ↔ ∃ flag, x = .bool flag := by
  cases x <;> simp [isBoolean]

theorem isArray_iff {x : Value} : isArray x = true ↔ ∃ items, x = .array items := by
  cases x <;> simp [isArray]

theorem isRoundName_iff {x : Value} : isRoundName x = true ↔ RoundName x := by
  cases x <;> simp [isRoundName, RoundName, or_assoc]

theorem numbers_iff {items : List Value} : items.all isNumber = true ↔ Items Number (.array items) := by
  simp [Items, isNumber_iff]

theorem isSolution_iff {x : Value} : isSolution x = true ↔ Solution x := by
  cases x with
  | array items =>
    rw [isSolution, numbers_iff, Solution]
    simp [Number]
  | _ => simp [isSolution, Solution, Number, Items]

theorem optional_iff {test : Value → Bool} {type : Value → Prop} (decides : ∀ {x}, test x = true ↔ type x) {x : Value} :
    isOptional test x = true ↔ Optional type x := by
  rw [isOptional, Bool.or_eq_true, isUndefined_iff, decides]
  rfl

theorem ok_iff {flag : Bool} : (Except.ok flag : Except String Bool) = .ok true ↔ flag = true := by simp

theorem property_true (test : Value → Bool) (refuses : test .undefined = false) {x : Value} {name : String} :
    (property x name).map test = .ok true ↔ test (get x name) = true := by
  cases x with
  | undefined => simp [property, Except.map, AnswerPayloads.get, refuses]
  | null => simp [property, Except.map, AnswerPayloads.get, refuses]
  | _ => simp [property, Except.map]

theorem itemsOf_true {test : Value → Except String Bool} {x : Value} {method : String} :
    (itemsOf x method).bind (every test) = .ok true ↔ Items (fun item => test item = .ok true) x := by
  cases x <;> simp [itemsOf, Except.bind, Items, every_true]

theorem Items.congr {type other : Value → Prop} (same : ∀ item, type item ↔ other item) {x : Value} :
    Items type x ↔ Items other x := by
  simp only [Items, same]

theorem isPlayer_true {x : Value} : isPlayer x = .ok true ↔ Player x := by
  unfold isPlayer
  rw [conj_true, List.forall_mem_cons, List.forall_mem_singleton, property_true isString rfl, ok_iff,
    isString_iff, isBoolean_iff]
  exact ⟨fun both => ⟨both.1, both.2⟩, fun player => ⟨player.playerId, player.ready⟩⟩

/-- The guard of a round does not look at its attack. -/
theorem roundData_iff {x : Value} : RoundData x ↔ isRoundData x = .ok true ∧ Optional Number (get x "attack") := by
  have guards : isRoundData x = .ok true ↔ RoundName (get x "name") ∧ Number (get x "msLength") ∧
      Solution (get x "solution") ∧ Optional Solution (get x "answer") ∧ Optional Number (get x "startTime") ∧
        Optional Number (get x "endTime") := by
    unfold isRoundData
    simp only [conj_true, List.forall_mem_cons, property_true isRoundName rfl, ok_iff, isRoundName_iff, isNumber_iff, isSolution_iff,
      optional_iff isSolution_iff, optional_iff isNumber_iff]
    simp
  rw [guards]
  constructor
  · intro data
    exact ⟨⟨data.name, data.msLength, data.solution, data.answer, data.startTime, data.endTime⟩, data.attack⟩
  · intro ⟨⟨name, msLength, solution, answer, startTime, endTime⟩, attack⟩
    exact ⟨name, msLength, solution, answer, startTime, endTime, attack⟩

/-- The guards of a game look at all but the ends and the attacks. -/
theorem isGameData_true {x : Value} : isGameData x = .ok true ↔ Checked x ∧ Spelled x := by
  have last : ((get x "endTine").isUndefined || isNumber (get x "endTime")) = true ↔ Spelled x := by
    rw [Bool.or_eq_true, isUndefined_iff, isNumber_iff]
    rfl
  have guards : isGameData x = .ok true ↔ (!(get x "players").isUndefined) = true ∧ isArray (get x "players") = true ∧
      Items Player (get x "players") ∧ (∃ gameId, get x "gameId" = .string gameId) ∧
        Items (fun round => isRoundData round = .ok true) (get x "rounds") ∧ Number (get x "currentRound") ∧
          Optional Number (get x "startTime") ∧ Spelled x := by
    unfold isGameData
    simp only [conj_true, List.forall_mem_cons, property_true (fun players => !players.isUndefined) rfl, ok_iff,
      isString_iff, isNumber_iff, itemsOf_true, isPlayer_true, optional_iff isNumber_iff, last]
    simp
  rw [guards]
  constructor
  · intro ⟨_, _, players, gameId, rounds, currentRound, startTime, spelled⟩
    exact ⟨⟨players, gameId, rounds, currentRound, startTime⟩, spelled⟩
  · intro ⟨checked, spelled⟩
    obtain ⟨players, same, _⟩ := checked.players
    refine ⟨?_, isArray_iff.mpr ⟨players, same⟩, checked.players, checked.gameId, checked.rounds, checked.currentRound,
      checked.startTime, spelled⟩
    rw [same]
    rfl

theorem gameData_iff {x : Value} : GameData x ↔ Checked x ∧ Unguarded x := by
  constructor
  · intro data
    obtain ⟨rounds, same, each⟩ := data.rounds
    have guarded := fun round member => roundData_iff.mp (each round member)
    exact ⟨⟨data.players, data.gameId, ⟨rounds, same, fun round member => (guarded round member).1⟩, data.currentRound,
      data.startTime⟩, ⟨rounds, same, fun round member => (guarded round member).2⟩, data.endTime⟩
  · intro ⟨checked, unguarded⟩
    obtain ⟨rounds, same, each⟩ := checked.rounds
    obtain ⟨others, also, attacks⟩ := unguarded.attacks
    obtain rfl : rounds = others := Value.array.inj (same.symm.trans also)
    have all := fun round member => roundData_iff.mpr ⟨each round member, attacks round member⟩
    exact ⟨checked.players, checked.gameId, ⟨rounds, same, all⟩, checked.currentRound, checked.startTime,
      unguarded.endTime⟩

/-! The guards return. -/

/-- There is no undefined in JSON, so that only null keeps a property from being read. -/
theorem property_returns {x : Value} (parsed : x.Parsed) (present : x ≠ .null) (name : String) :
    property x name = .ok (get x name) := by
  cases x with
  | undefined => exact parsed.elim
  | null => exact absurd rfl present
  | _ => rfl

theorem isPlayer_returns {x : Value} (parsed : x.Parsed) (present : x ≠ .null) : ∃ answer, isPlayer x = .ok answer := by
  unfold isPlayer
  rw [property_returns parsed present]
  apply conj_returns
  simp [Except.map]

theorem isRoundData_returns {x : Value} (parsed : x.Parsed) (present : x ≠ .null) :
    ∃ answer, isRoundData x = .ok answer := by
  unfold isRoundData
  rw [property_returns parsed present]
  apply conj_returns
  simp [Except.map]

theorem parsed_item {x : Value} (parsed : x.Parsed) {name : String} {items : List Value} (same : get x name = .array items)
    {item : Value} (member : item ∈ items) : item.Parsed := by
  cases x with
  | object fields =>
    have same : ((fields.find? (·.1 = name)).map (·.2)).getD .undefined = .array items := same
    cases found : fields.find? (·.1 = name) with
    | none =>
      rw [found] at same
      cases same
    | some field =>
      rw [found] at same
      have array : field.2.Parsed := ParsedFields.mem parsed.2 (List.mem_of_find?_eq_some found)
      rw [show field.2 = .array items from same] at array
      exact ParsedItems.mem array member
  | _ => cases same

/-- For an array of rounds without null, the players alone decide whether the guards return. -/
theorem isGameData_returns {x : Value} (parsed : x.Parsed) {rounds : List Value} (same : get x "rounds" = .array rounds)
    (present : .null ∉ rounds) : (∃ answer, isGameData x = .ok answer) ↔
      ∀ before after, get x "players" = .array (before ++ .null :: after) → ¬∀ player ∈ before, Player player := by
  have there : x ≠ .null := by
    intro null
    rw [null] at same
    cases same
  have guarded : ∃ answer, every isRoundData rounds = .ok answer :=
    every_returns fun round member => isRoundData_returns (parsed_item parsed same member)
      fun null => present (null ▸ member)
  constructor
  · intro ⟨answer, returned⟩ before after players allPlayers
    have thrown : every isPlayer (before ++ .null :: after) =
        .error "Cannot read properties of null (reading 'playerId')" :=
      every_error.mpr ⟨before, .null, after, rfl, rfl, fun player member => isPlayer_true.mpr (allPlayers player member)⟩
    have escaped : isGameData x = .error "Cannot read properties of null (reading 'playerId')" := by
      unfold isGameData
      rw [property_returns parsed there, players, itemsOf, Except.bind, thrown]
      rfl
    rw [escaped] at returned
    cases returned
  · intro first
    unfold isGameData
    rw [property_returns parsed there, same]
    cases players : get x "players" with
    | array items =>
      have returned : ∃ answer, every isPlayer items = .ok answer := by
        cases all : every isPlayer items with
        | ok answer => exact ⟨answer, rfl⟩
        | error message =>
          obtain ⟨before, item, after, split, thrown, passed⟩ := every_error.mp all
          have null : item = .null := by
            by_contra other
            obtain ⟨answer, returned⟩ := isPlayer_returns (parsed_item parsed players (by rw [split]; simp)) other
            rw [returned] at thrown
            cases thrown
          have notAll := first before after (by rw [players, split, null])
          exact absurd (fun player member => isPlayer_true.mp (passed player member)) notAll
      apply conj_returns
      simp only [List.forall_mem_cons]
      refine ⟨⟨_, rfl⟩, ⟨_, rfl⟩, returned, ⟨_, rfl⟩, guarded, ⟨_, rfl⟩, ⟨_, rfl⟩, ⟨_, rfl⟩, ?_⟩
      simp
    | undefined => exact ⟨false, rfl⟩
    | _ => exact ⟨false, rfl⟩

/-! The loader. -/

/-- The `Left` or `Right` for a round that is there. -/
def roundOf (data : Value) : Except String Round :=
  match get data "name" with
  | .string "button" => createButtonRound data
  | _ => .error "Unknown round name."

def roundBuilt (data : Value) : Round := buttonRound (get data "solution") (get data "options") (get data "msLength")

theorem createRound_present {x : Value} (parsed : x.Parsed) (present : x ≠ .null) : createRound x = .ok (roundOf x) := by
  unfold createRound
  rw [property_returns parsed present]
  rfl

theorem isSingleRoundData_iff {x : Value} :
    isSingleRoundData x = true ↔ Number (get x "solution") ∧ Items Number (get x "options") := by
  unfold isSingleRoundData
  rw [Bool.and_eq_true, Bool.and_eq_true, isNumber_iff]
  constructor
  · intro ⟨⟨_, solution⟩, options⟩
    split at options
    next items same => exact ⟨solution, same ▸ numbers_iff.mp options⟩
    next => cases options
  · intro ⟨solution, options⟩
    obtain ⟨items, same, numbers⟩ := options
    refine ⟨⟨?_, solution⟩, ?_⟩
    · cases x with
      | undefined => cases same
      | _ => rfl
    · rw [same]
      exact numbers_iff.mpr ⟨items, rfl, numbers⟩

theorem roundOf_built {x : Value} (round : ButtonRound x) : roundOf x = .ok (roundBuilt x) := by
  unfold roundOf
  rw [round.name]
  exact if_pos (isSingleRoundData_iff.mpr ⟨round.solution, round.options⟩)

theorem built_of_roundOf {x : Value} {round : Round} (right : roundOf x = .ok round) : ButtonRound x := by
  unfold roundOf at right
  split at right
  next name =>
    unfold createButtonRound at right
    split at right
    next single =>
      have types := isSingleRoundData_iff.mp single
      exact ⟨name, types.1, types.2⟩
    next => cases right
  next => cases right

section
variable {numberToString : Js.Number → String} {inherited : String → Bool} {now : Nat}

theorem triggerState_named {game : Game} (gameId : ∃ gameId, game.gameId = .string gameId) :
    triggerState numberToString game = .ok game := by
  obtain ⟨text, name⟩ := gameId
  unfold triggerState
  rw [name]
  rfl

theorem scheduleTimer_number {ms : Value} (number : Number ms) (game : Game) :
    scheduleTimer numberToString game ms = .ok { game with timer := some ms } := by
  obtain ⟨value, same⟩ := number
  unfold scheduleTimer
  rw [same]
  rfl

/-- A number is no key of anything but a slot, so that a game with a name and numbers in it is resumed. -/
theorem resumeGame_returns {game : Game} (gameId : ∃ gameId, game.gameId = .string gameId)
    (currentRound : Number game.currentRound) (delays : ∀ round ∈ game.rounds, Number round.msLength) :
    ∃ resumed, resumeGame numberToString inherited now game = .ok resumed := by
  obtain ⟨value, number⟩ := currentRound
  have key : toPropertyKey numberToString (.number value) = .ok (numberToString value) := rfl
  unfold resumeGame
  split
  next => exact ⟨game, rfl⟩
  next =>
    unfold gotoRound
    rw [number, key]
    simp only [bind, Except.bind, member]
    cases found : value.index.bind fun index => game.rounds[index]?.map (index, ·) with
    | none => exact ⟨_, triggerState_named gameId⟩
    | some slot =>
      have delay : Number slot.2.msLength := by
        obtain ⟨index, _, located⟩ := Option.bind_eq_some_iff.mp found
        obtain ⟨roundObj, present, same⟩ := Option.map_eq_some_iff.mp located
        rw [← same]
        exact delays roundObj (List.mem_of_getElem? present)
      have saved : ∀ rounds, triggerState numberToString { game with currentRound := .number value, rounds } =
          .ok { game with currentRound := .number value, rounds } := fun _ => triggerState_named gameId
      dsimp only
      rw [saved]
      exact ⟨_, scheduleTimer_number delay _⟩

/-- The loader needs an array of rounds without null. -/
theorem rounds_of_loaded {x : Value} {result : Except String Game}
    (loaded : deserializeGame numberToString inherited now x = .ok result) :
    ∃ items, get x "rounds" = .array items ∧ .null ∉ items := by
  unfold deserializeGame at loaded
  obtain ⟨rounds, read, loaded⟩ := of_bind_ok loaded
  obtain ⟨items, listed, loaded⟩ := of_bind_ok loaded
  obtain ⟨roundsE, made, _⟩ := of_bind_ok loaded
  have array : rounds = .array items := by
    cases rounds with
    | array _ => rw [Except.ok.inj listed]
    | _ => cases listed
  refine ⟨items, ?_, fun null => ?_⟩
  · rw [← array]
    cases x with
    | undefined => cases read
    | null => cases read
    | _ => exact Except.ok.inj read
  · obtain ⟨round, created⟩ := mapM_returns made .null null
    cases created

/-- With such an array every round is made, and the first `Left` of them is what comes out. -/
theorem deserializeGame_rounds {x : Value} (parsed : x.Parsed) {items : List Value} (same : get x "rounds" = .array items)
    (present : .null ∉ items) :
    deserializeGame numberToString inherited now x =
      match items.mapM roundOf with
      | .error message => .ok (.error message)
      | .ok rounds => (resumeGame numberToString inherited now (newGame x rounds)).map .ok := by
  have there : x ≠ .null := by
    intro null
    rw [null] at same
    cases same
  have made : items.mapM createRound = .ok (items.map roundOf) :=
    mapM_map fun item member => createRound_present (parsed_item parsed same member) fun null => present (null ▸ member)
  have sequence : (items.map roundOf).mapM id = items.mapM roundOf := List.mapM_map
  have listed : itemsOf (.array items) "map" = .ok items := rfl
  unfold deserializeGame
  rw [property_returns parsed there, same]
  simp only [bind, Except.bind, listed, made, sequence]
  cases items.mapM roundOf with
  | error message => rfl
  | ok rounds => cases resumeGame numberToString inherited now (newGame x rounds) <;> rfl

theorem deserializeGame_built {x : Value} (parsed : x.Parsed) {items : List Value} (same : get x "rounds" = .array items)
    (built : ∀ round ∈ items, ButtonRound round) :
    deserializeGame numberToString inherited now x =
      (resumeGame numberToString inherited now (newGame x (items.map roundBuilt))).map .ok := by
  have present : .null ∉ items := fun null => by cases (built .null null).name
  rw [deserializeGame_rounds parsed same present, mapM_map fun round member => roundOf_built (built round member)]

theorem deserializeGame_unbuilt {x : Value} (parsed : x.Parsed) {items : List Value} (same : get x "rounds" = .array items)
    (present : .null ∉ items) (unbuilt : ¬Built x) :
    ∃ message, deserializeGame numberToString inherited now x = .ok (.error message) := by
  rw [deserializeGame_rounds parsed same present]
  cases made : items.mapM roundOf with
  | error message => exact ⟨message, rfl⟩
  | ok rounds =>
    refine absurd ⟨items, same, fun round member => ?_⟩ unbuilt
    obtain ⟨built, right⟩ := mapM_returns made round member
    exact built_of_roundOf right

/-- A game that conforms to its interface, with rounds the server can build, is loaded. -/
theorem deserializeGame_right {x : Value} (parsed : x.Parsed) (data : GameData x) (built : Built x) :
    ∃ game, deserializeGame numberToString inherited now x = .ok (.ok game) := by
  obtain ⟨items, same, rounds⟩ := data.rounds
  obtain ⟨others, also, buttons⟩ := built
  obtain rfl : items = others := Value.array.inj (same.symm.trans also)
  have currentRound : Number (newGame x (items.map roundBuilt)).currentRound := by
    obtain ⟨value, number⟩ := data.currentRound
    show Number (orZero (get x "currentRound"))
    rw [number]
    cases value <;> exact ⟨_, rfl⟩
  have delays : ∀ round ∈ (newGame x (items.map roundBuilt)).rounds, Number round.msLength := by
    intro round member
    obtain ⟨item, listed, made⟩ := List.mem_map.mp member
    obtain ⟨value, number⟩ := (rounds item listed).msLength
    rw [← made]
    show Number (if (get item "msLength").isUndefined then _ else get item "msLength")
    rw [number]
    exact ⟨value, rfl⟩
  obtain ⟨game, resumed⟩ := resumeGame_returns data.gameId currentRound delays
  refine ⟨game, ?_⟩
  rw [deserializeGame_built parsed same buttons, resumed]
  rfl

/-- The guards decide the interface, for a game that gets to the last of them, exactly where that one does. -/
theorem Checked.isGameData {x : Value} (checked : Checked x) : isGameData x = .ok true ↔ Spelled x := by
  rw [isGameData_true]
  exact and_iff_right checked

theorem Checked.gameData {x : Value} (checked : Checked x) : GameData x ↔ Unguarded x := by
  rw [gameData_iff]
  exact and_iff_right checked

theorem concrete_of_built {x : Value} (data : GameData x) (built : Built x) : Concrete x := by
  obtain ⟨items, same, rounds⟩ := data.rounds
  obtain ⟨others, also, buttons⟩ := built
  obtain rfl : items = others := Value.array.inj (same.symm.trans also)
  refine ⟨items, same, fun round member => ?_⟩
  have button := buttons round member
  exact ⟨.inl button.name, (rounds round member).msLength, button.solution, button.options⟩

end

/-- The guards, the loader and the interfaces agree on exactly the regular values. -/
theorem agrees_iff (numberToString : Js.Number → String) (inherited : String → Bool) (now : Nat) (x : Json) :
    Agrees numberToString inherited now x.value ↔ Regular x.value := by
  obtain ⟨x, parsed⟩ := x
  constructor
  · intro agrees
    obtain ⟨result, loaded⟩ := agrees.loaded
    obtain ⟨items, same, present⟩ := rounds_of_loaded loaded
    refine ⟨⟨items, same, present⟩, (isGameData_returns parsed same present).mp agrees.guarded, ?_, ?_⟩
    · intro built
      obtain ⟨others, also, buttons⟩ := built
      have right : ∃ game, deserializeGame numberToString inherited now x = .ok (.ok game) := by
        rw [deserializeGame_built parsed also buttons] at loaded ⊢
        cases resumed : resumeGame numberToString inherited now (newGame x (others.map roundBuilt)) with
        | ok game => exact ⟨game, rfl⟩
        | error message =>
          rw [resumed] at loaded
          cases loaded
      have guarded := (agrees.loader.mp right).1
      exact ⟨agrees.schema.mp guarded, (isGameData_true.mp guarded).2⟩
    · intro unbuilt checked
      refine ⟨checked.isGameData.symm.trans (agrees.schema.trans checked.gameData), fun both => ?_⟩
      obtain ⟨game, right⟩ := agrees.loader.mpr ⟨checked.isGameData.mpr both.1, both.2⟩
      obtain ⟨message, left⟩ := deserializeGame_unbuilt parsed same present unbuilt
      rw [left] at right
      cases right
  · intro regular
    obtain ⟨items, same, present⟩ := regular.rounds
    have guarded := (isGameData_returns parsed same present).mpr regular.players
    by_cases built : Built x
    · obtain ⟨data, spelled⟩ := regular.built built
      have passed := isGameData_true.mpr ⟨(gameData_iff.mp data).1, spelled⟩
      obtain ⟨game, right⟩ := deserializeGame_right parsed data built
      exact ⟨guarded, ⟨_, right⟩, iff_of_true passed data, iff_of_true ⟨game, right⟩ ⟨passed, concrete_of_built data built⟩⟩
    · obtain ⟨message, left⟩ := deserializeGame_unbuilt parsed same present built
      refine ⟨guarded, ⟨_, left⟩, ?_, iff_of_false ?_ ?_⟩
      · by_cases checked : Checked x
        · exact checked.isGameData.trans ((regular.unbuilt built checked).1.trans checked.gameData.symm)
        · exact iff_of_false (fun passed => checked (isGameData_true.mp passed).1) fun data => checked (gameData_iff.mp data).1
      · intro ⟨game, right⟩
        rw [left] at right
        cases right
      · intro ⟨passed, concrete⟩
        have both := isGameData_true.mp passed
        exact (regular.unbuilt built both.1).2 ⟨both.2, concrete⟩

/-! Games without players, of which nothing is resumed. -/

def stored (rounds : List Value) (ends : List (String × Value)) : Value :=
  .object ([("players", .array []), ("gameId", .string "g"), ("rounds", .array rounds), ("currentRound", .number (.ofNat 0))] ++
    ends)

def tutorialRound : Value :=
  .object [("name", .string "tutorial-button"), ("msLength", .number (.ofNat 60000)), ("solution", .number (.ofNat 0)),
    ("options", .array [.number (.ofNat 0)])]

/-- Its end is no number, and the guard looks for another property. -/
def misspelt : Json where
  value := stored [] [("endTime", .string "soon")]
  parsed := by simp [stored, Value.Parsed, ParsedFields, ParsedItems, Js.Number.ofNat]

def tutorial : Json where
  value := stored [tutorialRound] []
  parsed := by simp [stored, tutorialRound, Value.Parsed, ParsedFields, ParsedItems, Js.Number.ofNat]

def roundless : Json where
  value := .object [("players", .array []), ("gameId", .string "g")]
  parsed := by simp [Value.Parsed, ParsedFields, ParsedItems]

def load (x : Json) : Except String (Except String Game) := deserializeGame (fun _ => "0") (fun _ => false) 0 x.value

def Plain (x : Json) : Prop := Agrees (fun _ => "0") (fun _ => false) 0 x.value

/-- An end that is no number passes the guard; without rounds the guard throws, and so does the loader; and a game with a
concrete round conforms to all interfaces and is refused by the loader. -/
theorem schema_drifts :
    isGameData misspelt.value = .ok true ∧ ¬GameData misspelt.value ∧ ¬Plain misspelt ∧
      isGameData roundless.value = .error "Cannot read properties of undefined (reading 'every')" ∧
        load roundless = .error "Cannot read properties of undefined (reading 'map')" ∧ ¬Plain roundless ∧
          isGameData tutorial.value = .ok true ∧ Concrete tutorial.value ∧
            load tutorial = .ok (.error "Unknown round name.") ∧ ¬Plain tutorial := by
  have ended : ¬GameData misspelt.value := fun data => by
    rcases data.endTime with none | ⟨value, number⟩
    · cases none
    · cases number
  have concrete : Concrete tutorial.value := by
    refine ⟨[tutorialRound], rfl, fun round member => ?_⟩
    rw [List.mem_singleton.mp member]
    exact ⟨.inr rfl, ⟨_, rfl⟩, ⟨_, rfl⟩, _, rfl, fun option listed => ⟨_, List.mem_singleton.mp listed⟩⟩
  refine ⟨rfl, ended, fun agrees => ended (agrees.schema.mp rfl), rfl, rfl, fun agrees => ?_, rfl, concrete, rfl,
    fun agrees => ?_⟩
  · obtain ⟨answer, returned⟩ := agrees.guarded
    cases returned
  · obtain ⟨game, right⟩ := agrees.loader.mpr ⟨rfl, concrete⟩
    cases right

end DfStudy.GameSchema
