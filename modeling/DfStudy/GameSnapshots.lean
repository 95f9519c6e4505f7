import DfStudy.Games
import DfStudy.Listeners

/-! What `Game.state` shows of those who listen to a game. -/

namespace DfStudy.GameSnapshots
open Js Listeners

section
variable {Callback : Type} [DecidableEq Callback]

/-- The properties of a `Game` that are game data. -/
structure Data where
  players : Value
  gameId : Value
  rounds : Value
  currentRound : Value
  startTime : Value
  endTime : Value

def Data.fields (data : Data) : List (String × Value) :=
  [("currentRound", data.currentRound), ("rounds", data.rounds), ("gameId", data.gameId), ("players", data.players),
    ("startTime", data.startTime), ("endTime", data.endTime)]

/-- The callbacks the constructor of `Game` registers. -/
structure Own (Callback : Type) where
  startIfPlayersReady : Callback
  saveGame : Callback
  playerReady : Callback
  answer : Callback
  stop : Callback
  start : Callback
  round : Callback

def constructed (own : Own Callback) : CallbackMap String Callback :=
  ((((((CallbackMap.on [] "player_ready" own.startIfPlayersReady).on "state" own.saveGame).on "player_ready"
    own.playerReady).on "answer" own.answer).on "stop" own.stop).on "start" own.start).on "round" own.round

inductive Call (Callback : Type) where
  | on (event : String) (cb : Callback)
  | off (event : String) (cb : Callback)

/-- A call that names an inherited property throws, and changes nothing. -/
def called (cbMap : CallbackMap String Callback) : Call Callback → CallbackMap String Callback
  | .on event cb => if plainObject event then cbMap else cbMap.on event cb
  | .off event cb => if plainObject event then cbMap else cbMap.off event cb

/-- The listeners of a game after some calls. -/
def listening (own : Own Callback) (calls : List (Call Callback)) : CallbackMap String Callback :=
  calls.foldl called (constructed own)

end

section
variable {Callback : Type}

/-- The object `cbMap`. `JSON.stringify` takes a function for `undefined`. -/
def cbMapValue (cbMap : CallbackMap String Callback) : Value :=
  .object (cbMap.map fun (event, cbs) => (event, .array (cbs.map fun _ => .undefined)))

/-- `JSON.parse(JSON.stringify(this))`. -/
def state (data : Data) (cbMap : CallbackMap String Callback) : List (String × Value) :=
  jsonFields (("cbMap", cbMapValue cbMap) :: data.fields)

/-- The keys of the interface `GameData`. -/
def gameDataKeys : List String := ["players", "gameId", "rounds", "currentRound", "startTime", "endTime"]

/-- The snapshots of two games with the same data are the same, with no other keys than those of game data. -/
structure DataOnly (data : Data) (cbMap other : CallbackMap String Callback) : Prop where
  same : state data cbMap = state data other
  keys : ∀ key ∈ (state data cbMap).map (·.1), key ∈ gameDataKeys

/-- How many listen to each event, in the order in which the events have first been listened to. -/
def counted (cbMap : CallbackMap String Callback) : List (String × Nat) := cbMap.map fun (event, cbs) => (event, cbs.length)

theorem jsonItems_functions (cbs : List Callback) :
    jsonItems (cbs.map fun _ => .undefined) = List.replicate cbs.length .null := by
  induction cbs with
  | nil => rfl
  | cons cb cbs ih =>
    rw [List.map_cons, jsonItems, ih]
    rfl

/-- What JSON shows of the listeners is how many there are. -/
theorem json_value (cbMap : CallbackMap String Callback) : (cbMapValue cbMap).json =
    some (.object ((counted cbMap).map fun (event, count) => (event, .array (List.replicate count .null)))) := by
  have fields : jsonFields (cbMap.map fun (event, cbs) => (event, .array (cbs.map fun _ => .undefined))) =
      (counted cbMap).map fun (event, count) => (event, .array (List.replicate count .null)) := by
    induction cbMap with
    | nil => rfl
    | cons entry cbMap ih =>
      rw [List.map_cons, jsonFields, ih, Value.json, jsonItems_functions]
      rfl
  unfold cbMapValue
  rw [Value.json, fields]

theorem nulls_inj {left right : List (String × Nat)}
    (same : (left.map fun (event, count) => (event, Value.array (List.replicate count .null))) =
      right.map fun (event, count) => (event, .array (List.replicate count .null))) : left = right := by
  refine List.map_injective_iff.mpr (fun entry other equal => ?_) same
  obtain ⟨event, nulls⟩ := Prod.mk.inj equal
  have lengths := congrArg List.length (Value.array.inj nulls)
  rw [List.length_replicate, List.length_replicate] at lengths
  exact Prod.ext event lengths

theorem state_eq (data : Data) (cbMap : CallbackMap String Callback) : state data cbMap =
    ("cbMap", .object ((counted cbMap).map fun (event, count) => (event, .array (List.replicate count .null)))) ::
      jsonFields data.fields := by
  unfold state
  rw [jsonFields, json_value]

end

/-- The snapshot of a game always has a key for its listeners, and two snapshots of the same data are the same exactly when as
many listen to each event, in the same order of events. -/
theorem snapshots_reveal {Callback : Type} [DecidableEq Callback] (own : Own Callback) (data : Data)
    (calls other : List (Call Callback)) :
    ¬DataOnly data (listening own calls) (listening own other) ∧
      (state data (listening own calls) = state data (listening own other) ↔
        counted (listening own calls) = counted (listening own other)) := by
  constructor
  · intro dataOnly
    have key := dataOnly.keys "cbMap" (by rw [state_eq]; exact List.mem_cons_self)
    exact absurd key (by decide)
  · rw [state_eq, state_eq]
    constructor
    · intro same
      have listeners := (Prod.mk.inj (List.cons.inj same).1).2
      exact nulls_inj (Value.object.inj listeners)
    · intro same
      rw [same]

/-! A game that has just been created, by the numbers of its callbacks. -/

def ownNumbers : Own Nat where
  startIfPlayersReady := 0
  saveGame := 1
  playerReady := 2
  answer := 3
  stop := 4
  start := 5
  round := 6

example : counted (constructed ownNumbers) = ({} : Games.CbMap).json := by decide

def created : Data where
  players := .array []
  gameId := .string "a"
  rounds := .array []
  currentRound := .number (.ofNat 0)
  startTime := .undefined
  endTime := .undefined

/-- Two listeners more can be told from the snapshot. -/
theorem listeners_shown :
    ¬DataOnly created (listening ownNumbers []) (listening ownNumbers [.on "state" 7, .on "round" 8]) ∧
      state created (listening ownNumbers []) ≠ state created (listening ownNumbers [.on "state" 7, .on "round" 8]) := by
  have apart : state created (listening ownNumbers []) ≠
      state created (listening ownNumbers [.on "state" 7, .on "round" 8]) := fun same => by
    rw [state_eq, state_eq] at same
    have counts := nulls_inj (Value.object.inj (Prod.mk.inj (List.cons.inj same).1).2)
    exact absurd counts (by decide)
  exact ⟨fun dataOnly => apart dataOnly.same, apart⟩

end DfStudy.GameSnapshots
