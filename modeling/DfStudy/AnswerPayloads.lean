import DfStudy.LoadedGame

/-! 'game:answer' as it comes in from a socket. The payload is any value JSON can hold, or nothing: nothing checks it
before `answer` takes it apart, and its `round` is used as a property key first and as a number then. -/

namespace DfStudy.AnswerPayloads
open Js Rounds Attacks Games GameFrames GameControl LoadedGame Support.Machine LiveGame

/-! What JavaScript makes of a value. -/

/-- A property of a value that is neither `undefined` nor `null`. No prototype has a property 'round' or 'value'. -/
def get (value : Value) (name : String) : Value :=
  match value with
  | .object fields => ((fields.find? (·.1 = name)).map (·.2)).getD .undefined
  | _ => .undefined

section
variable (numberToString : Number → String)

mutual

/-- The property key a value is turned into. An object with a property 'toString' has a value there that cannot be
called, and no primitive value. -/
def toPropertyKey : Value → Except String String
  | .undefined => .ok "undefined"
  | .null => .ok "null"
  | .bool value => .ok (toString value)
  | .number value => .ok (numberToString value)
  | .string value => .ok value
  | .array items => (joined items).map (String.intercalate ",")
  | .object fields =>
    if fields.any (·.1 = "toString") then .error "Cannot convert object to primitive value" else .ok "[object Object]"

/-- The items of an array, as `join` takes them. -/
def joined : List Value → Except String (List String)
  | [] => .ok []
  | .undefined :: items => (joined items).map ("" :: ·)
  | .null :: items => (joined items).map ("" :: ·)
  | item :: items => do
    let key ← toPropertyKey item
    let keys ← joined items
    return key :: keys

end

/-- `value + 1`, for a value that has been turned into the key `key`. -/
def plusOne (value : Value) (key : String) : Value :=
  match value with
  | .number (.finite value) => .number (.finite (value + 1))
  | .number value => .number value
  | .undefined => .number .nan
  | .null => .number (.ofNat 1)
  | .bool value => .number (.ofNat (if value then 2 else 1))
  | .string _ | .array _ | .object _ => .string (key ++ "1")

/-! `this.rounds[round]`. -/

inductive Property where
  | missing
  /-- 'length', or a name an array inherits. What it has there has neither a `startTime` nor an `endTime`. -/
  | other
  | slot (index : Nat) (roundObj : Round)

variable (inherited : String → Bool)

/-- A name that is not a slot. -/
def word (key : String) : Property := if inherited key then .other else .missing

def named (rounds : List Round) (key : String) : Property :=
  match (List.range rounds.length).find? fun index => toString index = key with
  | none => word inherited key
  | some index =>
    match rounds[index]? with
    | none => .missing
    | some roundObj => .slot index roundObj

/-- For the value `round`, and the key it is turned into. -/
def property (rounds : List Round) (round : Value) (key : String) : Property :=
  match round with
  | .number value =>
    match value.index.bind fun index => rounds[index]?.map (index, ·) with
    | none => .missing
    | some (index, roundObj) => .slot index roundObj
  | .string _ | .array _ => named inherited rounds key
  -- the keys of these are words
  | .undefined | .null | .bool _ | .object _ => word inherited key

/-! `onAnswer`, for a socket whose game is found. -/

/-- What is left of a message: the game, the target of the transition that has been scheduled, and the outcome. -/
structure Handled where
  game : LiveGame
  target : Option Value := none
  outcome : Outcome Int

def accept (s : LiveGame) (payload : Value) (index : Nat) (roundObj : Round) (target : Value) : Handled :=
  let value := get payload "value"
  -- no listener looks at the answer that comes with 'answer'
  let s := (s.clearTimeout s.gameTimers).triggerAnswer { round := .ofNat index, value }
  let (answered, answerStatus) := roundObj.onAnswer value s.now
  { game := (s.setRound index answered).tick
    target := if answerStatus ≠ 0 then some target else none
    outcome := .right answerStatus }

def answer (s : LiveGame) (payload : Value) : Handled :=
  match payload with
  | .undefined => { game := s, outcome := .threw "Cannot destructure property 'round' of 'answer' as it is undefined." }
  | .null => { game := s, outcome := .threw "Cannot destructure property 'round' of 'answer' as it is null." }
  | payload =>
    let round := get payload "round"
    match toPropertyKey numberToString round with
    | .error message => { game := s, outcome := .threw message }
    | .ok key =>
      match property inherited s.game.rounds round key with
      | .missing => { game := s, outcome := .left "invalid round number" }
      | .other => { game := s, outcome := .left "round not started" }
      | .slot index roundObj =>
        if roundObj.endTime.isSome then { game := s, outcome := .left "round ended" } else
        if roundObj.startTime.isNone then { game := s, outcome := .left "round not started" } else
        accept s payload index roundObj (plusOne round key)

/-- The game after a message, where it is one the rest of the model can hold: its transition leads to a number. -/
def Handled.settled (handled : Handled) : Option LiveGame :=
  match handled.target with
  | none => some handled.game
  | some (.number target) => target.index.map fun round => handled.game.setTimeout (.gotoRound round) 1000
  | some _ => none

/-! What a message may do. -/

structure Unchanged (s : LiveGame) (handled : Handled) : Prop where
  game : handled.game = s
  target : handled.target = none

/-- The open round is answered, its timer is cleared, and the next round is to be entered. -/
structure Recorded (s : LiveGame) (value : Value) (handled : Handled) : Prop where
  answered : ∃ round now, s.game.rounds[s.game.currentRound]? = some round ∧ Round.Open round ∧
    handled.game.game = { s.game with
      rounds := s.game.rounds.set s.game.currentRound { round with answer := value, endTime := some now } }
  timer : handled.game.timeouts = (s.clearTimeout s.gameTimers).timeouts
  target : handled.target = some (.number (.ofNat (s.game.currentRound + 1)))

structure Keeps (s : LiveGame) (payload : Value) : Prop where
  returns : ∀ message, (answer numberToString inherited s payload).outcome ≠ .threw message
  effect : Unchanged s (answer numberToString inherited s payload) ∨
    Recorded s (get payload "value") (answer numberToString inherited s payload)

/-- There is something to take apart, its round can be made a property key, and the key of the open round comes from
a number. -/
def Harmless (s : LiveGame) (payload : Value) : Prop :=
  payload ≠ .undefined ∧ payload ≠ .null ∧ ∃ key, toPropertyKey numberToString (get payload "round") = .ok key ∧
    ∀ index roundObj, property inherited s.game.rounds (get payload "round") key = .slot index roundObj →
      Round.Open roundObj → ∃ value, get payload "round" = .number value

variable {numberToString inherited}

/-! One message. -/

theorem word_slot {key : String} {index : Nat} {roundObj : Round} : word inherited key ≠ .slot index roundObj := by
  unfold word
  split <;> exact nofun

theorem named_slot {rounds : List Round} {key : String} {index : Nat} {roundObj : Round}
    (found : named inherited rounds key = .slot index roundObj) : rounds[index]? = some roundObj := by
  unfold named at found
  split at found
  · exact absurd found word_slot
  · split at found
    · cases found
    · rename_i present
      cases found
      exact present

/-- A number names a slot only as the number of that slot. -/
theorem property_number {rounds : List Round} {value : Number} {key : String} {index : Nat} {roundObj : Round}
    (found : property inherited rounds (.number value) key = .slot index roundObj) :
    value = .ofNat index ∧ rounds[index]? = some roundObj := by
  unfold property at found
  dsimp only at found
  split at found
  · cases found
  · rename_i located
    cases found
    obtain ⟨slot, named, mapped⟩ := Option.bind_eq_some_iff.mp located
    obtain ⟨_, present, same⟩ := Option.map_eq_some_iff.mp mapped
    cases same
    exact ⟨Number.of_index named, present⟩

/-- The other values that name a slot are turned into text by `round + 1`. -/
theorem property_slot {rounds : List Round} {round : Value} {key : String} {index : Nat} {roundObj : Round}
    (found : property inherited rounds round key = .slot index roundObj) : rounds[index]? = some roundObj ∧
      (round = .number (.ofNat index) ∧ plusOne round key = .number (.ofNat (index + 1)) ∨
        (∀ value, round ≠ .number value) ∧ plusOne round key = .string (key ++ "1")) := by
  cases round with
  | number value =>
    obtain ⟨rfl, present⟩ := property_number found
    exact ⟨present, .inl ⟨rfl, by simp [plusOne, Number.ofNat]⟩⟩
  | string value =>
    refine ⟨named_slot found, .inr ⟨fun number same => ?_, rfl⟩⟩
    cases same
  | array items =>
    refine ⟨named_slot found, .inr ⟨fun number same => ?_, rfl⟩⟩
    cases same
  | undefined => exact absurd found word_slot
  | null => exact absurd found word_slot
  | bool value => exact absurd found word_slot
  | object fields => exact absurd found word_slot

theorem accept_spec (s : LiveGame) (payload : Value) (index : Nat) (roundObj : Round) (target : Value) :
    (accept s payload index roundObj target).game.game = { s.game with
        rounds := s.game.rounds.set index { roundObj with answer := get payload "value", endTime := some s.now } } ∧
      (accept s payload index roundObj target).game.timeouts = (s.clearTimeout s.gameTimers).timeouts ∧
      (accept s payload index roundObj target).target = some target ∧
      ∀ message, (accept s payload index roundObj target).outcome ≠ .threw message := by
  unfold accept
  dsimp only
  rw [triggerAnswer_eq]
  exact ⟨rfl, rfl, if_pos (onAnswer_status roundObj _ _), nofun⟩

/-- What the guards let through. -/
theorem open_of_guards {roundObj : Round} (running : ¬roundObj.endTime.isSome) (started : ¬roundObj.startTime.isNone) :
    Round.Open roundObj :=
  ⟨by simpa [Option.isSome_iff_ne_none] using started, by simpa using running⟩

/-- Every way a message can be handled. -/
theorem answer_cases (s : LiveGame) (payload : Value) :
    ((∃ message, (answer numberToString inherited s payload).outcome = .threw message) ∧
      (payload = .undefined ∨ payload = .null ∨ ∃ message, toPropertyKey numberToString (get payload "round") = .error message)) ∨
    ∃ key, payload ≠ .undefined ∧ payload ≠ .null ∧ toPropertyKey numberToString (get payload "round") = .ok key ∧
      ((∃ message, answer numberToString inherited s payload = { game := s, outcome := .left message } ∧
          ∀ index roundObj, property inherited s.game.rounds (get payload "round") key = .slot index roundObj →
            ¬Round.Open roundObj) ∨
        ∃ index roundObj, property inherited s.game.rounds (get payload "round") key = .slot index roundObj ∧
          Round.Open roundObj ∧ answer numberToString inherited s payload =
            accept s payload index roundObj (plusOne (get payload "round") key)) := by
  by_cases undefined : payload = .undefined
  · subst undefined
    exact .inl ⟨⟨_, rfl⟩, .inl rfl⟩
  by_cases null : payload = .null
  · subst null
    exact .inl ⟨⟨_, rfl⟩, .inr (.inl rfl)⟩
  have taken : answer numberToString inherited s payload =
      match toPropertyKey numberToString (get payload "round") with
      | .error message => { game := s, outcome := .threw message }
      | .ok key =>
        match property inherited s.game.rounds (get payload "round") key with
        | .missing => { game := s, outcome := .left "invalid round number" }
        | .other => { game := s, outcome := .left "round not started" }
        | .slot index roundObj =>
          if roundObj.endTime.isSome then { game := s, outcome := .left "round ended" } else
          if roundObj.startTime.isNone then { game := s, outcome := .left "round not started" } else
          accept s payload index roundObj (plusOne (get payload "round") key) := by
    cases payload with
    | undefined => exact absurd rfl undefined
    | null => exact absurd rfl null
    | _ => rfl
  rw [taken]
  cases keyed : toPropertyKey numberToString (get payload "round") with
  | error message => exact .inl ⟨⟨_, rfl⟩, .inr (.inr ⟨message, rfl⟩)⟩
  | ok key =>
    refine .inr ⟨key, undefined, null, rfl, ?_⟩
    dsimp only
    cases found : property inherited s.game.rounds (get payload "round") key with
    | missing => exact .inl ⟨_, rfl, nofun⟩
    | other => exact .inl ⟨_, rfl, nofun⟩
    | slot index roundObj =>
      dsimp only
      by_cases hasEnded : roundObj.endTime.isSome
      · rw [if_pos hasEnded]
        refine .inl ⟨_, rfl, ?_⟩
        rintro _ _ same running
        cases same
        simp [running.2] at hasEnded
      · rw [if_neg hasEnded]
        by_cases fresh : roundObj.startTime.isNone
        · rw [if_pos fresh]
          refine .inl ⟨_, rfl, ?_⟩
          rintro _ _ same running
          cases same
          have started := running.1
          simp [Option.isNone_iff_eq_none.mp fresh] at started
        · rw [if_neg fresh]
          exact .inr ⟨index, roundObj, rfl, open_of_guards hasEnded fresh, rfl⟩

/-- A message to a game that has been loaded, and has run so far. -/
theorem keeps_iff {base : Nat} {s : LiveGame} (turning : Turning base s) (payload : Value) :
    Keeps numberToString inherited s payload ↔ Harmless numberToString inherited s payload := by
  rcases @answer_cases numberToString inherited s payload with
    ⟨⟨message, threw⟩, cause⟩ | ⟨key, defined, present, keyed, ⟨message, refused, closed⟩ | ⟨index, roundObj, found, running, taken⟩⟩
  · constructor
    · intro keeps
      exact absurd threw (keeps.returns message)
    · rintro ⟨defined, present, key, keyed, -⟩
      rcases cause with rfl | rfl | ⟨error, failed⟩
      · exact absurd rfl defined
      · exact absurd rfl present
      · rw [failed] at keyed
        cases keyed
  · constructor
    · intro _
      exact ⟨defined, present, key, keyed, fun index roundObj found running => absurd running (closed index roundObj found)⟩
    · intro _
      exact ⟨by rw [refused]; exact nofun, .inl (by rw [refused]; exact ⟨rfl, rfl⟩)⟩
  · obtain ⟨inside, target⟩ := property_slot found
    obtain ⟨_, rfl⟩ := turning.open_current inside running
    obtain ⟨game, timer, scheduled, returns⟩ := accept_spec s payload s.game.currentRound roundObj
      (plusOne (get payload "round") key)
    rw [← taken] at game timer scheduled returns
    constructor
    · intro keeps
      refine ⟨defined, present, key, keyed, fun _ _ _ _ => ?_⟩
      rcases target with ⟨number, -⟩ | ⟨-, text⟩
      · exact ⟨_, number⟩
      · rcases keeps.effect with unchanged | recorded
        · have idle := unchanged.target
          rw [scheduled] at idle
          cases idle
        · rw [recorded.target, text] at scheduled
          cases scheduled
    · rintro ⟨-, -, known, same, numbers⟩
      rw [keyed] at same
      cases same
      obtain ⟨value, number⟩ := numbers _ _ found running
      rcases target with ⟨-, next⟩ | ⟨other, -⟩
      · exact ⟨returns, .inr ⟨⟨roundObj, s.now, inside, running, game⟩, timer, by rw [scheduled, next]⟩⟩
      · exact absurd number (other value)

/-- A message that is handled as it should be leaves the game that the same answer as data leaves. -/
theorem accept_settled {s : LiveGame} {index : Nat} {roundObj : Round} (inside : s.game.rounds[index]? = some roundObj)
    (running : Round.Open roundObj) (payload : Value) :
    (accept s payload index roundObj (.number (.ofNat (index + 1)))).settled =
      some (s.answer { round := .ofNat index, value := get payload "value" }).1 := by
  have found : s.roundAt (.ofNat index) = some (index, roundObj) := by
    rw [roundAt_ofNat, inside]
    rfl
  have status := onAnswer_status roundObj (get payload "value")
    ((s.clearTimeout s.gameTimers).triggerAnswer { round := .ofNat index, value := get payload "value" }).now
  unfold accept LiveGame.answer Handled.settled
  dsimp only
  rw [found]
  dsimp only
  rw [if_pos status, if_neg (by simp [running.2]), if_neg (by simp [Option.isNone_iff_eq_none, Option.isSome_iff_ne_none.mp running.1])]
  dsimp only
  rw [if_pos status, Number.index_ofNat]
  rfl

/-! Every message of a run. -/

variable (numberToString inherited)

inductive Input where
  | message (payload : Value)
  | turn (action : Action)
  | listen (listener : Listener)

/-- A message whose transition does not lead to a number leaves what the model can hold, and is not followed further. -/
def handle (s : LiveGame) : Input → LiveGame
  | .message payload => (answer numberToString inherited s payload).settled.getD s
  | .turn action => step s action
  | .listen listener => listen s listener

def Allowed (s : LiveGame) : Input → Prop
  | .message payload => Harmless numberToString inherited s payload
  | _ => True

variable {numberToString inherited}

theorem handle_message {s : LiveGame} {payload : Value}
    (harmless : Harmless numberToString inherited s payload) :
    handle numberToString inherited s (.message payload) = s ∨
      ∃ answer, handle numberToString inherited s (.message payload) = step s (.answer answer) := by
  have handled : handle numberToString inherited s (.message payload) =
      (answer numberToString inherited s payload).settled.getD s := rfl
  rw [handled]
  rcases @answer_cases numberToString inherited s payload with
    ⟨-, cause⟩ | ⟨key, -, -, keyed, ⟨message, refused, -⟩ | ⟨index, roundObj, found, running, taken⟩⟩
  · obtain ⟨defined, present, key, keyed, -⟩ := harmless
    rcases cause with rfl | rfl | ⟨error, failed⟩
    · exact absurd rfl defined
    · exact absurd rfl present
    · rw [failed] at keyed
      cases keyed
  · rw [refused]
    exact .inl rfl
  · obtain ⟨-, -, known, same, numbers⟩ := harmless
    rw [keyed] at same
    cases same
    obtain ⟨value, number⟩ := numbers _ _ found running
    obtain ⟨inside, ⟨-, next⟩ | ⟨other, -⟩⟩ := property_slot found
    · rw [taken, next, accept_settled inside running payload]
      exact .inr ⟨_, rfl⟩
    · exact absurd number (other value)

theorem handle_turning {base : Nat} {s : LiveGame} (turning : Turning base s) (wired : Wired s) {input : Input}
    (allowed : Allowed numberToString inherited s input) :
    Turning base (handle numberToString inherited s input) ∧ Wired (handle numberToString inherited s input) := by
  cases input with
  | message payload =>
    rcases handle_message allowed with same | ⟨answer, same⟩
    · rw [same]
      exact ⟨turning, wired⟩
    · rw [same]
      exact ⟨turning_step turning wired _, wired_step wired _⟩
  | turn action => exact ⟨turning_step turning wired action, wired_step wired action⟩
  | listen listener => exact ⟨turning_listen turning listener, wired_listen wired listener⟩

/-- Whatever happened before, as long as no message was one of the others. -/
theorem messages_keep {clock : Nat → Nat} {data : GameData} {s : LiveGame} {inputs : List Input}
    (loaded : deserializeGame clock data = .ok s)
    (allowed : Permitted (handle numberToString inherited) (Allowed numberToString inherited) s inputs) :
    (∀ payload, Keeps numberToString inherited (run (handle numberToString inherited) s inputs) payload ↔
        Harmless numberToString inherited (run (handle numberToString inherited) s inputs) payload) ∧
      ((run (handle numberToString inherited) s inputs).game.endTime.isSome → ∀ index ≥ resumedIn data, ∀ round,
        (run (handle numberToString inherited) s inputs).game.rounds[index]? = some round →
          round.startTime.isSome ∧ round.endTime.isSome) := by
  have invariant := run_invariant_of_permitted (fun s => Turning (resumedIn data) s ∧ Wired s)
    (fun s input allowed known => handle_turning known.1 known.2 allowed) allowed
    ⟨turning_loaded loaded, wired_loaded loaded⟩
  refine ⟨fun payload => keeps_iff invariant.1 payload, fun stopped index reached round present => ?_⟩
  cases invariant.1 with
  | waiting phase => simp [phase.endTime] at stopped
  | playing phase => simp [phase.endTime] at stopped
  | between phase => simp [phase.endTime] at stopped
  | done phase =>
    have known := phase.played index (List.getElem?_eq_some_iff.mp present).1 round present
    rw [if_pos reached] at known
    exact known

end

/-! Two players are in the first of two rounds. -/

def numeral : Number → String
  | .finite value => toString value.num
  | .infinity _ => "Infinity"
  | .nan => "NaN"

def arrayName (name : String) : Bool := name ∈ ["length", "constructor", "map", "__proto__"]

def bothReady : List Input := [.turn (.playerReady "pete" true), .turn (.playerReady "kate" true)]

def roundPayload (round : Value) : Value := .object [("round", round), ("value", .number (.ofNat 1))]

theorem sample_loaded : deserializeGame (fun _ => 0) GameInvariant.sample.game.state = .ok GameInvariant.sample := rfl

theorem messages_keep_sample :
    Keeps numeral arrayName (run (handle numeral arrayName) GameInvariant.sample bothReady)
        (roundPayload (.number (.ofNat 0))) ∧
      ¬Keeps numeral arrayName (run (handle numeral arrayName) GameInvariant.sample bothReady) .null := by
  have allowed : Permitted (handle numeral arrayName) (Allowed numeral arrayName) GameInvariant.sample bothReady :=
    ⟨trivial, trivial, trivial⟩
  have keeps := (messages_keep sample_loaded allowed).1
  refine ⟨(keeps _).mpr ⟨nofun, nofun, "0", rfl, fun _ _ _ _ => ⟨_, rfl⟩⟩, fun kept => ?_⟩
  exact ((keeps _).mp kept).2.1 rfl

/-- The text "0" finds the open round. The transition is to lead to "01", which is no round, so the game is stopped
in its first round. -/
theorem textRound_derails :
    (answer numeral arrayName (run (handle numeral arrayName) GameInvariant.sample bothReady)
        (roundPayload (.string "0"))).target = some (.string "01") ∧
      named arrayName (run (handle numeral arrayName) GameInvariant.sample bothReady).game.rounds "01" = .missing ∧
      ¬Keeps numeral arrayName (run (handle numeral arrayName) GameInvariant.sample bothReady)
        (roundPayload (.string "0")) := by
  have scheduled : (answer numeral arrayName (run (handle numeral arrayName) GameInvariant.sample bothReady)
      (roundPayload (.string "0"))).target = some (.string "01") := rfl
  refine ⟨scheduled, rfl, fun keeps => ?_⟩
  rcases keeps.effect with unchanged | recorded
  · have idle := unchanged.target
    rw [scheduled] at idle
    cases idle
  · have next := recorded.target
    rw [scheduled] at next
    cases next

end DfStudy.AnswerPayloads
