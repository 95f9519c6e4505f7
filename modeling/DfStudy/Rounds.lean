import DfStudy.Js

/-! The rounds of a game: the data a schedule gives, the objects a game plays, and how one is answered. -/

namespace DfStudy.Rounds
open Js

inductive RoundName where
  | button
  | wire
  | keypad
  | tutorialButton
  deriving DecidableEq, Repr

inductive Solution where
  | number (value : ℚ)
  | numbers (values : List ℚ)
  deriving DecidableEq, Repr

/-- One entry of a schedule, and one round of a stored game. An absent property is `none`. -/
structure RoundData where
  name : RoundName
  msLength : Option ℚ
  solution : Solution
  options : Option (List ℚ)
  answer : Option Value := none
  startTime : Option Nat := none
  endTime : Option Nat := none
  attack : Option ℚ := none

/-- A round in memory. Every class of round that `createRound` builds is a `ButtonRound`. -/
structure Round where
  name : RoundName
  msLength : ℚ
  solution : ℚ
  options : List ℚ
  answer : Value := .undefined
  startTime : Option Nat := none
  endTime : Option Nat := none

structure Answer where
  round : Number
  value : Value := .undefined

def buttonRound (solution : ℚ) (options : List ℚ) (msLength : Option ℚ) : Round :=
  { name := .button, solution, options, msLength := msLength.getD 5000 }

/-- `isSingleRoundData` is the match: a numeric solution and an array of numeric options. -/
def createButtonRound (data : RoundData) : Except String Round :=
  match data.solution, data.options with
  | .number solution, some options => .ok (buttonRound solution options data.msLength)
  | _, _ => .error "Invalid round data."

def createRound (data : RoundData) : Except String Round :=
  match data.name with
  | .button => createButtonRound data
  | _ => .error "Unknown round name."

def Round.onAnswer (round : Round) (value : Value) (now : Nat) : Round × Int :=
  ({ round with answer := value, endTime := some now },
    if value.equalsNumber round.solution then 1 else -1)

/-- The round as `JSON.stringify` writes it. -/
def Round.json (round : Round) : RoundData where
  name := round.name
  msLength := some round.msLength
  solution := .number round.solution
  options := some round.options
  answer := round.answer.json
  startTime := round.startTime
  endTime := round.endTime

def RoundData.json (data : RoundData) : RoundData :=
  { data with answer := data.answer.bind Value.json }

/-- Neither started nor ended, and without an answer. -/
structure Round.Fresh (round : Round) : Prop where
  startTime : round.startTime = none
  endTime : round.endTime = none
  answer : round.answer = .undefined

theorem Round.json_json (round : Round) : round.json.json = round.json := by
  unfold RoundData.json Round.json
  cases parsed : round.answer.json with
  | none => rfl
  | some value => simp [Value.json_json _ _ parsed]

theorem createRound_spec {data : RoundData} {round : Round} (created : createRound data = .ok round) :
    round.Fresh ∧ round.name = .button := by
  unfold createRound createButtonRound at created
  split at created
  · split at created
    · cases created
      exact ⟨⟨rfl, rfl, rfl⟩, rfl⟩
    · cases created
  · cases created

/-- Reloading a button round keeps what the schedule said and forgets what was played. -/
theorem createRound_json (round : Round) (button : round.name = .button) :
    createRound round.json =
      .ok { round with answer := .undefined, startTime := none, endTime := none } := by
  obtain ⟨name, msLength, solution, options, answer, startTime, endTime⟩ := round
  simp only at button
  subst button
  rfl

theorem onAnswer_status (round : Round) (value : Value) (now : Nat) :
    (round.onAnswer value now).2 ≠ 0 := by
  unfold Round.onAnswer
  dsimp only
  split <;> decide

end DfStudy.Rounds
