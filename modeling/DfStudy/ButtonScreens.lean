import DfStudy.Rounds
import DfStudy.Support.Guards
import Mathlib.Data.List.Nodup

/-! What the two players see of a button round: the blue one a question with its labels beside colours, the red one a
button of each colour. -/

namespace DfStudy.ButtonScreens
open Js Rounds Support.Guards

structure Equation where
  label : String
  options : List String
  answer : String
  deriving Repr

def colorMap : List String := ["red", "blue", "green"]

/-- A rendered `BombButton`, with the answer a click on it hands on. -/
structure BombButton where
  color : String
  text : String
  onClick : Option Answer

/-- `colorMap[option]`. -/
def colorOf (option : ℚ) : Option String := (Number.finite option).index.bind (colorMap[·]?)

def bombButton (onPress : ℚ → Option Answer) (option : ℚ) : Except String BombButton :=
  match colorOf option with
  | none => .error "Cannot read properties of undefined (reading 'toUpperCase')"
  | some color => .ok { color, text := color.toUpper, onClick := onPress option }

/-! The instructions. -/

/-- A slot of an array of labels. -/
inductive Slot where
  | label (text : String)
  | undefined
  | hole
  deriving DecidableEq, Repr

/-- `options[index]`. The index is `none` where the key names no slot: `-1`, or a fraction. -/
def readSlot (options : List Slot) (index : Option Nat) : Slot :=
  match index.bind (options[·]?) with
  | some (.label text) => .label text
  | _ => .undefined

/-- `options[index] = slot`. -/
def writeSlot (options : List Slot) (index : Option Nat) (slot : Slot) : List Slot :=
  match index with
  | none => options
  | some index =>
    if index < options.length then options.set index slot
    else options ++ List.replicate (index - options.length) .hole ++ [slot]

/-- `roundData.solution as number` as a property key: an array of one number is read as that number. -/
def solutionIndex : Solution → Option Nat
  | .number solution => (Number.finite solution).index
  | .numbers [solution] => (Number.finite solution).index
  | .numbers _ => none

/-- The options, with the answer in the place the round has its solution in. -/
def placedOptions (equation : Equation) (roundData : RoundData) : List Slot :=
  let options := equation.options.map Slot.label
  let eqAnswerIndex := equation.options.findIdx? (· = equation.answer)
  let solutionIndex := solutionIndex roundData.solution
  let temp := readSlot options eqAnswerIndex
  let options := writeSlot options eqAnswerIndex (readSlot options solutionIndex)
  writeSlot options solutionIndex temp

/-- A label that is `undefined` is shown as nothing. -/
structure ButtonSolution where
  label : Option String
  button : BombButton

def buttonSolution (label : Option String) (value : Nat) : Except String ButtonSolution := do
  let button ← bombButton (fun _ => none) value
  return { label, button }

/-- `options.map`, which passes over the holes. -/
def labelled (options : List Slot) : List (Option String × Nat) :=
  options.zipIdx.filterMap fun (slot, indx) =>
    match slot with
    | .label text => some (some text, indx)
    | .undefined => some (none, indx)
    | .hole => none

structure EqInstructions where
  label : String
  solutions : List ButtonSolution

def eqInstructions (equation : Equation) (roundData : RoundData) : Except String EqInstructions := do
  let solutions ← (labelled (placedOptions equation roundData)).mapM fun (label, indx) => buttonSolution label indx
  return { label := equation.label, solutions }

/-! The two screens. -/

inductive ButtonRound where
  | blue (instructions : EqInstructions)
  | red (buttons : List BombButton)

/-- A component that throws while it renders leaves nothing on the screen. The equation is the one `getEquation` gives. -/
def buttonRound (round : Nat) (roundData : RoundData) (equation : Equation) (isBlue : Bool) : Except String ButtonRound :=
  if isBlue then .blue <$> eqInstructions equation roundData
  else
    match roundData.options with
    | none => .error "Cannot read properties of undefined (reading 'map')"
    | some options =>
      let onButtonPress := fun value => some { round := .ofNat round, value := .number (.finite value) : Answer }
      .red <$> options.mapM fun option => bombButton onButtonPress option

/-! Colours. -/

theorem colorOf_nat (index : Nat) : colorOf index = colorMap[index]? := by
  unfold colorOf
  rw [show Number.finite (index : ℚ) = .ofNat index from rfl, Number.index_ofNat]
  rfl

theorem colorOf_some {option : ℚ} {color : String} (found : colorOf option = some color) :
    ∃ index : Nat, option = (index : ℚ) ∧ colorMap[index]? = some color := by
  obtain ⟨index, named, colored⟩ := Option.bind_eq_some_iff.mp found
  exact ⟨index, Number.finite.inj (Number.of_index named), colored⟩

theorem colorMap_nodup : colorMap.Nodup := by decide

/-- No two options have one colour. -/
theorem colorOf_inj {first second : ℚ} {color : String} (one : colorOf first = some color)
    (other : colorOf second = some color) : first = second := by
  obtain ⟨i, rfl, colored⟩ := colorOf_some one
  obtain ⟨j, rfl, colored'⟩ := colorOf_some other
  obtain ⟨below, here⟩ := List.getElem?_eq_some_iff.mp colored
  obtain ⟨below', here'⟩ := List.getElem?_eq_some_iff.mp colored'
  rw [(colorMap_nodup.getElem_inj_iff).mp (here.trans here'.symm)]

/-- The button as it looks where its option has a colour. -/
def shownButton (onPress : ℚ → Option Answer) (option : ℚ) : BombButton :=
  { color := (colorOf option).getD "", text := ((colorOf option).getD "").toUpper, onClick := onPress option }

theorem bombButton_shown {option : ℚ} (onPress : ℚ → Option Answer) (colored : (colorOf option).isSome) :
    bombButton onPress option = .ok (shownButton onPress option) := by
  obtain ⟨color, found⟩ := Option.isSome_iff_exists.mp colored
  unfold bombButton shownButton
  rw [found]
  rfl

theorem colored_of_bombButton {onPress : ℚ → Option Answer} {option : ℚ} {button : BombButton}
    (rendered : bombButton onPress option = .ok button) : (colorOf option).isSome := by
  unfold bombButton at rendered
  split at rendered
  next => cases rendered
  next color found =>
    rw [found]
    rfl

theorem shownButton_color {onPress onPress' : ℚ → Option Answer} {first second : ℚ} (one : (colorOf first).isSome)
    (other : (colorOf second).isSome) (same : (shownButton onPress first).color = (shownButton onPress' second).color) :
    first = second := by
  obtain ⟨color, found⟩ := Option.isSome_iff_exists.mp one
  obtain ⟨color', found'⟩ := Option.isSome_iff_exists.mp other
  unfold shownButton at same
  rw [found, found'] at same
  exact colorOf_inj found (found'.trans (congrArg some same.symm))

/-! The labels. -/

/-- The two places of a list have changed their items. -/
def swapped (options : List String) (i j : Nat) (first : i < options.length) (second : j < options.length) : List String :=
  (options.set i options[j]).set j options[i]

theorem readSlot_label {options : List String} {index : Nat} (below : index < options.length) :
    readSlot (options.map Slot.label) (some index) = .label options[index] := by
  simp [readSlot, below]

theorem writeSlot_label {options : List String} {index : Nat} (below : index < options.length) (text : String) :
    writeSlot (options.map Slot.label) (some index) (.label text) = (options.set index text).map Slot.label := by
  have bound : index < (options.map Slot.label).length := by rwa [List.length_map]
  unfold writeSlot
  dsimp only
  rw [if_pos bound, List.map_set]

theorem labelled_map (options : List String) :
    labelled (options.map Slot.label) = options.zipIdx.map fun (text, indx) => (some text, indx) := by
  unfold labelled
  rw [List.zipIdx_map, List.filterMap_map, ← List.filterMap_eq_map]
  rfl

section
variable {equation : Equation} {roundData : RoundData} {i solution : Nat}

theorem placedOptions_swapped (answer : equation.options.findIdx? (· = equation.answer) = some i)
    (first : i < equation.options.length) (index : solutionIndex roundData.solution = some solution)
    (second : solution < equation.options.length) :
    placedOptions equation roundData = (swapped equation.options i solution first second).map Slot.label := by
  have bound : solution < (equation.options.set i equation.options[solution]).length := by rwa [List.length_set]
  unfold placedOptions
  dsimp only
  rw [answer, index, readSlot_label first, readSlot_label second, writeSlot_label first, writeSlot_label bound]
  rfl

end

theorem swapped_perm {options : List String} {i j : Nat} (first : i < options.length) (second : j < options.length) :
    (swapped options i j first second).Perm options := List.set_set_perm first second

/-- The answer stands where the round has its solution, and nowhere else. -/
theorem swapped_answer {options : List String} {i j : Nat} {answer : String} (distinct : options.Nodup)
    (first : i < options.length) (second : j < options.length) (found : options[i] = answer) {place : Nat}
    {text : String} (present : (swapped options i j first second)[place]? = some text) : text = answer ↔ place = j := by
  have unique : (swapped options i j first second).Nodup := (swapped_perm first second).nodup_iff.mpr distinct
  have length : (swapped options i j first second).length = options.length := (swapped_perm first second).length_eq
  have bound : j < (swapped options i j first second).length := by rwa [length]
  have there : (swapped options i j first second)[j] = answer := (List.getElem_set_self _).trans found
  obtain ⟨below, rfl⟩ := List.getElem?_eq_some_iff.mp present
  rw [← there]
  exact unique.getElem_inj_iff

/-! Rendering. -/

def shownSolution (entry : Option String × Nat) : ButtonSolution :=
  { label := entry.1, button := shownButton (fun _ => none) entry.2 }

theorem buttonSolution_shown {label : Option String} {indx : Nat} (colored : (colorOf indx).isSome) :
    buttonSolution label indx = .ok (shownSolution (label, indx)) := by
  unfold buttonSolution
  rw [bombButton_shown _ colored]
  rfl

theorem colored_of_buttonSolution {label : Option String} {indx : Nat} {shown : ButtonSolution}
    (rendered : buttonSolution label indx = .ok shown) : (colorOf indx).isSome := by
  obtain ⟨button, made, -⟩ := of_bind_ok rendered
  exact colored_of_bombButton made

theorem colored_nat {indx : Nat} : (colorOf indx).isSome ↔ indx < colorMap.length := by
  rw [colorOf_nat, isSome_getElem?]

/-- Labels are shown if there are no more of them than colours. -/
theorem eqInstructions_shown {equation : Equation} {roundData : RoundData} {options : List String}
    (placed : placedOptions equation roundData = options.map Slot.label) (few : options.length ≤ colorMap.length) :
    eqInstructions equation roundData =
      .ok { label := equation.label, solutions := (options.zipIdx.map fun (text, indx) => (some text, indx)).map shownSolution } := by
  have colored : ∀ entry ∈ options.zipIdx.map (fun (text, indx) => (some text, indx)),
      buttonSolution entry.1 entry.2 = .ok (shownSolution entry) := by
    rintro entry member
    obtain ⟨⟨text, indx⟩, listed, rfl⟩ := List.mem_map.mp member
    have below := (List.mem_zipIdx' listed).1
    exact buttonSolution_shown (colored_nat.mpr (below.trans_le few))
  unfold eqInstructions
  rw [placed, labelled_map, mapM_map colored]
  rfl

theorem few_of_eqInstructions {equation : Equation} {roundData : RoundData} {options : List String}
    (placed : placedOptions equation roundData = options.map Slot.label) {instructions : EqInstructions}
    (rendered : eqInstructions equation roundData = .ok instructions) : options.length ≤ colorMap.length := by
  obtain ⟨solutions, made, -⟩ := of_bind_ok rendered
  rw [placed, labelled_map] at made
  by_contra many
  have below : colorMap.length < options.length := Nat.lt_of_not_le many
  have listed : (some options[colorMap.length], colorMap.length) ∈
      options.zipIdx.map fun (text, indx) => (some text, indx) :=
    List.mem_map_of_mem (f := fun (text, indx) => (some text, indx))
      (List.mk_mem_zipIdx_iff_getElem?.mpr (List.getElem?_eq_getElem below))
  obtain ⟨shown, single⟩ := mapM_returns made _ listed
  exact absurd (colored_nat.mp (colored_of_buttonSolution single)) (lt_irrefl _)

/-- What the red player's client sends. -/
def onButtonPress (round : Nat) (value : ℚ) : Option Answer := some { round := .ofNat round, value := .number (.finite value) }

theorem red_shown {round : Nat} {roundObj : Round} {equation : Equation}
    (colored : ∀ option ∈ roundObj.options, (colorOf option).isSome) :
    buttonRound round roundObj.json.json equation false =
      .ok (.red (roundObj.options.map (shownButton (onButtonPress round)))) := by
  have shown : roundObj.options.mapM (bombButton (onButtonPress round)) =
      .ok (roundObj.options.map (shownButton (onButtonPress round))) :=
    mapM_map fun option member => bombButton_shown _ (colored option member)
  change ButtonRound.red <$> roundObj.options.mapM (bombButton (onButtonPress round)) = _
  rw [shown]
  rfl

theorem colored_of_red {round : Nat} {roundObj : Round} {equation : Equation} {buttons : List BombButton}
    (rendered : buttonRound round roundObj.json.json equation false = .ok (.red buttons)) :
    ∀ option ∈ roundObj.options, (colorOf option).isSome := by
  change ButtonRound.red <$> roundObj.options.mapM (bombButton (onButtonPress round)) = _ at rendered
  cases made : roundObj.options.mapM (bombButton (onButtonPress round)) with
  | error message =>
    rw [made] at rendered
    cases rendered
  | ok buttons =>
    intro option member
    obtain ⟨button, single⟩ := mapM_returns made option member
    exact colored_of_bombButton single

/-- The blue screen shows the labels of a list beside the colours of their places. -/
theorem blue_shown {round : Nat} {roundObj : Round} {equation : Equation} {options : List String}
    (placed : placedOptions equation roundObj.json.json = options.map Slot.label) {instructions : EqInstructions}
    (rendered : buttonRound round roundObj.json.json equation true = .ok (.blue instructions)) :
    options.length ≤ colorMap.length ∧
      instructions.solutions = (options.zipIdx.map fun (text, indx) => (some text, indx)).map shownSolution := by
  change ButtonRound.blue <$> eqInstructions equation roundObj.json.json = _ at rendered
  cases made : eqInstructions equation roundObj.json.json with
  | error message =>
    rw [made] at rendered
    cases rendered
  | ok shown =>
    rw [made] at rendered
    cases rendered
    have few := few_of_eqInstructions placed made
    rw [eqInstructions_shown placed few] at made
    exact ⟨few, by rw [← Except.ok.inj made]⟩

theorem onAnswer_number (roundObj : Round) (option : ℚ) (now : Nat) :
    (roundObj.onAnswer (.number (.finite option)) now).2 = if option = roundObj.solution then 1 else -1 := by
  unfold Round.onAnswer Value.equalsNumber
  simp only [decide_eq_true_eq]

theorem mem_shown {options : List String} {shown : ButtonSolution} :
    shown ∈ (options.zipIdx.map fun (text, indx) => (some text, indx)).map shownSolution ↔
      ∃ text indx, options[indx]? = some text ∧ shown = shownSolution (some text, indx) := by
  constructor
  · intro member
    obtain ⟨entry, listed, rfl⟩ := List.mem_map.mp member
    obtain ⟨⟨text, indx⟩, present, rfl⟩ := List.mem_map.mp listed
    exact ⟨text, indx, List.mk_mem_zipIdx_iff_getElem?.mp present, rfl⟩
  · rintro ⟨text, indx, present, rfl⟩
    exact List.mem_map_of_mem (List.mem_map_of_mem (f := fun (text, indx) => (some text, indx))
      (List.mk_mem_zipIdx_iff_getElem?.mpr present))

theorem labels_shown (options : List String) :
    ((options.zipIdx.map fun (text, indx) => (some text, indx)).map shownSolution).map (·.label) = options.map some := by
  conv => rhs; rw [← List.zipIdx_map_fst 0 options]
  rw [List.map_map, List.map_map, List.map_map]
  rfl

/-- Both screens are shown where there are colours for all labels and all buttons, and otherwise nothing is. Then the
button whose colour stands beside the answer is there and wins, and one whose colour stands beside another label loses. -/
theorem instructions_win (equation : Equation) (round : Nat) (roundObj : Round) (solution now : Nat)
    (distinct : equation.options.Nodup) (contains : equation.answer ∈ equation.options)
    (solved : roundObj.solution = solution) (index : solution < equation.options.length)
    (offered : roundObj.solution ∈ roundObj.options) :
    ((∃ instructions, buttonRound round roundObj.json.json equation true = .ok (.blue instructions)) ↔
        equation.options.length ≤ colorMap.length) ∧
      ((∃ buttons, buttonRound round roundObj.json.json equation false = .ok (.red buttons)) ↔
        ∀ option ∈ roundObj.options, (colorOf option).isSome) ∧
      ∀ instructions buttons, buttonRound round roundObj.json.json equation true = .ok (.blue instructions) →
        buttonRound round roundObj.json.json equation false = .ok (.red buttons) →
        (instructions.solutions.map (·.label)).Perm (equation.options.map some) ∧
          (∃ shown ∈ instructions.solutions, shown.label = some equation.answer ∧
            ∃ button ∈ buttons, button.color = shown.button.color) ∧
          ∀ shown ∈ instructions.solutions, ∀ button ∈ buttons, button.color = shown.button.color →
            ∃ answer value, button.onClick = some answer ∧ answer.round = .ofNat round ∧ answer.value.json = some value ∧
              (roundObj.onAnswer value now).2 = if shown.label = some equation.answer then 1 else -1 := by
  have known : (equation.options.findIdx? (· = equation.answer)).isSome := by
    rw [List.findIdx?_isSome, List.any_eq_true]
    exact ⟨equation.answer, contains, decide_eq_true rfl⟩
  obtain ⟨i, answer⟩ := Option.isSome_iff_exists.mp known
  obtain ⟨first, found, -⟩ := List.findIdx?_eq_some_iff_getElem.mp answer
  have key : solutionIndex roundObj.json.json.solution = some solution := by
    change (Number.finite roundObj.solution).index = _
    rw [solved]
    exact Number.index_ofNat solution
  have placed := placedOptions_swapped answer first key index
  have length := (swapped_perm first index).length_eq
  refine ⟨⟨?_, ?_⟩, ⟨?_, ?_⟩, ?_⟩
  · rintro ⟨instructions, rendered⟩
    exact length ▸ (blue_shown placed rendered).1
  · intro few
    have made := eqInstructions_shown placed (length.trans_le few)
    exact ⟨_, congrArg (ButtonRound.blue <$> ·) made⟩
  · rintro ⟨buttons, rendered⟩
    exact colored_of_red rendered
  · exact fun colored => ⟨_, red_shown colored⟩
  · intro instructions buttons blue red
    obtain ⟨few, solutions⟩ := blue_shown placed blue
    have colored := colored_of_red red
    have pressed : buttons = roundObj.options.map (shownButton (onButtonPress round)) := by
      rw [red_shown colored] at red
      cases red
      rfl
    have stands {text : String} {indx : Nat}
        (present : (swapped equation.options i solution first index)[indx]? = some text) :
        text = equation.answer ↔ indx = solution :=
      swapped_answer distinct first index (of_decide_eq_true found) present
    rw [solutions, pressed]
    refine ⟨?_, ?_, ?_⟩
    · rw [labels_shown]
      exact (swapped_perm first index).map some
    · have bound : solution < (swapped equation.options i solution first index).length := length.symm ▸ index
      have there := List.getElem?_eq_getElem bound
      refine ⟨shownSolution (some equation.answer, solution), mem_shown.mpr ⟨equation.answer, solution, ?_, rfl⟩, rfl,
        shownButton (onButtonPress round) roundObj.solution, List.mem_map_of_mem offered, ?_⟩
      · rw [there, (stands there).mpr rfl]
      · rw [solved]
        rfl
    · intro shown listed button member same
      obtain ⟨text, indx, present, rfl⟩ := mem_shown.mp listed
      obtain ⟨option, offered', rfl⟩ := List.mem_map.mp member
      have below : indx < colorMap.length :=
        ((List.getElem?_eq_some_iff.mp present).1.trans_le few)
      have equal : option = indx := shownButton_color (colored option offered') (colored_nat.mpr below) same
      refine ⟨_, _, rfl, rfl, rfl, ?_⟩
      rw [onAnswer_number, equal, solved]
      have agree : ((indx : ℚ) = solution) = ((shownSolution (some text, indx)).label = some equation.answer) := by
        rw [Rat.natCast_inj, ← stands present]
        exact (Option.some.injEq _ _).symm
      simp only [agree]

def capital : Equation :=
  { label := "What is the capital city of England?", options := ["London", "Shenzhen", "Venice"], answer := "London" }

/-- With the solution in the last place. -/
theorem instructions_win_sample :
    (∃ instructions, buttonRound 0 (Rounds.buttonRound 2 [0, 1, 2] none).json.json capital true = .ok (.blue instructions)) ∧
      ∃ buttons, buttonRound 0 (Rounds.buttonRound 2 [0, 1, 2] none).json.json capital false = .ok (.red buttons) := by
  obtain ⟨blue, red, -⟩ := instructions_win capital 0 (Rounds.buttonRound 2 [0, 1, 2] none) 2 0 (by decide) (by decide) rfl
    (by decide) (by decide +kernel)
  exact ⟨blue.mpr (by decide), red.mpr (by decide +kernel)⟩

def cities : Equation := { capital with options := ["London", "Shenzhen", "Venice", "Rome"] }

/-- There is no fourth colour, so neither screen is shown. -/
theorem instructions_fail_sample :
    cities.options.Nodup ∧ cities.answer ∈ cities.options ∧ 3 < cities.options.length ∧
      (3 : ℚ) ∈ (Rounds.buttonRound 3 [0, 1, 2, 3] none).options ∧
      (∀ instructions, buttonRound 0 (Rounds.buttonRound 3 [0, 1, 2, 3] none).json.json cities true ≠ .ok (.blue instructions)) ∧
      ∀ buttons, buttonRound 0 (Rounds.buttonRound 3 [0, 1, 2, 3] none).json.json cities false ≠ .ok (.red buttons) := by
  refine ⟨by decide, by decide, by decide, by decide +kernel, ?_, ?_⟩
  · intro instructions rendered
    cases rendered
  · intro buttons rendered
    cases rendered

end DfStudy.ButtonScreens
