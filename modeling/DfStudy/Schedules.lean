import DfStudy.Rounds

/-! The schedules every session is created from. -/

namespace DfStudy.Schedules
open Rounds

def button (msLength solution : ℚ) (attack : Option ℚ := none) : RoundData :=
  { name := .button, msLength := some msLength, solution := .number solution, options := some [0, 1, 2], attack }

def tutorialSchedules : List (List RoundData) :=
  [[button 60000 0, button 60000 1, button 60000 2],
    [button 60000 2, button 60000 0, button 60000 1]]

def gameSchedules : List (List RoundData) :=
  [[button 10000 1, button 10000 0, button 10000 2, button 10000 2 (some 0), button 10000 1,
      button 10000 1, button 10000 0, button 10000 1, button 10000 2, button 10000 2,
      button 10000 1 (some 2), button 10000 0, button 10000 2, button 10000 2, button 10000 0,
      button 10000 1, button 10000 2 (some 1), button 10000 2, button 10000 0, button 10000 2],
    [button 10000 1, button 10000 2, button 10000 2, button 10000 0 (some 2), button 10000 2,
      button 10000 0, button 10000 1, button 10000 0, button 10000 2, button 10000 2,
      button 10000 1 (some 0), button 10000 2, button 10000 2, button 10000 2 (some 1), button 10000 2,
      button 10000 1, button 10000 2, button 10000 0, button 10000 2, button 10000 1]]

end DfStudy.Schedules
