import DfStudy.AnswerFinality
import DfStudy.GameEffects

/-! A game read back after a restart. `createRound` rebuilds a round from its schedule fields, so what
was played in it is gone, and `resumeGame` enters the current round again. -/

namespace DfStudy.GameRestart
open Rounds Games GameFrames GameControl GameInvariant GameEffects LoadedGame AnswerFinality Support.Machine LiveGame
open ServerFrames (reread deserializeGame_ok)

/-- What a restart has to keep of one round. An open round may be stamped again. -/
structure RoundSurvives (round reloaded : Round) : Prop where
  name : reloaded.name = round.name
  solution : reloaded.solution = round.solution
  options : reloaded.options = round.options
  msLength : reloaded.msLength = round.msLength
  answer : reloaded.answer = round.answer
  startTime : reloaded.startTime = round.startTime ∨
    round.startTime.isSome ∧ round.endTime = none ∧ reloaded.startTime.isSome
  endTime : reloaded.endTime = round.endTime

structure Survives (game reloaded : Game) : Prop where
  gameId : reloaded.gameId = game.gameId
  players : reloaded.players = game.players
  currentRound : reloaded.currentRound = game.currentRound
  startTime : reloaded.startTime = game.startTime
  endTime : reloaded.endTime = game.endTime
  count : reloaded.rounds.length = game.rounds.length
  rounds : ∀ (index : Nat) (round later : Round), game.rounds[index]? = some round → reloaded.rounds[index]? = some later →
    RoundSurvives round later

def forgotten (round : Round) : Round :=
  { round with answer := .undefined, startTime := none, endTime := none }

/-- The game before it is resumed. -/
def reloaded (clock : Nat → Nat) (game : Game) : LiveGame where
  game := { game with rounds := game.rounds.map forgotten, endTime := none, cbMap := {} }
  clock := clock

def Buttons (s : LiveGame) : Prop := ∀ round ∈ s.game.rounds, round.name = .button

/-- The current round is open, and the other ones are as `createRound` makes them. -/
structure Unplayed (game : Game) : Prop where
  current : ∃ round, game.rounds[game.currentRound]? = some round ∧ Round.Open round
  others : ∀ index ≠ game.currentRound, ∀ round, game.rounds[index]? = some round → round.Fresh

theorem state_json (game : Game) : game.state.json = game.state := by
  have rounds : game.rounds.map (RoundData.json ∘ Round.json) = game.rounds.map Round.json :=
    List.map_congr_left fun round _ => round.json_json
  simp [GameData.json, Game.state, rounds]

theorem forgotten_fresh {round : Round} (fresh : round.Fresh) : forgotten round = round := by
  obtain ⟨name, msLength, solution, options, answer, startTime, endTime⟩ := round
  obtain ⟨startTime, endTime, answer⟩ := fresh
  simp only at startTime endTime answer
  simp [forgotten, startTime, endTime, answer]

theorem mapM_createRound {rounds : List Round} (buttons : ∀ round ∈ rounds, round.name = .button) :
    (rounds.map Round.json).mapM createRound = .ok (rounds.map forgotten) := by
  induction rounds with
  | nil => rfl
  | cons round rounds ih =>
    have first := createRound_json round (buttons round (List.mem_cons_self ..))
    have rest := ih fun later member => buttons later (List.mem_cons_of_mem _ member)
    rw [List.map_cons, List.mapM_cons, first, rest]
    rfl

theorem deserializeGame_state (clock : Nat → Nat) {game : Game}
    (buttons : ∀ round ∈ game.rounds, round.name = .button) :
    deserializeGame clock game.state.json = .ok (resumeGame (reloaded clock game)) := by
  unfold deserializeGame
  rw [state_json]
  simp only [Game.state]
  rw [mapM_createRound buttons]
  rfl

theorem buttons_of_names {s s' : LiveGame} (names : s'.game.rounds.map (·.name) = s.game.rounds.map (·.name))
    (buttons : Buttons s) : Buttons s' := by
  intro round member
  have listed : round.name ∈ s.game.rounds.map (·.name) := names ▸ List.mem_map_of_mem member
  obtain ⟨old, present, same⟩ := List.mem_map.mp listed
  rw [← same]
  exact buttons old present

theorem buttons_origin {origin : LiveGame} (begun : Origin origin) : Buttons origin := by
  cases begun with
  | constructed fresh =>
    obtain ⟨schedule, created⟩ := fresh.rounds
    exact fun round member => (fresh_rounds created round member).2
  | @loaded clock data s loaded =>
    obtain ⟨rounds, created, rfl⟩ := deserializeGame_ok loaded
    have buttons : Buttons (reread clock data rounds) := fun round member => (fresh_rounds created round member).2
    exact buttons_of_names (extends_resumeGame _).alike.names buttons

theorem buttons_turn {s : LiveGame} (buttons : Buttons s) (next : Turn) : Buttons (turn s next) := by
  cases next with
  | action action => exact buttons_of_names (extends_step s action).alike.names buttons
  | listen listener => cases listener <;> exact buttons

/-- No round of a reloaded game has ended, resumed or not. -/
theorem resumed_running (clock : Nat → Nat) (game : Game) :
    ∀ round ∈ (resumeGame (reloaded clock game)).game.rounds, round.endTime = none := by
  have forgets : ∀ round ∈ (reloaded clock game).game.rounds, round.endTime = none := by
    intro round member
    obtain ⟨old, _, rfl⟩ := List.mem_map.mp member
    rfl
  unfold resumeGame
  by_cases started : (reloaded clock game).game.startTime.isSome
  · rw [if_pos started]
    cases found : (reloaded clock game).game.rounds[(reloaded clock game).game.currentRound]? with
    | none =>
      rw [gotoRound_past _ _ found, stop_eq]
      exact forgets
    | some roundObj =>
      rw [gotoRound_enters _ _ roundObj found]
      intro round member
      rcases List.mem_or_eq_of_mem_set member with kept | rfl
      · exact forgets round kept
      · exact forgets roundObj (List.mem_of_getElem? found)
  · rw [if_neg started]
    exact forgets

theorem lost_of_ended {clock : Nat → Nat} {game : Game} {index : Nat} {round : Round}
    (present : game.rounds[index]? = some round) (hasEnded : round.endTime.isSome) :
    ¬Survives game (resumeGame (reloaded clock game)).game := by
  intro survives
  have bound := (List.getElem?_eq_some_iff.mp present).1
  rw [← survives.count] at bound
  have later := List.getElem?_eq_getElem bound
  have kept := survives.rounds index round _ present later
  rw [← kept.endTime, resumed_running clock game _ (List.getElem_mem bound)] at hasEnded
  cases hasEnded

theorem resumed_started (clock : Nat → Nat) {game : Game} (started : game.startTime.isSome) :
    resumeGame (reloaded clock game) = ((reloaded clock game).gotoRound game.currentRound).1 :=
  if_pos started

/-- A reloaded game has no `endTime`, unless it is stopped again. -/
theorem resumed_endTime (clock : Nat → Nat) (game : Game) :
    (resumeGame (reloaded clock game)).game.endTime = none ∨
      (resumeGame (reloaded clock game)).game.endTime = some (clock 0) := by
  unfold resumeGame
  split
  next =>
    cases found : (reloaded clock game).game.rounds[(reloaded clock game).game.currentRound]? with
    | none =>
      rw [gotoRound_past _ _ found, stop_eq]
      exact .inr rfl
    | some roundObj =>
      rw [gotoRound_enters _ _ roundObj found]
      exact .inl rfl
  next => exact .inl rfl

/-- A stopped game is stopped again, at another time, if at all. -/
theorem lost_of_stopped {game : Game} (stopped : game.endTime.isSome) :
    ¬Survives game (resumeGame (reloaded (fun _ => game.endTime.getD 0 + 1) game)).game := by
  intro survives
  obtain ⟨stoppedAt, hasEnded⟩ := Option.isSome_iff_exists.mp stopped
  have same := survives.endTime
  rcases resumed_endTime (fun _ => game.endTime.getD 0 + 1) game with never | again
  · rw [never, hasEnded] at same
    cases same
  · rw [again, hasEnded, Option.getD_some, Option.some.injEq] at same
    omega

theorem roundSurvives_refl (round : Round) : RoundSurvives round round :=
  ⟨rfl, rfl, rfl, rfl, rfl, .inl rfl, rfl⟩

/-- A round that has not been played is read back as it was. -/
theorem forgotten_unplayed {rounds : List Round} {index : Nat}
    (unplayed : ∀ round, rounds[index]? = some round → round.Fresh) : (rounds.map forgotten)[index]? = rounds[index]? := by
  rw [List.getElem?_map]
  cases present : rounds[index]? with
  | none => rfl
  | some round => simp [forgotten_fresh (unplayed round present)]

theorem waiting_survives (clock : Nat → Nat) {base : Nat} {s : LiveGame} (phase : Waiting base s) :
    Survives s.game (resumeGame (reloaded clock s.game)).game := by
  have waits : resumeGame (reloaded clock s.game) = reloaded clock s.game := by
    unfold resumeGame
    rw [if_neg (by simp [reloaded, phase.startTime])]
  rw [waits]
  refine ⟨rfl, rfl, rfl, rfl, phase.endTime.symm, List.length_map .., ?_⟩
  intro index round later present kept
  change (s.game.rounds.map forgotten)[index]? = some later at kept
  rw [forgotten_unplayed (phase.untouched index (Nat.zero_le _)), present] at kept
  cases kept
  exact roundSurvives_refl round

/-- The current round is entered again, and nothing else has been played. -/
theorem playing_survives (clock : Nat → Nat) {base : Nat} {s : LiveGame} (phase : Playing base s)
    (others : ∀ index ≠ s.game.currentRound, ∀ round, s.game.rounds[index]? = some round → round.Fresh) :
    Survives s.game (resumeGame (reloaded clock s.game)).game := by
  obtain ⟨roundObj, present, ⟨started, running⟩, unanswered⟩ := phase.current
  have found : (reloaded clock s.game).game.rounds[s.game.currentRound]? = some (forgotten roundObj) := by
    simp [reloaded, present]
  rw [resumed_started clock phase.startTime, gotoRound_enters _ _ _ found]
  refine ⟨rfl, rfl, rfl, rfl, phase.endTime.symm, ?_, ?_⟩
  · simp [scheduleTimer, LiveGame.setTimeout, LiveGame.clearTimeout, spawning, adding, entered, reloaded]
  · intro index round later here kept
    change ((s.game.rounds.map forgotten).set s.game.currentRound _)[index]? = some later at kept
    by_cases current : index = s.game.currentRound
    · subst current
      cases Option.some.inj (present.symm.trans here)
      have bound : s.game.currentRound < (s.game.rounds.map forgotten).length := (List.getElem?_eq_some_iff.mp found).1
      rw [List.getElem?_set_self bound] at kept
      cases kept
      exact ⟨rfl, rfl, rfl, rfl, unanswered.symm, .inr ⟨started, running, rfl⟩, running.symm⟩
    · rw [List.getElem?_set_ne (Ne.symm current), forgotten_unplayed (others index current), here] at kept
      cases kept
      exact roundSurvives_refl round

/-- A round that has been played since the game was loaded has ended. -/
theorem lost_of_played {clock : Nat → Nat} {base count index : Nat} {game : Game} {round : Round}
    (played : PlayedSince base game.rounds count) (reached : base ≤ index) (below : index < count)
    (present : game.rounds[index]? = some round) : ¬Survives game (resumeGame (reloaded clock game)).game := by
  have known := played index below round present
  rw [if_pos reached] at known
  exact lost_of_ended present known.2

/-- What survives of a game that runs, whatever the clock says when it is read back. -/
theorem unplayed_of_survives {base : Nat} {s : LiveGame} (turning : Turning base s)
    (survives : ∀ clock, Survives s.game (resumeGame (reloaded clock s.game)).game) :
    s.game.startTime = none ∨ Unplayed s.game := by
  cases turning with
  | waiting phase => exact .inl phase.startTime
  | playing phase =>
    obtain ⟨roundObj, present, running, -⟩ := phase.current
    refine .inr ⟨⟨roundObj, present, running⟩, fun index elsewhere round there => ?_⟩
    rcases Nat.lt_or_gt_of_ne elsewhere with below | above
    · by_cases reached : base ≤ index
      · exact absurd (survives fun _ => 0) (lost_of_played phase.played reached below there)
      · have known := phase.played index below round there
        rwa [if_neg reached] at known
    · exact phase.untouched index above round there
  | between phase =>
    have present := List.getElem?_eq_getElem phase.current
    exact absurd (survives fun _ => 0) (lost_of_played phase.played phase.reached (Nat.lt_succ_self _) present)
  | done phase => exact absurd (survives _) (lost_of_stopped phase.endTime)

/-- A game, be it new or resumed, survives a restart just when it has not started, or only its current round has been
played since it was made or loaded, and is still open. -/
theorem survives_iff_unplayed {origin : LiveGame} (begun : Origin origin) (turns : List Turn) :
    (∀ clock, ∃ resumed, deserializeGame clock (run turn origin turns).game.state.json = .ok resumed ∧
        Survives (run turn origin turns).game resumed.game) ↔
      (run turn origin turns).game.startTime = none ∨ Unplayed (run turn origin turns).game := by
  obtain ⟨⟨⟨base, turning⟩, -⟩, buttons⟩ : Reached (run turn origin turns) ∧ Buttons (run turn origin turns) :=
    run_invariant (fun s => Reached s ∧ Buttons s)
      (fun _ next held => ⟨reached_turn next held.1, buttons_turn held.2 next⟩) turns
      ⟨begun.reached, buttons_origin begun⟩
  generalize run turn origin turns = s' at turning buttons
  have reads : (∀ clock, ∃ resumed, deserializeGame clock s'.game.state.json = .ok resumed ∧
      Survives s'.game resumed.game) ↔ ∀ clock, Survives s'.game (resumeGame (reloaded clock s'.game)).game := by
    simp only [deserializeGame_state _ buttons]
    simp
  rw [reads]
  constructor
  · exact unplayed_of_survives turning
  · rintro (never | ⟨⟨round, present, running⟩, others⟩) clock
    · cases turning with
      | waiting phase => exact waiting_survives clock phase
      | playing phase => exact absurd phase.startTime (by simp [never])
      | between phase => exact absurd phase.startTime (by simp [never])
      | done phase => exact absurd phase.startTime (by simp [never])
    · exact playing_survives clock (turning.open_current present running).1 others

/-- A game survives a restart, whatever the clock then says, just when nothing has been played in it yet:
it has not started, or its first round is still open. -/
theorem survives_iff (s : LiveGame) (fresh : Fresh s) (actions : List Action) :
    (∀ clock, ∃ resumed, deserializeGame clock (run step s actions).game.state.json = .ok resumed ∧
        Survives (run step s actions).game resumed.game) ↔
      (run step s actions).game.startTime = none ∨
        (run step s actions).game.currentRound = 0 ∧
          ∃ round, (run step s actions).game.rounds[0]? = some round ∧ round.startTime.isSome ∧
            round.endTime = none := by
  rw [← run_actions, survives_iff_unplayed (.constructed fresh), run_actions]
  have phase := phase_of_fresh fresh actions
  generalize run step s actions = s' at phase
  constructor
  · rintro (never | ⟨⟨round, present, started, running⟩, others⟩)
    · exact .inl never
    · have opened := (open_of_phase phase present started running).1
      by_cases first : s'.game.currentRound = 0
      · exact .inr ⟨first, round, first ▸ present, started, running⟩
      · have bound := (List.getElem?_eq_some_iff.mp present).1
        have earlier := List.getElem?_eq_getElem (l := s'.game.rounds) (i := 0) (by omega)
        have hasEnded := (opened.played 0 (by omega) _ earlier).2
        simp [(others 0 (Ne.symm first) _ earlier).endTime] at hasEnded
  · rintro (never | ⟨first, round, present, started, running⟩)
    · exact .inl never
    · have opened := (open_of_phase phase present started running).1
      refine .inr ⟨⟨round, first.symm ▸ present, started, running⟩, fun index elsewhere other there => ?_⟩
      exact opened.untouched index (by omega) other there

/-- Pete has answered round 0 of the running sample game. -/
def answeredRun : List Action := sampleRun.take 3

theorem answeredRun_lost :
    ¬∀ clock, ∃ resumed, deserializeGame clock (run step sample answeredRun).game.state.json = .ok resumed ∧
      Survives (run step sample answeredRun).game resumed.game := by
  intro survives
  obtain ⟨resumed, read, kept⟩ := survives fun _ => 0
  have buttons : Buttons (run step sample answeredRun) :=
    run_invariant Buttons (fun _ action held => buttons_turn held (.action action)) answeredRun
      (buttons_origin (.constructed sample_fresh))
  rw [deserializeGame_state _ buttons] at read
  cases read
  have hasEnded : ∃ round, (run step sample answeredRun).game.rounds[0]? = some round ∧ round.endTime.isSome :=
    ⟨_, rfl, rfl⟩
  obtain ⟨round, present, ended⟩ := hasEnded
  exact lost_of_ended present ended kept

theorem survives_iff_sample : ∃ resumed,
    deserializeGame (fun _ => 0) (run step sample (sampleRun.take 2)).game.state.json = .ok resumed ∧
      Survives (run step sample (sampleRun.take 2)).game resumed.game :=
  (survives_iff sample sample_fresh (sampleRun.take 2)).mpr (.inr ⟨rfl, _, rfl, rfl, rfl⟩) _

end DfStudy.GameRestart
