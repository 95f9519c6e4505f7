import DfStudy.GameInvariant
import DfStudy.Support.Fairness
import Mathlib.Algebra.BigOperators.Group.List.Basic
import Mathlib.Algebra.Order.BigOperators.Group.List
import Mathlib.Algebra.Order.Ring.Nat
import Mathlib.Algebra.Order.Ring.Rat
import Mathlib.Tactic.NormNum

/-! How long a game lasts. While it runs one timeout is pending, and each that fires uses up a part of what the rounds allow.
So a game that has started ends, as long as timeouts fire. -/

namespace DfStudy.GameDuration
open Rounds Games GameFrames GameControl GameInvariant Support.Machine Support.Fairness LiveGame

/-! What is left of a game, in turns or in milliseconds: `length` of the timer of each round that has still to end, and `pause`
after it. -/

section
variable {M : Type} [AddCommMonoid M] (length : ℚ → M) (pause : M)

def laps (rounds : List Round) : M := (rounds.map fun round => length (delay round.msLength) + pause).sum

theorem delay_nonneg (ms : ℚ) : 0 ≤ delay ms := by
  unfold delay
  split
  next usual =>
    have whole : 0 ≤ ms.floor := Rat.le_floor_iff.mpr (le_trans zero_le_one usual.1)
    exact_mod_cast whole
  next => exact zero_le_one

/-- Whether the current round has ended. -/
def isOver (game : Game) : Bool := game.rounds[game.currentRound]?.any (·.endTime.isSome)

def left (game : Game) : M :=
  if game.endTime.isSome then 0
  else if isOver game then pause + laps length pause (game.rounds.drop (game.currentRound + 1))
  else laps length pause (game.rounds.drop game.currentRound)

def cost (timeout : Timeout) : M :=
  match timeout.callback with
  | .answer _ => length timeout.ms
  | .gotoRound _ => pause

variable {length pause} {s : LiveGame}

theorem map_set_same {β : Type} {f : Round → β} {rounds : List Round} {index : Nat} {round later : Round}
    (present : rounds[index]? = some round) (same : f later = f round) : (rounds.set index later).map f = rounds.map f := by
  obtain ⟨bound, here⟩ := List.getElem?_eq_some_iff.mp present
  have own := @List.set_getElem_self _ (rounds.map f) index (by simpa using bound)
  rw [List.getElem_map, here] at own
  rw [List.map_set, same, own]

/-- Stamping a round leaves its length. -/
theorem laps_set {rounds : List Round} {index : Nat} {round later : Round} (present : rounds[index]? = some round)
    (same : later.msLength = round.msLength) (first : Nat) :
    laps length pause ((rounds.set index later).drop first) = laps length pause (rounds.drop first) := by
  unfold laps
  rw [List.map_drop, List.map_drop, map_set_same present (by rw [same])]

theorem laps_next {rounds : List Round} {index : Nat} {round : Round} (present : rounds[index]? = some round) :
    laps length pause (rounds.drop index) =
      length (delay round.msLength) + (pause + laps length pause (rounds.drop (index + 1))) := by
  obtain ⟨bound, here⟩ := List.getElem?_eq_some_iff.mp present
  rw [List.drop_eq_getElem_cons bound, here]
  unfold laps
  rw [List.map_cons, List.sum_cons, add_assoc]

theorem left_ended (ended : s.game.endTime.isSome) : left length pause s.game = 0 := by
  unfold left
  rw [if_pos ended]

theorem left_open (opened : RoundOpen s) :
    left length pause s.game = laps length pause (s.game.rounds.drop s.game.currentRound) := by
  obtain ⟨round, present, _, running, _⟩ := opened.current
  have still : isOver s.game = false := by simp [isOver, present, running]
  unfold left
  rw [opened.endTime, if_neg (by simp), still]
  rfl

theorem left_over (gap : RoundOver s) :
    left length pause s.game = pause + laps length pause (s.game.rounds.drop (s.game.currentRound + 1)) := by
  have bound := gap.current
  have done : isOver s.game = true := by
    have ended := (gap.played s.game.currentRound (Nat.lt_succ_self _) _ (List.getElem?_eq_getElem bound)).2
    simp [isOver, bound, ended]
  unfold left
  rw [gap.endTime, if_neg (by simp), done]
  rfl

theorem left_unstarted (unstarted : Unstarted s) : left length pause s.game = laps length pause s.game.rounds := by
  have still : isOver s.game = false := by
    unfold isOver
    cases present : s.game.rounds[s.game.currentRound]? with
    | none => rfl
    | some round => simp [(unstarted.untouched _ (Nat.zero_le _) round present).endTime]
  unfold left
  rw [unstarted.endTime, if_neg (by simp), still, unstarted.currentRound]
  rfl

/-! What the moves of a game use up. -/

theorem left_settle (opened : RoundOpen s) {roundObj : Round} (present : s.game.rounds[s.game.currentRound]? = some roundObj)
    (answer : Answer) : left length pause s.game =
      length (delay roundObj.msLength) + left length pause (settle s s.game.currentRound roundObj answer).game := by
  obtain ⟨bound, _⟩ := List.getElem?_eq_some_iff.mp present
  have done : isOver (answered s s.game.currentRound roundObj answer) = true := by
    simp [isOver, answered, bound, Round.onAnswer]
  have after : left length pause (settle s s.game.currentRound roundObj answer).game =
      pause + laps length pause (s.game.rounds.drop (s.game.currentRound + 1)) := by
    change left length pause (answered s s.game.currentRound roundObj answer) = _
    unfold left
    have running : (answered s s.game.currentRound roundObj answer).endTime = none := opened.endTime
    rw [running, if_neg (by simp), done, if_pos rfl]
    exact congrArg (pause + ·) (laps_set present (by rfl) _)
  rw [left_open opened, laps_next present, after]

theorem left_enter {round : Nat} {roundObj : Round} (running : s.game.endTime = none)
    (present : s.game.rounds[round]? = some roundObj) (fresh : roundObj.endTime = none) :
    left length pause (enter s round roundObj).game = laps length pause (s.game.rounds.drop round) := by
  obtain ⟨bound, _⟩ := List.getElem?_eq_some_iff.mp present
  have still : isOver (entered s round roundObj) = false := by simp [isOver, entered, bound, fresh]
  change left length pause (entered s round roundObj) = _
  unfold left
  have unended : (entered s round roundObj).endTime = none := running
  rw [unended, if_neg (by simp), still, if_neg (by simp)]
  exact laps_set present (by rfl) _

theorem left_advance (gap : RoundOver s) {roundObj : Round} (next : s.game.rounds[s.game.currentRound + 1]? = some roundObj) :
    left length pause s.game =
      pause + left length pause (enter { s with timeouts := [] } (s.game.currentRound + 1) roundObj).game := by
  have fresh := (gap.untouched _ (Nat.le_refl _) _ next).endTime
  rw [left_over gap, left_enter (s := { s with timeouts := [] }) gap.endTime next fresh]

theorem left_finish (gap : RoundOver s) (last : s.game.currentRound + 1 = s.game.rounds.length) :
    left length pause s.game = pause + left length pause (close s (s.game.currentRound + 1)).game := by
  rw [left_over gap, left_ended (s := close s (s.game.currentRound + 1)) rfl, last, List.drop_length]
  rfl

/-- What a move that fires no timeout leaves. -/
theorem left_move [PartialOrder M] [IsOrderedAddMonoid M] {s' : LiveGame} {action : Action} (move : Move s action s')
    (lengths : ∀ ms, 0 ≤ ms → 0 ≤ length ms) (pauses : 0 ≤ pause) :
    left length pause s'.game ≤ left length pause s.game := by
  cases move with
  | still action refused => exact le_refl _
  | readied players player block published ids => exact le_refl _
  | exited child ok pid found =>
    rw [finish_eq found]
    exact le_refl _
  | joined socket => exact le_refl _
  | begun players player roundObj unstarted first ids s' result =>
    subst result
    have fresh := (unstarted.untouched 0 (Nat.le_refl 0) _ first).endTime
    have begins : left length pause (enter (begin s players player) 0 roundObj).game = laps length pause s.game.rounds :=
      left_enter (s := begin s players player) unstarted.endTime first fresh
    rw [left_unstarted unstarted]
    exact begins.le
  | begunEmpty players player unstarted empty ids s' result =>
    subst result
    rw [left_unstarted unstarted, empty]
    exact (left_ended (s := close (begin s players player) 0) rfl).le
  | answered action answer roundObj opened current accepted =>
    rw [left_settle opened current answer]
    exact le_add_of_nonneg_left (lengths _ (delay_nonneg _))
  | advanced handle roundObj gap next pending =>
    rw [left_advance gap next]
    exact le_add_of_nonneg_left pauses
  | finished handle gap last pending =>
    rw [left_finish gap last]
    exact le_add_of_nonneg_left pauses

/-! Timeouts. -/

/-- A timeout lasts as long as Node lets its round take, and the pause after a round a second. -/
def Timed (s : LiveGame) : Prop := ∀ timeout ∈ s.timeouts,
  match timeout.callback with
  | .answer round => ∃ roundObj, s.game.rounds[round]? = some roundObj ∧ timeout.ms = delay roundObj.msLength
  | .gotoRound _ => timeout.ms = 1000

/-- A timeout that fires uses up what it costs. -/
theorem left_fire (phase : Phase s) (timed : Timed s) {timeout : Timeout} (pending : timeout ∈ s.timeouts) :
    left length pause s.game = cost length pause timeout + left length pause (s.fire timeout.handle).game := by
  have delays := timed timeout pending
  cases phase with
  | unstarted phase => simp [phase.timeouts] at pending
  | stopped phase => simp [phase.timeouts] at pending
  | roundOpen phase =>
    obtain ⟨timer, ms, slot, only⟩ := phase.timer
    obtain ⟨roundObj, present, started, running, _⟩ := phase.current
    have identified := List.mem_singleton.mp (only ▸ pending)
    subst identified
    obtain ⟨own, found, lasts⟩ := delays
    obtain rfl : roundObj = own := Option.some.inj (present.symm.trans found)
    have lasts : ms = delay roundObj.msLength := lasts
    let answer : Answer := { round := .ofNat s.game.currentRound }
    have reads : ({ s with timeouts := [] } : LiveGame).roundAt answer.round = some (s.game.currentRound, roundObj) := by
      rw [roundAt_ofNat]
      simp [present]
    have settled : ({ s with timeouts := [] } : LiveGame).runTimeout (.answer s.game.currentRound) =
        settle s s.game.currentRound roundObj answer := answer_settles answer reads started running rfl
    rw [fire_single s _ only, settled, left_settle phase present answer, cost, lasts]
  | roundOver phase =>
    obtain ⟨timer, ms, only⟩ := phase.transition
    have identified := List.mem_singleton.mp (only ▸ pending)
    subst identified
    rw [fire_single s _ only]
    change left length pause s.game = pause +
      left length pause (({ s with timeouts := [] } : LiveGame).gotoRound (s.game.currentRound + 1)).1.game
    cases next : s.game.rounds[s.game.currentRound + 1]? with
    | some roundObj =>
      rw [gotoRound_enters { s with timeouts := [] } _ roundObj next]
      exact left_advance phase next
    | none =>
      have last : s.game.currentRound + 1 = s.game.rounds.length := by
        have bound := phase.current
        have past := List.getElem?_eq_none_iff.mp next
        omega
      rw [gotoRound_past { s with timeouts := [] } _ next, stop_eq]
      exact left_finish phase last

theorem timed_enter {round : Nat} {roundObj : Round} (present : s.game.rounds[round]? = some roundObj)
    (idle : s.timeouts = []) : Timed (enter s round roundObj) := by
  obtain ⟨bound, _⟩ := List.getElem?_eq_some_iff.mp present
  have only : (enter s round roundObj).timeouts =
      [{ handle := s.handles, callback := .answer round, ms := delay roundObj.msLength }] := by
    simp [enter, LiveGame.scheduleTimer, LiveGame.clearTimeout, LiveGame.setTimeout, spawning, adding, LiveGame.tick, idle]
  intro timeout member
  rw [only] at member
  rw [List.mem_singleton.mp member]
  refine ⟨{ roundObj with startTime := some s.now }, ?_, rfl⟩
  change (s.game.rounds.set round _)[round]? = _
  exact List.getElem?_set_self bound

theorem timed_move {s' : LiveGame} {action : Action} (move : Move s action s') (timed : Timed s) : Timed s' := by
  cases move with
  | still action refused => exact timed
  | readied players player block published ids => exact timed
  | exited child ok pid found =>
    rw [finish_eq found]
    exact timed
  | joined socket => exact timed
  | begun players player roundObj unstarted first ids s' result =>
    subst result
    have entered : Timed (enter (begin s players player) 0 roundObj) :=
      timed_enter (s := begin s players player) first unstarted.timeouts
    exact entered
  | begunEmpty players player unstarted empty ids s' result =>
    subst result
    exact fun _ member => nomatch member
  | answered action answer roundObj opened current accepted =>
    intro timeout member
    rw [List.mem_singleton.mp member]
  | advanced handle roundObj gap next pending => exact timed_enter (s := { s with timeouts := [] }) next rfl
  | finished handle gap last pending => exact fun _ member => nomatch member

/-! Runs. -/

/-- The timeout that fires. -/
def fired (s : LiveGame) : Action → Option Timeout
  | .fire handle => s.timeouts.find? (·.handle = handle)
  | _ => none

def firings (s : LiveGame) (actions : Nat → Action) : Nat → List Timeout
  | 0 => []
  | n + 1 => firings s actions n ++ (fired (after step s actions n) (actions n)).toList

end

structure Timely (s : LiveGame) : Prop where
  phase : Phase s
  wired : Wired s
  timed : Timed s

theorem Timely.step {s : LiveGame} (timely : Timely s) (action : Action) : Timely (Games.step s action) := by
  have move := move_step timely.phase timely.wired action
  exact ⟨phase_move timely.phase move, wired_move move timely.wired, timed_move move timely.timed⟩

theorem Timely.after {s : LiveGame} (timely : Timely s) (actions : Nat → Action) (n : Nat) :
    Timely (Support.Machine.after Games.step s actions n) :=
  @after_invariant _ _ Games.step s actions Timely (fun _ action timely => timely.step action) 0 timely n (Nat.zero_le n)

section
variable {M : Type} [AddCommMonoid M] [PartialOrder M] [IsOrderedAddMonoid M] {length : ℚ → M} {pause : M}
  (lengths : ∀ ms, 0 ≤ ms → 0 ≤ length ms) (pauses : 0 ≤ pause) {s : LiveGame}
include lengths pauses

theorem left_step (timely : Timely s) (action : Action) :
    ((fired s action).toList.map (cost length pause)).sum + left length pause (step s action).game ≤
      left length pause s.game := by
  cases which : fired s action with
  | none =>
    have kept := left_move (move_step timely.phase timely.wired action) lengths pauses
    simpa using kept
  | some timeout =>
    cases action with
    | fire handle =>
      have pending := List.mem_of_find?_eq_some which
      have same : timeout.handle = handle := by simpa using List.find?_some which
      have used := @left_fire M _ length pause s timely.phase timely.timed timeout pending
      rw [same] at used
      change _ ≤ left length pause s.game
      simpa [step] using used.ge
    | _ => cases which

theorem laps_nonneg (rounds : List Round) : 0 ≤ laps length pause rounds := by
  apply List.sum_nonneg
  intro lap member
  obtain ⟨round, present, rfl⟩ := List.mem_map.mp member
  exact add_nonneg (lengths _ (delay_nonneg _)) pauses

theorem left_nonneg (game : Game) : 0 ≤ left length pause game := by
  have later : ∀ first, 0 ≤ laps length pause (game.rounds.drop first) := fun first => laps_nonneg lengths pauses _
  unfold left
  split
  next => exact le_refl 0
  next =>
    split
    next => exact add_nonneg pauses (later _)
    next => exact later _

theorem left_firings (timely : Timely s) (actions : Nat → Action) (n : Nat) :
    ((firings s actions n).map (cost length pause)).sum + left length pause (after step s actions n).game ≤
      left length pause s.game := by
  induction n with
  | zero => simp [firings, after]
  | succ n ih =>
    have next := left_step lengths pauses (timely.after actions n) (actions n)
    rw [← after_succ step] at next
    calc ((firings s actions (n + 1)).map (cost length pause)).sum + left length pause (after step s actions (n + 1)).game
        = ((firings s actions n).map (cost length pause)).sum +
            (((fired (after step s actions n) (actions n)).toList.map (cost length pause)).sum +
              left length pause (after step s actions (n + 1)).game) := by
          rw [firings, List.map_append, List.sum_append, add_assoc]
      _ ≤ ((firings s actions n).map (cost length pause)).sum + left length pause (after step s actions n).game :=
          add_le_add_right next _
      _ ≤ left length pause s.game := ih

end

/-! Every timeout fires, or is cleared. -/

def turns (s : LiveGame) : Nat := left (fun _ => 1) 1 s.game

def serves : Action → Timeout → Prop
  | .fire handle, timeout => handle = timeout.handle
  | _, _ => False

def Served (s : LiveGame) (actions : Nat → Action) : Prop :=
  Fair step s actions (fun s timeout => timeout ∈ s.timeouts) serves

section
variable {s : LiveGame}

theorem turns_step (timely : Timely s) (action : Action) : turns (step s action) ≤ turns s := by
  have used := @left_step Nat _ _ _ (fun _ => 1) 1 (fun _ _ => Nat.zero_le 1) (Nat.zero_le 1) s timely action
  exact le_trans (Nat.le_add_left _ _) used

theorem cost_turn (timeout : Timeout) : cost (fun _ => 1) 1 timeout = 1 := by
  unfold cost
  split <;> rfl

/-- A game goes on when its timeout fires or is cleared. -/
theorem turns_falls (timely : Timely s) {action : Action} {timeout : Timeout} (pending : timeout ∈ s.timeouts)
    (settled : serves action timeout ∨ timeout ∉ (step s action).timeouts) : turns (step s action) < turns s := by
  rcases settled with served | gone
  · cases action with
    | fire handle =>
      have same : handle = timeout.handle := served
      have used : turns s = cost (fun _ => 1) 1 timeout + turns (s.fire timeout.handle) :=
        left_fire timely.phase timely.timed pending
      rw [cost_turn, ← same] at used
      change turns (s.fire handle) < turns s
      omega
    | _ => cases served
  · have move := move_step timely.phase timely.wired action
    generalize step s action = s' at gone move ⊢
    cases move with
    | still action refused => exact absurd pending gone
    | readied players player block published ids => exact absurd pending gone
    | exited child ok pid found =>
      rw [finish_eq found] at gone
      exact absurd pending gone
    | joined socket => exact absurd pending gone
    | begun players player roundObj unstarted first ids s' result => simp [unstarted.timeouts] at pending
    | begunEmpty players player unstarted empty ids s' result => simp [unstarted.timeouts] at pending
    | answered action answer roundObj opened current accepted =>
      have used : turns s = 1 + turns (settle s s.game.currentRound roundObj answer) := left_settle opened current answer
      omega
    | advanced handle roundObj gap next _ =>
      have used : turns s = 1 + turns (enter { s with timeouts := [] } (s.game.currentRound + 1) roundObj) :=
        left_advance gap next
      omega
    | finished handle gap last _ =>
      have used : turns s = 1 + turns (close s (s.game.currentRound + 1)) := left_finish gap last
      omega

theorem busy (phase : Phase s) (started : s.game.startTime.isSome) :
    s.game.endTime.isSome ∨ ∃ timeout, timeout ∈ s.timeouts := by
  cases phase with
  | unstarted phase => simp [phase.startTime] at started
  | roundOpen phase =>
    obtain ⟨handle, ms, _, only⟩ := phase.timer
    exact .inr ⟨_, by rw [only]; exact List.mem_singleton_self _⟩
  | roundOver phase =>
    obtain ⟨handle, ms, only⟩ := phase.transition
    exact .inr ⟨_, by rw [only]; exact List.mem_singleton_self _⟩
  | stopped phase => exact .inl phase.endTime

theorem started_move {s' : LiveGame} {action : Action} (move : Move s action s') (started : s.game.startTime.isSome) :
    s'.game.startTime.isSome := by
  cases move with
  | exited child ok pid found =>
    rw [finish_eq found]
    exact started
  | begun players player roundObj unstarted first ids s' result =>
    subst result
    rfl
  | begunEmpty players player unstarted empty ids s' result =>
    subst result
    rfl
  | _ => exact started

theorem timely_fresh (fresh : Fresh s) : Timely s where
  phase := .unstarted (unstarted_of_fresh fresh)
  wired := fresh.wired
  timed := by
    intro timeout member
    rw [fresh.timeouts] at member
    cases member

/-- What the rounds allow in milliseconds. -/
def allowance (rounds : List Round) : ℚ := laps id 1000 rounds

theorem cost_ms (timely : Timely s) (actions : Nat → Action) (n : Nat) :
    ∀ timeout ∈ firings s actions n, cost id 1000 timeout = timeout.ms := by
  induction n with
  | zero => exact fun _ member => nomatch member
  | succ n ih =>
    refine List.forall_mem_append.mpr ⟨ih, fun timeout which => ?_⟩
    have which := Option.mem_toList.mp which
    cases action : actions n with
    | fire handle =>
      rw [action] at which
      have delays := (timely.after actions n).timed timeout (List.mem_of_find?_eq_some which)
      unfold cost
      split
      next => rfl
      next round delayed =>
        rw [delayed] at delays
        exact delays.symm
    | _ =>
      rw [action] at which
      cases which

theorem laps_turns (rounds : List Round) : laps (fun _ => 1) 1 rounds = 2 * rounds.length := by
  unfold laps
  rw [List.map_const', List.sum_replicate, nsmul_eq_mul, Nat.cast_id, Nat.mul_comm]

theorem game_ends {s : LiveGame} (fresh : Fresh s) (actions : Nat → Action) (served : Served s actions) :
    (∀ n, (after step s actions n).game.startTime.isSome → ∃ m ≥ n, (after step s actions m).game.endTime.isSome) ∧
      ∀ n, (firings s actions n).length ≤ 2 * s.game.rounds.length ∧
        ((firings s actions n).map (·.ms)).sum ≤ allowance s.game.rounds := by
  have timely := timely_fresh fresh
  refine ⟨fun n started => ?_, fun n => ⟨?_, ?_⟩⟩
  · refine @reached_of_fair _ _ _ step s actions (fun s timeout => timeout ∈ s.timeouts) serves
      (fun s => Timely s ∧ s.game.startTime.isSome) (fun s => s.game.endTime.isSome) turns ?_ ?_ ?_ ?_ served n
      ⟨timely.after actions n, started⟩
    · exact fun s action held =>
        ⟨held.1.step action, started_move (move_step held.1.phase held.1.wired action) held.2⟩
    · exact fun s held => busy held.1.phase held.2
    · exact fun s action held => turns_step held.1 action
    · exact fun s action timeout held pending settled => turns_falls held.1 pending settled
  · have used := @left_firings Nat _ _ _ (fun _ => 1) 1 (fun _ _ => Nat.zero_le 1) (Nat.zero_le 1) s timely actions n
    rw [left_unstarted (unstarted_of_fresh fresh), laps_turns, List.map_congr_left fun timeout _ => cost_turn timeout] at used
    simpa using le_trans (Nat.le_add_right _ _) used
  · have pauses : (0 : ℚ) ≤ 1000 := by norm_num
    have used := @left_firings ℚ _ _ _ id 1000 (fun _ nonneg => nonneg) pauses s timely actions n
    rw [left_unstarted (unstarted_of_fresh fresh), List.map_congr_left (cost_ms timely actions n)] at used
    have remains := left_nonneg (fun _ nonneg => nonneg) pauses (after step s actions n).game
    exact le_trans (le_add_of_nonneg_right remains) used

end

/-- Both get ready, the first round is answered, and the second one times out. Nothing happens after that. -/
def sampleActions (n : Nat) : Action := sampleRun[n]?.getD (.finish 0 true)

theorem sample_stops {n : Nat} (later : 6 ≤ n) : (after step sample sampleActions n).timeouts = [] ∧
    (after step sample sampleActions n).children = [] := by
  induction later with
  | refl => exact ⟨rfl, rfl⟩
  | @step m later ih =>
    have idle : sampleActions m = .finish 0 true := by
      unfold sampleActions
      rw [List.getElem?_eq_none later]
      rfl
    rw [after_succ, idle]
    change ((after step sample sampleActions m).finish 0 true).timeouts = [] ∧
      ((after step sample sampleActions m).finish 0 true).children = []
    unfold LiveGame.finish
    rw [ih.2]
    exact ih

theorem game_ends_sample : (∃ m ≥ 2, (after step sample sampleActions m).game.endTime.isSome) ∧
    ∀ n, ((firings sample sampleActions n).map (·.ms)).sum ≤ 12000 := by
  have served : Served sample sampleActions := by
    intro n timeout _
    refine ⟨n + 6, by omega, .inr fun pending => ?_⟩
    simp [(sample_stops (Nat.le_add_left 6 n)).1] at pending
  obtain ⟨ends, used⟩ := game_ends sample_fresh sampleActions served
  have allowed : allowance sample.game.rounds = 12000 := by decide +kernel
  exact ⟨ends 2 rfl, fun n => allowed ▸ (used n).2⟩

end DfStudy.GameDuration
