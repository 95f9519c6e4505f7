import DfStudy.GameInvariant
import Mathlib.Order.Monotone.Basic

/-! The times a game writes down. Read in the order of the rounds they are one list that only grows at its end, by the
present time. -/

namespace DfStudy.GameTimeline
open Rounds Games GameFrames GameControl GameInvariant Support.Machine LiveGame

/-- Both times have been written, the first no later than the second. -/
def Before (first second : Option Nat) : Prop := ∃ a b, first = some a ∧ second = some b ∧ a ≤ b

structure Ordered (game : Game) : Prop where
  start : ∀ first, game.rounds[0]? = some first → game.startTime.isSome ∨ first.startTime.isSome →
    Before game.startTime first.startTime
  answered : ∀ (i : Nat) (round : Round), game.rounds[i]? = some round → round.endTime.isSome → Before round.startTime round.endTime
  next : ∀ (i : Nat) (round next : Round), game.rounds[i]? = some round → game.rounds[i + 1]? = some next → next.startTime.isSome →
    Before round.endTime next.startTime
  stop : game.endTime.isSome → ∀ (i : Nat) (round : Round), game.rounds[i]? = some round → Before round.endTime game.endTime

/-- The times of a round. -/
def roundTimes (round : Round) : List Nat := round.startTime.toList ++ round.endTime.toList

def times (game : Game) : List Nat :=
  game.startTime.toList ++ (game.rounds.flatMap roundTimes ++ game.endTime.toList)

/-- The times are in order, and none is later than what the clock will show. -/
structure Dated (s : LiveGame) : Prop where
  sorted : (times s.game).Pairwise (· ≤ ·)
  past : ∀ time ∈ times s.game, time ≤ s.now
  steady : Monotone s.clock

theorem roundTimes_fresh {round : Round} (fresh : round.Fresh) : roundTimes round = [] := by
  unfold roundTimes
  rw [fresh.startTime, fresh.endTime]
  rfl

theorem untouched_times {rounds : List Round} (untouched : Untouched rounds 0) : rounds.flatMap roundTimes = [] := by
  rw [List.flatMap_eq_nil_iff]
  intro round member
  obtain ⟨index, present⟩ := List.getElem?_of_mem member
  exact roundTimes_fresh (untouched index (Nat.zero_le _) round present)

theorem unstarted_times {s : LiveGame} (unstarted : Unstarted s) : times s.game = [] := by
  unfold times
  rw [unstarted.startTime, unstarted.endTime, untouched_times unstarted.untouched]
  rfl

/-- The present time is added at the end. -/
theorem Dated.stamp {s s' : LiveGame} (dated : Dated s) (stamps : times s'.game = times s.game ++ [s.now])
    (clock : s'.clock = s.tick.clock) : Dated s' where
  sorted := by
    rw [stamps, List.pairwise_append]
    refine ⟨dated.sorted, List.pairwise_singleton _ _, fun time earlier present last => ?_⟩
    rw [List.mem_singleton.mp last]
    exact dated.past time earlier
  past := by
    have later : s.now ≤ s'.now := by
      unfold LiveGame.now
      rw [clock]
      exact dated.steady (Nat.zero_le 1)
    intro time member
    rw [stamps] at member
    cases List.mem_append.mp member with
    | inl earlier => exact (dated.past time earlier).trans later
    | inr last => rwa [List.mem_singleton.mp last]
  steady := by
    rw [clock]
    exact fun first second le => dated.steady (Nat.succ_le_succ le)

theorem Dated.same {s s' : LiveGame} (dated : Dated s) (unchanged : times s'.game = times s.game) (clock : s'.clock = s.clock) :
    Dated s' where
  sorted := unchanged ▸ dated.sorted
  past := by
    unfold LiveGame.now
    rw [unchanged, clock]
    exact dated.past
  steady := clock ▸ dated.steady

/-- A round that is stamped has no times behind it. -/
theorem times_set {rounds : List Round} {k : Nat} {round stamped : Round} (present : rounds[k]? = some round) (time : Nat)
    (stamps : roundTimes stamped = roundTimes round ++ [time]) (untouched : Untouched rounds (k + 1)) :
    (rounds.set k stamped).flatMap roundTimes = rounds.flatMap roundTimes ++ [time] := by
  obtain ⟨below, rfl⟩ := List.getElem?_eq_some_iff.mp present
  have behind : (rounds.drop (k + 1)).flatMap roundTimes = [] := by
    rw [List.flatMap_eq_nil_iff]
    intro later member
    obtain ⟨index, found⟩ := List.getElem?_of_mem member
    rw [List.getElem?_drop] at found
    exact roundTimes_fresh (untouched _ (Nat.le_add_right _ _) later found)
  have whole : rounds = rounds.take k ++ rounds[k] :: rounds.drop (k + 1) := by
    rw [← List.drop_eq_getElem_cons below, List.take_append_drop]
  have times : rounds.flatMap roundTimes = (rounds.take k).flatMap roundTimes ++ roundTimes rounds[k] := by
    conv => lhs; rw [whole]
    rw [List.flatMap_append, List.flatMap_cons, behind, List.append_nil]
  rw [List.set_eq_take_append_cons_drop, if_pos below, List.flatMap_append, List.flatMap_cons, behind, List.append_nil,
    stamps, times, List.append_assoc]

theorem Dated.enter {s : LiveGame} (dated : Dated s) {round : Nat} {roundObj : Round}
    (present : s.game.rounds[round]? = some roundObj) (fresh : roundObj.Fresh) (running : s.game.endTime = none)
    (untouched : Untouched s.game.rounds (round + 1)) : Dated (enter s round roundObj) := by
  refine dated.stamp ?_ rfl
  have stamps : roundTimes { roundObj with startTime := some s.now } = roundTimes roundObj ++ [s.now] := by
    unfold roundTimes
    rw [fresh.startTime, fresh.endTime]
    rfl
  change s.game.startTime.toList ++ ((s.game.rounds.set round { roundObj with startTime := some s.now }).flatMap roundTimes ++
    s.game.endTime.toList) = times s.game ++ [s.now]
  unfold times
  rw [times_set present s.now stamps untouched, running]
  simp

theorem Dated.close {s : LiveGame} (dated : Dated s) (running : s.game.endTime = none) (round : Nat) :
    Dated (close s round) := by
  refine dated.stamp ?_ rfl
  change s.game.startTime.toList ++ (s.game.rounds.flatMap roundTimes ++ [s.now]) = times s.game ++ [s.now]
  unfold times
  rw [running]
  simp

theorem Dated.begin {s : LiveGame} (dated : Dated s) (unstarted : Unstarted s) (players : List Player) (player : Player) :
    Dated (begin s players player) := by
  refine dated.stamp ?_ rfl
  rw [unstarted_times unstarted]
  change [s.now] ++ (s.game.rounds.flatMap roundTimes ++ s.game.endTime.toList) = [s.now]
  rw [untouched_times unstarted.untouched, unstarted.endTime]
  rfl

theorem dated_move {s s' : LiveGame} {action : Action} (dated : Dated s) (move : Move s action s') : Dated s' := by
  cases move with
  | still action refused => exact dated
  | readied players player block published ids => exact dated.same rfl rfl
  | exited child ok pid found =>
    rw [finish_eq found]
    exact dated.same rfl rfl
  | joined socket => exact dated.same rfl rfl
  | begun players player roundObj unstarted first ids s' result =>
    subst result
    have opened : Dated (enter (GameControl.begin s players player) 0 roundObj) :=
      (dated.begin unstarted players player).enter first (unstarted.untouched 0 le_rfl roundObj first) unstarted.endTime
        (unstarted.untouched.mono (Nat.zero_le _))
    exact opened.same rfl rfl
  | begunEmpty players player unstarted empty ids s' result =>
    subst result
    have closed := (dated.begin unstarted players player).close unstarted.endTime 0
    exact closed.same rfl rfl
  | answered action answer roundObj opened current accepted =>
    obtain ⟨found, present, started, unended, _⟩ := opened.current
    cases Option.some.inj (present.symm.trans current)
    have stamps : roundTimes (roundObj.onAnswer answer.value s.now).1 = roundTimes roundObj ++ [s.now] := by
      unfold roundTimes
      rw [unended]
      simp [Round.onAnswer]
    refine dated.stamp ?_ rfl
    change s.game.startTime.toList ++ ((s.game.rounds.set s.game.currentRound (roundObj.onAnswer answer.value s.now).1).flatMap
      roundTimes ++ s.game.endTime.toList) = times s.game ++ [s.now]
    unfold times
    rw [times_set present s.now stamps opened.untouched, opened.endTime]
    simp
  | advanced handle roundObj gap next pending =>
    have still : Dated { s with timeouts := [] } := dated.same rfl rfl
    exact still.enter next (gap.untouched _ le_rfl roundObj next) gap.endTime (gap.untouched.mono (Nat.le_succ _))
  | finished handle gap last pending => exact dated.close gap.endTime _

/-- A game that has stopped is not stamped again. -/
theorem endTime_move {s s' : LiveGame} {action : Action} (move : Move s action s')
    (stopped : s.game.endTime.isSome) : s'.game.endTime = s.game.endTime := by
  cases move with
  | still action refused => rfl
  | readied players player block published ids => rfl
  | exited child ok pid found =>
    rw [finish_eq found]
    rfl
  | joined socket => rfl
  | begun players player roundObj unstarted first ids s' result =>
    rw [unstarted.endTime] at stopped
    cases stopped
  | begunEmpty players player unstarted empty ids s' result =>
    rw [unstarted.endTime] at stopped
    cases stopped
  | answered action answer roundObj opened current accepted => rfl
  | advanced handle roundObj gap next pending => rfl
  | finished handle gap last pending =>
    rw [gap.endTime] at stopped
    cases stopped

/-! What has been written down in a phase. -/

/-- Up to some round every round has ended, that round has not, and the later ones have not been entered. -/
theorem progress_of_phase {s : LiveGame} (phase : Phase s) : ∃ k, Played s.game.rounds k ∧
    Untouched s.game.rounds (k + 1) ∧ ∀ round, s.game.rounds[k]? = some round → round.endTime = none := by
  cases phase with
  | unstarted unstarted =>
    refine ⟨0, fun index below => absurd below (Nat.not_lt_zero index), unstarted.untouched.mono (Nat.zero_le _), ?_⟩
    exact fun round present => (unstarted.untouched 0 le_rfl round present).endTime
  | roundOpen opened =>
    obtain ⟨current, present, _, unended, _⟩ := opened.current
    refine ⟨_, opened.played, opened.untouched, fun round found => ?_⟩
    rwa [← Option.some.inj (present.symm.trans found)]
  | roundOver gap =>
    refine ⟨_, gap.played, gap.untouched.mono (Nat.le_succ _), fun round present => ?_⟩
    exact (gap.untouched _ le_rfl round present).endTime
  | stopped stopped =>
    have none : ∀ index, s.game.rounds.length ≤ index → ∀ round, s.game.rounds[index]? ≠ some round :=
      fun index past round found => by
        rw [List.getElem?_eq_none past] at found
        cases found
    refine ⟨_, stopped.current ▸ stopped.played, fun index past round found => ?_, fun round found => ?_⟩
    · exact absurd found (none index (by omega) round)
    · exact absurd found (none _ le_rfl round)

theorem ended_started {s : LiveGame} (phase : Phase s) {i : Nat} {round : Round} (present : s.game.rounds[i]? = some round)
    (hasEnded : round.endTime.isSome) : round.startTime.isSome := by
  obtain ⟨k, played, untouched, unended⟩ := progress_of_phase phase
  rcases Nat.lt_trichotomy i k with below | rfl | past
  · exact (played i below round present).1
  · rw [unended round present] at hasEnded
    cases hasEnded
  · rw [(untouched i past round present).endTime] at hasEnded
    cases hasEnded

theorem started_ended {s : LiveGame} (phase : Phase s) {i : Nat} {round next : Round}
    (present : s.game.rounds[i]? = some round) (later : s.game.rounds[i + 1]? = some next)
    (started : next.startTime.isSome) : round.endTime.isSome := by
  obtain ⟨k, played, untouched, _⟩ := progress_of_phase phase
  by_cases below : i < k
  · exact (played i below round present).2
  · rw [(untouched (i + 1) (by omega) next later).startTime] at started
    cases started

theorem stopped_ended {s : LiveGame} (phase : Phase s) (stopped : s.game.endTime.isSome) {i : Nat} {round : Round}
    (present : s.game.rounds[i]? = some round) : round.endTime.isSome := by
  cases phase with
  | unstarted unstarted =>
    rw [unstarted.endTime] at stopped
    cases stopped
  | roundOpen opened =>
    rw [opened.endTime] at stopped
    cases stopped
  | roundOver gap =>
    rw [gap.endTime] at stopped
    cases stopped
  | stopped halted => exact (halted.played i (halted.current ▸ (List.getElem?_eq_some_iff.mp present).1) round present).2

/-- The first round is entered as the game starts. -/
theorem first_started {s : LiveGame} (phase : Phase s) {first : Round} (present : s.game.rounds[0]? = some first) :
    first.startTime.isSome ↔ s.game.startTime.isSome := by
  cases phase with
  | unstarted unstarted =>
    rw [unstarted.startTime, (unstarted.untouched 0 le_rfl first present).startTime]
  | roundOpen opened =>
    refine iff_of_true ?_ opened.startTime
    obtain ⟨current, found, started, _⟩ := opened.current
    cases count : s.game.currentRound with
    | zero =>
      rw [count] at found
      rwa [Option.some.inj (present.symm.trans found)]
    | succ k => exact (opened.played 0 (by omega) first present).1
  | roundOver gap => exact iff_of_true (gap.played 0 (Nat.succ_pos _) first present).1 gap.startTime
  | stopped halted =>
    have some := (List.getElem?_eq_some_iff.mp present).1
    exact iff_of_true (halted.played 0 (halted.current ▸ some) first present).1 halted.startTime

/-! What the order of the list says of the times. -/

theorem before_of {first second : Option Nat} (one : first.isSome) (other : second.isSome)
    (le : ∀ a ∈ first.toList, ∀ b ∈ second.toList, a ≤ b) : Before first second := by
  obtain ⟨a, rfl⟩ := Option.isSome_iff_exists.mp one
  obtain ⟨b, rfl⟩ := Option.isSome_iff_exists.mp other
  exact ⟨a, b, rfl, rfl, le a (List.mem_singleton_self a) b (List.mem_singleton_self b)⟩

theorem ordered_of_sorted {s : LiveGame} (phase : Phase s) (sorted : (times s.game).Pairwise (· ≤ ·)) : Ordered s.game := by
  unfold times at sorted
  rw [List.pairwise_append, List.pairwise_append, List.pairwise_flatMap] at sorted
  obtain ⟨_, ⟨⟨within, across⟩, _, last⟩, opening⟩ := sorted
  have inside : ∀ {i : Nat} {round : Round}, s.game.rounds[i]? = some round → ∀ time ∈ roundTimes round,
      time ∈ s.game.rounds.flatMap roundTimes := fun present time member =>
    List.mem_flatMap.mpr ⟨_, List.mem_of_getElem? present, member⟩
  constructor
  · intro first present started
    have both : s.game.startTime.isSome ∧ first.startTime.isSome := by
      have same := first_started phase present
      tauto
    refine before_of both.1 both.2 fun a start b time => opening a start b ?_
    exact List.mem_append_left _ (inside present b (List.mem_append_left _ time))
  · intro i round present hasEnded
    have order := within round (List.mem_of_getElem? present)
    exact before_of (ended_started phase present hasEnded) hasEnded (List.pairwise_append.mp order).2.2
  · intro i round next present later started
    have order := List.pairwise_iff_getElem.mp across i (i + 1)
    obtain ⟨here, rfl⟩ := List.getElem?_eq_some_iff.mp present
    obtain ⟨there, rfl⟩ := List.getElem?_eq_some_iff.mp later
    refine before_of (started_ended phase present later started) started fun a time b next => ?_
    exact order here there (Nat.lt_succ_self i) a (List.mem_append_right _ time) b (List.mem_append_left _ next)
  · intro stopped i round present
    refine before_of (stopped_ended phase stopped present) stopped fun a time b stop => last a ?_ b stop
    exact inside present a (List.mem_append_right _ time)

/-! Runs. -/

structure Kept (s : LiveGame) : Prop where
  phase : Phase s
  wired : Wired s
  dated : Dated s

theorem Kept.run {s : LiveGame} (kept : Kept s) (actions : List Action) : Kept (run step s actions) := by
  refine run_invariant Kept (fun s action kept => ?_) actions kept
  have move := move_step kept.phase kept.wired action
  exact ⟨phase_move kept.phase move, wired_move move kept.wired, dated_move kept.dated move⟩

theorem endTime_run {s : LiveGame} (kept : Kept s) (stopped : s.game.endTime.isSome) (actions : List Action) :
    (run step s actions).game.endTime = s.game.endTime := by
  induction actions generalizing s with
  | nil => rfl
  | cons action actions ih =>
    have move := move_step kept.phase kept.wired action
    have same := endTime_move move stopped
    have next : Kept (step s action) := kept.run [action]
    exact (ih next (same ▸ stopped)).trans same

/-- With a clock that does not go back the times of a game are in order in every state of a run, and the time of its end is
never changed. -/
theorem timeline_ordered (s : LiveGame) (fresh : Fresh s) (steady : Monotone s.clock) (actions later : List Action) :
    Ordered (run step s actions).game ∧
      ((run step s actions).game.endTime.isSome →
        (run step s (actions ++ later)).game.endTime = (run step s actions).game.endTime) := by
  have unstarted := unstarted_of_fresh fresh
  have none := unstarted_times unstarted
  have start : Kept s := ⟨.unstarted unstarted, fresh.wired, by rw [none]; exact .nil, by rw [none]; simp, steady⟩
  have kept := start.run actions
  refine ⟨ordered_of_sorted kept.phase kept.dated.sorted, fun stopped => ?_⟩
  rw [run_append]
  exact endTime_run kept stopped later

/-! The sample, with a clock that moves on. -/

def timed : LiveGame := { sample with clock := fun reading => 10 * reading }

theorem timed_fresh : Fresh timed :=
  ⟨sample_fresh.startTime, sample_fresh.endTime, sample_fresh.currentRound, sample_fresh.rounds, sample_fresh.timeouts,
    sample_fresh.effects, sample_fresh.wired⟩

/-- Both players get ready, and both rounds are answered and left. -/
def playedThrough : List Action :=
  [.playerReady "pete" true, .playerReady "kate" true, .answer { round := .ofNat 0 }, .fire 1,
    .answer { round := .ofNat 1 }, .fire 3]

example : times (run step timed playedThrough).game = [0, 10, 20, 30, 40, 50] := by decide

theorem timeline_ordered_timed :
    Ordered (run step timed playedThrough).game ∧
      ((run step timed playedThrough).game.endTime.isSome →
        (run step timed (playedThrough ++ [.playerReady "pete" false])).game.endTime =
          (run step timed playedThrough).game.endTime) :=
  timeline_ordered timed timed_fresh (fun _ _ le => Nat.mul_le_mul_left 10 le) playedThrough [.playerReady "pete" false]

end DfStudy.GameTimeline
