import DfStudy.AttackSchedule

/-! Who is shadow-muted while a game is played. The mumble-cli processes run beside each other, so the
map in the murmur server follows the commands only as far as they take effect in the order they were
issued in, and a round's unmute is issued when the next round is entered. -/

namespace DfStudy.MuteStatus
open Rounds Attacks Games GameFrames GameControl GameInvariant AttackSchedule Support.Machine

/-- `shadowmuteMap` of every murmur server, by its grpc port. A name that is not in the map is not muted. -/
abbrev ShadowmuteMap := Nat → String → Bool

def shadowmuteUser (map : ShadowmuteMap) (grpcPort : Nat) (user : String) (state : Bool) : ShadowmuteMap :=
  fun port name => if port = grpcPort ∧ name = user then state else map port name

/-- A shadowmute command takes effect when its process succeeds. -/
def takeEffect (map : ShadowmuteMap) : Job → ShadowmuteMap
  | .ended (.shadowmute grpcPort target unmute) _ true => shadowmuteUser map grpcPort target (!unmute)
  | _ => map

def murmurs (s : LiveGame) : ShadowmuteMap := run takeEffect (fun _ _ => false) (jobs s)

/-- No command has failed so far. -/
def AllOk (s : LiveGame) : Prop := ∀ command next ok, .ended command next ok ∈ jobs s → ok = true

/-- The state a command puts its target in, if it is a shadowmute. -/
def shadowmutes : Command → Option Bool
  | .shadowmute _ _ unmute => some (!unmute)
  | .spoof _ _ _ => none

/-- Whether the game is running in a round that carries an attack. -/
def expected (schedule : List RoundData) (game : Game) : Bool :=
  game.startTime.isSome && game.endTime.isNone && (attackOf schedule game.currentRound).isSome

/-- The source user is muted just when it should be, once every command has completed. -/
def Follows (schedule : List RoundData) (grpcPort : Nat) (s : LiveGame) : Prop :=
  s.children = [] → AllOk s → ∀ player, s.game.players.head? = some player →
    (murmurs s grpcPort player.playerId = true ↔ expected schedule s.game = true)

/-- A shadowmute does not take effect ahead of an opposite one that was issued before it, and the game is
not stopped out of a round that carries an attack. -/
def Permits (schedule : List RoundData) (s : LiveGame) : Action → Prop
  | .finish pid true => ∀ child ∈ s.children, child.pid = pid → ∀ earlier ∈ s.children, earlier.pid < pid →
      ∀ state other, shadowmutes child.command = some state → shadowmutes earlier.command = some other →
        other = state
  | .fire handle => ∀ timeout ∈ s.timeouts, timeout.handle = handle →
      timeout.callback = .gotoRound s.game.rounds.length → attackOf schedule s.game.currentRound = none
  | _ => True

def stateOf (child : Child) : Option Bool := shadowmutes child.command

/-- The states the shadowmute commands in flight will bring about, in the order of issue. -/
def inFlight (s : LiveGame) : List Bool := s.children.filterMap stateOf

structure Settling (schedule : List RoundData) (grpcPort : Nat) (source : String) (s : LiveGame) : Prop where
  ordered : s.children.Pairwise (·.pid < ·.pid)
  below : ∀ child ∈ s.children, child.pid < s.pids
  targets : ∀ child ∈ s.children, ∀ state, shadowmutes child.command = some state →
    child.command = .shadowmute grpcPort source (!state)
  settles : AllOk s → (inFlight s).getLast?.getD (murmurs s grpcPort source) = expected schedule s.game

/-! Processes that are spawned together. -/

theorem numbered_ordered (pid : Nat) (commands : List (Command × Option Command)) :
    (numbered pid commands).Pairwise (·.pid < ·.pid) := by
  induction commands generalizing pid with
  | nil => exact List.Pairwise.nil
  | cons job rest ih =>
    obtain ⟨command, next⟩ := job
    refine List.pairwise_cons.mpr ⟨fun later member => ?_, ih (pid + 1)⟩
    have above := (mem_numbered member).2
    change pid < later.pid
    omega

theorem numbered_below {child : Child} {pid : Nat} {commands : List (Command × Option Command)}
    (member : child ∈ numbered pid commands) : child.pid < pid + commands.length := by
  induction commands generalizing pid with
  | nil => cases member
  | cons job rest ih =>
    obtain ⟨command, next⟩ := job
    rw [List.length_cons]
    rcases List.mem_cons.mp member with rfl | later
    · change pid < pid + (rest.length + 1)
      omega
    · have bound := ih later
      omega

theorem numbered_states (pid : Nat) (commands : List (Command × Option Command)) :
    (numbered pid commands).filterMap stateOf =
      commands.filterMap fun job => shadowmutes job.1 := by
  induction commands generalizing pid with
  | nil => rfl
  | cons job rest ih =>
    obtain ⟨command, next⟩ := job
    rw [numbered, List.filterMap_cons, List.filterMap_cons, ih]
    rfl

theorem takeEffect_issued (map : ShadowmuteMap) (commands : List (Command × Option Command)) :
    run takeEffect map (commands.map fun (command, next) => .issued command next) = map := by
  induction commands with
  | nil => rfl
  | cons job rest ih =>
    rw [List.map_cons, run_cons]
    exact ih

theorem getLast?_append_getD {α : Type} (first second : List α) (default : α) :
    (first ++ second).getLast?.getD default = second.getLast?.getD (first.getLast?.getD default) := by
  rw [List.getLast?_append]
  cases second.getLast? <;> rfl

section
variable {schedule : List RoundData} {grpcPort : Nat} {source : String}

/-- A turn that issues commands and ends none. -/
theorem Settling.issuing {s s' : LiveGame} (settling : Settling schedule grpcPort source s)
    (commands : List (Command × Option Command)) (children : s'.children = s.children ++ numbered s.pids commands)
    (pids : s'.pids = s.pids + commands.length)
    (issues : jobs s' = jobs s ++ commands.map fun (command, next) => .issued command next)
    (targets : ∀ job ∈ commands, ∀ state, shadowmutes job.1 = some state →
      job.1 = .shadowmute grpcPort source (!state))
    (follows : (commands.filterMap fun job => shadowmutes job.1).getLast?.getD (expected schedule s.game) =
      expected schedule s'.game) : Settling schedule grpcPort source s' := by
  have sameMap : murmurs s' = murmurs s := by
    unfold murmurs
    rw [issues, run_append, takeEffect_issued]
  have okBefore : AllOk s' → AllOk s := fun allOk command next ok member =>
    allOk command next ok (issues ▸ List.mem_append_left _ member)
  constructor
  · rw [children, List.pairwise_append]
    refine ⟨settling.ordered, numbered_ordered _ _, fun old before new after => ?_⟩
    have left := settling.below old before
    have right := (mem_numbered after).2
    omega
  · intro child member
    rw [children] at member
    rw [pids]
    rcases List.mem_append.mp member with before | after
    · have bound := settling.below child before
      omega
    · exact numbered_below after
  · intro child member state sets
    rw [children] at member
    rcases List.mem_append.mp member with before | after
    · exact settling.targets child before state sets
    · exact targets _ (mem_numbered after).1 state sets
  · intro allOk
    have settled := settling.settles (okBefore allOk)
    rw [sameMap, inFlight, children, List.filterMap_append, getLast?_append_getD, numbered_states]
    rw [inFlight] at settled
    rw [settled, follows]

theorem Settling.quiet {s s' : LiveGame} (settling : Settling schedule grpcPort source s) (block : List Effect)
    (effects : s'.effects = s.effects ++ block) (silent : block.filterMap jobOf = [])
    (children : s'.children = s.children) (pids : s'.pids = s.pids)
    (same : expected schedule s'.game = expected schedule s.game) : Settling schedule grpcPort source s' := by
  refine settling.issuing [] (by simp [children, numbered]) (by simp [pids]) ?_ (by simp) same.symm
  rw [jobs_append block effects, silent]
  rfl

/-- A process ends. Of the states still in flight the last one is as before, or nothing is in flight and
the map holds what the process brought about. -/
theorem Settling.exited {s : LiveGame} (settling : Settling schedule grpcPort source s) (orderly : Orderly s)
    {pid : Nat} {child : Child} {ok : Bool} (found : s.children.find? (·.pid = pid) = some child)
    (permitted : Permits schedule s (.finish pid ok)) : Settling schedule grpcPort source (s.finish pid ok) := by
  have game : (s.finish pid ok).game = s.game := by
    rw [finish_eq found]
    rfl
  have pids : (s.finish pid ok).pids = s.pids + (chained child ok).length := by
    rw [finish_eq found]
    rfl
  have spoofs : ∀ job ∈ chained child ok, shadowmutes job.1 = none := by
    intro job member
    obtain ⟨_, _, _, rfl⟩ := chained_spoof (orderly.followUp child (List.mem_of_find?_eq_some found)) member
    rfl
  obtain ⟨same, earlier, later, split, before⟩ := List.find?_eq_some_iff_append.mp found
  have same : child.pid = pid := by simpa using same
  have ordered := settling.ordered
  rw [split, List.pairwise_append, List.pairwise_cons] at ordered
  obtain ⟨_, ⟨above, _⟩, apart⟩ := ordered
  have rest : s.children.filter (·.pid ≠ pid) = earlier ++ later := by
    have first : earlier.filter (·.pid ≠ pid) = earlier := by
      rw [List.filter_eq_self]
      intro other member
      simpa using before other member
    have last : later.filter (·.pid ≠ pid) = later := by
      rw [List.filter_eq_self]
      intro other member
      have bound := above other member
      rw [same] at bound
      simpa using (Nat.ne_of_lt bound).symm
    rw [split, List.filter_append, first, List.filter_cons_of_neg (by simp [same]), last]
  have children : (s.finish pid ok).children = (earlier ++ later) ++ numbered s.pids (chained child ok) := by
    rw [children_finish found ok, rest]
  have within : ∀ other ∈ earlier ++ later, other ∈ s.children := by
    intro other member
    rw [← rest] at member
    exact List.mem_of_mem_filter member
  constructor
  · rw [children, List.pairwise_append]
    refine ⟨?_, numbered_ordered _ _, fun old before new after => ?_⟩
    · rw [← rest]
      exact settling.ordered.filter _
    · have left := settling.below old (within old before)
      have right := (mem_numbered after).2
      omega
  · intro other member
    rw [children] at member
    rw [pids]
    rcases List.mem_append.mp member with kept | new
    · have bound := settling.below other (within other kept)
      omega
    · exact numbered_below new
  · intro other member state sets
    rw [children] at member
    rcases List.mem_append.mp member with kept | new
    · exact settling.targets other (within other kept) state sets
    · rw [spoofs _ (mem_numbered new).1] at sets
      cases sets
  · intro allOk
    have all := jobs_finish found ok
    have success : ok = true := by
      apply allOk child.command child.next ok
      rw [all]
      exact List.mem_append_right _ (List.mem_cons_self ..)
    subst success
    have settled := settling.settles fun command next okay member =>
      allOk command next okay (all ▸ List.mem_append_left _ member)
    have map : murmurs (s.finish pid true) = takeEffect (murmurs s) (.ended child.command child.next true) := by
      unfold murmurs
      rw [all, run_append, run_cons, takeEffect_issued]
    have noneNew : (numbered s.pids (chained child true)).filterMap stateOf = [] := by
      rw [numbered_states, List.filterMap_eq_nil_iff]
      exact spoofs
    rw [game, map, ← settled, inFlight, inFlight, children, split, List.filterMap_append, noneNew, List.append_nil,
      List.filterMap_append, List.filterMap_append]
    cases sets : stateOf child with
    | none =>
      rw [List.filterMap_cons_none sets]
      cases command : child.command with
      | spoof port user file => rfl
      | shadowmute port target unmute =>
        rw [stateOf, command] at sets
        cases sets
    | some state =>
      have member : child ∈ s.children := List.mem_of_find?_eq_some found
      have target := settling.targets child member state sets
      have brought : takeEffect (murmurs s) (.ended child.command child.next true) grpcPort source = state := by
        rw [target]
        simp [takeEffect, shadowmuteUser]
      rw [brought, List.filterMap_cons_some sets, getLast?_append_getD, getLast?_append_getD, List.getLast?_cons]
      -- with nothing later in flight, whatever came earlier brings about the same state
      have earlierSame : ((earlier.filterMap stateOf).getLast?).getD state = state := by
        cases last : (earlier.filterMap stateOf).getLast? with
        | none => rfl
        | some other =>
          obtain ⟨old, present, sets'⟩ := List.mem_filterMap.mp (List.mem_of_getLast? last)
          have issuedBefore := apart old present child (List.mem_cons_self ..)
          exact permitted child member same old (within old (List.mem_append_left _ present)) (same ▸ issuedBefore)
            state other sets sets'
      rw [earlierSame]
      rfl

end

/-! The commands of one round, when the listeners stand in the order of their rounds: first the unmute of
the round before, then the mute of the round itself. -/

/-- What the listener of an attack in round `attacked` brings about on entering `round`. -/
def statesAt (round attacked : Nat) : List Bool :=
  if round = attacked then [true] else if round = attacked + 1 then [false] else []

theorem spawned_states (grpcPort round : Nat) (attacks : List Attack) :
    ((attacks.map (RoundCallback.scheduledAttack grpcPort)).flatMap (spawned round)).filterMap
        (fun job => shadowmutes job.1) = (attacks.map Attack.round).flatMap (statesAt round) := by
  induction attacks with
  | nil => rfl
  | cons attack attacks ih =>
    rw [List.map_cons, List.flatMap_cons, List.filterMap_append, ih, List.map_cons, List.flatMap_cons]
    congr 1
    by_cases launch : round = attack.round
    · subst launch
      simp [spawned, statesAt, Attack.mute, shadowmutes]
    · by_cases hasEnded : round = attack.round + 1
      · subst hasEnded
        simp [spawned, statesAt, Attack.unmute, shadowmutes]
      · simp [spawned, statesAt, launch, hasEnded]

theorem statesAt_past {round : Nat} {rounds : List Nat} (above : ∀ attacked ∈ rounds, round < attacked) :
    rounds.flatMap (statesAt round) = [] := by
  rw [List.flatMap_eq_nil_iff]
  intro attacked member
  have bound := above attacked member
  unfold statesAt
  rw [if_neg (by omega), if_neg (by omega)]

theorem last_of_attacked {round : Nat} {rounds : List Nat} (sorted : rounds.Pairwise (· < ·))
    (member : round ∈ rounds) : (rounds.flatMap (statesAt round)).getLast? = some true := by
  induction rounds with
  | nil => cases member
  | cons first rest ih =>
    rw [List.pairwise_cons] at sorted
    rw [List.flatMap_cons]
    rcases List.mem_cons.mp member with rfl | later
    · rw [statesAt_past sorted.1]
      simp [statesAt]
    · rw [List.getLast?_append, ih sorted.2 later]
      rfl

theorem states_of_unattacked {round : Nat} {rounds : List Nat} (free : round ∉ rounds) :
    ∀ state ∈ rounds.flatMap (statesAt round), state = false := by
  intro state member
  obtain ⟨attacked, among, sets⟩ := List.mem_flatMap.mp member
  have apart : round ≠ attacked := fun same => free (same ▸ among)
  unfold statesAt at sets
  rw [if_neg apart] at sets
  split at sets
  · exact List.mem_singleton.mp sets
  · cases sets

/-- After the commands of a round, the source is set to be muted just when that round carries an attack. -/
theorem last_state {round : Nat} {rounds : List Nat} (sorted : rounds.Pairwise (· < ·)) {muted : Bool}
    (before : muted = true → ∃ attacked ∈ rounds, round = attacked + 1) :
    (rounds.flatMap (statesAt round)).getLast?.getD muted = decide (round ∈ rounds) := by
  by_cases member : round ∈ rounds
  · rw [last_of_attacked sorted member]
    simp [member]
  · have states := states_of_unattacked member
    rw [decide_eq_false member]
    cases last : (rounds.flatMap (statesAt round)).getLast? with
    | some state => exact states state (List.mem_of_getLast? last)
    | none =>
      rw [List.getLast?_eq_none_iff] at last
      by_contra wrong
      obtain ⟨attacked, among, next⟩ := before (by simpa using wrong)
      have unmute : false ∈ rounds.flatMap (statesAt round) :=
        List.mem_flatMap.mpr ⟨attacked, among, by simp [statesAt, next]⟩
      rw [last] at unmute
      cases unmute

section
variable {schedule : List RoundData} {grpcPort : Nat} {source : String} {audioPath : ℚ → String}
  {attacks : List Attack} {start : LiveGame}

theorem spawned_targets (armed : Armed schedule grpcPort source audioPath attacks start) (round : Nat) :
    ∀ job ∈ start.game.cbMap.round.flatMap (spawned round), ∀ state, shadowmutes job.1 = some state →
      job.1 = .shadowmute grpcPort source (!state) := by
  intro job member state sets
  rw [armed.listeners] at member
  obtain ⟨callback, among, within⟩ := List.mem_flatMap.mp member
  rcases List.mem_cons.mp among with rfl | attacking
  · cases within
  · obtain ⟨attack, present, rfl⟩ := List.mem_map.mp attacking
    have from' := armed.sources attack present
    rcases List.mem_append.mp within with launch | hasEnded
    · split at launch
      · rw [List.mem_singleton.mp launch] at sets ⊢
        cases sets
        simp [Attack.mute, from']
      · cases launch
    · split at hasEnded
      · rw [List.mem_singleton.mp hasEnded] at sets ⊢
        cases sets
        simp [Attack.unmute, from']
      · cases hasEnded

/-- The states a game passes through within one turn have the processes it had before. -/
structure Beside (s base : LiveGame) : Prop where
  children : base.children = s.children
  pids : base.pids = s.pids
  jobs : jobs base = jobs s
  listeners : base.game.cbMap.round = s.game.cbMap.round

theorem Settling.enters (armed : Armed schedule grpcPort source audioPath attacks start)
    (sorted : (attacks.map Attack.round).Pairwise (· < ·)) {s base : LiveGame}
    (settling : Settling schedule grpcPort source s) (beside : Beside s base)
    (listeners : s.game.cbMap.round = start.game.cbMap.round) {round : Nat} (roundObj : Round)
    (started : base.game.startTime.isSome) (unended : base.game.endTime = none)
    (before : expected schedule s.game = true → ∃ attacked ∈ attacks.map Attack.round, round = attacked + 1) :
    Settling schedule grpcPort source (enter base round roundObj) := by
  have listeners := beside.listeners.trans listeners
  refine settling.issuing (base.game.cbMap.round.flatMap (spawned round)) ?_ ?_ ?_ ?_ ?_
  · rw [← beside.children, ← beside.pids]
    rfl
  · rw [← beside.pids]
    rfl
  · rw [← beside.jobs, jobs_append (s := base) (roundBlock (entered base round roundObj) round) rfl,
      observe_roundBlock jobOf_ignores]
    exact congrArg (jobs base ++ ·) (jobOf_execs _)
  · rw [listeners]
    exact spawned_targets armed round
  · have now : expected schedule (enter base round roundObj).game = decide (round ∈ attacks.map Attack.round) := by
      change (base.game.startTime.isSome && base.game.endTime.isNone && (attackOf schedule round).isSome) = _
      have same : decide (round ∈ attacks.map Attack.round) = decide ((attackOf schedule round).isSome = true) :=
        decide_eq_decide.mpr (armed.scheduled round)
      rw [started, unended, same, Bool.decide_coe]
      rfl
    rw [now, listeners, armed.listeners, List.flatMap_cons]
    change (((attacks.map (RoundCallback.scheduledAttack grpcPort)).flatMap (spawned round)).filterMap _).getLast?.getD _ = _
    rw [spawned_states, last_state sorted before]

theorem Settling.closes {s base : LiveGame} (settling : Settling schedule grpcPort source s)
    (beside : Beside s base) (round : Nat) (before : expected schedule s.game = false) :
    Settling schedule grpcPort source (close base round) := by
  have after : expected schedule (close base round).game = false := by
    change (base.game.startTime.isSome && (some base.now).isNone && _) = false
    simp
  refine settling.issuing [] ?_ beside.pids ?_ (by simp) (before.trans after.symm)
  · rw [← beside.children]
    exact (List.append_nil _).symm
  · rw [← beside.jobs, jobs_append (s := base) (stopBlock (GameFrames.ended (base.setCurrentRound round))) rfl,
      jobOf_stopBlock]
    rfl

theorem settling_move (armed : Armed schedule grpcPort source audioPath attacks start)
    (sorted : (attacks.map Attack.round).Pairwise (· < ·)) {s s' : LiveGame} {action : Action}
    (move : Move s action s') (permitted : Permits schedule s action) (orderly : Orderly s)
    (listeners : s.game.cbMap.round = start.game.cbMap.round) (settling : Settling schedule grpcPort source s) :
    Settling schedule grpcPort source s' := by
  have started : ∀ {s : LiveGame}, Settling schedule grpcPort source s →
      Settling schedule grpcPort source (adding s (startBlock s.game ++ stateBlock s.game)) := by
    intro s settling
    refine settling.quiet _ rfl ?_ rfl rfl rfl
    rw [List.filterMap_append, observe_startBlock jobOf_ignores, observe_stateBlock jobOf_ignores]
    rfl
  have begins : ∀ players player, Beside s (begin s players player) := fun players player =>
    ⟨rfl, rfl, (jobs_append [.trigger (.playerReady player)] rfl).trans (List.append_nil _), rfl⟩
  have idle : Unstarted s → expected schedule s.game = false := by
    intro unstarted
    simp [expected, unstarted.startTime]
  cases move with
  | still action refused => exact settling
  | readied players player block published ids =>
    refine settling.quiet _ rfl ?_ rfl rfl rfl
    rw [filterMap_cons_toList]
    rcases published with rfl | ⟨rfl, _⟩
    · rw [observe_stateBlock jobOf_ignores]
      rfl
    · rfl
  | exited child ok pid found => exact settling.exited orderly found permitted
  | joined socket => exact settling.quiet [] (by simp [LiveGame.onState, LiveGame.on]) rfl rfl rfl rfl
  | begun players player roundObj unstarted first ids s' result =>
    subst result
    apply started
    refine settling.enters armed sorted (begins players player) listeners roundObj rfl unstarted.endTime fun attacking => ?_
    rw [idle unstarted] at attacking
    cases attacking
  | begunEmpty players player unstarted empty ids s' result =>
    subst result
    exact started (settling.closes (begins players player) 0 (idle unstarted))
  | answered action answer roundObj opened current accepted =>
    exact settling.quiet (answerBlock s.game answer) rfl (observe_answerBlock jobOf_ignores _ _) rfl rfl rfl
  | advanced handle roundObj gap next pending =>
    have beside : Beside s { s with timeouts := [] } := ⟨rfl, rfl, rfl, rfl⟩
    refine settling.enters armed sorted beside listeners roundObj gap.startTime gap.endTime fun attacking => ?_
    refine ⟨s.game.currentRound, (armed.scheduled _).mpr ?_, rfl⟩
    simp only [expected, Bool.and_eq_true] at attacking
    exact attacking.2
  | finished handle gap last pending =>
    obtain ⟨ms, only⟩ := pending
    apply settling.closes ⟨rfl, rfl, rfl, rfl⟩
    have free := permitted _ (only ▸ List.mem_singleton_self _) rfl (by rw [last])
    simp [expected, free]

/-- In a run whose every turn is permitted, the source user is muted just in the attack rounds, whenever all
commands have completed. -/
theorem mute_follows (armed : Armed schedule grpcPort source audioPath attacks start)
    (sorted : (attacks.map Attack.round).Pairwise (· < ·)) (actions : List Action)
    (permitted : Permitted step (Permits schedule) start actions) :
    Follows schedule grpcPort (run step start actions) := by
  have noJobs : jobs start = [] := by simp [jobs, armed.fresh.effects]
  have settling : Settling schedule grpcPort source start := by
    refine ⟨by simp [armed.children], by simp [armed.children], by simp [armed.children], fun _ => ?_⟩
    simp [inFlight, armed.children, murmurs, noJobs, expected, armed.fresh.startTime]
  have orderly : Orderly start := by
    refine ⟨by simp [noJobs], by simp [noJobs], by simp [armed.children], by simp [armed.children]⟩
  have all := run_invariant_of_permitted (fun s => ((Phase s ∧ Wired s) ∧ s.game.cbMap.round = start.game.cbMap.round ∧
      playerIds s.game.players = playerIds start.game.players) ∧ Orderly s ∧ Settling schedule grpcPort source s)
    (by
      rintro s action allowed ⟨⟨⟨phase, wired⟩, listeners, ids⟩, orderly, settling⟩
      have move := move_step phase wired action
      exact ⟨⟨phase_run phase wired [action], (listeners_move move).1.trans listeners, (playerIds_move move).trans ids⟩,
        orderly_move move orderly, settling_move armed sorted move allowed orderly listeners settling⟩)
    permitted ⟨⟨⟨.unstarted (unstarted_of_fresh armed.fresh), armed.fresh.wired⟩, rfl, rfl⟩, orderly, settling⟩
  generalize run step start actions = s at all
  obtain ⟨⟨_, _, ids⟩, _, settling⟩ := all
  intro none allOk player first
  obtain ⟨player', first', same⟩ := armed.player
  have source : player.playerId = source := by
    have heads := congrArg List.head? ids
    rw [playerIds, playerIds, List.head?_map, List.head?_map, first, first', Option.map_some, Option.map_some,
      Option.some.injEq] at heads
    exact heads.trans same
  have settled := settling.settles allOk
  rw [inFlight, none] at settled
  rw [source, ← settled]
  rfl

end

/-- One round, and it carries an attack. -/
def sampleSchedule : List RoundData :=
  [{ name := .button, msLength := none, solution := .number 0, options := some [0, 1], attack := some 1 }]

def sampleAttack : Attack where
  attackId := 1
  sessionId := 1
  gameId := "foobar"
  round := 0
  sourceUser := "pete"
  targetUser := "kate"
  audioPath := "/var/fakes/pete/1.wav"

def attackedSample : LiveGame where
  game := { newGame {
    gameId := "foobar"
    players := [createPlayer "pete", createPlayer "kate"]
    rounds := [buttonRound 0 [0, 1] none] } with
      cbMap := { round := [.triggerState, .scheduledAttack 50051 sampleAttack] } }
  clock := fun _ => 0

theorem attackedSample_armed :
    Armed sampleSchedule 50051 "pete" (fun _ => "/var/fakes/pete/1.wav") [sampleAttack] attackedSample where
  fresh := ⟨rfl, rfl, rfl, ⟨sampleSchedule, rfl⟩, rfl, rfl, ⟨rfl, rfl, rfl, ⟨[], rfl⟩, ⟨[], rfl⟩, ⟨_, rfl⟩⟩⟩
  created := rfl
  children := rfl
  player := ⟨_, rfl, rfl⟩
  listeners := rfl
  distinct := by decide
  scheduled := by
    intro round
    cases round with
    | zero => decide
    | succ round => simp [sampleAttack, attackOf, sampleSchedule]
  sources := by decide
  files := by decide

/-- The round is entered and its attack launched. The mute and the spoof both succeed. -/
def attackedRun : List Action :=
  [.playerReady "pete" true, .playerReady "kate" true, .finish 0 true, .finish 1 true]

theorem mute_follows_sample : Follows sampleSchedule 50051 (run step attackedSample attackedRun) := by
  apply mute_follows attackedSample_armed (List.pairwise_singleton _ _)
  refine ⟨trivial, trivial, ?_, ?_, trivial⟩
  · intro child _ _ earlier _ before
    exact absurd before (Nat.not_lt_zero _)
  · intro child _ _ earlier present before
    have only : ∀ child ∈ (run step attackedSample (attackedRun.take 3)).children, ¬child.pid < 1 := by decide
    exact absurd before (only earlier present)

/-- The round is answered after that, and the game stops. -/
def stoppedRun : List Action := attackedRun ++ [.answer { round := .ofNat 0 }, .fire 1]

theorem stopped_muted : ¬∀ actions, Follows sampleSchedule 50051 (run step attackedSample actions) := by
  intro follows
  have ends : jobs (run step attackedSample stoppedRun) =
      [.issued (sampleAttack.mute 50051) (some (sampleAttack.spoof 50051)),
        .ended (sampleAttack.mute 50051) (some (sampleAttack.spoof 50051)) true,
        .issued (sampleAttack.spoof 50051) none, .ended (sampleAttack.spoof 50051) none true] := by decide
  have allOk : AllOk (run step attackedSample stoppedRun) := by
    intro command next ok member
    rw [ends] at member
    simp only [List.mem_cons, Job.ended.injEq, reduceCtorEq, false_or, List.not_mem_nil, or_false] at member
    rcases member with ⟨_, _, same⟩ | ⟨_, _, same⟩ <;> exact same
  have muted : murmurs (run step attackedSample stoppedRun) 50051 "pete" = true := by
    unfold murmurs
    rw [ends]
    decide
  have hasEnded : expected sampleSchedule (run step attackedSample stoppedRun).game = false := by decide
  have status := follows stoppedRun (by decide) allOk { playerId := "pete", ready := true } (by decide)
  rw [hasEnded] at status
  exact absurd (status.mp muted) (by decide)

end DfStudy.MuteStatus
