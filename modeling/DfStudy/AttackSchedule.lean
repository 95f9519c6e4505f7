import DfStudy.GameInvariant

/-! The attacks of a schedule on a running game: a game whose listeners carry them launches each one
as it enters its round, and launches nothing else. -/

namespace DfStudy.AttackSchedule
open Rounds Attacks Games GameFrames GameControl GameInvariant Support.Machine

/-- The attack a schedule gives a round. -/
def attackOf (schedule : List RoundData) (round : Nat) : Option ℚ :=
  schedule[round]?.bind RoundData.attack

/-- A new game that carries the attacks of its schedule. They may be registered in any order. -/
structure Armed (schedule : List RoundData) (grpcPort : Nat) (source : String) (audioPath : ℚ → String)
    (attacks : List Attack) (s : LiveGame) : Prop where
  fresh : Fresh s
  created : schedule.mapM createRound = .ok s.game.rounds
  children : s.children = []
  player : ∃ player, s.game.players.head? = some player ∧ player.playerId = source
  listeners : s.game.cbMap.round = .triggerState :: attacks.map (.scheduledAttack grpcPort)
  distinct : (attacks.map Attack.round).Nodup
  scheduled : ∀ round, round ∈ attacks.map Attack.round ↔ (attackOf schedule round).isSome
  sources : ∀ attack ∈ attacks, attack.sourceUser = source
  files : ∀ attack ∈ attacks, (attackOf schedule attack.round).map audioPath = some attack.audioPath

/-- What can be seen of the rounds entered and of the attacks launched. -/
inductive Mark where
  | entered (round : Nat)
  | launched (command : Command) (next : Option Command)
  deriving DecidableEq

def mark : Effect → Option Mark
  | .trigger (.round round) => some (.entered round)
  | .exec (.shadowmute grpcPort target false) next => some (.launched (.shadowmute grpcPort target false) next)
  | _ => none

def timeline (s : LiveGame) : List Mark := s.effects.filterMap mark

/-- The launch a round calls for: mute the source, and spoof its voice once that has succeeded. -/
def launchOf (schedule : List RoundData) (grpcPort : Nat) (source : String) (audioPath : ℚ → String)
    (round : Nat) : List Mark :=
  (attackOf schedule round).toList.map fun value =>
    .launched (.shadowmute grpcPort source false) (some (.spoof grpcPort source (audioPath value)))

def expectedTimeline (launches : Nat → List Mark) (rounds : Nat) : List Mark :=
  (List.range rounds).flatMap fun round => .entered round :: launches round

/-- How many rounds have been entered. -/
def roundsEntered (game : Game) : Nat :=
  if game.startTime.isNone then 0 else min (game.currentRound + 1) game.rounds.length

/-! The processes of a game: which commands were issued, and how they ended. -/

inductive Job where
  | issued (command : Command) (next : Option Command)
  | ended (command : Command) (next : Option Command) (ok : Bool)
  deriving DecidableEq

def jobOf : Effect → Option Job
  | .exec command next => some (.issued command next)
  | .exit child ok => some (.ended child.command child.next ok)
  | _ => none

def jobs (s : LiveGame) : List Job := s.effects.filterMap jobOf

/-- A spoof command that was issued. -/
def spoofed : Job → Option Command
  | .issued (.spoof grpcPort user file) _ => some (.spoof grpcPort user file)
  | _ => none

/-- The command due after a process that succeeded. -/
def due : Job → Option Command
  | .ended _ next true => next
  | _ => none

/-- Nothing but a spoof is chained to a command. -/
def FollowUp (next : Option Command) : Prop :=
  ∀ command, next = some command → spoofed (.issued command none) = some command

/-- Spoofs are issued just when the command they are chained to has succeeded. -/
structure Orderly (s : LiveGame) : Prop where
  spoofs : (jobs s).filterMap spoofed = (jobs s).filterMap due
  ended : ∀ command next ok, .ended command next ok ∈ jobs s → .issued command next ∈ jobs s
  running : ∀ child ∈ s.children, .issued child.command child.next ∈ jobs s
  followUp : ∀ child ∈ s.children, FollowUp child.next

theorem mark_ignores (effect : Effect) (quiet : routine effect) : mark effect = none := by
  cases effect with
  | trigger event => cases event <;> first | rfl | cases quiet
  | _ => first | rfl | cases quiet

theorem timeline_append {s s' : LiveGame} (block : List Effect) (effects : s'.effects = s.effects ++ block) :
    timeline s' = timeline s ++ block.filterMap mark := by
  simp [timeline, effects]

theorem expectedTimeline_succ (launches : Nat → List Mark) (rounds : Nat) :
    expectedTimeline launches (rounds + 1) = expectedTimeline launches rounds ++ .entered rounds :: launches rounds := by
  simp [expectedTimeline, List.range_succ]

/-- The attack of a round, among rows of distinct rounds. -/
theorem filter_round {attacks : List Attack} (distinct : (attacks.map Attack.round).Nodup) {attack : Attack}
    (member : attack ∈ attacks) : attacks.filter (·.round = attack.round) = [attack] := by
  induction attacks with
  | nil => cases member
  | cons first rest ih =>
    rw [List.map_cons, List.nodup_cons] at distinct
    rcases List.mem_cons.mp member with rfl | later
    · have others : rest.filter (·.round = attack.round) = [] := by
        rw [List.filter_eq_nil_iff]
        intro other present
        have apart := fun same => distinct.1 (List.mem_map.mpr ⟨other, present, same⟩)
        simpa using apart
      simp [others]
    · have apart : ¬first.round = attack.round := fun same =>
        distinct.1 (List.mem_map.mpr ⟨attack, later, same.symm⟩)
      rw [List.filter_cons_of_neg (by simpa using apart)]
      exact ih distinct.2 later

/-- Of what the attacks of a game spawn in a round, the launches are marked. -/
theorem marks_spawned (grpcPort round : Nat) (attacks : List Attack) :
    ((attacks.map (RoundCallback.scheduledAttack grpcPort)).flatMap (spawned round)).filterMap
        (fun (command, next) => mark (.exec command next)) =
      (attacks.filter (·.round = round)).map fun attack =>
        .launched (attack.mute grpcPort) (some (attack.spoof grpcPort)) := by
  induction attacks with
  | nil => rfl
  | cons attack attacks ih =>
    rw [List.map_cons, List.flatMap_cons, List.filterMap_append, ih]
    by_cases launch : round = attack.round
    · subst launch
      simp [spawned, mark, Attack.mute]
    · by_cases unmutes : round = attack.round + 1
      · subst unmutes
        simp [spawned, mark, Attack.unmute]
      · simp [spawned, launch, unmutes, Ne.symm launch]

/-- Entering a round launches its attack, and the unmute of the round before is no launch. -/
theorem launches_of_listeners {schedule : List RoundData} {grpcPort : Nat} {source : String}
    {audioPath : ℚ → String} {attacks : List Attack} {s : LiveGame}
    (armed : Armed schedule grpcPort source audioPath attacks s) (game : Game)
    (same : game.cbMap.round = s.game.cbMap.round) (round : Nat) :
    (roundBlock game round).filterMap mark = .entered round :: launchOf schedule grpcPort source audioPath round := by
  have all : (roundBlock game round).filterMap mark = .entered round ::
      (attacks.filter (·.round = round)).map fun attack =>
        .launched (attack.mute grpcPort) (some (attack.spoof grpcPort)) := by
    rw [observe_roundBlock mark_ignores, same, armed.listeners, List.flatMap_cons]
    exact congrArg _ (marks_spawned grpcPort round attacks)
  rw [all]
  congr 1
  cases found : attackOf schedule round with
  | none =>
    have absent : attacks.filter (·.round = round) = [] := by
      rw [List.filter_eq_nil_iff]
      intro attack member
      have unscheduled := mt (armed.scheduled round).mp (by simp [found])
      have apart := fun same => unscheduled (List.mem_map.mpr ⟨attack, member, same⟩)
      simpa using apart
    simp [absent, launchOf, found]
  | some value =>
    obtain ⟨attack, member, rfl⟩ := List.mem_map.mp ((armed.scheduled round).mpr (by simp [found]))
    have file := armed.files attack member
    rw [found, Option.map_some, Option.some.injEq] at file
    rw [filter_round armed.distinct member]
    simp [launchOf, found, Attack.mute, Attack.spoof, armed.sources attack member, file]

/-! What a turn adds to the timeline and to the processes. -/

theorem jobOf_ignores (effect : Effect) (quiet : routine effect) : jobOf effect = none := by
  cases effect with
  | exec command next => cases quiet
  | exit child ok => cases quiet
  | _ => rfl

theorem jobOf_execs (commands : List (Command × Option Command)) :
    (commands.filterMap fun (command, next) => jobOf (.exec command next)) =
      commands.map fun (command, next) => .issued command next := by
  induction commands with
  | nil => rfl
  | cons job rest ih =>
    rw [List.filterMap_cons, ih]
    rfl

theorem jobs_append {s s' : LiveGame} (block : List Effect) (effects : s'.effects = s.effects ++ block) :
    jobs s' = jobs s ++ block.filterMap jobOf := by
  simp [jobs, effects]

theorem mem_numbered {child : Child} {pid : Nat} {commands : List (Command × Option Command)}
    (member : child ∈ numbered pid commands) : (child.command, child.next) ∈ commands ∧ pid ≤ child.pid := by
  induction commands generalizing pid with
  | nil => cases member
  | cons job rest ih =>
    obtain ⟨command, next⟩ := job
    rcases List.mem_cons.mp member with rfl | later
    · exact ⟨List.mem_cons_self .., le_rfl⟩
    · obtain ⟨among, above⟩ := ih later
      exact ⟨List.mem_cons_of_mem _ among, by omega⟩

/-- A turn that only issues commands, none of them a spoof. -/
theorem Orderly.issuing {s s' : LiveGame} (orderly : Orderly s) (block : List Effect)
    (commands : List (Command × Option Command)) (effects : s'.effects = s.effects ++ block)
    (children : s'.children = s.children ++ numbered s.pids commands)
    (issues : block.filterMap jobOf = commands.map fun (command, next) => .issued command next)
    (mutes : ∀ job ∈ commands, spoofed (.issued job.1 job.2) = none ∧ FollowUp job.2) : Orderly s' := by
  have all : jobs s' = jobs s ++ commands.map fun (command, next) => .issued command next := by
    rw [jobs_append block effects, issues]
  have noSpoofs : (commands.map fun (command, next) => Job.issued command next).filterMap spoofed = [] := by
    rw [List.filterMap_eq_nil_iff]
    intro job member
    obtain ⟨command, present, rfl⟩ := List.mem_map.mp member
    exact (mutes command present).1
  have noneDue : (commands.map fun (command, next) => Job.issued command next).filterMap due = [] := by
    rw [List.filterMap_map]
    exact List.filterMap_eq_nil_iff.mpr fun _ _ => rfl
  constructor
  · rw [all, List.filterMap_append, List.filterMap_append, noSpoofs, noneDue, orderly.spoofs]
  · intro command next ok member
    rw [all] at member ⊢
    rcases List.mem_append.mp member with before | new
    · exact List.mem_append_left _ (orderly.ended command next ok before)
    · obtain ⟨_, _, clash⟩ := List.mem_map.mp new
      cases clash
  · intro child member
    rw [all]
    rw [children] at member
    rcases List.mem_append.mp member with before | new
    · exact List.mem_append_left _ (orderly.running child before)
    · exact List.mem_append_right _ (List.mem_map.mpr ⟨_, (mem_numbered new).1, rfl⟩)
  · intro child member
    rw [children] at member
    rcases List.mem_append.mp member with before | new
    · exact orderly.followUp child before
    · exact (mutes _ (mem_numbered new).1).2

theorem Orderly.quiet {s s' : LiveGame} (orderly : Orderly s) (block : List Effect)
    (effects : s'.effects = s.effects ++ block) (children : s'.children = s.children)
    (silent : block.filterMap jobOf = []) : Orderly s' :=
  orderly.issuing block [] effects (by simp [children, numbered]) (by simp [silent]) (by simp)

/-- The listeners of a round mute and unmute, and chain spoofs to the mutes. -/
theorem spawned_mutes (round : Nat) (callback : RoundCallback) :
    ∀ job ∈ spawned round callback, spoofed (.issued job.1 job.2) = none ∧ FollowUp job.2 := by
  intro job member
  cases callback with
  | triggerState => cases member
  | scheduledAttack grpcPort attack =>
    rcases List.mem_append.mp member with launch | unmutes
    · split at launch
      · rw [List.mem_singleton.mp launch]
        refine ⟨rfl, fun command chained => ?_⟩
        cases chained
        rfl
      · cases launch
    · split at unmutes
      · rw [List.mem_singleton.mp unmutes]
        exact ⟨rfl, fun command chained => by cases chained⟩
      · cases unmutes

theorem Orderly.enter {s : LiveGame} (orderly : Orderly s) (round : Nat) (roundObj : Round) :
    Orderly (enter s round roundObj) := by
  refine orderly.issuing (roundBlock (entered s round roundObj) round) (s.game.cbMap.round.flatMap (spawned round))
    rfl rfl ?_ ?_
  · rw [observe_roundBlock jobOf_ignores]
    exact jobOf_execs _
  · intro job member
    obtain ⟨callback, _, within⟩ := List.mem_flatMap.mp member
    exact spawned_mutes round callback job within

theorem jobOf_stopBlock (game : Game) : (stopBlock game).filterMap jobOf = [] := by
  rw [observe_stopBlock jobOf_ignores]
  simp [jobOf]

theorem Orderly.close {s : LiveGame} (orderly : Orderly s) (round : Nat) : Orderly (close s round) :=
  orderly.quiet (stopBlock _) rfl rfl (jobOf_stopBlock _)

theorem chained_spoofed {child : Child} (follows : FollowUp child.next) (ok : Bool) :
    ((chained child ok).map fun (command, next) => Job.issued command next).filterMap spoofed =
      (due (.ended child.command child.next ok)).toList := by
  cases ok with
  | false => rfl
  | true =>
    cases next : child.next with
    | none => simp [chained, due, next]
    | some command => simp [chained, due, next, follows command next]

theorem chained_last {child : Child} {ok : Bool} {job : Command × Option Command} (member : job ∈ chained child ok) :
    job.2 = none := by
  cases ok with
  | false => cases member
  | true =>
    obtain ⟨command, _, rfl⟩ := List.mem_map.mp member
    rfl

theorem jobs_finish {s : LiveGame} {pid : Nat} {child : Child}
    (found : s.children.find? (·.pid = pid) = some child) (ok : Bool) :
    jobs (s.finish pid ok) = jobs s ++ .ended child.command child.next ok ::
      (chained child ok).map fun (command, next) => .issued command next := by
  rw [finish_eq found, jobs_append (s := s) _ rfl, filterMap_cons_toList, List.filterMap_map]
  exact congrArg (fun later => jobs s ++ ([_] ++ later)) (jobOf_execs _)

theorem children_finish {s : LiveGame} {pid : Nat} {child : Child}
    (found : s.children.find? (·.pid = pid) = some child) (ok : Bool) :
    (s.finish pid ok).children = s.children.filter (·.pid ≠ pid) ++ numbered s.pids (chained child ok) := by
  rw [finish_eq found]
  rfl

/-- A process ends, and the command chained to it is issued if it succeeded. -/
theorem Orderly.exited {s : LiveGame} (orderly : Orderly s) {pid : Nat} {child : Child}
    (found : s.children.find? (·.pid = pid) = some child) (ok : Bool) : Orderly (s.finish pid ok) := by
  have known := orderly.running child (List.mem_of_find?_eq_some found)
  have follows := orderly.followUp child (List.mem_of_find?_eq_some found)
  have all := jobs_finish found ok
  have left := children_finish found ok
  constructor
  · rw [all, List.filterMap_append, List.filterMap_append, filterMap_cons_toList, filterMap_cons_toList,
      chained_spoofed follows, orderly.spoofs]
    have noneDue : ((chained child ok).map fun (command, next) => Job.issued command next).filterMap due = [] := by
      rw [List.filterMap_map]
      exact List.filterMap_eq_nil_iff.mpr fun _ _ => rfl
    rw [noneDue]
    simp [spoofed]
  · intro command next okay member
    rw [all] at member ⊢
    apply List.mem_append_left
    rcases List.mem_append.mp member with before | new
    · exact orderly.ended command next okay before
    · rcases List.mem_cons.mp new with same | later
      · cases same
        exact known
      · obtain ⟨_, _, clash⟩ := List.mem_map.mp later
        cases clash
  · intro other member
    rw [all]
    rw [left] at member
    rcases List.mem_append.mp member with kept | new
    · exact List.mem_append_left _ (orderly.running other (List.mem_of_mem_filter kept))
    · apply List.mem_append_right
      exact List.mem_cons_of_mem _ (List.mem_map.mpr ⟨_, (mem_numbered new).1, rfl⟩)
  · intro other member
    rw [left] at member
    rcases List.mem_append.mp member with kept | new
    · exact orderly.followUp other (List.mem_of_mem_filter kept)
    · intro command chains
      have last := chained_last (mem_numbered new).1
      rw [chains] at last
      cases last

theorem orderly_move {s s' : LiveGame} {action : Action} (move : Move s action s') (orderly : Orderly s) :
    Orderly s' := by
  have started : ∀ {s : LiveGame}, Orderly s → Orderly (adding s (startBlock s.game ++ stateBlock s.game)) := by
    intro s orderly
    refine orderly.quiet _ rfl rfl ?_
    rw [List.filterMap_append, observe_startBlock jobOf_ignores, observe_stateBlock jobOf_ignores]
    rfl
  have begins : ∀ players player, Orderly (begin s players player) := fun players player =>
    orderly.quiet [.trigger (.playerReady player)] rfl rfl rfl
  cases move with
  | still action refused => exact orderly
  | readied players player block published ids =>
    refine orderly.quiet _ rfl rfl ?_
    rw [filterMap_cons_toList]
    rcases published with rfl | ⟨rfl, _⟩
    · rw [observe_stateBlock jobOf_ignores]
      rfl
    · rfl
  | exited child ok pid found => exact orderly.exited found ok
  | joined socket => exact orderly.quiet [] (by simp [LiveGame.onState, LiveGame.on]) rfl rfl
  | begun players player roundObj unstarted first ids s' result =>
    subst result
    exact started ((begins players player).enter 0 roundObj)
  | begunEmpty players player unstarted empty ids s' result =>
    subst result
    exact started ((begins players player).close 0)
  | answered action answer roundObj opened current accepted =>
    exact orderly.quiet (answerBlock s.game answer) rfl rfl (observe_answerBlock jobOf_ignores _ _)
  | advanced handle roundObj gap next pending =>
    exact Orderly.enter (s := { s with timeouts := [] }) (orderly.quiet [] (by simp) rfl rfl) _ roundObj
  | finished handle gap last pending => exact orderly.close _

/-- The timeline after `enter`, under listeners whose launches are known. -/
theorem timeline_enter {launches : Nat → List Mark} {s : LiveGame} {round : Nat} {roundObj : Round}
    (enters : ∀ game, game.cbMap.round = s.game.cbMap.round → ∀ round,
      (roundBlock game round).filterMap mark = .entered round :: launches round)
    (seen : timeline s = expectedTimeline launches round) :
    timeline (enter s round roundObj) = expectedTimeline launches (round + 1) := by
  rw [timeline_append (s := s) (roundBlock (entered s round roundObj) round) rfl,
    enters (entered s round roundObj) rfl round, seen, expectedTimeline_succ]

/-- Only spoofs are chained. -/
theorem chained_spoof {child : Child} (follows : FollowUp child.next) {ok : Bool}
    {job : Command × Option Command} (member : job ∈ chained child ok) :
    ∃ grpcPort user file, job = (.spoof grpcPort user file, none) := by
  cases ok with
  | false => cases member
  | true =>
    obtain ⟨command, chains, rfl⟩ := List.mem_map.mp member
    have spoof := follows command (Option.mem_toList.mp chains)
    cases command with
    | spoof grpcPort user file => exact ⟨grpcPort, user, file, rfl⟩
    | shadowmute grpcPort target unmute => cases spoof

theorem chained_unmarked {child : Child} (follows : FollowUp child.next) (ok : Bool) :
    (chained child ok).filterMap (mark ∘ fun (command, next) => .exec command next) = [] := by
  rw [List.filterMap_eq_nil_iff]
  intro job member
  obtain ⟨_, _, _, rfl⟩ := chained_spoof follows member
  rfl

theorem timeline_close {s : LiveGame} (round : Nat) : timeline (close s round) = timeline s := by
  rw [timeline_append (s := s) (stopBlock (GameFrames.ended (s.setCurrentRound round))) rfl,
    observe_stopBlock mark_ignores]
  simp [mark]

theorem timeline_started (s : LiveGame) : timeline (adding s (startBlock s.game ++ stateBlock s.game)) = timeline s := by
  rw [timeline_append (s := s) _ rfl, List.filterMap_append, observe_startBlock mark_ignores,
    observe_stateBlock mark_ignores]
  simp

theorem roundsEntered_started {game : Game} (started : game.startTime.isSome) :
    roundsEntered game = min (game.currentRound + 1) game.rounds.length := by
  unfold roundsEntered
  rw [if_neg (by simpa using Option.isSome_iff_ne_none.mp started)]

theorem timeline_move {launches : Nat → List Mark} {s s' : LiveGame} {action : Action} (move : Move s action s')
    (orderly : Orderly s) (enters : ∀ game, game.cbMap.round = s.game.cbMap.round → ∀ round,
      (roundBlock game round).filterMap mark = .entered round :: launches round)
    (seen : timeline s = expectedTimeline launches (roundsEntered s.game)) :
    timeline s' = expectedTimeline launches (roundsEntered s'.game) := by
  have begins : Unstarted s → ∀ players player, timeline (begin s players player) = expectedTimeline launches 0 := by
    intro unstarted players player
    have none : roundsEntered s.game = 0 := by simp [roundsEntered, unstarted.startTime]
    rw [timeline_append (s := s) [.trigger (.playerReady player)] rfl, seen, none]
    rfl
  cases move with
  | still action refused => exact seen
  | readied players player block published ids =>
    have quiet : (Effect.trigger (.playerReady player) :: block).filterMap mark = [] := by
      rw [filterMap_cons_toList]
      rcases published with rfl | ⟨rfl, _⟩
      · rw [observe_stateBlock mark_ignores]
        rfl
      · rfl
    rw [timeline_append (s := s) _ rfl, quiet, List.append_nil, seen]
    rfl
  | exited child ok pid found =>
    have follows := orderly.followUp child (List.mem_of_find?_eq_some found)
    rw [finish_eq found, timeline_append (s := s) _ rfl, filterMap_cons_toList, List.filterMap_map,
      chained_unmarked follows ok]
    change timeline s ++ [] = _
    rw [List.append_nil, seen]
    rfl
  | joined socket => exact seen
  | begun players player roundObj unstarted first ids s' result =>
    subst result
    have positive := (List.getElem?_eq_some_iff.mp first).1
    have one : roundsEntered (enter (begin s players player) 0 roundObj).game = 1 := by
      rw [roundsEntered_started rfl]
      change min 1 (s.game.rounds.set 0 _).length = 1
      rw [List.length_set]
      omega
    rw [timeline_started]
    change _ = expectedTimeline launches (roundsEntered (enter (begin s players player) 0 roundObj).game)
    rw [one, timeline_enter (s := begin s players player) enters (begins unstarted players player)]
  | begunEmpty players player unstarted empty ids s' result =>
    subst result
    have none : roundsEntered (close (begin s players player) 0).game = 0 := by
      rw [roundsEntered_started rfl]
      change min 1 s.game.rounds.length = 0
      rw [empty]
      rfl
    rw [timeline_started]
    change _ = expectedTimeline launches (roundsEntered (close (begin s players player) 0).game)
    rw [none, timeline_close, begins unstarted]
  | answered action answer roundObj opened current accepted =>
    have same : roundsEntered (settle s s.game.currentRound roundObj answer).game = roundsEntered s.game := by
      rw [roundsEntered_started opened.startTime, roundsEntered_started (by exact opened.startTime)]
      change min _ (s.game.rounds.set _ _).length = _
      rw [List.length_set]
      rfl
    rw [same, ← seen, timeline_append (s := s) (answerBlock s.game answer) rfl, observe_answerBlock mark_ignores,
      List.append_nil]
  | advanced handle roundObj gap next pending =>
    have bound := (List.getElem?_eq_some_iff.mp next).1
    have before : roundsEntered s.game = s.game.currentRound + 1 := by
      rw [roundsEntered_started gap.startTime]
      omega
    have after : roundsEntered (enter { s with timeouts := [] } (s.game.currentRound + 1) roundObj).game =
        s.game.currentRound + 1 + 1 := by
      rw [roundsEntered_started (by exact gap.startTime)]
      change min (s.game.currentRound + 1 + 1) (s.game.rounds.set _ _).length = _
      rw [List.length_set]
      omega
    rw [after, ← timeline_enter (s := { s with timeouts := [] }) enters (by rw [← before]; exact seen)]
  | finished handle gap last pending =>
    have same : roundsEntered (close s (s.game.currentRound + 1)).game = roundsEntered s.game := by
      rw [roundsEntered_started gap.startTime, roundsEntered_started (by exact gap.startTime)]
      change min (s.game.currentRound + 1 + 1) s.game.rounds.length = min (s.game.currentRound + 1) s.game.rounds.length
      omega
    rw [same, timeline_close, seen]

/-- Every run of an armed game launches the attack of each round it enters, in order and once, and spoofs
the source after each mute that succeeds. -/
theorem armed_run {schedule : List RoundData} {grpcPort : Nat} {source : String} {audioPath : ℚ → String}
    {attacks : List Attack} {s : LiveGame} (armed : Armed schedule grpcPort source audioPath attacks s)
    (actions : List Action) :
    timeline (run step s actions) = expectedTimeline (launchOf schedule grpcPort source audioPath)
        (roundsEntered (run step s actions).game) ∧ Orderly (run step s actions) := by
  have none : jobs s = [] := by simp [jobs, armed.fresh.effects]
  have orderly : Orderly s := by
    constructor
    · rw [none]
      rfl
    · intro command next ok member
      rw [none] at member
      cases member
    · simp [armed.children]
    · simp [armed.children]
  have seen : timeline s = expectedTimeline (launchOf schedule grpcPort source audioPath) (roundsEntered s.game) := by
    simp [timeline, armed.fresh.effects, roundsEntered, armed.fresh.startTime, expectedTimeline]
  have all : ((Phase (run step s actions) ∧ Wired (run step s actions)) ∧
      (run step s actions).game.cbMap.round = s.game.cbMap.round) ∧
      timeline (run step s actions) = expectedTimeline (launchOf schedule grpcPort source audioPath)
        (roundsEntered (run step s actions).game) ∧ Orderly (run step s actions) := by
    apply run_invariant (fun s' => ((Phase s' ∧ Wired s') ∧ s'.game.cbMap.round = s.game.cbMap.round) ∧
      timeline s' = expectedTimeline (launchOf schedule grpcPort source audioPath) (roundsEntered s'.game) ∧ Orderly s')
      _ actions ⟨⟨⟨.unstarted (unstarted_of_fresh armed.fresh), armed.fresh.wired⟩, rfl⟩, seen, orderly⟩
    rintro s' action ⟨⟨⟨phase, wired⟩, same⟩, seen, orderly⟩
    have move := move_step phase wired action
    refine ⟨⟨phase_run phase wired [action], (listeners_move move).1.trans same⟩, ?_, orderly_move move orderly⟩
    apply timeline_move move orderly _ seen
    intro game kept round
    exact launches_of_listeners armed game (kept.trans same) round
  exact all.2

end DfStudy.AttackSchedule
