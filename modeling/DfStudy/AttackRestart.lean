import DfStudy.AttackLaunch
import DfStudy.GameStart

/-! Attacks after a restart. `initSession` resumes the games it loads before it registers the listeners of their attacks,
so the round a game is resumed in is entered unheard. -/

namespace DfStudy.AttackRestart
open Rounds Attacks Games GameFrames GameControl GameInvariant Tables Servers MemGames ServerFrames Sessions Undisturbed SessionSetup
open AttackSchedule LoadedGame GameStart Support.Machine Support.Futures LiveGame

/-- A round is entered, or a listener spawns a mute or an unmute. -/
inductive Sight where
  | entered (round : Nat)
  | spawned (command : Command) (next : Option Command)

def sight : Effect → Option Sight
  | .trigger (.round round) => some (.entered round)
  | .exec (.shadowmute grpcPort target unmute) next => some (.spawned (.shadowmute grpcPort target unmute) next)
  | _ => none

def sights (s : LiveGame) : List Sight := s.effects.filterMap sight

def roundOf : Sight → Option Nat
  | .entered round => some round
  | .spawned _ _ => none

/-- What the rows of a game's attacks ask for in a round: a launch in their own round, and an unmute in the next. -/
def asked (grpcPort : Nat) (attacks : List Attack) (round : Nat) : List Sight :=
  attacks.flatMap fun attack =>
    (if round = attack.round then [.spawned (attack.mute grpcPort) (some (attack.spoof grpcPort))] else []) ++
      if round = attack.round + 1 then [.spawned (attack.unmute grpcPort) none] else []

/-- Each round that has been entered was followed by what is asked for in it, and nothing else was spawned. -/
def Complete (grpcPort : Nat) (attacks : List Attack) (s : LiveGame) : Prop :=
  sights s = ((sights s).filterMap roundOf).flatMap fun round => .entered round :: asked grpcPort attacks round

/-- The game is resumed in a round that asks for nothing, or in none. -/
def Unasked (attacks : List Attack) (data : GameData) : Prop :=
  data.startTime.isSome → data.currentRound < data.rounds.length →
    ∀ attack ∈ attacks, attack.round ≠ data.currentRound ∧ attack.round + 1 ≠ data.currentRound

/-! What is asked for. -/

theorem roundOf_asked (grpcPort : Nat) (attacks : List Attack) (round : Nat) :
    (asked grpcPort attacks round).filterMap roundOf = [] := by
  rw [List.filterMap_eq_nil_iff]
  intro seen member
  obtain ⟨attack, _, among⟩ := List.mem_flatMap.mp member
  rcases List.mem_append.mp among with launch | unmutes
  · split at launch
    · rw [List.mem_singleton.mp launch]
      rfl
    · cases launch
  · split at unmutes
    · rw [List.mem_singleton.mp unmutes]
      rfl
    · cases unmutes

theorem asked_nil {grpcPort : Nat} {attacks : List Attack} {round : Nat} :
    asked grpcPort attacks round = [] ↔ ∀ attack ∈ attacks, attack.round ≠ round ∧ attack.round + 1 ≠ round := by
  unfold asked
  rw [List.flatMap_eq_nil_iff]
  refine forall₂_congr fun attack _ => ?_
  rw [List.append_eq_nil_iff]
  constructor
  · intro ⟨launch, unmutes⟩
    constructor
    · rintro rfl
      rw [if_pos rfl] at launch
      cases launch
    · rintro rfl
      rw [if_pos rfl] at unmutes
      cases unmutes
  · intro ⟨launch, unmutes⟩
    exact ⟨if_neg fun same => launch same.symm, if_neg fun same => unmutes same.symm⟩

/-- The attacks' listeners spawn what the attacks ask for. -/
theorem spawned_asked (grpcPort : Nat) (attacks : List Attack) (round : Nat) :
    ((attacks.map (RoundCallback.scheduledAttack grpcPort)).flatMap (spawned round)).filterMap
        (fun (command, next) => sight (.exec command next)) = asked grpcPort attacks round := by
  induction attacks with
  | nil => rfl
  | cons attack attacks ih =>
    rw [List.map_cons, List.flatMap_cons, List.filterMap_append, ih]
    show _ = _ ++ asked grpcPort attacks round
    congr 1
    unfold spawned
    rw [List.filterMap_append]
    congr 1
    · split <;> rfl
    · split <;> rfl

theorem sight_ignores (effect : Effect) (quiet : routine effect) : sight effect = none := by
  cases effect with
  | trigger event => cases event <;> first | rfl | cases quiet
  | exec command next => cases quiet
  | _ => rfl

theorem sights_adding (s : LiveGame) (block : List Effect) : sights (adding s block) = sights s ++ block.filterMap sight := by
  unfold sights adding
  rw [List.filterMap_append]

/-! One turn. -/

/-- The game has the listeners of these attacks, and nothing but spoofs is chained to its processes. -/
structure Hears (grpcPort : Nat) (attacks : List Attack) (s : LiveGame) : Prop where
  round : s.game.cbMap.round = .triggerState :: attacks.map (.scheduledAttack grpcPort)
  chained : ∀ child ∈ s.children, FollowUp child.next

/-- The turn enters no round, or enters one and is heard. -/
def Heard (grpcPort : Nat) (attacks : List Attack) (s s' : LiveGame) : Prop :=
  sights s' = sights s ∨ ∃ round, sights s' = sights s ++ .entered round :: asked grpcPort attacks round

section
variable {grpcPort : Nat} {attacks : List Attack} {s : LiveGame}

theorem Complete.heard {s' : LiveGame} (complete : Complete grpcPort attacks s) (heard : Heard grpcPort attacks s s') :
    Complete grpcPort attacks s' := by
  unfold Complete at complete ⊢
  rcases heard with same | ⟨round, entered⟩
  · rw [same]
    exact complete
  · have rounds : (sights s').filterMap roundOf = (sights s).filterMap roundOf ++ [round] := by
      rw [entered, List.filterMap_append, filterMap_cons_toList, roundOf_asked]
      rfl
    rw [rounds, List.flatMap_append, ← complete, entered, List.flatMap_singleton]

theorem sight_moves (moves : List (Nat × String)) :
    moves.filterMap (fun (sessionId, gameId) => sight (.setCurrentGame sessionId gameId)) = [] :=
  List.filterMap_eq_nil_iff.mpr fun _ _ => rfl

theorem sights_stop (s : LiveGame) : sights s.stop = sights s := by
  rw [stop_eq, sights_adding, observe_stopBlock sight_ignores, sight_moves]
  exact List.append_nil _

theorem heard_gotoRound (round : s.game.cbMap.round = .triggerState :: attacks.map (.scheduledAttack grpcPort))
    (index : Nat) : Heard grpcPort attacks s (s.gotoRound index).1 := by
  cases found : s.game.rounds[index]? with
  | none =>
    rw [gotoRound_past s index found]
    exact .inl (sights_stop _)
  | some roundObj =>
    rw [gotoRound_enters s index roundObj found]
    right
    refine ⟨index, ?_⟩
    have block : (roundBlock (entered s index roundObj) index).filterMap sight = .entered index :: asked grpcPort attacks index := by
      rw [observe_roundBlock sight_ignores]
      show _ ++ (s.game.cbMap.round.flatMap (GameFrames.spawned index)).filterMap _ = _
      rw [round, List.flatMap_cons]
      exact congrArg _ (spawned_asked grpcPort attacks index)
    show sights (adding _ (roundBlock (entered s index roundObj) index)) = _
    rw [sights_adding, block]
    rfl

theorem sights_answer (s : LiveGame) (answer : Answer) : sights (s.answer answer).1 = sights s := by
  rcases answer_cases s answer with ⟨round, roundObj, found, running, started⟩ | ⟨same, -⟩
  · rw [answer_accepted s answer round roundObj found running started]
    show sights (adding _ (answerBlock s.game answer)) = _
    rw [sights_adding, observe_answerBlock sight_ignores]
    exact List.append_nil _
  · rw [same]

theorem sights_published {block : List Effect} (quiet : ∀ effect ∈ block, published effect) :
    block.filterMap sight = [] :=
  List.filterMap_eq_nil_iff.mpr fun effect member => sight_ignores effect (routine_of_published (quiet effect member))

theorem heard_start (round : s.game.cbMap.round = .triggerState :: attacks.map (.scheduledAttack grpcPort)) :
    Heard grpcPort attacks s s.start.1 := by
  have quiet : sights s.start.1 = sights ((stamped s).gotoRound 0).1 := by
    show sights ((stamped s).gotoRound 0).1.triggerStart = _
    rw [triggerStart_eq, sights_adding, observe_startBlock sight_ignores, List.append_nil]
  have entered : Heard grpcPort attacks (stamped s) ((stamped s).gotoRound 0).1 :=
    heard_gotoRound (s := stamped s) round 0
  unfold Heard at entered ⊢
  rw [quiet]
  exact entered

theorem sights_flagged (index : Nat) (playerId : String) (ready : Bool) :
    sights (flagged s index playerId ready) = sights s := by
  unfold flagged
  rw [sights_adding]
  exact List.append_nil _

theorem heard_playerReady (wired : Wired s)
    (round : s.game.cbMap.round = .triggerState :: attacks.map (.scheduledAttack grpcPort)) (playerId : String)
    (ready : Bool) : Heard grpcPort attacks s (s.playerReady playerId ready).1 := by
  by_cases known : Known s playerId
  · obtain ⟨index, located⟩ := located_of_known known
    by_cases waiting : s.game.startTime.isSome ∨ ¬Presence.BothReady (s.game.players.modify index ({ · with ready }))
    · obtain ⟨block, result, quiet⟩ := playerReady_waiting wired.playerReady located waiting
      left
      rw [result, sights_adding, sights_published quiet, sights_flagged, List.append_nil]
    · rw [not_or, not_not] at waiting
      have never : s.game.startTime = none := by simpa using waiting.1
      obtain ⟨block, result, quiet⟩ := playerReady_starting wired.playerReady located never waiting.2
      have starts : Heard grpcPort attacks (flagged s index playerId ready) (flagged s index playerId ready).start.1 :=
        heard_start round
      unfold Heard at starts ⊢
      rw [sights_flagged] at starts
      rw [result, sights_adding, sights_published quiet, List.append_nil]
      exact starts
  · rw [playerReady_unknown known]
    exact .inl rfl

/-- The end of a process is heard as nothing, and neither is the spoof that follows it. -/
theorem sights_finish (chained : ∀ child ∈ s.children, FollowUp child.next) (pid : Nat) (ok : Bool) :
    sights (s.finish pid ok) = sights s := by
  cases found : s.children.find? (·.pid = pid) with
  | none =>
    unfold LiveGame.finish
    rw [found]
  | some child =>
    have follows := chained child (List.mem_of_find?_eq_some found)
    have silent : ((GameFrames.chained child ok).map fun (command, next) => Effect.exec command next).filterMap sight = [] := by
      rw [List.filterMap_map, List.filterMap_eq_nil_iff]
      intro job member
      unfold GameFrames.chained at member
      split at member
      · obtain ⟨command, due, rfl⟩ := List.mem_map.mp member
        have spoof := follows command (by simpa using due)
        cases command with
        | spoof grpcPort user file => rfl
        | shadowmute grpcPort target unmute => cases spoof
      · cases member
    rw [finish_eq found ok]
    show sights (adding _ (.exit child ok :: _)) = _
    rw [sights_adding, filterMap_cons_toList, silent]
    exact List.append_nil _

theorem heard_step (wired : Wired s) (hears : Hears grpcPort attacks s) (action : Action) :
    Heard grpcPort attacks s (step s action) := by
  cases action with
  | playerReady playerId ready => exact heard_playerReady wired hears.round playerId ready
  | answer answer => exact .inl (sights_answer s answer)
  | finish pid ok => exact .inl (sights_finish hears.chained pid ok)
  | onState socket => exact .inl rfl
  | fire handle =>
    show Heard grpcPort attacks s (s.fire handle)
    unfold LiveGame.fire
    split
    next => exact .inl rfl
    next timeout _ =>
      cases timeout.callback with
      | answer round => exact .inl (sights_answer (s.clearTimeout (some handle)) { round := .ofNat round })
      | gotoRound round =>
        have entered : Heard grpcPort attacks (s.clearTimeout (some handle)) ((s.clearTimeout (some handle)).gotoRound round).1 :=
          heard_gotoRound (s := s.clearTimeout (some handle)) hears.round round
        exact entered

/-! What is chained to the processes. -/

abbrev Chains (s : LiveGame) : Prop := ∀ child ∈ s.children, FollowUp child.next

theorem chains_gotoRound (chains : Chains s) (index : Nat) : Chains (s.gotoRound index).1 := by
  cases found : s.game.rounds[index]? with
  | none =>
    rw [gotoRound_past s index found, stop_eq]
    exact chains
  | some roundObj =>
    rw [gotoRound_enters s index roundObj found]
    intro child member
    rcases List.mem_append.mp member with before | new
    · exact chains child before
    · obtain ⟨callback, _, among⟩ := List.mem_flatMap.mp (mem_numbered new).1
      exact (spawned_mutes index callback _ among).2

theorem chains_answer (chains : Chains s) (answer : Answer) : Chains (s.answer answer).1 := by
  rcases answer_cases s answer with ⟨round, roundObj, found, running, started⟩ | ⟨same, -⟩
  · rw [answer_accepted s answer round roundObj found running started]
    exact chains
  · rw [same]
    exact chains

theorem chains_start (chains : Chains s) : Chains s.start.1 := by
  show Chains ((stamped s).gotoRound 0).1.triggerStart
  rw [triggerStart_eq]
  exact chains_gotoRound (s := stamped s) chains 0

theorem chains_playerReady (wired : Wired s) (chains : Chains s) (playerId : String) (ready : Bool) :
    Chains (s.playerReady playerId ready).1 := by
  by_cases known : Known s playerId
  · obtain ⟨index, located⟩ := located_of_known known
    by_cases waiting : s.game.startTime.isSome ∨ ¬Presence.BothReady (s.game.players.modify index ({ · with ready }))
    · obtain ⟨block, result, -⟩ := playerReady_waiting wired.playerReady located waiting
      rw [result]
      exact chains
    · rw [not_or, not_not] at waiting
      have never : s.game.startTime = none := by simpa using waiting.1
      obtain ⟨block, result, -⟩ := playerReady_starting wired.playerReady located never waiting.2
      rw [result]
      exact chains_start (s := flagged s index playerId ready) chains
  · rw [playerReady_unknown known]
    exact chains

theorem chains_step (wired : Wired s) (chains : Chains s) (action : Action) : Chains (step s action) := by
  cases action with
  | playerReady playerId ready => exact chains_playerReady wired chains playerId ready
  | answer answer => exact chains_answer chains answer
  | onState socket => exact chains
  | finish pid ok =>
    show Chains (s.finish pid ok)
    cases found : s.children.find? (·.pid = pid) with
    | none =>
      unfold LiveGame.finish
      rw [found]
      exact chains
    | some child =>
      intro other member
      rw [children_finish found ok] at member
      rcases List.mem_append.mp member with before | new
      · exact chains other (List.mem_filter.mp before).1
      · intro command due
        have last : other.next = none := chained_last (mem_numbered new).1
        rw [last] at due
        cases due
  | fire handle =>
    show Chains (s.fire handle)
    unfold LiveGame.fire
    split
    next => exact chains
    next timeout _ =>
      cases timeout.callback with
      | answer round => exact chains_answer (s := s.clearTimeout (some handle)) chains _
      | gotoRound round => exact chains_gotoRound (s := s.clearTimeout (some handle)) chains round

theorem hears_step (wired : Wired s) (hears : Hears grpcPort attacks s) (action : Action) :
    Hears grpcPort attacks (step s action) := by
  refine ⟨?_, chains_step wired hears.chained action⟩
  rw [step_cbMap]
  cases action <;> exact hears.round

end

theorem complete_run {grpcPort : Nat} {attacks : List Attack} {s : LiveGame} (wired : Wired s)
    (hears : Hears grpcPort attacks s) (complete : Complete grpcPort attacks s) (actions : List Action) :
    Complete grpcPort attacks (run step s actions) := by
  have kept : ∀ (s : LiveGame) (action : Action),
      Wired s ∧ Hears grpcPort attacks s ∧ Complete grpcPort attacks s →
      Wired (step s action) ∧ Hears grpcPort attacks (step s action) ∧ Complete grpcPort attacks (step s action) :=
    fun s action ⟨wired, hears, complete⟩ =>
      ⟨wired_step wired action, hears_step wired hears action, complete.heard (heard_step wired hears action)⟩
  exact (run_invariant _ kept actions ⟨wired, hears, complete⟩).2.2

/-! Resuming. -/

/-- A game that is resumed in one of its rounds has entered it. No attack has been heard of it yet. -/
theorem resumed_sights {clock : Nat → Nat} {data : GameData} {game : LiveGame}
    (loaded : deserializeGame clock data = .ok game) :
    game.game.cbMap.round = [.triggerState] ∧ Chains game ∧
      sights game = if data.startTime.isSome ∧ data.currentRound < data.rounds.length
        then [.entered data.currentRound] else [] := by
  obtain ⟨rounds, created, rfl⟩ := deserializeGame_ok loaded
  have length := rounds_length created
  have unchained : Chains (reread clock data rounds) := fun _ member => nomatch member
  unfold resumeGame
  by_cases started : data.startTime.isSome
  · have running : (reread clock data rounds).game.startTime.isSome := started
    rw [if_pos running]
    refine ⟨by rw [gotoRound_cbMap]; rfl, chains_gotoRound unchained _, ?_⟩
    show sights ((reread clock data rounds).gotoRound data.currentRound).1 = _
    by_cases inside : data.currentRound < data.rounds.length
    · obtain ⟨roundObj, found⟩ : ∃ roundObj, (reread clock data rounds).game.rounds[data.currentRound]? = some roundObj :=
        ⟨_, List.getElem?_eq_getElem (inside.trans_eq length.symm)⟩
      rw [if_pos ⟨started, inside⟩, gotoRound_enters _ _ _ found]
      show sights (adding _ (roundBlock _ _)) = _
      rw [sights_adding, observe_roundBlock sight_ignores]
      rfl
    · have past : (reread clock data rounds).game.rounds[data.currentRound]? = none :=
        List.getElem?_eq_none_iff.mpr (length.trans_le (Nat.le_of_not_lt inside))
      rw [if_neg fun both => inside both.2, gotoRound_past _ _ past, sights_stop]
      rfl
  · have waiting : ¬(reread clock data rounds).game.startTime.isSome := started
    rw [if_neg waiting, if_neg fun both => started both.1]
    exact ⟨rfl, unchained, rfl⟩

/-- A game after set-up, in all that can be seen of its attacks. -/
theorem setUp_complete_iff {grpcPort sessionId : Nat} {attacks : List Attack} {next : Option String} {clock : Nat → Nat}
    {data : GameData} {game : LiveGame} (loaded : deserializeGame clock data = .ok game) :
    (∀ actions, Complete grpcPort attacks (run step (attackedBy grpcPort attacks (chainedTo sessionId next game)) actions)) ↔
      Unasked attacks data := by
  obtain ⟨listeners, chains, seen⟩ := resumed_sights loaded
  let live := attackedBy grpcPort attacks (chainedTo sessionId next game)
  have same : sights live = sights game := rfl
  constructor
  · intro complete started inside
    have now : Complete grpcPort attacks live := complete []
    unfold Complete at now
    rw [same, seen, if_pos ⟨started, inside⟩] at now
    have silent : [] = asked grpcPort attacks data.currentRound := by simpa [roundOf] using now
    exact asked_nil.mp silent.symm
  · intro unasked
    have wired : Wired live := by
      have before := wired_loaded loaded
      obtain ⟨stops, stop⟩ := before.stop
      obtain ⟨rounds, round⟩ := before.round
      exact { before with stop := ⟨_, congrArg (· ++ _) stop⟩, round := ⟨_, congrArg (· ++ _) round⟩ }
    have hears : Hears grpcPort attacks live := ⟨congrArg (· ++ _) listeners, chains⟩
    refine complete_run wired hears ?_
    unfold Complete
    rw [same, seen]
    by_cases resumes : data.startTime.isSome ∧ data.currentRound < data.rounds.length
    · rw [if_pos resumes]
      have silent : asked grpcPort attacks data.currentRound = [] := asked_nil.mpr (unasked resumes.1 resumes.2)
      simp [roundOf, silent]
    · rw [if_neg resumes]
      rfl

/-- The rows of the attack table for one game of a session. -/
def attacksOn (host : Host) (s : Server) (sessionId : Nat) (gameId : String) : List Attack :=
  (sessionAttacks host s sessionId).filter (·.gameId = gameId)

/-- After `initSession` has set up the rows of a session, the attacks of a game are all carried out, in every run, just
when the round it is resumed in asks for nothing. -/
theorem attacks_resumed_iff {host : Host} {fails : Nat → Bool} {s : Server} {session : Session} {games : List LiveGame}
    (loadable : Loadable host s session games) (registered : ∀ ref ∈ s.memGames, ref.address < s.heap.length)
    {value : Session} {a : Alone} (resolved : alone host fails (initSession session) { server := s } = (.ok value, a))
    {index : Nat} {row : GameRow} (stored : (sortedRows host s session.sessionId)[index]? = some row) :
    ∃ ref live, getGame a.server.memGames row.gameData.gameId = .ok ref ∧ a.server.heap[ref.address]? = some live ∧
      ((∀ actions, Complete session.grpcPort (attacksOn host s session.sessionId row.gameData.gameId) (run step live actions)) ↔
        Unasked (attacksOn host s session.sessionId row.gameData.gameId) row.gameData) := by
  have clean : Clean fails 0 := fun earlier below => absurd below (Nat.not_lt_zero _)
  obtain ⟨-, settled, -⟩ := ends_resolved (ends_initSession clean loadable) resolved
  have data : ((sortedRows host s session.sessionId).map (·.gameData))[index]? = some row.gameData := by
    rw [List.getElem?_map, stored]
    rfl
  obtain ⟨game, found, loaded⟩ := loadGames_get loadable.load data
  have named : idOf game = row.gameData.gameId := (loaded_game loaded).1
  have listed := setUp_registered session (sessionAttacks host s session.sessionId) loadable.distinct loadable.unknown found
  have live := setUp_heap session (sessionAttacks host s session.sessionId) loadable.distinct loadable.unknown registered found
  rw [named] at listed live
  have result : a.server = setUp s session games (sessionAttacks host s session.sessionId) := settled
  rw [← result] at listed live
  exact ⟨_, _, listed, live, setUp_complete_iff loaded⟩

/-! A session of one game, which the server has left in its second round. -/

/-- pete's game, in its second round when the server was restarted. The attack is in this round. -/
def attackedRow (round : Nat) : GameRow where
  gameId := "foobar"
  sessionId := 1
  gameData := {
    gameId := "foobar"
    players := [{ playerId := "pete", ready := true }, { playerId := "kate", ready := true }]
    rounds := [Schedules.button 1000 0, Schedules.button 1000 1, Schedules.button 1000 0]
    currentRound := round
    startTime := some 0
    endTime := none }
  isCurrent := true
  gameOrder := 0

def attackRow : Attack where
  attackId := 1
  sessionId := 1
  gameId := "foobar"
  round := 1
  sourceUser := "pete"
  targetUser := "kate"
  audioPath := "/srv/dfs/rec/pete/2.wav"

def restartedIn (round : Nat) : Server :=
  { AttackLaunch.sampleServer with
    db := { AttackLaunch.sampleServer.db with games := [attackedRow round], attacks := [attackRow] } }

theorem restarted_loadable (round : Nat) :
    ∃ game, Loadable AttackLaunch.sampleHost (restartedIn round) AttackLaunch.sampleSession [game] := by
  obtain ⟨game, loaded⟩ : ∃ game, deserializeGame (AttackLaunch.sampleHost.clock 0) (attackedRow round).gameData = .ok game :=
    ⟨_, rfl⟩
  refine ⟨game, rfl, ?_, List.nodup_singleton _, fun _ _ _ member => (nomatch member), ?_⟩
  · show loadGames AttackLaunch.sampleHost 0 [(attackedRow round).gameData] = _
    unfold loadGames
    rw [loaded]
    rfl
  · show AttackLaunch.sampleServer.db.selectMurmurs 1 ≠ []
    decide

/-- The server after it has set up the session again. -/
def restarted (round : Nat) : Alone :=
  (alone AttackLaunch.sampleHost (fun _ => false) (initSession AttackLaunch.sampleSession) { server := restartedIn round }).2

/-- In the first round nothing is asked for, and the attack of the second one will be launched. -/
theorem attacks_resumed_sample : ∃ ref live,
    getGame (restarted 0).server.memGames "foobar" = .ok ref ∧ (restarted 0).server.heap[ref.address]? = some live ∧
      ∀ actions, Complete 50051 [attackRow] (run step live actions) := by
  obtain ⟨game, loadable⟩ := restarted_loadable 0
  have resolved : alone AttackLaunch.sampleHost (fun _ => false) (initSession AttackLaunch.sampleSession)
      { server := restartedIn 0 } = (.ok AttackLaunch.sampleSession, restarted 0) := Prod.ext rfl rfl
  obtain ⟨ref, live, known, here, complete⟩ := attacks_resumed_iff loadable (fun _ member => nomatch member)
    resolved (show (sortedRows AttackLaunch.sampleHost (restartedIn 0) 1)[0]? = some (attackedRow 0) from rfl)
  refine ⟨ref, live, known, here, complete.mpr ?_⟩
  intro _ _ attack member
  cases List.mem_singleton.mp member
  exact ⟨by decide, by decide⟩

/-- In the second round the attack is not launched again, and nobody is muted. -/
theorem resumedAttack_missed : ∃ ref live,
    getGame (restarted 1).server.memGames "foobar" = .ok ref ∧ (restarted 1).server.heap[ref.address]? = some live ∧
      sights live = [.entered 1] ∧ ¬Complete 50051 [attackRow] live := by
  obtain ⟨live, here⟩ : ∃ live, (restarted 1).server.heap[0]? = some live := ⟨_, rfl⟩
  have seen : sights live = [.entered 1] := by
    have entered : (restarted 1).server.heap[0]?.map sights = some [.entered 1] := rfl
    rw [here] at entered
    exact Option.some.inj entered
  refine ⟨⟨0, "foobar"⟩, live, rfl, here, seen, ?_⟩
  unfold Complete
  rw [seen]
  nofun

end DfStudy.AttackRestart
