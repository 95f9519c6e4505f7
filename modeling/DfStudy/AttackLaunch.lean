import DfStudy.AttackSchedule
import DfStudy.SessionBirth

/-! From a schedule to its launches: through the filtered schedule, the rows of the attack table and the
'round' listeners, each game of a session is armed with its own attacks. -/

namespace DfStudy.AttackLaunch
open Attacks Rounds Games Tables Servers Sessions Undisturbed GameControl SessionCreation SessionSetup SessionBirth
open AttackSchedule Support.Machine Support.Futures Future

theorem mem_attackRounds {schedule : List RoundData} {value : ℚ} {round : Nat} :
    (value, round) ∈ attackRounds schedule ↔ attackOf schedule round = some value := by
  unfold attackRounds attackOf
  rw [List.mem_filterMap]
  constructor
  · rintro ⟨⟨roundData, index⟩, member, same⟩
    rw [List.mk_mem_zipIdx_iff_getElem?] at member
    dsimp only at same
    rw [Option.map_eq_some_iff] at same
    obtain ⟨attack, solved, equal⟩ := same
    cases equal
    rw [member]
    exact solved
  · intro found
    rw [Option.bind_eq_some_iff] at found
    obtain ⟨roundData, at_round, solved⟩ := found
    refine ⟨(roundData, round), List.mk_mem_zipIdx_iff_getElem?.mpr at_round, ?_⟩
    dsimp only
    rw [solved]
    rfl

theorem attackRounds_distinct (schedule : List RoundData) : ((attackRounds schedule).map Prod.snd).Nodup := by
  have among : ((attackRounds schedule).map Prod.snd).Sublist (schedule.zipIdx.map Prod.snd) := by
    unfold attackRounds
    induction schedule.zipIdx with
    | nil => exact List.Sublist.refl _
    | cons first rest ih =>
      obtain ⟨roundData, roundIndex⟩ := first
      rw [List.filterMap_cons, List.map_cons]
      dsimp only
      cases roundData.attack with
      | none => exact ih.cons _
      | some attack => exact ih.cons_cons _
  rw [List.zipIdx_map_snd] at among
  exact among.nodup List.nodup_range'

theorem mem_attacksOf {host : Host} {sessionId : Nat} {entry : Entry} {attack : NewAttack} :
    attack ∈ attacksOf host sessionId entry ↔ ∃ value, attackOf entry.1.1.schedule attack.round = some value ∧
      attack = newAttack host sessionId entry value attack.round := by
  unfold attacksOf
  rw [List.mem_map]
  constructor
  · rintro ⟨⟨value, round⟩, member, rfl⟩
    exact ⟨value, mem_attackRounds.mp member, rfl⟩
  · rintro ⟨value, found, same⟩
    exact ⟨(value, attack.round), mem_attackRounds.mpr found, same.symm⟩

/-- The attacks of one game among those of all. -/
theorem filter_attacksOf {host : Host} {sessionId : Nat} {entries : List Entry}
    (distinct : (entries.map (·.1.2)).Nodup) {entry : Entry} (member : entry ∈ entries) :
    (entries.flatMap (attacksOf host sessionId)).filter (·.gameId = entry.1.2) = attacksOf host sessionId entry := by
  have own : ∀ first : Entry, first.1.2 = entry.1.2 →
      (attacksOf host sessionId first).filter (·.gameId = entry.1.2) = attacksOf host sessionId first := by
    intro first same
    rw [List.filter_eq_self]
    intro attack present
    obtain ⟨value, _, equal⟩ := mem_attacksOf.mp present
    rw [equal]
    simp [newAttack, same]
  have other : ∀ first : Entry, first.1.2 ≠ entry.1.2 →
      (attacksOf host sessionId first).filter (·.gameId = entry.1.2) = [] := by
    intro first apart
    rw [List.filter_eq_nil_iff]
    intro attack present
    obtain ⟨value, _, equal⟩ := mem_attacksOf.mp present
    rw [equal]
    simp [newAttack, apart]
  induction entries with
  | nil => cases member
  | cons first rest ih =>
    rw [List.map_cons, List.nodup_cons] at distinct
    rw [List.flatMap_cons, List.filter_append]
    rcases List.mem_cons.mp member with rfl | later
    · have none : (rest.flatMap (attacksOf host sessionId)).filter (·.gameId = entry.1.2) = [] := by
        rw [List.filter_flatMap, List.flatMap_eq_nil_iff]
        intro first present
        exact other first fun same => distinct.1 (List.mem_map.mpr ⟨first, present, same⟩)
      rw [own entry rfl, none, List.append_nil]
    · have apart : first.1.2 ≠ entry.1.2 := fun same =>
        distinct.1 (List.mem_map.mpr ⟨entry, later, same.symm⟩)
      rw [other first apart, List.nil_append, ih distinct.2 later]

/-- A game whose 'round' listeners carry the rows of its attacks, in any order, is armed. -/
theorem armed_bornOf {host : Host} {sessionId grpcPort : Nat} {entry : Entry} {attacks : List Attack}
    (playable : Playable entry.1.1) (rows : (attacks.map forgetId).Perm (attacksOf host sessionId entry))
    (clock : Nat → Nat) (next : Option String) :
    Armed entry.1.1.schedule grpcPort entry.1.1.blue (audioPath host entry.1.1.blue) attacks
      (attackedBy grpcPort attacks (chainedTo sessionId next (bornOf clock entry))) := by
  have rounds : (attacks.map Attack.round).Perm ((attackRounds entry.1.1.schedule).map Prod.snd) := by
    have perm := rows.map NewAttack.round
    rw [List.map_map, attacksOf, List.map_map] at perm
    exact perm
  have described : ∀ attack ∈ attacks, ∃ value, attackOf entry.1.1.schedule attack.round = some value ∧
      forgetId attack = newAttack host sessionId entry value attack.round := by
    intro attack member
    exact mem_attacksOf.mp (rows.mem_iff.mp (List.mem_map_of_mem member))
  constructor
  · constructor
    · rfl
    · rfl
    · rfl
    · exact ⟨entry.1.1.schedule, playable⟩
    · rfl
    · rfl
    · constructor
      · rfl
      · rfl
      · rfl
      · exact ⟨[], rfl⟩
      · exact ⟨_, rfl⟩
      · exact ⟨_, rfl⟩
  · exact playable
  · rfl
  · exact ⟨createPlayer entry.1.1.blue, rfl, rfl⟩
  · rfl
  · exact rounds.nodup_iff.mpr (attackRounds_distinct _)
  · intro round
    rw [rounds.mem_iff, List.mem_map, Option.isSome_iff_exists]
    constructor
    · rintro ⟨⟨value, index⟩, member, rfl⟩
      exact ⟨value, mem_attackRounds.mp member⟩
    · rintro ⟨value, found⟩
      exact ⟨(value, round), mem_attackRounds.mpr found, rfl⟩
  · intro attack member
    obtain ⟨value, _, same⟩ := described attack member
    exact congrArg NewAttack.sourceUser same
  · intro attack member
    obtain ⟨value, found, same⟩ := described attack member
    rw [found]
    exact congrArg (fun attack : NewAttack => some attack.audioPath) same.symm

/-- The rows of one game's attacks, as they are selected for its session. -/
theorem selected_attacks {host : Host} {s : Server} {sessionId : Nat} {entries : List Entry} {before attacks : List Attack}
    (stored : s.db.attacks = before ++ attacks)
    (rows : attacks.map forgetId = entries.flatMap (attacksOf host sessionId))
    (distinct : (entries.map (·.1.2)).Nodup) {entry : Entry} (member : entry ∈ entries)
    (unused : ∀ attack ∈ before, attack.gameId ≠ entry.1.2) :
    (((sessionAttacks host s sessionId).filter (·.gameId = entry.1.2)).map forgetId).Perm
      (attacksOf host sessionId entry) := by
  have perm : ((sessionAttacks host s sessionId).filter (·.gameId = entry.1.2)).Perm
      (((before ++ attacks).filter (·.sessionId = sessionId)).filter (·.gameId = entry.1.2)) := by
    unfold sessionAttacks
    rw [stored]
    exact ((host.attackRows_perm _).filter _).filter _
  have own : attacks.filter (·.sessionId = sessionId) = attacks := by
    rw [List.filter_eq_self]
    intro attack present
    have known := List.mem_map_of_mem (f := forgetId) present
    rw [rows, List.mem_flatMap] at known
    obtain ⟨other, _, listed⟩ := known
    obtain ⟨value, _, same⟩ := mem_attacksOf.mp listed
    have session : attack.sessionId = sessionId := congrArg NewAttack.sessionId same
    simpa using session
  have others : (before.filter (·.sessionId = sessionId)).filter (·.gameId = entry.1.2) = [] := by
    rw [List.filter_eq_nil_iff]
    intro attack present
    simpa using unused attack (List.mem_filter.mp present).1
  rw [List.filter_append, List.filter_append, own, others, List.nil_append] at perm
  have forgotten : (attacks.filter (·.gameId = entry.1.2)).map forgetId = attacksOf host sessionId entry := by
    rw [← filter_attacksOf distinct member, ← rows, List.filter_map]
    rfl
  rw [← forgotten]
  exact perm.map _

/-- A session whose games were created from a plan and then initialised, on a server that may hold other
sessions and rows of this one that were left behind. In every run of each of its games the attacks of the
game's schedule are launched exactly as scheduled. -/
theorem attacks_launched {host : Host} {fails : Nat → Bool} {s : Server} {session : Session} {plan : List GamePlan}
    (playable : ∀ game ∈ plan, Playable game) (newIds : NewIds s plan.length)
    (registered : ∀ ref ∈ s.memGames, ref.address < s.heap.length)
    (listed : s.db.sessions.find? (·.sessionId = session.sessionId) = some session)
    (murmur : s.db.selectMurmurs session.sessionId ≠ [])
    {leftover : List Entry} (unplayed : Unplayed s session.sessionId leftover) {value : Session} {a : Alone}
    (resolved : alone host fails ((createPlan host session plan).chain initSession) { server := s } = (.ok value, a))
    {index : Nat} {game : GamePlan} (planned : plan[index]? = some game) :
    ∃ ref live, getGame a.server.memGames (s.uuids index) = .ok ref ∧ a.server.heap[ref.address]? = some live ∧
      ∀ actions, timeline (run step live actions) =
          expectedTimeline (launchOf game.schedule session.grpcPort game.blue (audioPath host game.blue))
            (roundsEntered (run step live actions).game) ∧
        Orderly (run step live actions) := by
  let entries := planEntries plan s.uuids
  let entry : Entry := ((game, s.uuids index), index)
  have below : index < plan.length := (List.getElem?_eq_some_iff.mp planned).1
  have ofPlan : ∀ other ∈ entries, ∃ index' < plan.length, other.1.2 = s.uuids index' := fun other member =>
    planEntries_uuids member
  have member : entry ∈ entries := by
    apply List.mem_of_getElem? (i := index)
    rw [planEntries_get, planned]
    rfl
  have distinct : (entries.map (·.1.2)).Nodup := by
    rw [planEntries_ids]
    exact newIds.distinct
  let good : Session → Alone → Prop := fun _ a' => ∃ ref live, getGame a'.server.memGames (s.uuids index) = .ok ref ∧
    a'.server.heap[ref.address]? = some live ∧ ∃ attacks,
      Armed game.schedule session.grpcPort game.blue (audioPath host game.blue) attacks live
  have ends : Ends host fails ((createPlan host session plan).chain initSession) { server := s } good
      fun _ _ => True := by
    have clean : Clean fails 0 := fun earlier below => absurd below (Nat.not_lt_zero _)
    apply ends_chain (ends_weaken (ends_createPlan clean playable newIds) (fun _ _ held => held) fun _ _ _ => trivial)
    rintro value a' ⟨same, attacks, rows, server, _, clean'⟩
    rw [same]
    have unplayed' : Unplayed a'.server session.sessionId (leftover ++ entries) := by
      rw [server]
      apply unplayed.inserting (planEntries_playable playable _) distinct
      · intro other present
        obtain ⟨index', below', same⟩ := ofPlan other present
        rw [same]
        exact newIds.games index' below'
      · intro other present
        obtain ⟨index', below', same⟩ := ofPlan other present
        rw [same]
        exact newIds.memGames index' below'
    have heap : a'.server.heap = s.heap := by rw [server]; rfl
    have memGames : a'.server.memGames = s.memGames := by rw [server]; rfl
    have stored : a'.server.db.attacks = s.db.attacks ++ attacks := by rw [server]; rfl
    obtain ⟨sorted, perm, order⟩ := sorted_entries host (List.Perm.of_eq unplayed'.rows)
    have loadable : Loadable host a'.server session (bornGames host a'.server.heap.length sorted) := by
      apply unplayed'.loadable host perm order
      · rw [server]
        exact listed
      · rw [server]
        exact murmur
    apply ends_weaken (ends_initSession clean' loadable) _ fun _ _ _ => trivial
    rintro value a'' ⟨_, settled, _⟩
    have among : entry ∈ sorted := perm.mem_iff.mpr (List.mem_append_right _ member)
    obtain ⟨place, at_place⟩ := List.mem_iff_getElem?.mp among
    have ready := unplayed'.setUp host perm (by rw [memGames, heap]; exact registered)
      (sessionAttacks host a'.server session.sessionId) at_place
    refine ⟨_, _, by rw [settled]; exact ready.1, by rw [settled]; exact ready.2,
      (sessionAttacks host a'.server session.sessionId).filter (·.gameId = entry.1.2), ?_⟩
    have unused : ∀ attack ∈ s.db.attacks, attack.gameId ≠ entry.1.2 := newIds.attacks index below
    exact armed_bornOf (playable game (List.mem_of_getElem? planned)) (selected_attacks stored rows distinct member unused) _ _
  obtain ⟨ref, live, found, here, attacks, armed⟩ := ends_resolved ends resolved
  exact ⟨ref, live, found, here, fun actions => armed_run armed actions⟩

/-! A session of one game, of which only the second round carries an attack. -/

def sampleHost : Host where
  cwd := "/srv/dfs"
  dirname := "/srv/dfs/lib"
  DFS_REC_DIR := "rec"
  numberToString value := toString value.num
  clock _ reading := reading
  gameRows rows := rows
  gameRows_perm rows := List.Perm.refl rows
  attackRows rows := rows
  attackRows_perm rows := List.Perm.refl rows

def sampleSession : Session where
  blueParticipant := "pete"
  redParticipant := "kate"
  grpcPort := 50051
  murmurPort := 64738
  sessionId := 1

def sampleServer : Server where
  db := { sessions := [sampleSession], murmurs := [resolveMurmur sampleHost 1 50051 64738] }
  uuids _ := "foobar"

def samplePlan : List GamePlan :=
  [{ blue := "pete", red := "kate", schedule := [Schedules.button 1000 0, Schedules.button 1000 1 (some 2)],
     isCurrent := true }]

theorem sample_newIds : NewIds sampleServer samplePlan.length where
  distinct := List.nodup_singleton _
  games _ _ _ member := nomatch member
  attacks _ _ _ member := nomatch member
  memGames _ _ _ member := nomatch member

theorem sample_unplayed : Unplayed sampleServer 1 [] where
  rows := rfl
  playable _ member := nomatch member
  distinct := List.nodup_nil
  unknown _ member := nomatch member

theorem attacks_launched_sample :
    ∃ a ref live,
      alone sampleHost (fun _ => false) ((createPlan sampleHost sampleSession samplePlan).chain initSession)
        { server := sampleServer } = (.ok sampleSession, a) ∧
      getGame a.server.memGames "foobar" = .ok ref ∧ a.server.heap[ref.address]? = some live ∧
      ∀ actions, timeline (run step live actions) =
          expectedTimeline (launchOf [Schedules.button 1000 0, Schedules.button 1000 1 (some 2)] 50051 "pete"
            (audioPath sampleHost "pete")) (roundsEntered (run step live actions).game) ∧
        Orderly (run step live actions) := by
  have resolved : alone sampleHost (fun _ => false)
      ((createPlan sampleHost sampleSession samplePlan).chain initSession) { server := sampleServer } =
      (.ok sampleSession, (alone sampleHost (fun _ => false)
        ((createPlan sampleHost sampleSession samplePlan).chain initSession) { server := sampleServer }).2) :=
    Prod.ext rfl rfl
  have playable : ∀ game ∈ samplePlan, Playable game := by
    intro game member
    rw [List.mem_singleton.mp member]
    rfl
  obtain ⟨ref, live, found, here, launches⟩ := attacks_launched playable sample_newIds (fun _ member => nomatch member)
    rfl (by decide) sample_unplayed resolved (show samplePlan[0]? = some _ from rfl)
  exact ⟨_, ref, live, resolved, found, here, launches⟩

end DfStudy.AttackLaunch
