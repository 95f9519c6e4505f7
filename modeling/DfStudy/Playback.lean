import DfStudy.MamsParser
import DfStudy.Support.Machine

/-! The main loop of the parser, step by step: it is suspended while it reads, and only then the output stream can tell
it that it has drained. -/

namespace DfStudy.Playback
open Recordings MamsParser Support.Machine

/-- Where the loop is. An iteration starts at `top`; in `header` and `body` it waits for a read. -/
inductive Point where
  | top
  | header
  | body (len : Nat)
  | returned
  | thrown (why : Thrown)
  deriving DecidableEq

structure Loop where
  /-- What has not been read of the input file. -/
  rest : List UInt8
  running : Bool := true
  outNeedsDrain : Bool := false
  point : Point := .top
  /-- What the decoder has been handed, and what has been written. -/
  handed : List (List UInt8) := []
  written : List (List UInt8) := []
  deriving DecidableEq

/-! The decoder keeps a state, which what it was handed before stands for, and may refuse what it is handed. The output
stream answers each write. -/

section
variable (checksEmpty : Bool) (decode : List (List UInt8) → List UInt8 → Option (List UInt8)) (accepts : Nat → Bool)

namespace Loop

/-- Up to the first read of an iteration. -/
def iterate (loop : Loop) : Loop :=
  if loop.running = false then { loop with point := .returned }
  else if loop.outNeedsDrain then loop
  else { loop with point := .header }

/-- From the header to the second read. -/
def readHeader (loop : Loop) : Loop :=
  if loop.rest = [] then { loop with running := false, point := .top } else
    let header := readInto 12 loop.rest
    let loop := { loop with rest := loop.rest.drop 12 }
    let len := readInt32LE header 8
    if len < 0 then { loop with point := .thrown .outOfRange } else { loop with point := .body len.toNat }

/-- From the body to the end of the iteration. -/
def readBody (loop : Loop) (len : Nat) : Loop :=
  let chunk := readInto len loop.rest
  let loop := { loop with rest := loop.rest.drop len }
  match extractData checksEmpty chunk with
  | .error why => { loop with point := .thrown why }
  | .ok none => { loop with point := .top }
  | .ok (some data) =>
    match decode loop.handed data with
    | none => { loop with handed := loop.handed ++ [data], point := .thrown .decoder }
    | some decoded =>
      { loop with
        handed := loop.handed ++ [data]
        written := loop.written ++ [decoded]
        outNeedsDrain := !accepts loop.written.length
        point := .top }

/-- The callback of `drain` may have run while the loop was suspended. -/
def resumed (loop : Loop) (drained : Bool) : Loop :=
  if drained then { loop with outNeedsDrain := false } else loop

def step (loop : Loop) (drained : Bool) : Loop :=
  match loop.point with
  | .top => loop.iterate
  | .header => (loop.resumed drained).readHeader
  | .body len => (loop.resumed drained).readBody checksEmpty decode accepts len
  | .returned => loop
  | .thrown _ => loop

end Loop

/-- The state of `main` after so many steps. `drains` says at which of them the callback has run. -/
def run (file : List UInt8) (drains : Nat → Bool) : Nat → Loop :=
  after (Loop.step checksEmpty decode accepts) { rest := file } drains

/-! The frames alone, as they are played when the output stream is never behind. -/

structure Played where
  handed : List (List UInt8)
  written : List (List UInt8)
  thrown : Option Thrown
  deriving DecidableEq

/-- The length in the header of the next frame. -/
def nextLen (rest : List UInt8) : Int := readInt32LE (readInto 12 rest) 8

def nextChunk (rest : List UInt8) : List UInt8 := readInto (nextLen rest).toNat (rest.drop 12)

def behindFrame (rest : List UInt8) : List UInt8 := (rest.drop 12).drop (nextLen rest).toNat

def playback (handed written : List (List UInt8)) (rest : List UInt8) : Played :=
  if rest = [] then { handed, written, thrown := none }
  else if nextLen rest < 0 then { handed, written, thrown := some .outOfRange }
  else
    match extractData checksEmpty (nextChunk rest) with
    | .error why => { handed, written, thrown := some why }
    | .ok none => playback handed written (behindFrame rest)
    | .ok (some data) =>
      match decode handed data with
      | none => { handed := handed ++ [data], written, thrown := some .decoder }
      | some decoded => playback (handed ++ [data]) (written ++ [decoded]) (behindFrame rest)
termination_by rest.length
decreasing_by
  all_goals
    have some : 0 < rest.length := List.length_pos_iff.mpr (by assumption)
    simp only [behindFrame, List.length_drop]
    omega

def play (file : List UInt8) : Played := playback checksEmpty decode [] [] file

end

/-! One step. -/

section
variable {checksEmpty : Bool} {decode : List (List UInt8) → List UInt8 → Option (List UInt8)} {accepts : Nat → Bool}

/-- How a run ends if nothing holds it up. -/
def Ends (played : Played) (loop : Loop) : Prop :=
  loop.handed = played.handed ∧ loop.written = played.written ∧
    match played.thrown with
    | none => loop.point = .returned ∧ loop.rest = []
    | some why => loop.point = .thrown why

/-- The loop waits for the stream to drain, and lets nothing else happen. -/
def Spins (loop : Loop) : Prop := loop.point = .top ∧ loop.running = true ∧ loop.outNeedsDrain = true

theorem spins_settled {loop : Loop} (spins : Spins loop) (drained : Bool) :
    loop.step checksEmpty decode accepts drained = loop := by
  obtain ⟨top, running, needs⟩ := spins
  simp [Loop.step, Loop.iterate, top, running, needs]

theorem ends_settled {played : Played} {loop : Loop} (ends : Ends played loop) (drained : Bool) :
    loop.step checksEmpty decode accepts drained = loop := by
  obtain ⟨-, -, last⟩ := ends
  unfold Loop.step
  split at last
  · rw [last.1]
  · rw [last]

/-- A stream that does not need to drain may say so all the same. -/
theorem resumed_ready {loop : Loop} (ready : loop.outNeedsDrain = false) (drained : Bool) :
    loop.resumed drained = loop := by
  unfold Loop.resumed
  split
  · rw [← ready]
  · rfl

/-- The loop while it reads the body of the next frame. -/
def reading (rest : List UInt8) (handed written : List (List UInt8)) : Loop :=
  { rest := rest.drop 12, handed, written, point := .body (nextLen rest).toNat }

/-- The loop up to the point where it has read the next frame. -/
theorem reaches_body {goal : Loop → Prop} {rest : List UInt8} {handed written : List (List UInt8)} (more : rest ≠ [])
    (size : ¬ nextLen rest < 0)
    (later : Reaches (Loop.step checksEmpty decode accepts) goal
      ((reading rest handed written).readBody checksEmpty decode accepts (nextLen rest).toNat)) :
    Reaches (Loop.step checksEmpty decode accepts) goal { rest, handed, written } := by
  have starts : ∀ drained, Loop.step checksEmpty decode accepts { rest, handed, written } drained =
      { rest, handed, written, point := .header } := fun _ => rfl
  have reads : ∀ drained, Loop.step checksEmpty decode accepts { rest, handed, written, point := .header } drained =
      reading rest handed written := by
    intro drained
    change (Loop.resumed _ drained).readHeader = _
    rw [resumed_ready rfl]
    unfold Loop.readHeader
    rw [if_neg more]
    exact if_neg size
  have handles : ∀ drained, (reading rest handed written).step checksEmpty decode accepts drained =
      (reading rest handed written).readBody checksEmpty decode accepts (nextLen rest).toNat := by
    intro drained
    change (Loop.resumed _ drained).readBody _ _ _ _ = _
    rw [resumed_ready rfl]
  exact reaches_step starts (reaches_step reads (reaches_step handles later))

/-- The loop at the end of the file. -/
theorem reaches_eof (handed written : List (List UInt8)) :
    Reaches (Loop.step checksEmpty decode accepts) (Ends { handed, written, thrown := none })
      { rest := [], handed, written } := by
  have starts : ∀ drained, Loop.step checksEmpty decode accepts { rest := [], handed, written } drained =
      { rest := [], handed, written, point := .header } := fun _ => rfl
  have reads : ∀ drained, Loop.step checksEmpty decode accepts { rest := [], handed, written, point := .header } drained =
      { rest := [], handed, written, running := false } := by
    intro drained
    change (Loop.resumed _ drained).readHeader = _
    rw [resumed_ready rfl]
    rfl
  have stops : ∀ drained, Loop.step checksEmpty decode accepts { rest := [], handed, written, running := false } drained =
      { rest := [], handed, written, running := false, point := .returned } := fun _ => rfl
  exact reaches_step starts (reaches_step reads (reaches_step stops (reaches_here ⟨rfl, rfl, rfl, rfl⟩)))

/-- The loop at a header with a negative length. -/
theorem reaches_negative {rest : List UInt8} (handed written : List (List UInt8)) (more : rest ≠ [])
    (size : nextLen rest < 0) :
    Reaches (Loop.step checksEmpty decode accepts) (Ends { handed, written, thrown := some .outOfRange })
      { rest, handed, written } := by
  have starts : ∀ drained, Loop.step checksEmpty decode accepts { rest, handed, written } drained =
      { rest, handed, written, point := .header } := fun _ => rfl
  have reads : ∀ drained, Loop.step checksEmpty decode accepts { rest, handed, written, point := .header } drained =
      { rest := rest.drop 12, handed, written, point := .thrown .outOfRange } := by
    intro drained
    change (Loop.resumed _ drained).readHeader = _
    rw [resumed_ready rfl]
    unfold Loop.readHeader
    rw [if_neg more]
    exact if_pos size
  exact reaches_step starts (reaches_step reads (reaches_here ⟨rfl, rfl, rfl⟩))

/-! The run of the loop against the frames it plays. -/

theorem playback_written (handed written : List (List UInt8)) (rest : List UInt8) :
    written.length ≤ (playback checksEmpty decode handed written rest).written.length := by
  fun_induction playback checksEmpty decode handed written rest with
  | case1 => exact Nat.le_refl _
  | case2 => exact Nat.le_refl _
  | case3 => exact Nat.le_refl _
  | case4 handed written rest more size silent ih => exact ih
  | case5 => exact Nat.le_refl _
  | case6 handed written rest more size data found decoded plays ih =>
    rw [List.length_append, List.length_singleton] at ih
    omega

/-- The writes from one on up to another are accepted. -/
def Accepted (accepts : Nat → Bool) (first last : Nat) : Prop := ∀ k, first ≤ k → k < last → accepts k = true

/-- How the loop goes on from the top: to the end, if every write is accepted, and else it waits. -/
def Goes (accepts : Nat → Bool) (first : Nat) (played : Played) (loop : Loop) : Prop :=
  Accepted accepts first played.written.length ∧ Ends played loop ∨
    ¬ Accepted accepts first played.written.length ∧ Spins loop

theorem goes_end {first : Nat} {played : Played} (none : played.written.length ≤ first) {loop : Loop}
    (reached : Reaches (Loop.step checksEmpty decode accepts) (Ends played) loop) :
    Reaches (Loop.step checksEmpty decode accepts) (Goes accepts first played) loop := by
  intro drains
  obtain ⟨n, ends⟩ := reached drains
  refine ⟨n, Or.inl ⟨?_, ends⟩⟩
  intro k from_ below
  omega

/-! What a frame does to the loop. -/

section
variable {rest : List UInt8} {handed written : List (List UInt8)}

theorem readBody_error {why : Thrown} (refused : extractData checksEmpty (nextChunk rest) = .error why) :
    (reading rest handed written).readBody checksEmpty decode accepts (nextLen rest).toNat =
      { rest := behindFrame rest, handed, written, point := .thrown why } := by
  unfold nextChunk at refused
  unfold Loop.readBody reading
  simp only [refused]
  rfl

theorem readBody_silent (silent : extractData checksEmpty (nextChunk rest) = .ok none) :
    (reading rest handed written).readBody checksEmpty decode accepts (nextLen rest).toNat =
      { rest := behindFrame rest, handed, written } := by
  unfold nextChunk at silent
  unfold Loop.readBody reading
  simp only [silent]
  rfl

theorem readBody_refused {data : List UInt8} (found : extractData checksEmpty (nextChunk rest) = .ok (some data))
    (refused : decode handed data = none) :
    (reading rest handed written).readBody checksEmpty decode accepts (nextLen rest).toNat =
      { rest := behindFrame rest, handed := handed ++ [data], written, point := .thrown .decoder } := by
  unfold nextChunk at found
  unfold Loop.readBody reading
  simp only [found, refused]
  rfl

theorem readBody_decoded {data decoded : List UInt8} (found : extractData checksEmpty (nextChunk rest) = .ok (some data))
    (plays : decode handed data = some decoded) :
    (reading rest handed written).readBody checksEmpty decode accepts (nextLen rest).toNat =
      { rest := behindFrame rest
        handed := handed ++ [data]
        written := written ++ [decoded]
        outNeedsDrain := !accepts written.length } := by
  unfold nextChunk at found
  unfold Loop.readBody reading
  simp only [found, plays]
  rfl

end

theorem reaches_goes (handed written : List (List UInt8)) (rest : List UInt8) :
    Reaches (Loop.step checksEmpty decode accepts)
      (Goes accepts written.length (playback checksEmpty decode handed written rest)) { rest, handed, written } := by
  fun_induction playback checksEmpty decode handed written rest with
  | case1 handed written => exact goes_end (Nat.le_refl _) (reaches_eof handed written)
  | case2 handed written rest more size =>
    exact goes_end (Nat.le_refl _) (reaches_negative handed written more size)
  | case3 handed written rest more size why refused =>
    refine goes_end ?_ (reaches_body more size ?_)
    · exact Nat.le_refl _
    · rw [readBody_error refused]
      exact reaches_here ⟨rfl, rfl, rfl⟩
  | case4 handed written rest more size silent ih =>
    apply reaches_body more size
    rw [readBody_silent silent]
    exact ih
  | case5 handed written rest more size data found refused =>
    refine goes_end ?_ (reaches_body more size ?_)
    · exact Nat.le_refl _
    · rw [readBody_refused found refused]
      exact reaches_here ⟨rfl, rfl, rfl⟩
  | case6 handed written rest more size data found decoded plays ih =>
    have grows : (written ++ [decoded]).length ≤ (playback checksEmpty decode (handed ++ [data])
      (written ++ [decoded]) (behindFrame rest)).written.length := playback_written _ _ _
    apply reaches_body more size
    rw [readBody_decoded found plays]
    rw [List.length_append, List.length_singleton] at ih grows
    cases accepted : accepts written.length with
    | true =>
      have earlier : ∀ last, Accepted accepts (written.length + 1) last → Accepted accepts written.length last := by
        intro last all k from_ below
        rcases Nat.eq_or_lt_of_le from_ with here | later
        · rw [← here, accepted]
        · exact all k later below
      have later : ∀ last, Accepted accepts written.length last → Accepted accepts (written.length + 1) last :=
        fun last all k from_ below => all k (by omega) below
      intro drains
      obtain ⟨n, ⟨all, ends⟩ | ⟨some, spins⟩⟩ := ih drains
      · exact ⟨n, Or.inl ⟨earlier _ all, ends⟩⟩
      · exact ⟨n, Or.inr ⟨fun all => some (later _ all), spins⟩⟩
    | false =>
      apply reaches_here
      refine Or.inr ⟨?_, rfl, rfl, rfl⟩
      intro all
      have first := all written.length (Nat.le_refl _) (by omega)
      rw [accepted] at first
      cases first

/-! Progress. -/

/-- There is never a last time at which the loop is anywhere but at the top. -/
def Progresses (states : Nat → Loop) : Prop := ∀ n, ∃ m, n ≤ m ∧ (states m).point ≠ .top

def Completes (states : Nat → Loop) : Prop := ∃ n, (states n).point = .returned ∧ (states n).rest = []

theorem run_goes (file : List UInt8) (drains : Nat → Bool) :
    ∃ n, Goes accepts 0 (play checksEmpty decode file) (run checksEmpty decode accepts file drains n) :=
  reaches_goes [] [] file drains

theorem run_ends {file : List UInt8} {drains : Nat → Bool} {n : Nat} {played : Played}
    (ends : Ends played (run checksEmpty decode accepts file drains n)) {m : Nat} (later : n ≤ m) :
    run checksEmpty decode accepts file drains m = run checksEmpty decode accepts file drains n :=
  after_settled (ends_settled ends) later

theorem run_spins {file : List UInt8} {drains : Nat → Bool} {n : Nat}
    (spins : Spins (run checksEmpty decode accepts file drains n)) {m : Nat} (later : n ≤ m) :
    run checksEmpty decode accepts file drains m = run checksEmpty decode accepts file drains n :=
  after_settled (spins_settled spins) later

theorem run_returned {file : List UInt8} {drains : Nat → Bool} {n : Nat}
    (returned : (run checksEmpty decode accepts file drains n).point = .returned) {m : Nat} (later : n ≤ m) :
    run checksEmpty decode accepts file drains m = run checksEmpty decode accepts file drains n := by
  have settled : ∀ drained, (run checksEmpty decode accepts file drains n).step checksEmpty decode accepts drained =
      run checksEmpty decode accepts file drains n := by
    intro drained
    unfold Loop.step
    rw [returned]
  exact after_settled settled later

theorem ends_point {played : Played} {loop : Loop} (ends : Ends played loop) : loop.point ≠ .top := by
  obtain ⟨-, -, last⟩ := ends
  intro top
  split at last
  · rw [top] at last
    cases last.1
  · rw [top] at last
    cases last

end

/-- Whenever the stream drains, the loop makes progress exactly if every write it makes is accepted at once, and it
comes to the end of the file exactly if no frame makes it throw either. -/
theorem progresses_iff (checksEmpty : Bool) (decode : List (List UInt8) → List UInt8 → Option (List UInt8))
    (accepts : Nat → Bool) (file : List UInt8) (drains : Nat → Bool) :
    (Progresses (run checksEmpty decode accepts file drains) ↔
      Accepted accepts 0 (play checksEmpty decode file).written.length) ∧
    (Completes (run checksEmpty decode accepts file drains) ↔
      Accepted accepts 0 (play checksEmpty decode file).written.length ∧
        (play checksEmpty decode file).thrown = none) := by
  obtain ⟨n, ⟨all, ends⟩ | ⟨held, spins⟩⟩ := @run_goes checksEmpty decode accepts file drains
  · constructor
    · refine ⟨fun _ => all, fun _ k => ⟨max k n, Nat.le_max_left .., ?_⟩⟩
      rw [run_ends ends (Nat.le_max_right ..)]
      exact ends_point ends
    · constructor
      · intro ⟨m, returned, _⟩
        refine ⟨all, ?_⟩
        have same := (run_ends ends (Nat.le_max_right m n)).symm.trans (run_returned returned (Nat.le_max_left m n))
        obtain ⟨-, -, last⟩ := ends
        rw [same, returned] at last
        split at last
        next quiet => exact quiet
        next => cases last
      · intro ⟨_, quiet⟩
        obtain ⟨-, -, last⟩ := ends
        rw [quiet] at last
        exact ⟨n, last⟩
  · constructor
    · refine ⟨fun progresses => ?_, fun all => absurd all held⟩
      obtain ⟨m, later, elsewhere⟩ := progresses n
      rw [run_spins spins later] at elsewhere
      exact absurd spins.1 elsewhere
    · refine ⟨fun ⟨m, returned, _⟩ => ?_, fun both => absurd both.1 held⟩
      have same := (run_spins spins (Nat.le_max_right m n)).symm.trans (run_returned returned (Nat.le_max_left m n))
      have top := spins.1
      rw [same, returned] at top
      cases top

/-- A recording of one frame with one byte of Opus data. -/
def oneFrame : List UInt8 := [0, 0, 0, 0, 0, 0, 0, 0, 4, 0, 0, 0, 0x80, 0, 1, 0xAA]

/-- A stream that cannot take the frame at once, and drains whenever the loop lets it. -/
theorem oneFrame_spins : ¬ ∀ (checksEmpty : Bool) (decode : List (List UInt8) → List UInt8 → Option (List UInt8))
    (accepts : Nat → Bool) (file : List UInt8) (drains : Nat → Bool),
    Progresses (run checksEmpty decode accepts file drains) := by
  intro always
  have spins : Spins (run true (fun _ _ => some [0]) (fun _ => false) oneFrame (fun _ => true) 3) :=
    ⟨by decide +kernel, by decide +kernel, by decide +kernel⟩
  obtain ⟨m, later, elsewhere⟩ := always true (fun _ _ => some [0]) (fun _ => false) oneFrame (fun _ => true) 3
  rw [run_spins spins later] at elsewhere
  exact absurd spins.1 elsewhere

end DfStudy.Playback
