import DfStudy.Sessions

/-! The paths that are made of the fields of a `create_session` payload: the sound file of an attack, and the directory
of a session's recordings. -/

namespace DfStudy.SessionPaths
open Servers Support.PosixPath

/-- A name or a port of a payload. Its JSON gives a string or a number, and the validator looks at neither. -/
inductive Field where
  | string (text : String)
  | number (value : ℚ)
  deriving DecidableEq

structure Params where
  blueParticipant : Field
  redParticipant : Field
  grpcPort : Field
  murmurPort : Field

inductive Thrown where
  /-- `ERR_INVALID_ARG_TYPE`: `path.resolve` takes strings only. -/
  | invalidArgType
  deriving DecidableEq

section
variable (host : Host)

/-- `${field}`. -/
def Field.text : Field → String
  | .string text => text
  | .number value => host.numberToString value

def wavName (attackSolution : ℚ) : String := host.numberToString attackSolution ++ ".wav"

/-- The `audioPath` of `createAttack`. -/
def audioPath (sourceUser : Field) (attackSolution : ℚ) : Except Thrown String :=
  match sourceUser with
  | .string name => .ok (Sessions.audioPath host name attackSolution)
  | .number _ => .error .invalidArgType

/-- The `murmurId` and the `recDir` of `resolveMurmur`. -/
def murmurId (params : Params) : String := "g" ++ params.grpcPort.text host ++ "_m" ++ params.murmurPort.text host

def recDir (params : Params) : String := resolve host.cwd [Sessions.recDirRoot host, murmurId host params]

/-- The users who are the source of an attack: the players of a session swap places from game to game. -/
def Params.sources (params : Params) : List Field := [params.blueParticipant, params.redParticipant]

def names (path : String) : List (List Char) := components path.toList

/-- Every file of an attack is in a directory of `fakesDir` that has the name of its source user, and the recordings
are in a directory of `recDirRoot`. -/
structure InPlace (params : Params) (attackSolution : ℚ) : Prop where
  files : ∀ sourceUser ∈ params.sources, ∃ path, audioPath host sourceUser attackSolution = .ok path ∧
    names path = names (Sessions.fakesDir host) ++ [(sourceUser.text host).toList, (wavName host attackSolution).toList]
  directory : ∃ name, names (recDir host params) = names (Sessions.recDirRoot host) ++ [name]

/-- The name of a directory. -/
def Named (user : Field) : Prop := ∃ name, user = .string name ∧ Proper name.toList

/-- The path of a murmur climbs no higher than it comes down again, by the way it has come, and then goes one
directory further. -/
def Level (params : Params) : Prop :=
  ∃ name, (climbed (names (murmurId host params))).2 =
    (names (Sessions.recDirRoot host)).drop
      ((names (Sessions.recDirRoot host)).length - (climbed (names (murmurId host params))).1) ++ [name]

end

section
variable {host : Host}

/-! The file of an attack. -/

theorem wavName_proper (printed : ∀ value, '/' ∉ (host.numberToString value).toList) (attackSolution : ℚ) :
    Proper (wavName host attackSolution).toList := by
  have ending : (wavName host attackSolution).toList =
      (host.numberToString attackSolution).toList ++ ['.', 'w', 'a', 'v'] := String.toList_append
  rw [ending]
  have long : 4 ≤ ((host.numberToString attackSolution).toList ++ ['.', 'w', 'a', 'v']).length := by simp
  refine ⟨fun empty => ?_, fun here => ?_, fun parent => ?_, ?_⟩
  · rw [empty] at long
    exact absurd long (by decide)
  · rw [here] at long
    exact absurd long (by decide)
  · rw [parent] at long
    exact absurd long (by decide)
  · rw [List.mem_append]
    rintro (number | extension)
    · exact printed attackSolution number
    · exact absurd extension (by decide)

theorem names_resolve (segments : List String) :
    names (resolve host.cwd segments) = reached host.cwd.toList (segments.map String.toList) := by
  unfold names resolve
  rw [String.toList_ofList, components_resolveChars]

theorem relative_proper {segment : List Char} (proper : Proper segment) : isAbsolute segment = false := by
  unfold isAbsolute
  refine decide_eq_false fun slash => ?_
  exact proper.single (List.mem_of_head? slash)

/-- The file of an attack is in the user's directory exactly when the user has the name of a directory. -/
theorem file_iff (printed : ∀ value, '/' ∉ (host.numberToString value).toList) (sourceUser : Field) (attackSolution : ℚ) :
    (∃ path, audioPath host sourceUser attackSolution = .ok path ∧ names path =
      names (Sessions.fakesDir host) ++ [(sourceUser.text host).toList, (wavName host attackSolution).toList]) ↔
      Named sourceUser := by
  have wav := wavName_proper printed attackSolution
  cases sourceUser with
  | number value =>
    refine iff_of_false ?_ ?_
    · rintro ⟨path, stored, _⟩
      cases stored
    · rintro ⟨name, string, _⟩
      cases string
  | string name =>
    have walked : names (Sessions.audioPath host name attackSolution) = reached host.cwd.toList
        [(Sessions.fakesDir host).toList, name.toList, (wavName host attackSolution).toList] := names_resolve _
    constructor
    · rintro ⟨path, stored, placed⟩
      obtain rfl : Sessions.audioPath host name attackSolution = path := Except.ok.inj stored
      refine ⟨name, rfl, ?_⟩
      rw [walked] at placed
      refine reached_proper host.cwd.toList
        [(Sessions.fakesDir host).toList, name.toList, (wavName host attackSolution).toList] _ ?_
      rw [placed]
      simp [Field.text]
    · rintro ⟨directory, string, proper⟩
      obtain rfl : name = directory := Field.string.inj string
      have fakes : (Sessions.fakesDir host).toList = resolveChars host.cwd.toList ["var/fakes".toList] :=
        String.toList_ofList
      have below : ∀ segment ∈ [name.toList, (wavName host attackSolution).toList], isAbsolute segment = false := by
        simp [relative_proper proper, relative_proper wav]
      have single : [name.toList, (wavName host attackSolution).toList].flatMap components =
          [name.toList, (wavName host attackSolution).toList] := by
        simp [components_proper proper, components_proper wav]
      refine ⟨_, rfl, ?_⟩
      calc
        _ = [name.toList, (wavName host attackSolution).toList].foldl walk
            (reached host.cwd.toList ["var/fakes".toList]) := by
          rw [walked, fakes, reached_below _ _ below, single]
        _ = reached host.cwd.toList ["var/fakes".toList] ++ [name.toList, (wavName host attackSolution).toList] :=
          walk_down (by simp [proper, wav])
        _ = _ := by
          unfold names
          rw [fakes, components_resolveChars]
          rfl

/-- Different users have different files. -/
theorem files_apart {user other : Field} {attackSolution otherSolution : ℚ} {path : String}
    (file : names path = names (Sessions.fakesDir host) ++ [(user.text host).toList, (wavName host attackSolution).toList])
    (same : names path = names (Sessions.fakesDir host) ++ [(other.text host).toList, (wavName host otherSolution).toList]) :
    user.text host = other.text host := by
  rw [file] at same
  have users := (List.cons.inj (List.append_cancel_left same)).1
  exact String.toList_inj.mp users

/-! The directory of the recordings. -/

theorem directory_iff (params : Params) :
    (∃ name, names (recDir host params) = names (Sessions.recDirRoot host) ++ [name]) ↔ Level host params := by
  have root : (Sessions.recDirRoot host).toList =
      resolveChars host.cwd.toList [host.dirname.toList, host.DFS_REC_DIR.toList] := String.toList_ofList
  have within : names (Sessions.recDirRoot host) = reached host.cwd.toList [host.dirname.toList, host.DFS_REC_DIR.toList] :=
    names_resolve _
  have relative : ∀ segment ∈ [(murmurId host params).toList], isAbsolute segment = false := by
    simp [murmurId, isAbsolute]
  have walked : names (recDir host params) = (names (murmurId host params)).foldl walk (names (Sessions.recDirRoot host)) := by
    calc
      _ = reached host.cwd.toList [(Sessions.recDirRoot host).toList, (murmurId host params).toList] := names_resolve _
      _ = _ := by
        rw [root, reached_below _ _ relative, within, List.flatMap_singleton]
        rfl
  unfold Level
  rw [walked, walk_climbed]
  refine exists_congr fun name => ?_
  generalize names (Sessions.recDirRoot host) = above
  generalize climbed (names (murmurId host params)) = path
  have split := List.take_append_drop (above.length - path.1) above
  constructor
  · intro child
    nth_rewrite 3 [← split] at child
    rw [List.append_assoc] at child
    exact List.append_cancel_left child
  · intro down
    rw [down, ← List.append_assoc, split]

/-- Ports without a '/', such as numbers, make the name of a directory. -/
theorem level_of_plain {params : Params} (grpcPort : '/' ∉ (params.grpcPort.text host).toList)
    (murmurPort : '/' ∉ (params.murmurPort.text host).toList) : Level host params := by
  have spelt : (murmurId host params).toList =
      'g' :: ((params.grpcPort.text host).toList ++ ('_' :: 'm' :: (params.murmurPort.text host).toList)) := by
    simp [murmurId]
  have proper : Proper (murmurId host params).toList := by
    rw [spelt]
    refine ⟨by simp, by simp, by simp, ?_⟩
    simp [grpcPort, murmurPort]
  have single : names (murmurId host params) = [(murmurId host params).toList] := components_proper proper
  have path : climbed (names (murmurId host params)) = (0, [(murmurId host params).toList]) := by
    rw [single]
    exact if_neg proper.parent
  refine ⟨(murmurId host params).toList, ?_⟩
  rw [path, Nat.sub_zero, List.drop_length]
  rfl

end

/-- All paths of a session are where they belong exactly when both participants have names of directories, and the
ports make the name of one. -/
theorem in_place_iff (host : Host) (printed : ∀ value, '/' ∉ (host.numberToString value).toList) (params : Params)
    (attackSolution : ℚ) :
    InPlace host params attackSolution ↔
      Named params.blueParticipant ∧ Named params.redParticipant ∧ Level host params := by
  constructor
  · intro inPlace
    have files := fun user member => (file_iff printed user attackSolution).mp (inPlace.files user member)
    exact ⟨files _ (by simp [Params.sources]), files _ (by simp [Params.sources]), (directory_iff params).mp inPlace.directory⟩
  · rintro ⟨blue, red, level⟩
    refine ⟨fun user member => (file_iff printed user attackSolution).mpr ?_, (directory_iff params).mpr level⟩
    simp only [Params.sources, List.mem_cons, List.not_mem_nil, or_false] at member
    rcases member with rfl | rfl
    · exact blue
    · exact red

/-! A server in /srv/dfs. -/

def integer (value : ℚ) : String :=
  if value.num < 0 then "-" ++ value.num.natAbs.repr else value.num.natAbs.repr

theorem integer_printed (value : ℚ) : '/' ∉ (integer value).toList := by
  have digits : '/' ∉ value.num.natAbs.repr.toList := by
    rw [Nat.toList_repr]
    exact fun slash => absurd (Nat.isDigit_of_mem_toDigits (by decide) (by decide) slash) (by decide)
  unfold integer
  split
  next =>
    rw [String.toList_append, List.mem_append]
    rintro (sign | digit)
    · exact absurd sign (by decide)
    · exact digits digit
  next => exact digits

def plainHost : Host where
  cwd := "/srv/dfs"
  dirname := "/srv/dfs/lib"
  DFS_REC_DIR := "rec"
  numberToString := integer
  clock _ reading := reading
  gameRows rows := rows
  gameRows_perm := List.Perm.refl
  attackRows rows := rows
  attackRows_perm := List.Perm.refl

def named (blueParticipant : Field) (grpcPort : Field) : Params where
  blueParticipant := blueParticipant
  redParticipant := .string "mike"
  grpcPort := grpcPort
  murmurPort := .number 64738

theorem in_place_iff_plain : InPlace plainHost (named (.string "pete") (.number 50051)) 2 ↔
    Named (.string "pete") ∧ Named (.string "mike") ∧ Level plainHost (named (.string "pete") (.number 50051)) :=
  in_place_iff plainHost integer_printed (named (.string "pete") (.number 50051)) 2

/-- The file of a participant `..` is outside of `fakesDir`, a number has none, and a port with `..` in it takes the
recordings out of `recDirRoot`. -/
theorem fields_escape :
    audioPath plainHost (.string "..") 2 = .ok "/srv/dfs/var/2.wav" ∧
      ¬InPlace plainHost (named (.string "..") (.number 50051)) 2 ∧
        audioPath plainHost (.number 7) 2 = .error .invalidArgType ∧
          ¬InPlace plainHost (named (.number 7) (.number 50051)) 2 ∧
            recDir plainHost (named (.string "pete") (.string "/../../../x")) = "/srv/dfs/x_m64738" ∧
              ¬InPlace plainHost (named (.string "pete") (.string "/../../../x")) 2 := by
  have parent : ¬Named (.string "..") := fun ⟨name, same, proper⟩ => by
    rw [← Field.string.inj same] at proper
    exact absurd proper (by decide)
  have number : ¬Named (.number 7) := fun ⟨name, same, _⟩ => by cases same
  have outside : ¬∃ name, names (recDir plainHost (named (.string "pete") (.string "/../../../x"))) =
      names (Sessions.recDirRoot plainHost) ++ [name] := fun ⟨name, below⟩ => by
    have shorter : (names (recDir plainHost (named (.string "pete") (.string "/../../../x")))).length <
        (names (Sessions.recDirRoot plainHost)).length := by decide +kernel
    rw [below, List.length_append] at shorter
    omega
  refine ⟨by decide +kernel, fun inPlace => parent ?_, rfl, fun inPlace => number ?_, by decide +kernel,
    fun inPlace => outside inPlace.directory⟩
  · exact (file_iff integer_printed _ 2).mp (inPlace.files _ List.mem_cons_self)
  · exact (file_iff integer_printed _ 2).mp (inPlace.files _ List.mem_cons_self)

end DfStudy.SessionPaths
