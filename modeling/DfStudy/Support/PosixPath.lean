import Mathlib.Data.List.Basic

/-! `path.resolve` for POSIX paths, on the characters of a path. -/

namespace DfStudy.Support.PosixPath

/-- The components of a path. Empty ones and `.` say nothing. -/
def components (path : List Char) : List (List Char) :=
  (path.splitOn '/').filter fun component => component ≠ [] ∧ component ≠ ['.']

/-- `..` goes up one component, and stays at the root. -/
def walk (reached : List (List Char)) (component : List Char) : List (List Char) :=
  if component = ['.', '.'] then reached.dropLast else reached ++ [component]

def isAbsolute (path : List Char) : Bool := path.head? = some '/'

/-- The segments from the last absolute one on, or all of them after the working directory. -/
def relevant (workingDirectory : List Char) (segments : List (List Char)) : List (List Char) :=
  match segments.reverse.findIdx? isAbsolute with
  | some fromEnd => segments.drop (segments.length - 1 - fromEnd)
  | none => workingDirectory :: segments

def resolveChars (workingDirectory : List Char) (segments : List (List Char)) : List Char :=
  '/' :: ['/'].intercalate (((relevant workingDirectory segments).flatMap components).foldl walk [])

def resolve (workingDirectory : String) (segments : List String) : String :=
  String.ofList (resolveChars workingDirectory.toList (segments.map String.toList))

/-! The components of a resolved path. -/

/-- A component that names an entry of a directory. -/
structure Proper (component : List Char) : Prop where
  nonempty : component ≠ []
  here : component ≠ ['.']
  parent : component ≠ ['.', '.']
  single : '/' ∉ component

instance (component : List Char) : Decidable (Proper component) :=
  decidable_of_iff (component ≠ [] ∧ component ≠ ['.'] ∧ component ≠ ['.', '.'] ∧ '/' ∉ component)
    ⟨fun ⟨nonempty, here, parent, single⟩ => ⟨nonempty, here, parent, single⟩, fun proper =>
      ⟨proper.nonempty, proper.here, proper.parent, proper.single⟩⟩

theorem splitOn_single {path component : List Char} (member : component ∈ path.splitOn '/') : '/' ∉ component := by
  induction path generalizing component with
  | nil =>
    rw [List.splitOn_nil, List.mem_singleton] at member
    rw [member]
    exact List.not_mem_nil
  | cons c path ih =>
    rw [List.splitOn_cons_eq_if_modifyHead] at member
    split at member
    next =>
      cases List.mem_cons.mp member with
      | inl empty =>
        rw [empty]
        exact List.not_mem_nil
      | inr later => exact ih later
    next other =>
      cases pieces : path.splitOn '/' with
      | nil => exact absurd pieces (List.splitOn_ne_nil _ _)
      | cons first later =>
        rw [pieces, List.modifyHead_cons] at member
        cases List.mem_cons.mp member with
        | inl longer =>
          rw [longer, List.mem_cons]
          rintro (slash | inside)
          · exact other (beq_iff_eq.mpr slash.symm)
          · exact ih (pieces ▸ List.mem_cons_self) inside
        | inr member => exact ih (pieces ▸ List.mem_cons_of_mem _ member)

/-- A component of a path is proper, or goes up. -/
theorem component_cases {path component : List Char} (member : component ∈ components path) :
    component = ['.', '.'] ∨ Proper component := by
  obtain ⟨piece, named⟩ := List.mem_filter.mp member
  simp only [decide_eq_true_eq] at named
  by_cases up : component = ['.', '.']
  · exact .inl up
  · exact .inr ⟨named.1, named.2, up, splitOn_single piece⟩

theorem components_proper {component : List Char} (proper : Proper component) : components component = [component] := by
  unfold components
  rw [List.splitOn_eq_singleton proper.single]
  simp [proper.nonempty, proper.here]

/-- A path that has been put together from proper components has these. -/
theorem components_joined {names : List (List Char)} (proper : ∀ name ∈ names, Proper name) :
    components ('/' :: ['/'].intercalate names) = names := by
  have root : ∀ path : List Char, components ('/' :: path) = components path := fun path => by
    unfold components
    rw [List.splitOn_cons_eq_if_modifyHead, if_pos (beq_self_eq_true '/'), List.filter_cons_of_neg (by decide)]
  rw [root]
  cases names with
  | nil => rfl
  | cons name names =>
    unfold components
    rw [List.splitOn_intercalate '/' (fun name member => (proper name member).single) (List.cons_ne_nil _ _)]
    refine List.filter_eq_self.mpr fun name member => ?_
    simp [(proper name member).nonempty, (proper name member).here]

theorem walk_proper {reached path : List (List Char)} (proper : ∀ name ∈ reached, Proper name)
    (named : ∀ component ∈ path, component = ['.', '.'] ∨ Proper component) :
    ∀ name ∈ path.foldl walk reached, Proper name := by
  induction path generalizing reached with
  | nil => exact proper
  | cons component path ih =>
    refine ih ?_ fun later member => named later (List.mem_cons_of_mem _ member)
    unfold walk
    split
    next => exact fun name member => proper name (List.dropLast_subset reached member)
    next down =>
      intro name member
      cases List.mem_append.mp member with
      | inl member => exact proper name member
      | inr last =>
        rw [List.mem_singleton.mp last]
        exact (named component List.mem_cons_self).resolve_left down

/-- Proper components are appended one by one. -/
theorem walk_down {reached path : List (List Char)} (proper : ∀ name ∈ path, Proper name) :
    path.foldl walk reached = reached ++ path := by
  induction path generalizing reached with
  | nil => exact (List.append_nil reached).symm
  | cons name path ih =>
    have down : walk reached name = reached ++ [name] := if_neg (proper name List.mem_cons_self).parent
    rw [List.foldl_cons, down, ih fun later member => proper later (List.mem_cons_of_mem _ member), List.append_assoc]
    rfl

section
variable (workingDirectory : List Char) (segments : List (List Char))

/-- Where the segments lead. -/
def reached : List (List Char) := ((relevant workingDirectory segments).flatMap components).foldl walk []

theorem reached_proper : ∀ name ∈ reached workingDirectory segments, Proper name :=
  walk_proper (fun _ none => absurd none List.not_mem_nil) fun component member => by
    obtain ⟨segment, _, inside⟩ := List.mem_flatMap.mp member
    exact component_cases inside

theorem components_resolveChars :
    components (resolveChars workingDirectory segments) = reached workingDirectory segments :=
  components_joined (reached_proper workingDirectory segments)

end

theorem relevant_below {workingDirectory root : List Char} (absolute : isAbsolute root = true) {segments : List (List Char)}
    (relative : ∀ segment ∈ segments, isAbsolute segment = false) :
    relevant workingDirectory (root :: segments) = root :: segments := by
  have last : (segments.reverse ++ [root]).findIdx? isAbsolute = some segments.length := by
    rw [List.findIdx?_append, List.findIdx?_eq_none_iff.mpr fun segment member =>
      relative segment (List.mem_reverse.mp member)]
    simp [List.findIdx?_cons, absolute]
  unfold relevant
  rw [List.reverse_cons, last]
  simp

/-- What is resolved below a resolved directory is walked to from there. -/
theorem reached_below {workingDirectory : List Char} (within segments : List (List Char))
    (relative : ∀ segment ∈ segments, isAbsolute segment = false) :
    reached workingDirectory (resolveChars workingDirectory within :: segments) =
      (segments.flatMap components).foldl walk (reached workingDirectory within) := by
  have proper := reached_proper workingDirectory within
  unfold reached at *
  rw [relevant_below rfl relative, List.flatMap_cons, List.foldl_append,
    components_resolveChars workingDirectory within]
  congr 1
  exact walk_down proper

/-! Walking from an unknown directory. -/

/-- How far a walk climbs above its start, and what it goes down from there. -/
def climb (sofar : Nat × List (List Char)) (component : List Char) : Nat × List (List Char) :=
  if component = ['.', '.'] then
    if sofar.2 = [] then (sofar.1 + 1, []) else (sofar.1, sofar.2.dropLast)
  else (sofar.1, sofar.2 ++ [component])

def climbed (path : List (List Char)) : Nat × List (List Char) := path.foldl climb (0, [])

theorem walk_climbed (root path : List (List Char)) :
    path.foldl walk root = root.take (root.length - (climbed path).1) ++ (climbed path).2 := by
  have step : ∀ (sofar : Nat × List (List Char)) (path : List (List Char)),
      path.foldl walk (root.take (root.length - sofar.1) ++ sofar.2) =
        root.take (root.length - (path.foldl climb sofar).1) ++ (path.foldl climb sofar).2 := by
    intro sofar path
    induction path generalizing sofar with
    | nil => rfl
    | cons component path ih =>
      have same : walk (root.take (root.length - sofar.1) ++ sofar.2) component =
          root.take (root.length - (climb sofar component).1) ++ (climb sofar component).2 := by
        unfold walk climb
        by_cases up : component = ['.', '.']
        · rw [if_pos up, if_pos up]
          by_cases start : sofar.2 = []
          · rw [if_pos start, start, List.append_nil, List.append_nil, List.dropLast_eq_take, List.take_take,
              List.length_take]
            congr 1
            omega
          · rw [if_neg start, List.dropLast_append_of_ne_nil start]
        · rw [if_neg up, if_neg up, List.append_assoc]
      rw [List.foldl_cons, List.foldl_cons, same, ih]
  have start := step (0, []) path
  rwa [List.append_nil, Nat.sub_zero, List.take_length] at start

example : resolveChars "/srv/dfs".toList ["var/./x/".toList, "../fakes".toList] = "/srv/dfs/var/fakes".toList := by decide +kernel

end DfStudy.Support.PosixPath
