import Mathlib.Data.List.Basic

/-! How a POSIX shell reads a text that is meant as one simple command: its words with their quotes removed, and the
arguments these become. A text that is anything else, or that has an expansion in it, has no such reading. -/

namespace DfStudy.Support.ShellWords

abbrev singleQuote : Char := '\x27'
abbrev doubleQuote : Char := '\x22'
abbrev backquote : Char := '\x60'
abbrev backslash : Char := '\x5c'

/-- What separates commands or redirects them, what begins an expansion, and what no command may hold. -/
def operators : List Char := ['&', ';', '|', '<', '>', '(', ')', '$', backquote, '\x00']

/-- The characters of a word, and whether they have been quoted. -/
abbrev Word := List (Char × Bool)

inductive Mode where
  | unquoted
  | escaped
  | single
  | double
  | doubleEscaped
  | comment
  /-- The command has ended with its line. -/
  | ended
  deriving DecidableEq

structure Reader where
  words : List Word := []
  /-- The word that is being read. -/
  word : Option Word := none
  mode : Mode := .unquoted

namespace Reader

def put (r : Reader) (c : Char) (quoted : Bool) : Reader := { r with word := some (r.word.getD [] ++ [(c, quoted)]) }

/-- Quotes begin a word, also when there is nothing between them. -/
def quote (r : Reader) (mode : Mode) : Reader := { r with word := some (r.word.getD []), mode }

def close (r : Reader) : Reader := { r with words := r.words ++ r.word.toList, word := none }

/-- Lines before the command say nothing. -/
def endLine (r : Reader) : Reader := { r with mode := if r.words = [] then .unquoted else .ended }

def readUnquoted (r : Reader) (c : Char) : Option Reader :=
  if c = backslash then some { r with mode := .escaped }
  else if c = singleQuote then some (r.quote .single)
  else if c = doubleQuote then some (r.quote .double)
  else if c ∈ operators then none
  else if c = '\n' then some r.close.endLine
  else if c = ' ' ∨ c = '\t' then some r.close
  else if c = '#' ∧ r.word = none then some { r with mode := .comment }
  else if c = '~' ∧ r.word = none then none
  else some (r.put c false)

def readEscaped (r : Reader) (c : Char) : Reader :=
  if c = '\n' then { r with mode := .unquoted } else { r.put c true with mode := .unquoted }

def readSingle (r : Reader) (c : Char) : Reader :=
  if c = singleQuote then { r with mode := .unquoted } else r.put c true

def readDouble (r : Reader) (c : Char) : Option Reader :=
  if c = doubleQuote then some { r with mode := .unquoted }
  else if c = backslash then some { r with mode := .doubleEscaped }
  else if c = '$' ∨ c = backquote then none
  else some (r.put c true)

/-- Between double quotes only some characters can be escaped. -/
def readDoubleEscaped (r : Reader) (c : Char) : Reader :=
  if c = '\n' then { r with mode := .double }
  else if c ∈ ['$', backquote, doubleQuote, backslash] then { r.put c true with mode := .double }
  else { (r.put backslash true).put c true with mode := .double }

def readEnded (r : Reader) (c : Char) : Option Reader :=
  if c = ' ' ∨ c = '\t' ∨ c = '\n' then some r
  else if c = '#' then some { r with mode := .comment }
  else none

def step (r : Reader) (c : Char) : Option Reader :=
  if c = '\x00' then none
  else match r.mode with
    | .unquoted => r.readUnquoted c
    | .escaped => some (r.readEscaped c)
    | .single => some (r.readSingle c)
    | .double => r.readDouble c
    | .doubleEscaped => some (r.readDoubleEscaped c)
    | .comment => some (if c = '\n' then r.endLine else r)
    | .ended => r.readEnded c

def finish (r : Reader) : Option (List Word) :=
  match r.mode with
  | .unquoted => some r.close.words
  | .comment => some r.close.words
  | .ended => some r.close.words
  | .escaped => none
  | .single => none
  | .double => none
  | .doubleEscaped => none

end Reader

def read (text : List Char) : Option (List Word) := (text.foldlM Reader.step {}).bind Reader.finish

/-! Patterns. -/

/-- Whether a bracket that is open is closed in the same component of the path. -/
def closes : Word → Bool
  | [] => false
  | (']', false) :: _ => true
  | ('/', _) :: _ => false
  | _ :: word => closes word

/-- Behind `[` and `!` a character belongs to the bracket, also when it is `]`. -/
def opens : Word → Bool
  | ('!', false) :: (c, _) :: word => c ≠ '/' && closes word
  | (c, _) :: word => c ≠ '/' && closes word
  | [] => false

def isPattern : Word → Bool
  | [] => false
  | (c, quoted) :: word => !quoted && (c = '*' || c = '?' || c = '[' && opens word) || isPattern word

def literal (word : Word) : List Char := word.map (·.1)

/-- What a word becomes. `files` gives the files a pattern matches. -/
def fields (files : Word → List (List Char)) (word : Word) : List (List Char) :=
  if isPattern word ∧ files word ≠ [] then files word else [literal word]

def arguments (files : Word → List (List Char)) (text : List Char) : Option (List (List Char)) :=
  (read text).map (List.flatMap (fields files))

/-! Text that stands for itself. -/

def Ordinary (c : Char) : Prop := c ∉ [backslash, singleQuote, doubleQuote, '\n', ' ', '\t'] ++ operators

instance (c : Char) : Decidable (Ordinary c) := by
  unfold Ordinary
  infer_instance

structure Plain (arg : List Char) : Prop where
  nonempty : arg ≠ []
  ordinary : ∀ c ∈ arg, Ordinary c
  comment : arg.head? ≠ some '#'
  home : arg.head? ≠ some '~'

instance (arg : List Char) : Decidable (Plain arg) :=
  decidable_of_iff (arg ≠ [] ∧ (arg.all fun c => Ordinary c) = true ∧ arg.head? ≠ some '#' ∧ arg.head? ≠ some '~')
    ⟨fun ⟨nonempty, ordinary, comment, home⟩ => ⟨nonempty, by simpa using ordinary, comment, home⟩,
      fun plain => ⟨plain.nonempty, by simpa using plain.ordinary, plain.comment, plain.home⟩⟩

def unquoted (arg : List Char) : Word := arg.map (·, false)

theorem literal_unquoted (arg : List Char) : literal (unquoted arg) = arg := by
  unfold literal unquoted
  rw [List.map_map]
  exact List.map_id arg

section
variable {r : Reader} {c : Char}

theorem step_ordinary (mode : r.mode = .unquoted) (ordinary : Ordinary c)
    (inside : r.word = none → c ≠ '#' ∧ c ≠ '~') : r.step c = some (r.put c false) := by
  unfold Ordinary operators at ordinary
  simp only [List.cons_append, List.nil_append, List.mem_cons, List.not_mem_nil, or_false, not_or] at ordinary
  unfold Reader.step Reader.readUnquoted operators
  simp only [mode, ordinary, List.mem_cons, List.not_mem_nil, or_self, if_false]
  rw [if_neg fun both => (inside both.2).1 both.1, if_neg fun both => (inside both.2).2 both.1]

theorem step_blank (mode : r.mode = .unquoted) : r.step ' ' = some r.close := by
  unfold Reader.step
  rw [mode]
  rfl

theorem word_read {arg : List Char} (ordinary : ∀ c ∈ arg, Ordinary c) {word : Word} (mode : r.mode = .unquoted)
    (begun : r.word = some word) :
    arg.foldlM Reader.step r = some { r with word := some (word ++ unquoted arg) } := by
  induction arg generalizing r word with
  | nil =>
    have same : r = { r with word := some (word ++ unquoted []) } := by
      rw [show word ++ unquoted [] = word from List.append_nil word, ← begun]
    exact congrArg some same
  | cons c arg ih =>
    have first : r.step c = some (r.put c false) := step_ordinary mode (ordinary c List.mem_cons_self) fun none => by
      rw [begun] at none
      cases none
    have next : (r.put c false).word = some (word ++ [(c, false)]) := by
      unfold Reader.put
      rw [begun]
      rfl
    have rest := ih (fun c member => ordinary c (List.mem_cons_of_mem _ member)) (r := r.put c false) mode next
    rw [List.foldlM_cons, first]
    calc
      _ = _ := rest
      _ = _ := by rw [List.append_assoc]; rfl

theorem plain_read {arg : List Char} (plain : Plain arg) (mode : r.mode = .unquoted) (between : r.word = none) :
    arg.foldlM Reader.step r = some { r with word := some (unquoted arg) } := by
  cases arg with
  | nil => exact absurd rfl plain.nonempty
  | cons c arg =>
    have first : r.step c = some (r.put c false) := step_ordinary mode (plain.ordinary c List.mem_cons_self) fun _ =>
      ⟨fun hash => plain.comment (congrArg some hash), fun tilde => plain.home (congrArg some tilde)⟩
    have next : (r.put c false).word = some [(c, false)] := by
      unfold Reader.put
      rw [between]
      rfl
    rw [List.foldlM_cons, first]
    exact word_read (r := r.put c false) (fun c member => plain.ordinary c (List.mem_cons_of_mem _ member)) mode next

/-- Plain arguments with a blank between them are read one by one. -/
theorem joined_read {arg : List Char} {args : List (List Char)} (plain : ∀ each ∈ arg :: args, Plain each)
    (mode : r.mode = .unquoted) (between : r.word = none) :
    (([' '].intercalate (arg :: args)).foldlM Reader.step r).bind Reader.finish =
      some (r.words ++ (arg :: args).map unquoted) := by
  have first := plain_read (r := r) (plain arg List.mem_cons_self) mode between
  induction args generalizing r arg with
  | nil =>
    rw [List.intercalate_singleton, first]
    unfold Reader.finish
    rw [Option.bind_some, mode]
    rfl
  | cons next args ih =>
    have blank : Reader.step { r with word := some (unquoted arg) } ' ' =
        some { r with words := r.words ++ [unquoted arg], word := none } := step_blank mode
    have later : ∀ each ∈ next :: args, Plain each := fun each member => plain each (List.mem_cons_of_mem _ member)
    rw [List.intercalate_cons_cons, List.append_assoc, List.foldlM_append, first]
    change ((Reader.step { r with word := some (unquoted arg) } ' ').bind
      fun r => ([' '].intercalate (next :: args)).foldlM Reader.step r).bind Reader.finish = _
    rw [blank, Option.bind_some]
    calc
      _ = _ := ih (r := { r with words := r.words ++ [unquoted arg], word := none }) later mode rfl
        (plain_read (later next List.mem_cons_self) mode rfl)
      _ = _ := by rw [List.append_assoc]; rfl

end

/-! How much of a text a reader keeps: the characters of its words, and the end of each word it has finished. -/

def Reader.kept (r : Reader) : Nat :=
  r.words.flatten.length + r.words.length + (r.word.getD []).length + if r.mode = .doubleEscaped then 1 else 0

section
variable {r r' : Reader} {c : Char}

theorem put_kept (quoted : Bool) (mode : Mode) (out : mode ≠ .doubleEscaped) :
    ({ r.put c quoted with mode } : Reader).kept ≤ r.kept + 1 := by
  unfold Reader.kept Reader.put
  simp [out]
  omega

theorem close_kept (mode : Mode) (out : mode ≠ .doubleEscaped) : ({ r.close with mode } : Reader).kept ≤ r.kept + 1 := by
  unfold Reader.kept Reader.close
  cases r.word <;> simp [out] <;> omega

theorem mode_kept (mode : Mode) (out : mode ≠ .doubleEscaped) : ({ r with mode } : Reader).kept ≤ r.kept := by
  unfold Reader.kept
  simp [out]

theorem quote_kept (mode : Mode) (out : mode ≠ .doubleEscaped) : (r.quote mode).kept ≤ r.kept := by
  unfold Reader.kept Reader.quote
  cases r.word <;> simp [out]

/-- What a step does that keeps its character: it reads on in a word, or ends one. -/
inductive Keeps (r : Reader) (c : Char) : Reader → Prop where
  | puts (mode : r.mode = .unquoted) (ordinary : Ordinary c) (inside : r.word = none → c ≠ '#' ∧ c ≠ '~') :
      Keeps r c (r.put c false)
  | closes (mode : Mode) (stays : mode = .unquoted ∨ mode = .ended) : Keeps r c { r.close with mode }

theorem readUnquoted_cases (mode : r.mode = .unquoted) (goes : r.readUnquoted c = some r') :
    r'.kept ≤ r.kept ∨ Keeps r c r' := by
  unfold Reader.readUnquoted at goes
  by_cases escapes : c = backslash
  · rw [if_pos escapes, Option.some.injEq] at goes
    rw [← goes]
    exact .inl (mode_kept _ (by decide))
  by_cases single : c = singleQuote
  · rw [if_neg escapes, if_pos single, Option.some.injEq] at goes
    rw [← goes]
    exact .inl (quote_kept _ (by decide))
  by_cases double : c = doubleQuote
  · rw [if_neg escapes, if_neg single, if_pos double, Option.some.injEq] at goes
    rw [← goes]
    exact .inl (quote_kept _ (by decide))
  by_cases operator : c ∈ operators
  · rw [if_neg escapes, if_neg single, if_neg double, if_pos operator] at goes
    cases goes
  rw [if_neg escapes, if_neg single, if_neg double, if_neg operator] at goes
  by_cases line : c = '\n'
  · rw [if_pos line, Option.some.injEq] at goes
    rw [← goes]
    refine .inr (.closes _ ?_)
    split
    · exact .inl rfl
    · exact .inr rfl
  by_cases blank : c = ' ' ∨ c = '\t'
  · rw [if_neg line, if_pos blank, Option.some.injEq] at goes
    rw [← goes]
    exact .inr (.closes r.mode (.inl mode))
  rw [if_neg line, if_neg blank] at goes
  by_cases hash : c = '#' ∧ r.word = none
  · rw [if_pos hash, Option.some.injEq] at goes
    rw [← goes]
    exact .inl (mode_kept _ (by decide))
  by_cases tilde : c = '~' ∧ r.word = none
  · rw [if_neg hash, if_pos tilde] at goes
    cases goes
  rw [if_neg hash, if_neg tilde, Option.some.injEq] at goes
  rw [← goes]
  refine .inr (.puts mode ?_ fun none => ⟨fun same => hash ⟨same, none⟩, fun same => tilde ⟨same, none⟩⟩)
  unfold Ordinary
  simp only [not_or] at blank
  simp [escapes, single, double, line, blank, operator]

theorem readEnded_kept (goes : r.readEnded c = some r') : r'.kept ≤ r.kept := by
  unfold Reader.readEnded at goes
  split at goes
  next => exact Nat.le_of_eq (congrArg Reader.kept (Option.some.inj goes).symm)
  next =>
    split at goes
    next =>
      rw [← Option.some.inj goes]
      exact mode_kept _ (by decide)
    next => cases goes

theorem readEscaped_kept : (r.readEscaped c).kept ≤ r.kept + 1 := by
  unfold Reader.readEscaped
  split
  next => exact Nat.le_succ_of_le (mode_kept _ (by decide))
  next => exact put_kept true _ (by decide)

theorem readSingle_kept (mode : r.mode = .single) : (r.readSingle c).kept ≤ r.kept + 1 := by
  unfold Reader.readSingle
  split
  next => exact Nat.le_succ_of_le (mode_kept _ (by decide))
  next => exact put_kept true r.mode (by rw [mode]; decide)

theorem readDouble_kept (mode : r.mode = .double) (goes : r.readDouble c = some r') : r'.kept ≤ r.kept + 1 := by
  unfold Reader.readDouble at goes
  split at goes
  next =>
    rw [← Option.some.inj goes]
    exact Nat.le_succ_of_le (mode_kept _ (by decide))
  next =>
    split at goes
    next =>
      rw [← Option.some.inj goes]
      unfold Reader.kept
      simp
    next =>
      split at goes
      next => cases goes
      next =>
        rw [← Option.some.inj goes]
        exact put_kept true r.mode (by rw [mode]; decide)

/-- A backslash has been kept for the time being. -/
theorem readDoubleEscaped_kept (mode : r.mode = .doubleEscaped) : (r.readDoubleEscaped c).kept ≤ r.kept + 1 := by
  unfold Reader.readDoubleEscaped
  split
  next => exact Nat.le_succ_of_le (mode_kept _ (by decide))
  next =>
    split
    next => exact put_kept true _ (by decide)
    next =>
      unfold Reader.kept Reader.put
      simp [mode]
      omega

theorem quoted_kept (mode : r.mode ≠ .unquoted ∧ r.mode ≠ .ended) (goes : r.step c = some r') :
    r'.kept ≤ r.kept + 1 := by
  unfold Reader.step at goes
  split at goes
  next => cases goes
  next =>
    split at goes
    next unquoted => exact absurd unquoted mode.1
    next =>
      rw [← Option.some.inj goes]
      exact readEscaped_kept
    next single =>
      rw [← Option.some.inj goes]
      exact readSingle_kept single
    next double => exact readDouble_kept double goes
    next escaped =>
      rw [← Option.some.inj goes]
      exact readDoubleEscaped_kept escaped
    next =>
      rw [← Option.some.inj goes]
      split
      next =>
        refine Nat.le_succ_of_le (mode_kept _ ?_)
        split
        next => decide
        next => decide
      next => exact Nat.le_succ _
    next ended => exact absurd ended mode.2

/-- A reader that has kept all of the text so far has read plain arguments. -/
structure Tight (r : Reader) (length : Nat) : Prop where
  bound : r.kept ≤ length
  mode : r.kept = length → r.mode = .unquoted ∨ r.mode = .ended
  plain : r.kept = length → ∀ word ∈ r.words ++ r.word.toList, ∃ arg, Plain arg ∧ unquoted arg = word

/-- A step that does not keep its character leaves the reader behind. -/
theorem Tight.behind {length : Nat} (less : r'.kept < length) : Tight r' length :=
  ⟨Nat.le_of_lt less, fun same => absurd same (Nat.ne_of_lt less), fun same => absurd same (Nat.ne_of_lt less)⟩

theorem Tight.keeps {length : Nat} (tight : Tight r length) (keeps : Keeps r c r') : Tight r' (length + 1) := by
  have bound := tight.bound
  cases keeps with
  | puts mode ordinary inside =>
    have more : (r.put c false).kept = r.kept + 1 := by
      unfold Reader.kept Reader.put
      simp [mode]
      omega
    refine ⟨by omega, fun _ => .inl mode, fun same word member => ?_⟩
    have plain := tight.plain (by omega)
    cases List.mem_append.mp member with
    | inl earlier => exact plain word (List.mem_append_left _ earlier)
    | inr last =>
      obtain rfl : r.word.getD [] ++ [(c, false)] = word := Option.some.inj (Option.mem_toList.mp last)
      cases begun : r.word with
      | none =>
        obtain ⟨hash, tilde⟩ := inside begun
        exact ⟨[c], ⟨List.cons_ne_nil _ _, by simp [ordinary], by simpa using hash, by simpa using tilde⟩, rfl⟩
      | some sofar =>
        obtain ⟨arg, plain, rfl⟩ := plain sofar (List.mem_append_right _ (by rw [begun]; exact List.mem_singleton_self _))
        refine ⟨arg ++ [c], ?_, List.map_append⟩
        have head : (arg ++ [c]).head? = arg.head? := List.head?_append_of_ne_nil _ plain.nonempty
        refine ⟨by simp, fun c member => ?_, by rw [head]; exact plain.comment, by rw [head]; exact plain.home⟩
        cases List.mem_append.mp member with
        | inl earlier => exact plain.ordinary c earlier
        | inr last => rwa [List.mem_singleton.mp last]
  | closes mode stays =>
    have out : mode ≠ .doubleEscaped := by
      rcases stays with rfl | rfl
      · decide
      · decide
    have grows := @close_kept r mode out
    refine ⟨by omega, fun _ => stays, fun same word member => ?_⟩
    refine tight.plain (by omega) word ?_
    have words : { r.close with mode := mode }.words ++ { r.close with mode := mode }.word.toList =
        r.words ++ r.word.toList := List.append_nil _
    rwa [words] at member

theorem Tight.step {length : Nat} (tight : Tight r length) (goes : r.step c = some r') : Tight r' (length + 1) := by
  have bound := tight.bound
  by_cases mode : r.mode = .unquoted ∨ r.mode = .ended
  · unfold Reader.step at goes
    split at goes
    next => cases goes
    next =>
      rcases mode with unquoted | ended
      · rw [unquoted] at goes
        rcases readUnquoted_cases unquoted goes with less | keeps
        · exact Tight.behind (by omega)
        · exact tight.keeps keeps
      · rw [ended] at goes
        have kept := readEnded_kept (show r.readEnded c = some r' from goes)
        exact Tight.behind (by omega)
  · have less : r.kept ≠ length := fun same => mode (tight.mode same)
    have grows := quoted_kept ⟨fun unquoted => mode (.inl unquoted), fun ended => mode (.inr ended)⟩ goes
    exact Tight.behind (by omega)

theorem Tight.run {text : List Char} {length : Nat} (tight : Tight r length) (goes : text.foldlM Reader.step r = some r') :
    Tight r' (length + text.length) := by
  induction text generalizing r length with
  | nil =>
    obtain rfl : r = r' := Option.some.inj goes
    exact tight
  | cons c text ih =>
    rw [List.foldlM_cons] at goes
    obtain ⟨next, first, rest⟩ := Option.bind_eq_some_iff.mp goes
    have later := ih (tight.step first) rest
    rwa [Nat.add_assoc, Nat.add_comm 1] at later

end

/-! Arguments with a blank between them. -/

theorem joined_length (arg : List Char) (args : List (List Char)) :
    ([' '].intercalate (arg :: args)).length = (arg :: args).flatten.length + args.length := by
  induction args generalizing arg with
  | nil => simp
  | cons next args ih =>
    rw [List.intercalate_cons_cons, List.length_append, List.length_append, ih next]
    simp
    omega

theorem finish_some {r : Reader} {words : List Word} (finishes : r.finish = some words) :
    r.mode ≠ .doubleEscaped ∧ r.words ++ r.word.toList = words := by
  unfold Reader.finish at finishes
  cases mode : r.mode with
  | unquoted | comment | ended =>
    rw [mode] at finishes
    exact ⟨by decide, Option.some.inj finishes⟩
  | escaped | single | double | doubleEscaped =>
    rw [mode] at finishes
    cases finishes

theorem literal_length (words : List Word) : (words.map literal).flatten.length = words.flatten.length := by
  induction words with
  | nil => rfl
  | cons word words ih =>
    rw [List.map_cons, List.flatten_cons, List.flatten_cons, List.length_append, List.length_append, ih]
    exact congrArg (· + _) (List.length_map _)

/-- Only plain arguments are read as what they are. -/
theorem plain_of_read {arg : List Char} {args : List (List Char)} {words : List Word}
    (reads : read ([' '].intercalate (arg :: args)) = some words) (same : words.map literal = arg :: args) :
    ∀ each ∈ arg :: args, Plain each := by
  obtain ⟨r, run, finishes⟩ := Option.bind_eq_some_iff.mp reads
  have start : Tight {} 0 := ⟨Nat.le_refl _, fun _ => .inl rfl, fun _ word member => absurd member List.not_mem_nil⟩
  have tight := start.run run
  rw [Nat.zero_add, joined_length] at tight
  obtain ⟨mode, closed⟩ := finish_some finishes
  have count : words.length = args.length + 1 := by
    have lengths := congrArg List.length same
    rwa [List.length_map] at lengths
  have characters : words.flatten.length = (arg :: args).flatten.length := by
    rw [← same, literal_length]
  -- One word is still open at the end, or more has been kept than there is.
  have kept : r.kept = (arg :: args).flatten.length + args.length := by
    have bound := tight.bound
    rw [← characters, ← closed] at bound ⊢
    rw [← closed] at count
    unfold Reader.kept at *
    cases begun : r.word with
    | none =>
      simp only [begun, Option.toList_none, List.append_nil] at bound count
      omega
    | some word =>
      simp only [begun, Option.toList_some, Option.getD_some, List.flatten_append, List.flatten_singleton,
        List.length_append, List.length_singleton, if_neg mode] at bound count ⊢
      omega
  intro each member
  rw [← same] at member
  obtain ⟨word, found, rfl⟩ := List.mem_map.mp member
  obtain ⟨arg, plain, rfl⟩ := tight.plain kept word (closed ▸ found)
  rwa [literal_unquoted]

/-! What the arguments become. -/

theorem fields_unquoted {files : Word → List (List Char)} {arg : List Char} (literal_ : isPattern (unquoted arg) = false) :
    fields files (unquoted arg) = [arg] := by
  unfold fields
  rw [if_neg fun pattern => by rw [literal_] at pattern; exact absurd pattern.1 (by decide), literal_unquoted]

theorem isPattern_literal {arg : List Char} (letters : ∀ c ∈ arg, c ≠ '*' ∧ c ≠ '?' ∧ c ≠ '[') :
    isPattern (unquoted arg) = false := by
  induction arg with
  | nil => rfl
  | cons c arg ih =>
    obtain ⟨star, question, bracket⟩ := letters c List.mem_cons_self
    have rest := ih fun c member => letters c (List.mem_cons_of_mem _ member)
    change (!false && (c = '*' || c = '?' || c = '[' && opens (unquoted arg)) || isPattern (unquoted arg)) = false
    simp [star, question, bracket, rest]

/-- Arguments that are joined by blanks are handed on as they are, whatever files there are, exactly when each of them is plain
and no pattern. -/
theorem arguments_joined_iff (arg : List Char) (args : List (List Char)) :
    (∀ files, arguments files ([' '].intercalate (arg :: args)) = some (arg :: args)) ↔
      ∀ each ∈ arg :: args, Plain each ∧ isPattern (unquoted each) = false := by
  constructor
  · intro same
    obtain ⟨words, reads, literals⟩ := Option.map_eq_some_iff.mp (same fun _ => [])
    have separate : words.map literal = arg :: args := by
      have alone : fields (fun _ => []) = fun word => [literal word] := by
        funext word
        exact if_neg fun pattern => pattern.2 rfl
      rwa [alone, ← List.map_eq_flatMap] at literals
    have plain := plain_of_read reads separate
    intro each member
    refine ⟨plain each member, ?_⟩
    by_contra pattern
    -- A file with a longer name than the pattern is handed on instead of it.
    have longer := same fun word => [literal word ++ ['x']]
    unfold arguments read at longer
    rw [joined_read plain rfl rfl, Option.map_some, Option.some.injEq, List.nil_append, List.flatMap_map] at longer
    have become : (fun arg => fields (fun word => [literal word ++ ['x']]) (unquoted arg)) =
        fun arg => [if isPattern (unquoted arg) then arg ++ ['x'] else arg] := by
      funext arg
      unfold fields
      by_cases pattern : isPattern (unquoted arg) = true
      · rw [if_pos ⟨pattern, List.cons_ne_nil _ _⟩, if_pos pattern]
        exact congrArg (fun arg => [arg ++ ['x']]) (literal_unquoted arg)
      · rw [if_neg fun both => pattern both.1, if_neg pattern, literal_unquoted]
    rw [become, ← List.map_eq_flatMap] at longer
    have unchanged := List.map_inj_left.mp (longer.trans (List.map_id _).symm) each member
    rw [if_pos (Bool.of_not_eq_false pattern)] at unchanged
    have lengths := congrArg List.length unchanged
    simp at lengths
  · intro plain files
    have reads := joined_read (r := {}) (fun each member => (plain each member).1) rfl rfl
    unfold arguments read
    rw [reads, Option.map_some, List.nil_append, List.flatMap_map]
    have each : ∀ each ∈ arg :: args, fields files (unquoted each) = [each] := fun each member =>
      fields_unquoted (plain each member).2
    rw [List.flatMap_congr each]
    exact congrArg some (List.flatMap_singleton' _)

end DfStudy.Support.ShellWords
