import DfStudy.Sessions
import DfStudy.Support.ShellWords

/-! The commands of an attack, as the shell reads them that `exec` hands them to. -/

namespace DfStudy.ShellCommands
open Attacks Support.ShellWords

/-- What a command is meant to run. -/
def argv (command : Command) : List String :=
  match command with
  | .shadowmute grpcPort target unmute =>
    ["mumble-cli", s!"127.0.0.1:{grpcPort}", "shadowmute", "-s", "1", "-t", target] ++ if unmute then ["-u"] else []
  | .spoof grpcPort user file =>
    ["mumble-cli", s!"127.0.0.1:{grpcPort}", "spoof", "-s", "1", "-u", user, "-f", file, "-r", "16000"]

/-- Whatever files there are where the server runs, the shell takes the text for one simple command with the arguments that
are meant. -/
def Means (command : Command) : Prop :=
  ∀ files, arguments files command.text.toList = some ((argv command).map String.toList)

/-- The commands `scheduleAttack` passes to `exec`. -/
def commands (attack : Attack) (grpcPort : Nat) : List Command :=
  [attack.mute grpcPort, attack.spoof grpcPort, attack.unmute grpcPort]

/-- A text that stands for itself between two blanks. -/
def Unharmed (text : String) : Prop := Plain text.toList ∧ isPattern (unquoted text.toList) = false

instance (text : String) : Decidable (Unharmed text) := by
  unfold Unharmed
  infer_instance

theorem text_spaced (command : Command) : command.text = " ".intercalate (argv command) := by
  have first : "mumble-cli 127.0.0.1:" = "mumble-cli" ++ (" " ++ "127.0.0.1:") := by decide
  cases command with
  | shadowmute grpcPort target unmute =>
    have flags : " shadowmute -s 1 -t " =
        " " ++ ("shadowmute" ++ (" " ++ ("-s" ++ (" " ++ ("1" ++ (" " ++ ("-t" ++ " "))))))) := by decide
    cases unmute with
    | false =>
      change "mumble-cli 127.0.0.1:" ++ toString grpcPort ++ " shadowmute -s 1 -t " ++ target ++ "" = _
      rw [first, flags, String.append_empty]
      simp only [argv, String.intercalate_cons_cons, String.intercalate_singleton, if_neg Bool.false_ne_true,
        List.append_nil, String.append_assoc]
      rfl
    | true =>
      have last : " -u" = " " ++ "-u" := by decide
      change "mumble-cli 127.0.0.1:" ++ toString grpcPort ++ " shadowmute -s 1 -t " ++ target ++ " -u" = _
      rw [first, flags, last]
      simp only [argv, String.intercalate_cons_cons, String.intercalate_singleton, if_true, List.cons_append,
        List.nil_append, String.append_assoc]
      rfl
  | spoof grpcPort user file =>
    have flags : " spoof -s 1 -u " = " " ++ ("spoof" ++ (" " ++ ("-s" ++ (" " ++ ("1" ++ (" " ++ ("-u" ++ " "))))))) := by
      decide
    have named : " -f " = " " ++ ("-f" ++ " ") := by decide
    have last : " -r 16000" = " " ++ ("-r" ++ (" " ++ "16000")) := by decide
    change "mumble-cli 127.0.0.1:" ++ toString grpcPort ++ " spoof -s 1 -u " ++ user ++ " -f " ++ file ++ " -r 16000" = _
    rw [first, flags, named, last]
    simp only [argv, String.intercalate_cons_cons, String.intercalate_singleton, String.append_assoc]
    rfl

theorem digit_plain {c : Char} (digit : c.isDigit = true) : Ordinary c ∧ c ≠ '*' ∧ c ≠ '?' ∧ c ≠ '[' := by
  have none : (['*', '?', '['] ++ ([backslash, singleQuote, doubleQuote, '\n', ' ', '\t'] ++ operators)).all
      (fun other => other.isDigit = false) := by decide
  have apart : c ∉ ['*', '?', '['] ++ ([backslash, singleQuote, doubleQuote, '\n', ' ', '\t'] ++ operators) :=
    fun member => by
      rw [of_decide_eq_true (List.all_eq_true.mp none c member)] at digit
      cases digit
  rw [List.mem_append, not_or] at apart
  refine ⟨apart.2, ?_⟩
  simpa using apart.1

/-- Where the client dials to is a plain argument. -/
theorem address_unharmed (grpcPort : Nat) : Unharmed s!"127.0.0.1:{grpcPort}" := by
  have spelt : (s!"127.0.0.1:{grpcPort}").toList = "127.0.0.1:".toList ++ Nat.toDigits 10 grpcPort := by
    rw [← Nat.toList_repr]
    exact String.toList_append
  have plain : "127.0.0.1:".toList.all (fun c => Ordinary c ∧ c ≠ '*' ∧ c ≠ '?' ∧ c ≠ '[') := by decide
  have digit : ∀ c ∈ Nat.toDigits 10 grpcPort, Ordinary c ∧ c ≠ '*' ∧ c ≠ '?' ∧ c ≠ '[' := fun c member =>
    digit_plain (Nat.isDigit_of_mem_toDigits (by decide) (by decide) member)
  have each : ∀ c ∈ "127.0.0.1:".toList ++ Nat.toDigits 10 grpcPort, Ordinary c ∧ c ≠ '*' ∧ c ≠ '?' ∧ c ≠ '[' :=
    fun c member => (List.mem_append.mp member).elim
      (fun fixed => of_decide_eq_true (List.all_eq_true.mp plain c fixed)) (digit c)
  unfold Unharmed
  rw [spelt]
  have head : ("127.0.0.1:".toList ++ Nat.toDigits 10 grpcPort).head? = some '1' := by simp
  refine ⟨⟨by simp, fun c member => (each c member).1, ?_, ?_⟩, isPattern_literal fun c member => (each c member).2⟩
  · rw [head]
    decide
  · rw [head]
    decide

/-- A command means what it says exactly when each of its arguments stands for itself. -/
theorem means_iff (command : Command) : Means command ↔ ∀ arg ∈ argv command, Unharmed arg := by
  have joined : command.text.toList = [' '].intercalate ((argv command).map String.toList) := by
    rw [text_spaced, String.toList_intercalate]
    rfl
  unfold Means
  rw [joined]
  cases args : argv command with
  | nil => cases command <;> cases args
  | cons arg args =>
    rw [List.map_cons, arguments_joined_iff, ← List.map_cons, List.forall_mem_map]
    rfl

/-- The commands of an attack mean what they say exactly when the name of the participant and the path of the sound stand for
themselves. -/
theorem commands_mean_iff (attack : Attack) (grpcPort : Nat) :
    (∀ command ∈ commands attack grpcPort, Means command) ↔ Unharmed attack.sourceUser ∧ Unharmed attack.audioPath := by
  have address := address_unharmed grpcPort
  have fixed : ∀ arg ∈ ["mumble-cli", "shadowmute", "spoof", "-s", "1", "-t", "-u", "-f", "-r", "16000"], Unharmed arg := by
    decide
  simp only [List.forall_mem_cons, List.not_mem_nil, false_imp_iff, implies_true, and_true] at fixed
  simp [commands, means_iff, argv, Attack.mute, Attack.spoof, Attack.unmute, fixed]
  tauto

def attackOn (sourceUser : String) : Attack where
  attackId := 1
  sessionId := 1
  gameId := "a"
  round := 3
  sourceUser := sourceUser
  targetUser := "mike"
  audioPath := "/srv/dfs/var/fakes/" ++ sourceUser ++ "/2.wav"

/-- A blank in a name makes two arguments of it, and a semicolon two commands. -/
theorem names_split :
    arguments (fun _ => []) ((attackOn "kate b").mute 50051).text.toList =
        some (["mumble-cli", "127.0.0.1:50051", "shadowmute", "-s", "1", "-t", "kate", "b"].map String.toList) ∧
      ¬Means ((attackOn "kate b").mute 50051) ∧
        read ((attackOn "kate;reboot").mute 50051).text.toList = none ∧ ¬Means ((attackOn "kate;reboot").mute 50051) := by
  refine ⟨by decide +kernel, ?_, by decide +kernel, ?_⟩
  · rw [means_iff]
    exact fun unharmed => absurd (unharmed "kate b" (by decide)) (by decide)
  · rw [means_iff]
    exact fun unharmed => absurd (unharmed "kate;reboot" (by decide)) (by decide)

end DfStudy.ShellCommands
