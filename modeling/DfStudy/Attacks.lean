import Mathlib.Data.List.Basic

/-! The rows of the `attack` table and the mumble-cli commands that carry an attack out. -/

namespace DfStudy.Attacks

structure Attack where
  attackId : Nat
  sessionId : Nat
  gameId : String
  round : Nat
  sourceUser : String
  targetUser : String
  audioPath : String
  deriving DecidableEq, Repr

inductive Command where
  | shadowmute (grpcPort : Nat) (target : String) (unmute : Bool)
  | spoof (grpcPort : Nat) (user file : String)
  deriving DecidableEq, Repr

/-- The string handed to `exec`. -/
def Command.text : Command → String
  | .shadowmute grpcPort target unmute =>
      s!"mumble-cli 127.0.0.1:{grpcPort} shadowmute -s 1 -t {target}" ++ if unmute then " -u" else ""
  | .spoof grpcPort user file =>
      s!"mumble-cli 127.0.0.1:{grpcPort} spoof -s 1 -u {user} -f {file} -r 16000"

def Attack.mute (attack : Attack) (grpcPort : Nat) : Command :=
  .shadowmute grpcPort attack.sourceUser false

def Attack.spoof (attack : Attack) (grpcPort : Nat) : Command :=
  .spoof grpcPort attack.sourceUser attack.audioPath

def Attack.unmute (attack : Attack) (grpcPort : Nat) : Command :=
  .shadowmute grpcPort attack.sourceUser true

end DfStudy.Attacks
