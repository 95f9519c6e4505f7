import DfStudy.Voice
import DfStudy.Support.Machine

/-! What others hear of a user who is shadow-muted. A muted packet is dropped before it is charged to the rate
limit, but it has set the user's transport by then, and the transports of a packet's recipients decide which
bytes the later ones are sent. -/

namespace DfStudy.ShadowMute
open PacketData Voice Support.Machine

/-- The server without its recordings. -/
def heard (s : Server) : Server := { s with recorded := [] }

/-! Nothing the server sends depends on what it has recorded. -/

theorem sendEach_heard (s : Server) (u : Nat) (packet : Outgoing) (flag : SpeechFlags) (caches : Caches)
    (recipients : List Nat) :
    sendEach (heard s) u packet flag caches recipients = sendEach s u packet flag caches recipients := by
  induction recipients generalizing caches with
  | nil => rfl
  | cons pDst rest ih =>
    have first : sendTo (heard s) u packet flag caches pDst = sendTo s u packet flag caches pDst := rfl
    rw [sendEach, sendEach, first, ih]

theorem sendPhases_heard (s : Server) (u : Nat) (packet : Outgoing) (caches : Caches) (phases : List Phase) :
    sendPhases (heard s) u packet caches phases = sendPhases s u packet caches phases := by
  induction phases generalizing caches with
  | nil => rfl
  | cons phase phases ih => rw [sendPhases, sendPhases, sendEach_heard, ih]

theorem target_heard (s : Server) (u : Nat) (user : ServerUser) (id : Nat) :
    target (heard s) u user id = (heard (target s u user id).1, (target s u user id).2) := by
  unfold target
  split
  · rfl
  · split
    · rfl
    · have same : (heard s).states u = s.states u := rfl
      dsimp only
      rw [same]
      cases (s.states u).qmTargetCache id <;> rfl

theorem relay_heard (s : Server) (u : Nat) (user : ServerUser) (data : List UInt8) :
    heard (relay (heard s) u user data) = heard (relay s u user data) := by
  unfold relay
  dsimp only
  split
  · rfl
  · rw [target_heard]
    dsimp only
    rw [sendPhases_heard]
    rfl

theorem relayCharged_heard (s : Server) (u : Nat) (user : ServerUser) (data : List UInt8)
    (charged : Option BandwidthRecord) :
    heard (relayCharged (heard s) u user data charged) = heard (relayCharged s u user data charged) := by
  cases charged with
  | none => rfl
  | some bwr => exact relay_heard (s.setState u { s.states u with bwr }) u user data

theorem processMsg_heard (s : Server) (u : Nat) (data : List UInt8) (skipShadowMuteCheck : Bool) (clock : Clock) :
    heard (processMsg (heard s) u data skipShadowMuteCheck clock) =
      heard (processMsg s u data skipShadowMuteCheck clock) := by
  have config : (heard s).config = s.config := rfl
  unfold processMsg
  rw [config]
  cases s.config.users u with
  | none => rfl
  | some user =>
    have mutes : (recordAudio (heard s) data user.qsName).shadowmuted user =
        (recordAudio s data user.qsName).shadowmuted user := rfl
    dsimp only
    rw [mutes]
    split
    · rfl
    · split
      · rfl
      · have charged : charge (recordAudio (heard s) data user.qsName) u data clock =
            charge (recordAudio s data user.qsName) u data clock := rfl
        rw [charged]
        have left := relayCharged_heard (recordAudio (heard s) data user.qsName) u user data
        have right := relayCharged_heard (recordAudio s data user.qsName) u user data
        exact (left _).symm.trans (right _)

theorem message_heard (s : Server) (u : Nat) (data : List UInt8) (skipShadowMuteCheck : Bool) (clock : Clock) :
    heard (message (heard s) u data skipShadowMuteCheck clock) = heard (message s u data skipShadowMuteCheck clock) := by
  unfold message
  split
  · rfl
  · dsimp only
    have same : voice ((heard s).setState u { (heard s).states u with aiUdpFlag := false }).config data =
        voice (s.setState u { s.states u with aiUdpFlag := false }).config data := rfl
    rw [same]
    split
    · have left := processMsg_heard ((heard s).setState u { s.states u with aiUdpFlag := false }) u data
        skipShadowMuteCheck clock
      have right := processMsg_heard (s.setState u { s.states u with aiUdpFlag := false }) u data
        skipShadowMuteCheck clock
      exact left.symm.trans right
    · rfl

theorem receive_heard (s : Server) (u : Nat) (data : List UInt8) (clock : Clock) :
    heard (receive (heard s) u data clock) = heard (receive s u data clock) := by
  unfold receive
  dsimp only
  have same : voice ((heard s).setState u { (heard s).states u with sUdpSocket := true }).config data =
      voice (s.setState u { s.states u with sUdpSocket := true }).config data := rfl
  rw [same]
  split
  · let ready (s : Server) : Server := s.setState u { s.states u with sUdpSocket := true }
    let open_ (s : Server) : Server := (ready s).setState u { (ready s).states u with aiUdpFlag := true }
    have left := processMsg_heard (open_ (heard s)) u data false clock
    have right := processMsg_heard (open_ s) u data false clock
    exact left.symm.trans right
  · rfl

theorem step_heard (s : Server) (turn : Turn) : heard (step (heard s) turn) = heard (step s turn) := by
  cases turn with
  | udp u data clock => exact receive_heard s u data clock
  | tunnel u data clock => exact message_heard s u data false clock
  | spoof u data clock => exact message_heard s u data true clock
  | shadowmute user state => rfl
  | configure config forgets => rfl

/-! Dropped packets. -/

def muted (s : Server) (u : Nat) : Bool :=
  match s.config.users u with
  | none => false
  | some user => s.shadowmuted user

/-- The turn is a packet of user `u`'s own client, while `u` is shadow-muted. -/
def dropped (u : Nat) (s : Server) : Turn → Bool
  | .udp other _ _ | .tunnel other _ _ => other = u && muted s u
  | _ => false

/-- A dropped packet comes the way the user is sent packets already. -/
def Settled (u : Nat) (s : Server) (turn : Turn) : Prop :=
  dropped u s turn →
    match turn with
    | .udp _ data _ => (s.states u).sUdpSocket = true ∧ (voice s.config data → (s.states u).aiUdpFlag = true)
    | .tunnel _ data _ => 2 ≤ data.length → data.length ≤ UDP_PACKET_SIZE → (s.states u).aiUdpFlag = false
    | _ => True

/-- The run without the dropped packets. -/
def strip (u : Nat) : Server → List Turn → List Turn
  | _, [] => []
  | s, turn :: turns =>
    if dropped u s turn then strip u (step s turn) turns else turn :: strip u (step s turn) turns

theorem setState_same {s : Server} {u : Nat} {state : UserState} (same : state = s.states u) : s.setState u state = s := by
  have states : (fun other => if other = u then state else s.states other) = s.states := by
    funext other
    by_cases here : other = u
    · rw [if_pos here, same, here]
    · rw [if_neg here]
  unfold Server.setState
  rw [states]

theorem processMsg_muted {s : Server} {u : Nat} (silent : muted s u = true) (data : List UInt8) (clock : Clock) :
    heard (processMsg s u data false clock) = heard s := by
  unfold muted at silent
  unfold processMsg
  cases found : s.config.users u with
  | none => rfl
  | some user =>
    rw [found] at silent
    have checked : (!false && (recordAudio s data user.qsName).shadowmuted user) = true := silent
    dsimp only
    rw [if_pos checked]
    rfl

/-- A dropped packet on the way the user is sent packets already leaves no trace but in the recordings. -/
theorem dropped_heard {u : Nat} {s : Server} {turn : Turn} (drops : dropped u s turn = true) (settled : Settled u s turn) :
    heard (step s turn) = heard s := by
  have known := settled drops
  cases turn with
  | udp other data clock =>
    have parts : other = u ∧ muted s u = true := by simpa [dropped] using drops
    obtain ⟨rfl, silent⟩ := parts
    obtain ⟨socket, flag⟩ := known
    have kept : s.setState other { s.states other with sUdpSocket := true } = s :=
      setState_same (by rw [← socket])
    change heard (receive s other data clock) = _
    unfold receive
    dsimp only
    rw [kept]
    by_cases spoken : voice s.config data = true
    · have flagged : s.setState other { s.states other with aiUdpFlag := true } = s :=
        setState_same (by rw [← flag spoken])
      rw [if_pos spoken, flagged]
      exact processMsg_muted silent data clock
    · rw [if_neg spoken]
  | tunnel other data clock =>
    have parts : other = u ∧ muted s u = true := by simpa [dropped] using drops
    obtain ⟨rfl, silent⟩ := parts
    change heard (message s other data false clock) = _
    unfold message
    by_cases sized : data.length < 2 ∨ UDP_PACKET_SIZE < data.length
    · rw [if_pos sized]
    · have flag := known (by omega) (by omega)
      have kept : s.setState other { s.states other with aiUdpFlag := false } = s :=
        setState_same (by rw [← flag])
      rw [if_neg sized]
      dsimp only
      rw [kept]
      split
      · exact processMsg_muted silent data clock
      · rfl
  | spoof u data clock => cases drops
  | shadowmute user state => cases drops
  | configure config forgets => cases drops

theorem step_congr {s t : Server} (same : heard s = heard t) (turn : Turn) :
    heard (step s turn) = heard (step t turn) := by
  rw [← step_heard s, same, step_heard]

theorem run_congr {s t : Server} (same : heard s = heard t) (turns : List Turn) :
    heard (run step s turns) = heard (run step t turns) := by
  induction turns generalizing s t with
  | nil => exact same
  | cons turn turns ih => exact ih (step_congr same turn)

theorem run_strip {u : Nat} {s : Server} {turns : List Turn} (settled : Permitted step (Settled u) s turns) :
    heard (run step s turns) = heard (run step s (strip u s turns)) := by
  induction turns generalizing s with
  | nil => rfl
  | cons turn turns ih =>
    obtain ⟨here, later⟩ := settled
    unfold strip
    split
    next drops =>
      calc heard (run step (step s turn) turns)
        _ = heard (run step (step s turn) (strip u (step s turn) turns)) := ih later
        _ = heard (run step s (strip u (step s turn) turns)) := run_congr (dropped_heard drops here) _
    next => exact ih later

/-! What a user hears. -/

/-- The voice packets a user has been sent. -/
def deliveredTo (user : Nat) (s : Server) : List Delivery := s.sent.filter (·.recipient = user)

/-- What is in them. -/
def contents (user : Nat) (s : Server) : List (List UInt8) := (deliveredTo user s).map (·.bytes)

/-- Two runs that differ only in packets user `u` sends while shadow-muted. -/
theorem mute_silences {u : Nat} {s : Server} {left right : List Turn} (same : strip u s left = strip u s right)
    (leftSettled : Permitted step (Settled u) s left) (rightSettled : Permitted step (Settled u) s right) :
    (∀ v, v ≠ u → deliveredTo v (run step s left) = deliveredTo v (run step s right)) ∧
      contents u (run step s left) = contents u (run step s right) := by
  have alike : heard (run step s left) = heard (run step s right) :=
    calc heard (run step s left)
      _ = heard (run step s (strip u s left)) := run_strip leftSettled
      _ = heard (run step s (strip u s right)) := by rw [same]
      _ = heard (run step s right) := (run_strip rightSettled).symm
  have sent : (run step s left).sent = (run step s right).sent := by
    have sentHeard := congrArg Server.sent alike
    exact sentHeard
  constructor
  · intro v _
    unfold deliveredTo
    rw [sent]
  · unfold contents deliveredTo
    rw [sent]

/-! Pete is shadow-muted, Kate is in his channel, and Anna listens to it from another one. -/

def sampleUsers : Nat → Option ServerUser
  | 1 => some { qsName := "pete", cChannel := 0 }
  | 2 => some { qsName := "kate", cChannel := 0 }
  | 3 => some { qsName := "anna", cChannel := 1 }
  | _ => none

def sampleChannels : Nat → Option Channel
  | 0 => some { qlUsers := [1, 2], listeners := [3] }
  | 1 => some { qlUsers := [3] }
  | _ => none

def sampleConfig : Config := {
  users := sampleUsers
  channels := sampleChannels
  allLinks := fun id => [id]
  allChildren := fun id => [id]
  hasPermission := fun _ _ _ => true
  isMember := fun _ _ _ => true
  bOpus := true
  iMaxBandwidth := 558000 }

/-- Anna's packets take the tunnel, the others' do not. -/
def sampleServer : Server := {
  config := sampleConfig
  shadowmuteMap := fun user => user = "pete"
  states := fun session => { sUdpSocket := session ≠ 3 } }

def sampleClock : Clock := { elapsed := 1000000, restart := 1000000 }

/-- An Opus packet of one byte. -/
def sampleVoice : List UInt8 := [0x80, 0, 1, 0x55]

def mutedTunnel : Turn := .tunnel 1 sampleVoice sampleClock
def mutedUdp : Turn := .udp 1 sampleVoice sampleClock
def kateSpeaks : Turn := .udp 2 sampleVoice sampleClock

theorem strip_kate (s : Server) : strip 1 s [kateSpeaks] = [kateSpeaks] := rfl

theorem strip_sample {turn : Turn} (drops : dropped 1 sampleServer turn = true) :
    strip 1 sampleServer [turn, kateSpeaks] = strip 1 sampleServer [kateSpeaks] := by
  rw [strip, if_pos drops, strip_kate, strip_kate]

theorem mute_silences_sample :
    deliveredTo 3 (run step sampleServer [mutedUdp, kateSpeaks]) = deliveredTo 3 (run step sampleServer [kateSpeaks]) ∧
      contents 1 (run step sampleServer [mutedUdp, kateSpeaks]) = contents 1 (run step sampleServer [kateSpeaks]) ∧
      (contents 1 (run step sampleServer [kateSpeaks])).length = 1 := by
  have kate : Permitted step (Settled 1) sampleServer [kateSpeaks] := ⟨nofun, trivial⟩
  have mute : Permitted step (Settled 1) sampleServer [mutedUdp, kateSpeaks] :=
    ⟨fun _ => ⟨rfl, fun _ => rfl⟩, nofun, trivial⟩
  have silences := mute_silences (strip_sample (by decide +kernel)) mute kate
  exact ⟨silences.1 3 (by decide), silences.2, by decide +kernel⟩

/-- Once Pete has sent a packet through the tunnel, Anna is sent Kate's packet with the flag Pete is sent it with. -/
theorem mutedTunnel_heard :
    strip 1 sampleServer [mutedTunnel, kateSpeaks] = strip 1 sampleServer [kateSpeaks] ∧
      contents 3 (run step sampleServer [mutedTunnel, kateSpeaks]) = [[0x80, 2, 0, 1, 0x55]] ∧
      contents 3 (run step sampleServer [kateSpeaks]) = [[0x83, 2, 0, 1, 0x55]] :=
  ⟨strip_sample (by decide +kernel), by decide +kernel, by decide +kernel⟩

end DfStudy.ShadowMute
