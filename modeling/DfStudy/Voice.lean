import DfStudy.PacketData

/-! The voice path of a murmur server: packets come in by UDP or through the tunnel, are recorded, checked,
rebuilt with the speaker's session, and sent on. A packet that comes by UDP has been decrypted already. -/

namespace DfStudy.Voice
open PacketData

def UDP_PACKET_SIZE : Nat := 1024

def N_BANDWIDTH_SLOTS : Nat := 360

/-! Users and channels. -/

structure WhisperChannel where
  iId : Nat
  bChildren : Bool
  bLinks : Bool
  qsGroup : String

structure WhisperTarget where
  qlSessions : List Nat
  qlChannels : List WhisperChannel

structure WhisperTargetCache where
  channelTargets : List Nat
  directTargets : List Nat
  listeningTargets : List Nat
  deriving DecidableEq

structure Channel where
  qlUsers : List Nat
  qhLinks : List Nat := []
  qlChannels : List Nat := []
  /-- `getListenersForChannel`. -/
  listeners : List Nat := []

/-- What other requests than voice packets change about a user. -/
structure ServerUser where
  qsName : String
  /-- `sState == Authenticated`. -/
  authenticated : Bool := true
  bMute : Bool := false
  bSuppress : Bool := false
  bSelfMute : Bool := false
  bDeaf : Bool := false
  bSelfDeaf : Bool := false
  ssContext : String := ""
  cChannel : Nat
  qmTargets : Nat → Option WhisperTarget := fun _ => none
  qmWhisperRedirect : String → String := fun _ => ""

inductive Permission where
  | speak
  | whisper
  deriving DecidableEq

/-- Users by session, channels by id, and what the voice path asks of the access control lists and the tree of
channels. A set is walked in the order in which it is listed. -/
structure Config where
  users : Nat → Option ServerUser
  channels : Nat → Option Channel
  /-- With the channel itself. -/
  allLinks : Nat → List Nat
  allChildren : Nat → List Nat
  hasPermission : Nat → Nat → Permission → Bool
  isMember : Nat → String → Nat → Bool
  bOpus : Bool
  iMaxBandwidth : Nat

namespace Config

def channel (config : Config) (id : Nat) : Channel := (config.channels id).getD { qlUsers := [] }

/-- The listeners of a channel who are users. -/
def listeners (config : Config) (id : Nat) : List Nat :=
  (config.channel id).listeners.filter fun session => (config.users session).isSome

def isListening (config : Config) (session id : Nat) : Bool := (config.channel id).listeners.contains session

end Config

/-! The rate limit. -/

structure BandwidthRecord where
  iRecNum : Nat := 0
  iSum : Int := 0
  a_iBW : Nat → Nat := fun _ => 0
  /-- The time each slot was last restarted at, in microseconds. -/
  a_qtWhen : Nat → Nat := fun _ => 0

/-- The readings of the clock while a packet is checked. -/
structure Clock where
  elapsed : Nat
  restart : Nat

/-- The time between two readings, as a `quint64`. -/
def since (now start : Nat) : Nat := (now + 2 ^ 64 - start) % 2 ^ 64

/-- The record with the frame added, if the frame is within the limit. -/
def BandwidthRecord.addFrame (bw : BandwidthRecord) (size maxpersec : Nat) (clock : Clock) : Option BandwidthRecord :=
  let elapsed := since clock.elapsed (bw.a_qtWhen bw.iRecNum)
  if elapsed = 0 then none else
    let nsum : Int := bw.iSum - bw.a_iBW bw.iRecNum + size
    let persec : Int := ((nsum * 1000000) % 2 ^ 64 / elapsed).bmod (2 ^ 32)
    if persec > maxpersec then none else
      some {
        a_iBW := fun slot => if slot = bw.iRecNum then size % 2 ^ 16 else bw.a_iBW slot
        a_qtWhen := fun slot => if slot = bw.iRecNum then clock.restart else bw.a_qtWhen slot
        iSum := nsum
        iRecNum := if bw.iRecNum + 1 = N_BANDWIDTH_SLOTS then 0 else bw.iRecNum + 1 }

/-! The server. -/

/-- What voice packets change about a user. -/
structure UserState where
  aiUdpFlag : Bool := true
  /-- `sUdpSocket != INVALID_SOCKET`. -/
  sUdpSocket : Bool := false
  bwr : BandwidthRecord := {}
  qmTargetCache : Nat → Option WhisperTargetCache := fun _ => none

/-- A voice packet on its way to a user, in a datagram or through the user's tunnel. -/
structure Delivery where
  recipient : Nat
  bytes : List UInt8
  tunnel : Bool
  deriving DecidableEq

structure Server where
  config : Config
  shadowmuteMap : String → Bool := fun _ => false
  states : Nat → UserState := fun _ => {}
  /-- What `recordAudio` has been called with. -/
  recorded : List (String × List UInt8) := []
  /-- What `processMsg` has delivered. -/
  sent : List Delivery := []

def Server.setState (s : Server) (session : Nat) (state : UserState) : Server :=
  { s with states := fun other => if other = session then state else s.states other }

/-! Sending. -/

inductive SpeechFlags where
  | normal
  | shout
  | whisper
  | listen
  deriving DecidableEq

def SpeechFlags.bits : SpeechFlags → Nat
  | .normal => 0
  | .shout => 1
  | .whisper => 2
  | .listen => 3

/-- The users who are sent a packet under one flag. The caches may be cleared before. -/
structure Phase where
  flag : SpeechFlags
  clears : Bool := false
  recipients : List Nat

/-- A packet as it is rebuilt for its recipients. Its first byte holds the type and the flag. -/
structure Outgoing where
  type : Nat
  /-- What lies behind the first byte. -/
  bytes : List UInt8
  poslen : Nat
  deriving DecidableEq

def Outgoing.whole (packet : Outgoing) (flag : SpeechFlags) : List UInt8 :=
  UInt8.ofNat (packet.type + flag.bits) :: packet.bytes

def Outgoing.withoutPosition (packet : Outgoing) (flag : SpeechFlags) : List UInt8 :=
  (packet.whole flag).take (packet.bytes.length + 1 - packet.poslen)

/-- The byte arrays made for the first user of a tunnel, with and without position. -/
structure Caches where
  qba : List UInt8 := []
  qba_npos : List UInt8 := []
  deriving DecidableEq

def UserState.udp (state : UserState) : Bool := state.aiUdpFlag && state.sUdpSocket

def sendMessage (state : UserState) (session : Nat) (data cache : List UInt8) : Delivery × List UInt8 :=
  if state.udp then ({ recipient := session, bytes := data, tunnel := false }, cache) else
    let cache := if cache = [] then data else cache
    ({ recipient := session, bytes := cache, tunnel := true }, cache)

/-- `SENDTO`, for the packet of user `u`. -/
def sendTo (s : Server) (u : Nat) (packet : Outgoing) (flag : SpeechFlags) (caches : Caches) (pDst : Nat) :
    List Delivery × Caches :=
  match s.config.users pDst with
  | none => ([], caches)
  | some user =>
    if user.bDeaf || user.bSelfDeaf || pDst = u then ([], caches) else
      if packet.poslen > 0 ∧ (s.config.users u).map (·.ssContext) = some user.ssContext then
        let (delivery, qba) := sendMessage (s.states pDst) pDst (packet.whole flag) caches.qba
        ([delivery], { caches with qba })
      else
        let (delivery, qba_npos) := sendMessage (s.states pDst) pDst (packet.withoutPosition flag) caches.qba_npos
        ([delivery], { caches with qba_npos })

def sendEach (s : Server) (u : Nat) (packet : Outgoing) (flag : SpeechFlags) : Caches → List Nat → List Delivery × Caches
  | caches, [] => ([], caches)
  | caches, pDst :: rest =>
    let first := sendTo s u packet flag caches pDst
    let others := sendEach s u packet flag first.2 rest
    (first.1 ++ others.1, others.2)

def sendPhases (s : Server) (u : Nat) (packet : Outgoing) : Caches → List Phase → List Delivery
  | _, [] => []
  | caches, phase :: phases =>
    let sent := sendEach s u packet phase.flag (if phase.clears then {} else caches) phase.recipients
    sent.1 ++ sendPhases s u packet sent.2 phases

/-! Recipients. -/

/-- The users in the channel and in the channels linked to it, and those who listen to one of them. -/
def normalPhases (config : Config) (u : Nat) (user : ServerUser) : List Phase :=
  let c := user.cChannel
  let own := (config.channel c).qlUsers
  let start := (own, (config.listeners c).filter (· ∉ own))
  let chans := if (config.channel c).qhLinks = [] then [] else (config.allLinks c).filter (· ≠ c)
  let (normal, listening) := (chans.filter fun l => config.hasPermission u l .speak).foldl (fun (normal, listening) l =>
    let heard := (config.listeners l).filter fun pDst =>
      ((config.users pDst).map (·.cChannel)) ≠ some c && !config.isListening pDst c
    let users := (config.channel l).qlUsers.filter fun p => !config.isListening p c
    (normal ++ users, (listening ++ heard.filter (· ∉ listening)).filter (· ∉ users))) start
  [{ flag := .normal, recipients := normal }, { flag := .listen, recipients := listening }]

/-- `insert`, for each element. -/
def insertAll (set items : List Nat) : List Nat := items.foldl (fun set item => if item ∈ set then set else set ++ [item]) set

/-- The targets of a shout into one channel of a whisper target. -/
def shoutTargets (config : Config) (u : Nat) (user : ServerUser) (channel listener : List Nat) (wtc : WhisperChannel) :
    List Nat × List Nat :=
  match config.channels wtc.iId with
  | none => (channel, listener)
  | some wc =>
    let link := wtc.bLinks && !wc.qhLinks.isEmpty
    let dochildren := wtc.bChildren && !wc.qlChannels.isEmpty
    let group := wtc.qsGroup ≠ ""
    if !link && !dochildren && !group then
      if config.hasPermission u wtc.iId .whisper then
        (insertAll channel wc.qlUsers, insertAll listener (config.listeners wtc.iId))
      else (channel, listener)
    else
      let channels := if link then config.allLinks wtc.iId else [wtc.iId]
      let channels := if dochildren then insertAll channels (config.allChildren wtc.iId) else channels
      let redirect := user.qmWhisperRedirect wtc.qsGroup
      let qsg := if redirect = "" then wtc.qsGroup else redirect
      (channels.filter fun tc => config.hasPermission u tc .whisper).foldl (fun (channel, listener) tc =>
        let among := fun session => !group || config.isMember tc qsg session
        (insertAll channel ((config.channel tc).qlUsers.filter among),
          insertAll listener ((config.listeners tc).filter among))) (channel, listener)

def whisperTargets (config : Config) (u : Nat) (user : ServerUser) (wt : WhisperTarget) : WhisperTargetCache :=
  let (channel, listener) := wt.qlChannels.foldl (fun (channel, listener) wtc =>
    shoutTargets config u user channel listener wtc) ([], [])
  let direct := wt.qlSessions.filter fun id =>
    match config.users id with
    | none => false
    | some pDst => config.hasPermission u pDst.cChannel .whisper && id ∉ channel
  { channelTargets := channel
    directTargets := insertAll [] direct
    listeningTargets := listener.filter (· ∉ channel) }

def whisperPhases (targets : WhisperTargetCache) : List Phase :=
  (if targets.channelTargets = [] then [] else [{ flag := .shout, recipients := targets.channelTargets }]) ++
    (if targets.directTargets = [] then [] else
      [{ flag := .whisper, clears := targets.channelTargets ≠ [], recipients := targets.directTargets }]) ++
    [{ flag := .listen, recipients := targets.listeningTargets }]

/-! `Server::processMsg`. -/

def header (data : List UInt8) : Nat := (data.headD 0).toNat

/-- `MessageHandler::UDPVoiceOpus`. -/
def UDPVoiceOpus : Nat := 4

/-- The frames of the older codecs. Each iteration reads a byte or fails, so the bytes left bound their number. -/
def skipFrames : Nat → Reader → Reader
  | 0, pdi => pdi
  | fuel + 1, pdi =>
    let (counter, pdi) := pdi.next
    let pdi := pdi.skip (counter % 0x80)
    if 0x80 ≤ counter ∧ pdi.ok then skipFrames fuel pdi else pdi

/-- Reads a packet up to its positional data, and rebuilds it with the session of its speaker. -/
def rebuild (session : Nat) (data : List UInt8) : Outgoing :=
  let type := header data / 0x20 * 0x20
  let pdi : Reader := (Reader.get { rest := data.tail }).2
  let pdi := if type / 0x20 ≠ UDPVoiceOpus then skipFrames (pdi.left + 1) pdi else
    let (size, pdi) := pdi.get
    pdi.skip (size % 0x2000)
  let pds : Writer := ((Writer.put { maxsize := UDP_PACKET_SIZE - 1 } session).appendBytes data.tail)
  let poslen := pdi.left
  { type, bytes := pds.bytes, poslen := if pds.bytes.length + 1 < poslen then 0 else poslen }

/-- Whom a packet is for. A whisper target is resolved once, and then kept. -/
def target (s : Server) (u : Nat) (user : ServerUser) (id : Nat) : Server × List Phase :=
  if id = 0 then (s, normalPhases s.config u user) else
    match user.qmTargets id with
    | none => (s, [])
    | some wt =>
      let state := s.states u
      match state.qmTargetCache id with
      | some targets => (s, whisperPhases targets)
      | none =>
        let targets := whisperTargets s.config u user wt
        let qmTargetCache := fun other => if other = id then some targets else state.qmTargetCache other
        (s.setState u { state with qmTargetCache }, whisperPhases targets)

/-- What is done with a packet that has passed all checks. -/
def relay (s : Server) (u : Nat) (user : ServerUser) (data : List UInt8) : Server :=
  let packet := rebuild u data
  let id := header data % 0x20
  if id = 0x1f then -- server loopback
    { s with sent := s.sent ++ [(sendMessage (s.states u) u (packet.whole .normal) []).1] }
  else
    let (s, phases) := target s u user id
    { s with sent := s.sent ++ sendPhases s u packet {} phases }

def recordAudio (s : Server) (data : List UInt8) (user : String) : Server :=
  { s with recorded := s.recorded ++ [(user, data)] }

def Server.shadowmuted (s : Server) (user : ServerUser) : Bool := s.shadowmuteMap user.qsName

def ServerUser.silent (user : ServerUser) : Bool :=
  !user.authenticated || user.bMute || user.bSuppress || user.bSelfMute

/-- IP + UDP + Crypt + Data. -/
def packetsize (data : List UInt8) : Nat := 20 + 8 + 4 + data.length

/-- The rate limit. -/
def charge (s : Server) (u : Nat) (data : List UInt8) (clock : Clock) : Option BandwidthRecord :=
  (s.states u).bwr.addFrame (packetsize data) (s.config.iMaxBandwidth / 8) clock

/-- What lies behind the rate limit. -/
def relayCharged (s : Server) (u : Nat) (user : ServerUser) (data : List UInt8) : Option BandwidthRecord → Server
  | none => s
  | some bwr => relay (s.setState u { s.states u with bwr }) u user data

def processMsg (s : Server) (u : Nat) (data : List UInt8) (skipShadowMuteCheck : Bool) (clock : Clock) : Server :=
  match s.config.users u with
  | none => s
  | some user =>
    let s := recordAudio s data user.qsName
    if !skipShadowMuteCheck && s.shadowmuted user then s
    else if user.silent then s
    else relayCharged s u user data (charge s u data clock)

/-! Packets coming in. -/

/-- Opus, or one of the older codecs as long as not everybody has Opus. -/
def voice (config : Config) (data : List UInt8) : Bool :=
  let msgType := header data / 0x20
  (msgType = 0 || msgType = 2 || msgType = 3 || msgType = UDPVoiceOpus) && (!config.bOpus || msgType = UDPVoiceOpus)

/-- The branch of `Server::message` for `UDPTunnel`. -/
def message (s : Server) (u : Nat) (data : List UInt8) (skipShadowMuteCheck : Bool) (clock : Clock) : Server :=
  if data.length < 2 ∨ UDP_PACKET_SIZE < data.length then s else
    let s := s.setState u { s.states u with aiUdpFlag := false }
    if voice s.config data then processMsg s u data skipShadowMuteCheck clock else s

/-- The body of the loop in `Server::run`, once a packet has been decrypted as one of this user's. -/
def receive (s : Server) (u : Nat) (data : List UInt8) (clock : Clock) : Server :=
  let s := s.setState u { s.states u with sUdpSocket := true }
  if voice s.config data then
    processMsg (s.setState u { s.states u with aiUdpFlag := true }) u data false clock
  else s

def shadowmuteUser (s : Server) (user : String) (state : Bool) : Server :=
  { s with shadowmuteMap := fun other => if other = user then state else s.shadowmuteMap other }

inductive Turn where
  | udp (u : Nat) (data : List UInt8) (clock : Clock)
  | tunnel (u : Nat) (data : List UInt8) (clock : Clock)
  /-- A packet of a `SpoofAudio` request. -/
  | spoof (u : Nat) (data : List UInt8) (clock : Clock)
  | shadowmute (user : String) (state : Bool)
  /-- Users, channels, permissions or targets change, and whisper targets are forgotten. -/
  | configure (config : Config) (forgets : Nat → Nat → Bool)

def step (s : Server) : Turn → Server
  | .udp u data clock => receive s u data clock
  | .tunnel u data clock => message s u data false clock
  | .spoof u data clock => message s u data true clock
  | .shadowmute user state => shadowmuteUser s user state
  | .configure config forgets =>
    { s with
      config
      states := fun session =>
        let state := s.states session
        { state with qmTargetCache := fun id => if forgets session id then none else state.qmTargetCache id } }

end DfStudy.Voice
