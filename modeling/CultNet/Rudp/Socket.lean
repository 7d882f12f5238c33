/-
The RUDP transport over a UDP socket, from `src/rudp.rs`.

A connection drives one session.  What the operating system contributes to a call
is an input of it: the clock, what `recv_from` returned, and what each `send_to`
returned.  A call hands back the datagrams that went out beside its result.

The profile, the trace output and the pauses between fragments are left out; the
statistics are counted without a bound.
-/
import CultNet.Rudp.Session

namespace CultNet.Rudp

/-- `std::net::SocketAddr`. -/
inductive SocketAddr where
  | v4 (ip : BitVec 32) (port : UInt16)
  | v6 (ip : BitVec 128) (port : UInt16) (flowinfo scopeId : UInt32)
  deriving DecidableEq

/-- `CultNetRudpSocketMode`. -/
inductive SocketMode where
  | client
  | server
  deriving DecidableEq

/-- `CultNetTransportFrame`. -/
structure TransportFrame where
  channelId : String
  payload : List UInt8
  deriving DecidableEq

/-- `CultNetTransportStats`; the expired packets are counted in the session. -/
structure TransportStats where
  bytesReceived : Nat := 0
  bytesSent : Nat := 0
  framesReceived : Nat := 0
  framesSent : Nat := 0
  deriving DecidableEq

/-- `DEFAULT_MEDIA_RELIABLE_EXPIRE_AFTER_MS`. -/
def defaultMediaReliableExpireAfterMs : Nat := 75

/-- `CultNetRudpSocketTransportOptions`. -/
structure SocketTransportOptions where
  mode : SocketMode
  remoteAddr : Option SocketAddr
  connectionId : UInt32
  initialSequence : UInt32
  resendDelayMs : Nat
  maxFragmentBytes : Option UInt32
  maxPendingReliablePackets : Option UInt32
  mediaReliableExpireAfterMs : Option Nat

/-- `CultNetRudpSocketTransportOptions::client`. -/
def SocketTransportOptions.client (remoteAddr : SocketAddr) (connectionId : UInt32) :
    SocketTransportOptions where
  mode := .client
  remoteAddr := some remoteAddr
  connectionId
  initialSequence := 1
  resendDelayMs := 250
  maxFragmentBytes := none
  maxPendingReliablePackets := none
  mediaReliableExpireAfterMs := some defaultMediaReliableExpireAfterMs

/-- `CultNetRudpSocketTransportOptions::server`. -/
def SocketTransportOptions.server (connectionId : UInt32) : SocketTransportOptions where
  mode := .server
  remoteAddr := none
  connectionId
  initialSequence := 1
  resendDelayMs := 250
  maxFragmentBytes := none
  maxPendingReliablePackets := none
  mediaReliableExpireAfterMs := some defaultMediaReliableExpireAfterMs

/-- `CultNetRudpSocketTransportConnection`. -/
structure Connection where
  session : Session
  mode : SocketMode
  remoteAddr : Option SocketAddr
  stats : TransportStats
  deliveredFrames : List TransportFrame
  maxFragmentBytes : Option Nat
  mediaReliableExpireAfterMs : Option Nat
  disconnectReason : Option (List UInt8)
  pongPayloads : List (List UInt8)

/-- A datagram handed to `send_to`. -/
structure Datagram where
  wire : List UInt8
  destination : SocketAddr
  deriving DecidableEq

/-- What `recv_from` returns; of a datagram, the bytes it wrote to the buffer. -/
inductive RecvFrom where
  | datagram (wire : List UInt8) (source : SocketAddr)
  /-- `WouldBlock` or `TimedOut`. -/
  | idle
  | failed (message : String)

/-- What the `send_to`s of one call return, in order: the bytes sent, or an error. -/
abbrev SendTo := Nat → Except String Nat

/-- What a call returns, how it leaves the connection, and the datagrams that went out. -/
structure Outcome (α : Type) where
  result : Except Fault α
  connection : Connection
  sent : List Datagram

namespace Connection

/-- `CultNetRudpSocketTransportConnection::new`. -/
def new (options : SocketTransportOptions) : Connection where
  session := Session.new {
    connectionId := options.connectionId
    initialSequence := options.initialSequence
    resendDelayMs := options.resendDelayMs
    maxPendingReliablePackets := options.maxPendingReliablePackets.map UInt32.toNat }
  mode := options.mode
  remoteAddr := options.remoteAddr
  stats := {}
  deliveredFrames := []
  maxFragmentBytes := options.maxFragmentBytes.map UInt32.toNat
  mediaReliableExpireAfterMs := options.mediaReliableExpireAfterMs
  disconnectReason := none
  pongPayloads := []

/-! ### Sending -/

/-- `send_packet`. -/
def sendPacket (c : Connection) (packet : Packet) (sendTo : Except String Nat) : Outcome Unit :=
  match c.remoteAddr with
  | none => {
      result := .error (.error "RUDP socket transport does not have a remote endpoint")
      connection := c
      sent := [] }
  | some remoteAddr =>
    match encodeRudpPacket packet with
    | .error message => { result := .error (.error message), connection := c, sent := [] }
    | .ok wire =>
      match sendTo with
      | .error message => { result := .error (.error message), connection := c, sent := [] }
      | .ok sent => {
          result := .ok ()
          connection := { c with stats := { c.stats with bytesSent := c.stats.bytesSent + sent } }
          sent := [{ wire, destination := remoteAddr }] }

/-- `send_packet(..)?` on one packet after another. -/
def sendPackets (c : Connection) (sendTo : SendTo) : Nat → List Packet → Outcome Unit
  | _, [] => { result := .ok (), connection := c, sent := [] }
  | index, packet :: rest =>
    let first := c.sendPacket packet (sendTo index)
    match first.result with
    | .error fault => { result := .error fault, connection := first.connection, sent := first.sent }
    | .ok () =>
      let others := first.connection.sendPackets sendTo (index + 1) rest
      { others with sent := first.sent ++ others.sent }

/-- The datagram that `send_packet` hands to `send_to`, whatever that returns. -/
def datagram? (c : Connection) (packet : Packet) : Option Datagram :=
  match c.remoteAddr, encodeRudpPacket packet with
  | some destination, .ok wire => some { wire, destination }
  | _, _ => none

/-- The packets whose datagrams `sendPackets` hands to `send_to`, whatever that returns. -/
def handsOver (c : Connection) (sendTo : SendTo) : Nat → List Packet → List Packet
  | _, [] => []
  | index, packet :: rest =>
    let first := c.sendPacket packet (sendTo index)
    let others := match first.result with
      | .error _ => []
      | .ok () => first.connection.handsOver sendTo (index + 1) rest
    if (c.datagram? packet).isSome then packet :: others else others

/-- A session call that creates one packet, and `send_packet` on it. -/
def sendCreated (c : Connection) (sendTo : SendTo) :
    Except Fault Packet × Session → Outcome Unit
  | (.error fault, session) =>
    { result := .error fault, connection := { c with session }, sent := [] }
  | (.ok packet, session) => { c with session }.sendPackets sendTo 0 [packet]

/-- `connect`. -/
def connect (c : Connection) (payload : List UInt8) (nowMs : Nat) (sendTo : SendTo) :
    Outcome Unit :=
  if c.mode ≠ .client then
    { result := .error (.error "Only a client RUDP socket transport can initiate connect")
      connection := c
      sent := [] }
  else c.sendCreated sendTo (c.session.createConnect nowMs payload)

/-- `channel_send_options`. -/
def channelSendOptions (c : Connection) (channelId : String) (nowMs : Nat) : SendOptions :=
  if channelId = "schema" then
    { reliable := true, ordered := true, sequenced := false, nowMs, reliableExpireAfterMs := none }
  else if channelId = "latest" then
    { reliable := false, ordered := false, sequenced := true, nowMs, reliableExpireAfterMs := none }
  else if channelId = "media" then
    { reliable := true, ordered := false, sequenced := false, nowMs
      reliableExpireAfterMs := c.mediaReliableExpireAfterMs }
  else
    { reliable := false, ordered := false, sequenced := false, nowMs
      reliableExpireAfterMs := none }

/-- `send`. -/
def send (c : Connection) (channelId : String) (payload : List UInt8) (nowMs : Nat)
    (sendTo : SendTo) : Outcome Unit :=
  match c.session.sendMany channelId payload (c.channelSendOptions channelId nowMs)
      c.maxFragmentBytes with
  | (.error fault, session) =>
    { result := .error fault, connection := { c with session }, sent := [] }
  | (.ok packets, session) =>
    let out := { c with session }.sendPackets sendTo 0 packets
    match out.result with
    | .error _ => out
    | .ok () =>
      let stats := out.connection.stats
      { out with connection := { out.connection with
          stats := { stats with framesSent := stats.framesSent + 1 } } }

/-- `disconnect`. -/
def disconnect (c : Connection) (reason : List UInt8) (sendTo : SendTo) : Outcome Unit :=
  c.sendCreated sendTo (c.session.createDisconnect reason)

/-- `ping`. -/
def ping (c : Connection) (payload : List UInt8) (sendTo : SendTo) : Outcome Unit :=
  c.sendCreated sendTo (c.session.createPing payload)

/-- `poll_resends`. -/
def pollResends (c : Connection) (nowMs : Nat) (sendTo : SendTo) : Outcome Unit :=
  let (packets, session) := c.session.dueResends nowMs
  { c with session }.sendPackets sendTo 0 packets

/-! ### Receiving -/

/-- Whether `receive_once` takes a packet from `source`, and the remote address it goes on with. -/
def bindRemote (c : Connection) (packet : Packet) (source : SocketAddr) : Option Connection :=
  match c.remoteAddr with
  | some expected =>
    if expected ≠ source then
      if c.mode = .server ∧ packet.packetType = .connect then
        some { c with remoteAddr := some source }
      else none
    else some c
  | none =>
    if c.mode = .server ∧ packet.packetType ≠ .connect then none
    else some { c with remoteAddr := some source }

/-- The Connect branch of `receive_once`. -/
def handleConnect (c : Connection) (packet : Packet) (nowMs : Nat) (sendTo : SendTo) :
    Outcome (Option TransportFrame) :=
  let out := c.sendCreated sendTo (c.session.resetPeerState.acceptConnect packet nowMs [])
  { out with result := out.result.map fun () => none }

/-- `CultNetTransportFrame` of a frame the session delivered. -/
def transportFrame (frame : DeliveredFrame) : TransportFrame where
  channelId := frame.channelId
  payload := frame.payload

/-- The loop over `result.delivered`: every frame is queued and counted. -/
def enqueue (c : Connection) (delivered : List DeliveredFrame) : Connection :=
  { c with
    deliveredFrames := c.deliveredFrames ++ delivered.map transportFrame
    stats := { c.stats with framesReceived := c.stats.framesReceived + delivered.length } }

/-- The end of `receive_once`: an Accept, and a packet that brings out a frame, is acknowledged. -/
def acknowledge (c : Connection) (packet : Packet) (frame : Option TransportFrame)
    (sendTo : SendTo) (index : Nat) : Outcome (Option TransportFrame) :=
  if packet.packetType = .accept ∨ frame.isSome then
    match c.session.createAck with
    | (.error fault, session) =>
      { result := .error fault, connection := { c with session }, sent := [] }
    | (.ok ack, session) =>
      let out := { c with session }.sendPackets sendTo index [ack]
      { out with result := out.result.map fun () => frame }
  else { result := .ok frame, connection := c, sent := [] }

/-- The rest of `receive_once`, for a packet that goes to the session. -/
def handlePacket (c : Connection) (packet : Packet) (nowMs : Nat) (sendTo : SendTo) :
    Outcome (Option TransportFrame) :=
  match c.session.receive packet nowMs with
  | (.error fault, session) =>
    { result := .error fault, connection := { c with session }, sent := [] }
  | (.ok result, session) =>
    let replied := { c with session }.sendPackets sendTo 0 result.reply.toList
    match replied.result with
    | .error fault =>
      { result := .error fault, connection := replied.connection, sent := replied.sent }
    | .ok () =>
      let c := replied.connection
      let c := if result.pong then
        { c with pongPayloads := c.pongPayloads ++ [result.pongPayload] } else c
      if result.disconnected then
        { result := .ok none
          connection := { c with disconnectReason := some result.disconnectReason }
          sent := replied.sent }
      else
        let c := c.enqueue result.delivered
        let frame := c.deliveredFrames.head?
        let c := { c with deliveredFrames := c.deliveredFrames.tail }
        let out := c.acknowledge packet frame sendTo result.reply.toList.length
        { out with sent := replied.sent ++ out.sent }

/-- `stats.bytes_received += received`. -/
def countReceived (c : Connection) (received : Nat) : Connection :=
  { c with stats := { c.stats with bytesReceived := c.stats.bytesReceived + received } }

/-- `receive_once`. -/
def receiveOnce (c : Connection) (recv : RecvFrom) (nowMs : Nat) (sendTo : SendTo) :
    Outcome (Option TransportFrame) :=
  match c.deliveredFrames with
  | frame :: rest =>
    { result := .ok (some frame)
      connection := { c with
        deliveredFrames := rest
        session := c.session.assumeConnected nowMs }
      sent := [] }
  | [] =>
    match recv with
    | .idle => { result := .ok none, connection := c, sent := [] }
    | .failed message => { result := .error (.error message), connection := c, sent := [] }
    | .datagram wire source =>
      let c := c.countReceived wire.length
      match decodeRudpPacket wire with
      | .error _ => { result := .ok none, connection := c, sent := [] }
      | .ok packet =>
        match c.bindRemote packet source with
        | none => { result := .ok none, connection := c, sent := [] }
        | some c =>
          if c.mode = .server ∧ packet.packetType = .connect then
            c.handleConnect packet nowMs sendTo
          else c.handlePacket packet nowMs sendTo

end Connection

/-! ### A connection as a machine -/

/-- A call of one of the connection's methods. -/
inductive ConnectionCall where
  | assumeConnected (nowMs : Nat)
  | popPongPayload
  | connect (payload : List UInt8) (nowMs : Nat)
  | send (channelId : String) (payload : List UInt8) (nowMs : Nat)
  | disconnect (reason : List UInt8)
  | ping (payload : List UInt8)
  | checkTimeout (nowMs timeoutMs : Nat)
  | receiveOnce (recv : RecvFrom) (nowMs : Nat)
  | pollResends (nowMs : Nat)

/-- The packet a call hands to the session: what `receive_once` reads and takes for its peer's. -/
def Connection.takes? (c : Connection) : ConnectionCall → Option Packet
  | .receiveOnce (.datagram wire source) _ =>
    match c.deliveredFrames, decodeRudpPacket wire with
    | [], .ok packet => (c.bindRemote packet source).map fun _ => packet
    | _, _ => none
  | _ => none

/-- What a call puts out. -/
structure ConnectionOutput where
  /-- The datagrams that went out, in order. -/
  sent : List Datagram := []
  /-- The frame `receive_once` returned. -/
  frame : Option TransportFrame := none
  /-- The error, when the call returned `Err`. -/
  failure : Option String := none

/-- The outcome of a method as a machine step; after a panic there is no step. -/
def Outcome.toStep {α : Type} (frame : α → Option TransportFrame) (out : Outcome α) :
    Option (ConnectionOutput × Connection) :=
  match out.result with
  | .ok a => some ({ sent := out.sent, frame := frame a }, out.connection)
  | .error (.error message) => some ({ sent := out.sent, failure := some message }, out.connection)
  | .error (.panic _) => none

/-- One call on a connection, with what the socket does meanwhile. -/
def Connection.call (c : Connection) (input : ConnectionCall × SendTo) :
    Option (ConnectionOutput × Connection) :=
  match input.1 with
  | .assumeConnected nowMs => some ({}, { c with session := c.session.assumeConnected nowMs })
  | .popPongPayload => some ({}, { c with pongPayloads := c.pongPayloads.tail })
  | .connect payload nowMs => (c.connect payload nowMs input.2).toStep fun _ => none
  | .send channelId payload nowMs => (c.send channelId payload nowMs input.2).toStep fun _ => none
  | .disconnect reason => (c.disconnect reason input.2).toStep fun _ => none
  | .ping payload => (c.ping payload input.2).toStep fun _ => none
  | .checkTimeout nowMs timeoutMs =>
    some ({}, { c with session := (c.session.checkTimeout nowMs timeoutMs).2 })
  | .receiveOnce recv nowMs => (c.receiveOnce recv nowMs input.2).toStep id
  | .pollResends nowMs => (c.pollResends nowMs input.2).toStep fun _ => none

/-- A log of calls with their outputs. -/
abbrev ConnectionLog := List ((ConnectionCall × SendTo) × ConnectionOutput)

/-- Every frame `receive_once` returned along a log, in order. -/
def ConnectionLog.returned (log : ConnectionLog) : List TransportFrame :=
  log.flatMap fun entry => entry.2.frame.toList

end CultNet.Rudp
