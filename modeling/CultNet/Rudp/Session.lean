/-
The RUDP session, from `src/rudp.rs`.

One session is one end of a connection.  A single counter numbers every packet
it creates, of every type and on every channel; what it has received is a set of
sequence numbers, from which the acknowledgement fields of each outgoing packet
are computed; and what it has sent reliably waits in `pendingReliable` until an
acknowledgement, an expiry or a reset removes it.

A Data packet takes up to three routes before it is delivered: straight through,
through a fragment buffer until its message is complete, or through an ordered
buffer until the frames before it have been delivered.

`sequence + 1` is the machine's addition on `u32`, as a release build computes
it; `checked_add(..).expect(..)` panics, and so does the model.
-/
import CultNet.Rudp.Packet
import CultNet.Lib.OrderedMap
import Mathlib.Data.Finset.Insert
import Mathlib.Data.List.Sort

namespace CultNet.Rudp

open Std (ExtTreeMap)

/-- `CultNetRudpDeliveredFrame`. -/
structure DeliveredFrame where
  channelId : String
  payload : List UInt8
  sequence : UInt32
  deriving DecidableEq

/-- `CultNetRudpReceiveResult`; what a branch of the source leaves empty is a default here. -/
structure ReceiveResult where
  delivered : List DeliveredFrame := []
  reply : Option Packet := none
  pong : Bool := false
  pongPayload : List UInt8 := []
  disconnected : Bool := false
  disconnectReason : List UInt8 := []
  deriving DecidableEq

/-- `CultNetRudpSessionOptions`, with its `Default`. -/
structure SessionOptions where
  connectionId : UInt32 := 0
  initialSequence : UInt32 := 1
  resendDelayMs : Nat := 250
  maxPendingReliablePackets : Option Nat := none

/-- `CultNetRudpSendOptions`, with its `Default`. -/
structure SendOptions where
  reliable : Bool := false
  ordered : Bool := false
  sequenced : Bool := false
  nowMs : Nat := 0
  reliableExpireAfterMs : Option Nat := none

/-- `PendingReliablePacket`. -/
structure PendingReliablePacket where
  packet : Packet
  lastSentAtMs : Nat
  expiresAtMs : Option Nat
  deriving DecidableEq

/-- `PendingOrderedFrame`. -/
structure PendingOrderedFrame where
  frame : DeliveredFrame
  nextSequence : UInt32
  deriving DecidableEq

/-- `FragmentBuffer`. -/
structure FragmentBuffer where
  channelId : String
  ordered : Bool
  fragmentCount : UInt16
  payloads : ExtTreeMap UInt16 (List UInt8)
  sequences : ExtTreeMap UInt16 UInt32

/-- A buffer as `or_insert_with` creates it for the first fragment of a set. -/
def FragmentBuffer.new (packet : Packet) : FragmentBuffer where
  channelId := packet.channelId
  ordered := packet.ordered
  fragmentCount := packet.fragmentCount
  payloads := ∅
  sequences := ∅

/-- The chunks and sequences of the slots `indices`, if every slot is filled. -/
def FragmentBuffer.collect (buffer : FragmentBuffer) :
    List UInt16 → Option (List UInt8 × List UInt32)
  | [] => some ([], [])
  | index :: rest =>
    match buffer.payloads[index]?, buffer.sequences[index]?, buffer.collect rest with
    | some chunk, some sequence, some (payload, sequences) =>
      some (chunk ++ payload, sequence :: sequences)
    | _, _, _ => none

/-- The key of a fragment buffer: channel id and fragment id. -/
abbrev FragmentKey := String ×ₗ UInt16

/-- `CultNetRudpSession`. -/
structure Session where
  connectionId : UInt32
  resendDelayMs : Nat
  maxPendingReliablePackets : Option Nat
  nextSequence : UInt32
  nextFragmentId : UInt16
  connected : Bool
  lastReceivedAtMs : Option Nat
  highestReceivedSequence : Option UInt32
  receivedSequences : Finset UInt32
  pendingReliable : ExtTreeMap UInt32 PendingReliablePacket
  orderedNextSequenceByChannel : ExtTreeMap String UInt32
  orderedBuffers : ExtTreeMap String (ExtTreeMap UInt32 PendingOrderedFrame)
  fragmentBuffers : ExtTreeMap FragmentKey FragmentBuffer
  highestDeliveredSequencedByChannel : ExtTreeMap String UInt32
  reliablePacketsExpired : Nat

namespace Session

/-- `CultNetRudpSession::new`. -/
def new (options : SessionOptions) : Session where
  connectionId := options.connectionId
  resendDelayMs := options.resendDelayMs
  maxPendingReliablePackets := options.maxPendingReliablePackets
  nextSequence := options.initialSequence
  nextFragmentId := 1
  connected := false
  lastReceivedAtMs := none
  highestReceivedSequence := none
  receivedSequences := ∅
  pendingReliable := ∅
  orderedNextSequenceByChannel := ∅
  orderedBuffers := ∅
  fragmentBuffers := ∅
  highestDeliveredSequencedByChannel := ∅
  reliablePacketsExpired := 0

/-- `reset_peer_state`: the packet counter and the fragment ids go on. -/
def resetPeerState (s : Session) : Session :=
  { s with
    connected := false
    lastReceivedAtMs := none
    highestReceivedSequence := none
    receivedSequences := ∅
    pendingReliable := ∅
    orderedNextSequenceByChannel := ∅
    orderedBuffers := ∅
    fragmentBuffers := ∅
    highestDeliveredSequencedByChannel := ∅ }

/-- `assume_connected`. -/
def assumeConnected (s : Session) (nowMs : Nat) : Session :=
  { s with connected := true, lastReceivedAtMs := some nowMs }

/-! ### Acknowledgements -/

/-- `apply_acknowledgements`: drop the packets the peer says it has. -/
def applyAcknowledgements (s : Session) (packet : Packet) : Session :=
  { s with
    pendingReliable := (List.range 32).foldl
      (fun pending bit =>
        if packet.ackMask &&& (1 <<< UInt32.ofNat bit) ≠ 0 ∧ UInt32.ofNat bit < packet.ack then
          pending.erase (packet.ack - UInt32.ofNat bit - 1)
        else pending)
      (s.pendingReliable.erase packet.ack) }

/-- `remember_received`. -/
def rememberReceived (s : Session) (sequence : UInt32) : Session :=
  { s with
    receivedSequences := insert sequence s.receivedSequences
    highestReceivedSequence := match s.highestReceivedSequence with
      | none => some sequence
      | some highest => if highest < sequence then some sequence else some highest }

/--
`ack_state`: the highest sequence received, and a bit for each of the 32 before
it.  A session that has received nothing acknowledges sequence 0.
-/
def ackState (s : Session) : UInt32 × UInt32 :=
  let ack := s.highestReceivedSequence.getD 0
  (ack, (List.range 32).foldl
    (fun ackMask bit =>
      if UInt32.ofNat bit < ack ∧ ack - UInt32.ofNat bit - 1 ∈ s.receivedSequences then
        ackMask ||| (1 <<< UInt32.ofNat bit)
      else ackMask) 0)

/-! ### Creating packets -/

/-- `create_packet_with_fragments`. -/
def createPacketWithFragments (s : Session) (packetType : PacketType) (channelId : String)
    (payload : List UInt8) (reliable ordered sequenced : Bool)
    (fragmentId fragmentIndex fragmentCount : UInt16) : Except Fault Packet × Session :=
  if s.nextSequence = u32Max then
    (.error (.panic "sequence overflow"), s)
  else
    (.ok {
      packetType
      connectionId := s.connectionId
      sequence := s.nextSequence
      ack := s.ackState.1
      ackMask := s.ackState.2
      channelId
      reliable
      ordered
      sequenced
      fragmentId
      fragmentIndex
      fragmentCount
      payload
    }, { s with nextSequence := s.nextSequence + 1 })

/-- `create_packet`. -/
def createPacket (s : Session) (packetType : PacketType) (channelId : String)
    (payload : List UInt8) (reliable ordered sequenced : Bool) : Except Fault Packet × Session :=
  s.createPacketWithFragments packetType channelId payload reliable ordered sequenced 0 0 0

/-- `track_reliable`. -/
def trackReliable (s : Session) (options : SendOptions) (packet : Packet) : Session :=
  { s with
    pendingReliable := s.pendingReliable.insert packet.sequence {
      packet
      lastSentAtMs := options.nowMs
      expiresAtMs := options.reliableExpireAfterMs.map fun ttl => saturatingAdd options.nowMs ttl } }

/-- `ensure_reliable_capacity`. -/
def ensureReliableCapacity (s : Session) (packetCount : Nat) : Except String Unit :=
  if packetCount = 0 then .ok ()
  else match s.maxPendingReliablePackets with
    | some limit =>
      if limit < s.pendingReliable.size + packetCount then
        .error "RUDP reliable send queue is full"
      else .ok ()
    | none => .ok ()

/-- `purge_expired_reliable`. -/
def purgeExpiredReliable (s : Session) (nowMs : Nat) : Session :=
  let kept := s.pendingReliable.filter fun _ pending =>
    pending.expiresAtMs.all fun expiresAtMs => nowMs ≤ expiresAtMs
  { s with
    pendingReliable := kept
    reliablePacketsExpired := s.reliablePacketsExpired + (s.pendingReliable.size - kept.size) }

/-- `allocate_fragment_id`: the addition saturates, so the counter never comes back to 0. -/
def allocateFragmentId (s : Session) : UInt16 × Session :=
  let next := if s.nextFragmentId = 0xFFFF then 0xFFFF else s.nextFragmentId + 1
  (s.nextFragmentId, { s with nextFragmentId := if next = 0 then 1 else next })

/-- `require_connection`. -/
def requireConnection (s : Session) (packet : Packet) : Except String Unit :=
  if packet.connectionId ≠ s.connectionId then
    .error s!"RUDP packet connection id {packet.connectionId} does not match {s.connectionId}"
  else .ok ()

/-! ### Handshake -/

/-- The options under which the handshake packets are tracked. -/
def handshakeOptions (nowMs : Nat) : SendOptions :=
  { reliable := true, ordered := true, sequenced := false, nowMs, reliableExpireAfterMs := none }

/-- `create_connect`. -/
def createConnect (s : Session) (nowMs : Nat) (payload : List UInt8) :
    Except Fault Packet × Session :=
  match s.ensureReliableCapacity 1 with
  | .error message => (.error (.error message), s)
  | .ok () =>
    match s.createPacket .connect "control" payload true true false with
    | (.error fault, s) => (.error fault, s)
    | (.ok packet, s) => (.ok packet, s.trackReliable (handshakeOptions nowMs) packet)

/-- `accept_connect`. -/
def acceptConnect (s : Session) (packet : Packet) (nowMs : Nat) (payload : List UInt8) :
    Except Fault Packet × Session :=
  match s.requireConnection packet with
  | .error message => (.error (.error message), s)
  | .ok () =>
    if packet.packetType ≠ .connect then
      (.error (.error s!"Expected RUDP connect packet, got {packet.packetType.debug}"), s)
    else
      let wasConnected := s.connected
      match if wasConnected then .ok () else s.ensureReliableCapacity 1 with
      | .error message => (.error (.error message), s)
      | .ok () =>
        let s := s.rememberReceived packet.sequence
        let s := { s with lastReceivedAtMs := some nowMs, connected := true }
        match s.createPacket .accept "control" payload true true false with
        | (.error fault, s) => (.error fault, s)
        | (.ok response, s) =>
          (.ok response,
            if wasConnected then s else s.trackReliable (handshakeOptions nowMs) response)

/-! ### Sending -/

/-- The loop of `send_many` over the fragments `index..fragment_count`. -/
def sendFragments (channelId : String) (payload : List UInt8) (options : SendOptions)
    (maxFragmentBytes : Nat) (fragmentId : UInt16) (fragmentCount : Nat) :
    List Nat → Session → Except Fault (List Packet) × Session
  | [], s => (.ok [], s)
  | index :: rest, s =>
    let start := index * maxFragmentBytes
    let stop := min (start + maxFragmentBytes) payload.length
    match s.createPacketWithFragments .data channelId (slice payload start stop)
        options.reliable options.ordered options.sequenced
        fragmentId (UInt16.ofNat index) (UInt16.ofNat fragmentCount) with
    | (.error fault, s) => (.error fault, s)
    | (.ok packet, s) =>
      match sendFragments channelId payload options maxFragmentBytes fragmentId fragmentCount rest
          (if packet.reliable then s.trackReliable options packet else s) with
      | (.error fault, s) => (.error fault, s)
      | (.ok packets, s) => (.ok (packet :: packets), s)

/-- `usize::div_ceil`. -/
def divCeil (a b : Nat) : Nat := (a + b - 1) / b

/-- The tail of `send_many`: the payload travels in one packet. -/
def sendWhole (s : Session) (channelId : String) (payload : List UInt8) (options : SendOptions) :
    Except Fault (List Packet) × Session :=
  match s.ensureReliableCapacity (if options.reliable then 1 else 0) with
  | .error message => (.error (.error message), s)
  | .ok () =>
    match s.createPacket .data channelId payload
        options.reliable options.ordered options.sequenced with
    | (.error fault, s) => (.error fault, s)
    | (.ok packet, s) =>
      (.ok [packet], if packet.reliable then s.trackReliable options packet else s)

/-- The fragmenting branch of `send_many`. -/
def sendFragmented (s : Session) (channelId : String) (payload : List UInt8)
    (options : SendOptions) (maxFragmentBytes : Nat) : Except Fault (List Packet) × Session :=
  let fragmentCount := divCeil payload.length maxFragmentBytes
  if u16Max < fragmentCount then
    (.error (.error "RUDP payload requires more than 65535 fragments"), s)
  else
    match s.ensureReliableCapacity (if options.reliable then fragmentCount else 0) with
    | .error message => (.error (.error message), s)
    | .ok () =>
      let (fragmentId, s) := s.allocateFragmentId
      sendFragments channelId payload options maxFragmentBytes fragmentId fragmentCount
        (List.range fragmentCount) s

/-- `send_many`. -/
def sendMany (s : Session) (channelId : String) (payload : List UInt8) (options : SendOptions)
    (maxFragmentBytes : Option Nat) : Except Fault (List Packet) × Session :=
  if !s.connected then
    (.error (.error "Cannot send RUDP data before the session is connected"), s)
  else
    let s := s.purgeExpiredReliable options.nowMs
    match maxFragmentBytes with
    | some maxFragmentBytes =>
      if maxFragmentBytes = 0 then
        (.error (.error "RUDP max_fragment_bytes must be greater than zero"), s)
      else if maxFragmentBytes < payload.length then
        s.sendFragmented channelId payload options maxFragmentBytes
      else s.sendWhole channelId payload options
    | none => s.sendWhole channelId payload options

/-- `send`. -/
def send (s : Session) (channelId : String) (payload : List UInt8) (options : SendOptions) :
    Except Fault Packet × Session :=
  match s.sendMany channelId payload options none with
  | (.error fault, s) => (.error fault, s)
  | (.ok [], s) => (.error (.error "RUDP send produced no packets"), s)
  | (.ok (packet :: _), s) => (.ok packet, s)

/-! ### Reassembly -/

/--
`reassemble`: the frame a Data packet completes, whether it is ordered, and the
sequence number that follows it.  `unwrap` cannot fail: a fragment count above
the index is positive, so there is a smallest and a largest sequence.
-/
def reassemble (s : Session) (packet : Packet) :
    Except String (Option (DeliveredFrame × Bool × UInt32)) × Session :=
  if packet.fragmentCount = 0 then
    (.ok (some ({
      channelId := packet.channelId
      payload := packet.payload
      sequence := packet.sequence
    }, packet.ordered, packet.sequence + 1)), s)
  else if packet.fragmentId = 0 then
    (.error "RUDP fragmented packet must have a non-zero fragment id", s)
  else if packet.fragmentCount ≤ packet.fragmentIndex then
    (.error "RUDP fragment index must be lower than fragment count", s)
  else
    let key : FragmentKey := toLex (packet.channelId, packet.fragmentId)
    let buffer := s.fragmentBuffers[key]?.getD (FragmentBuffer.new packet)
    if buffer.fragmentCount ≠ packet.fragmentCount ∨ buffer.ordered ≠ packet.ordered then
      -- a buffer just created agrees with its packet, so this one was already stored
      (.error "RUDP fragment metadata changed within a fragment set", s)
    else
      let buffer := { buffer with
        payloads := buffer.payloads.insert packet.fragmentIndex packet.payload
        sequences := buffer.sequences.insert packet.fragmentIndex packet.sequence }
      let kept := { s with fragmentBuffers := s.fragmentBuffers.insert key buffer }
      if buffer.payloads.size < packet.fragmentCount.toNat then (.ok none, kept)
      else
        match buffer.collect ((List.range packet.fragmentCount.toNat).map UInt16.ofNat) with
        | none => (.ok none, kept)
        | some (payload, sequences) =>
          (.ok (some ({
            channelId := buffer.channelId
            payload
            sequence := sequences.min?.getD 0
          }, buffer.ordered, sequences.max?.getD 0 + 1)),
            { s with fragmentBuffers := s.fragmentBuffers.erase key })

/-! ### Ordered delivery -/

/-- The loop of `drain_ordered`, one iteration for each unit of fuel. -/
def drainOrderedLoop (channelId : String) : Nat → Session → List DeliveredFrame × Session
  | 0, s => ([], s)
  | fuel + 1, s =>
    match s.orderedNextSequenceByChannel[channelId]?, s.orderedBuffers[channelId]? with
    | some next, some buffer =>
      match buffer[next]? with
      | some pending =>
        let (delivered, s) := drainOrderedLoop channelId fuel { s with
          orderedBuffers := s.orderedBuffers.insert channelId (buffer.erase next)
          orderedNextSequenceByChannel :=
            s.orderedNextSequenceByChannel.insert channelId pending.nextSequence }
        (pending.frame :: delivered, s)
      | none => ([], s)
    | _, _ => ([], s)

/-- `drain_ordered`.  Every iteration takes a frame out of the buffer, so its size is enough fuel. -/
def drainOrdered (s : Session) (channelId : String) : List DeliveredFrame × Session :=
  drainOrderedLoop channelId (s.orderedBuffers.getD channelId ∅).size s

/-- `deliver_ordered`. -/
def deliverOrdered (s : Session) (frame : DeliveredFrame)
    (nextSequenceAfterFrame expectedSequenceIfUninitialized : UInt32) :
    List DeliveredFrame × Session :=
  let channelId := frame.channelId
  let first := min expectedSequenceIfUninitialized frame.sequence
  let (next, s) := match s.orderedNextSequenceByChannel[channelId]? with
    | some next => (next, s)
    | none =>
      (first, { s with
        orderedNextSequenceByChannel := s.orderedNextSequenceByChannel.insert channelId first })
  if frame.sequence < next then ([], s)
  else if next < frame.sequence then
    let buffer := s.orderedBuffers.getD channelId ∅
    ([], { s with
      orderedBuffers := s.orderedBuffers.insert channelId
        (buffer.insert frame.sequence { frame, nextSequence := nextSequenceAfterFrame }) })
  else
    let s := { s with
      orderedNextSequenceByChannel :=
        s.orderedNextSequenceByChannel.insert channelId nextSequenceAfterFrame }
    let (drained, s) := s.drainOrdered channelId
    (frame :: drained, s)

/-! ### Receiving -/

/--
The filter of sequenced, unordered frames: `none` drops a frame older than the
newest one delivered on its channel.  `or_insert` leaves the map as it is in
that case, because the entry was there.
-/
def admitSequenced (s : Session) (sequenced ordered : Bool) (frame : DeliveredFrame) :
    Option Session :=
  if sequenced && !ordered then
    let highest := s.highestDeliveredSequencedByChannel.getD frame.channelId frame.sequence
    if frame.sequence < highest then none
    else some { s with highestDeliveredSequencedByChannel :=
      s.highestDeliveredSequencedByChannel.insert frame.channelId frame.sequence }
  else some s

/-- The part of `receive` that handles a Data packet, after the common prologue. -/
def receiveData (s : Session) (packet : Packet) (expectedSequenceIfUninitialized : UInt32) :
    Except Fault ReceiveResult × Session :=
  let duplicate := packet.sequence ∈ s.receivedSequences
  let s' := s.rememberReceived packet.sequence
  if duplicate then (.ok {}, s')
  else
    match s'.reassemble packet with
    | (.error message, s) => (.error (.error message), s)
    | (.ok none, s) => (.ok {}, s)
    | (.ok (some (frame, ordered, nextSequence)), s) =>
      match s.admitSequenced packet.sequenced ordered frame with
      | none => (.ok {}, s)
      | some s =>
        if ordered then
          let (delivered, s) :=
            s.deliverOrdered frame nextSequence expectedSequenceIfUninitialized
          (.ok { delivered }, s)
        else (.ok { delivered := [frame] }, s)

/-- `receive`. -/
def receive (s : Session) (packet : Packet) (nowMs : Nat) : Except Fault ReceiveResult × Session :=
  match s.requireConnection packet with
  | .error message => (.error (.error message), s)
  | .ok () =>
    let s := { s.applyAcknowledgements packet with lastReceivedAtMs := some nowMs }
    let expectedSequenceIfUninitialized :=
      (s.highestReceivedSequence.map fun sequence => sequence + 1).getD packet.sequence
    match packet.packetType with
    | .accept => (.ok {}, { s.rememberReceived packet.sequence with connected := true })
    | .ping =>
      match (s.rememberReceived packet.sequence).createPacket .pong "control" packet.payload
          false false false with
      | (.error fault, s) => (.error fault, s)
      | (.ok reply, s) => (.ok { reply := some reply }, s)
    | .ack => (.ok {}, s.rememberReceived packet.sequence)
    | .pong =>
      (.ok { pong := true, pongPayload := packet.payload }, s.rememberReceived packet.sequence)
    | .disconnect =>
      (.ok { disconnected := true, disconnectReason := packet.payload },
        { s.rememberReceived packet.sequence with connected := false })
    -- a Connect is not remembered: only `accept_connect` takes one in
    | .connect => (.ok {}, s)
    | .data => s.receiveData packet expectedSequenceIfUninitialized

/-! ### Control packets, timeouts and resends -/

/-- `create_ack`. -/
def createAck (s : Session) : Except Fault Packet × Session :=
  s.createPacket .ack "control" [] false false false

/-- `create_ping`. -/
def createPing (s : Session) (payload : List UInt8) : Except Fault Packet × Session :=
  s.createPacket .ping "control" payload false false false

/-- `create_disconnect`. -/
def createDisconnect (s : Session) (reason : List UInt8) : Except Fault Packet × Session :=
  createPacket { s with connected := false } .disconnect "control" reason false false false

/-- `check_timeout`. -/
def checkTimeout (s : Session) (nowMs timeoutMs : Nat) : Bool × Session :=
  if !s.connected then (false, s)
  else match s.lastReceivedAtMs with
    | none => (false, s)
    | some lastReceivedAtMs =>
      if nowMs - lastReceivedAtMs ≤ timeoutMs then (false, s)
      else (true, { s with connected := false })

/-- The test of `due_resends` on one pending packet. -/
def resendDue (s : Session) (nowMs : Nat) (pending : PendingReliablePacket) : Bool :=
  s.resendDelayMs ≤ nowMs - pending.lastSentAtMs

/-- `due_resends`. -/
def dueResends (s : Session) (nowMs : Nat) : List Packet × Session :=
  let s := s.purgeExpiredReliable nowMs
  let due := (s.pendingReliable.toList.filter fun entry => s.resendDue nowMs entry.2).map
    fun entry => entry.2.packet
  (due.insertionSort fun a b => a.sequence ≤ b.sequence,
    { s with pendingReliable := s.pendingReliable.map fun _ pending =>
        if s.resendDue nowMs pending then { pending with lastSentAtMs := nowMs } else pending })

end Session

end CultNet.Rudp
