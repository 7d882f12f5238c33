/-
`receive` in a build with overflow checks, from `src/rudp.rs`.

In such a build `a + b` and `a - b` on `u32` panic where the sum or the
difference does not fit; in a release build they wrap, which is what the session
model computes.  Here `receive` and what it calls are written out once more, with
every `u32` addition and subtraction checked: an `.error` on the outside is the
panic of one of them, and inside is what the call returns and leaves.
-/
import CultNet.Rudp.Session

namespace CultNet.Rudp

/-- `a + b` on `u32`. -/
def checkedAdd (a b : UInt32) : Except Fault UInt32 :=
  if a.toNat + b.toNat < 2 ^ 32 then .ok (a + b)
  else .error (.panic "attempt to add with overflow")

/-- `a - b` on `u32`. -/
def checkedSub (a b : UInt32) : Except Fault UInt32 :=
  if b ≤ a then .ok (a - b) else .error (.panic "attempt to subtract with overflow")

namespace Session

/-- `apply_acknowledgements`. -/
def applyAcknowledgementsChecked (s : Session) (packet : Packet) : Except Fault Session := do
  let pending ← (List.range 32).foldlM
    (fun pending bit =>
      if packet.ackMask &&& (1 <<< UInt32.ofNat bit) ≠ 0 ∧ UInt32.ofNat bit < packet.ack then do
        let sequence ← checkedSub (← checkedSub packet.ack (UInt32.ofNat bit)) 1
        pure (pending.erase sequence)
      else pure pending)
    (s.pendingReliable.erase packet.ack)
  pure { s with pendingReliable := pending }

/-- `ack_state`. -/
def ackStateChecked (s : Session) : Except Fault (UInt32 × UInt32) := do
  let ack := s.highestReceivedSequence.getD 0
  let ackMask ← (List.range 32).foldlM
    (fun ackMask bit =>
      if UInt32.ofNat bit < ack then do
        let sequence ← checkedSub (← checkedSub ack (UInt32.ofNat bit)) 1
        pure (if sequence ∈ s.receivedSequences then ackMask ||| (1 <<< UInt32.ofNat bit)
          else ackMask)
      else pure ackMask) 0
  pure (ack, ackMask)

/-- `create_packet` for the answer to a Ping. -/
def createPongChecked (s : Session) (payload : List UInt8) :
    Except Fault (Except Fault Packet × Session) := do
  if s.nextSequence = u32Max then return (.error (.panic "sequence overflow"), s)
  let (ack, ackMask) ← s.ackStateChecked
  pure (.ok {
    packetType := .pong
    connectionId := s.connectionId
    sequence := s.nextSequence
    ack
    ackMask
    channelId := "control"
    reliable := false
    ordered := false
    sequenced := false
    fragmentId := 0
    fragmentIndex := 0
    fragmentCount := 0
    payload
  }, { s with nextSequence := s.nextSequence + 1 })

/-- `reassemble`. -/
def reassembleChecked (s : Session) (packet : Packet) :
    Except Fault (Except String (Option (DeliveredFrame × Bool × UInt32)) × Session) := do
  if packet.fragmentCount = 0 then
    let next ← checkedAdd packet.sequence 1
    return (.ok (some ({
      channelId := packet.channelId
      payload := packet.payload
      sequence := packet.sequence
    }, packet.ordered, next)), s)
  if packet.fragmentId = 0 then
    return (.error "RUDP fragmented packet must have a non-zero fragment id", s)
  if packet.fragmentCount ≤ packet.fragmentIndex then
    return (.error "RUDP fragment index must be lower than fragment count", s)
  let key : FragmentKey := toLex (packet.channelId, packet.fragmentId)
  let buffer := s.fragmentBuffers[key]?.getD (FragmentBuffer.new packet)
  if buffer.fragmentCount ≠ packet.fragmentCount ∨ buffer.ordered ≠ packet.ordered then
    return (.error "RUDP fragment metadata changed within a fragment set", s)
  let buffer := { buffer with
    payloads := buffer.payloads.insert packet.fragmentIndex packet.payload
    sequences := buffer.sequences.insert packet.fragmentIndex packet.sequence }
  let kept := { s with fragmentBuffers := s.fragmentBuffers.insert key buffer }
  if buffer.payloads.size < packet.fragmentCount.toNat then return (.ok none, kept)
  match buffer.collect ((List.range packet.fragmentCount.toNat).map UInt16.ofNat) with
  | none => return (.ok none, kept)
  | some (payload, sequences) =>
    let next ← checkedAdd (sequences.max?.getD 0) 1
    return (.ok (some ({
      channelId := buffer.channelId
      payload
      sequence := sequences.min?.getD 0
    }, buffer.ordered, next)), { s with fragmentBuffers := s.fragmentBuffers.erase key })

/-- The part of `receive` that handles a Data packet, after the common prologue. -/
def receiveDataChecked (s : Session) (packet : Packet)
    (expectedSequenceIfUninitialized : UInt32) :
    Except Fault (Except Fault ReceiveResult × Session) := do
  let duplicate := packet.sequence ∈ s.receivedSequences
  let s := s.rememberReceived packet.sequence
  if duplicate then return (.ok {}, s)
  match ← s.reassembleChecked packet with
  | (.error message, s) => return (.error (.error message), s)
  | (.ok none, s) => return (.ok {}, s)
  | (.ok (some (frame, ordered, nextSequence)), s) =>
    match s.admitSequenced packet.sequenced ordered frame with
    | none => return (.ok {}, s)
    | some s =>
      if ordered then
        let (delivered, s) := s.deliverOrdered frame nextSequence expectedSequenceIfUninitialized
        return (.ok { delivered }, s)
      return (.ok { delivered := [frame] }, s)

/-- `expected_sequence_if_uninitialized` in `receive`. -/
def expectedSequenceChecked (s : Session) (packet : Packet) : Except Fault UInt32 :=
  match s.highestReceivedSequence with
  | some sequence => checkedAdd sequence 1
  | none => .ok packet.sequence

/-- `receive` after its prologue. -/
def receiveByTypeChecked (s : Session) (packet : Packet)
    (expectedSequenceIfUninitialized : UInt32) :
    Except Fault (Except Fault ReceiveResult × Session) := do
  match packet.packetType with
  | .accept => return (.ok {}, { s.rememberReceived packet.sequence with connected := true })
  | .ping =>
    match ← (s.rememberReceived packet.sequence).createPongChecked packet.payload with
    | (.error fault, s) => return (.error fault, s)
    | (.ok reply, s) => return (.ok { reply := some reply }, s)
  | .ack => return (.ok {}, s.rememberReceived packet.sequence)
  | .pong =>
    return (.ok { pong := true, pongPayload := packet.payload },
      s.rememberReceived packet.sequence)
  | .disconnect =>
    return (.ok { disconnected := true, disconnectReason := packet.payload },
      { s.rememberReceived packet.sequence with connected := false })
  | .connect => return (.ok {}, s)
  | .data => s.receiveDataChecked packet expectedSequenceIfUninitialized

/-- `receive`. -/
def receiveChecked (s : Session) (packet : Packet) (nowMs : Nat) :
    Except Fault (Except Fault ReceiveResult × Session) := do
  match s.requireConnection packet with
  | .error message => return (.error (.error message), s)
  | .ok () =>
    let s ← s.applyAcknowledgementsChecked packet
    let s := { s with lastReceivedAtMs := some nowMs }
    let expectedSequenceIfUninitialized ← s.expectedSequenceChecked packet
    s.receiveByTypeChecked packet expectedSequenceIfUninitialized

end Session

end CultNet.Rudp
