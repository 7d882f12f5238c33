/-
The books kept on a session.

An audit follows a session and writes down, since the last reset of the peer
state, which Data packets it was handed, which frames it put together out of
which of them, and which frames it delivered.
-/
import CultNet.Rudp.Calls

namespace CultNet.Rudp

/-- The key of the fragment buffer a packet belongs to. -/
def Packet.fragmentKey (packet : Packet) : FragmentKey :=
  toLex (packet.channelId, packet.fragmentId)

/-- Every slot of a fragment set of `count` fragments. -/
def fragmentIndices (count : UInt16) : List UInt16 := (List.range count.toNat).map UInt16.ofNat

namespace FragmentBuffer

/-- The buffer with a packet's chunk and sequence in its slot. -/
def add (buffer : FragmentBuffer) (packet : Packet) : FragmentBuffer :=
  { buffer with
    payloads := buffer.payloads.insert packet.fragmentIndex packet.payload
    sequences := buffer.sequences.insert packet.fragmentIndex packet.sequence }

/-- What a slot of a buffer holds. -/
def part? (buffer : FragmentBuffer) (index : UInt16) : Option (UInt32 × List UInt8) :=
  match buffer.sequences[index]?, buffer.payloads[index]? with
  | some sequence, some chunk => some (sequence, chunk)
  | _, _ => none

/-- What the slots of a buffer hold, in the order in which they are joined. -/
def parts (buffer : FragmentBuffer) (count : UInt16) : List (UInt32 × List UInt8) :=
  (fragmentIndices count).filterMap buffer.part?

end FragmentBuffer

/-- A frame and what it was made of: the number and the payload of each packet. -/
structure Assembly where
  frame : DeliveredFrame
  parts : List (UInt32 × List UInt8)

namespace Session

/-- The buffer a fragment goes to, new if there is none yet. -/
def bufferFor (s : Session) (packet : Packet) : FragmentBuffer :=
  s.fragmentBuffers[packet.fragmentKey]?.getD (FragmentBuffer.new packet)

/-- What the frame that `packet` completes is made of. -/
def partsWith (s : Session) (packet : Packet) : List (UInt32 × List UInt8) :=
  if packet.fragmentCount = 0 then [(packet.sequence, packet.payload)]
  else ((s.bufferFor packet).add packet).parts packet.fragmentCount

/-- The frame that receiving a Data packet puts together, if it is new and completes one. -/
def assembly? (s : Session) (packet : Packet) : Option Assembly :=
  if packet.sequence ∈ s.receivedSequences then none
  else match (s.reassemble packet).1 with
    | .ok (some (frame, _, _)) => some { frame, parts := s.partsWith packet }
    | _ => none

/-- The Data packet of its own connection that a call hands to the session. -/
def data? (s : Session) : Call → Option Packet
  | .receive packet _ =>
    if packet.packetType = .data ∧ packet.connectionId = s.connectionId then some packet else none
  | _ => none

end Session

/-- A session with the books kept on it since the last reset. -/
structure Audit where
  session : Session
  /-- The Data packets handed to the session. -/
  arrived : List Packet
  /-- The frames put together, in order. -/
  assembled : List Assembly
  /-- The frames delivered, in order. -/
  delivered : List DeliveredFrame

namespace Audit

/-- The books on a fresh session. -/
def new (options : SessionOptions) : Audit where
  session := Session.new options
  arrived := []
  assembled := []
  delivered := []

/-- One call of the audited session. -/
def step (audit : Audit) (c : Call) : Option (Output × Audit) :=
  match audit.session.call c with
  | none => none
  | some (out, session) =>
    some (out, match c with
      | .resetPeerState => { session, arrived := [], assembled := [], delivered := [] }
      | c => {
          session
          arrived := audit.arrived ++ (audit.session.data? c).toList
          assembled := audit.assembled ++
            ((audit.session.data? c).bind audit.session.assembly?).toList
          delivered := audit.delivered ++ out.delivered })

end Audit

end CultNet.Rudp
