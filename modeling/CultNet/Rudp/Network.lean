/-
Two connections with a datagram network between them.

What is on its way to a side is a multiset of datagrams.  The network may hand any of
them to that side's socket, in any order and as late as it likes, and it may copy one or
lose one.  A UDP datagram is never longer than the buffer that `receive_once` reads it
into, so it is always read whole.
-/
import CultNet.Rudp.Audit
import CultNet.Rudp.Pair
import CultNet.Rudp.Socket
import Mathlib.Data.Multiset.AddSub

namespace CultNet.Rudp

namespace Connection

/-- The datagram that a call reads from the socket, and where it came from. -/
def reads? (c : Connection) : ConnectionCall → Option (List UInt8 × SocketAddr)
  | .receiveOnce (.datagram wire source) _ =>
    match c.deliveredFrames with
    | [] => some (wire, source)
    | _ => none
  | _ => none

/-- The frame that a call makes the session put together. -/
def assembly? (c : Connection) (call : ConnectionCall) : Option Assembly :=
  ((c.takes? call).bind fun packet => c.session.data? (.receive packet 0)).bind
    c.session.assembly?

end Connection

/-- The state of a run of two connections. -/
structure Network where
  connection : Side → Connection
  /-- The datagrams on their way to a side. -/
  inFlight : Side → Multiset (List UInt8)
  /-- Every frame that a side's session has put together, in order. -/
  assembled : Side → List Assembly

/-- What can happen next. -/
inductive NetworkInput where
  /-- A call on one side, with what that side's socket does meanwhile. -/
  | call (side : Side) (call : ConnectionCall) (sendTo : SendTo)
  /-- The network copies a datagram. -/
  | duplicate (side : Side) (wire : List UInt8)
  /-- The network loses a datagram. -/
  | drop (side : Side) (wire : List UInt8)

/-- A log of what happened, with what the calls put out. -/
abbrev NetworkLog := List (NetworkInput × ConnectionOutput)

namespace Network

/-- Two fresh connections, and nothing on its way. -/
def new (options : Side → SocketTransportOptions) : Network where
  connection := fun side => Connection.new (options side)
  inFlight := fun _ => 0
  assembled := fun _ => []

/-- What of the datagrams a side sent is on its way to the other side, at `address`. -/
def carried (address : SocketAddr) (sent : List Datagram) : Multiset (List UInt8) :=
  (sent.filter fun d => d.destination = address ∧ d.wire.length ≤ 65535).map Datagram.wire

/-- One step of the two connections at the addresses `addr`. -/
def step (addr : Side → SocketAddr) (net : Network) :
    NetworkInput → Option (ConnectionOutput × Network)
  | .call side call sendTo =>
    -- what the socket hands over comes from the other side and is on its way
    if ((net.connection side).reads? call).all fun read =>
        read.1 ∈ net.inFlight side ∧ read.2 = addr side.other then
      match (net.connection side).call (call, sendTo) with
      | none => none
      | some (out, c) =>
        let left := match (net.connection side).reads? call with
          | some read => (net.inFlight side).erase read.1
          | none => net.inFlight side
        let inFlight := Function.update net.inFlight side left
        some (out, {
          connection := Function.update net.connection side c
          inFlight := Function.update inFlight side.other
            (inFlight side.other + carried (addr side.other) out.sent)
          assembled := Function.update net.assembled side
            (net.assembled side ++ ((net.connection side).assembly? call).toList) })
    else none
  | .duplicate side wire =>
    if wire ∈ net.inFlight side then
      some ({}, { net with
        inFlight := Function.update net.inFlight side (wire ::ₘ net.inFlight side) })
    else none
  | .drop side wire =>
    some ({}, { net with
      inFlight := Function.update net.inFlight side ((net.inFlight side).erase wire) })

/--
The right side, the server, reads no Connect once it has delivered a frame.  Before that a
Connect only makes it forget what no frame was made of.
-/
def KeepsPeer (net : Network) : NetworkInput → Prop
  | .call .right call _ => ∀ packet ∈ (net.connection .right).takes? call,
    packet.packetType = .connect → (net.connection .right).stats.framesReceived = 0
  | _ => True

instance (net : Network) (input : NetworkInput) : Decidable (net.KeepsPeer input) :=
  match input with
  | .call .right call _ => inferInstanceAs (Decidable (∀ packet ∈ (net.connection .right).takes? call,
    packet.packetType = .connect → (net.connection .right).stats.framesReceived = 0))
  | .call .left _ _ => .isTrue trivial
  | .duplicate _ _ => .isTrue trivial
  | .drop _ _ => .isTrue trivial

end Network

namespace NetworkLog

/-- The calls on one side. -/
def calls (log : NetworkLog) (side : Side) : ConnectionLog :=
  log.filterMap fun entry =>
    match entry.1 with
    | .call side' call sendTo => if side' = side then some ((call, sendTo), entry.2) else none
    | _ => none

/-- Every frame that `receive_once` returned on one side, in order. -/
def returned (log : NetworkLog) (side : Side) : List TransportFrame := (log.calls side).returned

/-- Every datagram that one side sent, in order. -/
def sent (log : NetworkLog) (side : Side) : List Datagram :=
  (log.calls side).flatMap fun entry => entry.2.sent

/-- How often one side called `connect`. -/
def connects (log : NetworkLog) (side : Side) : Nat :=
  (log.calls side).countP fun entry => entry.1.1 matches .connect _ _

end NetworkLog

end CultNet.Rudp
