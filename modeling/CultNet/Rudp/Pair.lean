/-
Two sessions and everything the network can do between them.

The network is the list of every packet a side has created: it may hand any of
them to the other side, at any time, any number of times, or never.  That covers
loss, delay, reordering and duplication, and since a resend hands out a copy of a
packet created before, it covers retransmission too.
-/
import CultNet.Rudp.Calls

namespace CultNet.Rudp

/-- The two ends of a connection. -/
inductive Side where
  | left
  | right
  deriving DecidableEq

/-- The opposite end. -/
def Side.other : Side → Side
  | left => right
  | right => left

@[simp] theorem Side.other_ne (side : Side) : side.other ≠ side := by
  cases side <;> decide

@[simp] theorem Side.other_other (side : Side) : side.other.other = side := by
  cases side <;> rfl

theorem Side.eq_or_eq_other (a b : Side) : a = b ∨ a = b.other := by
  cases a <;> cases b <;> decide

/-- The state of a run of two sessions. -/
structure Pair where
  session : Side → Session
  /-- Every packet a side has created, in order. -/
  created : Side → List Packet
  /-- Every packet a side has called `receive` or `accept_connect` on, in order. -/
  processed : Side → List Packet

/-- Two fresh sessions. -/
def Pair.new (options : Side → SessionOptions) : Pair where
  session := fun side => Session.new (options side)
  created := fun _ => []
  processed := fun _ => []

/-- One call on one side.  What it takes in from the peer must be a packet of the peer's. -/
def Pair.step (pair : Pair) (input : Side × Call) : Option (Output × Pair) :=
  let (side, call) := input
  if call.input?.all fun packet => packet ∈ pair.created side.other then
    match (pair.session side).call call with
    | none => none
    | some (out, s) =>
      some (out, {
        session := Function.update pair.session side s
        created := Function.update pair.created side (pair.created side ++ out.created)
        processed := Function.update pair.processed side
          (pair.processed side ++ call.input?.toList) })
  else none

/-! ### The handshake -/

/-- Two sessions that have shaken hands, each with the packet it opened the connection with. -/
structure Established where
  session : Side → Session
  opening : Side → Packet

/--
`create_connect` on a fresh client, `accept_connect` on a fresh server, and `receive` of the
Accept on the client.  The client is the left side.
-/
def handshake (client server : SessionOptions) (connectMs acceptMs acceptedMs : Nat)
    (connectPayload acceptPayload : List UInt8) : Option Established :=
  match (Session.new client).createConnect connectMs connectPayload with
  | (.error _, _) => none
  | (.ok connect, waiting) =>
    match (Session.new server).acceptConnect connect acceptMs acceptPayload with
    | (.error _, _) => none
    | (.ok accept, right) =>
      match waiting.receive accept acceptedMs with
      | (.error _, _) => none
      | (.ok _, left) =>
        some {
          session := fun | .left => left | .right => right
          opening := fun | .left => connect | .right => accept }

end CultNet.Rudp
