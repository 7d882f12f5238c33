/-
Messages: what one successful `send` or `send_many` put on the wire.

A message keeps the payload it was given beside the packets it became, so that
what a receiver delivers can be compared with what was sent.
-/
import CultNet.Rudp.Calls

namespace CultNet.Rudp

/-- One payload handed to `send_many`, and the packets that carry it. -/
structure Message where
  channelId : String
  payload : List UInt8
  ordered : Bool
  sequenced : Bool
  packets : List Packet
  deriving DecidableEq, Inhabited

namespace Message

/-- The sequence number of the first packet. -/
def first (m : Message) : UInt32 := (m.packets.head?.map (·.sequence)).getD 0

/-- The sequence number that follows the last packet. -/
def stop (m : Message) : UInt32 := m.first + UInt32.ofNat m.packets.length

/-- The fragment id of the packets, 0 for a message that travels whole. -/
def fragmentId (m : Message) : UInt16 := (m.packets.head?.map (·.fragmentId)).getD 0

/-- The key of the fragment buffer that collects the message. -/
def key (m : Message) : FragmentKey := toLex (m.channelId, m.fragmentId)

/-- The frame a receiver is to deliver. -/
def frame (m : Message) : DeliveredFrame where
  channelId := m.channelId
  payload := m.payload
  sequence := m.first

/-- The message travels in several packets. -/
def Fragmented (m : Message) : Prop := 2 ≤ m.packets.length

instance (m : Message) : Decidable m.Fragmented := inferInstanceAs (Decidable (_ ≤ _))

end Message

/-- The message a call sent, if it sent one. -/
def Call.message? (c : Call) (out : Output) : Option Message :=
  match c with
  | .send channelId payload options =>
    if out.created = [] then none
    else some {
      channelId, payload, ordered := options.ordered, sequenced := options.sequenced
      packets := out.created }
  | .sendMany channelId payload options _ =>
    if out.created = [] then none
    else some {
      channelId, payload, ordered := options.ordered, sequenced := options.sequenced
      packets := out.created }
  | _ => none

/-- The messages sent along a log, in order. -/
def CallLog.messages (log : CallLog) : List Message :=
  log.filterMap fun entry => entry.1.message? entry.2

/-- The ordered ones of the messages sent on a channel, in order. -/
def CallLog.orderedMessages (log : CallLog) (channelId : String) : List Message :=
  log.messages.filter fun m => m.channelId = channelId ∧ m.ordered

/-- A packet that was handed to `receive` along a log. -/
def CallLog.Received (log : CallLog) (packet : Packet) : Prop :=
  ∃ nowMs out, (Call.receive packet nowMs, out) ∈ log

end CultNet.Rudp
