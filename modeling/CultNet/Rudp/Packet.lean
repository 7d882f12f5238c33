/-
RUDP packets and their wire form, from `src/rudp.rs`.

A packet is a 36-byte fixed header, the UTF-8 bytes of the channel id, and the
payload.  The header carries its own length in one byte, at offset 7, and the
channel id's length in another, at offset 34; the decoder insists that the two
agree.
-/
import CultNet.Basic
import CultNet.Lib.BigEndian

namespace CultNet.Rudp

/-- `RUDP_MAGIC`, the bytes of `CNR0`. -/
def rudpMagic : List UInt8 := [0x43, 0x4e, 0x52, 0x30]

/-- `RUDP_VERSION`. -/
def rudpVersion : UInt8 := 0

/-- `RUDP_FIXED_HEADER_BYTES`. -/
def rudpFixedHeaderBytes : Nat := 36

/-- `CultNetRudpPacketType`. -/
inductive PacketType where
  | connect
  | accept
  | data
  | ack
  | ping
  | pong
  | disconnect
  deriving DecidableEq, Repr

/-- The `Debug` form the source prints into an error. -/
def PacketType.debug : PacketType → String
  | connect => "Connect"
  | accept => "Accept"
  | data => "Data"
  | ack => "Ack"
  | ping => "Ping"
  | pong => "Pong"
  | disconnect => "Disconnect"

/-- `CultNetRudpPacket`. -/
structure Packet where
  packetType : PacketType
  connectionId : UInt32
  sequence : UInt32
  ack : UInt32
  ackMask : UInt32
  channelId : String
  reliable : Bool
  ordered : Bool
  sequenced : Bool
  fragmentId : UInt16
  fragmentIndex : UInt16
  fragmentCount : UInt16
  payload : List UInt8
  deriving DecidableEq

/-! ### Encoding -/

/-- `encode_flags`: the fragment bit is written but never read back. -/
def encodeFlags (packet : Packet) : UInt8 :=
  (if packet.reliable then 0b0000_0001 else 0)
    ||| (if packet.ordered then 0b0000_0010 else 0)
    ||| (if packet.sequenced then 0b0000_0100 else 0)
    ||| (if 0 < packet.fragmentCount then 0b0000_1000 else 0)

/-- `packet_type_to_code`. -/
def packetTypeToCode : PacketType → UInt8
  | .connect => 1
  | .accept => 2
  | .data => 3
  | .ack => 4
  | .ping => 5
  | .pong => 6
  | .disconnect => 7

/-- `packet_type_from_code`. -/
def packetTypeFromCode (code : UInt8) : Except String PacketType :=
  if code = 1 then .ok .connect
  else if code = 2 then .ok .accept
  else if code = 3 then .ok .data
  else if code = 4 then .ok .ack
  else if code = 5 then .ok .ping
  else if code = 6 then .ok .pong
  else if code = 7 then .ok .disconnect
  else .error s!"Unsupported CultNet RUDP packet type {code}"

/-- `u32::to_be_bytes`. -/
def u32Bytes (n : UInt32) : List UInt8 := BigEndian.bytes 4 n.toNat

/-- `u16::to_be_bytes`. -/
def u16Bytes (n : UInt16) : List UInt8 := BigEndian.bytes 2 n.toNat

/-- `channel_id.as_bytes()`. -/
def channelBytes (channelId : String) : List UInt8 := channelId.toUTF8.data.toList

/--
`encode_rudp_packet`.  The source fills a zeroed buffer field by field; here the
fields are laid end to end, with the offset each one starts at.
-/
def encodeRudpPacket (packet : Packet) : Except String (List UInt8) :=
  let channelId := channelBytes packet.channelId
  if 255 < channelId.length then
    .error "CultNet RUDP channel id cannot exceed 255 UTF-8 bytes"
  else
    let headerBytes := rudpFixedHeaderBytes + channelId.length
    .ok (rudpMagic                                            -- 0
      ++ [rudpVersion]                                        -- 4
      ++ [packetTypeToCode packet.packetType]                 -- 5
      ++ [encodeFlags packet]                                 -- 6
      ++ [UInt8.ofNat headerBytes]                            -- 7, `header_bytes as u8`
      ++ u32Bytes packet.connectionId                         -- 8
      ++ u32Bytes packet.sequence                             -- 12
      ++ u32Bytes packet.ack                                  -- 16
      ++ u32Bytes packet.ackMask                              -- 20
      ++ u16Bytes packet.fragmentId                           -- 24
      ++ u16Bytes packet.fragmentIndex                        -- 26
      ++ u16Bytes packet.fragmentCount                        -- 28
      ++ u32Bytes (UInt32.ofNat packet.payload.length)        -- 30, `payload.len() as u32`
      ++ [UInt8.ofNat channelId.length]                       -- 34
      ++ [0]                                                  -- 35
      ++ channelId                                            -- 36
      ++ packet.payload)                                      -- `header_bytes`

/-! ### Decoding -/

/-- `wire[start..stop]`. -/
def slice (wire : List UInt8) (start stop : Nat) : List UInt8 :=
  (wire.drop start).take (stop - start)

/-- `u32::from_be_bytes(wire[start..start + 4])`. -/
def u32At (wire : List UInt8) (start : Nat) : UInt32 :=
  UInt32.ofNat (BigEndian.value (slice wire start (start + 4)))

/-- `u16::from_be_bytes(wire[start..start + 2])`. -/
def u16At (wire : List UInt8) (start : Nat) : UInt16 :=
  UInt16.ofNat (BigEndian.value (slice wire start (start + 2)))

/-- `String::from_utf8`. -/
def stringFromUtf8 (bytes : List UInt8) : Except String String :=
  match String.fromUTF8? ⟨bytes.toArray⟩ with
  | some text => .ok text
  | none => .error "invalid utf-8 sequence"

/-- `decode_rudp_packet`.  Every index is in range once the length is checked. -/
def decodeRudpPacket (wire : List UInt8) : Except String Packet := do
  if wire.length < rudpFixedHeaderBytes then
    throw "CultNet RUDP packet is shorter than the fixed header"
  if slice wire 0 4 ≠ rudpMagic then
    throw "CultNet RUDP packet has the wrong magic"
  if wire.getD 4 0 ≠ rudpVersion then
    throw s!"Unsupported CultNet RUDP packet version {wire.getD 4 0}"
  let packetType ← packetTypeFromCode (wire.getD 5 0)
  let headerBytes := (wire.getD 7 0).toNat
  let channelIdLen := (wire.getD 34 0).toNat
  if headerBytes ≠ rudpFixedHeaderBytes + channelIdLen then
    throw "CultNet RUDP packet header length does not match the channel id length"
  let payloadLen := (u32At wire 30).toNat
  if wire.length ≠ headerBytes + payloadLen then
    throw "CultNet RUDP packet payload length does not match the packet size"
  let flags := wire.getD 6 0
  let channelId ← stringFromUtf8 (slice wire rudpFixedHeaderBytes headerBytes)
  return {
    packetType
    reliable := (flags &&& 0b0000_0001) != 0
    ordered := (flags &&& 0b0000_0010) != 0
    sequenced := (flags &&& 0b0000_0100) != 0
    connectionId := u32At wire 8
    sequence := u32At wire 12
    ack := u32At wire 16
    ackMask := u32At wire 20
    fragmentId := u16At wire 24
    fragmentIndex := u16At wire 26
    fragmentCount := u16At wire 28
    channelId
    payload := wire.drop headerBytes
  }

end CultNet.Rudp
