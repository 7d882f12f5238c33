/-
Length-prefixed frames, from `src/framing.rs`.

A frame is the length of its payload in four bytes, most significant first, and
then the payload.  The framer keeps what it has been given and not yet handed
out.  Lengths are natural numbers: on a 64-bit `usize` the sum of a 32-bit
length and the header does not overflow.
-/
import CultNet.Lib.BigEndian
import CultNet.Lib.Splitter

namespace CultNet

/-- `FRAME_HEADER_BYTES`. -/
def frameHeaderBytes : Nat := 4

/-- `encode_frame`. -/
def encodeFrame (payload : List UInt8) : Except String (List UInt8) :=
  if payload.length < 2 ^ 32 then
    .ok (BigEndian.bytes frameHeaderBytes payload.length ++ payload)
  else .error "CultNet frame payload is too large"

/-- `LengthPrefixedMessageFramer`. -/
structure LengthPrefixedMessageFramer where
  buffer : List UInt8 := []
  deriving DecidableEq

/-- One iteration of the loop of `push`: `none` where the loop breaks. -/
def takeFrame (buffer : List UInt8) : Option (List UInt8 × List UInt8) :=
  if buffer.length < frameHeaderBytes then none
  else
    let payloadLen := BigEndian.value (buffer.take frameHeaderBytes)
    let totalLen := frameHeaderBytes + payloadLen
    if buffer.length < totalLen then none
    else some ((buffer.take totalLen).drop frameHeaderBytes, buffer.drop totalLen)

namespace LengthPrefixedMessageFramer

/-- `LengthPrefixedMessageFramer::new`. -/
def new : LengthPrefixedMessageFramer := {}

/-- `LengthPrefixedMessageFramer::push`. -/
def push (framer : LengthPrefixedMessageFramer) (chunk : List UInt8) :
    List (List UInt8) × LengthPrefixedMessageFramer :=
  let (frames, buffer) := Splitter.cut takeFrame (framer.buffer ++ chunk)
  (frames, { buffer })

/-- Push chunks one after another, and collect the frames. -/
def pushAll : LengthPrefixedMessageFramer → List (List UInt8) →
    List (List UInt8) × LengthPrefixedMessageFramer
  | framer, [] => ([], framer)
  | framer, chunk :: chunks =>
    let (frames, framer) := framer.push chunk
    let (later, framer) := framer.pushAll chunks
    (frames ++ later, framer)

end LengthPrefixedMessageFramer

end CultNet
