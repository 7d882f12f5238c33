/-
Reconnect delays and the framed TCP transport, from `src/transport.rs`.

A delay is a `u64`, and all but the last operation on it saturate.  The last one is
a plain sum, which panics in a build with overflow checks and wraps in a release
build, so it is written down twice.

The stream under a connection is any `Read` and `Write`; what the operating system
contributes is in the reader and the writer.  Frames and statistics are those of the
RUDP transport, and here too the statistics are counted without a bound.
-/
import CultNet.Contracts
import CultNet.Framing
import CultNet.Lib.Reader
import CultNet.Lib.Saturating
import CultNet.Lib.StreamWriter
import CultNet.Rudp.Socket

namespace CultNet

open Rudp (TransportFrame TransportStats)

/-! ### Reconnecting -/

/-- `CultNetReconnectPolicy`. -/
structure ReconnectPolicy where
  schemaVersion : String
  policyId : String
  baseDelayMs : UInt64
  maxDelayMs : UInt64
  maxJitterMs : UInt64
  maxAttempts : Option UInt32
  deriving DecidableEq

/-- `CultNetReconnectPolicyOptions`, with its defaults. -/
structure ReconnectPolicyOptions where
  policyId : String := "default"
  baseDelayMs : UInt64 := 1000
  maxDelayMs : UInt64 := 30000
  maxJitterMs : UInt64 := 250
  maxAttempts : Option UInt32 := none

/-- `create_reconnect_policy`. -/
def createReconnectPolicy (options : ReconnectPolicyOptions) : ReconnectPolicy where
  schemaVersion := "cultnet.reconnect_policy.v0"
  policyId := if isBlank options.policyId then "default" else options.policyId
  baseDelayMs := options.baseDelayMs
  maxDelayMs := options.maxDelayMs
  maxJitterMs := options.maxJitterMs
  maxAttempts := options.maxAttempts

/-- `capped_base_delay` in `compute_reconnect_delay_ms`. -/
def cappedBaseDelay (policy : ReconnectPolicy) (attempt : UInt32) : UInt64 :=
  let normalizedAttempt := max attempt 1
  let multiplier := Saturating.pow 2 (Saturating.sub normalizedAttempt 1)
  min (Saturating.mul policy.baseDelayMs multiplier) policy.maxDelayMs

/-- `compute_reconnect_delay_ms` in a release build. -/
def computeReconnectDelayMs (policy : ReconnectPolicy) (attempt : UInt32) (jitterMs : UInt64) :
    UInt64 :=
  cappedBaseDelay policy attempt + min jitterMs policy.maxJitterMs

/-- `a + b` on `u64` with overflow checks. -/
def checkedAddU64 (a b : UInt64) : Except Fault UInt64 :=
  if a.toNat + b.toNat < 2 ^ 64 then .ok (a + b)
  else .error (.panic "attempt to add with overflow")

/-- `compute_reconnect_delay_ms` in a build with overflow checks. -/
def computeReconnectDelayMsChecked (policy : ReconnectPolicy) (attempt : UInt32)
    (jitterMs : UInt64) : Except Fault UInt64 :=
  checkedAddU64 (cappedBaseDelay policy attempt) (min jitterMs policy.maxJitterMs)

/-! ### Framed TCP -/

/-- `TcpFramedTransportProfileOptions`. -/
structure TcpFramedTransportProfileOptions where
  transportId : Option String := none
  host : Option String := none
  port : Option UInt16 := none
  maxPayloadBytes : Option UInt32 := none
  maxFragmentBytes : Option UInt32 := none

/-- `create_tcp_framed_transport_profile`. -/
def createTcpFramedTransportProfile (runtimeId : String)
    (options : TcpFramedTransportProfileOptions) : TransportProfile where
  schemaVersion := "cultnet.transport_profile.v0"
  runtimeId
  transports := [{
    transportId := options.transportId.getD "tcp-framed"
    protocol := .tcpFramed
    host := options.host
    port := options.port
    path := none
    discoveryGroup := none
    wireContracts := some ["cultnet.schema.v0"]
    channels := [{
      channelId := "schema"
      delivery := .reliable
      ordering := .ordered
      maxPayloadBytes := options.maxPayloadBytes
      maxFragmentBytes := options.maxFragmentBytes
      maxPendingReliablePackets := none
      reliableExpireAfterMs := none }] }]

/-- `TcpFramedTransportConnection`. -/
structure TcpFramedTransportConnection (TStream : Type) where
  stream : TStream
  profile : TransportProfile
  stats : TransportStats

namespace TcpFramedTransportConnection

variable {TStream : Type}

/-- `TcpFramedTransportConnection::new`. -/
def new (stream : TStream) (profile : TransportProfile) : TcpFramedTransportConnection TStream where
  stream
  profile
  stats := {}

/-- `TcpFramedTransportConnection::into_inner`. -/
def intoInner (c : TcpFramedTransportConnection TStream) : TStream := c.stream

/-- `TcpFramedTransportConnection::send`. -/
def send (writer : StreamWriter TStream UInt8) (c : TcpFramedTransportConnection TStream)
    (channelId : String) (payload : List UInt8) :
    Except String Unit × TcpFramedTransportConnection TStream :=
  if channelId ≠ "schema" then
    (.error ("tcp_framed transport only supports the schema channel, got " ++
      debugStr channelId), c)
  else
    match encodeFrame payload with
    | .error e => (.error e, c)
    | .ok frame =>
      match writer.writeAll frame c.stream with
      | (.error e, stream) => (.error e, { c with stream })
      | (.ok (), stream) =>
        match writer.flush stream with
        | (.error e, stream) => (.error e, { c with stream })
        | (.ok (), stream) =>
          (.ok (), { c with
            stream
            stats := { c.stats with
              bytesSent := c.stats.bytesSent + frame.length
              framesSent := c.stats.framesSent + 1 } })

/-- `TcpFramedTransportConnection::receive`. -/
def receive (reader : Reader TStream UInt8) (c : TcpFramedTransportConnection TStream) :
    Except String TransportFrame × TcpFramedTransportConnection TStream :=
  match reader.readExact frameHeaderBytes c.stream with
  | (.error e, stream) => (.error e, { c with stream })
  | (.ok header, stream) =>
    let payloadLen := BigEndian.value header
    match reader.readExact payloadLen stream with
    | (.error e, stream) => (.error e, { c with stream })
    | (.ok payload, stream) =>
      (.ok { channelId := "schema", payload }, { c with
        stream
        stats := { c.stats with
          bytesReceived := c.stats.bytesReceived + (frameHeaderBytes + payloadLen)
          framesReceived := c.stats.framesReceived + 1 } })

end TcpFramedTransportConnection

end CultNet
