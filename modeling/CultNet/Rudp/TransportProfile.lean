/-
The transport profile that a RUDP peer advertises, from `src/rudp.rs`.
-/
import CultNet.Contracts

namespace CultNet.Rudp

/-- `RudpTransportProfileOptions`. -/
structure TransportProfileOptions where
  transportId : Option String := none
  host : Option String := none
  port : Option UInt16 := none
  maxPayloadBytes : Option UInt32 := none
  maxFragmentBytes : Option UInt32 := none
  maxPendingReliablePackets : Option UInt32 := none
  mediaReliableExpireAfterMs : Option UInt64 := none

/-- A channel under the limits of the options. -/
def TransportProfileOptions.channel (options : TransportProfileOptions) (channelId : String)
    (delivery : TransportDelivery) (ordering : TransportOrdering)
    (reliableExpireAfterMs : Option UInt64) : TransportChannel where
  channelId
  delivery
  ordering
  maxPayloadBytes := options.maxPayloadBytes
  maxFragmentBytes := options.maxFragmentBytes
  maxPendingReliablePackets := options.maxPendingReliablePackets
  reliableExpireAfterMs

/-- `create_rudp_transport_profile`. -/
def createRudpTransportProfile (runtimeId : String) (options : TransportProfileOptions) :
    TransportProfile where
  schemaVersion := "cultnet.transport_profile.v0"
  runtimeId
  transports := [{
    transportId := options.transportId.getD "rudp"
    protocol := .rudp
    host := options.host
    port := options.port
    path := none
    discoveryGroup := none
    wireContracts := some ["cultnet.schema.v0"]
    channels := [
      options.channel "schema" .reliable .ordered none,
      options.channel "latest" .unreliable .sequenced none,
      options.channel "realtime" .unreliable .unordered none,
      options.channel "media" .reliable .unordered options.mediaReliableExpireAfterMs] }]

end CultNet.Rudp
