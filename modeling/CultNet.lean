import CultNet.Proofs.Rudp.Codec
import CultNet.Proofs.Rudp.Pair
import CultNet.Lib.Resequencer
import CultNet.Proofs.Rudp.Delivery
import CultNet.Proofs.Rudp.AtMostOnce
import CultNet.Proofs.Rudp.Message
import CultNet.Proofs.Rudp.Reassembly
import CultNet.Proofs.Rudp.Unordered
import CultNet.Proofs.Rudp.Channel
import CultNet.Proofs.Rudp.Stream
import CultNet.Proofs.Rudp.Ordered
import CultNet.Proofs.Rudp.Network
import CultNet.Proofs.Rudp.Socket
import CultNet.Proofs.Rudp.ReceiveOnce
import CultNet.Lib.Fallible
import CultNet.Replication
import CultNet.Proofs.Framing
import CultNet.Proofs.Rudp.Checked
import CultNet.Proofs.Replication
import CultNet.Proofs.SnapshotQuery
import CultNet.IdunnDeploymentBrake
import CultNet.Proofs.IdunnDeploymentBrake
import CultNet.Proofs.BrakeSchema
import CultNet.Lib.Base64
import CultNet.Lib.MessagePack
import CultNet.Wire.Fields
import CultNet.Wire.Legacy
import CultNet.Wire.Raw
import CultNet.Lib.JsonMessagePack
import CultNet.Wire.Json
import CultNet.Wire
import CultNet.Proofs.Wire.Fields
import CultNet.Proofs.Wire.Legacy
import CultNet.Proofs.Wire.Filled
import CultNet.Proofs.Wire.Schema
import CultNet.Proofs.Wire
import CultNet.Lib.SelfDelimiting
import CultNet.Proofs.ServiceIdentity
import CultNet.Proofs.Rudp.Refused
import CultNet.Proofs.Rudp.Pending
import CultNet.Proofs.Rudp.Capacity
import CultNet.Proofs.Rudp.FragmentIds
import CultNet.Proofs.Rudp.Ledger
import CultNet.Proofs.Rudp.Resend
import CultNet.Proofs.Rudp.Reconnect
import CultNet.Proofs.SchemaDiscovery
import CultNet.Lib.WireSchema
import CultNet.Rudp.TransportProfile
import CultNet.Schemas
import CultNet.Proofs.RawSchemas
import CultNet.Proofs.TransportProfile
import CultNet.Proofs.ReplicationPaths
import CultNet.Proofs.Rudp.Ascending
import CultNet.Proofs.Rudp.Sequenced
import CultNet.Proofs.Rudp.FailedSends
import CultNet.Lib.Decimal
import CultNet.Security
import CultNet.Proofs.Security
import CultNet.Lib.JsonText
import CultNet.Proofs.CanonicalSchema
import CultNet.Lib.Batch
import CultNet.Proofs.SnapshotAtomicity
import CultNet.Lib.Saturating
import CultNet.Lib.Reader
import CultNet.Transport
import CultNet.Proofs.Transport
import CultNet.Lib.Interleaving
import CultNet.ServiceEnrollment
import CultNet.Proofs.ServiceEnrollment
import CultNet.Proofs.Changes
import CultNet.Lib.MessagePackBytes
import CultNet.Lib.SerdeDepth
import CultNet.Proofs.Wire.Bytes
import CultNet.Interop.Peer
import CultNet.Interop.Server
import CultNet.Proofs.TransportPipe
import CultNet.Proofs.Interop.Conversation
import CultNet.Proofs.Interop.Snapshots
import CultNet.Interop.Dial
import CultNet.Proofs.Interop.Dial
import CultNet.Proofs.Interop.Progress
