/-
A serving peer and its connections, from `examples/cultnet_interop_peer.rs`.

Every connection has a thread.  It reads one message after another, handles it under
the lock of the cache, and writes what it answers; it stops at the end of the stream
and at any error.  So the threads take turns on the cache, a message at a time, and
what one of them reads and writes of its own stream does not concern the others.

The clients are not part of the peer: on any connection any bytes may arrive at any
time.  `history` is kept for the reader of a run, and no handler looks at it.
-/
import CultNet.Framing
import CultNet.Interop.Peer
import CultNet.Lib.Interleaving
import CultNet.Lib.StreamWriter
import CultNet.Wire

namespace CultNet.Interop

/-- The codecs of messages, and the outgoing half of a stream. -/
structure Wiring (TStream : Type) where
  codecs : Codecs
  rmp : RmpSerde
  writer : StreamWriter TStream UInt8

section Streams

variable {TStream : Type} (wiring : Wiring TStream)

/-- A message in its frame, as `send_message` writes it. -/
def frameMessage (message : Message) : Except String (List UInt8) := do
  let payload ← encodeCultnetMessageToVec wiring.codecs wiring.rmp message .cultNetSchemaV0
  encodeFrame payload

/-- `send_message`. -/
def sendMessage (stream : TStream) (message : Message) : Except String Unit × TStream :=
  match frameMessage wiring message with
  | .error e => (.error e, stream)
  | .ok frame =>
    match wiring.writer.writeAll frame stream with
    | (.error e, stream) => (.error e, stream)
    | (.ok (), stream) => wiring.writer.flush stream

/-- Send one message after another, as long as that succeeds. -/
def sendMessages : TStream → List Message → Except String Unit × TStream
  | stream, [] => (.ok (), stream)
  | stream, message :: rest =>
    match sendMessage wiring stream message with
    | (.error e, stream) => (.error e, stream)
    | (.ok (), stream) => sendMessages stream rest

/-- Send the messages that handling came to, if it came to any. -/
def sendOutcome (stream : TStream) :
    Except String (List Message) → Except String Unit × TStream
  | .error e => (.error e, stream)
  | .ok messages => sendMessages wiring stream messages

end Streams

/-- A connection, and the thread that serves it. -/
structure Connection (TStream : Type) where
  /-- What has arrived and was not read. -/
  inbound : List UInt8 := []
  /-- The client sends no more. -/
  ended : Bool := false
  stream : TStream
  running : Bool := true

/-- A message that was handled. -/
structure Handled where
  connection : Nat
  message : Message
  decorated : Option InteropMutationIntent
  outcome : Except String (List Message)

/-- What the threads share. -/
structure Shared (Cache : Type) where
  cache : Cache
  history : List Handled := []

/-- What happens to a connection. -/
inductive Event where
  | arrive (bytes : List UInt8)
  | finish
  /-- The stream fails, and with it the read that its thread waits in. -/
  | reset
  /-- Its thread goes around its loop once. -/
  | serve (readings : Readings)

section Serve

variable {Cache TStream : Type} (cultCache : DocumentCache Cache) [InteropCodecs]
variable (wiring : Wiring TStream) (peer : Peer)

/-- The loop of `handle_connection`, once around; `none` where the thread waits, or is gone. -/
def serveOnce (connection : Nat) (shared : Shared Cache) (own : Connection TStream)
    (readings : Readings) : Option (Shared Cache × Connection TStream) :=
  if !own.running then none
  else
    match takeFrame own.inbound with
    | none => if own.ended then some (shared, { own with running := false }) else none
    | some (payload, inbound) =>
      match decodeCultnetMessageFromSlice wiring.codecs wiring.rmp payload .cultNetSchemaV0 with
      | .error _ => some (shared, { own with inbound, running := false })
      | .ok message =>
        let turn := handleMessage cultCache peer shared.cache message readings
        let sent := sendOutcome wiring own.stream turn.outcome
        some ({
          cache := turn.cache
          history := shared.history ++ [{
            connection, message, decorated := turn.decorated, outcome := turn.outcome }] },
          { own with inbound, stream := sent.2, running := sent.1.isOk })

/-- What an event does to the cache and to the connection that it happens to. -/
def serveAct (connection : Nat) (shared : Shared Cache) (own : Connection TStream) :
    Event → Option (Shared Cache × Connection TStream)
  | .arrive bytes =>
    if own.ended then none else some (shared, { own with inbound := own.inbound ++ bytes })
  | .finish => some (shared, { own with ended := true })
  | .reset => some (shared, { own with running := false })
  | .serve readings => serveOnce cultCache wiring peer connection shared own readings

/-- Any of the connections takes a step. -/
def serveStep :=
  Interleaving.step (serveAct cultCache wiring peer)

/-- The cache that `serve` begins with: what was pulled from the stores, and the note of the
peer. -/
def servedCache (pulled : Cache) (now : String) : Except String Cache :=
  let note := buildNote peer.config.runtimeId peer.config.displayName
  match cultCache.put InteropNote pulled note.documentId note now with
  | (.error e, _) => .error e
  | (.ok _, cache) => .ok cache

/-- A peer that begins to serve from a cache, with a stream for every connection to come. -/
def serveStart (cache : Cache) (streams : Nat → TStream) :
    Interleaving.State Nat (Shared Cache) (Connection TStream) where
  shared := { cache }
  locals connection := { stream := streams connection }

end Serve

end CultNet.Interop
