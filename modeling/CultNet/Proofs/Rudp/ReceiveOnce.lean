/-
What `receive_once` does with one datagram.

A server that reads a Connect binds its remote address and resets its session
before it asks `accept_connect` whether the Connect is welcome.  And a Data packet
is acknowledged by the call that reads it only if that call has a frame to return,
so a duplicate, an incomplete message and a frame that has to wait are not.
-/
import CultNet.Proofs.Rudp.Socket

namespace CultNet.Rudp

namespace Session

/-! ### When a packet brings out a frame -/

/-- The packet is the last one missing of a message whose smallest sequence is `first`. -/
inductive Completes (s : Session) (packet : Packet) : UInt32 → Prop
  | whole (hcount : packet.fragmentCount = 0) : Completes s packet packet.sequence
  | fragments (sequences : List UInt32) (hcount : packet.fragmentCount ≠ 0)
      (hslots : List.Forall₂
        (fun index sequence => ∃ chunk, ((s.bufferFor packet).add packet).Slot index sequence chunk)
        (fragmentIndices packet.fragmentCount) sequences) :
      Completes s packet (sequences.min?.getD 0)

/-- A frame that begins at `first` is the next one of its channel, or new enough for it. -/
def InTurn (s : Session) (packet : Packet) (first : UInt32) : Prop :=
  if packet.ordered then
    s.orderedNextSequenceByChannel[packet.channelId]?.getD
      (min (s.expectedSequence packet) first) = first
  else packet.sequenced = true →
    ¬ first < s.highestDeliveredSequencedByChannel.getD packet.channelId first

/-- The packet is new and brings out a frame. -/
structure Releases (s : Session) (packet : Packet) : Prop where
  new : packet.sequence ∉ s.receivedSequences
  turn : ∃ first, s.Completes packet first ∧ s.InTurn packet first

/-- Only the fragment buffers decide what a packet completes. -/
theorem Completes.congr {s t : Session} {packet : Packet} {first : UInt32}
    (h : s.Completes packet first) (hbuffers : t.fragmentBuffers = s.fragmentBuffers) :
    t.Completes packet first := by
  have hfor : t.bufferFor packet = s.bufferFor packet := by
    unfold bufferFor
    rw [hbuffers]
  cases h with
  | whole hcount => exact .whole hcount
  | fragments sequences hcount hslots =>
      refine .fragments sequences hcount ?_
      rw [hfor]
      exact hslots

/-- The prologue of `receive` changes nothing that decides whether a frame comes out. -/
theorem releases_receiveBase {s : Session} {packet : Packet} (nowMs : Nat) :
    (s.receiveBase packet nowMs).Releases packet ↔ s.Releases packet := by
  constructor
  · rintro ⟨hnew, first, hcompletes, hturn⟩
    exact ⟨hnew, first, hcompletes.congr rfl, hturn⟩
  · rintro ⟨hnew, first, hcompletes, hturn⟩
    exact ⟨hnew, first, hcompletes.congr rfl, hturn⟩

/-- A completed message is what reassembly returns. -/
theorem completes_iff {s t : Session} {packet : Packet}
    {result : Option (DeliveredFrame × Bool × UInt32)}
    (h : Reassembles s packet (.ok result) t) (first : UInt32) :
    s.Completes packet first ↔ ∃ frame ordered next,
      result = some (frame, ordered, next) ∧ frame.sequence = first := by
  have hcollect : ∀ {sequences : List UInt32},
      List.Forall₂ (fun index sequence => ∃ chunk,
        ((s.bufferFor packet).add packet).Slot index sequence chunk)
        (fragmentIndices packet.fragmentCount) sequences →
      ∃ payload, ((s.bufferFor packet).add packet).collect
        (fragmentIndices packet.fragmentCount) = some (payload, sequences) := by
    intro sequences hslots
    generalize fragmentIndices packet.fragmentCount = indices at hslots
    induction hslots with
    | nil => exact ⟨[], rfl⟩
    | cons hslot _ ih =>
        obtain ⟨chunk, hslot⟩ := hslot
        obtain ⟨payload, hrest⟩ := ih
        unfold FragmentBuffer.collect
        rw [hslot.1, hslot.2, hrest]
        exact ⟨_, rfl⟩
  cases h with
  | whole hcount =>
      constructor
      · intro hcompletes
        cases hcompletes with
        | whole _ => exact ⟨_, _, _, rfl, rfl⟩
        | fragments _ hne _ => exact absurd hcount hne
      · rintro ⟨frame, ordered, next, heq, rfl⟩
        cases heq
        exact .whole hcount
  | kept hcount hfits hopen =>
      constructor
      · intro hcompletes
        cases hcompletes with
        | whole hzero => exact absurd hzero hcount
        | fragments sequences _ hslots =>
            obtain ⟨payload, hsome⟩ := hcollect hslots
            rw [hopen] at hsome
            cases hsome
      · rintro ⟨frame, ordered, next, heq, -⟩
        cases heq
  | completed hcount hfits payload sequences hdone =>
      constructor
      · intro hcompletes
        cases hcompletes with
        | whole hzero => exact absurd hzero hcount
        | fragments sequences' _ hslots =>
            obtain ⟨payload', hsome⟩ := hcollect hslots
            rw [hdone] at hsome
            cases hsome
            exact ⟨_, _, _, rfl, rfl⟩
      · rintro ⟨frame, ordered, next, heq, rfl⟩
        cases heq
        obtain ⟨parts, rfl, -, hparts⟩ := FragmentBuffer.collect_eq_some hdone
        refine .fragments _ hcount ?_
        rw [List.forall₂_map_right_iff]
        exact hparts.imp fun index part hslot => ⟨part.2, hslot⟩

/-- An ordered frame comes out exactly when its number is the next one of its channel. -/
theorem deliverOrdered_ne_nil (s : Session) (frame : DeliveredFrame) (next expected : UInt32) :
    (s.deliverOrdered frame next expected).1 ≠ [] ↔
      (s.stream frame.channelId).next.getD (min expected frame.sequence) = frame.sequence := by
  rw [(deliverOrdered_stream s frame next expected).1]
  unfold Resequencer.push
  dsimp only
  generalize (s.stream frame.channelId).next.getD (min expected frame.sequence) = due
  by_cases hlt : frame.sequence < due
  · rw [if_pos hlt]
    refine iff_of_false (fun h => h rfl) (fun heq => ?_)
    rw [heq] at hlt
    exact UInt32.lt_irrefl _ hlt
  · by_cases hgt : due < frame.sequence
    · rw [if_neg hlt, if_pos hgt]
      refine iff_of_false (fun h => h rfl) (fun heq => ?_)
      rw [heq] at hgt
      exact UInt32.lt_irrefl _ hgt
    · rw [if_neg hlt, if_neg hgt]
      refine iff_of_true (fun h => by cases h) ?_
      exact UInt32.le_antisymm (UInt32.not_lt.mp hlt) (UInt32.not_lt.mp hgt)

/-- The sequenced filter drops what is older than the newest frame of its channel. -/
theorem admitSequenced_eq_none {s : Session} {sequenced : Bool} {frame : DeliveredFrame} :
    s.admitSequenced sequenced false frame = none ↔ sequenced = true ∧
      frame.sequence
        < s.highestDeliveredSequencedByChannel.getD frame.channelId frame.sequence := by
  unfold admitSequenced
  cases sequenced with
  | false => simp
  | true => simp

/-- A message that the packet completes comes out if it is in turn. -/
theorem releases_iff_inTurn {s u : Session} {packet : Packet} {frame : DeliveredFrame}
    {ordered : Bool} {next : UInt32} (hnew : packet.sequence ∉ s.receivedSequences)
    (hr : (s.rememberReceived packet.sequence).reassemble packet
      = (.ok (some (frame, ordered, next)), u)) :
    s.Releases packet ↔ s.InTurn packet frame.sequence := by
  constructor
  · rintro ⟨-, first, hcompletes, hturn⟩
    obtain ⟨frame', ordered', next', heq, rfl⟩ :=
      (completes_iff (reassembles_of_eq hr) first).mp (hcompletes.congr rfl)
    cases heq
    exact hturn
  · intro hturn
    have hcompletes := (completes_iff (reassembles_of_eq hr) frame.sequence).mpr
      ⟨frame, ordered, next, rfl, rfl⟩
    exact ⟨hnew, frame.sequence, hcompletes.congr rfl, hturn⟩

/-- An unordered frame is in turn if it passes the sequenced filter. -/
theorem inTurn_unordered {s u : Session} {packet : Packet} {frame : DeliveredFrame}
    {next : UInt32} (hchannels : s.Channels)
    (hr : (s.rememberReceived packet.sequence).reassemble packet
      = (.ok (some (frame, false, next)), u)) :
    s.InTurn packet frame.sequence ↔ u.admitSequenced packet.sequenced false frame ≠ none := by
  have hremembered : (s.rememberReceived packet.sequence).Channels :=
    hchannels.congr rfl fun _ => rfl
  obtain ⟨hchannel, hflag⟩ := hremembered.frame (reassembles_of_eq hr)
  have hmap : u.highestDeliveredSequencedByChannel = s.highestDeliveredSequencedByChannel :=
    (reassembles_of_eq hr).sequenced
  unfold InTurn
  rw [← hflag, if_neg (by decide), ne_eq, admitSequenced_eq_none, hmap, hchannel]
  exact not_and.symm

/-- An ordered frame is in turn if it is the next one of its channel. -/
theorem inTurn_ordered {s u : Session} {packet : Packet} {frame : DeliveredFrame}
    {next : UInt32} (hchannels : s.Channels)
    (hr : (s.rememberReceived packet.sequence).reassemble packet
      = (.ok (some (frame, true, next)), u)) :
    s.InTurn packet frame.sequence ↔
      (u.deliverOrdered frame next (s.expectedSequence packet)).1 ≠ [] := by
  have hremembered : (s.rememberReceived packet.sequence).Channels :=
    hchannels.congr rfl fun _ => rfl
  obtain ⟨hchannel, hflag⟩ := hremembered.frame (reassembles_of_eq hr)
  have hnext : (u.stream frame.channelId).next
      = s.orderedNextSequenceByChannel[frame.channelId]? :=
    congrArg Resequencer.next ((reassembles_of_eq hr).stream frame.channelId)
  unfold InTurn
  rw [← hflag, if_pos rfl, deliverOrdered_ne_nil, hnext, hchannel]

/-- **When a Data packet brings out a frame.** -/
theorem receipt_releases {s t : Session} {packet : Packet} {result : ReceiveResult}
    (h : Receipt s packet (s.expectedSequence packet) (.ok result) t) (hchannels : s.Channels) :
    result.delivered ≠ [] ↔ s.Releases packet := by
  cases h with
  | duplicate hold => exact iff_of_false (fun hne => hne rfl) (fun hr => hr.new hold)
  | incomplete hnew _ hr =>
      refine iff_of_false (fun hne => hne rfl) (fun hreleases => ?_)
      obtain ⟨first, hcompletes, -⟩ := hreleases.turn
      obtain ⟨frame, ordered, next, heq, -⟩ :=
        (completes_iff (reassembles_of_eq hr) first).mp (hcompletes.congr rfl)
      cases heq
  | filtered hnew frame next _ hr hpass =>
      rw [releases_iff_inTurn hnew hr, inTurn_unordered hchannels hr]
      exact iff_of_false (fun hne => hne rfl) (fun hne => hne hpass)
  | unordered hnew frame next u _ hr hpass =>
      rw [releases_iff_inTurn hnew hr, inTurn_unordered hchannels hr, hpass]
      exact iff_of_true (fun hnil => by cases hnil) (fun hnone => by cases hnone)
  | ordered hnew frame next u hr =>
      rw [releases_iff_inTurn hnew hr, inTurn_ordered hchannels hr]

/-! ### Nothing heard -/

/-- The session has heard from no peer and keeps nothing for one. -/
structure Unheard (s : Session) : Prop where
  connected : s.connected = false
  lastReceivedAtMs : s.lastReceivedAtMs = none
  highestReceivedSequence : s.highestReceivedSequence = none
  receivedSequences : s.receivedSequences = ∅
  pendingReliable : s.pendingReliable = ∅
  orderedNextSequenceByChannel : s.orderedNextSequenceByChannel = ∅
  orderedBuffers : s.orderedBuffers = ∅
  fragmentBuffers : s.fragmentBuffers = ∅
  highestDeliveredSequencedByChannel : s.highestDeliveredSequencedByChannel = ∅

theorem unheard_new (options : SessionOptions) : (Session.new options).Unheard :=
  ⟨rfl, rfl, rfl, rfl, rfl, rfl, rfl, rfl, rfl⟩

/-- Resetting the peer state changes every session but one that has none. -/
theorem resetPeerState_eq_iff {s : Session} : s.resetPeerState = s ↔ s.Unheard := by
  constructor
  · intro h
    rw [← h]
    exact ⟨rfl, rfl, rfl, rfl, rfl, rfl, rfl, rfl, rfl⟩
  · rintro ⟨hconnected, hlast, hhighest, hreceived, hpending, hnext, hordered, hfragments,
      hsequenced⟩
    cases s
    simp only at hconnected hlast hhighest hreceived hpending hnext hordered hfragments hsequenced
    simp [resetPeerState, hconnected, hlast, hhighest, hreceived, hpending, hnext, hordered,
      hfragments, hsequenced]

end Session

namespace Connection

/-! ### A refused Connect -/

/-- A server takes a Connect from anywhere, and from then on talks to where it came from. -/
theorem bindRemote_connect {c : Connection} {packet : Packet} (source : SocketAddr)
    (hmode : c.mode = .server) (htype : packet.packetType = .connect) :
    c.bindRemote packet source = some { c with remoteAddr := some source } := by
  unfold bindRemote
  cases hremote : c.remoteAddr with
  | none =>
      dsimp only
      rw [if_neg]
      intro hother
      exact hother.2 htype
  | some expected =>
      dsimp only
      by_cases hsame : expected = source
      · rw [if_neg (not_not.mpr hsame), ← hsame, ← hremote]
      · rw [if_pos hsame, if_pos ⟨hmode, htype⟩]

/-- A server that reads a Connect, with nothing queued. -/
theorem receiveOnce_connect {c : Connection} {wire : List UInt8} {source : SocketAddr}
    {packet : Packet} (nowMs : Nat) (sendTo : SendTo) (hmode : c.mode = .server)
    (hqueue : c.deliveredFrames = []) (hdecode : decodeRudpPacket wire = .ok packet)
    (htype : packet.packetType = .connect) :
    c.receiveOnce (.datagram wire source) nowMs sendTo
      = { c.countReceived wire.length with remoteAddr := some source }.handleConnect packet
          nowMs sendTo := by
  have hcounted : (c.countReceived wire.length).mode = .server := hmode
  unfold receiveOnce
  rw [hqueue]
  dsimp only
  rw [hdecode]
  dsimp only
  rw [bindRemote_connect source hcounted htype]
  exact if_pos ⟨hmode, htype⟩

/--
**When a refused Connect changes nothing.**  A server with no frame queued reads a Connect that
`accept_connect` refuses.  Its session and its remote address are as they were exactly if the
datagram came from the bound address and the session had heard nothing and held nothing.
-/
theorem refused_connect_iff {c : Connection} {wire : List UInt8} {source : SocketAddr}
    {packet : Packet} {nowMs : Nat} {sendTo : SendTo} (hmode : c.mode = .server)
    (hqueue : c.deliveredFrames = []) (hdecode : decodeRudpPacket wire = .ok packet)
    (htype : packet.packetType = .connect)
    (hrefused : ∃ message,
      (c.session.resetPeerState.acceptConnect packet nowMs []).1 = .error (.error message)) :
    ((c.receiveOnce (.datagram wire source) nowMs sendTo).connection.session = c.session ∧
        (c.receiveOnce (.datagram wire source) nowMs sendTo).connection.remoteAddr
          = c.remoteAddr) ↔
      c.remoteAddr = some source ∧ c.session.Unheard := by
  obtain ⟨message, hmessage⟩ := hrefused
  have hpair : c.session.resetPeerState.acceptConnect packet nowMs []
      = (.error (.error message),
          (c.session.resetPeerState.acceptConnect packet nowMs []).2) := by
    rw [← hmessage]
  have hsession := Session.acceptConnect_error hpair
  rw [hsession] at hpair
  rw [receiveOnce_connect nowMs sendTo hmode hqueue hdecode htype]
  have hafter : ({ c.countReceived wire.length with
      remoteAddr := some source }.handleConnect packet nowMs sendTo).connection
        = { c.countReceived wire.length with
            remoteAddr := some source, session := c.session.resetPeerState } := by
    unfold handleConnect
    rw [show (c.countReceived wire.length).session.resetPeerState.acceptConnect packet nowMs []
      = (.error (.error message), c.session.resetPeerState) from hpair]
    rfl
  rw [hafter]
  show (c.session.resetPeerState = c.session ∧ some source = c.remoteAddr) ↔ _
  rw [Session.resetPeerState_eq_iff, and_comm, eq_comm (a := some source)]

/-- A Connect of the connection `connectionId`. -/
def connectPacket (connectionId : UInt32) : Packet where
  packetType := .connect
  connectionId
  sequence := 1
  ack := 0
  ackMask := 0
  channelId := "control"
  reliable := true
  ordered := true
  sequenced := false
  fragmentId := 0
  fragmentIndex := 0
  fragmentCount := 0
  payload := []

/-- Its datagram. -/
def connectWire (connectionId : UInt32) : List UInt8 := wireOf (connectPacket connectionId)

/-- A Connect of another connection, from where the server is bound to but has heard nothing. -/
theorem refused_connect_unheard :
    let c := Connection.new { SocketTransportOptions.server 7 with
      remoteAddr := some (.v4 1 9000) }
    let after := (c.receiveOnce (.datagram (connectWire 8) (.v4 1 9000)) 0
      fun _ => .ok 0).connection
    after.session = c.session ∧ after.remoteAddr = c.remoteAddr := by
  have hdecode : decodeRudpPacket (connectWire 8) = .ok (connectPacket 8) := by decide +kernel
  exact (refused_connect_iff rfl rfl hdecode rfl ⟨_, rfl⟩).mpr ⟨rfl, Session.unheard_new _⟩

/-- A connected server forgets its peer when a stranger sends a Connect of another connection. -/
theorem refused_connect_takes_over :
    ∃ (log : ConnectionLog) (c : Connection) (packet : Packet),
      Machine.Run Connection.call (Connection.new (.server 7)) log c ∧ c.mode = .server ∧
      c.deliveredFrames = [] ∧ decodeRudpPacket (connectWire 8) = .ok packet ∧
      packet.packetType = .connect ∧ packet.connectionId ≠ c.session.connectionId ∧
      (∃ message, (c.session.resetPeerState.acceptConnect packet 5 []).1
        = .error (.error message)) ∧
      c.session.connected = true ∧
      (c.receiveOnce (.datagram (connectWire 8) (.v4 2 9000)) 5
        fun _ => .ok 0).connection.session.connected = false ∧
      c.remoteAddr = some (.v4 1 9000) ∧
      (c.receiveOnce (.datagram (connectWire 8) (.v4 2 9000)) 5
        fun _ => .ok 0).connection.remoteAddr = some (.v4 2 9000) := by
  have hdecode : decodeRudpPacket (connectWire 8) = .ok (connectPacket 8) := by decide +kernel
  have hexec : ((Machine.exec Connection.call (Connection.new (.server 7))
      [(.receiveOnce (.datagram (connectWire 7) (.v4 1 9000)) 0, fun _ => .ok 0)]).any fun r =>
      decide (r.2.mode = .server ∧ r.2.deliveredFrames = [] ∧ r.2.session.connectionId = 7 ∧
        r.2.session.connected = true ∧ r.2.remoteAddr = some (.v4 1 9000) ∧
        (r.2.receiveOnce (.datagram (connectWire 8) (.v4 2 9000)) 5
          fun _ => .ok 0).connection.session.connected = false ∧
        (r.2.receiveOnce (.datagram (connectWire 8) (.v4 2 9000)) 5
          fun _ => .ok 0).connection.remoteAddr = some (.v4 2 9000))) = true := by
    decide +kernel
  obtain ⟨log, c, hrun, -, hcheck⟩ := Machine.Run.of_exec_any hexec
  obtain ⟨hmode, hqueue, hid, hconnected, hremote, hafter, hafter'⟩ := of_decide_eq_true hcheck
  have hne : (connectPacket 8).connectionId ≠ c.session.resetPeerState.connectionId := by
    show (8 : UInt32) ≠ c.session.connectionId
    rw [hid]
    decide
  refine ⟨log, c, connectPacket 8, hrun, hmode, hqueue, hdecode, rfl, hne, ?_, hconnected,
    hafter, hremote, hafter'⟩
  unfold Session.acceptConnect Session.requireConnection
  rw [if_pos hne]
  exact ⟨_, rfl⟩

/-! ### Which Data packets are acknowledged -/

/-- The call that reads the packet acknowledges it: it has a frame to return, the packet lies in
the window of the acknowledgement, and there is a number left for the Ack. -/
structure Answered (s : Session) (packet : Packet) : Prop where
  releases : s.Releases packet
  window : ∀ highest, s.highestReceivedSequence = some highest →
    highest.toNat ≤ packet.sequence.toNat + 32
  counter : s.nextSequence ≠ u32Max

/-- A packet from the bound address that is no Connect goes to the session. -/
theorem receiveOnce_bound {c : Connection} {wire : List UInt8} {source : SocketAddr}
    {packet : Packet} (nowMs : Nat) (sendTo : SendTo) (hqueue : c.deliveredFrames = [])
    (hremote : c.remoteAddr = some source) (hdecode : decodeRudpPacket wire = .ok packet)
    (htype : packet.packetType ≠ .connect) :
    c.receiveOnce (.datagram wire source) nowMs sendTo
      = (c.countReceived wire.length).handlePacket packet nowMs sendTo := by
  have hbind : (c.countReceived wire.length).bindRemote packet source
      = some (c.countReceived wire.length) := by
    unfold bindRemote
    rw [show (c.countReceived wire.length).remoteAddr = some source from hremote]
    exact if_neg (not_not.mpr rfl)
  unfold receiveOnce
  rw [hqueue]
  dsimp only
  rw [hdecode]
  dsimp only
  rw [hbind]
  exact if_neg fun hconnect => htype hconnect.2

theorem receive_data_result {s s' : Session} {packet : Packet} {nowMs : Nat}
    {result : ReceiveResult} (hid : packet.connectionId = s.connectionId)
    (htype : packet.packetType = .data) (h : s.receive packet nowMs = (.ok result, s')) :
    result.reply = none ∧ result.pong = false ∧ result.disconnected = false := by
  rw [Session.receive_data nowMs hid htype] at h
  unfold Session.receiveData at h
  dsimp only at h
  repeat' split at h
  all_goals first | (cases h; exact ⟨rfl, rfl, rfl⟩) | cases h

/-- What goes out when a Data packet is read is the acknowledgement. -/
theorem handlePacket_data {c : Connection} {packet : Packet} {nowMs : Nat} {session : Session}
    {result : ReceiveResult} (sendTo : SendTo)
    (hid : packet.connectionId = c.session.connectionId) (htype : packet.packetType = .data)
    (hqueue : c.deliveredFrames = [])
    (hreceive : c.session.receive packet nowMs = (.ok result, session)) :
    ∃ t : Connection, t.session = session ∧ t.remoteAddr = c.remoteAddr ∧
      (c.handlePacket packet nowMs sendTo).sent
        = (t.acknowledge packet (result.delivered.map transportFrame).head? sendTo 0).sent := by
  obtain ⟨hreply, hpong, hdisconnected⟩ := receive_data_result hid htype hreceive
  unfold handlePacket
  rw [hreceive]
  dsimp only
  rw [hreply, hpong, hdisconnected]
  refine ⟨{ Connection.enqueue { c with session } result.delivered with
    deliveredFrames := (Connection.enqueue { c with session } result.delivered).deliveredFrames.tail },
    rfl, rfl, ?_⟩
  have hhead : (Connection.enqueue { c with session } result.delivered).deliveredFrames
      = result.delivered.map transportFrame := by
    show c.deliveredFrames ++ result.delivered.map transportFrame = _
    rw [hqueue, List.nil_append]
  rw [← hhead]
  rfl

/-- A created Ack can be sent, and decodes to itself. -/
theorem createAck_wire {s : Session} (hcounter : s.nextSequence ≠ u32Max) :
    ∃ ack wire, s.createAck = (.ok ack, { s with nextSequence := s.nextSequence + 1 }) ∧
      (ack.ack, ack.ackMask) = s.ackState ∧ encodeRudpPacket ack = .ok wire ∧
      decodeRudpPacket wire = .ok ack := by
  have hcreate : s.createAck = (.ok {
      packetType := .ack, connectionId := s.connectionId, sequence := s.nextSequence
      ack := s.ackState.1, ackMask := s.ackState.2, channelId := "control", reliable := false
      ordered := false, sequenced := false, fragmentId := 0, fragmentIndex := 0
      fragmentCount := 0, payload := [] }, { s with nextSequence := s.nextSequence + 1 }) :=
    if_neg hcounter
  have hlength : (channelBytes "control").length = 7 := by decide +kernel
  refine ⟨_, _, hcreate, rfl, encode_ok_iff.mpr ⟨?_, rfl⟩, decode_wireOf ?_ ?_⟩
  · show (channelBytes "control").length ≤ 255
    omega
  · show ([] : List UInt8).length < 2 ^ 32
    decide
  · show (channelBytes "control").length ≤ 219
    omega

/-- What a session has just taken in lies in the window of its acknowledgement, unless it is more
than 32 below the highest. -/
theorem covers_remembered {s : Session} (ok : Session.ReceivedOK s) (sequence : UInt32) :
    AckCovers (s.rememberReceived sequence).ackState.1 (s.rememberReceived sequence).ackState.2
        sequence ↔
      ∀ highest, s.highestReceivedSequence = some highest →
        highest.toNat ≤ sequence.toNat + 32 := by
  have hmem : sequence ∈ (s.rememberReceived sequence).receivedSequences :=
    Finset.mem_insert_self _ _
  have hok := ok.remember sequence
  cases hh : s.highestReceivedSequence with
  | none =>
      have hhighest : (s.rememberReceived sequence).highestReceivedSequence = some sequence := by
        simp [Session.rememberReceived, hh]
      refine iff_of_true ((hok.covers_iff hhighest sequence).mpr ⟨hmem, ?_⟩)
        (fun highest h => by cases h)
      omega
  | some highest =>
      by_cases hlt : highest < sequence
      · have hhighest :
            (s.rememberReceived sequence).highestReceivedSequence = some sequence := by
          simp [Session.rememberReceived, hh, hlt]
        refine iff_of_true ((hok.covers_iff hhighest sequence).mpr ⟨hmem, ?_⟩) ?_
        · omega
        · intro highest' h
          cases h
          have := UInt32.lt_iff_toNat_lt.mp hlt
          omega
      · have hhighest :
            (s.rememberReceived sequence).highestReceivedSequence = some highest := by
          simp [Session.rememberReceived, hh, hlt]
        refine (hok.covers_iff hhighest sequence).trans ⟨?_, fun h => ⟨hmem, h highest rfl⟩⟩
        rintro ⟨-, hwindow⟩ highest' h
        cases h
        exact hwindow

/-- Where the socket sends everything, a Data packet that brought out a frame is acknowledged if
there is a number left for the Ack. -/
theorem acknowledge_covers_iff {c : Connection} {packet : Packet} {remoteAddr : SocketAddr}
    {frame : Option TransportFrame} {sendTo : SendTo} (hremote : c.remoteAddr = some remoteAddr)
    (htype : packet.packetType = .data) (hsend : ∀ index, ∃ n, sendTo index = .ok n)
    (sequence : UInt32) :
    (∃ d ∈ (c.acknowledge packet frame sendTo 0).sent,
      ∃ ack, decodeRudpPacket d.wire = .ok ack ∧ ack.Covers sequence) ↔
      frame.isSome = true ∧ c.session.nextSequence ≠ u32Max ∧
        AckCovers c.session.ackState.1 c.session.ackState.2 sequence := by
  unfold acknowledge
  by_cases hframe : frame.isSome = true
  · rw [if_pos (Or.inr hframe), and_iff_right hframe]
    by_cases hcounter : c.session.nextSequence = u32Max
    · rw [show c.session.createAck = (.error (.panic "sequence overflow"), c.session) from
        if_pos hcounter]
      refine iff_of_false ?_ (fun h => h.1 hcounter)
      rintro ⟨d, hd, -⟩
      cases hd
    · obtain ⟨ack, wire, hcreate, hstate, hencode, hdecode⟩ := createAck_wire hcounter
      rw [hcreate, and_iff_right hcounter, ← hstate]
      dsimp only
      rw [(sendPackets_singleton
        (c := { c with session := { c.session with nextSequence := c.session.nextSequence + 1 } })
        hremote hencode 0 (hsend 0)).2]
      constructor
      · rintro ⟨d, hd, ack', hack', hcovers⟩
        rw [List.mem_singleton.mp hd, hdecode] at hack'
        cases hack'
        exact hcovers
      · intro hcovers
        exact ⟨_, List.mem_singleton_self _, ack, hdecode, hcovers⟩
  · rw [if_neg (by rw [htype]; simpa using hframe)]
    refine iff_of_false ?_ (fun h => hframe h.1)
    rintro ⟨d, hd, -⟩
    cases hd

/--
**When a Data packet is acknowledged.**  A connection with nothing queued reads a Data packet
of its own from its peer, the session takes it, and the socket sends what it is given.  Among
what the call sends is a packet that acknowledges it exactly if `Answered` holds beforehand.
-/
theorem acknowledged_iff {options : SocketTransportOptions} {log : ConnectionLog}
    {c : Connection} (hrun : Machine.Run Connection.call (Connection.new options) log c)
    (hqueue : c.deliveredFrames = []) {wire : List UInt8} {source : SocketAddr} {packet : Packet}
    {nowMs : Nat} {sendTo : SendTo} (hremote : c.remoteAddr = some source)
    (hdecode : decodeRudpPacket wire = .ok packet) (htype : packet.packetType = .data)
    (hid : packet.connectionId = c.session.connectionId)
    (haccepted : ∃ result, (c.session.receive packet nowMs).1 = .ok result)
    (hsend : ∀ index, ∃ n, sendTo index = .ok n) :
    (∃ d ∈ (c.receiveOnce (.datagram wire source) nowMs sendTo).sent,
      ∃ ack, decodeRudpPacket d.wire = .ok ack ∧ ack.Covers packet.sequence) ↔
      Answered c.session packet := by
  -- what the session is known to keep
  obtain ⟨calls, hcalls⟩ := exists_session_run hrun
  have hreceived : Session.ReceivedOK c.session := by
    refine hcalls.invariant (Session.receivedOK_new _) fun s i o s' ok hcall => ?_
    exact (Session.call_effect hcall).2.receives.receivedOK ok
  have hchannels : c.session.Channels :=
    hcalls.invariant (Session.channels_of_empty rfl rfl) fun s i o s' ok hcall =>
      Session.call_channels hcall ok
  -- what `receive` did
  obtain ⟨result, hresult⟩ := haccepted
  have hreceive : c.session.receive packet nowMs
      = (.ok result, (c.session.receive packet nowMs).2) := by
    rw [← hresult]
  have hdata := Session.receive_data nowMs hid htype
  have hcore := Session.core_receiveData (c.session.receiveBase packet nowMs) packet
    (c.session.expectedSequence packet)
  rw [← hdata] at hcore
  have hreceipt := Session.receiveData_receipt (c.session.receiveBase packet nowMs) packet
    (c.session.expectedSequence packet)
  rw [← hdata, hresult] at hreceipt
  have hreleases : result.delivered ≠ [] ↔ c.session.Releases packet := by
    have hbase : (c.session.receiveBase packet nowMs).Channels := hchannels.congr rfl fun _ => rfl
    rw [Session.receipt_releases hreceipt hbase, Session.releases_receiveBase]
  -- what went out
  rw [receiveOnce_bound nowMs sendTo hqueue hremote hdecode (by rw [htype]; decide)]
  generalize (c.session.receive packet nowMs).2 = session at hreceive hcore
  obtain ⟨t, hsession, hbound, hsent⟩ := handlePacket_data (c := c.countReceived wire.length)
    sendTo hid htype hqueue hreceive
  rw [hsent, acknowledge_covers_iff (hbound.trans hremote) htype hsend]
  have hframe : (result.delivered.map transportFrame).head?.isSome = true ↔
      result.delivered ≠ [] := by
    cases result.delivered with
    | nil => simp
    | cons frame rest => simp
  have hnext : t.session.nextSequence = c.session.nextSequence := by
    rw [hsession]
    exact congrArg (fun core => core.outbound.nextSequence) hcore
  have hwindow : t.session.window = (c.session.rememberReceived packet.sequence).window := by
    rw [hsession]
    exact (Session.window_of_core hcore).trans rfl
  rw [hframe, hreleases, hnext, Session.ackState_of_window hwindow, covers_remembered hreceived]
  exact ⟨fun ⟨hout, hcounter, hcovers⟩ => ⟨hout, hcovers, hcounter⟩,
    fun hanswered => ⟨hanswered.releases, hanswered.counter, hanswered.window⟩⟩

/-- A whole reliable Data packet of connection 7. -/
def dataPacket (sequence : UInt32) : Packet where
  packetType := .data
  connectionId := 7
  sequence
  ack := 0
  ackMask := 0
  channelId := "control"
  reliable := true
  ordered := false
  sequenced := false
  fragmentId := 0
  fragmentIndex := 0
  fragmentCount := 0
  payload := [42]

/-- Its datagram. -/
def dataWire (sequence : UInt32) : List UInt8 := wireOf (dataPacket sequence)

theorem exists_ok {α : Type} {result : Except Fault α} (h : result.isOk = true) :
    ∃ value, result = .ok value := by
  cases result with
  | ok value => exact ⟨value, rfl⟩
  | error fault => cases h

/-- The first Data packet of a client is acknowledged. -/
theorem acknowledged_first :
    ∃ (log : ConnectionLog) (c : Connection),
      Machine.Run Connection.call (Connection.new (.server 7)) log c ∧
      ∃ d ∈ (c.receiveOnce (.datagram (dataWire 2) (.v4 1 9000)) 1 fun _ => .ok 0).sent,
        ∃ ack, decodeRudpPacket d.wire = .ok ack ∧ ack.Covers 2 := by
  have hdecode : decodeRudpPacket (dataWire 2) = .ok (dataPacket 2) := by decide +kernel
  have hexec : ((Machine.exec Connection.call (Connection.new (.server 7))
      [(.receiveOnce (.datagram (connectWire 7) (.v4 1 9000)) 0, fun _ => .ok 0)]).any fun r =>
      decide (r.2.deliveredFrames = [] ∧ r.2.remoteAddr = some (.v4 1 9000) ∧
        r.2.session.connectionId = 7 ∧ 2 ∉ r.2.session.receivedSequences ∧
        r.2.session.highestReceivedSequence = some 1 ∧ r.2.session.nextSequence ≠ u32Max ∧
        (r.2.session.receive (dataPacket 2) 1).1.isOk = true)) = true := by
    decide +kernel
  obtain ⟨log, c, hrun, -, hcheck⟩ := Machine.Run.of_exec_any hexec
  obtain ⟨hqueue, hremote, hid, hnew, hhighest, hcounter, hok⟩ := of_decide_eq_true hcheck
  have hanswered : Answered c.session (dataPacket 2) := by
    refine ⟨⟨hnew, 2, .whole rfl, fun h => by cases h⟩, ?_, hcounter⟩
    intro highest h
    rw [hhighest] at h
    cases h
    decide
  exact ⟨log, c, hrun, (acknowledged_iff hrun hqueue hremote hdecode rfl hid.symm
    (exists_ok hok) fun _ => ⟨0, rfl⟩).mpr hanswered⟩

/-- A Data packet that comes a second time is taken without an answer. -/
theorem acknowledged_not_again :
    ∃ (log : ConnectionLog) (c : Connection),
      Machine.Run Connection.call (Connection.new (.server 7)) log c ∧
      c.deliveredFrames = [] ∧ c.remoteAddr = some (.v4 1 9000) ∧
      decodeRudpPacket (dataWire 2) = .ok (dataPacket 2) ∧
      (dataPacket 2).packetType = .data ∧ (dataPacket 2).reliable = true ∧
      (dataPacket 2).connectionId = c.session.connectionId ∧
      (∃ result, (c.session.receive (dataPacket 2) 2).1 = .ok result) ∧
      ¬ ∃ d ∈ (c.receiveOnce (.datagram (dataWire 2) (.v4 1 9000)) 2 fun _ => .ok 0).sent,
        ∃ ack, decodeRudpPacket d.wire = .ok ack ∧ ack.Covers 2 := by
  have hdecode : decodeRudpPacket (dataWire 2) = .ok (dataPacket 2) := by decide +kernel
  have hexec : ((Machine.exec Connection.call (Connection.new (.server 7))
      [(.receiveOnce (.datagram (connectWire 7) (.v4 1 9000)) 0, fun _ => .ok 0),
        (.receiveOnce (.datagram (dataWire 2) (.v4 1 9000)) 1, fun _ => .ok 0)]).any fun r =>
      decide (r.2.deliveredFrames = [] ∧ r.2.remoteAddr = some (.v4 1 9000) ∧
        r.2.session.connectionId = 7 ∧ (r.2.session.receive (dataPacket 2) 2).1.isOk = true ∧
        (r.2.receiveOnce (.datagram (dataWire 2) (.v4 1 9000)) 2
          fun _ => .ok 0).sent.isEmpty = true)) = true := by
    decide +kernel
  obtain ⟨log, c, hrun, -, hcheck⟩ := Machine.Run.of_exec_any hexec
  obtain ⟨hqueue, hremote, hid, hok, hsent⟩ := of_decide_eq_true hcheck
  refine ⟨log, c, hrun, hqueue, hremote, hdecode, rfl, rfl, hid.symm, exists_ok hok, ?_⟩
  rintro ⟨d, hd, -⟩
  rw [List.isEmpty_iff.mp hsent] at hd
  cases hd

end Connection

end CultNet.Rudp
