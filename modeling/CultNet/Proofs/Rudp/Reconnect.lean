/-
How a disconnected connection comes back.

Of all the calls on a connection whose session is not connected, three make it
connected: `assume_connected`, a `receive_once` that returns a frame still in the
queue, and a `receive_once` that takes a handshake packet.  Neither of the last two
asks whether there is anything new in what it is handed.  The queue is read with
an `assume_connected` that the read of a fresh packet does without; and an Accept
is acted on before it is looked up among the packets already received, whether or
not there is a Connect that it answers.
-/
import CultNet.Proofs.Rudp.Pending
import CultNet.Proofs.Rudp.ReceiveOnce

namespace CultNet.Rudp

namespace Session

/-! ### The session -/

theorem createPacket_connected (s : Session) (packetType : PacketType) (channelId : String)
    (payload : List UInt8) (reliable ordered sequenced : Bool) :
    (s.createPacket packetType channelId payload reliable ordered sequenced).2.connected =
      s.connected := by
  unfold createPacket createPacketWithFragments
  by_cases h : s.nextSequence = u32Max
  · rw [if_pos h]
  · rw [if_neg h]

theorem createConnect_connected (s : Session) (nowMs : Nat) (payload : List UInt8) :
    (s.createConnect nowMs payload).2.connected = s.connected := by
  have hcreate := s.createPacket_connected .connect "control" payload true true false
  unfold createConnect
  split
  · rfl
  · split
    · rename_i heq
      rw [heq] at hcreate
      exact hcreate
    · rename_i heq
      rw [heq] at hcreate
      exact hcreate

/-- Of the packets that a disconnected session receives, an Accept connects it. -/
theorem receive_connected {s : Session} (hdown : s.connected = false) (packet : Packet)
    (nowMs : Nat) :
    (s.receive packet nowMs).2.connected = true ↔
      packet.connectionId = s.connectionId ∧ packet.packetType = .accept := by
  by_cases hid : packet.connectionId = s.connectionId
  · rw [receive_eq nowMs hid, receiveTyped]
    have hremembered : (s.remembered packet nowMs).connected = false := hdown
    cases htype : packet.packetType with
    | accept => simp [hid]
    | ping =>
        have hcreate := (s.remembered packet nowMs).createPacket_connected .pong "control"
          packet.payload false false false
        rw [hremembered] at hcreate
        dsimp only
        split
        · rename_i heq
          rw [heq] at hcreate
          simpa using hcreate
        · rename_i heq
          rw [heq] at hcreate
          simpa using hcreate
    | ack => simp [hremembered]
    | pong => simp [hremembered]
    | disconnect => simp
    | connect =>
        have hbase : (s.receiveBase packet nowMs).connected = false := hdown
        simp [hbase]
    | data =>
        have hcore := congrArg Core.connected
          (core_receiveData (s.receiveBase packet nowMs) packet (s.expectedSequence packet))
        have hdata : ((s.receiveBase packet nowMs).receiveData packet
            (s.expectedSequence packet)).2.connected = false := hcore.trans hdown
        simp [hdata]
  · obtain ⟨message, hforeign⟩ := receive_foreign nowMs hid
    rw [hforeign]
    simp [hdown, hid]

/-- With nothing pending there is room for one packet unless the limit is 0. -/
theorem capacity_after_reset (s : Session) :
    s.resetPeerState.ensureReliableCapacity 1 = .ok () ↔
      s.maxPendingReliablePackets ≠ some 0 := by
  have hempty : s.resetPeerState.pendingReliable.size = 0 := rfl
  have hlimit : s.resetPeerState.maxPendingReliablePackets = s.maxPendingReliablePackets := rfl
  unfold ensureReliableCapacity
  rw [if_neg one_ne_zero, hlimit, hempty]
  cases s.maxPendingReliablePackets with
  | none => simp
  | some limit =>
      dsimp only
      by_cases hroom : limit < 0 + 1
      · rw [if_pos hroom]
        simp; omega
      · rw [if_neg hroom]
        simp; omega

/-- A session that has just been reset accepts a Connect of its own unless it has no room for
the answer. -/
theorem acceptConnect_connected (s : Session) (packet : Packet) (nowMs : Nat)
    (htype : packet.packetType = .connect) :
    (s.resetPeerState.acceptConnect packet nowMs []).2.connected = true ↔
      packet.connectionId = s.connectionId ∧ s.maxPendingReliablePackets ≠ some 0 := by
  by_cases hid : packet.connectionId = s.connectionId
  · have hrequired : s.resetPeerState.requireConnection packet = .ok () :=
      requireConnection_ok.mpr hid
    unfold acceptConnect
    rw [hrequired]
    dsimp only
    rw [if_neg (not_not.mpr htype),
      if_neg (show ¬ s.resetPeerState.connected = true from Bool.false_ne_true)]
    cases hasked : s.resetPeerState.ensureReliableCapacity 1 with
    | error message =>
        have hzero := (capacity_after_reset s).not.mp (by rw [hasked]; simp)
        simp only [ne_eq, hid, hzero, and_false, iff_false]
        exact Bool.false_ne_true
    | ok _ =>
        have hroom := (capacity_after_reset s).mp hasked
        rw [iff_true_right ⟨hid, hroom⟩]
        dsimp only
        have hcreate := fun t : Session =>
          t.createPacket_connected .accept "control" [] true true false
        split
        · rename_i heq
          exact (congrArg (fun r => r.2.connected) heq).symm.trans (hcreate _)
        · rename_i heq
          have hup := (congrArg (fun r => r.2.connected) heq).symm.trans (hcreate _)
          exact hup
  · have hrequired : ∃ message, s.resetPeerState.requireConnection packet = .error message := by
      unfold requireConnection
      rw [if_pos (show packet.connectionId ≠ s.resetPeerState.connectionId from hid)]
      exact ⟨_, rfl⟩
    obtain ⟨message, hrequired⟩ := hrequired
    unfold acceptConnect
    rw [hrequired]
    simp [hid, resetPeerState]

end Session

namespace Connection

/-! ### The connection -/

/-- The call returns a frame that is still in the queue. -/
def ReadsQueued (c : Connection) (call : ConnectionCall) : Prop :=
  c.deliveredFrames ≠ [] ∧ ∃ recv nowMs, call = .receiveOnce recv nowMs

/-- A packet that connects the session: an Accept, or a Connect that a server has room to
answer. -/
def Handshakes (c : Connection) (packet : Packet) : Prop :=
  packet.connectionId = c.session.connectionId ∧
    (packet.packetType = .accept ∨
      packet.packetType = .connect ∧ c.mode = .server ∧
        c.session.maxPendingReliablePackets ≠ some 0)

/-- The calls that connect a disconnected connection. -/
def Reconnects (c : Connection) (call : ConnectionCall) : Prop :=
  (∃ nowMs, call = .assumeConnected nowMs) ∨ c.ReadsQueued call ∨
    ∃ packet, c.takes? call = some packet ∧ c.Handshakes packet

theorem sendCreated_session_eq (c : Connection) (sendTo : SendTo)
    (r : Except Fault Packet × Session) : (c.sendCreated sendTo r).connection.session = r.2 := by
  obtain ⟨result, session⟩ := r
  cases result with
  | error fault => rfl
  | ok packet =>
      obtain ⟨bytesSent, heq⟩ := (sendPackets_sends sendTo [packet] { c with session } 0).connection
      show (sendPackets { c with session } sendTo 0 [packet]).connection.session = session
      rw [heq]

theorem acknowledge_connected (c : Connection) (packet : Packet) (frame : Option TransportFrame)
    (sendTo : SendTo) (index : Nat) :
    (c.acknowledge packet frame sendTo index).connection.session.connected =
      c.session.connected := by
  have hcreate := c.session.createPacket_connected .ack "control" [] false false false
  unfold acknowledge
  by_cases hanswer : packet.packetType = .accept ∨ frame.isSome
  · rw [if_pos hanswer]
    change c.session.createAck.2.connected = _ at hcreate
    generalize c.session.createAck = r at hcreate
    obtain ⟨result, session⟩ := r
    cases result with
    | error fault => exact hcreate
    | ok ack =>
        obtain ⟨bytesSent, heq⟩ :=
          (sendPackets_sends sendTo [ack] { c with session } index).connection
        show (sendPackets { c with session } sendTo index [ack]).connection.session.connected = _
        rw [heq]
        exact hcreate
  · rw [if_neg hanswer]

theorem handlePacket_connected (c : Connection) (packet : Packet) (nowMs : Nat)
    (sendTo : SendTo) :
    (c.handlePacket packet nowMs sendTo).connection.session.connected =
      (c.session.receive packet nowMs).2.connected := by
  unfold handlePacket
  generalize c.session.receive packet nowMs = r
  obtain ⟨result, session⟩ := r
  cases result with
  | error fault => rfl
  | ok result =>
      obtain ⟨bytesSent, heq⟩ :=
        (sendPackets_sends sendTo result.reply.toList { c with session } 0).connection
      dsimp only
      generalize sendPackets { c with session } sendTo 0 result.reply.toList = replied at heq
      cases replied.result with
      | error fault =>
          dsimp only
          rw [heq]
      | ok _ =>
          dsimp only
          have hpong : (if result.pong = true then { replied.connection with
              pongPayloads := replied.connection.pongPayloads ++ [result.pongPayload] }
              else replied.connection).session = session := by
            split <;> rw [heq]
          by_cases hdisconnected : result.disconnected = true
          · rw [if_pos hdisconnected]
            exact congrArg Session.connected hpong
          · rw [if_neg hdisconnected]
            dsimp only
            rw [acknowledge_connected]
            exact congrArg Session.connected hpong

theorem handleConnect_session (c : Connection) (packet : Packet) (nowMs : Nat)
    (sendTo : SendTo) :
    (c.handleConnect packet nowMs sendTo).connection.session =
      (c.session.resetPeerState.acceptConnect packet nowMs []).2 :=
  c.sendCreated_session_eq sendTo _

/-- A read connects by a queued frame or by the packet it takes. -/
theorem reconnects_receiveOnce {c : Connection} {recv : RecvFrom} {nowMs : Nat} :
    c.Reconnects (.receiveOnce recv nowMs) ↔ c.deliveredFrames ≠ [] ∨
      ∃ packet, c.takes? (.receiveOnce recv nowMs) = some packet ∧ c.Handshakes packet := by
  simp [Reconnects, ReadsQueued]

/-- A disconnected connection reads. -/
theorem receiveOnce_connected {c : Connection} (hdown : c.session.connected = false)
    (recv : RecvFrom) (nowMs : Nat) (sendTo : SendTo) :
    (c.receiveOnce recv nowMs sendTo).connection.session.connected = true ↔
      c.Reconnects (.receiveOnce recv nowMs) := by
  rw [reconnects_receiveOnce]
  unfold takes? receiveOnce
  cases hqueue : c.deliveredFrames with
  | cons frame rest => simp [Session.assumeConnected]
  | nil =>
      cases recv with
      | idle => simp [hdown]
      | failed message => simp [hdown]
      | datagram wire source =>
          have hcount : (c.countReceived wire.length).session.connected = false := hdown
          dsimp only
          cases hdecode : decodeRudpPacket wire with
          | error message => simp [hcount]
          | ok packet =>
              dsimp only
              rw [bindRemote_countReceived]
              cases hbind : c.bindRemote packet source with
              | none => simp [hcount]
              | some t =>
                  obtain ⟨remoteAddr, rfl⟩ := bindRemote_some hbind
                  have htaken : (([] : List TransportFrame) ≠ [] ∨
                      ∃ p, some packet = some p ∧ c.Handshakes p) ↔ c.Handshakes packet := by
                    simp
                  simp only [Option.map_some]
                  rw [htaken]
                  by_cases hconnect : c.mode = .server ∧ packet.packetType = .connect
                  · rw [if_pos (by exact hconnect), handleConnect_session]
                    refine (Session.acceptConnect_connected _ packet nowMs hconnect.2).trans ?_
                    simp [Handshakes, hconnect, countReceived]
                  · rw [if_neg (by exact hconnect), handlePacket_connected]
                    refine (Session.receive_connected (by exact hdown) packet nowMs).trans ?_
                    refine and_congr_right fun _ => ⟨Or.inl, ?_⟩
                    rintro (haccept | ⟨htype, hserver, -⟩)
                    · exact haccept
                    · exact absurd ⟨hserver, htype⟩ hconnect

/-- **What makes a disconnected connection connected.** -/
theorem call_reconnects {c c' : Connection} {input : ConnectionCall × SendTo}
    {out : ConnectionOutput} (hdown : c.session.connected = false)
    (h : c.call input = some (out, c')) :
    c'.session.connected = true ↔ c.Reconnects input.1 := by
  obtain ⟨call, sendTo⟩ := input
  have hnone (hcall : ∀ nowMs, call ≠ .assumeConnected nowMs)
      (hread : ∀ recv nowMs, call ≠ .receiveOnce recv nowMs)
      (hafter : c'.session.connected = false) :
      c'.session.connected = true ↔ c.Reconnects call := by
    refine iff_of_false (by simp [hafter]) ?_
    rintro (⟨nowMs, rfl⟩ | ⟨-, recv, nowMs, rfl⟩ | ⟨packet, htaken, -⟩)
    · exact hcall nowMs rfl
    · exact hread recv nowMs rfl
    · cases call with
      | receiveOnce recv nowMs => exact hread recv nowMs rfl
      | _ => cases htaken
  cases call with
  | assumeConnected nowMs =>
      cases h
      exact iff_of_true rfl (Or.inl ⟨nowMs, rfl⟩)
  | receiveOnce recv nowMs =>
      obtain ⟨rfl, -, -⟩ := toStep_some h
      exact receiveOnce_connected hdown recv nowMs sendTo
  | popPongPayload =>
      cases h
      exact hnone (by simp) (by simp) hdown
  | checkTimeout nowMs timeoutMs =>
      cases h
      refine hnone (by simp) (by simp) ?_
      show (c.session.checkTimeout nowMs timeoutMs).2.connected = false
      unfold Session.checkTimeout
      rw [hdown]
      exact hdown
  | connect payload nowMs =>
      have hstep : (c.connect payload nowMs sendTo).toStep (fun _ => none) = some (out, c') := h
      obtain ⟨rfl, -, -⟩ := toStep_some hstep
      refine hnone (by simp) (by simp) ?_
      unfold connect
      by_cases hmode : c.mode ≠ .client
      · rw [if_pos hmode]
        exact hdown
      · rw [if_neg hmode, sendCreated_session_eq, Session.createConnect_connected]
        exact hdown
  | send channelId payload nowMs =>
      have hstep : (c.send channelId payload nowMs sendTo).toStep (fun _ => none) =
        some (out, c') := h
      obtain ⟨rfl, -, -⟩ := toStep_some hstep
      refine hnone (by simp) (by simp) ?_
      unfold send
      rw [Session.sendMany_disconnected hdown]
      exact hdown
  | disconnect reason =>
      have hstep : (c.disconnect reason sendTo).toStep (fun _ => none) = some (out, c') := h
      obtain ⟨rfl, -, -⟩ := toStep_some hstep
      refine hnone (by simp) (by simp) ?_
      unfold disconnect
      rw [sendCreated_session_eq]
      exact Session.createPacket_connected { c.session with connected := false } .disconnect
        "control" reason false false false
  | ping payload =>
      have hstep : (c.ping payload sendTo).toStep (fun _ => none) = some (out, c') := h
      obtain ⟨rfl, -, -⟩ := toStep_some hstep
      refine hnone (by simp) (by simp) ?_
      unfold ping
      rw [sendCreated_session_eq]
      exact (c.session.createPacket_connected .ping "control" payload false false false).trans hdown
  | pollResends nowMs =>
      have hstep : (c.pollResends nowMs sendTo).toStep (fun _ => none) = some (out, c') := h
      obtain ⟨rfl, -, -⟩ := toStep_some hstep
      refine hnone (by simp) (by simp) ?_
      obtain ⟨bytesSent, heq⟩ := (sendPackets_sends sendTo (c.session.dueResends nowMs).1
        { c with session := (c.session.dueResends nowMs).2 } 0).connection
      have hconnection : (c.pollResends nowMs sendTo).connection =
          { c with
              session := (c.session.dueResends nowMs).2
              stats := { c.stats with bytesSent } } := heq
      rw [hconnection]
      exact hdown

/-! ### Along a run -/

/-- A packet that some call of the log took. -/
def Took (start : Connection) (log : ConnectionLog) (packet : Packet) : Prop :=
  ∃ before input out after c, log = before ++ (input, out) :: after ∧
    Machine.Run Connection.call start before c ∧ c.takes? input.1 = some packet

/-- The Connect that a call makes: what a client's `connect` hands its session to send. -/
def connects? (c : Connection) : ConnectionCall → Option Packet
  | .connect payload nowMs =>
    if c.mode = .client then (c.session.createConnect nowMs payload).1.toOption else none
  | _ => none

/-- A Connect that `connect` made in the log and whose answer is awaited: since then the session
has not been connected, and `disconnect` was not called. -/
def Awaits (start : Connection) (log : ConnectionLog) (connect : Packet) : Prop :=
  ∃ before input out after c, log = before ++ (input, out) :: after ∧
    Machine.Run Connection.call start before c ∧ c.connects? input.1 = some connect ∧
    Machine.Each Connection.call (fun _ _ input _ t => t.session.connected = false ∧
      ∀ reason, input.1 ≠ .disconnect reason) c ((input, out) :: after)

/-- A `receive_once` that is handed nothing new: whatever packet it takes is an old one. -/
def StaleRead (old : Packet → Prop) (c : Connection) (call : ConnectionCall) : Prop :=
  (∃ recv nowMs, call = .receiveOnce recv nowMs) ∧
    ∀ packet, c.takes? call = some packet → old packet

/-- The packet belongs to a handshake that is new: it is not an old one, and an Accept
acknowledges a Connect whose answer is awaited. -/
structure NewHandshake (old awaited : Packet → Prop) (packet : Packet) : Prop where
  new : ¬ old packet
  awaited : packet.packetType = .accept →
    ∃ connect, awaited connect ∧ packet.Covers connect.sequence

/-- The connection was not brought back by what is old: a stale read leaves it disconnected, and
one of a queued frame leaves the time of the last packet; and only `assume_connected` and a new
handshake connect it. -/
def StaysDown (old awaited : Packet → Prop) (c : Connection) (call : ConnectionCall)
    (c' : Connection) : Prop :=
  (StaleRead old c call → c'.session.connected = false ∧
    (c.ReadsQueued call → c'.session.lastReceivedAtMs = c.session.lastReceivedAtMs)) ∧
  (c'.session.connected = true → (∃ nowMs, call = .assumeConnected nowMs) ∨
    ∃ packet, c.takes? call = some packet ∧ c.Handshakes packet ∧
      NewHandshake old awaited packet)

/-- The call reads no queued frame, and a handshake packet that it takes is of a new
handshake. -/
def Fresh (old awaited : Packet → Prop) (c : Connection) (call : ConnectionCall) : Prop :=
  ¬ c.ReadsQueued call ∧
    ∀ packet, c.takes? call = some packet → c.Handshakes packet →
      NewHandshake old awaited packet

/-- **What is awaited after one more call.**  Nothing that was awaited before it, once the session
is connected or `disconnect` was called; and a `connect` adds its Connect. -/
theorem awaits_snoc_iff {start c c' : Connection} {log : ConnectionLog}
    {input : ConnectionCall × SendTo} {out : ConnectionOutput} {connect : Packet}
    (hrun : Machine.Run Connection.call start log c) (h : c.call input = some (out, c')) :
    Awaits start (log ++ [(input, out)]) connect ↔
      (c.connects? input.1 = some connect ∨ Awaits start log connect) ∧
        c'.session.connected = false ∧ ∀ reason, input.1 ≠ .disconnect reason := by
  constructor
  · rintro ⟨before, asked, answer, after, t, hlog, hbefore, hconnect, heach⟩
    rcases List.eq_nil_or_concat after with rfl | ⟨after, last, rfl⟩
    · -- the call is the `connect`
      obtain ⟨rfl, hsame⟩ := List.append_inj' hlog rfl
      simp only [List.cons.injEq, Prod.mk.injEq, and_true] at hsame
      obtain ⟨rfl, rfl⟩ := hsame
      obtain rfl := hrun.unique hbefore
      exact ⟨Or.inl hconnect, heach [] input out [] c c' rfl Machine.Run.nil h⟩
    · rw [List.concat_eq_append, ← List.cons_append, ← List.append_assoc] at hlog
      rw [List.concat_eq_append, ← List.cons_append] at heach
      obtain ⟨rfl, hsame⟩ := List.append_inj' hlog rfl
      simp only [List.cons.injEq, and_true] at hsame
      subst hsame
      obtain ⟨t', hbefore', hafter⟩ := hrun.split
      obtain rfl := hbefore.unique hbefore'
      obtain ⟨hsince, hlast⟩ := (Machine.Each.snoc_iff hafter h).mp heach
      exact ⟨Or.inr ⟨before, asked, answer, after, t, rfl, hbefore, hconnect, hsince⟩, hlast⟩
  · rintro ⟨hconnect | hawaits, hlast⟩
    · refine ⟨log, input, out, [], c, rfl, hrun, hconnect, ?_⟩
      exact (Machine.Each.snoc_iff Machine.Run.nil h).mpr ⟨Machine.Each.nil, hlast⟩
    · obtain ⟨before, asked, answer, after, t, rfl, hbefore, hconnect, hsince⟩ := hawaits
      obtain ⟨t', hbefore', hafter⟩ := hrun.split
      obtain rfl := hbefore.unique hbefore'
      refine ⟨before, asked, answer, after ++ [(input, out)], t, ?_, hbefore, hconnect, ?_⟩
      · rw [List.append_assoc, List.cons_append]
      · rw [← List.cons_append]
        exact (Machine.Each.snoc_iff hafter h).mpr ⟨hsince, hlast⟩

/-- **Who awaits an answer is not connected.** -/
theorem Awaits.connected {start c : Connection} {log : ConnectionLog} {connect : Packet}
    (h : Awaits start log connect) (hrun : Machine.Run Connection.call start log c) :
    c.session.connected = false := by
  cases hrun with
  | nil =>
      obtain ⟨before, asked, answer, after, t, hlog, -⟩ := h
      simp at hlog
  | snoc hrun hstep => exact ((awaits_snoc_iff hrun hstep).mp h).2.1

/-- After `disconnect` nothing is awaited. -/
theorem not_awaits_of_disconnect {start c : Connection} {log : ConnectionLog}
    {input : ConnectionCall × SendTo} {out : ConnectionOutput} {reason : List UInt8}
    (hrun : Machine.Run Connection.call start (log ++ [(input, out)]) c)
    (hcall : input.1 = .disconnect reason) (connect : Packet) :
    ¬ Awaits start (log ++ [(input, out)]) connect := by
  intro hawaits
  obtain ⟨t, hbefore, hstep⟩ := hrun.unsnoc
  exact ((awaits_snoc_iff hbefore hstep).mp hawaits).2.2 reason hcall

/-- What was taken was read from a datagram. -/
theorem Took.read {start : Connection} {log : ConnectionLog} {packet : Packet}
    (h : Took start log packet) : ∃ input ∈ log.map Prod.fst, ∃ wire source nowMs,
      input.1 = .receiveOnce (.datagram wire source) nowMs ∧
        decodeRudpPacket wire = .ok packet := by
  obtain ⟨before, input, out, after, c, rfl, -, htook⟩ := h
  obtain ⟨wire, source, nowMs, hread, -, hdecode⟩ := datagram_of_takes? htook
  exact ⟨input, by simp, wire, source, nowMs, hread, hdecode⟩

/-- While a frame is queued no packet is taken. -/
theorem takes?_of_readsQueued {c : Connection} {call : ConnectionCall} (h : c.ReadsQueued call) :
    c.takes? call = none := by
  obtain ⟨hqueue, recv, nowMs, rfl⟩ := h
  unfold takes?
  cases hframes : c.deliveredFrames with
  | nil => exact absurd hframes hqueue
  | cons frame rest => cases recv <;> rfl

/-- **One call on a disconnected connection.** -/
theorem staysDown_iff {old awaited : Packet → Prop} {c c' : Connection}
    {input : ConnectionCall × SendTo} {out : ConnectionOutput}
    (hdown : c.session.connected = false) (h : c.call input = some (out, c')) :
    StaysDown old awaited c input.1 c' ↔ Fresh old awaited c input.1 := by
  have hreconnects := call_reconnects hdown h
  constructor
  · rintro ⟨hstale, hup⟩
    refine ⟨?_, ?_⟩
    · intro hqueued
      have hread : StaleRead old c input.1 := by
        refine ⟨hqueued.2, ?_⟩
        intro packet htaken
        rw [takes?_of_readsQueued hqueued] at htaken
        cases htaken
      have hconnected := hreconnects.mpr (Or.inr (Or.inl hqueued))
      rw [(hstale hread).1] at hconnected
      cases hconnected
    · intro packet htaken hshakes
      rcases hup (hreconnects.mpr (Or.inr (Or.inr ⟨packet, htaken, hshakes⟩))) with
        ⟨nowMs, hassume⟩ | ⟨packet', htaken', -, hnew⟩
      · -- a read is no `assume_connected`
        obtain ⟨_, _, _, hread, -⟩ := datagram_of_takes? htaken
        rw [hassume] at hread
        cases hread
      · rw [htaken, Option.some.injEq] at htaken'
        exact htaken' ▸ hnew
  · rintro ⟨hnotqueued, hnew⟩
    refine ⟨?_, ?_⟩
    · rintro ⟨⟨recv, nowMs, hread⟩, hold⟩
      refine ⟨?_, fun hqueued => absurd hqueued hnotqueued⟩
      rw [← Bool.not_eq_true, hreconnects]
      rintro (⟨nowMs', hassume⟩ | hqueued | ⟨packet, htaken, hshakes⟩)
      · rw [hread] at hassume
        cases hassume
      · exact hnotqueued hqueued
      · exact (hnew packet htaken hshakes).new (hold packet htaken)
    · intro hconnected
      rcases hreconnects.mp hconnected with hassume | hqueued | ⟨packet, htaken, hshakes⟩
      · exact Or.inl hassume
      · exact absurd hqueued hnotqueued
      · exact Or.inr ⟨packet, htaken, hshakes, hnew packet htaken hshakes⟩

/-- **A connection stays disconnected along a log exactly when no call on it, while it is
disconnected, reads a queued frame, takes a copy of a handshake packet, or takes an Accept that
answers no Connect made since it went down.**  Then any number of stale reads in a row leave it
disconnected. -/
theorem staysDown_throughout_iff (options : SocketTransportOptions) (log : ConnectionLog) :
    (Machine.Each Connection.call (fun before c input _ c' => c.session.connected = false →
        StaysDown (Took (new options) before) (Awaits (new options) before) c input.1 c')
        (new options) log ↔
      Machine.Each Connection.call (fun before c input _ _ => c.session.connected = false →
        Fresh (Took (new options) before) (Awaits (new options) before) c input.1)
        (new options) log) ∧
    (Machine.Each Connection.call (fun before c input _ _ => c.session.connected = false →
        Fresh (Took (new options) before) (Awaits (new options) before) c input.1)
        (new options) log →
      ∀ before after c c', log = before ++ after →
        Machine.Run Connection.call (new options) before c → c.session.connected = false →
        Machine.Run Connection.call c after c' →
        Machine.Each Connection.call (fun more t input _ _ =>
          StaleRead (Took (new options) (before ++ more)) t input.1) c after →
        c'.session.connected = false) := by
  refine ⟨Machine.Each.congr fun before c input out c' hstep => ?_, ?_⟩
  · exact forall_congr' fun hdown => staysDown_iff hdown hstep
  · rintro hfresh before after c c' rfl hrun hdown hafter hstale
    have hboth : Machine.Each Connection.call (fun more t input out t' =>
        (t.session.connected = false → Fresh (Took (new options) (before ++ more))
            (Awaits (new options) (before ++ more)) t input.1) ∧
          StaleRead (Took (new options) (before ++ more)) t input.1) c after :=
      fun more i o rest t t' hlog hmore hstep =>
        ⟨hfresh.suffix hrun more i o rest t t' hlog hmore hstep,
          hstale more i o rest t t' hlog hmore hstep⟩
    refine hboth.invariant (fun t => t.session.connected = false) hdown ?_ hafter
    intro more t input out t' ht hstep ⟨hstepFresh, hstepStale⟩
    exact (((staysDown_iff ht hstep).mpr (hstepFresh ht)).1 hstepStale).1

/-- An Accept of connection 7. -/
def acceptPacket : Packet := { connectPacket 7 with packetType := .accept }

/-- An ordered Data packet of connection 7. -/
def orderedPacket (sequence : UInt32) : Packet := { dataPacket sequence with ordered := true }

/-- A client of connection 7 that reads some packets and then disconnects. -/
def readsThenDisconnects (packets : List Packet) : List (ConnectionCall × SendTo) :=
  packets.map (fun packet =>
    (.receiveOnce (.datagram (wireOf packet) (.v4 1 9000)) 2, fun _ => .ok 0)) ++
  [(.disconnect [], fun _ => .ok 0)]

/-- The Accept number `sequence` of a server that answers the Connect number 1. -/
def answerPacket (sequence : UInt32) : Packet := { acceptPacket with sequence, ack := 1 }

/-- A client of connection 7 whose Connect goes out twice, and who disconnects after the first
answer. -/
def answeredThenDisconnects : List (ConnectionCall × SendTo) :=
  [(.connect [] 0, fun _ => .ok 0), (.pollResends 250, fun _ => .ok 0),
    (.receiveOnce (.datagram (wireOf (answerPacket 1)) (.v4 1 9000)) 300, fun _ => .ok 0),
    (.disconnect [], fun _ => .ok 0)]

/-- A client reads an Accept and two ordered packets the wrong way round, which leaves a frame in
the queue, and disconnects: reading that frame connects it again.  And so does a copy of the
Accept, and the second of two answers to one Connect. -/
theorem staysDown_undone :
    (∃ log c, Machine.Run Connection.call (new (.client (.v4 1 9000) 7)) log c ∧
      c.session.connected = false ∧ c.session.lastReceivedAtMs = some 2 ∧
      c.ReadsQueued (.receiveOnce .idle 100) ∧
      (c.receiveOnce .idle 100 fun _ => .ok 0).connection.session.connected = true ∧
      (c.receiveOnce .idle 100 fun _ => .ok 0).connection.session.lastReceivedAtMs = some 100) ∧
    (∃ log c, Machine.Run Connection.call (new (.client (.v4 1 9000) 7)) log c ∧
      c.session.connected = false ∧ Took (new (.client (.v4 1 9000) 7)) log acceptPacket ∧
      acceptPacket.sequence ∈ c.session.receivedSequences ∧
      c.takes? (.receiveOnce (.datagram (wireOf acceptPacket) (.v4 1 9000)) 100) =
        some acceptPacket ∧
      (c.receiveOnce (.datagram (wireOf acceptPacket) (.v4 1 9000)) 100
        fun _ => .ok 0).connection.session.connected = true) ∧
    ∃ log c, Machine.Run Connection.call (new (.client (.v4 1 9000) 7)) log c ∧
      c.session.connected = false ∧
      (∀ connect, ¬ Awaits (new (.client (.v4 1 9000) 7)) log connect) ∧
      ¬ Took (new (.client (.v4 1 9000) 7)) log (answerPacket 2) ∧
      c.takes? (.receiveOnce (.datagram (wireOf (answerPacket 2)) (.v4 1 9000)) 400) =
        some (answerPacket 2) ∧
      (c.receiveOnce (.datagram (wireOf (answerPacket 2)) (.v4 1 9000)) 400
        fun _ => .ok 0).connection.session.connected = true := by
  refine ⟨?_, ?_, ?_⟩
  · have hexec : ((Machine.exec Connection.call (new (.client (.v4 1 9000) 7))
        (readsThenDisconnects [acceptPacket, orderedPacket 3, orderedPacket 2])).any fun r =>
        decide (r.2.session.connected = false ∧ r.2.session.lastReceivedAtMs = some 2 ∧
          r.2.deliveredFrames ≠ [] ∧
          (r.2.receiveOnce .idle 100 fun _ => .ok 0).connection.session.connected = true ∧
          (r.2.receiveOnce .idle 100 fun _ => .ok 0).connection.session.lastReceivedAtMs =
            some 100)) = true := by
      decide +kernel
    obtain ⟨log, c, hrun, -, hcheck⟩ := Machine.Run.of_exec_any hexec
    obtain ⟨hdown, hlast, hqueue, hup, hlast'⟩ := of_decide_eq_true hcheck
    exact ⟨log, c, hrun, hdown, hlast, ⟨hqueue, _, _, rfl⟩, hup, hlast'⟩
  · have hexec : ((Machine.exec Connection.call (new (.client (.v4 1 9000) 7))
        (readsThenDisconnects [acceptPacket])).any fun r =>
        decide (r.2.session.connected = false ∧
          acceptPacket.sequence ∈ r.2.session.receivedSequences ∧
          r.2.takes? (.receiveOnce (.datagram (wireOf acceptPacket) (.v4 1 9000)) 100) =
            some acceptPacket ∧
          (r.2.receiveOnce (.datagram (wireOf acceptPacket) (.v4 1 9000)) 100
            fun _ => .ok 0).connection.session.connected = true)) = true := by
      decide +kernel
    obtain ⟨log, c, hrun, hinputs, hcheck⟩ := Machine.Run.of_exec_any hexec
    obtain ⟨hdown, hreceived, htaken, hup⟩ := of_decide_eq_true hcheck
    refine ⟨log, c, hrun, hdown, ?_, hreceived, htaken, hup⟩
    cases log with
    | nil => cases hinputs
    | cons first rest =>
        simp only [readsThenDisconnects, List.map_cons, List.map_nil, List.cons_append,
          List.nil_append, List.cons.injEq] at hinputs
        refine ⟨[], first.1, first.2, rest, _, rfl, Machine.Run.nil, ?_⟩
        rw [hinputs.1]
        decide +kernel
  · have hexec : ((Machine.exec Connection.call (new (.client (.v4 1 9000) 7))
        answeredThenDisconnects).any fun r =>
        decide (r.2.session.connected = false ∧
          r.2.takes? (.receiveOnce (.datagram (wireOf (answerPacket 2)) (.v4 1 9000)) 400) =
            some (answerPacket 2) ∧
          (r.2.receiveOnce (.datagram (wireOf (answerPacket 2)) (.v4 1 9000)) 400
            fun _ => .ok 0).connection.session.connected = true)) = true := by
      decide +kernel
    obtain ⟨log, c, hrun, hinputs, hcheck⟩ := Machine.Run.of_exec_any hexec
    obtain ⟨hdown, htaken, hup⟩ := of_decide_eq_true hcheck
    refine ⟨log, c, hrun, hdown, ?_, ?_, htaken, hup⟩
    · -- the last call is the `disconnect`
      intro connect
      cases hrun with
      | nil => cases hinputs
      | snoc hrun hstep =>
          have hlast := congrArg List.getLast? hinputs
          simp only [answeredThenDisconnects, List.map_append, List.map_cons, List.map_nil,
            List.getLast?_append, List.getLast?_singleton, List.getLast?_cons_cons,
            Option.some_or, Option.some.injEq] at hlast
          exact not_awaits_of_disconnect (hrun.snoc hstep) (congrArg Prod.fst hlast) connect
    · -- the one datagram before it is the other answer's
      intro htook
      obtain ⟨input, hmem, wire, source, nowMs, hread, hdecode⟩ := htook.read
      rw [hinputs] at hmem
      simp only [answeredThenDisconnects, List.mem_cons, List.not_mem_nil, or_false] at hmem
      rcases hmem with rfl | rfl | rfl | rfl
      · cases hread
      · cases hread
      · cases hread
        revert hdecode
        decide +kernel
      · cases hread

end Connection

end CultNet.Rudp
