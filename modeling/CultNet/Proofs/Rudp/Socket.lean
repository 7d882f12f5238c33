/-
What one call on a connection can do.

A connection touches its session only through the session's own methods, so every
call on it is a short run of session calls (`Drives`): the packets they take in are
those the socket read, the datagrams that go out carry packets they created or
handed out again, and the frames they delivered go through the queue.  Along a run
of the connection that makes a run of the session, and whatever is known of one is
known of the other.
-/
import CultNet.Proofs.Rudp.Channel
import CultNet.Proofs.Rudp.Codec
import CultNet.Rudp.Socket

namespace CultNet.Rudp

/-- Every packet handed out again along a log, in order. -/
def CallLog.resent (log : CallLog) : List Packet := log.flatMap fun entry => entry.2.resent

namespace Connection

/-! ### Sending -/

/-- Sending packets counts bytes and changes nothing else, and what goes out is what was given. -/
structure Sends (c : Connection) (packets : List Packet) (out : Outcome Unit) : Prop where
  connection : ∃ bytesSent, out.connection = { c with stats := { c.stats with bytesSent } }
  sent : ∀ d ∈ out.sent, ∃ p ∈ packets, encodeRudpPacket p = .ok d.wire
  fault : ∀ fault, out.result = .error fault → ∃ message, fault = .error message

theorem Sends.kept {c : Connection} {packets : List Packet} {out : Outcome Unit}
    (h : c.Sends packets out) :
    out.connection.session = c.session ∧ out.connection.mode = c.mode ∧
      out.connection.stats.framesReceived = c.stats.framesReceived ∧
      out.connection.deliveredFrames = c.deliveredFrames := by
  obtain ⟨bytesSent, heq⟩ := h.connection
  rw [heq]
  exact ⟨rfl, rfl, rfl, rfl⟩

theorem sendPacket_sends (c : Connection) (packet : Packet) (sendTo : Except String Nat) :
    c.Sends [packet] (c.sendPacket packet sendTo) := by
  unfold sendPacket
  split
  · refine ⟨⟨c.stats.bytesSent, rfl⟩, fun d hd => (by cases hd), fun fault h => ?_⟩
    cases h
    exact ⟨_, rfl⟩
  · split
    · refine ⟨⟨c.stats.bytesSent, rfl⟩, fun d hd => (by cases hd), fun fault h => ?_⟩
      cases h
      exact ⟨_, rfl⟩
    · rename_i wire hencode
      split
      · refine ⟨⟨c.stats.bytesSent, rfl⟩, fun d hd => (by cases hd), fun fault h => ?_⟩
        cases h
        exact ⟨_, rfl⟩
      · refine ⟨⟨_, rfl⟩, fun d hd => ?_, fun fault h => by cases h⟩
        rw [List.mem_singleton.mp hd]
        exact ⟨packet, List.mem_singleton_self _, hencode⟩

theorem sendPackets_sends (sendTo : SendTo) (packets : List Packet) :
    ∀ (c : Connection) (index : Nat), c.Sends packets (c.sendPackets sendTo index packets) := by
  induction packets with
  | nil =>
      intro c index
      exact ⟨⟨c.stats.bytesSent, rfl⟩, fun d hd => (by cases hd), fun fault h => by cases h⟩
  | cons packet rest ih =>
      intro c index
      have hfirst := sendPacket_sends c packet (sendTo index)
      unfold sendPackets
      dsimp only
      split
      · rename_i fault hfault
        refine ⟨hfirst.connection, fun d hd => ?_, fun fault' h => ?_⟩
        · obtain ⟨p, hp, hencode⟩ := hfirst.sent d hd
          exact ⟨p, by rw [List.mem_singleton.mp hp]; exact List.mem_cons_self, hencode⟩
        · cases h
          exact hfirst.fault fault hfault
      · have hothers := ih (c.sendPacket packet (sendTo index)).connection (index + 1)
        refine ⟨?_, fun d hd => ?_, hothers.fault⟩
        · obtain ⟨bytesSent, heq⟩ := hfirst.connection
          obtain ⟨bytesSent', heq'⟩ := hothers.connection
          refine ⟨bytesSent', ?_⟩
          rw [heq', heq]
        · rcases List.mem_append.mp hd with hd | hd
          · obtain ⟨p, hp, hencode⟩ := hfirst.sent d hd
            exact ⟨p, by rw [List.mem_singleton.mp hp]; exact List.mem_cons_self, hencode⟩
          · obtain ⟨p, hp, hencode⟩ := hothers.sent d hd
            exact ⟨p, List.mem_cons_of_mem _ hp, hencode⟩

/-- Where the socket sends everything, a packet that can be encoded goes out. -/
theorem sendPackets_singleton {c : Connection} {sendTo : SendTo} {remoteAddr : SocketAddr}
    {packet : Packet} {wire : List UInt8} (hremote : c.remoteAddr = some remoteAddr)
    (hencode : encodeRudpPacket packet = .ok wire) (index : Nat)
    (hsend : ∃ n, sendTo index = .ok n) :
    (c.sendPackets sendTo index [packet]).result = .ok () ∧
      (c.sendPackets sendTo index [packet]).sent = [{ wire, destination := remoteAddr }] := by
  obtain ⟨n, hn⟩ := hsend
  unfold sendPackets sendPackets sendPacket
  rw [hremote]
  dsimp only
  rw [hencode]
  dsimp only
  rw [hn]
  exact ⟨rfl, rfl⟩

/-! ### A call as a run of session calls -/

/-- What a call that takes in the packet `taken` did, as the session calls `log`. -/
structure Drives (c : Connection) (taken : Option Packet) (out : ConnectionOutput)
    (c' : Connection) (log : CallLog) : Prop where
  run : Machine.Run Session.call c.session log c'.session
  mode : c'.mode = c.mode
  received : c'.stats.framesReceived = c.stats.framesReceived + log.delivered.length
  /-- The frames pass through the queue in order; one whose acknowledgement cannot be sent is
  lost. -/
  frames : (out.frame.toList ++ c'.deliveredFrames).Sublist
    (c.deliveredFrames ++ log.delivered.map transportFrame)
  sent : ∀ d ∈ out.sent, ∃ p, (p ∈ log.created ∨ p ∈ log.resent) ∧ encodeRudpPacket p = .ok d.wire
  inputs : ∀ entry ∈ log, ∀ p, entry.1.input? = some p → taken = some p
  /-- A packet is received first of all. -/
  receives : ∀ before entry after, log = before ++ entry :: after →
    ∀ p nowMs, entry.1 = .receive p nowMs → before = []
  /-- A reset comes first, and only a Connect makes a server reset. -/
  resets : ∀ before entry after, log = before ++ entry :: after → entry.1 = .resetPeerState →
    before = [] ∧ c.mode = .server ∧ ∃ p, taken = some p ∧ p.packetType = .connect

/-- A call that leaves the frames alone and takes in nothing. -/
theorem Drives.one (call : Call) {c c' : Connection} {taken : Option Packet}
    {out : ConnectionOutput} {o : Output} (hcall : c.session.call call = some (o, c'.session))
    (hinput : call.input? = none) (hreset : call ≠ .resetPeerState) (hdelivered : o.delivered = [])
    (hmode : c'.mode = c.mode) (hstats : c'.stats.framesReceived = c.stats.framesReceived)
    (hframes : (out.frame.toList ++ c'.deliveredFrames).Sublist c.deliveredFrames)
    (hsent : ∀ d ∈ out.sent, ∃ p, (p ∈ o.created ∨ p ∈ o.resent) ∧
      encodeRudpPacket p = .ok d.wire) : c.Drives taken out c' [(call, o)] where
  run := (Machine.Run.nil.snoc hcall :
    Machine.Run Session.call c.session ([] ++ [(call, o)]) c'.session)
  mode := hmode
  received := by
    rw [hstats]
    simp [CallLog.delivered, hdelivered]
  frames := by
    simpa [CallLog.delivered, hdelivered] using hframes
  sent := by
    simpa [CallLog.created, CallLog.resent] using hsent
  inputs := by
    intro entry hentry p hp
    rw [List.mem_singleton.mp hentry, hinput] at hp
    cases hp
  receives := by
    intro before entry after hlog p nowMs hentry
    cases before with
    | nil => rfl
    | cons first rest => simp at hlog
  resets := by
    intro before entry after hlog hentry
    cases before with
    | nil =>
        simp only [List.nil_append, List.cons.injEq] at hlog
        rw [← hlog.1] at hentry
        exact absurd hentry hreset
    | cons first rest => simp at hlog

/-- A call that does not reach the session. -/
theorem Drives.none {c c' : Connection} {taken : Option Packet} {out : ConnectionOutput}
    (hsession : c'.session = c.session) (hmode : c'.mode = c.mode)
    (hstats : c'.stats.framesReceived = c.stats.framesReceived)
    (hframes : (out.frame.toList ++ c'.deliveredFrames).Sublist c.deliveredFrames)
    (hsent : out.sent = []) : c.Drives taken out c' [] where
  run := by
    rw [hsession]
    exact Machine.Run.nil
  mode := hmode
  received := hstats
  frames := by
    simpa [CallLog.delivered] using hframes
  sent := by
    intro d hd
    rw [hsent] at hd
    cases hd
  inputs := by
    intro entry hentry
    cases hentry
  receives := by
    intro before entry after hlog
    simp at hlog
  resets := by
    intro before entry after hlog
    simp at hlog

theorem toStep_some {α : Type} {frame : α → Option TransportFrame} {out : Outcome α}
    {o : ConnectionOutput} {c' : Connection} (h : out.toStep frame = some (o, c')) :
    c' = out.connection ∧ o.sent = out.sent ∧
      ((∃ a, out.result = .ok a ∧ o.frame = frame a) ∨
        ∃ message, out.result = .error (.error message) ∧ o.frame = Option.none) := by
  unfold Outcome.toStep at h
  split at h
  · rename_i a hresult
    cases h
    exact ⟨rfl, rfl, Or.inl ⟨a, hresult, rfl⟩⟩
  · rename_i message hresult
    cases h
    exact ⟨rfl, rfl, Or.inr ⟨message, hresult, rfl⟩⟩
  · cases h

/-- A step that returns has not panicked. -/
theorem toStep_not_panic {α : Type} {frame : α → Option TransportFrame} {out : Outcome α}
    {o : ConnectionOutput} {c' : Connection} (h : out.toStep frame = some (o, c')) :
    ∀ message, out.result ≠ .error (.panic message) := by
  obtain ⟨-, -, hresult⟩ := toStep_some h
  intro message hpanic
  rcases hresult with ⟨_, hok, _⟩ | ⟨_, herror, _⟩
  · rw [hok] at hpanic
    cases hpanic
  · rw [herror] at hpanic
    cases hpanic

/-- A step that does not end with a frame brings none out. -/
theorem toStep_frame_none {α : Type} {frame : α → Option TransportFrame} {out : Outcome α}
    {o : ConnectionOutput} {c' : Connection} (h : out.toStep frame = some (o, c'))
    (hnone : ∀ a, out.result = .ok a → frame a = Option.none) : o.frame = Option.none := by
  obtain ⟨-, -, ⟨a, hok, hframe⟩ | ⟨_, -, hframe⟩⟩ := toStep_some h
  · rw [hframe]
    exact hnone a hok
  · exact hframe

/-- A step of a method that returns no frame. -/
theorem toStep_silent {out : Outcome Unit} {o : ConnectionOutput} {c' : Connection}
    (h : out.toStep (fun _ => Option.none) = some (o, c')) :
    c' = out.connection ∧ o.sent = out.sent ∧ o.frame = Option.none ∧
      ∀ message, out.result ≠ .error (.panic message) := by
  obtain ⟨hconnection, hsent, -⟩ := toStep_some h
  exact ⟨hconnection, hsent, toStep_frame_none h fun _ _ => rfl, toStep_not_panic h⟩

/-- A session call that creates one packet, and the packet on its way. -/
theorem sendCreated_session {c : Connection} {sendTo : SendTo} {call : Call}
    {r : Except Fault Packet × Session}
    (hcall : c.session.call call = toStep (fun packet => { created := [packet] }) r)
    (hpanic : ∀ message, (c.sendCreated sendTo r).result ≠ .error (.panic message)) :
    ∃ o : Output, c.session.call call = some (o, (c.sendCreated sendTo r).connection.session) ∧
      o.delivered = [] ∧
      (∃ session bytesSent, (c.sendCreated sendTo r).connection
        = { c with session, stats := { c.stats with bytesSent } }) ∧
      ∀ d ∈ (c.sendCreated sendTo r).sent, ∃ p ∈ o.created, encodeRudpPacket p = .ok d.wire := by
  obtain ⟨result, session⟩ := r
  cases result with
  | error fault =>
      cases fault with
      | error message =>
          refine ⟨{ failure := some message }, ?_, rfl, ⟨session, c.stats.bytesSent, rfl⟩, ?_⟩
          · rw [hcall]
            rfl
          · intro d hd
            cases hd
      | panic message => exact absurd rfl (hpanic message)
  | ok packet =>
      have hsends := sendPackets_sends sendTo [packet] { c with session } 0
      obtain ⟨bytesSent, heq⟩ := hsends.connection
      refine ⟨{ created := [packet] }, ?_, rfl, ⟨session, bytesSent, heq⟩, hsends.sent⟩
      rw [hcall]
      show some ((_ : Output), session) = some (_, (Connection.sendPackets _ sendTo 0 [packet]).connection.session)
      rw [heq]

/-- A call after which the connection only wrote what the call created. -/
theorem Drives.wrote (call : Call) {c c' : Connection} {taken : Option Packet}
    {out : ConnectionOutput} {o : Output} (hcall : c.session.call call = some (o, c'.session))
    (hinput : call.input? = Option.none) (hreset : call ≠ .resetPeerState)
    (hdelivered : o.delivered = [])
    (hmode : c'.mode = c.mode) (hstats : c'.stats.framesReceived = c.stats.framesReceived)
    (hframes : c'.deliveredFrames = c.deliveredFrames) (hframe : out.frame = Option.none)
    (hsent : ∀ d ∈ out.sent, ∃ p ∈ o.created, encodeRudpPacket p = .ok d.wire) :
    c.Drives taken out c' [(call, o)] := by
  refine Drives.one call hcall hinput hreset hdelivered hmode hstats ?_ ?_
  · rw [hframe, hframes]
    exact List.Sublist.refl _
  · intro d hd
    obtain ⟨p, hp, hencode⟩ := hsent d hd
    exact ⟨p, Or.inl hp, hencode⟩

/-- Methods that create one packet and send it. -/
theorem Drives.created (call : Call) {c c' : Connection} {taken : Option Packet}
    {sendTo : SendTo} {r : Except Fault Packet × Session} {out : ConnectionOutput}
    (h : (c.sendCreated sendTo r).toStep (fun _ => Option.none) = some (out, c'))
    (hcall : c.session.call call = toStep (fun packet => { created := [packet] }) r)
    (hinput : call.input? = Option.none) (hreset : call ≠ .resetPeerState) :
    ∃ log, c.Drives taken out c' log := by
  obtain ⟨rfl, hsent, hframe, hpanic⟩ := toStep_silent h
  obtain ⟨o, hstep, hdelivered, ⟨session, bytesSent, heq⟩, hwires⟩ :=
    sendCreated_session hcall hpanic
  refine ⟨_, Drives.wrote call hstep hinput hreset hdelivered (by rw [heq]) (by rw [heq])
    (by rw [heq]) hframe ?_⟩
  rw [hsent]
  exact hwires

theorem send_drives {c c' : Connection} {channelId : String} {payload : List UInt8}
    {nowMs : Nat} {sendTo : SendTo} {out : ConnectionOutput}
    (h : (c.send channelId payload nowMs sendTo).toStep (fun _ => Option.none) = some (out, c')) :
    ∃ log, c.Drives none out c' log := by
  obtain ⟨rfl, hsent, hframe, hpanic⟩ := toStep_silent h
  have hcall : c.session.call (.sendMany channelId payload (c.channelSendOptions channelId nowMs)
      c.maxFragmentBytes) = toStep (fun packets => { created := packets })
        (c.session.sendMany channelId payload (c.channelSendOptions channelId nowMs)
          c.maxFragmentBytes) := rfl
  unfold send at hsent hpanic ⊢
  generalize c.session.sendMany channelId payload (c.channelSendOptions channelId nowMs)
    c.maxFragmentBytes = r at hcall hsent hpanic ⊢
  obtain ⟨result, session⟩ := r
  cases result with
  | error fault =>
      cases fault with
      | error message =>
          have hdrives : c.Drives none out { c with session }
              [(.sendMany channelId payload (c.channelSendOptions channelId nowMs)
                c.maxFragmentBytes, { failure := some message })] := by
            refine Drives.wrote _ hcall rfl (fun hc => by cases hc) rfl rfl rfl rfl hframe ?_
            intro d hd
            rw [hsent] at hd
            cases hd
          exact ⟨_, hdrives⟩
      | panic message => exact absurd rfl (hpanic message)
  | ok packets =>
      have hsends := sendPackets_sends sendTo packets { c with session } 0
      obtain ⟨bytesSent, heq⟩ := hsends.connection
      dsimp only at hsent hpanic ⊢
      generalize Connection.sendPackets { c with session } sendTo 0 packets = sends
        at hsends heq hsent hpanic ⊢
      have hstep : ∀ u : Connection, u.session = session → c.session.call
          (.sendMany channelId payload (c.channelSendOptions channelId nowMs) c.maxFragmentBytes)
            = some ({ created := packets }, u.session) := by
        intro u hu
        rw [hcall, hu]
        rfl
      split at hsent
      · refine ⟨_, Drives.wrote _ (hstep _ (by rw [heq])) rfl (fun hc => by cases hc) rfl
          (by rw [heq]) (by rw [heq]) (by rw [heq]) hframe ?_⟩
        rw [hsent]
        exact hsends.sent
      · refine ⟨_, Drives.wrote _ (hstep _ (by rw [heq])) rfl (fun hc => by cases hc) rfl
          (by rw [heq]) (by rw [heq]) (by rw [heq]) hframe ?_⟩
        rw [hsent]
        exact hsends.sent

/-- The acknowledgement, if there is one. -/
structure Acknowledges (c : Connection) (frame : Option TransportFrame)
    (out : Outcome (Option TransportFrame)) (acks : CallLog) : Prop where
  run : Machine.Run Session.call c.session acks out.connection.session
  calls : ∀ entry ∈ acks, entry.1 = .createAck
  none : acks.delivered = []
  connection : ∃ session bytesSent,
    out.connection = { c with session, stats := { c.stats with bytesSent } }
  result : ∀ a, out.result = .ok a → a = frame
  sent : ∀ d ∈ out.sent, ∃ p ∈ acks.created, encodeRudpPacket p = .ok d.wire

theorem acknowledge_acknowledges {c : Connection} {packet : Packet}
    {frame : Option TransportFrame} {sendTo : SendTo} {index : Nat}
    (hpanic : ∀ message,
      (c.acknowledge packet frame sendTo index).result ≠ .error (.panic message)) :
    ∃ acks, c.Acknowledges frame (c.acknowledge packet frame sendTo index) acks := by
  unfold acknowledge at hpanic ⊢
  by_cases hanswer : packet.packetType = .accept ∨ frame.isSome
  · rw [if_pos hanswer] at hpanic ⊢
    have hcall : c.session.call .createAck
        = toStep (fun packet => { created := [packet] }) c.session.createAck := rfl
    generalize c.session.createAck = r at hcall hpanic ⊢
    obtain ⟨result, session⟩ := r
    cases result with
    | error fault =>
        cases fault with
        | panic message => exact absurd rfl (hpanic message)
        | error message =>
            refine ⟨[] ++ [(.createAck, { failure := some message })], Machine.Run.nil.snoc hcall,
              ?_, rfl, ⟨session, c.stats.bytesSent, rfl⟩, fun a ha => (by cases ha),
              fun d hd => (by cases hd)⟩
            intro entry hentry
            rw [List.nil_append, List.mem_singleton] at hentry
            rw [hentry]
    | ok ack =>
        have hsends := sendPackets_sends sendTo [ack] { c with session } index
        dsimp only
        generalize Connection.sendPackets { c with session } sendTo index [ack] = sends at hsends ⊢
        obtain ⟨bytesSent, heq⟩ := hsends.connection
        refine ⟨[] ++ [(.createAck, { created := [ack] })], ?_, ?_, rfl,
          ⟨session, bytesSent, heq⟩, ?_, ?_⟩
        · rw [heq]
          exact Machine.Run.nil.snoc hcall
        · intro entry hentry
          rw [List.nil_append, List.mem_singleton] at hentry
          rw [hentry]
        · intro a ha
          cases hr : sends.result with
          | error fault =>
              rw [hr] at ha
              cases ha
          | ok _ =>
              rw [hr] at ha
              cases ha
              rfl
        · exact hsends.sent
  · rw [if_neg hanswer]
    refine ⟨[], Machine.Run.nil, fun entry hentry => (by cases hentry), rfl,
      ⟨c.session, c.stats.bytesSent, rfl⟩, ?_, fun d hd => (by cases hd)⟩
    intro a ha
    cases ha
    rfl

/-- Replacing the address and counting bytes does not matter to what a call drives. -/
theorem Drives.congr {c t c' : Connection} {taken : Option Packet} {out : ConnectionOutput}
    {log : CallLog} (h : t.Drives taken out c' log) (hsession : t.session = c.session)
    (hmode : t.mode = c.mode) (hstats : t.stats.framesReceived = c.stats.framesReceived)
    (hqueue : t.deliveredFrames = c.deliveredFrames) : c.Drives taken out c' log where
  run := by
    rw [← hsession]
    exact h.run
  mode := h.mode.trans hmode
  received := by
    rw [← hstats]
    exact h.received
  frames := by
    rw [← hqueue]
    exact h.frames
  sent := h.sent
  inputs := h.inputs
  receives := h.receives
  resets := by
    intro before entry after hlog hentry
    obtain ⟨hbefore, hserver, htaken⟩ := h.resets before entry after hlog hentry
    exact ⟨hbefore, hmode.symm.trans hserver, htaken⟩

/-- A packet handed to `receive`, and perhaps an acknowledgement after it. -/
theorem Drives.receive {c c' : Connection} {t : Session} {taken : Option Packet}
    {packet : Packet} {nowMs : Nat} {o : Output} {acks : CallLog} {out : ConnectionOutput}
    (hcall : c.session.call (.receive packet nowMs) = some (o, t))
    (hacks : Machine.Run Session.call t acks c'.session)
    (hcalls : ∀ entry ∈ acks, entry.1 = .createAck) (hnone : acks.delivered = [])
    (htaken : taken = some packet) (hmode : c'.mode = c.mode)
    (hstats : c'.stats.framesReceived = c.stats.framesReceived + o.delivered.length)
    (hframes : (out.frame.toList ++ c'.deliveredFrames).Sublist
      (c.deliveredFrames ++ o.delivered.map transportFrame))
    (hsent : ∀ d ∈ out.sent, ∃ p, (p ∈ o.created ∨ p ∈ acks.created) ∧
      encodeRudpPacket p = .ok d.wire) :
    c.Drives taken out c' ((.receive packet nowMs, o) :: acks) := by
  have hentries : ∀ entry ∈ (Call.receive packet nowMs, o) :: acks,
      entry.1 = .receive packet nowMs ∨ entry.1 = .createAck := by
    intro entry hentry
    rcases List.mem_cons.mp hentry with rfl | hentry
    · exact Or.inl rfl
    · exact Or.inr (hcalls entry hentry)
  have hdelivered : CallLog.delivered ((Call.receive packet nowMs, o) :: acks) = o.delivered := by
    have hsplit : CallLog.delivered ((Call.receive packet nowMs, o) :: acks)
        = o.delivered ++ acks.delivered := rfl
    rw [hsplit, hnone, List.append_nil]
  refine ⟨Machine.Run.cons hcall hacks, hmode, ?_, ?_, ?_, ?_, ?_, ?_⟩
  · rw [hdelivered]
    exact hstats
  · rw [hdelivered]
    exact hframes
  · intro d hd
    obtain ⟨p, hp, hencode⟩ := hsent d hd
    exact ⟨p, Or.inl (List.mem_append.mpr hp), hencode⟩
  · intro entry hentry p hp
    rcases hentries entry hentry with heq | heq
    · rw [heq] at hp
      cases hp
      exact htaken
    · rw [heq] at hp
      cases hp
  · intro before entry after hlog p nowMs' hentry
    cases before with
    | nil => rfl
    | cons first rest =>
        simp only [List.cons_append, List.cons.injEq] at hlog
        have hack := hcalls entry (by
          rw [hlog.2]
          exact List.mem_append.mpr (Or.inr List.mem_cons_self))
        rw [hack] at hentry
        cases hentry
  · intro before entry after hlog hreset
    have hmem : entry ∈ (Call.receive packet nowMs, o) :: acks := by
      rw [hlog]
      exact List.mem_append.mpr (Or.inr List.mem_cons_self)
    rcases hentries entry hmem with heq | heq
    · rw [heq] at hreset
      cases hreset
    · rw [heq] at hreset
      cases hreset

/-- Only a Data packet delivers, and it is neither answered nor taken for a Disconnect. -/
theorem receive_result {s s' : Session} {packet : Packet} {nowMs : Nat} {result : ReceiveResult}
    (h : s.receive packet nowMs = (.ok result, s')) :
    result.delivered = [] ∨ result.reply = Option.none ∧ result.disconnected = false := by
  by_cases hid : packet.connectionId = s.connectionId
  · by_cases htype : packet.packetType = .data
    · right
      rw [Session.receive_data nowMs hid htype] at h
      unfold Session.receiveData at h
      dsimp only at h
      repeat' split at h
      all_goals first | (cases h; exact ⟨rfl, rfl⟩) | cases h
    · exact Or.inl (Session.receive_control hid htype h).1
  · obtain ⟨message, hforeign⟩ := Session.receive_foreign nowMs hid
    rw [hforeign] at h
    cases h

/-- What goes out of the queue is its head, if anything goes out. -/
theorem queue_sublist {frame : Option TransportFrame} {queue : List TransportFrame}
    (h : ∀ f, frame = some f → queue.head? = some f) :
    (frame.toList ++ queue.tail).Sublist queue := by
  cases frame with
  | none => exact List.tail_sublist queue
  | some f =>
      cases queue with
      | nil => cases h f rfl
      | cons head tail =>
          cases h f rfl
          exact List.Sublist.refl _

/-- A packet handed to `receive` that brings out nothing. -/
theorem Drives.silent {c c' : Connection} {taken : Option Packet} {packet : Packet} {nowMs : Nat}
    {o : Output} {out : ConnectionOutput}
    (hcall : c.session.call (.receive packet nowMs) = some (o, c'.session))
    (htaken : taken = some packet) (hnone : o.delivered = []) (hmode : c'.mode = c.mode)
    (hstats : c'.stats.framesReceived = c.stats.framesReceived)
    (hqueue : c'.deliveredFrames = c.deliveredFrames) (hframe : out.frame = Option.none)
    (hsent : ∀ d ∈ out.sent, ∃ p ∈ o.created, encodeRudpPacket p = .ok d.wire) :
    c.Drives taken out c' [(.receive packet nowMs, o)] := by
  have hnoacks : ∀ entry ∈ ([] : CallLog), entry.1 = .createAck := by
    intro entry hentry
    cases hentry
  refine Drives.receive hcall Machine.Run.nil hnoacks rfl htaken hmode ?_ ?_ ?_
  · rw [hstats, hnone]
    rfl
  · rw [hframe, hqueue, hnone]
    simp
  · intro d hd
    obtain ⟨p, hp, hencode⟩ := hsent d hd
    exact ⟨p, Or.inl hp, hencode⟩

/-- What was delivered is queued, the head of the queue comes out and is acknowledged. -/
theorem Drives.returned {c t c' : Connection} {taken : Option Packet} {packet : Packet}
    {nowMs : Nat} {o : Output} {replied : List Datagram} {sendTo : SendTo} {index : Nat}
    {out : ConnectionOutput}
    (hcall : c.session.call (.receive packet nowMs) = some (o, t.session))
    (htaken : taken = some packet) (hmode : t.mode = c.mode)
    (hstats : t.stats.framesReceived = c.stats.framesReceived)
    (hqueue : t.deliveredFrames = c.deliveredFrames)
    (hreplied : ∀ d ∈ replied, ∃ p ∈ o.created, encodeRudpPacket p = .ok d.wire)
    {acked : Outcome (Option TransportFrame)}
    (hacked : acked = Connection.acknowledge { t.enqueue o.delivered with
      deliveredFrames := (t.enqueue o.delivered).deliveredFrames.tail } packet
      (t.enqueue o.delivered).deliveredFrames.head? sendTo index)
    (h : Outcome.toStep id { acked with sent := replied ++ acked.sent } = some (out, c')) :
    ∃ log, c.Drives taken out c' log := by
  have hpanic := toStep_not_panic h
  obtain ⟨rfl, hsent, hresult⟩ := toStep_some h
  dsimp only at hpanic hsent hresult ⊢
  rw [hacked] at hpanic
  obtain ⟨acks, hacks⟩ := acknowledge_acknowledges hpanic
  rw [← hacked] at hacks
  obtain ⟨session, bytesSent, heq⟩ := hacks.connection
  refine ⟨_, Drives.receive hcall hacks.run hacks.calls hacks.none htaken ?_ ?_ ?_ ?_⟩
  · rw [heq]
    exact hmode
  · rw [heq]
    show t.stats.framesReceived + o.delivered.length = _
    rw [hstats]
  · rw [heq]
    show (out.frame.toList ++ (t.enqueue o.delivered).deliveredFrames.tail).Sublist
      (c.deliveredFrames ++ o.delivered.map transportFrame)
    rw [← hqueue]
    refine queue_sublist fun f hf => ?_
    rcases hresult with ⟨a, hok, hframe⟩ | ⟨_, _, hframe⟩
    · rw [hf] at hframe
      rw [← hacks.result a hok]
      exact hframe.symm
    · rw [hf] at hframe
      cases hframe
  · intro d hd
    rw [hsent] at hd
    rcases List.mem_append.mp hd with hd | hd
    · obtain ⟨p, hp, hencode⟩ := hreplied d hd
      exact ⟨p, Or.inl hp, hencode⟩
    · obtain ⟨p, hp, hencode⟩ := hacks.sent d hd
      exact ⟨p, Or.inr hp, hencode⟩

/-- A packet that the session receives: a reply, a Disconnect or frames to return. -/
theorem handlePacket_drives {c c' : Connection} {taken : Option Packet} {packet : Packet}
    {nowMs : Nat} {sendTo : SendTo} {out : ConnectionOutput}
    (h : (c.handlePacket packet nowMs sendTo).toStep id = some (out, c'))
    (htaken : taken = some packet) : ∃ log, c.Drives taken out c' log := by
  have hcall : c.session.call (.receive packet nowMs) = toStep (fun result : ReceiveResult =>
      { created := result.reply.toList, delivered := result.delivered })
      (c.session.receive packet nowMs) := rfl
  have hresult : ∀ result session, c.session.receive packet nowMs = (.ok result, session) →
      result.delivered = [] ∨ result.reply = Option.none ∧ result.disconnected = false :=
    fun result session => receive_result
  unfold handlePacket at h
  generalize c.session.receive packet nowMs = r at h hcall hresult
  obtain ⟨result, session⟩ := r
  cases result with
  | error fault =>
      obtain ⟨rfl, hsent, hfailed⟩ := toStep_some h
      rcases hfailed with ⟨_, hok, _⟩ | ⟨message, herror, hframe⟩
      · cases hok
      · cases herror
        refine ⟨_, Drives.silent hcall htaken rfl rfl rfl rfl hframe fun d hd => ?_⟩
        rw [hsent] at hd
        cases hd
  | ok result =>
      have hdelivers := hresult result session rfl
      have hsends := sendPackets_sends sendTo result.reply.toList { c with session } 0
      have hnoreply : result.reply = Option.none →
          (Connection.sendPackets { c with session } sendTo 0 result.reply.toList).result
            = .ok () := by
        intro hreply
        rw [hreply]
        rfl
      dsimp only at h
      generalize Connection.sendPackets { c with session } sendTo 0 result.reply.toList = replied
        at h hsends hnoreply
      obtain ⟨hsession, hmode, hstats, hqueue⟩ := hsends.kept
      cases hreplied : replied.result with
      | error fault =>
          rw [hreplied] at h
          have hframe := toStep_frame_none h fun _ hok => by cases hok
          obtain ⟨rfl, hsent, -⟩ := toStep_some h
          -- what is answered delivers nothing
          have hnone : result.delivered = [] := by
            rcases hdelivers with hnone | ⟨hreply, -⟩
            · exact hnone
            · rw [hnoreply hreply] at hreplied
              cases hreplied
          have hstep : c.session.call (.receive packet nowMs)
              = some ({ created := result.reply.toList, delivered := result.delivered },
                replied.connection.session) := by
            rw [hsession]
            exact hcall
          refine ⟨_, Drives.silent hstep htaken hnone hmode hstats hqueue hframe ?_⟩
          rw [hsent]
          exact hsends.sent
      | ok _ =>
          rw [hreplied] at h
          dsimp only at h
          generalize hpong : (if result.pong then { replied.connection with
            pongPayloads := replied.connection.pongPayloads ++ [result.pongPayload] }
            else replied.connection) = t at h
          -- remembering a pong changes nothing that matters here
          obtain ⟨rfl, hmode, hstats, hqueue⟩ : t.session = session ∧ t.mode = c.mode ∧
              t.stats.framesReceived = c.stats.framesReceived ∧
              t.deliveredFrames = c.deliveredFrames := by
            rw [← hpong]
            split <;> exact ⟨hsession, hmode, hstats, hqueue⟩
          by_cases hdisconnected : result.disconnected = true
          · rw [if_pos hdisconnected] at h
            have hframe := toStep_frame_none h fun _ hok => by cases hok; rfl
            obtain ⟨rfl, hsent, -⟩ := toStep_some h
            have hnone : result.delivered = [] := by
              rcases hdelivers with hnone | ⟨-, hconnected⟩
              · exact hnone
              · rw [hconnected] at hdisconnected
                cases hdisconnected
            refine ⟨_, Drives.silent hcall htaken hnone hmode hstats hqueue hframe ?_⟩
            rw [hsent]
            exact hsends.sent
          · rw [if_neg hdisconnected] at h
            exact Drives.returned hcall htaken hmode hstats hqueue hsends.sent rfl h

/-- `sendCreated` on a connection whose session was reset, with no frame to return. -/
theorem handleConnect_toStep (c : Connection) (packet : Packet) (nowMs : Nat) (sendTo : SendTo) :
    (c.handleConnect packet nowMs sendTo).toStep id
      = (Connection.sendCreated { c with session := c.session.resetPeerState } sendTo
          (c.session.resetPeerState.acceptConnect packet nowMs [])).toStep
            fun _ => Option.none := by
  have hreset : ∀ r, c.sendCreated sendTo r
      = { c with session := c.session.resetPeerState }.sendCreated sendTo r := by
    rintro ⟨result, session⟩
    cases result with
    | error fault => rfl
    | ok created => rfl
  unfold handleConnect
  dsimp only
  rw [hreset]
  generalize Connection.sendCreated { c with session := c.session.resetPeerState } sendTo
    (c.session.resetPeerState.acceptConnect packet nowMs []) = sends
  unfold Outcome.toStep
  dsimp only
  cases sends.result with
  | ok _ => rfl
  | error fault => cases fault <;> rfl

/-- A Connect that a server reads: the session is reset and the Connect accepted or refused. -/
theorem handleConnect_drives {c c' : Connection} {taken : Option Packet} {packet : Packet}
    {nowMs : Nat} {sendTo : SendTo} {out : ConnectionOutput}
    (h : (c.handleConnect packet nowMs sendTo).toStep id = some (out, c'))
    (htaken : taken = some packet) (hmode : c.mode = .server)
    (htype : packet.packetType = .connect) : ∃ log, c.Drives taken out c' log := by
  rw [handleConnect_toStep] at h
  obtain ⟨rfl, hsent, hframe, hpanic⟩ := toStep_silent h
  have hcall : ({ c with session := c.session.resetPeerState } : Connection).session.call
      (.acceptConnect packet nowMs []) = toStep (fun response => { created := [response] })
        (c.session.resetPeerState.acceptConnect packet nowMs []) := rfl
  obtain ⟨o, hstep, hdelivered, ⟨session, bytesSent, heq⟩, hwires⟩ :=
    sendCreated_session hcall hpanic
  have hnone : CallLog.delivered [(Call.resetPeerState, {}), (.acceptConnect packet nowMs [], o)]
      = [] := by
    simp [CallLog.delivered, hdelivered]
  have hentries : ∀ entry ∈ [(Call.resetPeerState, ({} : Output)),
      (.acceptConnect packet nowMs [], o)],
      entry.1 = .resetPeerState ∨ entry.1 = .acceptConnect packet nowMs [] := by
    intro entry hentry
    rcases List.mem_cons.mp hentry with rfl | hentry
    · exact Or.inl rfl
    · rw [List.mem_singleton.mp hentry]
      exact Or.inr rfl
  have hfirst : c.session.call .resetPeerState = some ({}, c.session.resetPeerState) := rfl
  refine ⟨[(.resetPeerState, {}), (.acceptConnect packet nowMs [], o)],
    Machine.Run.cons hfirst (Machine.Run.nil.cons hstep), ?_, ?_, ?_, ?_, ?_, ?_, ?_⟩
  · rw [heq]
  · rw [heq, hnone]
    rfl
  · rw [heq, hnone, hframe]
    simp
  · intro d hd
    rw [hsent] at hd
    obtain ⟨p, hp, hencode⟩ := hwires d hd
    refine ⟨p, Or.inl ?_, hencode⟩
    simpa [CallLog.created] using hp
  · intro entry hentry p hp
    rcases hentries entry hentry with heq | heq
    · rw [heq] at hp
      cases hp
    · rw [heq] at hp
      cases hp
      exact htaken
  · intro before entry after hlog p nowMs' hentry
    have hmem : entry ∈ before ++ entry :: after :=
      List.mem_append.mpr (Or.inr List.mem_cons_self)
    rw [← hlog] at hmem
    rcases hentries entry hmem with heq | heq
    · rw [heq] at hentry
      cases hentry
    · rw [heq] at hentry
      cases hentry
  · intro before entry after hlog hentry
    cases before with
    | nil => exact ⟨rfl, hmode, packet, htaken, htype⟩
    | cons first rest =>
        cases rest with
        | nil =>
            simp only [List.cons_append, List.nil_append, List.cons.injEq] at hlog
            rw [← hlog.2.1] at hentry
            cases hentry
        | cons second rest => simp at hlog

/-- What a connection goes on with after `bindRemote` differs in the address only. -/
theorem bindRemote_some {c t : Connection} {packet : Packet} {source : SocketAddr}
    (h : c.bindRemote packet source = some t) :
    ∃ remoteAddr, t = { c with remoteAddr } := by
  unfold bindRemote at h
  split at h
  · split at h
    · split at h
      · cases h
        exact ⟨_, rfl⟩
      · cases h
    · cases h
      exact ⟨_, rfl⟩
  · split at h
    · cases h
    · cases h
      exact ⟨_, rfl⟩

/-- Counting bytes does not matter to where packets are taken from. -/
theorem bindRemote_countReceived (c : Connection) (received : Nat) (packet : Packet)
    (source : SocketAddr) : (c.countReceived received).bindRemote packet source
      = (c.bindRemote packet source).map (·.countReceived received) := by
  have hremote : (c.countReceived received).remoteAddr = c.remoteAddr := rfl
  have hmode : (c.countReceived received).mode = c.mode := rfl
  unfold bindRemote
  rw [hremote, hmode]
  cases c.remoteAddr with
  | none =>
      dsimp only
      split <;> rfl
  | some expected =>
      dsimp only
      repeat' split
      all_goals rfl

/-- A packet is taken out of a datagram, with no frame queued. -/
theorem datagram_of_takes? {c : Connection} {call : ConnectionCall} {packet : Packet}
    (h : c.takes? call = some packet) : ∃ wire source nowMs,
      call = .receiveOnce (.datagram wire source) nowMs ∧ c.deliveredFrames = [] ∧
        decodeRudpPacket wire = .ok packet := by
  unfold takes? at h
  split at h
  · rename_i wire source nowMs
    split at h
    · rename_i hqueue hdecode
      obtain ⟨_, -, rfl⟩ := Option.map_eq_some_iff.mp h
      exact ⟨wire, source, nowMs, rfl, hqueue, hdecode⟩
    · cases h
  · cases h

theorem receiveOnce_drives {c c' : Connection} {recv : RecvFrom} {nowMs : Nat}
    {sendTo : SendTo} {out : ConnectionOutput}
    (h : (c.receiveOnce recv nowMs sendTo).toStep id = some (out, c')) :
    ∃ log, c.Drives (c.takes? (.receiveOnce recv nowMs)) out c' log := by
  unfold receiveOnce at h
  split at h
  · -- a queued frame goes out
    rename_i frame rest hqueue
    obtain ⟨rfl, hsent, hresult⟩ := toStep_some h
    refine ⟨_, Drives.one (.assumeConnected nowMs) rfl rfl (fun hc => by cases hc)
      rfl rfl rfl ?_ ?_⟩
    · rw [hqueue]
      rcases hresult with ⟨a, hok, hframe⟩ | ⟨_, herror, _⟩
      · cases hok
        rw [hframe]
        exact List.Sublist.refl _
      · cases herror
    · intro d hd
      rw [hsent] at hd
      cases hd
  · rename_i hqueue
    have hquiet : ∀ {t : Connection} {result : Except Fault (Option TransportFrame)},
        t.session = c.session → t.mode = c.mode →
        t.stats.framesReceived = c.stats.framesReceived → t.deliveredFrames = [] →
        (∀ frame, result ≠ .ok (some frame)) →
        Outcome.toStep id { result, connection := t, sent := [] } = some (out, c') →
        ∃ log, c.Drives (c.takes? (.receiveOnce recv nowMs)) out c' log := by
      intro t result hsession hmode hstats hempty hnone h
      have hframe := toStep_frame_none h fun a hok => by
        cases a with
        | none => rfl
        | some frame => exact absurd hok (hnone frame)
      obtain ⟨rfl, hsent, -⟩ := toStep_some h
      refine ⟨[], Drives.none hsession hmode hstats ?_ hsent⟩
      rw [hframe, hempty]
      exact List.nil_sublist _
    have hnone : ∀ frame : TransportFrame,
        (.ok Option.none : Except Fault (Option TransportFrame)) ≠ .ok (some frame) := by
      intro frame hc
      cases hc
    split at h
    · exact hquiet rfl rfl rfl hqueue hnone h
    · refine hquiet rfl rfl rfl hqueue (fun frame hc => ?_) h
      cases hc
    · rename_i wire source
      dsimp only at h
      split at h
      · exact hquiet (t := c.countReceived wire.length) rfl rfl rfl hqueue hnone h
      · rename_i packet hdecode
        split at h
        · exact hquiet (t := c.countReceived wire.length) rfl rfl rfl hqueue hnone h
        · rename_i t hbind
          obtain ⟨remoteAddr, rfl⟩ := bindRemote_some hbind
          have htaken : c.takes? (.receiveOnce (.datagram wire source) nowMs) = some packet := by
            rw [bindRemote_countReceived] at hbind
            unfold takes?
            rw [hqueue]
            dsimp only
            rw [hdecode]
            cases hsource : c.bindRemote packet source with
            | none =>
                rw [hsource] at hbind
                cases hbind
            | some _ =>
                dsimp only
                rw [hsource]
                rfl
          have hdrives : ∃ log, Drives { c.countReceived wire.length with remoteAddr }
              (c.takes? (.receiveOnce (.datagram wire source) nowMs)) out c' log := by
            split at h
            · rename_i hconnect
              exact handleConnect_drives h htaken hconnect.1 hconnect.2
            · exact handlePacket_drives h htaken
          obtain ⟨log, hlog⟩ := hdrives
          exact ⟨log, hlog.congr rfl rfl rfl rfl⟩

/-- **Every call on a connection is a run of calls on its session.** -/
theorem call_drives {c c' : Connection} {input : ConnectionCall × SendTo}
    {out : ConnectionOutput} (h : c.call input = some (out, c')) :
    ∃ log, c.Drives (c.takes? input.1) out c' log := by
  obtain ⟨call, sendTo⟩ := input
  cases call with
  | assumeConnected nowMs =>
      cases h
      exact ⟨_, Drives.one (.assumeConnected nowMs) rfl rfl (fun hc => by cases hc)
        rfl rfl rfl (List.Sublist.refl _) (fun d hd => by cases hd)⟩
  | popPongPayload =>
      cases h
      exact ⟨[], Drives.none rfl rfl rfl (List.Sublist.refl _) rfl⟩
  | connect payload nowMs =>
      have hstep : (c.connect payload nowMs sendTo).toStep (fun _ => Option.none)
          = some (out, c') := h
      unfold connect at hstep
      split at hstep
      · obtain ⟨rfl, hsent, hframe, -⟩ := toStep_silent hstep
        refine ⟨[], Drives.none rfl rfl rfl ?_ hsent⟩
        rw [hframe]
        exact List.Sublist.refl _
      · exact Drives.created (.createConnect nowMs payload) hstep rfl rfl
          (fun hc => by cases hc)
  | send channelId payload nowMs => exact send_drives h
  | disconnect reason =>
      exact Drives.created (.createDisconnect reason) h rfl rfl (fun hc => by cases hc)
  | ping payload =>
      exact Drives.created (.createPing payload) h rfl rfl (fun hc => by cases hc)
  | checkTimeout nowMs timeoutMs =>
      cases h
      exact ⟨_, Drives.one (.checkTimeout nowMs timeoutMs) rfl rfl (fun hc => by cases hc)
        rfl rfl rfl (List.Sublist.refl _) (fun d hd => by cases hd)⟩
  | receiveOnce recv nowMs => exact receiveOnce_drives h
  | pollResends nowMs =>
      have hstep : (c.pollResends nowMs sendTo).toStep (fun _ => Option.none)
          = some (out, c') := h
      obtain ⟨rfl, hsent, hframe, -⟩ := toStep_silent hstep
      have hsends := sendPackets_sends sendTo (c.session.dueResends nowMs).1
        { c with session := (c.session.dueResends nowMs).2 } 0
      obtain ⟨bytesSent, heq⟩ := hsends.connection
      have hconnection : (c.pollResends nowMs sendTo).connection
          = { c with
              session := (c.session.dueResends nowMs).2
              stats := { c.stats with bytesSent } } := heq
      refine ⟨_, Drives.one (.dueResends nowMs)
        (o := { resent := (c.session.dueResends nowMs).1 }) ?_ rfl (fun hc => by cases hc)
        rfl ?_ ?_ ?_ ?_⟩
      · rw [hconnection]
        rfl
      · rw [hconnection]
      · rw [hconnection]
      · rw [hconnection, hframe]
        exact List.Sublist.refl _
      · intro d hd
        rw [hsent] at hd
        obtain ⟨p, hp, hencode⟩ := hsends.sent d hd
        exact ⟨p, Or.inr hp, hencode⟩

/-- **Every run of a connection is a run of its session.** -/
theorem exists_session_run {c₀ c : Connection} {log : ConnectionLog}
    (h : Machine.Run Connection.call c₀ log c) :
    ∃ calls, Machine.Run Session.call c₀.session calls c.session := by
  induction h with
  | nil => exact ⟨[], Machine.Run.nil⟩
  | snoc _ hcall ih =>
      obtain ⟨calls, hcalls⟩ := ih
      obtain ⟨more, hmore⟩ := call_drives hcall
      exact ⟨calls ++ more, hcalls.append hmore.run⟩

end Connection

end CultNet.Rudp
