/-
At most once, over a network that copies and loses datagrams.

The books of `AtMostOnce` are kept on the server's session through every call on the
connection around it (`Books`).  A reset empties them, so they speak of every frame the
server returned as long as no reset comes after a frame; a datagram of the peer's that
is a Connect is what makes a server reset.
-/
import CultNet.Proofs.Rudp.AtMostOnce
import CultNet.Proofs.Rudp.Socket
import CultNet.Rudp.Network

namespace CultNet.Rudp

namespace Connection

/-! ### The books on a connection -/

/-- The books on the session of a connection, against what the connection took in, what its
session put together and what it returned. -/
structure Books (c : Connection) (taken : List Packet) (assembled : List Assembly)
    (returned : List TransportFrame) (audit : Audit) : Prop where
  session : audit.session = c.session
  ok : AuditOK audit
  count : c.stats.framesReceived = audit.delivered.length
  frames : (returned ++ c.deliveredFrames).Sublist (audit.delivered.map transportFrame)
  assembled : ∀ a ∈ audit.assembled, a ∈ assembled
  arrived : ∀ p ∈ audit.arrived, p.packetType = .data ∧ p ∈ taken

theorem exists_books (options : SocketTransportOptions) :
    ∃ audit, Books (Connection.new options) [] [] [] audit := by
  have hnone : ∀ {α : Type} {P : α → Prop}, ∀ a ∈ ([] : List α), P a := by
    intro α P a ha
    cases ha
  exact ⟨Audit.new _, rfl, Audit.auditOK_new _, rfl, List.Sublist.refl _, hnone, hnone⟩

/-- The books after session calls that are no reset, on a session that has not gone beyond the
connection's. -/
theorem Books.follow {c c' : Connection} {taken : List Packet} {assembled : List Assembly}
    {returned : List TransportFrame} {audit : Audit} {call : ConnectionCall}
    {frame : Option TransportFrame} {log : CallLog}
    (h : Books c taken assembled returned audit) (start : Audit) (hstart : AuditOK start)
    (hdelivered : start.delivered = audit.delivered)
    (hassembled : ∀ a ∈ start.assembled, a ∈ audit.assembled)
    (harrived : ∀ p ∈ start.arrived, p ∈ audit.arrived)
    (hrun : Machine.Run Session.call start.session log c'.session)
    (hreset : ∀ entry ∈ log, entry.1 ≠ .resetPeerState)
    (hreceive : ∀ before entry after p nowMs, log = before ++ entry :: after →
      entry.1 = .receive p nowMs →
      before = [] ∧ start.session = c.session ∧ c.takes? call = some p)
    (hcount : c'.stats.framesReceived = c.stats.framesReceived + log.delivered.length)
    (hframes : (frame.toList ++ c'.deliveredFrames).Sublist
      (c.deliveredFrames ++ log.delivered.map transportFrame)) :
    ∃ audit', Books c' (taken ++ (c.takes? call).toList)
      (assembled ++ (c.assembly? call).toList) (returned ++ frame.toList) audit' := by
  obtain ⟨audit', haudit, hsession⟩ := Audit.exists_run start hrun
  have hcovers := Audit.covers_of_run haudit hreset
  have hall : audit'.delivered = audit.delivered ++ log.delivered := by
    rw [hcovers.delivered, hdelivered]
  refine ⟨audit', hsession, ?_, ?_, ?_, ?_, ?_⟩
  · exact haudit.invariant hstart fun _ _ _ _ hok hstep => Audit.auditOK_step hok hstep
  · rw [hcount, hall, List.length_append, h.count]
  · have hqueue : (returned ++ (frame.toList ++ c'.deliveredFrames)).Sublist
        (returned ++ (c.deliveredFrames ++ log.delivered.map transportFrame)) :=
      (List.Sublist.refl returned).append hframes
    rw [← List.append_assoc, ← List.append_assoc] at hqueue
    rw [hall, List.map_append]
    exact hqueue.trans (h.frames.append (List.Sublist.refl _))
  · intro a ha
    rcases hcovers.assembled a ha with hold | ⟨before, entry, after, middle, packet, hlog, hbefore,
      hdata, hmade⟩
    · exact List.mem_append.mpr (Or.inl (h.assembled a (hassembled a hold)))
    · obtain ⟨-, nowMs, hentry⟩ := Audit.data?_eq_some hdata
      obtain ⟨rfl, hsame, htakes⟩ := hreceive before entry after packet nowMs hlog hentry
      rw [Machine.Run.eq_of_nil hbefore, hsame] at hdata hmade
      rw [hentry] at hdata
      have hassembly : c.assembly? call = some a := by
        unfold assembly?
        rw [htakes]
        exact Option.bind_eq_some_iff.mpr ⟨packet, hdata, hmade⟩
      rw [hassembly]
      exact List.mem_append.mpr (Or.inr (List.mem_singleton_self a))
  · intro p hp
    rcases hcovers.arrived p hp with hold | ⟨htype, nowMs, out, hmem⟩
    · obtain ⟨htype, hmem⟩ := h.arrived p (harrived p hold)
      exact ⟨htype, List.mem_append.mpr (Or.inl hmem)⟩
    · obtain ⟨before, after, hlog⟩ := List.append_of_mem hmem
      obtain ⟨-, -, htakes⟩ := hreceive before _ after p nowMs hlog rfl
      rw [htakes]
      exact ⟨htype, List.mem_append.mpr (Or.inr (List.mem_singleton_self p))⟩

/-- **A call keeps the books, if it takes in no Connect after a frame was delivered.** -/
theorem Books.call {c c' : Connection} {taken : List Packet} {assembled : List Assembly}
    {returned : List TransportFrame} {audit : Audit} {input : ConnectionCall × SendTo}
    {out : ConnectionOutput} (h : Books c taken assembled returned audit)
    (hcall : c.call input = some (out, c'))
    (hpeer : ∀ packet ∈ c.takes? input.1, packet.packetType = .connect →
      c.stats.framesReceived = 0) :
    ∃ audit', Books c' (taken ++ (c.takes? input.1).toList)
      (assembled ++ (c.assembly? input.1).toList) (returned ++ out.frame.toList) audit' := by
  obtain ⟨log, hlog⟩ := call_drives hcall
  by_cases hreset : ∃ entry ∈ log, entry.1 = .resetPeerState
  · obtain ⟨entry, hmem, hentry⟩ := hreset
    obtain ⟨before, after, hsplit⟩ := List.append_of_mem hmem
    obtain ⟨rfl, -, packet, htaken, htype⟩ := hlog.resets before entry after hsplit hentry
    obtain ⟨first, o⟩ := entry
    cases hentry
    rw [List.nil_append] at hsplit
    subst hsplit
    -- the server had delivered nothing, so emptying the books takes nothing out of them
    have hnothing : audit.delivered = [] := by
      rw [← List.length_eq_zero_iff, ← h.count]
      exact hpeer packet htaken htype
    obtain ⟨session, hfirst, hrest⟩ := hlog.run.uncons
    have hreset : c.session.call .resetPeerState = some ({}, c.session.resetPeerState) := rfl
    rw [hreset] at hfirst
    cases hfirst
    refine h.follow ⟨c.session.resetPeerState, [], [], []⟩
      ⟨Session.partsOK_empty rfl, Session.framesOK_empty fun _ => rfl⟩ hnothing.symm ?_ ?_ hrest
      ?_ ?_ hlog.received hlog.frames
    · intro a ha
      cases ha
    · intro p hp
      cases hp
    · intro entry hentry heq
      obtain ⟨before, after', rfl⟩ := List.append_of_mem hentry
      have hfront := (hlog.resets (_ :: before) entry after' rfl heq).1
      cases hfront
    · intro before entry after' p nowMs hsplit heq
      subst hsplit
      have hfront := hlog.receives (_ :: before) entry after' rfl p nowMs heq
      cases hfront
  · refine h.follow audit h.ok rfl (fun a ha => ha) (fun p hp => hp) ?_ ?_ ?_ hlog.received hlog.frames
    · rw [h.session]
      exact hlog.run
    · intro entry hentry heq
      exact hreset ⟨entry, hentry, heq⟩
    · intro before entry after p nowMs hsplit heq
      refine ⟨hlog.receives before entry after hsplit p nowMs heq, h.session, ?_⟩
      have hmem : entry ∈ log := by
        rw [hsplit]
        exact List.mem_append.mpr (Or.inr List.mem_cons_self)
      exact hlog.inputs entry hmem p (by rw [heq]; rfl)

/-- What a call takes in it read from the socket. -/
theorem takes?_reads {c : Connection} {call : ConnectionCall} {packet : Packet}
    (h : c.takes? call = some packet) : ∃ wire source,
      c.reads? call = some (wire, source) ∧ decodeRudpPacket wire = .ok packet := by
  obtain ⟨wire, source, nowMs, rfl, hqueue, hdecode⟩ := datagram_of_takes? h
  refine ⟨wire, source, ?_, hdecode⟩
  unfold reads?
  rw [hqueue]

end Connection

namespace Network

/-! ### A step of the network -/

/-- What a step of the network does. -/
inductive Advances (addr : Side → SocketAddr) (net : Network) (out : ConnectionOutput)
    (net' : Network) : NetworkInput → Prop
  | call {side : Side} {call : ConnectionCall} {sendTo : SendTo}
      (c : Connection)
      (hread : ∀ read, (net.connection side).reads? call = some read →
        read.1 ∈ net.inFlight side)
      (hcall : (net.connection side).call (call, sendTo) = some (out, c))
      (hconnection : net'.connection = Function.update net.connection side c)
      (hassembled : net'.assembled = Function.update net.assembled side
        (net.assembled side ++ ((net.connection side).assembly? call).toList))
      (hown : ∀ wire ∈ net'.inFlight side, wire ∈ net.inFlight side)
      (hother : ∀ wire ∈ net'.inFlight side.other,
        wire ∈ net.inFlight side.other ∨ ∃ d ∈ out.sent, d.wire = wire) :
      Advances addr net out net' (.call side call sendTo)
  | network {input : NetworkInput} (hinput : ∀ side call sendTo, input ≠ .call side call sendTo)
      (hout : out = {}) (hconnection : net'.connection = net.connection)
      (hassembled : net'.assembled = net.assembled)
      (hflight : ∀ side, ∀ wire ∈ net'.inFlight side, wire ∈ net.inFlight side) :
      Advances addr net out net' input

/-- Replacing what is on its way to a side by part of it puts nothing new on its way. -/
theorem mem_update {inFlight : Side → Multiset (List UInt8)} {side : Side}
    {left : Multiset (List UInt8)} (h : ∀ wire ∈ left, wire ∈ inFlight side) (side' : Side) :
    ∀ wire ∈ Function.update inFlight side left side', wire ∈ inFlight side' := by
  intro wire hwire
  by_cases hside : side' = side
  · subst hside
    rw [Function.update_self] at hwire
    exact h wire hwire
  · rw [Function.update_of_ne hside] at hwire
    exact hwire

theorem step_advances {addr : Side → SocketAddr} {net net' : Network} {input : NetworkInput}
    {out : ConnectionOutput} (h : net.step addr input = some (out, net')) :
    Advances addr net out net' input := by
  cases input with
  | call side call sendTo =>
      simp only [step] at h
      split at h
      · rename_i hread
        split at h
        · cases h
        · rename_i out' c hcall
          simp only [Option.some.injEq, Prod.mk.injEq] at h
          obtain ⟨rfl, rfl⟩ := h
          refine .call c ?_ hcall rfl rfl ?_ ?_
          · intro read heq
            rw [heq] at hread
            simp only [Option.all_some, decide_eq_true_eq] at hread
            exact hread.1
          · intro wire hwire
            dsimp only at hwire
            rw [Function.update_of_ne side.other_ne.symm, Function.update_self] at hwire
            split at hwire
            · exact Multiset.mem_of_mem_erase hwire
            · exact hwire
          · intro wire hwire
            dsimp only at hwire
            rw [Function.update_self, Function.update_of_ne side.other_ne, Multiset.mem_add]
              at hwire
            refine hwire.imp id fun hsent => ?_
            obtain ⟨d, hd, heq⟩ := List.mem_map.mp (Multiset.mem_coe.mp hsent)
            exact ⟨d, (List.mem_filter.mp hd).1, heq⟩
      · cases h
  | duplicate side wire =>
      simp only [step] at h
      split at h
      · rename_i hmem
        simp only [Option.some.injEq, Prod.mk.injEq] at h
        obtain ⟨rfl, rfl⟩ := h
        refine .network (fun side call sendTo hc => by cases hc) rfl rfl rfl (mem_update ?_)
        intro wire' hwire
        rcases Multiset.mem_cons.mp hwire with rfl | hwire
        · exact hmem
        · exact hwire
      · cases h
  | drop side wire =>
      simp only [step, Option.some.injEq, Prod.mk.injEq] at h
      obtain ⟨rfl, rfl⟩ := h
      exact .network (fun side call sendTo hc => by cases hc) rfl rfl rfl
        (mem_update fun _ hwire => Multiset.mem_of_mem_erase hwire)

end Network

/-! ### A run of the network -/

namespace NetworkLog

theorem calls_append (log log' : NetworkLog) (side : Side) :
    calls (log ++ log') side = calls log side ++ calls log' side := List.filterMap_append

theorem returned_append (log log' : NetworkLog) (side : Side) :
    returned (log ++ log') side = returned log side ++ returned log' side := by
  unfold returned ConnectionLog.returned
  rw [calls_append, List.flatMap_append]

theorem sent_append (log log' : NetworkLog) (side : Side) :
    sent (log ++ log') side = sent log side ++ sent log' side := by
  unfold sent
  rw [calls_append, List.flatMap_append]

/-- The log of one call. -/
theorem calls_call (side : Side) (call : ConnectionCall) (sendTo : SendTo)
    (out : ConnectionOutput) (side' : Side) :
    calls [(.call side call sendTo, out)] side'
      = if side = side' then [((call, sendTo), out)] else [] := by
  unfold calls
  by_cases h : side = side'
  · simp [h]
  · simp [h]

/-- What the network does is nobody's call. -/
theorem calls_network {input : NetworkInput}
    (hinput : ∀ side call sendTo, input ≠ .call side call sendTo) (out : ConnectionOutput)
    (side : Side) : calls [(input, out)] side = [] := by
  cases input with
  | call side' call sendTo => exact absurd rfl (hinput side' call sendTo)
  | duplicate side' wire => rfl
  | drop side' wire => rfl

end NetworkLog

namespace Network

/-- Only what was sent is on its way. -/
theorem sent_of_run {addr : Side → SocketAddr} {options : Side → SocketTransportOptions}
    {log : NetworkLog} {net : Network}
    (hrun : Machine.Run (Network.step addr) (Network.new options) log net) :
    ∀ side, ∀ wire ∈ net.inFlight side, ∃ d ∈ NetworkLog.sent log side.other, d.wire = wire := by
  induction hrun with
  | nil =>
      intro side wire hwire
      cases hwire
  | @snoc log net net' input out _ hstep ih =>
      intro side wire hwire
      rw [NetworkLog.sent_append]
      have hold : wire ∈ net.inFlight side →
          ∃ d ∈ NetworkLog.sent log side.other ++ NetworkLog.sent [(input, out)] side.other,
            d.wire = wire := by
        intro hmem
        obtain ⟨d, hd, heq⟩ := ih side wire hmem
        exact ⟨d, List.mem_append.mpr (Or.inl hd), heq⟩
      cases step_advances hstep with
      | @call caller call sendTo c _ _ _ _ hown hother =>
          rcases side.eq_or_eq_other caller with rfl | rfl
          · exact hold (hown wire hwire)
          · rcases hother wire hwire with hmem | ⟨d, hd, heq⟩
            · exact hold hmem
            · refine ⟨d, List.mem_append.mpr (Or.inr ?_), heq⟩
              unfold NetworkLog.sent
              rw [NetworkLog.calls_call, Side.other_other, if_pos rfl]
              simpa using hd
      | network _ _ _ _ hflight => exact hold (hflight side wire hwire)

/-- **The books on the server, in a run in which it reads no Connect after a frame.** -/
theorem books_of_run {addr : Side → SocketAddr} {options : Side → SocketTransportOptions}
    {log : NetworkLog} {net : Network}
    (hrun : Machine.Run (Machine.guarded KeepsPeer (Network.step addr)) (Network.new options)
      log net) :
    ∃ taken audit, (net.connection .right).Books taken (net.assembled .right)
        (NetworkLog.returned log .right) audit ∧
      ∀ p ∈ taken, ∃ d ∈ NetworkLog.sent log .left, decodeRudpPacket d.wire = .ok p := by
  induction hrun with
  | nil =>
      obtain ⟨audit, haudit⟩ := Connection.exists_books (options .right)
      exact ⟨[], audit, haudit, fun p hp => by cases hp⟩
  | @snoc log net net' input out hbefore hstep ih =>
      obtain ⟨taken, audit, hbooks, horigin⟩ := ih
      obtain ⟨hpeer, hstep⟩ := Machine.guarded_eq_some.mp hstep
      rw [NetworkLog.returned_append, NetworkLog.sent_append]
      have hgrow : ∀ p ∈ taken, ∃ d ∈ NetworkLog.sent log .left
          ++ NetworkLog.sent [(input, out)] .left, decodeRudpPacket d.wire = .ok p := by
        intro p hp
        obtain ⟨d, hd, hdecode⟩ := horigin p hp
        exact ⟨d, List.mem_append.mpr (Or.inl hd), hdecode⟩
      have hquiet : net'.connection .right = net.connection .right →
          net'.assembled .right = net.assembled .right →
          NetworkLog.calls [(input, out)] .right = [] →
          ∃ taken audit, (net'.connection .right).Books taken (net'.assembled .right)
            (NetworkLog.returned log .right ++ NetworkLog.returned [(input, out)] .right) audit ∧
          ∀ p ∈ taken, ∃ d ∈ NetworkLog.sent log .left ++ NetworkLog.sent [(input, out)] .left,
            decodeRudpPacket d.wire = .ok p := by
        intro hconnection hassembled hcalls
        refine ⟨taken, audit, ?_, hgrow⟩
        unfold NetworkLog.returned at hbooks ⊢
        rw [hconnection, hassembled, hcalls]
        simpa [ConnectionLog.returned] using hbooks
      cases step_advances hstep with
      | @call side call sendTo c hread hcall hconnection hassembled _ _ =>
          cases side with
          | left =>
              refine hquiet ?_ ?_ ?_
              · rw [hconnection]
                rfl
              · rw [hassembled]
                rfl
              · rfl
          | right =>
              obtain ⟨audit', hbooks'⟩ := hbooks.call hcall hpeer
              have hreturned : NetworkLog.returned [(.call .right call sendTo, out)] .right
                  = out.frame.toList := by
                unfold NetworkLog.returned
                rw [NetworkLog.calls_call, if_pos rfl]
                simp [ConnectionLog.returned]
              refine ⟨taken ++ ((net.connection .right).takes? call).toList, audit', ?_, ?_⟩
              · rw [hconnection, hassembled, Function.update_self, Function.update_self, hreturned]
                exact hbooks'
              · intro p hp
                rcases List.mem_append.mp hp with hp | hp
                · exact hgrow p hp
                · obtain ⟨wire, source, hreads, hdecode⟩ :=
                    Connection.takes?_reads (Option.mem_toList.mp hp)
                  obtain ⟨d, hd, rfl⟩ := sent_of_run hbefore.of_guarded .right wire (hread _ hreads)
                  exact ⟨d, List.mem_append.mpr (Or.inl hd), hdecode⟩
      | network hinput hout hconnection hassembled _ =>
          exact hquiet (by rw [hconnection]) (by rw [hassembled])
            (NetworkLog.calls_network hinput out .right)

/-! ### At most once -/

/--
What the server returned was put together out of packets the client had sent, and no packet went
into two of the frames, however often it was sent and however often it arrived.
-/
structure DeliversOnce (log : NetworkLog) (net : Network) (made : List Assembly) : Prop where
  returned : NetworkLog.returned log .right = made.map fun a => Connection.transportFrame a.frame
  assembled : ∀ a ∈ made, a ∈ net.assembled .right
  origin : ∀ a ∈ made, ∀ part ∈ a.parts, ∃ d ∈ NetworkLog.sent log .left, ∃ p,
    decodeRudpPacket d.wire = .ok p ∧ p.packetType = .data ∧ part = (p.sequence, p.payload)
  once : ∀ packet : Packet,
    (made.filter fun a => (packet.sequence, packet.payload) ∈ a.parts).length ≤ 1

/-- A property that no two members share is one of at most one member. -/
theorem length_filter_le_one {α : Type} {P : α → Prop} [DecidablePred P] {l : List α}
    (hnodup : l.Nodup) (hone : ∀ a ∈ l, ∀ b ∈ l, P a → P b → a = b) :
    (l.filter fun a => P a).length ≤ 1 := by
  have hkept := hnodup.filter (p := fun a => decide (P a))
  cases hl : l.filter (fun a => decide (P a)) with
  | nil => simp
  | cons a rest =>
      cases rest with
      | nil => simp
      | cons b rest =>
          have ha : a ∈ l.filter (fun a => decide (P a)) := by
            rw [hl]
            exact List.mem_cons_self
          have hb : b ∈ l.filter (fun a => decide (P a)) := by
            rw [hl]
            exact List.mem_cons_of_mem _ List.mem_cons_self
          rw [List.mem_filter, decide_eq_true_eq] at ha hb
          have hsame := hone a ha.1 b hb.1 ha.2 hb.2
          rw [hl, List.nodup_cons] at hkept
          exact absurd (hsame ▸ List.mem_cons_self) hkept.1

/-- The frames of a list that were put together, with what they were made of. -/
theorem exists_made {frames : List DeliveredFrame} {assembled : List Assembly}
    (h : ∀ frame ∈ frames, ∃ a ∈ assembled, a.frame = frame) :
    ∃ made : List Assembly, made.map Assembly.frame = frames ∧ ∀ a ∈ made, a ∈ assembled := by
  induction frames with
  | nil => exact ⟨[], rfl, fun a ha => by cases ha⟩
  | cons frame rest ih =>
      obtain ⟨a, ha, hframe⟩ := h frame List.mem_cons_self
      obtain ⟨made, hmade, hmem⟩ := ih fun f hf => h f (List.mem_cons_of_mem _ hf)
      refine ⟨a :: made, ?_, ?_⟩
      · rw [List.map_cons, hframe, hmade]
      · intro b hb
        rcases List.mem_cons.mp hb with rfl | hb
        · exact ha
        · exact hmem b hb

/--
**At most once, if the server reads no Connect after a frame.**  Whatever the network does with
the datagrams, no packet of the client's goes into two frames that the server's `receive_once`
returns, in any run in which the server reads no Connect once it has delivered a frame.
-/
theorem delivers_once {addr : Side → SocketAddr} {options : Side → SocketTransportOptions}
    {log : NetworkLog} {net : Network}
    (hrun : Machine.Run (Machine.guarded KeepsPeer (Network.step addr)) (Network.new options)
      log net) : ∃ made, DeliversOnce log net made := by
  obtain ⟨taken, audit, hbooks, horigin⟩ := books_of_run hrun
  have hreturned : (NetworkLog.returned log .right).Sublist
      (audit.delivered.map Connection.transportFrame) :=
    (List.sublist_append_left _ _).trans hbooks.frames
  obtain ⟨frames, hframes, heq⟩ := List.sublist_map_iff.mp hreturned
  obtain ⟨made, hmade, hmem⟩ := exists_made fun frame hframe =>
    hbooks.ok.frames.genuine frame (hframes.subset hframe)
  have hnodup : made.Nodup := by
    have hsequences : (frames.map DeliveredFrame.sequence).Nodup :=
      hbooks.ok.frames.nodup.sublist (hframes.map _)
    rw [← hmade] at hsequences
    exact (hsequences.of_map _).of_map _
  refine ⟨made, ?_, ?_, ?_, ?_⟩
  · rw [heq, ← hmade, List.map_map]
    rfl
  · exact fun a ha => hbooks.assembled a (hmem a ha)
  · intro a ha part hpart
    obtain ⟨p, hp, rfl⟩ := hbooks.ok.parts.origin a (hmem a ha) part hpart
    obtain ⟨htype, htaken⟩ := hbooks.arrived p hp
    obtain ⟨d, hd, hdecode⟩ := horigin p htaken
    exact ⟨d, hd, p, hdecode, htype, rfl⟩
  · intro packet
    refine length_filter_le_one hnodup fun a ha b hb hina hinb => ?_
    exact eq_of_mem_flatMap hbooks.ok.parts.nodup (hmem a ha) (hmem b hb)
      (List.mem_map_of_mem hina) (List.mem_map_of_mem hinb)

/-- A whole packet that needs an acknowledgement, as the two sides of connection 7 send them. -/
def reliablePacket (packetType : PacketType) (sequence ack : UInt32) (channelId : String)
    (ordered : Bool) (payload : List UInt8) : Packet where
  packetType
  connectionId := 7
  sequence
  ack
  ackMask := 0
  channelId
  reliable := true
  ordered
  sequenced := false
  fragmentId := 0
  fragmentIndex := 0
  fragmentCount := 0
  payload

/-- What the client opens the connection with. -/
def connectPacket : Packet := reliablePacket .connect 1 0 "control" true []

/-- What the server answers. -/
def acceptPacket : Packet := reliablePacket .accept 1 1 "control" true []

/-- What the client sends then. -/
def mediaPacket : Packet := reliablePacket .data 3 1 "media" false [42]

/-- Where the two sides are. -/
def addresses : Side → SocketAddr
  | .left => .v4 1 9000
  | .right => .v4 2 9000

/-- The client and the server of connection 7. -/
def endpoints : Side → SocketTransportOptions
  | .left => .client (addresses .right) 7
  | .right => .server 7

/-- A call on one side, where the socket sends everything. -/
def calls (side : Side) (call : ConnectionCall) : NetworkInput := .call side call fun _ => .ok 0

/-- One side reads a packet of the other's. -/
def reads (side : Side) (packet : Packet) (nowMs : Nat) : NetworkInput :=
  calls side (.receiveOnce (.datagram (wireOf packet) (addresses side.other)) nowMs)

/-- A Data packet that arrives twice comes out once. -/
theorem delivers_once_duplicate :
    ∃ (log : NetworkLog) (net : Network),
      Machine.Run (Machine.guarded KeepsPeer (Network.step addresses)) (Network.new endpoints)
        log net ∧
      (NetworkLog.returned log .right).length = 1 ∧ ∃ made, DeliversOnce log net made := by
  have hexec : ((Machine.exec (Machine.guarded KeepsPeer (Network.step addresses))
      (Network.new endpoints)
      [calls .left (.connect [] 0), reads .right connectPacket 0, reads .left acceptPacket 0,
        calls .left (.send "media" [42] 1), .duplicate .right (wireOf mediaPacket),
        reads .right mediaPacket 2, reads .right mediaPacket 3]).any fun r =>
      decide ((NetworkLog.returned r.1 .right).length = 1)) = true := by
    decide +kernel
  obtain ⟨log, net, hrun, -, hcheck⟩ := Machine.Run.of_exec_any hexec
  exact ⟨log, net, hrun, of_decide_eq_true hcheck, delivers_once hrun⟩

/-- A Connect that arrives again makes the server deliver a Data packet again. -/
theorem delivers_once_reconnect :
    ∃ (log : NetworkLog) (net : Network),
      Machine.Run (Network.step addresses) (Network.new endpoints) log net ∧
      NetworkLog.connects log .left = 1 ∧
      (∃ d ∈ NetworkLog.sent log .left, decodeRudpPacket d.wire = .ok mediaPacket) ∧
      mediaPacket.packetType = .data ∧ mediaPacket.reliable = true ∧
      ¬ ∃ made, DeliversOnce log net made := by
  have hexec : ((Machine.exec (Network.step addresses) (Network.new endpoints)
      [calls .left (.connect [] 0), .duplicate .right (wireOf connectPacket),
        reads .right connectPacket 0, reads .left acceptPacket 0,
        calls .left (.send "media" [42] 1), .duplicate .right (wireOf mediaPacket),
        reads .right mediaPacket 2, reads .right connectPacket 3,
        reads .right mediaPacket 4]).any fun (r : NetworkLog × Network) =>
      decide (NetworkLog.connects r.1 .left = 1 ∧
        (∃ d ∈ NetworkLog.sent r.1 .left, d.wire = wireOf mediaPacket) ∧
        (NetworkLog.returned r.1 .right).length = 2 ∧
        ∀ a ∈ r.2.assembled .right, (mediaPacket.sequence, mediaPacket.payload) ∈ a.parts))
      = true := by
    decide +kernel
  have hdecode : decodeRudpPacket (wireOf mediaPacket) = .ok mediaPacket := by decide +kernel
  obtain ⟨log, net, hrun, -, hcheck⟩ := Machine.Run.of_exec_any hexec
  obtain ⟨hconnect, ⟨d, hd, hwire⟩, htwice, hparts⟩ := of_decide_eq_true hcheck
  refine ⟨log, net, hrun, hconnect, ⟨d, hd, by rw [hwire, hdecode]⟩, rfl, rfl, ?_⟩
  rintro ⟨made, hmade⟩
  have honce := hmade.once mediaPacket
  have hall : made.filter (fun a => (mediaPacket.sequence, mediaPacket.payload) ∈ a.parts)
      = made :=
    List.filter_eq_self.mpr fun a ha => decide_eq_true (hparts a (hmade.assembled a ha))
  rw [hall] at honce
  rw [hmade.returned, List.length_map] at htwice
  omega

end Network

end CultNet.Rudp
