/-
What a call does to one channel.

Fragments and waiting frames are kept under the channel they arrived on
(`Channels`), so a packet of one channel never touches another.  For the ordered
messages of a channel that leaves two possibilities, listed by `Advances`: a call
leaves their stream alone, or it completes exactly one of them, and then it brings
the frame of that message into the stream.
-/
import CultNet.Proofs.Rudp.Reassembly

namespace CultNet.Rudp

/-- What waits in an ordered buffer for a message that came too early. -/
def Message.pending (m : Message) : PendingOrderedFrame where
  frame := m.frame
  nextSequence := m.stop

namespace Session

/-! ### Everything is kept under its own channel -/

/-- Fragments and waiting frames belong to the channel they are kept under. -/
structure Channels (s : Session) : Prop where
  buffers : ∀ (key : FragmentKey) (buffer : FragmentBuffer), s.fragmentBuffers[key]? = some buffer →
    buffer.channelId = (ofLex key).1
  waiting : ∀ (channelId : String) (key : UInt32) (pending : PendingOrderedFrame),
    (s.stream channelId).waiting[key]? = some pending → pending.frame.channelId = channelId

theorem channels_of_empty {s : Session} (hbuffers : s.fragmentBuffers = ∅)
    (hwaiting : s.orderedBuffers = ∅) : s.Channels where
  buffers := by
    intro key buffer h
    rw [hbuffers, Std.ExtTreeMap.getElem?_empty] at h
    cases h
  waiting := by
    intro channelId key pending h
    unfold stream at h
    dsimp only at h
    rw [hwaiting, Std.ExtTreeMap.getD_empty, Std.ExtTreeMap.getElem?_empty] at h
    cases h

/-- Only the fragment buffers and the streams matter. -/
theorem Channels.congr {s t : Session} (h : s.Channels)
    (hbuffers : t.fragmentBuffers = s.fragmentBuffers)
    (hstreams : ∀ channelId, t.stream channelId = s.stream channelId) : t.Channels where
  buffers := by
    rw [hbuffers]
    exact h.buffers
  waiting := by
    intro channelId
    rw [hstreams channelId]
    exact h.waiting channelId

/-- The streams belong to the receiving half. -/
theorem stream_of_inbound {s t : Session} (h : t.inbound = s.inbound) (channelId : String) :
    t.stream channelId = s.stream channelId := by
  have hnext : t.orderedNextSequenceByChannel = s.orderedNextSequenceByChannel :=
    congrArg Inbound.orderedNextSequenceByChannel h
  have hwaiting : t.orderedBuffers = s.orderedBuffers := congrArg Inbound.orderedBuffers h
  unfold stream
  rw [hnext, hwaiting]

theorem Channels.of_inbound {s t : Session} (h : s.Channels) (heq : t.inbound = s.inbound) :
    t.Channels :=
  h.congr (congrArg Inbound.fragmentBuffers heq) (stream_of_inbound heq)

theorem Channels.bufferFor {s : Session} (h : s.Channels) (packet : Packet) :
    (s.bufferFor packet).channelId = packet.channelId := by
  unfold Session.bufferFor
  cases hbuffer : s.fragmentBuffers[packet.fragmentKey]? with
  | none => rfl
  | some buffer => exact h.buffers _ _ hbuffer

theorem Channels.reassembles {s t : Session} {packet : Packet}
    {result : Except String (Option (DeliveredFrame × Bool × UInt32))} (h : s.Channels)
    (hr : Reassembles s packet result t) : t.Channels := by
  refine ⟨?_, ?_⟩
  · intro key buffer hbuffer
    cases hr with
    | whole _ => exact h.buffers key buffer hbuffer
    | refused _ _ _ => exact h.buffers key buffer hbuffer
    | kept _ _ _ =>
        dsimp only at hbuffer
        rw [OrderedMap.getElem?_insert_eq] at hbuffer
        by_cases hkey : packet.fragmentKey = key
        · rw [if_pos hkey, Option.some.injEq] at hbuffer
          rw [← hbuffer, ← hkey]
          exact h.bufferFor packet
        · rw [if_neg hkey] at hbuffer
          exact h.buffers key buffer hbuffer
    | completed _ _ _ _ _ =>
        dsimp only at hbuffer
        rw [OrderedMap.getElem?_erase_eq] at hbuffer
        by_cases hkey : packet.fragmentKey = key
        · rw [if_pos hkey] at hbuffer
          cases hbuffer
        · rw [if_neg hkey] at hbuffer
          exact h.buffers key buffer hbuffer
  · intro channelId
    rw [hr.stream channelId]
    exact h.waiting channelId

/-- A frame is delivered on the channel of the packet that completed it. -/
theorem Channels.frame {s t : Session} {packet : Packet} {frame : DeliveredFrame}
    {ordered : Bool} {next : UInt32} (h : s.Channels)
    (hr : Reassembles s packet (.ok (some (frame, ordered, next))) t) :
    frame.channelId = packet.channelId ∧ ordered = packet.ordered := by
  cases hr with
  | whole _ => exact ⟨rfl, rfl⟩
  | completed _ _ _ _ _ => exact ⟨h.bufferFor packet, rfl⟩

/-- Whatever an ordered frame brings out is on its channel. -/
theorem Channels.deliverOrdered {s : Session} (h : s.Channels) (frame : DeliveredFrame)
    (next expected : UInt32) :
    (s.deliverOrdered frame next expected).2.Channels ∧
      ∀ out ∈ (s.deliverOrdered frame next expected).1, out.channelId = frame.channelId := by
  obtain ⟨hout, hstreams⟩ := deliverOrdered_stream s frame next expected
  have hpushed := Resequencer.push_pushed PendingOrderedFrame.nextSequence
    (s.stream frame.channelId) frame.sequence { frame, nextSequence := next }
    (min expected frame.sequence)
  rw [hout]
  refine ⟨⟨?_, ?_⟩, ?_⟩
  · rw [hstreams.fragmentBuffers]
    exact h.buffers
  · intro channelId key pending hpending
    by_cases hother : channelId = frame.channelId
    · subst hother
      rw [hstreams.own] at hpending
      generalize (s.stream frame.channelId).push PendingOrderedFrame.nextSequence
        frame.sequence { frame, nextSequence := next } (min expected frame.sequence)
        = pushed at hpushed hpending
      obtain ⟨out, r⟩ := pushed
      cases hpushed with
      | dropped hsame =>
          rw [hsame] at hpending
          exact h.waiting _ key pending hpending
      | held hheld =>
          rw [hheld, OrderedMap.getElem?_insert_eq] at hpending
          by_cases hkey : frame.sequence = key
          · rw [if_pos hkey, Option.some.injEq] at hpending
            rw [← hpending]
          · rw [if_neg hkey] at hpending
            exact h.waiting _ key pending hpending
      | released entries hdrained =>
          exact h.waiting _ key pending ((hdrained.waiting key pending).mp hpending).1
    · rw [hstreams.others channelId hother] at hpending
      exact h.waiting channelId key pending hpending
  · intro out hmem
    obtain ⟨pending, hpending, rfl⟩ := List.mem_map.mp hmem
    generalize (s.stream frame.channelId).push PendingOrderedFrame.nextSequence
      frame.sequence { frame, nextSequence := next } (min expected frame.sequence)
      = pushed at hpushed hpending
    obtain ⟨out, r⟩ := pushed
    cases hpushed with
    | dropped _ => cases hpending
    | held _ => cases hpending
    | released entries hdrained =>
        rcases List.mem_cons.mp hpending with rfl | hpending
        · rfl
        · obtain ⟨entry, hentry, rfl⟩ := List.mem_map.mp hpending
          exact h.waiting _ entry.1 entry.2 (hdrained.came entry hentry)

/-- **A Data packet delivers on its own channel only.** -/
theorem Receipt.channels {s t : Session} {packet : Packet} {expected : UInt32}
    {result : Except Fault ReceiveResult} (h : Receipt s packet expected result t)
    (hchannels : s.Channels) :
    t.Channels ∧ ∀ frame ∈ deliveredBy result, frame.channelId = packet.channelId := by
  have hremembered : (s.rememberReceived packet.sequence).Channels :=
    hchannels.congr rfl fun _ => rfl
  cases h with
  | duplicate _ => exact ⟨hremembered, fun frame hframe => by cases hframe⟩
  | refused _ message _ hr =>
      exact ⟨hremembered.reassembles (reassembles_of_eq hr), fun frame hframe => by cases hframe⟩
  | incomplete _ _ hr =>
      exact ⟨hremembered.reassembles (reassembles_of_eq hr), fun frame hframe => by cases hframe⟩
  | filtered _ frame next _ hr _ =>
      exact ⟨hremembered.reassembles (reassembles_of_eq hr), fun frame hframe => by cases hframe⟩
  | unordered _ frame next u _ hr hpass =>
      have hu := hremembered.reassembles (reassembles_of_eq hr)
      have hframe := hremembered.frame (reassembles_of_eq hr)
      obtain ⟨hbuffers, hstreams⟩ := admitSequenced_frame hpass
      refine ⟨hu.congr hbuffers hstreams, ?_⟩
      intro out hout
      rw [List.mem_singleton.mp hout]
      exact hframe.1
  | ordered _ frame next u hr =>
      have hu := hremembered.reassembles (reassembles_of_eq hr)
      have hframe := hremembered.frame (reassembles_of_eq hr)
      obtain ⟨ht, hout⟩ := hu.deliverOrdered frame next expected
      exact ⟨ht, fun out hmem => (hout out hmem).trans hframe.1⟩

theorem call_channels {s s' : Session} {c : Call} {out : Output}
    (h : s.call c = some (out, s')) (hchannels : s.Channels) : s'.Channels := by
  obtain ⟨-, htakes⟩ := call_effect h
  cases htakes with
  | idle hinbound _ => exact hchannels.of_inbound hinbound
  | control packet _ _ _ hinbound _ =>
      have hremembered : (s.rememberReceived packet.sequence).Channels :=
        hchannels.congr rfl fun _ => rfl
      exact hremembered.of_inbound hinbound
  | data packet nowMs _ _ _ result hr _ =>
      have hreceipt := receiveData_receipt (s.receiveBase packet nowMs) packet
        (s.expectedSequence packet)
      rw [hr] at hreceipt
      have hbase : (s.receiveBase packet nowMs).Channels := hchannels.congr rfl fun _ => rfl
      exact (hreceipt.channels hbase).1
  | reset _ hinbound _ =>
      have hnew : (Session.new {}).Channels := channels_of_empty rfl rfl
      exact hnew.of_inbound hinbound

/-! ### One channel along a call -/

/-- What a call does to the ordered messages `kept` of a channel, and what it delivers. -/
inductive Advances (s : Session) (kept : List Message) (channelId : String)
    (input : Option Packet) (delivered : List DeliveredFrame) (s' : Session) : Prop
  | quiet (hstream : s'.stream channelId = s.stream channelId)
      (hhas : ∀ m ∈ kept, (s'.Has m ↔ s.Has m))
      (hdelivered : ∀ frame ∈ delivered, frame.channelId = channelId →
        ∃ p, input = some p ∧ p.packetType = .data ∧ p.channelId = channelId ∧
          p.ordered = false)
  | completes (m : Message) (p : Packet) (hm : m ∈ kept) (hinput : input = some p)
      (hp : p ∈ m.packets) (hnew : p.sequence ∉ s.receivedSequences)
      (hall : ∀ q ∈ m.packets, q.sequence ∈ insert p.sequence s.receivedSequences)
      (hhas : ∀ m' ∈ kept, (s'.Has m' ↔ s.Has m' ∨ m' = m))
      (hstream : s'.stream channelId
        = ((s.stream channelId).push PendingOrderedFrame.nextSequence m.first m.pending
            (min (s.expectedSequence p) m.first)).2)
      (hdelivered : delivered
        = ((s.stream channelId).push PendingOrderedFrame.nextSequence m.first m.pending
            (min (s.expectedSequence p) m.first)).1.map (·.frame))

section

variable {packets : List Packet} {messages kept : List Message} {channelId : String}

/-- A Data packet of no kept message leaves the stream of the channel alone. -/
theorem Receipt.other_stream (htraffic : Traffic packets messages kept channelId)
    (hordered : ∀ m ∈ messages, m.ordered = true → m ∈ kept) {s t : Session}
    {packet : Packet} {expected : UInt32} {result : Except Fault ReceiveResult}
    (h : Receipt s packet expected result t) (hchannels : s.Channels)
    (hpacket : packet ∈ packets) (htype : packet.packetType = .data)
    (hother : ∀ m ∈ kept, packet ∉ m.packets) :
    t.stream channelId = s.stream channelId ∧
      (packet.channelId = channelId → packet.ordered = false) := by
  have hunordered : packet.channelId = channelId → packet.ordered = false := by
    intro hchannel
    obtain ⟨m, hm, hp⟩ := htraffic.covers packet hpacket htype hchannel
    rw [(htraffic.ok m hm).ordered packet hp]
    by_contra hne
    exact hother m (hordered m hm (Bool.eq_true_of_not_eq_false hne)) hp
  refine ⟨?_, hunordered⟩
  have hremembered : (s.rememberReceived packet.sequence).Channels :=
    hchannels.congr rfl fun _ => rfl
  cases h with
  | duplicate _ => rfl
  | refused _ message _ hr => exact (reassembles_of_eq hr).stream channelId
  | incomplete _ _ hr => exact (reassembles_of_eq hr).stream channelId
  | filtered _ frame next _ hr _ => exact (reassembles_of_eq hr).stream channelId
  | unordered _ frame next u _ hr hpass =>
      rw [(admitSequenced_frame hpass).2 channelId]
      exact (reassembles_of_eq hr).stream channelId
  | ordered _ frame next u hr =>
      obtain ⟨hchannel, hflag⟩ := hremembered.frame (reassembles_of_eq hr)
      have hne : channelId ≠ frame.channelId := by
        intro heq
        rw [hunordered (hchannel.symm.trans heq.symm)] at hflag
        cases hflag
      rw [(deliverOrdered_stream u frame next expected).2.others channelId hne]
      exact (reassembles_of_eq hr).stream channelId

/-- **What a Data packet does to the ordered messages of a channel.** -/
theorem receipt_advances (htraffic : Traffic packets messages kept channelId)
    (hordered : ∀ m ∈ messages, m.ordered = true → m ∈ kept)
    (hkept : ∀ m ∈ kept, m.ordered = true) {s t : Session} {packet : Packet}
    {result : Except Fault ReceiveResult}
    (h : Receipt s packet (s.expectedSequence packet) result t)
    (hcollects : s.CollectsAll kept) (hchannels : s.Channels) (hpacket : packet ∈ packets)
    (htype : packet.packetType = .data) :
    Advances s kept channelId (some packet) (deliveredBy result) t := by
  have hreceived := h.receivedSequences
  have hsame : ∀ m ∈ kept, packet ∉ m.packets → (t.Has m ↔ s.Has m) := by
    intro m hm hnot
    exact has_other htraffic (htraffic.subset m hm) hpacket hnot hreceived
  by_cases hmem : ∃ m ∈ kept, packet ∈ m.packets
  · obtain ⟨m, hm, hp⟩ := hmem
    have hmessage := htraffic.subset m hm
    have hok := htraffic.ok m hmessage
    have hothers : ∀ m' ∈ kept, m' ≠ m → (t.Has m' ↔ s.Has m') := by
      intro m' hm' hne
      refine hsame m' hm' fun hp' => hne ?_
      exact htraffic.disjoint m' (htraffic.subset m' hm') m hmessage packet hp' hp
    by_cases hnew : packet.sequence ∈ s.receivedSequences
    · obtain ⟨rfl, rfl⟩ := h.of_duplicate hnew
      refine .quiet rfl ?_ (fun frame hframe => by cases hframe)
      intro m' _
      exact has_congr (hreceived.trans (Finset.insert_eq_of_mem hnew)) m'
    have hmissing : ¬ s.Has m := fun hall => hnew (hall packet hp)
    have hbuffers : m.Fragmented → s.Collects m :=
      fun hfragmented => hcollects m hm hfragmented hmissing
    by_cases hall : ∀ q ∈ m.packets, q.sequence ∈ insert packet.sequence s.receivedSequences
    · -- the packet completes its message
      have hafter : t.Has m := by
        unfold Has
        rw [hreceived]
        exact hall
      have hhas : ∀ m' ∈ kept, (t.Has m' ↔ s.Has m' ∨ m' = m) := by
        intro m' hm'
        by_cases hne : m' = m
        · subst hne
          exact ⟨fun _ => Or.inr rfl, fun _ => hafter⟩
        · rw [hothers m' hm' hne]
          exact ⟨Or.inl, fun hor => hor.resolve_right hne⟩
      have hr := reassemble_complete hok hp hbuffers hall
      rw [hkept m hm] at hr
      obtain ⟨rfl, rfl⟩ := h.of_ordered hnew hr
      have hu : ((s.rememberReceived packet.sequence).reassemble packet).2.stream channelId
          = s.stream channelId := (reassembles_of_eq rfl).stream channelId
      obtain ⟨hout, hstreams⟩ := deliverOrdered_stream
        ((s.rememberReceived packet.sequence).reassemble packet).2 m.frame m.stop
        (s.expectedSequence packet)
      have hchannel : m.frame.channelId = channelId := htraffic.channel m hmessage
      have hown := hstreams.own
      rw [hchannel, hu] at hown hout
      exact .completes m packet hm rfl hp hnew hall hhas hown hout
    · -- the message stays incomplete
      obtain ⟨-, hr⟩ := reassemble_incomplete hok hp hbuffers hall
      have hhas : ∀ m' ∈ kept, (t.Has m' ↔ s.Has m') := by
        intro m' hm'
        by_cases hne : m' = m
        · subst hne
          refine iff_of_false ?_ hmissing
          unfold Has
          rw [hreceived]
          exact hall
        · exact hothers m' hm' hne
      obtain ⟨rfl, rfl⟩ := h.of_incomplete hnew (congrArg Prod.fst hr)
      exact .quiet ((reassembles_of_eq rfl).stream channelId) hhas
        (fun frame hframe => by cases hframe)
  · have hother : ∀ m ∈ kept, packet ∉ m.packets := fun m hm hp => hmem ⟨m, hm, hp⟩
    obtain ⟨hstream, hunordered⟩ :=
      h.other_stream htraffic hordered hchannels hpacket htype hother
    refine .quiet hstream (fun m hm => hsame m hm (hother m hm)) ?_
    intro frame hframe hchannel
    have hpchannel := ((h.channels hchannels).2 frame hframe).symm.trans hchannel
    exact ⟨packet, rfl, htype, hpchannel, hunordered hpchannel⟩

/-- **What a call does to the ordered messages of a channel**, whatever it is but a reset. -/
theorem call_advances (htraffic : Traffic packets messages kept channelId)
    (hordered : ∀ m ∈ messages, m.ordered = true → m ∈ kept)
    (hkept : ∀ m ∈ kept, m.ordered = true) {s s' : Session} {c : Call} {out : Output}
    (h : s.call c = some (out, s')) (hreset : c ≠ .resetPeerState)
    (hinput : ∀ p, c.input? = some p → p ∈ packets) (hcollects : s.CollectsAll kept)
    (hchannels : s.Channels) : Advances s kept channelId c.input? out.delivered s' := by
  obtain ⟨-, htakes⟩ := call_effect h
  cases htakes with
  | idle hinbound hdelivered =>
      rw [hdelivered]
      refine .quiet (stream_of_inbound hinbound channelId) ?_ (fun frame hframe => by cases hframe)
      intro m _
      exact has_congr (congrArg Inbound.receivedSequences hinbound) m
  | control packet hin _ htype hinbound hdelivered =>
      rw [hdelivered]
      have hremembered := stream_of_inbound hinbound channelId
      refine .quiet hremembered ?_ (fun frame hframe => by cases hframe)
      intro m hm
      have hmessage := htraffic.subset m hm
      have hnot : packet ∉ m.packets := fun hp =>
        htype ((htraffic.ok m hmessage).packetType packet hp)
      exact has_other htraffic hmessage (hinput packet hin) hnot
        (congrArg Inbound.receivedSequences hinbound)
  | data packet nowMs hcall _ htype result hr hdelivered =>
      have hin : c.input? = some packet := by
        rw [hcall]
        rfl
      have hreceipt := receiveData_receipt (s.receiveBase packet nowMs) packet
        (s.expectedSequence packet)
      rw [hr] at hreceipt
      have hadvances := receipt_advances htraffic hordered hkept
        (s := s.receiveBase packet nowMs) hreceipt (hcollects.receiveBase packet nowMs)
        (hchannels.congr rfl fun _ => rfl) (hinput packet hin) htype
      rw [hin, hdelivered]
      -- the prologue of `receive` touches neither the streams nor the received set
      cases hadvances with
      | quiet hs hh hd => exact .quiet hs hh hd
      | completes m p hm hi hp hnew hall hh hs hd => exact .completes m p hm hi hp hnew hall hh hs hd
  | reset hcall _ _ => exact absurd hcall hreset

end

end Session

end CultNet.Rudp
