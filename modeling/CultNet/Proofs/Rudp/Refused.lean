/-
What a refused packet leaves behind.

`receive` looks at the connection id first, and a packet of another connection
changes nothing.  Every other refusal comes from reassembly, once the packet has
been read for acknowledgements and its number has been remembered: the number is
acknowledged from then on, and the packet that should take the place of the
refused one is a duplicate.
-/
import CultNet.Proofs.Rudp.Calls

namespace CultNet.Rudp

namespace Session

/-- A refusal of a packet of the session's own connection comes after its number was
remembered. -/
theorem receive_refused_own {s s' : Session} {packet : Packet} {nowMs : Nat} {message : String}
    (hid : packet.connectionId = s.connectionId)
    (h : s.receive packet nowMs = (.error (.error message), s')) :
    packet.sequence ∉ s.receivedSequences ∧ packet.sequence ∈ s'.receivedSequences := by
  have htype : packet.packetType = .data := by
    by_contra hcontrol
    exact receive_control_error hid hcontrol h
  rw [receive_data nowMs hid htype] at h
  have hcore := core_receiveData (s.receiveBase packet nowMs) packet (s.expectedSequence packet)
  rw [h] at hcore
  have hreceived : s'.receivedSequences = insert packet.sequence s.receivedSequences :=
    congrArg Core.receivedSequences hcore
  refine ⟨?_, ?_⟩
  · intro hduplicate
    -- a duplicate is taken for received, not refused
    have hbase : packet.sequence ∈ (s.receiveBase packet nowMs).receivedSequences := hduplicate
    unfold receiveData at h
    rw [if_pos hbase] at h
    cases h
  · rw [hreceived]
    exact Finset.mem_insert_self _ _

/-- **A refused packet leaves no trace exactly when its connection id is wrong.**  Otherwise its
number is recorded as received. -/
theorem receive_refused_unchanged_iff {s s' : Session} {packet : Packet} {nowMs : Nat}
    {message : String} (h : s.receive packet nowMs = (.error (.error message), s')) :
    (s' = s ↔ packet.connectionId ≠ s.connectionId) ∧
      (packet.connectionId = s.connectionId →
        packet.sequence ∉ s.receivedSequences ∧ packet.sequence ∈ s'.receivedSequences) := by
  refine ⟨⟨?_, ?_⟩, fun hid => receive_refused_own hid h⟩
  · rintro rfl hid
    obtain ⟨hbefore, hafter⟩ := receive_refused_own hid h
    exact hbefore hafter
  · intro hforeign
    obtain ⟨text, hrefused⟩ := receive_foreign nowMs hforeign
    rw [hrefused] at h
    cases h
    rfl

/-- A Data packet of sequence 5, under a fragment set of its own. -/
def mediaPacket (connectionId : UInt32) (fragmentId fragmentCount : UInt16) : Packet where
  packetType := .data
  connectionId
  sequence := 5
  ack := 0
  ackMask := 0
  channelId := "media"
  reliable := true
  ordered := false
  sequenced := false
  fragmentId
  fragmentIndex := 0
  fragmentCount
  payload := [7]

/-- A fragment without a fragment id, at a fresh session. -/
theorem receive_refused_unchanged_fragment :
    (((Session.new { connectionId := 1 }).receive (mediaPacket 1 0 1) 0).2 =
        Session.new { connectionId := 1 } ↔
        (mediaPacket 1 0 1).connectionId ≠ (Session.new { connectionId := 1 }).connectionId) ∧
      ((mediaPacket 1 0 1).connectionId = (Session.new { connectionId := 1 }).connectionId →
        (mediaPacket 1 0 1).sequence ∉ (Session.new { connectionId := 1 }).receivedSequences ∧
          (mediaPacket 1 0 1).sequence ∈
            ((Session.new { connectionId := 1 }).receive (mediaPacket 1 0 1) 0).2.receivedSequences
      ) := by
  have hrefused : (Session.new { connectionId := 1 }).receive (mediaPacket 1 0 1) 0 =
      (.error (.error "RUDP fragmented packet must have a non-zero fragment id"),
        ((Session.new { connectionId := 1 }).receive (mediaPacket 1 0 1) 0).2) :=
    Prod.ext (by decide +kernel) rfl
  exact receive_refused_unchanged_iff hrefused

/-- A fragment without a fragment id is refused, acknowledged all the same, and the whole packet
of that number is then dropped as a duplicate. -/
theorem receive_refused_traced :
    ∃ s, Machine.Run Session.call (Session.new { connectionId := 1 }) [] s ∧
      (s.receive (mediaPacket 1 0 1) 0).1 =
        .error (.error "RUDP fragmented packet must have a non-zero fragment id") ∧
      (s.receive (mediaPacket 1 0 1) 0).2 ≠ s ∧
      (s.receive (mediaPacket 1 0 1) 0).2.ackState = (5, 0) ∧
      ((s.receive (mediaPacket 1 0 1) 0).2.receive (mediaPacket 1 0 0) 1).1 = .ok {} ∧
      (s.receive (mediaPacket 1 0 0) 1).1 = .ok { delivered := [⟨"media", [7], 5⟩] } := by
  refine ⟨Session.new { connectionId := 1 }, Machine.Run.nil, ?_, ?_, ?_, ?_, ?_⟩
  · decide +kernel
  · intro h
    have hreceived := congrArg Session.receivedSequences h
    revert hreceived
    decide +kernel
  · decide +kernel
  · decide +kernel
  · decide +kernel

end Session

end CultNet.Rudp
