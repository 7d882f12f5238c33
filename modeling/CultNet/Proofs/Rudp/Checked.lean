/-
When `receive` overflows.

The subtractions of the acknowledgement window are guarded, so they never do.
The additions are not: `receive` adds one to the highest sequence received, to the
sequence of a whole Data packet, and to the largest sequence of a message it
completes.  Each of the three overflows on `u32::MAX` and on nothing else, and as
long as nothing of that number was received the only packet that brings it in is
the one at hand.
-/
import CultNet.Rudp.Checked
import CultNet.Proofs.Rudp.ReceiveOnce
import CultNet.Proofs.Rudp.Reassembly

namespace CultNet.Rudp

/-! ### One operation -/

theorem checkedAdd_one {a : UInt32} (h : a ≠ u32Max) : checkedAdd a 1 = .ok (a + 1) := by
  have hlt := a.toNat_lt
  have hne : a.toNat ≠ 4294967295 := fun heq => h (UInt32.toNat_inj.mp heq)
  unfold checkedAdd
  rw [if_pos]
  show a.toNat + 1 < 2 ^ 32
  omega

theorem checkedAdd_max : checkedAdd u32Max 1 = .error (.panic "attempt to add with overflow") :=
  rfl

/-- Adding one gives 0 exactly to the number for which the check fails. -/
theorem add_one_eq_zero_iff (a : UInt32) : a + 1 = 0 ↔ a = u32Max := by
  constructor
  · intro h
    have hnat : (a + 1).toNat = 0 := by rw [h]; rfl
    rw [UInt32.toNat_add] at hnat
    have hlt := a.toNat_lt
    have hone : (1 : UInt32).toNat = 1 := rfl
    refine UInt32.toNat_inj.mp ?_
    show a.toNat = 4294967295
    omega
  · rintro rfl
    rfl

/-- The guard of the window covers both subtractions. -/
theorem checkedSub_window {ack bit : UInt32} (h : bit < ack) :
    (checkedSub ack bit >>= fun d => checkedSub d 1) = .ok (ack - bit - 1) := by
  have hle : bit ≤ ack := UInt32.le_of_lt h
  have hone : (1 : UInt32) ≤ ack - bit := by
    rw [UInt32.le_iff_toNat_le, UInt32.toNat_sub_of_le _ _ hle]
    have := UInt32.lt_iff_toNat_lt.mp h
    show 1 ≤ ack.toNat - bit.toNat
    omega
  show (checkedSub ack bit).bind _ = _
  unfold checkedSub
  rw [if_pos hle]
  show (if 1 ≤ ack - bit then Except.ok (ack - bit - 1) else _) = _
  rw [if_pos hone]

namespace Session

/-! ### The acknowledgement window -/

theorem applyAcknowledgementsChecked_eq (s : Session) (packet : Packet) :
    s.applyAcknowledgementsChecked packet = .ok (s.applyAcknowledgements packet) := by
  unfold applyAcknowledgementsChecked
  have hstep : (fun (pending : Std.ExtTreeMap UInt32 PendingReliablePacket) (bit : Nat) =>
      if packet.ackMask &&& (1 <<< UInt32.ofNat bit) ≠ 0 ∧ UInt32.ofNat bit < packet.ack then do
        let sequence ← checkedSub (← checkedSub packet.ack (UInt32.ofNat bit)) 1
        pure (pending.erase sequence)
      else (pure pending : Except Fault _))
      = fun pending bit => pure
        (if packet.ackMask &&& (1 <<< UInt32.ofNat bit) ≠ 0 ∧ UInt32.ofNat bit < packet.ack then
          pending.erase (packet.ack - UInt32.ofNat bit - 1)
        else pending) := by
    funext pending bit
    by_cases h : packet.ackMask &&& (1 <<< UInt32.ofNat bit) ≠ 0 ∧ UInt32.ofNat bit < packet.ack
    · rw [if_pos h, if_pos h, ← bind_assoc, checkedSub_window h.2]
      rfl
    · rw [if_neg h, if_neg h]
  rw [hstep, List.foldlM_pure]
  rfl

theorem ackStateChecked_eq (s : Session) : s.ackStateChecked = .ok s.ackState := by
  unfold ackStateChecked ackState
  dsimp only
  generalize s.highestReceivedSequence.getD 0 = ack
  have hstep : (fun (ackMask : UInt32) (bit : Nat) =>
      if UInt32.ofNat bit < ack then do
        let sequence ← checkedSub (← checkedSub ack (UInt32.ofNat bit)) 1
        pure (if sequence ∈ s.receivedSequences then ackMask ||| (1 <<< UInt32.ofNat bit)
          else ackMask)
      else (pure ackMask : Except Fault UInt32))
      = fun ackMask bit => pure
        (if UInt32.ofNat bit < ack ∧ ack - UInt32.ofNat bit - 1 ∈ s.receivedSequences then
          ackMask ||| (1 <<< UInt32.ofNat bit)
        else ackMask) := by
    funext ackMask bit
    by_cases h : UInt32.ofNat bit < ack
    · rw [if_pos h, ← bind_assoc, checkedSub_window h]
      simp only [h, true_and]
      rfl
    · rw [if_neg h, if_neg fun hand => h hand.1]
  rw [hstep, List.foldlM_pure]
  rfl

theorem createPongChecked_eq (s : Session) (payload : List UInt8) :
    s.createPongChecked payload
      = .ok (s.createPacket .pong "control" payload false false false) := by
  unfold createPongChecked createPacket createPacketWithFragments
  by_cases h : s.nextSequence = u32Max
  · rw [if_pos h, if_pos h]
    rfl
  · rw [if_neg h, if_neg h, ackStateChecked_eq]
    rfl

/-! ### Reassembly -/

/-- Where the number after the frame does not wrap to 0, the checked build agrees. -/
theorem reassembleChecked_eq {s : Session} {packet : Packet}
    (h : ∀ frame ordered, (s.reassemble packet).1 ≠ .ok (some (frame, ordered, 0))) :
    s.reassembleChecked packet = .ok (s.reassemble packet) := by
  unfold reassembleChecked
  unfold reassemble at h ⊢
  split
  · rename_i hcount
    rw [if_pos hcount] at h
    rw [checkedAdd_one fun hmax => h _ _ (by rw [(add_one_eq_zero_iff _).mpr hmax])]
    rfl
  rename_i hcount
  rw [if_neg hcount] at h
  split
  · rfl
  rename_i hid
  rw [if_neg hid] at h
  split
  · rfl
  rename_i hindex
  rw [if_neg hindex] at h
  dsimp only at h ⊢
  split
  · rfl
  rename_i hmetadata
  rw [if_neg hmetadata] at h
  split
  · rfl
  rename_i hsize
  rw [if_neg hsize] at h
  generalize FragmentBuffer.collect _ _ = collected at h ⊢
  cases collected with
  | none => rfl
  | some payload =>
    dsimp only at h ⊢
    rw [checkedAdd_one fun hmax => h _ _ (by rw [(add_one_eq_zero_iff _).mpr hmax])]
    rfl

/-- Where it does, the checked build panics. -/
theorem reassembleChecked_panic {s : Session} {packet : Packet} {frame : DeliveredFrame}
    {ordered : Bool} (h : (s.reassemble packet).1 = .ok (some (frame, ordered, 0))) :
    s.reassembleChecked packet = .error (.panic "attempt to add with overflow") := by
  unfold reassembleChecked
  unfold reassemble at h
  split
  · rename_i hcount
    rw [if_pos hcount] at h
    simp only [Except.ok.injEq, Option.some.injEq, Prod.mk.injEq, add_one_eq_zero_iff] at h
    rw [h.2.2, checkedAdd_max]
    rfl
  rename_i hcount
  rw [if_neg hcount] at h
  split
  · rename_i hid
    rw [if_pos hid] at h
    cases h
  rename_i hid
  rw [if_neg hid] at h
  split
  · rename_i hindex
    rw [if_pos hindex] at h
    cases h
  rename_i hindex
  rw [if_neg hindex] at h
  dsimp only at h ⊢
  split
  · rename_i hmetadata
    rw [if_pos hmetadata] at h
    cases h
  rename_i hmetadata
  rw [if_neg hmetadata] at h
  split
  · rename_i hsize
    rw [if_pos hsize] at h
    cases h
  rename_i hsize
  rw [if_neg hsize] at h
  generalize FragmentBuffer.collect _ _ = collected at h ⊢
  cases collected with
  | none => cases h
  | some payload =>
    dsimp only at h ⊢
    simp only [Except.ok.injEq, Option.some.injEq, Prod.mk.injEq, add_one_eq_zero_iff] at h
    rw [h.2.2, checkedAdd_max]
    rfl

/-- The largest of a list of numbers is `u32::MAX` exactly if that is one of them. -/
theorem max?_getD_eq_max_iff (qs : List UInt32) : qs.max?.getD 0 = u32Max ↔ u32Max ∈ qs := by
  cases hmax : qs.max? with
  | none =>
      rw [List.max?_eq_none_iff] at hmax
      subst hmax
      exact iff_of_false (by decide) (List.not_mem_nil)
  | some q =>
      obtain ⟨hmem, hle⟩ := List.max?_eq_some_iff.mp hmax
      simp only [Option.getD_some]
      constructor
      · rintro rfl
        exact hmem
      · intro hin
        refine UInt32.le_antisymm ?_ (hle _ hin)
        rw [UInt32.le_iff_toNat_le]
        have := q.toNat_lt
        show q.toNat ≤ 4294967295
        omega

/-- Where nothing of the number `u32::MAX` waits in a fragment buffer, the number after the frame
wraps exactly if the packet at hand has that number. -/
theorem reassemble_next {s t : Session} {packet : Packet} {frame : DeliveredFrame}
    {ordered : Bool} {next : UInt32}
    (hheld : ∀ key index part, s.Holds key index part → part.1 ≠ u32Max)
    (h : s.reassemble packet = (.ok (some (frame, ordered, next)), t)) :
    next = 0 ↔ packet.sequence = u32Max := by
  generalize hresult : (Except.ok (some (frame, ordered, next)) :
    Except String (Option (DeliveredFrame × Bool × UInt32))) = result at h
  cases reassembles_of_eq h with
  | whole _ =>
      cases hresult
      exact add_one_eq_zero_iff _
  | refused _ _ _ => cases hresult
  | kept _ _ _ => cases hresult
  | completed hcount hfits payload sequences hcollect =>
      cases hresult
      rw [add_one_eq_zero_iff, max?_getD_eq_max_iff]
      obtain ⟨parts, rfl, -, hslots⟩ := FragmentBuffer.collect_eq_some hcollect
      constructor
      · intro hmem
        obtain ⟨part, hpart, hmax⟩ := List.mem_map.mp hmem
        obtain ⟨i, hi, rfl⟩ := List.getElem_of_mem hpart
        have hslot := hslots.get (hslots.length_eq ▸ hi) hi
        simp only [List.get_eq_getElem] at hslot
        rw [FragmentBuffer.slot_add] at hslot
        split at hslot
        · rw [hslot.1, hmax]
        · exact absurd hmax (hheld _ _ _ (slot_bufferFor.mp hslot))
      · intro hmax
        obtain ⟨i, hi, hindex⟩ := List.getElem_of_mem (mem_fragmentIndices.mpr hfits.index)
        have hslot := hslots.get hi (hslots.length_eq ▸ hi)
        simp only [List.get_eq_getElem, hindex] at hslot
        rw [FragmentBuffer.slot_add, if_pos rfl, hmax] at hslot
        exact List.mem_map.mpr ⟨_, List.getElem_mem (hslots.length_eq ▸ hi), hslot.1.symm⟩

/-! ### `receive` -/

/-- The packet is whole, or a fragment that reassembly takes. -/
def Takes (s : Session) (packet : Packet) : Prop := packet.fragmentCount = 0 ∨ s.Fits packet

/-- No number `receive` counts on from is `u32::MAX`: not the highest received, not that of a Data
packet that completes a message, and not the next to give to an answer. -/
structure RoomFor (s : Session) (packet : Packet) : Prop where
  highest : s.highestReceivedSequence ≠ some u32Max
  completed : packet.packetType = .data → s.Takes packet → ∀ first, s.Completes packet first →
    packet.sequence ≠ u32Max
  answer : packet.packetType = .ping → s.nextSequence ≠ u32Max

/-- Only the fragment buffers decide what reassembly takes. -/
theorem Takes.congr {s t : Session} {packet : Packet} (h : s.Takes packet)
    (hbuffers : t.fragmentBuffers = s.fragmentBuffers) : t.Takes packet := by
  have hfor : t.bufferFor packet = s.bufferFor packet := by
    unfold bufferFor
    rw [hbuffers]
  rcases h with h | h
  · exact Or.inl h
  · exact Or.inr ⟨h.fragmentId, h.index, by rw [hfor, h.count], by rw [hfor, h.ordered]⟩

/-- Reassembly brings out a frame from exactly the packets it takes that complete a message. -/
theorem reassemble_frame_iff (s : Session) (packet : Packet) :
    (∃ frame ordered next, (s.reassemble packet).1 = .ok (some (frame, ordered, next))) ↔
      s.Takes packet ∧ ∃ first, s.Completes packet first := by
  have houtcome := reassemble_outcome s packet
  generalize (s.reassemble packet).1 = result at houtcome
  generalize (s.reassemble packet).2 = t at houtcome
  cases hresult : result with
  | error message =>
      rw [hresult] at houtcome
      refine iff_of_false (by rintro ⟨_, _, _, h⟩; cases h) ?_
      rintro ⟨htakes, -⟩
      cases houtcome with
      | refused _ hcount hfits =>
          rcases htakes with h | h
          · exact hcount h
          · exact hfits h
  | ok outcome =>
      rw [hresult] at houtcome
      have htakes : s.Takes packet := by
        cases houtcome with
        | whole hcount => exact Or.inl hcount
        | kept _ hfits _ => exact Or.inr hfits
        | completed _ hfits _ _ _ => exact Or.inr hfits
      rw [and_iff_right htakes]
      constructor
      · rintro ⟨frame, ordered, next, h⟩
        cases h
        exact ⟨_, (completes_iff houtcome _).mpr ⟨frame, ordered, next, rfl, rfl⟩⟩
      · rintro ⟨first, hfirst⟩
        obtain ⟨frame, ordered, next, h, -⟩ := (completes_iff houtcome _).mp hfirst
        exact ⟨frame, ordered, next, by rw [h]⟩

/-- What the call goes on with once the prologue has not overflowed. -/
theorem expectedSequenceChecked_eq {s : Session} (packet : Packet)
    (h : s.highestReceivedSequence ≠ some u32Max) :
    s.expectedSequenceChecked packet = .ok (s.expectedSequence packet) := by
  unfold expectedSequenceChecked expectedSequence
  cases hh : s.highestReceivedSequence with
  | none => rfl
  | some highest => exact checkedAdd_one fun hmax => h (by rw [hh, hmax])

/-- `receive` of a packet of its connection: the addition of the prologue, and then the rest. -/
theorem receiveChecked_eq {s : Session} {packet : Packet} (nowMs : Nat)
    (hid : packet.connectionId = s.connectionId) :
    s.receiveChecked packet nowMs
      = (s.receiveBase packet nowMs).expectedSequenceChecked packet >>= fun expected =>
          (s.receiveBase packet nowMs).receiveByTypeChecked packet expected := by
  unfold receiveChecked
  rw [requireConnection_ok.mpr hid, applyAcknowledgementsChecked_eq]
  rfl

theorem receiveChecked_highest {s : Session} {packet : Packet} (nowMs : Nat)
    (hid : packet.connectionId = s.connectionId) (h : s.highestReceivedSequence = some u32Max) :
    s.receiveChecked packet nowMs = .error (.panic "attempt to add with overflow") := by
  have hpanic : (s.receiveBase packet nowMs).expectedSequenceChecked packet
      = .error (.panic "attempt to add with overflow") := by
    unfold expectedSequenceChecked
    rw [show (s.receiveBase packet nowMs).highestReceivedSequence = some u32Max from h]
    rfl
  rw [receiveChecked_eq nowMs hid, hpanic]
  rfl

/-- Without an overflow in the prologue the rest goes on from the number `receive` computes. -/
theorem receiveChecked_rest {s : Session} {packet : Packet} (nowMs : Nat)
    (hid : packet.connectionId = s.connectionId) (h : s.highestReceivedSequence ≠ some u32Max) :
    s.receiveChecked packet nowMs
      = (s.receiveBase packet nowMs).receiveByTypeChecked packet (s.expectedSequence packet) := by
  have hexpected : (s.receiveBase packet nowMs).expectedSequenceChecked packet
      = .ok (s.expectedSequence packet) :=
    expectedSequenceChecked_eq (s := s.receiveBase packet nowMs) packet h
  rw [receiveChecked_eq nowMs hid, hexpected]
  rfl

/-- A packet that is no Data packet costs no further addition. -/
theorem receiveChecked_control {s : Session} {packet : Packet} (nowMs : Nat)
    (hid : packet.connectionId = s.connectionId) (htype : packet.packetType ≠ .data)
    (h : s.highestReceivedSequence ≠ some u32Max) :
    s.receiveChecked packet nowMs = .ok (s.receive packet nowMs) := by
  rw [receiveChecked_rest nowMs hid h]
  unfold receiveByTypeChecked receive
  rw [requireConnection_ok.mpr hid]
  cases ht : packet.packetType with
  | data => exact absurd ht htype
  | ping =>
      dsimp only
      rw [createPongChecked_eq]
      unfold receiveBase
      generalize createPacket _ _ _ _ _ _ _ = created
      obtain ⟨outcome, s'⟩ := created
      cases outcome with
      | error fault => rfl
      | ok pong => rfl
  | connect => rfl
  | accept => rfl
  | ack => rfl
  | pong => rfl
  | disconnect => rfl

theorem receiveChecked_data {s : Session} {packet : Packet} (nowMs : Nat)
    (hid : packet.connectionId = s.connectionId) (htype : packet.packetType = .data)
    (h : s.highestReceivedSequence ≠ some u32Max) :
    s.receiveChecked packet nowMs
      = (s.receiveBase packet nowMs).receiveDataChecked packet (s.expectedSequence packet) := by
  rw [receiveChecked_rest nowMs hid h]
  unfold receiveByTypeChecked
  rw [htype]

/-- A Data packet costs the addition of reassembly, if it is new. -/
theorem receiveDataChecked_eq {s : Session} {packet : Packet} (expected : UInt32)
    (h : packet.sequence ∉ s.receivedSequences →
      (s.rememberReceived packet.sequence).reassembleChecked packet
        = .ok ((s.rememberReceived packet.sequence).reassemble packet)) :
    s.receiveDataChecked packet expected = .ok (s.receiveData packet expected) := by
  unfold receiveDataChecked receiveData
  dsimp only
  by_cases hduplicate : packet.sequence ∈ s.receivedSequences
  · rw [if_pos hduplicate, if_pos hduplicate]
    rfl
  rw [if_neg hduplicate, if_neg hduplicate, h hduplicate]
  generalize reassemble _ packet = reassembled
  obtain ⟨outcome, s'⟩ := reassembled
  cases outcome with
  | error message => rfl
  | ok message =>
    cases message with
    | none => rfl
    | some frame =>
      dsimp only [bind, Except.bind]
      generalize admitSequenced s' _ _ _ = accepted
      cases accepted with
      | none => rfl
      | some s'' =>
        dsimp only
        split <;> rfl

theorem receiveDataChecked_panic {s : Session} {packet : Packet} (expected : UInt32)
    (hnew : packet.sequence ∉ s.receivedSequences)
    (h : (s.rememberReceived packet.sequence).reassembleChecked packet
      = .error (.panic "attempt to add with overflow")) :
    s.receiveDataChecked packet expected = .error (.panic "attempt to add with overflow") := by
  unfold receiveDataChecked
  dsimp only
  rw [if_neg hnew, h]
  rfl

/-- Only the answer to a Ping can fail for want of a number, and only a Ping is answered. -/
theorem receive_panics_iff {s : Session} {packet : Packet} (nowMs : Nat)
    (hid : packet.connectionId = s.connectionId) :
    (∃ message, (s.receive packet nowMs).1 = .error (.panic message)) ↔
      packet.packetType = .ping ∧ s.nextSequence = u32Max := by
  unfold receive
  rw [requireConnection_ok.mpr hid]
  dsimp only
  cases ht : packet.packetType with
  | ping =>
      have hnext : ((({ s.applyAcknowledgements packet with lastReceivedAtMs := some nowMs }
          : Session).rememberReceived packet.sequence).nextSequence) = s.nextSequence := rfl
      unfold createPacket createPacketWithFragments
      rw [hnext]
      by_cases hmax : s.nextSequence = u32Max
      · rw [if_pos hmax]
        simp [hmax]
      · rw [if_neg hmax]
        simp [hmax]
  | data =>
      refine iff_of_false ?_ (fun h => by cases h.1)
      unfold receiveData
      dsimp only
      rintro ⟨message, h⟩
      repeat' split at h
      all_goals cases h
  | connect => simp
  | accept => simp
  | ack => simp
  | pong => simp
  | disconnect => simp

/-- Below the highest received sequence lies everything received. -/
theorem ReceivedOK.max_notMem {s : Session} (ok : ReceivedOK s)
    (h : s.highestReceivedSequence ≠ some u32Max) : u32Max ∉ s.receivedSequences := by
  intro hmem
  cases hh : s.highestReceivedSequence with
  | none =>
      rw [ok.empty hh] at hmem
      simp at hmem
  | some highest =>
      have hle := UInt32.le_iff_toNat_le.mp (ok.le highest hh _ hmem)
      have hlt := highest.toNat_lt
      have hmax : u32Max.toNat = 4294967295 := rfl
      have heq : highest = u32Max := UInt32.toNat_inj.mp (by omega)
      exact h (by rw [hh, heq])

/-- A checked build computes what a release build does exactly if there is room for the packet. -/
theorem receiveChecked_iff {s : Session} {packet : Packet} (nowMs : Nat) (ok : ReceivedOK s)
    (hheld : ∀ key index part, s.Holds key index part → part.1 ∈ s.receivedSequences)
    (hid : packet.connectionId = s.connectionId) :
    (s.receiveChecked packet nowMs = .ok (s.receive packet nowMs) ∧
        ∀ message, (s.receive packet nowMs).1 ≠ .error (.panic message)) ↔
      s.RoomFor packet := by
  have hpanics := receive_panics_iff nowMs hid
  by_cases hhighest : s.highestReceivedSequence = some u32Max
  · refine iff_of_false ?_ (fun h => h.highest hhighest)
    rintro ⟨hchecked, -⟩
    rw [receiveChecked_highest nowMs hid hhighest] at hchecked
    cases hchecked
  by_cases htype : packet.packetType = .data
  · have hdata := receiveChecked_data nowMs hid htype hhighest
    have hping : ¬ packet.packetType = .ping := by rw [htype]; decide
    have hmax := ok.max_notMem hhighest
    -- the session reassembly sees has the buffers of `s`, and nothing waits there under `u32::MAX`
    obtain ⟨u, hu⟩ : ∃ u, u = (s.receiveBase packet nowMs).rememberReceived packet.sequence :=
      ⟨_, rfl⟩
    have hbuffers : u.fragmentBuffers = s.fragmentBuffers := by rw [hu]; rfl
    have hwaits : ∀ key index part, u.Holds key index part → part.1 ≠ u32Max := by
      intro key index part hpart heq
      unfold Holds at hpart
      rw [hbuffers] at hpart
      exact hmax (heq ▸ hheld key index part hpart)
    constructor
    · rintro ⟨hchecked, -⟩
      refine ⟨hhighest, fun _ htakes first hfirst heq => ?_, fun h => absurd h hping⟩
      obtain ⟨frame, ordered, next, hframe⟩ := (reassemble_frame_iff u packet).mpr
        ⟨htakes.congr hbuffers, first, hfirst.congr hbuffers⟩
      have hreassemble : u.reassemble packet
          = (.ok (some (frame, ordered, next)), (u.reassemble packet).2) := Prod.ext hframe rfl
      rw [(reassemble_next hwaits hreassemble).mpr heq] at hframe
      have hpanic := reassembleChecked_panic hframe
      rw [hu] at hpanic
      rw [hdata, receiveDataChecked_panic _ (by rw [heq]; exact hmax) hpanic] at hchecked
      cases hchecked
    · intro hroom
      refine ⟨?_, fun message h => hping (hpanics.mp ⟨message, h⟩).1⟩
      rw [hdata, receive_data nowMs hid htype]
      refine receiveDataChecked_eq _ fun _ => ?_
      rw [← hu]
      refine reassembleChecked_eq fun frame ordered hframe => ?_
      obtain ⟨htakes, first, hfirst⟩ := (reassemble_frame_iff u packet).mp ⟨frame, ordered, 0, hframe⟩
      have hreassemble : u.reassemble packet
          = (.ok (some (frame, ordered, 0)), (u.reassemble packet).2) := Prod.ext hframe rfl
      exact hroom.completed htype (htakes.congr hbuffers.symm) first (hfirst.congr hbuffers.symm)
        ((reassemble_next hwaits hreassemble).mp rfl)
  · rw [receiveChecked_control nowMs hid htype hhighest, and_iff_right rfl]
    constructor
    · intro hquiet
      refine ⟨hhighest, fun h => absurd h htype, fun hping hmax => ?_⟩
      obtain ⟨message, h⟩ := hpanics.mpr ⟨hping, hmax⟩
      exact hquiet message h
    · intro hroom message h
      obtain ⟨hping, hmax⟩ := hpanics.mp ⟨message, h⟩
      exact hroom.answer hping hmax

/-- A session's highest received sequence is the number of a packet it was given. -/
theorem highest_of_run {options : SessionOptions} {log : CallLog} {s : Session}
    (hrun : Machine.Run Session.call (Session.new options) log s) {highest : UInt32}
    (h : s.highestReceivedSequence = some highest) :
    ∃ entry ∈ log, ∃ packet, entry.1.input? = some packet ∧ packet.sequence = highest := by
  induction hrun generalizing highest with
  | nil => cases h
  | @snoc log t s' c out _ hcall ih =>
      have hearlier : t.highestReceivedSequence = some highest →
          ∃ entry ∈ log ++ [(c, out)], ∃ packet, entry.1.input? = some packet ∧
            packet.sequence = highest := by
        intro ht
        obtain ⟨entry, hentry, packet, hinput, heq⟩ := ih ht
        exact ⟨entry, List.mem_append_left _ hentry, packet, hinput, heq⟩
      cases (call_effect hcall).2.receives with
      | same hwindow => exact hearlier ((congrArg Prod.fst hwindow).symm.trans h)
      | remember packet hinput _ hwindow =>
          have hhighest : (t.rememberReceived packet.sequence).highestReceivedSequence
              = some highest := (congrArg Prod.fst hwindow).symm.trans h
          have hlast : (∃ entry ∈ log ++ [(c, out)], ∃ p, entry.1.input? = some p ∧
              p.sequence = packet.sequence) :=
            ⟨(c, out), List.mem_append_right _ List.mem_cons_self, packet, hinput, rfl⟩
          unfold rememberReceived at hhighest
          dsimp only at hhighest
          split at hhighest
          · cases hhighest
            exact hlast
          · rename_i old hold
            split at hhighest
            · cases hhighest
              exact hlast
            · cases hhighest
              exact hearlier hold
      | reset _ hwindow =>
          have hnone := (congrArg Prod.fst hwindow).symm.trans h
          cases hnone

/--
**When `receive` overflows.**  In every state a session can get to, and for every packet of its
connection, a checked build computes what a release build computes, and does not panic, exactly
if there is room for the packet; for a packet of another connection it always does.  And the
highest sequence received is `u32::MAX` only if a packet of that number was taken in.
-/
theorem receive_no_overflow_iff {options : SessionOptions} {log : CallLog} {s : Session}
    (hrun : Machine.Run Session.call (Session.new options) log s) :
    (∀ (packet : Packet) (nowMs : Nat),
      (s.receiveChecked packet nowMs = .ok (s.receive packet nowMs) ∧
          ∀ message, (s.receive packet nowMs).1 ≠ .error (.panic message)) ↔
        (packet.connectionId = s.connectionId → s.RoomFor packet)) ∧
      ((∀ entry ∈ log, ∀ packet, entry.1.input? = some packet → packet.sequence ≠ u32Max) →
        s.highestReceivedSequence ≠ some u32Max) := by
  constructor
  · intro packet nowMs
    by_cases hid : packet.connectionId = s.connectionId
    · have ok : ReceivedOK s := by
        refine hrun.invariant (receivedOK_new options) fun t c out t' hok hcall => ?_
        exact (call_effect hcall).2.receives.receivedOK hok
      obtain ⟨audit, haudit, rfl⟩ := Audit.exists_run (Audit.new options) hrun
      rw [receiveChecked_iff nowMs ok (Audit.auditOK_run haudit).parts.held_received hid]
      exact ⟨fun h _ => h, fun h => h hid⟩
    · refine iff_of_true ?_ (fun h => absurd h hid)
      obtain ⟨message, hforeign⟩ := receive_foreign nowMs hid
      have hrefused : ∃ text, s.requireConnection packet = .error text := by
        unfold requireConnection
        rw [if_pos hid]
        exact ⟨_, rfl⟩
      obtain ⟨text, htext⟩ := hrefused
      constructor
      · unfold receiveChecked receive
        rw [htext]
        rfl
      · intro message' h
        rw [hforeign] at h
        cases h
  · intro hinputs hmax
    obtain ⟨entry, hentry, packet, hinput, heq⟩ := highest_of_run hrun hmax
    exact hinputs entry hentry packet hinput heq

/-- An ordered Data packet of the channel "chat". -/
def chatPacket (sequence : UInt32) : Packet where
  packetType := .data
  connectionId := 1
  sequence
  ack := 0
  ackMask := 0
  channelId := "chat"
  reliable := true
  ordered := true
  sequenced := false
  fragmentId := 0
  fragmentIndex := 0
  fragmentCount := 0
  payload := []

/-- A fresh session receives a first packet. -/
theorem receive_no_overflow_first :
    (Session.new { connectionId := 1 }).receiveChecked (chatPacket 1) 0
      = .ok ((Session.new { connectionId := 1 }).receive (chatPacket 1) 0) := by
  have hroom : (Session.new { connectionId := 1 }).RoomFor (chatPacket 1) :=
    { highest := by decide
      completed := fun _ _ _ _ => by decide
      answer := fun h => by cases h }
  have hrun : Machine.Run Session.call (Session.new { connectionId := 1 }) []
      (Session.new { connectionId := 1 }) := Machine.Run.nil
  exact (((receive_no_overflow_iff hrun).1 (chatPacket 1) 0).mpr fun _ => hroom).1

/-- A datagram numbered `u32::MAX` makes a checked build panic, and a release build expect 0. -/
theorem receive_overflows :
    ∃ (log : CallLog) (s : Session) (wire : List UInt8) (packet : Packet),
      Machine.Run Session.call (Session.new { connectionId := 1 }) log s ∧
      decodeRudpPacket wire = .ok packet ∧
      s.receiveChecked packet 0 = .error (.panic "attempt to add with overflow") ∧
      (s.receive packet 0).2.orderedNextSequenceByChannel["chat"]? = some 0 := by
  refine ⟨[], Session.new { connectionId := 1 }, wireOf (chatPacket u32Max), chatPacket u32Max,
    Machine.Run.nil, ?_, ?_, ?_⟩
  · decide +kernel
  · have hnew : (Session.new { connectionId := 1 }).highestReceivedSequence ≠ some u32Max :=
      fun h => by cases h
    rw [receiveChecked_data 0 rfl rfl hnew]
    exact receiveDataChecked_panic _ (Finset.notMem_empty _) rfl
  · decide +kernel

end Session

end CultNet.Rudp
