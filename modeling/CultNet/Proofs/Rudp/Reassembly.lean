/-
Reassembly puts every message together again.

The messages of a channel reach a receiver as packets in any order.  While a
fragmented message is incomplete, its buffer holds exactly those of its packets
that have been received (`Collects`); the packet that completes a message makes
reassembly return its frame, and no other packet does.  What travels on other
channels, and control packets, do not come into it.
-/
import CultNet.Proofs.Rudp.AtMostOnce
import CultNet.Proofs.Rudp.Message

namespace CultNet.Rudp

/--
`packets` may reach a receiver, and those of them on one channel carry `messages`; `kept` are
those of the messages that no other one can get mixed up with.
-/
structure Traffic (packets : List Packet) (messages kept : List Message) (channelId : String) :
    Prop where
  distinct : ∀ p ∈ packets, ∀ q ∈ packets, p.sequence = q.sequence → p = q
  ok : ∀ m ∈ messages, m.OK
  channel : ∀ m ∈ messages, m.channelId = channelId
  mem : ∀ m ∈ messages, ∀ p ∈ m.packets, p ∈ packets
  covers : ∀ p ∈ packets, p.packetType = .data → p.channelId = channelId →
    ∃ m ∈ messages, p ∈ m.packets
  disjoint : ∀ m ∈ messages, ∀ m' ∈ messages, ∀ p ∈ m.packets, p ∈ m'.packets → m = m'
  subset : ∀ m ∈ kept, m ∈ messages
  /-- No other fragmented message of the channel has the fragment id of a kept one. -/
  ids : ∀ m ∈ kept, ∀ m' ∈ messages, m.Fragmented → m'.Fragmented →
    m.fragmentId = m'.fragmentId → m = m'

/-! ### Well-formed messages -/

instance lawfulOrderMaxUInt32 : Std.LawfulOrderMax UInt32 where
  max_eq_or a b := by
    show (if a ≤ b then b else a) = a ∨ (if a ≤ b then b else a) = b
    split
    · exact Or.inr rfl
    · exact Or.inl rfl
  max_le_iff a b c := by
    show (if a ≤ b then b else a) ≤ c ↔ a ≤ c ∧ b ≤ c
    split
    · rename_i h
      exact ⟨fun hb => ⟨UInt32.le_trans h hb, hb⟩, fun hboth => hboth.2⟩
    · rename_i h
      have hba : b ≤ a := UInt32.le_of_lt (UInt32.not_le.mp h)
      exact ⟨fun ha => ⟨ha, UInt32.le_trans hba ha⟩, fun hboth => hboth.1⟩

namespace Message.OK

variable {m : Message}

theorem ofNat_index_inj (h : m.OK) {i j : Nat} (hi : i < m.packets.length)
    (hj : j < m.packets.length) (heq : UInt16.ofNat i = UInt16.ofNat j) : i = j := by
  have hle : m.packets.length ≤ 65535 := h.length_le
  have hnat := congrArg UInt16.toNat heq
  rw [UInt16.toNat_ofNat', UInt16.toNat_ofNat', Nat.mod_eq_of_lt (by omega),
    Nat.mod_eq_of_lt (by omega)] at hnat
  exact hnat

/-- The places of a message are told apart by the sequence numbers. -/
theorem place_unique (h : m.OK) {i j : Nat} {p q : Packet} (hp : m.packets[i]? = some p)
    (hq : m.packets[j]? = some q) (heq : p.sequence = q.sequence) : i = j := by
  have hi := h.sequence i p hp
  have hj := h.sequence j q hq
  rw [heq] at hi
  omega

theorem toNat_count (h : m.OK) : (UInt16.ofNat m.packets.length).toNat = m.packets.length := by
  have hle : m.packets.length ≤ 65535 := h.length_le
  rw [UInt16.toNat_ofNat', Nat.mod_eq_of_lt (by omega)]

/-- The last packet of a message, in place. -/
theorem last (h : m.OK) : ∃ p, m.packets[m.packets.length - 1]? = some p := by
  have hpos := List.length_pos_iff.mpr h.nonempty
  exact ⟨_, List.getElem?_eq_getElem (by omega)⟩

theorem min_sequence (h : m.OK) : ((m.packets.map (·.sequence)).min?).getD 0 = m.first := by
  have hpos := List.length_pos_iff.mpr h.nonempty
  have hp : m.packets[0]? = some m.packets[0] := List.getElem?_eq_getElem hpos
  have hfirst : m.packets[0].sequence = m.first := by
    rw [← UInt32.toNat_inj]
    exact h.sequence 0 _ hp
  have hmin : (m.packets.map (·.sequence)).min? = some m.first := by
    rw [List.min?_eq_some_iff]
    refine ⟨?_, ?_⟩
    · rw [← hfirst]
      exact List.mem_map_of_mem (List.getElem_mem hpos)
    · intro q hq
      obtain ⟨p, hmem, rfl⟩ := List.mem_map.mp hq
      obtain ⟨i, hi⟩ := List.mem_iff_getElem?.mp hmem
      rw [UInt32.le_iff_toNat_le, h.sequence i p hi]
      omega
  rw [hmin, Option.getD_some]

/-- The number after the last packet's. -/
theorem max_sequence (h : m.OK) :
    ((m.packets.map (·.sequence)).max?).getD 0 + 1 = m.stop := by
  obtain ⟨last, hlast⟩ := h.last
  have hpos := List.length_pos_iff.mpr h.nonempty
  have hmax : (m.packets.map (·.sequence)).max? = some last.sequence := by
    rw [List.max?_eq_some_iff]
    refine ⟨List.mem_map_of_mem (List.mem_iff_getElem?.mpr ⟨_, hlast⟩), ?_⟩
    intro q hq
    obtain ⟨p, hmem, rfl⟩ := List.mem_map.mp hq
    obtain ⟨i, hi⟩ := List.mem_iff_getElem?.mp hmem
    obtain ⟨hlt, -⟩ := List.getElem?_eq_some_iff.mp hi
    rw [UInt32.le_iff_toNat_le, h.sequence i p hi, h.sequence _ last hlast]
    omega
  rw [hmax, Option.getD_some]
  unfold Message.stop
  rw [← UInt32.toNat_inj, UInt32.toNat_add, UInt32.toNat_add, h.sequence _ last hlast,
    UInt32.toNat_one, UInt32.toNat_ofNat']
  omega

end Message.OK

namespace Session

/-- Every packet of the message has been received. -/
def Has (s : Session) (m : Message) : Prop := ∀ p ∈ m.packets, p.sequence ∈ s.receivedSequences

theorem has_congr {s t : Session} (h : t.receivedSequences = s.receivedSequences) (m : Message) :
    t.Has m ↔ s.Has m := by
  unfold Has
  rw [h]

/-- What is complete stays complete. -/
theorem Has.insert {s t : Session} {m : Message} (hall : s.Has m) {sequence : UInt32}
    (h : t.receivedSequences = insert sequence s.receivedSequences) : t.Has m := by
  intro p hp
  rw [h]
  exact Finset.mem_insert_of_mem (hall p hp)

/-- The buffer of an incomplete message holds exactly its received packets. -/
structure Collects (s : Session) (m : Message) : Prop where
  header : ∀ buffer, s.fragmentBuffers[m.key]? = some buffer →
    buffer.channelId = m.channelId ∧ buffer.ordered = m.ordered ∧
      buffer.fragmentCount = UInt16.ofNat m.packets.length
  slots : ∀ index part, s.Holds m.key index part ↔
    ∃ (i : Nat) (p : Packet), m.packets[i]? = some p ∧ p.sequence ∈ s.receivedSequences ∧
      index = UInt16.ofNat i ∧ part = (p.sequence, p.payload)

/-- Every incomplete fragmented message of a list has its buffer in order. -/
def CollectsAll (s : Session) (messages : List Message) : Prop :=
  ∀ m ∈ messages, m.Fragmented → ¬ s.Has m → s.Collects m

theorem collects_of_none {s : Session} {m : Message} (hbuffer : s.fragmentBuffers[m.key]? = none)
    (hnone : ∀ p ∈ m.packets, p.sequence ∉ s.receivedSequences) : s.Collects m where
  header := by
    intro buffer hsome
    rw [hbuffer] at hsome
    cases hsome
  slots := by
    intro index part
    constructor
    · rintro ⟨buffer, hsome, -⟩
      rw [hbuffer] at hsome
      cases hsome
    · rintro ⟨i, p, hp, hmem, -, -⟩
      exact absurd hmem (hnone p (List.mem_iff_getElem?.mpr ⟨i, hp⟩))

/-- Only the buffer of the message and the receipt of its packets matter. -/
theorem Collects.congr {s t : Session} {m : Message} (h : s.Collects m)
    (hbuffer : t.fragmentBuffers[m.key]? = s.fragmentBuffers[m.key]?)
    (hreceived : ∀ p ∈ m.packets,
      (p.sequence ∈ t.receivedSequences ↔ p.sequence ∈ s.receivedSequences)) : t.Collects m where
  header := by
    rw [hbuffer]
    exact h.header
  slots := by
    intro index part
    have hholds : t.Holds m.key index part ↔ s.Holds m.key index part := by
      unfold Holds
      rw [hbuffer]
    rw [hholds, h.slots]
    constructor
    · rintro ⟨i, p, hp, hmem, hrest⟩
      exact ⟨i, p, hp, (hreceived p (List.mem_iff_getElem?.mpr ⟨i, hp⟩)).mpr hmem, hrest⟩
    · rintro ⟨i, p, hp, hmem, hrest⟩
      exact ⟨i, p, hp, (hreceived p (List.mem_iff_getElem?.mpr ⟨i, hp⟩)).mp hmem, hrest⟩

/-- The prologue of `receive` leaves the buffers and the received set alone. -/
theorem CollectsAll.receiveBase {s : Session} {messages : List Message}
    (h : s.CollectsAll messages) (packet : Packet) (nowMs : Nat) :
    (s.receiveBase packet nowMs).CollectsAll messages := by
  intro m hm hfragmented hmissing
  exact (h m hm hfragmented hmissing).congr rfl fun _ _ => Iff.rfl

/-! ### One fragment -/

section

variable {s : Session} {m : Message} {p : Packet} {i : Nat}

theorem fragmentKey_of_message (hok : m.OK) (hfragmented : m.Fragmented)
    (hp : m.packets[i]? = some p) : p.fragmentKey = m.key := by
  unfold Packet.fragmentKey Message.key
  rw [hok.channel p (List.mem_iff_getElem?.mpr ⟨i, hp⟩), (hok.fragments hfragmented i p hp).1]

/-- The slots of the buffer once a new packet of the message is added. -/
theorem Collects.slot_add (h : s.Collects m) (hok : m.OK) (hfragmented : m.Fragmented)
    (hp : m.packets[i]? = some p) (index : UInt16) (part : UInt32 × List UInt8) :
    ((s.bufferFor p).add p).Slot index part.1 part.2 ↔
      ∃ (j : Nat) (q : Packet), m.packets[j]? = some q ∧
        q.sequence ∈ insert p.sequence s.receivedSequences ∧
        index = UInt16.ofNat j ∧ part = (q.sequence, q.payload) := by
  obtain ⟨hi, -⟩ := List.getElem?_eq_some_iff.mp hp
  rw [FragmentBuffer.slot_add, (hok.fragments hfragmented i p hp).2.1]
  by_cases hindex : UInt16.ofNat i = index
  · rw [if_pos hindex]
    constructor
    · rintro ⟨hsequence, hpayload⟩
      exact ⟨i, p, hp, Finset.mem_insert_self _ _, hindex.symm,
        Prod.ext hsequence.symm hpayload.symm⟩
    · rintro ⟨j, q, hq, -, hj, rfl⟩
      obtain ⟨hlt, -⟩ := List.getElem?_eq_some_iff.mp hq
      obtain rfl := hok.ofNat_index_inj hi hlt (hindex.trans hj)
      rw [hp] at hq
      cases hq
      exact ⟨rfl, rfl⟩
  · rw [if_neg hindex, slot_bufferFor, fragmentKey_of_message hok hfragmented hp, h.slots]
    constructor
    · rintro ⟨j, q, hq, hmem, hrest⟩
      exact ⟨j, q, hq, Finset.mem_insert_of_mem hmem, hrest⟩
    · rintro ⟨j, q, hq, hmem, hj, hpart⟩
      refine ⟨j, q, hq, ?_, hj, hpart⟩
      rcases Finset.mem_insert.mp hmem with hsame | hmem
      · have hij := hok.place_unique hq hp hsame
        rw [hij] at hj
        exact absurd hj.symm hindex
      · exact hmem

theorem Collects.fits (h : s.Collects m) (hok : m.OK) (hfragmented : m.Fragmented)
    (hp : m.packets[i]? = some p) : Fits s p := by
  obtain ⟨hi, -⟩ := List.getElem?_eq_some_iff.mp hp
  obtain ⟨hid, hindex, hcount⟩ := hok.fragments hfragmented i p hp
  have hle : m.packets.length ≤ 65535 := hok.length_le
  have hheader : (s.bufferFor p).fragmentCount = p.fragmentCount ∧
      (s.bufferFor p).ordered = p.ordered := by
    unfold bufferFor
    rw [fragmentKey_of_message hok hfragmented hp]
    cases hbuffer : s.fragmentBuffers[m.key]? with
    | none => exact ⟨rfl, rfl⟩
    | some buffer =>
        obtain ⟨-, hordered, hlength⟩ := h.header buffer hbuffer
        rw [Option.getD_some, hcount, hok.ordered p (List.mem_iff_getElem?.mpr ⟨i, hp⟩)]
        exact ⟨hlength, hordered⟩
  refine ⟨?_, ?_, hheader.1, hheader.2⟩
  · rw [hid]
    exact hok.fragmentId hfragmented
  · rw [hindex, hcount, UInt16.lt_iff_toNat_lt, UInt16.toNat_ofNat', UInt16.toNat_ofNat',
      Nat.mod_eq_of_lt (by omega), Nat.mod_eq_of_lt (by omega)]
    exact hi

/-- The buffer of a message is one of its channel, whether it is there already or not. -/
theorem Collects.channelId (h : s.Collects m) (hok : m.OK) (hfragmented : m.Fragmented)
    (hp : m.packets[i]? = some p) : (s.bufferFor p).channelId = m.channelId := by
  unfold bufferFor
  rw [fragmentKey_of_message hok hfragmented hp]
  cases hbuffer : s.fragmentBuffers[m.key]? with
  | none => exact hok.channel p (List.mem_iff_getElem?.mpr ⟨i, hp⟩)
  | some buffer => exact (h.header buffer hbuffer).1

/-- Remembering a number changes nothing of what a fragment fits. -/
theorem Collects.fits_remembered (h : s.Collects m) (hok : m.OK) (hfragmented : m.Fragmented)
    (hp : m.packets[i]? = some p) : Fits (s.rememberReceived p.sequence) p := by
  have hfits := h.fits hok hfragmented hp
  exact ⟨hfits.fragmentId, hfits.index, hfits.count, hfits.ordered⟩

/-- The packets of a message fill the slots of its buffer once all of them are there. -/
theorem Collects.collect_complete (h : s.Collects m) (hok : m.OK) (hfragmented : m.Fragmented)
    (hp : m.packets[i]? = some p)
    (hall : ∀ q ∈ m.packets, q.sequence ∈ insert p.sequence s.receivedSequences) :
    ((s.bufferFor p).add p).collect (fragmentIndices p.fragmentCount)
      = some (m.payload, m.packets.map (·.sequence)) := by
  have hslots : List.Forall₂
      (fun index part => ((s.bufferFor p).add p).Slot index part.1 part.2)
      (fragmentIndices p.fragmentCount) (m.packets.map fun q => (q.sequence, q.payload)) := by
    rw [(hok.fragments hfragmented i p hp).2.2, List.forall₂_iff_get]
    have hlength : (fragmentIndices (UInt16.ofNat m.packets.length)).length
        = (m.packets.map fun q => (q.sequence, q.payload)).length := by
      simp only [fragmentIndices, List.length_map, List.length_range, hok.toNat_count]
    refine ⟨hlength, ?_⟩
    intro j hj hj'
    have hlt : j < m.packets.length := by simpa using hj'
    refine (h.slot_add hok hfragmented hp _ _).mpr
      ⟨j, m.packets[j], List.getElem?_eq_getElem hlt, hall _ (List.getElem_mem hlt), ?_, ?_⟩
    · simp [fragmentIndices]
    · simp
  rw [FragmentBuffer.collect_of_slots hslots]
  congr 1
  refine Prod.ext ?_ ?_
  · show (m.packets.map fun q => (q.sequence, q.payload)).flatMap Prod.snd = m.payload
    rw [← hok.payload, List.flatMap_map]
  · show (m.packets.map fun q => (q.sequence, q.payload)).map Prod.fst = _
    rw [List.map_map]
    rfl

/-- An incomplete message leaves a slot empty. -/
theorem Collects.collect_incomplete (h : s.Collects m) (hok : m.OK)
    (hfragmented : m.Fragmented) (hp : m.packets[i]? = some p)
    (hmissing : ¬ ∀ q ∈ m.packets, q.sequence ∈ insert p.sequence s.receivedSequences) :
    ((s.bufferFor p).add p).collect (fragmentIndices p.fragmentCount) = none := by
  cases hcollect : ((s.bufferFor p).add p).collect (fragmentIndices p.fragmentCount) with
  | none => rfl
  | some result =>
      refine absurd ?_ hmissing
      obtain ⟨payload, sequences⟩ := result
      obtain ⟨parts, -, -, hslots⟩ := FragmentBuffer.collect_eq_some hcollect
      intro q hq
      obtain ⟨j, hj⟩ := List.mem_iff_getElem?.mp hq
      obtain ⟨hlt, -⟩ := List.getElem?_eq_some_iff.mp hj
      have hle : m.packets.length ≤ 65535 := hok.length_le
      have hindex : UInt16.ofNat j ∈ fragmentIndices p.fragmentCount := by
        rw [mem_fragmentIndices, (hok.fragments hfragmented i p hp).2.2, UInt16.lt_iff_toNat_lt,
          UInt16.toNat_ofNat', UInt16.toNat_ofNat', Nat.mod_eq_of_lt (by omega),
          Nat.mod_eq_of_lt (by omega)]
        exact hlt
      obtain ⟨k, hk, hget⟩ := List.getElem_of_mem hindex
      have hslot := hslots.get hk (hslots.length_eq ▸ hk)
      rw [List.get_eq_getElem, hget] at hslot
      obtain ⟨j', q', hq', hmem, hsame, -⟩ :=
        (h.slot_add hok hfragmented hp _ _).mp hslot
      obtain ⟨hlt', -⟩ := List.getElem?_eq_some_iff.mp hq'
      obtain rfl := hok.ofNat_index_inj hlt hlt' hsame
      rw [hj] at hq'
      cases hq'
      exact hmem

/-- **A packet that completes its message is answered with the frame of the message.** -/
theorem reassemble_complete (hok : m.OK) (hmem : p ∈ m.packets)
    (hcollects : m.Fragmented → s.Collects m)
    (hall : ∀ q ∈ m.packets, q.sequence ∈ insert p.sequence s.receivedSequences) :
    ((s.rememberReceived p.sequence).reassemble p).1
      = .ok (some (m.frame, m.ordered, m.stop)) := by
  obtain ⟨i, hp⟩ := List.mem_iff_getElem?.mp hmem
  by_cases hfragmented : m.Fragmented
  · have h := hcollects hfragmented
    have hfits := h.fits_remembered hok hfragmented hp
    have hcollect := h.collect_complete hok hfragmented hp hall
    have hbuffer : (s.rememberReceived p.sequence).bufferFor p = s.bufferFor p := rfl
    rw [reassemble_full hfits hcollect, hbuffer, h.channelId hok hfragmented hp,
      hok.min_sequence, hok.max_sequence, hok.ordered p hmem]
    rfl
  · have hcount := hok.whole hfragmented p hmem
    have hpos := List.length_pos_iff.mpr hok.nonempty
    have hone : m.packets.length = 1 := by
      have hlt : ¬ 2 ≤ m.packets.length := hfragmented
      omega
    obtain ⟨q, hq⟩ := List.length_eq_one_iff.mp hone
    have hself : q = p := by
      rw [hq, List.mem_singleton] at hmem
      exact hmem.symm
    subst hself
    have hpayload : q.payload = m.payload := by
      rw [← hok.payload, hq, List.flatMap_singleton]
    have hfirst : q.sequence = m.first := by
      unfold Message.first
      rw [hq]
      rfl
    unfold reassemble
    rw [if_pos hcount, hok.channel q hmem, hpayload, hfirst, hok.ordered q hmem]
    unfold Message.stop
    rw [hone]
    rfl

/-- A packet of a message that stays incomplete is kept in its buffer. -/
theorem reassemble_incomplete (hok : m.OK) (hmem : p ∈ m.packets)
    (hcollects : m.Fragmented → s.Collects m)
    (hmissing : ¬ ∀ q ∈ m.packets, q.sequence ∈ insert p.sequence s.receivedSequences) :
    m.Fragmented ∧ (s.rememberReceived p.sequence).reassemble p
      = (.ok none, { s.rememberReceived p.sequence with
          fragmentBuffers :=
            s.fragmentBuffers.insert p.fragmentKey ((s.bufferFor p).add p) }) := by
  obtain ⟨i, hp⟩ := List.mem_iff_getElem?.mp hmem
  have hfragmented : m.Fragmented := by
    by_contra hwhole
    have hpos := List.length_pos_iff.mpr hok.nonempty
    have hlt : ¬ 2 ≤ m.packets.length := hwhole
    obtain ⟨q, hq⟩ := List.length_eq_one_iff.mp (show m.packets.length = 1 by omega)
    apply hmissing
    intro r hr
    rw [hq, List.mem_singleton] at hr hmem
    rw [hr, hmem]
    exact Finset.mem_insert_self _ _
  have h := hcollects hfragmented
  have hnone := h.collect_incomplete hok hfragmented hp hmissing
  exact ⟨hfragmented, reassemble_open (h.fits_remembered hok hfragmented hp) hnone⟩

/-- Keeping a packet of the message keeps its buffer in order. -/
theorem Collects.kept {t : Session} (h : s.Collects m) (hok : m.OK)
    (hfragmented : m.Fragmented) (hp : m.packets[i]? = some p)
    (hreceived : t.receivedSequences = insert p.sequence s.receivedSequences)
    (hbuffers : t.fragmentBuffers
      = s.fragmentBuffers.insert p.fragmentKey ((s.bufferFor p).add p)) : t.Collects m := by
  have hkey := fragmentKey_of_message hok hfragmented hp
  have hfits := h.fits hok hfragmented hp
  have hmem : p ∈ m.packets := List.mem_iff_getElem?.mpr ⟨i, hp⟩
  have hown : t.fragmentBuffers[m.key]? = some ((s.bufferFor p).add p) := by
    rw [hbuffers, hkey, Std.ExtTreeMap.getElem?_insert_self]
  refine ⟨?_, ?_⟩
  · intro buffer hbuffer
    rw [hown, Option.some.injEq] at hbuffer
    subst hbuffer
    refine ⟨?_, ?_, ?_⟩
    · exact h.channelId hok hfragmented hp
    · exact hfits.ordered.trans (hok.ordered p hmem)
    · exact hfits.count.trans (hok.fragments hfragmented i p hp).2.2
  · intro index part
    rw [hreceived, ← h.slot_add hok hfragmented hp index part]
    unfold Holds
    rw [hown]
    constructor
    · rintro ⟨buffer, hbuffer, hslot⟩
      cases hbuffer
      exact hslot
    · intro hslot
      exact ⟨_, rfl, hslot⟩

end

/-! ### One packet, whatever it is -/

/-- Reassembly writes to the buffer of its packet only. -/
theorem Reassembles.fragmentBuffers {s t : Session} {packet : Packet}
    {result : Except String (Option (DeliveredFrame × Bool × UInt32))}
    (h : Reassembles s packet result t) {key : FragmentKey}
    (hkey : packet.fragmentCount ≠ 0 → packet.fragmentKey ≠ key) :
    t.fragmentBuffers[key]? = s.fragmentBuffers[key]? := by
  cases h with
  | whole hcount => rfl
  | refused message hcount hfits => rfl
  | kept hcount hfits hopen =>
      exact (OrderedMap.getElem?_insert_eq _ _ _ _).trans (if_neg (hkey hcount))
  | completed hcount hfits payload sequences hcollect =>
      exact (OrderedMap.getElem?_erase_eq _ _ _).trans (if_neg (hkey hcount))

/-- What comes after reassembly leaves the fragment buffers alone. -/
theorem Receipt.fragmentBuffers {s t : Session} {packet : Packet} {expected : UInt32}
    {result : Except Fault ReceiveResult} (h : Receipt s packet expected result t)
    (hnew : packet.sequence ∉ s.receivedSequences) :
    t.fragmentBuffers
      = ((s.rememberReceived packet.sequence).reassemble packet).2.fragmentBuffers := by
  cases h with
  | duplicate hold => exact absurd hold hnew
  | refused _ message _ hr => rw [hr]
  | incomplete _ _ hr => rw [hr]
  | filtered _ frame next _ hr _ => rw [hr]
  | unordered _ frame next u _ hr hpass =>
      rw [hr]
      exact (admitSequenced_frame hpass).1
  | ordered _ frame next u hr =>
      rw [hr]
      exact (deliverOrdered_stream u frame next expected).2.fragmentBuffers

theorem Receipt.receivedSequences {s t : Session} {packet : Packet} {expected : UInt32}
    {result : Except Fault ReceiveResult} (h : Receipt s packet expected result t) :
    t.receivedSequences = insert packet.sequence s.receivedSequences := by
  have hreassemble : ∀ {r u}, (s.rememberReceived packet.sequence).reassemble packet = (r, u) →
      u.receivedSequences = insert packet.sequence s.receivedSequences := by
    intro r u hr
    have hcore := core_reassemble (s.rememberReceived packet.sequence) packet
    rw [hr] at hcore
    exact congrArg Core.receivedSequences hcore
  cases h with
  | duplicate _ => rfl
  | refused _ message _ hr => exact hreassemble hr
  | incomplete _ _ hr => exact hreassemble hr
  | filtered _ frame next _ hr _ => exact hreassemble hr
  | unordered _ frame next u _ hr hpass =>
      exact (congrArg Core.receivedSequences (core_admitSequenced hpass)).trans (hreassemble hr)
  | ordered _ frame next u hr =>
      exact (congrArg Core.receivedSequences (core_deliverOrdered u frame next expected)).trans
        (hreassemble hr)

section

variable {packets : List Packet} {messages kept : List Message} {channelId : String}

/-- Receiving a packet that is none of the message's leaves its receipt as it was. -/
theorem received_other (htraffic : Traffic packets messages kept channelId) {m : Message}
    (hm : m ∈ messages) {p : Packet} (hp : p ∈ packets) (hother : p ∉ m.packets)
    (received : Finset UInt32) :
    ∀ q ∈ m.packets, (q.sequence ∈ insert p.sequence received ↔ q.sequence ∈ received) := by
  intro q hq
  rw [Finset.mem_insert]
  constructor
  · rintro (hsame | hmem)
    · have heq := htraffic.distinct q (htraffic.mem m hm q hq) p hp hsame
      rw [heq] at hq
      exact absurd hq hother
    · exact hmem
  · exact Or.inr

/-- It completes no message but its own. -/
theorem has_other (htraffic : Traffic packets messages kept channelId) {m : Message}
    (hm : m ∈ messages) {p : Packet} (hp : p ∈ packets) (hother : p ∉ m.packets) {s t : Session}
    (h : t.receivedSequences = insert p.sequence s.receivedSequences) : t.Has m ↔ s.Has m := by
  unfold Has
  rw [h]
  exact forall₂_congr (received_other htraffic hm hp hother s.receivedSequences)

/-- **A Data packet keeps the buffers of a channel in order.** -/
theorem receipt_collects (htraffic : Traffic packets messages kept channelId) {s t : Session}
    {packet : Packet} {expected : UInt32} {result : Except Fault ReceiveResult}
    (hcollects : s.CollectsAll kept) (hpacket : packet ∈ packets)
    (htype : packet.packetType = .data) (h : Receipt s packet expected result t) :
    t.CollectsAll kept := by
  intro m hkept hfragmented hmissing
  have hm := htraffic.subset m hkept
  have hreceived := h.receivedSequences
  have hmissing' : ¬ s.Has m := fun hall => hmissing (hall.insert hreceived)
  have hbefore := hcollects m hkept hfragmented hmissing'
  by_cases hnew : packet.sequence ∈ s.receivedSequences
  · obtain ⟨-, rfl⟩ := h.of_duplicate hnew
    refine hbefore.congr rfl ?_
    intro p _
    rw [hreceived, Finset.insert_eq_of_mem hnew]
  have hbuffers := h.fragmentBuffers hnew
  by_cases hown : packet ∈ m.packets
  · -- the message stays incomplete, so its packet is kept
    obtain ⟨i, hp⟩ := List.mem_iff_getElem?.mp hown
    have hopen : ¬ ∀ q ∈ m.packets, q.sequence ∈ insert packet.sequence s.receivedSequences := by
      rw [← hreceived]
      exact hmissing
    obtain ⟨-, hr⟩ :=
      reassemble_incomplete (htraffic.ok m hm) hown (fun _ => hbefore) hopen
    rw [hr] at hbuffers
    exact hbefore.kept (htraffic.ok m hm) hfragmented hp hreceived hbuffers
  · refine hbefore.congr ?_ ?_
    · rw [hbuffers]
      refine (reassemble_outcome _ packet).fragmentBuffers ?_
      -- another packet with the key of this message would be one of its packets
      intro hcount hkey
      apply hown
      have hchannel : packet.channelId = channelId :=
        (congrArg (fun k : FragmentKey => (ofLex k).1) hkey).trans (htraffic.channel m hm)
      have hid : packet.fragmentId = m.fragmentId :=
        congrArg (fun k : FragmentKey => (ofLex k).2) hkey
      obtain ⟨m', hm', hmem⟩ := htraffic.covers packet hpacket htype hchannel
      obtain ⟨j, hj⟩ := List.mem_iff_getElem?.mp hmem
      have hfragmented' : m'.Fragmented := by
        by_contra hwhole
        exact hcount ((htraffic.ok m' hm').whole hwhole packet hmem)
      have hid' := ((htraffic.ok m' hm').fragments hfragmented' j packet hj).1
      rw [htraffic.ids m hkept m' hm' hfragmented hfragmented' (hid.symm.trans hid')]
      exact hmem
    · rw [hreceived]
      exact received_other htraffic hm hpacket hown s.receivedSequences

/-- **A call keeps the buffers of a channel in order**, whatever it is but a reset. -/
theorem call_collects (htraffic : Traffic packets messages kept channelId) {s s' : Session}
    {c : Call} {out : Output} (h : s.call c = some (out, s')) (hreset : c ≠ .resetPeerState)
    (hinput : ∀ p, c.input? = some p → p ∈ packets) (hcollects : s.CollectsAll kept) :
    s'.CollectsAll kept := by
  obtain ⟨-, htakes⟩ := call_effect h
  cases htakes with
  | idle hinbound _ =>
      have hreceived : s'.receivedSequences = s.receivedSequences :=
        congrArg Inbound.receivedSequences hinbound
      have hbuffers : s'.fragmentBuffers = s.fragmentBuffers :=
        congrArg Inbound.fragmentBuffers hinbound
      intro m hm hfragmented hmissing
      have hmissing' : ¬ s.Has m := (has_congr hreceived m).not.mp hmissing
      refine (hcollects m hm hfragmented hmissing').congr ?_ ?_
      · rw [hbuffers]
      · intro p _
        rw [hreceived]
  | control packet hin hid htype hinbound _ =>
      have hreceived : s'.receivedSequences = insert packet.sequence s.receivedSequences :=
        congrArg Inbound.receivedSequences hinbound
      have hbuffers : s'.fragmentBuffers = s.fragmentBuffers :=
        congrArg Inbound.fragmentBuffers hinbound
      intro m hkept hfragmented hmissing
      have hm := htraffic.subset m hkept
      have hother : packet ∉ m.packets := fun hmem =>
        htype ((htraffic.ok m hm).packetType packet hmem)
      have hsame := received_other htraffic hm (hinput packet hin) hother s.receivedSequences
      have hmissing' : ¬ s.Has m := fun hall => hmissing (hall.insert hreceived)
      refine (hcollects m hkept hfragmented hmissing').congr ?_ ?_
      · rw [hbuffers]
      · rw [hreceived]
        exact hsame
  | data packet nowMs hcall hid htype result hr _ =>
      have hreceipt := receiveData_receipt (s.receiveBase packet nowMs) packet
        (s.expectedSequence packet)
      rw [hr] at hreceipt
      exact receipt_collects htraffic (hcollects.receiveBase packet nowMs)
        (hinput packet (by rw [hcall]; rfl)) htype hreceipt
  | reset hcall _ _ => exact absurd hcall hreset

end

end Session

end CultNet.Rudp
