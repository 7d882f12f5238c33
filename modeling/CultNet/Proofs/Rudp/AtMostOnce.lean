/-
A session delivers everything at most once, whoever its peer is.

Two invariants tie the books of an audit to the session it follows:

  * `PartsOK`: no packet is part of two frames, and what waits in a fragment
    buffer is part of none.
  * `FramesOK`: no frame is delivered twice, and what waits in an ordered buffer
    has not been delivered.

Nothing is assumed of the packets; a duplicate is caught by its number alone.
-/
import CultNet.Lib.Fallible
import CultNet.Proofs.Rudp.Delivery

namespace CultNet.Rudp

namespace Audit

/-- The audit follows every run of the session. -/
theorem exists_run (start : Audit) {log : CallLog} {s : Session}
    (h : Machine.Run Session.call start.session log s) :
    ∃ audit, Machine.Run Audit.step start log audit ∧ audit.session = s := by
  refine Machine.Run.lift (fun audit c out s' hcall => ?_) h
  unfold step
  rw [hcall]
  refine ⟨_, rfl, ?_⟩
  cases c <;> rfl

end Audit

/-! ### The parts of frames -/

namespace Session

/-- `part` waits in the slot `index` of the fragment buffer `key`. -/
def Holds (s : Session) (key : FragmentKey) (index : UInt16) (part : UInt32 × List UInt8) :
    Prop :=
  ∃ buffer, s.fragmentBuffers[key]? = some buffer ∧ buffer.Slot index part.1 part.2

theorem slot_bufferFor {s : Session} {packet : Packet} {index : UInt16}
    {part : UInt32 × List UInt8} :
    (s.bufferFor packet).Slot index part.1 part.2 ↔ s.Holds packet.fragmentKey index part := by
  unfold bufferFor Holds
  cases h : s.fragmentBuffers[packet.fragmentKey]? with
  | none =>
      constructor
      · intro hslot
        exact absurd hslot FragmentBuffer.slot_new
      · rintro ⟨buffer, hbuffer, -⟩
        cases hbuffer
  | some buffer =>
      constructor
      · intro hslot
        exact ⟨buffer, rfl, hslot⟩
      · rintro ⟨buffer', hbuffer, hslot⟩
        cases hbuffer
        exact hslot

/-- The slots once a fragment was kept: its own holds it, the others are as they were. -/
theorem holds_kept {s t : Session} {packet : Packet}
    (h : t.fragmentBuffers
      = s.fragmentBuffers.insert packet.fragmentKey ((s.bufferFor packet).add packet))
    {key : FragmentKey} {index : UInt16} {part : UInt32 × List UInt8} :
    t.Holds key index part →
      key = packet.fragmentKey ∧ index = packet.fragmentIndex ∧
        part = (packet.sequence, packet.payload) ∨
      s.Holds key index part := by
  rintro ⟨buffer, hbuffer, hslot⟩
  rw [h, OrderedMap.getElem?_insert_eq] at hbuffer
  by_cases hkey : packet.fragmentKey = key
  · rw [if_pos hkey, Option.some.injEq] at hbuffer
    subst hbuffer
    rw [FragmentBuffer.slot_add] at hslot
    by_cases hindex : packet.fragmentIndex = index
    · rw [if_pos hindex] at hslot
      exact Or.inl ⟨hkey.symm, hindex.symm, Prod.ext hslot.1.symm hslot.2.symm⟩
    · rw [if_neg hindex, slot_bufferFor, hkey] at hslot
      exact Or.inr hslot
  · rw [if_neg hkey] at hbuffer
    exact Or.inr ⟨buffer, hbuffer, hslot⟩

/-- The books on fragments and frames put together agree with the session. -/
structure PartsOK (s : Session) (arrived : List Packet) (assembled : List Assembly) : Prop where
  received : ∀ a ∈ assembled, ∀ part ∈ a.parts, part.1 ∈ s.receivedSequences
  nodup : (assembled.flatMap fun a => a.parts.map Prod.fst).Nodup
  payload : ∀ a ∈ assembled, a.frame.payload = a.parts.flatMap Prod.snd
  sequence : ∀ a ∈ assembled, a.frame.sequence ∈ a.parts.map Prod.fst
  origin : ∀ a ∈ assembled, ∀ part ∈ a.parts, ∃ p ∈ arrived, part = (p.sequence, p.payload)
  held_received : ∀ key index part, s.Holds key index part → part.1 ∈ s.receivedSequences
  held_unique : ∀ key index part key' index' part', s.Holds key index part →
    s.Holds key' index' part' → part.1 = part'.1 → key = key' ∧ index = index'
  held_free : ∀ key index part, s.Holds key index part →
    ∀ a ∈ assembled, part.1 ∉ a.parts.map Prod.fst
  held_origin : ∀ key index part, s.Holds key index part →
    ∃ p ∈ arrived, part = (p.sequence, p.payload)

theorem partsOK_empty {s : Session} (h : s.fragmentBuffers = ∅) : PartsOK s [] [] := by
  have hnone : ∀ key index part, ¬ s.Holds key index part := by
    rintro key index part ⟨buffer, hbuffer, -⟩
    rw [h] at hbuffer
    simp at hbuffer
  refine ⟨?_, List.nodup_nil, ?_, ?_, ?_, ?_, ?_, ?_, ?_⟩
  · intro a ha; cases ha
  · intro a ha; cases ha
  · intro a ha; cases ha
  · intro a ha; cases ha
  · intro key index part hheld
    exact absurd hheld (hnone key index part)
  · intro key index part _ _ _ hheld
    exact absurd hheld (hnone key index part)
  · intro key index part hheld
    exact absurd hheld (hnone key index part)
  · intro key index part hheld
    exact absurd hheld (hnone key index part)

variable {s t : Session} {arrived arrived' : List Packet} {assembled : List Assembly}

/-- Receiving more and holding less keeps the books right. -/
theorem PartsOK.mono (h : PartsOK s arrived assembled)
    (hreceived : s.receivedSequences ⊆ t.receivedSequences)
    (hheld : ∀ key index part, t.Holds key index part → s.Holds key index part)
    (harrived : arrived ⊆ arrived') : PartsOK t arrived' assembled where
  received := fun a ha part hpart => hreceived (h.received a ha part hpart)
  nodup := h.nodup
  payload := h.payload
  sequence := h.sequence
  origin := by
    intro a ha part hpart
    obtain ⟨p, hp, heq⟩ := h.origin a ha part hpart
    exact ⟨p, harrived hp, heq⟩
  held_received := fun key index part hp =>
    hreceived (h.held_received key index part (hheld key index part hp))
  held_unique := fun key index part key' index' part' hp hp' =>
    h.held_unique key index part key' index' part' (hheld _ _ _ hp) (hheld _ _ _ hp')
  held_free := fun key index part hp => h.held_free key index part (hheld _ _ _ hp)
  held_origin := by
    intro key index part hp
    obtain ⟨p, hmem, heq⟩ := h.held_origin key index part (hheld _ _ _ hp)
    exact ⟨p, harrived hmem, heq⟩

/-- Only the received numbers and the fragment buffers matter to the books on fragments. -/
theorem PartsOK.of_buffers (h : PartsOK s arrived assembled)
    (hreceived : s.receivedSequences ⊆ t.receivedSequences)
    (hbuffers : t.fragmentBuffers = s.fragmentBuffers) : PartsOK t arrived assembled := by
  refine h.mono hreceived ?_ (List.Subset.refl _)
  rintro key index part ⟨buffer, hbuffer, hslot⟩
  rw [hbuffers] at hbuffer
  exact ⟨buffer, hbuffer, hslot⟩

/-- The number of a packet not received before is in nobody's books. -/
theorem PartsOK.fresh (h : PartsOK s arrived assembled) {q : UInt32}
    (hq : q ∉ s.receivedSequences) :
    (∀ a ∈ assembled, q ∉ a.parts.map Prod.fst) ∧
      ∀ key index part, s.Holds key index part → part.1 ≠ q := by
  refine ⟨?_, ?_⟩
  · intro a ha hmem
    obtain ⟨part, hpart, rfl⟩ := List.mem_map.mp hmem
    exact hq (h.received a ha part hpart)
  · rintro key index part hheld rfl
    exact hq (h.held_received key index part hheld)

/-- A new fragment goes into its slot; what the slot held before is forgotten. -/
theorem PartsOK.kept {packet : Packet} (h : PartsOK s arrived assembled)
    (hnew : packet.sequence ∉ s.receivedSequences)
    (hreceived : t.receivedSequences = insert packet.sequence s.receivedSequences)
    (hbuffers : t.fragmentBuffers
      = s.fragmentBuffers.insert packet.fragmentKey ((s.bufferFor packet).add packet)) :
    PartsOK t (arrived ++ [packet]) assembled := by
  obtain ⟨hassembled, hheld⟩ := h.fresh hnew
  have hmono : s.receivedSequences ⊆ t.receivedSequences := by
    rw [hreceived]
    exact Finset.subset_insert _ _
  refine ⟨?_, h.nodup, h.payload, h.sequence, ?_, ?_, ?_, ?_, ?_⟩
  · exact fun a ha part hpart => hmono (h.received a ha part hpart)
  · intro a ha part hpart
    obtain ⟨p, hp, heq⟩ := h.origin a ha part hpart
    exact ⟨p, List.mem_append.mpr (Or.inl hp), heq⟩
  · intro key index part hp
    rcases holds_kept hbuffers hp with ⟨-, -, rfl⟩ | hp
    · rw [hreceived]
      exact Finset.mem_insert_self _ _
    · exact hmono (h.held_received key index part hp)
  · intro key index part key' index' part' hp hp' hsame
    rcases holds_kept hbuffers hp with ⟨rfl, rfl, rfl⟩ | hp
    · rcases holds_kept hbuffers hp' with ⟨rfl, rfl, -⟩ | hp'
      · exact ⟨rfl, rfl⟩
      · exact absurd hsame.symm (hheld _ _ _ hp')
    · rcases holds_kept hbuffers hp' with ⟨rfl, rfl, rfl⟩ | hp'
      · exact absurd hsame (hheld _ _ _ hp)
      · exact h.held_unique _ _ _ _ _ _ hp hp' hsame
  · intro key index part hp
    rcases holds_kept hbuffers hp with ⟨-, -, rfl⟩ | hp
    · exact hassembled
    · exact h.held_free key index part hp
  · intro key index part hp
    rcases holds_kept hbuffers hp with ⟨-, -, rfl⟩ | hp
    · exact ⟨packet, List.mem_append.mpr (Or.inr (List.mem_singleton_self packet)), rfl⟩
    · obtain ⟨p, hmem, heq⟩ := h.held_origin key index part hp
      exact ⟨p, List.mem_append.mpr (Or.inl hmem), heq⟩

/-- A frame made of parts that are in no other frame and in no buffer. -/
theorem PartsOK.append (h : PartsOK s arrived assembled) {a : Assembly}
    (hreceived : ∀ part ∈ a.parts, part.1 ∈ s.receivedSequences)
    (hnodup : (a.parts.map Prod.fst).Nodup)
    (hpayload : a.frame.payload = a.parts.flatMap Prod.snd)
    (hsequence : a.frame.sequence ∈ a.parts.map Prod.fst)
    (horigin : ∀ part ∈ a.parts, ∃ p ∈ arrived, part = (p.sequence, p.payload))
    (hfree : ∀ q ∈ a.parts.map Prod.fst, ∀ b ∈ assembled, q ∉ b.parts.map Prod.fst)
    (hheld : ∀ key index part, s.Holds key index part → part.1 ∉ a.parts.map Prod.fst) :
    PartsOK s arrived (assembled ++ [a]) := by
  have hcases : ∀ b ∈ assembled ++ [a], b ∈ assembled ∨ b = a := by
    intro b hb
    rcases List.mem_append.mp hb with hb | hb
    · exact Or.inl hb
    · exact Or.inr (List.mem_singleton.mp hb)
  refine ⟨?_, ?_, ?_, ?_, ?_, h.held_received, h.held_unique, ?_, h.held_origin⟩
  · intro b hb
    rcases hcases b hb with hb | rfl
    · exact h.received b hb
    · exact hreceived
  · rw [List.flatMap_append, List.nodup_append]
    refine ⟨h.nodup, by simpa using hnodup, ?_⟩
    rintro q hq q' hq' rfl
    obtain ⟨b, hb, hmem⟩ := List.mem_flatMap.mp hq
    rw [List.flatMap_singleton] at hq'
    exact hfree q hq' b hb hmem
  · intro b hb
    rcases hcases b hb with hb | rfl
    · exact h.payload b hb
    · exact hpayload
  · intro b hb
    rcases hcases b hb with hb | rfl
    · exact h.sequence b hb
    · exact hsequence
  · intro b hb
    rcases hcases b hb with hb | rfl
    · exact h.origin b hb
    · exact horigin
  · intro key index part hp b hb
    rcases hcases b hb with hb | rfl
    · exact h.held_free key index part hp b hb
    · exact hheld key index part hp

/-- Two frames put together differ in their numbers. -/
theorem PartsOK.frame_inj (h : PartsOK s arrived assembled) {a b : Assembly}
    (ha : a ∈ assembled) (hb : b ∈ assembled) (hsame : a.frame.sequence = b.frame.sequence) :
    a = b := by
  have hsequence := h.sequence b hb
  rw [← hsame] at hsequence
  exact eq_of_mem_flatMap h.nodup ha hb (h.sequence a ha) hsequence

/-- The number of a frame just put together is new among the frames. -/
theorem PartsOK.frame_fresh {a : Assembly} (h : PartsOK s arrived (assembled ++ [a])) :
    ∀ b ∈ assembled, b.frame.sequence ≠ a.frame.sequence := by
  intro b hb hsame
  have hnodup := h.nodup
  rw [List.flatMap_append, List.nodup_append, List.flatMap_singleton] at hnodup
  have hmem : b.frame.sequence ∈ assembled.flatMap fun a => a.parts.map Prod.fst :=
    List.mem_flatMap.mpr ⟨b, hb, h.sequence b (List.mem_append.mpr (Or.inl hb))⟩
  have hown := h.sequence a (List.mem_append.mpr (Or.inr (List.mem_singleton_self a)))
  exact hnodup.2.2 _ hmem _ hown hsame

/-! ### What a Data packet does to the books -/

/-- `collect` joins exactly the parts that the books write down. -/
theorem parts_of_collect {buffer : FragmentBuffer} {count : UInt16} {payload : List UInt8}
    {sequences : List UInt32}
    (h : buffer.collect (fragmentIndices count) = some (payload, sequences)) :
    sequences = (buffer.parts count).map Prod.fst ∧
      payload = (buffer.parts count).flatMap Prod.snd ∧
      List.Forall₂ (fun index part => buffer.Slot index part.1 part.2) (fragmentIndices count)
        (buffer.parts count) := by
  obtain ⟨parts, hsequences, hpayload, hslots⟩ := FragmentBuffer.collect_eq_some h
  have hparts : ∀ {indices : List UInt16} {parts : List (UInt32 × List UInt8)},
      List.Forall₂ (fun index part => buffer.Slot index part.1 part.2) indices parts →
      indices.filterMap buffer.part? = parts := by
    intro indices parts hslots
    induction hslots with
    | nil => rfl
    | @cons index part indices parts hslot _ ih =>
        have hpart : buffer.part? index = some part := by
          unfold FragmentBuffer.part?
          rw [hslot.1, hslot.2]
        rw [List.filterMap_cons, hpart, ih]
  have heq : buffer.parts count = parts := hparts hslots
  rw [heq]
  exact ⟨hsequences, hpayload, hslots⟩

/-- The smallest of a list of numbers is one of them. -/
theorem min?_getD_mem {qs : List UInt32} (h : qs ≠ []) : qs.min?.getD 0 ∈ qs := by
  cases hmin : qs.min? with
  | none => exact absurd (List.min?_eq_none_iff.mp hmin) h
  | some q => exact List.min?_mem hmin

/-- A new whole packet is a frame by itself. -/
theorem PartsOK.whole {packet : Packet} {frame : DeliveredFrame}
    (h : PartsOK s arrived assembled) (hnew : packet.sequence ∉ s.receivedSequences)
    (hpayload : frame.payload = packet.payload) (hsequence : frame.sequence = packet.sequence) :
    PartsOK (s.rememberReceived packet.sequence) (arrived ++ [packet])
      (assembled ++ [{ frame, parts := [(packet.sequence, packet.payload)] }]) := by
  obtain ⟨hassembled, hheld⟩ := h.fresh hnew
  have hbase := h.mono (t := s.rememberReceived packet.sequence) (Finset.subset_insert _ _)
    (fun _ _ _ hp => hp) (List.subset_append_left arrived [packet])
  refine hbase.append ?_ ?_ ?_ ?_ ?_ ?_ ?_
  · intro part hpart
    rw [List.mem_singleton.mp hpart]
    exact Finset.mem_insert_self _ _
  · exact List.nodup_singleton _
  · simpa using hpayload
  · simpa using hsequence
  · intro part hpart
    exact ⟨packet, List.mem_append.mpr (Or.inr (List.mem_singleton_self packet)),
      List.mem_singleton.mp hpart⟩
  · intro q hq
    rw [List.map_singleton, List.mem_singleton] at hq
    rw [hq]
    exact hassembled
  · intro key index part hp hmem
    rw [List.map_singleton, List.mem_singleton] at hmem
    exact hheld key index part hp hmem

/-- What waits in different slots of one buffer has different numbers. -/
theorem PartsOK.nodup_slots {key : FragmentKey} {indices : List UInt16}
    {parts : List (UInt32 × List UInt8)} (h : PartsOK s arrived assembled)
    (hindices : indices.Nodup)
    (hslots : List.Forall₂ (fun index part => s.Holds key index part) indices parts) :
    (parts.map Prod.fst).Nodup := by
  induction hslots with
  | nil => exact List.nodup_nil
  | @cons index part indices parts hslot hrest ih =>
      rw [List.nodup_cons] at hindices
      rw [List.map_cons, List.nodup_cons]
      refine ⟨?_, ih hindices.2⟩
      intro hmem
      obtain ⟨part', hpart', hsame⟩ := List.mem_map.mp hmem
      obtain ⟨index', hindex', hslot'⟩ := Fallible.exists_mem_of_forall₂ hrest part' hpart'
      have heq := (h.held_unique _ _ _ _ _ _ hslot hslot' hsame.symm).2
      rw [heq] at hindices
      exact hindices.1 hindex'

/-- A full buffer becomes a frame and is gone. -/
theorem PartsOK.completed {key : FragmentKey} {indices : List UInt16} {a : Assembly}
    (h : PartsOK s arrived assembled) (hindices : indices.Nodup)
    (hslots : List.Forall₂ (fun index part => s.Holds key index part) indices a.parts)
    (hpayload : a.frame.payload = a.parts.flatMap Prod.snd)
    (hsequence : a.frame.sequence ∈ a.parts.map Prod.fst)
    (hreceived : t.receivedSequences = s.receivedSequences)
    (herased : ∀ key' index part, t.Holds key' index part →
      key' ≠ key ∧ s.Holds key' index part) :
    PartsOK t arrived (assembled ++ [a]) := by
  have hin : ∀ part ∈ a.parts, ∃ index, s.Holds key index part := by
    intro part hpart
    obtain ⟨index, -, hheld⟩ := Fallible.exists_mem_of_forall₂ hslots part hpart
    exact ⟨index, hheld⟩
  have hbase := h.mono (t := t) (by rw [hreceived])
    (fun key' index part hp => (herased key' index part hp).2) (List.Subset.refl _)
  refine hbase.append ?_ (h.nodup_slots hindices hslots) hpayload hsequence ?_ ?_ ?_
  · intro part hpart
    obtain ⟨index, hp⟩ := hin part hpart
    rw [hreceived]
    exact h.held_received _ _ _ hp
  · intro part hpart
    obtain ⟨index, hp⟩ := hin part hpart
    exact h.held_origin _ _ _ hp
  · intro q hq
    obtain ⟨part, hpart, rfl⟩ := List.mem_map.mp hq
    obtain ⟨index, hp⟩ := hin part hpart
    exact h.held_free _ _ _ hp
  · intro key' index part hp hmem
    obtain ⟨hkey, hp⟩ := herased key' index part hp
    obtain ⟨part', hpart', hsame⟩ := List.mem_map.mp hmem
    obtain ⟨index', hp'⟩ := hin part' hpart'
    exact hkey (h.held_unique _ _ _ _ _ _ hp hp' hsame.symm).1

/-- The slots of the other buffers once the buffer of `key` is gone. -/
theorem holds_erased {buffers : Std.ExtTreeMap FragmentKey FragmentBuffer}
    {buffer : FragmentBuffer} {key : FragmentKey} (hs : s.fragmentBuffers = buffers.insert key buffer)
    (ht : t.fragmentBuffers = buffers.erase key) {key' : FragmentKey} {index : UInt16}
    {part : UInt32 × List UInt8} (h : t.Holds key' index part) :
    key' ≠ key ∧ s.Holds key' index part := by
  obtain ⟨buffer', hbuffer, hslot⟩ := h
  rw [ht, OrderedMap.getElem?_erase_eq] at hbuffer
  by_cases hkey : key = key'
  · rw [if_pos hkey] at hbuffer
    cases hbuffer
  · rw [if_neg hkey] at hbuffer
    refine ⟨Ne.symm hkey, buffer', ?_, hslot⟩
    rw [hs, OrderedMap.getElem?_insert_eq, if_neg hkey]
    exact hbuffer

/-- **A new Data packet keeps the books on fragments right, whatever reassembly makes of it.** -/
theorem PartsOK.reassembled {packet : Packet}
    {result : Except String (Option (DeliveredFrame × Bool × UInt32))}
    (h : PartsOK s arrived assembled) (hnew : packet.sequence ∉ s.receivedSequences)
    (hr : Reassembles (s.rememberReceived packet.sequence) packet result t) :
    PartsOK t (arrived ++ [packet]) (assembled ++ (match result with
      | .ok (some (frame, _, _)) => [{ frame, parts := s.partsWith packet }]
      | _ => [])) := by
  have hmono : s.receivedSequences ⊆ (s.rememberReceived packet.sequence).receivedSequences :=
    Finset.subset_insert _ _
  have harrived : arrived ⊆ arrived ++ [packet] := List.subset_append_left _ _
  have hfor : (s.rememberReceived packet.sequence).bufferFor packet = s.bufferFor packet := rfl
  cases hr with
  | whole hcount =>
      have hparts : s.partsWith packet = [(packet.sequence, packet.payload)] := if_pos hcount
      show PartsOK _ _ (assembled ++ [_])
      rw [hparts]
      exact h.whole hnew rfl rfl
  | refused message hcount hfits =>
      rw [List.append_nil]
      exact h.mono hmono (fun _ _ _ hp => hp) harrived
  | kept hcount hfits hopen =>
      rw [List.append_nil]
      exact h.kept hnew rfl rfl
  | completed hcount hfits payload sequences hcollect =>
      -- first the fragment goes into its slot, then the whole buffer becomes a frame
      have hkept : PartsOK { s.rememberReceived packet.sequence with
          fragmentBuffers :=
            s.fragmentBuffers.insert packet.fragmentKey ((s.bufferFor packet).add packet) }
          (arrived ++ [packet]) assembled := h.kept hnew rfl rfl
      rw [hfor] at hcollect
      obtain ⟨hsequences, hpayload, hslots⟩ := parts_of_collect hcollect
      have hparts : s.partsWith packet
          = ((s.bufferFor packet).add packet).parts packet.fragmentCount := if_neg hcount
      show PartsOK _ _ (assembled ++ [_])
      rw [hparts]
      refine hkept.completed (nodup_fragmentIndices packet.fragmentCount) ?_ hpayload ?_ rfl
        fun key' index part hp => holds_erased rfl rfl hp
      · exact hslots.imp fun index part hslot =>
          ⟨_, Std.ExtTreeMap.getElem?_insert_self, hslot⟩
      · show sequences.min?.getD 0 ∈ _
        rw [← hsequences]
        refine min?_getD_mem ?_
        rintro rfl
        -- there is a slot, the packet's own
        have hlength := hslots.length_eq
        rw [← List.length_map Prod.fst, ← hsequences, List.length_nil,
          List.length_eq_zero_iff] at hlength
        have hmem := mem_fragmentIndices.mpr hfits.index
        rw [hlength] at hmem
        cases hmem

/-! ### What is delivered -/

/-- The books on deliveries agree with the session. -/
structure FramesOK (s : Session) (assembled : List Assembly) (delivered : List DeliveredFrame) :
    Prop where
  waiting : ∀ channelId k v, (s.stream channelId).waiting[k]? = some v →
    v.frame.channelId = channelId ∧ v.frame.sequence = k ∧
      (∃ a ∈ assembled, a.frame = v.frame) ∧ k ∉ delivered.map (·.sequence)
  genuine : ∀ frame ∈ delivered, ∃ a ∈ assembled, a.frame = frame
  nodup : (delivered.map (·.sequence)).Nodup

theorem framesOK_empty {s : Session} (h : ∀ channelId, (s.stream channelId).waiting = ∅) :
    FramesOK s [] [] where
  waiting := by
    intro channelId k v hv
    rw [h] at hv
    simp at hv
  genuine := by intro frame hframe; cases hframe
  nodup := List.nodup_nil

variable {delivered : List DeliveredFrame}

theorem FramesOK.mono (h : FramesOK s assembled delivered)
    (hstream : ∀ channelId, t.stream channelId = s.stream channelId)
    {assembled' : List Assembly} (hsubset : assembled ⊆ assembled') :
    FramesOK t assembled' delivered where
  waiting := by
    intro channelId k v hv
    rw [hstream] at hv
    obtain ⟨hchannel, hsequence, ⟨a, ha, hframe⟩, hfree⟩ := h.waiting channelId k v hv
    exact ⟨hchannel, hsequence, ⟨a, hsubset ha, hframe⟩, hfree⟩
  genuine := by
    intro frame hframe
    obtain ⟨a, ha, heq⟩ := h.genuine frame hframe
    exact ⟨a, hsubset ha, heq⟩
  nodup := h.nodup

/-- A frame just put together has not been delivered and does not wait. -/
theorem FramesOK.fresh {a : Assembly} (h : FramesOK s assembled delivered)
    (hparts : PartsOK t arrived (assembled ++ [a])) :
    a.frame.sequence ∉ delivered.map (·.sequence) ∧
      ∀ channelId v, (s.stream channelId).waiting[a.frame.sequence]? ≠ some v := by
  have hfresh := hparts.frame_fresh
  refine ⟨?_, ?_⟩
  · intro hmem
    obtain ⟨frame, hframe, hsame⟩ := List.mem_map.mp hmem
    obtain ⟨b, hb, rfl⟩ := h.genuine frame hframe
    exact hfresh b hb hsame
  · intro channelId v hv
    obtain ⟨-, hsequence, ⟨b, hb, hframe⟩, -⟩ := h.waiting channelId _ v hv
    rw [← hframe] at hsequence
    exact hfresh b hb hsequence

/-- An unordered frame goes straight out. -/
theorem FramesOK.direct {a : Assembly} (h : FramesOK s assembled delivered)
    (hparts : PartsOK t arrived (assembled ++ [a]))
    (hstream : ∀ channelId, t.stream channelId = s.stream channelId) :
    FramesOK t (assembled ++ [a]) (delivered ++ [a.frame]) := by
  obtain ⟨hfree, hwaits⟩ := h.fresh hparts
  have hgrown := h.mono hstream (List.subset_append_left assembled [a])
  refine ⟨?_, ?_, ?_⟩
  · intro channelId k v hv
    obtain ⟨hchannel, hsequence, hmade, hk⟩ := hgrown.waiting channelId k v hv
    refine ⟨hchannel, hsequence, hmade, ?_⟩
    rw [List.map_append, List.mem_append, not_or]
    refine ⟨hk, ?_⟩
    rintro hmem
    rw [List.map_singleton, List.mem_singleton] at hmem
    rw [hstream, hmem] at hv
    exact hwaits channelId v hv
  · intro frame hframe
    rcases List.mem_append.mp hframe with hframe | hframe
    · exact hgrown.genuine frame hframe
    · rw [List.mem_singleton.mp hframe]
      exact ⟨a, List.mem_append.mpr (Or.inr (List.mem_singleton_self a)), rfl⟩
  · rw [List.map_append, List.nodup_append]
    refine ⟨h.nodup, List.nodup_singleton _, ?_⟩
    rintro q hq q' hq' rfl
    rw [List.map_singleton, List.mem_singleton] at hq'
    rw [hq'] at hq
    exact hfree hq

/-- A frame just put together joins the ones that wait, or is dropped. -/
theorem FramesOK.joined {a : Assembly} (h : FramesOK s assembled delivered)
    (hparts : PartsOK t arrived (assembled ++ [a]))
    (hwaiting : ∀ channelId k v, (t.stream channelId).waiting[k]? = some v →
      (channelId = a.frame.channelId ∧ k = a.frame.sequence ∧ v.frame = a.frame) ∨
        (s.stream channelId).waiting[k]? = some v) :
    FramesOK t (assembled ++ [a]) delivered := by
  obtain ⟨hfree, -⟩ := h.fresh hparts
  refine ⟨?_, ?_, h.nodup⟩
  · intro channelId k v hv
    rcases hwaiting channelId k v hv with ⟨rfl, rfl, hframe⟩ | hv
    · rw [hframe]
      exact ⟨rfl, rfl, ⟨a, List.mem_append.mpr (Or.inr (List.mem_singleton_self a)), rfl⟩, hfree⟩
    · obtain ⟨hchannel, hsequence, ⟨b, hb, hframe⟩, hk⟩ := h.waiting channelId k v hv
      exact ⟨hchannel, hsequence, ⟨b, List.mem_append.mpr (Or.inl hb), hframe⟩, hk⟩
  · intro frame hframe
    obtain ⟨b, hb, heq⟩ := h.genuine frame hframe
    exact ⟨b, List.mem_append.mpr (Or.inl hb), heq⟩

/-- Frames of one number wait on one channel only. -/
theorem FramesOK.channel_unique {a : Assembly} (h : FramesOK s assembled delivered)
    (hparts : PartsOK t arrived (assembled ++ [a])) {channelId channelId' : String} {k : UInt32}
    {v v' : PendingOrderedFrame} (hv : (s.stream channelId).waiting[k]? = some v)
    (hv' : (s.stream channelId').waiting[k]? = some v') : channelId = channelId' := by
  obtain ⟨hc, hsequence, ⟨b, hb, hframe⟩, -⟩ := h.waiting channelId k v hv
  obtain ⟨hc', hsequence', ⟨b', hb', hframe'⟩, -⟩ := h.waiting channelId' k v' hv'
  have hsame : b.frame.sequence = b'.frame.sequence := by
    rw [hframe, hframe', hsequence, hsequence']
  have heq := hparts.frame_inj (List.mem_append.mpr (Or.inl hb))
    (List.mem_append.mpr (Or.inl hb')) hsame
  rw [← hc, ← hc', ← hframe, ← hframe', heq]

/-- A frame just put together goes out, and frames that waited on its channel after it. -/
theorem FramesOK.released {a : Assembly} {entries : List (UInt32 × PendingOrderedFrame)}
    (h : FramesOK s assembled delivered) (hparts : PartsOK t arrived (assembled ++ [a]))
    (hnodup : (entries.map Prod.fst).Nodup)
    (hcame : ∀ e ∈ entries, (s.stream a.frame.channelId).waiting[e.1]? = some e.2)
    (hwaiting : ∀ channelId k v, (t.stream channelId).waiting[k]? = some v →
      (s.stream channelId).waiting[k]? = some v ∧
        (channelId = a.frame.channelId → k ∉ entries.map Prod.fst)) :
    FramesOK t (assembled ++ [a])
      (delivered ++ a.frame :: (entries.map Prod.snd).map (·.frame)) := by
  obtain ⟨hfree, hwaits⟩ := h.fresh hparts
  have hentry : ∀ e ∈ entries, e.2.frame.sequence = e.1 ∧
      (∃ b ∈ assembled, b.frame = e.2.frame) ∧ e.1 ∉ delivered.map (·.sequence) := by
    intro e he
    exact (h.waiting _ _ _ (hcame e he)).2
  have hkeys : ((entries.map Prod.snd).map (·.frame)).map (·.sequence)
      = entries.map Prod.fst := by
    rw [List.map_map, List.map_map]
    exact List.map_congr_left fun e he => (hentry e he).1
  have hgrow : ∀ {frame : DeliveredFrame}, (∃ b ∈ assembled, b.frame = frame) →
      ∃ b ∈ assembled ++ [a], b.frame = frame := by
    rintro frame ⟨b, hb, hframe⟩
    exact ⟨b, List.mem_append.mpr (Or.inl hb), hframe⟩
  refine ⟨?_, ?_, ?_⟩
  · intro channelId k v hv
    obtain ⟨hv, hown⟩ := hwaiting channelId k v hv
    obtain ⟨hc, hsequence, hframe, hk⟩ := h.waiting channelId k v hv
    refine ⟨hc, hsequence, hgrow hframe, ?_⟩
    rw [List.map_append, List.mem_append, not_or, List.map_cons, hkeys, List.mem_cons, not_or]
    refine ⟨hk, ?_, ?_⟩
    · rintro rfl
      exact hwaits channelId v hv
    · intro hmem
      obtain ⟨e, he, rfl⟩ := List.mem_map.mp hmem
      exact hown (h.channel_unique hparts hv (hcame e he)) hmem
  · intro frame hframe
    rcases List.mem_append.mp hframe with hframe | hframe
    · exact hgrow (h.genuine frame hframe)
    · rcases List.mem_cons.mp hframe with rfl | hframe
      · exact ⟨a, List.mem_append.mpr (Or.inr (List.mem_singleton_self a)), rfl⟩
      · obtain ⟨v, hv, rfl⟩ := List.mem_map.mp hframe
        obtain ⟨e, he, rfl⟩ := List.mem_map.mp hv
        exact hgrow (hentry e he).2.1
  · rw [List.map_append, List.map_cons, hkeys, List.nodup_append, List.nodup_cons]
    refine ⟨h.nodup, ⟨?_, hnodup⟩, ?_⟩
    · intro hmem
      obtain ⟨e, he, hsame⟩ := List.mem_map.mp hmem
      have hwaited := hcame e he
      rw [hsame] at hwaited
      exact hwaits _ _ hwaited
    · rintro q hq q' hq' rfl
      rcases List.mem_cons.mp hq' with rfl | hq'
      · exact hfree hq
      · obtain ⟨e, he, rfl⟩ := List.mem_map.mp hq'
        exact (hentry e he).2.2 hq

/-- An ordered frame is dropped, waits, or goes out with frames that waited for it. -/
theorem FramesOK.pushed {a : Assembly} {next : UInt32} {out : List PendingOrderedFrame}
    {r : Resequencer UInt32 PendingOrderedFrame}
    (h : FramesOK s assembled delivered) (hparts : PartsOK t arrived (assembled ++ [a]))
    (hpushed : Resequencer.Pushed (s.stream a.frame.channelId) r a.frame.sequence
      { frame := a.frame, nextSequence := next } out)
    (hstreams : Streams s a.frame.channelId r t) :
    FramesOK t (assembled ++ [a]) (delivered ++ out.map (·.frame)) := by
  have hown : (t.stream a.frame.channelId).waiting = r.waiting :=
    congrArg Resequencer.waiting hstreams.own
  have hother : ∀ {channelId : String} {k : UInt32} {v : PendingOrderedFrame},
      channelId ≠ a.frame.channelId → (t.stream channelId).waiting[k]? = some v →
      (s.stream channelId).waiting[k]? = some v := by
    intro channelId k v hne hv
    rw [hstreams.others channelId hne] at hv
    exact hv
  cases hpushed with
  | dropped hr =>
      rw [List.map_nil, List.append_nil]
      refine h.joined hparts fun channelId k v hv => Or.inr ?_
      by_cases hchannel : channelId = a.frame.channelId
      · rw [hchannel, hown, hr] at hv
        rw [hchannel]
        exact hv
      · exact hother hchannel hv
  | held hr =>
      rw [List.map_nil, List.append_nil]
      refine h.joined hparts fun channelId k v hv => ?_
      by_cases hchannel : channelId = a.frame.channelId
      · rw [hchannel, hown, hr, OrderedMap.getElem?_insert_eq] at hv
        by_cases hk : a.frame.sequence = k
        · rw [if_pos hk, Option.some.injEq] at hv
          subst hv
          exact Or.inl ⟨hchannel, hk.symm, rfl⟩
        · rw [if_neg hk] at hv
          rw [hchannel]
          exact Or.inr hv
      · exact Or.inr (hother hchannel hv)
  | released entries hdrained =>
      refine h.released hparts hdrained.nodup hdrained.came fun channelId k v hv => ?_
      by_cases hchannel : channelId = a.frame.channelId
      · rw [hchannel, hown] at hv
        rw [hchannel]
        obtain ⟨hv, hk⟩ := (hdrained.waiting k v).mp hv
        exact ⟨hv, fun _ => hk⟩
      · exact ⟨hother hchannel hv, fun heq => absurd heq hchannel⟩

/-- A new packet that completes a message puts its frame together. -/
theorem assembly?_eq_some {packet : Packet} {frame : DeliveredFrame} {ordered : Bool}
    {next : UInt32} {u : Session} (hnew : packet.sequence ∉ s.receivedSequences)
    (hr : (s.rememberReceived packet.sequence).reassemble packet
      = (.ok (some (frame, ordered, next)), u)) :
    s.assembly? packet = some { frame, parts := s.partsWith packet } := by
  have hbuffers : (s.rememberReceived packet.sequence).fragmentBuffers = s.fragmentBuffers := rfl
  have hresult := reassemble_congr hbuffers packet
  unfold assembly?
  rw [if_neg hnew, ← hresult, hr]

/-- A new packet that completes no message puts nothing together. -/
theorem assembly?_eq_none {packet : Packet} {u : Session}
    {result : Except String (Option (DeliveredFrame × Bool × UInt32))}
    (hnew : packet.sequence ∉ s.receivedSequences)
    (hr : (s.rememberReceived packet.sequence).reassemble packet = (result, u))
    (hnone : ∀ made, result ≠ .ok (some made)) : s.assembly? packet = none := by
  have hbuffers : (s.rememberReceived packet.sequence).fragmentBuffers = s.fragmentBuffers := rfl
  have hresult := reassemble_congr hbuffers packet
  unfold assembly?
  rw [if_neg hnew, ← hresult, hr]
  split
  · rename_i heq
    exact absurd heq (hnone _)
  · rfl

/-- The prologue of `receive` has no say in what a packet puts together. -/
theorem assembly?_receiveBase (s : Session) (packet : Packet) (nowMs : Nat) :
    (s.receiveBase packet nowMs).assembly? packet = s.assembly? packet := by
  have hbuffers : (s.receiveBase packet nowMs).fragmentBuffers = s.fragmentBuffers := rfl
  unfold assembly?
  rw [reassemble_congr hbuffers packet]
  rfl

/-- A new Data packet keeps the books on fragments right. -/
theorem PartsOK.received_new {packet : Packet} {u : Session}
    {result : Except String (Option (DeliveredFrame × Bool × UInt32))}
    (h : PartsOK s arrived assembled) (hnew : packet.sequence ∉ s.receivedSequences)
    (hr : (s.rememberReceived packet.sequence).reassemble packet = (result, u)) :
    PartsOK u (arrived ++ [packet]) (assembled ++ (s.assembly? packet).toList) := by
  have hbooks := h.reassembled hnew (reassembles_of_eq hr)
  rcases result with message | (_ | ⟨frame, ordered, next⟩)
  · rw [assembly?_eq_none hnew hr fun made hc => by cases hc]
    exact hbooks
  · rw [assembly?_eq_none hnew hr fun made hc => by cases hc]
    exact hbooks
  · rw [assembly?_eq_some hnew hr]
    exact hbooks

/-- **A Data packet keeps all the books right.** -/
theorem receipt_audit {packet : Packet} {expected : UInt32}
    {result : Except Fault ReceiveResult} (hparts : PartsOK s arrived assembled)
    (hframes : FramesOK s assembled delivered) (h : Receipt s packet expected result t) :
    PartsOK t (arrived ++ [packet]) (assembled ++ (s.assembly? packet).toList) ∧
      FramesOK t (assembled ++ (s.assembly? packet).toList)
        (delivered ++ deliveredBy result) := by
  have hgrow : assembled ⊆ assembled ++ (s.assembly? packet).toList :=
    List.subset_append_left _ _
  cases h with
  | duplicate hold =>
      have hassembly : s.assembly? packet = none := if_pos hold
      rw [hassembly]
      simp only [Option.toList_none, List.append_nil, deliveredBy]
      exact ⟨hparts.mono (Finset.subset_insert _ _) (fun _ _ _ hp => hp)
        (List.subset_append_left _ _),
        hframes.mono (t := s.rememberReceived packet.sequence) (fun _ => rfl)
          (List.Subset.refl _)⟩
  | refused hnew message _ hr =>
      rw [deliveredBy, List.append_nil]
      exact ⟨hparts.received_new hnew hr, hframes.mono (reassembles_of_eq hr).stream hgrow⟩
  | incomplete hnew _ hr =>
      rw [deliveredBy, List.append_nil]
      exact ⟨hparts.received_new hnew hr, hframes.mono (reassembles_of_eq hr).stream hgrow⟩
  | filtered hnew frame next _ hr hpass =>
      rw [deliveredBy, List.append_nil]
      exact ⟨hparts.received_new hnew hr, hframes.mono (reassembles_of_eq hr).stream hgrow⟩
  | unordered hnew frame next u _ hr hpass =>
      obtain ⟨hbuffers, hstream⟩ := admitSequenced_frame hpass
      have hreceived : t.receivedSequences = u.receivedSequences :=
        congrArg Core.receivedSequences (core_admitSequenced hpass)
      have hbooks := (hparts.received_new hnew hr).of_buffers (by rw [hreceived]) hbuffers
      rw [assembly?_eq_some hnew hr] at hbooks ⊢
      refine ⟨hbooks, hframes.direct hbooks fun channelId => ?_⟩
      rw [hstream, (reassembles_of_eq hr).stream]
      rfl
  | ordered hnew frame next u hr =>
      obtain ⟨hout, hstreams⟩ := deliverOrdered_stream u frame next expected
      have hreceived : (u.deliverOrdered frame next expected).2.receivedSequences
          = u.receivedSequences :=
        congrArg Core.receivedSequences (core_deliverOrdered u frame next expected)
      have hbooks := (hparts.received_new hnew hr).of_buffers (by rw [hreceived])
        hstreams.fragmentBuffers
      have hframes' := hframes.mono (t := u)
        (fun channelId => (reassembles_of_eq hr).stream channelId) (List.Subset.refl assembled)
      rw [assembly?_eq_some hnew hr] at hbooks ⊢
      refine ⟨hbooks, ?_⟩
      rw [deliveredBy, hout]
      exact hframes'.pushed (a := { frame, parts := s.partsWith packet }) hbooks
        (Resequencer.push_pushed _ _ _ _ _) hstreams

end Session

/-! ### Every call, every run -/

/-- The books agree with the session. -/
structure AuditOK (audit : Audit) : Prop where
  parts : Session.PartsOK audit.session audit.arrived audit.assembled
  frames : Session.FramesOK audit.session audit.assembled audit.delivered

namespace Audit

theorem auditOK_new (options : SessionOptions) : AuditOK (Audit.new options) where
  parts := Session.partsOK_empty rfl
  frames := Session.framesOK_empty fun _ => rfl

theorem step_session {audit audit' : Audit} {c : Call} {out : Output}
    (h : audit.step c = some (out, audit')) :
    audit.session.call c = some (out, audit'.session) := by
  unfold step at h
  split at h
  · cases h
  · rename_i out' s hcall
    cases c <;>
      (simp only [Option.some.injEq, Prod.mk.injEq] at h
       obtain ⟨rfl, rfl⟩ := h
       exact hcall)

/-- What a call that is no reset adds to the books. -/
theorem step_books {audit audit' : Audit} {c : Call} {out : Output}
    (h : audit.step c = some (out, audit')) (hcall : c ≠ .resetPeerState) :
    audit'.arrived = audit.arrived ++ (audit.session.data? c).toList ∧
      audit'.assembled = audit.assembled ++
        ((audit.session.data? c).bind audit.session.assembly?).toList ∧
      audit'.delivered = audit.delivered ++ out.delivered := by
  unfold step at h
  split at h
  · cases h
  · cases c <;> first
      | exact absurd rfl hcall
      | (simp only [Option.some.injEq, Prod.mk.injEq] at h
         obtain ⟨rfl, rfl⟩ := h
         exact ⟨rfl, rfl, rfl⟩)

/-- A call that leaves the buffers alone and delivers nothing. -/
theorem auditOK_quiet {audit audit' : Audit} {c : Call} {out : Output} {t : Session}
    (hok : AuditOK audit) (h : audit.step c = some (out, audit'))
    (hcall : c ≠ .resetPeerState) (hdata : audit.session.data? c = none)
    (hinbound : audit'.session.inbound = t.inbound)
    (hreceived : audit.session.receivedSequences ⊆ t.receivedSequences)
    (hbuffers : t.fragmentBuffers = audit.session.fragmentBuffers)
    (hstream : ∀ channelId, t.stream channelId = audit.session.stream channelId)
    (hdelivered : out.delivered = []) : AuditOK audit' := by
  obtain ⟨harrived, hassembled, hdel⟩ := step_books h hcall
  rw [hdata] at harrived hassembled
  rw [hdelivered] at hdel
  simp only [Option.bind_none, Option.toList_none, List.append_nil] at harrived hassembled hdel
  have hreceived' : audit'.session.receivedSequences = t.receivedSequences :=
    congrArg Inbound.receivedSequences hinbound
  have hbuffers' : audit'.session.fragmentBuffers = audit.session.fragmentBuffers :=
    (congrArg Inbound.fragmentBuffers hinbound).trans hbuffers
  have hstream' : ∀ channelId,
      audit'.session.stream channelId = audit.session.stream channelId := by
    intro channelId
    rw [← hstream]
    unfold Session.stream
    rw [show audit'.session.orderedNextSequenceByChannel = t.orderedNextSequenceByChannel from
        congrArg Inbound.orderedNextSequenceByChannel hinbound,
      show audit'.session.orderedBuffers = t.orderedBuffers from
        congrArg Inbound.orderedBuffers hinbound]
  refine ⟨?_, ?_⟩
  · rw [harrived, hassembled]
    refine hok.parts.mono (by rw [hreceived']; exact hreceived) ?_ (List.Subset.refl _)
    rintro key index part ⟨buffer, hbuffer, hp⟩
    rw [hbuffers'] at hbuffer
    exact ⟨buffer, hbuffer, hp⟩
  · rw [hassembled, hdel]
    exact hok.frames.mono hstream' (List.Subset.refl _)

/-- **One call keeps the books right.** -/
theorem auditOK_step {audit audit' : Audit} {c : Call} {out : Output} (hok : AuditOK audit)
    (h : audit.step c = some (out, audit')) : AuditOK audit' := by
  have hsession := step_session h
  by_cases hreset : c = .resetPeerState
  · subst hreset
    simp only [step, Session.call, Option.some.injEq, Prod.mk.injEq] at h
    obtain ⟨-, rfl⟩ := h
    exact ⟨Session.partsOK_empty rfl, Session.framesOK_empty fun _ => rfl⟩
  cases hdata : audit.session.data? c with
  | some packet =>
      obtain ⟨nowMs, rfl, hid, htype⟩ : ∃ nowMs, c = .receive packet nowMs ∧
          packet.connectionId = audit.session.connectionId ∧ packet.packetType = .data := by
        cases c with
        | receive p nowMs =>
            simp only [Session.data?] at hdata
            split at hdata
            · rename_i hboth
              cases hdata
              exact ⟨nowMs, rfl, hboth.2, hboth.1⟩
            · cases hdata
        | _ => cases hdata
      obtain ⟨harrived, hassembled, hdel⟩ := step_books h hreset
      obtain ⟨-, result, hr, hdelivered, -⟩ := Session.call_data hsession hid htype
      have hreceipt := Session.receiveData_receipt (audit.session.receiveBase packet nowMs) packet
        (audit.session.expectedSequence packet)
      rw [hr] at hreceipt
      -- the prologue of `receive` touches nothing that the books speak of
      have hparts : Session.PartsOK (audit.session.receiveBase packet nowMs) audit.arrived
          audit.assembled :=
        hok.parts.mono (Finset.Subset.refl _) (fun _ _ _ hp => hp) (List.Subset.refl _)
      have hframes : Session.FramesOK (audit.session.receiveBase packet nowMs) audit.assembled
          audit.delivered :=
        hok.frames.mono (t := audit.session.receiveBase packet nowMs) (fun _ => rfl)
          (List.Subset.refl _)
      obtain ⟨hparts', hframes'⟩ := Session.receipt_audit hparts hframes hreceipt
      rw [Session.assembly?_receiveBase] at hparts' hframes'
      refine ⟨?_, ?_⟩
      · rw [harrived, hassembled, hdata]
        exact hparts'
      · rw [hassembled, hdel, hdata, hdelivered]
        exact hframes'
  | none =>
      obtain ⟨-, htakes⟩ := Session.call_effect hsession
      cases htakes with
      | idle hinbound hdelivered =>
          exact auditOK_quiet hok h hreset hdata hinbound (Finset.Subset.refl _) rfl (fun _ => rfl)
            hdelivered
      | control packet hinput hid htype hinbound hdelivered =>
          exact auditOK_quiet hok h hreset hdata hinbound (Finset.subset_insert _ _) rfl (fun _ => rfl)
            hdelivered
      | data packet nowMs hcall hid htype _ _ _ =>
          rw [hcall, Session.data?, if_pos ⟨htype, hid⟩] at hdata
          cases hdata
      | reset hcall _ _ => exact absurd hcall hreset

/-- **The books are right wherever a run of a fresh session gets.** -/
theorem auditOK_run {options : SessionOptions} {log : CallLog} {audit : Audit}
    (h : Machine.Run Audit.step (Audit.new options) log audit) : AuditOK audit :=
  h.invariant (auditOK_new options) fun _ _ _ _ hok hstep => auditOK_step hok hstep

/-! ### The books against the log -/

/-- The Data packet of a call came in through `receive`. -/
theorem data?_eq_some {s : Session} {c : Call} {packet : Packet} (h : s.data? c = some packet) :
    packet.packetType = .data ∧ ∃ nowMs, c = .receive packet nowMs := by
  cases c with
  | receive p nowMs =>
      simp only [Session.data?] at h
      split at h
      · rename_i hboth
        cases h
        exact ⟨hboth.1, nowMs, rfl⟩
      · cases h
  | _ => cases h

/-- What the books cover after a log without a reset. -/
structure Covers (start : Audit) (log : CallLog) (audit : Audit) : Prop where
  delivered : audit.delivered = start.delivered ++ log.delivered
  arrived : ∀ p ∈ audit.arrived, p ∈ start.arrived ∨
    p.packetType = .data ∧ ∃ nowMs out, (Call.receive p nowMs, out) ∈ log
  assembled : ∀ a ∈ audit.assembled, a ∈ start.assembled ∨
    ∃ before entry after middle packet, log = before ++ entry :: after ∧
      Machine.Run Audit.step start before middle ∧
      middle.session.data? entry.1 = some packet ∧ middle.session.assembly? packet = some a

/-- Without a reset the books cover the whole log. -/
theorem covers_of_run {start audit : Audit} {log : CallLog}
    (h : Machine.Run Audit.step start log audit)
    (hreset : ∀ entry ∈ log, entry.1 ≠ .resetPeerState) : Covers start log audit := by
  induction h with
  | nil =>
      refine ⟨?_, fun p hp => Or.inl hp, fun a ha => Or.inl ha⟩
      show start.delivered = start.delivered ++ []
      rw [List.append_nil]
  | @snoc log middle audit c out hrun hstep ih =>
      have hbooks := ih fun entry hentry => hreset entry (List.mem_append.mpr (Or.inl hentry))
      have hlast : (c, out) ∈ log ++ [(c, out)] :=
        List.mem_append.mpr (Or.inr (List.mem_singleton_self _))
      obtain ⟨harrived, hassembled, hdelivered⟩ := step_books hstep (hreset (c, out) hlast)
      refine ⟨?_, ?_, ?_⟩
      · rw [hdelivered, hbooks.delivered]
        unfold CallLog.delivered
        rw [List.flatMap_append, List.flatMap_singleton, List.append_assoc]
      · intro p hp
        rw [harrived] at hp
        rcases List.mem_append.mp hp with hp | hp
        · rcases hbooks.arrived p hp with hold | ⟨htype, nowMs, out', hmem⟩
          · exact Or.inl hold
          · exact Or.inr ⟨htype, nowMs, out', List.mem_append.mpr (Or.inl hmem)⟩
        · obtain ⟨htype, nowMs, rfl⟩ := data?_eq_some (Option.mem_toList.mp hp)
          exact Or.inr ⟨htype, nowMs, out, hlast⟩
      · intro a ha
        rw [hassembled] at ha
        rcases List.mem_append.mp ha with ha | ha
        · rcases hbooks.assembled a ha with hold | ⟨before, entry, after, t, p, rfl, hmade⟩
          · exact Or.inl hold
          · refine Or.inr ⟨before, entry, after ++ [(c, out)], t, p, ?_, hmade⟩
            simp
        · obtain ⟨packet, hdata, hmade⟩ := Option.bind_eq_some_iff.mp (Option.mem_toList.mp ha)
          exact Or.inr ⟨log, (c, out), [], middle, packet, rfl, hrun, hdata, hmade⟩

end Audit

namespace Session

/-- A Data packet whose number was received before is remembered again and does nothing else. -/
theorem receive_duplicate {s : Session} {packet : Packet} (nowMs : Nat)
    (hid : packet.connectionId = s.connectionId) (htype : packet.packetType = .data)
    (hold : packet.sequence ∈ s.receivedSequences) :
    s.receive packet nowMs
      = (.ok {}, (s.receiveBase packet nowMs).rememberReceived packet.sequence) := by
  rw [receive_data nowMs hid htype]
  unfold receiveData
  have hdup : packet.sequence ∈ (s.receiveBase packet nowMs).receivedSequences := hold
  simp only [hdup, if_true]

/--
**At most once, against any peer.**  In a run without a reset, no two delivered frames
carry the same sequence; every delivered frame was put together from the payloads of
received Data packets, no packet going into two frames; and a Data packet whose sequence
was received before delivers nothing and leaves the fragment and ordered buffers alone.
-/
theorem delivered_at_most_once {options : SessionOptions} {log : CallLog} {s : Session}
    (hrun : Machine.Run Session.call (Session.new options) log s)
    (hreset : ∀ entry ∈ log, entry.1 ≠ .resetPeerState) :
    (log.delivered.map (·.sequence)).Nodup ∧
      (∃ audit, Machine.Run Audit.step (Audit.new options) log audit ∧ audit.session = s ∧
        (∀ frame ∈ log.delivered, ∃ a ∈ audit.assembled, a.frame = frame) ∧
        (audit.assembled.flatMap fun a => a.parts.map Prod.fst).Nodup ∧
        ∀ a ∈ audit.assembled, a.frame.payload = a.parts.flatMap Prod.snd ∧
          a.frame.sequence ∈ a.parts.map Prod.fst ∧
          ∀ part ∈ a.parts, ∃ p nowMs out, (Call.receive p nowMs, out) ∈ log ∧
            p.packetType = .data ∧ part = (p.sequence, p.payload)) ∧
      ∀ packet nowMs, packet.connectionId = s.connectionId → packet.packetType = .data →
        packet.sequence ∈ s.receivedSequences →
        (s.receive packet nowMs).1 = .ok {} ∧
          (s.receive packet nowMs).2.fragmentBuffers = s.fragmentBuffers ∧
          (s.receive packet nowMs).2.orderedBuffers = s.orderedBuffers := by
  obtain ⟨audit, haudit, rfl⟩ := Audit.exists_run (Audit.new options) hrun
  have hok := Audit.auditOK_run haudit
  have hcovers := Audit.covers_of_run haudit hreset
  have hdelivered : audit.delivered = log.delivered := hcovers.delivered
  refine ⟨?_, ⟨audit, haudit, rfl, ?_, hok.parts.nodup, ?_⟩, ?_⟩
  · rw [← hdelivered]
    exact hok.frames.nodup
  · rw [← hdelivered]
    exact hok.frames.genuine
  · intro a ha
    refine ⟨hok.parts.payload a ha, hok.parts.sequence a ha, ?_⟩
    intro part hpart
    obtain ⟨p, hp, heq⟩ := hok.parts.origin a ha part hpart
    rcases hcovers.arrived p hp with hnone | ⟨htype, nowMs, out, hmem⟩
    · cases hnone
    · exact ⟨p, nowMs, out, hmem, htype, heq⟩
  · intro packet nowMs hid htype hold
    rw [receive_duplicate nowMs hid htype hold]
    exact ⟨rfl, rfl, rfl⟩

/-- A fragment of a two-fragment message on an ordered channel. -/
def schemaFragment (sequence : UInt32) (fragmentIndex : UInt16) (chunk : UInt8) : Packet where
  packetType := .data
  connectionId := 0
  sequence
  ack := 0
  ackMask := 0
  channelId := "schema"
  reliable := true
  ordered := true
  sequenced := false
  fragmentId := 1
  fragmentIndex
  fragmentCount := 2
  payload := [chunk]

/-- Two fragments out of order, and one of them again. -/
theorem delivered_at_most_once_fragments :
    ∃ (log : CallLog) (s : Session), Machine.Run Session.call (Session.new {}) log s ∧
      log.delivered.length = 1 ∧ (log.delivered.map (·.sequence)).Nodup := by
  have hexec : ((Machine.exec Session.call (Session.new {})
      [.receive (schemaFragment 8 1 20) 0, .receive (schemaFragment 7 0 10) 0,
        .receive (schemaFragment 8 1 20) 0]).any fun r =>
      decide ((CallLog.delivered r.1).length = 1)) = true := by decide +kernel
  obtain ⟨log, s, hrun, hinputs, hcheck⟩ := Machine.Run.of_exec_any hexec
  refine ⟨log, s, hrun, of_decide_eq_true hcheck, (delivered_at_most_once hrun ?_).1⟩
  intro entry hentry
  have hmem : entry.1 ∈ log.map Prod.fst := List.mem_map_of_mem hentry
  rw [hinputs] at hmem
  intro hreset
  rw [hreset] at hmem
  simp at hmem

end Session

end CultNet.Rudp
