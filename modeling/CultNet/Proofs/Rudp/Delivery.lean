/-
What becomes of a Data packet.

The ordered half of a channel is a resequencer: `deliverOrdered` brings a frame
into the stream of its channel and leaves every other stream alone.  Reassembly
has four outcomes, listed by `Reassembles`, and a Data packet as a whole six,
listed by `Receipt`; nothing later unfolds either function again.
-/
import CultNet.Lib.Resequencer
import CultNet.Proofs.Rudp.Calls
import CultNet.Rudp.Audit
import Mathlib.Data.List.Perm.Subperm

namespace CultNet.Rudp

/-! ### Fragment buffers -/

theorem mem_fragmentIndices {count index : UInt16} : index ∈ fragmentIndices count ↔ index < count := by
  unfold fragmentIndices
  rw [List.mem_map]
  constructor
  · rintro ⟨n, hn, rfl⟩
    rw [List.mem_range] at hn
    have hlt := count.toNat_lt
    rw [UInt16.lt_iff_toNat_lt, UInt16.toNat_ofNat', Nat.mod_eq_of_lt (by omega)]
    exact hn
  · intro h
    rw [UInt16.lt_iff_toNat_lt] at h
    exact ⟨index.toNat, List.mem_range.mpr h, UInt16.ofNat_toNat⟩

theorem nodup_fragmentIndices (count : UInt16) : (fragmentIndices count).Nodup := by
  refine List.Nodup.map_on ?_ List.nodup_range
  intro a ha b hb h
  rw [List.mem_range] at ha hb
  have hlt := count.toNat_lt
  have hnat := congrArg UInt16.toNat h
  rw [UInt16.toNat_ofNat', UInt16.toNat_ofNat', Nat.mod_eq_of_lt (by omega),
    Nat.mod_eq_of_lt (by omega)] at hnat
  exact hnat

namespace FragmentBuffer

/-- The slot `index` holds the chunk of the packet numbered `sequence`. -/
def Slot (buffer : FragmentBuffer) (index : UInt16) (sequence : UInt32) (chunk : List UInt8) :
    Prop :=
  buffer.sequences[index]? = some sequence ∧ buffer.payloads[index]? = some chunk

theorem slot_add {buffer : FragmentBuffer} {packet : Packet} {index : UInt16}
    {sequence : UInt32} {chunk : List UInt8} :
    (buffer.add packet).Slot index sequence chunk ↔
      if packet.fragmentIndex = index then packet.sequence = sequence ∧ packet.payload = chunk
      else buffer.Slot index sequence chunk := by
  unfold Slot add
  dsimp only
  rw [OrderedMap.getElem?_insert_eq, OrderedMap.getElem?_insert_eq]
  by_cases h : packet.fragmentIndex = index
  · simp [h]
  · simp [h]

theorem slot_new {packet : Packet} {index : UInt16} {sequence : UInt32} {chunk : List UInt8} :
    ¬ (FragmentBuffer.new packet).Slot index sequence chunk := by
  simp [Slot, FragmentBuffer.new]

/-- What `collect` returns are the slots, in order. -/
theorem collect_eq_some {buffer : FragmentBuffer} : ∀ {indices : List UInt16}
    {payload : List UInt8} {sequences : List UInt32},
    buffer.collect indices = some (payload, sequences) →
      ∃ parts : List (UInt32 × List UInt8), sequences = parts.map Prod.fst ∧
        payload = parts.flatMap Prod.snd ∧
        List.Forall₂ (fun index part => buffer.Slot index part.1 part.2) indices parts := by
  intro indices
  induction indices with
  | nil =>
      intro payload sequences h
      simp only [collect, Option.some.injEq, Prod.mk.injEq] at h
      obtain ⟨rfl, rfl⟩ := h
      exact ⟨[], rfl, rfl, List.Forall₂.nil⟩
  | cons index rest ih =>
      intro payload sequences h
      unfold collect at h
      split at h
      · rename_i chunk sequence payload' sequences' hchunk hsequence hrest
        simp only [Option.some.injEq, Prod.mk.injEq] at h
        obtain ⟨rfl, rfl⟩ := h
        obtain ⟨parts, rfl, rfl, hparts⟩ := ih hrest
        exact ⟨(sequence, chunk) :: parts, rfl, rfl,
          List.Forall₂.cons ⟨hsequence, hchunk⟩ hparts⟩
      · cases h

/-- `collect` finds what every slot holds. -/
theorem collect_of_slots {buffer : FragmentBuffer} {indices : List UInt16}
    {parts : List (UInt32 × List UInt8)}
    (h : List.Forall₂ (fun index part => buffer.Slot index part.1 part.2) indices parts) :
    buffer.collect indices = some (parts.flatMap Prod.snd, parts.map Prod.fst) := by
  induction h with
  | nil => rfl
  | cons hslot _ ih =>
      unfold collect
      rw [hslot.1, hslot.2, ih]
      rfl

/-- A full set of slots is not smaller than the set, so the count is never what stops it. -/
theorem size_of_collect {buffer : FragmentBuffer} {count : UInt16}
    {result : List UInt8 × List UInt32}
    (h : buffer.collect (fragmentIndices count) = some result) :
    ¬ buffer.payloads.size < count.toNat := by
  obtain ⟨parts, -, -, hparts⟩ := collect_eq_some h
  have hsubset : fragmentIndices count ⊆ buffer.payloads.keys := by
    intro index hindex
    rw [Std.ExtTreeMap.mem_keys, Std.ExtTreeMap.mem_iff_isSome_getElem?]
    obtain ⟨i, hi, rfl⟩ := List.getElem_of_mem hindex
    have hslot := hparts.get hi (hparts.length_eq ▸ hi)
    simp only [List.get_eq_getElem] at hslot
    rw [hslot.2]
    rfl
  have hle := (List.subperm_of_subset (nodup_fragmentIndices count) hsubset).length_le
  rw [Std.ExtTreeMap.length_keys] at hle
  simp only [fragmentIndices, List.length_map, List.length_range] at hle
  exact Nat.not_lt.mpr hle

end FragmentBuffer

namespace Session

/-! ### Reassembly -/

/-- A fragment that reassembly takes: its header makes sense and agrees with its set. -/
structure Fits (s : Session) (packet : Packet) : Prop where
  fragmentId : packet.fragmentId ≠ 0
  index : packet.fragmentIndex < packet.fragmentCount
  count : (s.bufferFor packet).fragmentCount = packet.fragmentCount
  ordered : (s.bufferFor packet).ordered = packet.ordered

/-- The outcomes of `reassemble`. -/
inductive Reassembles (s : Session) (packet : Packet) :
    Except String (Option (DeliveredFrame × Bool × UInt32)) → Session → Prop
  | whole (hcount : packet.fragmentCount = 0) :
      Reassembles s packet (.ok (some ({
        channelId := packet.channelId
        payload := packet.payload
        sequence := packet.sequence
      }, packet.ordered, packet.sequence + 1))) s
  | refused (message : String) (hcount : packet.fragmentCount ≠ 0) (hfits : ¬ Fits s packet) :
      Reassembles s packet (.error message) s
  | kept (hcount : packet.fragmentCount ≠ 0) (hfits : Fits s packet)
      (hopen : ((s.bufferFor packet).add packet).collect (fragmentIndices packet.fragmentCount)
        = none) :
      Reassembles s packet (.ok none) { s with
        fragmentBuffers :=
          s.fragmentBuffers.insert packet.fragmentKey ((s.bufferFor packet).add packet) }
  | completed (hcount : packet.fragmentCount ≠ 0) (hfits : Fits s packet)
      (payload : List UInt8) (sequences : List UInt32)
      (hcollect : ((s.bufferFor packet).add packet).collect (fragmentIndices packet.fragmentCount)
        = some (payload, sequences)) :
      Reassembles s packet (.ok (some ({
        channelId := (s.bufferFor packet).channelId
        payload
        sequence := sequences.min?.getD 0
      }, packet.ordered, sequences.max?.getD 0 + 1)))
        { s with fragmentBuffers := s.fragmentBuffers.erase packet.fragmentKey }

/-- `reassemble` on a fragment whose header makes sense. -/
theorem reassemble_fragment {s : Session} {packet : Packet} (hcount : packet.fragmentCount ≠ 0)
    (hid : packet.fragmentId ≠ 0) (hindex : ¬ packet.fragmentCount ≤ packet.fragmentIndex) :
    s.reassemble packet =
      if (s.bufferFor packet).fragmentCount ≠ packet.fragmentCount ∨
          (s.bufferFor packet).ordered ≠ packet.ordered then
        (.error "RUDP fragment metadata changed within a fragment set", s)
      else
        let buffer := (s.bufferFor packet).add packet
        let kept := { s with
          fragmentBuffers := s.fragmentBuffers.insert packet.fragmentKey buffer }
        if buffer.payloads.size < packet.fragmentCount.toNat then (.ok none, kept)
        else
          match buffer.collect (fragmentIndices packet.fragmentCount) with
          | none => (.ok none, kept)
          | some (payload, sequences) =>
            (.ok (some ({
              channelId := (s.bufferFor packet).channelId
              payload
              sequence := sequences.min?.getD 0
            }, (s.bufferFor packet).ordered, sequences.max?.getD 0 + 1)),
              { s with fragmentBuffers := s.fragmentBuffers.erase packet.fragmentKey }) := by
  unfold reassemble
  rw [if_neg hcount, if_neg hid, if_neg hindex]
  rfl

theorem reassemble_outcome (s : Session) (packet : Packet) :
    Reassembles s packet (s.reassemble packet).1 (s.reassemble packet).2 := by
  by_cases hcount : packet.fragmentCount = 0
  · unfold reassemble
    rw [if_pos hcount]
    exact .whole hcount
  by_cases hid : packet.fragmentId = 0
  · unfold reassemble
    rw [if_neg hcount, if_pos hid]
    exact .refused _ hcount fun hfits => hfits.fragmentId hid
  by_cases hindex : packet.fragmentCount ≤ packet.fragmentIndex
  · unfold reassemble
    rw [if_neg hcount, if_neg hid, if_pos hindex]
    exact .refused _ hcount fun hfits => absurd hfits.index (UInt16.not_lt.mpr hindex)
  rw [reassemble_fragment hcount hid hindex]
  split
  · rename_i hmetadata
    refine .refused _ hcount fun hfits => ?_
    rcases hmetadata with h | h
    · exact h hfits.count
    · exact h hfits.ordered
  · rename_i hmetadata
    obtain ⟨hsame, hordered⟩ := not_or.mp hmetadata
    have hfits : Fits s packet :=
      ⟨hid, UInt16.not_le.mp hindex, not_not.mp hsame, not_not.mp hordered⟩
    dsimp only
    cases hcollect : ((s.bufferFor packet).add packet).collect
        (fragmentIndices packet.fragmentCount) with
    | none =>
        split
        · exact .kept hcount hfits hcollect
        · exact .kept hcount hfits hcollect
    | some result =>
        obtain ⟨payload, sequences⟩ := result
        rw [if_neg (FragmentBuffer.size_of_collect hcollect), hfits.ordered]
        exact .completed hcount hfits payload sequences hcollect

theorem reassembles_of_eq {s t : Session} {packet : Packet}
    {result : Except String (Option (DeliveredFrame × Bool × UInt32))}
    (h : s.reassemble packet = (result, t)) : Reassembles s packet result t := by
  have houtcome := reassemble_outcome s packet
  rw [h] at houtcome
  exact houtcome

theorem Fits.count_ne_zero {s : Session} {packet : Packet} (h : Fits s packet) :
    packet.fragmentCount ≠ 0 := by
  intro hzero
  have hindex := h.index
  rw [hzero, UInt16.lt_iff_toNat_lt] at hindex
  exact absurd hindex (Nat.not_lt_zero _)

/-- A fragment that fits and leaves a slot empty is kept. -/
theorem reassemble_open {s : Session} {packet : Packet} (hfits : Fits s packet)
    (hopen : ((s.bufferFor packet).add packet).collect (fragmentIndices packet.fragmentCount)
      = none) :
    s.reassemble packet = (.ok none, { s with
      fragmentBuffers :=
        s.fragmentBuffers.insert packet.fragmentKey ((s.bufferFor packet).add packet) }) := by
  have houtcome := reassemble_outcome s packet
  generalize s.reassemble packet = result at houtcome ⊢
  obtain ⟨result, t⟩ := result
  cases houtcome with
  | whole hzero => exact absurd hzero hfits.count_ne_zero
  | refused message _ hnot => exact absurd hfits hnot
  | kept => rfl
  | completed _ _ payload sequences hdone =>
      rw [hopen] at hdone
      cases hdone

/-- A fragment that fits and fills the last slot brings the frame out. -/
theorem reassemble_full {s : Session} {packet : Packet} (hfits : Fits s packet)
    {payload : List UInt8} {sequences : List UInt32}
    (hfull : ((s.bufferFor packet).add packet).collect (fragmentIndices packet.fragmentCount)
      = some (payload, sequences)) :
    s.reassemble packet = (.ok (some ({
      channelId := (s.bufferFor packet).channelId
      payload
      sequence := sequences.min?.getD 0
    }, packet.ordered, sequences.max?.getD 0 + 1)),
      { s with fragmentBuffers := s.fragmentBuffers.erase packet.fragmentKey }) := by
  have houtcome := reassemble_outcome s packet
  generalize s.reassemble packet = result at houtcome ⊢
  obtain ⟨result, t⟩ := result
  cases houtcome with
  | whole hzero => exact absurd hzero hfits.count_ne_zero
  | refused message _ hnot => exact absurd hfits hnot
  | kept _ _ hopen =>
      rw [hfull] at hopen
      cases hopen
  | completed _ _ payload sequences hdone =>
      rw [hfull] at hdone
      cases hdone
      rfl

/-- What reassembly returns depends on the fragment buffers only. -/
theorem reassemble_congr {s t : Session} (h : s.fragmentBuffers = t.fragmentBuffers)
    (packet : Packet) : (s.reassemble packet).1 = (t.reassemble packet).1 := by
  unfold reassemble
  rw [h]
  split
  · rfl
  split
  · rfl
  split
  · rfl
  dsimp only
  split
  · rfl
  split
  · rfl
  split <;> rfl

/-! ### The stream of a channel -/

/-- The ordered half of the channel `channelId`. -/
def stream (s : Session) (channelId : String) : Resequencer UInt32 PendingOrderedFrame where
  next := s.orderedNextSequenceByChannel[channelId]?
  waiting := s.orderedBuffers.getD channelId ∅

/-- `s'` is `s` with `r` as the stream of `channelId`. -/
structure Streams (s : Session) (channelId : String)
    (r : Resequencer UInt32 PendingOrderedFrame) (s' : Session) : Prop where
  own : s'.stream channelId = r
  others : ∀ other, other ≠ channelId → s'.stream other = s.stream other
  fragmentBuffers : s'.fragmentBuffers = s.fragmentBuffers
  sequenced :
    s'.highestDeliveredSequencedByChannel = s.highestDeliveredSequencedByChannel

theorem Streams.refl (s : Session) (channelId : String) :
    Streams s channelId (s.stream channelId) s :=
  ⟨rfl, fun _ _ => rfl, rfl, rfl⟩

theorem Streams.trans {s t u : Session} {channelId : String}
    {r r' : Resequencer UInt32 PendingOrderedFrame} (h₁ : Streams s channelId r t)
    (h₂ : Streams t channelId r' u) : Streams s channelId r' u where
  own := h₂.own
  others := fun other hother => (h₂.others other hother).trans (h₁.others other hother)
  fragmentBuffers := h₂.fragmentBuffers.trans h₁.fragmentBuffers
  sequenced := h₂.sequenced.trans h₁.sequenced

theorem streams_setNext (s : Session) (channelId : String) (next : UInt32) :
    Streams s channelId { s.stream channelId with next := some next } { s with
      orderedNextSequenceByChannel :=
        s.orderedNextSequenceByChannel.insert channelId next } where
  own := by
    unfold stream
    dsimp only
    rw [Std.ExtTreeMap.getElem?_insert_self]
  others := by
    intro other hother
    unfold stream
    dsimp only
    rw [OrderedMap.getElem?_insert_eq, if_neg (Ne.symm hother)]
  fragmentBuffers := rfl
  sequenced := rfl

theorem streams_setWaiting (s : Session) (channelId : String)
    (waiting : Std.ExtTreeMap UInt32 PendingOrderedFrame) :
    Streams s channelId { s.stream channelId with waiting } { s with
      orderedBuffers := s.orderedBuffers.insert channelId waiting } where
  own := by
    unfold stream
    dsimp only
    rw [Std.ExtTreeMap.getD_insert_self]
  others := by
    intro other hother
    unfold stream
    dsimp only
    rw [Std.ExtTreeMap.getD_eq_getD_getElem?, OrderedMap.getElem?_insert_eq,
      if_neg (Ne.symm hother), Std.ExtTreeMap.getD_eq_getD_getElem?]
  fragmentBuffers := rfl
  sequenced := rfl

/-- The loop of `drain_ordered` drains the stream of its channel. -/
theorem drainOrderedLoop_stream (channelId : String) (fuel : Nat) : ∀ s : Session,
    (drainOrderedLoop channelId fuel s).1
      = ((s.stream channelId).drain PendingOrderedFrame.nextSequence fuel).1.map (·.frame) ∧
    Streams s channelId ((s.stream channelId).drain PendingOrderedFrame.nextSequence fuel).2
      (drainOrderedLoop channelId fuel s).2 := by
  induction fuel with
  | zero => exact fun s => ⟨rfl, Streams.refl s channelId⟩
  | succ fuel ih =>
      intro s
      have hwaiting : (s.stream channelId).waiting = (s.orderedBuffers[channelId]?).getD ∅ :=
        Std.ExtTreeMap.getD_eq_getD_getElem?
      unfold drainOrderedLoop Resequencer.drain
      cases hnext : s.orderedNextSequenceByChannel[channelId]? with
      | none =>
          rw [show (s.stream channelId).next = none from hnext]
          exact ⟨rfl, Streams.refl s channelId⟩
      | some next =>
          rw [show (s.stream channelId).next = some next from hnext]
          cases hbuffer : s.orderedBuffers[channelId]? with
          | none =>
              rw [hbuffer, Option.getD_none] at hwaiting
              have hnone : (s.stream channelId).waiting[next]? = none := by
                rw [hwaiting]
                exact Std.ExtTreeMap.getElem?_empty
              dsimp only
              rw [hnone]
              exact ⟨rfl, Streams.refl s channelId⟩
          | some buffer =>
              rw [hbuffer, Option.getD_some] at hwaiting
              dsimp only
              rw [hwaiting]
              cases hpending : buffer[next]? with
              | none => exact ⟨rfl, Streams.refl s channelId⟩
              | some pending =>
                  dsimp only
                  have hstep := (streams_setWaiting s channelId (buffer.erase next)).trans
                    (streams_setNext { s with
                      orderedBuffers := s.orderedBuffers.insert channelId (buffer.erase next) }
                      channelId pending.nextSequence)
                  rw [(streams_setWaiting s channelId (buffer.erase next)).own] at hstep
                  obtain ⟨hout, hrest⟩ := ih { s with
                    orderedBuffers := s.orderedBuffers.insert channelId (buffer.erase next)
                    orderedNextSequenceByChannel :=
                      s.orderedNextSequenceByChannel.insert channelId pending.nextSequence }
                  rw [hstep.own] at hout hrest
                  refine ⟨?_, hstep.trans hrest⟩
                  rw [hout]
                  rfl

/-- **Ordered delivery is one push into the stream of the frame's channel.** -/
theorem deliverOrdered_stream (s : Session) (frame : DeliveredFrame) (next expected : UInt32) :
    (s.deliverOrdered frame next expected).1
      = ((s.stream frame.channelId).push PendingOrderedFrame.nextSequence frame.sequence
          { frame, nextSequence := next } (min expected frame.sequence)).1.map (·.frame) ∧
    Streams s frame.channelId
      ((s.stream frame.channelId).push PendingOrderedFrame.nextSequence frame.sequence
        { frame, nextSequence := next } (min expected frame.sequence)).2
      (s.deliverOrdered frame next expected).2 := by
  -- the state once the channel has an expected sequence
  obtain ⟨due, t, hdue, ht, heq⟩ : ∃ due t,
      due = (s.stream frame.channelId).next.getD (min expected frame.sequence) ∧
      Streams s frame.channelId { s.stream frame.channelId with next := some due } t ∧
      s.deliverOrdered frame next expected =
        if frame.sequence < due then ([], t)
        else if due < frame.sequence then
          ([], { t with
            orderedBuffers := t.orderedBuffers.insert frame.channelId
              ((t.orderedBuffers.getD frame.channelId ∅).insert frame.sequence
                { frame, nextSequence := next }) })
        else
          let t := { t with
            orderedNextSequenceByChannel :=
              t.orderedNextSequenceByChannel.insert frame.channelId next }
          (frame :: (t.drainOrdered frame.channelId).1, (t.drainOrdered frame.channelId).2) := by
    unfold deliverOrdered
    dsimp only
    cases hnext : s.orderedNextSequenceByChannel[frame.channelId]? with
    | none =>
        refine ⟨min expected frame.sequence, _, ?_,
          streams_setNext s frame.channelId (min expected frame.sequence), rfl⟩
        rw [show (s.stream frame.channelId).next = none from hnext]
        rfl
    | some due =>
        refine ⟨due, s, ?_, ?_, rfl⟩
        · rw [show (s.stream frame.channelId).next = some due from hnext]
          rfl
        · have hsame := Streams.refl s frame.channelId
          rw [show s.stream frame.channelId
              = { s.stream frame.channelId with next := some due } by
            rw [← hnext]
            rfl] at hsame
          exact hsame
  rw [heq]
  unfold Resequencer.push
  rw [← hdue]
  dsimp only
  split
  · exact ⟨rfl, ht⟩
  · split
    · have hheld := ht.trans (streams_setWaiting t frame.channelId
        ((t.orderedBuffers.getD frame.channelId ∅).insert frame.sequence
          { frame, nextSequence := next }))
      rw [ht.own] at hheld
      have hwaiting : t.orderedBuffers.getD frame.channelId ∅
          = (s.stream frame.channelId).waiting := congrArg Resequencer.waiting ht.own
      rw [hwaiting] at hheld ⊢
      exact ⟨rfl, hheld⟩
    · have hnext := ht.trans (streams_setNext t frame.channelId next)
      rw [ht.own] at hnext
      obtain ⟨hout, hrest⟩ := drainOrderedLoop_stream frame.channelId
        ((s.stream frame.channelId).waiting).size { t with
          orderedNextSequenceByChannel :=
            t.orderedNextSequenceByChannel.insert frame.channelId next }
      have hsize : (t.orderedBuffers.getD frame.channelId ∅).size
          = (s.stream frame.channelId).waiting.size :=
        congrArg (fun r => r.waiting.size) ht.own
      unfold drainOrdered
      dsimp only
      rw [hsize, hout]
      rw [hnext.own] at hrest ⊢
      exact ⟨rfl, hnext.trans hrest⟩

/-! ### A Data packet as a whole -/

/-- What `receive` does with a Data packet, after its common prologue. -/
inductive Receipt (s : Session) (packet : Packet) (expected : UInt32) :
    Except Fault ReceiveResult → Session → Prop
  | duplicate (h : packet.sequence ∈ s.receivedSequences) :
      Receipt s packet expected (.ok {}) (s.rememberReceived packet.sequence)
  | refused (h : packet.sequence ∉ s.receivedSequences) (message : String) (t : Session)
      (hr : (s.rememberReceived packet.sequence).reassemble packet = (.error message, t)) :
      Receipt s packet expected (.error (.error message)) t
  | incomplete (h : packet.sequence ∉ s.receivedSequences) (t : Session)
      (hr : (s.rememberReceived packet.sequence).reassemble packet = (.ok none, t)) :
      Receipt s packet expected (.ok {}) t
  | filtered (h : packet.sequence ∉ s.receivedSequences) (frame : DeliveredFrame)
      (next : UInt32) (t : Session)
      (hr : (s.rememberReceived packet.sequence).reassemble packet
        = (.ok (some (frame, false, next)), t))
      (hpass : t.admitSequenced packet.sequenced false frame = none) :
      Receipt s packet expected (.ok {}) t
  | unordered (h : packet.sequence ∉ s.receivedSequences) (frame : DeliveredFrame)
      (next : UInt32) (t u : Session)
      (hr : (s.rememberReceived packet.sequence).reassemble packet
        = (.ok (some (frame, false, next)), t))
      (hpass : t.admitSequenced packet.sequenced false frame = some u) :
      Receipt s packet expected (.ok { delivered := [frame] }) u
  | ordered (h : packet.sequence ∉ s.receivedSequences) (frame : DeliveredFrame)
      (next : UInt32) (t : Session)
      (hr : (s.rememberReceived packet.sequence).reassemble packet
        = (.ok (some (frame, true, next)), t)) :
      Receipt s packet expected
        (.ok { delivered := (t.deliverOrdered frame next expected).1 })
        (t.deliverOrdered frame next expected).2

theorem receiveData_receipt (s : Session) (packet : Packet) (expected : UInt32) :
    Receipt s packet expected (s.receiveData packet expected).1
      (s.receiveData packet expected).2 := by
  unfold receiveData
  dsimp only
  split
  · rename_i h
    exact .duplicate h
  · rename_i h
    split
    · rename_i message t hr
      exact .refused h message t hr
    · rename_i t hr
      exact .incomplete h t hr
    · rename_i frame ordered next t hr
      cases ordered with
      | true =>
          have hpass : t.admitSequenced packet.sequenced true frame = some t := by
            unfold admitSequenced
            simp
          rw [hpass]
          exact .ordered h frame next t hr
      | false =>
          cases hpass : t.admitSequenced packet.sequenced false frame with
          | none => exact .filtered h frame next t hr hpass
          | some u => exact .unordered h frame next t u hr hpass

section

variable {s t : Session} {packet : Packet} {expected : UInt32}
  {result : Except Fault ReceiveResult}

/-- A number received before is remembered again, and that is all. -/
theorem Receipt.of_duplicate (h : Receipt s packet expected result t)
    (hold : packet.sequence ∈ s.receivedSequences) :
    result = .ok {} ∧ t = s.rememberReceived packet.sequence := by
  cases h with
  | duplicate _ => exact ⟨rfl, rfl⟩
  | refused hnew => exact absurd hold hnew
  | incomplete hnew => exact absurd hold hnew
  | filtered hnew => exact absurd hold hnew
  | unordered hnew => exact absurd hold hnew
  | ordered hnew => exact absurd hold hnew

/-- A new packet that completes no message brings out nothing. -/
theorem Receipt.of_incomplete (h : Receipt s packet expected result t)
    (hnew : packet.sequence ∉ s.receivedSequences)
    (hr : ((s.rememberReceived packet.sequence).reassemble packet).1 = .ok none) :
    result = .ok {} ∧ t = ((s.rememberReceived packet.sequence).reassemble packet).2 := by
  cases h with
  | duplicate hold => exact absurd hold hnew
  | refused _ message _ heq => rw [heq] at hr; cases hr
  | incomplete _ _ heq => rw [heq]; exact ⟨rfl, rfl⟩
  | filtered _ frame next _ heq => rw [heq] at hr; cases hr
  | unordered _ frame next _ _ heq => rw [heq] at hr; cases hr
  | ordered _ frame next _ heq => rw [heq] at hr; cases hr

/-- A new packet that completes an unordered, unsequenced message brings it out. -/
theorem Receipt.of_unordered {frame : DeliveredFrame} {next : UInt32}
    (h : Receipt s packet expected result t) (hnew : packet.sequence ∉ s.receivedSequences)
    (hr : ((s.rememberReceived packet.sequence).reassemble packet).1
      = .ok (some (frame, false, next)))
    (hsequenced : packet.sequenced = false) : result = .ok { delivered := [frame] } := by
  cases h with
  | duplicate hold => exact absurd hold hnew
  | refused _ message _ heq => rw [heq] at hr; cases hr
  | incomplete _ _ heq => rw [heq] at hr; cases hr
  | filtered _ frame' next' _ heq hpass => rw [hsequenced] at hpass; cases hpass
  | unordered _ frame' next' _ _ heq => rw [heq] at hr; cases hr; rfl
  | ordered _ frame' next' _ heq => rw [heq] at hr; cases hr

/-- A new packet that completes an ordered message hands it to the stream of its channel. -/
theorem Receipt.of_ordered {frame : DeliveredFrame} {next : UInt32}
    (h : Receipt s packet expected result t) (hnew : packet.sequence ∉ s.receivedSequences)
    (hr : ((s.rememberReceived packet.sequence).reassemble packet).1
      = .ok (some (frame, true, next))) :
    result = .ok { delivered := (((s.rememberReceived packet.sequence).reassemble
        packet).2.deliverOrdered frame next expected).1 } ∧
      t = (((s.rememberReceived packet.sequence).reassemble packet).2.deliverOrdered frame next
        expected).2 := by
  cases h with
  | duplicate hold => exact absurd hold hnew
  | refused _ message _ heq => rw [heq] at hr; cases hr
  | incomplete _ _ heq => rw [heq] at hr; cases hr
  | filtered _ frame' next' _ heq => rw [heq] at hr; cases hr
  | unordered _ frame' next' _ _ heq => rw [heq] at hr; cases hr
  | ordered _ frame' next' _ heq => rw [heq] at hr ⊢; cases hr; exact ⟨rfl, rfl⟩

end

/-- The sequenced filter writes nothing but its own table. -/
theorem admitSequenced_frame {s s' : Session} {sequenced ordered : Bool}
    {frame : DeliveredFrame} (h : s.admitSequenced sequenced ordered frame = some s') :
    s'.fragmentBuffers = s.fragmentBuffers ∧ ∀ channelId, s'.stream channelId = s.stream channelId := by
  unfold admitSequenced at h
  dsimp only at h
  split at h
  · split at h
    · cases h
    · cases h
      exact ⟨rfl, fun _ => rfl⟩
  · cases h
    exact ⟨rfl, fun _ => rfl⟩

/-- Reassembly leaves the streams alone. -/
theorem Reassembles.stream {s t : Session} {packet : Packet}
    {result : Except String (Option (DeliveredFrame × Bool × UInt32))}
    (h : Reassembles s packet result t) (channelId : String) :
    t.stream channelId = s.stream channelId := by
  cases h <;> rfl

theorem Reassembles.sequenced {s t : Session} {packet : Packet}
    {result : Except String (Option (DeliveredFrame × Bool × UInt32))}
    (h : Reassembles s packet result t) :
    t.highestDeliveredSequencedByChannel = s.highestDeliveredSequencedByChannel := by
  cases h <;> rfl

end Session

end CultNet.Rudp
