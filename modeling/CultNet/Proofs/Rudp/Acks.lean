/-
What an acknowledgement says, and what it removes.

The two fields `ack` and `ackMask` of a packet name a set of sequence numbers:
`ack` itself and those of the 32 before it whose bit is set.  Reading them,
`applyAcknowledgements` removes exactly that set from the pending packets;
writing them, `ackState` names the highest sequence received and whichever of
the 32 before it were received too.  The one number that is named without having
been received is 0, by a session that has received nothing.
-/
import CultNet.Lib.BitMask
import CultNet.Rudp.Session

namespace CultNet.Rudp

/-! ### The set the two fields name -/

/-- `q` is one of the sequence numbers that `ack` and `ackMask` name. -/
def AckCovers (ack ackMask q : UInt32) : Prop :=
  q = ack ∨ ∃ bit < 32, BitMask.IsSet ackMask bit ∧ UInt32.ofNat bit < ack ∧
    ack - UInt32.ofNat bit - 1 = q

/-- `packet` acknowledges the sequence number `q`. -/
def Packet.Covers (packet : Packet) (q : UInt32) : Prop := AckCovers packet.ack packet.ackMask q

theorem toNat_ofNat_bit {bit : Nat} (h : bit < 32) : (UInt32.ofNat bit).toNat = bit := by
  rw [UInt32.toNat_ofNat']
  exact Nat.mod_eq_of_lt (by omega)

/-- The sequence number a bit stands for, when it stands for one. -/
theorem toNat_sub_bit {ack : UInt32} {bit : Nat} (hbit : bit < 32)
    (hlt : UInt32.ofNat bit < ack) :
    (ack - UInt32.ofNat bit - 1).toNat = ack.toNat - bit - 1 := by
  have hnat : bit < ack.toNat := by
    rw [UInt32.lt_iff_toNat_lt, toNat_ofNat_bit hbit] at hlt
    exact hlt
  have hle : UInt32.ofNat bit ≤ ack := UInt32.le_of_lt hlt
  have hsub : (ack - UInt32.ofNat bit).toNat = ack.toNat - bit := by
    rw [UInt32.toNat_sub_of_le _ _ hle, toNat_ofNat_bit hbit]
  have hone : (1 : UInt32) ≤ ack - UInt32.ofNat bit := by
    rw [UInt32.le_iff_toNat_le, hsub]
    show 1 ≤ ack.toNat - bit
    omega
  rw [UInt32.toNat_sub_of_le _ _ hone, hsub]
  rfl

/-- The bit that stands for `q` below `ack`. -/
theorem sub_bit_eq_iff {ack q : UInt32} {bit : Nat} (hbit : bit < 32) :
    UInt32.ofNat bit < ack ∧ ack - UInt32.ofNat bit - 1 = q ↔
      q.toNat + bit + 1 = ack.toNat := by
  constructor
  · rintro ⟨hlt, rfl⟩
    rw [toNat_sub_bit hbit hlt]
    rw [UInt32.lt_iff_toNat_lt, toNat_ofNat_bit hbit] at hlt
    omega
  · intro h
    have hlt : UInt32.ofNat bit < ack := by
      rw [UInt32.lt_iff_toNat_lt, toNat_ofNat_bit hbit]
      omega
    refine ⟨hlt, ?_⟩
    rw [← UInt32.toNat_inj, toNat_sub_bit hbit hlt]
    omega

namespace Session

/-! ### Applying acknowledgements -/

/-- **Exactly the covered packets stop being pending.** -/
theorem applyAcknowledgements_pending (s : Session) (packet : Packet) (k : UInt32)
    (v : PendingReliablePacket) :
    (s.applyAcknowledgements packet).pendingReliable[k]? = some v ↔
      s.pendingReliable[k]? = some v ∧ ¬ packet.Covers k := by
  unfold applyAcknowledgements
  rw [OrderedMap.getElem?_foldl_erase, OrderedMap.getElem?_erase_eq]
  unfold Packet.Covers AckCovers
  constructor
  · rintro ⟨hpending, hbits⟩
    by_cases hk : packet.ack = k
    · rw [if_pos hk] at hpending
      cases hpending
    · rw [if_neg hk] at hpending
      refine ⟨hpending, ?_⟩
      rintro (rfl | ⟨bit, hbit, hset, hlt, heq⟩)
      · exact hk rfl
      · exact hbits bit (List.mem_range.mpr hbit) ⟨hset, hlt⟩ heq
  · rintro ⟨hpending, hnot⟩
    have hk : packet.ack ≠ k := fun h => hnot (Or.inl h.symm)
    rw [if_neg hk]
    refine ⟨hpending, ?_⟩
    intro bit hbit htest heq
    exact hnot (Or.inr ⟨bit, List.mem_range.mp hbit, htest.1, htest.2, heq⟩)

theorem mem_applyAcknowledgements (s : Session) (packet : Packet) (k : UInt32) :
    k ∈ (s.applyAcknowledgements packet).pendingReliable ↔
      k ∈ s.pendingReliable ∧ ¬ packet.Covers k := by
  simp only [Std.ExtTreeMap.mem_iff_isSome_getElem?, Option.isSome_iff_exists,
    applyAcknowledgements_pending, exists_and_right]

/-! ### The received set -/

/-- The highest sequence is the maximum of the received set. -/
structure ReceivedOK (s : Session) : Prop where
  empty : s.highestReceivedSequence = none → s.receivedSequences = ∅
  highest : ∀ h, s.highestReceivedSequence = some h → h ∈ s.receivedSequences
  le : ∀ h, s.highestReceivedSequence = some h → ∀ q ∈ s.receivedSequences, q ≤ h

theorem receivedOK_new (options : SessionOptions) : ReceivedOK (Session.new options) where
  empty := fun _ => rfl
  highest := fun _ h => by cases h
  le := fun _ h => by cases h

theorem ReceivedOK.remember {s : Session} (ok : ReceivedOK s) (sequence : UInt32) :
    ReceivedOK (s.rememberReceived sequence) := by
  cases hh : s.highestReceivedSequence with
  | none =>
      have hempty := ok.empty hh
      refine ⟨?_, ?_, ?_⟩
      · intro h
        simp [rememberReceived, hh] at h
      · intro h heq
        simp only [rememberReceived, hh, Option.some.injEq] at heq
        simp [rememberReceived, heq]
      · intro h heq q hq
        simp only [rememberReceived, hh, Option.some.injEq] at heq
        simp only [rememberReceived, hempty, Finset.mem_insert, Finset.notMem_empty,
          or_false] at hq
        rw [hq, heq]
        exact UInt32.le_refl h
  | some highest =>
      have hmem := ok.highest highest hh
      have hle := ok.le highest hh
      by_cases hlt : highest < sequence
      · refine ⟨?_, ?_, ?_⟩
        · intro h
          simp [rememberReceived, hh, hlt] at h
        · intro h heq
          simp only [rememberReceived, hh, if_pos hlt, Option.some.injEq] at heq
          simp [rememberReceived, heq]
        · intro h heq q hq
          simp only [rememberReceived, hh, if_pos hlt, Option.some.injEq] at heq
          subst heq
          rcases Finset.mem_insert.mp hq with rfl | hq
          · exact UInt32.le_refl _
          · exact UInt32.le_trans (hle q hq) (UInt32.le_of_lt hlt)
      · refine ⟨?_, ?_, ?_⟩
        · intro h
          simp [rememberReceived, hh, hlt] at h
        · intro h heq
          simp only [rememberReceived, hh, if_neg hlt, Option.some.injEq] at heq
          subst heq
          exact Finset.mem_insert_of_mem hmem
        · intro h heq q hq
          simp only [rememberReceived, hh, if_neg hlt, Option.some.injEq] at heq
          subst heq
          rcases Finset.mem_insert.mp hq with rfl | hq
          · exact UInt32.not_lt.mp hlt
          · exact hle q hq

/-! ### What a session acknowledges -/

/-- The two fields of an outgoing packet, unfolded. -/
theorem ackState_covers (s : Session) (q : UInt32) :
    AckCovers s.ackState.1 s.ackState.2 q ↔
      q = s.highestReceivedSequence.getD 0 ∨
        q ∈ s.receivedSequences ∧ q < s.highestReceivedSequence.getD 0 ∧
          (s.highestReceivedSequence.getD 0).toNat ≤ q.toNat + 32 := by
  set ack := s.highestReceivedSequence.getD 0 with hack
  have hbit : ∀ bit < 32, BitMask.IsSet s.ackState.2 bit ↔
      UInt32.ofNat bit < ack ∧ ack - UInt32.ofNat bit - 1 ∈ s.receivedSequences :=
    fun bit h => BitMask.isSet_collect_range
      (fun bit => UInt32.ofNat bit < ack ∧ ack - UInt32.ofNat bit - 1 ∈ s.receivedSequences) h
  show (q = ack ∨ ∃ bit < 32, _ ∧ UInt32.ofNat bit < ack ∧ ack - UInt32.ofNat bit - 1 = q) ↔ _
  refine or_congr_right ?_
  constructor
  · rintro ⟨bit, hlt, hset, hbelow, rfl⟩
    have hq := (sub_bit_eq_iff hlt).mp ⟨hbelow, rfl⟩
    refine ⟨((hbit bit hlt).mp hset).2, ?_, by omega⟩
    rw [UInt32.lt_iff_toNat_lt]
    omega
  · rintro ⟨hmem, hlt, hwindow⟩
    rw [UInt32.lt_iff_toNat_lt] at hlt
    have hlt32 : ack.toNat - q.toNat - 1 < 32 := by omega
    have hsum : q.toNat + (ack.toNat - q.toNat - 1) + 1 = ack.toNat := by omega
    obtain ⟨hbelow, heq⟩ := (sub_bit_eq_iff hlt32).mpr hsum
    refine ⟨ack.toNat - q.toNat - 1, hlt32, (hbit _ hlt32).mpr ⟨hbelow, ?_⟩, hbelow, heq⟩
    rw [heq]
    exact hmem

/-- A session that has received something acknowledges what it received in its window. -/
theorem ReceivedOK.covers_iff {s : Session} (ok : ReceivedOK s) {h : UInt32}
    (hh : s.highestReceivedSequence = some h) (q : UInt32) :
    AckCovers s.ackState.1 s.ackState.2 q ↔
      q ∈ s.receivedSequences ∧ h.toNat ≤ q.toNat + 32 := by
  rw [ackState_covers, hh, Option.getD_some]
  constructor
  · rintro (rfl | ⟨hmem, -, hwindow⟩)
    · exact ⟨ok.highest q hh, by omega⟩
    · exact ⟨hmem, hwindow⟩
  · rintro ⟨hmem, hwindow⟩
    rcases UInt32.lt_or_eq_of_le (ok.le h hh q hmem) with hlt | heq
    · exact Or.inr ⟨hmem, hlt, hwindow⟩
    · exact Or.inl heq

/-- A session that has received nothing acknowledges sequence 0. -/
theorem ReceivedOK.covers_none {s : Session} (ok : ReceivedOK s)
    (hh : s.highestReceivedSequence = none) (q : UInt32) :
    AckCovers s.ackState.1 s.ackState.2 q ↔ q = 0 := by
  rw [ackState_covers, hh, Option.getD_none]
  simp [ok.empty hh]

/-- Whatever a session acknowledges it has received, sequence 0 apart. -/
theorem ReceivedOK.covered_received {s : Session} (ok : ReceivedOK s) {q : UInt32}
    (hcovers : AckCovers s.ackState.1 s.ackState.2 q) : q = 0 ∨ q ∈ s.receivedSequences := by
  cases hh : s.highestReceivedSequence with
  | none => exact Or.inl ((ok.covers_none hh q).mp hcovers)
  | some h => exact Or.inr ((ok.covers_iff hh q).mp hcovers).1

end Session

end CultNet.Rudp
