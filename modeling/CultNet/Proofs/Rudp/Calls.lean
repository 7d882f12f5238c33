/-
What one call on a session can do.

A session has two halves.  The receiving half, `Inbound`, is written by
`receive`, `accept_connect` and `reset_peer_state` only.  The sending half is
the packet counter and the pending packets, and every call treats it alike,
which is what `Creates` says: the packets a call creates carry consecutive
numbers from the counter on, they all carry the acknowledgement of the session
as the call leaves it, and nothing becomes pending but what was created.
-/
import CultNet.Proofs.Rudp.Acks
import CultNet.Rudp.Calls
import Mathlib.Data.List.Forall2
import Mathlib.Data.List.Nodup
import Mathlib.Data.List.Pairwise

namespace CultNet.Rudp

/-- In a list of lists without repetitions an element belongs to one list only. -/
theorem eq_of_mem_flatMap {α β : Type} {l : List α} {f : α → List β}
    (h : (l.flatMap f).Nodup) {a b : α} (ha : a ∈ l) (hb : b ∈ l) {x : β} (hxa : x ∈ f a)
    (hxb : x ∈ f b) : a = b := by
  by_contra hne
  have hsymm : Std.Symm (Function.onFun List.Disjoint f) :=
    ⟨fun _ _ hdisjoint => hdisjoint.symm⟩
  have hdisjoint := (List.nodup_flatMap.mp h).2.forall ha hb hne
  exact hdisjoint hxa hxb

/-- The receiving half of a session. -/
structure Inbound where
  highestReceivedSequence : Option UInt32
  receivedSequences : Finset UInt32
  orderedNextSequenceByChannel : Std.ExtTreeMap String UInt32
  orderedBuffers : Std.ExtTreeMap String (Std.ExtTreeMap UInt32 PendingOrderedFrame)
  fragmentBuffers : Std.ExtTreeMap FragmentKey FragmentBuffer
  highestDeliveredSequencedByChannel : Std.ExtTreeMap String UInt32

/-- The sending half of a session, with what it was set up with. -/
structure Outbound where
  connectionId : UInt32
  resendDelayMs : Nat
  maxPendingReliablePackets : Option Nat
  nextSequence : UInt32
  nextFragmentId : UInt16
  pendingReliable : Std.ExtTreeMap UInt32 PendingReliablePacket
  reliablePacketsExpired : Nat

namespace Session

/-- The sending half of `s`. -/
def outbound (s : Session) : Outbound where
  connectionId := s.connectionId
  resendDelayMs := s.resendDelayMs
  maxPendingReliablePackets := s.maxPendingReliablePackets
  nextSequence := s.nextSequence
  nextFragmentId := s.nextFragmentId
  pendingReliable := s.pendingReliable
  reliablePacketsExpired := s.reliablePacketsExpired

/-- The receiving half of `s`. -/
def inbound (s : Session) : Inbound where
  highestReceivedSequence := s.highestReceivedSequence
  receivedSequences := s.receivedSequences
  orderedNextSequenceByChannel := s.orderedNextSequenceByChannel
  orderedBuffers := s.orderedBuffers
  fragmentBuffers := s.fragmentBuffers
  highestDeliveredSequencedByChannel := s.highestDeliveredSequencedByChannel

/-- The received set with its maximum. -/
def window (s : Session) : Option UInt32 × Finset UInt32 :=
  (s.highestReceivedSequence, s.receivedSequences)

theorem window_of_inbound {s t : Session} (h : s.inbound = t.inbound) : s.window = t.window :=
  congrArg₂ Prod.mk (congrArg Inbound.highestReceivedSequence h)
    (congrArg Inbound.receivedSequences h)

/-- Two sessions that received the same acknowledge the same. -/
theorem ackState_of_window {s t : Session} (h : s.window = t.window) :
    s.ackState = t.ackState := by
  have hhighest : s.highestReceivedSequence = t.highestReceivedSequence := congrArg Prod.fst h
  have hreceived : s.receivedSequences = t.receivedSequences := congrArg Prod.snd h
  unfold ackState
  rw [hhighest, hreceived]

theorem receivedOK_of_window {s t : Session} (h : s.window = t.window) (ok : ReceivedOK s) :
    ReceivedOK t := by
  have hhighest : s.highestReceivedSequence = t.highestReceivedSequence := congrArg Prod.fst h
  have hreceived : s.receivedSequences = t.receivedSequences := congrArg Prod.snd h
  refine ⟨?_, ?_, ?_⟩
  · rw [← hhighest, ← hreceived]
    exact ok.empty
  · rw [← hhighest, ← hreceived]
    exact ok.highest
  · rw [← hhighest, ← hreceived]
    exact ok.le

/-! ### The sending half -/

/-- The packet `p` is pending under the number `k`. -/
def Pending (s : Session) (k : UInt32) (p : Packet) : Prop :=
  ∃ pending, s.pendingReliable[k]? = some pending ∧ pending.packet = p

theorem mem_pending_iff (s : Session) (k : UInt32) :
    k ∈ s.pendingReliable ↔ ∃ p, s.Pending k p := by
  rw [Std.ExtTreeMap.mem_iff_isSome_getElem?, Option.isSome_iff_exists]
  constructor
  · rintro ⟨v, hv⟩
    exact ⟨v.packet, v, hv, rfl⟩
  · rintro ⟨_, v, hv, -⟩
    exact ⟨v, hv⟩

/-- The packets `created` are numbered consecutively from the counter of `s` to that of `s'`. -/
structure Numbers (s s' : Session) (created : List Packet) : Prop where
  connectionId : s'.connectionId = s.connectionId
  sequences : created.map (fun p => p.sequence.toNat)
    = List.range' s.nextSequence.toNat created.length
  nextSequence : s'.nextSequence.toNat = s.nextSequence.toNat + created.length
  fragmentIds : s.nextFragmentId ≠ 0 → s'.nextFragmentId ≠ 0
  ids : ∀ p ∈ created, p.connectionId = s.connectionId

theorem Numbers.refl (s : Session) : Numbers s s [] where
  connectionId := rfl
  sequences := rfl
  nextSequence := rfl
  fragmentIds := id
  ids := by intro p hp; cases hp

theorem Numbers.trans {s t u : Session} {ps qs : List Packet} (h₁ : Numbers s t ps)
    (h₂ : Numbers t u qs) : Numbers s u (ps ++ qs) where
  connectionId := h₂.connectionId.trans h₁.connectionId
  sequences := by
    rw [List.map_append, h₁.sequences, h₂.sequences, h₁.nextSequence, List.length_append,
      List.range'_append_1]
  nextSequence := by rw [h₂.nextSequence, h₁.nextSequence, List.length_append]; omega
  fragmentIds := fun h => h₂.fragmentIds (h₁.fragmentIds h)
  ids := by
    intro p hp
    rcases List.mem_append.mp hp with hp | hp
    · exact h₁.ids p hp
    · rw [h₂.ids p hp, h₁.connectionId]

/-- What a call that created the packets `created` did to the sending half. -/
structure Creates (s s' : Session) (created : List Packet) : Prop
    extends Numbers s s' created where
  limit : s'.maxPendingReliablePackets = s.maxPendingReliablePackets
  acks : ∀ p ∈ created, (p.ack, p.ackMask) = s'.ackState
  /-- Only created packets become pending, each under its own number. -/
  pending : ∀ k p, s'.Pending k p → s.Pending k p ∨ p ∈ created ∧ p.sequence = k

/-- Creating nothing. -/
theorem Creates.none {s s' : Session} (hid : s'.connectionId = s.connectionId)
    (hlimit : s'.maxPendingReliablePackets = s.maxPendingReliablePackets)
    (hnext : s'.nextSequence = s.nextSequence)
    (hfragment : s'.nextFragmentId = s.nextFragmentId)
    (hpending : ∀ k p, s'.Pending k p → s.Pending k p) : Creates s s' [] where
  connectionId := hid
  limit := hlimit
  sequences := rfl
  nextSequence := by rw [hnext]; rfl
  fragmentIds := by rw [hfragment]; exact id
  ids := by intro p hp; cases hp
  acks := by intro p hp; cases hp
  pending := fun k p hp => Or.inl (hpending k p hp)

theorem Creates.refl (s : Session) : Creates s s [] :=
  Creates.none rfl rfl rfl rfl (fun _ _ hp => hp)

/-- Leaving the sending half alone creates nothing. -/
theorem Creates.of_outbound {s s' : Session} (h : s'.outbound = s.outbound) : Creates s s' [] :=
  Creates.none (congrArg Outbound.connectionId h)
    (congrArg Outbound.maxPendingReliablePackets h) (congrArg Outbound.nextSequence h)
    (congrArg Outbound.nextFragmentId h) (by
      have hpending : s'.pendingReliable = s.pendingReliable :=
        congrArg Outbound.pendingReliable h
      unfold Pending
      rw [hpending]
      exact fun _ _ hp => hp)

/-- One creation after another, with the receiving half left alone in between. -/
theorem Creates.trans {s t u : Session} {ps qs : List Packet} (h₁ : Creates s t ps)
    (h₂ : Creates t u qs) (hin : u.inbound = t.inbound) : Creates s u (ps ++ qs) where
  toNumbers := h₁.toNumbers.trans h₂.toNumbers
  limit := h₂.limit.trans h₁.limit
  acks := by
    intro p hp
    rcases List.mem_append.mp hp with hp | hp
    · rw [h₁.acks p hp, ackState_of_window (window_of_inbound hin)]
    · exact h₂.acks p hp
  pending := by
    intro k p hp
    rcases h₂.pending k p hp with hp | ⟨hmem, hk⟩
    · rcases h₁.pending k p hp with hp | ⟨hmem, hk⟩
      · exact Or.inl hp
      · exact Or.inr ⟨List.mem_append.mpr (Or.inl hmem), hk⟩
    · exact Or.inr ⟨List.mem_append.mpr (Or.inr hmem), hk⟩

/-- The state before a call matters only through these fields. -/
theorem Creates.of_eq {s t u : Session} {ps : List Packet} (h : Creates t u ps)
    (hid : t.connectionId = s.connectionId)
    (hlimit : t.maxPendingReliablePackets = s.maxPendingReliablePackets)
    (hnext : t.nextSequence = s.nextSequence)
    (hfragment : s.nextFragmentId ≠ 0 → t.nextFragmentId ≠ 0)
    (hpending : ∀ k p, t.Pending k p → s.Pending k p) : Creates s u ps where
  connectionId := h.connectionId.trans hid
  limit := h.limit.trans hlimit
  sequences := by rw [← hnext]; exact h.sequences
  nextSequence := by rw [← hnext]; exact h.nextSequence
  fragmentIds := fun hs => h.fragmentIds (hfragment hs)
  ids := fun p hp => (h.ids p hp).trans hid
  acks := h.acks
  pending := fun k p hp => (h.pending k p hp).imp_left (hpending k p)

/-! ### Creating one packet -/

theorem toNat_succ {n : UInt32} (h : n ≠ u32Max) : (n + 1).toNat = n.toNat + 1 := by
  have hne : n.toNat ≠ 4294967295 := fun hc => h (UInt32.toNat_inj.mp hc)
  have hlt := n.toNat_lt
  rw [UInt32.toNat_add, UInt32.toNat_one]
  omega

theorem createPacketWithFragments_ok {s s' : Session} {t : PacketType} {c : String}
    {payload : List UInt8} {r o q : Bool} {fid fidx fcount : UInt16} {p : Packet}
    (h : s.createPacketWithFragments t c payload r o q fid fidx fcount = (.ok p, s')) :
    s.nextSequence ≠ u32Max ∧ s' = { s with nextSequence := s.nextSequence + 1 } ∧
      p = { packetType := t, connectionId := s.connectionId, sequence := s.nextSequence
            ack := s.ackState.1, ackMask := s.ackState.2, channelId := c, reliable := r
            ordered := o, sequenced := q, fragmentId := fid, fragmentIndex := fidx
            fragmentCount := fcount, payload := payload } := by
  unfold createPacketWithFragments at h
  by_cases hmax : s.nextSequence = u32Max
  · rw [if_pos hmax] at h
    cases h
  · rw [if_neg hmax] at h
    cases h
    exact ⟨hmax, rfl, rfl⟩

/-- Only an exhausted counter stops a packet from being created, and it stops it by a panic. -/
theorem createPacketWithFragments_error {s s' : Session} {t : PacketType} {c : String}
    {payload : List UInt8} {r o q : Bool} {fid fidx fcount : UInt16} {fault : Fault}
    (h : s.createPacketWithFragments t c payload r o q fid fidx fcount = (.error fault, s')) :
    fault = .panic "sequence overflow" := by
  unfold createPacketWithFragments at h
  by_cases hmax : s.nextSequence = u32Max
  · rw [if_pos hmax] at h
    cases h
    rfl
  · rw [if_neg hmax] at h
    cases h

theorem creates_one {s s' : Session} {t : PacketType} {c : String} {payload : List UInt8}
    {r o q : Bool} {fid fidx fcount : UInt16} {p : Packet}
    (h : s.createPacketWithFragments t c payload r o q fid fidx fcount = (.ok p, s')) :
    Creates s s' [p] ∧ s'.inbound = s.inbound := by
  obtain ⟨hmax, rfl, rfl⟩ := createPacketWithFragments_ok h
  refine ⟨⟨⟨rfl, rfl, toNat_succ hmax, id, ?_⟩, rfl, ?_, ?_⟩, rfl⟩
  · intro p hp
    rw [List.mem_singleton.mp hp]
  · intro p hp
    rw [List.mem_singleton.mp hp]
    rfl
  · exact fun k p hp => Or.inl hp

/-- Tracking a packet that was just created. -/
theorem Creates.track {s s' : Session} {ps : List Packet} (h : Creates s s' ps)
    (options : SendOptions) {p : Packet} (hp : p ∈ ps) :
    Creates s (s'.trackReliable options p) ps where
  toNumbers := ⟨h.connectionId, h.sequences, h.nextSequence, h.fragmentIds, h.ids⟩
  limit := h.limit
  acks := h.acks
  pending := by
    rintro k q ⟨v, hv, rfl⟩
    rw [show (s'.trackReliable options p).pendingReliable = s'.pendingReliable.insert p.sequence _
      from rfl, OrderedMap.getElem?_insert_eq] at hv
    by_cases hk : p.sequence = k
    · rw [if_pos hk, Option.some.injEq] at hv
      subst hv
      exact Or.inr ⟨hp, hk⟩
    · rw [if_neg hk] at hv
      exact h.pending k v.packet ⟨v, hv, rfl⟩

/-! ### Sending -/

/-- A fragment of a message, whatever numbers the session put on it. -/
structure IsFragment (channelId : String) (payload : List UInt8) (options : SendOptions)
    (maxFragmentBytes : Nat) (fragmentId : UInt16) (fragmentCount index : Nat)
    (p : Packet) : Prop where
  packetType : p.packetType = .data
  channel : p.channelId = channelId
  reliable : p.reliable = options.reliable
  ordered : p.ordered = options.ordered
  sequenced : p.sequenced = options.sequenced
  fragmentId : p.fragmentId = fragmentId
  fragmentIndex : p.fragmentIndex = UInt16.ofNat index
  fragmentCount : p.fragmentCount = UInt16.ofNat fragmentCount
  payload : p.payload = slice payload (index * maxFragmentBytes)
    (min (index * maxFragmentBytes + maxFragmentBytes) payload.length)

/-- A payload that is too long for one packet needs at least two. -/
theorem two_le_divCeil {length size : Nat} (hpos : 0 < size) (h : size < length) :
    2 ≤ divCeil length size := by
  unfold divCeil
  rw [Nat.le_div_iff_mul_le hpos]
  omega

theorem fragments_ne_nil {channelId : String} {payload : List UInt8} {options : SendOptions}
    {maxFragmentBytes : Nat} {fragmentId : UInt16} {fragmentCount : Nat} {packets : List Packet}
    (h : List.Forall₂ (IsFragment channelId payload options maxFragmentBytes fragmentId
      fragmentCount) (List.range (divCeil payload.length maxFragmentBytes)) packets)
    (hpos : 0 < maxFragmentBytes) (hlong : maxFragmentBytes < payload.length) : packets ≠ [] := by
  rintro rfl
  have hlength := h.length_eq
  have htwo := two_le_divCeil hpos hlong
  rw [List.length_range, List.length_nil] at hlength
  omega

theorem sendFragments_ok {channelId : String} {payload : List UInt8} {options : SendOptions}
    {maxFragmentBytes : Nat} {fragmentId : UInt16} {fragmentCount : Nat} :
    ∀ {indices : List Nat} {s s' : Session} {packets : List Packet},
      sendFragments channelId payload options maxFragmentBytes fragmentId fragmentCount indices s
          = (.ok packets, s') →
        Creates s s' packets ∧ s'.inbound = s.inbound ∧
          List.Forall₂ (IsFragment channelId payload options maxFragmentBytes fragmentId
            fragmentCount) indices packets := by
  intro indices
  induction indices with
  | nil =>
      intro s s' packets h
      simp only [sendFragments, Prod.mk.injEq, Except.ok.injEq] at h
      obtain ⟨rfl, rfl⟩ := h
      exact ⟨Creates.refl _, rfl, List.Forall₂.nil⟩
  | cons index rest ih =>
      intro s s' packets h
      simp only [sendFragments] at h
      split at h
      · cases h
      · rename_i p s₁ hcreate
        split at h
        · cases h
        · rename_i tail s₂ hrest
          simp only [Prod.mk.injEq, Except.ok.injEq] at h
          obtain ⟨rfl, rfl⟩ := h
          obtain ⟨hone, hin₁⟩ := creates_one hcreate
          obtain ⟨htail, hin₂, hshape⟩ := ih hrest
          obtain ⟨-, -, hp⟩ := createPacketWithFragments_ok hcreate
          set t := if p.reliable = true then s₁.trackReliable options p else s₁ with ht
          have htracked : Creates s t [p] := by
            rw [ht]
            split
            · exact hone.track options (List.mem_singleton_self p)
            · exact hone
          have hin : t.inbound = s.inbound := by
            rw [ht]
            split <;> exact hin₁
          refine ⟨htracked.trans htail hin₂, hin₂.trans hin, List.Forall₂.cons ?_ hshape⟩
          rw [hp]
          exact ⟨rfl, rfl, rfl, rfl, rfl, rfl, rfl, rfl, rfl⟩

theorem sendFragments_error {channelId : String} {payload : List UInt8} {options : SendOptions}
    {maxFragmentBytes : Nat} {fragmentId : UInt16} {fragmentCount : Nat} :
    ∀ {indices : List Nat} {s s' : Session} {fault : Fault},
      sendFragments channelId payload options maxFragmentBytes fragmentId fragmentCount indices s
          = (.error fault, s') → fault = .panic "sequence overflow" := by
  intro indices
  induction indices with
  | nil => intro s s' fault h; cases h
  | cons index rest ih =>
      intro s s' fault h
      simp only [sendFragments] at h
      split at h
      · rename_i hcreate
        cases h
        exact createPacketWithFragments_error hcreate
      · split at h
        · rename_i hrest
          cases h
          exact ih hrest
        · cases h

/-- A message that travels in one packet. -/
structure IsWhole (channelId : String) (payload : List UInt8) (options : SendOptions)
    (p : Packet) : Prop where
  packetType : p.packetType = .data
  channel : p.channelId = channelId
  reliable : p.reliable = options.reliable
  ordered : p.ordered = options.ordered
  sequenced : p.sequenced = options.sequenced
  fragmentCount : p.fragmentCount = 0
  payload : p.payload = payload

theorem sendWhole_ok {s s' : Session} {channelId : String} {payload : List UInt8}
    {options : SendOptions} {packets : List Packet}
    (h : s.sendWhole channelId payload options = (.ok packets, s')) :
    ∃ p, packets = [p] ∧ IsWhole channelId payload options p ∧ Creates s s' [p] ∧
      s'.inbound = s.inbound := by
  unfold sendWhole at h
  split at h
  · cases h
  · split at h
    · cases h
    · rename_i p s₁ hcreate
      simp only [Prod.mk.injEq, Except.ok.injEq] at h
      obtain ⟨rfl, rfl⟩ := h
      obtain ⟨hone, hin⟩ := creates_one hcreate
      obtain ⟨-, -, hp⟩ := createPacketWithFragments_ok hcreate
      have hshape : IsWhole channelId payload options p := by
        rw [hp]
        exact ⟨rfl, rfl, rfl, rfl, rfl, rfl, rfl⟩
      refine ⟨p, rfl, hshape, ?_, ?_⟩
      · split
        · exact hone.track options (List.mem_singleton_self p)
        · exact hone
      · split <;> exact hin

/-- A refused send leaves the state as it is; a panic never passes for an `Err`. -/
theorem sendWhole_error {s s' : Session} {channelId : String} {payload : List UInt8}
    {options : SendOptions} {message : String}
    (h : s.sendWhole channelId payload options = (.error (.error message), s')) : s' = s := by
  unfold sendWhole at h
  split at h
  · cases h
    rfl
  · split at h
    · rename_i hcreate
      cases h
      cases createPacketWithFragments_error hcreate
    · cases h

theorem allocateFragmentId_ne_zero (s : Session) :
    (s.allocateFragmentId).2.nextFragmentId ≠ 0 := by
  have hne : ∀ n : UInt16, (if n = 0 then (1 : UInt16) else n) ≠ 0 := by
    intro n
    by_cases h : n = 0
    · simp [h]
    · simp [h]
  exact hne _

theorem sendFragmented_ok {s s' : Session} {channelId : String} {payload : List UInt8}
    {options : SendOptions} {maxFragmentBytes : Nat} {packets : List Packet}
    (h : s.sendFragmented channelId payload options maxFragmentBytes = (.ok packets, s')) :
    divCeil payload.length maxFragmentBytes ≤ u16Max ∧
      List.Forall₂ (IsFragment channelId payload options maxFragmentBytes s.nextFragmentId
          (divCeil payload.length maxFragmentBytes))
        (List.range (divCeil payload.length maxFragmentBytes)) packets ∧
      Creates s s' packets ∧ s'.inbound = s.inbound := by
  unfold sendFragmented at h
  dsimp only at h
  split at h
  · cases h
  · rename_i hcount
    split at h
    · cases h
    · obtain ⟨hcreates, hin, hshape⟩ := sendFragments_ok h
      refine ⟨Nat.le_of_not_lt hcount, hshape, ?_, hin⟩
      exact hcreates.of_eq rfl rfl rfl (fun _ => allocateFragmentId_ne_zero s)
        (fun _ _ hp => hp)

theorem sendFragmented_error {s s' : Session} {channelId : String} {payload : List UInt8}
    {options : SendOptions} {maxFragmentBytes : Nat} {message : String}
    (h : s.sendFragmented channelId payload options maxFragmentBytes
      = (.error (.error message), s')) : s' = s := by
  unfold sendFragmented at h
  dsimp only at h
  split at h
  · cases h
    rfl
  · split at h
    · cases h
      rfl
    · cases sendFragments_error h

theorem pending_purge {s : Session} {nowMs : Nat} {k : UInt32} {p : Packet}
    (h : (s.purgeExpiredReliable nowMs).Pending k p) : s.Pending k p := by
  obtain ⟨v, hv, hp⟩ := h
  unfold purgeExpiredReliable at hv
  rw [Std.ExtTreeMap.getElem?_filter', Option.filter_eq_some_iff] at hv
  exact ⟨v, hv.1, hp⟩

/-- What a successful `send_many` puts on the wire. -/
inductive Sent (s : Session) (channelId : String) (payload : List UInt8) (options : SendOptions)
    (maxFragmentBytes : Option Nat) (packets : List Packet) : Prop
  | whole (p : Packet) (hpackets : packets = [p])
      (hwhole : IsWhole channelId payload options p)
  | fragments (limit : Nat) (hlimit : maxFragmentBytes = some limit) (hpos : 0 < limit)
      (hlong : limit < payload.length) (hcount : divCeil payload.length limit ≤ u16Max)
      (hshape : List.Forall₂ (IsFragment channelId payload options limit s.nextFragmentId
        (divCeil payload.length limit)) (List.range (divCeil payload.length limit)) packets)

theorem sendMany_ok {s s' : Session} {channelId : String} {payload : List UInt8}
    {options : SendOptions} {maxFragmentBytes : Option Nat} {packets : List Packet}
    (h : s.sendMany channelId payload options maxFragmentBytes = (.ok packets, s')) :
    Sent s channelId payload options maxFragmentBytes packets ∧ Creates s s' packets ∧
      s'.inbound = s.inbound := by
  have hpurged : ∀ {ps : List Packet} {u : Session},
      Creates (s.purgeExpiredReliable options.nowMs) u ps → Creates s u ps :=
    fun hc => hc.of_eq rfl rfl rfl id (fun _ _ hp => pending_purge hp)
  unfold sendMany at h
  dsimp only at h
  split at h
  · cases h
  · split at h
    · rename_i limit
      split at h
      · cases h
      · rename_i hzero
        split at h
        · rename_i hlong
          obtain ⟨hcount, hshape, hcreates, hin⟩ := sendFragmented_ok h
          exact ⟨.fragments limit rfl (Nat.pos_of_ne_zero hzero) hlong hcount hshape,
            hpurged hcreates, hin⟩
        · obtain ⟨p, rfl, hwhole, hcreates, hin⟩ := sendWhole_ok h
          exact ⟨.whole p rfl hwhole, hpurged hcreates, hin⟩
    · obtain ⟨p, rfl, hwhole, hcreates, hin⟩ := sendWhole_ok h
      exact ⟨.whole p rfl hwhole, hpurged hcreates, hin⟩

/-- A refused `send_many` has at most purged what had expired. -/
theorem sendMany_error {s s' : Session} {channelId : String} {payload : List UInt8}
    {options : SendOptions} {maxFragmentBytes : Option Nat} {message : String}
    (h : s.sendMany channelId payload options maxFragmentBytes = (.error (.error message), s')) :
    s' = s ∨ s' = s.purgeExpiredReliable options.nowMs := by
  unfold sendMany at h
  dsimp only at h
  split at h
  · cases h
    exact Or.inl rfl
  · split at h
    · split at h
      · cases h
        exact Or.inr rfl
      · split at h
        · exact Or.inr (sendFragmented_error h)
        · exact Or.inr (sendWhole_error h)
    · exact Or.inr (sendWhole_error h)

theorem send_ok {s s' : Session} {channelId : String} {payload : List UInt8}
    {options : SendOptions} {p : Packet} (h : s.send channelId payload options = (.ok p, s')) :
    s.sendMany channelId payload options none = (.ok [p], s') := by
  unfold send at h
  split at h
  · cases h
  · cases h
  · rename_i q rest s₁ hmany
    cases h
    obtain ⟨hsent, -, -⟩ := sendMany_ok hmany
    cases hsent with
    | whole q hpackets _ =>
        cases hpackets
        exact hmany
    | fragments _ hlimit => cases hlimit

theorem send_error {s s' : Session} {channelId : String} {payload : List UInt8}
    {options : SendOptions} {message : String}
    (h : s.send channelId payload options = (.error (.error message), s')) :
    s' = s ∨ s' = s.purgeExpiredReliable options.nowMs := by
  unfold send at h
  split at h
  · rename_i hmany
    cases h
    exact sendMany_error hmany
  · rename_i hmany
    obtain ⟨hsent, -, -⟩ := sendMany_ok hmany
    cases hsent with
    | whole q hpackets _ => cases hpackets
    | fragments _ hlimit => cases hlimit
  · cases h

/-! ### The handshake -/

/-- A received packet whose connection id is the session's own. -/
theorem requireConnection_ok {s : Session} {packet : Packet} :
    s.requireConnection packet = .ok () ↔ packet.connectionId = s.connectionId := by
  unfold requireConnection
  split
  · rename_i h
    exact ⟨fun hc => (by cases hc), fun hc => absurd hc h⟩
  · rename_i h
    exact ⟨fun _ => not_not.mp h, fun _ => rfl⟩

theorem createConnect_ok {s s' : Session} {nowMs : Nat} {payload : List UInt8} {p : Packet}
    (h : s.createConnect nowMs payload = (.ok p, s')) :
    p.packetType = .connect ∧ Creates s s' [p] ∧ s'.inbound = s.inbound := by
  unfold createConnect at h
  split at h
  · cases h
  · split at h
    · cases h
    · rename_i q s₁ hcreate
      cases h
      obtain ⟨hone, hin⟩ := creates_one hcreate
      obtain ⟨-, -, rfl⟩ := createPacketWithFragments_ok hcreate
      exact ⟨rfl, hone.track _ (List.mem_singleton_self _), hin⟩

theorem createConnect_error {s s' : Session} {nowMs : Nat} {payload : List UInt8}
    {message : String} (h : s.createConnect nowMs payload = (.error (.error message), s')) :
    s' = s := by
  unfold createConnect at h
  split at h
  · cases h
    rfl
  · split at h
    · rename_i hcreate
      cases h
      cases createPacketWithFragments_error hcreate
    · cases h

/-- An accepted Connect is remembered, and the Accept acknowledges it. -/
theorem acceptConnect_ok {s s' : Session} {packet response : Packet} {nowMs : Nat}
    {payload : List UInt8} (h : s.acceptConnect packet nowMs payload = (.ok response, s')) :
    packet.packetType = .connect ∧ packet.connectionId = s.connectionId ∧
      response.packetType = .accept ∧ Creates s s' [response] ∧
      s'.inbound = (s.rememberReceived packet.sequence).inbound := by
  unfold acceptConnect at h
  split at h
  · cases h
  · rename_i hconnection
    have hid := requireConnection_ok.mp hconnection
    split at h
    · cases h
    · rename_i htype
      dsimp only at h
      split at h
      · cases h
      · split at h
        · cases h
        · rename_i q s₁ hcreate
          simp only [Prod.mk.injEq, Except.ok.injEq] at h
          obtain ⟨rfl, rfl⟩ := h
          obtain ⟨hone, hin⟩ := creates_one hcreate
          obtain ⟨-, -, rfl⟩ := createPacketWithFragments_ok hcreate
          refine ⟨not_not.mp htype, hid, rfl, ?_, ?_⟩
          · have hcreates := hone.of_eq (s := s) rfl rfl rfl id (fun _ _ hp => hp)
            split
            · exact hcreates
            · exact hcreates.track _ (List.mem_singleton_self _)
          · split <;> exact hin

theorem acceptConnect_error {s s' : Session} {packet : Packet} {nowMs : Nat}
    {payload : List UInt8} {message : String}
    (h : s.acceptConnect packet nowMs payload = (.error (.error message), s')) : s' = s := by
  unfold acceptConnect at h
  split at h
  · cases h
    rfl
  · split at h
    · cases h
      rfl
    · dsimp only at h
      split at h
      · cases h
        rfl
      · split at h
        · rename_i hcreate
          cases h
          cases createPacketWithFragments_error hcreate
        · cases h

/-! ### Delivery touches the delivery state only

Reassembly, the ordered buffers and the sequenced filter decide which frames come
out.  They write the maps they keep for that and nothing else of the session.
-/

/-- Everything of a session but its delivery state. -/
structure Core where
  outbound : Outbound
  connected : Bool
  lastReceivedAtMs : Option Nat
  highestReceivedSequence : Option UInt32
  receivedSequences : Finset UInt32

/-- The session without its delivery state. -/
def core (s : Session) : Core where
  outbound := s.outbound
  connected := s.connected
  lastReceivedAtMs := s.lastReceivedAtMs
  highestReceivedSequence := s.highestReceivedSequence
  receivedSequences := s.receivedSequences

theorem core_reassemble (s : Session) (packet : Packet) :
    (s.reassemble packet).2.core = s.core := by
  unfold reassemble
  dsimp only
  split
  · rfl
  · split
    · rfl
    · split
      · rfl
      · split
        · rfl
        · split
          · rfl
          · split <;> rfl

theorem core_drainOrderedLoop (channelId : String) :
    ∀ (fuel : Nat) (s : Session), (drainOrderedLoop channelId fuel s).2.core = s.core := by
  intro fuel
  induction fuel with
  | zero => intro s; rfl
  | succ fuel ih =>
      intro s
      unfold drainOrderedLoop
      split
      · split
        · exact ih _
        · rfl
      · rfl

theorem core_deliverOrdered (s : Session) (frame : DeliveredFrame) (next expected : UInt32) :
    (s.deliverOrdered frame next expected).2.core = s.core := by
  unfold deliverOrdered
  dsimp only
  split
  · split
    · rfl
    · split
      · rfl
      · exact core_drainOrderedLoop _ _ _
  · split
    · rfl
    · split
      · rfl
      · exact core_drainOrderedLoop _ _ _

theorem core_admitSequenced {s s' : Session} {sequenced ordered : Bool}
    {frame : DeliveredFrame} (h : s.admitSequenced sequenced ordered frame = some s') :
    s'.core = s.core := by
  unfold admitSequenced at h
  dsimp only at h
  split at h
  · split at h
    · cases h
    · cases h
      rfl
  · cases h
    rfl

/-- A Data packet is remembered, and the rest is delivery. -/
theorem core_receiveData (s : Session) (packet : Packet) (expected : UInt32) :
    (s.receiveData packet expected).2.core = (s.rememberReceived packet.sequence).core := by
  have hreassemble := core_reassemble (s.rememberReceived packet.sequence) packet
  unfold receiveData
  dsimp only
  split
  · rfl
  · split
    · rename_i heq
      rw [heq] at hreassemble
      exact hreassemble
    · rename_i heq
      rw [heq] at hreassemble
      exact hreassemble
    · rename_i heq
      rw [heq] at hreassemble
      split
      · exact hreassemble
      · rename_i hpass
        have hadmitted := core_admitSequenced hpass
        split
        · rw [core_deliverOrdered, hadmitted]
          exact hreassemble
        · rw [hadmitted]
          exact hreassemble

/-! ### Receiving -/

/-- The state in which `receive` looks at the type of its packet. -/
def receiveBase (s : Session) (packet : Packet) (nowMs : Nat) : Session :=
  { s.applyAcknowledgements packet with lastReceivedAtMs := some nowMs }

theorem pending_receiveBase {s : Session} {packet : Packet} {nowMs : Nat} {k : UInt32}
    {p : Packet} (h : (s.receiveBase packet nowMs).Pending k p) :
    s.Pending k p ∧ ¬ packet.Covers k := by
  obtain ⟨v, hv, hp⟩ := h
  have hboth := (s.applyAcknowledgements_pending packet k v).mp hv
  exact ⟨⟨v, hboth.1, hp⟩, hboth.2⟩

/-- What is created after the prologue is created by the call. -/
theorem Creates.from_base {s t u : Session} {packet : Packet} {ps : List Packet}
    (h : Creates t u ps) (nowMs : Nat) (hout : t.outbound = (s.receiveBase packet nowMs).outbound) :
    Creates s u ps := by
  have hpending : t.pendingReliable = (s.receiveBase packet nowMs).pendingReliable :=
    congrArg Outbound.pendingReliable hout
  refine h.of_eq (congrArg Outbound.connectionId hout)
    (congrArg Outbound.maxPendingReliablePackets hout) (congrArg Outbound.nextSequence hout)
    (fun hs => ?_) (fun k p hp => ?_)
  · rw [show t.nextFragmentId = s.nextFragmentId from congrArg Outbound.nextFragmentId hout]
    exact hs
  · unfold Pending at hp
    rw [hpending] at hp
    exact (pending_receiveBase hp).1

/-- The prologue leaves the receiving half alone. -/
theorem inbound_receiveBase (s : Session) (packet : Packet) (nowMs : Nat) :
    (s.receiveBase packet nowMs).inbound = s.inbound := rfl

/-- Remembering a packet is about the receiving half only. -/
theorem inbound_rememberReceived {s t : Session} (h : s.inbound = t.inbound) (sequence : UInt32) :
    (s.rememberReceived sequence).inbound = (t.rememberReceived sequence).inbound := by
  have hhighest : s.highestReceivedSequence = t.highestReceivedSequence :=
    congrArg Inbound.highestReceivedSequence h
  have hreceived : s.receivedSequences = t.receivedSequences :=
    congrArg Inbound.receivedSequences h
  have hnext : s.orderedNextSequenceByChannel = t.orderedNextSequenceByChannel :=
    congrArg Inbound.orderedNextSequenceByChannel h
  have hordered : s.orderedBuffers = t.orderedBuffers := congrArg Inbound.orderedBuffers h
  have hfragments : s.fragmentBuffers = t.fragmentBuffers := congrArg Inbound.fragmentBuffers h
  have hsequenced : s.highestDeliveredSequencedByChannel = t.highestDeliveredSequencedByChannel :=
    congrArg Inbound.highestDeliveredSequencedByChannel h
  unfold rememberReceived inbound
  rw [hhighest, hreceived, hnext, hordered, hfragments, hsequenced]

/-- The state once a packet has been remembered. -/
def remembered (s : Session) (packet : Packet) (nowMs : Nat) : Session :=
  (s.receiveBase packet nowMs).rememberReceived packet.sequence

theorem outbound_remembered (s : Session) (packet : Packet) (nowMs : Nat) :
    (s.remembered packet nowMs).outbound = (s.receiveBase packet nowMs).outbound := rfl

theorem inbound_remembered (s : Session) (packet : Packet) (nowMs : Nat) :
    (s.remembered packet nowMs).inbound = (s.rememberReceived packet.sequence).inbound :=
  inbound_rememberReceived (inbound_receiveBase s packet nowMs) packet.sequence

/-- `expected_sequence_if_uninitialized`. -/
def expectedSequence (s : Session) (packet : Packet) : UInt32 :=
  (s.highestReceivedSequence.map fun sequence => sequence + 1).getD packet.sequence

theorem receive_foreign {s : Session} {packet : Packet} (nowMs : Nat)
    (h : packet.connectionId ≠ s.connectionId) :
    ∃ message, s.receive packet nowMs = (.error (.error message), s) := by
  unfold receive
  split
  · exact ⟨_, rfl⟩
  · rename_i hconnection
    exact absurd (requireConnection_ok.mp hconnection) h

/-- What `receive` does after the prologue, by the type of the packet. -/
def receiveTyped (s : Session) (packet : Packet) (nowMs : Nat) :
    Except Fault ReceiveResult × Session :=
  match packet.packetType with
  | .accept => (.ok {}, { s.remembered packet nowMs with connected := true })
  | .ping =>
    match (s.remembered packet nowMs).createPacket .pong "control" packet.payload
        false false false with
    | (.error fault, s) => (.error fault, s)
    | (.ok reply, s) => (.ok { reply := some reply }, s)
  | .ack => (.ok {}, s.remembered packet nowMs)
  | .pong => (.ok { pong := true, pongPayload := packet.payload }, s.remembered packet nowMs)
  | .disconnect =>
    (.ok { disconnected := true, disconnectReason := packet.payload },
      { s.remembered packet nowMs with connected := false })
  | .connect => (.ok {}, s.receiveBase packet nowMs)
  | .data => (s.receiveBase packet nowMs).receiveData packet (s.expectedSequence packet)

theorem receive_eq {s : Session} {packet : Packet} (nowMs : Nat)
    (hid : packet.connectionId = s.connectionId) :
    s.receive packet nowMs = s.receiveTyped packet nowMs := by
  unfold receive
  rw [requireConnection_ok.mpr hid]
  rfl

theorem receive_data {s : Session} {packet : Packet} (nowMs : Nat)
    (hid : packet.connectionId = s.connectionId) (htype : packet.packetType = .data) :
    s.receive packet nowMs
      = (s.receiveBase packet nowMs).receiveData packet (s.expectedSequence packet) := by
  rw [receive_eq nowMs hid, receiveTyped, htype]

/-- A control packet delivers nothing, and is remembered unless it is a Connect. -/
theorem receive_control {s s' : Session} {packet : Packet} {nowMs : Nat}
    {result : ReceiveResult} (hid : packet.connectionId = s.connectionId)
    (htype : packet.packetType ≠ .data) (h : s.receive packet nowMs = (.ok result, s')) :
    result.delivered = [] ∧ Creates s s' result.reply.toList ∧
      s'.inbound = (if packet.packetType = .connect then s
        else s.rememberReceived packet.sequence).inbound := by
  rw [receive_eq nowMs hid, receiveTyped] at h
  have hin := inbound_remembered s packet nowMs
  have hout := outbound_remembered s packet nowMs
  generalize s.remembered packet nowMs = t at h hin hout
  split at h
  case h_1 ht | h_3 ht | h_4 ht | h_5 ht =>
    cases h
    rw [if_neg (by rw [ht]; decide)]
    exact ⟨rfl, (Creates.refl _).from_base nowMs hout, hin⟩
  case h_2 ht =>
    -- the only one that is answered
    split at h
    · cases h
    · rename_i reply s₁ hcreate
      cases h
      obtain ⟨hone, hin₁⟩ := creates_one hcreate
      rw [if_neg (by rw [ht]; decide)]
      exact ⟨rfl, hone.from_base nowMs hout, hin₁.trans hin⟩
  case h_6 ht =>
    cases h
    rw [if_pos ht]
    exact ⟨rfl, (Creates.refl _).from_base nowMs rfl, inbound_receiveBase s packet nowMs⟩
  case h_7 ht => exact absurd ht htype

/-- Only a Data packet can be refused once its connection id is right. -/
theorem receive_control_error {s s' : Session} {packet : Packet} {nowMs : Nat}
    {message : String} (hid : packet.connectionId = s.connectionId)
    (htype : packet.packetType ≠ .data)
    (h : s.receive packet nowMs = (.error (.error message), s')) : False := by
  rw [receive_eq nowMs hid, receiveTyped] at h
  split at h
  case h_2 =>
    split at h
    · rename_i hcreate
      cases h
      cases createPacketWithFragments_error hcreate
    · cases h
  case h_7 ht => exact htype ht
  all_goals cases h

/-- Receiving writes nothing of the sending half after the prologue but the counter, where it
answers a Ping. -/
theorem receive_outbound {s : Session} {packet : Packet} {nowMs : Nat}
    (hid : packet.connectionId = s.connectionId) :
    { (s.receive packet nowMs).2.outbound with nextSequence := s.nextSequence } =
      (s.receiveBase packet nowMs).outbound := by
  rw [receive_eq nowMs hid, receiveTyped]
  split
  case h_2 =>
    split
    · rename_i hcreate
      unfold createPacket createPacketWithFragments at hcreate
      split at hcreate
      · cases hcreate
        rfl
      · cases hcreate
    · rename_i hcreate
      obtain ⟨-, rfl, -⟩ := createPacketWithFragments_ok hcreate
      rfl
  case h_7 =>
    have hcore := core_receiveData (s.receiveBase packet nowMs) packet (s.expectedSequence packet)
    rw [show (receiveData _ packet _).2.outbound = _ from congrArg Core.outbound hcore]
    rfl
  all_goals rfl

/-- Receiving removes exactly the acknowledged packets from the pending ones. -/
theorem receive_pendingReliable {s : Session} {packet : Packet} {nowMs : Nat}
    (hid : packet.connectionId = s.connectionId) :
    (s.receive packet nowMs).2.pendingReliable
      = (s.applyAcknowledgements packet).pendingReliable :=
  congrArg Outbound.pendingReliable (receive_outbound hid)

/-! ### Resends -/

theorem pending_dueResends {s : Session} {nowMs : Nat} {k : UInt32} {p : Packet}
    (h : (s.dueResends nowMs).2.Pending k p) : s.Pending k p := by
  obtain ⟨v, hv, hp⟩ := h
  simp only [dueResends] at hv
  rw [Std.ExtTreeMap.getElem?_map, Option.map_eq_some_iff] at hv
  obtain ⟨w, hw, rfl⟩ := hv
  have hpacket : w.packet = p := by
    rw [← hp]
    split <;> rfl
  have hpurged : (s.purgeExpiredReliable nowMs).Pending k p := ⟨w, hw, hpacket⟩
  exact pending_purge hpurged

/-! ### Every call -/

theorem window_of_core {s t : Session} (h : s.core = t.core) : s.window = t.window :=
  congrArg₂ Prod.mk (congrArg Core.highestReceivedSequence h)
    (congrArg Core.receivedSequences h)

/-- What a call did to the received set: nothing, one packet taken in, or a reset. -/
inductive Receives (s : Session) (c : Call) (s' : Session) : Prop
  | same (h : s'.window = s.window)
  | remember (packet : Packet) (hinput : c.input? = some packet)
      (hid : packet.connectionId = s.connectionId)
      (h : s'.window = (s.rememberReceived packet.sequence).window)
  | reset (hcall : c = .resetPeerState) (h : s'.window = (none, ∅))

/-- The frames a result of `receive` delivers. -/
def deliveredBy : Except Fault ReceiveResult → List DeliveredFrame
  | .ok result => result.delivered
  | .error _ => []

/-- What a call did to the receiving half, and which frames came out. -/
inductive TakesIn (s : Session) (c : Call) (out : Output) (s' : Session) : Prop
  | idle (h : s'.inbound = s.inbound) (hdelivered : out.delivered = [])
  | control (packet : Packet) (hinput : c.input? = some packet)
      (hid : packet.connectionId = s.connectionId) (htype : packet.packetType ≠ .data)
      (h : s'.inbound = (s.rememberReceived packet.sequence).inbound)
      (hdelivered : out.delivered = [])
  | data (packet : Packet) (nowMs : Nat) (hcall : c = .receive packet nowMs)
      (hid : packet.connectionId = s.connectionId) (htype : packet.packetType = .data)
      (result : Except Fault ReceiveResult)
      (h : (s.receiveBase packet nowMs).receiveData packet (s.expectedSequence packet)
        = (result, s'))
      (hdelivered : out.delivered = deliveredBy result)
  | reset (hcall : c = .resetPeerState) (h : s'.inbound = (Session.new {}).inbound)
      (hdelivered : out.delivered = [])

theorem TakesIn.receives {s s' : Session} {c : Call} {out : Output} (h : TakesIn s c out s') :
    Receives s c s' := by
  cases h with
  | idle h _ => exact .same (window_of_inbound h)
  | control packet hinput hid _ h _ => exact .remember packet hinput hid (window_of_inbound h)
  | data packet nowMs hcall hid _ result h _ =>
      have hcore := core_receiveData (s.receiveBase packet nowMs) packet
        (s.expectedSequence packet)
      rw [h] at hcore
      rw [hcall]
      exact .remember packet rfl hid ((window_of_core hcore).trans rfl)
  | reset hcall h _ => exact .reset hcall ((window_of_inbound h).trans rfl)

theorem Receives.receivedOK {s s' : Session} {c : Call} (h : Receives s c s')
    (ok : ReceivedOK s) : ReceivedOK s' := by
  cases h with
  | same h => exact receivedOK_of_window h.symm ok
  | remember packet _ _ h => exact receivedOK_of_window h.symm (ok.remember packet.sequence)
  | reset _ h => exact receivedOK_of_window (s := Session.new {}) h.symm (receivedOK_new {})

theorem toStep_eq_some {α : Type} {output : α → Output} {r : Except Fault α × Session}
    {out : Output} {s' : Session} (h : toStep output r = some (out, s')) :
    (∃ a, r = (.ok a, s') ∧ out = output a) ∨
      (∃ message, r = (.error (.error message), s') ∧ out = { failure := some message }) := by
  rcases r with ⟨a | a, t⟩
  · cases a with
    | error message =>
        simp only [toStep, Option.some.injEq, Prod.mk.injEq] at h
        obtain ⟨rfl, rfl⟩ := h
        exact Or.inr ⟨message, rfl, rfl⟩
    | panic message => cases h
  · simp only [toStep, Option.some.injEq, Prod.mk.injEq] at h
    obtain ⟨rfl, rfl⟩ := h
    exact Or.inl ⟨a, rfl, rfl⟩

theorem purge_creates (s : Session) (nowMs : Nat) :
    Creates s (s.purgeExpiredReliable nowMs) [] :=
  Creates.none rfl rfl rfl rfl (fun _ _ hp => pending_purge hp)

/-- A call of `receive` with a Data packet of the session's own connection. -/
theorem call_data {s s' : Session} {packet : Packet} {nowMs : Nat} {out : Output}
    (h : s.call (.receive packet nowMs) = some (out, s'))
    (hid : packet.connectionId = s.connectionId) (htype : packet.packetType = .data) :
    out.created = [] ∧ ∃ result,
      (s.receiveBase packet nowMs).receiveData packet (s.expectedSequence packet) = (result, s') ∧
      out.delivered = deliveredBy result ∧ (out.failure = none ↔ ∃ r, result = .ok r) := by
  have hcall : toStep (fun result : ReceiveResult =>
      { created := result.reply.toList, delivered := result.delivered })
      (s.receive packet nowMs) = some (out, s') := h
  rw [receive_data nowMs hid htype] at hcall
  have hreply : ∀ result t, (s.receiveBase packet nowMs).receiveData packet
      (s.expectedSequence packet) = (.ok result, t) → result.reply = none := by
    intro result t hr
    unfold receiveData at hr
    dsimp only at hr
    repeat' split at hr
    all_goals first | (cases hr; rfl) | cases hr
  rcases toStep_eq_some hcall with ⟨result, hr, rfl⟩ | ⟨message, hr, rfl⟩
  · refine ⟨?_, _, hr, rfl, ?_⟩
    · rw [hreply result s' hr]
      rfl
    · exact ⟨fun _ => ⟨result, rfl⟩, fun _ => rfl⟩
  · refine ⟨rfl, _, hr, rfl, ?_⟩
    constructor
    · intro hnone
      cases hnone
    · rintro ⟨r, hr⟩
      cases hr

/-- A received packet, whatever came of it. -/
theorem receive_effect {s s' : Session} {packet : Packet} {nowMs : Nat} {out : Output}
    (h : s.call (.receive packet nowMs) = some (out, s')) :
    Creates s s' out.created ∧ TakesIn s (.receive packet nowMs) out s' := by
  have hcall : toStep (fun result : ReceiveResult =>
      { created := result.reply.toList, delivered := result.delivered })
      (s.receive packet nowMs) = some (out, s') := h
  by_cases hid : packet.connectionId = s.connectionId
  · by_cases htype : packet.packetType = .data
    · obtain ⟨hcreated, result, hr, hdelivered, -⟩ := call_data h hid htype
      have hcore := core_receiveData (s.receiveBase packet nowMs) packet
        (s.expectedSequence packet)
      rw [hr] at hcore
      have hout : s'.outbound = (s.receiveBase packet nowMs).outbound :=
        congrArg Core.outbound hcore
      rw [hcreated]
      exact ⟨(Creates.of_outbound rfl).from_base nowMs hout,
        .data packet nowMs rfl hid htype result hr hdelivered⟩
    · rcases toStep_eq_some hcall with ⟨result, hr, rfl⟩ | ⟨message, hr, rfl⟩
      · obtain ⟨hdelivered, hcreates, hin⟩ := receive_control hid htype hr
        refine ⟨hcreates, ?_⟩
        by_cases hconnect : packet.packetType = .connect
        · rw [if_pos hconnect] at hin
          exact .idle hin hdelivered
        · rw [if_neg hconnect] at hin
          exact .control packet rfl hid htype hin hdelivered
      · exact (receive_control_error hid htype hr).elim
  · obtain ⟨message, hr⟩ := receive_foreign nowMs hid
    rw [hr] at hcall
    rcases toStep_eq_some hcall with ⟨result, hr', rfl⟩ | ⟨_, hr', rfl⟩
    · cases hr'
    · cases hr'
      exact ⟨Creates.refl s, .idle rfl rfl⟩

/-- A control packet created from a session that is `s` but for its connected flag. -/
theorem control_effect {s t s' : Session} {c : Call} {packetType : PacketType}
    {payload : List UInt8} {out : Output}
    (h : toStep (fun packet => { created := [packet] })
      (t.createPacket packetType "control" payload false false false) = some (out, s'))
    (hout : t.outbound = s.outbound) (hinbound : t.inbound = s.inbound) :
    Creates s s' out.created ∧ TakesIn s c out s' := by
  rcases toStep_eq_some h with ⟨p, hr, rfl⟩ | ⟨message, hr, rfl⟩
  · obtain ⟨hone, hin⟩ := creates_one hr
    have hcreates : Creates s s' ([] ++ [p]) := (Creates.of_outbound hout).trans hone hin
    exact ⟨hcreates, .idle (hin.trans hinbound) rfl⟩
  · cases createPacketWithFragments_error hr

/-- **What any call does to the two halves of a session.** -/
theorem call_effect {s s' : Session} {c : Call} {out : Output} (h : s.call c = some (out, s')) :
    Creates s s' out.created ∧ TakesIn s c out s' := by
  cases c with
  | createConnect nowMs payload =>
      rcases toStep_eq_some h with ⟨p, hr, rfl⟩ | ⟨message, hr, rfl⟩
      · obtain ⟨-, hcreates, hin⟩ := createConnect_ok hr
        exact ⟨hcreates, .idle hin rfl⟩
      · rw [createConnect_error hr]
        exact ⟨Creates.refl s, .idle rfl rfl⟩
  | acceptConnect packet nowMs payload =>
      rcases toStep_eq_some h with ⟨p, hr, rfl⟩ | ⟨message, hr, rfl⟩
      · obtain ⟨htype, hid, -, hcreates, hin⟩ := acceptConnect_ok hr
        exact ⟨hcreates, .control packet rfl hid (by rw [htype]; decide) hin rfl⟩
      · rw [acceptConnect_error hr]
        exact ⟨Creates.refl s, .idle rfl rfl⟩
  | resetPeerState =>
      cases h
      refine ⟨Creates.none rfl rfl rfl rfl ?_, .reset rfl rfl rfl⟩
      rintro k p ⟨v, hv, -⟩
      simp [Session.resetPeerState] at hv
  | assumeConnected nowMs =>
      cases h
      exact ⟨Creates.of_outbound rfl, .idle rfl rfl⟩
  | send channelId payload options =>
      rcases toStep_eq_some h with ⟨p, hr, rfl⟩ | ⟨message, hr, rfl⟩
      · obtain ⟨-, hcreates, hin⟩ := sendMany_ok (send_ok hr)
        exact ⟨hcreates, .idle hin rfl⟩
      · rcases send_error hr with rfl | rfl
        · exact ⟨Creates.refl _, .idle rfl rfl⟩
        · exact ⟨purge_creates s _, .idle rfl rfl⟩
  | sendMany channelId payload options maxFragmentBytes =>
      rcases toStep_eq_some h with ⟨p, hr, rfl⟩ | ⟨message, hr, rfl⟩
      · obtain ⟨-, hcreates, hin⟩ := sendMany_ok hr
        exact ⟨hcreates, .idle hin rfl⟩
      · rcases sendMany_error hr with rfl | rfl
        · exact ⟨Creates.refl _, .idle rfl rfl⟩
        · exact ⟨purge_creates s _, .idle rfl rfl⟩
  | receive packet nowMs => exact receive_effect h
  | createAck => exact control_effect h rfl rfl
  | createPing payload => exact control_effect h rfl rfl
  | createDisconnect reason => exact control_effect h rfl rfl
  | checkTimeout nowMs timeoutMs =>
      cases h
      have hframe : (s.checkTimeout nowMs timeoutMs).2.outbound = s.outbound ∧
          (s.checkTimeout nowMs timeoutMs).2.inbound = s.inbound := by
        unfold checkTimeout
        split
        · exact ⟨rfl, rfl⟩
        · split
          · exact ⟨rfl, rfl⟩
          · split <;> exact ⟨rfl, rfl⟩
      exact ⟨Creates.of_outbound hframe.1, .idle hframe.2 rfl⟩
  | dueResends nowMs =>
      cases h
      exact ⟨Creates.none rfl rfl rfl rfl (fun _ _ hp => pending_dueResends hp), .idle rfl rfl⟩

end Session

end CultNet.Rudp
