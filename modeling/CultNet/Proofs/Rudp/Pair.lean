/-
What two sessions may conclude from each other's acknowledgements.

The network hands any packet to the other end at any time and any number of
times, so an acknowledgement can be as old as the packet it travels in.  The
invariant of a run therefore speaks of every packet ever created: whatever it
acknowledges its creator had processed, sequence 0 apart, which is what a
session acknowledges before it has received anything.

  * Acknowledgements are sound for a session that numbers its packets from 1 or
    higher, and unsound for one that starts at 0.
  * Acknowledgements are complete up to the window of the mask: a packet more
    than 32 below the highest one received is no longer acknowledged, however
    often the two exchange packets.
-/
import CultNet.Proofs.Rudp.Calls
import CultNet.Rudp.Pair

namespace CultNet.Rudp

namespace Pair

/-! ### One step -/

/-- What a call of `side` does to the pair. -/
structure Moved (pair : Pair) (side : Side) (c : Call) (out : Output) (pair' : Pair) : Prop where
  genuine : ∀ p, c.input? = some p → p ∈ pair.created side.other
  call : (pair.session side).call c = some (out, pair'.session side)
  created : pair'.created side = pair.created side ++ out.created
  processed : pair'.processed side = pair.processed side ++ c.input?.toList
  session_other : pair'.session side.other = pair.session side.other
  created_other : pair'.created side.other = pair.created side.other
  processed_other : pair'.processed side.other = pair.processed side.other

theorem moved_of_step {pair pair' : Pair} {side : Side} {c : Call} {out : Output}
    (h : pair.step (side, c) = some (out, pair')) : Moved pair side c out pair' := by
  unfold step at h
  dsimp only at h
  split at h
  · rename_i hinput
    split at h
    · cases h
    · rename_i out' s hcall
      simp only [Option.some.injEq, Prod.mk.injEq] at h
      obtain ⟨rfl, rfl⟩ := h
      refine ⟨?_, ?_, ?_, ?_, ?_, ?_, ?_⟩
      · intro p hp
        simpa [hp] using hinput
      · show _ = some (out', Function.update pair.session side s side)
        rw [Function.update_self]
        exact hcall
      · exact Function.update_self _ _ _
      · exact Function.update_self _ _ _
      · exact Function.update_of_ne (Side.other_ne side) _ _
      · exact Function.update_of_ne (Side.other_ne side) _ _
      · exact Function.update_of_ne (Side.other_ne side) _ _
  · cases h

/-- A call goes through when it returns and its packet comes from the peer. -/
theorem step_of_call {pair : Pair} {side : Side} {c : Call} {out : Output} {s : Session}
    (hcall : (pair.session side).call c = some (out, s))
    (hinput : ∀ p, c.input? = some p → p ∈ pair.created side.other) :
    ∃ pair', pair.step (side, c) = some (out, pair') ∧ pair'.session side = s := by
  have hall : (c.input?.all fun packet => packet ∈ pair.created side.other) = true := by
    cases hc : c.input? with
    | none => rfl
    | some p => simpa using hinput p hc
  unfold step
  dsimp only
  rw [if_pos hall, hcall]
  exact ⟨_, rfl, Function.update_self _ _ _⟩

/-! ### The invariant of a run -/

/-- What holds of one side of a pair throughout a run from fresh sessions. -/
structure SideOK (options : Side → SessionOptions) (pair : Pair) (side : Side) : Prop where
  connectionId : (pair.session side).connectionId = (options side).connectionId
  /-- The counter has passed exactly the created packets. -/
  nextSequence : (pair.session side).nextSequence.toNat
    = (options side).initialSequence.toNat + (pair.created side).length
  sequences : (pair.created side).map (fun p => p.sequence.toNat)
    = List.range' (options side).initialSequence.toNat (pair.created side).length
  ids : ∀ p ∈ pair.created side, p.connectionId = (options side).connectionId
  pending : ∀ k p, (pair.session side).Pending k p → p ∈ pair.created side ∧ p.sequence = k
  receivedOK : Session.ReceivedOK (pair.session side)
  received : ∀ q ∈ (pair.session side).receivedSequences,
    ∃ p ∈ pair.processed side, p.sequence = q
  genuine : ∀ p ∈ pair.processed side, p ∈ pair.created side.other
  /-- An acknowledgement in flight speaks of a packet already processed. -/
  acks : ∀ p ∈ pair.created side, ∀ q, p.Covers q →
    q = 0 ∨ ∃ r ∈ pair.processed side, r.sequence = q

variable {options : Side → SessionOptions}

theorem sideOK_new (options : Side → SessionOptions) (side : Side) :
    SideOK options (Pair.new options) side where
  connectionId := rfl
  nextSequence := rfl
  sequences := rfl
  ids := by intro p hp; cases hp
  pending := by
    rintro k p ⟨v, hv, -⟩
    simp [Pair.new, Session.new] at hv
  receivedOK := Session.receivedOK_new (options side)
  received := by
    intro q hq
    simp [Pair.new, Session.new] at hq
  genuine := by intro p hp; cases hp
  acks := by intro p hp; cases hp

/-- The received set after a call names packets that were processed, this one included. -/
theorem received_of_receives {s s' : Session} {c : Call} {processed : List Packet}
    (h : s.Receives c s')
    (hreceived : ∀ q ∈ s.receivedSequences, ∃ p ∈ processed, p.sequence = q) :
    ∀ q ∈ s'.receivedSequences, ∃ p ∈ processed ++ c.input?.toList, p.sequence = q := by
  intro q hq
  cases h with
  | same h =>
      rw [show s'.receivedSequences = s.receivedSequences from congrArg Prod.snd h] at hq
      obtain ⟨p, hp, rfl⟩ := hreceived q hq
      exact ⟨p, List.mem_append.mpr (Or.inl hp), rfl⟩
  | remember packet hinput _ h =>
      rw [show s'.receivedSequences = insert packet.sequence s.receivedSequences from
        congrArg Prod.snd h] at hq
      rcases Finset.mem_insert.mp hq with rfl | hq
      · refine ⟨packet, ?_, rfl⟩
        rw [hinput]
        exact List.mem_append.mpr (Or.inr (List.mem_singleton_self packet))
      · obtain ⟨p, hp, rfl⟩ := hreceived q hq
        exact ⟨p, List.mem_append.mpr (Or.inl hp), rfl⟩
  | reset _ h =>
      rw [show s'.receivedSequences = ∅ from congrArg Prod.snd h] at hq
      cases hq

/-- The side that made the call. -/
theorem SideOK.moved {pair pair' : Pair} {side : Side} {c : Call} {out : Output}
    (hinv : SideOK options pair side) (h : Moved pair side c out pair') :
    SideOK options pair' side := by
  obtain ⟨hcreates, htakes⟩ := Session.call_effect h.call
  have hreceives := htakes.receives
  have hreceived := received_of_receives hreceives hinv.received
  have hreceivedOK := hreceives.receivedOK hinv.receivedOK
  refine ⟨?_, ?_, ?_, ?_, ?_, hreceivedOK, ?_, ?_, ?_⟩
  · rw [hcreates.connectionId, hinv.connectionId]
  · rw [hcreates.nextSequence, hinv.nextSequence, h.created, List.length_append, Nat.add_assoc]
  · rw [h.created, List.map_append, hinv.sequences, hcreates.sequences, hinv.nextSequence,
      List.length_append, List.range'_append_1]
  · intro p hp
    rw [h.created] at hp
    rcases List.mem_append.mp hp with hp | hp
    · exact hinv.ids p hp
    · rw [hcreates.ids p hp, hinv.connectionId]
  · intro k p hp
    rw [h.created]
    rcases hcreates.pending k p hp with hp | ⟨hmem, hk⟩
    · obtain ⟨hmem, hk⟩ := hinv.pending k p hp
      exact ⟨List.mem_append.mpr (Or.inl hmem), hk⟩
    · exact ⟨List.mem_append.mpr (Or.inr hmem), hk⟩
  · rw [h.processed]
    exact hreceived
  · intro p hp
    rw [h.processed] at hp
    rw [h.created_other]
    rcases List.mem_append.mp hp with hp | hp
    · exact hinv.genuine p hp
    · exact h.genuine p (Option.mem_toList.mp hp)
  · intro p hp q hcovers
    rw [h.processed]
    rw [h.created] at hp
    rcases List.mem_append.mp hp with hp | hp
    · rcases hinv.acks p hp q hcovers with hq | ⟨r, hr, hq⟩
      · exact Or.inl hq
      · exact Or.inr ⟨r, List.mem_append.mpr (Or.inl hr), hq⟩
    · -- a packet just created acknowledges what its creator has received by now
      have hack := hcreates.acks p hp
      have hcovers' : AckCovers (pair'.session side).ackState.1
          (pair'.session side).ackState.2 q := by
        rw [← hack]
        exact hcovers
      rcases hreceivedOK.covered_received hcovers' with hq | hq
      · exact Or.inl hq
      · exact Or.inr (hreceived q hq)

/-- The side that was not called: the peer has only created more packets. -/
theorem SideOK.other_moved {pair pair' : Pair} {side : Side} {c : Call} {out : Output}
    (hinv : SideOK options pair side.other) (h : Moved pair side c out pair') :
    SideOK options pair' side.other := by
  refine ⟨?_, ?_, ?_, ?_, ?_, ?_, ?_, ?_, ?_⟩
  · rw [h.session_other]
    exact hinv.connectionId
  · rw [h.session_other, h.created_other]
    exact hinv.nextSequence
  · rw [h.created_other]
    exact hinv.sequences
  · rw [h.created_other]
    exact hinv.ids
  · rw [h.session_other, h.created_other]
    exact hinv.pending
  · rw [h.session_other]
    exact hinv.receivedOK
  · rw [h.session_other, h.processed_other]
    exact hinv.received
  · intro p hp
    rw [h.processed_other] at hp
    have hmem := hinv.genuine p hp
    rw [Side.other_other] at hmem ⊢
    rw [h.created]
    exact List.mem_append.mpr (Or.inl hmem)
  · rw [h.created_other, h.processed_other]
    exact hinv.acks

theorem sideOK_step {pair pair' : Pair} {input : Side × Call} {out : Output}
    (hinv : ∀ side, SideOK options pair side) (h : pair.step input = some (out, pair')) :
    ∀ side, SideOK options pair' side := by
  obtain ⟨mover, c⟩ := input
  have hmoved := moved_of_step h
  intro side
  rcases Side.eq_or_eq_other side mover with rfl | rfl
  · exact (hinv _).moved hmoved
  · exact (hinv _).other_moved hmoved

/-- **The invariant holds wherever a run of two fresh sessions gets.** -/
theorem sideOK_run {log : List ((Side × Call) × Output)} {pair : Pair}
    (h : Machine.Run Pair.step (Pair.new options) log pair) (side : Side) :
    SideOK options pair side := by
  have hall : ∀ side, SideOK options pair side :=
    h.invariant (sideOK_new options) (fun _ _ _ _ hinv hstep => sideOK_step hinv hstep)
  exact hall side

/-! ### Acknowledgements are sound -/

/-- Every created packet is numbered from the initial sequence on. -/
theorem SideOK.initial_le {pair : Pair} {side : Side} (hinv : SideOK options pair side)
    {p : Packet} (hp : p ∈ pair.created side) :
    (options side).initialSequence.toNat ≤ p.sequence.toNat := by
  have hmem : p.sequence.toNat ∈ (pair.created side).map (fun p => p.sequence.toNat) :=
    List.mem_map_of_mem hp
  rw [hinv.sequences, List.mem_range'_1] at hmem
  exact hmem.1

/--
In every run of the two sessions, whatever a `receive` of `side` takes out of its
pending packets, the peer has processed a packet of `side` with that sequence.
-/
def AcksSound (options : Side → SessionOptions) (side : Side) : Prop :=
  ∀ (log : List ((Side × Call) × Output)) (pair : Pair),
    Machine.Run Pair.step (Pair.new options) log pair →
    ∀ (packet : Packet) (nowMs : Nat) (out : Output) (pair' : Pair),
      pair.step (side, .receive packet nowMs) = some (out, pair') →
      ∀ k ∈ (pair.session side).pendingReliable, k ∉ (pair'.session side).pendingReliable →
        ∃ p ∈ pair.processed side.other, p ∈ pair.created side ∧ p.sequence = k

/-- What a call of `receive` takes out of the pending packets, its packet covers. -/
theorem covers_of_removed {s s' : Session} {packet : Packet} {nowMs : Nat} {out : Output}
    (h : s.call (.receive packet nowMs) = some (out, s')) {k : UInt32}
    (hbefore : k ∈ s.pendingReliable) (hafter : k ∉ s'.pendingReliable) :
    packet.connectionId = s.connectionId ∧ packet.Covers k := by
  have hs' : (s.receive packet nowMs).2 = s' := by
    rcases Session.toStep_eq_some h with ⟨result, hr, -⟩ | ⟨message, hr, -⟩
    · rw [hr]
    · rw [hr]
  rw [← hs'] at hafter
  by_cases hid : packet.connectionId = s.connectionId
  · rw [Session.receive_pendingReliable hid, Session.mem_applyAcknowledgements] at hafter
    exact ⟨hid, not_not.mp fun hcovers => hafter ⟨hbefore, hcovers⟩⟩
  · obtain ⟨message, hr⟩ := Session.receive_foreign nowMs hid
    rw [hr] at hafter
    exact absurd hbefore hafter

theorem acksSound_of_ne_zero {side : Side} (hinitial : (options side).initialSequence ≠ 0) :
    AcksSound options side := by
  intro log pair hrun packet nowMs out pair' hstep k hbefore hafter
  have hinv := sideOK_run hrun side
  have hmoved := moved_of_step hstep
  obtain ⟨-, hcovers⟩ := covers_of_removed hmoved.call hbefore hafter
  obtain ⟨p, hp⟩ := (Session.mem_pending_iff _ k).mp hbefore
  obtain ⟨hcreated, hk⟩ := hinv.pending k p hp
  have hne : k ≠ 0 := by
    rintro rfl
    have hle := hinv.initial_le hcreated
    rw [hk] at hle
    have hpos : (options side).initialSequence.toNat ≠ 0 := fun hc =>
      hinitial (UInt32.toNat_inj.mp hc)
    exact hpos (Nat.le_zero.mp hle)
  have hpeer := sideOK_run hrun side.other
  rcases hpeer.acks packet (hmoved.genuine packet rfl) k hcovers with hzero | ⟨r, hr, hrk⟩
  · exact absurd hzero hne
  · refine ⟨r, hr, ?_, hrk⟩
    have hgenuine := hpeer.genuine r hr
    rw [Side.other_other] at hgenuine
    exact hgenuine

/-- A fresh session that may hold a pending packet tracks its Connect under the first number. -/
theorem createConnect_fresh {o : SessionOptions} (hinitial : o.initialSequence ≠ u32Max)
    (hcapacity : o.maxPendingReliablePackets ≠ some 0) :
    ∃ p s, (Session.new o).createConnect 0 [] = (.ok p, s) ∧
      o.initialSequence ∈ s.pendingReliable ∧ s.connectionId = o.connectionId := by
  have hensure : (Session.new o).ensureReliableCapacity 1 = .ok () := by
    have hmaximum : (Session.new o).maxPendingReliablePackets = o.maxPendingReliablePackets := rfl
    unfold Session.ensureReliableCapacity
    rw [if_neg (by decide), hmaximum]
    cases hlimit : o.maxPendingReliablePackets with
    | none => rfl
    | some limit =>
        have hpos : limit ≠ 0 := by
          rintro rfl
          exact hcapacity hlimit
        have hsize : (Session.new o).pendingReliable.size = 0 := rfl
        show (if limit < (Session.new o).pendingReliable.size + 1 then _ else _) = _
        rw [hsize, if_neg (by omega)]
  unfold Session.createConnect Session.createPacket Session.createPacketWithFragments
  rw [hensure, if_neg (show (Session.new o).nextSequence ≠ u32Max from hinitial)]
  refine ⟨_, _, rfl, ?_, rfl⟩
  exact Std.ExtTreeMap.mem_insert_self

/-- A fresh session acknowledges sequence 0. -/
theorem createAck_fresh {o : SessionOptions} (hinitial : o.initialSequence ≠ u32Max) :
    ∃ p s, (Session.new o).createAck = (.ok p, s) ∧ p.packetType = .ack ∧
      p.connectionId = o.connectionId ∧ p.ack = 0 := by
  unfold Session.createAck Session.createPacket Session.createPacketWithFragments
  rw [if_neg (show (Session.new o).nextSequence ≠ u32Max from hinitial)]
  exact ⟨_, _, rfl, rfl, rfl, rfl⟩

/-- The Ack of a peer that has received nothing takes packet 0 out of the pending ones. -/
theorem not_acksSound_of_zero {side : Side} (hinitial : (options side).initialSequence = 0)
    (hcapacity : (options side).maxPendingReliablePackets ≠ some 0)
    (hid : (options side.other).connectionId = (options side).connectionId)
    (hpeer : (options side.other).initialSequence ≠ u32Max) : ¬ AcksSound options side := by
  intro hsound
  have hfirst : (options side).initialSequence ≠ u32Max := by
    rw [hinitial]
    decide
  obtain ⟨connect, s₁, hconnect, hpending, hsid⟩ := createConnect_fresh hfirst hcapacity
  obtain ⟨ack, t₁, hack, htype, hackid, hzero⟩ := createAck_fresh hpeer
  rw [hinitial] at hpending
  -- `side` sends a Connect, and its peer an Ack before anything has reached it
  have hcall₁ : ((Pair.new options).session side).call (.createConnect 0 [])
      = some ({ created := [connect] }, s₁) := by
    show toStep _ ((Session.new (options side)).createConnect 0 []) = _
    rw [hconnect]
    rfl
  obtain ⟨pair₁, hstep₁, hsession₁⟩ := step_of_call hcall₁ (fun p hp => by cases hp)
  have hmoved₁ := moved_of_step hstep₁
  have hcall₂ : (pair₁.session side.other).call .createAck
      = some ({ created := [ack] }, t₁) := by
    rw [hmoved₁.session_other]
    show toStep _ (Session.new (options side.other)).createAck = _
    rw [hack]
    rfl
  obtain ⟨pair₂, hstep₂, -⟩ := step_of_call hcall₂ (fun p hp => by cases hp)
  have hmoved₂ := moved_of_step hstep₂
  have hsession₂ : pair₂.session side = s₁ := by
    have hkept := hmoved₂.session_other
    rw [Side.other_other] at hkept
    rw [hkept, hsession₁]
  have hcreated : ack ∈ pair₂.created side.other := by
    rw [hmoved₂.created]
    exact List.mem_append.mpr (Or.inr (List.mem_singleton_self ack))
  have hown : ack.connectionId = s₁.connectionId := by rw [hackid, hsid, hid]
  have hcall₃ : (pair₂.session side).call (.receive ack 0)
      = some ({}, (s₁.receiveBase ack 0).rememberReceived ack.sequence) := by
    rw [hsession₂]
    show toStep _ (s₁.receive ack 0) = _
    unfold Session.receive
    rw [Session.requireConnection_ok.mpr hown]
    dsimp only
    rw [htype]
    rfl
  obtain ⟨pair₃, hstep₃, hsession₃⟩ := step_of_call hcall₃ (fun p hp => by
    cases hp
    exact hcreated)
  have hrun := (Machine.Run.nil.snoc hstep₁).snoc hstep₂
  have hcovers : ack.Covers 0 := Or.inl hzero.symm
  have hbefore : (0 : UInt32) ∈ (pair₂.session side).pendingReliable := by
    rw [hsession₂]
    exact hpending
  have hafter : (0 : UInt32) ∉ (pair₃.session side).pendingReliable := by
    rw [hsession₃]
    intro hmem
    exact ((Session.mem_applyAcknowledgements s₁ ack 0).mp hmem).2 hcovers
  obtain ⟨p, hp, -⟩ := hsound _ _ hrun ack 0 {} pair₃ hstep₃ 0 hbefore hafter
  rw [hmoved₂.processed] at hp
  have hprocessed : pair₁.processed side.other = [] := hmoved₁.processed_other
  rw [hprocessed] at hp
  cases hp

/--
**Acknowledgements are sound for a session that numbers no packet 0**, and only for
those: with room for one pending packet and a peer of the same connection that can
create a packet, a session that starts at 0 has an unsound run.
-/
theorem acksSound_of_initialSequence (options : Side → SessionOptions) (side : Side) :
    ((options side).initialSequence ≠ 0 → AcksSound options side) ∧
      ((options side).initialSequence = 0 →
        (options side).maxPendingReliablePackets ≠ some 0 →
        (options side.other).connectionId = (options side).connectionId →
        (options side.other).initialSequence ≠ u32Max → ¬ AcksSound options side) :=
  ⟨acksSound_of_ne_zero, not_acksSound_of_zero⟩

/-- Two default sessions but for their first number: an Ack created before anything was received. -/
theorem not_acksSound_initial_zero :
    ¬ AcksSound (fun _ => { initialSequence := 0 }) Side.left :=
  not_acksSound_of_zero rfl (by decide) rfl (by decide)

/-! ### Acknowledgements are complete within the window -/

/-- What a session has received it still has received after a call, a reset apart. -/
theorem received_mono {s s' : Session} {c : Call} (h : s.Receives c s')
    (hcall : c ≠ .resetPeerState) : s.receivedSequences ⊆ s'.receivedSequences := by
  cases h with
  | same h =>
      rw [show s'.receivedSequences = s.receivedSequences from congrArg Prod.snd h]
  | remember packet _ _ h =>
      rw [show s'.receivedSequences = insert packet.sequence s.receivedSequences from
        congrArg Prod.snd h]
      exact Finset.subset_insert _ _
  | reset hreset _ => exact absurd hreset hcall

/--
**What stays pending when the peer already holds everything pending.**  Whatever packet
the peer creates, receiving it leaves exactly the packets that are more than 32 below
the highest sequence the peer has received.
-/
theorem pending_after_acknowledgement
    (hid : (options .left).connectionId = (options .right).connectionId)
    {log : List ((Side × Call) × Output)} {pair pair' : Pair}
    (hrun : Machine.Run Pair.step (Pair.new options) log pair) {side : Side}
    (hheld : ∀ k ∈ (pair.session side).pendingReliable,
      k ∈ (pair.session side.other).receivedSequences)
    {c : Call} {out : Output} (hstep : pair.step (side.other, c) = some (out, pair'))
    {packet : Packet} (hpacket : packet ∈ out.created) (nowMs : Nat) (k : UInt32) :
    k ∈ ((pair'.session side).receive packet nowMs).2.pendingReliable ↔
      k ∈ (pair.session side).pendingReliable ∧
        ∃ h, (pair'.session side.other).highestReceivedSequence = some h ∧
          k.toNat + 32 < h.toNat := by
  have hmoved := moved_of_step hstep
  obtain ⟨hcreates, htakes⟩ := Session.call_effect hmoved.call
  have hreceives := htakes.receives
  have hsession : pair'.session side = pair.session side := by
    have hkept := hmoved.session_other
    rw [Side.other_other] at hkept
    exact hkept
  have hids : (options side.other).connectionId = (options side).connectionId := by
    cases side with
    | left => exact hid.symm
    | right => exact hid
  have hown : packet.connectionId = (pair.session side).connectionId := by
    rw [hcreates.ids packet hpacket, (sideOK_run hrun side.other).connectionId, hids,
      (sideOK_run hrun side).connectionId]
  have hcall : c ≠ .resetPeerState := by
    rintro rfl
    have hout : out = {} := by
      have hreset := hmoved.call
      simp only [Session.call, Option.some.injEq, Prod.mk.injEq] at hreset
      exact hreset.1.symm
    rw [hout] at hpacket
    cases hpacket
  have hok : Session.ReceivedOK (pair'.session side.other) :=
    hreceives.receivedOK (sideOK_run hrun side.other).receivedOK
  have hcovers : packet.Covers k ↔ AckCovers (pair'.session side.other).ackState.1
      (pair'.session side.other).ackState.2 k := by
    rw [← hcreates.acks packet hpacket]
    rfl
  rw [hsession, Session.receive_pendingReliable hown, Session.mem_applyAcknowledgements]
  refine and_congr_right fun hpending => ?_
  have hreceived := received_mono hreceives hcall (hheld k hpending)
  cases hh : (pair'.session side.other).highestReceivedSequence with
  | none =>
      rw [hok.empty hh] at hreceived
      cases hreceived
  | some h =>
      rw [hcovers, hok.covers_iff hh]
      constructor
      · intro hnot
        refine ⟨h, rfl, ?_⟩
        by_contra hle
        exact hnot ⟨hreceived, by omega⟩
      · rintro ⟨h', heq, hlt⟩ ⟨-, hle⟩
        cases heq
        omega

/-- A packet of a default session that has received nothing. -/
def mediaPacket (sequence : UInt32) (reliable : Bool)
    (fragmentId fragmentIndex fragmentCount : UInt16) (payload : List UInt8) : Packet where
  packetType := .data
  connectionId := 0
  sequence
  ack := 0
  ackMask := 0
  channelId := "media"
  reliable
  ordered := false
  sequenced := false
  fragmentId
  fragmentIndex
  fragmentCount
  payload

/--
A script after which packet 1 is all that `left` has pending and `right` has received it,
with a test of the Ack that `right` creates then.
-/
theorem exists_ack_of_script (script : List (Side × Call)) (test : Pair → Packet → Bool)
    (h : ((Machine.exec Pair.step (Pair.new fun _ => {}) script).any fun r =>
      (r.2.session .left).pendingReliable.keys = [1] &&
      (decide ((1 : UInt32) ∈ (r.2.session .right).receivedSequences) &&
      (r.2.step (.right, .createAck)).any fun acked =>
        acked.1.created.any fun packet => test acked.2 packet)) = true) :
    ∃ log pair out pair' packet,
      Machine.Run Pair.step (Pair.new fun _ => {}) log pair ∧
      (∀ k, k ∈ (pair.session .left).pendingReliable ↔ k = 1) ∧
      (1 : UInt32) ∈ (pair.session .right).receivedSequences ∧
      pair.step (.right, .createAck) = some (out, pair') ∧ packet ∈ out.created ∧
      test pair' packet = true := by
  obtain ⟨log, pair, hrun, -, hcheck⟩ := Machine.Run.of_exec_any h
  simp only [Bool.and_eq_true, decide_eq_true_eq, Option.any_eq_true, List.any_eq_true,
    Prod.exists] at hcheck
  obtain ⟨hkeys, hreceived, out, pair', hstep, packet, hmem, htest⟩ := hcheck
  refine ⟨log, pair, out, pair', packet, hrun, ?_, hreceived, hstep, hmem, htest⟩
  intro k
  rw [← Std.ExtTreeMap.mem_keys, hkeys, List.mem_singleton]

/-- One reliable packet, which the peer receives and acknowledges. -/
theorem pending_after_acknowledgement_one :
    ∃ log pair out pair' packet,
      Machine.Run Pair.step (Pair.new fun _ => {}) log pair ∧
      pair.step (.right, .createAck) = some (out, pair') ∧ packet ∈ out.created ∧
      1 ∈ (pair.session .left).pendingReliable ∧
      ∀ k, k ∈ ((pair'.session .left).receive packet 0).2.pendingReliable ↔
        k ∈ (pair.session .left).pendingReliable ∧
          ∃ h, (pair'.session .right).highestReceivedSequence = some h ∧
            k.toNat + 32 < h.toNat := by
  obtain ⟨log, pair, out, pair', packet, hrun, hpending, hreceived, hstep, hmem, -⟩ :=
    exists_ack_of_script
      [(.left, .assumeConnected 0), (.left, .send "media" [] { reliable := true }),
        (.right, .receive (mediaPacket 1 true 0 0 0 []) 0)]
      (fun _ _ => true) (by decide +kernel)
  refine ⟨log, pair, out, pair', packet, hrun, hstep, hmem, (hpending 1).mpr rfl, ?_⟩
  have hheld : ∀ k ∈ (pair.session .left).pendingReliable,
      k ∈ (pair.session .right).receivedSequences := by
    intro k hk
    rw [(hpending k).mp hk]
    exact hreceived
  exact fun k => pending_after_acknowledgement rfl hrun hheld hstep hmem 0 k

/--
A reliable packet and then 33 unreliable fragments: the peer receives the first and the
last of them, and what it acknowledges no longer reaches back to the first.
-/
theorem held_packet_stays_pending :
    ∃ log pair out pair' packet,
      Machine.Run Pair.step (Pair.new fun _ => {}) log pair ∧
      (∀ k ∈ (pair.session .left).pendingReliable,
        k ∈ (pair.session .right).receivedSequences) ∧
      pair.step (.right, .createAck) = some (out, pair') ∧ packet ∈ out.created ∧
      1 ∈ ((pair'.session .left).receive packet 0).2.pendingReliable := by
  obtain ⟨log, pair, out, pair', packet, hrun, hpending, hreceived, hstep, hmem, htest⟩ :=
    exists_ack_of_script
      [(.left, .assumeConnected 0), (.left, .send "media" [] { reliable := true }),
        (.left, .sendMany "media" (List.replicate 33 0) {} (some 1)),
        (.right, .receive (mediaPacket 1 true 0 0 0 []) 0),
        (.right, .receive (mediaPacket 34 false 1 32 33 [0]) 0)]
      (fun pair' packet => decide
        (1 ∈ ((pair'.session .left).receive packet 0).2.pendingReliable))
      (by decide +kernel)
  refine ⟨log, pair, out, pair', packet, hrun, ?_, hstep, hmem, of_decide_eq_true htest⟩
  intro k hk
  rw [(hpending k).mp hk]
  exact hreceived

end Pair

end CultNet.Rudp
