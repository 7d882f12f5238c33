/-
The stream of an ordered channel, from the handshake on.

A sender and a receiver have shaken hands, so the receiver has taken in the
opening packet and nothing else.  From there on the packets of any run of the
sender reach the receiver in any order, any number of times, or not at all.

Messages sent back to back are a chain, and the stream of their channel is a
resequencer that is fed that chain (`ordered_run`).  Where it begins is decided
when the first of them is complete, and that is left open here (`Begins`).
-/
import CultNet.Proofs.Rudp.Channel
import CultNet.Rudp.Pair

namespace CultNet.Rudp

/-! ### After the handshake -/

/-- `receiver` has taken in the packet `opening` of `sender`, which went out last, and no other. -/
structure Opened (sender receiver : Session) (opening : Packet) : Prop where
  connectionId : receiver.connectionId = sender.connectionId
  fragmentIds : sender.nextFragmentId ≠ 0
  next : sender.nextSequence.toNat = opening.sequence.toNat + 1
  control : opening.packetType ≠ .data
  inbound : receiver.inbound = ((Session.new {}).rememberReceived opening.sequence).inbound

namespace Session

/-- One packet created and nothing else: it carries the number before the counter. -/
theorem Numbers.last {s s' : Session} {p : Packet} (h : s.Numbers s' [p]) :
    s'.nextSequence.toNat = p.sequence.toNat + 1 := by
  have hnext := h.nextSequence
  have hsequence : [p.sequence.toNat] = [s.nextSequence.toNat] := h.sequences
  rw [List.singleton_inj.mp hsequence]
  exact hnext

theorem rememberReceived_congr {s t : Session} (h : s.inbound = t.inbound) (sequence : UInt32) :
    (s.rememberReceived sequence).inbound = (t.rememberReceived sequence).inbound := by
  unfold rememberReceived inbound at *
  simp only [Inbound.mk.injEq] at h ⊢
  obtain ⟨hhighest, hreceived, hrest⟩ := h
  rw [hhighest, hreceived]
  exact ⟨rfl, rfl, hrest⟩

theorem receive_accept {s s' : Session} {packet : Packet} {nowMs : Nat} {result : ReceiveResult}
    (htype : packet.packetType = .accept) (h : s.receive packet nowMs = (.ok result, s')) :
    result.reply = none := by
  cases hreply : result.reply with
  | none => rfl
  | some reply =>
      unfold receive at h
      rw [htype] at h
      split at h
      · cases h
      · cases h
        cases hreply

end Session

theorem handshake_opened {client server : SessionOptions} {connectMs acceptMs acceptedMs : Nat}
    {connectPayload acceptPayload : List UInt8} {est : Established}
    (h : handshake client server connectMs acceptMs acceptedMs connectPayload acceptPayload
      = some est) (side : Side) :
    Opened (est.session side) (est.session side.other) (est.opening side) := by
  unfold handshake at h
  split at h
  · cases h
  rename_i connect waiting hconnect
  split at h
  · cases h
  rename_i accept right haccept
  split at h
  · cases h
  rename_i result left hreceive
  simp only [Option.some.injEq] at h
  subst h
  obtain ⟨htype, hcreates, hin⟩ := Session.createConnect_ok hconnect
  obtain ⟨-, hid, htype', hcreates', hin'⟩ := Session.acceptConnect_ok haccept
  have hone : ((1 : UInt16) ≠ 0) := by decide
  have haccepted : accept.connectionId = waiting.connectionId := by
    rw [hcreates'.ids accept (List.mem_singleton_self _), ← hid,
      hcreates.ids connect (List.mem_singleton_self _), hcreates.connectionId]
  have hreply := Session.receive_accept htype' hreceive
  obtain ⟨-, hleft, hinleft⟩ := Session.receive_control haccepted
    (by rw [htype']; decide) hreceive
  rw [hreply] at hleft
  rw [if_neg (by rw [htype']; decide)] at hinleft
  have hsame : left.nextSequence.toNat = waiting.nextSequence.toNat := hleft.nextSequence
  have hids : right.connectionId = left.connectionId := by
    rw [hcreates'.connectionId, ← hid, hcreates.ids connect (List.mem_singleton_self _),
      hleft.connectionId, hcreates.connectionId]
  cases side with
  | left =>
      refine ⟨hids, hleft.fragmentIds (hcreates.fragmentIds hone), ?_, ?_, hin'⟩
      · show left.nextSequence.toNat = connect.sequence.toNat + 1
        rw [hsame]
        exact hcreates.toNumbers.last
      · show connect.packetType ≠ .data
        rw [htype]
        decide
  | right =>
      refine ⟨hids.symm, hcreates'.fragmentIds hone, hcreates'.toNumbers.last, ?_, ?_⟩
      · show accept.packetType ≠ .data
        rw [htype']
        decide
      · show left.inbound = _
        rw [hinleft]
        have hwaiting : waiting.inbound = (Session.new {}).inbound := hin
        exact Session.rememberReceived_congr hwaiting accept.sequence

/-! ### What the sender sent -/

/-- The messages of a run lie between two values of the packet counter. -/
structure Message.Between (m : Message) (low high : Nat) : Prop where
  first : low ≤ m.first.toNat
  stop : m.stop.toNat = m.first.toNat + m.packets.length
  high : m.stop.toNat ≤ high

theorem message_between {s₀ s : Session} {log : CallLog}
    (h : Machine.Run Session.call s₀ log s) (hid : s₀.nextFragmentId ≠ 0) {m : Message}
    (hm : m ∈ log.messages) :
    m.Between s₀.nextSequence.toNat s.nextSequence.toNat := by
  have hmessages := messagesOK_of_run h hid
  have hnumbers := numbers_of_run h
  have hok := hmessages.ok m hm
  have hrange : ∀ p ∈ m.packets, s₀.nextSequence.toNat ≤ p.sequence.toNat ∧
      p.sequence.toNat + 1 ≤ s.nextSequence.toNat := by
    intro p hp
    have hcreated := hmessages.sublist.subset (List.mem_flatMap.mpr ⟨m, hm, hp⟩)
    have hmem : p.sequence.toNat ∈ log.created.map fun p => p.sequence.toNat :=
      List.mem_map_of_mem hcreated
    rw [hnumbers.sequences, List.mem_range'_1, ← hnumbers.nextSequence] at hmem
    exact hmem
  have hpos := List.length_pos_iff.mpr hok.nonempty
  obtain ⟨last, hlast⟩ := hok.last
  have hfirst := hrange _ (List.getElem_mem hpos)
  rw [hok.sequence 0 _ (List.getElem?_eq_getElem hpos)] at hfirst
  have hend := hrange last (List.mem_iff_getElem?.mpr ⟨_, hlast⟩)
  rw [hok.sequence _ last hlast] at hend
  have hlt := s.nextSequence.toNat_lt
  have hlength := hok.length_le
  have hstop : m.stop.toNat = m.first.toNat + m.packets.length := by
    unfold Message.stop
    rw [UInt32.toNat_add, UInt32.toNat_ofNat']
    omega
  exact ⟨by omega, hstop, by omega⟩

theorem mem_orderedMessages {log : CallLog} {channelId : String} {m : Message} :
    m ∈ log.orderedMessages channelId ↔
      m ∈ log.messages ∧ m.channelId = channelId ∧ m.ordered = true := by
  unfold CallLog.orderedMessages
  rw [List.mem_filter]
  simp

section

variable {sender receiver s : Session} {opening : Packet} {log : CallLog} {channelId : String}

/-- The numbers of everything that can reach the receiver. -/
theorem Opened.sequences (h : Opened sender receiver opening)
    (hsend : Machine.Run Session.call sender log s) :
    (opening :: log.created).map (fun p => p.sequence.toNat)
      = List.range' opening.sequence.toNat (log.created.length + 1) := by
  rw [List.map_cons, (numbers_of_run hsend).sequences, h.next, List.range'_succ]

theorem Opened.bounds (h : Opened sender receiver opening)
    (hsend : Machine.Run Session.call sender log s) {p : Packet}
    (hp : p ∈ opening :: log.created) :
    opening.sequence.toNat ≤ p.sequence.toNat ∧ p.sequence.toNat < s.nextSequence.toNat := by
  have hmem : p.sequence.toNat ∈ (opening :: log.created).map fun p => p.sequence.toNat :=
    List.mem_map_of_mem hp
  rw [h.sequences hsend, List.mem_range'_1] at hmem
  have hnext := (numbers_of_run hsend).nextSequence
  have hopening := h.next
  omega

theorem Opened.distinct (h : Opened sender receiver opening)
    (hsend : Machine.Run Session.call sender log s) :
    ∀ p ∈ opening :: log.created, ∀ q ∈ opening :: log.created,
      p.sequence = q.sequence → p = q := by
  intro p hp q hq hsame
  have hnodup : ((opening :: log.created).map fun p => p.sequence.toNat).Nodup := by
    rw [h.sequences hsend]
    exact List.nodup_range'
  exact List.inj_on_of_nodup_map hnodup hp hq (congrArg UInt32.toNat hsame)

/-- The traffic of one channel, with its ordered messages to be kept apart. -/
theorem Opened.traffic (h : Opened sender receiver opening)
    (hsend : Machine.Run Session.call sender log s)
    (hids : ∀ m ∈ log.orderedMessages channelId, ∀ m' ∈ log.messages,
      m'.channelId = channelId → m.Fragmented → m'.Fragmented →
      m.fragmentId = m'.fragmentId → m = m') :
    Traffic (opening :: log.created) (log.messages.filter (·.channelId = channelId))
      (log.orderedMessages channelId) channelId := by
  have hmessages := messagesOK_of_run hsend h.fragmentIds
  have hin : ∀ m ∈ log.messages.filter (·.channelId = channelId),
      m ∈ log.messages ∧ m.channelId = channelId := by
    intro m hm
    rw [List.mem_filter] at hm
    exact ⟨hm.1, of_decide_eq_true hm.2⟩
  refine ⟨h.distinct hsend, ?_, ?_, ?_, ?_, ?_, ?_, ?_⟩
  · intro m hm
    exact hmessages.ok m (hin m hm).1
  · intro m hm
    exact (hin m hm).2
  · intro m hm p hp
    refine List.mem_cons_of_mem _ (hmessages.sublist.subset ?_)
    exact List.mem_flatMap.mpr ⟨m, (hin m hm).1, hp⟩
  · intro p hp htype hchannel
    rcases List.mem_cons.mp hp with rfl | hp
    · exact absurd htype h.control
    · obtain ⟨m, hm, hmem⟩ := hmessages.data p hp htype
      refine ⟨m, List.mem_filter.mpr ⟨hm, decide_eq_true ?_⟩, hmem⟩
      rw [← (hmessages.ok m hm).channel p hmem]
      exact hchannel
  · intro m hm m' hm' p hp hp'
    have hnodup : log.created.Nodup := (nodup_of_numbers (numbers_of_run hsend)).of_map
    exact eq_of_mem_flatMap (hmessages.sublist.nodup hnodup) (hin m hm).1 (hin m' hm').1 hp hp'
  · intro m hm
    obtain ⟨hmem, hchannel, -⟩ := mem_orderedMessages.mp hm
    exact List.mem_filter.mpr ⟨hmem, decide_eq_true hchannel⟩
  · intro m hm m' hm'
    exact hids m hm m' (hin m' hm').1 (hin m' hm').2

end

/-! ### Messages sent back to back -/

/-- Every message of the list but the first begins where the one before it ended. -/
structure BackToBack (low high : Nat) (ms : List Message) : Prop where
  ok : ∀ m ∈ ms, m.OK
  between : ∀ m ∈ ms, m.Between low high
  next : ∀ (i : Nat) (m m' : Message), ms[i]? = some m → ms[i + 1]? = some m' →
    m'.first = m.stop

namespace BackToBack

variable {low high : Nat} {ms : List Message}

/-- The number at which the message at place `i` begins, or at which the last one ended. -/
def key (ms : List Message) (i : Nat) : UInt32 :=
  if i < ms.length then (ms[i]?.getD default).first else (ms[ms.length - 1]?.getD default).stop

theorem key_of_get {i : Nat} {m : Message} (hm : ms[i]? = some m) : key ms i = m.first := by
  obtain ⟨hi, -⟩ := List.getElem?_eq_some_iff.mp hm
  unfold key
  rw [if_pos hi, hm, Option.getD_some]

/-- Where one message ends the next one begins. -/
theorem stop_eq_key (h : BackToBack low high ms) {i : Nat} {m : Message}
    (hm : ms[i]? = some m) : m.stop = key ms (i + 1) := by
  obtain ⟨hi, -⟩ := List.getElem?_eq_some_iff.mp hm
  by_cases hlast : i + 1 < ms.length
  · have hget : ms[i + 1]? = some ms[i + 1] := List.getElem?_eq_getElem hlast
    rw [key_of_get hget]
    exact (h.next i m _ hm hget).symm
  · have hplace : ms.length - 1 = i := by omega
    unfold key
    rw [if_neg hlast, hplace, hm, Option.getD_some]

/-- One place on, the numbers have gone up by the packets of the message. -/
theorem key_succ (h : BackToBack low high ms) {i : Nat} {m : Message} (hm : ms[i]? = some m) :
    (key ms (i + 1)).toNat = (key ms i).toNat + m.packets.length := by
  have hmem := List.mem_iff_getElem?.mpr ⟨i, hm⟩
  rw [← h.stop_eq_key hm, key_of_get hm]
  exact (h.between m hmem).stop

/-- Every message has a number of its own at least. -/
theorem key_add_le (h : BackToBack low high ms) {i : Nat} : ∀ n : Nat, i + n ≤ ms.length →
    (key ms i).toNat + n ≤ (key ms (i + n)).toNat := by
  intro n
  induction n with
  | zero => intro _; exact Nat.le_refl _
  | succ n ih =>
      intro hn
      have hlt : i + n < ms.length := by omega
      have hsucc := h.key_succ (List.getElem?_eq_getElem hlt)
      have hpos := List.length_pos_iff.mpr (h.ok _ (List.getElem_mem hlt)).nonempty
      have hbefore := ih (by omega)
      rw [← Nat.add_assoc i n 1]
      omega

/-- The messages as a chain that a resequencer can put back in order. -/
def chain (h : BackToBack low high ms) : Resequencer.Chain PendingOrderedFrame.nextSequence where
  length := ms.length
  key := key ms
  item := fun i => (ms[i]?.getD default).pending
  mono := by
    intro i j hij hj
    have hle := h.key_add_le (i := i) (j - i) (by omega)
    have hplace : i + (j - i) = j := by omega
    rw [hplace] at hle
    rw [UInt32.lt_iff_toNat_lt]
    omega
  after_item := by
    intro i hi
    have hget : ms[i]? = some ms[i] := List.getElem?_eq_getElem hi
    rw [hget, Option.getD_some]
    exact h.stop_eq_key hget

theorem chain_item (h : BackToBack low high ms) {i : Nat} {m : Message}
    (hm : ms[i]? = some m) : h.chain.item i = m.pending := by
  show (ms[i]?.getD default).pending = m.pending
  rw [hm, Option.getD_some]

/-- A message stands at one place of the list only. -/
theorem place_inj (h : BackToBack low high ms) {i j : Nat} {m : Message}
    (hi : ms[i]? = some m) (hj : ms[j]? = some m) : i = j := by
  obtain ⟨hilt, -⟩ := List.getElem?_eq_some_iff.mp hi
  obtain ⟨hjlt, -⟩ := List.getElem?_eq_some_iff.mp hj
  refine h.chain.key_inj (Nat.le_of_lt hilt) (Nat.le_of_lt hjlt) ?_
  show key ms i = key ms j
  rw [key_of_get hi, key_of_get hj]

/-- The frames of a stretch from the first message on. -/
theorem stretch_frames (h : BackToBack low high ms) {i : Nat} (hi : i ≤ ms.length) :
    (h.chain.stretch 0 i).map (·.frame) = (ms.take i).map Message.frame := by
  refine List.ext_getElem? fun j => ?_
  unfold Resequencer.Chain.stretch
  rw [List.map_map, List.getElem?_map, List.getElem?_map, Nat.sub_zero]
  by_cases hj : j < i
  · have hget : ms[j]? = some ms[j] := List.getElem?_eq_getElem (by omega)
    rw [List.getElem?_range' hj, List.getElem?_take_of_lt hj, hget]
    show some ((h.chain.item (0 + 1 * j)).frame) = some ms[j].frame
    rw [Nat.zero_add, Nat.one_mul, h.chain_item hget]
    rfl
  · rw [List.getElem?_eq_none_iff.mpr (by rw [List.length_range']; omega),
      List.getElem?_eq_none_iff.mpr (by rw [List.length_take]; omega)]
    rfl

end BackToBack

/-! ### The receiver along its run -/

/-- What holds of a receiver that only `packets` may reach. -/
structure Line (packets : List Packet) (opening : Packet) (kept : List Message)
    (connectionId : UInt32) (rlog : CallLog) (r : Session) : Prop where
  connection : r.connectionId = connectionId
  collects : r.CollectsAll kept
  channels : r.Channels
  received : Session.ReceivedOK r
  opened : opening.sequence ∈ r.receivedSequences
  genuine : ∀ q ∈ r.receivedSequences, ∃ p ∈ packets, p.sequence = q
  taken : ∀ p, rlog.Received p → p.packetType = .data → p.connectionId = connectionId →
    p.sequence ∈ r.receivedSequences

/-- The message at place `i` has come in whole. -/
def Came (kept : List Message) (r : Session) (i : Nat) : Prop :=
  ∃ m, kept[i]? = some m ∧ r.Has m

section

variable {packets : List Packet} {messages kept : List Message} {channelId : String}
  {sender receiver : Session} {opening : Packet}

theorem line_start (hopened : Opened sender receiver opening)
    (htraffic : Traffic packets messages kept channelId) (hopening : opening ∈ packets) :
    Line packets opening kept receiver.connectionId [] receiver := by
  have hreceived : receiver.receivedSequences = {opening.sequence} :=
    congrArg Inbound.receivedSequences hopened.inbound
  have hbuffers : receiver.fragmentBuffers = ∅ :=
    congrArg Inbound.fragmentBuffers hopened.inbound
  have hwaiting : receiver.orderedBuffers = ∅ :=
    congrArg Inbound.orderedBuffers hopened.inbound
  refine ⟨rfl, ?_, Session.channels_of_empty hbuffers hwaiting, ?_, ?_, ?_, ?_⟩
  · intro m hm _ _
    have hmessage := htraffic.subset m hm
    refine Session.collects_of_none ?_ ?_
    · rw [hbuffers]
      exact Std.ExtTreeMap.getElem?_empty
    · -- the opening packet belongs to no message
      intro p hp hmem
      rw [hreceived, Finset.mem_singleton] at hmem
      have heq := htraffic.distinct p (htraffic.mem m hmessage p hp) opening hopening hmem
      apply hopened.control
      rw [← heq]
      exact (htraffic.ok m hmessage).packetType p hp
  · have hnew := (Session.receivedOK_new {}).remember opening.sequence
    exact Session.receivedOK_of_window (Session.window_of_inbound hopened.inbound).symm hnew
  · rw [hreceived]
    exact Finset.mem_singleton_self _
  · intro q hq
    rw [hreceived, Finset.mem_singleton] at hq
    exact ⟨opening, hopening, hq.symm⟩
  · rintro p ⟨nowMs, out, hmem⟩
    cases hmem

theorem line_step (htraffic : Traffic packets messages kept channelId) {connectionId : UInt32}
    {rlog : CallLog} {r r' : Session} {c : Call} {out : Output}
    (hline : Line packets opening kept connectionId rlog r)
    (hcall : r.call c = some (out, r')) (hreset : c ≠ .resetPeerState)
    (hinput : ∀ p, c.input? = some p → p ∈ packets) :
    Line packets opening kept connectionId (rlog ++ [(c, out)]) r' := by
  obtain ⟨hcreates, htakes⟩ := Session.call_effect hcall
  have hgrow : ∀ q ∈ r.receivedSequences, q ∈ r'.receivedSequences := by
    intro q hq
    cases htakes.receives with
    | same h =>
        rw [show r'.receivedSequences = r.receivedSequences from congrArg Prod.snd h]
        exact hq
    | remember packet _ _ h =>
        rw [show r'.receivedSequences = insert packet.sequence r.receivedSequences from
          congrArg Prod.snd h]
        exact Finset.mem_insert_of_mem hq
    | reset hc _ => exact absurd hc hreset
  refine ⟨hcreates.connectionId.trans hline.connection,
    Session.call_collects htraffic hcall hreset hinput hline.collects,
    Session.call_channels hcall hline.channels, htakes.receives.receivedOK hline.received,
    hgrow _ hline.opened, ?_, ?_⟩
  · intro q hq
    cases htakes.receives with
    | same h =>
        rw [show r'.receivedSequences = r.receivedSequences from congrArg Prod.snd h] at hq
        exact hline.genuine q hq
    | remember packet hin _ h =>
        rw [show r'.receivedSequences = insert packet.sequence r.receivedSequences from
          congrArg Prod.snd h] at hq
        rcases Finset.mem_insert.mp hq with rfl | hq
        · exact ⟨packet, hinput packet hin, rfl⟩
        · exact hline.genuine q hq
    | reset hc _ => exact absurd hc hreset
  · rintro p ⟨nowMs, out', hmem⟩ htype hid
    rcases List.mem_append.mp hmem with hmem | hmem
    · exact hgrow _ (hline.taken p ⟨nowMs, out', hmem⟩ htype hid)
    · cases List.mem_singleton.mp hmem
      obtain ⟨-, result, hr, -, -⟩ :=
        Session.call_data hcall (hid.trans hline.connection.symm) htype
      have hreceipt := Session.receiveData_receipt (r.receiveBase p nowMs) p
        (r.expectedSequence p)
      rw [hr] at hreceipt
      rw [hreceipt.receivedSequences]
      exact Finset.mem_insert_self _ _

/-- Where the stream of a channel begins, when its first ordered message is complete. -/
def Begins (packets : List Packet) (opening : Packet) (kept : List Message) (starts : Nat → Prop)
    (sticks : Prop) : Prop :=
  ∀ (connectionId : UInt32) (rlog : CallLog) (r : Session) (j : Nat) (m : Message) (p : Packet),
    Line packets opening kept connectionId rlog r → kept[j]? = some m → p ∈ m.packets →
    p.sequence ∉ r.receivedSequences →
    (∀ q ∈ m.packets, q.sequence ∈ insert p.sequence r.receivedSequences) →
    (∀ i, i < kept.length → ¬ Came kept r i) →
    (sticks ∧ ∀ i, i < kept.length →
      min (r.expectedSequence p) m.first < BackToBack.key kept i) ∨
    ∃ i₀, i₀ ≤ j ∧ starts i₀ ∧ min (r.expectedSequence p) m.first = BackToBack.key kept i₀

/-- One call on, with what it delivered. -/
theorem progress_step {low high : Nat} (hchain : BackToBack low high kept)
    {starts : Nat → Prop} {sticks : Prop}
    (hbegins : Begins packets opening kept starts sticks) {connectionId : UInt32}
    {rlog : CallLog} {r r' : Session} {input : Option Packet} {delivered : List DeliveredFrame}
    (hline : Line packets opening kept connectionId rlog r)
    (hadvances : r.Advances kept channelId input delivered r')
    {out : List PendingOrderedFrame}
    (h : Resequencer.Progress hchain.chain (Came kept r) starts sticks (r.stream channelId) out) :
    ∃ more, Resequencer.Progress hchain.chain (Came kept r') starts sticks
        (r'.stream channelId) (out ++ more) ∧
      ((∀ p, input = some p → p.packetType = .data → p.channelId = channelId →
          p.ordered = true) →
        (∀ m ∈ kept, m.channelId = channelId) →
        delivered.filter (·.channelId = channelId) = more.map (·.frame)) := by
  cases hadvances with
  | quiet hstream hhas hdelivered =>
      refine ⟨[], ?_, ?_⟩
      · rw [List.append_nil, hstream]
        refine h.congr fun i hi => ?_
        unfold Came
        constructor
        · rintro ⟨m, hm, hall⟩
          exact ⟨m, hm, (hhas m (List.mem_iff_getElem?.mpr ⟨i, hm⟩)).mpr hall⟩
        · rintro ⟨m, hm, hall⟩
          exact ⟨m, hm, (hhas m (List.mem_iff_getElem?.mpr ⟨i, hm⟩)).mp hall⟩
      · intro hordered _
        rw [List.map_nil, List.filter_eq_nil_iff]
        intro frame hframe hchannel
        obtain ⟨p, hin, htype, hpchannel, hunordered⟩ :=
          hdelivered frame hframe (of_decide_eq_true hchannel)
        rw [hordered p hin htype hpchannel] at hunordered
        cases hunordered
  | completes m p hm hinput hp hnew hall hhas hstream hdelivered =>
      obtain ⟨j, hj⟩ := List.mem_iff_getElem?.mp hm
      obtain ⟨hlt, -⟩ := List.getElem?_eq_some_iff.mp hj
      have hfresh : ¬ Came kept r j := by
        rintro ⟨m', hm', hcomplete⟩
        rw [hj] at hm'
        cases hm'
        exact hnew (hcomplete p hp)
      have hidle : (r.stream channelId).next = none → ∀ i, i < kept.length → ¬ Came kept r i := by
        intro hnext
        cases h with
        | idle _ _ hnone => exact hnone
        | stuck low _ hlow _ =>
            rw [hlow] at hnext
            cases hnext
        | serving i₀ i _ _ hserves =>
            rw [hserves.next] at hnext
            cases hnext
      have hpush := Resequencer.push_progress hchain.chain h hlt hfresh fun hnext =>
        hbegins connectionId rlog r j m p hline hj hp hnew hall (hidle hnext)
      have hkey : hchain.chain.key j = m.first := BackToBack.key_of_get hj
      rw [hkey, hchain.chain_item hj, ← hstream] at hpush
      refine ⟨_, hpush.congr fun i hi => ?_, ?_⟩
      · unfold Came
        constructor
        · rintro (⟨m', hm', hcomplete⟩ | rfl)
          · exact ⟨m', hm', (hhas m' (List.mem_iff_getElem?.mpr ⟨i, hm'⟩)).mpr
              (Or.inl hcomplete)⟩
          · exact ⟨m, hj, (hhas m hm).mpr (Or.inr rfl)⟩
        · rintro ⟨m', hm', hcomplete⟩
          rcases (hhas m' (List.mem_iff_getElem?.mpr ⟨i, hm'⟩)).mp hcomplete with hbefore | rfl
          · exact Or.inl ⟨m', hm', hbefore⟩
          · exact Or.inr (hchain.place_inj hm' hj)
      · intro _ hchannels
        rw [hdelivered, List.filter_eq_self]
        intro frame hframe
        obtain ⟨pending, hpending, rfl⟩ := List.mem_map.mp hframe
        obtain ⟨i, hi, rfl⟩ := hpush.mem (List.mem_append.mpr (Or.inr hpending))
        have hget : kept[i]? = some kept[i] := List.getElem?_eq_getElem hi
        rw [hchain.chain_item hget]
        exact decide_eq_true (hchannels _ (List.getElem_mem hi))

/-- **The stream of a channel along a run of the receiver.** -/
theorem ordered_run (hopened : Opened sender receiver opening)
    (htraffic : Traffic packets messages kept channelId) (hopening : opening ∈ packets)
    (hordered : ∀ m ∈ messages, m.ordered = true → m ∈ kept)
    (hkept : ∀ m ∈ kept, m.ordered = true) {low high : Nat}
    (hchain : BackToBack low high kept) {starts : Nat → Prop} {sticks : Prop}
    (hbegins : Begins packets opening kept starts sticks) {rlog : CallLog} {r : Session}
    (hreceive : Machine.Run Session.call receiver rlog r)
    (harrive : ∀ entry ∈ rlog, entry.1 ≠ .resetPeerState ∧
      ∀ p, entry.1.input? = some p → p ∈ packets) :
    Line packets opening kept receiver.connectionId rlog r ∧
    ∃ out, Resequencer.Progress hchain.chain (Came kept r) starts sticks
        (r.stream channelId) out ∧
      ((∀ p ∈ packets, p.packetType = .data → p.channelId = channelId → p.ordered = true) →
        rlog.delivered.filter (·.channelId = channelId) = out.map (·.frame)) := by
  induction hreceive with
  | nil =>
      refine ⟨line_start hopened htraffic hopening, [], .idle ?_ ?_ ?_, fun _ => rfl⟩
      · show receiver.orderedNextSequenceByChannel[channelId]? = none
        rw [show receiver.orderedNextSequenceByChannel = ∅ from
          congrArg Inbound.orderedNextSequenceByChannel hopened.inbound]
        exact Std.ExtTreeMap.getElem?_empty
      · intro key
        show (receiver.orderedBuffers.getD channelId ∅)[key]? = none
        rw [show receiver.orderedBuffers = ∅ from
          congrArg Inbound.orderedBuffers hopened.inbound, Std.ExtTreeMap.getD_empty]
        exact Std.ExtTreeMap.getElem?_empty
      · rintro i hi ⟨m, hm, hall⟩
        have hmem := List.mem_iff_getElem?.mpr ⟨i, hm⟩
        have hok := hchain.ok m hmem
        have hp := List.getElem_mem (List.length_pos_iff.mpr hok.nonempty)
        have hline := line_start hopened htraffic hopening
        have hsequence := hall _ hp
        rw [show receiver.receivedSequences = {opening.sequence} from
          congrArg Inbound.receivedSequences hopened.inbound, Finset.mem_singleton] at hsequence
        have heq := htraffic.distinct _ (htraffic.mem m (htraffic.subset m hmem) _ hp) opening
          hopening hsequence
        apply hopened.control
        rw [← heq]
        exact hok.packetType _ hp
  | @snoc rlog r r' c out hrun hcall ih =>
      obtain ⟨hline, sofar, hprogress, hsofar⟩ :=
        ih fun entry hentry => harrive entry (List.mem_append.mpr (Or.inl hentry))
      obtain ⟨hreset, hinput⟩ :=
        harrive (c, out) (List.mem_append.mpr (Or.inr (List.mem_singleton_self _)))
      have hadvances := Session.call_advances htraffic hordered hkept hcall hreset hinput
        hline.collects hline.channels
      obtain ⟨more, hmore, hout⟩ := progress_step hchain hbegins hline hadvances hprogress
      refine ⟨line_step htraffic hline hcall hreset hinput, _, hmore, ?_⟩
      intro hall
      have hlog : CallLog.delivered (rlog ++ [(c, out)])
          = CallLog.delivered rlog ++ out.delivered := by
        unfold CallLog.delivered
        rw [List.flatMap_append, List.flatMap_singleton]
      rw [hlog, List.filter_append, List.map_append, hsofar hall]
      congr 1
      refine hout (fun p hin => hall p (hinput p hin)) ?_
      intro m hm
      exact htraffic.channel m (htraffic.subset m hm)

end

end CultNet.Rudp
