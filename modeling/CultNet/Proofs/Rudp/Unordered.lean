/-
Unordered messages arrive exactly once, and whole.

A receiver is handed the packets of some messages of one sender in any order and
any number of times.  Each message comes out once, when the last of its packets
arrives, with the payload that was sent; nothing else comes out.  The messages
are those of unordered, unsequenced sends, on any channels; what keeps two of
them apart in the fragment buffers is that no two share a channel and a
fragment id.
-/
import CultNet.Proofs.Rudp.Reassembly

namespace CultNet.Rudp

/-- Messages of one sender whose packets can be told apart. -/
structure Sendings (messages : List Message) : Prop where
  ok : ∀ m ∈ messages, m.OK
  distinct : ∀ m ∈ messages, ∀ m' ∈ messages, ∀ p ∈ m.packets, ∀ q ∈ m'.packets,
    p.sequence = q.sequence → p = q
  disjoint : ∀ m ∈ messages, ∀ m' ∈ messages, ∀ p ∈ m.packets, p ∈ m'.packets → m = m'
  keys : ∀ m ∈ messages, ∀ m' ∈ messages, m.Fragmented → m'.Fragmented → m.key = m'.key → m = m'

/-- Messages picked from those of a run. -/
theorem sendings_of_run {s₀ s : Session} {log : CallLog} {messages : List Message}
    (h : Machine.Run Session.call s₀ log s) (hid : s₀.nextFragmentId ≠ 0)
    (hsent : ∀ m ∈ messages, m ∈ log.messages)
    (hkeys : ∀ m ∈ messages, ∀ m' ∈ messages, m.Fragmented → m'.Fragmented → m.key = m'.key →
      m = m') : Sendings messages where
  ok := fun m hm => (messagesOK_of_run h hid).ok m (hsent m hm)
  distinct := by
    have hmessages := messagesOK_of_run h hid
    intro m hm m' hm' p hp q hq hsame
    have hpc := hmessages.sublist.subset (List.mem_flatMap.mpr ⟨m, hsent m hm, hp⟩)
    have hqc := hmessages.sublist.subset (List.mem_flatMap.mpr ⟨m', hsent m' hm', hq⟩)
    exact List.inj_on_of_nodup_map (nodup_of_numbers (numbers_of_run h)) hpc hqc hsame
  disjoint := by
    have hmessages := messagesOK_of_run h hid
    have hnodup : log.created.Nodup := (nodup_of_numbers (numbers_of_run h)).of_map
    intro m hm m' hm' p hp hp'
    exact eq_of_mem_flatMap (hmessages.sublist.nodup hnodup) (hsent m hm) (hsent m' hm') hp hp'
  keys := hkeys

/-- The packets of the messages, as the traffic of one of their channels. -/
theorem Sendings.traffic {messages : List Message} (h : Sendings messages) (channelId : String) :
    Traffic (messages.flatMap (·.packets)) (messages.filter (·.channelId = channelId))
      (messages.filter (·.channelId = channelId)) channelId := by
  have hin : ∀ m ∈ messages.filter (·.channelId = channelId),
      m ∈ messages ∧ m.channelId = channelId := by
    intro m hm
    rw [List.mem_filter] at hm
    exact ⟨hm.1, of_decide_eq_true hm.2⟩
  refine ⟨?_, ?_, ?_, ?_, ?_, ?_, fun m hm => hm, ?_⟩
  · intro p hp q hq hsame
    obtain ⟨m, hm, hp⟩ := List.mem_flatMap.mp hp
    obtain ⟨m', hm', hq⟩ := List.mem_flatMap.mp hq
    exact h.distinct m hm m' hm' p hp q hq hsame
  · exact fun m hm => h.ok m (hin m hm).1
  · exact fun m hm => (hin m hm).2
  · exact fun m hm p hp => List.mem_flatMap.mpr ⟨m, (hin m hm).1, hp⟩
  · intro p hp _ hchannel
    obtain ⟨m, hm, hp⟩ := List.mem_flatMap.mp hp
    refine ⟨m, List.mem_filter.mpr ⟨hm, decide_eq_true ?_⟩, hp⟩
    rw [← (h.ok m hm).channel p hp]
    exact hchannel
  · exact fun m hm m' hm' => h.disjoint m (hin m hm).1 m' (hin m' hm').1
  · intro m hm m' hm' hf hf' hid
    refine h.keys m (hin m hm).1 m' (hin m' hm').1 hf hf' ?_
    unfold Message.key
    rw [(hin m hm).2, (hin m' hm').2, hid]

/-- Different messages give different frames. -/
theorem Sendings.frame_inj {messages : List Message} (h : Sendings messages) {m m' : Message}
    (hm : m ∈ messages) (hm' : m' ∈ messages) (hsame : m.frame = m'.frame) : m = m' := by
  have hfirst : ∀ n ∈ messages, ∃ p ∈ n.packets, p.sequence = n.first := by
    intro n hn
    have hok := h.ok n hn
    have hpos := List.length_pos_iff.mpr hok.nonempty
    refine ⟨n.packets[0], List.getElem_mem hpos, ?_⟩
    rw [← UInt32.toNat_inj]
    exact hok.sequence 0 _ (List.getElem?_eq_getElem hpos)
  obtain ⟨p, hp, hpfirst⟩ := hfirst m hm
  obtain ⟨q, hq, hqfirst⟩ := hfirst m' hm'
  have hsequence : m.first = m'.first := congrArg DeliveredFrame.sequence hsame
  have heq := h.distinct m hm m' hm' p hp q hq (by rw [hpfirst, hqfirst, hsequence])
  rw [← heq] at hq
  exact h.disjoint m hm m' hm' p hp hq

namespace Session

/-- **What a packet of an unordered message brings out.** -/
theorem receive_unordered {s : Session} {m : Message} {p : Packet} (nowMs : Nat) (hok : m.OK)
    (hordered : m.ordered = false) (hsequenced : m.sequenced = false) (hp : p ∈ m.packets)
    (hcollects : m.Fragmented → ¬ s.Has m → s.Collects m)
    (hid : p.connectionId = s.connectionId) :
    ((p.sequence ∉ s.receivedSequences ∧
        ∀ q ∈ m.packets, q.sequence ∈ insert p.sequence s.receivedSequences) →
      (s.receive p nowMs).1 = .ok { delivered := [m.frame] }) ∧
    (¬ (p.sequence ∉ s.receivedSequences ∧
        ∀ q ∈ m.packets, q.sequence ∈ insert p.sequence s.receivedSequences) →
      (s.receive p nowMs).1 = .ok {}) := by
  rw [receive_data nowMs hid (hok.packetType p hp)]
  have hreceipt := receiveData_receipt (s.receiveBase p nowMs) p (s.expectedSequence p)
  by_cases hnew : p.sequence ∈ s.receivedSequences
  · refine ⟨fun hboth => absurd hnew hboth.1, fun _ => ?_⟩
    unfold receiveData
    have hdup : p.sequence ∈ (s.receiveBase p nowMs).receivedSequences := hnew
    simp only [hdup, if_true]
  have hmissing : ¬ s.Has m := fun hall => hnew (hall p hp)
  have hbase : m.Fragmented → (s.receiveBase p nowMs).Collects m := fun hfragmented =>
    (hcollects hfragmented hmissing).congr rfl fun _ _ => Iff.rfl
  generalize (s.receiveBase p nowMs).receiveData p (s.expectedSequence p) = result at hreceipt ⊢
  obtain ⟨result, t⟩ := result
  refine ⟨?_, ?_⟩
  · rintro ⟨-, hall⟩
    have hr := reassemble_complete hok hp hbase hall
    rw [hordered] at hr
    exact hreceipt.of_unordered hnew hr ((hok.sequenced p hp).trans hsequenced)
  · intro hnot
    have hopen : ¬ ∀ q ∈ m.packets, q.sequence ∈ insert p.sequence s.receivedSequences :=
      fun hall => hnot ⟨hnew, hall⟩
    obtain ⟨-, hr⟩ := reassemble_incomplete hok hp hbase hopen
    exact (hreceipt.of_incomplete hnew (congrArg Prod.fst hr)).1

end Session

/-! ### The receiver along its run -/

/-- What holds of a receiver that is handed packets of `messages` only. -/
structure Receiver (messages : List Message) (connectionId : UInt32) (log : CallLog)
    (s : Session) : Prop where
  connectionId : s.connectionId = connectionId
  received : ∀ q, q ∈ s.receivedSequences ↔ ∃ p, log.Received p ∧ p.sequence = q
  collects : ∀ channelId, s.CollectsAll (messages.filter (·.channelId = channelId))
  once : ∀ m ∈ messages, s.Has m → log.delivered.count m.frame = 1
  never : ∀ m ∈ messages, ¬ s.Has m → log.delivered.count m.frame = 0
  genuine : ∀ frame ∈ log.delivered, ∃ m ∈ messages, s.Has m ∧ frame = m.frame

theorem CallLog.received_snoc {log : CallLog} {p q : Packet} {nowMs : Nat} {out : Output} :
    CallLog.Received (log ++ [(.receive p nowMs, out)]) q ↔ log.Received q ∨ q = p := by
  unfold CallLog.Received
  constructor
  · rintro ⟨nowMs', out', hmem⟩
    rcases List.mem_append.mp hmem with hmem | hmem
    · exact Or.inl ⟨nowMs', out', hmem⟩
    · cases List.mem_singleton.mp hmem
      exact Or.inr rfl
  · rintro (⟨nowMs', out', hmem⟩ | rfl)
    · exact ⟨nowMs', out', List.mem_append.mpr (Or.inl hmem)⟩
    · exact ⟨nowMs, out, List.mem_append.mpr (Or.inr (List.mem_singleton_self _))⟩

/-- The received set follows the log, one packet further. -/
theorem CallLog.mem_insert_iff {log : CallLog} {received : Finset UInt32} {p : Packet} {nowMs : Nat}
    {out : Output} (h : ∀ q, q ∈ received ↔ ∃ r, log.Received r ∧ r.sequence = q) (q : UInt32) :
    q ∈ insert p.sequence received ↔
      ∃ r, CallLog.Received (log ++ [(.receive p nowMs, out)]) r ∧ r.sequence = q := by
  rw [Finset.mem_insert, h]
  constructor
  · rintro (rfl | ⟨r, hr, rfl⟩)
    · exact ⟨p, received_snoc.mpr (Or.inr rfl), rfl⟩
    · exact ⟨r, received_snoc.mpr (Or.inl hr), rfl⟩
  · rintro ⟨r, hr, rfl⟩
    rcases received_snoc.mp hr with hr | rfl
    · exact Or.inr ⟨r, hr, rfl⟩
    · exact Or.inl rfl

/-- A message that has become complete comes out now. -/
theorem Receiver.delivers {messages : List Message} {connectionId : UInt32} {log log' : CallLog}
    {s s' : Session} {m : Message} (h : Receiver messages connectionId log s)
    (hsendings : Sendings messages) (hm : m ∈ messages) (hbefore : ¬ s.Has m)
    (hhas : ∀ n ∈ messages, (s'.Has n ↔ s.Has n ∨ n = m))
    (hdelivered : log'.delivered = log.delivered ++ [m.frame])
    (hid : s'.connectionId = connectionId)
    (hreceived : ∀ q, q ∈ s'.receivedSequences ↔ ∃ r, log'.Received r ∧ r.sequence = q)
    (hcollects : ∀ channelId, s'.CollectsAll (messages.filter (·.channelId = channelId))) :
    Receiver messages connectionId log' s' := by
  have hcount : ∀ n : Message, log'.delivered.count n.frame
      = log.delivered.count n.frame + [m.frame].count n.frame := by
    intro n
    rw [hdelivered, List.count_append]
  have hframe : ∀ n ∈ messages, n ≠ m → [m.frame].count n.frame = 0 := by
    intro n hn hne
    refine List.count_eq_zero.mpr fun hmem => ?_
    exact hne (hsendings.frame_inj hn hm (List.mem_singleton.mp hmem))
  refine ⟨hid, hreceived, hcollects, ?_, ?_, ?_⟩
  · intro n hn hall
    rw [hcount]
    rcases (hhas n hn).mp hall with hall | rfl
    · have hne : n ≠ m := by
        rintro rfl
        exact hbefore hall
      rw [h.once n hn hall, hframe n hn hne]
    · rw [h.never n hn hbefore, List.count_singleton_self]
  · intro n hn hmissing
    have hne : n ≠ m := fun heq => hmissing ((hhas n hn).mpr (Or.inr heq))
    have hold : ¬ s.Has n := fun hall => hmissing ((hhas n hn).mpr (Or.inl hall))
    rw [hcount, h.never n hn hold, hframe n hn hne]
  · intro frame hmem
    rw [hdelivered] at hmem
    rcases List.mem_append.mp hmem with hmem | hmem
    · obtain ⟨n, hn, hall, heq⟩ := h.genuine frame hmem
      exact ⟨n, hn, (hhas n hn).mpr (Or.inl hall), heq⟩
    · exact ⟨m, hm, (hhas m hm).mpr (Or.inr rfl), List.mem_singleton.mp hmem⟩

/-- Where no message has become complete, nothing comes out. -/
theorem Receiver.waits {messages : List Message} {connectionId : UInt32} {log log' : CallLog}
    {s s' : Session} (h : Receiver messages connectionId log s)
    (hhas : ∀ n ∈ messages, (s'.Has n ↔ s.Has n)) (hdelivered : log'.delivered = log.delivered)
    (hid : s'.connectionId = connectionId)
    (hreceived : ∀ q, q ∈ s'.receivedSequences ↔ ∃ r, log'.Received r ∧ r.sequence = q)
    (hcollects : ∀ channelId, s'.CollectsAll (messages.filter (·.channelId = channelId))) :
    Receiver messages connectionId log' s' := by
  refine ⟨hid, hreceived, hcollects, ?_, ?_, ?_⟩
  · intro n hn hall
    rw [hdelivered]
    exact h.once n hn ((hhas n hn).mp hall)
  · intro n hn hmissing
    rw [hdelivered]
    exact h.never n hn fun hall => hmissing ((hhas n hn).mpr hall)
  · intro frame hmem
    rw [hdelivered] at hmem
    obtain ⟨n, hn, hall, heq⟩ := h.genuine frame hmem
    exact ⟨n, hn, (hhas n hn).mpr hall, heq⟩

theorem receiver_step {messages : List Message} {connectionId : UInt32} {log : CallLog}
    {s s' : Session} {p : Packet} {m : Message} {nowMs : Nat} {out : Output}
    (hsendings : Sendings messages) (hmessage : ∀ n ∈ messages,
      n.ordered = false ∧ n.sequenced = false)
    (h : Receiver messages connectionId log s) (hm : m ∈ messages) (hp : p ∈ m.packets)
    (hid : p.connectionId = connectionId)
    (hcall : s.call (.receive p nowMs) = some (out, s')) :
    Receiver messages connectionId (log ++ [(.receive p nowMs, out)]) s' := by
  have hok := hsendings.ok m hm
  have hown : p.connectionId = s.connectionId := hid.trans h.connectionId.symm
  have htraffic := hsendings.traffic m.channelId
  have hfiltered : m ∈ messages.filter (·.channelId = m.channelId) :=
    List.mem_filter.mpr ⟨hm, decide_eq_true rfl⟩
  obtain ⟨hcreates, -⟩ := Session.call_effect hcall
  obtain ⟨-, result, hr, hdelivered, -⟩ := Session.call_data hcall hown (hok.packetType p hp)
  have hreceipt := Session.receiveData_receipt (s.receiveBase p nowMs) p (s.expectedSequence p)
  rw [hr] at hreceipt
  have hreceived : s'.receivedSequences = insert p.sequence s.receivedSequences :=
    hreceipt.receivedSequences
  have hlog : CallLog.delivered (log ++ [(.receive p nowMs, out)])
      = CallLog.delivered log ++ out.delivered := by
    unfold CallLog.delivered
    rw [List.flatMap_append, List.flatMap_singleton]
  -- what came out, from what `receive` returned
  have hresult : (s.receive p nowMs).1 = result := by
    rw [Session.receive_data nowMs hown (hok.packetType p hp), hr]
  obtain ⟨hcomplete, hopen⟩ := Session.receive_unordered nowMs hok (hmessage m hm).1
    (hmessage m hm).2 hp (h.collects m.channelId m hfiltered) hown
  rw [hresult] at hcomplete hopen
  -- the other messages are as complete as they were
  have hother : ∀ n ∈ messages, n ≠ m → (s'.Has n ↔ s.Has n) := by
    intro n hn hne
    have hnot : p ∉ n.packets := fun hmem => hne (hsendings.disjoint n hn m hm p hmem hp)
    exact Session.has_other (hsendings.traffic n.channelId)
      (List.mem_filter.mpr ⟨hn, decide_eq_true rfl⟩)
      (List.mem_flatMap.mpr ⟨m, hm, hp⟩) hnot hreceived
  have hhas : s'.Has m ↔
      ∀ q ∈ m.packets, q.sequence ∈ insert p.sequence s.receivedSequences := by
    unfold Session.Has
    rw [hreceived]
  have hcollects : ∀ channelId, s'.CollectsAll (messages.filter (·.channelId = channelId)) := by
    intro channelId
    refine Session.call_collects (hsendings.traffic channelId) hcall (fun hc => by cases hc) ?_
      (h.collects channelId)
    intro q hq
    cases hq
    exact List.mem_flatMap.mpr ⟨m, hm, hp⟩
  have hreceived' : ∀ q, q ∈ s'.receivedSequences ↔
      ∃ r, CallLog.Received (log ++ [(.receive p nowMs, out)]) r ∧ r.sequence = q := by
    intro q
    rw [hreceived]
    exact CallLog.mem_insert_iff h.received q
  have hconnection := hcreates.connectionId.trans h.connectionId
  by_cases hnow : p.sequence ∉ s.receivedSequences ∧
      ∀ q ∈ m.packets, q.sequence ∈ insert p.sequence s.receivedSequences
  · -- the packet completes its message
    have hbefore : ¬ s.Has m := fun hall => hnow.1 (hall p hp)
    refine h.delivers hsendings hm hbefore ?_ ?_ hconnection hreceived' hcollects
    · intro n hn
      by_cases hne : n = m
      · rw [hne]
        exact iff_of_true (hhas.mpr hnow.2) (Or.inr rfl)
      · rw [hother n hn hne]
        exact ⟨Or.inl, fun h => h.resolve_right hne⟩
    · rw [hlog, hdelivered, hcomplete hnow]
      rfl
  · -- a duplicate, or a message that stays incomplete
    refine h.waits ?_ ?_ hconnection hreceived' hcollects
    · intro n hn
      by_cases hne : n = m
      · rw [hne, hhas]
        constructor
        · intro hall
          by_cases hnew : p.sequence ∈ s.receivedSequences
          · rw [Finset.insert_eq_of_mem hnew] at hall
            exact hall
          · exact absurd ⟨hnew, hall⟩ hnow
        · exact fun hall q hq => Finset.mem_insert_of_mem (hall q hq)
      · exact hother n hn hne
    · rw [hlog, hdelivered, hopen hnow]
      exact List.append_nil _

theorem receiver_run {messages : List Message} {connectionId : UInt32} {rlog : CallLog}
    {r₀ r : Session} (hsendings : Sendings messages)
    (hmessage : ∀ m ∈ messages, m.ordered = false ∧ m.sequenced = false)
    (hids : ∀ m ∈ messages, ∀ p ∈ m.packets, p.connectionId = connectionId)
    (hid : r₀.connectionId = connectionId) (hreceived : r₀.receivedSequences = ∅)
    (hbuffers : r₀.fragmentBuffers = ∅) (h : Machine.Run Session.call r₀ rlog r)
    (harrive : ∀ entry ∈ rlog, ∃ p nowMs, entry.1 = .receive p nowMs ∧
      ∃ m ∈ messages, p ∈ m.packets) : Receiver messages connectionId rlog r := by
  induction h with
  | nil =>
      have hnot : ∀ m ∈ messages, ¬ r₀.Has m := by
        intro m hm hall
        have hpos := List.length_pos_iff.mpr (hsendings.ok m hm).nonempty
        have hmem := hall _ (List.getElem_mem hpos)
        rw [hreceived] at hmem
        cases hmem
      refine ⟨hid, ?_, ?_, ?_, fun m _ _ => rfl, ?_⟩
      · intro q
        rw [hreceived]
        constructor
        · intro hq
          cases hq
        · rintro ⟨p, ⟨nowMs, out, hmem⟩, -⟩
          cases hmem
      · intro channelId m hm _ _
        refine Session.collects_of_none ?_ ?_
        · rw [hbuffers]
          exact Std.ExtTreeMap.getElem?_empty
        · intro p _ hp
          rw [hreceived] at hp
          cases hp
      · exact fun m hm hall => absurd hall (hnot m hm)
      · intro frame hframe
        cases hframe
  | @snoc log s s' c out _ hcall ih =>
      have hlog := ih fun entry hentry => harrive entry (List.mem_append.mpr (Or.inl hentry))
      obtain ⟨p, nowMs, rfl, m, hm, hp⟩ :=
        harrive (c, out) (List.mem_append.mpr (Or.inr (List.mem_singleton_self _)))
      exact receiver_step hsendings hmessage hlog hm hp (hids m hm p hp) hcall

/-- A message is complete in the session when all of its packets are in the log. -/
theorem Receiver.has_iff {messages : List Message} {connectionId : UInt32} {rlog : CallLog}
    {r : Session} (h : Receiver messages connectionId rlog r) (hsendings : Sendings messages)
    (harrive : ∀ p, rlog.Received p → ∃ m ∈ messages, p ∈ m.packets) {m : Message}
    (hm : m ∈ messages) {p : Packet} (hp : p ∈ m.packets) :
    p.sequence ∈ r.receivedSequences ↔ rlog.Received p := by
  rw [h.received]
  constructor
  · rintro ⟨q, hq, hsame⟩
    obtain ⟨m', hm', hmem⟩ := harrive q hq
    rw [← hsendings.distinct m' hm' m hm q hmem p hp hsame]
    exact hq
  · exact fun hp => ⟨p, hp, rfl⟩

/--
**Fragmentation and reassembly preserve every message.**  At any point of any run of the
receiver, a packet of a message brings out the frame of the message if it is the last one
missing, and nothing otherwise; so each message of which every packet has arrived was
delivered exactly once, and nothing else was delivered.
-/
theorem messages_reassembled {options : SessionOptions} {log : CallLog} {s : Session}
    (hsend : Machine.Run Session.call (Session.new options) log s) {messages : List Message}
    (hsent : ∀ m ∈ messages, m ∈ log.messages)
    (hflags : ∀ m ∈ messages, m.ordered = false ∧ m.sequenced = false)
    (hkeys : ∀ m ∈ messages, ∀ m' ∈ messages, m.Fragmented → m'.Fragmented → m.key = m'.key →
      m = m')
    {r₀ r : Session} (hid : r₀.connectionId = options.connectionId)
    (hreceived : r₀.receivedSequences = ∅) (hbuffers : r₀.fragmentBuffers = ∅)
    {rlog : CallLog} (hreceive : Machine.Run Session.call r₀ rlog r)
    (harrive : ∀ entry ∈ rlog, ∃ p nowMs, entry.1 = .receive p nowMs ∧
      ∃ m ∈ messages, p ∈ m.packets) :
    (∀ m ∈ messages, ∀ p ∈ m.packets, ∀ nowMs,
      ((¬ rlog.Received p ∧ ∀ q ∈ m.packets, q = p ∨ rlog.Received q) →
        (r.receive p nowMs).1 = .ok { delivered := [m.frame] }) ∧
      (¬ (¬ rlog.Received p ∧ ∀ q ∈ m.packets, q = p ∨ rlog.Received q) →
        (r.receive p nowMs).1 = .ok {})) ∧
    (∀ m ∈ messages, (∀ p ∈ m.packets, rlog.Received p) → rlog.delivered.count m.frame = 1) ∧
    (∀ frame ∈ rlog.delivered, ∃ m ∈ messages,
      (∀ p ∈ m.packets, rlog.Received p) ∧ frame = m.frame) := by
  have hnew : (Session.new options).nextFragmentId ≠ 0 := by
    show (1 : UInt16) ≠ 0
    decide
  have hsendings := sendings_of_run hsend hnew hsent hkeys
  have hids : ∀ m ∈ messages, ∀ p ∈ m.packets, p.connectionId = options.connectionId := by
    intro m hm p hp
    exact (numbers_of_run hsend).ids p ((messagesOK_of_run hsend hnew).sublist.subset
      (List.mem_flatMap.mpr ⟨m, hsent m hm, hp⟩))
  have hrun := receiver_run hsendings hflags hids hid hreceived hbuffers hreceive harrive
  have hgenuine : ∀ p, rlog.Received p → ∃ m ∈ messages, p ∈ m.packets := by
    rintro p ⟨nowMs, out, hmem⟩
    obtain ⟨q, _, hq, hin⟩ := harrive _ hmem
    cases hq
    exact hin
  have hiff : ∀ m ∈ messages, ∀ p ∈ m.packets,
      (p.sequence ∈ r.receivedSequences ↔ rlog.Received p) :=
    fun m hm p hp => hrun.has_iff hsendings hgenuine hm hp
  have hhas : ∀ m ∈ messages, (r.Has m ↔ ∀ p ∈ m.packets, rlog.Received p) :=
    fun m hm => forall₂_congr (hiff m hm)
  refine ⟨?_, ?_, ?_⟩
  · intro m hm p hp nowMs
    have hstate : (p.sequence ∉ r.receivedSequences ∧
        ∀ q ∈ m.packets, q.sequence ∈ insert p.sequence r.receivedSequences) ↔
        (¬ rlog.Received p ∧ ∀ q ∈ m.packets, q = p ∨ rlog.Received q) := by
      rw [hiff m hm p hp]
      refine and_congr_right fun _ => forall₂_congr fun q hq => ?_
      rw [Finset.mem_insert, hiff m hm q hq]
      refine or_congr_left ⟨fun hsame => ?_, fun heq => by rw [heq]⟩
      exact hsendings.distinct m hm m hm q hq p hp hsame
    have hdelivery := Session.receive_unordered (s := r) nowMs (hsendings.ok m hm)
      (hflags m hm).1 (hflags m hm).2 hp
      (hrun.collects m.channelId m (List.mem_filter.mpr ⟨hm, decide_eq_true rfl⟩))
      ((hids m hm p hp).trans hrun.connectionId.symm)
    rw [hstate] at hdelivery
    exact hdelivery
  · exact fun m hm hall => hrun.once m hm ((hhas m hm).mpr hall)
  · intro frame hframe
    obtain ⟨m, hm, hall, heq⟩ := hrun.genuine frame hframe
    exact ⟨m, hm, (hhas m hm).mp hall, heq⟩

/-- Three bytes in fragments of at most two. -/
def mediaMessage : Message where
  channelId := "media"
  payload := [10, 20, 30]
  ordered := false
  sequenced := false
  packets := [mediaFragment 1 0 [10, 20], mediaFragment 2 1 [30]]
where
  /-- A fragment of the message. -/
  mediaFragment (sequence : UInt32) (fragmentIndex : UInt16) (payload : List UInt8) : Packet := {
    packetType := .data
    connectionId := 0
    sequence
    ack := 0
    ackMask := 0
    channelId := "media"
    reliable := false
    ordered := false
    sequenced := false
    fragmentId := 1
    fragmentIndex
    fragmentCount := 2
    payload
  }

/-- The second fragment, the first, and the second again. -/
theorem messages_reassembled_media :
    ∃ (rlog : CallLog) (r : Session), Machine.Run Session.call (Session.new {}) rlog r ∧
      rlog.delivered.count mediaMessage.frame = 1 := by
  have hsender : ((Machine.exec Session.call (Session.new {})
      [.assumeConnected 0, .sendMany "media" [10, 20, 30] {} (some 2)]).any fun r =>
      decide (mediaMessage ∈ CallLog.messages r.1)) = true := by decide +kernel
  have hreceiver : ((Machine.exec Session.call (Session.new {})
      [.receive (mediaMessage.mediaFragment 2 1 [30]) 0,
        .receive (mediaMessage.mediaFragment 1 0 [10, 20]) 0,
        .receive (mediaMessage.mediaFragment 2 1 [30]) 0]).any fun _ => true) = true := by
    decide +kernel
  obtain ⟨log, s, hsend, -, hsent⟩ := Machine.Run.of_exec_any hsender
  obtain ⟨rlog, r, hreceive, hinputs, -⟩ := Machine.Run.of_exec_any hreceiver
  have hin : ∀ m ∈ [mediaMessage], m = mediaMessage := fun m hm => List.mem_singleton.mp hm
  have hentry : ∀ entry ∈ rlog, ∃ p nowMs, entry.1 = .receive p nowMs ∧
      p ∈ mediaMessage.packets := by
    intro entry hmem
    have hinput : entry.1 ∈ rlog.map Prod.fst := List.mem_map_of_mem hmem
    rw [hinputs] at hinput
    simp only [List.mem_cons, List.not_mem_nil, or_false] at hinput
    rcases hinput with h | h | h
    · exact ⟨_, _, h, by decide⟩
    · exact ⟨_, _, h, by decide⟩
    · exact ⟨_, _, h, by decide⟩
  have hmessages : ∀ m ∈ [mediaMessage], m ∈ CallLog.messages log := by
    intro m hm
    rw [hin m hm]
    exact of_decide_eq_true hsent
  refine ⟨rlog, r, hreceive, ?_⟩
  refine (messages_reassembled hsend hmessages ?_ ?_ rfl rfl rfl hreceive ?_).2.1
    mediaMessage (List.mem_singleton_self _) ?_
  · intro m hm
    rw [hin m hm]
    exact ⟨rfl, rfl⟩
  · intro m hm m' hm' _ _ _
    rw [hin m hm, hin m' hm']
  · intro entry hmem
    obtain ⟨p, nowMs, hcall, hp⟩ := hentry entry hmem
    exact ⟨p, nowMs, hcall, mediaMessage, List.mem_singleton_self _, hp⟩
  · intro p hp
    have hcall : ∃ nowMs, Call.receive p nowMs ∈ rlog.map Prod.fst := by
      rw [hinputs]
      simp only [mediaMessage, List.mem_cons, List.not_mem_nil, or_false] at hp
      rcases hp with rfl | rfl
      · exact ⟨0, by simp⟩
      · exact ⟨0, by simp⟩
    obtain ⟨nowMs, hmem⟩ := hcall
    obtain ⟨⟨c, out⟩, hentry, hc⟩ := List.mem_map.mp hmem
    exact ⟨nowMs, out, by rw [← hc]; exact hentry⟩

end CultNet.Rudp
