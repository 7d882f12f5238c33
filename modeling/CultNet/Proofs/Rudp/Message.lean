/-
What a session sends.

Along any run of a session the packets it creates are numbered without a gap,
and every message is well formed: its packets carry consecutive numbers and the
flags it was sent with, its fragments say which of how many they are, and their
payloads laid end to end are the payload of the message.
-/
import CultNet.Proofs.Rudp.Calls
import CultNet.Rudp.Message

namespace CultNet.Rudp

open Session (divCeil)

/-- What holds of every message a session sends. -/
structure Message.OK (m : Message) : Prop where
  nonempty : m.packets ≠ []
  length_le : m.packets.length ≤ u16Max
  sequence : ∀ (i : Nat) (p : Packet), m.packets[i]? = some p →
    p.sequence.toNat = m.first.toNat + i
  packetType : ∀ p ∈ m.packets, p.packetType = .data
  channel : ∀ p ∈ m.packets, p.channelId = m.channelId
  ordered : ∀ p ∈ m.packets, p.ordered = m.ordered
  sequenced : ∀ p ∈ m.packets, p.sequenced = m.sequenced
  whole : ¬ m.Fragmented → ∀ p ∈ m.packets, p.fragmentCount = 0
  fragmentId : m.Fragmented → m.fragmentId ≠ 0
  fragments : m.Fragmented → ∀ (i : Nat) (p : Packet), m.packets[i]? = some p →
    p.fragmentId = m.fragmentId ∧ p.fragmentIndex = UInt16.ofNat i ∧
      p.fragmentCount = UInt16.ofNat m.packets.length
  payload : m.packets.flatMap (·.payload) = m.payload

/-! ### Slicing a payload -/

theorem slice_min (payload : List UInt8) (start size : Nat) :
    slice payload start (min (start + size) payload.length) = (payload.drop start).take size := by
  unfold slice
  rw [List.take_eq_take_iff, List.length_drop]
  omega

/-- The first `n` chunks are the first `n * size` bytes. -/
theorem flatMap_slices (payload : List UInt8) (size : Nat) : ∀ n : Nat,
    (List.range n).flatMap (fun i =>
      slice payload (i * size) (min (i * size + size) payload.length))
      = payload.take (n * size) := by
  intro n
  induction n with
  | zero => simp
  | succ n ih =>
      rw [List.range_succ, List.flatMap_append, ih, List.flatMap_singleton, slice_min,
        ← List.take_add, Nat.succ_mul]

theorem le_divCeil_mul {length size : Nat} (h : 0 < size) : length ≤ divCeil length size * size := by
  unfold divCeil
  have hdiv := Nat.div_add_mod (length + size - 1) size
  have hmod := Nat.mod_lt (length + size - 1) h
  rw [Nat.mul_comm] at hdiv
  omega

/-! ### One message -/

/-- Consecutively numbered packets, by their places. -/
theorem sequence_of_numbers {s s' : Session} {packets : List Packet}
    (h : s.Numbers s' packets) {i : Nat} {p : Packet} (hp : packets[i]? = some p) :
    p.sequence.toNat = s.nextSequence.toNat + i := by
  have hget := congrArg (fun l => l[i]?) h.sequences
  obtain ⟨hi, rfl⟩ := List.getElem?_eq_some_iff.mp hp
  rw [List.getElem?_map, hp, List.getElem?_range' hi] at hget
  simpa using hget

theorem first_of_numbers {s s' : Session} {m : Message} (h : s.Numbers s' m.packets)
    (hne : m.packets ≠ []) : m.first = s.nextSequence := by
  unfold Message.first
  cases hpackets : m.packets with
  | nil => exact absurd hpackets hne
  | cons p rest =>
      have hp : m.packets[0]? = some p := by rw [hpackets]; rfl
      exact UInt32.toNat_inj.mp (sequence_of_numbers h hp)

/-- A payload that travels in one packet. -/
theorem whole_ok {s s' : Session} {channelId : String} {payload : List UInt8}
    {options : SendOptions} {p : Packet} (hwhole : Session.IsWhole channelId payload options p)
    (hnumbers : s.Numbers s' [p]) :
    Message.OK {
      channelId, payload, ordered := options.ordered, sequenced := options.sequenced
      packets := [p] } := by
  have hfragmented : ¬ Message.Fragmented {
      channelId, payload, ordered := options.ordered, sequenced := options.sequenced
      packets := [p] } := by
    unfold Message.Fragmented
    simp
  refine ⟨by simp, by simp, ?_, ?_, ?_, ?_, ?_, ?_, fun h => absurd h hfragmented,
    fun h => absurd h hfragmented, ?_⟩
  · intro i q hq
    rw [first_of_numbers hnumbers (by simp)]
    exact sequence_of_numbers hnumbers hq
  · intro q hq
    rw [List.mem_singleton.mp hq]
    exact hwhole.packetType
  · intro q hq
    rw [List.mem_singleton.mp hq]
    exact hwhole.channel
  · intro q hq
    rw [List.mem_singleton.mp hq]
    exact hwhole.ordered
  · intro q hq
    rw [List.mem_singleton.mp hq]
    exact hwhole.sequenced
  · intro _ q hq
    rw [List.mem_singleton.mp hq]
    exact hwhole.fragmentCount
  · rw [List.flatMap_singleton]
    exact hwhole.payload

/-- The chunks of the fragments, joined, are the payload. -/
theorem fragments_payload {channelId : String} {payload : List UInt8} {options : SendOptions}
    {limit : Nat} {fragmentId : UInt16} {packets : List Packet} (hpos : 0 < limit)
    (hlength : packets.length = divCeil payload.length limit)
    (hfragment : ∀ (i : Nat) (p : Packet), packets[i]? = some p →
      Session.IsFragment channelId payload options limit fragmentId
        (divCeil payload.length limit) i p) :
    packets.flatMap (·.payload) = payload := by
  have hpayloads : packets.map (·.payload)
      = (List.range (divCeil payload.length limit)).map (fun i =>
        slice payload (i * limit) (min (i * limit + limit) payload.length)) := by
    refine List.ext_getElem? fun i => ?_
    rw [List.getElem?_map, List.getElem?_map]
    cases hp : packets[i]? with
    | none =>
        have hge := List.getElem?_eq_none_iff.mp hp
        rw [List.getElem?_eq_none_iff.mpr (by rw [List.length_range]; omega)]
        rfl
    | some p =>
        obtain ⟨hi, -⟩ := List.getElem?_eq_some_iff.mp hp
        rw [List.getElem?_range (by omega)]
        exact congrArg some (hfragment i p hp).payload
  rw [List.flatMap_def, hpayloads, ← List.flatMap_def, flatMap_slices]
  exact List.take_of_length_le (le_divCeil_mul hpos)

/-- **What a successful `send_many` sent is a well-formed message.** -/
theorem message_ok {s s' : Session} {channelId : String} {payload : List UInt8}
    {options : SendOptions} {maxFragmentBytes : Option Nat} {packets : List Packet}
    (hsent : s.Sent channelId payload options maxFragmentBytes packets)
    (hnumbers : s.Numbers s' packets) (hid : s.nextFragmentId ≠ 0) :
    Message.OK {
      channelId, payload, ordered := options.ordered, sequenced := options.sequenced, packets } := by
  cases hsent with
  | whole p hpackets hwhole =>
      subst hpackets
      exact whole_ok hwhole hnumbers
  | fragments limit hlimit hpos hlong hcount hshape =>
      have hlength : packets.length = divCeil payload.length limit := by
        rw [← hshape.length_eq, List.length_range]
      have htwo := Session.two_le_divCeil hpos hlong
      have hne : packets ≠ [] := by
        rintro rfl
        rw [List.length_nil] at hlength
        omega
      have hfragment : ∀ (i : Nat) (p : Packet), packets[i]? = some p →
          Session.IsFragment channelId payload options limit s.nextFragmentId
            (divCeil payload.length limit) i p := by
        intro i p hp
        obtain ⟨hi, rfl⟩ := List.getElem?_eq_some_iff.mp hp
        have hget := hshape.get (hshape.length_eq ▸ hi) hi
        simpa using hget
      have hmem : ∀ p ∈ packets, ∃ i, Session.IsFragment channelId payload options limit
          s.nextFragmentId (divCeil payload.length limit) i p := by
        intro p hp
        obtain ⟨i, hi⟩ := List.mem_iff_getElem?.mp hp
        exact ⟨i, hfragment i p hi⟩
      have hheadId : ((packets.head?.map (·.fragmentId)).getD 0) = s.nextFragmentId := by
        cases packets with
        | nil => exact absurd rfl hne
        | cons p rest => exact (hfragment 0 p rfl).fragmentId
      refine ⟨hne, by rw [hlength]; exact hcount, ?_, ?_, ?_, ?_, ?_, ?_, ?_, ?_, ?_⟩
      · intro i p hp
        rw [first_of_numbers hnumbers hne]
        exact sequence_of_numbers hnumbers hp
      · intro p hp
        obtain ⟨i, hi⟩ := hmem p hp
        exact hi.packetType
      · intro p hp
        obtain ⟨i, hi⟩ := hmem p hp
        exact hi.channel
      · intro p hp
        obtain ⟨i, hi⟩ := hmem p hp
        exact hi.ordered
      · intro p hp
        obtain ⟨i, hi⟩ := hmem p hp
        exact hi.sequenced
      · intro hfragmented
        have hmany : 2 ≤ packets.length := by omega
        exact absurd hmany hfragmented
      · intro _
        show ((packets.head?.map (·.fragmentId)).getD 0) ≠ 0
        rw [hheadId]
        exact hid
      · intro _ i p hp
        have hi := hfragment i p hp
        refine ⟨?_, hi.fragmentIndex, ?_⟩
        · show p.fragmentId = ((packets.head?.map (·.fragmentId)).getD 0)
          rw [hheadId]
          exact hi.fragmentId
        · show p.fragmentCount = UInt16.ofNat packets.length
          rw [hlength]
          exact hi.fragmentCount
      · exact fragments_payload hpos hlength hfragment

/-! ### The messages of a call -/

namespace Session

theorem createPacketWithFragments_type {s s' : Session} {t : PacketType} {c : String}
    {payload : List UInt8} {r o q : Bool} {fid fidx fcount : UInt16} {p : Packet}
    (h : s.createPacketWithFragments t c payload r o q fid fidx fcount = (.ok p, s')) :
    p.packetType = t := by
  obtain ⟨-, -, rfl⟩ := createPacketWithFragments_ok h
  rfl

/-- The only packet `receive` creates is a Pong. -/
theorem receive_reply {s s' : Session} {packet reply : Packet} {nowMs : Nat}
    {result : ReceiveResult} (h : s.receive packet nowMs = (.ok result, s'))
    (hreply : result.reply = some reply) : reply.packetType = .pong := by
  by_cases hid : packet.connectionId = s.connectionId
  · by_cases htype : packet.packetType = .data
    · rw [receive_data nowMs hid htype] at h
      unfold receiveData at h
      dsimp only at h
      repeat' split at h
      all_goals first | (cases h; cases hreply) | cases h
    · unfold receive at h
      rw [requireConnection_ok.mpr hid] at h
      dsimp only at h
      split at h
      all_goals first | (cases h; cases hreply) | skip
      · split at h
        · cases h
        · rename_i hcreate
          cases h
          cases hreply
          exact createPacketWithFragments_type hcreate
      · rename_i ht
        exact absurd ht htype
  · obtain ⟨message, hr⟩ := receive_foreign nowMs hid
    rw [hr] at h
    cases h

/-- The message of a call is well formed and is made of the packets the call created. -/
theorem call_message {s s' : Session} {c : Call} {out : Output} {m : Message}
    (h : s.call c = some (out, s')) (hid : s.nextFragmentId ≠ 0)
    (hmessage : c.message? out = some m) : m.OK ∧ m.packets = out.created := by
  cases c with
  | send channelId payload options =>
      simp only [Call.message?] at hmessage
      split at hmessage
      · cases hmessage
      · rename_i hcreated
        cases hmessage
        rcases toStep_eq_some h with ⟨p, hr, rfl⟩ | ⟨message, hr, rfl⟩
        · obtain ⟨hsent, hcreates, -⟩ := sendMany_ok (send_ok hr)
          exact ⟨message_ok hsent hcreates.toNumbers hid, rfl⟩
        · exact absurd rfl hcreated
  | sendMany channelId payload options maxFragmentBytes =>
      simp only [Call.message?] at hmessage
      split at hmessage
      · cases hmessage
      · rename_i hcreated
        cases hmessage
        rcases toStep_eq_some h with ⟨p, hr, rfl⟩ | ⟨message, hr, rfl⟩
        · obtain ⟨hsent, hcreates, -⟩ := sendMany_ok hr
          exact ⟨message_ok hsent hcreates.toNumbers hid, rfl⟩
        · exact absurd rfl hcreated
  | _ => cases hmessage

/-- A Data packet is created as part of a message only. -/
theorem call_data_message {s s' : Session} {c : Call} {out : Output} {p : Packet}
    (h : s.call c = some (out, s')) (hp : p ∈ out.created) (htype : p.packetType = .data) :
    ∃ m, c.message? out = some m := by
  have hcontrol : ∀ {t : PacketType} {payload : List UInt8} {u : Session}, t ≠ .data →
      toStep (fun packet => { created := [packet] })
        (u.createPacket t "control" payload false false false) = some (out, s') → False := by
    intro t payload u ht hstep
    rcases toStep_eq_some hstep with ⟨q, hr, rfl⟩ | ⟨message, hr, rfl⟩
    · rw [List.mem_singleton.mp hp] at htype
      exact ht ((createPacketWithFragments_type hr).symm.trans htype)
    · cases hp
  cases c with
  | createConnect nowMs payload =>
      rcases toStep_eq_some h with ⟨q, hr, rfl⟩ | ⟨message, hr, rfl⟩
      · obtain ⟨hconnect, -, -⟩ := createConnect_ok hr
        rw [List.mem_singleton.mp hp, hconnect] at htype
        cases htype
      · cases hp
  | acceptConnect packet nowMs payload =>
      rcases toStep_eq_some h with ⟨q, hr, rfl⟩ | ⟨message, hr, rfl⟩
      · obtain ⟨-, -, haccept, -, -⟩ := acceptConnect_ok hr
        rw [List.mem_singleton.mp hp, haccept] at htype
        cases htype
      · cases hp
  | resetPeerState => cases h; cases hp
  | assumeConnected nowMs => cases h; cases hp
  | send channelId payload options =>
      have hne : out.created ≠ [] := List.ne_nil_of_mem hp
      exact ⟨_, if_neg hne⟩
  | sendMany channelId payload options maxFragmentBytes =>
      have hne : out.created ≠ [] := List.ne_nil_of_mem hp
      exact ⟨_, if_neg hne⟩
  | receive packet nowMs =>
      rcases toStep_eq_some h with ⟨result, hr, rfl⟩ | ⟨message, hr, rfl⟩
      · rw [receive_reply hr (Option.mem_toList.mp hp)] at htype
        cases htype
      · cases hp
  | createAck => exact (hcontrol (by decide) h).elim
  | createPing payload => exact (hcontrol (by decide) h).elim
  | createDisconnect reason => exact (hcontrol (by decide) h).elim
  | checkTimeout nowMs timeoutMs => cases h; cases hp
  | dueResends nowMs => cases h; cases hp

end Session

/-! ### The messages of a run -/

section

variable {s₀ s : Session} {log : CallLog}

theorem CallLog.created_append (log log' : CallLog) :
    CallLog.created (log ++ log') = log.created ++ log'.created := List.flatMap_append

theorem CallLog.messages_append (log log' : CallLog) :
    CallLog.messages (log ++ log') = log.messages ++ log'.messages := List.filterMap_append

theorem CallLog.messages_singleton (c : Call) (out : Output) :
    CallLog.messages [(c, out)] = (c.message? out).toList := by
  unfold CallLog.messages
  cases h : c.message? out with
  | none => simp [h]
  | some m => simp [h]

/-- Whatever a run created is numbered consecutively. -/
theorem numbers_of_run (h : Machine.Run Session.call s₀ log s) : s₀.Numbers s log.created := by
  induction h with
  | nil => exact Session.Numbers.refl s₀
  | snoc _ hcall ih =>
      obtain ⟨hcreates, -⟩ := Session.call_effect hcall
      rw [CallLog.created_append]
      have hlast := ih.trans hcreates.toNumbers
      simpa [CallLog.created] using hlast

/-- What a run tells of its messages. -/
structure MessagesOK (log : CallLog) : Prop where
  ok : ∀ m ∈ log.messages, m.OK
  /-- The packets of the messages are created packets, message after message. -/
  sublist : (log.messages.flatMap (·.packets)).Sublist log.created
  data : ∀ p ∈ log.created, p.packetType = .data → ∃ m ∈ log.messages, p ∈ m.packets

theorem messagesOK_of_run (h : Machine.Run Session.call s₀ log s)
    (hid : s₀.nextFragmentId ≠ 0) : MessagesOK log := by
  induction h with
  | nil =>
      refine ⟨?_, List.Sublist.refl _, ?_⟩
      · intro m hm; cases hm
      · intro p hp; cases hp
  | @snoc log s s' c out hrun hcall ih =>
      have hid' : s.nextFragmentId ≠ 0 := (numbers_of_run hrun).fragmentIds hid
      have hcreated : CallLog.created (log ++ [(c, out)])
          = CallLog.created log ++ out.created := by
        rw [CallLog.created_append]
        simp [CallLog.created]
      have hmessages : CallLog.messages (log ++ [(c, out)])
          = CallLog.messages log ++ (c.message? out).toList := by
        rw [CallLog.messages_append, CallLog.messages_singleton]
      refine ⟨?_, ?_, ?_⟩
      · intro m hm
        rw [hmessages] at hm
        rcases List.mem_append.mp hm with hm | hm
        · exact ih.ok m hm
        · exact (Session.call_message hcall hid' (Option.mem_toList.mp hm)).1
      · rw [hmessages, hcreated, List.flatMap_append]
        refine List.Sublist.append ih.sublist ?_
        cases hm : c.message? out with
        | none => exact List.nil_sublist _
        | some m =>
            obtain ⟨-, hpackets⟩ := Session.call_message hcall hid' hm
            rw [Option.toList_some, List.flatMap_singleton, hpackets]
      · intro p hp htype
        rw [hcreated] at hp
        rw [hmessages]
        rcases List.mem_append.mp hp with hp | hp
        · obtain ⟨m, hm, hmem⟩ := ih.data p hp htype
          exact ⟨m, List.mem_append.mpr (Or.inl hm), hmem⟩
        · obtain ⟨m, hm⟩ := Session.call_data_message hcall hp htype
          obtain ⟨-, hpackets⟩ := Session.call_message hcall hid' hm
          rw [hm]
          exact ⟨m, List.mem_append.mpr (Or.inr (by simp)), by rw [hpackets]; exact hp⟩

/-- No two created packets share a number. -/
theorem nodup_of_numbers {packets : List Packet} (h : s₀.Numbers s packets) :
    (packets.map (·.sequence)).Nodup := by
  have hnat : ((packets.map (·.sequence)).map UInt32.toNat).Nodup := by
    rw [List.map_map]
    show (packets.map fun p => p.sequence.toNat).Nodup
    rw [h.sequences]
    exact List.nodup_range'
  exact hnat.of_map

end

end CultNet.Rudp
