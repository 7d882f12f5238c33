/-
A bounded session never has more pending than its limit.

`ensure_reliable_capacity` is asked before a packet is created, `track_reliable`
enters it after, once per fragment.  That the two agree needs three things: a send
asks for as many places as it enters packets, nothing but the handshake and the
sends enters any, and what is asked for is not created where it is refused.  Each
packet is numbered before it is entered, so the entries stand below the counter.
-/
import CultNet.Lib.Fallible
import CultNet.Proofs.Rudp.Pending

namespace CultNet.Rudp

open Std (ExtTreeMap)

/-- Entering packets takes at most one place for each reliable one. -/
theorem SendOptions.size_enter_le (options : SendOptions) (packets : List Packet) :
    ∀ pending : PendingMap, (options.enter pending packets).size ≤
      pending.size + packets.countP Packet.reliable := by
  induction packets with
  | nil => intro pending; exact Nat.le_refl _
  | cons p rest ih =>
      intro pending
      have htail := ih (if p.reliable then pending.insert p.sequence (options.entry p) else pending)
      rw [List.countP_cons]
      show (options.enter (if p.reliable then _ else pending) rest).size ≤ _
      cases hp : p.reliable with
      | false =>
          rw [hp] at htail
          exact htail
      | true =>
          rw [hp] at htail
          have hinsert : (pending.insert p.sequence (options.entry p)).size ≤ pending.size + 1 :=
            ExtTreeMap.size_insert_le
          simp only [if_true] at htail ⊢
          omega

/-- What a refused call leaves of the sending and the receiving half: all but what it has
purged. -/
structure Untouched (s : Session) (c : Call) (s' : Session) : Prop where
  nextSequence : s'.nextSequence = s.nextSequence
  nextFragmentId : s'.nextFragmentId = s.nextFragmentId
  inbound : s'.inbound = s.inbound
  lastReceivedAtMs : s'.lastReceivedAtMs = s.lastReceivedAtMs
  connected : s'.connected = s.connected
  pending : ∀ k : UInt32, s'.pendingReliable[k]? =
    if k ∈ s.expiredBy c then none else s.pendingReliable[k]?

namespace Session

/-! ### Room -/

/-- A session with a limit lets through what it has room for. -/
theorem room_of_capacity {s : Session} {limit count : Nat}
    (hlimit : s.maxPendingReliablePackets = some limit)
    (h : s.ensureReliableCapacity count = .ok ()) :
    count = 0 ∨ s.pendingReliable.size + count ≤ limit := by
  unfold ensureReliableCapacity at h
  by_cases hcount : count = 0
  · exact Or.inl hcount
  · rw [if_neg hcount, hlimit] at h
    dsimp only at h
    split at h
    · cases h
    · rename_i hroom
      exact Or.inr (Nat.le_of_not_lt hroom)

/-- What is asked for in `send_many` covers what it enters. -/
theorem room_of_asked {s : Session} {options : SendOptions} {limit count : Nat}
    {packets : List Packet} (hlimit : s.maxPendingReliablePackets = some limit)
    (h : s.ensureReliableCapacity (if options.reliable then count else 0) = .ok ())
    (hlength : packets.length = count)
    (hreliable : ∀ p ∈ packets, p.reliable = options.reliable)
    (hsize : s.pendingReliable.size ≤ limit) :
    s.pendingReliable.size + packets.countP Packet.reliable ≤ limit := by
  cases hopt : options.reliable with
  | false =>
      have hnone : packets.countP Packet.reliable = 0 := by
        rw [List.countP_eq_zero]
        intro p hp
        rw [hreliable p hp, hopt]
        exact Bool.false_ne_true
      omega
  | true =>
      have hle : packets.countP Packet.reliable ≤ packets.length := List.countP_le_length
      rw [hopt, if_pos rfl] at h
      rcases room_of_capacity hlimit h with hzero | hroom
      · omega
      · omega

theorem room_of_sendWhole {s s' : Session} {channelId : String} {payload : List UInt8}
    {options : SendOptions} {packets : List Packet} {limit : Nat}
    (hlimit : s.maxPendingReliablePackets = some limit) (hsize : s.pendingReliable.size ≤ limit)
    (h : s.sendWhole channelId payload options = (.ok packets, s')) :
    s.pendingReliable.size + packets.countP Packet.reliable ≤ limit := by
  obtain ⟨p, rfl, hwhole, -, -⟩ := sendWhole_ok h
  unfold sendWhole at h
  split at h
  · cases h
  · rename_i hasked
    refine room_of_asked hlimit hasked rfl ?_ hsize
    intro q hq
    rw [List.mem_singleton.mp hq]
    exact hwhole.reliable

theorem room_of_sendFragmented {s s' : Session} {channelId : String} {payload : List UInt8}
    {options : SendOptions} {maxFragmentBytes limit : Nat} {packets : List Packet}
    (hlimit : s.maxPendingReliablePackets = some limit) (hsize : s.pendingReliable.size ≤ limit)
    (h : s.sendFragmented channelId payload options maxFragmentBytes = (.ok packets, s')) :
    s.pendingReliable.size + packets.countP Packet.reliable ≤ limit := by
  obtain ⟨-, hshape, -, -⟩ := sendFragmented_ok h
  unfold sendFragmented at h
  dsimp only at h
  split at h
  · cases h
  · split at h
    · cases h
    · rename_i hasked
      refine room_of_asked hlimit hasked ?_ ?_ hsize
      · rw [← hshape.length_eq, List.length_range]
      · intro p hp
        obtain ⟨_, -, hfragment⟩ := Fallible.exists_mem_of_forall₂ hshape p hp
        exact hfragment.reliable

theorem size_livePending_le (s : Session) (nowMs : Nat) :
    (s.livePending nowMs).size ≤ s.pendingReliable.size := ExtTreeMap.size_filter_le_size

theorem room_of_sendMany {s s' : Session} {channelId : String} {payload : List UInt8}
    {options : SendOptions} {maxFragmentBytes : Option Nat} {packets : List Packet} {limit : Nat}
    (hlimit : s.maxPendingReliablePackets = some limit) (hsize : s.pendingReliable.size ≤ limit)
    (h : s.sendMany channelId payload options maxFragmentBytes = (.ok packets, s')) :
    (s.livePending options.nowMs).size + packets.countP Packet.reliable ≤ limit := by
  have hpurged : (s.purgeExpiredReliable options.nowMs).pendingReliable.size ≤ limit :=
    (size_livePending_le s options.nowMs).trans hsize
  have hup := (sendMany_enters h).1
  unfold sendMany at h
  rw [hup] at h
  simp only [Bool.not_true, Bool.false_eq_true, if_false] at h
  split at h
  · split at h
    · cases h
    · split at h
      · exact room_of_sendFragmented (s := s.purgeExpiredReliable options.nowMs) hlimit hpurged h
      · exact room_of_sendWhole (s := s.purgeExpiredReliable options.nowMs) hlimit hpurged h
  · exact room_of_sendWhole (s := s.purgeExpiredReliable options.nowMs) hlimit hpurged h

/-! ### One step -/

/-- Every pending packet stands under its own number, below the counter. -/
def Numbered (s : Session) : Prop := ∀ k p, s.Pending k p → p.sequence = k ∧ k < s.nextSequence

/-- The pending packets of a session with a limit. -/
structure Bounded (limit : Nat) (s : Session) : Prop where
  configured : s.maxPendingReliablePackets = some limit
  size : s.pendingReliable.size ≤ limit
  numbered : Numbered s

/-- A created packet stands between the counters. -/
theorem Numbers.lt_nextSequence {s s' : Session} {created : List Packet}
    (h : Numbers s s' created) {p : Packet} (hp : p ∈ created) : p.sequence < s'.nextSequence := by
  have hmem : p.sequence.toNat ∈ created.map fun q => q.sequence.toNat :=
    List.mem_map.mpr ⟨p, hp, rfl⟩
  rw [h.sequences, List.mem_range'_1] at hmem
  rw [UInt32.lt_iff_toNat_lt, h.nextSequence]
  exact hmem.2

theorem Numbers.nextSequence_le {s s' : Session} {created : List Packet}
    (h : Numbers s s' created) {p : Packet} (hp : p ∈ created) : s.nextSequence ≤ p.sequence := by
  have hmem : p.sequence.toNat ∈ created.map fun q => q.sequence.toNat :=
    List.mem_map.mpr ⟨p, hp, rfl⟩
  rw [h.sequences, List.mem_range'_1] at hmem
  exact UInt32.le_iff_toNat_le.mpr hmem.1

theorem numbered_new (options : SessionOptions) : Numbered (Session.new options) := by
  rintro k p ⟨v, hv, -⟩
  simp [Session.new] at hv

theorem Numbered.step {s s' : Session} {c : Call} {out : Output} (hs : Numbered s)
    (h : s.call c = some (out, s')) : Numbered s' := by
  intro k p hp
  have hcreates := (call_effect h).1
  rcases hcreates.pending k p hp with hold | ⟨hmem, rfl⟩
  · obtain ⟨hk, hlt⟩ := hs k p hold
    refine ⟨hk, ?_⟩
    rw [UInt32.lt_iff_toNat_lt] at hlt ⊢
    rw [hcreates.nextSequence]
    omega
  · exact ⟨rfl, hcreates.toNumbers.lt_nextSequence hmem⟩

/-- Acknowledgements only take entries out. -/
theorem size_applyAcknowledgements_le (s : Session) (packet : Packet) :
    (s.applyAcknowledgements packet).pendingReliable.size ≤ s.pendingReliable.size := by
  have hfold (bits : List Nat) : ∀ pending : PendingMap,
      (bits.foldl (fun pending bit =>
        if packet.ackMask &&& (1 <<< UInt32.ofNat bit) ≠ 0 ∧ UInt32.ofNat bit < packet.ack then
          pending.erase (packet.ack - UInt32.ofNat bit - 1)
        else pending) pending).size ≤ pending.size := by
    induction bits with
    | nil => intro pending; exact Nat.le_refl _
    | cons bit rest ih =>
        intro pending
        refine (ih _).trans ?_
        dsimp only
        split
        · exact ExtTreeMap.size_erase_le
        · exact Nat.le_refl _
  exact (hfold _ _).trans ExtTreeMap.size_erase_le

theorem size_dueResends_le (s : Session) (nowMs : Nat) :
    (s.dueResends nowMs).2.pendingReliable.size ≤ s.pendingReliable.size := by
  refine le_trans (le_of_eq ?_) (size_livePending_le s nowMs)
  exact ExtTreeMap.size_map

theorem Bounded.size_sendMany {s s' : Session} {limit : Nat} {channelId : String}
    {payload : List UInt8} {options : SendOptions} {maxFragmentBytes : Option Nat} {out : Output}
    (hs : Bounded limit s)
    (h : s.call (.sendMany channelId payload options maxFragmentBytes) = some (out, s')) :
    (s.pendingAfter out.created (.sendMany channelId payload options maxFragmentBytes)).size
      ≤ limit := by
  simp only [pendingAfter]
  split
  · refine (options.size_enter_le _ _).trans ?_
    rcases toStep_eq_some h with ⟨packets, hr, rfl⟩ | ⟨message, hr, rfl⟩
    · exact room_of_sendMany hs.configured hs.size hr
    · exact (size_livePending_le s options.nowMs).trans hs.size
  · exact hs.size

theorem Bounded.size_step {s s' : Session} {limit : Nat} {c : Call} {out : Output}
    (hs : Bounded limit s) (h : s.call c = some (out, s')) :
    s'.pendingReliable.size ≤ limit := by
  have hsize := hs.size
  rw [(call_pends h).pending]
  cases c with
  | createConnect nowMs payload =>
      refine ((handshakeOptions nowMs).size_enter_le _ _).trans ?_
      rcases toStep_eq_some h with ⟨p, hr, rfl⟩ | ⟨message, hr, rfl⟩
      · unfold createConnect at hr
        split at hr
        · cases hr
        · rename_i hasked
          have hroom := (room_of_capacity hs.configured hasked).resolve_left (by omega)
          have hone : [p].countP Packet.reliable ≤ 1 := List.countP_le_length
          show _ + [p].countP Packet.reliable ≤ limit
          omega
      · exact hsize
  | acceptConnect packet nowMs payload =>
      cases hup : s.connected with
      | true => rwa [pendingAfter, if_pos hup]
      | false =>
          rw [pendingAfter, hup, if_neg Bool.false_ne_true]
          refine ((handshakeOptions nowMs).size_enter_le _ _).trans ?_
          rcases toStep_eq_some h with ⟨p, hr, rfl⟩ | ⟨message, hr, rfl⟩
          · unfold acceptConnect at hr
            split at hr
            · cases hr
            · split at hr
              · cases hr
              · dsimp only at hr
                split at hr
                · cases hr
                · rename_i hasked
                  rw [hup, if_neg Bool.false_ne_true] at hasked
                  have hroom := (room_of_capacity hs.configured hasked).resolve_left (by omega)
                  have hone : [p].countP Packet.reliable ≤ 1 := List.countP_le_length
                  show _ + [p].countP Packet.reliable ≤ limit
                  omega
          · exact hsize
  | send channelId payload options => exact hs.size_sendMany (call_send h)
  | sendMany channelId payload options maxFragmentBytes => exact hs.size_sendMany h
  | receive packet nowMs =>
      simp only [pendingAfter]
      split
      · exact (size_applyAcknowledgements_le s packet).trans hsize
      · exact hsize
  | resetPeerState => exact Nat.zero_le limit
  | dueResends nowMs => exact (size_dueResends_le s nowMs).trans hsize
  | _ => exact hsize

theorem bounded_new {options : SessionOptions} {limit : Nat}
    (h : options.maxPendingReliablePackets = some limit) : Bounded limit (Session.new options) where
  configured := h
  size := Nat.zero_le limit
  numbered := numbered_new options

theorem Bounded.step {s s' : Session} {limit : Nat} {c : Call} {out : Output}
    (hs : Bounded limit s) (h : s.call c = some (out, s')) : Bounded limit s' where
  configured := (call_effect h).1.limit.trans hs.configured
  size := hs.size_step h
  numbered := hs.numbered.step h

/-! ### Refused calls -/

theorem getElem?_livePending (s : Session) (nowMs : Nat) (k : UInt32) :
    (s.livePending nowMs)[k]? = if k ∈ s.expiredAt nowMs then none else s.pendingReliable[k]? := by
  have hmem : k ∈ s.expiredAt nowMs ↔
      ∃ pending, s.pendingReliable[k]? = some pending ∧ pending.live nowMs = false := by
    simp only [expiredAt, List.mem_map, List.mem_filter, Bool.not_eq_true', Prod.exists,
      ExtTreeMap.mem_toList_iff_getElem?_eq_some]
    constructor
    · rintro ⟨k', pending, ⟨hk, hdead⟩, rfl⟩
      exact ⟨pending, hk, hdead⟩
    · rintro ⟨pending, hk, hdead⟩
      exact ⟨k, pending, ⟨hk, hdead⟩, rfl⟩
  rw [livePending, ExtTreeMap.getElem?_filter']
  cases hk : s.pendingReliable[k]? with
  | none => simp
  | some pending =>
      rw [hk] at hmem
      cases hlive : pending.live nowMs with
      | true =>
          rw [if_neg (by rw [hmem]; simp [hlive])]
          simp [Option.filter, hlive]
      | false =>
          rw [if_pos (by rw [hmem]; exact ⟨pending, rfl, hlive⟩)]
          simp [Option.filter, hlive]

theorem Untouched.of_eq {s s' : Session} {c : Call} (h : s' = s) (hc : s.expiredBy c = []) :
    Untouched s c s' := by
  subst h
  refine ⟨rfl, rfl, rfl, rfl, rfl, fun k => ?_⟩
  rw [hc, if_neg List.not_mem_nil]

/-- A refused send leaves everything but what it has purged. -/
theorem untouched_sendMany {s s' : Session} {channelId : String} {payload : List UInt8}
    {options : SendOptions} {maxFragmentBytes : Option Nat} {out : Output}
    (h : s.call (.sendMany channelId payload options maxFragmentBytes) = some (out, s'))
    (hrefused : out.failure ≠ none) :
    Untouched s (.sendMany channelId payload options maxFragmentBytes) s' := by
  rcases toStep_eq_some h with ⟨packets, -, rfl⟩ | ⟨message, hr, rfl⟩
  · exact absurd rfl hrefused
  · cases hup : s.connected with
    | false =>
        rw [sendMany_disconnected hup] at hr
        cases hr
        exact Untouched.of_eq rfl (by simp [expiredBy, hup])
    | true =>
        rw [sendMany_refused hup hr]
        refine ⟨rfl, rfl, rfl, rfl, rfl, fun k => ?_⟩
        rw [expiredBy, if_pos hup]
        exact getElem?_livePending s options.nowMs k

/-- **A handshake or a send that is refused leaves no trace.** -/
theorem untouched_of_refused {s s' : Session} {c : Call} {out : Output}
    (h : s.call c = some (out, s')) (hc : c.options?.isSome) (hrefused : out.failure ≠ none) :
    Untouched s c s' := by
  cases c with
  | createConnect nowMs payload =>
      rcases toStep_eq_some h with ⟨p, -, rfl⟩ | ⟨message, hr, rfl⟩
      · exact absurd rfl hrefused
      · exact Untouched.of_eq (createConnect_error hr) rfl
  | acceptConnect packet nowMs payload =>
      rcases toStep_eq_some h with ⟨p, -, rfl⟩ | ⟨message, hr, rfl⟩
      · exact absurd rfl hrefused
      · exact Untouched.of_eq (acceptConnect_error hr) rfl
  | send channelId payload options =>
      obtain ⟨hseq, hid, hin, hlast, hup, hpending⟩ := untouched_sendMany (call_send h) hrefused
      exact ⟨hseq, hid, hin, hlast, hup, hpending⟩
  | sendMany channelId payload options maxFragmentBytes => exact untouched_sendMany h hrefused
  | _ => cases hc

/-- **Along every run of a session with a limit** at most that many packets are pending, each
under its own number below the counter, and a handshake or a send that is refused leaves
everything as it was but for what had expired. -/
theorem pendingReliable_bounded {options : SessionOptions} {limit : Nat} {log : CallLog}
    {s : Session} (hlimit : options.maxPendingReliablePackets = some limit)
    (h : Machine.Run Session.call (Session.new options) log s) :
    s.pendingReliable.size ≤ limit ∧
      (∀ k pending, s.pendingReliable[k]? = some pending →
        pending.packet.sequence = k ∧ k < s.nextSequence) ∧
      ∀ c out s', s.call c = some (out, s') → c.options?.isSome → out.failure ≠ none →
        Untouched s c s' := by
  have hs : Bounded limit s :=
    h.invariant (bounded_new hlimit) fun _ _ _ _ hs hstep => hs.step hstep
  refine ⟨hs.size, ?_, fun c out s' hstep hc hrefused => untouched_of_refused hstep hc hrefused⟩
  intro k pending hk
  exact hs.numbered k pending.packet ⟨pending, hk, rfl⟩

/-- A session with one place: the second reliable send is refused and changes nothing. -/
theorem pendingReliable_bounded_one :
    ∃ log s, Machine.Run Session.call (Session.new { maxPendingReliablePackets := some 1 }) log s ∧
      s.pendingReliable.size = 1 ∧
      (s.pendingReliable.size ≤ 1 ∧
        (∀ k pending, s.pendingReliable[k]? = some pending →
          pending.packet.sequence = k ∧ k < s.nextSequence) ∧
        ∀ c out s', s.call c = some (out, s') → c.options?.isSome → out.failure ≠ none →
          Untouched s c s') ∧
      ∃ out s', s.call (.send "media" [8] { reliable := true }) = some (out, s') ∧
        out.failure = some "RUDP reliable send queue is full" := by
  have hexec : ((Machine.exec Session.call (Session.new { maxPendingReliablePackets := some 1 })
      [.assumeConnected 0, .send "media" [7] { reliable := true }]).any fun result =>
      result.2.pendingReliable.size = 1 &&
        (result.2.call (.send "media" [8] { reliable := true })).any fun step =>
          step.1.failure = some "RUDP reliable send queue is full") = true := by
    decide +kernel
  obtain ⟨log, s, hrun, -, hcheck⟩ := Machine.Run.of_exec_any hexec
  simp only [Bool.and_eq_true, decide_eq_true_eq] at hcheck
  obtain ⟨hsize, hrefused⟩ := hcheck
  refine ⟨log, s, hrun, hsize, pendingReliable_bounded rfl hrun, ?_⟩
  obtain ⟨⟨out, s'⟩, hstep, hmessage⟩ := (Option.any_eq_true _ _).mp hrefused
  exact ⟨out, s', hstep, of_decide_eq_true hmessage⟩

end Session

end CultNet.Rudp
