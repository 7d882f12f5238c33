/-
Where every pending packet goes.

The ledger follows a session and writes down the number of each packet that is
entered among the pending ones and of each that is taken out, under the reason it
was taken out for: an acknowledgement that covers it, its expiry, or a reset.  The
reasons are read off the call and what is pending before it, never off what is
pending after, so that the books balance is a fact about the code: whatever was
entered and not taken out is still pending, and nothing is taken out twice.
-/
import CultNet.Proofs.Rudp.Capacity

namespace CultNet.Rudp

open Std (ExtTreeMap)

instance (packet : Packet) (q : UInt32) : Decidable (packet.Covers q) :=
  inferInstanceAs (Decidable (q = packet.ack ∨ ∃ bit < 32,
    packet.ackMask &&& (1 <<< UInt32.ofNat bit) ≠ 0 ∧ UInt32.ofNat bit < packet.ack ∧
      packet.ack - UInt32.ofNat bit - 1 = q))

namespace Session

/-- The numbers that a call enters, of the packets it created. -/
def enteredBy (s : Session) (created : List Packet) : Call → List UInt32
  | .createConnect _ _ | .send _ _ _ | .sendMany _ _ _ _ =>
    (created.filter Packet.reliable).map Packet.sequence
  | .acceptConnect _ _ _ =>
    if s.connected then [] else (created.filter Packet.reliable).map Packet.sequence
  | _ => []

/-- The pending numbers that a call acknowledges. -/
def acknowledgedBy (s : Session) : Call → List UInt32
  | .receive packet _ =>
    if packet.connectionId = s.connectionId then
      s.pendingReliable.keys.filter fun k => packet.Covers k
    else []
  | _ => []

/-- The pending numbers that a call clears. -/
def clearedBy (s : Session) : Call → List UInt32
  | .resetPeerState => s.pendingReliable.keys
  | _ => []

end Session

/-- A session with the numbers that were entered and why those that are gone went. -/
structure Ledger where
  session : Session
  entered : List UInt32
  acknowledged : List UInt32
  expired : List UInt32
  cleared : List UInt32

namespace Ledger

/-- The ledger of a fresh session. -/
def new (options : SessionOptions) : Ledger where
  session := Session.new options
  entered := []
  acknowledged := []
  expired := []
  cleared := []

/-- One call of the session, entered in the ledger. -/
def step (ledger : Ledger) (c : Call) : Option (Output × Ledger) :=
  match ledger.session.call c with
  | none => none
  | some (out, session) => some (out, {
      session
      entered := ledger.entered ++ ledger.session.enteredBy out.created c
      acknowledged := ledger.acknowledged ++ ledger.session.acknowledgedBy c
      expired := ledger.expired ++ ledger.session.expiredBy c
      cleared := ledger.cleared ++ ledger.session.clearedBy c })

/-- A step of the ledger is a call of the session. -/
theorem step_eq_some {ledger ledger' : Ledger} {c : Call} {out : Output}
    (h : ledger.step c = some (out, ledger')) :
    ledger.session.call c = some (out, ledger'.session) ∧
      ledger'.entered = ledger.entered ++ ledger.session.enteredBy out.created c ∧
      ledger'.acknowledged = ledger.acknowledged ++ ledger.session.acknowledgedBy c ∧
      ledger'.expired = ledger.expired ++ ledger.session.expiredBy c ∧
      ledger'.cleared = ledger.cleared ++ ledger.session.clearedBy c := by
  unfold step at h
  cases hcall : ledger.session.call c with
  | none =>
      rw [hcall] at h
      cases h
  | some result =>
      rw [hcall] at h
      cases h
      exact ⟨rfl, rfl, rfl, rfl, rfl⟩

end Ledger

namespace Session

/-! ### What is entered and what goes -/

/-- Entering packets under numbers that are new adds exactly those numbers. -/
theorem keys_enter_perm (options : SendOptions) (packets : List Packet) :
    ∀ pending : PendingMap, (packets.map Packet.sequence).Nodup →
      (∀ p ∈ packets, p.sequence ∉ pending) →
      (options.enter pending packets).keys.Perm
        (pending.keys ++ (packets.filter Packet.reliable).map Packet.sequence) := by
  induction packets with
  | nil =>
      intro pending _ _
      rw [List.filter_nil, List.map_nil, List.append_nil]
      exact List.Perm.refl _
  | cons p rest ih =>
      intro pending hnodup hfresh
      rw [List.map_cons, List.nodup_cons] at hnodup
      obtain ⟨hp, hrest⟩ := hnodup
      show (options.enter (if p.reliable then _ else pending) rest).keys.Perm _
      cases hreliable : p.reliable with
      | false =>
          rw [List.filter_cons_of_neg (by simp [hreliable]), if_neg Bool.false_ne_true]
          exact ih pending hrest fun q hq => hfresh q (List.mem_cons_of_mem p hq)
      | true =>
          rw [List.filter_cons_of_pos hreliable, if_pos rfl, List.map_cons]
          have htail := ih (pending.insert p.sequence (options.entry p)) hrest (by
            intro q hq hmem
            rw [ExtTreeMap.mem_insert, Std.LawfulEqCmp.compare_eq_iff_eq] at hmem
            rcases hmem with hsame | hold
            · exact hp (List.mem_map.mpr ⟨q, hq, hsame.symm⟩)
            · exact hfresh q (List.mem_cons_of_mem p hq) hold)
          have hhead := OrderedMap.keys_insert_perm (hfresh p List.mem_cons_self) (options.entry p)
          refine htail.trans ((hhead.append_right _).trans ?_)
          rw [List.append_assoc, List.singleton_append]

/-- The numbers pending and those a purge drops. -/
theorem keys_livePending_perm (s : Session) (nowMs : Nat) :
    ((s.livePending nowMs).keys ++ s.expiredAt nowMs).Perm s.pendingReliable.keys := by
  have hsplit := OrderedMap.keys_filter_perm
    (fun _ (pending : PendingReliablePacket) => pending.live nowMs) s.pendingReliable
  exact hsplit

/-- The numbers pending and those an acknowledgement drops. -/
theorem keys_applyAcknowledgements_perm (s : Session) (packet : Packet) :
    ((s.applyAcknowledgements packet).pendingReliable.keys ++
      s.pendingReliable.keys.filter fun k => packet.Covers k).Perm s.pendingReliable.keys := by
  have hmap : (s.applyAcknowledgements packet).pendingReliable =
      s.pendingReliable.filter fun k _ => !decide (packet.Covers k) := by
    refine ExtTreeMap.ext_getElem? fun k => Option.ext fun pending => ?_
    rw [applyAcknowledgements_pending, ExtTreeMap.getElem?_filter', Option.filter_eq_some_iff]
    simp
  rw [hmap, ExtTreeMap.keys_filter_key]
  refine List.perm_append_comm.trans ?_
  exact List.filter_append_perm (fun k => decide (packet.Covers k)) s.pendingReliable.keys

/-- The packets of one call have different numbers. -/
theorem Numbers.nodup_sequences {s s' : Session} {created : List Packet}
    (h : Numbers s s' created) : (created.map Packet.sequence).Nodup := by
  have hnat : ((created.map Packet.sequence).map UInt32.toNat).Nodup := by
    rw [List.map_map]
    exact h.sequences ▸ List.nodup_range'
  exact hnat.of_map

/-- The books of a send balance. -/
theorem accounts_sendMany {s s' : Session} {channelId : String} {payload : List UInt8}
    {options : SendOptions} {maxFragmentBytes : Option Nat} {out : Output}
    (h : s.call (.sendMany channelId payload options maxFragmentBytes) = some (out, s'))
    (hfresh : ∀ p ∈ out.created, p.sequence ∉ s.pendingReliable) :
    ((s.pendingAfter out.created (.sendMany channelId payload options maxFragmentBytes)).keys ++
      s.expiredBy (.sendMany channelId payload options maxFragmentBytes)).Perm
      (s.pendingReliable.keys ++ (out.created.filter Packet.reliable).map Packet.sequence) := by
  have hnodup := (call_effect h).1.toNumbers.nodup_sequences
  cases hup : s.connected with
  | false =>
      have hnone : out.created = [] := by
        rcases toStep_eq_some h with ⟨packets, hr, rfl⟩ | ⟨message, -, rfl⟩
        · rw [sendMany_disconnected hup] at hr
          cases hr
        · rfl
      simp [pendingAfter, expiredBy, hup, hnone]
  | true =>
      simp only [pendingAfter, expiredBy, hup, if_true]
      have henter := keys_enter_perm options out.created (s.livePending options.nowMs) hnodup (by
        intro p hp hmem
        exact hfresh p hp (ExtTreeMap.mem_of_mem_filter hmem))
      have hpurge := keys_livePending_perm s options.nowMs
      refine (henter.append_right _).trans ?_
      rw [List.append_assoc]
      refine (List.perm_append_comm.append_left _).trans ?_
      rw [← List.append_assoc]
      exact hpurge.append_right _

/-- The books of a handshake packet balance: none is purged first. -/
theorem accounts_enter {s : Session} {created : List Packet} {options : SendOptions}
    (hnodup : (created.map Packet.sequence).Nodup)
    (hfresh : ∀ p ∈ created, p.sequence ∉ s.pendingReliable) :
    ((options.enter s.pendingReliable created).keys ++ []).Perm
      (s.pendingReliable.keys ++ (created.filter Packet.reliable).map Packet.sequence) := by
  rw [List.append_nil]
  exact keys_enter_perm options created s.pendingReliable hnodup hfresh

/-- **The books of one call balance.** -/
theorem call_accounts {s s' : Session} {c : Call} {out : Output} (h : s.call c = some (out, s'))
    (hfresh : ∀ p ∈ out.created, p.sequence ∉ s.pendingReliable) :
    (s'.pendingReliable.keys ++ (s.acknowledgedBy c ++ s.expiredBy c ++ s.clearedBy c)).Perm
      (s.pendingReliable.keys ++ s.enteredBy out.created c) := by
  have hnodup := (call_effect h).1.toNumbers.nodup_sequences
  rw [(call_pends h).pending]
  cases c with
  | createConnect nowMs payload => exact accounts_enter hnodup hfresh
  | acceptConnect packet nowMs payload =>
      simp only [pendingAfter, enteredBy]
      cases hup : s.connected with
      | true => exact List.Perm.refl _
      | false => exact accounts_enter hnodup hfresh
  | send channelId payload options =>
      have hsend := accounts_sendMany (call_send h) hfresh
      rwa [← List.append_nil (s.expiredBy _)] at hsend
  | sendMany channelId payload options maxFragmentBytes =>
      have hsend := accounts_sendMany h hfresh
      rwa [← List.append_nil (s.expiredBy _)] at hsend
  | receive packet nowMs =>
      simp only [pendingAfter, acknowledgedBy, enteredBy, List.append_nil]
      split
      · simpa [expiredBy, clearedBy] using keys_applyAcknowledgements_perm s packet
      · exact List.Perm.of_eq (List.append_nil _)
  | resetPeerState =>
      have hnil : (∅ : PendingMap).keys = [] := ExtTreeMap.keys_eq_nil_iff.mpr rfl
      simp [pendingAfter, acknowledgedBy, expiredBy, clearedBy, enteredBy, hnil]
  | dueResends nowMs =>
      have hkeys : (s.dueResends nowMs).2.pendingReliable.keys = (s.livePending nowMs).keys :=
        OrderedMap.keys_map _ _
      simp only [pendingAfter, acknowledgedBy, expiredBy, clearedBy, enteredBy, hkeys,
        List.append_nil, List.nil_append]
      exact keys_livePending_perm s nowMs
  | _ => exact List.Perm.refl _

end Session

namespace Ledger

/-! ### Along a run -/

/-- The books: what was entered is pending or went for one of three reasons, and no number is
entered twice. -/
structure Balanced (ledger : Ledger) : Prop where
  accounts : (ledger.session.pendingReliable.keys ++
    (ledger.acknowledged ++ ledger.expired ++ ledger.cleared)).Perm ledger.entered
  nodup : ledger.entered.Nodup
  counted : ledger.session.reliablePacketsExpired = ledger.expired.length
  below : ∀ k ∈ ledger.entered, k < ledger.session.nextSequence

theorem balanced_new (options : SessionOptions) : Balanced (new options) where
  accounts := List.Perm.refl _
  nodup := List.nodup_nil
  counted := rfl
  below := by intro k hk; cases hk

/-- What a call enters are numbers of packets it created. -/
theorem mem_enteredBy {s : Session} {created : List Packet} {c : Call} {k : UInt32}
    (h : k ∈ s.enteredBy created c) : ∃ p ∈ created, p.sequence = k := by
  have hmap : k ∈ (created.filter Packet.reliable).map Packet.sequence →
      ∃ p ∈ created, p.sequence = k := by
    intro hk
    obtain ⟨p, hp, rfl⟩ := List.mem_map.mp hk
    exact ⟨p, (List.mem_filter.mp hp).1, rfl⟩
  cases c with
  | createConnect nowMs payload => exact hmap h
  | send channelId payload options => exact hmap h
  | sendMany channelId payload options maxFragmentBytes => exact hmap h
  | acceptConnect packet nowMs payload =>
      simp only [Session.enteredBy] at h
      split at h
      · cases h
      · exact hmap h
  | _ => cases h

theorem nodup_enteredBy {s : Session} {created : List Packet} (c : Call)
    (h : (created.map Packet.sequence).Nodup) : (s.enteredBy created c).Nodup := by
  have hmap : ((created.filter Packet.reliable).map Packet.sequence).Nodup :=
    h.sublist (List.filter_sublist.map _)
  cases c with
  | createConnect nowMs payload => exact hmap
  | send channelId payload options => exact hmap
  | sendMany channelId payload options maxFragmentBytes => exact hmap
  | acceptConnect packet nowMs payload =>
      simp only [Session.enteredBy]
      split
      · exact List.nodup_nil
      · exact hmap
  | _ => exact List.nodup_nil

theorem Balanced.step {ledger ledger' : Ledger} {c : Call} {out : Output} (hb : Balanced ledger)
    (h : ledger.step c = some (out, ledger')) : Balanced ledger' := by
  obtain ⟨hcall, hentered, hacked, hexpired, hcleared⟩ := step_eq_some h
  have hcreates := (Session.call_effect hcall).1
  have hfresh : ∀ p ∈ out.created, p.sequence ∉ ledger.entered := by
    intro p hp hmem
    exact absurd (hb.below p.sequence hmem)
      (UInt32.not_lt.mpr (hcreates.toNumbers.nextSequence_le hp))
  have hpending : ∀ p ∈ out.created, p.sequence ∉ ledger.session.pendingReliable := by
    intro p hp hmem
    exact hfresh p hp (hb.accounts.mem_iff.mp
      (List.mem_append_left _ (ExtTreeMap.mem_keys.mpr hmem)))
  have hbooks := Session.call_accounts hcall hpending
  refine ⟨?_, ?_, ?_, ?_⟩
  · -- each number is counted on both sides
    have hbefore := List.perm_iff_count.mp hb.accounts
    have hcount := List.perm_iff_count.mp hbooks
    rw [hentered, hacked, hexpired, hcleared, List.perm_iff_count]
    intro k
    have hold := hbefore k
    have hnew := hcount k
    simp only [List.count_append] at hold hnew ⊢
    omega
  · rw [hentered]
    refine List.nodup_append.mpr ⟨hb.nodup, nodup_enteredBy c hcreates.nodup_sequences, ?_⟩
    rintro k hk k' hk' rfl
    obtain ⟨p, hp, hpk⟩ := mem_enteredBy hk'
    exact hfresh p hp (hpk ▸ hk)
  · rw [(Session.call_pends hcall).expired, hexpired, List.length_append, hb.counted]
  · intro k hk
    rw [hentered, List.mem_append] at hk
    rcases hk with hold | hnew
    · have hlt := hb.below k hold
      rw [UInt32.lt_iff_toNat_lt] at hlt ⊢
      rw [hcreates.nextSequence]
      omega
    · obtain ⟨p, hp, rfl⟩ := mem_enteredBy hnew
      exact hcreates.toNumbers.lt_nextSequence hp

/-- **The books balance along every run.** -/
theorem balanced_of_run {options : SessionOptions} {log : CallLog} {ledger : Ledger}
    (h : Machine.Run Ledger.step (new options) log ledger) : Balanced ledger :=
  h.invariant (balanced_new options) fun _ _ _ _ hb hstep => hb.step hstep

/-- The ledger follows every run of the session. -/
theorem exists_run (start : Ledger) {log : CallLog} {s : Session}
    (h : Machine.Run Session.call start.session log s) :
    ∃ ledger, Machine.Run Ledger.step start log ledger ∧ ledger.session = s := by
  refine Machine.Run.lift (fun ledger c out s' hcall => ?_) h
  unfold step
  rw [hcall]
  exact ⟨_, rfl, rfl⟩

end Ledger

end CultNet.Rudp
