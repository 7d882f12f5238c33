/-
Retransmission along a run.

What is pending is tied to the log the session left behind.  Each entry was entered
by one call of the log, which created its packet and set its deadline; no
acknowledgement that came in since covers its number; and it was last sent at the
last time at which the log hands its packet out.  `call_traces` says what one call
does to an entry, `tracked_of_run` carries this along a run whose times do not
decrease, and what `due_resends` returns is read off it.
-/
import CultNet.Proofs.Rudp.Ledger

namespace CultNet.Rudp

open Std (ExtTreeMap)

/-- The time a call is made at, where it is given one. -/
def Call.time? : Call → Option Nat
  | .createConnect nowMs _ | .acceptConnect _ nowMs _ | .assumeConnected nowMs
  | .receive _ nowMs | .checkTimeout nowMs _ | .dueResends nowMs => some nowMs
  | .send _ _ options | .sendMany _ _ options _ => some options.nowMs
  | .resetPeerState | .createAck | .createPing _ | .createDisconnect _ => none

/-- The times of a log, in order. -/
def CallLog.times (log : CallLog) : List Nat := log.filterMap fun entry => entry.1.time?

/-- The times at which a log hands a packet out, to be sent or to be sent again. -/
def CallLog.sentAt (log : CallLog) (p : Packet) : List Nat :=
  log.filterMap fun entry =>
    if p ∈ entry.2.created ∨ p ∈ entry.2.resent then entry.1.time? else none

theorem CallLog.sentAt_sublist (log : CallLog) (p : Packet) :
    (CallLog.sentAt log p).Sublist (CallLog.times log) := by
  induction log with
  | nil => exact List.Sublist.slnil
  | cons entry rest ih =>
      unfold sentAt times at ih ⊢
      rw [List.filterMap_cons, List.filterMap_cons]
      by_cases h : p ∈ entry.2.created ∨ p ∈ entry.2.resent
      · rw [if_pos h]
        cases entry.1.time? with
        | none => exact ih
        | some t => exact ih.cons_cons t
      · rw [if_neg h]
        cases entry.1.time? with
        | none => exact ih
        | some t => exact ih.cons t

namespace Session

/-! ### One call -/

/-- What is pending after some packets were entered. -/
theorem getElem?_enter (options : SendOptions) (packets : List Packet) :
    ∀ (pending : PendingMap) (k : UInt32) (e : PendingReliablePacket),
      (options.enter pending packets)[k]? = some e →
        pending[k]? = some e ∨
          ∃ p ∈ packets, p.reliable = true ∧ p.sequence = k ∧ e = options.entry p := by
  induction packets with
  | nil => intro pending k e h; exact Or.inl h
  | cons p rest ih =>
      intro pending k e h
      rcases ih (if p.reliable then pending.insert p.sequence (options.entry p) else pending) k e h
        with hold | ⟨q, hq, hnew⟩
      · by_cases hp : p.reliable = true
        · rw [if_pos hp, OrderedMap.getElem?_insert_eq] at hold
          by_cases hk : p.sequence = k
          · rw [if_pos hk, Option.some.injEq] at hold
            exact Or.inr ⟨p, List.mem_cons_self, hp, hk, hold.symm⟩
          · rw [if_neg hk] at hold
            exact Or.inl hold
        · rw [if_neg hp] at hold
          exact Or.inl hold
      · exact Or.inr ⟨q, List.mem_cons_of_mem p hq, hnew⟩

/-- The pending entries that have not expired and were sent long enough ago, in order. -/
def dueEntries (s : Session) (nowMs : Nat) : List PendingReliablePacket :=
  ((s.livePending nowMs).toList.filter fun entry => s.resendDue nowMs entry.2).map Prod.snd

theorem mem_dueEntries {s : Session} {nowMs : Nat} {e : PendingReliablePacket} :
    e ∈ s.dueEntries nowMs ↔ ∃ k : UInt32, s.pendingReliable[k]? = some e ∧
      e.live nowMs = true ∧ s.resendDue nowMs e = true := by
  unfold dueEntries
  rw [List.mem_map]
  constructor
  · rintro ⟨⟨k, e⟩, hmem, rfl⟩
    obtain ⟨hmem, hdue⟩ := List.mem_filter.mp hmem
    obtain ⟨hk, hlive⟩ := livePending_eq_some.mp
      (ExtTreeMap.mem_toList_iff_getElem?_eq_some.mp hmem)
    exact ⟨k, hk, hlive, hdue⟩
  · rintro ⟨k, hk, hlive, hdue⟩
    refine ⟨(k, e), List.mem_filter.mpr ⟨?_, hdue⟩, rfl⟩
    exact ExtTreeMap.mem_toList_iff_getElem?_eq_some.mpr (livePending_eq_some.mpr ⟨hk, hlive⟩)

/-- What is due is what is pending, has not expired and was sent long enough ago. -/
theorem mem_dueResends {s : Session} {nowMs : Nat} {p : Packet} :
    p ∈ (s.dueResends nowMs).1 ↔ ∃ (k : UInt32) (e : PendingReliablePacket),
      s.pendingReliable[k]? = some e ∧ e.live nowMs = true ∧ s.resendDue nowMs e = true ∧
        e.packet = p := by
  have hentries : p ∈ (s.dueResends nowMs).1 ↔ p ∈ (s.dueEntries nowMs).map (·.packet) := by
    rw [dueEntries, List.map_map]
    exact List.mem_insertionSort _
  rw [hentries, List.mem_map]
  constructor
  · rintro ⟨e, he, hp⟩
    obtain ⟨k, hk, hlive, hdue⟩ := mem_dueEntries.mp he
    exact ⟨k, e, hk, hlive, hdue, hp⟩
  · rintro ⟨k, e, hk, hlive, hdue, hp⟩
    exact ⟨e, mem_dueEntries.mpr ⟨k, hk, hlive, hdue⟩, hp⟩

/-- The numbers of what is due ascend. -/
theorem dueEntries_ascending {s : Session} (hn : Numbered s) (nowMs : Nat) :
    ((s.dueEntries nowMs).map (·.packet)).Pairwise fun p q => p.sequence < q.sequence := by
  let entries := (s.livePending nowMs).toList.filter fun entry => s.resendDue nowMs entry.2
  have hkey : ∀ entry ∈ entries, entry.2.packet.sequence = entry.1 := by
    intro entry hmem
    have hlive := ExtTreeMap.mem_toList_iff_getElem?_eq_some.mp (List.mem_filter.mp hmem).1
    have hk := (livePending_eq_some.mp hlive).1
    exact (hn entry.1 entry.2.packet ⟨entry.2, hk, rfl⟩).1
  have hkeys : entries.Pairwise fun a b => compare a.1 b.1 = .lt :=
    ExtTreeMap.ordered_keys_toList.filter _
  have hordered : entries.Pairwise fun a b => a.2.packet.sequence < b.2.packet.sequence := by
    refine hkeys.imp_of_mem fun {a b} ha hb hlt => ?_
    rw [hkey a ha, hkey b hb]
    exact Std.compare_eq_lt.mp hlt
  exact List.pairwise_map.mpr (List.pairwise_map.mpr hordered)

/-- The due entries come out of the map in order, so sorting them changes nothing. -/
theorem dueResends_eq {s : Session} (hn : Numbered s) (nowMs : Nat) :
    (s.dueResends nowMs).1 = (s.dueEntries nowMs).map (·.packet) := by
  have hsort := ((dueEntries_ascending hn nowMs).imp fun h => UInt32.le_of_lt h).insertionSort_eq
  rw [← hsort, dueEntries, List.map_map]
  rfl

/-- What is due comes in ascending order. -/
theorem dueResends_ascending {s : Session} (hn : Numbered s) (nowMs : Nat) :
    (s.dueResends nowMs).1.Pairwise fun p q => p.sequence < q.sequence := by
  rw [dueResends_eq hn]
  exact dueEntries_ascending hn nowMs

/-- How an entry that was pending before the call is kept. -/
structure Keeps (s : Session) (c : Call) (k : UInt32) (old e : PendingReliablePacket) : Prop where
  before : s.pendingReliable[k]? = some old
  packet : e.packet = old.packet
  deadline : e.expiresAtMs = old.expiresAtMs
  /-- No acknowledgement in the call covers it. -/
  uncovered : ∀ q t, c = .receive q t → q.connectionId = s.connectionId → ¬ q.Covers k
  /-- It is sent again where it is due, and otherwise it was last sent when it was before. -/
  lastSent : (∃ nowMs, c = .dueResends nowMs ∧ old.packet ∈ (s.dueResends nowMs).1 ∧
      e.lastSentAtMs = nowMs) ∨
    (∀ nowMs, c = .dueResends nowMs → s.resendDue nowMs old = false) ∧
      e.lastSentAtMs = old.lastSentAtMs

/-- An entry that a call other than `due_resends` leaves as it is. -/
theorem Keeps.same {s : Session} {c : Call} {k : UInt32} {e : PendingReliablePacket}
    (hbefore : s.pendingReliable[k]? = some e)
    (huncovered : ∀ q t, c = .receive q t → q.connectionId = s.connectionId → ¬ q.Covers k)
    (hc : ∀ nowMs, c ≠ .dueResends nowMs) : Keeps s c k e e where
  before := hbefore
  packet := rfl
  deadline := rfl
  uncovered := huncovered
  lastSent := Or.inr ⟨fun nowMs h => absurd h (hc nowMs), rfl⟩

/-- **Where an entry comes from**: the call entered it, or kept it. -/
theorem call_traces {s s' : Session} {c : Call} {out : Output} (h : s.call c = some (out, s'))
    {k : UInt32} {e : PendingReliablePacket} (he : s'.pendingReliable[k]? = some e) :
    (∃ options p, c.options? = some options ∧ p ∈ out.created ∧ p.reliable = true ∧
      p.sequence = k ∧ e = options.entry p) ∨ ∃ old, Keeps s c k old e := by
  rw [(call_pends h).pending] at he
  have hentered {options : SendOptions} {pending : PendingMap}
      (hc : c.options? = some options) (hcall : ∀ q t, c ≠ .receive q t)
      (hnow : ∀ nowMs, c ≠ .dueResends nowMs)
      (hsub : ∀ e, pending[k]? = some e → s.pendingReliable[k]? = some e)
      (he : (options.enter pending out.created)[k]? = some e) :
      (∃ options p, c.options? = some options ∧ p ∈ out.created ∧ p.reliable = true ∧
        p.sequence = k ∧ e = options.entry p) ∨ ∃ old, Keeps s c k old e := by
    rcases getElem?_enter options out.created pending k e he with hold | ⟨p, hp, hnew⟩
    · exact Or.inr ⟨e, Keeps.same (hsub e hold) (fun q t h => absurd h (hcall q t)) hnow⟩
    · exact Or.inl ⟨options, p, hc, hp, hnew⟩
  have hsame {e : PendingReliablePacket} (hk : s.pendingReliable[k]? = some e)
      (hcall : ∀ q t, c ≠ .receive q t) (hnow : ∀ nowMs, c ≠ .dueResends nowMs) :
      Keeps s c k e e := Keeps.same hk (fun q t h => absurd h (hcall q t)) hnow
  cases c with
  | createConnect nowMs payload =>
      exact hentered rfl (by simp) (by simp) (fun _ hk => hk) he
  | acceptConnect packet nowMs payload =>
      simp only [pendingAfter] at he
      by_cases hup : s.connected = true
      · rw [if_pos hup] at he
        exact Or.inr ⟨e, hsame he (by simp) (by simp)⟩
      · rw [if_neg hup] at he
        exact hentered rfl (by simp) (by simp) (fun _ hk => hk) he
  | send channelId payload options =>
      simp only [pendingAfter] at he
      by_cases hup : s.connected = true
      · rw [if_pos hup] at he
        exact hentered rfl (by simp) (by simp) (fun _ hk => (livePending_eq_some.mp hk).1) he
      · rw [if_neg hup] at he
        exact Or.inr ⟨e, hsame he (by simp) (by simp)⟩
  | sendMany channelId payload options maxFragmentBytes =>
      simp only [pendingAfter] at he
      by_cases hup : s.connected = true
      · rw [if_pos hup] at he
        exact hentered rfl (by simp) (by simp) (fun _ hk => (livePending_eq_some.mp hk).1) he
      · rw [if_neg hup] at he
        exact Or.inr ⟨e, hsame he (by simp) (by simp)⟩
  | receive packet nowMs =>
      simp only [pendingAfter] at he
      by_cases hid : packet.connectionId = s.connectionId
      · rw [if_pos hid, applyAcknowledgements_pending] at he
        refine Or.inr ⟨e, Keeps.same he.1 ?_ (by simp)⟩
        intro q t hcall _
        cases hcall
        exact he.2
      · rw [if_neg hid] at he
        refine Or.inr ⟨e, Keeps.same he ?_ (by simp)⟩
        intro q t hcall hq
        cases hcall
        exact absurd hq hid
  | resetPeerState => simp [pendingAfter] at he
  | dueResends nowMs =>
      have hmap : ((s.livePending nowMs).map fun _ pending =>
          if s.resendDue nowMs pending then { pending with lastSentAtMs := nowMs } else pending)[k]?
            = some e := he
      rw [ExtTreeMap.getElem?_map, Option.map_eq_some_iff] at hmap
      obtain ⟨old, hold, rfl⟩ := hmap
      obtain ⟨hbefore, hlive⟩ := livePending_eq_some.mp hold
      refine Or.inr ⟨old, hbefore, ?_, ?_, by simp, ?_⟩
      · split <;> rfl
      · split <;> rfl
      · by_cases hdue : s.resendDue nowMs old = true
        · rw [if_pos hdue]
          exact Or.inl ⟨nowMs, rfl, mem_dueResends.mpr ⟨k, old, hbefore, hlive, hdue, rfl⟩, rfl⟩
        · rw [if_neg hdue]
          refine Or.inr ⟨?_, rfl⟩
          intro now' hcall
          cases hcall
          exact Bool.eq_false_iff.mpr hdue
  | assumeConnected nowMs => exact Or.inr ⟨e, hsame he (by simp) (by simp)⟩
  | createAck => exact Or.inr ⟨e, hsame he (by simp) (by simp)⟩
  | createPing payload => exact Or.inr ⟨e, hsame he (by simp) (by simp)⟩
  | createDisconnect reason => exact Or.inr ⟨e, hsame he (by simp) (by simp)⟩
  | checkTimeout nowMs timeoutMs => exact Or.inr ⟨e, hsame he (by simp) (by simp)⟩

/-- Only `due_resends` hands packets out again. -/
theorem resent_of_call {s s' : Session} {c : Call} {out : Output} (h : s.call c = some (out, s')) :
    out.resent = [] ∨ ∃ nowMs, c = .dueResends nowMs ∧ out.resent = (s.dueResends nowMs).1 := by
  have hstep {α : Type} {output : α → Output} {r : Except Fault α × Session}
      (h : toStep output r = some (out, s')) (hnone : ∀ a, (output a).resent = []) :
      out.resent = [] := by
    rcases toStep_eq_some h with ⟨a, -, rfl⟩ | ⟨message, -, rfl⟩
    · exact hnone a
    · rfl
  cases c with
  | dueResends nowMs =>
      cases h
      exact Or.inr ⟨nowMs, rfl, rfl⟩
  | resetPeerState => cases h; exact Or.inl rfl
  | assumeConnected nowMs => cases h; exact Or.inl rfl
  | checkTimeout nowMs timeoutMs => cases h; exact Or.inl rfl
  | createConnect nowMs payload => exact Or.inl (hstep h fun _ => rfl)
  | acceptConnect packet nowMs payload => exact Or.inl (hstep h fun _ => rfl)
  | send channelId payload options => exact Or.inl (hstep h fun _ => rfl)
  | sendMany channelId payload options maxFragmentBytes => exact Or.inl (hstep h fun _ => rfl)
  | receive packet nowMs => exact Or.inl (hstep h fun _ => rfl)
  | createAck => exact Or.inl (hstep h fun _ => rfl)
  | createPing payload => exact Or.inl (hstep h fun _ => rfl)
  | createDisconnect reason => exact Or.inl (hstep h fun _ => rfl)

end Session

/-! ### A log -/

/-- A call that enters packets is made at the time of its options. -/
theorem Call.time?_of_options {c : Call} {options : SendOptions} (h : c.options? = some options) :
    c.time? = some options.nowMs := by
  cases c with
  | createConnect nowMs payload => cases h; rfl
  | acceptConnect packet nowMs payload => cases h; rfl
  | send channelId payload options => cases h; rfl
  | sendMany channelId payload options maxFragmentBytes => cases h; rfl
  | _ => cases h

/-- The call that entered a packet, by its options and by what the log has after it. -/
structure CallLog.Enters (log : CallLog) (p : Packet) (options : SendOptions)
    (after : CallLog) : Prop where
  call : ∃ before c out, log = before ++ (c, out) :: after ∧ c.options? = some options ∧
    p ∈ out.created
  reliable : p.reliable = true

/-- No packet of the connection that was received along the log acknowledges `k`. -/
def CallLog.Unacknowledged (log : CallLog) (connectionId k : UInt32) : Prop :=
  ∀ q t out, (Call.receive q t, out) ∈ log → q.connectionId = connectionId → ¬ q.Covers k

theorem CallLog.Enters.snoc {log after : CallLog} {p : Packet} {options : SendOptions}
    (h : CallLog.Enters log p options after) (entry : Call × Output) :
    CallLog.Enters (log ++ [entry]) p options (after ++ [entry]) := by
  obtain ⟨⟨before, c, out, rfl, hc, hp⟩, hreliable⟩ := h
  exact ⟨⟨before, c, out, by simp, hc, hp⟩, hreliable⟩

theorem sentAt_snoc (log : CallLog) (c : Call) (out : Output) (p : Packet) :
    CallLog.sentAt (log ++ [(c, out)]) p = CallLog.sentAt log p ++
      if p ∈ out.created ∨ p ∈ out.resent then c.time?.toList else [] := by
  unfold CallLog.sentAt
  rw [List.filterMap_append]
  congr 1
  by_cases h : p ∈ out.created ∨ p ∈ out.resent
  · cases ht : c.time? <;> simp [h, ht]
  · simp [h]

/-- Where the times do not decrease, nothing was sent after the last of them. -/
theorem sentAt_le {log : CallLog} {c : Call} {out : Output} {nowMs : Nat}
    (hsorted : (CallLog.times (log ++ [(c, out)])).Pairwise (· ≤ ·)) (hc : c.time? = some nowMs)
    (p : Packet) : ∀ t ∈ CallLog.sentAt (log ++ [(c, out)]) p, t ≤ nowMs := by
  have hlast : CallLog.times (log ++ [(c, out)]) = CallLog.times log ++ [nowMs] := by
    simp [CallLog.times, hc]
  intro t ht
  have hmem := (CallLog.sentAt_sublist _ p).subset ht
  rw [hlast] at hmem hsorted
  rcases List.mem_append.mp hmem with hold | hnew
  · exact (List.pairwise_append.mp hsorted).2.2 t hold nowMs (List.mem_singleton_self nowMs)
  · exact le_of_eq (List.mem_singleton.mp hnew)

/-- What the log says of a pending entry. -/
structure Traced (log : CallLog) (connectionId : UInt32) (e : PendingReliablePacket) : Prop where
  entered : ∃ options after, CallLog.Enters log e.packet options after ∧
    e.expiresAtMs = (options.entry e.packet).expiresAtMs ∧
    CallLog.Unacknowledged after connectionId e.packet.sequence
  sent : e.lastSentAtMs ∈ CallLog.sentAt log e.packet
  latest : ∀ t ∈ CallLog.sentAt log e.packet, t ≤ e.lastSentAtMs

/-- Every pending entry is traced. -/
def Tracked (log : CallLog) (s : Session) : Prop :=
  ∀ (k : UInt32) (e : PendingReliablePacket), s.pendingReliable[k]? = some e →
    Traced log s.connectionId e

namespace Session

/-- A packet that the call has just created is traced. -/
theorem traced_entered {log : CallLog} {c : Call} {out : Output} {options : SendOptions}
    {p : Packet} (connectionId : UInt32) (hc : c.options? = some options) (hp : p ∈ out.created)
    (hreliable : p.reliable = true)
    (hsorted : (CallLog.times (log ++ [(c, out)])).Pairwise (· ≤ ·)) :
    Traced (log ++ [(c, out)]) connectionId (options.entry p) where
  entered := by
    refine ⟨options, [], ⟨⟨log, c, out, rfl, hc, hp⟩, hreliable⟩, rfl, ?_⟩
    intro q t o hmem
    cases hmem
  sent := by
    have hnow := Call.time?_of_options hc
    show options.nowMs ∈ CallLog.sentAt (log ++ [(c, out)]) p
    rw [sentAt_snoc, if_pos (Or.inl hp), hnow]
    simp
  latest := sentAt_le hsorted (Call.time?_of_options hc) p

/-- An entry that the call kept is traced on. -/
theorem traced_kept {log : CallLog} {s s' : Session} {c : Call} {out : Output} {k : UInt32}
    {old e : PendingReliablePacket} (h : s.call c = some (out, s')) (hn : Numbered s)
    (hkeeps : Keeps s c k old e) (hold : Traced log s.connectionId old)
    (hsorted : (CallLog.times (log ++ [(c, out)])).Pairwise (· ≤ ·)) :
    Traced (log ++ [(c, out)]) s.connectionId e := by
  obtain ⟨hk, hlt⟩ := hn k old.packet ⟨old, hkeeps.before, rfl⟩
  obtain ⟨options, after, henters, hdeadline, hunacked⟩ := hold.entered
  have hentered : ∃ options after, CallLog.Enters (log ++ [(c, out)]) e.packet options after ∧
      e.expiresAtMs = (options.entry e.packet).expiresAtMs ∧
      CallLog.Unacknowledged after s.connectionId e.packet.sequence := by
    refine ⟨options, after ++ [(c, out)], ?_, ?_, ?_⟩
    · rw [hkeeps.packet]
      exact henters.snoc (c, out)
    · rw [hkeeps.deadline, hkeeps.packet, hdeadline]
    · rw [hkeeps.packet]
      intro q t o hmem hq
      rcases List.mem_append.mp hmem with hmem | hmem
      · exact hunacked q t o hmem hq
      · cases List.mem_singleton.mp hmem
        rw [hk]
        exact hkeeps.uncovered q t rfl hq
  rcases hkeeps.lastSent with ⟨nowMs, rfl, hdue, hlast⟩ | ⟨hnotdue, hlast⟩
  · have hresent : out.resent = (s.dueResends nowMs).1 := by
      cases h
      rfl
    refine ⟨hentered, ?_, ?_⟩
    · rw [hkeeps.packet, hlast, sentAt_snoc, hresent, if_pos (Or.inr hdue)]
      exact List.mem_append_right _ (List.mem_singleton_self nowMs)
    · rw [hlast]
      exact sentAt_le hsorted rfl e.packet
  · have hcreated : old.packet ∉ out.created := by
      intro hmem
      have hlow := (call_effect h).1.toNumbers.nextSequence_le hmem
      rw [hk] at hlow
      exact absurd hlt (UInt32.not_lt.mpr hlow)
    have hresent : old.packet ∉ out.resent := by
      intro hmem
      rcases resent_of_call h with hnone | ⟨nowMs, rfl, hall⟩
      · rw [hnone] at hmem
        cases hmem
      · rw [hall] at hmem
        obtain ⟨k', e', he', -, hdue, hpacket⟩ := mem_dueResends.mp hmem
        have hk' := (hn k' e'.packet ⟨e', he', rfl⟩).1
        rw [hpacket, hk] at hk'
        subst hk'
        rw [hkeeps.before, Option.some.injEq] at he'
        rw [← he', hnotdue nowMs rfl] at hdue
        cases hdue
    have hsame : CallLog.sentAt (log ++ [(c, out)]) old.packet = CallLog.sentAt log old.packet := by
      rw [sentAt_snoc, if_neg (not_or.mpr ⟨hcreated, hresent⟩), List.append_nil]
    refine ⟨hentered, ?_, ?_⟩
    · rw [hkeeps.packet, hlast, hsame]
      exact hold.sent
    · rw [hkeeps.packet, hlast, hsame]
      exact hold.latest

/-- **Along every run whose times do not decrease, every pending entry is traced.** -/
theorem tracked_of_run {options : SessionOptions} {log : CallLog} {s : Session}
    (h : Machine.Run Session.call (Session.new options) log s)
    (hsorted : log.times.Pairwise (· ≤ ·)) : Numbered s ∧ Tracked log s := by
  induction h with
  | nil => exact ⟨numbered_new options, by intro k e he; simp [Session.new] at he⟩
  | @snoc before s s' c out _ hstep ih =>
      have hbefore : (CallLog.times before).Pairwise (· ≤ ·) := by
        refine hsorted.sublist ?_
        rw [CallLog.times, CallLog.times, List.filterMap_append]
        exact List.sublist_append_left _ _
      obtain ⟨hn, htracked⟩ := ih hbefore
      refine ⟨hn.step hstep, ?_⟩
      intro k e he
      have hid := (call_effect hstep).1.connectionId
      rcases call_traces hstep he with ⟨o, p, hc, hp, hreliable, -, rfl⟩ | ⟨old, hkeeps⟩
      · exact traced_entered s'.connectionId hc hp hreliable hsorted
      · rw [hid]
        exact traced_kept hstep hn hkeeps (htracked k old hkeeps.before) hsorted

/-- What is due, and what became of everything that was pending, at the end of a log.  The time
`nowMs` is not before any time of the log. -/
structure Disciplined (options : SessionOptions) (log : CallLog) (s : Session) : Prop where
  /-- What is due was created reliable by a call of the log, is not acknowledged since, has not
  expired, and was not sent for as long as the delay. -/
  sound : ∀ nowMs, (∀ t ∈ log.times, t ≤ nowMs) → ∀ p ∈ (s.dueResends nowMs).1,
    (∃ o after, CallLog.Enters log p o after ∧
      CallLog.Unacknowledged after s.connectionId p.sequence ∧ (o.entry p).live nowMs = true) ∧
    ∀ t ∈ log.sentAt p, t + options.resendDelayMs ≤ nowMs
  /-- What is pending, has not expired and was not sent for as long as the delay is due. -/
  complete : ∀ nowMs, (∀ t ∈ log.times, t ≤ nowMs) →
    ∀ (k : UInt32) (e : PendingReliablePacket), s.pendingReliable[k]? = some e →
      e.live nowMs = true → (∀ t ∈ log.sentAt e.packet, t + options.resendDelayMs ≤ nowMs) →
        e.packet ∈ (s.dueResends nowMs).1
  ascending : ∀ nowMs, (s.dueResends nowMs).1.Pairwise fun p q => p.sequence < q.sequence
  /-- Whatever was entered is pending, acknowledged, expired or cleared, and one of these only. -/
  books : ∃ ledger, Machine.Run Ledger.step (Ledger.new options) log ledger ∧
    ledger.session = s ∧
    (s.pendingReliable.keys ++
      (ledger.acknowledged ++ ledger.expired ++ ledger.cleared)).Perm ledger.entered ∧
    ledger.entered.Nodup ∧ s.reliablePacketsExpired = ledger.expired.length

/-- **Retransmission along every run whose times do not decrease.** -/
theorem dueResends_disciplined {options : SessionOptions} {log : CallLog} {s : Session}
    (h : Machine.Run Session.call (Session.new options) log s)
    (hsorted : log.times.Pairwise (· ≤ ·)) : Disciplined options log s := by
  obtain ⟨hn, htracked⟩ := tracked_of_run h hsorted
  have hdelay : s.resendDelayMs = options.resendDelayMs := by
    have hkeeps : ∀ (t : Session) (c : Call) out t', t.resendDelayMs = options.resendDelayMs →
        t.call c = some (out, t') → t'.resendDelayMs = options.resendDelayMs :=
      fun t c out t' ht hstep => (call_pends hstep).delay.trans ht
    exact h.invariant (by rfl) hkeeps
  refine ⟨?_, ?_, fun nowMs => dueResends_ascending hn nowMs, ?_⟩
  · intro nowMs hnow p hp
    obtain ⟨k, e, he, hlive, hdue, rfl⟩ := mem_dueResends.mp hp
    have htraced := htracked k e he
    obtain ⟨o, after, henters, hdeadline, hunacked⟩ := htraced.entered
    refine ⟨⟨o, after, henters, hunacked, ?_⟩, ?_⟩
    · unfold PendingReliablePacket.live at hlive ⊢
      rw [← hdeadline]
      exact hlive
    · intro t ht
      have hlast := htraced.latest t ht
      have hpast := hnow e.lastSentAtMs ((CallLog.sentAt_sublist log e.packet).subset htraced.sent)
      rw [resendDue, decide_eq_true_eq, hdelay] at hdue
      omega
  · intro nowMs _ k e he hlive hsent
    have hlast := hsent e.lastSentAtMs (htracked k e he).sent
    refine mem_dueResends.mpr ⟨k, e, he, hlive, ?_, rfl⟩
    rw [resendDue, decide_eq_true_eq, hdelay]
    omega
  · obtain ⟨ledger, hrun, rfl⟩ := Ledger.exists_run (Ledger.new options) h
    have hbalanced := Ledger.balanced_of_run hrun
    exact ⟨ledger, hrun, rfl, hbalanced.accounts, hbalanced.nodup, hbalanced.counted⟩

/-- An Ack of the packet number 1. -/
def firstAck : Packet where
  packetType := .ack
  connectionId := 0
  sequence := 1
  ack := 1
  ackMask := 0
  channelId := "control"
  reliable := false
  ordered := false
  sequenced := false
  fragmentId := 0
  fragmentIndex := 0
  fragmentCount := 0
  payload := []

/-- Two packets sent at 0, the first acknowledged at 10: at 250 the second is due. -/
theorem dueResends_disciplined_two :
    ∃ log s, Machine.Run Session.call (Session.new {}) log s ∧
      (CallLog.times log).Pairwise (· ≤ ·) ∧ Disciplined {} log s ∧
      (s.dueResends 250).1.map Packet.sequence = [2] := by
  have hexec : ((Machine.exec Session.call (Session.new {})
      [.assumeConnected 0, .send "media" [7] { reliable := true },
        .send "media" [8] { reliable := true, reliableExpireAfterMs := some 500 },
        .receive firstAck 10]).any fun result =>
      decide ((CallLog.times result.1).Pairwise (· ≤ ·)) &&
        decide ((result.2.dueResends 250).1.map Packet.sequence = [2])) = true := by
    decide +kernel
  obtain ⟨log, s, hrun, -, hcheck⟩ := Machine.Run.of_exec_any hexec
  simp only [Bool.and_eq_true, decide_eq_true_eq] at hcheck
  exact ⟨log, s, hrun, hcheck.1, dueResends_disciplined hrun hcheck.1, hcheck.2⟩

end Session

end CultNet.Rudp
