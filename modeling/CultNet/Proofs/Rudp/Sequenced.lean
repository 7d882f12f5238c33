/-
Sequenced channels never go back in time.

The filter of sequenced, unordered frames keeps the number of the last one it let
through on each channel and turns away what is older.  It lets an equal number
through, so that the numbers of what it lets through ascend strictly is not its own
doing: no two frames are ever put together under one number, because no packet is
received twice and none goes into two frames.  That is what the books of an audit say,
and here they are read together with the filter's table.
-/
import CultNet.Proofs.Rudp.Ascending

namespace CultNet.Rudp

/-- What the packet completes goes through the sequenced filter. -/
def Packet.sequencedOnly (packet : Packet) : Bool := packet.sequenced && !packet.ordered

/-- What a log brought out was delivered. -/
theorem CallLog.broughtOut_subset (kind : Packet → Bool) (channelId : String) (log : CallLog) :
    log.broughtOut kind channelId ⊆ log.delivered := by
  intro frame hframe
  obtain ⟨entry, hentry, hmem⟩ := List.mem_flatMap.mp hframe
  refine List.mem_flatMap.mpr ⟨entry, hentry, ?_⟩
  unfold CallLog.brings at hmem
  split at hmem
  · exact (List.mem_filter.mp hmem).1
  · cases hmem

/-- The books on deliveries go back to the last reset. -/
theorem Audit.delivered_sinceReset {options : SessionOptions} {log : CallLog} {audit : Audit}
    (h : Machine.Run Audit.step (Audit.new options) log audit) :
    audit.delivered = log.sinceReset.delivered := by
  induction h with
  | nil => rfl
  | @snoc log audit audit' c out _ hstep ih =>
      cases hreset : c.isReset with
      | true =>
          rw [CallLog.sinceReset_reset log out hreset]
          cases c with
          | resetPeerState =>
              simp only [Audit.step, Session.call, Option.some.injEq, Prod.mk.injEq] at hstep
              obtain ⟨-, rfl⟩ := hstep
              rfl
          | _ => cases hreset
      | false =>
          have hcall : c ≠ .resetPeerState := by
            rintro rfl
            cases hreset
          rw [CallLog.sinceReset_snoc log out hreset, (Audit.step_books hstep hcall).2.2, ih]
          unfold CallLog.delivered
          rw [List.flatMap_append, List.flatMap_singleton]

namespace Session

/-! ### The filter -/

/-- A frame goes through if the last one that did is not newer, and is the last one then. -/
theorem admitSequenced_eq {s : Session} {packet : Packet} (h : packet.sequencedOnly = true)
    (frame : DeliveredFrame) :
    s.admitSequenced packet.sequenced false frame =
      if (s.highestDeliveredSequencedByChannel[frame.channelId]?).all (· ≤ frame.sequence) then
        some { s with highestDeliveredSequencedByChannel :=
          s.highestDeliveredSequencedByChannel.insert frame.channelId frame.sequence }
      else none := by
  have hsequenced : packet.sequenced = true := (Bool.and_eq_true_iff.mp h).1
  unfold admitSequenced
  rw [hsequenced, Std.ExtTreeMap.getD_eq_getD_getElem?]
  cases s.highestDeliveredSequencedByChannel[frame.channelId]? with
  | none => simp
  | some highest =>
      by_cases hold : frame.sequence < highest
      · simp [hold, UInt32.not_le.mpr hold]
      · simp [hold, UInt32.not_lt.mp hold]

/-- What a packet of another kind completes does not come before the filter. -/
theorem admitSequenced_other {s u : Session} {packet : Packet} {ordered : Bool}
    {frame : DeliveredFrame} (h : (packet.sequenced && !ordered) = false)
    (hpass : s.admitSequenced packet.sequenced ordered frame = some u) : u = s := by
  unfold admitSequenced at hpass
  rw [h] at hpass
  cases hpass
  rfl

/-- What a Data packet of the kind delivers, and what the filter's table is afterwards. -/
inductive Sifts (s : Session) (packet : Packet) : List DeliveredFrame → Session → Prop
  | nothing {t : Session} (hnone : s.assembly? packet = none)
      (htable : t.highestDeliveredSequencedByChannel = s.highestDeliveredSequencedByChannel) :
      Sifts s packet [] t
  | old {t : Session} (a : Assembly) (hsome : s.assembly? packet = some a) (highest : UInt32)
      (hhighest : s.highestDeliveredSequencedByChannel[packet.channelId]? = some highest)
      (hold : a.frame.sequence < highest)
      (htable : t.highestDeliveredSequencedByChannel = s.highestDeliveredSequencedByChannel) :
      Sifts s packet [] t
  | admitted {t : Session} (a : Assembly) (hsome : s.assembly? packet = some a)
      (hnew : ∀ highest, s.highestDeliveredSequencedByChannel[packet.channelId]? = some highest →
        highest ≤ a.frame.sequence)
      (htable : t.highestDeliveredSequencedByChannel =
        s.highestDeliveredSequencedByChannel.insert packet.channelId a.frame.sequence) :
      Sifts s packet [a.frame] t

/-- **A sequenced, unordered packet goes through the filter of its channel.** -/
theorem Receipt.sifts {s t : Session} {packet : Packet} {expected : UInt32}
    {result : Except Fault ReceiveResult} (h : Receipt s packet expected result t)
    (hchannels : s.Channels) (hkind : packet.sequencedOnly = true) :
    Sifts s packet (deliveredBy result) t := by
  have hremembered : (s.rememberReceived packet.sequence).Channels :=
    hchannels.congr rfl fun _ => rfl
  have hordered : packet.ordered = false := by
    have hboth := Bool.and_eq_true_iff.mp hkind
    simpa using hboth.2
  cases h with
  | duplicate hold => exact .nothing (if_pos hold) rfl
  | refused hnew message _ hr =>
      exact .nothing (assembly?_eq_none hnew hr fun made hc => by cases hc)
        (reassembles_of_eq hr).sequenced
  | incomplete hnew _ hr =>
      exact .nothing (assembly?_eq_none hnew hr fun made hc => by cases hc)
        (reassembles_of_eq hr).sequenced
  | filtered hnew frame next _ hr hpass =>
      have hmade := reassembles_of_eq hr
      have htable : t.highestDeliveredSequencedByChannel = s.highestDeliveredSequencedByChannel :=
        hmade.sequenced
      rw [admitSequenced_eq hkind, (hremembered.frame hmade).1, htable] at hpass
      split at hpass
      · cases hpass
      · rename_i hnot
        cases hhighest : s.highestDeliveredSequencedByChannel[packet.channelId]? with
        | none => simp [hhighest] at hnot
        | some highest =>
            rw [hhighest] at hnot
            have hlt : frame.sequence < highest := by simpa using hnot
            exact .old _ (assembly?_eq_some hnew hr) highest hhighest hlt htable
  | unordered hnew frame next u _ hr hpass =>
      have hmade := reassembles_of_eq hr
      have htable : u.highestDeliveredSequencedByChannel = s.highestDeliveredSequencedByChannel :=
        hmade.sequenced
      rw [admitSequenced_eq hkind, (hremembered.frame hmade).1, htable] at hpass
      split at hpass
      · rename_i hall
        cases hpass
        refine .admitted _ (assembly?_eq_some hnew hr) ?_ rfl
        intro highest hhighest
        rw [hhighest] at hall
        simpa using hall
      · cases hpass
  | ordered hnew frame next u hr =>
      have hflag := (hremembered.frame (reassembles_of_eq hr)).2
      rw [hordered] at hflag
      cases hflag

/-- What a packet puts together is on its channel. -/
theorem Channels.assembly {s : Session} {packet : Packet} {a : Assembly} (h : s.Channels)
    (ha : s.assembly? packet = some a) : a.frame.channelId = packet.channelId := by
  unfold assembly? at ha
  split at ha
  · cases ha
  · split at ha
    · rename_i frame ordered next hr
      cases ha
      exact (h.frame (reassembles_of_eq (Prod.ext hr rfl))).1
    · cases ha

/-- A packet that puts a frame together is not refused. -/
theorem Receipt.ok_of_assembly {s t : Session} {packet : Packet} {expected : UInt32}
    {result : Except Fault ReceiveResult} (h : Receipt s packet expected result t) {a : Assembly}
    (ha : s.assembly? packet = some a) : ∃ r, result = .ok r := by
  cases h with
  | duplicate _ => exact ⟨_, rfl⟩
  | refused hnew message _ hr =>
      rw [assembly?_eq_none hnew hr fun made hc => by cases hc] at ha
      cases ha
  | incomplete _ _ _ => exact ⟨_, rfl⟩
  | filtered _ _ _ _ _ _ => exact ⟨_, rfl⟩
  | unordered _ _ _ _ _ _ _ => exact ⟨_, rfl⟩
  | ordered _ _ _ _ _ => exact ⟨_, rfl⟩

/-- A packet of another kind leaves the filter's table alone. -/
theorem Receipt.unsifted {s t : Session} {packet : Packet} {expected : UInt32}
    {result : Except Fault ReceiveResult} (h : Receipt s packet expected result t)
    (hchannels : s.Channels) (hkind : packet.sequencedOnly = false) :
    t.highestDeliveredSequencedByChannel = s.highestDeliveredSequencedByChannel := by
  have hremembered : (s.rememberReceived packet.sequence).Channels :=
    hchannels.congr rfl fun _ => rfl
  cases h with
  | duplicate _ => rfl
  | refused _ message _ hr => exact (reassembles_of_eq hr).sequenced
  | incomplete _ _ hr => exact (reassembles_of_eq hr).sequenced
  | filtered _ frame next _ hr _ => exact (reassembles_of_eq hr).sequenced
  | unordered _ frame next u _ hr hpass =>
      have hmade := reassembles_of_eq hr
      have hflag := (hremembered.frame hmade).2
      unfold Packet.sequencedOnly at hkind
      rw [← hflag] at hkind
      rw [admitSequenced_other hkind hpass]
      exact hmade.sequenced
  | ordered _ frame next u hr =>
      rw [(deliverOrdered_stream u frame next expected).2.sequenced]
      exact (reassembles_of_eq hr).sequenced

/-! ### The filter's table against the log -/

/-- The numbers of the sequenced, unordered frames that a log brought out on a channel. -/
def sifted (log : CallLog) (channelId : String) : List UInt32 :=
  (log.broughtOut Packet.sequencedOnly channelId).map (·.sequence)

/-- The table has the largest number let through on each channel, and they have ascended. -/
structure Sifting (s : Session) (log : CallLog) : Prop where
  ascending : ∀ channelId, (sifted log channelId).Pairwise (· < ·)
  bound : ∀ channelId, ∀ q ∈ sifted log channelId, ∃ highest,
    s.highestDeliveredSequencedByChannel[channelId]? = some highest ∧ q ≤ highest
  highest : ∀ channelId highest,
    s.highestDeliveredSequencedByChannel[channelId]? = some highest →
      highest ∈ sifted log channelId

theorem sifting_of_empty {s : Session} (h : s.highestDeliveredSequencedByChannel = ∅) :
    s.Sifting [] where
  ascending := fun _ => List.Pairwise.nil
  bound := by intro channelId q hq; cases hq
  highest := by
    intro channelId highest hhighest
    rw [h, Std.ExtTreeMap.getElem?_empty] at hhighest
    cases hhighest

/-- Newer than what the table has is newer than everything let through. -/
theorem Sifting.newer_iff {s : Session} {log : CallLog} (h : s.Sifting log) (channelId : String)
    (q : UInt32) : (∀ q' ∈ sifted log channelId, q' < q) ↔
      ∀ highest, s.highestDeliveredSequencedByChannel[channelId]? = some highest →
        highest < q := by
  constructor
  · exact fun hall highest hhighest => hall highest (h.highest channelId highest hhighest)
  · intro hall q' hq'
    obtain ⟨highest, hhighest, hle⟩ := h.bound channelId q' hq'
    exact UInt32.lt_of_le_of_lt hle (hall highest hhighest)

theorem sifted_snoc (log : CallLog) (entry : Call × Output) (channelId : String) :
    sifted (log ++ [entry]) channelId = sifted log channelId ++
      (CallLog.brings Packet.sequencedOnly channelId entry).map (·.sequence) := by
  unfold sifted
  rw [CallLog.broughtOut_snoc, List.map_append]

/-- A call that brings nothing out through the filter. -/
theorem Sifting.silent {s s' : Session} {log : CallLog} {entry : Call × Output} (h : s.Sifting log)
    (htable : s'.highestDeliveredSequencedByChannel = s.highestDeliveredSequencedByChannel)
    (hnone : ∀ channelId, CallLog.brings Packet.sequencedOnly channelId entry = []) :
    s'.Sifting (log ++ [entry]) := by
  have hsame : ∀ channelId, sifted (log ++ [entry]) channelId = sifted log channelId := by
    intro channelId
    rw [sifted_snoc, hnone, List.map_nil, List.append_nil]
  refine ⟨?_, ?_, ?_⟩
  · intro channelId
    rw [hsame]
    exact h.ascending channelId
  · intro channelId
    rw [hsame, htable]
    exact h.bound channelId
  · intro channelId
    rw [hsame, htable]
    exact h.highest channelId

/-- A call that brings out one frame, newer than everything let through on its channel. -/
theorem Sifting.admitted {s s' : Session} {log : CallLog} {entry : Call × Output}
    {channelId : String} {q : UInt32} (h : s.Sifting log)
    (hnew : ∀ q' ∈ sifted log channelId, q' < q)
    (htable : s'.highestDeliveredSequencedByChannel =
      s.highestDeliveredSequencedByChannel.insert channelId q)
    (hone : ∀ other, (CallLog.brings Packet.sequencedOnly other entry).map (·.sequence) =
      if channelId = other then [q] else []) : s'.Sifting (log ++ [entry]) := by
  refine ⟨?_, ?_, ?_⟩
  · intro other
    rw [sifted_snoc, hone]
    split
    · rename_i hown
      subst hown
      refine List.pairwise_append.mpr ⟨h.ascending channelId, List.pairwise_singleton _ _, ?_⟩
      intro q' hq' q'' hq''
      rw [List.mem_singleton.mp hq'']
      exact hnew q' hq'
    · rw [List.append_nil]
      exact h.ascending other
  · intro other q' hq'
    rw [sifted_snoc, hone] at hq'
    rw [htable, OrderedMap.getElem?_insert_eq]
    split at hq'
    · rename_i hown
      subst hown
      rw [if_pos rfl]
      refine ⟨q, rfl, ?_⟩
      rcases List.mem_append.mp hq' with hq' | hq'
      · exact UInt32.le_of_lt (hnew q' hq')
      · rw [List.mem_singleton.mp hq']
        exact UInt32.le_refl q
    · rename_i hother
      rw [if_neg hother]
      rw [List.append_nil] at hq'
      exact h.bound other q' hq'
  · intro other highest hhighest
    rw [htable, OrderedMap.getElem?_insert_eq] at hhighest
    rw [sifted_snoc, hone]
    split at hhighest
    · rename_i hown
      rw [if_pos hown, ← Option.some.inj hhighest]
      exact List.mem_append_right _ (List.mem_singleton_self q)
    · rename_i hother
      rw [if_neg hother, List.append_nil]
      exact h.highest other highest hhighest

/-- **One call, whatever it is but a reset.**  What it puts together has a number of its own. -/
theorem Sifting.call {s s' : Session} {log : CallLog} {c : Call} {out : Output}
    (h : s.Sifting log) (hchannels : s.Channels) (hcall : s.call c = some (out, s'))
    (hreset : c.isReset = false)
    (hfresh : ∀ packet a, s.data? c = some packet → s.assembly? packet = some a →
      a.frame.sequence ∉ log.delivered.map (·.sequence)) : s'.Sifting (log ++ [(c, out)]) := by
  obtain ⟨-, htakes⟩ := call_effect hcall
  cases htakes with
  | idle hinbound hdelivered =>
      exact h.silent (congrArg Inbound.highestDeliveredSequencedByChannel hinbound)
        fun channelId => CallLog.brings_of_silent _ channelId c hdelivered
  | control packet _ _ _ hinbound hdelivered =>
      have htable : s'.highestDeliveredSequencedByChannel = s.highestDeliveredSequencedByChannel :=
        congrArg Inbound.highestDeliveredSequencedByChannel hinbound
      exact h.silent htable fun channelId => CallLog.brings_of_silent _ channelId c hdelivered
  | data packet nowMs hc hid htype result hr hdelivered =>
      subst hc
      have hreceipt := receiveData_receipt (s.receiveBase packet nowMs) packet
        (s.expectedSequence packet)
      rw [hr] at hreceipt
      have hbase : (s.receiveBase packet nowMs).Channels := hchannels.congr rfl fun _ => rfl
      cases hkind : packet.sequencedOnly with
      | false =>
          exact h.silent (hreceipt.unsifted hbase hkind)
            fun channelId => CallLog.brings_of_other channelId nowMs out hkind
      | true =>
          have hone : ∀ other, CallLog.brings Packet.sequencedOnly other
              (.receive packet nowMs, out) = if packet.channelId = other then out.delivered
                else [] := by
            intro other
            refine CallLog.brings_of_kind other nowMs out hkind ?_
            rw [hdelivered]
            exact (hreceipt.channels hbase).2
          have hsifts := hreceipt.sifts hbase hkind
          rw [← hdelivered] at hsifts
          generalize hout : out.delivered = delivered at hsifts hone
          cases hsifts with
          | nothing _ htable =>
              refine h.silent htable fun other => ?_
              rw [hone, ite_self]
          | old a _ highest _ _ htable =>
              refine h.silent htable fun other => ?_
              rw [hone, ite_self]
          | admitted a hsome hnew htable =>
              rw [assembly?_receiveBase] at hsome
              refine h.admitted (q := a.frame.sequence) ((h.newer_iff packet.channelId _).mpr ?_)
                htable ?_
              · -- the filter admits an equal number, but no frame has one
                intro highest hhighest
                refine UInt32.lt_of_le_of_ne (hnew highest hhighest) ?_
                rintro rfl
                have hmem := h.highest packet.channelId _ hhighest
                refine hfresh packet a (if_pos ⟨htype, hid⟩) hsome ?_
                exact List.map_subset _ (CallLog.broughtOut_subset _ _ log) hmem
              · intro other
                rw [hone]
                split <;> rfl
  | reset hc _ _ =>
      rw [hc] at hreset
      cases hreset

/-- What a call puts together has a number that nothing delivered before has. -/
theorem assembly_fresh {options : SessionOptions} {log : CallLog} {audit : Audit}
    (h : Machine.Run Audit.step (Audit.new options) log audit) {packet : Packet}
    {nowMs : Nat} {a : Assembly} {s' : Session} {out : Output}
    (hcall : audit.session.call (.receive packet nowMs) = some (out, s'))
    (hdata : audit.session.data? (.receive packet nowMs) = some packet)
    (ha : audit.session.assembly? packet = some a) :
    a.frame.sequence ∉ log.sinceReset.delivered.map (·.sequence) := by
  rw [← Audit.delivered_sinceReset h]
  have hok := Audit.auditOK_run h
  obtain ⟨audit', hstep⟩ : ∃ audit', audit.step (.receive packet nowMs) = some (out, audit') := by
    unfold Audit.step
    rw [hcall]
    exact ⟨_, rfl⟩
  have hassembled := (Audit.step_books hstep (by rintro ⟨⟩)).2.1
  rw [hdata, Option.bind_some, ha] at hassembled
  have hparts := (Audit.auditOK_step hok hstep).parts
  rw [hassembled] at hparts
  exact (hok.frames.fresh hparts).1

/-- **A whole run**, from the last reset on. -/
theorem sifting_run {options : SessionOptions} {log : CallLog} {audit : Audit}
    (h : Machine.Run Audit.step (Audit.new options) log audit) :
    audit.session.Channels ∧ audit.session.Sifting log.sinceReset := by
  induction h with
  | nil => exact ⟨channels_of_empty rfl rfl, sifting_of_empty rfl⟩
  | @snoc log audit audit' c out hrun hstep ih =>
      have hcall := Audit.step_session hstep
      refine ⟨call_channels hcall ih.1, ?_⟩
      cases hreset : c.isReset with
      | true =>
          rw [CallLog.sinceReset_reset log out hreset]
          cases c with
          | resetPeerState =>
              rw [Session.call, Option.some.injEq, Prod.mk.injEq] at hcall
              rw [← hcall.2]
              exact sifting_of_empty rfl
          | _ => cases hreset
      | false =>
          rw [CallLog.sinceReset_snoc log out hreset]
          refine ih.2.call ih.1 hcall hreset fun packet a hdata ha => ?_
          obtain ⟨-, nowMs, rfl⟩ := Audit.data?_eq_some hdata
          exact assembly_fresh hrun hcall hdata ha

/--
**Sequenced channels never go back in time.**  What comes out through the filter of a
channel has ascended strictly since the last reset; and wherever a run has got, a packet
that completes such a frame delivers it in the same call exactly if the frame is newer
than everything that has come out through the filter of its channel before.
-/
theorem sequenced_frames_ascend {options : SessionOptions} {log : CallLog} {s : Session}
    (hrun : Machine.Run Session.call (Session.new options) log s) (channelId : String) :
    (sifted log.sinceReset channelId).Pairwise (· < ·) ∧
      ∀ packet nowMs a, packet.packetType = .data → packet.connectionId = s.connectionId →
        packet.sequencedOnly = true → packet.channelId = channelId →
        s.assembly? packet = some a →
          a.frame.channelId = channelId ∧
            ∃ result s', s.receive packet nowMs = (.ok result, s') ∧
              (result.delivered = [a.frame] ∨ result.delivered = []) ∧
              (result.delivered = [a.frame] ↔
                ∀ q ∈ sifted log.sinceReset channelId, q < a.frame.sequence) := by
  obtain ⟨audit, haudit, rfl⟩ := Audit.exists_run (Audit.new options) hrun
  obtain ⟨hchannels, hsifting⟩ := sifting_run haudit
  refine ⟨hsifting.ascending channelId, ?_⟩
  rintro packet nowMs a htype hid hkind rfl ha
  refine ⟨hchannels.assembly ha, ?_⟩
  have hbase : (audit.session.receiveBase packet nowMs).Channels :=
    hchannels.congr rfl fun _ => rfl
  have hreceipt := receiveData_receipt (audit.session.receiveBase packet nowMs) packet
    (audit.session.expectedSequence packet)
  rw [← receive_data nowMs hid htype] at hreceipt
  have ha' := ha
  rw [← assembly?_receiveBase audit.session packet nowMs] at ha'
  obtain ⟨result, hok⟩ := hreceipt.ok_of_assembly ha'
  have hreceive : audit.session.receive packet nowMs
      = (.ok result, (audit.session.receive packet nowMs).2) := Prod.ext hok rfl
  refine ⟨result, _, hreceive, ?_⟩
  have hsifts := hreceipt.sifts hbase hkind
  rw [hok, deliveredBy] at hsifts
  rw [hsifting.newer_iff packet.channelId]
  generalize hout : result.delivered = delivered at hsifts
  cases hsifts with
  | nothing hnone _ =>
      rw [ha'] at hnone
      cases hnone
  | old b hsome highest hhighest hold _ =>
      rw [ha', Option.some.injEq] at hsome
      subst hsome
      refine ⟨Or.inr rfl, fun heq => (by cases heq), fun hnewer => ?_⟩
      exact absurd (hnewer highest hhighest) (UInt32.lt_asymm hold)
  | admitted b hsome hnew _ =>
      rw [ha', Option.some.injEq] at hsome
      subst hsome
      refine ⟨Or.inl rfl, fun _ highest hhighest => ?_, fun _ => rfl⟩
      refine UInt32.lt_of_le_of_ne (hnew highest hhighest) ?_
      rintro rfl
      have hcall : audit.session.call (.receive packet nowMs) = some
          ({ created := result.reply.toList, delivered := result.delivered },
            (audit.session.receive packet nowMs).2) := by
        rw [Session.call, hreceive]
        rfl
      refine assembly_fresh haudit hcall (if_pos ⟨htype, hid⟩) ha ?_
      exact List.map_subset _ (CallLog.broughtOut_subset _ _ _)
        (hsifting.highest packet.channelId _ hhighest)

/-- A packet on the sequenced channel `pose`. -/
def posePacket (sequence : UInt32) (fragmentId fragmentIndex fragmentCount : UInt16) : Packet where
  packetType := .data
  connectionId := 0
  sequence
  ack := 0
  ackMask := 0
  channelId := "pose"
  reliable := false
  ordered := false
  sequenced := true
  fragmentId
  fragmentIndex
  fragmentCount
  payload := [7]

/-- Two messages of two fragments each, interleaved; the older one is completed last. -/
def poseCalls : List Call :=
  [.receive (posePacket 1 0 0 0) 0, .receive (posePacket 4 1 0 2) 0,
    .receive (posePacket 6 2 1 2) 0, .receive (posePacket 5 2 0 2) 0,
    .receive (posePacket 3 1 1 2) 0]

theorem sequenced_frames_ascend_pose :
    ∃ (log : CallLog) (s : Session), Machine.Run Session.call (Session.new {}) log s ∧
      sifted log.sinceReset "pose" = [1, 5] ∧ (sifted log.sinceReset "pose").Pairwise (· < ·) ∧
      ∃ result s', s.receive (posePacket 9 0 0 0) 0 = (.ok result, s') ∧
        result.delivered = [{ channelId := "pose", payload := [7], sequence := 9 }] := by
  have hexec : ((Machine.exec Session.call (Session.new {}) poseCalls).any fun r =>
      sifted (CallLog.sinceReset r.1) "pose" = [1, 5] &&
        r.2.connectionId = 0 && 9 ∉ r.2.receivedSequences) = true := by decide +kernel
  obtain ⟨log, s, hrun, -, hcheck⟩ := Machine.Run.of_exec_any hexec
  simp only [Bool.and_eq_true, decide_eq_true_eq] at hcheck
  obtain ⟨⟨hsifted, hid⟩, hnew⟩ := hcheck
  obtain ⟨hascending, hnext⟩ := sequenced_frames_ascend hrun "pose"
  have hwhole : s.assembly? (posePacket 9 0 0 0) = some
      { frame := { channelId := "pose", payload := [7], sequence := 9 }, parts := [(9, [7])] } :=
    if_neg hnew
  obtain ⟨-, result, s', hreceive, -, hiff⟩ :=
    hnext (posePacket 9 0 0 0) 0 _ rfl hid.symm rfl rfl hwhole
  refine ⟨log, s, hrun, hsifted, hascending, result, s', hreceive, hiff.mpr ?_⟩
  rw [hsifted]
  intro earlier hearlier
  rcases List.mem_pair.mp hearlier with rfl | rfl <;> decide

end Session

end CultNet.Rudp
