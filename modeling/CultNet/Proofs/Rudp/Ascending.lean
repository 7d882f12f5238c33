/-
Ordered frames come out ascending, whoever the peer is.

A frame goes out under the smallest of the numbers it was made of and is followed by
the number after the largest, and so does every frame that waits.  Below the top of
the number range that is a larger number, and the stream of a channel is a resequencer
that moves on with every frame it gives out.  Nothing is assumed of the fragments, of
the order in which packets come, or of what else arrives on the channel.

The loop of `drain_ordered` takes a frame out of its buffer in every iteration, so it
is over before it has made more of them than the buffer has frames.
-/
import CultNet.Proofs.Rudp.AtMostOnce
import CultNet.Proofs.Rudp.Channel
import Mathlib.Data.List.DropRight

namespace CultNet.Rudp

/-! ### Logs -/

/-- The call is `reset_peer_state`. -/
def Call.isReset : Call → Bool
  | .resetPeerState => true
  | _ => false

namespace CallLog

/-- What a log has after the last reset of the peer state. -/
def sinceReset (log : CallLog) : CallLog := log.rtakeWhile fun entry => !entry.1.isReset

/-- The frames on a channel that a call brings out when it takes a packet of a kind. -/
def brings (kind : Packet → Bool) (channelId : String) (entry : Call × Output) :
    List DeliveredFrame :=
  if entry.1.input?.any kind then entry.2.delivered.filter fun frame => frame.channelId = channelId
  else []

/-- The frames on a channel that packets of a kind brought out, in order. -/
def broughtOut (kind : Packet → Bool) (channelId : String) (log : CallLog) :
    List DeliveredFrame :=
  log.flatMap (brings kind channelId)

theorem sinceReset_snoc (log : CallLog) {c : Call} (out : Output) (h : c.isReset = false) :
    sinceReset (log ++ [(c, out)]) = sinceReset log ++ [(c, out)] :=
  List.rtakeWhile_concat_pos _ _ _ (by simp [h])

theorem sinceReset_reset (log : CallLog) {c : Call} (out : Output) (h : c.isReset = true) :
    sinceReset (log ++ [(c, out)]) = [] :=
  List.rtakeWhile_concat_neg _ _ _ (by simp [h])

theorem broughtOut_snoc (kind : Packet → Bool) (channelId : String) (log : CallLog)
    (entry : Call × Output) :
    broughtOut kind channelId (log ++ [entry]) =
      broughtOut kind channelId log ++ brings kind channelId entry := by
  unfold broughtOut
  rw [List.flatMap_append, List.flatMap_singleton]

/-- A call that delivers nothing brings nothing out. -/
theorem brings_of_silent (kind : Packet → Bool) (channelId : String) (c : Call) {out : Output}
    (h : out.delivered = []) : brings kind channelId (c, out) = [] := by
  unfold brings
  rw [h]
  split <;> rfl

/-- A packet of another kind brings nothing out. -/
theorem brings_of_other {kind : Packet → Bool} (channelId : String) {packet : Packet}
    (nowMs : Nat) (out : Output) (h : kind packet = false) :
    brings kind channelId (.receive packet nowMs, out) = [] := by
  unfold brings
  rw [if_neg]
  simp [Call.input?, h]

/-- A packet of the kind brings out what it delivers, if it is on the channel. -/
theorem brings_of_kind {kind : Packet → Bool} (channelId : String) {packet : Packet}
    (nowMs : Nat) (out : Output) (h : kind packet = true)
    (hchannel : ∀ frame ∈ out.delivered, frame.channelId = packet.channelId) :
    brings kind channelId (.receive packet nowMs, out) =
      if packet.channelId = channelId then out.delivered else [] := by
  unfold brings
  rw [if_pos (by simpa [Call.input?] using h)]
  by_cases hown : packet.channelId = channelId
  · rw [if_pos hown]
    refine List.filter_eq_self.mpr fun frame hframe => ?_
    simpa [hown] using hchannel frame hframe
  · rw [if_neg hown]
    refine List.filter_eq_nil_iff.mpr fun frame hframe => ?_
    simpa [hchannel frame hframe] using hown

end CallLog

/-- The number a waiting frame goes out under. -/
def PendingOrderedFrame.sequence (pending : PendingOrderedFrame) : UInt32 :=
  pending.frame.sequence

namespace Session

/-! ### Numbers below the top -/

/-- Every number in a fragment buffer is below the top of the range. -/
def Low (s : Session) : Prop := ∀ key index part, s.Holds key index part → part.1 < u32Max

theorem Low.of_buffers {s t : Session} (h : s.Low)
    (hbuffers : t.fragmentBuffers = s.fragmentBuffers) : t.Low := by
  rintro key index part ⟨buffer, hbuffer, hslot⟩
  rw [hbuffers] at hbuffer
  exact h key index part ⟨buffer, hbuffer, hslot⟩

theorem low_of_empty {s : Session} (h : s.fragmentBuffers = ∅) : s.Low := by
  rintro key index part ⟨buffer, hbuffer, -⟩
  rw [h, Std.ExtTreeMap.getElem?_empty] at hbuffer
  cases hbuffer

theorem lt_succ_of_lt {a b : UInt32} (hab : a ≤ b) (hb : b < u32Max) : a < b + 1 := by
  have hne : b ≠ u32Max := UInt32.ne_of_lt hb
  rw [UInt32.lt_iff_toNat_lt, toNat_succ hne]
  exact Nat.lt_succ_of_le (UInt32.le_iff_toNat_le.mp hab)

/-- The smallest number of a frame is below the number after the largest. -/
theorem min_lt_succ_max {sequences : List UInt32} (hne : sequences ≠ [])
    (hlow : ∀ q ∈ sequences, q < u32Max) :
    sequences.min?.getD 0 < sequences.max?.getD 0 + 1 := by
  obtain ⟨low, hmin⟩ := Option.isSome_iff_exists.mp (List.isSome_min?_of_ne_nil hne)
  obtain ⟨high, hmax⟩ := Option.isSome_iff_exists.mp (List.isSome_max?_of_ne_nil hne)
  rw [hmin, hmax, Option.getD_some, Option.getD_some]
  have hle : low ≤ high := (List.max?_eq_some_iff.mp hmax).2 low (List.min?_mem hmin)
  exact lt_succ_of_lt hle (hlow high (List.max?_mem hmax))

/-- **Reassembly keeps numbers low, and what it puts together moves the stream on.** -/
theorem Reassembles.low {s t : Session} {packet : Packet}
    {result : Except String (Option (DeliveredFrame × Bool × UInt32))} (h : s.Low)
    (hpacket : packet.sequence < u32Max) (hr : Reassembles s packet result t) :
    t.Low ∧ ∀ frame ordered next, result = .ok (some (frame, ordered, next)) →
      frame.sequence < next := by
  have hkept : ∀ {u : Session}, u.fragmentBuffers =
      s.fragmentBuffers.insert packet.fragmentKey ((s.bufferFor packet).add packet) → u.Low := by
    intro u hu key index part hpart
    rcases holds_kept hu hpart with ⟨-, -, rfl⟩ | hold
    · exact hpacket
    · exact h key index part hold
  cases hr with
  | whole _ =>
      refine ⟨h, ?_⟩
      rintro frame ordered next ⟨⟩
      exact lt_succ_of_lt (UInt32.le_refl _) hpacket
  | refused message _ _ => exact ⟨h, fun frame ordered next heq => by cases heq⟩
  | kept _ _ _ => exact ⟨hkept rfl, fun frame ordered next heq => by cases heq⟩
  | completed hcount hfits payload sequences hcollect =>
      -- first the fragment goes into its slot, then the whole buffer becomes a frame
      let kept : Session := { s with
        fragmentBuffers :=
          s.fragmentBuffers.insert packet.fragmentKey ((s.bufferFor packet).add packet) }
      have hlow : kept.Low := hkept rfl
      obtain ⟨parts, rfl, -, hslots⟩ := FragmentBuffer.collect_eq_some hcollect
      refine ⟨?_, ?_⟩
      · intro key index part hpart
        exact hlow key index part (holds_erased (s := kept) rfl rfl hpart).2
      · rintro frame ordered next ⟨⟩
        refine min_lt_succ_max ?_ ?_
        · -- there is a slot, the packet's own
          intro hnil
          have hlength := hslots.length_eq
          rw [List.map_eq_nil_iff.mp hnil, List.length_nil, List.length_eq_zero_iff] at hlength
          have hmem := mem_fragmentIndices.mpr hfits.index
          rw [hlength] at hmem
          cases hmem
        · intro q hq
          obtain ⟨part, hpart, rfl⟩ := List.mem_map.mp hq
          have hheld := hslots.imp fun index part hslot =>
            (⟨_, Std.ExtTreeMap.getElem?_insert_self, hslot⟩ :
              kept.Holds packet.fragmentKey index part)
          obtain ⟨index, -, hpart⟩ := Fallible.exists_mem_of_forall₂ hheld part hpart
          exact hlow packet.fragmentKey index part hpart

/-! ### The streams ascend -/

/-- The numbers `out` went out on a stream, ascending, and what waits on it fits in. -/
def Ascending (out : List UInt32) (r : Resequencer UInt32 PendingOrderedFrame) : Prop :=
  r.Ascends PendingOrderedFrame.sequence PendingOrderedFrame.nextSequence out

/-- **A Data packet keeps every stream ascending**, whatever it is a fragment of. -/
theorem Receipt.ascending {s t : Session} {packet : Packet} {expected : UInt32}
    {result : Except Fault ReceiveResult} (h : Receipt s packet expected result t)
    (hchannels : s.Channels) (hlow : s.Low) (hpacket : packet.sequence < u32Max) :
    t.Low ∧ ∀ channelId out, Ascending out (s.stream channelId) →
      Ascending (out ++ if packet.ordered = true ∧ packet.channelId = channelId then
        (deliveredBy result).map (·.sequence) else []) (t.stream channelId) := by
  have hremembered : (s.rememberReceived packet.sequence).Channels :=
    hchannels.congr rfl fun _ => rfl
  have hlow' : (s.rememberReceived packet.sequence).Low := hlow.of_buffers rfl
  -- nothing goes out, and the stream stays as it is
  have hsilent : ∀ {u : Session} {delivered : List DeliveredFrame} {channelId : String},
      u.stream channelId = s.stream channelId →
      (packet.ordered = true ∧ packet.channelId = channelId → delivered = []) →
      ∀ out, Ascending out (s.stream channelId) →
        Ascending (out ++ if packet.ordered = true ∧ packet.channelId = channelId then
          delivered.map (·.sequence) else []) (u.stream channelId) := by
    intro u delivered channelId hstream hnil out hout
    rw [hstream]
    split
    · rename_i hown
      rw [hnil hown, List.map_nil, List.append_nil]
      exact hout
    · rw [List.append_nil]
      exact hout
  cases h with
  | duplicate _ => exact ⟨hlow', fun channelId => hsilent rfl fun _ => rfl⟩
  | refused _ message _ hr =>
      have hmade := reassembles_of_eq hr
      exact ⟨(hmade.low hlow' hpacket).1, fun channelId => hsilent (hmade.stream channelId)
        fun _ => rfl⟩
  | incomplete _ _ hr =>
      have hmade := reassembles_of_eq hr
      exact ⟨(hmade.low hlow' hpacket).1, fun channelId => hsilent (hmade.stream channelId)
        fun _ => rfl⟩
  | filtered _ frame next _ hr _ =>
      have hmade := reassembles_of_eq hr
      exact ⟨(hmade.low hlow' hpacket).1, fun channelId => hsilent (hmade.stream channelId)
        fun _ => rfl⟩
  | unordered _ frame next u _ hr hpass =>
      have hmade := reassembles_of_eq hr
      have hflag := (hremembered.frame hmade).2
      obtain ⟨hbuffers, hstreams⟩ := admitSequenced_frame hpass
      refine ⟨(hmade.low hlow' hpacket).1.of_buffers hbuffers, fun channelId => ?_⟩
      refine hsilent ((hstreams channelId).trans (hmade.stream channelId)) ?_
      rintro ⟨hordered, -⟩
      rw [← hflag] at hordered
      cases hordered
  | ordered _ frame next u hr =>
      have hmade := reassembles_of_eq hr
      obtain ⟨hchannel, hflag⟩ := hremembered.frame hmade
      obtain ⟨hulow, hforward⟩ := hmade.low hlow' hpacket
      obtain ⟨hout, hstreams⟩ := deliverOrdered_stream u frame next expected
      refine ⟨hulow.of_buffers hstreams.fragmentBuffers, fun channelId out hascending => ?_⟩
      by_cases hown : channelId = frame.channelId
      · -- the frame is pushed into the stream of its channel
        subst hown
        rw [if_pos ⟨hflag.symm, hchannel.symm⟩, hstreams.own]
        have hu : u.stream frame.channelId = s.stream frame.channelId :=
          hmade.stream frame.channelId
        have hnext : PendingOrderedFrame.sequence { frame, nextSequence := next }
            < PendingOrderedFrame.nextSequence { frame, nextSequence := next } :=
          hforward frame true next rfl
        have hpushed := hascending.push hnext (min expected frame.sequence)
        rw [show deliveredBy (.ok { delivered := (u.deliverOrdered frame next expected).1 })
          = (u.deliverOrdered frame next expected).1 from rfl, hout, List.map_map, hu]
        exact hpushed
      · rw [if_neg fun hboth => hown (hboth.2.symm.trans hchannel.symm), List.append_nil,
          hstreams.others channelId hown, hmade.stream channelId]
        exact hascending

/-- What an ordered packet delivers has ascended since the last reset, on every channel. -/
structure Ordering (s : Session) (log : CallLog) : Prop where
  channels : s.Channels
  low : s.Low
  ascending : ∀ channelId,
    Ascending ((log.broughtOut (·.ordered) channelId).map (·.sequence)) (s.stream channelId)

theorem ordering_of_empty {s : Session} (hbuffers : s.fragmentBuffers = ∅)
    (hwaiting : s.orderedBuffers = ∅) : s.Ordering [] where
  channels := channels_of_empty hbuffers hwaiting
  low := low_of_empty hbuffers
  ascending := by
    intro channelId
    refine Resequencer.Ascends.empty fun k => ?_
    show (s.orderedBuffers.getD channelId ∅)[k]? = none
    rw [hwaiting, Std.ExtTreeMap.getD_empty, Std.ExtTreeMap.getElem?_empty]

/-- A call that brings nothing out of the receiving half. -/
theorem Ordering.silent {s s' : Session} {log : CallLog} {c : Call} {out : Output}
    (h : s.Ordering log) (hbuffers : s'.fragmentBuffers = s.fragmentBuffers)
    (hstreams : ∀ channelId, s'.stream channelId = s.stream channelId)
    (hdelivered : out.delivered = []) : s'.Ordering (log ++ [(c, out)]) where
  channels := h.channels.congr hbuffers hstreams
  low := h.low.of_buffers hbuffers
  ascending := by
    intro channelId
    rw [CallLog.broughtOut_snoc, CallLog.brings_of_silent _ _ _ hdelivered, List.append_nil,
      hstreams channelId]
    exact h.ascending channelId

/-- One call, whatever it is but a reset. -/
theorem Ordering.call {s s' : Session} {log : CallLog} {c : Call} {out : Output}
    (h : s.Ordering log) (hcall : s.call c = some (out, s')) (hreset : c.isReset = false)
    (hlow : ∀ packet nowMs, c = .receive packet nowMs → packet.sequence < u32Max) :
    s'.Ordering (log ++ [(c, out)]) := by
  obtain ⟨-, htakes⟩ := call_effect hcall
  cases htakes with
  | idle hinbound hdelivered =>
      exact h.silent (congrArg Inbound.fragmentBuffers hinbound) (stream_of_inbound hinbound)
        hdelivered
  | control packet _ _ _ hinbound hdelivered =>
      refine h.silent (congrArg Inbound.fragmentBuffers hinbound) (fun channelId => ?_) hdelivered
      exact stream_of_inbound hinbound channelId
  | data packet nowMs hc _ _ result hr hdelivered =>
      subst hc
      have hreceipt := receiveData_receipt (s.receiveBase packet nowMs) packet
        (s.expectedSequence packet)
      rw [hr] at hreceipt
      have hbase : (s.receiveBase packet nowMs).Channels := h.channels.congr rfl fun _ => rfl
      obtain ⟨hchannels, hon⟩ := hreceipt.channels hbase
      obtain ⟨hkept, hascending⟩ :=
        hreceipt.ascending hbase (h.low.of_buffers rfl) (hlow packet nowMs rfl)
      refine ⟨hchannels, hkept, fun channelId => ?_⟩
      have hstep := hascending channelId _ (h.ascending channelId)
      rw [CallLog.broughtOut_snoc, List.map_append]
      cases hordered : packet.ordered with
      | false =>
          rw [CallLog.brings_of_other channelId nowMs out hordered, List.map_nil]
          rwa [if_neg (by simp [hordered])] at hstep
      | true =>
          rw [CallLog.brings_of_kind channelId nowMs out hordered (by rwa [hdelivered]),
            hdelivered]
          by_cases hown : packet.channelId = channelId
          · rw [if_pos hown]
            rwa [if_pos ⟨hordered, hown⟩] at hstep
          · rw [if_neg hown, List.map_nil]
            rwa [if_neg fun hboth => hown hboth.2] at hstep
  | reset hc _ _ =>
      rw [hc] at hreset
      cases hreset

/-- **A whole run**, from the last reset on. -/
theorem ordering_run {options : SessionOptions} {log : CallLog} {s : Session}
    (h : Machine.Run Session.call (Session.new options) log s)
    (hlow : ∀ packet nowMs out, (Call.receive packet nowMs, out) ∈ log.sinceReset →
      packet.sequence < u32Max) : s.Ordering log.sinceReset := by
  induction h with
  | nil => exact ordering_of_empty rfl rfl
  | @snoc log s s' c out _ hcall ih =>
      cases hreset : c.isReset with
      | true =>
          rw [CallLog.sinceReset_reset log out hreset]
          cases c with
          | resetPeerState =>
              cases hcall
              exact ordering_of_empty rfl rfl
          | _ => cases hreset
      | false =>
          rw [CallLog.sinceReset_snoc log out hreset] at hlow ⊢
          refine (ih fun packet nowMs out' hmem => ?_).call hcall hreset ?_
          · exact hlow packet nowMs out' (List.mem_append_left _ hmem)
          · rintro packet nowMs rfl
            exact hlow packet nowMs out (List.mem_append_right _ (List.mem_singleton_self _))

/-! ### The loop of `drain_ordered` -/

/-- The loop has nothing left to do: the frame it would take out next is not there. -/
def DrainOver (s : Session) (channelId : String) : Prop :=
  ∀ next buffer, s.orderedNextSequenceByChannel[channelId]? = some next →
    s.orderedBuffers[channelId]? = some buffer → buffer[next]? = none

/-- The loop stands still once it is over. -/
theorem drainOrderedLoop_of_over {s : Session} {channelId : String} (h : s.DrainOver channelId)
    (fuel : Nat) : drainOrderedLoop channelId fuel s = ([], s) := by
  cases fuel with
  | zero => rfl
  | succ fuel =>
      unfold drainOrderedLoop
      split
      · rename_i next buffer hnext hbuffer
        rw [h next buffer hnext hbuffer]
      · rfl

/-- An iteration for each frame in the buffer is enough, and more change nothing. -/
theorem drainOrderedLoop_terminates (channelId : String) (fuel : Nat) : ∀ s : Session,
    (s.orderedBuffers.getD channelId ∅).size ≤ fuel →
      (drainOrderedLoop channelId fuel s).2.DrainOver channelId ∧
        ∀ more, drainOrderedLoop channelId (fuel + more) s = drainOrderedLoop channelId fuel s := by
  induction fuel with
  | zero =>
      intro s hsize
      have hempty : s.orderedBuffers.getD channelId ∅ = ∅ :=
        Std.ExtTreeMap.eq_empty_iff_size_eq_zero.mpr (Nat.le_zero.mp hsize)
      have hover : s.DrainOver channelId := by
        intro next buffer _ hbuffer
        rw [Std.ExtTreeMap.getD_eq_getD_getElem?, hbuffer, Option.getD_some] at hempty
        rw [hempty, Std.ExtTreeMap.getElem?_empty]
      refine ⟨hover, fun more => ?_⟩
      rw [drainOrderedLoop_of_over hover, drainOrderedLoop_of_over hover]
  | succ fuel ih =>
      intro s hsize
      by_cases hover : s.DrainOver channelId
      · rw [drainOrderedLoop_of_over hover]
        refine ⟨hover, fun more => ?_⟩
        rw [drainOrderedLoop_of_over hover]
      · -- the loop takes a frame out, so the buffer it goes on with is smaller
        unfold DrainOver at hover
        push Not at hover
        obtain ⟨next, buffer, hnext, hbuffer, hpending⟩ := hover
        obtain ⟨pending, hpending⟩ := Option.ne_none_iff_exists'.mp hpending
        rw [Std.ExtTreeMap.getD_eq_getD_getElem?, hbuffer, Option.getD_some] at hsize
        have hmem : next ∈ buffer := by
          rw [Std.ExtTreeMap.mem_iff_isSome_getElem?, hpending]
          rfl
        have hrest := ih { s with
          orderedBuffers := s.orderedBuffers.insert channelId (buffer.erase next)
          orderedNextSequenceByChannel :=
            s.orderedNextSequenceByChannel.insert channelId pending.nextSequence } (by
          show ((s.orderedBuffers.insert channelId (buffer.erase next)).getD channelId ∅).size ≤ fuel
          rw [Std.ExtTreeMap.getD_insert_self, Std.ExtTreeMap.size_erase,
            if_pos (Std.ExtTreeMap.mem_iff_contains.mp hmem)]
          omega)
        refine ⟨?_, fun more => ?_⟩
        · unfold drainOrderedLoop
          rw [hnext, hbuffer]
          dsimp only
          rw [hpending]
          exact hrest.1
        · rw [Nat.succ_add]
          unfold drainOrderedLoop
          rw [hnext, hbuffer]
          dsimp only
          rw [hpending]
          dsimp only
          rw [hrest.2 more]

/--
**Ordered frames come out ascending, whoever the peer is.**  Of the packets received
since the last reset nothing is assumed but that their numbers are below the top of the
range; `drain_ordered` leaves its loop by itself, in any session.
-/
theorem ordered_frames_ascend {options : SessionOptions} {log : CallLog} {s : Session}
    (hrun : Machine.Run Session.call (Session.new options) log s)
    (hlow : ∀ packet nowMs out, (Call.receive packet nowMs, out) ∈ log.sinceReset →
      packet.sequence < u32Max) :
    (∀ channelId, ((log.sinceReset.broughtOut (·.ordered) channelId).map
      (·.sequence)).Pairwise (· < ·)) ∧
    ∀ (t : Session) (channelId : String), (t.drainOrdered channelId).2.DrainOver channelId ∧
      ∀ fuel, (t.orderedBuffers.getD channelId ∅).size ≤ fuel →
        drainOrderedLoop channelId fuel t = t.drainOrdered channelId := by
  refine ⟨fun channelId => ((ordering_run hrun hlow).ascending channelId).ascending, ?_⟩
  intro t channelId
  obtain ⟨hover, hmore⟩ := drainOrderedLoop_terminates channelId _ t (Nat.le_refl _)
  refine ⟨hover, fun fuel hfuel => ?_⟩
  obtain ⟨more, rfl⟩ := Nat.exists_eq_add_of_le hfuel
  exact hmore more

/-- A packet of a hostile peer on the channel `media`. -/
def hostile (sequence : UInt32) (ordered : Bool) (fragmentId fragmentIndex fragmentCount : UInt16) :
    Packet where
  packetType := .data
  connectionId := 0
  sequence
  ack := 0
  ackMask := 0
  channelId := "media"
  reliable := false
  ordered
  sequenced := false
  fragmentId
  fragmentIndex
  fragmentCount
  payload := [7]

/-- What a hostile peer sends; the numbers of its fragments enclose those of a whole packet. -/
def hostileCalls : List Call :=
  [.receive (hostile 1 true 0 0 0) 0, .receive (hostile 4 true 1 0 2) 0,
    .receive (hostile 5 true 0 0 0) 0, .receive (hostile 3 true 0 0 0) 0,
    .receive (hostile 6 false 0 0 0) 0, .receive (hostile 2 true 1 1 2) 0]

theorem ordered_frames_ascend_hostile :
    ∃ (log : CallLog) (s : Session), Machine.Run Session.call (Session.new {}) log s ∧
      (log.sinceReset.broughtOut (·.ordered) "media").map (·.sequence) = [1, 2, 5] ∧
      ((log.sinceReset.broughtOut (·.ordered) "media").map (·.sequence)).Pairwise (· < ·) := by
  have hexec : ((Machine.exec Session.call (Session.new {}) hostileCalls).any fun r =>
      decide ((CallLog.broughtOut (·.ordered) "media" (CallLog.sinceReset r.1)).map (·.sequence)
        = [1, 2, 5])) = true := by decide +kernel
  have hlow : ∀ c ∈ hostileCalls, c.input?.all (fun p => p.sequence < u32Max) = true := by decide
  obtain ⟨log, s, hrun, hinputs, hcheck⟩ := Machine.Run.of_exec_any hexec
  refine ⟨log, s, hrun, of_decide_eq_true hcheck, (ordered_frames_ascend hrun ?_).1 "media"⟩
  intro packet nowMs out hmem
  have hin : Call.receive packet nowMs ∈ log.map Prod.fst :=
    List.mem_map_of_mem ((List.rtakeWhile_suffix _ _).subset hmem)
  rw [hinputs] at hin
  exact of_decide_eq_true (hlow _ hin)

end Session

end CultNet.Rudp
