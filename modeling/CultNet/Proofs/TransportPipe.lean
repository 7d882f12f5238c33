/-
The framed TCP transport as a pipe.

A call of `send` is refused, and then nothing happens, or it writes a frame, or it
breaks off: the write or the flush fails, and some front of the frame has gone out
(`send_cases`).  The connection does not remember that it broke off, and later calls
write behind the torn frame.  So what a receiver can rely on ends where a sender first
broke off: up to there it is handed exactly what was sent, in order.  The statistics
count the calls that succeeded, and nothing else.
-/
import CultNet.Lib.Machine
import CultNet.Proofs.Transport

namespace CultNet

open Rudp (TransportFrame TransportStats)

namespace TcpFramedTransportConnection

variable {TStream : Type} {writer : StreamWriter TStream UInt8} {reader : Reader TStream UInt8}
variable {written content : TStream → List UInt8} {c c' : TcpFramedTransportConnection TStream}

/-! ### One call -/

/-- A call that is not refused: on the one channel there is, with a payload that fits a frame. -/
def Sendable (call : String × List UInt8) : Prop := call.1 = "schema" ∧ call.2.length < 2 ^ 32

/-- What `stats` becomes with one more frame sent. -/
def countSent (stats : TransportStats) (payload : List UInt8) : TransportStats :=
  { stats with
    bytesSent := stats.bytesSent + (frameHeaderBytes + payload.length)
    framesSent := stats.framesSent + 1 }

/-- How a call of `send` can end. -/
inductive Sent (written : TStream → List UInt8) (c : TcpFramedTransportConnection TStream)
    (call : String × List UInt8) :
    Except String Unit → TcpFramedTransportConnection TStream → Prop
  | refused {e : String} (h : ¬ Sendable call) : Sent written c call (.error e) c
  | whole {stream : TStream} (h : Sendable call)
      (hwritten : written stream = written c.stream ++ frameOf call.2) :
      Sent written c call (.ok ()) { c with stream, stats := countSent c.stats call.2 }
  | brokeOff {stream : TStream} {e : String} {n : Nat} (h : Sendable call)
      (hwritten : written stream = written c.stream ++ (frameOf call.2).take n) :
      Sent written c call (.error e) { c with stream }

/-- **A call is refused, writes a frame, or breaks off.** -/
theorem send_cases (h : writer.Lawful written) {call : String × List UInt8}
    {result : Except String Unit} (hcall : c.send writer call.1 call.2 = (result, c')) :
    Sent written c call result c' := by
  unfold send at hcall
  by_cases hchannel : call.1 = "schema"
  case neg =>
    rw [if_pos hchannel] at hcall
    obtain ⟨rfl, rfl⟩ := Prod.mk.inj hcall
    exact .refused fun hsendable => hchannel hsendable.1
  rw [if_neg (not_not.mpr hchannel)] at hcall
  cases hframe : encodeFrame call.2 with
  | error e =>
      rw [hframe] at hcall
      obtain ⟨rfl, rfl⟩ := Prod.mk.inj hcall
      refine .refused fun hsendable => ?_
      rw [encodeFrame_ok_iff.mpr ⟨hsendable.2, rfl⟩] at hframe
      simp at hframe
  | ok frame =>
      obtain ⟨hfits, rfl⟩ := encodeFrame_ok_iff.mp hframe
      have hsendable : Sendable call := ⟨hchannel, hfits⟩
      rw [hframe] at hcall
      simp only at hcall
      split at hcall
      · rename_i e stream hwrite
        obtain ⟨rfl, rfl⟩ := Prod.mk.inj hcall
        obtain ⟨n, -, hwritten⟩ := h.writeAll_error hwrite
        exact .brokeOff hsendable hwritten
      · rename_i stream hwrite
        have hwhole := h.writeAll_ok hwrite
        have hflush := h.written_flush stream
        split at hcall
        · rename_i e flushed hfails
          obtain ⟨rfl, rfl⟩ := Prod.mk.inj hcall
          rw [hfails, hwhole, ← List.take_length (l := frameOf call.2)] at hflush
          exact .brokeOff hsendable hflush
        · rename_i flushed hflushed
          obtain ⟨rfl, rfl⟩ := Prod.mk.inj hcall
          rw [hflushed, hwhole] at hflush
          have hsent := Sent.whole (c := c) hsendable hflush
          rwa [countSent, ← length_frameOf] at hsent

/-! ### Runs of calls -/

/-- One call of `send` after another. -/
def sendStep (writer : StreamWriter TStream UInt8) (c : TcpFramedTransportConnection TStream)
    (call : String × List UInt8) :
    Option (Except String Unit × TcpFramedTransportConnection TStream) :=
  some (c.send writer call.1 call.2)

/-- The calls of `send` and how they ended. -/
abbrev SendLog := List ((String × List UInt8) × Except String Unit)

/-- The payloads of the calls that succeeded. -/
def sent (log : SendLog) : List (List UInt8) :=
  (log.filter fun entry => entry.2.isOk).map fun entry => entry.1.2

/-- No call failed that was not refused. -/
def Unbroken (log : SendLog) : Prop :=
  ∀ entry ∈ log, Sendable entry.1 → entry.2 = .ok ()

theorem sent_append (log more : SendLog) : sent (log ++ more) = sent log ++ sent more := by
  simp [sent]

theorem sent_ok (call : String × List UInt8) : sent [(call, .ok ())] = [call.2] := rfl

theorem sent_error (call : String × List UInt8) (e : String) : sent [(call, .error e)] = [] := rfl

theorem countSent_foldl (payloads : List (List UInt8)) : ∀ stats : TransportStats,
    payloads.foldl countSent stats = { stats with
      bytesSent := stats.bytesSent + (payloads.flatMap frameOf).length
      framesSent := stats.framesSent + payloads.length } := by
  induction payloads with
  | nil => exact fun _ => rfl
  | cons payload payloads ih =>
      intro stats
      rw [List.foldl_cons, ih, List.flatMap_cons, List.length_append, length_frameOf]
      simp only [countSent, List.length_cons, TransportStats.mk.injEq, true_and]
      omega

/-- What a run of calls has done to a connection. -/
structure Carried (written : TStream → List UInt8) (c c' : TcpFramedTransportConnection TStream)
    (log : SendLog) : Prop where
  fits : ∀ payload ∈ sent log, payload.length < 2 ^ 32
  stats : c'.stats = (sent log).foldl countSent c.stats
  /-- Where nothing broke off, the frames of what was sent are all there is. -/
  whole : Unbroken log → written c'.stream = written c.stream ++ (sent log).flatMap frameOf
  /-- The frames of what was sent before anything broke off stand in front. -/
  front : ∀ before, before <+: log → Unbroken before →
    written c.stream ++ (sent before).flatMap frameOf <+: written c'.stream

theorem Carried.start (c : TcpFramedTransportConnection TStream) : Carried written c c [] where
  fits := by simp [sent]
  stats := rfl
  whole _ := by simp [sent]
  front before hbefore _ := by
    rw [List.prefix_nil.mp hbefore]
    simp [sent]

/-- A call that wrote behind what was there. -/
theorem Carried.snoc {log : SendLog} {c'' : TcpFramedTransportConnection TStream}
    {call : String × List UInt8} {result : Except String Unit} (h : Carried written c c' log)
    (hsent : Sent written c' call result c'') :
    Carried written c c'' (log ++ [(call, result)]) := by
  obtain ⟨more, hgrows⟩ : written c'.stream <+: written c''.stream := by
    cases hsent with
    | refused _ => exact List.prefix_rfl
    | whole _ hwritten | brokeOff _ hwritten => exact ⟨_, hwritten.symm⟩
  have hwhole : Unbroken (log ++ [(call, result)]) → written c''.stream
      = written c.stream ++ (sent (log ++ [(call, result)])).flatMap frameOf := by
    intro hall
    have hbefore := h.whole fun entry hentry => hall entry (List.mem_append_left _ hentry)
    have hlast := hall (call, result) (List.mem_append_right _ List.mem_cons_self)
    rw [sent_append]
    cases hsent with
    | refused _ => simpa [sent_error] using hbefore
    | whole _ hwritten => simp [sent_ok, hwritten, hbefore]
    | brokeOff hsendable _ => simp at hlast; exact absurd hsendable hlast
  refine ⟨?_, ?_, hwhole, ?_⟩
  · intro payload hpayload
    rw [sent_append, List.mem_append] at hpayload
    rcases hpayload with hearlier | hlast
    · exact h.fits payload hearlier
    · cases hsent with
      | refused _ | brokeOff _ _ => simp [sent_error] at hlast
      | whole hsendable _ =>
          rw [sent_ok, List.mem_singleton] at hlast
          rw [hlast]
          exact hsendable.2
  · rw [sent_append, List.foldl_append, ← h.stats]
    cases hsent with
    | refused _ | brokeOff _ _ => rfl
    | whole _ _ => rfl
  · intro before hprefix hbefore
    rcases List.prefix_concat_iff.mp hprefix with rfl | hprefix
    · rw [hwhole hbefore]
    · rw [← hgrows]
      exact (h.front before hprefix hbefore).trans (List.prefix_append _ _)

theorem carried_of_run (h : writer.Lawful written) {log : SendLog}
    (hrun : Machine.Run (sendStep writer) c log c') : Carried written c c' log := by
  induction hrun with
  | nil => exact Carried.start c
  | snoc _ hstep ih => exact ih.snoc (send_cases h (Option.some.inj hstep))

/-! ### The other end -/

theorem countFrame_foldl (payloads : List (List UInt8)) : ∀ stats : TransportStats,
    payloads.foldl countFrame stats = { stats with
      bytesReceived := stats.bytesReceived + (payloads.flatMap frameOf).length
      framesReceived := stats.framesReceived + payloads.length } := by
  induction payloads with
  | nil => exact fun _ => rfl
  | cons payload payloads ih =>
      intro stats
      rw [List.foldl_cons, ih, List.flatMap_cons, List.length_append, length_frameOf]
      simp only [countFrame, List.length_cons, TransportStats.mk.injEq, true_and, and_true]
      omega

/-- Frames in front of a stream are received, one by one. -/
theorem receives_frames (h : reader.Lawful content) {payloads : List (List UInt8)} :
    ∀ {rest : List UInt8}, (∀ payload ∈ payloads, payload.length < 2 ^ 32) →
      content c.stream = payloads.flatMap frameOf ++ rest →
      ∃ c', Receives reader c (payloads.map schemaFrame) c' ∧ content c'.stream = rest ∧
        c'.stats = payloads.foldl countFrame c.stats := by
  induction payloads using List.reverseRecOn with
  | nil =>
      intro rest _ hcontent
      exact ⟨c, .nil, hcontent, rfl⟩
  | append_singleton payloads payload ih =>
      intro rest hfits hcontent
      rw [List.flatMap_append, List.append_assoc, List.flatMap_singleton] at hcontent
      obtain ⟨c', hreceives, hleft, hstats⟩ :=
        ih (fun p hp => hfits p (List.mem_append_left _ hp)) hcontent
      have hfit := hfits payload (List.mem_append_right _ List.mem_cons_self)
      obtain ⟨stream, hcall, hrest⟩ :=
        receive_some h (hleft ▸ takeFrame_frameOf hfit rest : takeFrame (content c'.stream) = _)
      refine ⟨{ c' with stream, stats := countFrame c'.stats payload }, ?_, hrest, ?_⟩
      · rw [List.map_append]
        exact hreceives.snoc hcall
      · rw [List.foldl_append, ← hstats]
        rfl

/--
**What was sent is received, in order, up to where the sender first broke off.**  Of any run of
calls of `send`, a receiver at the other end is handed the payloads of the calls that succeeded
before one broke off, in their order.  Where none did, it is handed nothing else: the next call
of `receive` fails at the end of the stream, and the two ends have counted the same.  The sender
counts the calls that succeeded, also after one that broke off.
-/
theorem sends_received {TIn : Type} {reader : Reader TIn UInt8} {content : TIn → List UInt8}
    (hwriter : writer.Lawful written) (hreader : reader.Lawful content) {stream : TStream}
    {profile : TransportProfile} (hempty : written stream = []) {log : SendLog}
    (hrun : Machine.Run (sendStep writer) (new stream profile) log c) {input : TIn}
    (hpipe : content input = written c.intoInner) (receiving : TransportProfile) :
    c.stats = {
      bytesSent := ((sent log).flatMap frameOf).length, framesSent := (sent log).length } ∧
    (∀ before, before <+: log → Unbroken before → ∃ c',
      Receives reader (new input receiving) ((sent before).map schemaFrame) c') ∧
    (Unbroken log → ∃ c' last,
      Receives reader (new input receiving) ((sent log).map schemaFrame) c' ∧
      c'.receive reader = (.error Reader.unexpectedEof, last) ∧
      last.stats.bytesReceived = c.stats.bytesSent ∧
      last.stats.framesReceived = c.stats.framesSent) := by
  have hcarried := carried_of_run hwriter hrun
  have hstart : written (new stream profile).stream = [] := hempty
  have hstats : c.stats = { bytesSent := ((sent log).flatMap frameOf).length
                            framesSent := (sent log).length : TransportStats } := by
    rw [hcarried.stats, countSent_foldl]
    simp [new]
  refine ⟨hstats, ?_, ?_⟩
  · intro before hprefix hbefore
    obtain ⟨rest, hfront⟩ := hcarried.front before hprefix hbefore
    rw [hstart, List.nil_append] at hfront
    obtain ⟨more, hlog⟩ := hprefix
    have hfits : ∀ payload ∈ sent before, payload.length < 2 ^ 32 := by
      intro payload hpayload
      refine hcarried.fits payload ?_
      rw [← hlog, sent_append]
      exact List.mem_append_left _ hpayload
    obtain ⟨c', hreceives, -⟩ := receives_frames (c := new input receiving) hreader hfits
      (hpipe.trans hfront.symm)
    exact ⟨c', hreceives⟩
  · intro hunbroken
    have hwhole := hcarried.whole hunbroken
    rw [hstart, List.nil_append, ← List.append_nil (List.flatMap _ _)] at hwhole
    obtain ⟨c', hreceives, hleft, hcounted⟩ := receives_frames (c := new input receiving) hreader
      hcarried.fits (hpipe.trans hwhole)
    have hend : takeFrame (content c'.stream) = none := by rw [hleft]; rfl
    obtain ⟨last, hlast⟩ := receive_none hreader hend
    refine ⟨c', { c' with stream := last }, hreceives, hlast, ?_, ?_⟩
    · show c'.stats.bytesReceived = _
      rw [hcounted, countFrame_foldl, hstats]
      simp [new]
    · show c'.stats.framesReceived = _
      rw [hcounted, countFrame_foldl, hstats]
      simp [new]

/-- A payload that goes out in pieces, one on a channel there is not, and one that is torn. -/
theorem sends_received_torn :
    let profile := createTcpFramedTransportProfile "peer" {}
    let log : SendLog := [(("schema", [7, 8]), .ok ()),
      (("media", [1]), .error ("tcp_framed transport only supports the schema channel, got " ++
        debugStr "media")),
      (("schema", [9, 9]), .error "broken pipe")]
    let c : TcpFramedTransportConnection (StreamWriter.Sink UInt8) :=
      ⟨⟨[0, 0, 0, 2, 7, 8, 0, 0], some 0⟩, profile, { bytesSent := 6, framesSent := 1 }⟩
    Machine.Run (sendStep (StreamWriter.sinks UInt8 4)) (new ⟨[], some 8⟩ profile) log c ∧
      ∃ c', Receives Reader.segments (new [[0, 0, 0], [2, 7, 8, 0], [0]] profile)
        [schemaFrame [7, 8]] c' := by
  intro profile log c
  have hrun : Machine.Run (sendStep (StreamWriter.sinks UInt8 4)) (new ⟨[], some 8⟩ profile) log c :=
    Machine.Run.of_exec (show Machine.exec _ _ (log.map Prod.fst) = some (log, c) from rfl)
  have hpipe : List.flatten [[0, 0, 0], [2, 7, 8, 0], [0]] = c.intoInner.taken := rfl
  have hreceived := sends_received (StreamWriter.sinks_lawful UInt8 4) Reader.segments_lawful rfl hrun
    hpipe profile
  refine ⟨hrun, hreceived.2.1 (log.take 2) (List.take_prefix 2 log) ?_⟩
  intro entry hentry hsendable
  rcases List.mem_cons.mp hentry with rfl | hentry
  · rfl
  · rw [List.mem_singleton.mp hentry] at hsendable
    exact absurd hsendable.1 (by decide)

end TcpFramedTransportConnection

end CultNet
