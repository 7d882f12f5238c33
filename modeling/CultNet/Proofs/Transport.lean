/-
The delay before a reconnect, and the blocking reader against the framer.

All but the last operation of `compute_reconnect_delay_ms` saturate under a cap, so
the capped base delay is the exact one, capped (`toNat_cappedBaseDelay`): it never
exceeds the cap and it grows with the attempt.  The last operation is a plain sum.
Where it fits, the delay inherits both; where it does not, a checked build panics and
a release build wraps.  Once the doubling has reached the cap, whether it fits is a
matter of the policy and the jitter alone.

One `receive` takes off the stream what `takeFrame` takes off its content, and fails
where `takeFrame` asks for more (`receive_some`, `receive_none`).  So along any number
of calls, cutting what was there at the start is the frames received and then cutting
what is still there (`Receives.took`), and at the first error nothing is left to cut.
-/
import CultNet.Transport
import CultNet.Proofs.Framing

namespace CultNet

open Rudp (TransportFrame TransportStats)

/-! ### Reconnecting -/

/-- How often the base delay has been doubled at an attempt. -/
def doublings (attempt : UInt32) : Nat := max attempt.toNat 1 - 1

theorem doublings_mono {earlier attempt : UInt32} (h : earlier ≤ attempt) :
    doublings earlier ≤ doublings attempt := by
  have hle := UInt32.le_iff_toNat_le.mp h
  unfold doublings
  omega

/-- **The saturating operations leave no trace under the cap.** -/
theorem toNat_cappedBaseDelay (policy : ReconnectPolicy) (attempt : UInt32) :
    (cappedBaseDelay policy attempt).toNat
      = min (policy.baseDelayMs.toNat * 2 ^ doublings attempt) policy.maxDelayMs.toNat := by
  unfold cappedBaseDelay
  simp only
  rw [Saturating.min_mul_pow, Saturating.toNat_sub, Saturating.toNat_max]
  rfl

theorem cappedBaseDelay_mono (policy : ReconnectPolicy) {earlier attempt : UInt32}
    (h : earlier ≤ attempt) :
    (cappedBaseDelay policy earlier).toNat ≤ (cappedBaseDelay policy attempt).toNat := by
  rw [toNat_cappedBaseDelay, toNat_cappedBaseDelay]
  have hpow : 2 ^ doublings earlier ≤ 2 ^ doublings attempt :=
    Nat.pow_le_pow_right Nat.two_pos (doublings_mono h)
  exact min_le_min_right _ (Nat.mul_le_mul_left _ hpow)

namespace ReconnectPolicy

/-- The last sum of `compute_reconnect_delay_ms` stays within a `u64`. -/
def Fits (policy : ReconnectPolicy) (attempt : UInt32) (jitterMs : UInt64) : Prop :=
  (cappedBaseDelay policy attempt).toNat + (min jitterMs policy.maxJitterMs).toNat < 2 ^ 64

/-- At an attempt nothing overflows, the delay is within its bounds, and no earlier attempt
waits longer. -/
structure BacksOffAt (policy : ReconnectPolicy) (attempt : UInt32) (jitterMs : UInt64) :
    Prop where
  no_overflow : computeReconnectDelayMsChecked policy attempt jitterMs
    = .ok (computeReconnectDelayMs policy attempt jitterMs)
  bounded : (computeReconnectDelayMs policy attempt jitterMs).toNat
    ≤ policy.maxDelayMs.toNat + policy.maxJitterMs.toNat
  monotone : ∀ earlier ≤ attempt, computeReconnectDelayMs policy earlier jitterMs
    ≤ computeReconnectDelayMs policy attempt jitterMs

variable {policy : ReconnectPolicy} {attempt : UInt32} {jitterMs : UInt64}

theorem checked_eq_ok_iff : computeReconnectDelayMsChecked policy attempt jitterMs
    = .ok (computeReconnectDelayMs policy attempt jitterMs) ↔ policy.Fits attempt jitterMs := by
  unfold computeReconnectDelayMsChecked checkedAddU64 Fits
  by_cases h : (cappedBaseDelay policy attempt).toNat
      + (min jitterMs policy.maxJitterMs).toNat < 2 ^ 64
  · rw [if_pos h]
    exact iff_of_true rfl h
  · rw [if_neg h]
    exact iff_of_false nofun h

/-- A sum that fits is the sum. -/
theorem Fits.toNat_delay (h : policy.Fits attempt jitterMs) :
    (computeReconnectDelayMs policy attempt jitterMs).toNat
      = (cappedBaseDelay policy attempt).toNat + (min jitterMs policy.maxJitterMs).toNat := by
  unfold computeReconnectDelayMs
  rw [UInt64.toNat_add, Nat.mod_eq_of_lt h]

/-- Where an attempt fits, the earlier ones do. -/
theorem Fits.earlier (h : policy.Fits attempt jitterMs) {earlier : UInt32}
    (hle : earlier ≤ attempt) : policy.Fits earlier jitterMs :=
  Nat.lt_of_le_of_lt (Nat.add_le_add_right (cappedBaseDelay_mono policy hle) _) h

/-- **It is the last sum alone that decides.** -/
theorem backsOffAt_iff : policy.BacksOffAt attempt jitterMs ↔ policy.Fits attempt jitterMs := by
  constructor
  · intro h
    exact checked_eq_ok_iff.mp h.no_overflow
  · intro h
    refine ⟨checked_eq_ok_iff.mpr h, ?_, ?_⟩
    · rw [h.toNat_delay, toNat_cappedBaseDelay, Saturating.toNat_min]
      exact Nat.add_le_add (Nat.min_le_right _ _) (Nat.min_le_right _ _)
    · intro earlier hle
      rw [UInt64.le_iff_toNat_le, h.toNat_delay, (h.earlier hle).toNat_delay]
      exact Nat.add_le_add_right (cappedBaseDelay_mono policy hle) _

/-- The sum fits where it fits without the cap, or with the delay at the cap. -/
theorem fits_iff : policy.Fits attempt jitterMs ↔
    policy.baseDelayMs.toNat * 2 ^ doublings attempt + min jitterMs.toNat policy.maxJitterMs.toNat
        < 2 ^ 64 ∨
      policy.maxDelayMs.toNat + min jitterMs.toNat policy.maxJitterMs.toNat < 2 ^ 64 := by
  unfold Fits
  rw [toNat_cappedBaseDelay, Saturating.toNat_min]
  omega

/-- An attempt by which any delay but zero has reached the cap. -/
theorem fits_all_iff : (∀ attempt, policy.Fits attempt jitterMs) ↔ policy.baseDelayMs = 0 ∨
    policy.maxDelayMs.toNat + min jitterMs.toNat policy.maxJitterMs.toNat < 2 ^ 64 := by
  have hzero : policy.baseDelayMs = 0 ↔ policy.baseDelayMs.toNat = 0 := by
    rw [← UInt64.toNat_inj, UInt64.toNat_zero]
  rw [hzero]
  constructor
  · intro h
    -- at the 65th attempt the factor alone is beyond a `u64`
    have hlate : doublings 65 = 64 := by decide
    have hfits := fits_iff.mp (h 65)
    rw [hlate] at hfits
    omega
  · intro h attempt
    rw [fits_iff]
    rcases h with hbase | hcap
    · have hjitter := jitterMs.toNat_lt
      rw [hbase, Nat.zero_mul]
      omega
    · exact Or.inr hcap

/--
**When reconnecting backs off as it should.**  At one attempt exactly if the base delay, doubled
for every attempt but the first, and the jitter fit into a `u64` together, or the greatest delay
and the jitter do; at every attempt exactly if there is no base delay, or the greatest delay and
the jitter fit; and whatever the jitter exactly if there is no base delay, or the greatest delay
and the greatest jitter fit.
-/
theorem backsOff_iff (policy : ReconnectPolicy) :
    (∀ attempt jitterMs, policy.BacksOffAt attempt jitterMs ↔
        policy.baseDelayMs.toNat * 2 ^ (max attempt.toNat 1 - 1)
            + min jitterMs.toNat policy.maxJitterMs.toNat < 2 ^ 64 ∨
          policy.maxDelayMs.toNat + min jitterMs.toNat policy.maxJitterMs.toNat < 2 ^ 64) ∧
      (∀ jitterMs, (∀ attempt, policy.BacksOffAt attempt jitterMs) ↔ policy.baseDelayMs = 0 ∨
        policy.maxDelayMs.toNat + min jitterMs.toNat policy.maxJitterMs.toNat < 2 ^ 64) ∧
      ((∀ attempt jitterMs, policy.BacksOffAt attempt jitterMs) ↔ policy.baseDelayMs = 0 ∨
        policy.maxDelayMs.toNat + policy.maxJitterMs.toNat < 2 ^ 64) := by
  have hevery : ∀ jitterMs, (∀ attempt, policy.BacksOffAt attempt jitterMs) ↔
      policy.baseDelayMs = 0 ∨
        policy.maxDelayMs.toNat + min jitterMs.toNat policy.maxJitterMs.toNat < 2 ^ 64 := by
    intro jitterMs
    simp only [backsOffAt_iff]
    exact fits_all_iff
  refine ⟨fun attempt jitterMs => backsOffAt_iff.trans fits_iff, hevery, ?_⟩
  constructor
  · intro h
    -- the greatest jitter there is lets the greatest of the policy through
    have hmost := (hevery policy.maxJitterMs).mp fun attempt => h attempt policy.maxJitterMs
    rwa [Nat.min_self] at hmost
  · intro h attempt jitterMs
    refine (hevery jitterMs).mpr ?_ attempt
    rcases h with hbase | hcap
    · exact Or.inl hbase
    · have hjitter := Nat.min_le_right jitterMs.toNat policy.maxJitterMs.toNat
      exact Or.inr (by omega)

/-- A policy whose greatest delay and jitter fit into a `u64` backs off whatever else it says. -/
theorem createReconnectPolicy_backsOffAt {options : ReconnectPolicyOptions}
    (h : options.maxDelayMs.toNat + options.maxJitterMs.toNat < 2 ^ 64) (attempt : UInt32)
    (jitterMs : UInt64) : (createReconnectPolicy options).BacksOffAt attempt jitterMs := by
  have hjitter := Nat.min_le_right jitterMs.toNat options.maxJitterMs.toNat
  exact backsOffAt_iff.mpr (fits_iff.mpr (Or.inr (by
    show options.maxDelayMs.toNat + min jitterMs.toNat options.maxJitterMs.toNat < 2 ^ 64
    omega)))

example (attempt : UInt32) (jitterMs : UInt64) :
    (createReconnectPolicy {}).BacksOffAt attempt jitterMs :=
  createReconnectPolicy_backsOffAt (by decide) attempt jitterMs

/-- The longest delays there are, with a jitter of one millisecond at most. -/
def endless : ReconnectPolicy where
  schemaVersion := "cultnet.reconnect_policy.v0"
  policyId := "endless"
  baseDelayMs := 18446744073709551615
  maxDelayMs := 18446744073709551615
  maxJitterMs := 1
  maxAttempts := none

/-- With a jitter of one millisecond the first attempt panics, or comes at once. -/
theorem endless_not_backsOffAt : ¬ (∀ policy attempt jitterMs,
      BacksOffAt policy attempt jitterMs) ∧
    computeReconnectDelayMsChecked endless 1 1 = .error (.panic "attempt to add with overflow") ∧
    computeReconnectDelayMs endless 1 1 = 0 ∧
    computeReconnectDelayMs endless 1 0 = 18446744073709551615 := by
  have hpanic : computeReconnectDelayMsChecked endless 1 1
      = .error (.panic "attempt to add with overflow") := by decide
  refine ⟨?_, hpanic, by decide, by decide⟩
  intro h
  have hok := (h endless 1 1).no_overflow
  rw [hpanic] at hok
  cases hok

end ReconnectPolicy

/-! ### Framed TCP -/

/-- Some complete frame stands in front. -/
def HoldsFrame (buffer : List UInt8) : Prop :=
  ∃ payload : List UInt8, payload.length < 2 ^ 32 ∧ frameOf payload <+: buffer

theorem holdsFrame_iff {buffer : List UInt8} :
    HoldsFrame buffer ↔ ∃ taken, takeFrame buffer = some taken := by
  constructor
  · rintro ⟨payload, hfits, rest, rfl⟩
    exact ⟨_, takeFrame_frameOf hfits rest⟩
  · rintro ⟨⟨payload, rest⟩, htake⟩
    obtain ⟨hheader, hwhole, rfl, -⟩ := takeFrame_eq_some_iff.mp htake
    have hwidth : (buffer.take frameHeaderBytes).length = frameHeaderBytes :=
      List.length_take_of_le hheader
    generalize hn : BigEndian.value (buffer.take frameHeaderBytes) = n at hwhole ⊢
    have hlength : ((buffer.take (frameHeaderBytes + n)).drop frameHeaderBytes).length = n := by
      rw [List.length_drop, List.length_take_of_le hwhole, Nat.add_sub_cancel_left]
    refine ⟨(buffer.take (frameHeaderBytes + n)).drop frameHeaderBytes, ?_, ?_⟩
    · have hbound := BigEndian.value_lt (buffer.take frameHeaderBytes)
      rw [hn, hwidth] at hbound
      rwa [hlength]
    · -- the header is the one of the number it denotes
      have hbytes := BigEndian.bytes_value (buffer.take frameHeaderBytes)
      rw [hn, hwidth] at hbytes
      rw [frameOf, hlength, hbytes, List.drop_take, Nat.add_sub_cancel_left, ← List.take_add]
      exact List.take_prefix _ _

/-- A frame on the only channel of the transport. -/
def schemaFrame (payload : List UInt8) : TransportFrame where
  channelId := "schema"
  payload

namespace TcpFramedTransportConnection

variable {TStream : Type} {reader : Reader TStream UInt8} {content : TStream → List UInt8}
  {c c' : TcpFramedTransportConnection TStream}

/-- What `stats` becomes with one more frame. -/
def countFrame (stats : TransportStats) (payload : List UInt8) : TransportStats :=
  { stats with
    bytesReceived := stats.bytesReceived + (frameHeaderBytes + payload.length)
    framesReceived := stats.framesReceived + 1 }

/-- **A frame in front of the stream is received, and nothing behind it is read.** -/
theorem receive_some (h : reader.Lawful content) {payload rest : List UInt8}
    (htake : takeFrame (content c.stream) = some (payload, rest)) :
    ∃ stream, c.receive reader
        = (.ok (schemaFrame payload), { c with stream, stats := countFrame c.stats payload }) ∧
      content stream = rest := by
  obtain ⟨hheader, hwhole, rfl, rfl⟩ := takeFrame_eq_some_iff.mp htake
  obtain ⟨s₁, hread₁, hcontent₁⟩ := h.readExact_ok hheader
  generalize hn : BigEndian.value ((content c.stream).take frameHeaderBytes) = n at hwhole ⊢
  have hlength : n ≤ (content s₁).length := by
    rw [hcontent₁, List.length_drop]
    omega
  obtain ⟨s₂, hread₂, hcontent₂⟩ := h.readExact_ok hlength
  have hpayload : (content s₁).take n
      = ((content c.stream).take (frameHeaderBytes + n)).drop frameHeaderBytes := by
    rw [hcontent₁, List.drop_take, Nat.add_sub_cancel_left]
  refine ⟨s₂, ?_, ?_⟩
  · unfold receive
    rw [hread₁]
    simp only
    rw [hn, hread₂, ← hpayload]
    simp only [schemaFrame, countFrame, List.length_take_of_le hlength]
  · rw [hcontent₂, hcontent₁, List.drop_drop]

/-- Without one the call fails, in the header or in the payload, and counts nothing. -/
theorem receive_none (h : reader.Lawful content) (htake : takeFrame (content c.stream) = none) :
    ∃ stream, c.receive reader = (.error Reader.unexpectedEof, { c with stream }) := by
  unfold receive
  by_cases hheader : frameHeaderBytes ≤ (content c.stream).length
  · obtain ⟨s₁, hread₁, hcontent₁⟩ := h.readExact_ok hheader
    rw [hread₁]
    simp only
    have hshort : (content s₁).length
        < BigEndian.value ((content c.stream).take frameHeaderBytes) := by
      by_contra hnot
      rw [hcontent₁, List.length_drop] at hnot
      have hsome := takeFrame_eq_some_iff.mpr ⟨hheader, by omega, rfl, rfl⟩
      rw [htake] at hsome
      cases hsome
    obtain ⟨s₂, hread₂⟩ := h.readExact_error hshort
    rw [hread₂]
    exact ⟨s₂, rfl⟩
  · obtain ⟨s₁, hread₁⟩ := h.readExact_error (Nat.lt_of_not_le hheader)
    rw [hread₁]
    exact ⟨s₁, rfl⟩

/-- A call fails exactly where no complete frame stands in front. -/
theorem receive_error_iff (h : reader.Lawful content) :
    (∃ e last, c.receive reader = (.error e, last)) ↔ ¬ HoldsFrame (content c.stream) := by
  rw [holdsFrame_iff]
  constructor
  · rintro ⟨e, last, herror⟩ ⟨⟨payload, rest⟩, htake⟩
    obtain ⟨stream, hok, -⟩ := receive_some h htake
    rw [hok] at herror
    cases herror
  · intro hnone
    obtain ⟨stream, herror⟩ := receive_none h (Option.eq_none_iff_forall_ne_some.mpr
      fun taken htake => hnone ⟨taken, htake⟩)
    exact ⟨_, _, herror⟩

/-- Some successful calls of `receive`, one after another, with the frames they returned. -/
inductive Receives (reader : Reader TStream UInt8) (c : TcpFramedTransportConnection TStream) :
    List TransportFrame → TcpFramedTransportConnection TStream → Prop
  | nil : Receives reader c [] c
  | snoc {frames : List TransportFrame} {frame : TransportFrame}
      {c' c'' : TcpFramedTransportConnection TStream} (h : Receives reader c frames c')
      (hcall : c'.receive reader = (.ok frame, c'')) : Receives reader c (frames ++ [frame]) c''

/-- What the calls between two connections took off the stream, and what they counted. -/
structure Took (content : TStream → List UInt8) (c c' : TcpFramedTransportConnection TStream)
    (payloads : List (List UInt8)) : Prop where
  cut : Splitter.cut takeFrame (content c.stream)
    = (payloads ++ (Splitter.cut takeFrame (content c'.stream)).1,
        (Splitter.cut takeFrame (content c'.stream)).2)
  stats : c'.stats = payloads.foldl countFrame c.stats
  bytes : c'.stats.bytesReceived + (content c'.stream).length
    = c.stats.bytesReceived + (content c.stream).length

theorem Receives.took (h : reader.Lawful content) {frames : List TransportFrame}
    (hreceives : Receives reader c frames c') :
    ∃ payloads, frames = payloads.map schemaFrame ∧ Took content c c' payloads := by
  induction hreceives with
  | nil => exact ⟨[], rfl, rfl, rfl, rfl⟩
  | @snoc frames frame c₁ c₂ _ hcall ih =>
      obtain ⟨payloads, rfl, took⟩ := ih
      cases htake : takeFrame (content c₁.stream) with
      | none =>
          obtain ⟨stream, herror⟩ := receive_none h htake
          rw [herror] at hcall
          cases hcall
      | some taken =>
          obtain ⟨payload, rest⟩ := taken
          obtain ⟨stream, hok, hcontent⟩ := receive_some h htake
          rw [hok] at hcall
          cases hcall
          have hcut := takeFrame_lawful.cut_some htake
          have hlength : (content c₁.stream).length
              = frameHeaderBytes + payload.length + rest.length := by
            obtain ⟨hheader, hwhole, rfl, rfl⟩ := takeFrame_eq_some_iff.mp htake
            rw [List.length_drop, List.length_drop, List.length_take_of_le hwhole]
            omega
          refine ⟨payloads ++ [payload], ?_, ?_, ?_, ?_⟩
          · rw [List.map_append]
            rfl
          · rw [took.cut, hcut, ← hcontent, List.append_assoc]
            rfl
          · rw [List.foldl_concat, ← took.stats]
          · rw [← took.bytes, hlength, hcontent]
            simp only [countFrame]
            omega

/-- Every frame makes the stream shorter, so some call fails in the end. -/
theorem Receives.exists_error (h : reader.Lawful content) {frames : List TransportFrame}
    (hreceives : Receives reader c frames c') :
    ∃ frames stopped e last, Receives reader c frames stopped ∧
      stopped.receive reader = (.error e, last) := by
  induction hn : (content c'.stream).length using Nat.strongRecOn generalizing frames c' with
  | ind n ih =>
      cases htake : takeFrame (content c'.stream) with
      | none =>
          obtain ⟨stream, herror⟩ := receive_none h htake
          exact ⟨_, _, _, _, hreceives, herror⟩
      | some taken =>
          obtain ⟨payload, rest⟩ := taken
          obtain ⟨stream, hok, hcontent⟩ := receive_some h htake
          have hshorter := takeFrame_lawful.shorter htake
          refine ih rest.length (by omega) (hreceives.snoc hok) ?_
          rw [hcontent]

theorem framesReceived_foldl (payloads : List (List UInt8)) : ∀ stats : TransportStats,
    (payloads.foldl countFrame stats).framesReceived = stats.framesReceived + payloads.length := by
  induction payloads with
  | nil => exact fun _ => rfl
  | cons payload payloads ih =>
      intro stats
      rw [List.foldl_cons, ih, List.length_cons]
      simp only [countFrame]
      omega

/--
**The blocking reader and the framer read a stream alike.**  Receiving from a stream comes to an
error.  Whatever chunks the same bytes are pushed in, the frames received until then are those
pushed, in their order; what is then still in the stream is the framer's residual buffer, which
holds no complete frame; and the statistics are those of the frames, the bytes received being all
but the residual.  And after any successful calls, the next one fails exactly where no complete
frame stands in front of what is still in the stream.
-/
theorem receives_eq_pushAll (h : reader.Lawful content) (stream : TStream)
    (profile : TransportProfile) {chunks : List (List UInt8)}
    (hchunks : chunks.flatten = content stream) {framed : List (List UInt8)}
    {framer : LengthPrefixedMessageFramer}
    (hpush : LengthPrefixedMessageFramer.new.pushAll chunks = (framed, framer)) :
    (∃ frames stopped e last, Receives reader (new stream profile) frames stopped ∧
        stopped.receive reader = (.error e, last)) ∧
      (∀ frames stopped e last, Receives reader (new stream profile) frames stopped →
        stopped.receive reader = (.error e, last) →
          frames = framed.map schemaFrame ∧ content stopped.stream = framer.buffer ∧
          ¬ HoldsFrame framer.buffer ∧ last.stats = framed.foldl countFrame {} ∧
          last.stats.bytesReceived + framer.buffer.length = (content stream).length ∧
          last.stats.framesReceived = framed.length) ∧
      ∀ frames c, Receives reader (new stream profile) frames c →
        ((∃ e last, c.receive reader = (.error e, last)) ↔ ¬ HoldsFrame (content c.stream)) := by
  refine ⟨Receives.nil.exists_error h, ?_, fun _ _ _ => receive_error_iff h⟩
  intro frames stopped e last hreceives herror
  obtain ⟨payloads, rfl, took⟩ := hreceives.took h
  have hnone : ¬ HoldsFrame (content stopped.stream) := (receive_error_iff h).mp ⟨e, last, herror⟩
  have htake : takeFrame (content stopped.stream) = none :=
    Option.eq_none_iff_forall_ne_some.mpr fun taken htake =>
      hnone (holdsFrame_iff.mpr ⟨taken, htake⟩)
  have hstats : last.stats = stopped.stats := by
    obtain ⟨_, hstopped⟩ := receive_none h htake
    rw [hstopped] at herror
    cases herror
    rfl
  -- pushing the chunks is cutting the stream, and at the error nothing is left to cut
  have hcut : Splitter.cut takeFrame (content stream) = (payloads, content stopped.stream) := by
    have hall := took.cut
    rwa [Splitter.Lawful.cut_none htake, List.append_nil] at hall
  rw [LengthPrefixedMessageFramer.pushAll_new, hchunks] at hpush
  unfold LengthPrefixedMessageFramer.push at hpush
  rw [LengthPrefixedMessageFramer.new, List.nil_append, hcut] at hpush
  cases hpush
  refine ⟨rfl, rfl, hnone, hstats.trans took.stats, ?_, ?_⟩
  · rw [hstats, took.bytes]
    exact Nat.zero_add _
  · rw [hstats, took.stats, framesReceived_foldl]
    exact Nat.zero_add _

/-- Two frames and the beginning of a third, in other pieces on the stream than in the pushes. -/
theorem receives_eq_pushAll_segments :
    let stream : List (List UInt8) := [[0, 0], [0, 2, 7], [], [8, 0, 0, 0, 0, 0, 0], [0, 5, 1]]
    let profile := createTcpFramedTransportProfile "peer" {}
    (∃ frames stopped e last, Receives Reader.segments (new stream profile) frames stopped ∧
        stopped.receive Reader.segments = (.error e, last)) ∧
      (∀ frames stopped e last, Receives Reader.segments (new stream profile) frames stopped →
        stopped.receive Reader.segments = (.error e, last) →
          frames = [schemaFrame [7, 8], schemaFrame []] ∧
          stopped.stream.flatten = [0, 0, 0, 5, 1] ∧ ¬ HoldsFrame [0, 0, 0, 5, 1] ∧
          last.stats = { bytesReceived := 10, framesReceived := 2 } ∧
          last.stats.bytesReceived + 5 = 15 ∧ last.stats.framesReceived = 2) ∧
      ∀ frames c, Receives Reader.segments (new stream profile) frames c →
        ((∃ e last, c.receive Reader.segments = (.error e, last)) ↔
          ¬ HoldsFrame c.stream.flatten) :=
  receives_eq_pushAll Reader.segments_lawful _ _
    (show [[0, 0, 0, 2, 7, 8], [0, 0, 0, 0, 0], [0, 0, 5], [1]].flatten
      = [[0, 0], [0, 2, 7], [], [8, 0, 0, 0, 0, 0, 0], [0, 5, 1]].flatten by decide)
    (show LengthPrefixedMessageFramer.new.pushAll
        [[0, 0, 0, 2, 7, 8], [0, 0, 0, 0, 0], [0, 0, 5], [1]]
      = ([[7, 8], []], { buffer := [0, 0, 0, 5, 1] }) by decide)

end TcpFramedTransportConnection

end CultNet
