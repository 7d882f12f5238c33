/-
Framing does not depend on how the bytes arrive.

`takeFrame` is a lawful splitter: it looks at the header and at as many bytes as
the header announces, and at nothing behind them.  So pushing chunk by chunk
yields what one push of all the bytes yields, and bytes that are encoded frames
come apart into their payloads.  A proper prefix of a frame stays in the buffer:
either its header is not there yet, or the header asks for more than there is.
-/
import CultNet.Framing

namespace CultNet

/-- The layout of an encoded frame. -/
def frameOf (payload : List UInt8) : List UInt8 :=
  BigEndian.bytes frameHeaderBytes payload.length ++ payload

theorem encodeFrame_ok_iff {payload frame : List UInt8} :
    encodeFrame payload = .ok frame ↔ payload.length < 2 ^ 32 ∧ frame = frameOf payload := by
  unfold encodeFrame
  by_cases h : payload.length < 2 ^ 32
  · rw [if_pos h]
    simp only [Except.ok.injEq, h, true_and, frameOf, eq_comm]
  · rw [if_neg h]
    simp only [reduceCtorEq, h, false_and]

theorem length_frameOf (payload : List UInt8) :
    (frameOf payload).length = frameHeaderBytes + payload.length := by
  simp [frameOf]

/-! ### Taking one frame -/

/-- The header is there, and so is everything it announces. -/
theorem takeFrame_eq_some_iff {buffer frame rest : List UInt8} :
    takeFrame buffer = some (frame, rest) ↔
      frameHeaderBytes ≤ buffer.length ∧
      frameHeaderBytes + BigEndian.value (buffer.take frameHeaderBytes) ≤ buffer.length ∧
      frame = (buffer.take (frameHeaderBytes
        + BigEndian.value (buffer.take frameHeaderBytes))).drop frameHeaderBytes ∧
      rest = buffer.drop (frameHeaderBytes
        + BigEndian.value (buffer.take frameHeaderBytes)) := by
  unfold takeFrame
  simp only
  by_cases hheader : buffer.length < frameHeaderBytes
  · rw [if_pos hheader]
    constructor
    · intro h
      cases h
    · intro h
      omega
  rw [if_neg hheader]
  by_cases hwhole : buffer.length
      < frameHeaderBytes + BigEndian.value (buffer.take frameHeaderBytes)
  · rw [if_pos hwhole]
    constructor
    · intro h
      cases h
    · intro h
      omega
  rw [if_neg hwhole]
  simp only [Option.some.injEq, Prod.mk.injEq, Nat.le_of_not_lt hheader,
    Nat.le_of_not_lt hwhole, true_and]
  rw [eq_comm, @eq_comm _ _ rest]

theorem takeFrame_lawful : Splitter.Lawful takeFrame where
  shorter := by
    intro buffer rest frame h
    obtain ⟨hheader, -, -, rfl⟩ := takeFrame_eq_some_iff.mp h
    have hpos : 0 < frameHeaderBytes := by decide
    rw [List.length_drop]
    omega
  extend := by
    intro buffer rest frame more h
    obtain ⟨hheader, hwhole, rfl, rfl⟩ := takeFrame_eq_some_iff.mp h
    rw [takeFrame_eq_some_iff, List.take_append_of_le_length hheader, List.length_append]
    refine ⟨by omega, by omega, ?_, ?_⟩
    · rw [List.take_append_of_le_length hwhole]
    · rw [List.drop_append_of_le_length hwhole]

/-- The header of a frame whose payload fits, read back. -/
theorem value_header {payload rest : List UInt8} (h : payload.length < 2 ^ 32) :
    BigEndian.value ((frameOf payload ++ rest).take frameHeaderBytes) = payload.length := by
  rw [frameOf, List.append_assoc, List.take_left' (BigEndian.length_bytes _ _)]
  exact BigEndian.value_bytes h

/-- An encoded frame in front is taken, with its payload. -/
theorem takeFrame_frameOf {payload : List UInt8} (h : payload.length < 2 ^ 32)
    (rest : List UInt8) : takeFrame (frameOf payload ++ rest) = some (payload, rest) := by
  have hlength := length_frameOf payload
  rw [takeFrame_eq_some_iff, value_header h, ← hlength, List.length_append]
  refine ⟨by omega, by omega, ?_, ?_⟩
  · rw [List.take_left' rfl, frameOf, List.drop_left' (BigEndian.length_bytes _ _)]
  · rw [List.drop_left' rfl]

/-- From a proper prefix of an encoded frame nothing is taken. -/
theorem takeFrame_short {payload tail : List UInt8} (h : payload.length < 2 ^ 32)
    (hhead : tail <+: frameOf payload) (hproper : tail ≠ frameOf payload) :
    takeFrame tail = none := by
  obtain ⟨missing, hframe⟩ := hhead
  cases htake : takeFrame tail with
  | none => rfl
  | some result =>
      -- what is taken from the prefix is taken from the whole frame, and leaves `missing`
      have hextended := takeFrame_lawful.extend missing htake
      have hwhole := takeFrame_frameOf h []
      rw [hframe] at hextended
      rw [List.append_nil, hextended] at hwhole
      simp only [Option.some.injEq, Prod.mk.injEq, List.append_eq_nil_iff] at hwhole
      rw [hwhole.2.2, List.append_nil] at hframe
      exact absurd hframe hproper

/-! ### Pushing -/

namespace LengthPrefixedMessageFramer

/-- Pushing chunks is cutting the stream they make. -/
theorem pushAll_eq_cutAll : ∀ (chunks : List (List UInt8)) (framer : LengthPrefixedMessageFramer),
    framer.pushAll chunks = ((Splitter.cutAll takeFrame framer.buffer chunks).1,
      { buffer := (Splitter.cutAll takeFrame framer.buffer chunks).2 }) := by
  intro chunks
  induction chunks with
  | nil => intro framer; rfl
  | cons chunk chunks ih =>
      intro framer
      unfold pushAll Splitter.cutAll
      simp only
      rw [ih]
      rfl

theorem pushAll_new (chunks : List (List UInt8)) : new.pushAll chunks = new.push chunks.flatten := by
  rw [pushAll_eq_cutAll, takeFrame_lawful.cutAll_eq chunks _ rfl]
  rfl

/--
**Framing is independent of chunking and inverts `encode_frame`.**  Chunks pushed one after
another give the frames and the residual buffer of one push of all their bytes; and payloads
short enough to be framed, framed one after another with a proper prefix of one more frame
behind them, come back as they were, with that prefix in the buffer.
-/
theorem push_chunks (chunks : List (List UInt8)) :
    new.pushAll chunks = new.push chunks.flatten ∧
      ∀ payloads : List (List UInt8), (∀ payload ∈ payloads, payload.length < 2 ^ 32) →
        ∃ frames, payloads.mapM encodeFrame = .ok frames ∧
          ∀ (last wire tail : List UInt8), encodeFrame last = .ok wire → tail <+: wire →
            tail ≠ wire → chunks.flatten = frames.flatten ++ tail →
            new.pushAll chunks = (payloads, { buffer := tail }) := by
  refine ⟨pushAll_new chunks, ?_⟩
  intro payloads hshort
  refine ⟨payloads.map frameOf, ?_, ?_⟩
  · induction payloads with
    | nil => rfl
    | cons payload payloads ih =>
        have hfirst : encodeFrame payload = .ok (frameOf payload) :=
          encodeFrame_ok_iff.mpr ⟨hshort payload List.mem_cons_self, rfl⟩
        rw [List.mapM_cons, hfirst, ih fun p hp => hshort p (List.mem_cons_of_mem payload hp)]
        rfl
  · intro last wire tail hlast hhead hproper hbytes
    obtain ⟨hfits, rfl⟩ := encodeFrame_ok_iff.mp hlast
    have hcut : Splitter.cut takeFrame (payloads.flatMap frameOf ++ tail)
        = (payloads.map id, tail) :=
      takeFrame_lawful.cut_flatMap (takeFrame_short hfits hhead hproper) payloads
        fun payload hp rest => takeFrame_frameOf (hshort payload hp) rest
    rw [List.map_id, List.flatMap_def] at hcut
    rw [pushAll_new, hbytes]
    unfold push
    rw [new, List.nil_append, hcut]

end LengthPrefixedMessageFramer

end CultNet
