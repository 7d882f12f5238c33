/-
Messages as bytes, and streams of them.

The bytes of a wire value are read back to it where it is not nested too deep.  A
message nests what its contract nests, a few containers, and under
`cultnet.schema.v0` the JSON payload of a document (`depth_of_encode`), so the depth
of the payloads alone decides whether the bytes of a message are read back.

Bytes that were framed are of a length that fits.  So a stream of framed messages,
in whatever chunks it arrives, is read back as the messages.
-/
import CultNet.Lib.SerdeDepth
import CultNet.Proofs.Framing
import CultNet.Proofs.Wire

namespace CultNet

open MessagePack (Value)
open Serde (DepthAtMost FieldAtMost)

/-! ### How deep messages nest -/

theorem depthAtMost_mutationContract : DepthAtMost DocumentMutationContract 2 := by
  refine documentMutationContract.depthAtMost fun a => ?_
  simp only [documentMutationContract, List.forall_mem_cons]
  have htext := Serde.depthAtMost_string.mono (Nat.zero_le 1)
  have htexts := Serde.depthAtMost_string.list
  exact ⟨htext.always _ _, htext.whenSome _ _, Enumeration.depthAtMost.list.always _ _,
    (Enumeration.depthAtMost.mono (Nat.zero_le 1)).always _ _, htexts.whenSome _ _,
    htexts.whenSome _ _, htexts.whenSome _ _, by simp⟩

theorem depthAtMost_transportChannel : DepthAtMost TransportChannel 1 := by
  refine transportChannel.depthAtMost fun a => ?_
  simp only [transportChannel, List.forall_mem_cons]
  exact ⟨Serde.depthAtMost_string.always _ _, Enumeration.depthAtMost.always _ _,
    Enumeration.depthAtMost.always _ _, Serde.depthAtMost_uint32.whenSome _ _,
    Serde.depthAtMost_uint32.whenSome _ _, Serde.depthAtMost_uint32.whenSome _ _,
    Serde.depthAtMost_uint64.whenSome _ _, by simp⟩

theorem depthAtMost_transportDescriptor : DepthAtMost TransportDescriptor 3 := by
  refine transportDescriptor.depthAtMost fun a => ?_
  simp only [transportDescriptor, List.forall_mem_cons]
  have htext := Serde.depthAtMost_string.mono (Nat.zero_le 2)
  exact ⟨htext.always _ _, (Enumeration.depthAtMost.mono (Nat.zero_le 2)).always _ _,
    htext.whenSome _ _, (Serde.depthAtMost_uint16.mono (Nat.zero_le 2)).whenSome _ _,
    htext.whenSome _ _, htext.whenSome _ _,
    (Serde.depthAtMost_string.list.mono (by decide)).whenSome _ _,
    depthAtMost_transportChannel.list.always _ _, by simp⟩

theorem depthAtMost_transportProfile : DepthAtMost TransportProfile 5 := by
  refine transportProfile.depthAtMost fun a => ?_
  simp only [transportProfile, List.forall_mem_cons]
  have htext := Serde.depthAtMost_string.mono (Nat.zero_le 4)
  exact ⟨htext.always _ _, htext.always _ _, depthAtMost_transportDescriptor.list.always _ _,
    by simp⟩

theorem depthAtMost_schemaDescriptor : DepthAtMost SchemaDescriptor 2 := by
  refine schemaDescriptor.depthAtMost fun a => ?_
  simp only [schemaDescriptor, List.forall_mem_cons]
  have htext := Serde.depthAtMost_string.mono (Nat.zero_le 1)
  exact ⟨htext.always _ _, (Enumeration.depthAtMost.mono (Nat.zero_le 1)).always _ _,
    htext.whenSome _ _, htext.whenSome _ _, htext.whenSome _ _,
    Enumeration.depthAtMost.list.always _ _, htext.always _ _, htext.whenSome _ _, by simp⟩

theorem depthAtMost_rawDocumentRecord : DepthAtMost RawDocumentRecord 2 := by
  refine rawDocumentRecord.depthAtMost fun a => ?_
  simp only [rawDocumentRecord, List.forall_mem_cons]
  have htext := Serde.depthAtMost_string.mono (Nat.zero_le 1)
  exact ⟨htext.always _ _, htext.always _ _, htext.always _ _,
    (Enumeration.depthAtMost.mono (Nat.zero_le 1)).always _ _, Serde.depthAtMost_bytes.always _ _,
    htext.whenSome _ _, htext.whenSome _ _, htext.whenSome _ _,
    Serde.depthAtMost_string.list.whenSome _ _, by simp⟩

/-- A document nests its payload, or its tags. -/
theorem wireDepth_documentRecord_le (document : DocumentRecord JsonValue) :
    (Serde.serialize document).wireDepth ≤ max document.payload.wireDepth 1 + 1 := by
  refine Serde.wireDepth_present_le (by rw [documentRecord.fields_names]; exact
    documentRecord.nodup) ?_
  simp only [documentRecord, List.forall_mem_cons]
  have hle := Nat.zero_le (max document.payload.wireDepth 1)
  have htext := Serde.depthAtMost_string.mono hle
  have htags := Serde.depthAtMost_string.list.mono (Nat.le_max_right document.payload.wireDepth 1)
  refine ⟨htext.always _ _, htext.always _ _, htext.always _ _, ?_, htext.whenSome _ _,
    htext.whenSome _ _, htext.whenSome _ _, htags.whenSome _ _, by simp⟩
  intro j hj
  rw [← Option.some.inj hj]
  exact Nat.le_max_left _ _

/-- How deep the JSON payloads of a message nest. -/
def Message.payloadDepth : Message → Nat
  | .documentPut _ document => document.payload.wireDepth
  | .snapshotResponse _ documents => (documents.map fun d => d.payload.wireDepth).foldr max 0
  | _ => 0

theorem le_foldr_max {ns : List Nat} {n : Nat} (h : n ∈ ns) : n ≤ ns.foldr max 0 := by
  induction ns with
  | nil => simp at h
  | cons m rest ih =>
      rcases List.mem_cons.mp h with rfl | h
      · exact Nat.le_max_left _ _
      · exact Nat.le_trans (ih h) (Nat.le_max_right _ _)

/-- The derived form of a message nests a few containers and the payloads. -/
theorem wireDepth_message_le (m : Message) :
    (Serde.serialize m).wireDepth ≤ max m.payloadDepth 4 + 3 := by
  refine Nat.le_trans (Message.tagged.wireDepth_le (k := max m.payloadDepth 4 + 2) ?_)
    (Nat.le_refl _)
  generalize hk : max m.payloadDepth 4 + 2 = k
  have hle : 6 ≤ k := by omega
  have htext := Serde.depthAtMost_string.mono (show 0 ≤ k by omega)
  have htexts := Serde.depthAtMost_string.list.mono (show 1 ≤ k by omega)
  have hbool := Serde.depthAtMost_bool.mono (show 0 ≤ k by omega)
  show ∀ f ∈ m.fields, FieldAtMost k f
  cases m with
  | hello =>
      simp only [Message.fields, List.forall_mem_cons]
      have hcontracts := depthAtMost_mutationContract.list.mono (show 3 ≤ k by omega)
      have hprofiles := depthAtMost_transportProfile.list.mono (show 6 ≤ k by omega)
      exact ⟨htext.always _ _, htext.always _ _, htext.whenSome _ _, htext.whenSome _ _,
        htext.whenSome _ _, htexts.whenSome _ _, hcontracts.whenSome _ _, htexts.whenSome _ _,
        hprofiles.whenSome _ _, hbool.whenSome _ _, by simp⟩
  | login | documentDelete =>
      simp only [Message.fields, List.forall_mem_cons]
      exact ⟨htext.always _ _, htext.always _ _, htext.always _ _, by simp⟩
  | register =>
      simp only [Message.fields, List.forall_mem_cons]
      exact ⟨htext.always _ _, htext.always _ _, htext.always _ _, htext.always _ _, by simp⟩
  | verify | loginSuccess =>
      simp only [Message.fields, List.forall_mem_cons]
      exact ⟨htext.always _ _, htext.always _ _, by simp⟩
  | error | sampleChangeName | sampleChat =>
      simp only [Message.fields, List.forall_mem_cons]
      exact ⟨htext.always _ _, by simp⟩
  | documentPut messageId document =>
      simp only [Message.fields, List.forall_mem_cons]
      refine ⟨htext.always _ _, ?_, by simp⟩
      intro j hj
      rw [← Option.some.inj hj]
      have hdocument := wireDepth_documentRecord_le document
      simp only [Message.payloadDepth] at hk
      omega
  | documentPutRaw =>
      simp only [Message.fields, List.forall_mem_cons]
      have hdocument := depthAtMost_rawDocumentRecord.mono (show 2 ≤ k by omega)
      exact ⟨htext.always _ _, hdocument.always _ _, by simp⟩
  | snapshotRequest =>
      simp only [Message.fields, List.forall_mem_cons]
      exact ⟨htext.always _ _, htexts.whenSome _ _, htexts.whenSome _ _, by simp⟩
  | snapshotResponse messageId documents =>
      simp only [Message.fields, List.forall_mem_cons]
      refine ⟨htext.always _ _, ?_, by simp⟩
      intro j hj
      rw [← Option.some.inj hj]
      simp only [Message.payloadDepth] at hk
      refine Nat.le_trans (JsonValue.wireDepth_array_le (k := k - 1) ?_) (by omega)
      intro item hitem
      obtain ⟨document, hmem, rfl⟩ := List.mem_map.mp hitem
      have hdocument := wireDepth_documentRecord_le document
      have hmax := le_foldr_max (List.mem_map_of_mem hmem
        (f := fun d : DocumentRecord JsonValue => d.payload.wireDepth))
      omega
  | snapshotResponseRaw =>
      simp only [Message.fields, List.forall_mem_cons]
      have hdocuments := depthAtMost_rawDocumentRecord.list.mono (show 3 ≤ k by omega)
      exact ⟨htext.always _ _, hdocuments.always _ _, by simp⟩
  | schemaCatalogRequest =>
      simp only [Message.fields, List.forall_mem_cons]
      have hkinds := (Enumeration.depthAtMost (α := SchemaKind)).list.mono (show 1 ≤ k by omega)
      exact ⟨htext.always _ _, hbool.whenSome _ _, htexts.whenSome _ _, hkinds.whenSome _ _,
        by simp⟩
  | schemaCatalogResponse =>
      simp only [Message.fields, List.forall_mem_cons]
      have hschemas := depthAtMost_schemaDescriptor.list.mono (show 3 ≤ k by omega)
      exact ⟨htext.always _ _, hschemas.always _ _, by simp⟩

/-! ### How deep wire values nest -/

namespace WireDepth

@[simp] theorem text (s : String) : (Value.text s).depth = 0 := rfl
@[simp] theorem small (n : UInt32) : (Value.small n).depth = 0 := rfl

@[simp] theorem legacyOptionalString (input : Option String) :
    (CultNet.legacyOptionalString input).depth = 0 := by
  cases input <;> rfl

theorem array_le {items : List Value} {k : Nat} (h : ∀ item ∈ items, item.depth ≤ k) :
    (Value.array items).depth ≤ k + 1 :=
  Nat.succ_le_succ (Value.itemsDepth_le h)

theorem map_le {entries : List (Value × Value)} {k : Nat}
    (h : ∀ entry ∈ entries, entry.1.depth ≤ k ∧ entry.2.depth ≤ k) :
    (Value.map entries).depth ≤ k + 1 :=
  Nat.succ_le_succ (Value.entriesDepth_le h)

/-- An array of texts. -/
theorem texts_le {α : Type} (name : α → String) (values : List α) :
    (Value.array (values.map fun a => Value.text (name a))).depth ≤ 1 := by
  refine array_le fun item hitem => ?_
  obtain ⟨a, -, rfl⟩ := List.mem_map.mp hitem
  exact Nat.le_refl 0

theorem legacyOptionalStringArray_le (values : Option (List String)) :
    (legacyOptionalStringArray values).depth ≤ 1 := by
  cases values with
  | none => exact Nat.zero_le 1
  | some values => exact texts_le id values

theorem legacyOptionalSchemaKindArray_le (values : Option (List SchemaKind)) :
    (legacyOptionalSchemaKindArray values).depth ≤ 1 := by
  cases values with
  | none => exact Nat.zero_le 1
  | some values => exact texts_le SchemaKind.name values

theorem encodeRawDocumentRecord_le (document : RawDocumentRecord) :
    (encodeRawDocumentRecord document).depth ≤ 2 := by
  refine map_le ?_
  have htags := legacyOptionalStringArray_le document.tags
  simp [htags, Value.depth]

theorem encodeRaw_le {m : Message} {w : Value} (h : encodeRawCultnetSchemaMessage m = .ok w) :
    w.depth ≤ 4 := by
  unfold encodeRawCultnetSchemaMessage at h
  split at h
  · rename_i messageId document
    rw [← Except.ok.inj h]
    refine map_le ?_
    have hdocument := encodeRawDocumentRecord_le document
    simp only [List.forall_mem_cons, text, Nat.zero_le, true_and]
    exact ⟨by omega, by simp⟩
  · rename_i messageId documents
    rw [← Except.ok.inj h]
    refine map_le ?_
    have hdocuments : (Value.array (documents.map encodeRawDocumentRecord)).depth ≤ 3 := by
      refine array_le fun item hitem => ?_
      obtain ⟨document, -, rfl⟩ := List.mem_map.mp hitem
      exact encodeRawDocumentRecord_le document
    simp only [List.forall_mem_cons, text, Nat.zero_le, true_and]
    exact ⟨hdocuments, by simp⟩
  · simp at h

theorem union_le {tag : UInt32} {fields : List Value} {k : Nat}
    (h : ∀ field ∈ fields, field.depth ≤ k) : (union tag fields).depth ≤ k + 2 := by
  refine array_le ?_
  have hfields := array_le h
  simpa [List.forall_mem_cons] using hfields

theorem legacyBytes_eq_zero {engine : Base64Engine} {input fieldName : String} {v : Value}
    (h : legacyBytes engine input fieldName = .ok v) : v.depth = 0 := by
  obtain ⟨-, bytes, -, rfl⟩ := legacyBytes_eq_ok.mp h
  rfl

theorem legacySchemaDescriptor_le {schema : SchemaDescriptor} {v : Value}
    (h : legacySchemaDescriptor schema = .ok v) : v.depth ≤ 2 := by
  rw [← Except.ok.inj h]
  refine map_le ?_
  have hcontracts := texts_le WireContract.name schema.wireContracts
  simpa [List.forall_mem_cons] using hcontracts

theorem encodeLegacy_le {engine : Base64Engine} {m : Message} {w : Value}
    (h : encodeGamecultNetworkingMessage engine m = .ok w) : w.depth ≤ 5 := by
  cases m with
  | login =>
      simp only [encodeGamecultNetworkingMessage, Fallible.bind_eq_ok] at h
      obtain ⟨v₁, h₁, v₂, h₂, v₃, h₃, h⟩ := h
      rw [← Except.ok.inj h]
      refine Nat.le_trans (union_le (k := 0) ?_) (by decide)
      simp [legacyBytes_eq_zero h₁, legacyBytes_eq_zero h₂, legacyBytes_eq_zero h₃]
  | register =>
      simp only [encodeGamecultNetworkingMessage, Fallible.bind_eq_ok] at h
      obtain ⟨v₁, h₁, v₂, h₂, v₃, h₃, v₄, h₄, h⟩ := h
      rw [← Except.ok.inj h]
      refine Nat.le_trans (union_le (k := 0) ?_) (by decide)
      simp [legacyBytes_eq_zero h₁, legacyBytes_eq_zero h₂, legacyBytes_eq_zero h₃,
        legacyBytes_eq_zero h₄]
  | verify | loginSuccess =>
      simp only [encodeGamecultNetworkingMessage, Fallible.bind_eq_ok] at h
      obtain ⟨v₁, h₁, v₂, h₂, h⟩ := h
      rw [← Except.ok.inj h]
      refine Nat.le_trans (union_le (k := 0) ?_) (by decide)
      simp [legacyBytes_eq_zero h₁, legacyBytes_eq_zero h₂]
  | error | sampleChangeName | sampleChat =>
      rw [← Except.ok.inj h]
      refine Nat.le_trans (union_le (k := 0) ?_) (by decide)
      simp
  | schemaCatalogRequest messageId includeSchemaJson schemaIds kinds =>
      rw [← Except.ok.inj h]
      have hids := legacyOptionalStringArray_le schemaIds
      have hkinds := legacyOptionalSchemaKindArray_le kinds
      refine Nat.le_trans (union_le (k := 1) ?_) (by decide)
      simp [hids, hkinds, Value.depth]
  | schemaCatalogResponse messageId schemas =>
      simp only [encodeGamecultNetworkingMessage, Fallible.bind_eq_ok] at h
      obtain ⟨vs, hvs, h⟩ := h
      rw [← Except.ok.inj h]
      refine union_le (k := 3) ?_
      have hschemas : (Value.array vs).depth ≤ 3 := by
        refine array_le fun item hitem => ?_
        obtain ⟨schema, -, hschema⟩ :=
          Fallible.exists_mem_of_forall₂ (Fallible.mapM_eq_ok.mp hvs) item hitem
        exact legacySchemaDescriptor_le hschema
      simpa using hschemas
  | _ => simp [encodeGamecultNetworkingMessage] at h

end WireDepth

/-- What a message is written as nests a few containers and its JSON payloads. -/
theorem depth_of_encode {codecs : Codecs} (hcodecs : codecs.Faithful) {m : Message} {w : Value}
    {contract : WireContract} (h : encodeCultnetMessageForWire codecs m contract = .ok w) :
    w.depth ≤ max m.payloadDepth 4 + 3 := by
  obtain ⟨-, h⟩ := Fallible.check_bind_eq_ok.mp h
  cases contract with
  | gameCultNetworkingV0 => exact Nat.le_trans (WireDepth.encodeLegacy_le h) (by omega)
  | cultNetSchemaV0 =>
      simp only [encodeSchemaMessage] at h
      split at h
      · exact Nat.le_trans (WireDepth.encodeRaw_le h) (by omega)
      · exact Nat.le_trans (WireDepth.encodeRaw_le h) (by omega)
      · rw [hcodecs.toWire_eq] at h
        rw [← Except.ok.inj h]
        exact wireDepth_message_le m

/-! ### Bytes -/

/-- What a receiver has of a message: the union contract writes a missing `includeSchemaJson`. -/
def Message.received (m : Message) : WireContract → Message
  | .cultNetSchemaV0 => m
  | .gameCultNetworkingV0 => m.withIncludeSchemaJson

section Bytes

variable {codecs : Codecs} {rmp : RmpSerde} {contract : WireContract}

/-- Bytes that fit are read back to the message, if its payloads are not nested too deep. -/
theorem decode_of_encode (hengine : codecs.base64.Canonical) (hcodecs : codecs.Faithful)
    (hrmp : rmp.Faithful) {m : Message} {bytes : List UInt8}
    (h : encodeCultnetMessageToVec codecs rmp m contract = .ok bytes)
    (hlength : bytes.length < 2 ^ 32) (hdepth : m.payloadDepth + 3 < rmpDepthLimit) :
    decodeCultnetMessageFromSlice codecs rmp bytes contract = .ok (m.received contract) := by
  obtain ⟨w, hencode, hbytes⟩ := Fallible.bind_eq_ok.mp h
  have hwire : w.depth < rmpDepthLimit := by
    have hw := depth_of_encode hcodecs hencode
    simp only [rmpDepthLimit] at hdepth ⊢
    omega
  rw [decodeCultnetMessageFromSlice, hrmp.fromSlice_toVec w bytes hbytes hlength hwire,
    Fallible.ok_bind]
  obtain ⟨hvalid, hencode⟩ := Fallible.check_bind_eq_ok.mp hencode
  cases contract with
  | cultNetSchemaV0 =>
      obtain ⟨w', hencode', hparse⟩ := parseSchemaMessage_of_encodeSchemaMessage hcodecs m
      have hw : w' = w := Except.ok.inj (hencode'.symm.trans hencode)
      rw [hw] at hparse
      rw [parseCultnetMessage, hparse, Fallible.ok_bind, hvalid]
      rfl
  | gameCultNetworkingV0 => exact parse_of_encodeGamecultNetworkingMessage hengine hencode

/-- Payloads that could be framed, in the layout of their frames. -/
theorem mapM_encodeFrame_eq_ok {payloads frames : List (List UInt8)} :
    payloads.mapM encodeFrame = .ok frames ↔
      (∀ payload ∈ payloads, payload.length < 2 ^ 32) ∧ frames = payloads.map frameOf := by
  rw [Fallible.mapM_eq_ok]
  simp only [encodeFrame_ok_iff]
  induction payloads generalizing frames with
  | nil => simp
  | cons payload rest ih =>
      rw [List.forall₂_cons_left_iff, List.forall_mem_cons, List.map_cons]
      simp only [ih]
      constructor
      · rintro ⟨frame, others, ⟨hfits, hframe⟩, ⟨hall, hothers⟩, hcons⟩
        exact ⟨⟨hfits, hall⟩, by rw [hcons, hframe, hothers]⟩
      · rintro ⟨⟨hfits, hall⟩, hframes⟩
        exact ⟨_, _, ⟨hfits, rfl⟩, ⟨hall, rfl⟩, hframes⟩

/-- The payloads of messages are decoded to what a receiver has of them. -/
theorem mapM_decode_of_mapM_encode (hengine : codecs.base64.Canonical)
    (hcodecs : codecs.Faithful) (hrmp : rmp.Faithful) {messages : List Message}
    {payloads : List (List UInt8)}
    (h : messages.mapM (encodeCultnetMessageToVec codecs rmp · contract) = .ok payloads)
    (hfits : ∀ payload ∈ payloads, payload.length < 2 ^ 32)
    (hdepth : ∀ m ∈ messages, m.payloadDepth + 3 < rmpDepthLimit) :
    payloads.mapM (decodeCultnetMessageFromSlice codecs rmp · contract)
      = .ok (messages.map (·.received contract)) := by
  have hall := Fallible.mapM_eq_ok.mp h
  clear h
  induction hall with
  | nil => rfl
  | @cons m payload messages payloads hencode _ ih =>
      rw [List.forall_mem_cons] at hfits hdepth
      rw [List.mapM_cons, decode_of_encode hengine hcodecs hrmp hencode hfits.1 hdepth.1,
        Fallible.ok_bind, ih hfits.2 hdepth.2]
      rfl

/--
**A stream of framed messages is read back, wherever it stands.**  Of the frames of some
messages, whatever has arrived in whatever chunks, the framer has handed out whole payloads,
which decode to the messages in their order, and keeps the part of the next frame that has
arrived; when all has arrived nothing is kept.
-/
theorem stream_received (hengine : codecs.base64.Canonical) (hcodecs : codecs.Faithful)
    (hrmp : rmp.Faithful) {messages : List Message} {payloads frames chunks : List (List UInt8)}
    (hpayloads : messages.mapM (encodeCultnetMessageToVec codecs rmp · contract) = .ok payloads)
    (hframes : payloads.mapM encodeFrame = .ok frames)
    (hdepth : ∀ m ∈ messages, m.payloadDepth + 3 < rmpDepthLimit)
    (harrived : chunks.flatten <+: frames.flatten) :
    ∃ n ≤ messages.length, ∃ handed kept,
      LengthPrefixedMessageFramer.new.pushAll chunks = (handed, { buffer := kept }) ∧
      handed.mapM (decodeCultnetMessageFromSlice codecs rmp · contract)
        = .ok ((messages.take n).map (·.received contract)) ∧
      chunks.flatten = (frames.take n).flatten ++ kept ∧
      (∀ frame ∈ frames[n]?, kept <+: frame ∧ kept ≠ frame) ∧
      (n = messages.length → kept = []) := by
  obtain ⟨hfits, rfl⟩ := mapM_encodeFrame_eq_ok.mp hframes
  have hlength : messages.length = payloads.length :=
    (Fallible.mapM_eq_ok.mp hpayloads).length_eq
  rw [← List.flatMap_def] at harrived
  obtain ⟨n, hn, kept, hflat, hnext, hlast⟩ := Splitter.exists_of_prefix_flatMap harrived
  -- of the part that is kept the framer takes nothing
  have hkept : takeFrame kept = none := by
    cases hget : payloads[n]? with
    | none =>
        have hall := List.getElem?_eq_none_iff.mp hget
        rw [hlast (Nat.le_antisymm hn hall)]
        rfl
    | some payload =>
        obtain ⟨hhead, hproper⟩ := hnext payload hget
        exact takeFrame_short (hfits payload (List.mem_of_getElem? hget)) hhead hproper
  have hcut : Splitter.cut takeFrame chunks.flatten = ((payloads.take n).map id, kept) := by
    rw [hflat]
    exact takeFrame_lawful.cut_flatMap hkept _ fun payload hp rest =>
      takeFrame_frameOf (hfits payload (List.mem_of_mem_take hp)) rest
  have hhanded := mapM_decode_of_mapM_encode hengine hcodecs hrmp
    (Fallible.mapM_eq_ok.mpr (List.forall₂_take n (Fallible.mapM_eq_ok.mp hpayloads)))
    (fun payload hp => hfits payload (List.mem_of_mem_take hp))
    (fun m hm => hdepth m (List.mem_of_mem_take hm))
  refine ⟨n, by omega, payloads.take n, kept, ?_, hhanded, ?_, ?_, ?_⟩
  · rw [LengthPrefixedMessageFramer.pushAll_new]
    unfold LengthPrefixedMessageFramer.push
    rw [LengthPrefixedMessageFramer.new, List.nil_append, hcut, List.map_id]
  · rw [hflat, ← List.map_take, List.flatMap_def]
  · intro frame hframe
    rw [List.getElem?_map, Option.mem_def, Option.map_eq_some_iff] at hframe
    obtain ⟨payload, hpayload, rfl⟩ := hframe
    exact hnext payload hpayload
  · intro hall
    exact hlast (hall.trans hlength)

end Bytes

/-- Bytes from the library. -/
def libraryRmpSerde : RmpSerde where
  toVec value := .ok value.write
  fromSlice bytes :=
    match MessagePack.read rmpDepthLimit bytes with
    | some (value, _) => .ok value
    | none => .error "the bytes are no value"

theorem libraryRmpSerde_faithful : libraryRmpSerde.Faithful where
  fromSlice_toVec value bytes h hlength hdepth := by
    rw [← Except.ok.inj h] at hlength ⊢
    have hread := MessagePack.read_write value (Nat.le_of_lt hdepth) hlength []
    rw [List.append_nil] at hread
    simp [libraryRmpSerde, hread]

/-- Two messages of which the second has not arrived in full. -/
theorem stream_received_chat :
    let chunks : List (List UInt8) := [[0, 0, 0], [6, 146, 6, 145], [162, 104, 105, 0, 0], [0, 5]]
    let frames : List (List UInt8) :=
      [[0, 0, 0, 6, 146, 6, 145, 162, 104, 105], [0, 0, 0, 5, 146, 4, 145, 161, 63]]
    ∃ n ≤ 2, ∃ handed kept,
      LengthPrefixedMessageFramer.new.pushAll chunks = (handed, { buffer := kept }) ∧
      handed.mapM (decodeCultnetMessageFromSlice libraryCodecs libraryRmpSerde ·
          .gameCultNetworkingV0)
        = .ok (([.sampleChat "hi", .error "?"].take n).map
            (Message.received · .gameCultNetworkingV0)) ∧
      chunks.flatten = (frames.take n).flatten ++ kept ∧
      (∀ frame ∈ frames[n]?, kept <+: frame ∧ kept ≠ frame) ∧ (n = 2 → kept = []) := by
  intro chunks frames
  have hpayloads : [Message.sampleChat "hi", .error "?"].mapM
      (encodeCultnetMessageToVec libraryCodecs libraryRmpSerde · .gameCultNetworkingV0)
        = .ok [[146, 6, 145, 162, 104, 105], [146, 4, 145, 161, 63]] := by rfl
  exact stream_received libraryCodecs_lawful.canonical libraryCodecs_faithful
    libraryRmpSerde_faithful hpayloads (by rfl) (by simp [Message.payloadDepth, rmpDepthLimit])
    (by decide)

end CultNet
