/-
Raw messages against their published schemas.

The encoder of the raw messages writes each of the four optional fields of a record,
with `Nil` where there is none.  The schema lets such a name be absent and allows no
`Nil` under it, and so do the serde attributes of the record.  A raw message that
passes its check is an instance of its schema exactly when every record in it has
all four.
-/
import CultNet.Proofs.Contracts
import CultNet.Proofs.Wire
import CultNet.Schemas

namespace CultNet

open MessagePack (Value)
open WireSchema

theorem ne_empty_of_isBlank {text : String} (h : isBlank text = false) : text ≠ "" := by
  rintro rfl
  cases h

theorem admits_legacyOptionalString {value : Option String} :
    nonEmptyString.admits (legacyOptionalString value) = true ↔
      ∃ text ∈ value, text ≠ "" := by
  cases value with
  | none => simp [legacyOptionalString]
  | some text => simp [legacyOptionalString]

theorem admits_legacyOptionalStringArray {value : Option (List String)} :
    (array nonEmptyString).admits (legacyOptionalStringArray value) = true ↔
      ∃ texts ∈ value, ∀ text ∈ texts, text ≠ "" := by
  cases value with
  | none => simp [legacyOptionalStringArray]
  | some texts => simp [legacyOptionalStringArray]

/-- Every optional field is there. -/
structure RawDocumentRecord.Complete (document : RawDocumentRecord) : Prop where
  sourceRuntimeId : document.sourceRuntimeId.isSome
  sourceAgentId : document.sourceAgentId.isSome
  sourceRole : document.sourceRole.isSome
  tags : document.tags.isSome

/-- An optional text that is not blank is an instance when it is there. -/
theorem exists_ne_empty_iff {value : Option String} (h : ∀ text ∈ value, isBlank text = false) :
    (∃ text ∈ value, text ≠ "") ↔ value.isSome := by
  cases value with
  | none => simp
  | some text => simpa using ne_empty_of_isBlank (h text rfl)

theorem exists_forall_ne_empty_iff {value : Option (List String)}
    (h : ∀ texts ∈ value, ∀ text ∈ texts, isBlank text = false) :
    (∃ texts ∈ value, ∀ text ∈ texts, text ≠ "") ↔ value.isSome := by
  cases value with
  | none => simp
  | some texts => simpa using fun text htext => ne_empty_of_isBlank (h texts rfl text htext)

/-- The nine entries, one after another. -/
theorem admits_encodeRawDocumentRecord {document : RawDocumentRecord}
    (h : document.validate = .ok ()) :
    rawDocumentRecordSchema.admits (encodeRawDocumentRecord document) = true ↔
      document.Complete := by
  obtain ⟨hschemaId, hrecordKey, hstoredAt, -, hruntime, hagent, hrole, htags⟩ :=
    RawDocumentRecord.validate_eq_ok.mp h
  have hencoding : document.payloadEncoding.name = "messagepack" := by
    cases document.payloadEncoding
    rfl
  have hentries : encodeRawDocumentRecord document = .map ([
      ("schemaId", Value.text document.schemaId), ("recordKey", .text document.recordKey),
      ("storedAt", .text document.storedAt),
      ("payloadEncoding", .text document.payloadEncoding.name),
      ("payload", .binary document.payload),
      ("sourceRuntimeId", legacyOptionalString document.sourceRuntimeId),
      ("sourceAgentId", legacyOptionalString document.sourceAgentId),
      ("sourceRole", legacyOptionalString document.sourceRole),
      ("tags", legacyOptionalStringArray document.tags)].map fun e => (.text e.1, e.2)) := rfl
  rw [rawDocumentRecordSchema, hentries, admits_map]
  simp only [rawDocumentRecordProperties, List.forall_mem_cons, propertyAdmits_cons,
    String.reduceEq, if_true, if_false,
    admits_nonEmptyString, admits_const, admits_bytes, admits_legacyOptionalString,
    admits_legacyOptionalStringArray, exists_ne_empty_iff hruntime, exists_ne_empty_iff hagent,
    exists_ne_empty_iff hrole, exists_forall_ne_empty_iff htags, hencoding]
  constructor
  · rintro ⟨-, -, -, -, -, -, h₁, h₂, h₃, h₄, -⟩
    exact ⟨h₁, h₂, h₃, h₄⟩
  · intro h
    obtain ⟨h₁, h₂, h₃, h₄⟩ := h
    simp [ne_empty_of_isBlank hschemaId, ne_empty_of_isBlank hrecordKey,
      ne_empty_of_isBlank hstoredAt, h₁, h₂, h₃, h₄]

/-- The derived form of the record leaves out what is absent, so each of its fields may stand
where it does; only the payload takes another shape there, since JSON has no bytes. -/
theorem fieldAdmits_rawDocumentRecord {document : RawDocumentRecord}
    (h : document.validate = .ok ()) :
    ∀ f ∈ rawDocumentRecord.fields document, f.1 ≠ "payload" →
      FieldAdmits rawDocumentRecordProperties f := by
  obtain ⟨hschemaId, hrecordKey, hstoredAt, -, hruntime, hagent, hrole, htags⟩ :=
    RawDocumentRecord.validate_eq_ok.mp h
  have htext : ∀ {text}, isBlank text = false →
      nonEmptyString.admits (JsonValue.toMessagePack (Serde.serialize text)) = true :=
    fun hblank => admits_nonEmptyString.mpr (ne_empty_of_isBlank hblank)
  have hencoding : (scalar [.const (.string "messagepack")]).admits
      (JsonValue.toMessagePack (Serde.serialize document.payloadEncoding)) = true := by
    cases document.payloadEncoding
    exact admits_const.mpr rfl
  simp only [rawDocumentRecord, List.forall_mem_cons, fieldAdmits_always, fieldAdmits_whenSome,
    rawDocumentRecordProperties, propertyAdmits_cons, String.reduceEq, if_true, if_false,
    admits_list, htext hschemaId, htext hrecordKey, htext hstoredAt, hencoding, implies_true,
    true_and]
  refine ⟨fun hpayload => absurd rfl hpayload, ?_, ?_, ?_, ?_, by simp⟩
  · exact fun _ text hmem => htext (hruntime text hmem)
  · exact fun _ text hmem => htext (hagent text hmem)
  · exact fun _ text hmem => htext (hrole text hmem)
  · exact fun _ texts hmem text htext' => htext (htags texts hmem text htext')

/-! ### Messages -/

/-- The published schema of a raw message. -/
def Message.rawSchema : Message → Option WireSchema
  | .documentPutRaw .. => some documentPutRawSchema
  | .snapshotResponseRaw .. => some snapshotResponseRawSchema
  | _ => none

/-- The records that a raw message carries. -/
def Message.rawDocuments : Message → List RawDocumentRecord
  | .documentPutRaw _ document => [document]
  | .snapshotResponseRaw _ documents => documents
  | _ => []

theorem admits_documentPutRaw {messageId : String} {v : Value} (h : isBlank messageId = false) :
    documentPutRawSchema.admits (.map [
        (.text "schemaVersion", .text "cultnet.document_put_raw.v0"),
        (.text "messageId", .text messageId), (.text "document", v)]) = true ↔
      rawDocumentRecordSchema.admits v = true := by
  refine (@admits_map _ _ [("schemaVersion", .text "cultnet.document_put_raw.v0"),
    ("messageId", .text messageId), ("document", v)]).trans ?_
  simp [ne_empty_of_isBlank h]

theorem admits_snapshotResponseRaw {messageId : String} {vs : List Value}
    (h : isBlank messageId = false) :
    snapshotResponseRawSchema.admits (.map [
        (.text "schemaVersion", .text "cultnet.snapshot_response_raw.v0"),
        (.text "messageId", .text messageId), (.text "documents", .array vs)]) = true ↔
      ∀ v ∈ vs, rawDocumentRecordSchema.admits v = true := by
  refine (@admits_map _ _ [("schemaVersion", .text "cultnet.snapshot_response_raw.v0"),
    ("messageId", .text messageId), ("documents", .array vs)]).trans ?_
  simp [ne_empty_of_isBlank h, List.all_eq_true]

/-- A raw message that passes its check is written, and is an instance of its schema exactly
when every record in it has all its optional fields. -/
theorem encode_raw_admitted_iff (codecs : Codecs) {m : Message} {schema : WireSchema}
    (hraw : m.rawSchema = some schema) (hvalid : m.validate = .ok ()) :
    ∃ w, encodeCultnetMessageForWire codecs m .cultNetSchemaV0 = .ok w ∧
      (schema.admits w = true ↔ ∀ document ∈ m.rawDocuments, document.Complete) := by
  cases m with
  | documentPutRaw messageId document =>
      cases hraw
      have hvalid' := hvalid
      rw [Message.validate, Fallible.check_bind_eq_ok, requireNonEmpty_eq_ok] at hvalid'
      refine ⟨_, Fallible.check_bind_eq_ok.mpr ⟨hvalid, rfl⟩, ?_⟩
      rw [admits_documentPutRaw hvalid'.1, admits_encodeRawDocumentRecord hvalid'.2]
      simp [Message.rawDocuments]
  | snapshotResponseRaw messageId documents =>
      cases hraw
      have hvalid' := hvalid
      rw [Message.validate, Fallible.check_bind_eq_ok, requireNonEmpty_eq_ok,
        Fallible.forM_eq_ok] at hvalid'
      refine ⟨_, Fallible.check_bind_eq_ok.mpr ⟨hvalid, rfl⟩, ?_⟩
      rw [admits_snapshotResponseRaw hvalid'.1, List.forall_mem_map]
      exact forall₂_congr fun document hmem => admits_encodeRawDocumentRecord (hvalid'.2 _ hmem)
  | _ => cases hraw

/-- A record with all its optional fields. -/
def completeDocument : RawDocumentRecord where
  schemaId := "example.note.v0"
  recordKey := "note"
  storedAt := "2024-01-01T00:00:00Z"
  payloadEncoding := .messagepack
  payload := [0xc0]
  sourceRuntimeId := some "runtime"
  sourceAgentId := some "agent"
  sourceRole := some "role"
  tags := some []

theorem encode_raw_admitted_complete :
    ∃ w, encodeCultnetMessageForWire libraryCodecs (.documentPutRaw "m" completeDocument)
        .cultNetSchemaV0 = .ok w ∧ documentPutRawSchema.admits w = true := by
  obtain ⟨w, hw, hiff⟩ := encode_raw_admitted_iff libraryCodecs
    (m := .documentPutRaw "m" completeDocument) rfl (by decide)
  refine ⟨w, hw, hiff.mpr fun document hmem => ?_⟩
  obtain rfl := List.mem_singleton.mp hmem
  exact ⟨rfl, rfl, rfl, rfl⟩

/-- Without tags, `Nil` stands under `tags`. -/
theorem encode_raw_not_admitted :
    (Message.documentPutRaw "m" { completeDocument with tags := none }).validate = .ok () ∧
      ∃ w, encodeCultnetMessageForWire libraryCodecs
          (.documentPutRaw "m" { completeDocument with tags := none }) .cultNetSchemaV0 = .ok w ∧
        documentPutRawSchema.admits w = false :=
  ⟨by decide, _, rfl, by decide +kernel⟩

end CultNet
