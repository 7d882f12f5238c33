/-
Messages of `cultnet.schema.v0` come back from the wire, on either way.

The raw way writes a record as nine entries and looks each up again by name.  The
other way is the derived form, which reads back what it wrote; what is left there is
that the decoder takes the same way as the encoder, and this rests on the first
entry under `schemaVersion` being the one the derived form wrote.
-/
import CultNet.Proofs.Wire.Fields
import CultNet.Wire

namespace CultNet

open MessagePack (Value)

/-! ### The raw way -/

@[simp] theorem rawPayloadEncoding_name (fieldName : String) (encoding : RawPayloadEncoding) :
    rawPayloadEncoding fieldName encoding.name = .ok encoding := by
  cases encoding
  rfl

@[simp] theorem requirePayload_binary (bytes : List UInt8) (fieldName : String) :
    requirePayload (some (.binary bytes)) fieldName = .ok bytes := rfl

/-- Each of the nine entries is found under its name and read by its own reader. -/
theorem requireRawDocumentRecord_encodeRawDocumentRecord (document : RawDocumentRecord)
    (fieldName : String) :
    requireRawDocumentRecord (some (encodeRawDocumentRecord document)) fieldName =
      .ok document := by
  simp [requireRawDocumentRecord, encodeRawDocumentRecord, Fallible.ok_bind]

theorem requireRawDocuments_map (documents : List RawDocumentRecord) :
    requireRawDocuments (documents.map encodeRawDocumentRecord) = .ok documents := by
  refine Fallible.mapM_zipIdx_of_forall₂ ?_ 0
  rw [List.forall₂_map_right_iff, List.forall₂_same]
  exact fun document _ i => requireRawDocumentRecord_encodeRawDocumentRecord document _

theorem parseRaw_of_encodeRawCultnetSchemaMessage {m : Message} {w : Value}
    (h : encodeRawCultnetSchemaMessage m = .ok w) :
    parseRawCultnetSchemaMessage w = .ok m := by
  cases m with
  | documentPutRaw messageId document =>
      cases h
      simp [parseRawCultnetSchemaMessage, Fallible.ok_bind,
        requireRawDocumentRecord_encodeRawDocumentRecord]
  | snapshotResponseRaw messageId documents =>
      cases h
      simp [parseRawCultnetSchemaMessage, Fallible.ok_bind, requireRawDocuments_map]
  | _ => cases h

theorem schemaVersionFromWireValue_encodeRaw {m : Message} {w : Value}
    (h : encodeRawCultnetSchemaMessage m = .ok w) :
    schemaVersionFromWireValue w = some m.kind.name := by
  cases m with
  | documentPutRaw messageId document =>
      cases h
      rfl
  | snapshotResponseRaw messageId documents =>
      cases h
      rfl
  | _ => cases h

/-! ### The way of the derived form -/

/-- The first entry under `schemaVersion` decides, here among entries of a JSON object. -/
theorem schemaVersionFromWireValue_of_lookup {members : List (String × JsonValue)}
    {version : String} (h : members.lookup "schemaVersion" = some (.string version)) :
    schemaVersionFromWireValue (.map (members.map fun m => (.text m.1, m.2.toMessagePack))) =
      some version := by
  unfold schemaVersionFromWireValue
  rw [Value.asMap_map]
  induction members with
  | nil => cases h
  | cons m rest ih =>
      obtain ⟨key, value⟩ := m
      rw [Members.lookup_cons] at h
      simp only [List.map_cons, List.findSome?_cons, Value.asStr_text]
      by_cases hkey : key = "schemaVersion"
      · subst hkey
        rw [if_pos rfl] at h
        cases h
        rfl
      · rw [if_neg (Ne.symm hkey)] at h
        have hfilter : (some key).filter (· == "schemaVersion") = none := by
          simp [Option.filter, hkey]
        rw [hfilter]
        exact ih h

/-- A derived form carries the name of its variant as the `schemaVersion`. -/
theorem schemaVersionFromWireValue_serialize (m : Message) :
    schemaVersionFromWireValue (JsonValue.toMessagePack (Serde.serialize m)) =
      some m.kind.name := by
  show schemaVersionFromWireValue
    (JsonValue.toMessagePack (.object (Message.tagged.entries m))) = _
  rw [JsonValue.toMessagePack_object]
  refine schemaVersionFromWireValue_of_lookup ?_
  rw [Message.tagged.entries_eq]
  exact Serde.lookup_present (Message.tagged.nodup_entries m) List.mem_cons_self

theorem parseSchemaMessage_of_version {codecs : Codecs} {w : Value} {version : String}
    (h : schemaVersionFromWireValue w = some version)
    (hput : version ≠ "cultnet.document_put_raw.v0")
    (hsnapshot : version ≠ "cultnet.snapshot_response_raw.v0") :
    parseSchemaMessage codecs w = codecs.fromWire w >>= messageFromJson codecs := by
  unfold parseSchemaMessage
  rw [h]
  split
  case h_1 heq => exact absurd (Option.some.inj heq) hput
  case h_2 heq => exact absurd (Option.some.inj heq) hsnapshot
  case h_3 => rfl

theorem messageFromJson_serialize (codecs : Codecs) (m : Message) :
    messageFromJson codecs (Serde.serialize m) = .ok m := by
  rw [messageFromJson, Serde.deserialize_serialize]

/-- A derived form is parsed as one, unless its variant is a raw one. -/
theorem parseSchemaMessage_serialize {codecs : Codecs} (hcodecs : codecs.Faithful) {m : Message}
    (hput : m.kind ≠ .documentPutRaw) (hsnapshot : m.kind ≠ .snapshotResponseRaw) :
    parseSchemaMessage codecs (JsonValue.toMessagePack (Serde.serialize m)) = .ok m := by
  have hname : ∀ kind, m.kind ≠ kind → m.kind.name ≠ kind.name := fun _ h heq =>
    h (Enumeration.name_injective heq)
  rw [parseSchemaMessage_of_version (schemaVersionFromWireValue_serialize m) (hname _ hput)
    (hname _ hsnapshot), hcodecs.fromWire_eq, Fallible.ok_bind, messageFromJson_serialize]

theorem parseSchemaMessage_encodeRaw {codecs : Codecs} {m : Message} {w : Value}
    (h : encodeRawCultnetSchemaMessage m = .ok w) : parseSchemaMessage codecs w = .ok m := by
  have hversion := schemaVersionFromWireValue_encodeRaw h
  have hraw := parseRaw_of_encodeRawCultnetSchemaMessage h
  unfold parseSchemaMessage
  rw [hversion]
  cases m with
  | documentPutRaw messageId document => exact hraw
  | snapshotResponseRaw messageId documents => exact hraw
  | _ => cases h

/-- Whichever way a message took to the wire, it is parsed the same way. -/
theorem parseSchemaMessage_of_encodeSchemaMessage {codecs : Codecs} (hcodecs : codecs.Faithful)
    (m : Message) :
    ∃ w, encodeSchemaMessage codecs m = .ok w ∧ parseSchemaMessage codecs w = .ok m := by
  cases m with
  | documentPutRaw messageId document => exact ⟨_, rfl, parseSchemaMessage_encodeRaw rfl⟩
  | snapshotResponseRaw messageId documents => exact ⟨_, rfl, parseSchemaMessage_encodeRaw rfl⟩
  | _ =>
      refine ⟨_, hcodecs.toWire_eq _, parseSchemaMessage_serialize hcodecs ?_ ?_⟩ <;>
        simp [Message.kind]

end CultNet
