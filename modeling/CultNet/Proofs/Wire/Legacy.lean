/-
The union contract reads back what it wrote.

The argument is by cases on the message: a tag leads back to the variant it was
written for, and each position of the array was written by one function of
`CultNet.Wire.Fields` and is read by its partner.  The one difference is
`includeSchemaJson`, which is written as `false` when it is absent.
-/
import CultNet.Proofs.Wire.Fields
import CultNet.Wire.Legacy

namespace CultNet

open MessagePack (Value)

variable {engine : Base64Engine}

/-! ### Reading back -/

/-- Each of the eight entries is found under its name and read by its own reader. -/
theorem requireLegacySchemaDescriptor_of_legacySchemaDescriptor {schema : SchemaDescriptor}
    {v : Value} (h : legacySchemaDescriptor schema = .ok v) (fieldName : String) :
    requireLegacySchemaDescriptor v fieldName = .ok schema := by
  cases h
  simp [requireLegacySchemaDescriptor, Fallible.ok_bind]

/-- The descriptors of a catalog. -/
theorem requireLegacySchemaDescriptorArray_of_mapM {schemas : List SchemaDescriptor}
    {vs : List Value} (h : schemas.mapM legacySchemaDescriptor = .ok vs) (fieldName : String) :
    requireLegacySchemaDescriptorArray (some (.array vs)) fieldName = .ok schemas := by
  refine Fallible.mapM_zipIdx_of_forall₂ ((Fallible.mapM_eq_ok.mp h).imp ?_) 0
  intro schema v hv i
  exact requireLegacySchemaDescriptor_of_legacySchemaDescriptor hv _

/-- A message as it comes back: an absent `includeSchemaJson` was written as `false`. -/
def Message.withIncludeSchemaJson : Message → Message
  | .schemaCatalogRequest messageId includeSchemaJson schemaIds kinds =>
    .schemaCatalogRequest messageId (some (includeSchemaJson.getD false)) schemaIds kinds
  | message => message

theorem parseGamecultNetworkingMessage_union (tag : UInt32) (fields : List Value) :
    parseGamecultNetworkingMessage engine (union tag fields) =
      parseUnion engine tag.toNat fields := by
  simp [parseGamecultNetworkingMessage, union]

/-- By cases on the message: each field is read by the partner of what wrote it. -/
theorem parse_of_encodeGamecultNetworkingMessage (hengine : engine.Canonical) {m : Message}
    {w : Value} (h : encodeGamecultNetworkingMessage engine m = .ok w) :
    parseGamecultNetworkingMessage engine w = .ok m.withIncludeSchemaJson := by
  cases m with
  | login nonce auth password =>
      simp only [encodeGamecultNetworkingMessage, Fallible.bind_eq_ok] at h
      obtain ⟨v₁, h₁, v₂, h₂, v₃, h₃, h⟩ := h
      cases h
      rw [parseGamecultNetworkingMessage_union]
      simp [parseUnion, Fallible.ok_bind, requireLegacyBytes_of_legacyBytes hengine h₁,
        requireLegacyBytes_of_legacyBytes hengine h₂,
        requireLegacyBytes_of_legacyBytes hengine h₃, Message.withIncludeSchemaJson]
  | register nonce email password name =>
      simp only [encodeGamecultNetworkingMessage, Fallible.bind_eq_ok] at h
      obtain ⟨v₁, h₁, v₂, h₂, v₃, h₃, v₄, h₄, h⟩ := h
      cases h
      rw [parseGamecultNetworkingMessage_union]
      simp [parseUnion, Fallible.ok_bind, requireLegacyBytes_of_legacyBytes hengine h₁,
        requireLegacyBytes_of_legacyBytes hengine h₂,
        requireLegacyBytes_of_legacyBytes hengine h₃,
        requireLegacyBytes_of_legacyBytes hengine h₄, Message.withIncludeSchemaJson]
  | verify nonce session | loginSuccess nonce session =>
      simp only [encodeGamecultNetworkingMessage, Fallible.bind_eq_ok] at h
      obtain ⟨v₁, h₁, v₂, h₂, h⟩ := h
      cases h
      rw [parseGamecultNetworkingMessage_union]
      simp [parseUnion, Fallible.ok_bind, requireLegacyBytes_of_legacyBytes hengine h₁,
        requireLegacyBytes_of_legacyBytes hengine h₂, Message.withIncludeSchemaJson]
  | error text | sampleChangeName text | sampleChat text =>
      cases h
      rw [parseGamecultNetworkingMessage_union]
      simp [parseUnion, Message.withIncludeSchemaJson]
  | schemaCatalogRequest messageId includeSchemaJson schemaIds kinds =>
      cases h
      rw [parseGamecultNetworkingMessage_union]
      simp [parseUnion, Fallible.ok_bind, Message.withIncludeSchemaJson]
  | schemaCatalogResponse messageId schemas =>
      simp only [encodeGamecultNetworkingMessage, Fallible.bind_eq_ok] at h
      obtain ⟨vs, hvs, h⟩ := h
      cases h
      rw [parseGamecultNetworkingMessage_union]
      simp [parseUnion, Fallible.ok_bind, requireLegacySchemaDescriptorArray_of_mapM hvs,
        Message.withIncludeSchemaJson]
  | _ => cases h

end CultNet
