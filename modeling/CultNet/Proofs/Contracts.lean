/-
What the checks of `src/contracts.rs` ask, record by record.

A text must not be blank, an optional one must not be blank where it is there.  The
check of a record succeeds exactly when each of these holds of it, whatever the
order in which it asks.
-/
import CultNet.Contracts
import CultNet.Lib.Fallible

namespace CultNet

theorem requireNonEmpty_eq_ok {value field : String} :
    requireNonEmpty value field = .ok () ↔ isBlank value = false := by
  unfold requireNonEmpty
  cases isBlank value <;> simp

theorem requireOptionalNonEmpty_eq_ok {value : Option String} {field : String} :
    requireOptionalNonEmpty value field = .ok () ↔ ∀ text ∈ value, isBlank text = false := by
  cases value with
  | none => simp [requireOptionalNonEmpty]
  | some text => simp [requireOptionalNonEmpty, requireNonEmpty_eq_ok]

theorem requireOptionalStringVec_eq_ok {value : Option (List String)} {field : String} :
    requireOptionalStringVec value field = .ok () ↔
      ∀ texts ∈ value, ∀ text ∈ texts, isBlank text = false := by
  cases value with
  | none => simp [requireOptionalStringVec]
  | some texts =>
      rw [requireOptionalStringVec, Fallible.forM_eq_ok]
      simp [requireNonEmpty_eq_ok]

/-- A schema descriptor that passes. -/
theorem SchemaDescriptor.validate_eq_ok {schema : SchemaDescriptor} :
    schema.validate = .ok () ↔
      isBlank schema.schemaId = false ∧
      (∀ text ∈ schema.schemaVersion, isBlank text = false) ∧
      (∀ text ∈ schema.documentType, isBlank text = false) ∧
      (∀ text ∈ schema.title, isBlank text = false) ∧
      isBlank schema.contentHash = false ∧
      (∀ text ∈ schema.schemaJson, isBlank text = false) ∧
      schema.wireContracts.isEmpty = false := by
  simp only [SchemaDescriptor.validate, Fallible.check_bind_eq_ok, requireNonEmpty_eq_ok,
    requireOptionalNonEmpty_eq_ok, Fallible.throw_if_eq_ok, Bool.not_eq_true]

/-- A raw record that passes. -/
theorem RawDocumentRecord.validate_eq_ok {document : RawDocumentRecord} :
    document.validate = .ok () ↔
      isBlank document.schemaId = false ∧
      isBlank document.recordKey = false ∧
      isBlank document.storedAt = false ∧
      document.payload.isEmpty = false ∧
      (∀ text ∈ document.sourceRuntimeId, isBlank text = false) ∧
      (∀ text ∈ document.sourceAgentId, isBlank text = false) ∧
      (∀ text ∈ document.sourceRole, isBlank text = false) ∧
      ∀ texts ∈ document.tags, ∀ text ∈ texts, isBlank text = false := by
  simp only [RawDocumentRecord.validate, Fallible.check_bind_eq_ok, requireNonEmpty_eq_ok]
  by_cases hempty : document.payload.isEmpty
  · simp [hempty]
  · simp [hempty, Fallible.check_bind_eq_ok, requireOptionalNonEmpty_eq_ok,
      requireOptionalStringVec_eq_ok]

end CultNet
