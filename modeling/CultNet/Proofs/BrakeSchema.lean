/-
The published schema of the deployment brake against its records.

The schema describes nineteen positions and a record has twenty: the principal of
the latest transition was added to the record and not to the schema, so no record
is an instance.  The first nineteen positions of a valid record are what the
schema asks for, whether the brake is engaged or released.
-/
import Mathlib.Data.Rat.Cast.Order
import CultNet.Proofs.IdunnDeploymentBrake

namespace CultNet

open JsonSchema

/-! ### One position at a time -/

theorem IsIdentifier.length {value : String} (h : IsIdentifier value) :
    1 ≤ value.length ∧ value.length ≤ 256 := by
  refine ⟨?_, (length_le_utf8ByteSize value).trans h.size⟩
  rw [Nat.one_le_iff_ne_zero]
  intro hzero
  have hnil : value.toList = [] :=
    List.length_eq_zero_iff.mp ((String.length_toList ..).trans hzero)
  have hblank := h.nonblank
  rw [isBlank, hnil] at hblank
  cases hblank

theorem valid_identifier {value : String} (h : IsIdentifier value) :
    valid [.type [.string], .minLength 1, .maxLength 256] (.string value) = true := by
  simp [JsonType.admits, h.length]

theorem valid_optional_text {value : Option String}
    (h : ∀ v, value = some v → 1 ≤ v.length ∧ v.length ≤ 256) :
    valid [.type [.string, .null], .minLength 1, .maxLength 256]
      ((value.map Json.string).getD .null) = true := by
  cases value with
  | none => rfl
  | some v => simp [JsonType.admits, h v rfl]

theorem one_le_value {value : UInt64} (h : value ≠ 0) : (1 : ℚ) ≤ (value.toNat : ℚ) := by
  have hpos : 1 ≤ value.toNat := by
    rw [Nat.one_le_iff_ne_zero]
    exact fun hzero => h (UInt64.toNat_inj.mp hzero)
  exact_mod_cast hpos

theorem valid_u64 {value : UInt64} (h : value ≠ 0) :
    valid [.type [.integer], .minimum 1] (jsonU64 value) = true := by
  simp [JsonType.admits, jsonU64, JsonNumber.value, one_le_value h]

theorem valid_optional_u64 {value : Option UInt64} (h : ∀ v, value = some v → v ≠ 0) :
    valid [.type [.integer, .null], .minimum 1] ((value.map jsonU64).getD .null) = true := by
  cases value with
  | none => rfl
  | some v =>
      simp [JsonType.admits, jsonU64, JsonNumber.value, one_le_value (h v rfl)]

theorem valid_byte (b : UInt8) :
    valid [.type [.integer], .minimum 0, .maximum 255] (jsonU64 b.toUInt64) = true := by
  have hle : (b.toNat : ℚ) ≤ 255 := by
    exact_mod_cast Nat.le_of_lt_succ b.toNat_lt
  simp [JsonType.admits, jsonU64, JsonNumber.value, hle]

theorem valid_optional_signature {value : Option (List UInt8)}
    (h : ∀ v, value = some v → v.length = 64) :
    valid [.type [.array, .null], .items [] [.type [.integer], .minimum 0, .maximum 255],
        .minItems 64, .maxItems 64]
      ((value.map fun bytes => .array (bytes.map fun b => jsonU64 b.toUInt64)).getD .null) =
        true := by
  cases value with
  | none => rfl
  | some v =>
      have hbytes : (v.map fun b => jsonU64 b.toUInt64).all
          (valid [.type [.integer], .minimum 0, .maximum 255]) = true := by
        rw [List.all_map, List.all_eq_true]
        exact fun b _ => valid_byte b
      rw [Option.map_some, Option.getD_some, valid_cons, valid_cons, holds_items, itemsHold_nil,
        hbytes]
      simp [JsonType.admits, h v rfl]

/-! ### The whole record -/

namespace IdunnDeploymentBrakeRecord

variable {record : IdunnDeploymentBrakeRecord}

/-- The authorization texts of a valid record, and their lengths. -/
theorem optional_texts (h : record.validate = .ok ()) :
    ∀ text ∈ record.authorization, ∀ v, text = some v → 1 ≤ v.length ∧ v.length ≤ 256 := by
  rcases (validate_ok h).2 with ⟨-, hnone⟩ | ⟨-, issued, expires, signature, ha⟩
  · intro text htext v hv
    subst hv
    simp only [hasAuthorization, Bool.or_eq_false_iff, List.any_eq_false] at hnone
    exact absurd rfl (hnone.1.1.1 _ htext)
  · obtain ⟨id, hid, hidentifier⟩ := ha.id
    obtain ⟨releaseId, hrelease, hreleaseId⟩ := ha.releaseId
    obtain ⟨deploymentId, hdeployment, hdeploymentId⟩ := ha.deploymentId
    obtain ⟨authorizer, hauthorizer, hauthorizerId⟩ := ha.authorizer
    simp only [authorization, hid, hrelease, hdeployment, hauthorizer, ha.purpose, ha.algorithm,
      List.forall_mem_cons, Option.some.injEq, forall_eq']
    exact ⟨hidentifier.length, by decide, hreleaseId.length, hdeploymentId.length,
      hauthorizerId.length, by decide, by simp⟩

/-- The optional times of a valid record are not zero. -/
theorem optional_times (h : record.validate = .ok ()) :
    ∀ time ∈ [record.expiresAtUnixMillis, record.authorizationIssuedAtUnixMillis,
      record.authorizationExpiresAtUnixMillis], ∀ v, time = some v → v ≠ 0 := by
  obtain ⟨hshape, hstate⟩ := validate_ok h
  have hlater : ∀ v, record.observedAtUnixMillis ≤ v → v ≠ 0 := by
    rintro v hle rfl
    exact hshape.observed (UInt64.le_zero_iff.mp hle)
  have hexpires : ∀ v, record.expiresAtUnixMillis = some v → v ≠ 0 :=
    fun v hv => hlater v (UInt64.le_of_lt (hshape.expires v hv))
  simp only [List.forall_mem_cons]
  rcases hstate with ⟨-, hnone⟩ | ⟨-, issued, expires, signature, ha⟩
  · simp only [hasAuthorization, Bool.or_eq_false_iff, Option.isSome_eq_false_iff,
      Option.isNone_iff_eq_none] at hnone
    exact ⟨hexpires, by simp [hnone], by simp [hnone], by simp⟩
  · refine ⟨hexpires, ?_, ?_, by simp⟩
    · intro v hv
      rw [ha.issuedAt] at hv
      cases hv
      exact hlater issued ha.observed
    · intro v hv
      rw [ha.expiresAt] at hv
      cases hv
      exact hlater expires (UInt64.le_trans ha.observed (UInt64.le_of_lt ha.order))

/-- The signature of a valid record has 64 bytes. -/
theorem optional_signature (h : record.validate = .ok ()) :
    ∀ v, record.signature = some v → v.length = 64 := by
  intro v hv
  rcases (validate_ok h).2 with ⟨-, hnone⟩ | ⟨-, issued, expires, signature, ha⟩
  · simp [hasAuthorization, hv] at hnone
  · rw [ha.signed] at hv
    cases hv
    exact ha.size

/-- No valid record is an instance of the published schema, which describes exactly its first
nineteen positions. -/
theorem positional_not_instance (record : IdunnDeploymentBrakeRecord)
    (h : record.validate = .ok ()) :
    valid brakeSchema (.array record.positional) = false ∧
      valid brakeSchema (.array (record.positional.take 19)) = true := by
  constructor
  · simp [brakeSchema, positional]
  · obtain ⟨hshape, hstate⟩ := validate_ok h
    have htexts := optional_texts h
    have htimes := optional_times h
    simp only [authorization, List.forall_mem_cons] at htexts htimes
    obtain ⟨hid, hpurpose, hrelease, hdeployment, hauthorizer, halgorithm, -⟩ := htexts
    obtain ⟨hexpires, hissued, hexpiry, -⟩ := htimes
    have hstatus : valid [.enum [.string "engaged", .string "released"]] (.string record.status) =
        true := by
      rcases hstate with ⟨hs, -⟩ | ⟨hs, -⟩ <;> rw [hs] <;> rfl
    have halgorithmType : valid [.type [.string, .null]]
        ((record.signatureAlgorithm.map Json.string).getD .null) = true := by
      cases record.signatureAlgorithm <;> rfl
    have hitems : itemsHold brakePrefixItems (valid []) (record.positional.take 19) = true := by
      simp only [brakePrefixItems, positional, List.take_succ_cons, List.take_zero,
        itemsHold_cons, itemsHold_nil, Bool.and_eq_true]
      refine ⟨?_, valid_identifier hshape.brakeId, valid_identifier hshape.authority,
        valid_identifier hshape.runtimeId, hstatus, valid_identifier hshape.scope,
        valid_identifier hshape.reason, valid_u64 hshape.observed, valid_optional_u64 hexpires,
        valid_optional_text hid, valid_optional_text hpurpose, valid_optional_text hrelease,
        valid_optional_text hdeployment, valid_optional_text hauthorizer,
        valid_optional_u64 hissued, valid_optional_u64 hexpiry, halgorithmType,
        valid_optional_signature (optional_signature h), ?_, rfl⟩
      · rw [hshape.schemaVersion]
        rfl
      · rw [hshape.privacy]
        rfl
    rw [brakeSchema, valid_cons, valid_cons, holds_items, hitems]
    rfl

theorem released_not_instance :
    valid brakeSchema (.array released.positional) = false ∧
      valid brakeSchema (.array (released.positional.take 19)) = true :=
  positional_not_instance released (by decide +kernel)

/-- The released record is valid and is not an instance of the schema. -/
theorem released_valid_not_instance :
    released.validate = .ok () ∧ valid brakeSchema (.array released.positional) = false := by
  decide +kernel

end IdunnDeploymentBrakeRecord

end CultNet
