/-
The deployment brake fails closed.

Everything the gate rests on is what `validate` guarantees: a record that passes
is engaged without any authorization, or released with a complete one whose
lifetime is bounded.  From that the three time bounds of the gate collapse into
one interval, and none of the partial operations of `validate` can fail.
-/
import CultNet.Lib.Fallible
import CultNet.IdunnDeploymentBrake

namespace CultNet

/-! ### Nothing panics -/

/-- The computation returns, with a value or an error. -/
def NoPanic {α : Type} (x : Except Fault α) : Prop := ∀ message, x ≠ .error (.panic message)

theorem NoPanic.bind {α β : Type} {x : Except Fault α} {f : α → Except Fault β}
    (hx : NoPanic x) (hf : ∀ a, x = .ok a → NoPanic (f a)) : NoPanic (x >>= f) := by
  cases x with
  | error fault =>
      intro message h
      exact hx message (by cases h; rfl)
  | ok a => exact hf a rfl

theorem noPanic_ok {α : Type} (a : α) : NoPanic (.ok a : Except Fault α) := nofun

theorem noPanic_error {α : Type} (message : String) :
    NoPanic (.error (.error message) : Except Fault α) := nofun

theorem noPanic_raise {α : Type} (x : Except String α) : NoPanic (raise x) := by
  cases x with
  | error message => exact noPanic_error message
  | ok value => exact noPanic_ok value

/-- The text passes `identifier`. -/
structure IsIdentifier (value : String) : Prop where
  nonblank : isBlank value = false
  size : value.utf8ByteSize ≤ 256
  noControl : value.toList.any isControl = false

theorem identifier_eq_ok {value label : String} :
    identifier value label = .ok () ↔ IsIdentifier value := by
  unfold identifier
  constructor
  · intro h
    split at h
    · cases h
    · rename_i hnot
      simp only [not_or, Bool.not_eq_true, not_lt] at hnot
      exact ⟨hnot.1, hnot.2.1, hnot.2.2⟩
  · intro h
    rw [if_neg]
    simp only [not_or, Bool.not_eq_true, not_lt]
    exact ⟨h.nonblank, h.size, h.noControl⟩

theorem noPanic_identifier (value label : String) : NoPanic (identifier value label) := by
  unfold identifier
  split
  · exact noPanic_error _
  · exact noPanic_ok _

theorem noPanic_identifier_bind {α : Type} {value label : String} {f : Unit → Except Fault α}
    (h : NoPanic (f ())) : NoPanic (identifier value label >>= f) :=
  NoPanic.bind (noPanic_identifier value label) fun _ _ => h

theorem unwrap_some {α : Type} (value : α) : unwrap (some value) = .ok value := rfl

namespace IdunnDeploymentBrakeRecord

variable {record : IdunnDeploymentBrakeRecord}

/-! ### What `validate` guarantees -/

/-- What `validate` checks of every record. -/
structure Shape (record : IdunnDeploymentBrakeRecord) : Prop where
  schemaVersion : record.schemaVersion = idunnDeploymentBrakeSchema
  brakeId : IsIdentifier record.brakeId
  authority : IsIdentifier record.authority
  runtimeId : IsIdentifier record.runtimeId
  reason : IsIdentifier record.reason
  scope : IsIdentifier record.scope
  updatedBy : IsIdentifier record.updatedBy
  observed : record.observedAtUnixMillis ≠ 0
  expires : ∀ v, record.expiresAtUnixMillis = some v → record.observedAtUnixMillis < v
  privacy : record.privateStateExposed = false

/-- A complete authorization of a released record. -/
structure Authorized (record : IdunnDeploymentBrakeRecord) (issued expires : UInt64)
    (signature : List UInt8) : Prop where
  id : ∃ v, record.authorizationId = some v ∧ IsIdentifier v
  releaseId : ∃ v, record.authorizedReleaseId = some v ∧ IsIdentifier v
  deploymentId : ∃ v, record.authorizedDeploymentId = some v ∧ IsIdentifier v
  authorizer : ∃ v, record.authorizedBy = some v ∧ IsIdentifier v
  purpose : record.authorizationPurpose = some idunnDeploymentReleasePurpose
  algorithm : record.signatureAlgorithm = some "ed25519"
  issuedAt : record.authorizationIssuedAtUnixMillis = some issued
  expiresAt : record.authorizationExpiresAtUnixMillis = some expires
  signed : record.signature = some signature
  size : signature.length = 64
  observed : record.observedAtUnixMillis ≤ issued
  order : issued < expires
  lifetime : expires - issued ≤ idunnDeploymentReleaseMaxLifetimeMillis
  brakeExpiry : ∀ v, record.expiresAtUnixMillis = some v → expires ≤ v

/-- The fields `validate` unwraps. -/
structure Complete (record : IdunnDeploymentBrakeRecord) (id releaseId deploymentId authorizer : String)
    (issued expires : UInt64) (signature : List UInt8) : Prop where
  id : record.authorizationId = some id
  releaseId : record.authorizedReleaseId = some releaseId
  deploymentId : record.authorizedDeploymentId = some deploymentId
  authorizer : record.authorizedBy = some authorizer
  issued : record.authorizationIssuedAtUnixMillis = some issued
  expires : record.authorizationExpiresAtUnixMillis = some expires
  signature : record.signature = some signature

/-- Past the check for absent fields they are all there. -/
theorem complete_of_not_isNone
    (h : ¬(record.authorization.any Option.isNone ∨
      record.authorizationIssuedAtUnixMillis.isNone ∨
      record.authorizationExpiresAtUnixMillis.isNone ∨ record.signature.isNone)) :
    ∃ id releaseId deploymentId authorizer issued expires signature,
      record.Complete id releaseId deploymentId authorizer issued expires signature := by
  simp only [authorization, List.any_cons, List.any_nil, Bool.or_false, Bool.or_eq_true, not_or,
    Option.isNone_iff_eq_none] at h
  obtain ⟨⟨hid, -, hrelease, hdeployment, hauthorizer, -⟩, hissued, hexpires, hsignature⟩ := h
  obtain ⟨id, hid⟩ := Option.ne_none_iff_exists'.mp hid
  obtain ⟨releaseId, hrelease⟩ := Option.ne_none_iff_exists'.mp hrelease
  obtain ⟨deploymentId, hdeployment⟩ := Option.ne_none_iff_exists'.mp hdeployment
  obtain ⟨authorizer, hauthorizer⟩ := Option.ne_none_iff_exists'.mp hauthorizer
  obtain ⟨issued, hissued⟩ := Option.ne_none_iff_exists'.mp hissued
  obtain ⟨expires, hexpires⟩ := Option.ne_none_iff_exists'.mp hexpires
  obtain ⟨signature, hsignature⟩ := Option.ne_none_iff_exists'.mp hsignature
  exact ⟨id, releaseId, deploymentId, authorizer, issued, expires, signature,
    hid, hrelease, hdeployment, hauthorizer, hissued, hexpires, hsignature⟩

section Complete

variable {id releaseId deploymentId authorizer : String} {issued expires : UInt64}
  {signature : List UInt8}

/-- With the fields there, the last part of `validate` has no partial step left but the
subtraction. -/
theorem validateAuthorization_eq
    (h : record.Complete id releaseId deploymentId authorizer issued expires signature) :
    record.validateAuthorization = (do
      identifier id "authorization id"
      identifier releaseId "authorized release id"
      identifier deploymentId "authorized deployment id"
      identifier authorizer "authorizer"
      if record.authorizationPurpose ≠ some idunnDeploymentReleasePurpose ∨
          record.signatureAlgorithm ≠ some "ed25519" ∨ signature.length ≠ 64 ∨
          issued < record.observedAtUnixMillis ∨ expires ≤ issued then
        .error (.error
          "deployment release authorization purpose, signature, or lifetime is invalid")
      else do
        let lifetime ← checkedSub64 expires issued
        if idunnDeploymentReleaseMaxLifetimeMillis < lifetime ∨
            record.expiresAtUnixMillis.any (fun brakeExpiry => brakeExpiry < expires) then
          .error (.error
            "deployment release authorization purpose, signature, or lifetime is invalid")
        else .ok ()) := by
  unfold validateAuthorization
  rw [h.id, h.releaseId, h.deploymentId, h.authorizer, h.issued, h.expires, h.signature]
  simp only [unwrap_some, Fallible.ok_bind, Option.all_some, decide_eq_true_eq]

theorem noPanic_validateAuthorization
    (h : record.Complete id releaseId deploymentId authorizer issued expires signature) :
    NoPanic record.validateAuthorization := by
  rw [validateAuthorization_eq h]
  iterate 4 refine noPanic_identifier_bind ?_
  split
  · exact noPanic_error _
  · rename_i hnot
    -- the order that was just checked is what the subtraction needs
    have hle : issued ≤ expires := by
      simp only [not_or, UInt64.not_le] at hnot
      exact UInt64.le_of_lt hnot.2.2.2.2
    rw [checkedSub64, if_pos hle, Fallible.ok_bind]
    split
    · exact noPanic_error _
    · exact noPanic_ok _

theorem validateAuthorization_ok
    (h : record.Complete id releaseId deploymentId authorizer issued expires signature)
    (hok : record.validateAuthorization = .ok ()) : record.Authorized issued expires signature := by
  rw [validateAuthorization_eq h] at hok
  simp only [Fallible.check_bind_eq_ok, identifier_eq_ok] at hok
  obtain ⟨hid, hrelease, hdeployment, hauthorizer, hok⟩ := hok
  split at hok
  · cases hok
  · rename_i hnot
    simp only [not_or, ne_eq, not_not, UInt64.not_lt, UInt64.not_le] at hnot
    obtain ⟨hpurpose, halgorithm, hsize, hobserved, horder⟩ := hnot
    rw [checkedSub64, if_pos (UInt64.le_of_lt horder), Fallible.ok_bind] at hok
    split at hok
    · cases hok
    · rename_i hnot
      simp only [not_or, UInt64.not_lt, Option.any_eq_true, decide_eq_true_eq, not_exists,
        not_and] at hnot
      exact {
        id := ⟨id, h.id, hid⟩
        releaseId := ⟨releaseId, h.releaseId, hrelease⟩
        deploymentId := ⟨deploymentId, h.deploymentId, hdeployment⟩
        authorizer := ⟨authorizer, h.authorizer, hauthorizer⟩
        purpose := hpurpose
        algorithm := halgorithm
        issuedAt := h.issued
        expiresAt := h.expires
        signed := h.signature
        size := hsize
        observed := hobserved
        order := horder
        lifetime := hnot.1
        brakeExpiry := fun v hv => hnot.2 v hv }

end Complete

theorem noPanic_validate (record : IdunnDeploymentBrakeRecord) : NoPanic record.validate := by
  unfold validate
  split
  · exact noPanic_error _
  iterate 6 refine noPanic_identifier_bind ?_
  split
  · exact noPanic_error _
  split
  · split
    · exact noPanic_error _
    · exact noPanic_ok _
  split
  · exact noPanic_error _
  · rename_i hcomplete
    obtain ⟨_, _, _, _, _, _, _, h⟩ := complete_of_not_isNone hcomplete
    exact noPanic_validateAuthorization h

/-- A valid record is engaged and carries no authorization, or released and carries one. -/
theorem validate_ok (h : record.validate = .ok ()) :
    record.Shape ∧
      (record.status = "engaged" ∧ record.hasAuthorization = false ∨
        record.status = "released" ∧
          ∃ issued expires signature, record.Authorized issued expires signature) := by
  unfold validate at h
  split at h
  · cases h
  rename_i hschema
  simp only [Fallible.check_bind_eq_ok, identifier_eq_ok] at h
  obtain ⟨hbrake, hauthority, hruntime, hreason, hscope, hupdated, h⟩ := h
  split at h
  · cases h
  rename_i hshape
  simp only [not_or, not_not, Option.any_eq_true, decide_eq_true_eq, not_exists, not_and,
    Bool.not_eq_true] at hshape
  obtain ⟨hstatus, hobserved, hexpires, hprivacy⟩ := hshape
  refine ⟨⟨not_not.mp hschema, hbrake, hauthority, hruntime, hreason, hscope, hupdated, hobserved,
    fun v hv => UInt64.not_le.mp (hexpires v hv), hprivacy⟩, ?_⟩
  split at h
  case isTrue hengaged =>
    split at h
    · cases h
    · rename_i hnone
      exact .inl ⟨hengaged, by simpa using hnone⟩
  case isFalse hengaged =>
    split at h
    · cases h
    · rename_i hcomplete
      obtain ⟨_, _, _, _, issued, expires, signature, hc⟩ := complete_of_not_isNone hcomplete
      exact .inr ⟨hstatus hengaged, issued, expires, signature,
        validateAuthorization_ok hc h⟩

end IdunnDeploymentBrakeRecord

/-! ### Signatures -/

/-- The signature verifies under the anchor, and the anchor is one of the profile.  What is signed
is the domain of the profile, then the purpose and the payload each behind its length, which is a
different message for every domain, purpose and payload (`signingMessage_eq_iff`). -/
structure SignatureVerifies (cryptography : Cryptography) (profile : ServiceIdentityProfile)
    (purpose : List UInt8) (anchor : ServiceIdentityTrustAnchor) (payload : List UInt8)
    (proof : ServiceIdentitySignature) : Prop where
  schemaVersion : anchor.schemaVersion = profile.trustAnchorSchema
  keyLength : anchor.publicKey.length = 32
  anchorId : hex (cryptography.sha256 (profile.idDomain ++ anchor.publicKey)) = anchor.identityId
  identityId : proof.identityId = anchor.identityId
  signatureLength : proof.signature.length = 64
  verified : ∃ key, cryptography.keyFromBytes anchor.publicKey = .ok key ∧
    cryptography.verify key (profile.signatureDomain ++ BigEndian.bytes 8 purpose.length ++ purpose ++
      BigEndian.bytes 8 payload.length ++ payload) proof.signature = true

section Signature

variable {cryptography : Cryptography} {profile : ServiceIdentityProfile}
  {anchor : ServiceIdentityTrustAnchor} {purpose payload : List UInt8}
  {proof : ServiceIdentitySignature}

theorem validateAnchor_eq_ok : validateAnchor cryptography profile anchor = .ok () ↔
    anchor.schemaVersion = profile.trustAnchorSchema ∧ anchor.publicKey.length = 32 ∧
      hex (cryptography.sha256 (profile.idDomain ++ anchor.publicKey)) = anchor.identityId := by
  unfold validateAnchor
  by_cases hshape : anchor.schemaVersion ≠ profile.trustAnchorSchema ∨ anchor.publicKey.length ≠ 32
  · rw [if_pos hshape]
    rcases hshape with h | h <;> simp [h]
  · rw [if_neg hshape]
    simp only [not_or, not_not] at hshape
    rw [deriveServiceIdentityId, if_neg (not_not.mpr hshape.2), Fallible.ok_bind]
    by_cases hid : hex (cryptography.sha256 (profile.idDomain ++ anchor.publicKey)) =
        anchor.identityId
    · simp [hshape.1, hshape.2, hid]
    · simp [hid]

theorem verifyServiceIdentitySignature_eq_ok :
    verifyServiceIdentitySignature cryptography profile purpose anchor payload proof = .ok () ↔
      SignatureVerifies cryptography profile purpose anchor payload proof := by
  unfold verifyServiceIdentitySignature
  rw [Fallible.check_bind_eq_ok, validateAnchor_eq_ok]
  constructor
  · rintro ⟨⟨hschema, hkey, hanchor⟩, h⟩
    split at h
    · cases h
    rename_i hid
    split at h
    · cases h
    split at h
    · cases h
    rename_i hlength
    obtain ⟨key, hfrom, h⟩ := Fallible.bind_eq_ok.mp h
    split at h
    · rename_i hverify
      exact ⟨hschema, hkey, hanchor, not_not.mp hid, not_not.mp hlength, key, hfrom, hverify⟩
    · cases h
  · intro h
    obtain ⟨key, hfrom, hverify⟩ := h.verified
    refine ⟨⟨h.schemaVersion, h.keyLength, h.anchorId⟩, ?_⟩
    rw [if_neg (not_not.mpr h.identityId), if_neg (not_not.mpr h.keyLength),
      if_neg (not_not.mpr h.signatureLength), hfrom, Fallible.ok_bind, signingMessage,
      if_pos hverify]

end Signature

/-! ### The gate -/

/-- Everything that has to be true of a record for the gate to open. -/
structure Permits (cryptography : Cryptography)
    (encode : IdunnDeploymentBrakeRecord → Except String (List UInt8))
    (anchor : ServiceIdentityTrustAnchor) (runtimeId releaseId deploymentId : String)
    (now : UInt64) (record : IdunnDeploymentBrakeRecord) : Prop where
  valid : record.validate = .ok ()
  brakeId : record.brakeId = idunnDeploymentBrakeId
  authority : record.authority = idunnDeploymentBrakeAuthority
  runtimeId : record.runtimeId = runtimeId
  scope : record.scope = "all" ∨ record.scope = idunnDeploymentBrakeScope
  released : record.status = "released"
  releaseId : record.authorizedReleaseId = some releaseId
  deploymentId : record.authorizedDeploymentId = some deploymentId
  issued : ∃ v, record.authorizationIssuedAtUnixMillis = some v ∧ v ≤ now
  expires : ∃ v, record.authorizationExpiresAtUnixMillis = some v ∧ now < v
  brakeExpiry : ∀ v, record.expiresAtUnixMillis = some v → now < v
  /-- The signature covers the encoding of the record with only the signature emptied. -/
  signed : ∃ payload identityId signature,
    encode { record with signature := none } = .ok payload ∧
    record.authorizedBy = some identityId ∧ record.signature = some signature ∧
    SignatureVerifies cryptography idunnDeploymentBrakeOperatorIdentity
      idunnDeploymentBrakeReleasePurpose anchor payload { identityId, signature }

section Gate

variable {cryptography : Cryptography}
  {encode : IdunnDeploymentBrakeRecord → Except String (List UInt8)}
  {anchor : ServiceIdentityTrustAnchor} {runtimeId releaseId deploymentId : String}
  {now : UInt64} {record : IdunnDeploymentBrakeRecord}

theorem classifyValid_eq_ok :
    classifyValid record runtimeId releaseId deploymentId now = .ok () ↔
      record.brakeId = idunnDeploymentBrakeId ∧
      record.authority = idunnDeploymentBrakeAuthority ∧ record.runtimeId = runtimeId ∧
      (record.scope = "all" ∨ record.scope = idunnDeploymentBrakeScope) ∧
      record.status ≠ "engaged" ∧ (∀ v, record.expiresAtUnixMillis = some v → now < v) ∧
      (∃ v, record.authorizationExpiresAtUnixMillis = some v ∧ now < v) ∧
      (∃ v, record.authorizationIssuedAtUnixMillis = some v ∧ v ≤ now) ∧
      record.authorizedReleaseId = some releaseId ∧
      record.authorizedDeploymentId = some deploymentId := by
  unfold classifyValid
  have hexpired : ¬(record.expiresAtUnixMillis.any (fun v => v ≤ now) ∨
      record.authorizationExpiresAtUnixMillis.all (fun v => v ≤ now) ∨
      record.authorizationIssuedAtUnixMillis.all (fun v => now < v)) ↔
        (∀ v, record.expiresAtUnixMillis = some v → now < v) ∧
        (∃ v, record.authorizationExpiresAtUnixMillis = some v ∧ now < v) ∧
        ∃ v, record.authorizationIssuedAtUnixMillis = some v ∧ v ≤ now := by
    cases record.expiresAtUnixMillis <;> cases record.authorizationExpiresAtUnixMillis <;>
      cases record.authorizationIssuedAtUnixMillis <;> simp
  have hforeign : ¬(record.brakeId ≠ idunnDeploymentBrakeId ∨
      record.authority ≠ idunnDeploymentBrakeAuthority) ↔
        record.brakeId = idunnDeploymentBrakeId ∧
        record.authority = idunnDeploymentBrakeAuthority := by simp
  simp only [Fallible.guard_eq_ok, hexpired, hforeign, not_not, ne_eq, and_true, and_assoc]

theorem verifyIdunnDeploymentBrakeAuthorization_eq_ok (hvalid : record.validate = .ok ())
    (hreleased : record.status = "released") :
    verifyIdunnDeploymentBrakeAuthorization cryptography encode record anchor = .ok () ↔
      ∃ payload identityId signature,
        encode { record with signature := none } = .ok payload ∧
        record.authorizedBy = some identityId ∧ record.signature = some signature ∧
        SignatureVerifies cryptography idunnDeploymentBrakeOperatorIdentity
          idunnDeploymentBrakeReleasePurpose anchor payload { identityId, signature } := by
  have hraise : ∀ {α : Type} {x : Except String α} {a : α}, raise x = .ok a ↔ x = .ok a := by
    intro α x a
    cases x <;> simp [raise]
  unfold verifyIdunnDeploymentBrakeAuthorization
  rw [hvalid, Fallible.ok_bind, if_neg (not_not.mpr hreleased)]
  cases record.authorizedBy with
  | none => simp
  | some identityId =>
      cases record.signature with
      | none => simp
      | some signature =>
          simp only [Fallible.bind_eq_ok, hraise, verifyServiceIdentitySignature_eq_ok,
            Option.some.injEq]
          constructor
          · rintro ⟨payload, hencode, hverify⟩
            exact ⟨payload, _, _, hencode, rfl, rfl, hverify⟩
          · rintro ⟨payload, _, _, hencode, rfl, rfl, hverify⟩
            exact ⟨payload, hencode, hverify⟩

theorem noPanic_verifyIdunnDeploymentBrakeAuthorization :
    NoPanic (verifyIdunnDeploymentBrakeAuthorization cryptography encode record anchor) := by
  unfold verifyIdunnDeploymentBrakeAuthorization
  refine record.noPanic_validate.bind fun _ _ => ?_
  split
  · exact noPanic_error _
  · split
    · exact noPanic_error _
    · exact noPanic_error _
    · exact (noPanic_raise _).bind fun _ _ => noPanic_raise _

/-- The three checks of the gate, one after another, are the conditions. -/
theorem permits_iff : Permits cryptography encode anchor runtimeId releaseId deploymentId now record ↔
    record.validate = .ok () ∧
    classifyValid record runtimeId releaseId deploymentId now = .ok () ∧
    verifyIdunnDeploymentBrakeAuthorization cryptography encode record anchor = .ok () := by
  rw [classifyValid_eq_ok]
  constructor
  · intro h
    exact ⟨h.valid, ⟨h.brakeId, h.authority, h.runtimeId, h.scope, by rw [h.released]; decide,
      h.brakeExpiry, h.expires, h.issued, h.releaseId, h.deploymentId⟩,
      (verifyIdunnDeploymentBrakeAuthorization_eq_ok h.valid h.released).mpr h.signed⟩
  · rintro ⟨hvalid, ⟨hbrake, hauthority, hruntime, hscope, hengaged, hbrakeExpiry, hexpires,
      hissued, hrelease, hdeployment⟩, hverify⟩
    have hreleased : record.status = "released" :=
      ((IdunnDeploymentBrakeRecord.validate_ok hvalid).2.resolve_left fun h => hengaged h.1).1
    exact ⟨hvalid, hbrake, hauthority, hruntime, hscope, hreleased, hrelease, hdeployment, hissued,
      hexpires, hbrakeExpiry,
      (verifyIdunnDeploymentBrakeAuthorization_eq_ok hvalid hreleased).mp hverify⟩

/-- On a present record the gate answers, and opens exactly when the three checks pass. -/
theorem evaluate_present : ∃ answer,
    evaluateIdunnDeploymentBrake cryptography encode (.present record) anchor runtimeId releaseId
      deploymentId now = .ok answer ∧
    (answer = .ok () ↔
      Permits cryptography encode anchor runtimeId releaseId deploymentId now record) := by
  unfold evaluateIdunnDeploymentBrake classifyIdunnDeploymentBrake
  dsimp only
  rw [permits_iff]
  cases hvalid : record.validate with
  | error fault =>
      cases fault with
      | error message => exact ⟨.error .corrupt, rfl, by simp⟩
      | panic message => exact absurd hvalid (record.noPanic_validate message)
  | ok _ =>
      cases hclassify : classifyValid record runtimeId releaseId deploymentId now with
      | error denial => exact ⟨.error denial, rfl, by simp⟩
      | ok _ =>
          rw [Fallible.ok_bind]
          dsimp only
          cases hverify : verifyIdunnDeploymentBrakeAuthorization cryptography encode record anchor with
          | error fault =>
              cases fault with
              | error message => exact ⟨.error .invalidSignature, rfl, by simp⟩
              | panic message =>
                  exact absurd hverify (noPanic_verifyIdunnDeploymentBrakeAuthorization message)
          | ok _ => exact ⟨.ok (), rfl, by simp⟩

/-- The gate always answers, and opens only for a present record that meets every condition. -/
theorem evaluate_answers (observation : IdunnDeploymentBrakeObservation) : ∃ answer,
    evaluateIdunnDeploymentBrake cryptography encode observation anchor runtimeId releaseId
      deploymentId now = .ok answer ∧
    (answer = .ok () ↔ ∃ record, observation = .present record ∧
      Permits cryptography encode anchor runtimeId releaseId deploymentId now record) := by
  cases observation with
  | missing => exact ⟨.error .missing, rfl, by simp⟩
  | corrupt => exact ⟨.error .corrupt, rfl, by simp⟩
  | present record =>
      simp only [IdunnDeploymentBrakeObservation.present.injEq, exists_eq_left']
      exact evaluate_present

/-! ### What one record can permit -/

/-- A record names one triple. -/
theorem Permits.unique {anchor' : ServiceIdentityTrustAnchor}
    {runtimeId' releaseId' deploymentId' : String} {now' : UInt64}
    (h : Permits cryptography encode anchor runtimeId releaseId deploymentId now record)
    (h' : Permits cryptography encode anchor' runtimeId' releaseId' deploymentId' now' record) :
    (runtimeId, releaseId, deploymentId) = (runtimeId', releaseId', deploymentId') := by
  have hrelease : releaseId = releaseId' := Option.some.inj (h.releaseId.symm.trans h'.releaseId)
  have hdeployment : deploymentId = deploymentId' :=
    Option.some.inj (h.deploymentId.symm.trans h'.deploymentId)
  rw [← h.runtimeId, ← h'.runtimeId, hrelease, hdeployment]

/-- A record that permits at one time permits exactly from its issue to its expiry. -/
theorem Permits.times {issued expires : UInt64} {signature : List UInt8}
    (hauthorized : record.Authorized issued expires signature)
    (h : Permits cryptography encode anchor runtimeId releaseId deploymentId now record)
    (time : UInt64) :
    Permits cryptography encode anchor runtimeId releaseId deploymentId time record ↔
      issued ≤ time ∧ time < expires := by
  constructor
  · intro ht
    obtain ⟨v, hv, hle⟩ := ht.issued
    obtain ⟨w, hw, hlt⟩ := ht.expires
    rw [hauthorized.issuedAt] at hv
    rw [hauthorized.expiresAt] at hw
    cases hv
    cases hw
    exact ⟨hle, hlt⟩
  · rintro ⟨hle, hlt⟩
    exact { h with
      issued := ⟨issued, hauthorized.issuedAt, hle⟩
      expires := ⟨expires, hauthorized.expiresAt, hlt⟩
      brakeExpiry := fun v hv => UInt64.lt_of_lt_of_le hlt (hauthorized.brakeExpiry v hv) }

/-- The lifetime of an authorization is at most fifteen minutes. -/
theorem IdunnDeploymentBrakeRecord.Authorized.toNat_expires {issued expires : UInt64}
    {signature : List UInt8} (h : record.Authorized issued expires signature) :
    expires.toNat ≤ issued.toNat + 900000 := by
  have hlifetime := UInt64.le_iff_toNat_le.mp h.lifetime
  rw [UInt64.toNat_sub_of_le _ _ (UInt64.le_of_lt h.order)] at hlifetime
  have hmax : idunnDeploymentReleaseMaxLifetimeMillis.toNat = 900000 := by decide
  omega

end Gate

/-- The gate never panics.  It opens exactly for a present record that meets every condition.  Each
record permits a single runtime, release and deployment, within one interval of at most fifteen
minutes, whoever is asked and whenever. -/
theorem evaluateIdunnDeploymentBrake_fails_closed (cryptography : Cryptography)
    (encode : IdunnDeploymentBrakeRecord → Except String (List UInt8)) :
    (∀ observation anchor runtimeId releaseId deploymentId now,
      (∃ answer, evaluateIdunnDeploymentBrake cryptography encode observation anchor runtimeId
        releaseId deploymentId now = .ok answer) ∧
      (evaluateIdunnDeploymentBrake cryptography encode observation anchor runtimeId releaseId
          deploymentId now = .ok (.ok ()) ↔
        ∃ record, observation = .present record ∧
          Permits cryptography encode anchor runtimeId releaseId deploymentId now record)) ∧
    ∀ record : IdunnDeploymentBrakeRecord, ∃ (triple : String × String × String)
      (start stop : UInt64), stop.toNat ≤ start.toNat + 15 * 60 * 1000 ∧
      ∀ anchor runtimeId releaseId deploymentId,
        (∀ now, ¬Permits cryptography encode anchor runtimeId releaseId deploymentId now record) ∨
        (runtimeId, releaseId, deploymentId) = triple ∧
          ∀ now, Permits cryptography encode anchor runtimeId releaseId deploymentId now record ↔
            start ≤ now ∧ now < stop := by
  constructor
  · intro observation anchor runtimeId releaseId deploymentId now
    obtain ⟨answer, hanswer, hiff⟩ := evaluate_answers observation
    refine ⟨⟨answer, hanswer⟩, ?_⟩
    rw [hanswer, Except.ok.injEq, hiff]
  · intro record
    by_cases hsome : ∃ anchor runtimeId releaseId deploymentId now,
      Permits cryptography encode anchor runtimeId releaseId deploymentId now record
    · obtain ⟨_, runtimeId, releaseId, deploymentId, _, h⟩ := hsome
      obtain ⟨_, issued, expires, signature, hauthorized⟩ :=
        (IdunnDeploymentBrakeRecord.validate_ok h.valid).2.resolve_left fun hengaged =>
          absurd (hengaged.1.symm.trans h.released) (by decide)
      refine ⟨(runtimeId, releaseId, deploymentId), issued, expires, hauthorized.toNat_expires, ?_⟩
      intro anchor' runtimeId' releaseId' deploymentId'
      by_cases hnow : ∃ now, Permits cryptography encode anchor' runtimeId' releaseId' deploymentId'
        now record
      · obtain ⟨now, hnow⟩ := hnow
        exact .inr ⟨hnow.unique h, hnow.times hauthorized⟩
      · exact .inl (not_exists.mp hnow)
    · refine ⟨("", "", ""), 0, 0, by decide, fun anchor runtimeId releaseId deploymentId => .inl ?_⟩
      intro now h
      exact hsome ⟨anchor, runtimeId, releaseId, deploymentId, now, h⟩

/-- The released record of the crate's own tests. -/
def IdunnDeploymentBrakeRecord.released : IdunnDeploymentBrakeRecord where
  schemaVersion := idunnDeploymentBrakeSchema
  brakeId := idunnDeploymentBrakeId
  authority := idunnDeploymentBrakeAuthority
  runtimeId := "yggdrasil"
  status := "released"
  scope := "deployment"
  reason := "operator authorized one attempt"
  observedAtUnixMillis := 100
  expiresAtUnixMillis := some 1000
  authorizationId := some "auth/r4"
  authorizationPurpose := some idunnDeploymentReleasePurpose
  authorizedReleaseId := some "release-4"
  authorizedDeploymentId := some "deployment-4"
  authorizedBy := some "operator/metacrat"
  authorizationIssuedAtUnixMillis := some 100
  authorizationExpiresAtUnixMillis := some 900
  signatureAlgorithm := some "ed25519"
  signature := some (List.replicate 64 7)
  privateStateExposed := false
  updatedBy := "operator/metacrat"

/-- Halfway through its lifetime the released record opens the gate, if its signer is the anchor's
identity and the signature verifies. -/
example :
    let cryptography : Cryptography := ⟨fun bytes => bytes.take 32, Unit, fun _ => .ok (),
      fun _ _ _ => true⟩
    let identity := hex (idunnDeploymentBrakeOperatorIdentity.idDomain.take 32)
    evaluateIdunnDeploymentBrake cryptography (fun _ => .ok [])
      (.present { IdunnDeploymentBrakeRecord.released with authorizedBy := some identity })
      ⟨idunnDeploymentBrakeOperatorIdentity.trustAnchorSchema, identity, List.replicate 32 0⟩
      "yggdrasil" "release-4" "deployment-4" 500 = .ok (.ok ()) := by
  decide +kernel

end CultNet
