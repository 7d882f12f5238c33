/-
What a signature is over.

The message that is signed is the profile's domain, the purpose and the payload,
one behind the other.  A domain ends at its only NUL and the other two follow
their lengths, so the message can be taken apart again: it names its domain, its
purpose and its payload, whatever bytes these hold.
-/
import CultNet.Lib.SelfDelimiting
import CultNet.ServiceIdentity

namespace CultNet

/-- The signature domain is a name without NUL bytes, and a NUL. -/
def ServiceIdentityProfile.DomainTerminated (profile : ServiceIdentityProfile) : Prop :=
  ∃ name : List UInt8, 0 ∉ name ∧ profile.signatureDomain = name ++ [0]

/-- The profiles of the crate. -/
def serviceIdentityProfiles : List ServiceIdentityProfile :=
  [idunnDeploymentBrakeOperatorIdentity, gameCultProviderHealthIdentity, idunnServiceIdentity]

theorem domainTerminated_of_mem :
    ∀ profile ∈ serviceIdentityProfiles, profile.DomainTerminated := by
  simp only [serviceIdentityProfiles, List.forall_mem_cons, List.not_mem_nil, false_imp_iff,
    implies_true, and_true]
  refine ⟨⟨asciiBytes "idunn.deployment-brake-operator.signature.v1", ?_, ?_⟩,
    ⟨asciiBytes "gamecult.provider-health.signature.v1", ?_, ?_⟩,
    ⟨asciiBytes "idunn.service-identity.signature.v1", ?_, ?_⟩⟩
  all_goals decide +kernel

/-- **Signed statements are domain separated.**  Two messages are the same bytes only where
the domains, the purposes and the payloads are. -/
theorem signingMessage_eq_iff {profile profile' : ServiceIdentityProfile}
    {purpose purpose' payload payload' : List UInt8} (hdomain : profile.DomainTerminated)
    (hdomain' : profile'.DomainTerminated) (hpurpose : purpose.length < 2 ^ 64)
    (hpurpose' : purpose'.length < 2 ^ 64) (hpayload : payload.length < 2 ^ 64)
    (hpayload' : payload'.length < 2 ^ 64) :
    signingMessage profile purpose payload = signingMessage profile' purpose' payload' ↔
      profile.signatureDomain = profile'.signatureDomain ∧ purpose = purpose' ∧
        payload = payload' := by
  constructor
  · intro h
    obtain ⟨name, hname, hsplit⟩ := hdomain
    obtain ⟨name', hname', hsplit'⟩ := hdomain'
    have hfield := SelfDelimiting.lengthPrefixed 8
    rw [signingMessage, signingMessage, hsplit, hsplit'] at h
    simp only [List.append_assoc] at h
    -- the parts come off the front, one after another
    obtain ⟨rfl, hfields⟩ := SelfDelimiting.terminated 0 name name' hname hname' _ _
      (by simpa only [List.append_assoc] using h)
    obtain ⟨rfl, hlast⟩ := hfield purpose purpose' hpurpose hpurpose' _ _
      (by simpa only [List.append_assoc] using hfields)
    obtain ⟨rfl, -⟩ := hfield payload payload' hpayload hpayload' [] []
      (by simpa only [List.append_nil] using hlast)
    exact ⟨hsplit.trans hsplit'.symm, rfl, rfl⟩
  · rintro ⟨hdomains, rfl, rfl⟩
    rw [signingMessage, signingMessage, hdomains]

/-- Two profiles of the crate, over one payload. -/
theorem signingMessage_eq_iff_profiles :
    signingMessage idunnServiceIdentity idunnAuthenticatedProviderHealthProjectionPurpose
        (asciiBytes "healthy") =
      signingMessage gameCultProviderHealthIdentity idunnSignedDaemonHealthPurpose
        (asciiBytes "healthy") ↔
      idunnServiceIdentity.signatureDomain = gameCultProviderHealthIdentity.signatureDomain ∧
        idunnAuthenticatedProviderHealthProjectionPurpose = idunnSignedDaemonHealthPurpose ∧
          asciiBytes "healthy" = asciiBytes "healthy" :=
  signingMessage_eq_iff (domainTerminated_of_mem _ (by simp [serviceIdentityProfiles]))
    (domainTerminated_of_mem _ (by simp [serviceIdentityProfiles])) (by decide) (by decide)
    (by decide) (by decide)

end CultNet
