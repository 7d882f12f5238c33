/-
Enrolling a service identity, from `src/service_identity.rs`.

Calls of `enroll_service_identity_at` run side by side on one path.  A call is the
sequence of what it asks of the operating system, and between two questions it only
computes; `Phase` is where it stands, with the local variables it still needs, and
`act` is one question with the answer it got.  Any answer may be a failure.

The file system is a map from paths to files, and `create_new` creates a file only
where there is none.  A file remembers which call created it, if any did: the handle
a call writes through is one to the file it created, whatever the path leads to.

The encoders, the time format and the elliptic curve are other crates', and the
protector is the operating system's, so they are parameters here.
-/
import CultNet.Lib.Interleaving
import CultNet.Replication
import CultNet.Security
import CultNet.ServiceIdentity

namespace CultNet

/-! ### Profiles and entries -/

/-- What enrolling and opening use of the trait `ServiceIdentityProfile`. -/
structure ServiceIdentityStoreProfile extends ServiceIdentityProfile where
  privateType : String
  privateSchema : String
  privateKey : String
  protectorContext : String

namespace ServiceIdentityStoreProfile

/-- `IdunnDeploymentBrakeOperatorIdentity`. -/
def idunnDeploymentBrakeOperatorIdentity : ServiceIdentityStoreProfile where
  toServiceIdentityProfile := CultNet.idunnDeploymentBrakeOperatorIdentity
  privateType := "idunn.deployment_brake_operator.private.v1"
  privateSchema := "idunn.deployment_brake_operator.private.v1"
  privateKey := "idunn-deployment-brake-operator"
  protectorContext := "idunn-deployment-brake-operator-v1"

/-- `GameCultProviderHealthIdentity`. -/
def gameCultProviderHealthIdentity : ServiceIdentityStoreProfile where
  toServiceIdentityProfile := CultNet.gameCultProviderHealthIdentity
  privateType := "gamecult.provider_health_identity.private.v1"
  privateSchema := "gamecult.provider_health_identity.private.v1"
  privateKey := "gamecult-provider-health-identity"
  protectorContext := "gamecult-provider-health-identity-v1"

/-- `IdunnServiceIdentity`. -/
def idunnServiceIdentity : ServiceIdentityStoreProfile where
  toServiceIdentityProfile := CultNet.idunnServiceIdentity
  privateType := "idunn.service_identity.private.v1"
  privateSchema := "idunn.service_identity.private.v1"
  privateKey := "idunn-service-identity"
  protectorContext := "idunn-service-identity-v1"

end ServiceIdentityStoreProfile

/-- `ServiceIdentityPrivateEntry`. -/
structure ServiceIdentityPrivateEntry where
  schemaVersion : String
  identityId : String
  publicKey : List UInt8
  protectedPrivateSeed : List UInt8
  protectorKind : String
  protectorBinding : String
  protectorVersion : String
  assurance : String
  createdAt : String
  enrollmentNonce : List UInt8
  deriving DecidableEq

/-- `ServiceIdentitySigner`; the signing key is its seed. -/
structure ServiceIdentitySigner where
  entry : ServiceIdentityPrivateEntry
  signingKey : Vector UInt8 32
  deriving DecidableEq

/-- What the crate calls of other crates to keep an identity. -/
structure EnrollmentLibraries where
  cryptography : Cryptography
  /-- `SigningKey::from_bytes(seed).verifying_key().to_bytes()`. -/
  verifyingKey : Vector UInt8 32 → Vector UInt8 32
  /-- Whether `DateTime::parse_from_rfc3339` reads a text. -/
  isRfc3339 : String → Bool
  /-- `rmp_serde::to_vec` of an entry. -/
  encodeEntry : ServiceIdentityPrivateEntry → Except String (List UInt8)
  /-- `rmp_serde::from_slice` to an entry. -/
  decodeEntry : List UInt8 → Except String ServiceIdentityPrivateEntry
  /-- `rmp_serde::to_vec` of some envelopes. -/
  encodeStore : List CultCacheEnvelope → Except String (List UInt8)
  /-- `SingleFileMessagePackBackingStore::pull_all`, on what is at its path. -/
  pullAll : Option (List UInt8) → Except String (List CultCacheEnvelope)

/-! ### Platforms -/

/-- What depends on the operating system the crate is built for. -/
structure IdentityPlatform where
  /-- `cfg(unix)`. -/
  unix : Bool
  /-- `platform_protector_kind`. -/
  protectorKind : String
  /-- `platform_assurance`. -/
  assurance : String
  /-- What the functions below ask of the machine. -/
  Machine : Type
  /-- `platform_binding`. -/
  binding : ServiceIdentityStoreProfile → Machine → Except String String
  /-- `protect_seed`. -/
  protectSeed : ServiceIdentityStoreProfile → Machine → List UInt8 → String →
    Except String (List UInt8)
  /-- `unprotect_seed`. -/
  unprotectSeed : ServiceIdentityStoreProfile → Machine → List UInt8 → String →
    Except String (List UInt8)

/-- What is hashed with a domain: the context of the profile and the binding. -/
def protectorText (domain : String) (profile : ServiceIdentityStoreProfile) (binding : String) :
    List UInt8 :=
  asciiBytes domain ++ asBytes profile.protectorContext ++ asBytes binding

/-- What reading `/etc/machine-id` and `/var/lib/dbus/machine-id` gives. -/
structure LinuxMachine where
  machineId : Except String String
  dbusMachineId : Except String String

/-- `platform_binding` on Linux. -/
def linuxBinding (cryptography : Cryptography) (profile : ServiceIdentityStoreProfile)
    (machine : LinuxMachine) : Except String String :=
  match machine.machineId, machine.dbusMachineId with
  | .error _, .error _ => .error "Linux machine-id is unavailable"
  | .ok raw, _ | .error _, .ok raw =>
    let id := trim raw
    if id = "" then .error "Linux machine-id is empty"
    else .ok (profile.protectorContext ++ ":machine-id-sha256:"
      ++ hex (cryptography.sha256 (asBytes id)))

/-- `xor_linux`. -/
def xorLinux (cryptography : Cryptography) (profile : ServiceIdentityStoreProfile)
    (seed : List UInt8) (binding : String) : List UInt8 :=
  let mask :=
    cryptography.sha256 (protectorText "gamecult-linux-service-seed-v1\x00" profile binding)
  List.zipWith (· ^^^ ·) seed mask

/-- The platform of `cfg(target_os = "linux")`. -/
def IdentityPlatform.linux (cryptography : Cryptography) : IdentityPlatform where
  unix := true
  protectorKind := "linux_file_mode_machine_id_binding"
  assurance := "os_installation_file_bound_cloneable_baseline"
  Machine := LinuxMachine
  binding := linuxBinding cryptography
  protectSeed profile _ seed binding := .ok (xorLinux cryptography profile seed binding)
  unprotectSeed profile _ seed binding :=
    if seed.length ≠ 32 then .error "protected Linux service seed has invalid length"
    else .ok (xorLinux cryptography profile seed binding)

/-- What `CryptProtectData` and `CryptUnprotectData` make of some data and an entropy. -/
structure WindowsMachine where
  cryptProtectData : List UInt8 → List UInt8 → Option (List UInt8)
  cryptUnprotectData : List UInt8 → List UInt8 → Option (List UInt8)

/-- `dpapi`. -/
def dpapi (cryptography : Cryptography) (profile : ServiceIdentityStoreProfile)
    (operation : List UInt8 → List UInt8 → Option (List UInt8)) (input : List UInt8)
    (binding : String) : Except String (List UInt8) :=
  let entropy :=
    cryptography.sha256 (protectorText "gamecult-service-identity-dpapi-v1\x00" profile binding)
  match operation input entropy with
  | none => .error "DPAPI service identity operation failed"
  | some bytes => .ok bytes

/-- The platform of `cfg(windows)`. -/
def IdentityPlatform.windows (cryptography : Cryptography) : IdentityPlatform where
  unix := false
  protectorKind := "windows_dpapi_current_user"
  assurance := "os_user_installation_bound_best_effort"
  Machine := WindowsMachine
  binding profile _ := .ok ("dpapi-current-user:" ++ profile.protectorContext)
  protectSeed profile machine := dpapi cryptography profile machine.cryptProtectData
  unprotectSeed profile machine := dpapi cryptography profile machine.cryptUnprotectData

/-! ### What a call computes -/

variable (platform : IdentityPlatform) (libraries : EnrollmentLibraries)

/-- `validate_private`. -/
def validatePrivate (profile : ServiceIdentityStoreProfile) (entry : ServiceIdentityPrivateEntry) :
    Except String Unit :=
  if entry.schemaVersion ≠ profile.privateSchema ∨ entry.publicKey.length ≠ 32 ∨
      entry.enrollmentNonce.length ≠ 32 ∨ entry.protectedPrivateSeed = [] ∨
      entry.protectorVersion ≠ "v1" then
    .error "service identity private entry violates its profile schema"
  else if libraries.isRfc3339 entry.createdAt = false then
    .error "service identity created_at is not RFC3339"
  else do
    let identityId ← deriveServiceIdentityId libraries.cryptography
      profile.toServiceIdentityProfile entry.publicKey
    if identityId ≠ entry.identityId then .error "service identity id does not match public key"
    else .ok ()

/-- `private_envelope`. -/
def privateEnvelope (profile : ServiceIdentityStoreProfile) (entry : ServiceIdentityPrivateEntry) :
    Except String CultCacheEnvelope := do
  let payload ← libraries.encodeEntry entry
  .ok {
    key := profile.privateKey
    type := profile.privateType
    payload
    storedAt := entry.createdAt
    schemaId := some profile.privateSchema }

/-- What a call gets to make an identity from: two random fills, the machine and the time. -/
structure Material where
  seed : Vector UInt8 32
  nonce : Vector UInt8 32
  machine : platform.Machine
  now : String

/-- The entry that `enroll_service_identity_at` makes. -/
def makeEntry (profile : ServiceIdentityStoreProfile) (material : Material platform) :
    Except String ServiceIdentityPrivateEntry := do
  let publicKey := (libraries.verifyingKey material.seed).toList
  let binding ← platform.binding profile material.machine
  let identityId ← deriveServiceIdentityId libraries.cryptography
    profile.toServiceIdentityProfile publicKey
  let protectedPrivateSeed ←
    platform.protectSeed profile material.machine material.seed.toList binding
  .ok {
    schemaVersion := profile.privateSchema
    identityId
    publicKey
    protectedPrivateSeed
    protectorKind := platform.protectorKind
    protectorBinding := binding
    protectorVersion := "v1"
    assurance := platform.assurance
    createdAt := material.now
    enrollmentNonce := material.nonce.toList }

/-- An entry, and the bytes of the store that holds it. -/
structure SealedIdentity where
  entry : ServiceIdentityPrivateEntry
  bytes : List UInt8
  deriving DecidableEq

/-- From the making of the entry to the first bytes of `atomic_create_private_store`. -/
def sealIdentity (profile : ServiceIdentityStoreProfile) (material : Material platform) :
    Except String SealedIdentity := do
  let entry ← makeEntry platform libraries profile material
  validatePrivate libraries profile entry
  let envelope ← privateEnvelope libraries profile entry
  match libraries.encodeStore [envelope] with
  | .error _ => .error "failed to encode immutable service identity store"
  | .ok bytes => .ok { entry, bytes }

/-- The end of `open_service_identity_at`: the entry is read, checked and unprotected. -/
def unsealEntry (profile : ServiceIdentityStoreProfile) (machine : platform.Machine)
    (entry : ServiceIdentityPrivateEntry) : Except String ServiceIdentitySigner := do
  validatePrivate libraries profile entry
  if entry.protectorKind ≠ platform.protectorKind ∨ entry.assurance ≠ platform.assurance then
    .error "service identity protector does not belong to this platform implementation"
  else
    let binding ← platform.binding profile machine
    if entry.protectorBinding ≠ binding then
      .error "service identity protector binding does not match this OS installation or profile"
    else
      let seed ← platform.unprotectSeed profile machine entry.protectedPrivateSeed binding
      if hseed : seed.length = 32 then
        let signingKey : Vector UInt8 32 := ⟨seed.toArray, hseed⟩
        if (libraries.verifyingKey signingKey).toList ≠ entry.publicKey then
          .error "service identity private seed does not match enrolled public key"
        else .ok { entry, signingKey }
      else .error "unprotected service identity seed has invalid length"

/-- What `open_service_identity_at` makes of the envelopes it pulled. -/
def openEnvelopes (profile : ServiceIdentityStoreProfile) (machine : platform.Machine) :
    List CultCacheEnvelope → Except String ServiceIdentitySigner
  | [envelope] =>
    if envelope.type ≠ profile.privateType ∨ envelope.key ≠ profile.privateKey ∨
        envelope.schemaId ≠ some profile.privateSchema then
      .error "service identity store belongs to a different profile or schema"
    else
      match libraries.decodeEntry envelope.payload with
      | .error _ => .error "service identity private payload is malformed MessagePack"
      | .ok entry => unsealEntry platform libraries profile machine entry
  | _ => .error "service identity store must contain exactly one immutable envelope"

/-! ### Files -/

/-- A file: the call that created it, if one did, and whether its mode is `0600`. -/
structure StoreFile where
  creator : Option Nat
  content : List UInt8
  hardened : Bool := false
  deriving DecidableEq

abbrev FileSystem := String → Option StoreFile

/-- A path: its name, and what `Path::parent` says of it. -/
structure StorePath where
  name : String
  parent : Option String

namespace FileSystem

/-- A file at a path. -/
def put (files : FileSystem) (name : String) (file : StoreFile) : FileSystem :=
  Function.update files name (some file)

/-- `std::fs::remove_file`. -/
def remove (files : FileSystem) (name : String) : FileSystem :=
  Function.update files name none

/-- Write through the handle that a call has to the file it created. -/
def append (files : FileSystem) (name : String) (call : Nat) (data : List UInt8) : FileSystem :=
  match files name with
  | none => files
  | some file =>
    if file.creator = some call then files.put name { file with content := file.content ++ data }
    else files

end FileSystem

/-! ### Calls -/

/-- Where a call of `enroll_service_identity_at` stands: what it asks next, or what it returned. -/
inductive EnrollPhase where
  /-- `path.exists()`. -/
  | checkAbsent
  /-- `create_dir_all` in `prepare_parent`. -/
  | createParent
  /-- `set_permissions` in `prepare_parent`. -/
  | hardenParent
  /-- The random bytes, the machine and the time. -/
  | sealing
  /-- `OpenOptions::open` with `create_new` in `atomic_create_private_store`. -/
  | create (identity : SealedIdentity)
  /-- The loop of `write_all`, with what it still has to write. -/
  | write (identity : SealedIdentity) (rest : List UInt8)
  /-- `sync_all`. -/
  | sync (identity : SealedIdentity)
  /-- `remove_file` after `write_all` or `sync_all` failed. -/
  | remove
  /-- `harden_store_permissions`. -/
  | harden (identity : SealedIdentity)
  /-- `path.is_file()` in `open_service_identity_at`. -/
  | isFile (identity : SealedIdentity)
  /-- `pull_all`. -/
  | pull (identity : SealedIdentity)
  /-- What `platform_binding` and `unprotect_seed` ask of the machine. -/
  | opening (identity : SealedIdentity) (envelopes : List CultCacheEnvelope)
  | returned (result : Except String ServiceIdentitySigner)
  deriving DecidableEq

/-- What a call is told. -/
inductive EnrollAnswer where
  | done
  | failed (error : String)
  /-- `write` wrote so many bytes. -/
  | wrote (count : Nat)
  | material (material : Material platform)
  | machine (machine : platform.Machine)

namespace EnrollPhase

/-- After the path was found free: `path.parent()` in `prepare_parent`. -/
def prepareParent (path : StorePath) : EnrollPhase :=
  match path.parent with
  | none => .returned (.error "service identity path has no parent")
  | some _ => .createParent

/-- The loop of `write_all` goes on while there is something to write. -/
def writeAll (identity : SealedIdentity) (rest : List UInt8) : EnrollPhase :=
  if rest = [] then .sync identity else .write identity rest

/-- After `atomic_create_private_store`; off Unix hardening does nothing. -/
def hardenStore (identity : SealedIdentity) : EnrollPhase :=
  if platform.unix then .harden identity else .isFile identity

end EnrollPhase

/-- The error of a store that is there before the call creates its own. -/
def alreadyExists (path : StorePath) : String :=
  "service identity store " ++ path.name ++ " already exists; enrollment is immutable"

/-- The error of `create_new`. -/
def cannotCreate (path : StorePath) : String :=
  "service identity store " ++ path.name ++
    " already exists or cannot be created; enrollment is immutable"

/-- The error of `write_all` and `sync_all`. -/
def cannotPersist : String := "failed to persist immutable service identity store"

/-- One question of a call, with its answer: what the files and the call become.  A call that
has returned asks nothing, and an answer to another question is none. -/
def enrollAct (path : StorePath) (profiles : Nat → ServiceIdentityStoreProfile) (call : Nat)
    (files : FileSystem) (phase : EnrollPhase) (answer : EnrollAnswer platform) :
    Option (FileSystem × EnrollPhase) :=
  match phase, answer with
  | .checkAbsent, .done =>
    if (files path.name).isSome then some (files, .returned (.error (alreadyExists path)))
    else some (files, .prepareParent path)
  -- `exists` is false where it cannot tell
  | .checkAbsent, .failed _ => some (files, .prepareParent path)
  | .createParent, .done => some (files, if platform.unix then .hardenParent else .sealing)
  | .createParent, .failed error => some (files, .returned (.error error))
  | .hardenParent, .done => some (files, .sealing)
  | .hardenParent, .failed error => some (files, .returned (.error error))
  | .sealing, .material material =>
    match sealIdentity platform libraries (profiles call) material with
    | .error error => some (files, .returned (.error error))
    | .ok identity => some (files, .create identity)
  | .create identity, .done =>
    if (files path.name).isSome then some (files, .returned (.error (cannotCreate path)))
    else some (files.put path.name { creator := some call, content := [] },
      .writeAll identity identity.bytes)
  | .create _, .failed _ => some (files, .returned (.error (cannotCreate path)))
  | .write identity rest, .wrote count =>
    if rest.length < count then none
    -- a `write` that writes nothing is an error of `write_all`
    else if count = 0 then some (files, .remove)
    else some (files.append path.name call (rest.take count),
      .writeAll identity (rest.drop count))
  | .write _ _, .failed _ => some (files, .remove)
  | .sync identity, .done => some (files, .hardenStore platform identity)
  | .sync _, .failed _ => some (files, .remove)
  -- the result of `remove_file` is dropped
  | .remove, .done => some (files.remove path.name, .returned (.error cannotPersist))
  | .remove, .failed _ => some (files, .returned (.error cannotPersist))
  | .harden identity, .done =>
    match files path.name with
    | none => some (files, .returned (.error "No such file or directory (os error 2)"))
    | some file => some (files.put path.name { file with hardened := true }, .isFile identity)
  | .harden _, .failed error => some (files, .returned (.error error))
  | .isFile identity, .done =>
    if (files path.name).isSome then some (files, .pull identity)
    else some (files, .returned (.error
      ("service identity store " ++ path.name ++ " does not exist")))
  -- nor is there a file where `is_file` cannot tell
  | .isFile _, .failed _ => some (files, .returned (.error
      ("service identity store " ++ path.name ++ " does not exist")))
  | .pull identity, .done =>
    match libraries.pullAll ((files path.name).map StoreFile.content) with
    | .error error => some (files, .returned (.error error))
    | .ok envelopes => some (files, .opening identity envelopes)
  | .pull _, .failed error => some (files, .returned (.error error))
  | .opening _ envelopes, .machine machine =>
    some (files, .returned (openEnvelopes platform libraries (profiles call) machine envelopes))
  | _, _ => none

/-- The files, and where every call stands. -/
abbrev EnrollState := Interleaving.State Nat FileSystem EnrollPhase

/-- Any number of calls on one path, in any order: one of them gets an answer. -/
def enrollStep (path : StorePath) (profiles : Nat → ServiceIdentityStoreProfile) :
    EnrollState → Nat × EnrollAnswer platform → Option (Unit × EnrollState) :=
  Interleaving.step (enrollAct platform libraries path profiles)

/-- Before any call: files that none of them created. -/
def enrollInitial (contents : String → Option (List UInt8)) : EnrollState where
  shared name := (contents name).map fun content => { creator := none, content }
  locals _ := .checkAbsent

end CultNet
