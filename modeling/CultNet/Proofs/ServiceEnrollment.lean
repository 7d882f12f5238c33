/-
What enrollments side by side leave behind.

A call changes no file but its own.  It creates one only where there is none, and what
it does to the path afterwards it does while its own file is there.  So what a call
knows of its own file (`Facts`) no other call disturbs, and it holds in every
interleaving.  Two calls that returned an identity would each have their file at the
path, which is one file.

What a failed call leaves behind is decided at the step that fails it.  Up to the
creation there is nothing to leave, and a failed write or sync removes the file.  The
steps behind those return with the file in place (`Spared` lists them), and nobody
removes it later.
-/
import CultNet.ServiceEnrollment
import CultNet.Lib.Fallible
import CultNet.Lib.Sha256

namespace CultNet

open Fallible (bind_eq_ok check_bind_eq_ok ok_bind guard_eq_ok)

/-- What the crate relies on: what was encoded is read back. -/
structure EnrollmentLibraries.Lawful (libraries : EnrollmentLibraries) : Prop where
  decode_encode : ∀ {entry : ServiceIdentityPrivateEntry} {bytes : List UInt8},
    libraries.encodeEntry entry = .ok bytes → libraries.decodeEntry bytes = .ok entry
  /-- A list of one envelope is a store that CultCache reads. -/
  pull_encode : ∀ {envelope : CultCacheEnvelope} {bytes : List UInt8},
    libraries.encodeStore [envelope] = .ok bytes → libraries.pullAll (some bytes) = .ok [envelope]

variable {platform : IdentityPlatform} {libraries : EnrollmentLibraries}
  {profile : ServiceIdentityStoreProfile}

/-! ### Sealing and opening -/

/-- An identity as some call may have sealed it. -/
def IsSealed (platform : IdentityPlatform) (libraries : EnrollmentLibraries)
    (profile : ServiceIdentityStoreProfile) (identity : SealedIdentity) : Prop :=
  ∃ material, sealIdentity platform libraries profile material = .ok identity

/-- The machine still binds as the entry says, and unprotects the seed of its public key. -/
def Unsealable (platform : IdentityPlatform) (libraries : EnrollmentLibraries)
    (profile : ServiceIdentityStoreProfile) (entry : ServiceIdentityPrivateEntry)
    (machine : platform.Machine) : Prop :=
  platform.binding profile machine = .ok entry.protectorBinding ∧
    ∃ seed : Vector UInt8 32, platform.unprotectSeed profile machine entry.protectedPrivateSeed
        entry.protectorBinding = .ok seed.toList ∧
      (libraries.verifyingKey seed).toList = entry.publicKey

/-- The entry that is made from some material. -/
theorem makeEntry_ok {material : Material platform} {entry : ServiceIdentityPrivateEntry}
    (h : makeEntry platform libraries profile material = .ok entry) :
    platform.binding profile material.machine = .ok entry.protectorBinding ∧
      platform.protectSeed profile material.machine material.seed.toList entry.protectorBinding
        = .ok entry.protectedPrivateSeed ∧
      entry.publicKey = (libraries.verifyingKey material.seed).toList ∧
      entry.protectorKind = platform.protectorKind ∧ entry.assurance = platform.assurance := by
  obtain ⟨binding, hbinding, h⟩ := bind_eq_ok.mp h
  obtain ⟨identityId, -, h⟩ := bind_eq_ok.mp h
  obtain ⟨protectedSeed, hprotected, h⟩ := bind_eq_ok.mp h
  simp only [Except.ok.injEq] at h
  subst h
  exact ⟨hbinding, hprotected, rfl, rfl, rfl⟩

theorem sealIdentity_eq_ok {material : Material platform} {identity : SealedIdentity} :
    sealIdentity platform libraries profile material = .ok identity ↔
      makeEntry platform libraries profile material = .ok identity.entry ∧
      validatePrivate libraries profile identity.entry = .ok () ∧
      ∃ envelope, privateEnvelope libraries profile identity.entry = .ok envelope ∧
        libraries.encodeStore [envelope] = .ok identity.bytes := by
  constructor
  · intro h
    obtain ⟨entry, hentry, h⟩ := bind_eq_ok.mp h
    obtain ⟨hvalid, h⟩ := check_bind_eq_ok.mp h
    obtain ⟨envelope, henvelope, h⟩ := bind_eq_ok.mp h
    cases hbytes : libraries.encodeStore [envelope] with
    | error e => simp [hbytes] at h
    | ok bytes =>
        simp only [hbytes, Except.ok.injEq] at h
        subst h
        exact ⟨hentry, hvalid, envelope, henvelope, hbytes⟩
  · rintro ⟨hentry, hvalid, envelope, henvelope, hbytes⟩
    simp only [sealIdentity, hentry, hvalid, henvelope, hbytes, ok_bind]

/-- An entry that is valid and of this platform opens exactly where it can be unsealed. -/
theorem unsealEntry_ok_iff {entry : ServiceIdentityPrivateEntry} {machine : platform.Machine}
    (hvalid : validatePrivate libraries profile entry = .ok ())
    (hkind : entry.protectorKind = platform.protectorKind)
    (hassurance : entry.assurance = platform.assurance) :
    (∃ signer, unsealEntry platform libraries profile machine entry = .ok signer) ↔
      Unsealable platform libraries profile entry machine := by
  unfold unsealEntry
  rw [hvalid, ok_bind, if_neg (by simp [hkind, hassurance])]
  constructor
  · rintro ⟨signer, h⟩
    obtain ⟨binding, hbinding, h⟩ := bind_eq_ok.mp h
    obtain ⟨hsame, h⟩ := guard_eq_ok.mp h
    obtain rfl := not_not.mp hsame
    obtain ⟨seed, hseed, h⟩ := bind_eq_ok.mp h
    by_cases hlength : seed.length = 32
    · rw [dif_pos hlength] at h
      exact ⟨hbinding, ⟨seed.toArray, hlength⟩, hseed, not_not.mp (guard_eq_ok.mp h).1⟩
    · simp [hlength] at h
  · rintro ⟨hbinding, seed, hseed, hkey⟩
    have hlength : seed.toList.length = 32 := Vector.length_toList
    refine ⟨{ entry, signingKey := ⟨seed.toList.toArray, hlength⟩ }, ?_⟩
    rw [hbinding, ok_bind, if_neg (by simp), hseed, ok_bind, dif_pos hlength]
    exact guard_eq_ok.mpr ⟨not_not.mpr hkey, rfl⟩

/-- What opens is the entry. -/
theorem entry_of_unsealEntry {entry : ServiceIdentityPrivateEntry} {machine : platform.Machine}
    {signer : ServiceIdentitySigner}
    (h : unsealEntry platform libraries profile machine entry = .ok signer) :
    signer.entry = entry := by
  obtain ⟨-, h⟩ := check_bind_eq_ok.mp h
  obtain ⟨-, h⟩ := guard_eq_ok.mp h
  obtain ⟨binding, -, h⟩ := bind_eq_ok.mp h
  obtain ⟨-, h⟩ := guard_eq_ok.mp h
  obtain ⟨seed, -, h⟩ := bind_eq_ok.mp h
  by_cases hlength : seed.length = 32
  · rw [dif_pos hlength] at h
    obtain ⟨-, h⟩ := guard_eq_ok.mp h
    simp only [Except.ok.injEq] at h
    rw [← h]
  · simp [hlength] at h

/-- **A store written by sealing is opened as its entry**: what opening asks of a store before
that, it answers. -/
theorem openEnvelopes_sealed (hlib : libraries.Lawful) {identity : SealedIdentity}
    (hsealed : IsSealed platform libraries profile identity) {envelopes : List CultCacheEnvelope}
    (hpull : libraries.pullAll (some identity.bytes) = .ok envelopes)
    (machine : platform.Machine) :
    openEnvelopes platform libraries profile machine envelopes
      = unsealEntry platform libraries profile machine identity.entry := by
  obtain ⟨material, hseal⟩ := hsealed
  obtain ⟨-, -, envelope, henvelope, hbytes⟩ := sealIdentity_eq_ok.mp hseal
  rw [hlib.pull_encode hbytes] at hpull
  obtain ⟨payload, hpayload, henvelope⟩ := bind_eq_ok.mp henvelope
  simp only [Except.ok.injEq] at hpull henvelope
  subst hpull henvelope
  unfold openEnvelopes
  simp only [ne_eq, not_true_eq_false, or_self, if_false, hlib.decode_encode hpayload]

/-- **A sealed entry opens exactly where it can be unsealed.** -/
theorem unsealEntry_sealed_ok_iff {identity : SealedIdentity}
    (hsealed : IsSealed platform libraries profile identity) {machine : platform.Machine} :
    (∃ signer, unsealEntry platform libraries profile machine identity.entry = .ok signer) ↔
      Unsealable platform libraries profile identity.entry machine := by
  obtain ⟨material, hseal⟩ := hsealed
  obtain ⟨hentry, hvalid, -⟩ := sealIdentity_eq_ok.mp hseal
  obtain ⟨-, -, -, hkind, hassurance⟩ := makeEntry_ok hentry
  exact unsealEntry_ok_iff hvalid hkind hassurance

theorem exists_pullAll (hlib : libraries.Lawful) {identity : SealedIdentity}
    (hsealed : IsSealed platform libraries profile identity) :
    ∃ envelopes, libraries.pullAll (some identity.bytes) = .ok envelopes := by
  obtain ⟨material, hseal⟩ := hsealed
  obtain ⟨-, -, envelope, -, hbytes⟩ := sealIdentity_eq_ok.mp hseal
  exact ⟨[envelope], hlib.pull_encode hbytes⟩

/-- A mask takes itself off. -/
theorem zipWith_xor_xor : ∀ seed mask : List UInt8, seed.length ≤ mask.length →
    List.zipWith (· ^^^ ·) (List.zipWith (· ^^^ ·) seed mask) mask = seed := by
  intro seed
  induction seed with
  | nil => simp
  | cons b seed ih =>
      intro mask hlength
      cases mask with
      | nil => simp at hlength
      | cons m mask =>
          have hrest := ih mask (by simpa using hlength)
          rw [List.zipWith_cons_cons, List.zipWith_cons_cons, hrest, UInt8.xor_assoc, UInt8.xor_self,
            UInt8.xor_zero]

theorem xorLinux_xorLinux {cryptography : Cryptography}
    (hsha : ∀ message, (cryptography.sha256 message).length = 32) {seed : List UInt8}
    (hseed : seed.length = 32) (binding : String) :
    xorLinux cryptography profile (xorLinux cryptography profile seed binding) binding = seed :=
  zipWith_xor_xor _ _ (by rw [hseed, hsha])

/-- On Linux an identity can be unsealed where the machine id is still what it was. -/
theorem unsealable_linux_iff {cryptography : Cryptography}
    (hsha : ∀ message, (cryptography.sha256 message).length = 32) {identity : SealedIdentity}
    (hsealed : IsSealed (.linux cryptography) libraries profile identity)
    {machine : LinuxMachine} :
    Unsealable (.linux cryptography) libraries profile identity.entry machine ↔
      linuxBinding cryptography profile machine = .ok identity.entry.protectorBinding := by
  obtain ⟨material, hseal⟩ := hsealed
  obtain ⟨hentry, -⟩ := sealIdentity_eq_ok.mp hseal
  obtain ⟨-, hprotected, hkey, -⟩ := makeEntry_ok hentry
  have hmasked : xorLinux cryptography profile material.seed.toList identity.entry.protectorBinding
      = identity.entry.protectedPrivateSeed := Except.ok.inj hprotected
  refine ⟨fun h => h.1, fun hbinding => ⟨hbinding, material.seed, ?_, hkey.symm⟩⟩
  have hlength : identity.entry.protectedPrivateSeed.length = 32 := by
    simp [← hmasked, xorLinux, hsha]
  simp only [IdentityPlatform.linux, hlength, ne_eq, not_true_eq_false, if_false]
  rw [← hmasked, xorLinux_xorLinux hsha Vector.length_toList]

/-! ### Files of one's own -/

variable {path : StorePath} {call : Nat} {files files' : FileSystem}

/-- The file at the path, if the call created it. -/
def ownStore (path : StorePath) (call : Nat) (files : FileSystem) : Option StoreFile :=
  (files path.name).filter fun file => file.creator = some call

theorem ownStore_eq_some {file : StoreFile} : ownStore path call files = some file ↔
    files path.name = some file ∧ file.creator = some call := by
  simp [ownStore, Option.filter_eq_some_iff]

theorem ownStore_eq_none : ownStore path call files = none ↔
    ∀ file, files path.name = some file → file.creator ≠ some call := by
  simp [ownStore, Option.filter_eq_none_iff]

@[simp] theorem ownStore_put {file : StoreFile} (h : file.creator = some call) :
    ownStore path call (files.put path.name file) = some file := by
  simp [ownStore_eq_some, FileSystem.put, h]

@[simp] theorem ownStore_remove : ownStore path call (files.remove path.name) = none := by
  simp [ownStore_eq_none, FileSystem.remove]

/-- A call writes to its own file. -/
theorem append_of_ownStore {file : StoreFile} (h : ownStore path call files = some file)
    (data : List UInt8) : files.append path.name call data
      = files.put path.name { file with content := file.content ++ data } := by
  obtain ⟨hfile, hcreator⟩ := ownStore_eq_some.mp h
  simp [FileSystem.append, hfile, hcreator]

/-- The files of every other creator are as they were. -/
def Undisturbed (call : Nat) (files files' : FileSystem) : Prop :=
  ∀ name file, file.creator ≠ some call → (files' name = some file ↔ files name = some file)

namespace Undisturbed

theorem refl (call : Nat) (files : FileSystem) : Undisturbed call files files :=
  fun _ _ _ => Iff.rfl

/-- Where a path is free or leads to the call's own file, the call may put a file of its own. -/
theorem put {name : String} {file : StoreFile}
    (hbefore : ∀ old, files name = some old → old.creator = some call)
    (hfile : file.creator = some call) : Undisturbed call files (files.put name file) := by
  intro other old hold
  by_cases hname : other = name
  · subst hname
    rw [FileSystem.put, Function.update_self]
    refine iff_of_false ?_ fun h => hold (hbefore old h)
    rintro ⟨rfl⟩
    exact hold hfile
  · rw [FileSystem.put, Function.update_of_ne hname]

theorem remove {name : String}
    (hbefore : ∀ old, files name = some old → old.creator = some call) :
    Undisturbed call files (files.remove name) := by
  intro other old hold
  by_cases hname : other = name
  · subst hname
    rw [FileSystem.remove, Function.update_self]
    exact iff_of_false nofun fun h => hold (hbefore old h)
  · rw [FileSystem.remove, Function.update_of_ne hname]

/-- So nothing changes for another call. -/
theorem ownStore_eq (h : Undisturbed call files files') {other : Nat} (hne : other ≠ call) :
    ownStore path other files' = ownStore path other files := by
  ext file
  rw [ownStore_eq_some, ownStore_eq_some]
  refine and_congr_left fun hcreator => h path.name file ?_
  rw [hcreator]
  simpa using hne

end Undisturbed

/-- At the path of its own file a call finds no other. -/
theorem creator_of_ownStore {file : StoreFile} (h : ownStore path call files = some file) :
    ∀ old, files path.name = some old → old.creator = some call := by
  obtain ⟨hfile, hcreator⟩ := ownStore_eq_some.mp h
  intro old hold
  rw [hfile] at hold
  cases hold
  exact hcreator

/-! ### One step of one call -/

/-- The call's file holds the whole store. -/
def Written (own : Option StoreFile) (identity : SealedIdentity) : Prop :=
  ∃ file, own = some file ∧ file.content = identity.bytes

/-- And its mode is as the platform sets it. -/
def Stored (platform : IdentityPlatform) (own : Option StoreFile) (identity : SealedIdentity) :
    Prop :=
  ∃ file, own = some file ∧ file.content = identity.bytes ∧ (platform.unix → file.hardened)

/-- What a call knows of its own file and of what it keeps, in every phase. -/
def Facts (platform : IdentityPlatform) (libraries : EnrollmentLibraries)
    (profile : ServiceIdentityStoreProfile) (own : Option StoreFile) : EnrollPhase → Prop
  | .checkAbsent | .createParent | .hardenParent | .sealing => own = none
  | .create identity => IsSealed platform libraries profile identity ∧ own = none
  | .write identity rest => IsSealed platform libraries profile identity ∧
      ∃ file, own = some file ∧ file.content ++ rest = identity.bytes
  | .sync identity | .harden identity => IsSealed platform libraries profile identity ∧
      Written own identity
  | .isFile identity | .pull identity => IsSealed platform libraries profile identity ∧
      Stored platform own identity
  | .opening identity envelopes => IsSealed platform libraries profile identity ∧
      Stored platform own identity ∧
      libraries.pullAll (some identity.bytes) = .ok envelopes
  | .remove => ∃ file, own = some file
  | .returned (.ok signer) => ∃ identity, IsSealed platform libraries profile identity ∧
      Stored platform own identity ∧ signer.entry = identity.entry
  | .returned (.error _) => True

/-- The answers that do not make a call return an error with its file in place: removing and
hardening the file and finding and reading it again do not fail, and the machine still unseals
the entry. -/
def Spared (platform : IdentityPlatform) (libraries : EnrollmentLibraries)
    (profile : ServiceIdentityStoreProfile) : EnrollPhase → EnrollAnswer platform → Prop
  | .remove, .failed _ | .harden _, .failed _ | .isFile _, .failed _ | .pull _, .failed _ => False
  | .opening identity _, .machine machine =>
      Unsealable platform libraries profile identity.entry machine
  | _, _ => True

/-- A call that returned an error has no file at the path. -/
def LeavesNothing (own : Option StoreFile) (phase : EnrollPhase) : Prop :=
  ∀ error, phase = .returned (.error error) → own = none

/-- What a step keeps, and when it leaves nothing behind. -/
structure Keeps (platform : IdentityPlatform) (libraries : EnrollmentLibraries) (path : StorePath)
    (profile : ServiceIdentityStoreProfile) (call : Nat) (files : FileSystem) (phase : EnrollPhase)
    (answer : EnrollAnswer platform) (files' : FileSystem) (phase' : EnrollPhase) : Prop where
  undisturbed : Undisturbed call files files'
  facts : Facts platform libraries profile (ownStore path call files') phase'
  leavesNothing : LeavesNothing (ownStore path call files') phase' ↔
    Spared platform libraries profile phase answer

@[simp] theorem leavesNothing_none (phase : EnrollPhase) : LeavesNothing none phase :=
  fun _ _ => rfl

@[simp] theorem leavesNothing_some_error {file : StoreFile} {error : String} :
    ¬ LeavesNothing (some file) (.returned (.error error)) := by
  intro h
  simpa using h error rfl

@[simp] theorem leavesNothing_ok {own : Option StoreFile} {signer : ServiceIdentitySigner} :
    LeavesNothing own (.returned (.ok signer)) := by
  intro error h
  simp at h

/-- A call that has not returned has left nothing behind. -/
def EnrollPhase.running : EnrollPhase → Bool
  | .returned _ => false
  | _ => true

theorem leavesNothing_of_running {own : Option StoreFile} {phase : EnrollPhase}
    (h : phase.running) : LeavesNothing own phase := by
  rintro error rfl
  simp [EnrollPhase.running] at h

theorem running_writeAll (identity : SealedIdentity) (rest : List UInt8) :
    (EnrollPhase.writeAll identity rest).running := by
  unfold EnrollPhase.writeAll
  by_cases h : rest = [] <;> simp [h, EnrollPhase.running]

theorem running_hardenStore (identity : SealedIdentity) :
    (EnrollPhase.hardenStore platform identity).running := by
  unfold EnrollPhase.hardenStore
  by_cases h : platform.unix <;> simp [h, EnrollPhase.running]

theorem facts_prepareParent (path : StorePath) :
    Facts platform libraries profile none (.prepareParent path) := by
  unfold EnrollPhase.prepareParent
  cases path.parent with
  | none => simp [Facts]
  | some parent => simp [Facts]

theorem facts_writeAll {own : Option StoreFile} {identity : SealedIdentity} {rest : List UInt8}
    (h : Facts platform libraries profile own (.write identity rest)) :
    Facts platform libraries profile own (.writeAll identity rest) := by
  unfold EnrollPhase.writeAll
  by_cases hrest : rest = []
  · subst hrest
    simpa [Facts, Written] using h
  · simpa [hrest] using h

theorem facts_hardenStore {own : Option StoreFile} {identity : SealedIdentity}
    (h : Facts platform libraries profile own (.sync identity)) :
    Facts platform libraries profile own (.hardenStore platform identity) := by
  unfold EnrollPhase.hardenStore
  by_cases hunix : platform.unix
  · rw [if_pos hunix]
    exact h
  · rw [if_neg hunix]
    obtain ⟨hsealed, file, hown, hbytes⟩ := h
    exact ⟨hsealed, file, hown, hbytes, fun h => absurd h hunix⟩

namespace Keeps

variable {phase phase' : EnrollPhase} {answer : EnrollAnswer platform} {file : StoreFile}

/-- A step that does not touch the files, while the call has none. -/
theorem of_none (hown : ownStore path call files = none)
    (hfacts : Facts platform libraries profile none phase')
    (hspared : Spared platform libraries profile phase answer) :
    Keeps platform libraries path profile call files phase answer files phase' where
  undisturbed := Undisturbed.refl call files
  facts := by rwa [hown]
  leavesNothing := by simp [hown, hspared]

/-- A step that does not touch the files and does not return. -/
theorem of_running (hfacts : Facts platform libraries profile (ownStore path call files) phase')
    (hrunning : phase'.running) (hspared : Spared platform libraries profile phase answer) :
    Keeps platform libraries path profile call files phase answer files phase' where
  undisturbed := Undisturbed.refl call files
  facts := hfacts
  leavesNothing := iff_of_true (leavesNothing_of_running hrunning) hspared

/-- A step that puts a file of the call's own at the path and does not return. -/
theorem of_put (hbefore : ∀ old, files path.name = some old → old.creator = some call)
    (hfile : file.creator = some call)
    (hfacts : Facts platform libraries profile (some file) phase') (hrunning : phase'.running)
    (hspared : Spared platform libraries profile phase answer) :
    Keeps platform libraries path profile call files phase answer (files.put path.name file)
      phase' where
  undisturbed := Undisturbed.put hbefore hfile
  facts := by rwa [ownStore_put hfile]
  leavesNothing := iff_of_true (leavesNothing_of_running hrunning) hspared

/-- A step that returns an error while the file is there. -/
theorem of_error {error : String} (hown : ownStore path call files = some file)
    (hspared : ¬ Spared platform libraries profile phase answer) :
    Keeps platform libraries path profile call files phase answer files
      (.returned (.error error)) where
  undisturbed := Undisturbed.refl call files
  facts := trivial
  leavesNothing := by simp [hown, hspared]

end Keeps

section

variable {profiles : Nat → ServiceIdentityStoreProfile} {answer : EnrollAnswer platform}
  {phase phase' : EnrollPhase}

/-- What a step does is known, and is as it should be. -/
theorem Keeps.of_eq {after : FileSystem} {next : EnrollPhase}
    (hact : some (after, next) = some (files', phase'))
    (h : Keeps platform libraries path profile call files phase answer after next) :
    Keeps platform libraries path profile call files phase answer files' phase' := by
  simp only [Option.some.injEq, Prod.mk.injEq] at hact
  obtain ⟨rfl, rfl⟩ := hact
  exact h

theorem keeps_checkAbsent (hown : ownStore path call files = none)
    (hact : enrollAct platform libraries path profiles call files .checkAbsent answer
      = some (files', phase')) :
    Keeps platform libraries path (profiles call) call files .checkAbsent answer files'
      phase' := by
  unfold enrollAct at hact
  cases answer with
  | done =>
      by_cases hexists : (files path.name).isSome
      · simp only [hexists, if_true] at hact
        exact .of_eq hact (.of_none hown trivial trivial)
      · simp only [hexists] at hact
        exact .of_eq hact (.of_none hown (facts_prepareParent path) trivial)
  | failed error => exact .of_eq hact (.of_none hown (facts_prepareParent path) trivial)
  | _ => cases hact

theorem keeps_createParent (hown : ownStore path call files = none)
    (hact : enrollAct platform libraries path profiles call files .createParent answer
      = some (files', phase')) :
    Keeps platform libraries path (profiles call) call files .createParent answer files'
      phase' := by
  unfold enrollAct at hact
  cases answer with
  | done =>
      refine .of_eq hact (.of_none hown ?_ trivial)
      by_cases hunix : platform.unix <;> simp [hunix, Facts]
  | failed error => exact .of_eq hact (.of_none hown trivial trivial)
  | _ => cases hact

theorem keeps_hardenParent (hown : ownStore path call files = none)
    (hact : enrollAct platform libraries path profiles call files .hardenParent answer
      = some (files', phase')) :
    Keeps platform libraries path (profiles call) call files .hardenParent answer files'
      phase' := by
  unfold enrollAct at hact
  cases answer with
  | done => exact .of_eq hact (.of_none hown rfl trivial)
  | failed error => exact .of_eq hact (.of_none hown trivial trivial)
  | _ => cases hact

theorem keeps_sealing (hown : ownStore path call files = none)
    (hact : enrollAct platform libraries path profiles call files .sealing answer
      = some (files', phase')) :
    Keeps platform libraries path (profiles call) call files .sealing answer files' phase' := by
  unfold enrollAct at hact
  cases answer with
  | material material =>
      cases hseal : sealIdentity platform libraries (profiles call) material with
      | error error =>
          simp only [hseal] at hact
          exact .of_eq hact (.of_none hown trivial trivial)
      | ok identity =>
          simp only [hseal] at hact
          exact .of_eq hact (.of_none hown ⟨⟨material, hseal⟩, rfl⟩ trivial)
  | _ => cases hact

/-- `create_new` makes a file where there is none. -/
theorem keeps_create {identity : SealedIdentity}
    (hsealed : IsSealed platform libraries (profiles call) identity)
    (hown : ownStore path call files = none)
    (hact : enrollAct platform libraries path profiles call files (.create identity) answer
      = some (files', phase')) :
    Keeps platform libraries path (profiles call) call files (.create identity) answer files'
      phase' := by
  unfold enrollAct at hact
  cases answer with
  | done =>
      by_cases hexists : (files path.name).isSome
      · simp only [hexists, if_true] at hact
        exact .of_eq hact (.of_none hown trivial trivial)
      · simp only [hexists] at hact
        have hfree : files path.name = none := by simpa using hexists
        refine .of_eq hact (.of_put ?_ rfl ?_ (running_writeAll identity _) trivial)
        · simp [hfree]
        · exact facts_writeAll ⟨hsealed, _, rfl, rfl⟩
  | failed error => exact .of_eq hact (.of_none hown trivial trivial)
  | _ => cases hact

theorem keeps_write {identity : SealedIdentity} {rest : List UInt8} {file : StoreFile}
    (hsealed : IsSealed platform libraries (profiles call) identity)
    (hown : ownStore path call files = some file) (hbytes : file.content ++ rest = identity.bytes)
    (hact : enrollAct platform libraries path profiles call files (.write identity rest) answer
      = some (files', phase')) :
    Keeps platform libraries path (profiles call) call files (.write identity rest) answer files'
      phase' := by
  unfold enrollAct at hact
  cases answer with
  | wrote count =>
      by_cases htoomany : rest.length < count
      · simp [htoomany] at hact
      by_cases hzero : count = 0
      · simp only [hzero, if_true] at hact
        exact .of_eq hact (.of_running ⟨file, hown⟩ rfl trivial)
      · simp only [htoomany, hzero, if_false, append_of_ownStore hown] at hact
        have hcreator := (ownStore_eq_some.mp hown).2
        refine .of_eq hact (.of_put (creator_of_ownStore hown) hcreator ?_
          (running_writeAll identity _) trivial)
        refine facts_writeAll ⟨hsealed, _, rfl, ?_⟩
        rw [List.append_assoc, List.take_append_drop, hbytes]
  | failed error => exact .of_eq hact (.of_running ⟨file, hown⟩ rfl trivial)
  | _ => cases hact

theorem keeps_sync {identity : SealedIdentity}
    (hsealed : IsSealed platform libraries (profiles call) identity)
    (hwritten : Written (ownStore path call files) identity)
    (hact : enrollAct platform libraries path profiles call files (.sync identity) answer
      = some (files', phase')) :
    Keeps platform libraries path (profiles call) call files (.sync identity) answer files'
      phase' := by
  unfold enrollAct at hact
  cases answer with
  | done =>
      refine .of_eq hact (.of_running ?_ (running_hardenStore identity) trivial)
      exact facts_hardenStore ⟨hsealed, hwritten⟩
  | failed error =>
      obtain ⟨file, hown, -⟩ := hwritten
      exact .of_eq hact (.of_running ⟨file, hown⟩ rfl trivial)
  | _ => cases hact

theorem keeps_remove {file : StoreFile} (hown : ownStore path call files = some file)
    (hact : enrollAct platform libraries path profiles call files .remove answer
      = some (files', phase')) :
    Keeps platform libraries path (profiles call) call files .remove answer files' phase' := by
  unfold enrollAct at hact
  cases answer with
  | done =>
      refine .of_eq hact ⟨Undisturbed.remove (creator_of_ownStore hown), trivial, ?_⟩
      rw [ownStore_remove]
      exact iff_of_true (leavesNothing_none _) trivial
  | failed error => exact .of_eq hact (.of_error hown id)
  | _ => cases hact

theorem keeps_harden {identity : SealedIdentity}
    (hsealed : IsSealed platform libraries (profiles call) identity)
    (hwritten : Written (ownStore path call files) identity)
    (hact : enrollAct platform libraries path profiles call files (.harden identity) answer
      = some (files', phase')) :
    Keeps platform libraries path (profiles call) call files (.harden identity) answer files'
      phase' := by
  obtain ⟨file, hown, hbytes⟩ := hwritten
  obtain ⟨hfile, hcreator⟩ := ownStore_eq_some.mp hown
  unfold enrollAct at hact
  cases answer with
  | done =>
      simp only [hfile] at hact
      refine .of_eq hact (.of_put (creator_of_ownStore hown) hcreator ?_ rfl trivial)
      exact ⟨hsealed, _, rfl, hbytes, fun _ => rfl⟩
  | failed error => exact .of_eq hact (.of_error hown id)
  | _ => cases hact

theorem keeps_isFile {identity : SealedIdentity}
    (hsealed : IsSealed platform libraries (profiles call) identity)
    (hstored : Stored platform (ownStore path call files) identity)
    (hact : enrollAct platform libraries path profiles call files (.isFile identity) answer
      = some (files', phase')) :
    Keeps platform libraries path (profiles call) call files (.isFile identity) answer files'
      phase' := by
  have ⟨file, hown, _⟩ := hstored
  unfold enrollAct at hact
  cases answer with
  | done =>
      simp only [(ownStore_eq_some.mp hown).1, Option.isSome_some, if_true] at hact
      exact .of_eq hact (.of_running ⟨hsealed, hstored⟩ rfl trivial)
  | failed error => exact .of_eq hact (.of_error hown id)
  | _ => cases hact

theorem keeps_pull (hlib : libraries.Lawful) {identity : SealedIdentity}
    (hsealed : IsSealed platform libraries (profiles call) identity)
    (hstored : Stored platform (ownStore path call files) identity)
    (hact : enrollAct platform libraries path profiles call files (.pull identity) answer
      = some (files', phase')) :
    Keeps platform libraries path (profiles call) call files (.pull identity) answer files'
      phase' := by
  have ⟨file, hown, hbytes, _⟩ := hstored
  unfold enrollAct at hact
  cases answer with
  | done =>
      obtain ⟨envelopes, hpull⟩ := exists_pullAll hlib hsealed
      simp only [(ownStore_eq_some.mp hown).1, Option.map_some, hbytes, hpull] at hact
      exact .of_eq hact (.of_running ⟨hsealed, hstored, hpull⟩ rfl trivial)
  | failed error => exact .of_eq hact (.of_error hown id)
  | _ => cases hact

theorem keeps_opening (hlib : libraries.Lawful) {identity : SealedIdentity}
    {envelopes : List CultCacheEnvelope}
    (hsealed : IsSealed platform libraries (profiles call) identity)
    (hstored : Stored platform (ownStore path call files) identity)
    (hpull : libraries.pullAll (some identity.bytes) = .ok envelopes)
    (hact : enrollAct platform libraries path profiles call files (.opening identity envelopes)
      answer = some (files', phase')) :
    Keeps platform libraries path (profiles call) call files (.opening identity envelopes) answer
      files' phase' := by
  have ⟨file, hown, _⟩ := hstored
  unfold enrollAct at hact
  cases answer with
  | machine machine =>
      simp only [openEnvelopes_sealed hlib hsealed hpull machine] at hact
      refine .of_eq hact ?_
      cases hopen : unsealEntry platform libraries (profiles call) machine identity.entry with
      | error error =>
          refine .of_error hown fun hspared => ?_
          obtain ⟨signer, hsigner⟩ := (unsealEntry_sealed_ok_iff hsealed).mpr hspared
          simp [hopen] at hsigner
      | ok signer =>
          refine ⟨Undisturbed.refl call files, ?_, ?_⟩
          · exact ⟨identity, hsealed, hstored, entry_of_unsealEntry hopen⟩
          · exact iff_of_true leavesNothing_ok
              ((unsealEntry_sealed_ok_iff hsealed).mp ⟨signer, hopen⟩)
  | _ => cases hact

/-- **One step of a call**: it disturbs no other creator's file, it keeps what the call knows, and
it leaves nothing behind exactly if the answer is one of those that spare the path. -/
theorem enrollAct_keeps (hlib : libraries.Lawful)
    (h : Facts platform libraries (profiles call) (ownStore path call files) phase)
    (hact : enrollAct platform libraries path profiles call files phase answer
      = some (files', phase')) :
    Keeps platform libraries path (profiles call) call files phase answer files' phase' := by
  cases phase with
  | checkAbsent => exact keeps_checkAbsent h hact
  | createParent => exact keeps_createParent h hact
  | hardenParent => exact keeps_hardenParent h hact
  | sealing => exact keeps_sealing h hact
  | create identity => exact keeps_create h.1 h.2 hact
  | write identity rest =>
      obtain ⟨hsealed, file, hown, hbytes⟩ := h
      exact keeps_write hsealed hown hbytes hact
  | sync identity => exact keeps_sync h.1 h.2 hact
  | remove =>
      obtain ⟨file, hown⟩ := h
      exact keeps_remove hown hact
  | harden identity => exact keeps_harden h.1 h.2 hact
  | isFile identity => exact keeps_isFile h.1 h.2 hact
  | pull identity => exact keeps_pull hlib h.1 h.2 hact
  | opening identity envelopes => exact keeps_opening hlib h.1 h.2.1 h.2.2 hact
  | returned result => cases hact

theorem running_of_enrollAct
    (hact : enrollAct platform libraries path profiles call files phase answer
      = some (files', phase')) : phase.running := by
  cases phase with
  | returned result => cases hact
  | _ => rfl

end

/-! ### Every interleaving -/

section

variable {profiles : Nat → ServiceIdentityStoreProfile} {s s' : EnrollState}
  {input : Nat × EnrollAnswer platform} {o : Unit}

/-- What every call knows of its own file. -/
def Consistent (platform : IdentityPlatform) (libraries : EnrollmentLibraries) (path : StorePath)
    (profiles : Nat → ServiceIdentityStoreProfile) (s : EnrollState) : Prop :=
  ∀ call, Facts platform libraries (profiles call) (ownStore path call s.shared) (s.locals call)

theorem consistent_enrollInitial (contents : String → Option (List UInt8)) :
    Consistent platform libraries path profiles (enrollInitial contents) := by
  intro call
  refine ownStore_eq_none.mpr ?_
  intro file hfile
  obtain ⟨content, -, rfl⟩ := Option.map_eq_some_iff.mp hfile
  simp

/-- The call that the input names takes one step, which keeps what it should, and the other calls
and their files stay as they are. -/
theorem enrollStep_keeps (hlib : libraries.Lawful)
    (h : Consistent platform libraries path profiles s)
    (hs : enrollStep platform libraries path profiles s input = some (o, s')) :
    Keeps platform libraries path (profiles input.1) input.1 s.shared (s.locals input.1) input.2
        s'.shared (s'.locals input.1) ∧
      (s.locals input.1).running ∧
      ∀ other, other ≠ input.1 → s'.locals other = s.locals other ∧
        ownStore path other s'.shared = ownStore path other s.shared := by
  obtain ⟨hact, hrest⟩ := Interleaving.step_eq_some.mp hs
  have hkeeps := enrollAct_keeps hlib (h input.1) hact
  refine ⟨hkeeps, running_of_enrollAct hact, ?_⟩
  intro other hother
  exact ⟨hrest other hother, hkeeps.undisturbed.ownStore_eq hother⟩

theorem consistent_step (hlib : libraries.Lawful)
    (h : Consistent platform libraries path profiles s)
    (hs : enrollStep platform libraries path profiles s input = some (o, s')) :
    Consistent platform libraries path profiles s' := by
  refine Interleaving.invariant_of_view (ownStore path)
    (fun call => Facts platform libraries (profiles call)) ?_ ?_ h hs
  · intro call files phase answer files' phase' hfacts hact
    exact (enrollAct_keeps hlib hfacts hact).facts
  · intro call other files phase answer files' phase' hother hfacts hact
    exact (enrollAct_keeps hlib hfacts hact).undisturbed.ownStore_eq hother

theorem consistent_of_run (hlib : libraries.Lawful) {contents : String → Option (List UInt8)}
    {log : List ((Nat × EnrollAnswer platform) × Unit)}
    (hrun : Machine.Run (enrollStep platform libraries path profiles) (enrollInitial contents)
      log s) : Consistent platform libraries path profiles s :=
  hrun.invariant (consistent_enrollInitial contents)
    fun _ _ _ _ hconsistent hs => consistent_step hlib hconsistent hs

/-- No call that returned an error left a store at the path. -/
def Clean (path : StorePath) (s : EnrollState) : Prop :=
  ∀ call, LeavesNothing (ownStore path call s.shared) (s.locals call)

theorem clean_enrollInitial (path : StorePath) (contents : String → Option (List UInt8)) :
    Clean path (enrollInitial contents) :=
  fun _ => leavesNothing_of_running rfl

/-- A step leaves a clean path clean exactly if its answer spares it. -/
theorem clean_step_iff (hlib : libraries.Lawful)
    (h : Consistent platform libraries path profiles s)
    (hs : enrollStep platform libraries path profiles s input = some (o, s')) :
    Clean path s' ↔ Clean path s ∧
      Spared platform libraries (profiles input.1) (s.locals input.1) input.2 := by
  obtain ⟨hkeeps, hrunning, hothers⟩ := enrollStep_keeps hlib h hs
  constructor
  · intro hclean
    refine ⟨?_, hkeeps.leavesNothing.mp (hclean input.1)⟩
    intro call
    by_cases hcall : call = input.1
    · rw [hcall]
      exact leavesNothing_of_running hrunning
    · obtain ⟨hlocals, hown⟩ := hothers call hcall
      rw [← hlocals, ← hown]
      exact hclean call
  · rintro ⟨hclean, hspared⟩ call
    by_cases hcall : call = input.1
    · rw [hcall]
      exact hkeeps.leavesNothing.mpr hspared
    · obtain ⟨hlocals, hown⟩ := hothers call hcall
      rw [hlocals, hown]
      exact hclean call

/-- A call that returned an identity has its whole store at the path. -/
theorem stored_of_returned_ok (h : Consistent platform libraries path profiles s) {call : Nat}
    {signer : ServiceIdentitySigner} (hcall : s.locals call = .returned (.ok signer)) :
    ∃ identity, IsSealed platform libraries (profiles call) identity ∧
      Stored platform (ownStore path call s.shared) identity ∧ signer.entry = identity.entry := by
  have hfacts := h call
  rwa [hcall] at hfacts

/-- Calls that returned an identity have their file at the path, which is one file. -/
theorem eq_of_returned_ok (h : Consistent platform libraries path profiles s) {call other : Nat}
    {signer signer' : ServiceIdentitySigner} (hcall : s.locals call = .returned (.ok signer))
    (hother : s.locals other = .returned (.ok signer')) : call = other := by
  obtain ⟨-, -, ⟨file, hown, -⟩, -⟩ := stored_of_returned_ok h hcall
  obtain ⟨-, -, ⟨file', hown', -⟩, -⟩ := stored_of_returned_ok h hother
  obtain ⟨hfile, hcreator⟩ := ownStore_eq_some.mp hown
  have hsame := creator_of_ownStore hown' file hfile
  simpa [hcreator] using hsame

/-- On a clean path a call is refused only for a file that was there before any call, or that
belongs to a call which has enrolled or still may. -/
theorem Clean.creator (hclean : Clean path s) {file : StoreFile}
    (hfile : s.shared path.name = some file) : file.creator = none ∨
      ∃ call, file.creator = some call ∧
        ((s.locals call).running ∨ ∃ signer, s.locals call = .returned (.ok signer)) := by
  cases hcreator : file.creator with
  | none => exact Or.inl rfl
  | some call =>
      refine Or.inr ⟨call, rfl, ?_⟩
      have hown : ownStore path call s.shared = some file := ownStore_eq_some.mpr ⟨hfile, hcreator⟩
      have hcall := hclean call
      rw [hown] at hcall
      cases hphase : s.locals call with
      | returned result =>
          cases result with
          | error error =>
              rw [hphase] at hcall
              exact absurd hcall leavesNothing_some_error
          | ok signer => exact Or.inr ⟨signer, rfl⟩
      | _ => exact Or.inl rfl

/--
**Enrollment is exclusive, and when it is atomic.**  In every interleaving of any number of calls
on one path, whatever fails, at most one call returns an identity, and no step of a call changes
a file that another created or that was there before.  No call that returned an error has left a
store at the path exactly if, in every step of the run, the answer spared it: no `remove_file`
after a failed write or sync failed, neither hardening the file nor finding it nor reading it
again failed, and when the store was opened the machine still bound as at enrollment and
unprotected the seed of the enrolled key.
-/
theorem enrollment_exclusive_and_clean_iff (hlib : libraries.Lawful)
    {contents : String → Option (List UInt8)}
    {log : List ((Nat × EnrollAnswer platform) × Unit)}
    (hrun : Machine.Run (enrollStep platform libraries path profiles) (enrollInitial contents)
      log s) :
    (∀ call other signer signer', s.locals call = .returned (.ok signer) →
        s.locals other = .returned (.ok signer') → call = other) ∧
      Machine.Each (enrollStep platform libraries path profiles)
        (fun _ s input _ s' => Undisturbed input.1 s.shared s'.shared) (enrollInitial contents)
        log ∧
      (Clean path s ↔ Machine.Each (enrollStep platform libraries path profiles)
        (fun _ s input _ _ =>
          Spared platform libraries (profiles input.1) (s.locals input.1) input.2)
        (enrollInitial contents) log) := by
  refine ⟨?_, ?_, ?_⟩
  · intro call other signer signer' hcall hother
    exact eq_of_returned_ok (consistent_of_run hlib hrun) hcall hother
  · intro before input o after t t' _ hbefore hs
    exact (enrollStep_keeps hlib (consistent_of_run hlib hbefore) hs).1.undisturbed
  · exact Machine.Each.iff_of_step (Consistent platform libraries path profiles) (Clean path)
      (consistent_enrollInitial contents) (clean_enrollInitial path contents)
      (fun _ _ _ _ hconsistent hs => consistent_step hlib hconsistent hs)
      (fun _ _ _ _ _ hconsistent hs => clean_step_iff hlib hconsistent hs) hrun

end

/-! ### A host -/

/-- A short text as MessagePack. -/
def packText (text : String) : List UInt8 :=
  let bytes := asBytes text
  if bytes.length < 32 then (0xa0 + UInt8.ofNat bytes.length) :: bytes
  else 0xd9 :: UInt8.ofNat bytes.length :: bytes

/-- A list of bytes as a MessagePack array of numbers. -/
def packBytes (bytes : List UInt8) : List UInt8 :=
  0xdc :: BigEndian.bytes 2 bytes.length ++
    bytes.flatMap fun b => if b < 0x80 then [b] else [0xcc, b]

def packEntry (entry : ServiceIdentityPrivateEntry) : List UInt8 :=
  0x9a :: packText entry.schemaVersion ++ packText entry.identityId ++
    packBytes entry.publicKey ++ packBytes entry.protectedPrivateSeed ++
    packText entry.protectorKind ++ packText entry.protectorBinding ++
    packText entry.protectorVersion ++ packText entry.assurance ++ packText entry.createdAt ++
    packBytes entry.enrollmentNonce

/-- An array of one envelope. -/
def packStore (envelope : CultCacheEnvelope) : List UInt8 :=
  0x91 :: 0x95 :: packText envelope.key ++ packText envelope.type ++
    packBytes envelope.payload ++ packText envelope.storedAt ++
    envelope.schemaId.elim [0xc0] packText

def hostMachine : LinuxMachine where
  machineId := .ok "b08dfa6083e7567a1921a715000001fb\n"
  dbusMachineId := .error "No such file or directory (os error 2)"

def hostSeed : Vector UInt8 32 :=
  #v[0x9d, 0x61, 0xb1, 0x9d, 0xef, 0xfd, 0x5a, 0x60, 0xba, 0x84, 0x4a, 0xf4, 0x92, 0xec, 0x2c, 0xc4,
    0x44, 0x49, 0xc5, 0x69, 0x7b, 0x32, 0x69, 0x19, 0x70, 0x3b, 0xac, 0x03, 0x1c, 0xae, 0x7f, 0x60]

/-- The Ed25519 public key of `hostSeed`. -/
def hostKey : Vector UInt8 32 :=
  #v[0xd7, 0x5a, 0x98, 0x01, 0x82, 0xb1, 0x0a, 0xb7, 0xd5, 0x4b, 0xfe, 0xd3, 0xc9, 0x64, 0x07, 0x3a,
    0x0e, 0xe1, 0x72, 0xf3, 0xda, 0xa6, 0x23, 0x25, 0xaf, 0x02, 0x1a, 0x68, 0xf7, 0x07, 0x51, 0x1a]

def hostBinding : String :=
  "idunn-service-identity-v1:machine-id-sha256:" ++
    "fa0a9324f247fc4cdac5cb8478956356d8167f363e167c1043ae3e14682cc06a"

/-- The hashes that an identity of the host takes: of its public key, of the machine id, and of
what masks its seed. -/
def hostHashes : List (List UInt8 × List UInt8) := [
  (CultNet.idunnServiceIdentity.idDomain ++ hostKey.toList,
    [0x76, 0x31, 0x49, 0x86, 0x90, 0x8a, 0x77, 0x55, 0x05, 0x95, 0xcd, 0xfd, 0x8c, 0x8b, 0xdc, 0x6e,
      0x23, 0x42, 0xb6, 0xca, 0x1e, 0x41, 0xc0, 0xd4, 0xb9, 0xf0, 0x82, 0x53, 0x01, 0x9b, 0xe7,
      0x4b]),
  (asBytes "b08dfa6083e7567a1921a715000001fb",
    [0xfa, 0x0a, 0x93, 0x24, 0xf2, 0x47, 0xfc, 0x4c, 0xda, 0xc5, 0xcb, 0x84, 0x78, 0x95, 0x63, 0x56,
      0xd8, 0x16, 0x7f, 0x36, 0x3e, 0x16, 0x7c, 0x10, 0x43, 0xae, 0x3e, 0x14, 0x68, 0x2c, 0xc0,
      0x6a]),
  (protectorText "gamecult-linux-service-seed-v1\x00" .idunnServiceIdentity hostBinding,
    [0x6f, 0x22, 0xed, 0x51, 0x4a, 0x8f, 0x35, 0xc9, 0xf4, 0x19, 0x78, 0x8c, 0xd3, 0xd7, 0x5a, 0xf1,
      0x7e, 0xa9, 0x39, 0x5b, 0xa0, 0x10, 0xe0, 0xd0, 0xc7, 0x39, 0x77, 0xc7, 0xe6, 0x2e, 0xf2,
      0xb4])]

example : hostHashes.all (fun entry => (Sha256.hash entry.1).toList = entry.2) = true := by
  decide +kernel

/-- SHA-256, looked up. -/
def hostCryptography : Cryptography where
  sha256 message := (hostHashes.lookup message).getD (List.replicate 32 0)
  VerifyingKey := Unit
  keyFromBytes _ := .ok ()
  verify _ _ _ := false

def host : IdentityPlatform := .linux hostCryptography

def hostMaterial : Material host where
  seed := hostSeed
  nonce := Vector.replicate 32 0x5a
  machine := hostMachine
  now := "2025-01-01T00:00:00+00:00"

def hostEntry : ServiceIdentityPrivateEntry where
  schemaVersion := "idunn.service_identity.private.v1"
  identityId := "76314986908a77550595cdfd8c8bdc6e2342b6ca1e41c0d4b9f08253019be74b"
  publicKey := hostKey.toList
  protectedPrivateSeed :=
    [0xf2, 0x43, 0x5c, 0xcc, 0xa5, 0x72, 0x6f, 0xa9, 0x4e, 0x9d, 0x32, 0x78, 0x41, 0x3b, 0x76, 0x35,
      0x3a, 0xe0, 0xfc, 0x32, 0xdb, 0x22, 0x89, 0xc9, 0xb7, 0x02, 0xdb, 0xc4, 0xfa, 0x80, 0x8d,
      0xd4]
  protectorKind := "linux_file_mode_machine_id_binding"
  protectorBinding := hostBinding
  protectorVersion := "v1"
  assurance := "os_installation_file_bound_cloneable_baseline"
  createdAt := "2025-01-01T00:00:00+00:00"
  enrollmentNonce := List.replicate 32 0x5a

def hostEnvelope : CultCacheEnvelope where
  key := "idunn-service-identity"
  type := "idunn.service_identity.private.v1"
  payload := packEntry hostEntry
  storedAt := "2025-01-01T00:00:00+00:00"
  schemaId := some "idunn.service_identity.private.v1"

/-- The libraries, as far as the host's one identity goes. -/
def hostLibraries : EnrollmentLibraries where
  cryptography := hostCryptography
  verifyingKey seed := if seed = hostSeed then hostKey else Vector.replicate 32 0
  isRfc3339 text := text = "2025-01-01T00:00:00+00:00"
  encodeEntry entry :=
    if entry = hostEntry then .ok (packEntry hostEntry) else .error "another entry"
  decodeEntry bytes :=
    if bytes = packEntry hostEntry then .ok hostEntry else .error "another entry"
  encodeStore envelopes :=
    if envelopes = [hostEnvelope] then .ok (packStore hostEnvelope) else .error "another store"
  pullAll content :=
    if content = some (packStore hostEnvelope) then .ok [hostEnvelope] else .error "another store"

theorem hostLibraries_lawful : hostLibraries.Lawful where
  decode_encode {entry bytes} h := by
    by_cases hentry : entry = hostEntry
    · simp only [hostLibraries, hentry, if_true, Except.ok.injEq] at h
      simp [hostLibraries, ← h, hentry]
    · simp [hostLibraries, hentry] at h
  pull_encode {envelope bytes} h := by
    by_cases henvelope : envelope = hostEnvelope
    · simp only [hostLibraries, henvelope, if_true, Except.ok.injEq] at h
      simp [hostLibraries, ← h, henvelope]
    · simp [hostLibraries, henvelope] at h

def hostPath : StorePath where
  name := "/var/lib/idunn/identity.ccmp"
  parent := some "/var/lib/idunn"

/-- Calls of the same service. -/
def hostStep : EnrollState → Nat × EnrollAnswer host → Option (Unit × EnrollState) :=
  enrollStep host hostLibraries hostPath fun _ => .idunnServiceIdentity

/-- What a call is told up to the sealing. -/
def preparing (call : Nat) : List (Nat × EnrollAnswer host) :=
  [.done, .done, .done, .material hostMaterial].map (Prod.mk call)

/-- And up to `sync_all`, where nothing fails. -/
def persisting (call : Nat) : List (Nat × EnrollAnswer host) :=
  [.done, .wrote 100, .wrote ((packStore hostEnvelope).length - 100), .done].map (Prod.mk call)

/-- A call does not get its bytes written, one finds the path taken meanwhile, one enrolls, and
one comes too late. -/
theorem enrollment_exclusive_and_clean_iff_host :
    ∃ log s, Machine.Run hostStep (enrollInitial fun _ => none) log s ∧
      (s.locals 0 = .returned (.error cannotPersist) ∧
        s.locals 1 = .returned (.error (cannotCreate hostPath)) ∧
        s.locals 2 = .returned (.ok { entry := hostEntry, signingKey := hostSeed }) ∧
        s.locals 3 = .returned (.error (alreadyExists hostPath))) ∧
      (∀ call other signer signer', s.locals call = .returned (.ok signer) →
        s.locals other = .returned (.ok signer') → call = other) ∧
      Machine.Each hostStep (fun _ s input _ s' => Undisturbed input.1 s.shared s'.shared)
        (enrollInitial fun _ => none) log ∧
      (Clean hostPath s ↔ Machine.Each hostStep
        (fun _ s input _ _ =>
          Spared host hostLibraries .idunnServiceIdentity (s.locals input.1) input.2)
        (enrollInitial fun _ => none) log) := by
  have hexec : (Machine.exec hostStep (enrollInitial fun _ => none)
      (preparing 1 ++ preparing 0 ++ [(0, .done), (1, .done), (0, .wrote 100),
        (0, .failed "No space left on device (os error 28)"), (0, .done)] ++
        preparing 2 ++ persisting 2 ++
        [(2, .done), (2, .done), (2, .done), (2, .machine hostMachine), (3, .done)])).any
      (fun r => decide (r.2.locals 0 = .returned (.error cannotPersist) ∧
        r.2.locals 1 = .returned (.error (cannotCreate hostPath)) ∧
        r.2.locals 2 = .returned (.ok { entry := hostEntry, signingKey := hostSeed }) ∧
        r.2.locals 3 = .returned (.error (alreadyExists hostPath)))) = true := by
    decide +kernel
  obtain ⟨log, s, hrun, -, hcheck⟩ := Machine.Run.of_exec_any hexec
  exact ⟨log, s, hrun, of_decide_eq_true hcheck,
    enrollment_exclusive_and_clean_iff hostLibraries_lawful hrun⟩

/-- A call whose file cannot be hardened returns an error and leaves it, and the next call is
refused for it. -/
theorem failed_harden_leaves_store :
    ¬ (∀ log s, Machine.Run hostStep (enrollInitial fun _ => none) log s → Clean hostPath s) ∧
    ∃ log s, Machine.Run hostStep (enrollInitial fun _ => none) log s ∧
      s.locals 0 = .returned (.error "Operation not permitted (os error 1)") ∧
      (∃ file, s.shared hostPath.name = some file ∧ file.creator = some 0) ∧
      s.locals 1 = .returned (.error (alreadyExists hostPath)) := by
  have hexec : (Machine.exec hostStep (enrollInitial fun _ => none)
      (preparing 0 ++ persisting 0 ++
        [(0, .failed "Operation not permitted (os error 1)"), (1, .done)])).any
      (fun r => decide (
        r.2.locals 0 = .returned (.error "Operation not permitted (os error 1)") ∧
        r.2.locals 1 = .returned (.error (alreadyExists hostPath)) ∧
        (r.2.shared hostPath.name).map StoreFile.creator = some (some 0))) = true := by
    decide +kernel
  obtain ⟨log, s, hrun, -, hcheck⟩ := Machine.Run.of_exec_any hexec
  obtain ⟨hfailed, hrefused, hfile⟩ := of_decide_eq_true hcheck
  obtain ⟨file, hfile, hcreator⟩ := Option.map_eq_some_iff.mp hfile
  refine ⟨?_, log, s, hrun, hfailed, ⟨file, hfile, hcreator⟩, hrefused⟩
  intro hclean
  have hnone := hclean log s hrun 0 _ hfailed
  exact ownStore_eq_none.mp hnone file hfile hcreator

end CultNet
