/-
Changes that travel by message.

A cache is a map from types and keys to envelopes, and what a type reads at its keys
is `held`.  Every operation of a lawful cache rewrites one place of that map or
leaves it alone (`held_of_rewrites`), so a message of a change does to the cache it
is applied to what the change says.  Along any sequence of changes the receiver holds
what the changes that were applied make of what it held, and everything else is as it
was; where the two registries bind the type to different schema ids, nothing is
applied at all.
-/
import CultNet.Lib.Machine
import CultNet.Proofs.SnapshotAtomicity

namespace CultNet

/-! ### What a type reads of a cache -/

section Held

variable {Cache : Type} {cultCache : DocumentCache Cache}

/-- What a type reads at a key. -/
def DocumentCache.held (cultCache : DocumentCache Cache) (T : Type) [DatabaseEntry T]
    (cache : Cache) (key : String) : Option T :=
  (cultCache.getRequired T cache key).toOption

/-- One place of the cache was written or emptied, and the others were not touched. -/
def DocumentCache.Rewrites (cultCache : DocumentCache Cache) (cache cache' : Cache)
    (place : String × String) (stored : Option CultCacheEnvelope) : Prop :=
  (∀ e, stored = some e → e.identity = place) ∧ ∀ e, e ∈ cultCache.snapshot cache' ↔
    stored = some e ∨ e ∈ cultCache.snapshot cache ∧ e.identity ≠ place

variable {T : Type} [entry : DatabaseEntry T] {cache cache' : Cache} {place : String × String}
  {stored : Option CultCacheEnvelope}

theorem DocumentCache.Lawful.held_eq_some (lawful : cultCache.Lawful) {key : String} {value : T} :
    cultCache.held T cache key = some value ↔
      ∃ e ∈ cultCache.snapshot cache, e.identity = (entry.type, key) ∧
        entry.decode e.payload = .ok value := by
  rw [← lawful.getRequired_eq_ok]
  unfold held
  cases cultCache.getRequired T cache key with
  | error e => simp [Except.toOption]
  | ok v => simp [Except.toOption]

/-- At the place itself a type reads what was stored there. -/
theorem DocumentCache.Rewrites.held_self (h : cultCache.Rewrites cache cache' place stored)
    (lawful : cultCache.Lawful) {key : String} (hplace : place = (entry.type, key)) :
    cultCache.held T cache' key = stored.bind fun e => (entry.decode e.payload).toOption := by
  refine Option.ext fun value => ?_
  rw [lawful.held_eq_some]
  simp only [h.2, Option.bind_eq_some_iff]
  constructor
  · rintro ⟨e, hstored | ⟨-, hne⟩, hidentity, hdecode⟩
    · exact ⟨e, hstored, by rw [hdecode]; rfl⟩
    · exact absurd (hidentity.trans hplace.symm) hne
  · rintro ⟨e, hstored, hvalue⟩
    refine ⟨e, Or.inl hstored, (h.1 e hstored).trans hplace, ?_⟩
    cases hdecode : entry.decode e.payload with
    | error _ =>
        rw [hdecode] at hvalue
        simp [Except.toOption] at hvalue
    | ok v =>
        rw [hdecode] at hvalue
        simp only [Except.toOption, Option.some.injEq] at hvalue
        rw [hvalue]

/-- Elsewhere it reads what it read before. -/
theorem DocumentCache.Rewrites.held_ne (h : cultCache.Rewrites cache cache' place stored)
    (lawful : cultCache.Lawful) {key : String} (hplace : place ≠ (entry.type, key)) :
    cultCache.held T cache' key = cultCache.held T cache key := by
  refine Option.ext fun value => ?_
  rw [lawful.held_eq_some, lawful.held_eq_some]
  refine exists_congr fun e => ?_
  rw [h.2]
  constructor
  · rintro ⟨hstored | ⟨he, -⟩, hidentity, hdecode⟩
    · exact absurd ((h.1 e hstored).symm.trans hidentity) hplace
    · exact ⟨he, hidentity, hdecode⟩
  · rintro ⟨he, hidentity, hdecode⟩
    exact ⟨Or.inr ⟨he, fun heq => hplace (heq.symm.trans hidentity)⟩, hidentity, hdecode⟩

/-- **Rewriting a place of a type updates what the type reads.** -/
theorem DocumentCache.Rewrites.held_update {key : String}
    (h : cultCache.Rewrites cache cache' (entry.type, key) stored) (lawful : cultCache.Lawful) :
    cultCache.held T cache' = Function.update (cultCache.held T cache) key
      (stored.bind fun e => (entry.decode e.payload).toOption) := by
  funext other
  by_cases hother : other = key
  · rw [hother, Function.update_self]
    exact h.held_self lawful rfl
  · rw [Function.update_of_ne hother]
    exact h.held_ne lawful fun heq => hother (Prod.mk.inj heq).2.symm

/-- Another type reads what it read before. -/
theorem DocumentCache.Rewrites.held_other (h : cultCache.Rewrites cache cache' place stored)
    (lawful : cultCache.Lawful) (htype : place.1 ≠ entry.type) :
    cultCache.held T cache' = cultCache.held T cache :=
  funext fun _ => h.held_ne lawful fun heq => htype (congrArg Prod.fst heq)

end Held

/-! ### What the calls of a cache do to it -/

namespace DocumentCache.Lawful

variable {Cache : Type} {cultCache : DocumentCache Cache} (lawful : cultCache.Lawful)
variable {cache cache' : Cache} {key now : String}

include lawful

theorem rewrites_putEnvelope {T : Type} [entry : DatabaseEntry T] {envelope : CultCacheEnvelope}
    {value : T} (htype : envelope.type = entry.type)
    (h : cultCache.putEnvelope T cache envelope = (.ok value, cache')) :
    entry.decode envelope.payload = .ok value ∧
      cultCache.Rewrites cache cache' (entry.type, envelope.key) (some envelope) := by
  obtain ⟨hdecode, hmem⟩ := lawful.putEnvelope_ok T cache cache' envelope value htype h
  have hplace : envelope.identity = (entry.type, envelope.key) := by
    rw [CultCacheEnvelope.identity, htype]
  refine ⟨hdecode, fun e he => ?_, fun e => ?_⟩
  · rw [← Option.some.inj he]
    exact hplace
  · rw [hmem, hplace, Option.some.injEq, eq_comm (a := e)]

theorem rewrites_put {T : Type} [entry : TypedEntry T] {value value' : T}
    (h : cultCache.put T cache key value now = (.ok value', cache')) :
    value' = value ∧ ∃ envelope : CultCacheEnvelope, envelope.storedAt = now ∧
      entry.encode value = .ok envelope.payload ∧
      cultCache.Rewrites cache cache' (entry.type, key) (some envelope) := by
  obtain ⟨hvalue, envelope, hplace, hnow, hencode, hmem⟩ :=
    lawful.put_ok T cache cache' key value value' now h
  refine ⟨hvalue, envelope, hnow, hencode, fun e he => ?_, fun e => ?_⟩
  · rw [← Option.some.inj he]
    exact hplace
  · rw [hmem, hplace, Option.some.injEq, eq_comm (a := e)]

theorem rewrites_delete {T : Type} [entry : DatabaseEntry T] {found : Bool}
    (h : cultCache.delete T cache key = (.ok found, cache')) :
    cultCache.Rewrites cache cache' (entry.type, key) none := by
  obtain ⟨-, hmem⟩ := lawful.delete_ok T cache cache' key found h
  refine ⟨fun e he => (nomatch he), fun e => ?_⟩
  rw [hmem]
  simp

end DocumentCache.Lawful

/-! ### Changes -/

/-- A change of one document, told typed or raw. -/
inductive DocumentChange (T : Type) where
  | put (key : String) (value : T) (options : DocumentPutOptions)
  | putRaw (key : String) (value : T) (options : DocumentPutOptions)
  | delete (key : String)

namespace DocumentChange

variable {T : Type}

/-- What a change makes of what is held. -/
def onto (held : String → Option T) : DocumentChange T → String → Option T
  | put key value _ | putRaw key value _ => Function.update held key (some value)
  | delete key => Function.update held key none

/-- The message that tells of a change. -/
def message [entry : SerializedEntry T] (registry : DocumentRegistry) (messageId now : String) :
    DocumentChange T → Except String Message
  | put key value options => registry.createDocumentPutMessage messageId key value options now
  | putRaw key value options =>
    registry.createRawDocumentPutMessage messageId key value options now
  | delete key => do
    let binding ← registry.requireBinding entry.type
    return DocumentRegistry.createDocumentDeleteMessage messageId binding.schemaId key

end DocumentChange

/-- The id of a message, and what the clocks of the sender and of the receiver read. -/
structure Telling where
  messageId : String
  sentAt : String
  appliedAt : String

section Told

variable {Cache : Type} (cultCache : DocumentCache Cache) (T : Type)

/-- The result of a call, without what it returned. -/
def discardResult {α : Type} (called : Except String α × Cache) : Except String Unit × Cache :=
  (discard called.1, called.2)

/-- Apply a message of a change, each kind by its call. -/
def DocumentRegistry.applyChange [entry : TypedEntry T] (registry : DocumentRegistry)
    (cache : Cache) (now : String) : Message → Except String Unit × Cache
  | .documentPut messageId document =>
    discardResult (registry.applyDocumentPutMessage cultCache.toTypedCultCache T cache
      (.documentPut messageId document) now)
  | .documentDelete messageId schemaId recordKey =>
    discardResult (registry.applyDocumentDeleteMessage cultCache T cache
      (.documentDelete messageId schemaId recordKey))
  | message =>
    discardResult (registry.applyRawDocumentPutMessage cultCache.toCultCache T cache message)

/-- One change, told by one runtime and applied by another; whether it was applied. -/
def tellChange [entry : SerializedEntry T] (origin target : DocumentRegistry) (cache : Cache)
    (told : DocumentChange T × Telling) : Option (Bool × Cache) :=
  match told.1.message origin told.2.messageId told.2.sentAt with
  | .error _ => some (false, cache)
  | .ok message =>
    match target.applyChange cultCache T cache told.2.appliedAt message with
    | (.error _, cache) => some (false, cache)
    | (.ok _, cache) => some (true, cache)

/-- Values survive being encoded, as bytes and as JSON. -/
structure SerializedEntry.Survives [entry : SerializedEntry T] : Prop where
  decode_encode : ∀ value payload, entry.encode value = .ok payload →
    entry.decode payload = .ok value
  fromValue_toValue : ∀ value json, entry.toValue value = .ok json →
    entry.fromValue json = .ok value

end Told

/-- The registries bind a type to one schema id. -/
def SameSchema (origin target : DocumentRegistry) (documentType : String) : Prop :=
  ∃ sent expected, origin.binding documentType = some sent ∧
    target.binding documentType = some expected ∧ sent.schemaId = expected.schemaId

namespace DocumentRegistry

variable {Cache : Type} {cultCache : DocumentCache Cache} (lawful : cultCache.Lawful)
variable {bindings : List DocumentBinding} {cache cache' : Cache} {message : Message}

include lawful

/-- A call that fails leaves the cache, and one that succeeds writes where the record says. -/
theorem applyRawDocumentPutMessage_ok {T : Type} [entry : DatabaseEntry T] {value : T}
    (h : (registerAll bindings).applyRawDocumentPutMessage cultCache.toCultCache T cache message
      = (.ok value, cache')) :
    ∃ messageId document binding, message = .documentPutRaw messageId document ∧
      (registerAll bindings).binding entry.type = some binding ∧
      document.schemaId = binding.schemaId ∧ entry.decode document.payload = .ok value ∧
      cultCache.Rewrites cache cache' (entry.type, document.recordKey)
        (some (envelopeOf binding document)) := by
  unfold applyRawDocumentPutMessage at h
  split at h
  · rename_i messageId document
    split at h
    · simp at h
    · rename_i binding hb
      rw [requireBinding_eq_ok] at hb
      by_cases hd : document.schemaId = binding.schemaId
      · rw [if_neg (not_not.mpr hd)] at h
        obtain ⟨hdecode, hrewrites⟩ := lawful.rewrites_putEnvelope (mem_of_binding hb).2 h
        exact ⟨messageId, document, binding, rfl, hb, hd, hdecode, hrewrites⟩
      · rw [if_pos hd] at h
        simp at h
  · simp at h

theorem applyRawDocumentPutMessage_error {T : Type} [DatabaseEntry T] {error : String}
    {registry : DocumentRegistry} (h : registry.applyRawDocumentPutMessage cultCache.toCultCache T
      cache message = (.error error, cache')) : cache' = cache := by
  unfold applyRawDocumentPutMessage at h
  split at h
  · split at h
    · exact (Prod.mk.inj h).2.symm
    · split at h
      · exact (Prod.mk.inj h).2.symm
      · exact lawful.putEnvelope_error T _ _ _ _ h
  · exact (Prod.mk.inj h).2.symm

/-- What is applied of a snapshot was read from a record of it, under the schema of its type. -/
theorem mem_of_applyRawDocuments {T : Type} [entry : DatabaseEntry T] {binding : DocumentBinding}
    {documents : List RawDocumentRecord} :
    ∀ {cache cache' : Cache} {values : List T} {value : T},
      (registerAll bindings).applyRawDocuments cultCache.toCultCache T binding cache documents
        = (.ok values, cache') → value ∈ values →
      ∃ document ∈ documents, document.schemaId = binding.schemaId ∧
        entry.decode document.payload = .ok value := by
  induction documents with
  | nil =>
      intro cache cache' values value h hmem
      obtain ⟨hvalues, -⟩ := Prod.mk.inj h
      rw [← Except.ok.inj hvalues] at hmem
      simp at hmem
  | cons document rest ih =>
      intro cache cache' values value h hmem
      unfold applyRawDocuments at h
      by_cases hschema : document.schemaId = binding.schemaId
      · rw [if_neg (not_not.mpr hschema)] at h
        split at h
        · simp at h
        · rename_i first between hput
          split at h
          · simp at h
          · rename_i others after hrest
            obtain ⟨hvalues, -⟩ := Prod.mk.inj h
            rw [← Except.ok.inj hvalues] at hmem
            rcases List.mem_cons.mp hmem with rfl | hmem
            · obtain ⟨_, _, _, hmessage, -, -, hread, -⟩ :=
                applyRawDocumentPutMessage_ok lawful hput
              obtain ⟨-, rfl⟩ := Message.documentPutRaw.inj hmessage
              exact ⟨document, List.mem_cons_self, hschema, hread⟩
            · obtain ⟨found, hfound, hread⟩ := ih hrest hmem
              exact ⟨found, List.mem_cons_of_mem _ hfound, hread⟩
      · rw [if_pos hschema] at h
        obtain ⟨found, hfound, hread⟩ := ih h hmem
        exact ⟨found, List.mem_cons_of_mem _ hfound, hread⟩

theorem applyDocumentPutMessage_rewrites {T : Type} [entry : TypedEntry T] {value : T}
    {registry : DocumentRegistry} {now : String}
    (h : registry.applyDocumentPutMessage cultCache.toTypedCultCache T cache message now
      = (.ok value, cache')) :
    ∃ messageId document binding, message = .documentPut messageId document ∧
      registry.binding entry.type = some binding ∧ document.schemaId = binding.schemaId ∧
      entry.fromValue document.payload = .ok value ∧
      ∃ envelope : CultCacheEnvelope, entry.encode value = .ok envelope.payload ∧
        cultCache.Rewrites cache cache' (entry.type, document.recordKey) (some envelope) := by
  unfold applyDocumentPutMessage at h
  split at h
  · rename_i messageId document
    split at h
    · simp at h
    · rename_i binding hb
      rw [requireBinding_eq_ok] at hb
      by_cases hd : document.schemaId = binding.schemaId
      · rw [if_neg (not_not.mpr hd)] at h
        split at h
        · simp at h
        · rename_i read hread
          obtain ⟨rfl, envelope, -, hencode, hrewrites⟩ := lawful.rewrites_put h
          exact ⟨messageId, document, binding, rfl, hb, hd, hread, envelope, hencode, hrewrites⟩
      · rw [if_pos hd] at h
        simp at h
  · simp at h

theorem applyDocumentPutMessage_error {T : Type} [TypedEntry T] {error now : String}
    {registry : DocumentRegistry} (h : registry.applyDocumentPutMessage
      cultCache.toTypedCultCache T cache message now = (.error error, cache')) :
    cache' = cache := by
  unfold applyDocumentPutMessage at h
  split at h
  · split at h
    · exact (Prod.mk.inj h).2.symm
    · split at h
      · exact (Prod.mk.inj h).2.symm
      · split at h
        · exact (Prod.mk.inj h).2.symm
        · exact lawful.put_error T _ _ _ _ _ _ h
  · exact (Prod.mk.inj h).2.symm

omit lawful in
theorem applyDocumentDeleteMessage_ok {T : Type} [entry : DatabaseEntry T] {found : Bool}
    {registry : DocumentRegistry}
    (h : registry.applyDocumentDeleteMessage cultCache T cache message = (.ok found, cache')) :
    ∃ messageId schemaId recordKey binding,
      message = .documentDelete messageId schemaId recordKey ∧
      registry.binding entry.type = some binding ∧ schemaId = binding.schemaId ∧
      cultCache.delete T cache recordKey = (.ok found, cache') := by
  unfold applyDocumentDeleteMessage at h
  split at h
  · rename_i messageId schemaId recordKey
    split at h
    · simp at h
    · rename_i binding hb
      by_cases hd : schemaId = binding.schemaId
      · rw [if_neg (not_not.mpr hd)] at h
        exact ⟨messageId, schemaId, recordKey, binding, rfl, requireBinding_eq_ok.mp hb, hd, h⟩
      · rw [if_pos hd] at h
        simp at h
  · simp at h

theorem applyDocumentDeleteMessage_error {T : Type} [DatabaseEntry T] {error : String}
    {registry : DocumentRegistry} (h : registry.applyDocumentDeleteMessage cultCache T cache message
      = (.error error, cache')) : cache' = cache := by
  unfold applyDocumentDeleteMessage at h
  split at h
  · split at h
    · exact (Prod.mk.inj h).2.symm
    · split at h
      · exact (Prod.mk.inj h).2.symm
      · exact lawful.delete_error T _ _ _ _ h
  · exact (Prod.mk.inj h).2.symm

omit lawful in
theorem discardResult_eq_ok {α : Type} {called : Except String α × Cache}
    (h : discardResult called = (.ok (), cache')) : ∃ a, called = (.ok a, cache') := by
  match called with
  | (.ok a, _) => exact ⟨a, by rw [← (Prod.mk.inj h).2]⟩

omit lawful in
theorem discardResult_eq_error {α : Type} {called : Except String α × Cache} {error : String}
    (h : discardResult called = (.error error, cache')) : called = (.error error, cache') := by
  match called with
  | (.error e, _) =>
    obtain ⟨he, hcache⟩ := Prod.mk.inj h
    rw [← hcache, Except.error.inj he]

/-- Whatever the kind of a message, a call that fails leaves the cache as it was. -/
theorem applyChange_error {T : Type} [TypedEntry T] {registry : DocumentRegistry}
    {now error : String} (h : registry.applyChange cultCache T cache now message
      = (.error error, cache')) : cache' = cache := by
  unfold applyChange at h
  split at h
  · exact applyDocumentPutMessage_error lawful (discardResult_eq_error h)
  · exact applyDocumentDeleteMessage_error lawful (discardResult_eq_error h)
  · exact applyRawDocumentPutMessage_error lawful (discardResult_eq_error h)

end DocumentRegistry

/-! ### Whole sequences -/

section Mirror

variable {Cache : Type} {cultCache : DocumentCache Cache} {T : Type} [entry : SerializedEntry T]
variable {origin : DocumentRegistry} {bindings : List DocumentBinding} {cache cache' : Cache}

/-- What a change does to the cache it is applied to. -/
structure Mirrors (cultCache : DocumentCache Cache) (origin target : DocumentRegistry)
    (change : DocumentChange T) (cache cache' : Cache) : Prop where
  schema : SameSchema origin target entry.type
  held : cultCache.held T cache' = change.onto (cultCache.held T cache)
  others : ∀ (T' : Type) [other : DatabaseEntry T'], other.type ≠ entry.type →
    cultCache.held T' cache' = cultCache.held T' cache

/-- A place of the type that was rewritten with a value, or emptied. -/
theorem Mirrors.of_rewrites (lawful : cultCache.Lawful) {target : DocumentRegistry}
    {change : DocumentChange T} {key : String} {stored : Option CultCacheEnvelope}
    (hschema : SameSchema origin target entry.type)
    (hrewrites : cultCache.Rewrites cache cache' (entry.type, key) stored)
    (honto : change.onto (cultCache.held T cache) = Function.update (cultCache.held T cache) key
      (stored.bind fun e => (entry.decode e.payload).toOption)) :
    Mirrors cultCache origin target change cache cache' where
  schema := hschema
  held := by rw [honto, hrewrites.held_update lawful]
  others T' other hne := hrewrites.held_other lawful (Ne.symm hne)

/-- **A change that is applied does what it says.** -/
theorem applyChange_mirrors (lawful : cultCache.Lawful)
    (hsurvives : SerializedEntry.Survives T) {change : DocumentChange T}
    {message : Message} {messageId sentAt appliedAt : String}
    (hmessage : change.message origin messageId sentAt = .ok message)
    (h : (DocumentRegistry.registerAll bindings).applyChange cultCache T cache appliedAt message
      = (.ok (), cache')) :
    Mirrors cultCache origin (.registerAll bindings) change cache cache' := by
  cases change with
  | put key value options =>
      obtain ⟨sent, hsent, hmessage⟩ := Fallible.bind_eq_ok.mp hmessage
      obtain ⟨bytes, hbytes, hmessage⟩ := Fallible.bind_eq_ok.mp hmessage
      obtain ⟨value', hvalue', hmessage⟩ := Fallible.bind_eq_ok.mp hmessage
      obtain ⟨payload, hpayload, hmessage⟩ := Fallible.bind_eq_ok.mp hmessage
      rw [← Except.ok.inj hmessage] at h
      obtain ⟨read, hcall⟩ := DocumentRegistry.discardResult_eq_ok h
      obtain ⟨_, document, binding, hkind, hb, hd, hread, envelope, hencode, hrewrites⟩ :=
        DocumentRegistry.applyDocumentPutMessage_rewrites lawful hcall
      obtain ⟨-, rfl⟩ := Message.documentPut.inj hkind
      -- what is read is what was told
      rw [hsurvives.decode_encode _ _ hbytes] at hvalue'
      obtain rfl := Except.ok.inj hvalue'
      rw [hsurvives.fromValue_toValue _ _ hpayload] at hread
      obtain rfl := Except.ok.inj hread
      refine Mirrors.of_rewrites lawful
        ⟨sent, binding, DocumentRegistry.requireBinding_eq_ok.mp hsent, hb, hd⟩ hrewrites ?_
      simp [DocumentChange.onto, hsurvives.decode_encode _ _ hencode, Except.toOption]
  | putRaw key value options =>
      obtain ⟨sent, hsent, hmessage⟩ := Fallible.bind_eq_ok.mp hmessage
      obtain ⟨payload, hpayload, hmessage⟩ := Fallible.bind_eq_ok.mp hmessage
      rw [← Except.ok.inj hmessage] at h
      obtain ⟨read, hcall⟩ := DocumentRegistry.discardResult_eq_ok h
      obtain ⟨_, document, binding, hkind, hb, hd, -, hrewrites⟩ :=
        DocumentRegistry.applyRawDocumentPutMessage_ok lawful hcall
      obtain ⟨-, rfl⟩ := Message.documentPutRaw.inj hkind
      refine Mirrors.of_rewrites lawful
        ⟨sent, binding, DocumentRegistry.requireBinding_eq_ok.mp hsent, hb, hd⟩ hrewrites ?_
      simp [DocumentChange.onto, DocumentRegistry.envelopeOf,
        hsurvives.decode_encode _ _ hpayload, Except.toOption]
  | delete key =>
      obtain ⟨sent, hsent, hmessage⟩ := Fallible.bind_eq_ok.mp hmessage
      rw [← Except.ok.inj hmessage] at h
      obtain ⟨found, hcall⟩ := DocumentRegistry.discardResult_eq_ok h
      obtain ⟨_, _, _, binding, hkind, hb, hd, hdelete⟩ :=
        DocumentRegistry.applyDocumentDeleteMessage_ok hcall
      obtain ⟨-, rfl, rfl⟩ := Message.documentDelete.inj hkind
      exact Mirrors.of_rewrites lawful
        ⟨sent, binding, DocumentRegistry.requireBinding_eq_ok.mp hsent, hb, hd⟩
        (lawful.rewrites_delete hdelete) rfl

/-- A change is applied as it was told, or changes nothing. -/
theorem tellChange_eq_some (lawful : cultCache.Lawful) (hsurvives : SerializedEntry.Survives T)
    {told : DocumentChange T × Telling} {applied : Bool}
    (h : tellChange cultCache T origin (.registerAll bindings) cache told
      = some (applied, cache')) :
    if applied then Mirrors cultCache origin (.registerAll bindings) told.1 cache cache'
    else cache' = cache := by
  unfold tellChange at h
  split at h
  · obtain ⟨rfl, rfl⟩ := Prod.mk.inj (Option.some.inj h)
    rfl
  · rename_i message hmessage
    split at h
    · rename_i error after happly
      obtain ⟨rfl, rfl⟩ := Prod.mk.inj (Option.some.inj h)
      exact DocumentRegistry.applyChange_error lawful happly
    · rename_i after happly
      obtain ⟨rfl, rfl⟩ := Prod.mk.inj (Option.some.inj h)
      exact applyChange_mirrors lawful hsurvives hmessage happly

/-- The changes of a log that were applied, in order. -/
def appliedChanges (log : List ((DocumentChange T × Telling) × Bool)) : List (DocumentChange T) :=
  (log.filter Prod.snd).map fun told => told.1.1

/--
**A receiver mirrors the changes it is told of.**  Whatever changes of documents of a type one
runtime tells another, typed or raw, the receiver ends up holding what the changes that it
applied, in their order, make of what it held, and of every other type what it held.  Where the
two do not bind the type to one schema id, it applies none, and its cache is as it was.
-/
theorem tellChange_mirrors (lawful : cultCache.Lawful) (hsurvives : SerializedEntry.Survives T)
    {log : List ((DocumentChange T × Telling) × Bool)}
    (hrun : Machine.Run (tellChange cultCache T origin (.registerAll bindings)) cache log cache') :
    cultCache.held T cache'
        = (appliedChanges log).foldl DocumentChange.onto (cultCache.held T cache) ∧
      (∀ (T' : Type) [other : DatabaseEntry T'], other.type ≠ entry.type →
        cultCache.held T' cache' = cultCache.held T' cache) ∧
      (¬SameSchema origin (.registerAll bindings) entry.type →
        appliedChanges log = [] ∧ cache' = cache) := by
  induction hrun with
  | nil => exact ⟨rfl, fun _ _ _ => rfl, fun _ => ⟨rfl, rfl⟩⟩
  | @snoc log before after told applied _ hstep ih =>
      obtain ⟨hheld, hothers, hrefused⟩ := ih
      have hone := tellChange_eq_some lawful hsurvives hstep
      by_cases happlied : applied = true
      · rw [if_pos happlied] at hone
        have hchanges : appliedChanges (log ++ [(told, applied)])
            = appliedChanges log ++ [told.1] := by
          simp [appliedChanges, happlied]
        rw [hchanges, List.foldl_append, ← hheld]
        refine ⟨hone.held, fun T' other hne => ?_, fun hschema => absurd hone.schema hschema⟩
        rw [hone.others T' hne, hothers T' hne]
      · rw [if_neg happlied] at hone
        have hchanges : appliedChanges (log ++ [(told, applied)]) = appliedChanges log := by
          simp [appliedChanges, happlied]
        rw [hchanges, hone]
        exact ⟨hheld, hothers, hrefused⟩

end Mirror

/-! ### In memory -/

/-- A cache in memory that is read and deleted from as well. -/
def documentMemoryCache : DocumentCache MemoryCache where
  toTypedCultCache := typedMemoryCache
  getRequired _T entry cache key :=
    match cache.envelopes.find? fun e => e.identity = (entry.type, key) with
    | some envelope => entry.decode envelope.payload
    | none => .error "missing document"
  delete _T entry cache key :=
    (.ok (cache.envelopes.any fun e => e.identity = (entry.type, key)), {
      envelopes := cache.envelopes.filter fun e => e.identity ≠ (entry.type, key)
      nodup := cache.nodup.sublist (List.filter_sublist.map _) })

/-- Under one identity there is one envelope. -/
theorem MemoryCache.find?_eq_some {cache : MemoryCache} {place : String × String}
    {envelope : CultCacheEnvelope} :
    cache.envelopes.find? (fun e => e.identity = place) = some envelope ↔
      envelope ∈ cache.envelopes ∧ envelope.identity = place := by
  constructor
  · intro h
    exact ⟨List.mem_of_find?_eq_some h, by simpa using List.find?_some h⟩
  · rintro ⟨hmem, hidentity⟩
    have hsome : (cache.envelopes.find? fun e => e.identity = place).isSome :=
      List.find?_isSome.mpr ⟨envelope, hmem, by simpa using hidentity⟩
    obtain ⟨found, hfound⟩ := Option.isSome_iff_exists.mp hsome
    have hplace : found.identity = place := by simpa using List.find?_some hfound
    rw [hfound, List.inj_on_of_nodup_map cache.nodup (List.mem_of_find?_eq_some hfound) hmem
      (hplace.trans hidentity.symm)]

theorem documentMemoryCache_lawful : documentMemoryCache.Lawful where
  snapshot_nodup cache := cache.nodup
  putEnvelope_ok T entry cache cache' envelope value _ h := by
    simp only [documentMemoryCache, typedMemoryCache, memoryCache] at h ⊢
    split at h
    · simp at h
    · rename_i read hdecode
      obtain ⟨hread, rfl⟩ := Prod.mk.inj h
      rw [← Except.ok.inj hread]
      exact ⟨hdecode, fun e => by simp [MemoryCache.put]⟩
  putEnvelope_error T entry cache cache' envelope error h := by
    simp only [documentMemoryCache, typedMemoryCache, memoryCache] at h
    split at h
    · exact (Prod.mk.inj h).2.symm
    · simp at h
  put_ok T entry cache cache' key value value' now h := by
    obtain ⟨payload, hencode, rfl, rfl⟩ := typedMemoryCache_put_ok h
    refine ⟨rfl, { key, type := entry.type, payload, storedAt := now, schemaId := none }, rfl, rfl,
      hencode, fun e => ?_⟩
    simp [documentMemoryCache, typedMemoryCache, memoryCache, MemoryCache.put]
  put_error T entry cache cache' key value now error h :=
    typedMemoryCache_atomic.put_error T cache cache' key value now error h
  getRequired_eq_ok T entry cache key value := by
    simp only [documentMemoryCache, typedMemoryCache, memoryCache]
    cases hfind : cache.envelopes.find? fun e => e.identity = (entry.type, key) with
    | none =>
        refine iff_of_false (by simp) ?_
        rintro ⟨envelope, hmem, hidentity, -⟩
        rw [MemoryCache.find?_eq_some.mpr ⟨hmem, hidentity⟩] at hfind
        exact Option.some_ne_none _ hfind
    | some envelope =>
        obtain ⟨hmem, hidentity⟩ := MemoryCache.find?_eq_some.mp hfind
        constructor
        · exact fun hdecode => ⟨envelope, hmem, hidentity, hdecode⟩
        · rintro ⟨other, hother, hsame, hdecode⟩
          rw [MemoryCache.find?_eq_some.mpr ⟨hother, hsame⟩] at hfind
          rw [← Option.some.inj hfind]
          exact hdecode
  delete_ok T entry cache cache' key found h := by
    simp only [documentMemoryCache, typedMemoryCache, memoryCache] at h ⊢
    obtain ⟨hfound, rfl⟩ := Prod.mk.inj h
    rw [← Except.ok.inj hfound]
    exact ⟨by simp, fun e => by simp⟩
  delete_error T entry cache cache' key error h := by
    simp [documentMemoryCache] at h

instance octetSerializedEntry : SerializedEntry Octet where
  toValue octet := .ok (.number (.posInt octet.value.toUInt64))

theorem octetSerializedEntry_survives : SerializedEntry.Survives Octet where
  decode_encode value payload h := octetSlice_survives.decode_encode value payload h
  fromValue_toValue value json h := by
    rw [← Except.ok.inj h]
    exact octetSlice_survives.fromValue_fromSlice [value.value] value _ rfl rfl

/-- An octet that is put and deleted, and one that stays. -/
theorem tellChange_mirrors_octets :
    let told (change : DocumentChange Octet) := (change, (⟨"m", "then", "now"⟩ : Telling))
    let octets := DocumentRegistry.registerAll [⟨"a", "octet", none, none⟩]
    ∃ log cache, Machine.Run (tellChange documentMemoryCache Octet octets octets)
        ⟨[], List.nodup_nil⟩ log cache ∧
      log.map Prod.fst = [told (.put "k" ⟨7⟩ {}), told (.putRaw "l" ⟨8⟩ {}), told (.delete "k")] ∧
      documentMemoryCache.held Octet cache "k" = none ∧
      documentMemoryCache.held Octet cache "l" = some ⟨8⟩ := by
  intro told octets
  have hexec : (Machine.exec (tellChange documentMemoryCache Octet octets octets)
      ⟨[], List.nodup_nil⟩ [told (.put "k" ⟨7⟩ {}), told (.putRaw "l" ⟨8⟩ {}), told (.delete "k")]).any
      (fun result => result.1.all Prod.snd) = true := by decide +kernel
  obtain ⟨log, cache, hrun, hinputs, happlied⟩ := Machine.Run.of_exec_any hexec
  have hmirrors := (tellChange_mirrors documentMemoryCache_lawful octetSerializedEntry_survives
    hrun).1
  have hchanges : appliedChanges log = [.put "k" ⟨7⟩ {}, .putRaw "l" ⟨8⟩ {}, .delete "k"] := by
    have hall : log.filter Prod.snd = log := List.filter_eq_self.mpr (by simpa using happlied)
    have hmap : (log.map fun entry => entry.1.1) = (log.map Prod.fst).map Prod.fst := by simp
    rw [appliedChanges, hall, hmap, hinputs]
    rfl
  rw [hchanges] at hmirrors
  refine ⟨log, cache, hrun, hinputs, ?_, ?_⟩
  · rw [hmirrors]
    rfl
  · rw [hmirrors]
    rfl

end CultNet
