/-
The typed and the raw way of a snapshot.

Both ways send one record for each envelope of a type that the filters let through,
in the order of the origin, and both store one envelope for each record.  The raw way
stores the envelope as it was; the typed way stores the value, so that the cache puts
its own time on it, and the `stored_at` that the record carries is dropped.  What
arrives is the same except for that time.
-/
import CultNet.Lib.Serde
import CultNet.Proofs.Replication

namespace CultNet

namespace DocumentRegistry

/-! ### What is sent -/

/-- The filters of a snapshot let an envelope through. -/
def selects (registry : DocumentRegistry) (schemaIds recordKeys : Option (List String))
    (envelope : CultCacheEnvelope) : Bool :=
  (registry.schemaOf envelope.type).any fun schemaId =>
    (schemaIds.all fun ids => ids.contains schemaId) &&
      recordKeys.all fun keys => keys.contains envelope.key

/-- The guard of the loop is the filter turned around. -/
theorem any_not_contains (filter : Option (List String)) (text : String) :
    (filter.any fun texts => !texts.contains text) =
      !(filter.all fun texts => texts.contains text) := by
  cases filter <;> rfl

/-- A snapshot has one record for each envelope that the filters let through. -/
theorem snapshotDocuments_ok {Document : Type} {registry : DocumentRegistry}
    {record : CultCacheEnvelope → Except String Document}
    {schemaIds recordKeys : Option (List String)} {envelopes : List CultCacheEnvelope} :
    ∀ {documents : List Document},
      registry.snapshotDocuments record schemaIds recordKeys envelopes = .ok documents →
        List.Forall₂ (fun e d => record e = .ok d)
          (envelopes.filter (registry.selects schemaIds recordKeys)) documents := by
  induction envelopes with
  | nil =>
      intro documents h
      cases h
      exact .nil
  | cons envelope rest ih =>
      intro documents h
      obtain ⟨binding, hbinding, h⟩ := Fallible.bind_eq_ok.mp h
      have hselects : registry.selects schemaIds recordKeys envelope =
          ((schemaIds.all fun ids => ids.contains binding.schemaId) &&
            recordKeys.all fun keys => keys.contains envelope.key) := by
        simp [selects, schemaOf, requireBinding_eq_ok.mp hbinding]
      rw [any_not_contains, any_not_contains] at h
      rw [List.filter_cons, hselects]
      by_cases hids : (schemaIds.all fun ids => ids.contains binding.schemaId) = true
      · by_cases hkeys : (recordKeys.all fun keys => keys.contains envelope.key) = true
        · simp only [hids, hkeys, Bool.not_true, Bool.false_eq_true, if_false] at h
          obtain ⟨document, hdocument, h⟩ := Fallible.bind_eq_ok.mp h
          obtain ⟨documents', hdocuments, h⟩ := Fallible.bind_eq_ok.mp h
          cases h
          simp only [hids, hkeys, Bool.and_self, if_true]
          exact .cons hdocument (ih hdocuments)
        · simp only [hids, hkeys, Bool.not_true, Bool.false_eq_true, if_false, Bool.not_false,
            if_true] at h
          simp only [hids, hkeys, Bool.and_false, Bool.false_eq_true, if_false]
          exact ih h
      · simp only [hids, Bool.not_false, if_true] at h
        simp only [hids, Bool.false_and, Bool.false_eq_true, if_false]
        exact ih h

/-! ### What a type is sent -/

section Sent

variable {bindings : List DocumentBinding} (T : Type) [entry : DatabaseEntry T]

/-- The envelopes of type `T` that the filters let through. -/
def sent (registry : DocumentRegistry) (schemaIds recordKeys : Option (List String))
    (envelopes : List CultCacheEnvelope) : List CultCacheEnvelope :=
  ofType T (envelopes.filter (registry.selects schemaIds recordKeys))

variable {T}

theorem type_of_mem_sent {registry : DocumentRegistry} {schemaIds recordKeys : Option (List String)}
    {envelopes : List CultCacheEnvelope} {e : CultCacheEnvelope}
    (h : e ∈ sent T registry schemaIds recordKeys envelopes) : e.type = entry.type := by
  simpa using (List.mem_filter.mp h).2

/-- Where schema ids are distinct, only the type of a binding has its schema id. -/
theorem schemaOf_eq_iff (hschemas : (bindings.map DocumentBinding.schemaId).Nodup)
    {binding : DocumentBinding}
    (hb : (registerAll bindings).binding entry.type = some binding) (documentType : String) :
    (registerAll bindings).schemaOf documentType = some binding.schemaId ↔
      documentType = entry.type := by
  constructor
  · intro h
    obtain ⟨b, hfound, hid⟩ := Option.map_eq_some_iff.mp h
    obtain ⟨hmem, htype⟩ := mem_of_binding hfound
    obtain ⟨hmem', htype'⟩ := mem_of_binding hb
    rw [List.inj_on_of_nodup_map hschemas hmem hmem' hid] at htype
    exact htype.symm.trans htype'
  · intro h
    rw [h, schemaOf, hb, Option.map_some]

end Sent

/-- The raw way decodes every envelope of type `T` that is sent, and stores each as it was. -/
theorem applyRawDocuments_sent {Cache : Type} {cultCache : CultCache Cache} {T : Type}
    [entry : DatabaseEntry T] {bindings : List DocumentBinding} {binding : DocumentBinding}
    (lawful : cultCache.Lawful) (hschemas : (bindings.map DocumentBinding.schemaId).Nodup)
    (hb : (registerAll bindings).binding entry.type = some binding)
    {envelopes : List CultCacheEnvelope} {documents : List RawDocumentRecord}
    (hrecords : List.Forall₂ (fun e d =>
      (registerAll bindings).rawDocumentRecordFromEnvelope e = .ok d) envelopes documents)
    {cache cache' : Cache} {applied : List T}
    (h : (registerAll bindings).applyRawDocuments cultCache T binding cache documents =
      (.ok applied, cache')) :
    (∀ e ∈ ofType T envelopes, ∃ value, entry.decode e.payload = .ok value) ∧
      Stores cultCache cache cache' ((ofType T envelopes).map (carried binding)) := by
  obtain ⟨hdecoded, hstores⟩ := applyRawDocuments_ok lawful hb h
  have haddressed : addressed binding documents = (ofType T envelopes).map (carried binding) := by
    rw [addressed_of_records binding hrecords]
    congr 1
    refine List.filter_congr fun e _ => ?_
    rw [decide_eq_decide]
    exact schemaOf_eq_iff hschemas hb e.type
  rw [haddressed] at hdecoded hstores
  refine ⟨fun e he => ?_, hstores⟩
  have hforall := List.forall₂_map_left_iff.mp (Fallible.mapM_eq_ok.mp hdecoded)
  obtain ⟨i, hi, rfl⟩ := List.getElem_of_mem he
  exact ⟨_, hforall.get hi (hforall.length_eq ▸ hi)⟩

/-! ### Agreement -/

/-- What two envelopes of type `T` may agree in: the key, the value and the time. -/
def view (T : Type) [entry : DatabaseEntry T] (e : CultCacheEnvelope) :
    String × Except String T × String :=
  (e.key, entry.decode e.payload, e.storedAt)

/-- Two caches hold the same envelopes of type `T`: the same keys, decoded values and times. -/
def SameEnvelopes (T : Type) [DatabaseEntry T] (envelopes envelopes' : List CultCacheEnvelope) :
    Prop :=
  ∀ v, v ∈ (ofType T envelopes).map (view T) ↔ v ∈ (ofType T envelopes').map (view T)

theorem mem_map_view_iff {T : Type} [entry : DatabaseEntry T]
    {envelopes stored : List CultCacheEnvelope} (hmem : ∀ e, e ∈ envelopes ↔ e ∈ stored)
    (htype : ∀ e ∈ stored, e.type = entry.type) (v : String × Except String T × String) :
    v ∈ (ofType T envelopes).map (view T) ↔ v ∈ stored.map (view T) := by
  rw [List.mem_map, List.mem_map]
  refine exists_congr fun e => and_congr_left fun _ => ?_
  rw [ofType, List.mem_filter, hmem, decide_eq_true_eq]
  exact ⟨fun h => h.1, fun h => ⟨h, htype e h⟩⟩

/-- Envelopes that only differ in their times, and have keys of their own, are the same exactly
when the times are. -/
theorem views_agree_iff {T : Type} [entry : DatabaseEntry T] {clock : Nat → String}
    {envelopes : List CultCacheEnvelope}
    (hkeys : ∀ e ∈ envelopes, ∀ e' ∈ envelopes, e.key = e'.key → e = e') :
    (∀ v, v ∈ envelopes.zipIdx.map (fun p => (p.1.key, entry.decode p.1.payload, clock p.2)) ↔
        v ∈ envelopes.map (view T)) ↔
      ∀ p ∈ envelopes.zipIdx, p.1.storedAt = clock p.2 := by
  constructor
  · intro h p hp
    obtain ⟨e, he, heq⟩ := List.mem_map.mp ((h _).mp (List.mem_map.mpr ⟨p, hp, rfl⟩))
    simp only [view, Prod.mk.injEq] at heq
    obtain ⟨hkey, -, hstoredAt⟩ := heq
    rw [← hkeys e he p.1 (List.fst_mem_of_mem_zipIdx hp) hkey]
    exact hstoredAt
  · intro h v
    have hsame : envelopes.zipIdx.map (fun p => (p.1.key, entry.decode p.1.payload, clock p.2)) =
        envelopes.map (view T) := by
      conv => rhs; rw [← List.zipIdx_map_fst 0 envelopes]
      rw [List.map_map]
      refine List.map_congr_left fun p hp => ?_
      rw [Function.comp_apply, view, h p hp]
    rw [hsame]

/-! ### What is stored -/

section Typed

variable {Cache : Type} {cultCache : TypedCultCache Cache}
variable {fromSlice : List UInt8 → Except String JsonValue}
variable {T : Type} [entry : TypedEntry T] {bindings : List DocumentBinding}
  {binding : DocumentBinding} {clock : Nat → String}

/-- The envelope that the typed way stores for the one that is sent at this place. -/
structure PutAs (fromSlice : List UInt8 → Except String JsonValue) (T : Type)
    [entry : TypedEntry T] (clock : Nat → String) (p : CultCacheEnvelope × Nat)
    (stored : CultCacheEnvelope) : Prop where
  type : stored.type = entry.type
  key : stored.key = p.1.key
  storedAt : stored.storedAt = clock p.2
  value : ∃ json value, fromSlice p.1.payload = .ok json ∧ entry.fromValue json = .ok value ∧
    entry.decode stored.payload = .ok value

theorem documentRecordFromEnvelope_ok {registry : DocumentRegistry} {envelope : CultCacheEnvelope}
    {document : DocumentRecord JsonValue}
    (h : registry.documentRecordFromEnvelope fromSlice envelope = .ok document) :
    registry.schemaOf envelope.type = some document.schemaId ∧
      document.recordKey = envelope.key ∧ fromSlice envelope.payload = .ok document.payload := by
  obtain ⟨b, hb, h⟩ := Fallible.bind_eq_ok.mp h
  cases hslice : fromSlice envelope.payload with
  | error e =>
      rw [hslice] at h
      cases h
  | ok json =>
      rw [hslice] at h
      cases h
      exact ⟨by simp [schemaOf, requireBinding_eq_ok.mp hb], rfl, rfl⟩

/-- A put that succeeds stores the value that was read. -/
theorem applyDocumentPutMessage_ok (lawful : cultCache.Lawful)
    (hsurvives : TypedEntry.Survives fromSlice T)
    (hb : (registerAll bindings).binding entry.type = some binding) {cache cache' : Cache}
    {messageId now : String} {document : DocumentRecord JsonValue} {value : T}
    (h : (registerAll bindings).applyDocumentPutMessage cultCache T cache
      (.documentPut messageId document) now = (.ok value, cache')) :
    ∃ stored : CultCacheEnvelope, stored.type = entry.type ∧ stored.key = document.recordKey ∧
      stored.storedAt = now ∧
      (∃ read, entry.fromValue document.payload = .ok read ∧
        entry.decode stored.payload = .ok read) ∧
      ∀ e, e ∈ cultCache.snapshot cache' ↔
        e = stored ∨ e ∈ cultCache.snapshot cache ∧ e.identity ≠ stored.identity := by
  unfold applyDocumentPutMessage at h
  simp only [requireBinding_eq_ok.mpr hb] at h
  by_cases hd : document.schemaId = binding.schemaId
  · rw [if_neg (not_not.mpr hd)] at h
    cases hread : entry.fromValue document.payload with
    | error e =>
        rw [hread] at h
        cases h
    | ok read =>
        simp only [hread] at h
        obtain ⟨stored, htype, hkey, hnow, hencode, hmem⟩ := lawful.put_ok T _ _ _ _ _ _ h
        exact ⟨stored, htype, hkey, hnow, ⟨read, rfl, hsurvives.decode_encode _ _ hencode⟩, hmem⟩
  · rw [if_pos hd] at h
    cases h

/-- A snapshot that is applied stores one envelope for each of type `T` that was sent, in order,
each with the time of its put. -/
theorem applyDocuments_ok (lawful : cultCache.Lawful)
    (hsurvives : TypedEntry.Survives fromSlice T)
    (hschemas : (bindings.map DocumentBinding.schemaId).Nodup)
    (hb : (registerAll bindings).binding entry.type = some binding)
    {envelopes : List CultCacheEnvelope} {documents : List (DocumentRecord JsonValue)}
    (hrecords : List.Forall₂ (fun e d =>
      (registerAll bindings).documentRecordFromEnvelope fromSlice e = .ok d) envelopes documents) :
    ∀ {puts : Nat} {cache cache' : Cache} {applied : List T},
      (registerAll bindings).applyDocuments cultCache T binding clock puts cache documents =
        (.ok applied, cache') →
      ∃ stored, List.Forall₂ (PutAs fromSlice T clock) ((ofType T envelopes).zipIdx puts) stored ∧
        Stores cultCache.toCultCache cache cache' stored := by
  induction hrecords with
  | nil =>
      intro puts cache cache' applied h
      cases h
      exact ⟨[], .nil, Stores.nil cache⟩
  | @cons envelope document rest documents hrecord _ ih =>
      intro puts cache cache' applied h
      obtain ⟨hschema, hkey, hpayload⟩ := documentRecordFromEnvelope_ok hrecord
      have hown : document.schemaId = binding.schemaId ↔ envelope.type = entry.type := by
        rw [← schemaOf_eq_iff hschemas hb, hschema, Option.some.injEq]
      unfold applyDocuments at h
      by_cases hd : document.schemaId = binding.schemaId
      · rw [if_neg (not_not.mpr hd)] at h
        have hcons : ofType T (envelope :: rest) = envelope :: ofType T rest := by
          simp [ofType, hown.mp hd]
        split at h
        case h_1 => cases h
        case h_2 value between hput =>
          split at h
          case h_1 => cases h
          case h_2 later c' hrest =>
            cases h
            obtain ⟨stored, htype, hstoredKey, hnow, ⟨read, hread, hdecode⟩, hmem⟩ :=
              applyDocumentPutMessage_ok lawful hsurvives hb hput
            obtain ⟨others, hothers, hstores⟩ := ih hrest
            refine ⟨stored :: others, ?_, Stores.cons hmem hstores⟩
            rw [hcons, List.zipIdx_cons]
            exact .cons ⟨htype, hstoredKey.trans hkey, hnow, _, read, hpayload, hread, hdecode⟩
              hothers
      · rw [if_pos hd] at h
        have hskip : ofType T (envelope :: rest) = ofType T rest :=
          List.filter_cons_of_neg (by simpa using mt hown.mpr hd)
        rw [hskip]
        exact ih h

/-- What the typed way stores, beside what was sent. -/
theorem map_of_putAs {envelopes stored : List CultCacheEnvelope}
    (hsurvives : TypedEntry.Survives fromSlice T)
    (hdecoded : ∀ e ∈ envelopes, ∃ value, entry.decode e.payload = .ok value)
    (htype : ∀ e ∈ envelopes, e.type = entry.type)
    (h : List.Forall₂ (PutAs fromSlice T clock) envelopes.zipIdx stored) :
    stored.map CultCacheEnvelope.identity = envelopes.map CultCacheEnvelope.identity ∧
      stored.map (view T) =
        envelopes.zipIdx.map fun p => (p.1.key, entry.decode p.1.payload, clock p.2) := by
  have hknown : ∀ p ∈ envelopes.zipIdx,
      p.1.type = entry.type ∧ ∃ value, entry.decode p.1.payload = .ok value :=
    fun p hp =>
      ⟨htype _ (List.fst_mem_of_mem_zipIdx hp), hdecoded _ (List.fst_mem_of_mem_zipIdx hp)⟩
  have hboth := (List.forall₂_and_left _ _).mpr ⟨hknown, h⟩
  constructor
  · conv => rhs; rw [← List.zipIdx_map_fst 0 envelopes]
    rw [List.map_map, ← List.forall₂_eq_eq_eq, List.forall₂_map_left_iff,
      List.forall₂_map_right_iff]
    refine hboth.flip.imp fun e p => ?_
    rintro ⟨⟨hpt, -⟩, hput⟩
    simp [CultCacheEnvelope.identity, hput.type, hput.key, hpt]
  · rw [← List.forall₂_eq_eq_eq, List.forall₂_map_left_iff, List.forall₂_map_right_iff]
    refine hboth.flip.imp fun e p => ?_
    rintro ⟨⟨-, value, hvalue⟩, hput⟩
    obtain ⟨json, read, hjson, hread, hdecode⟩ := hput.value
    rw [hsurvives.fromValue_fromSlice _ _ _ hvalue hjson] at hread
    cases hread
    rw [view, hput.key, hput.storedAt, hdecode, hvalue]

/-- Storing by the one way and by the other. -/
theorem sameEnvelopes_iff (hsurvives : TypedEntry.Survives fromSlice T)
    (hbinding : binding.documentType = entry.type) {typed typed' raw raw' : Cache}
    (hempty : cultCache.snapshot typed = []) (hrawEmpty : cultCache.snapshot raw = [])
    {envelopes stored : List CultCacheEnvelope} (htype : ∀ e ∈ envelopes, e.type = entry.type)
    (hnodup : (envelopes.map CultCacheEnvelope.identity).Nodup)
    (hdecoded : ∀ e ∈ envelopes, ∃ value, entry.decode e.payload = .ok value)
    (hputs : List.Forall₂ (PutAs fromSlice T clock) envelopes.zipIdx stored)
    (hstores : Stores cultCache.toCultCache typed typed' stored)
    (hrawStores : Stores cultCache.toCultCache raw raw' (envelopes.map (carried binding))) :
    SameEnvelopes T (cultCache.snapshot typed') (cultCache.snapshot raw') ↔
      ∀ p ∈ envelopes.zipIdx, p.1.storedAt = clock p.2 := by
  obtain ⟨hidentity, hview⟩ := map_of_putAs hsurvives hdecoded htype hputs
  have hcarried := map_identity_carried hbinding htype
  have htyped : ∀ e, e ∈ cultCache.snapshot typed' ↔ e ∈ stored := by
    intro e
    rw [hstores (hidentity ▸ hnodup) e, hempty]
    simp
  have hraw : ∀ e, e ∈ cultCache.snapshot raw' ↔ e ∈ envelopes.map (carried binding) := by
    intro e
    rw [hrawStores (hcarried ▸ hnodup) e, hrawEmpty]
    simp
  have hstoredType : ∀ t ∈ stored, t.type = entry.type := by
    intro t ht
    have hmem : t.identity ∈ stored.map CultCacheEnvelope.identity := List.mem_map_of_mem ht
    rw [hidentity] at hmem
    obtain ⟨e, he, heq⟩ := List.mem_map.mp hmem
    exact (congrArg Prod.fst heq).symm.trans (htype e he)
  have hcarriedType : ∀ t ∈ envelopes.map (carried binding), t.type = entry.type := by
    intro t ht
    obtain ⟨e, -, rfl⟩ := List.mem_map.mp ht
    exact hbinding
  have hcarriedView : (envelopes.map (carried binding)).map (view T) = envelopes.map (view T) := by
    rw [List.map_map]
    rfl
  have hkeys : ∀ e ∈ envelopes, ∀ e' ∈ envelopes, e.key = e'.key → e = e' := by
    intro e he e' he' hkey
    refine List.inj_on_of_nodup_map hnodup he he' ?_
    rw [CultCacheEnvelope.identity, CultCacheEnvelope.identity, htype e he, htype e' he', hkey]
  rw [← views_agree_iff (T := T) hkeys]
  refine forall_congr' fun v => ?_
  rw [mem_map_view_iff htyped hstoredType, mem_map_view_iff hraw hcarriedType, hview,
    hcarriedView]

/-- The two ways agree exactly when each envelope that is sent carries the very time that the
local clock reads at its put. -/
theorem snapshotResponses_agree_iff (lawful : cultCache.Lawful)
    (hsurvives : TypedEntry.Survives fromSlice T) (bindings : List DocumentBinding)
    (hschemas : (bindings.map DocumentBinding.schemaId).Nodup) (clock : Nat → String)
    (origin typed typed' raw raw' : Cache) (messageId rawMessageId : String)
    (schemaIds recordKeys : Option (List String)) (response rawResponse : Message)
    (applied rawApplied : List T)
    (hcreate : (registerAll bindings).createSnapshotResponse cultCache fromSlice origin messageId
      schemaIds recordKeys = .ok response)
    (hrawCreate : (registerAll bindings).createRawSnapshotResponse cultCache.toCultCache origin
      rawMessageId schemaIds recordKeys = .ok rawResponse)
    (hempty : cultCache.snapshot typed = []) (hrawEmpty : cultCache.snapshot raw = [])
    (happly : (registerAll bindings).applySnapshotResponse cultCache T clock typed response =
      (.ok applied, typed'))
    (hrawApply : (registerAll bindings).applyRawSnapshotResponse cultCache.toCultCache T raw
      rawResponse = (.ok rawApplied, raw')) :
    SameEnvelopes T (cultCache.snapshot typed') (cultCache.snapshot raw') ↔
      ∀ p ∈ (sent T (registerAll bindings) schemaIds recordKeys
        (cultCache.snapshot origin)).zipIdx, p.1.storedAt = clock p.2 := by
  obtain ⟨documents, hdocuments, hresponse⟩ := Fallible.bind_eq_ok.mp hcreate
  cases hresponse
  obtain ⟨rawDocuments, hrawDocuments, hrawResponse⟩ := Fallible.bind_eq_ok.mp hrawCreate
  cases hrawResponse
  rw [DocumentRegistry.rawDocuments] at hrawDocuments
  unfold applySnapshotResponse at happly
  unfold applyRawSnapshotResponse at hrawApply
  cases hrequire : (registerAll bindings).requireBinding entry.type with
  | error e => simp [hrequire] at happly
  | ok binding =>
      simp only [hrequire] at happly hrawApply
      have hb := requireBinding_eq_ok.mp hrequire
      obtain ⟨stored, hputs, hstores⟩ := applyDocuments_ok lawful hsurvives hschemas hb
        (snapshotDocuments_ok hdocuments) happly
      obtain ⟨hdecoded, hrawStores⟩ := applyRawDocuments_sent lawful.toLawful hschemas hb
        (snapshotDocuments_ok hrawDocuments) hrawApply
      exact sameEnvelopes_iff hsurvives (mem_of_binding hb).2 hempty hrawEmpty
        (fun e he => type_of_mem_sent he)
        ((lawful.snapshot_nodup origin).sublist
          ((List.filter_sublist.trans List.filter_sublist).map _))
        hdecoded hputs hstores hrawStores

end Typed

end DocumentRegistry

/-! ### In memory -/

/-- A cache in memory that takes values as well. -/
def typedMemoryCache : TypedCultCache MemoryCache where
  toCultCache := memoryCache
  put _T entry cache key value now :=
    match entry.encode value with
    | .error e => (.error e, cache)
    | .ok payload =>
      (.ok value, cache.put { key, type := entry.type, payload, storedAt := now, schemaId := none })

/-- A put that succeeds puts what the value is written as. -/
theorem typedMemoryCache_put_ok {T : Type} [entry : TypedEntry T] {cache cache' : MemoryCache}
    {key : String} {value value' : T} {now : String}
    (h : typedMemoryCache.put T cache key value now = (.ok value', cache')) :
    ∃ payload, entry.encode value = .ok payload ∧ value' = value ∧
      cache'
        = cache.put { key, type := entry.type, payload, storedAt := now, schemaId := none } := by
  simp only [typedMemoryCache] at h
  cases hencode : entry.encode value with
  | error e =>
      rw [hencode] at h
      cases h
  | ok payload =>
      rw [hencode] at h
      cases h
      exact ⟨payload, rfl, rfl, rfl⟩

theorem typedMemoryCache_lawful : typedMemoryCache.Lawful where
  toLawful := memoryCache_lawful
  put_ok T entry cache cache' key value value' now h := by
    obtain ⟨payload, hencode, rfl, rfl⟩ := typedMemoryCache_put_ok h
    refine ⟨{ key, type := entry.type, payload, storedAt := now, schemaId := none }, rfl, rfl, rfl,
      hencode, fun e => ?_⟩
    simp [typedMemoryCache, memoryCache, MemoryCache.put]

instance octetTypedEntry : TypedEntry Octet where
  schemaName := "Octet"
  fromValue json :=
    match Serde.unsigned json with
    | some n => if n.toNat < 256 then .ok ⟨n.toUInt8⟩ else .error "too large"
    | none => .error "expected a number"
  encode octet := .ok [octet.value]

/-- A byte as a number. -/
def octetSlice : List UInt8 → Except String JsonValue
  | [b] => .ok (.number (.posInt b.toUInt64))
  | _ => .error "expected one byte"

theorem octetSlice_survives : TypedEntry.Survives octetSlice Octet where
  decode_encode value payload h := by
    cases h
    rfl
  fromValue_fromSlice payload value json hdecode hslice := by
    match payload with
    | [] => cases hslice
    | [b] =>
        cases hslice
        cases hdecode
        have hlt : b.toUInt64.toNat < 256 := by
          rw [UInt8.toNat_toUInt64]
          exact b.toNat_lt
        show (if b.toUInt64.toNat < 256 then .ok ⟨b.toUInt64.toUInt8⟩ else .error "too large" :
          Except String Octet) = .ok ⟨b⟩
        rw [if_pos hlt, UInt8.toUInt8_toUInt64]
    | _ :: _ :: _ => cases hslice

namespace DocumentRegistry

/-- An origin with one octet, stored at this time. -/
def octetOrigin (storedAt : String) : MemoryCache where
  envelopes := [{ key := "k", type := "octet", payload := [7], storedAt, schemaId := none }]
  nodup := List.nodup_singleton _

/-- The clock of the target reads what the origin's clock had read. -/
theorem snapshotResponses_agree_octet :
    SameEnvelopes Octet
      [{ key := "k", type := "octet", payload := [7], storedAt := "t", schemaId := none }]
      [{ key := "k", type := "octet", payload := [7], storedAt := "t", schemaId := some "a" }] :=
  (snapshotResponses_agree_iff (T := Octet) typedMemoryCache_lawful octetSlice_survives
    [{ schemaId := "a", documentType := "octet" }] (by decide) (fun _ => "t") (octetOrigin "t")
    ⟨[], List.nodup_nil⟩
    (MemoryCache.put ⟨[], List.nodup_nil⟩
      { key := "k", type := "octet", payload := [7], storedAt := "t", schemaId := none })
    ⟨[], List.nodup_nil⟩
    (MemoryCache.put ⟨[], List.nodup_nil⟩
      { key := "k", type := "octet", payload := [7], storedAt := "t", schemaId := some "a" })
    "m" "m" none none _ _ [⟨7⟩] [⟨7⟩] rfl rfl rfl rfl rfl rfl).mpr (by decide)

/-- A clock that has gone on: the raw way keeps the time of the origin, the typed way does not. -/
theorem snapshotResponses_disagree :
    ∃ (typed' raw' : MemoryCache) (response rawResponse : Message),
      (registerAll [{ schemaId := "a", documentType := "octet" }]).createSnapshotResponse
        typedMemoryCache octetSlice (octetOrigin "t") "m" none none = .ok response ∧
      (registerAll [{ schemaId := "a", documentType := "octet" }]).createRawSnapshotResponse
        memoryCache (octetOrigin "t") "m" none none = .ok rawResponse ∧
      (registerAll [{ schemaId := "a", documentType := "octet" }]).applySnapshotResponse
        typedMemoryCache Octet (fun _ => "later") ⟨[], List.nodup_nil⟩ response =
          (.ok [⟨7⟩], typed') ∧
      (registerAll [{ schemaId := "a", documentType := "octet" }]).applyRawSnapshotResponse
        memoryCache Octet ⟨[], List.nodup_nil⟩ rawResponse = (.ok [⟨7⟩], raw') ∧
      ¬ SameEnvelopes Octet (memoryCache.snapshot typed') (memoryCache.snapshot raw') := by
  refine ⟨_, _, _, _, rfl, rfl, rfl, rfl, fun h => ?_⟩
  have hfound := (h ("k", .ok ⟨7⟩, "later")).mp (by decide)
  revert hfound
  decide

end DocumentRegistry

end CultNet
