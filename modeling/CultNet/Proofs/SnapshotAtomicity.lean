/-
What a snapshot that fails leaves behind.

Applying a snapshot is a batch: the documents of the schema of `T` are put one after
another, typed or raw, and the first put that fails ends the call.  Every put is all
or nothing; the call is not.  The documents in front of the one that fails stay
stored, so the cache is as it was exactly when they were stored in it already.
-/
import CultNet.Lib.Batch
import CultNet.Proofs.ReplicationPaths

namespace CultNet

/-- Every put stores one envelope or fails and leaves the cache as it was; `made` is the envelope
that a `put` makes of a value. -/
structure TypedCultCache.Atomic {Cache : Type} (cultCache : TypedCultCache Cache)
    (made : (T : Type) → [TypedEntry T] → String → T → String → CultCacheEnvelope) : Prop where
  snapshot_nodup : ∀ cache, ((cultCache.snapshot cache).map CultCacheEnvelope.identity).Nodup
  putEnvelope_ok : ∀ (T : Type) [DatabaseEntry T] (cache cache' : Cache)
    (envelope : CultCacheEnvelope) (value : T),
    cultCache.putEnvelope T cache envelope = (.ok value, cache') →
    ∀ e, e ∈ cultCache.snapshot cache' ↔
      e = envelope ∨ e ∈ cultCache.snapshot cache ∧ e.identity ≠ envelope.identity
  putEnvelope_error : ∀ (T : Type) [DatabaseEntry T] (cache cache' : Cache)
    (envelope : CultCacheEnvelope) (error : String),
    cultCache.putEnvelope T cache envelope = (.error error, cache') → cache' = cache
  put_ok : ∀ (T : Type) [TypedEntry T] (cache cache' : Cache) (key : String) (value value' : T)
    (now : String), cultCache.put T cache key value now = (.ok value', cache') →
    ∀ e, e ∈ cultCache.snapshot cache' ↔ e = made T key value now ∨
      e ∈ cultCache.snapshot cache ∧ e.identity ≠ (made T key value now).identity
  put_error : ∀ (T : Type) [TypedEntry T] (cache cache' : Cache) (key : String) (value : T)
    (now error : String), cultCache.put T cache key value now = (.error error, cache') →
    cache' = cache

namespace DocumentRegistry

variable {Cache : Type} (cultCache : TypedCultCache Cache)
variable (made : (T : Type) → [TypedEntry T] → String → T → String → CultCacheEnvelope)
variable (T : Type) [entry : TypedEntry T] (registry : DocumentRegistry)

/-! ### Snapshots are batches -/

/-- The raw puts of a snapshot. -/
def rawPuts (binding : DocumentBinding) :
    Batch.Store Cache RawDocumentRecord CultCacheEnvelope (String × String) String T where
  holds := cultCache.snapshot
  identity := CultCacheEnvelope.identity
  put cache document := registry.applyRawDocumentPutMessage cultCache.toCultCache T cache
    (.documentPutRaw "snapshot-apply-raw" document)
  entryOf document := some (envelopeOf binding document)

/-- The typed puts of a snapshot, each document with the number of its put. -/
def typedPuts (clock : Nat → String) :
    Batch.Store Cache (DocumentRecord JsonValue × Nat) CultCacheEnvelope (String × String) String
      T where
  holds := cultCache.snapshot
  identity := CultCacheEnvelope.identity
  put cache p := registry.applyDocumentPutMessage cultCache T cache
    (.documentPut "snapshot-apply" p.1) (clock p.2)
  entryOf p :=
    match entry.fromValue p.1.payload with
    | .ok value => some (made T p.1.recordKey value (clock p.2))
    | .error _ => none

/-- The documents of a raw snapshot that carry the schema id of a binding. -/
def ownRaw (binding : DocumentBinding) (documents : List RawDocumentRecord) :
    List RawDocumentRecord :=
  documents.filter fun d => d.schemaId = binding.schemaId

/-- The documents of a typed snapshot that do. -/
def ownTyped (binding : DocumentBinding) (documents : List (DocumentRecord JsonValue)) :
    List (DocumentRecord JsonValue) :=
  documents.filter fun d => d.schemaId = binding.schemaId

theorem applyRawDocuments_eq_run (binding : DocumentBinding) (documents : List RawDocumentRecord) :
    ∀ cache : Cache,
      registry.applyRawDocuments cultCache.toCultCache T binding cache documents
        = (rawPuts cultCache T registry binding).run cache (ownRaw binding documents) := by
  induction documents with
  | nil => intro cache; rfl
  | cons document rest ih =>
      intro cache
      unfold applyRawDocuments
      by_cases hd : document.schemaId = binding.schemaId
      · have hown : ownRaw binding (document :: rest) = document :: ownRaw binding rest :=
          List.filter_cons_of_pos (by simpa using hd)
        have hput : (rawPuts cultCache T registry binding).put cache document
            = registry.applyRawDocumentPutMessage cultCache.toCultCache T cache
                (.documentPutRaw "snapshot-apply-raw" document) := rfl
        rw [if_neg (not_not.mpr hd), hown, Batch.Store.run, hput]
        simp only [ih]
        rcases registry.applyRawDocumentPutMessage cultCache.toCultCache T cache
          (.documentPutRaw "snapshot-apply-raw" document) with ⟨_ | value, between⟩
        · rfl
        · dsimp only
          rcases (rawPuts cultCache T registry binding).run between (ownRaw binding rest) with
            ⟨_ | applied, after⟩ <;> rfl
      · have hown : ownRaw binding (document :: rest) = ownRaw binding rest :=
          List.filter_cons_of_neg (by simpa using hd)
        rw [if_pos hd, hown]
        exact ih cache

theorem applyDocuments_eq_run (binding : DocumentBinding) (clock : Nat → String)
    (documents : List (DocumentRecord JsonValue)) : ∀ (puts : Nat) (cache : Cache),
      registry.applyDocuments cultCache T binding clock puts cache documents
        = (typedPuts cultCache made T registry clock).run cache
            ((ownTyped binding documents).zipIdx puts) := by
  induction documents with
  | nil => intro puts cache; rfl
  | cons document rest ih =>
      intro puts cache
      unfold applyDocuments
      by_cases hd : document.schemaId = binding.schemaId
      · have hown : ownTyped binding (document :: rest) = document :: ownTyped binding rest :=
          List.filter_cons_of_pos (by simpa using hd)
        have hput : (typedPuts cultCache made T registry clock).put cache (document, puts)
            = registry.applyDocumentPutMessage cultCache T cache
                (.documentPut "snapshot-apply" document) (clock puts) := rfl
        rw [if_neg (not_not.mpr hd), hown, List.zipIdx_cons, Batch.Store.run, hput]
        simp only [ih]
        rcases registry.applyDocumentPutMessage cultCache T cache
          (.documentPut "snapshot-apply" document) (clock puts) with ⟨_ | value, between⟩
        · rfl
        · dsimp only
          rcases (typedPuts cultCache made T registry clock).run between
            ((ownTyped binding rest).zipIdx (puts + 1)) with ⟨_ | applied, after⟩ <;> rfl
      · have hown : ownTyped binding (document :: rest) = ownTyped binding rest :=
          List.filter_cons_of_neg (by simpa using hd)
        rw [if_pos hd, hown]
        exact ih puts cache

/-! ### Every put is all or nothing -/

section

variable {cultCache made T registry}

theorem rawPuts_atomic (hcache : cultCache.Atomic made) {binding : DocumentBinding}
    (hbinding : registry.requireBinding entry.type = .ok binding) :
    (rawPuts cultCache T registry binding).Atomic where
  unique := hcache.snapshot_nodup
  put_ok {s s' document value} h := by
    simp only [rawPuts, applyRawDocumentPutMessage, hbinding] at h
    by_cases hd : document.schemaId = binding.schemaId
    · rw [if_neg (not_not.mpr hd)] at h
      exact ⟨envelopeOf binding document, rfl, hcache.putEnvelope_ok T _ _ _ _ h⟩
    · rw [if_pos hd] at h
      cases h
  put_error {s s' document e} h := by
    simp only [rawPuts, applyRawDocumentPutMessage, hbinding] at h
    by_cases hd : document.schemaId = binding.schemaId
    · rw [if_neg (not_not.mpr hd)] at h
      exact hcache.putEnvelope_error T _ _ _ _ h
    · rw [if_pos hd] at h
      cases h
      rfl

theorem typedPuts_atomic (hcache : cultCache.Atomic made) {binding : DocumentBinding}
    (hbinding : registry.requireBinding entry.type = .ok binding) (clock : Nat → String) :
    (typedPuts cultCache made T registry clock).Atomic where
  unique := hcache.snapshot_nodup
  put_ok {s s' p value} h := by
    simp only [typedPuts, applyDocumentPutMessage, hbinding] at h ⊢
    by_cases hd : p.1.schemaId = binding.schemaId
    · rw [if_neg (not_not.mpr hd)] at h
      cases hread : entry.fromValue p.1.payload with
      | error e =>
          rw [hread] at h
          cases h
      | ok read =>
          rw [hread] at h
          exact ⟨_, rfl, hcache.put_ok T _ _ _ _ _ _ h⟩
    · rw [if_pos hd] at h
      cases h
  put_error {s s' p e} h := by
    simp only [typedPuts, applyDocumentPutMessage, hbinding] at h
    by_cases hd : p.1.schemaId = binding.schemaId
    · rw [if_neg (not_not.mpr hd)] at h
      cases hread : entry.fromValue p.1.payload with
      | error e =>
          rw [hread] at h
          cases h
          rfl
      | ok read =>
          rw [hread] at h
          exact hcache.put_error T _ _ _ _ _ _ h
    · rw [if_pos hd] at h
      cases h
      rfl

/-- In a lawful cache the raw put that fails is the first of a payload that does not decode. -/
theorem failsAt_rawPuts_iff (lawful : cultCache.toCultCache.Lawful) {bindings : List DocumentBinding}
    {binding : DocumentBinding} (hb : (registerAll bindings).binding entry.type = some binding)
    (documents : List RawDocumentRecord) (cache : Cache) (n : Nat) :
    (rawPuts cultCache T (registerAll bindings) binding).FailsAt cache (ownRaw binding documents) n ↔
      (∃ d, (ownRaw binding documents)[n]? = some d ∧ ¬∃ value, entry.decode d.payload = .ok value) ∧
        ∀ d ∈ (ownRaw binding documents).take n, ∃ value, entry.decode d.payload = .ok value := by
  have hput : ∀ cache, ∀ d ∈ ownRaw binding documents,
      (rawPuts cultCache T (registerAll bindings) binding).put cache d
        = cultCache.putEnvelope T cache (envelopeOf binding d) := by
    intro cache d hd
    exact applyRawDocumentPutMessage_eq hb cache "snapshot-apply-raw"
      (by simpa using (List.mem_filter.mp hd).2)
  refine Batch.Store.failsAt_iff_of_decided ?_ ?_
  · rintro cache d hd ⟨value, hvalue⟩
    obtain ⟨cache', htaken, -⟩ := lawful.putEnvelope_ok T cache (envelopeOf binding d) value
      (mem_of_binding hb).2 hvalue
    exact ⟨value, cache', (hput cache d hd).trans htaken⟩
  · intro cache d hd hnone
    cases hdecode : entry.decode d.payload with
    | ok value => exact absurd ⟨value, hdecode⟩ hnone
    | error error =>
        obtain ⟨failure, cache', hfails⟩ :=
          lawful.putEnvelope_error T cache (envelopeOf binding d) error hdecode
        exact ⟨failure, cache', (hput cache d hd).trans hfails⟩

end

/-! ### All or nothing -/

/-- The cache holds what it held. -/
def Unchanged (cache cache' : Cache) : Prop :=
  ∀ e, e ∈ cultCache.snapshot cache' ↔ e ∈ cultCache.snapshot cache

/-- In front of the first raw document whose put fails, each document was in the cache already as
it is put, unless a later one of them replaces it. -/
def RawHarmless (cache : Cache) (response : Message) : Prop :=
  ∀ binding messageId documents n, registry.requireBinding entry.type = .ok binding →
    response = .snapshotResponseRaw messageId documents →
    (rawPuts cultCache T registry binding).FailsAt cache (ownRaw binding documents) n →
    ∀ e ∈ (rawPuts cultCache T registry binding).standing
        ((rawPuts cultCache T registry binding).entries ((ownRaw binding documents).take n)),
      e ∈ cultCache.snapshot cache

/-- The same for typed documents. -/
def TypedHarmless (clock : Nat → String) (cache : Cache) (response : Message) : Prop :=
  ∀ binding messageId documents n, registry.requireBinding entry.type = .ok binding →
    response = .snapshotResponse messageId documents →
    (typedPuts cultCache made T registry clock).FailsAt cache
      (ownTyped binding documents).zipIdx n →
    ∀ e ∈ (typedPuts cultCache made T registry clock).standing
        ((typedPuts cultCache made T registry clock).entries
          ((ownTyped binding documents).zipIdx.take n)),
      e ∈ cultCache.snapshot cache

variable {cultCache made T registry}

theorem applyRawSnapshotResponse_unchanged_iff (hcache : cultCache.Atomic made)
    {cache cache' : Cache} {response : Message} {e : String}
    (h : registry.applyRawSnapshotResponse cultCache.toCultCache T cache response =
      (.error e, cache')) :
    Unchanged cultCache cache cache' ↔ RawHarmless cultCache T registry cache response := by
  by_cases hraw : ∃ messageId documents, response = .snapshotResponseRaw messageId documents
  case neg =>
    have hsame : cache' = cache := by
      unfold applyRawSnapshotResponse at h
      split at h
      · exact absurd ⟨_, _, rfl⟩ hraw
      · cases h
        rfl
    subst hsame
    exact ⟨fun _ _ messageId documents _ _ hresponse =>
      absurd ⟨messageId, documents, hresponse⟩ hraw, fun _ _ => Iff.rfl⟩
  obtain ⟨messageId, documents, rfl⟩ := hraw
  unfold applyRawSnapshotResponse at h
  cases hbinding : registry.requireBinding entry.type with
  | error failure =>
      simp only [hbinding] at h
      cases h
      refine ⟨fun _ binding _ _ _ hok => ?_, fun _ _ => Iff.rfl⟩
      rw [hbinding] at hok
      cases hok
  | ok binding =>
      simp only [hbinding, applyRawDocuments_eq_run] at h
      rw [Unchanged, RawHarmless]
      refine (Batch.Store.run_error_unchanged_iff (rawPuts_atomic hcache hbinding) h).trans ?_
      constructor
      · rintro hall _ _ _ n hok ⟨⟩
        rw [hbinding] at hok
        cases hok
        exact hall n
      · intro hall n
        exact hall binding messageId documents n hbinding rfl

theorem applySnapshotResponse_unchanged_iff (hcache : cultCache.Atomic made)
    {clock : Nat → String} {cache cache' : Cache} {response : Message} {e : String}
    (h : registry.applySnapshotResponse cultCache T clock cache response = (.error e, cache')) :
    Unchanged cultCache cache cache' ↔
      TypedHarmless cultCache made T registry clock cache response := by
  by_cases htyped : ∃ messageId documents, response = .snapshotResponse messageId documents
  case neg =>
    have hsame : cache' = cache := by
      unfold applySnapshotResponse at h
      split at h
      · exact absurd ⟨_, _, rfl⟩ htyped
      · cases h
        rfl
    subst hsame
    exact ⟨fun _ _ messageId documents _ _ hresponse =>
      absurd ⟨messageId, documents, hresponse⟩ htyped, fun _ _ => Iff.rfl⟩
  obtain ⟨messageId, documents, rfl⟩ := htyped
  unfold applySnapshotResponse at h
  cases hbinding : registry.requireBinding entry.type with
  | error failure =>
      simp only [hbinding] at h
      cases h
      refine ⟨fun _ binding _ _ _ hok => ?_, fun _ _ => Iff.rfl⟩
      rw [hbinding] at hok
      cases hok
  | ok binding =>
      simp only [hbinding, applyDocuments_eq_run cultCache made] at h
      rw [Unchanged, TypedHarmless]
      refine (Batch.Store.run_error_unchanged_iff
        (typedPuts_atomic hcache hbinding clock) h).trans ?_
      constructor
      · rintro hall _ _ _ n hok ⟨⟩
        rw [hbinding] at hok
        cases hok
        exact hall n
      · intro hall n
        exact hall binding messageId documents n hbinding rfl

/-- A snapshot that fails, raw or typed, has left the cache as it was exactly when the documents in
front of the one that failed were in the cache already. -/
theorem snapshot_unchanged_iff (hcache : cultCache.Atomic made) (registry : DocumentRegistry)
    (cache : Cache) (response : Message) :
    (∀ e cache', registry.applyRawSnapshotResponse cultCache.toCultCache T cache response =
        (.error e, cache') →
      (Unchanged cultCache cache cache' ↔ RawHarmless cultCache T registry cache response)) ∧
    ∀ clock e cache', registry.applySnapshotResponse cultCache T clock cache response =
        (.error e, cache') →
      (Unchanged cultCache cache cache' ↔
        TypedHarmless cultCache made T registry clock cache response) :=
  ⟨fun _ _ h => applyRawSnapshotResponse_unchanged_iff hcache h,
    fun _ _ _ h => applySnapshotResponse_unchanged_iff hcache h⟩

end DocumentRegistry

/-! ### In memory -/

/-- The envelope that the cache in memory makes of a value. -/
def memoryMade (T : Type) [entry : TypedEntry T] (key : String) (value : T) (now : String) :
    CultCacheEnvelope where
  key := key
  type := entry.type
  payload :=
    match entry.encode value with
    | .ok payload => payload
    | .error _ => []
  storedAt := now
  schemaId := none

theorem typedMemoryCache_atomic : typedMemoryCache.Atomic memoryMade where
  snapshot_nodup cache := cache.nodup
  putEnvelope_ok T entry cache cache' envelope value h := by
    simp only [typedMemoryCache, memoryCache] at h
    split at h
    · cases h
    · cases h
      simp [typedMemoryCache, memoryCache, MemoryCache.put]
  putEnvelope_error T entry cache cache' envelope error h := by
    simp only [typedMemoryCache, memoryCache] at h
    split at h
    · cases h
      rfl
    · cases h
  put_ok T entry cache cache' key value value' now h := by
    obtain ⟨payload, hencode, rfl, rfl⟩ := typedMemoryCache_put_ok h
    simp [typedMemoryCache, memoryCache, MemoryCache.put, memoryMade, hencode]
  put_error T entry cache cache' key value now error h := by
    simp only [typedMemoryCache] at h
    cases hencode : entry.encode value with
    | error e =>
        rw [hencode] at h
        cases h
        rfl
    | ok payload =>
        rw [hencode] at h
        cases h

namespace DocumentRegistry

/-- The registry of octets. -/
def octets : DocumentRegistry := registerAll [{ schemaId := "a", documentType := "octet" }]

/-- An octet, and a document of its schema that is none. -/
def octetThenNone : Message :=
  .snapshotResponseRaw "m" [⟨"a", "k", "t", .messagepack, [7], none, none, none, none⟩,
    ⟨"a", "l", "t", .messagepack, [], none, none, none, none⟩]

/-- The same as typed documents. -/
def typedOctetThenNone : Message :=
  .snapshotResponse "m" [⟨"a", "k", "t", .number (.posInt 7), none, none, none, none⟩,
    ⟨"a", "l", "t", .null, none, none, none, none⟩]

/-- What a cache holds of the octet. -/
def heldOctet (schemaId : Option String) : CultCacheEnvelope where
  key := "k"
  type := "octet"
  payload := [7]
  storedAt := "t"
  schemaId := schemaId

/-- The octet was in the cache already. -/
theorem snapshot_unchanged_repeated :
    let cache : MemoryCache := ⟨[heldOctet (some "a")], List.nodup_singleton _⟩
    ∃ e cache', octets.applyRawSnapshotResponse memoryCache Octet cache octetThenNone =
        (.error e, cache') ∧ Unchanged typedMemoryCache cache cache' := by
  intro cache
  refine ⟨_, _, rfl, ?_⟩
  refine ((snapshot_unchanged_iff (T := Octet) typedMemoryCache_atomic octets cache
    octetThenNone).1 _ _ rfl).mpr ?_
  rintro binding _ _ n hbinding ⟨⟩ hfails
  cases hbinding
  have hn : n = 1 := hfails.unique (.later rfl (.here rfl))
  subst hn
  decide

/-- A new octet in front of the document that fails stays in the cache, raw or typed. -/
theorem snapshot_half_applied :
    typedMemoryCache.Atomic memoryMade ∧
    (∃ e cache', octets.applyRawSnapshotResponse memoryCache Octet ⟨[], List.nodup_nil⟩
        octetThenNone = (.error e, cache') ∧
      ¬ Unchanged typedMemoryCache ⟨[], List.nodup_nil⟩ cache') ∧
    ∃ e cache', octets.applySnapshotResponse typedMemoryCache Octet (fun _ => "t")
        ⟨[], List.nodup_nil⟩ typedOctetThenNone = (.error e, cache') ∧
      ¬ Unchanged typedMemoryCache ⟨[], List.nodup_nil⟩ cache' := by
  refine ⟨typedMemoryCache_atomic, ⟨_, _, rfl, fun h => ?_⟩, ⟨_, _, rfl, fun h => ?_⟩⟩
  · have hheld := (h (heldOctet (some "a"))).mp (by decide)
    cases hheld
  · have hheld := (h (heldOctet none)).mp (by decide)
    cases hheld

end DocumentRegistry

end CultNet
