/-
The registry's two indexes, and what raw replication carries over.

After any sequence of registrations each index holds, at every key, the last
binding registered under that key.  The two indexes are written together but not
kept together: a type that is bound again leaves its old schema id behind, and a
schema id that is taken over leaves its old type behind.  They agree all along a
sequence exactly when no two bindings of it share one of the two and not the
other.
-/
import Mathlib.Data.List.Find
import CultNet.Lib.Fallible
import CultNet.Replication

namespace CultNet

namespace DocumentRegistry

/-! ### What the indexes hold -/

/-- The type index holds the last binding of each type. -/
theorem binding_registerAll (bindings : List DocumentBinding) (documentType : String) :
    (registerAll bindings).binding documentType =
      bindings.reverse.find? fun b => b.documentType = documentType := by
  have h : ∀ r : DocumentRegistry, (bindings.foldl register r).bindingsByType =
      bindings.foldl (fun m b => m.insert b.documentType b) r.bindingsByType := by
    induction bindings with
    | nil => intro r; rfl
    | cons b rest ih => intro r; exact ih (r.register b)
  rw [binding, registerAll, h, OrderedMap.getElem?_foldl_insert]
  simp [new]

/-- The schema index holds the last binding of each schema id. -/
theorem bindingBySchemaId_registerAll (bindings : List DocumentBinding) (schemaId : String) :
    (registerAll bindings).bindingBySchemaId schemaId =
      bindings.reverse.find? fun b => b.schemaId = schemaId := by
  have h : ∀ r : DocumentRegistry, (bindings.foldl register r).bindingsBySchemaId =
      bindings.foldl (fun m b => m.insert b.schemaId b) r.bindingsBySchemaId := by
    induction bindings with
    | nil => intro r; rfl
    | cons b rest ih => intro r; exact ih (r.register b)
  rw [bindingBySchemaId, registerAll, h, OrderedMap.getElem?_foldl_insert]
  simp [new]

/-- What the type index holds was registered, under that type. -/
theorem mem_of_binding {bindings : List DocumentBinding} {documentType : String}
    {b : DocumentBinding} (h : (registerAll bindings).binding documentType = some b) :
    b ∈ bindings ∧ b.documentType = documentType := by
  rw [binding_registerAll] at h
  exact ⟨List.mem_reverse.mp (List.mem_of_find?_eq_some h), by simpa using List.find?_some h⟩

/-- What the schema index holds was registered, under that schema id. -/
theorem mem_of_bindingBySchemaId {bindings : List DocumentBinding} {schemaId : String}
    {b : DocumentBinding} (h : (registerAll bindings).bindingBySchemaId schemaId = some b) :
    b ∈ bindings ∧ b.schemaId = schemaId := by
  rw [bindingBySchemaId_registerAll] at h
  exact ⟨List.mem_reverse.mp (List.mem_of_find?_eq_some h), by simpa using List.find?_some h⟩

theorem exists_binding {bindings : List DocumentBinding} {b : DocumentBinding}
    (hb : b ∈ bindings) : ∃ c, (registerAll bindings).binding b.documentType = some c := by
  rw [binding_registerAll, ← Option.isSome_iff_exists, List.find?_isSome]
  exact ⟨b, List.mem_reverse.mpr hb, by simp⟩

theorem exists_bindingBySchemaId {bindings : List DocumentBinding} {b : DocumentBinding}
    (hb : b ∈ bindings) : ∃ c, (registerAll bindings).bindingBySchemaId b.schemaId = some c := by
  rw [bindingBySchemaId_registerAll, ← Option.isSome_iff_exists, List.find?_isSome]
  exact ⟨b, List.mem_reverse.mpr hb, by simp⟩

/-! ### Agreement -/

/-- The indexes agree: each binding is found by its schema id exactly when it is found by its
type. -/
def IndexesAgree (registry : DocumentRegistry) : Prop :=
  ∀ schemaId b, registry.bindingBySchemaId schemaId = some b ↔
    registry.binding b.documentType = some b ∧ b.schemaId = schemaId

/-- Bindings that share the type share the schema id, and the other way round. -/
def Unambiguous (bindings : List DocumentBinding) : Prop :=
  ∀ a ∈ bindings, ∀ b ∈ bindings, a.documentType = b.documentType ↔ a.schemaId = b.schemaId

theorem Unambiguous.mono {p bindings : List DocumentBinding} (h : Unambiguous bindings)
    (hp : p <+: bindings) : Unambiguous p :=
  fun a ha b hb => h a (hp.subset ha) b (hp.subset hb)

/-- Where types and schema ids go together, the last binding of a type is the last binding of its
schema id. -/
theorem Unambiguous.indexesAgree {bindings : List DocumentBinding} (h : Unambiguous bindings) :
    IndexesAgree (registerAll bindings) := by
  intro schemaId b
  have hfind : b ∈ bindings →
      (registerAll bindings).binding b.documentType =
        (registerAll bindings).bindingBySchemaId b.schemaId := by
    intro hb
    rw [binding_registerAll, bindingBySchemaId_registerAll]
    refine List.find?_congr fun c hc => ?_
    rw [decide_eq_decide]
    exact h c (List.mem_reverse.mp hc) b hb
  constructor
  · intro hs
    obtain ⟨hb, hid⟩ := mem_of_bindingBySchemaId hs
    subst hid
    exact ⟨(hfind hb).trans hs, rfl⟩
  · intro ⟨ht, hid⟩
    subst hid
    rw [← hfind (mem_of_binding ht).1]
    exact ht

@[simp] theorem registerAll_append (p : List DocumentBinding) (b : DocumentBinding) :
    registerAll (p ++ [b]) = (registerAll p).register b := by
  simp [registerAll]

@[simp] theorem binding_register (r : DocumentRegistry) (b : DocumentBinding) (t : String) :
    (r.register b).binding t = if b.documentType = t then some b else r.binding t :=
  OrderedMap.getElem?_insert_eq ..

@[simp] theorem bindingBySchemaId_register (r : DocumentRegistry) (b : DocumentBinding)
    (s : String) :
    (r.register b).bindingBySchemaId s =
      if b.schemaId = s then some b else r.bindingBySchemaId s :=
  OrderedMap.getElem?_insert_eq ..

/-- One more registration that leaves the indexes in agreement is no exception to what went
before. -/
theorem Unambiguous.snoc {p : List DocumentBinding} {b : DocumentBinding} (h : Unambiguous p)
    (hagree : IndexesAgree (registerAll (p ++ [b]))) : Unambiguous (p ++ [b]) := by
  rw [registerAll_append] at hagree
  have key : ∀ a ∈ p, a.documentType = b.documentType ↔ a.schemaId = b.schemaId := by
    intro a ha
    constructor
    · intro htype
      by_contra hschema
      obtain ⟨c, hc⟩ := exists_bindingBySchemaId ha
      obtain ⟨hcp, hcs⟩ := mem_of_bindingBySchemaId hc
      have hct : c.documentType = b.documentType := ((h c hcp a ha).mpr hcs).trans htype
      -- The superseded schema id still finds `c`, whose type now finds `b`.
      have hfound := ((hagree a.schemaId c).mp (by
        rw [bindingBySchemaId_register, if_neg (Ne.symm hschema), hc])).1
      rw [binding_register, if_pos hct.symm] at hfound
      cases hfound
      exact hschema hcs.symm
    · intro hschema
      by_contra htype
      obtain ⟨c, hc⟩ := exists_binding ha
      obtain ⟨hcp, hct⟩ := mem_of_binding hc
      have hcs : c.schemaId = b.schemaId := ((h c hcp a ha).mp hct).trans hschema
      -- The superseded type still finds `c`, whose schema id now finds `b`.
      have hfound := (hagree c.schemaId c).mpr ⟨by
        rw [binding_register, hct, if_neg (Ne.symm htype), hc], rfl⟩
      rw [bindingBySchemaId_register, if_pos hcs.symm] at hfound
      cases hfound
      exact htype hct.symm
  intro x hx y hy
  rcases List.mem_append.mp hx with hx | hx
  · rcases List.mem_append.mp hy with hy | hy
    · exact h x hx y hy
    · cases List.mem_singleton.mp hy
      exact key x hx
  · cases List.mem_singleton.mp hx
    rcases List.mem_append.mp hy with hy | hy
    · exact eq_comm.trans ((key y hy).trans eq_comm)
    · cases List.mem_singleton.mp hy
      exact Iff.intro (fun _ => rfl) (fun _ => rfl)

/-- The indexes agree after every registration of a sequence exactly when no two bindings of the
sequence share a type or a schema id without sharing both. -/
theorem indexesAgree_throughout_iff (bindings : List DocumentBinding) :
    (∀ p, p <+: bindings → IndexesAgree (registerAll p)) ↔ Unambiguous bindings := by
  constructor
  · intro hagree
    induction bindings using List.reverseRecOn with
    | nil => exact fun a ha => absurd ha List.not_mem_nil
    | append_singleton p b ih =>
        have hp : Unambiguous p :=
          ih fun q hq => hagree q (hq.trans (List.prefix_append p [b]))
        exact hp.snoc (hagree _ (List.prefix_refl _))
  · intro h p hp
    exact (h.mono hp).indexesAgree

/-- A type bound again: its first schema id still finds the first binding. -/
theorem indexes_disagree :
    ¬ IndexesAgree (registerAll
      [{ schemaId := "a", documentType := "t" }, { schemaId := "b", documentType := "t" }]) := by
  intro h
  have hfound := ((h "a" { schemaId := "a", documentType := "t" }).mp (by decide)).1
  revert hfound
  decide

/-! ### Raw replication -/

/-- Without filters every envelope is projected. -/
theorem rawDocuments_none (registry : DocumentRegistry) (envelopes : List CultCacheEnvelope) :
    registry.rawDocuments none none envelopes =
      envelopes.mapM registry.rawDocumentRecordFromEnvelope := by
  induction envelopes with
  | nil => rfl
  | cons envelope rest ih =>
      rw [List.mapM_cons, ← ih, rawDocuments, snapshotDocuments]
      unfold rawDocumentRecordFromEnvelope
      cases registry.requireBinding envelope.type with
      | error e => rfl
      | ok binding => rfl

theorem requireBinding_eq_ok {registry : DocumentRegistry} {t : String} {b : DocumentBinding} :
    registry.requireBinding t = .ok b ↔ registry.binding t = some b := by
  unfold requireBinding
  cases registry.binding t with
  | none => simp
  | some b' => simp

/-- The record an envelope becomes when its type has this binding. -/
def recordOf (binding : DocumentBinding) (envelope : CultCacheEnvelope) : RawDocumentRecord where
  schemaId := binding.schemaId
  recordKey := envelope.key
  storedAt := envelope.storedAt
  payloadEncoding := .messagepack
  payload := envelope.payload

theorem rawDocumentRecordFromEnvelope_eq_ok {registry : DocumentRegistry}
    {envelope : CultCacheEnvelope} {document : RawDocumentRecord} :
    registry.rawDocumentRecordFromEnvelope envelope = .ok document ↔
      ∃ b, registry.binding envelope.type = some b ∧ document = recordOf b envelope := by
  unfold rawDocumentRecordFromEnvelope
  rw [Fallible.bind_eq_ok]
  refine exists_congr fun b => ?_
  rw [requireBinding_eq_ok]
  exact and_congr_right fun _ => ⟨fun h => by cases h; rfl, fun h => by subst h; rfl⟩

/-- The envelope a record becomes on the other side. -/
def envelopeOf (binding : DocumentBinding) (document : RawDocumentRecord) :
    CultCacheEnvelope where
  key := document.recordKey
  type := binding.documentType
  payload := document.payload
  storedAt := document.storedAt
  schemaId := some binding.schemaId

variable {Cache : Type} {cultCache : CultCache Cache} {T : Type} [entry : DatabaseEntry T]

theorem applyRawDocumentPutMessage_eq {registry : DocumentRegistry} {binding : DocumentBinding}
    (hb : registry.binding entry.type = some binding) (cache : Cache) (messageId : String)
    {document : RawDocumentRecord} (hd : document.schemaId = binding.schemaId) :
    registry.applyRawDocumentPutMessage cultCache T cache (.documentPutRaw messageId document) =
      cultCache.putEnvelope T cache (envelopeOf binding document) := by
  unfold applyRawDocumentPutMessage
  simp only [requireBinding_eq_ok.mpr hb, hd, ne_eq, not_true_eq_false, if_false]
  rfl

/-- What of a response a type receives: the records that carry its schema id. -/
def addressed (binding : DocumentBinding) (documents : List RawDocumentRecord) :
    List CultCacheEnvelope :=
  (documents.filter fun d => d.schemaId = binding.schemaId).map (envelopeOf binding)

/-- Where their identities differ, these envelopes are stored over what was there. -/
def Stores (cultCache : CultCache Cache) (cache cache' : Cache)
    (envelopes : List CultCacheEnvelope) : Prop :=
  (envelopes.map CultCacheEnvelope.identity).Nodup →
    ∀ e, e ∈ cultCache.snapshot cache' ↔ e ∈ envelopes ∨
      e ∈ cultCache.snapshot cache ∧ e.identity ∉ envelopes.map CultCacheEnvelope.identity

theorem Stores.nil (cache : Cache) : Stores cultCache cache cache [] := by
  intro _ e
  simp

/-- One envelope is stored, and then the others. -/
theorem Stores.cons {cache between cache' : Cache} {envelope : CultCacheEnvelope}
    {envelopes : List CultCacheEnvelope}
    (hfirst : ∀ e, e ∈ cultCache.snapshot between ↔
      e = envelope ∨ e ∈ cultCache.snapshot cache ∧ e.identity ≠ envelope.identity)
    (hrest : Stores cultCache between cache' envelopes) :
    Stores cultCache cache cache' (envelope :: envelopes) := by
  intro hnodup e
  rw [List.map_cons, List.nodup_cons] at hnodup
  rw [hrest hnodup.2, hfirst, List.map_cons, List.mem_cons, List.mem_cons, not_or]
  constructor
  · rintro (h | ⟨rfl | ⟨h, hne⟩, hnot⟩)
    · exact .inl (.inr h)
    · exact .inl (.inl rfl)
    · exact .inr ⟨h, hne, hnot⟩
  · rintro ((rfl | h) | ⟨h, hne, hnot⟩)
    · exact .inr ⟨.inl rfl, hnodup.1⟩
    · exact .inl h
    · exact .inr ⟨.inr ⟨h, hne⟩, hnot⟩

section Apply

variable {bindings : List DocumentBinding} {binding : DocumentBinding}

/-- A successful application decoded every envelope it was sent, in order, and where their
identities differ it stored exactly these over what was there. -/
theorem applyRawDocuments_ok (lawful : cultCache.Lawful)
    (hb : (registerAll bindings).binding entry.type = some binding)
    {documents : List RawDocumentRecord} :
    ∀ {cache cache' : Cache} {applied : List T},
      (registerAll bindings).applyRawDocuments cultCache T binding cache documents =
        (.ok applied, cache') →
      (addressed binding documents).mapM (fun e => entry.decode e.payload) = .ok applied ∧
      (((addressed binding documents).map CultCacheEnvelope.identity).Nodup →
        ∀ e, e ∈ cultCache.snapshot cache' ↔ e ∈ addressed binding documents ∨
          e ∈ cultCache.snapshot cache ∧
            e.identity ∉ (addressed binding documents).map CultCacheEnvelope.identity) := by
  have htype : binding.documentType = entry.type := (mem_of_binding hb).2
  induction documents with
  | nil =>
      intro cache cache' applied h
      cases h
      exact ⟨rfl, Stores.nil cache⟩
  | cons document rest ih =>
      intro cache cache' applied h
      unfold applyRawDocuments at h
      by_cases hd : document.schemaId = binding.schemaId
      · rw [if_neg (not_not.mpr hd), applyRawDocumentPutMessage_eq hb cache _ hd] at h
        have hcons : addressed binding (document :: rest) =
            envelopeOf binding document :: addressed binding rest := by
          simp [addressed, hd]
        cases hdec : entry.decode (envelopeOf binding document).payload with
        | error e =>
            obtain ⟨e', c, hput⟩ := lawful.putEnvelope_error T cache _ e hdec
            rw [hput] at h
            cases h
        | ok value =>
            obtain ⟨c, hput, hmem⟩ := lawful.putEnvelope_ok T cache _ value htype hdec
            rw [hput] at h
            dsimp only at h
            split at h
            case h_1 => cases h
            case h_2 later c' hrest =>
              cases h
              obtain ⟨hlater, hstored⟩ := ih hrest
              rw [hcons]
              refine ⟨?_, Stores.cons hmem hstored⟩
              rw [List.mapM_cons, hdec, Fallible.ok_bind, hlater]
              rfl
      · rw [if_pos hd] at h
        have hcons : addressed binding (document :: rest) = addressed binding rest := by
          simp [addressed, hd]
        rw [hcons]
        exact ih h

end Apply

/-- The schema id a type is bound to. -/
def schemaOf (registry : DocumentRegistry) (documentType : String) : Option String :=
  (registry.binding documentType).map DocumentBinding.schemaId

/-- An envelope as it arrives under a binding. -/
def carried (binding : DocumentBinding) (envelope : CultCacheEnvelope) : CultCacheEnvelope :=
  { envelope with type := binding.documentType, schemaId := some binding.schemaId }

/-- What a binding is sent of some envelopes: each whose type is bound to its schema id. -/
theorem addressed_of_records {registry : DocumentRegistry} (binding : DocumentBinding)
    {envelopes : List CultCacheEnvelope} {documents : List RawDocumentRecord}
    (h : List.Forall₂ (fun e d => registry.rawDocumentRecordFromEnvelope e = .ok d) envelopes
      documents) :
    addressed binding documents =
      (envelopes.filter fun e => registry.schemaOf e.type = some binding.schemaId).map
        (carried binding) := by
  induction h with
  | nil => rfl
  | @cons envelope document rest documents hd _ ih =>
      obtain ⟨b, hb, rfl⟩ := rawDocumentRecordFromEnvelope_eq_ok.mp hd
      have hschema : registry.schemaOf envelope.type = some b.schemaId := by simp [schemaOf, hb]
      unfold addressed at ih ⊢
      rw [List.filter_cons, List.filter_cons, hschema]
      by_cases hs : b.schemaId = binding.schemaId
      · simp only [recordOf, hs, decide_true, if_true, List.map_cons]
        exact congrArg₂ _ rfl ih
      · simpa [recordOf, hs] using ih

/-- The envelopes of type `T`. -/
def ofType (T : Type) [entry : DatabaseEntry T] (envelopes : List CultCacheEnvelope) :
    List CultCacheEnvelope :=
  envelopes.filter fun e => e.type = entry.type

/-- The target holds the origin's envelopes of type `T` and nothing else, and the values that were
ingested are those of the origin's envelopes of type `T`. -/
structure FaithfulCopy (T : Type) [entry : DatabaseEntry T]
    (origin target : List CultCacheEnvelope) (applied : List T) : Prop where
  ofType : ∀ e ∈ target, e.type = entry.type
  content : (target.map CultCacheEnvelope.content).Perm
    ((DocumentRegistry.ofType T origin).map CultCacheEnvelope.content)
  ingested : (DocumentRegistry.ofType T origin).mapM (fun e => entry.decode e.payload) =
    .ok applied

/-- Envelopes of type `T` keep their identities under the binding of `T`. -/
theorem map_identity_carried {binding : DocumentBinding} (htype : binding.documentType = entry.type)
    {envelopes : List CultCacheEnvelope} (henvelopes : ∀ e ∈ envelopes, e.type = entry.type) :
    (envelopes.map (carried binding)).map CultCacheEnvelope.identity =
      envelopes.map CultCacheEnvelope.identity := by
  rw [List.map_map]
  refine List.map_congr_left fun e he => ?_
  simp [CultCacheEnvelope.identity, carried, htype, henvelopes e he]

/-- Storing exactly the envelopes of type `T` that came out of a snapshot is a faithful copy. -/
theorem faithfulCopy_of_carried (lawful : cultCache.Lawful) {binding : DocumentBinding}
    (htype : binding.documentType = entry.type) {origin target : Cache} {applied : List T}
    (hdecoded : (ofType T (cultCache.snapshot origin)).mapM (fun e => entry.decode e.payload) =
      .ok applied)
    (hstored : (((ofType T (cultCache.snapshot origin)).map (carried binding)).map
        CultCacheEnvelope.identity).Nodup →
      ∀ e, e ∈ cultCache.snapshot target ↔
        e ∈ (ofType T (cultCache.snapshot origin)).map (carried binding)) :
    FaithfulCopy T (cultCache.snapshot origin) (cultCache.snapshot target) applied := by
  have hnodup : (((ofType T (cultCache.snapshot origin)).map (carried binding)).map
      CultCacheEnvelope.identity).Nodup := by
    rw [map_identity_carried htype fun e he => by simpa using (List.mem_filter.mp he).2]
    exact (lawful.snapshot_nodup origin).sublist (List.filter_sublist.map _)
  have hmem := hstored hnodup
  refine ⟨?_, ?_, hdecoded⟩
  · intro e he
    obtain ⟨e', -, rfl⟩ := List.mem_map.mp ((hmem e).mp he)
    exact htype
  · have hperm : (cultCache.snapshot target).Perm
        ((ofType T (cultCache.snapshot origin)).map (carried binding)) :=
      (List.perm_ext_iff_of_nodup (lawful.snapshot_nodup target).of_map hnodup.of_map).mpr hmem
    have hcontent := hperm.map CultCacheEnvelope.content
    rw [List.map_map] at hcontent
    exact hcontent

/-- A raw snapshot applied to an empty cache is a faithful copy of the envelopes of type `T`
exactly when no envelope of another type is bound to the schema id of `T`. -/
theorem applyRawSnapshotResponse_faithful_iff (lawful : cultCache.Lawful)
    (bindings : List DocumentBinding) (origin target target' : Cache) (messageId : String)
    (response : Message) (applied : List T)
    (hcreate : (registerAll bindings).createRawSnapshotResponse cultCache origin messageId none
      none = .ok response)
    (hempty : cultCache.snapshot target = [])
    (happly : (registerAll bindings).applyRawSnapshotResponse cultCache T target response =
      (.ok applied, target')) :
    FaithfulCopy T (cultCache.snapshot origin) (cultCache.snapshot target') applied ↔
      ∀ e ∈ cultCache.snapshot origin,
        (registerAll bindings).schemaOf e.type = (registerAll bindings).schemaOf entry.type →
          e.type = entry.type := by
  obtain ⟨documents, hdocuments, hresponse⟩ := Fallible.bind_eq_ok.mp hcreate
  cases hresponse
  rw [rawDocuments_none, Fallible.mapM_eq_ok] at hdocuments
  unfold applyRawSnapshotResponse at happly
  dsimp only at happly
  split at happly
  case h_1 => cases happly
  case h_2 binding hrequire =>
    have hb := requireBinding_eq_ok.mp hrequire
    have hschema : (registerAll bindings).schemaOf entry.type = some binding.schemaId := by
      simp [schemaOf, hb]
    obtain ⟨hdecoded, hstored⟩ := applyRawDocuments_ok lawful hb happly
    rw [addressed_of_records binding hdocuments] at hdecoded hstored
    rw [hschema]
    set sent := (cultCache.snapshot origin).filter fun e =>
      (registerAll bindings).schemaOf e.type = some binding.schemaId
    have hdecoded : sent.mapM (fun e => entry.decode e.payload) = .ok applied := by
      rw [Fallible.mapM_eq_ok] at hdecoded ⊢
      exact List.forall₂_map_left_iff.mp hdecoded
    constructor
    · intro hcopy e he hs
      -- As many values were ingested as there are envelopes of type `T`, so nothing else was sent.
      have hlength : (ofType T (cultCache.snapshot origin)).length = sent.length := by
        rw [(Fallible.mapM_eq_ok.mp hcopy.ingested).length_eq,
          (Fallible.mapM_eq_ok.mp hdecoded).length_eq]
      have hsub : (ofType T (cultCache.snapshot origin)).Sublist sent := by
        refine List.monotone_filter_right _ fun e he => ?_
        have he : e.type = entry.type := by simpa using he
        simp [he, hschema]
      have hmem : e ∈ ofType T (cultCache.snapshot origin) := by
        rw [hsub.eq_of_length hlength]
        exact List.mem_filter.mpr ⟨he, by simpa using hs⟩
      simpa using (List.mem_filter.mp hmem).2
    · intro hforeign
      have hown : sent = ofType T (cultCache.snapshot origin) := by
        refine List.filter_congr fun e he => ?_
        rw [decide_eq_decide]
        exact ⟨hforeign e he, fun h => by rw [h, hschema]⟩
      rw [hown] at hdecoded hstored
      refine faithfulCopy_of_carried lawful (mem_of_binding hb).2 hdecoded fun hnodup e => ?_
      rw [hstored hnodup e, hempty]
      simp

end DocumentRegistry

/-! ### A cache in memory -/

/-- Envelopes, one for each type and key. -/
structure MemoryCache where
  envelopes : List CultCacheEnvelope
  nodup : (envelopes.map CultCacheEnvelope.identity).Nodup

/-- Store an envelope over what had its type and key. -/
def MemoryCache.put (cache : MemoryCache) (envelope : CultCacheEnvelope) : MemoryCache where
  envelopes :=
    envelope :: cache.envelopes.filter fun e => e.identity ≠ envelope.identity
  nodup := by
    rw [List.map_cons, List.nodup_cons]
    constructor
    · intro h
      obtain ⟨e, he, heq⟩ := List.mem_map.mp h
      exact absurd heq (by simpa using (List.mem_filter.mp he).2)
    · exact cache.nodup.sublist (List.filter_sublist.map _)

/-- The operations of a cache in memory. -/
def memoryCache : CultCache MemoryCache where
  snapshot cache := cache.envelopes
  putEnvelope _T entry cache envelope :=
    match entry.decode envelope.payload with
    | .error e => (.error e, cache)
    | .ok value => (.ok value, cache.put envelope)

theorem memoryCache_lawful : memoryCache.Lawful where
  snapshot_nodup cache := cache.nodup
  putEnvelope_ok _T _entry cache envelope value _ hdec := by
    refine ⟨cache.put envelope, by simp [memoryCache, hdec], fun e => ?_⟩
    simp [memoryCache, MemoryCache.put]
  putEnvelope_error _T _entry cache envelope error hdec :=
    ⟨error, cache, by simp [memoryCache, hdec]⟩

/-- An entry whose payload is one byte. -/
structure Octet where
  value : UInt8
  deriving DecidableEq

instance octetEntry : DatabaseEntry Octet where
  type := "octet"
  decode
    | [value] => .ok ⟨value⟩
    | _ => .error "expected one byte"

namespace DocumentRegistry

/-- An octet next to an envelope of another type, under schema ids of their own. -/
theorem applyRawSnapshotResponse_faithful_octet :
    FaithfulCopy Octet
      [{ key := "k", type := "octet", payload := [7], storedAt := "t", schemaId := none },
        { key := "k", type := "other", payload := [8], storedAt := "t", schemaId := none }]
      [{ key := "k", type := "octet", payload := [7], storedAt := "t", schemaId := some "a" }]
      [⟨7⟩] :=
  (applyRawSnapshotResponse_faithful_iff (T := Octet) memoryCache_lawful
    [{ schemaId := "a", documentType := "octet" }, { schemaId := "b", documentType := "other" }]
    ⟨[{ key := "k", type := "octet", payload := [7], storedAt := "t", schemaId := none },
      { key := "k", type := "other", payload := [8], storedAt := "t", schemaId := none }],
      by decide⟩
    ⟨[], List.nodup_nil⟩
    (MemoryCache.put ⟨[], List.nodup_nil⟩
      { key := "k", type := "octet", payload := [7], storedAt := "t", schemaId := some "a" })
    "m" _ [⟨7⟩] rfl rfl rfl).mpr (by decide)

/-- Two types bound to one schema id: an envelope of the other type is ingested as an octet. -/
theorem applyRawSnapshotResponse_ingests_foreign :
    ∃ (origin target target' : MemoryCache) (response : Message),
      (registerAll [{ schemaId := "a", documentType := "octet" },
        { schemaId := "a", documentType := "other" }]).createRawSnapshotResponse memoryCache
          origin "m" none none = .ok response ∧
      memoryCache.snapshot target = [] ∧
      (registerAll [{ schemaId := "a", documentType := "octet" },
        { schemaId := "a", documentType := "other" }]).applyRawSnapshotResponse memoryCache Octet
          target response = (.ok [⟨7⟩], target') ∧
      ¬ FaithfulCopy Octet (memoryCache.snapshot origin) (memoryCache.snapshot target') [⟨7⟩] := by
  refine ⟨⟨[{ key := "k", type := "other", payload := [7], storedAt := "t", schemaId := none }],
    by decide⟩, ⟨[], List.nodup_nil⟩, _, _, rfl, rfl, rfl, fun h => ?_⟩
  have hnone := h.ingested
  cases hnone

end DocumentRegistry

end CultNet
