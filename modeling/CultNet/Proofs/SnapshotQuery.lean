/-
The snapshot exchange between a client and a server.

Each side is a loop with a list of what it has seen; its success is a condition
on the whole list of records, and what it returns is a filter of that list.  The
server filters by two lists, the client by pairs.  An honest exchange succeeds
exactly when no allowed record of the source has an expected schema id and an
expected key without being expected itself.  A dishonest one can leave records out
but can put none in, and what an honest server withholds has no part in its answer.
-/
import CultNet.Lib.Fallible
import CultNet.SnapshotQuery

namespace CultNet

namespace Snapshot

theorem requireNonEmpty_eq_ok {value field : String} :
    requireNonEmpty value field = .ok () ↔ isBlank value = false := by
  unfold requireNonEmpty
  cases isBlank value <;> simp

theorem rejectDuplicatesFrom_eq_ok {label : String} {values : List String} :
    ∀ {seen : List String}, rejectDuplicatesFrom label seen values = .ok () ↔
      (∀ v ∈ values, isBlank v = false) ∧ values.Nodup ∧ ∀ v ∈ values, v ∉ seen := by
  induction values with
  | nil => intro seen; simp [rejectDuplicatesFrom]
  | cons value rest ih =>
      intro seen
      unfold rejectDuplicatesFrom
      rw [Fallible.check_bind_eq_ok, requireNonEmpty_eq_ok]
      by_cases hseen : value ∈ seen
      · rw [if_pos hseen]
        simp [hseen]
      · rw [if_neg hseen, ih, List.nodup_cons]
        simp only [List.mem_cons, forall_eq_or_imp, not_or]
        constructor
        · rintro ⟨hv, hblank, hnodup, hfresh⟩
          exact ⟨⟨hv, hblank⟩, ⟨fun h => (hfresh value h).1 rfl, hnodup⟩, hseen,
            fun v hvr => (hfresh v hvr).2⟩
        · rintro ⟨⟨hv, hblank⟩, ⟨hnot, hnodup⟩, -, hfresh⟩
          exact ⟨hv, hblank, hnodup, fun v hvr => ⟨fun h => hnot (h ▸ hvr), hfresh v hvr⟩⟩

/-- The terms of a request, where they are given, are not blank and not repeated. -/
def Distinct (values : Option (List String)) : Prop :=
  ∀ terms, values = some terms → (∀ v ∈ terms, isBlank v = false) ∧ terms.Nodup

theorem rejectDuplicates_eq_ok {label : String} {values : Option (List String)} :
    rejectDuplicates values label = .ok () ↔ Distinct values := by
  unfold rejectDuplicates Distinct
  cases values with
  | none => simp
  | some terms => simp [rejectDuplicatesFrom_eq_ok]

end Snapshot

/-! ### The server -/

/-- The records a server selects: allowed, and in the requested lists where these are given. -/
def Selected (policy : ReadOnlySnapshotPolicy) (requestedSchemas requestedKeys : Option (List String))
    (document : RawDocumentRecord) : Bool :=
  policy.allows document.schemaId document.recordKey &&
    requestedSchemas.all (fun schemas => schemas.contains document.schemaId) &&
    requestedKeys.all (fun keys => keys.contains document.recordKey)

/-- Every record has a registered schema. -/
def Registered (registry : DocumentRegistry) (documents : List RawDocumentRecord) : Prop :=
  ∀ d ∈ documents, (registry.bindingBySchemaId d.schemaId).isSome

section Server

variable {registry : DocumentRegistry} {policy : ReadOnlySnapshotPolicy}
  {requestedSchemas requestedKeys : Option (List String)}

/-- Past the checks, a record is kept if it is selected. -/
theorem selectRecords_cons {seen : List RecordIdentity} {document : RawDocumentRecord}
    {rest : List RawDocumentRecord} (hseen : document.identity ∉ seen)
    (hregistered : (registry.bindingBySchemaId document.schemaId).isSome) :
    selectRecords registry policy requestedSchemas requestedKeys seen (document :: rest) =
      (selectRecords registry policy requestedSchemas requestedKeys (document.identity :: seen)
        rest).map fun selected =>
          if Selected policy requestedSchemas requestedKeys document then document :: selected
          else selected := by
  rw [selectRecords, if_neg hseen, if_neg (by simp [Option.isSome_iff_ne_none.mp hregistered])]
  generalize selectRecords registry policy requestedSchemas requestedKeys
    (document.identity :: seen) rest = later
  have hany (values : Option (List String)) (v : String) :
      (values.any fun vs => !vs.contains v) = !values.all fun vs => vs.contains v := by
    cases values <;> rfl
  rw [hany, hany]
  unfold Selected
  cases policy.allows document.schemaId document.recordKey <;>
    cases requestedSchemas.all fun schemas => schemas.contains document.schemaId <;>
    cases requestedKeys.all fun keys => keys.contains document.recordKey <;>
    cases later <;> rfl

/-- The loop of the server succeeds when the identities are new and the schemas registered, and
returns the selected records. -/
theorem selectRecords_eq_ok {documents selected : List RawDocumentRecord} :
    ∀ {seen : List RecordIdentity},
      selectRecords registry policy requestedSchemas requestedKeys seen documents = .ok selected ↔
        (documents.map RawDocumentRecord.identity).Nodup ∧
        (∀ d ∈ documents, d.identity ∉ seen) ∧ Registered registry documents ∧
        selected = documents.filter (Selected policy requestedSchemas requestedKeys) := by
  induction documents generalizing selected with
  | nil =>
      intro seen
      rw [selectRecords, Except.ok.injEq]
      constructor
      · intro h
        exact ⟨List.nodup_nil, by simp, by simp [Registered], h.symm⟩
      · intro h
        exact h.2.2.2.symm
  | cons document rest ih =>
      intro seen
      by_cases hseen : document.identity ∈ seen
      · rw [selectRecords, if_pos hseen]
        simp [hseen]
      by_cases hregistered : (registry.bindingBySchemaId document.schemaId).isSome
      case neg =>
        rw [selectRecords, if_neg hseen, if_pos (by simpa using hregistered)]
        simp [Registered, hregistered]
      rw [selectRecords_cons hseen hregistered]
      have hmap : ∀ {x : Except String (List RawDocumentRecord)}
          {f : List RawDocumentRecord → List RawDocumentRecord},
          x.map f = .ok selected ↔ ∃ l, x = .ok l ∧ f l = selected := by
        intro x f
        cases x <;> simp [Except.map]
      rw [hmap, List.filter_cons]
      simp only [ih, Registered, List.map_cons, List.nodup_cons, List.mem_cons, not_or,
        forall_eq_or_imp]
      constructor
      · rintro ⟨l, ⟨hnodup, hfresh, hreg, rfl⟩, rfl⟩
        refine ⟨⟨?_, hnodup⟩, ⟨hseen, fun d hd => (hfresh d hd).2⟩, ⟨hregistered, hreg⟩, rfl⟩
        intro h
        obtain ⟨d, hd, heq⟩ := List.mem_map.mp h
        exact (hfresh d hd).1 heq
      · rintro ⟨⟨hnot, hnodup⟩, ⟨-, hfresh⟩, ⟨-, hreg⟩, rfl⟩
        exact ⟨_, ⟨hnodup, fun d hd =>
          ⟨fun heq => hnot (heq ▸ List.mem_map_of_mem hd), hfresh d hd⟩, hreg, rfl⟩, rfl⟩

/-- What the server answers to a request. -/
theorem serveReadOnlyRawSnapshot_eq_ok {documents : List RawDocumentRecord} {messageId : String}
    {schemaIds recordKeys : Option (List String)} {response : Message} :
    serveReadOnlyRawSnapshot registry policy (.ok documents)
        (.snapshotRequest messageId schemaIds recordKeys) = .ok response ↔
      isBlank messageId = false ∧ Snapshot.Distinct schemaIds ∧ Snapshot.Distinct recordKeys ∧
      (documents.map RawDocumentRecord.identity).Nodup ∧ Registered registry documents ∧
      response = .snapshotResponseRaw messageId
        (documents.filter (Selected policy schemaIds recordKeys)) := by
  unfold serveReadOnlyRawSnapshot
  dsimp only
  rw [Fallible.check_bind_eq_ok, Fallible.check_bind_eq_ok, Fallible.check_bind_eq_ok,
    Fallible.ok_bind, Fallible.bind_eq_ok, Snapshot.requireNonEmpty_eq_ok,
    Snapshot.rejectDuplicates_eq_ok, Snapshot.rejectDuplicates_eq_ok]
  refine and_congr_right fun _ => and_congr_right fun _ => and_congr_right fun _ => ?_
  simp only [selectRecords_eq_ok]
  constructor
  · rintro ⟨selected, ⟨hnodup, -, hreg, rfl⟩, h⟩
    cases h
    exact ⟨hnodup, hreg, rfl⟩
  · rintro ⟨hnodup, hreg, rfl⟩
    exact ⟨_, ⟨hnodup, fun d _ => List.not_mem_nil, hreg, rfl⟩, rfl⟩

/-- The policy grants the record. -/
def Granted (policy : ReadOnlySnapshotPolicy) (document : RawDocumentRecord) : Bool :=
  policy.allows document.schemaId document.recordKey

/-- What is selected depends on what is granted only. -/
theorem filter_selected_congr {source other : List RawDocumentRecord}
    (h : source.filter (Granted policy) = other.filter (Granted policy)) :
    source.filter (Selected policy requestedSchemas requestedKeys)
      = other.filter (Selected policy requestedSchemas requestedKeys) := by
  have hsplit : ∀ documents : List RawDocumentRecord,
      documents.filter (Selected policy requestedSchemas requestedKeys)
        = (documents.filter (Granted policy)).filter fun d =>
            requestedSchemas.all (fun schemas => schemas.contains d.schemaId) &&
              requestedKeys.all (fun keys => keys.contains d.recordKey) := by
    intro documents
    rw [List.filter_filter]
    refine List.filter_congr fun d _ => ?_
    rw [Selected, Granted, Bool.and_assoc, Bool.and_comm]
  rw [hsplit, hsplit, h]

/-- A server answers exactly the requests and sources that pass its checks, with the records that
the policy grants and the request asks for; records that are not granted have no part in the
answer. -/
theorem serveReadOnlyRawSnapshot_exposes (registry : DocumentRegistry)
    (policy : ReadOnlySnapshotPolicy) (messageId : String)
    (schemaIds recordKeys : Option (List String)) :
    (∀ source response, serveReadOnlyRawSnapshot registry policy (.ok source)
        (.snapshotRequest messageId schemaIds recordKeys) = .ok response ↔
      isBlank messageId = false ∧ Snapshot.Distinct schemaIds ∧ Snapshot.Distinct recordKeys ∧
      (source.map RawDocumentRecord.identity).Nodup ∧ Registered registry source ∧
      response = .snapshotResponseRaw messageId
        (source.filter (Selected policy schemaIds recordKeys))) ∧
    ∀ source other response otherResponse,
      serveReadOnlyRawSnapshot registry policy (.ok source)
        (.snapshotRequest messageId schemaIds recordKeys) = .ok response →
      serveReadOnlyRawSnapshot registry policy (.ok other)
        (.snapshotRequest messageId schemaIds recordKeys) = .ok otherResponse →
      source.filter (Granted policy) = other.filter (Granted policy) →
      response = otherResponse := by
  refine ⟨fun source response => serveReadOnlyRawSnapshot_eq_ok, ?_⟩
  intro source other response otherResponse hsource hother hgranted
  have hresponse := (serveReadOnlyRawSnapshot_eq_ok.mp hsource).2.2.2.2.2
  have hotherResponse := (serveReadOnlyRawSnapshot_eq_ok.mp hother).2.2.2.2.2
  rw [hresponse, hotherResponse, filter_selected_congr hgranted]

/-- What is withheld is not shown, and its absence would not show either. -/
theorem serveReadOnlyRawSnapshot_exposes_granted :
    let registry := DocumentRegistry.registerAll [{ schemaId := "a", documentType := "t" }]
    let policy : ReadOnlySnapshotPolicy := { allowedRecords := .ofList [toLex ("a", "1")] }
    let granted : RawDocumentRecord := ⟨"a", "1", "now", .messagepack, [1], none, none, none, none⟩
    let withheld : RawDocumentRecord := ⟨"a", "2", "now", .messagepack, [2], none, none, none, none⟩
    let response := Message.snapshotResponseRaw "m" [granted]
    serveReadOnlyRawSnapshot registry policy (.ok [granted, withheld])
        (.snapshotRequest "m" (some ["a"]) none) = .ok response ∧
      ∀ other, serveReadOnlyRawSnapshot registry policy (.ok [granted])
        (.snapshotRequest "m" (some ["a"]) none) = .ok other → response = other := by
  intro registry policy granted withheld response
  have hselected :
      [granted, withheld].filter (Selected policy (some ["a"]) none) = [granted] := by
    decide +kernel
  have hserve : serveReadOnlyRawSnapshot registry policy (.ok [granted, withheld])
      (.snapshotRequest "m" (some ["a"]) none) = .ok response := by
    refine ((serveReadOnlyRawSnapshot_exposes registry policy "m" (some ["a"]) none).1 _ _).mpr
      ⟨by decide, ?_, ?_, by decide, by unfold Registered; decide,
        by rw [hselected]⟩
    · rintro _ ⟨⟩
      decide
    · rintro _ ⟨⟩
  exact ⟨hserve, fun other hother =>
    (serveReadOnlyRawSnapshot_exposes registry policy "m" (some ["a"]) none).2 _ _ _ _ hserve hother
      (by decide)⟩

end Server

/-! ### The client -/

/-- The metadata of a record is what the expectation fixes, where it fixes something. -/
structure SnapshotSourceExpectation.Matches (expected : SnapshotSourceExpectation)
    (document : RawDocumentRecord) : Prop where
  runtimeId : ∀ v, expected.runtimeId = some v → document.sourceRuntimeId = some v
  agentId : ∀ v, expected.agentId = some v → document.sourceAgentId = some v
  role : ∀ v, expected.role = some v → document.sourceRole = some v
  tags : ∀ v, expected.tags = some v → document.tags = some v

theorem requireExpectedMetadata_eq_ok {field : String} {expected actual : Option String}
    {identity : RecordIdentity} :
    requireExpectedMetadata field expected actual identity = .ok () ↔
      ∀ v, expected = some v → actual = some v := by
  unfold requireExpectedMetadata
  cases expected with
  | none => simp
  | some value => by_cases h : actual = some value <;> simp [h]

theorem requireExpectedTags_eq_ok {expected actual : Option (List String)}
    {identity : RecordIdentity} :
    requireExpectedTags expected actual identity = .ok () ↔
      ∀ v, expected = some v → actual = some v := by
  unfold requireExpectedTags
  cases expected with
  | none => simp
  | some value => by_cases h : actual = some value <;> simp [h]

namespace RawSnapshotQuery

/-- The query expects the record, and its metadata is as expected. -/
def Expects (query : RawSnapshotQuery) (document : RawDocumentRecord) : Prop :=
  ∃ expected, query.expectations[document.identity]? = some expected ∧ expected.Matches document

theorem checkRecords_eq_ok {query : RawSnapshotQuery} {documents : List RawDocumentRecord} :
    ∀ {seen : List RecordIdentity}, query.checkRecords seen documents = .ok () ↔
      (documents.map RawDocumentRecord.identity).Nodup ∧
      (∀ d ∈ documents, d.identity ∉ seen) ∧ ∀ d ∈ documents, query.Expects d := by
  induction documents with
  | nil => intro seen; simp [checkRecords]
  | cons document rest ih =>
      intro seen
      unfold checkRecords
      by_cases hseen : document.identity ∈ seen
      · rw [if_pos hseen]
        simp [hseen]
      rw [if_neg hseen]
      cases hexpected : query.expectations[document.identity]? with
      | none => simp [Expects, hexpected]
      | some expected =>
          dsimp only
          rw [Fallible.check_bind_eq_ok, Fallible.check_bind_eq_ok, Fallible.check_bind_eq_ok,
            Fallible.check_bind_eq_ok, requireExpectedMetadata_eq_ok,
            requireExpectedMetadata_eq_ok, requireExpectedMetadata_eq_ok,
            requireExpectedTags_eq_ok, ih]
          have hmatch : query.Expects document ↔ expected.Matches document := by
            simp [Expects, hexpected]
          simp only [List.map_cons, List.nodup_cons, List.mem_cons, not_or, forall_eq_or_imp,
            hmatch]
          constructor
          · rintro ⟨hruntime, hagent, hrole, htags, hnodup, hfresh, hrest⟩
            refine ⟨⟨?_, hnodup⟩, ⟨hseen, fun d hd => (hfresh d hd).2⟩,
              ⟨hruntime, hagent, hrole, htags⟩, hrest⟩
            intro h
            obtain ⟨d, hd, heq⟩ := List.mem_map.mp h
            exact (hfresh d hd).1 heq
          · rintro ⟨⟨hnot, hnodup⟩, ⟨-, hfresh⟩, h, hrest⟩
            exact ⟨h.runtimeId, h.agentId, h.role, h.tags, hnodup, fun d hd =>
              ⟨fun heq => hnot (heq ▸ List.mem_map_of_mem hd), hfresh d hd⟩, hrest⟩

/-- A response is accepted when it answers this query and lists expected records once. -/
theorem acceptResponse_eq_ok {query : RawSnapshotQuery} {messageId : String}
    {documents records : List RawDocumentRecord} :
    query.acceptResponse (.snapshotResponseRaw messageId documents) = .ok records ↔
      messageId = query.messageId ∧ (documents.map RawDocumentRecord.identity).Nodup ∧
      (∀ d ∈ documents, query.Expects d) ∧ records = documents := by
  unfold acceptResponse
  dsimp only
  by_cases hid : messageId = query.messageId
  · rw [if_neg (not_not.mpr hid), Fallible.check_bind_eq_ok, checkRecords_eq_ok]
    simp [hid, pure, Except.pure, and_assoc, eq_comm (a := records)]
  · rw [if_pos hid]
    simp [hid]

/-! ### The query and its request -/

/-- What a query expects has names that are not blank. -/
theorem addExpectations_ok {records : List SnapshotRecordExpectation} :
    ∀ {before after : Std.ExtTreeMap RecordIdentity SnapshotSourceExpectation},
      addExpectations before records = .ok after → ∀ k : RecordIdentity, k ∈ after →
        k ∈ before ∨ isBlank k.1 = false ∧ isBlank k.2 = false := by
  induction records with
  | nil =>
      intro before after h k hk
      cases h
      exact .inl hk
  | cons record rest ih =>
      intro before after h k hk
      rw [addExpectations, Fallible.check_bind_eq_ok, Fallible.check_bind_eq_ok,
        Snapshot.requireNonEmpty_eq_ok, Snapshot.requireNonEmpty_eq_ok] at h
      obtain ⟨hschema, hkey, h⟩ := h
      dsimp only at h
      split at h
      · cases h
      · rcases ih h k hk with hk | hk
        · rcases Std.ExtTreeMap.mem_insert.mp hk with hk | hk
          · cases Std.LawfulEqCmp.compare_eq_iff_eq.mp hk
            exact .inr ⟨hschema, hkey⟩
          · exact .inl hk
        · exact .inr hk

theorem new_ok {messageId : String} {records : List SnapshotRecordExpectation}
    {query : RawSnapshotQuery} (h : new messageId records = .ok query) :
    isBlank query.messageId = false ∧
      ∀ k ∈ query.expectations, isBlank k.1 = false ∧ isBlank k.2 = false := by
  rw [new, Fallible.check_bind_eq_ok, Snapshot.requireNonEmpty_eq_ok] at h
  obtain ⟨hid, h⟩ := h
  split at h
  · cases h
  · obtain ⟨expectations, hadd, h⟩ := Fallible.bind_eq_ok.mp h
    cases h
    exact ⟨hid, fun k hk => (addExpectations_ok hadd k hk).resolve_left (by simp)⟩

/-- What a query expects is what it was made to expect. -/
theorem addExpectations_getElem? {records : List SnapshotRecordExpectation} :
    ∀ {before after : Std.ExtTreeMap RecordIdentity SnapshotSourceExpectation},
      addExpectations before records = .ok after → ∀ (k : RecordIdentity) source,
        after[k]? = some source ↔ before[k]? = some source ∨
          ∃ r ∈ records, toLex (r.schemaId, r.recordKey) = k ∧ r.source = source := by
  induction records with
  | nil =>
      intro before after h k source
      cases h
      simp
  | cons record rest ih =>
      intro before after h k source
      rw [addExpectations, Fallible.check_bind_eq_ok, Fallible.check_bind_eq_ok] at h
      obtain ⟨-, -, h⟩ := h
      dsimp only at h
      split at h
      · cases h
      · rename_i hfresh
        rw [ih h, OrderedMap.getElem?_insert_eq]
        simp only [List.mem_cons, exists_eq_or_imp]
        -- the pair is not expected yet, so nothing is overwritten
        by_cases hk : toLex (record.schemaId, record.recordKey) = k
        · subst hk
          have hnone : before[(toLex (record.schemaId, record.recordKey) : RecordIdentity)]? = none :=
            Std.ExtTreeMap.getElem?_eq_none (by simpa using hfresh)
          simp [hnone]
        · simp [hk]

theorem new_getElem? {messageId : String} {records : List SnapshotRecordExpectation}
    {query : RawSnapshotQuery} (h : new messageId records = .ok query) (k : RecordIdentity)
    (source : SnapshotSourceExpectation) :
    query.messageId = messageId ∧ (query.expectations[k]? = some source ↔
      ∃ r ∈ records, toLex (r.schemaId, r.recordKey) = k ∧ r.source = source) := by
  rw [new, Fallible.check_bind_eq_ok] at h
  obtain ⟨-, h⟩ := h
  split at h
  · cases h
  · obtain ⟨expectations, hadd, h⟩ := Fallible.bind_eq_ok.mp h
    cases h
    exact ⟨rfl, by simp [addExpectations_getElem? hadd]⟩

/-- One of the two lists of a request: a component of every expected pair, once and in order. -/
def asked (query : RawSnapshotQuery) (component : RecordIdentity → String) : List String :=
  (Std.ExtTreeSet.ofList (query.expectations.keys.map component)).toList

theorem request_eq (query : RawSnapshotQuery) : query.request =
    .snapshotRequest query.messageId (some (query.asked fun k => k.1))
      (some (query.asked fun k => k.2)) := rfl

theorem mem_asked {query : RawSnapshotQuery} {component : RecordIdentity → String} {v : String} :
    v ∈ query.asked component ↔ ∃ k ∈ query.expectations, component k = v := by
  unfold asked
  rw [Std.ExtTreeSet.mem_toList, Std.ExtTreeSet.mem_ofList, List.contains_iff_mem, List.mem_map]
  simp [Std.ExtTreeMap.mem_keys]

theorem nodup_asked (query : RawSnapshotQuery) (component : RecordIdentity → String) :
    (query.asked component).Nodup :=
  Std.ExtTreeSet.distinct_toList.imp fun h heq => h (Std.LawfulEqCmp.compare_eq_iff_eq.mpr heq)

/-! ### Any answer at all -/

/-- Only a raw snapshot response is accepted. -/
theorem acceptResponse_response {query : RawSnapshotQuery} {response : Message}
    {records : List RawDocumentRecord} (h : query.acceptResponse response = .ok records) :
    ∃ messageId documents, response = .snapshotResponseRaw messageId documents := by
  cases response with
  | snapshotResponseRaw messageId documents => exact ⟨messageId, documents, rfl⟩
  | _ => cases h

/-- Whatever the exchange returns, records come out of it exactly when it is a raw snapshot response
to this query, each of whose records is listed once and is one of those asked for, with the metadata
that was asked for; and then they are the records of the response. -/
theorem queryReadOnlyRawSnapshot_eq_ok {messageId : String}
    {expected : List SnapshotRecordExpectation} {query : RawSnapshotQuery}
    (hnew : new messageId expected = .ok query) (exchange : Message → Except String Message)
    (records : List RawDocumentRecord) :
    query.queryReadOnlyRawSnapshot exchange = .ok records ↔
      exchange query.request = .ok (.snapshotResponseRaw messageId records) ∧
      (records.map RawDocumentRecord.identity).Nodup ∧
      ∀ d ∈ records, ∃ r ∈ expected, r.schemaId = d.schemaId ∧ r.recordKey = d.recordKey ∧
        r.source.Matches d := by
  have hexpects : ∀ d : RawDocumentRecord, query.Expects d ↔
      ∃ r ∈ expected, r.schemaId = d.schemaId ∧ r.recordKey = d.recordKey ∧ r.source.Matches d := by
    intro d
    have hidentity : ∀ r : SnapshotRecordExpectation,
        toLex (r.schemaId, r.recordKey) = d.identity ↔
          r.schemaId = d.schemaId ∧ r.recordKey = d.recordKey := by
      intro r
      simp [RawDocumentRecord.identity]
    constructor
    · rintro ⟨source, hsource, hmatches⟩
      obtain ⟨r, hr, hrd, rfl⟩ := (new_getElem? hnew d.identity source).2.mp hsource
      exact ⟨r, hr, ((hidentity r).mp hrd).1, ((hidentity r).mp hrd).2, hmatches⟩
    · rintro ⟨r, hr, hschema, hkey, hmatches⟩
      exact ⟨r.source, (new_getElem? hnew d.identity r.source).2.mpr
        ⟨r, hr, (hidentity r).mpr ⟨hschema, hkey⟩, rfl⟩, hmatches⟩
  have hid : query.messageId = messageId := (new_getElem? hnew (toLex ("", "")) {}).1
  rw [queryReadOnlyRawSnapshot, Fallible.bind_eq_ok]
  simp only [← hexpects]
  constructor
  · rintro ⟨response, hexchange, haccept⟩
    obtain ⟨responseId, documents, rfl⟩ := acceptResponse_response haccept
    obtain ⟨rfl, hnodup, hrecords, rfl⟩ := acceptResponse_eq_ok.mp haccept
    exact ⟨by rw [hexchange, hid], hnodup, hrecords⟩
  · rintro ⟨hexchange, hnodup, hrecords⟩
    exact ⟨_, hexchange, acceptResponse_eq_ok.mpr ⟨hid.symm, hnodup, hrecords, rfl⟩⟩

/-- One record asked for, with its runtime, and delivered. -/
theorem queryReadOnlyRawSnapshot_eq_ok_one :
    ∃ query,
      new "m" [{ schemaId := "a", recordKey := "1", source := { runtimeId := some "r" } }] = .ok query ∧
      query.queryReadOnlyRawSnapshot (fun _ => .ok (.snapshotResponseRaw "m"
          [⟨"a", "1", "now", .messagepack, [1], some "r", none, none, none⟩])) =
        .ok [⟨"a", "1", "now", .messagepack, [1], some "r", none, none, none⟩] := by
  have hnew : new "m" [{ schemaId := "a", recordKey := "1", source := { runtimeId := some "r" } }] =
      .ok ⟨"m", (∅ : Std.ExtTreeMap RecordIdentity SnapshotSourceExpectation).insert
        (toLex ("a", "1")) { runtimeId := some "r" }⟩ := rfl
  refine ⟨_, hnew, (queryReadOnlyRawSnapshot_eq_ok hnew _ _).mpr ⟨rfl, by decide, ?_⟩⟩
  intro d hd
  cases List.mem_singleton.mp hd
  refine ⟨_, List.mem_singleton_self _, rfl, rfl, ?_⟩
  exact ⟨by simp, nofun, nofun, nofun⟩

/-! ### The exchange -/

/-- The records an honest exchange should deliver. -/
def wanted (query : RawSnapshotQuery) (policy : ReadOnlySnapshotPolicy)
    (source : List RawDocumentRecord) : List RawDocumentRecord :=
  source.filter fun d =>
    query.expectations.contains d.identity && policy.allows d.schemaId d.recordKey

/-- An honest exchange delivers the expected and allowed records exactly when every allowed record
of the source whose schema id and whose key are each asked for is itself expected. -/
theorem honest_exchange_iff {messageId : String} {records : List SnapshotRecordExpectation}
    {query : RawSnapshotQuery} (hnew : new messageId records = .ok query)
    (registry : DocumentRegistry) (policy : ReadOnlySnapshotPolicy)
    (source : List RawDocumentRecord) (hunique : (source.map RawDocumentRecord.identity).Nodup)
    (hregistered : Registered registry source)
    (hmetadata : ∀ d ∈ source, ∀ expected, query.expectations[d.identity]? = some expected →
      expected.Matches d) :
    (∃ response,
      serveReadOnlyRawSnapshot registry policy (.ok source) query.request = .ok response ∧
        query.acceptResponse response = .ok (query.wanted policy source)) ↔
      ∀ d ∈ source, policy.allows d.schemaId d.recordKey →
        (∃ k ∈ query.expectations, k.1 = d.schemaId) →
        (∃ k ∈ query.expectations, k.2 = d.recordKey) → d.identity ∈ query.expectations := by
  obtain ⟨hid, hnames⟩ := new_ok hnew
  have hserve : ∀ response,
      serveReadOnlyRawSnapshot registry policy (.ok source) query.request = .ok response ↔
        response = .snapshotResponseRaw query.messageId (source.filter (Selected policy
          (some (query.asked fun k => k.1)) (some (query.asked fun k => k.2)))) := by
    intro response
    rw [request_eq, serveReadOnlyRawSnapshot_eq_ok]
    refine ⟨fun h => h.2.2.2.2.2, fun h => ⟨hid, ?_, ?_, hunique, hregistered, h⟩⟩
    · rintro _ ⟨⟩
      refine ⟨fun v hv => ?_, nodup_asked ..⟩
      obtain ⟨k, hk, rfl⟩ := mem_asked.mp hv
      exact (hnames k hk).1
    · rintro _ ⟨⟩
      refine ⟨fun v hv => ?_, nodup_asked ..⟩
      obtain ⟨k, hk, rfl⟩ := mem_asked.mp hv
      exact (hnames k hk).2
  have hselected : ∀ d : RawDocumentRecord, Selected policy (some (query.asked fun k => k.1))
      (some (query.asked fun k => k.2)) d = true ↔
        policy.allows d.schemaId d.recordKey = true ∧
          (∃ k ∈ query.expectations, k.1 = d.schemaId) ∧
          ∃ k ∈ query.expectations, k.2 = d.recordKey := by
    intro d
    simp only [Selected, Option.all_some, Bool.and_eq_true, List.contains_iff_mem, mem_asked,
      and_assoc]
  constructor
  · rintro ⟨response, hresponse, haccept⟩ d hd hallowed hschema hkey
    rw [(hserve response).mp hresponse, acceptResponse_eq_ok] at haccept
    obtain ⟨expected, hexpected, -⟩ := haccept.2.2.1 d
      (List.mem_filter.mpr ⟨hd, (hselected d).mpr ⟨hallowed, hschema, hkey⟩⟩)
    exact Std.ExtTreeMap.mem_iff_isSome_getElem?.mpr (by rw [hexpected]; rfl)
  · intro hcondition
    have hwanted : source.filter (Selected policy (some (query.asked fun k => k.1))
        (some (query.asked fun k => k.2))) = query.wanted policy source := by
      refine List.filter_congr fun d hd => ?_
      rw [Bool.eq_iff_iff, hselected, Bool.and_eq_true, Std.ExtTreeMap.contains_iff_mem]
      constructor
      · rintro ⟨hallowed, hschema, hkey⟩
        exact ⟨hcondition d hd hallowed hschema hkey, hallowed⟩
      · rintro ⟨hexpected, hallowed⟩
        exact ⟨hallowed, ⟨d.identity, hexpected, rfl⟩, ⟨d.identity, hexpected, rfl⟩⟩
    refine ⟨_, (hserve _).mpr rfl, ?_⟩
    rw [hwanted, acceptResponse_eq_ok]
    refine ⟨rfl, hunique.sublist (List.filter_sublist.map _), ?_, rfl⟩
    intro d hd
    obtain ⟨hd, hexpected⟩ := List.mem_filter.mp hd
    rw [Bool.and_eq_true, Std.ExtTreeMap.contains_iff_mem,
      Std.ExtTreeMap.mem_iff_isSome_getElem?] at hexpected
    obtain ⟨expected, he⟩ := Option.isSome_iff_exists.mp hexpected.1
    exact ⟨expected, he, hmetadata d hd expected he⟩

/-- Two records of one schema, one of them asked for. -/
theorem honest_exchange_single :
    ∃ query response, new "m" [{ schemaId := "a", recordKey := "1" }] = .ok query ∧
      serveReadOnlyRawSnapshot
        (DocumentRegistry.registerAll [{ schemaId := "a", documentType := "t" }])
        { allowedRecords := .ofList [toLex ("a", "1"), toLex ("a", "2")] }
        (.ok [⟨"a", "1", "now", .messagepack, [1], none, none, none, none⟩,
          ⟨"a", "2", "now", .messagepack, [2], none, none, none, none⟩]) query.request =
          .ok response ∧
      query.acceptResponse response =
        .ok [⟨"a", "1", "now", .messagepack, [1], none, none, none, none⟩] := by
  have hnew : new "m" [{ schemaId := "a", recordKey := "1" }] =
      .ok ⟨"m", (∅ : Std.ExtTreeMap RecordIdentity SnapshotSourceExpectation).insert
        (toLex ("a", "1")) {}⟩ := rfl
  obtain ⟨response, hserve, haccept⟩ := (honest_exchange_iff hnew
    (DocumentRegistry.registerAll [{ schemaId := "a", documentType := "t" }])
    { allowedRecords := .ofList [toLex ("a", "1"), toLex ("a", "2")] }
    [⟨"a", "1", "now", .messagepack, [1], none, none, none, none⟩,
      ⟨"a", "2", "now", .messagepack, [2], none, none, none, none⟩]
    (by decide) (by unfold Registered; decide) (by
      intro d _ expected h
      rw [OrderedMap.getElem?_insert_eq] at h
      split at h
      · cases h
        exact ⟨nofun, nofun, nofun, nofun⟩
      · simp at h)).mpr (by
      intro d hd _ _ ⟨k, hk, hkey⟩
      simp only [Std.ExtTreeMap.mem_insert, Std.LawfulEqCmp.compare_eq_iff_eq,
        Std.ExtTreeMap.not_mem_empty, or_false] at hk ⊢
      subst hk
      rcases List.mem_pair.mp hd with rfl | rfl
      · rfl
      · exact absurd hkey (by decide))
  exact ⟨_, response, hnew, hserve, haccept⟩

/-- Of the pairs (a, 1) and (b, 2) the request mentions a and 2, and the server sends what it holds
under (a, 2). -/
theorem honest_exchange_refused :
    ∃ query response,
      new "m" [{ schemaId := "a", recordKey := "1" }, { schemaId := "b", recordKey := "2" }] =
        .ok query ∧
      serveReadOnlyRawSnapshot
        (DocumentRegistry.registerAll [{ schemaId := "a", documentType := "t" }])
        { allowedRecords := .ofList [toLex ("a", "2")] }
        (.ok [⟨"a", "2", "now", .messagepack, [1], none, none, none, none⟩]) query.request =
          .ok response ∧
      query.acceptResponse response =
        .error "snapshot response contains unexpected record \"a\"/\"2\"" := by
  refine ⟨_, _, rfl, rfl, ?_⟩
  decide +kernel

end RawSnapshotQuery

end CultNet
