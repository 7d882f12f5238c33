/-
A snapshot is always answered.

An envelope that a serving peer can put into a snapshot has one of the types it knows,
a key and a time that are not blank, and a payload (`Servable`).  Every handler stores
such envelopes only: what a client puts has passed the check of its message, and what
the peer stores itself is a note under the id that it was found under.  So in any state
that the peer can get to, whatever its clients did, a snapshot request without repeated
terms is answered with the records that it asks for, as they are, and the cache is left
as it is.
-/
import CultNet.Proofs.Contracts
import CultNet.Proofs.Interop.Notes
import CultNet.Proofs.SnapshotQuery

namespace CultNet.Interop

/-- A text is not blank where its beginning is not. -/
theorem isBlank_append {text : String} (h : isBlank text = false) (more : String) :
    isBlank (text ++ more) = false := by
  unfold isBlank at h ⊢
  rw [String.toList_append, List.all_append, h, Bool.false_and]

/-! ### What can be served -/

section Servable

variable [codecs : InteropCodecs]

/-- An envelope that can be part of a snapshot. -/
structure Servable (noteSchemaId : String) (envelope : CultCacheEnvelope) : Prop where
  type : ∃ b ∈ capabilityBindings noteSchemaId, b.documentType = envelope.type
  key : isBlank envelope.key = false
  storedAt : isBlank envelope.storedAt = false
  payload : envelope.payload.isEmpty = false

/-- What a peer is given is filled, and its notes have a schema of their own. -/
structure Peer.WellFormed (peer : Peer) : Prop where
  runtimeId : isBlank peer.config.runtimeId = false
  runtimeKind : isBlank peer.config.runtimeKind = false
  displayName : isBlank peer.config.displayName = false
  agentId : isBlank peer.config.agentId = false
  noteSchemaId : isBlank peer.noteSchemaId = false
  ownSchema : peer.noteSchemaId ∉
    [mutationIntentSchemaId, mutationReceiptSchemaId, fireCommandSchemaId, fireReceiptSchemaId]

variable {Cache : Type} {cultCache : DocumentCache Cache} {peer : Peer}

/-- Every envelope of a cache can be served. -/
def AllServable (cultCache : DocumentCache Cache) (peer : Peer) (cache : Cache) : Prop :=
  ∀ e ∈ cultCache.snapshot cache, Servable peer.noteSchemaId e

theorem AllServable.rewrites {cache cache' : Cache} {place : String × String}
    {stored : Option CultCacheEnvelope} (h : AllServable cultCache peer cache)
    (hrewrites : cultCache.Rewrites cache cache' place stored)
    (hstored : ∀ e, stored = some e → Servable peer.noteSchemaId e) :
    AllServable cultCache peer cache' := by
  intro e he
  rcases (hrewrites.2 e).mp he with hnew | ⟨hold, -⟩
  · exact hstored e hnew
  · exact h e hold

theorem isEmpty_of_encode (hcodecs : codecs.Lawful) {note : InteropNote} {payload : List UInt8}
    (h : codecs.note.encode note = .ok payload) : payload.isEmpty = false := by
  cases payload with
  | nil => exact absurd h (hcodecs.note.encode_ne_nil note)
  | cons b rest => rfl

variable (lawful : cultCache.Lawful) {cache cache' : Cache}

include lawful

/-- A record that passed the check of its message can be served. -/
theorem AllServable.applyRaw (h : AllServable cultCache peer cache) {T : Type}
    [entry : DatabaseEntry T] {messageId : String} {document : RawDocumentRecord}
    (hvalid : (Message.documentPutRaw messageId document).validate = .ok ())
    {result : Except String T}
    (happly : peer.documentRegistry.applyRawDocumentPutMessage cultCache.toCultCache T cache
      (.documentPutRaw messageId document) = (result, cache')) :
    AllServable cultCache peer cache' := by
  cases result with
  | error e =>
      rw [DocumentRegistry.applyRawDocumentPutMessage_error lawful happly]
      exact h
  | ok value =>
      obtain ⟨_, _, binding, hmessage, hb, -, -, hrewrites⟩ :=
        DocumentRegistry.applyRawDocumentPutMessage_ok lawful happly
      obtain ⟨-, rfl⟩ := Message.documentPutRaw.inj hmessage
      refine h.rewrites hrewrites fun e he => ?_
      rw [← Option.some.inj he]
      obtain ⟨-, hdocument⟩ := Fallible.check_bind_eq_ok.mp hvalid
      obtain ⟨-, hkey, hstoredAt, hpayload, -⟩ := RawDocumentRecord.validate_eq_ok.mp hdocument
      exact ⟨⟨binding, (DocumentRegistry.mem_of_binding hb).1, rfl⟩, hkey, hstoredAt, hpayload⟩

/-- A note that is stored under the id that it was found under can be served. -/
theorem AllServable.decorateNote (hcodecs : codecs.Lawful)
    (h : AllServable cultCache peer cache) (hids : AtOwnId (notesOf cultCache cache))
    {messageId now : String} {document : RawDocumentRecord} (hnow : isBlank now = false)
    (hvalid : (Message.documentPutRaw messageId document).validate = .ok ())
    {result : Except String (InteropMutationIntent × InteropNote)}
    (hdecorate : Interop.decorateNote cultCache peer cache (.documentPutRaw messageId document) now
      = (result, cache')) : AllServable cultCache peer cache' := by
  obtain ⟨put, stored, hput, ⟨-, rfl⟩ | ⟨intent, note, value, rfl, hnote, -, hstore⟩⟩ :=
    decorateNote_cases lawful hdecorate
  · exact h.applyRaw lawful hvalid hput
  have hstored := h.applyRaw lawful hvalid hput
  -- the note was found under its own id
  have hid : note.documentId = intent.targetDocumentId :=
    hids _ _ (by rw [← notesOf_applyIntent lawful hput]; exact hnote)
  obtain ⟨found, hfound, hidentity, -⟩ := lawful.held_eq_some.mp hnote
  have hfoundKey : found.key = intent.targetDocumentId := (Prod.mk.inj hidentity).2
  obtain ⟨-, envelope, hnowEq, hencode, hrewrites⟩ := lawful.rewrites_put hstore
  refine hstored.rewrites hrewrites fun e he => ?_
  obtain rfl := Option.some.inj he
  obtain ⟨htype, hkey⟩ := Prod.mk.inj (hrewrites.1 _ rfl)
  refine ⟨⟨_, List.mem_cons_self, htype.symm⟩, ?_, by rw [hnowEq]; exact hnow, ?_⟩
  · rw [hkey, hid, ← hfoundKey]
    exact (hstored found hfound).key
  · exact isEmpty_of_encode hcodecs hencode

/-- The cache that a peer begins with can be served, where what it pulled can. -/
theorem AllServable.servedCache (hcodecs : codecs.Lawful) (h : AllServable cultCache peer cache)
    {now : String} (hnow : isBlank now = false)
    (hserved : Interop.servedCache cultCache peer cache now = .ok cache') :
    AllServable cultCache peer cache' := by
  unfold Interop.servedCache at hserved
  simp only at hserved
  split at hserved
  · simp at hserved
  · rename_i value after hput
    obtain rfl := Except.ok.inj hserved
    obtain ⟨-, envelope, hnowEq, hencode, hrewrites⟩ := lawful.rewrites_put hput
    refine h.rewrites hrewrites fun e he => ?_
    obtain rfl := Option.some.inj he
    obtain ⟨htype, hkey⟩ := Prod.mk.inj (hrewrites.1 _ rfl)
    refine ⟨⟨_, List.mem_cons_self, htype.symm⟩, ?_, by rw [hnowEq]; exact hnow, ?_⟩
    · rw [hkey]
      exact isBlank_append (by decide) _
    · exact isEmpty_of_encode hcodecs hencode

/-- **Handling a message that passed its check keeps the cache such that it can be served.** -/
theorem AllServable.handleMessage (hcodecs : codecs.Lawful)
    (h : AllServable cultCache peer cache) (hids : AtOwnId (notesOf cultCache cache))
    {message : Message} (hvalid : message.validate = .ok ()) (readings : Readings) :
    AllServable cultCache peer
      (Interop.handleMessage cultCache peer cache message readings).cache := by
  unfold Interop.handleMessage
  split
  · exact h
  · exact h
  · exact h
  · rename_i messageId document
    simp only [handleRawPut]
    by_cases hintent : document.schemaId = mutationIntentSchemaId
    · rw [if_pos hintent]
      split
      · rename_i e after hdecorate
        exact h.decorateNote lawful hcodecs hids readings.filled.1 hvalid hdecorate
      · rename_i intent note after hdecorate
        exact h.decorateNote lawful hcodecs hids readings.filled.1 hvalid hdecorate
    · rw [if_neg hintent]
      by_cases hfire : document.schemaId = fireCommandSchemaId
      · rw [if_pos hfire]
        split
        · rename_i e after hput
          exact h.applyRaw lawful hvalid hput
        · rename_i command after hput
          exact h.applyRaw lawful hvalid hput
      · rw [if_neg hfire]
        exact h
  · exact h

end Servable

/-! ### What is served -/

section Served

variable [codecs : InteropCodecs] {peer : Peer}

/-- The schema id that a type is bound to. -/
def Peer.schemaIdOf (peer : Peer) (type : String) : String :=
  ((peer.documentRegistry.binding type).map DocumentBinding.schemaId).getD ""

/-- The record that is served for an envelope: its bytes under the schema id of its type, from
this peer. -/
def Peer.servedRecord (peer : Peer) (envelope : CultCacheEnvelope) : RawDocumentRecord where
  schemaId := peer.schemaIdOf envelope.type
  recordKey := envelope.key
  storedAt := envelope.storedAt
  payloadEncoding := .messagepack
  payload := envelope.payload
  sourceRuntimeId := some peer.config.runtimeId
  sourceAgentId := some peer.config.agentId
  sourceRole := some "peer"
  tags := some ["interop", peer.config.runtimeId]

theorem servedRecord_schemaId (envelope : CultCacheEnvelope) :
    (peer.servedRecord envelope).schemaId = peer.schemaIdOf envelope.type := by
  simp only [Peer.servedRecord]

theorem schemaIdOf_of_mem {b : DocumentBinding} (h : b ∈ capabilityBindings peer.noteSchemaId) :
    peer.schemaIdOf b.documentType = b.schemaId := by
  unfold Peer.schemaIdOf Peer.documentRegistry
  rw [binding_of_mem h rfl]
  rfl

theorem snapshotRecord_of_servable {envelope : CultCacheEnvelope}
    (h : Servable peer.noteSchemaId envelope) :
    snapshotRecord peer envelope = .ok (peer.servedRecord envelope) := by
  obtain ⟨b, hb, htype⟩ := h.type
  have hbinding : peer.documentRegistry.binding envelope.type = some b := binding_of_mem hb htype
  unfold snapshotRecord
  rw [DocumentRegistry.rawDocumentRecordFromEnvelope_eq_ok.mpr ⟨b, hbinding, rfl⟩]
  unfold Peer.servedRecord Peer.schemaIdOf
  rw [hbinding]
  rfl

omit codecs in
/-- The schema ids of the four types that are no notes differ in the name of the contract. -/
theorem nodup_contracts : [mutationIntentSchemaId, mutationReceiptSchemaId, fireCommandSchemaId,
    fireReceiptSchemaId].Nodup := by
  have hnames : ["cultnet.interop-note-mutation-intent.schema.json",
      "cultnet.interop-note-mutation-receipt.schema.json",
      "cultnet.interop-fire-weapon-command.schema.json",
      "cultnet.interop-fire-weapon-receipt.schema.json"].Nodup := by decide +kernel
  exact hnames.map fun _ _ h => (String.append_right_inj _).mp h

omit codecs in
theorem contracts_filled : ∀ id ∈ [mutationIntentSchemaId, mutationReceiptSchemaId,
    fireCommandSchemaId, fireReceiptSchemaId], isBlank id = false := by
  have hbase : isBlank "https://github.com/GameCult/cultnet-ts/integration/contracts/" = false := by
    decide +kernel
  simp only [List.forall_mem_cons]
  exact ⟨isBlank_append hbase _, isBlank_append hbase _, isBlank_append hbase _,
    isBlank_append hbase _, by simp⟩

/-- The schema ids of the five types are filled, and different. -/
theorem schemaIds_of_wellFormed (hpeer : peer.WellFormed) :
    ((capabilityBindings peer.noteSchemaId).map DocumentBinding.schemaId).Nodup ∧
      ∀ b ∈ capabilityBindings peer.noteSchemaId, isBlank b.schemaId = false := by
  have hids : (capabilityBindings peer.noteSchemaId).map DocumentBinding.schemaId =
      peer.noteSchemaId :: [mutationIntentSchemaId, mutationReceiptSchemaId, fireCommandSchemaId,
        fireReceiptSchemaId] := rfl
  constructor
  · rw [hids]
    exact List.nodup_cons.mpr ⟨hpeer.ownSchema, nodup_contracts⟩
  · intro b hb
    have hid : b.schemaId ∈ (capabilityBindings peer.noteSchemaId).map DocumentBinding.schemaId :=
      List.mem_map_of_mem hb
    rw [hids] at hid
    rcases List.mem_cons.mp hid with hnote | hother
    · rw [hnote]
      exact hpeer.noteSchemaId
    · exact contracts_filled _ hother

omit codecs in
theorem allow_eq_ok (policy : ReadOnlySnapshotPolicy) {schemaId key : String} (hschema : isBlank schemaId = false)
    (hkey : isBlank key = false) :
    ∃ policy', policy.allow schemaId key = .ok policy' ∧ policy'.allows schemaId key = true ∧
      ∀ s k, policy.allows s k = true → policy'.allows s k = true := by
  refine ⟨{ allowedRecords := policy.allowedRecords.insert (toLex (schemaId, key)) }, ?_, ?_, ?_⟩
  · unfold ReadOnlySnapshotPolicy.allow
    rw [Snapshot.requireNonEmpty_eq_ok.mpr hschema, Snapshot.requireNonEmpty_eq_ok.mpr hkey]
    rfl
  · exact Std.ExtTreeSet.contains_insert_self
  · intro s k h
    unfold ReadOnlySnapshotPolicy.allows at h ⊢
    rw [Std.ExtTreeSet.contains_insert, h, Bool.or_true]

/-- The loop over the envelopes makes the record of each, and a policy that allows them all. -/
theorem snapshotSource_eq_ok (hpeer : peer.WellFormed) {envelopes : List CultCacheEnvelope} :
    ∀ policy : ReadOnlySnapshotPolicy, (∀ e ∈ envelopes, Servable peer.noteSchemaId e) →
      ∃ policy', snapshotSource peer policy envelopes
          = .ok (envelopes.map peer.servedRecord, policy') ∧
        (∀ s k, policy.allows s k = true → policy'.allows s k = true) ∧
        ∀ e ∈ envelopes, policy'.allows (peer.servedRecord e).schemaId e.key = true := by
  induction envelopes with
  | nil =>
      intro policy _
      exact ⟨policy, rfl, fun _ _ h => h, by simp⟩
  | cons envelope rest ih =>
      intro policy h
      have hfirst := h envelope List.mem_cons_self
      obtain ⟨b, hb, htype⟩ := hfirst.type
      have hschema : isBlank (peer.servedRecord envelope).schemaId = false := by
        rw [servedRecord_schemaId, ← htype, schemaIdOf_of_mem hb]
        exact (schemaIds_of_wellFormed hpeer).2 b hb
      obtain ⟨allowed, hallow, hself, hkeep⟩ :=
        allow_eq_ok policy hschema hfirst.key
      obtain ⟨policy', hrest, hmono, hall⟩ :=
        ih allowed fun e he => h e (List.mem_cons_of_mem _ he)
      refine ⟨policy', ?_, fun s k hs => hmono s k (hkeep s k hs), ?_⟩
      · rw [snapshotSource, snapshotRecord_of_servable hfirst, Fallible.ok_bind]
        show (policy.allow _ envelope.key >>= _) = _
        rw [hallow, Fallible.ok_bind, hrest]
        rfl
      · intro e he
        rcases List.mem_cons.mp he with rfl | he
        · exact hmono _ _ hself
        · exact hall e he

/-- Different envelopes are served as different records. -/
theorem nodup_served (hpeer : peer.WellFormed) {envelopes : List CultCacheEnvelope}
    (h : ∀ e ∈ envelopes, Servable peer.noteSchemaId e)
    (hnodup : (envelopes.map CultCacheEnvelope.identity).Nodup) :
    ((envelopes.map peer.servedRecord).map RawDocumentRecord.identity).Nodup := by
  rw [List.map_map]
  refine List.Nodup.map_on ?_ hnodup.of_map
  intro e he other hother heq
  refine List.inj_on_of_nodup_map hnodup he hother ?_
  obtain ⟨hschema, hkey⟩ := Prod.mk.inj (toLex.injective heq)
  obtain ⟨b, hb, htype⟩ := (h e he).type
  obtain ⟨c, hc, htype'⟩ := (h other hother).type
  rw [servedRecord_schemaId, servedRecord_schemaId, ← htype, ← htype', schemaIdOf_of_mem hb,
    schemaIdOf_of_mem hc] at hschema
  obtain rfl := List.inj_on_of_nodup_map (schemaIds_of_wellFormed hpeer).1 hb hc hschema
  exact congrArg₂ Prod.mk (htype.symm.trans htype') hkey

/-- A request asks for a record. -/
def Asks (schemaIds recordKeys : Option (List String)) (document : RawDocumentRecord) : Bool :=
  schemaIds.all (fun ids => ids.contains document.schemaId) &&
    recordKeys.all fun keys => keys.contains document.recordKey

/-- What a request is answered in a state that can be served. -/
theorem snapshotMessages_eq_ok {Cache : Type} {cultCache : DocumentCache Cache}
    (lawful : cultCache.Lawful) (hpeer : peer.WellFormed) {cache : Cache}
    (h : AllServable cultCache peer cache) {messageId : String}
    {schemaIds recordKeys : Option (List String)} {messages : List Message} :
    snapshotMessages cultCache peer cache (.snapshotRequest messageId schemaIds recordKeys)
        = .ok messages ↔
      isBlank messageId = false ∧ Snapshot.Distinct schemaIds ∧ Snapshot.Distinct recordKeys ∧
        messages = [.snapshotResponseRaw messageId
          (((cultCache.snapshot cache).map peer.servedRecord).filter
            (Asks schemaIds recordKeys))] := by
  obtain ⟨policy, hsource, -, hallows⟩ := snapshotSource_eq_ok hpeer {} h
  have hnodup := nodup_served hpeer h (lawful.snapshot_nodup cache)
  have hregistered : Registered peer.documentRegistry
      ((cultCache.snapshot cache).map peer.servedRecord) := by
    intro d hd
    obtain ⟨e, he, rfl⟩ := List.mem_map.mp hd
    obtain ⟨b, hb, htype⟩ := (h e he).type
    rw [servedRecord_schemaId, ← htype, schemaIdOf_of_mem hb]
    exact Option.isSome_iff_exists.mpr (DocumentRegistry.exists_bindingBySchemaId hb)
  have hselected : ((cultCache.snapshot cache).map peer.servedRecord).filter
      (Selected policy schemaIds recordKeys)
        = ((cultCache.snapshot cache).map peer.servedRecord).filter
            (Asks schemaIds recordKeys) := by
    refine List.filter_congr fun d hd => ?_
    obtain ⟨e, he, rfl⟩ := List.mem_map.mp hd
    have hallowed : policy.allows (peer.servedRecord e).schemaId (peer.servedRecord e).recordKey
        = true := hallows e he
    simp only [Selected, Asks, hallowed, Bool.true_and]
  unfold snapshotMessages
  rw [hsource, Fallible.ok_bind, Fallible.bind_eq_ok]
  simp only [serveReadOnlyRawSnapshot_eq_ok, hselected]
  constructor
  · rintro ⟨response, ⟨hid, hschemas, hkeys, -, -, rfl⟩, hmessages⟩
    exact ⟨hid, hschemas, hkeys, (Except.ok.inj hmessages).symm⟩
  · rintro ⟨hid, hschemas, hkeys, rfl⟩
    exact ⟨_, ⟨hid, hschemas, hkeys, hnodup, hregistered, rfl⟩, rfl⟩

/-- A record that is served passes the check of the message that it is served in. -/
theorem validate_servedRecord (hpeer : peer.WellFormed) {envelope : CultCacheEnvelope}
    (h : Servable peer.noteSchemaId envelope) : (peer.servedRecord envelope).validate = .ok () := by
  obtain ⟨b, hb, htype⟩ := h.type
  have hpeerRole : isBlank "peer" = false := by decide
  have hinterop : isBlank "interop" = false := by decide
  refine RawDocumentRecord.validate_eq_ok.mpr ⟨?_, h.key, h.storedAt, h.payload, ?_, ?_, ?_, ?_⟩
  · rw [servedRecord_schemaId, ← htype, schemaIdOf_of_mem hb]
    exact (schemaIds_of_wellFormed hpeer).2 b hb
  · simp [Peer.servedRecord, hpeer.runtimeId]
  · simp [Peer.servedRecord, hpeer.agentId]
  · simp [Peer.servedRecord, hpeerRole]
  · simp [Peer.servedRecord, hinterop, hpeer.runtimeId]

end Served

/-! ### Along a run -/

section Runs

variable {Cache TStream : Type} {cultCache : DocumentCache Cache} [codecs : InteropCodecs]
variable {wiring : Wiring TStream} {peer : Peer}

variable (lawful : cultCache.Lawful) (hcodecs : codecs.Lawful) {cache : Cache}
  (hids : AtOwnId (notesOf cultCache cache)) (hservable : AllServable cultCache peer cache)
  {streams : Nat → TStream} {log : List ((Nat × Event) × Unit)}
  {s : Interleaving.State Nat (Shared Cache) (Connection TStream)}

include lawful hcodecs hids hservable

theorem allServable_of_run
    (hrun : Machine.Run (serveStep cultCache wiring peer) (serveStart cache streams) log s) :
    AllServable cultCache peer s.shared.cache := by
  induction hrun with
  | nil => exact hservable
  | @snoc log s s' input o hbefore hstep ih =>
      rcases exists_turn_of_step hstep with hsame | ⟨message, readings, hvalid, hturn⟩
      · rw [hsame]
        exact ih
      · rw [hturn]
        refine ih.handleMessage lawful hcodecs ?_ hvalid readings
        rw [notes_of_run lawful hcodecs hids hbefore]
        exact hids.decorateAll _

/--
**A snapshot request is answered in every state.**  Whatever the clients of a peer have sent it, a
snapshot request with terms that are neither blank nor repeated is answered, and no other is: with
the record of every envelope that it asks for, under the bytes that are stored, in a message that
can be sent.  Answering leaves the cache as it is.
-/
theorem snapshot_answered (hpeer : peer.WellFormed)
    (hrun : Machine.Run (serveStep cultCache wiring peer) (serveStart cache streams) log s)
    (messageId : String) (schemaIds recordKeys : Option (List String)) (readings : Readings) :
    let turn := handleMessage cultCache peer s.shared.cache
      (.snapshotRequest messageId schemaIds recordKeys) readings
    turn.cache = s.shared.cache ∧
    ((∃ messages, turn.outcome = .ok messages) ↔ isBlank messageId = false ∧
      Snapshot.Distinct schemaIds ∧ Snapshot.Distinct recordKeys) ∧
    ∀ messages, turn.outcome = .ok messages →
      messages = [.snapshotResponseRaw messageId
        (((cultCache.snapshot s.shared.cache).map peer.servedRecord).filter
          (Asks schemaIds recordKeys))] ∧
      ∀ m ∈ messages, m.validate = .ok () := by
  intro turn
  have hstate := allServable_of_run lawful hcodecs hids hservable hrun
  have houtcome : ∀ messages, turn.outcome = .ok messages ↔
      isBlank messageId = false ∧ Snapshot.Distinct schemaIds ∧ Snapshot.Distinct recordKeys ∧
        messages = [.snapshotResponseRaw messageId
          (((cultCache.snapshot s.shared.cache).map peer.servedRecord).filter
            (Asks schemaIds recordKeys))] :=
    fun _ => snapshotMessages_eq_ok lawful hpeer hstate
  refine ⟨rfl, ?_, ?_⟩
  · constructor
    · rintro ⟨messages, h⟩
      obtain ⟨hid, hschemas, hkeys, -⟩ := (houtcome messages).mp h
      exact ⟨hid, hschemas, hkeys⟩
    · rintro ⟨hid, hschemas, hkeys⟩
      exact ⟨_, (houtcome _).mpr ⟨hid, hschemas, hkeys, rfl⟩⟩
  · intro messages h
    obtain ⟨hid, -, -, rfl⟩ := (houtcome messages).mp h
    refine ⟨rfl, fun m hm => ?_⟩
    rw [List.mem_singleton.mp hm]
    refine Fallible.check_bind_eq_ok.mpr ⟨requireNonEmpty_eq_ok.mpr hid, ?_⟩
    refine Fallible.forM_eq_ok.mpr fun d hd => ?_
    obtain ⟨e, he, rfl⟩ := List.mem_map.mp (List.mem_filter.mp hd).1
    exact validate_servedRecord hpeer (hstate e he)

end Runs

theorem samplePeer_wellFormed : samplePeer.WellFormed where
  runtimeId := by decide
  runtimeKind := by decide
  displayName := by decide
  agentId := by decide
  noteSchemaId := by decide
  ownSchema := by decide +kernel

theorem sampleCache_servable : AllServable documentMemoryCache samplePeer sampleCache := by
  refine AllServable.servedCache documentMemoryCache_lawful libraryInteropCodecs_lawful ?_
    (by decide) sampleServed_eq_ok
  intro e he
  exact absurd he List.not_mem_nil

/-- A snapshot after two clients have decorated the note. -/
theorem snapshot_answered_sample : ∃ s : Interleaving.State Nat (Shared MemoryCache)
      (Connection (StreamWriter.Sink UInt8)),
    decorations s.shared.history = [sampleIntent "ada", sampleIntent "bob"] ∧
    let turn := handleMessage documentMemoryCache samplePeer s.shared.cache
      (.snapshotRequest "snapshot" (some ["note"]) none) sampleReadings
    turn.cache = s.shared.cache ∧
    ((∃ messages, turn.outcome = .ok messages) ↔ isBlank "snapshot" = false ∧
      Snapshot.Distinct (some ["note"]) ∧ Snapshot.Distinct none) ∧
    ∀ messages, turn.outcome = .ok messages →
      messages = [.snapshotResponseRaw "snapshot"
        (((documentMemoryCache.snapshot s.shared.cache).map samplePeer.servedRecord).filter
          (Asks (some ["note"]) none))] ∧
      ∀ m ∈ messages, m.validate = .ok () := by
  obtain ⟨log, s, hrun, hdecorations⟩ := sample_run
  exact ⟨s, hdecorations, snapshot_answered documentMemoryCache_lawful libraryInteropCodecs_lawful
    sampleCache_atOwnId sampleCache_servable samplePeer_wellFormed hrun "snapshot" (some ["note"])
    none sampleReadings⟩

end CultNet.Interop
