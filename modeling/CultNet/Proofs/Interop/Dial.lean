/-
A dial, from end to end.

A dial that comes to its end has sent five messages and read six (`Dialled`).  The peer
answers each message of a client with so many messages at most, and six are what five
messages of these kinds can bring at best: so all five were handled, none was refused,
and each of the six is known as the answer to one of them (`Exchange`).  What the
answers say is known from the history: the note was retrieved in the state before one
entry and decorated at another, with the intents of other clients in between.
-/
import CultNet.Interop.Dial
import CultNet.Proofs.Interop.Conversation
import CultNet.Proofs.Interop.Snapshots
import Mathlib.Algebra.Order.BigOperators.Group.List

namespace CultNet.Interop

open Dialogue (Ended ended_bind ended_pure ended_tell_bind ended_hear_bind ended_attempt_bind)

/-! ### What a dial sends and receives -/

section Dialling

variable {Cache : Type} {cultCache : DocumentCache Cache} [codecs : InteropCodecs]

omit codecs in
theorem ended_applied_bind {α β : Type} {called : Except String α × Cache}
    {f : α × Cache → Dialogue Message β} {received sent : List Message} {b : β} :
    Ended (applied called >>= f) received sent b ↔
      ∃ a, called.1 = .ok a ∧ Ended (f (a, called.2)) received sent b := by
  unfold applied
  rw [ended_attempt_bind]
  cases called.1 with
  | error e => simp [Except.map]
  | ok a => simp [Except.map]

omit codecs in
theorem ended_applied {α : Type} {called : Except String α × Cache} {result : α × Cache}
    {received sent : List Message} :
    Ended (applied called) received sent result ↔
      received = [] ∧ sent = [] ∧ called = (.ok result.1, result.2) := by
  obtain ⟨called, cache⟩ := called
  obtain ⟨a, after⟩ := result
  cases called with
  | error e =>
      constructor
      · intro h
        cases h
      · rintro ⟨-, -, h⟩
        simp at h
  | ok b =>
      constructor
      · intro h
        cases h
        exact ⟨rfl, rfl, rfl⟩
      · rintro ⟨rfl, rfl, h⟩
        obtain ⟨hb, rfl⟩ := Prod.mk.inj h
        rw [Except.ok.inj hb]
        exact .done _

/-- The messages of a dial, without those that are the same for every peer. -/
structure DialMessages where
  decorate : Message
  fire : Message
  hello : Message
  catalog : Message
  snapshot : Message
  receipt : Message
  mutated : Message
  fired : Message

/-- The messages that the dialing side sends. -/
def DialMessages.sent (messages : DialMessages) (config : DialConfig) (noteSchemaId : String) :
    List Message :=
  [helloMessage config.runtimeId config.runtimeKind config.agentId config.displayName,
    .schemaCatalogRequest (config.runtimeId ++ "-catalog") (some true) none none,
    .snapshotRequest (config.runtimeId ++ "-snapshot") (some [noteSchemaId]) none,
    messages.decorate, messages.fire]

/-- The messages that it reads. -/
def DialMessages.read (messages : DialMessages) : List Message :=
  [messages.hello, messages.catalog, messages.snapshot, messages.receipt, messages.mutated,
    messages.fired]

/-- What is known of the messages of a dial that has come to its end. -/
structure Dialled (cultCache : DocumentCache Cache) (debugMessage : Message → String)
    (config : DialConfig) (noteSchemaId decorateAt fireAt : String) (report : DialReport)
    (messages : DialMessages) : Prop where
  hello : helloRuntimeId debugMessage messages.hello = .ok report.remoteRuntimeId
  catalog : catalogHasSchema debugMessage noteSchemaId messages.catalog
    = .ok report.hasInteropSchema
  author : report.retrievedNote.authorRuntimeId = report.remoteRuntimeId
  retrieved : ∃ cache notes after, (capabilityRegistry noteSchemaId).applyRawSnapshotResponse
    cultCache.toCultCache InteropNote cache messages.snapshot = (.ok notes, after) ∧
    report.retrievedNote ∈ notes
  decorate : (capabilityRegistry noteSchemaId).createRawDocumentPutMessage
    (config.runtimeId ++ "-decorate-put")
    (decorateIntent config.runtimeId report.retrievedNote).intentId
    (decorateIntent config.runtimeId report.retrievedNote) {} decorateAt = .ok messages.decorate
  mutated : ∃ cache after, (capabilityRegistry noteSchemaId).applyRawDocumentPutMessage
    cultCache.toCultCache InteropNote cache messages.mutated = (.ok report.mutatedNote, after)
  fire : (capabilityRegistry noteSchemaId).createRawDocumentPutMessage
    (config.runtimeId ++ "-fire-put") (fireCommand config.runtimeId report.remoteRuntimeId).commandId
    (fireCommand config.runtimeId report.remoteRuntimeId) {} fireAt = .ok messages.fire
  fired : ∃ cache after, (capabilityRegistry noteSchemaId).applyRawDocumentPutMessage
    cultCache.toCultCache InteropFireReceipt cache messages.fired = (.ok report.fireReceipt, after)

omit codecs in
theorem noteOf_eq_ok {remoteRuntimeId : String} {notes : List InteropNote} {note : InteropNote}
    (h : noteOf remoteRuntimeId notes = .ok note) :
    note ∈ notes ∧ note.authorRuntimeId = remoteRuntimeId := by
  unfold noteOf at h
  split at h
  · rename_i found hfound
    obtain rfl := Except.ok.inj h
    exact ⟨List.mem_of_find?_eq_some hfound, by simpa using List.find?_some hfound⟩
  · simp at h

section Parts

variable {registry : DocumentRegistry} {runtimeId now : String} {cache : Cache}
  {read sent : List Message}

/-- What `mutate_remote_note` sends and reads. -/
theorem mutateRemoteNote_ended {noteSchemaId : String} {note : InteropNote}
    {mutated : InteropNote × Cache}
    (h : Ended (mutateRemoteNote cultCache registry noteSchemaId runtimeId note now cache) read sent
      mutated) :
    ∃ decorate receipt mutatedMessage, sent = [decorate] ∧ read = [receipt, mutatedMessage] ∧
      registry.createRawDocumentPutMessage (runtimeId ++ "-decorate-put")
        (decorateIntent runtimeId note).intentId (decorateIntent runtimeId note) {} now
        = .ok decorate ∧
      ∃ between, registry.applyRawDocumentPutMessage cultCache.toCultCache InteropNote between
        mutatedMessage = (.ok mutated.1, mutated.2) := by
  obtain ⟨decorate, hdecorate, h⟩ := ended_attempt_bind.mp h
  obtain ⟨_, hsent, h⟩ := ended_tell_bind.mp h
  obtain ⟨receipt, _, hreceipt, h⟩ := ended_hear_bind.mp h
  obtain ⟨_, -, h⟩ := ended_applied_bind.mp h
  obtain ⟨mutatedMessage, _, hanswer, h⟩ := ended_hear_bind.mp h
  obtain ⟨mutatedNote, hmutated, h⟩ := ended_applied_bind.mp h
  obtain ⟨-, -, h⟩ := ended_attempt_bind.mp h
  obtain ⟨hread, hrest, rfl⟩ := ended_pure.mp h
  subst hsent hreceipt hanswer hread hrest
  exact ⟨decorate, receipt, mutatedMessage, rfl, rfl, hdecorate, _, Prod.ext hmutated rfl⟩

/-- What `fire_remote_weapon` sends and reads. -/
theorem fireRemoteWeapon_ended {remoteRuntimeId : String} {fired : InteropFireReceipt × Cache}
    (h : Ended (fireRemoteWeapon cultCache registry runtimeId remoteRuntimeId now cache) read sent
      fired) :
    ∃ fire firedMessage, sent = [fire] ∧ read = [firedMessage] ∧
      registry.createRawDocumentPutMessage (runtimeId ++ "-fire-put")
        (fireCommand runtimeId remoteRuntimeId).commandId (fireCommand runtimeId remoteRuntimeId)
        {} now = .ok fire ∧
      registry.applyRawDocumentPutMessage cultCache.toCultCache InteropFireReceipt cache
        firedMessage = (.ok fired.1, fired.2) := by
  obtain ⟨fire, hfire, h⟩ := ended_attempt_bind.mp h
  obtain ⟨_, hsent, h⟩ := ended_tell_bind.mp h
  obtain ⟨firedMessage, _, hanswer, h⟩ := ended_hear_bind.mp h
  obtain ⟨hread, hrest, hfired⟩ := ended_applied.mp h
  subst hsent hanswer hread hrest
  exact ⟨fire, firedMessage, rfl, rfl, hfire, hfired⟩

end Parts

/-- **What a dial at its end has sent and read.** -/
theorem dialled_of_ended {debugMessage : Message → String} {config : DialConfig}
    {noteSchemaId decorateAt fireAt : String} {cache : Cache} {report : DialReport}
    {read sent : List Message}
    (h : Ended (dial cultCache debugMessage config noteSchemaId cache decorateAt fireAt) read sent
      report) :
    ∃ messages : DialMessages, sent = messages.sent config noteSchemaId ∧ read = messages.read ∧
      Dialled cultCache debugMessage config noteSchemaId decorateAt fireAt report messages := by
  obtain ⟨_, hsent, h⟩ := ended_tell_bind.mp h
  obtain ⟨hello, _, hread, h⟩ := ended_hear_bind.mp h
  obtain ⟨remoteRuntimeId, hremote, h⟩ := ended_attempt_bind.mp h
  obtain ⟨_, hsentCatalog, h⟩ := ended_tell_bind.mp h
  obtain ⟨catalog, _, hreadCatalog, h⟩ := ended_hear_bind.mp h
  obtain ⟨hasInteropSchema, hcatalog, h⟩ := ended_attempt_bind.mp h
  obtain ⟨_, hsentSnapshot, h⟩ := ended_tell_bind.mp h
  obtain ⟨snapshot, _, hreadSnapshot, h⟩ := ended_hear_bind.mp h
  obtain ⟨notes, hnotes, h⟩ := ended_applied_bind.mp h
  obtain ⟨note, hnote, h⟩ := ended_attempt_bind.mp h
  obtain ⟨mutated, _, _, _, _, hreadNote, hsentNote, hmutate, h⟩ := ended_bind.mp h
  obtain ⟨fired, _, _, _, _, hreadFire, hsentFire, hfire, h⟩ := ended_bind.mp h
  obtain ⟨hdone, hrest, rfl⟩ := ended_pure.mp h
  obtain ⟨decorate, receipt, mutatedMessage, rfl, rfl, hdecorate, between, hmutated⟩ :=
    mutateRemoteNote_ended hmutate
  obtain ⟨fire, firedMessage, rfl, rfl, hfire, hfired⟩ := fireRemoteWeapon_ended hfire
  subst hsent hread hsentCatalog hreadCatalog hsentSnapshot hreadSnapshot hreadNote hsentNote
    hreadFire hsentFire hdone hrest
  obtain ⟨hmem, hauthor⟩ := noteOf_eq_ok hnote
  exact ⟨⟨decorate, fire, hello, catalog, snapshot, receipt, mutatedMessage, firedMessage⟩,
    rfl, rfl,
    { hello := hremote
      catalog := hcatalog
      author := hauthor
      retrieved := ⟨_, notes, _, Prod.ext hnotes rfl, hmem⟩
      decorate := hdecorate
      mutated := ⟨_, _, hmutated⟩
      fire := hfire
      fired := ⟨_, _, hfired⟩ }⟩

end Dialling

/-! ### What the peer answers to them -/

section Answering

variable {Cache : Type} {cultCache : DocumentCache Cache} [codecs : InteropCodecs] {peer : Peer}
  {cache : Cache} {readings : Readings} {messages : List Message}

/-- A message that puts a value of a type. -/
def Puts (T : Type) [entry : TypedEntry T] (schemaId : String) (value : T) (message : Message) :
    Prop :=
  ∃ messageId document, message = .documentPutRaw messageId document ∧
    document.schemaId = schemaId ∧ entry.encode value = .ok document.payload

omit codecs in
theorem Puts.payloadDepth {T : Type} [TypedEntry T] {schemaId : String} {value : T}
    {message : Message} (h : Puts T schemaId value message) : message.payloadDepth = 0 := by
  obtain ⟨_, _, rfl, -⟩ := h
  rfl

omit codecs in
/-- A message of a put, under the schema that its type is bound to. -/
theorem puts_of_create {T : Type} [TypedEntry T] {registry : DocumentRegistry}
    {messageId recordKey now schemaId : String} {value : T} {options : DocumentPutOptions}
    {message : Message} {version : Option String}
    (h : registry.createRawDocumentPutMessage messageId recordKey value options now = .ok message)
    (hbinding : registry.binding (DatabaseEntry.type T)
      = some (.forEntryWithSchemaId T schemaId version)) : Puts T schemaId value message := by
  obtain ⟨other, hother, h⟩ := Fallible.bind_eq_ok.mp h
  obtain ⟨payload, hpayload, h⟩ := Fallible.bind_eq_ok.mp h
  obtain rfl := Option.some.inj
    (hbinding.symm.trans (DocumentRegistry.requireBinding_eq_ok.mp hother))
  exact ⟨messageId, _, (Except.ok.inj h).symm, rfl, hpayload⟩

/-- The answers to an intent are a receipt, and the note. -/
theorem mutationMessages_eq_ok {intent : InteropMutationIntent} {note : InteropNote}
    (h : mutationMessages peer intent note readings = .ok messages) :
    ∃ receiptMessage noteMessage, messages = [receiptMessage, noteMessage] ∧
      Puts InteropMutationReceipt mutationReceiptSchemaId (mutationReceipt intent note)
        receiptMessage ∧
      Puts InteropNote peer.noteSchemaId note noteMessage := by
  obtain ⟨receiptMessage, hreceipt, h⟩ := Fallible.bind_eq_ok.mp h
  obtain ⟨noteMessage, hnote, h⟩ := Fallible.bind_eq_ok.mp h
  exact ⟨receiptMessage, noteMessage, (Except.ok.inj h).symm,
    puts_of_create hreceipt (binding_mutationReceipt peer.noteSchemaId),
    puts_of_create hnote (binding_note peer.noteSchemaId)⟩

/-- The answer to a fire command is a receipt. -/
theorem fireMessages_eq_ok {command : InteropFireCommand}
    (h : fireMessages peer command readings = .ok messages) :
    ∃ receiptMessage, messages = [receiptMessage] ∧
      Puts InteropFireReceipt fireReceiptSchemaId (fireReceipt command) receiptMessage := by
  obtain ⟨receiptMessage, hreceipt, h⟩ := Fallible.bind_eq_ok.mp h
  exact ⟨receiptMessage, (Except.ok.inj h).symm,
    puts_of_create hreceipt (binding_fireReceipt peer.noteSchemaId)⟩

omit codecs in
theorem Puts.schemaId {T : Type} [TypedEntry T] {schemaId : String} {value : T}
    {message : Message} (h : Puts T schemaId value message) :
    mutatedMessageSchemaId message = some schemaId := by
  obtain ⟨_, _, rfl, rfl, -⟩ := h
  rfl

theorem PutsIntent.schemaId {message : Message} {intent : InteropMutationIntent}
    (h : PutsIntent message intent) :
    mutatedMessageSchemaId message = some mutationIntentSchemaId := by
  obtain ⟨_, _, rfl, hschema, -⟩ := h
  exact congrArg some hschema

/-- Putting an intent is what the peer takes for one. -/
theorem Puts.putsIntent (hcodecs : codecs.Lawful) {intent : InteropMutationIntent}
    {message : Message} (h : Puts InteropMutationIntent mutationIntentSchemaId intent message) :
    PutsIntent message intent := by
  obtain ⟨messageId, document, rfl, hschema, hencode⟩ := h
  exact ⟨messageId, document, rfl, hschema, hcodecs.mutationIntent.decode_encode _ _ hencode⟩

omit codecs in
theorem fireCommandSchemaId_ne : fireCommandSchemaId ≠ mutationIntentSchemaId := by
  have hnodup := nodup_contracts
  simp only [List.nodup_cons, List.mem_cons, not_or] at hnodup
  exact Ne.symm hnodup.1.2.1

/-- How many messages answer a message. -/
def answersDue : Message → Nat
  | .hello .. | .schemaCatalogRequest .. | .snapshotRequest .. => 1
  | .documentPutRaw _ document =>
    if document.schemaId = mutationIntentSchemaId then 2
    else if document.schemaId = fireCommandSchemaId then 1
    else 0
  | _ => 0

omit codecs in
theorem answersDue_of_put {message : Message} {schemaId : String}
    (h : mutatedMessageSchemaId message = some schemaId) :
    answersDue message = if schemaId = mutationIntentSchemaId then 2
      else if schemaId = fireCommandSchemaId then 1 else 0 := by
  unfold mutatedMessageSchemaId at h
  split at h
  · rw [← Option.some.inj h]
    rfl
  · simp at h

theorem Puts.answersDue_intent {intent : InteropMutationIntent} {message : Message}
    (h : Puts InteropMutationIntent mutationIntentSchemaId intent message) :
    answersDue message = 2 := by
  rw [answersDue_of_put h.schemaId, if_pos rfl]

theorem Puts.answersDue_command {command : InteropFireCommand} {message : Message}
    (h : Puts InteropFireCommand fireCommandSchemaId command message) :
    answersDue message = 1 := by
  rw [answersDue_of_put h.schemaId, if_neg fireCommandSchemaId_ne, if_pos rfl]

/-- **A message that is not refused is answered with what is due**, and with nothing nested. -/
theorem length_answers {message : Message}
    (h : (handleMessage cultCache peer cache message readings).outcome = .ok messages) :
    messages.length = answersDue message ∧ ∀ m ∈ messages, m.payloadDepth = 0 := by
  cases message with
  | hello =>
      obtain rfl := Except.ok.inj h
      simp [answersDue, helloMessage, Message.payloadDepth]
  | schemaCatalogRequest =>
      obtain ⟨response, hresponse, h⟩ := Fallible.bind_eq_ok.mp h
      obtain rfl := Except.ok.inj h
      rw [← Except.ok.inj hresponse]
      simp [answersDue, Message.payloadDepth]
  | snapshotRequest =>
      obtain ⟨source, -, h⟩ := Fallible.bind_eq_ok.mp h
      obtain ⟨response, hresponse, h⟩ := Fallible.bind_eq_ok.mp h
      obtain rfl := Except.ok.inj h
      obtain ⟨-, -, -, -, -, rfl⟩ := serveReadOnlyRawSnapshot_eq_ok.mp hresponse
      simp [answersDue, Message.payloadDepth]
  | documentPutRaw messageId document =>
      simp only [handleMessage, handleRawPut] at h
      by_cases hintent : document.schemaId = mutationIntentSchemaId
      · simp only [answersDue, if_pos hintent] at h ⊢
        split at h
        · simp at h
        · obtain ⟨receiptMessage, noteMessage, rfl, hreceipt, hnote⟩ := mutationMessages_eq_ok h
          simp [hreceipt.payloadDepth, hnote.payloadDepth]
      · by_cases hfire : document.schemaId = fireCommandSchemaId
        · simp only [answersDue, if_neg hintent, if_pos hfire] at h ⊢
          split at h
          · simp at h
          · obtain ⟨receiptMessage, rfl, hreceipt⟩ := fireMessages_eq_ok h
            simp [hreceipt.payloadDepth]
        · simp only [answersDue, if_neg hintent, if_neg hfire] at h ⊢
          obtain rfl := Except.ok.inj h
          simp
  | _ =>
      obtain rfl := Except.ok.inj h
      simp [answersDue]

/-- The answer to a fire command. -/
theorem handleMessage_fire (lawful : cultCache.Lawful) (hcodecs : codecs.Lawful)
    {command : InteropFireCommand} {message : Message}
    (hputs : Puts InteropFireCommand fireCommandSchemaId command message)
    (h : (handleMessage cultCache peer cache message readings).outcome = .ok messages) :
    fireMessages peer command readings = .ok messages := by
  obtain ⟨messageId, document, rfl, hschema, hencode⟩ := hputs
  simp only [handleMessage, handleRawPut, hschema, if_neg fireCommandSchemaId_ne, if_true] at h
  split at h
  · simp at h
  · rename_i read after hput
    obtain ⟨_, _, _, hmessage, -, -, hread, -⟩ :=
      DocumentRegistry.applyRawDocumentPutMessage_ok lawful hput
    obtain ⟨-, rfl⟩ := Message.documentPutRaw.inj hmessage
    have hcommand : read = command := Except.ok.inj
      (hread.symm.trans (hcodecs.fireCommand.decode_encode _ _ hencode))
    rw [← hcommand]
    exact h

/-- What is applied of a message that puts a value is the value. -/
theorem applied_of_puts (lawful : cultCache.Lawful) {T : Type} [entry : TypedEntry T]
    (hdecode : ∀ value payload, entry.encode value = .ok payload →
      entry.decode payload = .ok value)
    {schemaId noteSchemaId : String} {value read : T} {message : Message} {cache' : Cache}
    (hputs : Puts T schemaId value message)
    (h : (capabilityRegistry noteSchemaId).applyRawDocumentPutMessage cultCache.toCultCache T
      cache message = (.ok read, cache')) : read = value := by
  obtain ⟨messageId, document, rfl, -, hencode⟩ := hputs
  obtain ⟨_, _, _, hmessage, -, -, hread, -⟩ :=
    DocumentRegistry.applyRawDocumentPutMessage_ok lawful h
  obtain ⟨-, rfl⟩ := Message.documentPutRaw.inj hmessage
  exact Except.ok.inj (hread.symm.trans (hdecode _ _ hencode))

/-- A note that a snapshot of the notes brings was held by the cache that it was taken of. -/
theorem held_of_snapshot (lawful : cultCache.Lawful) {DialCache : Type}
    {dialCache : DocumentCache DialCache} (dialLawful : dialCache.Lawful) (hpeer : peer.WellFormed)
    (hservable : AllServable cultCache peer cache) {messageId : String} {answer : Message}
    (h : snapshotMessages cultCache peer cache
      (.snapshotRequest messageId (some [peer.noteSchemaId]) none) = .ok [answer])
    {dialed after : DialCache} {notes : List InteropNote}
    (happlied : (capabilityRegistry peer.noteSchemaId).applyRawSnapshotResponse
      dialCache.toCultCache InteropNote dialed answer = (.ok notes, after))
    {note : InteropNote} (hnote : note ∈ notes) :
    ∃ key, notesOf cultCache cache key = some note := by
  obtain ⟨-, -, -, hanswer⟩ := (snapshotMessages_eq_ok lawful hpeer hservable).mp h
  obtain rfl := List.singleton_inj.mp hanswer
  unfold DocumentRegistry.applyRawSnapshotResponse at happlied
  simp only at happlied
  split at happlied
  · simp at happlied
  · rename_i binding hbinding
    rw [DocumentRegistry.requireBinding_eq_ok] at hbinding
    obtain ⟨document, hdocument, hschema, hread⟩ :=
      DocumentRegistry.mem_of_applyRawDocuments dialLawful happlied hnote
    obtain ⟨envelope, henvelope, rfl⟩ := List.mem_map.mp (List.mem_filter.mp hdocument).1
    -- the type of the envelope is that of the notes, for no other has their schema
    have hnotes := (binding_note peer.noteSchemaId).symm.trans hbinding
    obtain ⟨b, hb, htype⟩ := (hservable envelope henvelope).type
    rw [servedRecord_schemaId, ← htype, schemaIdOf_of_mem hb] at hschema
    have hmem := (DocumentRegistry.mem_of_binding hbinding).1
    have hsame : b = binding :=
      List.inj_on_of_nodup_map (schemaIds_of_wellFormed hpeer).1 hb hmem hschema
    have hplace : envelope.identity = (interopDocumentType, envelope.key) := by
      rw [CultCacheEnvelope.identity, ← htype, hsame, ← Option.some.inj hnotes]
      rfl
    exact ⟨envelope.key, lawful.held_eq_some.mpr ⟨envelope, henvelope, hplace, hread⟩⟩

end Answering

/-! ### Counting the answers -/

/-- Where as many answers were read as the messages can bring, all of the messages were handled,
and the answers are those that were read. -/
theorem handled_of_read {handled : List Handled} {sent read : List Message}
    (hdue : ∀ h ∈ handled, h.answers.length ≤ answersDue h.message)
    (hsent : handled.map Handled.message <+: sent)
    (hread : read <+: handled.flatMap Handled.answers)
    (hpositive : ∀ m ∈ sent, 0 < answersDue m)
    (henough : (sent.map answersDue).sum ≤ read.length) :
    handled.map Handled.message = sent ∧ handled.flatMap Handled.answers = read := by
  obtain ⟨rest, rfl⟩ := hsent
  have hanswers : (handled.flatMap Handled.answers).length
      ≤ ((handled.map Handled.message).map answersDue).sum := by
    rw [List.length_flatMap, List.map_map]
    exact List.sum_le_sum hdue
  have hlength := hread.length_le
  rw [List.map_append, List.sum_append] at henough
  have hrest : rest = [] := by
    cases rest with
    | nil => rfl
    | cons m rest =>
        have hm := hpositive m (List.mem_append_right _ List.mem_cons_self)
        simp only [List.map_cons, List.sum_cons] at henough
        omega
  subst hrest
  refine ⟨(List.append_nil _).symm, (hread.eq_of_length_le ?_).symm⟩
  omega

/-- The entries of a dial that has come to its end: a message, and its answers, for each. -/
structure Exchange (messages : DialMessages) (config : DialConfig) (noteSchemaId : String)
    (hello catalog snapshot decorate fire : Handled) : Prop where
  asked : [hello, catalog, snapshot, decorate, fire].map Handled.message
    = messages.sent config noteSchemaId
  hello : hello.answers = [messages.hello]
  catalog : catalog.answers = [messages.catalog]
  snapshot : snapshot.answers = [messages.snapshot]
  decorate : decorate.answers = [messages.receipt, messages.mutated]
  fire : fire.answers = [messages.fired]

/-- Which answers belong to which message is known from how many there are. -/
theorem exchange_of_read {messages : DialMessages} {config : DialConfig} {noteSchemaId : String}
    {handled : List Handled} (hdecorate : answersDue messages.decorate = 2)
    (hfire : answersDue messages.fire = 1)
    (hdue : ∀ h ∈ handled, h.answers.length ≤ answersDue h.message)
    (hsent : handled.map Handled.message <+: messages.sent config noteSchemaId)
    (hread : messages.read <+: handled.flatMap Handled.answers) :
    ∃ hello catalog snapshot decorate fire, handled = [hello, catalog, snapshot, decorate, fire] ∧
      Exchange messages config noteSchemaId hello catalog snapshot decorate fire := by
  have hdues : (messages.sent config noteSchemaId).map answersDue = [1, 1, 1, 2, 1] := by
    simp only [DialMessages.sent, List.map_cons, List.map_nil, hdecorate, hfire]
    rfl
  have hpositive : ∀ m ∈ messages.sent config noteSchemaId, 0 < answersDue m := by
    intro m hm
    have hmem := List.mem_map_of_mem hm (f := answersDue)
    rw [hdues] at hmem
    simp only [List.mem_cons, List.not_mem_nil, or_false] at hmem
    omega
  obtain ⟨hall, hflat⟩ := handled_of_read hdue hsent hread hpositive
    (by rw [hdues]; simp [DialMessages.read])
  obtain ⟨hello, _, rfl, hm₁, hrest⟩ := List.map_eq_cons_iff.mp hall
  obtain ⟨catalog, _, rfl, hm₂, hrest⟩ := List.map_eq_cons_iff.mp hrest
  obtain ⟨snapshot, _, rfl, hm₃, hrest⟩ := List.map_eq_cons_iff.mp hrest
  obtain ⟨decorate, _, rfl, hm₄, hrest⟩ := List.map_eq_cons_iff.mp hrest
  obtain ⟨fire, _, rfl, hm₅, hrest⟩ := List.map_eq_cons_iff.mp hrest
  obtain rfl := List.map_eq_nil_iff.mp hrest
  simp only [List.forall_mem_cons, hm₁, hm₂, hm₃, hm₄, hm₅, hdecorate, hfire] at hdue
  obtain ⟨hhello, hcatalog, hsnapshot, hdecorated, hfired, -⟩ := hdue
  -- no entry has more answers than are due, and all that are due were read
  have hlength := congrArg List.length hflat
  simp only [answersDue, helloMessage, List.flatMap_cons, List.flatMap_nil, List.length_append,
    List.length_nil, DialMessages.read, List.length_cons] at hhello hcatalog hsnapshot hlength
  have hanswers : hello.answers ++ (catalog.answers ++ (snapshot.answers ++ (decorate.answers ++
      fire.answers))) = [messages.hello] ++ ([messages.catalog] ++ ([messages.snapshot] ++
      ([messages.receipt, messages.mutated] ++ [messages.fired]))) := by
    simpa [DialMessages.read] using hflat
  obtain ⟨hanswer₁, hanswers⟩ := List.append_inj hanswers (by rw [List.length_singleton]; omega)
  obtain ⟨hanswer₂, hanswers⟩ := List.append_inj hanswers (by rw [List.length_singleton]; omega)
  obtain ⟨hanswer₃, hanswers⟩ := List.append_inj hanswers (by rw [List.length_singleton]; omega)
  obtain ⟨hanswer₄, hanswer₅⟩ := List.append_inj hanswers (show _ = 2 by omega)
  exact ⟨hello, catalog, snapshot, decorate, fire, rfl, hall, hanswer₁, hanswer₂, hanswer₃,
    hanswer₄, hanswer₅⟩

/-- One of the five is an intent. -/
theorem decorations_of_exchange {messages : DialMessages} {config : DialConfig}
    {noteSchemaId : String} {hello catalog snapshot decorate fire : Handled}
    {intent : InteropMutationIntent}
    (hexchange : Exchange messages config noteSchemaId hello catalog snapshot decorate fire)
    (hcommand : mutatedMessageSchemaId messages.fire = some fireCommandSchemaId)
    (hother : ∀ h ∈ [hello, catalog, snapshot, decorate, fire],
      mutatedMessageSchemaId h.message ≠ some mutationIntentSchemaId → h.decorated = none)
    (hdecorated : decorate.decorated = some intent) :
    decorations [hello, catalog, snapshot, decorate, fire] = [intent] := by
  have hasked := hexchange.asked
  simp only [List.map_cons, List.map_nil, DialMessages.sent, List.cons.injEq, and_true] at hasked
  obtain ⟨hm₁, hm₂, hm₃, -, hm₅⟩ := hasked
  simp only [List.forall_mem_cons, hm₁, hm₂, hm₃, hm₅, hcommand] at hother
  obtain ⟨hhello, hcatalog, hsnapshot, -, hfire, -⟩ := hother
  have hfired : fire.decorated = none :=
    hfire fun h => fireCommandSchemaId_ne (Option.some.inj h)
  simp only [decorations, List.filterMap_cons, List.filterMap_nil, hdecorated, hfired,
    hhello (by simp [helloMessage, mutatedMessageSchemaId]),
    hcatalog (by simp [mutatedMessageSchemaId]), hsnapshot (by simp [mutatedMessageSchemaId])]

/-! ### From end to end -/

section Exchange

variable {Cache TStream : Type} {cultCache : DocumentCache Cache} [codecs : InteropCodecs]
variable {wiring : Wiring TStream} {peer : Peer} {cache : Cache} {streams : Nat → TStream}
  {log : List ((Nat × Event) × Unit)}
  {s : Interleaving.State Nat (Shared Cache) (Connection TStream)} {messages : List Message}

omit codecs in
theorem shallow_of_payloadDepth {message : Message} (h : message.payloadDepth = 0) :
    Shallow message := by
  unfold Shallow
  rw [h]
  decide

/-- Every entry of the history that was not refused is answered with what is due. -/
theorem length_answers_of_run
    (hrun : Machine.Run (serveStep cultCache wiring peer) (serveStart cache streams) log s)
    {handled : Handled} (h : handled ∈ s.shared.history)
    (houtcome : handled.outcome = .ok messages) :
    messages.length = answersDue handled.message ∧ ∀ m ∈ messages, Shallow m := by
  obtain ⟨before, after, hhistory⟩ := List.mem_iff_append.mp h
  obtain ⟨_, s₁, readings, -, -, -, hhandled⟩ := exists_run_of_handled hrun hhistory
  rw [hhandled] at houtcome
  obtain ⟨hlength, hdepth⟩ := length_answers houtcome
  exact ⟨hlength, fun m hm => shallow_of_payloadDepth (hdepth m hm)⟩

theorem length_answers_le_of_run
    (hrun : Machine.Run (serveStep cultCache wiring peer) (serveStart cache streams) log s)
    {handled : Handled} (h : handled ∈ s.shared.history) :
    handled.answers.length ≤ answersDue handled.message ∧ ∀ m ∈ handled.answers, Shallow m := by
  unfold Handled.answers
  split
  · rename_i messages houtcome
    obtain ⟨hlength, hshallow⟩ := length_answers_of_run hrun h houtcome
    exact ⟨hlength.le, hshallow⟩
  · simp

/-- An entry with answers is a turn that came to them, on the cache that the entries before it had
made. -/
theorem exists_run_of_answers
    (hrun : Machine.Run (serveStep cultCache wiring peer) (serveStart cache streams) log s)
    {before after : List Handled} {handled : Handled} {m : Message} {rest : List Message}
    (hhistory : s.shared.history = before ++ handled :: after)
    (hanswers : handled.answers = m :: rest) :
    ∃ earlier s₁ readings,
      Machine.Run (serveStep cultCache wiring peer) (serveStart cache streams) earlier s₁ ∧
      s₁.shared.history = before ∧
      (handleMessage cultCache peer s₁.shared.cache handled.message readings).outcome
        = .ok (m :: rest) := by
  obtain ⟨earlier, s₁, readings, -, hrun₁, hbefore, hhandled⟩ := exists_run_of_handled hrun hhistory
  refine ⟨earlier, s₁, readings, hrun₁, hbefore, ?_⟩
  rw [hhandled] at hanswers
  unfold Handled.answers Turn.handled at hanswers
  simp only at hanswers
  split at hanswers
  · rename_i messages houtcome
    rw [houtcome, hanswers]
  · simp at hanswers

variable (lawful : cultCache.Lawful) (hcodecs : codecs.Lawful)
  (hids : AtOwnId (notesOf cultCache cache))

include lawful hcodecs hids

/-- What was not an intent decorated nothing. -/
theorem decorated_eq_none_of_run
    (hrun : Machine.Run (serveStep cultCache wiring peer) (serveStart cache streams) log s)
    {handled : Handled} (h : handled ∈ s.shared.history)
    (hother : mutatedMessageSchemaId handled.message ≠ some mutationIntentSchemaId) :
    handled.decorated = none := by
  obtain ⟨before, after, hhistory⟩ := List.mem_iff_append.mp h
  have hturned := (turned_of_run lawful hcodecs hids hrun hhistory).2
  cases hdecorated : handled.decorated with
  | none => rfl
  | some intent => exact absurd (hturned intent hdecorated).1.schemaId hother

omit lawful hcodecs hids in
/-- The messages of a dial nest nothing. -/
theorem shallow_sent {dialCache : DocumentCache Cache} {debugMessage : Message → String}
    {config : DialConfig} {noteSchemaId decorateAt fireAt : String} {report : DialReport}
    {messages : DialMessages}
    (hdialled : Dialled dialCache debugMessage config noteSchemaId decorateAt fireAt report messages) :
    ∀ m ∈ messages.sent config noteSchemaId, Shallow m := by
  have hintent := (puts_of_create hdialled.decorate (binding_mutationIntent noteSchemaId)).payloadDepth
  have hcommand := (puts_of_create hdialled.fire (binding_fireCommand noteSchemaId)).payloadDepth
  simp only [DialMessages.sent, List.forall_mem_cons]
  exact ⟨shallow_of_payloadDepth rfl, shallow_of_payloadDepth rfl, shallow_of_payloadDepth rfl,
    shallow_of_payloadDepth hintent, shallow_of_payloadDepth hcommand, by simp⟩

variable {DialCache : Type} {dialCache : DocumentCache DialCache} {debugMessage : Message → String}
  {config : DialConfig} {decorateAt fireAt : String} {report : DialReport} {messages : DialMessages}
  {before after : List Handled} {entry : Handled}

section Entries

variable (hdialled : Dialled dialCache debugMessage config peer.noteSchemaId decorateAt fireAt
    report messages)
  (hrun : Machine.Run (serveStep cultCache wiring peer) (serveStart cache streams) log s)
  (hhistory : s.shared.history = before ++ entry :: after)

include hdialled hrun hhistory

omit lawful hcodecs hids in
/-- The hello that was read is that of the peer. -/
theorem remoteRuntimeId_of_hello
    (hasked : entry.message
      = helloMessage config.runtimeId config.runtimeKind config.agentId config.displayName)
    (hanswers : entry.answers = [messages.hello]) :
    report.remoteRuntimeId = peer.config.runtimeId := by
  obtain ⟨_, _, _, -, -, houtcome⟩ := exists_run_of_answers hrun hhistory hanswers
  rw [hasked] at houtcome
  have hsame := hdialled.hello
  rw [← List.singleton_inj.mp (Except.ok.inj houtcome)] at hsame
  exact (Except.ok.inj hsame).symm

/-- The note that was retrieved is what the entries before had made of it. -/
theorem retrievedNote_of_snapshot (hservable : AllServable cultCache peer cache)
    (hpeer : peer.WellFormed) (dialLawful : dialCache.Lawful)
    (hasked : entry.message
      = .snapshotRequest (config.runtimeId ++ "-snapshot") (some [peer.noteSchemaId]) none)
    (hanswers : entry.answers = [messages.snapshot]) :
    decorateAll (notesOf cultCache cache) (decorations before) report.retrievedNote.documentId
      = some report.retrievedNote := by
  obtain ⟨_, s₁, _, hrun₁, hbefore, houtcome⟩ := exists_run_of_answers hrun hhistory hanswers
  rw [hasked] at houtcome
  obtain ⟨_, _, _, happlied, hnote⟩ := hdialled.retrieved
  obtain ⟨key, hkey⟩ := held_of_snapshot lawful dialLawful hpeer
    (allServable_of_run lawful hcodecs hids hservable hrun₁) houtcome happlied hnote
  rw [notes_of_run lawful hcodecs hids hrun₁, hbefore] at hkey
  rw [hids.decorateAll _ _ _ hkey]
  exact hkey

/-- The note that came back is what the entries up to the intent had made of it. -/
theorem mutatedNote_of_decorate (dialLawful : dialCache.Lawful)
    (hasked : entry.message = messages.decorate)
    (hanswers : entry.answers = [messages.receipt, messages.mutated]) :
    entry.decorated = some (decorateIntent config.runtimeId report.retrievedNote) ∧
    decorateAll (notesOf cultCache cache) (decorations (before ++ [entry]))
      report.retrievedNote.documentId = some report.mutatedNote := by
  have hputs := puts_of_create hdialled.decorate (binding_mutationIntent peer.noteSchemaId)
  have houtcome : entry.outcome = .ok [messages.receipt, messages.mutated] := by
    unfold Handled.answers at hanswers
    split at hanswers
    · rename_i answers houtcome
      rw [houtcome, hanswers]
    · simp at hanswers
  obtain ⟨hintent, hdone⟩ := turned_of_run lawful hcodecs hids hrun hhistory
  rcases hintent _ (by rw [hasked]; exact hputs.putsIntent hcodecs) with hdecorated | ⟨-, e, herror⟩
  · obtain ⟨-, note, readings, hnote, hanswer⟩ := hdone _ hdecorated
    obtain ⟨receiptMessage, noteMessage, hmessages, -, hnoteMessage⟩ :=
      mutationMessages_eq_ok (hanswer.symm.trans houtcome)
    obtain ⟨_, _, happlied⟩ := hdialled.mutated
    simp only [List.cons.injEq, and_true] at hmessages
    rw [hmessages.2] at happlied
    rw [applied_of_puts dialLawful hcodecs.note.decode_encode hnoteMessage happlied]
    exact ⟨hdecorated, hnote⟩
  · rw [houtcome] at herror
    simp at herror

omit hids in
/-- The receipt that came back is for the command. -/
theorem fireReceipt_of_fire (dialLawful : dialCache.Lawful) (hasked : entry.message = messages.fire)
    (hanswers : entry.answers = [messages.fired]) :
    report.fireReceipt = fireReceipt (fireCommand config.runtimeId report.remoteRuntimeId) := by
  have hputs := puts_of_create hdialled.fire (binding_fireCommand peer.noteSchemaId)
  obtain ⟨_, _, _, -, -, houtcome⟩ := exists_run_of_answers hrun hhistory hanswers
  rw [hasked] at houtcome
  obtain ⟨receiptMessage, hmessages, hreceipt⟩ :=
    fireMessages_eq_ok (handleMessage_fire lawful hcodecs hputs houtcome)
  obtain ⟨_, _, happlied⟩ := hdialled.fired
  rw [List.singleton_inj.mp hmessages] at happlied
  exact applied_of_puts dialLawful hcodecs.fireReceipt.decode_encode hreceipt happlied

end Entries

/--
**A dial that comes to its end has had its exchange.**  Whatever other clients do meanwhile: the
runtime that it found is that of the peer, and the receipt for its shot is for that.  Its intent was
applied exactly once; the note that it retrieved is what the history had made of it so far, and the
note that came back is that note with every decoration of the others in between, and then its own.
-/
theorem dial_exchanged (hservable : AllServable cultCache peer cache) (hpeer : peer.WellFormed)
    (hfaithful : wiring.Faithful) {written : TStream → List UInt8}
    (hwriter : wiring.writer.Lawful written) {connection : Nat}
    (hfresh : written (streams connection) = [])
    (hrun : Machine.Run (serveStep cultCache wiring peer) (serveStart cache streams) log s)
    (dialLawful : dialCache.Lawful) {dialed : DialCache}
    {read sent : List Message}
    (hdial : Ended (dial dialCache debugMessage config peer.noteSchemaId dialed decorateAt fireAt)
      read sent report)
    (harrived : arrivedOn connection log <+: wireOf wiring sent)
    {payloads : List (List UInt8)} (hfits : ∀ payload ∈ payloads, payload.length < 2 ^ 32)
    (hread : payloads.mapM (readPayload wiring) = .ok read)
    (htaken : payloads.flatMap frameOf <+: written (s.locals connection).stream) :
    let intent := decorateIntent config.runtimeId report.retrievedNote
    report.remoteRuntimeId = peer.config.runtimeId ∧
    report.fireReceipt = fireReceipt (fireCommand config.runtimeId peer.config.runtimeId) ∧
    decorations (handledOn connection s.shared.history) = [intent] ∧
    ∃ earlier between entry later, s.shared.history = earlier ++ between ++ entry :: later ∧
      entry.connection = connection ∧ entry.decorated = some intent ∧
      decorateAll (notesOf cultCache cache) (decorations earlier) intent.targetDocumentId
        = some report.retrievedNote ∧
      decorateAll (notesOf cultCache cache) (decorations (earlier ++ between ++ [entry]))
        intent.targetDocumentId = some report.mutatedNote := by
  intro intent
  obtain ⟨messages, rfl, rfl, hdialled⟩ := dialled_of_ended hdial
  have hintent := puts_of_create hdialled.decorate (binding_mutationIntent peer.noteSchemaId)
  have hcommand := puts_of_create hdialled.fire (binding_fireCommand peer.noteSchemaId)
  have hdue : ∀ h ∈ handledOn connection s.shared.history,
      h.answers.length ≤ answersDue h.message ∧ ∀ m ∈ h.answers, Shallow m :=
    fun h hmem => length_answers_le_of_run hrun (List.mem_filter.mp hmem).1
  have hconversation := conversation_of_run hwriter hrun connection
  rw [hfresh] at hconversation
  obtain ⟨hasked, hanswered⟩ := hconversation.client hfaithful harrived (shallow_sent hdialled)
    (fun m hm => by
      obtain ⟨h, hmem, hm⟩ := List.mem_flatMap.mp hm
      exact (hdue h hmem).2 m hm) hfits hread htaken
  obtain ⟨hello, catalog, snapshot, decorate, fire, hentries, hexchange⟩ :=
    exchange_of_read hintent.answersDue_intent hcommand.answersDue_command
      (fun h hmem => (hdue h hmem).1) hasked hanswered
  have hasked := hexchange.asked
  simp only [List.map_cons, List.map_nil, DialMessages.sent, List.cons.injEq, and_true] at hasked
  obtain ⟨hm₁, hm₂, hm₃, hm₄, hm₅⟩ := hasked
  have hmem : ∀ h ∈ [hello, catalog, snapshot, decorate, fire], h ∈ s.shared.history :=
    fun h hh => (List.mem_filter.mp (hentries ▸ hh)).1
  -- where the entries stand in the history
  obtain ⟨l₁, r₁, hhistory₁, -, -, hr₁⟩ := List.filter_eq_cons_iff.mp hentries
  obtain ⟨l₂, r₂, rfl, -, -, hr₂⟩ := List.filter_eq_cons_iff.mp hr₁
  obtain ⟨l₃, r₃, rfl, -, -, hr₃⟩ := List.filter_eq_cons_iff.mp hr₂
  obtain ⟨l₄, r₄, rfl, -, hon, hr₄⟩ := List.filter_eq_cons_iff.mp hr₃
  obtain ⟨l₅, r₅, rfl, -, -, -⟩ := List.filter_eq_cons_iff.mp hr₄
  have hhistory₃ : s.shared.history = (l₁ ++ hello :: l₂ ++ catalog :: l₃) ++
      snapshot :: (l₄ ++ decorate :: (l₅ ++ fire :: r₅)) := by simp [hhistory₁]
  have hhistory₄ : s.shared.history = (l₁ ++ hello :: l₂ ++ catalog :: l₃) ++ (snapshot :: l₄) ++
      decorate :: (l₅ ++ fire :: r₅) := by simp [hhistory₁]
  have hhistory₅ : s.shared.history = (l₁ ++ hello :: l₂ ++ catalog :: l₃ ++ snapshot :: l₄ ++
      decorate :: l₅) ++ fire :: r₅ := by simp [hhistory₁]
  have hremote := remoteRuntimeId_of_hello hdialled hrun hhistory₁ hm₁ hexchange.hello
  obtain ⟨hdecorated, hmutated⟩ := mutatedNote_of_decorate lawful hcodecs hids hdialled hrun
    hhistory₄ dialLawful hm₄ hexchange.decorate
  refine ⟨hremote, ?_, ?_, _, _, decorate, _, hhistory₄, by simpa using hon, hdecorated,
    retrievedNote_of_snapshot lawful hcodecs hids hdialled hrun hhistory₃ hservable hpeer dialLawful
      hm₃ hexchange.snapshot, hmutated⟩
  · rw [← hremote]
    exact fireReceipt_of_fire lawful hcodecs hdialled hrun hhistory₅ dialLawful hm₅ hexchange.fire
  · rw [hentries]
    exact decorations_of_exchange hexchange hcommand.schemaId
      (fun h hh => decorated_eq_none_of_run lawful hcodecs hids hrun (hmem h hh)) hdecorated

end Exchange

/-! ### One dial -/

theorem sampleWiring_faithful : sampleWiring.Faithful where
  base64 := libraryCodecs_lawful.canonical
  codecs := libraryCodecs_faithful
  rmp := libraryRmpSerde_faithful

def sampleDial : DialConfig where
  runtimeId := "ts"
  runtimeKind := "peer"
  displayName := "TypeScript"
  agentId := "agent"

def sampleProgram : Dialogue Message DialReport :=
  dial documentMemoryCache (fun _ => "another message") sampleDial samplePeer.noteSchemaId emptyCache
    "2025-01-01T00:00:00+00:00" "2025-01-01T00:00:01+00:00"

def sampleReport : DialReport where
  remoteRuntimeId := "rust"
  hasInteropSchema := false
  retrievedNote := buildNote "rust" "Rust"
  mutatedNote := (buildNote "rust" "Rust").decorate (decorateIntent "ts" (buildNote "rust" "Rust"))
  fireReceipt := fireReceipt (fireCommand "ts" "rust")

def sampleHello : Message :=
  helloMessage sampleDial.runtimeId sampleDial.runtimeKind sampleDial.agentId sampleDial.displayName

/-- What it sends. -/
def sampleSent : List Message :=
  let registry := capabilityRegistry samplePeer.noteSchemaId
  let intent := decorateIntent sampleDial.runtimeId sampleReport.retrievedNote
  let command := fireCommand sampleDial.runtimeId sampleReport.remoteRuntimeId
  [sampleHello, .schemaCatalogRequest "ts-catalog" (some true) none none,
    .snapshotRequest "ts-snapshot" (some ["note"]) none] ++
  (registry.createRawDocumentPutMessage (sampleDial.runtimeId ++ "-decorate-put") intent.intentId
    intent {} "2025-01-01T00:00:00+00:00").toOption.toList ++
  (registry.createRawDocumentPutMessage (sampleDial.runtimeId ++ "-fire-put") command.commandId
    command {} "2025-01-01T00:00:01+00:00").toOption.toList

/-- What it makes of the answers to that. -/
theorem sample_dialled : ∃ log s sent,
    Machine.Run (serveStep documentMemoryCache sampleWiring samplePeer)
      (serveStart sampleCache fun _ => {}) log s ∧
    arrivedOn 0 log = wireOf sampleWiring sampleSent ∧ (s.locals 0).running = true ∧
    Ended sampleProgram ((handledOn 0 s.shared.history).flatMap Handled.answers) sent
      sampleReport := by
  have hexec : (Machine.exec (serveStep documentMemoryCache sampleWiring samplePeer)
      (serveStart sampleCache fun _ => {})
      ((0, .arrive (wireOf sampleWiring sampleSent)) ::
        List.replicate 5 (0, .serve sampleReadings))).any
      (fun r => decide ((r.2.locals 0).running = true ∧
        (sampleProgram.run ((handledOn 0 r.2.shared.history).flatMap Handled.answers)).map
          (fun ended => (ended.1.toOption, ended.2.2.length)) = some (some sampleReport, 0)))
        = true := by
    decide +kernel
  obtain ⟨log, s, hrun, hinputs, hcheck⟩ := Machine.Run.of_exec_any hexec
  obtain ⟨hrunning, hended⟩ := of_decide_eq_true hcheck
  obtain ⟨⟨result, sent, unread⟩, hprogram, hresult⟩ := Option.map_eq_some_iff.mp hended
  simp only [Prod.mk.injEq, List.length_eq_zero_iff] at hresult
  obtain ⟨hresult, rfl⟩ := hresult
  have hreport : result = .ok sampleReport := by
    cases result with
    | error e => simp [Except.toOption] at hresult
    | ok report => rw [Option.some.inj hresult]
  refine ⟨log, s, sent, hrun, ?_, hrunning, Dialogue.ended_of_run (hreport ▸ hprogram)⟩
  rw [arrivedOn_of_inputs hinputs]
  simp [Event.bytes, List.replicate]

theorem sampleSent_eq {sent read : List Message} (h : Ended sampleProgram read sent sampleReport) :
    sent = sampleSent := by
  obtain ⟨messages, rfl, -, hdialled⟩ := dialled_of_ended h
  obtain ⟨-, -, -, -, hdecorate, -, hfire, -⟩ := hdialled
  unfold sampleSent
  simp only [hdecorate, hfire]
  rfl

/-- A dial with a new peer, with nobody else about. -/
theorem dial_exchanged_sample : ∃ s : Interleaving.State Nat (Shared MemoryCache)
      (Connection (StreamWriter.Sink UInt8)),
    let intent := decorateIntent sampleDial.runtimeId sampleReport.retrievedNote
    sampleReport.remoteRuntimeId = samplePeer.config.runtimeId ∧
    sampleReport.fireReceipt
      = fireReceipt (fireCommand sampleDial.runtimeId samplePeer.config.runtimeId) ∧
    decorations (handledOn 0 s.shared.history) = [intent] ∧
    ∃ earlier between entry later, s.shared.history = earlier ++ between ++ entry :: later ∧
      entry.connection = 0 ∧ entry.decorated = some intent ∧
      decorateAll (notesOf documentMemoryCache sampleCache) (decorations earlier)
        intent.targetDocumentId = some sampleReport.retrievedNote ∧
      decorateAll (notesOf documentMemoryCache sampleCache)
        (decorations (earlier ++ between ++ [entry])) intent.targetDocumentId
        = some sampleReport.mutatedNote := by
  obtain ⟨log, s, sent, hrun, harrived, hrunning, hended⟩ := sample_dialled
  rw [← sampleSent_eq hended] at harrived
  have hwriter := StreamWriter.sinks_lawful UInt8 64
  have hconversation := conversation_of_run hwriter hrun 0
  obtain ⟨out, hout, -, hall⟩ := hconversation.answered
  obtain ⟨rfl, hframed⟩ := hall hrunning
  have hshallow : ∀ m ∈ (handledOn 0 s.shared.history).flatMap Handled.answers, Shallow m := by
    intro m hm
    obtain ⟨h, hmem, hm⟩ := List.mem_flatMap.mp hm
    exact (length_answers_le_of_run hrun (List.mem_filter.mp hmem).1).2 m hm
  obtain ⟨payloads, hfits, hread, hwire⟩ :=
    exists_payloads_of_allFramed sampleWiring_faithful hframed hshallow
  refine ⟨s, dial_exchanged documentMemoryCache_lawful libraryInteropCodecs_lawful
    sampleCache_atOwnId sampleCache_servable samplePeer_wellFormed sampleWiring_faithful hwriter rfl
    hrun documentMemoryCache_lawful hended ?_ hfits hread ?_⟩
  · rw [harrived]
  · rw [hwire, hout]
    exact List.prefix_rfl

end CultNet.Interop
