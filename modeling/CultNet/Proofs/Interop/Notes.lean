/-
No decoration of a note is lost.

What a handler does to the notes is known from two things: whether it stored a note,
and by which intent (`handleMessage_notes`).  The handlers run one after another, each
under the lock, in the order of the history.  So at any time, whatever the clients send
on however many connections, every note is what it was at the start, with the intents
of the history that aim at it applied in their order; and a receipt says what the note
was right after the intent that it is for, with every earlier decoration in it and no
later one.
-/
import CultNet.Interop.Server
import CultNet.Proofs.Changes
import CultNet.Proofs.Interop.Derives
import CultNet.Proofs.Wire.Bytes

namespace CultNet.Interop

/-! ### The types of the records -/

section Bindings

variable [codecs : InteropCodecs]

/-- The types of the five records are different. -/
theorem nodup_types (noteSchemaId : String) :
    ((capabilityBindings noteSchemaId).map DocumentBinding.documentType).Nodup := by
  have hnodup : [interopDocumentType, mutationIntentType, mutationReceiptType, fireCommandType,
      fireReceiptType].Nodup := by decide
  exact hnodup

/-- Each type has the binding that it was registered with. -/
theorem binding_of_mem {noteSchemaId documentType : String} {b : DocumentBinding}
    (h : b ∈ capabilityBindings noteSchemaId) (htype : b.documentType = documentType) :
    (capabilityRegistry noteSchemaId).binding documentType = some b := by
  obtain ⟨c, hc⟩ := DocumentRegistry.exists_binding h
  rw [htype] at hc
  obtain ⟨hmem, hsame⟩ := DocumentRegistry.mem_of_binding hc
  obtain rfl := List.inj_on_of_nodup_map (nodup_types noteSchemaId) hmem h (hsame.trans htype.symm)
  exact hc

theorem binding_note (noteSchemaId : String) :
    (capabilityRegistry noteSchemaId).binding interopDocumentType
      = some (.forEntryWithSchemaId InteropNote noteSchemaId (some interopSchemaVersion)) :=
  binding_of_mem (by simp [capabilityBindings]) rfl

theorem binding_mutationIntent (noteSchemaId : String) :
    (capabilityRegistry noteSchemaId).binding mutationIntentType
      = some (.forEntryWithSchemaId InteropMutationIntent mutationIntentSchemaId
          (some mutationIntentSchemaVersion)) :=
  binding_of_mem (by simp [capabilityBindings]) rfl

theorem binding_mutationReceipt (noteSchemaId : String) :
    (capabilityRegistry noteSchemaId).binding mutationReceiptType
      = some (.forEntryWithSchemaId InteropMutationReceipt mutationReceiptSchemaId
          (some mutationReceiptSchemaVersion)) :=
  binding_of_mem (by simp [capabilityBindings]) rfl

theorem binding_fireCommand (noteSchemaId : String) :
    (capabilityRegistry noteSchemaId).binding fireCommandType
      = some (.forEntryWithSchemaId InteropFireCommand fireCommandSchemaId
          (some fireCommandSchemaVersion)) :=
  binding_of_mem (by simp [capabilityBindings]) rfl

theorem binding_fireReceipt (noteSchemaId : String) :
    (capabilityRegistry noteSchemaId).binding fireReceiptType
      = some (.forEntryWithSchemaId InteropFireReceipt fireReceiptSchemaId
          (some fireReceiptSchemaVersion)) :=
  binding_of_mem (by simp [capabilityBindings]) rfl

end Bindings

/-! ### One handler -/

section Handlers

variable {Cache : Type} {cultCache : DocumentCache Cache} [codecs : InteropCodecs] {peer : Peer}
variable (lawful : cultCache.Lawful) {cache : Cache} {message : Message} {readings : Readings}

/-- The notes of a cache, by their keys. -/
abbrev notesOf (cultCache : DocumentCache Cache) (cache : Cache) : String → Option InteropNote :=
  cultCache.held InteropNote cache

/-- A message puts an intent. -/
def PutsIntent (message : Message) (intent : InteropMutationIntent) : Prop :=
  ∃ messageId document, message = .documentPutRaw messageId document ∧
    document.schemaId = mutationIntentSchemaId ∧
    codecs.mutationIntent.decode document.payload = .ok intent

include lawful

/-- Applying a put of a record that is no note leaves the notes. -/
theorem notesOf_applyRawDocumentPutMessage {T : Type} [entry : DatabaseEntry T]
    (htype : entry.type ≠ interopDocumentType) {result : Except String T} {cache' : Cache}
    (h : peer.documentRegistry.applyRawDocumentPutMessage cultCache.toCultCache T cache message
      = (result, cache')) : notesOf cultCache cache' = notesOf cultCache cache := by
  cases result with
  | error e => rw [DocumentRegistry.applyRawDocumentPutMessage_error lawful h]
  | ok value =>
      obtain ⟨_, _, _, -, -, -, -, hrewrites⟩ :=
        DocumentRegistry.applyRawDocumentPutMessage_ok lawful h
      exact hrewrites.held_other lawful htype

/-- The intent is stored, or refused; then the note is stored, or the cache is left as it is. -/
theorem decorateNote_cases {now : String} {cache' : Cache}
    {result : Except String (InteropMutationIntent × InteropNote)}
    (h : decorateNote cultCache peer cache message now = (result, cache')) :
    ∃ put stored, peer.documentRegistry.applyRawDocumentPutMessage cultCache.toCultCache
        InteropMutationIntent cache message = (put, stored) ∧
      ((∃ e, result = .error e) ∧ cache' = stored ∨
        ∃ intent before value, put = .ok intent ∧
          notesOf cultCache stored intent.targetDocumentId = some before ∧
          result = .ok (intent, before.decorate intent) ∧
          cultCache.put InteropNote stored before.documentId (before.decorate intent) now
            = (.ok value, cache')) := by
  unfold decorateNote at h
  split at h
  · rename_i e stored hput
    obtain ⟨rfl, rfl⟩ := Prod.mk.inj h
    exact ⟨_, _, hput, .inl ⟨⟨e, rfl⟩, rfl⟩⟩
  · rename_i intent stored hput
    refine ⟨_, _, hput, ?_⟩
    split at h
    · rename_i e hmissing
      obtain ⟨rfl, rfl⟩ := Prod.mk.inj h
      exact .inl ⟨⟨e, rfl⟩, rfl⟩
    · rename_i before hbefore
      simp only at h
      split at h
      · rename_i e after hstore
        obtain ⟨rfl, rfl⟩ := Prod.mk.inj h
        exact .inl ⟨⟨e, rfl⟩, lawful.put_error InteropNote _ _ _ _ _ _ hstore⟩
      · rename_i value after hstore
        obtain ⟨rfl, rfl⟩ := Prod.mk.inj h
        refine .inr ⟨intent, before, value, rfl, ?_, rfl, hstore⟩
        unfold notesOf DocumentCache.held
        rw [hbefore]
        rfl

theorem notesOf_applyIntent {put : Except String InteropMutationIntent} {stored : Cache}
    (h : peer.documentRegistry.applyRawDocumentPutMessage cultCache.toCultCache
      InteropMutationIntent cache message = (put, stored)) :
    notesOf cultCache stored = notesOf cultCache cache := by
  have htype : mutationIntentType ≠ interopDocumentType := by decide
  exact notesOf_applyRawDocumentPutMessage lawful htype h

theorem decorateNote_ok (hcodecs : codecs.Lawful) {intent : InteropMutationIntent}
    {note : InteropNote} {now : String} {cache' : Cache}
    (h : decorateNote cultCache peer cache message now = (.ok (intent, note), cache')) :
    PutsIntent message intent ∧ ∃ before,
      notesOf cultCache cache intent.targetDocumentId = some before ∧
      note = before.decorate intent ∧
      notesOf cultCache cache'
        = Function.update (notesOf cultCache cache) before.documentId (some note) := by
  obtain ⟨put, stored, hput, ⟨⟨e, he⟩, -⟩ | ⟨intent', before, value, rfl, hbefore, hdone, hstore⟩⟩ :=
    decorateNote_cases lawful h
  · simp at he
  obtain ⟨rfl, rfl⟩ := Prod.mk.inj (Except.ok.inj hdone)
  rw [← notesOf_applyIntent lawful hput]
  obtain ⟨messageId, document, binding, hmessage, hb, hschema, hdecode, -⟩ :=
    DocumentRegistry.applyRawDocumentPutMessage_ok lawful hput
  have hbinding := (binding_mutationIntent peer.noteSchemaId).symm.trans hb
  rw [← Option.some.inj hbinding] at hschema
  refine ⟨⟨messageId, document, hmessage, hschema, hdecode⟩, before, hbefore, rfl, ?_⟩
  obtain ⟨-, envelope, -, hencode, hrewrites⟩ := lawful.rewrites_put hstore
  have hread : (DatabaseEntry.decode envelope.payload : Except String InteropNote)
      = .ok (before.decorate intent) := hcodecs.note.decode_encode _ _ hencode
  have hupdate := hrewrites.held_update lawful
  rw [Option.bind_some, hread] at hupdate
  exact hupdate

theorem decorateNote_error {e now : String} {cache' : Cache}
    (h : decorateNote cultCache peer cache message now = (.error e, cache')) :
    notesOf cultCache cache' = notesOf cultCache cache := by
  obtain ⟨put, stored, hput, ⟨-, rfl⟩ | ⟨_, _, _, -, -, hdone, -⟩⟩ := decorateNote_cases lawful h
  · exact notesOf_applyIntent lawful hput
  · simp at hdone

omit lawful in
/-- What handling a message can do to the notes. -/
inductive Turned (cultCache : DocumentCache Cache) (peer : Peer) (cache : Cache)
    (message : Message) (readings : Readings) (turn : Turn Cache) : Prop
  | kept (hnone : turn.decorated = none)
      (hnotes : notesOf cultCache turn.cache = notesOf cultCache cache)
      (hrefused : ∀ intent, PutsIntent message intent → ∃ e, turn.outcome = .error e)
  | decorated {intent : InteropMutationIntent} {before : InteropNote}
      (hsome : turn.decorated = some intent) (hputs : PutsIntent message intent)
      (hbefore : notesOf cultCache cache intent.targetDocumentId = some before)
      (hnotes : notesOf cultCache turn.cache = Function.update (notesOf cultCache cache)
        before.documentId (some (before.decorate intent)))
      (houtcome : turn.outcome = mutationMessages peer intent (before.decorate intent) readings)

/-- **A handler leaves the notes, or decorates one by the intent that was put.** -/
theorem handleMessage_notes (hcodecs : codecs.Lawful) :
    Turned cultCache peer cache message readings
      (handleMessage cultCache peer cache message readings) := by
  have hother : ∀ {message : Message} {outcome : Except String (List Message)},
      (∀ messageId document, message ≠ .documentPutRaw messageId document) →
        Turned cultCache peer cache message readings { cache, outcome } := by
    intro message outcome hkind
    refine .kept rfl rfl ?_
    rintro intent ⟨messageId, document, rfl, -⟩
    exact absurd rfl (hkind messageId document)
  unfold handleMessage
  split
  · exact hother (by simp)
  · exact hother (by simp)
  · exact hother (by simp)
  · rename_i messageId document
    simp only [handleRawPut]
    by_cases hintent : document.schemaId = mutationIntentSchemaId
    · rw [if_pos hintent]
      split
      · rename_i e after herror
        exact .kept rfl (decorateNote_error lawful herror) fun _ _ => ⟨e, rfl⟩
      · rename_i intent note after hok
        obtain ⟨hputs, before, hbefore, rfl, hnotes⟩ := decorateNote_ok lawful hcodecs hok
        exact .decorated rfl hputs hbefore hnotes rfl
    · rw [if_neg hintent]
      have hnone : ∀ intent, ¬ PutsIntent (.documentPutRaw messageId document) intent := by
        rintro intent ⟨_, _, hmessage, hschema, -⟩
        obtain ⟨-, rfl⟩ := Message.documentPutRaw.inj hmessage
        exact hintent hschema
      by_cases hfire : document.schemaId = fireCommandSchemaId
      · rw [if_pos hfire]
        have htype : fireCommandType ≠ interopDocumentType := by decide
        split
        · rename_i e after hput
          exact .kept rfl (notesOf_applyRawDocumentPutMessage lawful htype hput)
            fun intent h => absurd h (hnone intent)
        · rename_i command after hput
          exact .kept rfl (notesOf_applyRawDocumentPutMessage lawful htype hput)
            fun intent h => absurd h (hnone intent)
      · rw [if_neg hfire]
        exact .kept rfl rfl fun intent h => absurd h (hnone intent)
  · rename_i _ _ _ hkind
    exact hother hkind

end Handlers

/-! ### The notes along a run -/

/-- The intents of a history by which a note was stored, in their order. -/
def decorations (history : List Handled) : List InteropMutationIntent :=
  history.filterMap Handled.decorated

/-- What intents, one after another, make of the notes that they aim at. -/
def decorateAll (notes : String → Option InteropNote) (intents : List InteropMutationIntent) :
    String → Option InteropNote :=
  fun key => (notes key).map fun note =>
    (intents.filter fun intent => intent.targetDocumentId = key).foldl InteropNote.decorate note

/-- Every note stands under its own id. -/
def AtOwnId (notes : String → Option InteropNote) : Prop :=
  ∀ key note, notes key = some note → note.documentId = key

theorem decorateAll_nil (notes : String → Option InteropNote) : decorateAll notes [] = notes := by
  funext key
  simp [decorateAll]

theorem documentId_foldl_decorate (intents : List InteropMutationIntent) (note : InteropNote) :
    (intents.foldl InteropNote.decorate note).documentId = note.documentId := by
  induction intents generalizing note with
  | nil => rfl
  | cons intent rest ih => rw [List.foldl_cons, ih]; rfl

theorem AtOwnId.decorateAll {notes : String → Option InteropNote} (h : AtOwnId notes)
    (intents : List InteropMutationIntent) : AtOwnId (Interop.decorateAll notes intents) := by
  intro key note hnote
  obtain ⟨before, hbefore, rfl⟩ := Option.map_eq_some_iff.mp hnote
  rw [documentId_foldl_decorate]
  exact h key before hbefore

/-- One more intent is one more decoration of the note that it aims at. -/
theorem decorateAll_snoc {notes : String → Option InteropNote} (h : AtOwnId notes)
    {intents : List InteropMutationIntent} {intent : InteropMutationIntent} {before : InteropNote}
    (hbefore : decorateAll notes intents intent.targetDocumentId = some before) :
    decorateAll notes (intents ++ [intent]) = Function.update (decorateAll notes intents)
      before.documentId (some (before.decorate intent)) := by
  have hid : before.documentId = intent.targetDocumentId :=
    h.decorateAll intents _ _ hbefore
  rw [hid]
  funext key
  by_cases hkey : key = intent.targetDocumentId
  · rw [hkey, Function.update_self]
    obtain ⟨note, hnote, hfold⟩ := Option.map_eq_some_iff.mp hbefore
    simp [decorateAll, hnote, ← hfold]
  · rw [Function.update_of_ne hkey]
    simp [decorateAll, Ne.symm hkey]

/-! ### Steps of the peer -/

section Runs

variable {Cache TStream : Type} {cultCache : DocumentCache Cache} [codecs : InteropCodecs]
variable {wiring : Wiring TStream} {peer : Peer}

/-- What a turn adds to the history. -/
def Turn.handled (turn : Turn Cache) (connection : Nat) (message : Message) : Handled where
  connection
  message
  decorated := turn.decorated
  outcome := turn.outcome

/-- What an event on a connection can come to. -/
inductive Acted (cultCache : DocumentCache Cache) (wiring : Wiring TStream) (peer : Peer)
    (connection : Nat) (shared : Shared Cache) (own : Connection TStream) :
    Event → Shared Cache → Connection TStream → Prop
  | arrived {bytes : List UInt8} (hopen : own.ended = false) :
      Acted cultCache wiring peer connection shared own (.arrive bytes) shared
        { own with inbound := own.inbound ++ bytes }
  | finished : Acted cultCache wiring peer connection shared own .finish shared
      { own with ended := true }
  | reset : Acted cultCache wiring peer connection shared own .reset shared
      { own with running := false }
  | ended {readings : Readings} (hnone : takeFrame own.inbound = none) :
      Acted cultCache wiring peer connection shared own (.serve readings) shared
        { own with running := false }
  | garbled {readings : Readings} {payload inbound : List UInt8}
      (htake : takeFrame own.inbound = some (payload, inbound)) :
      Acted cultCache wiring peer connection shared own (.serve readings) shared
        { own with inbound, running := false }
  | handled {readings : Readings} {payload inbound : List UInt8} {message : Message}
      {turn : Turn Cache} (hrunning : own.running = true)
      (htake : takeFrame own.inbound = some (payload, inbound))
      (hdecode : decodeCultnetMessageFromSlice wiring.codecs wiring.rmp payload .cultNetSchemaV0
        = .ok message)
      (hturn : turn = handleMessage cultCache peer shared.cache message readings) :
      Acted cultCache wiring peer connection shared own (.serve readings)
        { cache := turn.cache, history := shared.history ++ [turn.handled connection message] }
        { own with
          inbound
          stream := (sendOutcome wiring own.stream turn.outcome).2
          running := (sendOutcome wiring own.stream turn.outcome).1.isOk }

theorem serveAct_acted {connection : Nat} {shared shared' : Shared Cache}
    {own own' : Connection TStream} {event : Event}
    (h : serveAct cultCache wiring peer connection shared own event = some (shared', own')) :
    Acted cultCache wiring peer connection shared own event shared' own' := by
  cases event with
  | arrive bytes =>
      simp only [serveAct] at h
      by_cases hended : own.ended = true
      · simp [hended] at h
      · rw [if_neg hended] at h
        obtain ⟨rfl, rfl⟩ := Prod.mk.inj (Option.some.inj h)
        exact .arrived (Bool.not_eq_true _ ▸ hended)
  | finish =>
      obtain ⟨rfl, rfl⟩ := Prod.mk.inj (Option.some.inj h)
      exact .finished
  | reset =>
      obtain ⟨rfl, rfl⟩ := Prod.mk.inj (Option.some.inj h)
      exact .reset
  | serve readings =>
      simp only [serveAct, serveOnce] at h
      by_cases hrunning : own.running = true
      case neg => simp [hrunning] at h
      simp only [hrunning, Bool.not_true, Bool.false_eq_true, if_false] at h
      split at h
      · rename_i hnone
        by_cases hended : own.ended = true
        · rw [if_pos hended] at h
          obtain ⟨rfl, rfl⟩ := Prod.mk.inj (Option.some.inj h)
          exact .ended hnone
        · simp [hended] at h
      · rename_i payload inbound htake
        split at h
        · obtain ⟨rfl, rfl⟩ := Prod.mk.inj (Option.some.inj h)
          exact .garbled htake
        · rename_i message hdecode
          obtain ⟨rfl, rfl⟩ := Prod.mk.inj (Option.some.inj h)
          exact .handled hrunning htake hdecode rfl

omit codecs in
/-- What was decoded has passed its check. -/
theorem validate_of_decode {messageCodecs : Codecs} {rmp : RmpSerde} {bytes : List UInt8}
    {message : Message}
    (h : decodeCultnetMessageFromSlice messageCodecs rmp bytes .cultNetSchemaV0 = .ok message) :
    message.validate = .ok () := by
  obtain ⟨w, -, h⟩ := Fallible.bind_eq_ok.mp h
  obtain ⟨m, -, h⟩ := Fallible.bind_eq_ok.mp h
  obtain ⟨hvalid, h⟩ := Fallible.check_bind_eq_ok.mp h
  rwa [Except.ok.inj h] at hvalid

/-- What a step adds to the history, if anything, is a turn on the cache that it found. -/
theorem exists_turn_of_acted {connection : Nat} {shared shared' : Shared Cache}
    {own own' : Connection TStream} {event : Event}
    (h : Acted cultCache wiring peer connection shared own event shared' own') :
    shared' = shared ∨ ∃ message readings, message.validate = .ok () ∧
      shared' = {
        cache := (handleMessage cultCache peer shared.cache message readings).cache
        history := shared.history ++
          [(handleMessage cultCache peer shared.cache message readings).handled connection
            message] } := by
  cases h with
  | @handled readings _ _ message _ _ _ hdecode hturn =>
      subst hturn
      exact .inr ⟨message, readings, validate_of_decode hdecode, rfl⟩
  | _ => exact .inl rfl

/-- The same for a step of the peer. -/
theorem exists_turn_of_step {s s' : Interleaving.State Nat (Shared Cache) (Connection TStream)}
    {input : Nat × Event} {o : Unit}
    (h : serveStep cultCache wiring peer s input = some (o, s')) :
    s'.shared = s.shared ∨ ∃ message readings, message.validate = .ok () ∧
      s'.shared = {
        cache := (handleMessage cultCache peer s.shared.cache message readings).cache
        history := s.shared.history ++
          [(handleMessage cultCache peer s.shared.cache message readings).handled input.1
            message] } :=
  exists_turn_of_acted (serveAct_acted (Interleaving.step_eq_some.mp h).1)

variable {cache : Cache} {streams : Nat → TStream} {log : List ((Nat × Event) × Unit)}
  {s : Interleaving.State Nat (Shared Cache) (Connection TStream)}

/-- Every entry of the history was a turn on the cache that the entries before it had made. -/
theorem exists_run_of_handled
    (hrun : Machine.Run (serveStep cultCache wiring peer) (serveStart cache streams) log s) :
    ∀ {before after : List Handled} {handled : Handled},
      s.shared.history = before ++ handled :: after →
      ∃ earlier s₁ readings, earlier <+: log ∧
        Machine.Run (serveStep cultCache wiring peer) (serveStart cache streams) earlier s₁ ∧
        s₁.shared.history = before ∧
        handled = (handleMessage cultCache peer s₁.shared.cache handled.message readings).handled
          handled.connection handled.message := by
  induction hrun with
  | nil =>
      intro before after handled hhistory
      simp [serveStart] at hhistory
  | @snoc log s s' input o hbefore hstep ih =>
      intro before after handled hhistory
      have hmore : ∀ {earlier}, earlier <+: log → earlier <+: log ++ [(input, o)] :=
        fun h => h.trans (List.prefix_append _ _)
      rcases exists_turn_of_step hstep with hsame | ⟨message, readings, -, hturn⟩
      · rw [hsame] at hhistory
        obtain ⟨earlier, s₁, readings, hearlier, hfound⟩ := ih hhistory
        exact ⟨earlier, s₁, readings, hmore hearlier, hfound⟩
      · rw [hturn] at hhistory
        rcases List.eq_nil_or_concat after with rfl | ⟨after, last, rfl⟩
        · obtain ⟨hentries, hlast⟩ := List.append_inj' hhistory rfl
          obtain rfl := List.singleton_inj.mp hlast
          exact ⟨log, s, readings, List.prefix_append _ _, hbefore, hentries, rfl⟩
        · rw [List.concat_eq_append, ← List.cons_append, ← List.append_assoc] at hhistory
          obtain ⟨hentries, -⟩ := List.append_inj' hhistory rfl
          obtain ⟨earlier, s₁, readings, hearlier, hfound⟩ := ih hentries
          exact ⟨earlier, s₁, readings, hmore hearlier, hfound⟩

omit codecs in
theorem decorations_snoc (history : List Handled) (turn : Turn Cache) (connection : Nat)
    (message : Message) : decorations (history ++ [turn.handled connection message])
      = decorations history ++ turn.decorated.toList := by
  simp only [decorations, List.filterMap_append]
  cases hdecorated : turn.decorated <;> simp [Turn.handled, hdecorated]

section Notes

variable (lawful : cultCache.Lawful) (hcodecs : codecs.Lawful)
  (hids : AtOwnId (notesOf cultCache cache))

include lawful hcodecs hids

/-- **The notes are what the history makes of the notes at the start.** -/
theorem notes_of_run
    (hrun : Machine.Run (serveStep cultCache wiring peer) (serveStart cache streams) log s) :
    notesOf cultCache s.shared.cache
      = decorateAll (notesOf cultCache cache) (decorations s.shared.history) := by
  induction hrun with
  | nil => exact (decorateAll_nil _).symm
  | @snoc log s s' input o _ hstep ih =>
      rcases exists_turn_of_step hstep with hsame | ⟨message, readings, -, hturn⟩
      · rw [hsame, ih]
      · rw [hturn, decorations_snoc]
        have hturned : Turned cultCache peer s.shared.cache message readings _ :=
          handleMessage_notes lawful hcodecs
        cases hturned with
        | kept hnone hkept _ => rw [hkept, ih, hnone, Option.toList_none, List.append_nil]
        | decorated hsome hputs hbefore hnotes _ =>
            rw [ih] at hbefore hnotes
            rw [hnotes, hsome, Option.toList_some, decorateAll_snoc hids hbefore]

/-- What a turn of the history did, in terms of the history alone. -/
theorem turned_of_run
    (hrun : Machine.Run (serveStep cultCache wiring peer) (serveStart cache streams) log s)
    {before after : List Handled} {handled : Handled}
    (hhistory : s.shared.history = before ++ handled :: after) :
    (∀ intent, PutsIntent handled.message intent →
      handled.decorated = some intent ∨
        handled.decorated = none ∧ ∃ e, handled.outcome = .error e) ∧
    ∀ intent, handled.decorated = some intent → PutsIntent handled.message intent ∧
      ∃ note readings, decorateAll (notesOf cultCache cache) (decorations (before ++ [handled]))
        intent.targetDocumentId = some note ∧
      handled.outcome = mutationMessages peer intent note readings := by
  obtain ⟨earlier, s₁, readings, -, hrun₁, hbefore, hhandled⟩ :=
    exists_run_of_handled hrun hhistory
  have hnotes := notes_of_run lawful hcodecs hids hrun₁
  have hturned : Turned cultCache peer s₁.shared.cache handled.message readings _ :=
    handleMessage_notes lawful hcodecs
  rw [hbefore] at hnotes
  generalize handleMessage cultCache peer s₁.shared.cache handled.message readings = turn
    at hhandled hturned
  have hdecorated : handled.decorated = turn.decorated := by rw [hhandled]; rfl
  have houtcome : handled.outcome = turn.outcome := by rw [hhandled]; rfl
  rw [hdecorated, houtcome]
  cases hturned with
  | kept hnone _ hrefused =>
      exact ⟨fun intent h => .inr ⟨hnone, hrefused intent h⟩, by simp [hnone]⟩
  | @decorated intent note hsome hputs hfound _ hanswer =>
      have hsame : ∀ other, PutsIntent handled.message other → other = intent := by
        rintro other ⟨messageId, document, hmessage, -, hother⟩
        obtain ⟨_, _, hmessage', -, hdecode⟩ := hputs
        obtain ⟨-, rfl⟩ := Message.documentPutRaw.inj (hmessage.symm.trans hmessage')
        exact Except.ok.inj (hother.symm.trans hdecode)
      refine ⟨fun other h => .inl (by rw [hsame other h]; exact hsome), fun other h => ?_⟩
      obtain rfl := Option.some.inj (hsome.symm.trans h)
      refine ⟨hputs, note.decorate intent, readings, ?_, hanswer⟩
      rw [hnotes] at hfound
      have hlast : decorations (before ++ [handled]) = decorations before ++ [intent] := by
        rw [hhandled, decorations_snoc, hsome, Option.toList_some]
      rw [hlast, decorateAll_snoc hids hfound, hids.decorateAll _ _ _ hfound, Function.update_self]

/--
**No decoration is lost.**  Whatever the clients of a peer send it, on however many connections and
in whatever order its threads take turns: the notes are what they were, with the intents of the
history applied one after another, each to the note that it aims at.  An intent that was put was
applied, once, or its sender was refused; and one that was applied is answered with the note as it
was right then, with every earlier decoration in it and no later one.
-/
theorem no_decoration_lost
    (hrun : Machine.Run (serveStep cultCache wiring peer) (serveStart cache streams) log s) :
    notesOf cultCache s.shared.cache
      = decorateAll (notesOf cultCache cache) (decorations s.shared.history) ∧
    ∀ before handled after, s.shared.history = before ++ handled :: after →
      (∀ intent, PutsIntent handled.message intent →
        handled.decorated = some intent ∨
          handled.decorated = none ∧ ∃ e, handled.outcome = .error e) ∧
      ∀ intent, handled.decorated = some intent → PutsIntent handled.message intent ∧
        ∃ note readings, decorateAll (notesOf cultCache cache) (decorations (before ++ [handled]))
          intent.targetDocumentId = some note ∧
        handled.outcome = mutationMessages peer intent note readings :=
  ⟨notes_of_run lawful hcodecs hids hrun,
    fun _ _ _ hhistory => turned_of_run lawful hcodecs hids hrun hhistory⟩

end Notes

/-- The note of a peer stands under its own id. -/
theorem AtOwnId.servedCache (lawful : cultCache.Lawful) (hcodecs : codecs.Lawful)
    {pulled : Cache} {now : String} (hids : AtOwnId (notesOf cultCache pulled))
    (h : Interop.servedCache cultCache peer pulled now = .ok cache) :
    AtOwnId (notesOf cultCache cache) := by
  unfold Interop.servedCache at h
  simp only at h
  split at h
  · simp at h
  · rename_i value after hput
    obtain rfl := Except.ok.inj h
    obtain ⟨-, envelope, -, hencode, hrewrites⟩ := lawful.rewrites_put hput
    have hread : (DatabaseEntry.decode envelope.payload : Except String InteropNote)
        = .ok (buildNote peer.config.runtimeId peer.config.displayName) :=
      hcodecs.note.decode_encode _ _ hencode
    have hupdate := hrewrites.held_update lawful
    rw [Option.bind_some, hread] at hupdate
    intro key note hnote
    rw [notesOf, hupdate] at hnote
    by_cases hkey : key = (buildNote peer.config.runtimeId peer.config.displayName).documentId
    · rw [hkey, Function.update_self] at hnote
      rw [hkey, ← Option.some.inj hnote]
    · rw [Function.update_of_ne hkey] at hnote
      exact hids key note hnote

end Runs

/-! ### Two clients -/

def samplePeer : Peer where
  config := { runtimeId := "rust", runtimeKind := "peer", displayName := "Rust", agentId := "agent" }
  noteSchemaId := "note"
  schemaRegistry := .new

def sampleWiring : Wiring (StreamWriter.Sink UInt8) where
  codecs := libraryCodecs
  rmp := libraryRmpSerde
  writer := StreamWriter.sinks UInt8 64

def sampleReadings : Readings where
  stored := "2025-01-01T00:00:00+00:00"
  receipt := "2025-01-01T00:00:01+00:00"
  note := "2025-01-01T00:00:02+00:00"
  filled := by decide

def emptyCache : MemoryCache := ⟨[], List.nodup_nil⟩

/-- A new peer, with its own note. -/
def sampleServed : Except String MemoryCache :=
  servedCache documentMemoryCache samplePeer emptyCache "2025-01-01T00:00:00+00:00"

def sampleCache : MemoryCache := sampleServed.toOption.getD emptyCache

theorem sampleServed_eq_ok : sampleServed = .ok sampleCache := by
  have hok : sampleServed.isOk = true := by decide +kernel
  unfold sampleCache
  cases h : sampleServed with
  | error e => simp [h, Except.isOk, Except.toBool] at hok
  | ok cache => rfl

theorem sampleCache_atOwnId : AtOwnId (notesOf documentMemoryCache sampleCache) := by
  refine AtOwnId.servedCache documentMemoryCache_lawful libraryInteropCodecs_lawful ?_
    sampleServed_eq_ok
  intro key note hnote
  obtain ⟨e, he, -⟩ := documentMemoryCache_lawful.held_eq_some.mp hnote
  exact absurd he List.not_mem_nil

/-- What a client does to the note of the peer. -/
def sampleIntent (client : String) : InteropMutationIntent where
  schemaVersion := mutationIntentSchemaVersion
  intentId := client ++ "-decorate"
  targetDocumentId := "note:rust"
  appendBody := " Decorated by " ++ client ++ "."
  appendTag := "decorated:" ++ client

/-- What it sends for that. -/
def sampleFrame (client : String) : List UInt8 :=
  let intent := sampleIntent client
  let sent := do
    let message ← (capabilityRegistry samplePeer.noteSchemaId).createRawDocumentPutMessage
      "put" intent.intentId intent {} "2025-01-01T00:00:00+00:00"
    frameMessage sampleWiring message
  sent.toOption.getD []

/-- Of two clients that decorate the note, the first to begin is the second to be served. -/
theorem sample_run : ∃ log s,
    Machine.Run (serveStep documentMemoryCache sampleWiring samplePeer)
      (serveStart sampleCache fun _ => {}) log s ∧
    decorations s.shared.history = [sampleIntent "ada", sampleIntent "bob"] := by
  have hexec : (Machine.exec (serveStep documentMemoryCache sampleWiring samplePeer)
      (serveStart sampleCache fun _ => {})
      [(1, .arrive ((sampleFrame "bob").take 100)), (0, .arrive (sampleFrame "ada")),
        (0, .serve sampleReadings), (1, .arrive ((sampleFrame "bob").drop 100)),
        (1, .serve sampleReadings)]).any
      (fun r => decide (decorations r.2.shared.history = [sampleIntent "ada", sampleIntent "bob"]))
        = true := by
    decide +kernel
  obtain ⟨log, s, hrun, -, hcheck⟩ := Machine.Run.of_exec_any hexec
  exact ⟨log, s, hrun, of_decide_eq_true hcheck⟩

/-- What became of the note in it. -/
theorem no_decoration_lost_sample : ∃ s : Interleaving.State Nat (Shared MemoryCache)
      (Connection (StreamWriter.Sink UInt8)),
    decorations s.shared.history = [sampleIntent "ada", sampleIntent "bob"] ∧
    notesOf documentMemoryCache s.shared.cache
      = decorateAll (notesOf documentMemoryCache sampleCache) (decorations s.shared.history) ∧
    ∀ before handled after, s.shared.history = before ++ handled :: after →
      (∀ intent, PutsIntent handled.message intent →
        handled.decorated = some intent ∨
          handled.decorated = none ∧ ∃ e, handled.outcome = .error e) ∧
      ∀ intent, handled.decorated = some intent → PutsIntent handled.message intent ∧
        ∃ note readings, decorateAll (notesOf documentMemoryCache sampleCache)
          (decorations (before ++ [handled])) intent.targetDocumentId = some note ∧
        handled.outcome = mutationMessages samplePeer intent note readings := by
  obtain ⟨log, s, hrun, hdecorations⟩ := sample_run
  exact ⟨s, hdecorations, no_decoration_lost documentMemoryCache_lawful libraryInteropCodecs_lawful
    sampleCache_atOwnId hrun⟩

end CultNet.Interop
