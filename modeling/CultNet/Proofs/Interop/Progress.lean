/-
A dial does not wait in vain.

Whenever a dial waits for a message, it has read fewer messages than are due for those
that it has sent (`dial_waits`).  A peer that has handled all of them, and still
serves, has refused none, and so has written all that is due.  So what the dial waits
for is there, unless the peer has hung up or is not done: the two never wait for each
other.
-/
import CultNet.Proofs.Interop.Dial

namespace CultNet.Interop

open Dialogue (Waits ended_attempt_bind waits_bind waits_tell_bind waits_hear_bind
  waits_attempt_bind not_waits_attempt)

/-! ### What a waiting dial is owed -/

section Waiting

variable {Cache : Type} {cultCache : DocumentCache Cache} [codecs : InteropCodecs]

omit codecs in
theorem waits_applied_bind {α β : Type} {called : Except String α × Cache}
    {f : α × Cache → Dialogue Message β} {received sent : List Message} :
    Waits (applied called >>= f) received sent ↔
      ∃ a, called.1 = .ok a ∧ Waits (f (a, called.2)) received sent := by
  unfold applied
  rw [waits_attempt_bind]
  cases called.1 with
  | error e => simp [Except.map]
  | ok a => simp [Except.map]

section Parts

variable {noteSchemaId runtimeId now : String} {cache : Cache} {read sent : List Message}

/-- It waits for two messages after the intent. -/
theorem mutateRemoteNote_waits {note : InteropNote}
    (h : Waits (mutateRemoteNote cultCache (capabilityRegistry noteSchemaId) noteSchemaId runtimeId
      note now cache) read sent) :
    ∃ decorate, sent = [decorate] ∧ Puts InteropMutationIntent mutationIntentSchemaId
      (decorateIntent runtimeId note) decorate ∧ read.length < 2 := by
  obtain ⟨decorate, hdecorate, h⟩ := waits_attempt_bind.mp h
  have hputs := puts_of_create hdecorate (binding_mutationIntent noteSchemaId)
  obtain ⟨_, hsent, h⟩ := waits_tell_bind.mp h
  rcases waits_hear_bind.mp h with ⟨hread, hrest⟩ | ⟨receipt, _, hreceipt, h⟩
  · subst hsent hread hrest
    exact ⟨decorate, rfl, hputs, by simp⟩
  obtain ⟨_, -, h⟩ := waits_applied_bind.mp h
  rcases waits_hear_bind.mp h with ⟨hread, hrest⟩ | ⟨mutated, _, -, h⟩
  · subst hsent hreceipt hread hrest
    exact ⟨decorate, rfl, hputs, by simp⟩
  obtain ⟨_, -, h⟩ := waits_applied_bind.mp h
  obtain ⟨_, -, h⟩ := waits_attempt_bind.mp h
  exact absurd h not_waits_attempt

/-- It waits for one message after the command. -/
theorem fireRemoteWeapon_waits {remoteRuntimeId : String}
    (h : Waits (fireRemoteWeapon cultCache (capabilityRegistry noteSchemaId) runtimeId
      remoteRuntimeId now cache) read sent) :
    ∃ fire, sent = [fire] ∧ Puts InteropFireCommand fireCommandSchemaId
      (fireCommand runtimeId remoteRuntimeId) fire ∧ read.length < 1 := by
  obtain ⟨fire, hfire, h⟩ := waits_attempt_bind.mp h
  have hputs := puts_of_create hfire (binding_fireCommand noteSchemaId)
  obtain ⟨_, hsent, h⟩ := waits_tell_bind.mp h
  rcases waits_hear_bind.mp h with ⟨hread, hrest⟩ | ⟨fired, _, -, h⟩
  · subst hsent hread hrest
    exact ⟨fire, rfl, hputs, by simp⟩
  exact absurd h not_waits_attempt

end Parts

/-- What a dial asks for is due to it, and nothing that it sends is nested. -/
def Owed (sent : List Message) (due : Nat) : Prop :=
  (sent.map answersDue).sum = due ∧ ∀ m ∈ sent, Shallow m

omit codecs in
theorem Owed.cons {message : Message} {sent : List Message} {due : Nat} (h : Owed sent due)
    (hdepth : message.payloadDepth = 0) : Owed (message :: sent) (answersDue message + due) := by
  refine ⟨by rw [List.map_cons, List.sum_cons, h.1], ?_⟩
  exact List.forall_mem_cons.mpr ⟨shallow_of_payloadDepth hdepth, h.2⟩

omit codecs in
theorem Owed.nil : Owed [] 0 := ⟨rfl, by simp⟩

/-- **A dial that waits has read less than is due to it.** -/
theorem dial_waits {debugMessage : Message → String} {config : DialConfig}
    {noteSchemaId decorateAt fireAt : String} {cache : Cache} {read sent : List Message}
    (h : Waits (dial cultCache debugMessage config noteSchemaId cache decorateAt fireAt) read sent) :
    ∃ due, Owed sent due ∧ read.length < due := by
  obtain ⟨_, hsent₁, h⟩ := waits_tell_bind.mp h
  rcases waits_hear_bind.mp h with ⟨hread, hsent⟩ | ⟨hello, _, hread₁, h⟩
  · subst hread hsent hsent₁
    exact ⟨1, Owed.nil.cons rfl, by simp⟩
  obtain ⟨remoteRuntimeId, -, h⟩ := waits_attempt_bind.mp h
  obtain ⟨_, hsent₂, h⟩ := waits_tell_bind.mp h
  rcases waits_hear_bind.mp h with ⟨hread, hsent⟩ | ⟨catalog, _, hread₂, h⟩
  · subst hread hsent hread₁ hsent₁ hsent₂
    exact ⟨2, (Owed.nil.cons rfl).cons rfl, by simp⟩
  obtain ⟨_, -, h⟩ := waits_attempt_bind.mp h
  obtain ⟨_, hsent₃, h⟩ := waits_tell_bind.mp h
  rcases waits_hear_bind.mp h with ⟨hread, hsent⟩ | ⟨snapshot, _, hread₃, h⟩
  · subst hread hsent hread₁ hread₂ hsent₁ hsent₂ hsent₃
    exact ⟨3, ((Owed.nil.cons rfl).cons rfl).cons rfl, by simp⟩
  obtain ⟨notes, -, h⟩ := waits_applied_bind.mp h
  obtain ⟨note, -, h⟩ := waits_attempt_bind.mp h
  rcases waits_bind h with h | ⟨mutated, _, _, _, _, hread₄, hsent₄, hmutate, h⟩
  · obtain ⟨decorate, hsent, hputs, hread⟩ := mutateRemoteNote_waits h
    subst hread₁ hread₂ hread₃ hsent hsent₁ hsent₂ hsent₃
    have howed := Owed.nil.cons hputs.payloadDepth
    rw [hputs.answersDue_intent] at howed
    refine ⟨5, ((howed.cons rfl).cons rfl).cons rfl, ?_⟩
    simp only [List.length_cons]
    omega
  obtain ⟨decorate, receipt, answer, rfl, rfl, hdecorate, -⟩ := mutateRemoteNote_ended hmutate
  have hintent := puts_of_create hdecorate (binding_mutationIntent noteSchemaId)
  rcases waits_bind h with h | ⟨fired, _, _, _, _, -, -, -, h⟩
  · obtain ⟨fire, hsent, hputs, hread⟩ := fireRemoteWeapon_waits h
    subst hread₁ hread₂ hread₃ hread₄ hsent hsent₁ hsent₂ hsent₃ hsent₄
    have howed := (Owed.nil.cons hputs.payloadDepth).cons hintent.payloadDepth
    rw [hputs.answersDue_command, hintent.answersDue_intent] at howed
    refine ⟨6, ((howed.cons rfl).cons rfl).cons rfl, ?_⟩
    simp only [List.length_cons, List.length_append, List.length_nil]
    omega
  exact absurd h not_waits_attempt

end Waiting

/-! ### What a peer that is done has written -/

section Done

variable {Cache TStream : Type} {cultCache : DocumentCache Cache} [codecs : InteropCodecs]
variable {wiring : Wiring TStream} {peer : Peer} {cache : Cache} {streams : Nat → TStream}
  {log : List ((Nat × Event) × Unit)}
  {s : Interleaving.State Nat (Shared Cache) (Connection TStream)}

/-- A peer that still serves, and has nothing left to read, has answered all that was sent, with
what is due. -/
theorem answers_of_done (hfaithful : wiring.Faithful) {written : TStream → List UInt8}
    (hwriter : wiring.writer.Lawful written) {connection : Nat}
    (hrun : Machine.Run (serveStep cultCache wiring peer) (serveStart cache streams) log s)
    {sent : List Message} {due : Nat} (howed : Owed sent due) (hframed : AllFramed wiring sent)
    (harrived : arrivedOn connection log = wireOf wiring sent)
    (hrunning : (s.locals connection).running = true)
    (hdone : (s.locals connection).inbound = []) :
    ∃ answers, answers.length = due ∧ AllFramed wiring answers ∧ (∀ m ∈ answers, Shallow m) ∧
      written (s.locals connection).stream
        = written (streams connection) ++ wireOf wiring answers := by
  obtain ⟨⟨payloads, rest, hread, hfits, hhandled, hrest⟩, ⟨out, hout, -, hall⟩, hsucceeded⟩ :=
    conversation_of_run hwriter hrun connection
  obtain ⟨rfl, hanswers⟩ := hall hrunning
  -- what arrived are the frames of what was sent, so that was handled
  rw [hrest hrunning, hdone, List.append_nil, harrived] at hread
  obtain ⟨sentPayloads, hsentFits, hsentRead, hsentWire⟩ :=
    exists_payloads_of_allFramed hfaithful hframed howed.2
  have hsame : payloads = sentPayloads := by
    have hprefix : payloads <+: sentPayloads :=
      prefix_of_frames hfits hsentFits (by rw [hsentWire, hread])
    have hprefix' : sentPayloads <+: payloads :=
      prefix_of_frames hsentFits hfits (by rw [hsentWire, hread])
    exact hprefix.eq_of_length_le hprefix'.length_le
  rw [hsame, hsentRead] at hhandled
  have hmessages := Except.ok.inj hhandled
  have hdue : ∀ h ∈ handledOn connection s.shared.history,
      h.answers.length = answersDue h.message ∧ ∀ m ∈ h.answers, Shallow m :=
    fun h hmem => length_answers_of_run hrun (List.mem_filter.mp hmem).1
      (hsucceeded hrunning h hmem)
  refine ⟨_, ?_, hanswers, ?_, hout⟩
  · rw [← howed.1, hmessages, List.length_flatMap, List.map_map]
    exact congrArg List.sum (List.map_congr_left fun h hmem => (hdue h hmem).1)
  · intro m hm
    obtain ⟨h, hmem, hm⟩ := List.mem_flatMap.mp hm
    exact (hdue h hmem).2 m hm

/--
**A dial never waits in vain.**  Where all that a dial has sent has arrived at a peer, which has
read it all and still serves, the message that the dial waits for is on the stream, behind those
that it has read.
-/
theorem dial_not_starved (hfaithful : wiring.Faithful) {written : TStream → List UInt8}
    (hwriter : wiring.writer.Lawful written) {connection : Nat}
    (hfresh : written (streams connection) = [])
    (hrun : Machine.Run (serveStep cultCache wiring peer) (serveStart cache streams) log s)
    {DialCache : Type} {dialCache : DocumentCache DialCache} {debugMessage : Message → String}
    {config : DialConfig} {dialed : DialCache} {noteSchemaId decorateAt fireAt : String}
    {read sent : List Message}
    (hwaits : Waits (dial dialCache debugMessage config noteSchemaId dialed decorateAt fireAt) read
      sent)
    (hframed : AllFramed wiring sent)
    (harrived : arrivedOn connection log = wireOf wiring sent)
    (hrunning : (s.locals connection).running = true)
    (hdone : (s.locals connection).inbound = [])
    {payloads : List (List UInt8)} (hfits : ∀ payload ∈ payloads, payload.length < 2 ^ 32)
    (hread : payloads.mapM (readPayload wiring) = .ok read)
    (htaken : payloads.flatMap frameOf <+: written (s.locals connection).stream) :
    ∃ payload message, payload.length < 2 ^ 32 ∧ readPayload wiring payload = .ok message ∧
      (payloads ++ [payload]).flatMap frameOf <+: written (s.locals connection).stream := by
  obtain ⟨due, howed, hless⟩ := dial_waits hwaits
  obtain ⟨answers, hlength, hanswers, hshallow, hwritten⟩ :=
    answers_of_done hfaithful hwriter hrun howed hframed harrived hrunning hdone
  obtain ⟨all, hallFits, hallRead, hallWire⟩ :=
    exists_payloads_of_allFramed hfaithful hanswers hshallow
  rw [hfresh, List.nil_append, ← hallWire] at hwritten
  rw [hwritten] at htaken ⊢
  obtain ⟨rest, rfl⟩ := prefix_of_frames hfits hallFits htaken
  have hcount : payloads.length = read.length := (Fallible.mapM_eq_ok.mp hread).length_eq
  have hcount' : (payloads ++ rest).length = answers.length :=
    (Fallible.mapM_eq_ok.mp hallRead).length_eq
  cases rest with
  | nil =>
      rw [List.append_nil] at hcount'
      omega
  | cons payload rest =>
      rw [List.mapM_append, List.mapM_cons] at hallRead
      obtain ⟨_, -, hallRead⟩ := Fallible.bind_eq_ok.mp hallRead
      obtain ⟨_, hnext, -⟩ := Fallible.bind_eq_ok.mp hallRead
      obtain ⟨message, hmessage, -⟩ := Fallible.bind_eq_ok.mp hnext
      refine ⟨payload, message, hallFits payload (by simp), hmessage, ?_⟩
      simp

end Done

/-- A dial that waits for the hello of a new peer. -/
theorem dial_not_starved_sample : ∃ s : Interleaving.State Nat (Shared MemoryCache)
      (Connection (StreamWriter.Sink UInt8)),
    handledOn 0 s.shared.history ≠ [] ∧
    ∃ payload message, payload.length < 2 ^ 32 ∧
      readPayload sampleWiring payload = .ok message ∧
      ([] ++ [payload]).flatMap frameOf <+: (s.locals 0).stream.taken := by
  have hexec : (Machine.exec (serveStep documentMemoryCache sampleWiring samplePeer)
      (serveStart sampleCache fun _ => {})
      [(0, .arrive (wireOf sampleWiring [sampleHello])), (0, .serve sampleReadings)]).any
      (fun r => decide ((frameMessage sampleWiring sampleHello).isOk = true ∧
        (r.2.locals 0).running = true ∧ (r.2.locals 0).inbound = [] ∧
        (handledOn 0 r.2.shared.history).length = 1)) = true := by
    decide +kernel
  obtain ⟨log, s, hrun, hinputs, hcheck⟩ := Machine.Run.of_exec_any hexec
  obtain ⟨hok, hrunning, hdone, hhandled⟩ := of_decide_eq_true hcheck
  have hframed : AllFramed sampleWiring [sampleHello] := by
    intro m hm
    rw [List.mem_singleton.mp hm]
    cases hframe : frameMessage sampleWiring sampleHello with
    | error e => simp [hframe, Except.isOk, Except.toBool] at hok
    | ok frame => exact ⟨frame, rfl⟩
  have harrived : arrivedOn 0 log = wireOf sampleWiring [sampleHello] := by
    rw [arrivedOn_of_inputs hinputs]
    simp [Event.bytes]
  have hwaits : Waits sampleProgram [] [sampleHello] := .send .here
  refine ⟨s, fun hnone => by simp [hnone] at hhandled, ?_⟩
  exact dial_not_starved sampleWiring_faithful (StreamWriter.sinks_lawful UInt8 64) rfl hrun hwaits
    hframed harrived hrunning hdone (by simp) rfl List.nil_prefix

end CultNet.Interop
