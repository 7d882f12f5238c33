/-
What one connection sees of a serving peer.

On a connection the peer handles the messages of the frames that arrived, in their
order and without a gap, and what it writes are the frames of its answers, in the order
of the messages they answer, up to where the stream broke (`Conversation`).  The other
connections do not come in.

So a client that has sent some messages and read some knows which of its messages were
handled at least, and what it has read are the first of the answers.
-/
import CultNet.Proofs.Interop.Notes
import CultNet.Proofs.TransportPipe
import CultNet.Proofs.Wire.Bytes

namespace CultNet

/-- What is taken off a buffer was a frame in front of it. -/
theorem takeFrame_eq_some {buffer payload rest : List UInt8} :
    takeFrame buffer = some (payload, rest) ↔
      payload.length < 2 ^ 32 ∧ buffer = frameOf payload ++ rest := by
  constructor
  · intro htake
    obtain ⟨front, hfits, more, rfl⟩ := holdsFrame_iff.mpr ⟨_, htake⟩
    rw [takeFrame_frameOf hfits, Option.some.injEq, Prod.mk.injEq] at htake
    obtain ⟨rfl, rfl⟩ := htake
    exact ⟨hfits, rfl⟩
  · rintro ⟨hfits, rfl⟩
    exact takeFrame_frameOf hfits rest

namespace Interop

variable {TStream : Type} {wiring : Wiring TStream}

/-! ### Messages on a stream -/

/-- What sending messages one after another puts on a stream, if the stream takes it. -/
def wireOf (wiring : Wiring TStream) : List Message → List UInt8
  | [] => []
  | message :: rest =>
    match frameMessage wiring message with
    | .ok frame => frame ++ wireOf wiring rest
    | .error _ => []

/-- All of the messages can be sent. -/
def AllFramed (wiring : Wiring TStream) (messages : List Message) : Prop :=
  ∀ message ∈ messages, ∃ frame, frameMessage wiring message = .ok frame

theorem wireOf_append {messages : List Message} (h : AllFramed wiring messages)
    (more : List Message) :
    wireOf wiring (messages ++ more) = wireOf wiring messages ++ wireOf wiring more := by
  induction messages with
  | nil => rfl
  | cons message rest ih =>
      obtain ⟨frame, hframe⟩ := h message List.mem_cons_self
      rw [List.cons_append, wireOf, wireOf, hframe]
      simp [ih fun m hm => h m (List.mem_cons_of_mem _ hm)]

section Written

variable {written : TStream → List UInt8} (hwriter : wiring.writer.Lawful written)

include hwriter

/-- Sending a message writes its frame, or a front of it. -/
theorem sendMessage_written {message : Message} {stream stream' : TStream}
    {result : Except String Unit}
    (h : sendMessage wiring stream message = (result, stream')) : ∃ out,
      written stream' = written stream ++ out ∧ out <+: wireOf wiring [message] ∧
      (result = .ok () → frameMessage wiring message = .ok out) := by
  unfold sendMessage at h
  unfold wireOf
  split at h
  · rename_i e hframe
    obtain ⟨rfl, rfl⟩ := Prod.mk.inj h
    exact ⟨[], by simp, List.nil_prefix, by simp⟩
  · rename_i frame hframe
    simp only [hframe, wireOf, List.append_nil]
    split at h
    · rename_i e stream₁ hwrite
      obtain ⟨rfl, rfl⟩ := Prod.mk.inj h
      obtain ⟨n, -, hwritten⟩ := hwriter.writeAll_error hwrite
      exact ⟨frame.take n, hwritten, List.take_prefix n frame, by simp⟩
    · rename_i stream₁ hwrite
      have hflush := hwriter.written_flush stream₁
      rw [h, hwriter.writeAll_ok hwrite] at hflush
      exact ⟨frame, hflush, List.prefix_rfl, fun _ => rfl⟩

/-- What goes out is a front of what is to be sent, and all of it where sending succeeds. -/
theorem sendMessages_written {messages : List Message} :
    ∀ {stream stream' : TStream} {result : Except String Unit},
      sendMessages wiring stream messages = (result, stream') → ∃ out,
        written stream' = written stream ++ out ∧ out <+: wireOf wiring messages ∧
        (result = .ok () → out = wireOf wiring messages ∧ AllFramed wiring messages) := by
  induction messages with
  | nil =>
      intro stream stream' result h
      obtain ⟨rfl, rfl⟩ := Prod.mk.inj h
      exact ⟨[], by simp, List.nil_prefix, fun _ => ⟨rfl, by simp [AllFramed]⟩⟩
  | cons message rest ih =>
      intro stream stream' result h
      unfold sendMessages at h
      split at h
      · rename_i e stream₁ hsend
        obtain ⟨rfl, rfl⟩ := Prod.mk.inj h
        obtain ⟨out, hout, hprefix, -⟩ := sendMessage_written hwriter hsend
        refine ⟨out, hout, hprefix.trans ?_, by simp⟩
        simp only [wireOf]
        cases frameMessage wiring message <;> simp
      · rename_i stream₁ hsend
        obtain ⟨frame, hfirst, -, hok⟩ := sendMessage_written hwriter hsend
        have hframe := hok rfl
        obtain ⟨out, hout, hprefix, hrest⟩ := ih h
        simp only [wireOf, hframe]
        refine ⟨frame ++ out, ?_, (List.prefix_append_right_inj frame).mpr hprefix, ?_⟩
        · rw [hout, hfirst, List.append_assoc]
        · intro hresult
          obtain ⟨rfl, hall⟩ := hrest hresult
          refine ⟨rfl, fun m hm => ?_⟩
          rcases List.mem_cons.mp hm with rfl | hm
          · exact ⟨frame, hframe⟩
          · exact hall m hm

end Written

/-! ### One connection -/

/-- The message of a payload. -/
def readPayload (wiring : Wiring TStream) (payload : List UInt8) : Except String Message :=
  decodeCultnetMessageFromSlice wiring.codecs wiring.rmp payload .cultNetSchemaV0

/-- The bytes that an event brings. -/
def Event.bytes : Event → List UInt8
  | .arrive bytes => bytes
  | .finish | .reset | .serve _ => []

/-- What arrived on a connection. -/
def arrivedOn (connection : Nat) (log : List ((Nat × Event) × Unit)) : List UInt8 :=
  (log.filter fun entry => entry.1.1 = connection).flatMap fun entry => entry.1.2.bytes

/-- What was handled on a connection. -/
def handledOn (connection : Nat) (history : List Handled) : List Handled :=
  history.filter fun handled => handled.connection = connection

/-- What handling a message came to, to be sent. -/
def Handled.answers (handled : Handled) : List Message :=
  match handled.outcome with
  | .ok messages => messages
  | .error _ => []

/-- The messages handled on a connection are those that arrived, and their answers were written,
up to where the stream broke. -/
structure Conversation (wiring : Wiring TStream) (written : TStream → List UInt8)
    (start arrived : List UInt8) (handled : List Handled) (own : Connection TStream) : Prop where
  read : ∃ (payloads : List (List UInt8)) (rest : List UInt8),
    arrived = payloads.flatMap frameOf ++ rest ∧
    (∀ payload ∈ payloads, payload.length < 2 ^ 32) ∧
    payloads.mapM (readPayload wiring) = .ok (handled.map Handled.message) ∧
    (own.running = true → rest = own.inbound)
  answered : ∃ out, written own.stream = start ++ out ∧
    out <+: wireOf wiring (handled.flatMap Handled.answers) ∧
    (own.running = true → out = wireOf wiring (handled.flatMap Handled.answers) ∧
      AllFramed wiring (handled.flatMap Handled.answers))
  succeeded : own.running = true → ∀ h ∈ handled, h.outcome = .ok h.answers

theorem Conversation.start {written : TStream → List UInt8} {own : Connection TStream}
    (h : own.inbound = []) : Conversation wiring written (written own.stream) [] [] own where
  read := ⟨[], [], rfl, by simp, rfl, fun _ => h.symm⟩
  answered := ⟨[], by simp, List.nil_prefix, fun _ => ⟨rfl, by simp [AllFramed]⟩⟩
  succeeded _ := by simp

section Steps

variable {written : TStream → List UInt8} {start arrived : List UInt8} {handled : List Handled}
  {own : Connection TStream}

/-- A thread that has stopped. -/
theorem Conversation.stopped (h : Conversation wiring written start arrived handled own)
    {own' : Connection TStream} (hstream : own'.stream = own.stream)
    (hrunning : own'.running = false) :
    Conversation wiring written start arrived handled own' := by
  obtain ⟨payloads, rest, harrived, hfits, hread, -⟩ := h.read
  obtain ⟨out, hout, hprefix, -⟩ := h.answered
  exact ⟨⟨payloads, rest, harrived, hfits, hread, by simp [hrunning]⟩,
    ⟨out, by rw [hstream, hout], hprefix, by simp [hrunning]⟩, by simp [hrunning]⟩

/-- More bytes. -/
theorem Conversation.arrive (h : Conversation wiring written start arrived handled own)
    (bytes : List UInt8) : Conversation wiring written start (arrived ++ bytes) handled
      { own with inbound := own.inbound ++ bytes } := by
  obtain ⟨payloads, rest, harrived, hfits, hread, hrest⟩ := h.read
  refine ⟨⟨payloads, rest ++ bytes, ?_, hfits, hread, fun hrunning => ?_⟩, h.answered,
    h.succeeded⟩
  · rw [harrived, List.append_assoc]
  · rw [hrest hrunning]

/-- One more message, and its answers. -/
theorem Conversation.handle (hwriter : wiring.writer.Lawful written)
    (h : Conversation wiring written start arrived handled own) (hrunning : own.running = true)
    {payload inbound : List UInt8} (htake : takeFrame own.inbound = some (payload, inbound))
    {last : Handled} (hdecode : readPayload wiring payload = .ok last.message) :
    Conversation wiring written start arrived (handled ++ [last])
      { own with
        inbound
        stream := (sendOutcome wiring own.stream last.outcome).2
        running := (sendOutcome wiring own.stream last.outcome).1.isOk } := by
  obtain ⟨payloads, rest, harrived, hfits, hread, hrest⟩ := h.read
  obtain ⟨out, hout, -, hall⟩ := h.answered
  obtain ⟨rfl, hframed⟩ := hall hrunning
  obtain rfl := hrest hrunning
  obtain ⟨hfit, hinbound⟩ := takeFrame_eq_some.mp htake
  have hread' : (payloads ++ [payload]).mapM (readPayload wiring)
      = .ok ((handled ++ [last]).map Handled.message) := by
    rw [List.mapM_append, hread, Fallible.ok_bind, List.mapM_cons, hdecode]
    simp [pure, Except.pure, bind, Except.bind]
  refine ⟨⟨payloads ++ [payload], inbound, ?_, ?_, hread', fun _ => rfl⟩, ?_, ?_⟩
  · rw [harrived, hinbound, List.flatMap_append, List.flatMap_singleton, List.append_assoc]
  · intro p hp
    rcases List.mem_append.mp hp with hp | hp
    · exact hfits p hp
    · rwa [List.mem_singleton.mp hp]
  · simp only [List.flatMap_append, List.flatMap_singleton, wireOf_append hframed]
    cases houtcome : last.outcome with
    | error e =>
        have hanswers : last.answers = [] := by simp [Handled.answers, houtcome]
        rw [hanswers, List.append_nil]
        exact ⟨_, hout, by simp [wireOf], by simp [sendOutcome, Except.isOk, Except.toBool]⟩
    | ok messages =>
        have hanswers : last.answers = messages := by simp [Handled.answers, houtcome]
        rw [hanswers]
        simp only [sendOutcome]
        obtain ⟨more, hmore, hprefix, hok⟩ := sendMessages_written hwriter
          (show sendMessages wiring own.stream messages = (_, _) from rfl)
        refine ⟨_, ?_, (List.prefix_append_right_inj _).mpr hprefix, ?_⟩
        · rw [hmore, hout, List.append_assoc]
        · intro hsent
          cases hresult : (sendMessages wiring own.stream messages).1 with
          | error e => simp [hresult, Except.isOk, Except.toBool] at hsent
          | ok _ =>
              obtain ⟨rfl, hall'⟩ := hok hresult
              refine ⟨rfl, fun m hm => ?_⟩
              rcases List.mem_append.mp hm with hm | hm
              · exact hframed m hm
              · exact hall' m hm
  · intro hsent other hother
    rcases List.mem_append.mp hother with hother | hother
    · exact h.succeeded hrunning other hother
    · rw [List.mem_singleton.mp hother]
      cases houtcome : last.outcome with
      | error e => simp [houtcome, sendOutcome, Except.isOk, Except.toBool] at hsent
      | ok messages => simp [Handled.answers, houtcome]

end Steps

/-! ### All connections -/

theorem arrivedOn_append {connection : Nat} (log more : List ((Nat × Event) × Unit)) :
    arrivedOn connection (log ++ more) = arrivedOn connection log ++ arrivedOn connection more := by
  simp [arrivedOn]

theorem arrivedOn_self {connection : Nat} (event : Event) :
    arrivedOn connection [((connection, event), ())] = event.bytes := by
  simp [arrivedOn]

theorem arrivedOn_ne {connection other : Nat} (h : other ≠ connection) (event : Event) :
    arrivedOn connection [((other, event), ())] = [] := by
  simp [arrivedOn, h]

/-- What arrived is known from the inputs. -/
theorem arrivedOn_of_inputs {connection : Nat} {log : List ((Nat × Event) × Unit)}
    {inputs : List (Nat × Event)} (h : log.map Prod.fst = inputs) : arrivedOn connection log
      = (inputs.filter fun input => input.1 = connection).flatMap fun input => input.2.bytes := by
  rw [← h, List.filter_map, List.flatMap_map]
  rfl

section Runs

variable {Cache : Type} {cultCache : DocumentCache Cache} [codecs : InteropCodecs] {peer : Peer}
variable {written : TStream → List UInt8} {connection : Nat}

/-- A step on the connection itself. -/
theorem Conversation.acted (hwriter : wiring.writer.Lawful written) {start arrived : List UInt8}
    {shared shared' : Shared Cache} {own own' : Connection TStream} {event : Event}
    (h : Conversation wiring written start arrived (handledOn connection shared.history) own)
    (hacted : Acted cultCache wiring peer connection shared own event shared' own') :
    Conversation wiring written start (arrived ++ event.bytes)
      (handledOn connection shared'.history) own' := by
  cases hacted with
  | arrived _ => exact h.arrive _
  | finished =>
      rw [show Event.finish.bytes = [] from rfl, List.append_nil]
      exact ⟨h.read, h.answered, h.succeeded⟩
  | reset =>
      rw [show Event.reset.bytes = [] from rfl, List.append_nil]
      exact h.stopped rfl rfl
  | ended _ | garbled _ =>
      rw [show (Event.serve _).bytes = [] from rfl, List.append_nil]
      exact h.stopped rfl rfl
  | @handled readings payload inbound message turn hrunning htake hdecode hturn =>
      rw [show (Event.serve readings).bytes = [] from rfl, List.append_nil]
      have hnew : handledOn connection (shared.history ++ [turn.handled connection message])
          = handledOn connection shared.history ++ [turn.handled connection message] := by
        simp [handledOn, Turn.handled]
      rw [hnew]
      exact h.handle hwriter hrunning htake
        (show readPayload wiring payload = .ok (turn.handled connection message).message from hdecode)

/-- What another connection adds to the history is its own. -/
theorem handledOn_acted {other : Nat} (hother : connection ≠ other) {shared shared' : Shared Cache}
    {own own' : Connection TStream} {event : Event}
    (hacted : Acted cultCache wiring peer other shared own event shared' own') :
    handledOn connection shared'.history = handledOn connection shared.history := by
  cases hacted with
  | handled _ _ _ _ => simp [handledOn, Turn.handled, Ne.symm hother]
  | _ => rfl

/-- **Each connection is a conversation of its own**, whatever happens on the others. -/
theorem conversation_of_run (hwriter : wiring.writer.Lawful written) {cache : Cache}
    {streams : Nat → TStream} {log : List ((Nat × Event) × Unit)}
    {s : Interleaving.State Nat (Shared Cache) (Connection TStream)}
    (hrun : Machine.Run (serveStep cultCache wiring peer) (serveStart cache streams) log s)
    (connection : Nat) :
    Conversation wiring written (written (streams connection)) (arrivedOn connection log)
      (handledOn connection s.shared.history) (s.locals connection) := by
  induction hrun with
  | nil =>
      have hfresh : ((serveStart cache streams).locals connection).inbound = [] := rfl
      exact Conversation.start hfresh
  | @snoc log s s' input o _ hstep ih =>
      obtain ⟨hact, hothers⟩ := Interleaving.step_eq_some.mp hstep
      obtain ⟨actor, event⟩ := input
      have hacted := serveAct_acted hact
      rw [arrivedOn_append]
      by_cases hself : connection = actor
      · subst hself
        rw [arrivedOn_self]
        exact ih.acted hwriter hacted
      · rw [arrivedOn_ne (Ne.symm hself), List.append_nil, hothers connection hself,
          handledOn_acted hself hacted]
        exact ih

end Runs

/-! ### The client -/

/-- The codecs keep what they are given. -/
structure Wiring.Faithful (wiring : Wiring TStream) : Prop where
  base64 : wiring.codecs.base64.Canonical
  codecs : wiring.codecs.Faithful
  rmp : wiring.rmp.Faithful

/-- The payloads of a message nest no deeper than a reader follows. -/
def Shallow (message : Message) : Prop := message.payloadDepth + 3 < rmpDepthLimit

theorem readPayload_of_frameMessage (h : wiring.Faithful) {message : Message} {frame : List UInt8}
    (hframe : frameMessage wiring message = .ok frame) (hshallow : Shallow message) :
    ∃ payload, payload.length < 2 ^ 32 ∧ frame = frameOf payload ∧
      readPayload wiring payload = .ok message := by
  obtain ⟨payload, hencode, hframe⟩ := Fallible.bind_eq_ok.mp hframe
  obtain ⟨hfits, rfl⟩ := encodeFrame_ok_iff.mp hframe
  exact ⟨payload, hfits, rfl, decode_of_encode h.base64 h.codecs h.rmp hencode hfits hshallow⟩

/-- Messages that can be sent are read back from what they put on a stream. -/
theorem exists_payloads_of_allFramed (h : wiring.Faithful) {messages : List Message}
    (hframed : AllFramed wiring messages) (hshallow : ∀ m ∈ messages, Shallow m) :
    ∃ payloads : List (List UInt8), (∀ payload ∈ payloads, payload.length < 2 ^ 32) ∧
      payloads.mapM (readPayload wiring) = .ok messages ∧
      payloads.flatMap frameOf = wireOf wiring messages := by
  induction messages with
  | nil => exact ⟨[], by simp, rfl, rfl⟩
  | cons message rest ih =>
      rw [List.forall_mem_cons] at hshallow
      obtain ⟨frame, hframe⟩ := hframed message List.mem_cons_self
      obtain ⟨payload, hfit, rfl, hread⟩ := readPayload_of_frameMessage h hframe hshallow.1
      obtain ⟨payloads, hfits, hreads, hwire⟩ :=
        ih (fun m hm => hframed m (List.mem_cons_of_mem _ hm)) hshallow.2
      refine ⟨payload :: payloads, List.forall_mem_cons.mpr ⟨hfit, hfits⟩, ?_, ?_⟩
      · rw [List.mapM_cons, hread, Fallible.ok_bind, hreads]
        rfl
      · rw [List.flatMap_cons, hwire, wireOf, hframe]

/-- Whole frames at the front of others are the first of them. -/
theorem prefix_of_frames {payloads : List (List UInt8)} :
    ∀ {more : List (List UInt8)}, (∀ payload ∈ payloads, payload.length < 2 ^ 32) →
      (∀ payload ∈ more, payload.length < 2 ^ 32) →
      payloads.flatMap frameOf <+: more.flatMap frameOf → payloads <+: more := by
  induction payloads with
  | nil =>
      intro more _ _ _
      exact List.nil_prefix
  | cons payload rest ih =>
      intro more hfits hmore hprefix
      rw [List.forall_mem_cons] at hfits
      obtain ⟨tail, htail⟩ := hprefix
      rw [List.flatMap_cons, List.append_assoc] at htail
      have htake := takeFrame_frameOf hfits.1 (rest.flatMap frameOf ++ tail)
      rw [htail] at htake
      cases more with
      | nil => simp [takeFrame, frameHeaderBytes] at htake
      | cons first more =>
          rw [List.forall_mem_cons] at hmore
          rw [List.flatMap_cons, takeFrame_frameOf hmore.1, Option.some.injEq, Prod.mk.injEq]
            at htake
          obtain ⟨rfl, hrest⟩ := htake
          exact (List.prefix_cons_inj first).mpr (ih hfits.2 hmore.2 ⟨tail, hrest.symm⟩)

/-- The messages of whole frames on a stream are the first of those that were sent. -/
theorem prefix_of_wireOf (h : wiring.Faithful) {sent : List Message} :
    ∀ {payloads : List (List UInt8)} {messages : List Message},
      (∀ message ∈ sent, Shallow message) →
      (∀ payload ∈ payloads, payload.length < 2 ^ 32) →
      payloads.mapM (readPayload wiring) = .ok messages →
      payloads.flatMap frameOf <+: wireOf wiring sent → messages <+: sent := by
  induction sent with
  | nil =>
      intro payloads messages _ _ hread hwire
      cases payloads with
      | nil =>
          rw [← Except.ok.inj hread]
          exact List.nil_prefix
      | cons payload rest =>
          have hempty : frameOf payload = [] :=
            (List.append_eq_nil_iff.mp (List.prefix_nil.mp hwire)).1
          have hlength := length_frameOf payload
          rw [hempty, List.length_nil, frameHeaderBytes] at hlength
          omega
  | cons message sent ih =>
      intro payloads messages hshallow hfits hread hwire
      cases payloads with
      | nil =>
          rw [← Except.ok.inj hread]
          exact List.nil_prefix
      | cons payload rest =>
          rw [List.forall_mem_cons] at hshallow hfits
          obtain ⟨more, hwire⟩ := hwire
          rw [List.flatMap_cons, List.append_assoc] at hwire
          have htake := takeFrame_frameOf hfits.1 (rest.flatMap frameOf ++ more)
          rw [hwire, wireOf] at htake
          cases hframe : frameMessage wiring message with
          | error e =>
              rw [hframe] at htake
              simp [takeFrame, frameHeaderBytes] at htake
          | ok frame =>
              obtain ⟨own, hown, rfl, hmessage⟩ :=
                readPayload_of_frameMessage h hframe hshallow.1
              rw [hframe] at htake
              simp only [takeFrame_frameOf hown, Option.some.injEq, Prod.mk.injEq] at htake
              obtain ⟨rfl, hrest⟩ := htake
              rw [List.mapM_cons, hmessage, Fallible.ok_bind] at hread
              obtain ⟨others, hothers, hread⟩ := Fallible.bind_eq_ok.mp hread
              rw [← Except.ok.inj hread]
              exact (List.prefix_cons_inj message).mpr
                (ih hshallow.2 hfits.2 hothers ⟨more, hrest.symm⟩)

/-- What a client knows of a conversation: of the messages that it sent, the first were handled,
and the messages that it has read are the first of the answers. -/
theorem Conversation.client {written : TStream → List UInt8} {arrived : List UInt8}
    {handled : List Handled} {own : Connection TStream} (h : wiring.Faithful)
    (hconversation : Conversation wiring written [] arrived handled own) {sent read : List Message}
    (hsent : arrived <+: wireOf wiring sent) (hshallow : ∀ m ∈ sent, Shallow m)
    (hanswers : ∀ m ∈ handled.flatMap Handled.answers, Shallow m)
    {payloads : List (List UInt8)} (hfits : ∀ payload ∈ payloads, payload.length < 2 ^ 32)
    (hread : payloads.mapM (readPayload wiring) = .ok read)
    (htaken : payloads.flatMap frameOf <+: written own.stream) :
    handled.map Handled.message <+: sent ∧ read <+: handled.flatMap Handled.answers := by
  obtain ⟨arrivals, rest, harrived, hfits', hhandled, -⟩ := hconversation.read
  obtain ⟨out, hout, hprefix, -⟩ := hconversation.answered
  constructor
  · refine prefix_of_wireOf h hshallow hfits' hhandled (List.IsPrefix.trans ?_ hsent)
    rw [harrived]
    exact List.prefix_append _ _
  · rw [hout, List.nil_append] at htaken
    exact prefix_of_wireOf h hanswers hfits hread (htaken.trans hprefix)

end Interop

end CultNet
