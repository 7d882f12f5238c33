/-
Programs that send and receive messages.

A program sends a message, waits for one, or ends with a result or an error.  What
matters of it from outside is what it had received and sent when it ended
(`Dialogue.Ended`), or when it came to wait (`Dialogue.Waits`); a program that goes on
with another receives and sends first what the one does and then what the other does.
-/
import Mathlib.Data.List.Basic

/-- A program over messages of a type. -/
inductive Dialogue (μ α : Type) where
  | done (result : Except String α)
  | send (message : μ) (next : Dialogue μ α)
  | receive (next : μ → Dialogue μ α)

namespace Dialogue

variable {μ α β : Type}

def bind : Dialogue μ α → (α → Dialogue μ β) → Dialogue μ β
  | done (.ok a), f => f a
  | done (.error e), _ => done (.error e)
  | send message next, f => send message (next.bind f)
  | receive next, f => receive fun message => (next message).bind f

instance : Monad (Dialogue μ) where
  pure a := done (.ok a)
  bind := bind

/-- Send a message. -/
def tell (message : μ) : Dialogue μ Unit := send message (done (.ok ()))

/-- Wait for a message. -/
def hear : Dialogue μ μ := receive fun message => done (.ok message)

/-- Go on with the result of a computation. -/
def attempt (result : Except String α) : Dialogue μ α := done result

/-- The program ended with a value, when it had received and sent these messages. -/
inductive Ended : Dialogue μ α → List μ → List μ → α → Prop
  | done (a : α) : Ended (done (.ok a)) [] [] a
  | send {next : Dialogue μ α} {received sent : List μ} {message : μ} {a : α}
      (h : Ended next received sent a) : Ended (send message next) received (message :: sent) a
  | receive {next : μ → Dialogue μ α} {received sent : List μ} {message : μ} {a : α}
      (h : Ended (next message) received sent a) :
      Ended (receive next) (message :: received) sent a

/-- The program waits for a message, when it has received and sent these. -/
inductive Waits : Dialogue μ α → List μ → List μ → Prop
  | here {next : μ → Dialogue μ α} : Waits (receive next) [] []
  | send {next : Dialogue μ α} {received sent : List μ} {message : μ}
      (h : Waits next received sent) : Waits (send message next) received (message :: sent)
  | receive {next : μ → Dialogue μ α} {received sent : List μ} {message : μ}
      (h : Waits (next message) received sent) : Waits (receive next) (message :: received) sent

/-- Run a program on what it will receive: its result, what it sent, and what it did not take;
`none` where it waits for more. -/
def run : Dialogue μ α → List μ → Option (Except String α × List μ × List μ)
  | done result, unread => some (result, [], unread)
  | send message next, incoming =>
    (next.run incoming).map fun (result, sent, unread) => (result, message :: sent, unread)
  | receive _, [] => none
  | receive next, message :: incoming => (next message).run incoming

/-- What is run to its end has ended. -/
theorem ended_of_run {program : Dialogue μ α} {a : α} {sent : List μ} :
    ∀ {received : List μ}, program.run received = some (.ok a, sent, []) →
      Ended program received sent a := by
  induction program generalizing sent with
  | done result =>
      intro received h
      obtain ⟨rfl, rfl, rfl⟩ : result = .ok a ∧ [] = sent ∧ received = [] := by simpa [run] using h
      exact .done a
  | send message next ih =>
      intro received h
      obtain ⟨⟨result, sent', unread⟩, hrun, heq⟩ := Option.map_eq_some_iff.mp h
      obtain ⟨rfl, rfl, rfl⟩ : result = .ok a ∧ message :: sent' = sent ∧ unread = [] := by
        simpa using heq
      exact .send (ih hrun)
  | receive next ih =>
      intro received h
      cases received with
      | nil => simp [run] at h
      | cons message received => exact .receive (ih message h)

theorem ended_bind {program : Dialogue μ α} {f : α → Dialogue μ β} {sent : List μ} {b : β} :
    ∀ {received : List μ}, Ended (program >>= f) received sent b ↔
      ∃ a received₁ received₂ sent₁ sent₂, received = received₁ ++ received₂ ∧
        sent = sent₁ ++ sent₂ ∧ Ended program received₁ sent₁ a ∧
        Ended (f a) received₂ sent₂ b := by
  induction program generalizing sent with
  | done result =>
      intro received
      cases result with
      | error e =>
          constructor
          · intro h
            cases h
          · rintro ⟨_, _, _, _, _, _, _, hdone, _⟩
            cases hdone
      | ok a =>
          constructor
          · intro h
            exact ⟨a, [], received, [], sent, rfl, rfl, .done a, h⟩
          · rintro ⟨_, _, _, _, _, rfl, rfl, hdone, h⟩
            cases hdone
            exact h
  | send message next ih =>
      intro received
      constructor
      · intro h
        cases h with
        | send h =>
            obtain ⟨a, received₁, received₂, sent₁, sent₂, hreceived, rfl, hfirst, hthen⟩ :=
              ih.mp h
            exact ⟨a, received₁, received₂, _, sent₂, hreceived, rfl, .send hfirst, hthen⟩
      · rintro ⟨a, received₁, received₂, sent₁, sent₂, hreceived, rfl, hfirst, hthen⟩
        cases hfirst with
        | send hfirst =>
            exact .send (ih.mpr ⟨a, received₁, received₂, _, sent₂, hreceived, rfl, hfirst, hthen⟩)
  | receive next ih =>
      intro received
      constructor
      · intro h
        cases h with
        | @receive _ received _ message _ h =>
            obtain ⟨a, received₁, received₂, sent₁, sent₂, rfl, hsent, hfirst, hthen⟩ :=
              (ih message).mp h
            exact ⟨a, _, received₂, sent₁, sent₂, rfl, hsent, .receive hfirst, hthen⟩
      · rintro ⟨a, received₁, received₂, sent₁, sent₂, rfl, hsent, hfirst, hthen⟩
        cases hfirst with
        | @receive _ received₁ _ message _ hfirst =>
            exact .receive ((ih message).mpr
              ⟨a, received₁, received₂, sent₁, sent₂, rfl, hsent, hfirst, hthen⟩)

/-! ### One step at the front -/

theorem ended_pure {received sent : List μ} {a b : α} :
    Ended (pure a) received sent b ↔ received = [] ∧ sent = [] ∧ a = b := by
  constructor
  · intro h
    cases h
    exact ⟨rfl, rfl, rfl⟩
  · rintro ⟨rfl, rfl, rfl⟩
    exact .done a

/-- A program that sends a message first. -/
theorem ended_tell_bind {message : μ} {f : Unit → Dialogue μ β} {received sent : List μ} {b : β} :
    Ended (tell message >>= f) received sent b ↔
      ∃ rest, sent = message :: rest ∧ Ended (f ()) received rest b := by
  constructor
  · intro h
    cases h with
    | send h => exact ⟨_, rfl, h⟩
  · rintro ⟨rest, rfl, h⟩
    exact .send h

/-- A program that waits for a message first. -/
theorem ended_hear_bind {f : μ → Dialogue μ β} {received sent : List μ} {b : β} :
    Ended (hear >>= f) received sent b ↔
      ∃ message rest, received = message :: rest ∧ Ended (f message) rest sent b := by
  constructor
  · intro h
    cases h with
    | receive h => exact ⟨_, _, rfl, h⟩
  · rintro ⟨message, rest, rfl, h⟩
    exact .receive h

/-- A program that computes something first. -/
theorem ended_attempt_bind {result : Except String α} {f : α → Dialogue μ β}
    {received sent : List μ} {b : β} :
    Ended (attempt result >>= f) received sent b ↔
      ∃ a, result = .ok a ∧ Ended (f a) received sent b := by
  cases result with
  | error e =>
      constructor
      · intro h
        cases h
      · rintro ⟨a, ha, -⟩
        cases ha
  | ok a =>
      constructor
      · intro h
        exact ⟨a, rfl, h⟩
      · rintro ⟨_, ha, h⟩
        rw [Except.ok.inj ha]
        exact h

/-! ### Waiting -/

/-- A program waits, or it has ended and the one after it waits. -/
theorem waits_bind {program : Dialogue μ α} {f : α → Dialogue μ β} {sent : List μ} :
    ∀ {received : List μ}, Waits (program >>= f) received sent →
      Waits program received sent ∨
        ∃ a received₁ received₂ sent₁ sent₂, received = received₁ ++ received₂ ∧
          sent = sent₁ ++ sent₂ ∧ Ended program received₁ sent₁ a ∧
          Waits (f a) received₂ sent₂ := by
  induction program generalizing sent with
  | done result =>
      intro received h
      cases result with
      | error e => cases h
      | ok a => exact .inr ⟨a, [], received, [], sent, rfl, rfl, .done a, h⟩
  | send message next ih =>
      intro received h
      cases h with
      | send h =>
          rcases ih h with hwaits | ⟨a, received₁, received₂, sent₁, sent₂, hreceived, rfl, hfirst,
            hthen⟩
          · exact .inl (.send hwaits)
          · exact .inr ⟨a, received₁, received₂, _, sent₂, hreceived, rfl, .send hfirst, hthen⟩
  | receive next ih =>
      intro received h
      cases h with
      | here => exact .inl .here
      | @receive _ received _ message h =>
          rcases ih message h with hwaits | ⟨a, received₁, received₂, sent₁, sent₂, rfl, hsent,
            hfirst, hthen⟩
          · exact .inl (.receive hwaits)
          · exact .inr ⟨a, _, received₂, sent₁, sent₂, rfl, hsent, .receive hfirst, hthen⟩

theorem waits_tell_bind {message : μ} {f : Unit → Dialogue μ β} {received sent : List μ} :
    Waits (tell message >>= f) received sent ↔
      ∃ rest, sent = message :: rest ∧ Waits (f ()) received rest := by
  constructor
  · intro h
    cases h with
    | send h => exact ⟨_, rfl, h⟩
  · rintro ⟨rest, rfl, h⟩
    exact .send h

theorem waits_hear_bind {f : μ → Dialogue μ β} {received sent : List μ} :
    Waits (hear >>= f) received sent ↔ received = [] ∧ sent = [] ∨
      ∃ message rest, received = message :: rest ∧ Waits (f message) rest sent := by
  constructor
  · intro h
    cases h with
    | here => exact .inl ⟨rfl, rfl⟩
    | receive h => exact .inr ⟨_, _, rfl, h⟩
  · rintro (⟨rfl, rfl⟩ | ⟨message, rest, rfl, h⟩)
    · exact .here
    · exact .receive h

theorem waits_attempt_bind {result : Except String α} {f : α → Dialogue μ β}
    {received sent : List μ} :
    Waits (attempt result >>= f) received sent ↔ ∃ a, result = .ok a ∧ Waits (f a) received sent := by
  cases result with
  | error e =>
      constructor
      · intro h
        cases h
      · rintro ⟨a, ha, -⟩
        cases ha
  | ok a =>
      constructor
      · intro h
        exact ⟨a, rfl, h⟩
      · rintro ⟨_, ha, h⟩
        rw [Except.ok.inj ha]
        exact h

/-- What does nothing but compute does not wait. -/
theorem not_waits_attempt {result : Except String α} {received sent : List μ} :
    ¬ Waits (attempt result : Dialogue μ α) received sent := by
  intro h
  cases h

end Dialogue
