/-
Self-delimiting encodings.

An encoding is self-delimiting where what follows it can be told from it: two
encodings with something behind them are the same string only where what was
encoded is the same, and what stands behind.  A name that ends at a terminator it
does not contain is self-delimiting, and so is a string that follows its own
length.  Strings of self-delimiting parts are taken apart from the front, one part
after another.

A number ends where its digits end, so what follows must not go on with a digit.
`Told` is the weaker property for such encodings, of one value at a time, so that it
can be proved of a tree from its parts; a list of such values between separators and
in front of a closing mark is told from what follows it.
-/
import CultNet.Lib.BigEndian

variable {α β : Type}

/-- Values with `valid` can be told from what follows their encoding. -/
def SelfDelimiting (valid : α → Prop) (encode : α → List β) : Prop :=
  ∀ a b, valid a → valid b → ∀ x y, encode a ++ x = encode b ++ y → a = b ∧ x = y

namespace SelfDelimiting

/-- A name and the terminator it does not contain. -/
theorem terminated (t : β) : SelfDelimiting (t ∉ ·) (· ++ [t]) := by
  intro a
  induction a with
  | nil =>
      intro b _ hb x y h
      cases b with
      | nil => exact ⟨rfl, (List.cons.inj h).2⟩
      | cons c rest => exact absurd (List.cons.inj h).1 (List.ne_of_not_mem_cons hb)
  | cons c rest ih =>
      intro b ha hb x y h
      cases b with
      | nil => exact absurd (List.cons.inj h).1.symm (List.ne_of_not_mem_cons ha)
      | cons d others =>
          obtain ⟨rfl, htail⟩ := List.cons.inj h
          obtain ⟨rfl, hxy⟩ := ih others (List.not_mem_of_not_mem_cons ha)
            (List.not_mem_of_not_mem_cons hb) x y htail
          exact ⟨rfl, hxy⟩

/-- A byte string behind its length, which fits in `w` bytes. -/
theorem lengthPrefixed (w : Nat) :
    SelfDelimiting (fun bs : List UInt8 => bs.length < 256 ^ w)
      fun bs => BigEndian.bytes w bs.length ++ bs := by
  intro a b ha hb x y h
  simp only [List.append_assoc] at h
  obtain ⟨hlength, hrest⟩ := List.append_inj h (by simp)
  have hlen : a.length = b.length := by
    rw [← BigEndian.value_bytes ha, ← BigEndian.value_bytes hb, hlength]
  exact List.append_inj hrest hlen

end SelfDelimiting

/-! ### Encodings that something has to stop -/

/-- What follows stops an encoding: it starts with a stop, or there is nothing. -/
def Stops (stop : β → Prop) (x : List β) : Prop := ∀ c ∈ x.head?, stop c

/-- The encoding of `a` can be told from what stops it. -/
def Told (stop : β → Prop) (encode : α → List β) (a : α) : Prop :=
  ∀ b x y, Stops stop x → Stops stop y → encode a ++ x = encode b ++ y → a = b ∧ x = y

namespace Told

variable {stop : β → Prop} {encode : α → List β} {separator close : β}

theorem stops_cons {c : β} (h : stop c) (x : List β) : Stops stop (c :: x) := by
  intro d hd
  cases hd
  exact h

theorem stops_nil : Stops stop ([] : List β) := by
  intro d hd
  cases hd

/-- What comes behind the first of several values. -/
def tail (encode : α → List β) (separator : β) (items : List α) : List β :=
  items.flatMap fun a => separator :: encode a

theorem stops_tail (hseparator : stop separator) (hclose : stop close) (items : List α)
    (x : List β) : Stops stop (tail encode separator items ++ close :: x) := by
  cases items with
  | nil => exact stops_cons hclose x
  | cons a rest => exact stops_cons hseparator _

theorem tail_append_inj (hseparator : stop separator) (hclose : stop close)
    (hne : separator ≠ close) {items : List α} (hitems : ∀ a ∈ items, Told stop encode a)
    {others : List α} {x y : List β}
    (h : tail encode separator items ++ close :: x = tail encode separator others ++ close :: y) :
    items = others ∧ x = y := by
  induction items generalizing others with
  | nil =>
      cases others with
      | nil => exact ⟨rfl, (List.cons.inj h).2⟩
      | cons b others => exact absurd (List.cons.inj h).1.symm hne
  | cons a rest ih =>
      cases others with
      | nil => exact absurd (List.cons.inj h).1 hne
      | cons b others =>
          have hbody : encode a ++ (tail encode separator rest ++ close :: x)
              = encode b ++ (tail encode separator others ++ close :: y) := by
            simpa [tail] using h
          obtain ⟨rfl, htail⟩ := hitems a List.mem_cons_self b _ _
            (stops_tail hseparator hclose rest x) (stops_tail hseparator hclose others y) hbody
          obtain ⟨rfl, hxy⟩ := ih (fun a ha => hitems a (List.mem_cons_of_mem _ ha)) htail
          exact ⟨rfl, hxy⟩

theorem intercalate_cons (a : α) (rest : List α) :
    [separator].intercalate ((a :: rest).map encode) = encode a ++ tail encode separator rest := by
  induction rest generalizing a with
  | nil => simp [tail]
  | cons b rest ih =>
      rw [List.map_cons, List.map_cons, List.intercalate_cons_cons, ← List.map_cons, ih b]
      simp [tail]

/-- Values between separators and in front of a closing mark. -/
theorem intercalate_append_inj (hseparator : stop separator) (hclose : stop close)
    (hne : separator ≠ close) (hopen : ∀ a x y, encode a ++ x ≠ close :: y) {items : List α}
    (hitems : ∀ a ∈ items, Told stop encode a) {others : List α} {x y : List β}
    (h : [separator].intercalate (items.map encode) ++ close :: x
      = [separator].intercalate (others.map encode) ++ close :: y) : items = others ∧ x = y := by
  cases items with
  | nil =>
      cases others with
      | nil => exact ⟨rfl, (List.cons.inj h).2⟩
      | cons b others =>
          rw [intercalate_cons, List.append_assoc] at h
          exact absurd h.symm (hopen b _ _)
  | cons a rest =>
      cases others with
      | nil =>
          rw [intercalate_cons, List.append_assoc] at h
          exact absurd h (hopen a _ _)
      | cons b others =>
          rw [intercalate_cons, intercalate_cons, List.append_assoc, List.append_assoc] at h
          obtain ⟨rfl, htail⟩ := hitems a List.mem_cons_self b _ _
            (stops_tail hseparator hclose rest x) (stops_tail hseparator hclose others y) h
          obtain ⟨rfl, hxy⟩ := tail_append_inj hseparator hclose hne
            (fun a ha => hitems a (List.mem_cons_of_mem _ ha)) htail
          exact ⟨rfl, hxy⟩

end Told
