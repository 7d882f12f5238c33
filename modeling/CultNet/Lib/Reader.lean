/-
Reading a number of items exactly.

A reader hands out what has arrived, at most as much as it is asked for and perhaps
less; only at the end of its content it hands out nothing.  Reading exactly asks
again until the number is complete.  What that yields depends on the content alone,
not on how much came at a time: the front of the content and the rest behind it, or
an error where the content is too short.
-/
import Mathlib.Data.List.Basic

/-- A source of items; a read may fail. -/
structure Reader (σ α : Type) where
  read : σ → Nat → Except String (List α) × σ

namespace Reader

variable {σ α : Type}

/-- The content of a source is what its reads hand out, one after another. -/
structure Lawful (reader : Reader σ α) (content : σ → List α) : Prop where
  /-- A read hands out the front of the content, and not more than asked. -/
  read_ok : ∀ (s : σ) (n : Nat), ∃ got s', reader.read s n = (.ok got, s') ∧ got.length ≤ n ∧
    content s = got ++ content s'
  /-- It hands out nothing only at the end. -/
  read_nil : ∀ {s s' : σ} {n : Nat}, reader.read s n = (.ok [], s') → n = 0 ∨ content s = []

/-- The error of a content that ends too early. -/
def unexpectedEof : String := "failed to fill whole buffer"

/-- Ask until `n` items are there, at most `fuel` times. -/
def fill (reader : Reader σ α) : Nat → Nat → σ → Except String (List α) × σ
  | _, 0, s => (.ok [], s)
  | 0, _ + 1, s => (.error unexpectedEof, s)
  | fuel + 1, n + 1, s =>
    match reader.read s (n + 1) with
    | (.error e, s) => (.error e, s)
    | (.ok [], s) => (.error unexpectedEof, s)
    | (.ok (a :: got), s) =>
      match reader.fill fuel (n - got.length) s with
      | (.error e, s) => (.error e, s)
      | (.ok rest, s) => (.ok (a :: got ++ rest), s)

/-- Read exactly `n` items.  Every read brings one at least, so `n` of them will do. -/
def readExact (reader : Reader σ α) (n : Nat) (s : σ) : Except String (List α) × σ :=
  reader.fill n n s

variable {reader : Reader σ α} {content : σ → List α}

/-- A complete number of items comes off the front. -/
theorem Lawful.fill_ok (h : reader.Lawful content) : ∀ (fuel n : Nat) (s : σ), n ≤ fuel →
    n ≤ (content s).length →
      ∃ s', reader.fill fuel n s = (.ok ((content s).take n), s') ∧
        content s' = (content s).drop n := by
  intro fuel
  induction fuel with
  | zero =>
      intro n s hfuel _
      obtain rfl := Nat.le_zero.mp hfuel
      exact ⟨s, rfl, rfl⟩
  | succ fuel ih =>
      intro n s hfuel hlength
      cases n with
      | zero => exact ⟨s, rfl, rfl⟩
      | succ n =>
          obtain ⟨got, s₁, hread, hle, hcontent⟩ := h.read_ok s (n + 1)
          unfold fill
          cases got with
          | nil =>
              rcases h.read_nil hread with hzero | hempty
              · cases hzero
              · rw [hempty] at hlength
                cases hlength
          | cons a got =>
              rw [hcontent, List.length_append, List.length_cons] at hlength
              rw [List.length_cons] at hle
              obtain ⟨s', hrest, hdrop⟩ := ih (n - got.length) s₁ (by omega) (by omega)
              rw [hread]
              dsimp only
              rw [hrest]
              -- what is still missing is the front of what came behind
              have hmissing : n + 1 - (a :: got).length = n - got.length := by
                rw [List.length_cons]
                omega
              have htaken : (a :: got).take (n + 1) = a :: got := List.take_of_length_le hle
              have hdropped : (a :: got).drop (n + 1) = [] := List.drop_eq_nil_of_le hle
              refine ⟨s', ?_, ?_⟩
              · rw [hcontent, List.take_append, hmissing, htaken]
              · rw [hdrop, hcontent, List.drop_append, hmissing, hdropped, List.nil_append]

/-- A content that is too short is an error. -/
theorem Lawful.fill_error (h : reader.Lawful content) : ∀ (fuel n : Nat) (s : σ), n ≤ fuel →
    (content s).length < n → ∃ s', reader.fill fuel n s = (.error unexpectedEof, s') := by
  intro fuel
  induction fuel with
  | zero =>
      intro n s hfuel hlength
      omega
  | succ fuel ih =>
      intro n s hfuel hlength
      cases n with
      | zero => exact absurd hlength (Nat.not_lt_zero _)
      | succ n =>
          obtain ⟨got, s₁, hread, hle, hcontent⟩ := h.read_ok s (n + 1)
          unfold fill
          rw [hread]
          cases got with
          | nil => exact ⟨s₁, rfl⟩
          | cons a got =>
              rw [hcontent, List.length_append, List.length_cons] at hlength
              obtain ⟨s', hrest⟩ := ih (n - got.length) s₁ (by omega) (by omega)
              dsimp only
              rw [hrest]
              exact ⟨s', rfl⟩

/-- **Reading exactly takes the front of the content.** -/
theorem Lawful.readExact_ok (h : reader.Lawful content) {n : Nat} {s : σ}
    (hlength : n ≤ (content s).length) :
    ∃ s', reader.readExact n s = (.ok ((content s).take n), s') ∧
      content s' = (content s).drop n :=
  h.fill_ok n n s (Nat.le_refl n) hlength

theorem Lawful.readExact_error (h : reader.Lawful content) {n : Nat} {s : σ}
    (hlength : (content s).length < n) :
    ∃ s', reader.readExact n s = (.error unexpectedEof, s') :=
  h.fill_error n n s (Nat.le_refl n) hlength

/-! ### Segments -/

/-- A read of a content that arrives in segments: it hands out of one segment only. -/
def readSegment : List (List α) → Nat → Except String (List α) × List (List α)
  | [], _ => (.ok [], [])
  | [] :: rest, n => readSegment rest n
  | (a :: segment) :: rest, n => (.ok ((a :: segment).take n), (a :: segment).drop n :: rest)

def segments : Reader (List (List α)) α where
  read := readSegment

theorem segments_lawful : (segments : Reader (List (List α)) α).Lawful List.flatten where
  read_ok s n := by
    show ∃ got s', readSegment s n = (.ok got, s') ∧ _
    induction s with
    | nil => exact ⟨[], [], rfl, Nat.zero_le n, rfl⟩
    | cons segment rest ih =>
        cases segment with
        | nil => exact ih
        | cons a segment =>
            refine ⟨_, _, rfl, List.length_take_le n _, ?_⟩
            rw [List.flatten_cons, List.flatten_cons, ← List.append_assoc, List.take_append_drop]
  read_nil {s s' n} hread := by
    replace hread : readSegment s n = (.ok [], s') := hread
    induction s with
    | nil => exact Or.inr rfl
    | cons segment rest ih =>
        cases segment with
        | nil => exact ih hread
        | cons a segment =>
            have hnil : (a :: segment).take n = [] := Except.ok.inj (congrArg Prod.fst hread)
            rcases List.take_eq_nil_iff.mp hnil with hzero | hempty
            · exact Or.inl hzero
            · cases hempty

end Reader
