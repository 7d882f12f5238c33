/-
Writing all of a list.

A writer takes what it is given, or only the front of it, and a write may fail.
Writing all of a list writes on behind what was taken until nothing is missing.  What
the writer has taken in the end is the list, or, where a write failed, a front of it
that is not the whole.
-/
import Mathlib.Data.List.Basic

/-- A sink of items; a write says how many it took. -/
structure StreamWriter (σ α : Type) where
  write : σ → List α → Except String Nat × σ
  flush : σ → Except String Unit × σ

namespace StreamWriter

variable {σ α : Type}

/-- What a sink has taken is what its writes took, one after another. -/
structure Lawful (writer : StreamWriter σ α) (written : σ → List α) : Prop where
  write_ok : ∀ {s s' : σ} {items : List α} {n : Nat}, writer.write s items = (.ok n, s') →
    n ≤ items.length ∧ written s' = written s ++ items.take n
  write_error : ∀ {s s' : σ} {items : List α} {e : String},
    writer.write s items = (.error e, s') → written s' = written s
  written_flush : ∀ s, written (writer.flush s).2 = written s

/-- The error of a sink that takes nothing. -/
def writeZero : String := "failed to write whole buffer"

/-- Write until nothing is missing, at most `fuel` times. -/
def drain (writer : StreamWriter σ α) : Nat → List α → σ → Except String Unit × σ
  | _, [], s => (.ok (), s)
  | 0, _ :: _, s => (.error writeZero, s)
  | fuel + 1, item :: items, s =>
    match writer.write s (item :: items) with
    | (.error e, s) => (.error e, s)
    | (.ok 0, s) => (.error writeZero, s)
    | (.ok (n + 1), s) => writer.drain fuel (items.drop n) s

/-- Write all of a list.  Every write takes one at least, so its length will do. -/
def writeAll (writer : StreamWriter σ α) (items : List α) (s : σ) : Except String Unit × σ :=
  writer.drain items.length items s

variable {writer : StreamWriter σ α} {written : σ → List α}

/-- All of the list was taken, or a front of it. -/
theorem Lawful.drain_written (h : writer.Lawful written) : ∀ (fuel : Nat) (items : List α) (s : σ)
    {result : Except String Unit} {s' : σ}, writer.drain fuel items s = (result, s') →
      ∃ n ≤ items.length, written s' = written s ++ items.take n ∧
        (result = .ok () ↔ n = items.length) := by
  intro fuel
  induction fuel with
  | zero =>
      intro items s result s' hdrain
      cases items with
      | nil =>
          obtain ⟨rfl, rfl⟩ := Prod.mk.inj hdrain
          exact ⟨0, Nat.le_refl 0, by simp, by simp⟩
      | cons item items =>
          obtain ⟨rfl, rfl⟩ := Prod.mk.inj hdrain
          exact ⟨0, Nat.zero_le _, by simp, by simp⟩
  | succ fuel ih =>
      intro items s result s' hdrain
      cases items with
      | nil =>
          obtain ⟨rfl, rfl⟩ := Prod.mk.inj hdrain
          exact ⟨0, Nat.le_refl 0, by simp, by simp⟩
      | cons item items =>
          unfold drain at hdrain
          split at hdrain
          · rename_i e s₁ hwrite
            obtain ⟨rfl, rfl⟩ := Prod.mk.inj hdrain
            exact ⟨0, Nat.zero_le _, by simp [h.write_error hwrite], by simp⟩
          · rename_i s₁ hwrite
            obtain ⟨rfl, rfl⟩ := Prod.mk.inj hdrain
            exact ⟨0, Nat.zero_le _, (h.write_ok hwrite).2, by simp⟩
          · rename_i n s₁ hwrite
            obtain ⟨hle, hwritten⟩ := h.write_ok hwrite
            obtain ⟨m, hm, hrest, hresult⟩ := ih (items.drop n) s₁ hdrain
            simp only [List.length_drop] at hm hresult
            simp only [List.length_cons] at hle ⊢
            refine ⟨n + 1 + m, by omega, ?_, hresult.trans (by omega)⟩
            rw [hrest, hwritten, List.append_assoc, List.take_add, List.drop_succ_cons]

/-- **What is written in full is there in full.** -/
theorem Lawful.writeAll_ok (h : writer.Lawful written) {items : List α} {s s' : σ}
    (hwrite : writer.writeAll items s = (.ok (), s')) : written s' = written s ++ items := by
  obtain ⟨n, -, hwritten, hresult⟩ := h.drain_written _ items s hwrite
  rw [hwritten, hresult.mp rfl, List.take_length]

theorem Lawful.writeAll_error (h : writer.Lawful written) {items : List α} {s s' : σ} {e : String}
    (hwrite : writer.writeAll items s = (.error e, s')) :
    ∃ n < items.length, written s' = written s ++ items.take n := by
  obtain ⟨n, hn, hwritten, hresult⟩ := h.drain_written _ items s hwrite
  refine ⟨n, Nat.lt_of_le_of_ne hn fun heq => ?_, hwritten⟩
  have hok := hresult.mpr heq
  simp at hok

/-! ### A sink that may break -/

/-- What was taken, and how much more will be before the writes fail, if they will. -/
structure Sink (α : Type) where
  taken : List α := []
  room : Option Nat := none
  deriving DecidableEq

/-- Writes that take at most `most` items each. -/
def sinks (α : Type) (most : Nat) : StreamWriter (Sink α) α where
  write s items :=
    let n := min most items.length
    match s.room with
    | none => (.ok n, { s with taken := s.taken ++ items.take n })
    | some 0 => (.error "broken pipe", s)
    | some (room + 1) =>
      let n := min n (room + 1)
      (.ok n, { taken := s.taken ++ items.take n, room := some (room + 1 - n) })
  flush s := (.ok (), s)

theorem sinks_lawful (α : Type) (most : Nat) : (sinks α most).Lawful Sink.taken where
  write_ok {s s' items n} h := by
    simp only [sinks] at h
    split at h
    · obtain ⟨hn, rfl⟩ := Prod.mk.inj h
      obtain rfl := Except.ok.inj hn
      exact ⟨Nat.min_le_right _ _, rfl⟩
    · simp at h
    · obtain ⟨hn, rfl⟩ := Prod.mk.inj h
      obtain rfl := Except.ok.inj hn
      exact ⟨by omega, rfl⟩
  write_error {s s' items e} h := by
    simp only [sinks] at h
    split at h
    · simp at h
    · rw [← (Prod.mk.inj h).2]
    · simp at h
  written_flush s := rfl

end StreamWriter
