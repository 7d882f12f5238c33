/-
Fallible computations, taken apart.

A bind succeeds when both halves do, and a loop of checks when every check does.
Nothing here is about what the errors are.
-/
import Mathlib.Data.List.Forall2

namespace Fallible

variable {ε α β : Type}

theorem bind_eq_ok {x : Except ε α} {f : α → Except ε β} {b : β} :
    (x >>= f) = .ok b ↔ ∃ a, x = .ok a ∧ f a = .ok b := by
  cases x with
  | error e =>
      constructor
      · intro h
        cases h
      · intro ⟨a, h, _⟩
        cases h
  | ok a =>
      constructor
      · intro h
        exact ⟨a, rfl, h⟩
      · intro ⟨a', h, hf⟩
        cases h
        exact hf

theorem ok_bind (a : α) (f : α → Except ε β) : ((.ok a : Except ε α) >>= f) = f a := rfl

/-- A check followed by a computation. -/
theorem check_bind_eq_ok {x : Except ε Unit} {f : Unit → Except ε β} {b : β} :
    (x >>= f) = .ok b ↔ x = .ok () ∧ f () = .ok b := by
  rw [bind_eq_ok]
  exact ⟨fun ⟨_, h⟩ => h, fun h => ⟨(), h⟩⟩

/-- A guard that fails on a condition. -/
theorem guard_eq_ok {c : Prop} [Decidable c] {e : ε} {x : Except ε β} {b : β} :
    (if c then .error e else x) = .ok b ↔ ¬c ∧ x = .ok b := by
  by_cases h : c <;> simp [h]

/-- A guard as `do` writes it, in front of what comes after. -/
theorem guard_throw_eq_ok {c : Prop} [Decidable c] {e : ε} {f : α → Except ε β}
    {x : Except ε β} {b : β} : (if c then throw e >>= f else x) = .ok b ↔ ¬c ∧ x = .ok b :=
  guard_eq_ok

@[simp] theorem throw_ne_ok {e : ε} {b : β} : (throw e : Except ε β) ≠ .ok b := by
  simp [throw, throwThe, MonadExceptOf.throw]

@[simp] theorem throw_bind {e : ε} {f : α → Except ε β} :
    ((throw e : Except ε α) >>= f) = throw e := rfl

@[simp] theorem map_throw {e : ε} {f : α → β} : f <$> (throw e : Except ε α) = throw e := rfl

/-- A check that is no more than such a guard. -/
theorem throw_if_eq_ok {c : Prop} [Decidable c] {e : ε} :
    (if c then throw e else pure () : Except ε Unit) = .ok () ↔ ¬c := by
  by_cases h : c <;> simp [h, pure, Except.pure]

theorem forM_eq_ok {f : α → Except ε Unit} {l : List α} :
    l.forM f = .ok () ↔ ∀ a ∈ l, f a = .ok () := by
  induction l with
  | nil => simp [pure, Except.pure]
  | cons a rest ih =>
      rw [List.forM_eq_forM, List.forM_cons, check_bind_eq_ok, ← List.forM_eq_forM, ih]
      simp

/-- Mapping a computation over a list succeeds when it succeeds on every element. -/
theorem mapM_eq_ok {f : α → Except ε β} {l : List α} {bs : List β} :
    l.mapM f = .ok bs ↔ List.Forall₂ (fun a b => f a = .ok b) l bs := by
  induction l generalizing bs with
  | nil =>
      rw [List.mapM_nil, List.forall₂_nil_left_iff]
      exact ⟨fun h => by cases h; rfl, fun h => by subst h; rfl⟩
  | cons a rest ih =>
      rw [List.mapM_cons, bind_eq_ok, List.forall₂_cons_left_iff]
      constructor
      · rintro ⟨b, hb, h⟩
        obtain ⟨bs', hrest, h⟩ := bind_eq_ok.mp h
        cases h
        exact ⟨b, bs', hb, ih.mp hrest, rfl⟩
      · rintro ⟨b, bs', hb, hrest, rfl⟩
        exact ⟨b, hb, bind_eq_ok.mpr ⟨bs', ih.mpr hrest, rfl⟩⟩

theorem exists_mapM_eq_ok {f : α → Except ε β} (h : ∀ a, ∃ b, f a = .ok b) (l : List α) :
    ∃ bs, l.mapM f = .ok bs := by
  induction l with
  | nil => exact ⟨[], rfl⟩
  | cons a rest ih =>
      obtain ⟨b, hb⟩ := h a
      obtain ⟨bs, hbs⟩ := ih
      exact ⟨b :: bs, mapM_eq_ok.mpr (.cons hb (mapM_eq_ok.mp hbs))⟩

/-- Reading back a list that was written element by element. -/
theorem mapM_map_of_leftInverse {m : Type → Type} [Monad m] [LawfulMonad m] {f : β → m α}
    {g : α → β} (h : ∀ a, f (g a) = pure a) (l : List α) : (l.map g).mapM f = pure l := by
  have hpure : f ∘ g = fun a => pure (id a) := funext h
  rw [List.mapM_map, hpure, List.mapM_pure, List.map_id]

/-- The same for a reader that is told the place of each element. -/
theorem mapM_zipIdx_of_forall₂ {f : β × Nat → Except ε α} {l : List α} {bs : List β}
    (h : List.Forall₂ (fun a b => ∀ i, f (b, i) = .ok a) l bs) (k : Nat) :
    (bs.zipIdx k).mapM f = .ok l := by
  induction h generalizing k with
  | nil => rfl
  | cons hb _ ih => rw [List.zipIdx_cons, List.mapM_cons, hb k, ok_bind, ih (k + 1), ok_bind]; rfl

/-- Questions that agree element by element agree on the lists. -/
theorem forall_mem_iff_of_forall₂ {p : α → Prop} {q : β → Prop} {l : List α} {bs : List β}
    (h : List.Forall₂ (fun a b => p a ↔ q b) l bs) : (∀ a ∈ l, p a) ↔ ∀ b ∈ bs, q b := by
  induction h with
  | nil => simp
  | cons hab _ ih => rw [List.forall_mem_cons, List.forall_mem_cons, hab, ih]

/-- Every element of one list corresponds to one of the other. -/
theorem exists_mem_of_forall₂ {R : α → β → Prop} {l : List α} {bs : List β}
    (h : List.Forall₂ R l bs) : ∀ b ∈ bs, ∃ a ∈ l, R a b := by
  induction h with
  | nil =>
      intro b hb
      cases hb
  | @cons a b l bs hab _ ih =>
      intro b' hb'
      rcases List.mem_cons.mp hb' with rfl | hb'
      · exact ⟨a, List.mem_cons_self, hab⟩
      · obtain ⟨a', ha', hab'⟩ := ih b' hb'
        exact ⟨a', List.mem_cons_of_mem _ ha', hab'⟩

/-- What a search finds on one side of a correspondence corresponds to what it finds on the
other. -/
theorem find?_of_forall₂ {R : α → β → Prop} {p : α → Bool} {q : β → Bool}
    {as : List α} {bs : List β} (h : List.Forall₂ R as bs) (hpq : ∀ a b, R a b → p a = q b) :
    Option.Rel R (as.find? p) (bs.find? q) := by
  induction h with
  | nil => exact .none
  | @cons a b _ _ hab _ ih =>
      rw [List.find?_cons, List.find?_cons, hpq a b hab]
      by_cases hb : q b
      · simpa [hb] using Option.Rel.some hab
      · simpa [hb] using ih

end Fallible
