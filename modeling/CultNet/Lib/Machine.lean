/-
Deterministic machines with outputs.

A machine is a step function on states and inputs, `none` where a step does not
return.  `exec` feeds it a list of inputs, which is what a test evaluates; `Run`
is the same thing as an inductive relation that grows at the end, which is what
an invariant is proved along, and it carries the log of every input with the
output it produced.
-/
import Mathlib.Data.List.Basic

namespace Machine

variable {σ ι ο : Type} {step : σ → ι → Option (ο × σ)}

/-- Feed a machine a list of inputs, collecting the outputs. -/
def exec (step : σ → ι → Option (ο × σ)) : σ → List ι → Option (List (ι × ο) × σ)
  | s, [] => some ([], s)
  | s, i :: rest =>
    match step s i with
    | none => none
    | some (o, s) =>
      match exec step s rest with
      | none => none
      | some (log, s) => some ((i, o) :: log, s)

/-- The machine that stops where a condition on the state and the input is not met. -/
def guarded (P : σ → ι → Prop) [∀ s i, Decidable (P s i)] (step : σ → ι → Option (ο × σ)) (s : σ)
    (i : ι) : Option (ο × σ) :=
  if P s i then step s i else none

/-- A guarded step meets the condition and is a step. -/
theorem guarded_eq_some {P : σ → ι → Prop} [∀ s i, Decidable (P s i)] {s : σ} {i : ι}
    {result : ο × σ} : guarded P step s i = some result ↔ P s i ∧ step s i = some result := by
  unfold guarded
  by_cases h : P s i
  · simp [h]
  · simp [h]

/-- From `s₀` the machine gets to a state along a log of inputs and outputs. -/
inductive Run (step : σ → ι → Option (ο × σ)) (s₀ : σ) : List (ι × ο) → σ → Prop
  | nil : Run step s₀ [] s₀
  | snoc {log : List (ι × ο)} {s s' : σ} {i : ι} {o : ο} (h : Run step s₀ log s)
      (hstep : step s i = some (o, s')) : Run step s₀ (log ++ [(i, o)]) s'

namespace Run

/-- What holds at the start and survives every step holds wherever a run ends. -/
theorem invariant {Inv : σ → Prop} {s₀ s : σ} {log : List (ι × ο)} (h : Run step s₀ log s)
    (hinit : Inv s₀)
    (hstep : ∀ s i o s', Inv s → step s i = some (o, s') → Inv s') : Inv s := by
  induction h with
  | nil => exact hinit
  | snoc _ hs ih => exact hstep _ _ _ _ ih hs

/-- A step in front of a run. -/
theorem cons {s₀ s₁ s : σ} {i : ι} {o : ο} {log : List (ι × ο)}
    (hstep : step s₀ i = some (o, s₁)) (h : Run step s₁ log s) :
    Run step s₀ ((i, o) :: log) s := by
  induction h with
  | nil => exact (Run.nil.snoc hstep : Run step s₀ ([] ++ [(i, o)]) s₁)
  | snoc _ hs ih => exact ih.snoc hs

/-- One run after another. -/
theorem append {s₀ s₁ s : σ} {log log' : List (ι × ο)} (h : Run step s₀ log s₁)
    (h' : Run step s₁ log' s) : Run step s₀ (log ++ log') s := by
  induction h' with
  | nil =>
      rw [List.append_nil]
      exact h
  | snoc _ hs ih =>
      rw [← List.append_assoc]
      exact ih.snoc hs

/-- A guarded run is a run. -/
theorem of_guarded {P : σ → ι → Prop} [∀ s i, Decidable (P s i)] {s₀ s : σ}
    {log : List (ι × ο)} (h : Run (guarded P step) s₀ log s) : Run step s₀ log s := by
  induction h with
  | nil => exact Run.nil
  | snoc _ hs ih => exact ih.snoc (guarded_eq_some.mp hs).2

/-- An empty log leads nowhere. -/
theorem eq_of_nil {s₀ s : σ} (h : Run step s₀ [] s) : s = s₀ := by
  generalize hlog : [] = log at h
  cases h with
  | nil => rfl
  | snoc _ _ => simp at hlog

/-- The first step of a run. -/
theorem uncons {s₀ s : σ} {i : ι} {o : ο} {log : List (ι × ο)}
    (h : Run step s₀ ((i, o) :: log) s) :
    ∃ s₁, step s₀ i = some (o, s₁) ∧ Run step s₁ log s := by
  generalize hlog : (i, o) :: log = whole at h
  induction h generalizing log with
  | nil => cases hlog
  | @snoc before t s j p hrun hstep ih =>
      cases before with
      | nil =>
          simp only [List.nil_append, List.cons.injEq, Prod.mk.injEq] at hlog
          obtain ⟨⟨rfl, rfl⟩, rfl⟩ := hlog
          rw [eq_of_nil hrun] at hstep
          exact ⟨s, hstep, Run.nil⟩
      | cons first rest =>
          simp only [List.cons_append, List.cons.injEq] at hlog
          obtain ⟨rfl, rfl⟩ := hlog
          obtain ⟨s₁, hfirst, hrest⟩ := ih rfl
          exact ⟨s₁, hfirst, hrest.snoc hstep⟩

/-- The last step of a run. -/
theorem unsnoc {s₀ s : σ} {i : ι} {o : ο} {log : List (ι × ο)}
    (h : Run step s₀ (log ++ [(i, o)]) s) :
    ∃ s₁, Run step s₀ log s₁ ∧ step s₁ i = some (o, s) := by
  generalize hlog : log ++ [(i, o)] = whole at h
  cases h with
  | nil => simp at hlog
  | snoc hrun hs =>
      obtain ⟨rfl, hlast⟩ := List.append_inj' hlog rfl
      simp only [List.cons.injEq, Prod.mk.injEq, and_true] at hlast
      obtain ⟨rfl, rfl⟩ := hlast
      exact ⟨_, hrun, hs⟩

/-- A run along two logs, one after the other. -/
theorem split {s₀ s : σ} {log log' : List (ι × ο)} (h : Run step s₀ (log ++ log') s) :
    ∃ s₁, Run step s₀ log s₁ ∧ Run step s₁ log' s := by
  induction log generalizing s₀ with
  | nil => exact ⟨s₀, Run.nil, h⟩
  | cons entry rest ih =>
      obtain ⟨i, o⟩ := entry
      rw [List.cons_append] at h
      obtain ⟨t, hstep, hrest⟩ := uncons h
      obtain ⟨s₁, hrun, hlast⟩ := ih hrest
      exact ⟨s₁, hrun.cons hstep, hlast⟩

/-- A log leads to one state only. -/
theorem unique {s₀ s : σ} {log : List (ι × ο)} (h : Run step s₀ log s) :
    ∀ {s' : σ}, Run step s₀ log s' → s = s' := by
  induction h with
  | nil => exact fun h' => (eq_of_nil h').symm
  | snoc _ hs ih =>
      intro s' h'
      obtain ⟨s₁, hrun, hs'⟩ := unsnoc h'
      obtain rfl := ih hrun
      rw [hs] at hs'
      simp only [Option.some.injEq, Prod.mk.injEq, true_and] at hs'
      exact hs'

/-- What `exec` computes is a run. -/
theorem of_exec {is : List ι} : ∀ {s₀ s : σ} {log : List (ι × ο)},
    exec step s₀ is = some (log, s) → Run step s₀ log s := by
  induction is with
  | nil =>
      intro s₀ s log h
      simp only [exec, Option.some.injEq, Prod.mk.injEq] at h
      obtain ⟨rfl, rfl⟩ := h
      exact Run.nil
  | cons i rest ih =>
      intro s₀ s log h
      simp only [exec] at h
      split at h
      · cases h
      · rename_i o s₁ hstep
        split at h
        · cases h
        · rename_i log₁ s₂ hrest
          simp only [Option.some.injEq, Prod.mk.injEq] at h
          obtain ⟨rfl, rfl⟩ := h
          exact Run.cons hstep (ih hrest)

/-- The log of `exec` is about the inputs it was given. -/
theorem map_fst_exec {is : List ι} : ∀ {s₀ s : σ} {log : List (ι × ο)},
    exec step s₀ is = some (log, s) → log.map Prod.fst = is := by
  induction is with
  | nil =>
      intro s₀ s log h
      simp only [exec, Option.some.injEq, Prod.mk.injEq] at h
      rw [← h.1]
      rfl
  | cons i rest ih =>
      intro s₀ s log h
      simp only [exec] at h
      split at h
      · cases h
      · split at h
        · cases h
        · rename_i hrest
          simp only [Option.some.injEq, Prod.mk.injEq] at h
          rw [← h.1, List.map_cons, ih hrest]

/-- A run along a list of inputs, with a test of where it ends that evaluation can decide. -/
theorem of_exec_any {s₀ : σ} {is : List ι} {check : List (ι × ο) × σ → Bool}
    (h : (exec step s₀ is).any check = true) :
    ∃ log s, Run step s₀ log s ∧ log.map Prod.fst = is ∧ check (log, s) = true := by
  cases hexec : exec step s₀ is with
  | none =>
      rw [hexec] at h
      cases h
  | some result =>
      rw [hexec] at h
      exact ⟨result.1, result.2, of_exec hexec, map_fst_exec hexec, h⟩

/-- A machine that only adds to the state of another follows all its runs. -/
theorem lift {τ : Type} {step' : τ → ι → Option (ο × τ)} {view : τ → σ}
    (hstep : ∀ t i o s', step (view t) i = some (o, s') →
      ∃ t', step' t i = some (o, t') ∧ view t' = s')
    {t₀ : τ} {s : σ} {log : List (ι × ο)} (h : Run step (view t₀) log s) :
    ∃ t, Run step' t₀ log t ∧ view t = s := by
  induction h with
  | nil => exact ⟨t₀, Run.nil, rfl⟩
  | snoc _ hs ih =>
      obtain ⟨t, hrun, rfl⟩ := ih
      obtain ⟨t', hnext, rfl⟩ := hstep t _ _ _ hs
      exact ⟨t', hrun.snoc hnext, rfl⟩

end Run

/-- Every step along a log from `s₀` is as `P` says of it and of the log before it. -/
def Each (step : σ → ι → Option (ο × σ)) (P : List (ι × ο) → σ → ι → ο → σ → Prop) (s₀ : σ)
    (log : List (ι × ο)) : Prop :=
  ∀ before i o after s s', log = before ++ (i, o) :: after →
    Run step s₀ before s → step s i = some (o, s') → P before s i o s'

namespace Each

variable {P Q : List (ι × ο) → σ → ι → ο → σ → Prop} {s₀ s : σ}

/-- Along an empty log there is no step. -/
theorem nil : Each step P s₀ [] := by
  intro before i o after s s' hlog
  simp at hlog

/-- Two properties that agree on every step agree along every log. -/
theorem congr {log : List (ι × ο)}
    (h : ∀ before s i o s', step s i = some (o, s') → (P before s i o s' ↔ Q before s i o s')) :
    Each step P s₀ log ↔ Each step Q s₀ log :=
  ⟨fun hP before i o after s s' hlog hrun hs =>
      (h before s i o s' hs).mp (hP before i o after s s' hlog hrun hs),
    fun hQ before i o after s s' hlog hrun hs =>
      (h before s i o s' hs).mpr (hQ before i o after s s' hlog hrun hs)⟩

/-- The steps after a run. -/
theorem suffix {log log' : List (ι × ο)} (h : Each step P s₀ (log ++ log'))
    (hrun : Run step s₀ log s) : Each step (fun before => P (log ++ before)) s log' := by
  intro before i o after t t' hlog hbefore hs
  refine h (log ++ before) i o after t t' ?_ (hrun.append hbefore) hs
  rw [hlog, List.append_assoc]

/-- What holds at the start and survives the steps that are as `P` says holds at the end. -/
theorem invariant {log : List (ι × ο)} (h : Each step P s₀ log) (Inv : σ → Prop)
    (hinit : Inv s₀)
    (hstep : ∀ before s i o s', Inv s → step s i = some (o, s') → P before s i o s' → Inv s')
    (hrun : Run step s₀ log s) : Inv s := by
  have hprefix : ∀ {before after : List (ι × ο)} {t : σ}, Run step s₀ before t →
      log = before ++ after → Inv t := by
    intro before after t hbefore
    induction hbefore generalizing after with
    | nil => exact fun _ => hinit
    | @snoc before t t' i o hbefore hs ih =>
        intro hlog
        rw [List.append_assoc, List.singleton_append] at hlog
        exact hstep before t i o t' (ih hlog) hs (h before i o after t t' hlog hbefore hs)
  exact hprefix hrun (List.append_nil log).symm

/-- One more step. -/
theorem snoc_iff {log : List (ι × ο)} {i : ι} {o : ο} {s' : σ} (hrun : Run step s₀ log s)
    (hs : step s i = some (o, s')) :
    Each step P s₀ (log ++ [(i, o)]) ↔ Each step P s₀ log ∧ P log s i o s' := by
  constructor
  · intro h
    refine ⟨?_, h log i o [] s s' rfl hrun hs⟩
    intro before j p after t t' hlog hbefore ht
    refine h before j p (after ++ [(i, o)]) t t' ?_ hbefore ht
    rw [hlog, List.append_assoc, List.cons_append]
  · rintro ⟨h, hlast⟩ before j p after t t' hlog hbefore ht
    rcases List.eq_nil_or_concat after with rfl | ⟨after, last, rfl⟩
    · -- it is the last step
      obtain ⟨rfl, hsame⟩ := List.append_inj' hlog rfl
      simp only [List.cons.injEq, Prod.mk.injEq, and_true] at hsame
      obtain ⟨rfl, rfl⟩ := hsame
      obtain rfl := hrun.unique hbefore
      rw [hs] at ht
      simp only [Option.some.injEq, Prod.mk.injEq, true_and] at ht
      rwa [← ht]
    · rw [List.concat_eq_append, ← List.cons_append, ← List.append_assoc] at hlog
      exact h before j p after t t' (List.append_inj_left' hlog rfl) hbefore ht

/-- **What every step keeps exactly if it is as `P` says holds at the end exactly if every step
was.** -/
theorem iff_of_step {log : List (ι × ο)} (Inv Good : σ → Prop) (hinv : Inv s₀) (hgood : Good s₀)
    (hkeep : ∀ s i o s', Inv s → step s i = some (o, s') → Inv s')
    (hstep : ∀ before s i o s', Inv s → step s i = some (o, s') →
      (Good s' ↔ Good s ∧ P before s i o s'))
    (hrun : Run step s₀ log s) : Good s ↔ Each step P s₀ log := by
  induction hrun with
  | nil => exact iff_of_true hgood Each.nil
  | @snoc log s s' i o hrun hs ih =>
      rw [hstep log s i o s' (hrun.invariant hinv hkeep) hs, ih, snoc_iff hrun hs]

end Each

end Machine
