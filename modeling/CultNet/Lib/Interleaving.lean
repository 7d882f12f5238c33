/-
Processes that take turns on a shared state.

Every process has a state of its own, and a step of one process reads and writes the
shared state and its own.  What is known of a process in the state it is in holds in
every interleaving, when the process keeps it by its own steps and no step of another
process disturbs it.  The usual reason for the second is that a process looks at the
shared state only through a view of its own, and no other process changes that view.
-/
import CultNet.Lib.Machine
import Mathlib.Logic.Function.Basic

namespace Interleaving

variable {ι σ τ α : Type}

/-- The shared state, and the state of every process. -/
structure State (ι σ τ : Type) where
  shared : σ
  locals : ι → τ

/-- The process that the input names takes a step. -/
def step [DecidableEq ι] (act : ι → σ → τ → α → Option (σ × τ)) (s : State ι σ τ)
    (input : ι × α) : Option (Unit × State ι σ τ) :=
  match act input.1 s.shared (s.locals input.1) input.2 with
  | none => none
  | some (shared, own) => some ((), { shared, locals := Function.update s.locals input.1 own })

variable [DecidableEq ι] {act : ι → σ → τ → α → Option (σ × τ)}

/-- One process moves, and the others stay where they are. -/
theorem step_eq_some {s s' : State ι σ τ} {input : ι × α} {o : Unit} :
    step act s input = some (o, s') ↔
      act input.1 s.shared (s.locals input.1) input.2
          = some (s'.shared, s'.locals input.1) ∧
        ∀ j, j ≠ input.1 → s'.locals j = s.locals j := by
  unfold step
  cases hact : act input.1 s.shared (s.locals input.1) input.2 with
  | none => simp
  | some after =>
      simp only [Option.some.injEq, Prod.mk.injEq, true_and]
      constructor
      · rintro rfl
        refine ⟨by simp, ?_⟩
        intro j hj
        exact Function.update_of_ne hj _ _
      · rintro ⟨rfl, hothers⟩
        congr 1
        funext j
        by_cases hj : j = input.1
        · rw [hj, Function.update_self]
        · rw [Function.update_of_ne hj, hothers j hj]

/-- **What a process keeps by its own steps, and no other disturbs, holds along every run.** -/
theorem invariant (Fact : ι → σ → τ → Prop)
    (hown : ∀ i shared own a shared' own', Fact i shared own →
      act i shared own a = some (shared', own') → Fact i shared' own')
    (hothers : ∀ i j shared own a shared' own' other, j ≠ i → Fact i shared own →
      act i shared own a = some (shared', own') → Fact j shared other → Fact j shared' other)
    {s s' : State ι σ τ} {input : ι × α} {o : Unit} (h : ∀ i, Fact i s.shared (s.locals i))
    (hstep : step act s input = some (o, s')) : ∀ i, Fact i s'.shared (s'.locals i) := by
  obtain ⟨hact, hrest⟩ := step_eq_some.mp hstep
  intro j
  by_cases hj : j = input.1
  · rw [hj]
    exact hown _ _ _ _ _ _ (h input.1) hact
  · rw [hrest j hj]
    exact hothers _ j _ _ _ _ _ _ hj (h input.1) hact (h j)

/-- The same, for processes that each look at the shared state through a view of their own. -/
theorem invariant_of_view {υ : Type} (view : ι → σ → υ) (Fact : ι → υ → τ → Prop)
    (hown : ∀ i shared own a shared' own', Fact i (view i shared) own →
      act i shared own a = some (shared', own') → Fact i (view i shared') own')
    (hview : ∀ i j shared own a shared' own', j ≠ i → Fact i (view i shared) own →
      act i shared own a = some (shared', own') → view j shared' = view j shared)
    {s s' : State ι σ τ} {input : ι × α} {o : Unit}
    (h : ∀ i, Fact i (view i s.shared) (s.locals i))
    (hstep : step act s input = some (o, s')) : ∀ i, Fact i (view i s'.shared) (s'.locals i) := by
  refine invariant (fun i shared own => Fact i (view i shared) own) hown ?_ h hstep
  intro i j shared own a shared' own' other hj hfact hact hother
  show Fact j (view j shared') other
  rw [hview i j shared own a shared' own' hj hfact hact]
  exact hother

end Interleaving
