/-
Cutting a stream into items, whatever pieces it arrives in.

A splitter looks at the front of what has arrived and either takes one item off
it or asks for more.  Two properties are all it needs for the pieces not to
matter: taking an item makes the stream shorter, and what it has taken it takes
again when more has arrived behind it.  Then cutting a stream piece by piece,
carrying over what is left each time, is cutting the whole stream at once.
-/
import Mathlib.Data.List.Basic

namespace Splitter

variable {α β : Type} {take? : List α → Option (β × List α)}

/-- What makes a splitter one whose items do not depend on how the stream arrives. -/
structure Lawful (take? : List α → Option (β × List α)) : Prop where
  /-- An item is not empty. -/
  shorter : ∀ {xs rest : List α} {b : β}, take? xs = some (b, rest) → rest.length < xs.length
  /-- What comes behind an item does not change it. -/
  extend : ∀ {xs rest : List α} {b : β} (ys : List α),
    take? xs = some (b, rest) → take? (xs ++ ys) = some (b, rest ++ ys)

/-- Take items until the splitter asks for more, at most `fuel` of them. -/
def drain (take? : List α → Option (β × List α)) : Nat → List α → List β × List α
  | 0, xs => ([], xs)
  | fuel + 1, xs =>
    match take? xs with
    | none => ([], xs)
    | some (b, rest) =>
      let (items, left) := drain take? fuel rest
      (b :: items, left)

/-- All items of a stream, and what is left of it.  An item is not empty, so the length will do. -/
def cut (take? : List α → Option (β × List α)) (xs : List α) : List β × List α :=
  drain take? xs.length xs

/-- Cut a stream that arrives in pieces, starting from what was left before. -/
def cutAll (take? : List α → Option (β × List α)) : List α → List (List α) → List β × List α
  | left, [] => ([], left)
  | left, piece :: pieces =>
    let (items, left) := cut take? (left ++ piece)
    let (later, left) := cutAll take? left pieces
    (items ++ later, left)

namespace Lawful

/-- More fuel than the length changes nothing. -/
theorem drain_fuel (h : Lawful take?) : ∀ (fuel : Nat) (xs : List α), xs.length ≤ fuel →
    drain take? fuel xs = cut take? xs := by
  have hboth : ∀ (n : Nat) (xs : List α) (fuel fuel' : Nat), xs.length ≤ n → n ≤ fuel →
      n ≤ fuel' → drain take? fuel xs = drain take? fuel' xs := by
    intro n
    induction n with
    | zero =>
        intro xs fuel fuel' hlen _ _
        have hnone : take? xs = none := by
          cases htake : take? xs with
          | none => rfl
          | some result =>
              have := h.shorter htake
              omega
        cases fuel <;> cases fuel' <;> simp [drain, hnone]
    | succ n ih =>
        intro xs fuel fuel' hlen hfuel hfuel'
        obtain ⟨k, rfl⟩ : ∃ k, fuel = k + 1 := ⟨fuel - 1, by omega⟩
        obtain ⟨k', rfl⟩ : ∃ k', fuel' = k' + 1 := ⟨fuel' - 1, by omega⟩
        unfold drain
        cases htake : take? xs with
        | none => rfl
        | some result =>
            obtain ⟨b, rest⟩ := result
            have hrest := h.shorter htake
            simp only
            rw [ih rest k k' (by omega) (by omega) (by omega)]
  intro fuel xs hfuel
  exact hboth xs.length xs fuel xs.length (Nat.le_refl _) hfuel (Nat.le_refl _)

/-- A stream the splitter takes nothing from is left as it is. -/
theorem cut_none {xs : List α} (htake : take? xs = none) : cut take? xs = ([], xs) := by
  unfold cut
  cases xs.length <;> simp [drain, htake]

/-- The first item of a stream, and then those of the rest. -/
theorem cut_some (h : Lawful take?) {xs rest : List α} {b : β}
    (htake : take? xs = some (b, rest)) :
    cut take? xs = (b :: (cut take? rest).1, (cut take? rest).2) := by
  have hshorter := h.shorter htake
  obtain ⟨k, hk⟩ : ∃ k, xs.length = k + 1 := ⟨xs.length - 1, by omega⟩
  have hdrain := h.drain_fuel k rest (by omega)
  rw [cut, hk, drain, htake]
  simp only
  rw [hdrain]

/-- The splitter takes nothing more from what is left. -/
theorem take?_left (h : Lawful take?) : ∀ xs : List α, take? (cut take? xs).2 = none := by
  intro xs
  induction hn : xs.length using Nat.strongRecOn generalizing xs with
  | ind n ih =>
      cases htake : take? xs with
      | none =>
          rw [cut_none htake]
          exact htake
      | some result =>
          obtain ⟨b, rest⟩ := result
          rw [h.cut_some htake]
          exact ih rest.length (by have := h.shorter htake; omega) rest rfl

/-- Cutting a longer stream starts with the items of the shorter one. -/
theorem cut_append (h : Lawful take?) : ∀ xs ys : List α,
    cut take? (xs ++ ys)
      = ((cut take? xs).1 ++ (cut take? ((cut take? xs).2 ++ ys)).1,
          (cut take? ((cut take? xs).2 ++ ys)).2) := by
  intro xs ys
  induction hn : xs.length using Nat.strongRecOn generalizing xs with
  | ind n ih =>
      cases htake : take? xs with
      | none =>
          rw [cut_none htake]
          rfl
      | some result =>
          obtain ⟨b, rest⟩ := result
          have hrest := ih rest.length (by have := h.shorter htake; omega) rest rfl
          rw [h.cut_some (h.extend ys htake), h.cut_some htake, hrest]
          rfl

/-- **Cutting a stream piece by piece is cutting it at once.** -/
theorem cutAll_eq (h : Lawful take?) : ∀ (pieces : List (List α)) (left : List α),
    take? left = none → cutAll take? left pieces = cut take? (left ++ pieces.flatten) := by
  intro pieces
  induction pieces with
  | nil =>
      intro left hleft
      rw [List.flatten_nil, List.append_nil, cut_none hleft]
      rfl
  | cons piece pieces ih =>
      intro left hleft
      unfold cutAll
      simp only
      rw [ih _ (h.take?_left _), List.flatten_cons, ← List.append_assoc,
        h.cut_append (left ++ piece) pieces.flatten]

/-- **A stream made of whole items and an unfinished one is cut back into them.** -/
theorem cut_flatMap (h : Lawful take?) {ι : Type} {wire : ι → List α} {item : ι → β}
    {left : List α} (hleft : take? left = none) : ∀ is : List ι,
    (∀ i ∈ is, ∀ rest, take? (wire i ++ rest) = some (item i, rest)) →
      cut take? (is.flatMap wire ++ left) = (is.map item, left) := by
  intro is
  induction is with
  | nil =>
      intro _
      exact cut_none hleft
  | cons i is ih =>
      intro htake
      have hfirst := htake i List.mem_cons_self (is.flatMap wire ++ left)
      rw [List.flatMap_cons, List.append_assoc, h.cut_some hfirst,
        ih fun j hj => htake j (List.mem_cons_of_mem i hj)]
      rfl

end Lawful

/-- What has arrived of a stream of items is some whole items and a part of the next one. -/
theorem exists_of_prefix_flatMap {ι : Type} {wire : ι → List α} : ∀ {items : List ι}
    {arrived : List α}, arrived <+: items.flatMap wire →
      ∃ n ≤ items.length, ∃ tail, arrived = (items.take n).flatMap wire ++ tail ∧
        (∀ item ∈ items[n]?, tail <+: wire item ∧ tail ≠ wire item) ∧
        (n = items.length → tail = []) := by
  intro items
  induction items with
  | nil =>
      intro arrived h
      exact ⟨0, Nat.le_refl 0, [], by simpa using h, by simp, fun _ => rfl⟩
  | cons item items ih =>
      intro arrived h
      rw [List.flatMap_cons] at h
      by_cases hshort : arrived.length < (wire item).length
      · refine ⟨0, Nat.zero_le _, arrived, by simp, ?_, by simp⟩
        intro i hi
        have hhead := List.prefix_of_prefix_length_le h (List.prefix_append _ _) (Nat.le_of_lt hshort)
        simp only [List.getElem?_cons_zero, Option.mem_def, Option.some.injEq] at hi
        subst hi
        refine ⟨hhead, fun heq => ?_⟩
        rw [heq] at hshort
        exact Nat.lt_irrefl _ hshort
      · obtain ⟨more, rfl⟩ := List.prefix_of_prefix_length_le (List.prefix_append _ _) h
          (Nat.le_of_not_lt hshort)
        obtain ⟨n, hn, tail, hmore, hnext, hlast⟩ :=
          ih ((List.prefix_append_right_inj (wire item)).mp h)
        refine ⟨n + 1, Nat.succ_le_succ hn, tail, ?_, by simpa using hnext, fun heq => ?_⟩
        · rw [List.take_succ_cons, List.flatMap_cons, List.append_assoc, hmore]
        · exact hlast (Nat.succ.inj heq)

end Splitter
