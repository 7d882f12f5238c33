/-
Ordered maps, where the standard library stops short.

`Std.ExtTreeMap` is the model of a `BTreeMap`: two maps with the same bindings
are equal, and iteration goes up the keys.  What is added here is the lawful
comparison of lexicographic pairs, for maps keyed by a pair, what folding
conditional removals over a list of keys leaves behind, how the keys of a map are
made up of those that stay and those that go, and what its values are.
-/
import Mathlib.Data.Prod.Lex
import Std.Data.ExtTreeMap

namespace OrderedMap

instance lawfulEqOrdLex {α β : Type} [Ord α] [Ord β] [Std.LawfulEqOrd α] [Std.LawfulEqOrd β] :
    Std.LawfulEqOrd (α ×ₗ β) where
  compare_self {a} := by
    rw [Prod.Lex.compare_def]
    simp [compareLex, compareOn]
  eq_of_compare {a b} h := by
    rw [Prod.Lex.compare_def] at h
    simp only [compareLex, compareOn, Ordering.then_eq_eq, Std.LawfulEqCmp.compare_eq_iff_eq] at h
    exact Prod.ext h.1 h.2

variable {α β ι : Type} [Ord α] [Std.TransOrd α] [Std.LawfulEqOrd α]

/-! ### Lookups, decided by equality of keys -/

theorem getElem?_insert_eq [DecidableEq α] (m : Std.ExtTreeMap α β) (k a : α) (v : β) :
    (m.insert k v)[a]? = if k = a then some v else m[a]? := by
  rw [Std.ExtTreeMap.getElem?_insert]
  simp

theorem getElem?_erase_eq [DecidableEq α] (m : Std.ExtTreeMap α β) (k a : α) :
    (m.erase k)[a]? = if k = a then none else m[a]? := by
  rw [Std.ExtTreeMap.getElem?_erase]
  simp

/-- Removing the key of every index that passes a test keeps exactly the other bindings. -/
theorem getElem?_foldl_erase (p : ι → Prop) [DecidablePred p] (key : ι → α) (is : List ι) :
    ∀ (m : Std.ExtTreeMap α β) (k : α) (v : β),
      (is.foldl (fun m i => if p i then m.erase (key i) else m) m)[k]? = some v ↔
        m[k]? = some v ∧ ∀ i ∈ is, p i → key i ≠ k := by
  classical
  induction is with
  | nil => intro m k v; simp
  | cons i rest ih =>
      intro m k v
      rw [List.foldl_cons, ih]
      by_cases hp : p i
      · rw [if_pos hp, getElem?_erase_eq]
        by_cases hk : key i = k
        · simp [hp, hk]
        · simp [hk]
      · simp [hp]

/-- Inserting indices under their keys, one after another, leaves at each key the last index
with that key. -/
theorem getElem?_foldl_insert [DecidableEq α] (key : ι → α) (is : List ι) :
    ∀ (m : Std.ExtTreeMap α ι) (k : α),
      (is.foldl (fun m i => m.insert (key i) i) m)[k]? =
        (is.reverse.find? fun i => key i = k).or m[k]? := by
  induction is with
  | nil => intro m k; simp
  | cons i rest ih =>
      intro m k
      rw [List.foldl_cons, ih, getElem?_insert_eq, List.reverse_cons, List.find?_append,
        Option.or_assoc, List.find?_singleton]
      by_cases hk : key i = k
      · simp [hk]
      · simp [hk]

/-! ### The keys -/

omit [Std.LawfulEqOrd α] in
/-- The keys that a filter keeps and the keys it drops. -/
theorem keys_filter_perm (p : α → β → Bool) (m : Std.ExtTreeMap α β) :
    ((m.filter p).keys ++ (m.toList.filter fun entry => !p entry.1 entry.2).map Prod.fst).Perm
      m.keys := by
  rw [← Std.ExtTreeMap.map_fst_toList_eq_keys, ← Std.ExtTreeMap.map_fst_toList_eq_keys,
    Std.ExtTreeMap.toList_filter, ← List.map_append]
  exact (List.filter_append_perm _ _).map Prod.fst

/-- A new key. -/
theorem keys_insert_perm {m : Std.ExtTreeMap α β} {k : α} (h : k ∉ m) (v : β) :
    (m.insert k v).keys.Perm (m.keys ++ [k]) := by
  have hnodup : (m.keys ++ [k]).Nodup := by
    refine List.nodup_append.mpr ⟨Std.ExtTreeMap.nodup_keys, List.pairwise_singleton _ k, ?_⟩
    rintro a ha b hb rfl
    rw [List.mem_singleton.mp hb, Std.ExtTreeMap.mem_keys] at ha
    exact h ha
  rw [List.perm_ext_iff_of_nodup Std.ExtTreeMap.nodup_keys hnodup]
  intro a
  rw [Std.ExtTreeMap.mem_keys, Std.ExtTreeMap.mem_insert, List.mem_append, List.mem_singleton,
    Std.ExtTreeMap.mem_keys, Std.LawfulEqCmp.compare_eq_iff_eq, or_comm, eq_comm]

omit [Std.LawfulEqOrd α] in
theorem keys_map {γ : Type} (f : α → β → γ) (m : Std.ExtTreeMap α β) :
    (m.map f).keys = m.keys := by
  rw [← Std.ExtTreeMap.map_fst_toList_eq_keys, ← Std.ExtTreeMap.map_fst_toList_eq_keys,
    Std.ExtTreeMap.toList_map, List.map_map]
  rfl

/-! ### The values -/

omit [Std.LawfulEqOrd α] in
theorem values_eq_map_toList (m : Std.ExtTreeMap α β) : m.values = m.toList.map Prod.snd := by
  obtain ⟨⟨q⟩⟩ := m
  induction q using Quotient.ind with
  | _ t =>
    show t.values = (Std.DTreeMap.Const.toList t).map Prod.snd
    unfold Std.DTreeMap.values Std.DTreeMap.Const.toList
    rw [Std.DTreeMap.Internal.Impl.values_eq_map_snd,
      Std.DTreeMap.Internal.Impl.Const.toList_eq_toListModel_map]
    simp

theorem mem_values {m : Std.ExtTreeMap α β} {v : β} : v ∈ m.values ↔ ∃ k : α, m[k]? = some v := by
  rw [values_eq_map_toList, List.mem_map]
  constructor
  · intro ⟨⟨k, _⟩, hmem, hv⟩
    obtain rfl := hv
    exact ⟨k, Std.ExtTreeMap.mem_toList_iff_getElem?_eq_some.mp hmem⟩
  · intro ⟨k, hk⟩
    exact ⟨(k, v), Std.ExtTreeMap.mem_toList_iff_getElem?_eq_some.mpr hk, rfl⟩

end OrderedMap
