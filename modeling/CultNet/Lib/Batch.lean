/-
Puts into a store, one after another until one fails.

A store holds entries, one for each identity.  Putting an item stores its entry over
what had its identity, or fails and changes nothing.  A batch stops at the first put
that fails and takes nothing back, so what the puts before it have stored is there:
of each identity the entry that was stored last.  The batch has changed nothing
exactly when all of these were there before.
-/
import Mathlib.Data.List.Nodup

namespace Batch

/-- A store, and how items are put into it. -/
structure Store (State Item Entry Key Error Result : Type) where
  holds : State → List Entry
  identity : Entry → Key
  put : State → Item → Except Error Result × State
  /-- The entry that an item becomes, if it becomes one. -/
  entryOf : Item → Option Entry

namespace Store

variable {State Item Entry Key Error Result : Type}

/-- Every put stores the one entry, or fails and changes nothing. -/
structure Atomic (store : Store State Item Entry Key Error Result) : Prop where
  unique : ∀ s, ((store.holds s).map store.identity).Nodup
  put_ok : ∀ {s s' : State} {item : Item} {r : Result}, store.put s item = (.ok r, s') →
    ∃ e, store.entryOf item = some e ∧
      ∀ x, x ∈ store.holds s' ↔
        x = e ∨ x ∈ store.holds s ∧ store.identity x ≠ store.identity e
  put_error : ∀ {s s' : State} {item : Item} {e : Error}, store.put s item = (.error e, s') → s' = s

variable (store : Store State Item Entry Key Error Result)

/-- Put one item after another, up to the first that fails. -/
def run : State → List Item → Except Error (List Result) × State
  | s, [] => (.ok [], s)
  | s, item :: rest =>
    match store.put s item with
    | (.error e, s) => (.error e, s)
    | (.ok r, s) =>
      match run s rest with
      | (.error e, s) => (.error e, s)
      | (.ok rs, s) => (.ok (r :: rs), s)

/-- So many puts succeed, and the next one fails. -/
inductive FailsAt : State → List Item → Nat → Prop
  | here {s s' : State} {item : Item} {rest : List Item} {e : Error}
      (hput : store.put s item = (.error e, s')) : FailsAt s (item :: rest) 0
  | later {s s' : State} {item : Item} {rest : List Item} {r : Result} {n : Nat}
      (hput : store.put s item = (.ok r, s')) (hrest : FailsAt s' rest n) :
      FailsAt s (item :: rest) (n + 1)

/-- The entries of some items. -/
def entries (items : List Item) : List Entry := items.filterMap store.entryOf

variable {store}

/-- The put that fails first is one put. -/
theorem FailsAt.unique {s : State} {items : List Item} {m n : Nat} (hm : store.FailsAt s items m)
    (hn : store.FailsAt s items n) : m = n := by
  induction hm generalizing n with
  | here hput =>
      cases hn with
      | here => rfl
      | later hput' => rw [hput] at hput'; cases hput'
  | later hput _ ih =>
      cases hn with
      | here hput' => rw [hput] at hput'; cases hput'
      | later hput' hrest =>
          rw [hput] at hput'
          cases hput'
          rw [ih hrest]

theorem failsAt_zero_iff {s : State} {item : Item} {rest : List Item} :
    store.FailsAt s (item :: rest) 0 ↔ ∃ e s', store.put s item = (.error e, s') := by
  constructor
  · intro h
    cases h with
    | here hput => exact ⟨_, _, hput⟩
  · rintro ⟨e, s', hput⟩
    exact .here hput

theorem failsAt_succ_iff {s s' : State} {item : Item} {rest : List Item} {r : Result} {n : Nat}
    (hput : store.put s item = (.ok r, s')) :
    store.FailsAt s (item :: rest) (n + 1) ↔ store.FailsAt s' rest n := by
  constructor
  · intro h
    cases h with
    | later hput' hrest =>
        rw [hput] at hput'
        cases hput'
        exact hrest
  · exact .later hput

/-- Where the item alone decides whether its put succeeds, the put that fails is that of the first
item that is refused. -/
theorem failsAt_iff_of_decided {taken : Item → Prop} {items : List Item}
    (hok : ∀ s, ∀ i ∈ items, taken i → ∃ r s', store.put s i = (.ok r, s'))
    (herror : ∀ s, ∀ i ∈ items, ¬taken i → ∃ e s', store.put s i = (.error e, s')) :
    ∀ {s : State} {n : Nat}, store.FailsAt s items n ↔
      (∃ i, items[n]? = some i ∧ ¬taken i) ∧ ∀ i ∈ items.take n, taken i := by
  induction items with
  | nil =>
      intro s n
      constructor
      · intro h
        cases h
      · rintro ⟨⟨i, hi, -⟩, -⟩
        simp at hi
  | cons item rest ih =>
      intro s n
      have ih := @ih (fun s i hi => hok s i (List.mem_cons_of_mem _ hi))
        (fun s i hi => herror s i (List.mem_cons_of_mem _ hi))
      by_cases htaken : taken item
      · obtain ⟨r, s', hput⟩ := hok s item List.mem_cons_self htaken
        cases n with
        | zero => simp [failsAt_zero_iff, hput, htaken]
        | succ n =>
            rw [failsAt_succ_iff hput, ih]
            simp [htaken]
      · obtain ⟨e, s', hput⟩ := herror s item List.mem_cons_self htaken
        cases n with
        | zero => simp [failsAt_zero_iff, hput, htaken]
        | succ n =>
            constructor
            · intro h
              cases h with
              | later hput' _ =>
                  rw [hput] at hput'
                  cases hput'
            · intro h
              exact absurd (h.2 item (by simp)) htaken

variable [DecidableEq Key]

variable (store) in
/-- The entries that no later one of the list replaces. -/
def standing : List Entry → List Entry
  | [] => []
  | e :: rest =>
    if store.identity e ∈ rest.map store.identity then standing rest else e :: standing rest

theorem exists_standing {es : List Entry} {k : Key} (h : k ∈ es.map store.identity) :
    ∃ e ∈ store.standing es, store.identity e = k := by
  induction es with
  | nil => simp at h
  | cons e rest ih =>
      unfold standing
      by_cases he : store.identity e ∈ rest.map store.identity
      · rw [if_pos he]
        rcases List.mem_cons.mp h with rfl | h
        · exact ih he
        · exact ih h
      · rw [if_neg he]
        rcases List.mem_cons.mp h with rfl | h
        · exact ⟨e, List.mem_cons_self, rfl⟩
        · obtain ⟨x, hx, hk⟩ := ih h
          exact ⟨x, List.mem_cons_of_mem _ hx, hk⟩

variable (store) in
/-- These entries have been stored one after another over what was there. -/
def Overlaid (s s' : State) (es : List Entry) : Prop :=
  ∀ x, x ∈ store.holds s' ↔
    x ∈ store.standing es ∨ x ∈ store.holds s ∧ store.identity x ∉ es.map store.identity

theorem Overlaid.nil (s : State) : store.Overlaid s s [] := by
  intro x
  simp [standing]

/-- One entry is stored, and then the others. -/
theorem Overlaid.cons {s between s' : State} {e : Entry} {es : List Entry}
    (hfirst : ∀ x, x ∈ store.holds between ↔
      x = e ∨ x ∈ store.holds s ∧ store.identity x ≠ store.identity e)
    (hrest : store.Overlaid between s' es) : store.Overlaid s s' (e :: es) := by
  intro x
  rw [hrest x, hfirst x, List.map_cons, List.mem_cons, not_or, standing]
  by_cases he : store.identity e ∈ es.map store.identity
  · rw [if_pos he]
    refine or_congr_right ⟨?_, fun ⟨hx, hne, hnot⟩ => ⟨.inr ⟨hx, hne⟩, hnot⟩⟩
    rintro ⟨rfl | ⟨hx, hne⟩, hnot⟩
    · exact absurd he hnot
    · exact ⟨hx, hne, hnot⟩
  · rw [if_neg he, List.mem_cons]
    constructor
    · rintro (h | ⟨rfl | ⟨hx, hne⟩, hnot⟩)
      · exact .inl (.inr h)
      · exact .inl (.inl rfl)
      · exact .inr ⟨hx, hne, hnot⟩
    · rintro ((rfl | h) | ⟨hx, hne, hnot⟩)
      · exact .inr ⟨.inl rfl, he⟩
      · exact .inl h
      · exact .inr ⟨.inr ⟨hx, hne⟩, hnot⟩

/-- Storing entries changes nothing exactly when those that stand were there. -/
theorem Overlaid.unchanged_iff (hatomic : store.Atomic) {s s' : State} {es : List Entry}
    (h : store.Overlaid s s' es) :
    (∀ x, x ∈ store.holds s' ↔ x ∈ store.holds s) ↔ ∀ x ∈ store.standing es, x ∈ store.holds s := by
  constructor
  · intro hsame x hx
    exact (hsame x).mp ((h x).mpr (.inl hx))
  · intro hthere x
    rw [h x]
    constructor
    · rintro (hx | ⟨hx, -⟩)
      · exact hthere x hx
      · exact hx
    · intro hx
      by_cases hk : store.identity x ∈ es.map store.identity
      · -- what stands under this identity was there, so it is this entry
        obtain ⟨y, hy, hyx⟩ := exists_standing hk
        have hxy := List.inj_on_of_nodup_map (hatomic.unique s) (hthere y hy) hx hyx
        exact .inl (hxy ▸ hy)
      · exact .inr ⟨hx, hk⟩

/-- A batch that fails has stored the entries of the items before the one that failed. -/
theorem run_error (hatomic : store.Atomic) {items : List Item} :
    ∀ {s s' : State} {e : Error}, store.run s items = (.error e, s') →
      ∃ n, store.FailsAt s items n ∧ store.Overlaid s s' (store.entries (items.take n)) := by
  induction items with
  | nil =>
      intro s s' e h
      cases h
  | cons item rest ih =>
      intro s s' e h
      unfold run at h
      split at h
      case h_1 failure between hput =>
        cases h
        obtain rfl := hatomic.put_error hput
        exact ⟨0, .here hput, Overlaid.nil _⟩
      case h_2 r between hput =>
        split at h
        case h_2 => cases h
        case h_1 failure after hrest =>
          cases h
          obtain ⟨n, hfails, hoverlaid⟩ := ih hrest
          obtain ⟨entry, hentry, hfirst⟩ := hatomic.put_ok hput
          refine ⟨n + 1, .later hput hfails, ?_⟩
          have hentries : store.entries ((item :: rest).take (n + 1))
              = entry :: store.entries (rest.take n) := by
            rw [List.take_succ_cons, entries, List.filterMap_cons_some hentry, entries]
          rw [hentries]
          exact hoverlaid.cons hfirst

/-- A batch that fails has changed nothing exactly when the entries it stored, apart from those
that it replaced itself, were there before. -/
theorem run_error_unchanged_iff (hatomic : store.Atomic) {items : List Item} {s s' : State}
    {e : Error} (h : store.run s items = (.error e, s')) :
    (∀ x, x ∈ store.holds s' ↔ x ∈ store.holds s) ↔
      ∀ n, store.FailsAt s items n →
        ∀ x ∈ store.standing (store.entries (items.take n)), x ∈ store.holds s := by
  obtain ⟨n, hfails, hoverlaid⟩ := run_error hatomic h
  rw [hoverlaid.unchanged_iff hatomic]
  constructor
  · intro hthere m hm
    rw [hm.unique hfails]
    exact hthere
  · intro hall
    exact hall n hfails

end Store

end Batch
