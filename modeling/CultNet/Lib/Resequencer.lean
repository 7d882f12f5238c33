/-
Putting a stream back in order.

A resequencer knows the key it expects next and holds back the items whose turn
has not come.  An item carries the key that follows it, so the keys of a stream
need not be consecutive: they are a chain that each item continues.  An item
below the expected key is dropped, one above it waits, and the expected one goes
out with every waiting item that now follows.

Three things are proved of it.  Whatever goes out came in, and leaves the waiting
items (`Drained`).  When the items are those of one chain, what goes out is a
stretch of the chain without a gap (`Serves`).  And whatever the items are, as long
as each is followed by a larger key, the keys of what goes out ascend (`Ascends`).
-/
import CultNet.Lib.OrderedMap
import Mathlib.Tactic.Tauto

/-- The expected key, once there is one, and the items that wait for their turn. -/
structure Resequencer (κ β : Type) [Ord κ] where
  next : Option κ
  waiting : Std.ExtTreeMap κ β

namespace Resequencer

variable {κ β : Type} [Ord κ] [Std.TransOrd κ] [Std.LawfulEqOrd κ]

/-- Take out waiting items as long as the expected one is there. -/
def drain (after : β → κ) : Nat → Resequencer κ β → List β × Resequencer κ β
  | 0, r => ([], r)
  | fuel + 1, r =>
    match r.next with
    | none => ([], r)
    | some next =>
      match r.waiting[next]? with
      | none => ([], r)
      | some item =>
        let (out, r) := drain after fuel
          { next := some (after item), waiting := r.waiting.erase next }
        (item :: out, r)

section

variable [LT κ] [DecidableLT κ]

/-- Bring in an item.  A resequencer that expects nothing yet starts at `first`. -/
def push (after : β → κ) (r : Resequencer κ β) (key : κ) (item : β) (first : κ) :
    List β × Resequencer κ β :=
  let next := r.next.getD first
  if key < next then ([], { r with next := some next })
  else if next < key then ([], { next := some next, waiting := r.waiting.insert key item })
  else
    let (out, r) := drain after r.waiting.size { r with next := some (after item) }
    (item :: out, r)

end

/-! ### What goes out was waiting -/

/-- The items `entries`, each under a key of its own, wait in `r` and no longer in `r'`. -/
structure Drained (r r' : Resequencer κ β) (entries : List (κ × β)) : Prop where
  nodup : (entries.map Prod.fst).Nodup
  came : ∀ e ∈ entries, r.waiting[e.1]? = some e.2
  waiting : ∀ key item, r'.waiting[key]? = some item ↔
    r.waiting[key]? = some item ∧ key ∉ entries.map Prod.fst

omit [Std.LawfulEqOrd κ] in
theorem Drained.none {r r' : Resequencer κ β} (h : r'.waiting = r.waiting) :
    Drained r r' [] where
  nodup := List.nodup_nil
  came := by intro e he; cases he
  waiting := by
    intro key item
    rw [h]
    simp

theorem drain_drained (after : β → κ) (fuel : Nat) : ∀ r : Resequencer κ β,
    ∃ entries, (drain after fuel r).1 = entries.map Prod.snd ∧
      Drained r (drain after fuel r).2 entries := by
  classical
  induction fuel with
  | zero => exact fun r => ⟨[], rfl, Drained.none rfl⟩
  | succ fuel ih =>
      intro r
      unfold drain
      split
      · exact ⟨[], rfl, Drained.none rfl⟩
      · rename_i next hnext
        split
        · exact ⟨[], rfl, Drained.none rfl⟩
        · rename_i item hitem
          obtain ⟨entries, hout, hdrained⟩ := ih
            { next := some (after item), waiting := r.waiting.erase next }
          have herase : ∀ key (v : β), (r.waiting.erase next)[key]? = some v ↔
              r.waiting[key]? = some v ∧ key ≠ next := by
            intro key v
            rw [OrderedMap.getElem?_erase_eq]
            by_cases hkey : next = key
            · simp [hkey]
            · simp [hkey, Ne.symm hkey]
          refine ⟨(next, item) :: entries, ?_, ?_, ?_, ?_⟩
          · simp only [List.map_cons]
            rw [← hout]
          · -- the rest was drained from what no longer holds the first key
            rw [List.map_cons, List.nodup_cons]
            refine ⟨?_, hdrained.nodup⟩
            intro hmem
            obtain ⟨e, he, hkey⟩ := List.mem_map.mp hmem
            exact ((herase _ _).mp (hdrained.came e he)).2 hkey
          · intro e he
            rcases List.mem_cons.mp he with rfl | he
            · exact hitem
            · exact ((herase _ _).mp (hdrained.came e he)).1
          · intro key v
            rw [hdrained.waiting, herase, List.map_cons, List.mem_cons, not_or]
            tauto

section

variable [LT κ] [DecidableLT κ]

/-- What bringing in an item does to the items that wait. -/
inductive Pushed (r r' : Resequencer κ β) (key : κ) (item : β) : List β → Prop
  | dropped (h : r'.waiting = r.waiting) : Pushed r r' key item []
  | held (h : r'.waiting = r.waiting.insert key item) : Pushed r r' key item []
  | released (entries : List (κ × β)) (h : Drained r r' entries) :
      Pushed r r' key item (item :: entries.map Prod.snd)

theorem push_pushed (after : β → κ) (r : Resequencer κ β) (key : κ) (item : β) (first : κ) :
    Pushed r (push after r key item first).2 key item (push after r key item first).1 := by
  unfold push
  dsimp only
  split
  · exact .dropped rfl
  · split
    · exact .held rfl
    · obtain ⟨entries, hout, hdrained⟩ :=
        drain_drained after r.waiting.size { r with next := some (after item) }
      rw [hout]
      exact .released entries ⟨hdrained.nodup, hdrained.came, hdrained.waiting⟩

end

/-! ### The items of one chain come out in order -/

section

variable [LT κ]

/-- `length` items, each followed by the key of the next one. -/
structure Chain (after : β → κ) where
  length : Nat
  key : Nat → κ
  item : Nat → β
  mono : ∀ i j, i < j → j ≤ length → key i < key j
  after_item : ∀ i, i < length → after (item i) = key (i + 1)

variable {after : β → κ}

omit [Ord κ] [Std.TransOrd κ] [Std.LawfulEqOrd κ] in
theorem Chain.key_inj [Std.Irrefl (fun a b : κ => a < b)] (chain : Chain after) {i j : Nat} (hi : i ≤ chain.length)
    (hj : j ≤ chain.length) (h : chain.key i = chain.key j) : i = j := by
  rcases Nat.lt_trichotomy i j with hlt | heq | hlt
  · have hkey := chain.mono i j hlt hj
    rw [h] at hkey
    exact absurd hkey Std.lt_irrefl
  · exact heq
  · have hkey := chain.mono j i hlt hi
    rw [h] at hkey
    exact absurd hkey Std.lt_irrefl

/-- The items from place `i` on that have come in, and nothing else, wait in `r`. -/
def Holds (chain : Chain after) (came : Nat → Prop) (i : Nat) (r : Resequencer κ β) : Prop :=
  ∀ key item, r.waiting[key]? = some item ↔
    ∃ j, i ≤ j ∧ j < chain.length ∧ came j ∧ chain.key j = key ∧ chain.item j = item

/-- `r` waits for the item at place `i`, which has not come in; what came in after it waits. -/
structure Serves (chain : Chain after) (came : Nat → Prop) (i : Nat) (r : Resequencer κ β) :
    Prop where
  le : i ≤ chain.length
  next : r.next = some (chain.key i)
  missing : i < chain.length → ¬ came i
  holds : Holds chain came i r

/-- The items of a chain from place `i` up to place `i'`. -/
def Chain.stretch (chain : Chain after) (i i' : Nat) : List β :=
  (List.range' i (i' - i)).map chain.item

omit [Ord κ] [Std.TransOrd κ] [Std.LawfulEqOrd κ] in
theorem Chain.stretch_cons (chain : Chain after) {i i' : Nat} (h : i + 1 ≤ i') :
    chain.item i :: chain.stretch (i + 1) i' = chain.stretch i i' := by
  unfold Chain.stretch
  rw [show i' - i = (i' - (i + 1)) + 1 by omega, List.range'_succ, List.map_cons]

omit [Std.LawfulEqOrd κ] in
/-- The same items wait for the same places. -/
theorem Holds.congr {chain : Chain after} {came came' : Nat → Prop} {i i' : Nat}
    {r r' : Resequencer κ β} (h : Holds chain came i r) (hwaiting : r'.waiting = r.waiting)
    (hplaces : ∀ l, l < chain.length → (i' ≤ l ∧ came' l ↔ i ≤ l ∧ came l)) :
    Holds chain came' i' r' := by
  intro key v
  rw [hwaiting, h key v]
  constructor
  · rintro ⟨l, hl, hlt, hc, hkey, hv⟩
    obtain ⟨hl, hc⟩ := (hplaces l hlt).mpr ⟨hl, hc⟩
    exact ⟨l, hl, hlt, hc, hkey, hv⟩
  · rintro ⟨l, hl, hlt, hc, hkey, hv⟩
    obtain ⟨hl, hc⟩ := (hplaces l hlt).mp ⟨hl, hc⟩
    exact ⟨l, hl, hlt, hc, hkey, hv⟩

/-- The item at the first place leaves. -/
theorem Holds.erase [Std.Irrefl (fun a b : κ => a < b)] {chain : Chain after}
    {came : Nat → Prop} {i : Nat} {r r' : Resequencer κ β} (h : Holds chain came i r)
    (hi : i < chain.length) (hwaiting : r'.waiting = r.waiting.erase (chain.key i)) :
    Holds chain came (i + 1) r' := by
  classical
  intro key v
  rw [hwaiting, OrderedMap.getElem?_erase_eq]
  constructor
  · intro hv
    by_cases hk : chain.key i = key
    · simp [hk] at hv
    · rw [if_neg hk] at hv
      obtain ⟨l, hl, hlt, hc, rfl, hitem⟩ := (h _ _).mp hv
      have hne : l ≠ i := by
        rintro rfl
        exact hk rfl
      exact ⟨l, by omega, hlt, hc, rfl, hitem⟩
  · rintro ⟨l, hl, hlt, hc, rfl, hv⟩
    have hk : chain.key i ≠ chain.key l := by
      intro hkey
      have := chain.key_inj (Nat.le_of_lt hi) (Nat.le_of_lt hlt) hkey
      omega
    rw [if_neg hk]
    exact (h _ _).mpr ⟨l, by omega, hlt, hc, rfl, hv⟩

/-- The item at a later place comes in. -/
theorem Holds.insert [Std.Irrefl (fun a b : κ => a < b)] {chain : Chain after}
    {came : Nat → Prop} {i j : Nat} {r r' : Resequencer κ β} (h : Holds chain came i r)
    (hij : i ≤ j) (hj : j < chain.length)
    (hwaiting : r'.waiting = r.waiting.insert (chain.key j) (chain.item j)) :
    Holds chain (fun l => came l ∨ l = j) i r' := by
  classical
  intro key v
  rw [hwaiting, OrderedMap.getElem?_insert_eq]
  by_cases hk : chain.key j = key
  · subst hk
    rw [if_pos rfl, Option.some.injEq]
    constructor
    · rintro rfl
      exact ⟨j, hij, hj, Or.inr rfl, rfl, rfl⟩
    · rintro ⟨l, hl, hlt, -, hk, rfl⟩
      rw [chain.key_inj (Nat.le_of_lt hlt) (Nat.le_of_lt hj) hk]
  · rw [if_neg hk, h key v]
    constructor
    · rintro ⟨l, hl, hlt, hc, hkl, hv⟩
      exact ⟨l, hl, hlt, Or.inl hc, hkl, hv⟩
    · rintro ⟨l, hl, hlt, hc | rfl, hkl, hv⟩
      · exact ⟨l, hl, hlt, hc, hkl, hv⟩
      · exact absurd hkl hk

theorem drain_serves [Std.Irrefl (fun a b : κ => a < b)] (chain : Chain after) {came : Nat → Prop} (fuel : Nat) :
    ∀ (r : Resequencer κ β) (i : Nat), i ≤ chain.length → r.next = some (chain.key i) →
      Holds chain came i r → r.waiting.size ≤ fuel →
      ∃ i', i ≤ i' ∧ Serves chain came i' (drain after fuel r).2 ∧
        (drain after fuel r).1 = chain.stretch i i' := by
  have hstop : ∀ (r : Resequencer κ β) (i : Nat), i ≤ chain.length →
      r.next = some (chain.key i) → Holds chain came i r → r.waiting[chain.key i]? = none →
      ∃ i', i ≤ i' ∧ Serves chain came i' r ∧ [] = chain.stretch i i' := by
    intro r i hle hnext hholds hnone
    refine ⟨i, Nat.le_refl i, ⟨hle, hnext, ?_, hholds⟩, ?_⟩
    · intro hlt hcame
      have hsome := (hholds (chain.key i) (chain.item i)).mpr
        ⟨i, Nat.le_refl i, hlt, hcame, rfl, rfl⟩
      rw [hnone] at hsome
      cases hsome
    · simp [Chain.stretch]
  induction fuel with
  | zero =>
      intro r i hle hnext hholds hsize
      refine hstop r i hle hnext hholds ?_
      have hempty : r.waiting = ∅ :=
        Std.ExtTreeMap.eq_empty_iff_size_eq_zero.mpr (Nat.le_zero.mp hsize)
      rw [hempty]
      exact Std.ExtTreeMap.getElem?_empty
  | succ fuel ih =>
      intro r i hle hnext hholds hsize
      unfold drain
      rw [hnext]
      dsimp only
      cases hitem : r.waiting[chain.key i]? with
      | none => exact hstop r i hle hnext hholds hitem
      | some item =>
          obtain ⟨j, hij, hj, hcame, hkey, rfl⟩ := (hholds _ _).mp hitem
          obtain rfl := chain.key_inj (Nat.le_of_lt hj) hle hkey
          have hrest : Holds chain came (j + 1)
              { next := some (after (chain.item j)), waiting := r.waiting.erase (chain.key j) } :=
            hholds.erase hj rfl
          have hmem : r.waiting.contains (chain.key j) = true := by
            rw [Std.ExtTreeMap.contains_eq_isSome_getElem?, hitem]
            rfl
          obtain ⟨i', hi', hserves, hout⟩ := ih
            { next := some (after (chain.item j)), waiting := r.waiting.erase (chain.key j) }
            (j + 1) hj (by rw [chain.after_item j hj]) hrest (by
              show (r.waiting.erase (chain.key j)).size ≤ fuel
              rw [Std.ExtTreeMap.size_erase, if_pos hmem]
              omega)
          refine ⟨i', by omega, hserves, ?_⟩
          show chain.item j :: (drain after fuel _).1 = _
          rw [hout]
          exact chain.stretch_cons hi'

/--
**One item more of the chain.**  Whatever goes out is the next stretch of it, and
afterwards the resequencer waits for the item that ends the stretch.
-/
theorem push_serves [DecidableLT κ] [Std.Asymm (fun a b : κ => a < b)] (chain : Chain after)
    {came : Nat → Prop} {i j : Nat}
    {r : Resequencer κ β} (h : Serves chain came i r) (hj : j < chain.length)
    (hfresh : ¬ came j) (first : κ) :
    ∃ i', i ≤ i' ∧
      Serves chain (fun l => came l ∨ l = j) i' (push after r (chain.key j) (chain.item j) first).2 ∧
      (push after r (chain.key j) (chain.item j) first).1 = chain.stretch i i' := by
  unfold push
  rw [h.next, Option.getD_some]
  rcases Nat.lt_trichotomy j i with hlt | heq | hgt
  · -- its place has been passed
    have hkey := chain.mono j i hlt h.le
    rw [if_pos hkey]
    have hholds : Holds chain (fun l => came l ∨ l = j) i { r with next := some (chain.key i) } := by
      refine h.holds.congr rfl fun l _ => ⟨?_, fun ⟨hl, hc⟩ => ⟨hl, Or.inl hc⟩⟩
      rintro ⟨hl, hc | rfl⟩
      · exact ⟨hl, hc⟩
      · omega
    refine ⟨i, Nat.le_refl i, ⟨h.le, rfl, ?_, hholds⟩, by simp [Chain.stretch]⟩
    rintro hi (hc | rfl)
    · exact h.missing hi hc
    · omega
  · -- its turn has come, and perhaps that of waiting ones after it
    subst heq
    rw [if_neg Std.lt_irrefl, if_neg Std.lt_irrefl]
    have hrest : Holds chain (fun l => came l ∨ l = j) (j + 1)
        { r with next := some (after (chain.item j)) } := by
      refine h.holds.congr rfl fun l _ => ⟨?_, ?_⟩
      · rintro ⟨hl, hc | rfl⟩
        · exact ⟨by omega, hc⟩
        · omega
      · rintro ⟨hl, hc⟩
        have hne : l ≠ j := by
          rintro rfl
          exact hfresh hc
        exact ⟨by omega, Or.inl hc⟩
    obtain ⟨i', hi', hserves, hout⟩ := drain_serves chain r.waiting.size
      { r with next := some (after (chain.item j)) } (j + 1) hj
      (by rw [chain.after_item j hj]) hrest (Nat.le_refl _)
    refine ⟨i', by omega, hserves, ?_⟩
    show chain.item j :: (drain after r.waiting.size _).1 = _
    rw [hout]
    exact chain.stretch_cons hi'
  · -- it waits for its turn
    have hkey := chain.mono i j hgt (Nat.le_of_lt hj)
    rw [if_neg (Std.not_gt_of_lt hkey), if_pos hkey]
    refine ⟨i, Nat.le_refl i, ⟨h.le, rfl, ?_, h.holds.insert (Nat.le_of_lt hgt) hj rfl⟩,
      by simp [Chain.stretch]⟩
    rintro hi (hc | rfl)
    · exact h.missing hi hc
    · omega

omit [Ord κ] [Std.TransOrd κ] [Std.LawfulEqOrd κ] in
theorem Chain.stretch_append (chain : Chain after) {i j l : Nat} (hij : i ≤ j) (hjl : j ≤ l) :
    chain.stretch i j ++ chain.stretch j l = chain.stretch i l := by
  unfold Chain.stretch
  rw [← List.map_append]
  congr 1
  have hsum : l - i = (j - i) + (l - j) := by omega
  have hstart : j = i + (j - i) := by omega
  rw [hsum, ← List.range'_append_1]
  congr 1
  rw [← hstart]

/-! ### From the first item on -/

/--
Where a resequencer stands that is fed the items of a chain, each once, and what has
come out: it has seen nothing yet, it is stuck below the chain, or it serves the chain
from one of its places on.
-/
inductive Progress (chain : Chain after) (came starts : Nat → Prop) (sticks : Prop)
    (r : Resequencer κ β) : List β → Prop
  | idle (hnext : r.next = none) (hwaiting : ∀ key : κ, r.waiting[key]? = none)
      (hnone : ∀ i, i < chain.length → ¬ came i) : Progress chain came starts sticks r []
  | stuck (low : κ) (hsticks : sticks) (hnext : r.next = some low)
      (hlow : ∀ i, i < chain.length → low < chain.key i) : Progress chain came starts sticks r []
  | serving (i₀ i : Nat) (hstart : starts i₀) (hle : i₀ ≤ i) (h : Serves chain came i r) :
      Progress chain came starts sticks r (chain.stretch i₀ i)

/-- **One item more**, from wherever the resequencer starts with it. -/
theorem push_progress [DecidableLT κ] [Std.Asymm (fun a b : κ => a < b)] (chain : Chain after)
    {came starts : Nat → Prop} {sticks : Prop} {r : Resequencer κ β} {out : List β} {j : Nat}
    {first : κ} (h : Progress chain came starts sticks r out) (hj : j < chain.length)
    (hfresh : ¬ came j)
    (hfirst : r.next = none → (sticks ∧ ∀ i, i < chain.length → first < chain.key i) ∨
      ∃ i₀, i₀ ≤ j ∧ starts i₀ ∧ first = chain.key i₀) :
    Progress chain (fun l => came l ∨ l = j) starts sticks
      (push after r (chain.key j) (chain.item j) first).2
      (out ++ (push after r (chain.key j) (chain.item j) first).1) := by
  -- an item above the expected key waits
  have hheld : ∀ low : κ, (r.next.getD first) = low → low < chain.key j →
      push after r (chain.key j) (chain.item j) first
        = ([], { next := some low, waiting := r.waiting.insert (chain.key j) (chain.item j) }) := by
    intro low hlow hlt
    unfold push
    rw [hlow, if_neg (Std.not_gt_of_lt hlt), if_pos hlt]
  cases h with
  | idle hnext hwaiting hnone =>
      rcases hfirst hnext with ⟨hsticks, hlow⟩ | ⟨i₀, hi₀, hstart, hkey⟩
      · rw [hheld first (by rw [hnext]; rfl) (hlow j hj)]
        exact .stuck first hsticks rfl hlow
      · -- as if the place it starts at had been expected all along
        have hserves : Serves chain came i₀ { r with next := some first } := by
          refine ⟨by omega, by rw [hkey], fun hlt => hnone i₀ hlt, ?_⟩
          intro key v
          rw [show ({ r with next := some first } : Resequencer κ β).waiting[key]? = none from
            hwaiting key]
          constructor
          · intro hv
            cases hv
          · rintro ⟨l, -, hlt, hcame, -, -⟩
            exact absurd hcame (hnone l hlt)
        have hsame : push after r (chain.key j) (chain.item j) first
            = push after { r with next := some first } (chain.key j) (chain.item j) first := by
          unfold push
          rw [hnext]
          rfl
        obtain ⟨i', hi', hserves', hout⟩ := push_serves chain hserves hj hfresh first
        rw [hsame, List.nil_append, hout]
        exact .serving i₀ i' hstart hi' hserves'
  | stuck low hsticks hnext hlow =>
      rw [hheld low (by rw [hnext]; rfl) (hlow j hj)]
      exact .stuck low hsticks rfl hlow
  | serving i₀ i hstart hle hserves =>
      obtain ⟨i', hi', hserves', hout⟩ := push_serves chain hserves hj hfresh first
      rw [hout, chain.stretch_append hle hi']
      exact .serving i₀ i' hstart (Nat.le_trans hle hi') hserves'

omit [Std.LawfulEqOrd κ] in
theorem Progress.congr {chain : Chain after} {came came' starts : Nat → Prop} {sticks : Prop}
    {r : Resequencer κ β} {out : List β} (h : Progress chain came starts sticks r out)
    (hcame : ∀ i, i < chain.length → (came i ↔ came' i)) :
    Progress chain came' starts sticks r out := by
  cases h with
  | idle hnext hwaiting hnone =>
      exact .idle hnext hwaiting fun i hi hc => hnone i hi ((hcame i hi).mpr hc)
  | stuck low hsticks hnext hlow => exact .stuck low hsticks hnext hlow
  | serving i₀ i hstart hle hserves =>
      have hholds : Holds chain came' i r :=
        hserves.holds.congr rfl fun l hl => and_congr_right fun _ => (hcame l hl).symm
      exact .serving i₀ i hstart hle ⟨hserves.le, hserves.next,
        fun hi hc => hserves.missing hi ((hcame i hi).mpr hc), hholds⟩

omit [Std.LawfulEqOrd κ] in
/-- Whatever has come out is an item of the chain. -/
theorem Progress.mem {chain : Chain after} {came starts : Nat → Prop} {sticks : Prop}
    {r : Resequencer κ β} {out : List β} (h : Progress chain came starts sticks r out)
    {item : β} (hitem : item ∈ out) : ∃ i, i < chain.length ∧ item = chain.item i := by
  cases h with
  | idle _ _ _ => cases hitem
  | stuck _ _ _ _ => cases hitem
  | serving i₀ i _ hle hserves =>
      obtain ⟨l, hl, rfl⟩ := List.mem_map.mp hitem
      have hlt := List.mem_range'_1.mp hl
      have hlength := hserves.le
      exact ⟨l, by omega, rfl⟩

omit [Std.LawfulEqOrd κ] in
/-- Unless it is stuck, nothing waits once every item has come in. -/
theorem Progress.complete {chain : Chain after} {came starts : Nat → Prop}
    {r : Resequencer κ β} {out : List β} (h : Progress chain came starts False r out)
    (hall : ∀ j, j < chain.length → came j) (key : κ) : r.waiting[key]? = none := by
  cases h with
  | idle hnext hwaiting hnone => exact hwaiting key
  | stuck low hsticks => exact hsticks.elim
  | serving i₀ i hstart hle hserves =>
      cases hkey : r.waiting[key]? with
      | none => rfl
      | some item =>
          obtain ⟨j, hij, hj, -⟩ := (hserves.holds key item).mp hkey
          exact absurd (hall i (by omega)) (hserves.missing (by omega))

end

/-! ### Whatever comes in, what goes out ascends -/

section

variable [LT κ] {key after : β → κ}

/-- Every waiting item waits under its own key and is followed by a larger one. -/
def Forward (key after : β → κ) (r : Resequencer κ β) : Prop :=
  ∀ k item, r.waiting[k]? = some item → key item = k ∧ k < after item

/-- The keys `out` that went out ascend, and the expected key is above them. -/
structure Ascends (key after : β → κ) (out : List κ) (r : Resequencer κ β) : Prop where
  forward : Forward key after r
  ascending : out.Pairwise (· < ·)
  below : ∀ k ∈ out, ∃ next, r.next = some next ∧ k < next

omit [Std.LawfulEqOrd κ] in
theorem Ascends.empty {r : Resequencer κ β} (h : ∀ k : κ, r.waiting[k]? = none) :
    Ascends key after [] r where
  forward := by
    intro k item hitem
    rw [h k] at hitem
    cases hitem
  ascending := List.Pairwise.nil
  below := by intro k hk; cases hk

omit [Std.LawfulEqOrd κ] in
/-- The expected item goes out, and what follows it is expected from then on. -/
theorem Ascends.release [Trans (fun a b : κ => a < b) (fun a b : κ => a < b)
    (fun a b : κ => a < b)] {out : List κ} {r : Resequencer κ β} {item : β}
    (h : Ascends key after out r) (r' : Resequencer κ β) (hexpected : ∀ next, r.next = some next → next = key item)
    (hitem : key item < after item) (hnext : r'.next = some (after item))
    (hforward : Forward key after r') : Ascends key after (out ++ [key item]) r' where
  forward := hforward
  ascending := by
    refine List.pairwise_append.mpr ⟨h.ascending, List.pairwise_singleton _ _, ?_⟩
    intro a ha b hb
    obtain ⟨next, hn, hlt⟩ := h.below a ha
    rw [List.mem_singleton.mp hb, ← hexpected next hn]
    exact hlt
  below := by
    intro k hk
    refine ⟨after item, hnext, ?_⟩
    rcases List.mem_append.mp hk with hk | hk
    · obtain ⟨next, hn, hlt⟩ := h.below k hk
      rw [hexpected next hn] at hlt
      exact Std.lt_trans hlt hitem
    · rw [List.mem_singleton.mp hk]
      exact hitem

theorem Forward.erase {r : Resequencer κ β} (h : Forward key after r) (k : κ) (next : Option κ) :
    Forward key after { next, waiting := r.waiting.erase k } := by
  classical
  intro k' item hitem
  dsimp only at hitem
  rw [OrderedMap.getElem?_erase_eq] at hitem
  split at hitem
  · cases hitem
  · exact h k' item hitem

theorem Forward.insert {r : Resequencer κ β} {item : β} (h : Forward key after r)
    (hitem : key item < after item) (next : Option κ) :
    Forward key after { next, waiting := r.waiting.insert (key item) item } := by
  classical
  intro k waiting hwaiting
  dsimp only at hwaiting
  rw [OrderedMap.getElem?_insert_eq] at hwaiting
  by_cases hk : key item = k
  · rw [if_pos hk, Option.some.injEq] at hwaiting
    rw [← hwaiting, ← hk]
    exact ⟨rfl, hitem⟩
  · rw [if_neg hk] at hwaiting
    exact h k waiting hwaiting

theorem Ascends.drain [Trans (fun a b : κ => a < b) (fun a b : κ => a < b)
    (fun a b : κ => a < b)] (fuel : Nat) : ∀ {out : List κ} {r : Resequencer κ β},
    Ascends key after out r →
      Ascends key after (out ++ (drain after fuel r).1.map key) (drain after fuel r).2 := by
  induction fuel with
  | zero => intro out r h; simpa [Resequencer.drain] using h
  | succ fuel ih =>
      intro out r h
      unfold Resequencer.drain
      cases hnext : r.next with
      | none => simpa using h
      | some next =>
          dsimp only
          cases hitem : r.waiting[next]? with
          | none => simpa using h
          | some item =>
              obtain ⟨hkey, hlt⟩ := h.forward next item hitem
              have hstep := h.release
                { next := some (after item), waiting := r.waiting.erase next }
                (fun n hn => by rw [hnext, Option.some.injEq] at hn; rw [← hn, hkey])
                (by rw [hkey]; exact hlt) rfl (h.forward.erase next _)
              have hrest := ih hstep
              rw [List.append_assoc, List.singleton_append] at hrest
              exact hrest

/-- **An item that is followed by a larger key keeps what goes out ascending**, whatever its key
is and wherever the resequencer starts. -/
theorem Ascends.push [DecidableLT κ] [Std.Trichotomous (fun a b : κ => a < b)]
    [Trans (fun a b : κ => a < b) (fun a b : κ => a < b) (fun a b : κ => a < b)]
    {out : List κ} {r : Resequencer κ β} {item : β} (h : Ascends key after out r)
    (hitem : key item < after item) (first : κ) :
    Ascends key after (out ++ (push after r (key item) item first).1.map key)
      (push after r (key item) item first).2 := by
  have hbelow : ∀ k ∈ out, ∃ next, some (r.next.getD first) = some next ∧ k < next := by
    intro k hk
    obtain ⟨next, hn, hlt⟩ := h.below k hk
    exact ⟨next, by rw [hn, Option.getD_some], hlt⟩
  unfold Resequencer.push
  dsimp only
  by_cases hlow : key item < r.next.getD first
  · rw [if_pos hlow, List.map_nil, List.append_nil]
    exact ⟨h.forward, h.ascending, hbelow⟩
  rw [if_neg hlow]
  by_cases hhigh : r.next.getD first < key item
  · rw [if_pos hhigh, List.map_nil, List.append_nil]
    exact ⟨h.forward.insert hitem _, h.ascending, hbelow⟩
  · rw [if_neg hhigh]
    have heq : r.next.getD first = key item := by
      rcases Std.Trichotomous.rel_or_eq_or_rel_swap (r := fun a b : κ => a < b)
        (a := r.next.getD first) (b := key item) with hlt | heq | hlt
      · exact absurd hlt hhigh
      · exact heq
      · exact absurd hlt hlow
    have hstep := h.release { r with next := some (after item) }
      (fun n hn => by rw [hn, Option.getD_some] at heq; exact heq) hitem rfl h.forward
    have hrest := hstep.drain r.waiting.size
    rw [List.append_assoc, List.singleton_append] at hrest
    exact hrest

end

end Resequencer
