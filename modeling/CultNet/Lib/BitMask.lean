/-
Sets of small numbers packed into the bits of a word.

A fold over bit positions that sets the bits passing a test builds such a mask;
testing one bit of the result asks that test again.
-/
import Mathlib.Data.UInt
import Mathlib.Data.Nat.Bitwise

namespace BitMask

/-- Bit `bit` of `mask` is set, as code tests it. -/
def IsSet (mask : UInt32) (bit : Nat) : Prop := mask &&& (1 <<< UInt32.ofNat bit) ≠ 0

theorem toNat_shift {bit : Nat} (h : bit < 32) :
    ((1 : UInt32) <<< UInt32.ofNat bit).toNat = 2 ^ bit := by
  have hpow : 2 ^ bit < 2 ^ 32 := Nat.pow_lt_pow_right (by omega) h
  rw [UInt32.toNat_shiftLeft, UInt32.toNat_ofNat', Nat.mod_eq_of_lt (by omega : bit < 2 ^ 32),
    Nat.mod_eq_of_lt h, Nat.shiftLeft_eq, UInt32.toNat_one, Nat.one_mul]
  exact Nat.mod_eq_of_lt hpow

theorem isSet_iff {mask : UInt32} {bit : Nat} (h : bit < 32) :
    IsSet mask bit ↔ mask.toNat.testBit bit = true := by
  unfold IsSet
  rw [ne_eq, ← UInt32.toNat_inj, UInt32.toNat_and, toNat_shift h, Nat.and_two_pow]
  cases mask.toNat.testBit bit <;> simp

/-- Setting the bits of a list that pass a test. -/
def collect (p : Nat → Prop) [DecidablePred p] (bits : List Nat) (mask : UInt32) : UInt32 :=
  bits.foldl (fun mask bit => if p bit then mask ||| (1 <<< UInt32.ofNat bit) else mask) mask

theorem isSet_collect (p : Nat → Prop) [DecidablePred p] {bit : Nat} (hbit : bit < 32) :
    ∀ (bits : List Nat) (mask : UInt32), (∀ b ∈ bits, b < 32) →
      (IsSet (collect p bits mask) bit ↔ IsSet mask bit ∨ bit ∈ bits ∧ p bit) := by
  intro bits
  induction bits with
  | nil => intro mask _; simp [collect]
  | cons b rest ih =>
      intro mask hbits
      have hb : b < 32 := hbits b (by simp)
      have hrest := ih (if p b then mask ||| (1 <<< UInt32.ofNat b) else mask)
        (fun c hc => hbits c (by simp [hc]))
      have hone : IsSet (if p b then mask ||| (1 <<< UInt32.ofNat b) else mask) bit ↔
          IsSet mask bit ∨ bit = b ∧ p b := by
        by_cases hp : p b
        · rw [if_pos hp, isSet_iff hbit, isSet_iff hbit, UInt32.toNat_or, toNat_shift hb,
            Nat.testBit_or, Nat.testBit_two_pow, Bool.or_eq_true, decide_eq_true_iff]
          exact or_congr_right ⟨fun h => ⟨h.symm, hp⟩, fun h => h.1.symm⟩
        · simp [hp]
      show IsSet (collect p rest _) bit ↔ _
      rw [hrest, hone, List.mem_cons]
      constructor
      · rintro ((hm | ⟨rfl, hp⟩) | ⟨hr, hp⟩)
        · exact Or.inl hm
        · exact Or.inr ⟨Or.inl rfl, hp⟩
        · exact Or.inr ⟨Or.inr hr, hp⟩
      · rintro (hm | ⟨rfl | hr, hp⟩)
        · exact Or.inl (Or.inl hm)
        · exact Or.inl (Or.inr ⟨rfl, hp⟩)
        · exact Or.inr ⟨hr, hp⟩

/-- A mask collected from nothing holds exactly the positions that pass the test. -/
theorem isSet_collect_range (p : Nat → Prop) [DecidablePred p] {bit : Nat} (hbit : bit < 32) :
    IsSet (collect p (List.range 32) 0) bit ↔ p bit := by
  rw [isSet_collect p hbit _ _ (fun b hb => List.mem_range.mp hb)]
  simp [IsSet, hbit]

end BitMask
