/-
Fixed-width numbers as byte strings, most significant byte first.

`bytes w n` is the `w`-byte string of `n` and `value` reads one back.  A number
that does not fit is cut down to its low `w` bytes, which is what a narrowing
conversion does, so the round trip carries the bound `n < 256 ^ w`.  The other way
round needs no bound: every byte string is the one of its number.
-/
import Mathlib.Data.List.Basic
import Mathlib.Tactic.Ring

namespace BigEndian

/-- The number a byte string denotes, read most significant byte first. -/
def value (bs : List UInt8) : Nat := bs.foldl (fun acc b => acc * 256 + b.toNat) 0

/-- The low `w` bytes of `n`, most significant byte first. -/
def bytes : Nat → Nat → List UInt8
  | 0, _ => []
  | w + 1, n => UInt8.ofNat (n / 256 ^ w) :: bytes w n

@[simp] theorem length_bytes (w n : Nat) : (bytes w n).length = w := by
  induction w with
  | zero => rfl
  | succ w ih => simp [bytes, ih]

private theorem foldl_eq (bs : List UInt8) :
    ∀ acc : Nat, bs.foldl (fun acc b => acc * 256 + b.toNat) acc
      = acc * 256 ^ bs.length + value bs := by
  induction bs with
  | nil => intro acc; simp [value]
  | cons b rest ih =>
      intro acc
      simp only [value, List.foldl_cons, List.length_cons]
      rw [ih (acc * 256 + b.toNat), ih (0 * 256 + b.toNat)]
      ring

theorem value_cons (b : UInt8) (rest : List UInt8) :
    value (b :: rest) = b.toNat * 256 ^ rest.length + value rest := by
  simp only [value, List.foldl_cons]
  rw [foldl_eq]
  simp [value]

/-- Only the low `w` bytes survive. -/
theorem value_bytes_mod (w n : Nat) : value (bytes w n) = n % 256 ^ w := by
  induction w with
  | zero => simp [bytes, value, Nat.mod_one]
  | succ w ih =>
      rw [bytes, value_cons, ih, length_bytes]
      have hbyte : (UInt8.ofNat (n / 256 ^ w)).toNat = n / 256 ^ w % 256 := by simp
      rw [hbyte, pow_succ, Nat.mod_mul, Nat.mul_comm, Nat.add_comm]

/-- A number that fits is read back unchanged. -/
theorem value_bytes {w n : Nat} (h : n < 256 ^ w) : value (bytes w n) = n := by
  rw [value_bytes_mod, Nat.mod_eq_of_lt h]

/-- Multiples of `256 ^ w` leave the low `w` bytes alone. -/
theorem bytes_mul_add (w a n : Nat) : bytes w (256 ^ w * a + n) = bytes w n := by
  induction w generalizing a with
  | zero => rfl
  | succ w ih =>
      have hpos : 0 < 256 ^ w := Nat.pow_pos (by decide)
      have hsplit : 256 ^ (w + 1) * a + n = 256 ^ w * (256 * a) + n := by ring
      rw [hsplit, bytes, bytes, ih (256 * a), Nat.mul_add_div hpos]
      congr 1
      refine UInt8.toNat_inj.mp ?_
      simp

theorem value_lt (bs : List UInt8) : value bs < 256 ^ bs.length := by
  induction bs with
  | nil => simp [value]
  | cons b rest ih =>
      have hb : b.toNat + 1 ≤ 256 := b.toNat_lt
      rw [value_cons, List.length_cons]
      calc b.toNat * 256 ^ rest.length + value rest
          < b.toNat * 256 ^ rest.length + 256 ^ rest.length := Nat.add_lt_add_left ih _
        _ = (b.toNat + 1) * 256 ^ rest.length := by ring
        _ ≤ 256 * 256 ^ rest.length := Nat.mul_le_mul_right _ hb
        _ = 256 ^ (rest.length + 1) := by ring

/-- A byte string is the one of the number it denotes. -/
theorem bytes_value (bs : List UInt8) : bytes bs.length (value bs) = bs := by
  induction bs with
  | nil => rfl
  | cons b rest ih =>
      have hlt := value_lt rest
      have hpos : 0 < 256 ^ rest.length := Nat.pow_pos (by decide)
      -- the first digit is `b`, and what is below it does not see `b`
      have hdiv : (b.toNat * 256 ^ rest.length + value rest) / 256 ^ rest.length = b.toNat := by
        rw [Nat.mul_comm, Nat.mul_add_div hpos, Nat.div_eq_of_lt hlt, Nat.add_zero]
      have hlow : bytes rest.length (b.toNat * 256 ^ rest.length + value rest)
          = bytes rest.length (value rest) := by
        rw [Nat.mul_comm]
        exact bytes_mul_add rest.length b.toNat (value rest)
      rw [value_cons, List.length_cons, bytes, hdiv, hlow, ih, UInt8.ofNat_toNat]

end BigEndian
