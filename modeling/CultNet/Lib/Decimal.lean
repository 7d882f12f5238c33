/-
Integers written in decimal, and a reader for those of a bounded type.

The reader takes an optional sign and then digits, and checks the bounds after
every digit.  Away from zero the digits read so far only grow in size, so when the
whole number is within the bounds every prefix of it is, and the reader gets to
the end of what the writer wrote.
-/
import CultNet.Lib.Fallible
import Mathlib.Data.Int.Basic

namespace Decimal

/-- Why a text is not an integer. -/
inductive Failure where
  | empty
  | invalidDigit
  | posOverflow
  | negOverflow
  deriving DecidableEq, Repr

/-- An integer in decimal, with a sign if it is negative. -/
def display (n : Int) : List Char :=
  if n < 0 then '-' :: Nat.toDigits 10 n.natAbs else Nat.toDigits 10 n.natAbs

/-- One digit more.  The digits of a negative number are subtracted. -/
def push (least greatest sign soFar : Int) (c : Char) : Except Failure Int :=
  if c.isDigit then
    let next := soFar * 10 + sign * (c.toNat - '0'.toNat : Nat)
    if next < least then .error .negOverflow
    else if greatest < next then .error .posOverflow
    else .ok next
  else .error .invalidDigit

/-- The integer between the bounds that a text stands for. -/
def parse (least greatest : Int) : List Char → Except Failure Int
  | [] => .error .empty
  | ['+'] | ['-'] => .error .invalidDigit
  | '+' :: digits => digits.foldlM (push least greatest 1) 0
  | '-' :: digits => digits.foldlM (push least greatest (-1)) 0
  | digits => digits.foldlM (push least greatest 1) 0

variable {least greatest sign : Int}

theorem le_ofDigitChars (digits : List Char) (k : Nat) : k ≤ Nat.ofDigitChars 10 digits k := by
  induction digits generalizing k with
  | nil => simp
  | cons c rest ih =>
      rw [Nat.ofDigitChars_cons]
      have := ih (10 * k + (c.toNat - '0'.toNat))
      omega

/-- Reading digits gives their value when the value is within the bounds. -/
theorem foldlM_push (hleast : least ≤ 0) (hgreatest : 0 ≤ greatest) (hsign : sign = 1 ∨ sign = -1)
    (digits : List Char) (hdigits : ∀ c ∈ digits, c.isDigit) (k : Nat)
    (hge : least ≤ sign * Nat.ofDigitChars 10 digits k)
    (hle : sign * Nat.ofDigitChars 10 digits k ≤ greatest) :
    digits.foldlM (push least greatest sign) (sign * k)
      = .ok (sign * Nat.ofDigitChars 10 digits k) := by
  induction digits generalizing k with
  | nil => simp [pure, Except.pure]
  | cons c rest ih =>
      rw [Nat.ofDigitChars_cons] at hge hle ⊢
      have hnext : sign * (k : Int) * 10 + sign * (c.toNat - '0'.toNat : Nat)
          = sign * ((10 * k + (c.toNat - '0'.toNat) : Nat) : Int) := by
        rcases hsign with rfl | rfl <;> omega
      -- what is read so far lies between zero and the whole number
      have hgrow := le_ofDigitChars rest (10 * k + (c.toNat - '0'.toNat))
      have hpush : push least greatest sign (sign * k) c
          = .ok (sign * ((10 * k + (c.toNat - '0'.toNat) : Nat) : Int)) := by
        rw [push, if_pos (hdigits c List.mem_cons_self)]
        simp only [hnext]
        rw [if_neg (by rcases hsign with rfl | rfl <;> omega),
          if_neg (by rcases hsign with rfl | rfl <;> omega)]
      rw [List.foldlM_cons, hpush, Fallible.ok_bind]
      exact ih (fun c hc => hdigits c (List.mem_cons_of_mem _ hc)) _ hge hle

/-- A character that is no digit stops the reader, if no digit before it has. -/
theorem foldlM_push_invalid {digits : List Char} {c : Char} (hc : c ∈ digits)
    (hinvalid : c.isDigit = false) (n m : Int) :
    digits.foldlM (push least greatest sign) n ≠ .ok m := by
  induction digits generalizing n with
  | nil => cases hc
  | cons d rest ih =>
      rw [List.foldlM_cons, Ne, Fallible.bind_eq_ok]
      rintro ⟨next, hnext, hrest⟩
      rcases List.mem_cons.mp hc with rfl | hc
      · simp [push, hinvalid] at hnext
      · exact ih hc next hrest

theorem isDigit_of_mem_toDigits {n : Nat} {c : Char} (hc : c ∈ Nat.toDigits 10 n) : c.isDigit :=
  Nat.isDigit_of_mem_toDigits (by decide) (by decide) hc

/-- A text whose first character is a digit is read as digits. -/
theorem parse_digits {c : Char} {rest : List Char} (hc : c.isDigit) :
    parse least greatest (c :: rest) = (c :: rest).foldlM (push least greatest 1) 0 := by
  unfold parse
  split <;> first | rfl | simp_all

/-- What was written is read back, when it is within the bounds. -/
theorem parse_display {n : Int} (hleast : least ≤ 0) (hgreatest : 0 ≤ greatest) (hge : least ≤ n)
    (hle : n ≤ greatest) : parse least greatest (display n) = .ok n := by
  have hvalue : Nat.ofDigitChars 10 (Nat.toDigits 10 n.natAbs) 0 = n.natAbs :=
    Nat.ofDigitChars_ten_toDigits
  obtain ⟨c, rest, hdigits⟩ := List.exists_cons_of_ne_nil (Nat.toDigits_ne_nil (n := n.natAbs)
    (b := 10))
  have hmem : ∀ d ∈ Nat.toDigits 10 n.natAbs, d.isDigit := fun d hd => isDigit_of_mem_toDigits hd
  unfold display
  by_cases hn : n < 0
  · have hread : (Nat.toDigits 10 n.natAbs).foldlM (push least greatest (-1)) ((-1) * (0 : Nat))
        = .ok ((-1) * Nat.ofDigitChars 10 (Nat.toDigits 10 n.natAbs) 0) :=
      foldlM_push hleast hgreatest (.inr rfl) _ hmem 0 (by omega) (by omega)
    rw [if_pos hn]
    rw [hvalue, show (-1) * (n.natAbs : Int) = n by omega] at hread
    rw [hdigits] at hread ⊢
    exact hread
  · have hread : (Nat.toDigits 10 n.natAbs).foldlM (push least greatest 1) (1 * (0 : Nat))
        = .ok (1 * Nat.ofDigitChars 10 (Nat.toDigits 10 n.natAbs) 0) :=
      foldlM_push hleast hgreatest (.inl rfl) _ hmem 0 (by omega) (by omega)
    rw [if_neg hn]
    rw [hvalue, show 1 * (n.natAbs : Int) = n by omega] at hread
    rw [hdigits] at hread hmem ⊢
    rw [parse_digits (hmem c List.mem_cons_self)]
    exact hread

/-- Integers are told apart by how they are written. -/
theorem display_injective : Function.Injective display := by
  intro m n h
  have hm : parse (min 0 (min m n)) (max 0 (max m n)) (display m) = .ok m :=
    parse_display (by omega) (by omega) (by omega) (by omega)
  have hn : parse (min 0 (min m n)) (max 0 (max m n)) (display n) = .ok n :=
    parse_display (by omega) (by omega) (by omega) (by omega)
  rw [h, hn] at hm
  cases hm
  rfl

theorem mem_display {n : Int} {c : Char} (hc : c ∈ display n) : c = '-' ∨ c.isDigit := by
  unfold display at hc
  split at hc
  · exact (List.mem_cons.mp hc).imp_right isDigit_of_mem_toDigits
  · exact .inr (isDigit_of_mem_toDigits hc)

theorem display_ne_nil (n : Int) : display n ≠ [] := by
  unfold display
  split
  · exact List.cons_ne_nil _ _
  · exact Nat.toDigits_ne_nil

/-- A text with a character that is neither a digit nor its sign is not an integer. -/
theorem parse_invalid {text : List Char} {c : Char} (hc : c ∈ text) (hdigit : c.isDigit = false)
    (hplus : c ≠ '+') (hminus : c ≠ '-') (n : Int) : parse least greatest text ≠ .ok n := by
  unfold parse
  split
  · cases hc
  · simp
  · simp
  · exact foldlM_push_invalid ((List.mem_cons.mp hc).resolve_left hplus) hdigit 0 n
  · exact foldlM_push_invalid ((List.mem_cons.mp hc).resolve_left hminus) hdigit 0 n
  · exact foldlM_push_invalid hc hdigit 0 n

end Decimal
