/-
Base64 with the URL-safe alphabet and without padding.

Three bytes are four digits of six bits.  One or two bytes left over take two or
three digits, and the bits of the last digit that no byte fills are zero.  The
decoder insists on these zeros, so that every text it accepts is the encoding of
what it decodes to.
-/
import CultNet.Lib.Fallible
import Mathlib.Data.List.FinRange
import Mathlib.Data.List.GetD
import Mathlib.Data.String.Basic

namespace Base64

/-- The characters of the digits, in order. -/
def alphabet : List Char :=
  ['A', 'B', 'C', 'D', 'E', 'F', 'G', 'H', 'I', 'J', 'K', 'L', 'M', 'N', 'O', 'P', 'Q', 'R',
    'S', 'T', 'U', 'V', 'W', 'X', 'Y', 'Z', 'a', 'b', 'c', 'd', 'e', 'f', 'g', 'h', 'i', 'j',
    'k', 'l', 'm', 'n', 'o', 'p', 'q', 'r', 's', 't', 'u', 'v', 'w', 'x', 'y', 'z', '0', '1',
    '2', '3', '4', '5', '6', '7', '8', '9', '-', '_']

/-- The character of a digit. -/
def symbol (d : Fin 64) : Char := alphabet.getD d.val 'A'

/-- The digit of a character. -/
def digit (c : Char) : Option (Fin 64) := (List.finRange 64).find? fun d => symbol d = c

theorem digit_symbol (d : Fin 64) : digit (symbol d) = some d := by
  revert d
  decide +kernel

theorem symbol_of_digit {c : Char} {d : Fin 64} (h : digit c = some d) : symbol d = c := by
  unfold digit at h
  have hd := List.find?_some h
  simpa using hd

theorem symbol_mem_alphabet (d : Fin 64) : symbol d ∈ alphabet := by
  have hlength : d.val < alphabet.length := d.isLt
  rw [symbol, List.getD_eq_getElem alphabet 'A' hlength]
  exact List.getElem_mem hlength

/-! ### Bytes and digits -/

/-- The digits of a byte string. -/
def digits : List UInt8 → List (Fin 64)
  | a :: b :: c :: rest =>
    Fin.ofNat 64 (a.toNat / 4) :: Fin.ofNat 64 (a.toNat % 4 * 16 + b.toNat / 16) ::
      Fin.ofNat 64 (b.toNat % 16 * 4 + c.toNat / 64) :: Fin.ofNat 64 (c.toNat % 64) ::
      digits rest
  | [a, b] =>
    [Fin.ofNat 64 (a.toNat / 4), Fin.ofNat 64 (a.toNat % 4 * 16 + b.toNat / 16),
      Fin.ofNat 64 (b.toNat % 16 * 4)]
  | [a] => [Fin.ofNat 64 (a.toNat / 4), Fin.ofNat 64 (a.toNat % 4 * 16)]
  | [] => []

/-- The byte string of these digits, if they are the digits of one. -/
def bytes : List (Fin 64) → Option (List UInt8)
  | s :: t :: u :: v :: rest =>
    (bytes rest).map fun tail =>
      UInt8.ofNat (s.val * 4 + t.val / 16) :: UInt8.ofNat (t.val % 16 * 16 + u.val / 4) ::
        UInt8.ofNat (u.val % 4 * 64 + v.val) :: tail
  | [s, t, u] =>
    if u.val % 4 = 0 then
      some [UInt8.ofNat (s.val * 4 + t.val / 16), UInt8.ofNat (t.val % 16 * 16 + u.val / 4)]
    else none
  | [s, t] => if t.val % 16 = 0 then some [UInt8.ofNat (s.val * 4 + t.val / 16)] else none
  | [_] => none
  | [] => some []

theorem ofNat_eq_of_toNat {n : Nat} {a : UInt8} (h : n = a.toNat) : UInt8.ofNat n = a := by
  rw [h, UInt8.ofNat_toNat]

theorem bytes_digits (l : List UInt8) : bytes (digits l) = some l := by
  induction l using digits.induct with
  | case1 a b c rest ih =>
      have := a.toNat_lt
      have := b.toNat_lt
      have := c.toNat_lt
      simp only [digits, bytes, ih, Option.map_some, Fin.val_ofNat]
      rw [ofNat_eq_of_toNat (a := a) (by omega), ofNat_eq_of_toNat (a := b) (by omega),
        ofNat_eq_of_toNat (a := c) (by omega)]
  | case2 a b =>
      have := a.toNat_lt
      have := b.toNat_lt
      simp only [digits, bytes, Fin.val_ofNat]
      rw [if_pos (by omega), ofNat_eq_of_toNat (a := a) (by omega),
        ofNat_eq_of_toNat (a := b) (by omega)]
  | case3 a =>
      have := a.toNat_lt
      simp only [digits, bytes, Fin.val_ofNat]
      rw [if_pos (by omega), ofNat_eq_of_toNat (a := a) (by omega)]
  | case4 => rfl

theorem digits_of_bytes {s : List (Fin 64)} {l : List UInt8} (h : bytes s = some l) :
    digits l = s := by
  induction s using bytes.induct generalizing l with
  | case1 s t u v rest ih =>
      simp only [bytes, Option.map_eq_some_iff] at h
      obtain ⟨tail, htail, rfl⟩ := h
      simp only [digits, ih htail, UInt8.toNat_ofNat', List.cons.injEq, Fin.ext_iff,
        Fin.val_ofNat, and_true]
      omega
  | case2 s t u hu =>
      simp only [bytes, if_pos hu, Option.some.injEq] at h
      subst h
      simp only [digits, UInt8.toNat_ofNat', List.cons.injEq, Fin.ext_iff, Fin.val_ofNat,
        and_true]
      omega
  | case3 s t u hu => simp [bytes, hu] at h
  | case4 s t ht =>
      simp only [bytes, if_pos ht, Option.some.injEq] at h
      subst h
      simp only [digits, UInt8.toNat_ofNat', List.cons.injEq, Fin.ext_iff, Fin.val_ofNat,
        and_true]
      omega
  | case5 s t ht => simp [bytes, ht] at h
  | case6 s => cases h
  | case7 =>
      cases h
      rfl

/-! ### Texts -/

def encode (l : List UInt8) : String := String.ofList ((digits l).map symbol)

def decode (text : String) : Option (List UInt8) := (text.toList.mapM digit).bind bytes

theorem mapM_digit_map_symbol (s : List (Fin 64)) : (s.map symbol).mapM digit = some s :=
  Fallible.mapM_map_of_leftInverse digit_symbol s

theorem map_symbol_of_mapM_digit {cs : List Char} {s : List (Fin 64)}
    (h : cs.mapM digit = some s) : s.map symbol = cs := by
  induction cs generalizing s with
  | nil => cases h; rfl
  | cons c rest ih =>
      simp only [List.mapM_cons, Option.bind_eq_bind, Option.bind_eq_some_iff,
        Option.pure_def, Option.some.injEq] at h
      obtain ⟨d, hd, s', hs', rfl⟩ := h
      rw [List.map_cons, symbol_of_digit hd, ih hs']

/-- Decoding inverts encoding. -/
theorem decode_encode (l : List UInt8) : decode (encode l) = some l := by
  unfold decode encode
  rw [String.toList_ofList, mapM_digit_map_symbol, Option.bind_some, bytes_digits]

/-- Only the encoding of a byte string decodes to it. -/
theorem encode_of_decode {text : String} {l : List UInt8} (h : decode text = some l) :
    encode l = text := by
  obtain ⟨s, hs, hl⟩ := Option.bind_eq_some_iff.mp h
  unfold encode
  rw [digits_of_bytes hl, map_symbol_of_mapM_digit hs, String.ofList_toList]

theorem mem_alphabet_of_mem_encode {l : List UInt8} {c : Char} (h : c ∈ (encode l).toList) :
    c ∈ alphabet := by
  unfold encode at h
  rw [String.toList_ofList] at h
  obtain ⟨d, -, rfl⟩ := List.mem_map.mp h
  exact symbol_mem_alphabet d

end Base64
