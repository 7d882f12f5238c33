/-
MessagePack values.

A string is kept as it came: the text it is the UTF-8 of, or the bytes when they
are no UTF-8.  Integers range over what the format can carry, and floating point
numbers are kept as their bits.

The questions at the end are partial views of a value.  A string answers to the
question for bytes as well, with the bytes of its text.
-/
import Mathlib.Data.UInt

namespace MessagePack

/-- An integer of the format, from the least `i64` to the greatest `u64`. -/
@[ext]
structure Integer where
  val : Int
  lower : -0x8000000000000000 ≤ val
  upper : val ≤ 0xFFFFFFFFFFFFFFFF
  deriving DecidableEq

namespace Integer

theorem toNat_bounds (n : UInt64) :
    -0x8000000000000000 ≤ (n.toNat : Int) ∧ (n.toNat : Int) ≤ 0xFFFFFFFFFFFFFFFF := by
  have := n.toNat_lt
  omega

theorem toInt_bounds (n : Int64) :
    -0x8000000000000000 ≤ n.toInt ∧ n.toInt ≤ 0xFFFFFFFFFFFFFFFF := by
  have := n.le_toInt
  have := n.toInt_lt
  omega

def ofUInt64 (n : UInt64) : Integer := ⟨n.toNat, (toNat_bounds n).1, (toNat_bounds n).2⟩

def ofInt64 (n : Int64) : Integer := ⟨n.toInt, (toInt_bounds n).1, (toInt_bounds n).2⟩

@[simp] theorem val_ofUInt64 (n : UInt64) : (ofUInt64 n).val = n.toNat := rfl
@[simp] theorem val_ofInt64 (n : Int64) : (ofInt64 n).val = n.toInt := rfl

end Integer

/-- A string as it came. -/
inductive Utf8String where
  | valid (text : String)
  | invalid (bytes : ByteArray) (h : ¬bytes.IsValidUTF8)

def Utf8String.bytes : Utf8String → List UInt8
  | valid text => text.toUTF8.data.toList
  | invalid bytes _ => bytes.data.toList

inductive Value where
  | nil
  | boolean (value : Bool)
  | integer (value : Integer)
  | f32 (bits : UInt32)
  | f64 (bits : UInt64)
  | string (value : Utf8String)
  | binary (bytes : List UInt8)
  | array (items : List Value)
  | map (entries : List (Value × Value))
  | ext (type : Int8) (bytes : List UInt8)

namespace Value

/-- The string of a text. -/
def text (value : String) : Value := .string (.valid value)

/-- The integer of a small natural number. -/
def small (n : UInt32) : Value := .integer (.ofUInt64 n.toUInt64)

/-! ### Questions -/

def isNil : Value → Bool
  | .nil => true
  | _ => false

def asBool : Value → Option Bool
  | .boolean value => some value
  | _ => none

/-- An integer that fits an `i64`. -/
def asI64 : Value → Option Int
  | .integer n => if n.val ≤ 0x7FFFFFFFFFFFFFFF then some n.val else none
  | _ => none

def asStr : Value → Option String
  | .string (.valid text) => some text
  | _ => none

def asSlice : Value → Option (List UInt8)
  | .binary bytes => some bytes
  | .string s => some s.bytes
  | _ => none

def asArray : Value → Option (List Value)
  | .array items => some items
  | _ => none

def asMap : Value → Option (List (Value × Value))
  | .map entries => some entries
  | _ => none

@[simp] theorem asStr_text (s : String) : (text s).asStr = some s := rfl
@[simp] theorem asArray_array (items : List Value) : (array items).asArray = some items := rfl
@[simp] theorem asMap_map (entries : List (Value × Value)) : (map entries).asMap = some entries :=
  rfl

@[simp] theorem asI64_small (n : UInt32) : (small n).asI64 = some (n.toNat : Int) := by
  have := n.toNat_lt
  simp only [small, asI64, Integer.val_ofUInt64, UInt32.toNat_toUInt64]
  rw [if_pos (by omega)]

theorem isNil_eq_true {v : Value} : v.isNil = true ↔ v = .nil := by
  cases v <;> simp [isNil]

theorem asStr_eq_some {v : Value} {s : String} : v.asStr = some s ↔ v = text s := by
  unfold text
  constructor
  · intro h
    unfold asStr at h
    split at h
    · cases h
      rfl
    · cases h
  · rintro rfl
    rfl

end Value

end MessagePack
