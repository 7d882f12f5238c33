/-
JSON Schema, as far as arrays and scalars go.

A schema is a list of keywords, each of which restricts the instances it applies
to and lets every other instance pass.  `prefixItems` and `items` stand in one
keyword, because the second only speaks about what the first leaves over.
Numbers are compared by the rational they denote, lengths of strings are counted
in characters.
-/
import CultNet.Lib.Json
import Mathlib.Algebra.Order.Ring.Rat

/-- The rational a finite binary64 number denotes. -/
def FiniteDouble.value (d : FiniteDouble) : ℚ :=
  let exponent := (d.bits >>> 52 &&& 0x7FF).toNat
  let fraction := (d.bits &&& 0xFFFFFFFFFFFFF).toNat
  -- a subnormal number has the exponent of the smallest normal ones and no leading bit
  let mantissa : Int := if exponent = 0 then fraction else fraction + 2 ^ 52
  let signed := if d.bits >>> 63 = 0 then mantissa else -mantissa
  if 1075 ≤ exponent then (signed * 2 ^ (exponent - 1075) : Int)
  else mkRat signed (2 ^ (1075 - max exponent 1))

/-- The rational a number denotes. -/
def JsonNumber.value : JsonNumber → ℚ
  | posInt n => (n.toNat : ℚ)
  | negInt i _ => (i.toInt : ℚ)
  | float d => d.value

namespace JsonSchema

/-- The names of the keyword `type`. -/
inductive JsonType where
  | null
  | boolean
  | integer
  | number
  | string
  | array
  | object
  deriving DecidableEq

def JsonType.admits : JsonType → Json → Bool
  | null, .null => true
  | boolean, .bool _ => true
  | integer, .number n => n.value.den = 1
  | number, .number _ => true
  | string, .string _ => true
  | array, .array _ => true
  | object, .object _ => true
  | _, _ => false

/-- A scalar that a schema names. -/
inductive Literal where
  | bool (value : Bool)
  | string (value : String)
  deriving DecidableEq

def Literal.is : Literal → Json → Bool
  | bool b, .bool value => b == value
  | string s, .string value => s == value
  | _, _ => false

/-- A keyword of a schema. -/
inductive Keyword where
  | type (types : List JsonType)
  | const (value : Literal)
  | enum (values : List Literal)
  | minLength (n : Nat)
  | maxLength (n : Nat)
  | minimum (n : Nat)
  | maximum (n : Nat)
  | minItems (n : Nat)
  | maxItems (n : Nat)
  /-- `prefixItems` with the schemas of the first places, and `items` for the others. -/
  | items (first : List (List Keyword)) (others : List Keyword)

mutual

/-- The instance meets one keyword. -/
def Keyword.holds : Keyword → Json → Bool
  | .type types, j => types.any fun t => t.admits j
  | .const value, j => value.is j
  | .enum values, j => values.any fun v => v.is j
  | .minLength n, .string s => n ≤ s.length
  | .maxLength n, .string s => s.length ≤ n
  | .minimum n, .number x => (n : ℚ) ≤ x.value
  | .maximum n, .number x => x.value ≤ (n : ℚ)
  | .minItems n, .array xs => n ≤ xs.length
  | .maxItems n, .array xs => xs.length ≤ n
  | .items first others, .array xs => itemsHold first (fun x => valid others x) xs
  | _, _ => true

/-- The instance meets every keyword of a schema. -/
def valid : List Keyword → Json → Bool
  | [], _ => true
  | k :: ks, j => k.holds j && valid ks j

/-- Each of the first places meets its schema, and the others meet a predicate. -/
def itemsHold : List (List Keyword) → (Json → Bool) → List Json → Bool
  | [], others, xs => xs.all others
  | _ :: _, _, [] => true
  | s :: ss, others, x :: xs => valid s x && itemsHold ss others xs

end

/-! ### One keyword at a time -/

@[simp] theorem valid_nil (j : Json) : valid [] j = true := rfl

@[simp] theorem valid_cons (k : Keyword) (ks : List Keyword) (j : Json) :
    valid (k :: ks) j = (k.holds j && valid ks j) := rfl

@[simp] theorem holds_type (types : List JsonType) (j : Json) :
    (Keyword.type types).holds j = types.any fun t => t.admits j := rfl

@[simp] theorem holds_const (value : Literal) (j : Json) :
    (Keyword.const value).holds j = value.is j := rfl

@[simp] theorem holds_enum (values : List Literal) (j : Json) :
    (Keyword.enum values).holds j = values.any fun v => v.is j := rfl

@[simp] theorem holds_minLength (n : Nat) (s : String) :
    (Keyword.minLength n).holds (.string s) = decide (n ≤ s.length) := rfl

@[simp] theorem holds_maxLength (n : Nat) (s : String) :
    (Keyword.maxLength n).holds (.string s) = decide (s.length ≤ n) := rfl

@[simp] theorem holds_minimum (n : Nat) (x : JsonNumber) :
    (Keyword.minimum n).holds (.number x) = decide ((n : ℚ) ≤ x.value) := rfl

@[simp] theorem holds_maximum (n : Nat) (x : JsonNumber) :
    (Keyword.maximum n).holds (.number x) = decide (x.value ≤ (n : ℚ)) := rfl

@[simp] theorem holds_minItems (n : Nat) (xs : List Json) :
    (Keyword.minItems n).holds (.array xs) = decide (n ≤ xs.length) := rfl

@[simp] theorem holds_maxItems (n : Nat) (xs : List Json) :
    (Keyword.maxItems n).holds (.array xs) = decide (xs.length ≤ n) := rfl

@[simp] theorem holds_items (first : List (List Keyword)) (others : List Keyword)
    (xs : List Json) :
    (Keyword.items first others).holds (.array xs) = itemsHold first (valid others) xs := rfl

@[simp] theorem itemsHold_nil (others : Json → Bool) (xs : List Json) :
    itemsHold [] others xs = xs.all others := by
  cases xs <;> rfl

@[simp] theorem itemsHold_cons (s : List Keyword) (ss : List (List Keyword))
    (others : Json → Bool) (x : Json) (xs : List Json) :
    itemsHold (s :: ss) others (x :: xs) = (valid s x && itemsHold ss others xs) := rfl

end JsonSchema
