/-
What every module of the model shares.

A Rust `Result` becomes an `Except String`: the crate builds every error with
`anyhow!`, so an error is its text.  A function that can also panic returns an
`Except Fault` instead, which keeps the two ways of not returning a value apart.
A `&mut self` method returns the state next to its result, because a method that
fails half way leaves behind whatever it had already written.

Machine integers that travel on the wire keep their width (`UInt8`, `UInt16`,
`UInt32`).  Times in milliseconds and lengths are natural numbers, with the
saturating operations of the source written out where they saturate.
-/
import Mathlib.Data.UInt

namespace CultNet

/-- Why a call did not return a value. -/
inductive Fault where
  /-- The call returned `Err`. -/
  | error (message : String)
  /-- The call panicked. -/
  | panic (message : String)
  deriving DecidableEq, Repr

/-- `u32::MAX`. -/
abbrev u32Max : UInt32 := 0xFFFFFFFF

/-- `u16::MAX as usize`. -/
abbrev u16Max : Nat := 65535

/-- `u64::MAX`. -/
abbrev u64Max : Nat := 2 ^ 64 - 1

/-- `u64::saturating_add`. -/
def saturatingAdd (a b : Nat) : Nat := min (a + b) u64Max

end CultNet
