/-
Questions the crate asks of strings.

A Rust `str` and a `String` here are both sequences of Unicode scalar values, so
`trim`, `is_control` and `len` carry over character by character.  `debugStr` is
what `{:?}` prints; it escapes what Rust escapes among the ASCII characters and
the C1 controls.  In the model only the texts of errors are made with it.
-/
import Mathlib.Data.String.Basic

namespace CultNet

/-- `char::is_whitespace`: the Unicode property `White_Space`. -/
def isWhitespace (c : Char) : Bool :=
  let n := c.toNat
  (0x09 ≤ n && n ≤ 0x0D) || n == 0x20 || n == 0x85 || n == 0xA0 || n == 0x1680 ||
    (0x2000 ≤ n && n ≤ 0x200A) || n == 0x2028 || n == 0x2029 || n == 0x202F || n == 0x205F ||
    n == 0x3000

/-- `char::is_control`: the general category `Cc`. -/
def isControl (c : Char) : Bool :=
  c.toNat < 0x20 || (0x7F ≤ c.toNat && c.toNat ≤ 0x9F)

/-- `value.trim().is_empty()`. -/
def isBlank (value : String) : Bool :=
  value.toList.all isWhitespace

/-- `value.trim()`. -/
def trim (value : String) : String :=
  let fromStart := value.toList.dropWhile isWhitespace
  String.ofList (fromStart.reverse.dropWhile isWhitespace).reverse

/-- `value.split_once(delimiter)`: what is before and after the first delimiter. -/
def splitOnce (delimiter : Char) (value : String) : Option (String × String) :=
  match value.toList.dropWhile (· != delimiter) with
  | [] => none
  | _ :: after => some (String.ofList (value.toList.takeWhile (· != delimiter)), String.ofList after)

/-- One character of a `{:?}` rendering.  Rust also escapes the characters that do not print and
those that extend a grapheme, by its Unicode tables; beyond the C1 controls they are left as they
are here. -/
def debugChar (c : Char) : String :=
  if c = '\x00' then "\\0"
  else if c = '\t' then "\\t"
  else if c = '\r' then "\\r"
  else if c = '\n' then "\\n"
  else if c = '"' then "\\\""
  else if c = '\\' then "\\\\"
  else if isControl c then "\\u\x7b" ++ String.ofList (Nat.toDigits 16 c.toNat) ++ "\x7d"
  else c.toString

/-- `{:?}` of a string, as far as `debugChar` goes. -/
def debugStr (value : String) : String :=
  "\"" ++ String.join (value.toList.map debugChar) ++ "\""

/-- `{:?}` of an `Option`. -/
def debugOption {α : Type} (debug : α → String) : Option α → String
  | none => "None"
  | some value => "Some(" ++ debug value ++ ")"

/-- `{:?}` of a slice of strings. -/
def debugStrs (values : List String) : String :=
  "[" ++ ", ".intercalate (values.map debugStr) ++ "]"

/-- A text is split at a delimiter with no other before it. -/
theorem splitOnce_append {delimiter : Char} {before : String} (h : delimiter ∉ before.toList)
    (after : String) :
    splitOnce delimiter (before ++ String.singleton delimiter ++ after) = some (before, after) := by
  have hbefore : ∀ c ∈ before.toList, (c != delimiter) = true := by
    intro c hc
    have : c ≠ delimiter := fun heq => h (heq ▸ hc)
    simp [this]
  unfold splitOnce
  simp only [String.toList_append, String.toList_singleton, List.append_assoc,
    List.singleton_append]
  rw [List.dropWhile_append_of_pos hbefore, List.takeWhile_append_of_pos hbefore]
  simp [String.ofList_toList]

/-- A text with a delimiter has a first one. -/
theorem exists_first {delimiter : Char} {value : String} (h : delimiter ∈ value.toList) :
    ∃ before after, value = before ++ String.singleton delimiter ++ after ∧
      delimiter ∉ before.toList := by
  obtain ⟨before, after, hvalue, hbefore⟩ := List.eq_append_cons_of_mem h
  refine ⟨String.ofList before, String.ofList after, ?_, by rwa [String.toList_ofList]⟩
  apply String.toList_injective
  simp [hvalue]

/-- A string has at most as many characters as bytes. -/
theorem length_le_utf8ByteSize (s : String) : s.length ≤ s.utf8ByteSize := by
  have h : ∀ l : List Char, l.length ≤ (String.ofList l).utf8ByteSize := by
    intro l
    induction l with
    | nil => simp
    | cons c rest ih =>
        rw [String.ofList_cons, String.utf8ByteSize_append, String.utf8ByteSize_singleton,
          List.length_cons]
        have := c.utf8Size_pos
        omega
  have hs := h s.toList
  rwa [String.ofList_toList, String.length_toList] at hs

end CultNet
