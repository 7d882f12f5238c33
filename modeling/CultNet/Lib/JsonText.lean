/-
JSON values as compact text.

Nothing stands between the tokens of a compact text, so it is the tokens that keep
the values apart.  A string ends at the first quote that is not escaped; a number
ends where something stands that no number contains; the first character of a text
tells which kind of value it is, and the brackets and separators the rest.  From
that, by induction on the tree, no two trees have the same text.
-/
import CultNet.Lib.Decimal
import CultNet.Lib.Json
import CultNet.Lib.SelfDelimiting

namespace JsonText

/-- The characters of numbers. -/
def numberCharacters : List Char :=
  ['0', '1', '2', '3', '4', '5', '6', '7', '8', '9', '+', '-', '.', 'e', 'E']

/-- A character that ends a number. -/
def EndsNumber (c : Char) : Prop := c ∉ numberCharacters

instance : DecidablePred EndsNumber := fun c => inferInstanceAs (Decidable (c ∉ numberCharacters))

/-- What stands between the quotes of a string: every quote has a backslash before it. -/
inductive Escaped : List Char → Prop
  | nil : Escaped []
  | plain {c : Char} {rest : List Char} (hquote : c ≠ '"') (hbackslash : c ≠ '\\')
      (hrest : Escaped rest) : Escaped (c :: rest)
  | escape (c : Char) {rest : List Char} (hrest : Escaped rest) : Escaped ('\\' :: c :: rest)

/-- How numbers and strings are written. -/
structure Tokens where
  number : JsonNumber → List Char
  string : String → List Char

/-- Numbers and strings have tokens of their own, which look like numbers and strings. -/
structure Tokens.Lawful (tokens : Tokens) : Prop where
  number_injective : Function.Injective tokens.number
  string_injective : Function.Injective tokens.string
  number_ne_nil : ∀ n, tokens.number n ≠ []
  number_characters : ∀ n, ∀ c ∈ tokens.number n, c ∈ numberCharacters
  string_quoted : ∀ s, ∃ body, tokens.string s = '"' :: body ++ ['"'] ∧ Escaped body

section

variable (tokens : Tokens)

mutual

/-- The compact text of a tree. -/
def compact : Json → List Char
  | .null => ['n', 'u', 'l', 'l']
  | .bool true => ['t', 'r', 'u', 'e']
  | .bool false => ['f', 'a', 'l', 's', 'e']
  | .number n => tokens.number n
  | .string s => tokens.string s
  | .array items => '[' :: ([','].intercalate (compactItems items) ++ [']'])
  | .object members => '\x7b' :: ([','].intercalate (compactMembers members) ++ ['\x7d'])

def compactItems : List Json → List (List Char)
  | [] => []
  | item :: rest => compact item :: compactItems rest

def compactMembers : List (String × Json) → List (List Char)
  | [] => []
  | (key, item) :: rest => (tokens.string key ++ ':' :: compact item) :: compactMembers rest

end

/-- A key and the text of its value. -/
def compactMember (m : String × Json) : List Char := tokens.string m.1 ++ ':' :: compact tokens m.2

theorem compactItems_eq (items : List Json) : compactItems tokens items = items.map (compact tokens) := by
  induction items with
  | nil => rfl
  | cons item rest ih => rw [compactItems, ih, List.map_cons]

theorem compactMembers_eq (members : List (String × Json)) :
    compactMembers tokens members = members.map (compactMember tokens) := by
  induction members with
  | nil => rfl
  | cons m rest ih => rw [compactMembers, ih, List.map_cons, compactMember]

end

/-! ### Strings -/

/-- An escaped text ends at the first quote that is not part of it. -/
theorem Escaped.append_inj {a b x y : List Char} (ha : Escaped a) (hb : Escaped b)
    (h : a ++ '"' :: x = b ++ '"' :: y) : a = b ∧ x = y := by
  induction ha generalizing b with
  | nil =>
      cases hb with
      | nil => exact ⟨rfl, (List.cons.inj h).2⟩
      | plain hquote _ _ => exact absurd (List.cons.inj h).1.symm hquote
      | escape c hrest => exact absurd (List.cons.inj h).1 (by decide)
  | plain hquote hbackslash _ ih =>
      cases hb with
      | nil => exact absurd (List.cons.inj h).1 hquote
      | plain _ _ hrest =>
          obtain ⟨rfl, htail⟩ := List.cons.inj h
          obtain ⟨rfl, hxy⟩ := ih hrest htail
          exact ⟨rfl, hxy⟩
      | escape c hrest => exact absurd (List.cons.inj h).1 hbackslash
  | escape c _ ih =>
      cases hb with
      | nil => exact absurd (List.cons.inj h).1 (by decide)
      | plain _ hbackslash _ => exact absurd (List.cons.inj h).1.symm hbackslash
      | escape d hrest =>
          obtain ⟨-, hcons⟩ := List.cons.inj h
          obtain ⟨rfl, htail⟩ := List.cons.inj hcons
          obtain ⟨rfl, hxy⟩ := ih hrest htail
          exact ⟨rfl, hxy⟩

namespace Tokens.Lawful

variable {tokens : Tokens} (htokens : tokens.Lawful)
include htokens

theorem string_append_inj {s t : String} {x y : List Char}
    (h : tokens.string s ++ x = tokens.string t ++ y) : s = t ∧ x = y := by
  obtain ⟨a, hs, ha⟩ := htokens.string_quoted s
  obtain ⟨b, ht, hb⟩ := htokens.string_quoted t
  rw [hs, ht] at h
  obtain ⟨rfl, hxy⟩ := ha.append_inj hb (by simpa using h)
  exact ⟨htokens.string_injective (hs.trans ht.symm), hxy⟩

/-! ### Numbers -/

theorem takeWhile_number (n : JsonNumber) {x : List Char}
    (hx : Stops EndsNumber x) :
    (tokens.number n ++ x).takeWhile (· ∈ numberCharacters) = tokens.number n := by
  have hnumber : ∀ c ∈ tokens.number n, decide (c ∈ numberCharacters) = true := fun c hc =>
    decide_eq_true (htokens.number_characters n c hc)
  rw [List.takeWhile_append_of_pos hnumber]
  cases x with
  | nil => simp
  | cons c rest =>
      have hc : c ∉ numberCharacters := hx c rfl
      simp [hc]

theorem number_append_inj {m n : JsonNumber} {x y : List Char}
    (hx : Stops EndsNumber x) (hy : Stops EndsNumber y)
    (h : tokens.number m ++ x = tokens.number n ++ y) : m = n ∧ x = y := by
  have hnumber : tokens.number m = tokens.number n := by
    rw [← htokens.takeWhile_number m hx, h, htokens.takeWhile_number n hy]
  rw [hnumber] at h
  exact ⟨htokens.number_injective hnumber, List.append_cancel_left h⟩

end Tokens.Lawful

/-! ### The first character -/

/-- The kinds of values that a first character tells apart. -/
inductive Kind where
  | null
  | true
  | false
  | number
  | string
  | array
  | object
  deriving DecidableEq

/-- The kind of the value whose text starts with this character. -/
def kindOf (c : Char) : Option Kind :=
  if c = 'n' then some .null
  else if c = 't' then some .true
  else if c = 'f' then some .false
  else if c = '"' then some .string
  else if c = '[' then some .array
  else if c = '\x7b' then some .object
  else if c ∈ numberCharacters then some .number
  else none

def kind : Json → Kind
  | .null => .null
  | .bool true => .true
  | .bool false => .false
  | .number _ => .number
  | .string _ => .string
  | .array _ => .array
  | .object _ => .object

theorem kindOf_number : ∀ c ∈ numberCharacters, kindOf c = some .number := by
  have htable : numberCharacters.all (fun c => kindOf c = some .number) = true := by decide
  intro c hc
  simpa using List.all_eq_true.mp htable c hc

section

variable {tokens : Tokens} (htokens : tokens.Lawful)
include htokens

theorem exists_first (v : Json) :
    ∃ c rest, compact tokens v = c :: rest ∧ kindOf c = some (kind v) := by
  cases v with
  | null => exact ⟨_, _, rfl, rfl⟩
  | bool b => cases b <;> exact ⟨_, _, rfl, rfl⟩
  | number n =>
      obtain ⟨c, rest, hn⟩ := List.exists_cons_of_ne_nil (htokens.number_ne_nil n)
      exact ⟨c, rest, hn, kindOf_number c (htokens.number_characters n c (hn ▸ List.mem_cons_self))⟩
  | string s =>
      obtain ⟨body, hs, -⟩ := htokens.string_quoted s
      exact ⟨'"', body ++ ['"'], hs, rfl⟩
  | array items => exact ⟨_, _, rfl, rfl⟩
  | object members => exact ⟨_, _, rfl, rfl⟩

/-- Texts that start alike are of values of one kind. -/
theorem kind_eq {v w : Json} {x y : List Char}
    (h : compact tokens v ++ x = compact tokens w ++ y) : kind v = kind w := by
  obtain ⟨c, rest, hv, hc⟩ := exists_first htokens v
  obtain ⟨d, others, hw, hd⟩ := exists_first htokens w
  rw [hv, hw] at h
  obtain ⟨rfl, -⟩ := List.cons.inj h
  exact Option.some.inj (hc.symm.trans hd)

/-- No text starts with a character that no kind of value starts with. -/
theorem compact_append_ne {c : Char} (hc : kindOf c = none) (v : Json) (x y : List Char) :
    compact tokens v ++ x ≠ c :: y := by
  intro h
  obtain ⟨d, rest, hv, hd⟩ := exists_first htokens v
  rw [hv] at h
  obtain ⟨rfl, -⟩ := List.cons.inj h
  rw [hc] at hd
  cases hd

theorem compactMember_append_ne (m : String × Json) (x y : List Char) :
    compactMember tokens m ++ x ≠ '\x7d' :: y := by
  intro h
  obtain ⟨body, hs, -⟩ := htokens.string_quoted m.1
  rw [compactMember, hs] at h
  exact absurd (List.cons.inj h).1 (by decide)

/-! ### Trees -/

/-- A member is told from what stops its value. -/
theorem told_compactMember {m : String × Json}
    (hm : Told EndsNumber (compact tokens) m.2) :
    Told EndsNumber (compactMember tokens) m := by
  intro other x y hx hy h
  simp only [compactMember, List.append_assoc, List.cons_append] at h
  obtain ⟨hkey, hcolon⟩ := htokens.string_append_inj h
  obtain ⟨hvalue, hxy⟩ := hm other.2 x y hx hy (List.cons.inj hcolon).2
  exact ⟨Prod.ext hkey hvalue, hxy⟩

/-- The text of a tree can be told from what stops a number. -/
theorem told_compact {v : Json} (hv : v.Canonical) :
    Told EndsNumber (compact tokens) v := by
  have hcomma : EndsNumber ',' := by decide
  induction hv with
  | null =>
      intro w x y _ _ h
      have hkind := kind_eq htokens h
      cases w with
      | null => exact ⟨rfl, List.append_cancel_left h⟩
      | bool b => cases b <;> cases hkind
      | _ => cases hkind
  | bool b =>
      intro w x y _ _ h
      have hkind := kind_eq htokens h
      cases w with
      | bool b' =>
          have hb : b = b' := by
            cases b <;> cases b' <;> first | rfl | cases hkind
          subst hb
          exact ⟨rfl, List.append_cancel_left h⟩
      | _ => cases b <;> cases hkind
  | number n =>
      intro w x y hx hy h
      have hkind := kind_eq htokens h
      cases w with
      | number m =>
          obtain ⟨rfl, hxy⟩ := htokens.number_append_inj hx hy h
          exact ⟨rfl, hxy⟩
      | bool b => cases b <;> cases hkind
      | _ => cases hkind
  | string s =>
      intro w x y _ _ h
      have hkind := kind_eq htokens h
      cases w with
      | string t =>
          obtain ⟨rfl, hxy⟩ := htokens.string_append_inj h
          exact ⟨rfl, hxy⟩
      | bool b => cases b <;> cases hkind
      | _ => cases hkind
  | array _ ih =>
      intro w x y _ _ h
      have hkind := kind_eq htokens h
      cases w with
      | array others =>
          simp only [compact, compactItems_eq, List.cons_append, List.append_assoc,
            List.nil_append] at h
          obtain ⟨rfl, hxy⟩ := Told.intercalate_append_inj hcomma (by decide) (by decide)
            (compact_append_ne htokens (by decide)) ih (List.cons.inj h).2
          exact ⟨rfl, hxy⟩
      | bool b => cases b <;> cases hkind
      | _ => cases hkind
  | object _ _ ih =>
      intro w x y _ _ h
      have hkind := kind_eq htokens h
      cases w with
      | object others =>
          simp only [compact, compactMembers_eq, List.cons_append, List.append_assoc,
            List.nil_append] at h
          obtain ⟨rfl, hxy⟩ := Told.intercalate_append_inj hcomma (by decide) (by decide)
            (compactMember_append_ne htokens)
            (fun m hm => told_compactMember htokens (ih m hm)) (List.cons.inj h).2
          exact ⟨rfl, hxy⟩
      | bool b => cases b <;> cases hkind
      | _ => cases hkind

/-- Values are told apart by their texts. -/
theorem compact_injective {v w : JsonValue} (h : compact tokens v.json = compact tokens w.json) :
    v = w := by
  have happend : compact tokens v.json ++ [] = compact tokens w.json ++ [] := by rw [h]
  exact JsonValue.ext
    (told_compact htokens v.canonical w.json [] [] Told.stops_nil Told.stops_nil happend).1

end

/-! ### Plain tokens -/

/-- A character of a string: quotes and backslashes get a backslash. -/
def escapeChar (c : Char) : List Char := if c = '"' ∨ c = '\\' then ['\\', c] else [c]

/-- Integers in decimal, and other numbers by their bits behind an exponent mark. -/
def plainTokens : Tokens where
  number
    | .posInt n => Decimal.display n.toNat
    | .negInt n _ => Decimal.display n.toInt
    | .float d => '0' :: 'e' :: Nat.toDigits 10 d.bits.toNat
  string s := '"' :: s.toList.flatMap escapeChar ++ ['"']

theorem escaped_escapeChar (c : Char) {rest : List Char} (h : Escaped rest) :
    Escaped (escapeChar c ++ rest) := by
  unfold escapeChar
  split
  · exact h.escape c
  · rename_i hc
    rw [not_or] at hc
    exact h.plain hc.1 hc.2

theorem escaped_flatMap (cs : List Char) : Escaped (cs.flatMap escapeChar) := by
  induction cs with
  | nil => exact .nil
  | cons c rest ih => exact escaped_escapeChar c ih

theorem escapeChar_append_inj {c d : Char} {x y : List Char}
    (h : escapeChar c ++ x = escapeChar d ++ y) : c = d ∧ x = y := by
  have hplain : ∀ {e : Char} {z w : List Char}, ¬(e = '"' ∨ e = '\\') → '\\' :: z ≠ e :: w :=
    fun he heq => he (.inr (List.cons.inj heq).1.symm)
  by_cases hc : c = '"' ∨ c = '\\'
  · by_cases hd : d = '"' ∨ d = '\\'
    · rw [escapeChar, escapeChar, if_pos hc, if_pos hd] at h
      exact List.cons.inj (List.cons.inj h).2
    · rw [escapeChar, escapeChar, if_pos hc, if_neg hd] at h
      exact absurd h (hplain hd)
  · by_cases hd : d = '"' ∨ d = '\\'
    · rw [escapeChar, escapeChar, if_neg hc, if_pos hd] at h
      exact absurd h.symm (hplain hc)
    · rw [escapeChar, escapeChar, if_neg hc, if_neg hd] at h
      exact List.cons.inj h

theorem flatMap_escapeChar_injective {cs ds : List Char}
    (h : cs.flatMap escapeChar = ds.flatMap escapeChar) : cs = ds := by
  have hne : ∀ c (x : List Char), escapeChar c ++ x ≠ [] := by
    intro c x
    unfold escapeChar
    split <;> simp
  induction cs generalizing ds with
  | nil =>
      cases ds with
      | nil => rfl
      | cons d others => exact absurd h.symm (hne d _)
  | cons c rest ih =>
      cases ds with
      | nil => exact absurd h (hne c _)
      | cons d others =>
          obtain ⟨rfl, htail⟩ := escapeChar_append_inj h
          rw [ih htail]

theorem isDigit_mem_numberCharacters {c : Char} (h : c.isDigit) : c ∈ numberCharacters := by
  have htable : ∀ n < 58, 48 ≤ n → Char.ofNat n ∈ numberCharacters := by decide
  obtain ⟨hlower, hupper⟩ := Char.isDigit_iff_toNat.mp h
  rw [← Char.ofNat_toNat c]
  exact htable c.toNat (Nat.lt_succ_of_le hupper) hlower

theorem display_characters (n : Int) : ∀ c ∈ Decimal.display n, c ∈ numberCharacters := by
  intro c hc
  rcases Decimal.mem_display hc with rfl | hdigit
  · decide
  · exact isDigit_mem_numberCharacters hdigit

/-- No integer is written with an exponent mark. -/
theorem display_ne_exponent (n : Int) (rest : List Char) :
    Decimal.display n ≠ '0' :: 'e' :: rest := by
  intro h
  have hmem : 'e' ∈ Decimal.display n := h ▸ List.mem_cons_of_mem _ List.mem_cons_self
  rcases Decimal.mem_display hmem with hminus | hdigit
  · exact absurd hminus (by decide)
  · exact absurd hdigit (by decide)

theorem plainTokens_number_injective : Function.Injective plainTokens.number := by
  intro m n h
  cases m with
  | posInt a =>
      cases n with
      | posInt b =>
          have hab : (a.toNat : Int) = b.toNat := Decimal.display_injective h
          rw [UInt64.toNat_inj.mp (Int.ofNat_inj.mp hab)]
      | negInt b hb =>
          have hab : (a.toNat : Int) = b.toInt := Decimal.display_injective h
          have : b.toInt < 0 := Int64.lt_iff_toInt_lt.mp hb
          omega
      | float b => exact absurd h (display_ne_exponent a.toNat _)
  | negInt a ha =>
      cases n with
      | posInt b =>
          have hab : a.toInt = (b.toNat : Int) := Decimal.display_injective h
          have : a.toInt < 0 := Int64.lt_iff_toInt_lt.mp ha
          omega
      | negInt b hb =>
          have hab : a.toInt = b.toInt := Decimal.display_injective h
          obtain rfl := Int64.toInt_inj.mp hab
          rfl
      | float b => exact absurd h (display_ne_exponent a.toInt _)
  | float a =>
      cases n with
      | posInt b => exact absurd h.symm (display_ne_exponent b.toNat _)
      | negInt b hb => exact absurd h.symm (display_ne_exponent b.toInt _)
      | float b =>
          have hdigits : Nat.toDigits 10 a.bits.toNat = Nat.toDigits 10 b.bits.toNat :=
            (List.cons.inj (List.cons.inj h).2).2
          have hab : a.bits.toNat = b.bits.toNat := by
            rw [← Nat.ofDigitChars_ten_toDigits (n := a.bits.toNat), hdigits,
              Nat.ofDigitChars_ten_toDigits]
          cases a
          cases b
          cases UInt64.toNat_inj.mp hab
          rfl

theorem plainTokens_lawful : plainTokens.Lawful where
  number_injective := plainTokens_number_injective
  string_injective s t h := by
    have hbody := List.append_cancel_right h
    exact String.toList_injective (flatMap_escapeChar_injective (List.cons.inj hbody).2)
  number_ne_nil n := by
    cases n with
    | posInt a => exact Decimal.display_ne_nil a.toNat
    | negInt a ha => exact Decimal.display_ne_nil a.toInt
    | float a => exact List.cons_ne_nil _ _
  number_characters n := by
    cases n with
    | posInt a => exact display_characters a.toNat
    | negInt a ha => exact display_characters a.toInt
    | float a =>
        intro c hc
        rcases List.mem_cons.mp hc with rfl | hc
        · decide
        · rcases List.mem_cons.mp hc with rfl | hc
          · decide
          · exact isDigit_mem_numberCharacters (Decimal.isDigit_of_mem_toDigits hc)
  string_quoted s := ⟨_, rfl, escaped_flatMap s.toList⟩

end JsonText
