/-
MessagePack values as bytes.

A value is a head and, behind it, what the head announces: the bytes of a string, the
items of an array.  A head has several forms, and writing takes the shortest that its
number fits; reading takes every form.  Reading follows the nesting down to a given
depth and no further.

What was written is read back, with whatever stands behind it left over
(`read_write`), where its lengths fit 32 bits and it is not nested too deep.
-/
import CultNet.Lib.BigEndian
import CultNet.Lib.MessagePack

namespace MessagePack

/-! ### Heads -/

/-- What the first bytes of a value say. -/
inductive Head where
  /-- A value that is no more than its head. -/
  | nil
  | boolean (value : Bool)
  | integer (value : Integer)
  | f32 (bits : UInt32)
  | f64 (bits : UInt64)
  /-- The lengths of what follows. -/
  | string (length : Nat)
  | binary (length : Nat)
  | array (length : Nat)
  | map (length : Nat)
  | ext (type : Int8) (length : Nat)

/-- A marker and a number behind it. -/
def marked (marker : UInt8) (width n : Nat) : List UInt8 := marker :: BigEndian.bytes width n

def writeInteger (n : Integer) : List UInt8 :=
  if 0 ≤ n.val then
    if n.val < 0x80 then [UInt8.ofNat n.val.toNat]
    else if n.val < 2 ^ 8 then marked 0xcc 1 n.val.toNat
    else if n.val < 2 ^ 16 then marked 0xcd 2 n.val.toNat
    else if n.val < 2 ^ 32 then marked 0xce 4 n.val.toNat
    else marked 0xcf 8 n.val.toNat
  else if -0x20 ≤ n.val then [UInt8.ofNat (n.val + 2 ^ 8).toNat]
  else if -2 ^ 7 ≤ n.val then marked 0xd0 1 (n.val + 2 ^ 8).toNat
  else if -2 ^ 15 ≤ n.val then marked 0xd1 2 (n.val + 2 ^ 16).toNat
  else if -2 ^ 31 ≤ n.val then marked 0xd2 4 (n.val + 2 ^ 32).toNat
  else marked 0xd3 8 (n.val + 2 ^ 64).toNat

/-- A length in a byte with its marker where it is less than `short`, and else behind one of the
markers, in 8 (where there is one), 16 or 32 bits. -/
def writeLength (short : Nat) (fix : Nat) (marker8 : Option UInt8) (marker16 marker32 : UInt8)
    (length : Nat) : List UInt8 :=
  if length < short then [UInt8.ofNat (fix + length)]
  else
    match marker8.filter fun _ => length < 2 ^ 8 with
    | some marker => marked marker 1 length
    | none => if length < 2 ^ 16 then marked marker16 2 length else marked marker32 4 length

def writeExt (type : Int8) (length : Nat) : List UInt8 :=
  let head :=
    if length = 1 then [0xd4] else if length = 2 then [0xd5] else if length = 4 then [0xd6]
    else if length = 8 then [0xd7] else if length = 16 then [0xd8]
    else if length < 2 ^ 8 then marked 0xc7 1 length
    else if length < 2 ^ 16 then marked 0xc8 2 length
    else marked 0xc9 4 length
  head ++ [type.toUInt8]

def Head.write : Head → List UInt8
  | nil => [0xc0]
  | boolean value => [if value then 0xc3 else 0xc2]
  | integer value => writeInteger value
  | f32 bits => marked 0xca 4 bits.toNat
  | f64 bits => marked 0xcb 8 bits.toNat
  | string length => writeLength 32 0xa0 (some 0xd9) 0xda 0xdb length
  | binary length => writeLength 0 0 (some 0xc4) 0xc5 0xc6 length
  | array length => writeLength 16 0x90 none 0xdc 0xdd length
  | map length => writeLength 16 0x80 none 0xde 0xdf length
  | ext type length => writeExt type length

/-- A number of some width off the front. -/
def readNumber (width : Nat) (bytes : List UInt8) : Option (Nat × List UInt8) :=
  if bytes.length < width then none
  else some (BigEndian.value (bytes.take width), bytes.drop width)

/-- An integer that the format can carry. -/
def Integer.ofInt? (n : Int) : Option Integer :=
  if h : -0x8000000000000000 ≤ n ∧ n ≤ 0xFFFFFFFFFFFFFFFF then some ⟨n, h.1, h.2⟩ else none

/-- The number of `width` bytes in two's complement. -/
def signed (width n : Nat) : Int := if n < 256 ^ width / 2 then n else n - 256 ^ width

def readUnsigned (width : Nat) (bytes : List UInt8) : Option (Head × List UInt8) :=
  (readNumber width bytes).bind fun (n, rest) => (Integer.ofInt? n).map fun n => (.integer n, rest)

def readSigned (width : Nat) (bytes : List UInt8) : Option (Head × List UInt8) :=
  (readNumber width bytes).bind fun (n, rest) =>
    (Integer.ofInt? (signed width n)).map fun n => (.integer n, rest)

def readExt (length : Nat) : List UInt8 → Option (Head × List UInt8)
  | type :: rest => some (.ext type.toInt8 length, rest)
  | [] => none

/-- A head off the front, by its marker. -/
def readHead : List UInt8 → Option (Head × List UInt8)
  | [] => none
  | marker :: rest =>
    let n := marker.toNat
    if n < 0x80 then (Integer.ofInt? n).map fun n => (.integer n, rest)
    else if n < 0x90 then some (.map (n - 0x80), rest)
    else if n < 0xa0 then some (.array (n - 0x90), rest)
    else if n < 0xc0 then some (.string (n - 0xa0), rest)
    else if 0xe0 ≤ n then (Integer.ofInt? ((n : Int) - 2 ^ 8)).map fun n => (.integer n, rest)
    else
      match n with
      | 0xc0 => some (.nil, rest)
      | 0xc2 => some (.boolean false, rest)
      | 0xc3 => some (.boolean true, rest)
      | 0xc4 => (readNumber 1 rest).map fun (n, rest) => (.binary n, rest)
      | 0xc5 => (readNumber 2 rest).map fun (n, rest) => (.binary n, rest)
      | 0xc6 => (readNumber 4 rest).map fun (n, rest) => (.binary n, rest)
      | 0xc7 => (readNumber 1 rest).bind fun (n, rest) => readExt n rest
      | 0xc8 => (readNumber 2 rest).bind fun (n, rest) => readExt n rest
      | 0xc9 => (readNumber 4 rest).bind fun (n, rest) => readExt n rest
      | 0xca => (readNumber 4 rest).map fun (n, rest) => (.f32 (UInt32.ofNat n), rest)
      | 0xcb => (readNumber 8 rest).map fun (n, rest) => (.f64 (UInt64.ofNat n), rest)
      | 0xcc => readUnsigned 1 rest
      | 0xcd => readUnsigned 2 rest
      | 0xce => readUnsigned 4 rest
      | 0xcf => readUnsigned 8 rest
      | 0xd0 => readSigned 1 rest
      | 0xd1 => readSigned 2 rest
      | 0xd2 => readSigned 4 rest
      | 0xd3 => readSigned 8 rest
      | 0xd4 => readExt 1 rest
      | 0xd5 => readExt 2 rest
      | 0xd6 => readExt 4 rest
      | 0xd7 => readExt 8 rest
      | 0xd8 => readExt 16 rest
      | 0xd9 => (readNumber 1 rest).map fun (n, rest) => (.string n, rest)
      | 0xda => (readNumber 2 rest).map fun (n, rest) => (.string n, rest)
      | 0xdb => (readNumber 4 rest).map fun (n, rest) => (.string n, rest)
      | 0xdc => (readNumber 2 rest).map fun (n, rest) => (.array n, rest)
      | 0xdd => (readNumber 4 rest).map fun (n, rest) => (.array n, rest)
      | 0xde => (readNumber 2 rest).map fun (n, rest) => (.map n, rest)
      | 0xdf => (readNumber 4 rest).map fun (n, rest) => (.map n, rest)
      | _ => none

/-! ### Values -/

namespace Value

mutual

/-- How many containers a value is nested in at most. -/
def depth : Value → Nat
  | .array items => itemsDepth items + 1
  | .map entries => entriesDepth entries + 1
  | _ => 0

def itemsDepth : List Value → Nat
  | [] => 0
  | item :: rest => max item.depth (itemsDepth rest)

def entriesDepth : List (Value × Value) → Nat
  | [] => 0
  | (key, value) :: rest => max (max key.depth value.depth) (entriesDepth rest)

end

/-- The head of a value. -/
def head : Value → Head
  | .nil => .nil
  | .boolean value => .boolean value
  | .integer value => .integer value
  | .f32 bits => .f32 bits
  | .f64 bits => .f64 bits
  | .string value => .string value.bytes.length
  | .binary bytes => .binary bytes.length
  | .array items => .array items.length
  | .map entries => .map entries.length
  | .ext type bytes => .ext type bytes.length

mutual

/-- What the head announces. -/
def body : Value → List UInt8
  | .string value => value.bytes
  | .binary bytes => bytes
  | .array items => writeItems items
  | .map entries => writeEntries entries
  | .ext _ bytes => bytes
  | _ => []

def writeItems : List Value → List UInt8
  | [] => []
  | item :: rest => item.head.write ++ item.body ++ writeItems rest

def writeEntries : List (Value × Value) → List UInt8
  | [] => []
  | (key, value) :: rest =>
    key.head.write ++ key.body ++ (value.head.write ++ value.body) ++ writeEntries rest

end

def write (value : Value) : List UInt8 := value.head.write ++ value.body

end Value

/-- Read one thing after another. -/
def readMany {α : Type} (read : List UInt8 → Option (α × List UInt8)) :
    Nat → List UInt8 → Option (List α × List UInt8)
  | 0, bytes => some ([], bytes)
  | n + 1, bytes =>
    (read bytes).bind fun (a, bytes) => (readMany read n bytes).map fun (as, bytes) => (a :: as, bytes)

/-- Two things, one after the other. -/
def readPair {α : Type} (read : List UInt8 → Option (α × List UInt8)) (bytes : List UInt8) :
    Option ((α × α) × List UInt8) :=
  (read bytes).bind fun (a, bytes) => (read bytes).map fun (b, bytes) => ((a, b), bytes)

/-- So many bytes. -/
def readBytes (n : Nat) (bytes : List UInt8) : Option (List UInt8 × List UInt8) :=
  if bytes.length < n then none else some (bytes.take n, bytes.drop n)

/-- A string as it comes: a text if it is the UTF-8 of one. -/
def Utf8String.ofBytes (bytes : List UInt8) : Utf8String :=
  match h : String.fromUTF8? ⟨bytes.toArray⟩ with
  | some text => .valid text
  | none => .invalid ⟨bytes.toArray⟩ fun hvalid => by simp [String.fromUTF8?, hvalid] at h

/-- What a head announces; `inside` reads what stands in a container, where that is not too deep. -/
def readBody (inside : Option (List UInt8 → Option (Value × List UInt8))) (bytes : List UInt8) :
    Head → Option (Value × List UInt8)
  | .nil => some (.nil, bytes)
  | .boolean value => some (.boolean value, bytes)
  | .integer value => some (.integer value, bytes)
  | .f32 bits => some (.f32 bits, bytes)
  | .f64 bits => some (.f64 bits, bytes)
  | .string n => (readBytes n bytes).map fun (read, rest) => (.string (.ofBytes read), rest)
  | .binary n => (readBytes n bytes).map fun (read, rest) => (.binary read, rest)
  | .ext type n => (readBytes n bytes).map fun (read, rest) => (.ext type read, rest)
  | .array n =>
    inside.bind fun read => (readMany read n bytes).map fun (items, rest) => (.array items, rest)
  | .map n =>
    inside.bind fun read =>
      (readMany (readPair read) n bytes).map fun (entries, rest) => (.map entries, rest)

/-- A value off the front, at most so many containers deep. -/
def read : Nat → List UInt8 → Option (Value × List UInt8)
  | 0, bytes => (readHead bytes).bind fun (head, rest) => readBody none rest head
  | depth + 1, bytes =>
    (readHead bytes).bind fun (head, rest) => readBody (some (read depth)) rest head

/-! ### Reading back a head -/

theorem readNumber_bytes {width n : Nat} (h : n < 256 ^ width) (rest : List UInt8) :
    readNumber width (BigEndian.bytes width n ++ rest) = some (n, rest) := by
  have hlength : (BigEndian.bytes width n).length = width := BigEndian.length_bytes width n
  unfold readNumber
  rw [if_neg (by simp), List.take_left' hlength, List.drop_left' hlength, BigEndian.value_bytes h]

theorem Integer.ofInt?_val (n : Integer) : Integer.ofInt? n.val = some n := by
  unfold Integer.ofInt?
  rw [dif_pos ⟨n.lower, n.upper⟩]

theorem readUnsigned_bytes (width : Nat) {n : Integer} (hnonneg : 0 ≤ n.val)
    (h : n.val.toNat < 256 ^ width) (rest : List UInt8) :
    readUnsigned width (BigEndian.bytes width n.val.toNat ++ rest) = some (.integer n, rest) := by
  simp [readUnsigned, readNumber_bytes h, Int.toNat_of_nonneg hnonneg, n.ofInt?_val]

/-- A negative number that fits, in two's complement. -/
theorem readSigned_bytes (width : Nat) {n : Integer} (hneg : n.val < 0)
    (hhalf : (256 ^ width : Nat) = 2 * (256 ^ width / 2))
    (h : -((256 ^ width / 2 : Nat) : Int) ≤ n.val) (rest : List UInt8) :
    readSigned width (BigEndian.bytes width (n.val + (256 ^ width : Nat)).toNat ++ rest)
      = some (.integer n, rest) := by
  generalize hbase : (256 ^ width : Nat) = base at *
  have hfits : (n.val + base).toNat < 256 ^ width := by omega
  have hsigned : signed width (n.val + base).toNat = n.val := by
    unfold signed
    rw [hbase, if_neg (by omega)]
    have hcast : ((256 : Int) ^ width) = base := by
      rw [← hbase]
      push_cast
      rfl
    rw [hcast]
    omega
  rw [readSigned, readNumber_bytes hfits]
  simp [hsigned, n.ofInt?_val]

/-- The short forms: a marker whose high bits say the kind. -/
theorem readHead_marker (marker : UInt8) (rest : List UInt8) :
    readHead (marker :: rest) =
      if marker.toNat < 0x80 then (Integer.ofInt? marker.toNat).map fun n => (.integer n, rest)
      else if marker.toNat < 0x90 then some (.map (marker.toNat - 0x80), rest)
      else if marker.toNat < 0xa0 then some (.array (marker.toNat - 0x90), rest)
      else if marker.toNat < 0xc0 then some (.string (marker.toNat - 0xa0), rest)
      else if 0xe0 ≤ marker.toNat then
        (Integer.ofInt? ((marker.toNat : Int) - 2 ^ 8)).map fun n => (.integer n, rest)
      else readHead (marker :: rest) := by
  unfold readHead
  simp only
  split_ifs <;> rfl

theorem readHead_writeInteger (n : Integer) (rest : List UInt8) :
    readHead (writeInteger n ++ rest) = some (.integer n, rest) := by
  have hlower := n.lower
  have hupper := n.upper
  have hself := n.ofInt?_val
  unfold writeInteger
  by_cases hnonneg : 0 ≤ n.val
  · rw [if_pos hnonneg]
    by_cases h7 : n.val < 0x80
    · rw [if_pos h7]
      have hmarker : (UInt8.ofNat n.val.toNat).toNat = n.val.toNat := by
        rw [UInt8.toNat_ofNat']
        omega
      rw [List.singleton_append, readHead_marker, if_pos (by omega), hmarker,
        Int.toNat_of_nonneg hnonneg, hself]
      rfl
    rw [if_neg h7]
    by_cases h8 : n.val < 2 ^ 8
    · rw [if_pos h8]
      exact readUnsigned_bytes 1 hnonneg (by omega) rest
    rw [if_neg h8]
    by_cases h16 : n.val < 2 ^ 16
    · rw [if_pos h16]
      exact readUnsigned_bytes 2 hnonneg (by omega) rest
    rw [if_neg h16]
    by_cases h32 : n.val < 2 ^ 32
    · rw [if_pos h32]
      exact readUnsigned_bytes 4 hnonneg (by omega) rest
    rw [if_neg h32]
    exact readUnsigned_bytes 8 hnonneg (by omega) rest
  · rw [if_neg hnonneg]
    have hneg : n.val < 0 := by omega
    by_cases h5 : -0x20 ≤ n.val
    · rw [if_pos h5]
      have hmarker : (UInt8.ofNat (n.val + 2 ^ 8).toNat).toNat = (n.val + 2 ^ 8).toNat := by
        rw [UInt8.toNat_ofNat']
        omega
      have hvalue : (((n.val + 2 ^ 8).toNat : Int) - 2 ^ 8) = n.val := by omega
      rw [List.singleton_append, readHead_marker, hmarker, if_neg (by omega), if_neg (by omega),
        if_neg (by omega), if_neg (by omega), if_pos (by omega), hvalue, hself]
      rfl
    rw [if_neg h5]
    by_cases h7 : -2 ^ 7 ≤ n.val
    · rw [if_pos h7]
      exact readSigned_bytes 1 hneg (by decide) (by omega) rest
    rw [if_neg h7]
    by_cases h15 : -2 ^ 15 ≤ n.val
    · rw [if_pos h15]
      exact readSigned_bytes 2 hneg (by decide) (by omega) rest
    rw [if_neg h15]
    by_cases h31 : -2 ^ 31 ≤ n.val
    · rw [if_pos h31]
      exact readSigned_bytes 4 hneg (by decide) (by omega) rest
    rw [if_neg h31]
    exact readSigned_bytes 8 hneg (by decide) (by omega) rest

/-- The lengths of a kind of head, given how its markers are read. -/
theorem readHead_writeLength (kind : Nat → Head) (marker8 : Option UInt8) {short fix : Nat}
    {marker16 marker32 : UInt8}
    (hfix : ∀ n < short, ∀ rest, readHead (UInt8.ofNat (fix + n) :: rest) = some (kind n, rest))
    (h8 : ∀ m ∈ marker8, ∀ rest,
      readHead (m :: rest) = (readNumber 1 rest).map fun (n, rest) => (kind n, rest))
    (h16 : ∀ rest,
      readHead (marker16 :: rest) = (readNumber 2 rest).map fun (n, rest) => (kind n, rest))
    (h32 : ∀ rest,
      readHead (marker32 :: rest) = (readNumber 4 rest).map fun (n, rest) => (kind n, rest))
    {n : Nat} (h : n < 2 ^ 32) (rest : List UInt8) :
    readHead (writeLength short fix marker8 marker16 marker32 n ++ rest) = some (kind n, rest) := by
  unfold writeLength
  by_cases hshort : n < short
  · rw [if_pos hshort]
    exact hfix n hshort rest
  rw [if_neg hshort]
  cases hmarker : marker8.filter fun _ => n < 2 ^ 8 with
  | some m =>
      obtain ⟨hm, hlt⟩ := Option.filter_eq_some_iff.mp hmarker
      have hfits : n < 256 ^ 1 := by simpa using hlt
      simp only [marked, List.cons_append]
      rw [h8 m hm, readNumber_bytes hfits]
      rfl
  | none =>
      by_cases h2 : n < 2 ^ 16
      · have hfits : n < 256 ^ 2 := h2
        simp only [if_pos h2, marked, List.cons_append]
        rw [h16, readNumber_bytes hfits]
        rfl
      · have hfits : n < 256 ^ 4 := h
        simp only [if_neg h2, marked, List.cons_append]
        rw [h32, readNumber_bytes hfits]
        rfl

/-- A short length stands in its marker. -/
theorem toNat_fix {fix n : Nat} (h : fix + n < 256) :
    (UInt8.ofNat (fix + n)).toNat = fix + n := by
  rw [UInt8.toNat_ofNat']
  omega

theorem readHead_writeExt (type : Int8) {n : Nat} (h : n < 2 ^ 32) (rest : List UInt8) :
    readHead (writeExt type n ++ rest) = some (.ext type n, rest) := by
  have htype : ∀ length, readExt length (type.toUInt8 :: rest) = some (.ext type length, rest) := by
    intro length
    simp [readExt]
  unfold writeExt
  simp only
  split_ifs with h1 h2 h4 h8 h16 hbyte hshort
  · rw [h1]
    exact htype 1
  · rw [h2]
    exact htype 2
  · rw [h4]
    exact htype 4
  · rw [h8]
    exact htype 8
  · rw [h16]
    exact htype 16
  · have hfits : n < 256 ^ 1 := hbyte
    show ((readNumber 1 (BigEndian.bytes 1 n ++ [type.toUInt8] ++ rest)).bind fun (n, rest) =>
      readExt n rest) = _
    rw [List.append_assoc, readNumber_bytes hfits]
    exact htype n
  · have hfits : n < 256 ^ 2 := hshort
    show ((readNumber 2 (BigEndian.bytes 2 n ++ [type.toUInt8] ++ rest)).bind fun (n, rest) =>
      readExt n rest) = _
    rw [List.append_assoc, readNumber_bytes hfits]
    exact htype n
  · have hfits : n < 256 ^ 4 := h
    show ((readNumber 4 (BigEndian.bytes 4 n ++ [type.toUInt8] ++ rest)).bind fun (n, rest) =>
      readExt n rest) = _
    rw [List.append_assoc, readNumber_bytes hfits]
    exact htype n

/-- The lengths of a head fit 32 bits. -/
def Head.Fits : Head → Prop
  | string n | binary n | array n | map n | ext _ n => n < 2 ^ 32
  | _ => True

/-- **A head is read back.** -/
theorem readHead_write {head : Head} (h : head.Fits) (rest : List UInt8) :
    readHead (head.write ++ rest) = some (head, rest) := by
  cases head with
  | nil => rfl
  | boolean value => cases value <;> rfl
  | integer value => exact readHead_writeInteger value rest
  | f32 bits =>
      have hfits : bits.toNat < 256 ^ 4 := bits.toNat_lt
      show ((readNumber 4 (BigEndian.bytes 4 bits.toNat ++ rest)).map fun (n, rest) =>
        (Head.f32 (UInt32.ofNat n), rest)) = _
      rw [readNumber_bytes hfits]
      simp
  | f64 bits =>
      have hfits : bits.toNat < 256 ^ 8 := bits.toNat_lt
      show ((readNumber 8 (BigEndian.bytes 8 bits.toNat ++ rest)).map fun (n, rest) =>
        (Head.f64 (UInt64.ofNat n), rest)) = _
      rw [readNumber_bytes hfits]
      simp
  | string n =>
      refine readHead_writeLength .string (some 0xd9) ?_ ?_ (fun _ => rfl) (fun _ => rfl) h rest
      · intro n hn rest
        have hmarker := toNat_fix (show 0xa0 + n < 256 by omega)
        rw [readHead_marker, hmarker, if_neg (by omega), if_neg (by omega), if_neg (by omega),
          if_pos (by omega), Nat.add_sub_cancel_left]
      · rintro m ⟨⟩ rest
        rfl
  | binary n =>
      refine readHead_writeLength .binary (some 0xc4) ?_ ?_ (fun _ => rfl) (fun _ => rfl) h rest
      · exact fun n hn => absurd hn (Nat.not_lt_zero n)
      · rintro m ⟨⟩ rest
        rfl
  | array n =>
      refine readHead_writeLength .array none ?_ ?_ (fun _ => rfl) (fun _ => rfl) h rest
      · intro n hn rest
        have hmarker := toNat_fix (show 0x90 + n < 256 by omega)
        rw [readHead_marker, hmarker, if_neg (by omega), if_neg (by omega), if_pos (by omega),
          Nat.add_sub_cancel_left]
      · exact fun m hm => absurd hm (Option.not_mem_none m)
  | map n =>
      refine readHead_writeLength .map none ?_ ?_ (fun _ => rfl) (fun _ => rfl) h rest
      · intro n hn rest
        have hmarker := toNat_fix (show 0x80 + n < 256 by omega)
        rw [readHead_marker, hmarker, if_neg (by omega), if_pos (by omega),
          Nat.add_sub_cancel_left]
      · exact fun m hm => absurd hm (Option.not_mem_none m)
  | ext type n => exact readHead_writeExt type h rest

/-! ### Reading back a value -/

theorem Head.length_write_pos (head : Head) : 0 < head.write.length := by
  cases head with
  | nil => exact Nat.one_pos
  | boolean value => exact Nat.one_pos
  | integer value =>
      show 0 < (writeInteger value).length
      unfold writeInteger
      split_ifs <;> simp [marked]
  | f32 bits => exact Nat.succ_pos _
  | f64 bits => exact Nat.succ_pos _
  | string n | binary n | array n | map n =>
      simp only [Head.write, writeLength]
      split
      · exact Nat.one_pos
      · split
        · exact Nat.succ_pos _
        · split <;> exact Nat.succ_pos _
  | ext type n =>
      simp only [Head.write, writeExt, List.length_append, List.length_singleton]
      omega

namespace Value

/-- Every item takes a byte at least. -/
theorem length_le_writeItems (items : List Value) :
    items.length ≤ (writeItems items).length := by
  induction items with
  | nil => exact Nat.le_refl 0
  | cons item rest ih =>
      have hpos := item.head.length_write_pos
      simp only [writeItems, List.length_append, List.length_cons]
      omega

theorem length_le_writeEntries (entries : List (Value × Value)) :
    entries.length ≤ (writeEntries entries).length := by
  induction entries with
  | nil => exact Nat.le_refl 0
  | cons entry rest ih =>
      have hpos := entry.1.head.length_write_pos
      simp only [writeEntries, List.length_append, List.length_cons]
      omega

/-- What is announced by a length is not shorter than it. -/
theorem head_fits {value : Value} (h : value.write.length < 2 ^ 32) : value.head.Fits := by
  simp only [write, List.length_append] at h
  cases value with
  | string value =>
      simp only [body] at h
      simp only [head, Head.Fits]
      omega
  | binary bytes =>
      simp only [body] at h
      simp only [head, Head.Fits]
      omega
  | array items =>
      have hitems := length_le_writeItems items
      simp only [body] at h
      simp only [head, Head.Fits]
      omega
  | map entries =>
      have hentries := length_le_writeEntries entries
      simp only [body] at h
      simp only [head, Head.Fits]
      omega
  | ext type bytes =>
      simp only [body] at h
      simp only [head, Head.Fits]
      omega
  | _ => trivial

end Value

theorem readBytes_append (bytes rest : List UInt8) :
    readBytes bytes.length (bytes ++ rest) = some (bytes, rest) := by
  unfold readBytes
  rw [if_neg (by simp), List.take_left, List.drop_left]

theorem Utf8String.ofBytes_bytes (value : Utf8String) : ofBytes value.bytes = value := by
  unfold ofBytes
  cases value with
  | valid text =>
      have hread : String.fromUTF8? ⟨(Utf8String.valid text).bytes.toArray⟩ = some text := by
        have hvalid : (⟨text.toByteArray.data⟩ : ByteArray).IsValidUTF8 := text.isValidUTF8
        simp only [bytes, String.toUTF8_eq_toByteArray, Array.toArray_toList, String.fromUTF8?,
          dif_pos hvalid]
        rfl
      split
      · rename_i read hsome
        rw [hread] at hsome
        rw [Option.some.inj hsome]
      · rename_i hnone
        rw [hread] at hnone
        simp at hnone
  | invalid bytes hinvalid =>
      have hread : String.fromUTF8? ⟨(Utf8String.invalid bytes hinvalid).bytes.toArray⟩ = none := by
        simp only [Utf8String.bytes, Array.toArray_toList, String.fromUTF8?]
        exact dif_neg hinvalid
      split
      · rename_i read hsome
        rw [hread] at hsome
        simp at hsome
      · simp [Utf8String.bytes]

/-- What reads the inside of a container. -/
def readInside : Nat → Option (List UInt8 → Option (Value × List UInt8))
  | 0 => none
  | depth + 1 => some (read depth)

/-- The head of a value is read back; then comes its body. -/
theorem read_append {value : Value} (h : value.write.length < 2 ^ 32) (depth : Nat)
    (rest : List UInt8) :
    read depth (value.write ++ rest) = readBody (readInside depth) (value.body ++ rest) value.head := by
  have hhead := readHead_write (Value.head_fits h) (value.body ++ rest)
  rw [Value.write, List.append_assoc]
  cases depth with
  | zero => simp [read, readInside, hhead]
  | succ depth => simp [read, readInside, hhead]

mutual

/-- **A value is read back, and what stands behind it is left over.** -/
theorem read_write : ∀ (value : Value) {depth : Nat}, value.depth ≤ depth →
    value.write.length < 2 ^ 32 → ∀ rest, read depth (value.write ++ rest) = some (value, rest)
  | .array items, 0, hdepth, _, _ => by simp [Value.depth] at hdepth
  | .array items, depth + 1, hdepth, hlength, rest => by
    have hitems : Value.itemsDepth items ≤ depth := by
      simp only [Value.depth] at hdepth
      omega
    have hbody : (Value.writeItems items).length < 2 ^ 32 := by
      simp only [Value.write, Value.body, List.length_append] at hlength
      omega
    rw [read_append hlength]
    simp [readBody, readInside, Value.head, Value.body, readMany_writeItems items hitems hbody rest]
  | .map entries, 0, hdepth, _, _ => by simp [Value.depth] at hdepth
  | .map entries, depth + 1, hdepth, hlength, rest => by
    have hentries : Value.entriesDepth entries ≤ depth := by
      simp only [Value.depth] at hdepth
      omega
    have hbody : (Value.writeEntries entries).length < 2 ^ 32 := by
      simp only [Value.write, Value.body, List.length_append] at hlength
      omega
    rw [read_append hlength]
    simp [readBody, readInside, Value.head, Value.body, readMany_writeEntries entries hentries hbody rest]
  | .string value, _, _, hlength, rest => by
    rw [read_append hlength]
    simp [readBody, Value.head, Value.body, readBytes_append, Utf8String.ofBytes_bytes]
  | .binary bytes, _, _, hlength, rest => by
    rw [read_append hlength]
    simp [readBody, Value.head, Value.body, readBytes_append]
  | .ext type bytes, _, _, hlength, rest => by
    rw [read_append hlength]
    simp [readBody, Value.head, Value.body, readBytes_append]
  | .nil, _, _, hlength, rest => by
    rw [read_append hlength]
    simp [readBody, Value.head, Value.body]
  | .boolean value, _, _, hlength, rest => by
    rw [read_append hlength]
    simp [readBody, Value.head, Value.body]
  | .integer value, _, _, hlength, rest => by
    rw [read_append hlength]
    simp [readBody, Value.head, Value.body]
  | .f32 bits, _, _, hlength, rest => by
    rw [read_append hlength]
    simp [readBody, Value.head, Value.body]
  | .f64 bits, _, _, hlength, rest => by
    rw [read_append hlength]
    simp [readBody, Value.head, Value.body]

theorem readMany_writeItems : ∀ (items : List Value) {depth : Nat},
    Value.itemsDepth items ≤ depth → (Value.writeItems items).length < 2 ^ 32 → ∀ rest,
      readMany (read depth) items.length (Value.writeItems items ++ rest) = some (items, rest)
  | [], _, _, _, _ => rfl
  | item :: items, depth, hdepth, hlength, rest => by
    simp only [Value.itemsDepth] at hdepth
    simp only [Value.writeItems, List.length_append] at hlength
    have hitem : item.write.length < 2 ^ 32 := by
      rw [Value.write, List.length_append]
      omega
    have hfirst := read_write item (show item.depth ≤ depth by omega) hitem
      (Value.writeItems items ++ rest)
    have hrest := readMany_writeItems items (show Value.itemsDepth items ≤ depth by omega)
      (by omega) rest
    rw [Value.write] at hfirst
    simp only [Value.writeItems, List.length_cons, readMany, List.append_assoc] at hfirst ⊢
    rw [hfirst]
    simp [hrest]

theorem readMany_writeEntries : ∀ (entries : List (Value × Value)) {depth : Nat},
    Value.entriesDepth entries ≤ depth → (Value.writeEntries entries).length < 2 ^ 32 → ∀ rest,
      readMany (readPair (read depth)) entries.length (Value.writeEntries entries ++ rest)
        = some (entries, rest)
  | [], _, _, _, _ => rfl
  | (key, value) :: entries, depth, hdepth, hlength, rest => by
    simp only [Value.entriesDepth] at hdepth
    simp only [Value.writeEntries, List.length_append] at hlength
    have hkeyLength : key.write.length < 2 ^ 32 := by
      rw [Value.write, List.length_append]
      omega
    have hvalueLength : value.write.length < 2 ^ 32 := by
      rw [Value.write, List.length_append]
      omega
    have hkey := read_write key (show key.depth ≤ depth by omega) hkeyLength
      (value.head.write ++ value.body ++ (Value.writeEntries entries ++ rest))
    have hvalue := read_write value (show value.depth ≤ depth by omega) hvalueLength
      (Value.writeEntries entries ++ rest)
    have hrest := readMany_writeEntries entries (show Value.entriesDepth entries ≤ depth by omega)
      (by omega) rest
    rw [Value.write] at hkey hvalue
    simp only [Value.writeEntries, List.length_cons, readMany, readPair, List.append_assoc]
      at hkey hvalue ⊢
    rw [hkey]
    simp [hvalue, hrest]

end

end MessagePack
