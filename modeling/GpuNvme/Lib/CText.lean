import Mathlib.Data.List.Basic
import Mathlib.Data.Nat.Init
import Mathlib.Algebra.Group.Nat.Defs

/-!
# Text as the C library reads it

Hexadecimal numbers as `strtoull` and the conversion `%llx` of `sscanf` read
them, lines as `fgets` reads them, and numbers as `%0*llx` writes them.  What
is written reads back.
-/

namespace GpuNvme.Lib.CText

/-! ## Characters -/

/-- `isspace`. -/
def isSpace (c : Char) : Bool :=
  c = ' ' || 9 ≤ c.toNat && c.toNat ≤ 13

/-- The value of a hexadecimal digit. -/
def hexValue (c : Char) : Option Nat :=
  if 48 ≤ c.toNat ∧ c.toNat ≤ 57 then some (c.toNat - 48)
  else if 97 ≤ c.toNat ∧ c.toNat ≤ 102 then some (c.toNat - 87)
  else if 65 ≤ c.toNat ∧ c.toNat ≤ 70 then some (c.toNat - 55)
  else none

/-- The digit of a value below 16. -/
def hexChar (value : Nat) : Char :=
  if value < 10 then Char.ofNat (48 + value) else Char.ofNat (87 + value)

theorem hexValue_hexChar {value : Nat} (small : value < 16) :
    hexValue (hexChar value) = some value := by
  have all : ∀ value : Fin 16, hexValue (hexChar value) = some value.val := by
    decide
  exact all ⟨value, small⟩

theorem hexChar_ne_newline {value : Nat} (small : value < 16) :
    hexChar value ≠ '\n' := by
  have all : ∀ value : Fin 16, hexChar value ≠ '\n' := by
    decide
  exact all ⟨value, small⟩

/-- The text does not go on with a digit. -/
def EndsDigits (text : List Char) : Prop :=
  ∀ c rest, text = c :: rest → hexValue c = none

theorem endsDigits_cons {c : Char} {rest : List Char}
    (other : hexValue c = none) : EndsDigits (c :: rest) := by
  intro first more same
  rw [(List.cons.inj same).1] at other
  exact other

/-! ## Reading numbers -/

/-- The leading hexadecimal digits, and what follows them. -/
def takeHex : List Char → List Nat × List Char
  | [] => ([], [])
  | c :: rest =>
      match hexValue c with
      | some value => (value :: (takeHex rest).1, (takeHex rest).2)
      | none => ([], c :: rest)

theorem takeHex_of_endsDigits {text : List Char} (ends : EndsDigits text) :
    takeHex text = ([], text) := by
  cases text with
  | nil => rfl
  | cons c rest => simp [takeHex, ends c rest rfl]

/-- Digits are taken up to the first other character. -/
theorem takeHex_digits {values : List Nat}
    (small : ∀ value ∈ values, value < 16) {rest : List Char}
    (ends : EndsDigits rest) :
    takeHex (values.map hexChar ++ rest) = (values, rest) := by
  induction values with
  | nil => exact takeHex_of_endsDigits ends
  | cons value values induction =>
      obtain ⟨first, others⟩ := List.forall_mem_cons.mp small
      simp [takeHex, hexValue_hexChar first, induction others]

/-- The number with these digits, the highest first. -/
def ofDigits (values : List Nat) : Nat :=
  values.foldl (fun number value => 16 * number + value) 0

theorem ofDigits_append_singleton (values : List Nat) (value : Nat) :
    ofDigits (values ++ [value]) = 16 * ofDigits values + value := by
  simp [ofDigits]

/-- An optional sign: whether it is a minus, and what follows it. -/
def takeSign : List Char → Bool × List Char
  | '-' :: rest => (true, rest)
  | '+' :: rest => (false, rest)
  | text => (false, text)

/-- An optional `0x`. -/
def dropPrefix : List Char → List Char
  | '0' :: 'x' :: rest => rest
  | '0' :: 'X' :: rest => rest
  | text => text

/-- The result of a conversion; what is too large is `ULLONG_MAX`. -/
def toUllong (negative : Bool) (number : Nat) : BitVec 64 :=
  if 2 ^ 64 ≤ number then BitVec.allOnes 64
  else if negative then -BitVec.ofNat 64 number
  else BitVec.ofNat 64 number

/-- `%llx`: the number, and what follows it. -/
def scanHex (text : List Char) : Option (BitVec 64 × List Char) :=
  let signed := takeSign (text.dropWhile isSpace)
  let taken := takeHex (dropPrefix signed.2)
  if taken.1 = [] then none
  else some (toUllong signed.1 (ofDigits taken.1), taken.2)

/-- `strtoull` in base 16, which is 0 where there is no number. -/
def strtoull16 (text : List Char) : BitVec 64 :=
  ((scanHex text).map Prod.fst).getD 0

/-- Characters of a format that stand for themselves. -/
def literal (expected text : List Char) : Option (List Char) :=
  if expected.isPrefixOf text then some (text.drop expected.length) else none

theorem literal_append (expected rest : List Char) :
    literal expected (expected ++ rest) = some rest := by
  have starts : expected.isPrefixOf (expected ++ rest) = true :=
    List.isPrefixOf_iff_prefix.mpr (List.prefix_append _ _)
  simp [literal, starts]

/-! ## Writing numbers -/

/-- The digits of a number, as many as the width. -/
def nibbles : Nat → Nat → List Nat
  | 0, _ => []
  | width + 1, number => nibbles width (number / 16) ++ [number % 16]

theorem nibbles_lt {width number : Nat} :
    ∀ value ∈ nibbles width number, value < 16 := by
  induction width generalizing number with
  | zero => exact List.forall_mem_nil _
  | succ width induction =>
      intro value among
      rw [nibbles, List.mem_append, List.mem_singleton] at among
      rcases among with earlier | rfl
      · exact induction value earlier
      · exact Nat.mod_lt _ (by decide)

@[simp]
theorem length_nibbles (width number : Nat) :
    (nibbles width number).length = width := by
  induction width generalizing number with
  | zero => rfl
  | succ width induction => simp [nibbles, induction]

/-- A number is made of as many digits as the width leaves it. -/
theorem ofDigits_nibbles (width number : Nat) :
    ofDigits (nibbles width number) = number % 16 ^ width := by
  induction width generalizing number with
  | zero => simp [nibbles, ofDigits, Nat.mod_one]
  | succ width induction =>
      rw [nibbles, ofDigits_append_singleton, induction, Nat.pow_succ,
        Nat.mul_comm (16 ^ width) 16, Nat.mod_mul]
      omega

/-- `0x%0*llx`. -/
def hexText (width number : Nat) : List Char :=
  '0' :: 'x' :: (nibbles width number).map hexChar

@[simp]
theorem length_hexText (width number : Nat) :
    (hexText width number).length = width + 2 := by
  simp [hexText]

theorem newline_notMem_hexText (width number : Nat) :
    '\n' ∉ hexText width number := by
  intro among
  simp only [hexText, List.mem_cons, List.mem_map] at among
  rcases among with zero | x | ⟨value, digit, same⟩
  · exact absurd zero (by decide)
  · exact absurd x (by decide)
  · exact hexChar_ne_newline (nibbles_lt value digit) same

/-- Digits that are taken from a text are read as their number. -/
theorem scanHex_of_digits {text rest : List Char} {width number : Nat}
    (positive : 0 < width) (fits : number < 16 ^ width) (narrow : width ≤ 16)
    (unsigned :
      takeSign (text.dropWhile isSpace) = (false, text.dropWhile isSpace))
    (digits :
      dropPrefix (text.dropWhile isSpace) =
        (nibbles width number).map hexChar ++ rest)
    (ends : EndsDigits rest) :
    scanHex text = some (BitVec.ofNat 64 number, rest) := by
  have below : number < 2 ^ 64 := by
    calc
      number < 16 ^ width := fits
      _ ≤ 16 ^ 16 := Nat.pow_le_pow_right (by decide) narrow
      _ = 2 ^ 64 := by decide
  have some_digit : nibbles width number ≠ [] := by
    rw [← List.length_pos_iff, length_nibbles]
    exact positive
  unfold scanHex
  simp only [unsigned, digits, takeHex_digits nibbles_lt ends, some_digit,
    if_false, ofDigits_nibbles, Nat.mod_eq_of_lt fits, toUllong,
    Nat.not_le.mpr below, Bool.false_eq_true]

/-- A written number reads back, after any space. -/
theorem scanHex_hexText {width number : Nat} (positive : 0 < width)
    (fits : number < 16 ^ width) (narrow : width ≤ 16) {space : List Char}
    (blank : ∀ c ∈ space, isSpace c = true) {rest : List Char}
    (ends : EndsDigits rest) :
    scanHex (space ++ hexText width number ++ rest) =
      some (BitVec.ofNat 64 number, rest) := by
  have skipped :
      (space ++ hexText width number ++ rest).dropWhile isSpace =
        hexText width number ++ rest := by
    rw [List.append_assoc, List.dropWhile_append_of_pos blank]
    rfl
  refine scanHex_of_digits positive fits narrow ?_ ?_ ends
  · rw [skipped]
    rfl
  · rw [skipped]
    rfl

/-- A digit is no space, no sign and no `x`. -/
theorem hexChar_plain {value : Nat} (small : value < 16) :
    isSpace (hexChar value) = false ∧ hexChar value ≠ '-' ∧
      hexChar value ≠ '+' ∧ hexChar value ≠ 'x' ∧ hexChar value ≠ 'X' := by
  have all : ∀ value : Fin 16,
      isSpace (hexChar value) = false ∧ hexChar value ≠ '-' ∧
        hexChar value ≠ '+' ∧ hexChar value ≠ 'x' ∧ hexChar value ≠ 'X' := by
    decide
  exact all ⟨value, small⟩

/-- The digits read back without their `0x`. -/
theorem scanHex_digits {width number : Nat} (two : 2 ≤ width)
    (fits : number < 16 ^ width) (narrow : width ≤ 16) {rest : List Char}
    (ends : EndsDigits rest) :
    scanHex ((nibbles width number).map hexChar ++ rest) =
      some (BitVec.ofNat 64 number, rest) := by
  refine scanHex_of_digits (Nat.lt_of_lt_of_le Nat.zero_lt_two two) fits narrow
    ?_ ?_ ends
  all_goals
    have small := @nibbles_lt width number
    have long : 2 ≤ (nibbles width number).length := by
      rwa [length_nibbles]
    generalize nibbles width number = values at small long
    obtain ⟨first, second, more, rfl⟩ :
        ∃ first second more, values = first :: second :: more := by
      match values, long with
      | first :: second :: more, _ => exact ⟨first, second, more, rfl⟩
    obtain ⟨unspaced, notMinus, notPlus, -, -⟩ :=
      hexChar_plain (small first (by simp))
    obtain ⟨-, -, -, notX, notUpperX⟩ :=
      hexChar_plain (small second (by simp))
    simp only [List.map_cons, List.cons_append,
      List.dropWhile_cons_of_neg (Bool.not_eq_true _ ▸ unspaced)]
  · simp [takeSign, notMinus, notPlus]
  · simp [dropPrefix, notX, notUpperX]

theorem strtoull16_hexText {width number : Nat} (positive : 0 < width)
    (fits : number < 16 ^ width) (narrow : width ≤ 16) {rest : List Char}
    (ends : EndsDigits rest) :
    strtoull16 (hexText width number ++ rest) = BitVec.ofNat 64 number := by
  have read := scanHex_hexText positive fits narrow (List.forall_mem_nil _) ends
  rw [List.nil_append] at read
  simp [strtoull16, read]

/-! ## Lines -/

/-- As many characters as there is room for, up to the end of the line. -/
def takeLine : Nat → List Char → List Char × List Char
  | 0, text => ([], text)
  | _ + 1, [] => ([], [])
  | room + 1, c :: rest =>
      if c = '\n' then ([c], rest)
      else (c :: (takeLine room rest).1, (takeLine room rest).2)

/-- `fgets` with a buffer of this size: the line, and the rest of the file. -/
def fgets (size : Nat) (text : List Char) : Option (List Char × List Char) :=
  if text = [] then none else some (takeLine (size - 1) text)

/-- A line that fits is read with its end. -/
theorem takeLine_line {room : Nat} {line rest : List Char}
    (oneLine : '\n' ∉ line) (fits : line.length < room) :
    takeLine room (line ++ '\n' :: rest) = (line ++ ['\n'], rest) := by
  induction line generalizing room with
  | nil =>
      obtain ⟨room, rfl⟩ := Nat.exists_eq_succ_of_ne_zero (Nat.ne_of_gt fits)
      simp [takeLine]
  | cons c line induction =>
      obtain ⟨room, rfl⟩ :=
        Nat.exists_eq_succ_of_ne_zero (Nat.ne_of_gt (Nat.zero_lt_of_lt fits))
      rw [List.mem_cons, not_or] at oneLine
      obtain ⟨other, others⟩ := oneLine
      have fewer : line.length < room := Nat.lt_of_succ_lt_succ fits
      simp [takeLine, Ne.symm other, induction others fewer]

theorem fgets_line {size : Nat} {line rest : List Char}
    (oneLine : '\n' ∉ line) (fits : line.length + 1 < size) :
    fgets size (line ++ '\n' :: rest) = some (line ++ ['\n'], rest) := by
  have nonempty : line ++ '\n' :: rest ≠ [] := by simp
  rw [fgets, if_neg nonempty, takeLine_line oneLine (by omega)]

end GpuNvme.Lib.CText
