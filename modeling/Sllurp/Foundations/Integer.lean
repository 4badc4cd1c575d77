/-
# Integers as text

An integer is written with a sign, the prefix of its base and digits, with single
underscores between them and blanks around the whole. Digits and blanks outside
ASCII count as those of ASCII; which characters these are is a matter of the
Unicode database, which is a parameter.
-/

import Sllurp.Foundations.Numeral
import Mathlib.Data.List.Basic
import Mathlib.Data.List.TakeWhile

namespace Sllurp.Foundations.Integer

open Sllurp.Foundations.Numeral

/-! ## Characters -/

/-- The value of a digit or a letter in some base. -/
def digitValue (base : ℕ) (digit : Char) : Option ℕ :=
  (if '0' ≤ digit ∧ digit ≤ '9' then some (digit.toNat - '0'.toNat)
  else if 'a' ≤ digit ∧ digit ≤ 'z' then some (digit.toNat - 'a'.toNat + 10)
  else if 'A' ≤ digit ∧ digit ≤ 'Z' then some (digit.toNat - 'A'.toNat + 10)
  else none).filter (· < base)

/-- What the Unicode database says of the characters outside ASCII. -/
structure Unicode where
  decimal : Char → Option ℕ
  isSpace : Char → Bool

/-- Replace a digit or a blank by that of ASCII. What is neither spoils the
text. -/
def Unicode.toAscii (unicode : Unicode) (char : Char) : Char :=
  if char.toNat < 127 then char
  else if unicode.isSpace char then ' '
  else
    match unicode.decimal char with
    | some digit => Nat.digitChar digit
    | none => '?'

/-- The blanks of ASCII. -/
def isBlank (char : Char) : Bool := char.toNat ∈ [9, 10, 11, 12, 13, 32]

/-! ## Reading -/

/-- The letter of the prefix that a base may have. -/
def prefixLetter (base : ℕ) (letter : Char) : Bool :=
  (base = 16 && (letter = 'x' || letter = 'X')) || (base = 8 && (letter = 'o' || letter = 'O')) ||
    (base = 2 && (letter = 'b' || letter = 'B'))

/-- Skip the prefix of the base, and one underscore behind it. -/
def dropPrefix (base : ℕ) : List Char → List Char
  | '0' :: letter :: digits =>
    if prefixLetter base letter then
      match digits with
      | '_' :: digits => digits
      | digits => digits
    else '0' :: letter :: digits
  | digits => digits

/-- Whether a character may be part of the digits. -/
def isPart (base : ℕ) (char : Char) : Bool := char = '_' || (digitValue base char).isSome

/-- Read digits with single underscores between them, and blanks behind. -/
def readDigits (base : ℕ) (text : List Char) : Option ℕ :=
  let part := text.takeWhile (isPart base)
  if part.isEmpty || part.head? = some '_' || part.getLast? = some '_' ||
      (part.zip part.tail).any (· = ('_', '_')) || !(text.dropWhile (isPart base)).all isBlank then
    none
  else some (value base (part.filterMap (digitValue base)))

/-- Read an integer in a base. -/
def read (unicode : Unicode) (base : ℕ) (text : List Char) : Option ℤ :=
  match (text.map unicode.toAscii).dropWhile isBlank with
  | '-' :: digits => (readDigits base (dropPrefix base digits)).map fun number => -number
  | '+' :: digits => (readDigits base (dropPrefix base digits)).map Nat.cast
  | digits => (readDigits base (dropPrefix base digits)).map Nat.cast

/-! ## Plain digits -/

variable {base : ℕ}

theorem digitValue_lt {digit : Char} {number : ℕ} (hdigit : digitValue base digit = some number) :
    number < base := by
  unfold digitValue at hdigit
  exact of_decide_eq_true (Option.filter_eq_some_iff.mp hdigit).2

/-- Digits are digits and letters of ASCII. -/
theorem toNat_of_digit {digit : Char} (hdigit : (digitValue base digit).isSome = true) :
    (48 ≤ digit.toNat ∧ digit.toNat ≤ 57) ∨ (97 ≤ digit.toNat ∧ digit.toNat ≤ 122) ∨
      (65 ≤ digit.toNat ∧ digit.toNat ≤ 90) := by
  simp only [digitValue, Char.le_def, UInt32.le_iff_toNat_le] at hdigit
  split at hdigit
  · rename_i hrange
    exact .inl hrange
  · split at hdigit
    · rename_i hrange
      exact .inr (.inl hrange)
    · split at hdigit
      · rename_i hrange
        exact .inr (.inr hrange)
      · cases hdigit

/-- A printed digit is read as itself. -/
theorem digitValue_digitChar (hbase : base ≤ 16) {digit : ℕ} (hdigit : digit < base) :
    digitValue base (Nat.digitChar digit) = some digit := by
  have hread : ∀ digit < 16, digitValue 36 (Nat.digitChar digit) = some digit := by decide
  have hvalue := hread digit (by omega)
  unfold digitValue at hvalue ⊢
  obtain ⟨hraw, -⟩ := Option.filter_eq_some_iff.mp hvalue
  exact Option.filter_eq_some_iff.mpr ⟨hraw, decide_eq_true hdigit⟩

/-- A digit below ten is the one that is printed for its value. -/
theorem eq_digitChar {digit : Char} {number : ℕ} (hdigit : digitValue base digit = some number)
    (hsmall : number < 10) : digit = Nat.digitChar number := by
  have hrange := toNat_of_digit (Option.isSome_of_eq_some hdigit)
  have hvalue : digit.toNat = 48 + number := by
    unfold digitValue at hdigit
    obtain ⟨hraw, -⟩ := Option.filter_eq_some_iff.mp hdigit
    split at hraw
    · cases hraw
      change digit.toNat = 48 + (digit.toNat - 48)
      rename_i hfirst
      have hlow : 48 ≤ digit.toNat := UInt32.le_iff_toNat_le.mp (Char.le_def.mp hfirst.1)
      omega
    · split at hraw
      · cases hraw
        omega
      · split at hraw
        · cases hraw
          omega
        · cases hraw
  apply Char.toNat_inj.mp
  rw [hvalue, Nat.toNat_digitChar_of_lt_ten hsmall, Nat.add_comm]

/-- A digit is read as it is. -/
theorem toAscii_of_digit (unicode : Unicode) {digit : Char}
    (hdigit : (digitValue base digit).isSome = true) : unicode.toAscii digit = digit := by
  have hrange := toNat_of_digit hdigit
  exact if_pos (by omega)

theorem ne_of_digit {digit : Char} (hdigit : (digitValue base digit).isSome = true) {other : Char}
    (hother : other.toNat < 48 ∨ other.toNat = 95) : digit ≠ other := by
  rintro rfl
  have hrange := toNat_of_digit hdigit
  omega

/-- The letter of a prefix is no digit of its base. -/
theorem prefixLetter_of_digit {digit : Char} (hdigit : (digitValue base digit).isSome = true) :
    prefixLetter base digit = false := by
  rw [← Bool.not_eq_true]
  intro hletter
  simp only [prefixLetter, Bool.or_eq_true, Bool.and_eq_true, decide_eq_true_eq] at hletter
  rcases hletter with (⟨rfl, rfl | rfl⟩ | ⟨rfl, rfl | rfl⟩) | ⟨rfl, rfl | rfl⟩ <;>
    exact absurd hdigit (by decide)

/-- Digits alone are read as the number they stand for. -/
theorem readDigits_of_digits {text : List Char} (hnonempty : text ≠ [])
    (hdigits : ∀ digit ∈ text, (digitValue base digit).isSome = true) :
    readDigits base text = some (value base (text.filterMap (digitValue base))) := by
  have hpart : ∀ digit ∈ text, isPart base digit = true := fun digit hmem => by
    rw [isPart, hdigits digit hmem, Bool.or_true]
  have hunderscore : '_' ∉ text := fun hmem =>
    ne_of_digit (hdigits '_' hmem) (.inr rfl) rfl
  have hhead : text.head? ≠ some '_' := fun hhead =>
    hunderscore (List.mem_of_head? hhead)
  have hlast : text.getLast? ≠ some '_' := fun hlast =>
    hunderscore (List.mem_of_getLast? hlast)
  have hpairs : (text.zip text.tail).any (· = ('_', '_')) = false := by
    rw [List.any_eq_false]
    intro pair hmem hpair
    rw [of_decide_eq_true hpair] at hmem
    exact hunderscore (List.of_mem_zip hmem).1
  unfold readDigits
  rw [List.takeWhile_eq_self_iff.mpr hpart, List.dropWhile_eq_nil_iff.mpr hpart]
  simp [hnonempty, hhead, hlast, hpairs]

theorem dropPrefix_of_digits {text : List Char}
    (hdigits : ∀ digit ∈ text, (digitValue base digit).isSome = true) :
    dropPrefix base text = text := by
  unfold dropPrefix
  split
  · rename_i letter digits
    have hletter := prefixLetter_of_digit
      (hdigits letter (List.mem_cons_of_mem _ (List.mem_cons_self ..)))
    rw [hletter, if_neg Bool.false_ne_true]
  · rfl

/-- A text of digits alone is an integer. -/
theorem read_of_digits (unicode : Unicode) {text : List Char} (hnonempty : text ≠ [])
    (hdigits : ∀ digit ∈ text, (digitValue base digit).isSome = true) :
    read unicode base text = some (value base (text.filterMap (digitValue base)) : ℤ) := by
  have hascii : text.map unicode.toAscii = text := by
    rw [List.map_congr_left fun digit hmem => toAscii_of_digit unicode (hdigits digit hmem)]
    exact List.map_id _
  cases text with
  | nil => exact absurd rfl hnonempty
  | cons first rest =>
    have hfirst := hdigits first (List.mem_cons_self ..)
    have hblank : isBlank first = false := by
      have hrange := toNat_of_digit hfirst
      simp only [isBlank, List.mem_cons, List.not_mem_nil, or_false, decide_eq_false_iff_not]
      omega
    unfold read
    rw [hascii, List.dropWhile_cons_of_neg (by simp [hblank])]
    split
    · rename_i hminus
      cases hminus
      exact absurd rfl (ne_of_digit hfirst (.inl (by decide)))
    · rename_i hplus
      cases hplus
      exact absurd rfl (ne_of_digit hfirst (.inl (by decide)))
    · rw [dropPrefix_of_digits hdigits, readDigits_of_digits hnonempty hdigits]
      rfl

/-- What is printed in a base is read as the number. -/
theorem read_numeral (unicode : Unicode) (hbase : 1 < base) (hsmall : base ≤ 16) {width : ℕ}
    (hwidth : 0 < width) (number : ℕ) :
    read unicode base ((numeral base width number).map Nat.digitChar) =
      some ((number % base ^ width : ℕ) : ℤ) := by
  have hdigit : ∀ digit ∈ numeral base width number,
      digitValue base (Nat.digitChar digit) = some digit := fun digit hmem =>
    digitValue_digitChar hsmall (lt_of_mem_numeral (Nat.zero_lt_of_lt hbase) hmem)
  have hvalues : ((numeral base width number).map Nat.digitChar).filterMap (digitValue base) =
      numeral base width number := by
    rw [List.filterMap_map]
    exact (List.filterMap_congr hdigit).trans List.filterMap_some
  rw [read_of_digits, hvalues, value_numeral]
  · intro hnil
    have hlength := congrArg List.length hnil
    rw [List.length_map, length_numeral] at hlength
    exact hwidth.ne' hlength
  · intro digit hmem
    obtain ⟨number, hnumber, rfl⟩ := List.mem_map.mp hmem
    rw [hdigit number hnumber]
    rfl

/-! ## How large a number can be -/

theorem length_dropPrefix_le (text : List Char) : (dropPrefix base text).length ≤ text.length := by
  unfold dropPrefix
  split
  · split
    · split <;> simp only [List.length_cons] <;> omega
    · exact le_rfl
  · exact le_rfl

/-- A text has at most as many digits as characters. -/
theorem readDigits_lt (hbase : 0 < base) {text : List Char} {number : ℕ}
    (hread : readDigits base text = some number) : number < base ^ text.length := by
  unfold readDigits at hread
  dsimp only at hread
  split at hread
  · cases hread
  · cases hread
    refine lt_of_lt_of_le (value_lt fun digit hmem => ?_) (Nat.pow_le_pow_right hbase ?_)
    · obtain ⟨char, -, hchar⟩ := List.mem_filterMap.mp hmem
      exact digitValue_lt hchar
    · exact (List.length_filterMap_le _ _).trans (List.takeWhile_sublist _).length_le

/-- A text that starts with a digit is read as a natural number. -/
theorem read_lt (unicode : Unicode) (hbase : 0 < base) {first : Char} {rest : List Char}
    (hfirst : (digitValue base first).isSome = true) {integer : ℤ}
    (hread : read unicode base (first :: rest) = some integer) :
    ∃ number : ℕ, integer = number ∧ number < base ^ (rest.length + 1) := by
  have hrange := toNat_of_digit hfirst
  have hblank : isBlank first = false := by
    simp only [isBlank, List.mem_cons, List.not_mem_nil, or_false, decide_eq_false_iff_not]
    omega
  unfold read at hread
  rw [List.map_cons, toAscii_of_digit unicode hfirst,
    List.dropWhile_cons_of_neg (by simp [hblank])] at hread
  split at hread
  · rename_i hminus
    cases hminus
    exact absurd rfl (ne_of_digit hfirst (.inl (by decide)))
  · rename_i hplus
    cases hplus
    exact absurd rfl (ne_of_digit hfirst (.inl (by decide)))
  · obtain ⟨number, hnumber, rfl⟩ := Option.map_eq_some_iff.mp hread
    refine ⟨number, rfl, lt_of_lt_of_le (readDigits_lt hbase hnumber)
      (Nat.pow_le_pow_right hbase ?_)⟩
    refine (length_dropPrefix_le _).trans ?_
    rw [List.length_cons, List.length_map]

end Sllurp.Foundations.Integer
