/-
# GTIN check digits

The check digit of a GTIN fills the weighted sum of its digits up to a multiple of
ten. The weights alternate from the right, so they are assigned over the reversed
text.
-/

import Sllurp.Foundations.Integer
import Sllurp.Foundations.WeightedSum
import Sllurp.Protocol.Messages
import Mathlib.Data.Rat.Floor
import Mathlib.Data.ZMod.Basic

namespace Sllurp.Epc

open Sllurp.Foundations Sllurp.Foundations.Integer Sllurp.Protocol

/-- `int(text, base)`. -/
def int (unicode : Unicode) (base : ℕ) (text : List Char) : Except Exn ℤ :=
  match read unicode base text with
  | some number => .ok number
  | none =>
    .error (.valueError
      s!"invalid literal for int() with base {base}: '{String.ofList text}'")

/-- One round of the loop: add a digit, and three times every other one. -/
def addDigit (unicode : Unicode) : ℤ × ℕ → Char → Except Exn (ℤ × ℕ)
  | (total, count), char => do
    let digit ← int unicode 10 [char]
    let digit := if count % 2 = 0 then digit * 3 else digit
    .ok (total + digit, count + 1)

/-- The check digit of a GTIN or an SSCC. Dividing by ten is exact. -/
def calculateCheckDigit (unicode : Unicode) (gtin : String) : Except Exn ℤ := do
  let (total, _) ← gtin.toList.reverse.foldlM (addDigit unicode) (0, 0)
  let nearestMultipleOfTen := ⌈(total : ℚ) / 10⌉ * 10
  .ok (nearestMultipleOfTen - total)

/-- Append the check digit to a GTIN. -/
def combineGtinWithCheckDigit (unicode : Unicode) (gtin : String) : Except Exn String := do
  .ok (gtin ++ toString (← calculateCheckDigit unicode gtin))

/-! ## The weighted sum -/

/-- The text has nothing but the digits 0 to 9. -/
def Decimal (text : String) : Prop :=
  ∀ digit ∈ text.toList, (digitValue 10 digit).isSome = true

instance (text : String) : Decidable (Decimal text) :=
  decidable_of_iff (text.toList.all fun digit => (digitValue 10 digit).isSome) List.all_eq_true

/-- The values of the digits of a text. -/
def digitsOf (text : List Char) : List ℤ := (text.filterMap (digitValue 10)).map Nat.cast

theorem digitsOf_append (front back : List Char) :
    digitsOf (front ++ back) = digitsOf front ++ digitsOf back := by
  rw [digitsOf, List.filterMap_append, List.map_append, digitsOf, digitsOf]

theorem digitsOf_reverse (text : List Char) : digitsOf text.reverse = (digitsOf text).reverse := by
  rw [digitsOf, List.filterMap_reverse, List.map_reverse, digitsOf]

/-- The loop adds up the alternating sum. -/
theorem foldlM_addDigit (unicode : Unicode) {text : List Char}
    (hdigits : ∀ digit ∈ text, (digitValue 10 digit).isSome = true) (total : ℤ) (count : ℕ) :
    text.foldlM (addDigit unicode) (total, count) =
      .ok (total + if count % 2 = 0 then alternatingSum 3 1 (digitsOf text)
        else alternatingSum 1 3 (digitsOf text), count + text.length) := by
  induction text generalizing total count with
  | nil =>
    have hnone : digitsOf [] = [] := rfl
    have hzero : (if count % 2 = 0 then alternatingSum 3 1 ([] : List ℤ)
        else alternatingSum 1 3 []) = 0 := ite_self 0
    rw [hnone, hzero, Int.add_zero]
    rfl
  | cons char text ih =>
    obtain ⟨number, hnumber⟩ :=
      Option.isSome_iff_exists.mp (hdigits char (List.mem_cons_self ..))
    have hread : int unicode 10 [char] = .ok (number : ℤ) := by
      unfold int
      rw [read_of_digits unicode (List.cons_ne_nil _ _) fun digit hmem =>
        hdigits digit (List.mem_singleton.mp hmem ▸ List.mem_cons_self ..)]
      simp [hnumber, Numeral.value]
    have hcons : digitsOf (char :: text) = (number : ℤ) :: digitsOf text := by
      rw [digitsOf, List.filterMap_cons_some hnumber, List.map_cons, digitsOf]
    have hstep : addDigit unicode (total, count) char =
        .ok (total + if count % 2 = 0 then (number : ℤ) * 3 else number, count + 1) := by
      unfold addDigit
      dsimp only
      rw [hread]
      rfl
    rw [List.foldlM_cons, hstep]
    change text.foldlM (addDigit unicode) _ = _
    rw [ih fun digit hmem => hdigits digit (List.mem_cons_of_mem _ hmem), hcons, List.length_cons,
      alternatingSum, alternatingSum]
    rcases Nat.mod_two_eq_zero_or_one count with heven | hodd
    · rw [if_pos heven, if_neg (by omega), if_pos heven]
      congr 2
      · ring
      · omega
    · rw [if_neg (by omega), if_pos (by omega), if_neg (by omega)]
      congr 2
      · ring
      · omega

/-- The weighted sum that a text is given, without its check digit. -/
def weightedTotal (text : String) : ℤ := alternatingSum 3 1 (digitsOf text.toList).reverse

theorem calculateCheckDigit_of_decimal (unicode : Unicode) {gtin : String}
    (hdecimal : Decimal gtin) :
    calculateCheckDigit unicode gtin =
      .ok (⌈(weightedTotal gtin : ℚ) / 10⌉ * 10 - weightedTotal gtin) := by
  have hdigits : ∀ digit ∈ gtin.toList.reverse, (digitValue 10 digit).isSome = true :=
    fun digit hmem => hdecimal digit (List.mem_reverse.mp hmem)
  unfold calculateCheckDigit
  rw [foldlM_addDigit unicode hdigits, Nat.zero_mod, if_pos rfl, zero_add, digitsOf_reverse]
  rfl

/-- Rounding up to a multiple of ten adds less than ten. -/
theorem ceil_sub_bounds (total : ℤ) :
    0 ≤ ⌈(total : ℚ) / 10⌉ * 10 - total ∧ ⌈(total : ℚ) / 10⌉ * 10 - total ≤ 9 := by
  have hceil : ⌈(total : ℚ) / 10⌉ = -(-total / 10) := by
    exact_mod_cast Rat.ceil_intCast_div_natCast total 10
  rw [hceil]
  omega

/-! ## Single errors -/

/-- Both weights have inverses modulo ten. -/
theorem isLeftRegular_weights : IsLeftRegular (3 : ZMod 10) ∧ IsLeftRegular (1 : ZMod 10) := by
  constructor
  · intro first second hsame
    have hinverse : ∀ digit : ZMod 10, 7 * (3 * digit) = digit := by decide
    rw [← hinverse first, ← hinverse second]
    exact congrArg (7 * ·) hsame
  · intro first second hsame
    simpa using hsame

/-- Digits that are equal modulo ten are equal. -/
theorem digit_of_cast_eq {first second : Char} {one two : ℕ}
    (hfirst : digitValue 10 first = some one) (hsecond : digitValue 10 second = some two)
    (hsame : (one : ZMod 10) = two) : first = second := by
  have hone := digitValue_lt hfirst
  have htwo := digitValue_lt hsecond
  have hmod := (ZMod.natCast_eq_natCast_iff' one two 10).mp hsame
  have hvalue : one = two := by omega
  rw [eq_digitChar hfirst hone, eq_digitChar hsecond htwo, hvalue]

/-- Modulo ten the check digit makes up for the weighted sum. -/
theorem cast_checkDigit (total : ℤ) :
    ((⌈(total : ℚ) / 10⌉ * 10 - total : ℤ) : ZMod 10) = -(total : ZMod 10) := by
  have hten : (10 : ZMod 10) = 0 := by decide
  push_cast
  rw [hten, mul_zero, zero_sub]

theorem cast_weightedTotal (text : String) :
    (weightedTotal text : ZMod 10) =
      alternatingSum 3 1 ((digitsOf text.toList).reverse.map (Int.castRingHom (ZMod 10))) := by
  have hmap := map_alternatingSum (Int.castRingHom (ZMod 10)) 3 1 (digitsOf text.toList).reverse
  rw [map_ofNat, map_one] at hmap
  exact hmap

/-- For every text of decimal digits the check digit is a digit that makes the weighted
sum of the whole a multiple of ten; and texts of one length that differ in exactly one
place have different check digits. -/
theorem checkDigit_detects_errors (unicode : Unicode) :
    (∀ gtin : String, Decimal gtin → ∃ (digit : ℤ) (combined : String),
      0 ≤ digit ∧ digit ≤ 9 ∧ calculateCheckDigit unicode gtin = .ok digit ∧
      combineGtinWithCheckDigit unicode gtin = .ok combined ∧ Decimal combined ∧
      digitsOf combined.toList = digitsOf gtin.toList ++ [digit] ∧
      10 ∣ alternatingSum 1 3 (digitsOf combined.toList).reverse) ∧
    ∀ first second : String, Decimal first → Decimal second →
      first.toList.length = second.toList.length →
      (∃! position : ℕ, first.toList[position]? ≠ second.toList[position]?) →
      calculateCheckDigit unicode first ≠ calculateCheckDigit unicode second := by
  constructor
  · intro gtin hdecimal
    obtain ⟨hnonneg, hle⟩ := ceil_sub_bounds (weightedTotal gtin)
    have hdigit := calculateCheckDigit_of_decimal unicode hdecimal
    set digit := ⌈(weightedTotal gtin : ℚ) / 10⌉ * 10 - weightedTotal gtin with hdef
    have hprinted : ∀ digit : ℕ, digit ≤ 9 →
        (toString (digit : ℤ)).toList = [Nat.digitChar digit] ∧
          digitValue 10 (Nat.digitChar digit) = some digit := by decide
    obtain ⟨number, hnumber⟩ := Int.eq_ofNat_of_zero_le hnonneg
    obtain ⟨htext, hvalue⟩ := hprinted number (by omega)
    have hcombined : (gtin ++ toString digit).toList = gtin.toList ++ [Nat.digitChar number] := by
      rw [String.toList_append, hnumber, htext]
    have hdigits : digitsOf (gtin ++ toString digit).toList = digitsOf gtin.toList ++ [digit] := by
      rw [hcombined, digitsOf_append, hnumber]
      simp [digitsOf, hvalue]
    refine ⟨digit, gtin ++ toString digit, hnonneg, hle, hdigit, ?_, ?_, hdigits, ?_⟩
    · rw [combineGtinWithCheckDigit, hdigit]
      rfl
    · intro char hmem
      rw [hcombined, List.mem_append, List.mem_singleton] at hmem
      rcases hmem with hmem | rfl
      · exact hdecimal char hmem
      · rw [hvalue]
        rfl
    · rw [hdigits, List.reverse_append, List.reverse_singleton, List.singleton_append,
        alternatingSum, one_mul]
      change 10 ∣ digit + weightedTotal gtin
      rw [hdef]
      omega
  · intro first second hfirst hsecond hlength hdiffer hsame
    rw [calculateCheckDigit_of_decimal unicode hfirst,
      calculateCheckDigit_of_decimal unicode hsecond, Except.ok.injEq] at hsame
    have htotal : (weightedTotal first : ZMod 10) = weightedTotal second := by
      have hcast := congrArg (Int.cast : ℤ → ZMod 10) hsame
      rw [cast_checkDigit, cast_checkDigit] at hcast
      exact neg_injective hcast
    obtain ⟨front, back, one, two, hne, hone, htwo⟩ := exists_of_differ_once hlength hdiffer
    obtain ⟨value, hvalue⟩ := Option.isSome_iff_exists.mp
      (hfirst one (hone ▸ List.mem_append_right _ (List.mem_cons_self ..)))
    obtain ⟨value', hvalue'⟩ := Option.isSome_iff_exists.mp
      (hsecond two (htwo ▸ List.mem_append_right _ (List.mem_cons_self ..)))
    have hterms : ∀ (char : Char) (number : ℕ), digitValue 10 char = some number →
        (digitsOf (front ++ char :: back)).reverse.map (Int.castRingHom (ZMod 10)) =
          (digitsOf back).reverse.map (Int.castRingHom (ZMod 10)) ++ (number : ZMod 10) ::
            (digitsOf front).reverse.map (Int.castRingHom (ZMod 10)) := by
      intro char number hchar
      have hcons : digitsOf (char :: back) = (number : ℤ) :: digitsOf back := by
        rw [digitsOf, List.filterMap_cons_some hchar, List.map_cons, digitsOf]
      rw [digitsOf_append, hcons]
      simp
    rw [cast_weightedTotal, cast_weightedTotal, hone, htwo, hterms one value hvalue,
      hterms two value' hvalue'] at htotal
    refine alternatingSum_ne isLeftRegular_weights.1 isLeftRegular_weights.2 _ _ ?_ htotal
    exact fun hcast => hne (digit_of_cast_eq hvalue hvalue' hcast)

/-- The Unicode database of ASCII texts. -/
def asciiOnly : Unicode := ⟨fun _ => none, fun _ => false⟩

/-- A check digit, and that of the same GTIN with one wrong digit. -/
theorem checkDigit_detects_errors_gtin :
    (∃ digit combined, 0 ≤ digit ∧ digit ≤ 9 ∧
      calculateCheckDigit asciiOnly "0846632485751" = .ok digit ∧
      combineGtinWithCheckDigit asciiOnly "0846632485751" = .ok combined ∧ Decimal combined ∧
      digitsOf combined.toList = digitsOf "0846632485751".toList ++ [digit] ∧
      10 ∣ alternatingSum 1 3 (digitsOf combined.toList).reverse) ∧
    calculateCheckDigit asciiOnly "0846632485751" ≠
      calculateCheckDigit asciiOnly "0846637485751" := by
  have hfirst : Decimal "0846632485751" := by decide
  have hsecond : Decimal "0846637485751" := by decide
  refine ⟨(checkDigit_detects_errors asciiOnly).1 _ hfirst,
    (checkDigit_detects_errors asciiOnly).2 _ _ hfirst hsecond (by decide) ?_⟩
  refine ⟨6, by decide, fun position hdiffers => ?_⟩
  by_contra hother
  rcases Nat.lt_or_ge position 13 with hlt | hge
  · have hsame : ∀ position < 13, position ≠ 6 →
        "0846632485751".toList[position]? = "0846637485751".toList[position]? := by decide
    exact hdiffers (hsame position hlt hother)
  · have hfirst : "0846632485751".toList[position]? = none :=
      List.getElem?_eq_none (show "0846632485751".toList.length ≤ position from hge)
    have hsecond : "0846637485751".toList[position]? = none :=
      List.getElem?_eq_none (show "0846637485751".toList.length ≤ position from hge)
    exact hdiffers (hfirst.trans hsecond.symm)

end Sllurp.Epc
