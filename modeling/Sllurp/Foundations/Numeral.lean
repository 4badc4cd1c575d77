/-
# Numerals

A numeral of a fixed width is a list of digits in some base, the most significant
one first. Reading and writing undo each other, and a part of a numeral is the
numeral of a quotient. What Lean prints as a number, padded with zeros, is such a
numeral.
-/

import Mathlib.Algebra.Order.Ring.Nat
import Mathlib.Data.List.Induction
import Mathlib.Tactic.Ring

namespace Sllurp.Foundations.Numeral

variable {base : ℕ}

/-! ## Reading -/

/-- The number that digits stand for. -/
def value (base : ℕ) (digits : List ℕ) : ℕ :=
  digits.foldl (fun number digit => number * base + digit) 0

theorem value_concat (digits : List ℕ) (digit : ℕ) :
    value base (digits ++ [digit]) = value base digits * base + digit := by
  rw [value, List.foldl_append]
  rfl

theorem value_append (front back : List ℕ) :
    value base (front ++ back) = value base front * base ^ back.length + value base back := by
  induction back using List.reverseRecOn with
  | nil => simp [value]
  | append_singleton back digit ih =>
    rw [← List.append_assoc, value_concat, ih, value_concat, List.length_append,
      List.length_singleton, pow_succ]
    ring

theorem value_lt {digits : List ℕ} (hdigits : ∀ digit ∈ digits, digit < base) :
    value base digits < base ^ digits.length := by
  induction digits using List.reverseRecOn with
  | nil => exact Nat.one_pos
  | append_singleton digits digit ih =>
    have hfront := ih fun other hmem => hdigits other (List.mem_append_left _ hmem)
    have hlast := hdigits digit (List.mem_append_right _ (List.mem_singleton_self digit))
    rw [value_concat, List.length_append, List.length_singleton, pow_succ]
    calc value base digits * base + digit
        < value base digits * base + base := Nat.add_lt_add_left hlast _
      _ = (value base digits + 1) * base := by ring
      _ ≤ base ^ digits.length * base := Nat.mul_le_mul_right _ hfront

/-! ## Writing -/

/-- The last `width` digits of a number. -/
def numeral (base : ℕ) : ℕ → ℕ → List ℕ
  | 0, _ => []
  | width + 1, number => numeral base width (number / base) ++ [number % base]

@[simp]
theorem length_numeral (width number : ℕ) : (numeral base width number).length = width := by
  induction width generalizing number with
  | zero => rfl
  | succ width ih => rw [numeral, List.length_append, ih, List.length_singleton]

theorem lt_of_mem_numeral (hbase : 0 < base) {width number digit : ℕ}
    (hmem : digit ∈ numeral base width number) : digit < base := by
  induction width generalizing number with
  | zero => exact absurd hmem List.not_mem_nil
  | succ width ih =>
    rcases List.mem_append.mp hmem with hfront | hlast
    · exact ih hfront
    · rw [List.mem_singleton.mp hlast]
      exact Nat.mod_lt _ hbase

/-- What is written is read back, as far as it fits. -/
theorem value_numeral (width number : ℕ) :
    value base (numeral base width number) = number % base ^ width := by
  induction width generalizing number with
  | zero => rw [pow_zero, Nat.mod_one]; rfl
  | succ width ih =>
    rw [numeral, value_concat, ih, pow_succ', Nat.mod_mul]
    ring

/-- What is read is written back. -/
theorem numeral_value {digits : List ℕ} (hdigits : ∀ digit ∈ digits, digit < base) :
    numeral base digits.length (value base digits) = digits := by
  induction digits using List.reverseRecOn with
  | nil => rfl
  | append_singleton digits digit ih =>
    have hlast := hdigits digit (List.mem_append_right _ (List.mem_singleton_self digit))
    have hquotient : (value base digits * base + digit) / base = value base digits := by
      rw [Nat.add_comm, Nat.add_mul_div_right _ _ (Nat.zero_lt_of_lt hlast),
        Nat.div_eq_of_lt hlast, Nat.zero_add]
    have hrest : (value base digits * base + digit) % base = digit := by
      rw [Nat.add_comm, Nat.add_mul_mod_self_right, Nat.mod_eq_of_lt hlast]
    rw [List.length_append, List.length_singleton, numeral, value_concat, hquotient, hrest,
      ih fun other hmem => hdigits other (List.mem_append_left _ hmem)]

/-- Only the digits that fit count. -/
theorem numeral_mod (hbase : 0 < base) (width number : ℕ) :
    numeral base width (number % base ^ width) = numeral base width number := by
  have hwritten := @numeral_value base (numeral base width number)
    fun digit hmem => lt_of_mem_numeral hbase hmem
  rwa [length_numeral, value_numeral] at hwritten

/-! ## Parts -/

/-- A numeral is that of the quotient, and behind it that of the remainder. -/
theorem numeral_add (front back number : ℕ) :
    numeral base (front + back) number =
      numeral base front (number / base ^ back) ++ numeral base back number := by
  induction back generalizing number with
  | zero => rw [Nat.add_zero, pow_zero, Nat.div_one, numeral, List.append_nil]
  | succ back ih =>
    rw [← Nat.add_assoc, numeral, ih, numeral, Nat.div_div_eq_div_mul, pow_succ',
      List.append_assoc]

/-- The digits from one position to another. -/
theorem slice_numeral (front middle back number : ℕ) :
    ((numeral base (front + middle + back) number).take (front + middle)).drop front =
      numeral base middle (number / base ^ back) := by
  rw [numeral_add, List.take_left' (length_numeral _ _), numeral_add,
    List.drop_left' (length_numeral _ _)]

/-! ## Printed numbers -/

/-- `text.zfill(width)` for a text without a sign. -/
def zfill (width : ℕ) (text : List Char) : List Char :=
  List.replicate (width - text.length) '0' ++ text

theorem zfill_zfill {narrow wide : ℕ} (hwidth : narrow ≤ wide) (text : List Char) :
    zfill wide (zfill narrow text) = zfill wide text := by
  unfold zfill
  rw [List.length_append, List.length_replicate, ← List.append_assoc,
    List.replicate_append_replicate]
  congr 2
  omega

/-- A printed number, padded with zeros, is the numeral of that width. -/
theorem zfill_toDigits (hbase : 1 < base) {width number : ℕ} (hwidth : 0 < width)
    (hfits : number < base ^ width) :
    zfill width (Nat.toDigits base number) = (numeral base width number).map Nat.digitChar := by
  induction width generalizing number with
  | zero => exact absurd hwidth (Nat.lt_irrefl 0)
  | succ width ih =>
    rw [numeral, List.map_append, List.map_singleton]
    by_cases hsmall : number < base
    · have hzeros : ∀ width, (numeral base width 0).map Nat.digitChar =
          List.replicate width '0' := by
        intro width
        induction width with
        | zero => rfl
        | succ width ih =>
          rw [numeral, Nat.zero_div, Nat.zero_mod, List.map_append, ih, List.replicate_succ']
          rfl
      rw [Nat.toDigits_of_lt_base hsmall, Nat.div_eq_of_lt hsmall, Nat.mod_eq_of_lt hsmall, hzeros]
      rfl
    · have hlarge : base ≤ number := Nat.le_of_not_lt hsmall
      have hquotient : number / base < base ^ width := by
        rw [pow_succ] at hfits
        exact Nat.div_lt_of_lt_mul (by rwa [Nat.mul_comm])
      have hpositive : 0 < width := by
        rcases Nat.eq_zero_or_pos width with rfl | hpositive
        · rw [pow_zero, Nat.lt_one_iff] at hquotient
          exact absurd (Nat.div_eq_zero_iff.mp hquotient) (by omega)
        · exact hpositive
      rw [← ih hpositive hquotient, Nat.toDigits_of_base_le hbase hlarge]
      unfold zfill
      rw [List.length_append, List.length_singleton, Nat.add_sub_add_right, List.append_assoc]

end Sllurp.Foundations.Numeral
