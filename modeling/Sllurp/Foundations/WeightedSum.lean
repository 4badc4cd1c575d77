/-
# Alternating weighted sums

A sum that weights its terms with two factors in turn. If multiplication by both
is injective, a sum tells apart any two lists that differ in one place.
-/

import Mathlib.Algebra.Ring.Basic
import Mathlib.Data.List.Basic
import Mathlib.Tactic.Ring

namespace Sllurp.Foundations

variable {R : Type*} [CommRing R]

/-- The sum of the terms, the first one with the first weight, the next one with
the other, and so on. -/
def alternatingSum (weight other : R) : List R → R
  | [] => 0
  | term :: terms => weight * term + alternatingSum other weight terms

/-- The sum goes on with the weight that is due. -/
theorem alternatingSum_append (weight other : R) (front back : List R) :
    alternatingSum weight other (front ++ back) =
      alternatingSum weight other front +
        if front.length % 2 = 0 then alternatingSum weight other back
        else alternatingSum other weight back := by
  induction front generalizing weight other with
  | nil => simp [alternatingSum]
  | cons term terms ih =>
    rw [List.cons_append, alternatingSum, alternatingSum, ih, List.length_cons, add_assoc]
    rcases Nat.mod_two_eq_zero_or_one terms.length with heven | hodd
    · rw [if_pos heven, if_neg (by omega)]
    · rw [if_neg (by omega), if_pos (by omega)]

/-- Changing one term changes the sum. -/
theorem alternatingSum_ne {weight other : R} (hweight : IsLeftRegular weight)
    (hother : IsLeftRegular other) (front back : List R) {first second : R}
    (hne : first ≠ second) :
    alternatingSum weight other (front ++ first :: back) ≠
      alternatingSum weight other (front ++ second :: back) := by
  intro hsame
  rw [alternatingSum_append, alternatingSum_append] at hsame
  have hrest := add_left_cancel hsame
  split at hrest
  · exact hne (hweight (add_right_cancel hrest))
  · exact hne (hother (add_right_cancel hrest))

theorem map_alternatingSum {S : Type*} [CommRing S] (hom : R →+* S) (weight other : R)
    (terms : List R) :
    hom (alternatingSum weight other terms) =
      alternatingSum (hom weight) (hom other) (terms.map hom) := by
  induction terms generalizing weight other with
  | nil => exact hom.map_zero
  | cons term terms ih =>
    rw [alternatingSum, hom.map_add, hom.map_mul, ih, List.map_cons, alternatingSum]

/-- Lists of one length that differ in exactly one place have the same terms
before and behind it. -/
theorem exists_of_differ_once {α : Type*} {first second : List α}
    (hlength : first.length = second.length)
    (hdiffer : ∃! position : ℕ, first[position]? ≠ second[position]?) :
    ∃ front back one two, one ≠ two ∧ first = front ++ one :: back ∧
      second = front ++ two :: back := by
  obtain ⟨position, hne, hunique⟩ := hdiffer
  have hfirst : position < first.length := by
    by_contra hlarge
    rw [List.getElem?_eq_none (by omega), List.getElem?_eq_none (by omega)] at hne
    exact hne rfl
  have hsecond : position < second.length := hlength ▸ hfirst
  have hsame : ∀ other, other ≠ position → first[other]? = second[other]? := fun other hother =>
    not_not.mp fun hdiffers => hother (hunique other hdiffers)
  refine ⟨first.take position, first.drop (position + 1), first[position], second[position],
    ?_, ?_, ?_⟩
  · intro heq
    rw [List.getElem?_eq_getElem hfirst, List.getElem?_eq_getElem hsecond, heq] at hne
    exact hne rfl
  · rw [← List.drop_eq_getElem_cons hfirst, List.take_append_drop]
  · have hfront : first.take position = second.take position := by
      apply List.ext_getElem?
      intro other
      rw [List.getElem?_take, List.getElem?_take]
      split
      · rename_i hbefore
        exact hsame other hbefore.ne
      · rfl
    have hback : first.drop (position + 1) = second.drop (position + 1) := by
      apply List.ext_getElem?
      intro other
      rw [List.getElem?_drop, List.getElem?_drop]
      exact hsame _ (by omega)
    rw [hfront, hback, ← List.drop_eq_getElem_cons hsecond, List.take_append_drop]

end Sllurp.Foundations
