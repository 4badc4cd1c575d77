/-
# The latest of a list

A list that grows at its end is a record in the order of time, and its last
entries are the latest. A memory with room for some of them holds an end of the
record: what is added to both, or taken from both, leaves it one.
-/

import Mathlib.Data.List.DropRight
import Mathlib.Data.List.Nodup

namespace Sllurp.Foundations

variable {α : Type} {early late record memory : List α}

theorem rtake_suffix (count : ℕ) (record : List α) : record.rtake count <:+ record :=
  List.drop_suffix _ _

/-- An end of a list is its latest entries, as many as it has. -/
theorem eq_rtake_of_suffix (hsuffix : memory <:+ record) : memory = record.rtake memory.length :=
  List.suffix_iff_eq_drop.mp hsuffix

theorem length_rtake_le (count : ℕ) (record : List α) : (record.rtake count).length ≤ count := by
  rw [List.rtake, List.length_drop]
  omega

theorem rtake_of_length_le {count : ℕ} (hlength : record.length ≤ count) :
    record.rtake count = record := by
  rw [List.rtake, Nat.sub_eq_zero_of_le hlength, List.drop_zero]

/-- The latest of the latest are those that the smaller number admits. -/
theorem rtake_rtake (few many : ℕ) (record : List α) :
    (record.rtake many).rtake few = record.rtake (min few many) := by
  simp only [List.rtake, List.length_drop, List.drop_drop]
  congr 1
  omega

theorem rtake_subset_of_le {few many : ℕ} (hle : few ≤ many) (record : List α) :
    record.rtake few ⊆ record.rtake many := by
  have hlatest := rtake_rtake few many record
  rw [Nat.min_eq_left hle] at hlatest
  rw [← hlatest]
  exact (rtake_suffix _ _).subset

/-- The latest of a memory are what it has of the latest of the record. -/
theorem mem_rtake_of_suffix (hsuffix : memory <:+ record) (count : ℕ) (entry : α) :
    entry ∈ memory.rtake count ↔ entry ∈ memory ∧ entry ∈ record.rtake count := by
  rw [eq_rtake_of_suffix hsuffix, rtake_rtake]
  rcases Nat.le_total count memory.length with hfew | hmany
  · rw [Nat.min_eq_left hfew]
    constructor
    · intro hmem
      exact ⟨rtake_subset_of_le hfew record hmem, hmem⟩
    · exact And.right
  · rw [Nat.min_eq_right hmany]
    constructor
    · intro hmem
      exact ⟨hmem, rtake_subset_of_le hmany record hmem⟩
    · exact And.left

/-- What is old and has no room left has no room later either. -/
theorem rtake_append_rtake (count : ℕ) (early late : List α) :
    (early.rtake count ++ late).rtake count = (early ++ late).rtake count := by
  have hsuffix : early.rtake count ++ late <:+ early ++ late := by
    obtain ⟨older, hsplit⟩ := rtake_suffix count early
    exact ⟨older, by rw [← List.append_assoc, hsplit]⟩
  rw [eq_rtake_of_suffix hsuffix, rtake_rtake, List.length_append]
  rcases Nat.le_total early.length count with hshort | hlong
  · rw [rtake_of_length_le hshort, ← List.length_append]
    rcases Nat.le_total count (early ++ late).length with hfew | hmany
    · rw [Nat.min_eq_left hfew]
    · rw [Nat.min_eq_right hmany, rtake_of_length_le hmany, rtake_of_length_le le_rfl]
  · rw [Nat.min_eq_left]
    rw [List.rtake, List.length_drop]
    omega

variable [BEq α] [LawfulBEq α]

/-- Taking an entry out of the record takes it out of the memory. -/
theorem erase_suffix (hnodup : record.Nodup) (hsuffix : memory <:+ record) (entry : α) :
    memory.erase entry <:+ record.erase entry := by
  obtain ⟨older, rfl⟩ := hsuffix
  by_cases hold : entry ∈ older
  · have hkept : entry ∉ memory := fun hmem =>
      (List.nodup_append.mp hnodup).2.2 entry hold entry hmem rfl
    rw [List.erase_append_left _ hold, List.erase_of_not_mem hkept]
    exact List.suffix_append _ _
  · rw [List.erase_append_right _ hold]
    exact List.suffix_append _ _

end Sllurp.Foundations
