/-
# The order of a set of numbers

A set kept in an open hash table is iterated slot by slot, in an order that comes from
the numbers, from the order in which they were put in and from the sizes the table had.
Numbers hash to themselves. A search looks at a run of slots, and goes on from a slot
that the higher digits of the hash decide. Whatever the order, it has each number once.
-/

import Mathlib.Data.List.Perm.Basic
import Mathlib.Data.List.Nodup
import Mathlib.Data.List.ReduceOption
import Mathlib.Data.Nat.Log

namespace Sllurp.Foundations.HashOrder

/-- The slots of a table; their number is a power of two. -/
abbrev Table : Type := List (Option ℕ)

def minSize : ℕ := 8

def linearProbes : ℕ := 9

def perturbShift : ℕ := 5

def emptyTable (size : ℕ) : Table := List.replicate size none

/-- The numbers of a table in the order of its slots. -/
def entries (table : Table) : List ℕ := table.reduceOption

/-- The slots that a search looks at in one go: a run of them, unless the table ends
before it does. -/
def probes (table : Table) (slot : ℕ) : List ℕ :=
  if slot + linearProbes < table.length then List.range' slot (linearProbes + 1) else [slot]

/-- The first free slot that a search for a number comes to. -/
def search (table : Table) : ℕ → ℕ → ℕ → Option ℕ
  | 0, _, _ => none
  | fuel + 1, perturb, slot =>
    match (probes table slot).find? fun index => table[index]? = some none with
    | some index => some index
    | none =>
      let perturb := perturb >>> perturbShift
      search table fuel perturb ((slot * 5 + 1 + perturb) % table.length)

/-- Put a number into its slot. A table has a free slot, and the search comes to every
slot once nothing is left of the hash. -/
def place (table : Table) (number : ℕ) : Table :=
  match search table (number + table.length + 1) number (number % table.length) with
  | some index => table.set index (some number)
  | none => table ++ [some number]

def placeAll (table : Table) (numbers : List ℕ) : Table := numbers.foldl place table

/-- The size of a table for more than the given number of entries. -/
def sizeFor (count : ℕ) : ℕ := max minSize (1 <<< (Nat.log 2 count + 1))

/-- Move the entries to a new table. -/
def resize (table : Table) (count : ℕ) : Table :=
  placeAll (emptyTable (sizeFor count)) (entries table)

/-- Add a number. A table that is three fifths full grows. -/
def add (table : Table) (number : ℕ) : Table :=
  if number ∈ entries table then table
  else
    let added := place table number
    let used := (entries added).length
    if used * 5 < (added.length - 1) * 3 then added
    else resize added (if 50000 < used then used * 2 else used * 4)

/-- The table of a set that is built number by number. -/
def build (numbers : List ℕ) : Table := numbers.foldl add (emptyTable minSize)

/-- The table of a copy. It has the size that all entries need at once, and the same
slots if the size is the same. -/
def copy (table : Table) : Table :=
  let used := (entries table).length
  let fresh :=
    emptyTable (if used * 5 < (minSize - 1) * 3 then minSize else sizeFor (used * 2))
  if fresh.length = table.length then table else placeAll fresh (entries table)

/-! ## What is iterated -/

theorem entries_emptyTable (size : ℕ) : entries (emptyTable size) = [] := by
  unfold entries emptyTable
  induction size with
  | zero => rfl
  | succ size ih => rw [List.replicate_succ, List.reduceOption_cons_of_none, ih]

/-- The search ends at a free slot. -/
theorem free_of_search {table : Table} {fuel perturb slot index : ℕ}
    (hsearch : search table fuel perturb slot = some index) : table[index]? = some none := by
  induction fuel generalizing perturb slot with
  | zero => cases hsearch
  | succ fuel ih =>
    rw [search] at hsearch
    split at hsearch
    · rename_i hfound
      cases hsearch
      simpa using List.find?_some hfound
    · exact ih hsearch

/-- A number in a free slot is one entry more. -/
theorem entries_set {table : Table} {index : ℕ} (hfree : table[index]? = some none)
    (number : ℕ) : (entries (table.set index (some number))).Perm (number :: entries table) := by
  induction table generalizing index with
  | nil => cases hfree
  | cons first table ih =>
    cases index with
    | zero =>
      cases hfree
      exact .refl _
    | succ index =>
      have hrest : (entries (table.set index (some number))).Perm (number :: entries table) :=
        ih hfree
      cases first with
      | none => exact hrest
      | some other => exact (hrest.cons other).trans (.swap number other _)

theorem entries_place (table : Table) (number : ℕ) :
    (entries (place table number)).Perm (number :: entries table) := by
  unfold place
  split
  · rename_i hsearch
    exact entries_set (free_of_search hsearch) number
  · unfold entries
    rw [List.reduceOption_append]
    exact List.perm_append_singleton _ _

theorem entries_placeAll (table : Table) (numbers : List ℕ) :
    (entries (placeAll table numbers)).Perm (numbers ++ entries table) := by
  unfold placeAll
  induction numbers generalizing table with
  | nil => exact .refl _
  | cons number numbers ih =>
    have hplaced := (entries_place table number).append_left numbers
    exact (ih (place table number)).trans (hplaced.trans List.perm_middle)

theorem entries_resize (table : Table) (count : ℕ) :
    (entries (resize table count)).Perm (entries table) := by
  have hplaced := entries_placeAll (emptyTable (sizeFor count)) (entries table)
  rwa [entries_emptyTable, List.append_nil] at hplaced

/-- Adding a number keeps the others, and has it once. -/
theorem mem_entries_add (table : Table) (number other : ℕ) :
    other ∈ entries (add table number) ↔ other = number ∨ other ∈ entries table := by
  unfold add
  dsimp only
  split
  · rename_i hmem
    exact ⟨.inr, fun hother => hother.elim (fun heq => heq ▸ hmem) id⟩
  · split
    · rw [(entries_place table number).mem_iff, List.mem_cons]
    · rw [((entries_resize _ _).trans (entries_place table number)).mem_iff, List.mem_cons]

theorem nodup_entries_add {table : Table} (hnodup : (entries table).Nodup) (number : ℕ) :
    (entries (add table number)).Nodup := by
  unfold add
  dsimp only
  split
  · exact hnodup
  · rename_i hnew
    have hcons : (number :: entries table).Nodup := List.nodup_cons.mpr ⟨hnew, hnodup⟩
    split
    · exact (entries_place table number).nodup_iff.mpr hcons
    · exact ((entries_resize _ _).trans (entries_place table number)).nodup_iff.mpr hcons

/-- A set has the numbers that were put in, each of them once. -/
theorem entries_build (numbers : List ℕ) :
    (entries (build numbers)).Nodup ∧ ∀ number, number ∈ entries (build numbers) ↔
      number ∈ numbers := by
  have hfold : ∀ table : Table, (entries table).Nodup →
      (entries (numbers.foldl add table)).Nodup ∧
        ∀ number, number ∈ entries (numbers.foldl add table) ↔
          number ∈ numbers ∨ number ∈ entries table := by
    induction numbers with
    | nil => exact fun table hnodup => ⟨hnodup, fun number => by simp⟩
    | cons first numbers ih =>
      intro table hnodup
      obtain ⟨hlater, hmem⟩ := ih (add table first) (nodup_entries_add hnodup first)
      refine ⟨hlater, fun number => ?_⟩
      rw [List.foldl_cons, hmem, mem_entries_add, List.mem_cons]
      tauto
  have hempty := hfold (emptyTable minSize) (by rw [entries_emptyTable]; exact List.nodup_nil)
  refine ⟨hempty.1, fun number => ?_⟩
  rw [build, hempty.2, entries_emptyTable]
  simp

/-- A copy has the entries of the original. -/
theorem entries_copy (table : Table) : (entries (copy table)).Perm (entries table) := by
  have hfresh : ∀ size, (entries (placeAll (emptyTable size) (entries table))).Perm
      (entries table) := by
    intro size
    have hplaced := entries_placeAll (emptyTable size) (entries table)
    rwa [entries_emptyTable, List.append_nil] at hplaced
  unfold copy
  dsimp only
  split
  · split
    · exact .refl _
    · exact hfresh minSize
  · split
    · exact .refl _
    · exact hfresh _

example : entries (build [1, 8]) = [8, 1] := by decide

end Sllurp.Foundations.HashOrder
