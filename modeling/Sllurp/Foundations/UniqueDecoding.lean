/-
# Unique decoding

Values may be written one after the other without anything between them if each says
by itself where it ends. Two values may be written alike when they agree in what matters,
so that a code is a relation and what it is read back to is known up to agreement.
-/

import Mathlib.Data.List.Forall2

namespace Sllurp.Foundations.UniqueDecoding

variable {α β : Type*}

/-- What a value may be written as. -/
abbrev Code (α β : Type*) : Type _ := α → List β → Prop

/-- Of two values with anything behind them that are written alike, the values agree and what is
behind them is the same. -/
def Delimits (code : Code α β) (agree : Prop) (first second : α) : Prop :=
  ∀ ⦃front back rest other⦄, code first front → code second back →
    front ++ rest = back ++ other → agree ∧ rest = other

/-- Every value says where it ends. -/
def SelfDelimiting (code : Code α β) (agree : α → α → Prop) : Prop :=
  ∀ first second, Delimits code (agree first second) first second

/-! ## Parts -/

/-- Values that are written with one length are told apart by what is written. -/
theorem delimits_of_length {code : Code α β} {agree : Prop} {first second : α} (size : ℕ)
    (hfirst : ∀ data, code first data → data.length = size)
    (hsecond : ∀ data, code second data → data.length = size)
    (hagree : ∀ data, code first data → code second data → agree) :
    Delimits code agree first second := by
  intro front back rest other hfront hback heq
  have hlength : front.length = back.length := (hfirst _ hfront).trans (hsecond _ hback).symm
  obtain ⟨rfl, hrest⟩ := List.append_inj heq hlength
  exact ⟨hagree _ hfront hback, hrest⟩

/-- One part of a value behind another. -/
inductive Pair (head tail : Code α β) : Code α β
  | intro {value : α} {front back : List β} (hfront : head value front) (hback : tail value back) :
      Pair head tail value (front ++ back)

/-- The second part only has to say where it ends among values that agree in the first. -/
theorem Delimits.pair {head tail : Code α β} {agreeHead agreeTail : Prop} {first second : α}
    (hhead : Delimits head agreeHead first second)
    (htail : agreeHead → Delimits tail agreeTail first second) :
    Delimits (Pair head tail) (agreeHead ∧ agreeTail) first second := by
  rintro _ _ rest other ⟨hfront, hback⟩ ⟨hfront', hback'⟩ heq
  rw [List.append_assoc, List.append_assoc] at heq
  obtain ⟨hagree, heq⟩ := hhead hfront hfront' heq
  obtain ⟨hagree', hrest⟩ := htail hagree hback hback' heq
  exact ⟨⟨hagree, hagree'⟩, hrest⟩

theorem Delimits.mono {code : Code α β} {agree weaker : Prop} {first second : α}
    (hcode : Delimits code agree first second) (hweaker : agree → weaker) :
    Delimits code weaker first second := by
  intro _ _ _ _ hfront hback heq
  obtain ⟨hagree, hrest⟩ := hcode hfront hback heq
  exact ⟨hweaker hagree, hrest⟩

/-! ## Sequences -/

/-- Values written one after the other. -/
inductive Sequence (code : Code α β) : Code (List α) β
  | nil : Sequence code [] []
  | cons {value : α} {values : List α} {front rest : List β} (hfront : code value front)
      (hrest : Sequence code values rest) : Sequence code (value :: values) (front ++ rest)

/-- Two lists that are written alike agree value by value. -/
theorem SelfDelimiting.sequence {code : Code α β} {agree : α → α → Prop}
    (hcode : SelfDelimiting code agree) (hnonempty : ∀ value, ¬ code value [])
    {first second : List α} {data : List β} (hfirst : Sequence code first data)
    (hsecond : Sequence code second data) : List.Forall₂ agree first second := by
  induction hfirst generalizing second with
  | nil =>
    generalize hdata : [] = data at hsecond
    cases hsecond with
    | nil => exact .nil
    | cons hfront _ =>
      rw [(List.append_eq_nil_iff.mp hdata.symm).1] at hfront
      exact absurd hfront (hnonempty _)
  | @cons value values front rest hfront hrest ih =>
    generalize hdata : front ++ rest = data at hsecond
    cases hsecond with
    | nil =>
      rw [(List.append_eq_nil_iff.mp hdata).1] at hfront
      exact absurd hfront (hnonempty _)
    | cons hfront' hrest' =>
      obtain ⟨hagree, rfl⟩ := hcode _ _ hfront hfront' hdata
      exact .cons hagree (ih hrest')

end Sllurp.Foundations.UniqueDecoding
