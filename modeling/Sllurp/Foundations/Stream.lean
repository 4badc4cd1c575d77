/-
# Frames in a stream

A stream is cut into frames by what their headers say. Everything about a frame's
size is in its first elements, so a frame is found or refused as soon as its
header is there, and cutting can go on from what was kept of an earlier part.
-/

import Mathlib.Data.Nat.Init
import Mathlib.Data.List.Basic

namespace Sllurp.Foundations

/-- A way to read the size of a frame from its header. Sizes include the header;
a header without a size is refused. -/
structure FrameFormat (α : Type) where
  headerLength : ℕ
  size : List α → Option ℕ
  headerLength_pos : 0 < headerLength
  headerLength_le : ∀ {data : List α} {total : ℕ}, size data = some total → headerLength ≤ total
  size_append : ∀ {data : List α} (more : List α), headerLength ≤ data.length →
    size (data ++ more) = size data

/-- How the cutting of a stream ends: with an incomplete frame, possibly empty,
that is kept, or at a header that is refused. -/
inductive Ending (α : Type)
  | kept (rest : List α)
  | refused

/-- The frames of a stream and what comes after them. -/
structure Split (α : Type) where
  frames : List (List α)
  ending : Ending α

namespace FrameFormat

variable {α : Type} (format : FrameFormat α)

/-- Cut a stream at the sizes that its headers give. -/
def split (data : List α) : Split α :=
  if data.length < format.headerLength then ⟨[], .kept data⟩
  else
    match _hsize : format.size data with
    | none => ⟨[], .refused⟩
    | some total =>
      if data.length < total then ⟨[], .kept data⟩
      else
        let later := split (data.drop total)
        ⟨data.take total :: later.frames, later.ending⟩
termination_by data.length
decreasing_by
  have hpos := format.headerLength_pos
  have htotal := format.headerLength_le _hsize
  rw [List.length_drop]
  omega

/-- How long an incomplete frame has to become before there is more to see of
it. -/
def awaited (rest : List α) : ℕ :=
  if rest.length = 0 then 0
  else if rest.length < format.headerLength then format.headerLength
  else (format.size rest).getD 0

variable {format}

theorem split_of_short {data : List α} (hshort : data.length < format.headerLength) :
    format.split data = ⟨[], .kept data⟩ := by
  rw [split, if_pos hshort]

theorem split_of_refused {data : List α} (hheader : format.headerLength ≤ data.length)
    (hsize : format.size data = none) : format.split data = ⟨[], .refused⟩ := by
  rw [split, if_neg (Nat.not_lt.mpr hheader)]
  split
  · rfl
  · rename_i hsome
    rw [hsize] at hsome
    cases hsome

theorem split_of_incomplete {data : List α} {total : ℕ}
    (hheader : format.headerLength ≤ data.length) (hsize : format.size data = some total)
    (hincomplete : data.length < total) : format.split data = ⟨[], .kept data⟩ := by
  rw [split, if_neg (Nat.not_lt.mpr hheader)]
  split
  · rename_i hnone
    rw [hsize] at hnone
    cases hnone
  · rename_i hsome
    rw [hsize] at hsome
    cases hsome
    rw [if_pos hincomplete]

theorem split_of_complete {data : List α} {total : ℕ}
    (hheader : format.headerLength ≤ data.length) (hsize : format.size data = some total)
    (hcomplete : total ≤ data.length) :
    format.split data =
      ⟨data.take total :: (format.split (data.drop total)).frames,
        (format.split (data.drop total)).ending⟩ := by
  rw [split, if_neg (Nat.not_lt.mpr hheader)]
  split
  · rename_i hnone
    rw [hsize] at hnone
    cases hnone
  · rename_i hsome
    rw [hsize] at hsome
    cases hsome
    rw [if_neg (Nat.not_lt.mpr hcomplete)]

/-- What is kept of a stream has no frame in it. -/
theorem split_kept {data rest : List α} (hkept : (format.split data).ending = .kept rest) :
    format.split rest = ⟨[], .kept rest⟩ := by
  induction hlength : data.length using Nat.strong_induction_on generalizing data with
  | _ length ih =>
    subst hlength
    rcases Nat.lt_or_ge data.length format.headerLength with hshort | hheader
    · rw [split_of_short hshort] at hkept
      cases hkept
      exact split_of_short hshort
    · cases hsize : format.size data with
      | none =>
        rw [split_of_refused hheader hsize] at hkept
        cases hkept
      | some total =>
        rcases Nat.lt_or_ge data.length total with hincomplete | hcomplete
        · rw [split_of_incomplete hheader hsize hincomplete] at hkept
          cases hkept
          exact split_of_incomplete hheader hsize hincomplete
        · rw [split_of_complete hheader hsize hcomplete] at hkept
          have hpos := format.headerLength_pos
          have htotal := format.headerLength_le hsize
          have hlater : (data.drop total).length < data.length := by
            rw [List.length_drop]
            omega
          exact ih _ hlater hkept rfl

/-- A stream that goes on after a refused header is refused at the same place. -/
theorem split_append_of_refused {data : List α} (more : List α)
    (hrefused : (format.split data).ending = .refused) :
    format.split (data ++ more) = format.split data := by
  induction hlength : data.length using Nat.strong_induction_on generalizing data with
  | _ length ih =>
    subst hlength
    rcases Nat.lt_or_ge data.length format.headerLength with hshort | hheader
    · rw [split_of_short hshort] at hrefused
      cases hrefused
    have hheaderMore : format.headerLength ≤ (data ++ more).length := by
      rw [List.length_append]
      omega
    have hsizeMore := format.size_append more hheader
    cases hsize : format.size data with
    | none =>
      rw [split_of_refused hheader hsize,
        split_of_refused hheaderMore (hsizeMore.trans hsize)]
    | some total =>
      rcases Nat.lt_or_ge data.length total with hincomplete | hcomplete
      · rw [split_of_incomplete hheader hsize hincomplete] at hrefused
        cases hrefused
      · rw [split_of_complete hheader hsize hcomplete] at hrefused ⊢
        have hpos := format.headerLength_pos
        have htotal := format.headerLength_le hsize
        have hlater : (data.drop total).length < data.length := by
          rw [List.length_drop]
          omega
        have hcompleteMore : total ≤ (data ++ more).length := by
          rw [List.length_append]
          omega
        rw [split_of_complete hheaderMore (hsizeMore.trans hsize) hcompleteMore,
          List.take_append_of_le_length hcomplete, List.drop_append_of_le_length hcomplete,
          ih _ hlater hrefused rfl]

/-- Cutting goes on from what was kept. -/
theorem split_append_of_kept {data rest : List α} (more : List α)
    (hkept : (format.split data).ending = .kept rest) :
    format.split (data ++ more) =
      ⟨(format.split data).frames ++ (format.split (rest ++ more)).frames,
        (format.split (rest ++ more)).ending⟩ := by
  induction hlength : data.length using Nat.strong_induction_on generalizing data with
  | _ length ih =>
    subst hlength
    rcases Nat.lt_or_ge data.length format.headerLength with hshort | hheader
    · rw [split_of_short hshort] at hkept ⊢
      cases hkept
      rfl
    cases hsize : format.size data with
    | none =>
      rw [split_of_refused hheader hsize] at hkept
      cases hkept
    | some total =>
      rcases Nat.lt_or_ge data.length total with hincomplete | hcomplete
      · rw [split_of_incomplete hheader hsize hincomplete] at hkept ⊢
        cases hkept
        rfl
      · rw [split_of_complete hheader hsize hcomplete] at hkept ⊢
        have hpos := format.headerLength_pos
        have htotal := format.headerLength_le hsize
        have hlater : (data.drop total).length < data.length := by
          rw [List.length_drop]
          omega
        have hheaderMore : format.headerLength ≤ (data ++ more).length := by
          rw [List.length_append]
          omega
        have hcompleteMore : total ≤ (data ++ more).length := by
          rw [List.length_append]
          omega
        rw [split_of_complete hheaderMore ((format.size_append more hheader).trans hsize)
            hcompleteMore, List.take_append_of_le_length hcomplete,
          List.drop_append_of_le_length hcomplete, ih _ hlater hkept rfl]
        rfl

theorem awaited_of_short {rest : List α} (hnonempty : rest.length ≠ 0)
    (hshort : rest.length < format.headerLength) :
    format.awaited rest = format.headerLength := by
  rw [awaited, if_neg hnonempty, if_pos hshort]

theorem awaited_of_size {rest : List α} {total : ℕ}
    (hheader : format.headerLength ≤ rest.length) (hsize : format.size rest = some total) :
    format.awaited rest = total := by
  have hpos := format.headerLength_pos
  have hnonempty : ¬ rest.length = 0 := by omega
  rw [awaited, if_neg hnonempty, if_neg (Nat.not_lt.mpr hheader), hsize]
  rfl

/-- Before the awaited length is reached, everything is kept and the same length
is awaited. -/
theorem split_append_of_awaited {rest : List α} (more : List α)
    (hshort : (rest ++ more).length < format.awaited rest) :
    format.split (rest ++ more) = ⟨[], .kept (rest ++ more)⟩ ∧
      format.awaited (rest ++ more) = format.awaited rest := by
  have hpos := format.headerLength_pos
  by_cases hempty : rest.length = 0
  · rw [awaited, if_pos hempty] at hshort
    exact absurd hshort (Nat.not_lt_zero _)
  have hnonempty : ¬ (rest ++ more).length = 0 := by
    rw [List.length_append]
    omega
  rcases Nat.lt_or_ge rest.length format.headerLength with hheader | hheader
  · rw [awaited_of_short hempty hheader] at hshort ⊢
    exact ⟨split_of_short hshort, awaited_of_short hnonempty hshort⟩
  · have hheaderMore : format.headerLength ≤ (rest ++ more).length := by
      rw [List.length_append]
      omega
    have hsizeMore := format.size_append more hheader
    cases hsize : format.size rest with
    | none =>
      rw [awaited, if_neg hempty, if_neg (Nat.not_lt.mpr hheader), hsize] at hshort
      exact absurd hshort (Nat.not_lt_zero _)
    | some total =>
      rw [awaited_of_size hheader hsize] at hshort ⊢
      exact ⟨split_of_incomplete hheaderMore (hsizeMore.trans hsize) hshort,
        awaited_of_size hheaderMore (hsizeMore.trans hsize)⟩

/-- More is awaited of anything that is kept. -/
theorem awaited_pos {rest : List α} (hrest : format.split rest = ⟨[], .kept rest⟩)
    (hnonempty : rest.length ≠ 0) : 0 < format.awaited rest := by
  have hpos := format.headerLength_pos
  rcases Nat.lt_or_ge rest.length format.headerLength with hheader | hheader
  · rw [awaited_of_short hnonempty hheader]
    exact hpos
  · cases hsize : format.size rest with
    | none =>
      rw [split_of_refused hheader hsize] at hrest
      cases hrest
    | some total =>
      rw [awaited_of_size hheader hsize]
      exact Nat.lt_of_lt_of_le hpos (format.headerLength_le hsize)

end FrameFormat

end Sllurp.Foundations
