/-
# Binary records

Integers of a fixed width, signed or not, are written in network order. A record
is a sequence of such formats. Packing fails on a number that its format does not
hold, unpacking on a number of bytes other than the size of the record; where
they succeed, each undoes the other.
-/

import Mathlib.Algebra.Order.Ring.Int
import Mathlib.Data.Nat.Init
import Mathlib.Tactic.Ring
import Mathlib.Tactic.Positivity

namespace Sllurp.Foundations.Wire

/-! ## Natural numbers -/

/-- The number that bytes stand for, the most significant one first. -/
def ofBytes (bytes : List UInt8) : ℕ :=
  bytes.foldl (fun number byte => number * 256 + byte.toNat) 0

/-- The last `size` bytes of a number, the most significant one first. -/
def toBytes : ℕ → ℕ → List UInt8
  | 0, _ => []
  | size + 1, number => toBytes size (number / 256) ++ [UInt8.ofNat number]

@[simp]
theorem length_toBytes (size number : ℕ) : (toBytes size number).length = size := by
  induction size generalizing number with
  | zero => rfl
  | succ size ih => rw [toBytes, List.length_append, ih, List.length_singleton]

theorem ofBytes_concat (bytes : List UInt8) (byte : UInt8) :
    ofBytes (bytes ++ [byte]) = ofBytes bytes * 256 + byte.toNat := by
  rw [ofBytes, List.foldl_append]
  rfl

theorem ofBytes_lt (bytes : List UInt8) : ofBytes bytes < 256 ^ bytes.length := by
  induction bytes using List.reverseRecOn with
  | nil => exact Nat.one_pos
  | append_singleton bytes byte ih =>
    have hbyte := byte.toNat_lt
    rw [ofBytes_concat, List.length_append, List.length_singleton, pow_succ]
    omega

/-- Reading back a number that fits. -/
theorem ofBytes_toBytes {size number : ℕ} (hfits : number < 256 ^ size) :
    ofBytes (toBytes size number) = number := by
  induction size generalizing number with
  | zero => exact (Nat.lt_one_iff.mp hfits).symm
  | succ size ih =>
    have hhigh : number / 256 < 256 ^ size := by
      rw [pow_succ] at hfits
      exact Nat.div_lt_of_lt_mul (by rwa [Nat.mul_comm])
    have hlow : (UInt8.ofNat number).toNat = number % 256 := rfl
    rw [toBytes, ofBytes_concat, ih hhigh, hlow]
    omega

/-- Writing back what was read. -/
theorem toBytes_ofBytes (bytes : List UInt8) : toBytes bytes.length (ofBytes bytes) = bytes := by
  induction bytes using List.reverseRecOn with
  | nil => rfl
  | append_singleton bytes byte ih =>
    have hbyte := byte.toNat_lt
    have hhigh : (ofBytes bytes * 256 + byte.toNat) / 256 = ofBytes bytes := by omega
    have hlow : UInt8.ofNat (ofBytes bytes * 256 + byte.toNat) = byte := by
      apply UInt8.toNat_inj.mp
      change (ofBytes bytes * 256 + byte.toNat) % 256 = byte.toNat
      omega
    rw [ofBytes_concat, List.length_append, List.length_singleton, toBytes, hhigh, ih, hlow]

/-! ## Formats -/

/-- A width in bytes, and whether the most significant bit is a sign. -/
structure Format where
  size : ℕ
  signed : Bool
  size_pos : 0 < size
  deriving DecidableEq

namespace Format

def ubyte : Format := ⟨1, false, by decide⟩
def byte : Format := ⟨1, true, by decide⟩
def ushort : Format := ⟨2, false, by decide⟩
def short : Format := ⟨2, true, by decide⟩
def uint : Format := ⟨4, false, by decide⟩
def ulonglong : Format := ⟨8, false, by decide⟩

variable (format : Format)

/-- The least number that the format does not hold as an unsigned one. -/
def bound : ℕ := 256 ^ format.size

/-- Whether a number is in the range of the format. -/
def holds (number : ℤ) : Prop :=
  if format.signed then -(format.bound / 2 : ℕ) ≤ number ∧ number < (format.bound / 2 : ℕ)
  else 0 ≤ number ∧ number < format.bound

instance (number : ℤ) : Decidable (format.holds number) := by
  unfold holds
  infer_instance

/-- The bits of a number as a natural number. -/
def code (number : ℤ) : ℕ := (number % format.bound).toNat

/-- The number that has these bits. -/
def number (code : ℕ) : ℤ :=
  if format.signed && decide (format.bound / 2 ≤ code) then code - format.bound else code

theorem bound_even : format.bound = 2 * (format.bound / 2) := by
  obtain ⟨size, hsize⟩ := Nat.exists_eq_succ_of_ne_zero format.size_pos.ne'
  have heven : format.bound = 2 * (128 * 256 ^ size) := by
    rw [bound, hsize, Nat.succ_eq_add_one, pow_succ]
    ring
  omega

theorem bound_pos : 0 < format.bound := by
  unfold bound
  positivity

@[simp]
theorem holds_ubyte {number : ℤ} : ubyte.holds number ↔ 0 ≤ number ∧ number < 256 := Iff.rfl

@[simp]
theorem holds_ushort {number : ℤ} : ushort.holds number ↔ 0 ≤ number ∧ number < 65536 := Iff.rfl

@[simp]
theorem holds_uint {number : ℤ} : uint.holds number ↔ 0 ≤ number ∧ number < 4294967296 := Iff.rfl

@[simp]
theorem holds_ulonglong {number : ℤ} :
    ulonglong.holds number ↔ 0 ≤ number ∧ number < 18446744073709551616 := Iff.rfl

variable {format}

theorem code_lt (number : ℤ) : format.code number < format.bound := by
  have hpos := format.bound_pos
  have hlt := Int.emod_lt_of_pos number (Int.natCast_pos.mpr hpos)
  have hnonneg := Int.emod_nonneg number (Int.natCast_pos.mpr hpos).ne'
  unfold code
  omega

/-- A number is known by its bits. -/
theorem number_code {number : ℤ} (hholds : format.holds number) :
    format.number (format.code number) = number := by
  have hpos := format.bound_pos
  have heven := format.bound_even
  unfold holds at hholds
  unfold Format.number code
  cases hsigned : format.signed with
  | false =>
    rw [hsigned, if_neg Bool.false_ne_true] at hholds
    rw [Bool.false_and, if_neg Bool.false_ne_true, Int.emod_eq_of_lt hholds.1 hholds.2]
    omega
  | true =>
    rw [hsigned, if_pos rfl] at hholds
    rw [Bool.true_and]
    by_cases hnegative : number < 0
    · have hmod : number % format.bound = number + format.bound := by
        rw [← Int.add_emod_right, Int.emod_eq_of_lt (by omega) (by omega)]
      rw [hmod, if_pos (decide_eq_true (by omega))]
      omega
    · have hmod : number % format.bound = number :=
        Int.emod_eq_of_lt (by omega) (by omega)
      have hnot : ¬ decide (format.bound / 2 ≤ number.toNat) = true := by
        rw [decide_eq_true_eq]
        omega
      rw [hmod, if_neg hnot]
      omega

theorem holds_number {code : ℕ} (hcode : code < format.bound) :
    format.holds (format.number code) := by
  have heven := format.bound_even
  unfold holds Format.number
  cases format.signed with
  | false =>
    rw [Bool.false_and, if_neg Bool.false_ne_true, if_neg Bool.false_ne_true]
    omega
  | true =>
    rw [Bool.true_and, if_pos rfl]
    split
    · rename_i hhigh
      rw [decide_eq_true_eq] at hhigh
      omega
    · rename_i hlow
      rw [decide_eq_true_eq] at hlow
      omega

theorem code_number {code : ℕ} (hcode : code < format.bound) :
    format.code (format.number code) = code := by
  have hpos := format.bound_pos
  unfold Format.code Format.number
  split
  · rw [Int.sub_emod_right, Int.emod_eq_of_lt (by omega) (by omega)]
    omega
  · rw [Int.emod_eq_of_lt (by omega) (by omega)]
    omega

end Format

/-! ## Records -/

/-- The numbers of a record. -/
abbrev Record : List Format → Type
  | [] => Unit
  | _ :: formats => ℤ × Record formats

/-- The size of a record in bytes. -/
def recordSize (formats : List Format) : ℕ := (formats.map Format.size).sum

/-- Write the numbers of a record, if their formats hold them. -/
def pack : (formats : List Format) → Record formats → Option (List UInt8)
  | [], _ => some []
  | format :: formats, (number, rest) =>
    if format.holds number then
      (pack formats rest).map (toBytes format.size (format.code number) ++ ·)
    else none

/-- All formats of a record hold their numbers. -/
def holdsAll : (formats : List Format) → Record formats → Prop
  | [], _ => True
  | format :: formats, (number, rest) => format.holds number ∧ holdsAll formats rest

/-- Read a record from exactly as many bytes as it takes. -/
def unpack : (formats : List Format) → List UInt8 → Option (Record formats)
  | [], data => if data.isEmpty then some () else none
  | format :: formats, data =>
    if data.length < format.size then none
    else
      (unpack formats (data.drop format.size)).map
        (format.number (ofBytes (data.take format.size)), ·)

theorem pack_cons (format : Format) (formats : List Format) (number : ℤ)
    (rest : Record formats) :
    pack (format :: formats) (number, rest) =
      if format.holds number then
        (pack formats rest).map (toBytes format.size (format.code number) ++ ·)
      else none := rfl

theorem unpack_cons (format : Format) (formats : List Format) (data : List UInt8) :
    unpack (format :: formats) data =
      if data.length < format.size then none
      else
        (unpack formats (data.drop format.size)).map fun rest =>
          ((format.number (ofBytes (data.take format.size)), rest) : ℤ × Record formats) := rfl

@[simp]
theorem holdsAll_nil {record : Record []} : holdsAll [] record ↔ True := Iff.rfl

@[simp]
theorem holdsAll_cons {format : Format} {formats : List Format} {number : ℤ}
    {rest : Record formats} :
    holdsAll (format :: formats) (number, rest) ↔
      format.holds number ∧ holdsAll formats rest := Iff.rfl

/-- A record is written when its formats hold its numbers. -/
theorem pack_isSome_iff {formats : List Format} {record : Record formats} :
    (pack formats record).isSome = true ↔ holdsAll formats record := by
  induction formats with
  | nil => simp [pack]
  | cons format formats ih =>
    obtain ⟨number, rest⟩ := record
    rw [pack_cons, holdsAll_cons]
    split
    · rename_i hholds
      rw [Option.isSome_map, ih]
      exact (and_iff_right hholds).symm
    · rename_i hholds
      simp [hholds]

theorem holdsAll_of_pack {formats : List Format} {record : Record formats} {data : List UInt8}
    (hpack : pack formats record = some data) : holdsAll formats record :=
  pack_isSome_iff.mp (Option.isSome_iff_exists.mpr ⟨data, hpack⟩)

@[simp]
theorem recordSize_nil : recordSize [] = 0 := rfl

@[simp]
theorem recordSize_cons (format : Format) (formats : List Format) :
    recordSize (format :: formats) = format.size + recordSize formats := by
  rw [recordSize, List.map_cons, List.sum_cons]
  rfl

theorem length_of_pack {formats : List Format} {record : Record formats} {data : List UInt8}
    (hpack : pack formats record = some data) : data.length = recordSize formats := by
  induction formats generalizing data with
  | nil =>
    cases hpack
    rfl
  | cons format formats ih =>
    obtain ⟨number, rest⟩ := record
    rw [pack_cons] at hpack
    split at hpack
    · obtain ⟨bytes, hrest, rfl⟩ := Option.map_eq_some_iff.mp hpack
      rw [List.length_append, length_toBytes, ih hrest, recordSize_cons]
    · cases hpack

/-- Unpacking undoes packing. -/
theorem unpack_of_pack {formats : List Format} {record : Record formats} {data : List UInt8}
    (hpack : pack formats record = some data) : unpack formats data = some record := by
  induction formats generalizing data with
  | nil =>
    cases hpack
    rfl
  | cons format formats ih =>
    obtain ⟨number, rest⟩ := record
    rw [pack_cons] at hpack
    split at hpack
    · rename_i hholds
      obtain ⟨bytes, hrest, rfl⟩ := Option.map_eq_some_iff.mp hpack
      have hlength : (toBytes format.size (format.code number)).length = format.size :=
        length_toBytes _ _
      rw [unpack_cons, if_neg (by rw [List.length_append, hlength]; omega),
        List.drop_left' hlength, List.take_left' hlength, ih hrest, Option.map_some,
        ofBytes_toBytes (format.code_lt number), Format.number_code hholds]
    · cases hpack

/-- Packing undoes unpacking. -/
theorem pack_of_unpack {formats : List Format} {record : Record formats} {data : List UInt8}
    (hunpack : unpack formats data = some record) : pack formats record = some data := by
  induction formats generalizing data with
  | nil =>
    unfold unpack at hunpack
    split at hunpack
    · rename_i hempty
      rw [List.isEmpty_iff.mp hempty]
      rfl
    · cases hunpack
  | cons format formats ih =>
    rw [unpack_cons] at hunpack
    split at hunpack
    · cases hunpack
    · rename_i hlength
      obtain ⟨rest, hrest, rfl⟩ := Option.map_eq_some_iff.mp hunpack
      have htake : (data.take format.size).length = format.size := by
        rw [List.length_take]
        omega
      have hlt : ofBytes (data.take format.size) < format.bound := by
        have hlt := ofBytes_lt (data.take format.size)
        rwa [htake] at hlt
      have hback := toBytes_ofBytes (data.take format.size)
      rw [htake] at hback
      rw [pack_cons, if_pos (Format.holds_number hlt), ih hrest, Option.map_some,
        Format.code_number hlt, hback, List.take_append_drop]

theorem unpack_isSome_iff {formats : List Format} {data : List UInt8} :
    (unpack formats data).isSome = true ↔ data.length = recordSize formats := by
  induction formats generalizing data with
  | nil =>
    cases data with
    | nil => simp [unpack]
    | cons byte data => simp [unpack]
  | cons format formats ih =>
    rw [unpack_cons]
    split
    · simp only [Option.isSome_none, Bool.false_eq_true, false_iff, recordSize_cons]
      omega
    · rw [Option.isSome_map, ih, List.length_drop, recordSize_cons]
      omega

theorem exists_unpack {formats : List Format} {data : List UInt8}
    (hlength : data.length = recordSize formats) : ∃ record, unpack formats data = some record :=
  Option.isSome_iff_exists.mp (unpack_isSome_iff.mpr hlength)

theorem length_of_unpack {formats : List Format} {record : Record formats} {data : List UInt8}
    (hunpack : unpack formats data = some record) : data.length = recordSize formats :=
  length_of_pack (pack_of_unpack hunpack)

end Sllurp.Foundations.Wire
