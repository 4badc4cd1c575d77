/-
# SGTIN-96 tags

An SGTIN-96 is 96 bits, given as 24 hexadecimal digits: a header, a filter, the
number of a partition, the company prefix and the item reference, whose bits the
partition divides, and a serial number. What counts as hexadecimal is decided by
Python's integer parser, which takes more than the 24 digits.
-/

import Sllurp.Epc.Gtin
import Sllurp.Foundations.Outcome

namespace Sllurp.Epc

open Sllurp.Foundations Sllurp.Foundations.Integer Sllurp.Foundations.Numeral
open Sllurp.Foundations.Outcome Sllurp.Protocol

/-! ## The parser -/

/-- The bits and the decimal digits that a partition gives to the company prefix, and those
that it gives to the item reference. -/
structure PartitionSizes where
  companyBits : ℕ
  companyDigits : ℕ
  itemBits : ℕ
  itemDigits : ℕ
  deriving DecidableEq

/-- The partition sizes for SGTIN-96. -/
def sgtin96PartitionMap : List (ℕ × PartitionSizes) :=
  [(0, ⟨40, 12, 4, 1⟩), (1, ⟨37, 11, 7, 2⟩), (2, ⟨34, 10, 10, 3⟩), (3, ⟨30, 9, 14, 4⟩),
    (4, ⟨27, 8, 17, 5⟩), (5, ⟨24, 7, 20, 6⟩), (6, ⟨20, 6, 24, 7⟩)]

/-- The segments of a tag. The partition is given by its three bits. -/
structure SGTIN96 where
  header : ℤ
  filter : ℤ
  partition : List Char
  companyPrefix : List Char
  itemReference : List Char
  serial : ℤ
  deriving DecidableEq

/-- `text[start:stop]`. -/
def slice (text : List Char) (start stop : ℕ) : List Char := (text.take stop).drop start

/-- `str(number).zfill(width)` of a number that is not negative. -/
def zeroPadded (width : ℕ) (number : ℤ) : List Char := zfill width (toString number).toList

/-- Take the segments from the 96 bits. -/
def parseBinary (unicode : Unicode) (binary : List Char) : Except Exn SGTIN96 := do
  let header ← int unicode 2 (slice binary 0 8)
  let tagFilter ← int unicode 2 (slice binary 8 11)
  let partition := slice binary 11 14
  let partitionValue ← int unicode 2 partition
  match sgtin96PartitionMap.lookup partitionValue.toNat with
  | none => .error (.keyError s!"{partitionValue}")
  | some sizes =>
    let companyStart := 8 + 3 + 3
    let companyEnd := companyStart + sizes.companyBits
    let companyData ← int unicode 2 (slice binary companyStart companyEnd)
    if 10 ^ sizes.companyDigits ≤ companyData then
      .error (.valueError "Company value is too large")
    else
      let itemEnd := companyEnd + sizes.itemBits
      let itemNumber ← int unicode 2 (slice binary companyEnd itemEnd)
      if 10 ^ sizes.itemDigits ≤ itemNumber then
        .error (.valueError "Item reference value is too large")
      else
        let serial ← int unicode 2 (binary.drop (binary.length - 38))
        .ok
          { header
            filter := tagFilter
            partition
            companyPrefix := zeroPadded sizes.companyDigits companyData
            itemReference := zeroPadded sizes.itemDigits itemNumber
            serial }

/-- Parse an SGTIN-96 into its segments. -/
def parseSgtin96 (unicode : Unicode) (sgtin96 : String) : Except Exn SGTIN96 :=
  let text := sgtin96.toList
  if text.isEmpty then .error (.valueError "Pass in a value.")
  else if text.length ≠ 24 then
    .error (.valueError "SGTIN-96 must be exactly 24 hexadecimal characters.")
  else
    match read unicode 16 text with
    | none => .error (.valueError "SGTIN-96 must contain only hexadecimal characters.")
    | some number =>
      -- A text that starts with a digit has no sign.
      if ['3', '0'].isPrefixOf text then
        parseBinary unicode (zfill 96 (zfill 20 (Nat.toDigits 2 number.toNat)))
      else .error (.valueError "Not SGTIN-96.")

/-- The tag URI of an SGTIN-96. -/
def parseSgtin96ToUri (unicode : Unicode) (sgtin96 : String) : Except Exn String := do
  let tag ← parseSgtin96 unicode sgtin96
  let company := String.ofList tag.companyPrefix
  let item := String.ofList tag.itemReference
  .ok s!"urn:epc:id:sgtin:{company}.{item}.{tag.serial}"

/-! ## The 96 bits -/

/-- The number of the partition. -/
def partitionOf (bits : ℕ) : ℕ := bits / 2 ^ 82 % 2 ^ 3

/-- The company prefix in the bits that a partition gives it. -/
def companyOf (sizes : PartitionSizes) (bits : ℕ) : ℕ :=
  bits / 2 ^ (82 - sizes.companyBits) % 2 ^ sizes.companyBits

/-- The item reference in the bits that a partition gives it. -/
def itemOf (sizes : PartitionSizes) (bits : ℕ) : ℕ := bits / 2 ^ 38 % 2 ^ sizes.itemBits

/-- The partition is one of the seven, and both numbers are below its decimal limits. -/
def Fits (bits : ℕ) : Prop :=
  ∃ sizes, sgtin96PartitionMap.lookup (partitionOf bits) = some sizes ∧
    companyOf sizes bits < 10 ^ sizes.companyDigits ∧ itemOf sizes bits < 10 ^ sizes.itemDigits

/-- The text is 24 hexadecimal digits of ASCII. -/
def Hexadecimal (text : String) : Prop :=
  text.toList.length = 24 ∧ ∀ digit ∈ text.toList, (digitValue 16 digit).isSome = true

/-- The number that hexadecimal digits stand for. -/
def bitsOf (text : String) : ℕ := value 16 (text.toList.filterMap (digitValue 16))

/-- The text is a valid tag: 24 hexadecimal digits with the header 0x30 and fields that fit. -/
def Valid (text : String) : Prop :=
  Hexadecimal text ∧ bitsOf text / 2 ^ 88 = 0x30 ∧ Fits (bitsOf text)

/-- The number that decimal digits stand for. -/
def decimalOf (text : List Char) : ℕ := value 10 (text.filterMap (digitValue 10))

/-- Nothing of the 96 bits is lost: the segments have the digits that their partition gives
them, 13 together, are in the ranges of their bit fields, and packed into these give the
bits. -/
structure Lossless (bits : ℕ) (tag : SGTIN96) (sizes : PartitionSizes) : Prop where
  whole : bits < 2 ^ 96
  partition : tag.partition = (numeral 2 3 (partitionOf bits)).map Nat.digitChar
  found : sgtin96PartitionMap.lookup (partitionOf bits) = some sizes
  companyDigits : tag.companyPrefix.length = sizes.companyDigits
  itemDigits : tag.itemReference.length = sizes.itemDigits
  digits : sizes.companyDigits + sizes.itemDigits = 13
  header : 0 ≤ tag.header ∧ tag.header < 2 ^ 8
  filter : 0 ≤ tag.filter ∧ tag.filter < 2 ^ 3
  company : decimalOf tag.companyPrefix < 2 ^ sizes.companyBits
  item : decimalOf tag.itemReference < 2 ^ sizes.itemBits
  serial : 0 ≤ tag.serial ∧ tag.serial < 2 ^ 38
  packed :
    numeral 2 8 tag.header.toNat ++ numeral 2 3 tag.filter.toNat ++
        numeral 2 3 (partitionOf bits) ++
        numeral 2 sizes.companyBits (decimalOf tag.companyPrefix) ++
        numeral 2 sizes.itemBits (decimalOf tag.itemReference) ++
        numeral 2 38 tag.serial.toNat =
      numeral 2 96 bits

/-! ## What the segments are -/

/-- Every partition divides 44 bits and 13 decimal digits. -/
theorem sizes_of_lookup {partition : ℕ} {sizes : PartitionSizes}
    (hfound : sgtin96PartitionMap.lookup partition = some sizes) :
    0 < sizes.companyBits ∧ 0 < sizes.itemBits ∧ sizes.companyBits + sizes.itemBits = 44 ∧
      0 < sizes.companyDigits ∧ 0 < sizes.itemDigits ∧
      sizes.companyDigits + sizes.itemDigits = 13 := by
  have hall : ∀ entry ∈ sgtin96PartitionMap, 0 < entry.2.companyBits ∧ 0 < entry.2.itemBits ∧
      entry.2.companyBits + entry.2.itemBits = 44 ∧ 0 < entry.2.companyDigits ∧
      0 < entry.2.itemDigits ∧ entry.2.companyDigits + entry.2.itemDigits = 13 := by decide
  have hmem : (partition, sizes) ∈ sgtin96PartitionMap := by
    rw [List.lookup_eq_some_iff] at hfound
    obtain ⟨front, back, heq, -⟩ := hfound
    rw [heq]
    exact List.mem_append_right _ (List.mem_cons_self ..)
  exact hall _ hmem

/-- The bits of a tag as they are sliced. -/
def binaryOf (bits : ℕ) : List Char := (numeral 2 96 bits).map Nat.digitChar

theorem slice_binaryOf (bits : ℕ) {start stop : ℕ} (hstart : start ≤ stop) (hstop : stop ≤ 96) :
    slice (binaryOf bits) start stop =
      (numeral 2 (stop - start) (bits / 2 ^ (96 - stop))).map Nat.digitChar := by
  have hslice := @slice_numeral 2 start (stop - start) (96 - stop) bits
  rw [show start + (stop - start) = stop by omega, show stop + (96 - stop) = 96 by omega] at hslice
  rw [slice, binaryOf, ← List.map_take, ← List.map_drop, hslice]

theorem int_slice (unicode : Unicode) (bits : ℕ) {start stop : ℕ} (hstart : start < stop)
    (hstop : stop ≤ 96) :
    int unicode 2 (slice (binaryOf bits) start stop) =
      .ok ((bits / 2 ^ (96 - stop) % 2 ^ (stop - start) : ℕ) : ℤ) := by
  rw [int, slice_binaryOf bits hstart.le hstop,
    read_numeral unicode (by decide) (by decide) (by omega)]

/-- The parser takes the segments where the partition puts them. -/
theorem run_parseBinary (unicode : Unicode) (bits : ℕ) :
    parseBinary unicode (binaryOf bits) =
      match sgtin96PartitionMap.lookup (partitionOf bits) with
      | none => .error (.keyError s!"{(partitionOf bits : ℤ)}")
      | some sizes =>
        if 10 ^ sizes.companyDigits ≤ companyOf sizes bits then
          .error (.valueError "Company value is too large")
        else if 10 ^ sizes.itemDigits ≤ itemOf sizes bits then
          .error (.valueError "Item reference value is too large")
        else
          .ok
            { header := (bits / 2 ^ 88 % 2 ^ 8 : ℕ)
              filter := (bits / 2 ^ 85 % 2 ^ 3 : ℕ)
              partition := (numeral 2 3 (partitionOf bits)).map Nat.digitChar
              companyPrefix := zeroPadded sizes.companyDigits (companyOf sizes bits)
              itemReference := zeroPadded sizes.itemDigits (itemOf sizes bits)
              serial := (bits % 2 ^ 38 : ℕ) } := by
  have hserial : (binaryOf bits).drop ((binaryOf bits).length - 38) =
      slice (binaryOf bits) 58 96 := by
    have hlength : (binaryOf bits).length = 96 := by rw [binaryOf, List.length_map, length_numeral]
    rw [slice, hlength, List.take_of_length_le hlength.le]
  have hpartition : slice (binaryOf bits) 11 14 =
      (numeral 2 3 (partitionOf bits)).map Nat.digitChar := by
    rw [slice_binaryOf bits (by decide) (by decide), partitionOf, numeral_mod (by decide)]
  unfold parseBinary
  rw [int_slice unicode bits (by decide) (by decide), ok_bind,
    int_slice unicode bits (by decide) (by decide), ok_bind]
  dsimp only
  rw [int_slice unicode bits (by decide) (by decide), ok_bind, hpartition]
  change (match sgtin96PartitionMap.lookup (partitionOf bits) with
    | none => _
    | some sizes => _) = _
  cases hfound : sgtin96PartitionMap.lookup (partitionOf bits) with
  | none => rfl
  | some sizes =>
    obtain ⟨hcompany, hitem, hbits, -⟩ := sizes_of_lookup hfound
    have hcompanyData : int unicode 2
        (slice (binaryOf bits) (8 + 3 + 3) (8 + 3 + 3 + sizes.companyBits)) =
          .ok (companyOf sizes bits : ℤ) := by
      rw [int_slice unicode bits (by omega) (by omega), companyOf,
        show 96 - (8 + 3 + 3 + sizes.companyBits) = 82 - sizes.companyBits by omega,
        Nat.add_sub_cancel_left]
    have hitemNumber : int unicode 2 (slice (binaryOf bits) (8 + 3 + 3 + sizes.companyBits)
        (8 + 3 + 3 + sizes.companyBits + sizes.itemBits)) = .ok (itemOf sizes bits : ℤ) := by
      rw [int_slice unicode bits (by omega) (by omega), itemOf,
        show 96 - (8 + 3 + 3 + sizes.companyBits + sizes.itemBits) = 38 by omega,
        Nat.add_sub_cancel_left]
    have hserialNumber : int unicode 2 (slice (binaryOf bits) 58 96) =
        .ok ((bits % 2 ^ 38 : ℕ) : ℤ) := by
      rw [int_slice unicode bits (by decide) (by decide), Nat.sub_self, pow_zero, Nat.div_one]
    have hlimit : ∀ digits number : ℕ, (10 : ℤ) ^ digits ≤ number ↔ 10 ^ digits ≤ number := by
      intro digits number
      exact_mod_cast Iff.rfl
    dsimp only
    rw [hcompanyData, ok_bind, hitemNumber, ok_bind, hserial, hserialNumber, ok_bind]
    simp only [hlimit]

/-! ## Padding and packing -/

/-- A number with no more digits than the width is padded to it and read back. -/
theorem zeroPadded_spec {width number : ℕ} (hwidth : 0 < width) (hfits : number < 10 ^ width) :
    (zeroPadded width number).length = width ∧ decimalOf (zeroPadded width number) = number := by
  have hprinted : (toString (number : ℤ)).toList = Nat.toDigits 10 number := Nat.toList_repr
  have hpadded : zeroPadded width number = (numeral 10 width number).map Nat.digitChar := by
    rw [zeroPadded, hprinted, zfill_toDigits (by decide) hwidth hfits]
  have hdigit : ∀ digit ∈ numeral 10 width number,
      digitValue 10 (Nat.digitChar digit) = some digit := fun digit hmem =>
    digitValue_digitChar (by decide) (lt_of_mem_numeral (by decide) hmem)
  constructor
  · rw [hpadded, List.length_map, length_numeral]
  · rw [hpadded, decimalOf, List.filterMap_map]
    change value 10 ((numeral 10 width number).filterMap fun digit =>
      digitValue 10 (Nat.digitChar digit)) = number
    rw [List.filterMap_congr hdigit, List.filterMap_some, value_numeral, Nat.mod_eq_of_lt hfits]

/-- The segments of the bits, one behind the other, are the bits. -/
theorem packed_segments {bits : ℕ} {sizes : PartitionSizes}
    (hbits : sizes.companyBits + sizes.itemBits = 44) :
    numeral 2 8 (bits / 2 ^ 88) ++ numeral 2 3 (bits / 2 ^ 85) ++ numeral 2 3 (bits / 2 ^ 82) ++
        numeral 2 sizes.companyBits (bits / 2 ^ (82 - sizes.companyBits)) ++
        numeral 2 sizes.itemBits (bits / 2 ^ 38) ++ numeral 2 38 bits =
      numeral 2 96 bits := by
  have hwidth : 96 = 8 + 3 + 3 + sizes.companyBits + sizes.itemBits + 38 := by omega
  have hitem : 38 + sizes.itemBits = 82 - sizes.companyBits := by omega
  have hcompany : 38 + sizes.itemBits + sizes.companyBits = 82 := by omega
  rw [hwidth, numeral_add (8 + 3 + 3 + sizes.companyBits + sizes.itemBits) 38,
    numeral_add (8 + 3 + 3 + sizes.companyBits) sizes.itemBits,
    numeral_add (8 + 3 + 3) sizes.companyBits, numeral_add (8 + 3) 3, numeral_add 8 3]
  simp only [Nat.div_div_eq_div_mul, ← pow_add, hcompany]
  rw [hitem]

/-- What the segments of fields that fit are made of. -/
theorem lossless_of_fits {bits : ℕ} {sizes : PartitionSizes} (hbits : bits < 2 ^ 96)
    (hfound : sgtin96PartitionMap.lookup (partitionOf bits) = some sizes)
    (hcompany : companyOf sizes bits < 10 ^ sizes.companyDigits)
    (hitem : itemOf sizes bits < 10 ^ sizes.itemDigits) :
    Lossless bits
      { header := (bits / 2 ^ 88 % 2 ^ 8 : ℕ)
        filter := (bits / 2 ^ 85 % 2 ^ 3 : ℕ)
        partition := (numeral 2 3 (partitionOf bits)).map Nat.digitChar
        companyPrefix := zeroPadded sizes.companyDigits (companyOf sizes bits)
        itemReference := zeroPadded sizes.itemDigits (itemOf sizes bits)
        serial := (bits % 2 ^ 38 : ℕ) } sizes := by
  obtain ⟨-, -, hwidth, hcompanyDigits, hitemDigits, hdigits⟩ := sizes_of_lookup hfound
  obtain ⟨hcompanyLength, hcompanyValue⟩ := zeroPadded_spec hcompanyDigits hcompany
  obtain ⟨hitemLength, hitemValue⟩ := zeroPadded_spec hitemDigits hitem
  have hrange : ∀ number width : ℕ,
      (0 : ℤ) ≤ (number % 2 ^ width : ℕ) ∧ ((number % 2 ^ width : ℕ) : ℤ) < 2 ^ width := by
    intro number width
    exact ⟨Int.natCast_nonneg _, by exact_mod_cast Nat.mod_lt _ (Nat.two_pow_pos width)⟩
  refine ⟨hbits, rfl, hfound, hcompanyLength, hitemLength, hdigits, hrange _ _, hrange _ _, ?_, ?_,
    hrange _ _, ?_⟩
  · rw [hcompanyValue]
    exact Nat.mod_lt _ (Nat.two_pow_pos _)
  · rw [hitemValue]
    exact Nat.mod_lt _ (Nat.two_pow_pos _)
  · dsimp only
    rw [hcompanyValue, hitemValue, companyOf, itemOf, partitionOf, Int.toNat_natCast,
      Int.toNat_natCast, Int.toNat_natCast, numeral_mod (by decide), numeral_mod (by decide),
      numeral_mod (by decide), numeral_mod (by decide), numeral_mod (by decide),
      numeral_mod (by decide)]
    exact packed_segments hwidth

/-! ## Texts that reach the segments -/

/-- The texts whose segments are looked at, with the number that they are read as. -/
def Reaches (unicode : Unicode) (text : String) (bits : ℕ) : Prop :=
  text.toList.length = 24 ∧ ['3', '0'].isPrefixOf text.toList = true ∧
    read unicode 16 text.toList = some (bits : ℤ)

theorem exists_of_isPrefixOf {text : List Char} (hstarts : ['3', '0'].isPrefixOf text = true) :
    ∃ rest, text = '3' :: '0' :: rest := by
  obtain ⟨rest, hrest⟩ := List.isPrefixOf_iff_prefix.mp hstarts
  exact ⟨rest, hrest.symm⟩

/-- The segments are taken from the 96 bits of the number. -/
theorem parse_of_reaches {unicode : Unicode} {text : String} {bits : ℕ}
    (hreaches : Reaches unicode text bits) :
    bits < 2 ^ 96 ∧ parseSgtin96 unicode text = parseBinary unicode (binaryOf bits) := by
  obtain ⟨hlength, hstarts, hread⟩ := hreaches
  obtain ⟨rest, hrest⟩ := exists_of_isPrefixOf hstarts
  have hbits : bits < 2 ^ 96 := by
    rw [hrest] at hlength hread
    obtain ⟨number, hnumber, hlt⟩ := read_lt unicode (by decide) (by decide) hread
    have hdigits : ('0' :: rest).length + 1 = 24 := hlength
    rw [hdigits] at hlt
    rw [Int.natCast_inj.mp hnumber]
    exact lt_of_lt_of_eq hlt (by norm_num)
  have hbinary : zfill 96 (zfill 20 (Nat.toDigits 2 bits)) = binaryOf bits := by
    rw [zfill_zfill (by decide), zfill_toDigits (by decide) (by decide) hbits, binaryOf]
  refine ⟨hbits, ?_⟩
  unfold parseSgtin96
  dsimp only
  rw [if_neg (by rw [hrest]; exact Bool.false_ne_true), if_neg (not_not.mpr hlength), hread]
  dsimp only
  rw [if_pos hstarts, Int.toNat_natCast, hbinary]

/-- Any other text is refused. -/
theorem parse_of_not_reaches {unicode : Unicode} {text : String}
    (hnot : ∀ bits, ¬ Reaches unicode text bits) :
    ∃ reason, parseSgtin96 unicode text = .error (.valueError reason) := by
  unfold parseSgtin96
  dsimp only
  split
  · exact ⟨_, rfl⟩
  · split
    · exact ⟨_, rfl⟩
    · rename_i hlength
      cases hread : read unicode 16 text.toList with
      | none => exact ⟨_, rfl⟩
      | some number =>
        dsimp only
        split
        · rename_i hstarts
          obtain ⟨rest, hrest⟩ := exists_of_isPrefixOf hstarts
          have hdigits := hread
          rw [hrest] at hdigits
          obtain ⟨bits, rfl, -⟩ := read_lt unicode (by decide) (by decide) hdigits
          exact absurd ⟨not_not.mp hlength, hstarts, hread⟩ (hnot bits)
        · exact ⟨_, rfl⟩

/-! ## Hexadecimal texts -/

theorem read_of_hexadecimal (unicode : Unicode) {text : String} (hhex : Hexadecimal text) :
    read unicode 16 text.toList = some (bitsOf text : ℤ) := by
  refine read_of_digits unicode (fun hnil => ?_) hhex.2
  have hlength := hhex.1
  rw [hnil] at hlength
  cases hlength

/-- A text of hexadecimal digits starts with 30 if and only if its header is 0x30. -/
theorem isPrefixOf_iff_header {text : String} (hhex : Hexadecimal text) :
    ['3', '0'].isPrefixOf text.toList = true ↔ bitsOf text / 2 ^ 88 = 0x30 := by
  obtain ⟨hlength, hdigits⟩ := hhex
  rcases htext : text.toList with _ | ⟨first, _ | ⟨second, rest⟩⟩
  · rw [htext] at hlength
    cases hlength
  · rw [htext] at hlength
    cases hlength
  rw [htext] at hlength hdigits
  obtain ⟨high, hhigh⟩ := Option.isSome_iff_exists.mp (hdigits first (List.mem_cons_self ..))
  obtain ⟨low, hlow⟩ := Option.isSome_iff_exists.mp
    (hdigits second (List.mem_cons_of_mem _ (List.mem_cons_self ..)))
  have hrest : (rest.filterMap (digitValue 16)).length = 22 := by
    rw [List.length_filterMap_eq_countP, List.countP_eq_length.mpr]
    · simpa using hlength
    · exact fun digit hmem =>
        hdigits digit (List.mem_cons_of_mem _ (List.mem_cons_of_mem _ hmem))
  have hvalue : bitsOf text =
      value 16 [high, low] * 16 ^ 22 + value 16 (rest.filterMap (digitValue 16)) := by
    rw [bitsOf, htext, List.filterMap_cons_some hhigh, List.filterMap_cons_some hlow, ← hrest,
      ← value_append]
    rfl
  have hsmall : value 16 (rest.filterMap (digitValue 16)) < 16 ^ 22 := by
    rw [← hrest]
    refine value_lt fun digit hmem => ?_
    obtain ⟨char, -, hchar⟩ := List.mem_filterMap.mp hmem
    exact digitValue_lt hchar
  have hheader : bitsOf text / 2 ^ 88 = high * 16 + low := by
    have hhead : value 16 [high, low] = high * 16 + low := by simp [value]
    rw [hvalue, hhead, show (2 : ℕ) ^ 88 = 16 ^ 22 by norm_num, Nat.mul_comm,
      Nat.mul_add_div (by positivity), Nat.div_eq_of_lt hsmall, Nat.add_zero]
  have hhighLt := digitValue_lt hhigh
  have hlowLt := digitValue_lt hlow
  rw [hheader]
  constructor
  · intro hstarts
    obtain ⟨others, hothers⟩ := exists_of_isPrefixOf hstarts
    cases hothers
    cases hhigh
    cases hlow
    rfl
  · intro hsum
    have hthree : high = 3 := by omega
    have hzero : low = 0 := by omega
    rw [eq_digitChar hhigh (by omega), eq_digitChar hlow (by omega), hthree, hzero]
    rfl

/-! ## What is accepted -/

/-- The text is accepted if and only if it is a valid tag, without loss then, and refused
with a `ValueError` otherwise. -/
def AcceptsExactly (unicode : Unicode) (text : String) : Prop :=
  (Valid text → ∃ tag sizes, parseSgtin96 unicode text = .ok tag ∧
    Lossless (bitsOf text) tag sizes) ∧
  (¬ Valid text → ∃ reason, parseSgtin96 unicode text = .error (.valueError reason))

theorem lookup_partition_eq_none_iff {partition : ℕ} (hpartition : partition < 8) :
    sgtin96PartitionMap.lookup partition = none ↔ partition = 7 := by
  revert partition
  decide

/-- What the parser makes of a number: an exception that is no `ValueError` for the one
partition that has no entry, segments for fields that fit, and a `ValueError` for others. -/
theorem parseBinary_cases (unicode : Unicode) {bits : ℕ} (hbits : bits < 2 ^ 96) :
    (partitionOf bits = 7 ∧ ¬ Fits bits ∧
      ∃ key, parseBinary unicode (binaryOf bits) = .error (.keyError key)) ∨
    (partitionOf bits ≠ 7 ∧ Fits bits ∧ ∃ tag sizes,
      parseBinary unicode (binaryOf bits) = .ok tag ∧ Lossless bits tag sizes) ∨
    (partitionOf bits ≠ 7 ∧ ¬ Fits bits ∧
      ∃ reason, parseBinary unicode (binaryOf bits) = .error (.valueError reason)) := by
  have hpartition : partitionOf bits < 8 := Nat.mod_lt _ (by decide)
  rw [run_parseBinary]
  cases hfound : sgtin96PartitionMap.lookup (partitionOf bits) with
  | none =>
    refine .inl ⟨(lookup_partition_eq_none_iff hpartition).mp hfound, ?_, _, rfl⟩
    rintro ⟨sizes, hsizes, -⟩
    rw [hfound] at hsizes
    cases hsizes
  | some sizes =>
    have hseven : partitionOf bits ≠ 7 := by
      intro hpartitionSeven
      rw [(lookup_partition_eq_none_iff hpartition).mpr hpartitionSeven] at hfound
      cases hfound
    dsimp only
    by_cases hcompany : 10 ^ sizes.companyDigits ≤ companyOf sizes bits
    · refine .inr (.inr ⟨hseven, ?_, _, if_pos hcompany⟩)
      rintro ⟨others, hothers, hless, -⟩
      rw [hfound, Option.some.injEq] at hothers
      rw [← hothers] at hless
      exact Nat.not_lt.mpr hcompany hless
    · rw [if_neg hcompany]
      by_cases hitem : 10 ^ sizes.itemDigits ≤ itemOf sizes bits
      · refine .inr (.inr ⟨hseven, ?_, _, if_pos hitem⟩)
        rintro ⟨others, hothers, -, hless⟩
        rw [hfound, Option.some.injEq] at hothers
        rw [← hothers] at hless
        exact Nat.not_lt.mpr hitem hless
      · have hcompanyLt := Nat.lt_of_not_le hcompany
        have hitemLt := Nat.lt_of_not_le hitem
        exact .inr (.inl ⟨hseven, ⟨sizes, hfound, hcompanyLt, hitemLt⟩, _, sizes,
          if_neg hitem, lossless_of_fits hbits hfound hcompanyLt hitemLt⟩)

/-- A text is treated as it should be if and only if it does not reach the segments, or its
partition is not 7 and, if its fields fit, it is made of hexadecimal digits alone. -/
theorem parseSgtin96_accepts_iff (unicode : Unicode) (text : String) :
    AcceptsExactly unicode text ↔
      ∀ bits, Reaches unicode text bits →
        partitionOf bits ≠ 7 ∧ (Fits bits → Hexadecimal text) := by
  have hsame : ∀ bits, Reaches unicode text bits → Hexadecimal text → bits = bitsOf text := by
    intro bits hreaches hhex
    have hread := hreaches.2.2
    rw [read_of_hexadecimal unicode hhex, Option.some.injEq] at hread
    exact (Int.natCast_inj.mp hread).symm
  have hvalid : ∀ bits, Reaches unicode text bits →
      (Valid text ↔ Hexadecimal text ∧ Fits bits) := by
    intro bits hreaches
    refine ⟨fun ⟨hhex, _, hfits⟩ => ⟨hhex, hsame bits hreaches hhex ▸ hfits⟩,
      fun ⟨hhex, hfits⟩ => ⟨hhex, (isPrefixOf_iff_header hhex).mp hreaches.2.1, ?_⟩⟩
    exact hsame bits hreaches hhex ▸ hfits
  constructor
  · rintro ⟨haccepts, hrefuses⟩ bits hreaches
    obtain ⟨hbits, hparse⟩ := parse_of_reaches hreaches
    rcases parseBinary_cases unicode hbits with
      ⟨-, hmisfit, key, hkey⟩ | ⟨hseven, -, tag, sizes, htag, -⟩ | ⟨hseven, hmisfit, -⟩
    · obtain ⟨reason, hreason⟩ := hrefuses fun hok => hmisfit ((hvalid bits hreaches).mp hok).2
      rw [hparse, hkey] at hreason
      cases hreason
    · refine ⟨hseven, fun _ => ?_⟩
      by_contra hnot
      obtain ⟨reason, hreason⟩ := hrefuses fun hok => hnot hok.1
      rw [hparse, htag] at hreason
      cases hreason
    · exact ⟨hseven, fun hfits => absurd hfits hmisfit⟩
  · intro hcondition
    constructor
    · rintro ⟨hhex, hheader, hfits⟩
      have hreaches : Reaches unicode text (bitsOf text) :=
        ⟨hhex.1, (isPrefixOf_iff_header hhex).mpr hheader, read_of_hexadecimal unicode hhex⟩
      obtain ⟨hbits, hparse⟩ := parse_of_reaches hreaches
      rw [hparse]
      rcases parseBinary_cases unicode hbits with
        ⟨-, hmisfit, -⟩ | ⟨-, -, hok⟩ | ⟨-, hmisfit, -⟩
      · exact absurd hfits hmisfit
      · exact hok
      · exact absurd hfits hmisfit
    · intro hinvalid
      by_cases hreach : ∃ bits, Reaches unicode text bits
      · obtain ⟨bits, hreaches⟩ := hreach
        obtain ⟨hseven, hhexadecimal⟩ := hcondition bits hreaches
        obtain ⟨hbits, hparse⟩ := parse_of_reaches hreaches
        rw [hparse]
        rcases parseBinary_cases unicode hbits with
          ⟨hpartition, -⟩ | ⟨-, hfits, -⟩ | ⟨-, -, hreason⟩
        · exact absurd hpartition hseven
        · exact absurd ((hvalid bits hreaches).mpr ⟨hhexadecimal hfits, hfits⟩) hinvalid
        · exact hreason
      · exact parse_of_not_reaches fun bits hreaches => hreach ⟨bits, hreaches⟩

example : parseSgtin96ToUri asciiOnly "30204ed9496334000000006e" =
    .ok "urn:epc:id:sgtin:084663228621.0.110" := by decide +kernel

/-- Partition 7 raises a `KeyError`, and an underscore between two digits is accepted. -/
theorem parseSgtin96_not_exact :
    ¬ AcceptsExactly asciiOnly "301C00000000000000000000" ∧
      ¬ AcceptsExactly asciiOnly "30_04ed9496334000000006e" := by
  constructor
  · rintro ⟨-, hrefuses⟩
    have hparse : parseSgtin96 asciiOnly "301C00000000000000000000" = .error (.keyError "7") := by
      decide +kernel
    obtain ⟨reason, hreason⟩ := hrefuses fun hvalid => by
      obtain ⟨sizes, hfound, -⟩ := hvalid.2.2
      have hnone : sgtin96PartitionMap.lookup (partitionOf (bitsOf "301C00000000000000000000")) =
          none := by decide +kernel
      rw [hnone] at hfound
      cases hfound
    rw [hparse] at hreason
    cases hreason
  · rintro ⟨-, hrefuses⟩
    have hok : (parseSgtin96 asciiOnly "30_04ed9496334000000006e").isOk = true := by
      decide +kernel
    obtain ⟨reason, hreason⟩ := hrefuses fun hvalid => by
      have hdigit := hvalid.1.2 '_' (by decide)
      revert hdigit
      decide
    rw [hreason] at hok
    cases hok

end Sllurp.Epc
