/-
# Records and headers

What packing writes, unpacking reads back, whatever comes after it. The same holds
of the headers of messages and parameters: a header that was encoded in front of a
body says the type it was encoded for and delimits that body.
-/

import Sllurp.Codec.Generators
import Sllurp.Codec.Walker

namespace Sllurp.Codec

open Sllurp.Foundations Sllurp.Foundations.Wire Sllurp.Foundations.Outcome Sllurp.Protocol

/-! ## Records -/

theorem packStruct_cons (format : Format) (formats : List Format) (value : Value)
    (values : List Value) :
    packStruct (format :: formats) (value :: values) =
      value.index >>= fun number =>
        if format.holds number then
          packStruct formats values >>= fun rest =>
            .ok (toBytes format.size (format.code number) ++ rest)
        else .error (.structError s!"number out of range for {format.size} bytes") := rfl

/-- Packing writes the record of the numbers that the values count as. -/
theorem packStruct_eq_ok_iff {formats : List Format} {values : List Value}
    {packed : List UInt8} :
    packStruct formats values = .ok packed ↔
      ∃ record : Record formats, values.map Value.index = (numbers record).map .ok ∧
        pack formats record = some packed := by
  induction formats generalizing values packed with
  | nil =>
    cases values with
    | nil =>
      constructor
      · intro hpack
        cases hpack
        exact ⟨(), rfl, rfl⟩
      · rintro ⟨_, -, hpack⟩
        cases hpack
        rfl
    | cons value values =>
      constructor
      · intro hpack
        cases hpack
      · rintro ⟨_, hvalues, -⟩
        cases hvalues
  | cons format formats ih =>
    cases values with
    | nil =>
      constructor
      · intro hpack
        cases hpack
      · rintro ⟨_, hvalues, -⟩
        cases hvalues
    | cons value values =>
      rw [packStruct_cons]
      constructor
      · intro hpack
        obtain ⟨number, hindex, hpack⟩ := bind_eq_ok_iff.mp hpack
        split at hpack
        · rename_i hholds
          obtain ⟨bytes, hrest, hpacked⟩ := bind_eq_ok_iff.mp hpack
          obtain ⟨record, hvalues, hbytes⟩ := ih.mp hrest
          cases hpacked
          refine ⟨(number, record), ?_, ?_⟩
          · rw [List.map_cons, hindex, hvalues]
            rfl
          · rw [pack_cons, if_pos hholds, hbytes, Option.map_some]
        · cases hpack
      · rintro ⟨⟨number, record⟩, hvalues, hpack⟩
        obtain ⟨hindex, hvalues⟩ := List.cons.inj hvalues
        rw [pack_cons] at hpack
        split at hpack
        · rename_i hholds
          obtain ⟨bytes, hbytes, rfl⟩ := Option.map_eq_some_iff.mp hpack
          rw [hindex, ok_bind, if_pos hholds, ih.mpr ⟨record, hvalues, hbytes⟩]
          rfl
        · cases hpack

theorem length_of_packStruct {formats : List Format} {values : List Value}
    {packed : List UInt8} (hpack : packStruct formats values = .ok packed) :
    packed.length = recordSize formats := by
  obtain ⟨record, -, hpack⟩ := packStruct_eq_ok_iff.mp hpack
  exact length_of_pack hpack

/-- Numbers that their formats hold are packed. -/
theorem exists_packStruct {formats : List Format} {record : Record formats}
    (hholds : holdsAll formats record) :
    ∃ packed, packStruct formats ((numbers record).map .int) = .ok packed := by
  obtain ⟨packed, hpack⟩ := Option.isSome_iff_exists.mp (pack_isSome_iff.mpr hholds)
  refine ⟨packed, packStruct_eq_ok_iff.mpr ⟨record, ?_, hpack⟩⟩
  rw [List.map_map]
  rfl

/-- What was packed is unpacked again. -/
theorem unpackStruct_of_packStruct {formats : List Format} {values : List Value}
    {packed : List UInt8} (hpack : packStruct formats values = .ok packed) :
    ∃ record : Record formats, values.map Value.index = (numbers record).map .ok ∧
      holdsAll formats record ∧ unpackStruct formats packed = .ok record := by
  obtain ⟨record, hvalues, hpack⟩ := packStruct_eq_ok_iff.mp hpack
  exact ⟨record, hvalues, holdsAll_of_pack hpack,
    unpackStruct_eq_ok_iff.mpr (unpack_of_pack hpack)⟩

/-- A record in two parts. -/
theorem packStruct_append {first second : List Format} {values others : List Value}
    {packed : List UInt8} (hlength : values.length = first.length)
    (hpack : packStruct (first ++ second) (values ++ others) = .ok packed) :
    ∃ front back, packStruct first values = .ok front ∧ packStruct second others = .ok back ∧
      packed = front ++ back := by
  induction first generalizing values packed with
  | nil =>
    rw [List.length_eq_zero_iff.mp hlength] at hpack ⊢
    exact ⟨[], packed, rfl, hpack, rfl⟩
  | cons format first ih =>
    obtain ⟨value, values, rfl⟩ := List.exists_cons_of_length_eq_add_one hlength
    rw [List.cons_append, List.cons_append, packStruct_cons] at hpack
    obtain ⟨number, hindex, hpack⟩ := bind_eq_ok_iff.mp hpack
    split at hpack
    · rename_i hholds
      obtain ⟨rest, hrest, hpacked⟩ := bind_eq_ok_iff.mp hpack
      obtain ⟨front, back, hfront, hback, rfl⟩ := ih (Nat.succ_inj.mp hlength) hrest
      cases hpacked
      refine ⟨_, back, ?_, hback, (List.append_assoc _ _ _).symm⟩
      rw [packStruct_cons, hindex, ok_bind, if_pos hholds, hfront, ok_bind]
    · cases hpack

/-- What was unpacked is packed again. -/
theorem packStruct_of_unpackStruct {formats : List Format} {data : List UInt8}
    {record : Record formats} (hunpack : unpackStruct formats data = .ok record) :
    packStruct formats ((numbers record).map .int) = .ok data := by
  apply packStruct_eq_ok_iff.mpr
  refine ⟨record, ?_, pack_of_unpack (unpackStruct_eq_ok_iff.mp hunpack)⟩
  rw [List.map_map]
  rfl

/-- Two records one after the other are a record. -/
theorem append_packStruct {first second : List Format} {values others : List Value}
    {front back : List UInt8} (hfront : packStruct first values = .ok front)
    (hback : packStruct second others = .ok back) :
    packStruct (first ++ second) (values ++ others) = .ok (front ++ back) := by
  induction first generalizing values front with
  | nil =>
    cases values with
    | nil =>
      cases hfront
      exact hback
    | cons value values => cases hfront
  | cons format first ih =>
    cases values with
    | nil => cases hfront
    | cons value values =>
      rw [packStruct_cons] at hfront
      obtain ⟨number, hindex, hfront⟩ := bind_eq_ok_iff.mp hfront
      split at hfront
      · rename_i hholds
        obtain ⟨rest, hrest, hfront⟩ := bind_eq_ok_iff.mp hfront
        cases hfront
        rw [List.cons_append, List.cons_append, packStruct_cons, hindex, ok_bind, if_pos hholds,
          ih hrest, ok_bind, List.append_assoc]
      · cases hfront

/-- What was packed at the start of data is unpacked there. -/
theorem unpackHead_append {formats : List Format} {values : List Value} {packed : List UInt8}
    (hpack : packStruct formats values = .ok packed) (tail : List UInt8) :
    ∃ record : Record formats, values.map Value.index = (numbers record).map .ok ∧
      holdsAll formats record ∧
      unpackStruct formats ((packed ++ tail).take (recordSize formats)) = .ok record := by
  rw [List.take_left' (length_of_packStruct hpack)]
  exact unpackStruct_of_packStruct hpack

/-! ## Message headers -/

/-- The common part of an encoded header. -/
theorem unpack_msgHeader {msgType total : ℕ} {ver : ℤ} {messageId : Value} {head : List UInt8}
    (hpack : packStruct msgHeader
      [.int (ver % 8 * 1024 + (msgType % 1024 : ℕ)), .int total, messageId] = .ok head) :
    ∃ number : ℕ, messageId.index = .ok number ∧
      unpackStruct msgHeader head =
        .ok (ver % 8 * 1024 + (msgType % 1024 : ℕ), (total : ℤ), (number : ℤ), ()) := by
  obtain ⟨⟨first, count, number, _⟩, hvalues, hholds, hunpack⟩ := unpackStruct_of_packStruct hpack
  simp only [List.map_cons, List.map_nil, numbers, Value.index_int, List.cons.injEq,
    Except.ok.injEq] at hvalues
  obtain ⟨rfl, rfl, hindex, -⟩ := hvalues
  have hnonneg : 0 ≤ number := hholds.2.2.1.1
  obtain ⟨number, rfl⟩ := Int.eq_ofNat_of_zero_le hnonneg
  exact ⟨number, hindex, hunpack⟩

/-- An encoded header says what it was encoded from and delimits the body behind it. -/
theorem msgHeaderDecode_of_encode {msgType length : ℕ}
    {version messageId vendorId subtype : Value} {head : List UInt8}
    (hencode : msgHeaderEncode msgType version length messageId vendorId subtype = .ok head) :
    ∃ header : MsgHeader,
      (∀ body : List UInt8, body.length = length → msgHeaderDecode (head ++ body) = .ok header) ∧
      header.msgType = msgType % 1024 ∧
      header.headerLength = head.length ∧ header.totalLength = head.length + length ∧
      messageId.index = .ok header.messageId ∧
      (∃ number, version.index = .ok number ∧ (header.version : ℤ) = number % 8) ∧
      (if msgType % 1024 = typeCustom then
        vendorId.index = .ok header.vendorId ∧ subtype.index = .ok header.subtype
      else header.vendorId = 0 ∧ header.subtype = 0) := by
  unfold msgHeaderEncode at hencode
  obtain ⟨ver, hversion, hencode⟩ := bind_eq_ok_iff.mp hencode
  rw [mapError_eq_ok_iff] at hversion
  have hfirst : (ver % 8 * 1024 + (msgType % 1024 : ℕ)).toNat % 1024 = msgType % 1024 := by omega
  have hver : ((ver % 8 * 1024 + (msgType % 1024 : ℕ)).toNat / 1024 % 8 : ℕ) = ver % 8 := by omega
  split at hencode
  · rename_i hcustom
    have hlength := length_of_packStruct hencode
    have hparts : packStruct (msgHeader ++ msgVendorSubtype)
        ([.int (ver % 8 * 1024 + (msgType % 1024 : ℕ)), .int (15 + length : ℕ), messageId] ++
          [vendorId, subtype]) = .ok head := hencode
    obtain ⟨common, vendorPart, hcommon, hvendorPart, rfl⟩ := packStruct_append rfl hparts
    obtain ⟨number, hindex, hunpack⟩ := unpack_msgHeader hcommon
    obtain ⟨⟨vendor, sub, _⟩, hvendors, hvendorHolds, hvendorUnpack⟩ :=
      unpackStruct_of_packStruct hvendorPart
    simp only [List.map_cons, List.map_nil, numbers, List.cons.injEq] at hvendors
    have hvendorNonneg : 0 ≤ vendor := hvendorHolds.1.1
    have hsubNonneg : 0 ≤ sub := hvendorHolds.2.1.1
    obtain ⟨vendor, rfl⟩ := Int.eq_ofNat_of_zero_le hvendorNonneg
    obtain ⟨sub, rfl⟩ := Int.eq_ofNat_of_zero_le hsubNonneg
    have hsize : common.length = 10 := length_of_packStruct hcommon
    have hvendorSize : vendorPart.length = 5 := length_of_packStruct hvendorPart
    refine ⟨⟨msgType % 1024, vendor, sub, (ver % 8).toNat, 15, 15 + length, number⟩, ?_, rfl, ?_,
      ?_, hindex, ⟨ver, hversion, by simp only; omega⟩, ?_⟩
    · intro body hbody
      have hdata : (common ++ vendorPart ++ body).length = 15 + length := by
        simp only [List.length_append, hsize, hvendorSize, hbody]
      have hcommonTake : (common ++ vendorPart ++ body).take 10 = common := by
        rw [List.append_assoc, List.take_left' hsize]
      have hvendorTake : ((common ++ vendorPart ++ body).take 15).drop 10 = vendorPart := by
        rw [List.take_left' (by rw [List.length_append, hsize, hvendorSize]),
          List.drop_left' hsize]
      have hvendorDecode : msgVendorDecode typeCustom (common ++ vendorPart ++ body) =
          .ok (vendor, sub, 15) := by
        unfold msgVendorDecode
        rw [if_neg (not_not.mpr rfl), if_neg (by change ¬ _ < 15; omega)]
        change (unpackStruct msgVendorSubtype
          (((common ++ vendorPart ++ body).take 15).drop 10) >>= _) = _
        rw [hvendorTake, hvendorUnpack]
        rfl
      unfold msgHeaderDecode
      rw [if_neg (by change ¬ _ < 10; omega)]
      change (unpackStruct msgHeader ((common ++ vendorPart ++ body).take 10) >>= _) = _
      rw [hcommonTake, hunpack]
      simp only [ok_bind, hfirst]
      rw [hcustom, hvendorDecode]
      simp only [ok_bind]
      rw [if_neg (by omega)]
      simp only [Except.ok.injEq, MsgHeader.mk.injEq]
      exact ⟨trivial, trivial, trivial, by omega, trivial, by omega, Int.toNat_natCast _⟩
    · rw [List.length_append, hsize, hvendorSize]
    · rw [List.length_append, hsize, hvendorSize]
    · rw [if_pos hcustom]
      exact ⟨hvendors.1, hvendors.2.1⟩
  · rename_i hstandard
    have hcommon : packStruct msgHeader
        [.int (ver % 8 * 1024 + (msgType % 1024 : ℕ)), .int (10 + length : ℕ), messageId] =
          .ok head := hencode
    have hsize : head.length = 10 := length_of_packStruct hcommon
    obtain ⟨number, hindex, hunpack⟩ := unpack_msgHeader hcommon
    refine ⟨⟨msgType % 1024, 0, 0, (ver % 8).toNat, 10, 10 + length, number⟩, ?_, rfl, hsize.symm,
      by rw [hsize], hindex, ⟨ver, hversion, by simp only; omega⟩, ?_⟩
    · intro body hbody
      have hdata : (head ++ body).length = 10 + length := by
        rw [List.length_append, hsize, hbody]
      unfold msgHeaderDecode
      rw [if_neg (by change ¬ _ < 10; omega)]
      change (unpackStruct msgHeader ((head ++ body).take 10) >>= _) = _
      rw [List.take_left' hsize, hunpack]
      simp only [ok_bind, hfirst]
      rw [msgVendorDecode, if_pos hstandard, ok_bind]
      change (if (10 + length : ℕ) < 10 then _ else _) = _
      rw [if_neg (by omega)]
      simp only [Except.ok.injEq, MsgHeader.mk.injEq]
      exact ⟨trivial, trivial, trivial, by omega, rfl, Int.toNat_natCast _, Int.toNat_natCast _⟩
    · rw [if_neg hstandard]
      exact ⟨rfl, rfl⟩

/-- A header with numbers in their ranges is encoded. -/
theorem exists_msgHeaderEncode {msgType length : ℕ} {version messageId vendorId subtype : ℤ}
    (hid : Format.uint.holds messageId)
    (hcustom : msgType % 1024 = typeCustom → length + 15 < 4294967296 ∧
      Format.uint.holds vendorId ∧ Format.ubyte.holds subtype)
    (hstandard : msgType % 1024 ≠ typeCustom → length + 10 < 4294967296) :
    ∃ head, msgHeaderEncode msgType (.int version) length (.int messageId) (.int vendorId)
      (.int subtype) = .ok head := by
  have hfirst : Format.ushort.holds (version % 8 * 1024 + (msgType : ℤ) % 1024) := by
    rw [Format.holds_ushort]
    omega
  unfold msgHeaderEncode
  simp only [Value.index_int, mapError_ok, ok_bind]
  split
  · rename_i htype
    obtain ⟨hlength, hvendor, hsubtype⟩ := hcustom htype
    have htotal : Format.uint.holds ((recordSize msgHeaderCustom : ℤ) + length) := by
      change (0 : ℤ) ≤ 15 + length ∧ (15 + length : ℤ) < 4294967296
      omega
    exact @exists_packStruct msgHeaderCustom
      (version % 8 * 1024 + (msgType : ℤ) % 1024, (recordSize msgHeaderCustom : ℤ) + length,
        messageId, vendorId, subtype, ())
      ⟨hfirst, htotal, hid, hvendor, hsubtype, trivial⟩
  · rename_i htype
    have hlength := hstandard htype
    have htotal : Format.uint.holds ((recordSize msgHeader : ℤ) + length) := by
      change (0 : ℤ) ≤ 10 + length ∧ (10 + length : ℤ) < 4294967296
      omega
    exact @exists_packStruct msgHeader
      (version % 8 * 1024 + (msgType : ℤ) % 1024, (recordSize msgHeader : ℤ) + length,
        messageId, ())
      ⟨hfirst, htotal, hid, trivial⟩

end Sllurp.Codec
