/-
# The TV marker

The high bit of the first byte of a parameter says that it is a TV. Data with that bit
and without a registered TV type are nevertheless looked at as a TLV, whose type leaves
the bits above its ten aside. So the marker decides only if the type is registered, or
if what follows is not the header of a TLV either.
-/

import Sllurp.Codec.HeaderRoundTrip
import Sllurp.Codec.Sound

namespace Sllurp.Codec

open Sllurp.Foundations Sllurp.Foundations.Wire Sllurp.Foundations.Outcome Sllurp.Protocol

/-! ## Two readings of the same bytes -/

/-- The registered TV of a type, of its fixed length. -/
def tvHeader (type : ℕ) : Option ParamHeader :=
  (tveParamFormats.lookup type).map fun (_, formats) =>
    { paramType := type, headerLength := 1, fullLength := 1 + recordSize formats }

/-- The type that the first two bytes have for a TLV. -/
def tlvType (data : List UInt8) : ℕ := ofBytes (data.take 2) % 1024

/-- The length that the next two bytes have for a TLV. -/
def tlvLength (data : List UInt8) : ℕ := ofBytes ((data.drop 2).take 2)

/-- The data do not start with the header of a TLV: they are too short for it, or the
length is. The header of a custom parameter takes twelve bytes. -/
def NoTLV (data : List UInt8) : Prop :=
  data.length < 4 ∨ tlvLength data < 4 ∨
    tlvType data = typeCustom ∧ (data.length < 12 ∨ tlvLength data < 12)

theorem unpack_tlvHead {data : List UInt8} (hdata : 4 ≤ data.length) :
    unpackStruct tlvParHeader (data.take (recordSize tlvParHeader)) =
      .ok ((ofBytes (data.take 2) : ℤ), (tlvLength data : ℤ), ()) := by
  obtain ⟨a, b, c, d, rest, rfl⟩ : ∃ a b c d rest, data = a :: b :: c :: d :: rest := by
    match data, hdata with
    | a :: b :: c :: d :: rest, _ => exact ⟨a, b, c, d, rest, rfl⟩
  rfl

/-- Data with the header of a TLV. -/
theorem tlvParamHeaderDecode_of_tlv {data : List UInt8} (htlv : ¬ NoTLV data) :
    ∃ header, tlvParamHeaderDecode data = .ok (some header) ∧ header.paramType = tlvType data ∧
      header.fullLength = tlvLength data ∧ 4 ≤ header.headerLength ∧
      header.headerLength ≤ header.fullLength := by
  unfold NoTLV at htlv
  have hdata : 4 ≤ data.length := by omega
  have hlength : 4 ≤ tlvLength data := by omega
  unfold tlvParamHeaderDecode
  rw [if_neg (by change ¬ _ < 4; omega), unpack_tlvHead hdata]
  simp only [ok_bind, Int.toNat_natCast]
  rw [if_neg (by change ¬ _ < 4; omega)]
  by_cases hcustom : ofBytes (data.take 2) % 1024 = typeCustom
  · have hlong : 12 ≤ data.length ∧ 12 ≤ tlvLength data := by
      unfold tlvType at htlv
      omega
    rw [if_pos hcustom]
    unfold customParamHeaderDecode
    rw [if_neg (by change ¬ _ < 12; omega), if_neg (by change ¬ _ < 12; omega)]
    have hvendor : ((data.take (recordSize parCustomHeader)).drop
        (recordSize tlvParHeader)).length = recordSize parVendorSubtype := by
      rw [List.length_drop, List.length_take]
      change min 12 data.length - 4 = 8
      omega
    obtain ⟨⟨vendorId, subtype, _⟩, hunpack⟩ := exists_unpackStruct hvendor
    rw [hunpack]
    exact ⟨_, rfl, hcustom.symm, rfl, Nat.le_add_right 4 8, hlong.2⟩
  · rw [if_neg hcustom]
    exact ⟨_, rfl, rfl, rfl, Nat.le_refl 4, hlength⟩

/-- Data without the header of a TLV. -/
theorem tlvParamHeaderDecode_of_noTLV {data : List UInt8} (hno : NoTLV data)
    (header : ParamHeader) : tlvParamHeaderDecode data ≠ .ok (some header) := by
  intro hdecode
  obtain ⟨length, hpack, hlong, hdata, hform⟩ := tlvParamHeaderDecode_eq_ok hdecode
  have hlength : length = tlvLength data := by
    obtain ⟨⟨first, second, _⟩, hvalues, -, hunpack⟩ := unpackStruct_of_packStruct hpack
    have hhead : unpackStruct tlvParHeader (data.take 4) =
        .ok ((ofBytes (data.take 2) : ℤ), (tlvLength data : ℤ), ()) := unpack_tlvHead hdata
    rw [hhead] at hunpack
    cases hunpack
    simp only [List.map_cons, List.map_nil, numbers, Value.index_int, List.cons.injEq,
      Except.ok.injEq] at hvalues
    exact Int.ofNat.inj hvalues.2.1
  subst hlength
  rcases hno with hshort | hshort | ⟨htype, hshort⟩
  · omega
  · omega
  · rcases hform with ⟨hstandard, -⟩ | ⟨-, hheader⟩
    · exact hstandard htype
    · obtain ⟨vendor, sub, -, hlonger, -⟩ := customParamHeaderDecode_eq_ok hheader
      have hwhole : 12 ≤ data.length := by
        unfold customParamHeaderDecode at hheader
        split at hheader
        · cases hheader
        · rename_i hlengthy
          exact Nat.le_of_not_lt hlengthy
      omega

/-! ## With the marker -/

section Marked

variable {first : UInt8} {rest : List UInt8}

theorem paramHeaderDecode_of_registered (hmarked : 128 ≤ first.toNat) {header : ParamHeader}
    (htv : tvHeader (first.toNat % 128) = some header) :
    paramHeaderDecode (first :: rest) = .ok (some header) := by
  have hdecode : tveParamHeaderDecode (first :: rest) = some header := by
    rw [tveParamHeaderDecode, if_neg (by omega)]
    exact htv
  rw [paramHeaderDecode, if_neg (by simp), hdecode]

/-- A type that is not registered makes a TLV of a TV. -/
theorem paramHeaderDecode_of_unregistered (htv : tvHeader (first.toNat % 128) = none) :
    paramHeaderDecode (first :: rest) = tlvParamHeaderDecode (first :: rest) := by
  have hdecode : tveParamHeaderDecode (first :: rest) = none := by
    rw [tveParamHeaderDecode]
    split
    · rfl
    · exact htv
  rw [paramHeaderDecode, if_neg (by simp), hdecode]

end Marked

/-- The marker decides: a header that is found is the registered TV that the other seven
bits name, and without a header the data are refused wherever they stand. -/
def MarkerDecides (first : UInt8) (rest : List UInt8) : Prop :=
  (∀ header, paramHeaderDecode (first :: rest) = .ok (some header) →
    tvHeader (first.toNat % 128) = some header) ∧
  ((∀ header, paramHeaderDecode (first :: rest) ≠ .ok (some header)) →
    ∀ nFields fields, ∃ text,
      registry.decodeAllParameters nFields fields (first :: rest) = .error (.llrpError text))

/-- Data that no header stands in front of are refused. -/
theorem refused_of_no_header {data : List UInt8} (hdata : data ≠ [])
    (hnone : ∀ header, paramHeaderDecode data ≠ .ok (some header)) (nFields : List String)
    (fields : Fields) :
    ∃ text, registry.decodeAllParameters nFields fields data = .error (.llrpError text) := by
  rw [Registry.decodeAllParameters_eq registry_sound hdata]
  have hnot : ∀ header, ¬ Framed header data := fun header hframed =>
    hnone header hframed.decoded
  rcases @Registry.decodeParam_of_not_framed registry data hnot with hfound | ⟨text, herror⟩
  · rw [hfound]
    exact ⟨_, rfl⟩
  · rw [herror]
    exact ⟨text, rfl⟩

/-- The marker decides if and only if the type is registered or the data are no TLV. What
is decoded is a registered TV in two more cases: a TLV of the type zero is none, and one
that is longer than the data is refused. -/
theorem marker_decides_iff {first : UInt8} (hmarked : 128 ≤ first.toNat) (rest : List UInt8) :
    (MarkerDecides first rest ↔
      (tvHeader (first.toNat % 128)).isSome ∨ NoTLV (first :: rest)) ∧
    ((∀ header, Framed header (first :: rest) → tvHeader (first.toNat % 128) = some header) ↔
      (tvHeader (first.toNat % 128)).isSome ∨ NoTLV (first :: rest) ∨
        tlvType (first :: rest) = 0 ∨ (first :: rest).length < tlvLength (first :: rest)) := by
  cases htv : tvHeader (first.toNat % 128) with
  | some found =>
    have hdecode := @paramHeaderDecode_of_registered first rest hmarked found htv
    have hsame : ∀ header, paramHeaderDecode (first :: rest) = .ok (some header) →
        some found = some header := by
      intro header hheader
      rw [hdecode] at hheader
      cases hheader
      rfl
    have hdecides : MarkerDecides first rest :=
      ⟨by rw [htv]; exact hsame, fun hnone => absurd hdecode (hnone found)⟩
    exact ⟨iff_of_true hdecides (.inl rfl),
      iff_of_true (fun header hframed => hsame header hframed.decoded) (.inl rfl)⟩
  | none =>
    have hdecode := @paramHeaderDecode_of_unregistered first rest htv
    simp only [Option.isSome_none, Bool.false_eq_true, false_or]
    by_cases hno : NoTLV (first :: rest)
    · have hnone : ∀ header, paramHeaderDecode (first :: rest) ≠ .ok (some header) := by
        rw [hdecode]
        exact tlvParamHeaderDecode_of_noTLV hno
      have hdecides : MarkerDecides first rest :=
        ⟨fun header hheader => absurd hheader (hnone header),
          fun _ nFields fields => refused_of_no_header (List.cons_ne_nil _ _) hnone nFields fields⟩
      exact ⟨iff_of_true hdecides hno,
        iff_of_true (fun header hframed => absurd hframed.decoded (hnone header)) (.inl hno)⟩
    · obtain ⟨header, htlv, htype, hlength, -, hheaded⟩ := tlvParamHeaderDecode_of_tlv hno
      have hheader : paramHeaderDecode (first :: rest) = .ok (some header) := hdecode.trans htlv
      constructor
      · refine iff_of_false ?_ hno
        intro hdecides
        have htlvHeader := hdecides.1 header hheader
        rw [htv] at htlvHeader
        cases htlvHeader
      · rw [or_iff_right hno]
        constructor
        · intro hframes
          by_contra hgood
          rw [not_or, not_lt] at hgood
          have hframed : Framed header (first :: rest) :=
            ⟨hheader, by rw [htype]; exact hgood.1, hheaded, by rw [hlength]; exact hgood.2⟩
          cases hframes header hframed
        · rintro hbad other ⟨hother, htyped, -, hwhole⟩
          rw [hheader] at hother
          cases hother
          rw [htype] at htyped
          rw [hlength] at hwhole
          rcases hbad with hzero | hlong
          · exact absurd hzero htyped
          · omega

/-- An antenna has the marker and a registered type. -/
theorem marker_decides_antenna : MarkerDecides 129 [0, 3] :=
  (marker_decides_iff (by decide) [0, 3]).1.mpr (.inl rfl)

/-- A marked byte with the unregistered type 21, and bytes that make an LLRP status of it. -/
theorem marker_ignored :
    128 ≤ (0x95 : UInt8).toNat ∧ ¬ MarkerDecides 0x95 [0x1F, 0, 8, 0, 0, 0, 0] ∧
      ((registry.decodeAllParameters [] .empty [0x95, 0x1F, 0, 8, 0, 0, 0, 0]).toOption.bind
        (·.get? "LLRPStatus")).isSome := by
  refine ⟨by decide, ?_, by decide +kernel⟩
  intro hdecides
  have hstatus : paramHeaderDecode [0x95, 0x1F, 0, 8, 0, 0, 0, 0] =
      .ok (some { paramType := 287, headerLength := 4, fullLength := 8 }) := by decide +kernel
  have hnone : tvHeader ((0x95 : UInt8).toNat % 128) = none := by decide
  have htv := hdecides.1 _ hstatus
  rw [hnone] at htv
  cases htv

end Sllurp.Codec
