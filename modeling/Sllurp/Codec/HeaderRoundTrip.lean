/-
# Headers read back

The header codecs undo each other. A header that was encoded in front of a body says
what it was encoded from, whatever comes behind it; and a header that is accepted,
with its reserved bits zero, is encoded again to the same bytes. The three forms of
parameter headers are told apart by their first byte, since the type of a TLV leaves
the high bits of its first byte free.
-/

import Sllurp.Codec.Records
import Sllurp.Codec.Registry

namespace Sllurp.Codec

open Sllurp.Foundations Sllurp.Foundations.Wire Sllurp.Foundations.Outcome Sllurp.Protocol

/-! ## Message headers -/

/-- The bits of the first word above version and type. -/
def reservedMessageBits (data : List UInt8) : ℕ := ofBytes (data.take 2) / 8192

/-- What unpacking a header starts with. -/
theorem unpack_first {formats : List Format} {data : List UInt8} {first : ℤ}
    {rest : Record formats} (hunpack : unpackStruct (.ushort :: formats) data = .ok (first, rest)) :
    first = ofBytes (data.take 2) ∧ ofBytes (data.take 2) < 65536 := by
  rw [unpackStruct_eq_ok_iff, unpack_cons] at hunpack
  split at hunpack
  · cases hunpack
  · obtain ⟨_, -, hrecord⟩ := Option.map_eq_some_iff.mp hunpack
    have hlt := ofBytes_lt (data.take 2)
    have hpow : 256 ^ (data.take 2).length ≤ 256 ^ 2 :=
      Nat.pow_le_pow_right (by decide) (List.length_take_le _ _)
    exact ⟨(Prod.mk.inj hrecord).1.symm, hlt.trans_le hpow⟩

theorem holdsAll_of_unpack {formats : List Format} {data : List UInt8} {record : Record formats}
    (hunpack : unpackStruct formats data = .ok record) : holdsAll formats record :=
  holdsAll_of_pack (pack_of_unpack (unpackStruct_eq_ok_iff.mp hunpack))

/-- The part of a header that only custom messages have. -/
theorem msgVendorDecode_eq_ok {msgType vendorId subtype headerLength : ℕ} {data : List UInt8}
    (hvendor : msgVendorDecode msgType data = .ok (vendorId, subtype, headerLength)) :
    msgType ≠ typeCustom ∧ headerLength = 10 ∨
      msgType = typeCustom ∧ headerLength = 15 ∧
        packStruct msgVendorSubtype [.int vendorId, .int subtype] =
          .ok ((data.take 15).drop 10) := by
  unfold msgVendorDecode at hvendor
  simp only at hvendor
  split at hvendor
  · rename_i hstandard
    cases hvendor
    exact .inl ⟨hstandard, rfl⟩
  · rename_i hcustom
    split at hvendor
    · cases hvendor
    · obtain ⟨⟨vendor, sub, _⟩, hunpack, hvendor⟩ := bind_eq_ok_iff.mp hvendor
      cases hvendor
      obtain ⟨⟨hvendorNonneg, -⟩, ⟨hsubNonneg, -⟩, -⟩ := holdsAll_of_unpack hunpack
      refine .inr ⟨not_not.mp hcustom, rfl, ?_⟩
      rw [Int.toNat_of_nonneg hvendorNonneg, Int.toNat_of_nonneg hsubNonneg]
      exact packStruct_of_unpackStruct hunpack

/-- A message header that is accepted is encoded again to the same bytes. -/
theorem msgHeaderEncode_of_decode {data : List UInt8} {header : MsgHeader}
    (hdecode : msgHeaderDecode data = .ok header) (hreserved : reservedMessageBits data = 0) :
    msgHeaderEncode header.msgType (.int header.version)
        (header.totalLength - header.headerLength) (.int header.messageId)
        (.int header.vendorId) (.int header.subtype) =
      .ok (data.take header.headerLength) := by
  unfold msgHeaderDecode at hdecode
  split at hdecode
  · cases hdecode
  · obtain ⟨⟨first, total, messageId, _⟩, hunpack, hdecode⟩ := bind_eq_ok_iff.mp hdecode
    obtain ⟨⟨vendorId, subtype, headerLength⟩, hvendor, hdecode⟩ := bind_eq_ok_iff.mp hdecode
    simp only at hdecode
    by_cases hlong : total.toNat < headerLength
    · rw [if_pos hlong] at hdecode
      cases hdecode
    · rw [if_neg hlong] at hdecode
      cases hdecode
      have hcommon := packStruct_of_unpackStruct hunpack
      simp only [numbers, List.map_cons, List.map_nil] at hcommon
      obtain ⟨hfirst, -⟩ := unpack_first hunpack
      obtain ⟨-, ⟨htotal, -⟩, ⟨hid, -⟩, -⟩ := holdsAll_of_unpack hunpack
      have hsame : (data.take (recordSize msgHeader)).take 2 = data.take 2 := by
        rw [List.take_take]
        rfl
      have hword : ((first.toNat / 1024 % 8 : ℕ) : ℤ) % 8 * 1024 +
          ((first.toNat % 1024 : ℕ) : ℤ) % 1024 = first := by
        rw [hsame] at hfirst
        unfold reservedMessageBits at hreserved
        omega
      unfold msgHeaderEncode
      simp only [Value.index_int, mapError_ok, ok_bind, hword]
      rw [Int.toNat_of_nonneg hid]
      rcases msgVendorDecode_eq_ok hvendor with ⟨hstandard, rfl⟩ | ⟨hcustom, rfl, hvendorPart⟩
      · rw [if_neg (by rw [Nat.mod_mod]; exact hstandard)]
        have hcount : ((recordSize msgHeader : ℕ) : ℤ) + ((total.toNat - 10 : ℕ) : ℤ) = total := by
          change (10 : ℤ) + _ = _
          omega
        rw [hcount]
        exact hcommon
      · rw [if_pos (by rw [Nat.mod_mod]; exact hcustom)]
        have hcount :
            ((recordSize msgHeaderCustom : ℕ) : ℤ) + ((total.toNat - 15 : ℕ) : ℤ) = total := by
          change (15 : ℤ) + _ = _
          omega
        have hparts : data.take (recordSize msgHeader) ++ (data.take 15).drop 10 =
            data.take 15 := by
          change data.take 10 ++ _ = _
          have hfront : data.take 10 = (data.take 15).take 10 := by
            rw [List.take_take]
            rfl
          rw [hfront, List.take_append_drop]
        rw [hcount, ← hparts]
        exact append_packStruct hcommon hvendorPart

/-- A header of natural numbers that fit is encoded. -/
theorem exists_msgHeaderEncode_of_fits {msgType length messageId vendorId subtype : ℕ}
    (version : ℕ) (htype : msgType < 1024) (hid : messageId < 4294967296)
    (hfits : if msgType = typeCustom then
        length + 15 < 4294967296 ∧ vendorId < 4294967296 ∧ subtype < 256
      else length + 10 < 4294967296) :
    ∃ head, msgHeaderEncode msgType (.int version) length (.int messageId) (.int vendorId)
      (.int subtype) = .ok head := by
  have hmod : msgType % 1024 = msgType := Nat.mod_eq_of_lt htype
  apply exists_msgHeaderEncode
  · rw [Format.holds_uint]
    omega
  · intro hcustom
    rw [if_pos (hmod ▸ hcustom)] at hfits
    rw [Format.holds_uint, Format.holds_ubyte]
    omega
  · intro hstandard
    rw [if_neg (hmod ▸ hstandard)] at hfits
    exact hfits

/-- Such a header is read back in front of its body. -/
theorem msgHeaderDecode_of_encode_nat {msgType version messageId vendorId subtype : ℕ}
    {head body : List UInt8}
    (hencode : msgHeaderEncode msgType (.int version) body.length (.int messageId)
      (.int vendorId) (.int subtype) = .ok head)
    (htype : msgType < 1024) (hversion : version < 8) :
    msgHeaderDecode (head ++ body) = .ok
      { msgType, version, messageId
        vendorId := if msgType = typeCustom then vendorId else 0
        subtype := if msgType = typeCustom then subtype else 0
        headerLength := head.length
        totalLength := head.length + body.length } := by
  have hmod : msgType % 1024 = msgType := Nat.mod_eq_of_lt htype
  obtain ⟨⟨msgType', vendor, sub, ver, headerLength, totalLength, id⟩, hdecode, hmsgType, hheader,
    htotal, hid, ⟨number, hnumber, hver⟩, hvendors⟩ := msgHeaderDecode_of_encode hencode
  rw [hdecode body rfl, Except.ok.injEq, MsgHeader.mk.injEq]
  simp only [Value.index_int, Except.ok.injEq, Nat.cast_inj, hmod] at hid hnumber hmsgType hvendors
  refine ⟨hmsgType, ?_, ?_, ?_, hheader, htotal, hid.symm⟩
  · split at hvendors
    · rename_i hcustom
      rw [if_pos hcustom]
      exact hvendors.1.symm
    · rename_i hstandard
      rw [if_neg hstandard]
      exact hvendors.1
  · split at hvendors
    · rename_i hcustom
      rw [if_pos hcustom]
      exact hvendors.2.symm
    · rename_i hstandard
      rw [if_neg hstandard]
      exact hvendors.2
  · simp only at hver
    omega

/-! ## Parameter headers -/

/-- The bits of the first word of a TLV above the type. The header of a TV has none. -/
def reservedParamBits (header : ParamHeader) (data : List UInt8) : ℕ :=
  if header.headerLength = 1 then 0 else ofBytes (data.take 2) / 1024

/-- A type that headers can tell: a TV of a registered type with a body of its length, or
a TLV whose type leaves the reserved bits alone. -/
def Headed (layout : Layout) (body : List UInt8) : Prop :=
  if layout.tvEncoded then
    ∃ entry, tveParamFormats.lookup layout.type = some entry ∧ body.length = recordSize entry.2
  else layout.type < 1024

/-- The registered types of TVs fit below the marker. -/
theorem tveParamFormats_lt : ∀ entry ∈ tveParamFormats, entry.1 < 128 := by decide

/-- Data that do not have the marker are looked at as a TLV. -/
theorem paramHeaderDecode_of_unmarked {data : List UInt8} (hdata : data ≠ [])
    (hfirst : ofBytes (data.take 2) < 1024) (hlength : 2 ≤ data.length) :
    paramHeaderDecode data = tlvParamHeaderDecode data := by
  obtain ⟨first, second, rest, rfl⟩ : ∃ first second rest, data = first :: second :: rest := by
    match data, hlength with
    | first :: second :: rest, _ => exact ⟨first, second, rest, rfl⟩
  have hunmarked : first.toNat < 128 := by
    have hword : ofBytes [first, second] = (0 * 256 + first.toNat) * 256 + second.toNat := rfl
    change ofBytes [first, second] < 1024 at hfirst
    omega
  unfold paramHeaderDecode tveParamHeaderDecode
  rw [if_neg (by simp)]
  simp only [if_pos hunmarked]

/-- The common part of the header of a TLV, read in front of anything. -/
theorem unpack_tlvParHeader {type : ℕ} {total : ℤ} {head : List UInt8}
    (hpack : packStruct tlvParHeader [.int type, .int total] = .ok head) (tail : List UInt8) :
    unpackStruct tlvParHeader ((head ++ tail).take (recordSize tlvParHeader)) =
        .ok ((type : ℤ), total, ()) ∧
      ofBytes ((head ++ tail).take 2) = type ∧ head.length = 4 ∧ 0 ≤ total := by
  obtain ⟨⟨first, length, _⟩, hvalues, hholds, hunpack⟩ := unpackHead_append hpack tail
  simp only [List.map_cons, List.map_nil, numbers, Value.index_int, List.cons.injEq,
    Except.ok.injEq] at hvalues
  obtain ⟨rfl, rfl, -⟩ := hvalues
  have hsize : head.length = 4 := length_of_packStruct hpack
  have hfirst := (unpack_first hunpack).1
  have hsame : ((head ++ tail).take (recordSize tlvParHeader)).take 2 = (head ++ tail).take 2 := by
    rw [List.take_take]
    rfl
  rw [hsame] at hfirst
  exact ⟨hunpack, (Int.ofNat.inj hfirst).symm, hsize, hholds.2.1.1⟩

/-- What a header was encoded from: the type, the vendor if it is custom, and the lengths
of the header and of the whole parameter. -/
structure Describes (header : ParamHeader) (name : String) (layout : Layout) (par : Value)
    (head body : List UInt8) : Prop where
  paramType : header.paramType = layout.type
  vendor : if layout.tvEncoded = false ∧ layout.type = typeCustom then
      ∃ vendorId subtype, vendorOf (name = "CustomParameter") layout par = .ok (vendorId, subtype) ∧
        vendorId.index = .ok header.vendorId ∧ subtype.index = .ok header.subtype
    else header.vendorId = 0 ∧ header.subtype = 0
  headerLength : header.headerLength = head.length
  fullLength : header.fullLength = head.length + body.length

/-- A TV that was encoded. -/
theorem paramHeaderDecode_tv {type : ℕ} {head : List UInt8}
    (hpack : packStruct [.ubyte] [.int (128 + type)] = .ok head) {entry : String × List Format}
    (hentry : tveParamFormats.lookup type = some entry) (tail : List UInt8) :
    paramHeaderDecode (head ++ tail) =
        .ok (some { paramType := type, headerLength := 1, fullLength := 1 + recordSize entry.2 }) ∧
      head.length = 1 := by
  have hsmall : type < 128 := tveParamFormats_lt _ (mem_of_lookup hentry)
  have hhead : head = [UInt8.ofNat (128 + type)] := by
    have hindex : Value.index (.int (128 + type)) = .ok (128 + type : ℤ) := rfl
    have hholds : Format.ubyte.holds (128 + type : ℤ) := by
      rw [Format.holds_ubyte]
      omega
    rw [packStruct_cons, hindex, ok_bind, if_pos hholds] at hpack
    have hcode : Format.ubyte.code (128 + type : ℤ) = 128 + type := by
      change ((128 + type : ℤ) % 256).toNat = _
      omega
    rw [hcode] at hpack
    cases hpack
    rfl
  subst hhead
  have hfirst : (UInt8.ofNat (128 + type)).toNat = 128 + type := by
    rw [UInt8.toNat_ofNat']
    omega
  have htve : tveParamHeaderDecode (UInt8.ofNat (128 + type) :: tail) =
      some { paramType := type, headerLength := 1, fullLength := 1 + recordSize entry.2 } := by
    have hlow : (128 + type) % 128 = type := by omega
    rw [tveParamHeaderDecode, hfirst, if_neg (by omega), hlow, hentry]
    rfl
  refine ⟨?_, rfl⟩
  rw [List.singleton_append, paramHeaderDecode, if_neg (by simp), htve]

/-- A standard TLV that was encoded. -/
theorem paramHeaderDecode_tlv {type count : ℕ} {head : List UInt8}
    (hpack : packStruct tlvParHeader
      [.int type, .int ((recordSize tlvParHeader : ℕ) + (count : ℕ))] = .ok head)
    (htype : type < 1024) (hstandard : type ≠ typeCustom) (tail : List UInt8) :
    paramHeaderDecode (head ++ tail) =
        .ok (some { paramType := type, headerLength := 4, fullLength := 4 + count }) ∧
      head.length = 4 := by
  obtain ⟨hunpack, hword, hsize, -⟩ := unpack_tlvParHeader hpack tail
  have htotal : ((recordSize tlvParHeader : ℕ) + (count : ℕ) : ℤ).toNat = 4 + count := by
    change ((4 : ℤ) + _).toNat = _
    omega
  have hdata : (head ++ tail).length = 4 + tail.length := by
    rw [List.length_append, hsize]
  refine ⟨?_, hsize⟩
  rw [paramHeaderDecode_of_unmarked (by simp [← List.length_pos_iff, hsize]) (by omega) (by omega)]
  unfold tlvParamHeaderDecode
  rw [if_neg (by change ¬ _ < 4; omega), hunpack]
  simp only [ok_bind, htotal, Int.toNat_natCast, Nat.mod_eq_of_lt htype]
  rw [if_neg (by change ¬ _ < 4; omega), if_neg hstandard]
  rfl

/-- A custom TLV that was encoded. -/
theorem paramHeaderDecode_custom {count : ℕ} {vendorId subtype : Value} {head : List UInt8}
    (hpack : packStruct parCustomHeader
      [.int typeCustom, .int ((recordSize parCustomHeader : ℕ) + (count : ℕ)), vendorId, subtype] =
        .ok head) (tail : List UInt8) :
    ∃ vendor sub : ℕ, vendorId.index = .ok (vendor : ℤ) ∧ subtype.index = .ok (sub : ℤ) ∧
      paramHeaderDecode (head ++ tail) = .ok (some ⟨typeCustom, vendor, sub, 12, 12 + count⟩) ∧
      head.length = 12 := by
  have hparts : packStruct (tlvParHeader ++ parVendorSubtype)
      ([.int typeCustom, .int ((recordSize parCustomHeader : ℕ) + (count : ℕ))] ++
        [vendorId, subtype]) = .ok head := hpack
  obtain ⟨common, vendorPart, hcommon, hvendorPart, rfl⟩ := packStruct_append rfl hparts
  have hvendorSize : vendorPart.length = 8 := length_of_packStruct hvendorPart
  obtain ⟨⟨vendor, sub, _⟩, hvendors, hvendorHolds, hvendorUnpack⟩ :=
    unpackStruct_of_packStruct hvendorPart
  simp only [List.map_cons, List.map_nil, numbers, List.cons.injEq] at hvendors
  have hvendorNonneg : 0 ≤ vendor := hvendorHolds.1.1
  have hsubNonneg : 0 ≤ sub := hvendorHolds.2.1.1
  obtain ⟨vendor, rfl⟩ := Int.eq_ofNat_of_zero_le hvendorNonneg
  obtain ⟨sub, rfl⟩ := Int.eq_ofNat_of_zero_le hsubNonneg
  rw [List.append_assoc]
  obtain ⟨hunpack, hword, hsize, -⟩ := unpack_tlvParHeader hcommon (vendorPart ++ tail)
  have hdata : (common ++ (vendorPart ++ tail)).length = 12 + tail.length := by
    simp only [List.length_append, hsize, hvendorSize]
    omega
  have hvendorTake : ((common ++ (vendorPart ++ tail)).take 12).drop 4 = vendorPart := by
    rw [← List.append_assoc, List.take_left' (by rw [List.length_append, hsize, hvendorSize]),
      List.drop_left' hsize]
  have htotal : ((recordSize parCustomHeader : ℕ) + (count : ℕ) : ℤ).toNat = 12 + count := by
    change ((12 : ℤ) + _).toNat = _
    omega
  have hcustomHeader : customParamHeaderDecode (12 + count) (common ++ (vendorPart ++ tail)) =
      .ok (some ⟨typeCustom, vendor, sub, 12, 12 + count⟩) := by
    unfold customParamHeaderDecode
    rw [if_neg (by change ¬ _ < 12; omega), if_neg (by change ¬ _ < 12; omega)]
    change (unpackStruct parVendorSubtype
      (((common ++ (vendorPart ++ tail)).take 12).drop 4) >>= _) = _
    rw [hvendorTake, hvendorUnpack]
    rfl
  have hmod : typeCustom % 1024 = typeCustom := rfl
  have hsmall : typeCustom < 1024 := by decide
  refine ⟨vendor, sub, hvendors.1, hvendors.2.1, ?_, ?_⟩
  · rw [paramHeaderDecode_of_unmarked (by simp [← List.length_pos_iff, hsize]) (by omega)
      (by omega)]
    unfold tlvParamHeaderDecode
    rw [if_neg (by change ¬ _ < 4; omega), hunpack]
    simp only [ok_bind, htotal, Int.toNat_natCast, hmod, if_true]
    rw [if_neg (by change ¬ _ < 4; omega), hcustomHeader]
  · rw [List.length_append, hsize, hvendorSize]

/-- An encoded header describes its parameter, whatever comes behind the body. -/
theorem paramHeaderDecode_of_encode {name : String} {layout : Layout} {par : Value}
    {head body : List UInt8}
    (hencode : Registry.paramHeaderEncode name layout par body = .ok head)
    (hheaded : Headed layout body) (tail : List UInt8) :
    ∃ header, paramHeaderDecode (head ++ body ++ tail) = .ok (some header) ∧
      Describes header name layout par head body := by
  unfold Registry.paramHeaderEncode at hencode
  unfold Headed at hheaded
  rw [List.append_assoc]
  cases htv : layout.tvEncoded with
  | true =>
    rw [htv, if_pos rfl] at hencode hheaded
    obtain ⟨entry, hentry, hlength⟩ := hheaded
    have hsmall : layout.type < 128 := tveParamFormats_lt _ (mem_of_lookup hentry)
    rw [if_neg (by omega)] at hencode
    obtain ⟨hdecode, hsize⟩ := paramHeaderDecode_tv hencode hentry (body ++ tail)
    refine ⟨_, hdecode, rfl, ?_, hsize.symm, ?_⟩
    · rw [htv, if_neg (by simp)]
      exact ⟨rfl, rfl⟩
    · rw [hsize, hlength]
  | false =>
    rw [htv, if_neg Bool.false_ne_true] at hencode hheaded
    by_cases hcustom : layout.type = typeCustom
    · rw [if_pos hcustom] at hencode
      obtain ⟨⟨vendorId, subtype⟩, hvendor, hencode⟩ := bind_eq_ok_iff.mp hencode
      simp only [hcustom] at hencode
      obtain ⟨vendor, sub, hvendorId, hsubtype, hdecode, hsize⟩ :=
        paramHeaderDecode_custom hencode (body ++ tail)
      refine ⟨_, hdecode, hcustom.symm, ?_, hsize.symm, by rw [hsize]⟩
      rw [htv, if_pos ⟨rfl, hcustom⟩]
      exact ⟨vendorId, subtype, hvendor, hvendorId, hsubtype⟩
    · rw [if_neg hcustom] at hencode
      obtain ⟨hdecode, hsize⟩ := paramHeaderDecode_tlv hencode hheaded hcustom (body ++ tail)
      refine ⟨_, hdecode, rfl, ?_, hsize.symm, by rw [hsize]⟩
      rw [if_neg (by simp [hcustom])]
      exact ⟨rfl, rfl⟩

/-! ## Registered parameters -/

/-- What a header depends on. -/
def headerOf (entry : String × ParamInfo) : String × ℕ × Bool × Bool :=
  (entry.1, entry.2.type, entry.2.tvEncoded, entry.2.encode.isSome)

theorem map_headerOf_allParams (first second : ℤ → Option String) :
    (allParams first).map headerOf = (allParams second).map headerOf := by
  have herrors : (errorParams first).map headerOf = (errorParams second).map headerOf := rfl
  simp only [allParams, List.map_append, herrors]

theorem headers_registered :
    ∀ entry ∈ (allParams fun _ => none).map headerOf,
      if entry.2.2.1 then entry.2.2.2 = true → entry.1 = "C1G2SingulationDetails"
      else entry.2.1 < 1024 := by
  decide +kernel

/-- The headers of registered parameters can be told: of the TVs, only the singulation
details are encoded, as two numbers. -/
theorem headed_of_registered {name : String} {info : ParamInfo} {encode : Encoder}
    (hparam : registry.param name = some info) (hencoder : info.encode = some encode)
    {encodeParam : String → Value → Except Exn (List UInt8)} {par : Value} {body : List UInt8}
    (hencode : encode encodeParam info.toLayout par = .ok body) : Headed info.toLayout body := by
  have hmem : headerOf (name, info) ∈ (allParams fun _ => none).map headerOf := by
    rw [map_headerOf_allParams _ fun type => paramType2Name.lookup (type.toNat, 0, 0)]
    exact List.mem_map_of_mem (mem_of_lookup hparam)
  have hheader := headers_registered _ hmem
  unfold Headed
  cases htv : info.tvEncoded with
  | false => simpa [headerOf, htv] using hheader
  | true =>
    have hname : name = "C1G2SingulationDetails" := by
      simpa [headerOf, htv, hencoder] using hheader
    subst hname
    have hfound : registry.param "C1G2SingulationDetails" = some
        { type := 18, tvEncoded := true
          ownFields := ["NumCollisionSlots", "NumEmptySlots"]
          decode := some (basicParamDecodeGenerator [.ushort, .ushort]
            ["NumCollisionSlots", "NumEmptySlots"])
          encode := some (basicParamEncodeGenerator [.ushort, .ushort]
            ["NumCollisionSlots", "NumEmptySlots"]) } := rfl
    rw [hfound] at hparam
    cases hparam
    cases hencoder
    obtain ⟨values, -, hpack⟩ := bind_eq_ok_iff.mp hencode
    rw [if_pos rfl]
    exact ⟨_, rfl, length_of_packStruct hpack⟩

/-! ## Accepted parameter headers -/

/-- The layout of a parameter type that a header names. -/
def ParamHeader.layout (header : ParamHeader) : Layout where
  type := header.paramType
  vendorId := header.vendorId
  subtype := header.subtype
  tvEncoded := header.headerLength = 1

/-- A TV header is one byte with the marker. -/
theorem tveParamHeaderDecode_eq_some {data : List UInt8} {header : ParamHeader}
    (hdecode : tveParamHeaderDecode data = some header) :
    ∃ type entry, tveParamFormats.lookup type = some entry ∧
      data.take 1 = [UInt8.ofNat (128 + type)] ∧
      header = { paramType := type, headerLength := 1, fullLength := 1 + recordSize entry.2 } := by
  cases data with
  | nil => cases hdecode
  | cons first data =>
    rw [tveParamHeaderDecode] at hdecode
    split at hdecode
    · cases hdecode
    · rename_i hmarked
      obtain ⟨entry, hentry, rfl⟩ := Option.map_eq_some_iff.mp hdecode
      refine ⟨first.toNat % 128, entry, hentry, ?_, rfl⟩
      have hlt := first.toNat_lt
      have hbyte : 128 + first.toNat % 128 = first.toNat := by omega
      rw [hbyte, UInt8.ofNat_toNat]
      rfl

/-- A custom TLV header is the common part with the vendor and the subtype. -/
theorem customParamHeaderDecode_eq_ok {length : ℕ} {data : List UInt8} {header : ParamHeader}
    (hdecode : customParamHeaderDecode length data = .ok (some header)) :
    ∃ vendor sub : ℕ, header = ⟨typeCustom, vendor, sub, 12, length⟩ ∧ 12 ≤ length ∧
      packStruct parVendorSubtype [.int vendor, .int sub] = .ok ((data.take 12).drop 4) := by
  unfold customParamHeaderDecode at hdecode
  split at hdecode
  · cases hdecode
  · split at hdecode
    · cases hdecode
    · rename_i hlength
      obtain ⟨⟨vendor, sub, _⟩, hunpack, hdecode⟩ := bind_eq_ok_iff.mp hdecode
      cases hdecode
      obtain ⟨⟨hvendorNonneg, -⟩, ⟨hsubNonneg, -⟩, -⟩ := holdsAll_of_unpack hunpack
      refine ⟨vendor.toNat, sub.toNat, rfl, Nat.le_of_not_lt hlength, ?_⟩
      rw [Int.toNat_of_nonneg hvendorNonneg, Int.toNat_of_nonneg hsubNonneg]
      exact packStruct_of_unpackStruct hunpack

/-- A TLV header is two numbers, and more if it is custom. -/
theorem tlvParamHeaderDecode_eq_ok {data : List UInt8} {header : ParamHeader}
    (hdecode : tlvParamHeaderDecode data = .ok (some header)) :
    ∃ length : ℕ, packStruct tlvParHeader [.int (ofBytes (data.take 2)), .int length] =
        .ok (data.take 4) ∧ 4 ≤ length ∧ 4 ≤ data.length ∧
      (ofBytes (data.take 2) % 1024 ≠ typeCustom ∧
          header = ⟨ofBytes (data.take 2) % 1024, 0, 0, 4, length⟩ ∨
        ofBytes (data.take 2) % 1024 = typeCustom ∧
          customParamHeaderDecode length data = .ok (some header)) := by
  unfold tlvParamHeaderDecode at hdecode
  split at hdecode
  · cases hdecode
  · rename_i hdata
    obtain ⟨⟨first, length, _⟩, hunpack, hdecode⟩ := bind_eq_ok_iff.mp hdecode
    have hpack := packStruct_of_unpackStruct hunpack
    obtain ⟨hfirst, -⟩ := unpack_first hunpack
    obtain ⟨-, ⟨hlength, -⟩, -⟩ := holdsAll_of_unpack hunpack
    have hsame : (data.take (recordSize tlvParHeader)).take 2 = data.take 2 := by
      rw [List.take_take]
      rfl
    rw [hsame] at hfirst
    subst hfirst
    obtain ⟨length, rfl⟩ := Int.eq_ofNat_of_zero_le hlength
    simp only [Int.toNat_natCast] at hdecode
    split at hdecode
    · cases hdecode
    · rename_i hlong
      refine ⟨length, hpack, Nat.le_of_not_lt hlong, Nat.le_of_not_lt hdata, ?_⟩
      split at hdecode
      · rename_i hcustom
        exact .inr ⟨hcustom, hdecode⟩
      · rename_i hstandard
        cases hdecode
        exact .inl ⟨hstandard, rfl⟩

/-- A parameter header that is accepted is encoded again to the same bytes. -/
theorem paramHeaderEncode_of_decode {data : List UInt8} {header : ParamHeader}
    (hdecode : paramHeaderDecode data = .ok (some header))
    (hreserved : reservedParamBits header data = 0) (par : Value) {body : List UInt8}
    (hbody : body.length = header.fullLength - header.headerLength) :
    Registry.paramHeaderEncode "" header.layout par body =
      .ok (data.take header.headerLength) := by
  unfold paramHeaderDecode at hdecode
  split at hdecode
  · cases hdecode
  · split at hdecode
    · rename_i found htve
      cases hdecode
      obtain ⟨type, entry, hentry, htake, rfl⟩ := tveParamHeaderDecode_eq_some htve
      have hsmall : type < 128 := tveParamFormats_lt _ (mem_of_lookup hentry)
      have hholds : Format.ubyte.holds (128 + type : ℤ) := by
        rw [Format.holds_ubyte]
        omega
      have hcode : Format.ubyte.code (128 + type : ℤ) = 128 + type := by
        change ((128 + type : ℤ) % 256).toNat = _
        omega
      have hpack : packStruct [.ubyte] [.int (128 + type)] = .ok [UInt8.ofNat (128 + type)] := by
        rw [packStruct_cons, Value.index_int, ok_bind, if_pos hholds, hcode]
        rfl
      unfold Registry.paramHeaderEncode ParamHeader.layout
      simp only [decide_true, if_true]
      rw [if_neg (by omega), hpack, htake]
    · obtain ⟨length, hpack, hlong, hdata, hform⟩ := tlvParamHeaderDecode_eq_ok hdecode
      rcases hform with ⟨hstandard, rfl⟩ | ⟨hcustom, hheader⟩
      · have hword : ofBytes (data.take 2) % 1024 = ofBytes (data.take 2) := by
          unfold reservedParamBits at hreserved
          rw [if_neg (by simp)] at hreserved
          omega
        have hcount : ((recordSize tlvParHeader : ℕ) : ℤ) + (body.length : ℤ) = length := by
          rw [hbody]
          change (4 : ℤ) + ((length - 4 : ℕ) : ℤ) = length
          omega
        unfold Registry.paramHeaderEncode ParamHeader.layout
        simp only [hword] at hstandard ⊢
        rw [if_neg (by simp), if_neg hstandard, hcount]
        exact hpack
      · obtain ⟨vendor, sub, rfl, hlonger, hvendor⟩ := customParamHeaderDecode_eq_ok hheader
        have hword : ofBytes (data.take 2) = typeCustom := by
          unfold reservedParamBits at hreserved
          rw [if_neg (by simp)] at hreserved
          unfold typeCustom at hcustom ⊢
          omega
        have hcount : ((recordSize parCustomHeader : ℕ) : ℤ) + (body.length : ℤ) = length := by
          rw [hbody]
          change (12 : ℤ) + ((length - 12 : ℕ) : ℤ) = length
          omega
        have hparts : data.take 12 = data.take 4 ++ (data.take 12).drop 4 := by
          have hfront : data.take 4 = (data.take 12).take 4 := by
            rw [List.take_take]
            rfl
          rw [hfront, List.take_append_drop]
        have hall := append_packStruct hpack hvendor
        rw [hword] at hall
        unfold Registry.paramHeaderEncode ParamHeader.layout vendorOf
        simp only [if_true]
        rw [if_neg (by simp), hcount, hparts, if_neg (by decide), ok_bind]
        exact hall

/-! ## The codecs undo each other -/

/-- Message headers with numbers that fit are read back, and so are the headers of encoded
parameters; what is accepted with reserved bits zero is encoded again as it was. -/
theorem headers_inverse :
    (∀ (msgType version messageId vendorId subtype : ℕ) (body : List UInt8),
      msgType < 1024 → version < 8 → messageId < 4294967296 →
      (if msgType = typeCustom then
        body.length + 15 < 4294967296 ∧ vendorId < 4294967296 ∧ subtype < 256
      else body.length + 10 < 4294967296) →
      ∃ head, msgHeaderEncode msgType (.int version) body.length (.int messageId)
          (.int vendorId) (.int subtype) = .ok head ∧
        msgHeaderDecode (head ++ body) = .ok
          { msgType, version, messageId
            vendorId := if msgType = typeCustom then vendorId else 0
            subtype := if msgType = typeCustom then subtype else 0
            headerLength := head.length
            totalLength := head.length + body.length }) ∧
    (∀ (data : List UInt8) (header : MsgHeader), msgHeaderDecode data = .ok header →
      reservedMessageBits data = 0 →
      msgHeaderEncode header.msgType (.int header.version)
          (header.totalLength - header.headerLength) (.int header.messageId)
          (.int header.vendorId) (.int header.subtype) =
        .ok (data.take header.headerLength)) ∧
    (∀ (name : String) (layout : Layout) (par : Value) (head body tail : List UInt8),
      Registry.paramHeaderEncode name layout par body = .ok head → Headed layout body →
      ∃ header, paramHeaderDecode (head ++ body ++ tail) = .ok (some header) ∧
        Describes header name layout par head body) ∧
    (∀ (fuel : ℕ) (name : String) (par : Value) (bytes : List UInt8),
      registry.encodeParamWith fuel name par = .ok bytes →
      bytes = [] ∨ ∃ info head body, registry.param name = some info ∧
        bytes = head ++ body ∧ ∀ tail, ∃ header,
          paramHeaderDecode (bytes ++ tail) = .ok (some header) ∧
          Describes header name info.toLayout par head body) ∧
    ∀ (data : List UInt8) (header : ParamHeader), paramHeaderDecode data = .ok (some header) →
      reservedParamBits header data = 0 → ∀ (par : Value) (body : List UInt8),
      body.length = header.fullLength - header.headerLength →
      Registry.paramHeaderEncode "" header.layout par body =
        .ok (data.take header.headerLength) := by
  refine ⟨?_, fun _ _ hdecode hreserved => msgHeaderEncode_of_decode hdecode hreserved,
    fun _ _ _ _ _ tail hencode hheaded => paramHeaderDecode_of_encode hencode hheaded tail, ?_,
    fun _ _ hdecode hreserved par _ hbody =>
      paramHeaderEncode_of_decode hdecode hreserved par hbody⟩
  · intro msgType version messageId vendorId subtype body htype hversion hid hfits
    obtain ⟨head, hencode⟩ := exists_msgHeaderEncode_of_fits version htype hid hfits
    exact ⟨head, hencode, msgHeaderDecode_of_encode_nat hencode htype hversion⟩
  · intro fuel name par bytes hencode
    cases fuel with
    | zero => cases hencode
    | succ fuel =>
      rw [Registry.encodeParamWith] at hencode
      split at hencode
      · cases hencode
        exact .inl rfl
      · rename_i info hparam
        split at hencode
        · cases hencode
          exact .inl rfl
        · rename_i encode hencoder
          obtain ⟨body, hbody, hencode⟩ := bind_eq_ok_iff.mp hencode
          obtain ⟨head, hhead, hencode⟩ := bind_eq_ok_iff.mp hencode
          cases hencode
          refine .inr ⟨info, head, body, hparam, rfl, fun tail => ?_⟩
          exact paramHeaderDecode_of_encode hhead (headed_of_registered hparam hencoder hbody) tail

end Sllurp.Codec
