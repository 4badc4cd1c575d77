/-
# What an access operation is written as

Starting an access operation adds an AccessSpec. Its bytes determine the operation: the
identifier, the number of times, the targets up to the case of their digits, and what is
done with the tags, with the data that is written to them. Two operations are sent alike
just when they ask a reader for the same.
-/

import Sllurp.Codec.Composed
import Sllurp.Codec.Mirror
import Sllurp.Codec.TagSpec
import Sllurp.Session.Inventory

namespace Sllurp.Session

open Sllurp.Codec

/-! ## Mappings -/

def C1G2TargetTag.value (target : C1G2TargetTag) : Value :=
  mapping [("MB", .int target.mb), ("M", .int target.isMatch), ("Pointer", .int target.pointer),
    ("TagMask", .text target.tagMask), ("TagData", .text target.tagData)]

def C1G2LockPayload.value (payload : C1G2LockPayload) : Value :=
  mapping [("Privilege", .int payload.privilege), ("DataField", .int payload.dataField)]

/-- What reading and writing pass on, with the name of the number of words. -/
def C1G2OpSpec.readWriteEntries (opSpecId accessPassword mb wordPtr : ℕ) (countName : String)
    (count : ℕ) : List (String × Value) :=
  [("OpSpecID", .int opSpecId), ("AccessPassword", .int accessPassword), ("MB", .int mb),
    ("WordPtr", .int wordPtr), (countName, .int count)]

/-- The operation of an access command under the name of its type. -/
def C1G2OpSpec.entry? : C1G2OpSpec → Option (String × Value)
  | .read opSpecId accessPassword mb wordPtr wordCount =>
    some ("C1G2Read",
      mapping (readWriteEntries opSpecId accessPassword mb wordPtr "WordCount" wordCount))
  | .write opSpecId accessPassword mb wordPtr writeDataWordCount writeData =>
    some ("C1G2Write",
      mapping (readWriteEntries opSpecId accessPassword mb wordPtr "WriteDataWordCount"
        writeDataWordCount ++ [("WriteData", .bytes writeData)]))
  | .blockWrite opSpecId accessPassword mb wordPtr writeDataWordCount writeData =>
    some ("C1G2BlockWrite",
      mapping (readWriteEntries opSpecId accessPassword mb wordPtr "WriteDataWordCount"
        writeDataWordCount ++ [("WriteData", .bytes writeData)]))
  | .lock opSpecId accessPassword lockPayload =>
    some ("C1G2Lock",
      mapping [("OpSpecID", .int opSpecId), ("AccessPassword", .int accessPassword),
        ("C1G2LockPayload", .list (lockPayload.map C1G2LockPayload.value))])
  | .unsupported => none

/-- The command of an AccessSpec. -/
def AccessSpec.accessCommand (spec : AccessSpec) : Value :=
  mapping
    [("TagSpecParameter",
      mapping [("C1G2TagSpec", tagSpec (spec.c1G2TargetTag.map C1G2TargetTag.value))]),
      ("OpSpecParameter",
        .list (spec.opSpecParameter.entry?.map fun entry => mapping [entry]).toList)]

def AccessSpec.stopTrigger (spec : AccessSpec) : Value :=
  mapping [("AccessSpecStopTriggerType", .int spec.accessSpecStopTriggerType),
    ("OperationCountValue", .int spec.operationCountValue)]

/-- The mapping that an AccessSpec is sent as. -/
def AccessSpec.value (spec : AccessSpec) : Value :=
  mapping
    [("AccessSpecID", .int spec.accessSpecId), ("AntennaID", .int spec.antennaId),
      ("ProtocolID", .int spec.protocolId), ("CurrentState", .bool spec.currentState),
      ("ROSpecID", .int spec.roSpecId), ("AccessSpecStopTrigger", spec.stopTrigger),
      ("AccessCommand", spec.accessCommand),
      ("AccessReportSpec", mapping [("AccessReportTrigger", .int spec.accessReportTrigger)])]

/-! ## Agreement -/

/-- Two targets select the same tags: they differ in the case of their digits at most. -/
structure C1G2TargetTag.Agrees (first second : C1G2TargetTag) : Prop where
  mb : first.mb = second.mb
  isMatch : first.isMatch = 0 ↔ second.isMatch = 0
  pointer : first.pointer = second.pointer
  tagMask : first.tagMask.toList.map Char.toLower = second.tagMask.toList.map Char.toLower
  tagData : first.tagData.toList.map Char.toLower = second.tagData.toList.map Char.toLower

/-- Two operations ask a reader for the same. -/
structure AccessOperation.Agrees (first second : AccessOperation) : Prop where
  accessSpecId : first.accessSpecId = second.accessSpecId
  stopAfterCount : first.stopAfterCount = second.stopAfterCount
  opSpec : first.opSpec = second.opSpec
  targets : List.Forall₂ C1G2TargetTag.Agrees
    (if first.targetSpec.isEmpty then [{}] else first.targetSpec)
    (if second.targetSpec.isEmpty then [{}] else second.targetSpec)

end Sllurp.Session

namespace Sllurp.Codec

open Sllurp.Foundations Sllurp.Foundations.Wire Sllurp.Foundations.Outcome Sllurp.Protocol
open Sllurp.Foundations.UniqueDecoding Sllurp.Session Registry

/-! ## Records -/

/-- Values that are packed alike count as the same numbers. -/
theorem packStruct_inj {formats : List Format} {values others : List Value} {packed : List UInt8}
    (hpack : packStruct formats values = .ok packed)
    (hpack' : packStruct formats others = .ok packed) :
    values.map Value.index = others.map Value.index := by
  obtain ⟨record, hvalues, -, hunpack⟩ := unpackStruct_of_packStruct hpack
  obtain ⟨record', hvalues', -, hunpack'⟩ := unpackStruct_of_packStruct hpack'
  cases hunpack.symm.trans hunpack'
  exact hvalues.trans hvalues'.symm

/-- The same of packed values in front of anything. -/
theorem packStruct_append_inj {formats : List Format} {values others : List Value}
    {packed packed' rest other : List UInt8} (hpack : packStruct formats values = .ok packed)
    (hpack' : packStruct formats others = .ok packed') (heq : packed ++ rest = packed' ++ other) :
    values.map Value.index = others.map Value.index ∧ rest = other := by
  have hlength : packed.length = packed'.length := by
    rw [length_of_packStruct hpack, length_of_packStruct hpack']
  obtain ⟨rfl, hrest⟩ := List.append_inj heq hlength
  exact ⟨packStruct_inj hpack hpack', hrest⟩

theorem exists_of_packStruct_cons {format : Format} {formats : List Format} {number : ℤ}
    {values : List Value} {packed : List UInt8}
    (hpack : packStruct (format :: formats) (.int number :: values) = .ok packed) :
    format.holds number ∧ ∃ rest, packStruct formats values = .ok rest := by
  rw [packStruct_cons] at hpack
  obtain ⟨found, hindex, hpack⟩ := bind_eq_ok_iff.mp hpack
  cases hindex
  split at hpack
  · rename_i hholds
    obtain ⟨rest, hrest, -⟩ := bind_eq_ok_iff.mp hpack
    exact ⟨hholds, rest, hrest⟩
  · cases hpack

/-- The body of a parameter behind its type and the length of both. -/
def frame (type : ℕ) (body : List UInt8) : Except Exn (List UInt8) := do
  let header ← packStruct tlvParHeader
    [.int type, .int (recordSize tlvParHeader + body.length)]
  .ok (header ++ body)

/-- The type and the length in front of a body delimit it. -/
theorem frame_append_inj {type type' : ℕ} {body body' data data' rest other : List UInt8}
    (hframe : frame type body = .ok data) (hframe' : frame type' body' = .ok data')
    (heq : data ++ rest = data' ++ other) : type = type' ∧ body = body' ∧ rest = other := by
  obtain ⟨header, hheader, hframe⟩ := bind_eq_ok_iff.mp hframe
  obtain ⟨header', hheader', hframe'⟩ := bind_eq_ok_iff.mp hframe'
  cases hframe
  cases hframe'
  rw [List.append_assoc, List.append_assoc] at heq
  obtain ⟨hvalues, heq⟩ := packStruct_append_inj hheader hheader' heq
  obtain ⟨htype, hlengths⟩ := List.cons.inj hvalues
  have hlength := Except.ok.inj (List.cons.inj hlengths).1
  obtain ⟨hbody, hrest⟩ := List.append_inj heq (by omega)
  exact ⟨by exact_mod_cast Except.ok.inj htype, hbody, hrest⟩

/-- A registered type with a header of type and length frames its body. -/
theorem encodeParamWith_eq_frame {registry : Registry} {name : String} {info : ParamInfo}
    {encode : Encoder} (hfound : registry.param name = some info)
    (hencode : info.encode = some encode) (htv : info.tvEncoded = false)
    (htype : info.type ≠ typeCustom) (fuel : ℕ) (par : Value) :
    registry.encodeParamWith (fuel + 1) name par =
      encode (registry.encodeParamWith fuel) info.toLayout par >>= frame info.type := by
  rw [Registry.encodeParamWith]
  simp only [hfound, hencode]
  cases encode (registry.encodeParamWith fuel) info.toLayout par with
  | error raised => rw [error_bind, error_bind]
  | ok body =>
    have hheader : paramHeaderEncode name info.toLayout par body = packStruct tlvParHeader
        [.int info.type, .int (recordSize tlvParHeader + body.length)] := by
      rw [paramHeaderEncode, if_neg (by simp [htv]), if_neg htype]
    rw [ok_bind, ok_bind, hheader, frame]

/-- What was written for a registered type is a body behind its header. -/
theorem exists_body_of_encode {registry : Registry} {name : String} {info : ParamInfo}
    {encode : Encoder} (hfound : registry.param name = some info)
    (hencoder : info.encode = some encode) (htv : info.tvEncoded = false)
    (htype : info.type ≠ typeCustom) {fuel : ℕ} {par : Value} {data : List UInt8}
    (hencode : registry.encodeParamWith fuel name par = .ok data) :
    ∃ body, encode (registry.encodeParamWith (fuel - 1)) info.toLayout par = .ok body ∧
      frame info.type body = .ok data := by
  cases fuel with
  | zero => cases hencode
  | succ fuel =>
    rw [encodeParamWith_eq_frame hfound hencoder htv htype] at hencode
    exact bind_eq_ok_iff.mp hencode

/-! ## Texts of digits -/

/-- A character that is no letter in upper case is its own lower case. -/
theorem hexDigit?_toLower (digit : Char) : hexDigit? digit.toLower = hexDigit? digit := by
  have hread : ∀ code < 128, hexDigit? (Char.ofNat code).toLower = hexDigit? (Char.ofNat code) := by
    decide +kernel
  rcases Nat.lt_or_ge digit.toNat 128 with hlt | hge
  · have hdigit := hread digit.toNat hlt
    rwa [Char.ofNat_toNat] at hdigit
  · have hsame : digit.toLower = digit := by
      apply dif_neg
      rintro ⟨-, hle⟩
      have hval : digit.toNat ≤ 90 := by simpa [UInt32.le_iff_toNat_le] using hle
      omega
    rw [hsame]

theorem unhexlify_toLower (digits : List Char) :
    unhexlify (digits.map Char.toLower) = unhexlify digits := by
  induction digits using unhexlify.induct with
  | case1 high low digits first second hlow hhigh ih =>
    simp only [List.map_cons, unhexlify, hexDigit?_toLower, hhigh, hlow, ih]
  | case2 high low digits hnone =>
    simp only [List.map_cons, unhexlify, hexDigit?_toLower]
  | case3 => rfl
  | case4 digits hlong hempty =>
    obtain _ | ⟨high, _ | ⟨low, rest⟩⟩ := digits
    · exact absurd rfl hempty
    · rfl
    · exact absurd rfl (hlong high low rest)

/-- A bit array does not depend on the case of the digits. -/
theorem hexToBitArray_congr {text other : String}
    (hdigits : text.toList.map Char.toLower = other.toList.map Char.toLower) :
    hexToBitArray text = hexToBitArray other := by
  have hlength : text.toList.length = other.toList.length := by
    have hlength := congrArg List.length hdigits
    simpa only [List.length_map] using hlength
  have hpadded : ∀ padding, unhexlify (text.toList ++ padding) =
      unhexlify (other.toList ++ padding) := by
    intro padding
    rw [← unhexlify_toLower, ← unhexlify_toLower (other.toList ++ padding), List.map_append,
      List.map_append, hdigits]
  have hexact := hpadded []
  rw [List.append_nil, List.append_nil] at hexact
  have hempty : text.toList.isEmpty = other.toList.isEmpty := by
    rw [Bool.eq_iff_iff, List.isEmpty_iff_length_eq_zero, List.isEmpty_iff_length_eq_zero, hlength]
  unfold hexToBitArray
  simp only [hempty, hlength]
  split
  · rfl
  · split
    · rw [hexact]
    · rw [hpadded]

/-- Only texts of hexadecimal digits have a bit array. -/
theorem isHex_of_unhexlify {digits : List Char} {bytes : List UInt8}
    (hread : unhexlify digits = .ok bytes) :
    ∀ digit ∈ digits, (hexDigit? digit).isSome = true := by
  induction digits using unhexlify.induct generalizing bytes with
  | case1 high low digits first second hlow hhigh ih =>
    simp only [unhexlify, hhigh, hlow] at hread
    obtain ⟨rest, hrest, -⟩ := bind_eq_ok_iff.mp hread
    intro digit hmem
    rcases List.mem_cons.mp hmem with rfl | hmem
    · rw [hhigh]
      rfl
    · rcases List.mem_cons.mp hmem with rfl | hmem
      · rw [hlow]
        rfl
      · exact ih hrest digit hmem
  | case2 high low digits hnone =>
    simp only [unhexlify] at hread
    cases hread
  | case3 =>
    intro digit hmem
    cases hmem
  | case4 digits hlong hempty =>
    obtain _ | ⟨high, _ | ⟨low, rest⟩⟩ := digits
    · exact absurd rfl hempty
    · cases hread
    · exact absurd rfl (hlong high low rest)

theorem isHex_of_hexToBitArray {text : String} {count : ℕ} {bytes : List UInt8}
    (hread : hexToBitArray text = .ok (count, bytes)) :
    count = 4 * text.toList.length ∧ ∀ digit ∈ text.toList, (hexDigit? digit).isSome = true := by
  unfold hexToBitArray at hread
  dsimp only at hread
  split at hread
  · rename_i hempty
    cases hread
    rw [List.isEmpty_iff.mp hempty]
    exact ⟨rfl, fun digit hmem => absurd hmem List.not_mem_nil⟩
  · obtain ⟨read, hpadded, heq⟩ := bind_eq_ok_iff.mp hread
    cases heq
    refine ⟨Nat.mul_comm _ _, fun digit hmem => isHex_of_unhexlify hpadded digit ?_⟩
    split
    · exact hmem
    · exact List.mem_append_left _ hmem

/-! ## Targets -/

theorem item_target (target : C1G2TargetTag) :
    target.value.item "MB" = .ok (.int target.mb) ∧
      target.value.item "M" = .ok (.int target.isMatch) ∧
      target.value.item "Pointer" = .ok (.int target.pointer) ∧
      target.value.item "TagMask" = .ok (.text target.tagMask) ∧
      target.value.item "TagData" = .ok (.text target.tagData) := by
  simp [C1G2TargetTag.value, item_mapping_eq, Dict.ofList, Dict.get?_set]

theorem encodeC1G2TargetTag_value (encodeParam : String → Value → Except Exn (List UInt8))
    (layout : Layout) (target : C1G2TargetTag) :
    encodeC1G2TargetTag encodeParam layout target.value = (do
      let (maskCount, mask) ← hexToBitArray target.tagMask
      let (dataCount, data) ← hexToBitArray target.tagData
      let head ← packStruct [.ubyte, .ushort, .ushort]
        [.int (target.mb * 64 + if target.isMatch = 0 then 0 else 32), .int target.pointer,
          .int maskCount]
      let count ← packStruct [.ushort] [.int dataCount]
      .ok (head ++ mask ++ count ++ data)) := by
  obtain ⟨hbank, hmatch, hpointer, hmask, hdata⟩ := item_target target
  simp only [encodeC1G2TargetTag, hmask, hdata, hbank, hmatch, hpointer, ok_bind, Value.toInt,
    Value.truthy, Value.hexToBitArray, ne_eq, Nat.cast_eq_zero, decide_eq_true_eq, ite_not]

/-- Targets that select the same tags are written alike. -/
theorem encodeC1G2TargetTag_congr (encodeParam : String → Value → Except Exn (List UInt8))
    (layout : Layout) {first second : C1G2TargetTag} (hagrees : first.Agrees second) :
    encodeC1G2TargetTag encodeParam layout first.value =
      encodeC1G2TargetTag encodeParam layout second.value := by
  rw [encodeC1G2TargetTag_value, encodeC1G2TargetTag_value, hexToBitArray_congr hagrees.tagMask,
    hexToBitArray_congr hagrees.tagData, hagrees.mb, hagrees.pointer]
  simp only [hagrees.isMatch]

/-- A target that fits what it is written as. -/
structure TargetTag.Fits (typed : TargetTag) (target : C1G2TargetTag) : Prop where
  bank : typed.bank.val = target.mb
  isMatch : typed.isMatch = decide (target.isMatch ≠ 0)
  pointer : typed.pointer.val = target.pointer
  tagMask : typed.mask.text = target.tagMask
  tagData : typed.data.text = target.tagData

theorem TargetTag.Fits.describes {target : C1G2TargetTag} {typed : TargetTag}
    (hfits : typed.Fits target) : TargetTag.Describes target.value typed where
  bank := by rw [(item_target target).1, hfits.bank, ok_bind, Value.toInt]
  isMatch := by
    rw [(item_target target).2.1, hfits.isMatch]
    simp only [Except.map, Value.truthy, ne_eq, Nat.cast_eq_zero]
  pointer := by rw [(item_target target).2.2.1, hfits.pointer, ok_bind, Value.toInt]
  mask := by rw [(item_target target).2.2.2.1, hfits.tagMask]
  data := by rw [(item_target target).2.2.2.2, hfits.tagData]

theorem TargetTag.Fits.agrees {first second : C1G2TargetTag} {typed other : TargetTag}
    (hfirst : typed.Fits first) (hsecond : other.Fits second)
    (hagrees : TargetTag.Agrees typed other) : first.Agrees second where
  mb := by rw [← hfirst.bank, ← hsecond.bank, hagrees.bank]
  isMatch := by
    have hisMatch := hagrees.isMatch
    rw [hfirst.isMatch, hsecond.isMatch, decide_eq_decide] at hisMatch
    exact not_iff_not.mp hisMatch
  pointer := by rw [← hfirst.pointer, ← hsecond.pointer, hagrees.pointer]
  tagMask := by rw [← hfirst.tagMask, ← hsecond.tagMask, hagrees.mask]
  tagData := by rw [← hfirst.tagData, ← hsecond.tagData, hagrees.data]

/-- What is written has digits, banks and numbers that fit. -/
theorem exists_fits {encodeParam : String → Value → Except Exn (List UInt8)} {layout : Layout}
    {target : C1G2TargetTag} {body : List UInt8}
    (hencode : encodeC1G2TargetTag encodeParam layout target.value = .ok body) :
    ∃ typed : TargetTag, typed.Fits target := by
  rw [encodeC1G2TargetTag_value] at hencode
  obtain ⟨⟨maskCount, mask⟩, hmask, hencode⟩ := bind_eq_ok_iff.mp hencode
  obtain ⟨⟨dataCount, data⟩, hdata, hencode⟩ := bind_eq_ok_iff.mp hencode
  obtain ⟨head, hhead, hencode⟩ := bind_eq_ok_iff.mp hencode
  obtain ⟨count, hcount, -⟩ := bind_eq_ok_iff.mp hencode
  obtain ⟨rfl, hmaskHex⟩ := isHex_of_hexToBitArray hmask
  obtain ⟨rfl, hdataHex⟩ := isHex_of_hexToBitArray hdata
  obtain ⟨hflags, rest, hrest⟩ := exists_of_packStruct_cons hhead
  obtain ⟨hpointer, last, hlast⟩ := exists_of_packStruct_cons hrest
  obtain ⟨hmaskFits, -⟩ := exists_of_packStruct_cons hlast
  obtain ⟨hdataFits, -⟩ := exists_of_packStruct_cons hcount
  rw [Format.holds_ubyte] at hflags
  rw [Format.holds_ushort] at hpointer hmaskFits hdataFits
  have hbank : target.mb < 4 := by
    have hlt := hflags.2
    split at hlt <;> omega
  exact ⟨⟨⟨target.mb, hbank⟩, decide (target.isMatch ≠ 0), ⟨target.pointer, by omega⟩,
    ⟨target.tagMask, hmaskHex, by omega⟩, ⟨target.tagData, hdataHex, by omega⟩⟩,
    rfl, rfl, rfl, rfl, rfl⟩

/-- What a target of an access operation is written as. -/
def TargetWritten : Code C1G2TargetTag UInt8 := fun target data =>
  ∃ typed, typed.Fits target ∧ TargetTag.Written typed data

theorem selfDelimiting_targetWritten : SelfDelimiting TargetWritten C1G2TargetTag.Agrees := by
  rintro first second front back rest other ⟨typed, hfits, hwritten⟩ ⟨typed', hfits', hwritten'⟩
    heq
  obtain ⟨hagrees, hrest⟩ := TargetTag.selfDelimiting_written typed typed' hwritten hwritten' heq
  exact ⟨hfits.agrees hfits' hagrees, hrest⟩

theorem targetWritten_of_encode {fuel : ℕ} {target : C1G2TargetTag} {data : List UInt8}
    (hencode : registry.encodeParamWith fuel "C1G2TargetTag" target.value = .ok data) :
    TargetWritten target data := by
  have hfound := param_at operationParams_subset 5 (by simp [composedNames]) rfl
  obtain ⟨body, hbody, -⟩ := exists_body_of_encode hfound rfl rfl (by decide) hencode
  obtain ⟨typed, hfits⟩ := exists_fits hbody
  cases fuel with
  | zero => cases hencode
  | succ fuel =>
    exact ⟨typed, hfits, TargetTag.written_of_encodeParam hfits.describes hencode⟩

/-- Values of one type that are written one after the other. -/
theorem sequence_of_written {α : Type} {code : Code α UInt8} {fuel : ℕ} {name : String}
    {value : α → Value} (hcode : ∀ item data,
      registry.encodeParamWith fuel name (value item) = .ok data → code item data)
    {items : List α} {data : List UInt8}
    (hwritten : registry.Written fuel (items.map fun item => (name, value item)) data) :
    Sequence code items data := by
  induction items generalizing data with
  | nil =>
    rw [written_nil_iff.mp hwritten]
    exact .nil
  | cons item items ih =>
    obtain ⟨first, rest, hfirst, hrest, rfl⟩ := written_cons_iff.mp hwritten
    exact .cons (hcode item first hfirst) (ih hrest)

/-! ## Operations -/

/-- What a payload of a lock is written as. -/
def PayloadWritten : Code C1G2LockPayload UInt8 := fun payload data =>
  ∃ body, packStruct [.byte, .ubyte] [.int payload.privilege, .int payload.dataField] = .ok body ∧
    frame 345 body = .ok data

theorem ne_nil_of_frame {type : ℕ} {body data : List UInt8} (hframe : frame type body = .ok data) :
    data ≠ [] := by
  obtain ⟨header, hheader, hframe⟩ := bind_eq_ok_iff.mp hframe
  cases hframe
  intro hnil
  have hlength := length_of_packStruct hheader
  rw [(List.append_eq_nil_iff.mp hnil).1] at hlength
  cases hlength

theorem selfDelimiting_payloadWritten : SelfDelimiting PayloadWritten Eq := by
  rintro ⟨privilege, dataField⟩ ⟨privilege', dataField'⟩ front back rest other
    ⟨body, hpack, hframe⟩ ⟨body', hpack', hframe'⟩ heq
  obtain ⟨-, rfl, hrest⟩ := frame_append_inj hframe hframe' heq
  have hvalues := packStruct_inj hpack hpack'
  simp only [List.map_cons, List.map_nil, Value.index, List.cons.injEq, Except.ok.injEq,
    Nat.cast_inj, and_true] at hvalues
  obtain ⟨rfl, rfl⟩ := hvalues
  exact ⟨rfl, hrest⟩

theorem encodeC1G2LockPayload_value (encodeParam : String → Value → Except Exn (List UInt8))
    (layout : Layout) (payload : C1G2LockPayload) :
    encodeC1G2LockPayload encodeParam layout payload.value =
      packStruct [.byte, .ubyte] [.int payload.privilege, .int payload.dataField] := by
  simp [encodeC1G2LockPayload, C1G2LockPayload.value, item_mapping_eq, Dict.ofList, Dict.get?_set,
    Value.toInt]

theorem payloadWritten_of_encode {fuel : ℕ} {payload : C1G2LockPayload} {data : List UInt8}
    (hencode : registry.encodeParamWith fuel "C1G2LockPayload" payload.value = .ok data) :
    PayloadWritten payload data := by
  have hfound := param_at operationParams_subset 9 (by simp [composedNames]) rfl
  obtain ⟨body, hbody, hframe⟩ := exists_body_of_encode hfound rfl rfl (by decide) hencode
  rw [encodeC1G2LockPayload_value] at hbody
  exact ⟨body, hbody, hframe⟩

/-- The numbers that reading and writing have in common. -/
abbrev readWriteNumbers (opSpecId accessPassword mb wordPtr count : ℕ) : List Value :=
  [.int opSpecId, .int accessPassword, .int (mb * 64), .int wordPtr, .int count]

/-- The type and the body of an operation. -/
inductive OpBody : C1G2OpSpec → ℕ → List UInt8 → Prop
  | read {opSpecId accessPassword mb wordPtr wordCount : ℕ} {body : List UInt8}
      (hpack : packStruct c1g2ReadWrite
        (readWriteNumbers opSpecId accessPassword mb wordPtr wordCount) = .ok body) :
      OpBody (.read opSpecId accessPassword mb wordPtr wordCount) 341 body
  | write {opSpecId accessPassword mb wordPtr count : ℕ} {writeData packed : List UInt8}
      (hpack : packStruct c1g2ReadWrite
        (readWriteNumbers opSpecId accessPassword mb wordPtr count) = .ok packed) :
      OpBody (.write opSpecId accessPassword mb wordPtr count writeData) 342 (packed ++ writeData)
  | blockWrite {opSpecId accessPassword mb wordPtr count : ℕ} {writeData packed : List UInt8}
      (hpack : packStruct c1g2ReadWrite
        (readWriteNumbers opSpecId accessPassword mb wordPtr count) = .ok packed) :
      OpBody (.blockWrite opSpecId accessPassword mb wordPtr count writeData) 347
        (packed ++ writeData)
  | lock {opSpecId accessPassword : ℕ} {lockPayload : List C1G2LockPayload}
      {packed written : List UInt8}
      (hpack : packStruct [.ushort, .uint] [.int opSpecId, .int accessPassword] = .ok packed)
      (hwritten : Sequence PayloadWritten lockPayload written) :
      OpBody (.lock opSpecId accessPassword lockPayload) 344 (packed ++ written)

theorem readWriteNumbers_inj {opSpecId accessPassword mb wordPtr count : ℕ}
    {opSpecId' accessPassword' mb' wordPtr' count' : ℕ}
    (hvalues : (readWriteNumbers opSpecId accessPassword mb wordPtr count).map Value.index =
      (readWriteNumbers opSpecId' accessPassword' mb' wordPtr' count').map Value.index) :
    opSpecId = opSpecId' ∧ accessPassword = accessPassword' ∧ mb = mb' ∧ wordPtr = wordPtr' ∧
      count = count' := by
  simp only [List.map_cons, List.map_nil, Value.index, List.cons.injEq, Except.ok.injEq,
    Nat.cast_inj, and_true] at hvalues
  obtain ⟨hopSpec, hpassword, hbank, hpointer, hcount⟩ := hvalues
  exact ⟨hopSpec, hpassword, by omega, hpointer, hcount⟩

/-- An operation is read back from its type and its body. -/
theorem OpBody.inj {first second : C1G2OpSpec} {type : ℕ} {body : List UInt8}
    (hfirst : OpBody first type body) (hsecond : OpBody second type body) : first = second := by
  generalize hbody : body = written at hsecond
  cases hfirst with
  | read hpack =>
    cases hsecond with
    | read hpack' =>
      have hvalues := packStruct_inj hpack (hbody ▸ hpack')
      obtain ⟨rfl, rfl, rfl, rfl, rfl⟩ := readWriteNumbers_inj hvalues
      rfl
  | write hpack =>
    cases hsecond with
    | write hpack' =>
      obtain ⟨hvalues, rfl⟩ := packStruct_append_inj hpack hpack' hbody
      obtain ⟨rfl, rfl, rfl, rfl, rfl⟩ := readWriteNumbers_inj hvalues
      rfl
  | blockWrite hpack =>
    cases hsecond with
    | blockWrite hpack' =>
      obtain ⟨hvalues, rfl⟩ := packStruct_append_inj hpack hpack' hbody
      obtain ⟨rfl, rfl, rfl, rfl, rfl⟩ := readWriteNumbers_inj hvalues
      rfl
  | lock hpack hwritten =>
    cases hsecond with
    | lock hpack' hwritten' =>
      obtain ⟨hvalues, rfl⟩ := packStruct_append_inj hpack hpack' hbody
      simp only [List.map_cons, List.map_nil, Value.index, List.cons.injEq, Except.ok.injEq,
        Nat.cast_inj, and_true] at hvalues
      obtain ⟨rfl, rfl⟩ := hvalues
      have hpayloads := selfDelimiting_payloadWritten.sequence
        (fun payload ⟨body, _, hframe⟩ => ne_nil_of_frame hframe rfl) hwritten hwritten'
      rw [List.forall₂_eq_eq_eq] at hpayloads
      rw [hpayloads]

/-- What the parameters behind a fixed part of a lock are written as. -/
theorem children_lock {opSpecId accessPassword : ℕ} {lockPayload : List C1G2LockPayload}
    {layout : Layout}
    (hlayout : layout.autoFields = [("C1G2LockPayload", true), ("CustomParameter", true)]) :
    children layout (mapping [("OpSpecID", .int opSpecId), ("AccessPassword", .int accessPassword),
      ("C1G2LockPayload", .list (lockPayload.map C1G2LockPayload.value))]) =
        lockPayload.map fun payload => ("C1G2LockPayload", payload.value) := by
  simp [children, hlayout, Dict.ofList, Dict.get?_set, Function.comp_def]

theorem encodeC1G2Read_value (encodeParam : String → Value → Except Exn (List UInt8))
    (layout : Layout) (opSpecId accessPassword mb wordPtr wordCount : ℕ) :
    encodeC1G2Read encodeParam layout
        (mapping (C1G2OpSpec.readWriteEntries opSpecId accessPassword mb wordPtr "WordCount"
          wordCount)) =
      packStruct c1g2ReadWrite (readWriteNumbers opSpecId accessPassword mb wordPtr wordCount) := by
  simp [encodeC1G2Read, packReadWrite, C1G2OpSpec.readWriteEntries, item_mapping_eq,
    Dict.ofList, Dict.get?_set, Value.toInt]

theorem encodeC1G2Write_value (encodeParam : String → Value → Except Exn (List UInt8))
    (layout : Layout) (opSpecId accessPassword mb wordPtr count : ℕ) (writeData : List UInt8) :
    encodeC1G2Write encodeParam layout
        (mapping (C1G2OpSpec.readWriteEntries opSpecId accessPassword mb wordPtr
          "WriteDataWordCount" count ++ [("WriteData", .bytes writeData)])) =
      packStruct c1g2ReadWrite (readWriteNumbers opSpecId accessPassword mb wordPtr count) >>=
        fun packed => .ok (packed ++ writeData) := by
  simp [encodeC1G2Write, packReadWrite, C1G2OpSpec.readWriteEntries, item_mapping_eq,
    Dict.ofList, Dict.get?_set, Value.toInt, Value.rawBytes]

theorem encodeC1G2Lock_value (encodeParam : String → Value → Except Exn (List UInt8))
    (layout : Layout) (opSpecId accessPassword : ℕ) (payloads : Value) :
    let par := mapping [("OpSpecID", .int opSpecId), ("AccessPassword", .int accessPassword),
      ("C1G2LockPayload", payloads)]
    encodeC1G2Lock encodeParam layout par =
      packStruct [.ushort, .uint] [.int opSpecId, .int accessPassword] >>=
        encodeAllParameters encodeParam layout par := by
  simp [encodeC1G2Lock, item_mapping_eq, Dict.ofList, Dict.get?_set, Value.toInt]

/-- An operation is written as its type and its body. -/
theorem exists_opBody {fuel : ℕ} {opSpec : C1G2OpSpec} {entry : String × Value}
    {data : List UInt8} (hentry : opSpec.entry? = some entry)
    (hencode : registry.encodeParamWith fuel entry.1 entry.2 = .ok data) :
    ∃ type body, OpBody opSpec type body ∧ frame type body = .ok data := by
  cases opSpec with
  | read opSpecId accessPassword mb wordPtr wordCount =>
    cases hentry
    have hfound := param_at operationParams_subset 6 (by simp [composedNames]) rfl
    obtain ⟨body, hbody, hframe⟩ := exists_body_of_encode hfound rfl rfl (by decide) hencode
    rw [encodeC1G2Read_value] at hbody
    exact ⟨341, body, .read hbody, hframe⟩
  | write opSpecId accessPassword mb wordPtr count writeData =>
    cases hentry
    have hfound := param_at operationParams_subset 7 (by simp [composedNames]) rfl
    obtain ⟨body, hbody, hframe⟩ := exists_body_of_encode hfound rfl rfl (by decide) hencode
    rw [encodeC1G2Write_value] at hbody
    obtain ⟨packed, hpack, hbody⟩ := bind_eq_ok_iff.mp hbody
    cases hbody
    exact ⟨342, packed ++ writeData, .write hpack, hframe⟩
  | blockWrite opSpecId accessPassword mb wordPtr count writeData =>
    cases hentry
    have hfound := param_at operationParams_subset 10 (by simp [composedNames]) rfl
    obtain ⟨body, hbody, hframe⟩ := exists_body_of_encode hfound rfl rfl (by decide) hencode
    rw [encodeC1G2BlockWrite, encodeC1G2Write_value] at hbody
    obtain ⟨packed, hpack, hbody⟩ := bind_eq_ok_iff.mp hbody
    cases hbody
    exact ⟨347, packed ++ writeData, .blockWrite hpack, hframe⟩
  | lock opSpecId accessPassword lockPayload =>
    cases hentry
    have hfound := param_at operationParams_subset 8 (by simp [composedNames]) rfl
    obtain ⟨body, hbody, hframe⟩ := exists_body_of_encode hfound rfl rfl (by decide) hencode
    rw [encodeC1G2Lock_value] at hbody
    obtain ⟨packed, hpack, hall⟩ := bind_eq_ok_iff.mp hbody
    obtain ⟨written, hwritten, rfl⟩ := written_of_encodeAllParameters hall
    rw [children_lock rfl] at hwritten
    have hsequence := sequence_of_written (fun _ _ => payloadWritten_of_encode) hwritten
    exact ⟨344, packed ++ written, .lock hpack hsequence, hframe⟩
  | unsupported => cases hentry

/-! ## Specifications -/

theorem encodeAll_tagSpec (encodeParam : String → Value → Except Exn (List UInt8))
    {layout : Layout}
    (hlayout : layout.autoFields = [("C1G2TargetTag", true), ("CustomParameter", true)])
    (targets : List Value) :
    encodeAll encodeParam layout (tagSpec targets) =
      targets.foldlM (fun data target => do
        .ok (data ++ (← encodeParam "C1G2TargetTag" target))) [] := by
  have hcontains : (tagSpec targets).contains "C1G2TargetTag" = .ok true := rfl
  have hcustom : (tagSpec targets).contains "CustomParameter" = .ok false := rfl
  have hitem : (tagSpec targets).item "C1G2TargetTag" = .ok (.list targets) := rfl
  have hpure (outcome : Except Exn (List UInt8)) : (do .ok (← outcome)) = outcome :=
    bind_pure outcome
  simp [encodeAll, encodeAllParameters, hlayout, hcontains, hcustom, hitem, hpure]

theorem encodeAccessCommand_value (encodeParam : String → Value → Except Exn (List UInt8))
    {layout : Layout} (hlayout : layout.autoFields = [("CustomParameter", true)])
    {spec : AccessSpec} {entry : String × Value}
    (hentry : spec.opSpecParameter.entry? = some entry) :
    encodeAccessCommand encodeParam layout spec.accessCommand = (do
      let tags ← encodeParam "C1G2TagSpec" (tagSpec (spec.c1G2TargetTag.map C1G2TargetTag.value))
      let operation ← encodeParam entry.1 entry.2
      .ok (tags ++ operation)) := by
  have hentries : ∀ entry, (mapping [entry]).entries = .ok [entry] := fun entry => rfl
  simp [encodeAccessCommand, AccessSpec.accessCommand, hentry, hentries, encodeAllParameters,
    hlayout, item_mapping_eq, contains_mapping, Dict.ofList, Dict.get?_set, Value.items]

theorem encodeAccessSpec_value (encodeParam : String → Value → Except Exn (List UInt8))
    {layout : Layout}
    (hlayout : layout.autoFields =
      [("AccessSpecStopTrigger", false), ("AccessCommand", false), ("AccessReportSpec", false),
        ("ImpinjAccessSpecConfiguration", false), ("CustomParameter", true)])
    (spec : AccessSpec) :
    encodeAccessSpec encodeParam layout spec.value = (do
      let packed ← packStruct [.uint, .ushort, .ubyte, .ubyte, .uint]
        [.int spec.accessSpecId, .int spec.antennaId, .int spec.protocolId,
          flagBit spec.currentState 7, .int spec.roSpecId]
      let trigger ← encodeParam "AccessSpecStopTrigger" spec.stopTrigger
      let command ← encodeParam "AccessCommand" spec.accessCommand
      let report ← encodeParam "AccessReportSpec"
        (mapping [("AccessReportTrigger", .int spec.accessReportTrigger)])
      .ok (packed ++ (trigger ++ (command ++ report)))) := by
  simp [encodeAccessSpec, AccessSpec.value, encodeAllParameters, hlayout, item_mapping_eq,
    contains_mapping, Dict.ofList, Dict.get?_set, Value.toInt, Value.truthy]

/-! ## Reading back -/

/-- The targets are determined by a tag specification. -/
theorem sequence_of_encode_tagSpec {fuel : ℕ} {targets : List C1G2TargetTag} {data : List UInt8}
    (hencode : registry.encodeParamWith fuel "C1G2TagSpec"
      (tagSpec (targets.map C1G2TargetTag.value)) = .ok data) :
    ∃ written, Sequence TargetWritten targets written ∧ frame 338 written = .ok data := by
  have hfound := param_at operationParams_subset 4 (by simp [composedNames]) rfl
  obtain ⟨body, hbody, hframe⟩ := exists_body_of_encode hfound rfl rfl (by decide) hencode
  rw [encodeAll_tagSpec _ rfl] at hbody
  obtain ⟨written, hwritten, hbody⟩ := written_of_items hbody
  rw [List.nil_append] at hbody
  rw [List.map_map] at hwritten
  rw [hbody] at hframe
  exact ⟨written, sequence_of_written (fun _ _ => targetWritten_of_encode) hwritten, hframe⟩

theorem exists_of_encode_command {fuel : ℕ} {spec : AccessSpec} {entry : String × Value}
    (hentry : spec.opSpecParameter.entry? = some entry) {data : List UInt8}
    (hencode : registry.encodeParamWith fuel "AccessCommand" spec.accessCommand = .ok data) :
    ∃ tags operation,
      registry.encodeParamWith (fuel - 1) "C1G2TagSpec"
        (tagSpec (spec.c1G2TargetTag.map C1G2TargetTag.value)) = .ok tags ∧
      registry.encodeParamWith (fuel - 1) entry.1 entry.2 = .ok operation ∧
      frame 209 (tags ++ operation) = .ok data := by
  have hfound := param_at operationParams_subset 3 (by simp [composedNames]) rfl
  obtain ⟨body, hbody, hframe⟩ := exists_body_of_encode hfound rfl rfl (by decide) hencode
  rw [encodeAccessCommand_value _ rfl hentry] at hbody
  obtain ⟨tags, htags, hbody⟩ := bind_eq_ok_iff.mp hbody
  obtain ⟨operation, hoperation, hbody⟩ := bind_eq_ok_iff.mp hbody
  cases hbody
  exact ⟨tags, operation, htags, hoperation, hframe⟩

/-- The targets and the operation are determined by a command. -/
theorem agrees_of_command {fuel fuel' : ℕ} {first second : AccessSpec}
    {entry entry' : String × Value} (hentry : first.opSpecParameter.entry? = some entry)
    (hentry' : second.opSpecParameter.entry? = some entry') {data data' rest other : List UInt8}
    (hencode : registry.encodeParamWith fuel "AccessCommand" first.accessCommand = .ok data)
    (hencode' : registry.encodeParamWith fuel' "AccessCommand" second.accessCommand = .ok data')
    (heq : data ++ rest = data' ++ other) :
    first.opSpecParameter = second.opSpecParameter ∧
      List.Forall₂ C1G2TargetTag.Agrees first.c1G2TargetTag second.c1G2TargetTag ∧
      rest = other := by
  obtain ⟨tags, operation, htags, hoperation, hframe⟩ :=
    exists_of_encode_command hentry hencode
  obtain ⟨tags', operation', htags', hoperation', hframe'⟩ :=
    exists_of_encode_command hentry' hencode'
  obtain ⟨-, hbody, hrest⟩ := frame_append_inj hframe hframe' heq
  obtain ⟨written, hwritten, hframe⟩ := sequence_of_encode_tagSpec htags
  obtain ⟨written', hwritten', hframe'⟩ := sequence_of_encode_tagSpec htags'
  obtain ⟨-, rfl, hoperations⟩ := frame_append_inj hframe hframe' hbody
  obtain ⟨type, body, hbody, hframe⟩ := exists_opBody hentry hoperation
  obtain ⟨type', body', hbody', hframe'⟩ := exists_opBody hentry' hoperation'
  rw [← List.append_nil operation, ← List.append_nil operation'] at hoperations
  obtain ⟨rfl, rfl, -⟩ := frame_append_inj hframe hframe' hoperations
  exact ⟨hbody.inj hbody', selfDelimiting_targetWritten.sequence
    (fun target ⟨typed, _, hnil⟩ => TargetTag.written_ne_nil typed hnil) hwritten hwritten', hrest⟩

theorem exists_of_encode_stopTrigger {fuel : ℕ} {spec : AccessSpec} {data : List UInt8}
    (hencode : registry.encodeParamWith fuel "AccessSpecStopTrigger" spec.stopTrigger =
      .ok data) :
    ∃ body, packStruct [.ubyte, .ushort]
        [.int spec.accessSpecStopTriggerType, .int spec.operationCountValue] = .ok body ∧
      frame 208 body = .ok data := by
  have hfound := param_at operationParams_subset 2 (by simp [composedNames]) rfl
  obtain ⟨body, hbody, hframe⟩ := exists_body_of_encode hfound rfl rfl (by decide) hencode
  refine ⟨body, ?_, hframe⟩
  rw [← hbody]
  simp [encodeAccessSpecStopTrigger, AccessSpec.stopTrigger, item_mapping_eq, Dict.ofList,
    Dict.get?_set, Value.toInt]

theorem exists_of_encode_spec {fuel : ℕ} {spec : AccessSpec} {data : List UInt8}
    (hencode : registry.encodeParamWith fuel "AccessSpec" spec.value = .ok data) :
    ∃ packed trigger command report,
      packStruct [.uint, .ushort, .ubyte, .ubyte, .uint]
        [.int spec.accessSpecId, .int spec.antennaId, .int spec.protocolId,
          flagBit spec.currentState 7, .int spec.roSpecId] = .ok packed ∧
      registry.encodeParamWith (fuel - 1) "AccessSpecStopTrigger" spec.stopTrigger =
        .ok trigger ∧
      registry.encodeParamWith (fuel - 1) "AccessCommand" spec.accessCommand = .ok command ∧
      frame 207 (packed ++ (trigger ++ (command ++ report))) = .ok data := by
  have hfound := param_at operationParams_subset 1 (by simp [composedNames]) rfl
  obtain ⟨body, hbody, hframe⟩ := exists_body_of_encode hfound rfl rfl (by decide) hencode
  rw [encodeAccessSpec_value _ rfl] at hbody
  obtain ⟨packed, hpacked, hbody⟩ := bind_eq_ok_iff.mp hbody
  obtain ⟨trigger, htrigger, hbody⟩ := bind_eq_ok_iff.mp hbody
  obtain ⟨command, hcommand, hbody⟩ := bind_eq_ok_iff.mp hbody
  obtain ⟨report, -, hbody⟩ := bind_eq_ok_iff.mp hbody
  cases hbody
  exact ⟨packed, trigger, command, report, hpacked, htrigger, hcommand, hframe⟩

/-- What is asked of a reader is determined by an AccessSpec. -/
theorem agrees_of_encode {fuel fuel' : ℕ} {first second : AccessSpec}
    {entry entry' : String × Value} (hentry : first.opSpecParameter.entry? = some entry)
    (hentry' : second.opSpecParameter.entry? = some entry') {data : List UInt8}
    (hencode : registry.encodeParamWith fuel "AccessSpec" first.value = .ok data)
    (hencode' : registry.encodeParamWith fuel' "AccessSpec" second.value = .ok data) :
    first.accessSpecId = second.accessSpecId ∧
      first.operationCountValue = second.operationCountValue ∧
      first.opSpecParameter = second.opSpecParameter ∧
      List.Forall₂ C1G2TargetTag.Agrees first.c1G2TargetTag second.c1G2TargetTag := by
  obtain ⟨packed, trigger, command, report, hpacked, htrigger, hcommand, hframe⟩ :=
    exists_of_encode_spec hencode
  obtain ⟨packed', trigger', command', report', hpacked', htrigger', hcommand', hframe'⟩ :=
    exists_of_encode_spec hencode'
  obtain ⟨-, hbody, -⟩ := frame_append_inj hframe hframe' (congrArg (· ++ []) rfl)
  obtain ⟨hids, hbody⟩ := packStruct_append_inj hpacked hpacked' hbody
  obtain ⟨count, hcount, hframe⟩ := exists_of_encode_stopTrigger htrigger
  obtain ⟨count', hcount', hframe'⟩ := exists_of_encode_stopTrigger htrigger'
  obtain ⟨-, rfl, hbody⟩ := frame_append_inj hframe hframe' hbody
  have hcounts := packStruct_inj hcount hcount'
  simp only [List.map_cons, List.map_nil, Value.index, List.cons.injEq, Except.ok.injEq,
    Nat.cast_inj, and_true] at hids hcounts
  obtain ⟨hoperation, htargets, -⟩ := agrees_of_command hentry hentry' hcommand hcommand' hbody
  exact ⟨hids.1, hcounts.2, hoperation, htargets⟩

/-! ## The same bytes -/

theorem depth_target (target : C1G2TargetTag) : target.value.depth = 1 := by
  rw [C1G2TargetTag.value, mapping_eq_dict (by simp)]
  simp [Value.depth, Value.depthOfEntries]

/-- Targets that agree are nested alike and written alike. -/
theorem tagSpec_congr {first second : List C1G2TargetTag}
    (hagree : List.Forall₂ C1G2TargetTag.Agrees first second) :
    (tagSpec (first.map C1G2TargetTag.value)).depth =
        (tagSpec (second.map C1G2TargetTag.value)).depth ∧
      ∀ fuel, registry.encodeParamWith fuel "C1G2TagSpec"
          (tagSpec (first.map C1G2TargetTag.value)) =
        registry.encodeParamWith fuel "C1G2TagSpec"
          (tagSpec (second.map C1G2TargetTag.value)) := by
  constructor
  · have hdepth : Value.depthOfItems (first.map C1G2TargetTag.value) =
        Value.depthOfItems (second.map C1G2TargetTag.value) := by
      induction hagree with
      | nil => rfl
      | cons _ _ ih =>
        simp only [List.map_cons, Value.depthOfItems, depth_target, ih]
    simp only [tagSpec, Value.depth, Value.depthOfEntries, hdepth]
  · intro fuel
    cases fuel with
    | zero => rw [Registry.encodeParamWith, Registry.encodeParamWith]
    | succ fuel =>
      have hfound := param_at operationParams_subset 4 (by simp [composedNames]) rfl
      rw [encodeParamWith_eq_frame hfound rfl rfl (by decide) fuel, encodeAll_tagSpec _ rfl,
        encodeParamWith_eq_frame hfound rfl rfl (by decide) fuel, encodeAll_tagSpec _ rfl]
      congr 1
      generalize ([] : List UInt8) = packed
      induction hagree generalizing packed with
      | nil => rfl
      | @cons target other _ _ hagrees _ ih =>
        have htarget : registry.encodeParamWith fuel "C1G2TargetTag" target.value =
            registry.encodeParamWith fuel "C1G2TargetTag" other.value := by
          cases fuel with
          | zero => rw [Registry.encodeParamWith, Registry.encodeParamWith]
          | succ fuel =>
            have hfound := param_at operationParams_subset 5 (by simp [composedNames]) rfl
            rw [encodeParamWith_eq_frame hfound rfl rfl (by decide) fuel,
              encodeC1G2TargetTag_congr _ _ hagrees,
              encodeParamWith_eq_frame hfound rfl rfl (by decide) fuel]
        rw [List.map_cons, List.map_cons, List.foldlM_cons, List.foldlM_cons, htarget]
        congr 1
        funext data
        exact ih data

/-- Commands are nested as deep as their parts. -/
theorem depth_accessCommand {spec : AccessSpec} {entry : String × Value}
    (hentry : spec.opSpecParameter.entry? = some entry) :
    spec.accessCommand.depth =
      max ((tagSpec (spec.c1G2TargetTag.map C1G2TargetTag.value)).depth + 1)
        (entry.2.depth + 1 + 1) + 1 := by
  have hone : ∀ entry : String × Value, (mapping [entry]).depth = entry.2.depth + 1 := by
    intro entry
    rw [mapping_eq_dict (by simp)]
    simp [Value.depth, Value.depthOfEntries]
  rw [AccessSpec.accessCommand, mapping_eq_dict (by simp), hentry]
  simp [Value.depth, Value.depthOfEntries, Value.depthOfItems, hone]

theorem depth_value (spec : AccessSpec) :
    spec.value.depth = max 1 spec.accessCommand.depth + 1 := by
  rw [AccessSpec.value, AccessSpec.stopTrigger, mapping_eq_dict (by simp),
    mapping_eq_dict (by simp), mapping_eq_dict (by simp)]
  simp [Value.depth, Value.depthOfEntries, Nat.max_comm]

/-- Specifications that differ in targets that agree are written alike. -/
theorem encodeParam_congr {spec : AccessSpec} {targets : List C1G2TargetTag}
    (hsupported : spec.opSpecParameter.entry?.isSome = true)
    (hagree : List.Forall₂ C1G2TargetTag.Agrees spec.c1G2TargetTag targets) :
    registry.encodeParam "AccessSpec" spec.value =
      registry.encodeParam "AccessSpec" { spec with c1G2TargetTag := targets }.value := by
  obtain ⟨entry, hentry⟩ := Option.isSome_iff_exists.mp hsupported
  have hentry' : { spec with c1G2TargetTag := targets }.opSpecParameter.entry? = some entry :=
    hentry
  obtain ⟨htags, hencode⟩ := tagSpec_congr hagree
  have hcommand : ∀ fuel, registry.encodeParamWith fuel "AccessCommand" spec.accessCommand =
      registry.encodeParamWith fuel "AccessCommand"
        { spec with c1G2TargetTag := targets }.accessCommand := by
    intro fuel
    cases fuel with
    | zero => rw [Registry.encodeParamWith, Registry.encodeParamWith]
    | succ fuel =>
      have hfound := param_at operationParams_subset 3 (by simp [composedNames]) rfl
      rw [encodeParamWith_eq_frame hfound rfl rfl (by decide) fuel,
        encodeAccessCommand_value _ rfl hentry, hencode fuel,
        encodeParamWith_eq_frame hfound rfl rfl (by decide) fuel,
        encodeAccessCommand_value _ rfl hentry']
  have hdepth : spec.value.depth = { spec with c1G2TargetTag := targets }.value.depth := by
    rw [depth_value, depth_value, depth_accessCommand hentry, depth_accessCommand hentry', htags]
  have hfound := param_at operationParams_subset 1 (by simp [composedNames]) rfl
  rw [Registry.encodeParam, Registry.encodeParam, hdepth,
    encodeParamWith_eq_frame hfound rfl rfl (by decide), encodeAccessSpec_value _ rfl,
    encodeParamWith_eq_frame hfound rfl rfl (by decide), encodeAccessSpec_value _ rfl, hcommand]
  rfl

/-! ## Operations that are sent alike -/

theorem accessSpec_eq_ok {operation : AccessOperation} {spec : AccessSpec}
    (hspec : accessSpec operation = .ok spec) :
    spec.opSpecParameter.entry?.isSome = true ∧
      spec =
        { accessSpecId := operation.accessSpecId
          accessSpecStopTriggerType := if 0 < operation.stopAfterCount then 1 else 0
          operationCountValue := operation.stopAfterCount
          c1G2TargetTag :=
            if operation.targetSpec.isEmpty then [{}] else operation.targetSpec
          opSpecParameter := operation.opSpec } := by
  unfold accessSpec at hspec
  generalize (if operation.targetSpec.isEmpty then [{}] else operation.targetSpec) = targets
    at hspec ⊢
  dsimp only at hspec
  split at hspec
  · cases hspec
  · split at hspec
    · cases hspec
    · rename_i hsupported
      cases hspec
      refine ⟨?_, rfl⟩
      cases hopSpec : operation.opSpec with
      | unsupported => exact absurd hopSpec hsupported
      | _ => simp only [C1G2OpSpec.entry?, Option.isSome_some]

/-- Two operations are sent as the same AccessSpec, byte for byte, just when they ask for the
same. -/
theorem encode_accessSpec_eq_iff {first second : AccessOperation} {spec other : AccessSpec}
    (hfirst : accessSpec first = .ok spec) (hsecond : accessSpec second = .ok other)
    {data : List UInt8} (hencode : registry.encodeParam "AccessSpec" spec.value = .ok data) :
    registry.encodeParam "AccessSpec" other.value = .ok data ↔ first.Agrees second := by
  obtain ⟨hsupported, hspec⟩ := accessSpec_eq_ok hfirst
  obtain ⟨hsupported', hother⟩ := accessSpec_eq_ok hsecond
  constructor
  · intro hencode'
    obtain ⟨entry, hentry⟩ := Option.isSome_iff_exists.mp hsupported
    obtain ⟨entry', hentry'⟩ := Option.isSome_iff_exists.mp hsupported'
    obtain ⟨hid, hcount, hoperation, htargets⟩ :=
      agrees_of_encode hentry hentry' hencode hencode'
    rw [hspec, hother] at hid hcount hoperation htargets
    exact ⟨hid, hcount, hoperation, htargets⟩
  · intro hagrees
    have hother' : other = { spec with c1G2TargetTag := other.c1G2TargetTag } := by
      rw [hother, hspec, hagrees.accessSpecId, hagrees.stopAfterCount, hagrees.opSpec]
    have htargets : List.Forall₂ C1G2TargetTag.Agrees spec.c1G2TargetTag other.c1G2TargetTag := by
      rw [hspec, hother]
      exact hagrees.targets
    rw [hother', ← encodeParam_congr hsupported htargets]
    exact hencode

/-- Write a word to the tags under two masks, at most twice. -/
def writeTwice (tagMask : String) : AccessOperation where
  opSpec := .write 1 0 3 0 1 [202, 254]
  targetSpec :=
    [{ mb := 1, pointer := 32, tagMask := tagMask, tagData := "e2801" },
      { mb := 3, pointer := 0, tagMask := "F", tagData := "1" }]
  stopAfterCount := 2

def writeTwiceSpec (tagMask : String) : AccessSpec where
  accessSpecId := 1
  accessSpecStopTriggerType := 1
  operationCountValue := 2
  c1G2TargetTag := (writeTwice tagMask).targetSpec
  opSpecParameter := (writeTwice tagMask).opSpec

def writeTwiceBytes : List UInt8 :=
  [0, 207, 0, 83, 0, 0, 0, 1, 0, 0, 1, 0, 0, 0, 0, 0, 0, 208, 0, 7, 1, 0, 2, 0, 209, 0, 55, 1,
    82, 0, 34, 1, 83, 0, 17, 96, 0, 32, 0, 20, 255, 255, 240, 0, 20, 226, 128, 16, 1, 83, 0, 13,
    224, 0, 0, 0, 4, 240, 0, 4, 16, 1, 86, 0, 17, 0, 1, 0, 0, 0, 0, 192, 0, 0, 0, 1, 202, 254, 0,
    239, 0, 5, 1]

/-- The case of the digits of a mask makes no difference. -/
theorem encode_accessSpec_eq_iff_writeTwice :
    registry.encodeParam "AccessSpec" (writeTwiceSpec "FFfFF").value = .ok writeTwiceBytes ↔
      (writeTwice "fffff").Agrees (writeTwice "FFfFF") :=
  have hfirst : accessSpec (writeTwice "fffff") = .ok (writeTwiceSpec "fffff") := by rfl
  have hsecond : accessSpec (writeTwice "FFfFF") = .ok (writeTwiceSpec "FFfFF") := by rfl
  have hencode : registry.encodeParam "AccessSpec" (writeTwiceSpec "fffff").value =
      .ok writeTwiceBytes := by
    decide +kernel
  encode_accessSpec_eq_iff hfirst hsecond hencode

end Sllurp.Codec
