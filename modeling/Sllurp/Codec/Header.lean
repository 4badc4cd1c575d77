/-
# Headers

The headers of messages and parameters. A message is of a standard type or of a
vendor's own, which its header names. A parameter is either a TV of a fixed
length, with the high bit of its first byte set, or a TLV that says how long it
is.
-/

import Sllurp.Codec.Value

namespace Sllurp.Codec

open Sllurp.Foundations Sllurp.Foundations.Wire Sllurp.Protocol

def typeCustom : ℕ := 1023

def vendorIdImpinj : ℕ := 25882

abbrev msgHeader : List Format := [.ushort, .uint, .uint]

abbrev msgVendorSubtype : List Format := [.uint, .ubyte]

abbrev msgHeaderCustom : List Format := msgHeader ++ msgVendorSubtype

abbrev tlvParHeader : List Format := [.ushort, .ushort]

abbrev parVendorSubtype : List Format := [.uint, .uint]

abbrev parCustomHeader : List Format := tlvParHeader ++ parVendorSubtype

/-! ## Messages -/

/-- What a message header says. Lengths are in bytes, and the total one includes
the header. -/
structure MsgHeader where
  msgType : ℕ
  vendorId : ℕ
  subtype : ℕ
  version : ℕ
  headerLength : ℕ
  totalLength : ℕ
  messageId : ℕ
  deriving DecidableEq, Repr

/-- The header before a body of the given length. Type and version are cut to
their fields; the other numbers have to fit. -/
def msgHeaderEncode (msgType : ℕ) (version : Value) (length : ℕ)
    (messageId vendorId subtype : Value) : Except Exn (List UInt8) := do
  let version ← version.index.mapError fun _ =>
    .typeError s!"unsupported operand type(s) for &: '{version.typeName}' and 'int'"
  let first : Value := .int (version % 8 * 1024 + msgType % 1024)
  if msgType % 1024 = typeCustom then
    let total : Value := .int (recordSize msgHeaderCustom + length)
    packStruct msgHeaderCustom [first, total, messageId, vendorId, subtype]
  else
    let total : Value := .int (recordSize msgHeader + length)
    packStruct msgHeader [first, total, messageId]

/-- The vendor, the subtype and the length of a header: those of a custom message come
after its common part. -/
def msgVendorDecode (msgType : ℕ) (data : List UInt8) : Except Exn (ℕ × ℕ × ℕ) :=
  let customSize := recordSize msgHeader + recordSize msgVendorSubtype
  if msgType ≠ typeCustom then .ok (0, 0, recordSize msgHeader)
  else if data.length < customSize then
    .error (.valueError
      s!"truncated custom LLRP header: need {customSize} bytes, got {data.length}")
  else do
    let (vendorId, subtype, ()) ← unpackStruct msgVendorSubtype
      ((data.take customSize).drop (recordSize msgHeader))
    .ok (vendorId.toNat, subtype.toNat, customSize)

/-- Read the header at the start of the data. -/
def msgHeaderDecode (data : List UInt8) : Except Exn MsgHeader :=
  if data.length < recordSize msgHeader then
    .error (.valueError
      s!"truncated LLRP message header: need {recordSize msgHeader} bytes, got {data.length}")
  else do
    let (first, total, messageId, ()) ← unpackStruct msgHeader (data.take (recordSize msgHeader))
    let version := first.toNat / 1024 % 8
    let msgType := first.toNat % 1024
    let (vendorId, subtype, headerLength) ← msgVendorDecode msgType data
    if total.toNat < headerLength then
      .error (.valueError
        s!"declared LLRP message length {total} is shorter than header {headerLength}")
    else
      .ok
        { msgType, vendorId, subtype, version, headerLength
          totalLength := total.toNat
          messageId := messageId.toNat }

/-! ## Parameters -/

/-- What a parameter header says. -/
structure ParamHeader where
  paramType : ℕ
  vendorId : ℕ := 0
  subtype : ℕ := 0
  headerLength : ℕ
  fullLength : ℕ
  deriving DecidableEq, Repr

/-- The TV types with their names and the format of their bodies. -/
def tveParamFormats : List (ℕ × String × List Format) :=
  [(1, "AntennaID", [.ushort]), (2, "FirstSeenTimestampUTC", [.ulonglong]),
    (3, "FirstSeenTimestampUptime", [.ulonglong]), (4, "LastSeenTimestampUTC", [.ulonglong]),
    (5, "LastSeenTimestampUptime", [.ulonglong]), (6, "PeakRSSI", [.byte]),
    (7, "ChannelIndex", [.ushort]), (8, "TagSeenCount", [.ushort]), (9, "ROSpecID", [.uint]),
    (10, "InventoryParameterSpecID", [.ushort]), (11, "C1G2CRC", [.ushort]),
    (12, "C1G2PC", [.ushort]), (13, "EPC-96", List.replicate 12 .ubyte),
    (14, "SpecIndex", [.ushort]), (15, "ClientRequestOpSpecResult", [.ushort]),
    (16, "AccessSpecID", [.uint]), (17, "OpSpecID", [.ushort]),
    (18, "C1G2SingulationDetails", [.ushort, .ushort]), (19, "C1G2XPCW1", [.ushort]),
    (20, "C1G2XPCW2", [.ushort])]

/-- The header of a TV. Any other data, and a TV of an unknown type, has none. -/
def tveParamHeaderDecode (data : List UInt8) : Option ParamHeader :=
  match data with
  | [] => none
  | first :: _ =>
    if first.toNat < 128 then none
    else
      (tveParamFormats.lookup (first.toNat % 128)).map fun (_, formats) =>
        { paramType := first.toNat % 128, headerLength := 1, fullLength := 1 + recordSize formats }

/-- The header of a custom TLV, unless it is cut off. -/
def customParamHeaderDecode (length : ℕ) (data : List UInt8) : Except Exn (Option ParamHeader) :=
  if data.length < recordSize parCustomHeader then .ok none
  else if length < recordSize parCustomHeader then
    .error (.valueError (s!"declared custom parameter length {length} is shorter than " ++
      s!"header {recordSize parCustomHeader}"))
  else do
    let (vendorId, subtype, ()) ← unpackStruct parVendorSubtype
      ((data.take (recordSize parCustomHeader)).drop (recordSize tlvParHeader))
    .ok (some
      { paramType := typeCustom
        vendorId := vendorId.toNat
        subtype := subtype.toNat
        headerLength := recordSize parCustomHeader
        fullLength := length })

/-- The header of a TLV, unless it is cut off. -/
def tlvParamHeaderDecode (data : List UInt8) : Except Exn (Option ParamHeader) :=
  if data.length < recordSize tlvParHeader then .ok none
  else do
    let (first, length, ()) ← unpackStruct tlvParHeader (data.take (recordSize tlvParHeader))
    if length.toNat < recordSize tlvParHeader then
      .error (.valueError
        s!"declared TLV parameter length {length} is shorter than header {recordSize tlvParHeader}")
    else
      let paramType := first.toNat % 1024
      if paramType = typeCustom then customParamHeaderDecode length.toNat data
      else
        .ok (some
          { paramType, headerLength := recordSize tlvParHeader, fullLength := length.toNat })

/-- The header of a parameter: a TV is looked for first. -/
def paramHeaderDecode (data : List UInt8) : Except Exn (Option ParamHeader) :=
  if data.isEmpty then .ok none
  else
    match tveParamHeaderDecode data with
    | some header => .ok (some header)
    | none => tlvParamHeaderDecode data

end Sllurp.Codec
