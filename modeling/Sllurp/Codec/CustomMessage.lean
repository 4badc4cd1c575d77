/-
# Custom messages

A custom message is sent as it is, under the vendor and the subtype in its header.
On the way back the general decoder takes its payload for parameters, and neither
it nor what is added from the header keeps the vendor, the subtype or the payload.
-/

import Sllurp.Codec.Serialized
import Sllurp.Codec.Sound

namespace Sllurp.Codec

open Sllurp.Foundations Sllurp.Foundations.Wire Sllurp.Foundations.Outcome Sllurp.Protocol

/-! ## Keys of decoded messages -/

/-- A walk through the registered parameters finds none of these fields. -/
theorem get?_decodeAllParameters {key : String} (hkey : key ∈ ["VendorID", "Subtype", "Payload"])
    {nFields : List String} {fields result : Fields} {data : List UInt8}
    (hdecode : registry.decodeAllParameters nFields fields data = .ok result) :
    result.get? key = fields.get? key := by
  have hrecord : key ≠ decodeErrorParname := by
    rintro rfl
    revert hkey
    decide
  apply Registry.get?_walkAll hrecord _ hdecode
  intro type hname
  exact reservedKeys_not_names key (List.mem_cons_of_mem _ hkey) (mem_names_of_typeName hname)

/-! ## The message -/

/-- The body of a custom message. -/
def customItem (vendorId subtype messageId : ℤ) (payload : List UInt8) : Value :=
  .dict
    [("VendorID", .int vendorId), ("Subtype", .int subtype), ("Payload", .bytes payload),
      ("ID", .int messageId)]

/-- The mapping of a custom message. -/
def customMessage (vendorId subtype messageId : ℤ) (payload : List UInt8) : Fields :=
  .ofList [("CUSTOM_MESSAGE", customItem vendorId subtype messageId payload)]

/-- Custom messages have the general decoder, and their payload is their body. -/
theorem customMessage_info :
    messageStruct.lookup "CUSTOM_MESSAGE" =
      some
        { type := typeCustom
          ownFields := ["ID", "VendorID", "Subtype", "Payload"]
          encode := some encodeCustomMessage
          decode := some decodeGenericMessage } := by
  rfl

/-- The message comes back under its name, with everything that was put into it. -/
def CustomRoundTrips (vendorId subtype messageId : ℤ) (payload : List UInt8) : Prop :=
  ∃ bytes fields, serialize (customMessage vendorId subtype messageId payload) = .ok bytes ∧
    deserialize bytes = .ok ("CUSTOM_MESSAGE", fields) ∧
    fields.get? "VendorID" = some (.int vendorId) ∧
    fields.get? "Subtype" = some (.int subtype) ∧
    fields.get? "Payload" = some (.bytes payload) ∧
    fields.get? "ID" = some (.int messageId)

/-- A decoded custom message has no vendor, no subtype and no payload. -/
theorem get?_of_deserialize {data : List UInt8} {fields : Fields} {key : String}
    (hkey : key ∈ ["VendorID", "Subtype", "Payload"])
    (hdecode : deserialize data = .ok ("CUSTOM_MESSAGE", fields)) : fields.get? key = none := by
  obtain ⟨header, -, hframed⟩ := exists_framed_of_deserialize hdecode
  obtain ⟨-, info, decode, decoded, hinfo, hdecoder, hbody, rfl⟩ :=
    deserializeFramed_eq_ok_iff.mp hframed
  have hheader : key ∉ ["Ver", "Type", "ID"] := by
    revert hkey
    simp only [List.mem_cons, List.not_mem_nil, or_false]
    rintro (rfl | rfl | rfl) <;> decide
  cases hinfo.symm.trans customMessage_info
  cases hdecoder
  rw [get?_addTo header decoded hheader, get?_decodeAllParameters hkey hbody]
  rfl

/-- No custom message comes back as it was sent. -/
theorem not_customRoundTrips (vendorId subtype messageId : ℤ) (payload : List UInt8) :
    ¬ CustomRoundTrips vendorId subtype messageId payload := by
  rintro ⟨bytes, fields, -, hdecode, hvendor, -⟩
  rw [get?_of_deserialize (by simp) hdecode] at hvendor
  cases hvendor

/-- Three bytes are not a parameter, so that the message is refused. -/
theorem customMessage_three_bytes : ¬ CustomRoundTrips 25 1 7 [1, 2, 3] := by
  rintro ⟨bytes, fields, hserialize, hdecode, -⟩
  have hbytes : serialize (customMessage 25 1 7 [1, 2, 3]) =
      .ok [7, 255, 0, 0, 0, 18, 0, 0, 0, 7, 0, 0, 0, 25, 1, 1, 2, 3] := by rfl
  rw [hbytes] at hserialize
  cases hserialize
  have hrefused : deserialize [7, 255, 0, 0, 0, 18, 0, 0, 0, 7, 0, 0, 0, 25, 1, 1, 2, 3] =
      .error (.llrpError "Error decoding param. Invalid byte stream.") := by rfl
  rw [hrefused] at hdecode
  cases hdecode

end Sllurp.Codec
