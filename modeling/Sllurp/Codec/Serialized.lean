/-
# Serialized messages

A serialized message is a header and a body. The header says the type of the
message, or for a custom message what the application asked for, and its length is
that of the whole message, so that deserializing it is decoding the body.
-/

import Sllurp.Codec.Message
import Sllurp.Codec.Records

namespace Sllurp.Codec

open Sllurp.Foundations Sllurp.Foundations.Wire Sllurp.Foundations.Outcome Sllurp.Protocol

/-! ## The table of messages -/

/-- Types fit their field, and only custom messages have a vendor. -/
theorem messageStruct_types :
    ∀ entry ∈ messageStruct, entry.2.type < 1024 ∧
      (entry.2.type ≠ typeCustom → entry.2.vendorId = 0 ∧ entry.2.subtype = 0) := by
  decide

/-- No two messages have the same type. -/
theorem messageStruct_names :
    ∀ entry ∈ messageStruct, messageType2Name.lookup entry.2.key = some entry.1 := by
  decide

theorem customMessage_of_type :
    ∀ entry ∈ messageStruct, entry.1 = "CUSTOM_MESSAGE" → entry.2.type = typeCustom := by
  decide

/-! ## Header and body -/

/-- The parts of a serialized message. -/
structure Serialized (name : String) (item : Value) (bytes : List UInt8) where
  info : MessageInfo
  encode : Encoder
  header : MsgHeader
  body : List UInt8
  registered : messageStruct.lookup name = some info
  encoder : info.encode = some encode
  encoded : encode registry.encodeParam info.toLayout item = .ok body
  decoded : msgHeaderDecode bytes = .ok header
  headed : header.headerLength ≤ header.totalLength
  whole : header.totalLength = bytes.length
  rest : (bytes.take header.totalLength).drop header.headerLength = body
  typed : header.msgType = info.type
  identified : (item.getD "ID" (.int 0) >>= Value.index) = .ok (header.messageId : ℤ)
  versioned : ∃ number, (item.getD "Ver" (.int 1) >>= Value.index) = .ok number ∧
    (header.version : ℤ) = number % 8
  keyed : name ≠ "CUSTOM_MESSAGE" →
    (header.msgType, header.vendorId, header.subtype) = info.key
  custom : name = "CUSTOM_MESSAGE" →
    (item.item "VendorID" >>= Value.index) = .ok (header.vendorId : ℤ) ∧
      (item.item "Subtype" >>= Value.index) = .ok (header.subtype : ℤ)

theorem exists_serialized {msgdict : Fields} {name : String} {item : Value}
    {rest : List (String × Value)} {bytes : List UInt8}
    (hentries : msgdict.entries = (name, item) :: rest)
    (hserialize : serialize msgdict = .ok bytes) : Nonempty (Serialized name item bytes) := by
  unfold serialize at hserialize
  simp only [hentries] at hserialize
  cases hlookup : messageStruct.lookup name with
  | none =>
    rw [hlookup] at hserialize
    cases hserialize
  | some info =>
    simp only [hlookup] at hserialize
    cases hencoder : info.encode with
    | none =>
      rw [hencoder] at hserialize
      cases hserialize
    | some encode =>
      simp only [hencoder] at hserialize
      obtain ⟨version, hversion, hserialize⟩ := bind_eq_ok_iff.mp hserialize
      obtain ⟨⟨vendorId, subtype⟩, hvendor, hserialize⟩ := bind_eq_ok_iff.mp hserialize
      obtain ⟨messageId, hid, hserialize⟩ := bind_eq_ok_iff.mp hserialize
      obtain ⟨body, hbody, hserialize⟩ := bind_eq_ok_iff.mp hserialize
      obtain ⟨head, hhead, hserialize⟩ := bind_eq_ok_iff.mp hserialize
      cases hserialize
      have hentry := mem_of_lookup hlookup
      have htypes := messageStruct_types _ hentry
      obtain ⟨header, hdecode, htype, hheaded, htotal, hindex, ⟨number, hver, hversioned⟩, hkey⟩ :=
        msgHeaderDecode_of_encode hhead
      rw [Nat.mod_eq_of_lt htypes.1] at htype hkey
      refine ⟨info, encode, header, body, hlookup, hencoder, hbody, hdecode body rfl, by omega,
        by rw [htotal, List.length_append], ?_, htype, ?_, ⟨number, ?_, hversioned⟩, ?_, ?_⟩
      · rw [htotal, ← List.length_append, List.take_length, hheaded, List.drop_left]
      · rw [hid, ok_bind, hindex]
      · rw [hversion, ok_bind, hver]
      · intro hname
        rw [vendorOf, if_neg (by simpa using hname)] at hvendor
        cases hvendor
        rw [htype]
        split at hkey
        · rw [Layout.key, Int.ofNat_inj.mp (Except.ok.inj hkey.1),
            Int.ofNat_inj.mp (Except.ok.inj hkey.2)]
        · rename_i hstandard
          rw [Layout.key, hkey.1, hkey.2, (htypes.2 hstandard).1, (htypes.2 hstandard).2]
      · intro hname
        rw [if_pos (customMessage_of_type _ hentry hname)] at hkey
        rw [vendorOf, if_pos (by simpa using hname)] at hvendor
        obtain ⟨vendor, hitem, hvendor⟩ := bind_eq_ok_iff.mp hvendor
        obtain ⟨sub, hsub, hvendor⟩ := bind_eq_ok_iff.mp hvendor
        cases hvendor
        rw [hitem, hsub, ok_bind, ok_bind]
        exact hkey

/-! ## Deserializing -/

/-- The fields that the header adds to those of the body. -/
def MsgHeader.addTo (header : MsgHeader) (fields : Fields) : Fields :=
  ((fields.set "Ver" (.int header.version)).set "Type" (.int header.msgType)).set "ID"
    (.int header.messageId)

theorem get?_addTo (header : MsgHeader) (fields : Fields) {key : String}
    (hkey : key ∉ ["Ver", "Type", "ID"]) : (header.addTo fields).get? key = fields.get? key := by
  simp only [List.mem_cons, List.not_mem_nil, or_false, not_or] at hkey
  rw [MsgHeader.addTo, Dict.get?_set, if_neg hkey.2.2, Dict.get?_set, if_neg hkey.2.1,
    Dict.get?_set, if_neg hkey.1]

/-- A decoded message has the name of its type and the fields of its body. -/
theorem deserializeFramed_eq_ok_iff {header : MsgHeader} {body : List UInt8} {name : String}
    {fields : Fields} :
    deserializeFramed header body = .ok (name, fields) ↔
      messageName header = some name ∧ ∃ info decode decoded,
        messageStruct.lookup name = some info ∧ info.decode = some decode ∧
        decode info.nFields body = .ok decoded ∧ fields = header.addTo decoded := by
  constructor
  · intro hdecode
    unfold deserializeFramed at hdecode
    cases hname : messageName header with
    | none =>
      simp only [hname] at hdecode
      cases hdecode
    | some found =>
      cases hinfo : messageStruct.lookup found with
      | none =>
        simp only [hname, hinfo] at hdecode
        cases hdecode
      | some info =>
        cases hdecoder : info.decode with
        | none =>
          simp only [hname, hinfo, hdecoder] at hdecode
          cases hdecode
        | some decode =>
          simp only [hname, hinfo, hdecoder] at hdecode
          obtain ⟨decoded, hbody, hdecode⟩ := bind_eq_ok_iff.mp hdecode
          cases hdecode
          exact ⟨rfl, info, decode, decoded, hinfo, hdecoder, mapError_eq_ok_iff.mp hbody, rfl⟩
  · rintro ⟨hname, info, decode, decoded, hinfo, hdecoder, hbody, rfl⟩
    unfold deserializeFramed
    simp only [hname, hinfo, hdecoder, hbody]
    rfl

/-- Only a message that its header delimits is decoded. -/
theorem exists_framed_of_deserialize {data : List UInt8} {decoded : String × Fields}
    (hdecode : deserialize data = .ok decoded) :
    ∃ header, msgHeaderDecode data = .ok header ∧
      deserializeFramed header ((data.take header.totalLength).drop header.headerLength) =
        .ok decoded := by
  unfold Codec.deserialize at hdecode
  split at hdecode
  · cases hdecode
  · obtain ⟨header, hheader, hdecode⟩ := bind_eq_ok_iff.mp hdecode
    split at hdecode
    · cases hdecode
    · split at hdecode
      · cases hdecode
      · exact ⟨header, mapError_eq_ok_iff.mp hheader, hdecode⟩

end Sllurp.Codec
