/-
# Sending messages

Sending a mapping of messages gives each of them an ID, serializes the mapping and
writes the bytes; what is returned lists the names and IDs of all its messages. The
serializer encodes the first message only, so the bytes tell what is returned just
when there is one message, and then unless a custom message borrows the vendor and
the subtype of a registered one.
-/

import Sllurp.Codec.Serialized
import Sllurp.Session.Requests

namespace Sllurp.Codec

open Sllurp.Foundations Sllurp.Foundations.Wire Sllurp.Foundations.Outcome Sllurp.Protocol

/-- What sending reads of the client: the last message ID, an ID that is reserved for a
registered request, and the responses that something waits for. -/
structure Sender where
  lastMsgId : ℤ
  reservedMessageId : Option ℤ
  sendingRegisteredRequest : Bool
  isWaiting : String → Bool

namespace Sender

/-- The successor of a message ID, from the last one back to 1. -/
def nextMessageId (lastMsgId : ℤ) : ℤ :=
  if lastMsgId < Session.llrpMsgIdMax then lastMsgId + 1 else 1

/-- The ID of a message and the last ID after it. -/
def messageIdOf (sender : Sender) (lastMsgId : ℤ) (item : Fields) : Except Exn (ℤ × ℤ) :=
  match item.get? "ID" with
  | some existingId => do
    let messageId ← existingId.toInt
    .ok (messageId, messageId)
  | none =>
    match sender.reservedMessageId with
    | some messageId => .ok (messageId, lastMsgId)
    | none => .ok (nextMessageId lastMsgId, nextMessageId lastMsgId)

/-- The body of a message with its ID. -/
def withId (item : Fields) (messageId : ℤ) : Fields :=
  if (item.get? "ID").isSome then item else item.set "ID" (.int messageId)

/-- Number the messages one after the other. -/
def number (sender : Sender) (lastMsgId : ℤ) :
    List (String × Value) → Except Exn (List (String × Value) × List (String × ℤ))
  | [] => .ok ([], [])
  | (name, item) :: rest =>
    match item.fields? with
    | none => .error (.attributeError s!"'{item.typeName}' object has no attribute 'get'")
    | some fields => do
      let (messageId, lastMsgId) ← sender.messageIdOf lastMsgId fields
      let (items, sentIds) ← number sender lastMsgId rest
      .ok ((name, (withId fields messageId).value) :: items, (name, messageId) :: sentIds)

/-- Number and serialize the messages of a mapping. -/
def prepareMessage (sender : Sender) (msgDict : Fields) :
    Except Exn (List (String × Value) × List UInt8 × List (String × ℤ)) := do
  let (items, sentIds) ← sender.number sender.lastMsgId msgDict.entries
  let msgbytes ← serialize (.ofList items)
  if msgbytes.isEmpty then .error (.llrpError "LLRPMessage is empty")
  else .ok (items, msgbytes, sentIds)

/-- The response to a message. -/
def responseName (name : String) : String :=
  if name = "IMPINJ_ENABLE_EXTENSIONS" then "IMPINJ_ENABLE_EXTENSIONS_RESPONSE"
  else name ++ "_RESPONSE"

/-- Send the messages of a mapping: the mapping with its IDs, the bytes that are written,
and the names and IDs that are returned. -/
def sendMessage (sender : Sender) (msgDict : Fields) :
    Except Exn (List (String × Value) × List UInt8 × List (String × ℤ)) :=
  let pending := fun name =>
    !sender.sendingRegisteredRequest && sender.isWaiting (responseName name)
  match msgDict.keys.find? pending with
  | some name =>
    .error (.readerConfigurationError
      s!"cannot send {name}: {responseName name} is already pending")
  | none => sender.prepareMessage msgDict

end Sender

/-! ## Reading frames -/

/-- The names and IDs of the messages in the bytes, as their headers say them. The fuel
bounds their number. -/
def readFrames : ℕ → List UInt8 → Except Exn (List (String × ℤ))
  | 0, _ => .error (.recursionError "maximum recursion depth exceeded")
  | fuel + 1, data =>
    if data.isEmpty then .ok []
    else do
      let header ← msgHeaderDecode data
      if data.length < header.totalLength then .error (.llrpError "Truncated LLRP message")
      else
        match messageName header with
        | none => .error (.llrpError "Unknown message type")
        | some name => do
          let rest ← readFrames fuel (data.drop header.totalLength)
          .ok ((name, (header.messageId : ℤ)) :: rest)

/-- The bytes are one whole message for each entry, and read as what is returned. -/
def WritesAll (items : List (String × Value)) (bytes : List UInt8)
    (sentIds : List (String × ℤ)) : Prop :=
  (∃ frames, items.mapM (fun item => serialize (.ofList [item])) = .ok frames ∧
    bytes = frames.flatten) ∧
  readFrames (bytes.length + 1) bytes = .ok sentIds

/-- A custom message under the vendor and a subtype of a registered message. -/
def BorrowsType (item : Value) : Prop :=
  (item.item "VendorID" >>= Value.index) = .ok 25882 ∧
    ((item.item "Subtype" >>= Value.index) = .ok 21 ∨
      (item.item "Subtype" >>= Value.index) = .ok 22)

/-! ## Numbering -/

namespace Sender

variable {sender : Sender}

/-- Numbering keeps the names, and the IDs come in their order. -/
theorem names_number {lastMsgId : ℤ} {entries items : List (String × Value)}
    {sentIds : List (String × ℤ)}
    (hnumber : sender.number lastMsgId entries = .ok (items, sentIds)) :
    items.map Prod.fst = entries.map Prod.fst ∧ sentIds.map Prod.fst = entries.map Prod.fst := by
  induction entries generalizing lastMsgId items sentIds with
  | nil =>
    cases hnumber
    exact ⟨rfl, rfl⟩
  | cons entry entries ih =>
    obtain ⟨name, item⟩ := entry
    rw [number] at hnumber
    split at hnumber
    · cases hnumber
    · obtain ⟨⟨messageId, lastMsgId⟩, -, hnumber⟩ := bind_eq_ok_iff.mp hnumber
      obtain ⟨⟨others, ids⟩, hrest, hnumber⟩ := bind_eq_ok_iff.mp hnumber
      obtain ⟨hitems, hids⟩ := ih hrest
      cases hnumber
      simp only [List.map_cons, hitems, hids, and_self]

/-- The number that a value counts as is the one that it converts to. -/
theorem toInt_of_index {value : Value} {number : ℤ} (hindex : value.index = .ok number) :
    value.toInt = .ok number := by
  cases value with
  | bool flag => exact hindex
  | int number => exact hindex
  | _ => cases hindex

/-- A message is sent under the ID that is returned for it. -/
theorem messageId_eq {lastMsgId later messageId number : ℤ} {fields : Fields}
    (hid : sender.messageIdOf lastMsgId fields = .ok (messageId, later))
    (hindex : ((withId fields messageId).value.getD "ID" (.int 0) >>= Value.index) = .ok number) :
    number = messageId := by
  unfold Value.getD at hindex
  rw [Value.fields?_value, ok_bind] at hindex
  unfold messageIdOf at hid
  cases hget : fields.get? "ID" with
  | none =>
    have hset : withId fields messageId = fields.set "ID" (.int messageId) := by
      rw [withId, hget]
      rfl
    rw [hset, Dict.getD, Dict.get?_set_self] at hindex
    exact (Except.ok.inj hindex).symm
  | some existingId =>
    have hset : withId fields messageId = fields := by
      rw [withId, hget]
      rfl
    rw [hset, Dict.getD, hget] at hindex
    simp only [hget] at hid
    obtain ⟨found, hfound, hid⟩ := bind_eq_ok_iff.mp hid
    cases hid
    exact Except.ok.inj ((toInt_of_index hindex).symm.trans hfound)

theorem nextMessageId_cast (lastMsgId : ℕ) :
    nextMessageId lastMsgId = (Session.nextMessageId lastMsgId : ℕ) := by
  unfold nextMessageId Session.nextMessageId
  split
  · rw [if_pos (by omega), Nat.cast_add, Nat.cast_one]
  · rw [if_neg (by omega), Nat.cast_one]

/-- The IDs are those under which the session's model sends messages with these explicit
IDs. -/
theorem ids_number (hreserved : sender.reservedMessageId = none) {lastMsgId : ℕ}
    {entries items : List (String × Value)} {explicitIds : List (Option ℕ)}
    {sentIds : List (String × ℤ)}
    (hexplicit : List.Forall₂
      (fun entry explicitId => ∃ fields : Fields, entry.2.fields? = some fields ∧
        fields.get? "ID" = explicitId.map fun messageId : ℕ => .int messageId)
      entries explicitIds)
    (hnumber : sender.number lastMsgId entries = .ok (items, sentIds)) :
    sentIds.map Prod.snd = (Session.prepareIds explicitIds lastMsgId).1.map Nat.cast := by
  induction hexplicit generalizing lastMsgId items sentIds with
  | nil =>
    cases hnumber
    rfl
  | @cons entry explicitId entries explicitIds hentry hrest ih =>
    obtain ⟨name, item⟩ := entry
    obtain ⟨fields, hfields, hget⟩ := hentry
    rw [number] at hnumber
    simp only at hfields
    simp only [hfields] at hnumber
    obtain ⟨⟨messageId, later⟩, hid, hnumber⟩ := bind_eq_ok_iff.mp hnumber
    obtain ⟨⟨others, ids⟩, hnext, hnumber⟩ := bind_eq_ok_iff.mp hnumber
    cases hnumber
    have hsame : messageId = later ∧
        messageId = (explicitId.getD (Session.nextMessageId lastMsgId) : ℕ) := by
      unfold messageIdOf at hid
      rw [hget] at hid
      cases explicitId with
      | none =>
        simp only [Option.map_none, hreserved, Except.ok.injEq, Prod.mk.injEq] at hid
        rw [← hid.1, ← hid.2, Option.getD_none, nextMessageId_cast]
        exact ⟨rfl, rfl⟩
      | some existingId =>
        cases hid
        exact ⟨rfl, rfl⟩
    obtain ⟨rfl, rfl⟩ := hsame
    rw [List.map_cons, Session.prepareIds, ih hnext]
    rfl

/-- Numbering a message changes nothing but its ID. -/
theorem item_withId {item : Value} {fields : Fields} {messageId : ℤ} {key : String}
    (hfields : item.fields? = some fields) (hkey : key ≠ "ID") :
    (withId fields messageId).value.item key = item.item key := by
  have hget : (withId fields messageId).get? key = fields.get? key := by
    unfold withId
    split
    · rfl
    · rw [Dict.get?_set, if_neg hkey]
  unfold Value.item
  rw [Value.fields?_value, hfields]
  simp only [hget]

end Sender

/-! ## The name of a serialized message -/

/-- The names of custom messages: those with a vendor of their own have a registered one. -/
theorem customNames :
    ∀ entry ∈ messageType2Name, entry.1.1 = typeCustom → entry.2 = "CUSTOM_MESSAGE" ∨
      (entry.1.2.1 = 25882 ∧ (entry.1.2.2 = 21 ∨ entry.1.2.2 = 22)) := by
  decide

theorem borrowedNames :
    ∀ subtype ∈ [21, 22], (messageType2Name.lookup (typeCustom, 25882, subtype)).isSome = true ∧
      messageType2Name.lookup (typeCustom, 25882, subtype) ≠ some "CUSTOM_MESSAGE" := by
  decide

/-- The header of a serialized message has its name, unless a custom message borrows
another one's type. -/
theorem Serialized.messageName_eq_iff {name : String} {item : Value} {bytes : List UInt8}
    (sent : Serialized name item bytes) :
    messageName sent.header = some name ↔ (name = "CUSTOM_MESSAGE" → ¬ BorrowsType item) := by
  by_cases hcustom : name = "CUSTOM_MESSAGE"
  · obtain ⟨hvendor, hsubtype⟩ := sent.custom hcustom
    have htype : sent.header.msgType = typeCustom :=
      sent.typed.trans (customMessage_of_type _ (mem_of_lookup sent.registered) hcustom)
    have hborrows : BorrowsType item ↔ sent.header.vendorId = 25882 ∧
        (sent.header.subtype = 21 ∨ sent.header.subtype = 22) := by
      unfold BorrowsType
      rw [hvendor, hsubtype]
      simp only [Except.ok.injEq]
      omega
    subst hcustom
    rw [hborrows, messageName, htype]
    constructor
    · rintro hname - ⟨hvendorId, hsub⟩
      rw [hvendorId] at hname
      obtain ⟨hsome, hother⟩ := borrowedNames sent.header.subtype (by simpa using hsub)
      obtain ⟨found, hfound⟩ := Option.isSome_iff_exists.mp hsome
      rw [hfound] at hname hother
      exact hother hname
    · intro hnot
      cases hlookup :
          messageType2Name.lookup (typeCustom, sent.header.vendorId, sent.header.subtype) with
      | none => exact if_pos rfl
      | some found =>
        rcases customNames _ (mem_of_lookup hlookup) rfl with hname | hborrowed
        · exact congrArg some hname
        · exact absurd hborrowed (hnot rfl)
  · simp only [hcustom, false_implies, iff_true]
    rw [messageName, sent.keyed hcustom, messageStruct_names _ (mem_of_lookup sent.registered)]

/-! ## What is written -/

theorem readFrames_nil (fuel : ℕ) : readFrames (fuel + 1) [] = .ok [] := rfl

/-- A serialized message reads as one frame. -/
theorem Serialized.readFrames_eq_ok_iff {name : String} {item : Value} {bytes : List UInt8}
    (sent : Serialized name item bytes) {read : List (String × ℤ)} :
    readFrames (bytes.length + 1) bytes = .ok read ↔
      ∃ found, messageName sent.header = some found ∧
        read = [(found, (sent.header.messageId : ℤ))] := by
  have hwhole := sent.whole
  have hnonempty : bytes ≠ [] := by
    rintro rfl
    cases sent.decoded
  obtain ⟨length, hlength⟩ : ∃ length, bytes.length = length + 1 :=
    Nat.exists_eq_succ_of_ne_zero (by simpa using hnonempty)
  have hempty : ¬ bytes.isEmpty = true := by simpa using hnonempty
  rw [readFrames, if_neg hempty, sent.decoded, ok_bind, if_neg (by omega), hwhole,
    List.drop_length, hlength, readFrames_nil]
  cases messageName sent.header with
  | none => simp
  | some found =>
    simp only [ok_bind, Except.ok.injEq, Option.some.injEq]
    constructor
    · rintro rfl
      exact ⟨found, rfl, rfl⟩
    · rintro ⟨_, rfl, rfl⟩
      rfl

/-- The mapping has one message, and its header says its name. -/
def OneMessage (msgDict : Fields) : Prop :=
  ∃ name item, msgDict.entries = [(name, item)] ∧ (name = "CUSTOM_MESSAGE" → ¬ BorrowsType item)

/-- What is sent of a mapping. -/
theorem Sender.exists_of_sendMessage {sender : Sender} {msgDict : Fields}
    {items : List (String × Value)} {bytes : List UInt8} {sentIds : List (String × ℤ)}
    (hsend : sender.sendMessage msgDict = .ok (items, bytes, sentIds)) :
    sender.number sender.lastMsgId msgDict.entries = .ok (items, sentIds) ∧
      serialize (.ofList items) = .ok bytes := by
  unfold sendMessage at hsend
  simp only at hsend
  split at hsend
  · cases hsend
  · unfold prepareMessage at hsend
    obtain ⟨⟨numbered, ids⟩, hnumber, hsend⟩ := bind_eq_ok_iff.mp hsend
    obtain ⟨msgbytes, hserialize, hsend⟩ := bind_eq_ok_iff.mp hsend
    split at hsend
    · cases hsend
    · cases hsend
      exact ⟨hnumber, hserialize⟩

theorem Sender.number_singleton {sender : Sender} {lastMsgId : ℤ} {name : String} {item : Value}
    {items : List (String × Value)} {sentIds : List (String × ℤ)}
    (hnumber : sender.number lastMsgId [(name, item)] = .ok (items, sentIds)) :
    ∃ fields messageId later, item.fields? = some fields ∧
      sender.messageIdOf lastMsgId fields = .ok (messageId, later) ∧
      items = [(name, (withId fields messageId).value)] ∧ sentIds = [(name, messageId)] := by
  rw [number] at hnumber
  split at hnumber
  · cases hnumber
  · rename_i fields hfields
    obtain ⟨⟨messageId, later⟩, hid, hnumber⟩ := bind_eq_ok_iff.mp hnumber
    obtain ⟨⟨others, ids⟩, hrest, hnumber⟩ := bind_eq_ok_iff.mp hnumber
    cases hrest
    cases hnumber
    exact ⟨fields, messageId, later, hfields, hid, rfl, rfl⟩

/-- One message is written whole under the ID that is returned; its bytes have its name
unless it borrows the type of another one. -/
theorem Sender.writesAll_singleton_iff {sender : Sender} {lastMsgId : ℤ} {name : String}
    {item : Value} {items : List (String × Value)} {bytes : List UInt8}
    {sentIds : List (String × ℤ)}
    (hnumber : sender.number lastMsgId [(name, item)] = .ok (items, sentIds))
    (hserialize : serialize (.ofList items) = .ok bytes) :
    WritesAll items bytes sentIds ↔ (name = "CUSTOM_MESSAGE" → ¬ BorrowsType item) := by
  obtain ⟨fields, messageId, later, hfields, hid, rfl, rfl⟩ := number_singleton hnumber
  obtain ⟨sent⟩ := exists_serialized (show Dict.entries (.ofList _) = [_] from rfl) hserialize
  have hborrows : BorrowsType (withId fields messageId).value ↔ BorrowsType item := by
    unfold BorrowsType
    rw [item_withId hfields (by decide), item_withId hfields (by decide)]
  have hmessageId : (sent.header.messageId : ℤ) = messageId := messageId_eq hid sent.identified
  rw [← hborrows, ← sent.messageName_eq_iff, WritesAll, sent.readFrames_eq_ok_iff, hmessageId]
  constructor
  · rintro ⟨-, found, hfound, hread⟩
    cases hread
    exact hfound
  · intro hname
    refine ⟨⟨[bytes], ?_, (List.append_nil _).symm⟩, name, hname, rfl⟩
    rw [List.mapM_cons, hserialize]
    rfl

/-- What is written is what is returned just when the mapping has one message, whose
header says its name. -/
theorem Sender.sendMessage_writesAll_iff (sender : Sender) (msgDict : Fields)
    (items : List (String × Value)) (bytes : List UInt8) (sentIds : List (String × ℤ))
    (hsend : sender.sendMessage msgDict = .ok (items, bytes, sentIds)) :
    WritesAll items bytes sentIds ↔ OneMessage msgDict := by
  obtain ⟨hnumber, hserialize⟩ := exists_of_sendMessage hsend
  obtain ⟨hnames, hids⟩ := names_number hnumber
  constructor
  · intro hwrites
    have hnodup : (items.map Prod.fst).Nodup := by
      rw [hnames]
      exact msgDict.nodup
    have hentries : (Dict.ofList items).entries = items := Dict.entries_update hnodup
    cases items with
    | nil => cases hserialize
    | cons first rest =>
      obtain ⟨sent⟩ := exists_serialized hentries hserialize
      obtain ⟨found, -, hread⟩ := sent.readFrames_eq_ok_iff.mp hwrites.2
      have hone : msgDict.entries.length = 1 := by
        rw [← List.length_map Prod.fst, ← hids, hread]
        rfl
      obtain ⟨⟨name, item⟩, hentry⟩ := List.length_eq_one_iff.mp hone
      rw [hentry] at hnumber
      exact ⟨name, item, hentry, (writesAll_singleton_iff hnumber hserialize).mp hwrites⟩
  · rintro ⟨name, item, hentry, hname⟩
    rw [hentry] at hnumber
    exact (writesAll_singleton_iff hnumber hserialize).mpr hname

/-- A client that has sent nothing yet. -/
def Sender.fresh : Sender where
  lastMsgId := 0
  reservedMessageId := none
  sendingRegisteredRequest := false
  isWaiting := fun _ => false

/-- A custom message of a vendor without registered messages, under an ID of its own. -/
theorem sendMessage_custom :
    WritesAll
        [("CUSTOM_MESSAGE",
          .dict [("VendorID", .int 25), ("Subtype", .int 1), ("ID", .int 9)])]
        [7, 255, 0, 0, 0, 15, 0, 0, 0, 9, 0, 0, 0, 25, 1] [("CUSTOM_MESSAGE", 9)] ↔
      OneMessage
        (.ofList
          [("CUSTOM_MESSAGE",
            .dict [("VendorID", .int 25), ("Subtype", .int 1), ("ID", .int 9)])]) :=
  Sender.sendMessage_writesAll_iff Sender.fresh _ _ _ _ rfl

/-- Of two messages that delete what the reader has, the second one is not written. -/
theorem sendMessage_two_messages :
    Sender.fresh.sendMessage
        (.ofList
          [("DELETE_ACCESSSPEC", .dict [("AccessSpecID", .int 0)]),
            ("DELETE_ROSPEC", .dict [("ROSpecID", .int 0)])]) =
      .ok
        ([("DELETE_ACCESSSPEC", .dict [("AccessSpecID", .int 0), ("ID", .int 1)]),
            ("DELETE_ROSPEC", .dict [("ROSpecID", .int 0), ("ID", .int 2)])],
          [4, 41, 0, 0, 0, 14, 0, 0, 0, 1, 0, 0, 0, 0],
          [("DELETE_ACCESSSPEC", 1), ("DELETE_ROSPEC", 2)]) ∧
      ¬ WritesAll
        [("DELETE_ACCESSSPEC", .dict [("AccessSpecID", .int 0), ("ID", .int 1)]),
          ("DELETE_ROSPEC", .dict [("ROSpecID", .int 0), ("ID", .int 2)])]
        [4, 41, 0, 0, 0, 14, 0, 0, 0, 1, 0, 0, 0, 0]
        [("DELETE_ACCESSSPEC", 1), ("DELETE_ROSPEC", 2)] := by
  refine ⟨rfl, ?_⟩
  rintro ⟨-, hread⟩
  have hfirst : readFrames 15 [4, 41, 0, 0, 0, 14, 0, 0, 0, 1, 0, 0, 0, 0] =
      .ok [("DELETE_ACCESSSPEC", 1)] := by rfl
  rw [show List.length _ + 1 = 15 from rfl, hfirst] at hread
  cases hread

end Sllurp.Codec
