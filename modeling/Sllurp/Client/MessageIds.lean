/-
# The IDs of messages

A client numbers its messages with a counter: the next ID is one more than the last one,
and 1 after the largest that a header holds. An ID that comes with a message becomes the
last one before the message is serialized, whatever its value is. So the IDs of a run are
in order as long as every ID that numbering takes over fits the header. An acknowledgement
answers under the ID of the reader, which is not the client's to count.
-/

import Sllurp.Client.Rollback
import Sllurp.Foundations.Run

namespace Sllurp.Client

open Sllurp.Foundations Sllurp.Foundations.Outcome Sllurp.Protocol Sllurp.Config Sllurp.Runtime
  Sllurp.Codec

variable {κ : Type}

/-! ## The order of IDs -/

/-- The ID after another one: 1 follows the largest. -/
def IsSuccessor (last next : ℤ) : Prop :=
  if last = Session.llrpMsgIdMax then next = 1 else next = last + 1

/-- An ID that the client generates is in the range and follows the last one. -/
def UsedId.Follows (last : ℤ) : UsedId → Prop
  | .generated messageId =>
    1 ≤ messageId ∧ messageId ≤ Session.llrpMsgIdMax ∧ IsSuccessor last messageId
  | .explicit _ => True

def UsedId.messageId : UsedId → ℤ
  | .generated messageId => messageId
  | .explicit messageId => messageId

/-- The last of the IDs that were used after a first one. -/
def lastUsed (first : ℤ) : List UsedId → ℤ
  | [] => first
  | used :: rest => lastUsed used.messageId rest

/-- Each of the IDs follows the one before it. -/
def Sequenced (first : ℤ) : List UsedId → Prop
  | [] => True
  | used :: rest => used.Follows first ∧ Sequenced used.messageId rest

theorem lastUsed_concat (first : ℤ) (earlier : List UsedId) (used : UsedId) :
    lastUsed first (earlier ++ [used]) = used.messageId := by
  induction earlier generalizing first with
  | nil => rfl
  | cons head rest ih => exact ih head.messageId

theorem sequenced_concat (first : ℤ) (earlier : List UsedId) (used : UsedId) :
    Sequenced first (earlier ++ [used]) ↔
      Sequenced first earlier ∧ used.Follows (lastUsed first earlier) := by
  induction earlier generalizing first with
  | nil => simp [Sequenced, lastUsed]
  | cons head rest ih =>
    change _ ∧ Sequenced head.messageId (rest ++ [used]) ↔ (_ ∧ _) ∧ _
    rw [ih head.messageId, and_assoc]
    rfl

/-! ## Counting -/

/-- The IDs so far are in order, and the counter is at the last one. -/
structure Counting (client : LLRPClient κ) : Prop where
  sequenced : Sequenced 0 client.usedIds
  last : client.lastMsgId = lastUsed 0 client.usedIds
  nonneg : 0 ≤ client.lastMsgId
  le_max : client.lastMsgId ≤ Session.llrpMsgIdMax

/-- An ID that a message header holds. -/
def FitsHeader (value : Value) : Prop :=
  ∃ messageId, value.index = .ok messageId ∧ 0 ≤ messageId ∧ messageId ≤ Session.llrpMsgIdMax

/-- The explicit IDs that numbering gets to. -/
def explicitIds : List (String × Value) → List Value
  | [] => []
  | (_, item) :: rest =>
    match item.fields? with
    | none => []
    | some fields => (fields.get? "ID").toList ++ explicitIds rest

/-- The ID after one that fits the header follows it. -/
theorem follows_nextMessageId {last : ℤ} (hnonneg : 0 ≤ last)
    (hmax : last ≤ Session.llrpMsgIdMax) :
    (UsedId.generated (Sender.nextMessageId last)).Follows last := by
  unfold Sender.nextMessageId
  by_cases hless : last < Session.llrpMsgIdMax
  · rw [if_pos hless]
    refine ⟨by omega, hless, ?_⟩
    unfold IsSuccessor
    rw [if_neg (ne_of_lt hless)]
  · rw [if_neg hless]
    refine ⟨le_rfl, by decide, ?_⟩
    unfold IsSuccessor
    rw [if_pos (le_antisymm hmax (not_lt.mp hless))]

/-- A client that is counting goes on with the next ID. -/
theorem Counting.next {client : LLRPClient κ} (hcounting : Counting client) :
    Counting (client.useId client.nextId .generated) := by
  have hfollows := follows_nextMessageId hcounting.nonneg hcounting.le_max
  constructor
  · apply (sequenced_concat _ _ _).mpr
    rw [← hcounting.last]
    exact ⟨hcounting.sequenced, hfollows⟩
  · exact (lastUsed_concat 0 client.usedIds (.generated client.nextId)).symm
  · exact zero_le_one.trans hfollows.1
  · exact hfollows.2.1

/-- So it does with an explicit ID that fits the header. -/
theorem Counting.explicit {client : LLRPClient κ} (hcounting : Counting client) {messageId : ℤ}
    (hnonneg : 0 ≤ messageId) (hmax : messageId ≤ Session.llrpMsgIdMax) :
    Counting (client.useId messageId .explicit) where
  sequenced := (sequenced_concat _ _ _).mpr ⟨hcounting.sequenced, trivial⟩
  last := (lastUsed_concat 0 client.usedIds (.explicit messageId)).symm
  nonneg := hnonneg
  le_max := hmax

/-- What counting depends on. -/
theorem Counting.of_eq {before after : LLRPClient κ} (hcounting : Counting before)
    (hlast : after.lastMsgId = before.lastMsgId) (hused : after.usedIds = before.usedIds) :
    Counting after where
  sequenced := hused ▸ hcounting.sequenced
  last := by rw [hlast, hused, hcounting.last]
  nonneg := hlast ▸ hcounting.nonneg
  le_max := hlast ▸ hcounting.le_max

/-- A client that has not numbered a message. -/
structure LLRPClient.Fresh (client : LLRPClient κ) : Prop where
  last : client.lastMsgId = 0
  used : client.usedIds = []

theorem LLRPClient.Fresh.counting {client : LLRPClient κ} (hfresh : client.Fresh) :
    Counting client where
  sequenced := by
    rw [hfresh.used]
    exact trivial
  last := by rw [hfresh.last, hfresh.used, lastUsed]
  nonneg := hfresh.last.ge
  le_max := by
    rw [hfresh.last]
    decide

/-- The frame of a program that counts. -/
abbrev counting : Frame (LLRPClient κ) := Frame.invariant Counting

theorem counting_modify {update : LLRPClient κ → LLRPClient κ}
    (hlast : ∀ client, (update client).lastMsgId = client.lastMsgId)
    (hused : ∀ client, (update client).usedIds = client.usedIds) :
    Program.Within counting (.modify update : ClientM κ Unit) :=
  .modify fun client hcounting => hcounting.of_eq (hlast client) (hused client)

theorem counting_nextMessageId : Program.Within counting (nextMessageId : ClientM κ ℤ) :=
  .get_bind fun _ hcounting => hcounting.next

theorem toInt_of_index {value : Value} {number : ℤ} (hindex : value.index = .ok number) :
    value.toInt = .ok number := by
  cases value with
  | bool flag => exact hindex
  | int other => exact hindex
  | _ => cases hindex

theorem counting_messageIdOf {item : Codec.Fields}
    (hfits : ∀ value ∈ item.get? "ID", FitsHeader value) :
    Program.Within counting (messageIdOf item : ClientM κ ℤ) := by
  apply Program.Within.bind .get
  intro client
  split
  · next existingId hid =>
    obtain ⟨messageId, hindex, hnonneg, hmax⟩ := hfits existingId hid
    rw [toInt_of_index hindex]
    intro before hcounting
    exact hcounting.explicit hnonneg hmax
  · split
    · exact .pure _
    · exact counting_nextMessageId

/-- Numbering counts: the induction is on the messages. -/
theorem counting_number {entries : List (String × Value)}
    (hfits : ∀ value ∈ explicitIds entries, FitsHeader value) :
    Program.Within counting (number entries : ClientM κ _) := by
  induction entries with
  | nil => exact .pure _
  | cons entry entries ih =>
    obtain ⟨name, item⟩ := entry
    rw [number]
    rw [explicitIds] at hfits
    cases hfields : item.fields? with
    | none => exact .raise _
    | some fields =>
      rw [hfields] at hfits
      simp only [List.mem_append, Option.mem_toList] at hfits
      apply Program.Within.bind (counting_messageIdOf fun value hmem => hfits value (.inl hmem))
      intro messageId
      exact .bind (ih fun value hmem => hfits value (.inr hmem)) fun _ => .pure _

theorem counting_transportTxWrite (write : Option Raised) (msgbytes : List UInt8) :
    Program.Within counting (transportTxWrite write msgbytes : ClientM κ Unit) :=
  .bind (within_callOutside _) fun _ => counting_modify (fun _ => rfl) fun _ => rfl

theorem counting_sendMessage (write : Option Raised) {msgDict : Codec.Fields}
    (hfits : ∀ value ∈ explicitIds msgDict.entries, FitsHeader value) :
    Program.Within counting (sendMessage write msgDict : ClientM κ _) := by
  apply Program.Within.bind .get
  intro client
  simp only
  split
  · exact .raise _
  · have hprepare : Program.Within counting (prepareMessage msgDict : ClientM κ _) := by
      apply Program.Within.bind (counting_number hfits)
      intro numbered
      apply Program.Within.bind (.ofExcept _)
      intro msgbytes
      exact .ite (fun _ => .raise _) fun _ => .pure _
    apply Program.Within.bind hprepare
    intro prepared
    exact .bind (counting_transportTxWrite _ _) fun _ => .pure _

theorem counting_setState (callback : Option Raised) (newState : ReaderState) :
    Program.Within counting (setState callback newState : ClientM κ Unit) :=
  .bind (counting_modify (fun _ => rfl) fun _ => rfl) fun _ => within_callOutside _

theorem counting_setStateIf (callback : Option Raised) (newState : Option ReaderState) :
    Program.Within counting (setStateIf callback newState : ClientM κ Unit) := by
  cases newState with
  | none => exact .pure ()
  | some newState => exact counting_setState callback newState

theorem counting_register (responseName : String) (messageId : ℤ) (onCompletion : Option κ) :
    Program.Within counting (register responseName messageId onCompletion) := by
  apply Program.Within.bind .get
  intro client
  exact .bind (.ofExcept _) fun _ => counting_modify (fun _ => rfl) fun _ => rfl

theorem counting_sendKeepaliveAck (write : Option Raised) (messageId : Option ℤ) :
    Program.Within counting (sendKeepaliveAck write messageId : ClientM κ _) := by
  cases messageId with
  | none => exact counting_sendMessage write fun value hmem => nomatch hmem
  | some messageId =>
    apply Program.Within.ite
    · intro _
      apply Program.Within.bind (.ofExcept _)
      intro msgbytes
      exact (counting_transportTxWrite _ _).bind fun _ => .pure _
    · intro _
      exact .raise _

variable [DecidableEq κ]

theorem counting_rollback (leaving : Option Raised) (responseName : String) (messageId : ℤ)
    (onCompletion : Option κ) (newState : Option ReaderState) (previousState : ReaderState)
    (raised : Raised) :
    Program.Within counting
      (rollback leaving responseName messageId onCompletion newState previousState raised) := by
  cases raised with
  | baseException name => exact .raise _
  | exception raised =>
    apply Program.Within.bind
    · exact counting_modify (fun _ => rfl) fun _ => rfl
    · intro _
      apply Program.Within.bind .get
      intro client
      apply Program.Within.ite
      · intro _
        exact (counting_setState leaving previousState).bind fun _ => .raise _
      · intro _
        exact .raise _

theorem counting_sendRequest (outside : Outside) {msgDict : Codec.Fields}
    (hfits : ∀ value ∈ explicitIds msgDict.entries, FitsHeader value) (responseName : String)
    (onCompletion : Option κ) (newState : Option ReaderState) :
    Program.Within counting
      (sendRequest outside msgDict responseName onCompletion newState) := by
  apply Program.Within.bind .get
  intro client
  apply Program.Within.ite (fun _ => .raise _)
  intro _
  apply Program.Within.bind counting_nextMessageId
  intro messageId
  have hdefer : Program.Within counting
      (.modify (·.defer responseName onCompletion) : ClientM κ Unit) :=
    counting_modify (fun _ => rfl) fun _ => rfl
  have hreserve : Program.Within counting (.modify (·.reserve messageId) : ClientM κ Unit) :=
    counting_modify (fun _ => rfl) fun _ => rfl
  have hsend := (counting_sendMessage outside.write hfits).handle
    (counting_rollback outside.leaving responseName messageId onCompletion newState client.state)
  apply hdefer.bind
  intro _
  apply (counting_register _ _ _).bind
  intro _
  apply (counting_setStateIf _ _).bind
  intro _
  apply hreserve.bind
  intro _
  have hrelease (client : LLRPClient κ) : counting.Rel client client.release :=
    fun hcounting => hcounting.of_eq rfl rfl
  exact (hsend.ensure hrelease).bind fun _ => .pure _

/-! ## Runs -/

/-- What a client is asked to do with messages, with what the code outside raises; and
whatever else the client does in between, which is not numbering. -/
inductive Operation (κ : Type)
  | sendRequest (outside : Outside) (msgDict : Codec.Fields) (responseName : String)
      (onCompletion : Option κ) (newState : Option ReaderState)
  | sendMessage (write : Option Raised) (msgDict : Codec.Fields)
  | sendKeepaliveAck (write : Option Raised) (messageId : Option ℤ)
  | elsewhere (other : LLRPClient κ)

/-- A client after everything but the counter and the transport has changed. -/
def LLRPClient.changeTo (client other : LLRPClient κ) : LLRPClient κ :=
  { other with
    lastMsgId := client.lastMsgId
    reservedMessageId := client.reservedMessageId
    sendingRegisteredRequest := client.sendingRegisteredRequest
    usedIds := client.usedIds
    written := client.written }

namespace Operation

def program : Operation κ → ClientM κ Unit
  | sendRequest outside msgDict responseName onCompletion newState => do
    let _ ← Client.sendRequest outside msgDict responseName onCompletion newState
  | sendMessage write msgDict => do
    let _ ← Client.sendMessage write msgDict
  | sendKeepaliveAck write messageId => do
    let _ ← Client.sendKeepaliveAck write messageId
  | elsewhere other => .modify (·.changeTo other)

/-- The messages that an operation numbers: none if it is refused, or if the callback
raises on the state of the request. -/
def numbered (client : LLRPClient κ) : Operation κ → List (String × Value)
  | sendRequest outside msgDict responseName _ newState =>
    if client.isWaiting responseName || (newState.isSome && outside.entering.isSome) then []
    else msgDict.entries
  | sendMessage _ msgDict =>
    let pending := fun name =>
      !client.sendingRegisteredRequest && client.isWaiting (Sender.responseName name)
    if (msgDict.keys.find? pending).isSome then [] else msgDict.entries
  | sendKeepaliveAck _ _ => []
  | elsewhere _ => []

/-- The ID that an acknowledgement answers under. -/
def acknowledged : Operation κ → List Value
  | sendKeepaliveAck _ (some messageId) => [.int messageId]
  | _ => []

/-- Every explicit ID that numbering takes over fits the header. -/
def IdsFit (client : LLRPClient κ) (operation : Operation κ) : Prop :=
  ∀ value ∈ explicitIds (operation.numbered client), FitsHeader value

/-- The operation raises, and an explicit ID that it gets to does not fit the header. -/
def RaisesForId (client : LLRPClient κ) (operation : Operation κ) : Prop :=
  operation.program.raises client = true ∧
    ∃ value ∈ explicitIds (operation.numbered client) ++ operation.acknowledged, ¬ FitsHeader value

end Operation

def step (client : LLRPClient κ) (operation : Operation κ) : LLRPClient κ :=
  operation.program.final client

/-- A request that numbers nothing changes nothing, or counts its own ID only. -/
theorem counting_sendRequest_early {client : LLRPClient κ} (hcounting : Counting client)
    {outside : Outside} {responseName : String} {newState : Option ReaderState}
    (hearly :
      (client.isWaiting responseName || (newState.isSome && outside.entering.isSome)) = true)
    (msgDict : Codec.Fields) (onCompletion : Option κ) :
    Counting (sendRequest outside msgDict responseName onCompletion newState client).2 := by
  cases hfree : client.isWaiting responseName with
  | true =>
    unfold sendRequest
    rw [Program.run_get_bind, Program.run_ite, if_pos hfree]
    exact hcounting
  | false =>
    rw [hfree, Bool.false_or, Bool.and_eq_true] at hearly
    obtain ⟨state, rfl⟩ := Option.isSome_iff_exists.mp hearly.1
    obtain ⟨raised, hentering⟩ := Option.isSome_iff_exists.mp hearly.2
    rw [run_sendRequest hfree, hentering, Program.run_bind_error (run_setStateIf_raises raised)]
    exact hcounting.next.of_eq rfl rfl

/-- An operation whose explicit IDs fit the header counts. -/
theorem counting_step {client : LLRPClient κ} {operation : Operation κ}
    (hcounting : Counting client) (hfits : operation.IdsFit client) :
    Counting (step client operation) := by
  unfold Operation.IdsFit at hfits
  unfold step Program.final
  cases operation with
  | sendRequest outside msgDict responseName onCompletion newState =>
    rw [Operation.program, Program.snd_bind_pure]
    rw [Operation.numbered] at hfits
    split at hfits
    · next hearly => exact counting_sendRequest_early hcounting hearly msgDict onCompletion
    · exact counting_sendRequest outside hfits _ _ _ client hcounting
  | sendMessage write msgDict =>
    rw [Operation.program, Program.snd_bind_pure]
    rw [Operation.numbered] at hfits
    split at hfits
    · next hpending =>
      obtain ⟨name, hname⟩ := Option.isSome_iff_exists.mp hpending
      unfold Client.sendMessage
      simp only [Program.run_get_bind, hname]
      exact hcounting
    · exact counting_sendMessage write hfits client hcounting
  | sendKeepaliveAck write messageId =>
    rw [Operation.program, Program.snd_bind_pure]
    exact counting_sendKeepaliveAck write messageId client hcounting
  | elsewhere other => exact hcounting.of_eq rfl rfl

/-- An operation that raises for an ID, while the IDs for numbering fit, is an acknowledgement,
and changes nothing. -/
theorem step_of_raisesForId {client : LLRPClient κ} {operation : Operation κ}
    (hfits : operation.IdsFit client) (hraises : operation.RaisesForId client) :
    step client operation = client := by
  obtain ⟨-, value, hmem, hnot⟩ := hraises
  have hacknowledged : value ∈ operation.acknowledged :=
    (List.mem_append.mp hmem).resolve_left fun hmem => hnot (hfits value hmem)
  cases operation with
  | sendKeepaliveAck write messageId =>
    cases messageId with
    | none => cases hacknowledged
    | some messageId =>
      obtain rfl := List.mem_singleton.mp hacknowledged
      have hrange : ¬ (0 ≤ messageId ∧ messageId ≤ Session.llrpMsgIdMax) :=
        fun hrange => hnot ⟨messageId, rfl, hrange⟩
      unfold step Operation.program sendKeepaliveAck
      simp only [if_neg hrange]
      rfl
  | _ => cases hacknowledged

/-- In a run from a client that has not numbered anything, where every explicit ID that
numbering takes over fits the header, the IDs are in order, and an operation that raises for
an ID leaves the next one as it was. -/
theorem run_sequenced {start : LLRPClient κ} (hfresh : start.Fresh)
    {operations : List (Operation κ)}
    (hrun : Guarded step (fun client operation => operation.IdsFit client) start operations) :
    Sequenced 0 (run step start operations).usedIds ∧
      ∀ earlier operation later, operations = earlier ++ operation :: later →
        operation.RaisesForId (run step start earlier) →
        (run step start (earlier ++ [operation])).nextId = (run step start earlier).nextId := by
  constructor
  · have hcounting := hrun.invariant Counting (fun _ _ => counting_step) hfresh.counting
    exact hcounting.sequenced
  · rintro earlier operation later rfl hraises
    have hfits := (guarded_append.mp hrun).2.1
    rw [run_append]
    exact congrArg LLRPClient.nextId (step_of_raisesForId hfits hraises)

theorem LLRPClient.fresh_fresh : LLRPClient.fresh.Fresh := ⟨rfl, rfl⟩

/-- A message with an ID of its own. -/
def enableRospecUnder (messageId : ℤ) : Codec.Fields :=
  .ofList [("ENABLE_ROSPEC", .dict [("ROSpecID", .int 1), ("ID", .int messageId)])]

/-- After the largest ID comes a request under 1, and an acknowledgement that is refused. -/
def wrappingRun : List (Operation String) :=
  [.sendMessage none (enableRospecUnder 4294967295),
    .sendRequest ⟨none, some (.exception (.osError "Broken pipe")), none⟩ enableRospec
      "ENABLE_ROSPEC_RESPONSE" (some "start") (some .sentEnableRospec),
    .sendKeepaliveAck none (some (-3))]

theorem wrappingRun_sequenced :
    Sequenced 0 [.explicit 4294967295, .generated 1] ∧
      (run step LLRPClient.fresh wrappingRun).nextId = 2 := by
  have hrun : Guarded step (fun client operation => operation.IdsFit client) LLRPClient.fresh
      wrappingRun := by
    refine ⟨?_, ?_, ?_, trivial⟩
    · intro value hmem
      obtain rfl := List.mem_singleton.mp hmem
      exact ⟨4294967295, rfl, by decide, by decide⟩
    · intro value hmem
      cases hmem
    · intro value hmem
      cases hmem
  obtain ⟨hsequenced, hrefused⟩ := run_sequenced LLRPClient.fresh_fresh hrun
  refine ⟨hsequenced, hrefused (wrappingRun.take 2) (.sendKeepaliveAck none (some (-3))) [] rfl ?_⟩
  refine ⟨rfl, .int (-3), List.mem_singleton_self _, ?_⟩
  rintro ⟨messageId, ⟨rfl⟩, hnonneg, -⟩
  exact absurd hnonneg (by decide)

/-- A message under a negative ID is not serialized, and the next one goes out under another
negative ID. -/
theorem enableRospecUnder_negative :
    (Operation.sendMessage none (enableRospecUnder (-5))).RaisesForId LLRPClient.fresh ∧
      LLRPClient.fresh.nextId = 1 ∧
      (step LLRPClient.fresh (.sendMessage none (enableRospecUnder (-5)))).nextId = -4 ∧
      ¬ Sequenced 0 (run step LLRPClient.fresh
        [.sendMessage none (enableRospecUnder (-5)), .sendMessage none enableRospec]).usedIds := by
  refine ⟨⟨rfl, .int (-5), List.mem_singleton_self _, ?_⟩, rfl, rfl, ?_⟩
  · rintro ⟨messageId, ⟨rfl⟩, hnonneg, -⟩
    exact absurd hnonneg (by decide)
  · intro hsequenced
    have hfollows : (UsedId.generated (-4)).Follows (-5) := hsequenced.2.1
    exact absurd hfollows.1 (by decide)

end Sllurp.Client
