/-
# What a failed request leaves behind

A request that raises is taken back when an exception comes from numbering, serializing
or writing its message. An exception of the callback on the new state comes before
anything is prepared for it, and one that is no `Exception` passes the handler. What is
taken back is restored, apart from the memory that the key of the request was stale.
-/

import Sllurp.Client.Request

namespace Sllurp.Client

open Sllurp.Foundations Sllurp.Foundations.Outcome Sllurp.Protocol Sllurp.Config Sllurp.Runtime
  Sllurp.Codec

variable {κ : Type}

/-! ## What sending changes -/

/-- A client without what numbering and writing change. -/
def LLRPClient.settled (client : LLRPClient κ) : LLRPClient κ :=
  { client with lastMsgId := 0, usedIds := [], written := [] }

/-- Sending changes only the last ID and what the observer sees. -/
abbrev sending : Frame (LLRPClient κ) := Frame.fixing LLRPClient.settled

theorem within_callOutside {frame : Frame (LLRPClient κ)} (outcome : Option Raised) :
    Program.Within frame (callOutside outcome : ClientM κ Unit) := by
  cases outcome with
  | none => exact .pure ()
  | some raised => exact .raise raised

theorem within_nextMessageId : Program.Within sending (nextMessageId : ClientM κ ℤ) :=
  .get_bind fun _ => rfl

theorem within_messageIdOf (item : Codec.Fields) :
    Program.Within sending (messageIdOf item : ClientM κ ℤ) := by
  apply Program.Within.bind .get
  intro client
  split
  · apply Program.Within.bind (.ofExcept _)
    intro messageId
    exact .bind (.modify fun _ => rfl) fun _ => .pure _
  · split
    · exact .pure _
    · exact within_nextMessageId

/-- Numbering stays in the frame: the induction is on the messages. -/
theorem within_number (entries : List (String × Value)) :
    Program.Within sending (number entries : ClientM κ _) := by
  induction entries with
  | nil => exact .pure _
  | cons entry entries ih =>
    obtain ⟨name, item⟩ := entry
    rw [number]
    split
    · exact .raise _
    · apply Program.Within.bind (within_messageIdOf _)
      intro messageId
      exact .bind ih fun _ => .pure _

theorem within_prepareMessage (msgDict : Codec.Fields) :
    Program.Within sending (prepareMessage msgDict : ClientM κ _) := by
  apply Program.Within.bind (within_number _)
  intro numbered
  apply Program.Within.bind (.ofExcept _)
  intro msgbytes
  exact .ite (fun _ => .raise _) fun _ => .pure _

theorem within_sendMessage (write : Option Raised) (msgDict : Codec.Fields) :
    Program.Within sending (sendMessage write msgDict : ClientM κ _) := by
  apply Program.Within.bind .get
  intro client
  simp only
  split
  · exact .raise _
  · apply Program.Within.bind (within_prepareMessage _)
    intro prepared
    have hwrite : Program.Within sending
        (transportTxWrite write prepared.1 : ClientM κ Unit) :=
      .bind (within_callOutside _) fun _ => .modify fun _ => rfl
    exact hwrite.bind fun _ => .pure _

/-! ## What is returned -/

/-- The ID of a message is that of the model without a client. -/
theorem run_messageIdOf {client : LLRPClient κ} {sender : Sender}
    (hreserved : sender.reservedMessageId = client.reservedMessageId) (item : Codec.Fields) :
    (messageIdOf item client).1 =
        ((sender.messageIdOf client.lastMsgId item).map Prod.fst).mapError .exception ∧
      ∀ messageId later, sender.messageIdOf client.lastMsgId item = .ok (messageId, later) →
        (messageIdOf item client).2.lastMsgId = later := by
  unfold messageIdOf Sender.messageIdOf
  simp only [Program.run_get_bind]
  cases item.get? "ID" with
  | some existingId =>
    simp only
    cases existingId.toInt with
    | error raised => exact ⟨rfl, fun _ _ heq => by cases heq⟩
    | ok number =>
      refine ⟨rfl, ?_⟩
      rintro _ _ ⟨rfl⟩
      rfl
  | none =>
    simp only [hreserved]
    cases client.reservedMessageId with
    | some messageId =>
      refine ⟨rfl, ?_⟩
      rintro _ _ ⟨rfl⟩
      rfl
    | none =>
      refine ⟨rfl, ?_⟩
      rintro _ _ ⟨rfl⟩
      rfl

/-- So is numbering. -/
theorem fst_number {client : LLRPClient κ} {sender : Sender}
    (hreserved : sender.reservedMessageId = client.reservedMessageId)
    (entries : List (String × Value)) :
    (number entries client).1 = (sender.number client.lastMsgId entries).mapError .exception := by
  induction entries generalizing client with
  | nil => rfl
  | cons entry entries ih =>
    obtain ⟨name, item⟩ := entry
    rw [number, Sender.number]
    cases item.fields? with
    | none => rfl
    | some fields =>
      simp only
      obtain ⟨hfst, hlater⟩ := run_messageIdOf hreserved fields
      have hframe := within_messageIdOf fields client
      rw [Program.run_bind]
      rcases hrun : messageIdOf fields client with ⟨outcome, after⟩
      rw [hrun] at hfst hlater hframe
      cases hid : sender.messageIdOf client.lastMsgId fields with
      | error raised =>
        rw [hid] at hfst
        simp only at hfst
        subst hfst
        rfl
      | ok found =>
        obtain ⟨messageId, later⟩ := found
        rw [hid] at hfst
        simp only at hfst
        subst hfst
        have hsame : sender.reservedMessageId = after.reservedMessageId :=
          hreserved.trans (congrArg LLRPClient.reservedMessageId hframe).symm
        have hrest := ih hsame
        have hlast : after.lastMsgId = later := hlater messageId later hid
        rw [hlast] at hrest
        simp only [Except.map, mapError_ok, ok_bind]
        rw [Program.run_bind]
        rcases hnumber : number entries after with ⟨result, last⟩
        rw [hnumber] at hrest
        simp only at hrest
        subst hrest
        cases sender.number later entries with
        | error raised => rfl
        | ok numbered => rfl

theorem fst_prepareMessage {client : LLRPClient κ} {sender : Sender}
    (hreserved : sender.reservedMessageId = client.reservedMessageId)
    (hlast : sender.lastMsgId = client.lastMsgId) (msgDict : Codec.Fields) :
    (prepareMessage msgDict client).1 =
      ((sender.prepareMessage msgDict).map Prod.snd).mapError .exception := by
  have hnumber := fst_number hreserved msgDict.entries
  unfold prepareMessage Sender.prepareMessage
  rw [Program.run_bind, hlast]
  rcases hrun : number msgDict.entries client with ⟨outcome, after⟩
  rw [hrun] at hnumber
  simp only at hnumber
  subst hnumber
  cases sender.number client.lastMsgId msgDict.entries with
  | error raised => rfl
  | ok numbered =>
    obtain ⟨items, sentIds⟩ := numbered
    simp only [mapError_ok, ok_bind, Program.run_bind, Program.run_ofExcept]
    cases serialize (.ofList items) with
    | error raised => rfl
    | ok msgbytes =>
      simp only [mapError_ok, ok_bind]
      split
      · rfl
      · rfl

/-- Sending returns and raises what the model without a client does, unless the transport
raises. -/
theorem fst_sendMessage {client : LLRPClient κ} {sender : Sender}
    (hreserved : sender.reservedMessageId = client.reservedMessageId)
    (hlast : sender.lastMsgId = client.lastMsgId)
    (hsending : sender.sendingRegisteredRequest = client.sendingRegisteredRequest)
    (hwaiting : client.sendingRegisteredRequest = false → sender.isWaiting = client.isWaiting)
    (write : Option Raised) (msgDict : Codec.Fields) :
    (sendMessage write msgDict client).1 =
      match sender.sendMessage msgDict, write with
      | .error raised, _ => .error (.exception raised)
      | .ok (_, _, sentIds), none => .ok sentIds
      | .ok _, some raised => .error raised := by
  have hprepare := fst_prepareMessage hreserved hlast msgDict
  have hpending : (fun name => !client.sendingRegisteredRequest &&
      client.isWaiting (Sender.responseName name)) =
      fun name => !client.sendingRegisteredRequest &&
        sender.isWaiting (Sender.responseName name) := by
    cases hflag : client.sendingRegisteredRequest with
    | true => rfl
    | false => rw [hwaiting hflag]
  unfold sendMessage Sender.sendMessage
  simp only [Program.run_get_bind, hsending, hpending]
  cases msgDict.keys.find? fun name =>
      !client.sendingRegisteredRequest && sender.isWaiting (Sender.responseName name) with
  | some name => rfl
  | none =>
    simp only
    rw [Program.run_bind]
    rcases hrun : prepareMessage msgDict client with ⟨outcome, after⟩
    rw [hrun] at hprepare
    simp only at hprepare
    subst hprepare
    cases sender.prepareMessage msgDict with
    | error raised => rfl
    | ok prepared =>
      cases write with
      | none => rfl
      | some raised => rfl

/-! ## Taking back -/

section Requests

variable {client : LLRPClient κ} {responseName : String}
  {onCompletion : Option κ}

/-- The ID that a request reserves. -/
def LLRPClient.nextId (client : LLRPClient κ) : ℤ := Sender.nextMessageId client.lastMsgId

/-- A client with a registered request, before anything is written. -/
def LLRPClient.requesting (client : LLRPClient κ) (responseName : String)
    (onCompletion : Option κ) : LLRPClient κ :=
  let waiting := (client.useId client.nextId .generated).defer responseName onCompletion
  { waiting with
    pendingRequests :=
      { client.pendingRequests.forgetStale (responseName, client.nextId) with
        pending := client.pendingRequests.pending.set (responseName, client.nextId)
          (waiting.newRequest responseName client.nextId onCompletion) } }

/-- Nothing waits for the response of a request that is not refused. -/
theorem get?_of_not_waiting (hfree : client.isWaiting responseName = false) (messageId : ℤ) :
    client.pendingRequests.pending.get? (responseName, messageId) = none := by
  rw [LLRPClient.isWaiting, Bool.or_eq_false_iff] at hfree
  cases hget : client.pendingRequests.pending.get? (responseName, messageId) with
  | none => rfl
  | some request =>
    have hwaits := (PendingRequestRegistry.hasResponseType_iff _ _).mpr ⟨messageId, request, hget⟩
    rw [hfree.1] at hwaits
    cases hwaits

theorem deferreds_of_not_waiting (hfree : client.isWaiting responseName = false) :
    client.deferreds responseName = [] := by
  rw [LLRPClient.isWaiting, Bool.or_eq_false_iff] at hfree
  simpa using hfree.2

theorem run_register (hfree : client.isWaiting responseName = false) :
    register responseName client.nextId onCompletion
        ((client.useId client.nextId .generated).defer responseName onCompletion) =
      (.ok (), client.requesting responseName onCompletion) := by
  let waiting := (client.useId client.nextId .generated).defer responseName onCompletion
  have hget : waiting.pendingRequests.pending.get? (responseName, client.nextId) = none :=
    get?_of_not_waiting hfree client.nextId
  have hregister := PendingRequestRegistry.register_of_free
    (waiting.newRequest responseName client.nextId onCompletion) hget
  unfold register
  rw [Program.run_get_bind]
  change (Program.ofExcept ((waiting.pendingRequests.register
    (waiting.newRequest responseName client.nextId onCompletion)).mapError Raised.exception) >>= _)
      waiting = _
  rw [hregister]
  rfl

/-! ## While messages are sent -/

/-- A state that goes with a request, if there is one. -/
def LLRPClient.enterIf (client : LLRPClient κ) (newState : Option ReaderState) : LLRPClient κ :=
  match newState with
  | none => client
  | some newState => client.enter newState

/-- The client while the messages of the request are numbered and written. -/
def LLRPClient.sending (client : LLRPClient κ) (responseName : String) (onCompletion : Option κ)
    (newState : Option ReaderState) : LLRPClient κ :=
  ((client.requesting responseName onCompletion).enterIf newState).reserve client.nextId

theorem run_setStateIf {callback : Option Raised} {newState : Option ReaderState}
    (hquiet : newState = none ∨ callback = none) (client : LLRPClient κ) :
    setStateIf callback newState client = (.ok (), client.enterIf newState) := by
  cases newState with
  | none => rfl
  | some newState =>
    obtain rfl : callback = none := hquiet.resolve_left (Option.some_ne_none _)
    rfl

/-- The client that a callback leaves which raises on the new state. -/
theorem run_setStateIf_raises {newState : ReaderState} (raised : Raised) :
    setStateIf (some raised) (some newState) client = (.error raised, client.enter newState) := rfl

@[simp]
theorem pendingRequests_enterIf (client : LLRPClient κ) (newState : Option ReaderState) :
    (client.enterIf newState).pendingRequests = client.pendingRequests := by
  cases newState <;> rfl

@[simp]
theorem deferreds_enterIf (client : LLRPClient κ) (newState : Option ReaderState) :
    (client.enterIf newState).deferreds = client.deferreds := by
  cases newState <;> rfl

@[simp]
theorem state_enterIf (client : LLRPClient κ) (newState : Option ReaderState) :
    (client.enterIf newState).state = newState.getD client.state := by
  cases newState <;> rfl

/-- A request that is being sent is registered. -/
theorem get?_sending (client : LLRPClient κ) (newState : Option ReaderState) :
    ∃ request, (client.sending responseName onCompletion newState).pendingRequests.pending.get?
      (responseName, client.nextId) = some request := by
  unfold LLRPClient.sending LLRPClient.reserve
  simp only [pendingRequests_enterIf]
  exact ⟨_, Dict.get?_set_self _ _ _⟩

/-! ## Traces -/

/-- A timer is armed for this key. -/
def LLRPClient.Armed (client : LLRPClient κ) (key : String × ℤ) : Prop :=
  ∃ request, client.pendingRequests.pending.get? key = some request ∧ request.timer = true

/-- Nothing tells that the request was tried: not the pending requests, the callbacks or
the state, and no armed timer. Another request for the response is refused if and only if
it was before. -/
structure NoTrace (before after : LLRPClient κ) (responseName : String) : Prop where
  pending : after.pendingRequests.pending = before.pendingRequests.pending
  deferreds : after.deferreds = before.deferreds
  state : after.state = before.state
  timers : ∀ key, after.Armed key → before.Armed key
  refused : after.isWaiting responseName = before.isWaiting responseName

/-- The pending requests, the callbacks and the state decide. -/
theorem noTrace_of_eq {before after : LLRPClient κ}
    (hpending : after.pendingRequests.pending = before.pendingRequests.pending)
    (hdeferreds : after.deferreds = before.deferreds) (hstate : after.state = before.state) :
    NoTrace before after responseName where
  pending := hpending
  deferreds := hdeferreds
  state := hstate
  timers key := by
    unfold LLRPClient.Armed
    rw [hpending]
    exact id
  refused := by
    unfold LLRPClient.isWaiting PendingRequestRegistry.hasResponseType
    rw [hpending, hdeferreds]

/-- The sender of the messages of a request. -/
def LLRPClient.requestSender (client : LLRPClient κ) : Sender where
  lastMsgId := client.nextId
  reservedMessageId := some client.nextId
  sendingRegisteredRequest := true
  isWaiting := client.isWaiting

/-- The handler of a request is reached: the callback does not raise on the new state, and
what the transport raises on messages that serialize is an exception. -/
def RollsBack (outside : Outside) (client : LLRPClient κ) (msgDict : Codec.Fields)
    (newState : Option ReaderState) : Prop :=
  (newState = none ∨ outside.entering = none) ∧
    ((client.requestSender.sendMessage msgDict).isOk →
      ∀ name, outside.write ≠ some (.baseException name))

/-- What sending the messages of a request raises. -/
theorem failure_of_sendMessage {outside : Outside} {msgDict : Codec.Fields}
    {newState : Option ReaderState} {failure : Raised} {sent : LLRPClient κ}
    (hsend : sendMessage outside.write msgDict
      (client.sending responseName onCompletion newState) = (.error failure, sent)) :
    (∃ name, failure = .baseException name) ↔
      (client.requestSender.sendMessage msgDict).isOk ∧
        ∃ name, outside.write = some (.baseException name) := by
  have hlast : client.requestSender.lastMsgId =
      (client.sending responseName onCompletion newState).lastMsgId := by
    cases newState <;> rfl
  have hfst := @fst_sendMessage κ (client.sending responseName onCompletion newState)
    client.requestSender rfl hlast rfl (fun hflag => nomatch hflag) outside.write msgDict
  rw [hsend] at hfst
  cases hsent : client.requestSender.sendMessage msgDict with
  | error raised =>
    rw [hsent] at hfst
    cases hfst
    simp [Except.isOk, Except.toBool]
  | ok prepared =>
    rw [hsent] at hfst
    cases hwrite : outside.write with
    | none =>
      rw [hwrite] at hfst
      cases hfst
    | some raised =>
      rw [hwrite] at hfst
      cases hfst
      simp [Except.isOk, Except.toBool]

/-- A registered request is a trace. -/
theorem not_noTrace_of_pending (hfree : client.isWaiting responseName = false)
    {after : LLRPClient κ} {request : PendingRequest (Option κ) String ℤ}
    (hget : after.pendingRequests.pending.get? (responseName, client.nextId) = some request) :
    ¬ NoTrace client after responseName := by
  intro htrace
  rw [htrace.pending, get?_of_not_waiting hfree client.nextId] at hget
  cases hget

/-- A request that the handler does not take back stays registered. -/
theorem not_noTrace_of_settled (hfree : client.isWaiting responseName = false)
    {newState : Option ReaderState} {sent : LLRPClient κ}
    (hframe : sent.settled = (client.sending responseName onCompletion newState).settled) :
    ¬ NoTrace client sent.release responseName := by
  have hregistry := congrArg LLRPClient.pendingRequests hframe
  obtain ⟨request, hrequest⟩ := @get?_sending κ responseName onCompletion client newState
  have hsame : sent.pendingRequests =
    (client.sending responseName onCompletion newState).pendingRequests := hregistry
  apply @not_noTrace_of_pending κ client responseName hfree _ request
  change sent.pendingRequests.pending.get? _ = _
  rw [hsame, hrequest]

/-! ## Runs of a request -/

variable [DecidableEq κ]

/-- A request that is not refused is registered, sets its state and sends its message. -/
theorem run_sendRequest (hfree : client.isWaiting responseName = false) (outside : Outside)
    (msgDict : Codec.Fields) (newState : Option ReaderState) :
    sendRequest outside msgDict responseName onCompletion newState client =
      (do
        setStateIf outside.entering newState
        .modify (·.reserve client.nextId)
        let _ ← ((sendMessage outside.write msgDict).handle
          (rollback outside.leaving responseName client.nextId onCompletion newState
            client.state)).ensure LLRPClient.release
        pure client.nextId : ClientM κ ℤ) (client.requesting responseName onCompletion) := by
  unfold sendRequest
  rw [Program.run_get_bind, Program.run_ite, if_neg (by rw [hfree]; exact Bool.false_ne_true)]
  rw [Program.run_bind_ok (show nextMessageId client =
    (.ok client.nextId, client.useId client.nextId .generated) from rfl), Program.run_modify_bind,
    Program.run_bind_ok (run_register hfree)]

/-- A request that raises after its state is set raises what sending its messages does, and
ends where the handler ends. -/
theorem exists_failure (hfree : client.isWaiting responseName = false) {outside : Outside}
    {msgDict : Codec.Fields} {newState : Option ReaderState}
    (hquiet : newState = none ∨ outside.entering = none) {raised : Raised} {after : LLRPClient κ}
    (hraises : sendRequest outside msgDict responseName onCompletion newState client =
      (.error raised, after)) :
    ∃ failure sent,
      sendMessage outside.write msgDict (client.sending responseName onCompletion newState) =
        (.error failure, sent) ∧
      after = LLRPClient.release (rollback outside.leaving responseName client.nextId onCompletion
        newState client.state failure sent).2 := by
  rw [run_sendRequest hfree, Program.run_bind_ok (run_setStateIf hquiet _),
    Program.run_modify_bind, Program.run_bind, Program.run_ensure, Program.run_handle] at hraises
  rcases hsend : sendMessage outside.write msgDict
      (((client.requesting responseName onCompletion).enterIf newState).reserve client.nextId) with
    ⟨outcome, sent⟩
  rw [hsend] at hraises
  cases outcome with
  | ok sentIds => cases hraises
  | error failure =>
    refine ⟨failure, sent, hsend, ?_⟩
    simp only at hraises
    rcases hroll : rollback outside.leaving responseName client.nextId onCompletion newState
      client.state failure sent with ⟨result, last⟩
    rw [hroll] at hraises
    cases result with
    | ok sentIds => cases hraises
    | error again => exact (congrArg Prod.snd hraises).symm

/-- The handler ends in the previous state, if the new one is still set, whether or not the
callback raises. -/
theorem snd_rollback (leaving : Option Raised) (messageId : ℤ) (newState : Option ReaderState)
    (previousState : ReaderState) (raised : Exn) (client : LLRPClient κ) :
    (rollback leaving responseName messageId onCompletion newState previousState
        (.exception raised) client).2 =
      (client.withdraw responseName messageId onCompletion).enterIf
        (if newState = some client.state then some previousState else none) := by
  unfold rollback
  simp only [Program.run_modify_bind, Program.run_get_bind]
  have hstate : (client.withdraw responseName messageId onCompletion).state = client.state := rfl
  rw [hstate]
  by_cases hnew : newState = some client.state
  · rw [if_pos hnew, if_pos hnew]
    cases leaving with
    | none => rfl
    | some again => rfl
  · rw [if_neg hnew, if_neg hnew]
    rfl

/-- What is left of the client when the request is taken back from it. -/
theorem withdrawn_of_sending (hfree : client.isWaiting responseName = false)
    {newState : Option ReaderState} {sent : LLRPClient κ}
    (hframe : sent.settled = (client.sending responseName onCompletion newState).settled) :
    let last := ((sent.withdraw responseName client.nextId onCompletion).enterIf
      (if newState = some sent.state then some client.state else none)).release
    last.pendingRequests =
        client.pendingRequests.forgetStale (responseName, client.nextId) ∧
      last.deferreds = client.deferreds ∧ last.state = client.state := by
  have hregistry : sent.pendingRequests =
      (client.requesting responseName onCompletion).pendingRequests := by
    have hsame := congrArg LLRPClient.pendingRequests hframe
    exact hsame.trans (pendingRequests_enterIf _ _)
  have hcallbacks : sent.deferreds =
      (client.requesting responseName onCompletion).deferreds := by
    have hsame := congrArg LLRPClient.deferreds hframe
    exact hsame.trans (deferreds_enterIf _ _)
  have hstate : sent.state = newState.getD client.state := by
    have hsame := congrArg LLRPClient.state hframe
    exact hsame.trans (state_enterIf _ _)
  refine ⟨?_, ?_, ?_⟩
  · have hfresh : (responseName, client.nextId) ∉ client.pendingRequests.pending.keys := by
      intro hkey
      obtain ⟨request, hrequest⟩ := (Dict.mem_keys_iff _ _).mp hkey
      rw [get?_of_not_waiting hfree client.nextId] at hrequest
      cases hrequest
    change (LLRPClient.enterIf _ _).pendingRequests = _
    rw [pendingRequests_enterIf]
    change (sent.pendingRequests.cancel responseName client.nextId false).2 = _
    rw [hregistry]
    unfold PendingRequestRegistry.cancel LLRPClient.requesting
    simp only [Dict.get?_set_self]
    rw [if_neg Bool.false_ne_true, Dict.erase_set_of_not_mem _ _ _ hfresh]
    rfl
  · funext name
    change (LLRPClient.enterIf _ _).deferreds name = _
    rw [deferreds_enterIf]
    change (if name = responseName then _ else _) = _
    rw [hcallbacks]
    by_cases hname : name = responseName
    · rw [if_pos hname]
      change onCompletion.toList.foldl List.erase
        (if name = responseName then client.deferreds name ++ onCompletion.toList else _) = _
      rw [if_pos hname, hname, deferreds_of_not_waiting hfree]
      cases onCompletion with
      | none => rfl
      | some callback =>
        change [callback].erase callback = []
        exact List.erase_cons_head callback []
    · rw [if_neg hname]
      exact if_neg hname
  · change (LLRPClient.enterIf _ _).state = _
    rw [state_enterIf]
    change Option.getD _ sent.state = _
    rw [hstate]
    cases newState with
    | none => rfl
    | some newState =>
      rw [Option.getD_some, if_pos rfl]
      rfl

/-! ## When nothing is left behind -/

/-- A request that raises leaves no trace if and only if it is refused or its handler is
reached; and the registry is as before, with its memory of stale keys, if and only if in
addition the key of the request is not in that memory. -/
theorem sendRequest_noTrace_iff {outside : Outside} {msgDict : Codec.Fields}
    {newState : Option ReaderState} {raised : Raised} {after : LLRPClient κ}
    (hraises : sendRequest outside msgDict responseName onCompletion newState client =
      (.error raised, after)) :
    (NoTrace client after responseName ↔
      client.isWaiting responseName = true ∨ RollsBack outside client msgDict newState) ∧
    (NoTrace client after responseName ∧ after.pendingRequests = client.pendingRequests ↔
      client.isWaiting responseName = true ∨ RollsBack outside client msgDict newState ∧
        (responseName, client.nextId) ∉ client.pendingRequests.stale ∧
        (responseName, client.nextId) ∉ client.pendingRequests.staleSet) := by
  cases hfree : client.isWaiting responseName with
  | true =>
    unfold sendRequest at hraises
    rw [Program.run_get_bind, Program.run_ite, if_pos hfree] at hraises
    cases hraises
    have htrace : NoTrace client client responseName := noTrace_of_eq rfl rfl rfl
    exact ⟨iff_of_true htrace (.inl rfl), iff_of_true ⟨htrace, rfl⟩ (.inl rfl)⟩
  | false =>
    simp only [Bool.false_eq_true, false_or]
    by_cases hquiet : newState = none ∨ outside.entering = none
    · obtain ⟨failure, sent, hsend, rfl⟩ := exists_failure hfree hquiet hraises
      have hframe : sent.settled =
          (client.sending responseName onCompletion newState).settled := by
        have hwithin := within_sendMessage outside.write msgDict
          (client.sending responseName onCompletion newState)
        rw [hsend] at hwithin
        exact hwithin
      have hfailure := failure_of_sendMessage hsend
      cases failure with
      | baseException name =>
        -- The handler does not catch it, so the request stays registered.
        have hpasses := hfailure.mp ⟨name, rfl⟩
        have hnot : ¬ RollsBack outside client msgDict newState := by
          rintro ⟨-, hcaught⟩
          obtain ⟨other, hwrite⟩ := hpasses.2
          exact hcaught hpasses.1 other hwrite
        have htrace := not_noTrace_of_settled hfree hframe
        exact ⟨iff_of_false htrace hnot, iff_of_false (fun h => htrace h.1) fun h => hnot h.1⟩
      | exception raised =>
        have hrolls : RollsBack outside client msgDict newState := by
          refine ⟨hquiet, fun hserializes name hwrite => ?_⟩
          obtain ⟨other, hother⟩ := hfailure.mpr ⟨hserializes, name, hwrite⟩
          cases hother
        rw [snd_rollback]
        obtain ⟨hregistry, hcallbacks, hstate⟩ := withdrawn_of_sending hfree hframe
        have hpending := congrArg PendingRequestRegistry.pending hregistry
        have htrace : NoTrace client _ responseName := noTrace_of_eq hpending hcallbacks hstate
        refine ⟨iff_of_true htrace hrolls, ?_⟩
        rw [hregistry, PendingRequestRegistry.forgetStale_eq_iff]
        exact ⟨fun h => ⟨hrolls, h.2⟩, fun h => ⟨htrace, h.2⟩⟩
    · -- The callback raises on the new state, before the handler is set up.
      have hnot : ¬ RollsBack outside client msgDict newState := fun hrolls => hquiet hrolls.1
      cases newState with
      | none => exact absurd (.inl rfl) hquiet
      | some newState =>
        cases hentering : outside.entering with
        | none => exact absurd (.inr hentering) hquiet
        | some first =>
          rw [run_sendRequest hfree, hentering,
            Program.run_bind_error (run_setStateIf_raises first)] at hraises
          cases hraises
          have hget : ((client.requesting responseName onCompletion).enter
              newState).pendingRequests.pending.get? (responseName, client.nextId) = some _ :=
            Dict.get?_set_self _ _ _
          have htrace := not_noTrace_of_pending hfree hget
          exact ⟨iff_of_false htrace hnot, iff_of_false (fun h => htrace h.1) fun h => hnot h.1⟩

end Requests

/-- A client that has not sent anything. -/
def LLRPClient.fresh : LLRPClient String where
  config := {}
  state := .connected
  deferreds := fun _ => []
  pendingRequests := .make 512
  lastMsgId := 0
  reservedMessageId := none
  sendingRegisteredRequest := false
  appliedConfigSnapshot := none
  pauseResumeTimer := false
  pauseResumeGeneration := 0
  usedIds := []
  written := []

/-- The message of a request. -/
def enableRospec : Codec.Fields := .ofList [("ENABLE_ROSPEC", .dict [("ROSpecID", .int 1)])]

/-- A request whose write fails is taken back. -/
theorem sendRequest_broken_pipe :
    let outside : Outside := ⟨none, some (.exception (.osError "Broken pipe")), none⟩
    let after := (sendRequest outside enableRospec "ENABLE_ROSPEC_RESPONSE" (some "start")
      (some .sentEnableRospec) LLRPClient.fresh).2
    (NoTrace LLRPClient.fresh after "ENABLE_ROSPEC_RESPONSE" ∧
        after.pendingRequests = LLRPClient.fresh.pendingRequests) := by
  intro outside after
  have hraises : sendRequest outside enableRospec "ENABLE_ROSPEC_RESPONSE" (some "start")
      (some .sentEnableRospec) LLRPClient.fresh =
    (.error (.exception (.osError "Broken pipe")), after) := rfl
  apply (sendRequest_noTrace_iff hraises).2.mpr
  right
  refine ⟨⟨.inr rfl, ?_⟩, List.not_mem_nil, Finset.notMem_empty _⟩
  intro _ name hwrite
  cases hwrite

/-- After a callback raised on the new state, nothing was written, and the response is
waited for. -/
theorem sendRequest_callback_raises :
    ∃ raised after,
      sendRequest ⟨some (.exception (.valueError "not ready")), none, none⟩
          enableRospec "ENABLE_ROSPEC_RESPONSE" (some "start") (some .sentEnableRospec)
          LLRPClient.fresh = (.error raised, after) ∧
        after.written = [] ∧ after.isWaiting "ENABLE_ROSPEC_RESPONSE" = true ∧
        ¬ NoTrace LLRPClient.fresh after "ENABLE_ROSPEC_RESPONSE" := by
  refine ⟨_, _, rfl, rfl, rfl, ?_⟩
  intro htrace
  cases htrace.state

end Sllurp.Client
