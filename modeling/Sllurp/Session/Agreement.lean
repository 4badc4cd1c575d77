/-
# One request in both models

The session's model sends what a request means, the client's model the mapping that is
written. A client of the second stands for one of the first when both have the same state,
the same last message ID, and wait for the same responses. As long as the mapping encodes
and brings no ID of its own, a request then returns or raises the same in both, whatever
the code outside raises, and the clients after it stand for each other again.
-/

import Sllurp.Client.Rollback
import Sllurp.Session.RaisingCalls

namespace Sllurp.Session

open Sllurp.Foundations Sllurp.Foundations.Outcome Sllurp.Protocol Sllurp.Config Sllurp.Runtime
  Sllurp.Codec
open Sllurp.Foundations.Program
open Sllurp.Client (LLRPClient Raised Outside)

/-! ## Names and registries -/

/-- The names of messages, in the order of their declaration. -/
def messageNames : List MessageName :=
  [.getReaderCapabilitiesResponse, .getReaderConfigResponse, .setReaderConfigResponse,
    .addRospecResponse, .deleteRospecResponse, .startRospecResponse, .stopRospecResponse,
    .enableRospecResponse, .disableRospecResponse, .addAccessspecResponse,
    .deleteAccessspecResponse, .enableAccessspecResponse, .disableAccessspecResponse,
    .closeConnectionResponse, .impinjEnableExtensionsResponse, .roAccessReport, .keepalive,
    .readerEventNotification, .errorMessage, .customMessage]

/-- A message is known by its text. -/
theorem text_injective {name other : MessageName} (htext : name.text = other.text) :
    name = other := by
  have hlist : ∀ name : MessageName, name ∈ messageNames := by
    intro name
    cases name <;> decide
  have hdistinct : ∀ name ∈ messageNames, ∀ other ∈ messageNames,
      name.text = other.text → name = other := by
    decide +kernel
  exact hdistinct name (hlist name) other (hlist other) htext

/-! ## Standing for each other -/

section Mirrors

variable {κ : Type}

/-- A client that sends mappings stands for one of the session. -/
structure Mirrors (sender : LLRPClient κ) (client : Client) : Prop where
  state : sender.state = client.state
  lastMsgId : sender.lastMsgId = client.lastMsgId
  isWaiting : ∀ name : MessageName, sender.isWaiting name.text = client.isWaiting name

variable {sender later : LLRPClient κ} {client after : Client} {name : MessageName}
  {onCompletion : Option κ}

/-- Off what is compared, the client of the session may differ. -/
theorem Mirrors.of_same (hmirrors : Mirrors sender client) (hstate : after.state = client.state)
    (hlast : after.lastMsgId = client.lastMsgId)
    (hpending : after.pendingRequests = client.pendingRequests)
    (hdeferreds : after.deferreds = client.deferreds) : Mirrors sender after where
  state := hmirrors.state.trans hstate.symm
  lastMsgId := by rw [hmirrors.lastMsgId, hlast]
  isWaiting name := by
    have hwaits := hmirrors.isWaiting name
    unfold Client.isWaiting at *
    rw [hpending, hdeferreds]
    exact hwaits

theorem nextId_of_mirrors (hmirrors : Mirrors sender client) :
    sender.nextId = (nextMessageId client.lastMsgId : ℕ) := by
  rw [LLRPClient.nextId, hmirrors.lastMsgId, Sender.nextMessageId_cast]

/-- Clients that have a request registered stand for each other. -/
theorem mirrors_of_requested (hmirrors : Mirrors sender client) (callback : Callback)
    (newState : Option ReaderState) (hlast : later.lastMsgId = sender.nextId)
    (hpending : later.pendingRequests =
      (sender.requesting name.text onCompletion).pendingRequests)
    (hdeferreds : later.deferreds = (sender.requesting name.text onCompletion).deferreds)
    (hstate : later.state = newState.getD sender.state) :
    Mirrors later (client.requested name callback newState) where
  state := by
    have hafter : (client.requested name callback newState).state =
        newState.getD client.state := by
      cases newState <;> rfl
    rw [hstate, hafter, hmirrors.state]
  lastMsgId := by
    have hafter : (client.requested name callback newState).lastMsgId =
        nextMessageId client.lastMsgId := by
      cases newState <;> rfl
    rw [hlast, hafter, nextId_of_mirrors hmirrors]
  isWaiting other := by
    let waiting := (sender.useId sender.nextId .generated).defer name.text onCompletion
    have hset : (client.requested name callback newState).pendingRequests.pending =
        client.pendingRequests.pending.set (name, nextMessageId client.lastMsgId)
          (client.nextPending name callback) := by
      cases newState <;> rfl
    have hregistry := PendingRequestRegistry.hasResponseType_set hset other
    have hcallbacks : (client.requested name callback newState).deferreds other =
        if other = name then client.deferreds name ++ [⟨client.nextSerial, callback⟩]
        else client.deferreds other := by
      cases newState <;> rfl
    have hput : later.pendingRequests.pending = sender.pendingRequests.pending.set
        (name.text, sender.nextId)
        (waiting.newRequest name.text sender.nextId onCompletion) := by
      rw [hpending]
      rfl
    have hsent := PendingRequestRegistry.hasResponseType_set hput other.text
    have hcalled : later.deferreds other.text =
        if other.text = name.text then sender.deferreds other.text ++ onCompletion.toList
        else sender.deferreds other.text := by
      rw [hdeferreds]
      rfl
    unfold LLRPClient.isWaiting Client.isWaiting
    rw [hregistry, hcallbacks, hsent, hcalled]
    by_cases hother : other = name
    · rw [hother, decide_eq_true rfl, decide_eq_true rfl]
      rfl
    · have htext : other.text ≠ name.text := fun heq => hother (text_injective heq)
      rw [decide_eq_false hother, decide_eq_false htext, if_neg hother, if_neg htext,
        Bool.false_or, Bool.false_or]
      exact hmirrors.isWaiting other

/-- So do clients that a request was taken back from. -/
theorem mirrors_of_withdrawn (hmirrors : Mirrors sender client)
    (hlast : later.lastMsgId = sender.nextId)
    (hpending : later.pendingRequests.pending = sender.pendingRequests.pending)
    (hdeferreds : later.deferreds = sender.deferreds) (hstate : later.state = sender.state)
    (hcore : after.core = { client.core with
      pendingRequests := client.pendingRequests.forgetStale
        (name, nextMessageId client.lastMsgId)
      lastMsgId := nextMessageId client.lastMsgId
      nextSerial := client.nextSerial + 1 }) :
    Mirrors later after where
  state := hstate.trans (hmirrors.state.trans (congrArg Core.state hcore).symm)
  lastMsgId := by
    have hafter : after.lastMsgId = nextMessageId client.lastMsgId := congrArg Core.lastMsgId hcore
    rw [hlast, hafter, nextId_of_mirrors hmirrors]
  isWaiting other := by
    have hregistry : after.pendingRequests.pending = client.pendingRequests.pending :=
      congrArg (fun core => core.pendingRequests.pending) hcore
    have hcallbacks : after.deferreds = client.deferreds := congrArg Core.deferreds hcore
    have hwaits := hmirrors.isWaiting other
    unfold LLRPClient.isWaiting Client.isWaiting PendingRequestRegistry.hasResponseType at *
    rw [hpending, hdeferreds, hregistry, hcallbacks]
    exact hwaits

/-! ## Messages without an ID -/

/-- No message of the mapping brings an ID. -/
def Unnumbered (entries : List (String × Value)) : Prop :=
  ∀ entry ∈ entries, ∀ fields, entry.2.fields? = some fields → fields.get? "ID" = none

/-- Numbering under a reserved ID counts nothing. -/
theorem snd_number {entries : List (String × Value)} (hentries : Unnumbered entries)
    {messageId : ℤ} (hreserved : sender.reservedMessageId = some messageId) :
    (Sllurp.Client.number entries sender).2 = sender := by
  induction entries with
  | nil => rfl
  | cons entry entries ih =>
    obtain ⟨text, item⟩ := entry
    have hrest := ih fun entry hmem => hentries entry (List.mem_cons_of_mem _ hmem)
    unfold Sllurp.Client.number
    cases hfields : item.fields? with
    | none => rfl
    | some fields =>
      have hid : Sllurp.Client.messageIdOf fields sender = (.ok messageId, sender) := by
        have hget : fields.get? "ID" = none :=
          hentries (text, item) (List.mem_cons_self ..) fields hfields
        unfold Sllurp.Client.messageIdOf
        rw [run_get_bind, hget, hreserved]
        rfl
      dsimp only
      rw [run_bind_ok hid, run_bind]
      rcases hrun : Sllurp.Client.number entries sender with ⟨raised | numbered, later⟩
      · rw [hrun] at hrest
        exact hrest
      · rw [hrun] at hrest
        exact hrest

theorem lastMsgId_sendMessage {msgDict : Codec.Fields} (hentries : Unnumbered msgDict.entries)
    {messageId : ℤ} (hreserved : sender.reservedMessageId = some messageId)
    (write : Option Raised) :
    (Sllurp.Client.sendMessage write msgDict sender).2.lastMsgId = sender.lastMsgId := by
  have hprepare : (Sllurp.Client.prepareMessage msgDict sender).2 = sender := by
    have hnumber := snd_number hentries hreserved
    unfold Sllurp.Client.prepareMessage
    rw [run_bind]
    rcases hrun : Sllurp.Client.number msgDict.entries sender with ⟨raised | numbered, later⟩
    · rw [hrun] at hnumber
      exact hnumber
    · rw [hrun] at hnumber
      obtain ⟨items, sentIds⟩ := numbered
      dsimp only at hnumber ⊢
      rw [run_bind, run_ofExcept]
      rcases (serialize (Dict.ofList items)).mapError Raised.exception with raised | msgbytes
      · exact hnumber
      · dsimp only
        rw [run_ite]
        split
        · exact hnumber
        · exact hnumber
  unfold Sllurp.Client.sendMessage
  rw [run_get_bind]
  dsimp only
  cases msgDict.keys.find? fun name =>
      !sender.sendingRegisteredRequest && sender.isWaiting (Sender.responseName name) with
  | some name => rfl
  | none =>
    dsimp only
    rw [run_bind]
    rcases hrun : Sllurp.Client.prepareMessage msgDict sender with ⟨raised | prepared, later⟩
    · rw [hrun] at hprepare
      exact congrArg LLRPClient.lastMsgId hprepare
    · rw [hrun] at hprepare
      obtain ⟨msgbytes, sentIds⟩ := prepared
      cases hprepare
      cases write <;> rfl

/-! ## Requests -/

variable [DecidableEq κ]

/-- What the handler of a request raises: what the callback does on the previous state, if
that is set again. -/
theorem fst_rollback {newState : Option ReaderState}
    (hstate : ∀ state, newState = some state → sender.state = state) (leaving : Option Raised)
    (responseName : String) (messageId : ℤ) (previous : ReaderState) (raised : Exn) :
    (Sllurp.Client.rollback leaving responseName messageId onCompletion newState previous
      (.exception raised) sender).1 =
      .error ((newState.bind fun _ => leaving).getD (.exception raised)) := by
  cases newState with
  | none => rfl
  | some state =>
    have hset : some state =
        some (sender.withdraw responseName messageId onCompletion).state :=
      congrArg some (hstate state rfl).symm
    unfold Sllurp.Client.rollback
    dsimp only
    rw [run_modify_bind, run_get_bind, if_pos hset]
    cases leaving <;> rfl

/-- A registered request is written or not in both models. -/
theorem mirrors_send (hmirrors : Mirrors sender client) (hwaiting : client.isWaiting name = false)
    (hsender : sender.isWaiting name.text = false) {msgDict : Codec.Fields}
    {prepared : List (String × Value) × List UInt8 × List (String × ℤ)}
    (hencodes : sender.requestSender.sendMessage msgDict = .ok prepared)
    (hentries : Unnumbered msgDict.entries) (outside : Outside) (request : Request)
    (onCompletion : Option κ) (callback : Callback) (newState : Option ReaderState)
    (hquiet : newState = none ∨ outside.entering = none) :
    let one := (do
        Sllurp.Client.setStateIf outside.entering newState
        .modify (·.reserve sender.nextId)
        let _ ← ((Sllurp.Client.sendMessage outside.write msgDict).handle
          (Sllurp.Client.rollback outside.leaving name.text sender.nextId onCompletion newState
            sender.state)).ensure LLRPClient.release
        pure sender.nextId : Sllurp.Client.ClientM κ ℤ) (sender.requesting name.text onCompletion)
    let other : Except Raised Unit × Client :=
      match outside.write with
      | none => (.ok (), client.afterSend request name callback newState)
      | some (.baseException text) =>
        (.error (.baseException text), (client.requested name callback newState).consumeWrite)
      | some (.exception raised) =>
        (.error ((newState.bind fun _ => outside.leaving).getD (.exception raised)),
          client.afterFailedSend name callback newState)
    (one.1.map fun _ => ()) = other.1 ∧ Mirrors one.2 other.2 := by
  intro one other
  let sending := sender.sending name.text onCompletion newState
  have hlast : sender.requestSender.lastMsgId = sending.lastMsgId := by
    cases newState <;> rfl
  have hfst := @Sllurp.Client.fst_sendMessage κ sending sender.requestSender rfl hlast rfl
    (fun hflag => absurd hflag.symm Bool.false_ne_true) outside.write msgDict
  have hwithin := @Sllurp.Client.within_sendMessage κ outside.write msgDict sending
  have hsentLast := @lastMsgId_sendMessage κ sending msgDict hentries sender.nextId rfl
    outside.write
  have hset : Sllurp.Client.setStateIf outside.entering newState
      (sender.requesting name.text onCompletion) =
      (.ok (), (sender.requesting name.text onCompletion).enterIf newState) :=
    Sllurp.Client.run_setStateIf hquiet _
  have hone : one = _ := run_bind_ok hset
  rw [run_modify_bind, run_bind, run_ensure, run_handle] at hone
  rcases hsend : Sllurp.Client.sendMessage outside.write msgDict sending with ⟨outcome, sent⟩
  rw [hsend] at hfst hwithin hsentLast
  have hframe : sent.settled = sending.settled := hwithin
  rw [show Sllurp.Client.sendMessage outside.write msgDict
    (((sender.requesting name.text onCompletion).enterIf newState).reserve sender.nextId) =
      (outcome, sent) from hsend] at hone
  have hsentId : sent.lastMsgId = sender.nextId := hsentLast.trans hlast.symm
  have hregistry : sent.pendingRequests =
      (sender.requesting name.text onCompletion).pendingRequests :=
    (congrArg LLRPClient.pendingRequests hframe).trans
      (Sllurp.Client.pendingRequests_enterIf _ newState)
  have hcallbacks : sent.deferreds = (sender.requesting name.text onCompletion).deferreds :=
    (congrArg LLRPClient.deferreds hframe).trans (Sllurp.Client.deferreds_enterIf _ newState)
  have hstate : sent.state = newState.getD sender.state :=
    (congrArg LLRPClient.state hframe).trans (Sllurp.Client.state_enterIf _ newState)
  have hrequested : Mirrors sent.release (client.requested name callback newState) :=
    mirrors_of_requested hmirrors callback newState hsentId hregistry hcallbacks hstate
  rw [hencodes] at hfst
  unfold other
  rcases hwrite : outside.write with _ | raised | text
  · rw [hwrite] at hfst
    cases hfst
    rw [hone]
    exact ⟨rfl, hrequested.of_same rfl rfl rfl rfl⟩
  · rw [hwrite] at hfst
    cases hfst
    have hentered : ∀ state, newState = some state → sent.state = state := by
      rintro state rfl
      exact hstate
    have hraised := @fst_rollback κ sent onCompletion _ newState hentered outside.leaving
      name.text sender.nextId sender.state raised
    have hlater := @Sllurp.Client.snd_rollback κ name.text onCompletion _ outside.leaving
      sender.nextId newState sender.state raised sent
    obtain ⟨hpending, hdeferreds, hback⟩ :=
      Sllurp.Client.withdrawn_of_sending hsender hframe
    rcases hroll : Sllurp.Client.rollback outside.leaving name.text sender.nextId onCompletion
      newState sender.state (.exception raised) sent with ⟨result, last⟩
    rw [hroll] at hraised hlater
    dsimp only at hraised hlater
    subst hraised hlater
    dsimp only at hone
    rw [hroll] at hone
    have hlastId : LLRPClient.lastMsgId ((sent.withdraw name.text sender.nextId
        onCompletion).enterIf (if newState = some sent.state then some sender.state
          else none)).release = sender.nextId := by
      refine Eq.trans ?_ hsentId
      split <;> rfl
    have hkept := congrArg PendingRequestRegistry.pending hpending
    rw [hone]
    exact ⟨rfl, mirrors_of_withdrawn hmirrors hlastId hkept hdeferreds hback
      (core_afterFailedSend hwaiting callback newState)⟩
  · rw [hwrite] at hfst
    cases hfst
    rw [hone]
    exact ⟨rfl, hrequested.of_same rfl rfl rfl rfl⟩

/-- A request returns or raises the same in both models, and leaves clients that stand for
each other. -/
theorem mirrors_sendRequest (hmirrors : Mirrors sender client) {msgDict : Codec.Fields}
    {prepared : List (String × Value) × List UInt8 × List (String × ℤ)}
    (hencodes : sender.requestSender.sendMessage msgDict = .ok prepared)
    (hentries : Unnumbered msgDict.entries) (outside : Outside) (request : Request)
    (name : MessageName) (onCompletion : Option κ) (callback : Callback)
    (newState : Option ReaderState) :
    let one := Sllurp.Client.sendRequest outside msgDict name.text onCompletion newState sender
    let other := Raising.sendRequest outside request name callback newState client
    (one.1.map fun _ => ()) = other.1 ∧ Mirrors one.2 other.2 := by
  intro one other
  cases hwaiting : client.isWaiting name with
  | true =>
    have hsender : sender.isWaiting name.text = true := (hmirrors.isWaiting name).trans hwaiting
    have hother : other = _ := Raising.run_sendRequest_of_isWaiting hwaiting outside request
      callback newState
    have hone : one = (.error (.exception (.readerConfigurationError
        s!"cannot send request: {name.text} is already pending")), sender) := by
      unfold one Sllurp.Client.sendRequest
      rw [run_get_bind, if_pos hsender, run_raise]
    rw [hone, hother]
    exact ⟨rfl, hmirrors⟩
  | false =>
    have hsender : sender.isWaiting name.text = false := (hmirrors.isWaiting name).trans hwaiting
    have hother : other = _ := Raising.run_sendRequest hwaiting outside request callback newState
    have hone : one = _ := Sllurp.Client.run_sendRequest hsender outside msgDict newState
    rw [hone, hother]
    by_cases hquiet : newState = none ∨ outside.entering = none
    · have hentering : (newState.bind fun _ => outside.entering) = none := by
        rcases hquiet with rfl | hnone
        · rfl
        · rw [hnone]
          cases newState <;> rfl
      rw [hentering]
      exact mirrors_send hmirrors hwaiting hsender hencodes hentries outside request onCompletion
        callback newState hquiet
    · rw [not_or] at hquiet
      obtain ⟨state, rfl⟩ := Option.ne_none_iff_exists'.mp hquiet.1
      obtain ⟨raised, hentering⟩ := Option.ne_none_iff_exists'.mp hquiet.2
      rw [Option.bind_some, hentering]
      exact ⟨rfl, mirrors_of_requested hmirrors callback (some state) rfl rfl rfl rfl⟩

/-- Where only the transport raises, a request of the session is one of the client. -/
theorem mirrors_session_sendRequest (hmirrors : Mirrors sender client) {msgDict : Codec.Fields}
    {prepared : List (String × Value) × List UInt8 × List (String × ℤ)}
    (hencodes : sender.requestSender.sendMessage msgDict = .ok prepared)
    (hentries : Unnumbered msgDict.entries) (request : Request) (name : MessageName)
    (onCompletion : Option κ) (callback : Callback) (newState : Option ReaderState) :
    let one := Sllurp.Client.sendRequest (Raising.transport client) msgDict name.text onCompletion
      newState sender
    let other := sendRequest request name callback newState client
    (one.1.map fun _ => ()) = other.1.mapError .exception ∧ Mirrors one.2 other.2 := by
  have hsame := mirrors_sendRequest hmirrors hencodes hentries (Raising.transport client) request
    name onCompletion callback newState
  rw [Raising.sendRequest_transport] at hsame
  exact hsame

end Mirrors

end Sllurp.Session
