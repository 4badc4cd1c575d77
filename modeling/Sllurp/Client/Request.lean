/-
# Requests and their rollback

The functions with which a client sends messages. A request waits in three places before
its bytes are written: in the registry, among the callbacks of its response, and in the
state. When the write fails with an exception, it is taken back from all three. Code
outside the client raises as the caller of a function says: the transport and the
state-change callback, which do not call the client in turn.
-/

import Sllurp.Codec.Sender
import Sllurp.Config.Settings
import Sllurp.Foundations.Program

namespace Sllurp.Client

open Sllurp.Foundations Sllurp.Foundations.Outcome Sllurp.Protocol Sllurp.Config Sllurp.Runtime
  Sllurp.Codec

/-! ## The client -/

/-- What is raised: an exception, or what `except Exception` does not catch. -/
inductive Raised
  | exception (raised : Exn)
  | baseException (name : String)

/-- How a message ID came into use: the client generated it, or a message brought it. -/
inductive UsedId
  | generated (messageId : ℤ)
  | explicit (messageId : ℤ)
  deriving DecidableEq

/-- What sending reads and writes of a client. The IDs in the order of their use and the
bytes on the transport are for an observer. -/
structure LLRPClient (κ : Type) where
  config : LLRPReaderConfig
  state : ReaderState
  deferreds : String → List κ
  pendingRequests : PendingRequestRegistry (Option κ) String ℤ
  lastMsgId : ℤ
  reservedMessageId : Option ℤ
  sendingRegisteredRequest : Bool
  appliedConfigSnapshot : Option LLRPReaderConfig
  pauseResumeTimer : Bool
  pauseResumeGeneration : ℕ
  usedIds : List UsedId
  written : List (List UInt8)

abbrev ClientM (κ : Type) : Type → Type := Program (LLRPClient κ) Raised

/-- What the code outside raises during a request: the callback on the new state, the
transport on the bytes, and the callback on the previous state when that is set again. -/
structure Outside where
  entering : Option Raised
  write : Option Raised
  leaving : Option Raised

variable {κ : Type}

namespace LLRPClient

/-- Whether a response is waited for already. -/
def isWaiting (client : LLRPClient κ) (name : String) : Bool :=
  client.pendingRequests.hasResponseType name || !(client.deferreds name).isEmpty

/-- What numbering and writing need to know. -/
def sender (client : LLRPClient κ) : Sender where
  lastMsgId := client.lastMsgId
  reservedMessageId := client.reservedMessageId
  sendingRegisteredRequest := client.sendingRegisteredRequest
  isWaiting := client.isWaiting

/-- A state with its snapshot and its timer. -/
def enter (client : LLRPClient κ) (newState : ReaderState) : LLRPClient κ :=
  { client with
    state := newState
    appliedConfigSnapshot :=
      match newState with
      | .disconnected => none
      | .inventorying => some client.config
      | _ => client.appliedConfigSnapshot
    pauseResumeTimer := if newState = .disconnected then false else client.pauseResumeTimer
    pauseResumeGeneration :=
      if newState = .disconnected then client.pauseResumeGeneration + 1
      else client.pauseResumeGeneration }

/-- An ID that a message gets, which is the last one from now on. -/
def useId (client : LLRPClient κ) (messageId : ℤ) (used : ℤ → UsedId) : LLRPClient κ :=
  { client with
    lastMsgId := messageId
    usedIds := client.usedIds ++ [used messageId] }

def defer (client : LLRPClient κ) (responseName : String) (onCompletion : Option κ) :
    LLRPClient κ :=
  { client with
    deferreds := fun name =>
      if name = responseName then client.deferreds name ++ onCompletion.toList
      else client.deferreds name }

/-- A request with the timeout of the configuration. -/
def newRequest (client : LLRPClient κ) (responseName : String) (messageId : ℤ)
    (onCompletion : Option κ) : PendingRequest (Option κ) String ℤ where
  responseName := responseName
  messageId := messageId
  callback := onCompletion
  timer := client.config.requestTimeout.isSome
  serial := client.usedIds.length

/-- The ID of a request, for the messages that have none. -/
def reserve (client : LLRPClient κ) (messageId : ℤ) : LLRPClient κ :=
  { client with sendingRegisteredRequest := true, reservedMessageId := some messageId }

def release (client : LLRPClient κ) : LLRPClient κ :=
  { client with sendingRegisteredRequest := false, reservedMessageId := none }

/-- A client without the request and its callback. -/
def withdraw [DecidableEq κ] (client : LLRPClient κ) (responseName : String) (messageId : ℤ)
    (onCompletion : Option κ) : LLRPClient κ :=
  { client with
    pendingRequests := (client.pendingRequests.cancel responseName messageId false).2
    deferreds := fun name =>
      if name = responseName then onCompletion.toList.foldl List.erase (client.deferreds name)
      else client.deferreds name }

end LLRPClient

/-! ## Sending -/

/-- Code outside is called and raises, or does not. -/
def callOutside (outcome : Option Raised) : ClientM κ Unit :=
  match outcome with
  | none => pure ()
  | some raised => .raise raised

/-- Set the state, then call the callback. -/
def setState (callback : Option Raised) (newState : ReaderState) : ClientM κ Unit := do
  .modify (·.enter newState)
  callOutside callback

/-- Set the state that goes with a request, if there is one. -/
def setStateIf (callback : Option Raised) (newState : Option ReaderState) : ClientM κ Unit :=
  match newState with
  | none => pure ()
  | some newState => setState callback newState

def nextMessageId : ClientM κ ℤ := do
  let client ← .get
  let messageId := Sender.nextMessageId client.lastMsgId
  .modify (·.useId messageId .generated)
  pure messageId

/-- The ID of a message: its own, the reserved one, or the next one. -/
def messageIdOf (item : Codec.Fields) : ClientM κ ℤ := do
  let client ← .get
  match item.get? "ID" with
  | some existingId => do
    let messageId ← .ofExcept (existingId.toInt.mapError .exception)
    .modify (·.useId messageId .explicit)
    pure messageId
  | none =>
    match client.reservedMessageId with
    | some messageId => pure messageId
    | none => nextMessageId

/-- Number the messages one after the other. -/
def number : List (String × Value) → ClientM κ (List (String × Value) × List (String × ℤ))
  | [] => pure ([], [])
  | (name, item) :: rest =>
    match item.fields? with
    | none =>
      .raise (.exception (.attributeError s!"'{item.typeName}' object has no attribute 'get'"))
    | some fields => do
      let messageId ← messageIdOf fields
      let (items, sentIds) ← number rest
      pure ((name, (Sender.withId fields messageId).value) :: items, (name, messageId) :: sentIds)

def prepareMessage (msgDict : Codec.Fields) : ClientM κ (List UInt8 × List (String × ℤ)) := do
  let (items, sentIds) ← number msgDict.entries
  let msgbytes ← .ofExcept ((serialize (.ofList items)).mapError .exception)
  if msgbytes.isEmpty then .raise (.exception (.llrpError "LLRPMessage is empty"))
  else pure (msgbytes, sentIds)

/-- Only bytes that the transport took are on it. -/
def transportTxWrite (write : Option Raised) (msgbytes : List UInt8) : ClientM κ Unit := do
  callOutside write
  .modify fun client => { client with written := client.written ++ [msgbytes] }

def sendMessage (write : Option Raised) (msgDict : Codec.Fields) :
    ClientM κ (List (String × ℤ)) := do
  let client ← .get
  let pending := fun name =>
    !client.sendingRegisteredRequest && client.isWaiting (Sender.responseName name)
  match msgDict.keys.find? pending with
  | some name =>
    .raise (.exception (.readerConfigurationError
      s!"cannot send {name}: {Sender.responseName name} is already pending"))
  | none => do
    let (msgbytes, sentIds) ← prepareMessage msgDict
    transportTxWrite write msgbytes
    pure sentIds

/-! ## Requests -/

def register (responseName : String) (messageId : ℤ) (onCompletion : Option κ) :
    ClientM κ Unit := do
  let client ← .get
  let request := client.newRequest responseName messageId onCompletion
  let registry ← .ofExcept ((client.pendingRequests.register request).mapError .exception)
  .modify fun client => { client with pendingRequests := registry }

/-- What a request does about an exception: take everything back and raise it again. -/
def rollback [DecidableEq κ] (leaving : Option Raised) (responseName : String) (messageId : ℤ)
    (onCompletion : Option κ) (newState : Option ReaderState) (previousState : ReaderState)
    (raised : Raised) : ClientM κ (List (String × ℤ)) :=
  match raised with
  | .baseException _ => .raise raised
  | .exception _ => do
    .modify (·.withdraw responseName messageId onCompletion)
    let client ← .get
    if newState = some client.state then setState leaving previousState
    else pure ()
    .raise raised

/-- Register the request under the next ID, set the state that stands for waiting, and send
the messages under that ID. -/
def sendRequest [DecidableEq κ] (outside : Outside) (msgDict : Codec.Fields) (responseName : String)
    (onCompletion : Option κ) (newState : Option ReaderState) : ClientM κ ℤ := do
  let client ← .get
  if client.isWaiting responseName then
    .raise (.exception (.readerConfigurationError
      s!"cannot send request: {responseName} is already pending"))
  else do
    let messageId ← nextMessageId
    .modify (·.defer responseName onCompletion)
    register responseName messageId onCompletion
    setStateIf outside.entering newState
    .modify (·.reserve messageId)
    let _ ← ((sendMessage outside.write msgDict).handle
      (rollback outside.leaving responseName messageId onCompletion newState client.state)).ensure
      LLRPClient.release
    pure messageId

/-! ## Keepalives -/

/-- Acknowledge a keepalive under the ID that the reader gave it, or under the next one. -/
def sendKeepaliveAck (write : Option Raised) (messageId : Option ℤ) :
    ClientM κ (List (String × ℤ)) :=
  match messageId with
  | none => sendMessage write (.ofList [("KEEPALIVE_ACK", .dict [])])
  | some messageId =>
    if 0 ≤ messageId ∧ messageId ≤ Session.llrpMsgIdMax then do
      let msgbytes ← .ofExcept ((serialize
        (.ofList [("KEEPALIVE_ACK", .dict [("ID", .int messageId)])])).mapError .exception)
      transportTxWrite write msgbytes
      pure [("KEEPALIVE_ACK", messageId)]
    else .raise (.exception (.llrpError s!"invalid KEEPALIVE MessageID: {messageId}"))

end Sllurp.Client
