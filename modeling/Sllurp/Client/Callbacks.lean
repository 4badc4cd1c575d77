/-
# The callbacks of a reader client

A reader client keeps five registries of callbacks. Tag reports and events reach their
callbacks through two functions of the client, which stand in the registry of message
callbacks like any other: adding a callback puts them there, and editing the message
callbacks can take them out again. The callbacks are reached as long as that does not
happen while there are any. A callback runs before the next edit; an exception of it is
logged and otherwise ignored.
-/

import Sllurp.Foundations.Listeners
import Sllurp.Protocol.Messages
import Sllurp.Runtime.Deduplicator

namespace Sllurp.Callbacks

open Sllurp.Foundations Sllurp.Protocol Sllurp.Runtime

/-! ## The client -/

/-- What stands in a registry: a function of the application, or one of the client. -/
inductive Callback (κ : Type)
  | user (callback : κ)
  | onLlrpTagReport
  | onLlrpEventNotification
  deriving DecidableEq

/-- What the client reads of a message: its name, the reports of an `RO_ACCESS_REPORT` and
the data of a `READER_EVENT_NOTIFICATION`, where the message has them. -/
structure LLRPMessage (ρ ε : Type) where
  msgname : String
  tagReportData : Option (List ρ)
  readerEventNotificationData : Option ε

/-- A registry, with the state or the message name it belongs to. -/
inductive Registry
  | state (state : ReaderState)
  | message (name : String)
  | tagReport
  | event
  | disconnected
  deriving DecidableEq

/-- What a callback is called with, besides the client. -/
inductive Argument (ρ ε : Type)
  | state (newState : ReaderState)
  | message (message : LLRPMessage ρ ε)
  | tagReports (reports : List ρ)
  | event (data : ε)
  | nothing

/-- A call of a callback of a registry. -/
structure Invocation (κ ρ ε : Type) where
  registry : Registry
  callback : Callback κ
  argument : Argument ρ ε

/-- The callbacks of a client and what filters its tag reports. -/
structure LLRPReaderClient (κ ρ δ : Type) where
  llrpStateCallbacks : ReaderState → Listeners (Callback κ)
  llrpMessageCallbacks : String → Listeners (Callback κ)
  tagReportCallbacks : Listeners (Callback κ)
  eventNotificationCallbacks : Listeners (Callback κ)
  disconnectedCallbacks : Listeners (Callback κ)
  dedupBackendActive : String
  deduplicator : Option (TagReportDeduplicator ρ δ)

variable {κ ρ ε δ : Type} [DecidableEq κ] [DecidableEq δ]

namespace LLRPReaderClient

/-- The callbacks of a registry. -/
def callbacks (client : LLRPReaderClient κ ρ δ) : Registry → Listeners (Callback κ)
  | .state state => client.llrpStateCallbacks state
  | .message name => client.llrpMessageCallbacks name
  | .tagReport => client.tagReportCallbacks
  | .event => client.eventNotificationCallbacks
  | .disconnected => client.disconnectedCallbacks

/-! ## Editing the registries -/

section Edits

variable (client : LLRPReaderClient κ ρ δ)

/-- Change the callbacks of one registry. -/
def amend (registry : Registry) (change : Listeners (Callback κ) → Listeners (Callback κ)) :
    LLRPReaderClient κ ρ δ :=
  match registry with
  | .state state =>
    { client with
      llrpStateCallbacks :=
        Function.update client.llrpStateCallbacks state
          (change (client.llrpStateCallbacks state)) }
  | .message name =>
    { client with
      llrpMessageCallbacks :=
        Function.update client.llrpMessageCallbacks name
          (change (client.llrpMessageCallbacks name)) }
  | .tagReport => { client with tagReportCallbacks := change client.tagReportCallbacks }
  | .event =>
    { client with eventNotificationCallbacks := change client.eventNotificationCallbacks }
  | .disconnected =>
    { client with disconnectedCallbacks := change client.disconnectedCallbacks }

def addStateCallback (state : ReaderState) (callback : Callback κ) : LLRPReaderClient κ ρ δ :=
  client.amend (.state state) (·.add callback)

def removeStateCallback (state : ReaderState) (callback : Callback κ) : LLRPReaderClient κ ρ δ :=
  client.amend (.state state) (·.remove callback)

def clearStateCallback (state : ReaderState) : LLRPReaderClient κ ρ δ :=
  client.amend (.state state) fun _ => .empty

def addMessageCallback (msgType : String) (callback : Callback κ) : LLRPReaderClient κ ρ δ :=
  client.amend (.message msgType) (·.add callback)

def removeMessageCallback (msgType : String) (callback : Callback κ) :
    LLRPReaderClient κ ρ δ :=
  client.amend (.message msgType) (·.remove callback)

/-- No name and the empty name stand for all names. -/
def clearMessageCallback (msgType : Option String) : LLRPReaderClient κ ρ δ :=
  match msgType with
  | none => { client with llrpMessageCallbacks := fun _ => .empty }
  | some msgType =>
    if msgType = "" then { client with llrpMessageCallbacks := fun _ => .empty }
    else client.amend (.message msgType) fun _ => .empty

def addTagReportCallback (callback : Callback κ) : LLRPReaderClient κ ρ δ :=
  (client.amend (.message "RO_ACCESS_REPORT") (·.add .onLlrpTagReport)).amend .tagReport
    (·.add callback)

def removeTagReportCallback (callback : Callback κ) : LLRPReaderClient κ ρ δ :=
  client.amend .tagReport (·.remove callback)

def clearTagReportCallback : LLRPReaderClient κ ρ δ :=
  client.amend .tagReport fun _ => .empty

def addEventCallback (callback : Callback κ) : LLRPReaderClient κ ρ δ :=
  (client.amend (.message "READER_EVENT_NOTIFICATION") (·.add .onLlrpEventNotification)).amend
    .event (·.add callback)

def removeEventCallback (callback : Callback κ) : LLRPReaderClient κ ρ δ :=
  client.amend .event (·.remove callback)

def clearEventCallback : LLRPReaderClient κ ρ δ :=
  client.amend .event fun _ => .empty

def addDisconnectedCallback (callback : Callback κ) : LLRPReaderClient κ ρ δ :=
  client.amend .disconnected (·.add callback)

def removeDisconnectedCallback (callback : Callback κ) : LLRPReaderClient κ ρ δ :=
  client.amend .disconnected (·.remove callback)

def clearDisconnectedCallback : LLRPReaderClient κ ρ δ :=
  client.amend .disconnected fun _ => .empty

end Edits

/-! ## Calling the callbacks -/

/-- The reports that the callbacks are called with, if they are called. -/
def filterReports (client : LLRPReaderClient κ ρ δ) (now : ℚ) (reports : List ρ) :
    Option (List ρ) × LLRPReaderClient κ ρ δ :=
  if client.dedupBackendActive = "memory" then
    match client.deduplicator with
    | none => (some reports, client)
    | some deduplicator =>
      let (kept, later) := deduplicator.filter (now, reports)
      (if kept.isEmpty then none else some kept, { client with deduplicator := some later })
  else (some reports, client)

/-- A message without reports is an exception, which the caller ignores. -/
def onLlrpTagReport (client : LLRPReaderClient κ ρ δ) (now : ℚ) (message : LLRPMessage ρ ε) :
    List (Invocation κ ρ ε) × LLRPReaderClient κ ρ δ :=
  match message.tagReportData with
  | none => ([], client)
  | some reports =>
    match client.filterReports now reports with
    | (none, later) => ([], later)
    | (some kept, later) =>
      (later.tagReportCallbacks.items.map (⟨.tagReport, ·, .tagReports kept⟩), later)

def onLlrpEventNotification (client : LLRPReaderClient κ ρ δ) (message : LLRPMessage ρ ε) :
    List (Invocation κ ρ ε) :=
  match message.readerEventNotificationData with
  | none => []
  | some data => client.eventNotificationCallbacks.items.map (⟨.event, ·, .event data⟩)

/-- Call a message callback: what it calls in turn. -/
def callMessageCallback (client : LLRPReaderClient κ ρ δ) (now : ℚ) (message : LLRPMessage ρ ε) :
    Callback κ → List (Invocation κ ρ ε) × LLRPReaderClient κ ρ δ
  | .user _ => ([], client)
  | .onLlrpTagReport => client.onLlrpTagReport now message
  | .onLlrpEventNotification => (client.onLlrpEventNotification message, client)

/-- Call message callbacks one after the other. -/
def callMessageCallbacks (client : LLRPReaderClient κ ρ δ) (now : ℚ) (message : LLRPMessage ρ ε) :
    List (Callback κ) → List (Invocation κ ρ ε) × LLRPReaderClient κ ρ δ
  | [] => ([], client)
  | callback :: rest =>
    let called := client.callMessageCallback now message callback
    let later := callMessageCallbacks called.2 now message rest
    (⟨.message message.msgname, callback, .message message⟩ :: (called.1 ++ later.1), later.2)

def onLlrpMessageReceived (client : LLRPReaderClient κ ρ δ) (now : ℚ)
    (message : LLRPMessage ρ ε) : List (Invocation κ ρ ε) × LLRPReaderClient κ ρ δ :=
  client.callMessageCallbacks now message (client.llrpMessageCallbacks message.msgname).items

def onLlrpStateChanged (client : LLRPReaderClient κ ρ δ) (newState : ReaderState) :
    List (Invocation κ ρ ε) :=
  (client.llrpStateCallbacks newState).items.map (⟨.state newState, ·, .state newState⟩)

def onDisconnected (client : LLRPReaderClient κ ρ δ) : List (Invocation κ ρ ε) :=
  client.disconnectedCallbacks.items.map (⟨.disconnected, ·, .nothing⟩)

end LLRPReaderClient

/-! ## Runs -/

/-- An edit of the registries. -/
inductive Edit (κ : Type)
  | addStateCallback (state : ReaderState) (callback : Callback κ)
  | removeStateCallback (state : ReaderState) (callback : Callback κ)
  | clearStateCallback (state : ReaderState)
  | addMessageCallback (msgType : String) (callback : Callback κ)
  | removeMessageCallback (msgType : String) (callback : Callback κ)
  | clearMessageCallback (msgType : Option String)
  | addTagReportCallback (callback : Callback κ)
  | removeTagReportCallback (callback : Callback κ)
  | clearTagReportCallback
  | addEventCallback (callback : Callback κ)
  | removeEventCallback (callback : Callback κ)
  | clearEventCallback
  | addDisconnectedCallback (callback : Callback κ)
  | removeDisconnectedCallback (callback : Callback κ)
  | clearDisconnectedCallback

/-- What happens to a client: an edit, a message, or another way to filter reports. -/
inductive Label (κ ρ ε δ : Type)
  | edit (change : Edit κ)
  | receive (now : ℚ) (message : LLRPMessage ρ ε)
  | configure (backend : String) (deduplicator : Option (TagReportDeduplicator ρ δ))

def LLRPReaderClient.edit (client : LLRPReaderClient κ ρ δ) : Edit κ → LLRPReaderClient κ ρ δ
  | .addStateCallback state callback => client.addStateCallback state callback
  | .removeStateCallback state callback => client.removeStateCallback state callback
  | .clearStateCallback state => client.clearStateCallback state
  | .addMessageCallback msgType callback => client.addMessageCallback msgType callback
  | .removeMessageCallback msgType callback => client.removeMessageCallback msgType callback
  | .clearMessageCallback msgType => client.clearMessageCallback msgType
  | .addTagReportCallback callback => client.addTagReportCallback callback
  | .removeTagReportCallback callback => client.removeTagReportCallback callback
  | .clearTagReportCallback => client.clearTagReportCallback
  | .addEventCallback callback => client.addEventCallback callback
  | .removeEventCallback callback => client.removeEventCallback callback
  | .clearEventCallback => client.clearEventCallback
  | .addDisconnectedCallback callback => client.addDisconnectedCallback callback
  | .removeDisconnectedCallback callback => client.removeDisconnectedCallback callback
  | .clearDisconnectedCallback => client.clearDisconnectedCallback

def step (client : LLRPReaderClient κ ρ δ) : Label κ ρ ε δ → LLRPReaderClient κ ρ δ
  | .edit change => client.edit change
  | .receive now message => (client.onLlrpMessageReceived now message).2
  | .configure backend deduplicator =>
    { client with dedupBackendActive := backend, deduplicator := deduplicator }

/-- An edit that adds a callback to a registry. Adding a callback for tag reports or events
adds the function of the client that calls it, too. -/
def Edit.Adds (registry : Registry) (callback : Callback κ) : Edit κ → Prop
  | addStateCallback state added => registry = .state state ∧ callback = added
  | addMessageCallback msgType added => registry = .message msgType ∧ callback = added
  | addTagReportCallback added =>
    registry = .tagReport ∧ callback = added ∨
      registry = .message "RO_ACCESS_REPORT" ∧ callback = .onLlrpTagReport
  | addEventCallback added =>
    registry = .event ∧ callback = added ∨
      registry = .message "READER_EVENT_NOTIFICATION" ∧ callback = .onLlrpEventNotification
  | addDisconnectedCallback added => registry = .disconnected ∧ callback = added
  | _ => False

/-- An edit that removes a callback from a registry, or clears the registry. -/
def Edit.Drops (registry : Registry) (callback : Callback κ) : Edit κ → Prop
  | removeStateCallback state removed => registry = .state state ∧ callback = removed
  | clearStateCallback state => registry = .state state
  | removeMessageCallback msgType removed => registry = .message msgType ∧ callback = removed
  | clearMessageCallback msgType =>
    ∃ name, registry = .message name ∧ (msgType = none ∨ msgType = some "" ∨ msgType = some name)
  | removeTagReportCallback removed => registry = .tagReport ∧ callback = removed
  | clearTagReportCallback => registry = .tagReport
  | removeEventCallback removed => registry = .event ∧ callback = removed
  | clearEventCallback => registry = .event
  | removeDisconnectedCallback removed => registry = .disconnected ∧ callback = removed
  | clearDisconnectedCallback => registry = .disconnected
  | _ => False

namespace Label

def Adds (registry : Registry) (callback : Callback κ) : Label κ ρ ε δ → Prop
  | edit change => change.Adds registry callback
  | _ => False

def Drops (registry : Registry) (callback : Callback κ) : Label κ ρ ε δ → Prop
  | edit change => change.Drops registry callback
  | _ => False

end Label

/-- The callback was added to the registry, and not removed or cleared since. -/
def Registered (labels : List (Label κ ρ ε δ)) (registry : Registry) (callback : Callback κ) :
    Prop :=
  Since (Label.Adds registry callback) (Label.Drops registry callback) labels

/-! ## What a step does to a registry -/

section Steps

variable (client : LLRPReaderClient κ ρ δ) (registry other : Registry)
  (callback changed : Callback κ)

omit [DecidableEq κ] [DecidableEq δ] in
theorem callbacks_amend (change : Listeners (Callback κ) → Listeners (Callback κ)) :
    (client.amend registry change).callbacks other =
      if other = registry then change (client.callbacks registry)
      else client.callbacks other := by
  cases registry with
  | state state =>
    cases other with
    | state otherState =>
      change Function.update _ _ _ _ = _
      rw [Function.update_apply]
      simp only [Registry.state.injEq]
      rfl
    | _ => rfl
  | message name =>
    cases other with
    | message otherName =>
      change Function.update _ _ _ _ = _
      rw [Function.update_apply]
      simp only [Registry.message.injEq]
      rfl
    | _ => rfl
  | _ => cases other <;> rfl

omit [DecidableEq δ] in
theorem mem_amend_add :
    callback ∈ (client.amend registry (·.add changed)).callbacks other ↔
      other = registry ∧ callback = changed ∨ callback ∈ client.callbacks other := by
  rw [callbacks_amend]
  by_cases hregistry : other = registry
  · subst hregistry
    simp [or_comm]
  · simp [hregistry]

omit [DecidableEq δ] in
theorem mem_amend_remove :
    callback ∈ (client.amend registry (·.remove changed)).callbacks other ↔
      callback ∈ client.callbacks other ∧ ¬ (other = registry ∧ callback = changed) := by
  rw [callbacks_amend]
  by_cases hregistry : other = registry
  · subst hregistry
    simp
  · simp [hregistry]

omit [DecidableEq κ] [DecidableEq δ] in
theorem mem_amend_clear :
    callback ∈ (client.amend registry fun _ => .empty).callbacks other ↔
      callback ∈ client.callbacks other ∧ other ≠ registry := by
  rw [callbacks_amend]
  by_cases hregistry : other = registry
  · simp [hregistry]
  · simp [hregistry]

omit [DecidableEq κ] [DecidableEq δ] in
/-- Clearing message callbacks by name, or all of them. -/
theorem mem_clearMessageCallback (msgType : Option String) :
    callback ∈ (client.clearMessageCallback msgType).callbacks other ↔
      callback ∈ client.callbacks other ∧
        ¬ ∃ name, other = .message name ∧
          (msgType = none ∨ msgType = some "" ∨ msgType = some name) := by
  have hall : callback ∈ LLRPReaderClient.callbacks
        { client with llrpMessageCallbacks := fun _ => .empty } other ↔
      callback ∈ client.callbacks other ∧ ¬ ∃ name, other = .message name := by
    cases other with
    | message name => simp [LLRPReaderClient.callbacks]
    | _ => simp [LLRPReaderClient.callbacks]
  cases msgType with
  | none => simpa [LLRPReaderClient.clearMessageCallback] using hall
  | some msgType =>
    unfold LLRPReaderClient.clearMessageCallback
    by_cases hempty : msgType = ""
    · simpa [hempty] using hall
    · simp only [if_neg hempty]
      rw [mem_amend_clear]
      simp [hempty, eq_comm]

omit [DecidableEq δ] in
/-- An edit adds, or leaves what was there unless it drops it. -/
theorem mem_edit_iff (change : Edit κ) :
    callback ∈ (client.edit change).callbacks registry ↔
      change.Adds registry callback ∨
        callback ∈ client.callbacks registry ∧ ¬ change.Drops registry callback := by
  cases change with
  | addStateCallback state added =>
    apply (mem_amend_add client (.state state) registry callback added).trans
    simp [Edit.Adds, Edit.Drops]
  | removeStateCallback state removed =>
    apply (mem_amend_remove client (.state state) registry callback removed).trans
    simp [Edit.Adds, Edit.Drops]
  | clearStateCallback state =>
    apply (mem_amend_clear client (.state state) registry callback).trans
    simp [Edit.Adds, Edit.Drops]
  | addMessageCallback msgType added =>
    apply (mem_amend_add client (.message msgType) registry callback added).trans
    simp [Edit.Adds, Edit.Drops]
  | removeMessageCallback msgType removed =>
    apply (mem_amend_remove client (.message msgType) registry callback removed).trans
    simp [Edit.Adds, Edit.Drops]
  | clearMessageCallback msgType =>
    apply (mem_clearMessageCallback client registry callback msgType).trans
    simp only [Edit.Adds, Edit.Drops, false_or]
  | addTagReportCallback added =>
    apply (mem_amend_add _ .tagReport registry callback added).trans
    rw [mem_amend_add]
    simp [Edit.Adds, Edit.Drops, or_assoc]
  | removeTagReportCallback removed =>
    apply (mem_amend_remove client .tagReport registry callback removed).trans
    simp [Edit.Adds, Edit.Drops]
  | clearTagReportCallback =>
    apply (mem_amend_clear client .tagReport registry callback).trans
    simp [Edit.Adds, Edit.Drops]
  | addEventCallback added =>
    apply (mem_amend_add _ .event registry callback added).trans
    rw [mem_amend_add]
    simp [Edit.Adds, Edit.Drops, or_assoc]
  | removeEventCallback removed =>
    apply (mem_amend_remove client .event registry callback removed).trans
    simp [Edit.Adds, Edit.Drops]
  | clearEventCallback =>
    apply (mem_amend_clear client .event registry callback).trans
    simp [Edit.Adds, Edit.Drops]
  | addDisconnectedCallback added =>
    apply (mem_amend_add client .disconnected registry callback added).trans
    simp [Edit.Adds, Edit.Drops]
  | removeDisconnectedCallback removed =>
    apply (mem_amend_remove client .disconnected registry callback removed).trans
    simp [Edit.Adds, Edit.Drops]
  | clearDisconnectedCallback =>
    apply (mem_amend_clear client .disconnected registry callback).trans
    simp [Edit.Adds, Edit.Drops]

end Steps

/-! ## Dispatching -/

section Dispatch

variable (client : LLRPReaderClient κ ρ δ) (now : ℚ) (message : LLRPMessage ρ ε)

omit [DecidableEq κ] in
theorem callbacks_filterReports (reports : List ρ) (registry : Registry) :
    (client.filterReports now reports).2.callbacks registry = client.callbacks registry := by
  unfold LLRPReaderClient.filterReports
  split
  · cases client.deduplicator with
    | none => rfl
    | some deduplicator => cases registry <;> rfl
  · rfl

omit [DecidableEq κ] in
theorem callbacks_onLlrpTagReport (registry : Registry) :
    (client.onLlrpTagReport now message).2.callbacks registry = client.callbacks registry := by
  unfold LLRPReaderClient.onLlrpTagReport
  cases message.tagReportData with
  | none => rfl
  | some reports =>
    have hfilter := callbacks_filterReports client now reports registry
    simp only
    rcases hrun : client.filterReports now reports with ⟨_ | kept, later⟩
    · rw [hrun] at hfilter
      exact hfilter
    · rw [hrun] at hfilter
      exact hfilter

omit [DecidableEq κ] in
theorem callbacks_callMessageCallback (callback : Callback κ) (registry : Registry) :
    (client.callMessageCallback now message callback).2.callbacks registry =
      client.callbacks registry := by
  cases callback with
  | user callback => rfl
  | onLlrpTagReport => exact callbacks_onLlrpTagReport client now message registry
  | onLlrpEventNotification => rfl

omit [DecidableEq κ] in
/-- Calling callbacks changes no registry. -/
theorem callbacks_callMessageCallbacks (callbacks : List (Callback κ)) (registry : Registry) :
    (client.callMessageCallbacks now message callbacks).2.callbacks registry =
      client.callbacks registry := by
  induction callbacks generalizing client with
  | nil => rfl
  | cons callback rest ih =>
    exact (ih _).trans (callbacks_callMessageCallback client now message callback registry)

/-- A call of a callback of a registry, with whatever argument. -/
def Invocation.calls (registry : Registry) (callback : Callback κ) (called : Invocation κ ρ ε) :
    Bool :=
  called.registry = registry ∧ called.callback = callback

omit [DecidableEq δ] in
/-- Calling each callback of a registry calls one of them once. -/
theorem filter_map_calls {callbacks : Listeners (Callback κ)} {callback : Callback κ}
    (hmem : callback ∈ callbacks) (registry : Registry) (argument : Argument ρ ε) :
    (callbacks.items.map (⟨registry, ·, argument⟩)).filter
        (Invocation.calls registry callback) = [⟨registry, callback, argument⟩] := by
  rw [List.filter_map]
  have hsame : Invocation.calls registry callback ∘
        (⟨registry, ·, argument⟩ : _ → Invocation κ ρ ε) =
      fun other => decide (other = callback) := by
    funext other
    simp [Invocation.calls]
  rw [hsame, Listeners.filter_eq hmem]
  rfl

/-- Tag reports that are left after filtering go to each callback once. -/
theorem filter_onLlrpTagReport {reports kept : List ρ}
    (hreports : message.tagReportData = some reports)
    (hkept : (client.filterReports now reports).1 = some kept) {callback : Callback κ}
    (hmem : callback ∈ client.callbacks .tagReport) :
    (client.onLlrpTagReport now message).1.filter (Invocation.calls .tagReport callback) =
      [⟨.tagReport, callback, .tagReports kept⟩] := by
  have hcallbacks := callbacks_filterReports client now reports .tagReport
  unfold LLRPReaderClient.onLlrpTagReport
  simp only [hreports]
  rcases hrun : client.filterReports now reports with ⟨result, later⟩
  rw [hrun] at hkept hcallbacks
  simp only at hkept
  subst hkept
  apply filter_map_calls
  change callback ∈ later.callbacks .tagReport
  rw [hcallbacks]
  exact hmem

omit [DecidableEq κ] in
/-- The function for tag reports calls callbacks for tag reports. -/
theorem mem_onLlrpTagReport {called : Invocation κ ρ ε}
    (hmem : called ∈ (client.onLlrpTagReport now message).1) :
    called.registry = .tagReport ∧ called.callback ∈ client.callbacks .tagReport := by
  unfold LLRPReaderClient.onLlrpTagReport at hmem
  cases hreports : message.tagReportData with
  | none =>
    rw [hreports] at hmem
    cases hmem
  | some reports =>
    have hcallbacks := callbacks_filterReports client now reports .tagReport
    simp only [hreports] at hmem
    rcases hrun : client.filterReports now reports with ⟨_ | kept, later⟩
    · rw [hrun] at hmem
      cases hmem
    · rw [hrun] at hmem hcallbacks
      obtain ⟨callback, hcallback, rfl⟩ := List.mem_map.mp hmem
      refine ⟨rfl, ?_⟩
      rw [← hcallbacks]
      exact hcallback

omit [DecidableEq κ] [DecidableEq δ] in
theorem mem_onLlrpEventNotification {called : Invocation κ ρ ε}
    (hmem : called ∈ client.onLlrpEventNotification message) :
    called.registry = .event ∧ called.callback ∈ client.callbacks .event := by
  unfold LLRPReaderClient.onLlrpEventNotification at hmem
  cases hdata : message.readerEventNotificationData with
  | none =>
    rw [hdata] at hmem
    cases hmem
  | some data =>
    rw [hdata] at hmem
    obtain ⟨callback, hcallback, rfl⟩ := List.mem_map.mp hmem
    exact ⟨rfl, hcallback⟩

omit [DecidableEq κ] in
/-- The callbacks that a message callback calls are in the registry they are called for, and
it is the one of a function of the client. -/
theorem mem_callMessageCallback {callback : Callback κ} {called : Invocation κ ρ ε}
    (hmem : called ∈ (client.callMessageCallback now message callback).1) :
    called.callback ∈ client.callbacks called.registry ∧
      (callback = .onLlrpTagReport ∧ called.registry = .tagReport ∨
        callback = .onLlrpEventNotification ∧ called.registry = .event) := by
  cases callback with
  | user callback => cases hmem
  | onLlrpTagReport =>
    obtain ⟨hregistry, hcallback⟩ := mem_onLlrpTagReport client now message hmem
    rw [hregistry]
    exact ⟨hcallback, .inl ⟨rfl, rfl⟩⟩
  | onLlrpEventNotification =>
    obtain ⟨hregistry, hcallback⟩ := mem_onLlrpEventNotification client message hmem
    rw [hregistry]
    exact ⟨hcallback, .inr ⟨rfl, rfl⟩⟩

omit [DecidableEq κ] in
/-- Only callbacks are called that are in their registry: the induction is on the message
callbacks. -/
theorem mem_callMessageCallbacks {callbacks : List (Callback κ)}
    (hcallbacks : ∀ callback ∈ callbacks, callback ∈ client.callbacks (.message message.msgname))
    {called : Invocation κ ρ ε}
    (hmem : called ∈ (client.callMessageCallbacks now message callbacks).1) :
    called.callback ∈ client.callbacks called.registry := by
  induction callbacks generalizing client with
  | nil => cases hmem
  | cons head rest ih =>
    have hsame := callbacks_callMessageCallback client now message head
    rcases List.mem_cons.mp hmem with rfl | hmem
    · exact hcallbacks head List.mem_cons_self
    · rcases List.mem_append.mp hmem with hfirst | hlater
      · exact (mem_callMessageCallback client now message hfirst).1
      · rw [← hsame]
        refine ih _ ?_ hlater
        intro callback hcallback
        rw [hsame]
        exact hcallbacks callback (List.mem_cons_of_mem _ hcallback)

/-- A registry that one function of the client calls, and no other message callback. -/
def CalledBy (registry : Registry) (dispatcher : Callback κ) : Prop :=
  registry = .tagReport ∧ dispatcher = .onLlrpTagReport ∨
    registry = .event ∧ dispatcher = .onLlrpEventNotification

/-- A message callback that is not the function for a registry calls nothing of it. -/
theorem filter_callMessageCallback_of_ne {registry : Registry} {dispatcher head : Callback κ}
    (hcalled : CalledBy registry dispatcher) (hne : head ≠ dispatcher) (callback : Callback κ) :
    (client.callMessageCallback now message head).1.filter
      (Invocation.calls registry callback) = [] := by
  rw [List.filter_eq_nil_iff]
  intro called hmem hcalls
  have hregistry : called.registry = registry := (of_decide_eq_true hcalls).1
  obtain ⟨-, ⟨hhead, htag⟩ | ⟨hhead, hevent⟩⟩ := mem_callMessageCallback client now message hmem
  · rcases hcalled with ⟨-, hdispatcher⟩ | ⟨hother, -⟩
    · exact hne (hhead.trans hdispatcher.symm)
    · rw [htag, hother] at hregistry
      cases hregistry
  · rcases hcalled with ⟨hother, -⟩ | ⟨-, hdispatcher⟩
    · rw [hevent, hother] at hregistry
      cases hregistry
    · exact hne (hhead.trans hdispatcher.symm)

omit [DecidableEq κ] in
/-- Only the function for tag reports changes what filters them. -/
theorem snd_callMessageCallback_of_ne {head : Callback κ} (hne : head ≠ .onLlrpTagReport) :
    (client.callMessageCallback now message head).2 = client := by
  cases head with
  | onLlrpTagReport => exact absurd rfl hne
  | user callback => rfl
  | onLlrpEventNotification => rfl

/-- The call of a message callback is none of another registry. -/
theorem filter_cons_message {registry : Registry} {dispatcher head : Callback κ}
    (hcalled : CalledBy registry dispatcher) (callback : Callback κ) (rest : List (Callback κ)) :
    (client.callMessageCallbacks now message (head :: rest)).1.filter
        (Invocation.calls registry callback) =
      (client.callMessageCallback now message head).1.filter
          (Invocation.calls registry callback) ++
        ((client.callMessageCallback now message head).2.callMessageCallbacks now message
          rest).1.filter (Invocation.calls registry callback) := by
  have hmessage : registry ≠ .message message.msgname := by
    rcases hcalled with ⟨rfl, -⟩ | ⟨rfl, -⟩ <;> exact nofun
  have hskip (argument : Argument ρ ε) :
      ¬ Invocation.calls registry callback ⟨.message message.msgname, head, argument⟩ = true :=
    fun hcalls => hmessage (of_decide_eq_true hcalls).1.symm
  rw [LLRPReaderClient.callMessageCallbacks, List.filter_cons_of_neg (hskip _),
    List.filter_append]

theorem filter_callMessageCallbacks_of_not_mem {registry : Registry} {dispatcher : Callback κ}
    (hcalled : CalledBy registry dispatcher) (callback : Callback κ)
    {callbacks : List (Callback κ)} (hnot : dispatcher ∉ callbacks) :
    (client.callMessageCallbacks now message callbacks).1.filter
      (Invocation.calls registry callback) = [] := by
  induction callbacks generalizing client with
  | nil => rfl
  | cons head rest ih =>
    rw [List.mem_cons, not_or] at hnot
    obtain ⟨hhead, hrest⟩ := hnot
    rw [filter_cons_message client now message hcalled, ih _ hrest,
      filter_callMessageCallback_of_ne client now message hcalled (Ne.symm hhead)]
    rfl

/-- The function that belongs to a registry calls its callbacks once: the induction is on the
message callbacks, which are different from each other. -/
theorem filter_callMessageCallbacks {registry : Registry} {dispatcher : Callback κ}
    (hcalled : CalledBy registry dispatcher) {callback : Callback κ}
    {expected : List (Invocation κ ρ ε)}
    (hexpected : ∀ other : LLRPReaderClient κ ρ δ, other.callbacks = client.callbacks →
      (dispatcher = .onLlrpTagReport → other = client) →
      (other.callMessageCallback now message dispatcher).1.filter
        (Invocation.calls registry callback) = expected)
    {callbacks : List (Callback κ)} (hnodup : callbacks.Nodup) (hmem : dispatcher ∈ callbacks) :
    (client.callMessageCallbacks now message callbacks).1.filter
        (Invocation.calls registry callback) = expected := by
  induction callbacks generalizing client with
  | nil => cases hmem
  | cons head rest ih =>
    obtain ⟨hhead, hrest⟩ := List.nodup_cons.mp hnodup
    rw [filter_cons_message client now message hcalled]
    by_cases hdispatcher : head = dispatcher
    · subst hdispatcher
      rw [hexpected client rfl fun _ => rfl,
        filter_callMessageCallbacks_of_not_mem _ now message hcalled callback hhead,
        List.append_nil]
    · rw [filter_callMessageCallback_of_ne client now message hcalled hdispatcher,
        List.nil_append]
      refine ih _ ?_ hrest ((List.mem_cons.mp hmem).resolve_left (Ne.symm hdispatcher))
      intro other hother hsame
      apply hexpected other
      · exact hother.trans (funext (callbacks_callMessageCallback client now message head))
      · intro htag
        rw [hsame htag]
        apply snd_callMessageCallback_of_ne
        rw [← htag]
        exact hdispatcher

end Dispatch

/-! ## What is registered -/

/-- A client without callbacks. -/
def LLRPReaderClient.Fresh (client : LLRPReaderClient κ ρ δ) : Prop :=
  ∀ registry callback, callback ∉ client.callbacks registry

/-- A step adds, or leaves what was there unless it drops it. -/
theorem mem_step_iff (client : LLRPReaderClient κ ρ δ) (label : Label κ ρ ε δ)
    (registry : Registry) (callback : Callback κ) :
    callback ∈ (step client label).callbacks registry ↔
      label.Adds registry callback ∨
        callback ∈ client.callbacks registry ∧ ¬ label.Drops registry callback := by
  cases label with
  | edit change => exact mem_edit_iff client registry callback change
  | receive now message =>
    have hsame : (step client (.receive now message)).callbacks registry =
        client.callbacks registry :=
      callbacks_callMessageCallbacks client now message _ registry
    rw [hsame]
    simp [Label.Adds, Label.Drops]
  | configure backend deduplicator =>
    have hsame : (step client (.configure backend deduplicator : Label κ ρ ε δ)).callbacks
        registry = client.callbacks registry := by
      cases registry <;> rfl
    rw [hsame]
    simp [Label.Adds, Label.Drops]

/-- What is in a registry is what was added, and not removed or cleared since. -/
theorem mem_callbacks_iff {start : LLRPReaderClient κ ρ δ} (hfresh : start.Fresh)
    (labels : List (Label κ ρ ε δ)) (registry : Registry) (callback : Callback κ) :
    callback ∈ (run step start labels).callbacks registry ↔
      Registered labels registry callback := by
  apply @run_iff_since _ _ step _ _ (fun client => callback ∈ client.callbacks registry)
  · exact hfresh registry callback
  · intro client label hadds
    exact (mem_step_iff client label registry callback).mpr (.inl hadds)
  · intro client label hadds
    rw [mem_step_iff, or_iff_right hadds]

/-! ## Reaching what is registered -/

/-- Every callback for tag reports and events that was added and not removed or cleared since
is called exactly once for a message with data for it, unless no report is left. -/
structure Reaches (labels : List (Label κ ρ ε δ)) (client : LLRPReaderClient κ ρ δ) : Prop where
  tagReport : ∀ callback, Registered labels .tagReport callback →
    ∀ now (message : LLRPMessage ρ ε) reports kept, message.msgname = "RO_ACCESS_REPORT" →
      message.tagReportData = some reports → (client.filterReports now reports).1 = some kept →
        (client.onLlrpMessageReceived now message).1.filter
          (Invocation.calls .tagReport callback) = [⟨.tagReport, callback, .tagReports kept⟩]
  event : ∀ callback, Registered labels .event callback →
    ∀ now (message : LLRPMessage ρ ε) data, message.msgname = "READER_EVENT_NOTIFICATION" →
      message.readerEventNotificationData = some data →
        (client.onLlrpMessageReceived now message).1.filter (Invocation.calls .event callback) =
          [⟨.event, callback, .event data⟩]

/-- No callback is called that was not added to the registry it is called for, or was removed
or cleared since. -/
def CallsRegistered (labels : List (Label κ ρ ε δ)) (client : LLRPReaderClient κ ρ δ) : Prop :=
  ∀ called : Invocation κ ρ ε,
    ((∃ now message, called ∈ (client.onLlrpMessageReceived now message).1) ∨
      (∃ newState, called ∈ client.onLlrpStateChanged newState) ∨
        called ∈ client.onDisconnected) →
    Registered labels called.registry called.callback

/-- The functions of the client stand where they are needed. -/
def Dispatches (client : LLRPReaderClient κ ρ δ) (registry : Registry) (name : String)
    (dispatcher : Callback κ) : Prop :=
  ∀ callback ∈ client.callbacks registry, dispatcher ∈ client.callbacks (.message name)

/-- A step does not take a function of the client out of the message callbacks while there
are callbacks that it calls. -/
def KeepsDispatchers (client : LLRPReaderClient κ ρ δ) (label : Label κ ρ ε δ) : Prop :=
  (label.Drops (.message "RO_ACCESS_REPORT") .onLlrpTagReport →
    ∀ callback, callback ∉ client.callbacks .tagReport) ∧
  (label.Drops (.message "READER_EVENT_NOTIFICATION") .onLlrpEventNotification →
    ∀ callback, callback ∉ client.callbacks .event)

/-- A function stays where it is needed if and only if no step drops it while it is. -/
theorem dispatches_step_iff {client : LLRPReaderClient κ ρ δ} {registry : Registry}
    {name : String} {dispatcher : Callback κ}
    (hdispatches : Dispatches client registry name dispatcher) {label : Label κ ρ ε δ}
    (hadds : ∀ callback, label.Adds registry callback → label.Adds (.message name) dispatcher)
    (hdrops : label.Drops (.message name) dispatcher → ¬ label.Adds (.message name) dispatcher ∧
      ∀ callback, ¬ label.Drops registry callback) :
    Dispatches (step client label) registry name dispatcher ↔
      (label.Drops (.message name) dispatcher →
        ∀ callback, callback ∉ client.callbacks registry) := by
  constructor
  · intro hlater hdropped callback hmem
    obtain ⟨hnot, hkept⟩ := hdrops hdropped
    have hthere : callback ∈ (step client label).callbacks registry :=
      (mem_step_iff client label registry callback).mpr (.inr ⟨hmem, hkept callback⟩)
    rcases (mem_step_iff client label _ _).mp (hlater callback hthere) with hadded | ⟨-, hstays⟩
    · exact hnot hadded
    · exact hstays hdropped
  · intro hguard callback hmem
    rw [mem_step_iff]
    rcases (mem_step_iff client label _ _).mp hmem with hadded | ⟨hthere, -⟩
    · exact .inl (hadds callback hadded)
    · exact .inr ⟨hdispatches callback hthere, fun hdropped => hguard hdropped callback hthere⟩

omit [DecidableEq κ] [DecidableEq δ] in
/-- Only edits of the message callbacks drop message callbacks. -/
theorem drops_message {label : Label κ ρ ε δ} {name : String} {dispatcher : Callback κ}
    (hdrops : label.Drops (.message name) dispatcher) :
    ¬ label.Adds (.message name) dispatcher ∧
      ∀ registry, (∀ other, registry ≠ .message other) → ∀ callback,
        ¬ label.Drops registry callback := by
  cases label with
  | receive now message => cases hdrops
  | configure backend deduplicator => cases hdrops
  | edit change =>
    cases change <;> simp_all [Label.Drops, Label.Adds, Edit.Drops, Edit.Adds]

omit [DecidableEq κ] [DecidableEq δ] in
theorem adds_dispatcher (label : Label κ ρ ε δ) (callback : Callback κ) :
    (label.Adds .tagReport callback →
        label.Adds (.message "RO_ACCESS_REPORT") .onLlrpTagReport) ∧
      (label.Adds .event callback →
        label.Adds (.message "READER_EVENT_NOTIFICATION") .onLlrpEventNotification) := by
  cases label with
  | edit change => cases change <;> simp [Label.Adds, Edit.Adds]
  | _ => exact ⟨id, id⟩

/-- Both functions of the client stand where they are needed. -/
def DispatchesAll (client : LLRPReaderClient κ ρ δ) : Prop :=
  Dispatches client .tagReport "RO_ACCESS_REPORT" .onLlrpTagReport ∧
    Dispatches client .event "READER_EVENT_NOTIFICATION" .onLlrpEventNotification

theorem dispatchesAll_step_iff {client : LLRPReaderClient κ ρ δ}
    (hdispatches : DispatchesAll client) (label : Label κ ρ ε δ) :
    KeepsDispatchers client label ↔ DispatchesAll (step client label) := by
  have htag := dispatches_step_iff hdispatches.1
    (fun callback => (adds_dispatcher label callback).1)
    fun hdrops => ⟨(drops_message hdrops).1, (drops_message hdrops).2 .tagReport fun _ => nofun⟩
  have hevent := dispatches_step_iff hdispatches.2
    (fun callback => (adds_dispatcher label callback).2)
    fun hdrops => ⟨(drops_message hdrops).1, (drops_message hdrops).2 .event fun _ => nofun⟩
  exact (and_congr htag hevent).symm

/-! ## Reports that are left -/

omit [DecidableEq κ] in
theorem get?_of_purgeExpired {now : ℚ} {queue : List (ℚ × δ)} {seen : Dict δ ℚ} {key : δ}
    {expiry : ℚ}
    (hget : (TagReportDeduplicator.purgeExpired now queue seen).2.get? key = some expiry) :
    seen.get? key = some expiry := by
  induction queue generalizing seen with
  | nil => exact hget
  | cons entry queue ih =>
    obtain ⟨oldest, other⟩ := entry
    rw [TagReportDeduplicator.purgeExpired] at hget
    split at hget
    · have hthere := ih hget
      split at hthere
      · rw [Dict.get?_erase] at hthere
        split at hthere
        · cases hthere
        · exact hthere
      · exact hthere
    · exact hget

omit [DecidableEq κ] in
/-- At some time a report is left: when the deduplicator has forgotten it, if it ever saw it. -/
theorem exists_filterReports (client : LLRPReaderClient κ ρ δ) (report : ρ) :
    ∃ now, (client.filterReports now [report]).1 = some [report] := by
  unfold LLRPReaderClient.filterReports
  by_cases hmemory : client.dedupBackendActive = "memory"
  · simp only [if_pos hmemory]
    cases client.deduplicator with
    | none => exact ⟨0, rfl⟩
    | some deduplicator =>
      let now := (deduplicator.seen.get? (deduplicator.key report)).getD 0
      have hfilter : (deduplicator.filter (now, [report])).1 = [report] := by
        unfold TagReportDeduplicator.filter
        by_cases hwindow : deduplicator.windowSeconds = 0
        · rw [if_pos hwindow]
        · rw [if_neg hwindow]
          have hforgotten : ¬ (Option.any (now < ·) ((TagReportDeduplicator.purgeExpired now
              deduplicator.expiryQueue deduplicator.seen).2.get? (deduplicator.key report))) := by
            cases hget : (TagReportDeduplicator.purgeExpired now deduplicator.expiryQueue
                deduplicator.seen).2.get? (deduplicator.key report) with
            | none => exact nofun
            | some expiry =>
              have hnow : now = expiry := by
                change Option.getD _ _ = _
                rw [get?_of_purgeExpired hget, Option.getD_some]
              simp [hnow]
          simp only [TagReportDeduplicator.emit, if_neg hforgotten]
      refine ⟨now, ?_⟩
      simp only [hfilter]
      rfl
  · exact ⟨0, by rw [if_neg hmemory]⟩

/-! ## The condition -/

/-- What a state reaches is what its functions for tag reports and events are there for. -/
theorem reaches_iff [Inhabited ρ] [Inhabited ε] {start : LLRPReaderClient κ ρ δ}
    (hfresh : start.Fresh) (labels : List (Label κ ρ ε δ)) :
    Reaches labels (run step start labels) ↔ DispatchesAll (run step start labels) := by
  let client := run step start labels
  have hmem := mem_callbacks_iff hfresh labels
  constructor
  · intro hreaches
    constructor
    · intro callback hcallback
      by_contra hnot
      obtain ⟨now, hkept⟩ := exists_filterReports client default
      let message : LLRPMessage ρ ε := ⟨"RO_ACCESS_REPORT", some [default], none⟩
      have hcalls := hreaches.tagReport callback ((hmem _ _).mp hcallback) now message _ _ rfl
        rfl hkept
      have hnone := filter_callMessageCallbacks_of_not_mem client now message
        (.inl ⟨rfl, rfl⟩) callback hnot
      exact absurd (hcalls.symm.trans hnone) (List.cons_ne_nil _ _)
    · intro callback hcallback
      by_contra hnot
      let message : LLRPMessage ρ ε := ⟨"READER_EVENT_NOTIFICATION", none, some default⟩
      have hcalls := hreaches.event callback ((hmem _ _).mp hcallback) 0 message _ rfl rfl
      have hnone := filter_callMessageCallbacks_of_not_mem client 0 message
        (.inr ⟨rfl, rfl⟩) callback hnot
      exact absurd (hcalls.symm.trans hnone) (List.cons_ne_nil _ _)
  · rintro ⟨htag, hevent⟩
    constructor
    · intro callback hregistered now message reports kept hname hreports hkept
      have hcallback := (hmem _ _).mpr hregistered
      apply filter_callMessageCallbacks client now message (.inl ⟨rfl, rfl⟩) _
        (client.llrpMessageCallbacks _).nodup
      · rw [hname]
        exact htag callback hcallback
      · intro other _ hsame
        rw [hsame rfl]
        exact filter_onLlrpTagReport client now message hreports hkept hcallback
    · intro callback hregistered now message data hname hdata
      have hcallback := (hmem _ _).mpr hregistered
      apply filter_callMessageCallbacks client now message (.inr ⟨rfl, rfl⟩) _
        (client.llrpMessageCallbacks _).nodup
      · rw [hname]
        exact hevent callback hcallback
      · intro other hother _
        have hthere : callback ∈ other.callbacks .event := by
          rw [hother]
          exact hcallback
        change (other.onLlrpEventNotification message).filter _ = _
        unfold LLRPReaderClient.onLlrpEventNotification
        rw [hdata]
        exact filter_map_calls hthere _ _

/-- Every callback that is called is registered for it. -/
theorem callsRegistered {start : LLRPReaderClient κ ρ δ} (hfresh : start.Fresh)
    (labels : List (Label κ ρ ε δ)) : CallsRegistered labels (run step start labels) := by
  intro called hcalled
  rw [← mem_callbacks_iff hfresh labels]
  rcases hcalled with ⟨now, message, hmem⟩ | ⟨newState, hmem⟩ | hmem
  · exact mem_callMessageCallbacks _ now message (fun _ hcallback => hcallback) hmem
  · obtain ⟨callback, hcallback, rfl⟩ := List.mem_map.mp hmem
    exact hcallback
  · obtain ⟨callback, hcallback, rfl⟩ := List.mem_map.mp hmem
    exact hcallback

/-- In every state that a run passes, only registered callbacks are called; and each of those
for tag reports and events is reached, in every state, if and only if no step of the run takes
the function of the client away that calls it. -/
theorem reaches_iff_guarded [Inhabited ρ] [Inhabited ε] {start : LLRPReaderClient κ ρ δ}
    (hfresh : start.Fresh) (labels : List (Label κ ρ ε δ)) :
    (∀ early, early <+: labels → CallsRegistered early (run step start early)) ∧
      ((∀ early, early <+: labels → Reaches early (run step start early)) ↔
        Guarded step KeepsDispatchers start labels) := by
  have hstart : DispatchesAll start :=
    ⟨fun callback hmem => absurd hmem (hfresh _ _), fun callback hmem => absurd hmem (hfresh _ _)⟩
  constructor
  · intro early _
    exact callsRegistered hfresh early
  · have hguarded : Guarded step KeepsDispatchers start labels ↔ _ :=
      guarded_iff_invariant DispatchesAll
        (fun state label hdispatches => dispatchesAll_step_iff hdispatches label) hstart
    rw [hguarded]
    simp only [reaches_iff hfresh]

/-- A client as it is made. -/
def LLRPReaderClient.make : LLRPReaderClient String ℕ ℕ where
  llrpStateCallbacks _ := .empty
  llrpMessageCallbacks _ := .empty
  tagReportCallbacks := .empty
  eventNotificationCallbacks := .empty
  disconnectedCallbacks := .empty
  dedupBackendActive := "disabled"
  deduplicator := none

theorem LLRPReaderClient.fresh_make : LLRPReaderClient.make.Fresh := by
  intro registry callback
  cases registry <;> exact Listeners.not_mem_empty callback

/-- A callback for tag reports outlives other edits of the message callbacks. -/
theorem make_reaches :
    let labels : List (Label String ℕ String ℕ) :=
      [.edit (.addTagReportCallback (.user "print")),
        .edit (.clearMessageCallback (some "KEEPALIVE")), .edit .clearTagReportCallback,
        .edit (.clearMessageCallback none), .edit (.addTagReportCallback (.user "print"))]
    Reaches labels (run step LLRPReaderClient.make labels) := by
  intro labels
  apply (reaches_iff_guarded LLRPReaderClient.fresh_make labels).2.mpr _ labels
    (List.prefix_refl labels)
  have hcleared : ∀ callback : Callback String, callback ∉ (Listeners.empty : Listeners _) :=
    Listeners.not_mem_empty
  refine ⟨?_, ?_, ?_, ?_, ?_, trivial⟩
  · exact ⟨(nomatch ·), (nomatch ·)⟩
  · exact ⟨fun hdrops => by simp [Label.Drops, Edit.Drops] at hdrops,
      fun hdrops => by simp [Label.Drops, Edit.Drops] at hdrops⟩
  · exact ⟨(nomatch ·), (nomatch ·)⟩
  · exact ⟨fun _ => hcleared, fun _ => hcleared⟩
  · exact ⟨(nomatch ·), (nomatch ·)⟩

/-- After all message callbacks are cleared, a registered callback for tag reports is not
called. -/
theorem make_clearMessageCallback :
    let labels : List (Label String ℕ String ℕ) :=
      [.edit (.addTagReportCallback (.user "print")), .edit (.clearMessageCallback none)]
    Registered labels .tagReport (.user "print") ∧
      (((run step LLRPReaderClient.make labels).onLlrpMessageReceived 0
        (⟨"RO_ACCESS_REPORT", some [7], none⟩ : LLRPMessage ℕ String)).1.filter
          (Invocation.calls .tagReport (.user "print"))) = [] := by
  intro labels
  refine ⟨⟨[], .edit (.addTagReportCallback (.user "print")), [.edit (.clearMessageCallback none)],
    rfl, .inl ⟨rfl, rfl⟩, ?_⟩, rfl⟩
  intro other hmem
  obtain rfl := List.mem_singleton.mp hmem
  rintro ⟨name, hname, -⟩
  cases hname

end Sllurp.Callbacks
