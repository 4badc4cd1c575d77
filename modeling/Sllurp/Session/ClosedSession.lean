/-
# Frames behind the end of a session

A chunk may hold more frames than the one whose processing closes the session.
The receive loop keeps its own copy of the bytes and goes on with it, so what
lies behind that frame is decoded, delivered and retained as if the session were
open. Nothing of it is processed exactly when nothing lies behind it, or when
something stops the loop: a header that is refused, or the acknowledgement of a
KEEPALIVE that finds no socket.
-/

import Sllurp.Session.Framing
import Sllurp.Session.SetupRequests

namespace Sllurp.Session

open Sllurp.Foundations Sllurp.Protocol Sllurp.Config Sllurp.Runtime
open Sllurp.Foundations.Program

/-! ## Closed sessions -/

/-- The session is closed: there is no socket, and nothing of the session is
left. -/
structure Closed (client : Client) : Prop where
  socket : client.reader.socket = false
  state : client.state = .disconnected
  pending : client.pendingRequests.pending = .empty
  deferreds : client.deferreds = fun _ => []
  partialData : client.reader.partialData = []
  expectedBytes : client.reader.expectedBytes = 0

theorem closed_hardDisconnect (client : Client) : Closed client.hardDisconnect :=
  ⟨rfl, rfl, rfl, rfl, rfl, rfl⟩

theorem Closed.onDisconnected {client : Client} (hclosed : Closed client) :
    Closed client.onDisconnected :=
  ⟨hclosed.socket, hclosed.state, hclosed.pending, hclosed.deferreds, hclosed.partialData,
    hclosed.expectedBytes⟩

/-- Nothing was processed since the session was closed, and it still is. -/
structure Unprocessed (closed later : Receiver) : Prop where
  decoded : later.decoded = closed.decoded
  delivered : later.delivered = closed.delivered
  registered : later.client.nextSerial = closed.client.nextSerial
  sent : later.client.history = closed.client.history
  state : later.client.state = .disconnected
  partialData : later.client.reader.partialData = []
  expectedBytes : later.client.reader.expectedBytes = 0

/-! ## The receive loop -/

/-- Where the receive loop can be: at the bytes that are left, or between the
callbacks of a message and the state machine, with the bytes behind its frame. -/
inductive Position
  | frames (data : List UInt8)
  | handling (message : LLRPMessage) (data : List UInt8)

/-- What the loop still does. -/
def resumeLoop (handlers : Handlers) : Position → ReceiverM Unit
  | .frames data => do
    receiveFrames handlers data.length data
    finishChunk
  | .handling message data => do
    handleReceived message
    receiveFrames handlers data.length data
    finishChunk

/-- The receiver with a frame at the front of its bytes under way: nothing is
awaited any more, and the message is about to be delivered. -/
def Receiver.opened (receiver : Receiver) (frame : List UInt8) : Receiver :=
  { receiver with
    client := receiver.client.retain receiver.client.reader.partialData 0
    decoded := receiver.decoded ++ [frame] }

/-- The loop gets from one receiver and position to another. -/
inductive Reaches (handlers : Handlers) : Receiver → Position → Receiver → Position → Prop
  | refl (receiver : Receiver) (position : Position) :
    Reaches handlers receiver position receiver position
  | callbacks {start receiver later : Receiver} {position : Position} {data : List UInt8}
      {total : ℕ} {message : LLRPMessage} :
    Reaches handlers start position receiver (.frames data) →
    msgHeaderLen ≤ data.length →
    (messageFormat receiver.client.maxMessageSize).size data = some total →
    total ≤ data.length →
    handlers.decode (data.take total) = .ok message →
    onLlrpMessageReceived handlers message (receiver.opened (data.take total)) =
      (.ok (), later) →
    Reaches handlers start position later (.handling message (data.drop total))
  | handled {start receiver later : Receiver} {position : Position} {data : List UInt8}
      {message : LLRPMessage} :
    Reaches handlers start position receiver (.handling message data) →
    handleReceived message receiver = (.ok (), later) →
    Reaches handlers start position later (.frames data)

/-- Data of the length of the fuel or less needs no more of it. -/
theorem receiveFrames_fuel (handlers : Handlers) {fuel more : ℕ} {data : List UInt8}
    (hfuel : data.length ≤ fuel) (hmore : data.length ≤ more) :
    receiveFrames handlers fuel data = receiveFrames handlers more data := by
  induction fuel generalizing more data with
  | zero =>
    have hempty : data.length = 0 := Nat.le_zero.mp hfuel
    rw [receiveFrames_of_empty handlers hempty, receiveFrames_of_empty handlers hempty]
  | succ fuel ih =>
    by_cases hempty : data.length = 0
    · rw [receiveFrames_of_empty handlers hempty, receiveFrames_of_empty handlers hempty]
    cases more with
    | zero => exact absurd (Nat.le_zero.mp hmore) hempty
    | succ more =>
      rw [receiveFrames, receiveFrames, if_neg hempty, if_neg hempty]
      rcases Nat.lt_or_ge data.length msgHeaderLen with hshort | hheader
      · rw [if_pos hshort, if_pos hshort]
      rw [if_neg (Nat.not_lt.mpr hheader), if_neg (Nat.not_lt.mpr hheader)]
      funext receiver
      rw [Program.run_get_bind, Program.run_get_bind]
      by_cases htotal : (msgHeaderUnpack data).length < msgHeaderLen
      · rw [if_pos htotal, if_pos htotal]
      have hlength : ∀ bound, data.length ≤ bound + 1 →
          (data.drop (msgHeaderUnpack data).length).length ≤ bound := by
        intro bound hbound
        have hpositive : 0 < (msgHeaderUnpack data).length :=
          Nat.lt_of_lt_of_le (by decide) (Nat.not_lt.mp htotal)
        rw [List.length_drop]
        omega
      rw [ih (hlength fuel hfuel) (hlength more hmore)]

/-- A decoded frame goes to the state machine after the callbacks. -/
theorem run_receiveFrame_of_callbacks {handlers : Handlers} {receiver later : Receiver}
    {frame : List UInt8} {message : LLRPMessage} (hdecode : handlers.decode frame = .ok message)
    (hcallbacks : onLlrpMessageReceived handlers message (receiver.opened frame) =
      (.ok (), later)) :
    receiveFrame handlers frame receiver = handleReceived message later := by
  unfold receiveFrame
  rw [Program.run_modify_bind, Program.run_bind, Program.run_ofExcept, hdecode]
  dsimp only
  unfold deliver
  rw [← Receiver.opened, Program.run_bind_ok hcallbacks]

/-- The loop ends where it would have ended from any point on its way. -/
theorem Reaches.resume {handlers : Handlers} {start later : Receiver}
    {first position : Position} (hreach : Reaches handlers start first later position) :
    resumeLoop handlers first start = resumeLoop handlers position later := by
  induction hreach with
  | refl => rfl
  | @callbacks receiver later position data total message _ hheader hsize hcomplete hdecode
      hcallbacks ih =>
    have hnonempty : data.length ≠ 0 := Nat.ne_zero_of_lt hheader
    obtain ⟨fuel, hfuel⟩ := Nat.exists_eq_succ_of_ne_zero hnonempty
    have hframe := run_receiveFrame_of_callbacks hdecode hcallbacks
    have hpositive : 0 < total :=
      Nat.lt_of_lt_of_le (messageFormat receiver.client.maxMessageSize).headerLength_pos
        ((messageFormat receiver.client.maxMessageSize).headerLength_le hsize)
    have hrest : (data.drop total).length ≤ fuel := by
      rw [List.length_drop]
      omega
    rw [ih]
    rw [resumeLoop, resumeLoop, hfuel, Program.run_bind,
      run_receiveFrames_of_complete handlers hheader hsize hcomplete, Program.run_bind, hframe,
      receiveFrames_fuel handlers le_rfl hrest, Program.run_bind]
    rcases handleReceived message later with ⟨_ | _, _⟩ <;> rfl
  | handled _ hhandled ih =>
    rw [ih]
    exact Program.run_bind_ok hhandled

/-! ## Decoded frames -/

/-- Frames that were decoded stay decoded. -/
def decoding : Frame Receiver where
  Rel before after := before.decoded.length ≤ after.decoded.length
  refl _ := le_rfl
  trans := le_trans

theorem onClient_decoding {α : Type} (program : ClientM α) :
    Within decoding (onClient program) := fun _ => le_rfl

theorem deliver_decoding (handlers : Handlers) (message : LLRPMessage) :
    Within decoding (deliver handlers message) :=
  .bind (.bind (.modify fun _ => le_rfl) fun _ => .bind (onClient_decoding _).attempt
    fun _ => .pure ()) fun _ => onClient_decoding _

theorem receiveFrames_decoding (handlers : Handlers) (fuel : ℕ) (data : List UInt8) :
    Within decoding (receiveFrames handlers fuel data) := by
  induction fuel generalizing data with
  | zero => exact .pure ()
  | succ fuel ih =>
    rw [receiveFrames]
    refine .ite (fun _ => .pure ()) fun _ => .ite (fun _ => .modify fun _ => le_rfl) fun _ => ?_
    refine .bind .get fun receiver => .ite (fun _ => .raise _) fun _ =>
      .ite (fun _ => .raise _) fun _ => .ite (fun _ => .modify fun _ => le_rfl) fun _ => ?_
    have hopened : ∀ receiver : Receiver, receiver.decoded.length ≤
        (receiver.decoded ++ [data.take (msgHeaderUnpack data).length]).length := by
      intro receiver
      rw [List.length_append]
      omega
    exact .bind (.bind (.modify hopened) fun _ => .bind (.ofExcept _) fun message =>
      deliver_decoding handlers message) fun _ => ih _

/-- A complete frame at the front of the bytes is decoded. -/
theorem decoded_lt_of_complete (handlers : Handlers) {fuel : ℕ} {data : List UInt8}
    {receiver : Receiver} {total : ℕ} (hheader : msgHeaderLen ≤ data.length)
    (hsize : (messageFormat receiver.client.maxMessageSize).size data = some total)
    (hcomplete : total ≤ data.length) :
    receiver.decoded.length <
      ((receiveFrames handlers (fuel + 1) data).final receiver).decoded.length := by
  have hrest : Within decoding (do
      let message ← Program.ofExcept (handlers.decode (data.take total))
      deliver handlers message : ReceiverM Unit) :=
    .bind (.ofExcept _) fun message => deliver_decoding handlers message
  have hlater := Within.bind hrest
    (fun _ => receiveFrames_decoding handlers fuel (data.drop total))
    (receiver.opened (data.take total))
  have hopened : (receiver.opened (data.take total)).decoded.length =
      receiver.decoded.length + 1 := List.length_append
  rw [Program.final, run_receiveFrames_of_complete handlers hheader hsize hcomplete]
  exact Nat.lt_of_lt_of_le (Nat.lt_of_lt_of_eq (Nat.lt_succ_self _) hopened.symm) hlater

theorem finishChunk_decoding : Within decoding finishChunk :=
  .modify fun receiver => by
    dsimp only [decoding]
    split <;> exact le_rfl

/-! ## What lies behind the end -/

/-- There are no bytes, or their header is refused. -/
def NoFrames (limit : Option ℤ) (data : List UInt8) : Prop :=
  data = [] ∨ (msgHeaderLen ≤ data.length ∧ (messageFormat limit).size data = none)

/-- On a closed session a KEEPALIVE stops the loop, since it cannot be
acknowledged, and so does a notification without its event data. -/
def LLRPMessage.stopsLoop (message : LLRPMessage) : Prop :=
  message.name = .keepalive ∨ (message.name = .readerEventNotification ∧ message.event = none)

/-- Nothing lies behind the position, or something stops the loop first. A
message that is still to be handled must not open the session again. -/
def Position.harmless (limit : Option ℤ) : Position → Prop
  | .frames data => NoFrames limit data
  | .handling message data => message.stopsLoop ∨ (¬ message.opens ∧ NoFrames limit data)

/-- On a closed session, bytes are harmless if there are none, or if their header
is refused. -/
theorem unprocessed_frames_iff (handlers : Handlers) {closed later : Receiver}
    (hlater : Unprocessed closed later) (data : List UInt8) :
    Unprocessed closed ((resumeLoop handlers (.frames data)).final later) ↔
      NoFrames later.client.maxMessageSize data := by
  rw [resumeLoop, Program.final, Program.run_bind]
  by_cases hempty : data.length = 0
  · cases List.eq_nil_of_length_eq_zero hempty
    refine iff_of_true ?_ (Or.inl rfl)
    rw [receiveFrames_of_empty handlers hempty, Program.run_pure]
    dsimp only
    rw [finishChunk, Program.run_modify, if_pos hlater.expectedBytes]
    exact ⟨hlater.decoded, hlater.delivered, hlater.registered, hlater.sent, hlater.state, rfl,
      rfl⟩
  obtain ⟨fuel, hfuel⟩ := Nat.exists_eq_succ_of_ne_zero hempty
  have hdata : data ≠ [] := fun hnil => hempty (by rw [hnil]; rfl)
  -- What is retained of the bytes shows in the buffer.
  have hretained : ∀ total, total ≠ 0 → ¬ Unprocessed closed
      (finishChunk { later with client := later.client.retain data total }).2 := by
    intro total htotal hunprocessed
    have hawaiting : (finishChunk { later with client := later.client.retain data total }).2 =
        { later with client := later.client.retain data total } := if_neg htotal
    rw [hawaiting] at hunprocessed
    exact hdata hunprocessed.partialData
  rw [hfuel]
  rcases Nat.lt_or_ge data.length msgHeaderLen with hshort | hheader
  · rw [receiveFrames_of_short handlers hempty hshort, Program.run_modify]
    refine iff_of_false (hretained msgHeaderLen (by decide)) ?_
    rintro (hnil | ⟨hheader, -⟩)
    · exact hdata hnil
    · omega
  cases hsize : (messageFormat later.client.maxMessageSize).size data with
  | none =>
    obtain ⟨raised, hrun⟩ := run_receiveFrames_of_refused handlers hheader hsize
    rw [hrun]
    exact iff_of_true hlater (Or.inr ⟨hheader, hsize⟩)
  | some total =>
    have hharmful : ¬ NoFrames later.client.maxMessageSize data := by
      rintro (hnil | ⟨-, hnone⟩)
      · exact hdata hnil
      · rw [hsize] at hnone
        cases hnone
    refine iff_of_false ?_ hharmful
    rcases Nat.lt_or_ge data.length total with hincomplete | hcomplete
    · rw [run_receiveFrames_of_incomplete handlers hheader hsize hincomplete]
      exact hretained total (Nat.ne_zero_of_lt hincomplete)
    · intro hunprocessed
      have hdecoded : later.decoded.length <
          ((receiveFrames handlers (fuel + 1) data).final later).decoded.length :=
        decoded_lt_of_complete handlers hheader hsize hcomplete
      have hsame := congrArg List.length (hunprocessed.decoded.trans hlater.decoded.symm)
      unfold Program.final at hdecoded
      rcases hrun : receiveFrames handlers (fuel + 1) data later with ⟨_ | _, after⟩
      · rw [hrun] at hsame hdecoded
        exact absurd hsame (Nat.ne_of_gt hdecoded)
      · rw [hrun] at hsame hdecoded
        have hfinish : after.decoded.length ≤ (finishChunk after).2.decoded.length :=
          finishChunk_decoding after
        exact absurd hsame (Nat.ne_of_gt (Nat.lt_of_lt_of_le hdecoded hfinish))

/-- The closed client with the write refused that comes next. -/
def Client.refusing (client : Client) : Client :=
  { client with writes := [some (.readerConfigurationError "Not connected")] }

theorem run_handleReceived_of_closed {receiver : Receiver} (hclosed : Closed receiver.client)
    (message : LLRPMessage) :
    handleReceived message receiver =
      ((handleMessage message receiver.client.refusing).1,
        { receiver with client := (handleMessage message receiver.client.refusing).2 }) := by
  have hfacing : receiver.client.facingSocket = receiver.client.refusing :=
    if_neg (by rw [hclosed.socket]; exact Bool.false_ne_true)
  unfold handleReceived onClient
  rw [Program.run_modify_bind, hfacing]

/-- Handling a message that stops the loop raises, and changes nothing else. -/
theorem run_handleMessage_of_stopsLoop {client : Client} (hstate : client.state = .disconnected)
    {message : LLRPMessage} (hstops : message.stopsLoop) :
    ∃ raised writes, handleMessage message client.refusing =
      (.error raised, { client with writes }) := by
  rcases hstops with hname | ⟨hname, hevent⟩
  · unfold handleMessage sendKeepaliveAck
    rw [Program.run_get_bind, if_pos hname]
    split
    · exact ⟨_, [], rfl⟩
    · exact ⟨_, _, rfl⟩
  · have hfailed : message.isSuccess = false := by
      rw [LLRPMessage.isSuccess, if_pos hname, hevent]
    have hheeded : ignored client.refusing message = false := by
      simp [ignored, hname, MessageName.isResponse, Client.refusing, hstate, ReaderState.value]
    refine ⟨.missingKey "ReaderEventNotificationData",
      [some (.readerConfigurationError "Not connected")], ?_⟩
    unfold handleMessage
    rw [Program.run_get_bind, if_neg (by rw [hname]; decide), hheeded,
      if_neg Bool.false_ne_true, show client.refusing.state = .disconnected from hstate]
    change handleConnecting message client.refusing = _
    unfold handleConnecting
    rw [if_neg (not_not_intro hname), hfailed, if_pos Bool.not_false, run_readEvent, hevent]
    rfl

/-- Other messages that open no session are ignored. -/
theorem run_handleMessage_of_not_opens {client : Client} (hstate : client.state = .disconnected)
    {message : LLRPMessage} (hstops : ¬ message.stopsLoop) (hopens : ¬ message.opens) :
    handleMessage message client = (.ok (), client) := by
  unfold handleMessage
  rw [Program.run_get_bind, if_neg fun hname => hstops (Or.inl hname)]
  split
  · rfl
  · rw [hstate]
    change handleConnecting message client = _
    unfold handleConnecting
    split
    · rfl
    · rename_i hname
      have hfailed : message.isSuccess = false := by
        by_contra hsuccess
        exact hopens ⟨not_not.mp hname, Bool.not_eq_false _ ▸ hsuccess⟩
      rw [hfailed, if_pos Bool.not_false, run_readEvent]
      cases hevent : message.event with
      | none => exact absurd (Or.inr ⟨not_not.mp hname, hevent⟩) hstops
      | some event => rfl

/-- A request that opens a session takes a serial number, and without a socket it
raises. -/
theorem run_handleMessage_opening {client : Client} (hclosed : Closed client)
    {message : LLRPMessage} (hopens : message.opens) :
    ∃ raised later, handleMessage message client.refusing = (.error raised, later) ∧
      later.nextSerial = client.nextSerial + 1 := by
  have hfree : ∀ name, client.refusing.notDisconnecting.isWaiting name = false := by
    intro name
    unfold Client.isWaiting PendingRequestRegistry.hasResponseType
    rw [show client.refusing.notDisconnecting.pendingRequests.pending = .empty from
      hclosed.pending, show client.refusing.notDisconnecting.deferreds = fun _ => [] from
      hclosed.deferreds]
    rfl
  have hsend : ∀ request name onCompletion newState,
      ∃ raised later, sendRequest request name onCompletion newState
        client.refusing.notDisconnecting = (.error raised, later) ∧
        later.nextSerial = client.nextSerial + 1 := by
    intro request name onCompletion newState
    rw [run_sendRequest (hfree name)]
    exact ⟨_, _, rfl, congrArg Core.nextSerial
      (core_afterFailedSend (hfree name) onCompletion newState)⟩
  have hstate : client.refusing.state = .disconnected := hclosed.state
  have hpending : client.refusing.pendingRequests.pending = .empty := hclosed.pending
  rw [run_handleMessage_of_opens hopens hstate hpending hclosed.deferreds]
  split
  · exact hsend _ _ _ _
  · exact hsend _ _ _ _

/-- On a closed session, a message on its way to the state machine is harmless if
it stops the loop, or if it opens nothing and the bytes behind it are harmless. -/
theorem unprocessed_handling_iff (handlers : Handlers) {closed : Receiver}
    (hclosed : Closed closed.client) (message : LLRPMessage) (data : List UInt8) :
    Unprocessed closed ((resumeLoop handlers (.handling message data)).final closed) ↔
      (Position.handling message data).harmless closed.client.maxMessageSize := by
  have hunchanged : ∀ writes, Unprocessed closed
      { closed with client := { closed.client with writes } } := fun writes =>
    ⟨rfl, rfl, rfl, rfl, hclosed.state, hclosed.partialData, hclosed.expectedBytes⟩
  have hhandled := run_handleReceived_of_closed hclosed message
  rw [resumeLoop, Program.final]
  by_cases hstops : message.stopsLoop
  · obtain ⟨raised, writes, hrun⟩ := run_handleMessage_of_stopsLoop hclosed.state hstops
    rw [hrun] at hhandled
    rw [Program.run_bind_error hhandled]
    exact iff_of_true (hunchanged writes) (Or.inl hstops)
  by_cases hopens : message.opens
  · obtain ⟨raised, later, hrun, hserial⟩ := run_handleMessage_opening hclosed hopens
    rw [hrun] at hhandled
    rw [Program.run_bind_error hhandled]
    refine iff_of_false (fun hunprocessed => ?_) ?_
    · exact Nat.succ_ne_self _ (hserial.symm.trans hunprocessed.registered)
    · rintro (hstopped | ⟨hcloses, -⟩)
      · exact hstops hstopped
      · exact hcloses hopens
  · have hstate : closed.client.refusing.state = .disconnected := hclosed.state
    rw [run_handleMessage_of_not_opens hstate hstops hopens] at hhandled
    rw [Program.run_bind_ok hhandled]
    have hframes := unprocessed_frames_iff handlers
      (hunchanged [some (.readerConfigurationError "Not connected")]) data
    refine hframes.trans ⟨fun hnone => Or.inr ⟨hopens, hnone⟩, ?_⟩
    rintro (hstopped | ⟨-, hnone⟩)
    · exact absurd hstopped hstops
    · exact hnone

/-! ## Chunks -/

/-- The bytes that a chunk makes up with what is retained. -/
def Receiver.joined (receiver : Receiver) (chunk : List UInt8) : List UInt8 :=
  if receiver.client.reader.expectedBytes = 0 then chunk
  else receiver.client.reader.partialData ++ chunk

/-- The receiver as it enters the loop. -/
def Receiver.entering (receiver : Receiver) (chunk : List UInt8) : Receiver :=
  if receiver.client.reader.expectedBytes = 0 then receiver
  else
    { receiver with
      client := receiver.client.retain (receiver.joined chunk)
        receiver.client.reader.expectedBytes }

/-- A chunk that has what is awaited enters the loop. -/
theorem run_rawDataReceived_of_enough (handlers : Handlers) {receiver : Receiver}
    {chunk : List UInt8}
    (henough : receiver.client.reader.expectedBytes ≤ (receiver.joined chunk).length) :
    rawDataReceived handlers chunk receiver =
      resumeLoop handlers (.frames (receiver.joined chunk)) (receiver.entering chunk) := by
  unfold rawDataReceived
  rw [Program.run_get_bind]
  unfold Receiver.entering
  by_cases hexpected : receiver.client.reader.expectedBytes = 0
  · have hjoined : receiver.joined chunk = chunk := if_pos hexpected
    dsimp only
    rw [if_pos hexpected, if_pos hexpected, hjoined, resumeLoop]
  · have hjoined : receiver.joined chunk = receiver.client.reader.partialData ++ chunk :=
      if_neg hexpected
    rw [hjoined] at henough ⊢
    dsimp only
    rw [if_neg hexpected, if_neg hexpected, Program.run_modify_bind,
      if_neg (Nat.not_lt.mpr henough), resumeLoop]

/-- When the session is closed while a chunk is processed, nothing more of the
chunk is processed exactly when nothing harmful lies behind. -/
theorem closed_session_unprocessed_iff {handlers : Handlers} {receiver closed : Receiver}
    {chunk : List UInt8} {position : Position}
    (henough : receiver.client.reader.expectedBytes ≤ (receiver.joined chunk).length)
    (hreach : Reaches handlers (receiver.entering chunk) (.frames (receiver.joined chunk))
      closed position)
    (hclosed : Closed closed.client) :
    Unprocessed closed ((rawDataReceived handlers chunk).final receiver) ↔
      position.harmless closed.client.maxMessageSize := by
  have hresume := hreach.resume
  rw [Program.final, run_rawDataReceived_of_enough handlers henough, hresume]
  cases position with
  | frames data =>
    exact unprocessed_frames_iff handlers ⟨rfl, rfl, rfl, rfl, hclosed.state,
      hclosed.partialData, hclosed.expectedBytes⟩ data
  | handling message data => exact unprocessed_handling_iff handlers hclosed message data

/-! ## Two reports in one chunk -/

/-- An empty report of tags. -/
def reportFrame : List UInt8 := [4, 61, 0, 0, 0, 10, 0, 0, 0, 0]

/-- An application that closes the session at the first message it hears of. -/
def closingHandlers : Handlers where
  decode frame :=
    if frame = reportFrame then
      .ok { name := .roAccessReport, id := 0, statusOfResponse := fun h => nomatch h }
    else .error (.llrpError "Cannot find decoder for message type")
  onMessage _ := .modify Client.hardDisconnect

/-- The receiver after the callbacks of a first report closed the session. -/
def closedByReport : Receiver where
  client := (listening.opened reportFrame).client.hardDisconnect
  decoded := [reportFrame]
  delivered := [{ name := .roAccessReport, id := 0, statusOfResponse := fun h => nomatch h }]

/-- The callbacks of the first report of a chunk close the session. -/
theorem reaches_closedByReport (rest : List UInt8) :
    Reaches closingHandlers (listening.entering (reportFrame ++ rest))
      (.frames (listening.joined (reportFrame ++ rest))) closedByReport
      (.handling { name := .roAccessReport, id := 0, statusOfResponse := fun h => nomatch h }
        rest) := by
  have hsize : (messageFormat listening.client.maxMessageSize).size (reportFrame ++ rest) =
      some 10 := by
    rw [(messageFormat _).size_append rest (show 10 ≤ reportFrame.length by decide)]
    decide +kernel
  have htake : (reportFrame ++ rest).take 10 = reportFrame :=
    List.take_append_of_le_length (by decide)
  have hheader : 10 ≤ (reportFrame ++ rest).length := by
    rw [List.length_append]
    exact Nat.le_add_right 10 _
  exact .callbacks (.refl listening (.frames (reportFrame ++ rest))) hheader hsize hheader
    (by rw [htake]; rfl) (by rw [htake]; rfl)

/-- A report that ends the chunk is the last thing that is processed. -/
theorem closed_session_unprocessed_lastReport :
    Unprocessed closedByReport ((rawDataReceived closingHandlers reportFrame).final listening) := by
  have hreach := reaches_closedByReport []
  rw [List.append_nil] at hreach
  refine (closed_session_unprocessed_iff (Nat.zero_le _) hreach (closed_hardDisconnect _)).mpr
    (Or.inr ⟨?_, Or.inl rfl⟩)
  rintro ⟨hconnects, -⟩
  cases hconnects

/-- A second report in the chunk is decoded and delivered on the closed session. -/
theorem closed_session_processed :
    Reaches closingHandlers (listening.entering (reportFrame ++ reportFrame))
        (.frames (listening.joined (reportFrame ++ reportFrame))) closedByReport
        (.handling { name := .roAccessReport, id := 0, statusOfResponse := fun h => nomatch h }
          reportFrame) ∧
      Closed closedByReport.client ∧
      ((rawDataReceived closingHandlers (reportFrame ++ reportFrame)).final
        listening).delivered.length = 2 ∧
      ¬ Unprocessed closedByReport
        ((rawDataReceived closingHandlers (reportFrame ++ reportFrame)).final listening) := by
  have hdelivered : ((rawDataReceived closingHandlers (reportFrame ++ reportFrame)).final
      listening).delivered.length = 2 := by decide +kernel
  refine ⟨reaches_closedByReport reportFrame, closed_hardDisconnect _, hdelivered,
    fun hunprocessed => ?_⟩
  rw [hunprocessed.delivered] at hdelivered
  cases hdelivered

end Sllurp.Session
