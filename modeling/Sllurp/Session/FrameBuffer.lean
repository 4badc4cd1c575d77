/-
# What is retained between chunks

The reader's length fields decide how many bytes the client waits for, so that they
are bounded by the frame size limit before anything is retained for them. Between two
chunks the buffer is empty, or it holds the start of one frame: fewer bytes than a
header has, or a header that was accepted and fewer bytes than it announces. Nothing
that handles a message makes the client wait for bytes, not even the end of the
session.
-/

import Sllurp.Session.ClosedSession
import Sllurp.Session.Fitting

namespace Sllurp.Session

open Sllurp.Foundations Sllurp.Protocol Sllurp.Config Sllurp.Runtime
open Sllurp.Foundations.Program

/-! ## Idle clients -/

/-- The client awaits no bytes, and all its configurations have the frame size limit. The
buffer has certain bytes, unless it was emptied. -/
structure Idle (limit : ℤ) (buffered : List UInt8) (client : Client) : Prop where
  expectedBytes : client.reader.expectedBytes = 0
  limits : ∀ ref, (client.configs ref).maxMessageSize = some limit
  partialData : client.reader.partialData = [] ∨ client.reader.partialData = buffered

section Idle

variable {limit : ℤ} {buffered : List UInt8}

theorem Idle.of_link {before after : Client} (hlink : after.link = before.link)
    (hidle : Idle limit buffered before) : Idle limit buffered after where
  expectedBytes := by
    have hexpected : after.reader.expectedBytes = before.reader.expectedBytes :=
      congrArg (·.1.2.2.2.1) hlink
    rw [hexpected, hidle.expectedBytes]
  limits ref := (congrFun (congrArg Prod.snd hlink) ref).trans (hidle.limits ref)
  partialData := by
    have hbuffer : after.reader.partialData = before.reader.partialData :=
      congrArg (·.1.2.2.2.2) hlink
    rw [hbuffer]
    exact hidle.partialData

/-- A state change is not seen by the receive path. -/
theorem setState_link (client : Client) (newState : ReaderState) :
    (client.setState newState).link = client.link := by
  have hreader : ∀ config : LLRPReaderConfig,
      let changed := client.reader.onLlrpStateChanged config newState
      (changed.socket, changed.disconnectRequested, client.disconnecting,
          changed.expectedBytes, changed.partialData) =
        (client.reader.socket, client.reader.disconnectRequested, client.disconnecting,
          client.reader.expectedBytes, client.reader.partialData) := by
    intro config
    unfold Reader.onLlrpStateChanged
    split
    · cases newState <;> rfl
    · rfl
  exact congrArg (·, fun ref => (client.configs ref).maxMessageSize) (hreader _)

theorem withdraw_link (client : Client) (request : PendingRequest Callback)
    (newState : Option ReaderState) (previous : ReaderState) :
    (client.withdraw request newState previous).link = client.link := by
  unfold Client.withdraw
  dsimp only
  split
  · exact setState_link _ previous
  · rfl

/-- A lost connection leaves nothing awaited, and the buffer empty. -/
theorem Idle.onLostConnection {client : Client} (hidle : Idle limit buffered client)
    (retried : Bool) : Idle limit buffered (client.onLostConnection retried) := by
  have hlimits := (hidle.of_link (setState_link client .disconnected)).limits
  unfold Client.onLostConnection
  dsimp only
  split
  · exact ⟨rfl, hlimits, .inl rfl⟩
  · split
    · exact ⟨rfl, hlimits, .inl rfl⟩
    · exact ⟨rfl, hlimits, .inl rfl⟩

theorem idle_write (serial : Option ℕ) (messageId : ℕ) (request : Request) :
    Within (Frame.invariant (Idle limit buffered)) (Session.write serial messageId request) := by
  intro client hidle
  rw [run_write]
  cases client.nextWrite with
  | none => exact ⟨hidle.expectedBytes, hidle.limits, hidle.partialData⟩
  | some raised => exact ⟨hidle.expectedBytes, hidle.limits, hidle.partialData⟩

theorem idle_sendRequest (request : Request) (name : MessageName) (onCompletion : Callback)
    (newState : Option ReaderState) :
    Within (Frame.invariant (Idle limit buffered))
      (Session.sendRequest request name onCompletion newState) := by
  unfold Session.sendRequest
  refine .bind .get fun client => .ite (fun _ => .raise _) fun _ => ?_
  refine .bind (.modify fun client hidle =>
    ⟨hidle.expectedBytes, hidle.limits, hidle.partialData⟩) fun _ => ?_
  cases client.pendingRequests.register (client.nextPending name onCompletion) with
  | error raised => exact .raise _
  | ok registry =>
    refine .bind (.modify fun client hidle => ?_) fun _ => .handle (idle_write _ _ _) fun _ => ?_
    · have hregistered : Idle limit buffered (client.setRegistry registry) :=
        ⟨hidle.expectedBytes, hidle.limits, hidle.partialData⟩
      cases newState with
      | none => exact hregistered
      | some state => exact hregistered.of_link (setState_link _ state)
    · exact .bind (.modify fun client hidle => hidle.of_link (withdraw_link client _ _ _))
        fun _ => .raise _

/-- Whatever the client does, it stays idle. -/
theorem idle_handling (limit : ℤ) (buffered : List UInt8) :
    Handling (Frame.invariant (Idle limit buffered)) where
  neutral _ hlink hidle := hidle.of_link hlink
  setState client newState _ hidle := hidle.of_link (setState_link client newState)
  anyState client newState hidle := hidle.of_link (setState_link client newState)
  sendRequest request name onCompletion newState _ _ _ _ :=
    idle_sendRequest request name onCompletion newState
  countMessage _ _ hidle := ⟨hidle.expectedBytes, hidle.limits, hidle.partialData⟩
  write messageId request _ := idle_write none messageId request
  stopping _ _ hidle := ⟨hidle.expectedBytes, hidle.limits, hidle.partialData⟩
  ending _ hidle := ⟨hidle.expectedBytes, hidle.limits, hidle.partialData⟩
  hardDisconnect _ hidle := ⟨rfl, hidle.limits, .inl rfl⟩
  onLostConnection _ retried hidle := hidle.onLostConnection retried
  connect _ := by
    unfold Session.connect
    refine .bind .get fun client => .ite (fun _ => .raise _) fun _ => ?_
    refine .bind (.modify fun client hidle => ⟨rfl, hidle.limits, .inl rfl⟩) fun _ =>
      .ite (fun _ => .raise _) fun _ => ?_
    exact .modify fun client hidle => ⟨hidle.expectedBytes, hidle.limits, hidle.partialData⟩
  notDisconnecting _ hidle := ⟨hidle.expectedBytes, hidle.limits, hidle.partialData⟩
  completed _ _ _ _ _ hidle := ⟨hidle.expectedBytes, hidle.limits, hidle.partialData⟩
  cleared _ _ hidle := ⟨hidle.expectedBytes, hidle.limits, hidle.partialData⟩
  invoked _ _ _ hidle := ⟨hidle.expectedBytes, hidle.limits, hidle.partialData⟩

end Idle

/-! ## Delivering a message -/

/-- The application's callbacks do not make the client await bytes, put nothing into the
buffer and leave the frame size limit alone. They may call the client, and close the
session. -/
def Handlers.Idle (handlers : Handlers) (limit : ℤ) : Prop :=
  ∀ buffered message,
    Within (Frame.invariant (Session.Idle limit buffered)) (handlers.onMessage message)

section Delivery

variable {handlers : Handlers} {limit : ℤ} {buffered : List UInt8}

/-- A program of the client, as the receive path runs it. -/
theorem idle_onClient {α : Type} {program : ClientM α}
    (hprogram : Within (Frame.invariant (Idle limit buffered)) program) :
    Within (Frame.invariant fun receiver : Receiver => Idle limit buffered receiver.client)
      (onClient program) :=
  fun receiver hidle => hprogram receiver.client hidle

theorem idle_onLlrpMessageReceived (hhandlers : handlers.Idle limit) (message : LLRPMessage) :
    Within (Frame.invariant fun receiver : Receiver => Idle limit buffered receiver.client)
      (onLlrpMessageReceived handlers message) :=
  .bind (.modify fun _ hidle => hidle) fun _ =>
    .bind (idle_onClient (hhandlers buffered message)).attempt fun _ => .pure ()

theorem idle_handleReceived (message : LLRPMessage) :
    Within (Frame.invariant fun receiver : Receiver => Idle limit buffered receiver.client)
      (handleReceived message) := by
  have hfacing : ∀ client : Client,
      Idle limit buffered client → Idle limit buffered client.facingSocket := by
    intro client hidle
    unfold Client.facingSocket
    split
    · exact hidle
    · exact ⟨hidle.expectedBytes, hidle.limits, hidle.partialData⟩
  exact idle_onClient
    (.bind (.modify hfacing) fun _ => (idle_handling limit buffered).handleMessage message)

/-- Decoding and delivering a frame leaves the client idle. -/
theorem idle_receiveFrame (hhandlers : handlers.Idle limit) (frame : List UInt8)
    {receiver : Receiver}
    (hlimits : ∀ ref, (receiver.client.configs ref).maxMessageSize = some limit) :
    Idle limit receiver.client.reader.partialData
      ((receiveFrame handlers frame).final receiver).client := by
  have hdelivered : Within (Frame.invariant fun later : Receiver =>
      Idle limit receiver.client.reader.partialData later.client)
      (do
        let message ← Program.ofExcept (handlers.decode frame)
        deliver handlers message : ReceiverM Unit) :=
    .bind (.ofExcept _) fun message =>
      .bind (idle_onLlrpMessageReceived hhandlers message) fun _ => idle_handleReceived message
  exact hdelivered (receiver.opened frame) ⟨rfl, hlimits, .inr rfl⟩

end Delivery

/-! ## The buffer -/

/-- What is retained between chunks: nothing, or less of one frame than is awaited of it. -/
def Client.Bounded (limit : ℤ) (client : Client) : Prop :=
  client.reader.expectedBytes = 0 ∧ client.reader.partialData = [] ∨
    0 < client.reader.partialData.length ∧
      client.reader.partialData.length < client.reader.expectedBytes ∧
      (client.reader.expectedBytes : ℤ) ≤ limit

/-- A header is awaited, or the frame of an accepted header. -/
def Client.Awaits (limit : ℤ) (client : Client) : Prop :=
  client.reader.partialData.length < msgHeaderLen ∧
      client.reader.expectedBytes = msgHeaderLen ∨
    msgHeaderLen ≤ client.reader.partialData.length ∧
      (messageFormat (some limit)).size client.reader.partialData =
        some client.reader.expectedBytes

/-- The start of a frame is retained. -/
structure Started (limit : ℤ) (client : Client) : Prop where
  nonempty : 0 < client.reader.partialData.length
  incomplete : client.reader.partialData.length < client.reader.expectedBytes
  awaits : client.Awaits limit

/-- Between two chunks. -/
structure Resting (limit : ℤ) (client : Client) : Prop where
  limits : ∀ ref, (client.configs ref).maxMessageSize = some limit
  buffer : client.reader.expectedBytes = 0 ∧ client.reader.partialData = [] ∨
    Started limit client

section Buffer

variable {handlers : Handlers} {limit : ℤ}

theorem size_le_limit {data : List UInt8} {total : ℕ}
    (hsize : (messageFormat (some limit)).size data = some total) : (total : ℤ) ≤ limit := by
  obtain ⟨-, -, hlarge⟩ := size_eq_some hsize
  simpa using hlarge

theorem Resting.bounded (hlimit : (msgHeaderLen : ℤ) ≤ limit) {client : Client}
    (hresting : Resting limit client) : client.Bounded limit := by
  rcases hresting.buffer with hempty | ⟨hnonempty, hincomplete, ⟨-, hheader⟩ | ⟨-, hsize⟩⟩
  · exact .inl hempty
  · exact .inr ⟨hnonempty, hincomplete, hheader ▸ hlimit⟩
  · exact .inr ⟨hnonempty, hincomplete, size_le_limit hsize⟩

/-- Where the frames of the data end, nothing is awaited or the start of the next one is
retained. The induction is on the fuel: each frame takes some of the data. -/
theorem receiveFrames_rests (hhandlers : handlers.Idle limit) {fuel : ℕ} {data : List UInt8}
    {receiver later : Receiver} (hfuel : data.length ≤ fuel)
    (hlimits : ∀ ref, (receiver.client.configs ref).maxMessageSize = some limit)
    (hexpected : data.length = 0 → receiver.client.reader.expectedBytes = 0)
    (hrun : receiveFrames handlers fuel data receiver = (.ok (), later)) :
    (∃ buffered, Idle limit buffered later.client) ∨
      (∀ ref, (later.client.configs ref).maxMessageSize = some limit) ∧
        Started limit later.client := by
  induction fuel generalizing data receiver with
  | zero =>
    cases hrun
    exact .inl ⟨_, hexpected (Nat.le_zero.mp hfuel), hlimits, .inr rfl⟩
  | succ fuel ih =>
    by_cases hdata : data.length = 0
    · rw [receiveFrames_of_empty handlers hdata] at hrun
      cases hrun
      exact .inl ⟨_, hexpected hdata, hlimits, .inr rfl⟩
    rcases Nat.lt_or_ge data.length msgHeaderLen with hshort | hheader
    · rw [receiveFrames_of_short handlers hdata hshort] at hrun
      cases hrun
      exact .inr ⟨hlimits, Nat.pos_of_ne_zero hdata, hshort, .inl ⟨hshort, rfl⟩⟩
    have hlimit : receiver.client.maxMessageSize = some limit := hlimits _
    cases hsize : (messageFormat receiver.client.maxMessageSize).size data with
    | none =>
      obtain ⟨raised, hrefused⟩ := run_receiveFrames_of_refused handlers hheader hsize
      rw [hrefused] at hrun
      cases hrun
    | some total =>
      rcases Nat.lt_or_ge data.length total with hincomplete | hcomplete
      · rw [run_receiveFrames_of_incomplete handlers hheader hsize hincomplete] at hrun
        cases hrun
        rw [hlimit] at hsize
        exact .inr ⟨hlimits, Nat.pos_of_ne_zero hdata, hincomplete, .inr ⟨hheader, hsize⟩⟩
      · rw [run_receiveFrames_of_complete handlers hheader hsize hcomplete] at hrun
        obtain ⟨_, next, hframe, hrest⟩ := Program.bind_eq_ok_iff.mp hrun
        have hidle : Idle limit receiver.client.reader.partialData next.client := by
          have hframes := idle_receiveFrame hhandlers (data.take total) hlimits
          rwa [Program.final, hframe] at hframes
        have hpositive : 0 < total :=
          Nat.lt_of_lt_of_le (messageFormat _).headerLength_pos
            ((messageFormat _).headerLength_le hsize)
        have hlength : (data.drop total).length ≤ fuel := by
          rw [List.length_drop]
          omega
        exact ih hlength hidle.limits (fun _ => hidle.expectedBytes) hrest

/-- A chunk that falls short of what is awaited is retained. -/
theorem run_rawDataReceived_of_short (handlers : Handlers) {receiver : Receiver}
    {chunk : List UInt8}
    (hshort : (receiver.joined chunk).length < receiver.client.reader.expectedBytes) :
    rawDataReceived handlers chunk receiver = (.ok (), receiver.entering chunk) := by
  have hexpected : receiver.client.reader.expectedBytes ≠ 0 := Nat.ne_zero_of_lt hshort
  unfold rawDataReceived Receiver.entering
  rw [Receiver.joined, if_neg hexpected] at hshort ⊢
  rw [Program.run_get_bind]
  dsimp only
  rw [if_neg hexpected, if_neg hexpected, Program.run_modify_bind, if_pos hshort]
  rfl

/-- The start of a frame that is still awaited goes on with the chunk. -/
theorem Started.entering {receiver : Receiver} (hstarted : Started limit receiver.client)
    {chunk : List UInt8}
    (hshort : (receiver.joined chunk).length < receiver.client.reader.expectedBytes) :
    Started limit (receiver.entering chunk).client := by
  have hexpected : receiver.client.reader.expectedBytes ≠ 0 := Nat.ne_zero_of_lt hshort
  rw [Receiver.entering, if_neg hexpected]
  rw [Receiver.joined, if_neg hexpected] at hshort ⊢
  refine ⟨?_, hshort, ?_⟩
  · change 0 < (_ ++ chunk).length
    rw [List.length_append]
    exact Nat.add_pos_left hstarted.nonempty _
  · rcases hstarted.awaits with ⟨-, hheader⟩ | ⟨hheader, hsize⟩
    · exact .inl ⟨hheader ▸ hshort, hheader⟩
    · refine .inr ⟨?_, ?_⟩
      · change msgHeaderLen ≤ (_ ++ chunk).length
        rw [List.length_append]
        exact Nat.le_add_right_of_le hheader
      · exact ((messageFormat (some limit)).size_append chunk hheader).trans hsize

theorem entering_limits {receiver : Receiver} (chunk : List UInt8)
    (hlimits : ∀ ref, (receiver.client.configs ref).maxMessageSize = some limit) :
    ∀ ref, ((receiver.entering chunk).client.configs ref).maxMessageSize = some limit := by
  unfold Receiver.entering
  split
  · exact hlimits
  · exact hlimits

/-- Consuming a chunk to its end leaves the client between two chunks. -/
theorem Resting.rawDataReceived (hhandlers : handlers.Idle limit) {receiver later : Receiver}
    (hresting : Resting limit receiver.client) {chunk : List UInt8}
    (hrun : Session.rawDataReceived handlers chunk receiver = (.ok (), later)) :
    Resting limit later.client := by
  have hentering := entering_limits chunk hresting.limits
  rcases Nat.lt_or_ge (receiver.joined chunk).length receiver.client.reader.expectedBytes with
    hshort | henough
  · rw [run_rawDataReceived_of_short handlers hshort] at hrun
    cases hrun
    rcases hresting.buffer with ⟨hexpected, -⟩ | hstarted
    · exact absurd hexpected (Nat.ne_zero_of_lt hshort)
    · exact ⟨hentering, .inr (hstarted.entering hshort)⟩
  · rw [run_rawDataReceived_of_enough handlers henough] at hrun
    obtain ⟨_, next, hframes, hfinish⟩ := Program.bind_eq_ok_iff.mp hrun
    have hexpected : (receiver.joined chunk).length = 0 →
        (receiver.entering chunk).client.reader.expectedBytes = 0 := by
      intro hempty
      have hzero : receiver.client.reader.expectedBytes = 0 := by omega
      rw [Receiver.entering, if_pos hzero]
      exact hzero
    rw [finishChunk, Program.run_modify] at hfinish
    rcases receiveFrames_rests hhandlers le_rfl hentering hexpected hframes with
      ⟨_, hidle⟩ | ⟨hlimits, hstarted⟩
    · rw [if_pos hidle.expectedBytes] at hfinish
      cases hfinish
      exact ⟨hidle.limits, .inl ⟨rfl, rfl⟩⟩
    · rw [if_neg (Nat.ne_zero_of_lt hstarted.incomplete)] at hfinish
      cases hfinish
      exact ⟨hlimits, .inr hstarted⟩

/-- So does consuming all of them. -/
theorem Resting.receiveChunks (hhandlers : handlers.Idle limit) {receiver later : Receiver}
    (hresting : Resting limit receiver.client) {chunks : List (List UInt8)}
    (hrun : Session.receiveChunks handlers chunks receiver = (.ok (), later)) :
    Resting limit later.client := by
  induction chunks generalizing receiver with
  | nil =>
    cases hrun
    exact hresting
  | cons chunk chunks ih =>
    obtain ⟨_, next, hchunk, hrest⟩ := Program.bind_eq_ok_iff.mp hrun
    exact ih (hresting.rawDataReceived hhandlers hchunk) hrest

/-! ## Refused headers -/

/-- The header declares a length that is impossible or over the limit. -/
def Refused (limit : ℤ) (data : List UInt8) : Prop :=
  (msgHeaderUnpack data).length < msgHeaderLen ∨ limit < ((msgHeaderUnpack data).length : ℤ)

theorem size_of_refused {data : List UInt8} (hrefused : Refused limit data) :
    (messageFormat (some limit)).size data = none := by
  unfold messageFormat
  dsimp only
  rcases hrefused with hshort | hlarge
  · rw [if_pos hshort]
  · split
    · rfl
    · rw [if_pos (by simpa using hlarge)]

/-- A refused header ends the call with an LLRP error. -/
theorem run_receiveFrames_of_header (handlers : Handlers) {data : List UInt8}
    {receiver : Receiver} (hlimit : receiver.client.maxMessageSize = some limit)
    (hheader : msgHeaderLen ≤ data.length) (hrefused : Refused limit data) :
    ∃ text, receiveFrames handlers data.length data receiver =
      (.error (.llrpError text), receiver) := by
  have hnonempty : data.length ≠ 0 := Nat.ne_zero_of_lt hheader
  obtain ⟨fuel, hfuel⟩ := Nat.exists_eq_succ_of_ne_zero hnonempty
  rw [hfuel, receiveFrames, if_neg hnonempty, if_neg (Nat.not_lt.mpr hheader),
    Program.run_get_bind, hlimit]
  by_cases htotal : (msgHeaderUnpack data).length < msgHeaderLen
  · rw [if_pos htotal]
    exact ⟨_, rfl⟩
  · have hlarge := hrefused.resolve_left htotal
    rw [if_neg htotal, if_pos (by simpa using hlarge)]
    exact ⟨_, rfl⟩

/-- While more of a frame is awaited, no frame can be taken off. -/
theorem position_of_short {start later : Receiver} {first position : Position}
    (hreach : Reaches handlers start first later position)
    (hlimits : ∀ ref, (start.client.configs ref).maxMessageSize = some limit)
    (hstarted : Started limit start.client)
    (hfirst : first = .frames start.client.reader.partialData) :
    later = start ∧ position = .frames start.client.reader.partialData := by
  induction hreach with
  | refl => exact ⟨rfl, hfirst⟩
  | callbacks _ hheader hsize hcomplete _ _ ih =>
    obtain ⟨hsame, hposition⟩ := ih hfirst
    cases hposition
    rw [hsame, Client.maxMessageSize, hlimits] at hsize
    have hincomplete := hstarted.incomplete
    rcases hstarted.awaits with ⟨hshort, -⟩ | ⟨-, hawaited⟩
    · omega
    · cases hsize.symm.trans hawaited
      omega
  | handled _ _ ih =>
    obtain ⟨-, hposition⟩ := ih hfirst
    cases hposition

/-- On its way through a chunk the client is idle between the callbacks of a message and
the state machine. The frame size limit stays, and the buffer is as it was or empty. Once
a frame was taken off, nothing is awaited. -/
theorem buffer_of_reaches (hhandlers : handlers.Idle limit) {start later : Receiver}
    {first position : Position} (hreach : Reaches handlers start first later position)
    (hlimits : ∀ ref, (start.client.configs ref).maxMessageSize = some limit)
    {data : List UInt8} (hfirst : first = .frames data) :
    later = start ∧ position = first ∨
      Idle limit start.client.reader.partialData later.client := by
  induction hreach with
  | refl => exact .inl ⟨rfl, rfl⟩
  | @callbacks receiver later position data total message _ _ _ _ _ hcallbacks ih =>
    have hopened : Idle limit start.client.reader.partialData
        (receiver.opened (data.take total)).client := by
      rcases ih hfirst with ⟨rfl, -⟩ | hidle
      · exact ⟨rfl, hlimits, .inr rfl⟩
      · exact ⟨rfl, hidle.limits, hidle.partialData⟩
    have hlater := idle_onLlrpMessageReceived hhandlers message _ hopened
    rw [hcallbacks] at hlater
    exact .inr hlater
  | @handled receiver later position data message _ hhandled ih =>
    rcases ih hfirst with ⟨-, hposition⟩ | hidle
    · rw [hfirst] at hposition
      cases hposition
    · have hlater := idle_handleReceived message receiver hidle
      rw [hhandled] at hlater
      exact .inr hlater

/-- The call in which a refused header is complete raises an LLRP error there, whatever
else it has received. -/
theorem Resting.run_rawDataReceived_of_refused (hhandlers : handlers.Idle limit)
    {receiver refused : Receiver} (hresting : Resting limit receiver.client)
    {chunk data : List UInt8}
    (hreach : Reaches handlers (receiver.entering chunk) (.frames (receiver.joined chunk)) refused
      (.frames data))
    (hheader : msgHeaderLen ≤ data.length) (hrefused : Refused limit data) :
    ∃ text, Session.rawDataReceived handlers chunk receiver =
      (.error (.llrpError text), refused) := by
  have hentering := entering_limits chunk hresting.limits
  rcases Nat.lt_or_ge (receiver.joined chunk).length receiver.client.reader.expectedBytes with
    hshort | henough
  · exfalso
    have hexpected : receiver.client.reader.expectedBytes ≠ 0 := Nat.ne_zero_of_lt hshort
    have hstarted : Started limit (receiver.entering chunk).client := by
      rcases hresting.buffer with ⟨hzero, -⟩ | hstarted
      · exact absurd hzero hexpected
      · exact hstarted.entering hshort
    have hjoined : receiver.joined chunk = (receiver.entering chunk).client.reader.partialData := by
      rw [Receiver.entering, if_neg hexpected]
      rfl
    obtain ⟨-, hposition⟩ :=
      position_of_short hreach hentering hstarted (congrArg Position.frames hjoined)
    cases hposition
    rcases hstarted.awaits with ⟨hincomplete, -⟩ | ⟨-, hsize⟩
    · exact absurd hheader (Nat.not_le.mpr hincomplete)
    · rw [size_of_refused hrefused] at hsize
      cases hsize
  · have hlimit : refused.client.maxMessageSize = some limit := by
      rcases buffer_of_reaches hhandlers hreach hentering rfl with ⟨rfl, -⟩ | hidle
      · exact hentering _
      · exact hidle.limits _
    obtain ⟨text, hraised⟩ := run_receiveFrames_of_header handlers hlimit hheader hrefused
    refine ⟨text, ?_⟩
    rw [run_rawDataReceived_of_enough handlers henough, hreach.resume]
    exact Program.run_bind_error hraised

/-- The length of a refused header is not awaited. In the buffer is nothing, unless the
start of a frame was: then it has that and the chunk. -/
theorem Resting.buffer_of_refused (hhandlers : handlers.Idle limit)
    {receiver refused : Receiver} (hresting : Resting limit receiver.client)
    {chunk data : List UInt8}
    (hreach : Reaches handlers (receiver.entering chunk) (.frames (receiver.joined chunk)) refused
      (.frames data))
    (hrefused : Refused limit data) :
    (refused.client.reader.expectedBytes = 0 ∨
        refused.client.reader.expectedBytes = msgHeaderLen) ∧
      (refused.client.reader.partialData = [] ∨
        receiver.client.reader.partialData ≠ [] ∧
          refused.client.reader.partialData = receiver.client.reader.partialData ++ chunk) := by
  have hentering : (receiver.entering chunk).client.reader.partialData = [] ∨
      receiver.client.reader.partialData ≠ [] ∧
        (receiver.entering chunk).client.reader.partialData =
          receiver.client.reader.partialData ++ chunk := by
    rcases hresting.buffer with ⟨hexpected, hempty⟩ | hstarted
    · rw [Receiver.entering, if_pos hexpected]
      exact .inl hempty
    · have hexpected := Nat.ne_zero_of_lt hstarted.incomplete
      rw [Receiver.entering, if_neg hexpected, Receiver.joined, if_neg hexpected]
      exact .inr ⟨List.ne_nil_of_length_pos hstarted.nonempty, rfl⟩
  rcases buffer_of_reaches hhandlers hreach (entering_limits chunk hresting.limits) rfl with
    ⟨rfl, hposition⟩ | hidle
  · refine ⟨?_, hentering⟩
    cases hposition
    rcases hresting.buffer with ⟨hexpected, -⟩ | hstarted
    · rw [Receiver.entering, if_pos hexpected]
      exact .inl hexpected
    · have hexpected := Nat.ne_zero_of_lt hstarted.incomplete
      rw [Receiver.joined, if_neg hexpected] at hrefused
      rw [Receiver.entering, if_neg hexpected]
      rcases hstarted.awaits with ⟨-, hheader⟩ | ⟨hheader, hsize⟩
      · exact .inr hheader
      · have haccepted := ((messageFormat (some limit)).size_append chunk hheader).trans hsize
        rw [size_of_refused hrefused] at haccepted
        cases haccepted
  · refine ⟨.inl hidle.expectedBytes, ?_⟩
    rcases hidle.partialData with hempty | hkept
    · exact .inl hempty
    · rw [hkept]
      exact hentering

end Buffer

/-! ## The bound -/

/-- After any chunks the buffer is empty or holds less than it awaits, which is at most the
limit. What it holds is less than a header or has an accepted one. The call in which a
refused header is complete raises an LLRP error and awaits nothing of the frame. It leaves
the buffer empty, or the bytes that were retained before it with its chunk, and the receive
loop empties the buffer on the error. -/
theorem frame_buffer_bounded {handlers : Handlers} {limit : ℤ}
    (hlimit : (msgHeaderLen : ℤ) ≤ limit) (hhandlers : handlers.Idle limit)
    {receiver later : Receiver} (hidle : Idle limit [] receiver.client)
    {chunks : List (List UInt8)} (hrun : receiveChunks handlers chunks receiver = (.ok (), later)) :
    later.client.Bounded limit ∧
      (later.client.reader.partialData.length < msgHeaderLen ∨
        ¬ Refused limit later.client.reader.partialData ∧
          later.client.reader.expectedBytes =
            (msgHeaderUnpack later.client.reader.partialData).length) ∧
      ∀ (chunk data : List UInt8) (refused : Receiver),
        Reaches handlers (later.entering chunk) (.frames (later.joined chunk)) refused
          (.frames data) →
        msgHeaderLen ≤ data.length → Refused limit data →
        ∃ text, rawDataReceived handlers chunk later = (.error (.llrpError text), refused) ∧
          (refused.client.reader.expectedBytes = 0 ∨
            refused.client.reader.expectedBytes = msgHeaderLen) ∧
          (refused.client.reader.partialData = [] ∨
            later.client.reader.partialData ≠ [] ∧
              refused.client.reader.partialData = later.client.reader.partialData ++ chunk) ∧
          ∀ retried, (refused.client.afterException (.llrpError text)
            retried).reader.partialData = [] := by
  have hempty : receiver.client.reader.partialData = [] := hidle.partialData.elim id id
  have hresting : Resting limit later.client :=
    Resting.receiveChunks hhandlers ⟨hidle.limits, .inl ⟨hidle.expectedBytes, hempty⟩⟩ hrun
  refine ⟨hresting.bounded hlimit, ?_, ?_⟩
  · rcases hresting.buffer with ⟨-, hnothing⟩ | ⟨-, -, ⟨hshort, -⟩ | ⟨-, hsize⟩⟩
    · rw [hnothing]
      exact .inl (by decide)
    · exact .inl hshort
    · refine .inr ⟨fun hrefused => ?_, (size_eq_some hsize).1⟩
      rw [size_of_refused hrefused] at hsize
      cases hsize
  · intro chunk data refused hreach hheader hrefused
    obtain ⟨text, hraised⟩ :=
      hresting.run_rawDataReceived_of_refused hhandlers hreach hheader hrefused
    obtain ⟨hexpected, hbuffer⟩ := hresting.buffer_of_refused hhandlers hreach hrefused
    exact ⟨text, hraised, hexpected, hbuffer, fun _ => rfl⟩

/-- The rest of a header that declares five bytes, with three bytes behind it. -/
def refusedChunk : List UInt8 := [0, 5, 0, 0, 0, 7, 1, 2, 3]

theorem run_sessionStream :
    receiveChunks sessionHandlers [sessionStream] listening =
      (.ok (), (receiveChunks sessionHandlers [sessionStream]).final listening) :=
  (Program.run_of_not_raises
    (show (receiveChunks sessionHandlers [sessionStream]).raises listening = false by
      decide +kernel)).elim fun _ hrun => by rw [Program.final, hrun]

/-- The rest of the header is joined to the four bytes that are retained. -/
theorem reaches_refusedChunk :
    let later := (receiveChunks sessionHandlers [sessionStream]).final listening
    Reaches sessionHandlers (later.entering refusedChunk) (.frames (later.joined refusedChunk))
      (later.entering refusedChunk) (.frames (keepaliveFrame.take 4 ++ refusedChunk)) := by
  intro later
  have hjoined : later.joined refusedChunk = keepaliveFrame.take 4 ++ refusedChunk := by
    decide +kernel
  rw [hjoined]
  exact .refl _ _

/-- Four bytes of a last frame are retained, and the call that makes them a refused header
raises. -/
theorem frame_buffer_bounded_sessionStream :
    ((receiveChunks sessionHandlers [sessionStream]).final listening).client.Bounded
        defaultMaxMessageSize ∧
      (rawDataReceived sessionHandlers refusedChunk).raises
        ((receiveChunks sessionHandlers [sessionStream]).final listening) = true := by
  obtain ⟨hbounded, -, hrefuses⟩ :=
    frame_buffer_bounded (by decide) (fun _ _ => .pure ()) ⟨rfl, fun _ => rfl, .inl rfl⟩
      run_sessionStream
  obtain ⟨text, hraised, -⟩ :=
    hrefuses refusedChunk _ _ reaches_refusedChunk (by decide) (.inl (by decide))
  refine ⟨hbounded, ?_⟩
  rw [Program.raises, hraised]

/-- A refused header that straddles two chunks leaves the bytes behind it in the buffer. -/
theorem frame_buffer_keeps_refused_body :
    ¬ ∀ (handlers : Handlers) (limit : ℤ) (receiver later : Receiver)
        (chunks : List (List UInt8)) (chunk data : List UInt8) (refused : Receiver),
      (msgHeaderLen : ℤ) ≤ limit → handlers.Idle limit → Idle limit [] receiver.client →
      receiveChunks handlers chunks receiver = (.ok (), later) →
      Reaches handlers (later.entering chunk) (.frames (later.joined chunk)) refused
        (.frames data) →
      msgHeaderLen < data.length → Refused limit data →
      ∃ text, rawDataReceived handlers chunk later = (.error (.llrpError text), refused) ∧
        ¬ data.drop msgHeaderLen <:+ refused.client.reader.partialData := by
  intro hclaim
  obtain ⟨text, -, hnone⟩ := hclaim sessionHandlers defaultMaxMessageSize listening _
    [sessionStream] refusedChunk _ _ (by decide) (fun _ _ => .pure ())
    ⟨rfl, fun _ => rfl, .inl rfl⟩ run_sessionStream reaches_refusedChunk (by decide)
    (.inl (by decide))
  exact hnone (by decide +kernel)

end Sllurp.Session
