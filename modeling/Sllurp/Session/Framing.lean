/-
# The receive path

The transport hands over chunks cut anywhere. `rawDataReceived` joins a chunk to
what is retained of the last ones, takes the complete frames off, decodes each
and delivers it to the message callbacks and to the state machine, and retains
an incomplete rest. The decoder and the callbacks are parameters; the callbacks
may call the client as they like.
-/

import Sllurp.Foundations.Stream
import Sllurp.Session.Run

namespace Sllurp.Session

open Sllurp.Foundations Sllurp.Protocol Sllurp.Config Sllurp.Runtime
open Sllurp.Foundations.Program

/-! ## Headers -/

/-- The number that bytes stand for in network order. -/
def ofBytes (bytes : List UInt8) : ℕ := bytes.foldl (fun number byte => number * 256 + byte.toNat) 0

/-- The fields of a message header. -/
structure MessageHeader where
  msgType : ℕ
  length : ℕ
  messageId : ℕ

/-- Unpack the ten bytes of a message header. -/
def msgHeaderUnpack (data : List UInt8) : MessageHeader where
  msgType := ofBytes (data.take 2)
  length := ofBytes ((data.take 6).drop 2)
  messageId := ofBytes ((data.take 10).drop 6)

/-! ## Receiving -/

/-- What handles the frames: the decoder, and the application's message callbacks
as one program. -/
structure Handlers where
  decode : List UInt8 → Except Exn LLRPMessage
  onMessage : LLRPMessage → ClientM Unit

/-- The client and what an observer of the receive path sees: the frames that
were given to the decoder, and the messages that were delivered. -/
structure Receiver where
  client : Client
  decoded : List (List UInt8) := []
  delivered : List LLRPMessage := []

abbrev ReceiverM : Type → Type := Program Receiver Exn

/-- Run a program of the client. -/
def onClient {α : Type} (program : ClientM α) : ReceiverM α := fun receiver =>
  let run := program receiver.client
  (run.1, { receiver with client := run.2 })

namespace Client

/-- The frame size limit of the reader client's configuration. -/
def maxMessageSize (client : Client) : Option ℤ :=
  (client.configs client.reader.config).maxMessageSize

/-- Retain an incomplete frame until enough bytes have come. -/
def retain (client : Client) (partialData : List UInt8) (expectedBytes : ℕ) : Client :=
  { client with reader := { client.reader with partialData, expectedBytes } }

/-- Without a socket, the next write is refused. -/
def facingSocket (client : Client) : Client :=
  if client.reader.socket then client
  else { client with writes := [some (.readerConfigurationError "Not connected")] }

end Client

/-- Call the message callbacks. Their exceptions are logged and go no further. -/
def onLlrpMessageReceived (handlers : Handlers) (message : LLRPMessage) : ReceiverM Unit := do
  .modify fun receiver => { receiver with delivered := receiver.delivered ++ [message] }
  let _ ← (onClient (handlers.onMessage message)).attempt

/-- Give a message to the state machine, which writes to the socket. -/
def handleReceived (message : LLRPMessage) : ReceiverM Unit :=
  onClient (do
    .modify Client.facingSocket
    handleMessage message)

/-- Deliver one message. -/
def deliver (handlers : Handlers) (message : LLRPMessage) : ReceiverM Unit := do
  onLlrpMessageReceived handlers message
  handleReceived message

/-- Decode one complete frame and deliver its message. -/
def receiveFrame (handlers : Handlers) (frame : List UInt8) : ReceiverM Unit := do
  .modify fun receiver =>
    { receiver with
      client := receiver.client.retain receiver.client.reader.partialData 0
      decoded := receiver.decoded ++ [frame] }
  let message ← .ofExcept (handlers.decode frame)
  deliver handlers message

/-- Take the complete frames off the data and retain the rest. A frame has ten
bytes at least, so the length of the data is fuel enough. -/
def receiveFrames (handlers : Handlers) : ℕ → List UInt8 → ReceiverM Unit
  | 0, _ => pure ()
  | fuel + 1, data =>
    if data.length = 0 then pure ()
    else if data.length < msgHeaderLen then
      .modify fun receiver =>
        { receiver with client := receiver.client.retain data msgHeaderLen }
    else do
      let total := (msgHeaderUnpack data).length
      let receiver ← Program.get
      if total < msgHeaderLen then
        .raise (.llrpError s!"Invalid LLRP message length {total}; minimum is {msgHeaderLen}")
      else if receiver.client.maxMessageSize.any fun limit => limit < (total : ℤ) then
        .raise (.llrpError
          (s!"LLRP message length {total} exceeds configured maximum " ++
            s!"{receiver.client.maxMessageSize.getD 0}"))
      else if data.length < total then
        .modify fun receiver => { receiver with client := receiver.client.retain data total }
      else
        receiveFrame handlers (data.take total)
        receiveFrames handlers fuel (data.drop total)

/-- After the frames of a chunk nothing is retained unless bytes are awaited. -/
def finishChunk : ReceiverM Unit :=
  .modify fun receiver =>
    if receiver.client.reader.expectedBytes = 0 then
      { receiver with client := receiver.client.retain [] 0 }
    else receiver

/-- Consume one chunk from the transport. -/
def rawDataReceived (handlers : Handlers) (chunk : List UInt8) : ReceiverM Unit := do
  let receiver ← Program.get
  let expected := receiver.client.reader.expectedBytes
  if expected = 0 then
    receiveFrames handlers chunk.length chunk
    finishChunk
  else
    let data := receiver.client.reader.partialData ++ chunk
    .modify fun receiver => { receiver with client := receiver.client.retain data expected }
    if data.length < expected then pure ()
    else
      receiveFrames handlers data.length data
      finishChunk

/-- Consume chunks until one raises. -/
def receiveChunks (handlers : Handlers) : List (List UInt8) → ReceiverM Unit
  | [] => pure ()
  | chunk :: chunks => do
    rawDataReceived handlers chunk
    receiveChunks handlers chunks

/-! ## What a stream delivers -/

theorem msgHeaderUnpack_append {data : List UInt8} (more : List UInt8)
    (hheader : msgHeaderLen ≤ data.length) :
    msgHeaderUnpack (data ++ more) = msgHeaderUnpack data := by
  have htake : ∀ count, count ≤ 10 → (data ++ more).take count = data.take count :=
    fun count hcount => List.take_append_of_le_length (hcount.trans hheader)
  unfold msgHeaderUnpack
  rw [htake 2 (by decide), htake 6 (by decide), htake 10 (by decide)]

/-- Messages carry their length in the header; an impossible length and one over
the limit are refused. -/
def messageFormat (limit : Option ℤ) : FrameFormat UInt8 where
  headerLength := msgHeaderLen
  size data :=
    let total := (msgHeaderUnpack data).length
    if total < msgHeaderLen then none
    else if limit.any fun limit => limit < (total : ℤ) then none
    else some total
  headerLength_pos := by decide
  headerLength_le := by
    intro data total hsize
    dsimp only at hsize
    split_ifs at hsize with hshort
    cases hsize
    exact Nat.not_lt.mp hshort
  size_append := by
    intro data more hheader
    dsimp only
    rw [msgHeaderUnpack_append more hheader]

/-! ## One round of the loop -/

section Rounds

variable (handlers : Handlers) {fuel : ℕ} {data : List UInt8}

theorem receiveFrames_of_empty (hempty : data.length = 0) (fuel : ℕ) :
    receiveFrames handlers fuel data = pure () := by
  cases fuel with
  | zero => rfl
  | succ fuel => rw [receiveFrames, if_pos hempty]

theorem receiveFrames_of_short (hnonempty : data.length ≠ 0)
    (hshort : data.length < msgHeaderLen) :
    receiveFrames handlers (fuel + 1) data =
      .modify fun receiver =>
        { receiver with client := receiver.client.retain data msgHeaderLen } := by
  rw [receiveFrames, if_neg hnonempty, if_pos hshort]

theorem run_receiveFrames_of_refused (hheader : msgHeaderLen ≤ data.length) {receiver : Receiver}
    (hsize : (messageFormat receiver.client.maxMessageSize).size data = none) :
    ∃ raised, receiveFrames handlers (fuel + 1) data receiver = (.error raised, receiver) := by
  have hnonempty : data.length ≠ 0 := Nat.ne_zero_of_lt hheader
  rw [receiveFrames, if_neg hnonempty, if_neg (Nat.not_lt.mpr hheader), Program.run_get_bind]
  by_cases htotal : (msgHeaderUnpack data).length < msgHeaderLen
  · rw [if_pos htotal]
    exact ⟨_, rfl⟩
  · have hlarge := hsize
    unfold messageFormat at hlarge
    dsimp only at hlarge
    rw [if_neg htotal] at hlarge
    split at hlarge
    · rename_i hlimit
      rw [if_neg htotal, if_pos hlimit]
      exact ⟨_, rfl⟩
    · cases hlarge

theorem size_eq_some {limit : Option ℤ} {total : ℕ}
    (hsize : (messageFormat limit).size data = some total) :
    total = (msgHeaderUnpack data).length ∧ ¬ total < msgHeaderLen ∧
      ¬ (limit.any fun limit => decide (limit < (total : ℤ))) = true := by
  unfold messageFormat at hsize
  dsimp only at hsize
  split_ifs at hsize with hshort hlarge
  cases hsize
  exact ⟨rfl, hshort, hlarge⟩

theorem run_receiveFrames_of_incomplete (hheader : msgHeaderLen ≤ data.length)
    {receiver : Receiver} {total : ℕ}
    (hsize : (messageFormat receiver.client.maxMessageSize).size data = some total)
    (hincomplete : data.length < total) :
    receiveFrames handlers (fuel + 1) data receiver =
      (.ok (), { receiver with client := receiver.client.retain data total }) := by
  have hnonempty : data.length ≠ 0 := Nat.ne_zero_of_lt hheader
  obtain ⟨rfl, htotal, hlarge⟩ := size_eq_some hsize
  rw [receiveFrames, if_neg hnonempty, if_neg (Nat.not_lt.mpr hheader), Program.run_get_bind,
    if_neg htotal, if_neg hlarge, if_pos hincomplete, Program.run_modify]

theorem run_receiveFrames_of_complete (hheader : msgHeaderLen ≤ data.length)
    {receiver : Receiver} {total : ℕ}
    (hsize : (messageFormat receiver.client.maxMessageSize).size data = some total)
    (hcomplete : total ≤ data.length) :
    receiveFrames handlers (fuel + 1) data receiver =
      (receiveFrame handlers (data.take total) >>= fun _ =>
        receiveFrames handlers fuel (data.drop total)) receiver := by
  have hnonempty : data.length ≠ 0 := Nat.ne_zero_of_lt hheader
  obtain ⟨rfl, htotal, hlarge⟩ := size_eq_some hsize
  rw [receiveFrames, if_neg hnonempty, if_neg (Nat.not_lt.mpr hheader), Program.run_get_bind,
    if_neg htotal, if_neg hlarge, if_neg (Nat.not_lt.mpr hcomplete)]

end Rounds

/-- The messages that are delivered, and what is retained if no exception stops
the delivery. -/
structure Delivery where
  messages : List LLRPMessage
  retained : Option (List UInt8)

/-- Deliver the frames up to the first that cannot be decoded. -/
def deliveryOf (decode : List UInt8 → Except Exn LLRPMessage) :
    List (List UInt8) → Ending UInt8 → Delivery
  | [], .kept rest => ⟨[], some rest⟩
  | [], .refused => ⟨[], none⟩
  | frame :: frames, ending =>
    match decode frame with
    | .error _ => ⟨[], none⟩
    | .ok message =>
      let later := deliveryOf decode frames ending
      ⟨message :: later.messages, later.retained⟩

/-- What a whole stream delivers. -/
def delivery (decode : List UInt8 → Except Exn LLRPMessage) (limit : Option ℤ)
    (stream : List UInt8) : Delivery :=
  deliveryOf decode ((messageFormat limit).split stream).frames
    ((messageFormat limit).split stream).ending

theorem deliveryOf_cons_of_error {decode : List UInt8 → Except Exn LLRPMessage}
    {frame : List UInt8} {raised : Exn} (hdecode : decode frame = .error raised)
    (frames : List (List UInt8)) (ending : Ending UInt8) :
    deliveryOf decode (frame :: frames) ending = ⟨[], none⟩ := by
  rw [deliveryOf, hdecode]

theorem deliveryOf_cons_of_ok {decode : List UInt8 → Except Exn LLRPMessage}
    {frame : List UInt8} {message : LLRPMessage} (hdecode : decode frame = .ok message)
    (frames : List (List UInt8)) (ending : Ending UInt8) :
    deliveryOf decode (frame :: frames) ending =
      ⟨message :: (deliveryOf decode frames ending).messages,
        (deliveryOf decode frames ending).retained⟩ := by
  rw [deliveryOf, hdecode]

/-- After a delivery that was not stopped, the next frames are delivered. -/
theorem deliveryOf_append_of_retained {decode : List UInt8 → Except Exn LLRPMessage}
    {frames : List (List UInt8)} (more : List (List UInt8)) {rest retained : List UInt8}
    (ending : Ending UInt8)
    (hretained : (deliveryOf decode frames (.kept rest)).retained = some retained) :
    retained = rest ∧ deliveryOf decode (frames ++ more) ending =
      ⟨(deliveryOf decode frames (.kept rest)).messages ++
        (deliveryOf decode more ending).messages, (deliveryOf decode more ending).retained⟩ := by
  induction frames with
  | nil =>
    cases hretained
    exact ⟨rfl, rfl⟩
  | cons frame frames ih =>
    rw [List.cons_append]
    cases hdecode : decode frame with
    | error raised =>
      rw [deliveryOf_cons_of_error hdecode] at hretained
      cases hretained
    | ok message =>
      rw [deliveryOf_cons_of_ok hdecode] at hretained
      obtain ⟨hrest, hlater⟩ := ih hretained
      rw [deliveryOf_cons_of_ok hdecode, deliveryOf_cons_of_ok hdecode, hlater]
      exact ⟨hrest, rfl⟩

/-- A delivery that was stopped is stopped at the same place if there is more. -/
theorem deliveryOf_append_of_stopped {decode : List UInt8 → Except Exn LLRPMessage}
    {frames : List (List UInt8)} (more : List (List UInt8)) {rest : List UInt8}
    (ending : Ending UInt8)
    (hstopped : (deliveryOf decode frames (.kept rest)).retained = none) :
    deliveryOf decode (frames ++ more) ending = deliveryOf decode frames (.kept rest) := by
  induction frames with
  | nil => cases hstopped
  | cons frame frames ih =>
    rw [List.cons_append]
    cases hdecode : decode frame with
    | error raised => rw [deliveryOf_cons_of_error hdecode, deliveryOf_cons_of_error hdecode]
    | ok message =>
      rw [deliveryOf_cons_of_ok hdecode] at hstopped
      rw [deliveryOf_cons_of_ok hdecode, deliveryOf_cons_of_ok hdecode, ih hstopped]

theorem retained_of_refused (decode : List UInt8 → Except Exn LLRPMessage)
    (frames : List (List UInt8)) : (deliveryOf decode frames .refused).retained = none := by
  induction frames with
  | nil => rfl
  | cons frame frames ih =>
    cases hdecode : decode frame with
    | error raised => rw [deliveryOf_cons_of_error hdecode]
    | ok message => rw [deliveryOf_cons_of_ok hdecode, ih]

section Streams

variable {decode : List UInt8 → Except Exn LLRPMessage} {limit : Option ℤ}
  {stream retained : List UInt8}

/-- What is retained has no frame in it. -/
theorem split_retained (hretained : (delivery decode limit stream).retained = some retained) :
    ((messageFormat limit).split stream).ending = .kept retained ∧
      (messageFormat limit).split retained = ⟨[], .kept retained⟩ := by
  unfold delivery at hretained
  cases hending : ((messageFormat limit).split stream).ending with
  | refused =>
    rw [hending] at hretained
    simp [retained_of_refused] at hretained
  | kept rest =>
    rw [hending] at hretained
    obtain ⟨rfl, _⟩ := deliveryOf_append_of_retained [] .refused hretained
    exact ⟨rfl, FrameFormat.split_kept hending⟩

/-- The delivery of a stream goes on from what is retained of its first part. -/
theorem delivery_append_of_retained (more : List UInt8)
    (hretained : (delivery decode limit stream).retained = some retained) :
    delivery decode limit (stream ++ more) =
      ⟨(delivery decode limit stream).messages ++
        (delivery decode limit (retained ++ more)).messages,
        (delivery decode limit (retained ++ more)).retained⟩ := by
  obtain ⟨hending, _⟩ := split_retained hretained
  unfold delivery at hretained ⊢
  rw [hending] at hretained
  rw [FrameFormat.split_append_of_kept more hending, hending]
  exact (deliveryOf_append_of_retained _ _ hretained).2

/-- A stopped delivery stays stopped. -/
theorem delivery_append_of_stopped (more : List UInt8)
    (hstopped : (delivery decode limit stream).retained = none) :
    delivery decode limit (stream ++ more) = delivery decode limit stream := by
  unfold delivery at hstopped ⊢
  cases hending : ((messageFormat limit).split stream).ending with
  | refused => rw [FrameFormat.split_append_of_refused more hending, hending]
  | kept rest =>
    rw [hending] at hstopped
    rw [FrameFormat.split_append_of_kept more hending]
    exact deliveryOf_append_of_stopped _ _ hstopped

end Streams

/-! ## Deliveries that go through -/

/-- What the receive path reads of the client besides the messages. -/
structure Buffer where
  partialData : List UInt8
  expectedBytes : ℕ
  limit : Option ℤ

def Client.buffer (client : Client) : Buffer where
  partialData := client.reader.partialData
  expectedBytes := client.reader.expectedBytes
  limit := client.maxMessageSize

/-- The messages can be delivered in their order, whatever is retained meanwhile: none of
them raises, and none touches the buffer. -/
def Unhindered (handlers : Handlers) : List LLRPMessage → Client → Prop
  | [], _ => True
  | message :: messages, client => ∀ partialData : List UInt8,
    let run := deliver handlers message { client := client.retain partialData 0 }
    run.1 = .ok () ∧ run.2.client.buffer = (client.retain partialData 0).buffer ∧
      Unhindered handlers messages run.2.client

/-- A run that delivered the frames of the data, with the rest still to come. Where nothing
is retained, the buffer may still hold what was retained before. -/
structure Delivered (handlers : Handlers) (limit : Option ℤ) (rest : List LLRPMessage)
    (receiver : Receiver) (data : List UInt8) (run : Except Exn Unit × Receiver) : Prop where
  messages :
    run.2.delivered = receiver.delivered ++ (delivery handlers.decode limit data).messages
  outcome : run.1.isOk = (delivery handlers.decode limit data).retained.isSome
  unhindered : ∀ retained, (delivery handlers.decode limit data).retained = some retained →
    Unhindered handlers rest run.2.client
  buffer : ∀ retained, (delivery handlers.decode limit data).retained = some retained →
    ∃ partialData,
      run.2.client.buffer = ⟨partialData, (messageFormat limit).awaited retained, limit⟩ ∧
        (retained.length ≠ 0 → partialData = retained)

/-- A run that consumed a stream, with the rest still to come. -/
structure Consumed (handlers : Handlers) (limit : Option ℤ) (rest : List LLRPMessage)
    (receiver : Receiver) (stream : List UInt8) (run : Except Exn Unit × Receiver) : Prop where
  messages :
    run.2.delivered = receiver.delivered ++ (delivery handlers.decode limit stream).messages
  outcome : run.1.isOk = (delivery handlers.decode limit stream).retained.isSome
  unhindered : ∀ retained, (delivery handlers.decode limit stream).retained = some retained →
    Unhindered handlers rest run.2.client
  buffer : ∀ retained, (delivery handlers.decode limit stream).retained = some retained →
    run.2.client.buffer = ⟨retained, (messageFormat limit).awaited retained, limit⟩

section Deliveries

variable {handlers : Handlers} {limit : Option ℤ} {rest : List LLRPMessage}
  {receiver : Receiver} {data : List UInt8}

/-- What is retained makes no difference. -/
theorem Unhindered.retain {messages : List LLRPMessage} {client : Client}
    (hunhindered : Unhindered handlers messages client) (partialData : List UInt8)
    (expectedBytes : ℕ) :
    Unhindered handlers messages (client.retain partialData expectedBytes) := by
  cases messages with
  | nil => trivial
  | cons message messages => exact hunhindered

theorem delivery_of_kept (decode : List UInt8 → Except Exn LLRPMessage)
    (hsplit : (messageFormat limit).split data = ⟨[], .kept data⟩) :
    delivery decode limit data = ⟨[], some data⟩ := by
  rw [delivery, hsplit]
  rfl

theorem delivery_of_refused (decode : List UInt8 → Except Exn LLRPMessage)
    (hsplit : (messageFormat limit).split data = ⟨[], .refused⟩) :
    delivery decode limit data = ⟨[], none⟩ := by
  rw [delivery, hsplit]
  rfl

theorem delivery_of_ok {decode : List UInt8 → Except Exn LLRPMessage} {message : LLRPMessage}
    {total : ℕ}
    (hsplit : (messageFormat limit).split data =
      ⟨data.take total :: ((messageFormat limit).split (data.drop total)).frames,
        ((messageFormat limit).split (data.drop total)).ending⟩)
    (hdecode : decode (data.take total) = .ok message) :
    delivery decode limit data =
      ⟨message :: (delivery decode limit (data.drop total)).messages,
        (delivery decode limit (data.drop total)).retained⟩ := by
  rw [delivery, hsplit, deliveryOf_cons_of_ok hdecode]
  rfl

/-- A frame in front is delivered first. -/
theorem delivery_of_frame {decode : List UInt8 → Except Exn LLRPMessage} {message : LLRPMessage}
    {frame more : List UInt8} (hheader : msgHeaderLen ≤ frame.length)
    (hsize : (messageFormat limit).size frame = some frame.length)
    (hdecode : decode frame = .ok message) :
    delivery decode limit (frame ++ more) =
      ⟨message :: (delivery decode limit more).messages,
        (delivery decode limit more).retained⟩ := by
  have htotal : frame.length ≤ (frame ++ more).length := by simp
  have hreads : (messageFormat limit).size (frame ++ more) = some frame.length :=
    ((messageFormat limit).size_append more hheader).trans hsize
  have hdelivery := delivery_of_ok
    (FrameFormat.split_of_complete (hheader.trans htotal) hreads htotal)
    (by rwa [List.take_left])
  rwa [List.drop_left] at hdelivery

namespace Delivered

/-- Data without a complete frame is kept. -/
theorem of_kept {client : Client} (hclient : Unhindered handlers rest client)
    (hsplit : (messageFormat limit).split data = ⟨[], .kept data⟩)
    (hbuffer : ∃ partialData,
      client.buffer = ⟨partialData, (messageFormat limit).awaited data, limit⟩ ∧
        (data.length ≠ 0 → partialData = data)) :
    Delivered handlers limit rest receiver data (.ok (), { receiver with client }) := by
  have hdelivery := delivery_of_kept handlers.decode hsplit
  constructor
  · rw [hdelivery, List.append_nil]
  · rw [hdelivery]
    rfl
  · exact fun _ _ => hclient
  · rw [hdelivery]
    rintro _ ⟨⟩
    exact hbuffer

/-- A delivery that was stopped has nothing to say about what comes after it. -/
theorem of_stopped {run : Except Exn Unit × Receiver}
    (hmessages :
      run.2.delivered = receiver.delivered ++ (delivery handlers.decode limit data).messages)
    (hraised : run.1.isOk = false)
    (hstopped : (delivery handlers.decode limit data).retained = none) :
    Delivered handlers limit rest receiver data run := by
  refine ⟨hmessages, ?_, fun retained hsome => ?_, fun retained hsome => ?_⟩
  · rw [hraised, hstopped]
    rfl
  · rw [hstopped] at hsome
    cases hsome
  · rw [hstopped] at hsome
    cases hsome

/-- A header that is refused ends the delivery. -/
theorem of_refused (raised : Exn)
    (hsplit : (messageFormat limit).split data = ⟨[], .refused⟩) :
    Delivered handlers limit rest receiver data (.error raised, receiver) := by
  have hdelivery := delivery_of_refused handlers.decode hsplit
  refine of_stopped ?_ rfl (congrArg Delivery.retained hdelivery)
  rw [hdelivery, List.append_nil]

/-- A frame that cannot be decoded ends the delivery. -/
theorem of_error {raised : Exn} {total : ℕ} {later : Receiver}
    (hsplit : (messageFormat limit).split data =
      ⟨data.take total :: ((messageFormat limit).split (data.drop total)).frames,
        ((messageFormat limit).split (data.drop total)).ending⟩)
    (hdecode : handlers.decode (data.take total) = .error raised)
    (hlater : later.delivered = receiver.delivered) :
    Delivered handlers limit rest receiver data (.error raised, later) := by
  have hdelivery : delivery handlers.decode limit data = ⟨[], none⟩ := by
    rw [delivery, hsplit, deliveryOf_cons_of_error hdecode]
  refine of_stopped ?_ rfl (congrArg Delivery.retained hdelivery)
  rw [hdelivery, List.append_nil, hlater]

/-- After a frame that was delivered come the others. -/
theorem cons {message : LLRPMessage} {total : ℕ} {later : Receiver}
    {run : Except Exn Unit × Receiver}
    (hdelivery : delivery handlers.decode limit data =
      ⟨message :: (delivery handlers.decode limit (data.drop total)).messages,
        (delivery handlers.decode limit (data.drop total)).retained⟩)
    (hlater : later.delivered = receiver.delivered ++ [message])
    (hrest : Delivered handlers limit rest later (data.drop total) run) :
    Delivered handlers limit rest receiver data run := by
  constructor
  · rw [hrest.messages, hlater, hdelivery, List.append_assoc, List.singleton_append]
  · rw [hdelivery]
    exact hrest.outcome
  · rw [hdelivery]
    exact hrest.unhindered
  · rw [hdelivery]
    exact hrest.buffer

end Delivered

/-- What an observer has seen before makes no difference to a delivery. -/
theorem run_deliver (handlers : Handlers) (message : LLRPMessage) (receiver : Receiver) :
    deliver handlers message receiver =
      ((deliver handlers message { client := receiver.client }).1,
        { receiver with
          client := (deliver handlers message { client := receiver.client }).2.client
          delivered := receiver.delivered ++ [message] }) := rfl

/-- A frame that cannot be decoded raises before anything is delivered. -/
theorem run_receiveFrame_of_error {frame : List UInt8} {raised : Exn}
    (hdecode : handlers.decode frame = .error raised) (receiver : Receiver) :
    ∃ later : Receiver, receiveFrame handlers frame receiver = (.error raised, later) ∧
      later.delivered = receiver.delivered := by
  unfold receiveFrame
  rw [Program.run_modify_bind, hdecode]
  exact ⟨_, rfl, rfl⟩

/-- The next message that can be delivered is. -/
theorem Unhindered.run_receiveFrame {frame : List UInt8} {message : LLRPMessage}
    {messages : List LLRPMessage} (hdecode : handlers.decode frame = .ok message)
    (hunhindered : Unhindered handlers (message :: messages) receiver.client) :
    ∃ later : Receiver, receiveFrame handlers frame receiver = (.ok (), later) ∧
      later.delivered = receiver.delivered ++ [message] ∧
      Unhindered handlers messages later.client ∧
      later.client.buffer = { receiver.client.buffer with expectedBytes := 0 } := by
  let opened : Client := receiver.client.retain receiver.client.reader.partialData 0
  obtain ⟨hok, hbuffer, hlater⟩ := hunhindered receiver.client.reader.partialData
  have hrun : receiveFrame handlers frame receiver =
      deliver handlers message
        { receiver with client := opened, decoded := receiver.decoded ++ [frame] } := by
    unfold receiveFrame
    rw [Program.run_modify_bind, hdecode]
    rfl
  rw [hrun, run_deliver]
  exact ⟨_, Prod.ext hok rfl, rfl, hlater, hbuffer⟩

/-- The frames of the data are delivered in turn, and the rest is retained. -/
theorem Unhindered.run_receiveFrames {fuel : ℕ} (hfuel : data.length ≤ fuel)
    (hunhindered : Unhindered handlers
      ((delivery handlers.decode limit data).messages ++ rest) receiver.client)
    (hlimit : receiver.client.maxMessageSize = limit)
    (hexpected : data.length = 0 → receiver.client.reader.expectedBytes = 0) :
    Delivered handlers limit rest receiver data (receiveFrames handlers fuel data receiver) := by
  have hkept : ∀ {data : List UInt8} {client : Client},
      (messageFormat limit).split data = ⟨[], .kept data⟩ →
      Unhindered handlers ((delivery handlers.decode limit data).messages ++ rest) client →
      Unhindered handlers rest client := by
    intro data client hsplit hrest
    rw [delivery_of_kept handlers.decode hsplit] at hrest
    exact hrest
  have hempty : ∀ receiver : Receiver,
      Unhindered handlers ((delivery handlers.decode limit []).messages ++ rest)
        receiver.client →
      receiver.client.maxMessageSize = limit → receiver.client.reader.expectedBytes = 0 →
      Delivered handlers limit rest receiver [] (.ok (), receiver) := by
    intro receiver hunhindered hlimit hexpected
    have hsplit : (messageFormat limit).split [] = ⟨[], .kept []⟩ :=
      FrameFormat.split_of_short (messageFormat limit).headerLength_pos
    refine .of_kept (hkept hsplit hunhindered) hsplit
      ⟨receiver.client.reader.partialData, ?_, fun hne => absurd rfl hne⟩
    rw [Client.buffer, hexpected, hlimit]
    rfl
  induction fuel generalizing data receiver with
  | zero =>
    have hdata : data.length = 0 := Nat.le_zero.mp hfuel
    cases List.eq_nil_of_length_eq_zero hdata
    exact hempty receiver hunhindered hlimit (hexpected rfl)
  | succ fuel ih =>
    by_cases hdata : data.length = 0
    · cases List.eq_nil_of_length_eq_zero hdata
      exact hempty receiver hunhindered hlimit (hexpected rfl)
    rcases Nat.lt_or_ge data.length msgHeaderLen with hshort | hheader
    · have hsplit : (messageFormat limit).split data = ⟨[], .kept data⟩ :=
        FrameFormat.split_of_short hshort
      rw [receiveFrames_of_short handlers hdata hshort]
      refine .of_kept ((hkept hsplit hunhindered).retain data msgHeaderLen) hsplit
        ⟨data, ?_, fun _ => rfl⟩
      rw [FrameFormat.awaited_of_short hdata hshort, ← hlimit]
      rfl
    cases hsize : (messageFormat limit).size data with
    | none =>
      obtain ⟨raised, hrun⟩ := run_receiveFrames_of_refused handlers hheader
        (show (messageFormat receiver.client.maxMessageSize).size data = none by
          rw [hlimit, hsize])
      rw [hrun]
      exact .of_refused raised (FrameFormat.split_of_refused hheader hsize)
    | some total =>
      have hreads : (messageFormat receiver.client.maxMessageSize).size data = some total := by
        rw [hlimit, hsize]
      rcases Nat.lt_or_ge data.length total with hincomplete | hcomplete
      · have hsplit := FrameFormat.split_of_incomplete hheader hsize hincomplete
        rw [run_receiveFrames_of_incomplete handlers hheader hreads hincomplete]
        refine .of_kept ((hkept hsplit hunhindered).retain data _) hsplit
          ⟨data, ?_, fun _ => rfl⟩
        rw [FrameFormat.awaited_of_size hheader hsize, ← hlimit]
        rfl
      rw [run_receiveFrames_of_complete handlers hheader hreads hcomplete]
      have hsplit := FrameFormat.split_of_complete hheader hsize hcomplete
      cases hdecode : handlers.decode (data.take total) with
      | error raised =>
        obtain ⟨later, hrun, hlater⟩ := run_receiveFrame_of_error hdecode receiver
        rw [Program.run_bind_error hrun]
        exact .of_error hsplit hdecode hlater
      | ok message =>
        have hdelivery := delivery_of_ok hsplit hdecode
        rw [hdelivery] at hunhindered
        obtain ⟨later, hrun, hlater, hclient, hbuffer⟩ :=
          Unhindered.run_receiveFrame hdecode hunhindered
        rw [Program.run_bind_ok hrun]
        have hpositive : 0 < total :=
          Nat.lt_of_lt_of_le (messageFormat limit).headerLength_pos
            ((messageFormat limit).headerLength_le hsize)
        have hlength : (data.drop total).length ≤ fuel := by
          rw [List.length_drop]
          omega
        exact .cons hdelivery hlater (ih hlength hclient
          ((congrArg Buffer.limit hbuffer).trans hlimit)
          fun _ => congrArg Buffer.expectedBytes hbuffer)

/-- After the frames, only what is retained is left in the buffer. -/
theorem Delivered.finish {start : Receiver} {program : ReceiverM Unit}
    (hstart : start.delivered = receiver.delivered)
    (hdelivered : Delivered handlers limit rest start data (program start)) :
    Consumed handlers limit rest receiver data ((program >>= fun _ => finishChunk) start) := by
  obtain ⟨hmessages, houtcome, hunhindered, hbuffer⟩ := hdelivered
  rcases hrun : program start with ⟨raised | _, later⟩
  · rw [Program.run_bind_error hrun]
    rw [hrun] at hmessages houtcome hunhindered hbuffer
    have hstopped : (delivery handlers.decode limit data).retained = none :=
      Option.isNone_iff_eq_none.mp (Option.isSome_eq_false_iff.mp houtcome.symm)
    refine ⟨by rw [hmessages, hstart], houtcome, hunhindered, fun retained hsome => ?_⟩
    rw [hstopped] at hsome
    cases hsome
  · rw [Program.run_bind_ok hrun, finishChunk, Program.run_modify]
    rw [hrun] at hmessages houtcome hunhindered hbuffer
    rw [hstart] at hmessages
    dsimp only at hmessages hunhindered hbuffer ⊢
    by_cases hexpected : later.client.reader.expectedBytes = 0
    · rw [if_pos hexpected]
      refine ⟨hmessages, houtcome, fun retained hsome =>
        (hunhindered retained hsome).retain _ _, fun retained hsome => ?_⟩
      obtain ⟨partialData, heq, -⟩ := hbuffer retained hsome
      have hawaited : (messageFormat limit).awaited retained = 0 :=
        (congrArg Buffer.expectedBytes heq).symm.trans hexpected
      have hempty : retained.length = 0 := by
        by_contra hnonempty
        have hpos := FrameFormat.awaited_pos (split_retained hsome).2 hnonempty
        omega
      cases List.eq_nil_of_length_eq_zero hempty
      have hlimit : later.client.maxMessageSize = limit := congrArg Buffer.limit heq
      rw [hawaited, ← hlimit]
      rfl
    · rw [if_neg hexpected]
      refine ⟨hmessages, houtcome, hunhindered, fun retained hsome => ?_⟩
      obtain ⟨partialData, heq, hretained⟩ := hbuffer retained hsome
      have hnonempty : retained.length ≠ 0 := by
        intro hempty
        apply hexpected
        have hawaited : later.client.reader.expectedBytes =
            (messageFormat limit).awaited retained := congrArg Buffer.expectedBytes heq
        rw [hawaited, FrameFormat.awaited, if_pos hempty]
      rw [heq, hretained hnonempty]

/-- A chunk is consumed from where the stream before it was left. -/
theorem Unhindered.run_rawDataReceived {retained : List UInt8} (chunk : List UInt8)
    (hunhindered : Unhindered handlers
      ((delivery handlers.decode limit (retained ++ chunk)).messages ++ rest) receiver.client)
    (hretained : (messageFormat limit).split retained = ⟨[], .kept retained⟩)
    (hbuffer : receiver.client.buffer =
      ⟨retained, (messageFormat limit).awaited retained, limit⟩) :
    Consumed handlers limit rest receiver (retained ++ chunk)
      (rawDataReceived handlers chunk receiver) := by
  have hlimit : receiver.client.maxMessageSize = limit := congrArg Buffer.limit hbuffer
  have hstored : receiver.client.reader.partialData = retained :=
    congrArg Buffer.partialData hbuffer
  have hexpected : receiver.client.reader.expectedBytes =
      (messageFormat limit).awaited retained := congrArg Buffer.expectedBytes hbuffer
  unfold rawDataReceived
  rw [Program.run_get_bind, hstored]
  dsimp only
  by_cases hzero : receiver.client.reader.expectedBytes = 0
  · have hempty : retained.length = 0 := by
      by_contra hnonempty
      have hpos := FrameFormat.awaited_pos hretained hnonempty
      omega
    cases List.eq_nil_of_length_eq_zero hempty
    rw [if_pos hzero, List.nil_append]
    exact (hunhindered.run_receiveFrames le_rfl hlimit fun _ => hzero).finish rfl
  · rw [if_neg hzero, Program.run_modify_bind]
    by_cases hshort : (retained ++ chunk).length < receiver.client.reader.expectedBytes
    · rw [if_pos hshort]
      rw [hexpected] at hshort
      obtain ⟨hsplit, hawaited⟩ := FrameFormat.split_append_of_awaited chunk hshort
      have hdelivery := delivery_of_kept handlers.decode hsplit
      rw [hdelivery] at hunhindered
      constructor
      · rw [hdelivery, List.append_nil]
        rfl
      · rw [hdelivery]
        rfl
      · exact fun _ _ => hunhindered.retain _ _
      · rw [hdelivery]
        rintro _ ⟨⟩
        rw [hawaited, ← hexpected, ← hlimit]
        rfl
    · rw [if_neg hshort]
      refine Delivered.finish rfl ?_
      refine Unhindered.run_receiveFrames le_rfl (hunhindered.retain _ _) hlimit fun hempty => ?_
      exact absurd (Nat.pos_of_ne_zero hzero) (by omega)

/-- Chunks are consumed as the stream they make up. The induction is on the chunks: what
comes after the first one is still to be delivered. -/
theorem Unhindered.run_receiveChunks {retained : List UInt8} (chunks : List (List UInt8))
    (hunhindered : Unhindered handlers
      (delivery handlers.decode limit (retained ++ chunks.flatten)).messages receiver.client)
    (hretained : (messageFormat limit).split retained = ⟨[], .kept retained⟩)
    (hbuffer : receiver.client.buffer =
      ⟨retained, (messageFormat limit).awaited retained, limit⟩) :
    Consumed handlers limit [] receiver (retained ++ chunks.flatten)
      (receiveChunks handlers chunks receiver) := by
  induction chunks generalizing retained receiver with
  | nil =>
    rw [List.flatten_nil, List.append_nil] at hunhindered ⊢
    have hdelivery := delivery_of_kept handlers.decode hretained
    constructor
    · rw [hdelivery, List.append_nil]
      rfl
    · rw [hdelivery]
      rfl
    · exact fun _ _ => trivial
    · rw [hdelivery]
      rintro _ ⟨⟩
      exact hbuffer
  | cons chunk chunks ih =>
    rw [List.flatten_cons, ← List.append_assoc] at hunhindered ⊢
    rw [receiveChunks, Program.run_bind]
    cases hkept : (delivery handlers.decode limit (retained ++ chunk)).retained with
    | none =>
      have hsame := delivery_append_of_stopped chunks.flatten hkept
      rw [hsame, ← List.append_nil (delivery handlers.decode limit (retained ++ chunk)).messages]
        at hunhindered
      obtain ⟨hmessages, houtcome, -, -⟩ :=
        hunhindered.run_rawDataReceived chunk hretained hbuffer
      rw [hkept] at houtcome
      rcases hrun : rawDataReceived handlers chunk receiver with ⟨raised | _, later⟩
      · rw [hrun] at hmessages
        constructor
        · rw [hsame]
          exact hmessages
        · rw [hsame, hkept]
          rfl
        · rw [hsame, hkept]
          exact fun _ hnone => nomatch hnone
        · rw [hsame, hkept]
          exact fun _ hnone => nomatch hnone
      · rw [hrun] at houtcome
        cases houtcome
    | some kept =>
      have hwhole := delivery_append_of_retained chunks.flatten hkept
      rw [hwhole] at hunhindered
      obtain ⟨hmessages, houtcome, hlater, hlaterBuffer⟩ :=
        hunhindered.run_rawDataReceived chunk hretained hbuffer
      rcases hrun : rawDataReceived handlers chunk receiver with ⟨raised | _, later⟩
      · rw [hrun, hkept] at houtcome
        cases houtcome
      · rw [hrun] at hmessages hlater hlaterBuffer
        have hrest := ih (hlater kept hkept) (split_retained hkept).2 (hlaterBuffer kept hkept)
        constructor
        · rw [hwhole, hrest.messages, hmessages, List.append_assoc]
        · rw [hwhole]
          exact hrest.outcome
        · exact fun _ _ => trivial
        · rw [hwhole]
          exact hrest.buffer

end Deliveries

/-! ## Chunking -/

/-- However a stream is cut into chunks, the same messages are delivered: those of
the frames that the headers of the whole stream give, up to the first that is
refused or cannot be decoded. Unless it is stopped there, the same bytes are
retained. -/
theorem framing_independent_of_chunks {handlers : Handlers} {receiver : Receiver}
    {first second : List (List UInt8)} (hstream : first.flatten = second.flatten)
    (hunhindered : Unhindered handlers
      (delivery handlers.decode receiver.client.maxMessageSize first.flatten).messages
      receiver.client)
    (hretained : receiver.client.reader.partialData = [])
    (hexpected : receiver.client.reader.expectedBytes = 0) :
    let one := receiveChunks handlers first receiver
    let other := receiveChunks handlers second receiver
    let whole := delivery handlers.decode receiver.client.maxMessageSize first.flatten
    one.2.delivered = other.2.delivered ∧ one.1.isOk = other.1.isOk ∧
      (one.1.isOk = true →
        one.2.client.reader.partialData = other.2.client.reader.partialData ∧
        one.2.client.reader.expectedBytes = other.2.client.reader.expectedBytes) ∧
      one.2.delivered = receiver.delivered ++ whole.messages ∧
      one.1.isOk = whole.retained.isSome := by
  have hsplit : (messageFormat receiver.client.maxMessageSize).split [] = ⟨[], .kept []⟩ :=
    FrameFormat.split_of_short (messageFormat _).headerLength_pos
  have hbuffer : receiver.client.buffer =
      ⟨[], (messageFormat receiver.client.maxMessageSize).awaited [],
        receiver.client.maxMessageSize⟩ := by
    rw [Client.buffer, hretained, hexpected]
    rfl
  have hone := Unhindered.run_receiveChunks first hunhindered hsplit hbuffer
  rw [hstream] at hunhindered
  have hother := Unhindered.run_receiveChunks second hunhindered hsplit hbuffer
  rw [List.nil_append] at hone hother
  rw [← hstream] at hother
  intro one other whole
  refine ⟨hone.messages.trans hother.messages.symm, hone.outcome.trans hother.outcome.symm,
    fun hok => ?_, hone.messages, hone.outcome⟩
  obtain ⟨retained, hretained⟩ := Option.isSome_iff_exists.mp (hone.outcome.symm.trans hok)
  have hsame := (hone.buffer retained hretained).trans (hother.buffer retained hretained).symm
  exact ⟨congrArg Buffer.partialData hsame, congrArg Buffer.expectedBytes hsame⟩

/-- The event that opens a session. -/
def connectionFrame : List UInt8 :=
  [4, 63, 0, 0, 0, 32, 0, 0, 0, 0, 0, 246, 0, 22, 0, 128, 0, 12, 0, 0, 0, 0, 0, 0, 0, 0,
    1, 0, 0, 6, 0, 0]

/-- The capabilities of a reader with one antenna, two power levels and one RF mode. -/
def capabilitiesFrame : List UInt8 :=
  [4, 11, 0, 0, 0, 100, 0, 0, 0, 1, 1, 31, 0, 8, 0, 0, 0, 0, 0, 137, 0, 18, 0, 1, 0, 0,
    0, 0, 0, 1, 0, 0, 0, 1, 0, 0, 0, 143, 0, 64, 0, 0, 0, 0, 0, 144, 0, 56,
    0, 145, 0, 8, 0, 1, 3, 232, 0, 145, 0, 8, 0, 2, 7, 208,
    1, 72, 0, 36, 1, 73, 0, 32, 0, 0, 0, 0, 0, 0, 0, 2, 0, 0, 0, 0, 0, 0, 0, 0,
    0, 0, 24, 106, 0, 0, 97, 168, 0, 0, 0, 0]

/-- A KEEPALIVE message with the ID 7. -/
def keepaliveFrame : List UInt8 := [4, 62, 0, 0, 0, 10, 0, 0, 0, 7]

theorem status_of_notification :
    MessageName.readerEventNotification.isResponse = true →
      (none : Option LLRPStatus).isSome = true :=
  fun h => absurd h Bool.false_ne_true

def connectionMessage : LLRPMessage where
  name := .readerEventNotification
  id := 0
  event := some { connectionAttemptEvent := some .success }
  others := .ofList
    [("ReaderEventNotificationData", .dict [("UTCTimestamp", .dict [("Microseconds", .int 0)])])]
  statusOfResponse := status_of_notification

def capabilitiesMessage : LLRPMessage where
  name := .getReaderCapabilitiesResponse
  id := 1
  status := some { statusCode := some .success }
  decodedCapabilities :=
    { maxNumberOfAntennaSupported := some 1
      regulatoryCapabilities :=
        some (some
          { transmitPowerLevelTableEntry := [⟨1, 1000⟩, ⟨2, 2000⟩]
            uhfC1G2RFModeTable := some (some
              [{ modeIdentifier := 0, m := 2, minTari := 6250, maxTari := 25000 }]) }) }
  others := .ofList
    [("GeneralDeviceCapabilities", .dict
        [("DeviceManufacturerName", .int 1), ("ModelName", .int 1),
          ("FirmwareVersionByteCount", .int 0), ("CanSetAntennaProperties", .bool false),
          ("HasUTCClockCapability", .bool false), ("ReaderFirmwareVersion", .bytes [])]),
      ("RegulatoryCapabilities", .dict
        [("CountryCode", .int 0), ("CommunicationsStandard", .int 0)])]
  statusOfResponse _ := rfl

def keepaliveMessage : LLRPMessage where
  name := .keepalive
  id := 7
  statusOfResponse h := by cases h

/-- Handlers of a connection on which the reader sends nothing else. -/
def sessionHandlers : Handlers where
  decode frame :=
    if frame = connectionFrame then .ok connectionMessage
    else if frame = capabilitiesFrame then .ok capabilitiesMessage
    else if frame = keepaliveFrame then .ok keepaliveMessage
    else .error (.llrpError "Cannot find decoder for message type")
  onMessage _ := pure ()

/-- A receiver on an open socket. -/
def listening : Receiver where
  client := (Client.initial (fun _ => timedConfig) 0 true).reopened

/-- A session is opened, and four bytes of a frame are left. -/
def sessionStream : List UInt8 :=
  connectionFrame ++ capabilitiesFrame ++ keepaliveFrame ++ keepaliveFrame.take 4

/-- On an open socket, a KEEPALIVE is acknowledged. -/
theorem unhindered_keepalive {client : Client} (hsocket : client.reader.socket = true)
    (hwrites : client.writes = []) : Unhindered sessionHandlers [keepaliveMessage] client := by
  intro partialData
  let retaining := client.retain partialData 0
  let later := retaining.record (.sent none 7 ⟨.keepaliveAck, .bare⟩)
  have hrun : handleMessage keepaliveMessage retaining.facingSocket = (.ok (), later) := by
    have hfacing : retaining.facingSocket = retaining := if_pos hsocket
    rw [hfacing]
    unfold handleMessage sendKeepaliveAck
    rw [Program.run_get_bind, if_pos (show keepaliveMessage.name = .keepalive from rfl),
      if_pos (by decide)]
    unfold write
    have hnone : retaining.writes = [] := hwrites
    rw [Program.run_get_bind, hnone]
    rfl
  have hdelivered : deliver sessionHandlers keepaliveMessage { client := retaining } =
      (.ok (), { client := later, delivered := [keepaliveMessage] }) := by
    change (let run := handleMessage keepaliveMessage retaining.facingSocket
      (run.1, ({ client := run.2, delivered := [keepaliveMessage] } : Receiver))) = _
    rw [hrun]
  rw [hdelivered]
  exact ⟨rfl, rfl, trivial⟩

/-- The messages that open the session are delivered one after the other. Comparing power
levels computes with fractions. -/
theorem unhindered_sessionStream :
    Unhindered sessionHandlers [connectionMessage, capabilitiesMessage, keepaliveMessage]
      listening.client := by
  intro partialData
  refine ⟨rfl, rfl, fun retained => ⟨?_, ?_, ?_⟩⟩
  · with_unfolding_all rfl
  · with_unfolding_all rfl
  · refine unhindered_keepalive ?_ ?_
    · with_unfolding_all rfl
    · with_unfolding_all rfl

theorem messages_sessionStream :
    (delivery sessionHandlers.decode listening.client.maxMessageSize sessionStream).messages =
      [connectionMessage, capabilitiesMessage, keepaliveMessage] := by
  have hshort : (messageFormat listening.client.maxMessageSize).split (keepaliveFrame.take 4) =
      ⟨[], .kept (keepaliveFrame.take 4)⟩ := FrameFormat.split_of_short (by decide)
  unfold sessionStream
  rw [List.append_assoc, List.append_assoc, delivery_of_frame (by decide) (by decide) rfl,
    delivery_of_frame (by decide) (by decide) rfl, delivery_of_frame (by decide) (by decide) rfl,
    delivery_of_kept _ hshort]

/-- Byte by byte and at once, the same is delivered and retained. -/
theorem framing_independent_sessionStream :
    (receiveChunks sessionHandlers (sessionStream.map fun byte => [byte]) listening).2.delivered =
        (receiveChunks sessionHandlers [sessionStream] listening).2.delivered ∧
      (receiveChunks sessionHandlers (sessionStream.map fun byte => [byte])
          listening).2.client.reader.partialData =
        (receiveChunks sessionHandlers [sessionStream] listening).2.client.reader.partialData := by
  have hstream : (sessionStream.map fun byte => [byte]).flatten = [sessionStream].flatten := by
    decide
  have hunhindered : Unhindered sessionHandlers
      (delivery sessionHandlers.decode listening.client.maxMessageSize
        (sessionStream.map fun byte => [byte]).flatten).messages listening.client := by
    rw [hstream, List.flatten_singleton, messages_sessionStream]
    exact unhindered_sessionStream
  have hindependent := framing_independent_of_chunks hstream hunhindered rfl rfl
  have hok : (receiveChunks sessionHandlers (sessionStream.map fun byte => [byte])
      listening).1.isOk = true := by decide +kernel
  exact ⟨hindependent.1, (hindependent.2.2.1 hok).1⟩

end Sllurp.Session
