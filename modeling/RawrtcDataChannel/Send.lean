import RawrtcDataChannel.OpenMessage

/-!
# Sending messages

The path of an outgoing message through `sctp_transport/transport.c`: `send_message` fills in the
send information, `sctp_send` sends directly or queues the message, `sctp_transport_send` hands
it to usrsctp in chunks, and `sctp_send_deferred_messages` works off the queue.

The queue is a `rawrtc_message_buffer` of rawrtcc. The class `MessageBuffer` states what the
transport relies on: appending puts a message at the end, and clearing gives the messages to a
handler from the front, dropping each one, until the handler returns false. The real queue refers to
the `mbuf` it was given, whose position moves while the message is sent. Here an entry is the
message as it was when it was queued, so a buffer must not be changed or sent again while it waits.
-/

namespace RawrtcDataChannel

open Reentrant

/-! ## Section 1: The message buffer -/

/-- The two functions of `rawrtcc/message_buffer.h` the transport uses. The handler may update
    the message it is given, as it may write through the pointers it receives. -/
class MessageBuffer where
  /-- `rawrtc_message_buffer_append`, once the memory for the entry is there. -/
  append : List BufferedMessage → BufferedMessage → List BufferedMessage
  append_eq (queue : List BufferedMessage) (message : BufferedMessage) :
    append queue message = queue ++ [message]
  /-- `rawrtc_message_buffer_clear`. -/
  clear : (BufferedMessage → M (BufferedMessage × Bool)) → List BufferedMessage →
    M (Code × List BufferedMessage)
  clear_nil (handler : BufferedMessage → M (BufferedMessage × Bool)) :
    clear handler [] = pure (.success, [])
  clear_cons (handler : BufferedMessage → M (BufferedMessage × Bool)) (message : BufferedMessage)
    (queue : List BufferedMessage) :
    clear handler (message :: queue) = do
      let (message, continue?) ← handler message
      if continue? then clear handler queue else return (.stopIteration, message :: queue)

/-- Clearing a plain list, message by message. -/
def listClear (handler : BufferedMessage → M (BufferedMessage × Bool)) :
    List BufferedMessage → M (Code × List BufferedMessage)
  | [] => pure (.success, [])
  | message :: queue => do
    let (message, continue?) ← handler message
    if continue? then listClear handler queue else return (.stopIteration, message :: queue)

/-- A message buffer on plain lists. -/
@[reducible] def listMessageBuffer : MessageBuffer where
  append queue message := queue ++ [message]
  append_eq _ _ := rfl
  clear := listClear
  clear_nil _ := rfl
  clear_cons _ _ _ := rfl

/-! ## Section 2: Handing a message to usrsctp -/

/-- The loop of `sctp_transport_send`. Every pass but the last one writes at least one byte, so
    `fuel` passes are enough for fewer than `fuel` bytes. -/
def sctpTransportSendLoop (eorSet : Bool) (flags : Nat) :
    Nat → Mbuf → SendInfo → M (Code × Mbuf × SendInfo)
  | 0, buffer, info => return (.unknownError, buffer, info)
  | fuel + 1, buffer, info => do
    let t ← get
    let left := buffer.getLeft
    -- carefully chunk the buffer: only the chunk that reaches its end carries the EOR flag
    let length := if t.usrsctpChunkSize < left then t.usrsctpChunkSize else left
    let info :=
      if t.usrsctpChunkSize < left then info.setEor false
      else if eorSet then info.setEor true else info
    match ← usrsctpSendv (buffer.rest.take length) info flags with
    | .error error => return (error.val, buffer, info)
    | .ok written =>
      if written = 0 then
        return (.tryAgainLater, buffer, info)
      else if 0 < (buffer.advance written).getLeft then
        sctpTransportSendLoop eorSet flags fuel (buffer.advance written) info
      else
        return (.success, buffer.advance written, info)

/-- `sctp_transport_send`. Returns the message and the info as they are left behind: the position
    is advanced by what was written, and the EOR flag is as it was before. -/
def sctpTransportSend (buffer : Mbuf) (info : SendInfo) (flags : Nat) :
    M (Code × Mbuf × SendInfo) := do
  let t ← get
  if t.state ≠ .connected then
    return (.invalidState, buffer, info)
  else
    match info.sndInfo? with
    | none => return (.invalidState, buffer, info)
    | some sendInfo =>
      let (error, buffer, info) ←
        sctpTransportSendLoop sendInfo.eor flags (buffer.getLeft + 1) buffer info
      return (error, buffer, if sendInfo.eor then info.setEor true else info)

/-! ## Section 3: The queue of outgoing messages -/

/-- `sctp_send_deferred_message`: whether to continue with the next message. Only a message that
    has to wait stops the iteration; one that fails in any other way is given up. -/
def sctpSendDeferredMessage (message : BufferedMessage) : M (BufferedMessage × Bool) := do
  match message.context.info.sndInfo? with
  | none => return (message, true)
  | some _ =>
    let (error, buffer, info) ←
      sctpTransportSend message.buffer message.context.info message.context.flags
    let message := { message with buffer, context := { message.context with info } }
    return (message, error ≠ .tryAgainLater)

/-- `message_send_context_create`. The pointer to the context is only set if it succeeds. -/
def messageSendContextCreate (info : SendInfo) (flags : Nat) : M (Except Code SendContext) := do
  if ← allocSendContext then
    match info with
    | .other => return .error .invalidState
    | info => return .ok { info, flags }
  else
    return .error .noMemory

section Queue

variable [MessageBuffer]

/-- `sctp_send_deferred_messages`. -/
def sctpSendDeferredMessages : M Code := do
  let t ← get
  let (error, queue) ← MessageBuffer.clear sctpSendDeferredMessage t.bufferedMessagesOutgoing
  modify ({ · with bufferedMessagesOutgoing := queue })
  return error

/-- Without waiting messages there is nothing to send. -/
theorem run_sctpSendDeferredMessages_of_idle {s : Transport}
    (h : s.bufferedMessagesOutgoing = []) :
    sctpSendDeferredMessages.run s = .ret .success s := by
  have hsame : { s with bufferedMessagesOutgoing := [] } = s := by rw [← h]
  simp [sctpSendDeferredMessages, h, MessageBuffer.clear_nil, Prog.bind, hsame]

/-- The part of `sctp_send` that buffers a message. -/
def bufferMessage (buffer : Mbuf) (info : SendInfo) (flags : Nat) : M Code := do
  match ← messageSendContextCreate info flags with
  | .error error =>
    -- `context` is released behind `out` although it has not been set
    logEvent .derefUnset
    return error
  | .ok context =>
    if ← alloc then
      modify fun t => { t with
        bufferedMessagesOutgoing := MessageBuffer.append t.bufferedMessagesOutgoing
          { buffer, context } }
      return .success
    else
      return .noMemory

/-- `sctp_send`. -/
def sctpSend (buffer : Mbuf) (info : SendInfo) (flags : Nat) : M Code := do
  -- clear buffered amount low flag
  modify fun t => { t with flags := { t.flags with bufferedAmountLow := false } }
  let t ← get
  -- send directly (if connected and no outstanding messages)
  if t.state = .connected ∧ t.bufferedMessagesOutgoing = [] then
    match ← sctpTransportSend buffer info flags with
    | (.success, _, _) => return .success
    | (.tryAgainLater, buffer, info) => bufferMessage buffer info flags
    | (error, _, _) => return error
  else
    bufferMessage buffer info flags

/-! ## Section 4: Messages of data channels -/

/-- `RAWRTC_SCTP_TRANSPORT_PPID_DCEP`. -/
def ppidDcep : Nat := 50

/-- `RAWRTC_SCTP_TRANSPORT_PPID_UTF16`. -/
def ppidUtf16 : Nat := 51

/-- `RAWRTC_SCTP_TRANSPORT_PPID_BINARY_PARTIAL`. -/
def ppidBinaryPartial : Nat := 52

/-- `RAWRTC_SCTP_TRANSPORT_PPID_BINARY`. -/
def ppidBinary : Nat := 53

/-- `RAWRTC_SCTP_TRANSPORT_PPID_UTF16_PARTIAL`. -/
def ppidUtf16Partial : Nat := 54

/-- `RAWRTC_SCTP_TRANSPORT_PPID_UTF16_EMPTY`. -/
def ppidUtf16Empty : Nat := 56

/-- `RAWRTC_SCTP_TRANSPORT_PPID_BINARY_EMPTY`. -/
def ppidBinaryEmpty : Nat := 57

/-- The partial reliability policy `send_message` chooses for the messages of a channel. -/
def partialReliability (parameters : DataChannelParameters) : Option PrInfo :=
  match parameters.channelType with
  | .unreliableOrderedRetransmit | .unreliableUnorderedRetransmit =>
    some { prPolicy := .rtx, prValue := parameters.reliabilityParameter }
  | .unreliableOrderedTimed | .unreliableUnorderedTimed =>
    some { prPolicy := .ttl, prValue := parameters.reliabilityParameter }
  | .reliableOrdered | .reliableUnordered => none

/-- The send information of a DCEP message. -/
def dcepSendInfo (context : Context) : SendvSpa :=
  { sendvSndinfo := { sndSid := context.sid, sndPpid := ppidDcep, eor := true } }

/-- The send information of a user message. -/
def userSendInfo (channel : DataChannel) (context : Context) (ppid : Nat) : SendvSpa :=
  { sendvSndinfo := {
      sndSid := context.sid
      sndPpid := ppid
      eor := true
      unordered := channel.parameters.channelType.isUnordered && context.flags.canSendUnordered }
    sendvPrinfo := (partialReliability channel.parameters).getD {}
    prinfoValid := (partialReliability channel.parameters).isSome }

/-- `send_message`. There is no channel if it is a DCEP message. -/
def sendMessage (channel : Option ChannelId) (context : Context) (buffer : Mbuf) (ppid : Nat) :
    M Code := do
  let t ← get
  if ppid = ppidDcep then
    logEvent (.sendMessage (dcepSendInfo context) buffer.rest)
    sctpSend buffer (.spa (dcepSendInfo context)) 0
  else
    match channel with
    | none => return .invalidArgument
    | some c =>
      let spa := userSendInfo (t.dataChannels c) context ppid
      logEvent (.sendMessage spa buffer.rest)
      sctpSend buffer (.spa spa) 0

end Queue

end RawrtcDataChannel
