import RawrtcDataChannel.Channel

/-!
# Events

What the transport does when usrsctp has something for it: notifications about the association
and its streams, pieces of user messages, and pieces of DCEP messages. These routines are only
called from the event loop, never by the application.
-/

namespace RawrtcDataChannel

open Reentrant

/-! ## Section 1: What usrsctp reports -/

/-- `sac_state` of `struct sctp_assoc_change`. -/
inductive AssociationState
  | commUp
  | commLost
  | restart
  | shutdownComp
  | cantStrAssoc
  | other
deriving DecidableEq, Repr

/-- `struct sctp_stream_reset_event`: the flags the transport looks at and the stream ids. -/
structure StreamResetEvent where
  denied : Bool := false
  failed : Bool := false
  incomingSsn : Bool := false
  outgoingSsn : Bool := false
  strresetStreamList : List Nat
deriving DecidableEq, Repr

/-- `union sctp_notification`. -/
inductive Notification
  | assocChange (state : AssociationState)
  | partialDelivery (pdapiStream : Nat)
  | sendFailed
  | senderDry
  | shutdown
  | streamChange
  | streamReset (event : StreamResetEvent)
  | other
deriving DecidableEq, Repr

/-- What `usrsctp_recvv` gives back. The length a notification declares may differ from the one
    that was received. -/
inductive Received
  | error (wouldBlock : Bool)
  | notification (snLength end_ : Nat) (notification : Notification)
  | data (bytes : Bytes) (info : Option RcvInfo) (eor : Bool)
deriving DecidableEq, Repr

/-- A set of usrsctp events. -/
structure EventMask where
  read : Bool := false
  write : Bool := false
  error : Bool := false
deriving DecidableEq, Repr

/-- `RAWRTC_SCTP_EVENT_NONE`. -/
def EventMask.none : EventMask := {}

/-- `RAWRTC_SCTP_EVENT_ALL`. -/
def EventMask.all : EventMask := { read := true, write := true, error := true }

/-! ## Section 2: Reassembly -/

/-- `buffer_message_received_raise_complete`, on a reassembly buffer and the receive info stored
    with it. Returns `success` if the message is complete, `noValue` if it was buffered. -/
def bufferMessageReceivedRaiseComplete (bufferInbound : Option Mbuf) (infoInbound : RcvInfo)
    (messageBuffer : Mbuf) (info : RcvInfo) (eor : Bool) :
    M (Code × Option Mbuf × RcvInfo) := do
  let complete := eor && info.rcvPpid != ppidUtf16Partial && info.rcvPpid != ppidBinaryPartial
  match bufferInbound with
  | none =>
    if complete then
      return (.success, some messageBuffer, info)
    else
      -- clear headroom (if any) and skip to the end (for upcoming chunks)
      let buffer :=
        if 0 < messageBuffer.pos then messageBuffer.shiftToFront else messageBuffer
      let buffer := buffer.skipToEnd
      -- the two buffers are one object now, so nothing is left to be copied
      return (.noValue, some (buffer.writeMem buffer.rest), info)
  | some buffer =>
    if ← alloc then
      let buffer := buffer.writeMem messageBuffer.rest
      if complete then
        return (.success, some (buffer.setPos 0), infoInbound)
      else
        return (.noValue, some buffer, infoInbound)
    else
      -- discard the message
      return (.noMemory, none, infoInbound)

/-! ## Section 3: User messages -/

/-- The flag `handle_application_message` derives from the payload protocol identifier. -/
def messageFlagsOfPpid (ppid : Nat) (isComplete : Bool) : Option MessageFlags :=
  if ppid = ppidUtf16 ∨ ppid = ppidUtf16Empty ∨ ppid = ppidUtf16Partial then
    some { isComplete, isString := true }
  else if ppid = ppidBinary ∨ ppid = ppidBinaryEmpty ∨ ppid = ppidBinaryPartial then
    some { isComplete, isBinary := true }
  else
    none

/-- The end of `handle_application_message`: pass the message to the handler, then release the
    buffer. -/
def passMessageToHandler (c : ChannelId) (buffer : Mbuf) (ppid : Nat) (isComplete : Bool) :
    M Unit := do
  let t ← get
  match messageFlagsOfPpid ppid isComplete with
  | none => pure ()
  | some messageFlags =>
    if (t.dataChannels c).handlers.messageHandler then
      callHandler (.messageHandler c (some buffer.rest) messageFlags)
  modify (·.modifyContext c Context.releaseInbound)

/-- `handle_application_message`. -/
def handleApplicationMessage (buffer : Mbuf) (info : RcvInfo) (eor : Bool) : M Unit := do
  let t ← get
  match t.channels info.rcvSid with
  | none => return ()
  | some c =>
  -- messages may now be sent unordered
  modify (·.modifyContext c Context.allowUnordered)
  let t ← get
  let context := t.context c
  if info.rcvPpid = ppidUtf16Empty ∨ info.rcvPpid = ppidBinaryEmpty then
    if eor = false then
      -- incomplete empty message: an error, which releases the buffer
      modify (·.modifyContext c Context.releaseInbound)
    else
      modify (·.modifyContext c (Context.storeInbound (some buffer.skipToEnd) false))
      passMessageToHandler c buffer.skipToEnd info.rcvPpid true
  else if (t.dataChannels c).flags.streamed = false then
    let (error, bufferInbound, infoInbound) ←
      bufferMessageReceivedRaiseComplete context.bufferInbound context.infoInbound buffer info eor
    modify (·.modifyContext c (Context.keepInbound bufferInbound infoInbound))
    match error, bufferInbound with
    | .success, some buffer =>
      modify (·.modifyContext c (Context.storeInbound (some buffer) false))
      passMessageToHandler c buffer infoInbound.rcvPpid true
    | .noValue, bufferInbound =>
      modify (·.modifyContext c (Context.storeInbound bufferInbound true))
    | _, _ => modify (·.modifyContext c Context.releaseInbound)
  else
    -- partial delivery on, pass buffer directly
    modify (·.modifyContext c (Context.storeInbound (some buffer) (!eor)))
    passMessageToHandler c buffer info.rcvPpid eor

/-! ## Section 4: DCEP messages -/

/-- `handle_data_channel_ack_message`. -/
def handleDataChannelAckMessage (info : RcvInfo) : M Unit := do
  let t ← get
  match t.channels info.rcvSid with
  | none => return ()
  | some c =>
    -- an ack has to be the first message received on the channel
    if (t.context c).flags.canSendUnordered then
      return ()
    else
      modify (·.modifyContext c Context.allowUnordered)

/-- `rawrtc_sctp_transport_get_data_transport`, as far as it can fail. -/
def sctpTransportGetDataTransport : M Code := do
  let t ← get
  if t.state = .closed then
    return .invalidState
  else if ← alloc then
    return .success
  else
    return .noMemory

/-- Whether a stream id has the parity the peer has to use, given our own role. -/
def peerParity (role : DtlsRole) (sid : Nat) : Bool :=
  match role with
  | .client => sid % 2 = 1
  | .server => sid % 2 = 0
  | .other => false

section Messages

variable [MessageBuffer]

/-- The part of `handle_data_channel_open_message` behind the creation of the channel. Returns
    whether the channel was registered. -/
def acknowledgeAndRegister (c : ChannelId) (info : RcvInfo) : M Bool := do
  match ← channelContextCreate info.rcvSid true with
  | .error _ => return false
  | .ok context =>
  match ← dataChannelAckMessageCreate with
  | .error _ => return false
  | .ok bufferOut =>
  if (← sendMessage none context bufferOut ppidDcep) = .success then
    channelRegister c context true
    return true
  else
    return false

/-- `handle_data_channel_open_message`. -/
def handleDataChannelOpenMessage (bufferIn : Mbuf) (info : RcvInfo) : M Unit := do
  match ← roleGetter with
  | .error _ => return ()
  | .ok dtlsRole =>
  -- check SID corresponds to other peer's role
  if peerParity dtlsRole info.rcvSid = false then
    return ()
  else
  -- check if slot is occupied
  let t ← get
  if t.channels info.rcvSid ≠ none then
    return ()
  else
  match ← dataChannelOpenMessageParse info.rcvSid bufferIn with
  | .error _ => return ()
  | .ok (parameters, _) =>
  if (← sctpTransportGetDataTransport) ≠ .success then
    return ()
  else
  match ← dataChannelCreateInternal parameters {} false with
  | .error _ => return ()
  | .ok c =>
  if (← acknowledgeAndRegister c info) = false then
    -- the only reference is dropped
    dataChannelDestroy c

/-- `handle_dcep_message`. -/
def handleDcepMessage (buffer : Mbuf) (info : RcvInfo) (eor : Bool) : M Unit := do
  let t ← get
  let (error, bufferDcepInbound, infoDcepInbound) ←
    bufferMessageReceivedRaiseComplete t.bufferDcepInbound t.infoDcepInbound buffer info eor
  modify (·.keepDcep bufferDcepInbound infoDcepInbound)
  match error, bufferDcepInbound with
  | .noValue, _ => return ()
  | .success, some buffer =>
    logEvent (.dcepMessage infoDcepInbound.rcvSid buffer.rest)
    let (messageType, buffer) := buffer.readU8
    modify (·.setDcepBuffer (some buffer))
    if messageType = dcepMessageTypeAck then
      handleDataChannelAckMessage infoDcepInbound
    else if messageType = dcepMessageTypeOpen then
      handleDataChannelOpenMessage buffer infoDcepInbound
    modify (·.setDcepBuffer none)
  | _, _ => modify (·.setDcepBuffer none)

/-- `data_receive_handler`. -/
def dataReceiveHandler (buffer : Mbuf) (info : RcvInfo) (eor : Bool) : M Unit :=
  if info.rcvPpid = ppidDcep then handleDcepMessage buffer info eor
  else handleApplicationMessage buffer info eor

/-! ## Section 5: Notifications -/

/-- `handle_association_change_event`. -/
def handleAssociationChangeEvent (sacState : AssociationState) : M Unit := do
  let t ← get
  match sacState with
  | .commUp =>
    if t.state = .connecting then
      setState .connected
  | .cantStrAssoc | .shutdownComp | .commLost =>
    if t.flags.detached = false ∧ t.state ≠ .closed then
      setState .closed
  | .restart | .other => return ()

/-- `handle_partial_delivery_event`. -/
def handlePartialDeliveryEvent (pdapiStream : Nat) : M Unit := do
  let t ← get
  -- validate stream ID and check if channel exists
  if 2 ^ 16 - 1 ≤ pdapiStream ∨ t.nChannels ≤ pdapiStream then
    return ()
  else
  match t.channels pdapiStream with
  | none => return ()
  | some c =>
    -- abort pending message
    modify (·.modifyContext c (Context.storeInbound none false))
    let t ← get
    -- pass abort notification to handler
    if (t.dataChannels c).flags.streamed ∧ (t.dataChannels c).handlers.messageHandler then
      callHandler (.messageHandler c none { isAborted := true })

/-- `raise_buffered_amount_low_event`. -/
def raiseBufferedAmountLowEvent (c : ChannelId) : M Unit := do
  let t ← get
  if (t.dataChannels c).handlers.bufferedAmountLowHandler then
    callHandler (.bufferedAmountLowHandler c)

/-- What `handle_sender_dry_event` does for the channel in slot `i`, if there is one. -/
def serveSlot (i : Nat) : M Unit := do
  let t ← get
  match t.channels i with
  | none => return ()
  | some c =>
    if (t.context c).flags.pendingStreamReset then
      -- reset pending outgoing stream
      let _ ← resetOutgoingStream c
      modify (·.modifyContext c (Context.setPendingStreamReset false))
    else
      raiseBufferedAmountLowEvent c

/-- The loop of `handle_sender_dry_event` from slot `i` on. It returns the slot to go on with next
    time. It ends when it is back at `stop`, so `fuel` only has to cover the slots once. -/
def senderDryLoop (stop : Nat) : Nat → Nat → M Nat
  | 0, i => return i
  | fuel + 1, i => do
    serveSlot i
    -- update/wrap
    let t ← get
    let i := (i + 1) % t.nChannels
    -- stop if the flag has been cleared
    if t.flags.bufferedAmountLow = false then
      return i
    else if i ≠ stop then
      senderDryLoop stop fuel i
    else
      return i

/-- `handle_sender_dry_event`. -/
def handleSenderDryEvent : M Unit := do
  let t ← get
  -- if there are outstanding messages, don't raise an event
  if t.bufferedMessagesOutgoing ≠ [] then
    return ()
  else
    -- set buffered amount low
    modify fun t => { t with flags := { t.flags with bufferedAmountLow := true } }
    let i := if t.nChannels ≤ t.currentChannelSid then 0 else t.currentChannelSid
    let i ← senderDryLoop i t.nChannels i
    -- update current channel SID
    modify ({ · with currentChannelSid := i })

/-- The end of the loop body of `handle_stream_reset_event`. -/
def closeIfBothReset (c : ChannelId) : M Unit := do
  let t ← get
  if (t.dataChannels c).flags.incomingStreamReset ∧
      (t.dataChannels c).flags.outgoingStreamReset then
    dataChannelSetState c .closed
    -- remove from transport
    let t ← get
    clearSlot (t.context c).sid c

/-- The part of the loop body of `handle_stream_reset_event` for incoming resets. Returns whether
    the channel was closed because of an error. -/
def handleIncomingStreamReset (c : ChannelId) : M Bool := do
  modify (·.modifyChannel c fun ch =>
    { ch with flags := { ch.flags with incomingStreamReset := true } })
  let t ← get
  -- reset outgoing stream (if needed)
  if (t.dataChannels c).state ≠ .closing ∧ (t.dataChannels c).state ≠ .closed then
    if (← resetOutgoingStream c) ≠ .success then
      return true
    else
      dataChannelSetState c .closing
      return false
  else
    return false

/-- The loop body of `handle_stream_reset_event` for one stream id. -/
def handleStreamReset (event : StreamResetEvent) (sid : Nat) : M Unit := do
  let t ← get
  -- check if channel exists
  if t.nChannels ≤ sid then
    return ()
  else
  match t.channels sid with
  | none => return ()
  | some c =>
    let closed ← if event.incomingSsn then handleIncomingStreamReset c else pure false
    if closed then
      return ()
    else
      -- outgoing stream reset (this is raised from our own stream reset)
      if event.outgoingSsn then
        modify (·.modifyChannel c fun ch =>
          { ch with flags := { ch.flags with outgoingStreamReset := true } })
      closeIfBothReset c

/-- The loop of `handle_stream_reset_event`. -/
def handleStreamResets (event : StreamResetEvent) : List Nat → M Unit
  | [] => return ()
  | sid :: sids => do
    handleStreamReset event sid
    handleStreamResets event sids

/-- `handle_stream_reset_event`. -/
def handleStreamResetEvent (event : StreamResetEvent) : M Unit :=
  -- ignore denied/failed events
  if event.denied ∨ event.failed then return ()
  else handleStreamResets event event.strresetStreamList

/-- `handle_notification`. -/
def handleNotification (snLength end_ : Nat) (notification : Notification) : M Unit :=
  if snLength ≠ end_ then return ()
  else
    match notification with
    | .assocChange state => handleAssociationChangeEvent state
    | .partialDelivery pdapiStream => handlePartialDeliveryEvent pdapiStream
    | .senderDry => handleSenderDryEvent
    | .streamReset event => handleStreamResetEvent event
    | .sendFailed | .shutdown | .streamChange | .other => return ()

/-! ## Section 6: Socket events -/

/-- `read_event_handler`, given what `usrsctp_recvv` returns. The result are the events to ignore
    from now on. -/
def readEventHandler (received : Received) : M EventMask := do
  let t ← get
  if t.flags.detached then
    return .all
  else if ← alloc then
    match received with
    | .error wouldBlock => return { read := wouldBlock }
    | .notification snLength end_ notification =>
      handleNotification snLength end_ notification
      return .none
    | .data bytes info eor =>
      let t ← get
      -- incoming data is ignored before state 'connected' and without receive info
      if t.state ≠ .connected then
        return .none
      else
      match info with
      | none => return .none
      | some info =>
        dataReceiveHandler { data := bytes } info eor
        return .none
  else
    return .none

/-- `write_event_handler`. -/
def writeEventHandler : M EventMask := do
  let t ← get
  if t.flags.detached then
    return .all
  else if t.flags.sendingInProgress then
    return { write := true }
  else
    -- send all deferred messages
    modify fun t => { t with flags := { t.flags with sendingInProgress := true } }
    let _ ← sctpSendDeferredMessages
    modify fun t => { t with flags := { t.flags with sendingInProgress := false } }
    return { write := true }

end Messages

end RawrtcDataChannel
