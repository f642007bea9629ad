import RawrtcDataChannel.Api
import RawrtcDataChannel.Reentrant.Marks

/-!
# Where stream ids are used as indices

The handlers of `sctp_transport/transport.c` take a stream id from SCTP, or from the context of a
channel, and use it as an index of `transport->channels`. Here they are once more, with a note
wherever they do so, and one where the number of stream ids in a stream reset notification is
computed. Without the notes they are the handlers of before.
-/

namespace RawrtcDataChannel

open Reentrant

/-! ## Section 1: Notes -/

/-- What a handler relies on. -/
inductive Use
  /-- `transport->channels[index]`. -/
  | slot (index : Nat)
  /-- Stream ids behind the header of a stream reset notification: the length it declares, the
      number of bytes that were received, and the number of ids that are going to be looked at. -/
  | streamList (strresetLength received length : Nat)
deriving DecidableEq, Repr

/-- `sizeof(struct sctp_stream_reset_event)`, up to the list at its end. -/
def sizeofStreamResetEvent : Nat := 12

/-- The index is one of a slot. The list begins within the declared length and ends within what
    was received. -/
def Use.InBounds : Use → Transport → Prop
  | .slot index, t => index < t.nChannels
  | .streamList strresetLength received length, _ =>
    sizeofStreamResetEvent ≤ strresetLength ∧ sizeofStreamResetEvent + 2 * length ≤ received

/-- Routines that leave notes. -/
abbrev Noted := Marked Use Op Op.Reply Transport

/-- Leave a note. -/
def note (use : Use) : Noted Unit :=
  Routine.mark use

namespace Noting

/-! ## Section 2: Closing a channel -/

/-- `channel_registered`. -/
def channelRegistered (c : ChannelId) : Noted Bool := do
  let t ← get
  note (.slot (t.context c).sid)
  if t.channels (t.context c).sid = some c then
    return true
  else
    Routine.lift (logEvent (.invalidSlot c))
    return false

/-- `reset_outgoing_stream`. -/
def resetOutgoingStream (c : ChannelId) : Noted Code := do
  let t ← get
  if t.bufferedMessagesOutgoing ≠ [] then
    modify (·.modifyContext c (Context.setPendingStreamReset true))
    return .success
  else
    let error ← Routine.lift (requestStreamReset c)
    if error = .success then
      return .success
    else
      Routine.lift (dataChannelSetState c .closed)
      if ← channelRegistered c then
        let t ← get
        note (.slot (t.context c).sid)
        Routine.lift (clearSlot (t.context c).sid c)
        return error
      else
        return .unknownError

/-- `channel_close_handler`. -/
def channelCloseHandler (c : ChannelId) : Noted Code := do
  let t ← get
  match (t.dataChannels c).transportArg with
  | none => return .success
  | some _ =>
    if ← channelRegistered c then
      if (← resetOutgoingStream c) = .success then
        Routine.lift (dataChannelSetState c .closing)
      return .success
    else
      return .unknownError

/-- `rawrtc_data_channel_close`. -/
def dataChannelClose (c : ChannelId) : Noted Code := do
  let t ← get
  if (t.dataChannels c).flags.initialized = false then
    return .success
  else if (t.dataChannels c).state = .closing ∨ (t.dataChannels c).state = .closed then
    return .success
  else
    channelCloseHandler c

/-- `rawrtc_data_channel_destroy`. -/
def dataChannelDestroy (c : ChannelId) : Noted Unit := do
  let _ ← Routine.lift (dataChannelUnsetHandlers c)
  let _ ← dataChannelClose c

/-! ## Section 3: Messages -/

/-- `handle_application_message`: the slot is used first, and not again. -/
def handleApplicationMessage (buffer : Mbuf) (info : RcvInfo) (eor : Bool) : Noted Unit := do
  note (.slot info.rcvSid)
  Routine.lift (RawrtcDataChannel.handleApplicationMessage buffer info eor)

/-- `handle_data_channel_ack_message`: the slot is used first, and not again. -/
def handleDataChannelAckMessage (info : RcvInfo) : Noted Unit := do
  note (.slot info.rcvSid)
  Routine.lift (RawrtcDataChannel.handleDataChannelAckMessage info)

/-- `channel_register`. -/
def channelRegister (c : ChannelId) (context : Context) (raiseEvent : Bool) : Noted Unit := do
  modify (·.modifyChannel c ({ · with transportArg := some context }))
  note (.slot context.sid)
  Routine.lift (takeSlot context.sid c)
  let t ← get
  if raiseEvent ∧ t.dataChannelHandler then
    Routine.lift (callHandler (.dataChannelHandler c))
  let t ← get
  if t.state = .connected then
    Routine.lift (dataChannelSetState c .opened)

section Messages

variable [MessageBuffer]

/-- The part of `handle_data_channel_open_message` behind the creation of the channel. -/
def acknowledgeAndRegister (c : ChannelId) (info : RcvInfo) : Noted Bool := do
  match ← Routine.lift (channelContextCreate info.rcvSid true) with
  | .error _ => return false
  | .ok context =>
  match ← Routine.lift dataChannelAckMessageCreate with
  | .error _ => return false
  | .ok bufferOut =>
  if (← Routine.lift (sendMessage none context bufferOut ppidDcep)) = .success then
    channelRegister c context true
    return true
  else
    return false

/-- `handle_data_channel_open_message`. -/
def handleDataChannelOpenMessage (bufferIn : Mbuf) (info : RcvInfo) : Noted Unit := do
  match ← Routine.lift roleGetter with
  | .error _ => return ()
  | .ok dtlsRole =>
  if peerParity dtlsRole info.rcvSid = false then
    return ()
  else
  let t ← get
  note (.slot info.rcvSid)
  if t.channels info.rcvSid ≠ none then
    return ()
  else
  match ← Routine.lift (dataChannelOpenMessageParse info.rcvSid bufferIn) with
  | .error _ => return ()
  | .ok (parameters, _) =>
  if (← Routine.lift sctpTransportGetDataTransport) ≠ .success then
    return ()
  else
  match ← Routine.lift (dataChannelCreateInternal parameters {} false) with
  | .error _ => return ()
  | .ok c =>
  if (← acknowledgeAndRegister c info) = false then
    dataChannelDestroy c

/-- `handle_dcep_message`. -/
def handleDcepMessage (buffer : Mbuf) (info : RcvInfo) (eor : Bool) : Noted Unit := do
  let t ← get
  let (error, bufferDcepInbound, infoDcepInbound) ← Routine.lift
    (bufferMessageReceivedRaiseComplete t.bufferDcepInbound t.infoDcepInbound buffer info eor)
  modify (·.keepDcep bufferDcepInbound infoDcepInbound)
  match error, bufferDcepInbound with
  | .noValue, _ => return ()
  | .success, some buffer =>
    Routine.lift (logEvent (.dcepMessage infoDcepInbound.rcvSid buffer.rest))
    let (messageType, buffer) := buffer.readU8
    modify (·.setDcepBuffer (some buffer))
    if messageType = dcepMessageTypeAck then
      handleDataChannelAckMessage infoDcepInbound
    else if messageType = dcepMessageTypeOpen then
      handleDataChannelOpenMessage buffer infoDcepInbound
    modify (·.setDcepBuffer none)
  | _, _ => modify (·.setDcepBuffer none)

/-- `data_receive_handler`. -/
def dataReceiveHandler (buffer : Mbuf) (info : RcvInfo) (eor : Bool) : Noted Unit :=
  if info.rcvPpid = ppidDcep then handleDcepMessage buffer info eor
  else handleApplicationMessage buffer info eor

/-! ## Section 4: Notifications -/

/-- `handle_partial_delivery_event`: the slot is used once the stream id has been checked. -/
def handlePartialDeliveryEvent (pdapiStream : Nat) : Noted Unit := do
  let t ← get
  if 2 ^ 16 - 1 ≤ pdapiStream ∨ t.nChannels ≤ pdapiStream then
    return ()
  else
    note (.slot pdapiStream)
    Routine.lift (RawrtcDataChannel.handlePartialDeliveryEvent pdapiStream)

/-- The end of the loop body of `handle_stream_reset_event`. -/
def closeIfBothReset (c : ChannelId) : Noted Unit := do
  let t ← get
  if (t.dataChannels c).flags.incomingStreamReset ∧
      (t.dataChannels c).flags.outgoingStreamReset then
    Routine.lift (dataChannelSetState c .closed)
    let t ← get
    note (.slot (t.context c).sid)
    Routine.lift (clearSlot (t.context c).sid c)

/-- The part of the loop body of `handle_stream_reset_event` for incoming resets. -/
def handleIncomingStreamReset (c : ChannelId) : Noted Bool := do
  modify (·.modifyChannel c fun ch =>
    { ch with flags := { ch.flags with incomingStreamReset := true } })
  let t ← get
  if (t.dataChannels c).state ≠ .closing ∧ (t.dataChannels c).state ≠ .closed then
    if (← resetOutgoingStream c) ≠ .success then
      return true
    else
      Routine.lift (dataChannelSetState c .closing)
      return false
  else
    return false

/-- The loop body of `handle_stream_reset_event` for one stream id. -/
def handleStreamReset (event : StreamResetEvent) (sid : Nat) : Noted Unit := do
  let t ← get
  if t.nChannels ≤ sid then
    return ()
  else
  note (.slot sid)
  match t.channels sid with
  | none => return ()
  | some c =>
    let closed ← if event.incomingSsn then handleIncomingStreamReset c else pure false
    if closed then
      return ()
    else
      if event.outgoingSsn then
        modify (·.modifyChannel c fun ch =>
          { ch with flags := { ch.flags with outgoingStreamReset := true } })
      closeIfBothReset c

/-- The loop of `handle_stream_reset_event`. -/
def handleStreamResets (event : StreamResetEvent) : List Nat → Noted Unit
  | [] => return ()
  | sid :: sids => do
    handleStreamReset event sid
    handleStreamResets event sids

/-- `handle_stream_reset_event`. The number of stream ids is computed before anything else. -/
def handleStreamResetEvent (strresetLength received : Nat) (event : StreamResetEvent) :
    Noted Unit := do
  note (.streamList strresetLength received event.strresetStreamList.length)
  if event.denied ∨ event.failed then return ()
  else handleStreamResets event event.strresetStreamList

/-- `handle_notification`. -/
def handleNotification (snLength end_ : Nat) (notification : Notification) : Noted Unit :=
  if snLength ≠ end_ then return ()
  else
    match notification with
    | .assocChange state => Routine.lift (handleAssociationChangeEvent state)
    | .partialDelivery pdapiStream => handlePartialDeliveryEvent pdapiStream
    | .senderDry => Routine.lift handleSenderDryEvent
    | .streamReset event => handleStreamResetEvent snLength end_ event
    | .sendFailed | .shutdown | .streamChange | .other => return ()

/-- `read_event_handler`, given what `usrsctp_recvv` returns. -/
def readEventHandler (received : Received) : Noted EventMask := do
  let t ← get
  if t.flags.detached then
    return .all
  else if ← Routine.lift alloc then
    match received with
    | .error wouldBlock => return { read := wouldBlock }
    | .notification snLength end_ notification =>
      handleNotification snLength end_ notification
      return .none
    | .data bytes info eor =>
      let t ← get
      if t.state ≠ .connected then
        return .none
      else
      match info with
      | none => return .none
      | some info =>
        dataReceiveHandler { data := bytes } info eor
        return .none
  else
    return .none

end Messages

/-! ## Section 5: Without the notes -/

section Unmarked

@[simp] theorem unmarked_note (use : Use) : (note use).unmarked = pure () := rfl

@[simp] theorem unmarked_channelRegistered (c : ChannelId) :
    (channelRegistered c).unmarked = RawrtcDataChannel.channelRegistered c := by
  simp [channelRegistered, RawrtcDataChannel.channelRegistered]

@[simp] theorem unmarked_resetOutgoingStream (c : ChannelId) :
    (resetOutgoingStream c).unmarked = RawrtcDataChannel.resetOutgoingStream c := by
  simp [resetOutgoingStream, RawrtcDataChannel.resetOutgoingStream]

@[simp] theorem unmarked_channelCloseHandler (c : ChannelId) :
    (channelCloseHandler c).unmarked = RawrtcDataChannel.channelCloseHandler c := by
  simp only [channelCloseHandler, RawrtcDataChannel.channelCloseHandler, Routine.unmarked_bind,
    Routine.unmarked_get]
  congr 1
  funext t
  cases (t.dataChannels c).transportArg with
  | none => rfl
  | some context => simp

@[simp] theorem unmarked_dataChannelClose (c : ChannelId) :
    (dataChannelClose c).unmarked = RawrtcDataChannel.dataChannelClose c := by
  simp [dataChannelClose, RawrtcDataChannel.dataChannelClose]

@[simp] theorem unmarked_dataChannelDestroy (c : ChannelId) :
    (dataChannelDestroy c).unmarked = RawrtcDataChannel.dataChannelDestroy c := by
  simp [dataChannelDestroy, RawrtcDataChannel.dataChannelDestroy]

@[simp] theorem unmarked_handleApplicationMessage (buffer : Mbuf) (info : RcvInfo) (eor : Bool) :
    (handleApplicationMessage buffer info eor).unmarked =
      RawrtcDataChannel.handleApplicationMessage buffer info eor := by
  simp [handleApplicationMessage]

@[simp] theorem unmarked_handleDataChannelAckMessage (info : RcvInfo) :
    (handleDataChannelAckMessage info).unmarked =
      RawrtcDataChannel.handleDataChannelAckMessage info := by
  simp [handleDataChannelAckMessage]

@[simp] theorem unmarked_channelRegister (c : ChannelId) (context : Context) (raiseEvent : Bool) :
    (channelRegister c context raiseEvent).unmarked =
      RawrtcDataChannel.channelRegister c context raiseEvent := by
  simp [channelRegister, RawrtcDataChannel.channelRegister]

section Messages

variable [MessageBuffer]

@[simp] theorem unmarked_acknowledgeAndRegister (c : ChannelId) (info : RcvInfo) :
    (acknowledgeAndRegister c info).unmarked =
      RawrtcDataChannel.acknowledgeAndRegister c info := by
  simp only [acknowledgeAndRegister, RawrtcDataChannel.acknowledgeAndRegister,
    Routine.unmarked_bind, Routine.unmarked_lift]
  congr 1
  funext context
  cases context with
  | error error => rfl
  | ok context =>
    simp only [Routine.unmarked_bind, Routine.unmarked_lift]
    congr 1
    funext buffer
    cases buffer with
    | error error => rfl
    | ok buffer => simp

@[simp] theorem unmarked_handleDataChannelOpenMessage (bufferIn : Mbuf) (info : RcvInfo) :
    (handleDataChannelOpenMessage bufferIn info).unmarked =
      RawrtcDataChannel.handleDataChannelOpenMessage bufferIn info := by
  simp only [handleDataChannelOpenMessage, RawrtcDataChannel.handleDataChannelOpenMessage,
    Routine.unmarked_bind, Routine.unmarked_lift]
  congr 1
  funext role
  cases role with
  | error error => rfl
  | ok dtlsRole =>
    simp only [Routine.unmarked_ite, Routine.unmarked_pure, Routine.unmarked_bind,
      Routine.unmarked_get, unmarked_note, Routine.pure_bind_unit, Routine.unmarked_lift]
    congr 2
    funext t
    congr 2
    funext result
    cases result with
    | error error => rfl
    | ok result =>
      simp only [Routine.unmarked_ite, Routine.unmarked_pure, Routine.unmarked_bind,
        Routine.unmarked_lift]
      congr 1
      funext error
      congr 2
      funext channel
      cases channel with
      | error error => rfl
      | ok c => simp

@[simp] theorem unmarked_handleDcepMessage (buffer : Mbuf) (info : RcvInfo) (eor : Bool) :
    (handleDcepMessage buffer info eor).unmarked =
      RawrtcDataChannel.handleDcepMessage buffer info eor := by
  simp only [handleDcepMessage, RawrtcDataChannel.handleDcepMessage, Routine.unmarked_bind,
    Routine.unmarked_get, Routine.unmarked_lift]
  congr 1
  funext t
  congr 1
  funext r
  obtain ⟨error, bufferInbound, infoInbound⟩ := r
  simp only [Routine.unmarked_modify]
  congr 1
  funext _
  cases error with
  | noValue => rfl
  | success =>
    cases bufferInbound with
    | none => rfl
    | some message => simp
  | _ => rfl

/-! The handlers of notifications. -/

omit [MessageBuffer] in
@[simp] theorem unmarked_handlePartialDeliveryEvent (pdapiStream : Nat) :
    (handlePartialDeliveryEvent pdapiStream).unmarked =
      RawrtcDataChannel.handlePartialDeliveryEvent pdapiStream := by
  simp only [handlePartialDeliveryEvent, Routine.unmarked_bind, Routine.unmarked_get,
    Routine.unmarked_ite, Routine.unmarked_pure, unmarked_note, Routine.pure_bind_unit,
    Routine.unmarked_lift]
  apply Routine.ext_run
  intro s
  -- the check that has been made is made again
  simp only [Routine.run_bind, Routine.run_get, Prog.bind, Routine.run_ite,
    RawrtcDataChannel.handlePartialDeliveryEvent]
  split <;> rfl

omit [MessageBuffer] in
@[simp] theorem unmarked_handleStreamReset (event : StreamResetEvent) (sid : Nat) :
    (handleStreamReset event sid).unmarked = RawrtcDataChannel.handleStreamReset event sid := by
  have hboth : ∀ c, (closeIfBothReset c).unmarked = RawrtcDataChannel.closeIfBothReset c := by
    intro c
    simp [closeIfBothReset, RawrtcDataChannel.closeIfBothReset]
  have hincoming : ∀ c, (handleIncomingStreamReset c).unmarked =
      RawrtcDataChannel.handleIncomingStreamReset c := by
    intro c
    simp [handleIncomingStreamReset, RawrtcDataChannel.handleIncomingStreamReset]
  simp only [handleStreamReset, RawrtcDataChannel.handleStreamReset, Routine.unmarked_bind,
    Routine.unmarked_get, Routine.unmarked_ite, Routine.unmarked_pure, unmarked_note,
    Routine.pure_bind_unit]
  congr 1
  funext t
  congr 1
  cases t.channels sid with
  | none => rfl
  | some c => simp [hboth, hincoming]

omit [MessageBuffer] in
@[simp] theorem unmarked_handleStreamResets (event : StreamResetEvent) (sids : List Nat) :
    (handleStreamResets event sids).unmarked =
      RawrtcDataChannel.handleStreamResets event sids := by
  induction sids with
  | nil => rfl
  | cons sid sids ih =>
    simp [handleStreamResets, RawrtcDataChannel.handleStreamResets, ih]

@[simp] theorem unmarked_handleNotification (snLength end_ : Nat) (notification : Notification) :
    (handleNotification snLength end_ notification).unmarked =
      RawrtcDataChannel.handleNotification snLength end_ notification := by
  simp only [handleNotification, RawrtcDataChannel.handleNotification, Routine.unmarked_ite,
    Routine.unmarked_pure]
  congr 1
  cases notification with
  | streamReset event =>
    simp [handleStreamResetEvent, RawrtcDataChannel.handleStreamResetEvent]
  | partialDelivery pdapiStream => simp
  | assocChange state => simp
  | senderDry => simp
  | sendFailed | shutdown | streamChange | other => rfl

/-- **Without the notes this is the handler for everything that is received.** -/
theorem unmarked_readEventHandler (received : Received) :
    (readEventHandler received).unmarked = RawrtcDataChannel.readEventHandler received := by
  simp only [readEventHandler, RawrtcDataChannel.readEventHandler, Routine.unmarked_bind,
    Routine.unmarked_get, Routine.unmarked_ite, Routine.unmarked_pure, Routine.unmarked_lift]
  congr 1
  funext t
  congr 2
  funext ok
  congr 1
  cases received with
  | error wouldBlock => rfl
  | notification snLength end_ notification => simp
  | data bytes info eor =>
    simp only [Routine.unmarked_bind, Routine.unmarked_get, Routine.unmarked_ite,
      Routine.unmarked_pure]
    congr 1
    funext t
    congr 1
    cases info with
    | none => rfl
    | some info =>
      simp only [dataReceiveHandler, RawrtcDataChannel.dataReceiveHandler, Routine.unmarked_bind,
        Routine.unmarked_ite, unmarked_handleDcepMessage, unmarked_handleApplicationMessage,
        Routine.unmarked_pure]

end Messages

end Unmarked

end Noting

end RawrtcDataChannel
