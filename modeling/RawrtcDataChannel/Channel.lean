import RawrtcDataChannel.State

/-!
# Creating, using and closing data channels

The functions of `data_channel/channel.c` and the handlers of the SCTP transport behind them:
creating a channel (negotiated, in-band or on a request of the peer), registering it in a slot,
sending on it, closing and destroying it.
-/

namespace RawrtcDataChannel

open Reentrant

/-! ## Section 1: Closing -/

/-- `channel_close_handler`. The context is `NULL` if the channel was never registered. -/
def channelCloseHandler (c : ChannelId) : M Code := do
  let t ← get
  match (t.dataChannels c).transportArg with
  | none => return .success
  | some _ =>
    if ← channelRegistered c then
      -- this closes and removes the channel on error
      if (← resetOutgoingStream c) = .success then
        dataChannelSetState c .closing
      return .success
    else
      return .unknownError

/-- `rawrtc_data_channel_close`. -/
def dataChannelClose (c : ChannelId) : M Code := do
  let t ← get
  -- don't close before the channel is initialised
  if (t.dataChannels c).flags.initialized = false then
    return .success
  else if (t.dataChannels c).state = .closing ∨ (t.dataChannels c).state = .closed then
    return .success
  else
    channelCloseHandler c

/-- `rawrtc_data_channel_unset_handlers`. -/
def dataChannelUnsetHandlers (c : ChannelId) : M Code := do
  modify (·.modifyChannel c ({ · with handlers := {} }))
  return .success

/-- `rawrtc_data_channel_destroy`. -/
def dataChannelDestroy (c : ChannelId) : M Unit := do
  let _ ← dataChannelUnsetHandlers c
  let _ ← dataChannelClose c

/-! ## Section 2: Registering -/

/-- `channel_context_create`. -/
def channelContextCreate (sid : Nat) (canSendUnordered : Bool) : M (Except Code Context) := do
  if ← alloc then
    return .ok { sid, flags := { canSendUnordered } }
  else
    return .error .noMemory

/-- `channel_register`. -/
def channelRegister (c : ChannelId) (context : Context) (raiseEvent : Bool) : M Unit := do
  -- update channel with referenced context
  modify (·.modifyChannel c ({ · with transportArg := some context }))
  takeSlot context.sid c
  let t ← get
  if raiseEvent ∧ t.dataChannelHandler then
    callHandler (.dataChannelHandler c)
  -- update data channel state
  let t ← get
  if t.state = .connected then
    dataChannelSetState c .opened

/-- `RAWRTC_SCTP_TRANSPORT_SID_MAX`. -/
def sidMax : Nat := 65534

/-- `channel_create_negotiated`. -/
def channelCreateNegotiated (parameters : DataChannelParameters) : M (Except Code Context) := do
  let t ← get
  if sidMax < parameters.id ∨ t.nChannels ≤ parameters.id ∨
      t.channels parameters.id ≠ none then
    return .error .invalidArgument
  else
    channelContextCreate parameters.id true

/-- The search of `channel_create_inband` for a free slot among every second one from `i` on.
    `fuel` bounds the number of slots looked at. -/
def findFreeSid (t : Transport) : Nat → Nat → Option Nat
  | 0, _ => none
  | fuel + 1, i =>
    if i < t.nChannels then
      if t.channels i = none then some i else findFreeSid t fuel (i + 2)
    else
      none

/-- The search for a free slot finds one. -/
theorem findFreeSid_eq_some {t : Transport} {fuel i j : Nat} (h : findFreeSid t fuel i = some j) :
    j < t.nChannels ∧ t.channels j = none := by
  induction fuel generalizing i with
  | zero => cases h
  | succ fuel ih =>
    simp only [findFreeSid] at h
    split at h
    · next hlt =>
      split at h
      · next hfree =>
        obtain rfl := Option.some.inj h
        exact ⟨hlt, hfree⟩
      · exact ih h
    · cases h

/-- The first stream id a role may choose: clients use even ones, servers odd ones. -/
def firstSid : DtlsRole → Option Nat
  | .client => some 0
  | .server => some 1
  | .other => none

section Create

variable [MessageBuffer]

/-- `channel_create_inband`. -/
def channelCreateInband (parameters : DataChannelParameters) : M (Except Code Context) := do
  match ← stateGetter with
  | .error _ => return .error .externalError
  | .ok dtlsTransportState =>
  -- an open DTLS connection is needed to determine whether we use odd or even SIDs
  if dtlsTransportState ≠ .connected then
    return .error .invalidState
  else
  match ← roleGetter with
  | .error _ => return .error .externalError
  | .ok dtlsRole =>
  match firstSid dtlsRole with
  | none => return .error .invalidState
  | some i =>
  let t ← get
  match findFreeSid t t.nChannels i with
  | none => return .error .insufficientSpace
  | some i =>
  match ← channelContextCreate (i % 2 ^ 16) false with
  | .error error => return .error error
  | .ok context =>
  match ← dataChannelOpenMessageCreate parameters with
  | .error error => return .error error
  | .ok buffer =>
  let error ← sendMessage none context buffer ppidDcep
  if error = .success then return .ok context else return .error error

/-- The end of `channel_create_handler`: the channel is registered if there is a context for it. -/
def registerCreatedChannel (c : ChannelId) : Except Code Context → M Code
  | .error error => return error
  | .ok context => do
    channelRegister c context false
    return .success

/-- `channel_create_handler`. -/
def channelCreateHandler (c : ChannelId) (parameters : DataChannelParameters) : M Code := do
  let context ←
    if parameters.negotiated then channelCreateNegotiated parameters
    else channelCreateInband parameters
  registerCreatedChannel c context

/-- `rawrtc_data_channel_create_internal`. -/
def dataChannelCreateInternal (parameters : DataChannelParameters)
    (handlers : DataChannelHandlers) (callCreateHandler : Bool) : M (Except Code ChannelId) := do
  if ← alloc then
    let t ← get
    let c := t.nextChannel
    modify fun t =>
      { t with nextChannel := c + 1 }.modifyChannel c fun _ => { parameters, handlers }
    let error ←
      if callCreateHandler then channelCreateHandler c parameters else pure .success
    if error = .success then
      modify (·.modifyChannel c fun ch => { ch with flags := { ch.flags with initialized := true } })
      return .ok c
    else
      dataChannelDestroy c
      return .error error
  else
    return .error .noMemory

/-- `rawrtc_data_channel_create`. -/
def dataChannelCreate (parameters : DataChannelParameters) (handlers : DataChannelHandlers) :
    M (Except Code ChannelId) :=
  dataChannelCreateInternal parameters handlers true

/-! ## Section 3: Sending -/

/-- `channel_send_handler`. There may be no buffer if the message is empty. -/
def channelSendHandler (c : ChannelId) (buffer : Option Mbuf) (isBinary : Bool) : M Code := do
  let t ← get
  let length := (buffer.map Mbuf.getLeft).getD 0
  if length = 0 then
    -- SCTP is unable to send messages of size 0, so send a helper message of one byte
    if ← alloc then
      sendMessage (some c) (t.context c) { data := [0] }
        (if isBinary then ppidBinaryEmpty else ppidUtf16Empty)
    else
      return .noMemory
  else if t.remoteMaximumMessageSize ≠ 0 ∧ t.remoteMaximumMessageSize < length then
    return .messageTooLong
  else
    -- the deprecated fragmentation & reassembly is not used
    sendMessage (some c) (t.context c) (buffer.getD { data := [] })
      (if isBinary then ppidBinary else ppidUtf16)

/-- `rawrtc_data_channel_send`. -/
def dataChannelSend (c : ChannelId) (buffer : Option Mbuf) (isBinary : Bool) : M Code := do
  let t ← get
  if (t.dataChannels c).state ≠ .opened then
    return .invalidState
  else
    let error ← channelSendHandler c buffer isBinary
    if error = .success then
      logEvent (.messageAccepted c)
    return error

end Create

/-! ## Section 4: Attributes -/

/-- `channel_set_streaming_handler`. -/
def channelSetStreamingHandler (c : ChannelId) : M Code := do
  let t ← get
  if (t.context c).flags.pendingInboundMessage then
    return .stillInUse
  else
    return .success

/-- `rawrtc_data_channel_set_streaming`. -/
def dataChannelSetStreaming (c : ChannelId) (on : Bool) : M Code := do
  let t ← get
  if (t.dataChannels c).state = .closing ∨ (t.dataChannels c).state = .closed then
    return .invalidState
  else if (t.dataChannels c).flags.streamed = on then
    return .success
  else
    let error ← channelSetStreamingHandler c
    if error = .success then
      modify (·.modifyChannel c fun ch => { ch with flags := { ch.flags with streamed := on } })
    return error

/-- The setters for the handlers of a channel all store what they are given. -/
def dataChannelSetHandler (c : ChannelId) (f : DataChannelHandlers → DataChannelHandlers) :
    M Code := do
  modify (·.modifyChannel c fun ch => { ch with handlers := f ch.handlers })
  return .success

/-- `rawrtc_data_channel_set_open_handler`. -/
def dataChannelSetOpenHandler (c : ChannelId) (openHandler : Bool) : M Code :=
  dataChannelSetHandler c ({ · with openHandler })

/-- `rawrtc_data_channel_set_buffered_amount_low_handler`. -/
def dataChannelSetBufferedAmountLowHandler (c : ChannelId) (bufferedAmountLowHandler : Bool) :
    M Code :=
  dataChannelSetHandler c ({ · with bufferedAmountLowHandler })

/-- `rawrtc_data_channel_set_close_handler`. -/
def dataChannelSetCloseHandler (c : ChannelId) (closeHandler : Bool) : M Code :=
  dataChannelSetHandler c ({ · with closeHandler })

/-- `rawrtc_data_channel_set_message_handler`. -/
def dataChannelSetMessageHandler (c : ChannelId) (messageHandler : Bool) : M Code :=
  dataChannelSetHandler c ({ · with messageHandler })

end RawrtcDataChannel
