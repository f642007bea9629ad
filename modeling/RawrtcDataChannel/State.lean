import RawrtcDataChannel.Send

/-!
# State changes

The routines that change the state of a data channel or of the transport, and the one that starts
the closing procedure of a channel. They call the handlers of the application, so the state may
be a different one after each of these calls.
-/

namespace RawrtcDataChannel

open Reentrant

/-! ## Section 1: Data channels -/

/-- `rawrtc_data_channel_set_state`. -/
def dataChannelSetState (c : ChannelId) (state : DataChannelState) : M Unit := do
  modify (·.modifyChannel c ({ · with state := state }))
  logEvent (.channelState c state)
  let t ← get
  match state with
  | .opened =>
    if (t.dataChannels c).handlers.openHandler then
      callHandler (.openHandler c)
  | .closed =>
    if (t.dataChannels c).handlers.closeHandler then
      callHandler (.closeHandler c)
  | .connecting | .closing => return ()

/-- The routine for a channel on which closing begins. -/
theorem run_dataChannelSetState_closing (c : ChannelId) (s : Transport) :
    (dataChannelSetState c .closing).run s =
      .ret () ((s.modifyChannel c ({ · with state := .closing })).log (.channelState c .closing)) :=
  rfl

/-- `transport->channels[i] = mem_ref(channel)`. -/
def takeSlot (i : Nat) (c : ChannelId) : M Unit := do
  let t ← get
  modify (·.setSlot i (some c))
  logEvent (.slotRef c (t.channels i))

/-- `transport->channels[i] = mem_deref(channel)`, which leaves `NULL` in the slot. The channel has
    been closed before, so it does not matter whether this is the last reference on it. Somebody
    else still refers to the transport. -/
def clearSlot (i : Nat) (c : ChannelId) : M Unit := do
  modify (·.setSlot i none)
  logEvent (.slotDeref c)

theorem run_clearSlot (i : Nat) (c : ChannelId) (s : Transport) :
    (clearSlot i c).run s = .ret () ((s.setSlot i none).log (.slotDeref c)) := rfl

/-- The loop of `set_data_channel_states` over `left` slots from `i` on. -/
def setDataChannelStatesFrom (toState : DataChannelState) (fromState : Option DataChannelState)
    (i : Nat) : Nat → M Unit
  | 0 => return ()
  | left + 1 => do
    let t ← get
    match t.channels i with
    | none => pure ()
    | some c =>
      if fromState.all ((t.dataChannels c).state = ·) then
        dataChannelSetState c toState
    setDataChannelStatesFrom toState fromState (i + 1) left

/-- `set_data_channel_states`. -/
def setDataChannelStates (toState : DataChannelState) (fromState : Option DataChannelState) :
    M Unit := do
  let t ← get
  setDataChannelStatesFrom toState fromState 0 t.nChannels

/-- The loop of `close_data_channels` over `left` slots from `i` on. -/
def closeDataChannelsFrom (i : Nat) : Nat → M Unit
  | 0 => return ()
  | left + 1 => do
    let t ← get
    match t.channels i with
    | none => pure ()
    | some c =>
      dataChannelSetState c .closed
      -- remove from transport
      clearSlot i c
    closeDataChannelsFrom (i + 1) left

/-- `close_data_channels`. This does not use the closing procedure. -/
def closeDataChannels : M Unit := do
  let t ← get
  closeDataChannelsFrom 0 t.nChannels

theorem run_setDataChannelStatesFrom_of_empty (toState : DataChannelState)
    (fromState : Option DataChannelState) (i left : Nat) (s : Transport)
    (h : ∀ j, s.channels j = none) :
    (setDataChannelStatesFrom toState fromState i left).run s = .ret () s := by
  induction left generalizing i with
  | zero => rfl
  | succ left ih =>
    simp only [setDataChannelStatesFrom, Routine.run_bind, Routine.run_get, Prog.bind, h, ih]

/-- Without channels there is nothing to change the state of. -/
theorem run_setDataChannelStates_of_empty (toState : DataChannelState)
    (fromState : Option DataChannelState) (s : Transport) (h : ∀ j, s.channels j = none) :
    (setDataChannelStates toState fromState).run s = .ret () s :=
  run_setDataChannelStatesFrom_of_empty toState fromState 0 s.nChannels s h

theorem run_closeDataChannelsFrom_of_empty (i left : Nat) (s : Transport)
    (h : ∀ j, s.channels j = none) : (closeDataChannelsFrom i left).run s = .ret () s := by
  induction left generalizing i with
  | zero => rfl
  | succ left ih =>
    simp only [closeDataChannelsFrom, Routine.run_bind, Routine.run_get, Prog.bind, h, ih]

/-- Without channels there is nothing to close. -/
theorem run_closeDataChannels_of_empty (s : Transport) (h : ∀ j, s.channels j = none) :
    closeDataChannels.run s = .ret () s :=
  run_closeDataChannelsFrom_of_empty 0 s.nChannels s h

/-! ## Section 2: The transport -/

/-- Set `RAWRTC_SCTP_TRANSPORT_FLAGS_DETACHED`. -/
def Transport.detach (t : Transport) : Transport :=
  { t with flags := { t.flags with detached := true } }

/-- `transport->socket = NULL`. -/
def Transport.dropSocket (t : Transport) : Transport :=
  { t with socket := false }

/-- `transport->state = state`. -/
def Transport.setState (t : Transport) (state : TransportState) : Transport :=
  { t with state := state }

/-- Mark as detached and detach from the DTLS transport. -/
def detachTransport : M Unit := do
  modify Transport.detach
  let t ← get
  if t.detachHandler then
    callHandler .detachHandler

/-- Close the socket. -/
def closeSocket : M Unit := do
  let t ← get
  if t.socket then
    logEvent .usrsctpClose
    modify Transport.dropSocket

/-- Close the trace file (if any). The handle is not cleared. -/
def closeTraceFile : M Unit := do
  let t ← get
  if t.traceHandle then
    logEvent .fclose

/-- The part of `set_state` that closes the transport, before the state is set. -/
def closeTransport : M Unit := do
  closeDataChannels
  detachTransport
  closeSocket
  closeTraceFile

/-- Without channels, closing the transport does not call any close handler. -/
theorem run_closeTransport_of_empty (s : Transport) (h : ∀ j, s.channels j = none) :
    closeTransport.run s = (do detachTransport; closeSocket; closeTraceFile : M Unit).run s := by
  simp only [closeTransport, Routine.run_bind, run_closeDataChannels_of_empty s h, Prog.bind]

/-- `set_state`. -/
def setState [MessageBuffer] (state : TransportState) : M Unit := do
  if state = .closed then
    closeTransport
  modify (·.setState state)
  logEvent (.transportState state)
  if state = .connected then
    let _ ← sctpSendDeferredMessages
    -- open waiting channels
    setDataChannelStates .opened (some .connecting)
  let t ← get
  if t.stateChangeHandler then
    callHandler (.stateChangeHandler state)

/-! ## Section 3: The closing procedure of a channel -/

/-- `channel_registered`. -/
def channelRegistered (c : ChannelId) : M Bool := do
  let t ← get
  if t.channels (t.context c).sid = some c then
    return true
  else
    logEvent (.invalidSlot c)
    return false

/-- `usrsctp_setsockopt` of `SCTP_RESET_STREAMS` for the outgoing stream of a channel. -/
def usrsctpResetStreams (c : ChannelId) (sid : Nat) : M (Option Failure) := do
  let error : Option Failure ← Routine.perform (Op.resetStreams sid)
  logEvent (.resetStreams c sid error)
  return error

@[simp] theorem run_usrsctpResetStreams (c : ChannelId) (sid : Nat) (s : Transport) :
    (usrsctpResetStreams c sid).run s = .out (.resetStreams sid) s
      fun error s' => .ret error (s'.log (.resetStreams c sid error)) := rfl

/-- The part of `reset_outgoing_stream` that issues the reset. -/
def requestStreamReset (c : ChannelId) : M Code := do
  if ← alloc then
    let t ← get
    match ← usrsctpResetStreams c (t.context c).sid with
    | none => return .success
    | some error => return error.val
  else
    logEvent (.resetNoMemory c)
    return .noMemory

/-- `reset_outgoing_stream`. It only returns an error if the stream could not be reset, and then
    the channel is closed and removed from the transport. -/
def resetOutgoingStream (c : ChannelId) : M Code := do
  let t ← get
  -- check if there are pending outgoing messages
  if t.bufferedMessagesOutgoing ≠ [] then
    modify (·.modifyContext c (Context.setPendingStreamReset true))
    return .success
  else
    let error ← requestStreamReset c
    if error = .success then
      return .success
    else
      -- improper closing
      dataChannelSetState c .closed
      if ← channelRegistered c then
        let t ← get
        clearSlot (t.context c).sid c
        return error
      else
        return .unknownError

end RawrtcDataChannel
