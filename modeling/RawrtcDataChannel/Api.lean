import RawrtcDataChannel.Events
import RawrtcDataChannel.Packets

/-!
# The interface of the library

Starting and stopping the transport, and the entry points through which the application and the
event loop use the library.
-/

namespace RawrtcDataChannel

open Reentrant

/-! ## Section 1: Starting and stopping -/

/-- `RAWRTC_SCTP_TRANSPORT_DEFAULT_NUMBER_OF_STREAMS`. -/
def defaultNumberOfStreams : Nat := 65535

/-- A transport as `rawrtc_sctp_transport_create_from_external` makes it. The detach handler is
    mandatory, the other handlers and the trace file are not. -/
def Transport.create (dataChannelHandler stateChangeHandler destroyedHandler traceHandle : Bool)
    (usrsctpChunkSize : Nat) : Transport where
  flags := { initialized := true }
  dataChannelHandler := dataChannelHandler
  stateChangeHandler := stateChangeHandler
  detachHandler := true
  destroyedHandler := destroyedHandler
  nChannels := defaultNumberOfStreams
  traceHandle := traceHandle
  usrsctpChunkSize := usrsctpChunkSize

/-- `RAWRTC_SCTP_TRANSPORT_DEFAULT_MTU`. -/
def defaultMtu : Nat := 1200

/-- `rawrtc_sctp_transport_set_mtu`. -/
def sctpTransportSetMtu (mtu : Nat) : M Code := do
  let t ← get
  if t.socket = false then
    return .invalidArgument
  else if t.state ≠ .connecting ∧ t.state ≠ .connected then
    return .invalidState
  else
    match ← usrsctpSetPeerAddrParams mtu with
    | some error => return error.val
    | none => return .success

/-- Store the maximum message size of the peer. -/
def Transport.setRemoteMaximumMessageSize (size : Nat) (t : Transport) : Transport :=
  { t with remoteMaximumMessageSize := size }

section Transport

variable [MessageBuffer]

/-- `rawrtc_sctp_transport_start`. Of the remote capabilities only the maximum message size is
    used. -/
def sctpTransportStart (maxMessageSize : Nat) : M Code := do
  let t ← get
  if t.state ≠ .new then
    return .invalidState
  else
    modify (Transport.setRemoteMaximumMessageSize maxMessageSize)
    match ← usrsctpConnect with
    | .error reason =>
      setState .closed
      return reason.val
    | .success | .inProgress =>
      -- transition to connecting state
      setState .connecting
      let error ← sctpTransportSetMtu defaultMtu
      if error ≠ .success then
        setState .closed
      return error

/-- `rawrtc_sctp_transport_stop`. -/
def sctpTransportStop : M Code := do
  let t ← get
  if t.flags.detached ∨ t.state = .closed then
    return .success
  else
    setState .closed
    return .success

/-- `rawrtc_sctp_transport_destroy`, up to the point where the memory is released. -/
def sctpTransportDestroy : M Unit := do
  let _ ← sctpTransportStop
  let t ← get
  if t.flags.initialized ∧ t.destroyedHandler then
    callHandler .destroyedHandler

end Transport

/-- What `rawrtc_sctp_transport_feed_inbound` returns for a buffer that may be `NULL`. If it passes the
    packet on, what usrsctp makes of it comes back in events of the socket. -/
def Transport.feedInbound (t : Transport) : Option Mbuf → Code
  | none => .invalidArgument
  | some buffer => (sctpTransportFeedInbound crc32c t buffer).code

/-- `error_event_handler`. It returns a `bool`, so that `RAWRTC_SCTP_EVENT_ALL` becomes 1 on the way
    to its caller, and this is `SCTP_EVENT_READ`. -/
def errorEventHandler : M EventMask := do
  let t ← get
  if t.state = .closed then return { read := true } else return .none

/-! ## Section 2: Entry points -/

/-- What the application and the event loop may call. -/
inductive Call
  | start (maxMessageSize : Nat)
  | stop
  /-- The last reference on the transport is given back, and its destructor runs. -/
  | destroy
  | create (parameters : DataChannelParameters) (handlers : DataChannelHandlers)
  | send (channel : ChannelId) (buffer : Option Mbuf) (isBinary : Bool)
  | close (channel : ChannelId)
  | setStreaming (channel : ChannelId) (on : Bool)
  | setOpenHandler (channel : ChannelId) (openHandler : Bool)
  | setBufferedAmountLowHandler (channel : ChannelId) (bufferedAmountLowHandler : Bool)
  | setCloseHandler (channel : ChannelId) (closeHandler : Bool)
  | setMessageHandler (channel : ChannelId) (messageHandler : Bool)
  | unsetHandlers (channel : ChannelId)
  | setDataChannelHandler (dataChannelHandler : Bool)
  | setStateChangeHandler (stateChangeHandler : Bool)
  | feedInbound (buffer : Option Mbuf)
  | errorEvent
  | readEvent (received : Received)
  | writeEvent
deriving DecidableEq

/-- The application holds on to the transport as long as a channel is registered. The channel
    refers to its transport, so the destructor would only run once the last channel is removed, in
    the middle of the routine that does so. -/
def KeepsHandle (s : Transport) (a : Call) : Prop :=
  a = .destroy → ∀ i < s.nChannels, s.channels i = none

instance (s : Transport) (a : Call) : Decidable (KeepsHandle s a) :=
  inferInstanceAs (Decidable (a = .destroy → _))

/-- What an entry point returns. -/
inductive Result
  | code (code : Code)
  | channel (result : Except Code ChannelId)
  | events (ignore : EventMask)
  | done

/-- The code behind the entry points. -/
def Call.run [MessageBuffer] : Call → M Result
  | .start maxMessageSize => Result.code <$> sctpTransportStart maxMessageSize
  | .stop => Result.code <$> sctpTransportStop
  | .destroy => (fun _ => Result.done) <$> sctpTransportDestroy
  | .create parameters handlers => Result.channel <$> dataChannelCreate parameters handlers
  | .send c buffer isBinary => Result.code <$> dataChannelSend c buffer isBinary
  | .close c => Result.code <$> dataChannelClose c
  | .setStreaming c on => Result.code <$> dataChannelSetStreaming c on
  | .setOpenHandler c on => Result.code <$> dataChannelSetOpenHandler c on
  | .setBufferedAmountLowHandler c on => Result.code <$> dataChannelSetBufferedAmountLowHandler c on
  | .setCloseHandler c on => Result.code <$> dataChannelSetCloseHandler c on
  | .setMessageHandler c on => Result.code <$> dataChannelSetMessageHandler c on
  | .unsetHandlers c => Result.code <$> dataChannelUnsetHandlers c
  | .setDataChannelHandler on => do
    modify ({ · with dataChannelHandler := on })
    return .code .success
  | .setStateChangeHandler on => do
    modify ({ · with stateChangeHandler := on })
    return .code .success
  | .feedInbound buffer => do
    let t ← get
    return .code (t.feedInbound buffer)
  | .errorEvent => Result.events <$> errorEventHandler
  | .readEvent received => Result.events <$> readEventHandler received
  | .writeEvent => Result.events <$> writeEventHandler

/-- Surroundings in which everything succeeds. Our side is the DTLS server. -/
def obligingOracle : (o : Op) → Transport → o.Reply
  | .alloc, _ => true
  | .allocSendContext, _ => true
  | .sendv buffer _ _, _ => .ok buffer.length
  | .resetStreams _, _ => none
  | .connect, _ => .inProgress
  | .setPeerAddrParams _, _ => none
  | .roleGetter, _ => .ok .server
  | .stateGetter, _ => .ok .connected
  | .handler _, _ => ()

/-- Entering the connecting state without a handler to report it to. -/
theorem run_setState_connecting [MessageBuffer] {s : Transport}
    (hreport : s.stateChangeHandler = false) : (setState .connecting).run s =
      .ret () ((s.setState .connecting).log (.transportState .connecting)) := by
  have hquiet : ¬ ((s.setState .connecting).log
      (.transportState .connecting)).stateChangeHandler = true := by
    simp [Transport.setState, Transport.log, hreport]
  have hstarting : TransportState.connecting ≠ .closed := by decide
  have hwaiting : TransportState.connecting ≠ .connected := by decide
  simp only [setState, Routine.run_bind, Routine.run_ite, if_neg hstarting, if_neg hwaiting,
    Routine.run_pure, Prog.bind, Routine.run_modify, run_logEvent, Routine.run_get, if_neg hquiet]

/-- Starting a new transport that has no handler to report to. -/
theorem start_outcome [MessageBuffer] {answers : (o : Op) → Transport → o.Reply → Prop}
    (hconnect : ∀ s, answers .connect s .inProgress)
    (hmtu : ∀ mtu s, answers (.setPeerAddrParams mtu) s none) {s : Transport} (hnew : s.state = .new)
    (hsocket : s.socket = true) (hreport : s.stateChangeHandler = false) (size : Nat) :
    ((Call.run (.start size)).run s).Outcome answers (.code .success)
      (((s.setRemoteMaximumMessageSize size).setState .connecting).log
        (.transportState .connecting)) := by
  have hnew' : ¬ s.state ≠ .new := not_not.mpr hnew
  have hquiet : (s.setRemoteMaximumMessageSize size).stateChangeHandler = false := hreport
  simp only [Call.run, sctpTransportStart, Routine.run_map, Routine.run_bind, Routine.run_get,
    Prog.bind, Routine.run_ite, if_neg hnew', Routine.run_modify, run_usrsctpConnect]
  refine .out _ _ _ ConnectResult.inProgress _ _ (hconnect _) ?_
  simp only [Routine.run_bind, run_setState_connecting hquiet, Prog.bind, sctpTransportSetMtu,
    Routine.run_get, Routine.run_ite]
  rw [if_neg (by simp [Transport.setState, Transport.log, Transport.setRemoteMaximumMessageSize,
    hsocket]), if_neg (by simp [Transport.setState, Transport.log])]
  exact .out _ _ _ (none : Option Failure) _ _ (hmtu _ _) (.ret _ _)

/-- The event that tells a transport that its association is up. -/
def Call.commUp : Call :=
  .readEvent (.notification 0 0 (.assocChange .commUp))

/-- Connecting a transport that has no channels and no messages, and no handler to report to. -/
theorem commUp_outcome [MessageBuffer] {answers : (o : Op) → Transport → o.Reply → Prop}
    (halloc : ∀ s, answers .alloc s true) {s : Transport} (hrunning : s.flags.detached = false)
    (hstate : s.state = .connecting) (hempty : ∀ j, s.channels j = none)
    (hidle : s.bufferedMessagesOutgoing = []) (hreport : s.stateChangeHandler = false) :
    ((Call.run .commUp).run s).Outcome answers (.events .none)
      ((s.setState .connected).log (.transportState .connected)) := by
  have hflush : sctpSendDeferredMessages.run ((s.setState .connected).log
      (.transportState .connected)) = .ret .success _ :=
    run_sctpSendDeferredMessages_of_idle (by exact hidle)
  have hopen : (setDataChannelStates .opened (some .connecting)).run ((s.setState .connected).log
      (.transportState .connected)) = .ret () _ :=
    run_setDataChannelStates_of_empty _ _ _ (by exact hempty)
  have hquiet : ¬ ((s.setState .connected).log
      (.transportState .connected)).stateChangeHandler = true := by
    simp [Transport.setState, Transport.log, hreport]
  have hopening : TransportState.connected ≠ .closed := by decide
  have hrunning' : ¬ s.flags.detached = true := by simp [hrunning]
  simp only [Call.run, Call.commUp, readEventHandler, Routine.run_map, Routine.run_bind,
    Routine.run_get, Prog.bind, Routine.run_ite, if_neg hrunning', run_alloc]
  refine .out _ _ _ true _ _ (halloc s) ?_
  simp only [if_true, Routine.run_bind, handleNotification, handleAssociationChangeEvent, setState,
    ne_eq, not_true, if_false, Routine.run_get, Prog.bind, Routine.run_ite, if_pos hstate,
    if_neg hopening, Routine.run_modify, Routine.run_pure, run_logEvent, hflush, hopen,
    if_neg hquiet]
  exact .ret _ _

/-- `rawrtc_sctp_transport_stop` has nothing left to do. -/
def Transport.stopped (t : Transport) : Prop :=
  t.flags.detached = true ∨ t.state = .closed

instance (t : Transport) : Decidable t.stopped :=
  inferInstanceAs (Decidable (_ ∨ _))

end RawrtcDataChannel
