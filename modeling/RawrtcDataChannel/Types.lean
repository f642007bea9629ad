import Mathlib.Logic.Function.Basic
import Mathlib.Order.Nat
import RawrtcDataChannel.Mbuf
import RawrtcDataChannel.Reentrant.Program

/-!
# The data model of the SCTP transport

The structures of `sctp_transport/transport.h`, `data_channel/channel.h` and
`data_channel_parameters/parameters.h`, the calls the library makes to its surroundings, and the
state it works on.

Flag words are records of booleans. Data channels are objects with an identity: the state holds a
heap of them, and the slots of the transport (`transport->channels`) hold identities. A handler
that is `NULL` in the code is `false` here; what a handler does when it is called is left to the
surroundings.

The field `history` does not exist in the code. It records what an observer would see: handler
calls, calls to usrsctp, states that were set, references the slots took and gave back.
-/

namespace RawrtcDataChannel

open Reentrant

/-! ## Section 1: Return codes -/

/-- `enum rawrtc_code`, as far as the transport names its members. -/
inductive Code
  | success
  | invalidArgument
  | invalidState
  | invalidMessage
  | noMemory
  | noValue
  | notImplemented
  | insufficientSpace
  | messageTooLong
  | stillInUse
  | stopIteration
  | tryAgainLater
  | externalError
  | unknownError
  /-- Any other member. -/
  | other (n : Nat)
deriving DecidableEq, Repr

/-- A code that reports an error, such as `rawrtc_error_to_code(errno)` after a failed call. -/
def Failure := { code : Code // code ≠ .success }

instance : DecidableEq Failure := inferInstanceAs (DecidableEq { code : Code // code ≠ .success })

/-! ## Section 2: Data channels -/

/-- `enum rawrtc_data_channel_type`. -/
inductive DataChannelType
  | reliableOrdered
  | reliableUnordered
  | unreliableOrderedRetransmit
  | unreliableUnorderedRetransmit
  | unreliableOrderedTimed
  | unreliableUnorderedTimed
deriving DecidableEq, Repr

/-- The value of the type on the wire. -/
def DataChannelType.toByte : DataChannelType → UInt8
  | .reliableOrdered => 0x00
  | .reliableUnordered => 0x80
  | .unreliableOrderedRetransmit => 0x01
  | .unreliableUnorderedRetransmit => 0x81
  | .unreliableOrderedTimed => 0x02
  | .unreliableUnorderedTimed => 0x82

/-- The type with a given value on the wire, if there is one. -/
def DataChannelType.ofByte? : UInt8 → Option DataChannelType
  | 0x00 => some .reliableOrdered
  | 0x80 => some .reliableUnordered
  | 0x01 => some .unreliableOrderedRetransmit
  | 0x81 => some .unreliableUnorderedRetransmit
  | 0x02 => some .unreliableOrderedTimed
  | 0x82 => some .unreliableUnorderedTimed
  | _ => none

/-- `RAWRTC_DATA_CHANNEL_TYPE_IS_UNORDERED` in the type. -/
def DataChannelType.isUnordered (type : DataChannelType) : Bool :=
  type.toByte &&& 0x80 ≠ 0

/-- Whether the type is one of `RAWRTC_DATA_CHANNEL_TYPE_RELIABLE_*`. -/
def DataChannelType.isReliable : DataChannelType → Bool
  | .reliableOrdered | .reliableUnordered => true
  | _ => false

/-- `struct rawrtc_data_channel_parameters`. Strings are their bytes, without the terminator.
    Every such object is made by `data_parameters_create`, which keeps a reliability parameter
    only for the unreliable types and an id only for negotiated channels. -/
structure DataChannelParameters where
  label : Option Bytes
  channelType : DataChannelType
  reliabilityParameter : UInt32
  protocol : Option Bytes
  negotiated : Bool
  id : Nat
  reliability_eq_zero : channelType.isReliable = true → reliabilityParameter = 0
  id_eq_zero : negotiated = false → id = 0
deriving DecidableEq

/-- `enum rawrtc_data_channel_state`. -/
inductive DataChannelState
  | connecting
  | opened
  | closing
  | closed
deriving DecidableEq, Repr

/-- The numeric value of a data channel state. -/
def DataChannelState.toNat : DataChannelState → Nat
  | .connecting => 0
  | .opened => 1
  | .closing => 2
  | .closed => 3

theorem DataChannelState.toNat_injective : Function.Injective DataChannelState.toNat := by
  intro s t h
  cases s <;> cases t <;> first | rfl | cases h

instance : LinearOrder DataChannelState := LinearOrder.lift' _ DataChannelState.toNat_injective

/-- The receive information that comes with a piece of data, `struct sctp_rcvinfo`. -/
structure RcvInfo where
  rcvSid : Nat := 0
  rcvPpid : Nat := 0
deriving DecidableEq, Repr

/-- The flags in `struct rawrtc_sctp_data_channel_context`. -/
structure ContextFlags where
  canSendUnordered : Bool := false
  pendingInboundMessage : Bool := false
  pendingStreamReset : Bool := false
deriving DecidableEq, Repr

/-- `struct rawrtc_sctp_data_channel_context`. -/
structure Context where
  sid : Nat := 0
  flags : ContextFlags := {}
  bufferInbound : Option Mbuf := none
  infoInbound : RcvInfo := {}
deriving DecidableEq, Repr

namespace Context

/-- Set `RAWRTC_SCTP_DATA_CHANNEL_FLAGS_CAN_SEND_UNORDERED`. -/
def allowUnordered (context : Context) : Context :=
  { context with flags := { context.flags with canSendUnordered := true } }

/-- Set or clear `RAWRTC_SCTP_DATA_CHANNEL_FLAGS_PENDING_STREAM_RESET`. -/
def setPendingStreamReset (pending : Bool) (context : Context) : Context :=
  { context with flags := { context.flags with pendingStreamReset := pending } }

/-- Store a reassembly buffer, and set or clear
    `RAWRTC_SCTP_DATA_CHANNEL_FLAGS_PENDING_INBOUND_MESSAGE`. -/
def storeInbound (buffer : Option Mbuf) (pending : Bool) (context : Context) : Context :=
  { context with
    bufferInbound := buffer, flags := { context.flags with pendingInboundMessage := pending } }

/-- Store a reassembly buffer and the receive info that belongs to it. -/
def keepInbound (buffer : Option Mbuf) (info : RcvInfo) (context : Context) : Context :=
  { context with bufferInbound := buffer, infoInbound := info }

/-- Release the reassembly buffer. -/
def releaseInbound (context : Context) : Context :=
  { context with bufferInbound := none }

end Context

/-- The flags in `struct rawrtc_data_channel`. The last two are constants of the SCTP transport,
    but it is the channel's flag word that it sets them in. -/
structure DataChannelFlags where
  initialized : Bool := false
  streamed : Bool := false
  incomingStreamReset : Bool := false
  outgoingStreamReset : Bool := false
deriving DecidableEq, Repr

/-- Which handlers of a data channel are set. The error handler is never called. -/
structure DataChannelHandlers where
  openHandler : Bool := false
  bufferedAmountLowHandler : Bool := false
  closeHandler : Bool := false
  messageHandler : Bool := false
deriving DecidableEq, Repr

/-- `struct rawrtc_data_channel`. -/
structure DataChannel where
  parameters : DataChannelParameters
  flags : DataChannelFlags := {}
  state : DataChannelState := .connecting
  transportArg : Option Context := none
  handlers : DataChannelHandlers := {}
deriving DecidableEq

/-- The identity of a data channel object. -/
abbrev ChannelId := Nat

/-! ## Section 3: Outgoing messages -/

/-- `struct sctp_sndinfo`; of `snd_flags` the two bits the transport uses. -/
structure SndInfo where
  sndSid : Nat
  sndPpid : Nat
  eor : Bool
  unordered : Bool := false
deriving DecidableEq, Repr

/-- The partial reliability policies. -/
inductive PrPolicy
  | none
  | rtx
  | ttl
deriving DecidableEq, Repr

/-- `struct sctp_prinfo`. -/
structure PrInfo where
  prPolicy : PrPolicy := .none
  prValue : UInt32 := 0
deriving DecidableEq, Repr

/-- `struct sctp_sendv_spa`. -/
structure SendvSpa where
  sendvSndinfo : SndInfo
  sendvPrinfo : PrInfo := {}
  prinfoValid : Bool := false
deriving DecidableEq, Repr

/-- What `info` points to, told apart by `info_type`. -/
inductive SendInfo
  | noinfo
  | sndinfo (info : SndInfo)
  | spa (spa : SendvSpa)
  | other
deriving DecidableEq, Repr

namespace SendInfo

/-- The `struct sctp_sndinfo` in the info, if the type is one that has it. -/
def sndInfo? : SendInfo → Option SndInfo
  | .sndinfo i => some i
  | .spa s => some s.sendvSndinfo
  | .noinfo | .other => none

/-- Set or unset `SCTP_EOR` in `snd_flags`. -/
def setEor (eor : Bool) : SendInfo → SendInfo
  | .sndinfo i => .sndinfo { i with eor := eor }
  | .spa s => .spa { s with sendvSndinfo := { s.sendvSndinfo with eor := eor } }
  | .noinfo => .noinfo
  | .other => .other

end SendInfo

/-- `struct send_context`. -/
structure SendContext where
  info : SendInfo
  flags : Nat
deriving DecidableEq, Repr

/-- An entry of the queue of outgoing messages: the message and the context it was queued with. -/
structure BufferedMessage where
  buffer : Mbuf
  context : SendContext
deriving DecidableEq, Repr

/-! ## Section 4: Calls to the surroundings -/

/-- `enum rawrtc_sctp_transport_state`. -/
inductive TransportState
  | new
  | connecting
  | connected
  | closed
deriving DecidableEq, Repr

/-- The numeric value of a transport state. -/
def TransportState.toNat : TransportState → Nat
  | .new => 0
  | .connecting => 1
  | .connected => 2
  | .closed => 3

theorem TransportState.toNat_injective : Function.Injective TransportState.toNat := by
  intro s t h
  cases s <;> cases t <;> first | rfl | cases h

instance : LinearOrder TransportState := LinearOrder.lift' _ TransportState.toNat_injective

/-- `enum rawrtc_data_channel_message_flag`. -/
structure MessageFlags where
  isAborted : Bool := false
  isComplete : Bool := false
  isString : Bool := false
  isBinary : Bool := false
deriving DecidableEq, Repr

/-- A call of a handler the application installed. -/
inductive Handler
  | dataChannelHandler (channel : ChannelId)
  | openHandler (channel : ChannelId)
  | bufferedAmountLowHandler (channel : ChannelId)
  | closeHandler (channel : ChannelId)
  | messageHandler (channel : ChannelId) (buffer : Option Bytes) (flags : MessageFlags)
  | stateChangeHandler (state : TransportState)
  | detachHandler
  | destroyedHandler
deriving DecidableEq, Repr

/-- `enum rawrtc_external_dtls_role`, or a value outside of it. -/
inductive DtlsRole
  | client
  | server
  | other
deriving DecidableEq, Repr

/-- `enum rawrtc_external_dtls_transport_state`. -/
inductive DtlsTransportState
  | newOrConnecting
  | connected
  | closedOrFailed
deriving DecidableEq, Repr

/-- The result of `usrsctp_connect`. -/
inductive ConnectResult
  | success
  | inProgress
  | error (reason : Failure)
deriving DecidableEq

/-- What the library asks of its surroundings. -/
inductive Op
  /-- `mem_zalloc`, `mbuf_alloc` and every other allocation; answered with whether it succeeded. -/
  | alloc
  /-- The allocation of a `struct send_context`. -/
  | allocSendContext
  /-- `usrsctp_sendv`; answered with the number of bytes written, or the error. -/
  | sendv (buffer : Bytes) (info : SendInfo) (flags : Nat)
  /-- `usrsctp_setsockopt` of `SCTP_RESET_STREAMS` for one outgoing stream. -/
  | resetStreams (sid : Nat)
  /-- `usrsctp_connect`. -/
  | connect
  /-- `usrsctp_setsockopt` of `SCTP_PEER_ADDR_PARAMS` with this MTU. -/
  | setPeerAddrParams (mtu : Nat)
  /-- `context.role_getter`. -/
  | roleGetter
  /-- `context.state_getter`. -/
  | stateGetter
  /-- A handler of the application. -/
  | handler (h : Handler)
deriving DecidableEq, Repr

/-- The operation calls a handler of the application. -/
def Op.isHandler : Op → Bool
  | .handler _ => true
  | _ => false

/-- What an operation is answered with. -/
def Op.Reply : Op → Type
  | .alloc => Bool
  | .allocSendContext => Bool
  | .sendv _ _ _ => Except Failure Nat
  | .resetStreams _ => Option Failure
  | .connect => ConnectResult
  | .setPeerAddrParams _ => Option Failure
  | .roleGetter => Except Failure DtlsRole
  | .stateGetter => Except Failure DtlsTransportState
  | .handler _ => Unit

/-- What an observer sees of a run. -/
inductive Event
  /-- `rawrtc_data_channel_set_state` set this state. -/
  | channelState (channel : ChannelId) (state : DataChannelState)
  /-- `set_state` set this state. -/
  | transportState (state : TransportState)
  /-- A handler of the application was called. -/
  | handler (h : Handler)
  /-- A slot of the transport took a reference on a channel, in place of what it held before. -/
  | slotRef (channel : ChannelId) (previous : Option ChannelId)
  /-- A slot of the transport gave its reference on a channel back. -/
  | slotDeref (channel : ChannelId)
  /-- `send_message` passes a message to `sctp_send`. -/
  | sendMessage (info : SendvSpa) (message : Bytes)
  /-- `usrsctp_sendv` was called and answered. -/
  | sendv (buffer : Bytes) (info : SendInfo) (flags : Nat) (written : Except Failure Nat)
  /-- `rawrtc_data_channel_send` accepted a message. -/
  | messageAccepted (channel : ChannelId)
  /-- The reset of a channel's outgoing stream was requested, with this error if any. -/
  | resetStreams (channel : ChannelId) (sid : Nat) (error : Option Failure)
  /-- There was no memory for a request to reset a channel's outgoing stream. -/
  | resetNoMemory (channel : ChannelId)
  /-- `channel_registered` found another channel, or none, in the slot of a channel. -/
  | invalidSlot (channel : ChannelId)
  /-- A complete DCEP message is about to be handled. -/
  | dcepMessage (sid : Nat) (message : Bytes)
  /-- `usrsctp_close`. -/
  | usrsctpClose
  /-- `fclose` of the trace file. -/
  | fclose
  /-- `mem_deref` of a pointer that has not been set. What it releases is not determined. -/
  | derefUnset
deriving DecidableEq

/-! ## Section 5: The transport -/

/-- The flags in `struct rawrtc_sctp_transport`. -/
structure TransportFlags where
  initialized : Bool := false
  detached : Bool := false
  sendingInProgress : Bool := false
  bufferedAmountLow : Bool := false
deriving DecidableEq, Repr

/-- `struct rawrtc_sctp_transport`, the data channel objects and the chunk size of
    `rawrtcdc_global`. -/
structure Transport where
  flags : TransportFlags := {}
  state : TransportState := .new
  remoteMaximumMessageSize : Nat := 0
  dataChannelHandler : Bool := false
  stateChangeHandler : Bool := false
  detachHandler : Bool := true
  destroyedHandler : Bool := false
  bufferedMessagesOutgoing : List BufferedMessage := []
  bufferDcepInbound : Option Mbuf := none
  infoDcepInbound : RcvInfo := {}
  /-- The slots: which channel is registered for a stream identifier. -/
  channels : Nat → Option ChannelId := fun _ => none
  nChannels : Nat := 65535
  /-- There is at least one slot, and every index of one fits into 16 bits. -/
  nChannels_pos : 0 < nChannels := by decide
  nChannels_le : nChannels ≤ 65535 := by decide
  currentChannelSid : Nat := 0
  traceHandle : Bool := false
  socket : Bool := true
  /-- The data channel objects; those from `nextChannel` on do not exist yet. -/
  dataChannels : ChannelId → DataChannel := fun _ =>
    { parameters := ⟨none, .reliableOrdered, 0, none, false, 0, fun _ => rfl, fun _ => rfl⟩ }
  nextChannel : ChannelId := 0
  usrsctpChunkSize : Nat
  history : List Event := []

/-- Routines of the library. -/
abbrev M := Routine Op Op.Reply Transport

namespace Transport

variable (t : Transport)

/-- The context a channel's `transport_arg` points to. -/
def context (c : ChannelId) : Context :=
  (t.dataChannels c).transportArg.getD {}

/-- Add an event to the history. -/
def log (e : Event) : Transport :=
  { t with history := t.history ++ [e] }

/-- Change a data channel object. -/
def modifyChannel (c : ChannelId) (f : DataChannel → DataChannel) : Transport :=
  { t with dataChannels := Function.update t.dataChannels c (f (t.dataChannels c)) }

/-- Change the context of a channel. -/
def modifyContext (c : ChannelId) (f : Context → Context) : Transport :=
  t.modifyChannel c fun ch => { ch with transportArg := ch.transportArg.map f }

/-- Store a DCEP reassembly buffer and the receive info that belongs to it. -/
def keepDcep (buffer : Option Mbuf) (info : RcvInfo) : Transport :=
  { t with bufferDcepInbound := buffer, infoDcepInbound := info }

/-- Store a DCEP reassembly buffer, or release it. -/
def setDcepBuffer (buffer : Option Mbuf) : Transport :=
  { t with bufferDcepInbound := buffer }

/-- Write a slot. -/
def setSlot (i : Nat) (entry : Option ChannelId) : Transport :=
  { t with channels := Function.update t.channels i entry }

end Transport

/-! ## Section 6: Calling out -/

/-- Add an event to the history. -/
def logEvent (e : Event) : M Unit :=
  modify (·.log e)

/-- Allocate memory. -/
def alloc : M Bool :=
  Routine.perform Op.alloc

/-- Allocate a send context. -/
def allocSendContext : M Bool :=
  Routine.perform Op.allocSendContext

/-- Call a handler of the application. -/
def callHandler (h : Handler) : M Unit := do
  logEvent (.handler h)
  Routine.perform (Op.handler h)

/-- `usrsctp_sendv`. -/
def usrsctpSendv (buffer : Bytes) (info : SendInfo) (flags : Nat) : M (Except Failure Nat) := do
  let written : Except Failure Nat ← Routine.perform (Op.sendv buffer info flags)
  logEvent (.sendv buffer info flags written)
  return written

/-- `usrsctp_connect`. -/
def usrsctpConnect : M ConnectResult :=
  Routine.perform Op.connect

/-- `usrsctp_setsockopt` of `SCTP_PEER_ADDR_PARAMS`. -/
def usrsctpSetPeerAddrParams (mtu : Nat) : M (Option Failure) :=
  Routine.perform (Op.setPeerAddrParams mtu)

/-- `context.role_getter`. -/
def roleGetter : M (Except Failure DtlsRole) :=
  Routine.perform Op.roleGetter

/-- `context.state_getter`. -/
def stateGetter : M (Except Failure DtlsTransportState) :=
  Routine.perform Op.stateGetter

section Run

variable (s : Transport)

@[simp] theorem run_logEvent (e : Event) : (logEvent e).run s = .ret () (s.log e) := rfl

@[simp] theorem run_alloc : alloc.run s = .out .alloc s fun ok s' => .ret ok s' := rfl

@[simp] theorem run_allocSendContext :
    allocSendContext.run s = .out .allocSendContext s fun ok s' => .ret ok s' := rfl

@[simp] theorem run_callHandler (h : Handler) :
    (callHandler h).run s = .out (.handler h) (s.log (.handler h)) fun r s' => .ret r s' := rfl

@[simp] theorem run_usrsctpSendv (buffer : Bytes) (info : SendInfo) (flags : Nat) :
    (usrsctpSendv buffer info flags).run s = .out (.sendv buffer info flags) s
      fun written s' => .ret written (s'.log (.sendv buffer info flags written)) := rfl

@[simp] theorem run_usrsctpConnect :
    usrsctpConnect.run s = .out .connect s fun r s' => .ret r s' := rfl

@[simp] theorem run_usrsctpSetPeerAddrParams (mtu : Nat) :
    (usrsctpSetPeerAddrParams mtu).run s =
      .out (.setPeerAddrParams mtu) s fun r s' => .ret r s' := rfl

@[simp] theorem run_roleGetter :
    roleGetter.run s = .out .roleGetter s fun r s' => .ret r s' := rfl

@[simp] theorem run_stateGetter :
    stateGetter.run s = .out .stateGetter s fun r s' => .ret r s' := rfl

end Run

end RawrtcDataChannel
