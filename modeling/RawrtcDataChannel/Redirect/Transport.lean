import RawrtcDataChannel.Checksum.Crc32c
import RawrtcDataChannel.OpenMessage
import RawrtcDataChannel.Packets
import RawrtcDataChannel.Reentrant.RelyGuarantee

/-!
# The redirect transport

The code of `sctp_redirect_transport/transport.c`: it passes SCTP packets between a raw socket and
an outbound handler and replaces the ports in their headers.

Socket addresses are those of libre. The class `SocketAddress` states what the transport relies
on. Ports and addresses are kept as the numbers they stand for.
-/

namespace RawrtcDataChannel

open Reentrant

/-! ## Section 1: The data model -/

/-- `struct sa` of an IPv4 address. -/
structure Sa where
  addr : UInt32
  port : Nat
deriving DecidableEq, Repr

/-- `INADDR_ANY`. -/
def inaddrAny : UInt32 := 0

/-- The two functions on IPv4 addresses the transport uses. -/
class SocketAddress where
  /-- `sa_isset` with `SA_ADDR`. -/
  saIsset : Sa → Bool
  saIsset_iff (sa : Sa) : saIsset sa = true ↔ sa.addr ≠ inaddrAny
  /-- `sa_cmp` with `SA_ADDR`. -/
  saCmp : Sa → Sa → Bool
  saCmp_iff (l r : Sa) : saCmp l r = true ↔ l.addr = r.addr

/-- The functions on addresses, decided by the numbers. -/
@[reducible] def plainSocketAddress : SocketAddress where
  saIsset sa := sa.addr != inaddrAny
  saIsset_iff _ := bne_iff_ne
  saCmp l r := l.addr == r.addr
  saCmp_iff _ _ := beq_iff_eq

/-- `enum rawrtc_sctp_redirect_transport_state`. -/
inductive RedirectTransportState
  | new
  | opened
  | closed
deriving DecidableEq, Repr

/-- The flags in `struct rawrtc_sctp_redirect_transport` that are read. -/
structure RedirectTransportFlags where
  detached : Bool := false
deriving DecidableEq, Repr

/-- `struct rawrtc_sctp_redirect_transport`, where its buffer lies in memory, and what selects the
    CRC-32C implementation of `rawrtcdc_global`. -/
structure RedirectTransport where
  flags : RedirectTransportFlags := {}
  state : RedirectTransportState := .new
  localPort : Nat
  remotePort : Nat := 0
  redirectAddress : Sa
  stateChangeHandler : Bool := false
  buffer : Mbuf := ⟨[], 0⟩
  bufferAddress : Nat
  enableSse42 : Bool
  sse42Supported : Bool
deriving DecidableEq, Repr

/-- What the transport asks of its surroundings. -/
inductive RedirectOp
  /-- `context.outbound_handler`, with the bytes of the buffer. -/
  | outboundHandler (buffer : Bytes)
  /-- `context.detach_handler`. -/
  | detachHandler
  /-- `transport->state_change_handler`. -/
  | stateChangeHandler (state : RedirectTransportState)
  /-- `fd_listen` on the raw socket. -/
  | fdListen
  /-- `sendto` on the raw socket, with the bytes of the buffer. -/
  | sendto (buffer : Bytes)
deriving DecidableEq, Repr

/-- What an operation is answered with. -/
def RedirectOp.Reply : RedirectOp → Type
  | .outboundHandler _ => Code
  | .detachHandler => Unit
  | .stateChangeHandler _ => Unit
  | .fdListen => Option Failure
  | .sendto _ => Option Failure

/-- Routines of the redirect transport. -/
abbrev RedirectM := Routine RedirectOp RedirectOp.Reply RedirectTransport

/-- `context.outbound_handler`. -/
def outboundHandler (buffer : Bytes) : RedirectM Code :=
  Routine.perform (RedirectOp.outboundHandler buffer)

/-- `context.detach_handler`. -/
def redirectDetachHandler : RedirectM Unit :=
  Routine.perform RedirectOp.detachHandler

/-- `transport->state_change_handler`. -/
def redirectStateChangeHandler (state : RedirectTransportState) : RedirectM Unit :=
  Routine.perform (RedirectOp.stateChangeHandler state)

/-- `fd_listen` on the raw socket. -/
def fdListen : RedirectM (Option Failure) :=
  Routine.perform RedirectOp.fdListen

/-- `sendto` on the raw socket. -/
def sendto (buffer : Bytes) : RedirectM (Option Failure) :=
  Routine.perform (RedirectOp.sendto buffer)

section Run

variable (s : RedirectTransport)

@[simp] theorem run_outboundHandler (buffer : Bytes) : (outboundHandler buffer).run s =
    .out (.outboundHandler buffer) s fun r s' => .ret r s' := rfl

@[simp] theorem run_redirectDetachHandler :
    redirectDetachHandler.run s = .out .detachHandler s fun r s' => .ret r s' := rfl

@[simp] theorem run_redirectStateChangeHandler (state : RedirectTransportState) :
    (redirectStateChangeHandler state).run s =
      .out (.stateChangeHandler state) s fun r s' => .ret r s' := rfl

@[simp] theorem run_fdListen : fdListen.run s = .out .fdListen s fun r s' => .ret r s' := rfl

@[simp] theorem run_sendto (buffer : Bytes) :
    (sendto buffer).run s = .out (.sendto buffer) s fun r s' => .ret r s' := rfl

end Run

namespace RedirectTransport

variable (t : RedirectTransport)

/-- Replace the receive buffer. -/
def setBuffer (buffer : Mbuf) : RedirectTransport :=
  { t with buffer := buffer }

/-- `mbuf_rewind` of the receive buffer. -/
def rewind : RedirectTransport :=
  t.setBuffer ⟨[], 0⟩

/-- `transport->state = state`. -/
def setState (state : RedirectTransportState) : RedirectTransport :=
  { t with state := state }

/-- Set `RAWRTC_SCTP_REDIRECT_TRANSPORT_FLAGS_DETACHED`. -/
def detach : RedirectTransport :=
  { t with flags := { t.flags with detached := true } }

/-- `transport->remote_port = remote_port`. -/
def setRemotePort (remotePort : Nat) : RedirectTransport :=
  { t with remotePort := remotePort }

end RedirectTransport

/-! ## Section 2: Patching headers -/

/-- Memory with some bytes at an address. -/
def Memory.holding (address : Nat) (bytes : Bytes) : Memory :=
  fun a => bytes.getD (a - address) 0

/-- The bytes that are in memory are read back. -/
theorem Memory.bytes_holding (address : Nat) (bytes : Bytes) :
    (Memory.holding address bytes).bytes address bytes.length = bytes := by
  apply List.ext_getElem
  · simp
  · intro i hi hi'
    simp [Memory.bytes, Memory.holding, hi']

/-- `memset` of up to `n` bytes from the position on to zero. -/
def Mbuf.clear (mb : Mbuf) (n : Nat) : Mbuf :=
  { mb with data := mb.data.take mb.pos ++ List.replicate (min n mb.getLeft) 0 ++
      mb.data.drop (mb.pos + n) }

/-- `mbuf_advance` by a negative number of bytes. -/
def Mbuf.retreat (mb : Mbuf) (n : Nat) : Mbuf :=
  { mb with pos := mb.pos - n }

/-- `recvfrom` into the space behind the position, then `mbuf_set_end` to the number of bytes that
    were received. -/
def Mbuf.receive (mb : Mbuf) (bytes : Bytes) : Mbuf :=
  { mb with data := (mb.data.take mb.pos ++ bytes).take bytes.length }

section Patch

variable [SoftwareCrc32c]

/-- `rawrtc_crc32c` of the bytes in a buffer. -/
def RedirectTransport.crc32c (t : RedirectTransport) (bytes : Bytes) : BitVec 32 :=
  rawrtcCrc32c (rawrtcCrc32cInit t.enableSse42 t.sse42Supported)
    (Memory.holding t.bufferAddress bytes) t.bufferAddress bytes.length

/-- `patch_sctp_header`. -/
def patchSctpHeader (t : RedirectTransport) (buffer : Mbuf) (source destination : Nat) : Mbuf :=
  let start := buffer.pos
  let buffer := buffer.writeMem (be16 source)
  let buffer := buffer.writeMem (be16 destination)
  -- skip verification tag
  let buffer := buffer.advance 4
  -- reset checksum field and recalculate the checksum
  let buffer := buffer.clear 4
  let buffer := buffer.setPos start
  let checksum := t.crc32c buffer.rest
  -- advance to checksum field and set it
  let buffer := buffer.advance 8
  let buffer := buffer.writeMem (le32 checksum)
  buffer.setPos start

/-! ## Section 3: The code -/

/-- What `recvfrom` gives back. -/
inductive RawReceived
  | error
  | packet (fromAddress : Sa) (bytes : Bytes)
deriving DecidableEq, Repr

/-- The part of `redirect_from_raw` between receiving a packet and rewinding the buffer. -/
def redirectPacket [SocketAddress] (fromAddress : Sa) (bytes : Bytes) : RedirectM Unit := do
  modify fun t => t.setBuffer (t.buffer.receive bytes)
  let t ← get
  -- check address
  if SocketAddress.saIsset fromAddress = false ∧
      SocketAddress.saCmp t.redirectAddress fromAddress = false then
    return ()
  else
  -- skip IPv4 header
  let (first, buffer) := t.buffer.readU8
  let headerLength := (first &&& 0xf).toNat
  let buffer := (buffer.retreat 1).advance (headerLength * 4)
  -- read source and destination port
  let (source, buffer) := buffer.readU16
  let (_, buffer) := buffer.readU16
  let buffer := buffer.retreat 4
  modify (·.setBuffer buffer)
  -- is this from the correct source?
  if source ≠ t.redirectAddress.port then
    return ()
  else
  let buffer := patchSctpHeader t buffer t.localPort t.remotePort
  modify (·.setBuffer buffer)
  let _ ← outboundHandler buffer.rest

/-- `redirect_from_raw`, given whether the socket is readable and what `recvfrom` returns. -/
def redirectFromRaw [SocketAddress] (fdRead : Bool) (received : RawReceived) :
    RedirectM Unit := do
  let t ← get
  if t.flags.detached then
    return ()
  else
    if fdRead then
      match received with
      | .error => pure ()
      | .packet fromAddress bytes => redirectPacket fromAddress bytes
    -- rewind buffer
    modify RedirectTransport.rewind

/-- `set_state`. -/
def redirectSetState (state : RedirectTransportState) : RedirectM Unit := do
  if state = .closed then
    -- mark as detached & detach from DTLS transport
    modify RedirectTransport.detach
    redirectDetachHandler
  modify (·.setState state)
  let t ← get
  if t.stateChangeHandler then
    redirectStateChangeHandler state

/-- `RAWRTC_SCTP_REDIRECT_TRANSPORT_DEFAULT_PORT`. -/
def redirectDefaultPort : Nat := 5000

/-- A transport as `rawrtc_sctp_redirect_transport_create_from_external` makes it. -/
def RedirectTransport.create (port : Nat) (redirectAddress : Sa) (stateChangeHandler : Bool)
    (bufferAddress : Nat) (enableSse42 sse42Supported : Bool) : RedirectTransport where
  localPort := if 0 < port then port else redirectDefaultPort
  redirectAddress := redirectAddress
  stateChangeHandler := stateChangeHandler
  bufferAddress := bufferAddress
  enableSse42 := enableSse42
  sse42Supported := sse42Supported

/-- `rawrtc_sctp_redirect_transport_start`. -/
def redirectTransportStart (remotePort : Nat) : RedirectM Code := do
  let t ← get
  if t.state ≠ .new then
    return .invalidState
  else
    -- set default port (if 0)
    modify (·.setRemotePort (if remotePort = 0 then t.localPort else remotePort))
    match ← fdListen with
    | some error => return error.val
    | none =>
      redirectSetState .opened
      return .success

/-- `rawrtc_sctp_redirect_transport_stop`. -/
def redirectTransportStop : RedirectM Code := do
  let t ← get
  if t.flags.detached ∨ t.state = .closed then
    return .success
  else
    redirectSetState .closed
    return .success

/-- `rawrtc_sctp_redirect_transport_feed_inbound`. -/
def redirectTransportFeedInbound (buffer : Mbuf) : RedirectM Code := do
  let t ← get
  if t.flags.detached then
    return .invalidState
  else if t.state ≠ .opened then
    -- silently ignore packets as long as the transport is not open
    return .success
  else
    let buffer := patchSctpHeader t buffer t.localPort t.redirectAddress.port
    match ← sendto buffer.rest with
    | some error => return error.val
    | none => return .success

/-! ## Section 4: Entry points -/

/-- What the application and the event loop may call. -/
inductive RedirectCall
  | start (remotePort : Nat)
  | stop
  | feedInbound (buffer : Mbuf)
  | fromRaw (fdRead : Bool) (received : RawReceived)
deriving DecidableEq, Repr

/-- The code behind the entry points. -/
def RedirectCall.run [SocketAddress] : RedirectCall → RedirectM Unit
  | .start remotePort => (fun _ => ()) <$> redirectTransportStart remotePort
  | .stop => (fun _ => ()) <$> redirectTransportStop
  | .feedInbound buffer => (fun _ => ()) <$> redirectTransportFeedInbound buffer
  | .fromRaw fdRead received => redirectFromRaw fdRead received

/-- The event loop is not entered from a handler, and system functions are not interrupted. -/
def RedirectCall.Permitted (fs : List (RedirectCall × RedirectOp)) (a : RedirectCall) : Prop :=
  ∀ f ∈ fs, (∀ fdRead received, a ≠ .fromRaw fdRead received) ∧ f.2 ≠ .fdListen ∧
    ∀ buffer, f.2 ≠ .sendto buffer

/-- The redirect transport with surroundings that answer as they like. -/
def redirectHost [SocketAddress] :
    Host RedirectCall RedirectOp RedirectOp.Reply RedirectTransport Unit where
  code := RedirectCall.run
  permits fs _ a := a.Permitted fs
  answers _ _ _ := True

end Patch

end RawrtcDataChannel
