import RawrtcDataChannel.Fallible
import RawrtcDataChannel.Redirect.Transport
import RawrtcDataChannel.Reentrant.Part

/-!
# The raw sockets of redirect transports

Any number of redirect transports, from their creation, which may fail at any step, to their
destruction, with the descriptors of their raw sockets. What a transport does in its life is the
code of `RedirectCall`; here it is run on one of many objects, and the places where a descriptor is
obtained or closed are added.

The events of a transport do not exist in the code: they say which descriptors `socket()` gave to
it and on which ones it called `close()`.
-/

namespace RawrtcDataChannel

open Reentrant Fallible

/-! ## Section 1: Objects -/

/-- What a transport does with descriptors. -/
inductive DescriptorEvent
  /-- `socket()` returned this descriptor. -/
  | opened (fd : Int)
  /-- `close()` was called on this descriptor. -/
  | closed (fd : Int)
deriving DecidableEq, Repr

/-- A redirect transport with all of its fields that decide about descriptors. `mem_zalloc` leaves
    0 in `socket`. -/
structure RedirectObject where
  transport : RedirectTransport
  initialized : Bool := false
  destroyedHandler : Bool := false
  /-- `transport->buffer` is not `NULL`. -/
  hasBuffer : Bool := false
  socket : Int := 0
  /-- The destructor has finished. -/
  destroyed : Bool := false
  events : List DescriptorEvent := []
deriving DecidableEq

/-- All objects; those from `next` on do not exist yet. -/
structure RedirectWorld where
  objects : Nat → RedirectObject := fun _ => { transport := .create 0 ⟨0, 0⟩ false 0 false false }
  next : Nat := 0

namespace RedirectWorld

variable (w : RedirectWorld)

/-- Change an object. -/
def modifyObject (i : Nat) (f : RedirectObject → RedirectObject) : RedirectWorld :=
  { w with objects := Function.update w.objects i (f (w.objects i)) }

/-- Replace the transport of an object. -/
def setTransport (i : Nat) (t : RedirectTransport) : RedirectWorld :=
  w.modifyObject i ({ · with transport := t })

/-- Add an object. -/
def addObject (object : RedirectObject) : RedirectWorld :=
  { objects := Function.update w.objects w.next object, next := w.next + 1 }

end RedirectWorld

namespace RedirectObject

variable (t : RedirectObject)

/-- Stop listening and close raw socket. -/
def closeRawSocket : RedirectObject :=
  if t.socket ≠ -1 then { t with events := t.events ++ [.closed t.socket] } else t

/-- Store what `socket()` returned. -/
def storeSocket (fd : Nat) : RedirectObject :=
  { t with socket := fd, events := t.events ++ [.opened fd] }

/-- The descriptor field after `socket()` failed. -/
def noSocket : RedirectObject :=
  { t with socket := -1 }

end RedirectObject

/-! ## Section 2: Calls to the surroundings -/

/-- What the objects ask of their surroundings. -/
inductive ObjectOp
  | transport (i : Nat) (o : RedirectOp)
  /-- `context.destroyed_handler`. -/
  | destroyedHandler (i : Nat)
deriving DecidableEq

/-- What an operation is answered with. -/
def ObjectOp.Reply : ObjectOp → Type
  | .transport _ o => o.Reply
  | .destroyedHandler _ => Unit

/-- Routines that work on all objects. -/
abbrev ObjectM := Routine ObjectOp ObjectOp.Reply RedirectWorld

/-- The transport of an object, as a part of the whole. -/
def transportPart (i : Nat) : Part RedirectWorld RedirectTransport where
  get w := (w.objects i).transport
  put w t := w.setTransport i t

/-- Operations of the transport of an object. -/
def transportOps (i : Nat) : Embedding RedirectOp.Reply ObjectOp.Reply where
  op := .transport i
  reply _ r := r

/-- Run the code of a single transport on one of the objects. -/
def onTransport {α : Type} (i : Nat) (m : RedirectM α) : ObjectM α :=
  m.onPart (transportPart i) (transportOps i)

/-! ## Section 3: Stopping and destroying -/

/-- `set_state`. -/
def objectSetState (i : Nat) (state : RedirectTransportState) : ObjectM Unit := do
  if state = .closed then
    modify (·.modifyObject i RedirectObject.closeRawSocket)
  onTransport i (redirectSetState state)

/-- `rawrtc_sctp_redirect_transport_stop`. -/
def objectStop (i : Nat) : ObjectM Code := do
  let w ← get
  if (w.objects i).transport.flags.detached ∨ (w.objects i).transport.state = .closed then
    return .success
  else
    objectSetState i .closed
    return .success

/-- `rawrtc_sctp_redirect_transport_destroy`, and the memory is gone. -/
def objectDestroy (i : Nat) : ObjectM Unit := do
  let _ ← objectStop i
  let w ← get
  if (w.objects i).initialized ∧ (w.objects i).destroyedHandler then
    Routine.perform (ObjectOp.destroyedHandler i)
  modify (·.modifyObject i ({ · with destroyed := true }))

/-! ## Section 4: Creating -/

/-- What `rawrtc_sctp_redirect_transport_create_from_external` is given, and what the calls it
    makes are answered with. -/
structure RedirectAnswers where
  /-- None of `transportp`, `context` and `redirect_ip` is `NULL`. -/
  pointers : Bool := true
  port : Nat := 0
  redirectPort : Nat := 5000
  /-- `sa_set_str`; the address if it is one of IPv4. -/
  redirectAddress : Except Failure (Option UInt32) := .ok (some 0x0a000002)
  stateGetter : Bool := true
  outboundHandler : Bool := true
  detachHandler : Bool := true
  destroyedHandler : Bool := false
  stateChangeHandler : Bool := false
  dtlsTransportState : Except Failure DtlsTransportState := .ok .connected
  allocTransport : Bool := true
  allocBuffer : Bool := true
  /-- `socket()`. -/
  socket : Except Failure Nat := .ok 3
  /-- `net_sockopt_blocking_set`. -/
  blockingSet : Option Failure := none
  bufferAddress : Nat := 0
  enableSse42 : Bool := false
  sse42Supported : Bool := false

/-- The tests a creation makes before it allocates: the error, or the address. -/
def checkRedirectArguments (a : RedirectAnswers) : Except Code UInt32 :=
  if !a.pointers ∨ a.redirectPort = 0 then
    .error .invalidArgument
  else
    -- ensure it's an IPv4 address
    match a.redirectAddress with
    | .error error => .error error.val
    | .ok none => .error .invalidArgument
    | .ok (some addr) =>
      if !a.stateGetter || !a.outboundHandler || !a.detachHandler then
        .error .invalidArgument
      else
        -- check DTLS transport state
        match a.dtlsTransportState with
        | .error _ => .error .externalError
        | .ok .closedOrFailed => .error .invalidState
        | .ok .newOrConnecting | .ok .connected => .ok addr

/-- An object after its fields have been set. -/
def RedirectObject.allocated (a : RedirectAnswers) (addr : UInt32) : RedirectObject where
  transport := .create a.port ⟨addr, a.redirectPort⟩ a.stateChangeHandler a.bufferAddress
    a.enableSse42 a.sse42Supported
  destroyedHandler := a.destroyedHandler

/-- Create buffer, create raw socket, set non-blocking. -/
def openRawSocket (a : RedirectAnswers) : EStateM Code RedirectObject Unit := do
  if a.allocBuffer then
    modify ({ · with hasBuffer := true })
  else
    throw .noMemory
  match a.socket with
  | .error error =>
    modify RedirectObject.noSocket
    throw error.val
  | .ok fd => modify (·.storeSocket fd)
  orFail (a.blockingSet.map (·.val))

/-- `rawrtc_sctp_redirect_transport_create_from_external`. -/
def objectCreate (a : RedirectAnswers) : ObjectM (Except Code Nat) := do
  match checkRedirectArguments a with
  | .error error => return .error error
  | .ok addr =>
    if a.allocTransport then
      let w ← get
      match (openRawSocket a).run (.allocated a addr) with
      | .ok _ object =>
        modify (·.addObject { object with initialized := true })
        return .ok w.next
      | .error error object =>
        modify (·.addObject object)
        objectDestroy w.next
        return .error error
    else
      return .error .noMemory

/-! ## Section 5: Entry points -/

/-- What the application and the event loop may call. -/
inductive ObjectCall
  | create (a : RedirectAnswers)
  | use (i : Nat) (a : RedirectCall)
  | destroy (i : Nat)

/-- The code behind the entry points. -/
def ObjectCall.run [SoftwareCrc32c] [SocketAddress] : ObjectCall → ObjectM Unit
  | .create a => (fun _ => ()) <$> objectCreate a
  -- of the entry points of a transport only this one closes anything
  | .use i .stop => (fun _ => ()) <$> objectStop i
  | .use i a => onTransport i a.run
  | .destroy i => objectDestroy i

/-- The object a call is for. Nobody else knows of an object that is being created. -/
def ObjectCall.target : ObjectCall → Option Nat
  | .create _ => none
  | .use i _ | .destroy i => some i

/-- Handlers may use the library, system functions do not. -/
def ObjectOp.isHandler : ObjectOp → Bool
  | .transport _ .fdListen | .transport _ (.sendto _) => false
  | _ => true

/-- When an entry point may be used: on objects that were created and not destroyed, which is
    not called on an object one of whose routines is suspended; and the event loop is not entered
    from a handler. -/
structure ObjectCall.Permitted (fs : List (ObjectCall × ObjectOp)) (w : RedirectWorld)
    (a : ObjectCall) : Prop where
  handler : ∀ f ∈ fs, f.2.isHandler = true
  usable : ∀ i, a.target = some i →
    i < w.next ∧ (w.objects i).initialized = true ∧ (w.objects i).destroyed = false
  destroy : ∀ i, a = .destroy i → ∀ f ∈ fs, f.1.target ≠ some i
  fromRaw : ∀ i fdRead received, a = .use i (.fromRaw fdRead received) → fs = []

/-- All objects, with surroundings that answer as they like. -/
def objectHost [SoftwareCrc32c] [SocketAddress] :
    Host ObjectCall ObjectOp ObjectOp.Reply RedirectWorld Unit where
  code := ObjectCall.run
  permits fs w a := a.Permitted fs w
  answers _ _ _ := True

end RawrtcDataChannel
