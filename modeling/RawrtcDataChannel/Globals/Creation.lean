import RawrtcDataChannel.Api
import RawrtcDataChannel.Fallible

/-!
# The global state, and creating transports

`rawrtcdc_global` counts the transports in use. The first one initialises usrsctp, starts the
timer and asks for the chunk size; the last one takes the first two back. This is all of
`rawrtc_sctp_transport_create_from_external` with its error exits, and the end of
`rawrtc_sctp_transport_destroy`, which every failing creation goes through as well.
-/

namespace RawrtcDataChannel

open Reentrant Fallible

/-! ## Section 1: The global state -/

/-- A call that changes what all transports share. -/
inductive GlobalCall
  | usrsctpInit
  | usrsctpFinish
  /-- `timer_handler`, and the error it returned, if any. -/
  | timerHandler (on : Bool) (error : Option Failure)
deriving DecidableEq

/-- Whether usrsctp is initialised after a call, if `up` says so for the time before. -/
def GlobalCall.usrsctpAfter (up : Bool) : GlobalCall → Bool
  | .usrsctpInit => true
  | .usrsctpFinish => false
  | .timerHandler _ _ => up

/-- Whether the timer is running after a call. A call that returns an error changes nothing. -/
def GlobalCall.timerAfter (running : Bool) : GlobalCall → Bool
  | .timerHandler on none => on
  | .timerHandler _ (some _) | .usrsctpInit | .usrsctpFinish => running

/-- Whether usrsctp is initialised after these calls. -/
def usrsctpUp (calls : List GlobalCall) : Bool :=
  calls.foldl GlobalCall.usrsctpAfter false

/-- Whether the timer is running after these calls. -/
def timerRunning (calls : List GlobalCall) : Bool :=
  calls.foldl GlobalCall.timerAfter false

/-- `struct rawrtcdc_global`, less the handlers. The calls are not a field in the code. -/
structure RawrtcdcGlobal where
  usrsctpInitialized : Nat := 0
  usrsctpChunkSize : Nat := 0
  calls : List GlobalCall := []
deriving DecidableEq

namespace RawrtcdcGlobal

/-- Take down a call. -/
def logCall (c : GlobalCall) (g : RawrtcdcGlobal) : RawrtcdcGlobal :=
  { g with calls := g.calls ++ [c] }

/-- Initialise usrsctp (if needed). -/
def initUsrsctp (g : RawrtcdcGlobal) : RawrtcdcGlobal :=
  if g.usrsctpInitialized = 0 then g.logCall .usrsctpInit else g

/-- Increase the in-use counter. -/
def increase (g : RawrtcdcGlobal) : RawrtcdcGlobal :=
  { g with usrsctpInitialized := g.usrsctpInitialized + 1 }

/-- Decrease the in-use counter, and close usrsctp (if needed). Cancelling the timer may be
    refused, which is not looked at. -/
def decrease (cancelTimer : Option Failure) (g : RawrtcdcGlobal) : RawrtcdcGlobal :=
  let g : RawrtcdcGlobal := { g with usrsctpInitialized := g.usrsctpInitialized - 1 }
  if g.usrsctpInitialized = 0 then
    (g.logCall (.timerHandler false cancelTimer)).logCall .usrsctpFinish
  else
    g

/-- Store the chunk size. -/
def setChunkSize (size : Nat) (g : RawrtcdcGlobal) : RawrtcdcGlobal :=
  { g with usrsctpChunkSize := size }

end RawrtcdcGlobal

/-! ## Section 2: What a creation meets -/

/-- `sctp_events`. -/
inductive SctpEvent
  | assocChange
  | partialDeliveryEvent
  | sendFailedEvent
  | senderDryEvent
  | shutdownEvent
  | streamChangeEvent
  | streamResetEvent
deriving DecidableEq, Repr

/-- The events in their order in the array. -/
def sctpEvents : List SctpEvent :=
  [.assocChange, .partialDeliveryEvent, .sendFailedEvent, .senderDryEvent, .shutdownEvent,
    .streamChangeEvent, .streamResetEvent]

/-- `RAWRTC_CODE_INITIALISE_FAIL`, which only the creation of a transport returns. -/
def Code.initialiseFail : Code := .other 0

/-- `sizeof(int)`. -/
def sizeofInt : Nat := 4

/-- What `rawrtc_sctp_transport_create_from_external` is given, and what the calls it makes are
    answered with. -/
structure CreateAnswers where
  /-- Neither `transportp` nor `context` is `NULL`. -/
  pointers : Bool := true
  roleGetter : Bool := true
  stateGetter : Bool := true
  outboundHandler : Bool := true
  detachHandler : Bool := true
  destroyedHandler : Bool := false
  tracePackets : Bool := false
  dataChannelHandler : Bool := false
  stateChangeHandler : Bool := false
  dtlsTransportState : Except Failure DtlsTransportState := .ok .connected
  allocTransport : Bool := true
  scheduleTimer : Option Failure := none
  allocChannels : Bool := true
  traceHandleName : Option Failure := none
  /-- Whether the trace file could be opened. -/
  traceHandle : Bool := true
  socket : Option Failure := none
  setNonBlocking : Option Failure := none
  setUpcall : Option Failure := none
  /-- The size of the option and its value. -/
  partialDeliveryPoint : Except Failure (Nat × Int) := .ok (sizeofInt, 65536)
  enableStreamReset : Option Failure := none
  recvrcvinfo : Option Failure := none
  linger : Option Failure := none
  nodelay : Option Failure := none
  explicitEor : Option Failure := none
  event : SctpEvent → Option Failure := fun _ => none
  bind : Option Failure := none
  /-- Asked for by the destructor, when the creation has failed. -/
  cancelTimer : Option Failure := none

/-- `validate_context`. -/
def validateContext (a : CreateAnswers) : Code :=
  if !a.roleGetter || !a.stateGetter || !a.outboundHandler || !a.detachHandler then
    .invalidArgument
  else
    .success

/-! ## Section 3: Creating a transport -/

/-- A transport under construction, and the global state. -/
structure Creating where
  transport : Transport
  global : RawrtcdcGlobal

/-- Steps of a creation. -/
abbrev Creation := EStateM Code Creating

/-- A call that makes the creation fail if it fails. -/
def failWith (error : Option Failure) : Creation Unit :=
  orFail (error.map (·.val))

/-- The transport as it is after its fields have been set. The code has no slots yet and a
    number of channels of 0; here the slots are there, and empty. -/
def Transport.allocated (a : CreateAnswers) (g : RawrtcdcGlobal) : Transport :=
  { Transport.create a.dataChannelHandler a.stateChangeHandler a.destroyedHandler false
      g.usrsctpChunkSize with
    flags := {}
    detachHandler := a.detachHandler
    socket := false }

/-- Start timer (if needed). -/
def startTimer (a : CreateAnswers) : Creation Unit := do
  let s ← get
  if s.global.usrsctpInitialized = 1 then
    modify fun s => { s with global := s.global.logCall (.timerHandler true a.scheduleTimer) }
    if a.scheduleTimer.isSome then
      throw .externalError

/-- `data_channels_alloc`, which only allocates here. -/
def dataChannelsAlloc (a : CreateAnswers) : Creation Unit :=
  if a.allocChannels then pure () else throw .noMemory

/-- Create packet tracer. An error that the name of the file makes is not acted upon at once: it
    stays in `error`. -/
def createPacketTracer (a : CreateAnswers) : Creation (Option Failure) := do
  if a.tracePackets then
    match a.traceHandleName with
    | some error => return some error
    | none =>
      modify fun s => { s with transport := { s.transport with traceHandle := a.traceHandle } }
      return none
  else
    return none

/-- Create SCTP socket. -/
def createSocket (a : CreateAnswers) : Creation Unit := do
  failWith a.socket
  modify fun s => { s with transport := { s.transport with socket := true } }

/-- Determine chunk size. -/
def determineChunkSize (a : CreateAnswers) : Creation Unit := do
  let s ← get
  if s.global.usrsctpInitialized = 1 then
    match a.partialDeliveryPoint with
    | .error error => throw error.val
    | .ok (size, value) =>
      -- check value
      if size ≠ sizeofInt ∨ value < 1 then
        throw Code.initialiseFail
      else
        modify fun s =>
          { transport := { s.transport with usrsctpChunkSize := value.toNat }
            global := s.global.setChunkSize value.toNat }

/-- Subscribe to SCTP event notifications. -/
def subscribe (a : CreateAnswers) : List SctpEvent → Creation Unit
  | [] => return ()
  | event :: events => do
    failWith (a.event event)
    subscribe a events

/-- The part of the creation that works on the transport. -/
def openTransport (a : CreateAnswers) : Creation Unit := do
  startTimer a
  dataChannelsAlloc a
  let error ← createPacketTracer a
  createSocket a
  failWith a.setNonBlocking
  failWith a.setUpcall
  determineChunkSize a
  failWith a.enableStreamReset
  failWith a.recvrcvinfo
  failWith a.linger
  failWith a.nodelay
  failWith a.explicitEor
  subscribe a sctpEvents
  failWith a.bind
  -- `out`, reached without a failed step, but maybe with an error from the packet tracer
  failWith error

/-! ## Section 4: The transports of a process -/

/-- The handler an event is a call of. -/
def Event.handler? : Event → Option Handler
  | .handler h => some h
  | _ => none

@[simp] theorem Event.handler?_handler (h : Handler) : (Event.handler h).handler? = some h := rfl

@[simp] theorem Event.handler?_transportState (state : TransportState) :
    (Event.transportState state).handler? = none := rfl

@[simp] theorem Event.handler?_usrsctpClose : Event.usrsctpClose.handler? = none := rfl

@[simp] theorem Event.handler?_fclose : Event.fclose.handler? = none := rfl

/-- The global state and the transports that have been created and not released since. -/
structure World where
  global : RawrtcdcGlobal := {}
  live : List Transport := []

/-- What a step returns, the handlers of the application it called, and what it leaves. -/
structure StepResult where
  code : Code
  handlers : List Handler := []
  world : World

section Steps

variable [MessageBuffer]

/-- The handlers that destroying a transport calls. The surroundings `meanwhile` say what the
    calls answer and what they leave of the transport. -/
def destroyHandlers (meanwhile : (o : Op) → Transport → o.Reply × Transport) (t : Transport) :
    List Handler :=
  ((sctpTransportDestroy.run { t with history := [] }).execIn meanwhile).2.history.filterMap
    Event.handler?

/-- The part of the creation after the checks of its arguments. While it runs nobody else knows
    of the transport, so when it fails the destructor runs undisturbed. -/
def createTransport (a : CreateAnswers) (w : World) : StepResult :=
  let g := w.global.initUsrsctp
  if a.allocTransport then
    match (openTransport a).run ⟨.allocated a g.increase, g.increase⟩ with
    | .ok _ s =>
      { code := .success
        world := ⟨s.global, w.live ++ [{ s.transport with flags := { initialized := true } }]⟩ }
    | .error e s =>
      { code := e
        handlers := destroyHandlers (fun o t => (obligingOracle o t, t)) s.transport
        world := ⟨s.global.decrease a.cancelTimer, w.live⟩ }
  else
    { code := .noMemory, world := ⟨g, w.live⟩ }

/-- `rawrtc_sctp_transport_create_from_external`. -/
def sctpTransportCreateFromExternal (a : CreateAnswers) (w : World) : StepResult :=
  if !a.pointers then
    { code := .invalidArgument, world := w }
  else if validateContext a ≠ .success then
    { code := validateContext a, world := w }
  else
    -- check DTLS transport state
    match a.dtlsTransportState with
    | .error _ => { code := .externalError, world := w }
    | .ok .closedOrFailed => { code := .invalidState, world := w }
    | .ok .newOrConnecting | .ok .connected => createTransport a w

/-- The final `mem_deref` of a transport, which runs `rawrtc_sctp_transport_destroy`. -/
def sctpTransportRelease (i : Nat) (meanwhile : (o : Op) → Transport → o.Reply × Transport)
    (cancelTimer : Option Failure) (w : World) : StepResult :=
  match w.live[i]? with
  | none => { code := .success, world := w }
  | some t =>
    { code := .success
      handlers := destroyHandlers meanwhile t
      world := ⟨w.global.decrease cancelTimer, w.live.eraseIdx i⟩ }

/-- What happens to the transports of a process. -/
inductive Step
  | create (a : CreateAnswers)
  /-- Whatever else the library does with a transport changes that transport only. -/
  | use (i : Nat) (t : Transport)
  | release (i : Nat) (meanwhile : (o : Op) → Transport → o.Reply × Transport)
      (cancelTimer : Option Failure)

/-- One step. -/
def Step.run (w : World) : Step → StepResult
  | .create a => sctpTransportCreateFromExternal a w
  | .use i t => { code := .success, world := { w with live := w.live.set i t } }
  | .release i meanwhile cancelTimer => sctpTransportRelease i meanwhile cancelTimer w

/-- Where a sequence of steps leads, from the state `rawrtcdc_init` leaves. -/
def World.after (steps : List Step) : World :=
  steps.foldl (fun w step => (step.run w).world) {}

end Steps

end RawrtcDataChannel
