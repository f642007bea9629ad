import Mathlib.Data.ENat.Basic
import RawrtcDataChannel.Api

/-!
# The life of a transport and its channels

What the order of events in a transport's life depends on: the states of the transport and of its
channels, the slots, whether messages are waiting, and what has happened so far. `View` is this
part of the state. All other fields can change freely as far as this folder is concerned.

`Ongoing` says what is in progress while handlers run. A routine that hands control over in the
middle of a transition leaves the state in a shape that would be wrong at rest: a closed channel
that is still in its slot, a connected transport with a channel that is not open yet. Such shapes
are allowed exactly while the routine that will complete them is suspended.
-/

namespace RawrtcDataChannel

open Reentrant

/-! ## Section 1: Events -/

namespace Event

/-- The events that may happen at most once. -/
def AtMostOnce : Event → Prop
  | .slotRef _ _ | .slotDeref _ | .usrsctpClose | .fclose => True
  | .handler (.closeHandler _) | .handler .detachHandler => True
  | _ => False

/-- The events by which a transport lets go of its surroundings. -/
def IsShutdown : Event → Prop
  | .usrsctpClose | .fclose | .handler .detachHandler => True
  | _ => False

/-- The events that mark no progress in the life of the transport or of a channel. -/
def Plain : Event → Prop
  | .sendMessage _ _ | .sendv _ _ _ _ | .dcepMessage _ _ => True
  | .derefUnset | .resetNoMemory _ => True
  | .handler (.dataChannelHandler _) | .handler (.bufferedAmountLowHandler _) => True
  | .handler (.messageHandler _ _ _) | .handler .destroyedHandler => True
  | _ => False

/-- `e.Precedes e'`: the event `e` may come before `e'`. States only move forward, nothing is
    opened or accepted after closing has begun, the stream of a channel is not reset before the
    channel is registered, and some events happen only once. -/
structure Precedes (e e' : Event) : Prop where
  states : ∀ c s s', e = .channelState c s → e' = .channelState c s' → s < s'
  opened : ∀ c s, e = .channelState c s → e' = .handler (.openHandler c) → s < .closing
  accepted : ∀ c s, e = .channelState c s → e' = .messageAccepted c → s < .closing
  transportStates : ∀ s s', e = .transportState s → e' = .transportState s' → s < s'
  reports : ∀ s s', e = .handler (.stateChangeHandler s) →
    e' = .handler (.stateChangeHandler s') → s < s'
  registered : ∀ c sid error previous, e' = .slotRef c previous → e ≠ .resetStreams c sid error
  once : e.AtMostOnce → e' ≠ e

/-- A plain event may come at any time. -/
theorem Plain.precedes {e e' : Event} (h : e'.Plain) : e.Precedes e' := by
  refine ⟨?_, ?_, ?_, ?_, ?_, ?_, ?_⟩
  · rintro c s s' - rfl; exact h.elim
  · rintro c s - rfl; exact h.elim
  · rintro c s - rfl; exact h.elim
  · rintro s s' - rfl; exact h.elim
  · rintro s s' - rfl; exact h.elim
  · rintro c sid error previous rfl; exact h.elim
  · rintro honce rfl
    cases e' with
    | handler hd => cases hd <;> first | exact h.elim | exact honce.elim
    | _ => first | exact h.elim | exact honce.elim

theorem precedes_channelState {e : Event} {c : ChannelId} {s' : DataChannelState}
    (h : ∀ s, e = .channelState c s → s < s') : e.Precedes (.channelState c s') := by
  refine ⟨?_, by simp, by simp, by simp, by simp, by simp, ?_⟩
  · intro c₁ s s₁ he he'
    obtain ⟨rfl, rfl⟩ : c = c₁ ∧ s' = s₁ := by simpa using he'
    exact h s he
  · rintro honce rfl
    exact honce

theorem precedes_openHandler {e : Event} {c : ChannelId}
    (h : ∀ s, e = .channelState c s → s < .closing) :
    e.Precedes (.handler (.openHandler c)) := by
  refine ⟨by simp, ?_, by simp, by simp, by simp, by simp, ?_⟩
  · intro c₁ s he he'
    obtain rfl : c = c₁ := by simpa using he'
    exact h s he
  · rintro honce rfl
    exact honce

theorem precedes_messageAccepted {e : Event} {c : ChannelId}
    (h : ∀ s, e = .channelState c s → s < .closing) : e.Precedes (.messageAccepted c) := by
  refine ⟨by simp, by simp, ?_, by simp, by simp, by simp, ?_⟩
  · intro c₁ s he he'
    obtain rfl : c = c₁ := by simpa using he'
    exact h s he
  · rintro honce rfl
    exact honce

theorem precedes_transportState {e : Event} {s' : TransportState}
    (h : ∀ s, e = .transportState s → s < s') : e.Precedes (.transportState s') := by
  refine ⟨by simp, by simp, by simp, ?_, by simp, by simp, ?_⟩
  · intro s s₁ he he'
    obtain rfl : s' = s₁ := by simpa using he'
    exact h s he
  · rintro honce rfl
    exact honce

theorem precedes_stateChangeHandler {e : Event} {s' : TransportState}
    (h : ∀ s, e = .handler (.stateChangeHandler s) → s < s') :
    e.Precedes (.handler (.stateChangeHandler s')) := by
  refine ⟨by simp, by simp, by simp, by simp, ?_, by simp, ?_⟩
  · intro s s₁ he he'
    obtain rfl : s' = s₁ := by simpa using he'
    exact h s he
  · rintro honce rfl
    exact honce

/-- An event that happens at most once, and has not happened yet, may come. -/
theorem precedes_of_ne {e e' : Event} (honce : e'.AtMostOnce) (h : e ≠ e')
    (hreset : ∀ c sid error previous, e' = .slotRef c previous → e ≠ .resetStreams c sid error) :
    e.Precedes e' := by
  refine ⟨?_, ?_, ?_, ?_, ?_, hreset, fun _ heq => h heq.symm⟩
  · rintro c s s' - rfl; exact honce.elim
  · rintro c s - rfl; exact honce.elim
  · rintro c s - rfl; exact honce.elim
  · rintro s s' - rfl; exact honce.elim
  · rintro s s' - rfl; exact honce.elim

theorem precedes_resetStreams {e : Event} {c : ChannelId} {sid : Nat} {error : Option Failure} :
    e.Precedes (.resetStreams c sid error) := by
  refine ⟨by simp, by simp, by simp, by simp, by simp, by simp, ?_⟩
  rintro honce rfl
  exact honce

end Event

/-! ## Section 2: The view of a transport -/

/-- The part of a data channel its life depends on. -/
structure ChannelView where
  state : DataChannelState
  /-- The stream id, once the channel has been registered. -/
  sid : Option Nat
  pendingReset : Bool

/-- The part of a transport its life and that of its channels depend on. -/
structure View where
  state : TransportState
  detached : Bool
  socket : Bool
  /-- The flag for the buffered amount being low. -/
  low : Bool
  /-- No message is waiting to be sent. -/
  idle : Bool
  nSlots : Nat
  slots : Nat → Option ChannelId
  channels : ChannelId → ChannelView
  next : ChannelId
  /-- The stream id stored with the DCEP reassembly buffer. -/
  dcepSid : Nat
  history : List Event

/-- The view of a data channel. -/
def DataChannel.view (ch : DataChannel) : ChannelView where
  state := ch.state
  sid := ch.transportArg.map (·.sid)
  pendingReset := (ch.transportArg.getD {}).flags.pendingStreamReset

/-- The view of a transport. -/
def Transport.view (t : Transport) : View where
  state := t.state
  detached := t.flags.detached
  socket := t.socket
  low := t.flags.bufferedAmountLow
  idle := t.bufferedMessagesOutgoing.isEmpty
  nSlots := t.nChannels
  slots := t.channels
  channels c := (t.dataChannels c).view
  next := t.nextChannel
  dcepSid := t.infoDcepInbound.rcvSid
  history := t.history

namespace View

variable (v : View)

/-- Record an event. -/
def log (e : Event) : View :=
  { v with history := v.history ++ [e] }

/-- Change a channel. -/
def modifyChannel (c : ChannelId) (f : ChannelView → ChannelView) : View :=
  { v with channels := Function.update v.channels c (f (v.channels c)) }

/-- Set the state of a channel. -/
def setChannelState (c : ChannelId) (s : DataChannelState) : View :=
  (v.modifyChannel c ({ · with state := s })).log (.channelState c s)

/-- Mark whether the reset of a channel's outgoing stream is pending. -/
def setPendingReset (c : ChannelId) (pending : Bool) : View :=
  v.modifyChannel c ({ · with pendingReset := pending })

/-- Make a new channel. -/
def allocate : View :=
  { v with next := v.next + 1 }.modifyChannel v.next fun _ => ⟨.connecting, none, false⟩

/-- Register a channel under a stream id. -/
def register (c : ChannelId) (sid : Nat) (pending : Bool) : View :=
  { v.modifyChannel c ({ · with sid := some sid, pendingReset := pending }) with
    slots := Function.update v.slots sid (some c) }.log (.slotRef c (v.slots sid))

/-- Remove a channel from its slot. -/
def release (i : Nat) (c : ChannelId) : View :=
  { v with slots := Function.update v.slots i none }.log (.slotDeref c)

/-- Set the state of the transport. -/
def enter (s : TransportState) : View :=
  { v with state := s }.log (.transportState s)

/-- Give up the socket. -/
def closeSocket : View :=
  { v.log .usrsctpClose with socket := false }

/-- The reset of the outgoing stream of a channel has been requested. -/
def ResetDone (c : ChannelId) : Prop :=
  ∃ sid, .resetStreams c sid none ∈ v.history

/-! ### What each change does to the parts of a view -/

section Parts

variable (c c' : ChannelId) (s : DataChannelState) (e : Event) (i sid : Nat) (pending : Bool)

@[simp] theorem history_log : (v.log e).history = v.history ++ [e] := rfl
@[simp] theorem channels_log : (v.log e).channels = v.channels := rfl
@[simp] theorem slots_log : (v.log e).slots = v.slots := rfl
@[simp] theorem state_log : (v.log e).state = v.state := rfl

@[simp] theorem history_setChannelState :
    (v.setChannelState c s).history = v.history ++ [.channelState c s] := rfl

@[simp] theorem slots_setChannelState : (v.setChannelState c s).slots = v.slots := rfl

@[simp] theorem sid_setChannelState :
    ((v.setChannelState c s).channels c').sid = (v.channels c').sid := by
  simp only [setChannelState, modifyChannel, log, Function.update_apply]
  split <;> simp [*]

@[simp] theorem pendingReset_setChannelState :
    ((v.setChannelState c s).channels c').pendingReset = (v.channels c').pendingReset := by
  simp only [setChannelState, modifyChannel, log, Function.update_apply]
  split <;> simp [*]

@[simp] theorem state_setChannelState :
    ((v.setChannelState c s).channels c').state = if c' = c then s else (v.channels c').state := by
  simp only [setChannelState, modifyChannel, log, Function.update_apply]
  split <;> rfl

@[simp] theorem transportState_setChannelState : (v.setChannelState c s).state = v.state := rfl
@[simp] theorem next_setChannelState : (v.setChannelState c s).next = v.next := rfl

@[simp] theorem transportState_setPendingReset :
    (v.setPendingReset c pending).state = v.state := rfl
@[simp] theorem next_setPendingReset : (v.setPendingReset c pending).next = v.next := rfl
@[simp] theorem history_setPendingReset : (v.setPendingReset c pending).history = v.history := rfl
@[simp] theorem slots_setPendingReset : (v.setPendingReset c pending).slots = v.slots := rfl

@[simp] theorem sid_setPendingReset :
    ((v.setPendingReset c pending).channels c').sid = (v.channels c').sid := by
  simp only [setPendingReset, modifyChannel, Function.update_apply]
  split <;> simp [*]

@[simp] theorem state_setPendingReset :
    ((v.setPendingReset c pending).channels c').state = (v.channels c').state := by
  simp only [setPendingReset, modifyChannel, Function.update_apply]
  split <;> simp [*]

@[simp] theorem pendingReset_setPendingReset :
    ((v.setPendingReset c pending).channels c').pendingReset =
      if c' = c then pending else (v.channels c').pendingReset := by
  simp only [setPendingReset, modifyChannel, Function.update_apply]
  split <;> rfl

@[simp] theorem history_allocate : v.allocate.history = v.history := rfl
@[simp] theorem slots_allocate : v.allocate.slots = v.slots := rfl

theorem channels_allocate_self : v.allocate.channels v.next = ⟨.connecting, none, false⟩ := by
  simp [allocate, modifyChannel]

theorem channels_allocate_of_ne (h : c ≠ v.next) : v.allocate.channels c = v.channels c := by
  simp [allocate, modifyChannel, h]

@[simp] theorem history_register :
    (v.register c sid pending).history = v.history ++ [.slotRef c (v.slots sid)] := rfl

@[simp] theorem slots_register :
    (v.register c sid pending).slots i = if i = sid then some c else v.slots i := by
  simp [register, log, Function.update_apply]

@[simp] theorem sid_register :
    ((v.register c sid pending).channels c').sid =
      if c' = c then some sid else (v.channels c').sid := by
  simp only [register, modifyChannel, log, Function.update_apply]
  split <;> rfl

@[simp] theorem state_register :
    ((v.register c sid pending).channels c').state = (v.channels c').state := by
  simp only [register, modifyChannel, log, Function.update_apply]
  split <;> simp [*]

theorem pendingReset_register_of_ne (h : c' ≠ c) :
    ((v.register c sid pending).channels c').pendingReset = (v.channels c').pendingReset := by
  simp [register, modifyChannel, log, h]

@[simp] theorem history_release : (v.release i c).history = v.history ++ [.slotDeref c] := rfl
@[simp] theorem channels_release : (v.release i c).channels = v.channels := rfl

@[simp] theorem slots_release (j : Nat) :
    (v.release i c).slots j = if j = i then none else v.slots j := by
  simp [release, log, Function.update_apply]

@[simp] theorem history_enter (s : TransportState) :
    (v.enter s).history = v.history ++ [.transportState s] := rfl
@[simp] theorem state_enter (s : TransportState) : (v.enter s).state = s := rfl

end Parts

end View

/-! ## Section 3: Views of updated transports -/

namespace Transport

variable (t : Transport)

@[simp] theorem view_log (e : Event) : (t.log e).view = t.view.log e := rfl

theorem view_modifyChannel (c : ChannelId) (f : DataChannel → DataChannel)
    (g : ChannelView → ChannelView)
    (h : (f (t.dataChannels c)).view = g (t.dataChannels c).view) :
    (t.modifyChannel c f).view = t.view.modifyChannel c g := by
  simp only [view, modifyChannel, View.modifyChannel, View.mk.injEq, true_and, and_true]
  funext c'
  by_cases hc : c' = c
  · subst hc
    simp only [Function.update_self]
    exact h
  · simp only [Function.update_of_ne hc]

/-- Changes of a channel its life does not depend on. -/
theorem view_modifyChannel_self (c : ChannelId) (f : DataChannel → DataChannel)
    (h : (f (t.dataChannels c)).view = (t.dataChannels c).view) :
    (t.modifyChannel c f).view = t.view := by
  rw [view_modifyChannel t c f id h]
  simp [View.modifyChannel]

/-- Changes of a context that keep the stream id and the pending reset. -/
theorem view_modifyContext_self (c : ChannelId) (f : Context → Context)
    (h : ∀ x, (f x).sid = x.sid ∧ (f x).flags.pendingStreamReset = x.flags.pendingStreamReset) :
    (t.modifyContext c f).view = t.view := by
  refine view_modifyChannel_self t c _ ?_
  cases hx : (t.dataChannels c).transportArg with
  | none => simp [DataChannel.view, hx]
  | some x => simp [DataChannel.view, hx, h x]

theorem view_setState (c : ChannelId) (s : DataChannelState) :
    ((t.modifyChannel c ({ · with state := s })).log (.channelState c s)).view =
      t.view.setChannelState c s := by
  rw [view_log, view_modifyChannel t c _ ({ · with state := s }) rfl]
  rfl

theorem view_register (c : ChannelId) (context : Context) :
    (((t.modifyChannel c ({ · with transportArg := some context })).setSlot context.sid
      (some c)).log (.slotRef c (t.channels context.sid))).view =
      t.view.register c context.sid context.flags.pendingStreamReset := by
  have h := view_modifyChannel t c ({ · with transportArg := some context })
    ({ · with sid := some context.sid, pendingReset := context.flags.pendingStreamReset }) rfl
  simp only [view_log, View.register, ← h]
  rfl

theorem view_allocate (parameters : DataChannelParameters) (handlers : DataChannelHandlers) :
    ({ t with nextChannel := t.nextChannel + 1 }.modifyChannel t.nextChannel
      fun _ => { parameters, handlers }).view = t.view.allocate := by
  rw [view_modifyChannel _ _ _ (fun _ => ⟨.connecting, none, false⟩) rfl]
  rfl

/-- A channel with a stream id has a context with this stream id. -/
theorem context_of_sid {c : ChannelId} {i : Nat} (h : (t.view.channels c).sid = some i) :
    ∃ x, (t.dataChannels c).transportArg = some x ∧ (t.context c).sid = i := by
  cases hx : (t.dataChannels c).transportArg with
  | none => simp [view, DataChannel.view, hx] at h
  | some x => exact ⟨x, rfl, by simpa [view, DataChannel.view, context, hx] using h⟩

theorem view_setPendingReset {c : ChannelId} (pending : Bool) (hc : (t.view.channels c).sid ≠ none) :
    (t.modifyContext c (Context.setPendingStreamReset pending)).view =
      t.view.setPendingReset c pending := by
  obtain ⟨i, hi⟩ := Option.ne_none_iff_exists'.mp hc
  obtain ⟨x, hx, -⟩ := context_of_sid t hi
  exact view_modifyChannel t c _ _ (by simp [DataChannel.view, Context.setPendingStreamReset, hx])

@[simp] theorem view_allowUnordered (c : ChannelId) :
    (t.modifyContext c Context.allowUnordered).view = t.view :=
  t.view_modifyContext_self c _ fun _ => ⟨rfl, rfl⟩

@[simp] theorem view_storeInbound (c : ChannelId) (buffer : Option Mbuf) (pending : Bool) :
    (t.modifyContext c (Context.storeInbound buffer pending)).view = t.view :=
  t.view_modifyContext_self c _ fun _ => ⟨rfl, rfl⟩

@[simp] theorem view_keepInbound (c : ChannelId) (buffer : Option Mbuf) (info : RcvInfo) :
    (t.modifyContext c (Context.keepInbound buffer info)).view = t.view :=
  t.view_modifyContext_self c _ fun _ => ⟨rfl, rfl⟩

@[simp] theorem view_releaseInbound (c : ChannelId) :
    (t.modifyContext c Context.releaseInbound).view = t.view :=
  t.view_modifyContext_self c _ fun _ => ⟨rfl, rfl⟩

@[simp] theorem view_setDcepBuffer (buffer : Option Mbuf) :
    (t.setDcepBuffer buffer).view = t.view := rfl

end Transport

end RawrtcDataChannel
