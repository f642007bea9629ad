import Mathlib.Data.List.Induction
import RawrtcDataChannel.Lifecycle.GenuineClose
import RawrtcDataChannel.Negotiation.Opening
import RawrtcDataChannel.Transfer.ControlMessages
import RawrtcDataChannel.Transfer.Pieces
import RawrtcDataChannel.Transfer.RoundTrip

/-!
# The mark for a pending message

A channel that is not in streaming mode keeps the beginning of a message in a buffer until the
message is complete or aborted. A flag marks it as pending, and the channel cannot change to
streaming mode meanwhile.

The buffer, the flag and the message stay together unless the peer sends an empty message at the
wrong time: `handle_application_message` releases the buffer at its end whenever it has handled an
empty message, also if the buffer holds the beginning of another one.
-/

namespace RawrtcDataChannel

open Reentrant Reassembly

/-! ## Section 1: What has been received in part -/

/-- What a channel receives: a piece, or the news that the message is aborted. -/
inductive InboundEvent
  | piece (p : UserPiece)
  | abort
deriving DecidableEq, Repr

namespace InboundEvent

/-- What the event loop does with it. -/
def toCall (sid : Nat) : InboundEvent → Call
  | .piece p => .readEvent (.data p.bytes (some ⟨sid, p.ppid⟩) p.eor)
  | .abort => .readEvent (.notification 0 0 (.partialDelivery sid))

/-- The pieces that have been received but belong to no message that has been completed or
    aborted, given the ones before. A DCEP message is none of the channel. An empty message is
    complete in itself, if it is complete at all. -/
def pendingAfter (pending : List Bytes) : InboundEvent → List Bytes
  | .piece p =>
    if p.ppid = ppidDcep then pending
    else if IsEmptyPpid p.ppid then if p.eor then pending else pending ++ [p.bytes]
    else if completes ⟨0, p.ppid⟩ p.eor then [] else pending ++ [p.bytes]
  | .abort => []

/-- No empty message comes in the middle of another message or in pieces. And on a channel that is
    being closed, no message is received in part. -/
def IsOrderly (closing : Bool) (pending : List Bytes) : InboundEvent → Prop
  | .piece p =>
    p.ppid = ppidDcep ∨
      if IsEmptyPpid p.ppid then p.eor = true ∧ pending = []
      else closing = true → completes ⟨0, p.ppid⟩ p.eor = true
  | .abort => True

/-- A DCEP message changes nothing. -/
theorem pendingAfter_dcep {p : UserPiece} (hdcep : p.ppid = ppidDcep) (pending : List Bytes) :
    (piece p).pendingAfter pending = pending :=
  if_pos hdcep

theorem pendingAfter_piece {p : UserPiece} (hdcep : p.ppid ≠ ppidDcep) (pending : List Bytes) :
    (piece p).pendingAfter pending =
      if IsEmptyPpid p.ppid then if p.eor then pending else pending ++ [p.bytes]
      else if completes ⟨0, p.ppid⟩ p.eor then [] else pending ++ [p.bytes] :=
  if_neg hdcep

theorem isOrderly_piece {p : UserPiece} (hdcep : p.ppid ≠ ppidDcep) (closing : Bool)
    (pending : List Bytes) : (piece p).IsOrderly closing pending ↔
      if IsEmptyPpid p.ppid then p.eor = true ∧ pending = []
      else closing = true → completes ⟨0, p.ppid⟩ p.eor = true :=
  or_iff_right hdcep

end InboundEvent

/-- The pieces of the message that is half received. -/
def halfReceived (events : List InboundEvent) : List Bytes :=
  events.foldl InboundEvent.pendingAfter []

/-- Every event is orderly, given the ones before. -/
def AllOrderly (closing : Bool) : List Bytes → List InboundEvent → Prop
  | _, [] => True
  | pending, x :: events =>
    x.IsOrderly closing pending ∧ AllOrderly closing (x.pendingAfter pending) events

/-- The flag, the buffer and the answer to a change of the mode tell exactly what is pending. -/
structure PendingExact (s : Transport) (c : ChannelId) (pending : List Bytes) : Prop where
  mark : (s.context c).flags.pendingInboundMessage = true ↔ pending ≠ []
  buffer : (s.context c).bufferInbound ≠ none ↔ pending ≠ []
  bytes : ∀ buffer, (s.context c).bufferInbound = some buffer → buffer.data = pending.flatten
  refuses : (∃ s', (dataChannelSetStreaming c true).run s = .ret .stillInUse s') ↔ pending ≠ []

/-- Whether the channel is being closed, or closed. -/
def DataChannel.isClosing (channel : DataChannel) : Bool :=
  channel.state = .closing ∨ channel.state = .closed

/-! ## Section 2: DCEP messages -/

/-- The channel is registered for the stream. -/
structure Registered (s : Transport) (c : ChannelId) (sid : Nat) : Prop where
  exists_ : c < s.nextChannel
  slot : s.channels sid = some c

/-- What a channel knows of the messages it receives. -/
def DataChannel.inbound (channel : DataChannel) :
    Bool × DataChannelState × Option (Bool × Option Mbuf × RcvInfo) :=
  (channel.flags.streamed, channel.state, channel.transportArg.map fun context =>
    (context.flags.pendingInboundMessage, context.bufferInbound, context.infoInbound))

/-- A registered channel stays registered and receives as before. -/
def Spares (c : ChannelId) (sid : Nat) (s s' : Transport) : Prop :=
  Registered s c sid → Registered s' c sid ∧ (s'.dataChannels c).inbound = (s.dataChannels c).inbound

instance (c : ChannelId) (sid : Nat) : IsPreorder Transport (Spares c sid) where
  refl _ h := ⟨h, rfl⟩
  trans _ _ _ h h' hs := ⟨(h' (h hs).1).1, (h' (h hs).1).2.trans (h hs).2⟩

section Spares

variable {answers : (o : Op) → Transport → o.Reply → Prop} {c : ChannelId} {sid : Nat}

theorem Spares.same {s s' : Transport} (hnext : s'.nextChannel = s.nextChannel)
    (hslots : s'.channels = s.channels) (hchannels : s'.dataChannels = s.dataChannels) :
    Spares c sid s s' := by
  intro h
  refine ⟨⟨?_, ?_⟩, ?_⟩
  · rw [hnext]
    exact h.exists_
  · rw [hslots]
    exact h.slot
  · rw [hchannels]

theorem Spares.allowUnordered (s : Transport) (c' : ChannelId) :
    Spares c sid s (s.modifyContext c' Context.allowUnordered) := by
  intro h
  refine ⟨⟨h.exists_, h.slot⟩, ?_⟩
  by_cases hc : c = c'
  · subst hc
    rw [s.dataChannels_modifyContext, DataChannel.inbound, DataChannel.inbound, Option.map_map]
    rfl
  · rw [s.dataChannels_modifyContext_of_ne hc]

theorem SameChannels.spares {s s' : Transport} (h : SameChannels s s')
    (hslot : s.channels sid = some c → s'.channels sid = some c) : Spares c sid s s' := by
  intro hs
  refine ⟨⟨hs.exists_.trans_le h.nextChannel, hslot hs.slot⟩, ?_⟩
  rw [h.dataChannels c hs.exists_]

/-- An OPEN message opens a channel on a stream that has none, or does nothing. -/
theorem OpensRemotely.spares {s s' : Transport} {sid' : Nat} (h : OpensRemotely sid' s s') :
    Spares c sid s s' := by
  rcases h with h | ⟨c', h, -⟩
  · apply h.toSameChannels.spares
    intro hslot
    rw [h.channels, hslot]
  · apply h.toSameChannels.spares
    intro hslot
    have hsid : sid ≠ sid' := by
      rintro rfl
      rw [h.free] at hslot
      cases hslot
    rw [h.channels, Function.update_of_ne hsid, hslot]

variable [MessageBuffer]

/-- `handle_dcep_message`. -/
theorem handleDcepMessage_spares (hanswers : RefusesWith (fun _ => True) answers)
    (hcontexts : AmpleContexts answers) (buffer : Mbuf) (info : RcvInfo) (eor : Bool) :
    (handleDcepMessage buffer info eor).Keeps answers (Spares c sid) := by
  have hset : ∀ b : Option Mbuf,
      (modify (·.setDcepBuffer b) : M Unit).Keeps answers (Spares c sid) :=
    fun b => Routine.keeps_modify fun s => .same rfl rfl rfl
  apply Routine.keeps_get.bind
  intro t
  -- DCEP messages are collected in a buffer of the transport, not of the channel
  apply (bufferMessageReceivedRaiseComplete_within _ _ _ _ _).keeps.bind
  intro r
  obtain ⟨error, bufferDcepInbound, infoDcepInbound⟩ := r
  apply Routine.Keeps.bind
  · exact Routine.keeps_modify fun s => .same rfl rfl rfl
  · intro _
    split
    · exact Routine.keeps_pure _
    · apply Routine.Keeps.bind
      · exact Routine.keeps_modify fun s => .same rfl rfl rfl
      · intro _
        apply (hset _).bind
        intro _
        apply Routine.Keeps.ite
        · -- an ACK message only changes what may be sent unordered
          have hack : (handleDataChannelAckMessage infoDcepInbound).Keeps answers
              (Spares c sid) := by
            apply Routine.keeps_get.bind
            intro t
            cases t.channels infoDcepInbound.rcvSid with
            | none => exact Routine.keeps_pure _
            | some c' =>
              apply Routine.Keeps.ite (Routine.keeps_pure _)
              exact Routine.keeps_modify fun s => .allowUnordered s c'
          exact hack.bind fun _ => hset none
        · apply Routine.Keeps.ite _ (hset none)
          apply Routine.Keeps.bind _ fun _ => hset none
          -- an OPEN message makes another channel, or nothing
          intro s
          apply Prog.Always.mono (handleDataChannelOpenMessage_always hanswers trivial
            fun _ _ _ _ => hcontexts)
          intro _ s' h
          exact h.spares
    · exact hset none

end Spares

/-! ## Section 3: One event -/

/-- What a context knows of the messages that are received. -/
def Context.inbound (context : Context) : Bool × Option Mbuf × RcvInfo :=
  (context.flags.pendingInboundMessage, context.bufferInbound, context.infoInbound)

/-- The context of a channel after an event. -/
def InboundEvent.receive (sid : Nat) : InboundEvent → Context → Context
  | .piece p, context =>
    if p.ppid = ppidDcep then context else context.receive false sid p
  | .abort, context => context.storeInbound none false

/-- A channel that is registered on a connected transport and not in streaming mode. -/
structure Listening (s : Transport) (c : ChannelId) (sid : Nat) (closing : Bool) : Prop
    extends Registered s c sid where
  connected : s.state = .connected
  attached : s.flags.detached = false
  below : sid < s.nChannels
  whole : (s.dataChannels c).flags.streamed = false
  closing : (s.dataChannels c).isClosing = closing
  context : ∃ context, (s.dataChannels c).transportArg = some context ∧ context.AtEnd

section Events

variable {answers : (o : Op) → Transport → o.Reply → Prop} {s : Transport} {c : ChannelId}
  {sid : Nat} {closing : Bool}

/-- A buffer that the context of a channel has after a piece is positioned at its end. -/
theorem Context.receive_atEnd (streamed : Bool) (context : Context) (sid : Nat) (p : UserPiece) :
    (context.receive streamed sid p).AtEnd := by
  intro buffer hbuffer
  unfold Context.receive at hbuffer
  split at hbuffer
  · split at hbuffer <;> cases hbuffer
  · split at hbuffer
    · cases hbuffer
    · split at hbuffer
      · cases hbuffer
      · obtain rfl := Option.some.inj hbuffer
        rfl

/-- Only the context of the channel has changed, and handlers have been called. -/
theorem Listening.modifyContext (h : Listening s c sid closing) {f : Context → Context}
    {context : Context} (hcontext : (s.dataChannels c).transportArg = some context)
    (hend : (f context).AtEnd) (es : List Event) :
    Listening ((s.modifyContext c f).logAll es) c sid closing ∧
      ((s.modifyContext c f).logAll es).context c = f (s.context c) := by
  have hchannel : ((s.modifyContext c f).logAll es).dataChannels c =
      { s.dataChannels c with transportArg := some (f context) } := by
    show (s.modifyContext c f).dataChannels c = _
    rw [s.dataChannels_modifyContext, hcontext, Option.map_some]
  refine ⟨⟨⟨h.exists_, h.slot⟩, h.connected, h.attached, h.below, ?_, ?_, ?_⟩, ?_⟩
  · rw [hchannel]
    exact h.whole
  · rw [hchannel]
    exact h.closing
  · rw [hchannel]
    exact ⟨f context, rfl, hend⟩
  · unfold Transport.context
    rw [hchannel, hcontext]
    rfl

/-- The transport goes on in the same way, with a channel that receives as before. -/
theorem Listening.spared (h : Listening s c sid closing) {s' : Transport} (hlife : SameLife s s')
    (hspares : Spares c sid s s') :
    Listening s' c sid closing ∧ (s'.context c).inbound = (s.context c).inbound := by
  obtain ⟨hregistered, hinbound⟩ := hspares h.toRegistered
  obtain ⟨context, hcontext, hend⟩ := h.context
  unfold DataChannel.inbound at hinbound
  rw [hcontext, Option.map_some, Prod.mk.injEq, Prod.mk.injEq] at hinbound
  obtain ⟨hwhole, hstate, harg⟩ := hinbound
  -- the context may be another one, but it holds the same
  obtain ⟨context', hcontext', hsame⟩ := Option.map_eq_some_iff.mp harg
  have hbuffer : context'.bufferInbound = context.bufferInbound := by
    rw [Prod.mk.injEq, Prod.mk.injEq] at hsame
    exact hsame.2.1
  refine ⟨⟨hregistered, hlife.state.trans h.connected, hlife.detached.trans h.attached, ?_,
    hwhole.trans h.whole, ?_, context', hcontext', ?_⟩, ?_⟩
  · rw [hlife.nChannels]
    exact h.below
  · unfold DataChannel.isClosing
    rw [hstate]
    exact h.closing
  · intro buffer hsome
    rw [hbuffer] at hsome
    exact hend buffer hsome
  · unfold Transport.context
    rw [hcontext, hcontext', Option.getD_some, Option.getD_some]
    exact hsame

variable [MessageBuffer]

/-- What the event loop does with an event. -/
theorem inboundEvent_always (hmemory : AmpleMemory answers) (hcontexts : AmpleContexts answers)
    (hanswers : RefusesWith (fun _ => True) answers) (h : Listening s c sid closing)
    (x : InboundEvent) :
    ((x.toCall sid).run.run s).Always answers fun _ s' => Listening s' c sid closing ∧
      (s'.context c).inbound = (x.receive sid (s.context c)).inbound := by
  have hattached : ¬ s.flags.detached = true := by simp [h.attached]
  have hconnected : ¬ s.state ≠ .connected := not_not.mpr h.connected
  obtain ⟨context, hcontext, hend⟩ := h.context
  cases x with
  | piece p =>
    by_cases hdcep : p.ppid = ppidDcep
    · -- a DCEP message does not reach the context of the channel
      have hsame : (InboundEvent.piece p).receive sid (s.context c) = s.context c := if_pos hdcep
      rw [hsame]
      simp only [InboundEvent.toCall, Call.run, readEventHandler, Routine.run_map,
        Routine.run_bind, Routine.run_get, Prog.bind, Routine.run_ite, if_neg hattached, run_alloc]
      intro ok hok
      obtain rfl : ok = true := hmemory s ok hok
      simp only [if_true, if_neg hconnected, Prog.always_bind]
      have hspares : ((dataReceiveHandler { data := p.bytes } ⟨sid, p.ppid⟩ p.eor).run s).Always
          answers fun _ s' => Spares c sid s s' := by
        unfold dataReceiveHandler
        rw [if_pos hdcep]
        exact handleDcepMessage_spares hanswers hcontexts _ _ _ s
      apply Prog.Always.mono ((dataReceiveHandler_keeps _ _ _ s).and hspares)
      intro _ s' h'
      exact h.spared h'.1 h'.2
    · have hreceive : (InboundEvent.piece p).receive sid (s.context c) =
          (s.context c).receive false sid p := if_neg hdcep
      rw [hreceive]
      apply Prog.Always.mono (readEvent_piece_receives hmemory h.attached h.connected h.slot
        hcontext hend hdcep)
      intro _ s' hs'
      rw [hs', h.whole]
      -- an abort throws away what is pending, and the mark with it
      have hdone := h.modifyContext hcontext (context.receive_atEnd false sid p)
        ((s.dataChannels c).messageCalls c (context.passes false sid p))
      exact ⟨hdone.1, by rw [hdone.2]⟩
  | abort =>
    have hbelow : ¬ (2 ^ 16 - 1 ≤ sid ∨ s.nChannels ≤ sid) := by
      have hmax := s.nChannels_le
      have hsid := h.below
      omega
    have hend' : (context.storeInbound none false).AtEnd := by
      intro buffer hbuffer
      cases hbuffer
    have hdone := h.modifyContext hcontext hend' []
    rw [Transport.logAll_nil] at hdone
    have hwhole : ¬ (((s.modifyContext c (Context.storeInbound none false)).dataChannels
        c).flags.streamed = true ∧ ((s.modifyContext c (Context.storeInbound none
          false)).dataChannels c).handlers.messageHandler = true) := by
      simp [hdone.1.whole]
    simp only [InboundEvent.toCall, Call.run, readEventHandler, Routine.run_map,
      Routine.run_bind, Routine.run_get, Prog.bind, Routine.run_ite, if_neg hattached, run_alloc]
    intro ok hok
    obtain rfl : ok = true := hmemory s ok hok
    simp only [if_true, handleNotification, ne_eq, not_true, if_false, handlePartialDeliveryEvent,
      Routine.run_bind, Routine.run_get, Prog.bind, Routine.run_ite, if_neg hbelow, h.slot,
      Routine.run_modify, if_neg hwhole]
    exact ⟨hdone.1, by rw [hdone.2]; rfl⟩

end Events

/-! ## Section 4: Orderly events -/

/-- The context holds what is pending, and has it marked. -/
def Context.Holds (context : Context) (pending : List Bytes) : Prop :=
  if pending = [] then
    context.flags.pendingInboundMessage = false ∧ context.bufferInbound = none
  else
    context.flags.pendingInboundMessage = true ∧
      context.bufferInbound = some (.full pending.flatten)

theorem Context.Holds.of_inbound {context context' : Context} {pending : List Bytes}
    (h : context.Holds pending) (hsame : context'.inbound = context.inbound) :
    context'.Holds pending := by
  simp only [Context.inbound, Prod.mk.injEq] at hsame
  unfold Context.Holds
  rw [hsame.1, hsame.2.1]
  exact h

/-- The bytes of a message with one more piece. -/
theorem Context.Holds.extended {context : Context} {pending : List Bytes}
    (h : context.Holds pending) (sid : Nat) (p : UserPiece) :
    (context.extended sid p).2 = (pending ++ [p.bytes]).flatten := by
  unfold Context.extended Context.unfinished
  unfold Context.Holds at h
  split at h
  · next hnone => simp [h.2, hnone, extend]
  · simp [h.2, extend, Mbuf.full]

/-- What an event does to a context that holds what is pending. -/
theorem Context.Holds.receive {context : Context} {pending : List Bytes}
    (h : context.Holds pending) {closing : Bool} {x : InboundEvent}
    (hx : x.IsOrderly closing pending) (sid : Nat) :
    (x.receive sid context).Holds (x.pendingAfter pending) := by
  cases x with
  | abort => exact ⟨rfl, rfl⟩
  | piece p =>
    by_cases hdcep : p.ppid = ppidDcep
    · have hsame : (InboundEvent.piece p).receive sid context = context := if_pos hdcep
      rw [hsame, InboundEvent.pendingAfter_dcep hdcep]
      exact h
    · have hreceive : (InboundEvent.piece p).receive sid context = context.receive false sid p :=
        if_neg hdcep
      rw [InboundEvent.isOrderly_piece hdcep] at hx
      rw [hreceive, InboundEvent.pendingAfter_piece hdcep]
      by_cases hempty : IsEmptyPpid p.ppid
      · -- an empty message that is in order comes while nothing is pending
        rw [if_pos hempty] at hx
        obtain ⟨heor, rfl⟩ := hx
        simp only [if_pos hempty, heor, if_true, Context.receive]
        exact ⟨rfl, rfl⟩
      · have hkind : completes ⟨sid, p.ppid⟩ p.eor = completes ⟨0, p.ppid⟩ p.eor := rfl
        simp only [if_neg hempty, Context.receive, Bool.false_eq_true, if_false, hkind]
        -- the piece ends the message, or it is kept with the others
        split
        · exact ⟨rfl, rfl⟩
        · have hmore : pending ++ [p.bytes] ≠ [] := by simp
          unfold Context.Holds
          rw [if_neg hmore, h.extended sid p]
          exact ⟨rfl, rfl⟩

/-- On a channel that is being closed, nothing becomes pending. -/
theorem InboundEvent.IsOrderly.pendingAfter_closing {closing : Bool} {pending : List Bytes}
    {x : InboundEvent} (hx : x.IsOrderly closing pending) (hclosing : closing = true)
    (hnone : pending = []) : x.pendingAfter pending = [] := by
  cases x with
  | abort => rfl
  | piece p =>
    by_cases hdcep : p.ppid = ppidDcep
    · rw [pendingAfter_dcep hdcep]
      exact hnone
    · rw [isOrderly_piece hdcep] at hx
      rw [pendingAfter_piece hdcep]
      split at hx
      · next hempty => rw [if_pos hempty, if_pos hx.1, hnone]
      · next hempty => rw [if_neg hempty, if_pos (hx hclosing)]

section Exact

variable {s : Transport} {c : ChannelId} {sid : Nat} {closing : Bool} {pending : List Bytes}

/-- When `rawrtc_data_channel_set_streaming` answers that a message is pending. -/
theorem Listening.refuses_iff (h : Listening s c sid closing) :
    (∃ s', (dataChannelSetStreaming c true).run s = .ret .stillInUse s') ↔
      closing = false ∧ (s.context c).flags.pendingInboundMessage = true := by
  have hclosing := h.closing
  unfold DataChannel.isClosing at hclosing
  have hother : ¬ (s.dataChannels c).flags.streamed = true := by simp [h.whole]
  simp only [dataChannelSetStreaming, channelSetStreamingHandler, Routine.run_bind,
    Routine.run_get, Prog.bind, Routine.run_ite, if_neg hother]
  by_cases hclosed : (s.dataChannels c).state = .closing ∨ (s.dataChannels c).state = .closed
  · rw [if_pos hclosed]
    rw [decide_eq_true hclosed] at hclosing
    simp [← hclosing]
  · rw [if_neg hclosed]
    rw [decide_eq_false hclosed] at hclosing
    by_cases hmark : (s.context c).flags.pendingInboundMessage = true
    · simp [hmark, ← hclosing, Prog.bind]
    · simp [hmark, Prog.bind]

/-- A context that holds what is pending tells exactly what is pending. -/
theorem Listening.pendingExact (h : Listening s c sid closing) (hholds : (s.context c).Holds pending)
    (hclosing : closing = true → pending = []) : PendingExact s c pending := by
  unfold Context.Holds at hholds
  split at hholds
  · -- nothing is pending: no mark and no buffer
    next hnone =>
    obtain ⟨hmark, hbuffer⟩ := hholds
    refine ⟨by simp [hmark, hnone], by simp [hbuffer, hnone], by simp [hbuffer], ?_⟩
    rw [h.refuses_iff]
    simp [hmark, hnone]
  · -- something is pending, so the channel is not closing
    next hsome =>
    obtain ⟨hmark, hbuffer⟩ := hholds
    have hopen : closing = false := by
      cases closing with
      | false => rfl
      | true => exact absurd (hclosing rfl) hsome
    refine ⟨by simp [hmark, hsome], by simp [hbuffer, hsome], ?_, ?_⟩
    · intro buffer hb
      rw [hbuffer] at hb
      rw [← Option.some.inj hb]
      rfl
    · rw [h.refuses_iff]
      simp [hmark, hsome, hopen]

/-- If an event is not orderly, the mark, the buffer and the message do not stay together. -/
theorem Listening.orderly_of_pendingExact (h : Listening s c sid closing) {context : Context}
    {x : InboundEvent} (hinbound : (s.context c).inbound = (x.receive sid context).inbound)
    (hexact : PendingExact s c (x.pendingAfter pending)) : x.IsOrderly closing pending := by
  cases x with
  | abort => trivial
  | piece p =>
    by_cases hdcep : p.ppid = ppidDcep
    · exact .inl hdcep
    · rw [InboundEvent.isOrderly_piece hdcep]
      have hreceive : (InboundEvent.piece p).receive sid context = context.receive false sid p :=
        if_neg hdcep
      rw [hreceive] at hinbound
      simp only [Context.inbound, Prod.mk.injEq] at hinbound
      obtain ⟨hmark, hbuffer, -⟩ := hinbound
      rw [InboundEvent.pendingAfter_piece hdcep] at hexact
      by_cases hempty : IsEmptyPpid p.ppid
      · -- the buffer has been released
        have hreleased : (context.receive false sid p).bufferInbound = none := by
          unfold Context.receive
          rw [if_pos hempty]
          split <;> rfl
        have hnone := not_not.mp (mt hexact.buffer.mpr (by simp [hbuffer, hreleased]))
        rw [if_pos hempty] at hnone ⊢
        cases heor : p.eor with
        | false => simp [heor] at hnone
        | true =>
          rw [heor, if_pos rfl] at hnone
          exact ⟨rfl, hnone⟩
      · -- if something stays pending, switching to streaming has to be refused
        rw [if_neg hempty] at hexact ⊢
        intro hclosing
        by_contra hmore
        rw [if_neg hmore] at hexact
        have hrefuses := h.refuses_iff.mp (hexact.refuses.mpr (by simp))
        rw [hclosing] at hrefuses
        cases hrefuses.1

end Exact

/-! ## Section 5: Runs -/

theorem allOrderly_concat (closing : Bool) (pending : List Bytes) (events : List InboundEvent)
    (x : InboundEvent) : AllOrderly closing pending (events ++ [x]) ↔
      AllOrderly closing pending events ∧
        x.IsOrderly closing (events.foldl InboundEvent.pendingAfter pending) := by
  induction events generalizing pending with
  | nil => simp [AllOrderly]
  | cons y events ih => simp [AllOrderly, ih, and_assoc]

theorem AllOrderly.past {closing : Bool} {pending : List Bytes} {events rest : List InboundEvent}
    (h : AllOrderly closing pending (events ++ rest)) : AllOrderly closing pending events := by
  induction events generalizing pending with
  | nil => trivial
  | cons x events ih => exact ⟨h.1, ih h.2⟩

theorem halfReceived_concat (events : List InboundEvent) (x : InboundEvent) :
    halfReceived (events ++ [x]) = x.pendingAfter (halfReceived events) := by
  simp [halfReceived]

/-- Every step but an allocation may fail. -/
def mayFailWithMemory : (o : Op) → Transport → o.Reply → Prop
  | .alloc, _, ok => (ok : Bool) = true
  | .allocSendContext, _, ok => (ok : Bool) = true
  | o, s, r => mayFail o s r

theorem mayFailWithMemory_ampleMemory : AmpleMemory mayFailWithMemory :=
  fun _ _ h => h

theorem mayFailWithMemory_ampleContexts : AmpleContexts mayFailWithMemory :=
  fun _ _ h => h

theorem mayFailWithMemory_refusesWith : RefusesWith (fun _ => True) mayFailWithMemory :=
  mayFail_refusesWith

theorem obligingOracle_mayFail (o : Op) (s : Transport) :
    mayFailWithMemory o s (obligingOracle o s) := by
  cases o with
  | alloc | allocSendContext => rfl
  | sendv buffer info flags => exact le_refl _
  | _ => trivial

/-- The event loop, which receives pieces and aborts on one stream. -/
def inboundHost [MessageBuffer] (sid : Nat) : Host InboundEvent Op Op.Reply Transport Result where
  code x := (x.toCall sid).run
  permits _ _ _ := True
  answers := mayFailWithMemory

section Runs

variable [MessageBuffer] {s₀ s : Transport} {c : ChannelId} {sid : Nat} {closing : Bool}
  {done : List (InboundEvent × Result)}

/-- One step of a run. -/
theorem turn_listening {s' : Transport} {x : InboundEvent} {r : Result}
    (h : Listening s c sid closing) (hturn : Turn (inboundHost sid) s x r s') :
    Listening s' c sid closing ∧
      (s'.context c).inbound = (x.receive sid (s.context c)).inbound :=
  Prog.always_iff.mp (inboundEvent_always mayFailWithMemory_ampleMemory
    mayFailWithMemory_ampleContexts mayFailWithMemory_refusesWith h x) r s' hturn.2

/-- In a run of orderly events the context holds what is pending. -/
theorem turns_holds (hstart : Listening s₀ c sid closing) (hidle : (s₀.context c).Holds [])
    (h : Turns (inboundHost sid) s₀ done s) (horderly : AllOrderly closing [] (done.map Prod.fst)) :
    Listening s c sid closing ∧ (s.context c).Holds (halfReceived (done.map Prod.fst)) ∧
      (closing = true → halfReceived (done.map Prod.fst) = []) := by
  induction h with
  | nil => exact ⟨hstart, hidle, fun _ => rfl⟩
  | snoc _ hturn ih =>
    rw [List.map_append] at horderly ⊢
    obtain ⟨hpast, hx⟩ := (allOrderly_concat _ _ _ _).mp horderly
    obtain ⟨hlistening, hholds, hclosing⟩ := ih hpast
    obtain ⟨hlistening', hinbound⟩ := turn_listening hlistening hturn
    simp only [List.map_cons, List.map_nil, halfReceived_concat]
    exact ⟨hlistening', (hholds.receive hx sid).of_inbound hinbound,
      fun hclosed => hx.pendingAfter_closing hclosed (hclosing hclosed)⟩

/-- Every sequence of events has a run. -/
theorem exists_turns (s₀ : Transport) (sid : Nat) (events : List InboundEvent) :
    ∃ done s, Turns (inboundHost sid) s₀ done s ∧ done.map Prod.fst = events := by
  induction events using List.reverseRecOn with
  | nil => exact ⟨[], s₀, .nil s₀, rfl⟩
  | append_singleton events x ih =>
    obtain ⟨done, s, h, rfl⟩ := ih
    exact ⟨_, _, h.exec obligingOracle_mayFail (a := x) trivial, by simp⟩

/-- **When the mark for a pending message is exact**: after every step of every run, exactly for
    the sequences of events that are orderly. -/
theorem pending_mark_exact (hstart : Listening s₀ c sid closing)
    (hidle : (s₀.context c).Holds []) (events : List InboundEvent) :
    (∀ done s, Turns (inboundHost sid) s₀ done s → done.map Prod.fst <+: events →
      PendingExact s c (halfReceived (done.map Prod.fst))) ↔ AllOrderly closing [] events := by
  constructor
  · -- the first event that is not orderly is noticed
    induction events using List.reverseRecOn with
    | nil => exact fun _ => trivial
    | append_singleton events x ih =>
      intro hexact
      have hpast : AllOrderly closing [] events :=
        ih fun done s h hearlier => hexact done s h (hearlier.trans (List.prefix_append _ _))
      obtain ⟨done, s, h, rfl⟩ := exists_turns s₀ sid events
      obtain ⟨hlistening, -, -⟩ := turns_holds hstart hidle h hpast
      have hnext := h.exec obligingOracle_mayFail (a := x) trivial
      have hturn : Turn (inboundHost sid) s x _ _ :=
        ⟨trivial, by exact Prog.outcome_exec obligingOracle obligingOracle_mayFail _⟩
      obtain ⟨hlistening', hinbound⟩ := turn_listening hlistening hturn
      have hexact' := hexact _ _ (h.snoc hturn) (by simp)
      rw [List.map_append, List.map_cons, List.map_nil, halfReceived_concat] at hexact'
      exact (allOrderly_concat _ _ _ _).mpr
        ⟨hpast, hlistening'.orderly_of_pendingExact hinbound hexact'⟩
  · intro horderly done s h hearlier
    obtain ⟨rest, hrest⟩ := hearlier
    rw [← hrest] at horderly
    have hpast : AllOrderly closing [] (done.map Prod.fst) := horderly.past
    obtain ⟨hlistening, hholds, hclosing⟩ := turns_holds hstart hidle h hpast
    exact hlistening.pendingExact hholds hclosing

end Runs

/-! ## Section 6: Two messages that begin in the same way -/

/-- The beginning of a message. -/
abbrev firstPiece : InboundEvent := .piece ⟨[1], ppidBinary, false⟩

/-- A channel that has received nothing. -/
theorem withChannel_listening : Listening .withChannel 0 0 false where
  exists_ := Nat.one_pos
  slot := rfl
  connected := rfl
  attached := rfl
  below := by decide
  whole := rfl
  closing := by decide
  context := ⟨{}, rfl, fun _ h => by cases h⟩

/-- A message in two pieces is kept until it is complete. -/
theorem pending_mark_exact_two :
    let H := @inboundHost listMessageBuffer 0
    let first := H.exec obligingOracle .withChannel firstPiece
    let second := H.exec obligingOracle first.2 (.piece ⟨[2], ppidBinary, true⟩)
    PendingExact first.2 0 [[1]] ∧ PendingExact second.2 0 [] := by
  intro H first second
  have h₁ := (Turns.nil (H := H) .withChannel).exec obligingOracle_mayFail (a := firstPiece) trivial
  have h₂ := h₁.exec obligingOracle_mayFail (a := .piece ⟨[2], ppidBinary, true⟩) trivial
  have hexact := (@pending_mark_exact listMessageBuffer .withChannel 0 0 false
    withChannel_listening ⟨rfl, rfl⟩ [firstPiece, .piece ⟨[2], ppidBinary, true⟩]).mpr
    ⟨.inr (by decide), .inr (by decide), trivial⟩
  exact ⟨hexact _ _ h₁ ⟨[_], rfl⟩, hexact _ _ h₂ (List.prefix_refl _)⟩

/-- **An empty message in the middle of another one** makes the channel forget the first piece of
    the other message: it is still half received, but neither marked nor kept. -/
theorem not_pending_mark_exact :
    ∃ done s, Turns (@inboundHost listMessageBuffer 0) .withChannel done s ∧
      done.map Prod.fst = [firstPiece, .piece ⟨[0], ppidBinaryEmpty, true⟩] ∧
      halfReceived (done.map Prod.fst) = [[1]] ∧ (s.context 0).bufferInbound = none ∧
      (s.context 0).flags.pendingInboundMessage = false ∧
      ¬ PendingExact s 0 (halfReceived (done.map Prod.fst)) := by
  let H := @inboundHost listMessageBuffer 0
  let empty : InboundEvent := .piece ⟨[0], ppidBinaryEmpty, true⟩
  let s₁ := (H.exec obligingOracle .withChannel firstPiece).2
  have h₁ := (Turns.nil (H := H) .withChannel).exec obligingOracle_mayFail (a := firstPiece) trivial
  have h₂ := h₁.exec obligingOracle_mayFail (a := empty) trivial
  have hforgotten : ((H.exec obligingOracle s₁ empty).2.context 0).bufferInbound = none := by
    decide +kernel
  refine ⟨_, _, h₂, rfl, by decide, hforgotten, by decide +kernel, ?_⟩
  intro hexact
  exact hexact.buffer.mpr (by decide) hforgotten

end RawrtcDataChannel
