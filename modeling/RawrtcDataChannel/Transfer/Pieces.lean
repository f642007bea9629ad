import RawrtcDataChannel.Transfer.UserMessages

/-!
# What a channel does with a piece

`handle_application_message` changes nothing but the context of one channel, and calls at most the
message handler of that channel. `Context.receive` and `Context.passes` say how the context
changes and what the handler is given, for a piece of any kind and in both modes of the channel.
-/

namespace RawrtcDataChannel

open Reentrant Reassembly

/-! ## Section 1: Pieces -/

/-- A piece of a user message. -/
structure UserPiece where
  bytes : Bytes
  ppid : Nat
  eor : Bool
deriving DecidableEq, Repr

/-- The payload protocol identifier is one of an empty message. -/
def IsEmptyPpid (ppid : Nat) : Prop :=
  ppid = ppidUtf16Empty ∨ ppid = ppidBinaryEmpty

instance (ppid : Nat) : Decidable (IsEmptyPpid ppid) :=
  inferInstanceAs (Decidable (_ ∨ _))

/-- The message that is half received. -/
def Context.unfinished (context : Context) : Option InboundMessage :=
  context.bufferInbound.map fun buffer => (context.infoInbound, buffer.data)

/-- The reassembly buffer, if there is one, is positioned at its end. -/
def Context.AtEnd (context : Context) : Prop :=
  ∀ buffer, context.bufferInbound = some buffer → buffer = .full buffer.data

theorem Context.heldAs {context : Context} (h : context.AtEnd) :
    HeldAs context.bufferInbound context.infoInbound context.unfinished := by
  unfold Context.unfinished
  cases hbuffer : context.bufferInbound with
  | none => rfl
  | some buffer => exact ⟨congrArg some (h buffer hbuffer), rfl⟩

/-- The message that a piece of the stream `sid` belongs to, as far as it has arrived. -/
def Context.extended (context : Context) (sid : Nat) (p : UserPiece) : InboundMessage :=
  extend context.unfinished ⟨sid, p.ppid⟩ p.bytes

/-- The context of a channel after a piece has been handled. -/
def Context.receive (streamed : Bool) (sid : Nat) (p : UserPiece) (context : Context) : Context :=
  if IsEmptyPpid p.ppid then
    if p.eor then context.allowUnordered.storeInbound none false
    else context.allowUnordered.releaseInbound
  else if streamed then
    context.allowUnordered.storeInbound none !p.eor
  else if completes ⟨sid, p.ppid⟩ p.eor then
    (context.allowUnordered.keepInbound none (context.extended sid p).1).storeInbound none false
  else
    (context.allowUnordered.keepInbound none (context.extended sid p).1).storeInbound
      (some (.full (context.extended sid p).2)) true

/-- What is passed to the message handler: the bytes, their payload protocol identifier, and
    whether they complete a message. -/
def Context.passes (streamed : Bool) (sid : Nat) (p : UserPiece) (context : Context) :
    Option (Bytes × Nat × Bool) :=
  if IsEmptyPpid p.ppid then
    if p.eor then some ([], p.ppid, true) else none
  else if streamed then
    some (p.bytes, p.ppid, p.eor)
  else if completes ⟨sid, p.ppid⟩ p.eor then
    some ((context.extended sid p).2, (context.extended sid p).1.rcvPpid, true)
  else
    none

/-- The call of the message handler, if it is set and the identifier is known. -/
def DataChannel.messageCalls (channel : DataChannel) (c : ChannelId) :
    Option (Bytes × Nat × Bool) → List Event
  | none => []
  | some (bytes, ppid, isComplete) =>
    match messageFlagsOfPpid ppid isComplete with
    | none => []
    | some messageFlags =>
      if channel.handlers.messageHandler then
        [.handler (.messageHandler c (some bytes) messageFlags)]
      else []

/-! ## Section 2: Handling a piece -/

section Handle

variable {answers : (o : Op) → Transport → o.Reply → Prop} {s : Transport} {c : ChannelId}
  {context : Context}

/-- Only the context that is there matters for how it is changed. -/
theorem Transport.modifyContext_congr {f g : Context → Context}
    (hcontext : (s.dataChannels c).transportArg = some context) (h : f context = g context) :
    s.modifyContext c f = s.modifyContext c g := by
  have hmap : (s.dataChannels c).transportArg.map f = (s.dataChannels c).transportArg.map g := by
    rw [hcontext, Option.map_some, Option.map_some, h]
  simp only [Transport.modifyContext, Transport.modifyChannel, hmap]

/-- The end of `handle_application_message`. -/
theorem passMessageToHandler_calls (buffer : Mbuf) (ppid : Nat) (isComplete : Bool) :
    ((passMessageToHandler c buffer ppid isComplete).run s).Always answers fun _ s' =>
      s' = (s.modifyContext c Context.releaseInbound).logAll
        ((s.dataChannels c).messageCalls c (some (buffer.rest, ppid, isComplete))) := by
  simp only [passMessageToHandler, Routine.run_bind, Routine.run_get, Prog.bind,
    DataChannel.messageCalls]
  rcases messageFlagsOfPpid ppid isComplete with _ | messageFlags
  · simp
  · by_cases hhandler : (s.dataChannels c).handlers.messageHandler = true
    · simp only [if_pos hhandler, Routine.run_bind, run_callHandler, Prog.bind]
      intro _ _
      rfl
    · simp only [if_neg hhandler]
      simp

/-- **What a channel does with a piece**, if there is memory. -/
theorem handleApplicationMessage_receives (hanswers : AmpleMemory answers) {sid : Nat}
    (hslot : s.channels sid = some c) (hcontext : (s.dataChannels c).transportArg = some context)
    (hend : context.AtEnd) (p : UserPiece) :
    ((handleApplicationMessage { data := p.bytes } ⟨sid, p.ppid⟩ p.eor).run s).Always answers
      fun _ s' => s' = (s.modifyContext c
        (Context.receive (s.dataChannels c).flags.streamed sid p)).logAll
          ((s.dataChannels c).messageCalls c
            (context.passes (s.dataChannels c).flags.streamed sid p)) := by
  -- the parts of the channel that decide what happens stay as they are
  have hstreamed : ∀ f, ((s.modifyContext c f).dataChannels c).flags =
      (s.dataChannels c).flags := by
    intro f
    rw [s.dataChannels_modifyContext]
  have hcalls : ∀ f, ((s.modifyContext c f).dataChannels c).messageCalls c =
      (s.dataChannels c).messageCalls c := by
    intro f
    rw [s.dataChannels_modifyContext]
    rfl
  simp only [handleApplicationMessage, Routine.run_bind, Routine.run_get, Prog.bind, hslot,
    Routine.run_modify, s.context_modifyContext hcontext, hstreamed]
  by_cases hempty : IsEmptyPpid p.ppid
  · have hempty' : p.ppid = ppidUtf16Empty ∨ p.ppid = ppidBinaryEmpty := hempty
    simp only [if_pos hempty', Context.passes, if_pos hempty]
    cases heor : p.eor with
    | false =>
      simp only [if_true, Routine.run_modify, Prog.always_ret,
        Transport.modifyContext_modifyContext, Bool.false_eq_true, if_false]
      rw [DataChannel.messageCalls, Transport.logAll_nil]
      apply Transport.modifyContext_congr hcontext
      simp [Context.receive, hempty, heor]
    | true =>
      simp only [Bool.true_eq_false, if_false, if_true, Routine.run_bind, Routine.run_modify,
        Prog.bind, Transport.modifyContext_modifyContext]
      apply Prog.Always.mono (passMessageToHandler_calls _ _ _)
      intro _ s' hs'
      rw [hs', hcalls, Transport.modifyContext_modifyContext, Mbuf.rest_skipToEnd]
      congr 1
      apply Transport.modifyContext_congr hcontext
      simp [Context.receive, hempty, heor, Context.storeInbound, Context.releaseInbound]
  · have hempty' : ¬ (p.ppid = ppidUtf16Empty ∨ p.ppid = ppidBinaryEmpty) := hempty
    simp only [if_neg hempty', Context.passes, if_neg hempty]
    cases hmode : (s.dataChannels c).flags.streamed with
    | true =>
      simp only [Bool.true_eq_false, if_false, Routine.run_bind, Routine.run_modify, Prog.bind,
        Transport.modifyContext_modifyContext]
      apply Prog.Always.mono (passMessageToHandler_calls _ _ _)
      intro _ s' hs'
      rw [hs', hcalls, Transport.modifyContext_modifyContext, Mbuf.rest_mk_zero]
      congr 1
      apply Transport.modifyContext_congr hcontext
      simp [Context.receive, hempty, Context.storeInbound, Context.releaseInbound]
    | false =>
      simp only [if_true, Routine.run_bind, Prog.always_bind]
      have hheld : HeldAs context.allowUnordered.bufferInbound context.allowUnordered.infoInbound
          context.unfinished := Context.heldAs hend
      apply Prog.Always.mono (bufferMessageReceivedRaiseComplete_always hanswers hheld p.bytes
        ⟨sid, p.ppid⟩ p.eor _)
      intro r s' hr
      obtain ⟨rfl, rfl⟩ := hr
      cases hcompletes : completes ⟨sid, p.ppid⟩ p.eor with
      | false =>
        simp only [Bool.false_eq_true, if_false, Routine.run_modify, Prog.always_ret,
          Transport.modifyContext_modifyContext]
        rw [DataChannel.messageCalls, Transport.logAll_nil]
        apply Transport.modifyContext_congr hcontext
        simp [Context.receive, hempty, hcompletes, Context.storeInbound, Context.keepInbound,
          Context.extended]
      | true =>
        simp only [Bool.false_eq_true, if_false, if_true, Routine.run_bind, Routine.run_modify,
          Prog.bind, Transport.modifyContext_modifyContext]
        apply Prog.Always.mono (passMessageToHandler_calls _ _ _)
        intro _ s' hs'
        rw [hs']
        simp only [Transport.modifyContext_modifyContext, hcalls, Mbuf.rest_mk_zero]
        congr 1
        apply Transport.modifyContext_congr hcontext
        simp [Context.receive, hempty, hcompletes, Context.storeInbound, Context.releaseInbound,
          Context.keepInbound, Context.extended]

/-- The same for the event loop, which dispatches the piece. -/
theorem readEvent_piece_receives [MessageBuffer] (hanswers : AmpleMemory answers)
    (hattached : s.flags.detached = false) (hconnected : s.state = .connected) {sid : Nat}
    (hslot : s.channels sid = some c) (hcontext : (s.dataChannels c).transportArg = some context)
    (hend : context.AtEnd) {p : UserPiece} (hdcep : p.ppid ≠ ppidDcep) :
    ((Call.readEvent (.data p.bytes (some ⟨sid, p.ppid⟩) p.eor)).run.run s).Always answers
      fun _ s' => s' = (s.modifyContext c
        (Context.receive (s.dataChannels c).flags.streamed sid p)).logAll
          ((s.dataChannels c).messageCalls c
            (context.passes (s.dataChannels c).flags.streamed sid p)) := by
  have hattached' : ¬ s.flags.detached = true := by simp [hattached]
  have hconnected' : ¬ s.state ≠ .connected := not_not.mpr hconnected
  simp only [Call.run, readEventHandler, Routine.run_map, Routine.run_bind, Routine.run_get,
    Prog.bind, Routine.run_ite, if_neg hattached', run_alloc]
  intro ok hok
  obtain rfl : ok = true := hanswers s ok hok
  simp only [if_true, if_neg hconnected', Prog.always_bind, dataReceiveHandler, if_neg hdcep]
  apply Prog.Always.mono (handleApplicationMessage_receives hanswers hslot hcontext hend p)
  intro _ s' hs'
  exact hs'

end Handle

end RawrtcDataChannel
