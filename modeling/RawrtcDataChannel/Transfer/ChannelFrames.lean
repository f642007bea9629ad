import RawrtcDataChannel.Transfer.SystemRoutines

/-!
# What working on channels leaves alone

Most routines of the library work on the channels: on the objects, on the slots and on the queue of
outgoing messages. They leave the life of the transport and the reassembly of DCEP messages alone.

What is left alone differs from one argument to the next. So the lemmas below are about any
preorder `R` on transports that allows what such a routine may do: `ChannelFrame R`.
-/

namespace RawrtcDataChannel

open Reentrant

variable {answers : (o : Op) → Transport → o.Reply → Prop}

/-! ## Section 1: The preorders -/

/-- The event tells neither of the life of the transport nor of a DCEP message. -/
def Event.isOfChannels : Event → Bool
  | .transportState _ | .dcepMessage _ _ | .usrsctpClose | .fclose => false
  | _ => true

/-- A preorder that allows everything a routine does that works on the channels. -/
class ChannelFrame (R : Transport → Transport → Prop) : Prop extends IsPreorder Transport R where
  modifyChannel (s : Transport) (c : ChannelId) (f : DataChannel → DataChannel) :
    R s (s.modifyChannel c f)
  newChannel (s : Transport) (n : ChannelId) : R s { s with nextChannel := n }
  setSlot (s : Transport) (i : Nat) (entry : Option ChannelId) : R s (s.setSlot i entry)
  setTurn (s : Transport) (i : Nat) : R s { s with currentChannelSid := i }
  raiseFlag (s : Transport) : R s { s with flags := { s.flags with bufferedAmountLow := true } }
  log (s : Transport) (e : Event) : e.isOfChannels = true → R s (s.log e)
  sends (s s' : Transport) : SendsOnly s s' → R s s'

instance (R : Transport → Transport → Prop) [ChannelFrame R] : SendFrame R where
  sends := ChannelFrame.sends
  log s _ _ := ChannelFrame.log s _ rfl

variable {R : Transport → Transport → Prop} [ChannelFrame R]

/-! ## Section 2: Changes of the state -/

theorem modifyChannel_keeps (c : ChannelId) (f : DataChannel → DataChannel) :
    (modify (·.modifyChannel c f) : M Unit).Keeps answers R :=
  Routine.keeps_modify fun s => ChannelFrame.modifyChannel s c f

theorem modifyContext_keeps (c : ChannelId) (f : Context → Context) :
    (modify (·.modifyContext c f) : M Unit).Keeps answers R :=
  Routine.keeps_modify fun s => ChannelFrame.modifyChannel s c _

theorem logEvent_keeps {e : Event} (he : e.isOfChannels = true) :
    (logEvent e).Keeps answers R :=
  Routine.keeps_modify fun s => ChannelFrame.log s e he

theorem keeps_of_sendsOnly {α : Type} {m : M α} (h : m.Keeps answers SendsOnly) :
    m.Keeps answers R :=
  h.mono fun s s' => ChannelFrame.sends s s'

theorem callHandler_keeps (h : Handler) : (callHandler h).Keeps answers R := by
  apply (logEvent_keeps rfl).bind
  intro _
  exact Routine.keeps_perform _

theorem dataChannelSetState_keeps (c : ChannelId) (state : DataChannelState) :
    (dataChannelSetState c state).Keeps answers R := by
  apply (modifyChannel_keeps c _).bind
  intro _
  apply (logEvent_keeps rfl).bind
  intro _
  apply Routine.keeps_get.bind
  intro t
  cases state with
  | opened | closed => exact Routine.Keeps.ite (callHandler_keeps _) (Routine.keeps_pure _)
  | connecting | closing => exact Routine.keeps_pure _

theorem setSlot_keeps (i : Nat) (entry : Option ChannelId) :
    (modify (·.setSlot i entry) : M Unit).Keeps answers R :=
  Routine.keeps_modify fun s => ChannelFrame.setSlot s i entry

theorem takeSlot_keeps (i : Nat) (c : ChannelId) : (takeSlot i c).Keeps answers R := by
  apply Routine.keeps_get.bind
  intro t
  apply (setSlot_keeps i _).bind
  intro _
  exact logEvent_keeps rfl

theorem clearSlot_keeps (i : Nat) (c : ChannelId) : (clearSlot i c).Keeps answers R := by
  apply (setSlot_keeps i _).bind
  intro _
  exact logEvent_keeps rfl

theorem setDataChannelStatesFrom_keeps (toState : DataChannelState)
    (fromState : Option DataChannelState) (i left : Nat) :
    (setDataChannelStatesFrom toState fromState i left).Keeps answers R := by
  induction left generalizing i with
  | zero => exact Routine.keeps_pure _
  | succ left ih =>
    unfold setDataChannelStatesFrom
    apply Routine.keeps_get.bind
    intro t
    cases t.channels i with
    | none => exact ih (i + 1)
    | some c =>
      apply Routine.Keeps.ite
      · exact (dataChannelSetState_keeps c toState).bind fun _ => ih (i + 1)
      · exact ih (i + 1)

theorem setDataChannelStates_keeps (toState : DataChannelState)
    (fromState : Option DataChannelState) :
    (setDataChannelStates toState fromState).Keeps answers R := by
  apply Routine.keeps_get.bind
  intro t
  exact setDataChannelStatesFrom_keeps toState fromState 0 t.nChannels

theorem closeDataChannelsFrom_keeps (i left : Nat) :
    (closeDataChannelsFrom i left).Keeps answers R := by
  induction left generalizing i with
  | zero => exact Routine.keeps_pure _
  | succ left ih =>
    unfold closeDataChannelsFrom
    apply Routine.keeps_get.bind
    intro t
    cases t.channels i with
    | none => exact ih (i + 1)
    | some c =>
      apply (dataChannelSetState_keeps c .closed).bind
      intro _
      exact (clearSlot_keeps i c).bind fun _ => ih (i + 1)

theorem closeDataChannels_keeps : closeDataChannels.Keeps answers R := by
  apply Routine.keeps_get.bind
  intro t
  exact closeDataChannelsFrom_keeps 0 t.nChannels

/-! ## Section 3: Closing -/

theorem channelRegistered_keeps (c : ChannelId) :
    (channelRegistered c).Keeps answers R := by
  apply Routine.keeps_get.bind
  intro t
  apply Routine.Keeps.ite (Routine.keeps_pure _)
  apply (logEvent_keeps rfl).bind
  intro _
  exact Routine.keeps_pure _

theorem requestStreamReset_keeps (c : ChannelId) :
    (requestStreamReset c).Keeps answers R :=
  (requestStreamReset_within (fun s _ _ => ChannelFrame.log s _ rfl)
    fun s => ChannelFrame.log s _ rfl).keeps

theorem resetOutgoingStream_keeps (c : ChannelId) :
    (resetOutgoingStream c).Keeps answers R := by
  apply Routine.keeps_get.bind
  intro t
  apply Routine.Keeps.ite
  · apply (modifyContext_keeps c _).bind
    intro _
    exact Routine.keeps_pure _
  · apply (requestStreamReset_keeps c).bind
    intro error
    apply Routine.Keeps.ite (Routine.keeps_pure _)
    apply (dataChannelSetState_keeps _ _).bind
    intro _
    apply (channelRegistered_keeps c).bind
    intro registered
    apply Routine.Keeps.ite _ (Routine.keeps_pure _)
    apply Routine.keeps_get.bind
    intro t
    apply (clearSlot_keeps _ _).bind
    intro _
    exact Routine.keeps_pure _

theorem channelCloseHandler_keeps (c : ChannelId) :
    (channelCloseHandler c).Keeps answers R := by
  apply Routine.keeps_get.bind
  intro t
  cases (t.dataChannels c).transportArg with
  | none => exact Routine.keeps_pure _
  | some context =>
    apply (channelRegistered_keeps c).bind
    intro registered
    apply Routine.Keeps.ite _ (Routine.keeps_pure _)
    apply (resetOutgoingStream_keeps c).bind
    intro error
    apply Routine.Keeps.ite
    · apply (dataChannelSetState_keeps _ _).bind
      intro _
      exact Routine.keeps_pure _
    · exact Routine.keeps_pure _

/-- `rawrtc_data_channel_close`. -/
theorem dataChannelClose_keeps (c : ChannelId) : (dataChannelClose c).Keeps answers R := by
  apply Routine.keeps_get.bind
  intro t
  apply Routine.Keeps.ite (Routine.keeps_pure _)
  exact Routine.Keeps.ite (Routine.keeps_pure _) (channelCloseHandler_keeps c)

theorem dataChannelUnsetHandlers_keeps (c : ChannelId) :
    (dataChannelUnsetHandlers c).Keeps answers R := by
  apply (modifyChannel_keeps c _).bind
  intro _
  exact Routine.keeps_pure _

theorem dataChannelDestroy_keeps (c : ChannelId) :
    (dataChannelDestroy c).Keeps answers R := by
  apply (dataChannelUnsetHandlers_keeps c).bind
  intro _
  apply (dataChannelClose_keeps c).bind
  intro _
  exact Routine.keeps_pure _

/-! ## Section 4: Opening -/

theorem channelRegister_keeps (c : ChannelId) (context : Context) (raiseEvent : Bool) :
    (channelRegister c context raiseEvent).Keeps answers R := by
  have hopen : (do
      let t ← get
      if t.state = .connected then
        dataChannelSetState c .opened : M Unit).Keeps answers R := by
    apply Routine.keeps_get.bind
    intro t
    exact Routine.Keeps.ite (dataChannelSetState_keeps _ _) (Routine.keeps_pure _)
  unfold channelRegister
  apply (modifyChannel_keeps c _).bind
  intro _
  apply (takeSlot_keeps _ _).bind
  intro _
  apply Routine.keeps_get.bind
  intro t
  apply Routine.Keeps.ite
  · apply (callHandler_keeps _).bind
    intro _
    exact hopen
  · exact hopen

section Messages

variable [MessageBuffer]

theorem channelCreateHandler_keeps (c : ChannelId) (parameters : DataChannelParameters) :
    (channelCreateHandler c parameters).Keeps answers R := by
  have hregister : ∀ context, (registerCreatedChannel c context).Keeps answers R := by
    intro context
    cases context with
    | error error => exact Routine.keeps_pure _
    | ok context =>
      apply (channelRegister_keeps c context false).bind
      intro _
      exact Routine.keeps_pure _
  apply Routine.Keeps.ite
  · exact (channelCreateNegotiated_within _).keeps.bind hregister
  · exact (channelCreateInband_within _).keeps.bind hregister

/-- `rawrtc_data_channel_create_internal`. -/
theorem dataChannelCreateInternal_keeps (parameters : DataChannelParameters)
    (handlers : DataChannelHandlers) (callCreateHandler : Bool) :
    (dataChannelCreateInternal parameters handlers callCreateHandler).Keeps answers R := by
  apply alloc_within.keeps.bind
  intro ok
  apply Routine.Keeps.ite _ (Routine.keeps_pure _)
  apply Routine.keeps_get.bind
  intro t
  apply Routine.Keeps.bind
  · apply Routine.keeps_modify
    intro s
    exact trans_of R (ChannelFrame.newChannel s (t.nextChannel + 1))
      (ChannelFrame.modifyChannel _ t.nextChannel _)
  · intro _
    -- whether the handler succeeds or not, only the new channel is touched
    have hdone : ∀ error : Code, (if error = .success then do
        modify (·.modifyChannel t.nextChannel
          fun ch => { ch with flags := { ch.flags with initialized := true } })
        return .ok t.nextChannel
      else do
        dataChannelDestroy t.nextChannel
        return .error error : M (Except Code ChannelId)).Keeps answers R := by
      intro error
      apply Routine.Keeps.ite
      · apply (modifyChannel_keeps _ _).bind
        intro _
        exact Routine.keeps_pure _
      · apply (dataChannelDestroy_keeps _).bind
        intro _
        exact Routine.keeps_pure _
    apply Routine.Keeps.ite
    · exact (channelCreateHandler_keeps _ _).bind hdone
    · exact (Routine.keeps_pure _).bind hdone

/-- `rawrtc_data_channel_send`. -/
theorem dataChannelSend_keeps (c : ChannelId) (buffer : Option Mbuf) (isBinary : Bool) :
    (dataChannelSend c buffer isBinary).Keeps answers R := by
  have hhandler : (channelSendHandler c buffer isBinary).Keeps answers R := by
    apply Routine.keeps_get.bind
    intro t
    apply Routine.Keeps.ite
    · apply alloc_within.keeps.bind
      intro ok
      exact Routine.Keeps.ite (sendMessage_within _ _ _ _).keeps (Routine.keeps_pure _)
    · exact Routine.Keeps.ite (Routine.keeps_pure _) (sendMessage_within _ _ _ _).keeps
  apply Routine.keeps_get.bind
  intro t
  apply Routine.Keeps.ite (Routine.keeps_pure _)
  apply hhandler.bind
  intro error
  apply Routine.Keeps.ite
  · apply (logEvent_keeps rfl).bind
    intro _
    exact Routine.keeps_pure _
  · exact Routine.keeps_pure _

theorem acknowledgeAndRegister_keeps (c : ChannelId) (info : RcvInfo) :
    (acknowledgeAndRegister c info).Keeps answers R := by
  apply (channelContextCreate_within _ _).keeps.bind
  intro context
  cases context with
  | error error => exact Routine.keeps_pure _
  | ok context =>
    apply dataChannelAckMessageCreate_within.keeps.bind
    intro bufferOut
    cases bufferOut with
    | error error => exact Routine.keeps_pure _
    | ok bufferOut =>
      apply (sendMessage_within _ _ _ _).keeps.bind
      intro error
      apply Routine.Keeps.ite _ (Routine.keeps_pure _)
      apply (channelRegister_keeps _ _ _).bind
      intro _
      exact Routine.keeps_pure _

/-- `handle_data_channel_open_message`. -/
theorem handleDataChannelOpenMessage_keeps (bufferIn : Mbuf) (info : RcvInfo) :
    (handleDataChannelOpenMessage bufferIn info).Keeps answers R := by
  apply (Routine.keeps_perform _).bind
  intro role
  cases role with
  | error error => exact Routine.keeps_pure _
  | ok dtlsRole =>
    apply Routine.Keeps.ite (Routine.keeps_pure _)
    apply Routine.keeps_get.bind
    intro t
    apply Routine.Keeps.ite (Routine.keeps_pure _)
    apply (dataChannelOpenMessageParse_within _ _).keeps.bind
    intro parsed
    cases parsed with
    | error error => exact Routine.keeps_pure _
    | ok parsed =>
      apply sctpTransportGetDataTransport_within.keeps.bind
      intro error
      apply Routine.Keeps.ite (Routine.keeps_pure _)
      -- nothing has happened so far
      apply (dataChannelCreateInternal_keeps _ _ _).bind
      intro created
      cases created with
      | error error => exact Routine.keeps_pure _
      | ok c =>
        apply (acknowledgeAndRegister_keeps c info).bind
        intro registered
        exact Routine.Keeps.ite (dataChannelDestroy_keeps c) (Routine.keeps_pure _)

end Messages

/-! ## Section 5: Events of channels -/

/-- `handle_data_channel_ack_message`. -/
theorem handleDataChannelAckMessage_keeps (info : RcvInfo) :
    (handleDataChannelAckMessage info).Keeps answers R := by
  apply Routine.keeps_get.bind
  intro t
  cases t.channels info.rcvSid with
  | none => exact Routine.keeps_pure _
  | some c => exact Routine.Keeps.ite (Routine.keeps_pure _) (modifyContext_keeps c _)

/-- `handle_partial_delivery_event`. -/
theorem handlePartialDeliveryEvent_keeps (pdapiStream : Nat) :
    (handlePartialDeliveryEvent pdapiStream).Keeps answers R := by
  apply Routine.keeps_get.bind
  intro t
  apply Routine.Keeps.ite (Routine.keeps_pure _)
  cases t.channels pdapiStream with
  | none => exact Routine.keeps_pure _
  | some c =>
    apply (modifyContext_keeps c _).bind
    intro _
    apply Routine.keeps_get.bind
    intro t
    exact Routine.Keeps.ite (callHandler_keeps _) (Routine.keeps_pure _)

theorem passMessageToHandler_keeps (c : ChannelId) (buffer : Mbuf) (ppid : Nat)
    (isComplete : Bool) : (passMessageToHandler c buffer ppid isComplete).Keeps answers R := by
  apply Routine.keeps_get.bind
  intro t
  cases messageFlagsOfPpid ppid isComplete with
  | none => exact modifyContext_keeps c _
  | some messageFlags =>
    apply Routine.Keeps.ite
    · exact (callHandler_keeps _).bind fun _ => modifyContext_keeps c _
    · exact modifyContext_keeps c _

/-- `handle_application_message`. -/
theorem handleApplicationMessage_keeps (buffer : Mbuf) (info : RcvInfo) (eor : Bool) :
    (handleApplicationMessage buffer info eor).Keeps answers R := by
  apply Routine.keeps_get.bind
  intro t
  cases t.channels info.rcvSid with
  | none => exact Routine.keeps_pure _
  | some c =>
    -- only the context of this channel is touched from here on
    apply (modifyContext_keeps c _).bind
    intro _
    apply Routine.keeps_get.bind
    intro t
    apply Routine.Keeps.ite
    · apply Routine.Keeps.ite (modifyContext_keeps c _)
      apply (modifyContext_keeps c _).bind
      intro _
      exact passMessageToHandler_keeps _ _ _ _
    · apply Routine.Keeps.ite
      · apply (bufferMessageReceivedRaiseComplete_within _ _ _ _ _).keeps.bind
        intro r
        obtain ⟨error, bufferInbound, infoInbound⟩ := r
        apply (modifyContext_keeps c _).bind
        intro _
        split
        · apply (modifyContext_keeps c _).bind
          intro _
          exact passMessageToHandler_keeps _ _ _ _
        · exact modifyContext_keeps c _
        · exact modifyContext_keeps c _
      · apply (modifyContext_keeps c _).bind
        intro _
        exact passMessageToHandler_keeps _ _ _ _

theorem serveSlot_keeps (i : Nat) : (serveSlot i).Keeps answers R := by
  apply Routine.keeps_get.bind
  intro t
  cases t.channels i with
  | none => exact Routine.keeps_pure _
  | some c =>
    apply Routine.Keeps.ite
    · apply (resetOutgoingStream_keeps c).bind
      intro _
      exact modifyContext_keeps c _
    · apply Routine.keeps_get.bind
      intro t
      exact Routine.Keeps.ite (callHandler_keeps _) (Routine.keeps_pure _)

theorem senderDryLoop_keeps (stop fuel i : Nat) :
    (senderDryLoop stop fuel i).Keeps answers R := by
  induction fuel generalizing i with
  | zero => exact Routine.keeps_pure _
  | succ fuel ih =>
    unfold senderDryLoop
    apply (serveSlot_keeps i).bind
    intro _
    apply Routine.keeps_get.bind
    intro t
    apply Routine.Keeps.ite (Routine.keeps_pure _)
    exact Routine.Keeps.ite (ih _) (Routine.keeps_pure _)

/-- `handle_sender_dry_event`. -/
theorem handleSenderDryEvent_keeps : handleSenderDryEvent.Keeps answers R := by
  apply Routine.keeps_get.bind
  intro t
  apply Routine.Keeps.ite (Routine.keeps_pure _)
  apply Routine.Keeps.bind
  · exact Routine.keeps_modify fun s => ChannelFrame.raiseFlag s
  · intro _
    apply (senderDryLoop_keeps _ _ _).bind
    intro i
    exact Routine.keeps_modify fun s => ChannelFrame.setTurn s i

theorem handleIncomingStreamReset_keeps (c : ChannelId) :
    (handleIncomingStreamReset c).Keeps answers R := by
  apply (modifyChannel_keeps c _).bind
  intro _
  apply Routine.keeps_get.bind
  intro t
  apply Routine.Keeps.ite _ (Routine.keeps_pure _)
  apply (resetOutgoingStream_keeps c).bind
  intro error
  apply Routine.Keeps.ite (Routine.keeps_pure _)
  apply (dataChannelSetState_keeps c .closing).bind
  intro _
  exact Routine.keeps_pure _

theorem closeIfBothReset_keeps (c : ChannelId) : (closeIfBothReset c).Keeps answers R := by
  apply Routine.keeps_get.bind
  intro t
  apply Routine.Keeps.ite _ (Routine.keeps_pure _)
  apply (dataChannelSetState_keeps c .closed).bind
  intro _
  apply Routine.keeps_get.bind
  intro t
  exact clearSlot_keeps _ c

theorem handleStreamReset_keeps (event : StreamResetEvent) (sid : Nat) :
    (handleStreamReset event sid).Keeps answers R := by
  apply Routine.keeps_get.bind
  intro t
  apply Routine.Keeps.ite (Routine.keeps_pure _)
  cases t.channels sid with
  | none => exact Routine.keeps_pure _
  | some c =>
    have hend : ∀ closed : Bool, (if closed then return () else do
        if event.outgoingSsn then
          modify (·.modifyChannel c fun ch =>
            { ch with flags := { ch.flags with outgoingStreamReset := true } })
        closeIfBothReset c : M Unit).Keeps answers R := by
      intro closed
      apply Routine.Keeps.ite (Routine.keeps_pure _)
      apply Routine.Keeps.ite
      · apply (modifyChannel_keeps c _).bind
        intro _
        exact closeIfBothReset_keeps c
      · exact closeIfBothReset_keeps c
    apply Routine.Keeps.ite
    · exact (handleIncomingStreamReset_keeps c).bind hend
    · exact (Routine.keeps_pure _).bind hend

/-- `handle_stream_reset_event`. -/
theorem handleStreamResetEvent_keeps (event : StreamResetEvent) :
    (handleStreamResetEvent event).Keeps answers R := by
  apply Routine.Keeps.ite (Routine.keeps_pure _)
  induction event.strresetStreamList with
  | nil => exact Routine.keeps_pure _
  | cons sid sids ih => exact (handleStreamReset_keeps event sid).bind fun _ => ih

/-! ## Section 6: Attributes of channels -/

/-- `rawrtc_data_channel_set_streaming`. -/
theorem dataChannelSetStreaming_keeps (c : ChannelId) (on : Bool) :
    (dataChannelSetStreaming c on).Keeps answers R := by
  have hhandler : (channelSetStreamingHandler c).Keeps answers R := by
    apply Routine.keeps_get.bind
    intro t
    exact Routine.Keeps.ite (Routine.keeps_pure _) (Routine.keeps_pure _)
  apply Routine.keeps_get.bind
  intro t
  apply Routine.Keeps.ite (Routine.keeps_pure _)
  apply Routine.Keeps.ite (Routine.keeps_pure _)
  apply hhandler.bind
  intro error
  apply Routine.Keeps.ite
  · apply (modifyChannel_keeps c _).bind
    intro _
    exact Routine.keeps_pure _
  · exact Routine.keeps_pure _

theorem dataChannelSetHandler_keeps (c : ChannelId)
    (f : DataChannelHandlers → DataChannelHandlers) :
    (dataChannelSetHandler c f).Keeps answers R := by
  apply (modifyChannel_keeps c _).bind
  intro _
  exact Routine.keeps_pure _

end RawrtcDataChannel
