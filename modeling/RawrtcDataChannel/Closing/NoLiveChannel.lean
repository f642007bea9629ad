import RawrtcDataChannel.Closing.Events
import RawrtcDataChannel.Lifecycle.TransportLife
import RawrtcDataChannel.Slots.Handlers

/-!
# A closed transport carries no live channel

Nobody asks whether the transport is closed when a channel is created: `channel_create_handler`
only wonders whether it should. A channel that is created on a closed transport, or by the handlers
that run while it is being closed, may end up in a slot that `close_data_channels` has already
emptied, and stays there. A channel that the other side opens on a stream that has no slot stays,
too.

In all other runs the transport has no channel once it is closed, and all channels it has ever had
are closed, whatever the handlers do.
-/

namespace RawrtcDataChannel

open Reentrant

variable {answers : Answers} {a : Call} {fs : List (Call × Op)} {s₀ s : Transport} {c : ChannelId}
  {i : Nat}

/-! ## Section 1: Every entry point keeps the contract -/

section Calls

variable [MessageBuffer]

/-- `handle_dcep_message` on a transport that is not closed. -/
theorem handleDcepMessage_settles (ha : ¬ a.ClosesAll) (hs : Settled [] s.view) (buffer : Mbuf)
    (info : RcvInfo) (eor : Bool) (hppid : info.rcvPpid = ppidDcep)
    (hsid : ∀ sid, s.UsesSlot answers buffer info eor sid → sid < s.nChannels)
    (hopen : s.state ≠ .closed) :
    ((handleDcepMessage buffer info eor).run s).Safe (vacating answers) a [] s₀
      fun _ s' => Settled [] s'.view ∧ Stable s s' := by
  have hcompletes := Noting.bufferMessageReceivedRaiseComplete_completes s.bufferDcepInbound
    s.infoDcepInbound buffer info eor s
  have hset : ∀ buffer, Settles answers a [] (modify (·.setDcepBuffer buffer) : M Unit) :=
    fun buffer => settles_modify fun s => Calm.of_eq (s.view_setDcepBuffer buffer)
  simp only [handleDcepMessage, Routine.run_bind, Routine.run_get, Prog.bind, Prog.safe_bind]
  apply (hcompletes.safe (vacating_trusts answers) a [] s₀ hcompletes.always).mono
  rintro ⟨error, bufferInbound, infoInbound⟩ s₁ ⟨⟨rfl, hcomplete⟩, -⟩
  let t : Transport := s₁.keepDcep bufferInbound infoInbound
  have ht : Settled [] t.view := { hs with }
  have hstable : Stable s₁ t := ⟨fun _ _ => id, rfl⟩
  have hrelease := hset none
  rw [Routine.run_modify, Prog.safe_ret]
  split
  · exact ⟨ht, hstable⟩
  · next message hcode hbuffer =>
    obtain ⟨heor, hmessage⟩ := hcomplete message hcode hbuffer
    have hlog := Calm.log t (.dcepMessage infoInbound.rcvSid message.rest)
    let t₁ : Transport := (t.log (.dcepMessage infoInbound.rcvSid message.rest)).setDcepBuffer
      (some message.readU8.2)
    have hcalm : Calm t t₁ := trans_of Calm hlog (Calm.of_eq (Transport.view_setDcepBuffer _ _))
    have ht₁ : Settled [] t₁.view := ht.calm hcalm
    have hstable₁ : Stable s₁ t₁ := trans_of Stable hstable (ht.stable hcalm)
    have hkept : t = s₁.keepDcep (some message) infoInbound :=
      congrArg (s₁.keepDcep · infoInbound) hbuffer
    have hstate : t₁ = s₁.handling buffer info := by
      rw [Transport.handling, ← hmessage]
      dsimp only
      rw [← hkept]
    -- however the message is handled, the buffer is released in the end
    have hend : ∀ m : M Unit, (m.run t₁).Safe (vacating answers) a [] s₀
          (fun _ s' => Settled [] s'.view ∧ Stable t₁ s') →
        ((do m; modify (·.setDcepBuffer none) : M Unit).run t₁).Safe (vacating answers) a [] s₀
          fun _ s' => Settled [] s'.view ∧ Stable s₁ s' := by
      intro m hm
      rw [Routine.run_bind, Prog.safe_bind]
      apply hm.mono
      intro _ s₂ h₂
      apply (hrelease s₀ s₂ h₂.1).mono
      intro _ s' h
      exact ⟨h.1, trans_of Stable hstable₁ (trans_of Stable h₂.2 h.2)⟩
    rw [Routine.run_bind, run_logEvent, Prog.bind, Routine.run_bind, Routine.run_modify, Prog.bind,
      Routine.run_ite]
    split
    · exact hend _ (handleDataChannelAckMessage_settles infoInbound s₀ t₁ ht₁)
    · rw [Routine.run_ite]
      split
      · next htype =>
        have hlt : t₁.PeersSid answers infoInbound.rcvSid → infoInbound.rcvSid < t₁.nChannels := by
          intro hpeers
          apply hsid
          rw [Transport.UsesSlot, if_pos hppid, ← hmessage]
          exact ⟨heor, rfl, .inr ⟨htype, hstate ▸ hpeers⟩⟩
        exact hend _ (handleDataChannelOpenMessage_settles ha ht₁ _ infoInbound hlt hopen)
      · apply (hrelease s₀ t₁ ht₁).mono
        intro _ s' h
        exact ⟨h.1, trans_of Stable hstable₁ h.2⟩
  · apply (hrelease s₀ t ht).mono
    intro _ s' h
    exact ⟨h.1, trans_of Stable hstable h.2⟩

/-- `data_receive_handler` on a transport that is not closed. -/
theorem dataReceiveHandler_settles (ha : ¬ a.ClosesAll) (hs : Settled [] s.view) (buffer : Mbuf)
    (info : RcvInfo) (eor : Bool)
    (hsid : ∀ sid, s.UsesSlot answers buffer info eor sid → sid < s.nChannels)
    (hopen : s.state ≠ .closed) :
    ((dataReceiveHandler buffer info eor).run s).Safe (vacating answers) a [] s₀
      fun _ s' => Settled [] s'.view ∧ Stable s s' := by
  unfold dataReceiveHandler
  rw [Routine.run_ite]
  split
  · next hppid => exact handleDcepMessage_settles ha hs buffer info eor hppid hsid hopen
  · exact handleApplicationMessage_settles buffer info eor s₀ s hs

/-- `handle_association_change_event`. -/
theorem handleAssociationChangeEvent_settles (ha : a.ClosesAll) (sacState : AssociationState) :
    Settles answers a fs (handleAssociationChangeEvent sacState) := by
  intro s₀ s hs
  simp only [handleAssociationChangeEvent, Routine.run_bind, Routine.run_get, Prog.bind]
  cases sacState with
  | commUp =>
    rw [Routine.run_ite]
    split
    · next hconnecting =>
      exact setState_settles hs (by rw [hconnecting]; decide) (by decide)
    · exact ⟨hs, refl_of Stable s⟩
  | cantStrAssoc | shutdownComp | commLost =>
    rw [Routine.run_ite]
    split
    · exact setState_closed_settles ha s₀ s hs
    · exact ⟨hs, refl_of Stable s⟩
  | restart | other => exact ⟨hs, refl_of Stable s⟩

/-- `handle_notification`. -/
theorem handleNotification_settles (snLength end_ : Nat) (notification : Notification) :
    Settles answers (.readEvent (.notification snLength end_ notification)) []
      (handleNotification snLength end_ notification) := by
  apply Routine.Guarded.ite (Routine.guarded_pure _)
  cases notification with
  | assocChange state =>
    have ha : (Call.readEvent (.notification snLength end_ (.assocChange state))).ClosesAll := trivial
    exact handleAssociationChangeEvent_settles ha state
  | partialDelivery pdapiStream => exact handlePartialDeliveryEvent_settles pdapiStream
  | senderDry => exact handleSenderDryEvent_settles id
  | streamReset event => exact handleStreamResetEvent_settles id event
  | sendFailed | shutdown | streamChange | other => exact Routine.guarded_pure _

omit [MessageBuffer] in
/-- A message that is handled is one of a stream that has a slot. -/
def KnowsSlots (answers : Answers) (s : Transport) : Received → Prop
  | .data bytes (some info) eor => s.flags.detached = false → s.state = .connected →
    ∀ sid, s.UsesSlot answers { data := bytes } info eor sid → sid < s.nChannels
  | _ => True

/-- `read_event_handler`. -/
theorem readEventHandler_settles (received : Received) (hs : Settled [] s.view)
    (hreceived : KnowsSlots answers s received) :
    ((readEventHandler received).run s).Safe (vacating answers) (.readEvent received) [] s₀
      fun _ s' => Settled [] s'.view ∧ Stable s s' := by
  have hsame : Settled [] s.view ∧ Stable s s := ⟨hs, refl_of Stable s⟩
  have halloc : (alloc.run s).Within Op.IsSystem fun _ s' => s' = s := ⟨rfl, fun _ => rfl⟩
  simp only [readEventHandler, Routine.run_bind, Routine.run_get, Prog.bind, Routine.run_ite]
  split
  · exact hsame
  · next hattached =>
    simp only [Prog.safe_bind]
    apply (halloc.safe (vacating_trusts answers) (.readEvent received) [] s₀
      halloc.always).mono
    rintro ok s₁ ⟨rfl, -⟩
    split
    · cases received with
      | error wouldBlock => exact hsame
      | notification snLength end_ notification =>
        exact ((handleNotification_settles snLength end_ notification).bind fun _ =>
          Routine.guarded_pure EventMask.none) s₀ s₁ hs
      | data bytes info eor =>
        simp only [Routine.run_bind, Routine.run_get, Prog.bind, Routine.run_ite]
        split
        · exact hsame
        · next hconnected =>
          have hopen : s₁.state ≠ .closed := by
            rw [not_not.mp hconnected]
            decide
          cases info with
          | none => exact hsame
          | some info =>
            simp only [Routine.run_bind, Prog.safe_bind]
            exact dataReceiveHandler_settles id hs _ info eor
              (hreceived (Bool.eq_false_of_not_eq_true hattached) (not_not.mp hconnected)) hopen
    · exact hsame

/-- `write_event_handler`. -/
theorem writeEventHandler_settles : Settles answers a fs writeEventHandler := by
  have hflag : ∀ on, Settles answers a fs (modify fun t : Transport =>
      { t with flags := { t.flags with sendingInProgress := on } } : M Unit) :=
    fun _ => settles_modify fun s => ⟨rfl, rfl, Iff.rfl, le_refl _, fun _ => .inl ⟨rfl, rfl⟩⟩
  have hsend : sctpSendDeferredMessages.Within Op.IsSystem Calm :=
    within_of_sendsOnly sctpSendDeferredMessages_within
  apply Routine.guarded_get.bind
  intro t
  apply Routine.Guarded.ite (Routine.guarded_pure _)
  apply Routine.Guarded.ite (Routine.guarded_pure _)
  apply (hflag true).bind
  intro _
  apply (settles_of_within hsend).bind
  intro _
  exact (hflag false).bind fun _ => Routine.guarded_pure _

/-! ## Section 2: Entry points -/

/-- `rawrtc_sctp_transport_start`. A handler may stop the transport meanwhile. -/
theorem sctpTransportStart_settles (ha : a.ClosesAll) (maxMessageSize : Nat) :
    Settles answers a fs (sctpTransportStart maxMessageSize) := by
  have hclose : Settles answers a fs (setState .closed) := setState_closed_settles ha
  -- both ways to succeed end with setting the MTU, and a failure of it closes
  have hend : Settles answers a fs (do
      let error ← sctpTransportSetMtu defaultMtu
      if error ≠ .success then
        setState .closed
      return error : M Code) := by
    apply (settles_of_within (sctpTransportSetMtu_within _)).bind
    intro error
    apply Routine.Guarded.ite
    · exact hclose.bind fun _ => Routine.guarded_pure error
    · exact Routine.guarded_pure error
  intro s₀ s hs
  simp only [sctpTransportStart, Routine.run_bind, Routine.run_get, Prog.bind, Routine.run_ite]
  split
  · exact ⟨hs, refl_of Stable s⟩
  · next hnew =>
    have hcalm : Calm s (s.setRemoteMaximumMessageSize maxMessageSize) :=
      ⟨rfl, rfl, Iff.rfl, le_refl _, fun _ => .inl ⟨rfl, rfl⟩⟩
    have hconnect : ((usrsctpConnect : M _).run (s.setRemoteMaximumMessageSize
        maxMessageSize)).Within Op.IsSystem
        fun _ s' => s' = s.setRemoteMaximumMessageSize maxMessageSize := ⟨rfl, fun _ => rfl⟩
    have hs₁ : Settled fs (s.setRemoteMaximumMessageSize maxMessageSize).view := hs.calm hcalm
    have hstable₁ := hs.stable hcalm
    simp only [Routine.run_modify, Prog.bind, Prog.safe_bind]
    apply (hconnect.safe (vacating_trusts answers) a fs s₀ hconnect.always).mono
    rintro result s₁ ⟨rfl, -⟩
    have hstart : ((do
        setState .connecting
        let error ← sctpTransportSetMtu defaultMtu
        if error ≠ .success then
          setState .closed
        return error : M Code).run (s.setRemoteMaximumMessageSize maxMessageSize)).Safe
        (vacating answers) a fs s₀ fun _ s' => Settled fs s'.view ∧ Stable s s' := by
      -- a new transport is not closed, so it may go on to connecting
      have hopen : (s.setRemoteMaximumMessageSize maxMessageSize).state ≠ .closed := by
        change s.state ≠ .closed
        rw [not_not.mp hnew]
        decide
      rw [Routine.run_bind, Prog.safe_bind]
      apply (setState_settles hs₁ hopen (by decide)).mono
      intro _ s₂ h₂
      apply (hend s₀ s₂ h₂.1).mono
      intro _ s' h
      exact ⟨h.1, trans_of Stable hstable₁ (trans_of Stable h₂.2 h.2)⟩
    cases result with
    | error reason =>
      have hfail := hclose.bind fun _ => Routine.guarded_pure reason.val
      apply (hfail s₀ _ hs₁).mono
      intro _ s' h
      exact ⟨h.1, trans_of Stable hstable₁ h.2⟩
    | success => exact hstart
    | inProgress => exact hstart

/-- `rawrtc_sctp_transport_stop`. -/
theorem sctpTransportStop_settles (ha : a.ClosesAll) : Settles answers a fs sctpTransportStop := by
  apply Routine.guarded_get.bind
  intro t
  apply Routine.Guarded.ite (Routine.guarded_pure _)
  exact (setState_closed_settles ha).bind fun _ => Routine.guarded_pure _

/-- `rawrtc_sctp_transport_destroy`. -/
theorem sctpTransportDestroy_settles (ha : a.ClosesAll) :
    Settles answers a fs sctpTransportDestroy := by
  have hord : Handler.destroyedHandler.Ordinary := trivial
  apply (sctpTransportStop_settles ha).bind
  intro _
  apply Routine.guarded_get.bind
  intro t
  exact Routine.Guarded.ite (callHandler_settles hord) (Routine.guarded_pure _)

/-- `rawrtc_data_channel_send`. -/
theorem dataChannelSend_settles (c : ChannelId) (buffer : Option Mbuf) (isBinary : Bool) :
    Settles answers a fs (dataChannelSend c buffer isBinary) := by
  have hsend : ∀ context buffer ppid,
      Settles answers a fs (sendMessage (some c) context buffer ppid) :=
    fun _ _ _ => settles_of_within (sendMessage_within _ _ _ _)
  have hhandler : Settles answers a fs (channelSendHandler c buffer isBinary) := by
    apply Routine.guarded_get.bind
    intro t
    apply Routine.Guarded.ite
    · apply (settles_of_within alloc_within).bind
      intro ok
      exact Routine.Guarded.ite (hsend _ _ _) (Routine.guarded_pure _)
    · exact Routine.Guarded.ite (Routine.guarded_pure _) (hsend _ _ _)
  apply Routine.guarded_get.bind
  intro t
  apply Routine.Guarded.ite (Routine.guarded_pure _)
  apply hhandler.bind
  intro error
  apply Routine.Guarded.ite
  · exact (logEvent_settles _).bind fun _ => Routine.guarded_pure _
  · exact Routine.guarded_pure _

omit [MessageBuffer] in
/-- `rawrtc_data_channel_set_streaming`. -/
theorem dataChannelSetStreaming_settles (c : ChannelId) (on : Bool) :
    Settles answers a fs (dataChannelSetStreaming c on) := by
  have hhandler : Settles answers a fs (channelSetStreamingHandler c) := by
    apply Routine.guarded_get.bind
    intro t
    exact Routine.Guarded.ite (Routine.guarded_pure _) (Routine.guarded_pure _)
  have hflag : Settles answers a fs (modify (·.modifyChannel c fun ch =>
      { ch with flags := { ch.flags with streamed := on } }) : M Unit) :=
    modifyChannel_settles c fun _ => ⟨rfl, rfl⟩
  apply Routine.guarded_get.bind
  intro t
  apply Routine.Guarded.ite (Routine.guarded_pure _)
  apply Routine.Guarded.ite (Routine.guarded_pure _)
  apply hhandler.bind
  intro error
  apply Routine.Guarded.ite
  · exact hflag.bind fun _ => Routine.guarded_pure _
  · exact Routine.guarded_pure _

/-! ## Section 3: Runs -/

/-- What the application and the event loop can do: only handlers use the library while something
    is suspended. -/
def Usable (fs : List (Call × Op)) (_ : Transport) (a : Call) : Prop :=
  ∀ f fs', fs = f :: fs' → f.2.isHandler = true ∧ a.FromHandler

/-- No channel is closed by the handler that announces it, none is created in a slot that has been
    emptied, and no message is handled that comes in on a stream that has no slot. The application
    holds on to the transport as long as it has channels. -/
structure Careful (answers : Answers) (fs : List (Call × Op)) (s : Transport) (a : Call) :
    Prop where
  usable : Usable fs s a
  close : ∀ c, a = .close c → ¬ (ongoing fs).registering c
  create : ∀ parameters handlers, a = .create parameters handlers →
    SparesEmptied answers fs s parameters handlers
  receive : ∀ received, a = .readEvent received → KnowsSlots answers s received
  keeps : KeepsHandle s a

omit [MessageBuffer] in
theorem Usable.nil (h : Usable fs s a) (ha : ¬ a.FromHandler) : fs = [] := by
  cases fs with
  | nil => rfl
  | cons f fs => exact absurd (h f fs rfl).2 ha

omit [MessageBuffer] in
/-- It is the application that uses the library. -/
theorem Usable.turn (h : Usable fs s a) : ApplicationsTurn fs := by
  intro f hf
  cases fs with
  | nil => cases hf
  | cons f' fs =>
    cases hf
    exact (h f fs rfl).1

/-- Every careful use of an entry point keeps the contract. -/
theorem call_settles (a : Call) (hs : Settled fs s.view) (h : Careful answers fs s a) :
    (a.run.run s).Safe (vacating answers) a fs s fun _ s' => Settled fs s'.view ∧ Stable s s' := by
  have hset : ∀ f : Transport → Transport, (∀ s, Calm s (f s)) →
      Settles answers a fs (do modify f; return Result.code .success : M Result) := by
    intro f hf
    exact (settles_modify hf).bind fun _ => Routine.guarded_pure _
  have hidle : ¬ a.FromHandler → fs = [] := h.usable.nil
  -- start, stop and destroy may close everything, the others leave emptied slots alone
  cases a with
  | start n =>
    have ha : (Call.start n).ClosesAll := trivial
    exact (sctpTransportStart_settles ha n).map _ s s hs
  | stop =>
    have ha : Call.stop.ClosesAll := trivial
    exact (sctpTransportStop_settles ha).map _ s s hs
  | destroy =>
    have ha : Call.destroy.ClosesAll := trivial
    exact (sctpTransportDestroy_settles ha).map _ s s hs
  | create parameters handlers =>
    simp only [Call.run, Routine.run_map, Prog.safe_bind, Prog.safe_ret]
    exact dataChannelCreate_settles id hs parameters handlers (h.create _ _ rfl)
  | send c buffer isBinary => exact (dataChannelSend_settles c buffer isBinary).map _ s s hs
  | close c => exact (dataChannelClose_settles id (h.close c rfl)).map _ s s hs
  | setStreaming c on => exact (dataChannelSetStreaming_settles c on).map _ s s hs
  | setOpenHandler c on => exact (dataChannelSetHandler_settles c _).map _ s s hs
  | setBufferedAmountLowHandler c on => exact (dataChannelSetHandler_settles c _).map _ s s hs
  | setCloseHandler c on => exact (dataChannelSetHandler_settles c _).map _ s s hs
  | setMessageHandler c on => exact (dataChannelSetHandler_settles c _).map _ s s hs
  | unsetHandlers c => exact (dataChannelSetHandler_settles c fun _ => {}).map _ s s hs
  | setDataChannelHandler on => exact hset _ (fun s => Calm.of_eq rfl) s s hs
  | setStateChangeHandler on => exact hset _ (fun s => Calm.of_eq rfl) s s hs
  | feedInbound buffer => exact ⟨hs, refl_of Stable s⟩
  | errorEvent =>
    simp only [Call.run, errorEventHandler, Routine.run_map, Routine.run_bind, Routine.run_get,
      Prog.bind, Routine.run_ite, Prog.safe_bind]
    split <;> exact ⟨hs, refl_of Stable s⟩
  | readEvent received =>
    -- events only come in while nothing is suspended
    obtain rfl := hidle id
    simp only [Call.run, Routine.run_map, Prog.safe_bind, Prog.safe_ret]
    exact readEventHandler_settles received hs (h.receive received rfl)
  | writeEvent => exact writeEventHandler_settles.map _ s s hs

/-- The library in careful surroundings, where system functions and getters return something of
    `answers`. -/
def carefulHost (answers : Answers) : Host Call Op Op.Reply Transport Result where
  code := Call.run
  permits := Careful answers
  answers := answers

omit [MessageBuffer] in
theorem create_settled (dataChannelHandler stateChangeHandler destroyedHandler traceHandle : Bool)
    (usrsctpChunkSize : Nat) : Settled [] (Transport.create dataChannelHandler stateChangeHandler
      destroyedHandler traceHandle usrsctpChunkSize).view where
  empty _ _ := rfl
  sid_of_slot _ _ h := by cases h
  slot_of_sid _ _ h := by cases h
  unregistered_of_next_le _ _ := rfl
  slot_lt _ _ h := by cases h
  closing c hc := absurd hc (not_closing_nil c)
  registering c hc := absurd hc (not_registering_idle c)

/-- Whenever the application is running, things are settled. -/
theorem reachable_settled {dataChannelHandler stateChangeHandler destroyedHandler
    traceHandle : Bool} {usrsctpChunkSize : Nat} {c : Config Call Op Op.Reply Transport Result}
    (h : Reachable (carefulHost answers) (.create dataChannelHandler stateChangeHandler
      destroyedHandler traceHandle usrsctpChunkSize) c)
    (hturn : ApplicationsTurn (pending c.stack)) : Settled (pending c.stack) c.state.view := by
  apply reachable_invariant (C := vacating answers) ?_ ?_ (fun _ _ _ => id) ?_ ?_ h hturn
  · -- nothing has to be relied on while a system function is asked
    intro fs s
    cases fs with
    | nil => exact refl_of Stable s
    | cons f fs =>
      simp only [vacating]
      split
      · exact refl_of Stable s
      · trivial
  · intro fs s₁ s₂ s₃ h₁ h₂
    cases fs with
    | nil => exact trans_of Stable h₁ h₂
    | cons f fs =>
      simp only [vacating] at h₁ h₂ ⊢
      split
      · next hf =>
        rw [if_pos hf] at h₁ h₂
        exact trans_of Stable h₁ h₂
      · next hf =>
        rw [if_neg hf] at h₁ h₂
        exact h₂.trans h₁
  · -- the application enters the library, which is settled at this point
    intro a fs s hinv hcareful
    have hturn := hcareful.usable.turn
    apply (call_settles a (hinv hturn) hcareful).mono
    intro _ s' h
    refine ⟨fun _ => h.1, ?_⟩
    cases fs with
    | nil => exact h.2
    | cons f fs =>
      have hf : f.2.isHandler = true := hturn f rfl
      simp only [vacating, hf, if_true]
      exact h.2
  · exact fun _ => create_settled _ _ _ _ _

/-! ## Section 4: Closed transports -/

/-- A create call that is refused. -/
def Refused (s : Transport) (r : Except Code ChannelId) (s' : Transport) : Prop :=
  (∃ error, error ≠ .success ∧ r = .error error) ∧ s'.channels = s.channels ∧
    s'.bufferedMessagesOutgoing = s.bufferedMessagesOutgoing

omit [MessageBuffer] in
/-- Destroying a channel that has not been registered. -/
theorem run_dataChannelDestroy_of_uninitialized
    (h : (s.dataChannels c).flags.initialized = false) : (dataChannelDestroy c).run s =
      .ret () (s.modifyChannel c ({ · with handlers := {} })) := by
  have h' : ((s.modifyChannel c ({ · with handlers := {} })).dataChannels c).flags.initialized =
      false := by simpa [Transport.modifyChannel] using h
  simp only [dataChannelDestroy, dataChannelUnsetHandlers, dataChannelClose, Routine.run_bind,
    Routine.run_modify, Routine.run_get, Routine.run_pure, Prog.bind, Routine.run_ite, if_pos h']

/-- If no slot may be taken, `rawrtc_data_channel_create` is refused. -/
theorem dataChannelCreate_refused (parameters : DataChannelParameters)
    (handlers : DataChannelHandlers)
    (hnone : ∀ i, ¬ (s.allocate parameters handlers).MayTake answers parameters i) :
    ((dataChannelCreate parameters handlers).run s).Always answers (Refused s) := by
  simp only [dataChannelCreate, dataChannelCreateInternal, Routine.run_bind, run_alloc, Prog.bind]
  intro ok _
  cases ok with
  | false => exact ⟨⟨_, Code.noConfusion, rfl⟩, rfl, rfl⟩
  | true =>
    let t : Transport := s.allocate parameters handlers
    simp only [if_true, Routine.run_bind, Routine.run_get, Routine.run_modify, Prog.bind,
      channelCreateHandler_eq, Prog.always_bind]
    apply Prog.Always.mono (chooseContext_takes answers parameters t)
    intro r s₁ h
    rcases h with ⟨error, herror, rfl, rfl⟩ | ⟨i, hi, -⟩
    · have hfresh : (t.dataChannels s.nextChannel).flags.initialized = false := by
        simp [t, Transport.modifyChannel]
      simp only [registerCreatedChannel, Routine.run_pure, Prog.always_ret, Routine.run_ite,
        if_neg herror, Routine.run_bind, run_dataChannelDestroy_of_uninitialized hfresh, Prog.bind]
      exact ⟨⟨error, herror, rfl⟩, rfl, rfl⟩
    · exact absurd hi (hnone i)

/-- The transport has no channel, all channels it has ever had are closed, and no further one can
    be created. -/
structure NoLiveChannel (H : Host Call Op Op.Reply Transport Result)
    (c : Config Call Op Op.Reply Transport Result) : Prop where
  slots : ∀ i, c.state.channels i = none
  channels : ∀ ch, (c.state.dataChannels ch).transportArg ≠ none →
    (c.state.dataChannels ch).state = .closed
  create : ∀ parameters handlers,
    H.permits (pending c.stack) c.state (.create parameters handlers) →
    ((dataChannelCreate parameters handlers).run c.state).Always H.answers (Refused c.state)

/-- **A closed transport carries no live channel**, if no channel is created in a slot that has been
    emptied, none is closed by the handler that announces it, no message is handled that comes in on
    a stream that has no slot, and the application holds on to the transport as long as it has
    channels. -/
theorem closed_without_channels (answers : Answers) {dataChannelHandler stateChangeHandler
    destroyedHandler traceHandle : Bool} {usrsctpChunkSize : Nat}
    {c : Config Call Op Op.Reply Transport Result}
    (h : Reachable (carefulHost answers) (.create dataChannelHandler stateChangeHandler
      destroyedHandler traceHandle usrsctpChunkSize) c)
    (hturn : ApplicationsTurn (pending c.stack)) (hclosed : c.state.state = .closed) :
    NoLiveChannel (carefulHost answers) c := by
  have hsettled := reachable_settled h hturn
  obtain ⟨hslots, hchannels⟩ := hsettled.of_closed hclosed
  refine ⟨hslots, ?_, ?_⟩
  · intro ch hregistered
    obtain ⟨context, hcontext⟩ := Option.ne_none_iff_exists'.mp hregistered
    apply hchannels ch context.sid
    simp [Transport.view, DataChannel.view, hcontext]
  · intro parameters handlers hcareful
    apply dataChannelCreate_refused
    intro i hi
    exact hcareful.create parameters handlers rfl i hi (.inl hclosed)

omit [MessageBuffer] in
/-- Stopping the transport while nothing is suspended is careful. -/
theorem careful_stop : Careful answers [] s .stop where
  usable f fs' hfs := by cases hfs
  close c hcall := by cases hcall
  create parameters handlers hcall := by cases hcall
  receive received hcall := by cases hcall
  keeps hcall := by cases hcall

end Calls

/-- A new transport that is stopped right away. -/
theorem stop_new [MessageBuffer] {H : Host Call Op Op.Reply Transport Result}
    (hcode : H.code = Call.run) (hanswers : ∀ h s, H.answers (.handler h) s ())
    (hstop : H.permits [] (.create false true false false 1200) .stop) :
    Reachable H (.create false true false false 1200)
      ⟨(Transport.create false true false false 1200).afterClosing, []⟩ := by
  have hbare : (Transport.create false true false false 1200).Bare :=
    ⟨fun _ => rfl, rfl, rfl, rfl⟩
  have hrunning : ¬ (Transport.create false true false false 1200).stopped := by
    rintro (hdetached | hclosed)
    · cases hdetached
    · cases hclosed
  apply Reachable.start.enter_outcome hstop
  rw [hcode]
  exact stop_outcome hanswers hbare hrunning

/-- A transport is stopped. -/
theorem closed_without_channels_stop :
    let _ := listMessageBuffer
    NoLiveChannel (carefulHost fun _ _ _ => True)
      ⟨(Transport.create false true false false 1200).afterClosing, []⟩ := by
  let _ := listMessageBuffer
  exact closed_without_channels _ (stop_new rfl (fun _ _ => trivial) careful_stop)
    (fun f hf => by cases hf) rfl

/-- A negotiated channel with id 0. -/
abbrev createNegotiated : Call :=
  .create (.ofFields none .reliableOrdered 0 none true 0) {}

/-- **A channel is created on a closed transport**, and nothing will ever close it. -/
theorem not_closed_without_channels : ∃ c,
    Reachable (listHost Usable) (.create false true false false 1200) c ∧ c.stack = [] ∧
      c.state.state = .closed ∧ c.state.channels 0 = some 0 ∧
      (c.state.dataChannels 0).state = .connecting ∧
      ¬ @NoLiveChannel listMessageBuffer (listHost Usable) c := by
  let moves : List (Move Call) := [.enter createNegotiated, .answer, .answer]
  let stopped := (Transport.create false true false false 1200).afterClosing
  let c := moves.foldl (play (listHost Usable) obligingOracle) ⟨stopped, []⟩
  have husable : ∀ s a, Usable [] s a := fun _ _ _ _ hfs => by cases hfs
  have hstopped := @stop_new listMessageBuffer (listHost Usable) rfl (fun _ _ => trivial)
    (husable (.create false true false false 1200) .stop)
  have hreachable : Reachable (listHost Usable) (.create false true false false 1200) c :=
    hstopped.script (fun _ _ => trivial) ⟨husable stopped createNegotiated, trivial⟩
  have hslot : c.state.channels 0 = some 0 := by decide +kernel
  refine ⟨c, hreachable, by decide +kernel, by decide +kernel, hslot, by decide +kernel, ?_⟩
  intro h
  -- the slot would have to be empty
  have hempty : c.state.channels 0 = none := @NoLiveChannel.slots listMessageBuffer _ c h 0
  rw [hempty] at hslot
  cases hslot

end RawrtcDataChannel
