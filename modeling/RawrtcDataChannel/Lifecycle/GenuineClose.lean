import RawrtcDataChannel.Reentrant.Machine
import RawrtcDataChannel.Transfer.ChannelFrames

/-!
# The transport closes for a cause

A transport is closed by stopping or destroying it, by a connect that fails and by the end of its
association. Nothing else that fails closes it, with one exception: `rawrtc_sctp_transport_start`
goes on after the default MTU could not be set, as its comment says, but the error is still in the
variable that decides at its end whether the transport is closed.
-/

namespace RawrtcDataChannel

open Reentrant

/-! ## Section 1: Steps -/

/-- How the sockets answer during one step. A step connects at most once and sets the MTU at most
    once. -/
structure SocketAnswers where
  connect : ConnectResult
  setPeerAddrParams : Option Failure
  /-- Whether every allocation succeeds. -/
  ampleMemory : Bool

/-- What the surroundings answer. All that is not mentioned is left open. -/
def SocketAnswers.answers (sockets : SocketAnswers) : (o : Op) → Transport → o.Reply → Prop
  | .connect, _, r => r = sockets.connect
  | .setPeerAddrParams _, _, r => r = sockets.setPeerAddrParams
  | .alloc, _, ok => sockets.ampleMemory = true → (ok : Bool) = true
  | .allocSendContext, _, ok => sockets.ampleMemory = true → (ok : Bool) = true
  | _, _, _ => True

/-- The library with handlers that do not call back. The transport is not let go of while it has
    channels. -/
def quietHost [MessageBuffer] (sockets : SocketAnswers) :
    Host Call Op Op.Reply Transport Result where
  code := Call.run
  permits _ s a := KeepsHandle s a
  answers := sockets.answers

/-- One step of a run: a call of the library that has run to its end. -/
structure LifeStep [MessageBuffer] where
  before : Transport
  call : Call
  sockets : SocketAnswers
  result : Result
  after : Transport
  turn : Turn (quietHost sockets) before call result after

/-- A run, with its steps in order. -/
inductive Life [MessageBuffer] (s₀ : Transport) : List LifeStep → Transport → Prop where
  | nil : Life s₀ [] s₀
  | snoc {steps : List LifeStep} (x : LifeStep) :
      Life s₀ steps x.before → Life s₀ (steps ++ [x]) x.after

/-- `usrsctp_connect` failed with something other than `EINPROGRESS`. -/
def ConnectResult.failed : ConnectResult → Bool
  | .success | .inProgress => false
  | .error _ => true

/-- The association has ended, or could not be established. -/
def AssociationState.isOver : AssociationState → Bool
  | .cantStrAssoc | .shutdownComp | .commLost => true
  | .commUp | .restart | .other => false

/-- What was received is that the association has ended. -/
def Received.EndsAssociation : Received → Prop
  | .notification snLength end_ (.assocChange state) => snLength = end_ ∧ state.isOver = true
  | _ => False

/-- The call is a cause for closing the transport. -/
def Call.IsCause (before : Transport) (sockets : SocketAnswers) : Call → Prop
  | .stop | .destroy => True
  | .start _ => before.state = .new ∧ sockets.connect.failed = true
  | .readEvent received => received.EndsAssociation
  | _ => False

/-- The library gets to know of an event. It is only received if there is memory for it. -/
def Call.IsHeard (sockets : SocketAnswers) : Call → Prop
  | .readEvent _ => sockets.ampleMemory = true
  | _ => True

/-- The default MTU could not be set after a connect that did not fail. -/
def Call.MtuRefused (before : Transport) (sockets : SocketAnswers) : Call → Prop
  | .start _ => before.state = .new ∧ sockets.connect.failed = false ∧
      sockets.setPeerAddrParams ≠ none
  | _ => False

namespace LifeStep

variable [MessageBuffer] (x : LifeStep)

/-- The step takes the transport to CLOSED. -/
def Closes : Prop :=
  x.before.state ≠ .closed ∧ x.after.state = .closed

/-- The step closes the transport if and only if it is a cause for that, and starting succeeds
    exactly if the connect did not fail. -/
structure ClosesForCause : Prop where
  cause : x.Closes → x.call.IsCause x.before x.sockets
  closes : x.before.state ≠ .closed → x.call.IsCause x.before x.sockets →
    x.call.IsHeard x.sockets → x.Closes
  starts : ∀ size, x.call = .start size → x.before.state = .new →
    (x.result = .code .success ↔ x.sockets.connect.failed = false)

/-- The step is a start whose connect did not fail, but that could not set the default MTU. -/
def MtuRefused : Prop :=
  x.call.MtuRefused x.before x.sockets

end LifeStep

/-! ## Section 2: What a call does to the life of the transport -/

/-- The life of the transport is the same, and so is the number of its slots. -/
structure SameLife (s s' : Transport) : Prop where
  state : s'.state = s.state
  detached : s'.flags.detached = s.flags.detached
  socket : s'.socket = s.socket
  nChannels : s'.nChannels = s.nChannels

instance : ChannelFrame SameLife where
  refl _ := ⟨rfl, rfl, rfl, rfl⟩
  trans _ _ _ h h' := ⟨h'.state.trans h.state, h'.detached.trans h.detached,
    h'.socket.trans h.socket, h'.nChannels.trans h.nChannels⟩
  modifyChannel _ _ _ := ⟨rfl, rfl, rfl, rfl⟩
  newChannel _ _ := ⟨rfl, rfl, rfl, rfl⟩
  setSlot _ _ _ := ⟨rfl, rfl, rfl, rfl⟩
  setTurn _ _ := ⟨rfl, rfl, rfl, rfl⟩
  raiseFlag _ := ⟨rfl, rfl, rfl, rfl⟩
  log _ _ _ := ⟨rfl, rfl, rfl, rfl⟩
  sends s s' h := by
    obtain ⟨low, queue, es, rfl, -⟩ := h
    exact ⟨rfl, rfl, rfl, rfl⟩

/-- The transport is detached exactly if it is closed, and has its socket until then. -/
structure Transport.Sound (s : Transport) : Prop where
  detached : s.flags.detached = true ↔ s.state = .closed
  socket : s.state ≠ .closed → s.socket = true

theorem SameLife.sound {s s' : Transport} (h : SameLife s s') (hs : s.Sound) : s'.Sound := by
  refine ⟨?_, ?_⟩
  · rw [h.detached, h.state]
    exact hs.detached
  · rw [h.state, h.socket]
    exact hs.socket

/-- The transport has been closed. -/
structure Transport.Over (s : Transport) : Prop where
  state : s.state = .closed
  detached : s.flags.detached = true

theorem Transport.Over.sound {s : Transport} (h : s.Over) : s.Sound :=
  ⟨⟨fun _ => h.state, fun _ => h.detached⟩, fun hne => absurd h.state hne⟩

/-- The transport is still detached if it was. -/
def StaysDetached (s s' : Transport) : Prop :=
  s.flags.detached = true → s'.flags.detached = true

instance : IsPreorder Transport StaysDetached where
  refl _ h := h
  trans _ _ _ h h' hs := h' (h hs)

section Calls

variable {answers : (o : Op) → Transport → o.Reply → Prop}

theorem detachTransport_always (s : Transport) :
    (detachTransport.run s).Always answers fun _ s' => s'.flags.detached = true := by
  have hreport : (do
      let t ← get
      if t.detachHandler then
        callHandler .detachHandler : M Unit).Keeps answers SameLife := by
    apply Routine.keeps_get.bind
    intro t
    exact Routine.Keeps.ite (callHandler_keeps _) (Routine.keeps_pure _)
  apply Prog.Always.mono (hreport s.detach)
  intro _ s' h
  rw [h.detached]
  rfl

/-- The rest of closing does not attach the transport again. -/
theorem closeSocket_keeps : closeSocket.Keeps answers StaysDetached := by
  apply Routine.keeps_get.bind
  intro t
  apply Routine.Keeps.ite _ (Routine.keeps_pure _)
  apply Routine.Keeps.bind
  · exact Routine.keeps_modify fun s h => h
  · intro _
    exact Routine.keeps_modify fun s h => h

theorem closeTraceFile_keeps : closeTraceFile.Keeps answers StaysDetached := by
  apply Routine.keeps_get.bind
  intro t
  exact Routine.Keeps.ite (Routine.keeps_modify fun s h => h) (Routine.keeps_pure _)

theorem closeTransport_always (s : Transport) :
    (closeTransport.run s).Always answers fun _ s' => s'.flags.detached = true := by
  have hrest : (do closeSocket; closeTraceFile : M Unit).Keeps answers StaysDetached :=
    closeSocket_keeps.bind fun _ => closeTraceFile_keeps
  simp only [closeTransport, Routine.run_bind, Prog.always_bind]
  apply Prog.Always.mono (closeDataChannels_keeps (R := SameLife) s)
  intro _ s₁ _
  apply Prog.Always.mono (detachTransport_always s₁)
  intro _ s₂ h₂
  have hclosed := hrest s₂
  simp only [Routine.run_bind, Prog.always_bind] at hclosed
  apply Prog.Always.mono hclosed
  intro _ s₃ h₃
  apply Prog.Always.mono h₃
  intro _ s₄ h₄
  exact h₄ h₂

variable [MessageBuffer]

omit [MessageBuffer] in
/-- The end of `set_state`. -/
theorem reportState_keeps (state : TransportState) : (do
    let t ← get
    if t.stateChangeHandler then
      callHandler (.stateChangeHandler state) : M Unit).Keeps answers SameLife := by
  apply Routine.keeps_get.bind
  intro t
  exact Routine.Keeps.ite (callHandler_keeps _) (Routine.keeps_pure _)

/-- After `set_state` to CLOSED the transport is closed. -/
theorem setState_closed_always (s : Transport) :
    ((setState .closed).run s).Always answers fun _ s' => s'.Over := by
  have hclosed : TransportState.closed ≠ .connected := by decide
  simp only [setState, if_true, if_neg hclosed, Routine.run_bind, Prog.always_bind,
    Routine.run_modify, run_logEvent, Prog.always_ret]
  apply Prog.Always.mono (closeTransport_always s)
  intro _ s₁ h₁
  apply Prog.Always.mono (reportState_keeps .closed ((s₁.setState .closed).log
    (.transportState .closed)))
  intro _ s₂ h₂
  exact ⟨h₂.state, h₂.detached.trans h₁⟩

/-- `set_state` to any other state sets this state and does nothing else to the transport's life. -/
theorem setState_always {state : TransportState} (hstate : state ≠ .closed) (s : Transport) :
    ((setState state).run s).Always answers fun _ s' =>
      s'.state = state ∧ s'.flags.detached = s.flags.detached ∧ s'.socket = s.socket := by
  have hend : ((do
      if state = .connected then
        let _ ← sctpSendDeferredMessages
        setDataChannelStates .opened (some .connecting)
      let t ← get
      if t.stateChangeHandler then
        callHandler (.stateChangeHandler state) : M Unit)).Keeps answers SameLife := by
    apply Routine.Keeps.ite
    · apply (keeps_of_sendsOnly sctpSendDeferredMessages_keeps).bind
      intro _
      exact (setDataChannelStates_keeps _ _).bind fun _ => reportState_keeps state
    · exact reportState_keeps state
  simp only [setState, if_neg hstate, Routine.run_bind, Prog.bind,
    Routine.run_modify, run_logEvent]
  apply Prog.Always.mono (hend ((s.setState state).log (.transportState state)))
  intro _ s' h
  exact ⟨h.state, h.detached, h.socket⟩

/-! ## Section 3: Starting and stopping -/

omit [MessageBuffer] in
/-- Setting the MTU of a transport that is connecting. -/
theorem sctpTransportSetMtu_always {sockets : SocketAnswers} {s : Transport}
    (hstate : s.state = .connecting) (hsocket : s.socket = true) (mtu : Nat) :
    ((sctpTransportSetMtu mtu).run s).Always sockets.answers fun r s' =>
      s' = s ∧ (r = .success ↔ sockets.setPeerAddrParams = none) := by
  have hopen : ¬ s.socket = false := by simp [hsocket]
  have hrunning : ¬ (s.state ≠ .connecting ∧ s.state ≠ .connected) := by simp [hstate]
  simp only [sctpTransportSetMtu, Routine.run_bind, Routine.run_get, Prog.bind, Routine.run_ite,
    if_neg hopen, if_neg hrunning, run_usrsctpSetPeerAddrParams]
  intro r hr
  obtain rfl : r = sockets.setPeerAddrParams := hr
  cases hmtu : sockets.setPeerAddrParams with
  | none => exact ⟨rfl, by simp⟩
  | some error => exact ⟨rfl, by simp [error.property]⟩

/-- What `rawrtc_sctp_transport_start` makes of a new transport. -/
theorem sctpTransportStart_always {sockets : SocketAnswers} {s : Transport} (hnew : s.state = .new)
    (hs : s.Sound) (size : Nat) :
    ((sctpTransportStart size).run s).Always sockets.answers fun r s' =>
      if sockets.connect.failed = false ∧ sockets.setPeerAddrParams = none then
        r = .success ∧ s'.state = .connecting ∧ s'.Sound
      else
        r ≠ .success ∧ s'.Over := by
  have hrunning : s.state ≠ .closed := by simp [hnew]
  have hattached : s.flags.detached = false := by
    simpa using fun h => hrunning (hs.detached.mp h)
  have hnew' : ¬ s.state ≠ .new := not_not.mpr hnew
  -- what happens once the connect is under way
  have hunderway : ((do
      setState .connecting
      let error ← sctpTransportSetMtu defaultMtu
      if error ≠ .success then
        setState .closed
      return error : M Code).run (s.setRemoteMaximumMessageSize size)).Always sockets.answers
        fun r s' =>
          if sockets.setPeerAddrParams = none then
            r = .success ∧ s'.state = .connecting ∧ s'.Sound
          else
            r ≠ .success ∧ s'.Over := by
    simp only [Routine.run_bind, Prog.always_bind]
    apply Prog.Always.mono (setState_always (by decide) _)
    intro _ s₁ h₁
    obtain ⟨hstate, hdetached, hsocket⟩ := h₁
    have hsocket' : s₁.socket = true := hsocket.trans (hs.socket hrunning)
    apply Prog.Always.mono (sctpTransportSetMtu_always hstate hsocket' defaultMtu)
    intro r s₂ h₂
    obtain ⟨rfl, hr⟩ := h₂
    by_cases hmtu : sockets.setPeerAddrParams = none
    · have hsuccess : ¬ r ≠ .success := not_not.mpr (hr.mpr hmtu)
      simp only [if_neg hsuccess, if_pos hmtu, Routine.run_pure, Prog.always_ret]
      refine ⟨hr.mpr hmtu, hstate, ?_, fun _ => hsocket'⟩
      rw [hdetached, hstate]
      simp [Transport.setRemoteMaximumMessageSize, hattached]
    · have herror : r ≠ .success := fun h => hmtu (hr.mp h)
      simp only [if_pos herror, if_neg hmtu, Routine.run_bind, Prog.always_bind, Routine.run_pure,
        Prog.always_ret]
      apply Prog.Always.mono (setState_closed_always s₂)
      intro _ s₃ h₃
      exact ⟨herror, h₃⟩
  simp only [sctpTransportStart, Routine.run_bind, Routine.run_get, Prog.bind, Routine.run_ite,
    if_neg hnew', Routine.run_modify, run_usrsctpConnect]
  intro connect hconnect
  obtain rfl : connect = sockets.connect := hconnect
  cases hresult : sockets.connect with
  | error reason =>
    simp only [ConnectResult.failed, Bool.true_eq_false, false_and, if_false, Routine.run_bind,
      Prog.always_bind, Routine.run_pure, Prog.always_ret]
    apply Prog.Always.mono (setState_closed_always _)
    intro _ s' h
    exact ⟨reason.property, h⟩
  | success =>
    simp only [ConnectResult.failed, true_and]
    exact hunderway
  | inProgress =>
    simp only [ConnectResult.failed, true_and]
    exact hunderway

/-- After `rawrtc_sctp_transport_stop` the transport is closed. -/
theorem sctpTransportStop_always {s : Transport} (hs : s.Sound) :
    (sctpTransportStop.run s).Always answers fun _ s' => s'.Over := by
  simp only [sctpTransportStop, Routine.run_bind, Routine.run_get, Prog.bind, Routine.run_ite]
  split
  · next h =>
    have hstate : s.state = .closed := h.elim hs.detached.mp id
    exact ⟨hstate, hs.detached.mpr hstate⟩
  · simp only [Prog.always_bind, Routine.run_pure, Prog.always_ret]
    exact setState_closed_always s

/-- After `rawrtc_sctp_transport_destroy` the transport is closed. -/
theorem sctpTransportDestroy_always {s : Transport} (hs : s.Sound) :
    (sctpTransportDestroy.run s).Always answers fun _ s' => s'.Over := by
  simp only [sctpTransportDestroy, Routine.run_bind, Prog.always_bind]
  apply Prog.Always.mono (sctpTransportStop_always hs)
  intro _ s₁ h₁
  have hkeeps : (do
      let t ← get
      if t.flags.initialized ∧ t.destroyedHandler then
        callHandler .destroyedHandler : M Unit).Keeps answers SameLife := by
    apply Routine.keeps_get.bind
    intro t
    exact Routine.Keeps.ite (callHandler_keeps _) (Routine.keeps_pure _)
  apply Prog.Always.mono (hkeeps s₁)
  intro _ s₂ h₂
  exact ⟨h₂.state.trans h₁.state, h₂.detached.trans h₁.detached⟩

/-! ## Section 4: Events -/

/-- `handle_association_change_event`. -/
theorem handleAssociationChangeEvent_always {s : Transport} (hs : s.Sound)
    (state : AssociationState) :
    ((handleAssociationChangeEvent state).run s).Always answers fun _ s' => s'.Sound ∧
      (s'.state = .closed ↔ s.state = .closed ∨ state.isOver = true) := by
  -- the association is over
  have hover : ((if s.flags.detached = false ∧ s.state ≠ .closed then
      setState .closed else pure () : M Unit).run s).Always answers fun _ s' => s'.Over := by
    rw [Routine.run_ite]
    split
    · exact setState_closed_always s
    · next h =>
      have hstate : s.state = .closed := by
        by_contra hrunning
        have hattached : s.flags.detached = false := by
          simpa using fun hdetached => hrunning (hs.detached.mp hdetached)
        exact h ⟨hattached, hrunning⟩
      exact ⟨hstate, hs.detached.mpr hstate⟩
  have hclosed : ∀ s' : Transport, s'.Over → s'.Sound ∧ (s'.state = .closed ↔
      s.state = .closed ∨ true = true) := by
    intro s' h
    exact ⟨h.sound, by simp [h.state]⟩
  simp only [handleAssociationChangeEvent, Routine.run_bind, Routine.run_get, Prog.bind]
  cases state with
  | cantStrAssoc | shutdownComp | commLost => exact Prog.Always.mono hover fun _ => hclosed
  | restart | other => exact ⟨hs, by simp [AssociationState.isOver]⟩
  | commUp =>
    rw [Routine.run_ite]
    split
    · next hconnecting =>
      have hrunning : s.state ≠ .closed := by simp [hconnecting]
      apply Prog.Always.mono (setState_always (by decide) s)
      intro _ s' h
      obtain ⟨hstate, hdetached, hsocket⟩ := h
      refine ⟨⟨?_, fun _ => hsocket.trans (hs.socket hrunning)⟩, ?_⟩
      · rw [hdetached, hs.detached, hstate, hconnecting]
        decide
      · rw [hstate, hconnecting]
        decide
    · exact ⟨hs, by simp [AssociationState.isOver]⟩

/-- `data_receive_handler`. -/
theorem dataReceiveHandler_keeps (buffer : Mbuf) (info : RcvInfo) (eor : Bool) :
    (dataReceiveHandler buffer info eor).Keeps answers SameLife := by
  have hkeep : ∀ (b : Option Mbuf) (i : RcvInfo),
      (modify (·.keepDcep b i) : M Unit).Keeps answers SameLife :=
    fun b i => Routine.keeps_modify fun s => ⟨rfl, rfl, rfl, rfl⟩
  have hset : ∀ b : Option Mbuf, (modify (·.setDcepBuffer b) : M Unit).Keeps answers SameLife :=
    fun b => Routine.keeps_modify fun s => ⟨rfl, rfl, rfl, rfl⟩
  have hlog : ∀ e, (logEvent e).Keeps answers SameLife :=
    fun e => Routine.keeps_modify fun s => ⟨rfl, rfl, rfl, rfl⟩
  apply Routine.Keeps.ite _ (handleApplicationMessage_keeps _ _ _)
  apply Routine.keeps_get.bind
  intro t
  apply (bufferMessageReceivedRaiseComplete_within _ _ _ _ _).keeps.bind
  intro r
  obtain ⟨error, bufferDcepInbound, infoDcepInbound⟩ := r
  apply (hkeep _ _).bind
  intro _
  split
  · exact Routine.keeps_pure _
  · apply (hlog _).bind
    intro _
    apply (hset _).bind
    intro _
    apply Routine.Keeps.ite
    · exact (handleDataChannelAckMessage_keeps _).bind fun _ => hset none
    · apply Routine.Keeps.ite
      · exact (handleDataChannelOpenMessage_keeps _ _).bind fun _ => hset none
      · exact hset none
  · exact hset none

/-- `handle_notification`, for everything but a change of the association. -/
theorem handleNotification_keeps {notification : Notification}
    (hother : ∀ state, notification ≠ .assocChange state) (snLength end_ : Nat) :
    (handleNotification snLength end_ notification).Keeps answers SameLife := by
  apply Routine.Keeps.ite (Routine.keeps_pure _)
  cases notification with
  | assocChange state => exact absurd rfl (hother state)
  | partialDelivery pdapiStream => exact handlePartialDeliveryEvent_keeps pdapiStream
  | senderDry => exact handleSenderDryEvent_keeps
  | streamReset event => exact handleStreamResetEvent_keeps event
  | sendFailed | shutdown | streamChange | other => exact Routine.keeps_pure _

/-- `read_event_handler`. -/
theorem readEventHandler_always {sockets : SocketAnswers} {s : Transport} (hs : s.Sound)
    (received : Received) :
    ((readEventHandler received).run s).Always sockets.answers fun _ s' => s'.Sound ∧
      (s'.state = .closed → s.state = .closed ∨ received.EndsAssociation) ∧
      (sockets.ampleMemory = true → received.EndsAssociation → s'.state = .closed) := by
  -- events other than the end of the association leave the life of the transport alone
  have hsame : ∀ s', SameLife s s' → ¬ received.EndsAssociation → s'.Sound ∧
      (s'.state = .closed → s.state = .closed ∨ received.EndsAssociation) ∧
      (sockets.ampleMemory = true → received.EndsAssociation → s'.state = .closed) := by
    intro s' h hnot
    exact ⟨h.sound hs, fun hclosed => .inl (h.state.symm.trans hclosed),
      fun _ hends => absurd hends hnot⟩
  simp only [readEventHandler, Routine.run_bind, Routine.run_get, Prog.bind, Routine.run_ite]
  split
  · -- detached transports are closed already
    next hdetached =>
    have hstate := hs.detached.mp hdetached
    exact ⟨hs, fun _ => .inl hstate, fun _ _ => hstate⟩
  · simp only [run_alloc, Prog.bind]
    intro ok hok
    cases ok with
    | false =>
      refine ⟨hs, fun h => .inl h, ?_⟩
      intro hample
      cases hok hample
    | true =>
      simp only [if_true]
      cases received with
      | error wouldBlock => exact hsame s (refl_of SameLife s) id
      | data bytes info eor =>
        simp only [Routine.run_bind, Routine.run_get, Prog.bind, Routine.run_ite]
        split
        · exact hsame s (refl_of SameLife s) id
        · cases info with
          | none => exact hsame s (refl_of SameLife s) id
          | some info =>
            simp only [Routine.run_bind, Prog.always_bind]
            apply Prog.Always.mono (dataReceiveHandler_keeps _ _ _ s)
            intro _ s' h
            exact hsame s' h id
      | notification snLength end_ notification =>
        simp only [Routine.run_bind, Prog.always_bind]
        -- only a change of the association can close the transport
        by_cases hchange : ∃ state, notification = .assocChange state
        · obtain ⟨state, rfl⟩ := hchange
          unfold handleNotification
          split
          · -- a notification of the wrong length is not heard
            next hbad => exact hsame s (refl_of SameLife s) fun h => hbad h.1
          · next hgood =>
            apply Prog.Always.mono (handleAssociationChangeEvent_always hs state)
            intro _ s' h
            refine ⟨h.1, fun hclosed => ?_, fun _ hends => h.2.mpr (.inr hends.2)⟩
            exact (h.2.mp hclosed).imp id fun hover => ⟨not_not.mp hgood, hover⟩
        · have hother : ∀ state, notification ≠ .assocChange state :=
            fun state hstate => hchange ⟨state, hstate⟩
          apply Prog.Always.mono (handleNotification_keeps hother snLength end_ s)
          intro _ s' h
          apply hsame s' h
          intro hends
          cases notification with
          | assocChange state => exact hother state rfl
          | _ => exact hends

/-- `write_event_handler`. -/
theorem writeEventHandler_keeps : writeEventHandler.Keeps answers SameLife := by
  have hmark : ∀ b : Bool, (modify fun t : Transport =>
      { t with flags := { t.flags with sendingInProgress := b } } : M Unit).Keeps answers
        SameLife := fun b => Routine.keeps_modify fun s => ⟨rfl, rfl, rfl, rfl⟩
  apply Routine.keeps_get.bind
  intro t
  apply Routine.Keeps.ite (Routine.keeps_pure _)
  apply Routine.Keeps.ite (Routine.keeps_pure _)
  apply (hmark true).bind
  intro _
  apply (keeps_of_sendsOnly sctpSendDeferredMessages_keeps).bind
  intro _
  apply (hmark false).bind
  intro _
  exact Routine.keeps_pure _

/-! ## Section 5: Runs -/

/-- The calls that do not concern the life of the transport. -/
theorem Call.run_keeps {a : Call} (hstart : ∀ size, a ≠ .start size) (hstop : a ≠ .stop)
    (hdestroy : a ≠ .destroy) (hread : ∀ received, a ≠ .readEvent received) :
    a.run.Keeps answers SameLife := by
  cases a with
  | start size => exact absurd rfl (hstart size)
  | stop => exact absurd rfl hstop
  | destroy => exact absurd rfl hdestroy
  | readEvent received => exact absurd rfl (hread received)
  | create parameters handlers => exact (dataChannelCreateInternal_keeps _ _ _).map _
  | send c buffer isBinary => exact (dataChannelSend_keeps _ _ _).map _
  | close c => exact (dataChannelClose_keeps c).map _
  | setStreaming c on => exact (dataChannelSetStreaming_keeps c on).map _
  | setOpenHandler c on | setBufferedAmountLowHandler c on | setCloseHandler c on
    | setMessageHandler c on => exact (dataChannelSetHandler_keeps c _).map _
  | unsetHandlers c => exact (dataChannelUnsetHandlers_keeps c).map _
  | setDataChannelHandler on | setStateChangeHandler on => exact fun s => ⟨rfl, rfl, rfl, rfl⟩
  | writeEvent => exact writeEventHandler_keeps.map _
  | feedInbound buffer => exact fun s => ⟨rfl, rfl, rfl, rfl⟩
  | errorEvent =>
    apply Routine.Keeps.map
    apply Routine.keeps_get.bind
    intro t
    exact Routine.Keeps.ite (Routine.keeps_pure _) (Routine.keeps_pure _)

/-- What a call does to the life of the transport. -/
structure Call.Lives (s : Transport) (sockets : SocketAnswers) (a : Call) (r : Result)
    (s' : Transport) : Prop where
  sound : s'.Sound
  cause : s'.state = .closed → s.state = .closed ∨ a.IsCause s sockets ∨ a.MtuRefused s sockets
  closes : a.IsHeard sockets → a.IsCause s sockets → s'.state = .closed
  refused : a.MtuRefused s sockets → s'.state = .closed
  starts : ∀ size, a = .start size → s.state = .new →
    (r = .code .success ↔ sockets.connect.failed = false ∧ sockets.setPeerAddrParams = none)

variable {sockets : SocketAnswers} {s : Transport}

/-- Starting, in any state. -/
theorem Call.start_always (hs : s.Sound) (size : Nat) :
    ((Call.start size).run.run s).Always sockets.answers (Call.Lives s sockets (.start size)) := by
  simp only [Call.run, Routine.run_map, Prog.always_bind, Prog.always_ret]
  by_cases hnew : s.state = .new
  · apply Prog.Always.mono (sctpTransportStart_always hnew hs size)
    intro r s' h
    split at h
    · next hgood =>
      obtain ⟨rfl, hstate, hsound⟩ := h
      obtain ⟨hconnect, hmtu⟩ := hgood
      refine ⟨hsound, ?_, ?_, ?_, ?_⟩
      · intro hclosed
        cases hstate.symm.trans hclosed
      · intro _ hcause
        cases hconnect.symm.trans hcause.2
      · intro hrefused
        exact absurd hmtu hrefused.2.2
      · intro _ _ _
        exact ⟨fun _ => ⟨hconnect, hmtu⟩, fun _ => rfl⟩
    · next hbad =>
      obtain ⟨hr, hover⟩ := h
      refine ⟨hover.sound, ?_, fun _ _ => hover.state, fun _ => hover.state, ?_⟩
      · intro _
        apply Or.inr
        -- it is the connect or the MTU that has failed
        cases hconnect : sockets.connect.failed with
        | true => exact .inl ⟨hnew, hconnect⟩
        | false => exact .inr ⟨hnew, hconnect, fun hmtu => hbad ⟨hconnect, hmtu⟩⟩
      · intro _ _ _
        refine ⟨fun hsuccess => ?_, fun hgood => absurd hgood hbad⟩
        injection hsuccess with hsuccess
        exact absurd hsuccess hr
  · have hstarted : s.state ≠ .new := hnew
    simp only [sctpTransportStart, Routine.run_bind, Routine.run_get, Prog.bind, Routine.run_ite,
      if_pos hstarted, Routine.run_pure, Prog.always_ret]
    exact ⟨hs, fun h => .inl h, fun _ hcause => absurd hcause.1 hnew,
      fun hrefused => absurd hrefused.1 hnew, fun _ _ h => absurd h hnew⟩

/-- Every call. -/
theorem Call.run_always (hs : s.Sound) (a : Call) :
    (a.run.run s).Always sockets.answers (Call.Lives s sockets a) := by
  -- stopping and destroying
  have hover : ∀ {b : Call} {r : Result} {s' : Transport}, (b = .stop ∨ b = .destroy) →
      s'.Over → b.Lives s sockets r s' := by
    intro b r s' hb h
    have hcause : b.IsCause s sockets := by
      rcases hb with rfl | rfl <;> trivial
    refine ⟨h.sound, fun _ => .inr (.inl hcause), fun _ _ => h.state, fun _ => h.state, ?_⟩
    rintro size rfl
    rcases hb with hb | hb <;> cases hb
  by_cases hordinary : (∀ size, a ≠ .start size) ∧ a ≠ .stop ∧ a ≠ .destroy ∧
      ∀ received, a ≠ .readEvent received
  · obtain ⟨hstart, hstop, hdestroy, hread⟩ := hordinary
    apply Prog.Always.mono (Call.run_keeps hstart hstop hdestroy hread s)
    intro r s' h
    have hnone : ¬ a.IsCause s sockets ∧ ¬ a.MtuRefused s sockets := by
      cases a with
      | start size => exact absurd rfl (hstart size)
      | stop => exact absurd rfl hstop
      | destroy => exact absurd rfl hdestroy
      | readEvent received => exact absurd rfl (hread received)
      | _ => exact ⟨id, id⟩
    exact ⟨h.sound hs, fun hclosed => .inl (h.state.symm.trans hclosed),
      fun _ hcause => absurd hcause hnone.1, fun hrefused => absurd hrefused hnone.2,
      fun size hsize => absurd hsize (hstart size)⟩
  · cases a with
    | start size => exact Call.start_always hs size
    | stop =>
      simp only [Call.run, Routine.run_map, Prog.always_bind, Prog.always_ret]
      exact Prog.Always.mono (sctpTransportStop_always hs) fun _ _ h => hover (.inl rfl) h
    | destroy =>
      simp only [Call.run, Routine.run_map, Prog.always_bind, Prog.always_ret]
      exact Prog.Always.mono (sctpTransportDestroy_always hs) fun _ _ h => hover (.inr rfl) h
    | readEvent received =>
      simp only [Call.run, Routine.run_map, Prog.always_bind, Prog.always_ret]
      apply Prog.Always.mono (readEventHandler_always hs received)
      intro r s' h
      obtain ⟨hsound, hcause, hcloses⟩ := h
      refine ⟨hsound, fun hclosed => (hcause hclosed).imp id .inl, hcloses, ?_, ?_⟩
      · intro hrefused
        exact hrefused.elim
      · intro size hsize
        cases hsize
    | _ => exact absurd ⟨by simp, by simp, by simp, by simp⟩ hordinary

end Calls

section Runs

variable [MessageBuffer]

/-- A step is a call with its outcome. -/
theorem LifeStep.lives (x : LifeStep) (hs : x.before.Sound) :
    x.call.Lives x.before x.sockets x.result x.after :=
  Prog.always_iff.mp (Call.run_always hs x.call) _ _ x.turn.2

/-- A step closes the transport for a cause, unless the MTU could not be set. -/
theorem LifeStep.closesForCause_iff (x : LifeStep) (hs : x.before.Sound) :
    x.ClosesForCause ↔ ¬ x.MtuRefused := by
  have h := x.lives hs
  constructor
  · intro hx hrefused
    cases hcall : x.call with
    | start size =>
      have hmtu := hrefused
      unfold LifeStep.MtuRefused at hmtu
      rw [hcall] at hmtu
      obtain ⟨hnew, hconnect, -⟩ := hmtu
      have hcause := hx.cause ⟨by simp [hnew], h.refused hrefused⟩
      rw [hcall] at hcause
      cases hconnect.symm.trans hcause.2
    | _ =>
      unfold LifeStep.MtuRefused at hrefused
      rw [hcall] at hrefused
      exact hrefused
  · intro hgood
    refine ⟨?_, ?_, ?_⟩
    · intro hcloses
      rcases h.cause hcloses.2 with hclosed | hcause | hrefused
      · exact absurd hclosed hcloses.1
      · exact hcause
      · exact absurd hrefused hgood
    · intro hrunning hcause hheard
      exact ⟨hrunning, h.closes hheard hcause⟩
    · intro size hcall hnew
      rw [h.starts size hcall hnew]
      refine ⟨fun hsuccess => hsuccess.1, fun hconnect => ⟨hconnect, ?_⟩⟩
      by_contra hmtu
      apply hgood
      unfold LifeStep.MtuRefused
      rw [hcall]
      exact ⟨hnew, hconnect, hmtu⟩

/-- Every state of a run is sound. -/
theorem Life.sound {s₀ s : Transport} (hs : s₀.Sound) {steps : List LifeStep}
    (h : Life s₀ steps s) : s.Sound ∧ ∀ x ∈ steps, x.before.Sound := by
  induction h with
  | nil => exact ⟨hs, by simp⟩
  | snoc x _ ih =>
    refine ⟨(x.lives ih.1).sound, ?_⟩
    intro y hy
    rcases List.mem_append.mp hy with hy | hy
    · exact ih.2 y hy
    · rw [List.mem_singleton.mp hy]
      exact ih.1

omit [MessageBuffer] in
theorem Transport.create_sound (dataChannelHandler stateChangeHandler destroyedHandler
    traceHandle : Bool) (usrsctpChunkSize : Nat) : (Transport.create dataChannelHandler
      stateChangeHandler destroyedHandler traceHandle usrsctpChunkSize).Sound :=
  ⟨by simp [Transport.create], fun _ => rfl⟩

/-- **The transport closes only for a genuine cause**, in exactly those runs in which the default
    MTU can be set whenever the transport is started. -/
theorem closes_for_cause {dataChannelHandler stateChangeHandler destroyedHandler
    traceHandle : Bool} {usrsctpChunkSize : Nat} {steps : List LifeStep} {s : Transport}
    (h : Life (.create dataChannelHandler stateChangeHandler destroyedHandler traceHandle
      usrsctpChunkSize) steps s) :
    (∀ x ∈ steps, x.ClosesForCause) ↔ ∀ x ∈ steps, ¬ x.MtuRefused := by
  have hsound := (h.sound (Transport.create_sound _ _ _ _ _)).2
  constructor
  · intro hall x hx
    exact (x.closesForCause_iff (hsound x hx)).mp (hall x hx)
  · intro hall x hx
    exact (x.closesForCause_iff (hsound x hx)).mpr (hall x hx)

/-- A step against surroundings that answer by an oracle. -/
def LifeStep.exec {sockets : SocketAnswers} {oracle : (o : Op) → Transport → o.Reply}
    (horacle : ∀ o s, sockets.answers o s (oracle o s)) (s : Transport) (a : Call)
    (hkeeps : KeepsHandle s a) : LifeStep where
  before := s
  call := a
  sockets := sockets
  result := ((a.run.run s).exec oracle).1
  after := ((a.run.run s).exec oracle).2
  turn := ⟨hkeeps, Prog.outcome_exec oracle horacle _⟩

end Runs

/-! ## Section 6: Two starts -/

/-- Surroundings in which everything succeeds, except perhaps that the MTU cannot be set. -/
def mtuOracle (refused : Option Failure) : (o : Op) → Transport → o.Reply
  | .setPeerAddrParams _, _ => refused
  | o, s => obligingOracle o s

/-- What their sockets answer. -/
def mtuSockets (refused : Option Failure) : SocketAnswers :=
  ⟨.inProgress, refused, true⟩

theorem mtuOracle_answers (refused : Option Failure) (o : Op) (s : Transport) :
    (mtuSockets refused).answers o s (mtuOracle refused o s) := by
  cases o with
  | alloc | allocSendContext => exact fun _ => rfl
  | connect | setPeerAddrParams mtu => rfl
  | _ => trivial

/-- A start in such surroundings. -/
abbrev startStep (refused : Option Failure) : @LifeStep listMessageBuffer :=
  @LifeStep.exec listMessageBuffer _ _ (mtuOracle_answers refused)
    (.create false false false false 1200) (.start 0) fun h => by cases h

/-- A start of which everything succeeds does not close the transport. -/
theorem closes_for_cause_start : @LifeStep.ClosesForCause listMessageBuffer (startStep none) := by
  have hrun : @Life listMessageBuffer _ [startStep none] _ :=
    @Life.snoc listMessageBuffer _ [] (startStep none) (@Life.nil listMessageBuffer _)
  apply (@closes_for_cause listMessageBuffer _ _ _ _ _ _ _ hrun).mpr _ _ (List.mem_singleton_self _)
  intro x hx
  rw [List.mem_singleton.mp hx]
  intro hrefused
  exact hrefused.2.2 rfl

/-- **A start closes the transport because the MTU could not be set**, and reports this error. -/
theorem not_closes_for_cause : ¬ ∀ (steps : List (@LifeStep listMessageBuffer)) (s : Transport),
    @Life listMessageBuffer (.create false false false false 1200) steps s →
      ∀ x ∈ steps, @LifeStep.ClosesForCause listMessageBuffer x := by
  intro h
  let unknown : Failure := ⟨.unknownError, by decide⟩
  have hrun : @Life listMessageBuffer _ [startStep (some unknown)] _ :=
    @Life.snoc listMessageBuffer _ [] (startStep (some unknown))
      (@Life.nil listMessageBuffer _)
  have hgood := h _ _ hrun _ (List.mem_singleton_self _)
  have hsound := Transport.create_sound false false false false 1200
  apply (@LifeStep.closesForCause_iff listMessageBuffer (startStep (some unknown)) hsound).mp hgood
  exact ⟨rfl, rfl, by simp [startStep, LifeStep.exec, mtuSockets]⟩

end RawrtcDataChannel
