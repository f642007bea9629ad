import RawrtcDataChannel.Lifecycle.Rules

/-!
# Routines that leave the lifecycle alone

Sending, queueing, building and parsing messages: these routines call system functions only, and
whatever these answer, neither a channel nor the transport makes a step in its life.
-/

namespace RawrtcDataChannel

open Reentrant

variable {L : Limits} {a : Call} {fs : List (Call × Op)} {s₀ s : Transport}

/-! ## Section 1: Allocation and messages -/

section Messages

variable {α : Type} {Q : α → Transport → Prop}

theorem alloc_safe {Q : Bool → Transport → Prop} (h : At L a fs s₀ s) (hQ : ∀ ok, Q ok s) :
    (alloc.run s).Safe (contract L) a fs s₀ Q :=
  safe_system rfl h trivial hQ

theorem dataParametersCreate_safe {Q : Except Code DataChannelParameters → Transport → Prop}
    (h : At L a fs s₀ s) (label : Option Bytes) (channelType : DataChannelType)
    (reliabilityParameter : UInt32) (protocol : Option Bytes) (negotiated : Bool) (id : Nat)
    (hQ : ∀ r, Q r s) :
    ((dataParametersCreate label channelType reliabilityParameter protocol negotiated id).run
      s).Safe (contract L) a fs s₀ Q := by
  simp only [dataParametersCreate, Routine.run_bind, Prog.safe_bind]
  refine alloc_safe h fun ok => ?_
  cases ok <;> exact hQ _

theorem dataChannelOpenMessageCreate_safe {Q : Except Code Mbuf → Transport → Prop}
    (h : At L a fs s₀ s) (parameters : DataChannelParameters) (hQ : ∀ r, Q r s) :
    ((dataChannelOpenMessageCreate parameters).run s).Safe (contract L) a fs s₀ Q := by
  simp only [dataChannelOpenMessageCreate, Routine.run_ite]
  split
  · exact hQ _
  · simp only [Routine.run_bind, Prog.safe_bind]
    refine alloc_safe h fun ok => ?_
    cases ok <;> exact hQ _

theorem dataChannelAckMessageCreate_safe {Q : Except Code Mbuf → Transport → Prop}
    (h : At L a fs s₀ s) (hQ : ∀ r, Q r s) :
    (dataChannelAckMessageCreate.run s).Safe (contract L) a fs s₀ Q := by
  simp only [dataChannelAckMessageCreate, Routine.run_bind, Prog.safe_bind]
  refine alloc_safe h fun ok => ?_
  cases ok <;> exact hQ _

theorem mbufStrdup_safe {Q : Except Code (Option Bytes × Mbuf) → Transport → Prop}
    (h : At L a fs s₀ s) (buffer : Mbuf) (length : Nat) (hQ : ∀ r, Q r s) :
    ((mbufStrdup buffer length).run s).Safe (contract L) a fs s₀ Q := by
  simp only [mbufStrdup, Routine.run_ite]
  split
  · simp only [Routine.run_bind, Prog.safe_bind]
    refine alloc_safe h fun ok => ?_
    cases ok <;> exact hQ _
  · exact hQ _

theorem dataChannelOpenMessageParse_safe
    {Q : Except Code (DataChannelParameters × Nat) → Transport → Prop} (h : At L a fs s₀ s)
    (id : Nat) (buffer : Mbuf) (hQ : ∀ r, Q r s) :
    ((dataChannelOpenMessageParse id buffer).run s).Safe (contract L) a fs s₀ Q := by
  simp only [dataChannelOpenMessageParse, Routine.run_ite]
  split
  · exact hQ _
  · split
    · exact hQ _
    · simp only [Routine.run_ite]
      split
      · exact hQ _
      · simp only [Routine.run_bind, Prog.safe_bind]
        refine mbufStrdup_safe h _ _ fun label => ?_
        cases label with
        | error error => exact hQ _
        | ok label =>
          simp only [Routine.run_ite]
          split
          · exact hQ _
          · simp only [Routine.run_bind, Prog.safe_bind]
            refine mbufStrdup_safe h _ _ fun protocol => ?_
            cases protocol with
            | error error => exact hQ _
            | ok protocol =>
              simp only [Routine.run_bind, Prog.safe_bind]
              refine dataParametersCreate_safe h _ _ _ _ _ _ fun parameters => ?_
              cases parameters <;> exact hQ _

theorem channelContextCreate_safe {Q : Except Code Context → Transport → Prop}
    (h : At L a fs s₀ s) (sid : Nat) (canSendUnordered : Bool)
    (hok : Q (.ok { sid, flags := { canSendUnordered } }) s) (herror : Q (.error .noMemory) s) :
    ((channelContextCreate sid canSendUnordered).run s).Safe (contract L) a fs s₀ Q := by
  simp only [channelContextCreate, Routine.run_bind, Prog.safe_bind]
  refine alloc_safe h fun ok => ?_
  cases ok
  · exact herror
  · exact hok

theorem sctpTransportGetDataTransport_safe {Q : Code → Transport → Prop} (h : At L a fs s₀ s)
    (hQ : ∀ r, Q r s) :
    (sctpTransportGetDataTransport.run s).Safe (contract L) a fs s₀ Q := by
  simp only [sctpTransportGetDataTransport, Routine.run_bind, Routine.run_get, Prog.bind,
    Routine.run_ite]
  split
  · exact hQ _
  · simp only [Prog.safe_bind]
    refine alloc_safe h fun ok => ?_
    cases ok <;> exact hQ _

theorem bufferMessageReceivedRaiseComplete_safe {Q : Code × Option Mbuf × RcvInfo → Transport → Prop}
    (h : At L a fs s₀ s) (bufferInbound : Option Mbuf) (infoInbound : RcvInfo)
    (messageBuffer : Mbuf) (info : RcvInfo) (eor : Bool)
    (hQ : ∀ r, r.2.2 = infoInbound ∨ r.2.2 = info → Q r s) :
    ((bufferMessageReceivedRaiseComplete bufferInbound infoInbound messageBuffer info eor).run
      s).Safe (contract L) a fs s₀ Q := by
  simp only [bufferMessageReceivedRaiseComplete]
  cases bufferInbound with
  | none =>
    simp only [Routine.run_ite]
    split
    · exact hQ _ (.inr rfl)
    · exact hQ _ (.inr rfl)
  | some buffer =>
    simp only [Routine.run_bind, Prog.safe_bind]
    refine alloc_safe h fun ok => ?_
    simp only [Routine.run_ite]
    split
    · split <;> exact hQ _ (.inl rfl)
    · exact hQ _ (.inl rfl)

end Messages

/-! ## Section 2: Handing messages to usrsctp -/

section Send

/-- Between `s` and `s'` messages were handed to usrsctp. -/
structure Sent (s s' : Transport) : Prop where
  quiet : Quiet s.view s'.view
  queue : s'.bufferedMessagesOutgoing = s.bufferedMessagesOutgoing
  low : s'.flags.bufferedAmountLow = s.flags.bufferedAmountLow

theorem Sent.refl (s : Transport) : Sent s s := ⟨Quiet.refl _, rfl, rfl⟩

theorem Sent.trans {s s' s'' : Transport} (h : Sent s s') (h' : Sent s' s'') : Sent s s'' :=
  ⟨h.quiet.trans h'.quiet, h'.queue.trans h.queue, h'.low.trans h.low⟩

theorem sctpTransportSendLoop_safe {Q : Code × Mbuf × SendInfo → Transport → Prop} (eorSet : Bool)
    (flags fuel : Nat) (buffer : Mbuf) (info : SendInfo) (h : At L a fs s₀ s)
    (hQ : ∀ r s', Sent s s' → Q r s') :
    ((sctpTransportSendLoop eorSet flags fuel buffer info).run s).Safe (contract L) a fs s₀ Q := by
  induction fuel generalizing buffer info s with
  | zero => exact hQ _ s (.refl s)
  | succ fuel ih =>
    simp only [sctpTransportSendLoop, Routine.run_bind, Routine.run_get, Prog.bind,
      run_usrsctpSendv]
    refine safe_system rfl h trivial fun r => ?_
    generalize hs' : s.log _ = s'
    have hsent : Sent s s' := hs' ▸ ⟨Quiet.log s.view trivial, rfl, rfl⟩
    cases r with
    | error error => exact hQ _ s' hsent
    | ok written =>
      simp only [Routine.run_ite]
      split
      · exact hQ _ s' hsent
      · split
        · exact ih _ _ (h.quiet hsent.quiet) fun r s'' hsent' => hQ r s'' (hsent.trans hsent')
        · exact hQ _ s' hsent

theorem sctpTransportSend_safe {Q : Code × Mbuf × SendInfo → Transport → Prop}
    (h : At L a fs s₀ s) (buffer : Mbuf) (info : SendInfo) (flags : Nat)
    (hQ : ∀ r s', Sent s s' → Q r s') :
    ((sctpTransportSend buffer info flags).run s).Safe (contract L) a fs s₀ Q := by
  simp only [sctpTransportSend, Routine.run_bind, Routine.run_get, Prog.bind, Routine.run_ite]
  split
  · exact hQ _ s (.refl s)
  · split
    · exact hQ _ s (.refl s)
    · simp only [Routine.run_bind, Prog.safe_bind]
      exact sctpTransportSendLoop_safe _ _ _ _ _ h fun r s' hsent => hQ _ s' hsent

theorem sctpSendDeferredMessage_safe {Q : BufferedMessage × Bool → Transport → Prop}
    (h : At L a fs s₀ s) (message : BufferedMessage) (hQ : ∀ r s', Sent s s' → Q r s') :
    ((sctpSendDeferredMessage message).run s).Safe (contract L) a fs s₀ Q := by
  simp only [sctpSendDeferredMessage]
  split
  · exact hQ _ s (.refl s)
  · simp only [Routine.run_bind, Prog.safe_bind]
    exact sctpTransportSend_safe h _ _ _ fun r s' hsent => hQ _ s' hsent

theorem messageSendContextCreate_safe {Q : Except Code SendContext → Transport → Prop}
    (h : At L a fs s₀ s) (info : SendInfo) (flags : Nat) (hQ : ∀ r, Q r s) :
    ((messageSendContextCreate info flags).run s).Safe (contract L) a fs s₀ Q := by
  simp only [messageSendContextCreate, Routine.run_bind, run_allocSendContext, Prog.bind]
  refine safe_system rfl h trivial fun ok => ?_
  cases ok
  · exact hQ _
  · cases info <;> exact hQ _

variable [MessageBuffer]

/-- Clearing the queue leaves what could not be sent. -/
theorem clear_safe {Q : Code × List BufferedMessage → Transport → Prop}
    (queue : List BufferedMessage) (h : At L a fs s₀ s)
    (hQ : ∀ r s', Sent s s' → (queue = [] → r.2 = []) → Q r s') :
    ((MessageBuffer.clear sctpSendDeferredMessage queue).run s).Safe (contract L) a fs s₀ Q := by
  induction queue generalizing s with
  | nil =>
    rw [MessageBuffer.clear_nil]
    exact hQ _ s (.refl s) fun _ => rfl
  | cons message queue ih =>
    rw [MessageBuffer.clear_cons]
    simp only [Routine.run_bind, Prog.safe_bind]
    refine sctpSendDeferredMessage_safe h message fun r s' hsent => ?_
    simp only [Routine.run_ite]
    split
    · exact ih (h.quiet hsent.quiet) fun r s'' hsent' _ =>
        hQ r s'' (hsent.trans hsent') (by simp)
    · exact hQ _ s' hsent (by simp)

theorem sctpSendDeferredMessages_safe {Q : Code → Transport → Prop} (h : At L a fs s₀ s)
    (hQ : ∀ r s', Quiet s.view s'.view → Q r s') :
    (sctpSendDeferredMessages.run s).Safe (contract L) a fs s₀ Q := by
  simp only [sctpSendDeferredMessages, Routine.run_bind, Routine.run_get, Prog.bind,
    Prog.safe_bind]
  refine clear_safe _ h fun r s' hsent hnil => ?_
  refine hQ _ _ { hsent.quiet with low := fun hl hlow => ?_ }
  -- if the buffered amount is low, nothing was waiting and nothing is left
  have hidle : s'.view.idle = true := hsent.quiet.low hl hlow
  simp only [Transport.view, List.isEmpty_iff] at hidle ⊢
  exact hnil (hsent.queue ▸ hidle)

theorem bufferMessage_safe {Q : Code → Transport → Prop} (h : At L a fs s₀ s) (buffer : Mbuf)
    (info : SendInfo) (flags : Nat) (hlow : s.flags.bufferedAmountLow = false)
    (hQ : ∀ r s', Quiet s.view s'.view → Q r s') :
    ((bufferMessage buffer info flags).run s).Safe (contract L) a fs s₀ Q := by
  simp only [bufferMessage, Routine.run_bind, Prog.safe_bind]
  refine messageSendContextCreate_safe h info flags fun context => ?_
  cases context with
  | error error =>
    exact hQ _ _ (Quiet.log s.view trivial)
  | ok context =>
    simp only [Routine.run_bind, Prog.safe_bind]
    refine alloc_safe h fun ok => ?_
    cases ok
    · exact hQ _ s (Quiet.refl _)
    · refine hQ _ _ { Quiet.refl s.view with low := fun _ hlow' => ?_ }
      simp [Transport.view, hlow] at hlow'

theorem sctpSend_safe {Q : Code → Transport → Prop} (h : At L a fs s₀ s) (buffer : Mbuf)
    (info : SendInfo) (flags : Nat) (hQ : ∀ r s', Quiet s.view s'.view → Q r s') :
    ((sctpSend buffer info flags).run s).Safe (contract L) a fs s₀ Q := by
  simp only [sctpSend, Routine.run_bind, Routine.run_modify, Routine.run_get, Prog.bind]
  have hq : Quiet s.view
      ({ s with flags := { s.flags with bufferedAmountLow := false } } : Transport).view :=
    { Quiet.refl s.view with low := fun _ hlow => by cases hlow }
  simp only [Routine.run_ite]
  split
  · simp only [Routine.run_bind, Prog.safe_bind]
    refine sctpTransportSend_safe (h.quiet hq) buffer info flags fun r s' hsent => ?_
    have hq' := hq.trans hsent.quiet
    split
    · exact hQ _ s' hq'
    · exact bufferMessage_safe (h.quiet hq') _ _ _ hsent.low fun r s'' hq'' =>
        hQ r s'' (hq'.trans hq'')
    · exact hQ _ s' hq'
  · exact bufferMessage_safe (h.quiet hq) _ _ _ rfl fun r s' hq' => hQ r s' (hq.trans hq')

theorem sendMessage_safe {Q : Code → Transport → Prop} (h : At L a fs s₀ s)
    (channel : Option ChannelId) (context : Context) (buffer : Mbuf) (ppid : Nat)
    (hQ : ∀ r s', Quiet s.view s'.view → Q r s') :
    ((sendMessage channel context buffer ppid).run s).Safe (contract L) a fs s₀ Q := by
  have hlog : ∀ spa message, Quiet s.view (s.log (.sendMessage spa message)).view :=
    fun spa message => Quiet.log s.view trivial
  simp only [sendMessage, Routine.run_bind, Routine.run_get, Prog.bind, Routine.run_ite]
  split
  · exact sctpSend_safe (h.quiet (hlog _ _)) _ _ _ fun r s' hq => hQ r s' ((hlog _ _).trans hq)
  · cases channel with
    | none => exact hQ _ s (Quiet.refl _)
    | some c =>
      exact sctpSend_safe (h.quiet (hlog _ _)) _ _ _ fun r s' hq => hQ r s' ((hlog _ _).trans hq)

end Send

end RawrtcDataChannel
