import RawrtcDataChannel.Reentrant.Uninterrupted
import RawrtcDataChannel.Transfer.Outgoing
import RawrtcDataChannel.Api

/-!
# What sending leaves alone

Handing messages to SCTP changes the queue and the flag for the buffered amount, and usrsctp is
called. Nothing else changes, however usrsctp answers.
-/

namespace RawrtcDataChannel

open Reentrant

variable {answers : (o : Op) → Transport → o.Reply → Prop}

/-! ## Section 1: States that differ by sending -/

/-- The event is a call of `usrsctp_sendv`. -/
def Event.isSendv : Event → Bool
  | .sendv _ _ _ _ => true
  | _ => false

/-- The event is one that sending a message may give rise to. -/
def Event.isOfSending : Event → Bool
  | .sendv _ _ _ _ | .derefUnset => true
  | _ => false

/-- The transport with another queue, after some more events. -/
def Transport.afterSends (s : Transport) (bufferedAmountLow : Bool) (queue : List BufferedMessage)
    (es : List Event) : Transport :=
  { s with
    flags := { s.flags with bufferedAmountLow }
    bufferedMessagesOutgoing := queue
    history := s.history ++ es }

/-- Messages have been sent or queued, nothing else has happened. The buffered amount is not low
    if it was not before. -/
def SendsOnly (s s' : Transport) : Prop :=
  ∃ low queue es, s' = s.afterSends low queue es ∧ (∀ e ∈ es, e.isOfSending = true) ∧
    (low = true → s.flags.bufferedAmountLow = true)

theorem SendsOnly.setQueue (s : Transport) (queue : List BufferedMessage) :
    SendsOnly s { s with bufferedMessagesOutgoing := queue } :=
  ⟨s.flags.bufferedAmountLow, queue, [], by simp [Transport.afterSends], by simp, id⟩

theorem SendsOnly.clearFlag (s : Transport) :
    SendsOnly s { s with flags := { s.flags with bufferedAmountLow := false } } :=
  ⟨false, s.bufferedMessagesOutgoing, [], by simp [Transport.afterSends], by simp,
    fun h => absurd h Bool.false_ne_true⟩

theorem SendsOnly.log (s : Transport) {e : Event} (he : e.isOfSending = true) :
    SendsOnly s (s.log e) :=
  ⟨s.flags.bufferedAmountLow, s.bufferedMessagesOutgoing, [e], rfl, by simpa using he, id⟩

instance : IsPreorder Transport SendsOnly where
  refl s := by
    refine ⟨s.flags.bufferedAmountLow, s.bufferedMessagesOutgoing, [], ?_, by simp, id⟩
    simp [Transport.afterSends]
  trans s s' s'' h h' := by
    obtain ⟨low, queue, es, rfl, hes, hlow⟩ := h
    obtain ⟨low', queue', es', rfl, hes', hlow'⟩ := h'
    refine ⟨low', queue', es ++ es', by simp [Transport.afterSends], ?_, hlow ∘ hlow'⟩
    intro e he
    rcases List.mem_append.mp he with he | he
    · exact hes e he
    · exact hes' e he

/-- Sending does not set the flag for the buffered amount. -/
theorem SendsOnly.low {s s' : Transport} (h : SendsOnly s s')
    (hlow : s.flags.bufferedAmountLow = false) : s'.flags.bufferedAmountLow = false := by
  obtain ⟨low, queue, es, rfl, -, hset⟩ := h
  by_contra hne
  have hlow' : low = true := by simpa [Transport.afterSends] using hne
  rw [hset hlow'] at hlow
  cases hlow

/-! ## Section 2: The routines that send -/

/-- The operation calls a function outside of the application, which does not use the library. -/
def Op.IsSystem (o : Op) : Prop :=
  o.isHandler = false

theorem usrsctpSendv_within (buffer : Bytes) (info : SendInfo) (flags : Nat) :
    (usrsctpSendv buffer info flags).Within Op.IsSystem SendsOnly := by
  intro s
  refine ⟨rfl, ?_⟩
  intro written
  exact .log s rfl

theorem sctpTransportSendLoop_within (eorSet : Bool) (flags fuel : Nat) (buffer : Mbuf)
    (info : SendInfo) :
    (sctpTransportSendLoop eorSet flags fuel buffer info).Within Op.IsSystem SendsOnly := by
  induction fuel generalizing buffer info with
  | zero => exact Routine.within_pure _
  | succ fuel ih =>
    unfold sctpTransportSendLoop
    apply Routine.within_get.bind
    intro t
    apply (usrsctpSendv_within _ _ _).bind
    intro written
    cases written with
    | error error => exact Routine.within_pure _
    | ok written =>
      apply Routine.Within.ite (Routine.within_pure _)
      exact Routine.Within.ite (ih _ _) (Routine.within_pure _)

theorem sctpTransportSend_within (buffer : Mbuf) (info : SendInfo) (flags : Nat) :
    (sctpTransportSend buffer info flags).Within Op.IsSystem SendsOnly := by
  unfold sctpTransportSend
  apply Routine.within_get.bind
  intro t
  apply Routine.Within.ite (Routine.within_pure _)
  cases info.sndInfo? with
  | none => exact Routine.within_pure _
  | some sendInfo =>
    apply (sctpTransportSendLoop_within _ _ _ _ _).bind
    intro r
    exact Routine.within_pure _

theorem sctpSendDeferredMessage_within (message : BufferedMessage) :
    (sctpSendDeferredMessage message).Within Op.IsSystem SendsOnly := by
  unfold sctpSendDeferredMessage
  cases message.context.info.sndInfo? with
  | none => exact Routine.within_pure _
  | some _ =>
    apply (sctpTransportSend_within _ _ _).bind
    intro r
    exact Routine.within_pure _

/-- A system function leaves the transport alone. -/
theorem system_within {R : Transport → Transport → Prop} [IsPreorder Transport R] {o : Op}
    (ho : o.IsSystem) : (Routine.perform o : M o.Reply).Within Op.IsSystem R :=
  Routine.within_perform ho

theorem alloc_within {R : Transport → Transport → Prop} [IsPreorder Transport R] :
    alloc.Within Op.IsSystem R :=
  system_within rfl

theorem allocSendContext_within {R : Transport → Transport → Prop} [IsPreorder Transport R] :
    allocSendContext.Within Op.IsSystem R :=
  system_within rfl

theorem messageSendContextCreate_within (info : SendInfo) (flags : Nat) :
    (messageSendContextCreate info flags).Within Op.IsSystem SendsOnly := by
  apply allocSendContext_within.bind
  intro ok
  apply Routine.Within.ite
  · cases info <;> exact Routine.within_pure _
  · exact Routine.within_pure _

section Queue

variable [MessageBuffer]

theorem clear_within (queue : List BufferedMessage) :
    (MessageBuffer.clear sctpSendDeferredMessage queue).Within Op.IsSystem SendsOnly := by
  induction queue with
  | nil =>
    rw [MessageBuffer.clear_nil]
    exact Routine.within_pure _
  | cons message queue ih =>
    rw [MessageBuffer.clear_cons]
    apply (sctpSendDeferredMessage_within message).bind
    intro r
    exact Routine.Within.ite ih (Routine.within_pure _)

theorem sctpSendDeferredMessages_within : sctpSendDeferredMessages.Within Op.IsSystem SendsOnly := by
  apply Routine.within_get.bind
  intro t
  apply (clear_within _).bind
  intro r
  apply Routine.Within.bind
  · apply Routine.within_modify
    intro s
    exact .setQueue s r.2
  · intro _
    exact Routine.within_pure _

theorem sctpSendDeferredMessages_keeps : sctpSendDeferredMessages.Keeps answers SendsOnly :=
  sctpSendDeferredMessages_within.keeps

theorem bufferMessage_within (buffer : Mbuf) (info : SendInfo) (flags : Nat) :
    (bufferMessage buffer info flags).Within Op.IsSystem SendsOnly := by
  apply (messageSendContextCreate_within info flags).bind
  intro r
  cases r with
  | error error =>
    exact (Routine.within_modify fun s => SendsOnly.log s rfl).bind fun _ => Routine.within_pure _
  | ok context =>
    apply alloc_within.bind
    intro ok
    apply Routine.Within.ite
    · apply Routine.Within.bind
      · apply Routine.within_modify
        intro s
        exact .setQueue s _
      · intro _
        exact Routine.within_pure _
    · exact Routine.within_pure _

/-- `sctp_send`. -/
theorem sctpSend_within (buffer : Mbuf) (info : SendInfo) (flags : Nat) :
    (sctpSend buffer info flags).Within Op.IsSystem SendsOnly := by
  unfold sctpSend
  apply Routine.Within.bind
  · apply Routine.within_modify
    intro s
    exact .clearFlag s
  · intro _
    apply Routine.within_get.bind
    intro t
    apply Routine.Within.ite
    · apply (sctpTransportSend_within _ _ _).bind
      intro r
      obtain ⟨error, buffer', info'⟩ := r
      cases error with
      | tryAgainLater => exact bufferMessage_within _ _ _
      | _ => exact Routine.within_pure _
    · exact bufferMessage_within _ _ _

/-- `sctp_send` clears the flag for the buffered amount, whether it succeeds or not. -/
theorem sctpSend_clears (buffer : Mbuf) (info : SendInfo) (flags : Nat) (s : Transport) :
    ((sctpSend buffer info flags).run s).Always answers fun _ s' =>
      s'.flags.bufferedAmountLow = false := by
  have hbuffer : ∀ buffer info t, t.flags.bufferedAmountLow = false →
      ((bufferMessage buffer info flags).run t).Always answers fun _ s' =>
        s'.flags.bufferedAmountLow = false := by
    intro buffer info t hlow
    exact Prog.Always.mono (bufferMessage_within buffer info flags t).always fun _ _ h => h.low hlow
  simp only [sctpSend, Routine.run_bind, Routine.run_modify, Routine.run_get, Prog.bind,
    Routine.run_ite]
  split
  · rw [Prog.always_bind]
    apply Prog.Always.mono (sctpTransportSend_within _ _ _ _).always
    intro r s' h
    obtain ⟨error, buffer', info'⟩ := r
    have hlow := h.low rfl
    cases error with
    | tryAgainLater => exact hbuffer _ _ _ hlow
    | _ => exact hlow
  · exact hbuffer _ _ _ rfl

/-! ## Section 3: What is handed over -/

/-- What `sctp_send` does with a message: some of it is handed over if no other message waits, and
    if it succeeds the rest of the message is queued. The queue is as it was if it fails. -/
def HandsOver (m : OutMessage) (s : Transport) (r : Code) (s' : Transport) : Prop :=
  ∃ queue es offset, s' = s.afterSends false queue es ∧
    Chunks s.usrsctpChunkSize m 0 es offset ∧
    (es = [] ∨ s.state = .connected ∧ s.bufferedMessagesOutgoing = []) ∧
    (r = .success ∧ offset = m.bytes.length ∧ queue = s.bufferedMessagesOutgoing ∨
      offset < m.bytes.length ∧
        (r = .success ∧ (∃ buffer : Mbuf, buffer.rest = m.bytes.drop offset ∧
          queue = s.bufferedMessagesOutgoing ++ [⟨buffer, m.context⟩]) ∨
        r ≠ .success ∧ queue = s.bufferedMessagesOutgoing))

/-- `sctp_send`, however usrsctp refuses, if there is memory for every send context. -/
theorem sctpSend_hands {refusal : Code → Prop} (hanswers : RefusesWith refusal answers)
    (hfull : refusal .tryAgainLater) (hcontexts : AmpleContexts answers) (m : OutMessage)
    (s : Transport) :
    ((sctpSend m.buffer m.info m.flags).run s).Always answers (HandsOver m s) := by
  let t : Transport := { s with flags := { s.flags with bufferedAmountLow := false } }
  -- the message, or the rest of it, is queued
  have hbuffer : ∀ (buffer : Mbuf) es offset, Chunks s.usrsctpChunkSize m 0 es offset →
      (es = [] ∨ s.state = .connected ∧ s.bufferedMessagesOutgoing = []) →
      buffer.rest = m.bytes.drop offset → offset < m.bytes.length →
      ((bufferMessage buffer m.info m.flags).run (t.logAll es)).Always answers
        (HandsOver m s) := by
    intro buffer es offset hchunks hdirect hrest hmore
    apply Prog.Always.mono (bufferMessage_always hcontexts m buffer (t.logAll es))
    intro r s' h
    rcases h with ⟨rfl, rfl⟩ | ⟨hr, rfl, -⟩
    · exact ⟨_, es, offset, rfl, hchunks, hdirect, .inr ⟨hmore, .inl ⟨rfl, buffer, hrest, rfl⟩⟩⟩
    · exact ⟨_, es, offset, rfl, hchunks, hdirect, .inr ⟨hmore, .inr ⟨hr, rfl⟩⟩⟩
  unfold sctpSend
  simp only [Routine.run_bind, Routine.run_modify, Routine.run_get, Prog.bind, Routine.run_ite]
  split
  · next hdirect =>
    rw [Prog.always_bind]
    apply Prog.Always.mono (sctpTransportSend_hands hanswers hfull m m.buffer t 0 hdirect.1 rfl
      m.length_pos)
    intro r s' h
    obtain ⟨code, buffer, info⟩ := r
    obtain ⟨es, offset, rfl, hchunks, hrest, rfl, ⟨rfl, hend⟩ | ⟨⟨hcode, -⟩, hmore⟩⟩ := h
    · exact ⟨_, es, offset, rfl, hchunks, .inr hdirect, .inl ⟨rfl, hend, rfl⟩⟩
    · cases code with
      | success => exact absurd rfl hcode
      | tryAgainLater => exact hbuffer buffer es offset hchunks (.inr hdirect) hrest hmore
      | _ =>
        exact ⟨_, es, offset, rfl, hchunks, .inr hdirect, .inr ⟨hmore, .inr ⟨hcode, rfl⟩⟩⟩
  · -- nothing is handed over, the message has to wait
    have hqueue := hbuffer m.buffer [] 0 (.nil 0) (.inl rfl) rfl m.length_pos
    rw [Transport.logAll_nil] at hqueue
    exact hqueue

/-! ## Section 4: Sends that are accepted or deferred -/

/-- Where there is memory and usrsctp accepts messages or would block, `sctp_send` succeeds. -/
theorem sctpSend_success (hmemory : AmpleMemory answers) (hcontexts : AmpleContexts answers)
    (haccepts : AcceptsAll answers) (m : OutMessage) (s : Transport) :
    ((sctpSend m.buffer m.info m.flags).run s).Always answers fun r _ => r = .success := by
  have hbuffer : ∀ buffer s, ((bufferMessage buffer m.info m.flags).run s).Always answers
      fun r _ => r = .success := by
    intro buffer s
    apply Prog.Always.mono (bufferMessage_always hcontexts m buffer s)
    intro r s' h
    rcases h with ⟨hr, -⟩ | ⟨-, -, hfalse⟩
    · exact hr
    · cases hmemory _ _ hfalse
  unfold sctpSend
  simp only [Routine.run_bind, Routine.run_modify, Routine.run_get, Prog.bind, Routine.run_ite]
  split
  · next hdirect =>
    let t : Transport := { s with flags := { s.flags with bufferedAmountLow := false } }
    rw [Prog.always_bind]
    apply Prog.Always.mono (sctpTransportSend_always haccepts m m.buffer t 0 hdirect.1 rfl
      m.length_pos)
    intro r s' h
    obtain ⟨code, buffer, info⟩ := r
    obtain ⟨es, offset', -, -, -, rfl, ⟨rfl, -⟩ | ⟨rfl, -⟩⟩ := h
    · rfl
    · exact hbuffer buffer s'
  · exact hbuffer m.buffer _

end Queue

end RawrtcDataChannel
