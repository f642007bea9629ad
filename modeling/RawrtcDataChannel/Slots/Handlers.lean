import RawrtcDataChannel.Slots.Channels

/-!
# The handlers and the slots

What is received is handled in order, whatever it is. A stream id that is not checked by the
handler has to be one of a slot for the handler to stay within bounds.
-/

namespace RawrtcDataChannel

open Reentrant

/-! ## Section 1: Messages -/

/-- The message that is complete with a chunk, and the receive info that belongs to it. -/
def completeMessage (bufferInbound : Option Mbuf) (infoInbound : RcvInfo) (chunk : Mbuf)
    (info : RcvInfo) : Mbuf × RcvInfo :=
  match bufferInbound with
  | none => (chunk, info)
  | some buffer => ((buffer.writeMem chunk.rest).setPos 0, infoInbound)

/-- The transport while the message of the establishment protocol is handled that is complete with
    a chunk. -/
def Transport.handling (t : Transport) (chunk : Mbuf) (info : RcvInfo) : Transport :=
  let (message, info) := completeMessage t.bufferDcepInbound t.infoDcepInbound chunk info
  ((t.keepDcep (some message) info).log (.dcepMessage info.rcvSid message.rest)).setDcepBuffer
    (some message.readU8.2)

/-- The slot with this stream id is used for a message when this chunk has arrived. Of the messages
    of the establishment protocol only two types use one, and for the OPEN message the other side
    must have been allowed to choose the stream id. -/
def Transport.UsesSlot (t : Transport) (answers : Answers) (chunk : Mbuf) (info : RcvInfo)
    (eor : Bool) (sid : Nat) : Prop :=
  if info.rcvPpid = ppidDcep then
    let (message, info') := completeMessage t.bufferDcepInbound t.infoDcepInbound chunk info
    let messageType := message.readU8.1
    eor = true ∧ sid = info'.rcvSid ∧ (messageType = dcepMessageTypeAck ∨
      messageType = dcepMessageTypeOpen ∧ (t.handling chunk info).PeersSid answers sid)
  else
    sid = info.rcvSid

namespace Noting

section Messages

variable {answers : Answers} {s₀ s : Transport} {cond : Prop} {a : Call} {fs : List (Call × Op)}
  {c : ChannelId}

theorem handleApplicationMessage_runs (hs : Tracked s₀ s) (buffer : Mbuf) {info : RcvInfo}
    (eor : Bool) (hsid : cond → info.rcvSid < s.nChannels) :
    Runs answers s₀ cond a fs s (handleApplicationMessage buffer info eor) (Goes s₀ s) := by
  apply runs_note_bind (.slot info.rcvSid) hsid
  exact (handleApplicationMessage_orderly buffer info eor).runs hs

theorem handleDataChannelAckMessage_runs (hs : Tracked s₀ s) {info : RcvInfo}
    (hsid : cond → info.rcvSid < s.nChannels) :
    Runs answers s₀ cond a fs s (handleDataChannelAckMessage info) (Goes s₀ s) := by
  apply runs_note_bind (.slot info.rcvSid) hsid
  exact (handleDataChannelAckMessage_orderly info).runs hs

theorem bufferMessageReceivedRaiseComplete_completes (bufferInbound : Option Mbuf)
    (infoInbound : RcvInfo) (chunk : Mbuf) (info : RcvInfo) (eor : Bool) (s : Transport) :
    ((bufferMessageReceivedRaiseComplete bufferInbound infoInbound chunk info eor).run s).Within
      Op.IsSystem fun r s' => s' = s ∧ ∀ message, r.1 = .success → r.2.1 = some message →
        eor = true ∧ (message, r.2.2) = completeMessage bufferInbound infoInbound chunk info := by
  unfold bufferMessageReceivedRaiseComplete
  cases bufferInbound with
  | none =>
    simp only [Routine.run_ite, completeMessage]
    split
    · next hcomplete =>
      refine ⟨rfl, ?_⟩
      rintro message - ⟨⟩
      simp only [Bool.and_eq_true] at hcomplete
      exact ⟨hcomplete.1.1, rfl⟩
    · exact ⟨rfl, fun _ h => by cases h⟩
  | some buffer =>
    simp only [Routine.run_bind, run_alloc, Prog.bind, completeMessage]
    refine ⟨rfl, ?_⟩
    intro ok
    cases ok with
    | false => exact ⟨rfl, fun _ h => by cases h⟩
    | true =>
      simp only [if_true, Routine.run_ite]
      split
      · next hcomplete =>
        refine ⟨rfl, ?_⟩
        rintro message - ⟨⟩
        simp only [Bool.and_eq_true] at hcomplete
        exact ⟨hcomplete.1.1, rfl⟩
      · exact ⟨rfl, fun _ h => by cases h⟩

variable [MessageBuffer]

theorem handleDcepMessage_runs (hs : Tracked s₀ s) (buffer : Mbuf) {info : RcvInfo} {eor : Bool}
    (hppid : info.rcvPpid = ppidDcep)
    (hsid : cond → ∀ sid, s.UsesSlot answers buffer info eor sid → sid < s.nChannels) :
    Runs answers s₀ cond a fs s (handleDcepMessage buffer info eor) (Goes s₀ s) := by
  have hkeep : ∀ message info', Steady s (s.keepDcep message info') :=
    fun _ _ => .of_eq rfl rfl rfl rfl
  have hstore : ∀ s₁ : Transport, ∀ message, Steady s₁ (s₁.setDcepBuffer message) :=
    fun _ _ => .of_eq rfl rfl rfl rfl
  apply runs_get_bind
  apply (Within.runs (bufferMessageReceivedRaiseComplete_completes _ _ buffer info eor s)).bind
  rintro r s' ⟨rfl, hcomplete⟩
  obtain ⟨error, bufferInbound, infoInbound⟩ := r
  apply runs_modify_bind
  have hs₁ := hs.steady (hkeep bufferInbound infoInbound)
  have hf₁ := (hkeep bufferInbound infoInbound).follows
  split
  · exact runs_pure ⟨hs₁, hf₁⟩
  · next message =>
    obtain ⟨heor, hmessage⟩ := hcomplete message rfl rfl
    apply runs_logEvent_bind
    apply runs_modify_bind
    let t : Transport := ((s'.keepDcep (some message) infoInbound).log (.dcepMessage
      infoInbound.rcvSid message.rest)).setDcepBuffer (some message.readU8.2)
    have hstate : t = s'.handling buffer info := by
      rw [Transport.handling, ← hmessage]
    have hsteady : Steady s' t := .of_eq rfl rfl rfl rfl
    have ht : Tracked s₀ t := hs.steady hsteady
    -- the slot is the one with the stream id of the whole message
    have huses : cond → (message.readU8.1 = dcepMessageTypeAck ∨
        message.readU8.1 = dcepMessageTypeOpen ∧ t.PeersSid answers infoInbound.rcvSid) →
        infoInbound.rcvSid < t.nChannels := by
      intro hcond htype
      apply hsid hcond
      rw [Transport.UsesSlot, if_pos hppid, ← hmessage, ← hstate]
      exact ⟨heor, rfl, htype⟩
    refine Runs.after ?_ hsteady.follows
    apply Runs.ite
    · intro hack
      apply (handleDataChannelAckMessage_runs ht fun hcond => huses hcond (.inl hack)).seq
      exact fun _ s₁ hs₁ _ => runs_modify hs₁ (hstore _ _)
    · intro _
      apply Runs.ite
      · intro hopen
        apply (handleDataChannelOpenMessage_runs ht _ fun hcond hpeers =>
          huses hcond (.inr ⟨hopen, hpeers⟩)).seq
        exact fun _ s₁ hs₁ _ => runs_modify hs₁ (hstore _ _)
      · exact fun _ => runs_modify ht (hstore _ _)
  · exact (runs_modify hs₁ (hstore _ _)).after hf₁

theorem dataReceiveHandler_runs (hs : Tracked s₀ s) (buffer : Mbuf) {info : RcvInfo} {eor : Bool}
    (hsid : cond → ∀ sid, s.UsesSlot answers buffer info eor sid → sid < s.nChannels) :
    Runs answers s₀ cond a fs s (dataReceiveHandler buffer info eor) (Goes s₀ s) := by
  apply Runs.ite
  · exact fun hppid => handleDcepMessage_runs hs buffer hppid hsid
  · intro hppid
    apply handleApplicationMessage_runs hs buffer eor
    intro hcond
    apply hsid hcond
    simp [Transport.UsesSlot, hppid]

end Messages

end Noting

/-! ## Section 2: Notifications -/

theorem raiseBufferedAmountLowEvent_orderly {answers : Answers} {s₀ : Transport} {a : Call}
    {fs : List (Call × Op)} (c : ChannelId) :
    Orderly answers s₀ a fs (raiseBufferedAmountLowEvent c) := by
  apply orderly_get_bind
  intro t
  exact Routine.Guarded.ite (callHandler_orderly _) (Routine.guarded_pure _)

theorem handleSenderDryEvent_orderly {answers : Answers} {s₀ : Transport} {a : Call}
    {fs : List (Call × Op)} :
    Orderly answers s₀ a fs handleSenderDryEvent := by
  have hreset : ∀ c, Orderly answers s₀ a fs (resetOutgoingStream c) := by
    intro c
    rw [← Noting.unmarked_resetOutgoingStream]
    exact orderly_of_runs fun s hs => Noting.resetOutgoingStream_runs hs False.elim
  -- a slot is served by way of the channel in it
  have hserve : ∀ i, Orderly answers s₀ a fs (serveSlot i) := by
    intro i
    apply orderly_get_bind
    intro t
    cases t.channels i with
    | none => exact Routine.guarded_pure _
    | some c =>
      apply Routine.Guarded.ite _ (raiseBufferedAmountLowEvent_orderly c)
      apply (hreset c).bind
      intro _
      exact modifyContext_orderly c fun _ => rfl
  -- what the surroundings do between two slots does not matter
  have hloop : ∀ stop fuel i, Orderly answers s₀ a fs (senderDryLoop stop fuel i) := by
    intro stop fuel
    induction fuel with
    | zero => exact fun i => Routine.guarded_pure _
    | succ fuel ih =>
      intro i
      apply (hserve i).bind
      intro _
      apply orderly_get_bind
      intro t
      apply Routine.Guarded.ite (Routine.guarded_pure _)
      exact Routine.Guarded.ite (ih _) (Routine.guarded_pure _)
  have hlow : Orderly answers s₀ a fs
      (modify fun t => { t with flags := { t.flags with bufferedAmountLow := true } } : M Unit) :=
    orderly_modify fun _ => .of_eq rfl rfl rfl rfl
  have hnext : ∀ i, Orderly answers s₀ a fs (modify ({ · with currentChannelSid := i }) : M Unit) :=
    fun _ => orderly_modify fun _ => .of_eq rfl rfl rfl rfl
  apply orderly_get_bind
  intro t
  apply Routine.Guarded.ite (Routine.guarded_pure _)
  apply hlow.bind
  intro _
  exact (hloop _ _ _).bind hnext

namespace Noting

section Notifications

variable {answers : Answers} {s₀ s : Transport} {cond : Prop} {a : Call} {fs : List (Call × Op)}
  {c : ChannelId}

theorem handlePartialDeliveryEvent_runs (hs : Tracked s₀ s) (pdapiStream : Nat) :
    Runs answers s₀ cond a fs s (handlePartialDeliveryEvent pdapiStream) (Goes s₀ s) := by
  apply runs_get_bind
  apply Runs.ite fun _ => runs_pure (goes_refl hs)
  intro hchecked
  apply runs_note_bind (.slot pdapiStream)
  · exact fun _ => Nat.not_le.mp fun hle => hchecked (.inr hle)
  · exact (handlePartialDeliveryEvent_orderly pdapiStream).runs hs

theorem closeIfBothReset_runs (hs : Tracked s₀ s) (hheld : Held c s) :
    Runs answers s₀ cond a fs s (closeIfBothReset c) (Goes s₀ s) := by
  apply runs_get_bind
  apply Runs.ite
  · intro _
    apply ((dataChannelSetState_orderly c .closed).runs hs).seq
    intro _ s₁ hs₁ hf₁
    apply runs_get_bind
    apply runs_note_bind (.slot _) fun _ => (hheld.follows hs.known hf₁).sid_lt
    exact (clearSlot_orderly _ c).runs hs₁
  · exact fun _ => runs_pure (goes_refl hs)

theorem handleIncomingStreamReset_runs (hs : Tracked s₀ s) (hheld : Held c s) :
    Runs answers s₀ cond a fs s (handleIncomingStreamReset c) (Goes s₀ s) := by
  have hflag := fun s' : Transport => Steady.modifyChannel s' c
    (fun ch => { ch with flags := { ch.flags with incomingStreamReset := true } }) fun _ => rfl
  apply (runs_modify hs (hflag s)).seq
  intro _ s₁ hs₁ hf₁
  apply runs_get_bind
  apply Runs.ite
  · intro _
    apply (resetOutgoingStream_runs hs₁ fun _ => hheld.follows hs.known hf₁).seq
    intro error s₂ hs₂ _
    apply Runs.ite fun _ => runs_pure (goes_refl hs₂)
    intro _
    apply ((dataChannelSetState_orderly c .closing).runs hs₂).seq
    exact fun _ s₃ hs₃ _ => runs_pure (goes_refl hs₃)
  · exact fun _ => runs_pure (goes_refl hs₁)

/-- The stream id is checked. The channel in the slot knows it, and keeps it. -/
theorem handleStreamReset_runs (hs : Tracked s₀ s) (event : StreamResetEvent) (sid : Nat) :
    Runs answers s₀ cond a fs s (handleStreamReset event sid) (Goes s₀ s) := by
  apply runs_get_bind
  apply Runs.ite fun _ => runs_pure (goes_refl hs)
  intro hchecked
  -- the id has been compared with the number of slots
  have hlt : sid < s.nChannels := Nat.not_le.mp hchecked
  apply runs_note_bind (.slot sid) fun _ => hlt
  cases hslot : s.channels sid with
  | none => exact runs_pure (goes_refl hs)
  | some c =>
    have hheld : Held c s := ⟨sid, hs.known.slot hslot, hlt⟩
    have hflag := fun s' : Transport => Steady.modifyChannel s' c
      (fun ch => { ch with flags := { ch.flags with outgoingStreamReset := true } }) fun _ => rfl
    -- the channel still knows its slot, whatever its handlers have done
    have hrest : ∀ (closed : Bool) s₁, Tracked s₀ s₁ → Held c s₁ → Runs answers s₀ cond a fs s₁ (do
        if closed then
          return ()
        else
          if event.outgoingSsn then
            modify (·.modifyChannel c fun ch =>
              { ch with flags := { ch.flags with outgoingStreamReset := true } })
          closeIfBothReset c) (Goes s₀ s₁) := by
      intro closed s₁ hs₁ hheld₁
      apply Runs.ite fun _ => runs_pure (goes_refl hs₁)
      intro _
      apply Runs.ite
      · intro _
        apply (runs_modify hs₁ (hflag s₁)).seq
        exact fun _ s₂ hs₂ hf₂ => closeIfBothReset_runs hs₂ (hheld₁.follows hs₁.known hf₂)
      · exact fun _ => closeIfBothReset_runs hs₁ hheld₁
    apply Runs.ite
    · intro _
      apply (handleIncomingStreamReset_runs hs hheld).seq
      exact fun closed s₁ hs₁ hf₁ => hrest closed s₁ hs₁ (hheld.follows hs.known hf₁)
    · exact fun _ => hrest false s hs hheld

theorem handleStreamResets_runs (hs : Tracked s₀ s) (event : StreamResetEvent) (sids : List Nat) :
    Runs answers s₀ cond a fs s (handleStreamResets event sids) (Goes s₀ s) := by
  induction sids generalizing s with
  | nil => exact runs_pure (goes_refl hs)
  | cons sid sids ih =>
    apply (handleStreamReset_runs hs event sid).seq
    exact fun _ s₁ hs₁ _ => ih hs₁

end Notifications

end Noting

/-! ## Section 3: Whatever is received -/

/-- What has to hold of a notification for its handler to stay within bounds. -/
def Transport.Withstands (t : Transport) (snLength end_ : Nat) : Notification → Prop
  | .streamReset event =>
    (Use.streamList snLength end_ event.strresetStreamList.length).InBounds t
  | _ => True

/-- What has to hold of anything that is received. -/
def Transport.Tolerates (t : Transport) (answers : Answers) : Received → Prop
  | .error _ => True
  | .notification snLength end_ notification =>
    snLength = end_ → t.Withstands snLength end_ notification
  | .data bytes info eor => t.state = .connected →
    ∀ info' ∈ info, ∀ sid, t.UsesSlot answers { data := bytes } info' eor sid → sid < t.nChannels

namespace Noting

section Received

variable [MessageBuffer] {answers : Answers} {s₀ s : Transport} {cond : Prop} {a : Call}
  {fs : List (Call × Op)}

theorem handleNotification_runs (hs : Tracked s₀ s) {snLength end_ : Nat}
    {notification : Notification}
    (hlist : cond → snLength = end_ → s.Withstands snLength end_ notification) :
    Runs answers s₀ cond a fs s (handleNotification snLength end_ notification) (Goes s₀ s) := by
  apply Runs.ite fun _ => runs_pure (goes_refl hs)
  intro hlength
  cases notification with
  | assocChange state => exact (handleAssociationChangeEvent_orderly state).runs hs
  | partialDelivery pdapiStream => exact handlePartialDeliveryEvent_runs hs pdapiStream
  | senderDry => exact handleSenderDryEvent_orderly.runs hs
  | streamReset event =>
    apply runs_note_bind (.streamList _ _ _) fun hcond => hlist hcond (not_not.mp hlength)
    apply Runs.ite fun _ => runs_pure (goes_refl hs)
    exact fun _ => handleStreamResets_runs hs event _
  | sendFailed | shutdown | streamChange | other => exact runs_pure (goes_refl hs)

/-- **Everything that is received is handled in order**, and within bounds if a message has a
    stream id of a slot and a notification holds its header. -/
theorem readEventHandler_runs (hs : Tracked s₀ s) {received : Received}
    (hreceived : cond → s.flags.detached = false → s.Tolerates answers received) :
    Runs answers s₀ cond a fs s (readEventHandler received) (Goes s₀ s) := by
  have halloc : alloc.Within Op.IsSystem (· = ·) := alloc_within
  apply runs_get_bind
  apply Runs.ite fun _ => runs_pure (goes_refl hs)
  intro hattached
  apply (Within.runs (halloc s)).bind
  rintro ok s' rfl
  apply Runs.ite _ fun _ => runs_pure (goes_refl hs)
  intro _
  -- the condition is needed only if the event is handled
  have hreceived' := fun hcond => hreceived hcond (Bool.eq_false_of_not_eq_true hattached)
  cases received with
  | error wouldBlock => exact runs_pure (goes_refl hs)
  | notification snLength end_ notification =>
    apply (handleNotification_runs hs hreceived').seq
    exact fun _ s₁ hs₁ _ => runs_pure (goes_refl hs₁)
  | data bytes info eor =>
    apply runs_get_bind
    apply Runs.ite fun _ => runs_pure (goes_refl hs)
    intro hconnected
    cases info with
    | none => exact runs_pure (goes_refl hs)
    | some info =>
      apply (dataReceiveHandler_runs hs _ fun hcond =>
        hreceived' hcond (not_not.mp hconnected) info rfl).seq
      exact fun _ s₁ hs₁ _ => runs_pure (goes_refl hs₁)

end Received

end Noting

end RawrtcDataChannel
