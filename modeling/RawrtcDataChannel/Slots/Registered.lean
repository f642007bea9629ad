import RawrtcDataChannel.Closing.Routines
import RawrtcDataChannel.Slots.Uses

/-!
# Registered channels know their slots

Whatever the application does, a channel that is in a slot has a context with the stream id of
this slot, and the stream id of a channel that exists is not changed by anybody but the routine
that has created the channel. Nothing is assumed about when the library is used, other than that
system functions do not use it.
-/

namespace RawrtcDataChannel

open Reentrant

/-! ## Section 1: Stream ids -/

/-- The stream id in the context of a channel, if it has a context. -/
def Transport.streamId (t : Transport) (c : ChannelId) : Option Nat :=
  (t.dataChannels c).transportArg.map Context.sid

theorem Transport.sid_of_streamId {t : Transport} {c : ChannelId} {i : Nat}
    (h : t.streamId c = some i) : (t.context c).sid = i := by
  obtain ⟨context, hcontext, hsid⟩ := Option.map_eq_some_iff.mp h
  simpa [Transport.context, hcontext] using hsid

/-- Channels in slots know their slots, and channels that do not exist are in none. -/
structure SidsKnown (t : Transport) : Prop where
  slot : ∀ ⦃i c⦄, t.channels i = some c → t.streamId c = some i
  new : ∀ ⦃c⦄, t.nextChannel ≤ c → t.streamId c = none

theorem SidsKnown.exists_of_streamId {t : Transport} (h : SidsKnown t) {c : ChannelId} {i : Nat}
    (hc : t.streamId c = some i) : c < t.nextChannel := by
  by_contra hnew
  rw [h.new (Nat.not_lt.mp hnew)] at hc
  cases hc

/-- Slots have been emptied at most, and the stream ids are what they were. -/
structure Steady (s s' : Transport) : Prop where
  nChannels : s'.nChannels = s.nChannels
  nextChannel : s'.nextChannel = s.nextChannel
  streamId : ∀ c, s'.streamId c = s.streamId c
  slots : ∀ i, s'.channels i = s.channels i ∨ s'.channels i = none

/-- The stream ids of all channels that existed are what they were, but for those in `own`. -/
structure FollowsBut (own : ChannelId → Prop) (s s' : Transport) : Prop where
  nChannels : s'.nChannels = s.nChannels
  nextChannel : s.nextChannel ≤ s'.nextChannel
  streamId : ∀ c, c < s.nextChannel → ¬ own c → s'.streamId c = s.streamId c

/-- What everybody may rely on. -/
abbrev Follows : Transport → Transport → Prop :=
  FollowsBut fun _ => False

instance : IsPreorder Transport Steady where
  refl _ := ⟨rfl, rfl, fun _ => rfl, fun _ => .inl rfl⟩
  trans _ _ _ h h' := by
    refine ⟨h'.nChannels.trans h.nChannels, h'.nextChannel.trans h.nextChannel,
      fun c => (h'.streamId c).trans (h.streamId c), ?_⟩
    intro i
    rcases h'.slots i with hsame | hnone
    · rcases h.slots i with hsame' | hnone'
      · exact .inl (hsame.trans hsame')
      · exact .inr (hsame.trans hnone')
    · exact .inr hnone

instance (own : ChannelId → Prop) : IsPreorder Transport (FollowsBut own) where
  refl _ := ⟨rfl, le_refl _, fun _ _ _ => rfl⟩
  trans _ _ _ h h' := ⟨h'.nChannels.trans h.nChannels, h.nextChannel.trans h'.nextChannel,
    fun c hc hown => (h'.streamId c (hc.trans_le h.nextChannel) hown).trans (h.streamId c hc hown)⟩

theorem FollowsBut.mono {own own' : ChannelId → Prop} {s s' : Transport}
    (h : FollowsBut own s s') (hown : ∀ c, c < s.nextChannel → own c → own' c) :
    FollowsBut own' s s' :=
  ⟨h.nChannels, h.nextChannel, fun c hc hc' => h.streamId c hc fun ho => hc' (hown c hc ho)⟩

theorem Follows.but {own : ChannelId → Prop} {s s' : Transport} (h : Follows s s') :
    FollowsBut own s s' :=
  h.mono fun _ _ hfalse => hfalse.elim

theorem Steady.follows {s s' : Transport} (h : Steady s s') : Follows s s' :=
  ⟨h.nChannels, h.nextChannel.ge, fun c _ _ => h.streamId c⟩

theorem SidsKnown.steady {s s' : Transport} (hs : SidsKnown s) (h : Steady s s') :
    SidsKnown s' where
  slot := by
    intro i c hslot
    rcases h.slots i with hsame | hnone
    · rw [h.streamId]
      exact hs.slot (hsame.symm.trans hslot)
    · rw [hnone] at hslot
      cases hslot
  new := by
    intro c hc
    rw [h.streamId]
    exact hs.new (h.nextChannel ▸ hc)

/-! ## Section 2: Steady changes -/

theorem Steady.of_eq {s s' : Transport} (hchannels : s'.channels = s.channels)
    (hdata : s'.dataChannels = s.dataChannels) (hn : s'.nChannels = s.nChannels)
    (hnext : s'.nextChannel = s.nextChannel) : Steady s s' :=
  ⟨hn, hnext, fun c => by rw [Transport.streamId, Transport.streamId, hdata],
    fun i => .inl (congrFun hchannels i)⟩

theorem Steady.log (s : Transport) (e : Event) : Steady s (s.log e) :=
  .of_eq rfl rfl rfl rfl

theorem Steady.of_sendsOnly {s s' : Transport} (h : SendsOnly s s') : Steady s s' := by
  obtain ⟨low, queue, es, rfl, -⟩ := h
  exact .of_eq rfl rfl rfl rfl

instance : SendFrame Steady where
  sends _ _ := Steady.of_sendsOnly
  log s _ _ := Steady.log s _

/-- Changes of a channel that keep the stream id. -/
theorem Steady.modifyChannel (s : Transport) (c : ChannelId) (f : DataChannel → DataChannel)
    (hf : ∀ ch, (f ch).transportArg.map Context.sid = ch.transportArg.map Context.sid) :
    Steady s (s.modifyChannel c f) := by
  refine ⟨rfl, rfl, ?_, fun _ => .inl rfl⟩
  intro c'
  by_cases hc : c' = c
  · subst hc
    simpa [Transport.streamId, Transport.modifyChannel] using hf _
  · simp [Transport.streamId, Transport.modifyChannel, hc]

/-- Changes of a context that keep the stream id. -/
theorem Steady.modifyContext (s : Transport) (c : ChannelId) (f : Context → Context)
    (hf : ∀ x, (f x).sid = x.sid) : Steady s (s.modifyContext c f) := by
  apply Steady.modifyChannel
  intro ch
  cases hx : ch.transportArg with
  | none => rfl
  | some x => simp [hf x]

theorem Steady.clearSlot (s : Transport) (i : Nat) : Steady s (s.setSlot i none) := by
  refine ⟨rfl, rfl, fun _ => rfl, ?_⟩
  intro j
  by_cases hj : j = i
  · subst hj
    exact .inr (by simp [Transport.setSlot])
  · exact .inl (by simp [Transport.setSlot, hj])

/-! ## Section 3: The contract -/

/-- The slots are in order, and nothing that existed in `s₀` has another stream id. -/
structure Tracked (s₀ s : Transport) : Prop where
  known : SidsKnown s
  follows : Follows s₀ s

theorem Tracked.steady {s₀ s s' : Transport} (hs : Tracked s₀ s) (h : Steady s s') :
    Tracked s₀ s' :=
  ⟨hs.known.steady h, trans_of Follows hs.follows h.follows⟩

/-- Handlers may do whatever keeps the slots in order. System functions do not use the library. -/
def keepingSids (answers : Answers) (s₀ : Transport) : Contract Call Op Op.Reply Transport where
  inv fs s := ApplicationsTurn fs → Tracked s₀ s
  since _ _ _ := True
  rely
    | [], s, s' => Follows s s'
    | (_, o) :: _, s, s' => if o.isHandler then Follows s s' else s' = s
  answers := answers

theorem keepingSids_trusts (answers : Answers) (s₀ : Transport) :
    (keepingSids answers s₀).Trusts Op.IsSystem where
  inv o ho a fs s hturn := by
    have htrue := hturn (a, o) rfl
    rw [ho] at htrue
    cases htrue
  since _ _ _ _ := trivial
  rely o ho a fs s s' h := by
    have hsystem : o.isHandler = false := ho
    simpa only [keepingSids, hsystem, Bool.false_eq_true, if_false] using h

/-- The routine keeps the slots in order, and others may rely on what it does. -/
abbrev Orderly {α : Type} (answers : Answers) (s₀ : Transport) (a : Call) (fs : List (Call × Op))
    (m : M α) : Prop :=
  m.Guarded (keepingSids answers s₀) a fs (Tracked s₀) Follows

variable {answers : Answers} {s₀ s s' : Transport} {a : Call} {fs : List (Call × Op)} {c : ChannelId}
  {α : Type}

theorem orderly_of_within {m : M α} (h : m.Within Op.IsSystem Steady) : Orderly answers s₀ a fs m :=
  h.guarded (keepingSids_trusts answers s₀) fun _ _ hs hsteady =>
    ⟨hs.steady hsteady, hsteady.follows⟩

theorem orderly_modify {f : Transport → Transport} (hf : ∀ s, Steady s (f s)) :
    Orderly answers s₀ a fs (modify f : M Unit) :=
  orderly_of_within (Routine.within_modify hf)

theorem orderly_get_bind {f : Transport → M α} (hf : ∀ t, Orderly answers s₀ a fs (f t)) :
    Orderly answers s₀ a fs (get >>= f) :=
  Routine.guarded_get.bind hf

/-! ## Section 4: Routines that call handlers -/

theorem callHandler_orderly (h : Handler) : Orderly answers s₀ a fs (callHandler h) := by
  intro s₁ s hs
  have hlogged := hs.steady (Steady.log s (.handler h))
  refine ⟨⟨fun _ => hlogged, trivial⟩, ?_⟩
  intro _ s' hs' hfollows _
  have hfollows' : Follows (s.log (.handler h)) s' := hfollows
  exact ⟨hs' fun f hf => by cases hf; rfl, trans_of Follows (Steady.log s _).follows hfollows'⟩

theorem logEvent_orderly (e : Event) : Orderly answers s₀ a fs (logEvent e) :=
  orderly_modify fun s => Steady.log s e

theorem modifyChannel_orderly (c : ChannelId) {f : DataChannel → DataChannel}
    (hf : ∀ ch, (f ch).transportArg = ch.transportArg) :
    Orderly answers s₀ a fs (modify (·.modifyChannel c f) : M Unit) :=
  orderly_modify fun s => Steady.modifyChannel s c f fun ch => by rw [hf]

theorem modifyContext_orderly (c : ChannelId) {f : Context → Context}
    (hf : ∀ x, (f x).sid = x.sid) :
    Orderly answers s₀ a fs (modify (·.modifyContext c f) : M Unit) :=
  orderly_modify fun s => Steady.modifyContext s c f hf

theorem dataChannelSetState_orderly (c : ChannelId) (state : DataChannelState) :
    Orderly answers s₀ a fs (dataChannelSetState c state) := by
  have hstate : Orderly answers s₀ a fs
      (modify (·.modifyChannel c ({ · with state := state })) : M Unit) :=
    modifyChannel_orderly c fun _ => rfl
  apply hstate.bind
  intro _
  apply (logEvent_orderly _).bind
  intro _
  apply orderly_get_bind
  intro t
  cases state with
  | opened | closed => exact Routine.Guarded.ite (callHandler_orderly _) (Routine.guarded_pure _)
  | connecting | closing => exact Routine.guarded_pure _

theorem clearSlot_orderly (i : Nat) (c : ChannelId) : Orderly answers s₀ a fs (clearSlot i c) := by
  apply (orderly_modify fun s => Steady.clearSlot s i).bind
  intro _
  exact logEvent_orderly _

theorem setDataChannelStatesFrom_orderly (toState : DataChannelState)
    (fromState : Option DataChannelState) (i left : Nat) :
    Orderly answers s₀ a fs (setDataChannelStatesFrom toState fromState i left) := by
  induction left generalizing i with
  | zero => exact Routine.guarded_pure _
  | succ left ih =>
    apply orderly_get_bind
    intro t
    cases t.channels i with
    | none => exact ih (i + 1)
    | some c =>
      apply Routine.Guarded.ite _ (ih (i + 1))
      exact (dataChannelSetState_orderly c toState).bind fun _ => ih (i + 1)

theorem closeDataChannelsFrom_orderly (i left : Nat) :
    Orderly answers s₀ a fs (closeDataChannelsFrom i left) := by
  induction left generalizing i with
  | zero => exact Routine.guarded_pure _
  | succ left ih =>
    apply orderly_get_bind
    intro t
    cases t.channels i with
    | none => exact ih (i + 1)
    | some c =>
      apply (dataChannelSetState_orderly c .closed).bind
      intro _
      exact (clearSlot_orderly i c).bind fun _ => ih (i + 1)

theorem closeTransport_orderly : Orderly answers s₀ a fs closeTransport := by
  have hchannels : Orderly answers s₀ a fs closeDataChannels :=
    orderly_get_bind fun t => closeDataChannelsFrom_orderly 0 t.nChannels
  have hdetach : Orderly answers s₀ a fs detachTransport := by
    have hflag : Orderly answers s₀ a fs (modify Transport.detach : M Unit) :=
      orderly_modify fun s => Steady.of_eq rfl rfl rfl rfl
    apply hflag.bind
    intro _
    apply orderly_get_bind
    intro t
    exact Routine.Guarded.ite (callHandler_orderly _) (Routine.guarded_pure _)
  have hsocket : Orderly answers s₀ a fs closeSocket := by
    apply orderly_get_bind
    intro t
    apply Routine.Guarded.ite _ (Routine.guarded_pure _)
    apply (logEvent_orderly _).bind
    intro _
    exact orderly_modify fun s => Steady.of_eq rfl rfl rfl rfl
  have htrace : Orderly answers s₀ a fs closeTraceFile := by
    apply orderly_get_bind
    intro t
    exact Routine.Guarded.ite (logEvent_orderly _) (Routine.guarded_pure _)
  apply hchannels.bind
  intro _
  apply hdetach.bind
  intro _
  exact hsocket.bind fun _ => htrace

section SetState

variable [MessageBuffer]

theorem setState_orderly (state : TransportState) : Orderly answers s₀ a fs (setState state) := by
  have hsend : sctpSendDeferredMessages.Within Op.IsSystem Steady :=
    within_of_sendsOnly sctpSendDeferredMessages_within
  have hreport : Orderly answers s₀ a fs (do
      let t ← get
      if t.stateChangeHandler then
        callHandler (.stateChangeHandler state) : M Unit) := by
    apply orderly_get_bind
    intro t
    exact Routine.Guarded.ite (callHandler_orderly _) (Routine.guarded_pure _)
  have hrest : Orderly answers s₀ a fs (do
      modify (·.setState state)
      logEvent (.transportState state)
      if state = .connected then
        let _ ← sctpSendDeferredMessages
        setDataChannelStates .opened (some .connecting)
      let t ← get
      if t.stateChangeHandler then
        callHandler (.stateChangeHandler state) : M Unit) := by
    have hstate : Orderly answers s₀ a fs (modify (·.setState state) : M Unit) :=
      orderly_modify fun s => Steady.of_eq rfl rfl rfl rfl
    apply hstate.bind
    intro _
    apply (logEvent_orderly _).bind
    intro _
    apply Routine.Guarded.ite _ hreport
    apply (orderly_of_within hsend).bind
    intro _
    apply Routine.Guarded.bind _ fun _ => hreport
    -- the loop runs over slots below the number of slots
    exact orderly_get_bind fun t => setDataChannelStatesFrom_orderly _ _ 0 t.nChannels
  exact Routine.Guarded.ite (closeTransport_orderly.bind fun _ => hrest) hrest

/-! ## Section 5: The interface -/

theorem sctpTransportStart_orderly (maxMessageSize : Nat) :
    Orderly answers s₀ a fs (sctpTransportStart maxMessageSize) := by
  have hsize : Orderly answers s₀ a fs
      (modify (Transport.setRemoteMaximumMessageSize maxMessageSize) : M Unit) :=
    orderly_modify fun s => Steady.of_eq rfl rfl rfl rfl
  have hconnect : Orderly answers s₀ a fs usrsctpConnect :=
    orderly_of_within (system_within (o := .connect) rfl)
  have hstarted : Orderly answers s₀ a fs (do
      setState .connecting
      let error ← sctpTransportSetMtu defaultMtu
      if error ≠ .success then
        setState .closed
      return error : M Code) := by
    apply (setState_orderly _).bind
    intro _
    apply (orderly_of_within (sctpTransportSetMtu_within _)).bind
    intro error
    apply Routine.Guarded.ite _ (Routine.guarded_pure _)
    exact (setState_orderly _).bind fun _ => Routine.guarded_pure _
  apply orderly_get_bind
  intro t
  apply Routine.Guarded.ite (Routine.guarded_pure _)
  apply hsize.bind
  intro _
  apply hconnect.bind
  intro result
  cases result with
  | success => exact hstarted
  | inProgress => exact hstarted
  | error reason => exact (setState_orderly _).bind fun _ => Routine.guarded_pure _

theorem sctpTransportStop_orderly : Orderly answers s₀ a fs sctpTransportStop := by
  apply orderly_get_bind
  intro t
  apply Routine.Guarded.ite (Routine.guarded_pure _)
  exact (setState_orderly _).bind fun _ => Routine.guarded_pure _

theorem sctpTransportDestroy_orderly : Orderly answers s₀ a fs sctpTransportDestroy := by
  apply sctpTransportStop_orderly.bind
  intro _
  apply orderly_get_bind
  intro t
  exact Routine.Guarded.ite (callHandler_orderly _) (Routine.guarded_pure _)

theorem dataChannelSend_orderly (c : ChannelId) (buffer : Option Mbuf) (isBinary : Bool) :
    Orderly answers s₀ a fs (dataChannelSend c buffer isBinary) := by
  have hsend : ∀ context message ppid,
      Orderly answers s₀ a fs (sendMessage (some c) context message ppid) :=
    fun context message ppid => orderly_of_within (sendMessage_within _ _ _ _)
  have hhandler : Orderly answers s₀ a fs (channelSendHandler c buffer isBinary) := by
    apply orderly_get_bind
    intro t
    apply Routine.Guarded.ite
    · apply (orderly_of_within alloc_within).bind
      intro ok
      exact Routine.Guarded.ite (hsend _ _ _) (Routine.guarded_pure _)
    · exact Routine.Guarded.ite (Routine.guarded_pure _) (hsend _ _ _)
  apply orderly_get_bind
  intro t
  apply Routine.Guarded.ite (Routine.guarded_pure _)
  apply hhandler.bind
  intro error
  apply Routine.Guarded.ite _ (Routine.guarded_pure _)
  exact (logEvent_orderly _).bind fun _ => Routine.guarded_pure _

theorem writeEventHandler_orderly : Orderly answers s₀ a fs writeEventHandler := by
  have hsending : ∀ on : Bool, Orderly answers s₀ a fs
      (modify fun t => { t with flags := { t.flags with sendingInProgress := on } } : M Unit) :=
    fun on => orderly_modify fun s => Steady.of_eq rfl rfl rfl rfl
  have hsend : sctpSendDeferredMessages.Within Op.IsSystem Steady :=
    within_of_sendsOnly sctpSendDeferredMessages_within
  apply orderly_get_bind
  intro t
  apply Routine.Guarded.ite (Routine.guarded_pure _)
  apply Routine.Guarded.ite (Routine.guarded_pure _)
  apply (hsending true).bind
  intro _
  apply (orderly_of_within hsend).bind
  intro _
  exact (hsending false).bind fun _ => Routine.guarded_pure _

theorem handleAssociationChangeEvent_orderly (sacState : AssociationState) :
    Orderly answers s₀ a fs (handleAssociationChangeEvent sacState) := by
  apply orderly_get_bind
  intro t
  cases sacState with
  | commUp => exact Routine.Guarded.ite (setState_orderly _) (Routine.guarded_pure _)
  | cantStrAssoc | shutdownComp | commLost =>
    exact Routine.Guarded.ite (setState_orderly _) (Routine.guarded_pure _)
  | restart | other => exact Routine.guarded_pure _

end SetState

theorem dataChannelSetHandler_orderly (c : ChannelId)
    (f : DataChannelHandlers → DataChannelHandlers) :
    Orderly answers s₀ a fs (dataChannelSetHandler c f) := by
  have hmodify : Orderly answers s₀ a fs
      (modify (·.modifyChannel c fun ch => { ch with handlers := f ch.handlers }) : M Unit) :=
    modifyChannel_orderly c fun _ => rfl
  exact hmodify.bind fun _ => Routine.guarded_pure _

theorem dataChannelSetStreaming_orderly (c : ChannelId) (on : Bool) :
    Orderly answers s₀ a fs (dataChannelSetStreaming c on) := by
  have hset : Orderly answers s₀ a fs (modify (·.modifyChannel c fun ch =>
      { ch with flags := { ch.flags with streamed := on } }) : M Unit) :=
    modifyChannel_orderly c fun _ => rfl
  have hhandler : Orderly answers s₀ a fs (channelSetStreamingHandler c) := by
    apply orderly_get_bind
    intro t
    exact Routine.Guarded.ite (Routine.guarded_pure _) (Routine.guarded_pure _)
  apply orderly_get_bind
  intro t
  apply Routine.Guarded.ite (Routine.guarded_pure _)
  apply Routine.Guarded.ite (Routine.guarded_pure _)
  apply hhandler.bind
  intro error
  apply Routine.Guarded.ite _ (Routine.guarded_pure _)
  exact hset.bind fun _ => Routine.guarded_pure _

/-! ## Section 6: Messages -/

theorem passMessageToHandler_orderly (c : ChannelId) (buffer : Mbuf) (ppid : Nat)
    (isComplete : Bool) :
    Orderly answers s₀ a fs (passMessageToHandler c buffer ppid isComplete) := by
  have hrelease : Orderly answers s₀ a fs
      (modify (·.modifyContext c Context.releaseInbound) : M Unit) :=
    modifyContext_orderly c fun _ => rfl
  apply orderly_get_bind
  intro t
  cases messageFlagsOfPpid ppid isComplete with
  | none => exact hrelease
  | some flags =>
    apply Routine.Guarded.ite _ hrelease
    exact (callHandler_orderly _).bind fun _ => hrelease

theorem handleApplicationMessage_orderly (buffer : Mbuf) (info : RcvInfo) (eor : Bool) :
    Orderly answers s₀ a fs (handleApplicationMessage buffer info eor) := by
  have hstore : ∀ c bufferInbound pending, Orderly answers s₀ a fs
      (modify (·.modifyContext c (Context.storeInbound bufferInbound pending)) : M Unit) :=
    fun c _ _ => modifyContext_orderly c fun _ => rfl
  have hrelease : ∀ c, Orderly answers s₀ a fs
      (modify (·.modifyContext c Context.releaseInbound) : M Unit) :=
    fun c => modifyContext_orderly c fun _ => rfl
  apply orderly_get_bind
  intro t
  cases t.channels info.rcvSid with
  | none => exact Routine.guarded_pure _
  | some c =>
    have hallow : Orderly answers s₀ a fs
        (modify (·.modifyContext c Context.allowUnordered) : M Unit) :=
      modifyContext_orderly c fun _ => rfl
    -- what follows only changes the context of the channel and calls its handler
    apply hallow.bind
    intro _
    apply orderly_get_bind
    intro t
    apply Routine.Guarded.ite
    · apply Routine.Guarded.ite (hrelease c)
      exact (hstore c _ _).bind fun _ => passMessageToHandler_orderly _ _ _ _
    · apply Routine.Guarded.ite
      · apply (orderly_of_within (bufferMessageReceivedRaiseComplete_within _ _ _ _ _)).bind
        intro r
        obtain ⟨error, bufferInbound, infoInbound⟩ := r
        have hkeep : Orderly answers s₀ a fs
            (modify (·.modifyContext c (Context.keepInbound bufferInbound infoInbound)) : M Unit) :=
          modifyContext_orderly c fun _ => rfl
        apply hkeep.bind
        intro _
        split
        · exact (hstore c _ _).bind fun _ => passMessageToHandler_orderly _ _ _ _
        · exact hstore c _ _
        · exact hrelease c
      · exact (hstore c _ _).bind fun _ => passMessageToHandler_orderly _ _ _ _

theorem handleDataChannelAckMessage_orderly (info : RcvInfo) :
    Orderly answers s₀ a fs (handleDataChannelAckMessage info) := by
  apply orderly_get_bind
  intro t
  cases t.channels info.rcvSid with
  | none => exact Routine.guarded_pure _
  | some c =>
    apply Routine.Guarded.ite (Routine.guarded_pure _)
    exact modifyContext_orderly c fun _ => rfl

theorem handlePartialDeliveryEvent_orderly (pdapiStream : Nat) :
    Orderly answers s₀ a fs (handlePartialDeliveryEvent pdapiStream) := by
  apply orderly_get_bind
  intro t
  apply Routine.Guarded.ite (Routine.guarded_pure _)
  cases t.channels pdapiStream with
  | none => exact Routine.guarded_pure _
  | some c =>
    have hstore : Orderly answers s₀ a fs
        (modify (·.modifyContext c (Context.storeInbound none false)) : M Unit) :=
      modifyContext_orderly c fun _ => rfl
    apply hstore.bind
    intro _
    apply orderly_get_bind
    intro t
    exact Routine.Guarded.ite (callHandler_orderly _) (Routine.guarded_pure _)

end RawrtcDataChannel
